import ApiConsole.Console

/-!
# Traffic

Several fires may be under way at once. A fire whose outcome takes time is a flight: it is launched
when its request is sent and lands when its outcome is due. Launches happen in the order given;
landings happen in the order of their times, and of those at the same time in the order of launch.
-/

namespace ApiConsole

/-- A request that has been sent and whose outcome is still due. -/
structure Flight (α : Type) where
  tag : α
  request : Request
  outcome : Outcome
  due : Nat

structure Landing (α : Type) where
  tag : α
  time : Nat
  result : FireResult

/-- A console and the flights it waits for, in the order of launch. -/
structure Traffic (σ α : Type) where
  console : Console σ
  aloft : List (Flight α)

namespace Traffic

variable {σ α : Type}

def ofConsole (console : Console σ) : Traffic σ α :=
  ⟨console, []⟩

/-- Launches a fire, which lands at once if its endpoint is unknown or its outcome is there. -/
def launch (transport : Transport σ) (traffic : Traffic σ α) (tag : α) (id : String) :
    Traffic σ α × List (Landing α) :=
  match traffic.console.compose id with
  | .error error => (traffic, [⟨tag, traffic.console.now, .error error⟩])
  | .ok request =>
      let (console, reply) := traffic.console.send transport request
      match reply.delay with
      | none =>
          ({ traffic with console := console.resolve request reply.outcome },
            [⟨tag, console.now, .ok reply.outcome⟩])
      | some delay =>
          (⟨console, traffic.aloft ++ [⟨tag, request, reply.outcome, console.now + delay⟩]⟩, [])

def launchAll (transport : Transport σ) (traffic : Traffic σ α) :
    List (α × String) → Traffic σ α × List (Landing α)
  | [] => (traffic, [])
  | (tag, id) :: rest =>
      let (launched, landings) := traffic.launch transport tag id
      let (finished, others) := launched.launchAll transport rest
      (finished, landings ++ others)

def land (console : Console σ) : List (Flight α) → Console σ × List (Landing α)
  | [] => (console, [])
  | flight :: rest =>
      let arrived : Console σ := { console with now := max console.now flight.due }
      let (finished, landings) := land (arrived.resolve flight.request flight.outcome) rest
      (finished, ⟨flight.tag, arrived.now, .ok flight.outcome⟩ :: landings)

def inLandingOrder (flights : List (Flight α)) : List (Flight α) :=
  flights.mergeSort fun first second => first.due ≤ second.due

/-- Lets time pass, in which the flights that fall due land. -/
def pass (traffic : Traffic σ α) (delay : Nat) : Traffic σ α × List (Landing α) :=
  let limit := traffic.console.now + delay
  let (due, aloft) := traffic.aloft.partition fun flight => flight.due ≤ limit
  let (console, landings) := land traffic.console (inLandingOrder due)
  (⟨{ console with now := limit }, aloft⟩, landings)

def drain (traffic : Traffic σ α) : Console σ × List (Landing α) :=
  land traffic.console (inLandingOrder traffic.aloft)

end Traffic

namespace Console

variable {σ : Type}

/-- Fires endpoints all at once and waits for all outcomes, which come back in the order given. -/
def fireConcurrently (transport : Transport σ) (console : Console σ) (ids : List String) :
    Console σ × List FireResult :=
  let tagged := ids.zipIdx.map fun (id, place) => (place, id)
  let (traffic, first) := (Traffic.ofConsole console).launchAll transport tagged
  let (finished, second) := traffic.drain
  let inOrder := (first ++ second).mergeSort fun one other => one.tag ≤ other.tag
  (finished, inOrder.map Landing.result)

end Console

end ApiConsole
