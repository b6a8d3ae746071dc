import ApiConsole.Proofs.Events
import ApiConsole.Proofs.Extraction
import Mathlib.Data.List.Perm.Basic

/-!
# Runs of a console

A run is any finite sequence of operator edits, starts of fires and resolutions of fires that are
under way, in whatever order they come.  A start sends the request of an endpoint as the session is
at that moment; a resolution brings an outcome of its own, whatever the transport has in store.
What a run leaves is read off its steps alone: the session holds what was written last under each
name, and every request sent is accounted for as resolved or still under way.
-/

namespace ApiConsole

variable {σ : Type}

inductive Step where
  /-- The operator overwrites a session value. -/
  | set (name value : String)
  /-- A fire of an endpoint starts. -/
  | start (id : String)
  /-- One of the fires under way resolves; they are counted in the order in which they started. -/
  | resolve (place : Nat) (outcome : Outcome)

namespace Step

def started? : Step → Option String
  | .start id => some id
  | _ => none

def setting? : Step → Option (String × String)
  | .set name value => some (name, value)
  | _ => none

def outcome? : Step → Option Outcome
  | .resolve _ outcome => some outcome
  | _ => none

def launches (catalog : Catalog) : Step → Bool
  | .start id => (catalog.get id).isOk
  | _ => false

def change (watched : List WatchedField) (session : Session) : Step → Session
  | .set name value => session.set name value
  | .start _ => session
  | .resolve _ outcome => Watch.apply session (Watch.extracted watched outcome)

def write? (watched : List WatchedField) (name : String) : Step → Option String
  | .set other value => if other = name then some value else none
  | .start _ => none
  | .resolve _ outcome => Watch.written? watched name outcome

/-- What the last of some steps that writes under a name writes there. -/
def lastWrite? (watched : List WatchedField) (name : String) (steps : List Step) :
    Option String :=
  (steps.filterMap (write? watched name)).getLast?

/-- A step leaves under each name what it writes there, and what was there if it writes nothing. -/
theorem get?_change (watched : List WatchedField) (session : Session) (name : String)
    (step : Step) :
    (step.change watched session).get? name =
      (step.write? watched name).or (session.get? name) := by
  cases step with
  | set other value => exact Session.get?_set_or session other name value
  | start id => rfl
  | resolve place outcome => exact Watch.get?_apply_extracted watched session name outcome

/-- After any steps, each name holds what the last step that wrote it wrote. -/
theorem get?_foldl_change (watched : List WatchedField) (session : Session) (name : String)
    (steps : List Step) :
    (steps.foldl (change watched) session).get? name =
      (lastWrite? watched name steps).or (session.get? name) :=
  Session.get?_foldl (fun session => get?_change watched session name) session steps

end Step

structure Fire where
  id : String
  request : Request
  /-- What the transport has in store for the request. -/
  answer : Outcome

structure Run (σ : Type) where
  console : Console σ
  /-- The fires that have sent a request, in the order in which they did. -/
  launched : List Fire
  /-- Those of them that are under way. -/
  aloft : List Fire
  /-- Those of them that have resolved, each with the outcome that came in. -/
  landed : List (Fire × Outcome)

namespace Run

def begin (console : Console σ) : Run σ :=
  ⟨console, [], [], []⟩

def launch (transport : Transport σ) (run : Run σ) (id : String) (request : Request) : Run σ :=
  let (console, reply) := run.console.send transport request
  let fire : Fire := ⟨id, request, reply.outcome⟩
  { run with console, launched := run.launched ++ [fire], aloft := run.aloft ++ [fire] }

/-- Takes in the outcome of a fire that is under way at a place. -/
def land (run : Run σ) (place : Nat) (fire : Fire) (outcome : Outcome) : Run σ :=
  { run with
    console := run.console.resolve fire.request outcome
    aloft := run.aloft.eraseIdx place
    landed := run.landed ++ [(fire, outcome)] }

/-- Takes a step.  Only a resolution can be impossible, where no fire is under way at its place. -/
def step? (transport : Transport σ) (run : Run σ) : Step → Option (Run σ)
  | .set name value => some { run with console := run.console.set name value }
  | .start id =>
      match run.console.compose id with
      | .error _ => some run
      | .ok request => some (run.launch transport id request)
  | .resolve place outcome => run.aloft[place]?.map fun fire => run.land place fire outcome

/-- The steps lead from the first run to the last. -/
inductive Execution (transport : Transport σ) : List Step → Run σ → Run σ → Prop where
  | refl (run : Run σ) : Execution transport [] run run
  | next {step : Step} {steps : List Step} {first middle last : Run σ}
      (transition : first.step? transport step = some middle)
      (rest : Execution transport steps middle last) :
      Execution transport (step :: steps) first last

namespace Execution

variable {transport : Transport σ}

theorem single {step : Step} {first last : Run σ}
    (transition : first.step? transport step = some last) :
    Execution transport [step] first last :=
  .next transition (.refl last)

theorem trans {before after : List Step} {first middle last : Run σ}
    (left : Execution transport before first middle)
    (right : Execution transport after middle last) :
    Execution transport (before ++ after) first last := by
  induction left with
  | refl => exact right
  | next transition rest ih => exact .next transition (ih right)

/-- An execution passes through a run between any two parts of its steps. -/
theorem split {before after : List Step} {first last : Run σ}
    (execution : Execution transport (before ++ after) first last) :
    ∃ middle, Execution transport before first middle ∧
      Execution transport after middle last := by
  induction before generalizing first with
  | nil => exact ⟨first, .refl first, execution⟩
  | cons step before ih =>
      cases execution with
      | next transition rest =>
          obtain ⟨middle, left, right⟩ := ih rest
          exact ⟨middle, .next transition left, right⟩

end Execution

/-- Takes steps one after another, as far as that is possible. -/
def take? (transport : Transport σ) (run : Run σ) : List Step → Option (Run σ)
  | [] => some run
  | step :: rest => (run.step? transport step).bind fun next => next.take? transport rest

/-- Steps lead to one run at most, and taking them finds it. -/
theorem execution_iff_take? {transport : Transport σ} {steps : List Step} {first last : Run σ} :
    Execution transport steps first last ↔ first.take? transport steps = some last := by
  constructor
  · intro execution
    induction execution with
    | refl => rfl
    | next transition rest ih => rw [take?, transition, Option.bind_some, ih]
  · intro taken
    induction steps generalizing first with
    | nil =>
        cases taken
        exact .refl _
    | cons step rest ih =>
        obtain ⟨middle, transition, remaining⟩ := Option.bind_eq_some_iff.mp taken
        exact .next transition (ih remaining)

/-- All that a step can do. -/
theorem step?_cases {transport : Transport σ} {run next : Run σ} {step : Step}
    (transition : run.step? transport step = some next) :
    (∃ name value, step = .set name value ∧
      next = { run with console := run.console.set name value }) ∨
    (∃ id error, step = .start id ∧ run.console.catalog.get id = .error error ∧ next = run) ∨
    (∃ id endpoint, step = .start id ∧ run.console.catalog.get id = .ok endpoint ∧
      next = run.launch transport id (Request.compose endpoint run.console.session)) ∨
    (∃ place fire outcome, step = .resolve place outcome ∧ run.aloft[place]? = some fire ∧
      next = run.land place fire outcome) := by
  cases step with
  | set name value => exact .inl ⟨name, value, rfl, (Option.some.inj transition).symm⟩
  | start id =>
      simp only [step?, Console.compose] at transition
      cases known : run.console.catalog.get id with
      | error error =>
          rw [known] at transition
          exact .inr (.inl ⟨id, error, rfl, known, (Option.some.inj transition).symm⟩)
      | ok endpoint =>
          rw [known] at transition
          exact .inr (.inr (.inl ⟨id, endpoint, rfl, known, (Option.some.inj transition).symm⟩))
  | resolve place outcome =>
      simp only [step?] at transition
      cases found : run.aloft[place]? with
      | none => rw [found] at transition; cases transition
      | some fire =>
          rw [found] at transition
          exact .inr (.inr (.inr ⟨place, fire, outcome, rfl, found,
            (Option.some.inj transition).symm⟩))

/--
The books of a run: what the steps from a console onwards have made of it, in terms of the steps and
of the fires alone.
-/
structure Account (transport : Transport σ) (origin : Console σ) (steps : List Step)
    (run : Run σ) : Prop where
  catalog : run.console.catalog = origin.catalog
  watched : run.console.watched = origin.watched
  session : run.console.session = steps.foldl (Step.change origin.watched) origin.session
  sent : run.console.sent = origin.sent ++ run.launched.map Fire.request
  issued : transport.issueAll origin.wire (run.launched.map Fire.request) =
    (run.console.wire, run.launched.map Fire.answer)
  resolved : run.console.resolved =
    origin.resolved ++ run.landed.map fun (fire, outcome) => (fire.request, outcome)
  outcomes : steps.filterMap Step.outcome? = run.landed.map Prod.snd
  /-- Every fire that has sent a request has either resolved once or is still under way. -/
  balance : (run.landed.map Prod.fst ++ run.aloft).Perm run.launched
  ids : run.launched.map Fire.id =
    (steps.filterMap Step.started?).filter fun id => (origin.catalog.get id).isOk
  composed : ∀ fire ∈ run.launched, ∃ endpoint session,
    origin.catalog.get fire.id = .ok endpoint ∧ fire.request = Request.compose endpoint session

namespace Account

variable {transport : Transport σ} {origin : Console σ} {steps : List Step} {run : Run σ}

theorem refl (transport : Transport σ) (origin : Console σ) :
    Account transport origin [] (begin origin) where
  catalog := rfl
  watched := rfl
  session := rfl
  sent := (List.append_nil _).symm
  issued := rfl
  resolved := (List.append_nil _).symm
  outcomes := rfl
  balance := .nil
  ids := rfl
  composed fire member := by cases member

/-- An edit changes the session and nothing else that is booked. -/
theorem edit (account : Account transport origin steps run) (name value : String) :
    Account transport origin (steps ++ [.set name value])
      { run with console := run.console.set name value } where
  catalog := account.catalog
  watched := account.watched
  session := by
    rw [List.foldl_append, ← account.session]
    rfl
  sent := account.sent
  issued := account.issued
  resolved := account.resolved
  outcomes := by
    rw [List.filterMap_append, account.outcomes]
    exact List.append_nil _
  balance := account.balance
  ids := by
    rw [List.filterMap_append, account.ids]
    exact congrArg _ (List.append_nil _).symm
  composed := account.composed

/-- The start of a fire that no endpoint belongs to changes nothing. -/
theorem refuse (account : Account transport origin steps run) {id : String} {error : Error}
    (unknown : run.console.catalog.get id = .error error) :
    Account transport origin (steps ++ [.start id]) run where
  catalog := account.catalog
  watched := account.watched
  session := by
    rw [List.foldl_append, ← account.session]
    rfl
  sent := account.sent
  issued := account.issued
  resolved := account.resolved
  outcomes := by
    rw [List.filterMap_append, account.outcomes]
    exact List.append_nil _
  balance := account.balance
  ids := by
    rw [account.catalog] at unknown
    have left : [id].filter (fun id => (origin.catalog.get id).isOk) = [] := by
      simp [unknown, Except.isOk, Except.toBool]
    rw [List.filterMap_append, List.filter_append, account.ids]
    exact (congrArg (_ ++ ·) left).trans (List.append_nil _) |>.symm
  composed := account.composed

/-- The start of any other fire sends one request, composed of the session as it is. -/
theorem launch (account : Account transport origin steps run) {id : String} {endpoint : Endpoint}
    (known : run.console.catalog.get id = .ok endpoint) :
    Account transport origin (steps ++ [.start id])
      (run.launch transport id (Request.compose endpoint run.console.session)) where
  catalog := account.catalog
  watched := account.watched
  session := by
    rw [List.foldl_append, ← account.session]
    rfl
  sent := by
    simp only [Run.launch, Console.sent_send, account.sent, List.map_append, List.map_cons,
      List.map_nil, List.append_assoc]
  issued := by
    simp only [Run.launch, List.map_append, List.map_cons, List.map_nil,
      Transport.issueAll_append, account.issued]
    rfl
  resolved := by
    simp only [Run.launch, Console.resolved_send, account.resolved]
  outcomes := by
    rw [List.filterMap_append, account.outcomes]
    exact List.append_nil _
  balance := by
    simp only [Run.launch, ← List.append_assoc]
    exact account.balance.append_right _
  ids := by
    rw [account.catalog] at known
    have kept : [id].filter (fun id => (origin.catalog.get id).isOk) = [id] := by
      simp [known, Except.isOk, Except.toBool]
    rw [List.filterMap_append, List.filter_append, ← account.ids]
    change (run.launched ++ [_]).map Fire.id = _ ++ [id].filter _
    rw [kept, List.map_append]
    rfl
  composed fire member := by
    rcases List.mem_append.mp member with old | new
    · exact account.composed fire old
    · rw [List.mem_singleton.mp new]
      exact ⟨endpoint, run.console.session, account.catalog ▸ known, rfl⟩

/-- A resolution takes one fire from those under way to those that have landed. -/
theorem land (account : Account transport origin steps run) {place : Nat} {fire : Fire}
    (outcome : Outcome) (found : run.aloft[place]? = some fire) :
    Account transport origin (steps ++ [.resolve place outcome]) (run.land place fire outcome) where
  catalog := account.catalog
  watched := account.watched
  session := by
    rw [List.foldl_append, ← account.session, ← account.watched]
    rfl
  sent := by rw [Run.land, Console.sent_resolve, account.sent]
  issued := account.issued
  resolved := by
    simp only [Run.land, Console.resolved_resolve, account.resolved, List.map_append,
      List.map_cons, List.map_nil, List.append_assoc]
  outcomes := by
    rw [List.filterMap_append, account.outcomes]
    simp [Run.land, Step.outcome?]
  balance := by
    obtain ⟨bound, here⟩ := List.getElem?_eq_some_iff.mp found
    have taken : (fire :: run.aloft.eraseIdx place).Perm run.aloft :=
      here ▸ List.getElem_cons_eraseIdx_perm bound
    have joined := (taken.append_left (run.landed.map Prod.fst)).trans account.balance
    simpa [Run.land] using joined
  ids := by
    rw [List.filterMap_append, Run.land, account.ids]
    exact congrArg _ (List.append_nil _).symm
  composed := account.composed

/-- The books are kept from one step to the next. -/
theorem step (account : Account transport origin steps run) {step : Step} {next : Run σ}
    (transition : run.step? transport step = some next) :
    Account transport origin (steps ++ [step]) next := by
  rcases step?_cases transition with ⟨name, value, rfl, rfl⟩ | ⟨id, error, rfl, unknown, rfl⟩ |
    ⟨id, endpoint, rfl, known, rfl⟩ | ⟨place, fire, outcome, rfl, found, rfl⟩
  · exact account.edit name value
  · exact account.refuse unknown
  · exact account.launch known
  · exact account.land outcome found

/-- The books are kept along any execution. -/
theorem execution {more : List Step} {last : Run σ} (account : Account transport origin steps run)
    (execution : Execution transport more run last) :
    Account transport origin (steps ++ more) last := by
  induction execution generalizing steps with
  | refl => simpa using account
  | @next step more first middle last transition rest ih =>
      simpa using ih (account.step transition)

end Account

end Run

end ApiConsole
