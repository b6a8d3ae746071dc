import ApiConsole.Prompt.Command
import ApiConsole.Prompt.Input
import ApiConsole.Report
import ApiConsole.Traffic

/-!
# The prompt

At the prompt, commands are carried out as their lines are read, except for fires: these start once
the prompt waits, for a line or for a fire, and land while further lines are awaited. The prompt
holds the numbers of its fires until they are finished. It ends with the input, at a quit command,
or at a line that is no text, and then waits for the fires that it holds, one after another.
-/

namespace ApiConsole

/-- A fire of a prompt. Fires are numbered in the order in which they are asked for. -/
structure Ticket where
  number : Nat
  id : String

/-- Where a prompt stands between two lines. -/
structure Prompt (σ ω : Type) where
  traffic : Traffic σ Ticket
  /-- The ids of fires that have not started yet, in the order of their lines. -/
  waiting : List String
  /-- How many fires have started. -/
  started : Nat
  out : ω

/-- How the records of a prompt are written: where to, and with which time of day if any. -/
structure Reporter (ω : Type) where
  sink : Sink ω
  clock : Option (Nat → TimeOfDay)

namespace Reporter

variable {ω : Type}

def recordOf (reporter : Reporter ω) (id : String) (time : Nat) : FireResult → Record
  | .ok outcome => .outcome (reporter.clock.map fun clock => clock time) id outcome
  | .error error => .message error.message

def recordsOf (reporter : Reporter ω) (landings : List (Landing Ticket)) : List Record :=
  landings.map fun landing => reporter.recordOf landing.tag.id landing.time landing.result

end Reporter

namespace Prompt

variable {σ ω : Type}

def start (console : Console σ) (out : ω) : Prompt σ ω :=
  ⟨.ofConsole console, [], 0, out⟩

def write (reporter : Reporter ω) (prompt : Prompt σ ω) (records : List Record) : Prompt σ ω :=
  { prompt with out := reporter.sink.emit prompt.out records }

def console (prompt : Prompt σ ω) : Console σ :=
  prompt.traffic.console

def compositionRecord : Except Error Request → Record
  | .ok request => .message request.display
  | .error error => .message error.message

/-- Carries out a command other than quitting, which changes nothing. -/
def obey (reporter : Reporter ω) (prompt : Prompt σ ω) : Command → Prompt σ ω
  | .nothing => prompt
  | .help => prompt.write reporter [.message Command.helpText]
  | .list => prompt.write reporter prompt.console.catalog.records
  | .session => prompt.write reporter prompt.console.session.records
  | .set name value =>
      { prompt with
        traffic := { prompt.traffic with console := prompt.traffic.console.set name value } }
  | .compose id => prompt.write reporter [compositionRecord (prompt.console.compose id)]
  | .fire ids => { prompt with waiting := prompt.waiting ++ ids }
  | .quit => prompt

def numbersFor (prompt : Prompt σ ω) (ids : List String) : List Nat :=
  List.range' (prompt.started + prompt.waiting.length) ids.length

def tickets (prompt : Prompt σ ω) : List Ticket :=
  prompt.waiting.zipIdx prompt.started |>.map fun (id, number) => ⟨number, id⟩

/-- The numbers of the fires that are under way or wait to be started. -/
def unfinished (prompt : Prompt σ ω) : List Nat :=
  prompt.traffic.aloft.map (fun flight => flight.tag.number) ++ prompt.tickets.map Ticket.number

/-- What is left of the numbers that a prompt holds once those of finished fires are dropped. -/
def retain (prompt : Prompt σ ω) (held : List Nat) : List Nat :=
  held.filter fun number => number ∈ prompt.unfinished

/-- The numbers that a prompt holds on to when it carries out a command. -/
def holds (prompt : Prompt σ ω) (held : List Nat) : Command → List Nat
  | .fire ids => held ++ prompt.numbersFor ids
  | _ => held

/-- Reads lines until there is no more, and says whether the prompt ends there. -/
def readLines (reporter : Reporter ω) (prompt : Prompt σ ω) (held : List Nat) :
    List Line → Prompt σ ω × List Nat × Bool
  | [] => (prompt, held, false)
  | none :: _ => (prompt, held, true)
  | some line :: rest =>
      let held := prompt.retain held
      match Command.parse line with
      | .error fault =>
          (prompt.write reporter [.message fault.message]).readLines reporter held rest
      | .ok .quit => (prompt, held, true)
      | .ok command =>
          (prompt.obey reporter command).readLines reporter (prompt.holds held command) rest

def startWaiting (reporter : Reporter ω) (transport : Transport σ) (prompt : Prompt σ ω) :
    Prompt σ ω :=
  let (traffic, landings) :=
    prompt.traffic.launchAll transport (prompt.tickets.map fun ticket => (ticket, ticket.id))
  let started := prompt.started + prompt.waiting.length
  { prompt with traffic, waiting := [], started }.write reporter (reporter.recordsOf landings)

def pass (reporter : Reporter ω) (prompt : Prompt σ ω) (delay : Nat) : Prompt σ ω :=
  let (traffic, landings) := prompt.traffic.pass delay
  { prompt with traffic }.write reporter (reporter.recordsOf landings)

/-- Reads what arrives, and says whether the prompt ends. If it goes on, its fires start before it
waits for the next line. -/
def readArrival (reporter : Reporter ω) (transport : Transport σ) (prompt : Prompt σ ω)
    (held : List Nat) (arrival : Arrival) : Prompt σ ω × List Nat × Bool :=
  let (read, held, ended) :=
    (prompt.pass reporter arrival.delay).readLines reporter held arrival.lines
  (if ended then read else read.startWaiting reporter transport, held, ended)

def readArrivals (reporter : Reporter ω) (transport : Transport σ) (prompt : Prompt σ ω)
    (held : List Nat) : List Arrival → Prompt σ ω × List Nat
  | [] => (prompt, held)
  | arrival :: rest =>
      let (read, held, ended) := prompt.readArrival reporter transport held arrival
      if ended then (read, held) else read.readArrivals reporter transport held rest

/-- Waits for a fire. While it is not finished, what waits to be started starts, and then time
passes until the fire lands. -/
def await (reporter : Reporter ω) (transport : Transport σ) (prompt : Prompt σ ω) (number : Nat) :
    Prompt σ ω :=
  if number ∈ prompt.unfinished then
    let prompt := prompt.startWaiting reporter transport
    match prompt.traffic.aloft.find? fun flight => flight.tag.number = number with
    | some flight => prompt.pass reporter (flight.due - prompt.console.now)
    | none => prompt
  else prompt

/-- Waits for the fires that a prompt holds, one after another. -/
def finish (reporter : Reporter ω) (transport : Transport σ) (prompt : Prompt σ ω)
    (held : List Nat) : Prompt σ ω :=
  held.foldl (await reporter transport) prompt

end Prompt

/-- Runs a prompt on its input; gives the console as it is left, and what has been written. -/
def runPrompt {σ ω : Type} (reporter : Reporter ω) (transport : Transport σ) (console : Console σ)
    (out : ω) (chunks : List Chunk) : Console σ × ω :=
  let (prompt, held) :=
    (Prompt.start console out).readArrivals reporter transport [] (Input.arrivals chunks)
  let finished := prompt.finish reporter transport held
  (finished.console, finished.out)

end ApiConsole
