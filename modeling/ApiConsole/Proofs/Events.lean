import ApiConsole.Console

/-!
# What passes between a console and its transport

The events of a console are read as two lists: the requests it has sent, and the requests that have
resolved, each with its outcome.  A transport that is handed requests one after another answers each
from the state that the ones before it have left.
-/

namespace ApiConsole

variable {σ : Type}

def Event.sent? : Event → Option Request
  | .sent request => some request
  | .resolved _ _ => none

/-- The request and the outcome of an event in which an outcome comes in. -/
def Event.resolved? : Event → Option (Request × Outcome)
  | .sent _ => none
  | .resolved request outcome => some (request, outcome)

namespace Console

def sent (console : Console σ) : List Request :=
  console.events.filterMap Event.sent?

def resolved (console : Console σ) : List (Request × Outcome) :=
  console.events.filterMap Event.resolved?

@[simp] theorem sent_send (transport : Transport σ) (console : Console σ) (request : Request) :
    (console.send transport request).1.sent = console.sent ++ [request] := by
  simp [sent, send, Event.sent?]

@[simp] theorem resolved_send (transport : Transport σ) (console : Console σ) (request : Request) :
    (console.send transport request).1.resolved = console.resolved := by
  simp [resolved, send, Event.resolved?]

@[simp] theorem sent_resolve (console : Console σ) (request : Request) (outcome : Outcome) :
    (console.resolve request outcome).sent = console.sent := by
  simp [sent, resolve, Event.sent?]

@[simp] theorem resolved_resolve (console : Console σ) (request : Request) (outcome : Outcome) :
    (console.resolve request outcome).resolved = console.resolved ++ [(request, outcome)] := by
  simp [resolved, resolve, Event.resolved?]

def atTime (console : Console σ) (now : Nat) : Console σ :=
  { console with now }

@[simp] theorem atTime_atTime (console : Console σ) (first second : Nat) :
    (console.atTime first).atTime second = console.atTime second := rfl

def setAll (console : Console σ) (settings : List (String × String)) : Console σ :=
  settings.foldl (fun console setting => console.set setting.1 setting.2) console

@[simp] theorem setAll_atTime (console : Console σ) (now : Nat)
    (settings : List (String × String)) :
    (console.atTime now).setAll settings = (console.setAll settings).atTime now := by
  induction settings generalizing console with
  | nil => rfl
  | cons setting rest ih => exact ih (console.set setting.1 setting.2)

end Console

namespace Transport

/-- Hands requests to a transport one after another; gives what it answers to each. -/
def issueAll (transport : Transport σ) (wire : σ) : List Request → σ × List Outcome
  | [] => (wire, [])
  | request :: rest =>
      let (next, reply) := transport.issue wire request
      let (last, outcomes) := transport.issueAll next rest
      (last, reply.outcome :: outcomes)

theorem issueAll_append (transport : Transport σ) (wire : σ) (first second : List Request) :
    transport.issueAll wire (first ++ second) =
      ((transport.issueAll (transport.issueAll wire first).1 second).1,
        (transport.issueAll wire first).2 ++
          (transport.issueAll (transport.issueAll wire first).1 second).2) := by
  induction first generalizing wire with
  | nil => rfl
  | cons request rest ih =>
      simp only [List.cons_append, issueAll, ih]

end Transport

end ApiConsole
