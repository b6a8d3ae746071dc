import ApiConsole.Json.Reader
import ApiConsole.Json.Writer
import ApiConsole.Session

/-!
# Outcomes

An outcome is how a request ended: the status that came back, and the body. Statuses from 200 up to
below 300 are successes. Every other ending is a failure, and so is a body that broke off; where
nothing came back the status is zero and the body is the reason.

The console carries identifiers from one response to later requests: a watched field names a
session value and the field of a response that sets it. Failures set nothing, and neither does a
field that is missing or null.
-/

namespace ApiConsole

open Json (Value)

/-! ### Outcomes -/

inductive Outcome where
  | success (status : Nat) (body : Value)
  | failure (status : Nat) (body : Value)

namespace Outcome

def isSuccessStatus (status : Nat) : Bool :=
  200 ≤ status && status < 300

def ofResponse (status : Nat) (body : Value) : Outcome :=
  if isSuccessStatus status then .success status body else .failure status body

def noAnswer : Nat := 0

def unreachable (reason : String) : Outcome :=
  .failure noAnswer (.string reason)

def isSuccess : Outcome → Bool
  | .success .. => true
  | .failure .. => false

def status : Outcome → Nat
  | .success status _ => status
  | .failure status _ => status

def body : Outcome → Value
  | .success _ body => body
  | .failure _ body => body

/-- The body of an answer: the value of a JSON document, or any other text as it is. -/
def bodyOfText (text : String) : Value :=
  match Json.parse text.toList with
  | .ok value => value
  | .error _ => .string text

end Outcome

/-! ### Watched fields -/

/-- A session value and the field of a response that sets it. -/
structure WatchedField where
  placeholder : String
  field : String
  deriving DecidableEq, Repr

structure Extraction where
  placeholder : String
  value : String
  deriving DecidableEq, Repr

namespace Watch

def default : List WatchedField :=
  [⟨Session.connectionName, "uuid"⟩, ⟨Session.messageName, "id"⟩]

/-- The text under which a value is kept: a string as it is, any other in the compact layout. -/
def text : Value → String
  | .string text => text
  | value => String.ofList value.compact

def extractions (watched : List WatchedField) (body : Value) : List Extraction :=
  watched.filterMap fun watch =>
    (body.find? watch.field).map fun value => ⟨watch.placeholder, text value⟩

def extracted (watched : List WatchedField) : Outcome → List Extraction
  | .success _ body => extractions watched body
  | .failure _ _ => []

/-- The session after extractions, of which the last for a name counts. -/
def apply (session : Session) (extractions : List Extraction) : Session :=
  extractions.foldl (fun session extraction => session.set extraction.placeholder extraction.value)
    session

end Watch

end ApiConsole
