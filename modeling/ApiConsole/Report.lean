import ApiConsole.Catalog
import ApiConsole.Outcome
import ApiConsole.Text.Basic

/-!
# Reports

What the console tells its operator is a sequence of records, each written by itself. A sink takes
records one at a time and says whether it could write them; the console does not listen to that,
so a closed output changes nothing but what is seen.
-/

namespace ApiConsole

open Json (Value)

structure TimeOfDay where
  hour : Nat
  minute : Nat
  second : Nat
  deriving DecidableEq, Repr

namespace TimeOfDay

/-- The time of day of a number of seconds since midnight, on whatever day. -/
def ofSeconds (seconds : Nat) : TimeOfDay :=
  ⟨seconds / 3600 % 24, seconds / 60 % 60, seconds % 60⟩

def twoDigits (n : Nat) : String :=
  if n < 10 then "0" ++ toString n else toString n

def text (time : TimeOfDay) : String :=
  twoDigits time.hour ++ ":" ++ twoDigits time.minute ++ ":" ++ twoDigits time.second

end TimeOfDay

inductive Record where
  /-- A message, without the blanks it ends with. -/
  | message (text : String)
  /-- A row of a table. -/
  | row (text : String)
  /-- How the fire of an endpoint ended, and when if that is to be shown. -/
  | outcome (time : Option TimeOfDay) (id : String) (ending : Outcome)

namespace Record

/-- The heading of an outcome: the id, behind the time if there is one. -/
def heading (time : Option TimeOfDay) (id : String) : String :=
  match time with
  | some time => "[" ++ time.text ++ "] " ++ id
  | none => id

def prettyText (body : Value) : String :=
  String.ofList body.pretty

/-- The body of a failure: a string as it is, any other value in the pretty layout. -/
def failureText : Value → String
  | .string text => text
  | body => prettyText body

def outcomeText (heading : String) : Outcome → String
  | .success status body =>
      heading ++ "\nSTATUS: " ++ toString status ++ "\n" ++ prettyText body
  | .failure status body =>
      heading ++ "\nERROR: " ++ toString status ++ "\n" ++ failureText body

def text : Record → String
  | .message text => String.ofList (Text.trimEnd text.toList) ++ "\n"
  | .row text => text ++ "\n"
  | .outcome time id ending => outcomeText (heading time id) ending ++ "\n"

end Record

def column (width : Nat) (text : String) : String :=
  String.ofList (Text.padRight width text.toList)

def Endpoint.row (endpoint : Endpoint) : String :=
  column 12 endpoint.id ++ " " ++ column 6 endpoint.method.name ++ " " ++
    column 45 endpoint.urlShape ++ " " ++ endpoint.title

def Catalog.records (catalog : Catalog) : List Record :=
  catalog.endpoints.map fun endpoint => .row endpoint.row

def Session.records (session : Session) : List Record :=
  session.entries.map fun (name, value) => .row (column 12 name ++ " = " ++ value)

/-- Something that records are written to; writing says whether it succeeded. -/
structure Sink (ω : Type) where
  write : ω → Record → ω × Bool

namespace Sink

def emit {ω : Type} (sink : Sink ω) (out : ω) (records : List Record) : ω :=
  records.foldl (fun out record => (sink.write out record).1) out

def text : Sink String where
  write out record := (out ++ record.text, true)

/-- Writes nothing, like an output that has been closed. -/
def closed (ω : Type) : Sink ω where
  write out _ := (out, false)

theorem emit_append {ω : Type} (sink : Sink ω) (out : ω) (first second : List Record) :
    sink.emit out (first ++ second) = sink.emit (sink.emit out first) second := by
  simp [emit]

end Sink

def recordsText (records : List Record) : String :=
  Sink.text.emit "" records

end ApiConsole
