import ApiConsole.CommandLine.Refusal
import ApiConsole.Text.Basic

/-!
# What a level of the command line says

The options and words of one level are gathered as they are read. A setting is taken in only when
its value is complete, so that of two faults the one that is read to its end first is reported.
-/

namespace ApiConsole.CommandLine

/-- A session value that is given on the command line: a name and a value with an equals sign
between them. Blanks around the name do not count. -/
def assignment (text : String) : Except ValueFault (String × String) :=
  let cs := text.toList
  let name := Text.trim (cs.takeWhile (· != '='))
  if !cs.contains '=' || name.isEmpty then .error (.noAssignment text)
  else .ok (String.ofList name, String.ofList ((cs.dropWhile (· != '=')).drop 1))

def greatestSeconds : Nat := Nat.pow 2 64 - 1

def secondsFrom : Nat → List Char → Except ValueFault Nat
  | number, [] => .ok number
  | number, c :: rest =>
      if !c.isDigit then .error .notDigits
      else
        let longer := 10 * number + Text.digitValue c
        if greatestSeconds < longer then .error .tooLarge else secondsFrom longer rest

/-- A number of seconds in decimal, which may have a plus sign. -/
def seconds (text : String) : Except ValueFault Nat :=
  match text.toList with
  | [] => .error .emptyNumber
  | ['+'] => .error .notDigits
  | '+' :: digits => secondsFrom 0 digits
  | digits => secondsFrom 0 digits

/-- What has been taken in on one level. -/
structure Found where
  baseUrl : Option String
  catalog : Option String
  assignments : List (String × String)
  timeout : Option Nat
  /-- How often more logging is asked for. -/
  verbosity : Nat
  concurrent : Bool
  endpoints : List String
  deriving DecidableEq, Repr

namespace Found

def nothing : Found := ⟨none, none, [], none, 0, false, []⟩

/-- The greatest verbosity; asking for more does not count. -/
def greatestVerbosity : Nat := 255

/-- Takes in a setting. Only assignments may be repeated, and only a catalog needs a name that is
not empty. -/
def take (found : Found) (setting : Setting) (value : String) : Except Refusal Found :=
  match setting with
  | .baseUrl =>
      if found.baseUrl.isSome then .error .repeated else .ok { found with baseUrl := some value }
  | .catalog =>
      if found.catalog.isSome then .error .repeated
      else if value.isEmpty then .error .noValue
      else .ok { found with catalog := some value }
  | .assignment =>
      match assignment value with
      | .ok pair => .ok { found with assignments := found.assignments ++ [pair] }
      | .error fault => .error (.badValue setting value fault)
  | .timeout =>
      if found.timeout.isSome then .error .repeated
      else
        match seconds value with
        | .ok number => .ok { found with timeout := some number }
        | .error fault => .error (.badValue setting value fault)

def raise (found : Found) (level : Level) : Flag → Except Refusal Found
  | .verbose => .ok { found with verbosity := min greatestVerbosity (found.verbosity + 1) }
  | .concurrent =>
      if found.concurrent then .error .repeated else .ok { found with concurrent := true }
  | .help => .error (.help level)
  | .version => .error (.version level)

def isNothing (found : Found) : Bool :=
  found == nothing

end Found

end ApiConsole.CommandLine
