import ApiConsole.CommandLine.Option
import ApiConsole.Text.Plain

/-!
# Refusals

A command line that asks for no action is refused: it asks for help or for the version, or something
is wrong with it.
-/

namespace ApiConsole.CommandLine

inductive ValueFault where
  /-- There is no name before an equals sign. -/
  | noAssignment (value : String)
  | emptyNumber
  | notDigits
  | tooLarge
  deriving DecidableEq, Repr

def ValueFault.message : ValueFault → String
  | .noAssignment value => "expected NAME=VALUE, got '" ++ value ++ "'"
  | .emptyNumber => "cannot parse integer from empty string"
  | .notDigits => "invalid digit found in string"
  | .tooLarge => "number too large to fit in target type"

inductive Refusal where
  | help (level : Level)
  | version (level : Level)
  /-- There is nothing on the command line. -/
  | nothingGiven
  | noCommand
  | unknownCommand
  | unknownOption
  | noEndpoints
  /-- A setting has no value. -/
  | noValue
  /-- A flag has a value. -/
  | unwantedValue
  /-- An option is given again that is meant to be given once. -/
  | repeated
  | badValue (setting : Setting) (value : String) (fault : ValueFault)
  deriving DecidableEq, Repr

namespace Refusal

/-- The exit code of the program: asking for help or the version is no failure. -/
def exitCode : Refusal → Nat
  | .help _ => 0
  | .version _ => 0
  | _ => 2

def firstLine (text : List Char) : List Char :=
  let line := text.takeWhile (· != '\n')
  if line.length < text.length ∧ line.getLast? = some '\r' then line.dropLast else line

/-- The message about a value, on one line as a terminal shows it. -/
def valueMessage (setting : Setting) (value : String) (fault : ValueFault) : String :=
  let shown := String.ofList (Text.plain value.toList)
  let reason := String.ofList (Text.plain fault.message.toList)
  String.ofList (firstLine
    ("error: invalid value '" ++ shown ++ "' for '" ++ setting.usage ++ "': " ++ reason).toList)

end Refusal

end ApiConsole.CommandLine
