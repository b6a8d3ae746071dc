import ApiConsole.Batch
import ApiConsole.CommandLine.Scan

/-!
# Command lines

A command line names a command and settles how it is carried out. Options stand before the command
or behind it; where a setting is given on both levels, the inner level decides, for assignments as a
whole. A base URL that is not on the command line is taken from the environment.
-/

namespace ApiConsole

/-- What the command line settles for every action. -/
structure Settings where
  baseUrl : String
  /-- The file of the catalog, unless it is the one that comes with the program. -/
  catalog : Option String
  /-- Session values in the order in which they are set. -/
  overrides : List (String × String)
  /-- How many seconds a request may take, unless it may take any time. -/
  timeout : Option Nat
  verbosity : Nat
  deriving DecidableEq, Repr

namespace Settings

def defaultBaseUrl : String := "http://localhost:8000"

def session (settings : Settings) : Session :=
  settings.overrides.foldl (fun session (name, value) => session.set name value) Session.default

def logFilter (settings : Settings) : String :=
  match settings.verbosity with
  | 0 => "warn"
  | 1 => "info"
  | _ => "debug"

end Settings

namespace CommandLine

/-- What both levels of a command line say together. -/
def settingsOf (environment : Option String) (outer inner : Found) : Settings where
  baseUrl := ((inner.baseUrl <|> outer.baseUrl) <|> environment).getD Settings.defaultBaseUrl
  catalog := inner.catalog <|> outer.catalog
  overrides := if inner.assignments.isEmpty then outer.assignments else inner.assignments
  timeout := inner.timeout <|> outer.timeout
  verbosity := if inner.verbosity = 0 then outer.verbosity else inner.verbosity

/-- The action of a command, which has endpoints wherever it takes some. -/
def actionOf (level : Level) (found : Found) : Except Refusal Action :=
  if level.takesEndpoints ∧ found.endpoints.isEmpty then .error .noEndpoints
  else
    match level with
    | .compose => .ok (.compose found.endpoints)
    | .fire => .ok (.fire found.endpoints found.concurrent)
    | .repl => .ok .repl
    | _ => .ok .list

def withoutCommand (environment : Option String) (found : Found) : Refusal :=
  if found.isNothing ∧ environment.isNone then .nothingGiven else .noCommand

/-- Reads the arguments of a command line, given the base URL of the environment. -/
def parse (environment : Option String) (arguments : List String) :
    Except Refusal (Settings × Action) := do
  let (outer, command) ← Scan.readAll .top .start arguments
  match command with
  | none =>
      let outer ← outer.close
      throw (withoutCommand environment outer.found)
  | some (level, rest) =>
      let (inner, _) ← Scan.readAll level .start rest
      let inner ← inner.close
      let action ← actionOf level inner.found
      let outer ← outer.close
      return (settingsOf environment outer.found inner.found, action)

end CommandLine

end ApiConsole
