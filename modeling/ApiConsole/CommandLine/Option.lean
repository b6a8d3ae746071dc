/-!
# Options

The options of the command line have long names and mostly short ones too. A setting takes a value;
a flag takes none. Some options are understood on every level of the command line, others only
behind one command.
-/

namespace ApiConsole.CommandLine

inductive Setting where
  | baseUrl
  | catalog
  | assignment
  | timeout
  deriving DecidableEq, Repr

/-- Options that take no value. -/
inductive Flag where
  | verbose
  | concurrent
  | help
  | version
  deriving DecidableEq, Repr

inductive Choice where
  | setting (setting : Setting)
  | flag (flag : Flag)
  deriving DecidableEq, Repr

inductive Level where
  | top
  | list
  | compose
  | fire
  | repl
  deriving DecidableEq, Repr

def Setting.usage : Setting → String
  | .baseUrl => "--base-url <URL>"
  | .catalog => "--catalog <FILE>"
  | .assignment => "--set <ASSIGNMENT>"
  | .timeout => "--timeout <SECS>"

namespace Level

def ofCommand? : String → Option Level
  | "list" => some .list
  | "compose" => some .compose
  | "fire" => some .fire
  | "repl" => some .repl
  | _ => none

/-- The command that shows help, which has no level of its own. -/
def helpCommand : String := "help"

def isCommand (word : String) : Bool :=
  word == helpCommand || (ofCommand? word).isSome

def takesEndpoints : Level → Bool
  | .compose => true
  | .fire => true
  | _ => false

def long? (level : Level) (name : String) : Option Choice :=
  match name with
  | "base-url" => some (.setting .baseUrl)
  | "catalog" => some (.setting .catalog)
  | "set" => some (.setting .assignment)
  | "timeout" => some (.setting .timeout)
  | "verbose" => some (.flag .verbose)
  | "help" => some (.flag .help)
  | "version" => some (.flag .version)
  | "concurrent" => if level = .fire then some (.flag .concurrent) else none
  | _ => none

def short? : Char → Option Choice
  | 'u' => some (.setting .baseUrl)
  | 'c' => some (.setting .catalog)
  | 's' => some (.setting .assignment)
  | 't' => some (.setting .timeout)
  | 'v' => some (.flag .verbose)
  | 'h' => some (.flag .help)
  | 'V' => some (.flag .version)
  | _ => none

end Level

end ApiConsole.CommandLine
