import ApiConsole.Text.Basic

/-!
# Commands

A line at the prompt is a command: its first word says which, and the rest are its arguments. Blanks
at the ends of a line and between its words do not matter, except inside the value of a setting.
-/

namespace ApiConsole

inductive Command where
  | nothing
  | help
  | list
  | session
  | set (name value : String)
  | compose (id : String)
  | fire (ids : List String)
  | quit
  deriving DecidableEq, Repr

namespace Command

inductive Fault where
  | setUsage
  | composeUsage
  | fireUsage
  | unknown (word : String)
  deriving DecidableEq, Repr

def Fault.message : Fault → String
  | .setUsage => "usage: set NAME VALUE"
  | .composeUsage => "usage: compose ID"
  | .fireUsage => "usage: fire ID [ID...]"
  | .unknown word => "unknown command '" ++ word ++ "', try help"

def helpText : String :=
  "commands:\n" ++
  "  list                  endpoints in the catalog\n" ++
  "  session               current session values\n" ++
  "  set NAME VALUE        overwrite a session value\n" ++
  "  compose ID            show the request ID would send\n" ++
  "  fire ID [ID...]       fire endpoints, the prompt stays available\n" ++
  "  help                  this text\n" ++
  "  quit                  wait for pending requests and leave"

/-- The first word of a trimmed line and what follows it, trimmed. -/
def firstWord (line : List Char) : List Char × List Char :=
  match Text.cutAtBlank? line with
  | some (word, rest) => (word, Text.trim rest)
  | none => (line, [])

/-- A setting: its name is one word, its value the rest of the line. -/
def ofSetting (rest : List Char) : Except Fault Command :=
  match Text.cutAtBlank? rest with
  | some (name, value) => .ok (.set (String.ofList name) (String.ofList (Text.trim value)))
  | none => .error .setUsage

def ofComposition (rest : List Char) : Except Fault Command :=
  if rest.isEmpty || rest.any Text.isBlank then .error .composeUsage
  else .ok (.compose (String.ofList rest))

def ofFire (rest : List Char) : Except Fault Command :=
  if rest.isEmpty then .error .fireUsage
  else .ok (.fire ((Text.words rest).map String.ofList))

def parse (line : String) : Except Fault Command :=
  let (word, rest) := firstWord (Text.trim line.toList)
  match String.ofList word with
  | "" => .ok .nothing
  | "help" => .ok .help
  | "?" => .ok .help
  | "list" => .ok .list
  | "ls" => .ok .list
  | "session" => .ok .session
  | "quit" => .ok .quit
  | "exit" => .ok .quit
  | "set" => ofSetting rest
  | "compose" => ofComposition rest
  | "fire" => ofFire rest
  | other => .error (.unknown other)

end Command

end ApiConsole
