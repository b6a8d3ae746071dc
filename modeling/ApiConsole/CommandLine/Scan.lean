import ApiConsole.CommandLine.Found

/-!
# Reading a level of the command line

A level is read argument by argument, up to its end or, on the top level, up to a command. A setting
whose value may still come stands open; it is closed when something else is taken in. Behind two
hyphens every argument is a word.
-/

namespace ApiConsole.CommandLine

/-- A level that has been read up to some argument. -/
structure Scan where
  found : Found
  /-- A setting that has been read but not taken in, and its value if that has been read. -/
  pending : Option (Setting × Option String)
  /-- Whether every further argument is a word. -/
  wordsOnly : Bool

namespace Scan

def start : Scan := ⟨.nothing, none, false⟩

def awaiting? (scan : Scan) : Option Setting :=
  match scan.pending with
  | some (setting, none) => some setting
  | _ => none

def close (scan : Scan) : Except Refusal Scan :=
  match scan.pending with
  | none => .ok scan
  | some (_, none) => .error .noValue
  | some (setting, some value) =>
      (scan.found.take setting value).map fun found => { scan with found, pending := none }

/-- Reads a setting, with its value if that is part of the same argument. -/
def readSetting (scan : Scan) (setting : Setting) (value : Option String) :
    Except Refusal Scan := do
  let closed ← scan.close
  match value with
  | none => return { closed with pending := some (setting, none) }
  | some value => return { closed with found := ← closed.found.take setting value }

def readFlag (scan : Scan) (level : Level) (flag : Flag) : Except Refusal Scan := do
  let closed ← scan.close
  return { closed with found := ← closed.found.raise level flag }

/-- Reads an option by its long name, which a value may follow behind an equals sign. -/
def readLong (scan : Scan) (level : Level) (cs : List Char) : Except Refusal Scan :=
  let name := String.ofList (cs.takeWhile (· != '='))
  let value :=
    match cs.dropWhile (· != '=') with
    | [] => none
    | _ :: value => some (String.ofList value)
  match level.long? name, value with
  | none, _ => .error .unknownOption
  | some (.setting setting), value => scan.readSetting setting value
  | some (.flag flag), none => scan.readFlag level flag
  | some (.flag _), some _ => .error .unwantedValue

/-- The value behind a short name, less the equals sign that it may start with. -/
def attached? : List Char → Option String
  | [] => none
  | '=' :: value => some (String.ofList value)
  | value => some (String.ofList value)

/-- Reads options by their short names, the last of which a value may follow. -/
def readShort (scan : Scan) (level : Level) : List Char → Except Refusal Scan
  | [] => .ok scan
  | c :: rest =>
      match Level.short? c with
      | none => .error .unknownOption
      | some (.setting setting) => scan.readSetting setting (attached? rest)
      | some (.flag flag) => do
          let raised ← scan.readFlag level flag
          raised.readShort level rest

/-- Reads a word: the id of an endpoint where there are any. -/
def readWord (scan : Scan) (level : Level) (word : String) : Except Refusal Scan :=
  if level.takesEndpoints then do
    let closed ← scan.close
    return { closed with found.endpoints := closed.found.endpoints ++ [word] }
  else if level = .top ∧ ¬(scan.wordsOnly ∧ Level.isCommand word) then .error .unknownCommand
  else .error .unknownOption

/-- Reads an argument that is neither option nor command: the value that is awaited, or a word. -/
def readPlain (scan : Scan) (level : Level) (argument : String) : Except Refusal Scan :=
  match scan.awaiting? with
  | some setting => .ok { scan with pending := some (setting, some argument) }
  | none => scan.readWord level argument

def read (scan : Scan) (level : Level) (argument : String) : Except Refusal Scan :=
  if scan.wordsOnly then scan.readWord level argument
  else
    match argument.toList with
    | ['-', '-'] => .ok { scan with wordsOnly := true }
    | '-' :: '-' :: name => scan.readLong level name
    | '-' :: c :: names => scan.readShort level (c :: names)
    | _ => scan.readPlain level argument

def helpOn : List String → Refusal
  | [] => .help .top
  | [word] =>
      match Level.ofCommand? word with
      | some level => .help level
      | none => if word = Level.helpCommand then .help .top else .unknownCommand
  | _ => .unknownCommand

/-- Reads a level. On the top level, reading stops behind a command. -/
def readAll (level : Level) (scan : Scan) :
    List String → Except Refusal (Scan × Option (Level × List String))
  | [] => .ok (scan, none)
  | argument :: rest =>
      let free := level = .top ∧ ¬ scan.wordsOnly ∧ scan.awaiting?.isNone
      if free ∧ argument = Level.helpCommand then .error (helpOn rest)
      else
        match if free then Level.ofCommand? argument else none with
        | some behind => .ok (scan, some (behind, rest))
        | none => do
            let scan ← scan.read level argument
            readAll level scan rest

end Scan

end ApiConsole.CommandLine
