/-!
# Plain texts

A message shows a text without what would control the terminal: control characters other than line
ends, tabs and form feeds, and sequences that start with the escape character.
-/

namespace ApiConsole.Text

/-- Where a reader of terminal output stands. -/
inductive TerminalState where
  | ground
  /-- Behind the escape character. -/
  | escape
  /-- Inside a sequence with parameters. -/
  | sequence
  /-- Inside a text for the terminal. -/
  | message
  deriving DecidableEq, Repr

def escapeCharacter : Char := '\x1B'

def isLayout (c : Char) : Bool :=
  c == '\t' || c == '\n' || c == '\x0C' || c == '\r'

def isControl (c : Char) : Bool :=
  c.toNat < 0x20 || c.toNat == 0x7F

namespace TerminalState

/-- The state behind a character that follows the escape character. -/
def afterEscape (c : Char) : TerminalState :=
  if c == '[' then .sequence
  else if c == ']' || c == 'P' || c == 'X' || c == '^' || c == '_' then .message
  else if c.toNat < 0x30 then .escape
  else .ground

def next (state : TerminalState) (c : Char) : TerminalState :=
  if c == escapeCharacter then .escape
  else
    match state with
    | .ground => .ground
    | .escape => afterEscape c
    | .sequence => if 0x40 ≤ c.toNat && c.toNat ≤ 0x7E then .ground else .sequence
    | .message => if c == '\x07' then .ground else .message

def shows (state : TerminalState) (c : Char) : Bool :=
  match state with
  | .ground => !isControl c || isLayout c
  | .message => false
  | _ => isLayout c

end TerminalState

/-- The characters of a text that are shown, from a state on. -/
def plainFrom (state : TerminalState) : List Char → List Char
  | [] => []
  | c :: rest =>
      let behind := plainFrom (state.next c) rest
      if state.shows c then c :: behind else behind

def plain (cs : List Char) : List Char :=
  plainFrom .ground cs

end ApiConsole.Text
