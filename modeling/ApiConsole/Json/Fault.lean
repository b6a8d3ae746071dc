/-!
# Marks and faults

A mark is a place in a text: the line, counted from one, and the bytes between the start of that
line and the place. A cursor is a mark together with the text that is left behind it.

A fault is why a text is no JSON document, and the mark at which that shows.
-/

namespace ApiConsole.Json

/-! ### Marks -/

structure Mark where
  line : Nat
  column : Nat
  deriving DecidableEq, Repr

namespace Mark

def start : Mark := ⟨1, 0⟩

def past (mark : Mark) (c : Char) : Mark :=
  if c = '\n' then ⟨mark.line + 1, 0⟩ else ⟨mark.line, mark.column + c.utf8Size⟩

def into (mark : Mark) (c : Char) : Mark :=
  if c = '\n' then ⟨mark.line + 1, 0⟩ else ⟨mark.line, mark.column + 1⟩

def along (mark : Mark) (cs : List Char) : Mark :=
  cs.foldl past mark

/-- The place a number of bytes into a text, or none if the text is shorter than that. -/
def advance? : Nat → Mark → List Char → Option Mark
  | 0, mark, _ => some mark
  | _ + 1, _, [] => none
  | bytes + 1, mark, c :: rest =>
      if c.utf8Size ≤ bytes + 1 then advance? (bytes + 1 - c.utf8Size) (mark.past c) rest
      else some ⟨mark.line, mark.column + (bytes + 1)⟩

end Mark

/-- A place in a text and the text behind it. -/
structure Cursor where
  mark : Mark
  rest : List Char
  deriving DecidableEq

namespace Cursor

def ofText (cs : List Char) : Cursor :=
  ⟨.start, cs⟩

/-- The place a reader names when it stops in front of the next character. -/
def ahead (cursor : Cursor) : Mark :=
  match cursor.rest with
  | [] => cursor.mark
  | c :: _ => cursor.mark.into c

def next (cursor : Cursor) : Cursor :=
  match cursor.rest with
  | [] => cursor
  | c :: rest => ⟨cursor.mark.past c, rest⟩

def isSpace (c : Char) : Bool :=
  c == ' ' || c == '\n' || c == '\t' || c == '\r'

def skipSpaceFrom (mark : Mark) : List Char → Cursor
  | [] => ⟨mark, []⟩
  | c :: rest => if isSpace c then skipSpaceFrom (mark.past c) rest else ⟨mark, c :: rest⟩

def skipSpace (cursor : Cursor) : Cursor :=
  skipSpaceFrom cursor.mark cursor.rest

def skip (cursor : Cursor) (cs : List Char) : Cursor :=
  ⟨cursor.mark.along cs, cursor.rest.drop cs.length⟩

theorem rest_skipSpaceFrom (mark : Mark) (cs : List Char) :
    (skipSpaceFrom mark cs).rest = cs.dropWhile isSpace := by
  induction cs generalizing mark with
  | nil => rfl
  | cons c rest ih =>
      unfold skipSpaceFrom
      cases h : isSpace c with
      | true => simpa [h] using ih (mark.past c)
      | false => simp [h]

end Cursor

/-! ### Faults -/

inductive Cause where
  | listEnds
  | objectEnds
  | stringEnds
  | valueEnds
  | colonExpected
  | listCommaOrEndExpected
  | objectCommaOrEndExpected
  | identifierExpected
  | valueExpected
  | invalidEscape
  | invalidNumber
  | numberOutOfRange
  | controlCharacter
  | nameExpected
  | loneSurrogate
  | halfSurrogate
  | trailingComma
  | trailingCharacters
  | tooDeep
  deriving DecidableEq, Repr

def Cause.message : Cause → String
  | .listEnds => "EOF while parsing a list"
  | .objectEnds => "EOF while parsing an object"
  | .stringEnds => "EOF while parsing a string"
  | .valueEnds => "EOF while parsing a value"
  | .colonExpected => "expected `:`"
  | .listCommaOrEndExpected => "expected `,` or `]`"
  | .objectCommaOrEndExpected => "expected `,` or `\x7d`"
  | .identifierExpected => "expected ident"
  | .valueExpected => "expected value"
  | .invalidEscape => "invalid escape"
  | .invalidNumber => "invalid number"
  | .numberOutOfRange => "number out of range"
  | .controlCharacter => "control character (\\u0000-\\u001F) found while parsing a string"
  | .nameExpected => "key must be a string"
  | .loneSurrogate => "lone leading surrogate in hex escape"
  | .halfSurrogate => "unexpected end of hex escape"
  | .trailingComma => "trailing comma"
  | .trailingCharacters => "trailing characters"
  | .tooDeep => "recursion limit exceeded"

structure Fault where
  cause : Cause
  mark : Mark
  deriving DecidableEq, Repr

end ApiConsole.Json
