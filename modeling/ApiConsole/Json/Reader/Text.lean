import ApiConsole.Json.Fault
import ApiConsole.Text.Basic

/-!
# Reading strings

A string is read one character at a time. Between characters the reader knows whether it stands in
plain text, behind a backslash, or inside a `\u` escape; two escapes that are the halves of a
surrogate pair make one character.
-/

namespace ApiConsole.Json

/-- What the reader of a string has in hand between two characters. -/
inductive StringState where
  | plain
  /-- Behind a backslash. -/
  | escape
  /-- Behind `count` digits of a `\u` escape, which follows the escape of `high` if there is one. -/
  | digits (high : Option Nat) (count value : Nat)
  /-- Behind the escape of a leading surrogate, before the backslash of its other half. -/
  | half (high : Nat)
  /-- Behind that backslash. -/
  | halfEscape (high : Nat)

def unescape? : Char → Option Char
  | '"' => some '"'
  | '\\' => some '\\'
  | '/' => some '/'
  | 'b' => some '\x08'
  | 'f' => some '\x0C'
  | 'n' => some '\n'
  | 'r' => some '\r'
  | 't' => some '\t'
  | _ => none

/-- A code unit that starts a surrogate pair. -/
def isLeading (unit : Nat) : Bool :=
  0xD800 ≤ unit && unit ≤ 0xDBFF

/-- A code unit that ends a surrogate pair. -/
def isTrailing (unit : Nat) : Bool :=
  0xDC00 ≤ unit && unit ≤ 0xDFFF

def pairCharacter (high low : Nat) : Char :=
  Char.ofNat (0x10000 + (high - 0xD800) * 0x400 + (low - 0xDC00))

/-- The fault of an escape whose four bytes are not four digits, of which `count` were read. -/
def badDigits (mark : Mark) (count : Nat) (cs : List Char) : Fault :=
  match Mark.advance? (4 - count) mark cs with
  | some reached => ⟨.invalidEscape, reached⟩
  | none => ⟨.stringEnds, mark.along cs⟩

/-- Reads a string from inside it; `done` holds the characters so far, the last one first. -/
def readStringFrom (state : StringState) (done : List Char) (mark : Mark) :
    List Char → Except Fault (List Char × Cursor)
  | [] => .error ⟨.stringEnds, mark⟩
  | c :: rest =>
      let here := mark.past c
      match state with
      | .plain =>
          if c = '"' then .ok (done.reverse, ⟨here, rest⟩)
          else if c = '\\' then readStringFrom .escape done here rest
          else if c.val < 0x20 then .error ⟨.controlCharacter, mark.into c⟩
          else readStringFrom .plain (c :: done) here rest
      | .escape =>
          match unescape? c with
          | some d => readStringFrom .plain (d :: done) here rest
          | none =>
              if c = 'u' then readStringFrom (.digits none 0 0) done here rest
              else .error ⟨.invalidEscape, mark.into c⟩
      | .digits high count value =>
          match Text.hexValue? c with
          | none => .error (badDigits mark count (c :: rest))
          | some digit =>
              let unit := 16 * value + digit
              if count < 3 then readStringFrom (.digits high (count + 1) unit) done here rest
              else
                match high with
                | none =>
                    if isTrailing unit then .error ⟨.loneSurrogate, here⟩
                    else if isLeading unit then readStringFrom (.half unit) done here rest
                    else readStringFrom .plain (Char.ofNat unit :: done) here rest
                | some first =>
                    if isTrailing unit then
                      readStringFrom .plain (pairCharacter first unit :: done) here rest
                    else .error ⟨.loneSurrogate, here⟩
      | .half high =>
          if c = '\\' then readStringFrom (.halfEscape high) done here rest
          else .error ⟨.halfSurrogate, mark.into c⟩
      | .halfEscape high =>
          if c = 'u' then readStringFrom (.digits (some high) 0 0) done here rest
          else .error ⟨.halfSurrogate, mark.into c⟩

def readString (cursor : Cursor) : Except Fault (String × Cursor) :=
  (readStringFrom .plain [] cursor.mark cursor.rest).map fun (cs, after) =>
    (String.ofList cs, after)

end ApiConsole.Json
