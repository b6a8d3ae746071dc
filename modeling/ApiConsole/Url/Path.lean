import ApiConsole.Text.Basic

/-!
# Escapes and paths

A character that may not stand for itself in a part of a URL is written as its bytes in UTF-8, each
as a percent sign and two hexadecimal digits. Controls and what lies beyond ASCII never stand for
themselves; which other characters do not is a matter of the part.

A path is followed segment by segment: a single dot stays where it is, two dots go back over the
segment before. A dot may be written as an escape. A drive letter is never gone back over.
-/

namespace ApiConsole.Url

/-! ### Percent escapes -/

/-- The parts of a URL whose characters are escaped. -/
inductive Part where
  | userinfo
  | path
  | query
  | fragment
  deriving DecidableEq, Repr

def Part.reserved : Part → List Char
  | .userinfo => " \"#<>?\x60\x7b\x7d/:;=@[\\]^|".toList
  | .path => " \"#<>?\x60\x7b\x7d".toList
  | .query => " \"#<>'".toList
  | .fragment => " \"<>\x60".toList

def Part.escapes (part : Part) (c : Char) : Bool :=
  c.toNat < 0x20 || 0x7E < c.toNat || part.reserved.contains c

def escapeByte (byte : UInt8) : List Char :=
  ['%', Text.hexDigit (byte.toNat / 16), Text.hexDigit (byte.toNat % 16)]

def escapeChar (c : Char) : List Char :=
  (String.utf8EncodeChar c).flatMap escapeByte

def escape (part : Part) (cs : List Char) : List Char :=
  cs.flatMap fun c => if part.escapes c then escapeChar c else [c]

/-- The bytes that a text stands for: those of its escapes, and of its other characters in UTF-8. -/
def unescape : List Char → List UInt8
  | [] => []
  | '%' :: a :: b :: rest =>
      match Text.hexValue? a, Text.hexValue? b with
      | some high, some low => UInt8.ofNat (16 * high + low) :: unescape rest
      | _, _ => String.utf8EncodeChar '%' ++ unescape (a :: b :: rest)
  | c :: rest => String.utf8EncodeChar c ++ unescape rest

/-- The text that an escaped text stands for, unless its bytes are no text. -/
def unescapedText? (cs : List Char) : Option (List Char) :=
  (String.fromUTF8? ⟨(unescape cs).toArray⟩).map String.toList

/-! ### Paths -/

/-- The segments of a path, each written behind a slash. -/
abbrev Path := List (List Char)

namespace Path

def plainDots : List Char → List Char
  | '%' :: '2' :: e :: rest =>
      if e = 'e' ∨ e = 'E' then '.' :: plainDots rest else '%' :: '2' :: plainDots (e :: rest)
  | c :: rest => c :: plainDots rest
  | [] => []

def isHere (segment : List Char) : Bool :=
  plainDots segment == ['.']

def isBack (segment : List Char) : Bool :=
  plainDots segment == ['.', '.']

def isDrive : List Char → Bool
  | [letter, mark] => letter.isAlpha && (mark == ':' || mark == '|')
  | _ => false

/-- Goes back over the last of the segments so far, which are listed backwards. -/
def back : List (List Char) → List (List Char)
  | [] => []
  | segment :: earlier => if isDrive segment then segment :: earlier else earlier

/-- Follows segments, given those so far listed backwards. A path that ends with dots ends with an
empty segment in their place. -/
def followFrom (sofar : List (List Char)) : List (List Char) → Path
  | [] => sofar.reverse
  | segment :: rest =>
      let reached :=
        if isBack segment then back sofar
        else if isHere segment then sofar
        else segment :: sofar
      let ended := rest.isEmpty && (isBack segment || isHere segment)
      followFrom (if ended then [] :: reached else reached) rest

def follow (segments : List (List Char)) : Path :=
  followFrom [] segments

def text (path : Path) : List Char :=
  path.flatMap ('/' :: ·)

end Path

end ApiConsole.Url
