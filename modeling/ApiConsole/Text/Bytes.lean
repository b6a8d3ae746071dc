/-!
# Bytes and texts

Bytes are written in groups of three as four characters of six bits each; a last group that is
shorter is filled up with equals signs.

Bytes are decoded as UTF-8. Where they are no text, the longest run that could have started a
character makes one replacement character. A byte order mark at the start is dropped.
-/

namespace ApiConsole.Text

/-! ### Base 64 -/

def sextet (n : Nat) : Char :=
  if n < 26 then Char.ofNat (65 + n)
  else if n < 52 then Char.ofNat (71 + n)
  else if n < 62 then Char.ofNat (n - 4)
  else if n = 62 then '+'
  else '/'

def quartet (a b c : Nat) : List Char :=
  [sextet (a / 4), sextet (a % 4 * 16 + b / 16), sextet (b % 16 * 4 + c / 64), sextet (c % 64)]

def base64 : List UInt8 → List Char
  | [] => []
  | [a] => (quartet a.toNat 0 0).take 2 ++ ['=', '=']
  | [a, b] => (quartet a.toNat b.toNat 0).take 3 ++ ['=']
  | a :: b :: c :: rest => quartet a.toNat b.toNat c.toNat ++ base64 rest

/-! ### Decoding bytes that may be no text -/

def replacement : Char := '\uFFFD'

/-- A character of which some bytes have been read. -/
structure Unfinished where
  /-- How many bytes are missing. -/
  missing : Nat
  /-- The least and the greatest value of the next byte. -/
  least : Nat
  greatest : Nat
  /-- The bits read so far. -/
  bits : Nat

/-- The character that a byte starts, unless it is one by itself or starts none. -/
def Unfinished.start? (byte : Nat) : Option Unfinished :=
  if 0xC2 ≤ byte && byte ≤ 0xDF then some ⟨1, 0x80, 0xBF, byte - 0xC0⟩
  else if 0xE0 ≤ byte && byte ≤ 0xEF then
    some ⟨2, if byte = 0xE0 then 0xA0 else 0x80, if byte = 0xED then 0x9F else 0xBF, byte - 0xE0⟩
  else if 0xF0 ≤ byte && byte ≤ 0xF4 then
    some ⟨3, if byte = 0xF0 then 0x90 else 0x80, if byte = 0xF4 then 0x8F else 0xBF, byte - 0xF0⟩
  else none

/-- What a byte at the start of a character gives: characters, or the start of one. -/
def firstByte (byte : Nat) : List Char × Option Unfinished :=
  if byte < 0x80 then ([Char.ofNat byte], none)
  else
    match Unfinished.start? byte with
    | some state => ([], some state)
    | none => ([replacement], none)

def nextByte (state : Unfinished) (byte : Nat) : List Char × Option Unfinished :=
  if state.least ≤ byte && byte ≤ state.greatest then
    let bits := 64 * state.bits + (byte - 0x80)
    if state.missing ≤ 1 then ([Char.ofNat bits], none)
    else ([], some ⟨state.missing - 1, 0x80, 0xBF, bits⟩)
  else
    let (chars, after) := firstByte byte
    (replacement :: chars, after)

/-- The characters of bytes, of which the first may have been read. -/
def decodeFrom : Option Unfinished → List UInt8 → List Char
  | none, [] => []
  | some _, [] => [replacement]
  | state, byte :: rest =>
      let (chars, after) :=
        match state with
        | none => firstByte byte.toNat
        | some state => nextByte state byte.toNat
      chars ++ decodeFrom after rest

def dropMark : List UInt8 → List UInt8
  | 0xEF :: 0xBB :: 0xBF :: rest => rest
  | bytes => bytes

def decodeLossy (bytes : List UInt8) : String :=
  String.ofList (decodeFrom none (dropMark bytes))

end ApiConsole.Text
