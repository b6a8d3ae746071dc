/-!
# Texts

The characters that separate words are those with the Unicode property White_Space. Texts are
trimmed of blanks at either end, split at the first blank, and cut into words.

A text is split at every character of a kind; the pieces do not hold such characters and may be
empty.

A table is written in columns of a least width. Width counts characters, and a longer text is
kept whole.

Decimal and hexadecimal digits have values, and runs of them make numbers.
-/

namespace ApiConsole.Text

/-! ### Blanks -/

def isBlank (c : Char) : Bool :=
  let n := c.val
  (0x09 ≤ n && n ≤ 0x0D) || n == 0x20 || n == 0x85 || n == 0xA0 || n == 0x1680 ||
    (0x2000 ≤ n && n ≤ 0x200A) || n == 0x2028 || n == 0x2029 || n == 0x202F || n == 0x205F ||
    n == 0x3000

def trimStart (cs : List Char) : List Char :=
  cs.dropWhile isBlank

def trimEnd (cs : List Char) : List Char :=
  (cs.reverse.dropWhile isBlank).reverse

def trim (cs : List Char) : List Char :=
  trimEnd (trimStart cs)

/-- Cuts a text at its first blank, which belongs to neither half. -/
def cutAtBlank? : List Char → Option (List Char × List Char)
  | [] => none
  | c :: rest =>
      if isBlank c then some ([], rest)
      else (cutAtBlank? rest).map fun (before, after) => (c :: before, after)

/-- The maximal runs of characters that are not blank, in order. -/
def words : List Char → List (List Char)
  | [] => []
  | c :: rest =>
      if isBlank c then words rest
      else
        match rest with
        | [] => [[c]]
        | d :: _ =>
            if isBlank d then [c] :: words rest
            else
              match words rest with
              | [] => [[c]]
              | word :: others => (c :: word) :: others

/-! ### Splitting -/

def splitOn (separates : Char → Bool) : List Char → List (List Char)
  | [] => [[]]
  | c :: rest =>
      if separates c then [] :: splitOn separates rest
      else
        match splitOn separates rest with
        | [] => [[c]]
        | piece :: others => (c :: piece) :: others

def joinWith (separator : List Char) : List (List Char) → List Char
  | [] => []
  | [text] => text
  | text :: rest => text ++ separator ++ joinWith separator rest

/-! ### Columns -/

/-- The text followed by as many spaces as it falls short of the width. -/
def padRight (width : Nat) (cs : List Char) : List Char :=
  cs ++ List.replicate (width - cs.length) ' '

/-! ### Digits -/

def digitValue (c : Char) : Nat :=
  c.toNat - 48

def hexValue? (c : Char) : Option Nat :=
  if '0' ≤ c ∧ c ≤ '9' then some (c.toNat - 48)
  else if 'a' ≤ c ∧ c ≤ 'f' then some (c.toNat - 87)
  else if 'A' ≤ c ∧ c ≤ 'F' then some (c.toNat - 55)
  else none

def hexDigit (n : Nat) : Char :=
  if n < 10 then Char.ofNat (48 + n) else Char.ofNat (55 + n)

/-- The number whose digits in a base are given, the most significant first. -/
def numberOf (base : Nat) (digits : List Nat) : Nat :=
  digits.foldl (fun number digit => base * number + digit) 0

def digitsValue (cs : List Char) : Nat :=
  numberOf 10 (cs.map digitValue)

end ApiConsole.Text
