import ApiConsole.Json.Double.Text
import ApiConsole.Json.Value

/-!
# Writing values

A value is written in two layouts. The compact one holds no white space outside of strings. The
pretty one puts each item and each member on a line of its own, two spaces further in than the
bracket that holds it; an empty container stays on one line in both.
-/

namespace ApiConsole.Json

def hexDigit (n : Nat) : Char :=
  Nat.digitChar n

/-- A character of a string: quote, backslash and control characters are escaped. -/
def escape (c : Char) : List Char :=
  if c = '"' then ['\\', '"']
  else if c = '\\' then ['\\', '\\']
  else if c = '\x08' then ['\\', 'b']
  else if c = '\x0C' then ['\\', 'f']
  else if c = '\n' then ['\\', 'n']
  else if c = '\r' then ['\\', 'r']
  else if c = '\t' then ['\\', 't']
  else if c.val < 0x20 then
    ['\\', 'u', '0', '0', hexDigit (c.toNat / 16), hexDigit (c.toNat % 16)]
  else [c]

def quote (text : String) : List Char :=
  '"' :: text.toList.flatMap escape ++ ['"']

/-- The decimal digits of a whole number, after a minus sign if it is negative. -/
def integerText (n : Int) : List Char :=
  if n < 0 then '-' :: Decimal.digitsOf n.natAbs else Decimal.digitsOf n.natAbs

def Number.text : Number → List Char
  | .integer n _ => integerText n
  | .double x => x.text doubleFormat

def separated (separator : List Char) : List (List Char) → List Char
  | [] => []
  | [text] => text
  | text :: rest => text ++ separator ++ separated separator rest

namespace Value

mutual

def compact : Value → List Char
  | .null => ['n', 'u', 'l', 'l']
  | .bool true => ['t', 'r', 'u', 'e']
  | .bool false => ['f', 'a', 'l', 's', 'e']
  | .number n => n.text
  | .string text => quote text
  | .array items => '[' :: separated [','] (compactItems items) ++ [']']
  | .object members => '\x7b' :: separated [','] (compactMembers members) ++ ['\x7d']

def compactItems : List Value → List (List Char)
  | [] => []
  | item :: rest => item.compact :: compactItems rest

def compactMembers : List (String × Value) → List (List Char)
  | [] => []
  | (name, value) :: rest => (quote name ++ ':' :: value.compact) :: compactMembers rest

end

/-- The end of a line and the start of the next, at a depth of nesting. -/
def newLine (depth : Nat) : List Char :=
  '\n' :: List.replicate (2 * depth) ' '

/-- A container: its entries, if any, on lines of their own between the brackets. -/
def enclose (opening closing : Char) (depth : Nat) (entries : List (List Char)) : List Char :=
  if entries.isEmpty then [opening, closing]
  else
    opening :: newLine (depth + 1) ++ separated (',' :: newLine (depth + 1)) entries ++
      newLine depth ++ [closing]

mutual

/-- The pretty layout of a value that stands at a depth of nesting. -/
def prettyAt (depth : Nat) : Value → List Char
  | .null => ['n', 'u', 'l', 'l']
  | .bool true => ['t', 'r', 'u', 'e']
  | .bool false => ['f', 'a', 'l', 's', 'e']
  | .number n => n.text
  | .string text => quote text
  | .array items => enclose '[' ']' depth (prettyItems (depth + 1) items)
  | .object members => enclose '\x7b' '\x7d' depth (prettyMembers (depth + 1) members)

def prettyItems (depth : Nat) : List Value → List (List Char)
  | [] => []
  | item :: rest => item.prettyAt depth :: prettyItems depth rest

def prettyMembers (depth : Nat) : List (String × Value) → List (List Char)
  | [] => []
  | (name, value) :: rest =>
      (quote name ++ ':' :: ' ' :: value.prettyAt depth) :: prettyMembers depth rest

end

def pretty (value : Value) : List Char :=
  value.prettyAt 0

theorem compactItems_eq_map (items : List Value) : compactItems items = items.map compact := by
  induction items with
  | nil => rfl
  | cons item rest ih => simp [compactItems, ih]

theorem prettyItems_eq_map (depth : Nat) (items : List Value) :
    prettyItems depth items = items.map (prettyAt depth) := by
  induction items with
  | nil => rfl
  | cons item rest ih => simp [prettyItems, ih]

theorem compactMembers_eq_map (members : List (String × Value)) :
    compactMembers members =
      members.map fun member => quote member.1 ++ ':' :: member.2.compact := by
  induction members with
  | nil => rfl
  | cons member rest ih => simp [compactMembers, ih]

theorem prettyMembers_eq_map (depth : Nat) (members : List (String × Value)) :
    prettyMembers depth members =
      members.map fun member => quote member.1 ++ ':' :: ' ' :: member.2.prettyAt depth := by
  induction members with
  | nil => rfl
  | cons member rest ih => simp [prettyMembers, ih]

end Value

end ApiConsole.Json
