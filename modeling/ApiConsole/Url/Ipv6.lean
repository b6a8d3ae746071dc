import ApiConsole.Text.Basic

/-!
# IPv6 addresses

An address has eight groups of 16 bits. Two colons stand for one or more groups of zero, once; the
last two groups may be written as four bytes in decimal.
-/

namespace ApiConsole.Url

structure Ipv6 where
  groups : List UInt16
  length_groups : groups.length = 8

instance : DecidableEq Ipv6 := fun first second =>
  if h : first.groups = second.groups then
    isTrue (by cases first; cases second; simp_all)
  else isFalse fun same => h (congrArg Ipv6.groups same)

namespace Ipv6

def group? (cs : List Char) : Option UInt16 := do
  if cs.isEmpty ∨ 4 < cs.length then none
  else return .ofNat (Text.numberOf 16 (← cs.mapM Text.hexValue?))

/-- A byte in decimal, without needless zeros. -/
def byte? (cs : List Char) : Option Nat :=
  if cs.isEmpty || !cs.all Char.isDigit || (1 < cs.length && cs.head? == some '0') then none
  else
    let number := Text.digitsValue cs
    if number < 256 then some number else none

def tail? (cs : List Char) : Option (List UInt16) := do
  match ← (Text.splitOn (· == '.') cs).mapM byte? with
  | [a, b, c, d] => return [.ofNat (256 * a + b), .ofNat (256 * c + d)]
  | _ => none

/-- The groups of fields, the last of which may be four bytes where that is allowed. -/
def groups? (bytesAllowed : Bool) : List (List Char) → Option (List UInt16)
  | [] => some []
  | [field] =>
      if bytesAllowed && field.contains '.' then tail? field else (group? field).map ([·])
  | field :: rest => do return (← group? field) :: (← groups? bytesAllowed rest)

def side? (bytesAllowed : Bool) (cs : List Char) : Option (List UInt16) :=
  if cs.isEmpty then some [] else groups? bytesAllowed (Text.splitOn (· == ':') cs)

/-- What stands before and behind the first two colons next to each other. -/
def cutAtGap? : List Char → Option (List Char × List Char)
  | ':' :: ':' :: rest => some ([], rest)
  | c :: rest => (cutAtGap? rest).map fun (before, behind) => (c :: before, behind)
  | [] => none

def ofSides? (before behind : List UInt16) : Option Ipv6 :=
  if h : before.length + behind.length < 8 then
    some ⟨before ++ List.replicate (8 - before.length - behind.length) 0 ++ behind, by
      simp only [List.length_append, List.length_replicate]
      omega⟩
  else none

def ofText? (cs : List Char) : Option Ipv6 := do
  match cutAtGap? cs with
  | some (before, behind) => ofSides? (← side? false before) (← side? true behind)
  | none =>
      let groups ← groups? true (Text.splitOn (· == ':') cs)
      if h : groups.length = 8 then some ⟨groups, h⟩ else none

def zerosAhead (groups : List UInt16) : Nat :=
  (groups.takeWhile (· == 0)).length

/-- Where the longest run of zeros starts, the first of several, and how long it is. -/
def longestZeros (groups : List UInt16) : Nat × Nat :=
  (List.range groups.length).foldl
    (fun best start =>
      let length := zerosAhead (groups.drop start)
      if best.2 < length then (start, length) else best)
    (0, 0)

def groupsText (groups : List UInt16) : List Char :=
  Text.joinWith [':'] (groups.map fun group => Nat.toDigits 16 group.toNat)

/-- The text of an address, in which the longest run of two zeros or more is left out. -/
def text (address : Ipv6) : List Char :=
  let (start, length) := longestZeros address.groups
  if length < 2 then groupsText address.groups
  else
    groupsText (address.groups.take start) ++ [':', ':'] ++
      groupsText (address.groups.drop (start + length))

end Ipv6

end ApiConsole.Url
