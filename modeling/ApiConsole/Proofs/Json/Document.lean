import ApiConsole.Json.Node
import ApiConsole.Proofs.Json.Numeral
import ApiConsole.Proofs.Json.Quoted

/-!
# Documents

A document is a tree as it is written: numbers are kept as numerals and names may repeat.  What a
tree is written as is told by the grammar, and its value is what is left of it when the numerals
have become numbers and each name has been kept once.
-/

namespace ApiConsole.Json

/-- What a document says, as it is written. -/
inductive Tree where
  | null
  | bool (value : Bool)
  | number (numeral : Numeral)
  | string (text : String)
  | array (items : List Tree)
  | object (pairs : List (String × Tree))

instance : Inhabited Tree := ⟨.null⟩

def IsBlank (cs : List Char) : Prop :=
  ∀ c ∈ cs, Cursor.isSpace c = true

mutual

/-- What a tree is written as, with no white space around it. -/
inductive Spells : Tree → List Char → Prop where
  | nullLiteral : Spells .null ['n', 'u', 'l', 'l']
  | trueLiteral : Spells (.bool true) ['t', 'r', 'u', 'e']
  | falseLiteral : Spells (.bool false) ['f', 'a', 'l', 's', 'e']
  | number (numeral : Numeral) : Spells (.number numeral) numeral.text
  | string {written meant : List Char} (quoted : Quoted written meant) :
      Spells (.string (String.ofList meant)) ('"' :: (written ++ ['"']))
  | emptyArray {space : List Char} (blank : IsBlank space) :
      Spells (.array []) ('[' :: (space ++ [']']))
  | array {space body : List Char} {items : List Tree} (blank : IsBlank space)
      (inside : SpellsItems items body) : Spells (.array items) ('[' :: (space ++ body ++ [']']))
  | emptyObject {space : List Char} (blank : IsBlank space) :
      Spells (.object []) ('\x7b' :: (space ++ ['\x7d']))
  | object {space body : List Char} {pairs : List (String × Tree)} (blank : IsBlank space)
      (inside : SpellsPairs pairs body) :
      Spells (.object pairs) ('\x7b' :: (space ++ body ++ ['\x7d']))

/-- What the items of an array are written as, from the first item to the closing bracket. -/
inductive SpellsItems : List Tree → List Char → Prop where
  | last {item : Tree} {text space : List Char} (spelled : Spells item text)
      (blank : IsBlank space) : SpellsItems [item] (text ++ space)
  | next {item : Tree} {items : List Tree} {text space front rest : List Char}
      (spelled : Spells item text) (blank : IsBlank space) (blankFront : IsBlank front)
      (others : SpellsItems items rest) :
      SpellsItems (item :: items) (text ++ (space ++ ',' :: (front ++ rest)))

/-- What the members of an object are written as, from the first name to the closing brace. -/
inductive SpellsPairs : List (String × Tree) → List Char → Prop where
  | last {pair : String × Tree} {text space : List Char} (spelled : SpellsPair pair text)
      (blank : IsBlank space) : SpellsPairs [pair] (text ++ space)
  | next {pair : String × Tree} {pairs : List (String × Tree)} {text space front rest : List Char}
      (spelled : SpellsPair pair text) (blank : IsBlank space) (blankFront : IsBlank front)
      (others : SpellsPairs pairs rest) :
      SpellsPairs (pair :: pairs) (text ++ (space ++ ',' :: (front ++ rest)))

inductive SpellsPair : String × Tree → List Char → Prop where
  | intro {written meant gap front text : List Char} {tree : Tree} (name : Quoted written meant)
      (blankGap : IsBlank gap) (blankFront : IsBlank front) (spelled : Spells tree text) :
      SpellsPair (String.ofList meant, tree)
        ('"' :: (written ++ '"' :: (gap ++ ':' :: (front ++ text))))

end

/-- What a document is written as: a tree with white space around it. -/
def IsDocument (tree : Tree) (text : List Char) : Prop :=
  ∃ front core behind, IsBlank front ∧ Spells tree core ∧ IsBlank behind ∧
    text = front ++ (core ++ behind)

mutual

/-- The value of a tree, if no more than `depth` containers stand inside each other and no number is
beyond the greatest double. -/
def Tree.value? : Nat → Tree → Option Value
  | _, .null => some .null
  | _, .bool b => some (.bool b)
  | _, .number numeral => numeral.number?.map .number
  | _, .string text => some (.string text)
  | 0, .array _ => none
  | depth + 1, .array items => (itemValues? depth items).map .array
  | 0, .object _ => none
  | depth + 1, .object pairs =>
      (pairValues? depth pairs).map fun pairs => .object (Members.ofPairs pairs)

def itemValues? : Nat → List Tree → Option (List Value)
  | _, [] => some []
  | depth, item :: rest => do
      let value ← item.value? depth
      return value :: (← itemValues? depth rest)

def pairValues? : Nat → List (String × Tree) → Option (List (String × Value))
  | _, [] => some []
  | depth, (name, tree) :: rest => do
      let value ← tree.value? depth
      return (name, value) :: (← pairValues? depth rest)

end

section

variable {depth : Nat} {item : Tree} {items : List Tree} {pair : String × Tree}
  {pairs : List (String × Tree)} {value : Value} {values : List Value}
  {members : List (String × Value)}

theorem itemValues?_cons_eq_some_iff :
    itemValues? depth (item :: items) = some values ↔ ∃ first others,
      item.value? depth = some first ∧ itemValues? depth items = some others ∧
        values = first :: others := by
  simp [itemValues?, Option.bind_eq_some_iff, @eq_comm _ values]

theorem pairValues?_cons_eq_some_iff :
    pairValues? depth (pair :: pairs) = some members ↔ ∃ first others,
      pair.2.value? depth = some first ∧ pairValues? depth pairs = some others ∧
        members = (pair.1, first) :: others := by
  obtain ⟨name, tree⟩ := pair
  simp [pairValues?, Option.bind_eq_some_iff, @eq_comm _ members]

theorem Tree.value?_array_eq_some_iff :
    (Tree.array items).value? depth = some value ↔ ∃ less values,
      depth = less + 1 ∧ itemValues? less items = some values ∧ value = .array values := by
  cases depth <;> simp [Tree.value?, @eq_comm _ value]

theorem Tree.value?_object_eq_some_iff :
    (Tree.object pairs).value? depth = some value ↔ ∃ less members,
      depth = less + 1 ∧ pairValues? less pairs = some members ∧
        value = .object (Members.ofPairs members) := by
  cases depth <;> simp [Tree.value?, @eq_comm _ value]

end

mutual

/-- A node keeps a tree: what stands in it, repeated names included. -/
inductive Node.Keeps : Node → Tree → Prop where
  | null (span : Span) : Node.Keeps (.null span) .null
  | bool (b : Bool) (span : Span) : Node.Keeps (.bool b span) (.bool b)
  | number (n : Number) (span : Span) (numeral : Numeral) :
      Node.Keeps (.number n span) (.number numeral)
  | string (text : String) (span : Span) : Node.Keeps (.string text span) (.string text)
  | array (start : Mark) {items : Items} {trees : List Tree} (inside : Items.Keep items trees) :
      Node.Keeps (.array start items) (.array trees)
  | object (start : Mark) {entries : Entries} {pairs : List (String × Tree)}
      (inside : Entries.Keep entries pairs) : Node.Keeps (.object start entries) (.object pairs)

inductive Items.Keep : Items → List Tree → Prop where
  | close (stop : Mark) : Items.Keep (.close stop) []
  | item {node : Node} {tree : Tree} (next : Mark) {rest : Items} {trees : List Tree}
      (first : Node.Keeps node tree) (others : Items.Keep rest trees) :
      Items.Keep (.item node next rest) (tree :: trees)

inductive Entries.Keep : Entries → List (String × Tree) → Prop where
  | close (stop : Mark) : Entries.Keep (.close stop) []
  | entry (name : Name) {node : Node} {tree : Tree} (next : Mark) {rest : Entries}
      {pairs : List (String × Tree)} (first : Node.Keeps node tree)
      (others : Entries.Keep rest pairs) :
      Entries.Keep (.entry name node next rest) ((name.text, tree) :: pairs)

end

end ApiConsole.Json
