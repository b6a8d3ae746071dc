import ApiConsole.Json.Writer
import ApiConsole.Proofs.Json.Integer
import ApiConsole.Proofs.Json.Names
import ApiConsole.Proofs.Json.Reading
import ApiConsole.Proofs.Json.Search

/-!
# What is written can be read

Both layouts of a value are documents by the grammar, and of one tree.  If no number in the value is
a double and no object in it holds a name twice, that tree has the value wherever its containers are
not too deep inside each other.
-/

namespace ApiConsole.Json

namespace Value

/-- Something holds of a value and of everything inside it. -/
inductive Throughout (p : Value → Prop) : Value → Prop where
  | intro {value : Value} (here : p value) (inside : ∀ child ∈ value.children, Throughout p child) :
      Throughout p value

def Integral : Value → Prop :=
  Throughout fun value => ∀ x, value ≠ .number (.double x)

/-- No object in a value holds a name twice. -/
def Distinct : Value → Prop :=
  Throughout fun value => ∀ members, value = .object members → (members.map Prod.fst).Nodup

mutual

def depth : Value → Nat
  | .array items => depthOfItems items + 1
  | .object members => depthOfMembers members + 1
  | _ => 0

def depthOfItems : List Value → Nat
  | [] => 0
  | item :: rest => max item.depth (depthOfItems rest)

def depthOfMembers : List (String × Value) → Nat
  | [] => 0
  | (_, value) :: rest => max value.depth (depthOfMembers rest)

end

end Value

/-! ## Scalars -/

theorem hexValue?_digitChar {n : Nat} (small : n < 16) : Text.hexValue? (hexDigit n) = some n := by
  have all : ∀ m < 16, Text.hexValue? (hexDigit m) = some m := by decide
  exact all n small

/-- A character is escaped by a letter, by its number, or not at all. -/
theorem escape_cases (c : Char) :
    (∃ letter, escape c = ['\\', letter] ∧ unescape? letter = some c) ∨
      (escape c = ['\\', 'u', '0', '0', hexDigit (c.toNat / 16), hexDigit (c.toNat % 16)] ∧
        c.toNat < 32) ∨
      (escape c = [c] ∧ c ≠ '"' ∧ c ≠ '\\' ∧ ¬c.val < 0x20) := by
  by_cases short : c ∈ ['"', '\\', '\x08', '\x0C', '\n', '\r', '\t']
  · left
    simp only [List.mem_cons, List.not_mem_nil, or_false] at short
    rcases short with rfl | rfl | rfl | rfl | rfl | rfl | rfl <;> exact ⟨_, rfl, rfl⟩
  · simp only [List.mem_cons, List.not_mem_nil, or_false, not_or] at short
    by_cases control : c.val < 0x20
    · exact .inr (.inl ⟨by simp [escape, short, control], UInt32.lt_iff_toNat_lt.mp control⟩)
    · exact .inr (.inr ⟨by simp [escape, short, control], short.1, short.2.1, control⟩)

/-- Every character stands in a string as what it is escaped to. -/
theorem quoted_escape_append (c : Char) {written meant : List Char} (rest : Quoted written meant) :
    Quoted (escape c ++ written) (c :: meant) := by
  rcases escape_cases c with ⟨letter, same, stands⟩ | ⟨same, small⟩ | ⟨same, visible⟩
  · exact same ▸ .escape stands rest
  · have digits : unit? '0' '0' (hexDigit (c.toNat / 16)) (hexDigit (c.toNat % 16)) =
        some c.toNat := by
      refine unit?_eq_some_iff.mpr ⟨0, 0, c.toNat / 16, c.toNat % 16, rfl, rfl, ?_, ?_, by omega⟩
      · exact hexValue?_digitChar (by omega)
      · exact hexValue?_digitChar (by omega)
    have whole : ¬isTrailing c.toNat ∧ ¬isLeading c.toNat := by
      simp only [isTrailing, isLeading, Bool.and_eq_true, decide_eq_true_eq]
      omega
    have unit := Quoted.unit digits whole rest
    rw [Char.ofNat_toNat] at unit
    exact same ▸ unit
  · exact same ▸ .plain visible rest

theorem quoted_escaped (cs : List Char) : Quoted (cs.flatMap escape) cs := by
  induction cs with
  | nil => exact .nil
  | cons c rest ih => exact quoted_escape_append c ih

def Numeral.ofInt (n : Int) : Numeral :=
  .ofNat (decide (n < 0)) n.natAbs

theorem Numeral.digitsValue_toDigits (number : Nat) :
    Text.digitsValue (Nat.toDigits 10 number) = number := by
  have same := congrArg (Nat.ofDigitChars 10 · 0) (toDigits_digitsValue (isWhole_toDigits number))
  simpa only [Nat.ofDigitChars_toDigits (b := 10) (by decide) (by decide)] using same

theorem Numeral.value_ofInt (n : Int) : (ofInt n).value = n := by
  simp only [value, ofInt, ofNat, digitsValue_toDigits, decide_eq_true_eq]
  split <;> omega

theorem Numeral.text_ofInt (n : Int) : (ofInt n).text = integerText n := by
  rw [text_of_isInteger ⟨rfl, rfl⟩, integerText]
  simp only [ofInt, ofNat, decide_eq_true_eq]
  rfl

theorem Numeral.number?_ofInt (n : Int) (fits : Fits n) :
    (ofInt n).number? = some (.integer n fits) := by
  have signed : (ofInt n).text ≠ minusZero := by
    rw [ne_eq, text_eq_minusZero_iff ⟨rfl, rfl⟩]
    simp only [ofInt, ofNat, digitsValue_toDigits, decide_eq_true_eq]
    omega
  have read := (number?_of_fits ⟨rfl, rfl⟩ signed ((value_ofInt n).symm ▸ fits)).1
  simpa only [value_ofInt] using read

/-! ## Containers -/

/-- A container with its entries, if any, and white space before each and behind the last. -/
def bracketed (opening closing : Char) (front behind : List Char) (entries : List (List Char)) :
    List Char :=
  if entries.isEmpty then [opening, closing]
  else opening :: front ++ separated (',' :: front) entries ++ behind ++ [closing]

theorem bracketed_nil (opening closing : Char) (entries : List (List Char)) :
    bracketed opening closing [] [] entries =
      opening :: separated [','] entries ++ [closing] := by
  cases entries <;> simp [bracketed, separated]

theorem isBlank_newLine (depth : Nat) : IsBlank (Value.newLine depth) := by
  intro c member
  rcases List.mem_cons.mp member with rfl | member
  · rfl
  · rw [List.eq_of_mem_replicate member]
    rfl

section

variable {α : Type} {text : α → List Char} {front behind : List Char} (blankFront : IsBlank front)
  (blankBehind : IsBlank behind)
include blankFront blankBehind

theorem spellsItems_separated {tree : α → Tree} {items : List α} (nonempty : items ≠ [])
    (each : ∀ item ∈ items, Spells (tree item) (text item)) :
    SpellsItems (items.map tree) (separated (',' :: front) (items.map text) ++ behind) := by
  induction items with
  | nil => exact absurd rfl nonempty
  | cons item rest ih =>
      obtain ⟨first, others⟩ := List.forall_mem_cons.mp each
      cases rest with
      | nil => exact .last first blankBehind
      | cons next rest =>
          have more := SpellsItems.next first .nil blankFront (ih (List.cons_ne_nil _ _) others)
          simpa [separated] using more

theorem spells_array {tree : α → Tree} {items : List α}
    (each : ∀ item ∈ items, Spells (tree item) (text item)) :
    Spells (.array (items.map tree)) (bracketed '[' ']' front behind (items.map text)) := by
  cases items with
  | nil => exact .emptyArray .nil
  | cons item rest =>
      have inside := spellsItems_separated blankFront blankBehind (List.cons_ne_nil _ _) each
      simpa [bracketed] using Spells.array blankFront inside

theorem spellsPairs_separated {pair : α → String × Tree} {members : List α}
    (nonempty : members ≠ []) (each : ∀ member ∈ members, SpellsPair (pair member) (text member)) :
    SpellsPairs (members.map pair) (separated (',' :: front) (members.map text) ++ behind) := by
  induction members with
  | nil => exact absurd rfl nonempty
  | cons member rest ih =>
      obtain ⟨first, others⟩ := List.forall_mem_cons.mp each
      cases rest with
      | nil => exact .last first blankBehind
      | cons next rest =>
          have more := SpellsPairs.next first .nil blankFront (ih (List.cons_ne_nil _ _) others)
          simpa [separated] using more

theorem spells_object {pair : α → String × Tree} {members : List α}
    (each : ∀ member ∈ members, SpellsPair (pair member) (text member)) :
    Spells (.object (members.map pair))
      (bracketed '\x7b' '\x7d' front behind (members.map text)) := by
  cases members with
  | nil => exact .emptyObject .nil
  | cons member rest =>
      have inside := spellsPairs_separated blankFront blankBehind (List.cons_ne_nil _ _) each
      simpa [bracketed] using Spells.object blankFront inside

end

theorem spells_quote (text : String) : Spells (.string text) (quote text) := by
  have spelled := Spells.string (quoted_escaped text.toList)
  rwa [String.ofList_toList] at spelled

theorem spellsPair_quote (name : String) {tree : Tree} {gap text : List Char} (blank : IsBlank gap)
    (spelled : Spells tree text) : SpellsPair (name, tree) (quote name ++ ':' :: (gap ++ text)) := by
  have pair := SpellsPair.intro (quoted_escaped name.toList) .nil blank spelled
  rw [String.ofList_toList] at pair
  simpa [quote] using pair

/-! ## Values -/

/-- The tree of a value is written in either layout, and has the value back. -/
structure Written (tree : Tree) (value : Value) : Prop where
  means : ∀ depth, value.depth ≤ depth → tree.value? depth = some value
  compact : Spells tree value.compact
  pretty : ∀ depth, Spells tree (value.prettyAt depth)

theorem itemValues?_map {tree : Value → Tree} {items : List Value} {depth : Nat}
    (each : ∀ item ∈ items, ∀ depth, item.depth ≤ depth → (tree item).value? depth = some item)
    (shallow : Value.depthOfItems items ≤ depth) :
    itemValues? depth (items.map tree) = some items := by
  induction items with
  | nil => rfl
  | cons item rest ih =>
      obtain ⟨first, others⟩ := List.forall_mem_cons.mp each
      obtain ⟨here, behind⟩ := Nat.max_le.mp shallow
      exact itemValues?_cons_eq_some_iff.mpr ⟨item, rest, first depth here, ih others behind, rfl⟩

theorem pairValues?_map {tree : Value → Tree} {members : List (String × Value)} {depth : Nat}
    (each : ∀ member ∈ members, ∀ depth, member.2.depth ≤ depth →
      (tree member.2).value? depth = some member.2)
    (shallow : Value.depthOfMembers members ≤ depth) :
    pairValues? depth (members.map fun member => (member.1, tree member.2)) = some members := by
  induction members with
  | nil => rfl
  | cons member rest ih =>
      obtain ⟨first, others⟩ := List.forall_mem_cons.mp each
      obtain ⟨here, behind⟩ := Nat.max_le.mp shallow
      exact pairValues?_cons_eq_some_iff.mpr
        ⟨member.2, rest, first depth here, ih others behind, rfl⟩

theorem Written.array {tree : Value → Tree} {items : List Value}
    (each : ∀ item ∈ items, Written (tree item) item) :
    Written (.array (items.map tree)) (.array items) where
  means depth shallow := by
    obtain ⟨less, rfl⟩ := Nat.exists_eq_add_of_le' (Nat.le_of_add_left_le shallow)
    have read := itemValues?_map (fun item member => (each item member).means)
      (Nat.le_of_succ_le_succ shallow)
    exact Tree.value?_array_eq_some_iff.mpr ⟨less, items, rfl, read, rfl⟩
  compact := by
    rw [Value.compact, Value.compactItems_eq_map, ← bracketed_nil]
    exact spells_array .nil .nil fun item member => (each item member).compact
  pretty depth := by
    rw [Value.prettyAt, Value.prettyItems_eq_map]
    exact spells_array (isBlank_newLine _) (isBlank_newLine _)
      fun item member => (each item member).pretty (depth + 1)

theorem Written.object {tree : Value → Tree} {members : List (String × Value)}
    (distinct : (members.map Prod.fst).Nodup)
    (each : ∀ member ∈ members, Written (tree member.2) member.2) :
    Written (.object (members.map fun member => (member.1, tree member.2))) (.object members) where
  means depth shallow := by
    obtain ⟨less, rfl⟩ := Nat.exists_eq_add_of_le' (Nat.le_of_add_left_le shallow)
    have read := pairValues?_map (fun member there => (each member there).means)
      (Nat.le_of_succ_le_succ shallow)
    refine Tree.value?_object_eq_some_iff.mpr ⟨less, members, rfl, read, ?_⟩
    rw [Members.ofPairs_of_nodup distinct]
  compact := by
    rw [Value.compact, Value.compactMembers_eq_map, ← bracketed_nil]
    exact spells_object .nil .nil fun member there =>
      spellsPair_quote member.1 .nil (each member there).compact
  pretty depth := by
    have space : IsBlank [' '] := fun c member => List.mem_singleton.mp member ▸ rfl
    rw [Value.prettyAt, Value.prettyMembers_eq_map]
    exact spells_object (isBlank_newLine _) (isBlank_newLine _) fun member there =>
      spellsPair_quote member.1 space ((each member there).pretty (depth + 1))

/-- A value is written as one tree, which has it back if its numbers are integers and its names
distinct. -/
theorem Value.exists_written {value : Value} (integral : value.Integral)
    (distinct : value.Distinct) : ∃ tree, Written tree value := by
  induction integral with
  | @intro value here _ ih =>
      obtain ⟨apart, inside⟩ := distinct
      cases value with
      | null => exact ⟨.null, fun _ _ => rfl, .nullLiteral, fun _ => .nullLiteral⟩
      | bool b =>
          cases b with
          | true => exact ⟨.bool true, fun _ _ => rfl, .trueLiteral, fun _ => .trueLiteral⟩
          | false => exact ⟨.bool false, fun _ _ => rfl, .falseLiteral, fun _ => .falseLiteral⟩
      | number number =>
          cases number with
          | double x => exact absurd rfl (here x)
          | integer n fits =>
              have spelled := Spells.number (.ofInt n)
              rw [Numeral.text_ofInt] at spelled
              refine ⟨.number (.ofInt n), fun depth _ => ?_, spelled, fun _ => spelled⟩
              rw [Tree.value?, Numeral.number?_ofInt n fits]
              rfl
      | string text =>
          exact ⟨.string text, fun _ _ => rfl, spells_quote text, fun _ => spells_quote text⟩
      | array items =>
          choose! tree written using fun item member => ih item member (inside item member)
          exact ⟨_, .array written⟩
      | object members =>
          choose! tree written using fun child member => ih child member (inside child member)
          exact ⟨_, .object (apart members rfl) fun member there =>
            written member.2 (List.mem_map_of_mem there)⟩

end ApiConsole.Json
