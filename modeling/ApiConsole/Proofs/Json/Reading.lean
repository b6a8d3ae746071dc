import ApiConsole.Json.Reader
import ApiConsole.Proofs.Json.Document

/-!
# Documents are read

A document is read as its value, and ends in a fault if it has none: if containers stand too deep
inside each other, or a number is beyond the greatest double.
-/

namespace ApiConsole.Json

/-- What is read tells what is found and the text goes on with the rest; if there is nothing to be
found, there is a fault. -/
def Reads {α β : Type} (tells : α → β → Prop) (found? : Option β) (rest : List Char)
    (read : α × Except Fault Cursor) : Prop :=
  match found? with
  | some found => tells read.1 found ∧ ∃ mark, read.2 = .ok ⟨mark, rest⟩
  | none => ∃ fault, read.2 = .error fault

/-- A node keeps a tree and has a value. -/
structure Node.Tells (tree : Tree) (node : Node) (value : Value) : Prop where
  value : node.value = .ok value
  keeps : node.Keeps tree

structure Items.Tell (trees : List Tree) (items : Items) (values : List Value) : Prop where
  values : items.values = .ok values
  keep : items.Keep trees

structure Entries.Tell (trees : List (String × Tree)) (entries : Entries)
    (pairs : List (String × Value)) : Prop where
  pairs : entries.pairs = .ok pairs
  keep : entries.Keep trees

/-- Nothing at the front of a text could belong to a numeral in front of it. -/
def Separates (rest : List Char) : Prop :=
  ∀ c ∈ rest.head?, c.isDigit = false ∧ c ≠ 'e' ∧ c ≠ 'E' ∧ c ≠ '.'

def StartsVisibly (cs : List Char) : Prop :=
  ∀ c ∈ cs.head?, Cursor.isSpace c = false

theorem startsVisibly_cons (c : Char) (visible : Cursor.isSpace c = false) (cs : List Char) :
    StartsVisibly (c :: cs) := by
  intro d first
  obtain rfl : c = d := Option.some.inj first
  exact visible

theorem Cursor.exists_skipSpace (mark : Mark) {front cs : List Char} (blank : IsBlank front)
    (visible : StartsVisibly cs) :
    ∃ behind, (⟨mark, front ++ cs⟩ : Cursor).skipSpace = ⟨behind, cs⟩ := by
  have stops : cs.dropWhile isSpace = cs := by
    cases cs with
    | nil => rfl
    | cons c cs => simp [visible c rfl]
  have rest : (⟨mark, front ++ cs⟩ : Cursor).skipSpace.rest = cs := by
    rw [skipSpace, rest_skipSpaceFrom, List.dropWhile_append_of_pos blank, stops]
  exact ⟨_, congrArg (Cursor.mk _) rest⟩

theorem IsBlank.nil : IsBlank [] := by
  intro c member
  cases member

theorem separates_append {space rest : List Char} (blank : IsBlank space)
    (separates : Separates rest) :
    Separates (space ++ rest) := by
  cases space with
  | nil => exact separates
  | cons c space =>
      intro d first
      obtain rfl : c = d := Option.some.inj first
      have space := blank c List.mem_cons_self
      simp only [Cursor.isSpace, Bool.or_eq_true, beq_iff_eq] at space
      rcases space with ((rfl | rfl) | rfl) | rfl <;> decide

theorem Numeral.exists_cons (numeral : Numeral) :
    ∃ c more, numeral.text = c :: more ∧ (c = '-' ∨ c.isDigit = true) := by
  obtain ⟨first, more, shape, digit⟩ := numeral.isWhole.1.exists_cons
  unfold text
  split
  · exact ⟨'-', numeral.unsigned, rfl, .inl rfl⟩
  · exact ⟨first, numeral.unsigned.tail, by simp [unsigned, shape], .inr digit⟩

theorem isSpace_of_isDigit {c : Char} (digit : c.isDigit = true) : Cursor.isSpace c = false := by
  have apart (d : Char) (other : d.isDigit = false) : c ≠ d := ne_of_isDigit digit other
  simp [Cursor.isSpace, apart ' ' rfl, apart '\n' rfl, apart '\t' rfl, apart '\r' rfl]

def StartsItem (cs : List Char) : Prop :=
  ∃ c more, cs = c :: more ∧ Cursor.isSpace c = false ∧ c ≠ ']'

theorem Spells.startsItem {tree : Tree} {text : List Char} (spelled : Spells tree text) :
    StartsItem text := by
  cases spelled with
  | number numeral =>
      obtain ⟨c, more, shape, rfl | digit⟩ := numeral.exists_cons
      · exact ⟨'-', more, shape, rfl, by decide⟩
      · exact ⟨c, more, shape, isSpace_of_isDigit digit, ne_of_isDigit digit rfl⟩
  | _ => exact ⟨_, _, rfl, rfl, by decide⟩

/-! ## Scalars -/

theorem readIdentifier_append (mark : Mark) (letters rest : List Char) :
    readIdentifier mark letters (letters ++ rest) = .ok ⟨mark.along letters, rest⟩ := by
  induction letters generalizing mark with
  | nil => rfl
  | cons c letters ih =>
      rw [List.cons_append, readIdentifier, if_pos rfl, ih]
      rfl

theorem readLiteral_reads {letters rest : List Char} {node : Span → Node} {tree : Tree}
    {value : Value} (means : ∀ span, (node span).Tells tree value) (mark : Mark) (c : Char) :
    Reads (Node.Tells tree) (some value) rest
      (readLiteral letters node ⟨mark, c :: (letters ++ rest)⟩) := by
  unfold readLiteral
  simp only [Cursor.next, readIdentifier_append]
  exact ⟨means _, _, rfl⟩

theorem readNumberNode_reads (numeral : Numeral) {rest : List Char} (separates : Separates rest)
    (mark : Mark) :
    Reads (Node.Tells (.number numeral)) (numeral.number?.map .number) rest
      (readNumberNode ⟨mark, numeral.text ++ rest⟩) := by
  have ends : numeral.EndsAt rest := fun c first => by
    obtain ⟨digit, lower, upper, point⟩ := separates c first
    exact ⟨digit, fun _ => ⟨lower, upper, fun _ => point⟩⟩
  have gives := numeral.readNumber_gives mark ends
  unfold readNumberNode
  cases found : numeral.number? with
  | none =>
      rw [found] at gives
      obtain ⟨fault, read⟩ := gives
      rw [read]
      exact ⟨fault, rfl⟩
  | some number =>
      rw [found] at gives
      obtain ⟨behind, read⟩ := gives
      rw [read]
      exact ⟨⟨rfl, .number _ _ numeral⟩, behind, rfl⟩

theorem readString_quoted {written meant : List Char} (quoted : Quoted written meant) (mark : Mark)
    (rest : List Char) :
    ∃ behind,
      readString ⟨mark, written ++ '"' :: rest⟩ = .ok (String.ofList meant, ⟨behind, rest⟩) := by
  obtain ⟨behind, read⟩ := readStringFrom_quoted [] mark quoted rest
  exact ⟨behind, by rw [readString, read]; rfl⟩

theorem readStringNode_reads {written meant : List Char} (quoted : Quoted written meant)
    (mark : Mark) (rest : List Char) :
    Reads (Node.Tells (.string (String.ofList meant))) (some (.string (String.ofList meant))) rest
      (readStringNode ⟨mark, '"' :: (written ++ '"' :: rest)⟩) := by
  obtain ⟨behind, read⟩ := readString_quoted quoted (mark.past '"') rest
  unfold readStringNode
  simp only [Cursor.next, read]
  exact ⟨⟨rfl, .string _ _⟩, behind, rfl⟩

theorem readNode_signOrDigit {cursor : Cursor} {mark : Mark} {c : Char} {cs : List Char}
    (start : cursor.skipSpace = ⟨mark, c :: cs⟩) (signOrDigit : c = '-' ∨ c.isDigit = true)
    (fuel depth : Nat) : readNode (fuel + 1) depth cursor = readNumberNode ⟨mark, c :: cs⟩ := by
  have apart (d : Char) (noMinus : d ≠ '-') (noDigit : d.isDigit = false) : c ≠ d := by
    rcases signOrDigit with rfl | digit
    · exact noMinus.symm
    · exact ne_of_isDigit digit noDigit
  have notNull := apart 'n' (by decide) rfl
  have notTrue := apart 't' (by decide) rfl
  have notFalse := apart 'f' (by decide) rfl
  have noQuote := apart '"' (by decide) rfl
  have noBracket := apart '[' (by decide) rfl
  have noBrace := apart '\x7b' (by decide) rfl
  unfold readNode
  simp only [start, if_pos signOrDigit]

/-! ## Containers -/

theorem readItems_end {space : List Char} (blank : IsBlank space) (mark : Mark) (rest : List Char)
    (fuel depth : Nat) (first : Bool) :
    Reads (Items.Tell []) (some []) rest
      (readItems (fuel + 1) depth first ⟨mark, space ++ ']' :: rest⟩) := by
  obtain ⟨behind, start⟩ := Cursor.exists_skipSpace mark blank (startsVisibly_cons ']' rfl rest)
  unfold readItems
  simp only [start]
  exact ⟨⟨rfl, .close _⟩, behind.past ']', rfl⟩

theorem readItems_first {space cs : List Char} (blank : IsBlank space) (starts : StartsItem cs)
    (mark : Mark) (fuel depth : Nat) :
    ∃ behind, readItems (fuel + 1) depth true ⟨mark, space ++ cs⟩ =
      readItem fuel depth ⟨behind, cs⟩ := by
  obtain ⟨c, more, rfl, visible, inside⟩ := starts
  obtain ⟨behind, start⟩ := Cursor.exists_skipSpace mark blank (startsVisibly_cons c visible more)
  refine ⟨behind, ?_⟩
  unfold readItems
  simp only [start]

theorem readItems_next {space front cs : List Char} (blank : IsBlank space) (blankFront : IsBlank front)
    (starts : StartsItem cs) (mark : Mark) (fuel depth : Nat) :
    ∃ behind, readItems (fuel + 1) depth false ⟨mark, space ++ ',' :: (front ++ cs)⟩ =
      readItem fuel depth ⟨behind, cs⟩ := by
  obtain ⟨c, more, rfl, visible, inside⟩ := starts
  obtain ⟨comma, start⟩ :=
    Cursor.exists_skipSpace mark blank (startsVisibly_cons ',' rfl (front ++ c :: more))
  obtain ⟨behind, again⟩ :=
    Cursor.exists_skipSpace (comma.past ',') blankFront (startsVisibly_cons c visible more)
  refine ⟨behind, ?_⟩
  unfold readItems
  simp only [start, Cursor.next, again]

/-- An item is read, and then what stands behind it. -/
theorem readItem_reads {tree : Tree} {trees : List Tree} {value? : Option Value}
    {values? : Option (List Value)} {behind rest : List Char} {cursor : Cursor} {fuel depth : Nat}
    (item : Reads (Node.Tells tree) value? behind (readNode fuel depth cursor))
    (others : ∀ mark,
      Reads (Items.Tell trees) values? rest (readItems fuel depth false ⟨mark, behind⟩)) :
    Reads (Items.Tell (tree :: trees)) (do let value ← value?; return value :: (← values?)) rest
      (readItem (fuel + 1) depth cursor) := by
  unfold readItem
  generalize readNode fuel depth cursor = read at item
  obtain ⟨node, finish⟩ := read
  cases value? with
  | none =>
      obtain ⟨fault, rfl⟩ := item
      exact ⟨fault, rfl⟩
  | some value =>
      obtain ⟨⟨means, keeps⟩, mark, rfl⟩ := item
      have tail := others mark
      dsimp only
      generalize readItems fuel depth false ⟨mark, behind⟩ = read at tail
      obtain ⟨items, finish⟩ := read
      cases values? with
      | none => exact tail
      | some values =>
          obtain ⟨⟨meant, keep⟩, ended⟩ := tail
          refine ⟨⟨?_, .item _ keeps keep⟩, ended⟩
          dsimp only at means meant
          rw [Items.values, means, meant]
          rfl

theorem readEntries_end {space : List Char} (blank : IsBlank space) (mark : Mark) (rest : List Char)
    (fuel depth : Nat) (first : Bool) :
    Reads (Entries.Tell []) (some []) rest
      (readEntries (fuel + 1) depth first ⟨mark, space ++ '\x7d' :: rest⟩) := by
  obtain ⟨behind, start⟩ := Cursor.exists_skipSpace mark blank (startsVisibly_cons '\x7d' rfl rest)
  unfold readEntries
  simp only [start]
  exact ⟨⟨rfl, .close _⟩, behind.past '\x7d', rfl⟩

def StartsName (cs : List Char) : Prop :=
  ∃ more, cs = '"' :: more

theorem readEntries_first {space cs : List Char} (blank : IsBlank space) (starts : StartsName cs)
    (mark : Mark) (fuel depth : Nat) :
    ∃ behind, readEntries (fuel + 1) depth true ⟨mark, space ++ cs⟩ =
      readEntry fuel depth ⟨behind, cs⟩ := by
  obtain ⟨more, rfl⟩ := starts
  obtain ⟨behind, start⟩ := Cursor.exists_skipSpace mark blank (startsVisibly_cons '"' rfl more)
  refine ⟨behind, ?_⟩
  unfold readEntries
  simp only [start]
  rfl

theorem readEntries_next {space front cs : List Char} (blank : IsBlank space)
    (blankFront : IsBlank front) (starts : StartsName cs) (mark : Mark) (fuel depth : Nat) :
    ∃ behind, readEntries (fuel + 1) depth false ⟨mark, space ++ ',' :: (front ++ cs)⟩ =
      readEntry fuel depth ⟨behind, cs⟩ := by
  obtain ⟨more, rfl⟩ := starts
  obtain ⟨comma, start⟩ :=
    Cursor.exists_skipSpace mark blank (startsVisibly_cons ',' rfl (front ++ '"' :: more))
  obtain ⟨behind, again⟩ :=
    Cursor.exists_skipSpace (comma.past ',') blankFront (startsVisibly_cons '"' rfl more)
  refine ⟨behind, ?_⟩
  unfold readEntries
  simp only [start, Cursor.next, again]
  rfl

/-- A member is read, and then what stands behind it. -/
theorem readEntry_reads {tree : Tree} {pairs : List (String × Tree)} {value? : Option Value}
    {pairs? : Option (List (String × Value))} {written meant gap more behind rest : List Char}
    {fuel depth : Nat} (name : Quoted written meant) (blank : IsBlank gap)
    (value : ∀ mark, Reads (Node.Tells tree) value? behind (readNode fuel depth ⟨mark, more⟩))
    (others : ∀ mark,
      Reads (Entries.Tell pairs) pairs? rest (readEntries fuel depth false ⟨mark, behind⟩))
    (mark : Mark) :
    Reads (Entries.Tell ((String.ofList meant, tree) :: pairs))
      (do let value ← value?; return (String.ofList meant, value) :: (← pairs?)) rest
      (readEntry (fuel + 1) depth ⟨mark, '"' :: (written ++ '"' :: (gap ++ ':' :: more))⟩) := by
  obtain ⟨ended, read⟩ := readString_quoted name (mark.past '"') (gap ++ ':' :: more)
  obtain ⟨colon, skipped⟩ := Cursor.exists_skipSpace ended blank (startsVisibly_cons ':' rfl more)
  unfold readEntry
  simp only [Cursor.next, read, skipped]
  have first := value (colon.past ':')
  generalize readNode fuel depth ⟨colon.past ':', more⟩ = read at first
  obtain ⟨node, finish⟩ := read
  cases value? with
  | none =>
      obtain ⟨fault, rfl⟩ := first
      exact ⟨fault, rfl⟩
  | some value =>
      obtain ⟨⟨means, keeps⟩, mark, rfl⟩ := first
      have tail := others mark
      dsimp only
      generalize readEntries fuel depth false ⟨mark, behind⟩ = read at tail
      obtain ⟨entries, finish⟩ := read
      cases pairs? with
      | none => exact tail
      | some pairs =>
          obtain ⟨⟨meantPairs, keep⟩, ended⟩ := tail
          refine ⟨⟨?_, .entry ⟨_, _, _⟩ _ keeps keep⟩, ended⟩
          dsimp only at means meantPairs
          rw [Entries.pairs, means, meantPairs]
          rfl

/-! ## Trees -/

theorem separates_cons (c : Char) (sign : c.isDigit = false ∧ c ≠ 'e' ∧ c ≠ 'E' ∧ c ≠ '.')
    (cs : List Char) : Separates (c :: cs) := by
  intro d first
  obtain rfl : c = d := Option.some.inj first
  exact sign

theorem StartsItem.append {cs : List Char} (starts : StartsItem cs) (more : List Char) :
    StartsItem (cs ++ more) := by
  obtain ⟨c, rest, rfl, facts⟩ := starts
  exact ⟨c, rest ++ more, rfl, facts⟩

theorem StartsItem.length_pos {cs : List Char} (starts : StartsItem cs) : 0 < cs.length := by
  obtain ⟨c, rest, rfl, _⟩ := starts
  exact Nat.succ_pos _

theorem SpellsItems.startsItem {items : List Tree} {body : List Char}
    (spelled : SpellsItems items body) : StartsItem body := by
  cases spelled with
  | last spelled _ => exact spelled.startsItem.append _
  | next spelled _ _ _ => exact spelled.startsItem.append _

theorem StartsName.append {cs : List Char} (starts : StartsName cs) (more : List Char) :
    StartsName (cs ++ more) := by
  obtain ⟨rest, rfl⟩ := starts
  exact ⟨rest ++ more, rfl⟩

theorem StartsName.length_pos {cs : List Char} (starts : StartsName cs) : 0 < cs.length := by
  obtain ⟨rest, rfl⟩ := starts
  exact Nat.succ_pos _

theorem SpellsPair.startsName {pair : String × Tree} {text : List Char}
    (spelled : SpellsPair pair text) : StartsName text := by
  cases spelled
  exact ⟨_, rfl⟩

theorem SpellsPairs.startsName {pairs : List (String × Tree)} {body : List Char}
    (spelled : SpellsPairs pairs body) : StartsName body := by
  cases spelled with
  | last spelled _ => exact spelled.startsName.append _
  | next spelled _ _ _ => exact spelled.startsName.append _

theorem readNode_array_reads {items : List Tree} {cursor : Cursor} {mark : Mark}
    {inside rest : List Char} {fuel : Nat} (start : cursor.skipSpace = ⟨mark, '[' :: inside⟩)
    (read : ∀ depth, Reads (Items.Tell items) (itemValues? depth items) rest
      (readItems fuel depth true ⟨mark.past '[', inside⟩)) (depth : Nat) :
    Reads (Node.Tells (.array items)) ((Tree.array items).value? depth) rest
      (readNode (fuel + 1) depth cursor) := by
  unfold readNode
  cases depth with
  | zero =>
      simp only [start, Tree.value?]
      exact ⟨_, rfl⟩
  | succ depth =>
      have inner := read depth
      simp only [start, Tree.value?, Cursor.next]
      generalize readItems fuel depth true ⟨mark.past '[', inside⟩ = found at inner
      obtain ⟨nodes, finish⟩ := found
      cases values : itemValues? depth items with
      | none =>
          rw [values] at inner
          exact inner
      | some found =>
          rw [values] at inner
          obtain ⟨⟨means, keep⟩, ended⟩ := inner
          refine ⟨⟨?_, .array _ keep⟩, ended⟩
          dsimp only at means
          rw [Node.value, means]
          rfl

theorem readNode_object_reads {pairs : List (String × Tree)} {cursor : Cursor} {mark : Mark}
    {inside rest : List Char} {fuel : Nat} (start : cursor.skipSpace = ⟨mark, '\x7b' :: inside⟩)
    (read : ∀ depth, Reads (Entries.Tell pairs) (pairValues? depth pairs) rest
      (readEntries fuel depth true ⟨mark.past '\x7b', inside⟩)) (depth : Nat) :
    Reads (Node.Tells (.object pairs)) ((Tree.object pairs).value? depth) rest
      (readNode (fuel + 1) depth cursor) := by
  unfold readNode
  cases depth with
  | zero =>
      simp only [start, Tree.value?]
      exact ⟨_, rfl⟩
  | succ depth =>
      have inner := read depth
      simp only [start, Tree.value?, Cursor.next]
      generalize readEntries fuel depth true ⟨mark.past '\x7b', inside⟩ = found at inner
      obtain ⟨nodes, finish⟩ := found
      cases values : pairValues? depth pairs with
      | none =>
          rw [values] at inner
          exact inner
      | some found =>
          rw [values] at inner
          obtain ⟨⟨means, keep⟩, ended⟩ := inner
          refine ⟨⟨?_, .object _ keep⟩, ended⟩
          dsimp only at means
          rw [Node.value, means]
          rfl

mutual

/-- A tree is read from what it is written as, behind any white space.  Each container takes three
steps for a character at most. -/
theorem Spells.reads {tree : Tree} {text : List Char} (spelled : Spells tree text) {fuel : Nat}
    (enough : 3 * text.length ≤ fuel) (depth : Nat) (mark : Mark) {front rest : List Char}
    (blank : IsBlank front) (separates : Separates rest) :
    Reads (Node.Tells tree) (tree.value? depth) rest
      (readNode fuel depth ⟨mark, front ++ (text ++ rest)⟩) := by
  obtain ⟨fuel, rfl⟩ : ∃ less, fuel = less + 1 :=
    ⟨fuel - 1, by have := spelled.startsItem.length_pos; omega⟩
  obtain ⟨c, more, shape, visible, _⟩ := spelled.startsItem.append rest
  obtain ⟨behind, start⟩ := Cursor.exists_skipSpace mark blank (startsVisibly_cons c visible more)
  rw [shape]
  cases spelled with
  | nullLiteral =>
      cases shape
      unfold readNode
      simp only [start, Tree.value?]
      exact readLiteral_reads (fun span => ⟨rfl, .null span⟩) behind 'n'
  | trueLiteral =>
      cases shape
      unfold readNode
      simp only [start, Tree.value?]
      exact readLiteral_reads (fun span => ⟨rfl, .bool true span⟩) behind 't'
  | falseLiteral =>
      cases shape
      unfold readNode
      simp only [start, Tree.value?]
      exact readLiteral_reads (fun span => ⟨rfl, .bool false span⟩) behind 'f'
  | number numeral =>
      obtain ⟨d, others, text, signOrDigit⟩ := numeral.exists_cons
      have first : c = '-' ∨ c.isDigit = true := by
        rw [text, List.cons_append] at shape
        exact (List.cons.inj shape).1 ▸ signOrDigit
      rw [readNode_signOrDigit start first, ← shape, Tree.value?]
      exact readNumberNode_reads numeral separates behind
  | string quoted =>
      simp only [List.cons_append, List.append_assoc, List.nil_append] at shape
      obtain ⟨rfl, rfl⟩ := List.cons.inj shape
      unfold readNode
      simp only [start, Tree.value?]
      exact readStringNode_reads quoted behind rest
  | emptyArray space =>
      simp only [List.cons_append, List.append_assoc, List.nil_append] at shape
      obtain ⟨rfl, rfl⟩ := List.cons.inj shape
      simp only [List.length_cons, List.length_append] at enough
      obtain ⟨fuel, rfl⟩ : ∃ less, fuel = less + 1 := ⟨fuel - 1, by omega⟩
      refine readNode_array_reads start (fun depth => ?_) depth
      rw [itemValues?]
      exact readItems_end space _ rest fuel depth true
  | array space inside =>
      simp only [List.cons_append, List.append_assoc, List.nil_append] at shape
      obtain ⟨rfl, rfl⟩ := List.cons.inj shape
      simp only [List.length_cons, List.length_append, List.length_nil] at enough
      obtain ⟨fuel, rfl⟩ : ∃ less, fuel = less + 1 := ⟨fuel - 1, by omega⟩
      refine readNode_array_reads start (fun depth => ?_) depth
      obtain ⟨first, read⟩ := readItems_first space (inside.startsItem.append (']' :: rest))
        (behind.past '[') fuel depth
      rw [read]
      exact inside.reads (by omega) depth first rest
  | emptyObject space =>
      simp only [List.cons_append, List.append_assoc, List.nil_append] at shape
      obtain ⟨rfl, rfl⟩ := List.cons.inj shape
      simp only [List.length_cons, List.length_append] at enough
      obtain ⟨fuel, rfl⟩ : ∃ less, fuel = less + 1 := ⟨fuel - 1, by omega⟩
      refine readNode_object_reads start (fun depth => ?_) depth
      rw [pairValues?]
      exact readEntries_end space _ rest fuel depth true
  | object space inside =>
      simp only [List.cons_append, List.append_assoc, List.nil_append] at shape
      obtain ⟨rfl, rfl⟩ := List.cons.inj shape
      simp only [List.length_cons, List.length_append, List.length_nil] at enough
      obtain ⟨fuel, rfl⟩ : ∃ less, fuel = less + 1 := ⟨fuel - 1, by omega⟩
      refine readNode_object_reads start (fun depth => ?_) depth
      obtain ⟨first, read⟩ := readEntries_first space
        (inside.startsName.append ('\x7d' :: rest)) (behind.past '\x7b') fuel depth
      rw [read]
      exact inside.reads (by omega) depth first rest

/-- The items of an array are read up to the closing bracket. -/
theorem SpellsItems.reads {items : List Tree} {body : List Char} (spelled : SpellsItems items body)
    {fuel : Nat} (enough : 3 * body.length + 1 ≤ fuel) (depth : Nat) (mark : Mark)
    (rest : List Char) :
    Reads (Items.Tell items) (itemValues? depth items) rest
      (readItem fuel depth ⟨mark, body ++ ']' :: rest⟩) := by
  cases spelled with
  | @last item text space spelled blank =>
      have some := spelled.startsItem.length_pos
      rw [List.length_append] at enough
      obtain ⟨fuel, rfl⟩ : ∃ less, fuel = less + 1 + 1 := ⟨fuel - 2, by omega⟩
      have separates : Separates (space ++ ']' :: rest) :=
        separates_append blank (separates_cons ']' (by decide) rest)
      have first := spelled.reads (show _ ≤ fuel + 1 by omega) depth mark .nil separates
      rw [List.append_assoc, itemValues?, itemValues?]
      exact readItem_reads first fun mark => readItems_end blank mark rest fuel depth false
  | @next item items text space front more spelled blank blankFront others =>
      have some := spelled.startsItem.length_pos
      simp only [List.length_append, List.length_cons] at enough
      obtain ⟨fuel, rfl⟩ : ∃ less, fuel = less + 1 + 1 := ⟨fuel - 2, by omega⟩
      have separates : Separates (space ++ ',' :: (front ++ (more ++ ']' :: rest))) :=
        separates_append blank (separates_cons ',' (by decide) _)
      have first := spelled.reads (show _ ≤ fuel + 1 by omega) depth mark .nil separates
      simp only [List.append_assoc, List.cons_append]
      rw [itemValues?]
      refine readItem_reads first fun mark => ?_
      obtain ⟨behind, read⟩ := readItems_next blank blankFront
        (others.startsItem.append (']' :: rest)) mark fuel depth
      rw [read]
      exact others.reads (by omega) depth behind rest

/-- The members of an object are read up to the closing brace. -/
theorem SpellsPairs.reads {pairs : List (String × Tree)} {body : List Char}
    (spelled : SpellsPairs pairs body)
    {fuel : Nat} (enough : 3 * body.length + 1 ≤ fuel) (depth : Nat) (mark : Mark)
    (rest : List Char) :
    Reads (Entries.Tell pairs) (pairValues? depth pairs) rest
      (readEntry fuel depth ⟨mark, body ++ '\x7d' :: rest⟩) := by
  cases spelled with
  | @last pair text space spelled blank =>
      obtain ⟨name, tree⟩ := pair
      have some := spelled.startsName.length_pos
      rw [List.length_append] at enough
      obtain ⟨fuel, rfl⟩ : ∃ less, fuel = less + 1 + 1 := ⟨fuel - 2, by omega⟩
      have separates : Separates (space ++ '\x7d' :: rest) :=
        separates_append blank (separates_cons '\x7d' (by decide) rest)
      rw [List.append_assoc, pairValues?, pairValues?]
      refine spelled.reads (show _ ≤ fuel + 1 by omega) depth separates (fun mark => ?_) mark
      exact readEntries_end blank mark rest fuel depth false
  | @next pair pairs text space front more spelled blank blankFront others =>
      obtain ⟨name, tree⟩ := pair
      have some := spelled.startsName.length_pos
      simp only [List.length_append, List.length_cons] at enough
      obtain ⟨fuel, rfl⟩ : ∃ less, fuel = less + 1 + 1 := ⟨fuel - 2, by omega⟩
      have separates : Separates (space ++ ',' :: (front ++ (more ++ '\x7d' :: rest))) :=
        separates_append blank (separates_cons ',' (by decide) _)
      simp only [List.append_assoc, List.cons_append]
      rw [pairValues?]
      refine spelled.reads (show _ ≤ fuel + 1 by omega) depth separates (fun mark => ?_) mark
      obtain ⟨behind, read⟩ := readEntries_next blank blankFront
        (others.startsName.append ('\x7d' :: rest)) mark fuel depth
      rw [read]
      exact others.reads (by omega) depth behind rest

/-- A member is read, and then what stands behind it. -/
theorem SpellsPair.reads {pair : String × Tree} {text : List Char} (spelled : SpellsPair pair text)
    {fuel : Nat} (enough : 3 * text.length ≤ fuel) (depth : Nat) {behind rest : List Char}
    (separates : Separates behind) {pairs : List (String × Tree)}
    {pairs? : Option (List (String × Value))}
    (others : ∀ mark,
      Reads (Entries.Tell pairs) pairs? rest (readEntries fuel depth false ⟨mark, behind⟩))
    (mark : Mark) :
    Reads (Entries.Tell (pair :: pairs))
      (do let value ← pair.2.value? depth; return (pair.1, value) :: (← pairs?)) rest
      (readEntry (fuel + 1) depth ⟨mark, text ++ behind⟩) := by
  cases spelled with
  | intro quoted blankGap blankFront spelled =>
      simp only [List.length_cons, List.length_append] at enough
      have value (mark : Mark) :=
        spelled.reads (show _ ≤ fuel by omega) depth mark blankFront separates
      simp only [List.cons_append, List.append_assoc]
      exact readEntry_reads quoted blankGap value others mark

end

/-- A document that has a value is read to its end; in one that has none, there is a fault. -/
theorem ofText_document {tree : Tree} {text : List Char} (document : IsDocument tree text) :
    match tree.value? depthLimit with
    | some value =>
        (Document.ofText text).root.Tells tree value ∧ (Document.ofText text).finish = .ok ()
    | none => ∃ fault, (Document.ofText text).finish = .error fault := by
  obtain ⟨front, core, behind, blank, spelled, blankBehind, rfl⟩ := document
  have separates : Separates behind := by
    rw [← List.append_nil behind]
    exact separates_append blankBehind fun c first => by cases first
  have enough : 3 * core.length ≤ 3 * (front ++ (core ++ behind)).length + 3 := by
    simp only [List.length_append]
    omega
  have read := spelled.reads enough depthLimit .start blank separates
  unfold Document.ofText Cursor.ofText
  generalize readNode _ depthLimit _ = found at read
  obtain ⟨root, after⟩ := found
  cases value : tree.value? depthLimit with
  | none =>
      rw [value] at read
      obtain ⟨fault, rfl⟩ := read
      exact ⟨fault, rfl⟩
  | some value =>
      rw [value] at read
      obtain ⟨tells, mark, rfl⟩ := read
      have ended : (⟨mark, behind⟩ : Cursor).skipSpace.rest = [] := by
        rw [Cursor.skipSpace, Cursor.rest_skipSpaceFrom]
        exact List.dropWhile_eq_nil_iff.mpr blankBehind
      refine ⟨tells, ?_⟩
      simp only [bind, Except.bind, ended]

/-- A document is read as its value, if it has one, and not at all otherwise. -/
theorem parse_document {tree : Tree} {text : List Char} (document : IsDocument tree text) :
    (parse text).toOption = tree.value? depthLimit := by
  have read := ofText_document document
  unfold parse
  cases value : tree.value? depthLimit with
  | none =>
      rw [value] at read
      obtain ⟨fault, failed⟩ := read
      simp only [failed]
      cases (Document.ofText text).root.value <;> rfl
  | some value =>
      rw [value] at read
      obtain ⟨tells, ended⟩ := read
      simp only [tells.value, ended]
      rfl

end ApiConsole.Json
