import ApiConsole.Json.Writer
import ApiConsole.Proofs.Json.Integer
import ApiConsole.Proofs.Json.Search
import ApiConsole.Proofs.Json.Writing
import ApiConsole.Text.Basic

/-!
# Lines of the pretty layout

A value in the pretty layout neither starts with the end of a line nor ends with a blank, and each
of its lines but the first starts with a space or a closing bracket.  So none of its lines is empty,
and the last empty line of a text that ends with a value is in front of the value.
-/

namespace ApiConsole.Json

def StartsLine (c : Char) : Prop :=
  c = ' ' ∨ c = ']' ∨ c = '\x7d'

def Indented : List Char → Prop
  | [] => True
  | c :: rest => (c = '\n' → ∃ d more, rest = d :: more ∧ StartsLine d) ∧ Indented rest

theorem Indented.append {front behind : List Char} (first : Indented front)
    (second : Indented behind) : Indented (front ++ behind) := by
  induction front with
  | nil => exact second
  | cons c rest ih =>
      obtain ⟨starts, others⟩ := first
      refine ⟨fun ends => ?_, ih others⟩
      obtain ⟨d, more, rfl, start⟩ := starts ends
      exact ⟨d, more ++ behind, rfl, start⟩

theorem indented_of_not_mem {cs : List Char} (whole : '\n' ∉ cs) : Indented cs := by
  induction cs with
  | nil => trivial
  | cons c rest ih =>
      rw [List.mem_cons, not_or] at whole
      exact ⟨fun ends => absurd ends.symm whole.1, ih whole.2⟩

theorem Indented.of_append {front behind : List Char} (indented : Indented (front ++ behind)) :
    Indented behind := by
  induction front with
  | nil => exact indented
  | cons c rest ih => exact ih indented.2

/-- No line of an indented text is empty. -/
theorem not_indented_of_emptyLine (front behind : List Char) :
    ¬Indented (front ++ '\n' :: '\n' :: behind) := by
  intro indented
  obtain ⟨d, more, same, start⟩ := (Indented.of_append indented).1 rfl
  obtain ⟨rfl, _⟩ := List.cons.inj same
  rcases start with start | start | start <;> cases start

/-! ## Scalars -/

def IsNumeric (c : Char) : Prop :=
  c.isDigit = true ∨ c ∈ ['-', '+', '.', 'e']

theorem IsNumeric.isBlank_eq_false {c : Char} (numeric : IsNumeric c) : Text.isBlank c = false := by
  rcases numeric with digit | sign
  · have all : ∀ n < 58, 48 ≤ n → Text.isBlank (Char.ofNat n) = false := by decide
    obtain ⟨low, high⟩ := toNat_of_isDigit digit
    have visible := all c.toNat (by omega) low
    rwa [Char.ofNat_toNat] at visible
  · have all : ['-', '+', '.', 'e'].all (!Text.isBlank ·) = true := by decide
    simpa using List.all_eq_true.mp all c sign

theorem IsNumeric.ne {c d : Char} (numeric : IsNumeric c) (digit : d.isDigit = false)
    (sign : d ∉ ['-', '+', '.', 'e']) : c ≠ d := by
  rcases numeric with isDigit | isSign
  · exact ne_of_isDigit isDigit digit
  · exact ne_of_mem_of_not_mem isSign sign

def AllNumeric (cs : List Char) : Prop :=
  ∀ c ∈ cs, IsNumeric c

theorem AllNumeric.nil : AllNumeric [] :=
  List.forall_mem_nil IsNumeric

theorem AllNumeric.append {front behind : List Char} (first : AllNumeric front)
    (second : AllNumeric behind) : AllNumeric (front ++ behind) :=
  List.forall_mem_append.mpr ⟨first, second⟩

theorem allNumeric_digitsOf (n : Nat) : AllNumeric (Decimal.digitsOf n) :=
  fun _ member => .inl (Nat.isDigit_of_mem_toDigits (by decide) (by decide) member)

theorem allNumeric_zeros (count : Nat) : AllNumeric (List.replicate count '0') :=
  fun _ member => .inl (List.eq_of_mem_replicate member ▸ rfl)

theorem allNumeric_signs {cs : List Char} (signs : cs ⊆ ['-', '+', '.', 'e']) : AllNumeric cs :=
  fun _ member => .inr (signs member)

theorem allNumeric_positional (d : Decimal) : AllNumeric d.positional := by
  have digits := allNumeric_digitsOf d.digits
  have point : AllNumeric ['.'] := allNumeric_signs (by decide)
  have zero : AllNumeric ['0'] := allNumeric_zeros 1
  unfold Decimal.positional
  dsimp only
  split
  · exact ((zero.append point).append (allNumeric_zeros _)).append digits
  · split
    · exact (digits.append (allNumeric_zeros _)).append (point.append zero)
    · have whole (count : Nat) := fun c member => digits c (List.mem_of_mem_take (i := count) member)
      have places (count : Nat) := fun c member => digits c (List.mem_of_mem_drop (i := count) member)
      exact (AllNumeric.append (whole _) point).append (places _)

theorem allNumeric_scientific (d : Decimal) : AllNumeric (d.scientific 'e') := by
  have digits := allNumeric_digitsOf d.digits
  have point : AllNumeric ['.'] := allNumeric_signs (by decide)
  have first : AllNumeric ((Decimal.digitsOf d.digits).take 1) :=
    fun c member => digits c (List.mem_of_mem_take member)
  have others : AllNumeric ((Decimal.digitsOf d.digits).drop 1) :=
    fun c member => digits c (List.mem_of_mem_drop member)
  unfold Decimal.scientific
  refine ((first.append ?_).append ?_).append (allNumeric_digitsOf _)
  · split
    · exact .nil
    · exact point.append others
  · split
    · exact allNumeric_signs (by decide)
    · exact allNumeric_signs (by decide)

theorem allNumeric_text (number : Number) : AllNumeric number.text := by
  have minus : AllNumeric ['-'] := allNumeric_signs (by decide)
  cases number with
  | integer n fits =>
      rw [Number.text, integerText]
      split
      · exact minus.append (allNumeric_digitsOf _)
      · exact allNumeric_digitsOf _
  | double x =>
      have sign : AllNumeric (if x.negative then ['-'] else []) := by
        split
        · exact minus
        · exact .nil
      have zero : AllNumeric ['0'] := allNumeric_zeros 1
      have point : AllNumeric ['.'] := allNumeric_signs (by decide)
      rw [Number.text, Double.text]
      dsimp only
      split
      · exact sign.append (zero.append (point.append zero))
      · split
        · exact sign.append (allNumeric_positional _)
        · exact sign.append (allNumeric_scientific _)

theorem text_ne_nil (number : Number) : number.text ≠ [] := by
  cases number with
  | integer n fits =>
      rw [Number.text, integerText]
      split
      · exact List.cons_ne_nil _ _
      · exact Nat.toDigits_ne_nil
  | double x =>
      obtain ⟨c, member, _⟩ := x.exists_sign_mem_text
      exact List.ne_nil_of_mem member

theorem newLine_not_mem_escape (c : Char) : '\n' ∉ escape c := by
  intro member
  rcases escape_cases c with ⟨letter, same, stands⟩ | ⟨same, small⟩ | ⟨same, visible⟩
  · rw [same] at member
    obtain rfl : '\n' = letter := by simpa using member
    cases stands
  · have digits : ∀ n < 16, hexDigit n ≠ '\n' := by decide
    have first := digits (c.toNat / 16) (by omega)
    have second := digits (c.toNat % 16) (by omega)
    rw [same] at member
    simp [first.symm, second.symm] at member
  · rw [same] at member
    obtain rfl := List.mem_singleton.mp member
    exact visible.2.2 (by decide)

theorem newLine_not_mem_quote (text : String) : '\n' ∉ quote text := by
  unfold quote
  intro member
  rcases List.mem_append.mp member with member | member
  · rcases List.mem_cons.mp member with other | member
    · cases other
    · obtain ⟨c, _, member⟩ := List.mem_flatMap.mp member
      exact newLine_not_mem_escape c member
  · exact absurd member (by decide)

/-! ## Containers -/

theorem indented_spaces (count : Nat) : Indented (List.replicate count ' ') :=
  indented_of_not_mem fun member => by cases List.eq_of_mem_replicate member

theorem indented_newLine (depth : Nat) : Indented (Value.newLine (depth + 1)) :=
  ⟨fun _ => ⟨' ', _, rfl, .inl rfl⟩, indented_spaces _⟩

theorem indented_newLine_append (depth : Nat) {closing : Char} (start : StartsLine closing) :
    Indented (Value.newLine depth ++ [closing]) := by
  have last : Indented [closing] := by
    refine ⟨fun ends => ?_, trivial⟩
    subst ends
    rcases start with start | start | start <;> cases start
  cases depth with
  | zero => exact ⟨fun _ => ⟨closing, [], rfl, start⟩, last⟩
  | succ depth => exact (indented_newLine depth).append last

theorem indented_separated {separator : List Char} (between : Indented separator)
    {entries : List (List Char)} (each : ∀ entry ∈ entries, Indented entry) :
    Indented (separated separator entries) := by
  induction entries with
  | nil => trivial
  | cons entry rest ih =>
      obtain ⟨first, others⟩ := List.forall_mem_cons.mp each
      cases rest with
      | nil => exact first
      | cons next rest => exact (first.append between).append (ih others)

theorem indented_enclose {opening closing : Char} (whole : opening ≠ '\n')
    (start : StartsLine closing) (depth : Nat) {entries : List (List Char)}
    (each : ∀ entry ∈ entries, Indented entry) :
    Indented (Value.enclose opening closing depth entries) := by
  have first : Indented [opening] := ⟨fun ends => absurd ends whole, trivial⟩
  have last := indented_newLine_append depth start
  unfold Value.enclose
  split
  · exact first.append (Indented.of_append last)
  · have comma : Indented [','] := ⟨nofun, trivial⟩
    have between := comma.append (indented_newLine depth)
    have inside := (indented_newLine depth).append (indented_separated between each)
    simpa using first.append (inside.append last)

/-- A value in the pretty layout is indented behind its first line. -/
theorem indented_prettyAt (value : Value) (depth : Nat) : Indented (value.prettyAt depth) := by
  induction value using Value.induction_children generalizing depth with
  | step value ih =>
      cases value with
      | null =>
          have whole : '\n' ∉ ['n', 'u', 'l', 'l'] := by decide
          exact indented_of_not_mem whole
      | bool b =>
          have whole : '\n' ∉ ['t', 'r', 'u', 'e'] ∧ '\n' ∉ ['f', 'a', 'l', 's', 'e'] := by decide
          cases b with
          | true => exact indented_of_not_mem whole.1
          | false => exact indented_of_not_mem whole.2
      | number number =>
          exact indented_of_not_mem fun member =>
            (allNumeric_text number _ member).ne rfl (by decide) rfl
      | string text => exact indented_of_not_mem (newLine_not_mem_quote text)
      | array items =>
          rw [Value.prettyAt, Value.prettyItems_eq_map]
          refine indented_enclose (by decide) (.inr (.inl rfl)) depth ?_
          exact List.forall_mem_map.mpr fun item member => ih item member (depth + 1)
      | object members =>
          rw [Value.prettyAt, Value.prettyMembers_eq_map]
          refine indented_enclose (by decide) (.inr (.inr rfl)) depth ?_
          refine List.forall_mem_map.mpr fun member there => ?_
          have name := indented_of_not_mem (newLine_not_mem_quote member.1)
          have colon : Indented [':', ' '] := indented_of_not_mem (by decide)
          have inside := ih member.2 (List.mem_map_of_mem there) (depth + 1)
          exact name.append (colon.append inside)

/-! ## Blocks -/

/-- A text without empty lines that ends visibly, and not in an `n`. -/
structure Block (cs : List Char) : Prop where
  starts : cs.head? ≠ some '\n'
  ends : ∃ front last, cs = front ++ [last] ∧ Text.isBlank last = false ∧ last ≠ 'n'
  indented : Indented cs

theorem exists_end_enclose (opening : Char) {closing : Char}
    (visible : Text.isBlank closing = false ∧ closing ≠ 'n') (depth : Nat)
    (entries : List (List Char)) :
    ∃ front last, Value.enclose opening closing depth entries = front ++ [last] ∧
      Text.isBlank last = false ∧ last ≠ 'n' := by
  unfold Value.enclose
  split
  · exact ⟨[opening], closing, rfl, visible⟩
  · exact ⟨_, closing, rfl, visible⟩

theorem head?_enclose (opening closing : Char) (depth : Nat) (entries : List (List Char)) :
    (Value.enclose opening closing depth entries).head? = some opening := by
  unfold Value.enclose
  split <;> rfl

/-- A value in the pretty layout is a block. -/
theorem block_pretty (value : Value) : Block value.pretty where
  indented := indented_prettyAt value 0
  starts := by
    unfold Value.pretty
    cases value with
    | null => decide
    | bool b => cases b <;> decide
    | number number =>
        intro first
        have numeric := allNumeric_text number _ (List.mem_of_head? first)
        exact numeric.ne rfl (by decide) rfl
    | string text => nofun
    | array items =>
        rw [Value.prettyAt, head?_enclose]
        decide
    | object members =>
        rw [Value.prettyAt, head?_enclose]
        decide
  ends := by
    unfold Value.pretty
    cases value with
    | null => exact ⟨['n', 'u', 'l'], 'l', rfl, by decide⟩
    | bool b =>
        cases b with
        | true => exact ⟨['t', 'r', 'u'], 'e', rfl, by decide⟩
        | false => exact ⟨['f', 'a', 'l', 's'], 'e', rfl, by decide⟩
    | number number =>
        have nonempty := text_ne_nil number
        have numeric := allNumeric_text number _ (List.getLast_mem nonempty)
        exact ⟨_, _, (List.dropLast_append_getLast nonempty).symm, numeric.isBlank_eq_false,
          numeric.ne rfl (by decide)⟩
    | string text => exact ⟨_, '"', rfl, by decide⟩
    | array items => exact exists_end_enclose '[' (by decide) 0 _
    | object members => exact exists_end_enclose '\x7b' (by decide) 0 _

theorem Block.eq_nil_of_emptyLine {front body other : List Char} (block : Block body)
    (same : '\n' :: '\n' :: body = front ++ '\n' :: '\n' :: other) : front = [] := by
  match front with
  | [] => rfl
  | [c] =>
      obtain ⟨_, tail⟩ := List.cons.inj same
      obtain ⟨_, rfl⟩ := List.cons.inj tail
      exact absurd rfl block.starts
  | c :: d :: front =>
      obtain ⟨_, tail⟩ := List.cons.inj same
      obtain ⟨_, rfl⟩ := List.cons.inj tail
      exact absurd block.indented (not_indented_of_emptyLine front other)

/-- A block is what stands behind the last empty line of a text. -/
theorem Block.append_inj {front other body another : List Char} (block : Block body)
    (blockToo : Block another)
    (same : front ++ '\n' :: '\n' :: body = other ++ '\n' :: '\n' :: another) :
    front = other ∧ body = another := by
  rcases List.append_eq_append_iff.mp same with ⟨between, rfl, tail⟩ | ⟨between, rfl, tail⟩
  · obtain rfl := block.eq_nil_of_emptyLine tail
    exact ⟨(List.append_nil _).symm, by simpa using tail⟩
  · obtain rfl := blockToo.eq_nil_of_emptyLine tail
    exact ⟨List.append_nil _, by simpa using tail.symm⟩

end ApiConsole.Json
