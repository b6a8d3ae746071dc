import ApiConsole.Json.Writer
import ApiConsole.Proofs.Json.Numeral

/-!
# Integers

An integer that fits is written with the digits that it was read from.  No double is written with
digits alone.
-/

namespace ApiConsole.Json

open Text (digitValue digitsValue)

def extended (number : Nat) (digits : List Char) : Nat :=
  digits.foldl (fun number digit => 10 * number + digitValue digit) number

theorem digitsValue_eq (digits : List Char) : digitsValue digits = extended 0 digits := by
  rw [digitsValue, Text.numberOf, List.foldl_map]
  rfl

theorem le_extended (number : Nat) (digits : List Char) : number ≤ extended number digits := by
  induction digits generalizing number with
  | nil => exact Nat.le_refl _
  | cons digit rest ih =>
      have further : 10 * number + digitValue digit ≤ extended number (digit :: rest) := ih _
      omega

/-- Digits are gathered as long as their number fits. -/
theorem gather_of_fits {number : Nat} {digits : List Char}
    (fits : extended number digits < Nat.pow 2 64) :
    gather number digits = (extended number digits, []) := by
  induction digits generalizing number with
  | nil => rfl
  | cons digit rest ih =>
      have small : 10 * number + digitValue digit < Nat.pow 2 64 :=
        Nat.lt_of_le_of_lt (le_extended _ rest) fits
      rw [gather, if_pos small]
      exact ih fits

theorem gather_of_not_fits {number : Nat} {digits : List Char}
    (large : Nat.pow 2 64 ≤ extended number digits) (small : number < Nat.pow 2 64) :
    (gather number digits).2 ≠ [] := by
  induction digits generalizing number with
  | nil => exact absurd small (Nat.not_lt.mpr large)
  | cons digit rest ih =>
      rw [gather]
      split
      · next fits => exact ih large fits
      · exact List.cons_ne_nil _ _

section

variable {digit : Char} (isDigit : digit.isDigit = true)
include isDigit

theorem toNat_of_isDigit : 48 ≤ digit.toNat ∧ digit.toNat ≤ 57 := by
  obtain ⟨low, high⟩ := Bool.and_eq_true_iff.mp isDigit
  exact ⟨UInt32.le_iff_toNat_le.mp (of_decide_eq_true low),
    UInt32.le_iff_toNat_le.mp (of_decide_eq_true high)⟩

theorem digitValue_lt : digitValue digit < 10 := by
  have bounds := toNat_of_isDigit isDigit
  simp only [digitValue]
  omega

theorem digitChar_digitValue : Nat.digitChar (digitValue digit) = digit := by
  have bounds := toNat_of_isDigit isDigit
  apply Char.toNat_inj.mp
  rw [Nat.toNat_digitChar_of_lt_ten (digitValue_lt isDigit), digitValue]
  omega

theorem digitValue_pos (nonzero : digit ≠ '0') : 0 < digitValue digit := by
  have bounds := toNat_of_isDigit isDigit
  have apart : digit.toNat ≠ 48 := fun same => nonzero (Char.toNat_inj.mp same)
  simp only [digitValue]
  omega

end

/-- Digits behind a number other than zero are written behind it. -/
theorem toDigits_extended {number : Nat} {digits : List Char} (positive : 0 < number)
    (all : ∀ c ∈ digits, c.isDigit = true) :
    Nat.toDigits 10 (extended number digits) = Nat.toDigits 10 number ++ digits := by
  induction digits generalizing number with
  | nil => exact (List.append_nil _).symm
  | cons digit rest ih =>
      have isDigit := all digit List.mem_cons_self
      have small := digitValue_lt isDigit
      calc
        Nat.toDigits 10 (extended (10 * number + digitValue digit) rest)
        _ = Nat.toDigits 10 (10 * number + digitValue digit) ++ rest :=
          ih (by omega) fun c member => all c (List.mem_cons_of_mem digit member)
        _ = Nat.toDigits 10 number ++ [digit] ++ rest := by
          rw [← Nat.toDigits_append_toDigits (by decide) positive small,
            Nat.toDigits_of_lt_base small, digitChar_digitValue isDigit]
        _ = Nat.toDigits 10 number ++ digit :: rest := by simp

/-- A number is written with the digits that it was read from. -/
theorem toDigits_digitsValue {digits : List Char} (whole : IsWhole digits) :
    Nat.toDigits 10 (digitsValue digits) = digits := by
  obtain ⟨first, rest, rfl, isDigit⟩ := whole.1.exists_cons
  by_cases zero : first = '0'
  · subst zero
    rw [whole.2 rfl]
    rfl
  · have all : ∀ c ∈ rest, c.isDigit = true := fun c member =>
      whole.1.2 c (List.mem_cons_of_mem first member)
    have start : extended 0 (first :: rest) = extended (digitValue first) rest := by
      simp [extended]
    rw [digitsValue_eq, start, toDigits_extended (digitValue_pos isDigit zero) all,
      Nat.toDigits_of_lt_base (digitValue_lt isDigit), digitChar_digitValue isDigit]
    rfl

/-- Only zero is written with a zero in front. -/
theorem eq_zero_of_head?_toDigits {number : Nat}
    (front : (Nat.toDigits 10 number).head? = some '0') : number = 0 := by
  induction number using Nat.strong_induction_on with
  | _ number ih =>
      by_cases small : number < 10
      · rw [Nat.toDigits_of_lt_base small] at front
        have all : ∀ digit < 10, Nat.digitChar digit = '0' → digit = 0 := by decide
        exact all number small (Option.some.inj front)
      · rw [Nat.toDigits_of_base_le (by decide) (Nat.not_lt.mp small), List.head?_append] at front
        have shorter : number / 10 < number := by omega
        have none : number / 10 = 0 := by
          apply ih (number / 10) shorter
          cases first : (Nat.toDigits 10 (number / 10)).head? with
          | none => simp at first
          | some c => rw [first] at front; exact front
        omega

/-- Every number is written as the digits of a numeral. -/
theorem isWhole_toDigits (number : Nat) : IsWhole (Nat.toDigits 10 number) := by
  refine ⟨⟨Nat.toDigits_ne_nil, fun c member => ?_⟩, fun front => ?_⟩
  · exact Nat.isDigit_of_mem_toDigits (by decide) (by decide) member
  · rw [eq_zero_of_head?_toDigits front]
    rfl

namespace Decimal

theorem point_mem_positional (d : Decimal) : '.' ∈ d.positional := by
  unfold positional
  dsimp only
  split
  · simp
  · split <;> simp

theorem mark_mem_scientific (mark : Char) (d : Decimal) : mark ∈ d.scientific mark := by
  simp [scientific]

end Decimal

theorem exists_double_of_double? {negative : Bool} {significand : Nat} {exponent : Int}
    {number : Number} (read : double? negative significand exponent = some number) :
    ∃ x, number = .double x := by
  obtain ⟨x, _, rfl⟩ := Option.map_eq_some_iff.mp read
  exact ⟨_, rfl⟩

/-- A double is not written with digits alone. -/
theorem Double.exists_sign_mem_text (x : Double) :
    ∃ c ∈ x.text doubleFormat, c = '.' ∨ c = 'e' := by
  unfold text
  dsimp only
  split
  · exact ⟨'.', by simp, .inl rfl⟩
  · split
    · exact ⟨'.', List.mem_append_right _ (Decimal.point_mem_positional _), .inl rfl⟩
    · exact ⟨'e', List.mem_append_right _ (Decimal.mark_mem_scientific _ _), .inr rfl⟩

namespace Numeral

/-- The number that the digits of a numeral without fraction and exponent make. -/
def value (numeral : Numeral) : Int :=
  if numeral.negative then -(digitsValue numeral.whole : Int) else digitsValue numeral.whole

def ofNat (negative : Bool) (number : Nat) : Numeral :=
  ⟨negative, Nat.toDigits 10 number, none, none, isWhole_toDigits number, nofun⟩

def minusZero : List Char := ['-', '0']

theorem digitsValue_eq_zero_iff {digits : List Char} (whole : IsWhole digits) :
    digitsValue digits = 0 ↔ digits = ['0'] := by
  constructor
  · intro zero
    rw [← toDigits_digitsValue whole, zero]
    rfl
  · rintro rfl
    rfl

variable {numeral : Numeral} (integer : numeral.IsInteger)
include integer

theorem text_of_isInteger :
    numeral.text = if numeral.negative then '-' :: numeral.whole else numeral.whole := by
  simp [text, unsigned, integer.1, integer.2, fractionText, exponentText]

theorem text_eq_minusZero_iff :
    numeral.text = minusZero ↔ numeral.negative = true ∧ digitsValue numeral.whole = 0 := by
  rw [text_of_isInteger integer, digitsValue_eq_zero_iff numeral.isWhole]
  obtain ⟨first, rest, shape, isDigit⟩ := numeral.isWhole.1.exists_cons
  have minus : first ≠ '-' := ne_of_isDigit isDigit rfl
  cases numeral.negative <;> simp [minusZero, shape, minus]

/-- An integer that fits is read as itself and written as it was, except for minus zero. -/
theorem number?_of_fits (signed : numeral.text ≠ minusZero) (fits : Fits numeral.value) :
    numeral.number? = some (.integer numeral.value fits) ∧
      integerText numeral.value = numeral.text := by
  have zero : ¬(numeral.negative = true ∧ digitsValue numeral.whole = 0) :=
    fun both => signed ((text_eq_minusZero_iff integer).mpr both)
  have small : digitsValue numeral.whole < Nat.pow 2 64 := by
    change digitsValue numeral.whole < 18446744073709551616
    obtain ⟨low, high⟩ := fits
    unfold value at low high
    cases sign : numeral.negative with
    | true =>
        rw [if_pos sign] at low
        omega
    | false =>
        rw [if_neg (Bool.eq_false_iff.mp sign)] at high
        omega
  constructor
  · have gathered : gather 0 numeral.whole = (digitsValue numeral.whole, []) := by
      rw [digitsValue_eq] at small ⊢
      exact gather_of_fits small
    rw [number?, gathered, integer.1, integer.2]
    simp only [List.isEmpty_nil, if_true, integer?, if_neg zero]
    exact dif_pos fits
  · have digits := toDigits_digitsValue numeral.isWhole
    rw [text_of_isInteger integer, integerText, value, Decimal.digitsOf]
    cases sign : numeral.negative with
    | true =>
        have positive : 0 < digitsValue numeral.whole :=
          Nat.pos_of_ne_zero fun none => zero ⟨sign, none⟩
        simp [positive, digits]
    | false => simp [digits]

/-- An integer that does not fit is read as a double, if at all, and so is minus zero. -/
theorem exists_double_of_not_fits {number : Number} (read : numeral.number? = some number)
    (misfit : ¬(numeral.text ≠ minusZero ∧ Fits numeral.value)) : ∃ x, number = .double x := by
  rw [number?, integer.1, integer.2] at read
  by_cases small : extended 0 numeral.whole < Nat.pow 2 64
  · rw [gather_of_fits small, ← digitsValue_eq] at read
    by_cases zero : numeral.negative = true ∧ digitsValue numeral.whole = 0
    · simp only [List.isEmpty_nil, if_true, integer?, if_pos zero] at read
      exact ⟨_, (Option.some.inj read).symm⟩
    · have large : ¬Fits numeral.value := fun fits =>
        misfit ⟨fun same => zero ((text_eq_minusZero_iff integer).mp same), fits⟩
      simp only [List.isEmpty_nil, if_true, integer?, if_neg zero] at read
      unfold value at large
      rw [dif_neg large] at read
      exact exists_double_of_double? read
  · have surplus := gather_of_not_fits (Nat.not_lt.mp small) (by decide)
    generalize gather 0 numeral.whole = gathered at read surplus
    simp only [List.isEmpty_iff, if_neg surplus] at read
    exact exists_double_of_double? read

theorem text_double_ne (x : Double) : (Number.double x).text ≠ numeral.text := by
  obtain ⟨c, member, sign⟩ := x.exists_sign_mem_text
  intro same
  have inside : c ∈ numeral.text := same ▸ member
  have other : c.isDigit = false ∧ c ≠ '-' := by rcases sign with rfl | rfl <;> decide
  have digit : c ∉ numeral.whole := fun here => by
    rw [numeral.isWhole.1.2 c here] at other
    cases other.1
  rw [text_of_isInteger integer] at inside
  split at inside
  · rcases List.mem_cons.mp inside with minus | here
    · exact other.2 minus
    · exact digit here
  · exact digit inside

/-- An integer is written as it was read exactly if it fits and is not minus zero. -/
theorem text_number_iff {number : Number} (read : numeral.number? = some number) :
    number.text = numeral.text ↔ numeral.text ≠ minusZero ∧ Fits numeral.value := by
  constructor
  · intro same
    by_contra misfit
    obtain ⟨x, rfl⟩ := exists_double_of_not_fits integer read misfit
    exact text_double_ne integer x same
  · rintro ⟨signed, fits⟩
    obtain ⟨found, same⟩ := number?_of_fits integer signed fits
    cases read.symm.trans found
    exact same

end Numeral

end ApiConsole.Json
