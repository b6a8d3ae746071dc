import ApiConsole.Json.Reader.Text

/-!
# Strings between their quotes

Between its quotes a string holds characters as they are and escapes.  An escape of half a surrogate
pair stands for nothing without the other half.
-/

namespace ApiConsole.Json

open Text (hexValue?)

def unit? (a b c d : Char) : Option Nat := do
  let first ← hexValue? a
  let second ← hexValue? b
  let third ← hexValue? c
  let fourth ← hexValue? d
  return 16 * (16 * (16 * first + second) + third) + fourth

/-- What is written between the quotes of a string, and the characters that it means. -/
inductive Quoted : List Char → List Char → Prop where
  | nil : Quoted [] []
  | plain {c : Char} {written meant : List Char} (visible : c ≠ '"' ∧ c ≠ '\\' ∧ ¬c.val < 0x20)
      (rest : Quoted written meant) : Quoted (c :: written) (c :: meant)
  | escape {letter c : Char} {written meant : List Char} (stands : unescape? letter = some c)
      (rest : Quoted written meant) : Quoted ('\\' :: letter :: written) (c :: meant)
  | unit {a b c d : Char} {unit : Nat} {written meant : List Char}
      (digits : unit? a b c d = some unit) (whole : ¬isTrailing unit ∧ ¬isLeading unit)
      (rest : Quoted written meant) :
      Quoted ('\\' :: 'u' :: a :: b :: c :: d :: written) (Char.ofNat unit :: meant)
  | pair {a b c d e f g h : Char} {high low : Nat} {written meant : List Char}
      (digits : unit? a b c d = some high) (leading : isLeading high)
      (others : unit? e f g h = some low) (trailing : isTrailing low)
      (rest : Quoted written meant) :
      Quoted ('\\' :: 'u' :: a :: b :: c :: d :: '\\' :: 'u' :: e :: f :: g :: h :: written)
        (pairCharacter high low :: meant)

theorem unit?_eq_some_iff {a b c d : Char} {unit : Nat} :
    unit? a b c d = some unit ↔ ∃ first second third fourth, hexValue? a = some first ∧
      hexValue? b = some second ∧ hexValue? c = some third ∧ hexValue? d = some fourth ∧
        16 * (16 * (16 * first + second) + third) + fourth = unit := by
  simp [unit?, Option.bind_eq_some_iff]

theorem not_isTrailing_of_isLeading {unit : Nat} (leading : isLeading unit) : ¬isTrailing unit := by
  simp only [isLeading, isTrailing, Bool.and_eq_true, decide_eq_true_eq] at leading ⊢
  omega

variable (done : List Char) (mark : Mark)

section

variable {a b c d : Char} {unit : Nat} (digits : unit? a b c d = some unit) (more : List Char)
include digits

/-- A unit on its own is read from its digits. -/
theorem readStringFrom_unit :
    readStringFrom (.digits none 0 0) done mark (a :: b :: c :: d :: more) =
      if isTrailing unit then .error ⟨.loneSurrogate, mark.along [a, b, c, d]⟩
      else if isLeading unit then readStringFrom (.half unit) done (mark.along [a, b, c, d]) more
      else readStringFrom .plain (Char.ofNat unit :: done) (mark.along [a, b, c, d]) more := by
  obtain ⟨first, second, third, fourth, isFirst, isSecond, isThird, isFourth, rfl⟩ :=
    unit?_eq_some_iff.mp digits
  simp [readStringFrom, isFirst, isSecond, isThird, isFourth, Mark.along]

/-- The other half of a pair is read from its digits. -/
theorem readStringFrom_otherHalf (high : Nat) :
    readStringFrom (.digits (some high) 0 0) done mark (a :: b :: c :: d :: more) =
      if isTrailing unit then
        readStringFrom .plain (pairCharacter high unit :: done) (mark.along [a, b, c, d]) more
      else .error ⟨.loneSurrogate, mark.along [a, b, c, d]⟩ := by
  obtain ⟨first, second, third, fourth, isFirst, isSecond, isThird, isFourth, rfl⟩ :=
    unit?_eq_some_iff.mp digits
  simp [readStringFrom, isFirst, isSecond, isThird, isFourth, Mark.along]

end

theorem readStringFrom_letter {letter c : Char} (stands : unescape? letter = some c)
    (more : List Char) :
    readStringFrom .plain done mark ('\\' :: letter :: more) =
      readStringFrom .plain (c :: done) ((mark.past '\\').past letter) more := by
  simp [readStringFrom, stands]

theorem readStringFrom_escaped (more : List Char) :
    readStringFrom .plain done mark ('\\' :: 'u' :: more) =
      readStringFrom (.digits none 0 0) done ((mark.past '\\').past 'u') more :=
  rfl

theorem readStringFrom_half (high : Nat) (more : List Char) :
    readStringFrom (.half high) done mark ('\\' :: 'u' :: more) =
      readStringFrom (.digits (some high) 0 0) done ((mark.past '\\').past 'u') more :=
  rfl

/-- What stands between quotes is read as what it means. -/
theorem readStringFrom_quoted {written meant : List Char} (quoted : Quoted written meant)
    (rest : List Char) :
    ∃ behind, readStringFrom .plain done mark (written ++ '"' :: rest) =
      .ok (done.reverse ++ meant, ⟨behind, rest⟩) := by
  induction quoted generalizing done mark with
  | nil => exact ⟨mark.past '"', by simp [readStringFrom]⟩
  | @plain c written meant visible _ ih =>
      obtain ⟨behind, read⟩ := ih (c :: done) (mark.past c)
      refine ⟨behind, ?_⟩
      simp [readStringFrom, visible, read]
  | @escape letter c written meant stands _ ih =>
      obtain ⟨behind, read⟩ := ih (c :: done) ((mark.past '\\').past letter)
      refine ⟨behind, ?_⟩
      rw [List.cons_append, List.cons_append, readStringFrom_letter done mark stands, read]
      simp
  | @unit a b c d unit written meant digits whole _ ih =>
      let escaped := (mark.past '\\').past 'u'
      obtain ⟨behind, read⟩ := ih (Char.ofNat unit :: done) (escaped.along [a, b, c, d])
      have digitsRead := readStringFrom_unit done escaped digits (written ++ '"' :: rest)
      rw [if_neg whole.1, if_neg whole.2, read] at digitsRead
      refine ⟨behind, ?_⟩
      rw [List.cons_append, List.cons_append, readStringFrom_escaped]
      exact digitsRead.trans (by simp)
  | @pair a b c d e f g h high low written meant digits leading others trailing _ ih =>
      let escaped := (mark.past '\\').past 'u'
      let again := ((escaped.along [a, b, c, d]).past '\\').past 'u'
      obtain ⟨behind, read⟩ := ih (pairCharacter high low :: done) (again.along [e, f, g, h])
      have first := readStringFrom_unit done escaped digits
        ('\\' :: 'u' :: e :: f :: g :: h :: (written ++ '"' :: rest))
      have second := readStringFrom_otherHalf done again others (written ++ '"' :: rest) high
      rw [if_neg (not_isTrailing_of_isLeading leading), if_pos leading] at first
      rw [if_pos trailing, read] at second
      refine ⟨behind, ?_⟩
      rw [List.cons_append, List.cons_append, readStringFrom_escaped]
      exact first.trans ((readStringFrom_half done _ high _).trans (second.trans (by simp)))

end ApiConsole.Json
