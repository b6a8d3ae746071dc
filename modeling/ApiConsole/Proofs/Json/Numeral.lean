import ApiConsole.Json.Reader.Number
import Mathlib.Data.List.TakeWhile
import Mathlib.Tactic.Convert

/-!
# Numerals

A numeral has a whole part, and may have a sign, a fraction and an exponent.  It is read as the same
number wherever it stands, as long as nothing behind it could belong to it.
-/

namespace ApiConsole.Json

open Text (digitValue digitsValue)

def IsDigits (digits : List Char) : Prop :=
  digits ≠ [] ∧ ∀ c ∈ digits, c.isDigit = true

/-- What stands behind the sign of a numeral: digits, of which the first is no zero unless it is
all. -/
def IsWhole (digits : List Char) : Prop :=
  IsDigits digits ∧ (digits.head? = some '0' → digits = ['0'])

structure Exponent where
  mark : Char
  sign : List Char
  digits : List Char
  isMark : mark = 'e' ∨ mark = 'E'
  isSign : sign = [] ∨ sign = ['+'] ∨ sign = ['-']
  isDigits : IsDigits digits

structure Numeral where
  negative : Bool
  whole : List Char
  fraction : Option (List Char)
  exponent : Option Exponent
  isWhole : IsWhole whole
  isFraction : ∀ digits ∈ fraction, IsDigits digits

def Exponent.text (exponent : Exponent) : List Char :=
  exponent.mark :: (exponent.sign ++ exponent.digits)

namespace Numeral

def fractionText : Option (List Char) → List Char
  | none => []
  | some digits => '.' :: digits

def exponentText : Option Exponent → List Char
  | none => []
  | some exponent => exponent.text

def unsigned (numeral : Numeral) : List Char :=
  numeral.whole ++ (fractionText numeral.fraction ++ exponentText numeral.exponent)

def text (numeral : Numeral) : List Char :=
  if numeral.negative then '-' :: numeral.unsigned else numeral.unsigned

def IsInteger (numeral : Numeral) : Prop :=
  numeral.fraction = none ∧ numeral.exponent = none

/-- Nothing at the front of what stands behind a numeral could belong to it. -/
def EndsAt (numeral : Numeral) (rest : List Char) : Prop :=
  ∀ c ∈ rest.head?, c.isDigit = false ∧
    (numeral.exponent = none → c ≠ 'e' ∧ c ≠ 'E' ∧ (numeral.fraction = none → c ≠ '.'))

end Numeral

/-- The double `± significand * 10 ^ exponent`, if it is finite. -/
def double? (negative : Bool) (significand : Nat) (exponent : Int) : Option Number :=
  (Double.ofDecimal? significand exponent).map fun x => .double (if negative then x.neg else x)

def integer? (negative : Bool) (significand : Nat) : Option Number :=
  let value : Int := if negative then -(significand : Int) else significand
  if negative ∧ significand = 0 then some (.double (.zero true))
  else if fits : Fits value then some (.integer value fits)
  else double? negative significand 0

def Exponent.scale? (written : Exponent) (negative : Bool) (significand : Nat) (exponent : Int) :
    Option Number :=
  match passesLimit? 0 written.digits with
  | some _ =>
      if significand ≠ 0 ∧ written.sign ≠ ['-'] then none else some (.double (.zero negative))
  | none =>
      let value : Int := digitsValue written.digits
      double? negative significand
        (if written.sign = ['-'] then exponent - value else exponent + value)

/-- What a significand and a power of ten stand for, with the exponent behind them if there is
one. -/
def scaled? (written : Option Exponent) (negative : Bool) (significand : Nat) (exponent : Int) :
    Option Number :=
  match written with
  | none => double? negative significand exponent
  | some written => written.scale? negative significand exponent

/-- What a numeral stands for, unless it is beyond the greatest double. -/
def Numeral.number? (numeral : Numeral) : Option Number :=
  let (significand, surplus) := gather 0 numeral.whole
  match numeral.fraction, numeral.exponent with
  | some digits, written =>
      let (longer, dropped) := gather significand digits
      let places : Int := (digits.length : Int) - dropped.length
      scaled? written numeral.negative longer (surplus.length - places)
  | none, some written => written.scale? numeral.negative significand surplus.length
  | none, none =>
      if surplus.isEmpty then integer? numeral.negative significand
      else double? numeral.negative significand surplus.length

/-- What is found is read, and the text goes on with the rest; where nothing is found, there is a
fault. -/
def Gives {α : Type} (found? : Option α) (rest : List Char) (read : Except Fault (α × Cursor)) :
    Prop :=
  match found? with
  | some found => ∃ mark, read = .ok (found, ⟨mark, rest⟩)
  | none => ∃ fault, read = .error fault

theorem Cursor.skip_append (mark : Mark) (cs rest : List Char) :
    (⟨mark, cs ++ rest⟩ : Cursor).skip cs = ⟨mark.along cs, rest⟩ := by
  simp [Cursor.skip]

section

variable {digits rest : List Char}

theorem takeWhile_isDigit_append (all : ∀ c ∈ digits, c.isDigit = true)
    (ends : ∀ c ∈ rest.head?, c.isDigit = false) :
    (digits ++ rest).takeWhile Char.isDigit = digits := by
  have stops : rest.takeWhile Char.isDigit = [] := by
    cases rest with
    | nil => rfl
    | cons c rest => simp [ends c rfl]
  rw [List.takeWhile_append_of_pos all, stops, List.append_nil]

theorem IsDigits.exists_cons (run : IsDigits digits) :
    ∃ first more, digits = first :: more ∧ first.isDigit = true := by
  obtain ⟨first, more, rfl⟩ := List.exists_cons_of_ne_nil run.1
  exact ⟨first, more, rfl, run.2 first List.mem_cons_self⟩

end

theorem ne_of_isDigit {c d : Char} (digit : c.isDigit = true) (other : d.isDigit = false) : c ≠ d := by
  rintro rfl
  rw [digit] at other
  cases other

theorem finishDouble_gives (negative : Bool) (significand : Nat) (exponent : Int) (after : Cursor) :
    Gives (double? negative significand exponent) after.rest
      (finishDouble negative significand exponent after) := by
  unfold finishDouble double?
  cases Double.ofDecimal? significand exponent with
  | none => exact ⟨_, rfl⟩
  | some x => exact ⟨after.mark, rfl⟩

theorem wholeNumber_gives (negative : Bool) (significand : Nat) (after : Cursor) :
    Gives (integer? negative significand) after.rest (wholeNumber negative significand after) := by
  unfold wholeNumber integer?
  dsimp only
  by_cases zero : negative ∧ significand = 0
  · rw [if_pos zero, if_pos zero]
    exact ⟨after.mark, rfl⟩
  · rw [if_neg zero, if_neg zero]
    by_cases fits : Fits (if negative then -(significand : Int) else significand)
    · rw [dif_pos fits, dif_pos fits]
      exact ⟨after.mark, rfl⟩
    · rw [dif_neg fits, dif_neg fits]
      exact finishDouble_gives negative significand 0 after

/-- Moves past the sign of an exponent, and tells whether it is a minus sign. -/
def cutSign (cursor : Cursor) : Bool × Cursor :=
  match cursor.rest with
  | '-' :: _ => (true, cursor.next)
  | '+' :: _ => (false, cursor.next)
  | _ => (false, cursor)

def readPower (negative : Bool) (significand : Nat) (exponent : Int) (below : Bool) (cursor : Cursor) :
    Except Fault (Number × Cursor) :=
  let digits := cursor.rest.takeWhile Char.isDigit
  if digits.isEmpty then
    match cursor.rest with
    | [] => .error ⟨.valueEnds, cursor.mark⟩
    | _ :: _ => .error ⟨.invalidNumber, cursor.ahead⟩
  else
    let after := cursor.skip digits
    match passesLimit? 0 digits with
    | some count =>
        if significand ≠ 0 ∧ ¬ below then
          .error ⟨.numberOutOfRange, (cursor.skip (digits.take count)).mark⟩
        else .ok (.double (.zero negative), after)
    | none =>
        let written : Int := digitsValue digits
        finishDouble negative significand (if below then exponent - written else exponent + written)
          after

theorem readExponent_eq (negative : Bool) (significand : Nat) (exponent : Int) (cursor : Cursor) :
    readExponent negative significand exponent cursor =
      readPower negative significand exponent (cutSign cursor).1 (cutSign cursor).2 :=
  rfl

theorem cutSign_append (written : Exponent) (mark : Mark) (rest : List Char) :
    ∃ behind, cutSign ⟨mark, written.sign ++ (written.digits ++ rest)⟩ =
      (decide (written.sign = ['-']), ⟨behind, written.digits ++ rest⟩) := by
  obtain ⟨first, more, shape, digit⟩ := written.isDigits.exists_cons
  have plus : first ≠ '+' := ne_of_isDigit digit rfl
  have minus : first ≠ '-' := ne_of_isDigit digit rfl
  rcases written.isSign with sign | sign | sign
  · refine ⟨mark, ?_⟩
    simp [sign, shape, cutSign, plus, minus]
  · refine ⟨mark.past '+', ?_⟩
    simp [sign, cutSign, Cursor.next]
  · refine ⟨mark.past '-', ?_⟩
    simp [sign, cutSign, Cursor.next]

/-- An exponent is read behind its mark. -/
theorem readExponent_gives (written : Exponent) (negative : Bool) (significand : Nat) (exponent : Int)
    (mark : Mark) {rest : List Char} (ends : ∀ c ∈ rest.head?, c.isDigit = false) :
    Gives (written.scale? negative significand exponent) rest
      (readExponent negative significand exponent
        ⟨mark, written.sign ++ (written.digits ++ rest)⟩) := by
  obtain ⟨behind, cut⟩ := cutSign_append written mark rest
  have run := takeWhile_isDigit_append written.isDigits.2 ends
  have given : ¬written.digits.isEmpty := by simpa using written.isDigits.1
  rw [readExponent_eq, cut, readPower, Exponent.scale?]
  simp only [run, if_neg given, Cursor.skip_append]
  cases passesLimit? 0 written.digits with
  | some count =>
      by_cases passes : significand ≠ 0 ∧ written.sign ≠ ['-']
      · simp [passes, Gives]
      · simp only [decide_eq_true_eq, ← ne_eq, if_neg passes]
        exact ⟨_, rfl⟩
  | none =>
      simpa using finishDouble_gives negative significand _ ⟨behind.along written.digits, rest⟩

/-- Reads what stands behind the whole part of a number, and ends it. -/
def readBehindWhole (negative : Bool) (whole : List Char) (behind : Cursor) :
    Except Fault (Number × Cursor) :=
  let (significand, surplus) := gather 0 whole
  match behind.rest with
  | '.' :: _ =>
      let point := behind.next
      let fraction := point.rest.takeWhile Char.isDigit
      if fraction.isEmpty then
        match point.rest with
        | [] => .error ⟨.valueEnds, point.mark⟩
        | _ :: _ => .error ⟨.invalidNumber, point.ahead⟩
      else
        let (longer, dropped) := gather significand fraction
        let places : Int := (fraction.length : Int) - dropped.length
        readScale negative longer (surplus.length - places) (point.skip fraction)
  | 'e' :: _ => readScale negative significand surplus.length behind
  | 'E' :: _ => readScale negative significand surplus.length behind
  | _ =>
      if surplus.isEmpty then wholeNumber negative significand behind
      else finishDouble negative significand surplus.length behind

theorem readDigits_append {whole tail : List Char} (isWhole : IsWhole whole) (negative : Bool)
    (mark : Mark) (ends : ∀ c ∈ tail.head?, c.isDigit = false) :
    readDigits negative ⟨mark, whole ++ tail⟩ =
      readBehindWhole negative whole ⟨mark.along whole, tail⟩ := by
  have run := takeWhile_isDigit_append isWhole.1.2 ends
  obtain ⟨first, more, rfl, digit⟩ := isWhole.1.exists_cons
  have fine : ¬(first = '0' ∧ ((more ++ tail).head?.any Char.isDigit) = true) := by
    rintro ⟨rfl, next⟩
    obtain ⟨_, rfl⟩ := List.cons.inj (isWhole.2 rfl)
    cases tail with
    | nil => cases next
    | cons c tail => simp [ends c rfl] at next
  have behind := Cursor.skip_append mark (first :: more) tail
  rw [List.cons_append] at run behind ⊢
  rw [readDigits]
  simp only [digit, not_true_eq_false, if_false, if_neg fine, run, behind]
  rfl

namespace Numeral

theorem isDigit_of_endsAt {numeral : Numeral} {rest : List Char} (ends : numeral.EndsAt rest) :
    ∀ c ∈ (exponentText numeral.exponent ++ rest).head?, c.isDigit = false := by
  cases written : numeral.exponent with
  | none => exact fun c first => (ends c first).1
  | some exponent =>
      rintro c first
      obtain rfl : exponent.mark = c := Option.some.inj first
      rcases exponent.isMark with mark | mark <;> rw [mark] <;> rfl

theorem readScale_exponent (written : Exponent) (negative : Bool) (significand : Nat) (exponent : Int)
    (mark : Mark) (rest : List Char) :
    readScale negative significand exponent ⟨mark, written.text ++ rest⟩ =
      readExponent negative significand exponent
        ⟨mark.past written.mark, written.sign ++ (written.digits ++ rest)⟩ := by
  have text : written.text ++ rest = written.mark :: (written.sign ++ (written.digits ++ rest)) := by
    simp [Exponent.text]
  rw [text]
  rcases written.isMark with mark | mark <;> rw [mark] <;> rfl

/-- An exponent, or the end of the number, is read behind a fraction. -/
theorem readScale_gives (numeral : Numeral) (significand : Nat) (exponent : Int) (mark : Mark)
    {rest : List Char} (ends : numeral.EndsAt rest) :
    Gives (scaled? numeral.exponent numeral.negative significand exponent) rest
      (readScale numeral.negative significand exponent
        ⟨mark, exponentText numeral.exponent ++ rest⟩) := by
  cases present : numeral.exponent with
  | none =>
      have plain : readScale numeral.negative significand exponent ⟨mark, rest⟩ =
          finishDouble numeral.negative significand exponent ⟨mark, rest⟩ := by
        unfold readScale
        split
        · next first => exact absurd rfl ((ends 'e' (by simp_all)).2 present).1
        · next first => exact absurd rfl ((ends 'E' (by simp_all)).2 present).2.1
        · rfl
      exact plain ▸ finishDouble_gives numeral.negative significand exponent ⟨mark, rest⟩
  | some written =>
      rw [exponentText, readScale_exponent]
      exact readExponent_gives written numeral.negative significand exponent _
        fun c first => (ends c first).1

theorem readBehindWhole_gives (numeral : Numeral) (mark : Mark) {rest : List Char}
    (ends : numeral.EndsAt rest) :
    Gives numeral.number? rest
      (readBehindWhole numeral.negative numeral.whole
        ⟨mark, fractionText numeral.fraction ++ (exponentText numeral.exponent ++ rest)⟩) := by
  unfold readBehindWhole Numeral.number?
  rcases gather 0 numeral.whole with ⟨significand, surplus⟩
  cases fraction : numeral.fraction with
  | some digits =>
      have run := takeWhile_isDigit_append (numeral.isFraction digits fraction).2
        (isDigit_of_endsAt ends)
      have given : ¬digits.isEmpty := by simpa using (numeral.isFraction digits fraction).1
      simp only [fractionText, List.cons_append, Cursor.next, run, if_neg given, Cursor.skip_append]
      exact readScale_gives numeral _ _ _ ends
  | none =>
      have scale := readScale_gives numeral significand surplus.length mark ends
      simp only [fractionText, List.nil_append]
      cases present : numeral.exponent with
      | some written =>
          rw [present] at scale
          simp only [exponentText, Exponent.text, List.cons_append] at scale ⊢
          rcases written.isMark with letter | letter
          · rw [letter] at scale ⊢
            exact scale
          · rw [letter] at scale ⊢
            exact scale
      | none =>
          simp only [exponentText, List.nil_append]
          have ended : Gives
              (if surplus.isEmpty then integer? numeral.negative significand
                else double? numeral.negative significand surplus.length) rest
              (if surplus.isEmpty then wholeNumber numeral.negative significand ⟨mark, rest⟩
                else finishDouble numeral.negative significand surplus.length ⟨mark, rest⟩) := by
            split
            · exact wholeNumber_gives numeral.negative significand ⟨mark, rest⟩
            · exact finishDouble_gives numeral.negative significand surplus.length ⟨mark, rest⟩
          cases rest with
          | nil => exact ended
          | cons c rest =>
              obtain ⟨lower, upper, point⟩ := (ends c rfl).2 present
              convert ended using 1
              split
              · next first => exact absurd (List.cons.inj first).1 (point fraction)
              · next first => exact absurd (List.cons.inj first).1 lower
              · next first => exact absurd (List.cons.inj first).1 upper
              · rfl

/-- A numeral is read as what it stands for wherever it ends. -/
theorem readNumber_gives (numeral : Numeral) (mark : Mark) {rest : List Char}
    (ends : numeral.EndsAt rest) :
    Gives numeral.number? rest (readNumber ⟨mark, numeral.text ++ rest⟩) := by
  have digits (mark : Mark) : Gives numeral.number? rest
      (readDigits numeral.negative ⟨mark, numeral.unsigned ++ rest⟩) := by
    rw [unsigned, List.append_assoc, List.append_assoc, readDigits_append numeral.isWhole]
    · exact readBehindWhole_gives numeral _ ends
    · cases numeral.fraction with
      | none => exact isDigit_of_endsAt ends
      | some digits =>
          intro c first
          obtain rfl : '.' = c := Option.some.inj first
          rfl
  unfold text
  cases sign : numeral.negative with
  | true =>
      rw [sign] at digits
      exact digits (mark.past '-')
  | false =>
      rw [sign] at digits
      obtain ⟨first, more, shape, digit⟩ := numeral.isWhole.1.exists_cons
      have minus : first ≠ '-' := ne_of_isDigit digit rfl
      have start : numeral.unsigned ++ rest = first :: (numeral.unsigned ++ rest).tail := by
        simp [unsigned, shape]
      have plain : readNumber ⟨mark, numeral.unsigned ++ rest⟩ =
          readDigits false ⟨mark, numeral.unsigned ++ rest⟩ := by
        unfold readNumber
        split
        · next same => exact absurd (List.cons.inj (start.symm.trans same)).1 minus
        · rfl
      exact plain ▸ digits mark

end Numeral

end ApiConsole.Json
