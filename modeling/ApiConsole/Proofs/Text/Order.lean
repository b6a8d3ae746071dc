import Mathlib.Data.List.Basic

/-!
# The order of texts

Texts are in order by the code points of their characters.  The bytes of their UTF-8 are in the same
order: those of a character, whatever stands behind them, come before those of a higher one.
-/

namespace ApiConsole.Text

def codePoints (text : String) : List Nat :=
  text.toList.map Char.toNat

def bytes (text : String) : List UInt8 :=
  text.toUTF8.data.toList

theorem bytes_eq_flatMap (text : String) :
    bytes text = text.toList.flatMap String.utf8EncodeChar := by
  rw [bytes, String.toUTF8, ← String.utf8Encode_toList]
  simp only [List.utf8Encode, List.data_toByteArray]

section Bytes

variable {low high : Nat} {rest others : List UInt8}

/-- A lower first byte decides. -/
theorem ofNat_cons_lt_of_lt (fits : high < 256) (below : low < high) :
    UInt8.ofNat low :: rest < UInt8.ofNat high :: others := by
  refine List.cons_lt_cons_iff.mpr (.inl ?_)
  rw [UInt8.lt_iff_toNat_lt, UInt8.toNat_ofNat', UInt8.toNat_ofNat']
  omega

/-- A first byte that is no higher leaves it to those behind if both are the same. -/
theorem ofNat_cons_lt_of_le (fits : high < 256) (most : low ≤ high)
    (behind : low = high → rest < others) :
    UInt8.ofNat low :: rest < UInt8.ofNat high :: others := by
  rcases Nat.lt_or_eq_of_le most with below | same
  · exact ofNat_cons_lt_of_lt fits below
  · exact List.cons_lt_cons_iff.mpr (.inr ⟨congrArg UInt8.ofNat same, behind same⟩)

/-- The bytes of a character come before those of a higher one, whatever stands behind either. -/
theorem utf8EncodeChar_append_lt {first second : Char} (below : first < second) :
    String.utf8EncodeChar first ++ rest < String.utf8EncodeChar second ++ others := by
  have lower : first.val.toNat < second.val.toNat := below
  have bounded : second.val.toNat < 1114112 := by
    rcases second.valid with small | ⟨_, large⟩
    · exact Nat.lt_trans small (by decide)
    · exact large
  simp only [String.utf8EncodeChar]
  generalize first.val.toNat = low at lower ⊢
  generalize second.val.toNat = high at lower bounded ⊢
  -- A character of more bytes starts with a higher one.  With as many on both sides the bytes are
  -- digits behind a mark of their place, so that the first place that differs decides.
  split_ifs <;> simp only [List.cons_append, List.nil_append]
  all_goals
    repeat' first
      | omega
      | exact ofNat_cons_lt_of_lt (by omega) (by omega)
      | refine ofNat_cons_lt_of_le (by omega) (by omega) fun _ => ?_

theorem flatMap_utf8EncodeChar_lt {first second : List Char} (below : first < second) :
    first.flatMap String.utf8EncodeChar < second.flatMap String.utf8EncodeChar := by
  induction first generalizing second with
  | nil =>
      cases second with
      | nil => exact absurd below (List.not_lt_nil [])
      | cons c second =>
          have shown : String.utf8EncodeChar c ≠ [] := by
            simp only [String.utf8EncodeChar]
            split_ifs <;> exact List.cons_ne_nil _ _
          obtain ⟨byte, more, eq⟩ := List.exists_cons_of_ne_nil shown
          rw [List.flatMap_cons, eq]
          exact List.nil_lt_cons byte _
  | cons c first ih =>
      cases second with
      | nil => exact absurd below (List.not_lt_nil _)
      | cons d second =>
          rw [List.flatMap_cons, List.flatMap_cons]
          rcases List.cons_lt_cons_iff.mp below with lower | ⟨rfl, behind⟩
          · exact utf8EncodeChar_append_lt lower
          · exact List.append_left_lt (ih behind)

end Bytes

theorem codePoints_lt {first second : String} (below : first < second) :
    codePoints first < codePoints second :=
  List.map_lt (fun _ _ lower => lower) (String.lt_iff.mp below)

theorem bytes_lt {first second : String} (below : first < second) :
    bytes first < bytes second := by
  rw [bytes_eq_flatMap, bytes_eq_flatMap]
  exact flatMap_utf8EncodeChar_lt (String.lt_iff.mp below)

/-- A reading of texts as lists that keeps their order also shows it. -/
theorem lt_iff_of_lt {α : Type} [LT α] [Std.Asymm fun first second : α => first < second]
    {read : String → List α} (keeps : ∀ {first second}, first < second → read first < read second)
    {first second : String} : read first < read second ↔ first < second := by
  refine ⟨fun below => ?_, keeps⟩
  rcases Std.lt_trichotomy first second with lower | rfl | higher
  · exact lower
  · exact absurd below (List.lt_asymm below)
  · exact absurd below (List.lt_asymm (keeps higher))

/-- Texts are in the order of their code points. -/
theorem codePoints_lt_iff {first second : String} :
    codePoints first < codePoints second ↔ first < second :=
  lt_iff_of_lt codePoints_lt

/-- Texts are in the order of their bytes. -/
theorem bytes_lt_iff {first second : String} : bytes first < bytes second ↔ first < second :=
  lt_iff_of_lt bytes_lt

end ApiConsole.Text
