import ApiConsole.Proofs.Extraction
import ApiConsole.Proofs.Json.Integer
import ApiConsole.Proofs.Json.Reading
import ApiConsole.Proofs.Json.TreeSearch

/-!
# Integers as they were sent

An identifier may be sent as a number.  The session keeps it digit for digit if it fits in 64 bits,
and not otherwise: minus zero and integers that do not fit are kept as the text of a double.
-/

namespace ApiConsole

open Json (Tree Numeral Value)

namespace Outcome

/-- The body of an answer that is a document with a value. -/
theorem bodyOfText_of_value? {tree : Tree} {text : String} {value : Value}
    (document : Json.IsDocument tree text.toList)
    (read : tree.value? Json.depthLimit = some value) : bodyOfText text = value := by
  have parsed := Json.parse_document document
  rw [read] at parsed
  unfold bodyOfText
  cases result : Json.parse text.toList with
  | error fault => rw [result] at parsed; cases parsed
  | ok found => rw [result] at parsed; exact Option.some.inj parsed

/-- The body of an answer that is a document without a value is a text. -/
theorem bodyOfText_of_no_value {tree : Tree} {text : String}
    (document : Json.IsDocument tree text.toList)
    (unread : tree.value? Json.depthLimit = none) : bodyOfText text = .string text := by
  have parsed := Json.parse_document document
  rw [unread] at parsed
  unfold bodyOfText
  cases result : Json.parse text.toList with
  | error fault => rfl
  | ok found => rw [result] at parsed; cases parsed

end Outcome

namespace Watch

variable (before : List WatchedField) {after : List WatchedField} {watch : WatchedField}

/-- The last watched field of a name that has a hit decides what is put under the name. -/
theorem lastHit?_of_last {body value : Value} (found : body.find? watch.field = some value)
    (last : ∀ later ∈ after, later.placeholder = watch.placeholder →
      body.find? later.field = none) :
    lastHit? (before ++ watch :: after) watch.placeholder body = some (text value) := by
  have silent : after.filterMap (fun later =>
      if later.placeholder = watch.placeholder then (hit? later.field body).map text else none) =
      [] := by
    rw [List.filterMap_eq_nil_iff]
    intro later member
    split
    · next same => rw [hit?_eq_find?, last later member same]; rfl
    · rfl
  rw [lastHit?, List.filterMap_append, List.filterMap_cons, hit?_eq_find?, found, silent]
  simp

/-- A text puts nothing under any name. -/
theorem lastHit?_string (watched : List WatchedField) (name text : String) :
    lastHit? watched name (.string text) = none := by
  have silent : watched.filterMap (fun watch =>
      if watch.placeholder = name then (hit? watch.field (.string text)).map Watch.text else none) =
      [] := by
    rw [List.filterMap_eq_nil_iff]
    intro watch _
    split <;> rfl
  rw [lastHit?, silent]
  rfl

variable {tree : Tree} {body : String} {status : Nat} {numeral : Numeral}

/--
Where a watched field has its hit in the answer of a success at an integer, and no later field of
the same name has a hit, the session has the integer under that name as it was written exactly if
three things hold: the answer can be read, the integer is not minus zero, and it fits in 64 bits.
-/
theorem get?_apply_integer_iff (document : Json.IsDocument tree body.toList)
    (success : Outcome.isSuccessStatus status = true)
    (hit : tree.find? watch.field = some (.number numeral)) (integer : numeral.IsInteger)
    (last : ∀ later ∈ after, later.placeholder = watch.placeholder →
      tree.find? later.field = none) :
    (∀ session, (apply session (extracted (before ++ watch :: after)
        (.ofResponse status (Outcome.bodyOfText body)))).get? watch.placeholder =
          some (String.ofList numeral.text)) ↔
      (tree.value? Json.depthLimit).isSome ∧ numeral.text ≠ Numeral.minusZero ∧
        Json.Fits numeral.value := by
  have outcome (value : Value) : Outcome.ofResponse status value = .success status value :=
    if_pos success
  simp only [outcome, get?_apply_extracted, written?]
  cases read : tree.value? Json.depthLimit with
  | none =>
      rw [Outcome.bodyOfText_of_no_value document read, lastHit?_string]
      constructor
      · intro kept
        cases kept .empty
      · rintro ⟨readable, _⟩
        cases readable
  | some value =>
      have found := Tree.rel_find? watch.field read
      rw [hit] at found
      obtain ⟨number, numberRead, there⟩ : ∃ number, numeral.number? = some number ∧
          value.find? watch.field = some (.number number) := by
        generalize value.find? watch.field = sought at found
        obtain @⟨_, _, depth, means⟩ := found
        obtain ⟨number, numberRead, rfl⟩ := Option.map_eq_some_iff.mp means
        exact ⟨number, numberRead, rfl⟩
      have silent : ∀ later ∈ after, later.placeholder = watch.placeholder →
          value.find? later.field = none := by
        intro later member same
        have missed := Tree.rel_find? later.field read
        rw [last later member same] at missed
        generalize value.find? later.field = sought at missed
        cases missed
        rfl
      rw [Outcome.bodyOfText_of_value? document read, lastHit?_of_last before there silent,
        ← Numeral.text_number_iff integer numberRead]
      have written : text (.number number) = String.ofList number.text := rfl
      rw [written]
      constructor
      · intro kept
        exact ⟨rfl, String.ofList_injective (Option.some.inj (kept .empty))⟩
      · rintro ⟨_, same⟩ session
        rw [same]
        rfl

def answer (numeral : Numeral) : Tree :=
  .object [("id", .number numeral)]

theorem isDocument_answer (numeral : Numeral) :
    Json.IsDocument (answer numeral)
      ('\x7b' :: ('"' :: 'i' :: 'd' :: '"' :: ':' :: (numeral.text ++ ['\x7d']))) := by
  have name : Json.Quoted ['i', 'd'] ['i', 'd'] :=
    .plain (by decide) (.plain (by decide) .nil)
  have member := Json.SpellsPair.intro name .nil .nil (Json.Spells.number numeral)
  have object := Json.Spells.object .nil (Json.SpellsPairs.last member .nil)
  exact ⟨[], _, [], .nil, object, .nil, by simp⟩

def least : Numeral :=
  .ofNat true 9223372036854775808

theorem get?_apply_integer_iff_least :
    (apply .default (extracted default
      (.ofResponse 200 (Outcome.bodyOfText "\x7b\"id\":-9223372036854775808\x7d")))).get?
        Session.messageName = some "-9223372036854775808" := by
  have document : Json.IsDocument (answer least)
      "\x7b\"id\":-9223372036854775808\x7d".toList := isDocument_answer least
  have hit : (answer least).find? (WatchedField.mk Session.messageName "id").field =
      some (.number least) := rfl
  have last : ∀ later ∈ ([] : List WatchedField), later.placeholder = Session.messageName →
      (answer least).find? later.field = none := nofun
  have success : Outcome.isSuccessStatus 200 = true := rfl
  have kept :=
    get?_apply_integer_iff [⟨Session.connectionName, "uuid"⟩] document success hit ⟨rfl, rfl⟩ last
  exact kept.mpr ⟨rfl, by decide, by decide⟩ .default

def oversized : Numeral :=
  .ofNat false 18446744073709551616

/-- An integer that does not fit is kept as another text. -/
theorem get?_apply_oversized :
    Json.IsDocument (answer oversized) "\x7b\"id\":18446744073709551616\x7d".toList ∧
      (answer oversized).find? "id" = some (.number oversized) ∧
      oversized.IsInteger ∧ oversized.text = "18446744073709551616".toList ∧
      (apply .default (extracted default
        (.ofResponse 200 (Outcome.bodyOfText "\x7b\"id\":18446744073709551616\x7d")))).get?
          Session.messageName = some "1.8446744073709552e+19" :=
  ⟨isDocument_answer oversized, rfl, ⟨rfl, rfl⟩, rfl, by decide +kernel⟩

end Watch

end ApiConsole
