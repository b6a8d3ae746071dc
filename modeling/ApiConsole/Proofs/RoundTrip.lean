import ApiConsole.Proofs.Extraction.Integers
import ApiConsole.Proofs.Json.Writing
import ApiConsole.Report
import ApiConsole.Transport

/-!
# What the console writes of a value is read as the value

A value is written as the body of a request, as the body shown of a success, and as the text kept
for a hit.  Each of these texts, read as the body of an answer, is the value again, as long as its
numbers are integers and its containers stand no deeper inside each other than the reader goes.
-/

namespace ApiConsole

open Json (Tree Value)

namespace Outcome

variable {tree : Tree} {value : Value} {core : List Char}

/-- White space around the text of a value does not matter. -/
theorem bodyOfText_of_spells (spelled : Json.Spells tree core)
    (read : tree.value? Json.depthLimit = some value) {front behind : List Char}
    (blank : Json.IsBlank front) (blankBehind : Json.IsBlank behind) :
    bodyOfText (String.ofList (front ++ (core ++ behind))) = value := by
  have document : Json.IsDocument tree (String.ofList (front ++ (core ++ behind))).toList :=
    ⟨front, core, behind, blank, spelled, blankBehind, String.toList_ofList⟩
  exact bodyOfText_of_value? document read

theorem bodyOfText_of_spells_alone (spelled : Json.Spells tree core)
    (read : tree.value? Json.depthLimit = some value) :
    bodyOfText (String.ofList core) = value := by
  simpa using bodyOfText_of_spells spelled read .nil .nil

theorem bodyOfText_of_spells_line (spelled : Json.Spells tree core)
    (read : tree.value? Json.depthLimit = some value) :
    bodyOfText (String.ofList core ++ "\n") = value := by
  have newLine : Json.IsBlank ['\n'] := Json.isBlank_newLine 0
  have text : String.ofList core ++ "\n" = String.ofList ([] ++ (core ++ ['\n'])) := by
    rw [List.nil_append, String.ofList_append]
  exact text ▸ bodyOfText_of_spells spelled read .nil newLine

end Outcome

namespace Watch

variable {watch : WatchedField} {body value : Value}

theorem extractions_of_hit (before after : List WatchedField)
    (found : body.find? watch.field = some value) :
    extractions (before ++ watch :: after) body =
      extractions before body ++ ⟨watch.placeholder, text value⟩ :: extractions after body := by
  simp [extractions, found]

/-- Only a string is not kept in the compact layout. -/
theorem text_of_not_string (other : ∀ text, value ≠ .string text) :
    text value = String.ofList value.compact := by
  cases value with
  | string text => exact absurd rfl (other text)
  | _ => rfl

end Watch

open Outcome (bodyOfText)
open Watch (apply extracted extractions)

/--
A value whose numbers are integers, whose names are distinct, and whose containers are not too deep
inside each other is read back from the body of a request, from what is shown of a success behind
its status, and, if it is no string, from what is kept for a hit.
-/
theorem bodyOfText_written {value : Value} (integral : value.Integral) (distinct : value.Distinct)
    (shallow : value.depth ≤ Json.depthLimit) :
    (∀ (endpoint : Endpoint) (session : Session), endpoint.payload = .fixed value →
      ∃ text, (Request.compose endpoint session).body = some text ∧ bodyOfText text = value) ∧
    (∀ (time : Option TimeOfDay) (id : String) (status : Nat), ∃ shown,
      (Record.outcome time id (.success status value)).text =
          Record.heading time id ++ "\nSTATUS: " ++ toString status ++ "\n" ++ shown ++ "\n" ∧
        bodyOfText shown = value ∧ bodyOfText (shown ++ "\n") = value) ∧
    ∀ (before : List WatchedField) (watch : WatchedField) (after : List WatchedField) (body : Value),
      body.find? watch.field = some value → (∀ text, value ≠ .string text) →
      ∃ text, bodyOfText text = value ∧
        extractions (before ++ watch :: after) body =
          extractions before body ++ ⟨watch.placeholder, text⟩ :: extractions after body ∧
        ((∀ later ∈ after, later.placeholder = watch.placeholder → body.find? later.field = none) →
          ∀ session status,
            (apply session (extracted (before ++ watch :: after) (.success status body))).get?
              watch.placeholder = some text) := by
  obtain ⟨tree, written⟩ := value.exists_written integral distinct
  have read := written.means Json.depthLimit shallow
  have pretty := Outcome.bodyOfText_of_spells_alone (written.pretty 0) read
  refine ⟨?_, ?_, ?_⟩
  · intro endpoint session payload
    refine ⟨Record.prettyText value, ?_, pretty⟩
    rw [Request.compose, payload]
    rfl
  · intro time id status
    exact ⟨Record.prettyText value, rfl, pretty,
      Outcome.bodyOfText_of_spells_line (written.pretty 0) read⟩
  · intro before watch after body found other
    have kept := Watch.text_of_not_string other
    refine ⟨Watch.text value, ?_, Watch.extractions_of_hit before after found, ?_⟩
    · rw [kept]
      exact Outcome.bodyOfText_of_spells_alone written.compact read
    · intro last session status
      rw [Watch.get?_apply_extracted, Watch.written?, Watch.lastHit?_of_last before found last]
      rfl

/-- A value with the greatest integer and the least, an escaped name and an empty container. -/
def extremes : Value :=
  .array [.ofInt 18446744073709551615 (by decide),
    .object [("\"\n", .ofInt (-9223372036854775808) (by decide)), ("", .array [])]]

theorem bodyOfText_written_extremes :
    extremes.Integral ∧ extremes.Distinct ∧ extremes.depth ≤ Json.depthLimit ∧
      (∃ text, (Request.compose ⟨"a", .post, "", [], .fixed extremes⟩ .empty).body = some text ∧
        bodyOfText text = extremes) ∧
      ∃ text, bodyOfText text = extremes ∧
        (apply .empty (extracted [⟨"x", "k"⟩] (.success 200 (.object [("k", extremes)])))).get? "x" =
          some text := by
  have integral : extremes.Integral := by
    refine .intro nofun ?_
    rw [extremes, Value.children, List.forall_mem_cons, List.forall_mem_singleton]
    refine ⟨.intro nofun nofun, .intro nofun ?_⟩
    rw [Value.children, List.forall_mem_map, List.forall_mem_cons, List.forall_mem_singleton]
    exact ⟨.intro nofun nofun, .intro nofun nofun⟩
  have distinct : extremes.Distinct := by
    refine .intro nofun ?_
    rw [extremes, Value.children, List.forall_mem_cons, List.forall_mem_singleton]
    refine ⟨.intro nofun nofun, .intro ?_ ?_⟩
    · rintro members ⟨⟩
      decide
    rw [Value.children, List.forall_mem_map, List.forall_mem_cons, List.forall_mem_singleton]
    exact ⟨.intro nofun nofun, .intro nofun nofun⟩
  have shallow : extremes.depth ≤ Json.depthLimit := by decide
  obtain ⟨body, _, kept⟩ := bodyOfText_written integral distinct shallow
  obtain ⟨text, back, _, last⟩ :=
    kept [] ⟨"x", "k"⟩ [] (.object [("k", extremes)]) rfl (fun _ => nofun)
  exact ⟨integral, distinct, shallow, body _ _ rfl, text, back, last nofun .empty 200⟩

end ApiConsole
