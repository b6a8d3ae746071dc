import ApiConsole.Outcome
import ApiConsole.Proofs.Json.Search
import ApiConsole.Proofs.Session

/-!
# What extractions leave in a session

A body writes a session value exactly when some watched field of that name has a hit in it, and the
last such field decides.  Nothing else of the session is touched, and the search never answers with
a null.
-/

namespace ApiConsole

/-- A hit of the search is never null. -/
theorem Json.Value.find?_ne_null {field : String} {value : Value} (body : Value)
    (found : body.find? field = some value) : value.isNull = false := by
  obtain ⟨_, ⟨_, _, _, notNull⟩, _⟩ := exists_firstHit_of_find?_eq_some body found
  exact (ne_null_iff value).mp notNull

namespace Watch

/-- The values that extractions put under a name, in order. -/
def valuesFor (name : String) (extractions : List Extraction) : List String :=
  extractions.filterMap fun extraction =>
    if extraction.placeholder = name then some extraction.value else none

/-- The last value put under a name stays; a name that none is put under keeps what it had. -/
theorem get?_apply (session : Session) (extractions : List Extraction) (name : String) :
    (apply session extractions).get? name =
      (valuesFor name extractions).getLast?.or (session.get? name) :=
  Session.get?_foldl (fun session extraction =>
    session.get?_set_or extraction.placeholder name extraction.value) session extractions

/-- The hit of a field in a body, which counts only if it is not null. -/
def hit? (field : String) (body : Json.Value) : Option Json.Value :=
  (body.find? field).filter fun value => !value.isNull

theorem hit?_eq_find? (field : String) (body : Json.Value) : hit? field body = body.find? field := by
  unfold hit?
  cases found : body.find? field with
  | none => rfl
  | some value =>
      have notNull := Json.Value.find?_ne_null body found
      simp [Option.filter, notNull]

/--
The text that a body puts under a name: that of the hit of the last watched field which feeds the
name and has a hit.
-/
def lastHit? (watched : List WatchedField) (name : String) (body : Json.Value) : Option String :=
  (watched.filterMap fun watch =>
    if watch.placeholder = name then (hit? watch.field body).map text else none).getLast?

theorem getLast?_valuesFor_extractions (watched : List WatchedField) (name : String)
    (body : Json.Value) :
    (valuesFor name (extractions watched body)).getLast? = lastHit? watched name body := by
  have pointwise (watch : WatchedField) :
      (((body.find? watch.field).map fun value =>
          (⟨watch.placeholder, text value⟩ : Extraction)).bind fun extraction =>
        if extraction.placeholder = name then some extraction.value else none) =
      if watch.placeholder = name then (hit? watch.field body).map text else none := by
    rw [hit?_eq_find?]
    cases body.find? watch.field with
    | none => simp
    | some value => rfl
  unfold valuesFor extractions lastHit?
  rw [List.filterMap_filterMap]
  exact congrArg List.getLast? (congrArg (fun f => List.filterMap f watched) (funext pointwise))

def written? (watched : List WatchedField) (name : String) : Outcome → Option String
  | .success _ body => lastHit? watched name body
  | .failure _ _ => none

/-- An outcome leaves under each name what it puts there, and what was there if it puts nothing. -/
theorem get?_apply_extracted (watched : List WatchedField) (session : Session) (name : String)
    (outcome : Outcome) :
    (apply session (extracted watched outcome)).get? name =
      (written? watched name outcome).or (session.get? name) := by
  rw [get?_apply]
  cases outcome with
  | success status body =>
      rw [extracted, getLast?_valuesFor_extractions]
      rfl
  | failure status body => rfl

def takeIn (watched : List WatchedField) (session : Session) (outcomes : List Outcome) : Session :=
  outcomes.foldl (fun session outcome => apply session (extracted watched outcome)) session

/-- After any outcomes a name holds what the last outcome that wrote it put there. -/
theorem get?_takeIn (watched : List WatchedField) (session : Session) (outcomes : List Outcome)
    (name : String) :
    (takeIn watched session outcomes).get? name =
      (outcomes.filterMap (written? watched name)).getLast?.or (session.get? name) :=
  Session.get?_foldl (fun session => get?_apply_extracted watched session name) session outcomes

end Watch

end ApiConsole
