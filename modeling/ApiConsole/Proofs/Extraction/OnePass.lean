import ApiConsole.Proofs.Extraction
import Mathlib.Data.List.Forall2

/-!
# One outcome, once and again

An outcome may be taken in field by field: look a field up, write its hit to the session, note it
and go on.  What is noted is what the outcome sets, whatever the session holds, and the session is
left as if all of it had been found first.  A second pass notes the same and changes nothing.
-/

namespace ApiConsole.Watch

open Json (Value)

/-- Takes a body in field by field: each hit is written at once, and noted. -/
def passBody (body : Value) : List WatchedField → Session → List Extraction × Session
  | [], session => ([], session)
  | watch :: rest, session =>
      match body.find? watch.field with
      | none => passBody body rest session
      | some value =>
          let (noted, left) := passBody body rest (session.set watch.placeholder (text value))
          (⟨watch.placeholder, text value⟩ :: noted, left)

def pass (watched : List WatchedField) (session : Session) : Outcome → List Extraction × Session
  | .success _ body => passBody body watched session
  | .failure _ _ => ([], session)

/-- A watched field has a hit in the body of a success, and the extraction carries it. -/
inductive Carries : Outcome → WatchedField → Extraction → Prop where
  | hit {status : Nat} {body value : Value} {watch : WatchedField}
      (found : body.find? watch.field = some value) :
      Carries (.success status body) watch ⟨watch.placeholder, text value⟩

def hits (outcome : Outcome) (watch : WatchedField) : Bool :=
  outcome.isSuccess && (outcome.body.find? watch.field).isSome

theorem extractions_cons_of_none {body : Value} {watch : WatchedField}
    (missed : body.find? watch.field = none) (rest : List WatchedField) :
    extractions (watch :: rest) body = extractions rest body := by
  simp [extractions, missed]

theorem extractions_cons_of_some {body value : Value} {watch : WatchedField}
    (found : body.find? watch.field = some value) (rest : List WatchedField) :
    extractions (watch :: rest) body =
      ⟨watch.placeholder, text value⟩ :: extractions rest body := by
  simp [extractions, found]

/-- Writing hits as they are found is finding them first. -/
theorem passBody_eq (body : Value) (watched : List WatchedField) (session : Session) :
    passBody body watched session =
      (extractions watched body, apply session (extractions watched body)) := by
  induction watched generalizing session with
  | nil => rfl
  | cons watch rest ih =>
      cases found : body.find? watch.field with
      | none => rw [passBody, found, extractions_cons_of_none found, ih]
      | some value =>
          simp only [passBody, found, extractions_cons_of_some found, ih]
          rfl

theorem pass_eq (watched : List WatchedField) (session : Session) (outcome : Outcome) :
    pass watched session outcome =
      (extracted watched outcome, apply session (extracted watched outcome)) := by
  cases outcome with
  | success status body => exact passBody_eq body watched session
  | failure status body => rfl

/-- There is one extraction for each watched field that has a hit, in their order. -/
theorem carries_extracted (watched : List WatchedField) (outcome : Outcome) :
    List.Forall₂ (Carries outcome) (watched.filter (hits outcome))
      (extracted watched outcome) := by
  cases outcome with
  | failure status body =>
      have none : watched.filter (hits (.failure status body)) = [] :=
        List.filter_eq_nil_iff.mpr fun _ _ => Bool.false_ne_true
      rw [none]
      exact .nil
  | success status body =>
      change List.Forall₂ _ _ (extractions watched body)
      induction watched with
      | nil => exact .nil
      | cons watch rest ih =>
          cases found : body.find? watch.field with
          | none =>
              have missed : hits (.success status body) watch = false :=
                congrArg Option.isSome found
              rw [List.filter_cons_of_neg (by simp [missed]), extractions_cons_of_none found]
              exact ih
          | some value =>
              have hit : hits (.success status body) watch = true :=
                congrArg Option.isSome found
              rw [List.filter_cons_of_pos hit, extractions_cons_of_some found]
              exact .cons (.hit found) ih

/-- Extractions that are made again change nothing. -/
theorem apply_apply (session : Session) (extractions : List Extraction) :
    apply (apply session extractions) extractions = apply session extractions := by
  refine Session.ext_get? fun name => ?_
  rw [get?_apply, get?_apply]
  cases (valuesFor name extractions).getLast? <;> rfl

/--
What an outcome sets does not hang on the session, and there is one extraction for each watched
field with a hit in the body of a success, in the order of the watched fields.  The session is left
with these made in order: the last one for a name counts, and a name that none is for is left alone.
The same outcome again gives the same extractions and leaves the session as it is.
-/
theorem pass_of_any_session (watched : List WatchedField) (outcome : Outcome) :
    List.Forall₂ (Carries outcome) (watched.filter (hits outcome)) (extracted watched outcome) ∧
    ∀ session,
      pass watched session outcome =
        (extracted watched outcome, apply session (extracted watched outcome)) ∧
      (∀ name, (pass watched session outcome).2.get? name =
        (valuesFor name (extracted watched outcome)).getLast?.or (session.get? name)) ∧
      pass watched (pass watched session outcome).2 outcome = pass watched session outcome := by
  refine ⟨carries_extracted watched outcome, fun session => ⟨pass_eq watched session outcome, ?_, ?_⟩⟩
  · intro name
    rw [pass_eq]
    exact get?_apply session (extracted watched outcome) name
  · rw [pass_eq watched session, pass_eq watched (apply session _), apply_apply]

end ApiConsole.Watch
