import ApiConsole.Session
import Mathlib.Data.List.Nodup
import Mathlib.Data.List.Perm.Basic

/-!
# What a series of writes leaves in a session

Where each change writes at most one value under a name, the last change that writes one decides,
and a name that none writes keeps what it had.  Since the names are in order, a session is known by
what it holds under them.
-/

namespace ApiConsole.Session

/-- In ascending entries a value is found under a name exactly if the two are an entry. -/
theorem lookup_eq_some_iff_mem {name value : String} {entries : List (String × String)}
    (ascending : entries.Pairwise fun first second => first.1 < second.1) :
    entries.lookup name = some value ↔ (name, value) ∈ entries := by
  induction entries with
  | nil => simp
  | cons head rest ih =>
      obtain ⟨key, old⟩ := head
      obtain ⟨above, ordered⟩ := List.pairwise_cons.mp ascending
      rw [List.mem_cons, ← ih ordered, List.lookup_cons]
      by_cases same : name = key
      · subst same
        -- The name stands in front, so it does not come again behind.
        have absent : rest.lookup name ≠ some value := fun found =>
          String.lt_irrefl name (above _ ((ih ordered).mp found))
        simp [absent, eq_comm]
      · simp [same, beq_eq_false_iff_ne.mpr same]

/-- No name comes twice. -/
theorem nodup_names (session : Session) : (session.entries.map Prod.fst).Nodup := by
  rw [List.nodup_iff_pairwise_ne, List.pairwise_map]
  refine session.ascending.imp fun below same => ?_
  rw [same] at below
  exact String.lt_irrefl _ below

/-- Sessions that hold the same under each name are the same. -/
theorem ext_get? {first second : Session} (same : ∀ name, first.get? name = second.get? name) :
    first = second := by
  have perm : first.entries.Perm second.entries := by
    refine (List.perm_ext_iff_of_nodup (List.Nodup.of_map Prod.fst first.nodup_names)
      (List.Nodup.of_map Prod.fst second.nodup_names)).mpr ?_
    rintro ⟨name, value⟩
    rw [← lookup_eq_some_iff_mem first.ascending, ← lookup_eq_some_iff_mem second.ascending]
    exact Eq.congr_left (same name)
  refine ext (perm.eq_of_pairwise ?_ first.ascending second.ascending)
  intro one other _ _ below above
  exact absurd above (String.lt_asymm below)

/-- A setting writes under its own name only. -/
theorem get?_set_or (session : Session) (name other value : String) :
    (session.set name value).get? other =
      (if name = other then some value else none).or (session.get? other) := by
  rw [get?_set]
  by_cases same : name = other
  · rw [if_pos same, if_pos same.symm]
    rfl
  · rw [if_neg same, if_neg fun other => same other.symm]
    rfl

/-- The last of some changes that writes under a name decides, if each change leaves there what it
writes, or else what was there. -/
theorem get?_foldl {α : Type} {change : Session → α → Session} {write? : α → Option String}
    {name : String}
    (each : ∀ session step, (change session step).get? name = (write? step).or (session.get? name))
    (session : Session) (steps : List α) :
    (steps.foldl change session).get? name =
      (steps.filterMap write?).getLast?.or (session.get? name) := by
  induction steps generalizing session with
  | nil => rfl
  | cons step rest ih =>
      rw [List.foldl_cons, ih, each, List.filterMap_cons]
      cases write? step with
      | none => rfl
      | some value =>
          rw [List.getLast?_cons]
          cases (rest.filterMap write?).getLast? <;> rfl

end ApiConsole.Session
