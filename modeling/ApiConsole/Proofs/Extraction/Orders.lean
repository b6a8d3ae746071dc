import ApiConsole.Proofs.Extraction

/-!
# Outcomes in any order

Outcomes leave the same session in whatever order they come in exactly if no two of them leave
different values under a name.  Where two do, the one that comes in last is seen, whatever the
session held before.
-/

namespace ApiConsole.Watch

/-- All of some outcomes that write under a name leave the same value there. -/
def Agree (watched : List WatchedField) (outcomes : List Outcome) : Prop :=
  ∀ name, ∀ one ∈ outcomes, ∀ other ∈ outcomes, ∀ value another,
    written? watched name one = some value → written? watched name other = some another →
      value = another

variable {watched : List WatchedField} {outcomes : List Outcome}

/-- Of two lists of equal values, the one has a last value exactly if the other has. -/
theorem getLast?_eq_of_perm {α : Type} {first second : List α} (perm : first.Perm second)
    (equal : ∀ one ∈ second, ∀ other ∈ second, one = other) :
    first.getLast? = second.getLast? := by
  cases last : first.getLast? with
  | none =>
      have empty : first = [] := List.getLast?_eq_none_iff.mp last
      have same : [] = second := List.Perm.nil_eq (empty ▸ perm)
      rw [← same]
      rfl
  | some value =>
      have member : value ∈ second := perm.mem_iff.mp (List.mem_of_getLast? last)
      cases there : second.getLast? with
      | none => simp [List.getLast?_eq_none_iff.mp there] at member
      | some other => rw [equal value member other (List.mem_of_getLast? there)]

/-- Outcomes that agree leave the same in any order. -/
theorem Agree.takeIn_eq (agree : Agree watched outcomes) {order : List Outcome}
    (perm : order.Perm outcomes) (session : Session) :
    takeIn watched session order = takeIn watched session outcomes := by
  refine Session.ext_get? fun name => ?_
  rw [get?_takeIn, get?_takeIn]
  refine congrArg (Option.or · _) (getLast?_eq_of_perm (perm.filterMap _) ?_)
  intro value member another mentioned
  obtain ⟨one, here, writes⟩ := List.mem_filterMap.mp member
  obtain ⟨other, there, rewrites⟩ := List.mem_filterMap.mp mentioned
  exact agree name one here other there value another writes rewrites

/-- Any outcome may come in last, and then it decides wherever it writes. -/
theorem exists_order_ending_with (watched : List WatchedField) {outcome : Outcome}
    (member : outcome ∈ outcomes) : ∃ order, order.Perm outcomes ∧ ∀ session name value,
      written? watched name outcome = some value →
        (takeIn watched session order).get? name = some value := by
  obtain ⟨before, behind, parts⟩ := List.append_of_mem member
  refine ⟨before ++ behind ++ [outcome], ?_, ?_⟩
  · rw [parts]
    exact (List.perm_append_singleton ..).trans List.perm_middle.symm
  · intro session name value writes
    rw [get?_takeIn, List.filterMap_append, List.filterMap_cons, writes]
    simp

/-- Outcomes that leave the same session in any order agree; one session is enough to tell. -/
theorem agree_of_takeIn_eq {session : Session}
    (same : ∀ order, order.Perm outcomes →
      takeIn watched session order = takeIn watched session outcomes) :
    Agree watched outcomes := by
  intro name one here other there value another writes rewrites
  obtain ⟨first, permFirst, endsFirst⟩ := exists_order_ending_with watched here
  obtain ⟨second, permSecond, endsSecond⟩ := exists_order_ending_with watched there
  have reached := endsFirst session name value writes
  rw [same first permFirst, ← same second permSecond,
    endsSecond session name another rewrites] at reached
  exact (Option.some.inj reached).symm

/--
From every session, outcomes leave the same in any order exactly if all of them that write under a
name leave the same value there.  Any one session tells: where two differ, some order of them shows
it from there.
-/
theorem takeIn_perm_iff_agree (watched : List WatchedField) (outcomes : List Outcome) :
    ((∀ session order, order.Perm outcomes →
        takeIn watched session order = takeIn watched session outcomes) ↔
      Agree watched outcomes) ∧
    ∀ session, (∀ order, order.Perm outcomes →
        takeIn watched session order = takeIn watched session outcomes) ↔
      Agree watched outcomes := by
  refine ⟨⟨fun same => ?_, ?_⟩, fun session => ⟨agree_of_takeIn_eq, ?_⟩⟩
  · exact agree_of_takeIn_eq (same Session.empty)
  · intro agree session order perm
    exact agree.takeIn_eq perm session
  · intro agree order perm
    exact agree.takeIn_eq perm session

end ApiConsole.Watch
