import ApiConsole.Json.Value
import Mathlib.Data.List.Lex

/-!
# The first hit of a search

Every value inside a value has a place: the number of the child that is taken at each level, from
the outside in.  In the lexicographic order of places a value comes before whatever it holds, and
what it holds comes in document order.  The search finds the member of the first object in this
order that has one under the field which is not null, and it finds nothing exactly if there is none.
-/

namespace ApiConsole.Json.Value

def children : Value → List Value
  | .array items => items
  | .object members => members.map Prod.snd
  | _ => []

def at? (value : Value) : List Nat → Option Value
  | [] => some value
  | index :: rest => value.children[index]?.bind fun child => child.at? rest

/-- At a place stands an object whose member under a field is not null. -/
def Hit (field : String) (payload : Value) (place : List Nat) (hit : Value) : Prop :=
  ∃ members, payload.at? place = some (.object members) ∧
    Members.get? members field = some hit ∧ hit ≠ .null

def FirstHit (field : String) (payload : Value) (place : List Nat) (hit : Value) : Prop :=
  Hit field payload place hit ∧ ∀ earlier < place, ∀ other, ¬Hit field payload earlier other

variable {field : String}

/-- Induction over what values hold. -/
theorem induction_children {motive : Value → Prop}
    (step : ∀ value, (∀ child ∈ value.children, motive child) → motive value) (value : Value) :
    motive value :=
  step value fun child _ => induction_children step child
termination_by value
decreasing_by
  rename_i member
  cases value with
  | array items =>
      have smaller : sizeOf child < sizeOf items := List.sizeOf_lt_of_mem member
      simp only [array.sizeOf_spec]
      omega
  | object members =>
      obtain ⟨⟨name, child⟩, here, rfl⟩ := List.mem_map.mp member
      have smaller := List.sizeOf_lt_of_mem here
      simp only [Prod.mk.sizeOf_spec, object.sizeOf_spec] at smaller ⊢
      omega
  | _ => cases member

theorem ne_null_iff (value : Value) : value ≠ .null ↔ value.isNull = false := by
  cases value <;> simp [isNull]

/-- The member of an object itself, unless it is null; other values have no members. -/
def own? (field : String) : Value → Option Value
  | .object members => member? members field
  | _ => none

theorem findInMembers?_eq_findSome? (members : List (String × Value)) :
    findInMembers? field members = (members.map Prod.snd).findSome? (find? field) := by
  induction members with
  | nil => rfl
  | cons member rest ih =>
      rw [findInMembers?, List.map_cons, List.findSome?_cons, ih]
      cases member.2.find? field <;> rfl

/-- The search looks at a value itself and then into its children. -/
theorem find?_eq (payload : Value) :
    payload.find? field =
      (payload.own? field).or (payload.children.findSome? (find? field)) := by
  cases payload with
  | array items => exact findInItems?_eq_findSome? field items
  | object members =>
      rw [find?, findInMembers?_eq_findSome?, Option.orElse_eq_orElse, Option.orElse_eq_or]
      rfl
  | _ => rfl

/-- What a value itself contributes is its hit at the outermost place. -/
theorem own?_eq_some_iff {payload hit : Value} :
    payload.own? field = some hit ↔ Hit field payload [] hit := by
  cases payload with
  | object members =>
      rw [own?, member?, Option.filter_eq_some_iff]
      simp [Hit, at?, ne_null_iff]
  | _ => simp [own?, Hit, at?]

/-- The hits further inside are those of the children. -/
theorem hit_cons_iff {payload hit : Value} {index : Nat} {rest : List Nat} :
    Hit field payload (index :: rest) hit ↔
      ∃ child, payload.children[index]? = some child ∧ Hit field child rest hit := by
  simp only [Hit, at?, Option.bind_eq_some_iff]
  constructor
  · rintro ⟨members, ⟨child, here, inside⟩, hits⟩
    exact ⟨child, here, members, inside, hits⟩
  · rintro ⟨child, here, members, inside, hits⟩
    exact ⟨members, ⟨child, here, inside⟩, hits⟩

/-- Where the search finds nothing, there is no hit. -/
theorem not_hit_of_find?_eq_none (payload : Value) (missed : payload.find? field = none)
    (place : List Nat) (hit : Value) : ¬Hit field payload place hit := by
  induction payload using induction_children generalizing place with
  | step payload ih =>
      rw [find?_eq, Option.or_eq_none_iff, List.findSome?_eq_none_iff] at missed
      obtain ⟨none, noneInside⟩ := missed
      intro hits
      cases place with
      | nil =>
          rw [own?_eq_some_iff.mpr hits] at none
          cases none
      | cons index rest =>
          obtain ⟨child, here, inside⟩ := hit_cons_iff.mp hits
          have member := List.mem_of_getElem? here
          exact ih child member (noneInside child member) rest inside

/-- What the search finds is a hit, and there is none before it. -/
theorem exists_firstHit_of_find?_eq_some (payload : Value) {hit : Value}
    (found : payload.find? field = some hit) : ∃ place, FirstHit field payload place hit := by
  induction payload using induction_children with
  | step payload ih =>
      rw [find?_eq, Option.or_eq_some_iff] at found
      rcases found with own | ⟨none, inside⟩
      · exact ⟨[], own?_eq_some_iff.mp own, fun earlier before => absurd before (List.not_lt_nil _)⟩
      · obtain ⟨before, child, behind, parts, here, missed⟩ :=
          List.findSome?_eq_some_iff.mp inside
        have member : child ∈ payload.children := by
          rw [parts]
          exact List.mem_append_right _ (List.mem_cons_self ..)
        obtain ⟨place, hits, first⟩ := ih child member here
        have stands : payload.children[before.length]? = some child := by
          rw [parts, List.getElem?_append_right (Nat.le_refl _), Nat.sub_self]
          rfl
        refine ⟨before.length :: place, hit_cons_iff.mpr ⟨child, stands, hits⟩, ?_⟩
        intro earlier less other impossible
        cases earlier with
        | nil =>
            rw [own?_eq_some_iff.mpr impossible] at none
            cases none
        | cons index rest =>
            obtain ⟨sibling, there, within⟩ := hit_cons_iff.mp impossible
            rcases List.cons_lt_cons_iff.mp less with smaller | ⟨same, inner⟩
            · -- A child before the one that has the hit has none.
              rw [parts, List.getElem?_append_left smaller] at there
              exact not_hit_of_find?_eq_none sibling
                (missed sibling (List.mem_of_getElem? there)) rest other within
            · rw [same, stands] at there
              cases there
              exact first rest inner other within

/-- The first hit is the only one of its kind. -/
theorem FirstHit.unique {payload : Value} {place other : List Nat} {hit rival : Value}
    (first : FirstHit field payload place hit) (second : FirstHit field payload other rival) :
    hit = rival := by
  rcases lt_trichotomy place other with before | same | behind
  · exact absurd first.1 (second.2 place before hit)
  · subst same
    obtain ⟨members, here, under, _⟩ := first.1
    obtain ⟨others, there, beneath, _⟩ := second.1
    cases here.symm.trans there
    exact Option.some.inj (under.symm.trans beneath)
  · exact absurd second.1 (first.2 other behind rival)

/--
The search finds the hit at the first place in pre-order, and nothing exactly if no place has a hit.
An object that has a hit of its own answers with it, whatever its members hold.
-/
theorem find?_eq_some_iff_firstHit (field : String) (payload : Value) :
    (∀ hit, payload.find? field = some hit ↔ ∃ place, FirstHit field payload place hit) ∧
      (payload.find? field = none ↔ ∀ place hit, ¬Hit field payload place hit) ∧
      ∀ hit, Hit field payload [] hit → payload.find? field = some hit := by
  have complete : ∀ place hit, FirstHit field payload place hit →
      payload.find? field = some hit := by
    intro place hit first
    cases found : payload.find? field with
    | none => exact absurd first.1 (not_hit_of_find?_eq_none payload found place hit)
    | some other =>
        obtain ⟨elsewhere, second⟩ := exists_firstHit_of_find?_eq_some payload found
        rw [first.unique second]
  refine ⟨fun hit => ⟨exists_firstHit_of_find?_eq_some payload, ?_⟩, ⟨?_, ?_⟩, ?_⟩
  · rintro ⟨place, first⟩
    exact complete place hit first
  · exact not_hit_of_find?_eq_none payload
  · intro none
    refine Option.eq_none_iff_forall_ne_some.mpr fun hit found => ?_
    obtain ⟨place, first⟩ := exists_firstHit_of_find?_eq_some payload found
    exact none place hit first.1
  · intro hit own
    exact complete [] hit ⟨own, fun earlier before => absurd before (List.not_lt_nil _)⟩

/-- A hit in an earlier member gives way to a hit of the object itself. -/
theorem find?_eq_some_iff_firstHit_direct :
    let payload : Value :=
      .object [("inner", .object [("uuid", .string "nested")]), ("uuid", .string "direct")]
    Hit "uuid" payload [0] (.string "nested") ∧
      payload.find? "uuid" = some (.string "direct") := by
  intro payload
  refine ⟨⟨[("uuid", .string "nested")], rfl, rfl, by simp⟩, ?_⟩
  have own : Hit "uuid" payload [] (.string "direct") :=
    ⟨[("inner", .object [("uuid", .string "nested")]), ("uuid", .string "direct")], rfl, rfl, by simp⟩
  exact (find?_eq_some_iff_firstHit "uuid" payload).2.2 (.string "direct") own

end ApiConsole.Json.Value
