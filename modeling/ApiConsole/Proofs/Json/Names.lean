import ApiConsole.Json.Value
import Mathlib.Data.List.Forall2

/-!
# Things under names

Where names repeat, each is kept once: at its first place, with what stands at its last.  What is
related name by name stays so when this is done, and when a name is looked up.
-/

namespace ApiConsole.Json

section

variable {α β : Type}

/-- Puts something under a name: in the place of the name if it is there, at the end if not. -/
def putUnder (name : String) (new : α) : List (String × α) → List (String × α)
  | [] => [(name, new)]
  | (key, old) :: rest =>
      if key = name then (key, new) :: rest else (key, old) :: putUnder name new rest

/-- What is left when names repeat: each name at its first place, with what stands at its last. -/
def kept (pairs : List (String × α)) : List (String × α) :=
  pairs.foldl (fun kept pair => putUnder pair.1 pair.2 kept) []

def Named (R : α → β → Prop) (one : String × α) (other : String × β) : Prop :=
  one.1 = other.1 ∧ R one.2 other.2

variable {R : α → β → Prop}

theorem rel_lookup_of_named {ones : List (String × α)} {others : List (String × β)}
    (same : List.Forall₂ (Named R) ones others) (name : String) :
    Option.Rel R (ones.lookup name) (others.lookup name) := by
  induction same with
  | nil => exact .none
  | @cons one other _ _ here _ ih =>
      obtain ⟨key, value⟩ := one
      obtain ⟨_, another⟩ := other
      obtain ⟨rfl, related⟩ := here
      by_cases found : name = key
      · subst found
        simpa using Option.Rel.some related
      · simpa [List.lookup_cons, beq_eq_false_iff_ne.2 found] using ih

theorem forall₂_putUnder {ones : List (String × α)} {others : List (String × β)}
    (same : List.Forall₂ (Named R) ones others) {name : String} {one : α} {other : β}
    (related : R one other) :
    List.Forall₂ (Named R) (putUnder name one ones) (putUnder name other others) := by
  induction same with
  | nil => exact .cons ⟨rfl, related⟩ .nil
  | @cons first second _ _ here rest ih =>
      obtain ⟨key, value⟩ := first
      obtain ⟨_, another⟩ := second
      obtain ⟨rfl, before⟩ := here
      rw [putUnder, putUnder]
      split
      · exact .cons ⟨rfl, related⟩ rest
      · exact .cons ⟨rfl, before⟩ ih

/-- What is left of things that are related name by name is related name by name. -/
theorem forall₂_kept {ones : List (String × α)} {others : List (String × β)}
    (same : List.Forall₂ (Named R) ones others) :
    List.Forall₂ (Named R) (kept ones) (kept others) := by
  have grows {one : List (String × α)} {other : List (String × β)}
      (before : List.Forall₂ (Named R) one other) :
      List.Forall₂ (Named R)
        (ones.foldl (fun kept pair => putUnder pair.1 pair.2 kept) one)
        (others.foldl (fun kept pair => putUnder pair.1 pair.2 kept) other) := by
    induction same generalizing one other with
    | nil => exact before
    | cons here _ ih =>
        obtain ⟨name, related⟩ := here
        apply ih
        dsimp only
        rw [name]
        exact forall₂_putUnder before related
  exact grows .nil

end

theorem Members.put_eq (members : Members) (name : String) (value : Value) :
    Members.put members name value = putUnder name value members := by
  induction members with
  | nil => rfl
  | cons member rest ih => rw [Members.put, putUnder, ih]

theorem Members.ofPairs_eq (pairs : Members) : Members.ofPairs pairs = kept pairs := by
  unfold Members.ofPairs kept
  exact congrArg (List.foldl · [] pairs) (funext₂ fun members pair => put_eq members pair.1 pair.2)

theorem Members.put_of_notMem {members : Members} {name : String} (value : Value)
    (fresh : name ∉ members.map Prod.fst) :
    members.put name value = members ++ [(name, value)] := by
  induction members with
  | nil => rfl
  | cons member rest ih =>
      obtain ⟨key, old⟩ := member
      simp only [List.map_cons, List.mem_cons, not_or] at fresh
      rw [Members.put, if_neg fun same => fresh.1 same.symm, ih fresh.2]
      rfl

/-- Nothing is lost of an object in which no name is repeated. -/
theorem Members.ofPairs_of_nodup {pairs : List (String × Value)}
    (unrepeated : (pairs.map Prod.fst).Nodup) : Members.ofPairs pairs = pairs := by
  suffices all : ∀ before : Members, ((before ++ pairs).map Prod.fst).Nodup →
      pairs.foldl (fun members pair => members.put pair.1 pair.2) before = before ++ pairs from
    all [] unrepeated
  clear unrepeated
  induction pairs with
  | nil => simp
  | cons pair rest ih =>
      intro before unrepeated
      have fresh : pair.1 ∉ before.map Prod.fst := by
        simp only [List.map_append, List.map_cons, List.nodup_append] at unrepeated
        exact fun known => unrepeated.2.2 _ known _ List.mem_cons_self rfl
      rw [List.foldl_cons, Members.put_of_notMem _ fresh, ih _ (by simpa using unrepeated)]
      simp

end ApiConsole.Json
