import ApiConsole.Json.Value
import ApiConsole.Proofs.Json.Document
import ApiConsole.Proofs.Json.Names

/-!
# Searching documents

A document is searched as its value is, and what is found in it is what the hit of the value is
written as.
-/

namespace ApiConsole.Json

namespace Tree

def isNull : Tree → Bool
  | .null => true
  | _ => false

mutual

def find? (field : String) : Tree → Option Tree
  | .null => none
  | .bool _ => none
  | .number _ => none
  | .string _ => none
  | .array items => findInItems? field items
  | .object pairs =>
      ((kept pairs).lookup field).filter (!·.isNull) <|>
        (kept (findInPairs field pairs)).findSome? Prod.snd

def findInItems? (field : String) : List Tree → Option Tree
  | [] => none
  | item :: rest => item.find? field <|> findInItems? field rest

/-- The first hit in each member of an object, under the name of the member. -/
def findInPairs (field : String) : List (String × Tree) → List (String × Option Tree)
  | [] => []
  | (name, tree) :: rest => (name, tree.find? field) :: findInPairs field rest

end

def Means (tree : Tree) (value : Value) : Prop :=
  ∃ depth, tree.value? depth = some value

theorem Means.isNull_eq {tree : Tree} {value : Value} (means : tree.Means value) :
    tree.isNull = value.isNull := by
  obtain ⟨depth, read⟩ := means
  cases tree with
  | array items =>
      obtain ⟨_, _, _, _, rfl⟩ := value?_array_eq_some_iff.mp read
      rfl
  | object pairs =>
      obtain ⟨_, _, _, _, rfl⟩ := value?_object_eq_some_iff.mp read
      rfl
  | number numeral =>
      rw [value?] at read
      obtain ⟨_, _, rfl⟩ := Option.map_eq_some_iff.mp read
      rfl
  | _ =>
      rw [value?] at read
      cases read
      rfl

end Tree

theorem forall₂_means {depth : Nat} {pairs : List (String × Tree)} {values : Members}
    (read : pairValues? depth pairs = some values) :
    List.Forall₂ (Named Tree.Means) pairs values := by
  induction pairs generalizing values with
  | nil =>
      cases (show some [] = some values from read)
      exact .nil
  | cons pair rest ih =>
      obtain ⟨value, others, first, tail, rfl⟩ := pairValues?_cons_eq_some_iff.mp read
      exact .cons ⟨rfl, depth, first⟩ (ih tail)

section

variable {α β : Type} {R : α → β → Prop}

theorem rel_orElse {one next : Option α} {other after : Option β} (first : Option.Rel R one other)
    (second : Option.Rel R next after) : Option.Rel R (one <|> next) (other <|> after) := by
  cases first with
  | some related => exact .some related
  | none => exact second

theorem rel_filter {one : Option α} {other : Option β} {p : α → Bool} {q : β → Bool}
    (related : Option.Rel R one other) (same : ∀ a b, R a b → p a = q b) :
    Option.Rel R (one.filter p) (other.filter q) := by
  cases related with
  | none => exact .none
  | @some a b related =>
      rw [Option.filter_some, Option.filter_some, same a b related]
      split
      · exact .some related
      · exact .none

end

theorem rel_findSome? {α : Type} {R : α → Value → Prop} {field : String}
    {found : List (String × Option α)} {members : Members}
    (same : List.Forall₂ (Named fun found value => Option.Rel R found (value.find? field))
      found members) :
    Option.Rel R (found.findSome? Prod.snd) (Value.findInMembers? field members) := by
  induction same with
  | nil => exact .none
  | @cons one other _ _ here _ ih =>
      obtain ⟨_, first⟩ := here
      rw [List.findSome?_cons, Value.findInMembers?]
      have both := rel_orElse first ih
      generalize one.2 = hit at both
      cases hit with
      | none => exact both
      | some hit => exact both

mutual

/-- What is found in a tree is what the hit in its value is written as. -/
theorem Tree.rel_find? (field : String) {depth : Nat} {tree : Tree} {value : Value}
    (read : tree.value? depth = some value) :
    Option.Rel Tree.Means (tree.find? field) (value.find? field) := by
  match tree with
  | .null | .bool _ | .string _ =>
      rw [value?] at read
      cases read
      exact .none
  | .number numeral =>
      rw [value?] at read
      obtain ⟨_, _, rfl⟩ := Option.map_eq_some_iff.mp read
      exact .none
  | .array items =>
      obtain ⟨less, values, rfl, inside, rfl⟩ := value?_array_eq_some_iff.mp read
      exact rel_findInItems? field inside
  | .object pairs =>
      obtain ⟨less, members, rfl, inside, rfl⟩ := value?_object_eq_some_iff.mp read
      rw [Members.ofPairs_eq]
      have own := rel_lookup_of_named (forall₂_kept (forall₂_means inside)) field
      have inner := rel_findSome? (forall₂_kept (forall₂_findInPairs field inside))
      refine rel_orElse (rel_filter own fun tree value means => ?_) inner
      rw [means.isNull_eq]

theorem Tree.rel_findInItems? (field : String) {depth : Nat} {items : List Tree}
    {values : List Value} (read : itemValues? depth items = some values) :
    Option.Rel Tree.Means (Tree.findInItems? field items) (Value.findInItems? field values) := by
  match items with
  | [] =>
      cases (show some [] = some values from read)
      exact .none
  | item :: rest =>
      obtain ⟨first, others, here, tail, rfl⟩ := itemValues?_cons_eq_some_iff.mp read
      exact rel_orElse (rel_find? field here) (rel_findInItems? field tail)

theorem Tree.forall₂_findInPairs (field : String) {depth : Nat} {pairs : List (String × Tree)}
    {values : Members} (read : pairValues? depth pairs = some values) :
    List.Forall₂ (Named fun found value => Option.Rel Tree.Means found (value.find? field))
      (Tree.findInPairs field pairs) values := by
  match pairs with
  | [] =>
      cases (show some [] = some values from read)
      exact .nil
  | (name, tree) :: rest =>
      obtain ⟨first, others, here, tail, rfl⟩ := pairValues?_cons_eq_some_iff.mp read
      exact .cons ⟨rfl, rel_find? field here⟩ (forall₂_findInPairs field tail)

end

end ApiConsole.Json
