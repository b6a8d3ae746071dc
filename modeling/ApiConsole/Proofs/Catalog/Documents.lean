import ApiConsole.Proofs.Catalog.Loading
import ApiConsole.Proofs.Json.Acceptance
import ApiConsole.Proofs.Json.TreeSearch
import ApiConsole.Proofs.Json.Writing

/-!
# Which documents load

Only a document can be a catalog, and only one that has a value: one with a number beyond all doubles,
or with too many containers inside each other, does not load.  If it is an array of objects, it loads
exactly when these are well formed and have distinct ids.  What is asked of the objects as they are
written goes over to the nodes that are read from them and to their values.
-/

namespace ApiConsole

namespace Json

theorem Items.Keep.forall₂_nodes {items : Items} {trees : List Tree} (keep : items.Keep trees) :
    List.Forall₂ Node.Keeps items.nodes trees := by
  induction items using Items.nodes.induct generalizing trees with
  | case1 stop => cases keep; exact .nil
  | case2 fault => cases keep
  | case3 node next rest ih =>
      cases keep with
      | item _ first others => exact .cons first (ih others)

theorem Entries.Keep.forall₂_members {entries : Entries} {pairs : List (String × Tree)}
    (keep : entries.Keep pairs) : List.Forall₂ (Named Node.Keeps) entries.members pairs := by
  induction entries using Entries.members.induct generalizing pairs with
  | case1 stop => cases keep; exact .nil
  | case2 fault => cases keep
  | case3 value fault => cases keep
  | case4 name node next rest ih =>
      cases keep with
      | entry _ _ first others => exact .cons ⟨rfl, first⟩ (ih others)

/-- Things that are related name by name have the same names. -/
theorem map_fst_eq_of_named {α β : Type} {R : α → β → Prop} {ones : List (String × α)}
    {others : List (String × β)} (same : List.Forall₂ (Named R) ones others) :
    ones.map Prod.fst = others.map Prod.fst := by
  induction same with
  | nil => rfl
  | cons here _ ih => rw [List.map_cons, List.map_cons, here.1, ih]

/-- The node of an object has its names. -/
theorem Node.Keeps.names {node : Node} {pairs : List (String × Tree)}
    (keeps : node.Keeps (.object pairs)) : node.names = pairs.map Prod.fst := by
  cases keeps with
  | object start inside => exact map_fst_eq_of_named inside.forall₂_members

/-- The values of the items of an array. -/
theorem forall₂_itemValues {depth : Nat} {items : List Tree} {values : List Value}
    (read : itemValues? depth items = some values) :
    List.Forall₂ (fun tree value => tree.value? depth = some value) items values := by
  induction items generalizing values with
  | nil =>
      cases (show some [] = some values from read)
      exact .nil
  | cons item rest ih =>
      obtain ⟨value, others, first, tail, rfl⟩ := itemValues?_cons_eq_some_iff.mp read
      exact .cons first (ih tail)

namespace Tree

variable {tree : Tree} {depth : Nat}

/-- Only arrays have arrays for their values. -/
theorem eq_array_of_value? {values : List Value} (read : tree.value? depth = some (.array values)) :
    ∃ less items, tree = .array items ∧ itemValues? less items = some values := by
  cases tree with
  | array items =>
      obtain ⟨less, _, _, inside, same⟩ := value?_array_eq_some_iff.mp read
      cases same
      exact ⟨less, items, rfl, inside⟩
  | object pairs =>
      obtain ⟨_, _, _, _, same⟩ := value?_object_eq_some_iff.mp read
      cases same
  | number numeral =>
      rw [value?] at read
      obtain ⟨_, _, same⟩ := Option.map_eq_some_iff.mp read
      cases same
  | _ => cases depth <;> cases read

/-- Only objects have objects for their values. -/
theorem eq_object_of_value? {members : Members}
    (read : tree.value? depth = some (.object members)) :
    ∃ less pairs values, tree = .object pairs ∧ pairValues? less pairs = some values ∧
      members = Members.ofPairs values := by
  cases tree with
  | array items =>
      obtain ⟨_, _, _, _, same⟩ := value?_array_eq_some_iff.mp read
      cases same
  | object pairs =>
      obtain ⟨less, values, _, inside, same⟩ := value?_object_eq_some_iff.mp read
      cases same
      exact ⟨less, pairs, values, rfl, inside, rfl⟩
  | number numeral =>
      rw [value?] at read
      obtain ⟨_, _, same⟩ := Option.map_eq_some_iff.mp read
      cases same
  | _ => cases depth <;> cases read

end Tree

end Json

namespace Catalog

open Json (Tree Node Members Value)

/-- An entry as it is written: neither in it nor in one of its URL parts a name is repeated, its
method is no object, and its `url_parts` are all objects. -/
structure Tidy (pairs : List (String × Tree)) : Prop where
  names : (pairs.map Prod.fst).Nodup
  method : ∀ members, ("method", Tree.object members) ∉ pairs
  parts : ∀ items, ("url_parts", Tree.array items) ∈ pairs →
    ∀ item ∈ items, ∃ members, item = .object members ∧ (members.map Prod.fst).Nodup

namespace Tidy

variable {pairs : List (String × Tree)}

theorem unrepeated (tidy : Tidy pairs) {node : Node} (keeps : node.Keeps (.object pairs)) :
    Unrepeated node where
  names := keeps.names ▸ tidy.names
  parts := by
    cases keeps with
    | object start inside =>
        rintro ⟨name, value⟩ member rfl part found
        obtain ⟨⟨name, tree⟩, written, rfl, kept⟩ :=
          exists_related_of_mem inside.forall₂_members member
        cases kept with
        | array start listed =>
            obtain ⟨item, there, keeps⟩ := exists_related_of_mem listed.forall₂_nodes found
            obtain ⟨members, rfl, distinct⟩ := tidy.parts _ written item there
            exact keeps.names ▸ distinct
        | _ => cases found

/-- What stands in the value of an object under a name is what stands there in the object. -/
theorem exists_tree (tidy : Tidy pairs) {depth : Nat} {values : Members}
    (read : Json.pairValues? depth pairs = some values) {name : String} {value : Value}
    (found : (Members.ofPairs values).get? name = some value) :
    ∃ tree, (name, tree) ∈ pairs ∧ tree.Means value := by
  have same := Json.forall₂_means read
  have distinct : (values.map Prod.fst).Nodup := Json.map_fst_eq_of_named same ▸ tidy.names
  rw [Members.ofPairs_of_nodup distinct] at found
  obtain ⟨before, behind, rfl, _⟩ := List.lookup_eq_some_iff.1 found
  obtain ⟨⟨_, tree⟩, member, rfl, means⟩ :=
    exists_related_of_mem same.flip (List.mem_append_right before List.mem_cons_self)
  exact ⟨tree, member, means⟩

theorem usual (tidy : Tidy pairs) {depth : Nat} {values : Members}
    (read : Json.pairValues? depth pairs = some values) : Usual (Members.ofPairs values) where
  method := by
    intro inner found
    obtain ⟨tree, member, _, means⟩ := tidy.exists_tree read found
    obtain ⟨_, pairs, _, rfl, _⟩ := Tree.eq_object_of_value? means
    exact tidy.method pairs member
  elements := by
    intro items found item there
    obtain ⟨tree, member, _, means⟩ := tidy.exists_tree read found
    obtain ⟨_, trees, rfl, listed⟩ := Tree.eq_array_of_value? means
    obtain ⟨tree, inside, means⟩ :=
      exists_related_of_mem (Json.forall₂_itemValues listed).flip there
    obtain ⟨pairs, rfl, _⟩ := tidy.parts trees member tree inside
    obtain ⟨_, members, _, _, same⟩ := Json.Tree.value?_object_eq_some_iff.mp means
    exact ⟨_, same⟩

end Tidy

section Loading

variable {text : String}

/-- A text that loads has been read to its end. -/
theorem finish_of_ofText {catalog : Catalog} (loaded : ofText text = .ok catalog) :
    (Json.Document.ofText text.toList).finish = .ok () := by
  simp only [ofText, bind_eq_ok_iff, mapError_eq_ok_iff, readText] at loaded
  obtain ⟨_, read, _⟩ := loaded
  generalize (Json.Document.ofText text.toList).root = root at read
  cases root with
  | array start items =>
      simp only [bind_eq_ok_iff, mapError_eq_ok_iff] at read
      obtain ⟨_, _, _, ended, _⟩ := read
      exact ended
  | _ => cases read

variable {objects : List (List (String × Tree))}

theorem unrepeated_of_document
    (document : Json.IsDocument (.array (objects.map .object)) text.toList)
    (tidy : ∀ pairs ∈ objects, Tidy pairs) {value : Value}
    (read : (Tree.array (objects.map .object)).value? Json.depthLimit = some value) :
    ∀ node ∈ (Json.Document.ofText text.toList).root.items, Unrepeated node := by
  have tells := Json.ofText_document document
  rw [read] at tells
  generalize (Json.Document.ofText text.toList).root = root at tells
  cases tells.1.keeps with
  | array start inside =>
      intro node found
      obtain ⟨tree, listed, keeps⟩ := exists_related_of_mem inside.forall₂_nodes found
      obtain ⟨pairs, member, rfl⟩ := List.mem_map.mp listed
      exact (tidy pairs member).unrepeated keeps

theorem usual_of_value? (tidy : ∀ pairs ∈ objects, Tidy pairs) {depth : Nat}
    {entries : List Members}
    (read : (Tree.array (objects.map .object)).value? depth =
      some (.array (entries.map .object))) :
    ∀ members ∈ entries, Usual members := by
  intro members found
  obtain ⟨_, _, _, inside, same⟩ := Tree.value?_array_eq_some_iff.mp read
  cases same
  obtain ⟨tree, listed, means⟩ := exists_related_of_mem (Json.forall₂_itemValues inside).flip
    (List.mem_map_of_mem found)
  obtain ⟨pairs, member, rfl⟩ := List.mem_map.mp listed
  obtain ⟨_, values, _, inside, same⟩ := Tree.value?_object_eq_some_iff.mp means
  cases same
  exact (tidy pairs member).usual inside

/--
A text that is no document does not load.  A document that is an array of objects does not load if
it has no value; if it has one, it loads exactly when the objects are well formed and have distinct
ids, and then each endpoint is the one that the object in its place describes.
-/
theorem ofText_loads_wellFormed (text : String) :
    ((∀ tree, ¬Json.IsDocument tree text.toList) → ∀ catalog, ofText text ≠ .ok catalog) ∧
      ∀ objects : List (List (String × Tree)),
        Json.IsDocument (.array (objects.map .object)) text.toList →
        (∀ pairs ∈ objects, Tidy pairs) →
        let value? := (Tree.array (objects.map .object)).value? Json.depthLimit
        (value? = none → ∀ catalog, ofText text ≠ .ok catalog) ∧
          ∀ entries : List Members, value? = some (.array (entries.map .object)) →
            ((∃ catalog, ofText text = .ok catalog) ↔
                (∀ members ∈ entries, WellFormed members) ∧
                  (entries.map (·.get? "id")).Nodup) ∧
              ∀ catalog, ofText text = .ok catalog →
                List.Forall₂ Describes entries catalog.endpoints := by
  refine ⟨fun none catalog loaded => ?_, fun objects document tidy => ⟨?_, ?_⟩⟩
  · obtain ⟨tree, document⟩ := Json.exists_document_of_finish (finish_of_ofText loaded)
    exact none tree document
  · intro unread catalog loaded
    have failed := Json.ofText_document document
    rw [unread] at failed
    obtain ⟨fault, failed⟩ := failed
    cases failed.symm.trans (finish_of_ofText loaded)
  · intro entries read
    have json := Json.parse_iff_document.mpr ⟨_, document, read⟩
    have loads := @ofText_eq_ok_iff text entries json (unrepeated_of_document document tidy read)
      (usual_of_value? tidy read)
    refine ⟨⟨?_, ?_⟩, fun catalog loaded => (loads.1 loaded).2⟩
    · rintro ⟨catalog, loaded⟩
      obtain ⟨formed, described⟩ := loads.1 loaded
      exact ⟨formed, (nodup_ids_iff described).2 catalog.distinct⟩
    · rintro ⟨formed, apart⟩
      obtain ⟨endpoints, described⟩ :=
        exists_forall₂_iff.2 fun members there => (formed members there).exists_describes
      exact ⟨⟨endpoints, (nodup_ids_iff described).1 apart⟩, loads.2 ⟨formed, described⟩⟩

end Loading

def bothForms : String :=
  "[\x7b\"id\":\"a\",\"method\":\"GET\",\"url\":\"/\"\x7d," ++
    "\x7b\"id\":\"b\",\"method\":\"PUT\",\"url\":null," ++
      "\"url_parts\":[\x7b\"value\":\"/\"\x7d,\x7b\"name\":\"x\"\x7d]\x7d]"

def bothFormsObjects : List (List (String × Tree)) :=
  [[("id", .string "a"), ("method", .string "GET"), ("url", .string "/")],
    [("id", .string "b"), ("method", .string "PUT"), ("url", .null),
      ("url_parts", .array [.object [("value", .string "/")], .object [("name", .string "x")]])]]

def bothFormsMembers : List Members :=
  [[("id", .string "a"), ("method", .string "GET"), ("url", .string "/")],
    [("id", .string "b"), ("method", .string "PUT"), ("url", .null),
      ("url_parts", .array [.object [("value", .string "/")], .object [("name", .string "x")]])]]

theorem isDocument_bothForms :
    Json.IsDocument (.array (bothFormsObjects.map .object)) bothForms.toList := by
  have member (name text : String) :
      Json.SpellsPair (name, .string text) (Json.quote name ++ ':' :: ([] ++ Json.quote text)) :=
    Json.spellsPair_quote name .nil (Json.spells_quote text)
  have first := Json.Spells.object .nil
    (.next (member "id" "a") .nil .nil (.next (member "method" "GET") .nil .nil
      (.last (member "url" "/") .nil)))
  have parts := Json.Spells.array .nil
    (.next (.object .nil (.last (member "value" "/") .nil)) .nil .nil
      (.last (.object .nil (.last (member "name" "x") .nil)) .nil))
  have second := Json.Spells.object .nil
    (.next (member "id" "b") .nil .nil (.next (member "method" "PUT") .nil .nil
      (.next (Json.spellsPair_quote "url" .nil .nullLiteral) .nil .nil
        (.last (Json.spellsPair_quote "url_parts" .nil parts) .nil))))
  have array := Json.Spells.array .nil (.next first .nil .nil (.last second .nil))
  exact ⟨[], _, [], .nil, array, .nil, by decide +kernel⟩

theorem ofText_loads_wellFormed_bothForms :
    Json.IsDocument (.array (bothFormsObjects.map .object)) bothForms.toList ∧
      (∀ pairs ∈ bothFormsObjects, Tidy pairs) ∧
      (Tree.array (bothFormsObjects.map .object)).value? Json.depthLimit =
        some (.array (bothFormsMembers.map .object)) ∧
      ∃ catalog, ofText bothForms = .ok catalog ∧
        List.Forall₂ Describes bothFormsMembers catalog.endpoints := by
  have tidy : ∀ pairs ∈ bothFormsObjects, Tidy pairs := by
    rw [bothFormsObjects, List.forall_mem_cons, List.forall_mem_singleton]
    constructor
    · constructor <;> simp
    · constructor <;> simp
  have read : (Tree.array (bothFormsObjects.map .object)).value? Json.depthLimit =
      some (.array (bothFormsMembers.map .object)) := by
    rfl
  have formed : ∀ members ∈ bothFormsMembers, WellFormed members := by
    rw [bothFormsMembers, List.forall_mem_cons, List.forall_mem_singleton]
    constructor
    · have template : ∃ parts, Template.parse "/" = .ok parts := ⟨[.literal "/"], by decide +kernel⟩
      constructor <;> simp [Given, Members.get?, List.lookup, template]
    · have literal : ∃ part, PartOf (.object [("value", .string "/")]) part := ⟨_, .literal rfl⟩
      have placeholder : ∃ part, PartOf (.object [("name", .string "x")]) part :=
        ⟨_, .placeholder (by simp [Members.get?, List.lookup]) rfl .absent⟩
      constructor <;> simp [Given, Members.get?, List.lookup, literal, placeholder]
  have apart : (bothFormsMembers.map (·.get? "id")).Nodup := by
    change [some (Value.string "a"), some (Value.string "b")].Nodup
    simp
  have loads := ((ofText_loads_wellFormed bothForms).2 _ isDocument_bothForms tidy).2 _ read
  obtain ⟨catalog, loaded⟩ := loads.1.2 ⟨formed, apart⟩
  exact ⟨isDocument_bothForms, tidy, read, catalog, loaded, loads.2 catalog loaded⟩

end Catalog

end ApiConsole
