import ApiConsole.Catalog.Entry
import ApiConsole.Proofs.Except
import ApiConsole.Proofs.Json.Names
import Mathlib.Data.List.Nodup

/-!
# Reading entries member by member

An object whose tree ends without a fault is read as a list of names with nodes. When no name is
repeated, an entry is read exactly when every name is known and every member can be read under its
name: what the entry holds does not depend on the order of its members.
-/

namespace ApiConsole

namespace Json

def Items.nodes : Items → List Node
  | .close _ => []
  | .broken _ => []
  | .item node _ rest => node :: rest.nodes

/-- The members of an object up to its end, those with a repeated name included. -/
def Entries.members : Entries → List (String × Node)
  | .close _ => []
  | .broken _ => []
  | .unnamed _ _ => []
  | .entry name value _ rest => (name.text, value) :: rest.members

/-- A node that ends without a fault, and its value. -/
inductive Node.Holds : Node → Value → Prop
  | null (span : Span) : Holds (.null span) .null
  | bool (b : Bool) (span : Span) : Holds (.bool b span) (.bool b)
  | number (n : Number) (span : Span) : Holds (.number n span) (.number n)
  | string (text : String) (span : Span) : Holds (.string text span) (.string text)
  | array (start : Mark) {items : Items} {values : List Value} (whole : items.values = .ok values) :
      Holds (.array start items) (.array values)
  | object (start : Mark) {entries : Entries} {pairs : List (String × Value)}
      (whole : entries.pairs = .ok pairs) :
      Holds (.object start entries) (.object (Members.ofPairs pairs))

theorem Node.holds_iff {node : Node} {value : Value} :
    node.Holds value ↔ node.value = .ok value := by
  constructor
  · intro holds
    cases holds with
    | array start whole => simp only [Node.value, whole]; rfl
    | object start whole => simp only [Node.value, whole]; rfl
    | _ => rfl
  · intro read
    cases node with
    | null span => cases read; exact .null span
    | bool b span => cases read; exact .bool b span
    | number n span => cases read; exact .number n span
    | string text span => cases read; exact .string text span
    | array start items =>
        simp only [Node.value, bind_eq_ok_iff, pure_eq_ok_iff] at read
        obtain ⟨values, whole, rfl⟩ := read
        exact .array start whole
    | object start entries =>
        simp only [Node.value, bind_eq_ok_iff, pure_eq_ok_iff] at read
        obtain ⟨pairs, whole, rfl⟩ := read
        exact .object start whole
    | misspelt start fault => cases read
    | fault fault => cases read

theorem Items.forall₂_nodes {items : Items} {values : List Value}
    (whole : items.values = .ok values) : List.Forall₂ Node.Holds items.nodes values := by
  induction items using Items.nodes.induct generalizing values with
  | case1 stop => cases whole; exact .nil
  | case2 fault => cases whole
  | case3 item next rest ih =>
      simp only [Items.values, bind_eq_ok_iff, pure_eq_ok_iff] at whole
      obtain ⟨value, here, more, there, rfl⟩ := whole
      exact .cons (Node.holds_iff.2 here) (ih there)

def SameMember (written : String × Node) (member : String × Value) : Prop :=
  written.1 = member.1 ∧ written.2.Holds member.2

theorem Entries.forall₂_members {entries : Entries} {pairs : List (String × Value)}
    (whole : entries.pairs = .ok pairs) :
    List.Forall₂ SameMember entries.members pairs := by
  induction entries using Entries.members.induct generalizing pairs with
  | case1 stop => cases whole; exact .nil
  | case2 fault => cases whole
  | case3 value fault => cases whole
  | case4 name node next rest ih =>
      simp only [Entries.pairs, bind_eq_ok_iff, pure_eq_ok_iff] at whole
      obtain ⟨value, here, more, there, rfl⟩ := whole
      exact .cons ⟨rfl, Node.holds_iff.2 here⟩ (ih there)

theorem names_eq_of_forall₂ {written : List (String × Node)} {pairs : List (String × Value)}
    (same : List.Forall₂ SameMember written pairs) :
    written.map Prod.fst = pairs.map Prod.fst := by
  induction same with
  | nil => rfl
  | cons here _ ih => simp [here.1, ih]

theorem lookup_eq_none {α : Type} {members : List (String × α)} {name : String}
    (absent : name ∉ members.map Prod.fst) : members.lookup name = none := by
  rw [List.lookup_eq_none_iff]
  intro member there
  exact bne_iff_ne.2 fun same => absent (same ▸ List.mem_map_of_mem there)

/-- A name stands before a node exactly when it stands before the node's value. -/
theorem rel_lookup {written : List (String × Node)} {pairs : List (String × Value)}
    (same : List.Forall₂ SameMember written pairs) (name : String) :
    Option.Rel Node.Holds (written.lookup name) (Members.get? pairs name) :=
  rel_lookup_of_named same name

end Json

namespace Catalog

open Json (Node Items Entries Value)

theorem Field.ofName?_eq_some_iff {name : String} {field : Field} :
    Field.ofName? name = some field ↔ name = field.name := by
  constructor
  · intro h
    exact (by simpa using List.find?_some h : field.name = name).symm
  · rintro rfl
    cases field <;> decide

theorem Field.name_injective : Function.Injective Field.name := fun _ _ same =>
  Option.some.inj ((ofName?_eq_some_iff.2 rfl).symm.trans (ofName?_eq_some_iff.2 same))

abbrev Field.Content : Field → Type
  | .id => String
  | .method => Method
  | .title => String
  | .url => Option String
  | .urlParts => Option (List UrlPart)
  | .hasBody => Option Bool
  | .body => Option Value

def Field.read : (field : Field) → Node → Reading field.Content
  | .id => readString
  | .method => readMethod
  | .title => readString
  | .url => readOptional readString
  | .urlParts => readOptional readUrlParts
  | .hasBody => readOptional readBool
  | .body => readOptional readValue

namespace Draft

def get (draft : Draft) : (field : Field) → Option field.Content
  | .id => draft.id
  | .method => draft.method
  | .title => draft.title
  | .url => draft.url
  | .urlParts => draft.urlParts
  | .hasBody => draft.hasBody
  | .body => draft.body

def set (draft : Draft) : (field : Field) → field.Content → Draft
  | .id, content => { draft with id := some content }
  | .method, content => { draft with method := some content }
  | .title, content => { draft with title := some content }
  | .url, content => { draft with url := some content }
  | .urlParts, content => { draft with urlParts := some content }
  | .hasBody, content => { draft with hasBody := some content }
  | .body, content => { draft with body := some content }

theorem get_set_self (draft : Draft) (field : Field) (content : field.Content) :
    (draft.set field content).get field = some content := by
  cases field <;> rfl

theorem get_set_of_ne (draft : Draft) {field other : Field} (content : field.Content)
    (apart : other ≠ field) : (draft.set field content).get other = draft.get other := by
  cases field <;> cases other <;> first | rfl | exact absurd rfl apart

theorem get_blank (field : Field) : blank.get field = none := by
  cases field <;> rfl

theorem has_eq_isSome_get (draft : Draft) (field : Field) :
    draft.has field = (draft.get field).isSome := by
  cases field <;> rfl

theorem read_eq_map (draft : Draft) (field : Field) (node : Node) :
    draft.read field node = draft.set field <$> field.read node := by
  cases field <;> simp only [map_eq_pure_bind] <;> rfl

theorem ext_get {draft other : Draft} (same : ∀ field, draft.get field = other.get field) :
    draft = other := by
  obtain ⟨id, method, title, url, urlParts, hasBody, body⟩ := draft
  have id := same .id
  have method := same .method
  have title := same .title
  have url := same .url
  have urlParts := same .urlParts
  have hasBody := same .hasBody
  have body := same .body
  simp_all [get]

/-- A draft of members: each is read under its name, and nothing else has been read. -/
def Of (members : List (String × Node)) (draft : Draft) : Prop :=
  ∀ field, Option.Rel (fun node content => field.read node = .ok content)
    (members.lookup field.name) (draft.get field)

theorem of_nil : Of [] blank := by
  intro field
  rw [get_blank]
  exact .none

/-- What has been read is determined by the members. -/
theorem Of.unique {members : List (String × Node)} {draft other : Draft} (one : Of members draft)
    (two : Of members other) : draft = other := by
  refine ext_get fun field => ?_
  have one := one field
  have two := two field
  generalize members.lookup field.name = found at one two
  generalize draft.get field = first at one
  generalize other.get field = second at two
  cases one with
  | none => cases two; rfl
  | some one =>
      cases two with
      | some two => rw [Except.ok.inj (one.symm.trans two)]

theorem Of.get_eq_none {members : List (String × Node)} {draft : Draft} {field : Field}
    (of : Of members draft) (fresh : field.name ∉ members.map Prod.fst) :
    draft.get field = none := by
  have read := of field
  rw [Json.lookup_eq_none fresh] at read
  generalize draft.get field = held at read
  cases read
  rfl

theorem Of.exists_read {members : List (String × Node)} {draft : Draft} {field : Field}
    {node : Node} (of : Of members draft) (found : members.lookup field.name = some node) :
    ∃ content, field.read node = .ok content := by
  have read := of field
  rw [found] at read
  generalize draft.get field = held at read
  cases read with
  | some reads => exact ⟨_, reads⟩

/-- A member with a new name extends a draft by what is read in it. -/
theorem Of.set {members : List (String × Node)} {draft : Draft} {field : Field} {node : Node}
    {content : field.Content} (of : Of members draft) (fresh : field.name ∉ members.map Prod.fst)
    (reads : field.read node = .ok content) :
    Of (members ++ [(field.name, node)]) (draft.set field content) := by
  intro other
  by_cases h : other = field
  · subst h
    rw [get_set_self, List.lookup_append, Json.lookup_eq_none fresh]
    simpa using Option.Rel.some reads
  · have apart : other.name ≠ field.name := fun same => h (Field.name_injective same)
    rw [get_set_of_ne draft content h, List.lookup_append]
    simpa [List.lookup_cons, beq_eq_false_iff_ne.2 apart] using of other

end Draft

/-- An object with a fault-free tree in which no name is repeated, read from a draft of the members
before it. -/
theorem readEntryMembers_eq_ok_iff {entries : Entries} {before : List (String × Node)}
    {draft : Draft} {pairs : List (String × Value)} {entry : Entry}
    (whole : entries.pairs = .ok pairs) (of : draft.Of before)
    (unrepeated : ((before ++ entries.members).map Prod.fst).Nodup) :
    readEntryMembers draft entries = .ok entry ↔
      (∀ member ∈ entries.members, (Field.ofName? member.1).isSome) ∧
        ∃ final, Draft.Of (before ++ entries.members) final ∧ final.finish = .ok entry := by
  induction entries using ApiConsole.Json.Entries.members.induct
    generalizing before draft pairs with
  | case1 stop =>
      -- No member is left, and no other draft has been read of those before.
      simp only [readEntryMembers, mapError_eq_ok_iff, Entries.members, List.append_nil,
        List.not_mem_nil, false_implies, implies_true, true_and]
      constructor
      · exact fun finished => ⟨draft, of, finished⟩
      · rintro ⟨final, same, finished⟩
        rwa [of.unique same]
  | case2 fault => cases whole
  | case3 value fault => cases whole
  | case4 name node next rest ih =>
      simp only [Entries.pairs, bind_eq_ok_iff, pure_eq_ok_iff] at whole
      obtain ⟨value, here, more, there, rfl⟩ := whole
      have split : before ++ (Entries.entry name node next rest).members =
          before ++ [(name.text, node)] ++ rest.members := by
        simp [Entries.members]
      rw [split] at unrepeated ⊢
      have fresh : name.text ∉ before.map Prod.fst := by
        simp only [List.map_append, List.nodup_append] at unrepeated
        exact fun known => unrepeated.1.2.2 _ known _ (by simp) rfl
      simp only [readEntryMembers, Entries.members, List.forall_mem_cons]
      cases known : Field.ofName? name.text with
      | none => simp
      | some field =>
          rw [Field.ofName?_eq_some_iff] at known
          rw [known] at fresh split unrepeated ⊢
          -- A field that was null counts as read, so only a new name finds its field empty.
          have unread : draft.has field = false := by
            rw [Draft.has_eq_isSome_get, of.get_eq_none fresh]
            rfl
          simp only [unread, Bool.false_eq_true, if_false, Draft.read_eq_map, bind_eq_ok_iff,
            map_eq_ok_iff, Option.isSome_some, true_and]
          constructor
          · rintro ⟨_, ⟨content, reads, rfl⟩, run⟩
            exact (ih there (of.set fresh reads) unrepeated).1 run
          · rintro ⟨others, final, whole, finished⟩
            have found : (before ++ [(field.name, node)] ++ rest.members).lookup field.name =
                some node := by
              simp [List.lookup_append, Json.lookup_eq_none fresh]
            obtain ⟨content, reads⟩ := whole.exists_read found
            exact ⟨_, ⟨content, reads, rfl⟩,
              (ih there (of.set fresh reads) unrepeated).2 ⟨others, final, whole, finished⟩⟩

end Catalog

end ApiConsole
