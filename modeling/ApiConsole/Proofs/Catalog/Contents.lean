import ApiConsole.Proofs.Catalog.Members

/-!
# What the members of an entry say

Reading an entry is compared with what its members say as values. A URL part is read from the first
of its two shapes that fits, and a member that may be null means the same when it is null as when it
is not there. The comparison is for entries and URL parts in which no name is repeated, for methods
that are not written as objects, and for elements of `url_parts` that are objects.
-/

namespace ApiConsole

namespace Json

def Node.items : Node → List Node
  | .array _ items => items.nodes
  | _ => []

/-- The members of an object, those with a repeated name included. -/
def Node.members : Node → List (String × Node)
  | .object _ entries => entries.members
  | _ => []

def Node.names (node : Node) : List String :=
  node.members.map Prod.fst

theorem Node.Holds.exists_pairs {node : Node} {members : Members}
    (holds : node.Holds (.object members)) (unrepeated : node.names.Nodup) :
    (members.map Prod.fst).Nodup ∧
      ∃ start entries, node = .object start entries ∧ entries.pairs = .ok members := by
  cases holds with
  | @object start entries pairs whole =>
      have same := names_eq_of_forall₂ (Entries.forall₂_members whole)
      have unrepeated : (pairs.map Prod.fst).Nodup := same ▸ unrepeated
      rw [Members.ofPairs_of_nodup unrepeated]
      exact ⟨unrepeated, start, entries, rfl, whole⟩

end Json

namespace Catalog

open Json (Node Items Entries Members Value Mark)

theorem readString_eq_ok_iff {node : Node} {value : Value} {text : String}
    (holds : node.Holds value) : readString node = .ok text ↔ value = .string text := by
  cases holds <;> simp [readString]

theorem readBool_eq_ok_iff {node : Node} {value : Value} {b : Bool} (holds : node.Holds value) :
    readBool node = .ok b ↔ value = .bool b := by
  cases holds <;> simp [readBool]

theorem readValue_eq_ok_iff {node : Node} {value other : Value} (holds : node.Holds value) :
    readValue node = .ok other ↔ value = other := by
  rw [readValue, mapError_eq_ok_iff, Json.Node.holds_iff.1 holds, Except.ok.injEq]

theorem readMethod_eq_ok_iff {node : Node} {value : Value} {method : Method}
    (holds : node.Holds value) (flat : ∀ members, value ≠ .object members) :
    readMethod node = .ok method ↔ value = .string method.name := by
  cases holds with
  | string name span =>
      rw [Value.string.injEq, ← Method.ofName?_eq_some_iff]
      cases known : Method.ofName? name <;> simp [readMethod, known]
  | object start whole => exact absurd rfl (flat _)
  | _ => simp [readMethod]

/-- What a member that may be null means. -/
inductive OrNull {α : Type} (means : Value → α → Prop) : Value → Option α → Prop
  | null : OrNull means .null none
  | given {value : Value} {content : α} (there : value ≠ .null) (meant : means value content) :
      OrNull means value (some content)

theorem readOptional_eq_ok_iff {α : Type} {read : Node → Reading α} {means : Value → α → Prop}
    {node : Node} {value : Value} {content : Option α} (holds : node.Holds value)
    (same : ∀ content, read node = .ok content ↔ means value content) :
    readOptional read node = .ok content ↔ OrNull means value content := by
  by_cases there : value = .null
  · -- Null never reaches `read`, whatever that would make of it.
    subst there
    cases holds with
    | null span =>
        constructor
        · rintro ⟨⟩
          exact .null
        · rintro (_ | ⟨there, _⟩)
          · rfl
          · exact absurd rfl there
  · have given : readOptional read node = some <$> read node := by
      cases holds with
      | null span => exact absurd rfl there
      | _ => rfl
    rw [given, map_eq_ok_iff]
    constructor
    · rintro ⟨content, reads, rfl⟩
      exact .given there ((same content).1 reads)
    · rintro (_ | ⟨_, meant⟩)
      · exact absurd rfl there
      · exact ⟨_, (same _).2 meant, rfl⟩

inductive WidthOf : Option Value → Option Nat → Prop
  | absent : WidthOf none none
  | null : WidthOf (some .null) none
  | given (n : Nat) (small : n < 18446744073709551616) :
      WidthOf (some (.number (.integer n ⟨by omega, by omega⟩))) (some n)

/-- The URL part of a value: a literal if its `value` is a string, else a placeholder. -/
inductive PartOf : Value → UrlPart → Prop
  | literal {members : Members} {text : String}
      (value : members.get? "value" = some (.string text)) :
      PartOf (.object members) (.literal text)
  | placeholder {members : Members} {name : String} {width : Option Nat}
      (valueless : ∀ text, members.get? "value" ≠ some (.string text))
      (named : members.get? "name" = some (.string name))
      (sized : WidthOf (members.get? "length") width) :
      PartOf (.object members) (.placeholder name width)

def PartsOf (value : Value) (parts : List UrlPart) : Prop :=
  ∃ items, value = .array items ∧ List.Forall₂ PartOf items parts

theorem widthOf?_eq_some_iff {found : Option Value} {width : Option Nat} :
    widthOf? found.toList = some width ↔ WidthOf found width := by
  constructor
  · intro read
    cases found with
    | none => cases read; exact .absent
    | some value =>
        cases value with
        | null => cases read; exact .null
        | number number =>
            cases number with
            | integer n fits =>
                simp only [Option.toList, widthOf?, Option.ite_none_right_eq_some] at read
                obtain ⟨positive, same⟩ := read
                cases same
                obtain ⟨n, rfl⟩ := Int.eq_ofNat_of_zero_le positive
                exact .given n (by have := fits.2; omega)
            | double x => cases read
        | _ => cases read
  · rintro (_ | _ | ⟨n, small⟩)
    · rfl
    · rfl
    · simp [widthOf?]

theorem valuesUnder_eq_toList {pairs : Members} (name : String)
    (unrepeated : (pairs.map Prod.fst).Nodup) :
    valuesUnder name pairs = (pairs.get? name).toList := by
  induction pairs with
  | nil => rfl
  | cons pair rest ih =>
      obtain ⟨key, value⟩ := pair
      rw [List.map_cons, List.nodup_cons] at unrepeated
      have ih := ih unrepeated.2
      by_cases same : key = name
      · subst same
        have gone : Members.get? rest key = none := Json.lookup_eq_none unrepeated.1
        rw [gone] at ih
        simpa [valuesUnder, Members.get?] using ih
      · simpa [valuesUnder, Members.get?, List.lookup_cons, same,
          beq_eq_false_iff_ne.2 (Ne.symm same)] using ih

theorem urlPartOf?_eq_some_iff {pairs : Members} {part : UrlPart}
    (unrepeated : (pairs.map Prod.fst).Nodup) :
    urlPartOf? pairs = some part ↔ PartOf (.object pairs) part := by
  simp only [urlPartOf?, valuesUnder_eq_toList _ unrepeated]
  constructor
  · intro read
    split at read
    · next text value =>
      cases read
      exact .literal (by simpa using value)
    · next valueless =>
      split at read
      · next name named =>
        obtain ⟨width, sized, rfl⟩ := Option.map_eq_some_iff.1 read
        exact .placeholder (fun text value => valueless text (by simp [value]))
          (by simpa using named) (widthOf?_eq_some_iff.1 sized)
      · cases read
  · rintro (value | ⟨valueless, named, sized⟩)
    · simp [value]
    · split
      · next text value => exact absurd (by simpa using value) (valueless text)
      · simp [named, widthOf?_eq_some_iff.2 sized]

theorem readUrlPart_eq_ok_iff {next : Mark} {node : Node} {members : Members} {part : UrlPart}
    (holds : node.Holds (.object members)) (unrepeated : node.names.Nodup) :
    readUrlPart next node = .ok part ↔ PartOf (.object members) part := by
  obtain ⟨distinct, start, entries, rfl, whole⟩ := holds.exists_pairs unrepeated
  rw [← urlPartOf?_eq_some_iff distinct]
  cases found : urlPartOf? members <;>
    simp [readUrlPart, whole, found, Except.mapError, bind, Except.bind, pure, Except.pure, throw,
      throwThe, MonadExceptOf.throw]

theorem readUrlPartItems_eq_ok_iff {items : Items} {values : List Value} {parts : List UrlPart}
    (whole : items.values = .ok values)
    (objects : ∀ value ∈ values, ∃ members, value = .object members)
    (unrepeated : ∀ node ∈ items.nodes, node.names.Nodup) :
    readUrlPartItems items = .ok parts ↔ List.Forall₂ PartOf values parts := by
  induction items using ApiConsole.Json.Items.nodes.induct generalizing values parts with
  | case1 stop =>
      cases whole
      rw [List.forall₂_nil_left_iff, readUrlPartItems, Except.ok.injEq, eq_comm]
  | case2 fault => cases whole
  | case3 node next rest ih =>
      simp only [Items.values, bind_eq_ok_iff, pure_eq_ok_iff] at whole
      obtain ⟨value, here, more, there, rfl⟩ := whole
      obtain ⟨⟨members, rfl⟩, objectsBehind⟩ := List.forall_mem_cons.1 objects
      obtain ⟨distinct, distinctBehind⟩ := List.forall_mem_cons.1 unrepeated
      simp only [readUrlPartItems, bind_eq_ok_iff, pure_eq_ok_iff, List.forall₂_cons_left_iff,
        readUrlPart_eq_ok_iff (Json.Node.holds_iff.2 here) distinct,
        ih there objectsBehind distinctBehind]
      constructor
      · rintro ⟨part, first, others, behind, rfl⟩
        exact ⟨part, others, first, behind, rfl⟩
      · rintro ⟨part, others, first, behind, rfl⟩
        exact ⟨part, first, others, behind, rfl⟩

theorem readUrlParts_eq_ok_iff {node : Node} {value : Value} {parts : List UrlPart}
    (holds : node.Holds value)
    (objects : ∀ items, value = .array items → ∀ item ∈ items, ∃ members, item = .object members)
    (unrepeated : ∀ part ∈ node.items, part.names.Nodup) :
    readUrlParts node = .ok parts ↔ PartsOf value parts := by
  cases holds with
  | array start whole =>
      rw [readUrlParts, readUrlPartItems_eq_ok_iff whole (objects _ rfl) unrepeated]
      simp [PartsOf]
  | _ => simp [readUrlParts, PartsOf]

def Field.Means : (field : Field) → Value → field.Content → Prop
  | .id => fun value text => value = .string text
  | .method => fun value method => value = .string method.name
  | .title => fun value text => value = .string text
  | .url => OrNull fun value template => value = .string template
  | .urlParts => OrNull PartsOf
  | .hasBody => OrNull fun value b => value = .bool b
  | .body => OrNull Eq

/-- What is asked of the node and the value of a member for their meaning to be the same. -/
def Field.Plain : Field → Node → Value → Prop
  | .method => fun _ value => ∀ members, value ≠ .object members
  | .urlParts => fun node value =>
      (∀ items, value = .array items → ∀ item ∈ items, ∃ members, item = .object members) ∧
        ∀ part ∈ node.items, part.names.Nodup
  | _ => fun _ _ => True

theorem Field.read_eq_ok_iff {field : Field} {node : Node} {value : Value}
    {content : field.Content} (holds : node.Holds value) (plain : field.Plain node value) :
    field.read node = .ok content ↔ field.Means value content := by
  cases field with
  | id => exact readString_eq_ok_iff holds
  | method => exact readMethod_eq_ok_iff holds plain
  | title => exact readString_eq_ok_iff holds
  | url => exact readOptional_eq_ok_iff holds fun _ => readString_eq_ok_iff holds
  | urlParts =>
      exact readOptional_eq_ok_iff holds fun _ => readUrlParts_eq_ok_iff holds plain.1 plain.2
  | hasBody => exact readOptional_eq_ok_iff holds fun _ => readBool_eq_ok_iff holds
  | body => exact readOptional_eq_ok_iff holds fun _ => readValue_eq_ok_iff holds

/-- What a member means that may be absent or null. -/
inductive Held {α : Type} (means : Value → α → Prop) : Option Value → Option α → Prop
  | absent : Held means none none
  | null : Held means (some .null) none
  | given {value : Value} {content : α} (there : value ≠ .null) (meant : means value content) :
      Held means (some value) (some content)

theorem held_iff {α : Type} {means : Value → α → Prop} {found : Option Value}
    {content : Option α} :
    Held means found content ↔
      ∃ read, Option.Rel (OrNull means) found read ∧ read.join = content := by
  constructor
  · rintro (_ | _ | ⟨there, meant⟩)
    · exact ⟨none, .none, rfl⟩
    · exact ⟨some none, .some .null, rfl⟩
    · exact ⟨some (some _), .some (.given there meant), rfl⟩
  · rintro ⟨read, rel, rfl⟩
    cases rel with
    | none => exact .absent
    | some meant =>
        cases meant with
        | null => exact .null
        | given there meant => exact .given there meant

/-- An entry of what its members say: all that it needs is there, and what is not is left out. -/
structure Entry.Of (members : Members) (entry : Entry) : Prop where
  id : members.get? "id" = some (.string entry.id)
  method : members.get? "method" = some (.string entry.method.name)
  title : members.get? "title" = some (.string entry.title) ∨
    members.get? "title" = none ∧ entry.title = ""
  url : Held (fun value template => value = .string template) (members.get? "url") entry.url
  urlParts : Held PartsOf (members.get? "url_parts") entry.urlParts
  hasBody : Held (fun value b => value = .bool b) (members.get? "has_body") entry.hasBody
  body : Held Eq (members.get? "body") entry.body

theorem exists_of_rel_some {α β : Type} {rel : α → β → Prop} {found : Option α} {b : β}
    (related : Option.Rel rel found (some b)) : ∃ a, found = some a ∧ rel a b := by
  cases related with
  | some here => exact ⟨_, rfl, here⟩

theorem eq_none_of_rel_none {α β : Type} {rel : α → β → Prop} {found : Option α}
    (related : Option.Rel rel found none) : found = none := by
  cases related
  rfl

/-- Two relations agree behind a third one that relates where they start. -/
theorem rel_congr {α β γ : Type} {between : α → β → Prop} {left : α → γ → Prop}
    {right : β → γ → Prop} {one : Option α} {other : Option β} {last : Option γ}
    (related : Option.Rel between one other)
    (same : ∀ a b c, one = some a → other = some b → between a b → (left a c ↔ right b c)) :
    Option.Rel left one last ↔ Option.Rel right other last := by
  cases related with
  | none =>
      constructor
      · rintro ⟨⟩
        exact .none
      · rintro ⟨⟩
        exact .none
  | some here =>
      constructor
      · rintro (_ | _)
        next first => exact .some ((same _ _ _ rfl rfl here).1 first)
      · rintro (_ | _)
        next second => exact .some ((same _ _ _ rfl rfl here).2 second)

theorem entry_of_iff {members : Members} {entry : Entry} :
    entry.Of members ↔
      ∃ draft : Draft,
        (∀ field, Option.Rel field.Means (members.get? field.name) (draft.get field)) ∧
          draft.finish = .ok entry := by
  constructor
  · intro of
    obtain ⟨id, method, title, url, urlParts, hasBody, body⟩ := entry
    obtain ⟨readUrl, urlMeant, rfl⟩ := held_iff.1 of.url
    obtain ⟨readParts, partsMeant, rfl⟩ := held_iff.1 of.urlParts
    obtain ⟨readFlag, flagMeant, rfl⟩ := held_iff.1 of.hasBody
    obtain ⟨readBody, bodyMeant, rfl⟩ := held_iff.1 of.body
    obtain ⟨readTitle, titleMeant, rfl⟩ : ∃ read,
        Option.Rel (Field.Means .title) (members.get? "title") read ∧ read.getD "" = title := by
      rcases of.title with given | ⟨absent, rfl⟩
      · exact ⟨some title, given ▸ .some rfl, rfl⟩
      · exact ⟨none, absent ▸ .none, rfl⟩
    refine ⟨⟨some id, some method, readTitle, readUrl, readParts, readFlag, readBody⟩, ?_, rfl⟩
    intro field
    cases field with
    | id => exact of.id ▸ .some rfl
    | method => exact of.method ▸ .some rfl
    | title => exact titleMeant
    | url => exact urlMeant
    | urlParts => exact partsMeant
    | hasBody => exact flagMeant
    | body => exact bodyMeant
  · rintro ⟨⟨id, method, title, url, urlParts, hasBody, body⟩, meant, finished⟩
    cases id with
    | none => cases finished
    | some id =>
        cases method with
        | none => cases finished
        | some method =>
            cases finished
            obtain ⟨_, idFound, rfl⟩ := exists_of_rel_some (meant .id)
            obtain ⟨_, methodFound, rfl⟩ := exists_of_rel_some (meant .method)
            refine ⟨idFound, methodFound, ?_, held_iff.2 ⟨_, meant .url, rfl⟩,
              held_iff.2 ⟨_, meant .urlParts, rfl⟩, held_iff.2 ⟨_, meant .hasBody, rfl⟩,
              held_iff.2 ⟨_, meant .body, rfl⟩⟩
            have titleMeant := meant .title
            cases title with
            | none => exact .inr ⟨eq_none_of_rel_none titleMeant, rfl⟩
            | some title =>
                obtain ⟨_, titleFound, rfl⟩ := exists_of_rel_some titleMeant
                exact .inl titleFound

/-- The node of an entry in which no name is repeated, nor in one of its URL parts. -/
structure Unrepeated (node : Node) : Prop where
  names : node.names.Nodup
  parts : ∀ member ∈ node.members, member.1 = "url_parts" →
    ∀ part ∈ member.2.items, part.names.Nodup

/-- The members of an entry whose method is no object and whose `url_parts` are all objects. -/
structure Usual (members : Members) : Prop where
  method : ∀ inner, members.get? "method" ≠ some (.object inner)
  elements : ∀ items, members.get? "url_parts" = some (.array items) →
    ∀ item ∈ items, ∃ inner, item = .object inner

theorem plain_of_usual {node inner : Node} {members : Members} {value : Value} {field : Field}
    (unrepeated : Unrepeated node) (usual : Usual members)
    (written : node.members.lookup field.name = some inner)
    (found : members.get? field.name = some value) : field.Plain inner value := by
  cases field with
  | method =>
      rintro object rfl
      exact usual.method object found
  | urlParts =>
      obtain ⟨before, behind, split, _⟩ := List.lookup_eq_some_iff.1 written
      refine ⟨fun items same => usual.elements items (same ▸ found), ?_⟩
      have there : ("url_parts", inner) ∈ node.members :=
        split ▸ List.mem_append_right _ List.mem_cons_self
      exact unrepeated.parts ("url_parts", inner) there rfl
  | _ => trivial

theorem readEntry_eq_ok_iff {node : Node} {members : Members} {entry : Entry}
    (holds : node.Holds (.object members)) (unrepeated : Unrepeated node) (usual : Usual members) :
    readEntry node = .ok entry ↔
      (∀ name ∈ members.map Prod.fst, (Field.ofName? name).isSome) ∧ entry.Of members := by
  obtain ⟨distinct, start, entries, rfl, whole⟩ := holds.exists_pairs unrepeated.names
  have same := Json.Entries.forall₂_members whole
  have drafted : ∀ draft : Draft, draft.Of entries.members ↔
      ∀ field, Option.Rel field.Means (members.get? field.name) (draft.get field) := by
    refine fun draft => forall_congr' fun field => rel_congr (Json.rel_lookup same field.name) ?_
    intro inner value content written found holds
    exact Field.read_eq_ok_iff holds (plain_of_usual unrepeated usual written found)
  rw [readEntry, readEntryMembers_eq_ok_iff whole Draft.of_nil unrepeated.names, entry_of_iff,
    ← Json.names_eq_of_forall₂ same, List.forall_mem_map, List.nil_append]
  simp only [drafted]

end Catalog

end ApiConsole
