import ApiConsole.Catalog
import ApiConsole.Proofs.Catalog.Contents
import Mathlib

/-!
# Which catalog texts load

A text that is an array of objects loads exactly when each object is well formed and their ids are
distinct, and the endpoints are then those that the objects describe, in the order of the text. What
is well formed and what is described are said of the members as values, without the reader.
-/

namespace ApiConsole

theorem exists_forall₂_iff {α β : Type} {rel : α → β → Prop} {as : List α} :
    (∃ bs, List.Forall₂ rel as bs) ↔ ∀ a ∈ as, ∃ b, rel a b := by
  induction as with
  | nil => simp
  | cons a as ih =>
      simp only [List.forall_mem_cons, ← ih, List.forall₂_cons_left_iff]
      constructor
      · rintro ⟨_, b, bs, here, there, rfl⟩
        exact ⟨⟨b, here⟩, bs, there⟩
      · rintro ⟨⟨b, here⟩, bs, there⟩
        exact ⟨_, b, bs, here, there, rfl⟩

theorem exists_related_of_mem {α β : Type} {rel : α → β → Prop} {as : List α} {bs : List β} {a : α}
    (related : List.Forall₂ rel as bs) (member : a ∈ as) : ∃ b ∈ bs, rel a b := by
  induction related with
  | nil => cases member
  | cons here _ ih =>
      rcases List.mem_cons.1 member with rfl | member
      · exact ⟨_, List.mem_cons_self, here⟩
      · obtain ⟨b, there, behind⟩ := ih member
        exact ⟨b, List.mem_cons_of_mem _ there, behind⟩

/-- Two steps taken element by element are one. -/
theorem forall₂_comp_iff {α β γ : Type} {first : α → β → Prop} {second : β → γ → Prop}
    {as : List α} {cs : List γ} :
    (∃ bs, List.Forall₂ first as bs ∧ List.Forall₂ second bs cs) ↔
      List.Forall₂ (fun a c => ∃ b, first a b ∧ second b c) as cs := by
  constructor
  · rintro ⟨bs, one, two⟩
    induction one generalizing cs with
    | nil => cases two; exact .nil
    | cons here _ ih =>
        cases two with
        | cons behind rest => exact .cons ⟨_, here, behind⟩ (ih rest)
  · intro both
    induction both with
    | nil => exact ⟨[], .nil, .nil⟩
    | cons here _ ih =>
        obtain ⟨b, one, two⟩ := here
        obtain ⟨bs, first, second⟩ := ih
        exact ⟨b :: bs, .cons one first, .cons two second⟩

theorem forall₂_congr {α β γ : Type} {between : α → β → Prop} {left : α → γ → Prop}
    {right : β → γ → Prop} {as : List α} {bs : List β} {cs : List γ}
    (related : List.Forall₂ between as bs)
    (same : ∀ a ∈ as, ∀ b ∈ bs, between a b → ∀ c, left a c ↔ right b c) :
    List.Forall₂ left as cs ↔ List.Forall₂ right bs cs := by
  induction related generalizing cs with
  | nil => rw [List.forall₂_nil_left_iff, List.forall₂_nil_left_iff]
  | cons here _ ih =>
      have ih := fun cs => @ih cs fun a first b second =>
        same a (List.mem_cons_of_mem _ first) b (List.mem_cons_of_mem _ second)
      simp only [List.forall₂_cons_left_iff, ih,
        same _ List.mem_cons_self _ List.mem_cons_self here]

namespace Catalog

open Json (Node Items Members Value)

def Given (members : Members) (name : String) (value : Value) : Prop :=
  members.get? name = some value ∧ value ≠ .null

/-- An entry with the right members, of the right kinds, that go together. -/
structure WellFormed (members : Members) : Prop where
  known : ∀ name ∈ members.map Prod.fst,
    name ∈ ["id", "method", "title", "url", "url_parts", "has_body", "body"]
  id : ∃ id, members.get? "id" = some (.string id)
  method : ∃ name ∈ ["GET", "POST", "PUT", "DELETE", "PATCH"],
    members.get? "method" = some (.string name)
  title : ∀ value, members.get? "title" = some value → ∃ title, value = .string title
  url : ∀ value, Given members "url" value → ∃ template, value = .string template
  urlParts : ∀ value, Given members "url_parts" value →
    ∃ items, value = .array items ∧ ∀ item ∈ items, ∃ part, PartOf item part
  hasBody : ∀ value, Given members "has_body" value → ∃ b, value = .bool b
  /-- Exactly one form of the URL. -/
  single : (∃ value, Given members "url" value) ↔ ¬∃ value, Given members "url_parts" value
  template : ∀ template, members.get? "url" = some (.string template) →
    ∃ parts, Template.parse template = .ok parts
  bodiless : members.get? "has_body" = some (.bool false) → ∀ value, ¬Given members "body" value

/-- The URL of an entry, in the form in which it is given. -/
structure UrlOf (members : Members) (url : List UrlPart) : Prop where
  template : ∀ template, members.get? "url" = some (.string template) →
    Template.parse template = .ok url
  parts : ∀ items, members.get? "url_parts" = some (.array items) → List.Forall₂ PartOf items url

/-- The payload of an entry: its body, or else whether it says that there is one. -/
inductive PayloadOf (members : Members) : Payload → Prop
  | fixed {body : Value} (given : Given members "body" body) : PayloadOf members (.fixed body)
  | unspecified (bodiless : ∀ body, ¬Given members "body" body)
      (present : members.get? "has_body" = some (.bool true)) : PayloadOf members .unspecified
  | absent (bodiless : ∀ body, ¬Given members "body" body)
      (missing : members.get? "has_body" ≠ some (.bool true)) : PayloadOf members .absent

structure Describes (members : Members) (endpoint : Endpoint) : Prop where
  id : members.get? "id" = some (.string endpoint.id)
  method : members.get? "method" = some (.string endpoint.method.name)
  title : members.get? "title" = some (.string endpoint.title) ∨
    members.get? "title" = none ∧ endpoint.title = ""
  url : UrlOf members endpoint.url
  payload : PayloadOf members endpoint.payload

theorem Held.given_or_not {α : Type} {means : Value → α → Prop} {members : Members} {name : String}
    {content : Option α} (held : Held means (members.get? name) content) :
    (content = none ∧ ∀ value, ¬Given members name value) ∨
      ∃ value meant, content = some meant ∧ Given members name value ∧ means value meant := by
  unfold Given
  generalize members.get? name = found at held
  cases held with
  | absent => exact .inl ⟨rfl, by simp⟩
  | null => exact .inl ⟨rfl, by simp⟩
  | given there meant => exact .inr ⟨_, _, rfl, ⟨rfl, there⟩, meant⟩

theorem exists_held {α : Type} {means : Value → α → Prop} {members : Members} {name : String}
    (known : ∀ value, Given members name value → ∃ content, means value content) :
    ∃ content, Held means (members.get? name) content := by
  unfold Given at known
  generalize members.get? name = found at known
  cases found with
  | none => exact ⟨none, .absent⟩
  | some value =>
      by_cases there : value = .null
      · subst there
        exact ⟨none, .null⟩
      · obtain ⟨content, meant⟩ := known value ⟨rfl, there⟩
        exact ⟨some content, .given there meant⟩

theorem Given.unique {members : Members} {name : String} {one other : Value}
    (given : Given members name one) (found : members.get? name = some other) : one = other :=
  Option.some.inj (given.1.symm.trans found)

theorem WidthOf.rightUnique : Relator.RightUnique WidthOf := by
  intro found one other first second
  cases first with
  | absent => cases second; rfl
  | null => cases second; rfl
  | given n small => cases second; rfl

/-- A value describes one URL part at most, since a placeholder has no string for its `value`. -/
theorem PartOf.rightUnique : Relator.RightUnique PartOf := by
  intro value one other first second
  cases first with
  | literal value =>
      cases second with
      | literal same => cases value.symm.trans same; rfl
      | placeholder valueless _ _ => exact absurd value (valueless _)
  | placeholder valueless named sized =>
      cases second with
      | literal value => exact absurd value (valueless _)
      | placeholder _ same also =>
          cases named.symm.trans same
          rw [WidthOf.rightUnique sized also]

theorem PayloadOf.unique {members : Members} {one other : Payload} (first : PayloadOf members one)
    (second : PayloadOf members other) : one = other := by
  cases first with
  | fixed given =>
      cases second with
      | fixed also => rw [given.unique also.1]
      | unspecified bodiless _ => exact absurd given (bodiless _)
      | absent bodiless _ => exact absurd given (bodiless _)
  | unspecified bodiless present =>
      cases second with
      | fixed given => exact absurd given (bodiless _)
      | unspecified _ _ => rfl
      | absent _ missing => exact absurd present missing
  | absent bodiless missing =>
      cases second with
      | fixed given => exact absurd given (bodiless _)
      | unspecified _ present => exact absurd present missing
      | absent _ _ => rfl

theorem eq_ok_iff_of_unique {ε α : Type} {x : Except ε α} {a b : α} {agreed : Prop}
    {means : α → Prop} (read : x = .ok a) (agree : agreed) (meant : means a)
    (unique : ∀ b, means b → a = b) : x = .ok b ↔ agreed ∧ means b := by
  rw [read, Except.ok.injEq]
  constructor
  · rintro rfl
    exact ⟨agree, meant⟩
  · rintro ⟨_, also⟩
    exact unique b also

theorem Entry.parts_eq_ok_iff {members : Members} {entry : Entry} {url : List UrlPart}
    (of : entry.Of members) :
    entry.parts = .ok url ↔
      ((∃ value, Given members "url" value) ↔ ¬∃ value, Given members "url_parts" value) ∧
        UrlOf members url := by
  rcases of.url.given_or_not with ⟨noUrl, urlless⟩ | ⟨_, template, hasUrl, given, rfl⟩
  · rcases of.urlParts.given_or_not with ⟨noParts, partless⟩ | ⟨_, parts, hasParts, given, meant⟩
    · simp [Entry.parts, noUrl, noParts, urlless, partless]
    · obtain ⟨items, rfl, meant⟩ := meant
      have read : entry.parts = .ok parts := by simp [Entry.parts, noUrl, hasParts]
      refine eq_ok_iff_of_unique read ?_ ⟨?_, ?_⟩ ?_
      · exact iff_of_false (fun found => urlless _ found.choose_spec) (not_not_intro ⟨_, given⟩)
      · exact fun template found => absurd ⟨found, by simp⟩ (urlless _)
      · intro others found
        cases given.unique found
        exact meant
      · rintro other ⟨_, listed⟩
        exact List.right_unique_forall₂' PartOf.rightUnique meant (listed items given.1)
  · rcases of.urlParts.given_or_not with ⟨noParts, partless⟩ | ⟨_, parts, hasParts, also, _⟩
    · have read : entry.parts = .ok url ↔ Template.parse template = .ok url := by
        simp [Entry.parts, hasUrl, noParts, mapError_eq_ok_iff]
      rw [read]
      constructor
      · intro parsed
        refine ⟨iff_of_true ⟨_, given⟩ fun found => partless _ found.choose_spec, ?_, ?_⟩
        · intro other found
          cases given.unique found
          exact parsed
        · exact fun items found => absurd ⟨found, by simp⟩ (partless _)
      · rintro ⟨_, means⟩
        exact means.template template given.1
    · constructor
      · intro read
        simp [Entry.parts, hasUrl, hasParts] at read
      · rintro ⟨single, _⟩
        exact absurd ⟨_, also⟩ (single.1 ⟨_, given⟩)

theorem Entry.payload_eq_ok_iff {members : Members} {entry : Entry} {payload : Payload}
    (of : entry.Of members) :
    entry.payload = .ok payload ↔
      (members.get? "has_body" = some (.bool false) → ∀ value, ¬Given members "body" value) ∧
        PayloadOf members payload := by
  rcases of.body.given_or_not with ⟨noBody, bodiless⟩ | ⟨body, _, hasBody, given, rfl⟩
  · have agree : members.get? "has_body" = some (.bool false) →
        ∀ value, ¬Given members "body" value := fun _ => bodiless
    rcases of.hasBody.given_or_not with ⟨noFlag, flagless⟩ | ⟨_, flag, hasFlag, present, rfl⟩
    · have meant : PayloadOf members .absent :=
        .absent bodiless fun found => flagless _ ⟨found, by simp⟩
      exact eq_ok_iff_of_unique (by simp [Entry.payload, noBody, noFlag]) agree meant
        fun _ => meant.unique
    · cases flag with
      | false =>
          have meant : PayloadOf members .absent := .absent bodiless (by simp [present.1])
          exact eq_ok_iff_of_unique (by simp [Entry.payload, noBody, hasFlag]) agree meant
            fun _ => meant.unique
      | true =>
          have meant : PayloadOf members .unspecified := .unspecified bodiless present.1
          exact eq_ok_iff_of_unique (by simp [Entry.payload, noBody, hasFlag]) agree meant
            fun _ => meant.unique
  · have meant : PayloadOf members (.fixed body) := .fixed given
    rcases of.hasBody.given_or_not with ⟨noFlag, flagless⟩ | ⟨_, flag, hasFlag, present, rfl⟩
    · exact eq_ok_iff_of_unique (by simp [Entry.payload, hasBody, noFlag])
        (fun found => absurd ⟨found, by simp⟩ (flagless _)) meant fun _ => meant.unique
    · cases flag with
      | false =>
          constructor
          · intro read
            simp [Entry.payload, hasBody, hasFlag] at read
          · rintro ⟨agree, _⟩
            exact absurd given (agree present.1 _)
      | true =>
          exact eq_ok_iff_of_unique (by simp [Entry.payload, hasBody, hasFlag])
            (by simp [present.1]) meant fun _ => meant.unique

/-- An entry that can be read from its members and made an endpoint. -/
def Makes (members : Members) (endpoint : Endpoint) : Prop :=
  ∃ entry : Entry, ((∀ name ∈ members.map Prod.fst, (Field.ofName? name).isSome) ∧
    entry.Of members) ∧ entry.endpoint = .ok endpoint

theorem Entry.endpoint_eq_ok_iff {entry : Entry} {endpoint : Endpoint} :
    entry.endpoint = .ok endpoint ↔
      entry.parts = .ok endpoint.url ∧ entry.payload = .ok endpoint.payload ∧
        entry.id = endpoint.id ∧ entry.method = endpoint.method ∧ entry.title = endpoint.title := by
  simp only [Entry.endpoint, bind_eq_ok_iff, pure_eq_ok_iff]
  constructor
  · rintro ⟨url, parts, payload, sends, rfl⟩
    exact ⟨parts, sends, rfl, rfl, rfl⟩
  · rintro ⟨parts, sends, id, method, title⟩
    exact ⟨_, parts, _, sends, by rw [id, method, title]⟩

theorem isSome_ofName?_iff {name : String} :
    (Field.ofName? name).isSome ↔
      name ∈ ["id", "method", "title", "url", "url_parts", "has_body", "body"] := by
  rw [Option.isSome_iff_exists]
  simp only [Field.ofName?_eq_some_iff]
  constructor
  · rintro ⟨field, rfl⟩
    cases field <;> simp [Field.name]
  · intro known
    simp only [List.mem_cons, List.not_mem_nil, or_false] at known
    rcases known with rfl | rfl | rfl | rfl | rfl | rfl | rfl
    · exact ⟨.id, rfl⟩
    · exact ⟨.method, rfl⟩
    · exact ⟨.title, rfl⟩
    · exact ⟨.url, rfl⟩
    · exact ⟨.urlParts, rfl⟩
    · exact ⟨.hasBody, rfl⟩
    · exact ⟨.body, rfl⟩

theorem exists_method_iff {name : String} :
    (∃ method : Method, name = method.name) ↔ name ∈ ["GET", "POST", "PUT", "DELETE", "PATCH"] := by
  constructor
  · rintro ⟨method, rfl⟩
    cases method <;> simp [Method.name]
  · intro known
    simp only [List.mem_cons, List.not_mem_nil, or_false] at known
    rcases known with rfl | rfl | rfl | rfl | rfl
    · exact ⟨.get, rfl⟩
    · exact ⟨.post, rfl⟩
    · exact ⟨.put, rfl⟩
    · exact ⟨.delete, rfl⟩
    · exact ⟨.patch, rfl⟩

theorem exists_given_title {members : Members}
    (known : ∀ value, members.get? "title" = some value → ∃ title, value = .string title) :
    ∃ title, members.get? "title" = some (.string title) ∨
      members.get? "title" = none ∧ title = "" := by
  cases found : members.get? "title" with
  | none => exact ⟨"", .inr ⟨rfl, rfl⟩⟩
  | some value =>
      obtain ⟨title, rfl⟩ := known value found
      exact ⟨title, .inl rfl⟩

theorem WellFormed.exists_entry {members : Members} (formed : WellFormed members) :
    ∃ entry : Entry, entry.Of members := by
  obtain ⟨id, idFound⟩ := formed.id
  obtain ⟨_, named, methodFound⟩ := formed.method
  obtain ⟨method, rfl⟩ := exists_method_iff.2 named
  obtain ⟨title, titleMeant⟩ := exists_given_title formed.title
  obtain ⟨url, urlMeant⟩ := exists_held formed.url
  obtain ⟨hasBody, flagMeant⟩ := exists_held formed.hasBody
  obtain ⟨body, bodyMeant⟩ : ∃ content, Held Eq (members.get? "body") content :=
    exists_held fun value _ => ⟨value, rfl⟩
  obtain ⟨urlParts, partsMeant⟩ : ∃ content, Held PartsOf (members.get? "url_parts") content := by
    refine exists_held fun value given => ?_
    obtain ⟨items, rfl, each⟩ := formed.urlParts value given
    obtain ⟨parts, listed⟩ := exists_forall₂_iff.2 each
    exact ⟨parts, items, rfl, listed⟩
  exact ⟨⟨id, method, title, url, urlParts, hasBody, body⟩, idFound, methodFound, titleMeant,
    urlMeant, partsMeant, flagMeant, bodyMeant⟩

theorem WellFormed.exists_url {members : Members} (formed : WellFormed members) :
    ∃ url, UrlOf members url := by
  by_cases templated : ∃ value, Given members "url" value
  · obtain ⟨value, given⟩ := templated
    obtain ⟨template, rfl⟩ := formed.url value given
    obtain ⟨url, parsed⟩ := formed.template template given.1
    refine ⟨url, ?_, ?_⟩
    · intro other found
      cases given.unique found
      exact parsed
    · exact fun items found => absurd ⟨_, found, by simp⟩ (formed.single.1 ⟨_, given⟩)
  · obtain ⟨value, given⟩ := not_not.1 (mt formed.single.2 templated)
    obtain ⟨items, rfl, each⟩ := formed.urlParts value given
    obtain ⟨url, listed⟩ := exists_forall₂_iff.2 each
    refine ⟨url, ?_, ?_⟩
    · exact fun template found => absurd ⟨_, found, by simp⟩ templated
    · intro others found
      cases given.unique found
      exact listed

theorem exists_payload (members : Members) : ∃ payload, PayloadOf members payload := by
  by_cases given : ∃ body, Given members "body" body
  · exact ⟨_, .fixed given.choose_spec⟩
  · have bodiless : ∀ body, ¬Given members "body" body := not_exists.1 given
    by_cases present : members.get? "has_body" = some (.bool true)
    · exact ⟨_, .unspecified bodiless present⟩
    · exact ⟨_, .absent bodiless present⟩

theorem WellFormed.exists_describes {members : Members} (formed : WellFormed members) :
    ∃ endpoint, Describes members endpoint := by
  obtain ⟨entry, of⟩ := formed.exists_entry
  obtain ⟨url, means⟩ := formed.exists_url
  obtain ⟨payload, sends⟩ := exists_payload members
  exact ⟨⟨entry.id, entry.method, entry.title, url, payload⟩, of.id, of.method, of.title, means,
    sends⟩

theorem Held.exists_meant {α : Type} {means : Value → α → Prop} {members : Members} {name : String}
    {content : Option α} {value : Value} (held : Held means (members.get? name) content)
    (given : Given members name value) : ∃ content, means value content := by
  rcases held.given_or_not with ⟨_, absent⟩ | ⟨other, content, _, also, meant⟩
  · exact absurd given (absent value)
  · exact ⟨content, given.unique also.1 ▸ meant⟩

theorem makes_iff {members : Members} {endpoint : Endpoint} :
    Makes members endpoint ↔ WellFormed members ∧ Describes members endpoint := by
  constructor
  · rintro ⟨entry, ⟨known, of⟩, made⟩
    rw [Entry.endpoint_eq_ok_iff, Entry.parts_eq_ok_iff of, Entry.payload_eq_ok_iff of] at made
    obtain ⟨⟨single, means⟩, ⟨agree, sends⟩, id, method, title⟩ := made
    refine ⟨⟨?_, ⟨_, of.id⟩, ?_, ?_, ?_, ?_, ?_, single, ?_, agree⟩,
      ⟨id ▸ of.id, method ▸ of.method, title ▸ of.title, means, sends⟩⟩
    · exact fun name there => isSome_ofName?_iff.1 (known name there)
    · exact ⟨_, exists_method_iff.1 ⟨_, rfl⟩, of.method⟩
    · intro value found
      rcases of.title with given | ⟨absent, _⟩
      · exact ⟨_, Option.some.inj (found.symm.trans given)⟩
      · cases absent.symm.trans found
    · exact fun value given => of.url.exists_meant given
    · intro value given
      obtain ⟨parts, items, rfl, listed⟩ := of.urlParts.exists_meant given
      exact ⟨items, rfl, exists_forall₂_iff.1 ⟨parts, listed⟩⟩
    · exact fun value given => of.hasBody.exists_meant given
    · exact fun template found => ⟨_, means.template template found⟩
  · rintro ⟨formed, described⟩
    obtain ⟨entry, of⟩ := formed.exists_entry
    have parts := (Entry.parts_eq_ok_iff of).2 ⟨formed.single, described.url⟩
    have sends := (Entry.payload_eq_ok_iff of).2 ⟨formed.bodiless, described.payload⟩
    have known : ∀ name ∈ members.map Prod.fst, (Field.ofName? name).isSome :=
      fun name there => isSome_ofName?_iff.2 (formed.known name there)
    refine ⟨entry, ⟨known, of⟩, Entry.endpoint_eq_ok_iff.2 ⟨parts, sends, ?_, ?_, ?_⟩⟩
    · simpa using of.id.symm.trans described.id
    · exact Method.name_injective (by simpa using of.method.symm.trans described.method)
    · rcases of.title with given | ⟨absent, untitled⟩
      · rcases described.title with also | ⟨missing, _⟩
        · simpa using given.symm.trans also
        · cases given.symm.trans missing
      · rcases described.title with also | ⟨_, empty⟩
        · cases absent.symm.trans also
        · rw [untitled, empty]

/-- The items of a text that is an array. -/
theorem exists_items {text : List Char} {values : List Value}
    (json : Json.parse text = .ok (.array values)) :
    ∃ start items, (Json.Document.ofText text).root = .array start items ∧
      items.values = .ok values ∧ (Json.Document.ofText text).finish = .ok () := by
  simp only [Json.parse, bind_eq_ok_iff, pure_eq_ok_iff] at json
  obtain ⟨value, read, finish, ended, rfl⟩ := json
  generalize (Json.Document.ofText text).root = root at read
  cases Json.Node.holds_iff.2 read with
  | array start whole => exact ⟨start, _, rfl, whole, ended⟩

theorem readEntries_eq_ok_iff {items : Json.Items} {values : List Value} {entries : List Entry}
    (whole : items.values = .ok values) :
    readEntries items = .ok entries ↔
      List.Forall₂ (fun node entry => readEntry node = .ok entry) items.nodes entries := by
  induction items using ApiConsole.Json.Items.nodes.induct generalizing values entries with
  | case1 stop =>
      simp [readEntries, Json.Items.nodes, eq_comm]
  | case2 fault => cases whole
  | case3 node next rest ih =>
      simp only [Json.Items.values, bind_eq_ok_iff] at whole
      obtain ⟨value, here, more, there, _⟩ := whole
      simp only [readEntries, Json.Items.nodes, bind_eq_ok_iff, pure_eq_ok_iff,
        List.forall₂_cons_left_iff, ih there]
      constructor
      · rintro ⟨entry, first, others, behind, rfl⟩
        exact ⟨entry, others, first, behind, rfl⟩
      · rintro ⟨entry, others, first, behind, rfl⟩
        exact ⟨entry, first, others, behind, rfl⟩

theorem repeatedId?_eq_none_of_nodup {seen ids : List String} (distinct : ids.Nodup)
    (fresh : ∀ id ∈ ids, id ∉ seen) : repeatedId? seen ids = none := by
  induction ids generalizing seen with
  | nil => rfl
  | cons id rest ih =>
      obtain ⟨apart, distinct⟩ := List.nodup_cons.1 distinct
      obtain ⟨first, behind⟩ := List.forall_mem_cons.1 fresh
      rw [repeatedId?, if_neg first]
      refine ih distinct fun other there => ?_
      rw [List.mem_cons, not_or]
      exact ⟨fun same => apart (same ▸ there), behind other there⟩

theorem ofList_eq_ok_iff {endpoints : List Endpoint} {catalog : Catalog} :
    ofList endpoints = .ok catalog ↔ catalog.endpoints = endpoints := by
  unfold ofList
  constructor
  · intro made
    split at made
    · cases made
    · cases made
      rfl
  · rintro rfl
    split
    · next id repeated =>
      rw [repeatedId?_eq_none_of_nodup catalog.distinct (by simp)] at repeated
      cases repeated
    · rfl

/-- The ids of entries are distinct when those of the endpoints they describe are. -/
theorem nodup_ids_iff {entries : List Members} {endpoints : List Endpoint}
    (described : List.Forall₂ Describes entries endpoints) :
    (entries.map (·.get? "id")).Nodup ↔ (endpoints.map Endpoint.id).Nodup := by
  have same : entries.map (·.get? "id") =
      (endpoints.map Endpoint.id).map fun id => some (.string id) := by
    induction described with
    | nil => rfl
    | cons here _ ih => simp only [List.map_cons, here.id, ih]
  rw [same, List.nodup_map_iff]
  intro one other equal
  simpa using equal

section Loading

variable {text : String} {entries : List Members}

/-- Objects that are read load as the endpoints that they describe, if all of them are well formed. -/
theorem ofText_eq_ok_iff (json : Json.parse text.toList = .ok (.array (entries.map .object)))
    (unrepeated : ∀ node ∈ (Json.Document.ofText text.toList).root.items, Unrepeated node)
    (usual : ∀ members ∈ entries, Usual members) {catalog : Catalog} :
    ofText text = .ok catalog ↔
      (∀ members ∈ entries, WellFormed members) ∧
        List.Forall₂ Describes entries catalog.endpoints := by
  obtain ⟨start, items, root, whole, ended⟩ := exists_items json
  -- The three phases go over the same list, so what they make of it is compared place by place.
  have read : ∀ read, readText text = .ok read ↔
      List.Forall₂ (fun node entry => readEntry node = .ok entry) items.nodes read := by
    intro read
    rw [← readEntries_eq_ok_iff whole]
    simp [readText, root, ended, bind_eq_ok_iff, Except.mapError]
  have nodes : List.Forall₂ (fun node members => node.Holds (.object members)) items.nodes
      entries := List.forall₂_map_right_iff.1 (Json.Items.forall₂_nodes whole)
  simp only [ofText, bind_eq_ok_iff, mapError_eq_ok_iff, read, mapM_eq_ok_iff, ofList_eq_ok_iff,
    exists_eq_right', forall₂_comp_iff]
  rw [root] at unrepeated
  rw [← List.forall₂_and_left]
  refine forall₂_congr nodes fun node written members there holds endpoint => ?_
  rw [← makes_iff]
  simp only [Makes, readEntry_eq_ok_iff holds (unrepeated node written) (usual members there)]

end Loading

end Catalog

end ApiConsole
