import ApiConsole.Proofs.Catalog.Loading

/-!
# Which error a catalog text gives

A text is read as a whole before its entries are checked, and all entries are checked before their
ids are compared.  So a flaw of the text hides whatever is wrong with the entries, and an entry that
is wrong hides a repeated id, wherever it stands; of several entries that are wrong, or several ids
that are repeated, the first is reported.  In a catalog without an error each id finds its own
entry.
-/

namespace ApiConsole.Catalog

open Json (Value)

variable {entries : List Entry}

/-! ### Entries -/

/-- The URL of an entry that gives it in one form, and soundly. -/
inductive Entry.HasUrl (entry : Entry) : List UrlPart → Prop where
  | template {template : String} {parts : List UrlPart} (given : entry.url = some template)
      (single : entry.urlParts = none) (parsed : Template.parse template = .ok parts) :
      HasUrl entry parts
  | parts {parts : List UrlPart} (single : entry.url = none)
      (given : entry.urlParts = some parts) : HasUrl entry parts

inductive Entry.Sends (entry : Entry) : Payload → Prop where
  | fixed {body : Value} (given : entry.body = some body) (wanted : entry.hasBody ≠ some false) :
      Sends entry (.fixed body)
  | unspecified (bodiless : entry.body = none) (wanted : entry.hasBody = some true) :
      Sends entry .unspecified
  | absent (bodiless : entry.body = none) (unwanted : entry.hasBody ≠ some true) :
      Sends entry .absent

/-- An endpoint is what an entry says. -/
structure Entry.Becomes (entry : Entry) (endpoint : Endpoint) : Prop where
  id : endpoint.id = entry.id
  method : endpoint.method = entry.method
  title : endpoint.title = entry.title
  url : entry.HasUrl endpoint.url
  payload : entry.Sends endpoint.payload

/-- What is wrong with an entry; an unwanted body only counts where nothing is wrong with the
URL. -/
inductive Entry.Faulty (entry : Entry) : Error → Prop where
  | noUrl (url : entry.url = none) (parts : entry.urlParts = none) :
      Faulty entry (.invalidEndpoint entry.id .noUrl)
  | bothUrls {template : String} {parts : List UrlPart} (url : entry.url = some template)
      (parts : entry.urlParts = some parts) : Faulty entry (.invalidEndpoint entry.id .bothUrls)
  | template {template : String} {fault : Template.Fault} (url : entry.url = some template)
      (single : entry.urlParts = none) (bad : Template.parse template = .error fault) :
      Faulty entry (.invalidTemplate template fault)
  | unwantedBody {url : List UrlPart} {body : Value} (sound : entry.HasUrl url)
      (unwanted : entry.hasBody = some false) (given : entry.body = some body) :
      Faulty entry (.invalidEndpoint entry.id .unwantedBody)

theorem Entry.parts_eq_ok_iff_hasUrl {entry : Entry} {url : List UrlPart} :
    entry.parts = .ok url ↔ entry.HasUrl url := by
  constructor
  · intro read
    unfold Entry.parts at read
    split at read
    · next given single => exact .template given single (mapError_eq_ok_iff.1 read)
    · next single given =>
      cases read
      exact .parts single given
    · cases read
    · cases read
  · intro has
    cases has with
    | template given single parsed => simp [Entry.parts, given, single, parsed, Except.mapError]
    | parts single given => simp [Entry.parts, given, single]

theorem Entry.payload_eq_ok_iff_sends {entry : Entry} {payload : Payload} :
    entry.payload = .ok payload ↔ entry.Sends payload := by
  constructor
  · intro read
    unfold Entry.payload at read
    split at read
    · cases read
    · next given wanted =>
      cases read
      exact .fixed given wanted
    · next bodiless wanted =>
      cases read
      exact .unspecified bodiless wanted
    · next bodiless unwanted =>
      cases read
      exact .absent bodiless unwanted
  · intro sends
    cases sends with
    | fixed given wanted =>
        rw [Entry.payload, given]
        split <;> simp_all
    | unspecified bodiless wanted => simp [Entry.payload, bodiless, wanted]
    | absent bodiless unwanted =>
        rw [Entry.payload, bodiless]
        split <;> simp_all

theorem Entry.endpoint_eq_ok_iff_becomes {entry : Entry} {endpoint : Endpoint} :
    entry.endpoint = .ok endpoint ↔ entry.Becomes endpoint := by
  rw [Entry.endpoint_eq_ok_iff, parts_eq_ok_iff_hasUrl, payload_eq_ok_iff_sends]
  constructor
  · rintro ⟨url, payload, id, method, title⟩
    exact ⟨id.symm, method.symm, title.symm, url, payload⟩
  · rintro ⟨id, method, title, url, payload⟩
    exact ⟨url, payload, id.symm, method.symm, title.symm⟩

theorem Entry.endpoint_eq_error_iff {entry : Entry} {error : Error} :
    entry.endpoint = .error error ↔ entry.Faulty error := by
  constructor
  · intro refused
    simp only [Entry.endpoint, bind_eq_error_iff] at refused
    rcases refused with urlless | ⟨url, sound, unwanted | ⟨_, _, done⟩⟩
    · unfold Entry.parts at urlless
      split at urlless
      · next given single =>
        obtain ⟨fault, bad, rfl⟩ := mapError_eq_error_iff.1 urlless
        exact .template given single bad
      · cases urlless
      · next given also =>
        cases urlless
        exact .bothUrls given also
      · next url parts =>
        cases urlless
        exact .noUrl url parts
    · unfold Entry.payload at unwanted
      split at unwanted
      · next given flag =>
        cases unwanted
        exact .unwantedBody (Entry.parts_eq_ok_iff_hasUrl.1 sound) flag given
      all_goals cases unwanted
    · cases done
  · intro faulty
    cases faulty with
    | noUrl url parts => simp [Entry.endpoint, Entry.parts, url, parts, bind, Except.bind]
    | bothUrls url parts => simp [Entry.endpoint, Entry.parts, url, parts, bind, Except.bind]
    | template url single bad =>
        simp [Entry.endpoint, Entry.parts, url, single, bad, bind, Except.bind, Except.mapError]
    | unwantedBody sound unwanted given =>
        rw [Entry.endpoint, Entry.parts_eq_ok_iff_hasUrl.2 sound]
        simp [Entry.payload, unwanted, given, bind, Except.bind]

/-- Either something is wrong with an entry or it becomes an endpoint. -/
theorem Entry.exists_becomes_iff {entry : Entry} :
    (∃ endpoint, entry.Becomes endpoint) ↔ ∀ error, ¬entry.Faulty error := by
  simp only [← Entry.endpoint_eq_ok_iff_becomes, ← Entry.endpoint_eq_error_iff]
  cases entry.endpoint <;> simp

/-! ### Lists of entries -/

/-- An error is what is wrong with the first entry that anything is wrong with. -/
def FirstFaulty (entries : List Entry) (error : Error) : Prop :=
  ∃ before entry after, entries = before ++ entry :: after ∧
    (∀ earlier ∈ before, ∀ other, ¬earlier.Faulty other) ∧ entry.Faulty error

def FirstRepeated (ids : List String) (id : String) : Prop :=
  ∃ before after, ids = before ++ id :: after ∧ before.Nodup ∧ id ∈ before

theorem mapM_endpoint_eq_error_iff {error : Error} :
    entries.mapM Entry.endpoint = .error error ↔ FirstFaulty entries error := by
  simp only [mapM_eq_error_iff, Entry.endpoint_eq_ok_iff_becomes, Entry.exists_becomes_iff,
    Entry.endpoint_eq_error_iff, FirstFaulty]

theorem mapM_endpoint_eq_ok_iff {endpoints : List Endpoint} :
    entries.mapM Entry.endpoint = .ok endpoints ↔ List.Forall₂ Entry.Becomes entries endpoints := by
  simp only [mapM_eq_ok_iff, Entry.endpoint_eq_ok_iff_becomes]

theorem ids_of_becomes {endpoints : List Endpoint}
    (made : List.Forall₂ Entry.Becomes entries endpoints) :
    endpoints.map Endpoint.id = entries.map Entry.id := by
  induction made with
  | nil => rfl
  | cons here _ ih => rw [List.map_cons, List.map_cons, here.id, ih]

/-- The repeated id is one that is known already or stands before its place, and the first such. -/
theorem repeatedId?_eq_some_iff {seen ids : List String} {id : String} :
    repeatedId? seen ids = some id ↔
      ∃ before after, ids = before ++ id :: after ∧ before.Nodup ∧
        (∀ other ∈ before, other ∉ seen) ∧ (id ∈ before ∨ id ∈ seen) := by
  induction ids generalizing seen with
  | nil => simp [repeatedId?]
  | cons first rest ih =>
      unfold repeatedId?
      constructor
      · intro repeated
        split at repeated
        · next known =>
          cases repeated
          exact ⟨[], rest, rfl, .nil, by simp, .inr known⟩
        · next fresh =>
          obtain ⟨before, after, rfl, distinct, apart, known⟩ := ih.1 repeated
          have new : first ∉ before := fun member => apart first member List.mem_cons_self
          have others : ∀ other ∈ before, other ∉ seen :=
            fun other member old => apart other member (List.mem_cons_of_mem _ old)
          refine ⟨first :: before, after, rfl, List.nodup_cons.2 ⟨new, distinct⟩,
            List.forall_mem_cons.2 ⟨fresh, others⟩, ?_⟩
          rw [List.mem_cons] at known ⊢
          tauto
      · rintro ⟨before, after, same, distinct, apart, known⟩
        cases before with
        | nil =>
            cases same
            rw [if_pos (known.resolve_left List.not_mem_nil)]
        | cons b before =>
            cases same
            obtain ⟨new, distinct⟩ := List.nodup_cons.1 distinct
            obtain ⟨fresh, others⟩ := List.forall_mem_cons.1 apart
            rw [if_neg fresh]
            refine ih.2 ⟨before, after, rfl, distinct, fun other member => ?_, ?_⟩
            · rw [List.mem_cons, not_or]
              exact ⟨fun same => new (same ▸ member), others other member⟩
            · rw [List.mem_cons] at known ⊢
              tauto

theorem firstRepeated_iff {ids : List String} {id : String} :
    FirstRepeated ids id ↔ repeatedId? [] ids = some id := by
  simp [FirstRepeated, repeatedId?_eq_some_iff]

theorem ofList_of_repeated {endpoints : List Endpoint} {id : String}
    (repeated : repeatedId? [] (endpoints.map Endpoint.id) = some id) :
    ofList endpoints = .error (.duplicateEndpoint id) := by
  unfold ofList
  split
  · next other also =>
    cases repeated.symm.trans also
    rfl
  · next none => cases repeated.symm.trans none

theorem exists_repeatedId {ids : List String} (repeats : ¬ids.Nodup) :
    ∃ id, repeatedId? [] ids = some id := by
  refine Option.ne_none_iff_exists'.1 fun none => repeats ?_
  exact (nodup_of_repeatedId?_eq_none none).1

/-! ### Endpoints by id -/

theorem get_of_mem {catalog : Catalog} {endpoint : Endpoint}
    (member : endpoint ∈ catalog.endpoints) : catalog.get endpoint.id = .ok endpoint := by
  unfold get
  split
  · next other found =>
    have same : other.id = endpoint.id := by simpa using List.find?_some found
    exact congrArg Except.ok <| List.inj_on_of_nodup_map catalog.distinct
      (List.mem_of_find?_eq_some found) member same
  · next missing =>
    have apart := List.find?_eq_none.1 missing endpoint member
    simp at apart

theorem get_of_not_mem {catalog : Catalog} {id : String}
    (unknown : id ∉ catalog.endpoints.map Endpoint.id) :
    catalog.get id = .error (.unknownEndpoint id) := by
  unfold get
  split
  · next other found =>
    have same : other.id = id := by simpa using List.find?_some found
    exact absurd (List.mem_map.2 ⟨other, List.mem_of_find?_eq_some found, same⟩) unknown
  · rfl

/-! ### Texts -/

theorem ofText_of_readText_eq_ok {text : String} (read : readText text = .ok entries) :
    ofText text = entries.mapM Entry.endpoint >>= ofList := by
  rw [ofText, read]
  rfl

/--
What becomes of a text: a flaw of the text comes first, then the first entry that anything is wrong
with, then the first repeated id; and without any of these each id finds its own entry, and no other
id finds anything.
-/
theorem ofText_reports_first (text : String) :
    (∀ flaw, readText text = .error flaw → ofText text = .error (.malformedCatalog flaw)) ∧
      ∀ entries, readText text = .ok entries →
        ((∃ entry ∈ entries, ∃ error, entry.Faulty error) →
          ∃ error, ofText text = .error error ∧
            ∀ other, FirstFaulty entries other ↔ other = error) ∧
        ((∀ entry ∈ entries, ∀ error, ¬entry.Faulty error) →
          (¬(entries.map Entry.id).Nodup →
            ∃ id, ofText text = .error (.duplicateEndpoint id) ∧
              ∀ other, FirstRepeated (entries.map Entry.id) other ↔ other = id) ∧
          ((entries.map Entry.id).Nodup →
            ∃ catalog, ofText text = .ok catalog ∧
              (∀ entry ∈ entries, ∃ endpoint,
                catalog.get entry.id = .ok endpoint ∧ entry.Becomes endpoint) ∧
              ∀ id ∉ entries.map Entry.id, catalog.get id = .error (.unknownEndpoint id))) := by
  refine ⟨fun flaw flawed => ?_, fun entries read => ?_⟩
  · rw [ofText, flawed]
    rfl
  rw [ofText_of_readText_eq_ok read]
  cases checked : entries.mapM Entry.endpoint with
  | error error =>
      have first (other : Error) : FirstFaulty entries other ↔ other = error := by
        rw [← mapM_endpoint_eq_error_iff, checked, Except.error.injEq, eq_comm]
      refine ⟨fun _ => ⟨error, rfl, first⟩, fun sound => ?_⟩
      obtain ⟨before, entry, after, rfl, _, faulty⟩ := (first error).2 rfl
      exact absurd faulty (sound entry (by simp) error)
  | ok endpoints =>
      have made := mapM_endpoint_eq_ok_iff.1 checked
      rw [← ids_of_becomes made]
      refine ⟨?_, fun _ => ⟨fun repeats => ?_, fun distinct => ?_⟩⟩
      · rintro ⟨entry, member, error, faulty⟩
        obtain ⟨endpoint, _, becomes⟩ := exists_related_of_mem made member
        exact absurd faulty (Entry.exists_becomes_iff.1 ⟨endpoint, becomes⟩ error)
      · obtain ⟨id, repeated⟩ := exists_repeatedId repeats
        refine ⟨id, ofList_of_repeated repeated, fun other => ?_⟩
        rw [firstRepeated_iff, repeated, Option.some.injEq, eq_comm]
      · refine ⟨⟨endpoints, distinct⟩, ofList_eq_ok_iff.2 rfl, fun entry member => ?_,
          fun id unknown => get_of_not_mem unknown⟩
        obtain ⟨endpoint, there, becomes⟩ := exists_related_of_mem made member
        exact ⟨endpoint, becomes.id ▸ get_of_mem there, becomes⟩

def plainEntry : Entry :=
  ⟨"a", .get, "", some "/", none, none, none⟩

def badEntry : Entry :=
  ⟨"b", .get, "", some "\x7b", none, some false, some (.bool true)⟩

def unclosed : String :=
  "[\x7b\"id\":\"a\",\"method\":\"GET\"\x7d"

def plainText : String :=
  "\x7b\"id\":\"a\",\"method\":\"GET\",\"url\":\"/\"\x7d"

def twins : String :=
  "[" ++ plainText ++ "," ++ plainText ++ "]"

/-- A text with one entry twice and the bad one behind. -/
def crowded : String :=
  "[" ++ plainText ++ "," ++ plainText ++
    ",\x7b\"id\":\"b\",\"method\":\"GET\",\"url\":\"\x7b\",\"has_body\":false,\"body\":true\x7d]"

set_option maxRecDepth 4000 in
/-- A broken text, a bad entry behind a repeated one, a repeated entry, and an entry by itself. -/
theorem ofText_reports_first_each :
    (readText unclosed = .error ⟨.syntactic .listEnds, 1, 26⟩ ∧
        ofText unclosed = .error (.malformedCatalog ⟨.syntactic .listEnds, 1, 26⟩)) ∧
      (readText crowded = .ok [plainEntry, plainEntry, badEntry] ∧
        ofText crowded = .error (.invalidTemplate "\x7b" (.unbalancedBrace "\x7b"))) ∧
      (readText twins = .ok [plainEntry, plainEntry] ∧
        ofText twins = .error (.duplicateEndpoint "a")) ∧
      readText ("[" ++ plainText ++ "]") = .ok [plainEntry] ∧
        ∃ catalog endpoint, ofText ("[" ++ plainText ++ "]") = .ok catalog ∧
          catalog.get "a" = .ok endpoint ∧ plainEntry.Becomes endpoint ∧
            catalog.get "b" = .error (.unknownEndpoint "b") := by
  have plain : ∀ error, ¬plainEntry.Faulty error :=
    Entry.exists_becomes_iff.1 ⟨⟨"a", .get, "", [.literal "/"], .absent⟩, rfl, rfl, rfl,
      .template rfl rfl (by decide +kernel), .absent rfl nofun⟩
  refine ⟨?_, ?_, ?_, ?_⟩
  · have flawed : readText unclosed = .error ⟨.syntactic .listEnds, 1, 26⟩ := by cbv
    exact ⟨flawed, (ofText_reports_first unclosed).1 _ flawed⟩
  · have read : readText crowded = .ok [plainEntry, plainEntry, badEntry] := by cbv
    have bad : Template.parse "\x7b" = .error (.unbalancedBrace "\x7b") := by decide +kernel
    have faulty : badEntry.Faulty (.invalidTemplate "\x7b" (.unbalancedBrace "\x7b")) :=
      .template rfl rfl bad
    obtain ⟨error, reported, first⟩ :=
      ((ofText_reports_first crowded).2 _ read).1 ⟨badEntry, by simp, _, faulty⟩
    obtain rfl := (first _).1 ⟨[plainEntry, plainEntry], badEntry, [], rfl, by simp [plain], faulty⟩
    exact ⟨read, reported⟩
  · have read : readText twins = .ok [plainEntry, plainEntry] := by cbv
    obtain ⟨id, reported, first⟩ :=
      (((ofText_reports_first twins).2 _ read).2 (by simp [plain])).1 (by simp)
    obtain rfl := (first "a").1 ⟨["a"], [], rfl, by simp, by simp⟩
    exact ⟨read, reported⟩
  · have read : readText ("[" ++ plainText ++ "]") = .ok [plainEntry] := by cbv
    obtain ⟨catalog, loaded, known, unknown⟩ :=
      (((ofText_reports_first ("[" ++ plainText ++ "]")).2 _ read).2 (by simp [plain])).2 (by simp)
    obtain ⟨endpoint, found, becomes⟩ := known plainEntry (by simp)
    exact ⟨read, catalog, endpoint, loaded, found, becomes, unknown "b" (by simp [plainEntry])⟩

end ApiConsole.Catalog
