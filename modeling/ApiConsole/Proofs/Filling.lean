import ApiConsole.Proofs.Composition
import ApiConsole.Proofs.Template

/-!
# What a template is filled to

The URL that is composed from the parts of a template is the template itself with each name between
braces replaced by its value, in one pass from the left.  The pass goes on behind the group and
never comes to what it has put there, so a value may hold braces and names like any other text.
-/

namespace ApiConsole

namespace Template

/--
A text with each name between braces replaced by its value, from outside of braces (`none`) or
behind an opening brace and what has been read of the name since (`some`).
-/
def filledFrom (value : String → String) : Option (List Char) → List Char → List Char
  | _, [] => []
  | none, c :: rest =>
      if c = '\x7b' then filledFrom value (some []) rest else c :: filledFrom value none rest
  | some name, c :: rest =>
      if c = '\x7d' then (value (String.ofList name)).toList ++ filledFrom value none rest
      else filledFrom value (some (name ++ [c])) rest

def filled (value : String → String) (template : String) : String :=
  String.ofList (filledFrom value none template.toList)

variable {value : String → String} {parts : List UrlPart}

theorem filledFrom_gap {gap : List Char} (free : BraceFree gap) (rest : List Char) :
    filledFrom value none (gap ++ rest) = gap ++ filledFrom value none rest := by
  induction gap with
  | nil => rfl
  | cons c gap ih =>
      obtain ⟨here, there⟩ := List.forall_mem_cons.mp free
      rw [List.cons_append, filledFrom, if_neg here.1, ih there, List.cons_append]

theorem filledFrom_name {name : List Char} (free : BraceFree name) (front rest : List Char) :
    filledFrom value (some front) (name ++ '\x7d' :: rest) =
      (value (String.ofList (front ++ name))).toList ++ filledFrom value none rest := by
  induction name generalizing front with
  | nil => rw [List.nil_append, filledFrom, if_pos rfl, List.append_nil]
  | cons c name ih =>
      obtain ⟨here, there⟩ := List.forall_mem_cons.mp free
      rw [List.cons_append, filledFrom, if_neg here.2, ih there, List.append_assoc,
        List.singleton_append]

theorem filledFrom_written (session : Session) (normal : Normal parts) :
    filledFrom session.valueOrEmpty none (written parts) =
      (String.join (parts.map (UrlPart.fill session))).toList := by
  induction parts with
  | nil => rfl
  | cons part parts ih =>
      rw [List.map_cons, String.join_cons, String.toList_append, ← ih normal.tail]
      cases part with
      | literal text =>
          have free := (normal.literals text List.mem_cons_self).2
          rw [written_cons, UrlPart.written, filledFrom_gap free, UrlPart.fill]
      | placeholder name width =>
          obtain ⟨named, rfl⟩ := normal.placeholders name width List.mem_cons_self
          rw [← String.ofList_toList (s := name), written_placeholder, filledFrom, if_pos rfl,
            filledFrom_name named.braceFree, List.nil_append, UrlPart.fill]

/-- The parts of a template are normal and make it up. -/
theorem normal_of_parse {template : String} (parsed : parse template = .ok parts) :
    Normal parts ∧ written parts = template.toList := by
  have normal := normal_partsOf parsed
  rwa [joined_cut] at normal

/-- What normal parts are written as is their texts, joined. -/
theorem toList_join_written (parts : List UrlPart) :
    (String.join (parts.map UrlPart.written)).toList = written parts := by
  rw [String.toList_join, List.flatMap_map, written]

end Template

/-- A setting under each of some names leaves there what it was made of. -/
theorem Session.get?_foldl_marks (mark : String → String) (names : List String)
    (session : Session) (name : String) :
    ((names.map fun name => (name, mark name)).foldl
        (fun session setting => session.set setting.1 setting.2) session).get? name =
      if name ∈ names then some (mark name) else session.get? name := by
  induction names generalizing session with
  | nil => rfl
  | cons first names ih =>
      rw [List.map_cons, List.foldl_cons, ih, get?_set]
      by_cases same : name = first
      · subst same
        simp
      · simp [same]

namespace Request

variable {endpoint : Endpoint} {session : Session}

/-- What the parts of an endpoint are filled to where the values under its names are known. -/
theorem map_fill_eq {mark : String → String} (shape : UrlPart → String)
    (literal : ∀ text, shape (.literal text) = text)
    (placeholder : ∀ name width, shape (.placeholder name width) = mark name)
    (held : ∀ name ∈ endpoint.placeholders, session.get? name = some (mark name)) :
    endpoint.url.map (UrlPart.fill session) = endpoint.url.map shape := by
  refine List.map_congr_left fun part member => ?_
  cases part with
  | literal text => exact (literal text).symm
  | placeholder name width =>
      rw [UrlPart.fill, Session.valueOrEmpty,
        held name (Endpoint.mem_placeholders.mpr ⟨width, member⟩), placeholder]
      rfl

/--
The URL that is composed from the parts of a template is the template, filled with the session
values in one pass.  So values that stand for their own names in braces give the template back, and
values that are their own names in square brackets give the shape of the URL; and such sessions
exist.
-/
theorem compose_url_eq_filled {template : String}
    (parsed : Template.parse template = .ok endpoint.url) :
    (∀ session, (compose endpoint session).url =
        Template.filled session.valueOrEmpty template) ∧
      (∀ session : Session, (∀ name ∈ endpoint.placeholders,
          session.get? name = some ("\x7b" ++ name ++ "\x7d")) →
        (compose endpoint session).url = template) ∧
      (∀ session : Session, (∀ name ∈ endpoint.placeholders,
          session.get? name = some ("[" ++ name ++ "]")) →
        endpoint.urlShape = (compose endpoint session).url) ∧
      ∀ mark : String → String, ∃ session : Session, ∀ name ∈ endpoint.placeholders,
        session.get? name = some (mark name) := by
  obtain ⟨normal, whole⟩ := Template.normal_of_parse parsed
  refine ⟨fun session => ?_, fun session held => ?_, fun session held => ?_, fun mark => ?_⟩
  · rw [Template.filled, ← whole, Template.filledFrom_written session normal,
      String.ofList_toList, compose]
  · have written : (String.join (endpoint.url.map UrlPart.written)).toList = template.toList :=
      (Template.toList_join_written _).trans whole
    rw [compose, map_fill_eq UrlPart.written (fun _ => rfl) (fun _ _ => rfl) held]
    exact String.toList_inj.mp written
  · rw [Endpoint.urlShape, compose]
    exact congrArg String.join (map_fill_eq _ (fun _ => rfl) (fun _ _ => rfl) held).symm
  · refine ⟨.ofList (endpoint.placeholders.map fun name => (name, mark name)), fun name member => ?_⟩
    rw [Session.ofList, Session.get?_foldl_marks, if_pos member]

def pair : Endpoint :=
  ⟨"pair", .get, "", [.literal "/", .placeholder "a" none, .literal "/", .placeholder "b" none],
    .absent⟩

/-- Values that are each other's placeholders are not filled in again. -/
theorem compose_url_eq_filled_crossing :
    Template.parse "/\x7ba\x7d/\x7bb\x7d" = .ok pair.url ∧
      (compose pair (.ofList [("a", "\x7bb\x7d"), ("b", "\x7d\x7ba\x7d")])).url =
        "/\x7bb\x7d/\x7d\x7ba\x7d" ∧
      (∃ session, (compose pair session).url = "/\x7ba\x7d/\x7bb\x7d") ∧
      ∃ session, (compose pair session).url = "/[a]/[b]" := by
  have parsed : Template.parse "/\x7ba\x7d/\x7bb\x7d" = .ok pair.url := by decide +kernel
  obtain ⟨fills, back, shaped, exist⟩ := compose_url_eq_filled parsed
  refine ⟨parsed, (fills _).trans (by decide +kernel), ?_, ?_⟩
  · obtain ⟨session, held⟩ := exist fun name => "\x7b" ++ name ++ "\x7d"
    exact ⟨session, back session held⟩
  · obtain ⟨session, held⟩ := exist fun name => "[" ++ name ++ "]"
    exact ⟨session, (shaped session held).symm⟩

end Request

end ApiConsole
