import ApiConsole.Transport
import Mathlib.Algebra.Order.BigOperators.Group.List
import Mathlib.Algebra.Order.Group.Nat

/-!
# What a request depends on

A request depends on the session values whose names its endpoint holds, and on nothing else of the
session.  It also shows each of them: where two sessions differ under one name only, an endpoint
that holds the name makes different requests of them, however often the value stands in the URL and
whatever stands around it.
-/

namespace ApiConsole

/-- Two sessions agree on every value but that under a name. -/
def Session.AgreeBut (name : String) (first second : Session) : Prop :=
  ∀ other, other ≠ name → second.valueOrEmpty other = first.valueOrEmpty other

theorem Session.agreeBut_set (session : Session) (name value : String) :
    session.AgreeBut name (session.set name value) := by
  intro other differs
  rw [valueOrEmpty_set, if_neg differs]

theorem Session.AgreeBut.symm {name : String} {first second : Session}
    (agree : first.AgreeBut name second) : second.AgreeBut name first :=
  fun other differs => (agree other differs).symm

theorem Session.AgreeBut.trans {name : String} {first second third : Session}
    (agree : first.AgreeBut name second) (further : second.AgreeBut name third) :
    first.AgreeBut name third :=
  fun other differs => (further other differs).trans (agree other differs)

namespace UrlPart

/-- Parts of equal lengths have equal texts where the texts of the whole are equal. -/
theorem fill_eq_of_join_eq {first second : Session} (parts : List UrlPart)
    (lengths : ∀ part ∈ parts, (part.fill second).length = (part.fill first).length)
    (whole : String.join (parts.map (fill second)) = String.join (parts.map (fill first))) :
    ∀ part ∈ parts, part.fill second = part.fill first := by
  induction parts with
  | nil => intro part member; cases member
  | cons part rest ih =>
      rw [List.map_cons, List.map_cons, String.join_cons, String.join_cons] at whole
      have characters := congrArg String.toList whole
      rw [String.toList_append, String.toList_append] at characters
      have own : (part.fill second).toList.length = (part.fill first).toList.length :=
        lengths part (List.mem_cons_self ..)
      obtain ⟨head, tail⟩ := List.append_inj characters own
      have others := ih (fun part member => lengths part (List.mem_cons_of_mem _ member))
        (String.toList_inj.mp tail)
      intro other member
      rcases List.mem_cons.mp member with here | there
      · rw [here]
        exact String.toList_inj.mp head
      · exact others other there

/-- A longer value under a name makes a longer URL of parts that hold the name. -/
theorem length_join_lt {first second : Session} {name : String} {length : Option Nat}
    (parts : List UrlPart) (agree : first.AgreeBut name second)
    (longer : (first.valueOrEmpty name).length < (second.valueOrEmpty name).length)
    (held : .placeholder name length ∈ parts) :
    (String.join (parts.map (fill first))).length <
      (String.join (parts.map (fill second))).length := by
  rw [String.length_join, String.length_join, List.map_map, List.map_map]
  refine List.sum_lt_sum _ _ ?_ ⟨_, held, longer⟩
  intro part member
  cases part with
  | literal text => exact Nat.le_refl _
  | placeholder other width =>
      by_cases same : other = name
      · rw [same]
        exact Nat.le_of_lt longer
      · exact Nat.le_of_eq (congrArg String.length (agree other same).symm)

end UrlPart

/-- The names that an endpoint holds are those of the placeholders in its URL. -/
theorem Endpoint.mem_placeholders {endpoint : Endpoint} {name : String} :
    name ∈ endpoint.placeholders ↔ ∃ length, .placeholder name length ∈ endpoint.url := by
  rw [placeholders, List.mem_filterMap]
  constructor
  · rintro ⟨part, member, named⟩
    cases part with
    | literal text => cases named
    | placeholder other length =>
        cases named
        exact ⟨length, member⟩
  · rintro ⟨length, member⟩
    exact ⟨_, member, rfl⟩

namespace Request

/-- A request depends on no value but those under the names that the endpoint holds. -/
theorem compose_eq_of_agree {endpoint : Endpoint} {first second : Session}
    (agree : ∀ name ∈ endpoint.placeholders,
      second.valueOrEmpty name = first.valueOrEmpty name) :
    compose endpoint second = compose endpoint first := by
  have filled : endpoint.url.map (UrlPart.fill second) =
      endpoint.url.map (UrlPart.fill first) := by
    refine List.map_congr_left fun part member => ?_
    cases part with
    | literal text => rfl
    | placeholder name length =>
        exact agree name (Endpoint.mem_placeholders.mpr ⟨length, member⟩)
  rw [compose, compose, filled]

/-- The URL shows the value under each name that the endpoint holds. -/
theorem valueOrEmpty_eq_of_compose_eq {endpoint : Endpoint} {first second : Session}
    {name : String} (agree : first.AgreeBut name second)
    (same : compose endpoint second = compose endpoint first)
    (held : name ∈ endpoint.placeholders) :
    second.valueOrEmpty name = first.valueOrEmpty name := by
  have url : String.join (endpoint.url.map (UrlPart.fill second)) =
      String.join (endpoint.url.map (UrlPart.fill first)) := congrArg Request.url same
  obtain ⟨length, member⟩ := Endpoint.mem_placeholders.mp held
  have notShorter := fun shorter =>
    Nat.lt_irrefl _ (url ▸ UrlPart.length_join_lt endpoint.url agree.symm shorter member)
  have notLonger := fun longer =>
    Nat.lt_irrefl _ (url ▸ UrlPart.length_join_lt endpoint.url agree longer member)
  have lengths : (second.valueOrEmpty name).length = (first.valueOrEmpty name).length :=
    Nat.le_antisymm (Nat.le_of_not_lt notLonger) (Nat.le_of_not_lt notShorter)
  refine UrlPart.fill_eq_of_join_eq endpoint.url ?_ url (.placeholder name length) member
  intro part _
  cases part with
  | literal text => rfl
  | placeholder other width =>
      by_cases same : other = name
      · rw [same]
        exact lengths
      · exact congrArg String.length (agree other same)

/--
Where two sessions agree on every value but one, an endpoint makes the same request of them exactly
if it does not hold the name or the values under it are equal too.
-/
theorem compose_eq_iff (endpoint : Endpoint) {first second : Session} {name : String}
    (agree : first.AgreeBut name second) :
    compose endpoint second = compose endpoint first ↔
      (name ∈ endpoint.placeholders →
        second.valueOrEmpty name = first.valueOrEmpty name) := by
  constructor
  · exact valueOrEmpty_eq_of_compose_eq agree
  · intro shown
    refine compose_eq_of_agree fun other held => ?_
    by_cases same : other = name
    · rw [same] at held ⊢
      exact shown held
    · exact agree other same

/--
The placeholders of an endpoint name exactly what its requests depend on: they are the same for
sessions that agree under these names, and another value under a name makes another request exactly
if the name is among them.  No session changes anything but the URL.
-/
theorem compose_depends_on_placeholders (endpoint : Endpoint) :
    (∀ first second : Session,
      (∀ name ∈ endpoint.placeholders,
        second.valueOrEmpty name = first.valueOrEmpty name) →
      compose endpoint second = compose endpoint first) ∧
    (∀ (session : Session) (name value other : String), value ≠ other →
      (compose endpoint (session.set name value) = compose endpoint (session.set name other) ↔
        name ∉ endpoint.placeholders)) ∧
    ∀ first second : Session,
      (compose endpoint second).method = (compose endpoint first).method ∧
        (compose endpoint second).headers = (compose endpoint first).headers ∧
        (compose endpoint second).body = (compose endpoint first).body := by
  refine ⟨fun first second => compose_eq_of_agree, ?_, fun first second => ⟨rfl, rfl, rfl⟩⟩
  intro session name value other differ
  have agree : (session.set name other).AgreeBut name (session.set name value) :=
    (session.agreeBut_set name other).symm.trans (session.agreeBut_set name value)
  have values : (session.set name value).valueOrEmpty name =
      (session.set name other).valueOrEmpty name ↔ value = other := by
    rw [Session.valueOrEmpty_set, Session.valueOrEmpty_set, if_pos rfl, if_pos rfl]
  rw [compose_eq_iff endpoint agree, values]
  exact imp_iff_not differ

/-- An endpoint whose URL shows one value twice, with another value between. -/
def twice : Endpoint :=
  ⟨"twice", .get, "", [.placeholder "a" none, .placeholder "b" none, .placeholder "a" none],
    .absent⟩

/-- A missing value is like an empty one, and only the values of the URL can be told from it. -/
theorem compose_depends_on_placeholders_twice :
    (∀ name ∈ twice.placeholders, (Session.ofList [("a", "/"), ("c", "x")]).valueOrEmpty name =
      (Session.ofList [("a", "/"), ("b", "")]).valueOrEmpty name) ∧
    compose twice (.ofList [("a", "/"), ("c", "x")]) =
      compose twice (.ofList [("a", "/"), ("b", "")]) ∧
    compose twice (Session.default.set "a" "/") ≠ compose twice (Session.default.set "a" "//") ∧
    compose twice (Session.default.set "c" "/") = compose twice (Session.default.set "c" "//") := by
  obtain ⟨agreeing, telling, _⟩ := compose_depends_on_placeholders twice
  have agree : ∀ name ∈ twice.placeholders,
      (Session.ofList [("a", "/"), ("c", "x")]).valueOrEmpty name =
        (Session.ofList [("a", "/"), ("b", "")]).valueOrEmpty name := by
    decide +kernel
  have differ : "/" ≠ "//" := by decide
  refine ⟨agree, agreeing _ _ agree, fun same => ?_, ?_⟩
  · exact (telling Session.default "a" "/" "//" differ).mp same (by decide +kernel)
  · exact (telling Session.default "c" "/" "//" differ).mpr (by decide +kernel)

end Request

end ApiConsole
