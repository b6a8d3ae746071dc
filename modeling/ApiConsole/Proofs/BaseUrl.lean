import ApiConsole.Proofs.Url.Origin
import ApiConsole.Transport.Network

/-!
# Requests behind a base URL

A base URL is checked as a URL but kept as a text.  A request behind it points to the same scheme,
host and port, except where the text ends with its authority and blanks or controls that did not
count: behind such a base URL no request is a URL at all.  In no case does it point elsewhere.
-/

namespace ApiConsole

namespace Url

def endsWithAuthority (text : String) : Bool :=
  match cutScheme? (cleaned text.toList) with
  | some (_, rest) => (rest.dropWhile isSlash).all isOfAuthority
  | none => false

/-- A text whose end counts as part of its authority once something is written behind it. -/
def HasLooseEnd (text : String) : Prop :=
  looseEnd text.toList ≠ [] ∧ endsWithAuthority text = true

theorem isEdge_of_mem_looseEnd {cs : List Char} {c : Char} (member : c ∈ looseEnd cs) :
    isEdge c = true :=
  List.mem_takeWhile_imp (List.mem_reverse.mp (List.mem_filter.mp member).1)

theorem isOfAuthority_of_isEdge {c : Char} (edge : isEdge c = true) : isOfAuthority c = true := by
  have apart (d : Char) (inner : isEdge d = false) : c ≠ d := ne_of_isEdge edge inner
  simp [isOfAuthority, isSlash, endsPath, apart '/' rfl, apart '\\' rfl, apart '?' rfl,
    apart '#' rfl]

theorem mem_of_mem_cleaned {cs : List Char} {c : Char} (member : c ∈ cleaned cs) : c ∈ cs := by
  have inside := List.mem_reverse.mp (List.mem_filter.mp member).1
  have front := (List.dropWhile_suffix _).mem inside
  exact (List.dropWhile_suffix _).mem (List.mem_reverse.mp front)

/-- A URL of the web points to where its authority says. -/
theorem exists_named_of_readWeb {secure : Bool} {rest : List Char} {url : Url}
    (read : readWeb secure rest = .ok url) :
    ∃ host port, (Authority.ofText (authorityIn rest)).hostAndPort = .ok (host, port) ∧
      authorityIn rest ≠ [] := by
  have pointed := map_origin_readWeb secure rest
  rw [read] at pointed
  obtain ⟨⟨host, port⟩, named, _⟩ := map_eq_ok_iff.mp pointed.symm
  refine ⟨host, port, named, fun none => ?_⟩
  rw [none] at named
  cases named

/-- What is read behind the same scheme points to the same place if the authority is the same. -/
theorem exists_readWeb_of_authorityIn_eq {secure : Bool} {rest other : List Char} {url : Url}
    (read : readWeb secure rest = .ok url) (same : authorityIn other = authorityIn rest) :
    ∃ found, readWeb secure other = .ok found ∧ found.origin = url.origin := by
  have pointed := map_origin_readWeb secure other
  rw [same, ← map_origin_readWeb, read] at pointed
  exact map_eq_ok_iff.mp pointed

/-- What is read behind a scheme is no URL if its authority names nothing. -/
theorem readWeb_eq_error {secure : Bool} {rest : List Char} {fault : Fault}
    (nameless : (Authority.ofText (authorityIn rest)).hostAndPort = .error fault) :
    readWeb secure rest = .error fault := by
  have pointed := map_origin_readWeb secure rest
  rw [nameless] at pointed
  cases read : readWeb secure rest with
  | error other =>
      rw [read] at pointed
      cases pointed
      rfl
  | ok url =>
      rw [read] at pointed
      cases pointed

variable {text longer : String} {front slashes more : List Char} {url : Url}

/-- Where a slash takes the place of those at the end of a URL of the web, its authority is what it
is with its whole end. -/
theorem exists_longer_of_slash (read : ofText text = .ok (.web url))
    (parts : text.toList = front ++ slashes) (all : ∀ c ∈ slashes, c = '/')
    (written : longer.toList = front ++ '/' :: more) :
    ∃ secure rest own,
      cutScheme? (cleaned text.toList) = some ((webScheme secure).toList, rest) ∧
      readWeb secure rest = .ok url ∧
      ofText longer = (readWeb secure own).map .web ∧
      (authorityIn (rest ++ looseEnd text.toList) ≠ [] →
        authorityIn own = authorityIn (rest ++ looseEnd text.toList)) := by
  obtain ⟨secure, rest, cut, here⟩ := exists_cutScheme_of_ofText read
  have absent : ':' ∉ slashes := fun member => absurd (all ':' member) (by decide)
  have visible : ∃ c ∈ front, isEdge c = false := by
    obtain ⟨scheme, shape, _⟩ := cutScheme?_eq_some_iff.mp cut
    have colon : ':' ∈ text.toList := mem_of_mem_cleaned (by simp [shape])
    rw [parts, List.mem_append] at colon
    exact ⟨':', colon.resolve_right absent, rfl⟩
  have shown : ∃ c ∈ text.toList, isEdge c = false := by
    obtain ⟨c, member, inner⟩ := visible
    exact ⟨c, parts ▸ List.mem_append_left slashes member, inner⟩
  have whole : settled front ++ slashes = cleaned text.toList ++ looseEnd text.toList := by
    rw [← settled_eq shown, parts, settled_append visible]
    intro c member
    rw [all c member]
    rfl
  obtain ⟨own, cutFront, ends⟩ := exists_rest_of_cutScheme?_append absent
    (whole ▸ cutScheme?_append cut (looseEnd text.toList))
  obtain ⟨behind, cleanedLonger⟩ := exists_cleaned_append_slash visible more
  refine ⟨secure, rest, own ++ '/' :: behind, cut, here, ?_, ?_⟩
  · apply ofText_of_cutScheme
    rw [written, cleanedLonger]
    exact cutScheme?_append cutFront _
  · intro present
    rw [ends] at present ⊢
    exact authorityIn_slash present all behind

/-- Behind a text with a loose end nothing is a URL, and behind any other all points to its
place. -/
theorem ofText_longer (read : ofText text = .ok (.web url))
    (parts : text.toList = front ++ slashes) (all : ∀ c ∈ slashes, c = '/')
    (written : longer.toList = front ++ '/' :: more) :
    (HasLooseEnd text → ∃ fault, ofText longer = .error fault) ∧
    (¬HasLooseEnd text →
      ∃ resolved, ofText longer = .ok (.web resolved) ∧ resolved.origin = url.origin) := by
  obtain ⟨secure, rest, own, cut, here, found, authority⟩ :=
    exists_longer_of_slash read parts all written
  obtain ⟨host, port, named, present⟩ := exists_named_of_readWeb here
  have given := dropWhile_ne_nil_of_authorityIn present
  have ends : endsWithAuthority text = (rest.dropWhile isSlash).all isOfAuthority := by
    rw [endsWithAuthority, cut]
  constructor
  · rintro ⟨loose, unended⟩
    have joined : authorityIn (rest ++ looseEnd text.toList) =
        authorityIn rest ++ looseEnd text.toList :=
      authorityIn_append_of_open given (ends ▸ unended) fun c member =>
        isOfAuthority_of_isEdge (isEdge_of_mem_looseEnd member)
    have whole : '\\' ∉ authorityIn rest := fun member => by
      have inside := List.mem_takeWhile_imp member
      cases inside
    obtain ⟨fault, nameless⟩ := Authority.hostAndPort_append_edges named whole
      (fun c member => isEdge_of_mem_looseEnd member) loose
    rw [← joined, ← authority (by simp [joined, present])] at nameless
    exact ⟨fault, by rw [found, readWeb_eq_error nameless]; rfl⟩
  · intro tight
    have same : authorityIn (rest ++ looseEnd text.toList) = authorityIn rest := by
      by_cases loose : looseEnd text.toList = []
      · rw [loose, List.append_nil]
      · refine authorityIn_append_of_ended (Bool.eq_false_iff.mpr fun unended => ?_)
        exact tight ⟨loose, ends ▸ unended⟩
    obtain ⟨resolved, read, points⟩ :=
      exists_readWeb_of_authorityIn_eq here ((authority (same ▸ present)).trans same)
    exact ⟨resolved, by rw [found, read]; rfl, points⟩

end Url

namespace BaseUrl

theorem ofText_eq_ok {text : String} {base : BaseUrl} (accepted : ofText text = .ok base) :
    base.given = text ∧ Url.ofText text = .ok (.web base.url) := by
  have given := given_of_ofText accepted
  exact ⟨given, given ▸ base.ofText_given⟩

/-- A base URL is written in front of what starts with a slash. -/
theorem resolve_of_slash (base : BaseUrl) {url : String} {more : List Char}
    (relative : url.toList = '/' :: more) : base.resolve url = base.text ++ url := by
  rw [resolve, Url.ofText_slash relative]

/-- Only slashes are taken off the end of a base URL. -/
theorem exists_slashes (cs : List Char) :
    ∃ slashes, cs = dropSlashes cs ++ slashes ∧ ∀ c ∈ slashes, c = '/' := by
  refine ⟨(cs.reverse.takeWhile (· == '/')).reverse, ?_, fun c member => ?_⟩
  · rw [dropSlashes, ← List.reverse_append, List.takeWhile_append_dropWhile, List.reverse_reverse]
  · exact beq_iff_eq.mp (List.mem_takeWhile_imp (p := (· == '/')) (List.mem_reverse.mp member))

/--
A request that starts with a slash goes to the scheme, the host and the port of an accepted base URL
exactly if the base URL has no loose end.  Whatever follows the slash, the request never goes
elsewhere: it goes there or it is no URL.
-/
theorem resolve_sameOrigin_iff {text : String} {base : BaseUrl}
    (accepted : ofText text = .ok base) {url : String} (relative : url.toList.head? = some '/') :
    ((∃ resolved, Url.ofText (base.resolve url) = .ok (.web resolved) ∧
        resolved.origin = base.url.origin) ↔ ¬Url.HasLooseEnd text) ∧
    ∀ location, Url.ofText (base.resolve url) = .ok location →
      ∃ resolved, location = .web resolved ∧ resolved.origin = base.url.origin := by
  obtain ⟨given, read⟩ := ofText_eq_ok accepted
  obtain ⟨more, start⟩ := List.head?_eq_some_iff.mp relative
  obtain ⟨slashes, parts, all⟩ := exists_slashes text.toList
  have written : (base.resolve url).toList = dropSlashes text.toList ++ '/' :: more := by
    rw [base.resolve_of_slash start, String.toList_append, start, BaseUrl.text, given,
      String.toList_ofList]
  obtain ⟨loose, tight⟩ := Url.ofText_longer read parts all written
  constructor
  · constructor
    · rintro ⟨resolved, found, _⟩ ends
      obtain ⟨fault, refused⟩ := loose ends
      cases refused.symm.trans found
    · exact tight
  · intro location found
    by_cases ends : Url.HasLooseEnd text
    · obtain ⟨fault, refused⟩ := loose ends
      cases refused.symm.trans found
    · obtain ⟨resolved, read, points⟩ := tight ends
      exact ⟨resolved, Except.ok.inj (found.symm.trans read), points⟩

/-- A base URL with a blank in front, credentials, a port and slashes at its end. -/
def lenient : BaseUrl :=
  ⟨" http://u@h:81//", ⟨false, ['u'], [], .domain ['h'], some 81, [[], []], none, none⟩, rfl⟩

theorem resolve_sameOrigin_iff_lenient :
    ofText " http://u@h:81//" = .ok lenient ∧
      ∃ resolved, Url.ofText (lenient.resolve "/@other:82") = .ok (.web resolved) ∧
        resolved.origin = ("http", .domain ['h'], some 81) := by
  have accepted : ofText " http://u@h:81//" = .ok lenient := rfl
  have tight : ¬Url.HasLooseEnd " http://u@h:81//" := fun loose => loose.1 rfl
  exact ⟨accepted, (resolve_sameOrigin_iff accepted rfl).1.mpr tight⟩

def blankEnded : BaseUrl :=
  ⟨"http://h:81 ", ⟨false, [], [], .domain ['h'], some 81, [[]], none, none⟩, rfl⟩

theorem resolve_blankEnded :
    ofText "http://h:81 " = .ok blankEnded ∧
      Url.ofText (blankEnded.resolve "/connection") = .error .invalidPort :=
  ⟨rfl, rfl⟩

end BaseUrl

end ApiConsole
