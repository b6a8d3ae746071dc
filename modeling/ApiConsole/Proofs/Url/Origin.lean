import ApiConsole.Proofs.Url.Edges

/-!
# Where a URL points to

The scheme, the host and the port of a URL of the web hang on what stands in front of its path
alone. So a text that is a URL of the web still points to the same place when a slash and anything
else is written behind it, unless blanks that did not count at its end now stand in its authority;
then it is no URL.
-/

namespace ApiConsole.Url

def webScheme (secure : Bool) : String :=
  if secure then "https" else "http"

def origin (url : Url) : String × Host × Option Nat :=
  (url.scheme, url.host, url.port)

def isOfAuthority (c : Char) : Bool :=
  !isSlash c && !endsPath c

def authorityIn (cs : List Char) : List Char :=
  (cs.dropWhile isSlash).takeWhile isOfAuthority

/-- The authority decides where a URL points to, and whether it is one. -/
theorem map_origin_readWeb (secure : Bool) (cs : List Char) :
    (readWeb secure cs).map origin =
      (Authority.ofText (authorityIn cs)).hostAndPort.map fun named =>
        (webScheme secure, named.1,
          if named.2 = some (defaultPort secure) then none else named.2) := by
  simp only [readWeb, List.span_eq_takeWhile_dropWhile]
  change _ = Except.map _ (Authority.ofText
    ((cs.dropWhile isSlash).takeWhile fun c => !isSlash c && !endsPath c)).hostAndPort
  cases (Authority.ofText
    ((cs.dropWhile isSlash).takeWhile fun c => !isSlash c && !endsPath c)).hostAndPort <;> rfl

/-- A scheme starts with a letter and ends at the first colon. -/
theorem cutScheme?_eq_some_iff {cs scheme rest : List Char} :
    cutScheme? cs = some (scheme, rest) ↔
      ∃ written, cs = written ++ ':' :: rest ∧ (∀ c ∈ written, isSchemeCharacter c = true) ∧
        written.head?.any Char.isAlpha ∧ written.map Char.toLower = scheme := by
  rw [cutScheme?, List.span_eq_takeWhile_dropWhile]
  constructor
  · intro cut
    split at cut
    · next first more behind parts =>
      obtain ⟨front, back⟩ := Prod.mk.inj parts
      obtain ⟨alpha, same⟩ := Option.ite_none_right_eq_some.mp cut
      obtain ⟨rfl, rfl⟩ := Prod.mk.inj (Option.some.inj same)
      refine ⟨first :: more, ?_, ?_, by simpa using alpha, rfl⟩
      · rw [← front, ← back, List.takeWhile_append_dropWhile]
      · intro c member
        rw [← front] at member
        exact List.mem_takeWhile_imp member
    · cases cut
  · rintro ⟨written, rfl, all, alpha, rfl⟩
    obtain ⟨first, more, rfl⟩ : ∃ first more, written = first :: more := by
      cases written with
      | nil => cases alpha
      | cons first more => exact ⟨first, more, rfl⟩
    have colon : isSchemeCharacter ':' = false := by decide
    rw [List.takeWhile_append_of_pos all, List.dropWhile_append_of_pos all]
    simpa [colon] using alpha

/-- A scheme is cut off whatever stands behind. -/
theorem cutScheme?_append {cs scheme rest : List Char} (cut : cutScheme? cs = some (scheme, rest))
    (more : List Char) : cutScheme? (cs ++ more) = some (scheme, rest ++ more) := by
  obtain ⟨written, rfl, facts⟩ := cutScheme?_eq_some_iff.mp cut
  exact cutScheme?_eq_some_iff.mpr ⟨written, by simp, facts⟩

/-- What stands at the end of a text without a colon is not part of its scheme. -/
theorem exists_rest_of_cutScheme?_append {cs more scheme rest : List Char} (plain : ':' ∉ more)
    (cut : cutScheme? (cs ++ more) = some (scheme, rest)) :
    ∃ own, cutScheme? cs = some (scheme, own) ∧ rest = own ++ more := by
  obtain ⟨written, parts, facts⟩ := cutScheme?_eq_some_iff.mp cut
  rcases List.append_eq_append_iff.mp parts with ⟨shared, _, behind⟩ | ⟨shared, front, behind⟩
  · have colon : ':' ∈ more := by simp [behind]
    exact absurd colon plain
  · cases shared with
    | nil =>
        have colon : ':' ∈ more := (show ':' :: rest = more from behind) ▸ List.mem_cons_self
        exact absurd colon plain
    | cons c own =>
        obtain ⟨rfl, rfl⟩ := List.cons.inj behind
        exact ⟨own, cutScheme?_eq_some_iff.mpr ⟨written, front, facts⟩, rfl⟩

/-- A text whose scheme is of the web is read as a URL of the web. -/
theorem ofText_of_cutScheme {text : String} {secure : Bool} {rest : List Char}
    (cut : cutScheme? (cleaned text.toList) = some ((webScheme secure).toList, rest)) :
    ofText text = (readWeb secure rest).map .web := by
  rw [ofText, cut]
  cases secure <;> simp [webScheme]

theorem exists_cutScheme_of_ofText {text : String} {url : Url} (read : ofText text = .ok (.web url)) :
    ∃ secure rest, cutScheme? (cleaned text.toList) = some ((webScheme secure).toList, rest) ∧
      readWeb secure rest = .ok url := by
  unfold ofText at read
  split at read
  · cases read
  · next scheme rest cut =>
    dsimp only at read
    split at read
    · next plain =>
      obtain ⟨found, here, same⟩ := map_eq_ok_iff.mp read
      cases same
      refine ⟨false, rest, ?_, here⟩
      rw [cut, ← String.toList_ofList (l := scheme), plain]
      rfl
    · split at read
      · next secure =>
        obtain ⟨found, here, same⟩ := map_eq_ok_iff.mp read
        cases same
        refine ⟨true, rest, ?_, here⟩
        rw [cut, ← String.toList_ofList (l := scheme), secure]
        rfl
      · obtain ⟨_, _, same⟩ := map_eq_ok_iff.mp read
        cases same

/-- The front part of a text as it counts when something stands behind it. -/
def settled (cs : List Char) : List Char :=
  (cs.dropWhile isEdge).filter fun c => !isBreak c

/-- What does not count at the end of a text, but does when something stands behind it: blanks and
controls other than tabs and line ends. -/
def looseEnd (cs : List Char) : List Char :=
  (cs.reverse.takeWhile isEdge).reverse.filter fun c => !isBreak c

/-- A slash is kept where blanks are taken off the end. -/
theorem exists_trimmed_slash (more : List Char) :
    ∃ front, (more.reverse ++ ['/']).dropWhile isEdge = front ++ ['/'] := by
  rw [List.dropWhile_append]
  split
  · exact ⟨[], rfl⟩
  · exact ⟨_, rfl⟩

/-- A text that starts with a slash has no scheme. -/
theorem ofText_slash {text : String} {more : List Char} (start : text.toList = '/' :: more) :
    ofText text = .error .noBase := by
  obtain ⟨front, ends⟩ := exists_trimmed_slash more
  have slash : ('/' :: more).dropWhile isEdge = '/' :: more := rfl
  have kept : cleaned text.toList = '/' :: front.reverse.filter fun c => !isBreak c := by
    rw [start, cleaned, slash, List.reverse_cons, ends, List.reverse_append]
    rfl
  rw [ofText, kept]
  rfl

section

variable {cs : List Char} (visible : ∃ c ∈ cs, isEdge c = false)
include visible

theorem dropWhile_isEdge_append (more : List Char) :
    (cs ++ more).dropWhile isEdge = cs.dropWhile isEdge ++ more := by
  obtain ⟨c, member, inner⟩ := visible
  rw [List.dropWhile_append, if_neg]
  intro empty
  have all := List.dropWhile_eq_nil_iff.mp (List.isEmpty_iff.mp empty)
  rw [all c member] at inner
  cases inner

theorem takeWhile_isEdge_append (more : List Char) :
    (cs ++ more).takeWhile isEdge = cs.takeWhile isEdge := by
  obtain ⟨c, member, inner⟩ := visible
  rw [List.takeWhile_append, if_neg]
  intro full
  have all := List.takeWhile_eq_self_iff.mp ((List.takeWhile_prefix isEdge).eq_of_length full)
  rw [all c member] at inner
  cases inner

/-- The end of a text does not count on its own, and counts as far as it is no break otherwise. -/
theorem settled_eq : settled cs = cleaned cs ++ looseEnd cs := by
  let kept := cs.dropWhile isEdge
  have parts : cs.takeWhile isEdge ++ kept = cs := List.takeWhile_append_dropWhile
  have shown : ∃ c ∈ kept.reverse, isEdge c = false := by
    obtain ⟨c, member, inner⟩ := visible
    refine ⟨c, List.mem_reverse.mpr ?_, inner⟩
    rw [← parts] at member
    refine (List.mem_append.mp member).resolve_left fun front => ?_
    rw [List.mem_takeWhile_imp front] at inner
    cases inner
  have same : cs.reverse.takeWhile isEdge = kept.reverse.takeWhile isEdge := by
    conv_lhs => rw [← parts, List.reverse_append]
    exact takeWhile_isEdge_append shown _
  have halves : (kept.reverse.dropWhile isEdge).reverse ++ (kept.reverse.takeWhile isEdge).reverse =
      kept := by
    rw [← List.reverse_append, List.takeWhile_append_dropWhile, List.reverse_reverse]
  rw [looseEnd, same]
  change List.filter _ kept = List.filter _ (kept.reverse.dropWhile isEdge).reverse ++ _
  rw [← List.filter_append, halves]

theorem settled_append {more : List Char} (whole : ∀ c ∈ more, isBreak c = false) :
    settled (cs ++ more) = settled cs ++ more := by
  have all : more.filter (fun c => !isBreak c) = more :=
    List.filter_eq_self.mpr fun c member => by rw [whole c member]; rfl
  rw [settled, dropWhile_isEdge_append visible, List.filter_append, all]
  rfl

/-- Where a slash stands behind a text, all of its end counts. -/
theorem exists_cleaned_append_slash (more : List Char) :
    ∃ behind, cleaned (cs ++ '/' :: more) = settled cs ++ '/' :: behind := by
  obtain ⟨front, ends⟩ := exists_trimmed_slash more
  have slash : ∃ c ∈ more.reverse ++ ['/'], isEdge c = false := ⟨'/', by simp, rfl⟩
  refine ⟨front.reverse.filter fun c => !isBreak c, ?_⟩
  simp only [cleaned, dropWhile_isEdge_append visible, List.reverse_append, List.reverse_cons,
    dropWhile_isEdge_append slash, ends, List.reverse_reverse, List.filter_append, settled,
    List.reverse_nil, List.nil_append, List.cons_append]
  rfl

end

section

variable {own more : List Char}

/-- What does not belong to an authority ends it. -/
theorem authorityIn_append (present : own.dropWhile isSlash ≠ [])
    (ends : ∀ c ∈ more.head?, isOfAuthority c = false) :
    authorityIn (own ++ more) = authorityIn own := by
  have stops : more.takeWhile isOfAuthority = [] := by
    cases more with
    | nil => rfl
    | cons c rest => simp [ends c rfl]
  rw [authorityIn, List.dropWhile_append, if_neg (by simpa using present), List.takeWhile_append, stops]
  split
  · next full =>
    rw [List.append_nil]
    exact ((List.takeWhile_prefix _).eq_of_length full).symm
  · rfl

/-- Behind an authority that has ended nothing is added to it. -/
theorem authorityIn_append_of_ended
    (ended : (own.dropWhile isSlash).all isOfAuthority = false) :
    authorityIn (own ++ more) = authorityIn own := by
  have present : own.dropWhile isSlash ≠ [] := fun none => by simp [none] at ended
  rw [authorityIn, List.dropWhile_append, if_neg (by simpa using present), List.takeWhile_append, if_neg]
  · rfl
  · intro full
    have all := List.takeWhile_eq_self_iff.mp ((List.takeWhile_prefix _).eq_of_length full)
    rw [List.all_eq_true.mpr all] at ended
    cases ended

/-- An authority that has not ended goes on. -/
theorem authorityIn_append_of_open (present : own.dropWhile isSlash ≠ [])
    (unended : (own.dropWhile isSlash).all isOfAuthority = true)
    (inside : ∀ c ∈ more, isOfAuthority c = true) :
    authorityIn (own ++ more) = authorityIn own ++ more := by
  have all := List.all_eq_true.mp unended
  rw [authorityIn, List.dropWhile_append, if_neg (by simpa using present),
    List.takeWhile_append_of_pos all, List.takeWhile_eq_self_iff.mpr inside, authorityIn,
    List.takeWhile_eq_self_iff.mpr all]

theorem dropWhile_ne_nil_of_authorityIn (present : authorityIn own ≠ []) :
    own.dropWhile isSlash ≠ [] := fun none => present (by rw [authorityIn, none]; rfl)

/-- Slashes at the end of a text may be followed by anything else. -/
theorem authorityIn_slash (present : authorityIn (own ++ more) ≠ []) (slashes : ∀ c ∈ more, c = '/')
    (behind : List Char) : authorityIn (own ++ '/' :: behind) = authorityIn (own ++ more) := by
  have front : own.dropWhile isSlash ≠ [] := by
    intro none
    refine dropWhile_ne_nil_of_authorityIn present (List.dropWhile_eq_nil_iff.mpr fun c member => ?_)
    rcases List.mem_append.mp member with inside | outside
    · exact List.dropWhile_eq_nil_iff.mp none c inside
    · rw [slashes c outside]
      rfl
  rw [authorityIn_append front fun c slash => ?_, authorityIn_append front fun c slash => ?_]
  · rw [slashes c (List.mem_of_mem_head? slash)]
    rfl
  · obtain rfl : '/' = c := Option.some.inj slash
    rfl

end

end ApiConsole.Url
