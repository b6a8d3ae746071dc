import ApiConsole.Proofs.Except
import ApiConsole.Proofs.Template

/-!
# Why a text is no template

The groups of a text are all its pairs of braces without a brace between them.  They never overlap,
so there is one list of them from left to right, with a gap before each and one behind the last.
The first group that is at fault decides what is reported: its name if that is invalid, and else the
gap before it.  The gap behind the last group is reported only where no group is at fault.
-/

namespace ApiConsole.Template

/-- A pair of braces stands in a text, with no brace between them. -/
structure GroupAt (cs before inside behind : List Char) : Prop where
  whole : before ++ '\x7b' :: (inside ++ '\x7d' :: behind) = cs
  free : BraceFree inside

/-- A list of groups has one between what the groups and gaps before and behind it make up. -/
def Listed (groups : List (List Char × List Char)) (tail before inside behind : List Char) : Prop :=
  ∃ earlier gap later, groups = earlier ++ (gap, inside) :: later ∧
    before = joined earlier gap ∧ behind = joined later tail

/-- Groups, each with the gap before it, and the gap behind the last make up a text, and no other
group stands in it. -/
structure GroupsOf (cs : List Char) (groups : List (List Char × List Char)) (tail : List Char) :
    Prop where
  whole : joined groups tail = cs
  all : ∀ before inside behind,
    GroupAt cs before inside behind ↔ Listed groups tail before inside behind

/-- Between the braces of a group stands a name, and no brace in the gap before them. -/
structure Sound (group : List Char × List Char) : Prop where
  gap : BraceFree group.1
  name : Name group.2

/-- What is reported of groups and the gap behind the last of them. -/
inductive Reported (groups : List (List Char × List Char)) (tail : List Char) : Fault → Prop where
  /-- The first group at fault has an invalid name, whatever the gap before it is. -/
  | name {earlier later : List (List Char × List Char)} {gap name : List Char}
      (place : groups = earlier ++ (gap, name) :: later) (first : ∀ group ∈ earlier, Sound group)
      (invalid : ¬Name name) : Reported groups tail (.invalidName (String.ofList name))
  /-- The first group at fault has a name, and a brace stands in the gap before it. -/
  | gap {earlier later : List (List Char × List Char)} {gap name : List Char}
      (place : groups = earlier ++ (gap, name) :: later) (first : ∀ group ∈ earlier, Sound group)
      (valid : Name name) (braced : ¬BraceFree gap) :
      Reported groups tail (.unbalancedBrace (String.ofList gap))
  /-- No group is at fault. -/
  | tail (all : ∀ group ∈ groups, Sound group) (braced : ¬BraceFree tail) :
      Reported groups tail (.unbalancedBrace (String.ofList tail))

/-! ### The first group -/

theorem closing?_eq_some_iff {cs inside behind : List Char} :
    closing? cs = some (inside, behind) ↔
      inside ++ '\x7d' :: behind = cs ∧ BraceFree inside := by
  constructor
  · intro found
    refine ⟨(closing?_eq_some found).symm, ?_⟩
    unfold closing? at found
    split at found
    · next rest closes =>
      cases found
      intro c member
      have unbraced := List.mem_takeWhile_imp member
      exact (isBrace_eq_false_iff c).mp (by simpa using unbraced)
    · cases found
  · rintro ⟨rfl, free⟩
    exact closing?_append free behind

/-- A group starts with the first character of a text, or stands behind it. -/
theorem groupAt_cons_iff {c : Char} {rest before inside behind : List Char} :
    GroupAt (c :: rest) before inside behind ↔
      (before = [] ∧ c = '\x7b' ∧ closing? rest = some (inside, behind)) ∨
        ∃ between, before = c :: between ∧ GroupAt rest between inside behind := by
  rw [closing?_eq_some_iff]
  constructor
  · rintro ⟨whole, free⟩
    cases before with
    | nil =>
        obtain ⟨opens, closes⟩ := List.cons.inj whole
        exact .inl ⟨rfl, opens.symm, closes, free⟩
    | cons d between =>
        obtain ⟨rfl, further⟩ := List.cons.inj whole
        exact .inr ⟨between, rfl, further, free⟩
  · rintro (⟨rfl, rfl, closes, free⟩ | ⟨between, rfl, further, free⟩)
    · exact ⟨congrArg ('\x7b' :: ·) closes, free⟩
    · exact ⟨congrArg (c :: ·) further, free⟩

theorem not_groupAt_nil {before inside behind : List Char} : ¬GroupAt [] before inside behind :=
  fun group => by simpa using group.whole

/-- No group starts inside another one. -/
theorem groupAt_closed_iff {closed rest before inside behind : List Char}
    (free : BraceFree closed) :
    GroupAt (closed ++ '\x7d' :: rest) before inside behind ↔
      ∃ between, before = closed ++ '\x7d' :: between ∧ GroupAt rest between inside behind := by
  induction closed generalizing before with
  | nil => simp [groupAt_cons_iff]
  | cons c closed ih =>
      have opens : c ≠ '\x7b' := (free c (List.mem_cons_self ..)).1
      have others : BraceFree closed := fun d member => free d (List.mem_cons_of_mem _ member)
      simp only [List.cons_append, groupAt_cons_iff, opens, ih others, false_and, and_false,
        false_or]
      constructor
      · rintro ⟨_, rfl, between, rfl, group⟩
        exact ⟨between, rfl, group⟩
      · rintro ⟨between, rfl, group⟩
        exact ⟨_, rfl, between, rfl, group⟩

theorem not_groupAt_of_nextGroup? {cs before inside behind : List Char}
    (none : nextGroup? cs = none) : ¬GroupAt cs before inside behind := by
  induction cs generalizing before with
  | nil => exact not_groupAt_nil
  | cons c rest ih =>
      unfold nextGroup? at none
      split at none
      · cases none
      · next unclosed =>
        rw [groupAt_cons_iff]
        rintro (⟨_, opens, closes⟩ | ⟨between, _, group⟩)
        · rw [if_pos opens, closes] at unclosed
          cases unclosed
        · exact ih (Option.map_eq_none_iff.mp none) group

/-- The next group is the first of a text, and all others stand behind it. -/
theorem groupAt_iff_of_nextGroup? {cs gap name rest before inside behind : List Char}
    (found : nextGroup? cs = some (gap, name, rest)) :
    GroupAt cs before inside behind ↔
      (before = gap ∧ inside = name ∧ behind = rest) ∨
        ∃ between, before = gap ++ '\x7b' :: (name ++ '\x7d' :: between) ∧
          GroupAt rest between inside behind := by
  induction cs generalizing gap before with
  | nil => cases found
  | cons c cs ih =>
      rw [groupAt_cons_iff]
      unfold nextGroup? at found
      split at found
      · next closes =>
        cases found
        split at closes
        · next opens =>
          obtain ⟨rfl, free⟩ := closing?_eq_some_iff.mp closes
          simp only [groupAt_closed_iff free, closes, opens, true_and, Option.some.injEq,
            Prod.mk.injEq]
          grind
        · cases closes
      · next unclosed =>
        obtain ⟨⟨before', group⟩, later, same⟩ := Option.map_eq_some_iff.mp found
        cases same
        have apart : ¬(c = '\x7b' ∧ closing? cs = some (inside, behind)) := by
          rintro ⟨opens, closes⟩
          rw [if_pos opens, closes] at unclosed
          cases unclosed
        simp only [apart, and_false, false_or, ih later]
        grind

/-! ### All groups -/

theorem not_listed_nil {tail before inside behind : List Char} :
    ¬Listed [] tail before inside behind := by
  rintro ⟨earlier, gap, later, place, _⟩
  simp at place

/-- The first of a list of groups stands behind its own gap, and all others behind it. -/
theorem listed_cons_iff {groups : List (List Char × List Char)}
    {gap name tail before inside behind : List Char} :
    Listed ((gap, name) :: groups) tail before inside behind ↔
      (before = gap ∧ inside = name ∧ behind = joined groups tail) ∨
        ∃ between, before = gap ++ '\x7b' :: (name ++ '\x7d' :: between) ∧
          Listed groups tail between inside behind := by
  constructor
  · rintro ⟨earlier, before', later, place, rfl, rfl⟩
    cases earlier with
    | nil =>
        cases place
        exact .inl ⟨rfl, rfl, rfl⟩
    | cons group earlier =>
        obtain ⟨rfl, others⟩ := List.cons.inj place
        exact .inr ⟨joined earlier before', rfl, earlier, before', later, others, rfl, rfl⟩
  · rintro (⟨rfl, rfl, rfl⟩ | ⟨between, rfl, earlier, before', later, rfl, rfl, rfl⟩)
    · exact ⟨[], before, groups, rfl, rfl, rfl⟩
    · exact ⟨(gap, name) :: earlier, before', later, rfl, rfl, rfl⟩

namespace GroupsOf

variable {cs gap name rest tail : List Char} {groups : List (List Char × List Char)}

theorem groupAt_first (of : GroupsOf cs ((gap, name) :: groups) tail) :
    GroupAt cs gap name (joined groups tail) :=
  (of.all ..).mpr (listed_cons_iff.mpr (.inl ⟨rfl, rfl, rfl⟩))

theorem iff_of_none (none : nextGroup? cs = none) :
    GroupsOf cs groups tail ↔ groups = [] ∧ tail = cs := by
  have without {before inside behind : List Char} : ¬GroupAt cs before inside behind :=
    not_groupAt_of_nextGroup? none
  constructor
  · intro of
    cases groups with
    | nil => exact ⟨rfl, of.whole⟩
    | cons group later => exact absurd of.groupAt_first without
  · rintro ⟨rfl, rfl⟩
    exact ⟨rfl, fun before inside behind => iff_of_false without not_listed_nil⟩

/-- The groups of a text are its next one and those of what stands behind that. -/
theorem cons_iff (found : nextGroup? cs = some (gap, name, rest)) :
    GroupsOf cs ((gap, name) :: groups) tail ↔ GroupsOf rest groups tail := by
  have parts := nextGroup?_eq_some found
  constructor
  · intro of
    refine ⟨?_, fun before inside behind => ?_⟩
    · simpa [joined] using of.whole.trans parts
    · have further := of.all (gap ++ '\x7b' :: (name ++ '\x7d' :: before)) inside behind
      rw [groupAt_iff_of_nextGroup? found, listed_cons_iff] at further
      simpa using further
  · intro of
    refine ⟨?_, fun before inside behind => ?_⟩
    · rw [parts, ← of.whole]
      rfl
    · rw [groupAt_iff_of_nextGroup? found, listed_cons_iff, of.whole]
      simp only [of.all]

/-- The groups behind the next one of a text begin with it. -/
theorem exists_cons (found : nextGroup? cs = some (gap, name, rest))
    (of : GroupsOf cs groups tail) : ∃ later, groups = (gap, name) :: later := by
  have next : GroupAt cs gap name rest :=
    (groupAt_iff_of_nextGroup? found).mpr (.inl ⟨rfl, rfl, rfl⟩)
  have listed := (of.all ..).mp next
  cases groups with
  | nil => exact absurd listed not_listed_nil
  | cons group later =>
      obtain ⟨before, inside⟩ := group
      have first := (groupAt_iff_of_nextGroup? found).mp of.groupAt_first
      rcases first with ⟨rfl, rfl, _⟩ | ⟨_, long, _⟩
      · exact ⟨later, rfl⟩
      · rcases listed_cons_iff.mp listed with ⟨rfl, rfl, _⟩ | ⟨_, longer, _⟩
        · exact ⟨later, rfl⟩
        · -- Neither of the two gaps can be longer than the other.
          have one := congrArg List.length long
          have other := congrArg List.length longer
          simp only [List.length_append, List.length_cons] at one other
          omega

end GroupsOf

/-- Cutting a text finds all its groups. -/
theorem groupsOf_cut (cs : List Char) : GroupsOf cs (cut cs).1 (cut cs).2 := by
  induction cs using cut.induct with
  | case1 cs none =>
      rw [cut_of_none none]
      exact (GroupsOf.iff_of_none none).mpr ⟨rfl, rfl⟩
  | case2 cs gap inside behind found groups tail cutting ih =>
      rw [cut_of_some found]
      exact (GroupsOf.cons_iff found).mpr ih

/-- A text has one list of groups. -/
theorem GroupsOf.eq_cut {cs tail : List Char} {groups : List (List Char × List Char)}
    (of : GroupsOf cs groups tail) : groups = (cut cs).1 ∧ tail = (cut cs).2 := by
  induction cs using cut.induct generalizing groups with
  | case1 cs none =>
      rw [cut_of_none none]
      exact (iff_of_none none).mp of
  | case2 cs gap inside behind found others last cutting ih =>
      obtain ⟨later, rfl⟩ := of.exists_cons found
      obtain ⟨same, ends⟩ := ih ((cons_iff found).mp of)
      rw [cut_of_some found]
      exact ⟨congrArg ((gap, inside) :: ·) same, ends⟩

/-! ### What is reported -/

theorem gapPart_eq_error_iff {gap : List Char} {fault : Fault} :
    gapPart gap = .error fault ↔
      ¬BraceFree gap ∧ fault = .unbalancedBrace (String.ofList gap) := by
  rw [← any_isBrace_eq_false_iff, gapPart]
  cases gap.any isBrace with
  | true => simp [eq_comm]
  | false => cases gap.isEmpty <;> simp

theorem exists_gapPart_eq_ok_iff {gap : List Char} :
    (∃ parts, gapPart gap = .ok parts) ↔ BraceFree gap := by
  rw [← any_isBrace_eq_false_iff, gapPart]
  cases gap.any isBrace with
  | true => simp
  | false => cases gap.isEmpty <;> simp

/-- A first group reports its name, then its gap, and then what those behind it report. -/
theorem partsOf_cons_eq_error_iff {gap name tail : List Char}
    {groups : List (List Char × List Char)} {fault : Fault} :
    partsOf ((gap, name) :: groups) tail = .error fault ↔
      (¬Name name ∧ fault = .invalidName (String.ofList name)) ∨
        (Name name ∧ ¬BraceFree gap ∧ fault = .unbalancedBrace (String.ofList gap)) ∨
          (Sound (gap, name) ∧ partsOf groups tail = .error fault) := by
  rw [partsOf, ← isName_iff]
  cases named : isName name with
  | false =>
      have unsound : ¬Sound (gap, name) := fun sound => by
        rw [(isName_iff name).mpr sound.name] at named
        cases named
      simp [throw, throwThe, MonadExceptOf.throw, bind, Except.bind, unsound, eq_comm]
  | true =>
      have sound_iff : Sound (gap, name) ↔ BraceFree gap :=
        ⟨Sound.gap, fun free => ⟨free, (isName_iff name).mp named⟩⟩
      rw [sound_iff, ← gapPart_eq_error_iff, ← exists_gapPart_eq_ok_iff]
      cases gapPart gap <;> cases partsOf groups tail <;>
        simp [pure, Except.pure, bind, Except.bind]

theorem reported_cons_iff {gap name tail : List Char} {groups : List (List Char × List Char)}
    {fault : Fault} :
    Reported ((gap, name) :: groups) tail fault ↔
      (¬Name name ∧ fault = .invalidName (String.ofList name)) ∨
        (Name name ∧ ¬BraceFree gap ∧ fault = .unbalancedBrace (String.ofList gap)) ∨
          (Sound (gap, name) ∧ Reported groups tail fault) := by
  constructor
  · intro reported
    cases reported with
    | @name earlier later _ _ place first invalid =>
        cases earlier with
        | nil =>
            cases place
            exact .inl ⟨invalid, rfl⟩
        | cons group earlier =>
            obtain ⟨rfl, others⟩ := List.cons.inj place
            obtain ⟨sound, first⟩ := List.forall_mem_cons.mp first
            exact .inr (.inr ⟨sound, .name others first invalid⟩)
    | @gap earlier later _ _ place first valid braced =>
        cases earlier with
        | nil =>
            cases place
            exact .inr (.inl ⟨valid, braced, rfl⟩)
        | cons group earlier =>
            obtain ⟨rfl, others⟩ := List.cons.inj place
            obtain ⟨sound, first⟩ := List.forall_mem_cons.mp first
            exact .inr (.inr ⟨sound, .gap others first valid braced⟩)
    | tail all braced =>
        obtain ⟨sound, others⟩ := List.forall_mem_cons.mp all
        exact .inr (.inr ⟨sound, .tail others braced⟩)
  · rintro (⟨invalid, rfl⟩ | ⟨valid, braced, rfl⟩ | ⟨sound, reported⟩)
    · exact .name (List.nil_append _).symm (by simp) invalid
    · exact .gap (List.nil_append _).symm (by simp) valid braced
    · cases reported with
      | name place first invalid =>
          exact .name (congrArg (_ :: ·) place) (List.forall_mem_cons.mpr ⟨sound, first⟩) invalid
      | gap place first valid braced =>
          exact .gap (congrArg (_ :: ·) place) (List.forall_mem_cons.mpr ⟨sound, first⟩) valid
            braced
      | tail all braced => exact .tail (List.forall_mem_cons.mpr ⟨sound, all⟩) braced

theorem partsOf_eq_error_iff {groups : List (List Char × List Char)} {tail : List Char}
    {fault : Fault} : partsOf groups tail = .error fault ↔ Reported groups tail fault := by
  induction groups with
  | nil =>
      rw [partsOf, gapPart_eq_error_iff]
      constructor
      · rintro ⟨braced, rfl⟩
        exact .tail (by simp) braced
      · intro reported
        cases reported with
        | name place => simp at place
        | gap place => simp at place
        | tail all braced => exact ⟨braced, rfl⟩
  | cons group groups ih => rw [partsOf_cons_eq_error_iff, reported_cons_iff, ih]

/--
A text has one list of groups, and it is refused as a template exactly with what is reported of
these: the fault of the first group that has one, its name before its gap, or else that of the gap
behind them all.
-/
theorem parse_reports_first (template : String) :
    ∃ groups tail, GroupsOf template.toList groups tail ∧
      (∀ others last, GroupsOf template.toList others last → others = groups ∧ last = tail) ∧
      ∀ fault, parse template = .error fault ↔ Reported groups tail fault :=
  ⟨_, _, groupsOf_cut template.toList, fun _ _ of => of.eq_cut, fun _ => partsOf_eq_error_iff⟩

/-- The name is at fault and the gaps on either side of it are; only the name is reported. -/
example : parse "/\x7d\x7b1\x7d\x7b" = .error (.invalidName "1") := by
  cbv

end ApiConsole.Template
