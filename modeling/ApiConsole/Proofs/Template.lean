import ApiConsole.Endpoint.Template
import Mathlib

/-!
# What a template is

A text is a template exactly if it is put together from text without braces and groups, each a name
between braces.  Its parts are then the one way to write it down in which no literal is empty and no
two literals meet, so reading a template and writing its parts down undo one another.
-/

namespace ApiConsole

def UrlPart.written : UrlPart → String
  | .literal text => text
  | .placeholder name _ => "\x7b" ++ name ++ "\x7d"

def UrlPart.IsLiteral : UrlPart → Prop
  | .literal _ => True
  | .placeholder _ _ => False

namespace Template

def NameStart (c : Char) : Prop :=
  ('a' ≤ c ∧ c ≤ 'z') ∨ ('A' ≤ c ∧ c ≤ 'Z') ∨ c = '_'

instance (c : Char) : Decidable (NameStart c) :=
  inferInstanceAs (Decidable (_ ∨ _))

/-- A letter or an underscore, followed by any number of these and of digits. -/
def Name (name : List Char) : Prop :=
  ∃ first rest, name = first :: rest ∧ NameStart first ∧
    ∀ c ∈ rest, NameStart c ∨ ('0' ≤ c ∧ c ≤ '9')

def BraceFree (cs : List Char) : Prop :=
  ∀ c ∈ cs, c ≠ '\x7b' ∧ c ≠ '\x7d'

/-- Text without braces and names between braces, in any order. -/
inductive Grammar : List Char → Prop where
  | empty : Grammar []
  | text {gap rest : List Char} (free : BraceFree gap) (more : Grammar rest) :
      Grammar (gap ++ rest)
  | group {name rest : List Char} (named : Name name) (more : Grammar rest) :
      Grammar ('\x7b' :: (name ++ '\x7d' :: rest))

/-- Parts as a template gives them: no literal could be left out or joined with the next one. -/
structure Normal (parts : List UrlPart) : Prop where
  literals : ∀ text, .literal text ∈ parts → text ≠ "" ∧ BraceFree text.toList
  placeholders : ∀ name width, .placeholder name width ∈ parts → Name name.toList ∧ width = none
  apart : parts.IsChain fun first second => ¬(first.IsLiteral ∧ second.IsLiteral)

def written (parts : List UrlPart) : List Char :=
  parts.flatMap fun part => part.written.toList

/-! ### Characters -/

theorem startsName_iff (c : Char) : startsName c = true ↔ NameStart c := by
  simp only [startsName, NameStart, Char.isAlpha, Char.isUpper, Char.isLower, Bool.or_eq_true,
    Bool.and_eq_true, decide_eq_true_eq, beq_iff_eq, Char.le_def, ge_iff_le]
  grind

theorem isName_iff (name : List Char) : isName name = true ↔ Name name := by
  have digit (c : Char) : c.isDigit = true ↔ '0' ≤ c ∧ c ≤ '9' := by
    simp only [Char.isDigit, Bool.and_eq_true, decide_eq_true_eq, Char.le_def, ge_iff_le]
  cases name with
  | nil => simp [isName, Name]
  | cons first rest =>
      simp [isName, Name, startsName_iff, digit]

theorem isBrace_eq_false_iff (c : Char) : isBrace c = false ↔ c ≠ '\x7b' ∧ c ≠ '\x7d' := by
  simp [isBrace]

theorem any_isBrace_eq_false_iff (cs : List Char) : cs.any isBrace = false ↔ BraceFree cs := by
  simp only [List.any_eq_false, BraceFree, Bool.not_eq_true, isBrace_eq_false_iff]

/-- No brace is a letter, a digit or an underscore. -/
theorem Name.braceFree {name : List Char} (named : Name name) : BraceFree name := by
  obtain ⟨first, rest, rfl, starts, goesOn⟩ := named
  have apart (c : Char) (fits : NameStart c ∨ ('0' ≤ c ∧ c ≤ '9')) : c ≠ '\x7b' ∧ c ≠ '\x7d' := by
    constructor
    · rintro rfl
      revert fits
      decide
    · rintro rfl
      revert fits
      decide
  intro c member
  rcases List.mem_cons.mp member with rfl | member
  · exact apart c (.inl starts)
  · exact apart c (goesOn c member)

/-! ### Normal parts -/

theorem written_cons (part : UrlPart) (parts : List UrlPart) :
    written (part :: parts) = part.written.toList ++ written parts := by
  simp [written]

theorem written_placeholder (name : List Char) (parts : List UrlPart) :
    written (.placeholder (String.ofList name) none :: parts) =
      '\x7b' :: (name ++ '\x7d' :: written parts) := by
  simp [written, UrlPart.written]

namespace Normal

theorem nil : Normal [] where
  literals _ member := by cases member
  placeholders _ _ member := by cases member
  apart := .nil

theorem tail {part : UrlPart} {parts : List UrlPart} (normal : Normal (part :: parts)) :
    Normal parts where
  literals text member := normal.literals text (List.mem_cons_of_mem _ member)
  placeholders name width member := normal.placeholders name width (List.mem_cons_of_mem _ member)
  apart := (List.isChain_cons.mp normal.apart).2

theorem placeholder_cons {name : List Char} {parts : List UrlPart} (named : Name name)
    (normal : Normal parts) : Normal (.placeholder (String.ofList name) none :: parts) where
  literals text member := by
    rcases List.mem_cons.mp member with same | member
    · cases same
    · exact normal.literals text member
  placeholders other width member := by
    rcases List.mem_cons.mp member with same | member
    · cases same
      exact ⟨String.toList_ofList ▸ named, rfl⟩
    · exact normal.placeholders other width member
  apart := List.isChain_cons.mpr ⟨fun _ _ both => both.1, normal.apart⟩

theorem literal_cons {gap : List Char} {parts : List UrlPart} (nonempty : gap ≠ [])
    (free : BraceFree gap) (normal : Normal parts)
    (apart : ∀ part ∈ parts.head?, ¬part.IsLiteral) :
    Normal (.literal (String.ofList gap) :: parts) where
  literals text member := by
    rcases List.mem_cons.mp member with same | member
    · cases same
      refine ⟨fun empty => nonempty ?_, String.toList_ofList ▸ free⟩
      simpa using congrArg String.toList empty
    · exact normal.literals text member
  placeholders name width member := by
    rcases List.mem_cons.mp member with same | member
    · cases same
    · exact normal.placeholders name width member
  apart := List.isChain_cons.mpr ⟨fun part member both => apart part member both.2, normal.apart⟩

end Normal

/-! ### Reading gives normal parts -/

def joined (groups : List (List Char × List Char)) (tail : List Char) : List Char :=
  groups.foldr (fun (gap, name) rest => gap ++ '\x7b' :: (name ++ '\x7d' :: rest)) tail

theorem cut_of_none {cs : List Char} (none : nextGroup? cs = none) : cut cs = ([], cs) := by
  rw [cut]
  split
  · rfl
  · next found => cases none.symm.trans found

theorem cut_of_some {cs gap inside behind : List Char}
    (found : nextGroup? cs = some (gap, inside, behind)) :
    cut cs = ((gap, inside) :: (cut behind).1, (cut behind).2) := by
  rw [cut]
  split
  · next none => cases none.symm.trans found
  · next other =>
    cases found.symm.trans other
    rfl

/-- Nothing of a text is lost in cutting it. -/
theorem joined_cut (cs : List Char) : joined (cut cs).1 (cut cs).2 = cs := by
  induction cs using cut.induct with
  | case1 cs none =>
      rw [cut_of_none none]
      rfl
  | case2 cs gap inside behind found groups tail cutting ih =>
      rw [cut_of_some found, joined, List.foldr_cons, nextGroup?_eq_some found]
      exact congrArg (fun rest => gap ++ '\x7b' :: (inside ++ '\x7d' :: rest)) ih

/-- A gap gives a literal unless it is empty. -/
theorem gapPart_eq_ok {gap : List Char} {parts : List UrlPart} (read : gapPart gap = .ok parts) :
    BraceFree gap ∧
      (gap = [] ∧ parts = [] ∨ gap ≠ [] ∧ parts = [.literal (String.ofList gap)]) := by
  unfold gapPart at read
  split at read
  · cases read
  · next unbraced =>
    refine ⟨(any_isBrace_eq_false_iff gap).mp (Bool.eq_false_iff.mpr unbraced), ?_⟩
    split at read
    · next empty =>
      cases read
      exact .inl ⟨List.isEmpty_iff.mp empty, rfl⟩
    · next nonempty =>
      cases read
      exact .inr ⟨fun empty => nonempty (List.isEmpty_iff.mpr empty), rfl⟩

theorem gapPart_of_braceFree {gap : List Char} (nonempty : gap ≠ []) (free : BraceFree gap) :
    gapPart gap = .ok [.literal (String.ofList gap)] := by
  rw [gapPart, (any_isBrace_eq_false_iff gap).mpr free]
  simp [nonempty]

/-- A gap before parts that do not start with a literal. -/
theorem normal_gap {gap : List Char} {literal parts : List UrlPart}
    (read : gapPart gap = .ok literal) (normal : Normal parts)
    (apart : ∀ part ∈ parts.head?, ¬part.IsLiteral) :
    Normal (literal ++ parts) ∧ written (literal ++ parts) = gap ++ written parts := by
  obtain ⟨free, ⟨rfl, rfl⟩ | ⟨nonempty, rfl⟩⟩ := gapPart_eq_ok read
  · exact ⟨normal, rfl⟩
  · refine ⟨.literal_cons nonempty free normal apart, ?_⟩
    rw [List.singleton_append, written_cons, UrlPart.written, String.toList_ofList]

/-- All that the parts of a first group and of what follows it consist of. -/
theorem partsOf_cons_eq_ok_iff {gap name : List Char} {groups : List (List Char × List Char)}
    {tail : List Char} {parts : List UrlPart} :
    partsOf ((gap, name) :: groups) tail = .ok parts ↔
      isName name = true ∧ ∃ literal rest, gapPart gap = .ok literal ∧
        partsOf groups tail = .ok rest ∧
        parts = literal ++ .placeholder (String.ofList name) none :: rest := by
  rw [partsOf]
  cases isName name with
  | false => simp [throw, throwThe, MonadExceptOf.throw, bind, Except.bind]
  | true =>
      cases gapPart gap with
      | error fault => simp [bind, Except.bind]
      | ok literal =>
          cases partsOf groups tail with
          | error fault => simp [bind, Except.bind]
          | ok rest => simp [pure, Except.pure, bind, Except.bind, eq_comm]

theorem normal_partsOf {groups : List (List Char × List Char)} {tail : List Char}
    {parts : List UrlPart} (read : partsOf groups tail = .ok parts) :
    Normal parts ∧ written parts = joined groups tail := by
  induction groups generalizing parts with
  | nil =>
      have last := normal_gap read .nil (fun part member => by cases member)
      simpa [written, joined] using last
  | cons group groups ih =>
      obtain ⟨gap, name⟩ := group
      obtain ⟨named, literal, rest, own, others, rfl⟩ := partsOf_cons_eq_ok_iff.mp read
      obtain ⟨normal, same⟩ := ih others
      have grouped := normal.placeholder_cons ((isName_iff name).mp named)
      have whole := normal_gap own grouped (by simp [UrlPart.IsLiteral])
      rw [written_placeholder, same] at whole
      exact whole

/-! ### Normal parts are read back -/

theorem isBrace_of_braceFree {cs : List Char} (free : BraceFree cs) :
    ∀ c ∈ cs, (!isBrace c) = true := by
  intro c member
  rw [(isBrace_eq_false_iff c).mpr (free c member)]
  rfl

theorem closing?_append {name : List Char} (free : BraceFree name) (rest : List Char) :
    closing? (name ++ '\x7d' :: rest) = some (name, rest) := by
  have unbraced := isBrace_of_braceFree free
  have closes : isBrace '\x7d' = true := rfl
  rw [closing?, List.dropWhile_append_of_pos unbraced, List.takeWhile_append_of_pos unbraced]
  simp [closes]

/-- The first group of a text is the one behind its first gap without braces. -/
theorem nextGroup?_append {gap name : List Char} (gapFree : BraceFree gap)
    (nameFree : BraceFree name) (rest : List Char) :
    nextGroup? (gap ++ '\x7b' :: (name ++ '\x7d' :: rest)) = some (gap, name, rest) := by
  induction gap with
  | nil => simp [nextGroup?, closing?_append nameFree]
  | cons c gap ih =>
      have opens : c ≠ '\x7b' := (gapFree c (List.mem_cons_self ..)).1
      have later := ih fun d member => gapFree d (List.mem_cons_of_mem _ member)
      simp [nextGroup?, opens, later]

theorem nextGroup?_of_braceFree {cs : List Char} (free : BraceFree cs) : nextGroup? cs = none := by
  induction cs with
  | nil => rfl
  | cons c rest ih =>
      have opens : c ≠ '\x7b' := (free c (List.mem_cons_self ..)).1
      simp [nextGroup?, opens, ih fun d member => free d (List.mem_cons_of_mem _ member)]

/-- A gap and a group are read before the rest of a text. -/
theorem partsOf_cut_append {gap name rest : List Char} {literal parts : List UrlPart}
    (gapFree : BraceFree gap) (read : gapPart gap = .ok literal) (named : Name name)
    (others : partsOf (cut rest).1 (cut rest).2 = .ok parts) :
    let whole := cut (gap ++ '\x7b' :: (name ++ '\x7d' :: rest))
    partsOf whole.1 whole.2 =
      .ok (literal ++ .placeholder (String.ofList name) none :: parts) := by
  intro whole
  have cutting : whole = ((gap, name) :: (cut rest).1, (cut rest).2) :=
    cut_of_some (nextGroup?_append gapFree named.braceFree rest)
  rw [cutting]
  exact partsOf_cons_eq_ok_iff.mpr
    ⟨(isName_iff name).mpr named, literal, parts, read, others, rfl⟩

/-- A literal of normal parts is a gap that gives it back. -/
theorem Normal.gapPart_eq {text : String} {parts : List UrlPart}
    (normal : Normal (.literal text :: parts)) :
    BraceFree text.toList ∧ gapPart text.toList = .ok [.literal text] := by
  obtain ⟨nonempty, free⟩ := normal.literals text (List.mem_cons_self ..)
  refine ⟨free, ?_⟩
  rw [gapPart_of_braceFree (fun empty => nonempty (String.toList_inj.mp empty)) free,
    String.ofList_toList]

/-- What normal parts are written as is read as these parts. -/
theorem partsOf_cut_written : (parts : List UrlPart) → Normal parts →
    partsOf (cut (written parts)).1 (cut (written parts)).2 = .ok parts
  | [], _ => by
      rw [written, List.flatMap_nil, cut_of_none rfl]
      rfl
  | [.literal text], normal => by
      obtain ⟨free, own⟩ := normal.gapPart_eq
      have alone : written [.literal text] = text.toList := by simp [written, UrlPart.written]
      rw [alone, cut_of_none (nextGroup?_of_braceFree free)]
      exact own
  | .literal text :: .literal other :: parts, normal =>
      absurd ⟨trivial, trivial⟩ ((List.isChain_cons.mp normal.apart).1 _ rfl)
  | .literal text :: .placeholder name width :: parts, normal => by
      obtain ⟨free, own⟩ := normal.gapPart_eq
      obtain ⟨named, rfl⟩ := normal.tail.placeholders name width (List.mem_cons_self ..)
      have others := partsOf_cut_written parts normal.tail.tail
      have whole := partsOf_cut_append free own named others
      rw [← written_placeholder, String.ofList_toList] at whole
      rw [written_cons]
      exact whole
  | .placeholder name width :: parts, normal => by
      obtain ⟨named, rfl⟩ := normal.placeholders name width (List.mem_cons_self ..)
      have others := partsOf_cut_written parts normal.tail
      -- A placeholder that no literal precedes has the empty gap before it.
      have nothing : BraceFree [] := fun c member => by cases member
      have whole := partsOf_cut_append nothing rfl named others
      rw [List.nil_append, ← written_placeholder, String.ofList_toList] at whole
      exact whole

/-! ### The grammar -/

theorem Normal.grammar {parts : List UrlPart} (normal : Normal parts) :
    Grammar (written parts) := by
  induction parts with
  | nil => exact .empty
  | cons part parts ih =>
      have more := ih normal.tail
      cases part with
      | literal text =>
          rw [written_cons]
          exact .text (normal.literals text (List.mem_cons_self ..)).2 more
      | placeholder name width =>
          obtain ⟨named, rfl⟩ := normal.placeholders name width (List.mem_cons_self ..)
          rw [← String.ofList_toList (s := name), written_placeholder]
          exact .group named more

/-- Text in front of normal parts makes a literal of its own or goes into the one that is there. -/
theorem Normal.exists_text_append {gap : List Char} {parts : List UrlPart} (free : BraceFree gap)
    (normal : Normal parts) :
    ∃ longer, Normal longer ∧ written longer = gap ++ written parts := by
  by_cases empty : gap = []
  · exact ⟨parts, normal, by rw [empty, List.nil_append]⟩
  · by_cases literal : ∀ part ∈ parts.head?, ¬part.IsLiteral
    · refine ⟨_, normal.literal_cons empty free literal, ?_⟩
      rw [written_cons, UrlPart.written, String.toList_ofList]
    · cases parts with
      | nil => exact absurd (fun part member => by cases member) literal
      | cons part rest =>
          cases part with
          | placeholder name width => exact absurd (by simp [UrlPart.IsLiteral]) literal
          | literal text =>
              -- The gap goes into the literal that the parts start with; no other follows that one.
              obtain ⟨apart, _⟩ := List.isChain_cons.mp normal.apart
              have alone : ∀ part ∈ rest.head?, ¬part.IsLiteral :=
                fun part member both => apart part member ⟨trivial, both⟩
              have textFree := (normal.literals text (List.mem_cons_self ..)).2
              have joinedFree : BraceFree (gap ++ text.toList) := by
                intro c member
                rcases List.mem_append.mp member with member | member
                · exact free c member
                · exact textFree c member
              have nonempty : gap ++ text.toList ≠ [] :=
                List.append_ne_nil_of_left_ne_nil empty _
              refine ⟨_, normal.tail.literal_cons nonempty joinedFree alone, ?_⟩
              rw [written_cons, written_cons, UrlPart.written, UrlPart.written,
                String.toList_ofList, List.append_assoc]

/-- Every text of the grammar is what some normal parts are written as. -/
theorem Grammar.exists_normal {cs : List Char} (grammar : Grammar cs) :
    ∃ parts, Normal parts ∧ written parts = cs := by
  induction grammar with
  | empty => exact ⟨[], .nil, rfl⟩
  | @text gap rest free more ih =>
      obtain ⟨parts, normal, rfl⟩ := ih
      exact normal.exists_text_append free
  | @group name rest named more ih =>
      obtain ⟨parts, normal, rfl⟩ := ih
      exact ⟨_, normal.placeholder_cons named, written_placeholder name parts⟩

/--
A text is read as a template exactly if it is one by the grammar; and it is read as given parts
exactly if these are normal and written as the text.
-/
theorem parse_eq_ok_iff (template : String) :
    ((∃ parts, parse template = .ok parts) ↔ Grammar template.toList) ∧
      ∀ parts, parse template = .ok parts ↔ Normal parts ∧ written parts = template.toList := by
  have exact (parts : List UrlPart) :
      parse template = .ok parts ↔ Normal parts ∧ written parts = template.toList := by
    constructor
    · intro read
      have normal := normal_partsOf read
      rwa [joined_cut] at normal
    · rintro ⟨normal, same⟩
      rw [parse, ← same]
      exact partsOf_cut_written parts normal
  refine ⟨⟨?_, ?_⟩, exact⟩
  · rintro ⟨parts, read⟩
    obtain ⟨normal, same⟩ := (exact parts).mp read
    exact same ▸ normal.grammar
  · intro grammar
    obtain ⟨parts, normal, same⟩ := grammar.exists_normal
    exact ⟨parts, (exact parts).mpr ⟨normal, same⟩⟩

end Template

end ApiConsole
