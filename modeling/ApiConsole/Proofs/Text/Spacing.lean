import ApiConsole.Text.Basic
import Mathlib.Data.List.Basic
import Mathlib.Data.List.TakeWhile

/-!
# Words and the gaps between them

A text is its words, each behind a gap of blanks, and a gap behind the last of them.  The gaps
between two words are not empty, so that the words are the maximal runs without blanks, and a text
is spaced in one way only.  What trimming, cutting and looking for words leave of it is told in
these terms.
-/

namespace ApiConsole.Text

/-- A word as it stands in a text, with the gap in front of it. -/
@[ext]
structure Placed where
  gap : List Char
  word : List Char
  blank : ∀ c ∈ gap, isBlank c = true
  visible : ∀ c ∈ word, isBlank c = false
  nonempty : word ≠ []

def Placed.checked (gap word : List Char)
    (fits : (gap.all isBlank && word.all (!isBlank ·) && !word.isEmpty) = true) : Placed where
  gap := gap
  word := word
  blank := by simp_all
  visible := by simp_all
  nonempty := by simp_all

def joined (placed : List Placed) : List Char :=
  placed.flatMap fun next => next.gap ++ next.word

/-- The text from the start of the first of some words to the end of the last. -/
def spanned : List Placed → List Char
  | [] => []
  | first :: behind => first.word ++ joined behind

/-- A text as its words, of which only the first may stand behind an empty gap. -/
@[ext]
structure Spacing where
  placed : List Placed
  ending : List Char
  apart : ∀ later ∈ placed.tail, later.gap ≠ []
  blank : ∀ c ∈ ending, isBlank c = true

namespace Spacing

def text (spacing : Spacing) : List Char :=
  joined spacing.placed ++ spacing.ending

def words (spacing : Spacing) : List (List Char) :=
  spacing.placed.map Placed.word

/-- The text from the start of the word at a place to the end of the last word. -/
def fromWord (spacing : Spacing) (place : Nat) : List Char :=
  spanned (spacing.placed.drop place)

end Spacing

/-- Two texts that start with a run of one kind, which ends there, have the same run. -/
theorem run_append_inj {kind : Char → Bool} {run other rest more : List Char}
    (all : ∀ c ∈ run, kind c = true) (allToo : ∀ c ∈ other, kind c = true)
    (ends : ∀ c ∈ rest.head?, kind c = false) (endsToo : ∀ c ∈ more.head?, kind c = false)
    (same : run ++ rest = other ++ more) : run = other ∧ rest = more := by
  have stops {rest : List Char} (ends : ∀ c ∈ rest.head?, kind c = false) :
      rest.takeWhile kind = [] := by
    cases rest with
    | nil => rfl
    | cons c rest => simp [ends c rfl]
  have front := congrArg (List.takeWhile kind) same
  rw [List.takeWhile_append_of_pos all, List.takeWhile_append_of_pos allToo, stops ends,
    stops endsToo, List.append_nil, List.append_nil] at front
  exact ⟨front, List.append_cancel_left (front ▸ same)⟩

section

variable {behind : List Placed} {ending : List Char}

theorem joined_cons (next : Placed) (behind : List Placed) :
    joined (next :: behind) = next.gap ++ (next.word ++ joined behind) := by
  rw [joined, List.flatMap_cons, List.append_assoc]
  rfl

theorem Placed.exists_word_eq_cons (next : Placed) :
    ∃ c rest, next.word = c :: rest ∧ isBlank c = false := by
  obtain ⟨c, rest, start⟩ := List.exists_cons_of_ne_nil next.nonempty
  exact ⟨c, rest, start, next.visible c (start ▸ List.mem_cons_self)⟩

theorem Placed.isBlank_head?_word (next : Placed) (rest : List Char) :
    ∀ c ∈ (next.word ++ rest).head?, isBlank c = false := by
  obtain ⟨c, more, start, visible⟩ := next.exists_word_eq_cons
  intro d first
  rw [start] at first
  exact (Option.some.inj first) ▸ visible

/-- Behind a word comes a blank, unless it is the last one and nothing comes. -/
theorem isBlank_head?_joined (apart : ∀ later ∈ behind, later.gap ≠ [])
    (blank : ∀ c ∈ ending, isBlank c = true) :
    ∀ c ∈ (joined behind ++ ending).head?, isBlank c = true := by
  intro c first
  cases behind with
  | nil => exact blank c (List.mem_of_mem_head? first)
  | cons next behind =>
      obtain ⟨d, rest, start⟩ := List.exists_cons_of_ne_nil (apart next List.mem_cons_self)
      rw [joined_cons, start] at first
      exact next.blank c (start ▸ Option.some.inj first ▸ List.mem_cons_self)

/-- Words end visibly. -/
theorem exists_end_spanned (first : Placed) (behind : List Placed) :
    ∃ front last, first.word ++ joined behind = front ++ [last] ∧ isBlank last = false := by
  have ended (next : Placed) : ∃ front last, next.word = front ++ [last] ∧ isBlank last = false :=
    ⟨_, _, (List.dropLast_append_getLast next.nonempty).symm,
      next.visible _ (List.getLast_mem next.nonempty)⟩
  rcases List.eq_nil_or_concat behind with rfl | ⟨before, last, rfl⟩
  · simpa [joined] using ended first
  · obtain ⟨front, c, same, visible⟩ := ended last
    refine ⟨first.word ++ (joined before ++ (last.gap ++ front)), c, ?_, visible⟩
    simp [joined, same]

/-- What is trimmed off a text are the gaps in front of its first word and behind its last. -/
theorem trim_append (first : Placed) (behind : List Placed)
    (blank : ∀ c ∈ ending, isBlank c = true) :
    trim (joined (first :: behind) ++ ending) = spanned (first :: behind) := by
  have start : trimStart (joined (first :: behind) ++ ending) =
      first.word ++ joined behind ++ ending := by
    obtain ⟨c, rest, word, visible⟩ := first.exists_word_eq_cons
    rw [trimStart, joined_cons, List.append_assoc, List.dropWhile_append_of_pos first.blank, word]
    simp [visible]
  obtain ⟨front, last, ended, visible⟩ := exists_end_spanned first behind
  have blankBack : ∀ c ∈ ending.reverse, isBlank c = true := fun c member =>
    blank c (List.mem_reverse.mp member)
  rw [trim, start, trimEnd, List.reverse_append, List.dropWhile_append_of_pos blankBack, spanned,
    ended]
  simp [visible]

theorem trim_blank (blank : ∀ c ∈ ending, isBlank c = true) : trim ending = [] := by
  have none : ending.dropWhile isBlank = [] := List.dropWhile_eq_nil_iff.mpr blank
  rw [trim, trimStart, none]
  rfl

theorem cutAtBlank?_word {word : List Char} (visible : ∀ c ∈ word, isBlank c = false) :
    cutAtBlank? word = none := by
  induction word with
  | nil => rfl
  | cons c word ih =>
      obtain ⟨here, there⟩ := List.forall_mem_cons.mp visible
      simp [cutAtBlank?, here, ih there]

theorem cutAtBlank?_append {word rest : List Char} {c : Char}
    (visible : ∀ c ∈ word, isBlank c = false) (blank : isBlank c = true) :
    cutAtBlank? (word ++ c :: rest) = some (word, rest) := by
  induction word with
  | nil => simp [cutAtBlank?, blank]
  | cons d word ih =>
      obtain ⟨here, there⟩ := List.forall_mem_cons.mp visible
      simp [cutAtBlank?, here, ih there]

/-- The first of several words is cut off, and the others are left when the rest is trimmed. -/
theorem exists_cutAtBlank?_spanned (first next : Placed) (behind : List Placed)
    (apart : next.gap ≠ []) :
    ∃ rest, cutAtBlank? (spanned (first :: next :: behind)) = some (first.word, rest) ∧
      trim rest = spanned (next :: behind) := by
  obtain ⟨c, gap, start⟩ := List.exists_cons_of_ne_nil apart
  have blank : ∀ d ∈ c :: gap, isBlank d = true := start ▸ next.blank
  let closer : Placed :=
    { next with gap, blank := fun d member => blank d (List.mem_cons_of_mem c member) }
  refine ⟨joined (closer :: behind), ?_, ?_⟩
  · rw [spanned, joined_cons next, start, joined_cons closer]
    exact cutAtBlank?_append first.visible (blank c List.mem_cons_self)
  · have trimmed := trim_append closer behind (List.forall_mem_nil _)
    rwa [List.append_nil] at trimmed

theorem words_cons_blank {c : Char} (blank : isBlank c = true) (rest : List Char) :
    words (c :: rest) = words rest := by
  rw [words.eq_def]
  exact if_pos blank

/-- A character in front of a gap, or of the end, is a word of its own. -/
theorem words_cons_gap {c : Char} {rest : List Char} (here : isBlank c = false)
    (ends : ∀ d ∈ rest.head?, isBlank d = true) : words (c :: rest) = [c] :: words rest := by
  rw [words.eq_def]
  cases rest with
  | nil => exact if_neg (by simp [here])
  | cons d rest => simp only [here, ends d rfl, Bool.false_eq_true, if_false, if_true]

theorem words_cons_cons {c d : Char} {rest word : List Char} {others : List (List Char)}
    (here : isBlank c = false) (there : isBlank d = false)
    (behind : words (d :: rest) = word :: others) :
    words (c :: d :: rest) = (c :: word) :: others := by
  rw [words.eq_def]
  simp only [here, there, behind, Bool.false_eq_true, if_false]

theorem words_gap {gap : List Char} (blank : ∀ c ∈ gap, isBlank c = true) (rest : List Char) :
    words (gap ++ rest) = words rest := by
  induction gap with
  | nil => rfl
  | cons c gap ih =>
      obtain ⟨here, there⟩ := List.forall_mem_cons.mp blank
      rw [List.cons_append, words_cons_blank here, ih there]

theorem words_word {word rest : List Char} (visible : ∀ c ∈ word, isBlank c = false)
    (nonempty : word ≠ []) (ends : ∀ c ∈ rest.head?, isBlank c = true) :
    words (word ++ rest) = word :: words rest := by
  induction word with
  | nil => exact absurd rfl nonempty
  | cons c word ih =>
      obtain ⟨here, there⟩ := List.forall_mem_cons.mp visible
      cases word with
      | nil => exact words_cons_gap here ends
      | cons d word =>
          have further := ih there (List.cons_ne_nil d word)
          exact words_cons_cons here (there d List.mem_cons_self) further

/-- The words that are found in a text are those it is spaced into. -/
theorem words_joined {placed : List Placed} (apart : ∀ later ∈ placed.tail, later.gap ≠ [])
    (blank : ∀ c ∈ ending, isBlank c = true) :
    words (joined placed ++ ending) = placed.map Placed.word := by
  induction placed with
  | nil =>
      have none := words_gap blank []
      rwa [List.append_nil] at none
  | cons next behind ih =>
      have behindApart : ∀ later ∈ behind, later.gap ≠ [] := apart
      have furtherApart : ∀ later ∈ behind.tail, later.gap ≠ [] := fun later member =>
        apart later (List.mem_of_mem_tail member)
      rw [joined_cons, List.append_assoc, words_gap next.blank, List.append_assoc,
        words_word next.visible next.nonempty (isBlank_head?_joined behindApart blank),
        ih furtherApart, List.map_cons]

theorem words_spanned (apart : ∀ later ∈ behind.tail, later.gap ≠ []) :
    words (spanned behind) = behind.map Placed.word := by
  cases behind with
  | nil => rfl
  | cons first behind =>
      have found : words (joined (first :: behind) ++ []) = (first :: behind).map Placed.word :=
        words_joined apart (List.forall_mem_nil _)
      rwa [List.append_nil, joined_cons, words_gap first.blank] at found

end

namespace Spacing

/-- Every text can be spaced into words. -/
theorem exists_text_eq (cs : List Char) : ∃ spacing : Spacing, spacing.text = cs := by
  induction cs with
  | nil => exact ⟨⟨[], [], List.forall_mem_nil _, List.forall_mem_nil _⟩, rfl⟩
  | cons c cs ih =>
      obtain ⟨⟨placed, ending, apart, blank⟩, same⟩ := ih
      subst same
      cases kind : isBlank c with
      | true =>
          cases placed with
          | nil => exact ⟨⟨[], c :: ending, apart, List.forall_mem_cons.mpr ⟨kind, blank⟩⟩, rfl⟩
          | cons next behind =>
              let wider : Placed :=
                { next with
                  gap := c :: next.gap
                  blank := List.forall_mem_cons.mpr ⟨kind, next.blank⟩ }
              exact ⟨⟨wider :: behind, ending, apart, blank⟩, rfl⟩
      | false =>
          let single : Placed :=
            { gap := []
              word := [c]
              blank := List.forall_mem_nil _
              visible := List.forall_mem_singleton.mpr kind
              nonempty := List.cons_ne_nil c [] }
          cases placed with
          | nil => exact ⟨⟨[single], ending, apart, blank⟩, rfl⟩
          | cons next behind =>
              by_cases close : next.gap = []
              · let longer : Placed :=
                  { gap := []
                    word := c :: next.word
                    blank := List.forall_mem_nil _
                    visible := List.forall_mem_cons.mpr ⟨kind, next.visible⟩
                    nonempty := List.cons_ne_nil c _ }
                refine ⟨⟨longer :: behind, ending, apart, blank⟩, ?_⟩
                simp [text, joined_cons, longer, close]
              · refine ⟨⟨single :: next :: behind, ending, ?_, blank⟩, rfl⟩
                exact List.forall_mem_cons.mpr ⟨close, apart⟩

/-- A word leaves no text blank. -/
theorem not_blank_joined (next : Placed) (behind : List Placed) (ending : List Char) :
    ¬∀ c ∈ joined (next :: behind) ++ ending, isBlank c = true := by
  intro blank
  obtain ⟨c, rest, start, visible⟩ := next.exists_word_eq_cons
  have member : c ∈ joined (next :: behind) ++ ending := by simp [joined_cons, start]
  exact absurd (blank c member) (by simp [visible])

/-- A text is spaced into words in one way. -/
theorem text_injective {first second : Spacing} (same : first.text = second.text) :
    first = second := by
  obtain ⟨placed, ending, apart, blank⟩ := first
  obtain ⟨others, tail, apartToo, blankToo⟩ := second
  change joined placed ++ ending = joined others ++ tail at same
  suffices parts : placed = others ∧ ending = tail from Spacing.ext parts.1 parts.2
  induction placed generalizing others with
  | nil =>
      cases others with
      | nil => exact ⟨rfl, same⟩
      | cons next others => exact (not_blank_joined next others tail (same ▸ blank)).elim
  | cons next behind ih =>
      cases others with
      | nil => exact (not_blank_joined next behind ending (same ▸ blankToo)).elim
      | cons other others =>
          rw [joined_cons, joined_cons, List.append_assoc, List.append_assoc, List.append_assoc,
            List.append_assoc] at same
          -- The gaps end where the words start, and the words where the next gaps start.
          obtain ⟨gaps, more⟩ := run_append_inj next.blank other.blank
            (next.isBlank_head?_word _) (other.isBlank_head?_word _) same
          have shows {word : List Char} (visible : ∀ c ∈ word, isBlank c = false) :
              ∀ c ∈ word, (!isBlank c) = true := fun c member => by simp [visible c member]
          have hides {rest : List Char} (ends : ∀ c ∈ rest.head?, isBlank c = true) :
              ∀ c ∈ rest.head?, (!isBlank c) = false := fun c first => by simp [ends c first]
          obtain ⟨words, rest⟩ := run_append_inj (shows next.visible) (shows other.visible)
            (hides (isBlank_head?_joined apart blank))
            (hides (isBlank_head?_joined apartToo blankToo)) more
          obtain ⟨later, endings⟩ := ih
            (fun later member => apart later (List.mem_of_mem_tail member)) others
            (fun later member => apartToo later (List.mem_of_mem_tail member)) rest
          exact ⟨List.cons_eq_cons.mpr ⟨Placed.ext gaps words, later⟩, endings⟩

end Spacing

end ApiConsole.Text
