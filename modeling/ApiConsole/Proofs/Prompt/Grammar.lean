import ApiConsole.Prompt.Command
import ApiConsole.Proofs.Text.Spacing

/-!
# The grammar of commands

A line is read as its words: the first one says which command it is, and how many others there are
says whether they fit.  Only the value of a setting is more than a word; it is the line from its
third word to its last.  So no blank in front of, between or behind the words counts outside of such
a value.
-/

namespace ApiConsole

open Text (Placed Spacing)

namespace Command

/-- The command of the words of a line, of which all behind the second make up a value. -/
def ofWords (words : List String) (value : String) : Except Fault Command :=
  match words with
  | [] => .ok .nothing
  | word :: arguments =>
      match word with
      | "help" | "?" => .ok .help
      | "list" | "ls" => .ok .list
      | "session" => .ok .session
      | "quit" | "exit" => .ok .quit
      | "set" =>
          match arguments with
          | name :: _ :: _ => .ok (.set name value)
          | _ => .error .setUsage
      | "compose" =>
          match arguments with
          | [id] => .ok (.compose id)
          | _ => .error .composeUsage
      | "fire" => if arguments = [] then .error .fireUsage else .ok (.fire arguments)
      | other => .error (.unknown other)

theorem ofWords_eq_quit_iff (word : String) (arguments : List String) (value : String) :
    ofWords (word :: arguments) value = .ok .quit ↔ word = "quit" ∨ word = "exit" := by
  unfold ofWords
  dsimp only
  split
  case h_8 | h_9 | h_10 => split <;> simp
  all_goals simp_all

/-- Only a setting has a value. -/
theorem ofWords_of_ne_set {words : List (List Char)} (other : words.head? ≠ some "set".toList)
    (value another : String) :
    ofWords (words.map String.ofList) value = ofWords (words.map String.ofList) another := by
  cases words with
  | nil => rfl
  | cons word arguments =>
      have differs : String.ofList word ≠ "set" := by
        intro same
        exact other (by rw [← same, String.toList_ofList]; rfl)
      rw [List.map_cons]
      generalize String.ofList word = word at differs
      unfold ofWords
      dsimp only
      split
      case h_8 => exact absurd rfl differs
      all_goals rfl

variable {behind : List Placed}

theorem firstWord_spanned (first : Placed) (apart : ∀ later ∈ behind, later.gap ≠ []) :
    firstWord (Text.spanned (first :: behind)) = (first.word, Text.spanned behind) := by
  cases behind with
  | nil =>
      have uncut : Text.cutAtBlank? first.word = none := Text.cutAtBlank?_word first.visible
      simp [firstWord, Text.spanned, Text.joined, uncut]
  | cons next behind =>
      obtain ⟨rest, cut, trimmed⟩ :=
        Text.exists_cutAtBlank?_spanned first next behind (apart next List.mem_cons_self)
      rw [firstWord, cut]
      exact congrArg (Prod.mk first.word) trimmed

theorem ofSetting_spanned (apart : ∀ later ∈ behind.tail, later.gap ≠ []) (value : String)
    (given : String.ofList (Text.spanned (behind.drop 1)) = value) :
    ofSetting (Text.spanned behind) =
      match behind.map fun next => String.ofList next.word with
      | name :: _ :: _ => .ok (.set name value)
      | _ => .error .setUsage := by
  rcases behind with _ | ⟨name, _ | ⟨next, behind⟩⟩
  · rfl
  · have uncut : Text.cutAtBlank? name.word = none := Text.cutAtBlank?_word name.visible
    simp [ofSetting, Text.spanned, Text.joined, uncut]
  · obtain ⟨rest, cut, trimmed⟩ :=
      Text.exists_cutAtBlank?_spanned name next behind (apart next List.mem_cons_self)
    rw [ofSetting, cut]
    dsimp only
    rw [trimmed, ← given]
    rfl

theorem ofComposition_spanned (apart : ∀ later ∈ behind.tail, later.gap ≠ []) :
    ofComposition (Text.spanned behind) =
      match behind.map fun next => String.ofList next.word with
      | [id] => .ok (.compose id)
      | _ => .error .composeUsage := by
  rcases behind with _ | ⟨id, _ | ⟨next, behind⟩⟩
  · rfl
  · have whole : Text.spanned [id] = id.word := List.append_nil _
    have unblank : id.word.any Text.isBlank = false :=
      List.any_eq_false.mpr fun c member => by simp [id.visible c member]
    simp [ofComposition, whole, unblank, id.nonempty]
  · have blank : (Text.spanned (id :: next :: behind)).any Text.isBlank = true := by
      obtain ⟨c, gap, start⟩ := List.exists_cons_of_ne_nil (apart next List.mem_cons_self)
      have here : Text.isBlank c = true := next.blank c (start ▸ List.mem_cons_self)
      simp [Text.spanned, Text.joined_cons, start, here]
    simp [ofComposition, blank]

theorem ofFire_spanned (apart : ∀ later ∈ behind.tail, later.gap ≠ []) :
    ofFire (Text.spanned behind) =
      if (behind.map fun next => String.ofList next.word) = [] then .error .fireUsage
      else .ok (.fire (behind.map fun next => String.ofList next.word)) := by
  have found : Text.words (Text.spanned behind) = behind.map Placed.word := Text.words_spanned apart
  cases behind with
  | nil => rfl
  | cons id behind =>
      have some : Text.spanned (id :: behind) ≠ [] :=
        List.append_ne_nil_of_left_ne_nil id.nonempty _
      simp [ofFire, some, found]

/-- A spaced line is read word by word. -/
theorem parse_text (spacing : Spacing) :
    parse (String.ofList spacing.text) =
      ofWords (spacing.words.map String.ofList) (String.ofList (spacing.fromWord 2)) := by
  obtain ⟨placed, ending, apart, blank⟩ := spacing
  rw [parse, String.toList_ofList]
  cases placed with
  | nil =>
      have trimmed : Text.trim ending = [] := Text.trim_blank blank
      simp [Spacing.text, Text.joined, trimmed, firstWord, Text.cutAtBlank?, Spacing.words, ofWords]
  | cons first behind =>
      have behindApart : ∀ later ∈ behind, later.gap ≠ [] := apart
      have furtherApart : ∀ later ∈ behind.tail, later.gap ≠ [] := fun later member =>
        apart later (List.mem_of_mem_tail member)
      have trimmed : Text.trim (Spacing.text ⟨first :: behind, ending, apart, blank⟩) =
          Text.spanned (first :: behind) := Text.trim_append first behind blank
      have value : String.ofList (Text.spanned (behind.drop 1)) =
          String.ofList (Spacing.fromWord ⟨first :: behind, ending, apart, blank⟩ 2) := rfl
      have words : (Spacing.words ⟨first :: behind, ending, apart, blank⟩).map String.ofList =
          String.ofList first.word :: behind.map fun next => String.ofList next.word := by
        simp [Spacing.words]
      have nonempty : String.ofList first.word ≠ "" := by
        simpa using first.nonempty
      rw [trimmed, firstWord_spanned first behindApart, words]
      dsimp only
      rw [ofSetting_spanned furtherApart _ value, ofComposition_spanned furtherApart,
        ofFire_spanned furtherApart]
      generalize String.ofList first.word = word at nonempty
      -- The first case is a line without words, the twelfth a word that is no command.
      split
      case h_1 => exact absurd rfl nonempty
      case h_12 => rw [ofWords] <;> assumption
      all_goals rfl

/-- Every line is spaced into words, and is the command of these. -/
theorem exists_spacing (line : String) :
    ∃ spacing : Spacing, spacing.text = line.toList ∧
      parse line =
        ofWords (spacing.words.map String.ofList) (String.ofList (spacing.fromWord 2)) := by
  obtain ⟨spacing, same⟩ := Spacing.exists_text_eq line.toList
  refine ⟨spacing, same, ?_⟩
  rw [← parse_text, same, String.ofList_toList]

/-- Whether the first word of a line says that the prompt is to end. -/
def Quits (line : String) : Prop :=
  ∃ word ∈ (Text.words line.toList).head?, word = "quit".toList ∨ word = "exit".toList

instance : DecidablePred Quits := fun line =>
  inferInstanceAs (Decidable (∃ word ∈ (Text.words line.toList).head?,
    word = "quit".toList ∨ word = "exit".toList))

theorem parse_eq_quit_iff (line : String) : parse line = .ok .quit ↔ Quits line := by
  obtain ⟨spacing, same, read⟩ := exists_spacing line
  have found : Text.words line.toList = spacing.words :=
    same ▸ Text.words_joined spacing.apart spacing.blank
  rw [Quits, found, read]
  cases spacing.words with
  | nil => simp [ofWords]
  | cons word arguments =>
      rw [List.map_cons, ofWords_eq_quit_iff, ← String.toList_inj, ← String.toList_inj,
        String.toList_ofList]
      simp

/--
A line is spaced into words in one way, and it is the command of its words, where the value of a
setting is the line from the third word to the end of the last.  So the same words are the same
command however they are spaced, except within the value of a setting.
-/
theorem parse_eq_ofWords (line : String) :
    ∃ spacing : Spacing,
      (∀ other : Spacing, other.text = line.toList ↔ other = spacing) ∧
      parse line =
        ofWords (spacing.words.map String.ofList) (String.ofList (spacing.fromWord 2)) ∧
      ∀ other : Spacing, other.words = spacing.words →
        (spacing.words.head? = some "set".toList → other.fromWord 2 = spacing.fromWord 2) →
        parse (String.ofList other.text) = parse line := by
  obtain ⟨spacing, same, read⟩ := exists_spacing line
  refine ⟨spacing, fun other => ?_, read, fun other words values => ?_⟩
  · rw [← same]
    exact ⟨Spacing.text_injective, fun alike => alike ▸ rfl⟩
  · rw [read, parse_text, words]
    by_cases setting : spacing.words.head? = some "set".toList
    · rw [values setting]
    · exact ofWords_of_ne_set setting _ _

def spread : Spacing where
  placed := [
    .checked ['\u2003'] "set".toList (by decide),
    .checked [' ', '\t'] "a".toList (by decide),
    .checked ['\u00a0'] "b".toList (by decide),
    .checked [' ', ' '] "c".toList (by decide)]
  ending := [' ', '\r']
  apart := by decide
  blank := List.all_eq_true.mp (by decide)

def tight : Spacing where
  placed := [
    .checked [] "set".toList (by decide),
    .checked [' '] "a".toList (by decide),
    .checked [' '] "b".toList (by decide),
    .checked [' ', ' '] "c".toList (by decide)]
  ending := []
  apart := by decide
  blank := List.all_eq_true.mp (by decide)

/-- Only the gap within the value is kept. -/
theorem parse_eq_ofWords_spread :
    parse "\u2003set \ta\u00a0b  c \r" = .ok (.set "a" "b  c") ∧
      parse "set a b  c" = parse "\u2003set \ta\u00a0b  c \r" := by
  obtain ⟨spacing, unique, read, alike⟩ := parse_eq_ofWords "\u2003set \ta\u00a0b  c \r"
  obtain rfl : spread = spacing := (unique spread).mp (by decide)
  exact ⟨read.trans (by decide), alike tight (by decide) fun _ => by decide⟩

end Command

end ApiConsole
