import ApiConsole.CommandLine.Scan
import ApiConsole.Proofs.Except

/-!
# What a command line is made of

Whatever its levels, a command line can be read as a plain list of items: settings with their
values, and words.  A level that is read without a refusal has taken in the assignments among its
items, in their order, and on the top level everything in front of the first word.
-/

namespace ApiConsole.CommandLine

def Setting.ofLongName? : String → Option Setting
  | "base-url" => some .baseUrl
  | "catalog" => some .catalog
  | "set" => some .assignment
  | "timeout" => some .timeout
  | _ => none

def Setting.ofShortName? : Char → Option Setting
  | 'u' => some .baseUrl
  | 'c' => some .catalog
  | 's' => some .assignment
  | 't' => some .timeout
  | _ => none

/-- A part of a command line that is no flag. -/
inductive Item where
  | setting (setting : Setting) (value : String)
  | word (text : String)

/-- A setting that is named, and its value if it has one yet. -/
abbrev Given := Setting × Option String

def valueBehind? (cs : List Char) : Option String :=
  match cs.dropWhile (· != '=') with
  | [] => none
  | _ :: value => some (String.ofList value)

def Given.ofLong? (cs : List Char) : Option Given :=
  (Setting.ofLongName? (String.ofList (cs.takeWhile (· != '=')))).map fun setting =>
    (setting, valueBehind? cs)

/-- The setting of short names: the first that names one has the rest as its value. -/
def Given.ofShort? : List Char → Option Given
  | [] => none
  | c :: rest =>
      match Setting.ofShortName? c with
      | some setting => some (setting, Scan.attached? rest)
      | none => ofShort? rest

/-- What an argument is by itself. -/
inductive Shape where
  /-- Two hyphens, behind which every argument is a word. -/
  | terminator
  /-- Names of options, which give a setting if not all of them are flags. -/
  | options (given : Option Given)
  | word

def Shape.ofArgument (argument : String) : Shape :=
  match argument.toList with
  | ['-', '-'] => .terminator
  | '-' :: '-' :: name => .options (Given.ofLong? name)
  | '-' :: c :: names => .options (Given.ofShort? (c :: names))
  | _ => .word

namespace Item

def isWord : Item → Bool
  | .word _ => true
  | .setting _ _ => false

def ofArguments : List String → List Item
  | [] => []
  | argument :: rest =>
      match Shape.ofArgument argument with
      | .terminator => rest.map .word
      | .word => .word argument :: ofArguments rest
      | .options none => ofArguments rest
      | .options (some (option, some value)) => .setting option value :: ofArguments rest
      | .options (some (option, none)) =>
          match rest with
          | [] => []
          | value :: others => .setting option value :: ofArguments others

def complete : Option Given → List Item
  | some (option, some value) => [.setting option value]
  | _ => []

def assignment? : Item → Option String
  | .setting .assignment value => some value
  | _ => none

def assignments (items : List Item) : List String :=
  items.filterMap assignment?

theorem assignments_append (first second : List Item) :
    assignments (first ++ second) = assignments first ++ assignments second :=
  List.filterMap_append

end Item

/-- A text gives a value to a name: the name stands before the first equals sign, without the blanks
around it, and the value is everything behind that sign. -/
def Assigns (text : String) (pair : String × String) : Prop :=
  ∃ name, text.toList = name ++ '=' :: pair.2.toList ∧ '=' ∉ name ∧
    Text.trim name ≠ [] ∧ pair.1 = String.ofList (Text.trim name)

theorem assigns_of_assignment {text : String} {pair : String × String}
    (taken : assignment text = .ok pair) : Assigns text pair := by
  unfold assignment at taken
  simp only at taken
  split at taken
  · cases taken
  · next given =>
    rw [Bool.or_eq_true, not_or, Bool.not_eq_true', Bool.not_eq_false, List.contains_iff_mem]
      at given
    obtain ⟨sign, named⟩ := given
    obtain ⟨name, value, parts, absent⟩ := List.eq_append_cons_of_mem sign
    have passes : ∀ c ∈ name, (c != '=') = true := fun c member =>
      bne_iff_ne.mpr fun same => absent (same ▸ member)
    have front : text.toList.takeWhile (· != '=') = name := by
      rw [parts, List.takeWhile_append_of_pos passes]
      simp
    have behind : text.toList.dropWhile (· != '=') = '=' :: value := by
      rw [parts, List.dropWhile_append_of_pos passes]
      simp
    rw [front] at named taken
    rw [behind] at taken
    cases taken
    exact ⟨name, by simpa using parts, absent, by simpa using named, rfl⟩

namespace Level

theorem long?_eq_setting_iff (level : Level) (name : String) (setting : Setting) :
    level.long? name = some (.setting setting) ↔ Setting.ofLongName? name = some setting := by
  unfold long? Setting.ofLongName?
  split <;> simp_all

theorem short?_eq_setting_iff (c : Char) (setting : Setting) :
    short? c = some (.setting setting) ↔ Setting.ofShortName? c = some setting := by
  unfold short? Setting.ofShortName?
  split <;> simp_all

end Level

namespace Found

/-- A setting adds to the assignments what it gives as one. -/
theorem take_assignments {found next : Found} {option : Setting} {value : String}
    (taken : found.take option value = .ok next) :
    ∃ pairs, next.assignments = found.assignments ++ pairs ∧
      List.Forall₂ Assigns (Item.assignments [.setting option value]) pairs := by
  have none : ∀ {same : Found}, same.assignments = found.assignments →
      Item.assignments [.setting option value] = [] →
      ∃ pairs, same.assignments = found.assignments ++ pairs ∧
        List.Forall₂ Assigns (Item.assignments [.setting option value]) pairs := by
    intro same kept nothing
    exact ⟨[], by rw [kept, List.append_nil], nothing ▸ .nil⟩
  cases option with
  | assignment =>
      simp only [take] at taken
      split at taken
      · next pair assigned =>
        cases taken
        exact ⟨[pair], rfl, .cons (assigns_of_assignment assigned) .nil⟩
      · cases taken
  | baseUrl =>
      simp only [take] at taken
      split at taken <;> cases taken
      exact none rfl rfl
  | catalog =>
      simp only [take] at taken
      split at taken
      · cases taken
      · split at taken <;> cases taken
        exact none rfl rfl
  | timeout =>
      simp only [take] at taken
      split at taken
      · cases taken
      · split at taken <;> cases taken
        exact none rfl rfl

/-- A flag assigns nothing. -/
theorem raise_assignments {found next : Found} {level : Level} {flag : Flag}
    (raised : found.raise level flag = .ok next) : next.assignments = found.assignments := by
  cases flag with
  | concurrent =>
      simp only [raise] at raised
      split at raised <;> cases raised
      rfl
  | _ => cases raised <;> rfl

end Found

namespace Scan

/-- A scan holds the assignments of some items: it has taken them in, or the last is pending. -/
def Holds (scan : Scan) (items : List Item) : Prop :=
  ∃ taken, Item.assignments items = taken ++ Item.assignments (Item.complete scan.pending) ∧
    List.Forall₂ Assigns taken scan.found.assignments

theorem holds_start : start.Holds [] :=
  ⟨[], rfl, .nil⟩

/-- With no value pending, all assignments have been taken in. -/
theorem holds_iff {scan : Scan} {items : List Item} (clear : Item.complete scan.pending = []) :
    scan.Holds items ↔
      List.Forall₂ Assigns (Item.assignments items) scan.found.assignments := by
  simp [Holds, clear, Item.assignments]

variable {scan closed next : Scan} {level : Level}

/-- Closing takes in what is pending. -/
theorem close_eq_ok (closes : scan.close = .ok closed) :
    closed.pending = none ∧ closed.wordsOnly = scan.wordsOnly ∧ scan.awaiting? = none ∧
      ∀ items, scan.Holds items →
        List.Forall₂ Assigns (Item.assignments items) closed.found.assignments := by
  unfold close at closes
  split at closes
  · next clear =>
    cases closes
    refine ⟨clear, rfl, by rw [awaiting?, clear], fun items => (holds_iff ?_).mp⟩
    rw [clear]
    rfl
  · cases closes
  · next option value pending =>
    cases taken : scan.found.take option value with
    | error refusal => rw [taken] at closes; cases closes
    | ok found =>
        rw [taken] at closes
        cases closes
        refine ⟨rfl, rfl, by rw [awaiting?, pending], ?_⟩
        rintro items ⟨before, parts, assigned⟩
        obtain ⟨pairs, added, last⟩ := Found.take_assignments taken
        rw [pending] at parts
        rw [parts]
        exact added ▸ List.rel_append assigned last

/-- What reading the names of options makes of a scan. -/
structure Advance (scan next : Scan) (given : Option Given) : Prop where
  settled : scan.awaiting? = none
  wordsOnly : next.wordsOnly = scan.wordsOnly
  pending : next.pending = given.filter fun named => named.2.isNone
  holds : ∀ items, scan.Holds items → next.Holds (items ++ Item.complete given)

/-- Flags in front of other names change nothing. -/
theorem Advance.behind_flags {between : Scan} {given : Option Given}
    (first : Advance scan between none) (second : Advance between next given) :
    Advance scan next given where
  settled := first.settled
  wordsOnly := second.wordsOnly.trans first.wordsOnly
  pending := second.pending
  holds items held := second.holds items (List.append_nil items ▸ first.holds items held)

theorem readSetting_advance {option : Setting} {value : Option String}
    (read : scan.readSetting option value = .ok next) :
    Advance scan next (some (option, value)) := by
  obtain ⟨closed, closes, read⟩ := bind_eq_ok_iff.mp read
  obtain ⟨clear, words, settled, holds⟩ := close_eq_ok closes
  cases value with
  | none =>
      cases read
      refine ⟨settled, words, rfl, fun items held => (holds_iff rfl).mpr ?_⟩
      rw [Item.complete, List.append_nil]
      · exact holds items held
      · simp
  | some value =>
      obtain ⟨found, taken, rest⟩ := bind_eq_ok_iff.mp read
      cases rest
      obtain ⟨pairs, added, last⟩ := Found.take_assignments taken
      refine ⟨settled, words, clear, fun items held => (holds_iff ?_).mpr ?_⟩
      · rw [clear]
        rfl
      · rw [Item.assignments_append, added]
        exact List.rel_append (holds items held) last

theorem readFlag_advance {flag : Flag} (read : scan.readFlag level flag = .ok next) :
    Advance scan next none := by
  obtain ⟨closed, closes, read⟩ := bind_eq_ok_iff.mp read
  obtain ⟨clear, words, settled, holds⟩ := close_eq_ok closes
  obtain ⟨found, raised, rest⟩ := bind_eq_ok_iff.mp read
  cases rest
  refine ⟨settled, words, clear, fun items held => (holds_iff ?_).mpr ?_⟩
  · rw [clear]
    rfl
  · rw [Found.raise_assignments raised, Item.complete, List.append_nil]
    · exact holds items held
    · simp

theorem readLong_advance {name : List Char} (read : scan.readLong level name = .ok next) :
    Advance scan next (Given.ofLong? name) := by
  unfold readLong at read
  simp only at read
  split at read
  · cases read
  · next option value known =>
    rw [Given.ofLong?, (Level.long?_eq_setting_iff ..).mp known]
    exact readSetting_advance read
  · next flag known _ =>
    have other : Setting.ofLongName? (String.ofList (name.takeWhile (· != '='))) = none := by
      rw [Option.eq_none_iff_forall_ne_some]
      intro option named
      rw [(Level.long?_eq_setting_iff ..).mpr named] at known
      cases known
    rw [Given.ofLong?, other]
    exact readFlag_advance read
  · cases read

/-- Flags may stand in front of the first short name of a setting, which ends the argument. -/
theorem readShort_advance {scan : Scan} {c : Char} (names : List Char)
    (read : scan.readShort level (c :: names) = .ok next) :
    Advance scan next (Given.ofShort? (c :: names)) := by
  unfold readShort at read
  split at read
  · cases read
  · next option known =>
    rw [Given.ofShort?, (Level.short?_eq_setting_iff ..).mp known]
    exact readSetting_advance read
  · next flag known =>
    have other : Setting.ofShortName? c = none := by
      rw [Option.eq_none_iff_forall_ne_some]
      intro option named
      rw [(Level.short?_eq_setting_iff ..).mpr named] at known
      cases known
    obtain ⟨raised, flagged, read⟩ := bind_eq_ok_iff.mp read
    rw [Given.ofShort?, other]
    cases names with
    | nil =>
        cases read
        exact readFlag_advance flagged
    | cons d rest => exact (readFlag_advance flagged).behind_flags (readShort_advance rest read)

def itemsFrom (scan : Scan) (arguments : List String) : List Item :=
  if scan.wordsOnly then arguments.map .word
  else
    match scan.awaiting?, arguments with
    | some option, value :: rest => .setting option value :: Item.ofArguments rest
    | _, arguments => Item.ofArguments arguments

theorem itemsFrom_words (words : scan.wordsOnly = true) (arguments : List String) :
    scan.itemsFrom arguments = arguments.map .word :=
  if_pos words

theorem itemsFrom_idle (names : scan.wordsOnly = false) (idle : scan.awaiting? = none)
    (arguments : List String) : scan.itemsFrom arguments = Item.ofArguments arguments := by
  simp [itemsFrom, names, idle]

theorem itemsFrom_awaiting (names : scan.wordsOnly = false) {option : Setting}
    (awaits : scan.awaiting? = some option) (value : String) (rest : List String) :
    scan.itemsFrom (value :: rest) = .setting option value :: Item.ofArguments rest := by
  simp [itemsFrom, names, awaits]

/-- What reading an argument adds to the items that a scan holds. -/
structure Progress (scan next : Scan) (level : Level) (argument : String) (new : List Item) :
    Prop where
  parts : ∀ rest, scan.itemsFrom (argument :: rest) = new ++ next.itemsFrom rest
  holds : ∀ items, scan.Holds items → next.Holds (items ++ new)
  wordless : level = .top → ∀ item ∈ new, item.isWord = false

theorem awaiting?_eq_some_iff {option : Setting} :
    scan.awaiting? = some option ↔ scan.pending = some (option, none) := by
  unfold awaiting?
  split <;> simp_all

/-- Names of options add the setting that they complete. -/
theorem Advance.progress {argument : String} {given : Option Given}
    (advance : Advance scan next given) (names : scan.wordsOnly = false)
    (shape : Shape.ofArgument argument = .options given) :
    Progress scan next level argument (Item.complete given) where
  parts rest := by
    have still : next.wordsOnly = false := advance.wordsOnly.trans names
    rw [itemsFrom_idle names advance.settled, Item.ofArguments, shape]
    match given, advance.pending with
    | none, pending =>
        have idle : next.awaiting? = none := by rw [awaiting?, pending]; rfl
        rw [itemsFrom_idle still idle]
        rfl
    | some (option, some value), pending =>
        have idle : next.awaiting? = none := by rw [awaiting?, pending]; rfl
        rw [itemsFrom_idle still idle]
        rfl
    | some (option, none), pending =>
        have awaits : next.awaiting? = some option := awaiting?_eq_some_iff.mpr pending
        cases rest with
        | nil => simp [itemsFrom, still, Item.complete, Item.ofArguments]
        | cons value others =>
            rw [itemsFrom_awaiting still awaits]
            rfl
  holds := advance.holds
  wordless _ item member := by
    match given with
    | none => cases member
    | some (_, none) => cases member
    | some (option, some value) =>
        rw [List.mem_singleton.mp member]
        rfl

/-- A word is taken in behind commands that take endpoints, and nowhere else. -/
theorem readWord_progress {word : String} (read : scan.readWord level word = .ok next)
    (plain : scan.wordsOnly = true ∨ Shape.ofArgument word = .word) :
    Progress scan next level word [.word word] := by
  unfold readWord at read
  split at read
  · next takes =>
    obtain ⟨closed, closes, rest⟩ := bind_eq_ok_iff.mp read
    obtain ⟨clear, words, settled, holds⟩ := close_eq_ok closes
    obtain ⟨same, pending, kept⟩ : next.wordsOnly = scan.wordsOnly ∧ next.pending = none ∧
        next.found.assignments = closed.found.assignments := by
      cases rest
      exact ⟨words, clear, rfl⟩
    have idle : next.awaiting? = none := by rw [awaiting?, pending]
    refine ⟨fun others => ?_, fun items held => (holds_iff ?_).mpr ?_, ?_⟩
    · cases only : scan.wordsOnly with
      | true =>
          rw [itemsFrom_words only, itemsFrom_words (same.trans only)]
          rfl
      | false =>
          have shape : Shape.ofArgument word = .word := by simpa [only] using plain
          rw [itemsFrom_idle only settled, itemsFrom_idle (same.trans only) idle,
            Item.ofArguments, shape]
          rfl
    · rw [pending]
      rfl
    · rw [Item.assignments_append, kept]
      exact (List.append_nil (Item.assignments items)).symm ▸ holds items held
    · rintro rfl
      cases takes
  · split at read <;> cases read

/-- All that reading an argument can be. -/
theorem read_cases {argument : String} (read : scan.read level argument = .ok next) :
    (scan.wordsOnly = true ∧ scan.readWord level argument = .ok next) ∨
    (scan.wordsOnly = false ∧
      ((Shape.ofArgument argument = .terminator ∧ next = { scan with wordsOnly := true }) ∨
      (∃ given, Shape.ofArgument argument = .options given ∧ Advance scan next given) ∨
      (Shape.ofArgument argument = .word ∧ scan.readPlain level argument = .ok next))) := by
  unfold Scan.read at read
  cases words : scan.wordsOnly with
  | true => exact .inl ⟨rfl, by simpa [words] using read⟩
  | false =>
      refine .inr ⟨rfl, ?_⟩
      simp only [words, Bool.false_eq_true, if_false] at read
      unfold Shape.ofArgument
      generalize argument.toList = cs at read ⊢
      split at read
      · cases read
        exact .inl ⟨rfl, rfl⟩
      · next long => exact .inr (.inl ⟨_, by simp_all, readLong_advance read⟩)
      · next c names _ long => exact .inr (.inl ⟨_, by simp_all, readShort_advance names read⟩)
      · next plain => exact .inr (.inr ⟨by simp_all, read⟩)

/-- Whether a scan can no longer be brought to an end: the value that it awaits cannot come. -/
def Stuck (scan : Scan) : Prop :=
  scan.wordsOnly = true ∧ scan.awaiting? ≠ none

/-- An argument adds to the items what it gives or completes, unless nothing can follow it. -/
theorem read_progress {argument : String} (read : scan.read level argument = .ok next)
    (live : ¬next.Stuck) : ∃ new, Progress scan next level argument new := by
  rcases read_cases read with ⟨words, read⟩ | ⟨names, ⟨shape, rfl⟩ | ⟨given, shape, advance⟩ |
    ⟨shape, read⟩⟩
  · exact ⟨_, readWord_progress read (.inl words)⟩
  · refine ⟨[], fun rest => ?_, fun items held => ?_, fun _ item member => by cases member⟩
    · have idle : scan.awaiting? = none := by
        by_contra awaits
        exact live ⟨rfl, awaits⟩
      rw [itemsFrom_idle names idle, Item.ofArguments, shape]
      rfl
    · rw [List.append_nil]
      exact held
  · exact ⟨_, advance.progress names shape⟩
  · unfold readPlain at read
    split at read
    · next option awaits =>
      let given : Scan := { scan with pending := some (option, some argument) }
      have same : next = given := (Except.ok.inj read).symm
      have clear : Item.complete scan.pending = [] := by
        rw [awaiting?_eq_some_iff.mp awaits]
        rfl
      have still : given.wordsOnly = false := names
      have idle : given.awaiting? = none := rfl
      rw [same]
      refine ⟨[.setting option argument], fun rest => ?_, fun items held => ?_, ?_⟩
      · rw [itemsFrom_awaiting names awaits, itemsFrom_idle still idle]
        rfl
      · exact ⟨Item.assignments items, Item.assignments_append .., (holds_iff clear).mp held⟩
      · intro _ item member
        rw [List.mem_singleton.mp member]
        rfl
    · exact ⟨_, readWord_progress read (.inr shape)⟩

/-- A level that is read to an end at which no value is awaited was never stuck. -/
theorem not_stuck {last : Scan} {arguments : List String}
    {command : Option (Level × List String)}
    (read : readAll level scan arguments = .ok (last, command)) (settled : last.awaiting? = none) :
    ¬scan.Stuck := by
  rintro ⟨words, awaits⟩
  cases arguments with
  | nil =>
      cases read
      exact awaits settled
  | cons argument rest =>
      have busy : scan.awaiting?.isNone = false := by
        cases found : scan.awaiting? with
        | none => exact absurd found awaits
        | some option => rfl
      simp only [readAll, words, busy, Bool.false_eq_true, and_false, not_true_eq_false,
        false_and, if_false] at read
      -- Every further argument is a word, and a word closes what is pending before it is taken in.
      obtain ⟨next, first, _⟩ := bind_eq_ok_iff.mp read
      simp only [Scan.read, words, if_true, readWord] at first
      split at first
      · obtain ⟨closed, closes, _⟩ := bind_eq_ok_iff.mp first
        exact awaits (close_eq_ok closes).2.2.1
      · split at first <;> cases first

theorem itemsFrom_nil (scan : Scan) : scan.itemsFrom [] = [] := by
  unfold itemsFrom
  split
  · rfl
  · split <;> simp_all [Item.ofArguments]

/-- A command is a word. -/
theorem shape_of_command {word : String} {behind : Level}
    (command : Level.ofCommand? word = some behind) : Shape.ofArgument word = .word := by
  unfold Level.ofCommand? at command
  split at command <;> first | rfl | cases command

/-- Of the items of a level, those that have been read when it is left: at its end all of them, and
on the top level those in front of the first word. -/
inductive LeftAt (level : Level) :
    List Item → List Item → Option (Level × List String) → Prop where
  | atEnd (items : List Item) : LeftAt level items items none
  | atCommand {before : List Item} {word : String} {behind : Level} (rest : List String)
      (top : level = .top) (named : Level.ofCommand? word = some behind)
      (wordless : ∀ item ∈ before, item.isWord = false) :
      LeftAt level (before ++ .word word :: Item.ofArguments rest) before (some (behind, rest))

theorem LeftAt.prepend {items own new : List Item} {command : Option (Level × List String)}
    (left : LeftAt level items own command)
    (wordless : level = .top → ∀ item ∈ new, item.isWord = false) :
    LeftAt level (new ++ items) (new ++ own) command := by
  cases left with
  | atEnd => exact .atEnd _
  | atCommand rest top named others =>
      rw [← List.append_assoc]
      refine .atCommand rest top named fun item member => ?_
      rcases List.mem_append.mp member with here | there
      · exact wordless top item here
      · exact others item there

/-- A level that is read to where it is left holds the assignments among the items up to there. -/
theorem readAll_items {last : Scan} {arguments : List String} {items : List Item}
    {command : Option (Level × List String)}
    (read : readAll level scan arguments = .ok (last, command)) (settled : last.awaiting? = none)
    (held : scan.Holds items) :
    ∃ own, LeftAt level (scan.itemsFrom arguments) own command ∧ last.Holds (items ++ own) := by
  induction arguments generalizing scan items with
  | nil =>
      cases read
      rw [itemsFrom_nil]
      exact ⟨[], .atEnd [], (List.append_nil items).symm ▸ held⟩
  | cons argument rest ih =>
      simp only [readAll] at read
      split at read
      · cases read
      · split at read
        · next behind named =>
          cases read
          split at named
          · next free =>
            obtain ⟨top, names, idle⟩ := free
            have wordless : ∀ item ∈ ([] : List Item), item.isWord = false :=
              fun item member => by cases member
            refine ⟨[], ?_, (List.append_nil items).symm ▸ held⟩
            rw [itemsFrom_idle (by simpa using names) (by simpa using idle), Item.ofArguments,
              shape_of_command named]
            exact .atCommand rest top named wordless
          · cases named
        · -- What the scan holds grows by what the argument adds, and the rest starts from there.
          obtain ⟨next, first, remaining⟩ := bind_eq_ok_iff.mp read
          obtain ⟨new, progress⟩ := read_progress first (not_stuck remaining settled)
          obtain ⟨own, left, holds⟩ := ih remaining (progress.holds items held)
          rw [progress.parts]
          exact ⟨new ++ own, left.prepend progress.wordless, List.append_assoc .. ▸ holds⟩

/-- A level that is read and closed has taken in the assignments among its items. -/
theorem readAll_close {arguments : List String} {last : Scan}
    {command : Option (Level × List String)}
    (read : readAll level .start arguments = .ok (last, command))
    (closes : last.close = .ok closed) :
    ∃ own, LeftAt level (Item.ofArguments arguments) own command ∧
      List.Forall₂ Assigns (Item.assignments own) closed.found.assignments := by
  obtain ⟨_, _, settled, holds⟩ := close_eq_ok closes
  obtain ⟨own, left, held⟩ := readAll_items read settled holds_start
  rw [itemsFrom_idle rfl rfl] at left
  exact ⟨own, left, holds own held⟩

end Scan

end ApiConsole.CommandLine
