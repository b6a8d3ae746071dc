import ApiConsole.CommandLine
import ApiConsole.Proofs.CommandLine.Items
import ApiConsole.Proofs.Session

/-!
# Which assignments the session starts with

The assignments behind the command replace those in front of it.  So all of them count exactly if
they stand on one side of the command; the session then starts with the last value of each name,
above the prompts.
-/

namespace ApiConsole

def Session.prompt? (name : String) : Option String :=
  if name = connectionName then some "connection uuid"
  else if name = messageName then some "msg id"
  else none

theorem Session.get?_default (name : String) : default.get? name = prompt? name := by
  have fresh : default = (empty.set connectionName "connection uuid").set messageName "msg id" := rfl
  rw [fresh, get?_set, get?_set, prompt?]
  by_cases connection : name = connectionName
  · subst connection
    rfl
  · rw [if_neg connection, if_neg connection]
    rfl

def lastValue? (name : String) (pairs : List (String × String)) : Option String :=
  (pairs.filterMap fun pair => if pair.1 = name then some pair.2 else none).getLast?

/-- The session starts with the last override of each name, above the prompts. -/
theorem Settings.get?_session (settings : Settings) (name : String) :
    settings.session.get? name =
      (lastValue? name settings.overrides).or (Session.prompt? name) := by
  rw [← Session.get?_default]
  exact Session.get?_foldl (fun session pair => session.get?_set_or pair.1 name pair.2)
    Session.default settings.overrides

namespace CommandLine

namespace Item

def beforeCommand (items : List Item) : List Item :=
  items.takeWhile fun item => !item.isWord

def behindCommand (items : List Item) : List Item :=
  (items.dropWhile fun item => !item.isWord).drop 1

/-- The command is no assignment. -/
theorem assignments_sides (items : List Item) :
    assignments items = assignments (beforeCommand items) ++ assignments (behindCommand items) := by
  induction items with
  | nil => rfl
  | cons item rest ih =>
      cases item with
      | word text => rfl
      | setting option value =>
          have split : assignments (.setting option value :: rest) =
              assignments [.setting option value] ++ assignments rest :=
            assignments_append [.setting option value] rest
          rw [split, ih, ← List.append_assoc, ← assignments_append]
          rfl

variable {before : List Item} (wordless : ∀ item ∈ before, item.isWord = false)
include wordless

theorem beforeCommand_append (command : String) (behind : List Item) :
    beforeCommand (before ++ .word command :: behind) = before := by
  rw [beforeCommand, List.takeWhile_append_of_pos (by simpa using wordless)]
  exact List.append_nil before

theorem behindCommand_append (command : String) (behind : List Item) :
    behindCommand (before ++ .word command :: behind) = behind := by
  rw [behindCommand, List.dropWhile_append_of_pos (by simpa using wordless)]
  rfl

end Item

theorem Level.ofCommand?_ne_top (word : String) : ofCommand? word ≠ some .top := by
  unfold ofCommand?
  split <;> simp

namespace Scan.LeftAt

variable {level behind : Level} {items own : List Item} {rest : List String}

/-- Behind a command a level is read to its end. -/
theorem own_eq {word : String} {command : Option (Level × List String)}
    (left : LeftAt level items own command) (named : Level.ofCommand? word = some level) :
    own = items := by
  cases left with
  | atEnd => rfl
  | atCommand _ top => exact absurd (top ▸ named) (Level.ofCommand?_ne_top word)

/-- A level that is left for a command is left at the first word. -/
theorem at_command (left : LeftAt level items own (some (behind, rest))) :
    ∃ word, items = own ++ .word word :: Item.ofArguments rest ∧
      Level.ofCommand? word = some behind ∧ ∀ item ∈ own, item.isWord = false := by
  cases left with
  | atCommand _ _ named wordless => exact ⟨_, rfl, named, wordless⟩

end Scan.LeftAt

/-- An accepted command line has a level in front of its command and one behind it. -/
theorem parse_eq_ok {environment : Option String} {arguments : List String}
    {settings : Settings} {action : Action}
    (accepted : parse environment arguments = .ok (settings, action)) :
    let items := Item.ofArguments arguments
    ∃ outer inner,
      List.Forall₂ Assigns (Item.assignments (Item.beforeCommand items)) outer.assignments ∧
      List.Forall₂ Assigns (Item.assignments (Item.behindCommand items)) inner.assignments ∧
      settings = settingsOf environment outer inner := by
  intro items
  obtain ⟨⟨top, command⟩, readTop, further⟩ := bind_eq_ok_iff.mp accepted
  cases command with
  | none =>
      obtain ⟨_, _, thrown⟩ := bind_eq_ok_iff.mp further
      cases thrown
  | some command =>
      obtain ⟨level, rest⟩ := command
      obtain ⟨⟨last, deeper⟩, readRest, further⟩ := bind_eq_ok_iff.mp further
      obtain ⟨inner, closesLast, further⟩ := bind_eq_ok_iff.mp further
      obtain ⟨_, _, further⟩ := bind_eq_ok_iff.mp further
      obtain ⟨outer, closesTop, further⟩ := bind_eq_ok_iff.mp further
      cases further
      obtain ⟨before, leftTop, taken⟩ := Scan.readAll_close readTop closesTop
      obtain ⟨behind, leftLast, takenLast⟩ := Scan.readAll_close readRest closesLast
      obtain ⟨word, parts, named, wordless⟩ := leftTop.at_command
      have sides : items = before ++ .word word :: Item.ofArguments rest := parts
      rw [leftLast.own_eq named] at takenLast
      refine ⟨outer.found, inner.found, ?_, ?_, rfl⟩
      · rwa [sides, Item.beforeCommand_append wordless]
      · rwa [sides, Item.behindCommand_append wordless]

section

variable {before behind : List String} {outer inner : List (String × String)}

/-- The pairs behind the command count, and those in front of it where there are none behind. -/
theorem forall₂_inner_or_outer (first : List.Forall₂ Assigns before outer)
    (second : List.Forall₂ Assigns behind inner) :
    List.Forall₂ Assigns (if behind = [] then before else behind)
      (if inner.isEmpty then outer else inner) := by
  cases second with
  | nil => exact first
  | cons assigned rest => exact .cons assigned rest

/-- These are all pairs exactly if one side has none. -/
theorem forall₂_inner_or_outer_iff (first : List.Forall₂ Assigns before outer)
    (second : List.Forall₂ Assigns behind inner) :
    List.Forall₂ Assigns (before ++ behind) (if inner.isEmpty then outer else inner) ↔
      before = [] ∨ behind = [] := by
  have counted := forall₂_inner_or_outer first second
  constructor
  · -- There are as many pairs as texts, so one of the sides adds none.
    intro all
    have sizes := all.length_eq.trans counted.length_eq.symm
    rw [List.length_append] at sizes
    split at sizes
    · next none => exact .inr none
    · exact .inl (List.length_eq_zero_iff.mp (by omega))
  · rintro (rfl | rfl)
    · split at counted
      · next none => simpa [none] using counted
      · exact counted
    · rw [List.append_nil]
      exact counted

end

/--
What an accepted command line makes of its assignments, which are read from it as one list of items:
the session starts with all of them, in their order, exactly if they do not stand on both sides of
the command, the first word.  Otherwise only those behind the command are left.  Each name has the
last value among those that are left, and the prompts remain under names without one.
-/
theorem parse_overrides_all_iff {environment : Option String} {arguments : List String}
    {settings : Settings} {action : Action}
    (accepted : parse environment arguments = .ok (settings, action)) :
    let items := Item.ofArguments arguments
    let before := Item.assignments (Item.beforeCommand items)
    let behind := Item.assignments (Item.behindCommand items)
    (List.Forall₂ Assigns (Item.assignments items) settings.overrides ↔
      before = [] ∨ behind = []) ∧
    List.Forall₂ Assigns (if behind = [] then before else behind) settings.overrides ∧
    ∀ name, settings.session.get? name =
      (lastValue? name settings.overrides).or (Session.prompt? name) := by
  intro items before behind
  obtain ⟨outer, inner, first, second, rfl⟩ := parse_eq_ok accepted
  refine ⟨?_, forall₂_inner_or_outer first second, Settings.get?_session _⟩
  rw [Item.assignments_sides]
  exact forall₂_inner_or_outer_iff first second

/-- Options of both kinds in front of the command, with an equals sign in a value. -/
def oneSided : List String := ["-vs", "a=1", "--set= a =x=2", "compose", "--", "-s"]

theorem parse_overrides_all_iff_oneSided :
    ∃ settings, parse none oneSided = .ok (settings, .compose ["-s"]) ∧
      List.Forall₂ Assigns (Item.assignments (Item.ofArguments oneSided)) settings.overrides ∧
      settings.session.get? "a" = some "x=2" := by
  let settings : Settings :=
    ⟨Settings.defaultBaseUrl, none, [("a", "1"), ("a", "x=2")], none, 1⟩
  have accepted : parse none oneSided = .ok (settings, .compose ["-s"]) := by decide
  obtain ⟨all, _, session⟩ := parse_overrides_all_iff accepted
  exact ⟨settings, accepted, all.mpr (by decide), (session "a").trans (by decide)⟩

/-- Assignments on both sides of the command: the first is lost. -/
def twoSided : List String := ["-s", "a=1", "compose", "x", "-s", "b=2"]

theorem parse_overrides_lost :
    ∃ settings, parse none twoSided = .ok (settings, .compose ["x"]) ∧
      Item.assignments (Item.ofArguments twoSided) = ["a=1", "b=2"] ∧
      settings.overrides = [("b", "2")] ∧
      ¬List.Forall₂ Assigns (Item.assignments (Item.ofArguments twoSided)) settings.overrides ∧
      settings.session.get? "a" = none := by
  let settings : Settings := ⟨Settings.defaultBaseUrl, none, [("b", "2")], none, 0⟩
  have given : Item.assignments (Item.ofArguments twoSided) = ["a=1", "b=2"] := by decide
  refine ⟨settings, by decide, given, rfl, fun all => ?_, by decide⟩
  rw [given] at all
  cases all.length_eq

end CommandLine

end ApiConsole
