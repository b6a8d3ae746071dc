import ApiConsole.Proofs.Prompt.AtOnce

/-!
# Lines that only say something

Some lines have a prompt say something and do nothing else: those that ask for the help, the
catalog, the session or a composition, those that are empty and those that are no commands.  A
script without some of them sends the same, reports the same outcomes and leaves the same session.
-/

namespace ApiConsole

/-- What is left of a list when some of its idle elements are deleted. -/
inductive Pruned {α : Type} (idle : α → Prop) : List α → List α → Prop where
  | nil : Pruned idle [] []
  | keep (x : α) {whole left : List α} (pruned : Pruned idle whole left) :
      Pruned idle (x :: whole) (x :: left)
  | delete {x : α} (chosen : idle x) {whole left : List α} (pruned : Pruned idle whole left) :
      Pruned idle (x :: whole) left

theorem Pruned.sublist {α : Type} {idle : α → Prop} {whole left : List α}
    (pruned : Pruned idle whole left) : left.Sublist whole := by
  induction pruned with
  | nil => exact .slnil
  | keep x _ ih => exact ih.cons_cons x
  | delete _ _ ih => exact ih.cons _

namespace Input

/-- The lines of bytes as they stand there, each with the line feed that ends it. -/
def rows : List UInt8 → List (List UInt8)
  | [] => []
  | byte :: rest =>
      if byte = lineFeed then [byte] :: rows rest
      else
        match rows rest with
        | [] => [[byte]]
        | row :: others => (byte :: row) :: others

theorem flatten_rows (bytes : List UInt8) : (rows bytes).flatten = bytes := by
  induction bytes with
  | nil => rfl
  | cons byte rest ih =>
      rw [rows]
      split
      · rw [List.flatten_cons, ih, List.singleton_append]
      · cases found : rows rest with
        | nil =>
            rw [found] at ih
            simp [← ih]
        | cons row others =>
            rw [found] at ih
            simp [← ih]

/-- Every row that others follow ends with a line feed. -/
theorem rows_ended (bytes : List UInt8) :
    (rows bytes).Pairwise fun row _ => ∃ front, row = front ++ [lineFeed] := by
  induction bytes with
  | nil => exact .nil
  | cons byte rest ih =>
      rw [rows]
      split
      · next feed => exact List.pairwise_cons.mpr ⟨fun _ _ => ⟨[], feed ▸ rfl⟩, ih⟩
      · cases found : rows rest with
        | nil => exact List.pairwise_singleton ..
        | cons row others =>
            rw [found] at ih
            obtain ⟨here, later⟩ := List.pairwise_cons.mp ih
            refine List.pairwise_cons.mpr ⟨fun next member => ?_, later⟩
            obtain ⟨front, same⟩ := here next member
            exact ⟨byte :: front, congrArg (byte :: ·) same⟩

/-- Nothing is left behind a line feed at the end. -/
theorem cutLines_append_feed (front : List UInt8) :
    ∃ line others, cutLines (front ++ [lineFeed]) = (line :: others, []) := by
  induction front with
  | nil => exact ⟨[], [], rfl⟩
  | cons byte front ih =>
      obtain ⟨line, others, cut⟩ := ih
      rw [List.cons_append, cutLines, cut]
      by_cases feed : byte = lineFeed
      · exact ⟨[], line :: others, if_pos feed⟩
      · exact ⟨byte :: line, others, if_neg feed⟩

/-- The lines of rows are those of each row. -/
theorem lines_flatten {rows : List (List UInt8)}
    (ended : rows.Pairwise fun row _ => ∃ front, row = front ++ [lineFeed]) :
    lines rows.flatten = rows.flatMap lines := by
  induction rows with
  | nil => rfl
  | cons row rest ih =>
      obtain ⟨here, later⟩ := List.pairwise_cons.mp ended
      cases rest with
      | nil => simp
      | cons next rest =>
          obtain ⟨front, rfl⟩ := here next List.mem_cons_self
          obtain ⟨line, others, cut⟩ := cutLines_append_feed front
          have whole : (cutLines (front ++ [lineFeed])).2 = [] := congrArg Prod.snd cut
          rw [List.flatten_cons, List.flatMap_cons, lines_append_of_whole whole, ih later]

end Input

def Sink.outcomes : Sink (List Record) where
  write out record := (if record.isRemark then out else out ++ [record], true)

theorem Sink.emit_outcomes (out records : List Record) :
    outcomes.emit out records = out ++ records.filter (!·.isRemark) := by
  induction records generalizing out with
  | nil => exact (List.append_nil out).symm
  | cons record rest ih =>
      refine (ih _).trans ?_
      cases kind : record.isRemark <;> simp [outcomes, kind]

/-- Whether what a line asks for is something said at once, and nothing else. -/
def Command.isIdle : Except Command.Fault Command → Bool
  | .error _ => true
  | .ok .nothing | .ok .help | .ok .list | .ok .session | .ok (.compose _) => true
  | .ok (.set _ _) | .ok (.fire _) | .ok .quit => false

def Input.IdleRow (row : List UInt8) : Prop :=
  ∃ line, Input.lines row = [some line] ∧ Command.isIdle (Command.parse line) = true

namespace Prompt

def busyLines (lines : List String) : List String :=
  lines.filter fun line => !Command.isIdle (Command.parse line)

/-- A script without some idle rows has the same lines that do something. -/
theorem busyLines_of_pruned {rows left : List (List UInt8)}
    (pruned : Pruned Input.IdleRow rows left) :
    busyLines (linesRead (left.flatMap Input.lines)) =
      busyLines (linesRead (rows.flatMap Input.lines)) := by
  induction pruned with
  | nil => rfl
  | keep row _ ih =>
      rw [List.flatMap_cons, List.flatMap_cons, linesRead_append, linesRead_append]
      -- A row that is kept may be the one at which the prompt ends.
      cases (Input.lines row).any endsAt with
      | true => rfl
      | false =>
          simp only [busyLines, Bool.false_eq_true, if_false, List.filter_append] at ih ⊢
          rw [ih]
  | delete chosen _ ih =>
      obtain ⟨line, single, idle⟩ := chosen
      have goesOn : ¬endsAt (some line) = true := by
        intro ends
        rw [endsAt_text_iff, ← Command.parse_eq_quit_iff] at ends
        rw [ends] at idle
        cases idle
      rw [ih, List.flatMap_cons, single, List.singleton_append, linesRead, if_neg goesOn, busyLines,
        busyLines, List.filter_cons_of_neg (by simp [idle])]

variable {σ : Type} (clock : Option (Nat → TimeOfDay))

/-- Where only outcomes are gathered, nothing is left of an idle line. -/
theorem obeyLine_idle (prompt : Prompt σ (List Record)) {line : String}
    (idle : Command.isIdle (Command.parse line) = true) :
    prompt.obeyLine ⟨.outcomes, clock⟩ line = prompt := by
  have unset : settingOf? line = none := by
    unfold settingOf?
    split
    · next sets =>
      rw [sets] at idle
      cases idle
    · rfl
  have unfired : firedBy line = [] := by
    unfold firedBy
    split
    · next fires =>
      rw [fires] at idle
      cases idle
    · rfl
  have remarks : (toldBy prompt.console.catalog prompt.console.session line).filter
      (!·.isRemark) = [] :=
    List.filter_eq_nil_iff.mpr fun record member => by simp [isRemark_of_mem_toldBy member]
  rw [obeyLine_eq, unset, unfired, Sink.emit_outcomes, remarks, List.append_nil, List.append_nil]
  rfl

theorem obeyLines_busyLines (prompt : Prompt σ (List Record)) (lines : List String) :
    (busyLines lines).foldl (obeyLine ⟨.outcomes, clock⟩) prompt =
      lines.foldl (obeyLine ⟨.outcomes, clock⟩) prompt := by
  induction lines generalizing prompt with
  | nil => rfl
  | cons line rest ih =>
      cases idle : Command.isIdle (Command.parse line) with
      | true =>
          rw [busyLines, List.filter_cons_of_neg (by simp [idle]), List.foldl_cons,
            obeyLine_idle clock prompt idle]
          exact ih prompt
      | false =>
          rw [busyLines, List.filter_cons_of_pos (by simp [idle]), List.foldl_cons, List.foldl_cons]
          exact ih _

/-- A script without some idle rows does the same. -/
theorem runPrompt_outcomes_of_pruned (transport : Transport σ) (console : Console σ)
    {script : List UInt8} {left : List (List UInt8)}
    (pruned : Pruned Input.IdleRow (Input.rows script) left) :
    runPrompt ⟨.outcomes, clock⟩ transport console [] (Input.atOnce left.flatten) =
      runPrompt ⟨.outcomes, clock⟩ transport console [] (Input.atOnce script) := by
  have ended := Input.rows_ended script
  have cut : Input.lines script = (Input.rows script).flatMap Input.lines := by
    rw [← Input.lines_flatten ended, Input.flatten_rows]
  have cutToo : Input.lines left.flatten = left.flatMap Input.lines :=
    Input.lines_flatten (ended.sublist pruned.sublist)
  rw [runPrompt_atOnce, runPrompt_atOnce, cut, cutToo, afterLines, afterLines,
    ← obeyLines_busyLines, busyLines_of_pruned pruned, obeyLines_busyLines]

end Prompt

/--
Without some of its idle lines a script that is there at once sends the same requests in the same
order, takes in the same outcomes and leaves the same session.  What it writes differs in remarks
only: the records of outcomes are the same, whatever the records are written to.
-/
theorem runPrompt_pruned {σ : Type} (clock : Option (Nat → TimeOfDay)) (transport : Transport σ)
    (console : Console σ) {script : List UInt8} {left : List (List UInt8)}
    (pruned : Pruned Input.IdleRow (Input.rows script) left) :
    let run (bytes : List UInt8) :=
      runPrompt ⟨.gather, clock⟩ transport console [] (Input.atOnce bytes)
    (run left.flatten).1 = (run script).1 ∧
      (run left.flatten).2.filter (!·.isRemark) = (run script).2.filter (!·.isRemark) ∧
      ∀ (bytes : List UInt8) (ω : Type) (sink : Sink ω) (out : ω),
        runPrompt ⟨sink, clock⟩ transport console out (Input.atOnce bytes) =
          ((run bytes).1, sink.emit out (run bytes).2) := by
  intro run
  have same := Prompt.runPrompt_outcomes_of_pruned clock transport console pruned
  rw [runPrompt_eq_emit .outcomes clock, runPrompt_eq_emit .outcomes clock] at same
  dsimp only at same
  rw [Sink.emit_outcomes, Sink.emit_outcomes] at same
  obtain ⟨consoles, records⟩ := Prod.mk.inj same
  exact ⟨consoles, records, fun bytes ω sink out => runPrompt_eq_emit sink clock ..⟩

/-- Six idle lines of nine are deleted, from in front of, between and behind the others. -/
theorem runPrompt_pruned_six :
    let console := Console.start Catalog.builtin Watch.default Session.default Script.slow
    let run (bytes : List UInt8) :=
      runPrompt ⟨.gather, none⟩ Transport.scripted console [] (Input.atOnce bytes)
    let script := ["help\r\n", "set conn_uuid c\n", "launch\n", "fire read-msg nope\n", "\n",
      "compose nope\n", "session\n", "fire add-conn\n", "ls"].map fun row => row.toUTF8.toList
    let left := ["set conn_uuid c\n", "fire read-msg nope\n", "fire add-conn\n"].map fun row =>
      row.toUTF8.toList
    Pruned Input.IdleRow (Input.rows script.flatten) left ∧
      (run left.flatten).1 = (run script.flatten).1 ∧
      (run left.flatten).2.filter (!·.isRemark) = (run script.flatten).2.filter (!·.isRemark) := by
  intro console run script left
  have rows : Input.rows script.flatten = script := by decide +kernel
  have pruned : Pruned Input.IdleRow (Input.rows script.flatten) left := by
    rw [rows]
    refine .delete ⟨"help", ?_, ?_⟩ (.keep _ (.delete ⟨"launch", ?_, ?_⟩ (.keep _
      (.delete ⟨"", ?_, ?_⟩ (.delete ⟨"compose nope", ?_, ?_⟩ (.delete ⟨"session", ?_, ?_⟩
        (.keep _ (.delete ⟨"ls", ?_, ?_⟩ .nil)))))))) <;> decide +kernel
  obtain ⟨consoles, records, _⟩ := runPrompt_pruned none Transport.scripted console pruned
  exact ⟨pruned, consoles, records⟩

end ApiConsole
