import ApiConsole.Proofs.Prompt.Fires
import ApiConsole.Proofs.Prompt.Grammar

/-!
# Input that is there at once

A prompt whose lines are all there at once carries them out up to the one at which it ends, and
only then starts their fires and waits for them.  So it leaves the same whether it ends with the
input, at a line that says so or at one that is no text, and nothing that follows such a line is
ever read.
-/

namespace ApiConsole

namespace Input

/-- Behind whole lines comes the start of a line. -/
theorem lines_append_of_whole {first : List UInt8} (whole : (cutLines first).2 = [])
    (second : List UInt8) : lines (first ++ second) = lines first ++ lines second := by
  have alone : lines first = (cutLines first).1.map lineOf := by
    rw [lines, whole]
    exact List.append_nil _
  rw [lines_append, whole, alone, List.nil_append]

/-- The texts of lines, up to the first line that is none. -/
def texts (lines : List Line) : List String :=
  (lines.takeWhile Option.isSome).filterMap id

end Input

variable {σ ω : Type}

namespace Prompt

theorem endsAt_text_iff (line : String) : endsAt (some line) = true ↔ Command.Quits line := by
  rw [← Command.parse_eq_quit_iff, endsAt, decide_eq_true_iff]
  cases Command.parse line <;> simp [Except.toOption]

/-- A prompt reads all texts of lines of which none says that it is to end. -/
theorem linesRead_eq_texts {lines : List Line}
    (unquit : ∀ line ∈ lines, ∀ text ∈ line, ¬Command.Quits text) :
    linesRead lines = Input.texts lines := by
  induction lines with
  | nil => rfl
  | cons line rest ih =>
      obtain ⟨here, later⟩ := List.forall_mem_cons.mp unquit
      cases line with
      | none => rfl
      | some text =>
          have goesOn : ¬endsAt (some text) = true :=
            fun ends => here text rfl ((endsAt_text_iff text).mp ends)
          rw [linesRead, if_neg goesOn, ih later]
          rfl

/-- Nothing behind a line at which the prompt ends is read. -/
theorem linesRead_append_of_ended (lines : List Line) {rest : List Line} {stop : Line}
    (first : rest.head? = some stop) (ends : endsAt stop = true) :
    linesRead (lines ++ rest) = linesRead lines := by
  have unread : linesRead rest = [] := by
    obtain ⟨others, rfl⟩ := List.head?_eq_some_iff.mp first
    cases stop with
    | none => rfl
    | some text => rw [linesRead, if_pos ends]
  rw [linesRead_append, unread, List.append_nil, ite_self]

variable (reporter : Reporter ω) (transport : Transport σ)

/-- The prompt that some lines leave which are all there at once. -/
def afterLines (console : Console σ) (out : ω) (lines : List String) : Prompt σ ω :=
  ((lines.foldl (obeyLine reporter) (start console out)).startWaiting reporter transport).drain
    reporter

theorem runPrompt_atOnce (console : Console σ) (out : ω) (bytes : List UInt8) :
    runPrompt reporter transport console out (Input.atOnce bytes) =
      let left := afterLines reporter transport console out (linesRead (Input.lines bytes))
      (left.console, left.out) := by
  have begun : (start console out).pass reporter 0 = start console out := pass_idle reporter ..
  rw [runPrompt_eq_drain, Input.atOnce, Input.arrivals, Input.arrivalsBehind_last, attendArrivals,
    obeyArrival, begun, List.nil_append]
  cases (Input.lines bytes).any endsAt <;> rfl

/-- Once a prompt is over that had some lines at once, each of their fires has taken place. -/
theorem afterLines_firedOnce (console : Console σ) (out : ω) (lines : List String) :
    ∃ records steps launched landed told,
      (afterLines reporter transport console out lines).out = reporter.sink.emit out records ∧
      FiredOnce transport console (afterLines reporter transport console out lines).console lines
        records steps launched landed told := by
  have begun : Reached transport reporter console out [] (start console out) :=
    ⟨_, _, _, _, Progress.refl transport reporter console out⟩
  have read := begun.obeyLines lines
  rw [List.nil_append] at read
  obtain ⟨steps, run, records, told, progress⟩ := read.startWaiting.drain
  exact ⟨records, steps, _, _, told, progress.out, progress.firedOnce rfl rfl⟩

end Prompt

open Prompt in
/--
Whole lines leave the same console and output whether the input ends with them or goes on with a
line at which the prompt ends, one that quits or one that is no text, and with anything behind it.
Each fire of these lines has taken place once the prompt is over.
-/
theorem runPrompt_ended_early (reporter : Reporter ω) (transport : Transport σ)
    (console : Console σ) (out : ω) {before rest : List UInt8} {stop : Line}
    (whole : (Input.cutLines before).2 = [])
    (unquit : ∀ line ∈ Input.lines before, ∀ text ∈ line, ¬Command.Quits text)
    (first : (Input.lines rest).head? = some stop) (stops : ∀ text ∈ stop, Command.Quits text) :
    runPrompt reporter transport console out (Input.atOnce (before ++ rest)) =
        runPrompt reporter transport console out (Input.atOnce before) ∧
      ∃ after records steps launched landed told,
        runPrompt reporter transport console out (Input.atOnce before) =
          (after, reporter.sink.emit out records) ∧
        FiredOnce transport console after (Input.texts (Input.lines before)) records steps launched
          landed told := by
  have ends : endsAt stop = true := by
    cases stop with
    | none => rfl
    | some text => exact (endsAt_text_iff text).mpr (stops text rfl)
  constructor
  · rw [runPrompt_atOnce, runPrompt_atOnce, Input.lines_append_of_whole whole,
      linesRead_append_of_ended _ first ends]
  · obtain ⟨records, steps, launched, landed, told, out, once⟩ := afterLines_firedOnce reporter
      transport console out (Input.texts (Input.lines before))
    refine ⟨_, records, steps, launched, landed, told, ?_, once⟩
    rw [runPrompt_atOnce, linesRead_eq_texts unquit, ← out]

/-- Fires that are under way when the prompt ends still land, and no fire behind its end starts. -/
theorem runPrompt_ended_early_slow :
    let console := Console.start Catalog.builtin Watch.default (.ofList [("conn_uuid", "c")])
      Script.slow
    let run (bytes : List UInt8) :=
      runPrompt ⟨Sink.text, none⟩ Transport.scripted console "" (Input.atOnce bytes)
    let before := "fire add-conn nope\nset msg_id m\nfire read-msg\n".toUTF8.toList
    run (before ++ "exit now\r\nfire list-conns\n".toUTF8.toList) = run before ∧
      run (before ++ 0xff :: 10 :: "fire list-conns".toUTF8.toList) = run before ∧
      ∃ landed : List Fire, (landed.map Fire.id).Perm ["add-conn", "read-msg"] ∧
        (run before).1.resolved = landed.map fun fire => (fire.request, fire.answer) := by
  intro console run before
  have whole : (Input.cutLines before).2 = [] := by decide +kernel
  have unquit : ∀ line ∈ Input.lines before, ∀ text ∈ line, ¬Command.Quits text := by
    decide +kernel
  have quits : (Input.lines "exit now\r\nfire list-conns\n".toUTF8.toList).head? =
      some (some "exit now") := by
    decide +kernel
  have noText : (Input.lines (0xff :: 10 :: "fire list-conns".toUTF8.toList)).head? =
      some none := by
    decide +kernel
  obtain ⟨quitting, after, records, steps, launched, landed, told, left, once⟩ :=
    runPrompt_ended_early ⟨Sink.text, none⟩ Transport.scripted console "" whole unquit quits
      (by decide +kernel)
  obtain ⟨garbled, _⟩ :=
    runPrompt_ended_early ⟨Sink.text, none⟩ Transport.scripted console "" whole unquit noText
      (by decide +kernel)
  have ids : launched.map Fire.id = ["add-conn", "read-msg"] := once.ids.trans (by decide +kernel)
  refine ⟨quitting, garbled, landed, ids ▸ once.once.map Fire.id, ?_⟩
  exact (congrArg (fun run => run.1.resolved) left).trans once.resolved

end ApiConsole
