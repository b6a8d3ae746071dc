import ApiConsole.Batch
import ApiConsole.Proofs.Prompt.Records

/-!
# Outputs that fail

A record is written to an output as its text, and the output is flushed behind it; whether either
succeeds is not listened to.  So every output is offered the same records, and a batch or a prompt
sends the same requests, leaves the same console and ends in the same way over an output that has
been closed as over one that works.
-/

namespace ApiConsole

variable {σ ω υ : Type}

/-- Something that texts are written to and that is flushed behind them; both say whether they
succeeded, and a write that fails may have taken in a part of its text. -/
structure Output (ω : Type) where
  write : ω → String → ω × Bool
  flush : ω → ω × Bool

/-- Records are written as texts, and the output is flushed behind each, even where it was not
written. -/
def Output.sink (output : Output ω) : Sink ω where
  write out record :=
    let (written, whole) := output.write out record.text
    let (flushed, through) := output.flush written
    (flushed, whole && through)

/-- Texts that are gathered one behind another make up an output on which nothing fails. -/
example : Output.sink ⟨fun out text => (out ++ text, true), fun out => (out, true)⟩ = Sink.text :=
  rfl

/-- On an output that has been closed everything fails. -/
example : Output.sink ⟨fun out _ => (out, false), fun out => (out, false)⟩ = Sink.closed ω :=
  rfl

namespace Batch

def State.writtenTo (sink : Sink ω) (out : ω) (state : State σ (List Record)) : State σ ω :=
  ⟨state.console, sink.emit out state.out⟩

variable (sink : Sink ω) (out : ω) (clock : Option (Nat → TimeOfDay))

theorem writtenTo_write (state : State σ (List Record)) (record : Record) :
    (state.write ⟨.gather, clock⟩ record).writtenTo sink out =
      (state.writtenTo sink out).write ⟨sink, clock⟩ record := by
  rw [State.writtenTo, State.write, Sink.emit_gather, Sink.emit_append]
  rfl

theorem composeAll_writtenTo (state : State σ (List Record)) (ids : List String) :
    composeAll ⟨sink, clock⟩ (state.writtenTo sink out) ids =
      (composeAll ⟨.gather, clock⟩ state ids).map (State.writtenTo sink out) id := by
  induction ids generalizing state with
  | nil => rfl
  | cons id rest ih =>
      have same : (state.writtenTo sink out).console = state.console := rfl
      rw [composeAll, composeAll, same]
      cases state.console.compose id with
      | error error => rfl
      | ok request =>
          have next := ih (state.write ⟨.gather, clock⟩ (compositionRecord id request))
          rw [writtenTo_write] at next
          exact next

theorem fireAll_writtenTo (transport : Transport σ) (state : State σ (List Record))
    (ids : List String) :
    fireAll ⟨sink, clock⟩ transport (state.writtenTo sink out) ids =
      (fireAll ⟨.gather, clock⟩ transport state ids).map (State.writtenTo sink out) id := by
  induction ids generalizing state with
  | nil => rfl
  | cons id rest ih =>
      have same : (state.writtenTo sink out).console = state.console := rfl
      rw [fireAll, fireAll, same]
      obtain ⟨console, result⟩ := state.console.fire transport id
      cases result with
      | error error => rfl
      | ok outcome =>
          let fired : State σ (List Record) := { state with console }
          let record := Record.outcome (clock.map fun clock => clock console.now) id outcome
          have next := ih (fired.write ⟨.gather, clock⟩ record)
          rw [writtenTo_write] at next
          exact next

theorem reportAll_writtenTo (state : State σ (List Record)) (results : List (String × FireResult)) :
    reportAll ⟨sink, clock⟩ (state.writtenTo sink out) results =
      (reportAll ⟨.gather, clock⟩ state results).map (State.writtenTo sink out) id := by
  induction results generalizing state with
  | nil => rfl
  | cons pair rest ih =>
      obtain ⟨id, result⟩ := pair
      cases result with
      | error error => rfl
      | ok outcome =>
          let record := Record.outcome (clock.map fun clock => clock state.console.now) id outcome
          have next := ih (state.write ⟨.gather, clock⟩ record)
          rw [writtenTo_write] at next
          exact next

/-- Wherever a batch writes to, it writes the same records and ends in the same way. -/
theorem run_eq_emit (transport : Transport σ) (console : Console σ) (action : Action) :
    run ⟨sink, clock⟩ transport ⟨console, out⟩ action =
      (run ⟨.gather, clock⟩ transport ⟨console, []⟩ action).map (State.writtenTo sink out) id := by
  cases action with
  | list =>
      change _ = ((⟨console, sink.emit out (Sink.gather.emit [] _)⟩ : State σ ω), _)
      rw [Sink.emit_gather]
      rfl
  | compose ids => exact composeAll_writtenTo sink out clock ⟨console, []⟩ ids
  | fire ids concurrent =>
      cases concurrent with
      | false => exact fireAll_writtenTo sink out clock transport ⟨console, []⟩ ids
      | true => exact reportAll_writtenTo sink out clock ⟨_, []⟩ _
  | repl => rfl

end Batch

/--
Two outputs, of which either may fail at any write and any flush, or at all of them, are offered the
same records.  Over both of them a batch leaves the same console, with the same requests, the same
session and the same transport, and ends with the same result; and a prompt leaves the same console.
-/
theorem output_is_best_effort (first : Output ω) (second : Output υ) (out : ω) (other : υ)
    (clock : Option (Nat → TimeOfDay)) (transport : Transport σ) (console : Console σ) :
    (∀ action,
      let ran := Batch.run ⟨first.sink, clock⟩ transport ⟨console, out⟩ action
      let twin := Batch.run ⟨second.sink, clock⟩ transport ⟨console, other⟩ action
      twin.1.console = ran.1.console ∧ twin.2 = ran.2 ∧
        ∃ records, ran.1.out = first.sink.emit out records ∧
          twin.1.out = second.sink.emit other records) ∧
    ∀ chunks,
      let ran := runPrompt ⟨first.sink, clock⟩ transport console out chunks
      let twin := runPrompt ⟨second.sink, clock⟩ transport console other chunks
      twin.1 = ran.1 ∧
        ∃ records, ran.2 = first.sink.emit out records ∧
          twin.2 = second.sink.emit other records := by
  constructor
  · intro action
    rw [Batch.run_eq_emit first.sink, Batch.run_eq_emit second.sink]
    exact ⟨rfl, rfl, _, rfl, rfl⟩
  · intro chunks
    rw [runPrompt_eq_emit first.sink, runPrompt_eq_emit second.sink]
    exact ⟨rfl, _, rfl, rfl⟩

end ApiConsole
