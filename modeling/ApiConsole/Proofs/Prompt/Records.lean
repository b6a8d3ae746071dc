import ApiConsole.Proofs.Prompt.Handles

/-!
# Where a prompt writes

Where its records are written to has no part in the work of a prompt.  So a prompt can be told by
the list of its records: whatever they are written to, it leaves the same console, and the output is
what writing this list makes of it.
-/

namespace ApiConsole

variable {σ ω : Type}

def Sink.gather : Sink (List Record) where
  write out record := (out ++ [record], true)

theorem Sink.emit_gather (out records : List Record) : gather.emit out records = out ++ records := by
  induction records generalizing out with
  | nil => exact (List.append_nil out).symm
  | cons record rest ih => exact (ih (out ++ [record])).trans (List.append_assoc ..)

/-- A text gathers the texts of its records, each once and in order. -/
theorem Sink.emit_text (out : String) (records : List Record) :
    text.emit out records = out ++ String.join (records.map Record.text) := by
  induction records generalizing out with
  | nil => exact String.append_empty.symm
  | cons record rest ih =>
      rw [List.map_cons, String.join_cons, ← String.append_assoc]
      exact ih (out ++ record.text)

namespace Prompt

variable (sink : Sink ω) (out : ω) (clock : Option (Nat → TimeOfDay))

def writtenTo (prompt : Prompt σ (List Record)) : Prompt σ ω :=
  ⟨prompt.traffic, prompt.waiting, prompt.started, sink.emit out prompt.out⟩

theorem writtenTo_write (prompt : Prompt σ (List Record)) (records : List Record) :
    (prompt.write ⟨.gather, clock⟩ records).writtenTo sink out =
      (prompt.writtenTo sink out).write ⟨sink, clock⟩ records := by
  rw [writtenTo, write, Sink.emit_gather, Sink.emit_append]
  rfl

theorem writtenTo_obeyLine (prompt : Prompt σ (List Record)) (line : String) :
    (prompt.obeyLine ⟨.gather, clock⟩ line).writtenTo sink out =
      (prompt.writtenTo sink out).obeyLine ⟨sink, clock⟩ line := by
  rw [obeyLine_eq, obeyLine_eq, writtenTo, Sink.emit_gather, Sink.emit_append]
  rfl

theorem writtenTo_obeyLines (prompt : Prompt σ (List Record)) (lines : List String) :
    (lines.foldl (obeyLine ⟨.gather, clock⟩) prompt).writtenTo sink out =
      lines.foldl (obeyLine ⟨sink, clock⟩) (prompt.writtenTo sink out) := by
  induction lines generalizing prompt with
  | nil => rfl
  | cons line rest ih => rw [List.foldl_cons, List.foldl_cons, ih, writtenTo_obeyLine]

theorem writtenTo_attendArrivals (transport : Transport σ) (prompt : Prompt σ (List Record))
    (arrivals : List Arrival) :
    (prompt.attendArrivals ⟨.gather, clock⟩ transport arrivals).writtenTo sink out =
      (prompt.writtenTo sink out).attendArrivals ⟨sink, clock⟩ transport arrivals := by
  induction arrivals generalizing prompt with
  | nil => rfl
  | cons arrival rest ih =>
      have passed : (prompt.pass ⟨.gather, clock⟩ arrival.delay).writtenTo sink out =
          (prompt.writtenTo sink out).pass ⟨sink, clock⟩ arrival.delay :=
        writtenTo_write sink out clock ..
      have started (read : Prompt σ (List Record)) :
          (read.startWaiting ⟨.gather, clock⟩ transport).writtenTo sink out =
            (read.writtenTo sink out).startWaiting ⟨sink, clock⟩ transport :=
        writtenTo_write sink out clock ..
      rw [attendArrivals, attendArrivals, obeyArrival, obeyArrival, ← passed,
        ← writtenTo_obeyLines, ← started, ← ih]
      cases arrival.lines.any endsAt <;> rfl

end Prompt

/-- Wherever a prompt writes to, it writes the same records and leaves the same console. -/
theorem runPrompt_eq_emit (sink : Sink ω) (clock : Option (Nat → TimeOfDay))
    (transport : Transport σ) (console : Console σ) (out : ω) (chunks : List Chunk) :
    runPrompt ⟨sink, clock⟩ transport console out chunks =
      let (left, records) := runPrompt ⟨.gather, clock⟩ transport console [] chunks
      (left, sink.emit out records) := by
  have drained (prompt : Prompt σ (List Record)) :
      (prompt.drain ⟨.gather, clock⟩).writtenTo sink out =
        (prompt.writtenTo sink out).drain ⟨sink, clock⟩ :=
    Prompt.writtenTo_write sink out clock ..
  have begun : (Prompt.start console []).writtenTo sink out = Prompt.start console out := rfl
  rw [Prompt.runPrompt_eq_drain, Prompt.runPrompt_eq_drain, ← begun,
    ← Prompt.writtenTo_attendArrivals, ← drained]
  rfl

end ApiConsole
