import ApiConsole.Proofs.Concurrent
import ApiConsole.Proofs.Prompt.Handles

/-!
# A prompt without delays

Where the transport never takes its time, a prompt can be read as a plain sequence.  Of each chunk
of whole lines, everything but the fires is carried out first, line by line, and then the fires of
these lines follow one after another, each reported before the next one starts.  So a fire sees
every setting of its own chunk, and every extraction of the fires before it.
-/

namespace ApiConsole

variable {σ ω : Type}

abbrev Desk (σ ω : Type) := Console σ × ω

namespace Desk

variable (reporter : Reporter ω) (transport : Transport σ)

/-- Carries out a line but for its fires. -/
def carryOut (desk : Desk σ ω) (line : String) : Desk σ ω :=
  (desk.1.setAll (Prompt.settingOf? line).toList,
    reporter.sink.emit desk.2 (Prompt.toldBy desk.1.catalog desk.1.session line))

def fire (desk : Desk σ ω) (id : String) : Desk σ ω :=
  let (console, result) := desk.1.fire transport id
  (console, reporter.sink.emit desk.2 [reporter.recordOf id console.now result])

/-- Carries out some lines, up to where a prompt ends, and then their fires. -/
def attendLines (desk : Desk σ ω) (lines : List Line) : Desk σ ω :=
  let read := Prompt.linesRead lines
  (Prompt.firedIds read).foldl (fire reporter transport) (read.foldl (carryOut reporter) desk)

/-- Attends to the lines of one chunk after another, up to the chunk in which a prompt ends. -/
def attend (desk : Desk σ ω) : List Chunk → Desk σ ω
  | [] => desk
  | chunk :: rest =>
      let lines := Input.lines chunk.bytes
      let attended := attendLines reporter transport (desk.1.wait chunk.delay, desk.2) lines
      if lines.any Prompt.endsAt then attended else attend attended rest

end Desk

namespace Input

/-- The lines of chunks of whole lines arrive with the chunks; the last may end inside a line. -/
theorem arrivals_of_whole {chunks : List Chunk}
    (whole : ∀ chunk ∈ chunks.dropLast, (cutLines chunk.bytes).2 = []) :
    arrivals chunks = chunks.map fun chunk => ⟨chunk.delay, lines chunk.bytes⟩ := by
  induction chunks with
  | nil => rfl
  | cons chunk rest ih =>
      cases rest with
      | nil => rfl
      | cons next rest =>
          have ended : (cutLines chunk.bytes).2 = [] := whole chunk (List.mem_cons_self ..)
          have behind := ih fun other member => whole other (List.mem_cons_of_mem _ member)
          have all : lines chunk.bytes = (cutLines chunk.bytes).1.map lineOf := by
            rw [lines, ended]
            exact List.append_nil _
          rw [arrivals, arrivalsBehind_cons [] chunk (List.cons_ne_nil next rest), List.nil_append,
            ended, List.map_cons, all]
          exact congrArg _ behind

end Input

/-- A fire whose outcome is there at once takes no time. -/
theorem Console.now_fire {transport : Transport σ} (immediate : transport.Immediate)
    (console : Console σ) (id : String) : (console.fire transport id).1.now = console.now := by
  cases known : console.catalog.get id with
  | error error => rw [fire, compose_of_unknown known]
  | ok endpoint =>
      have there := immediate console.wire (Request.compose endpoint console.session)
      rw [fire, compose_of_known known]
      simp [send, wait, resolve, there]

namespace Prompt

variable (reporter : Reporter ω) {transport : Transport σ}

/-- Lines put their fires behind those that wait, and carry out the rest. -/
theorem obeyLines_desk (desk : Desk σ ω) (waiting : List String) (started : Nat)
    (lines : List String) :
    lines.foldl (obeyLine reporter) ⟨.ofConsole desk.1, waiting, started, desk.2⟩ =
      let after := lines.foldl (Desk.carryOut reporter) desk
      ⟨.ofConsole after.1, waiting ++ firedIds lines, started, after.2⟩ := by
  induction lines generalizing desk waiting with
  | nil => simp [firedIds]
  | cons line rest ih =>
      have fired : waiting ++ firedIds (line :: rest) =
          waiting ++ firedBy line ++ firedIds rest := (List.append_assoc ..).symm
      rw [List.foldl_cons, List.foldl_cons, obeyLine_eq, fired]
      have later := ih (Desk.carryOut reporter desk line) (waiting ++ firedBy line)
      simp only [Desk.carryOut] at later ⊢
      exact later

/-- Waiting fires whose outcomes are there at once start and end one after another. -/
theorem startWaiting_immediate (immediate : transport.Immediate) (console : Console σ) (out : ω)
    (started : Nat) (ids : List String) :
    (⟨.ofConsole console, ids, started, out⟩ : Prompt σ ω).startWaiting reporter transport =
      let desk := ids.foldl (Desk.fire reporter transport) (console, out)
      idle desk.1 (started + ids.length) desk.2 := by
  induction ids generalizing console out started with
  | nil => rfl
  | cons id rest ih =>
      let fired := console.fire transport id
      have reported : Desk.fire reporter transport (console, out) id =
          (fired.1, reporter.sink.emit out [reporter.recordOf id console.now fired.2]) := by
        rw [← Console.now_fire immediate console id]
        rfl
      have total : started + (id :: rest).length = started + 1 + rest.length := by
        rw [List.length_cons]
        omega
      rw [List.foldl_cons, reported, total, ← ih]
      simp only [startWaiting, tickets, List.zipIdx_cons, List.map_cons, Traffic.launchAll,
        Traffic.launch_immediate immediate, write, Reporter.recordsOf, List.map_append,
        Sink.emit_append, total]
      rfl

/-- An arrival is attended to before the next one comes. -/
theorem attendArrivals_immediate (immediate : transport.Immediate) (desk : Desk σ ω)
    (started : Nat) (chunks : List Chunk) :
    ∃ total, (idle desk.1 started desk.2).attendArrivals reporter transport
        (chunks.map fun chunk => ⟨chunk.delay, Input.lines chunk.bytes⟩) =
      idle (desk.attend reporter transport chunks).1 total
        (desk.attend reporter transport chunks).2 := by
  induction chunks generalizing desk started with
  | nil => exact ⟨started, rfl⟩
  | cons chunk rest ih =>
      let lines := Input.lines chunk.bytes
      let read := linesRead lines
      let waited : Desk σ ω := (desk.1.wait chunk.delay, desk.2)
      let attended := Desk.attendLines reporter transport waited lines
      have obeyed : (idle desk.1 started desk.2).obeyArrival reporter ⟨chunk.delay, lines⟩ =
          let carried := read.foldl (Desk.carryOut reporter) waited
          ⟨.ofConsole carried.1, firedIds read, started, carried.2⟩ := by
        rw [obeyArrival, pass_idle]
        exact obeyLines_desk reporter waited [] started read
      have settled : ((idle desk.1 started desk.2).obeyArrival reporter
          ⟨chunk.delay, lines⟩).startWaiting reporter transport =
            idle attended.1 (started + (firedIds read).length) attended.2 := by
        rw [obeyed]
        exact startWaiting_immediate reporter immediate ..
      rw [List.map_cons, attendArrivals, settled, Desk.attend]
      cases lines.any endsAt with
      | true => exact ⟨_, rfl⟩
      | false => exact ih attended _

end Prompt

/--
With a transport that answers at once, and input that comes in whole lines, a prompt leaves the
console and the output of a plain sequence: of each chunk first its lines and then their fires, one
after another, up to the chunk in which the prompt ends.
-/
theorem runPrompt_eq_attend {transport : Transport σ} (immediate : transport.Immediate)
    (reporter : Reporter ω) (console : Console σ) (out : ω) (chunks : List Chunk)
    (whole : ∀ chunk ∈ chunks.dropLast, (Input.cutLines chunk.bytes).2 = []) :
    runPrompt reporter transport console out chunks =
      Desk.attend reporter transport (console, out) chunks := by
  obtain ⟨total, attended⟩ :=
    Prompt.attendArrivals_immediate reporter immediate (console, out) 0 chunks
  have begun : Prompt.start console out = Prompt.idle console 0 out := rfl
  -- Behind the last line nothing is under way, so there is nothing to wait for.
  rw [Prompt.runPrompt_eq_drain, Input.arrivals_of_whole whole, begun, attended,
    Prompt.drain_of_grounded reporter rfl]
  rfl

/--
A fire sees the settings on both sides of its line and what the fires before it have brought, and
behind the line that ends the prompt nothing counts.
-/
theorem runPrompt_eq_attend_quitting :
    let console := Console.start Catalog.builtin Watch.default Session.default 0
    let chunks : List Chunk :=
      [⟨0, "set conn_uuid a\nfire read-conn add-conn\nset conn_uuid b\n".toUTF8.toList⟩,
        ⟨5, "fire read-conn nope\nexit\nfire read-conn".toUTF8.toList⟩]
    let reporter : Reporter String := ⟨Sink.text, none⟩
    let left := runPrompt reporter Transport.counting console "" chunks
    Transport.counting.Immediate ∧
      (∀ chunk ∈ chunks.dropLast, (Input.cutLines chunk.bytes).2 = []) ∧
      left = Desk.attend reporter Transport.counting (console, "") chunks ∧
      left.1.sent.map Request.url = ["/connection/b", "/connection", "/connection/1"] ∧
      left.2 =
        "read-conn\nSTATUS: 200\n\x7b\n  \"uuid\": \"0\"\n\x7d\n" ++
          "add-conn\nSTATUS: 200\n\x7b\n  \"uuid\": \"1\"\n\x7d\n" ++
          "read-conn\nSTATUS: 200\n\x7b\n  \"uuid\": \"2\"\n\x7d\n" ++
          "unknown endpoint: nope\n" := by
  intro console chunks reporter left
  have immediate : Transport.counting.Immediate := fun _ _ => rfl
  have whole : ∀ chunk ∈ chunks.dropLast, (Input.cutLines chunk.bytes).2 = [] := by
    decide +kernel
  have same : left = Desk.attend reporter Transport.counting (console, "") chunks :=
    runPrompt_eq_attend immediate reporter console "" chunks whole
  refine ⟨immediate, whole, same, ?_, ?_⟩ <;> rw [same] <;> decide +kernel

end ApiConsole
