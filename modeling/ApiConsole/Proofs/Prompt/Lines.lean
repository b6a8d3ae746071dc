import ApiConsole.Prompt
import ApiConsole.Proofs.Traffic

/-!
# The lines of a prompt

However the input is cut into chunks, its lines are those of all its bytes.  A prompt carries out
the lines before the one at which it ends, and none of them does more than write records, overwrite
one session value and put fires behind those that wait to be started.
-/

namespace ApiConsole

namespace Input

def lines (bytes : List UInt8) : List Line :=
  (cutLines bytes).1.map lineOf ++ lastLine (cutLines bytes).2

/-- Bytes can be cut up to any place, and then from the start of the line at that place. -/
theorem cutLines_append (first second : List UInt8) :
    cutLines (first ++ second) =
      ((cutLines first).1 ++ (cutLines ((cutLines first).2 ++ second)).1,
        (cutLines ((cutLines first).2 ++ second)).2) := by
  induction first with
  | nil => rfl
  | cons byte rest ih =>
      rw [List.cons_append, cutLines, cutLines, ih]
      by_cases feed : byte = lineFeed
      · simp only [if_pos feed, List.cons_append]
      · cases whole : (cutLines rest).1 with
        | nil => simp only [if_neg feed, whole, List.nil_append, List.cons_append, cutLines]
        | cons line others => simp only [if_neg feed, whole, List.cons_append]

theorem lines_append (first second : List UInt8) :
    lines (first ++ second) =
      (cutLines first).1.map lineOf ++ lines ((cutLines first).2 ++ second) := by
  rw [lines, lines, cutLines_append, List.map_append, List.append_assoc]

theorem arrivalsBehind_last (start : List UInt8) (chunk : Chunk) :
    arrivalsBehind start [chunk] = [⟨chunk.delay, lines (start ++ chunk.bytes)⟩] := rfl

theorem arrivalsBehind_cons (start : List UInt8) (chunk : Chunk) {rest : List Chunk}
    (more : rest ≠ []) :
    arrivalsBehind start (chunk :: rest) =
      ⟨chunk.delay, (cutLines (start ++ chunk.bytes)).1.map lineOf⟩ ::
        arrivalsBehind (cutLines (start ++ chunk.bytes)).2 rest := by
  cases rest with
  | nil => exact absurd rfl more
  | cons next rest => rfl

theorem flatMap_lines_arrivalsBehind (start : List UInt8) (chunks : List Chunk)
    (some : chunks ≠ []) :
    (arrivalsBehind start chunks).flatMap Arrival.lines =
      lines (start ++ chunks.flatMap Chunk.bytes) := by
  induction chunks generalizing start with
  | nil => exact absurd rfl some
  | cons chunk rest ih =>
      cases rest with
      | nil => simp [arrivalsBehind_last]
      | cons next rest =>
          have more : next :: rest ≠ [] := List.cons_ne_nil next rest
          have bytes : (chunk :: next :: rest).flatMap Chunk.bytes =
              chunk.bytes ++ (next :: rest).flatMap Chunk.bytes := rfl
          rw [arrivalsBehind_cons start chunk more, List.flatMap_cons, ih _ more, bytes,
            ← List.append_assoc start, lines_append (start ++ chunk.bytes)]

/-- The lines that arrive are those of the bytes, however these are cut into chunks. -/
theorem flatMap_lines_arrivals (chunks : List Chunk) :
    (arrivals chunks).flatMap Arrival.lines = lines (chunks.flatMap Chunk.bytes) := by
  cases chunks with
  | nil => rfl
  | cons chunk rest => exact flatMap_lines_arrivalsBehind [] _ (List.cons_ne_nil chunk rest)

end Input

namespace Prompt

def endsAt : Line → Bool
  | none => true
  | some line => (Command.parse line).toOption = some .quit

def linesRead : List Line → List String
  | [] => []
  | none :: _ => []
  | some line :: rest => if endsAt (some line) then [] else line :: linesRead rest

def firedBy (line : String) : List String :=
  match Command.parse line with
  | .ok (.fire ids) => ids
  | _ => []

def settingOf? (line : String) : Option (String × String) :=
  match Command.parse line with
  | .ok (.set name value) => some (name, value)
  | _ => none

def toldBy (catalog : Catalog) (session : Session) (line : String) : List Record :=
  match Command.parse line with
  | .error fault => [.message fault.message]
  | .ok .help => [.message Command.helpText]
  | .ok .list => catalog.records
  | .ok .session => session.records
  | .ok (.compose id) =>
      [compositionRecord ((catalog.get id).map fun endpoint => Request.compose endpoint session)]
  | _ => []

def firedIds (lines : List String) : List String :=
  lines.flatMap firedBy

def settings (lines : List String) : List (String × String) :=
  lines.filterMap settingOf?

variable {σ ω : Type} (reporter : Reporter ω)

def obeyLine (prompt : Prompt σ ω) (line : String) : Prompt σ ω :=
  match Command.parse line with
  | .error fault => prompt.write reporter [.message fault.message]
  | .ok command => prompt.obey reporter command

/-- All that a line does. -/
theorem obeyLine_eq (prompt : Prompt σ ω) (line : String) :
    prompt.obeyLine reporter line =
      { traffic := { prompt.traffic with
          console := prompt.console.setAll (settingOf? line).toList }
        waiting := prompt.waiting ++ firedBy line
        started := prompt.started
        out := reporter.sink.emit prompt.out
          (toldBy prompt.console.catalog prompt.console.session line) } := by
  unfold obeyLine settingOf? firedBy toldBy
  cases Command.parse line with
  | error fault => simp [write, console, Console.setAll]
  | ok command =>
      cases command <;>
        simp [obey, write, console, Sink.emit, Console.compose, Console.setAll]

/-- Before each line the numbers of finished fires are dropped, and behind it come those it
fires. -/
theorem readLines_cons (prompt : Prompt σ ω) (held : List Nat) (line : String)
    (rest : List Line) :
    prompt.readLines reporter held (some line :: rest) =
      if endsAt (some line) then (prompt, prompt.retain held, true)
      else (prompt.obeyLine reporter line).readLines reporter
        (prompt.retain held ++ prompt.numbersFor (firedBy line)) rest := by
  rw [readLines, endsAt, obeyLine, firedBy]
  cases Command.parse line with
  | error fault => simp [Except.toOption, numbersFor]
  | ok command => cases command <;> simp [Except.toOption, holds, numbersFor]

/-- Lines are carried out in order up to where the prompt ends. -/
theorem readLines_eq (prompt : Prompt σ ω) (held : List Nat) (lines : List Line) :
    prompt.readLines reporter held lines =
      ((linesRead lines).foldl (obeyLine reporter) prompt,
        (prompt.readLines reporter held lines).2.1, lines.any endsAt) := by
  induction lines generalizing prompt held with
  | nil => rfl
  | cons line rest ih =>
      cases line with
      | none => rfl
      | some line =>
          rw [readLines_cons, linesRead, List.any_cons]
          cases endsAt (some line) with
          | true => rfl
          | false =>
              rw [if_neg Bool.false_ne_true, ih]
              rfl

def idle (console : Console σ) (started : Nat) (out : ω) : Prompt σ ω :=
  ⟨.ofConsole console, [], started, out⟩

/-- Where nothing is under way, nothing happens while time passes. -/
theorem pass_idle (console : Console σ) (started : Nat) (out : ω) (delay : Nat) :
    (idle console started out).pass reporter delay = idle (console.wait delay) started out := by
  simp [pass, idle, Traffic.pass, Traffic.ofConsole, Traffic.land, write, Sink.emit,
    Reporter.recordsOf, Console.wait]

/-- Behind the line at which a prompt ends, no line counts. -/
theorem linesRead_append (first second : List Line) :
    linesRead (first ++ second) =
      if first.any endsAt then linesRead first else linesRead first ++ linesRead second := by
  induction first with
  | nil => rfl
  | cons line rest ih =>
      cases line with
      | none => rfl
      | some line =>
          cases ends : endsAt (some line) with
          | false =>
              cases others : rest.any endsAt <;> simp [linesRead, ends, ih, others]
          | true => simp [linesRead, ends]

end Prompt

end ApiConsole
