import ApiConsole.Catalog
import ApiConsole.Proofs.Prompt.Handles
import ApiConsole.Proofs.Reach
import ApiConsole.Transport

/-!
# A setting behind the fires

Fires start once there is no more line to read for the moment.  So a setting behind the last line of
some input leaves the requests of that input as they are if it arrives later; but where it arrives
together with that line, the fires that still wait to be started see it.
-/

namespace ApiConsole

namespace Input

/-- Only a line feed ends a line. -/
theorem cutLines_eq_nil_iff (bytes : List UInt8) :
    (cutLines bytes).1 = [] ↔ lineFeed ∉ bytes := by
  induction bytes with
  | nil => simp [cutLines]
  | cons byte rest ih =>
      rw [cutLines]
      by_cases feed : byte = lineFeed
      · simp [feed]
      · have other : lineFeed ≠ byte := fun same => feed same.symm
        cases whole : (cutLines rest).1 with
        | nil => simp [feed, other, whole, ih.mp whole]
        | cons line others =>
            rw [whole] at ih
            simp [feed, other, whole, ← ih]

/-- All chunks but the last come down to their arrivals and the line they leave unfinished. -/
theorem arrivalsBehind_append (start : List UInt8) (before : List Chunk) :
    ∃ init tail,
      (∀ more, (cutLines (tail ++ more)).2 =
        (cutLines (start ++ before.flatMap Chunk.bytes ++ more)).2) ∧
      ∀ chunk rest, arrivalsBehind start (before ++ chunk :: rest) =
        init ++ arrivalsBehind tail (chunk :: rest) := by
  induction before generalizing start with
  | nil => exact ⟨[], start, fun more => by simp, fun chunk rest => rfl⟩
  | cons first before ih =>
      obtain ⟨init, tail, left, behind⟩ := ih (cutLines (start ++ first.bytes)).2
      refine ⟨⟨first.delay, (cutLines (start ++ first.bytes)).1.map lineOf⟩ :: init, tail, ?_, ?_⟩
      · intro more
        rw [left, List.flatMap_cons, List.append_assoc, ← List.append_assoc start,
          List.append_assoc (start ++ first.bytes), cutLines_append (start ++ first.bytes)]
      · intro chunk rest
        have nonempty : before ++ chunk :: rest ≠ [] :=
          List.append_ne_nil_of_right_ne_nil _ (List.cons_ne_nil chunk rest)
        rw [List.cons_append, arrivalsBehind_cons start first nonempty, behind]
        rfl

/--
A line that follows whole lines arrives together with the last of them if the first of its chunks
ends it, and behind it otherwise.
-/
theorem arrivals_followed {before extra : List Chunk} {last : Chunk} {first : List UInt8}
    {line : Line} (whole : (cutLines ((before ++ [last]).flatMap Chunk.bytes)).2 = [])
    (follows : lines (first ++ extra.flatMap Chunk.bytes) = [line]) :
    ∃ init ends others,
      arrivals (before ++ [last]) = init ++ [⟨last.delay, ends⟩] ∧
      (extra = [] ∨ lineFeed ∈ first →
        arrivals (before ++ ⟨last.delay, last.bytes ++ first⟩ :: extra) =
          init ++ ⟨last.delay, ends ++ [line]⟩ :: others ∧
        others.flatMap Arrival.lines = []) ∧
      (extra ≠ [] ∧ lineFeed ∉ first →
        arrivals (before ++ ⟨last.delay, last.bytes ++ first⟩ :: extra) =
          init ++ ⟨last.delay, ends⟩ :: others ∧
        others.flatMap Arrival.lines = [line]) := by
  obtain ⟨init, tail, left, behind⟩ := arrivalsBehind_append [] before
  let ends := (cutLines (tail ++ last.bytes)).1.map lineOf
  have finished : (cutLines (tail ++ last.bytes)).2 = [] := by
    rw [left, List.nil_append, ← whole, List.flatMap_append]
    simp
  have alone : arrivals (before ++ [last]) = init ++ [⟨last.delay, ends⟩] := by
    rw [arrivals, behind, arrivalsBehind_last, lines, finished]
    simp [lastLine, ends]
  cases extra with
  | nil =>
      refine ⟨init, ends, [], alone, ?_, ?_⟩
      · intro _
        refine ⟨?_, rfl⟩
        rw [List.flatMap_nil, List.append_nil] at follows
        rw [arrivals, behind, arrivalsBehind_last, ← List.append_assoc tail, lines_append,
          finished, List.nil_append, follows]
      · rintro ⟨impossible, _⟩
        exact absurd rfl impossible
  | cons next extra =>
      have nonempty : next :: extra ≠ [] := List.cons_ne_nil next extra
      let others := arrivalsBehind (cutLines first).2 (next :: extra)
      have followed : arrivals (before ++ ⟨last.delay, last.bytes ++ first⟩ :: next :: extra) =
          init ++ ⟨last.delay, ends ++ (cutLines first).1.map lineOf⟩ :: others := by
        rw [arrivals, behind, arrivalsBehind_cons _ _ nonempty, ← List.append_assoc tail,
          cutLines_append (tail ++ last.bytes), finished, List.nil_append, List.map_append]
      have parts : (cutLines first).1.map lineOf ++ others.flatMap Arrival.lines = [line] := by
        rw [flatMap_lines_arrivalsBehind _ _ nonempty, ← lines_append, follows]
      refine ⟨init, ends, others, alone, ?_, ?_⟩
      · rintro (impossible | ended)
        · exact absurd impossible nonempty
        · have some : (cutLines first).1.map lineOf ≠ [] := by
            intro none
            exact (cutLines_eq_nil_iff first).mp (List.map_eq_nil_iff.mp none) ended
          rcases List.append_eq_singleton_iff.mp parts with ⟨none, _⟩ | ⟨here, nothing⟩
          · exact absurd none some
          · rw [here] at followed
            exact ⟨followed, nothing⟩
      · rintro ⟨_, unended⟩
        have none : (cutLines first).1 = [] := (cutLines_eq_nil_iff first).mpr unended
        rw [none, List.map_nil, List.nil_append] at parts
        rw [none, List.map_nil, List.append_nil] at followed
        exact ⟨followed, parts⟩

end Input

variable {σ ω : Type}

namespace Prompt

variable (reporter : Reporter ω) (transport : Transport σ)

/-- Where a prompt does not end, it has started all fires. -/
theorem readArrivals_of_unended (prompt : Prompt σ ω) (held : List Nat) (arrivals : List Arrival)
    (goesOn : (arrivals.flatMap Arrival.lines).any endsAt = false) :
    (prompt.readArrivals reporter transport held arrivals).1 =
      prompt.attendArrivals reporter transport arrivals := by
  induction arrivals generalizing prompt held with
  | nil => rfl
  | cons arrival rest ih =>
      rw [List.flatMap_cons, List.any_append, Bool.or_eq_false_iff] at goesOn
      obtain ⟨here, later⟩ := goesOn
      rw [readArrivals, readArrival_eq, attendArrivals, here]
      exact ih _ _ later

/-- A prompt attends further behind arrivals at which it does not end. -/
theorem attendArrivals_append (prompt : Prompt σ ω) (first second : List Arrival)
    (goesOn : (first.flatMap Arrival.lines).any endsAt = false) :
    prompt.attendArrivals reporter transport (first ++ second) =
      (prompt.attendArrivals reporter transport first).attendArrivals reporter transport
        second := by
  induction first generalizing prompt with
  | nil => rfl
  | cons arrival rest ih =>
      rw [List.flatMap_cons, List.any_append, Bool.or_eq_false_iff] at goesOn
      obtain ⟨here, later⟩ := goesOn
      rw [List.cons_append, attendArrivals, attendArrivals, here]
      exact ih _ later

theorem sent_pass (prompt : Prompt σ ω) (delay : Nat) :
    (prompt.pass reporter delay).console.sent = prompt.console.sent := by
  obtain ⟨due, others, _, passed⟩ := prompt.traffic.pass_eq delay
  rw [pass, passed]
  exact Traffic.sent_land prompt.traffic.console due

/-- No line sends anything by itself. -/
theorem sent_obeyLines (prompt : Prompt σ ω) (lines : List String) :
    (lines.foldl (obeyLine reporter) prompt).console.sent = prompt.console.sent := by
  induction lines generalizing prompt with
  | nil => rfl
  | cons line rest ih =>
      rw [List.foldl_cons, ih, obeyLine_eq]
      cases settingOf? line <;> rfl

theorem waiting_obeyLines (prompt : Prompt σ ω) (lines : List String) :
    (lines.foldl (obeyLine reporter) prompt).waiting = prompt.waiting ++ firedIds lines := by
  induction lines generalizing prompt with
  | nil => exact (List.append_nil _).symm
  | cons line rest ih =>
      rw [List.foldl_cons, ih, obeyLine_eq]
      exact List.append_assoc prompt.waiting (firedBy line) (firedIds rest)

theorem console_startWaiting (prompt : Prompt σ ω) :
    (prompt.startWaiting reporter transport).console =
      (prompt.traffic.launchAll transport
        (prompt.tickets.map fun ticket => (ticket, ticket.id))).1.console := rfl

/-- Where no fire waits to be started and no line asks for one, nothing is sent. -/
theorem sent_attendArrivals (prompt : Prompt σ ω) (idle : prompt.waiting = [])
    (arrivals : List Arrival)
    (quiet : firedIds (linesRead (arrivals.flatMap Arrival.lines)) = []) :
    (prompt.attendArrivals reporter transport arrivals).console.sent = prompt.console.sent := by
  induction arrivals generalizing prompt with
  | nil => rfl
  | cons arrival rest ih =>
      rw [List.flatMap_cons, linesRead_append] at quiet
      have parts : firedIds (linesRead arrival.lines) = [] ∧
          (arrival.lines.any endsAt = false →
            firedIds (linesRead (rest.flatMap Arrival.lines)) = []) := by
        cases ends : arrival.lines.any endsAt with
        | true =>
            rw [if_pos ends] at quiet
            exact ⟨quiet, fun impossible => by cases impossible⟩
        | false =>
            rw [ends, firedIds, if_neg Bool.false_ne_true, List.flatMap_append] at quiet
            obtain ⟨here, later⟩ := List.append_eq_nil_iff.mp quiet
            exact ⟨here, fun _ => later⟩
      have unfired : (prompt.obeyArrival reporter arrival).waiting = [] := by
        rw [obeyArrival, waiting_obeyLines, parts.1, List.append_nil]
        exact idle
      have obeyed : (prompt.obeyArrival reporter arrival).console.sent = prompt.console.sent :=
        (sent_obeyLines reporter _ _).trans (sent_pass reporter prompt arrival.delay)
      rw [attendArrivals, startWaiting_of_idle reporter transport unfired]
      cases ends : arrival.lines.any endsAt with
      | true => exact obeyed
      | false => exact (ih _ unfired (parts.2 ends)).trans obeyed

/-- Once a prompt has started the fires of an arrival, only further fires can send anything. -/
theorem sent_attendArrivals_cons (prompt : Prompt σ ω) (arrival : Arrival)
    (others : List Arrival) (goesOn : arrival.lines.any endsAt = false)
    (quiet : firedIds (linesRead (others.flatMap Arrival.lines)) = []) :
    (prompt.attendArrivals reporter transport (arrival :: others)).console.sent =
      ((prompt.obeyArrival reporter arrival).startWaiting reporter transport).console.sent := by
  rw [attendArrivals, goesOn]
  exact sent_attendArrivals reporter transport _ rfl others quiet

/--
A setting just before the waiting fires start leaves what they send as it is exactly if the value is
there already or none of them shows it.
-/
theorem sent_startWaiting_setting_iff (prompt : Prompt σ ω) {setting name value : String}
    (sets : Command.parse setting = .ok (.set name value)) :
    ((prompt.obeyLine reporter setting).startWaiting reporter transport).console.sent =
        (prompt.startWaiting reporter transport).console.sent ↔
      prompt.console.session.valueOrEmpty name = value ∨
        ¬prompt.traffic.Shows transport name
          (prompt.tickets.map fun ticket => (ticket, ticket.id)) := by
  have fired : firedBy setting = [] := by rw [firedBy, sets]
  have gives : settingOf? setting = some (name, value) := by rw [settingOf?, sets]
  let edited : Traffic σ Ticket :=
    { prompt.traffic with console := prompt.traffic.console.set name value }
  have beside : prompt.traffic.console.Beside name edited.console :=
    prompt.traffic.console.beside_set name value
  rw [obeyLine_eq, gives, fired, List.append_nil, console_startWaiting, console_startWaiting]
  exact (Traffic.sent_launchAll_eq_iff transport beside _).trans
    (or_congr (prompt.traffic.console.alike_set_iff name value) Iff.rfl)

/-- A prompt behind the last line that arrives, whose fires have not started. -/
def behindLastLine (prompt : Prompt σ ω) (arrivals : List Arrival) : Prompt σ ω :=
  let read := (prompt.readArrivals reporter transport [] arrivals.dropLast).1
  match arrivals.getLast? with
  | none => read
  | some last => read.obeyArrival reporter last

end Prompt

open Prompt in
/--
A setting that follows whole lines leaves the requests of these lines as they are exactly if it is
complete only after the last of them has been read and its fires have started, or the value is there
already, or none of the fires that still wait sends it.
-/
theorem sent_runPrompt_setting_iff (reporter : Reporter ω) (transport : Transport σ)
    (console : Console σ) (out : ω) (before extra : List Chunk) (last : Chunk)
    (first : List UInt8) (setting name value : String)
    (whole : (Input.cutLines ((before ++ [last]).flatMap Chunk.bytes)).2 = [])
    (goesOn : (Input.lines ((before ++ [last]).flatMap Chunk.bytes)).any endsAt = false)
    (follows : Input.lines (first ++ extra.flatMap Chunk.bytes) = [some setting])
    (sets : Command.parse setting = .ok (.set name value)) :
    (runPrompt reporter transport console out
        (before ++ ⟨last.delay, last.bytes ++ first⟩ :: extra)).1.sent =
        (runPrompt reporter transport console out (before ++ [last])).1.sent ↔
      (extra ≠ [] ∧ Input.lineFeed ∉ first) ∨
      let prompt := (start console out).behindLastLine reporter transport
        (Input.arrivals (before ++ [last]))
      prompt.console.session.valueOrEmpty name = value ∨
        ¬prompt.traffic.Shows transport name
          (prompt.tickets.map fun ticket => (ticket, ticket.id)) := by
  obtain ⟨init, ends, others, alone, together, behind⟩ := Input.arrivals_followed whole follows
  have fired : firedBy setting = [] := by rw [firedBy, sets]
  have unended : (init.flatMap Arrival.lines).any endsAt = false ∧ ends.any endsAt = false := by
    rw [← Input.flatMap_lines_arrivals, alone, List.flatMap_append, List.any_append,
      Bool.or_eq_false_iff] at goesOn
    simpa using goesOn
  let read := (start console out).attendArrivals reporter transport init
  let final := read.obeyArrival reporter ⟨last.delay, ends⟩
  have stands : (start console out).behindLastLine reporter transport
      (Input.arrivals (before ++ [last])) = final := by
    rw [alone, behindLastLine, List.dropLast_concat, List.getLast?_concat,
      readArrivals_of_unended reporter transport _ _ _ unended.1]
  have sent : ∀ chunks more, Input.arrivals chunks = init ++ more →
      (runPrompt reporter transport console out chunks).1.sent =
        (read.attendArrivals reporter transport more).console.sent := by
    intro chunks more arrive
    rw [runPrompt_eq_drain, arrive, attendArrivals_append reporter transport _ _ _ unended.1]
    exact Traffic.sent_land _ _
  have shorter : (runPrompt reporter transport console out (before ++ [last])).1.sent =
      (final.startWaiting reporter transport).console.sent :=
    (sent _ _ alone).trans (sent_attendArrivals_cons reporter transport read _ [] unended.2 rfl)
  rw [stands, shorter]
  by_cases complete : extra = [] ∨ Input.lineFeed ∈ first
  · -- The setting is carried out before the fires of the last line start.
    obtain ⟨followed, nothing⟩ := together complete
    have reads : linesRead (ends ++ [some setting]) = linesRead ends ++ [setting] := by
      rw [linesRead_append, unended.2, linesRead, endsAt, sets]
      simp [Except.toOption, linesRead]
    have stays : (ends ++ [some setting]).any endsAt = false := by
      rw [List.any_append, unended.2, List.any_cons, endsAt, sets]
      simp [Except.toOption]
    have quiet : firedIds (linesRead (others.flatMap Arrival.lines)) = [] := by
      rw [nothing]
      rfl
    have longer := (sent _ _ followed).trans
      (sent_attendArrivals_cons reporter transport read _ others stays quiet)
    rw [obeyArrival, reads, List.foldl_append, List.foldl_cons, List.foldl_nil] at longer
    have early : ¬(extra ≠ [] ∧ Input.lineFeed ∉ first) := not_and_or.mpr (by
      simpa only [not_not] using complete)
    rw [longer]
    refine (sent_startWaiting_setting_iff reporter transport final sets).trans ?_
    exact (or_iff_right early).symm
  · -- When the setting is carried out, no fire waits to be started any more.
    obtain ⟨followed, only⟩ := behind (not_or.mp complete)
    have quiet : firedIds (linesRead (others.flatMap Arrival.lines)) = [] := by
      rw [only, linesRead, endsAt, sets]
      simp [Except.toOption, linesRead, firedIds, fired]
    have longer := (sent _ _ followed).trans
      (sent_attendArrivals_cons reporter transport read _ others unended.2 quiet)
    exact iff_of_true longer (.inl (not_or.mp complete))

/-- A setting of which only a part arrives with the line before it comes too late for its fire. -/
theorem sent_runPrompt_setting_apart :
    (runPrompt ⟨Sink.text, none⟩ Transport.scripted
        (.start Catalog.builtin Watch.default Session.default []) ""
        [⟨0, "fire read-conn\n".toUTF8.toList ++ "set conn".toUTF8.toList⟩,
          ⟨5, "_uuid v\n".toUTF8.toList⟩]).1.sent =
      (runPrompt ⟨Sink.text, none⟩ Transport.scripted
        (.start Catalog.builtin Watch.default Session.default []) ""
        [⟨0, "fire read-conn\n".toUTF8.toList⟩]).1.sent :=
  (sent_runPrompt_setting_iff ⟨Sink.text, none⟩ Transport.scripted
    (.start Catalog.builtin Watch.default Session.default []) "" []
    [⟨5, "_uuid v\n".toUTF8.toList⟩] ⟨0, "fire read-conn\n".toUTF8.toList⟩
    "set conn".toUTF8.toList "set conn_uuid v" "conn_uuid" "v" (by decide +kernel)
    (by decide +kernel) (by decide +kernel) rfl).mpr
      (.inl ⟨List.cons_ne_nil _ _, by decide +kernel⟩)

/-- A setting that arrives together with the line before it reaches back to the fire of that
line. -/
theorem sent_runPrompt_setting_together :
    (runPrompt ⟨Sink.text, none⟩ Transport.scripted
        (.start Catalog.builtin Watch.default Session.default []) ""
        (Input.atOnce "fire read-conn\nset conn_uuid v\n".toUTF8.toList)).1.sent ≠
      (runPrompt ⟨Sink.text, none⟩ Transport.scripted
        (.start Catalog.builtin Watch.default Session.default []) ""
        (Input.atOnce "fire read-conn\n".toUTF8.toList)).1.sent := by
  decide +kernel

end ApiConsole
