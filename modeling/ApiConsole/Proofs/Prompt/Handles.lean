import ApiConsole.Proofs.Prompt.Lines

/-!
# The fires that a prompt holds

A prompt awaits the fires whose numbers it holds.  It holds those of all its unfinished fires, since
it drops a number only once the fire is finished; and the fires have different numbers, so awaiting
a number awaits its fire.  So when the last number has been awaited, all fires that waited have
started and all fires that were under way have landed.
-/

namespace ApiConsole

variable {σ ω : Type}

/-- The flights that launches add are some of what is launched, in the same order. -/
theorem Traffic.aloft_launchAll {α : Type} (transport : Transport σ) (traffic : Traffic σ α)
    (launches : List (α × String)) :
    ∃ added : List (Flight α), (added.map Flight.tag).Sublist (launches.map Prod.fst) ∧
      (traffic.launchAll transport launches).1.aloft = traffic.aloft ++ added := by
  induction launches generalizing traffic with
  | nil => exact ⟨[], .slnil, (List.append_nil _).symm⟩
  | cons launch rest ih =>
      obtain ⟨tag, id⟩ := launch
      obtain ⟨added, sublist, aloft⟩ := ih (traffic.launch transport tag id).1
      rw [launchAll, aloft]
      cases known : traffic.console.catalog.get id with
      | error error =>
          rw [launch_unknown transport traffic tag known]
          exact ⟨added, sublist.cons tag, rfl⟩
      | ok endpoint =>
          cases due : (transport.issue traffic.console.wire
              (Request.compose endpoint traffic.console.session)).2.delay with
          | none =>
              rw [launch_at_once transport traffic tag known rfl due]
              exact ⟨added, sublist.cons tag, rfl⟩
          | some delay =>
              rw [launch_later transport traffic tag known rfl due]
              exact ⟨⟨tag, _, _, _⟩ :: added, sublist.cons_cons tag, List.append_assoc ..⟩

namespace Prompt

variable (reporter : Reporter ω) (transport : Transport σ)

/-- Where no fire waits, none starts. -/
theorem startWaiting_of_idle {prompt : Prompt σ ω} (idle : prompt.waiting = []) :
    prompt.startWaiting reporter transport = prompt := by
  obtain ⟨traffic, waiting, started, out⟩ := prompt
  subst idle
  rfl

def drain (prompt : Prompt σ ω) : Prompt σ ω :=
  let (console, landings) := prompt.traffic.drain
  { prompt with traffic := .ofConsole console }.write reporter (reporter.recordsOf landings)

/-- Where nothing is under way, nothing lands. -/
theorem drain_of_grounded {prompt : Prompt σ ω} (grounded : prompt.traffic.aloft = []) :
    prompt.drain reporter = prompt := by
  obtain ⟨⟨console, aloft⟩, waiting, started, out⟩ := prompt
  subst grounded
  have landed : (⟨console, []⟩ : Traffic σ Ticket).drain = (console, []) :=
    Traffic.drain_ofConsole console
  simp only [drain, landed]
  rfl

/-- Time that passes until a fire lands is part of the time until all have landed. -/
theorem drain_pass (prompt : Prompt σ ω) {flight : Flight Ticket}
    (member : flight ∈ prompt.traffic.aloft) :
    (prompt.pass reporter (flight.due - prompt.console.now)).drain reporter =
      prompt.drain reporter := by
  have later := prompt.traffic.drain_eq_of_pass member
  simp only [drain, pass, write, later, Reporter.recordsOf, List.map_append, Sink.emit_append]
  rfl

/-! ### The unfinished fires -/

theorem numbers_tickets (prompt : Prompt σ ω) :
    prompt.tickets.map Ticket.number = List.range' prompt.started prompt.waiting.length := by
  rw [tickets, List.map_map]
  exact List.zipIdx_map_snd ..

theorem unfinished_of_idle {prompt : Prompt σ ω} (idle : prompt.waiting = []) :
    prompt.unfinished = prompt.traffic.aloft.map fun flight => flight.tag.number := by
  rw [unfinished, tickets, idle]
  exact List.append_nil _

/-- A line puts its fires behind the unfinished ones. -/
theorem unfinished_obeyLine (prompt : Prompt σ ω) (line : String) :
    (prompt.obeyLine reporter line).unfinished =
      prompt.unfinished ++ prompt.numbersFor (firedBy line) := by
  rw [obeyLine_eq, unfinished, unfinished, numbers_tickets, numbers_tickets, List.length_append,
    ← List.range'_append_1, List.append_assoc]
  rfl

/-- A fire that starts has the number with which it waited. -/
theorem unfinished_startWaiting (prompt : Prompt σ ω) :
    (prompt.startWaiting reporter transport).unfinished.Sublist prompt.unfinished := by
  obtain ⟨added, sublist, aloft⟩ := prompt.traffic.aloft_launchAll transport
    (prompt.tickets.map fun ticket => (ticket, ticket.id))
  rw [List.map_map] at sublist
  have idle : (prompt.startWaiting reporter transport).waiting = [] := rfl
  have launched : (prompt.startWaiting reporter transport).traffic.aloft =
      prompt.traffic.aloft ++ added := aloft
  rw [unfinished_of_idle idle, launched, List.map_append, unfinished]
  refine List.Sublist.append_left ?_ _
  have renumbered := sublist.map Ticket.number
  rw [List.map_map, List.map_map] at renumbered
  exact renumbered

/-- A fire that lands is finished. -/
theorem unfinished_pass (prompt : Prompt σ ω) (delay : Nat) :
    (prompt.pass reporter delay).unfinished.Sublist prompt.unfinished := by
  simp only [pass, Traffic.pass, List.partition_eq_filter_filter]
  exact (List.filter_sublist.map _).append_right _

/-! ### The numbers that are held -/

/-- The numbers that a prompt holds keep track of its fires. -/
structure KeepsTrack (prompt : Prompt σ ω) (held : List Nat) : Prop where
  /-- No two unfinished fires have the same number. -/
  nodup : prompt.unfinished.Nodup
  below : ∀ number ∈ prompt.unfinished, number < prompt.started + prompt.waiting.length
  held : ∀ number ∈ prompt.unfinished, number ∈ held

theorem KeepsTrack.refl (console : Console σ) (out : ω) : (start console out).KeepsTrack [] where
  nodup := .nil
  below := fun _ member => nomatch member
  held := fun _ member => nomatch member

namespace KeepsTrack

variable {prompt : Prompt σ ω} {held : List Nat}

/-- A prompt keeps track while fires only start and land. -/
theorem advance (track : prompt.KeepsTrack held) {next : Prompt σ ω}
    (sublist : next.unfinished.Sublist prompt.unfinished)
    (total : next.started + next.waiting.length = prompt.started + prompt.waiting.length) :
    next.KeepsTrack held where
  nodup := track.nodup.sublist sublist
  below := fun number member => total ▸ track.below number (sublist.mem member)
  held := fun number member => track.held number (sublist.mem member)

theorem startWaiting (track : prompt.KeepsTrack held) :
    (prompt.startWaiting reporter transport).KeepsTrack held :=
  track.advance (prompt.unfinished_startWaiting reporter transport) rfl

theorem pass (track : prompt.KeepsTrack held) (delay : Nat) :
    (prompt.pass reporter delay).KeepsTrack held :=
  track.advance (prompt.unfinished_pass reporter delay) rfl

theorem retain (track : prompt.KeepsTrack held) : prompt.KeepsTrack (prompt.retain held) where
  nodup := track.nodup
  below := track.below
  held := fun number member =>
    List.mem_filter.mpr ⟨track.held number member, decide_eq_true member⟩

/-- A number that no unfinished fire has need not be held. -/
theorem of_finished {number : Nat} (track : prompt.KeepsTrack (number :: held))
    (finished : number ∉ prompt.unfinished) : prompt.KeepsTrack held where
  nodup := track.nodup
  below := track.below
  held := fun other member => (List.mem_cons.mp (track.held other member)).resolve_left
    fun same => finished (same ▸ member)

/-- A prompt keeps track of the fires of a line. -/
theorem obeyLine (track : prompt.KeepsTrack held) (line : String) :
    (prompt.obeyLine reporter line).KeepsTrack (held ++ prompt.numbersFor (firedBy line)) := by
  have unfinished := prompt.unfinished_obeyLine reporter line
  have total : (prompt.obeyLine reporter line).started +
      (prompt.obeyLine reporter line).waiting.length =
        prompt.started + prompt.waiting.length + (firedBy line).length := by
    rw [obeyLine_eq]
    simp only [List.length_append]
    omega
  have fresh : ∀ number ∈ prompt.numbersFor (firedBy line),
      prompt.started + prompt.waiting.length ≤ number ∧
        number < prompt.started + prompt.waiting.length + (firedBy line).length :=
    fun number member => List.mem_range'_1.mp member
  refine ⟨?_, ?_, ?_⟩
  · rw [unfinished]
    refine List.nodup_append.mpr ⟨track.nodup, List.nodup_range' .., ?_⟩
    intro number old other new same
    have low := track.below number old
    have high := (fresh other new).1
    omega
  · rw [unfinished, total]
    intro number member
    rcases List.mem_append.mp member with old | new
    · exact Nat.lt_add_right _ (track.below number old)
    · exact (fresh number new).2
  · rw [unfinished]
    intro number member
    rcases List.mem_append.mp member with old | new
    · exact List.mem_append_left _ (track.held number old)
    · exact List.mem_append_right _ new

/-- A prompt keeps track of its fires while it reads lines. -/
theorem readLines (track : prompt.KeepsTrack held) (lines : List Line) :
    ((linesRead lines).foldl (Prompt.obeyLine reporter) prompt).KeepsTrack
      (prompt.readLines reporter held lines).2.1 := by
  induction lines generalizing prompt held with
  | nil => exact track
  | cons line rest ih =>
      cases line with
      | none => exact track
      | some line =>
          rw [readLines_cons, linesRead]
          cases endsAt (some line) with
          | true => exact track.retain
          | false => exact ih (track.retain.obeyLine reporter line)

/-- Once time has passed until a flight is due, the number of its fire need not be held. -/
theorem pass_due {flight : Flight Ticket} (track : prompt.KeepsTrack (flight.tag.number :: held))
    (idle : prompt.waiting = []) (member : flight ∈ prompt.traffic.aloft) :
    (prompt.pass reporter (flight.due - prompt.console.now)).KeepsTrack held := by
  refine (track.pass reporter _).of_finished fun unfinished => ?_
  have still : (prompt.pass reporter (flight.due - prompt.console.now)).waiting = [] := idle
  rw [unfinished_of_idle still] at unfinished
  obtain ⟨other, left, same⟩ := List.mem_map.mp unfinished
  simp only [Prompt.pass, write, Traffic.pass, List.partition_eq_filter_filter] at left
  obtain ⟨there, late⟩ := List.mem_filter.mp left
  have nodup := track.nodup
  rw [unfinished_of_idle idle] at nodup
  have equal : other = flight := List.inj_on_of_nodup_map nodup there member same
  have due : flight.due ≤ prompt.traffic.console.now + (flight.due - prompt.console.now) :=
    Nat.sub_le_iff_le_add'.mp le_rfl
  simp [equal, due] at late

/-- A fire that has been awaited is finished, and those that are left come to the same end. -/
theorem await {number : Nat} (track : prompt.KeepsTrack (number :: held)) :
    (prompt.await reporter transport number).KeepsTrack held ∧
      ((prompt.await reporter transport number).startWaiting reporter transport).drain reporter =
        (prompt.startWaiting reporter transport).drain reporter := by
  by_cases unfinished : number ∈ prompt.unfinished
  · have started := track.startWaiting reporter transport
    have idle : (prompt.startWaiting reporter transport).waiting = [] := rfl
    rw [Prompt.await, if_pos unfinished]
    generalize prompt.startWaiting reporter transport = next at started idle ⊢
    cases found : next.traffic.aloft.find? fun flight => flight.tag.number = number with
    | none =>
        have landed : number ∉ next.unfinished := by
          rw [unfinished_of_idle idle]
          simpa using found
        simp only [found]
        exact ⟨started.of_finished landed,
          congrArg (drain reporter) (startWaiting_of_idle reporter transport idle)⟩
    | some flight =>
        have member := List.mem_of_find?_eq_some found
        have same : flight.tag.number = number := by simpa using List.find?_some found
        simp only [found]
        refine ⟨(same ▸ started).pass_due reporter idle member, ?_⟩
        rw [startWaiting_of_idle reporter transport (show (next.pass reporter _).waiting = [] from
          idle)]
        exact next.drain_pass reporter member
  · rw [Prompt.await, if_neg unfinished]
    exact ⟨track.of_finished unfinished, rfl⟩

/--
Awaiting the fires that are held, one after another, lands everything: all fires that waited have
started, and everything under way has landed in its order.
-/
theorem finish (track : prompt.KeepsTrack held) :
    prompt.finish reporter transport held =
      (prompt.startWaiting reporter transport).drain reporter := by
  rw [Prompt.finish]
  induction held generalizing prompt with
  | nil =>
      have none : prompt.unfinished = [] :=
        List.eq_nil_iff_forall_not_mem.mpr fun number member => nomatch track.held number member
      obtain ⟨flights, tickets⟩ := List.append_eq_nil_iff.mp none
      have grounded : prompt.traffic.aloft = [] := List.map_eq_nil_iff.mp flights
      have idle : prompt.waiting = [] := by
        simpa [Prompt.tickets] using tickets
      rw [startWaiting_of_idle reporter transport idle, drain_of_grounded reporter grounded]
      rfl
  | cons number rest ih =>
      obtain ⟨left, same⟩ := track.await reporter transport
      rw [List.foldl_cons, ih left, same]

end KeepsTrack

/-! ### Arrivals without the numbers -/

/-- A prompt behind the lines of an arrival, before their fires start. -/
def obeyArrival (prompt : Prompt σ ω) (arrival : Arrival) : Prompt σ ω :=
  (linesRead arrival.lines).foldl (obeyLine reporter) (prompt.pass reporter arrival.delay)

/-- Attends to arrivals up to where the prompt ends: to the lines of each, and then to its fires. -/
def attendArrivals (prompt : Prompt σ ω) : List Arrival → Prompt σ ω
  | [] => prompt
  | arrival :: rest =>
      let attended := (prompt.obeyArrival reporter arrival).startWaiting reporter transport
      if arrival.lines.any endsAt then attended else attended.attendArrivals rest

/-- An arrival is read once time has passed, and then its fires start if more may come. -/
theorem readArrival_eq (prompt : Prompt σ ω) (held : List Nat) (arrival : Arrival) :
    prompt.readArrival reporter transport held arrival =
      (if arrival.lines.any endsAt then prompt.obeyArrival reporter arrival
        else (prompt.obeyArrival reporter arrival).startWaiting reporter transport,
        (prompt.readArrival reporter transport held arrival).2.1, arrival.lines.any endsAt) := by
  simp only [readArrival]
  rw [readLines_eq]
  rfl

/-- A prompt keeps track of its fires while it reads, and what it holds has no part in its work. -/
theorem readArrivals_attend {prompt : Prompt σ ω} {held : List Nat}
    (track : prompt.KeepsTrack held) (idle : prompt.waiting = []) (arrivals : List Arrival) :
    let (read, kept) := prompt.readArrivals reporter transport held arrivals
    read.KeepsTrack kept ∧
      read.startWaiting reporter transport = prompt.attendArrivals reporter transport arrivals := by
  induction arrivals generalizing prompt held with
  | nil => exact ⟨track, startWaiting_of_idle reporter transport idle⟩
  | cons arrival rest ih =>
      have obeyed := (track.pass reporter arrival.delay).readLines reporter arrival.lines
      rw [readArrivals, readArrival_eq, attendArrivals]
      cases arrival.lines.any endsAt with
      | true => exact ⟨obeyed, rfl⟩
      | false => exact ih (obeyed.startWaiting reporter transport) rfl

/-- A prompt that has attended to its input waits until everything under way has landed. -/
theorem runPrompt_eq_drain (console : Console σ) (out : ω) (chunks : List Chunk) :
    runPrompt reporter transport console out chunks =
      let left := ((start console out).attendArrivals reporter transport
        (Input.arrivals chunks)).drain reporter
      (left.console, left.out) := by
  have begun := KeepsTrack.refl console out
  obtain ⟨track, same⟩ := readArrivals_attend reporter transport begun rfl (Input.arrivals chunks)
  rw [runPrompt]
  simp only [track.finish reporter transport, same]

end Prompt

end ApiConsole
