import ApiConsole.Proofs.Run
import ApiConsole.Proofs.Traffic

/-!
# Traffic as a run

What a console does with several fires under way is a run: a launch is a start, followed at once by
its resolution if the outcome is there, and a landing is a resolution.  In such runs every fire
resolves with what the transport had in store for its request.
-/

namespace ApiConsole

variable {σ α : Type}

/-- The fire of a flight, whose tag tells the id of the endpoint. -/
def Flight.fire (name : α → String) (flight : Flight α) : Fire :=
  ⟨name flight.tag, flight.request, flight.outcome⟩

namespace Landing

/-- The id and the outcome of a fire that has ended with an outcome. -/
def answered? (name : α → String) (landing : Landing α) : Option (String × Outcome) :=
  match landing.result with
  | .ok outcome => some (name landing.tag, outcome)
  | .error _ => none

def refused? (landing : Landing α) : Option Error :=
  match landing.result with
  | .ok _ => none
  | .error error => some error

end Landing

namespace Run

def endings (run : Run σ) : List (String × Outcome) :=
  run.landed.map fun (fire, outcome) => (fire.id, outcome)

/--
A run has brought the console to where a traffic stands: the consoles agree but for the time, the
same fires are under way, and every other has resolved with its answer.
-/
structure Carries (name : α → String) (run : Run σ) (traffic : Traffic σ α) : Prop where
  console : ∃ now, traffic.console = run.console.atTime now
  aloft : run.aloft.Perm (traffic.aloft.map (Flight.fire name))
  honest : ∀ pair ∈ run.landed, pair.2 = pair.1.answer

/--
Steps carry a run on to a traffic: they start fires of the ids in order and change no value by hand,
and what ends on the way ends as in the landings.
-/
structure Advance (transport : Transport σ) (name : α → String) (run next : Run σ)
    (steps : List Step) (ids : List String) (traffic : Traffic σ α)
    (landings : List (Landing α)) : Prop where
  execution : Execution transport steps run next
  carries : next.Carries name traffic
  starts : steps.filterMap Step.started? = ids
  settings : steps.filterMap Step.setting? = []
  endings : next.endings = run.endings ++ landings.filterMap (Landing.answered? name)
  refusals : landings.filterMap Landing.refused? =
    (ids.filter fun id => !(run.console.catalog.get id).isOk).map .unknownEndpoint

/-- No step touches the catalog. -/
theorem Execution.catalog {transport : Transport σ} {steps : List Step} {first last : Run σ}
    (execution : Execution transport steps first last) :
    last.console.catalog = first.console.catalog := by
  induction execution with
  | refl run => rfl
  | next transition rest ih =>
      rcases step?_cases transition with ⟨_, _, _, rfl⟩ | ⟨_, _, _, _, rfl⟩ |
        ⟨_, _, _, _, rfl⟩ | ⟨_, _, _, _, _, rfl⟩ <;> exact ih

variable {transport : Transport σ} {name : α → String} {run : Run σ} {traffic : Traffic σ α}

theorem Advance.refl (carries : run.Carries name traffic) :
    Advance transport name run run [] [] traffic [] where
  execution := .refl run
  carries := carries
  starts := rfl
  settings := rfl
  endings := (List.append_nil _).symm
  refusals := rfl

theorem Advance.trans {middle last : Run σ} {before after : List Step}
    {first second : List String} {between final : Traffic σ α}
    {earlier later : List (Landing α)}
    (left : Advance transport name run middle before first between earlier)
    (right : Advance transport name middle last after second final later) :
    Advance transport name run last (before ++ after) (first ++ second) final
      (earlier ++ later) where
  execution := left.execution.trans right.execution
  carries := right.carries
  starts := by rw [List.filterMap_append, left.starts, right.starts]
  settings := by rw [List.filterMap_append, left.settings, right.settings, List.nil_append]
  endings := by
    rw [right.endings, left.endings, List.filterMap_append, List.append_assoc]
  refusals := by
    rw [List.filterMap_append, left.refusals, right.refusals, left.execution.catalog,
      List.filter_append, List.map_append]

variable (transport)

/-- Edits at any moment are steps of a run. -/
theorem execution_setAll (run : Run σ) (settings : List (String × String)) :
    Execution transport (settings.map fun setting => .set setting.1 setting.2) run
      { run with console := run.console.setAll settings } := by
  induction settings generalizing run with
  | nil => exact .refl run
  | cons setting rest ih => exact .next rfl (ih _)

theorem Carries.setAll (carries : run.Carries name traffic) (settings : List (String × String)) :
    ({ run with console := run.console.setAll settings } : Run σ).Carries name
      { traffic with console := traffic.console.setAll settings } where
  console := by
    obtain ⟨now, same⟩ := carries.console
    refine ⟨now, ?_⟩
    rw [← Console.setAll_atTime, ← same]
  aloft := carries.aloft
  honest := carries.honest

/-- The start of a fire that no endpoint belongs to lands at once and leaves everything as it is. -/
theorem Carries.refuse (carries : run.Carries name traffic) (tag : α) {error : Error}
    (unknown : run.console.catalog.get (name tag) = .error error) :
    Advance transport name run run [.start (name tag)] [name tag] traffic
      [⟨tag, traffic.console.now, .error error⟩] where
  execution := .single (by rw [step?, Console.compose_of_unknown unknown])
  carries := carries
  starts := rfl
  settings := rfl
  endings := (List.append_nil _).symm
  refusals := by
    have kept : [name tag].filter (fun id => !(run.console.catalog.get id).isOk) = [name tag] := by
      simp [unknown, Except.isOk, Except.toBool]
    rw [kept, Catalog.get_eq_error unknown]
    rfl

/-- No fire of a known endpoint is refused. -/
theorem refusals_of_known {catalog : Catalog} {id : String} {endpoint : Endpoint}
    (known : catalog.get id = .ok endpoint) :
    ([id].filter fun id => !(catalog.get id).isOk).map Error.unknownEndpoint = [] := by
  simp [known, Except.isOk, Except.toBool]

/-- The start of any other fire sends its request. -/
theorem execution_launch {id : String} {endpoint : Endpoint} {request : Request}
    (known : run.console.catalog.get id = .ok endpoint)
    (composed : Request.compose endpoint run.console.session = request) :
    Execution transport [.start id] run (run.launch transport id request) :=
  .single (by rw [step?, Console.compose_of_known known, composed])

/-- A fire whose outcome takes time goes to those under way. -/
theorem Carries.depart (carries : run.Carries name traffic) (tag : α) {endpoint : Endpoint}
    {request : Request} (known : run.console.catalog.get (name tag) = .ok endpoint)
    (composed : Request.compose endpoint run.console.session = request) (due : Nat) :
    Advance transport name run (run.launch transport (name tag) request) [.start (name tag)]
      [name tag]
      ⟨(traffic.console.send transport request).1, traffic.aloft ++
        [⟨tag, request, (transport.issue traffic.console.wire request).2.outcome, due⟩]⟩ [] where
  execution := execution_launch transport known composed
  carries := by
    obtain ⟨now, same⟩ := carries.console
    refine ⟨⟨now, by rw [same]; rfl⟩, ?_, carries.honest⟩
    rw [List.map_append, same]
    exact carries.aloft.append_right _
  starts := rfl
  settings := rfl
  endings := (List.append_nil _).symm
  refusals := (refusals_of_known known).symm

/-- A fire whose outcome is there at once resolves before anything else happens. -/
theorem Carries.answer (carries : run.Carries name traffic) (tag : α) {endpoint : Endpoint}
    {request : Request} (known : run.console.catalog.get (name tag) = .ok endpoint)
    (composed : Request.compose endpoint run.console.session = request) :
    let outcome := (transport.issue traffic.console.wire request).2.outcome
    ∃ steps next, Advance transport name run next steps [name tag]
      { traffic with
        console := (traffic.console.send transport request).1.resolve request outcome }
      [⟨tag, traffic.console.now, .ok outcome⟩] := by
  obtain ⟨console, aloft⟩ := traffic
  obtain ⟨⟨now, same⟩, under, honest⟩ := carries
  change console = run.console.atTime now at same
  subst same
  let fire : Fire := ⟨name tag, request, (transport.issue run.console.wire request).2.outcome⟩
  let sent := run.launch transport (name tag) request
  have place : sent.aloft[run.aloft.length]? = some fire := by
    simp [sent, Run.launch, Console.send, fire]
  have resolution : sent.step? transport (.resolve run.aloft.length fire.answer) =
      some (sent.land run.aloft.length fire fire.answer) := by
    rw [step?, place]
    rfl
  refine ⟨[.start (name tag), .resolve run.aloft.length fire.answer],
    sent.land run.aloft.length fire fire.answer, ?_⟩
  exact {
    execution := (execution_launch transport known composed).trans (.single resolution)
    carries := by
      refine ⟨⟨now, rfl⟩, ?_, ?_⟩
      · have gone : (run.aloft ++ [fire]).eraseIdx run.aloft.length = run.aloft := by
          rw [List.eraseIdx_append_of_length_le (Nat.le_refl _), Nat.sub_self]
          exact List.append_nil _
        change ((run.aloft ++ [fire]).eraseIdx run.aloft.length).Perm _
        rw [gone]
        exact under
      · intro pair member
        rcases List.mem_append.mp member with old | new
        · exact honest pair old
        · rw [List.mem_singleton.mp new]
    starts := rfl
    settings := rfl
    endings := by
      simp only [Run.endings, sent, Run.land, Run.launch, List.map_append]
      rfl
    refusals := (refusals_of_known known).symm }

/-- A launch is a start, and a resolution behind it if the outcome is there at once. -/
theorem Carries.launch (carries : run.Carries name traffic) (tag : α) :
    ∃ steps next, Advance transport name run next steps [name tag]
      (traffic.launch transport tag (name tag)).1
      (traffic.launch transport tag (name tag)).2 := by
  have catalog : traffic.console.catalog = run.console.catalog := by
    obtain ⟨now, same⟩ := carries.console
    rw [same]
    rfl
  have session : traffic.console.session = run.console.session := by
    obtain ⟨now, same⟩ := carries.console
    rw [same]
    rfl
  cases known : run.console.catalog.get (name tag) with
  | error error =>
      rw [Traffic.launch_unknown transport traffic tag (catalog ▸ known)]
      exact ⟨_, run, carries.refuse transport tag known⟩
  | ok endpoint =>
      cases due : (transport.issue traffic.console.wire
          (Request.compose endpoint traffic.console.session)).2.delay with
      | none =>
          rw [Traffic.launch_at_once transport traffic tag (catalog ▸ known) rfl due, session]
          exact carries.answer transport tag known rfl
      | some delay =>
          rw [Traffic.launch_later transport traffic tag (catalog ▸ known) rfl due, session]
          exact ⟨_, _, carries.depart transport tag known rfl _⟩

/-- Launches in order are starts in that order. -/
theorem Carries.launchAll (carries : run.Carries name traffic) (tags : List α) :
    ∃ steps next, Advance transport name run next steps (tags.map name)
      (traffic.launchAll transport (tags.map fun tag => (tag, name tag))).1
      (traffic.launchAll transport (tags.map fun tag => (tag, name tag))).2 := by
  induction tags generalizing run traffic with
  | nil => exact ⟨[], run, .refl carries⟩
  | cons tag rest ih =>
      obtain ⟨before, middle, first⟩ := carries.launch transport tag
      obtain ⟨after, last, others⟩ := ih first.carries
      exact ⟨before ++ after, last, first.trans others⟩

/-- Landings in order are resolutions in that order. -/
theorem land_advance (console : Console σ) (due others : List (Flight α)) (run : Run σ)
    (same : ∃ now, console = run.console.atTime now)
    (aloft : run.aloft.Perm ((due ++ others).map (Flight.fire name)))
    (honest : ∀ pair ∈ run.landed, pair.2 = pair.1.answer) :
    ∃ steps next, Advance transport name run next steps []
      ⟨(Traffic.land console due).1, others⟩ (Traffic.land console due).2 := by
  induction due generalizing console run with
  | nil => exact ⟨[], run, .refl ⟨same, aloft, honest⟩⟩
  | cons flight rest ih =>
      obtain ⟨now, same⟩ := same
      subst same
      have member : flight.fire name ∈ run.aloft :=
        aloft.mem_iff.mpr (List.mem_cons_self ..)
      obtain ⟨place, found⟩ := List.mem_iff_getElem?.mp member
      obtain ⟨bound, here⟩ := List.getElem?_eq_some_iff.mp found
      let next := run.land place (flight.fire name) flight.outcome
      have step : run.step? transport (.resolve place flight.outcome) = some next := by
        rw [step?, found]
        rfl
      have left : next.aloft.Perm ((rest ++ others).map (Flight.fire name)) := by
        have taken : (flight.fire name :: run.aloft.eraseIdx place).Perm run.aloft :=
          here ▸ List.getElem_cons_eraseIdx_perm bound
        exact (taken.trans aloft).cons_inv
      have stillHonest : ∀ pair ∈ next.landed, pair.2 = pair.1.answer := by
        intro pair member
        rcases List.mem_append.mp member with old | new
        · exact honest pair old
        · rw [List.mem_singleton.mp new]
          rfl
      obtain ⟨steps, last, later⟩ := ih _ next ⟨max now flight.due, rfl⟩ left stillHonest
      refine ⟨.resolve place flight.outcome :: steps, last, ?_⟩
      exact {
        execution := .next step later.execution
        carries := later.carries
        starts := later.starts
        settings := later.settings
        endings := by
          rw [later.endings, Traffic.land]
          simp only [Run.endings, next, Run.land, List.map_append, List.map_cons, List.map_nil,
            List.append_assoc]
          rfl
        refusals := later.refusals }

/-- While time passes, fires that are under way resolve, and nothing starts. -/
theorem Carries.pass (carries : run.Carries name traffic) (delay : Nat) :
    ∃ steps next, Advance transport name run next steps [] (traffic.pass delay).1
      (traffic.pass delay).2 := by
  obtain ⟨due, others, parted, passed⟩ := Traffic.pass_eq traffic delay
  have aloft := carries.aloft.trans (parted.symm.map (Flight.fire name))
  obtain ⟨steps, next, advance⟩ :=
    land_advance transport traffic.console due others run carries.console aloft
      carries.honest
  rw [passed]
  obtain ⟨now, same⟩ := advance.carries.console
  have later : next.Carries name
      ⟨(Traffic.land traffic.console due).1.atTime (traffic.console.now + delay), others⟩ := by
    refine ⟨⟨traffic.console.now + delay, ?_⟩, advance.carries.aloft, advance.carries.honest⟩
    change (Traffic.land traffic.console due).1 = _ at same
    rw [same, Console.atTime_atTime]
  exact ⟨steps, next, { advance with carries := later }⟩

/-- When every flight has landed, no fire is under way. -/
theorem Carries.drain (carries : run.Carries name traffic) :
    ∃ steps next, Advance transport name run next steps []
      (.ofConsole traffic.drain.1 : Traffic σ α) traffic.drain.2 := by
  have aloft := carries.aloft.trans
    ((Traffic.inLandingOrder_perm traffic.aloft).symm.map (Flight.fire name))
  rw [← List.append_nil (Traffic.inLandingOrder traffic.aloft)] at aloft
  exact land_advance transport traffic.console _ [] run carries.console aloft carries.honest

end Run

end ApiConsole
