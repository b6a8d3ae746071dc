import ApiConsole.Proofs.Delays
import ApiConsole.Proofs.Run

/-!
# What fires at once are answered

Whether outcomes are there at once or take their time, and in whatever order they come in, fires
that are started together are answered in the order of their ids: each id of the catalog with what
the transport had in store for its request, and every other id with an error.
-/

namespace ApiConsole

variable {σ α : Type}

/-- Some ids have these results: each known id that of its fire, and every other id an error. -/
inductive Catalog.Answered (catalog : Catalog) :
    List String → List Fire → List FireResult → Prop where
  | nil : Answered catalog [] [] []
  | refused {id : String} {ids : List String} {fires : List Fire} {results : List FireResult}
      (unknown : (catalog.get id).isOk = false) (rest : Answered catalog ids fires results) :
      Answered catalog (id :: ids) fires (.error (.unknownEndpoint id) :: results)
  | sent {fire : Fire} {ids : List String} {fires : List Fire} {results : List FireResult}
      (known : (catalog.get fire.id).isOk)
      (composed : ∃ endpoint session, catalog.get fire.id = .ok endpoint ∧
        fire.request = Request.compose endpoint session)
      (rest : Answered catalog ids fires results) :
      Answered catalog (fire.id :: ids) (fire :: fires) (.ok fire.answer :: results)

namespace Catalog.Answered

variable {catalog : Catalog} {ids : List String} {fires : List Fire} {results : List FireResult}

theorem append {others : List String} {more : List Fire} {further : List FireResult}
    (first : catalog.Answered ids fires results) (second : catalog.Answered others more further) :
    catalog.Answered (ids ++ others) (fires ++ more) (results ++ further) := by
  induction first with
  | nil => exact second
  | refused unknown _ ih => exact .refused unknown ih
  | sent known composed _ ih => exact .sent known composed ih

theorem length_results (answered : catalog.Answered ids fires results) :
    results.length = ids.length := by
  induction answered with
  | nil => rfl
  | refused _ _ ih => exact congrArg (· + 1) ih
  | sent _ _ _ ih => exact congrArg (· + 1) ih

/-- There is one fire for each known id. -/
theorem ids_eq (answered : catalog.Answered ids fires results) :
    fires.map Fire.id = ids.filter fun id => (catalog.get id).isOk := by
  induction answered with
  | nil => rfl
  | refused unknown _ ih =>
      rw [List.filter_cons, unknown, ih]
      rfl
  | sent known _ _ ih => rw [List.filter_cons, if_pos known, List.map_cons, ih]

/-- Each request is that of the endpoint of its fire. -/
theorem composed (answered : catalog.Answered ids fires results) (fire : Fire)
    (member : fire ∈ fires) :
    ∃ endpoint session, catalog.get fire.id = .ok endpoint ∧
      fire.request = Request.compose endpoint session := by
  induction answered with
  | nil => cases member
  | refused _ _ ih => exact ih member
  | sent _ composed _ ih =>
      rcases List.mem_cons.mp member with same | later
      · exact same ▸ composed
      · exact ih later

end Catalog.Answered

def Flight.ending (flight : Flight α) : α × FireResult :=
  (flight.tag, .ok flight.outcome)

namespace Traffic

/--
Launches have led from one traffic to another: they have sent the requests of some fires, and each
launch has either landed with its result or left a flight that will.
-/
structure Launched (transport : Transport σ) (before after : Traffic σ α)
    (launches : List (α × String)) (landings : List (Landing α)) (fires : List Fire)
    (results : List FireResult) : Prop where
  catalog : after.console.catalog = before.console.catalog
  answered : before.console.catalog.Answered (launches.map Prod.snd) fires results
  sent : after.console.sent = before.console.sent ++ fires.map Fire.request
  issued : transport.issueAll before.console.wire (fires.map Fire.request) =
    (after.console.wire, fires.map Fire.answer)
  endings : ∃ flights, after.aloft = before.aloft ++ flights ∧
    (landings.map Landing.ending ++ flights.map Flight.ending).Perm
      ((launches.map Prod.fst).zip results)

namespace Launched

variable {transport : Transport σ}

theorem refl (transport : Transport σ) (traffic : Traffic σ α) :
    Launched transport traffic traffic [] [] [] [] where
  catalog := rfl
  answered := .nil
  sent := (List.append_nil _).symm
  issued := rfl
  endings := ⟨[], (List.append_nil _).symm, .nil⟩

theorem trans {before between after : Traffic σ α} {launches more : List (α × String)}
    {landings later : List (Landing α)} {fires others : List Fire}
    {results further : List FireResult}
    (first : Launched transport before between launches landings fires results)
    (second : Launched transport between after more later others further) :
    Launched transport before after (launches ++ more) (landings ++ later) (fires ++ others)
      (results ++ further) where
  catalog := second.catalog.trans first.catalog
  answered := by
    rw [List.map_append]
    exact first.answered.append (first.catalog ▸ second.answered)
  sent := by rw [second.sent, first.sent, List.map_append, List.append_assoc]
  issued := by
    rw [List.map_append, Transport.issueAll_append, first.issued, second.issued, List.map_append]
  endings := by
    obtain ⟨flights, aloft, endings⟩ := first.endings
    obtain ⟨behind, above, others⟩ := second.endings
    refine ⟨flights ++ behind, by rw [above, aloft, List.append_assoc], ?_⟩
    have lengths : (launches.map Prod.fst).length = results.length := by
      rw [first.answered.length_results, List.length_map, List.length_map]
    rw [List.map_append, List.map_append, List.map_append, List.zip_append lengths]
    -- The landings of the second part stand before the flights of the first.
    refine List.Perm.trans ?_ (endings.append others)
    simp only [List.append_assoc]
    refine List.Perm.append_left _ ?_
    rw [← List.append_assoc, ← List.append_assoc]
    exact List.perm_append_comm.append_right _

end Launched

variable (transport : Transport σ)

/-- A launch is refused, or it sends one request and lands or leaves one flight. -/
theorem launch_launched (traffic : Traffic σ α) (tag : α) (id : String) :
    ∃ fires results, Launched transport traffic (traffic.launch transport tag id).1 [(tag, id)]
      (traffic.launch transport tag id).2 fires results := by
  cases known : traffic.console.catalog.get id with
  | error error =>
      rw [launch_unknown transport traffic tag known]
      have unknown : (traffic.console.catalog.get id).isOk = false := by rw [known]; rfl
      refine ⟨[], [.error (.unknownEndpoint id)], ?_⟩
      rw [Catalog.get_eq_error known]
      exact {
        catalog := rfl
        answered := .refused unknown .nil
        sent := (List.append_nil _).symm
        issued := rfl
        endings := ⟨[], (List.append_nil _).symm, .refl _⟩ }
  | ok endpoint =>
      let request := Request.compose endpoint traffic.console.session
      let fire : Fire := ⟨id, request, (transport.issue traffic.console.wire request).2.outcome⟩
      have isKnown : (traffic.console.catalog.get fire.id).isOk := by
        change (traffic.console.catalog.get id).isOk
        rw [known]
        rfl
      have answered : traffic.console.catalog.Answered [id] [fire] [.ok fire.answer] :=
        .sent isKnown ⟨endpoint, traffic.console.session, known, rfl⟩ .nil
      refine ⟨[fire], [.ok fire.answer], ?_⟩
      cases due : (transport.issue traffic.console.wire request).2.delay with
      | none =>
          rw [launch_at_once transport traffic tag known rfl due]
          exact {
            catalog := rfl
            answered := answered
            sent := by rw [Console.sent_resolve, Console.sent_send]; rfl
            issued := rfl
            endings := ⟨[], (List.append_nil _).symm, .refl _⟩ }
      | some delay =>
          rw [launch_later transport traffic tag known rfl due]
          exact {
            catalog := rfl
            answered := answered
            sent := by rw [Console.sent_send]; rfl
            issued := rfl
            endings := ⟨_, rfl, .refl _⟩ }

theorem launchAll_launched (traffic : Traffic σ α) (launches : List (α × String)) :
    ∃ fires results, Launched transport traffic (traffic.launchAll transport launches).1 launches
      (traffic.launchAll transport launches).2 fires results := by
  induction launches generalizing traffic with
  | nil => exact ⟨[], [], .refl transport traffic⟩
  | cons launch rest ih =>
      obtain ⟨tag, id⟩ := launch
      obtain ⟨fires, results, first⟩ := launch_launched transport traffic tag id
      obtain ⟨others, further, second⟩ := ih (traffic.launch transport tag id).1
      exact ⟨fires ++ others, results ++ further, first.trans second⟩

end Traffic

/--
Fires at once send the requests of the known ids in order, and bring each id its own result,
whatever time the outcomes take.
-/
theorem Console.fireConcurrently_answered (transport : Transport σ) (console : Console σ)
    (ids : List String) :
    ∃ fires,
      console.catalog.Answered ids fires (console.fireConcurrently transport ids).2 ∧
      (console.fireConcurrently transport ids).1.catalog = console.catalog ∧
      (console.fireConcurrently transport ids).1.sent = console.sent ++ fires.map Fire.request ∧
      transport.issueAll console.wire (fires.map Fire.request) =
        ((console.fireConcurrently transport ids).1.wire, fires.map Fire.answer) := by
  obtain ⟨fires, results, launched⟩ :=
    Traffic.launchAll_launched transport (.ofConsole console) (Traffic.placed ids)
  let outcome := (Traffic.ofConsole console).launchAll transport (Traffic.placed ids)
  obtain ⟨flights, aloft, endings⟩ := launched.endings
  have answered : console.catalog.Answered ids fires results :=
    Traffic.map_snd_placed ids ▸ launched.answered
  let order := Traffic.inLandingOrder outcome.1.aloft
  obtain ⟨⟨now, landed⟩, landings⟩ := Traffic.land_eq outcome.1.console order
  have flown : (order.map Flight.ending).Perm (flights.map Flight.ending) := by
    have same : outcome.1.aloft = flights := aloft
    exact ((Traffic.inLandingOrder_perm _).trans (.of_eq same)).map _
  have ended : ((outcome.2 ++ outcome.1.drain.2).map Landing.ending).Perm
      ((List.range' 0 results.length).zip results) := by
    rw [List.map_append, answered.length_results, ← Traffic.map_fst_placed]
    refine List.Perm.trans (List.Perm.append_left _ ?_) endings
    exact (List.Perm.of_eq landings).trans flown
  refine ⟨fires, ?_, ?_, ?_, ?_⟩
  · change console.catalog.Answered ids fires
      (((outcome.2 ++ outcome.1.drain.2).mergeSort fun one other =>
        one.tag ≤ other.tag).map Landing.result)
    rw [Traffic.results_inOrder ended]
    exact answered
  · exact (congrArg Console.catalog landed).trans launched.catalog
  · exact (Traffic.sent_land outcome.1.console order).trans launched.sent
  · exact launched.issued.trans (congrArg (·, _) (congrArg Console.wire landed).symm)

end ApiConsole
