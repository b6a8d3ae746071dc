import ApiConsole.Proofs.Answers
import ApiConsole.Proofs.Batch.InTurn

/-!
# Unknown ids among fires at once

The fire of an unknown id lands where it starts and leaves everything as it was.  So fires at once
leave the console as those of the known ids alone would, whatever time the outcomes take, and each
of their results stands at the place of its id.
-/

namespace ApiConsole

variable {σ α : Type}

/-- A flight of which only the landing matters, and not whose it is. -/
def Flight.untagged (flight : Flight α) : Flight Unit :=
  ⟨(), flight.request, flight.outcome, flight.due⟩

namespace Traffic

def untagged (traffic : Traffic σ α) : Traffic σ Unit :=
  ⟨traffic.console, traffic.aloft.map Flight.untagged⟩

variable (transport : Transport σ)

theorem catalog_launch (traffic : Traffic σ α) (tag : α) (id : String) :
    (traffic.launch transport tag id).1.console.catalog = traffic.console.catalog := by
  obtain ⟨fires, results, launched⟩ := launch_launched transport traffic tag id
  exact launched.catalog

/-- The tag of a launch goes with its flight and nowhere else. -/
theorem untagged_launch (traffic : Traffic σ α) (tag : α) (id : String) :
    (traffic.launch transport tag id).1.untagged =
      (traffic.untagged.launch transport () id).1 := by
  cases known : traffic.console.catalog.get id with
  | error error =>
      rw [launch_unknown transport traffic tag known,
        launch_unknown transport traffic.untagged () known]
  | ok endpoint =>
      let request := Request.compose endpoint traffic.console.session
      cases due : (transport.issue traffic.console.wire request).2.delay with
      | none =>
          rw [launch_at_once transport traffic tag known rfl due,
            launch_at_once transport traffic.untagged () known rfl due]
          rfl
      | some delay =>
          rw [launch_later transport traffic tag known rfl due,
            launch_later transport traffic.untagged () known rfl due, untagged, List.map_append]
          rfl

/-- But for the tags, launches leave the traffic that those of the known ids do. -/
theorem untagged_launchAll (traffic : Traffic σ α) (launches : List (α × String)) :
    (traffic.launchAll transport launches).1.untagged =
      (traffic.untagged.launchAll transport
        (((launches.map Prod.snd).filter fun id => (traffic.console.catalog.get id).isOk).map
          (Prod.mk ()))).1 := by
  induction launches generalizing traffic with
  | nil => rfl
  | cons launch rest ih =>
      obtain ⟨tag, id⟩ := launch
      have further := ih (traffic.launch transport tag id).1
      rw [catalog_launch, untagged_launch] at further
      refine further.trans ?_
      rw [List.map_cons, List.filter_cons]
      cases known : (traffic.console.catalog.get id).isOk with
      | true => rfl
      | false =>
          have unknown : traffic.untagged.console.catalog.get id = .error (.unknownEndpoint id) :=
            Catalog.get_of_unknown known
          rw [launch_unknown transport traffic.untagged () unknown]
          rfl

theorem land_untagged (console : Console σ) (flights : List (Flight α)) :
    (land console (flights.map Flight.untagged)).1 = (land console flights).1 := by
  induction flights generalizing console with
  | nil => rfl
  | cons flight rest ih => exact ih _

/-- Flights land in the order of their times, whatever their tags. -/
theorem drain_untagged (traffic : Traffic σ α) : traffic.untagged.drain.1 = traffic.drain.1 := by
  have order : inLandingOrder (traffic.aloft.map Flight.untagged) =
      (inLandingOrder traffic.aloft).map Flight.untagged := by
    refine (List.map_mergeSort fun first _ second _ => ?_).symm
    rfl
  change (land traffic.console (inLandingOrder (traffic.aloft.map Flight.untagged))).1 = _
  rw [order, land_untagged]
  rfl

end Traffic

namespace Catalog.Answered

variable {catalog : Catalog} {ids : List String} {fires : List Fire} {results : List FireResult}

/-- At the places of the known ids stand the answers of their fires. -/
theorem results_known (answered : catalog.Answered ids fires results) :
    ((ids.zip results).filter fun pair => (catalog.get pair.1).isOk).map Prod.snd =
      (fires.map Fire.answer).map .ok := by
  induction answered with
  | nil => rfl
  | refused unknown _ ih =>
      rw [List.zip_cons_cons, List.filter_cons, unknown]
      exact ih
  | sent known _ _ ih =>
      rw [List.zip_cons_cons, List.filter_cons, if_pos known, List.map_cons, ih]
      rfl

/-- At the place of every other id stands its error. -/
theorem results_unknown (answered : catalog.Answered ids fires results) :
    ∀ pair ∈ ids.zip results, (catalog.get pair.1).isOk = false →
      pair.2 = .error (.unknownEndpoint pair.1) := by
  induction answered with
  | nil => simp
  | refused _ _ ih => exact List.forall_mem_cons.mpr ⟨fun _ => rfl, ih⟩
  | sent known _ _ ih =>
      refine List.forall_mem_cons.mpr ⟨fun unknown => ?_, ih⟩
      cases known.symm.trans unknown

/-- Where all ids are known, the results are the answers of the fires. -/
theorem results_of_known (answered : catalog.Answered ids fires results)
    (known : ∀ id ∈ ids, (catalog.get id).isOk) :
    results = (fires.map Fire.answer).map .ok := by
  have all : (ids.zip results).filter (fun pair => (catalog.get pair.1).isOk) = ids.zip results :=
    List.filter_eq_self.mpr fun pair member => known pair.1 (List.of_mem_zip member).1
  rw [← answered.results_known, all]
  exact (List.map_snd_zip (Nat.le_of_eq answered.length_results)).symm

end Catalog.Answered

/-- What fires at once leave is told by the known ids alone. -/
theorem Console.fireConcurrently_eq_drain (transport : Transport σ) (console : Console σ)
    (ids : List String) :
    (console.fireConcurrently transport ids).1 =
      ((Traffic.ofConsole console).launchAll transport
        ((ids.filter fun id => (console.catalog.get id).isOk).map (Prod.mk ()))).1.drain.1 := by
  have launched := Traffic.untagged_launchAll transport (.ofConsole console) (Traffic.placed ids)
  rw [Traffic.map_snd_placed] at launched
  change ((Traffic.ofConsole console).launchAll transport (Traffic.placed ids)).1.drain.1 = _
  rw [← Traffic.drain_untagged, launched]
  rfl

/--
Unknown ids among fires at once change nothing: the console is left with the events, the session and
the transport that the fires of the known ids alone leave, and these have the same results, each at
the place of its id.  At every other place stands the error of the id there.
-/
theorem Console.fireConcurrently_known (transport : Transport σ) (console : Console σ)
    (ids : List String) :
    let known := fun id => (console.catalog.get id).isOk
    let fired := console.fireConcurrently transport ids
    let alone := console.fireConcurrently transport (ids.filter known)
    fired.1 = alone.1 ∧
      fired.2.length = ids.length ∧
      ((ids.zip fired.2).filter fun pair => known pair.1).map Prod.snd = alone.2 ∧
      ∀ pair ∈ ids.zip fired.2, known pair.1 = false →
        pair.2 = .error (.unknownEndpoint pair.1) := by
  intro known fired alone
  have same : fired.1 = alone.1 := by
    have left := console.fireConcurrently_eq_drain transport (ids.filter known)
    have again : (ids.filter known).filter known = ids.filter known := by
      rw [List.filter_filter]
      simp only [Bool.and_self]
    rw [again] at left
    exact (console.fireConcurrently_eq_drain transport ids).trans left.symm
  obtain ⟨fires, answered, _, sent, issued⟩ := console.fireConcurrently_answered transport ids
  obtain ⟨others, answeredAlone, _, sentAlone, issuedAlone⟩ :=
    console.fireConcurrently_answered transport (ids.filter known)
  -- The two batches send the same requests, so these are given the same answers.
  have requests : fires.map Fire.request = others.map Fire.request :=
    List.append_cancel_left (sent.symm.trans ((congrArg Console.sent same).trans sentAlone))
  have answers : fires.map Fire.answer = others.map Fire.answer := by
    rw [requests] at issued
    exact congrArg Prod.snd (issued.symm.trans issuedAlone)
  refine ⟨same, answered.length_results, ?_, answered.results_unknown⟩
  rw [answered.results_known, answers]
  exact (answeredAlone.results_of_known fun id member => (List.mem_filter.mp member).2).symm

end ApiConsole
