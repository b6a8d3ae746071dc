import ApiConsole.Proofs.Events
import ApiConsole.Traffic
import Mathlib.Data.List.Sort

/-!
# Launches and landings

A launch does one of three things: it is refused where there is no such endpoint, it ends at once
where the outcome is there, or it puts a flight behind those that are under way.  Whatever time
passes, the flights under way are those that have not yet landed.
-/

namespace ApiConsole

variable {σ α : Type}

theorem Catalog.get_eq_error {catalog : Catalog} {id : String} {error : Error}
    (unknown : catalog.get id = .error error) : error = .unknownEndpoint id := by
  unfold Catalog.get at unknown
  split at unknown
  · cases unknown
  · cases unknown
    rfl

namespace Console

theorem compose_of_unknown {console : Console σ} {id : String} {error : Error}
    (unknown : console.catalog.get id = .error error) : console.compose id = .error error := by
  rw [compose, unknown]
  rfl

theorem compose_of_known {console : Console σ} {id : String} {endpoint : Endpoint}
    (known : console.catalog.get id = .ok endpoint) :
    console.compose id = .ok (Request.compose endpoint console.session) := by
  rw [compose, known]
  rfl

end Console

namespace Traffic

variable (transport : Transport σ) (traffic : Traffic σ α) (tag : α)

theorem launch_unknown {id : String} {error : Error}
    (unknown : traffic.console.catalog.get id = .error error) :
    traffic.launch transport tag id = (traffic, [⟨tag, traffic.console.now, .error error⟩]) := by
  rw [launch, Console.compose_of_unknown unknown]

theorem launch_at_once {id : String} {endpoint : Endpoint} {request : Request}
    (known : traffic.console.catalog.get id = .ok endpoint)
    (composed : Request.compose endpoint traffic.console.session = request)
    (there : (transport.issue traffic.console.wire request).2.delay = none) :
    traffic.launch transport tag id =
      ({ traffic with
          console := (traffic.console.send transport request).1.resolve request
            (transport.issue traffic.console.wire request).2.outcome },
        [⟨tag, traffic.console.now,
          .ok (transport.issue traffic.console.wire request).2.outcome⟩]) := by
  rw [launch, Console.compose_of_known known, composed]
  simp only [Console.send, there]

theorem launch_later {id : String} {endpoint : Endpoint} {request : Request} {delay : Nat}
    (known : traffic.console.catalog.get id = .ok endpoint)
    (composed : Request.compose endpoint traffic.console.session = request)
    (due : (transport.issue traffic.console.wire request).2.delay = some delay) :
    traffic.launch transport tag id =
      (⟨(traffic.console.send transport request).1,
          traffic.aloft ++ [⟨tag, request,
            (transport.issue traffic.console.wire request).2.outcome,
            traffic.console.now + delay⟩]⟩, []) := by
  rw [launch, Console.compose_of_known known, composed]
  simp only [Console.send, due]

/-- The flights in the order in which they land are the same flights. -/
theorem inLandingOrder_perm (flights : List (Flight α)) : (inLandingOrder flights).Perm flights :=
  List.mergeSort_perm flights _

@[simp]
theorem inLandingOrder_nil : inLandingOrder ([] : List (Flight α)) = [] :=
  List.mergeSort_nil

theorem mem_inLandingOrder_filter {flights : List (Flight α)} {picks : Flight α → Bool}
    {flight : Flight α} :
    flight ∈ inLandingOrder (flights.filter picks) ↔ flight ∈ flights ∧ picks flight :=
  (inLandingOrder_perm _).mem_iff.trans List.mem_filter

/-- Time only parts the flights into those that land and those that stay under way. -/
theorem pass_eq (delay : Nat) :
    ∃ due others, (due ++ others).Perm traffic.aloft ∧
      traffic.pass delay =
        (⟨(land traffic.console due).1.atTime (traffic.console.now + delay), others⟩,
          (land traffic.console due).2) := by
  refine ⟨inLandingOrder (traffic.aloft.filter fun flight =>
      flight.due ≤ traffic.console.now + delay),
    traffic.aloft.filter fun flight => !decide (flight.due ≤ traffic.console.now + delay), ?_, ?_⟩
  · exact ((inLandingOrder_perm _).append_right _).trans (List.filter_append_perm _ _)
  · simp only [pass, List.partition_eq_filter_filter]
    rfl

/-- Ids behind their places, as fires at once are launched. -/
def placed (ids : List String) : List (Nat × String) :=
  ids.zipIdx.map fun pair => (pair.2, pair.1)

@[simp]
theorem map_snd_placed (ids : List String) : (placed ids).map Prod.snd = ids := by
  rw [placed, List.map_map]
  exact List.zipIdx_map_fst 0 ids

@[simp]
theorem map_fst_placed (ids : List String) :
    (placed ids).map Prod.fst = List.range' 0 ids.length := by
  rw [placed, List.map_map]
  exact List.zipIdx_map_snd 0 ids

/-- Landing sends nothing. -/
theorem sent_land (console : Console σ) (flights : List (Flight α)) :
    (land console flights).1.sent = console.sent := by
  induction flights generalizing console with
  | nil => rfl
  | cons flight rest ih =>
      rw [land]
      simp only [ih, Console.sent_resolve]
      rfl

/-- Where nothing is under way, there is nothing to wait for. -/
@[simp]
theorem drain_ofConsole (console : Console σ) :
    (ofConsole console : Traffic σ α).drain = (console, []) := by
  rw [drain, ofConsole, inLandingOrder_nil, land]

/-! ### The order of landings -/

theorem land_append (console : Console σ) (first second : List (Flight α)) :
    land console (first ++ second) =
      let (middle, earlier) := land console first
      let (last, later) := land middle second
      (last, earlier ++ later) := by
  induction first generalizing console with
  | nil => rfl
  | cons flight rest ih =>
      rw [List.cons_append, land, ih, land]
      rfl

/-- Flights that land take the console to the time of the last of them. -/
theorem now_land_eq {limit : Nat} {console : Console σ} {flights : List (Flight α)}
    (early : console.now ≤ limit) (due : ∀ flight ∈ flights, flight.due ≤ limit)
    (reached : limit = console.now ∨ ∃ flight ∈ flights, limit = flight.due) :
    (land console flights).1.now = limit := by
  induction flights generalizing console with
  | nil => exact reached.elim Eq.symm fun ⟨_, member, _⟩ => nomatch member
  | cons flight rest ih =>
      obtain ⟨here, later⟩ := List.forall_mem_cons.mp due
      refine ih (Nat.max_le.mpr ⟨early, here⟩) later ?_
      rcases reached with rfl | ⟨other, member, rfl⟩
      · exact .inl (Nat.max_eq_left here).symm
      · rcases List.mem_cons.mp member with rfl | behind
        · exact .inl (Nat.max_eq_right early).symm
        · exact .inr ⟨other, behind, rfl⟩

theorem orderedInsert_append (flight : Flight α) {limit : Nat} {early late : List (Flight α)}
    (before : ∀ other ∈ early, other.due ≤ limit) (behind : ∀ other ∈ late, limit < other.due) :
    (early ++ late).orderedInsert (fun first second => first.due ≤ second.due) flight =
      if flight.due ≤ limit then
        early.orderedInsert (fun first second => first.due ≤ second.due) flight ++ late
      else early ++ late.orderedInsert (fun first second => first.due ≤ second.due) flight := by
  induction early with
  | nil =>
      cases late with
      | nil => simp
      | cons other late =>
          have later : limit < other.due := behind other List.mem_cons_self
          by_cases due : flight.due ≤ limit
          · simp [due, Nat.le_of_lt (Nat.lt_of_le_of_lt due later)]
          · simp [due]
  | cons other early ih =>
      obtain ⟨here, there⟩ := List.forall_mem_cons.mp before
      by_cases due : flight.due ≤ limit
      · by_cases first : flight.due ≤ other.due <;> simp [due, first, ih there]
      · have last : ¬flight.due ≤ other.due := by omega
        simp [due, last, ih there]

/-- A flight goes in front of the first one that is not due before it. -/
theorem inLandingOrder_cons (flight : Flight α) (flights : List (Flight α)) :
    inLandingOrder (flight :: flights) =
      (inLandingOrder flights).orderedInsert (fun first second => first.due ≤ second.due) flight := by
  have trans (first second third : Flight α) : decide (first.due ≤ second.due) →
      decide (second.due ≤ third.due) → decide (first.due ≤ third.due) := by
    simp only [decide_eq_true_iff]
    exact Nat.le_trans
  have total (first second : Flight α) :
      decide (first.due ≤ second.due) || decide (second.due ≤ first.due) := by
    simp only [Bool.or_eq_true, decide_eq_true_iff]
    exact Nat.le_total ..
  obtain ⟨before, behind, sorted, rest, early⟩ := List.mergeSort_cons trans total flight flights
  have ordered := List.pairwise_mergeSort trans total (flight :: flights)
  rw [sorted, List.pairwise_append] at ordered
  obtain ⟨late, _⟩ := List.pairwise_cons.mp ordered.2.1
  rw [inLandingOrder, inLandingOrder, sorted, rest]
  clear sorted rest ordered
  induction before with
  | nil =>
      cases behind with
      | nil => rfl
      | cons other behind =>
          exact (if_pos (by simpa using late other)).symm
  | cons other before ih =>
      obtain ⟨here, there⟩ := List.forall_mem_cons.mp early
      have last : ¬flight.due ≤ other.due := by simpa using here
      rw [List.cons_append, List.cons_append, List.orderedInsert, if_neg last, ← ih there]

/-- The flights that are due by some time land first. -/
theorem inLandingOrder_eq_append (flights : List (Flight α)) (limit : Nat) :
    inLandingOrder flights =
      inLandingOrder (flights.filter fun flight => flight.due ≤ limit) ++
        inLandingOrder (flights.filter fun flight => !decide (flight.due ≤ limit)) := by
  induction flights with
  | nil => simp
  | cons flight rest ih =>
      have before : ∀ other ∈ inLandingOrder (rest.filter fun flight => flight.due ≤ limit),
          other.due ≤ limit := fun other member =>
        of_decide_eq_true (mem_inLandingOrder_filter.mp member).2
      have behind : ∀ other ∈ inLandingOrder
          (rest.filter fun flight => !decide (flight.due ≤ limit)), limit < other.due :=
        fun other member => by simpa using (mem_inLandingOrder_filter.mp member).2
      rw [inLandingOrder_cons, ih, orderedInsert_append flight before behind]
      by_cases due : flight.due ≤ limit
      · simp [due, inLandingOrder_cons]
      · simp [due, inLandingOrder_cons]

/-- Time that passes until a flight is due is part of the time that passes until all have landed. -/
theorem drain_eq_of_pass (traffic : Traffic σ α) {flight : Flight α}
    (member : flight ∈ traffic.aloft) :
    traffic.drain =
      let (passed, earlier) := traffic.pass (flight.due - traffic.console.now)
      let (last, later) := passed.drain
      (last, earlier ++ later) := by
  let limit := traffic.console.now + (flight.due - traffic.console.now)
  let due := inLandingOrder (traffic.aloft.filter fun flight => flight.due ≤ limit)
  have early : ∀ other ∈ due, other.due ≤ limit := fun other landed =>
    of_decide_eq_true (mem_inLandingOrder_filter.mp landed).2
  have reached : limit = traffic.console.now ∨ ∃ other ∈ due, limit = other.due := by
    rcases Nat.le_total flight.due traffic.console.now with past | coming
    · exact .inl (by simp only [limit]; omega)
    · have same : limit = flight.due := Nat.add_sub_cancel' coming
      have landed : flight ∈ due :=
        mem_inLandingOrder_filter.mpr ⟨member, decide_eq_true same.ge⟩
      exact .inr ⟨flight, landed, same⟩
  have now : (land traffic.console due).1.now = limit :=
    now_land_eq (Nat.le_add_right ..) early reached
  have landed : (land traffic.console due).1.atTime limit = (land traffic.console due).1 := by
    rw [Console.atTime, ← now]
  have passed : traffic.pass (flight.due - traffic.console.now) =
      (⟨(land traffic.console due).1,
        traffic.aloft.filter fun flight => !decide (flight.due ≤ limit)⟩,
        (land traffic.console due).2) := by
    rw [← landed, pass, List.partition_eq_filter_filter]
    rfl
  rw [passed, drain, inLandingOrder_eq_append traffic.aloft limit, land_append]
  rfl

end Traffic

end ApiConsole
