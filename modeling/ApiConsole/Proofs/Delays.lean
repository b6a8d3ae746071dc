import ApiConsole.Catalog
import ApiConsole.Proofs.Extraction
import ApiConsole.Proofs.Traffic
import ApiConsole.Transport
import Mathlib

/-!
# Fires at once that take their time

Where every outcome of a batch takes its time, all requests have gone out before the first outcome
comes in.  So they are made of the session as it was before the batch, and how long each reply takes
changes neither them nor the results.  It decides the order in which the outcomes come in, and with
it what they leave in the session.
-/

namespace ApiConsole

variable {σ τ α : Type}

def Reply.duration (reply : Reply) : Nat :=
  reply.delay.getD 0

namespace Transport

/-- The replies of a transport to requests that are handed to it one after another. -/
def replies (transport : Transport σ) (wire : σ) : List Request → List Reply
  | [] => []
  | request :: rest =>
      let (next, reply) := transport.issue wire request
      reply :: transport.replies next rest

theorem length_replies (transport : Transport σ) (wire : σ) (requests : List Request) :
    (transport.replies wire requests).length = requests.length := by
  induction requests generalizing wire with
  | nil => rfl
  | cons request rest ih => exact congrArg (· + 1) (ih _)

theorem map_outcome_replies (transport : Transport σ) (wire : σ) (requests : List Request) :
    (transport.replies wire requests).map Reply.outcome = (transport.issueAll wire requests).2 := by
  induction requests generalizing wire with
  | nil => rfl
  | cons request rest ih => exact congrArg ((transport.issue wire request).2.outcome :: ·) (ih _)

/-- What each of some ids is answered if all their requests are made of the same session. -/
def answers (transport : Transport σ) (catalog : Catalog) (session : Session) (wire : σ) :
    List String → List FireResult
  | [] => []
  | id :: rest =>
      match catalog.get id with
      | .error error => .error error :: transport.answers catalog session wire rest
      | .ok endpoint =>
          let (next, reply) := transport.issue wire (Request.compose endpoint session)
          .ok reply.outcome :: transport.answers catalog session next rest

theorem answers_cons_of_unknown (transport : Transport σ) {catalog : Catalog} {id : String}
    {error : Error} (unknown : catalog.get id = .error error) (session : Session) (wire : σ)
    (rest : List String) :
    transport.answers catalog session wire (id :: rest) =
      .error error :: transport.answers catalog session wire rest := by
  rw [answers, unknown]

theorem answers_cons_of_known (transport : Transport σ) {catalog : Catalog} {id : String}
    {endpoint : Endpoint} (known : catalog.get id = .ok endpoint) (session : Session) (wire : σ)
    (rest : List String) :
    transport.answers catalog session wire (id :: rest) =
      .ok (transport.issue wire (Request.compose endpoint session)).2.outcome ::
        transport.answers catalog session
          (transport.issue wire (Request.compose endpoint session)).1 rest := by
  rw [answers, known]

theorem length_answers (transport : Transport σ) (catalog : Catalog) (session : Session)
    (wire : σ) (ids : List String) :
    (transport.answers catalog session wire ids).length = ids.length := by
  induction ids generalizing wire with
  | nil => rfl
  | cons id rest ih =>
      cases known : catalog.get id with
      | error error =>
          rw [answers_cons_of_unknown transport known, List.length_cons, ih, List.length_cons]
      | ok endpoint =>
          rw [answers_cons_of_known transport known, List.length_cons, ih, List.length_cons]

/-- Two transports give the same outcomes to the same requests, however long each of them takes. -/
def Alike (first : Transport σ) (wire : σ) (second : Transport τ) (other : τ) : Prop :=
  ∀ requests, (first.issueAll wire requests).2 = (second.issueAll other requests).2

namespace Alike

variable {first : Transport σ} {second : Transport τ} {wire : σ} {other : τ}

/-- What has been handed over so far does not set the transports apart. -/
theorem issueAll (alike : first.Alike wire second other) (requests : List Request) :
    first.Alike (first.issueAll wire requests).1 second (second.issueAll other requests).1 := by
  intro more
  have whole := alike (requests ++ more)
  rw [issueAll_append, issueAll_append, alike requests] at whole
  exact List.append_cancel_left whole

theorem answers_eq (alike : first.Alike wire second other) (catalog : Catalog)
    (session : Session) (ids : List String) :
    first.answers catalog session wire ids = second.answers catalog session other ids := by
  induction ids generalizing wire other with
  | nil => rfl
  | cons id rest ih =>
      cases known : catalog.get id with
      | error error =>
          rw [answers_cons_of_unknown first known, answers_cons_of_unknown second known, ih alike]
      | ok endpoint =>
          let request := Request.compose endpoint session
          obtain ⟨outcome, _⟩ := List.cons.inj (alike [request])
          rw [answers_cons_of_known first known, answers_cons_of_known second known, outcome]
          exact congrArg _ (ih (alike.issueAll [request]))

end Alike

/-- The replies to some requests all take their time, and no two take the same. -/
structure Staggered (transport : Transport σ) (wire : σ) (requests : List Request) : Prop where
  later : ∀ reply ∈ transport.replies wire requests, reply.delay.isSome
  apart : ((transport.replies wire requests).map Reply.duration).Nodup

end Transport

namespace Catalog

/-- The requests that ids make of a session, one for each id that an endpoint has. -/
def requests (catalog : Catalog) (session : Session) (ids : List String) : List Request :=
  ids.filterMap fun id =>
    match catalog.get id with
    | .ok endpoint => some (Request.compose endpoint session)
    | .error _ => none

variable {catalog : Catalog} {id : String}

theorem requests_cons_of_unknown {error : Error} (unknown : catalog.get id = .error error)
    (session : Session) (rest : List String) :
    catalog.requests session (id :: rest) = catalog.requests session rest := by
  rw [requests, List.filterMap_cons, unknown]
  rfl

theorem requests_cons_of_known {endpoint : Endpoint} (known : catalog.get id = .ok endpoint)
    (session : Session) (rest : List String) :
    catalog.requests session (id :: rest) =
      Request.compose endpoint session :: catalog.requests session rest := by
  rw [requests, List.filterMap_cons, known]
  rfl

end Catalog

/-- Hands over requests one after another, before any outcome comes in. -/
def Console.sendAll (transport : Transport σ) (console : Console σ) (requests : List Request) :
    Console σ :=
  { console with
    wire := (transport.issueAll console.wire requests).1
    events := console.events ++ requests.map .sent }

theorem Console.sendAll_cons (transport : Transport σ) (console : Console σ) (request : Request)
    (rest : List Request) :
    console.sendAll transport (request :: rest) =
      (console.send transport request).1.sendAll transport rest := by
  simp [sendAll, send, Transport.issueAll]

def Landing.ending (landing : Landing α) : α × FireResult :=
  (landing.tag, landing.result)

/-- A fire whose request has been sent, and the reply that is in store for it. -/
structure Departure (α : Type) where
  tag : α
  request : Request
  reply : Reply

namespace Departure

def flight (now : Nat) (departure : Departure α) : Flight α :=
  ⟨departure.tag, departure.request, departure.reply.outcome, now + departure.reply.duration⟩

def exchange (departure : Departure α) : Request × Reply :=
  (departure.request, departure.reply)

def ending (departure : Departure α) : α × FireResult :=
  (departure.tag, .ok departure.reply.outcome)

end Departure

namespace Traffic

/--
Where every reply takes its time, launches send the requests of the session as it is and land only
the fires of unknown ids; all others depart.
-/
theorem launchAll_later (transport : Transport σ) (traffic : Traffic σ α)
    (fires : List (α × String))
    (later : ∀ reply ∈ transport.replies traffic.console.wire
      (traffic.console.catalog.requests traffic.console.session (fires.map Prod.snd)),
      reply.delay.isSome) :
    let requests := traffic.console.catalog.requests traffic.console.session (fires.map Prod.snd)
    ∃ departures : List (Departure α),
      (traffic.launchAll transport fires).1 =
        ⟨traffic.console.sendAll transport requests,
          traffic.aloft ++ departures.map (Departure.flight traffic.console.now)⟩ ∧
      departures.map Departure.exchange =
        requests.zip (transport.replies traffic.console.wire requests) ∧
      ((traffic.launchAll transport fires).2.map Landing.ending ++
          departures.map Departure.ending).Perm
        ((fires.map Prod.fst).zip
          (transport.answers traffic.console.catalog traffic.console.session traffic.console.wire
            (fires.map Prod.snd))) := by
  intro requests
  induction fires generalizing traffic with
  | nil =>
      refine ⟨[], ?_, rfl, .nil⟩
      simp [launchAll, Console.sendAll, Transport.issueAll, requests, Catalog.requests]
  | cons fire rest ih =>
      obtain ⟨tag, id⟩ := fire
      simp only [List.map_cons] at later requests
      cases known : traffic.console.catalog.get id with
      | error error =>
          -- The fire lands where it starts, and nothing is handed over.
          have same : requests = traffic.console.catalog.requests traffic.console.session
              (rest.map Prod.snd) := Catalog.requests_cons_of_unknown known _ _
          rw [Catalog.requests_cons_of_unknown known] at later
          obtain ⟨departures, launched, exchanges, endings⟩ := ih traffic later
          rw [launchAll, launch_unknown transport traffic tag known, same]
          refine ⟨departures, launched, exchanges, ?_⟩
          simp only [List.map_cons, Transport.answers_cons_of_unknown transport known]
          exact endings.cons _
      | ok endpoint =>
          -- The fire departs, so the rest is still composed of the same session.
          let request := Request.compose endpoint traffic.console.session
          let reply := (transport.issue traffic.console.wire request).2
          have same : requests = request :: traffic.console.catalog.requests
              traffic.console.session (rest.map Prod.snd) :=
            Catalog.requests_cons_of_known known _ _
          rw [Catalog.requests_cons_of_known known] at later
          obtain ⟨delay, due⟩ := Option.isSome_iff_exists.mp (later reply (List.mem_cons_self ..))
          obtain ⟨departures, launched, exchanges, endings⟩ :=
            ih ⟨(traffic.console.send transport request).1, traffic.aloft ++
                [⟨tag, request, reply.outcome, traffic.console.now + delay⟩]⟩
              fun other member => later other (List.mem_cons_of_mem _ member)
          rw [launchAll, launch_later transport traffic tag known rfl due, same]
          refine ⟨⟨tag, request, reply⟩ :: departures, ?_, ?_, ?_⟩
          · have duration : reply.duration = delay := by rw [Reply.duration, due]; rfl
            rw [Console.sendAll_cons, List.map_cons, Departure.flight, duration]
            exact launched.trans (congrArg _ (List.append_assoc ..))
          · rw [List.map_cons, exchanges]
            rfl
          · simp only [List.map_cons, Transport.answers_cons_of_known transport known]
            exact List.perm_middle.trans (endings.cons _)

/-- Flights that land in some order leave their extractions and their events in that order. -/
theorem land_eq (console : Console σ) (flights : List (Flight α)) :
    (∃ now, (land console flights).1 =
      { console with
        session := Watch.takeIn console.watched console.session (flights.map Flight.outcome)
        events := console.events ++
          flights.map fun flight => .resolved flight.request flight.outcome
        now }) ∧
      (land console flights).2.map Landing.ending =
        flights.map fun flight => (flight.tag, .ok flight.outcome) := by
  induction flights generalizing console with
  | nil => exact ⟨⟨console.now, by simp [land, Watch.takeIn]⟩, rfl⟩
  | cons flight rest ih =>
      let arrived : Console σ := { console with now := max console.now flight.due }
      obtain ⟨⟨now, landed⟩, endings⟩ := ih (arrived.resolve flight.request flight.outcome)
      refine ⟨⟨now, landed.trans ?_⟩, ?_⟩
      · simp [Console.resolve, Watch.takeIn, arrived]
      · rw [land, List.map_cons, endings]
        rfl

/-- Sorted by keys that are all different, items stand in strictly ascending order. -/
theorem pairwise_lt_mergeSort {β : Type} (key : β → Nat) {items : List β}
    (apart : (items.map key).Nodup) :
    (items.mergeSort fun one other => key one ≤ key other).Pairwise fun one other =>
      key one < key other := by
  have ordered : (items.mergeSort fun one other => key one ≤ key other).Pairwise
      fun one other => key one ≤ key other := by
    refine (List.pairwise_mergeSort ?_ ?_ items).imp fun before => of_decide_eq_true before
    · intro one other third first second
      exact decide_eq_true (Nat.le_trans (of_decide_eq_true first) (of_decide_eq_true second))
    · intro one other
      simpa using Nat.le_total (key one) (key other)
  have perm := (List.mergeSort_perm items fun one other => key one ≤ key other).map key
  have different := List.pairwise_map.mp (perm.nodup_iff.mpr apart)
  exact (ordered.and different).imp fun ⟨le, ne⟩ => Nat.lt_of_le_of_ne le ne

/--
Departures of one time whose replies take different times land in the order of these times, and
leave their extractions and their events in that order.
-/
theorem drain_departures (console : Console σ) (start : Nat) (departures : List (Departure α))
    (apart : (departures.map fun departure => departure.reply.duration).Nodup) :
    ∃ order : List (Departure α), order.Perm departures ∧
      (order.Pairwise fun first second => first.reply.duration < second.reply.duration) ∧
      (∃ now, (drain ⟨console, departures.map (Departure.flight start)⟩).1 =
        { console with
          session := Watch.takeIn console.watched console.session
            (order.map fun departure => departure.reply.outcome)
          events := console.events ++
            order.map fun departure => .resolved departure.request departure.reply.outcome
          now }) ∧
      (drain ⟨console, departures.map (Departure.flight start)⟩).2.map Landing.ending =
        order.map Departure.ending := by
  let order := departures.mergeSort fun first second =>
    first.reply.duration ≤ second.reply.duration
  have landingOrder : inLandingOrder (departures.map (Departure.flight start)) =
      order.map (Departure.flight start) := by
    refine (List.map_mergeSort fun first _ second _ => ?_).symm
    simp [Departure.flight]
  obtain ⟨⟨now, landed⟩, endings⟩ := land_eq console (order.map (Departure.flight start))
  rw [List.map_map, List.map_map] at landed
  rw [List.map_map] at endings
  rw [drain, landingOrder]
  exact ⟨order, List.mergeSort_perm departures _, pairwise_lt_mergeSort _ apart, ⟨now, landed⟩,
    endings⟩

/-- Results of fires that are tagged with their places come in the order of these places. -/
theorem results_inOrder {landings : List (Landing Nat)} {results : List FireResult}
    (endings : (landings.map Landing.ending).Perm
      ((List.range' 0 results.length).zip results)) :
    (landings.mergeSort fun one other => one.tag ≤ other.tag).map Landing.result = results := by
  let sorted := landings.mergeSort fun one other => decide (one.tag ≤ other.tag)
  let numbered := (List.range' 0 results.length).zip results
  have places : numbered.map Prod.fst = List.range' 0 results.length :=
    List.map_fst_zip (Nat.le_of_eq List.length_range')
  have apart : (landings.map Landing.tag).Nodup := by
    have tags : ((landings.map Landing.ending).map Prod.fst).Perm _ := endings.map Prod.fst
    rw [places, List.map_map] at tags
    exact tags.nodup_iff.mpr List.nodup_range'
  have ascending : (sorted.map Landing.ending).Pairwise fun one other => one.1 < other.1 :=
    List.pairwise_map.mpr (pairwise_lt_mergeSort Landing.tag apart)
  have ordered : numbered.Pairwise fun one other => one.1 < other.1 :=
    List.pairwise_map.mp (places ▸ List.pairwise_lt_range')
  -- Two strictly ascending lists with the same items are the same list.
  have same : sorted.map Landing.ending = numbered := by
    refine List.Perm.eq_of_pairwise ?_ ascending ordered
      (((List.mergeSort_perm landings _).map Landing.ending).trans endings)
    intro one other _ _ below above
    exact absurd (Nat.lt_trans below above) (Nat.lt_irrefl _)
  calc sorted.map Landing.result
      = (sorted.map Landing.ending).map Prod.snd := by rw [List.map_map]; rfl
    _ = results := by
        rw [same]
        exact List.map_snd_zip (Nat.le_of_eq List.length_range'.symm)

end Traffic

/-- The replies of a script without the time that they take. -/
def Script.timeless (script : Script) : Script :=
  script.map fun route =>
    { route with replies := route.replies.map fun reply => { reply with delay := none } }

theorem Script.answer_timeless (request : Request) (script : Script) :
    script.timeless.answer request =
      ((script.answer request).1.timeless, { (script.answer request).2 with delay := none }) := by
  induction script with
  | nil => rfl
  | cons route rest ih =>
      obtain ⟨url, method, replies⟩ := route
      cases takes : Route.takes ⟨url, method, replies⟩ request with
      | false =>
          have passed (others : List Reply) : Route.takes ⟨url, method, others⟩ request = false :=
            takes
          simp only [timeless, answer, List.map_cons, passed] at ih ⊢
          rw [ih]
          rfl
      | true =>
          have taken (others : List Reply) : Route.takes ⟨url, method, others⟩ request = true :=
            takes
          simp only [timeless, answer, List.map_cons, taken]
          match replies with
          | [] => rfl
          | [reply] => rfl
          | reply :: other :: others => rfl

/-- Scripts that differ only in how long their replies take are alike. -/
theorem Transport.scripted_alike {first second : Script} (same : first.timeless = second.timeless) :
    scripted.Alike first scripted second := by
  have timeless (script : Script) (requests : List Request) :
      (scripted.issueAll script.timeless requests).2 = (scripted.issueAll script requests).2 := by
    induction requests generalizing script with
    | nil => rfl
    | cons request rest ih =>
        have answered := script.answer_timeless request
        simp only [issueAll, scripted, answered] at ih ⊢
        rw [ih]
  intro requests
  rw [← timeless first, ← timeless second, same]

/-- Two requests of one route, and one of another in between. -/
def Script.crossing (first second third : Nat) : Script :=
  [⟨"/connection", some .post,
      [⟨.success 201 (.object [("uuid", .string "a")]), some first⟩,
        ⟨.success 201 (.object [("uuid", .string "b")]), some third⟩]⟩,
    ⟨"/connection", some .get, [⟨.success 200 (.object [("uuid", .string "c")]), some second⟩]⟩]

namespace Console

/--
Fires of some ids that started together and have all resolved since, in a given order: they led from
one console to another and brought these results.
-/
structure FiredAtOnce (transport : Transport σ) (before after : Console σ) (ids : List String)
    (results : List FireResult) (order : List (Request × Reply)) : Prop where
  catalog : after.catalog = before.catalog
  watched : after.watched = before.watched
  wire : after.wire =
    (transport.issueAll before.wire (before.catalog.requests before.session ids)).1
  /-- All requests are made of the session before, and sent before the first outcome comes in. -/
  events : after.events = before.events ++
    (before.catalog.requests before.session ids).map .sent ++
    order.map fun (request, reply) => .resolved request reply.outcome
  once : order.Perm ((before.catalog.requests before.session ids).zip
    (transport.replies before.wire (before.catalog.requests before.session ids)))
  ascending : order.Pairwise fun first second => first.2.duration < second.2.duration
  session : after.session =
    Watch.takeIn before.watched before.session (order.map fun exchange => exchange.2.outcome)
  results : results = transport.answers before.catalog before.session before.wire ids

theorem fireConcurrently_staggered (transport : Transport σ) (console : Console σ)
    (ids : List String)
    (staggered : transport.Staggered console.wire
      (console.catalog.requests console.session ids)) :
    ∃ order, FiredAtOnce transport console (console.fireConcurrently transport ids).1 ids
      (console.fireConcurrently transport ids).2 order := by
  let requests := console.catalog.requests console.session ids
  let replies := transport.replies console.wire requests
  let sent := console.sendAll transport requests
  let answers := transport.answers console.catalog console.session console.wire ids
  obtain ⟨departures, launched, exchanges, endings⟩ :=
    Traffic.launchAll_later transport (.ofConsole console) (Traffic.placed ids)
      ((Traffic.map_snd_placed ids).symm ▸ staggered.later)
  rw [Traffic.map_snd_placed] at launched exchanges endings
  change (Traffic.launchAll transport _ (Traffic.placed ids)).1 =
    ⟨sent, departures.map (Departure.flight console.now)⟩ at launched
  change departures.map Departure.exchange = requests.zip replies at exchanges
  have durations : (departures.map fun departure => departure.reply.duration) =
      replies.map Reply.duration := by
    have own : (departures.map Departure.exchange).map Prod.snd = replies := by
      rw [exchanges]
      exact List.map_snd_zip (Nat.le_of_eq (Transport.length_replies ..))
    rw [← own, List.map_map, List.map_map]
    rfl
  obtain ⟨order, once, ascending, ⟨now, finished⟩, landings⟩ :=
    Traffic.drain_departures sent console.now departures (durations ▸ staggered.apart)
  rw [← launched] at finished landings
  let outcome := (Traffic.ofConsole console).launchAll transport (Traffic.placed ids)
  refine ⟨order.map Departure.exchange, ?_⟩
  change FiredAtOnce transport console outcome.1.drain.1 ids
    (((outcome.2 ++ outcome.1.drain.2).mergeSort fun one other =>
      one.tag ≤ other.tag).map Landing.result) _
  have results : ((outcome.2 ++ outcome.1.drain.2).mergeSort fun one other =>
      one.tag ≤ other.tag).map Landing.result = answers := by
    refine Traffic.results_inOrder ?_
    rw [List.map_append, landings, Transport.length_answers, ← Traffic.map_fst_placed]
    exact ((once.map Departure.ending).append_left _).trans endings
  rw [finished, results]
  exact {
    catalog := rfl
    watched := rfl
    wire := rfl
    events := by rw [List.map_map]; rfl
    once := exchanges ▸ once.map Departure.exchange
    ascending := List.pairwise_map.mpr ascending
    session := by rw [List.map_map]; rfl
    results := rfl }

namespace FiredAtOnce

variable {transport : Transport σ} {catalog : Catalog} {watched : List WatchedField}
  {session : Session} {wire : σ} {after : Console σ} {ids : List String}
  {results : List FireResult} {order : List (Request × Reply)}

/-- What a fresh console has sent is what the ids make of the session before. -/
theorem sent_eq (fired : FiredAtOnce transport (start catalog watched session wire) after ids
    results order) : after.sent = catalog.requests session ids := by
  have sends : (catalog.requests session ids).filterMap (Event.sent? ∘ Event.sent) =
      catalog.requests session ids := List.filterMap_some
  have resolves : order.filterMap (Event.sent? ∘ fun (request, reply) =>
      Event.resolved request reply.outcome) = [] := by
    rw [List.filterMap_eq_nil_iff]
    exact fun _ _ => rfl
  rw [Console.sent, fired.events, List.filterMap_append, List.filterMap_append,
    List.filterMap_map, List.filterMap_map, resolves, List.append_nil]
  exact sends

/-- Each request has resolved once, with the outcome that the transport gave it. -/
theorem resolved_perm (fired : FiredAtOnce transport (start catalog watched session wire) after ids
    results order) :
    after.resolved.Perm ((catalog.requests session ids).zip
      (transport.issueAll wire (catalog.requests session ids)).2) := by
  have resolved : after.resolved = order.map (Prod.map id Reply.outcome) := by
    have sends : (catalog.requests session ids).filterMap (Event.resolved? ∘ Event.sent) = [] := by
      rw [List.filterMap_eq_nil_iff]
      exact fun _ _ => rfl
    rw [Console.resolved, fired.events, List.filterMap_append, List.filterMap_append,
      List.filterMap_map, List.filterMap_map, ← List.filterMap_eq_map]
    exact congrArg (· ++ _) sends
  rw [resolved, ← Transport.map_outcome_replies, List.zip_map_right]
  exact fired.once.map _

end FiredAtOnce

/--
Two batches of the same fires that differ only in how long the replies take send the same requests,
all made of the session before, and bring the same results.  Only the order in which the outcomes
come in may differ, and with it what they leave in the session.
-/
theorem fireConcurrently_two_timings {first : Transport σ} {second : Transport τ} {wire : σ}
    {other : τ} (alike : first.Alike wire second other) (catalog : Catalog)
    (watched : List WatchedField) (session : Session) (ids : List String)
    (here : first.Staggered wire (catalog.requests session ids))
    (there : second.Staggered other (catalog.requests session ids)) :
    let console := start catalog watched session wire
    let twin := start catalog watched session other
    let fired := console.fireConcurrently first ids
    let twinFired := twin.fireConcurrently second ids
    ∃ order twinOrder,
      FiredAtOnce first console fired.1 ids fired.2 order ∧
      FiredAtOnce second twin twinFired.1 ids twinFired.2 twinOrder ∧
      fired.1.sent = catalog.requests session ids ∧
      twinFired.1.sent = catalog.requests session ids ∧
      twinFired.2 = fired.2 ∧
      twinFired.1.resolved.Perm fired.1.resolved ∧
      first.Alike fired.1.wire second twinFired.1.wire := by
  intro console twin fired twinFired
  obtain ⟨order, one⟩ := fireConcurrently_staggered first console ids here
  obtain ⟨twinOrder, two⟩ := fireConcurrently_staggered second twin ids there
  refine ⟨order, twinOrder, one, two, one.sent_eq, two.sent_eq, ?_, ?_, ?_⟩
  · rw [one.results, two.results]
    exact (alike.answers_eq catalog session ids).symm
  · refine two.resolved_perm.trans ?_
    rw [← alike (catalog.requests session ids)]
    exact one.resolved_perm.symm
  · rw [one.wire, two.wire]
    exact alike.issueAll _

/-- In ascending order the last request wins, and in descending order the first. -/
theorem fireConcurrently_two_timings_crossing :
    let console := start Catalog.builtin Watch.default Session.default (Script.crossing 1 2 3)
    let twin := start Catalog.builtin Watch.default Session.default (Script.crossing 30 20 10)
    let ids := ["add-conn", "list-conns", "nope", "add-conn"]
    let fired := console.fireConcurrently Transport.scripted ids
    let twinFired := twin.fireConcurrently Transport.scripted ids
    fired.1.sent.map Request.url = ["/connection", "/connection", "/connection"] ∧
      twinFired.2 = fired.2 ∧
      fired.1.session.get? "conn_uuid" = some "b" ∧
      twinFired.1.session.get? "conn_uuid" = some "a" := by
  intro console twin ids fired twinFired
  have alike : Transport.scripted.Alike (Script.crossing 1 2 3) Transport.scripted
      (Script.crossing 30 20 10) := Transport.scripted_alike rfl
  have here : Transport.scripted.Staggered (Script.crossing 1 2 3)
      (Catalog.builtin.requests Session.default ids) := ⟨by decide +kernel, by decide +kernel⟩
  have there : Transport.scripted.Staggered (Script.crossing 30 20 10)
      (Catalog.builtin.requests Session.default ids) := ⟨by decide +kernel, by decide +kernel⟩
  obtain ⟨order, twinOrder, one, two, sent, _, results, _⟩ :=
    fireConcurrently_two_timings alike Catalog.builtin Watch.default Session.default ids here there
  refine ⟨?_, results, ?_, ?_⟩
  · rw [sent]
    decide +kernel
  · simp only [fired, console, ids]
    cbv
  · simp only [twinFired, twin, ids]
    cbv

end Console

end ApiConsole
