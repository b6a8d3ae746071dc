import ApiConsole.Batch
import ApiConsole.Proofs.Delays
import ApiConsole.Proofs.Run

/-!
# Batches one after another

A batch that composes its ids, or fires them one after another, carries out those before the first
unknown one as if they were all, and then stops with the error of that id.  Nothing else stops it: a
fire that fails on the wire is reported like any other.  Each request of such a fire is made of the
session as the fires before it have left it.
-/

namespace ApiConsole

variable {σ ω : Type}

/-- The endpoint of an id that is known. -/
theorem Catalog.exists_of_known {catalog : Catalog} {id : String} (known : (catalog.get id).isOk) :
    ∃ endpoint, catalog.get id = .ok endpoint := by
  cases found : catalog.get id with
  | error error => rw [found] at known; cases known
  | ok endpoint => exact ⟨endpoint, rfl⟩

/-- The error of an id that is not known. -/
theorem Catalog.get_of_unknown {catalog : Catalog} {id : String}
    (unknown : (catalog.get id).isOk = false) :
    catalog.get id = .error (.unknownEndpoint id) := by
  cases found : catalog.get id with
  | error error => rw [get_eq_error found]
  | ok endpoint => rw [found] at unknown; cases unknown

/-- The fires of some ids have taken place one after another, from one console to another. -/
structure Console.FiredInTurn (transport : Transport σ) (before after : Console σ)
    (ids : List String) (fires : List Fire) : Prop where
  catalog : after.catalog = before.catalog
  watched : after.watched = before.watched
  ids : fires.map Fire.id = ids
  /-- Each request is composed of the session in which all earlier outcomes have been taken in. -/
  composed : ∀ earlier fire later, fires = earlier ++ fire :: later →
    ∃ endpoint, before.catalog.get fire.id = .ok endpoint ∧
      fire.request = Request.compose endpoint
        (Watch.takeIn before.watched before.session (earlier.map Fire.answer))
  answered : transport.issueAll before.wire (fires.map Fire.request) =
    (after.wire, fires.map Fire.answer)
  /-- Each request resolves before the next one is sent. -/
  events : after.events = before.events ++ fires.flatMap fun fire =>
    [.sent fire.request, .resolved fire.request fire.answer]
  session : after.session =
    Watch.takeIn before.watched before.session (fires.map Fire.answer)

namespace Console.FiredInTurn

variable {transport : Transport σ}

theorem refl (transport : Transport σ) (console : Console σ) :
    FiredInTurn transport console console [] [] where
  catalog := rfl
  watched := rfl
  ids := rfl
  composed earlier fire later impossible := by simp at impossible
  answered := rfl
  events := (List.append_nil _).symm
  session := rfl

/-- The fire of a known endpoint, and what it leaves for the fires behind it. -/
theorem cons {console last : Console σ} {id : String} {endpoint : Endpoint} {ids : List String}
    {fires : List Fire} (known : console.catalog.get id = .ok endpoint) :
    let request := Request.compose endpoint console.session
    let answer := (transport.issue console.wire request).2.outcome
    FiredInTurn transport (console.fire transport id).1 last ids fires →
      FiredInTurn transport console last (id :: ids) (⟨id, request, answer⟩ :: fires) := by
  intro request answer rest
  have fired : console.fire transport id =
      (((console.send transport request).1.wait (transport.issue console.wire request).2.duration
        ).resolve request answer, .ok answer) := by
    rw [fire, compose_of_known known]
    rfl
  rw [fired] at rest
  exact {
    catalog := rest.catalog
    watched := rest.watched
    ids := congrArg (id :: ·) rest.ids
    composed := by
      intro earlier fire later parts
      cases earlier with
      | nil =>
          cases parts
          exact ⟨endpoint, known, rfl⟩
      | cons first earlier =>
          cases parts
          exact rest.composed earlier fire later rfl
    answered := by
      have others := rest.answered
      simp only [List.map_cons, Transport.issueAll]
      change transport.issueAll (transport.issue console.wire request).1 _ = _ at others
      rw [others]
    events := by
      rw [rest.events, List.flatMap_cons, ← List.append_assoc]
      simp [resolve, wait, send]
    session := rest.session }

/-- What has been sent is what the fires have sent. -/
theorem sent_eq {before after : Console σ} {ids : List String} {fires : List Fire}
    (fired : FiredInTurn transport before after ids fires) :
    after.sent = before.sent ++ fires.map Fire.request := by
  have sends : (fires.flatMap fun fire =>
      [Event.sent fire.request, .resolved fire.request fire.answer]).filterMap Event.sent? =
        fires.map Fire.request := by
    rw [List.filterMap_flatMap, List.map_eq_flatMap]
    rfl
  rw [sent, fired.events, List.filterMap_append, sends]
  rfl

/-- Each request is that of the endpoint of its fire. -/
theorem composed_of_mem {before after : Console σ} {ids : List String} {fires : List Fire}
    (fired : FiredInTurn transport before after ids fires) (fire : Fire) (member : fire ∈ fires) :
    ∃ endpoint session, before.catalog.get fire.id = .ok endpoint ∧
      fire.request = Request.compose endpoint session := by
  obtain ⟨earlier, later, parts⟩ := List.append_of_mem member
  obtain ⟨endpoint, known, composed⟩ := fired.composed earlier fire later parts
  exact ⟨endpoint, _, known, composed⟩

end Console.FiredInTurn

namespace Batch

def Shows (clock : Option (Nat → TimeOfDay)) (fire : Fire) (record : Record) : Prop :=
  ∃ now, record = .outcome (clock.map fun clock => clock now) fire.id fire.answer

/-- Ids that are all known are fired one after another, and each outcome is shown. -/
theorem fireAll_known (clock : Option (Nat → TimeOfDay)) (transport : Transport σ)
    (console : Console σ) (ids : List String)
    (known : ∀ id ∈ ids, (console.catalog.get id).isOk) :
    ∃ after fires records,
      Console.FiredInTurn transport console after ids fires ∧
      List.Forall₂ (Shows clock) fires records ∧
      ∀ {ω : Type} (sink : Sink ω) (out : ω) (rest : List String),
        fireAll ⟨sink, clock⟩ transport ⟨console, out⟩ (ids ++ rest) =
          fireAll ⟨sink, clock⟩ transport ⟨after, sink.emit out records⟩ rest := by
  induction ids generalizing console with
  | nil => exact ⟨console, [], [], .refl transport console, .nil, fun _ _ _ => rfl⟩
  | cons id rest ih =>
      obtain ⟨endpoint, found⟩ := Catalog.exists_of_known (known id (List.mem_cons_self ..))
      let request := Request.compose endpoint console.session
      let answer := (transport.issue console.wire request).2.outcome
      let next := (console.fire transport id).1
      have same : next.catalog = console.catalog := by
        simp only [next, Console.fire, Console.compose_of_known found]
        rfl
      have result : console.fire transport id = (next, .ok answer) := by
        simp only [next, Console.fire, Console.compose_of_known found]
        rfl
      obtain ⟨after, fires, records, fired, shown, written⟩ := ih next fun other member =>
        same ▸ known other (List.mem_cons_of_mem _ member)
      let record := Record.outcome (clock.map fun clock => clock next.now) id answer
      refine ⟨after, ⟨id, request, answer⟩ :: fires, record :: records, .cons found fired,
        .cons ⟨next.now, rfl⟩ shown, ?_⟩
      intro ω sink out more
      rw [List.cons_append, fireAll, result]
      exact written sink _ more

/-- At an unknown id the fires stop. -/
theorem fireAll_unknown (reporter : Reporter ω) (transport : Transport σ) (state : State σ ω)
    {id : String} (unknown : (state.console.catalog.get id).isOk = false) (rest : List String) :
    fireAll reporter transport state (id :: rest) =
      (state, .error (.firing id (.unknownEndpoint id))) := by
  rw [fireAll, Console.fire, Console.compose_of_unknown (Catalog.get_of_unknown unknown)]

end Batch

end ApiConsole
