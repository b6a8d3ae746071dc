import ApiConsole.Proofs.Answers
import ApiConsole.Proofs.Batch.InTurn

/-!
# What a batch reports

A batch that fires one after another reports every request that it sends, since it sends none behind
an unknown id.  A batch that fires all at once has sent all its requests before it reports the
first, and it stops reporting at the first unknown id; so it reports them all exactly if no known id
stands behind an unknown one.
-/

namespace ApiConsole.Batch

variable {σ : Type}

/-- Results are reported up to the first error. -/
theorem reportAll_answered (clock : Option (Nat → TimeOfDay)) (console : Console σ)
    {catalog : Catalog} {ids : List String} {fires : List Fire} {results : List FireResult}
    (answered : catalog.Answered ids fires results) :
    ∃ records,
      List.Forall₂ (Shows clock)
        (fires.take (ids.takeWhile fun id => (catalog.get id).isOk).length) records ∧
      ∀ (ω : Type) (sink : Sink ω) (out : ω),
        (reportAll ⟨sink, clock⟩ ⟨console, out⟩ (ids.zip results)).1 =
          ⟨console, sink.emit out records⟩ := by
  induction answered with
  | nil => exact ⟨[], .nil, fun _ _ _ => rfl⟩
  | refused unknown _ _ =>
      refine ⟨[], ?_, fun _ _ _ => rfl⟩
      rw [List.takeWhile_cons, unknown]
      exact .nil
  | @sent fire _ _ _ known _ _ ih =>
      obtain ⟨records, shown, written⟩ := ih
      let record := Record.outcome (clock.map fun clock => clock console.now) fire.id fire.answer
      refine ⟨record :: records, ?_, fun ω sink out => written ω sink (sink.emit out [record])⟩
      rw [List.takeWhile_cons, if_pos known]
      exact .cons ⟨console.now, rfl⟩ shown

/-- Of a list, what passes a test stands all in front exactly if nothing that passes it stands
behind something that does not. -/
theorem length_filter_le_takeWhile_iff {α : Type} (test : α → Bool) (items : List α) :
    (items.filter test).length ≤ (items.takeWhile test).length ↔
      items.Pairwise fun first later => test later → test first := by
  induction items with
  | nil => simp
  | cons item rest ih =>
      rw [List.filter_cons, List.takeWhile_cons, List.pairwise_cons, ← ih]
      cases passes : test item with
      | true => simp
      | false =>
          constructor
          · intro none
            have empty : rest.filter test = [] := by simpa using none
            refine ⟨fun later member => ?_, by rw [empty]; exact Nat.zero_le _⟩
            simpa using List.filter_eq_nil_iff.mp empty later member
          · rintro ⟨fails, _⟩
            have empty : rest.filter test = [] :=
              List.filter_eq_nil_iff.mpr fun later member passed =>
                Bool.false_ne_true (fails later member passed)
            simp [empty]

/-- What a batch of fires leaves, and what it reports of the fires that sent a request. -/
structure Reported (clock : Option (Nat → TimeOfDay)) (transport : Transport σ)
    (console after : Console σ) (ids : List String) (fires : List Fire) (records : List Record) :
    Prop where
  sent : after.sent = console.sent ++ fires.map Fire.request
  composed : ∀ fire ∈ fires, ∃ endpoint session, console.catalog.get fire.id = .ok endpoint ∧
    fire.request = Request.compose endpoint session
  answered : transport.issueAll console.wire (fires.map Fire.request) =
    (after.wire, fires.map Fire.answer)
  /-- The fires of the ids in front of the first unknown one are reported. -/
  shown : List.Forall₂ (Shows clock)
    (fires.take (ids.takeWhile fun id => (console.catalog.get id).isOk).length) records

variable {clock : Option (Nat → TimeOfDay)} {transport : Transport σ} {console after : Console σ}
  {ids : List String} {fires : List Fire} {records : List Record}

/-- All fires are reported exactly if there are no more than known ids in front. -/
theorem Reported.all_iff (reported : Reported clock transport console after ids fires records) :
    List.Forall₂ (Shows clock) fires records ↔
      (fires.map Fire.id).length ≤
        (ids.takeWhile fun id => (console.catalog.get id).isOk).length := by
  rw [List.length_map]
  constructor
  · intro all
    have lengths := reported.shown.length_eq.trans all.length_eq.symm
    rw [List.length_take] at lengths
    omega
  · intro few
    have shown := reported.shown
    rw [List.take_of_length_le few] at shown
    exact shown

/-- Fires one after another are those of the known ids in front. -/
theorem fireAll_reported (clock : Option (Nat → TimeOfDay)) (transport : Transport σ)
    (console : Console σ) (ids : List String) :
    ∃ after fires records,
      (∀ (ω : Type) (sink : Sink ω) (out : ω),
        (fireAll ⟨sink, clock⟩ transport ⟨console, out⟩ ids).1 =
          ⟨after, sink.emit out records⟩) ∧
      Reported clock transport console after ids fires records ∧
      fires.map Fire.id = ids.takeWhile fun id => (console.catalog.get id).isOk := by
  let test := fun id => (console.catalog.get id).isOk
  have parts : ids.takeWhile test ++ ids.dropWhile test = ids := List.takeWhile_append_dropWhile
  have known : ∀ id ∈ ids.takeWhile test, test id := fun id member =>
    List.mem_takeWhile_imp (p := test) member
  obtain ⟨after, fires, records, fired, shown, written⟩ :=
    fireAll_known clock transport console (ids.takeWhile test) known
  refine ⟨after, fires, records, ?_, ?_, fired.ids⟩
  · intro ω sink out
    have upTo := written sink out (ids.dropWhile test)
    rw [parts] at upTo
    rw [upTo]
    have stops := List.head?_dropWhile_not test ids
    cases behind : ids.dropWhile test with
    | nil => rfl
    | cons id rest =>
        rw [behind] at stops
        have unknown : (after.catalog.get id).isOk = false := fired.catalog ▸ stops
        exact congrArg Prod.fst
          (fireAll_unknown ⟨sink, clock⟩ transport ⟨after, sink.emit out records⟩ unknown rest)
  · have few : fires.length ≤ (ids.takeWhile test).length := by
      rw [← List.length_map (f := Fire.id), fired.ids]
    exact {
      sent := fired.sent_eq
      composed := fired.composed_of_mem
      answered := fired.answered
      shown := by
        rw [List.take_of_length_le few]
        exact shown }

/-- Fires at once are those of all known ids. -/
theorem fireConcurrently_reported (clock : Option (Nat → TimeOfDay)) (transport : Transport σ)
    (console : Console σ) (ids : List String) :
    ∃ after fires records,
      (∀ (ω : Type) (sink : Sink ω) (out : ω),
        (run ⟨sink, clock⟩ transport ⟨console, out⟩ (.fire ids true)).1 =
          ⟨after, sink.emit out records⟩) ∧
      Reported clock transport console after ids fires records ∧
      fires.map Fire.id = ids.filter fun id => (console.catalog.get id).isOk := by
  obtain ⟨fires, answered, _, sent, issued⟩ := console.fireConcurrently_answered transport ids
  obtain ⟨records, shown, written⟩ :=
    reportAll_answered clock (console.fireConcurrently transport ids).1 answered
  exact ⟨_, fires, records, written, ⟨sent, answered.composed, issued, shown⟩, answered.ids_eq⟩

/--
Fires at once send a request for each known id, fires one after another for those in front of the
first unknown one.  Whatever the delays and wherever a batch writes, each of these requests is
reported with its id and its outcome, in the order of the ids, exactly if the fires follow one
another or no known id stands behind an unknown one.  The fires of the ids in front of the first
unknown one are always reported.
-/
theorem run_fire_reports_all_iff (clock : Option (Nat → TimeOfDay)) (transport : Transport σ)
    (console : Console σ) (ids : List String) (concurrent : Bool) :
    ∃ after fires records,
      (∀ (ω : Type) (sink : Sink ω) (out : ω),
        (run ⟨sink, clock⟩ transport ⟨console, out⟩ (.fire ids concurrent)).1 =
          ⟨after, sink.emit out records⟩) ∧
      Reported clock transport console after ids fires records ∧
      (fires.map Fire.id =
        if concurrent then ids.filter fun id => (console.catalog.get id).isOk
        else ids.takeWhile fun id => (console.catalog.get id).isOk) ∧
      (List.Forall₂ (Shows clock) fires records ↔
        concurrent = false ∨
          ids.Pairwise fun first later =>
            (console.catalog.get later).isOk → (console.catalog.get first).isOk) := by
  cases concurrent with
  | false =>
      obtain ⟨after, fires, records, written, reported, all⟩ :=
        fireAll_reported clock transport console ids
      refine ⟨after, fires, records, written, reported, all, ?_⟩
      refine iff_of_true (reported.all_iff.mpr ?_) (.inl rfl)
      rw [all]
  | true =>
      obtain ⟨after, fires, records, written, reported, all⟩ :=
        fireConcurrently_reported clock transport console ids
      refine ⟨after, fires, records, written, reported, all, ?_⟩
      rw [reported.all_iff, all, length_filter_le_takeWhile_iff]
      simp

/-- Of two fires at once, the one behind an unknown id sends its request without a report. -/
theorem run_fire_unreported :
    let ran := run ⟨Sink.text, none⟩ Transport.scripted
      ⟨.start Catalog.builtin Watch.default Session.default [], ""⟩
      (.fire ["list-conns", "nope", "add-conn"] true)
    ran.1.console.sent.map Request.method = [.get, .post] ∧
      ran.1.out = "list-conns\nERROR: 404\nno route\n" := by
  cbv

end ApiConsole.Batch
