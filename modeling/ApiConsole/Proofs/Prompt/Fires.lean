import ApiConsole.Catalog
import ApiConsole.Proofs.Prompt.Records
import ApiConsole.Proofs.Run.Traffic
import ApiConsole.Transport

/-!
# The fires of a prompt

Whatever a prompt reads and however long the replies take, its work is a run in which the fires of
its lines start in order.  What it writes is accounted for: one record for the outcome of each fire
that has resolved, one message for each fire of an unknown endpoint, and what its lines say at once.
-/

namespace ApiConsole

variable {σ ω : Type}

def Record.outcome? : Record → Option (String × Outcome)
  | .outcome _ id ending => some (id, ending)
  | _ => none

/-- Whether a record shows something other than an outcome. -/
def Record.isRemark (record : Record) : Bool :=
  record.outcome?.isNone

/-- The records of refused fires of those of the ids that no endpoint has. -/
def Catalog.refusals (catalog : Catalog) (ids : List String) : List Record :=
  (ids.filter fun id => !(catalog.get id).isOk).map fun id =>
    .message (Error.unknownEndpoint id).message

theorem Catalog.refusals_append (catalog : Catalog) (first second : List String) :
    catalog.refusals (first ++ second) = catalog.refusals first ++ catalog.refusals second := by
  rw [refusals, List.filter_append, List.map_append]
  rfl

namespace Reporter

variable (reporter : Reporter ω)

theorem outcomes_recordsOf (landings : List (Landing Ticket)) :
    (reporter.recordsOf landings).filterMap Record.outcome? =
      landings.filterMap (Landing.answered? Ticket.id) := by
  rw [recordsOf, List.filterMap_map]
  congr 1
  funext landing
  obtain ⟨tag, time, result⟩ := landing
  cases result <;> rfl

theorem remarks_recordsOf (landings : List (Landing Ticket)) :
    (reporter.recordsOf landings).filter Record.isRemark =
      (landings.filterMap Landing.refused?).map fun error => .message error.message := by
  induction landings with
  | nil => rfl
  | cons landing rest ih =>
      obtain ⟨tag, time, result⟩ := landing
      cases result with
      | error error =>
          simp only [recordsOf, List.map_cons, List.filterMap_cons] at ih ⊢
          exact congrArg (Record.message error.message :: ·) ih
      | ok outcome => exact ih

end Reporter

namespace Prompt

/-- What a line makes a prompt write at once are remarks. -/
theorem isRemark_of_mem_toldBy {catalog : Catalog} {session : Session} {line : String}
    {record : Record} (member : record ∈ toldBy catalog session line) : record.isRemark := by
  unfold toldBy at member
  split at member
  · rw [List.mem_singleton.mp member]
    rfl
  · rw [List.mem_singleton.mp member]
    rfl
  · obtain ⟨endpoint, _, rfl⟩ := List.mem_map.mp member
    rfl
  · obtain ⟨entry, _, rfl⟩ := List.mem_map.mp member
    rfl
  · rw [List.mem_singleton.mp member]
    unfold compositionRecord
    split <;> rfl
  · cases member

/--
A run has brought a prompt to where it stands behind some lines, with the fires of the last of them
still waiting to be started.
-/
structure Progress (transport : Transport σ) (reporter : Reporter ω) (origin : Console σ) (out : ω)
    (lines : List String) (prompt : Prompt σ ω) (steps : List Step) (run : Run σ)
    (records : List Record) (told : List (List Record)) : Prop where
  execution : Run.Execution transport steps (Run.begin origin) run
  carries : run.Carries Ticket.id prompt.traffic
  starts : steps.filterMap Step.started? ++ prompt.waiting = firedIds lines
  settings : steps.filterMap Step.setting? = settings lines
  out : prompt.out = reporter.sink.emit out records
  outcomes : records.filterMap Record.outcome? = run.endings
  remarks : (records.filter Record.isRemark).Perm
    (told.flatten ++ origin.catalog.refusals (steps.filterMap Step.started?))
  told : List.Forall₂ (fun line records => ∃ session,
    records = toldBy origin.catalog session line) lines told

variable {transport : Transport σ} {reporter : Reporter ω} {origin : Console σ} {out : ω}
  {lines : List String} {prompt : Prompt σ ω} {steps : List Step} {run : Run σ}
  {records : List Record} {told : List (List Record)}

theorem Progress.refl (transport : Transport σ) (reporter : Reporter ω) (origin : Console σ)
    (out : ω) :
    Progress transport reporter origin out [] (start origin out) [] (Run.begin origin) [] [] where
  execution := .refl _
  carries := ⟨⟨origin.now, rfl⟩, .nil, fun pair member => by cases member⟩
  starts := rfl
  settings := rfl
  out := rfl
  outcomes := rfl
  remarks := .nil
  told := .nil

/-- A prompt keeps its books while fires start and land. -/
theorem Progress.advance
    (progress : Progress transport reporter origin out lines prompt steps run records told)
    {next : Run σ} {more : List Step} {ids left : List String} {traffic : Traffic σ Ticket}
    {landings : List (Landing Ticket)} (waiting : prompt.waiting = ids ++ left) (started : Nat)
    (advance : Run.Advance transport Ticket.id run next more ids traffic landings) :
    Progress transport reporter origin out lines
      (({ prompt with traffic, waiting := left, started } : Prompt σ ω).write reporter
        (reporter.recordsOf landings))
      (steps ++ more) next (records ++ reporter.recordsOf landings) told where
  execution := progress.execution.trans advance.execution
  carries := advance.carries
  starts := by
    rw [List.filterMap_append, advance.starts, List.append_assoc]
    change _ ++ (ids ++ left) = _
    rw [← waiting]
    exact progress.starts
  settings := by
    rw [List.filterMap_append, advance.settings, List.append_nil]
    exact progress.settings
  out := by
    rw [Sink.emit_append, ← progress.out]
    rfl
  outcomes := by
    rw [List.filterMap_append, progress.outcomes, advance.endings, reporter.outcomes_recordsOf]
  remarks := by
    have refused : (reporter.recordsOf landings).filter Record.isRemark =
        origin.catalog.refusals ids := by
      rw [reporter.remarks_recordsOf, advance.refusals, progress.execution.catalog, List.map_map]
      rfl
    rw [List.filter_append, refused, List.filterMap_append, advance.starts,
      Catalog.refusals_append, ← List.append_assoc]
    exact progress.remarks.append_right _
  told := progress.told

/-- A prompt keeps its books when it carries out a line. -/
theorem Progress.obeyLine
    (progress : Progress transport reporter origin out lines prompt steps run records told)
    (line : String) :
    Progress transport reporter origin out (lines ++ [line]) (prompt.obeyLine reporter line)
      (steps ++ (settingOf? line).toList.map fun setting => .set setting.1 setting.2)
      { run with console := run.console.setAll (settingOf? line).toList }
      (records ++ toldBy origin.catalog prompt.console.session line)
      (told ++ [toldBy origin.catalog prompt.console.session line]) := by
  have catalog : prompt.console.catalog = origin.catalog := by
    obtain ⟨now, same⟩ := progress.carries.console
    rw [console, same]
    exact progress.execution.catalog
  have unstarted : ((settingOf? line).toList.map fun setting =>
      Step.set setting.1 setting.2).filterMap Step.started? = [] := by
    cases settingOf? line <;> rfl
  have set : ((settingOf? line).toList.map fun setting =>
      Step.set setting.1 setting.2).filterMap Step.setting? = (settingOf? line).toList := by
    cases settingOf? line <;> rfl
  have remarks : ∀ record ∈ toldBy origin.catalog prompt.console.session line,
      record.isRemark := fun record member => isRemark_of_mem_toldBy member
  rw [obeyLine_eq, catalog]
  exact {
    execution := progress.execution.trans (Run.execution_setAll transport run _)
    carries := progress.carries.setAll _
    starts := by
      rw [List.filterMap_append, unstarted, List.append_nil, firedIds, List.flatMap_append,
        ← List.append_assoc, progress.starts]
      simp [firedIds]
    settings := by
      rw [List.filterMap_append, set, progress.settings, Prompt.settings, Prompt.settings,
        List.filterMap_append]
      cases given : settingOf? line <;> simp [given]
    out := by
      rw [Sink.emit_append, ← progress.out]
    outcomes := by
      have none : (toldBy origin.catalog prompt.console.session line).filterMap
          Record.outcome? = [] :=
        List.filterMap_eq_nil_iff.mpr fun record member =>
          Option.isNone_iff_eq_none.mp (remarks record member)
      rw [List.filterMap_append, none, List.append_nil, progress.outcomes, Run.endings, Run.endings]
    remarks := by
      have all := List.filter_eq_self.mpr remarks
      rw [List.filter_append, all, List.filterMap_append, unstarted, List.append_nil,
        List.flatten_append]
      have joined := progress.remarks.append_right
        (toldBy origin.catalog prompt.console.session line)
      refine joined.trans ?_
      simp only [List.flatten_cons, List.flatten_nil, List.append_nil, List.append_assoc]
      exact List.perm_append_comm.append_left _
    told := by
      refine List.rel_append progress.told ?_
      exact .cons ⟨prompt.console.session, rfl⟩ .nil }

def Reached (transport : Transport σ) (reporter : Reporter ω) (origin : Console σ) (out : ω)
    (lines : List String) (prompt : Prompt σ ω) : Prop :=
  ∃ steps run records told,
    Progress transport reporter origin out lines prompt steps run records told

namespace Reached

theorem pass (reached : Reached transport reporter origin out lines prompt) (delay : Nat) :
    Reached transport reporter origin out lines (prompt.pass reporter delay) := by
  obtain ⟨steps, run, records, told, progress⟩ := reached
  obtain ⟨more, next, advance⟩ := progress.carries.pass transport delay
  exact ⟨_, next, _, told, progress.advance (List.nil_append _).symm _ advance⟩

theorem obeyLines (reached : Reached transport reporter origin out lines prompt)
    (more : List String) :
    Reached transport reporter origin out (lines ++ more)
      (more.foldl (Prompt.obeyLine reporter) prompt) := by
  induction more generalizing lines prompt with
  | nil => exact (List.append_nil lines).symm ▸ reached
  | cons line rest ih =>
      obtain ⟨steps, run, records, told, progress⟩ := reached
      rw [List.append_cons, List.foldl_cons]
      exact ih ⟨_, _, _, _, progress.obeyLine line⟩

theorem startWaiting (reached : Reached transport reporter origin out lines prompt) :
    Reached transport reporter origin out lines (prompt.startWaiting reporter transport) := by
  obtain ⟨steps, run, records, told, progress⟩ := reached
  obtain ⟨more, next, advance⟩ := progress.carries.launchAll transport prompt.tickets
  have ids : prompt.tickets.map Ticket.id = prompt.waiting := by
    rw [tickets, List.map_map]
    exact List.zipIdx_map_fst ..
  rw [ids] at advance
  exact ⟨_, next, _, told, progress.advance (List.append_nil _).symm _ advance⟩

/-- A prompt attends to arrivals up to where it ends. -/
theorem attendArrivals (reached : Reached transport reporter origin out lines prompt)
    (arrivals : List Arrival) :
    Reached transport reporter origin out (lines ++ linesRead (arrivals.flatMap Arrival.lines))
      (prompt.attendArrivals reporter transport arrivals) := by
  induction arrivals generalizing lines prompt with
  | nil => exact (List.append_nil lines).symm ▸ reached
  | cons arrival rest ih =>
      have attended :=
        ((reached.pass arrival.delay).obeyLines (linesRead arrival.lines)).startWaiting
      rw [Prompt.attendArrivals, List.flatMap_cons, linesRead_append]
      cases arrival.lines.any endsAt with
      | true => exact attended
      | false =>
          have further := ih attended
          rw [List.append_assoc] at further
          exact further

theorem drain (reached : Reached transport reporter origin out lines prompt) :
    Reached transport reporter origin out lines (prompt.drain reporter) := by
  obtain ⟨steps, run, records, told, progress⟩ := reached
  obtain ⟨more, next, advance⟩ := progress.carries.drain transport
  exact ⟨_, next, _, told, progress.advance (List.nil_append _).symm _ advance⟩

end Reached

/-- Between arrivals no fire waits to be started. -/
theorem waiting_attendArrivals (reporter : Reporter ω) (transport : Transport σ)
    (prompt : Prompt σ ω) (idle : prompt.waiting = []) (arrivals : List Arrival) :
    (prompt.attendArrivals reporter transport arrivals).waiting = [] := by
  induction arrivals generalizing prompt with
  | nil => exact idle
  | cons arrival rest ih =>
      rw [attendArrivals]
      cases arrival.lines.any endsAt with
      | true => rfl
      | false => exact ih _ rfl

/--
The fires of some lines have each taken place once, between a console as it was and as it is now.
The books name the steps that were taken, the fires that sent a request, in the order in which they
did, the same fires in the order in which they resolved, and what each line made the prompt write.
-/
structure FiredOnce (transport : Transport σ) (origin after : Console σ) (lines : List String)
    (records : List Record) (steps : List Step) (launched landed : List Fire)
    (told : List (List Record)) : Prop where
  starts : steps.filterMap Step.started? = firedIds lines
  settings : steps.filterMap Step.setting? = settings lines
  /-- A request is sent for each id of the catalog, and for nothing else. -/
  ids : launched.map Fire.id = (firedIds lines).filter fun id => (origin.catalog.get id).isOk
  composed : ∀ fire ∈ launched, ∃ endpoint session,
    origin.catalog.get fire.id = .ok endpoint ∧ fire.request = Request.compose endpoint session
  sent : after.sent = origin.sent ++ launched.map Fire.request
  answered : transport.issueAll origin.wire (launched.map Fire.request) =
    (after.wire, launched.map Fire.answer)
  /-- Each of these requests resolves once, with its own answer. -/
  once : landed.Perm launched
  resolved : after.resolved =
    origin.resolved ++ landed.map fun fire => (fire.request, fire.answer)
  /-- The session has taken in the extractions of each answer. -/
  extracted : steps.filterMap Step.outcome? = landed.map Fire.answer
  session : after.session = steps.foldl (Step.change origin.watched) origin.session
  /-- One record is written for each answer, and one message for each unknown id. -/
  outcomes : records.filterMap Record.outcome? = landed.map fun fire => (fire.id, fire.answer)
  remarks : (records.filter Record.isRemark).Perm
    (told.flatten ++ origin.catalog.refusals (firedIds lines))
  told : List.Forall₂ (fun line records => ∃ session,
    records = toldBy origin.catalog session line) lines told

/-- Once no fire waits or is under way, each has taken place once. -/
theorem Progress.firedOnce
    (progress : Progress transport reporter origin out lines prompt steps run records told)
    (idle : prompt.waiting = []) (grounded : prompt.traffic.aloft = []) :
    FiredOnce transport origin prompt.console lines records steps run.launched
      (run.landed.map Prod.fst) told := by
  obtain ⟨now, same⟩ := progress.carries.console
  change prompt.console = run.console.atTime now at same
  have account : Run.Account transport origin steps run :=
    (Run.Account.refl transport origin).execution progress.execution
  have honest : ∀ pair ∈ run.landed, pair.2 = pair.1.answer := progress.carries.honest
  have starts : steps.filterMap Step.started? = firedIds lines := by
    have all := progress.starts
    rw [idle, List.append_nil] at all
    exact all
  rw [same]
  exact {
    starts := starts
    settings := progress.settings
    ids := starts ▸ account.ids
    composed := account.composed
    sent := account.sent
    answered := account.issued
    once := by
      have none : run.aloft = [] := by
        have aloft := progress.carries.aloft
        rw [grounded] at aloft
        exact aloft.eq_nil
      have balance := account.balance
      rw [none, List.append_nil] at balance
      exact balance
    resolved := by
      change run.console.resolved = _
      rw [account.resolved, List.map_map]
      exact congrArg (origin.resolved ++ ·) (List.map_congr_left fun pair member =>
        congrArg (Prod.mk pair.1.request) (honest pair member))
    extracted := by
      rw [account.outcomes, List.map_map]
      exact List.map_congr_left honest
    session := account.session
    outcomes := by
      rw [progress.outcomes, Run.endings, List.map_map]
      exact List.map_congr_left fun pair member =>
        congrArg (Prod.mk pair.1.id) (honest pair member)
    remarks := starts ▸ progress.remarks
    told := progress.told }

end Prompt

/--
When a prompt is over, every fire of the lines it has read has taken place exactly once, whatever
the chunks and delays of the input and the delays of the replies.  The records of that are written
one after another, each once, wherever they are written to; the output as a text consists of their
texts.
-/
theorem runPrompt_fires_each_once (clock : Option (Nat → TimeOfDay)) (transport : Transport σ)
    (console : Console σ) (chunks : List Chunk) :
    ∃ after records steps launched landed told,
      (∀ (ω : Type) (sink : Sink ω) (out : ω),
        runPrompt ⟨sink, clock⟩ transport console out chunks =
          (after, records.foldl (fun out record => (sink.write out record).1) out)) ∧
      runPrompt ⟨.text, clock⟩ transport console "" chunks =
        (after, String.join (records.map Record.text)) ∧
      Prompt.FiredOnce transport console after
        (Prompt.linesRead (Input.lines (chunks.flatMap Chunk.bytes))) records steps launched landed
        told := by
  let reporter : Reporter (List Record) := ⟨.gather, clock⟩
  have begun : Prompt.Reached transport reporter console [] [] (Prompt.start console []) :=
    ⟨_, _, _, _, Prompt.Progress.refl transport reporter console []⟩
  have attended := begun.attendArrivals (Input.arrivals chunks)
  rw [List.nil_append, Input.flatMap_lines_arrivals] at attended
  obtain ⟨steps, run, records, told, progress⟩ := attended.drain
  have idle := Prompt.waiting_attendArrivals reporter transport (Prompt.start console []) rfl
    (Input.arrivals chunks)
  have once := progress.firedOnce idle rfl
  have gathered : (runPrompt reporter transport console [] chunks).2 = records := by
    rw [Prompt.runPrompt_eq_drain]
    exact progress.out.trans (Sink.emit_gather [] records)
  have left : (runPrompt reporter transport console [] chunks).1 =
      (((Prompt.start console []).attendArrivals reporter transport
        (Input.arrivals chunks)).drain reporter).console := by
    rw [Prompt.runPrompt_eq_drain]
  rw [← left] at once
  have emitted (ω : Type) (sink : Sink ω) (out : ω) :
      runPrompt ⟨sink, clock⟩ transport console out chunks =
        ((runPrompt reporter transport console [] chunks).1, sink.emit out records) := by
    rw [runPrompt_eq_emit, ← gathered]
  refine ⟨_, records, steps, _, _, told, emitted, ?_, once⟩
  rw [emitted, Sink.emit_text, String.empty_append]

/-- A script whose replies take their time, the one to a message less than that to a connection. -/
def Script.slow : Script :=
  [⟨"/connection", none, [⟨.ofResponse 201 .null, some 9⟩]⟩,
    ⟨"/connection/c/status/m", none, [⟨.ofResponse 200 .null, some 4⟩]⟩]

/--
Three fires of known ids and one of an id that no endpoint has.  The lines that ask for them are cut
in two, one reply overtakes another, and the input ends with a line that is no text.
-/
theorem runPrompt_fires_each_once_slow :
    let console := Console.start Catalog.builtin Watch.default (.ofList [("conn_uuid", "c")])
      Script.slow
    let chunks : List Chunk :=
      [⟨0, "set msg_id m\nfire add-conn nope\nfi".toUTF8.toList⟩,
        ⟨12, "re add-conn read-msg\nses".toUTF8.toList⟩,
        ⟨5, 0xff :: 10 :: "fire list-conns\n".toUTF8.toList⟩]
    let left := runPrompt ⟨.text, none⟩ Transport.scripted console "" chunks
    left.2 =
        "unknown endpoint: nope\n" ++
          "add-conn\nSTATUS: 201\nnull\n" ++
          "read-msg\nSTATUS: 200\nnull\n" ++
          "add-conn\nSTATUS: 201\nnull\n" ∧
      ∃ launched landed : List Fire, launched.map Fire.id = ["add-conn", "add-conn", "read-msg"] ∧
        landed.Perm launched ∧
        left.1.sent = launched.map Fire.request ∧
        left.1.resolved = landed.map fun fire => (fire.request, fire.answer) := by
  intro console chunks left
  obtain ⟨after, records, steps, launched, landed, told, _, written, once⟩ :=
    runPrompt_fires_each_once none Transport.scripted console chunks
  have ids : launched.map Fire.id = ["add-conn", "add-conn", "read-msg"] :=
    once.ids.trans (by decide +kernel)
  have after : left.1 = after := congrArg Prod.fst written
  refine ⟨by decide +kernel, launched, landed, ids, once.once, ?_, ?_⟩
  · exact (congrArg Console.sent after).trans once.sent
  · exact (congrArg Console.resolved after).trans once.resolved

end ApiConsole
