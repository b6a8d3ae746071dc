import ApiConsole.Catalog
import ApiConsole.Proofs.Run
import ApiConsole.Transport

/-!
# The last write stays

Whatever the order of edits, starts and resolutions, a session value is what the last step that
wrote it wrote, and a request is what its endpoint made of the session when its fire started.
-/

namespace ApiConsole.Run

variable {σ : Type}

/-- Requests that have been sent stay as they are, and where they are. -/
theorem Execution.launched_grows {transport : Transport σ} {steps : List Step}
    {first last : Run σ} (execution : Execution transport steps first last) :
    ∃ more, last.launched = first.launched ++ more := by
  induction execution with
  | refl run => exact ⟨[], (List.append_nil _).symm⟩
  | @next step steps first middle last transition rest ih =>
      obtain ⟨more, later⟩ := ih
      rcases step?_cases transition with ⟨name, value, _, rfl⟩ | ⟨id, error, _, _, rfl⟩ |
        ⟨id, endpoint, _, _, rfl⟩ | ⟨place, fire, outcome, _, _, rfl⟩
      · exact ⟨more, later⟩
      · exact ⟨more, later⟩
      · exact ⟨_ :: more, by rw [later, launch, List.append_assoc]; rfl⟩
      · exact ⟨more, later⟩

/-- There are as many requests as there are starts of known endpoints. -/
theorem Account.length_launched {transport : Transport σ} {origin : Console σ}
    {steps : List Step} {run : Run σ} (account : Account transport origin steps run) :
    run.launched.length = steps.countP (Step.launches origin.catalog) := by
  have ids := congrArg List.length account.ids
  rw [List.length_map, ← List.countP_eq_length_filter, List.countP_filterMap] at ids
  rw [ids]
  apply List.countP_congr
  intro step _
  cases step <;> simp [Step.started?, Step.launches]

/--
After every part of a run that starts it, each name holds what the last step that wrote it wrote, or
what it held at first.  The requests that have gone out are those of the starts, each composed of
the session as it was at that start, and they are the same at the end of the run; the transport has
been handed exactly these, and each has resolved once or is still under way.
-/
theorem Execution.last_write_and_requests (transport : Transport σ) (catalog : Catalog)
    (watched : List WatchedField) (session : Session) (wire : σ) (steps : List Step)
    (final : Run σ)
    (execution : Execution transport steps (begin (.start catalog watched session wire)) final)
    (before after : List Step) (parts : before ++ after = steps) :
    ∃ reached,
      Execution transport before (begin (.start catalog watched session wire)) reached ∧
      Execution transport after reached final ∧
      (∀ name, reached.console.session.get? name =
        (Step.lastWrite? watched name before).or (session.get? name)) ∧
      reached.console.sent.length = before.countP (Step.launches catalog) ∧
      (transport.issueAll wire reached.console.sent).1 = reached.console.wire ∧
      (reached.console.resolved.map Prod.fst ++ reached.aloft.map Fire.request).Perm
        reached.console.sent ∧
      ∀ id rest endpoint, after = .start id :: rest → catalog.get id = .ok endpoint →
        final.console.sent[reached.console.sent.length]? =
          some (Request.compose endpoint reached.console.session) := by
  subst parts
  obtain ⟨reached, earlier, later⟩ := execution.split
  have account := (Account.refl transport _).execution earlier
  have sent : reached.console.sent = reached.launched.map Fire.request := account.sent
  refine ⟨reached, earlier, later, ?_, ?_, ?_, ?_, ?_⟩
  · intro name
    rw [account.session]
    exact Step.get?_foldl_change watched session name before
  · rw [sent, List.length_map]
    exact account.length_launched
  · rw [sent]
    exact congrArg Prod.fst account.issued
  · rw [sent]
    have resolved : reached.console.resolved.map Prod.fst =
        (reached.landed.map Prod.fst).map Fire.request := by
      rw [account.resolved, List.map_append, List.map_map, List.map_map]
      rfl
    rw [resolved, ← List.map_append]
    exact account.balance.map Fire.request
  · rintro id rest endpoint rfl known
    cases later with
    | @next _ _ _ middle _ transition remaining =>
      have middleIs : middle =
          reached.launch transport id (Request.compose endpoint reached.console.session) := by
        rcases step?_cases transition with ⟨_, _, impossible, _⟩ | ⟨_, error, same, unknown, _⟩ |
          ⟨_, other, same, found, next⟩ | ⟨_, _, _, impossible, _⟩
        · cases impossible
        · cases same
          rw [account.catalog] at unknown
          cases unknown.symm.trans known
        · cases same
          rw [account.catalog] at found
          cases found.symm.trans known
          exact next
        · cases impossible
      obtain ⟨more, grown⟩ := remaining.launched_grows
      have whole := (Account.refl transport _).execution execution
      have finalSent : final.console.sent = final.launched.map Fire.request := whole.sent
      rw [finalSent, sent, grown, middleIs, List.length_map]
      simp [launch]

/--
Edits and resolutions that cross: an answer that comes late overwrites an edit, a failure in between
writes nothing, and of two watched fields of one name the last decides.
-/
def crossing : List Step :=
  [.start "add-conn", .start "read-conn", .set "conn_uuid" "typed", .start "nope",
    .resolve 1 (.failure 500 (.object [("uuid", .string "lost")])), .start "read-conn",
    .resolve 0 (.success 200 (.object [("uuid", .string "a"), ("id", .string "b")]))]

theorem Execution.last_write_and_requests_crossing :
    ∃ final,
      Execution Transport.scripted crossing
        (begin (.start Catalog.builtin [⟨"conn_uuid", "uuid"⟩, ⟨"conn_uuid", "id"⟩]
          Session.default [])) final ∧
      final.console.session.get? "conn_uuid" = some "b" ∧
      final.console.sent.length = 3 := by
  have possible : (take? Transport.scripted
      (begin (.start Catalog.builtin [⟨"conn_uuid", "uuid"⟩, ⟨"conn_uuid", "id"⟩]
        Session.default [])) crossing).isSome := by decide +kernel
  obtain ⟨final, taken⟩ := Option.isSome_iff_exists.mp possible
  have execution := execution_iff_take?.mpr taken
  obtain ⟨reached, _, rest, value, count, _⟩ :=
    Execution.last_write_and_requests _ _ _ _ _ _ _ execution crossing [] (List.append_nil _)
  cases rest
  refine ⟨final, execution, ?_, ?_⟩
  · rw [value]
    decide +kernel
  · rw [count]
    decide +kernel

end ApiConsole.Run
