import ApiConsole.Proofs.Composition
import ApiConsole.Proofs.Extraction
import ApiConsole.Proofs.Traffic

/-!
# How far a value reaches

Two consoles that differ under one name of the session start the same fires.  They send the same
requests up to the first endpoint that holds the name, and different ones there; but if an outcome
that comes in before puts something under the name, the difference is gone.
-/

namespace ApiConsole

variable {σ α : Type}

theorem Watch.valueOrEmpty_apply_extracted (watched : List WatchedField) (session : Session)
    (name : String) (outcome : Outcome) :
    (apply session (extracted watched outcome)).valueOrEmpty name =
      (written? watched name outcome).getD (session.valueOrEmpty name) := by
  rw [Session.valueOrEmpty, get?_apply_extracted]
  cases written? watched name outcome <;> rfl

def Catalog.Holds (catalog : Catalog) (id name : String) : Prop :=
  ∃ endpoint, catalog.get id = .ok endpoint ∧ name ∈ endpoint.placeholders

def Landing.Writes (watched : List WatchedField) (name : String) (landing : Landing α) : Prop :=
  ∃ outcome, landing.result = .ok outcome ∧ (Watch.written? watched name outcome).isSome

/--
Whether fires that start in order show the value that is there under a name: one of them sends it,
and none that ends before has put another in its place.
-/
def Traffic.Shows (transport : Transport σ) (name : String) :
    Traffic σ α → List (α × String) → Prop
  | _, [] => False
  | traffic, (tag, id) :: rest =>
      traffic.console.catalog.Holds id name ∨
        (¬∃ landing ∈ (traffic.launch transport tag id).2,
          landing.Writes traffic.console.watched name) ∧
        (traffic.launch transport tag id).1.Shows transport name rest

/-- A console stands beside another that has sent the same and differs under one name only. -/
structure Console.Beside (name : String) (first second : Console σ) : Prop where
  catalog : second.catalog = first.catalog
  watched : second.watched = first.watched
  wire : second.wire = first.wire
  sent : second.sent = first.sent
  session : first.session.AgreeBut name second.session

namespace Console

variable {name : String} {first second : Console σ}

def Alike (name : String) (first second : Console σ) : Prop :=
  second.session.valueOrEmpty name = first.session.valueOrEmpty name

/-- A console after an edit stands beside the same console before it. -/
theorem beside_set (console : Console σ) (name value : String) :
    console.Beside name (console.set name value) where
  catalog := rfl
  watched := rfl
  wire := rfl
  sent := rfl
  session := console.session.agreeBut_set name value

theorem alike_set_iff (console : Console σ) (name value : String) :
    Alike name console (console.set name value) ↔ console.session.valueOrEmpty name = value := by
  change (console.session.set name value).valueOrEmpty name = _ ↔ _
  rw [Session.valueOrEmpty_set, if_pos rfl]
  exact eq_comm

theorem Beside.send (beside : Beside name first second) (transport : Transport σ)
    (request : Request) :
    Beside name (first.send transport request).1 (second.send transport request).1 where
  catalog := beside.catalog
  watched := beside.watched
  wire := congrArg (fun wire => (transport.issue wire request).1) beside.wire
  sent := by rw [sent_send, sent_send, beside.sent]
  session := beside.session

theorem Beside.resolve (beside : Beside name first second) (request : Request)
    (outcome : Outcome) :
    Beside name (first.resolve request outcome) (second.resolve request outcome) where
  catalog := beside.catalog
  watched := beside.watched
  wire := beside.wire
  sent := by rw [sent_resolve, sent_resolve, beside.sent]
  session := by
    intro other differs
    change (Watch.apply second.session (Watch.extracted second.watched outcome)).valueOrEmpty other =
      (Watch.apply first.session (Watch.extracted first.watched outcome)).valueOrEmpty other
    rw [Watch.valueOrEmpty_apply_extracted, Watch.valueOrEmpty_apply_extracted, beside.watched,
      beside.session other differs]

/-- An outcome makes the values equal if it puts something there, and leaves them if not. -/
theorem Beside.alike_resolve_iff (beside : Beside name first second) (request : Request)
    (outcome : Outcome) :
    Alike name (first.resolve request outcome) (second.resolve request outcome) ↔
      Alike name first second ∨ (Watch.written? first.watched name outcome).isSome := by
  change (Watch.apply second.session (Watch.extracted second.watched outcome)).valueOrEmpty name =
    (Watch.apply first.session (Watch.extracted first.watched outcome)).valueOrEmpty name ↔ _
  rw [Watch.valueOrEmpty_apply_extracted, Watch.valueOrEmpty_apply_extracted, beside.watched]
  cases Watch.written? first.watched name outcome with
  | none => simp [Alike]
  | some value => simp

end Console

namespace Traffic

variable (transport : Transport σ) {name : String} {first second : Traffic σ α}

/-- A launch sends the request of the endpoint if there is one, and nothing else. -/
theorem sent_launch (traffic : Traffic σ α) (tag : α) {id : String} {endpoint : Endpoint}
    (known : traffic.console.catalog.get id = .ok endpoint) :
    (traffic.launch transport tag id).1.console.sent =
      traffic.console.sent ++ [Request.compose endpoint traffic.console.session] := by
  generalize composed : Request.compose endpoint traffic.console.session = request
  cases due : (transport.issue traffic.console.wire request).2.delay with
  | none =>
      rw [launch_at_once transport traffic tag known composed due, Console.sent_resolve,
        Console.sent_send]
  | some delay =>
      rw [launch_later transport traffic tag known composed due, Console.sent_send]

/-- What has been sent stays sent. -/
theorem sent_launchAll (traffic : Traffic σ α) (fires : List (α × String)) :
    ∃ more, (traffic.launchAll transport fires).1.console.sent = traffic.console.sent ++ more := by
  induction fires generalizing traffic with
  | nil => exact ⟨[], (List.append_nil _).symm⟩
  | cons fire rest ih =>
      obtain ⟨tag, id⟩ := fire
      obtain ⟨more, later⟩ := ih (traffic.launch transport tag id).1
      change ∃ more, ((traffic.launch transport tag id).1.launchAll transport rest).1.console.sent =
        traffic.console.sent ++ more
      cases known : traffic.console.catalog.get id with
      | error error =>
          rw [launch_unknown transport traffic tag known] at later ⊢
          exact ⟨more, later⟩
      | ok endpoint =>
          rw [sent_launch transport traffic tag known, List.append_assoc] at later
          exact ⟨_, later⟩

/-- Two consoles that make the same request of an endpoint stay beside one another. -/
theorem beside_launch (beside : first.console.Beside name second.console) (tag : α) {id : String}
    {endpoint : Endpoint} (known : first.console.catalog.get id = .ok endpoint)
    (same : Request.compose endpoint second.console.session =
      Request.compose endpoint first.console.session) :
    (first.launch transport tag id).1.console.Beside name
        (second.launch transport tag id).1.console ∧
      (Console.Alike name (first.launch transport tag id).1.console
          (second.launch transport tag id).1.console ↔
        Console.Alike name first.console second.console ∨
          ∃ landing ∈ (first.launch transport tag id).2,
            landing.Writes first.console.watched name) := by
  have knownBeside : second.console.catalog.get id = .ok endpoint := beside.catalog ▸ known
  generalize composed : Request.compose endpoint first.console.session = request at same
  cases due : (transport.issue first.console.wire request).2.delay with
  | none =>
      have dueBeside : (transport.issue second.console.wire request).2.delay = none :=
        beside.wire ▸ due
      rw [launch_at_once transport first tag known composed due,
        launch_at_once transport second tag knownBeside same dueBeside, beside.wire]
      refine ⟨(beside.send transport request).resolve request _, ?_⟩
      refine ((beside.send transport request).alike_resolve_iff request _).trans ?_
      refine or_congr Iff.rfl ?_
      simp [Landing.Writes, Console.send]
  | some delay =>
      have dueBeside : (transport.issue second.console.wire request).2.delay = some delay :=
        beside.wire ▸ due
      rw [launch_later transport first tag known composed due,
        launch_later transport second tag knownBeside same dueBeside]
      refine ⟨beside.send transport request, ?_⟩
      simp [Console.Alike, Console.send]

/--
Of two consoles that differ under one name at most, both send the same in starting the same fires
exactly if they do not differ or the fires do not show the value.
-/
theorem sent_launchAll_eq_iff (beside : first.console.Beside name second.console)
    (fires : List (α × String)) :
    (second.launchAll transport fires).1.console.sent =
        (first.launchAll transport fires).1.console.sent ↔
      Console.Alike name first.console second.console ∨ ¬first.Shows transport name fires := by
  induction fires generalizing first second with
  | nil => exact iff_of_true beside.sent (.inr not_false)
  | cons fire rest ih =>
      obtain ⟨tag, id⟩ := fire
      change ((second.launch transport tag id).1.launchAll transport rest).1.console.sent =
        ((first.launch transport tag id).1.launchAll transport rest).1.console.sent ↔ _
      rw [Shows]
      cases known : first.console.catalog.get id with
      | error error =>
          have knownBeside : second.console.catalog.get id = .error error :=
            beside.catalog ▸ known
          have notHeld : ¬first.console.catalog.Holds id name := by
            rintro ⟨endpoint, found, _⟩
            cases known.symm.trans found
          rw [launch_unknown transport first tag known,
            launch_unknown transport second tag knownBeside, ih beside]
          simp [notHeld, Landing.Writes]
      | ok endpoint =>
          have knownBeside : second.console.catalog.get id = .ok endpoint :=
            beside.catalog ▸ known
          have held : first.console.catalog.Holds id name ↔ name ∈ endpoint.placeholders := by
            simp [Catalog.Holds, known]
          have shown := Request.compose_eq_iff endpoint beside.session
          by_cases same : Request.compose endpoint second.console.session =
              Request.compose endpoint first.console.session
          · -- The same request has the same reply, so that the consoles stay beside one another.
            obtain ⟨next, alike⟩ := beside_launch transport beside tag known same
            rw [ih next, alike]
            by_cases already : Console.Alike name first.console second.console
            · exact iff_of_true (.inl (.inl already)) (.inl already)
            · have notHeld : ¬first.console.catalog.Holds id name :=
                fun holds => already (shown.mp same (held.mp holds))
              simp only [already, notHeld, false_or, not_and_or, not_not]
          · -- What is sent stays sent, so that nothing later makes up for the difference.
            obtain ⟨holds, differ⟩ := Classical.not_imp.mp fun alike => same (shown.mpr alike)
            refine iff_of_false ?_ ?_
            · intro equal
              obtain ⟨more, here⟩ := sent_launchAll transport (first.launch transport tag id).1 rest
              obtain ⟨others, there⟩ :=
                sent_launchAll transport (second.launch transport tag id).1 rest
              rw [here, there, sent_launch transport first tag known,
                sent_launch transport second tag knownBeside, beside.sent, List.append_assoc,
                List.append_assoc] at equal
              exact same (List.cons.inj (List.append_cancel_left equal)).1
            · rintro (alike | unshown)
              · exact differ alike
              · exact unshown (.inl (held.mpr holds))

end Traffic

end ApiConsole
