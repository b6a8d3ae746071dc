import ApiConsole.Catalog
import ApiConsole.Proofs.Traffic

/-!
# Fires at once

Fires that are started together are the same as fires one after another where the transport never
takes its time: each then ends before the next one starts, and what it extracts is there for the
next request.
-/

namespace ApiConsole

variable {σ α : Type}

def Transport.Immediate (transport : Transport σ) : Prop :=
  ∀ wire request, (transport.issue wire request).2.delay = none

/-- Fires endpoints one after another, whether or not one of them is unknown. -/
def Console.fireEach (transport : Transport σ) (console : Console σ) :
    List String → Console σ × List FireResult
  | [] => (console, [])
  | id :: rest =>
      let (next, result) := console.fire transport id
      let (last, results) := next.fireEach transport rest
      (last, result :: results)

namespace Traffic

variable {transport : Transport σ}

/-- A launch whose outcome is there at once is a fire that is waited for. -/
theorem launch_immediate (immediate : transport.Immediate) (traffic : Traffic σ α) (tag : α)
    (id : String) :
    traffic.launch transport tag id =
      ({ traffic with console := (traffic.console.fire transport id).1 },
        [⟨tag, traffic.console.now, (traffic.console.fire transport id).2⟩]) := by
  cases known : traffic.console.catalog.get id with
  | error error =>
      rw [launch_unknown transport traffic tag known, Console.fire,
        Console.compose_of_unknown known]
  | ok endpoint =>
      have there := immediate traffic.console.wire
        (Request.compose endpoint traffic.console.session)
      rw [launch_at_once transport traffic tag known rfl there, Console.fire,
        Console.compose_of_known known]
      simp only [Console.send, there]
      rfl

/-- Launches whose outcomes are there at once are fires one after another, and all have landed. -/
theorem launchAll_immediate (immediate : transport.Immediate) (traffic : Traffic σ α)
    (fires : List (α × String)) :
    (traffic.launchAll transport fires).1 =
        { traffic with
          console := (traffic.console.fireEach transport (fires.map Prod.snd)).1 } ∧
      (traffic.launchAll transport fires).2.map Landing.tag = fires.map Prod.fst ∧
      (traffic.launchAll transport fires).2.map Landing.result =
        (traffic.console.fireEach transport (fires.map Prod.snd)).2 := by
  induction fires generalizing traffic with
  | nil => exact ⟨rfl, rfl, rfl⟩
  | cons fire rest ih =>
      obtain ⟨tag, id⟩ := fire
      obtain ⟨same, tags, results⟩ :=
        ih { traffic with console := (traffic.console.fire transport id).1 }
      rw [launchAll, launch_immediate immediate]
      refine ⟨same, ?_, ?_⟩
      · exact congrArg (tag :: ·) tags
      · exact congrArg ((traffic.console.fire transport id).2 :: ·) results

end Traffic

/--
With a transport that answers at once, fires that are started together leave the console and bring
the results that they would if each were waited for before the next is started.
-/
theorem Console.fireConcurrently_eq_fireEach {transport : Transport σ}
    (immediate : transport.Immediate) (console : Console σ) (ids : List String) :
    console.fireConcurrently transport ids = console.fireEach transport ids := by
  let tagged := ids.zipIdx.map fun pair => (pair.2, pair.1)
  have inOrder : tagged.map Prod.snd = ids := by
    rw [List.map_map]
    exact List.zipIdx_map_fst 0 ids
  have places : tagged.map Prod.fst = List.range' 0 ids.length := by
    rw [List.map_map]
    exact List.zipIdx_map_snd 0 ids
  obtain ⟨launched, tags, results⟩ :=
    Traffic.launchAll_immediate immediate (.ofConsole console) tagged
  rw [inOrder] at launched results
  rw [places] at tags
  let outcome := (Traffic.ofConsole console).launchAll transport tagged
  have landed : outcome.1.drain = ((console.fireEach transport ids).1, []) := by
    rw [launched]
    exact Traffic.drain_ofConsole _
  have sorted : outcome.2.Pairwise fun one other => one.tag ≤ other.tag := by
    have pairwise : (outcome.2.map Landing.tag).Pairwise (· ≤ ·) :=
      tags ▸ List.pairwise_le_range'
    exact List.pairwise_map.mp pairwise
  have ordered : (outcome.2 ++ []).mergeSort (fun one other => one.tag ≤ other.tag) =
      outcome.2 := by
    rw [List.append_nil]
    exact List.mergeSort_of_pairwise (sorted.imp fun before => decide_eq_true before)
  change (outcome.1.drain.1, ((outcome.2 ++ outcome.1.drain.2).mergeSort
    fun one other => one.tag ≤ other.tag).map Landing.result) = _
  rw [landed, ordered, results]
  rfl

def Transport.counting : Transport Nat where
  issue count _ := (count + 1, ⟨.success 200 (.object [("uuid", .string (toString count))]), none⟩)

/-- Each request is made of what the one before it has brought, the unknown id aside. -/
theorem Console.fireConcurrently_eq_fireEach_counting :
    let console := Console.start Catalog.builtin Watch.default Session.default 0
    let ids := ["add-conn", "read-conn", "nope", "read-conn"]
    Transport.counting.Immediate ∧
      console.fireConcurrently Transport.counting ids =
        console.fireEach Transport.counting ids ∧
      (console.fireConcurrently Transport.counting ids).1.sent.map Request.url =
        ["/connection", "/connection/0", "/connection/1"] := by
  intro console ids
  have immediate : Transport.counting.Immediate := fun _ _ => rfl
  have same := fireConcurrently_eq_fireEach immediate console ids
  refine ⟨immediate, same, ?_⟩
  rw [same]
  decide +kernel

end ApiConsole
