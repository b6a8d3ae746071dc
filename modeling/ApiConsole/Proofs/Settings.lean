import ApiConsole.Report
import ApiConsole.Proofs.Session
import ApiConsole.Proofs.Text.Order

/-!
# What a series of settings leaves

A new session that is set time and again lists the names that were set, in order, each with the
value of its last setting.  This is the only list that does, so that sessions which were given the
same last values are the same, whatever came before.
-/

namespace ApiConsole.Session

/-- Puts values under names one after another, and gives what each found there. -/
def exchangeAll (session : Session) : List (String × String) → Session × List (Option String)
  | [] => (session, [])
  | (name, value) :: rest =>
      let (next, found) := session.exchange name value
      let (last, more) := next.exchangeAll rest
      (last, found :: more)

def lastGiven? (settings : List (String × String)) (name : String) : Option String :=
  (settings.filterMap fun setting =>
    if setting.1 = name then some setting.2 else none).getLast?

/-- A name has a last value if it was set. -/
theorem lastGiven?_isSome_iff {settings : List (String × String)} {name : String} :
    (lastGiven? settings name).isSome ↔ name ∈ settings.map Prod.fst := by
  simp [lastGiven?]

theorem exchangeAll_fst (session : Session) (settings : List (String × String)) :
    (session.exchangeAll settings).1 =
      settings.foldl (fun session setting => session.set setting.1 setting.2) session := by
  induction settings generalizing session with
  | nil => rfl
  | cons setting rest ih => exact ih (session.set setting.1 setting.2)

/-- A name holds its last value, or what it held before if it was not set. -/
theorem get?_exchangeAll (session : Session) (settings : List (String × String)) (name : String) :
    (session.exchangeAll settings).1.get? name =
      (lastGiven? settings name).or (session.get? name) := by
  rw [exchangeAll_fst]
  exact get?_foldl (fun session setting => session.get?_set_or setting.1 name setting.2)
    session settings

/-- Each setting finds what those before it left. -/
theorem getElem?_exchangeAll_snd (session : Session) (settings : List (String × String))
    (place : Nat) :
    (session.exchangeAll settings).2[place]? =
      settings[place]?.map fun setting =>
        (session.exchangeAll (settings.take place)).1.get? setting.1 := by
  induction settings generalizing session place with
  | nil => rfl
  | cons setting rest ih =>
      cases place with
      | zero => rfl
      | succ place => exact ih (session.set setting.1 setting.2) place

/-- The entries that some settings leave: their names in order, each with its last value. -/
structure ListsLast (settings entries : List (String × String)) : Prop where
  names : ∀ name, name ∈ entries.map Prod.fst ↔ name ∈ settings.map Prod.fst
  once : (entries.map Prod.fst).Nodup
  values : ∀ name value, (name, value) ∈ entries ↔ lastGiven? settings name = some value
  codePoints : entries.Pairwise fun first second =>
    Text.codePoints first.1 < Text.codePoints second.1
  bytes : entries.Pairwise fun first second => Text.bytes first.1 < Text.bytes second.1

theorem mem_entries_exchangeAll {settings : List (String × String)} {name value : String} :
    (name, value) ∈ (empty.exchangeAll settings).1.entries ↔
      lastGiven? settings name = some value := by
  have held := get?_exchangeAll empty settings name
  rw [show empty.get? name = none from rfl, Option.or_none] at held
  rw [← held]
  exact (lookup_eq_some_iff_mem (empty.exchangeAll settings).1.ascending).symm

theorem listsLast_exchangeAll (settings : List (String × String)) :
    ListsLast settings (empty.exchangeAll settings).1.entries where
  names name := by
    constructor
    · intro listed
      obtain ⟨⟨_, value⟩, member, rfl⟩ := List.mem_map.mp listed
      exact lastGiven?_isSome_iff.mp (Option.isSome_of_eq_some (mem_entries_exchangeAll.mp member))
    · intro set
      obtain ⟨value, given⟩ := Option.isSome_iff_exists.mp (lastGiven?_isSome_iff.mpr set)
      exact List.mem_map.mpr ⟨(name, value), mem_entries_exchangeAll.mpr given, rfl⟩
  once := (empty.exchangeAll settings).1.nodup_names
  values _ _ := mem_entries_exchangeAll
  codePoints := (empty.exchangeAll settings).1.ascending.imp Text.codePoints_lt_iff.mpr
  bytes := (empty.exchangeAll settings).1.ascending.imp Text.bytes_lt_iff.mpr

/-- No other list does. -/
theorem ListsLast.eq {settings entries : List (String × String)}
    (lists : ListsLast settings entries) : entries = (empty.exchangeAll settings).1.entries := by
  have same : (⟨entries, lists.codePoints.imp Text.codePoints_lt_iff.mp⟩ : Session) =
      (empty.exchangeAll settings).1 := by
    refine ext_get? fun name => Option.ext fun value => ?_
    rw [get?, get?, lookup_eq_some_iff_mem (Session.ascending _),
      lookup_eq_some_iff_mem (Session.ascending _), mem_entries_exchangeAll]
    exact lists.values name value
  exact congrArg Session.entries same

/-- The last values are all that a new session keeps of its settings. -/
theorem exchangeAll_fst_eq_iff {settings others : List (String × String)} :
    (empty.exchangeAll others).1 = (empty.exchangeAll settings).1 ↔
      ∀ name, lastGiven? others name = lastGiven? settings name := by
  constructor
  · intro same name
    refine Option.ext fun value => ?_
    rw [← mem_entries_exchangeAll, ← mem_entries_exchangeAll, same]
  · intro same
    refine ext_get? fun name => ?_
    rw [get?_exchangeAll, get?_exchangeAll, same]

/--
A series of settings of a new session leaves exactly the names that were set, each once, with its
last value, in strictly ascending order of code points, which is that of UTF-8 bytes; no other list
is so.  Each setting gives back the last value of its name among those before it, or nothing if
there is none.  Two series leave the same session exactly if each name has the same last value in
both, and then the same table too.
-/
theorem exchangeAll_empty (settings : List (String × String)) :
    (∀ entries, ListsLast settings entries ↔
      entries = (empty.exchangeAll settings).1.entries) ∧
    (∀ place, (empty.exchangeAll settings).2[place]? =
      settings[place]?.map fun setting => lastGiven? (settings.take place) setting.1) ∧
    ∀ others,
      ((empty.exchangeAll others).1 = (empty.exchangeAll settings).1 ↔
        ∀ name, lastGiven? others name = lastGiven? settings name) ∧
      ((∀ name, lastGiven? others name = lastGiven? settings name) →
        recordsText (empty.exchangeAll others).1.records =
          recordsText (empty.exchangeAll settings).1.records) := by
  refine ⟨fun entries => ⟨ListsLast.eq, ?_⟩, fun place => ?_, fun others =>
    ⟨exchangeAll_fst_eq_iff, fun same => ?_⟩⟩
  · rintro rfl
    exact listsLast_exchangeAll settings
  · rw [getElem?_exchangeAll_snd]
    refine congrArg (Option.map · _) (funext fun setting => ?_)
    rw [get?_exchangeAll]
    exact Option.or_none
  · rw [exchangeAll_fst_eq_iff.mpr same]

/-- A name beyond the first plane comes last, and its later setting finds the first. -/
example :
    let high := String.singleton (Char.ofNat 0x1f600)
    let (session, found) :=
      empty.exchangeAll [(high, "a"), ("\uff5e", "b"), ("z", "c"), (high, "d")]
    session.entries = [("z", "c"), ("\uff5e", "b"), (high, "d")] ∧
      found = [none, none, none, some "a"] := by
  decide +kernel

end ApiConsole.Session
