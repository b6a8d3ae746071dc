/-!
# Sessions

A session holds the values that requests are composed from, one under each name, in the order of
the names by code point.
-/

namespace ApiConsole

/-- Values under names, in strictly ascending order of the names. -/
structure Session where
  entries : List (String × String)
  ascending : entries.Pairwise fun first second => first.1 < second.1

namespace Session

@[ext]
theorem ext {first second : Session} (h : first.entries = second.entries) : first = second := by
  cases first
  cases second
  simp_all

instance : DecidableEq Session := fun first second =>
  if h : first.entries = second.entries then isTrue (ext h)
  else isFalse fun same => h (congrArg entries same)

def empty : Session := ⟨[], .nil⟩

def insert (name value : String) : List (String × String) → List (String × String)
  | [] => [(name, value)]
  | (key, old) :: rest =>
      if name < key then (name, value) :: (key, old) :: rest
      else if name = key then (name, value) :: rest
      else (key, old) :: insert name value rest

theorem mem_insert (name value : String) (entries : List (String × String))
    (entry : String × String) (h : entry ∈ insert name value entries) :
    entry = (name, value) ∨ entry ∈ entries := by
  induction entries with
  | nil => simpa [insert] using h
  | cons head rest ih =>
      unfold insert at h
      split at h
      · simpa using h
      · split at h
        · rcases List.mem_cons.1 h with h | h
          · exact .inl h
          · exact .inr (List.mem_cons_of_mem _ h)
        · rcases List.mem_cons.1 h with h | h
          · exact .inr (h ▸ List.mem_cons_self)
          · rcases ih h with h | h
            · exact .inl h
            · exact .inr (List.mem_cons_of_mem _ h)

theorem ascending_insert (name value : String) (entries : List (String × String))
    (h : entries.Pairwise fun first second => first.1 < second.1) :
    (insert name value entries).Pairwise fun first second => first.1 < second.1 := by
  induction entries with
  | nil => simp [insert]
  | cons head rest ih =>
      obtain ⟨above, ordered⟩ := List.pairwise_cons.1 h
      unfold insert
      split
      · next below =>
        refine List.pairwise_cons.2 ⟨fun entry member => ?_, h⟩
        rcases List.mem_cons.1 member with member | member
        · exact member ▸ below
        · exact String.lt_trans below (above entry member)
      · split
        · next same =>
          exact List.pairwise_cons.2 ⟨fun entry member => same ▸ above entry member, ordered⟩
        · next notBelow other =>
          refine List.pairwise_cons.2 ⟨fun entry member => ?_, ih ordered⟩
          rcases mem_insert name value rest entry member with member | member
          · subst member
            grind
          · exact above entry member

/-- The session with a value under a name, in place of what was there. -/
def set (session : Session) (name value : String) : Session :=
  ⟨insert name value session.entries,
    ascending_insert name value session.entries session.ascending⟩

def get? (session : Session) (name : String) : Option String :=
  session.entries.lookup name

/-- Puts a value under a name, and gives the one that was there before. -/
def exchange (session : Session) (name value : String) : Session × Option String :=
  (session.set name value, session.get? name)

def valueOrEmpty (session : Session) (name : String) : String :=
  (session.get? name).getD ""

def ofList (settings : List (String × String)) : Session :=
  settings.foldl (fun session setting => session.set setting.1 setting.2) empty

def size (session : Session) : Nat :=
  session.entries.length

def connectionName : String := "conn_uuid"

def messageName : String := "msg_id"

/-- A fresh session, which holds readable prompts in place of identifiers. -/
def default : Session :=
  ofList [(connectionName, "connection uuid"), (messageName, "msg id")]

theorem lookup_insert (name other value : String) (entries : List (String × String)) :
    (insert name value entries).lookup other =
      if other = name then some value else entries.lookup other := by
  induction entries with
  | nil =>
      by_cases h : other = name
      · simp [insert, h]
      · simp [insert, h, List.lookup_cons, beq_eq_false_iff_ne.2 h]
  | cons head rest ih =>
      obtain ⟨key, old⟩ := head
      unfold insert
      by_cases h : other = name
      · subst h
        split
        · simp
        · split
          · simp
          · next other => simpa [List.lookup_cons, beq_eq_false_iff_ne.2 other] using ih
      · split
        · simp [List.lookup_cons, beq_eq_false_iff_ne.2 h]
        · split
          · next same => simp [List.lookup_cons, ← same, beq_eq_false_iff_ne.2 h]
          · by_cases hk : other = key
            · simp [hk]
            · simpa [List.lookup_cons, beq_eq_false_iff_ne.2 hk, h] using ih

/-- A setting is read back under its name and leaves every other name alone. -/
theorem get?_set (session : Session) (name other value : String) :
    (session.set name value).get? other =
      if other = name then some value else session.get? other :=
  lookup_insert name other value session.entries

theorem valueOrEmpty_set (session : Session) (name other value : String) :
    (session.set name value).valueOrEmpty other =
      if other = name then value else session.valueOrEmpty other := by
  rw [valueOrEmpty, get?_set]
  split <;> rfl

end Session

end ApiConsole
