import ApiConsole.Json.Double.Basic

/-!
# Values

A JSON value keeps the members of an object in order and each name once: a repeated name stays at
its first place and takes its last value. Integers of up to 64 bits stay integers, and every other
number is a double.

A field is looked for anywhere in a value, from the outside in and from the front to the back: the
member of an object itself comes before whatever its members hold. A member that is null is passed
over, and the search goes on behind it.
-/

namespace ApiConsole.Json

/-! ### Values -/

def Fits (n : Int) : Prop :=
  -9223372036854775808 ≤ n ∧ n < 18446744073709551616

instance (n : Int) : Decidable (Fits n) :=
  inferInstanceAs (Decidable (_ ∧ _))

inductive Number where
  | integer (value : Int) (fits : Fits value)
  | double (value : Double)
  deriving DecidableEq

inductive Value where
  | null
  | bool (value : Bool)
  | number (value : Number)
  | string (value : String)
  | array (items : List Value)
  | object (members : List (String × Value))

instance : Inhabited Value := ⟨.null⟩

namespace Value

def ofInt (n : Int) (fits : Fits n) : Value :=
  .number (.integer n fits)

def isNull : Value → Bool
  | .null => true
  | _ => false

end Value

abbrev Members := List (String × Value)

namespace Members

def get? (members : Members) (name : String) : Option Value :=
  members.lookup name

/-- Puts a value under a name: in its place if the name is there, at the end if not. -/
def put : Members → String → Value → Members
  | [], name, value => [(name, value)]
  | (key, old) :: rest, name, value =>
      if key = name then (key, value) :: rest else (key, old) :: put rest name value

def ofPairs (pairs : List (String × Value)) : Members :=
  pairs.foldl (fun members pair => members.put pair.1 pair.2) []

end Members

/-! ### Searching values -/

namespace Value

/-- The member of an object, unless it is null. -/
def member? (members : List (String × Value)) (field : String) : Option Value :=
  (Members.get? members field).filter (!·.isNull)

mutual

def find? (field : String) : Value → Option Value
  | .null => none
  | .bool _ => none
  | .number _ => none
  | .string _ => none
  | .array items => findInItems? field items
  | .object members => member? members field <|> findInMembers? field members

def findInItems? (field : String) : List Value → Option Value
  | [] => none
  | item :: rest => item.find? field <|> findInItems? field rest

def findInMembers? (field : String) : List (String × Value) → Option Value
  | [] => none
  | (_, value) :: rest => value.find? field <|> findInMembers? field rest

end

theorem findInItems?_eq_findSome? (field : String) (items : List Value) :
    findInItems? field items = items.findSome? (find? field) := by
  induction items with
  | nil => rfl
  | cons item rest ih =>
      rw [findInItems?, List.findSome?_cons, ih]
      cases item.find? field <;> rfl

end Value

end ApiConsole.Json
