import ApiConsole.Endpoint.Template
import ApiConsole.Json.Value

/-!
# Endpoints

An endpoint is one operation of an API: the method it is fired with, how its URL is put together
from literal text and session values, and what it sends.
-/

namespace ApiConsole

/-! ### Methods -/

inductive Method where
  | get
  | post
  | put
  | delete
  | patch
  deriving DecidableEq, Repr

namespace Method

def name : Method → String
  | .get => "GET"
  | .post => "POST"
  | .put => "PUT"
  | .delete => "DELETE"
  | .patch => "PATCH"

def all : List Method :=
  [.get, .post, .put, .delete, .patch]

def ofName? (name : String) : Option Method :=
  all.find? fun method => method.name == name

theorem ofName?_name (method : Method) : ofName? method.name = some method := by
  cases method <;> decide

theorem ofName?_eq_some_iff {name : String} {method : Method} :
    Method.ofName? name = some method ↔ name = method.name := by
  constructor
  · intro found
    exact (by simpa using List.find?_some found : method.name = name).symm
  · rintro rfl
    exact ofName?_name method

theorem name_injective : Function.Injective name := fun _ _ same =>
  Option.some.inj ((ofName?_name _).symm.trans (ofName?_eq_some_iff.2 same))

end Method

/-! ### Endpoints -/

inductive Payload where
  /-- Nothing. -/
  | absent
  /-- A body of which no example is known. -/
  | unspecified
  | fixed (body : Json.Value)

def Payload.isPresent : Payload → Bool
  | .absent => false
  | _ => true

def Payload.body? : Payload → Option Json.Value
  | .fixed body => some body
  | _ => none

structure Endpoint where
  id : String
  method : Method
  title : String
  url : List UrlPart
  payload : Payload

namespace Endpoint

def placeholders (endpoint : Endpoint) : List String :=
  endpoint.url.filterMap fun
    | .literal _ => none
    | .placeholder name _ => some name

def urlShape (endpoint : Endpoint) : String :=
  String.join (endpoint.url.map fun
    | .literal text => text
    | .placeholder name _ => "[" ++ name ++ "]")

end Endpoint

end ApiConsole
