import ApiConsole.Endpoint
import ApiConsole.Outcome

/-!
# Requests and transports

A request is composed from an endpoint and the session. Session values take the places of the
placeholders as they are, with nothing escaped, and a value that is missing leaves its place empty.
The body is the fixed example of the endpoint.

A script says how each request is to be answered: it has routes, and every route has replies that
are used up in order, except that the last one stays. A request that no route takes is not found.
-/

namespace ApiConsole

/-! ### Requests -/

structure Request where
  method : Method
  url : String
  headers : List (String × String)
  body : Option String
  deriving DecidableEq, Repr

def UrlPart.fill (session : Session) : UrlPart → String
  | .literal text => text
  | .placeholder name _ => session.valueOrEmpty name

/-- The body of a request: the pretty layout of the example, or null where none is known. -/
def Payload.text? : Payload → Option String
  | .absent => none
  | .unspecified => some "null"
  | .fixed body => some (String.ofList body.pretty)

namespace Request

def commonHeaders : List (String × String) :=
  [("content-type", "application/json")]

def compose (endpoint : Endpoint) (session : Session) : Request where
  method := endpoint.method
  url := String.join (endpoint.url.map (UrlPart.fill session))
  headers := commonHeaders
  body := endpoint.payload.text?

/-- A request as it is shown: its line, its headers and, behind an empty line, its body. -/
def display (request : Request) : String :=
  request.method.name ++ " " ++ request.url ++ "\n" ++
    String.join (request.headers.map fun (name, value) => name ++ ": " ++ value ++ "\n") ++
    match request.body with
    | some body => "\n" ++ body ++ "\n"
    | none => ""

end Request

/-! ### Transports -/

/-- What a transport has in store for a request. -/
structure Reply where
  outcome : Outcome
  /-- How long the outcome takes; with none it is there before anything else can happen. -/
  delay : Option Nat

/-- Something that requests are sent through; it may remember what it was sent. -/
structure Transport (σ : Type) where
  issue : σ → Request → σ × Reply

/-! ### Scripted transports -/

/-- The requests of one URL, and of one method if it names one, and their replies. -/
structure Route where
  url : String
  method : Option Method
  replies : List Reply

namespace Route

def takes (route : Route) (request : Request) : Bool :=
  route.url == request.url && route.method.all (· == request.method)

end Route

abbrev Script := List Route

namespace Script

def notFound : Reply :=
  ⟨.ofResponse 404 (.string "no route"), none⟩

def answer (request : Request) : Script → Script × Reply
  | [] => ([], notFound)
  | route :: rest =>
      if route.takes request then
        match route.replies with
        | [] => (route :: rest, notFound)
        | [reply] => (route :: rest, reply)
        | reply :: replies => ({ route with replies } :: rest, reply)
      else
        let (others, reply) := answer request rest
        (route :: others, reply)

end Script

def Transport.scripted : Transport Script where
  issue script request := script.answer request

end ApiConsole
