import ApiConsole.Catalog
import ApiConsole.Outcome
import ApiConsole.Transport

/-!
# Consoles

A console composes requests from its catalog and session, hands them to a transport, and carries
identifiers from successful outcomes into the session. A fire has two ends: it starts when its
request is composed and sent, and it resolves when the outcome comes in; the session may change
between the two, and the request does not.
-/

namespace ApiConsole

/-- What happens between a console and its transport. -/
inductive Event where
  | sent (request : Request)
  | resolved (request : Request) (outcome : Outcome)

/-- A console, the state of its transport and what has happened between them. -/
structure Console (σ : Type) where
  catalog : Catalog
  watched : List WatchedField
  session : Session
  wire : σ
  events : List Event
  /-- The time, counted in milliseconds. -/
  now : Nat

/-- How a fire ended, unless its endpoint is unknown. -/
abbrev FireResult := Except Error Outcome

namespace Console

variable {σ : Type}

def start (catalog : Catalog) (watched : List WatchedField) (session : Session) (wire : σ) :
    Console σ :=
  ⟨catalog, watched, session, wire, [], 0⟩

def set (console : Console σ) (name value : String) : Console σ :=
  { console with session := console.session.set name value }

def compose (console : Console σ) (id : String) : Except Error Request :=
  (console.catalog.get id).map fun endpoint => Request.compose endpoint console.session

def send (transport : Transport σ) (console : Console σ) (request : Request) : Console σ × Reply :=
  let (wire, reply) := transport.issue console.wire request
  ({ console with wire, events := console.events ++ [.sent request] }, reply)

def resolve (console : Console σ) (request : Request) (outcome : Outcome) : Console σ :=
  { console with
    session := Watch.apply console.session (Watch.extracted console.watched outcome)
    events := console.events ++ [.resolved request outcome] }

def wait (console : Console σ) (delay : Nat) : Console σ :=
  { console with now := console.now + delay }

/-- Fires an endpoint and waits for the outcome. Only an unknown endpoint is an error. -/
def fire (transport : Transport σ) (console : Console σ) (id : String) :
    Console σ × FireResult :=
  match console.compose id with
  | .error error => (console, .error error)
  | .ok request =>
      let (sent, reply) := console.send transport request
      ((sent.wait (reply.delay.getD 0)).resolve request reply.outcome, .ok reply.outcome)

end Console

end ApiConsole
