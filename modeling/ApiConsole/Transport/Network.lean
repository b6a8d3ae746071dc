import ApiConsole.Console
import ApiConsole.Error
import ApiConsole.Text.Bytes
import ApiConsole.Url

/-!
# Networks

The URLs of requests that are no URLs of the web themselves are written behind a base URL. It is
kept as it was given, less the slashes at its end.

A request goes to a URL behind a base URL, over a network. What the network answers is the outcome;
if there is no URL to ask, or no answer, the outcome is a failure that says why. The reason names
every cause together with the causes behind it.
-/

namespace ApiConsole

/-! ### Base URLs -/

/-- A text that is a URL of the web, and the URL. -/
structure BaseUrl where
  given : String
  url : Url
  ofText_given : Url.ofText given = .ok (.web url)

namespace BaseUrl

def ofText (text : String) : Except Error BaseUrl :=
  match h : Url.ofText text with
  | .error fault => .error (.invalidBaseUrl text (.malformed fault))
  | .ok (.foreign scheme) => .error (.invalidBaseUrl text (.unsupportedScheme scheme))
  | .ok (.web url) => .ok ⟨text, url, h⟩

def dropSlashes (cs : List Char) : List Char :=
  (cs.reverse.dropWhile (· == '/')).reverse

def text (base : BaseUrl) : String :=
  String.ofList (dropSlashes base.given.toList)

/-- The URL that a request is sent to: its own if that is a URL of the web. -/
def resolve (base : BaseUrl) (url : String) : String :=
  match Url.ofText url with
  | .ok (.web _) => url
  | _ => base.text ++ url

theorem given_of_ofText {text : String} {base : BaseUrl} (h : ofText text = .ok base) :
    base.given = text := by
  unfold ofText at h
  split at h <;> simp_all
  exact h ▸ rfl

end BaseUrl

/-! ### Networks -/

/-- What kept an answer from coming, each cause before the one behind it. -/
abbrev Trouble := List String

namespace Trouble

def wording (trouble : Trouble) : String :=
  ": ".intercalate trouble

def wordings : Trouble → List String
  | [] => []
  | cause :: causes => wording (cause :: causes) :: wordings causes

def reason (trouble : Trouble) : String :=
  ": ".intercalate trouble.wordings

def malformed (fault : Url.Fault) : Trouble :=
  ["builder error", fault.message]

def foreign : Trouble :=
  ["builder error", "URL scheme is not allowed"]

def unsent (url : Url) (causes : Trouble) : Trouble :=
  ("error sending request for url (" ++ url.shown.text ++ ")") :: causes

def noRoute : Trouble :=
  ["error trying to connect", "tcp connect error", "Network is unreachable (os error 101)"]

def timedOut : Trouble :=
  ["operation timed out"]

def closedEarly : Trouble :=
  ["connection closed before message completed"]

def notUnderstood : Trouble :=
  ["invalid HTTP version parsed"]

def bodyEnds : Trouble :=
  ["request or response body error", "error reading a body from connection",
    "end of file before message length reached"]

end Trouble

/-- What comes back over a network. -/
inductive NetworkAnswer where
  | complete (status : Nat) (bytes : List UInt8)
  /-- The body broke off. -/
  | brokenOff (status : Nat) (causes : Trouble)
  | none (causes : Trouble)

/-- What comes of asking a network: its answer, and how many milliseconds that took. -/
structure Exchange where
  answer : NetworkAnswer
  delay : Nat

/-- An exchange that is given up when it takes longer than a number of seconds. -/
def Exchange.within (exchange : Exchange) : Option Nat → Exchange
  | none => exchange
  | some seconds =>
      if exchange.delay ≤ 1000 * seconds then exchange
      else ⟨.none Trouble.timedOut, 1000 * seconds⟩

/-- Something that is asked for URLs; it may remember what it was asked. -/
structure Network (σ : Type) where
  ask : σ → Request → Url → σ × Exchange

namespace Network

variable {σ : Type}

def unreachable : Network Unit where
  ask _ _ _ := ((), ⟨.none Trouble.noRoute, 0⟩)

/-- A network on which exchanges are given up after a number of seconds, if there is one. -/
def limited (network : Network σ) (limit : Option Nat) : Network σ where
  ask wire request url :=
    let (wire, exchange) := network.ask wire request url
    (wire, exchange.within limit)

def outcomeOf (url : Url) : NetworkAnswer → Outcome
  | .complete status bytes => .ofResponse status (Outcome.bodyOfText (Text.decodeLossy bytes))
  | .brokenOff status causes => .failure status (.string (Trouble.reason causes))
  | .none causes => .unreachable (Trouble.unsent url causes).reason

end Network

/-- The transport to a base URL over a network. What is no URL is not asked for. -/
def Transport.overNetwork {σ : Type} (network : Network σ) (base : BaseUrl) : Transport σ where
  issue wire request :=
    match Url.ofText (base.resolve request.url) with
    | .ok (.web url) =>
        let (wire, exchange) := network.ask wire request url
        (wire, ⟨Network.outcomeOf url exchange.answer, some exchange.delay⟩)
    | .ok (.foreign _) => (wire, ⟨.unreachable Trouble.foreign.reason, none⟩)
    | .error fault => (wire, ⟨.unreachable (Trouble.malformed fault).reason, none⟩)

/-- Exchanges that are known, and the first question that none of them answers. -/
structure Dialogue where
  known : List Exchange
  question : Option (Request × Url)

/-- The network that answers from a dialogue, and keeps the question behind its end. -/
def Network.recorded : Network Dialogue where
  ask dialogue request url :=
    match dialogue.known with
    | exchange :: rest => ({ dialogue with known := rest }, exchange)
    | [] =>
        ({ dialogue with question := dialogue.question <|> some (request, url) }, ⟨.none [], 0⟩)

end ApiConsole
