import ApiConsole.Url.Host

/-!
# Authorities

The authority of a URL names its host, between credentials and a port that may both be missing. It
is read from the pieces it is cut into: the credentials end at the last at sign, the host at the
first colon that is not in brackets.
-/

namespace ApiConsole.Url

/-- The pieces of an authority as they are written. -/
structure Authority where
  credentials : Option (List Char)
  host : List Char
  port : Option (List Char)
  deriving DecidableEq, Repr

namespace Authority

def cutCredentials (cs : List Char) : Option (List Char) × List Char :=
  if cs.contains '@' then
    let behind := (cs.reverse.takeWhile (· != '@')).reverse
    (some (cs.take (cs.length - behind.length - 1)), behind)
  else (none, cs)

/-- What stands before the first colon outside of brackets, and behind it if there is one. -/
def cutPort (bracketed : Bool) : List Char → List Char × Option (List Char)
  | [] => ([], none)
  | c :: rest =>
      if c = ':' ∧ ¬ bracketed then ([], some rest)
      else
        let inside := c = '[' ∨ (bracketed ∧ c ≠ ']')
        let (host, port) := cutPort inside rest
        (c :: host, port)

def ofText (cs : List Char) : Authority :=
  let (credentials, rest) := cutCredentials cs
  let (host, port) := cutPort false rest
  ⟨credentials, host, port⟩

/-- The username and the password, between which the first colon stands. -/
def login (authority : Authority) : List Char × List Char :=
  let cs := authority.credentials.getD []
  (cs.takeWhile (· != ':'), (cs.dropWhile (· != ':')).drop 1)

def hasLogin (authority : Authority) : Bool :=
  !authority.login.1.isEmpty || !authority.login.2.isEmpty

/-- The number of a port, if it is given. What follows a backslash is not part of it. -/
def portNumber (authority : Authority) : Except Fault (Option Nat) :=
  let digits := (authority.port.getD []).takeWhile (· != '\\')
  if !digits.all Char.isDigit then .error .invalidPort
  else if digits.isEmpty then .ok none
  else if Text.digitsValue digits < 65536 then .ok (some (Text.digitsValue digits))
  else .error .invalidPort

def hostAndPort (authority : Authority) : Except Fault (Host × Option Nat) := do
  if authority.host.isEmpty then throw .emptyHost
  let host ← Host.ofText authority.host
  return (host, ← authority.portNumber)

/-- Checks an authority whose host is kept as it is; `last` tells whether the URL ends with it. A
host may be missing where nothing depends on it. -/
def checkKept (authority : Authority) (last : Bool) : Except Fault Unit := do
  let missing := authority.host.isEmpty
  if missing && authority.port.isNone && authority.credentials == some [] && !last then
    throw .emptyHost
  Host.checkKept authority.host
  if missing && authority.port.isSome then throw .emptyHost
  let _ ← authority.portNumber
  if missing && authority.hasLogin then throw .emptyHost

end Authority

end ApiConsole.Url
