import ApiConsole.Url.Authority
import ApiConsole.Url.Path

/-!
# URLs

An absolute URL starts with a scheme. A URL of the web, whose scheme is `http` or `https`, is read
as a whole: an authority, a path, and a query and a fragment that may be missing. A URL of any other
scheme is only checked. Blanks and controls around a URL, and tabs and line ends inside it, do not
count.
-/

namespace ApiConsole

/-- An absolute URL of the web, with all parts as they are written in it. -/
structure Url where
  secure : Bool
  username : List Char
  password : List Char
  host : Url.Host
  /-- The port, unless it is the one of the scheme. -/
  port : Option Nat
  path : Url.Path
  query : Option (List Char)
  fragment : Option (List Char)
  deriving DecidableEq

/-- What an absolute URL is about. -/
inductive Url.Location where
  | web (url : Url)
  | foreign (scheme : String)
  deriving DecidableEq

namespace Url

def isEdge (c : Char) : Bool :=
  c.toNat ≤ 0x20

def isBreak (c : Char) : Bool :=
  c == '\t' || c == '\n' || c == '\r'

def cleaned (cs : List Char) : List Char :=
  let trimmed := ((cs.dropWhile isEdge).reverse.dropWhile isEdge).reverse
  trimmed.filter fun c => !isBreak c

def isSchemeCharacter (c : Char) : Bool :=
  c.isAlphanum || c == '+' || c == '-' || c == '.'

def cutScheme? (cs : List Char) : Option (List Char × List Char) :=
  match cs.span isSchemeCharacter with
  | (first :: scheme, ':' :: rest) =>
      if first.isAlpha then some ((first :: scheme).map Char.toLower, rest) else none
  | _ => none

def isSlash (c : Char) : Bool :=
  c == '/' || c == '\\'

def endsPath (c : Char) : Bool :=
  c == '?' || c == '#'

def defaultPort (secure : Bool) : Nat :=
  if secure then 443 else 80

/-- The segments of a path, which is empty or starts with a slash. -/
def segments (cs : List Char) : Path :=
  Path.follow ((Text.splitOn isSlash (cs.drop 1)).map (escape .path))

def cutQuery (cs : List Char) : Option (List Char) × Option (List Char) :=
  let (before, behind) := cs.span (· != '#')
  let query :=
    match before with
    | '?' :: query => some (escape .query query)
    | _ => none
  let fragment :=
    match behind with
    | '#' :: fragment => some (escape .fragment fragment)
    | _ => none
  (query, fragment)

/-- Reads a URL of the web behind its scheme. Any number of slashes may stand before the
authority. -/
def readWeb (secure : Bool) (cs : List Char) : Except Fault Url := do
  let (authority, rest) := (cs.dropWhile isSlash).span fun c => !isSlash c && !endsPath c
  let authority := Authority.ofText authority
  let (host, port) ← authority.hostAndPort
  let (path, rest) := rest.span fun c => !endsPath c
  let (query, fragment) := cutQuery rest
  let (username, password) := authority.login
  return ⟨secure, escape .userinfo username, escape .userinfo password, host,
    if port = some (defaultPort secure) then none else port, segments path, query, fragment⟩

/-- Checks a URL of a scheme whose URLs are written like those of the web. -/
def checkLikeWeb (cs : List Char) : Except Fault Unit := do
  let authority := (cs.dropWhile isSlash).takeWhile fun c => !isSlash c && !endsPath c
  let _ ← (Authority.ofText authority).hostAndPort

/-- Checks a URL of a file, which may name a host behind two slashes. -/
def checkFile : List Char → Except Fault Unit
  | first :: second :: rest =>
      let host := rest.takeWhile fun c => !isSlash c && !endsPath c
      if !isSlash first || !isSlash second || host.isEmpty || Path.isDrive host then .ok ()
      else (Host.ofText host).map fun _ => ()
  | _ => .ok ()

def checkOther : List Char → Except Fault Unit
  | '/' :: '/' :: rest =>
      let (authority, rest) := rest.span fun c => c != '/' && !endsPath c
      (Authority.ofText authority).checkKept rest.isEmpty
  | _ => .ok ()

def checkForeign (scheme : String) (cs : List Char) : Except Fault Unit :=
  if scheme == "ws" || scheme == "wss" || scheme == "ftp" then checkLikeWeb cs
  else if scheme == "file" then checkFile cs
  else checkOther cs

def ofText (text : String) : Except Fault Location :=
  match cutScheme? (cleaned text.toList) with
  | none => .error .noBase
  | some (scheme, rest) =>
      let scheme := String.ofList scheme
      if scheme = "http" then (readWeb false rest).map .web
      else if scheme = "https" then (readWeb true rest).map .web
      else (checkForeign scheme rest).map fun _ => .foreign scheme

def scheme (url : Url) : String :=
  if url.secure then "https" else "http"

/-- The credentials of a URL, with the at sign behind them if there are any. -/
def credentialsText (url : Url) : List Char :=
  let password := if url.password.isEmpty then [] else ':' :: url.password
  if url.username.isEmpty && url.password.isEmpty then [] else url.username ++ password ++ ['@']

/-- What a part that may be missing adds to a URL. -/
def optionalText (sign : Char) : Option (List Char) → List Char
  | none => []
  | some text => sign :: text

def text (url : Url) : String :=
  url.scheme ++ "://" ++ String.ofList
    (url.credentialsText ++ url.host.text ++ optionalText ':' (url.port.map (Nat.toDigits 10)) ++
      url.path.text ++ optionalText '?' url.query ++ optionalText '#' url.fragment)

/-- A URL as it is shown: without its credentials, unless the username stands for no text. -/
def shown (url : Url) : Url :=
  match unescapedText? url.username with
  | none => url
  | some username =>
      if username.isEmpty && (unescapedText? url.password).isNone then url
      else { url with username := [], password := [] }

end Url

end ApiConsole
