import ApiConsole.Text.Basic
import ApiConsole.Text.Bytes
import ApiConsole.Transport.Network

/-!
# HTTP messages

A request is written as its line, its headers and its body. The answer is read from all bytes that
came back: a status, headers, and a body that is cut into chunks, has an announced length, or ends
with the bytes.
-/

namespace ApiConsole

/-- What a request asks a server for: the path and the query of its URL. -/
def Url.target (url : Url) : String :=
  String.ofList (url.path.text ++ Url.optionalText '?' url.query)

namespace Http

def lineEnd : String := "\r\n"

def headerLine (header : String × String) : String :=
  header.1 ++ ": " ++ header.2 ++ lineEnd

def hostText (url : Url) : String :=
  String.ofList (url.host.text ++ Url.optionalText ':' (url.port.map (Nat.toDigits 10)))

/-- The header of the credentials of a URL, if it has any that stand for a text. -/
def authorization (url : Url) : List (String × String) :=
  if url.credentialsText.isEmpty || url.shown == url then []
  else
    let login := Url.unescape url.username ++ [58] ++ Url.unescape url.password
    [("authorization", "Basic " ++ String.ofList (Text.base64 login))]

def lengthHeader (request : Request) : List (String × String) :=
  match request.body with
  | some body => [("content-length", toString body.utf8ByteSize)]
  | none => []

def headers (request : Request) (url : Url) : List (String × String) :=
  request.headers ++ authorization url ++
    [("accept", "*/*"), ("host", hostText url), ("connection", "close")] ++ lengthHeader request

def message (request : Request) (url : Url) : String :=
  request.method.name ++ " " ++ url.target ++ " HTTP/1.1" ++ lineEnd ++
    String.join ((headers request url).map headerLine) ++ lineEnd ++ request.body.getD ""

/-- The first line of bytes without its end, and what follows it. -/
def cutLine? : List UInt8 → Option (List UInt8 × List UInt8)
  | [] => none
  | 13 :: 10 :: rest => some ([], rest)
  | byte :: rest => (cutLine? rest).map fun (line, behind) => (byte :: line, behind)

theorem length_cutLine? {bytes line rest : List UInt8} (h : cutLine? bytes = some (line, rest)) :
    rest.length < bytes.length := by
  fun_induction cutLine? bytes generalizing line with
  | case1 => cases h
  | case2 rest =>
      cases h
      simp only [List.length_cons]
      omega
  | case3 byte tail _ ih =>
      simp only [Option.map_eq_some_iff, Prod.mk.injEq, Prod.exists] at h
      obtain ⟨line, behind, cut, rfl, rfl⟩ := h
      have := ih cut
      simp only [List.length_cons]
      omega

/-- The lines up to an empty one, and what follows that. -/
def cutHead? (bytes : List UInt8) : Option (List (List Char) × List UInt8) :=
  match h : cutLine? bytes with
  | none => none
  | some ([], rest) => some ([], rest)
  | some (line, rest) =>
      have : rest.length < bytes.length := length_cutLine? h
      (cutHead? rest).map fun (lines, body) => ((Text.decodeLossy line).toList :: lines, body)
termination_by bytes.length

def status? (line : List Char) : Option Nat := do
  match Text.splitOn (· == ' ') line with
  | protocol :: code :: _ =>
      if "HTTP/1.".toList.isPrefixOf protocol ∧ code.length = 3 ∧ code.all Char.isDigit then
        some (Text.digitsValue code)
      else none
  | _ => none

def header (line : List Char) : List Char × List Char :=
  ((line.takeWhile (· != ':')).map Char.toLower, Text.trim ((line.dropWhile (· != ':')).drop 1))

def headerValue? (lines : List (List Char)) (name : String) : Option (List Char) :=
  (lines.map header).lookup name.toList

/-- The length at the start of a chunk, in hexadecimal and before any extension. -/
def chunkLength? (line : List UInt8) : Option Nat := do
  let digits := Text.trim ((Text.decodeLossy line).toList.takeWhile (· != ';'))
  if digits.isEmpty then none else return Text.numberOf 16 (← digits.mapM Text.hexValue?)

/-- The body that is cut into chunks, the last of which is empty. -/
def joinChunks? (bytes : List UInt8) : Option (List UInt8) :=
  match h : cutLine? bytes with
  | none => none
  | some (line, rest) =>
      match chunkLength? line with
      | none => none
      | some 0 => some []
      | some length =>
          if rest.length < length + 2 then none
          else
            have : rest.length < bytes.length := length_cutLine? h
            (joinChunks? (rest.drop (length + 2))).map (rest.take length ++ ·)
termination_by bytes.length
decreasing_by
  simp only [List.length_drop]
  omega

def answerOf (status : Nat) (lines : List (List Char)) (bytes : List UInt8) : NetworkAnswer :=
  if status = 204 ∨ status = 304 then .complete status []
  else if (headerValue? lines "transfer-encoding").any (·.map Char.toLower == "chunked".toList) then
    match joinChunks? bytes with
    | some body => .complete status body
    | none => .brokenOff status Trouble.bodyEnds
  else
    match headerValue? lines "content-length" with
    | none => .complete status bytes
    | some digits =>
        let length := Text.digitsValue digits
        if bytes.length < length then .brokenOff status Trouble.bodyEnds
        else .complete status (bytes.take length)

def readAnswer (bytes : List UInt8) : NetworkAnswer :=
  match cutHead? bytes with
  | none => .none Trouble.closedEarly
  | some ([], _) => .none Trouble.notUnderstood
  | some (line :: lines, rest) =>
      match status? line with
      | none => .none Trouble.notUnderstood
      | some status => answerOf status lines rest

end Http

end ApiConsole
