import ApiConsole.Http
import ApiConsole.Program
import Std.Async.DNS
import Std.Async.TCP
import Std.Time.DateTime

/-!
# The executable

The outer layer of the program: it reads files, input and the clock, and puts requests on the
network. A step of the program is taken again with one more answer each time it asks a question that
no answer is known to.
-/

namespace ApiConsole.Main

open Std.Async

def reasonOf : IO.Error → String
  | .noFileOrDirectory .. => "No such file or directory (os error 2)"
  | .permissionDenied .. => "Permission denied (os error 13)"
  | .inappropriateType .. => "Is a directory (os error 21)"
  | error => toString error

def readFile (path : String) : IO (Except String (List UInt8)) := do
  try
    return .ok (← IO.FS.readBinFile path).toList
  catch error =>
    return .error (reasonOf error)

def addressesOf (host : Url.Host) : IO (List Std.Net.IPAddr) := do
  let name := String.ofList host.text
  match host with
  | .ipv4 _ => return (Std.Net.IPv4Addr.ofString name).toList.map .v4
  | .ipv6 address =>
      return (Std.Net.IPv6Addr.ofString (String.ofList address.text)).toList.map .v6
  | .domain _ => return (← (DNS.getAddrInfo name "").block).toList

def socketAddress (address : Std.Net.IPAddr) (port : UInt16) : Std.Net.SocketAddress :=
  match address with
  | .v4 address => .v4 ⟨address, port⟩
  | .v6 address => .v6 ⟨address, port⟩

partial def receiveAll (client : TCP.Socket.Client) (sofar : ByteArray) : IO ByteArray := do
  match ← (client.recv? 65536).block with
  | some bytes => receiveAll client (sofar ++ bytes)
  | none => return sofar

def connect (port : UInt16) : List Std.Net.IPAddr → IO TCP.Socket.Client
  | [] => throw (.userError "no address")
  | address :: others => do
      let client ← TCP.Socket.Client.mk
      try
        (client.connect (socketAddress address port)).block
        return client
      catch error =>
        if others.isEmpty then throw error else connect port others

def answerTo (request : Request) (url : Url) : IO NetworkAnswer := do
  if url.secure then
    return .none ["error trying to connect", "invalid URL, scheme is not http"]
  try
    let port := UInt16.ofNat (url.port.getD (Url.defaultPort url.secure))
    let client ← connect port (← addressesOf url.host)
    (client.send (Http.message request url).toUTF8).block
    return Http.readAnswer (← receiveAll client ByteArray.empty).toList
  catch error =>
    return .none ["error trying to connect", "tcp connect error", reasonOf error]

def exchange (question : Request × Url) : IO Exchange := do
  let start ← IO.monoMsNow
  let answer ← answerTo question.1 question.2
  return ⟨answer, (← IO.monoMsNow) - start⟩

partial def converse {α : Type} (step : Dialogue → Dialogue × α) (known : List Exchange) :
    IO α := do
  match step ⟨known, none⟩ with
  | (⟨_, none⟩, result) => return result
  | (⟨_, some question⟩, _) => converse step (known ++ [← exchange question])

def readLine (input : IO.FS.Stream) : IO (Option Line) := do
  try
    let line ← input.getLine
    if line.isEmpty then return none
    let arrivals := Input.arrivals (Input.atOnce line.toUTF8.toList)
    return some (arrivals.flatMap Arrival.lines).head?.join
  catch _ => return some none

def say (prompt : Prompt Dialogue String) : IO (Prompt Dialogue String) := do
  IO.print prompt.out
  (← IO.getStdout).flush
  return { prompt with out := "" }

def step (world : World Dialogue) (transport : Transport Dialogue) (prompt : Prompt Dialogue String)
    (arrival : Arrival) (dialogue : Dialogue) : Dialogue × Prompt Dialogue String × Bool :=
  let console : Console Dialogue := { prompt.console with wire := dialogue }
  let asked := { prompt with traffic := { prompt.traffic with console } }
  let (read, held, ended) := asked.readArrival (Program.reporter world) transport [] arrival
  let finished := read.finish (Program.reporter world) transport held
  (finished.console.wire, finished, ended)

partial def readLines (world : World Dialogue) (transport : Transport Dialogue)
    (prompt : Prompt Dialogue String) (input : IO.FS.Stream) : IO Unit := do
  let prompt ← say prompt
  let start ← IO.monoMsNow
  match ← readLine input with
  | none => return
  | some line =>
      let arrival : Arrival := ⟨(← IO.monoMsNow) - start, [line]⟩
      let (prompt, ended) ← converse (step world transport prompt arrival) []
      if ended then discard (say prompt) else readLines world transport prompt input

def finish (ending : Ending) : IO UInt32 := do
  IO.print ending.out
  IO.eprint ending.err
  return UInt32.ofNat ending.exitCode

/-- The file of the catalog, read before the run if the command line names one. -/
def catalogFile (baseUrl : Option String) (arguments : List String) :
    IO (String → Except String (List UInt8)) := do
  match CommandLine.parse baseUrl arguments with
  | .ok (⟨_, some path, _, _, _⟩, _) =>
      let content ← readFile path
      return fun _ => content
  | _ => return fun _ => .error "no file"

def runProgram (arguments : List String) : IO UInt32 := do
  let baseUrl ← IO.getEnv Program.baseUrlVariable
  let file ← catalogFile baseUrl arguments
  let seconds := (← Std.Time.Timestamp.now).toSecondsSinceUnixEpoch.val.toNat
  let clock (time : Nat) := TimeOfDay.ofSeconds (seconds + time / 1000)
  let world : World Dialogue := ⟨baseUrl, file, .recorded, clock⟩
  match Program.start world ⟨[], none⟩ arguments with
  | .over ending => finish ending
  | .batch transport console action =>
      let step (dialogue : Dialogue) :=
        let (console, ending) :=
          Program.runBatch world transport { console with wire := dialogue } action
        (console.wire, ending)
      finish (← converse step [])
  | .prompting transport prompt => do
      readLines world transport prompt (← IO.getStdin)
      return 0

end ApiConsole.Main

def main (arguments : List String) : IO UInt32 :=
  ApiConsole.Main.runProgram arguments
