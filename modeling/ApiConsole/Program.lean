import ApiConsole.Catalog
import ApiConsole.CommandLine
import ApiConsole.Transport.Network

/-!
# The program

The program reads its command line, loads the catalog, connects to the base URL and carries out the
action. All that it needs of the world is passed to it, so that a run is a function: of the
arguments, the environment, the files, the network and the clock.
-/

namespace ApiConsole

/-- What a run needs of the world. -/
structure World (σ : Type) where
  /-- The base URL of the environment. -/
  baseUrl : Option String
  /-- The bytes of a file, or why they cannot be read. -/
  file : String → Except String (List UInt8)
  network : Network σ
  clock : Nat → TimeOfDay

/-- How a run ends: its exit code, and what it has written to its two outputs. -/
structure Ending where
  exitCode : Nat
  out : String
  err : String
  deriving DecidableEq, Repr

namespace Program

def name : String := "junebug-console"

def version : String := "0.1.0"

def baseUrlVariable : String := "JUNEBUG_URL"

def nameOf : CommandLine.Level → String
  | .top => name
  | .list => name ++ "-list"
  | .compose => name ++ "-compose"
  | .fire => name ++ "-fire"
  | .repl => name ++ "-repl"

def usage : String :=
  "Usage: " ++ name ++ " [OPTIONS] <COMMAND>\n\n" ++
  "Commands:\n" ++
  "  list                     list the endpoints of the catalog\n" ++
  "  compose <ENDPOINTS>...   print the requests the endpoints would send, without sending them\n" ++
  "  fire <ENDPOINTS>...      fire one or multiple endpoints, in order\n" ++
  "  repl                     interactive console\n" ++
  "  help                     this text\n\n" ++
  "Options:\n" ++
  "  -u, --base-url <URL>     base url of the server\n" ++
  "  -c, --catalog <FILE>     JSON endpoint catalog\n" ++
  "  -s, --set <ASSIGNMENT>   initial session value as NAME=VALUE\n" ++
  "  -t, --timeout <SECS>     give up on a request after this many seconds\n" ++
  "  -v, --verbose            more logging\n" ++
  "      --concurrent         fire all endpoints at once\n" ++
  "  -h, --help               this text\n" ++
  "  -V, --version            print the version\n"

def refused : CommandLine.Refusal → Ending
  | .help _ => ⟨0, usage, ""⟩
  | .version level => ⟨0, nameOf level ++ " " ++ version ++ "\n", ""⟩
  | .badValue setting value fault =>
      ⟨2, "", CommandLine.Refusal.valueMessage setting value fault ++ "\n\n" ++ usage⟩
  | refusal => ⟨refusal.exitCode, "", usage⟩

def indented (indent text : String) : String :=
  String.ofList (Text.joinWith ('\n' :: indent.toList) (Text.splitOn (· == '\n') text.toList))

/-- The place of a cause, so that all places have the same width. -/
def placeText (place : Nat) : String :=
  let digits := toString place
  String.ofList (List.replicate (5 - digits.length) ' ') ++ digits ++ ": "

def numberedCauses (place : Nat) : List String → String
  | [] => ""
  | cause :: rest =>
      "\n" ++ placeText place ++ indented "       " cause ++ numberedCauses (place + 1) rest

/-- The report of an error and what caused it. A single cause has no number. -/
def report : List String → String
  | [] => ""
  | [error] => "Error: " ++ error ++ "\n"
  | [error, cause] => "Error: " ++ error ++ "\n\nCaused by:\n    " ++ indented "    " cause ++ "\n"
  | error :: causes => "Error: " ++ error ++ "\n\nCaused by:" ++ numberedCauses 0 causes ++ "\n"

def failed (out : String) (chain : List String) : Ending :=
  ⟨1, out, report chain⟩

/-- The error of a file that cannot be read, or that is no text. -/
def fileText (path : String) : Except String (List UInt8) → Except Error String
  | .error reason => .error (.unreadableCatalog path reason)
  | .ok bytes =>
      match String.fromUTF8? ⟨bytes.toArray⟩ with
      | some text => .ok text
      | none => .error (.unreadableCatalog path "stream did not contain valid UTF-8")

def loadCatalog (file : String → Except String (List UInt8)) (settings : Settings) :
    Except Error Catalog :=
  match settings.catalog with
  | none => .ok Catalog.builtin
  | some path => do Catalog.ofText (← fileText path (file path))

/-- What a run has once its settings hold: a console, and the base URL it is connected to. -/
structure Connection (σ : Type) where
  console : Console σ
  base : BaseUrl

def connect {σ : Type} (world : World σ) (wire : σ) (settings : Settings) :
    Except (List String) (Connection σ) :=
  match loadCatalog world.file settings with
  | .error error => .error ("while loading the endpoint catalog" :: error.chain)
  | .ok catalog =>
      match BaseUrl.ofText settings.baseUrl with
      | .error error => .error (("while connecting to " ++ settings.baseUrl) :: error.chain)
      | .ok base => .ok ⟨.start catalog Watch.default settings.session wire, base⟩

def reporter {σ : Type} (world : World σ) : Reporter String :=
  ⟨.text, some world.clock⟩

inductive Stage (σ : Type) where
  | over (ending : Ending)
  | batch (transport : Transport σ) (console : Console σ) (action : Action)
  | prompting (transport : Transport σ) (prompt : Prompt σ String)

/-- Runs the program up to where it asks the network or reads input. -/
def start {σ : Type} (world : World σ) (wire : σ) (arguments : List String) : Stage σ :=
  match CommandLine.parse world.baseUrl arguments with
  | .error refusal => .over (refused refusal)
  | .ok (settings, action) =>
      match connect world wire settings with
      | .error chain => .over (failed "" chain)
      | .ok ⟨console, base⟩ =>
          let transport := Transport.overNetwork (world.network.limited settings.timeout) base
          match action with
          | .repl =>
              let prompt := Prompt.start console ""
              .prompting transport (prompt.write (reporter world) [.message Command.helpText])
          | action => .batch transport console action

/-- Carries out an action other than the prompt; gives the console as it is left. -/
def runBatch {σ : Type} (world : World σ) (transport : Transport σ) (console : Console σ)
    (action : Action) : Console σ × Ending :=
  match Batch.run (reporter world) transport ⟨console, ""⟩ action with
  | (state, .ok ()) => (state.console, ⟨0, state.out, ""⟩)
  | (state, .error failure) => (state.console, failed state.out failure.chain)

def runPrompt {σ : Type} (world : World σ) (transport : Transport σ) (prompt : Prompt σ String)
    (input : List UInt8) : Ending :=
  let arrivals := Input.arrivals (Input.atOnce input)
  let (read, held) := prompt.readArrivals (reporter world) transport [] arrivals
  ⟨0, (read.finish (reporter world) transport held).out, ""⟩

def run {σ : Type} (world : World σ) (wire : σ) (arguments : List String) (input : List UInt8) :
    Ending :=
  match start world wire arguments with
  | .over ending => ending
  | .batch transport console action => (runBatch world transport console action).2
  | .prompting transport prompt => runPrompt world transport prompt input

end Program

end ApiConsole
