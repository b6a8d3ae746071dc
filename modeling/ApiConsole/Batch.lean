import ApiConsole.Prompt

/-!
# Batches

A batch carries out one action without an operator. It stops at the first endpoint that is unknown;
a request that fails is reported like any other.
-/

namespace ApiConsole

inductive Action where
  | list
  | compose (ids : List String)
  | fire (ids : List String) (concurrent : Bool)
  /-- The prompt, which is not a batch. -/
  | repl
  deriving DecidableEq, Repr

namespace Batch

inductive Failure where
  | composing (error : Error)
  | firing (id : String) (error : Error)
  | needsOperator

def Failure.chain : Failure → List String
  | .composing error => error.chain
  | .firing id error => ("while firing " ++ id) :: error.chain
  | .needsOperator => ["the interactive console is not a batch action"]

/-- A console and an output at some point of a batch. -/
structure State (σ ω : Type) where
  console : Console σ
  out : ω

variable {σ ω : Type}

def State.write (reporter : Reporter ω) (state : State σ ω) (record : Record) : State σ ω :=
  { state with out := reporter.sink.emit state.out [record] }

/-- The record of a composed request: its id behind a hash sign, and the request. -/
def compositionRecord (id : String) (request : Request) : Record :=
  .message ("# " ++ id ++ "\n" ++ request.display)

def composeAll (reporter : Reporter ω) (state : State σ ω) :
    List String → State σ ω × Except Failure Unit
  | [] => (state, .ok ())
  | id :: rest =>
      match state.console.compose id with
      | .error error => (state, .error (.composing error))
      | .ok request =>
          composeAll reporter (state.write reporter (compositionRecord id request)) rest

/-- Fires endpoints one after another, each when the one before it has been reported. -/
def fireAll (reporter : Reporter ω) (transport : Transport σ) (state : State σ ω) :
    List String → State σ ω × Except Failure Unit
  | [] => (state, .ok ())
  | id :: rest =>
      match state.console.fire transport id with
      | (console, .error error) => ({ state with console }, .error (.firing id error))
      | (console, .ok outcome) =>
          let record := reporter.recordOf id console.now (.ok outcome)
          fireAll reporter transport ({ state with console }.write reporter record) rest

/-- Reports results in order, up to the first that is an error. -/
def reportAll (reporter : Reporter ω) (state : State σ ω) :
    List (String × FireResult) → State σ ω × Except Failure Unit
  | [] => (state, .ok ())
  | (id, .error error) :: _ => (state, .error (.firing id error))
  | (id, .ok outcome) :: rest =>
      let record := reporter.recordOf id state.console.now (.ok outcome)
      reportAll reporter (state.write reporter record) rest

def run (reporter : Reporter ω) (transport : Transport σ) (state : State σ ω) :
    Action → State σ ω × Except Failure Unit
  | .list =>
      ({ state with out := reporter.sink.emit state.out state.console.catalog.records }, .ok ())
  | .compose ids => composeAll reporter state ids
  | .fire ids false => fireAll reporter transport state ids
  | .fire ids true =>
      let (console, results) := state.console.fireConcurrently transport ids
      reportAll reporter { state with console } (ids.zip results)
  | .repl => (state, .error .needsOperator)

end Batch

end ApiConsole
