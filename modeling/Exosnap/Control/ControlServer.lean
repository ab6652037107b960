/-
  The transport of a control channel, as the step relation of its two threads. The pipe thread
  accepts one client at a time, cuts what it reads into lines, hands each request to the owning
  thread and waits for the answer with a timeout. The owning thread runs the queued dispatches and
  session resets in order, one at a time, and emits events of its own; what it emits goes through a
  queue that the pipe thread takes whole.

  Modelled from src/libs/control/src/control_server.cpp. A step is what one thread does between two
  points where the other may be seen: an atomic, the promise, the outbound queue under its lock, the
  event queue of the owning thread. The clients, the clock and the results of the pipe's reads and
  writes are the actions. Each request line has a ticket, its place among all lines read, and the
  model keeps what was read, dispatched and written as a history.
-/
import Exosnap.Control.Session
import Exosnap.Lib.StepRun

namespace Exosnap.Control

/-- A call queued on the owning thread. -/
inductive QueuedCall where
  | dispatch (connection ticket : Nat) (request : ParsedRequest)
  | resetSession

/-- A line of the outbound queue, in the version of its envelope; with it the connection that was
    seen connected when the event was emitted, and how many dispatches had run by then. -/
structure Outbound where
  line : JsonObject
  protocol : Int
  connection : Nat
  dispatches : Nat

/-- The response of a `Dispatch` that is still to be handed to the pipe thread. -/
structure Answering where
  ticket : Nat
  response : JsonObject

/-- What the owning thread is at: an `EmitEvent` between its check of the connected flag, its
    append and its signal, on its own or within a `Dispatch`; or a dispatch that has set its promise
    and not yet stored whether the connection is poisoned. -/
inductive OwnerStage where
  | idle
  | emitting (events : List Emission) (answering : Option Answering)
  | appending (line : Outbound) (events : List Emission) (answering : Option Answering)
  | signalling (events : List Emission) (answering : Option Answering)
  | storing (ticket : Nat)

inductive PipeStage where
  | connecting
  | connected
  | reading
  | flushing (lines : List Outbound)
  | refusing
  | parsing
  | waiting (ticket : Nat) (request : ParsedRequest)
  | responding (ticket : Nat) (response : JsonObject) (close : Bool)
  | leaving
  | requestingReset
  | draining
  | disconnecting
  | stopped

/-- The promise and the poisoned flag of the dispatch that the pipe thread waits for. -/
structure Promise where
  value : Option JsonObject := none
  poisoned : Bool := false

structure DispatchRecord where
  connection : Nat
  ticket : Nat
  effect : Effect

inductive Origin where
  | response (ticket : Nat)
  | requestTooLarge
  | event (line : Outbound)

structure Written where
  connection : Nat
  line : JsonObject
  origin : Origin

structure ControlServer (α : Type) where
  session : ControlSession
  app : α
  queue : List QueuedCall := []
  owner : OwnerStage := .idle
  clientConnected : Bool := false
  outbound : List Outbound := []
  outboundEvent : Bool := false
  stopping : Bool := false
  pipe : PipeStage := .connecting
  accumulator : List UInt8 := []
  promise : Promise := {}
  /-- How many clients have been accepted, so the number of the last one. -/
  connection : Nat := 0
  /-- The request lines read, each with its connection. -/
  lines : List (Nat × List UInt8) := []
  dispatched : List DispatchRecord := []
  written : List Written := []

inductive PipeAction where
  | connect (accepted : Bool)
  | read (chunk : List UInt8)
  | readFailed
  | takeOutbound
  | write (ok : Bool)
  | ready
  | timeout
  | stopSeen
  | advance

inductive OwnerAction (α : Type) where
  | run
  | emit (event : Emission)
  | change (app : α)
  | stop
  | advance

inductive Action (α : Type) where
  | pipe (action : PipeAction)
  | owner (action : OwnerAction α)

variable {α State : Type}

def kReadBufferBytes : Nat := 8192

def kDispatchTimeoutMs : Nat := 15000

/-- The bytes `QByteArray::trimmed` cuts off. -/
def isSpaceByte (byte : UInt8) : Bool := byte == 32 || (9 ≤ byte && byte ≤ 13)

/-- The first line of the accumulator, without its line end, and the bytes behind it. -/
def takeLine (accumulator : List UInt8) : Option (List UInt8 × List UInt8) :=
  match accumulator.span (· != 10) with
  | (_, []) => none
  | (line, _ :: rest) =>
      some (if line.getLast? = some 13 then line.dropLast else line, rest)

def PipeStage.awaits (ticket : Nat) : PipeStage → Bool
  | .waiting t _ => t == ticket
  | _ => false

namespace ControlServer

/-- Where `ServeLoop` starts, with a session no client has used. -/
def start (runId : String) (app : α) : ControlServer α := { session := { runId }, app }

/-- The connection that is open: accepted, and not yet on its way out. -/
def serving (s : ControlServer α) : Option Nat :=
  match s.pipe with
  | .connected | .reading | .flushing _ | .refusing | .parsing | .waiting _ _ | .responding _ _ _ =>
      some s.connection
  | _ => none

/-! ## The pipe thread -/

/-- The line loop: cut off the next line and hand it over, or go back to reading. -/
def parseNext (fromJson : List UInt8 → Except String JsonValue) (s : ControlServer α) :
    ControlServer α :=
  match takeLine s.accumulator with
  | none => { s with pipe := .reading }
  | some (line, rest) =>
      if line.all isSpaceByte then { s with accumulator := rest }
      else
        let ticket := s.lines.length
        let s := { s with accumulator := rest, lines := s.lines ++ [(s.connection, line)] }
        match ParseRequest fromJson line with
        | .ok request =>
            { s with
              pipe := .waiting ticket request, promise := {},
              queue := s.queue ++ [.dispatch s.connection ticket request] }
        | .error failure =>
            { s with
              pipe := .responding ticket
                (MakeErrorResponse { protocol := failure.protocol, id := failure.id,
                                     code := failure.code, message := failure.message })
                (failure.code == error_code.kProtocolVersionMismatch ||
                  failure.code == error_code.kRequestTooLarge) }

def pipeAdvance (fromJson : List UInt8 → Except String JsonValue) (s : ControlServer α) :
    Option (ControlServer α) :=
  match s.pipe with
  | .connected => some { s with clientConnected := true, pipe := .reading }
  | .flushing [] => some { s with pipe := .reading }
  | .parsing => some (s.parseNext fromJson)
  | .leaving => some { s with clientConnected := false, pipe := .requestingReset }
  | .requestingReset => some { s with queue := s.queue ++ [.resetSession], pipe := .draining }
  | .draining => some { s with outbound := [], outboundEvent := false, pipe := .disconnecting }
  | .disconnecting => some { s with pipe := .connecting }
  | _ => none

/-- `write_all`, of the line at hand. -/
def pipeWrite (s : ControlServer α) (ok : Bool) : Option (ControlServer α) :=
  match s.pipe with
  | .flushing (outbound :: rest) =>
      if ok then
        some { s with
          pipe := .flushing rest,
          written := s.written ++ [⟨s.connection, outbound.line, .event outbound⟩] }
      else some { s with pipe := .leaving }
  | .refusing =>
      let response := MakeErrorResponse
        { protocol := kLatestProtocolVersion, id := "", code := error_code.kRequestTooLarge,
          message := s!"Request exceeds {kMaxRequestBytes} bytes" }
      some { s with
        pipe := .leaving,
        written := if ok then s.written ++ [⟨s.connection, response, .requestTooLarge⟩]
          else s.written }
  | .responding ticket response close =>
      if ok then
        some { s with
          pipe := if close then .leaving else .parsing,
          written := s.written ++ [⟨s.connection, response, .response ticket⟩] }
      else some { s with pipe := .leaving }
  | _ => none

def pipeStep (fromJson : List UInt8 → Except String JsonValue) (s : ControlServer α) :
    PipeAction → Option (ControlServer α)
  | .connect accepted =>
      match s.pipe with
      | .connecting =>
          if accepted then
            some { s with pipe := .connected, connection := s.connection + 1, accumulator := [] }
          else some { s with pipe := .stopped }
      | _ => none
  | .read chunk =>
      match s.pipe with
      | .reading =>
          if chunk = [] ∨ kReadBufferBytes < chunk.length then none
          else
            let accumulator := s.accumulator ++ chunk
            some { s with
              accumulator,
              pipe := if accumulator.length > kMaxRequestBytes then .refusing else .parsing }
      | _ => none
  | .readFailed =>
      match s.pipe with
      | .reading => some { s with pipe := .leaving }
      | _ => none
  | .takeOutbound =>
      match s.pipe with
      | .reading =>
          if s.outboundEvent then
            some { s with pipe := .flushing s.outbound, outbound := [], outboundEvent := false }
          else none
      | _ => none
  | .write ok => s.pipeWrite ok
  | .ready =>
      match s.pipe with
      | .waiting ticket _ =>
          s.promise.value.map fun response =>
            { s with pipe := .responding ticket response s.promise.poisoned }
      | _ => none
  | .timeout =>
      match s.pipe with
      | .waiting ticket request =>
          some { s with
            pipe := .responding ticket (MakeErrorResponse
              { protocol := request.protocol, id := request.id, code := error_code.kDispatchTimeout,
                message := s!"The application did not answer within {kDispatchTimeoutMs} ms" })
              false }
      | _ => none
  | .stopSeen =>
      if s.stopping then
        match s.pipe with
        | .reading => some { s with pipe := .leaving }
        | .waiting ticket request =>
            some { s with
              pipe := .responding ticket (MakeErrorResponse
                { protocol := request.protocol, id := request.id, code := error_code.kUnavailable,
                  message := "The application is shutting down" })
                true }
        | _ => none
      else none
  | .advance => s.pipeAdvance fromJson

/-! ## The owning thread -/

/-- The line of an event, in the version and on the connection of this moment. -/
def eventLine (s : ControlServer α) (event : Emission) : Outbound :=
  { line := MakeEvent s.session.negotiatedProtocol event.name event.data event.revision
    protocol := s.session.negotiatedProtocol
    connection := s.connection
    dispatches := s.dispatched.length }

/-- The next queued call. A promise the pipe thread no longer waits for is nobody's. -/
def runNext (process : Process α State) (s : ControlServer α) : Option (ControlServer α) :=
  match s.queue with
  | [] => none
  | .resetSession :: rest => some { s with queue := rest, session := s.session.ResetSession }
  | .dispatch connection ticket request :: rest =>
      let done := s.session.Dispatch process s.app request
      some { s with
        queue := rest, session := done.session, app := done.app,
        owner := .emitting done.events (some ⟨ticket, done.response⟩),
        dispatched := s.dispatched ++ [⟨connection, ticket, done.effect⟩] }

def ownerAdvance (s : ControlServer α) : Option (ControlServer α) :=
  match s.owner with
  | .idle => none
  | .emitting [] none => some { s with owner := .idle }
  | .emitting [] (some answering) =>
      some { s with
        owner := .storing answering.ticket,
        promise := if s.pipe.awaits answering.ticket then
          { s.promise with value := some answering.response } else s.promise }
  | .emitting (event :: events) answering =>
      some { s with
        owner := if s.clientConnected then .appending (s.eventLine event) events answering
          else .emitting events answering }
  | .appending line events answering =>
      some { s with outbound := s.outbound ++ [line], owner := .signalling events answering }
  | .signalling events answering =>
      some { s with outboundEvent := true, owner := .emitting events answering }
  | .storing ticket =>
      some { s with
        owner := .idle,
        promise := if s.pipe.awaits ticket then
          { s.promise with poisoned := s.session.poisoned } else s.promise }

def ownerStep (process : Process α State) (s : ControlServer α) :
    OwnerAction α → Option (ControlServer α)
  | .run =>
      match s.owner with
      | .idle => s.runNext process
      | _ => none
  | .emit event =>
      match s.owner with
      | .idle => some { s with owner := .emitting [event] none }
      | _ => none
  | .change app =>
      match s.owner with
      | .idle => some { s with app }
      | _ => none
  | .stop =>
      match s.owner with
      | .idle => some { s with stopping := true }
      | _ => none
  | .advance => s.ownerAdvance

def step (fromJson : List UInt8 → Except String JsonValue) (process : Process α State)
    (s : ControlServer α) : Action α → Option (ControlServer α)
  | .pipe action => s.pipeStep fromJson action
  | .owner action => s.ownerStep process action

def exec (fromJson : List UInt8 → Except String JsonValue) (process : Process α State) :
    ControlServer α → List (Action α) → Option (ControlServer α) :=
  StepRun.exec (step fromJson process)

end ControlServer

end Exosnap.Control
