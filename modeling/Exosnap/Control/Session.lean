/-
  The connection state machine of a control channel: which request a session answers how, and what
  answering it did. What a process supplies (its command table, its state, how it executes a
  command) is a `Process`.

  Modelled from src/libs/control/include/control/session.h, command_policy.h and
  src/libs/control/src/command_policy.cpp.
-/
import Exosnap.Control.Protocol

namespace Exosnap.Control

inductive Settle where
  | notApplicable
  | synchronous
  | asynchronous
deriving DecidableEq

structure PreconditionVerdict where
  code : String := ""
  message : String := ""
  requirements : JsonObject := []
  actual : JsonObject := []

def PreconditionVerdict.allowed (verdict : PreconditionVerdict) : Bool := verdict.code.isEmpty

/-- `type` is one of "string", "int", "bool", "enum" and "any"; any other one is not checked. -/
structure CommandParameter where
  name : String
  type : String
  required : Bool := false
  values : List String := []

structure CommandDescriptor (State : Type) where
  name : String
  minimumProtocol : Int := kMinimumProtocolVersion
  settle : Settle := .notApplicable
  parameters : List CommandParameter := []
  precondition : Option (State → PreconditionVerdict) := none

structure Outcome where
  ok : Bool := true
  result : JsonObject := []
  settled : Bool := true
  code : String := ""
  message : String := ""
  requirements : JsonObject := []
  actual : JsonObject := []

def ValidateParams (commandName : String) (params : JsonObject) :
    List CommandParameter → Option String
  | [] => none
  | parameter :: rest =>
    let quoted := "\"" ++ parameter.name ++ "\""
    match JsonObject.value params parameter.name with
    | .undefined | .null =>
        if parameter.required then some (commandName ++ " requires a " ++ quoted ++ " parameter")
        else ValidateParams commandName params rest
    | .string text =>
        if parameter.type == "string" && text.isEmpty then
          some (quoted ++ " must be a non-empty string")
        else if parameter.type == "int" then some (quoted ++ " must be a number")
        else if parameter.type == "bool" then some (quoted ++ " must be a boolean")
        else if parameter.type == "enum" && !parameter.values.contains text then
          some (quoted ++ " must be one of: " ++ ", ".intercalate parameter.values)
        else ValidateParams commandName params rest
    | value =>
        let isDouble := match value with | .double _ => true | _ => false
        if parameter.type == "string" then some (quoted ++ " must be a non-empty string")
        else if parameter.type == "int" && !isDouble then some (quoted ++ " must be a number")
        else if parameter.type == "bool" && !value.isBool then
          some (quoted ++ " must be a boolean")
        else if parameter.type == "enum" then
          some (quoted ++ " must be one of: " ++ ", ".intercalate parameter.values)
        else ValidateParams commandName params rest

/-- One call of `EmitEvent`: its name and data, and the revision the state source answers then. -/
structure Emission where
  name : String
  data : JsonObject := []
  revision : Option Nat := none

/-- The virtuals a process overrides. Executing a command may emit events on the way. -/
structure Process (α State : Type) where
  Identity : α → JsonObject
  Commands : List (CommandDescriptor State)
  EventNamesFor : Int → List String
  HasState : α → Bool
  StateValue : α → State
  Revision : α → Nat
  StateJson : State → Nat → JsonObject
  Execute : CommandDescriptor State → ParsedRequest → α → Outcome × α × List Emission

variable {α State : Type}

namespace Process

def FindCommandIn (process : Process α State) (name : String) : Option (CommandDescriptor State) :=
  process.Commands.find? fun command => command.name == name

def EvaluateIn (command : CommandDescriptor State) (state : State) : PreconditionVerdict :=
  match command.precondition with
  | none => {}
  | some precondition => precondition state

def CommandNamesFor (process : Process α State) (protocol : Int) : List String :=
  ((process.Commands.filter fun command => command.minimumProtocol ≤ protocol).map
    CommandDescriptor.name).mergeSort

end Process

structure ControlSession where
  runId : String
  negotiatedProtocol : Int := kMinimumProtocolVersion
  handshakeComplete : Bool := false
  poisoned : Bool := false

/-- What answering a request did, besides the response. -/
inductive Effect where
  | refused
  | poisoned
  | handshake (protocol : Int)
  | executed (command : String)
deriving DecidableEq

/-- The end of a `Dispatch`: the session and the application after it, the events emitted on the
    way and the response. -/
structure Dispatched (α : Type) where
  session : ControlSession
  app : α
  events : List Emission := []
  response : JsonObject
  effect : Effect := .refused

namespace ControlSession

def ResetSession (session : ControlSession) : ControlSession :=
  { session with
    handshakeComplete := false, poisoned := false, negotiatedProtocol := kMinimumProtocolVersion }

def stringArray (values : List String) : JsonValue := .array (values.map .string)

/-- What a hello is answered with, and what a protocol 2 client is told on top. -/
def helloResult (process : Process α State) (session : ControlSession) (protocol : Int) (app : α) :
    JsonObject :=
  let identity := if process.HasState app then process.Identity app else []
  let result := JsonObject.insert (JsonObject.insert (JsonObject.insert (JsonObject.insert identity
    "protocol" (.double protocol)) "runId" (.string session.runId))
    "commands" (stringArray (process.CommandNamesFor protocol)))
    "events" (stringArray (process.EventNamesFor protocol))
  if protocol ≥ 2 then
    JsonObject.insert (JsonObject.insert result "errorCodes" (stringArray AllErrorCodes))
      "supportedProtocols"
        (.array [.double kMinimumProtocolVersion, .double kLatestProtocolVersion])
  else result

open error_code in
def HandleHello (process : Process α State) (session : ControlSession) (app : α)
    (request : ParsedRequest) : Dispatched α :=
  let refuse (code message : String) : JsonObject :=
    MakeErrorResponse { protocol := request.protocol, id := request.id, code := code,
                        message := message }
  if session.handshakeComplete then
    { session, app, response := refuse kAlreadyHandshaken
        "This connection has already completed its handshake" }
  else match JsonObject.value request.params "runId" with
  | .string runId =>
      if runId ≠ session.runId then
        { session := { session with poisoned := true }, app, effect := .poisoned,
          response := refuse kRunIdMismatch "Run id does not match this process" }
      else
        { session := { session with
            handshakeComplete := true, negotiatedProtocol := request.protocol },
          app, effect := .handshake request.protocol,
          response := MakeSuccessResponse
            { protocol := request.protocol, id := request.id,
              result := helloResult process session request.protocol app,
              stateRevision := if request.protocol ≥ 2 && process.HasState app then
                some (process.Revision app) else none } }
  | _ =>
      { session, app, response := refuse kInvalidParams
          "system.hello requires a string \"runId\" parameter" }

open error_code in
/-- What a command that passed every check is answered with once it has been executed. -/
def executed (process : Process α State) (session : ControlSession) (app : α)
    (request : ParsedRequest) (command : CommandDescriptor State) : Dispatched α :=
  let (outcome, after, events) := process.Execute command request app
  let revision := if request.protocol ≥ 2 then some (process.Revision after) else none
  { session, app := after, events, effect := .executed command.name,
    response :=
      if !outcome.ok then
        MakeErrorResponse
          { protocol := request.protocol, id := request.id, code := outcome.code,
            message := outcome.message, requirements := outcome.requirements,
            actual := outcome.actual, stateRevision := revision }
      else
        MakeSuccessResponse
          { protocol := request.protocol, id := request.id, result := outcome.result,
            stateRevision := revision,
            settled := if request.protocol ≥ 2 && command.settle ≠ .notApplicable then
              some outcome.settled else none,
            state := if request.includeState then
              some (process.StateJson (process.StateValue after) (process.Revision after))
              else none } }

open error_code in
def Dispatch (process : Process α State) (session : ControlSession) (app : α)
    (request : ParsedRequest) : Dispatched α :=
  let refuse (code message : String) : JsonObject :=
    MakeErrorResponse { protocol := request.protocol, id := request.id, code := code,
                        message := message }
  if request.command == "system.hello" then HandleHello process session app request
  else if !session.handshakeComplete then
    { session, app, response := refuse kHandshakeRequired
        "system.hello must be the first command on a connection" }
  else if request.protocol ≠ session.negotiatedProtocol then
    { session := { session with poisoned := true }, app, effect := .poisoned,
      response := MakeErrorResponse
        { protocol := session.negotiatedProtocol, id := request.id,
          code := kProtocolVersionMismatch,
          message := s!"This connection negotiated protocol {session.negotiatedProtocol} at its " ++
            "handshake" } }
  else match process.FindCommandIn request.command with
  | none =>
      { session, app, response := refuse kUnknownCommand ("Unknown command: " ++ request.command) }
  | some command =>
      if command.minimumProtocol > request.protocol then
        { session, app, response := refuse kUnknownCommand
            ("Unknown command: " ++ request.command) }
      else if !process.HasState app then
        { session, app, response := refuse kUnavailable
            "No application state is bound to this server" }
      else match ValidateParams command.name request.params command.parameters with
      | some invalid => { session, app, response := refuse kInvalidParams invalid }
      | none =>
          let verdict := Process.EvaluateIn command (process.StateValue app)
          if !verdict.allowed then
            { session, app, response := MakeErrorResponse
                { protocol := request.protocol, id := request.id, code := verdict.code,
                  message := verdict.message, requirements := verdict.requirements,
                  actual := verdict.actual,
                  stateRevision := if request.protocol ≥ 2 then some (process.Revision app)
                    else none } }
          else executed process session app request command

/-- What a dispatch does to the session, by its effect. -/
structure Answers (session : ControlSession) (done : Dispatched α) : Prop where
  poisoned : done.session.poisoned = (session.poisoned || decide (done.effect = .poisoned))
  handshake : done.session.handshakeComplete = true → session.handshakeComplete = true ∨
    done.effect = .handshake done.session.negotiatedProtocol
  negotiated : done.session.negotiatedProtocol = session.negotiatedProtocol ∨
    done.effect = .handshake done.session.negotiatedProtocol
  agreed : ∀ protocol, done.effect = .handshake protocol →
    done.session.negotiatedProtocol = protocol
  executes : ∀ command, done.effect = .executed command → session.handshakeComplete = true

section
variable {process : Process α State} {session : ControlSession} {app : α}
  {request : ParsedRequest}

theorem Answers.refused {response : JsonObject} :
    Answers session { session, app, response : Dispatched α } :=
  ⟨(Bool.or_false _).symm, .inl, .inl rfl, nofun, nofun⟩

theorem Answers.poisons {response : JsonObject} :
    Answers session { session := { session with poisoned := true }, app, response,
                      effect := .poisoned : Dispatched α } :=
  ⟨(Bool.or_true _).symm, .inl, .inl rfl, nofun, nofun⟩

theorem handleHello_answers : Answers session (HandleHello process session app request) := by
  unfold HandleHello
  dsimp only
  split
  · exact Answers.refused
  · split
    · split
      · exact Answers.poisons
      · refine ⟨(Bool.or_false _).symm, fun _ => .inr rfl, .inr rfl, ?_, nofun⟩
        rintro protocol hprotocol
        injection hprotocol
    · exact Answers.refused

theorem dispatch_answers : Answers session (Dispatch process session app request) := by
  unfold Dispatch
  dsimp only
  split
  · exact handleHello_answers
  split
  · exact Answers.refused
  next hcomplete =>
  split
  · exact Answers.poisons
  split
  · exact Answers.refused
  split
  · exact Answers.refused
  split
  · exact Answers.refused
  split
  · exact Answers.refused
  split
  · exact Answers.refused
  · exact ⟨(Bool.or_false _).symm, .inl, .inl rfl, nofun, fun _ _ => by simpa using hcomplete⟩

end

end ControlSession

end Exosnap.Control
