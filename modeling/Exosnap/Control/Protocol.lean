/-
  The envelope of a control channel: one JSON object a line, in either of two protocol versions. A
  line is parsed into a request or into the failure it is answered with, and responses and events
  are built as the JSON objects that one line each carries.

  Modelled from src/libs/control/include/control/protocol.h and src/libs/control/src/protocol.cpp.
  `fromJson` stands for `QJsonDocument::fromJson`, with the parser's error text for a line that is
  no JSON. A number is the rational that its double denotes. `SerializeLine` writes an object on one
  line, so a line written to the pipe is kept as its object.
-/
import Mathlib.Data.Rat.Init
import Mathlib.Algebra.Order.Ring.Int

namespace Exosnap.Control

inductive JsonValue where
  | undefined
  | null
  | bool (value : Bool)
  | double (value : ℚ)
  | string (value : String)
  | array (values : List JsonValue)
  | object (fields : List (String × JsonValue))

abbrev JsonObject := List (String × JsonValue)

namespace JsonValue

def isUndefined : JsonValue → Bool
  | undefined => true
  | _ => false

def isNull : JsonValue → Bool
  | null => true
  | _ => false

def isBool : JsonValue → Bool
  | bool _ => true
  | _ => false

def isObject : JsonValue → Bool
  | object _ => true
  | _ => false

def toBool (default : Bool) : JsonValue → Bool
  | bool b => b
  | _ => default

def toObject : JsonValue → JsonObject
  | object fields => fields
  | _ => []

end JsonValue

namespace JsonObject

def value (object : JsonObject) (key : String) : JsonValue := (object.lookup key).getD .undefined

def insert (object : JsonObject) (key : String) (value : JsonValue) : JsonObject :=
  object.filter (fun field => field.1 != key) ++ [(key, value)]

end JsonObject

/-- `static_cast` of a JSON number to a signed type of so many bits cuts towards zero. A number out of
    range gives the least value of the type, as on x86-64. -/
def toInt (bits : Nat) (value : ℚ) : Int :=
  let cut := value.num.tdiv value.den
  if -2 ^ (bits - 1) ≤ cut ∧ cut < 2 ^ (bits - 1) then cut else -2 ^ (bits - 1)

def kMinimumProtocolVersion : Int := 1

def kLatestProtocolVersion : Int := 2

def IsSupportedProtocol (version : Int) : Bool :=
  version ≥ kMinimumProtocolVersion && version ≤ kLatestProtocolVersion

def kMaxRequestBytes : Nat := 64 * 1024

namespace error_code

def kMalformedRequest : String := "malformed_request"
def kRequestTooLarge : String := "request_too_large"
def kProtocolVersionMismatch : String := "protocol_version_mismatch"
def kRunIdMismatch : String := "run_id_mismatch"
def kHandshakeRequired : String := "handshake_required"
def kAlreadyHandshaken : String := "already_handshaken"
def kUnknownCommand : String := "unknown_command"
def kInvalidParams : String := "invalid_params"
def kCommandFailed : String := "command_failed"
def kInvalidState : String := "invalid_state"
def kBlocked : String := "blocked"
def kOperationFailed : String := "operation_failed"
def kUnavailable : String := "unavailable"
def kDispatchTimeout : String := "dispatch_timeout"

end error_code

open error_code in
/-- Sorted, as the source's list is. -/
def AllErrorCodes : List String :=
  [kAlreadyHandshaken, kBlocked, kCommandFailed, kDispatchTimeout, kHandshakeRequired,
   kInvalidParams, kInvalidState, kMalformedRequest, kOperationFailed, kProtocolVersionMismatch,
   kRequestTooLarge, kRunIdMismatch, kUnavailable, kUnknownCommand]

open error_code in
def ErrorCodeForProtocol (code : String) (protocol : Int) : String :=
  if protocol ≥ 2 then code
  else if code == kInvalidState || code == kBlocked || code == kOperationFailed then kCommandFailed
  else code

structure ParsedRequest where
  protocol : Int
  id : String
  command : String
  params : JsonObject
  includeState : Bool

structure ParseFailure where
  id : String
  protocol : Int
  code : String
  message : String

def RecoverId (object : JsonObject) : String :=
  match JsonObject.value object "id" with
  | .string id => id
  | .double id => toString (toInt 64 id)
  | _ => ""

open error_code in
def ParseRequest (fromJson : List UInt8 → Except String JsonValue) (line : List UInt8) :
    Except ParseFailure ParsedRequest :=
  if line.length > kMaxRequestBytes then
    .error ⟨"", kLatestProtocolVersion, kRequestTooLarge,
      s!"Request exceeds {kMaxRequestBytes} bytes"⟩
  else match fromJson line with
  | .error message => .error ⟨"", kLatestProtocolVersion, kMalformedRequest, message⟩
  | .ok (.object object) =>
      let id := RecoverId object
      match JsonObject.value object "protocol" with
      | .double protocol =>
          let requested := toInt 32 protocol
          if !IsSupportedProtocol requested then
            .error ⟨id, kLatestProtocolVersion, kProtocolVersionMismatch,
              s!"Server speaks protocol {kMinimumProtocolVersion}..{kLatestProtocolVersion}, " ++
                s!"client sent {requested}"⟩
          else match JsonObject.value object "command" with
          | .string command =>
              let params := JsonObject.value object "params"
              let includeState := JsonObject.value object "includeState"
              if command.isEmpty then
                .error ⟨id, requested, kMalformedRequest,
                  "Request has no non-empty string \"command\" field"⟩
              else if !params.isUndefined && !params.isNull && !params.isObject then
                .error ⟨id, requested, kInvalidParams, "\"params\" must be an object when present"⟩
              else if !includeState.isUndefined && !includeState.isNull && !includeState.isBool then
                .error ⟨id, requested, kInvalidParams,
                  "\"includeState\" must be a boolean when present"⟩
              else
                .ok ⟨requested, id, command, params.toObject,
                  requested ≥ 2 && includeState.toBool false⟩
          | _ =>
              .error ⟨id, requested, kMalformedRequest,
                "Request has no non-empty string \"command\" field"⟩
      | _ =>
          .error ⟨id, kLatestProtocolVersion, kMalformedRequest,
            "Request has no numeric \"protocol\" field"⟩
  | .ok _ =>
      .error ⟨"", kLatestProtocolVersion, kMalformedRequest, "Request is not a JSON object"⟩

structure SuccessEnvelope where
  protocol : Int
  id : String
  result : JsonObject
  stateRevision : Option Nat := none
  settled : Option Bool := none
  state : Option JsonObject := none

structure ErrorEnvelope where
  protocol : Int
  id : String
  code : String
  message : String
  requirements : JsonObject := []
  actual : JsonObject := []
  stateRevision : Option Nat := none

/-- A 64-bit revision travels as a double, exact below 2^53. -/
def revisionField (revision : Option Nat) : JsonObject :=
  (revision.map fun n => ("stateRevision", .double n)).toList

def MakeSuccessResponse (envelope : SuccessEnvelope) : JsonObject :=
  [("protocol", .double envelope.protocol), ("id", .string envelope.id), ("ok", .bool true),
   ("result", .object envelope.result)] ++ revisionField envelope.stateRevision ++
    (envelope.settled.map fun b => ("settled", .bool b)).toList ++
    (envelope.state.map fun state => ("state", .object state)).toList

def MakeErrorResponse (envelope : ErrorEnvelope) : JsonObject :=
  let error : JsonObject :=
    [("code", .string (ErrorCodeForProtocol envelope.code envelope.protocol)),
     ("message", .string envelope.message)] ++
      (if envelope.protocol ≥ 2 && !envelope.requirements.isEmpty then
        [("requires", .object envelope.requirements)] else []) ++
      (if envelope.protocol ≥ 2 && !envelope.actual.isEmpty then
        [("actual", .object envelope.actual)] else [])
  [("protocol", .double envelope.protocol), ("id", .string envelope.id), ("ok", .bool false),
   ("error", .object error)] ++ revisionField envelope.stateRevision

def MakeEvent (protocol : Int) (name : String) (data : JsonObject) (stateRevision : Option Nat) :
    JsonObject :=
  [("protocol", .double protocol), ("event", .string name), ("data", .object data)] ++
    (if protocol ≥ 2 then revisionField stateRevision else [])

end Exosnap.Control
