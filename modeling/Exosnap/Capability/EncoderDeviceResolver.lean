/-
  `adapter_enum.h`, `adapter_capability.h` and `encoder_device_resolver.cpp`: the adapters of a
  machine with what their encoders were probed to do, the choice among them, and the capability set
  of one of them.

  A candidate index is `none` where the source has -1.
-/
import Exosnap.Capability.CapabilityBuilder
import Exosnap.Engine.EncoderDevice

namespace Exosnap.Capability

/-! ## Adapters -/

inductive AdapterVendor where
  | nvidia
  | amd
  | intel
  | other
  deriving DecidableEq, Repr

structure AdapterInfo where
  name : String := ""
  vendor : AdapterVendor := .other
  vendorId : UInt32 := 0
  deviceId : UInt32 := 0
  luid : Int64 := 0
  subsystemId : UInt32 := 0
  deriving DecidableEq, Repr

structure AdapterEncoderCapability where
  probed : Bool := false
  provenance : String := ""
  h264 : Bool := false
  hevc : Bool := false
  av1 : Bool := false
  yuv444H264 : Bool := false
  yuv444Hevc : Bool := false
  deriving DecidableEq, Repr

def codecSupported (capability : AdapterEncoderCapability) : VideoCodec → Bool
  | .av1 => capability.av1
  | .hevc => capability.hevc
  | .h264 => capability.h264

def chromaSupported (capability : AdapterEncoderCapability) (codec : VideoCodec) :
    ChromaSubsampling → Bool
  | .cs420 => true
  | .cs444 =>
      if codec = .h264 then capability.yuv444H264
      else if codec = .hevc then capability.yuv444Hevc
      else false
  | .cs422 => false

/-! ## Candidates -/

structure EncoderDeviceRequest where
  videoCodec : VideoCodec := .av1
  chroma : ChromaSubsampling := .cs420
  bitDepth : BitDepth := .bit8
  deriving DecidableEq, Repr

structure EncoderDeviceCandidate where
  adapter : AdapterInfo
  capability : AdapterEncoderCapability
  backend : Engine.EncoderBackend := .none
  supportsRequest : Bool := false
  unavailableReason : String := ""
  deriving DecidableEq, Repr

def EncoderDeviceCandidate.usable (candidate : EncoderDeviceCandidate) : Bool :=
  candidate.backend ≠ .none && candidate.supportsRequest

def unavailableReason (candidate : EncoderDeviceCandidate) (request : EncoderDeviceRequest) : String :=
  if candidate.backend = .none then
    "No encoder backend is implemented for this adapter in this build."
  else if !candidate.capability.probed then
    if candidate.capability.provenance.isEmpty then
      "The encoder capability probe did not complete on this adapter."
    else candidate.capability.provenance
  else if !codecSupported candidate.capability request.videoCodec then
    request.videoCodec.toString ++ " is not supported by this encoder on this adapter."
  else if request.chroma = .cs444 then
    "4:4:4 is not supported for " ++ request.videoCodec.toString ++ " on this adapter."
  else if request.chroma = .cs422 then "4:2:2 chroma is not implemented."
  else "This adapter cannot execute the requested format."

/-- The candidate that an adapter and its probe make. -/
def encoderDeviceCandidate (request : EncoderDeviceRequest) (adapter : AdapterInfo)
    (capability : AdapterEncoderCapability) : EncoderDeviceCandidate :=
  let candidate : EncoderDeviceCandidate := {
    adapter := adapter
    capability := capability
    backend := Engine.implementedEncoderBackendForVendorId adapter.vendorId
    supportsRequest :=
      Engine.implementedEncoderBackendForVendorId adapter.vendorId ≠ .none && capability.probed &&
        codecSupported capability request.videoCodec &&
        chromaSupported capability request.videoCodec request.chroma }
  if !candidate.supportsRequest then
    { candidate with unavailableReason := unavailableReason candidate request }
  else candidate

/-- As many candidates as the shorter list has members. -/
def buildEncoderDeviceCandidates (adapters : List AdapterInfo)
    (capabilities : List AdapterEncoderCapability) (request : EncoderDeviceRequest) :
    List EncoderDeviceCandidate :=
  List.zipWith (encoderDeviceCandidate request) adapters capabilities

def fingerprintFromAdapter (adapter : AdapterInfo) : Engine.EncoderDeviceFingerprint :=
  ⟨adapter.vendorId, adapter.deviceId, adapter.subsystemId, adapter.name⟩

def identityFromCandidate (candidate : EncoderDeviceCandidate) : Engine.PipelineAdapterIdentity where
  known := true
  luid := candidate.adapter.luid
  vendorId := candidate.adapter.vendorId
  backend := candidate.backend
  device := fingerprintFromAdapter candidate.adapter

/-- A LUID of 0 finds nothing. -/
def findCandidateByLuid (candidates : List EncoderDeviceCandidate) (luid : Int64) :
    Option EncoderDeviceCandidate :=
  if luid = 0 then none else candidates.find? (·.adapter.luid = luid)

/-! ## Resolution -/

structure EncoderDeviceResolution where
  resolved : Bool := false
  deferredToCapture : Bool := false
  candidateIndex : Option Nat := none
  reason : String := ""
  assignment : Engine.PipelineAdapterAssignment := {}
  validation : Engine.PipelineAssignmentValidation := {}
  deriving DecidableEq, Repr

/-- The role assignment with `selected`, and its validation. -/
def populateAssignment (result : EncoderDeviceResolution) (selected : EncoderDeviceCandidate)
    (candidates : List EncoderDeviceCandidate) (captureAdapterLuid : Int64)
    (captureAdapterKnown : Bool) : EncoderDeviceResolution :=
  let capture :=
    if captureAdapterKnown then
      match findCandidateByLuid candidates captureAdapterLuid with
      | some capture => identityFromCandidate capture
      | none => { result.assignment.capture with known := true, luid := captureAdapterLuid }
    else result.assignment.capture
  let assignment : Engine.PipelineAdapterAssignment := {
    capture := capture
    processing := identityFromCandidate selected
    encoder := identityFromCandidate selected }
  { result with
    assignment := assignment
    validation := Engine.validatePipelineAssignment {
      assignment := assignment
      transport := Engine.captureSurfaceTransportFor assignment.capture assignment.processing
      processingExecutable := selected.usable
      processingReason := selected.unavailableReason
      encoderExecutable := selected.usable
      encoderReason := selected.unavailableReason } }

/-- The indices of the candidates with the hardware identity of a device. -/
def hardwareMatches (candidates : List EncoderDeviceCandidate)
    (device : Engine.EncoderDeviceFingerprint) : List Nat :=
  candidates.findIdxs
    (fun candidate => Engine.sameHardwareIdentity (fingerprintFromAdapter candidate.adapter) device)

/-- The device of a preference, or a refusal. -/
def resolveExplicit (candidates : List EncoderDeviceCandidate)
    (device : Engine.EncoderDeviceFingerprint) (captureAdapterLuid : Int64)
    (captureAdapterKnown : Bool) : EncoderDeviceResolution :=
  match hardwareMatches candidates device with
  | [] => { reason := "The selected encoder device is not present on this system." }
  | [i] =>
      match candidates[i]? with
      | none => {}
      | some selected =>
          let result := populateAssignment { candidateIndex := some i } selected candidates
            captureAdapterLuid captureAdapterKnown
          if !selected.usable then { result with reason := selected.unavailableReason }
          else if captureAdapterKnown then
            { result with resolved := result.validation.ok, reason := result.validation.reason }
          else { result with resolved := true }
  | _ => { reason := "Multiple adapters match the selected encoder device and cannot be told " ++
      "apart. Choose Auto or select the device again." }

/-- The capture adapter, or a refusal. -/
def resolveAuto (candidates : List EncoderDeviceCandidate) (captureAdapterLuid : Int64)
    (captureAdapterKnown : Bool) : EncoderDeviceResolution :=
  if !captureAdapterKnown then {
    deferredToCapture := true
    reason := "Auto uses the capture adapter; it is resolved when recording starts." }
  else
    match candidates.findIdx? (·.adapter.luid = captureAdapterLuid) with
    | none => { reason := "No encoder-capable device matches the capture source." }
    | some i =>
        match candidates[i]? with
        | none => {}
        | some selected =>
            let result := populateAssignment { candidateIndex := some i } selected candidates
              captureAdapterLuid true
            if !result.validation.ok then { result with reason := result.validation.reason }
            else { result with resolved := true }

def resolveEncoderDevice (candidates : List EncoderDeviceCandidate)
    (preference : Engine.EncoderDevicePreference) (captureAdapterLuid : Int64)
    (captureAdapterKnown : Bool) : EncoderDeviceResolution :=
  match preference.mode with
  | .explicit => resolveExplicit candidates preference.device captureAdapterLuid captureAdapterKnown
  | .auto => resolveAuto candidates captureAdapterLuid captureAdapterKnown

/-! ## The capability set of an adapter -/

/-- The facts that a probe puts in the place of the base's. -/
def AdapterEncoderCapability.facts (capability : AdapterEncoderCapability) : NvidiaRuntimeFacts where
  nvencCodecProbed := capability.probed
  nvencH264 := capability.h264
  nvencHevc := capability.hevc
  nvencAv1 := capability.av1
  nvencYuv444H264 := capability.yuv444H264
  nvencYuv444Hevc := capability.yuv444Hevc

def withoutBackend (caps : CapabilitySet) : CapabilitySet :=
  let reason := "No encoder backend is implemented for this adapter in this build."
  { caps with
    videoCodecs := fun _ => some ⟨.notImplemented, reason⟩
    chroma444 := fun _ => some ⟨.notImplemented, reason⟩ }

/-- Overrides go where their video codec is not selectable. -/
def eraseOverrides (caps : CapabilitySet) : CapabilitySet :=
  { caps with comboOverrides := fun key =>
      if (caps.queryVideoCodec key.v).isSelectable then caps.comboOverrides key else none }

def capabilitySetForAdapter (base : CapabilitySet) (adapter : AdapterInfo)
    (capability : AdapterEncoderCapability) : CapabilitySet :=
  let result :=
    if adapter.vendor ≠ .nvidia then withoutBackend base
    else applyNvencYuv444Support (applyNvencCodecSupport base capability.facts) capability.facts
  eraseOverrides result

end Exosnap.Capability
