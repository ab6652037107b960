/-
  `encoder_device.h`: encoder backends, the identity of a device, the adapters in the roles of a
  pipeline, and the validation of such an assignment.
-/
import Mathlib.Tactic.Common

namespace Exosnap.Engine

inductive EncoderBackend where
  | none
  | nvenc
  deriving DecidableEq, Repr

def implementedEncoderBackendForVendorId (vendorId : UInt32) : EncoderBackend :=
  if vendorId = 0x10DE then .nvenc else .none

structure EncoderDeviceFingerprint where
  vendorId : UInt32 := 0
  deviceId : UInt32 := 0
  subsystemId : UInt32 := 0
  name : String := ""
  deriving DecidableEq, Repr

/-- The name is not part of the identity. -/
def sameHardwareIdentity (a b : EncoderDeviceFingerprint) : Bool :=
  a.vendorId == b.vendorId && a.deviceId == b.deviceId && a.subsystemId == b.subsystemId

inductive EncoderDevicePreference.Mode where
  | auto
  | explicit
  deriving DecidableEq, Repr

structure EncoderDevicePreference where
  mode : EncoderDevicePreference.Mode := .auto
  device : EncoderDeviceFingerprint := {}
  deriving DecidableEq, Repr

/-! ## Roles -/

structure PipelineAdapterIdentity where
  known : Bool := false
  luid : Int64 := 0
  vendorId : UInt32 := 0
  backend : EncoderBackend := .none
  device : EncoderDeviceFingerprint := {}
  deriving DecidableEq, Repr

structure PipelineAdapterAssignment where
  capture : PipelineAdapterIdentity := {}
  processing : PipelineAdapterIdentity := {}
  encoder : PipelineAdapterIdentity := {}
  deriving DecidableEq, Repr

inductive CaptureSurfaceTransport where
  | unknown
  | sameAdapter
  | crossAdapterUnsupported
  | crossAdapterShared
  deriving DecidableEq, Repr

def captureSurfaceTransportFor (capture processing : PipelineAdapterIdentity) :
    CaptureSurfaceTransport :=
  if !capture.known || !processing.known then .unknown
  else if capture.luid = processing.luid then .sameAdapter
  else .crossAdapterUnsupported

structure PipelineAssignmentFacts where
  assignment : PipelineAdapterAssignment := {}
  processingExecutable : Bool := false
  processingReason : String := ""
  encoderExecutable : Bool := false
  encoderReason : String := ""
  transport : CaptureSurfaceTransport := .unknown
  deriving DecidableEq, Repr

structure PipelineAssignmentValidation where
  ok : Bool := false
  reason : String := ""
  deriving DecidableEq, Repr

def validatePipelineAssignment (facts : PipelineAssignmentFacts) : PipelineAssignmentValidation :=
  if !facts.assignment.capture.known then ⟨false, "The capture adapter is not identified yet."⟩
  else if !facts.assignment.processing.known then
    ⟨false, "The selected processing device could not be resolved."⟩
  else if !facts.assignment.encoder.known then
    ⟨false, "The selected encoder device could not be resolved."⟩
  else if facts.transport ≠ .sameAdapter && facts.transport ≠ .crossAdapterShared then
    ⟨false, "The selected processing device is on a different adapter than the capture source; " ++
      "cross-adapter transport is not implemented."⟩
  else if !facts.processingExecutable then
    ⟨false, if facts.processingReason.isEmpty then
        "The selected processing device cannot run the pipeline."
      else facts.processingReason⟩
  else if !facts.encoderExecutable then
    ⟨false, if facts.encoderReason.isEmpty then
        "The selected encoder device cannot execute the requested format."
      else facts.encoderReason⟩
  else ⟨true, ""⟩

/-- An assignment is valid when its roles are known, its surfaces reach the processing adapter, and
    both devices can execute. -/
theorem validatePipelineAssignment_ok {facts : PipelineAssignmentFacts} :
    (validatePipelineAssignment facts).ok = true ↔
      (facts.assignment.capture.known = true ∧ facts.assignment.processing.known = true ∧
        facts.assignment.encoder.known = true) ∧
      (facts.transport = .sameAdapter ∨ facts.transport = .crossAdapterShared) ∧
      facts.processingExecutable = true ∧ facts.encoderExecutable = true := by
  unfold validatePipelineAssignment
  split_ifs <;> grind

theorem captureSurfaceTransportFor_same {capture processing : PipelineAdapterIdentity} :
    (captureSurfaceTransportFor capture processing = .sameAdapter ∨
        captureSurfaceTransportFor capture processing = .crossAdapterShared) ↔
      capture.known = true ∧ processing.known = true ∧ capture.luid = processing.luid := by
  unfold captureSurfaceTransportFor
  split_ifs <;> grind

end Exosnap.Engine
