/-
  `resolver.cpp`: changing one setting, and validating a whole configuration, with the fallbacks
  that make an unselectable combination selectable again.

  A fallback works on a configuration, its annotation and the adjustments so far; the fallbacks to
  4:2:0 and to 8 bits are one definition with the dimension as a parameter.
-/
import Exosnap.Capability.CapabilitySet

namespace Exosnap.Capability

/-! ## Results -/

structure Adjustment where
  field : String
  fromValue : String
  toValue : String
  reason : String
  deriving DecidableEq, Repr

structure Warning where
  code : String
  message : String
  deriving DecidableEq, Repr

structure InvalidReason where
  field : String
  message : String
  deriving DecidableEq, Repr

structure ResolveResult where
  succeeded : Bool := false
  resolvedConfig : UserRecorderConfig
  adjustments : List Adjustment := []
  warnings : List Warning := []
  invalidity : List InvalidReason := []
  deriving DecidableEq, Repr

def queryResolvedCombo (caps : CapabilitySet) (config : UserRecorderConfig) : SupportAnnotation :=
  caps.queryCombo config.container config.videoCodec config.audioCodec config.chroma config.bitDepth

def ResolveResult.addWarningForUnvalidated (result : ResolveResult) (note : SupportAnnotation) :
    ResolveResult :=
  if note.level = .validUnvalidated then
    { result with warnings := result.warnings ++ [⟨"combo.valid_unvalidated",
        if note.reason.isEmpty then
          "Selected combination is valid but not validated on this system."
        else note.reason⟩] }
  else result

def ResolveResult.addInvalid (result : ResolveResult) (reason : InvalidReason) : ResolveResult :=
  { result with succeeded := false, invalidity := result.invalidity ++ [reason] }

def ResolveResult.succeed (result : ResolveResult) (combo : SupportAnnotation) : ResolveResult :=
  { result with succeeded := true }.addWarningForUnvalidated combo

/-- `ValidateResolution`: the reason that it adds, if it fails. -/
def validateResolution (caps : CapabilitySet) (config : UserRecorderConfig) : Option InvalidReason :=
  let constraint := caps.resolutionConstraint
  let width := config.outputWidth
  let height := config.outputHeight
  if config.frameRateNum = 0 || config.frameRateDen = 0 then
    some ⟨"frame_rate", "frame_rate_num and frame_rate_den must both be non-zero."⟩
  else if (width == 0) != (height == 0) then
    some ⟨if width = 0 then "output_width" else "output_height",
      "Output width and height must both be zero or both be non-zero."⟩
  else if constraint.maxWidth ≠ 0 && width > constraint.maxWidth then
    some ⟨"output_width", "Requested width exceeds maximum supported width."⟩
  else if constraint.maxHeight ≠ 0 && height > constraint.maxHeight then
    some ⟨"output_height", "Requested height exceeds maximum supported height."⟩
  else if constraint.mustBeEven && width ≠ 0 && width % 2 ≠ 0 then
    some ⟨"output_width", "Width must be even when non-zero."⟩
  else if constraint.mustBeEven && height ≠ 0 && height % 2 ≠ 0 then
    some ⟨"output_height", "Height must be even when non-zero."⟩
  else none

def finalizeSelectableResult (caps : CapabilitySet) (result : ResolveResult) (field : String) :
    ResolveResult :=
  match validateResolution caps result.resolvedConfig with
  | some reason => result.addInvalid reason
  | none =>
      let combo := queryResolvedCombo caps result.resolvedConfig
      if !combo.isSelectable then
        result.addInvalid ⟨field,
          if combo.reason.isEmpty then "The requested configuration is not selectable."
          else combo.reason⟩
      else result.succeed combo

/-! ## Fallbacks -/

/-- A configuration on its way to a selectable one. -/
structure Fallback where
  config : UserRecorderConfig
  combo : SupportAnnotation
  adjustments : List Adjustment := []
  deriving DecidableEq, Repr

def Fallback.result (f : Fallback) : ResolveResult :=
  { resolvedConfig := f.config, adjustments := f.adjustments }

/-- A dimension with a mode that every codec has. -/
structure Dimension (α : Type) where
  field : String
  get : UserRecorderConfig → α
  set : α → UserRecorderConfig → UserRecorderConfig
  basic : α
  query : CapabilitySet → α → SupportAnnotation
  toString : α → String
  unavailable : String

def chromaDimension : Dimension ChromaSubsampling where
  field := "chroma"
  get config := config.chroma
  set chroma config := { config with chroma := chroma }
  basic := .cs420
  query := CapabilitySet.queryChroma
  toString := ChromaSubsampling.toString
  unavailable := "Fallback chroma 4:2:0 is not selectable."

def bitDepthDimension : Dimension BitDepth where
  field := "bit_depth"
  get config := config.bitDepth
  set bitDepth config := { config with bitDepth := bitDepth }
  basic := .bit8
  query := CapabilitySet.queryBitDepth
  toString := BitDepth.toString
  unavailable := "Fallback bit depth 8-bit is not selectable."

/-- To the basic mode of a dimension, where the combination is not selectable yet. -/
def fallbackTo {α : Type} [DecidableEq α] (d : Dimension α) (caps : CapabilitySet) (reason : String)
    (f : Fallback) : Except (Fallback × InvalidReason) Fallback :=
  if !f.combo.isSelectable && d.get f.config ≠ d.basic then
    if !(d.query caps d.basic).isSelectable then .error (f, ⟨d.field, d.unavailable⟩)
    else
      let config := d.set d.basic f.config
      .ok {
        config := config
        combo := queryResolvedCombo caps config
        adjustments := f.adjustments ++
          [⟨d.field, d.toString (d.get f.config), d.toString d.basic, reason⟩] }
  else .ok f

/-- A fallback leaves what needs none, or sets the basic mode and says so. -/
theorem fallbackTo_ok {α : Type} [DecidableEq α] {d : Dimension α} {caps : CapabilitySet}
    {reason : String} {f g : Fallback} (h : fallbackTo d caps reason f = .ok g) :
    (g = f ∧ (f.combo.isSelectable = true ∨ d.get f.config = d.basic)) ∨
      (f.combo.isSelectable = false ∧ d.get f.config ≠ d.basic ∧
        (d.query caps d.basic).isSelectable = true ∧
        g = {
          config := d.set d.basic f.config
          combo := queryResolvedCombo caps (d.set d.basic f.config)
          adjustments := f.adjustments ++
            [⟨d.field, d.toString (d.get f.config), d.toString d.basic, reason⟩] }) := by
  unfold fallbackTo at h
  split at h
  · rename_i hneeded
    simp only [Bool.and_eq_true, Bool.not_eq_true', decide_eq_true_eq] at hneeded
    split at h
    · exact nomatch h
    · rename_i hquery
      exact .inr ⟨hneeded.1, hneeded.2, by simpa using hquery, (Except.ok.inj h).symm⟩
  · rename_i hnot
    refine .inl ⟨(Except.ok.inj h).symm, ?_⟩
    by_cases hselectable : f.combo.isSelectable = true
    · exact .inl hselectable
    · exact .inr (by simpa [hselectable] using hnot)

/-- Chroma first, then bit depth. -/
def fallbackFormat (caps : CapabilitySet) (chromaReason bitDepthReason : String) (f : Fallback) :
    Except (Fallback × InvalidReason) Fallback := do
  let f ← fallbackTo chromaDimension caps chromaReason f
  fallbackTo bitDepthDimension caps bitDepthReason f

theorem fallbackFormat_ok {caps : CapabilitySet} {chromaReason bitDepthReason : String}
    {f g : Fallback} (h : fallbackFormat caps chromaReason bitDepthReason f = .ok g) :
    ∃ f', fallbackTo chromaDimension caps chromaReason f = .ok f' ∧
      fallbackTo bitDepthDimension caps bitDepthReason f' = .ok g := by
  unfold fallbackFormat at h
  cases hchroma : fallbackTo chromaDimension caps chromaReason f with
  | error e =>
    rw [hchroma] at h
    exact nomatch h
  | ok f' =>
    rw [hchroma] at h
    exact ⟨f', rfl, h⟩

/-! ## One change -/

inductive RequestedChange where
  | container (value : Container)
  | videoCodec (value : VideoCodec)
  | audioCodec (value : AudioCodec)
  | chroma (value : ChromaSubsampling)
  | bitDepth (value : BitDepth)
  | resolution (width height : UInt32)
  deriving DecidableEq, Repr

/-- The configuration with the change made. -/
def RequestedChange.applyTo (current : UserRecorderConfig) : RequestedChange → UserRecorderConfig
  | container value => { current with container := value }
  | videoCodec value => { current with videoCodec := value }
  | audioCodec value => { current with audioCodec := value }
  | chroma value => { current with chroma := value }
  | bitDepth value => { current with bitDepth := value }
  | resolution width height => { current with outputWidth := width, outputHeight := height }

/-- `ResolveChange` to a container: the preferred audio codec, or both preferred codecs. -/
def resolveContainer (caps : CapabilitySet) (config : UserRecorderConfig) : ResolveResult :=
  let result : ResolveResult := { resolvedConfig := config }
  if (queryResolvedCombo caps config).isSelectable then
    finalizeSelectableResult caps result "container"
  else
    let preferredAudio := ContainerCompatRegistry.preferredAudioCodec config.container
    let preferredVideo := ContainerCompatRegistry.preferredVideoCodec config.container
    let withAudio := { config with audioCodec := preferredAudio }
    let withBoth := { config with videoCodec := preferredVideo, audioCodec := preferredAudio }
    if config.audioCodec ≠ preferredAudio && (queryResolvedCombo caps withAudio).isSelectable then
      finalizeSelectableResult caps {
        result with
        adjustments := [⟨"audio_codec", config.audioCodec.toString, preferredAudio.toString,
          "Adjusted to preferred codec for selected container."⟩]
        resolvedConfig := withAudio } "container"
    else if config.videoCodec ≠ preferredVideo && (queryResolvedCombo caps withBoth).isSelectable then
      finalizeSelectableResult caps {
        result with
        adjustments :=
          [⟨"video_codec", config.videoCodec.toString, preferredVideo.toString,
            "Adjusted video codec to preferred for selected container."⟩] ++
          (if config.audioCodec ≠ preferredAudio then
            [⟨"audio_codec", config.audioCodec.toString, preferredAudio.toString,
              "Adjusted audio codec to preferred for selected container."⟩]
          else [])
        resolvedConfig := withBoth } "container"
    else result.addInvalid ⟨"container",
      "Container requires codec fallback, but no selectable combination was found."⟩

/-- `ResolveChange` to a video codec: 4:2:0, then 8 bits. -/
def resolveVideoCodec (caps : CapabilitySet) (config : UserRecorderConfig) : ResolveResult :=
  match fallbackFormat caps "Adjusted to supported chroma for selected video codec."
      "Adjusted to supported bit depth for selected video codec."
      { config := config, combo := queryResolvedCombo caps config } with
  | .error (f, reason) => f.result.addInvalid reason
  | .ok f =>
      if !f.combo.isSelectable then
        f.result.addInvalid ⟨"video_codec",
          if f.combo.reason.isEmpty then "Requested video codec combination is not selectable."
          else f.combo.reason⟩
      else match validateResolution caps f.config with
        | some reason => f.result.addInvalid reason
        | none => f.result.succeed f.combo

def resolveChange (caps : CapabilitySet) (current : UserRecorderConfig) (change : RequestedChange) :
    ResolveResult :=
  let config := change.applyTo current
  match change with
  | .container _ => resolveContainer caps config
  | .videoCodec _ => resolveVideoCodec caps config
  | .audioCodec _ => finalizeSelectableResult caps { resolvedConfig := config } "audio_codec"
  | .chroma _ => finalizeSelectableResult caps { resolvedConfig := config } "chroma"
  | .bitDepth _ => finalizeSelectableResult caps { resolvedConfig := config } "bit_depth"
  | .resolution _ _ => finalizeSelectableResult caps { resolvedConfig := config } "resolution"

/-! ## A whole configuration -/

/-- The audio fallback of `ValidateConfig`, which tries 4:2:0 and 8 bits on top of it. -/
def fallbackAudio (caps : CapabilitySet) (f : Fallback) :
    Except (Fallback × InvalidReason) Fallback :=
  if f.combo.isSelectable then .ok f
  else
    let vAnn := caps.queryVideoCodec f.config.videoCodec
    if !vAnn.isSelectable then
      .error (f, ⟨"video_codec",
        if vAnn.reason.isEmpty then "Selected video codec is not available on this system."
        else vAnn.reason⟩)
    else
      let preferred := ContainerCompatRegistry.preferredAudioCodec f.config.container
      if f.config.audioCodec = preferred then .ok f
      else
        let candidate := { f.config with audioCodec := preferred }
        match fallbackFormat caps "Adjusted to supported chroma while validating profile."
            "Adjusted to supported bit depth while validating profile." {
              config := candidate
              combo := queryResolvedCombo caps candidate
              adjustments := f.adjustments ++ [⟨"audio_codec", f.config.audioCodec.toString,
                preferred.toString, "Adjusted to preferred codec for selected container."⟩] } with
        | .error (_, reason) => .error (f, reason)
        | .ok g =>
            if g.combo.isSelectable then .ok g
            else .error (f, ⟨"audio_codec",
              "Container requires audio fallback, but preferred codec is not selectable: " ++
                g.combo.reason⟩)

/-- The fallbacks of `ValidateConfig`. -/
def fallbackConfig (caps : CapabilitySet) (config : UserRecorderConfig) :
    Except (Fallback × InvalidReason) Fallback := do
  let f ← fallbackAudio caps { config := config, combo := queryResolvedCombo caps config }
  fallbackFormat caps "Adjusted to supported chroma for selected video codec."
    "Adjusted to supported bit depth for selected video codec." f

def validateConfig (caps : CapabilitySet) (config : UserRecorderConfig) : ResolveResult :=
  match validateResolution caps config with
  | some reason => ({ resolvedConfig := config } : ResolveResult).addInvalid reason
  | none =>
      match fallbackConfig caps config with
      | .error (f, reason) => f.result.addInvalid reason
      | .ok f =>
          if !f.combo.isSelectable then
            f.result.addInvalid ⟨"config",
              if f.combo.reason.isEmpty then "Configuration is not selectable." else f.combo.reason⟩
          else f.result.succeed f.combo

end Exosnap.Capability
