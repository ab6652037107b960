/-
  What a successful resolution has come to: a selectable configuration that needs no further
  adjustment, and adjustments that are exactly the differences to what was asked for.
-/
import Exosnap.Capability.SettingsResolver

namespace Exosnap.Capability

/-! ## Fields and what is reported of them -/

/-- The settings that have a name in adjustments. -/
inductive Field where
  | container
  | videoCodec
  | audioCodec
  | chroma
  | bitDepth
  deriving DecidableEq, Repr

namespace Field

def name : Field → String
  | container => "container"
  | videoCodec => "video_codec"
  | audioCodec => "audio_codec"
  | chroma => "chroma"
  | bitDepth => "bit_depth"

def read (config : UserRecorderConfig) : Field → String
  | container => config.container.toString
  | videoCodec => config.videoCodec.toString
  | audioCodec => config.audioCodec.toString
  | chroma => config.chroma.toString
  | bitDepth => config.bitDepth.toString

def Same (a b : UserRecorderConfig) : Field → Prop
  | container => a.container = b.container
  | videoCodec => a.videoCodec = b.videoCodec
  | audioCodec => a.audioCodec = b.audioCodec
  | chroma => a.chroma = b.chroma
  | bitDepth => a.bitDepth = b.bitDepth

instance (a b : UserRecorderConfig) (field : Field) : Decidable (field.Same a b) :=
  match field with
  | container => inferInstanceAs (Decidable (a.container = b.container))
  | videoCodec => inferInstanceAs (Decidable (a.videoCodec = b.videoCodec))
  | audioCodec => inferInstanceAs (Decidable (a.audioCodec = b.audioCodec))
  | chroma => inferInstanceAs (Decidable (a.chroma = b.chroma))
  | bitDepth => inferInstanceAs (Decidable (a.bitDepth = b.bitDepth))

end Field

/-- The adjustments are the differences: each field that differs is listed once, from what was
    requested to what it is resolved to, and none that does not. -/
structure Reported (requested resolved : UserRecorderConfig) (adjustments : List Adjustment) :
    Prop where
  others : resolved = { requested with
    container := resolved.container, videoCodec := resolved.videoCodec
    audioCodec := resolved.audioCodec, chroma := resolved.chroma, bitDepth := resolved.bitDepth }
  changed : ∀ field : Field, ¬ field.Same requested resolved →
    ∃ a, adjustments.filter (·.field = field.name) = [a] ∧
      a.fromValue = field.read requested ∧ a.toValue = field.read resolved
  named : ∀ a ∈ adjustments, ∃ field : Field, a.field = field.name ∧ ¬ field.Same requested resolved

/-- A success on a request. -/
structure Settled (caps : CapabilitySet) (requested : UserRecorderConfig) (r : ResolveResult) :
    Prop where
  selectable : (queryResolvedCombo caps r.resolvedConfig).isSelectable = true
  resolution : validateResolution caps r.resolvedConfig = none
  again : (validateConfig caps r.resolvedConfig).succeeded = true ∧
    (validateConfig caps r.resolvedConfig).adjustments = [] ∧
    (validateConfig caps r.resolvedConfig).resolvedConfig = r.resolvedConfig
  reported : Reported requested r.resolvedConfig r.adjustments

/-! ## Differences in the order of the ladders -/

/-- What an adjustment of a field says, if it differs. -/
def difference (requested resolved : UserRecorderConfig) (field : Field) :
    List (String × String × String) :=
  if field.Same requested resolved then []
  else [(field.name, field.read requested, field.read resolved)]

/-- All differences, in the order of every ladder. -/
def changes (requested resolved : UserRecorderConfig) : List (String × String × String) :=
  difference requested resolved .videoCodec ++ difference requested resolved .audioCodec ++
    difference requested resolved .chroma ++ difference requested resolved .bitDepth

def Adjustment.told (a : Adjustment) : String × String × String :=
  (a.field, a.fromValue, a.toValue)

theorem mem_difference {requested resolved : UserRecorderConfig} {field : Field}
    {t : String × String × String} :
    t ∈ difference requested resolved field ↔
      ¬ field.Same requested resolved ∧ t = (field.name, field.read requested, field.read resolved) := by
  unfold difference
  split
  · simp_all
  · simp_all

theorem filter_difference {requested resolved : UserRecorderConfig} {field other : Field} :
    (difference requested resolved other).filter (·.1 = field.name) =
      if other = field then difference requested resolved field else [] := by
  have hname : other.name = field.name ↔ other = field := by
    cases other <;> cases field <;> decide
  unfold difference
  split
  · split
    · simp_all
    · rfl
  · by_cases h : other = field
    · subst h
      simp_all
    · simp_all

theorem filter_changes {requested resolved : UserRecorderConfig} {field : Field}
    (hsame : Field.Same requested resolved .container) :
    (changes requested resolved).filter (·.1 = field.name) = difference requested resolved field := by
  unfold changes
  simp only [List.filter_append, filter_difference]
  cases field with
  | container => simp [difference, hsame]
  | videoCodec => simp
  | audioCodec => simp
  | chroma => simp
  | bitDepth => simp

/-- Adjustments that say what has changed report it. -/
theorem reported_of_changes {requested resolved : UserRecorderConfig} {adjustments : List Adjustment}
    (hothers : resolved = { requested with
      videoCodec := resolved.videoCodec, audioCodec := resolved.audioCodec
      chroma := resolved.chroma, bitDepth := resolved.bitDepth })
    (htold : adjustments.map Adjustment.told = changes requested resolved) :
    Reported requested resolved adjustments := by
  have hcontainer : Field.Same requested resolved .container := by
    rw [hothers]
    rfl
  refine ⟨?_, fun field hchanged => ?_, fun a ha => ?_⟩
  · rw [hothers]
  · have hfilter : (adjustments.filter (·.field = field.name)).map Adjustment.told =
        difference requested resolved field := by
      rw [← filter_changes hcontainer, ← htold, List.filter_map]
      rfl
    rw [difference, if_neg hchanged] at hfilter
    obtain ⟨a, l, hal, htold', hl⟩ := List.map_eq_cons_iff.mp hfilter
    rw [List.map_eq_nil_iff.mp hl] at hal
    refine ⟨a, hal, ?_⟩
    simp only [Adjustment.told, Prod.mk.injEq] at htold'
    exact htold'.2
  · have hmem : a.told ∈ changes requested resolved := htold ▸ List.mem_map_of_mem ha
    simp only [changes, List.mem_append, mem_difference] at hmem
    have hfield : ∀ field : Field, ¬ field.Same requested resolved ∧
        a.told = (field.name, field.read requested, field.read resolved) →
        ∃ field : Field, a.field = field.name ∧ ¬ field.Same requested resolved :=
      fun field h => ⟨field, congrArg Prod.fst h.2, h.1⟩
    rcases hmem with ((h | h) | h) | h
    · exact hfield _ h
    · exact hfield _ h
    · exact hfield _ h
    · exact hfield _ h

/-! ## Ladders -/

/-- Where a ladder stands on a request: the annotation is that of its configuration, and its
    adjustments say what has changed. -/
structure Traced (caps : CapabilitySet) (requested : UserRecorderConfig) (f : Fallback) : Prop where
  combo : f.combo = queryResolvedCombo caps f.config
  others : f.config = { requested with
    videoCodec := f.config.videoCodec, audioCodec := f.config.audioCodec
    chroma := f.config.chroma, bitDepth := f.config.bitDepth }
  told : f.adjustments.map Adjustment.told = changes requested f.config

variable {caps : CapabilitySet} {requested : UserRecorderConfig} {f g : Fallback} {reason : String}

theorem difference_same {a b : UserRecorderConfig} {field : Field} (h : field.Same a b) :
    difference a b field = [] := if_pos h

theorem difference_changed {a b : UserRecorderConfig} {field : Field} (h : ¬ field.Same a b) :
    difference a b field = [(field.name, field.read a, field.read b)] := if_neg h

theorem Traced.chroma (h : Traced caps requested f) (hchroma : f.config.chroma = requested.chroma)
    (hdepth : f.config.bitDepth = requested.bitDepth)
    (hg : fallbackTo chromaDimension caps reason f = .ok g) :
    Traced caps requested g ∧ g.config.bitDepth = requested.bitDepth := by
  rcases fallbackTo_ok hg with ⟨rfl, _⟩ | ⟨_, hne, _, rfl⟩
  · exact ⟨h, hdepth⟩
  refine ⟨⟨rfl, ?_, ?_⟩, hdepth⟩
  · show { f.config with chroma := ChromaSubsampling.cs420 } = _
    conv_lhs => rw [h.others]
    rfl
  · have hsame : Field.Same requested f.config .chroma := hchroma.symm
    have hsameDepth : Field.Same requested f.config .bitDepth := hdepth.symm
    have hbefore : changes requested f.config =
        difference requested f.config .videoCodec ++ difference requested f.config .audioCodec := by
      unfold changes
      rw [difference_same hsame, difference_same hsameDepth, List.append_nil, List.append_nil]
    have hafter : changes requested { f.config with chroma := .cs420 } =
        difference requested f.config .videoCodec ++ difference requested f.config .audioCodec ++
          difference requested { f.config with chroma := .cs420 } .chroma ++
          difference requested f.config .bitDepth := rfl
    have hchanged : ¬ Field.Same requested { f.config with chroma := .cs420 } .chroma :=
      fun hsame => hne (hchroma.trans hsame)
    have hread : Field.read requested .chroma = f.config.chroma.toString :=
      congrArg ChromaSubsampling.toString hsame
    show (f.adjustments ++ [_]).map Adjustment.told = changes requested { f.config with chroma := .cs420 }
    rw [List.map_append, h.told, hafter, hbefore, difference_changed hchanged,
      difference_same hsameDepth, List.append_nil, hread]
    rfl

theorem Traced.bitDepth (h : Traced caps requested f)
    (hdepth : f.config.bitDepth = requested.bitDepth)
    (hg : fallbackTo bitDepthDimension caps reason f = .ok g) : Traced caps requested g := by
  rcases fallbackTo_ok hg with ⟨rfl, _⟩ | ⟨_, hne, _, rfl⟩
  · exact h
  refine ⟨rfl, ?_, ?_⟩
  · show { f.config with bitDepth := BitDepth.bit8 } = _
    conv_lhs => rw [h.others]
    rfl
  · have hsame : Field.Same requested f.config .bitDepth := hdepth.symm
    have hafter : changes requested { f.config with bitDepth := .bit8 } =
        difference requested f.config .videoCodec ++ difference requested f.config .audioCodec ++
          difference requested f.config .chroma ++
          difference requested { f.config with bitDepth := .bit8 } .bitDepth := rfl
    have hbefore : changes requested f.config =
        difference requested f.config .videoCodec ++ difference requested f.config .audioCodec ++
          difference requested f.config .chroma := by
      unfold changes
      rw [difference_same hsame, List.append_nil]
    have hchanged : ¬ Field.Same requested { f.config with bitDepth := .bit8 } .bitDepth :=
      fun hsame => hne (hdepth.trans hsame)
    have hread : Field.read requested .bitDepth = f.config.bitDepth.toString :=
      congrArg BitDepth.toString hsame
    show (f.adjustments ++ [_]).map Adjustment.told = changes requested { f.config with bitDepth := .bit8 }
    rw [List.map_append, h.told, hafter, hbefore, difference_changed hchanged, hread]
    rfl

theorem Traced.format {chromaReason bitDepthReason : String} (h : Traced caps requested f)
    (hchroma : f.config.chroma = requested.chroma) (hdepth : f.config.bitDepth = requested.bitDepth)
    (hg : fallbackFormat caps chromaReason bitDepthReason f = .ok g) : Traced caps requested g := by
  obtain ⟨f', hf', hg⟩ := fallbackFormat_ok hg
  obtain ⟨htraced, hdepth⟩ := h.chroma hchroma hdepth hf'
  exact htraced.bitDepth hdepth hg

/-- A ladder that stands on something selectable stays there. -/
theorem fallbackFormat_of_selectable {chromaReason bitDepthReason : String}
    (h : f.combo.isSelectable = true) :
    fallbackFormat caps chromaReason bitDepthReason f = .ok f := by
  unfold fallbackFormat fallbackTo
  rw [if_neg (by simp [h])]
  show (if _ then _ else _) = _
  rw [if_neg (by simp [h])]

@[simp] theorem Field.same_self (config : UserRecorderConfig) (field : Field) :
    field.Same config config := by
  cases field <;> rfl

/-- Other codecs, with an adjustment for each that differs. -/
theorem Traced.codecs {config : UserRecorderConfig} {video : VideoCodec} {audio : AudioCodec}
    {adjustments : List Adjustment}
    (htold : adjustments.map Adjustment.told =
      difference config { config with videoCodec := video, audioCodec := audio } .videoCodec ++
        difference config { config with videoCodec := video, audioCodec := audio } .audioCodec) :
    Traced caps config {
      config := { config with videoCodec := video, audioCodec := audio }
      combo := queryResolvedCombo caps { config with videoCodec := video, audioCodec := audio }
      adjustments := adjustments } := by
  refine ⟨rfl, rfl, htold.trans ?_⟩
  have hchroma : Field.Same config { config with videoCodec := video, audioCodec := audio } .chroma := rfl
  have hdepth : Field.Same config { config with videoCodec := video, audioCodec := audio } .bitDepth := rfl
  unfold changes
  rw [difference_same hchroma, difference_same hdepth, List.append_nil, List.append_nil]

theorem Traced.start (caps : CapabilitySet) (requested : UserRecorderConfig) :
    Traced caps requested { config := requested, combo := queryResolvedCombo caps requested } :=
  Traced.codecs (by simp [difference_same])

/-- Another audio codec alone. -/
theorem Traced.audio {config : UserRecorderConfig} {audio : AudioCodec} {reason : String}
    (hchanged : config.audioCodec ≠ audio) :
    Traced caps config {
      config := { config with audioCodec := audio }
      combo := queryResolvedCombo caps { config with audioCodec := audio }
      adjustments := [⟨"audio_codec", config.audioCodec.toString, audio.toString, reason⟩] } := by
  have hvideo : Field.Same config { config with audioCodec := audio } .videoCodec := rfl
  have haudio : ¬ Field.Same config { config with audioCodec := audio } .audioCodec := hchanged
  refine Traced.codecs ?_
  rw [difference_same hvideo, difference_changed haudio]
  rfl

/-- The audio fallback ends on something selectable, or where it started. -/
theorem fallbackAudio_ok {config : UserRecorderConfig}
    (hg : fallbackAudio caps { config := config, combo := queryResolvedCombo caps config } = .ok g) :
    Traced caps config g ∧ (g.combo.isSelectable = true ∨
      g = { config := config, combo := queryResolvedCombo caps config }) := by
  have hstart := Traced.start caps config
  unfold fallbackAudio at hg
  dsimp only at hg
  split at hg
  · obtain rfl := Except.ok.inj hg
    exact ⟨hstart, .inr rfl⟩
  split at hg
  · exact nomatch hg
  split at hg
  · obtain rfl := Except.ok.inj hg
    exact ⟨hstart, .inr rfl⟩
  case isFalse haudio =>
  split at hg
  · exact nomatch hg
  case h_2 g' hg' =>
  split at hg
  case isFalse => exact nomatch hg
  case isTrue hselectable =>
  obtain rfl := Except.ok.inj hg
  exact ⟨(Traced.audio haudio).format rfl rfl hg', .inl hselectable⟩

theorem Traced.validateResolution_eq (h : Traced caps requested f) :
    validateResolution caps f.config = validateResolution caps requested := by
  rw [h.others]
  rfl

@[simp] theorem succeed_succeeded (r : ResolveResult) (a : SupportAnnotation) :
    (r.succeed a).succeeded = true := by
  unfold ResolveResult.succeed ResolveResult.addWarningForUnvalidated
  split
  · rfl
  · rfl

@[simp] theorem succeed_resolvedConfig (r : ResolveResult) (a : SupportAnnotation) :
    (r.succeed a).resolvedConfig = r.resolvedConfig := by
  unfold ResolveResult.succeed ResolveResult.addWarningForUnvalidated
  split
  · rfl
  · rfl

@[simp] theorem succeed_adjustments (r : ResolveResult) (a : SupportAnnotation) :
    (r.succeed a).adjustments = r.adjustments := by
  unfold ResolveResult.succeed ResolveResult.addWarningForUnvalidated
  split
  · rfl
  · rfl

@[simp] theorem addInvalid_succeeded (r : ResolveResult) (reason : InvalidReason) :
    (r.addInvalid reason).succeeded = false := rfl

/-! ## Results -/

theorem fallbackConfig_ok {config : UserRecorderConfig} (hg : fallbackConfig caps config = .ok g) :
    Traced caps config g := by
  unfold fallbackConfig at hg
  cases haudio : fallbackAudio caps
      { config := config, combo := queryResolvedCombo caps config } with
  | error e =>
    rw [haudio] at hg
    exact nomatch hg
  | ok f =>
    rw [haudio] at hg
    obtain ⟨htraced, hselectable | rfl⟩ := fallbackAudio_ok haudio
    · rw [show (Except.ok f >>= fallbackFormat caps _ _) = fallbackFormat caps _ _ f from rfl,
        fallbackFormat_of_selectable hselectable] at hg
      exact Except.ok.inj hg ▸ htraced
    · exact htraced.format rfl rfl hg

/-- A valid selectable configuration is returned as it is. -/
theorem validateConfig_of_selectable {config : UserRecorderConfig}
    (hresolution : validateResolution caps config = none)
    (hselectable : (queryResolvedCombo caps config).isSelectable = true) :
    validateConfig caps config =
      ({ resolvedConfig := config } : ResolveResult).succeed (queryResolvedCombo caps config) := by
  have haudio : fallbackAudio caps { config := config, combo := queryResolvedCombo caps config } =
      .ok { config := config, combo := queryResolvedCombo caps config } := if_pos hselectable
  have hconfig : fallbackConfig caps config =
      .ok { config := config, combo := queryResolvedCombo caps config } := by
    unfold fallbackConfig
    rw [haudio]
    exact fallbackFormat_of_selectable hselectable
  unfold validateConfig
  rw [hresolution, hconfig]
  exact if_neg (by simp [hselectable])

/-- A ladder that ends on something selectable with a valid resolution is settled. -/
theorem Traced.settled {combo : SupportAnnotation} (h : Traced caps requested f)
    (hselectable : f.combo.isSelectable = true) (hresolution : validateResolution caps f.config = none) :
    Settled caps requested (f.result.succeed combo) := by
  rw [h.combo] at hselectable
  refine ⟨?_, ?_, ?_, ?_⟩
  · rw [succeed_resolvedConfig]
    exact hselectable
  · rw [succeed_resolvedConfig]
    exact hresolution
  · rw [succeed_resolvedConfig]
    show (validateConfig caps f.config).succeeded = true ∧
      (validateConfig caps f.config).adjustments = [] ∧
      (validateConfig caps f.config).resolvedConfig = f.config
    rw [validateConfig_of_selectable hresolution hselectable]
    simp
  · rw [succeed_resolvedConfig, succeed_adjustments]
    exact reported_of_changes h.others h.told

theorem validateConfig_settled {config : UserRecorderConfig}
    (h : (validateConfig caps config).succeeded = true) :
    Settled caps config (validateConfig caps config) := by
  unfold validateConfig at h ⊢
  cases hresolution : validateResolution caps config with
  | some reason =>
    rw [hresolution] at h
    exact nomatch h
  | none =>
    rw [hresolution] at h
    cases hconfig : fallbackConfig caps config with
    | error e =>
      rw [hconfig] at h
      exact nomatch h
    | ok f =>
      rw [hconfig] at h
      have htraced := fallbackConfig_ok hconfig
      dsimp only at h ⊢
      by_cases hselectable : f.combo.isSelectable = true
      · rw [if_neg (by simp [hselectable])]
        exact htraced.settled hselectable (htraced.validateResolution_eq.trans hresolution)
      · rw [if_pos (by simpa using hselectable)] at h
        exact nomatch h

theorem finalizeSelectableResult_settled {field : String} (h : Traced caps requested f)
    (hok : (finalizeSelectableResult caps f.result field).succeeded = true) :
    Settled caps requested (finalizeSelectableResult caps f.result field) ∧
      (finalizeSelectableResult caps f.result field).adjustments = f.adjustments := by
  unfold finalizeSelectableResult at hok ⊢
  cases hresolution : validateResolution caps f.result.resolvedConfig with
  | some reason =>
    rw [hresolution] at hok
    exact nomatch hok
  | none =>
    rw [hresolution] at hok
    dsimp only at hok ⊢
    by_cases hselectable : (queryResolvedCombo caps f.result.resolvedConfig).isSelectable = true
    · rw [if_neg (by simp [hselectable])]
      refine ⟨h.settled ?_ hresolution, succeed_adjustments _ _⟩
      rw [h.combo]
      exact hselectable
    · rw [if_pos (by simpa using hselectable)] at hok
      exact nomatch hok

/-- A request that is taken as it is, or not at all. -/
theorem finalizeSelectableResult_unadjusted {config : UserRecorderConfig} {field : String}
    (hok : (finalizeSelectableResult caps { resolvedConfig := config } field).succeeded = true) :
    Settled caps config (finalizeSelectableResult caps { resolvedConfig := config } field) ∧
      (finalizeSelectableResult caps { resolvedConfig := config } field).adjustments = [] :=
  finalizeSelectableResult_settled (Traced.start caps config) hok

/-- The names of the settings that a change is about. -/
def RequestedChange.fields : RequestedChange → List String
  | container _ => ["container"]
  | videoCodec _ => ["video_codec"]
  | audioCodec _ => ["audio_codec"]
  | chroma _ => ["chroma"]
  | bitDepth _ => ["bit_depth"]
  | resolution _ _ => ["output_width", "output_height"]

/-- A container is adjusted to by codecs only. -/
theorem resolveContainer_settled {config : UserRecorderConfig}
    (hok : (resolveContainer caps config).succeeded = true) :
    Settled caps config (resolveContainer caps config) ∧
      ∀ a ∈ (resolveContainer caps config).adjustments, a.field ≠ "container" := by
  unfold resolveContainer at hok ⊢
  dsimp only at hok ⊢
  split at hok
  case isTrue hselectable =>
    rw [if_pos hselectable]
    obtain ⟨hsettled, hnone⟩ := finalizeSelectableResult_unadjusted hok
    refine ⟨hsettled, fun a ha => ?_⟩
    rw [hnone] at ha
    exact nomatch ha
  case isFalse hselectable =>
  rw [if_neg hselectable]
  split at hok
  case isTrue haudio =>
    rw [if_pos haudio]
    simp only [Bool.and_eq_true, decide_eq_true_eq] at haudio
    obtain ⟨hsettled, hone⟩ := finalizeSelectableResult_settled (Traced.audio haudio.1) hok
    refine ⟨hsettled, fun a ha => ?_⟩
    obtain rfl := List.mem_singleton.mp ((congrArg (a ∈ ·) hone).mp ha)
    simp
  case isFalse haudio =>
  rw [if_neg haudio]
  split at hok
  case isTrue hvideo =>
    rw [if_pos hvideo]
    simp only [Bool.and_eq_true, decide_eq_true_eq] at hvideo
    set video := ContainerCompatRegistry.preferredVideoCodec config.container
    set audio := ContainerCompatRegistry.preferredAudioCodec config.container
    have hchanged : ¬ Field.Same config
        { config with videoCodec := video, audioCodec := audio } .videoCodec := hvideo.1
    have htraced : Traced caps config {
        config := { config with videoCodec := video, audioCodec := audio }
        combo := queryResolvedCombo caps { config with videoCodec := video, audioCodec := audio }
        adjustments :=
          [⟨"video_codec", config.videoCodec.toString, video.toString,
            "Adjusted video codec to preferred for selected container."⟩] ++
          (if config.audioCodec ≠ audio then
            [⟨"audio_codec", config.audioCodec.toString, audio.toString,
              "Adjusted audio codec to preferred for selected container."⟩]
          else []) } := by
      refine Traced.codecs ?_
      rw [difference_changed hchanged]
      by_cases hsame : config.audioCodec = audio
      · have hsame' : Field.Same config
            { config with videoCodec := video, audioCodec := audio } .audioCodec := hsame
        rw [difference_same hsame', if_neg (not_not.mpr hsame)]
        rfl
      · have hother : ¬ Field.Same config
            { config with videoCodec := video, audioCodec := audio } .audioCodec := hsame
        rw [difference_changed hother, if_pos hsame]
        rfl
    obtain ⟨hsettled, htwo⟩ := finalizeSelectableResult_settled htraced hok
    refine ⟨hsettled, fun a ha => ?_⟩
    rcases List.mem_append.mp ((congrArg (a ∈ ·) htwo).mp ha) with ha | ha
    · obtain rfl := List.mem_singleton.mp ha
      simp
    · split at ha
      · obtain rfl := List.mem_singleton.mp ha
        simp
      · exact nomatch ha
  case isFalse hvideo => exact nomatch hok

theorem fallbackTo_fields {α : Type} [DecidableEq α] {d : Dimension α}
    (hg : fallbackTo d caps reason f = .ok g) :
    ∀ a ∈ g.adjustments, a ∈ f.adjustments ∨ a.field = d.field := by
  rcases fallbackTo_ok hg with ⟨rfl, _⟩ | ⟨_, _, _, rfl⟩
  · exact fun a ha => .inl ha
  · intro a ha
    rcases List.mem_append.mp ha with ha | ha
    · exact .inl ha
    · rw [List.mem_singleton] at ha
      exact .inr (ha ▸ rfl)

/-- A video codec is adjusted to by chroma and bit depth only. -/
theorem resolveVideoCodec_settled {config : UserRecorderConfig}
    (hok : (resolveVideoCodec caps config).succeeded = true) :
    Settled caps config (resolveVideoCodec caps config) ∧
      ∀ a ∈ (resolveVideoCodec caps config).adjustments, a.field ≠ "video_codec" := by
  unfold resolveVideoCodec at hok ⊢
  cases hformat : fallbackFormat caps "Adjusted to supported chroma for selected video codec."
      "Adjusted to supported bit depth for selected video codec."
      { config := config, combo := queryResolvedCombo caps config } with
  | error e =>
    rw [hformat] at hok
    exact nomatch hok
  | ok f =>
    rw [hformat] at hok
    dsimp only at hok ⊢
    split at hok
    case isTrue => exact nomatch hok
    case isFalse hselectable =>
    rw [if_neg hselectable]
    split at hok
    case h_1 => exact nomatch hok
    case h_2 hresolution =>
    have htraced := (Traced.start caps config).format rfl rfl hformat
    refine ⟨htraced.settled (by simpa using hselectable) hresolution, fun a ha => ?_⟩
    rw [succeed_adjustments] at ha
    obtain ⟨f', hchroma, hdepth⟩ := fallbackFormat_ok hformat
    rcases fallbackTo_fields hdepth a ha with ha | ha
    · rcases fallbackTo_fields hchroma a ha with ha | ha
      · exact nomatch ha
      · rw [ha]
        decide
    · rw [ha]
      decide

/-- A resolution that succeeds is settled, and a change is not adjusted itself. -/
theorem resolution_settled (caps : CapabilitySet) :
    (∀ config, (validateConfig caps config).succeeded = true →
      Settled caps config (validateConfig caps config)) ∧
    ∀ current (change : RequestedChange), (resolveChange caps current change).succeeded = true →
      Settled caps (change.applyTo current) (resolveChange caps current change) ∧
        ∀ a ∈ (resolveChange caps current change).adjustments, a.field ∉ change.fields := by
  refine ⟨fun config h => validateConfig_settled h, fun current change h => ?_⟩
  have hunadjusted : ∀ {config : UserRecorderConfig} {field : String},
      (finalizeSelectableResult caps { resolvedConfig := config } field).succeeded = true →
      Settled caps config (finalizeSelectableResult caps { resolvedConfig := config } field) ∧
        ∀ a ∈ (finalizeSelectableResult caps { resolvedConfig := config } field).adjustments,
          a.field ∉ change.fields := by
    intro config field hok
    obtain ⟨hsettled, hnone⟩ := finalizeSelectableResult_unadjusted hok
    refine ⟨hsettled, fun a ha => ?_⟩
    rw [hnone] at ha
    exact nomatch ha
  cases change with
  | container value =>
    obtain ⟨hsettled, hfield⟩ := resolveContainer_settled h
    exact ⟨hsettled, fun a ha hmem => hfield a ha (List.mem_singleton.mp hmem)⟩
  | videoCodec value =>
    obtain ⟨hsettled, hfield⟩ := resolveVideoCodec_settled h
    exact ⟨hsettled, fun a ha hmem => hfield a ha (List.mem_singleton.mp hmem)⟩
  | audioCodec value => exact hunadjusted h
  | chroma value => exact hunadjusted h
  | bitDepth value => exact hunadjusted h
  | resolution width height => exact hunadjusted h

/-- Matroska takes everything that is here, and MP4 has no Opus. -/
def everything : CapabilitySet where
  containers _ := some ⟨.available, ""⟩
  videoCodecs _ := some ⟨.available, ""⟩
  audioCodecs _ := some ⟨.available, ""⟩
  chromaModes _ := some ⟨.available, ""⟩
  bitDepths _ := some ⟨.available, ""⟩
  chroma444 _ := some ⟨.available, ""⟩

/-- From Opus in 4:4:4 to MP4: the audio codec, and nothing else. -/
theorem resolution_settled_mp4 :
    Settled everything { container := .mp4, videoCodec := .hevc, chroma := .cs444 }
      (resolveChange everything { videoCodec := .hevc, chroma := .cs444 } (.container .mp4)) ∧
    Settled everything { videoCodec := .h264, audioCodec := .flac, bitDepth := .bit10 }
      (validateConfig everything { videoCodec := .h264, audioCodec := .flac, bitDepth := .bit10 }) :=
  ⟨((resolution_settled everything).2 { videoCodec := .hevc, chroma := .cs444 } (.container .mp4)
      (by decide)).1,
    (resolution_settled everything).1 { videoCodec := .h264, audioCodec := .flac, bitDepth := .bit10 }
      (by decide)⟩

end Exosnap.Capability
