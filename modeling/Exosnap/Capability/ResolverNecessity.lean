/-
  Which adjustments of a whole configuration are needed. The fallbacks are tried one on top of the
  other, audio first, and an earlier one is kept when a later one would have been enough alone.
-/
import Exosnap.Capability.CapabilityBuilder
import Exosnap.Capability.ResolverSoundness

namespace Exosnap.Capability

/-! ## Need -/

/-- The field of a configuration set back to what was requested. -/
def Field.revert (requested resolved : UserRecorderConfig) : Field → UserRecorderConfig
  | container => { resolved with container := requested.container }
  | videoCodec => { resolved with videoCodec := requested.videoCodec }
  | audioCodec => { resolved with audioCodec := requested.audioCodec }
  | chroma => { resolved with chroma := requested.chroma }
  | bitDepth => { resolved with bitDepth := requested.bitDepth }

def selectable (caps : CapabilitySet) (config : UserRecorderConfig) : Bool :=
  (queryResolvedCombo caps config).isSelectable

/-- The request is unselectable for its bit depth only. -/
def OnlyBitDepth (caps : CapabilitySet) (config : UserRecorderConfig) : Prop :=
  selectable caps config = false ∧ ∃ bitDepth, selectable caps { config with bitDepth := bitDepth } = true

/-- Each adjustment is needed; a bit depth alone costs neither the audio codec nor 4:4:4. -/
def Needed (caps : CapabilitySet) (config : UserRecorderConfig) : Prop :=
  (validateConfig caps config).succeeded = true →
    (∀ a ∈ (validateConfig caps config).adjustments, ∀ field : Field, a.field = field.name →
      selectable caps (field.revert config (validateConfig caps config).resolvedConfig) = false) ∧
    (OnlyBitDepth caps config →
      (validateConfig caps config).resolvedConfig.audioCodec = config.audioCodec ∧
      (config.chroma = .cs444 → (validateConfig caps config).resolvedConfig.chroma = .cs444))

/-! ## Where the fallbacks land -/

/-- 4:2:0 is needed, and enough. -/
def LandsInChroma (caps : CapabilitySet) (config : UserRecorderConfig) : Prop :=
  selectable caps config = false ∧ config.chroma ≠ .cs420 ∧
    (caps.queryChroma .cs420).isSelectable = true ∧
    selectable caps { config with chroma := .cs420 } = true

/-- 8 bits are needed on top of 4:2:0, and enough. -/
def LandsInBoth (caps : CapabilitySet) (config : UserRecorderConfig) : Prop :=
  selectable caps config = false ∧
    (config.chroma ≠ .cs420 → (caps.queryChroma .cs420).isSelectable = true) ∧
    selectable caps { config with chroma := .cs420 } = false ∧ config.bitDepth ≠ .bit8 ∧
    (caps.queryBitDepth .bit8).isSelectable = true ∧
    selectable caps { config with chroma := .cs420, bitDepth := .bit8 } = true

/-- The three places where a fallback in chroma and bit depth can land. -/
def Lands (caps : CapabilitySet) (config resolved : UserRecorderConfig) : Prop :=
  (selectable caps config = true ∧ resolved = config) ∨
  (LandsInChroma caps config ∧ resolved = { config with chroma := .cs420 }) ∨
  (LandsInBoth caps config ∧ resolved = { config with chroma := .cs420, bitDepth := .bit8 })

section
variable {caps : CapabilitySet} {config resolved : UserRecorderConfig} {adjustments : List Adjustment}
variable {chromaReason bitDepthReason : String}

/-- The configuration with the preferred audio codec of its container. -/
def withPreferredAudio (config : UserRecorderConfig) : UserRecorderConfig :=
  { config with audioCodec := ContainerCompatRegistry.preferredAudioCodec config.container }

/-- A fallback that is needed and possible is made. -/
theorem fallbackTo_of_needed {α : Type} [DecidableEq α] {d : Dimension α} {reason : String}
    {f : Fallback} (hselectable : f.combo.isSelectable = false) (hget : d.get f.config ≠ d.basic)
    (hquery : (d.query caps d.basic).isSelectable = true) :
    fallbackTo d caps reason f = .ok {
      config := d.set d.basic f.config
      combo := queryResolvedCombo caps (d.set d.basic f.config)
      adjustments := f.adjustments ++
        [⟨d.field, d.toString (d.get f.config), d.toString d.basic, reason⟩] } := by
  unfold fallbackTo
  rw [if_pos (by simp [hselectable, hget]), if_neg (by simp [hquery])]

theorem fallbackTo_of_idle {α : Type} [DecidableEq α] {d : Dimension α} {reason : String}
    {f : Fallback} (h : f.combo.isSelectable = true ∨ d.get f.config = d.basic) :
    fallbackTo d caps reason f = .ok f := by
  unfold fallbackTo
  rw [if_neg]
  rcases h with h | h
  · simp [h]
  · simp [h]

/-- A fallback in chroma and bit depth that ends on something selectable has landed. -/
theorem Lands.of_fallbackFormat {f g : Fallback} (hcombo : f.combo = queryResolvedCombo caps f.config)
    (hg : fallbackFormat caps chromaReason bitDepthReason f = .ok g)
    (hselectable : g.combo.isSelectable = true) : Lands caps f.config g.config := by
  have hf : selectable caps f.config = f.combo.isSelectable := by
    rw [hcombo]
    rfl
  obtain ⟨f', hchroma, hdepth⟩ := fallbackFormat_ok hg
  rcases fallbackTo_ok hchroma with ⟨rfl, hstay⟩ | ⟨hfails, hget, hquery, rfl⟩
  · rcases fallbackTo_ok hdepth with ⟨rfl, _⟩ | ⟨hfails, hget, hquery, rfl⟩
    · exact .inl ⟨hf.trans hselectable, rfl⟩
    · have hcs : f'.config.chroma = .cs420 := hstay.resolve_left (by simp [hfails])
      have hsame : { f'.config with chroma := ChromaSubsampling.cs420 } = f'.config := by
        rw [← hcs]
      have hlanded : { f'.config with chroma := ChromaSubsampling.cs420, bitDepth := BitDepth.bit8 } =
          { f'.config with bitDepth := BitDepth.bit8 } := by
        rw [← hcs]
      refine .inr (.inr ⟨⟨hf.trans hfails, fun h => absurd hcs h, ?_, hget, hquery, ?_⟩, ?_⟩)
      · rw [hsame]
        exact hf.trans hfails
      · rw [hlanded]
        exact hselectable
      · exact hlanded.symm
  · rcases fallbackTo_ok hdepth with ⟨rfl, _⟩ | ⟨hfails', hget', hquery', rfl⟩
    · exact .inr (.inl ⟨⟨hf.trans hfails, hget, hquery, hselectable⟩, rfl⟩)
    · exact .inr (.inr
        ⟨⟨hf.trans hfails, fun _ => hquery, hfails', hget', hquery', hselectable⟩, rfl⟩)

theorem Lands.fallbackFormat {f : Fallback} (hcombo : f.combo = queryResolvedCombo caps f.config)
    (h : Lands caps f.config resolved) :
    ∃ g, fallbackFormat caps chromaReason bitDepthReason f = .ok g ∧ g.combo.isSelectable = true ∧
      g.config = resolved := by
  have hf : selectable caps f.config = f.combo.isSelectable := by
    rw [hcombo]
    rfl
  have hbind : ∀ {f'}, fallbackTo chromaDimension caps chromaReason f = .ok f' →
      Exosnap.Capability.fallbackFormat caps chromaReason bitDepthReason f =
        fallbackTo bitDepthDimension caps bitDepthReason f' := by
    intro f' hf'
    unfold Exosnap.Capability.fallbackFormat
    rw [hf']
    rfl
  rcases h with ⟨hselectable, rfl⟩ | ⟨⟨hfails, hget, hquery, hselectable⟩, rfl⟩ |
    ⟨⟨hfails, hquery, hfails', hget', hquery', hselectable⟩, rfl⟩
  · rw [hf] at hselectable
    exact ⟨f, fallbackFormat_of_selectable hselectable, hselectable, rfl⟩
  · rw [hf] at hfails
    rw [hbind (fallbackTo_of_needed hfails hget hquery)]
    exact ⟨_, fallbackTo_of_idle (.inl hselectable), hselectable, rfl⟩
  · rw [hf] at hfails
    by_cases hcs : f.config.chroma = .cs420
    · have hlanded : { f.config with chroma := ChromaSubsampling.cs420, bitDepth := BitDepth.bit8 } =
          { f.config with bitDepth := BitDepth.bit8 } := by
        rw [← hcs]
      rw [hbind (fallbackTo_of_idle (d := chromaDimension) (.inr hcs)), hlanded]
      rw [hlanded] at hselectable
      exact ⟨_, fallbackTo_of_needed hfails hget' hquery', hselectable, rfl⟩
    · rw [hbind (fallbackTo_of_needed hfails hcs (hquery hcs))]
      exact ⟨_, fallbackTo_of_needed hfails' hget' hquery', hselectable, rfl⟩

theorem validateConfig_ok_iff :
    ((validateConfig caps config).succeeded = true ∧
        (validateConfig caps config).resolvedConfig = resolved) ↔
      validateResolution caps config = none ∧
        ∃ g, fallbackConfig caps config = .ok g ∧ g.combo.isSelectable = true ∧
          g.config = resolved := by
  unfold validateConfig
  cases hresolution : validateResolution caps config with
  | some reason => simp
  | none =>
    cases hconfig : fallbackConfig caps config with
    | error e => simp
    | ok g =>
      by_cases hselectable : g.combo.isSelectable = true
      · simp [hselectable, Fallback.result]
      · simp [hselectable]

/-- With the preferred audio codec already, only the formats fall back. -/
theorem fallbackConfig_of_preferred (hunselectable : selectable caps config = false)
    (hvideo : (caps.queryVideoCodec config.videoCodec).isSelectable = true)
    (haudio : config.audioCodec = ContainerCompatRegistry.preferredAudioCodec config.container) :
    fallbackConfig caps config =
      fallbackFormat caps "Adjusted to supported chroma for selected video codec."
        "Adjusted to supported bit depth for selected video codec."
        { config := config, combo := queryResolvedCombo caps config } := by
  have hstart : (queryResolvedCombo caps config).isSelectable = false := hunselectable
  have hok : fallbackAudio caps { config := config, combo := queryResolvedCombo caps config } =
      .ok { config := config, combo := queryResolvedCombo caps config } := by
    unfold fallbackAudio
    rw [if_neg (by simp [hstart]), if_neg (by simp [hvideo]), if_pos haudio]
  unfold fallbackConfig
  rw [hok]
  rfl

/-- With another audio codec, the formats fall back on top of the preferred one. -/
theorem fallbackConfig_of_other (hunselectable : selectable caps config = false)
    (hvideo : (caps.queryVideoCodec config.videoCodec).isSelectable = true)
    (haudio : config.audioCodec ≠ ContainerCompatRegistry.preferredAudioCodec config.container) :
    ∃ start : Fallback, start.config = withPreferredAudio config ∧
      start.combo = queryResolvedCombo caps start.config ∧
      ∀ g, fallbackConfig caps config = .ok g ↔
        fallbackFormat caps "Adjusted to supported chroma while validating profile."
          "Adjusted to supported bit depth while validating profile." start = .ok g ∧
        g.combo.isSelectable = true := by
  have hstart : (queryResolvedCombo caps config).isSelectable = false := hunselectable
  let start : Fallback := {
    config := withPreferredAudio config
    combo := queryResolvedCombo caps (withPreferredAudio config)
    adjustments := [⟨"audio_codec", config.audioCodec.toString,
      (ContainerCompatRegistry.preferredAudioCodec config.container).toString,
      "Adjusted to preferred codec for selected container."⟩] }
  refine ⟨start, rfl, rfl, fun g => ?_⟩
  have haudio' : ∀ r, fallbackFormat caps "Adjusted to supported chroma while validating profile."
      "Adjusted to supported bit depth while validating profile." start = r →
      fallbackAudio caps { config := config, combo := queryResolvedCombo caps config } =
        (r.mapError fun e => ({ config := config, combo := queryResolvedCombo caps config }, e.2)).bind
          fun g => if g.combo.isSelectable then .ok g
            else .error ({ config := config, combo := queryResolvedCombo caps config },
              ⟨"audio_codec", "Container requires audio fallback, but preferred codec is not selectable: " ++
                g.combo.reason⟩) := by
    intro r hr
    unfold fallbackAudio
    rw [if_neg (by simp [hstart])]
    dsimp only
    rw [if_neg (by simp [hvideo]), if_neg haudio]
    split <;> next heq =>
      obtain rfl := hr.symm.trans heq
      rfl
  unfold fallbackConfig
  rw [haudio' _ rfl]
  cases hformat : fallbackFormat caps "Adjusted to supported chroma while validating profile."
      "Adjusted to supported bit depth while validating profile." start with
  | error e =>
    constructor
    · intro h
      have hno : Except.error _ = Except.ok g := h
      cases hno
    · intro h
      cases h.1
  | ok g' =>
    by_cases hselectable : g'.combo.isSelectable = true
    · dsimp only [Except.mapError, Except.bind]
      rw [if_pos hselectable]
      show fallbackFormat caps _ _ g' = _ ↔ _
      rw [fallbackFormat_of_selectable hselectable]
      refine ⟨fun h => ⟨h, ?_⟩, fun h => h.1⟩
      exact Except.ok.inj h ▸ hselectable
    · dsimp only [Except.mapError, Except.bind]
      rw [if_neg hselectable]
      refine ⟨(by intro h; cases h), fun h => absurd h.2 ?_⟩
      exact Except.ok.inj h.1 ▸ hselectable

/-- An unselectable configuration is made valid with the preferred audio codec, or not at all. -/
theorem validateConfig_lands (hunselectable : selectable caps config = false) :
    ((validateConfig caps config).succeeded = true ∧
        (validateConfig caps config).resolvedConfig = resolved) ↔
      validateResolution caps config = none ∧
        (caps.queryVideoCodec config.videoCodec).isSelectable = true ∧
        Lands caps (withPreferredAudio config) resolved := by
  rw [validateConfig_ok_iff]
  refine and_congr_right fun _ => ?_
  by_cases hvideo : (caps.queryVideoCodec config.videoCodec).isSelectable = true
  · rw [and_iff_right hvideo]
    by_cases haudio : config.audioCodec = ContainerCompatRegistry.preferredAudioCodec config.container
    · have hsame : withPreferredAudio config = config := by
        unfold withPreferredAudio
        rw [← haudio]
      rw [fallbackConfig_of_preferred hunselectable hvideo haudio, hsame]
      refine ⟨?_, fun h => h.fallbackFormat rfl⟩
      rintro ⟨g, hg, hselectable, rfl⟩
      exact Lands.of_fallbackFormat rfl hg hselectable
    · obtain ⟨start, hconfig, hcombo, hok⟩ := fallbackConfig_of_other hunselectable hvideo haudio
      simp only [hok]
      rw [← hconfig]
      constructor
      · rintro ⟨g, ⟨hg, hselectable⟩, _, rfl⟩
        exact Lands.of_fallbackFormat hcombo hg hselectable
      · intro h
        obtain ⟨g, hg, hselectable, hlanded⟩ := h.fallbackFormat hcombo
        exact ⟨g, ⟨hg, hselectable⟩, hselectable, hlanded⟩
  · refine ⟨?_, fun h => absurd h.1 hvideo⟩
    rintro ⟨g, hg, _⟩
    have hstart : (queryResolvedCombo caps config).isSelectable = false := hunselectable
    unfold fallbackConfig fallbackAudio at hg
    rw [if_neg (by simp [hstart])] at hg
    dsimp only at hg
    rw [if_pos (by simp [hvideo])] at hg
    exact nomatch hg

theorem Field.forall_iff {P : Field → Prop} :
    (∀ field, P field) ↔ P .container ∧ P .videoCodec ∧ P .audioCodec ∧ P .chroma ∧ P .bitDepth := by
  refine ⟨fun h => ⟨h _, h _, h _, h _, h _⟩, fun h field => ?_⟩
  cases field with
  | container => exact h.1
  | videoCodec => exact h.2.1
  | audioCodec => exact h.2.2.1
  | chroma => exact h.2.2.2.1
  | bitDepth => exact h.2.2.2.2

/-- What is needed of a success, of the configuration that it resolves to. -/
def NeededAt (caps : CapabilitySet) (config resolved : UserRecorderConfig) : Prop :=
  (∀ field : Field, ¬ field.Same config resolved →
    selectable caps (field.revert config resolved) = false) ∧
  (OnlyBitDepth caps config →
    resolved.audioCodec = config.audioCodec ∧ (config.chroma = .cs444 → resolved.chroma = .cs444))

/-- The adjusted fields are those that differ. -/
theorem needed_iff : Needed caps config ↔
    ∀ resolved, (validateConfig caps config).succeeded = true ∧
      (validateConfig caps config).resolvedConfig = resolved → NeededAt caps config resolved := by
  have hname : ∀ {field other : Field}, field.name = other.name → field = other := by
    intro field other
    cases field <;> cases other <;> decide
  constructor
  · rintro h resolved ⟨hok, rfl⟩
    refine ⟨fun field hchanged => ?_, (h hok).2⟩
    obtain ⟨a, ha, _⟩ := (validateConfig_settled hok).reported.changed field hchanged
    have hmem : a ∈ (validateConfig caps config).adjustments.filter (·.field = field.name) := by
      rw [ha]
      exact List.mem_singleton_self a
    obtain ⟨hmem, hfield⟩ := List.mem_filter.mp hmem
    exact (h hok).1 a hmem field (of_decide_eq_true hfield)
  · intro h hok
    obtain ⟨hfields, honly⟩ := h _ ⟨hok, rfl⟩
    refine ⟨fun a ha field hfield => ?_, honly⟩
    obtain ⟨other, hother, hchanged⟩ := (validateConfig_settled hok).reported.named a ha
    obtain rfl := hname (hfield.symm.trans hother)
    exact hfields field hchanged

/-! ## When too much is adjusted -/

/-- An unselectable request that some fallback makes valid, while less would have been enough: the
    audio codec is given up where 4:2:0 or 8 bits do without it, the chroma mode where 8 bits
    do, or either where the bit depth alone was at fault. -/
def Excessive (caps : CapabilitySet) (config : UserRecorderConfig) : Prop :=
  validateResolution caps config = none ∧
  (caps.queryVideoCodec config.videoCodec).isSelectable = true ∧
  selectable caps config = false ∧
  ((LandsInChroma caps (withPreferredAudio config) ∧
      config.audioCodec ≠ ContainerCompatRegistry.preferredAudioCodec config.container ∧
      selectable caps { config with chroma := .cs420 } = true) ∨
    (LandsInBoth caps (withPreferredAudio config) ∧
      ((config.audioCodec ≠ ContainerCompatRegistry.preferredAudioCodec config.container ∧
        selectable caps { config with chroma := .cs420, bitDepth := .bit8 } = true) ∨
      (config.chroma ≠ .cs420 ∧
        selectable caps { withPreferredAudio config with bitDepth := .bit8 } = true))) ∨
    ((selectable caps (withPreferredAudio config) = true ∨
        LandsInChroma caps (withPreferredAudio config) ∨ LandsInBoth caps (withPreferredAudio config)) ∧
      (∃ bitDepth, selectable caps { config with bitDepth := bitDepth } = true) ∧
      (config.audioCodec ≠ ContainerCompatRegistry.preferredAudioCodec config.container ∨
        config.chroma = .cs444)))

theorem neededAt_preferred (hunselectable : selectable caps config = false) :
    NeededAt caps config (withPreferredAudio config) ↔
      ¬ ((∃ bitDepth, selectable caps { config with bitDepth := bitDepth } = true) ∧
        config.audioCodec ≠ ContainerCompatRegistry.preferredAudioCodec config.container) := by
  have hrevert : Field.audioCodec.revert config (withPreferredAudio config) = config := rfl
  simp only [NeededAt, Field.forall_iff, hrevert, hunselectable, OnlyBitDepth]
  simp only [Field.Same, withPreferredAudio]
  grind

theorem neededAt_chroma (hunselectable : selectable caps config = false)
    (hlands : LandsInChroma caps (withPreferredAudio config)) :
    NeededAt caps config { withPreferredAudio config with chroma := .cs420 } ↔
      ¬ (config.audioCodec ≠ ContainerCompatRegistry.preferredAudioCodec config.container ∧
          selectable caps { config with chroma := .cs420 } = true) ∧
      ¬ ((∃ bitDepth, selectable caps { config with bitDepth := bitDepth } = true) ∧
        (config.audioCodec ≠ ContainerCompatRegistry.preferredAudioCodec config.container ∨
          config.chroma = .cs444)) := by
  have haudio : Field.audioCodec.revert config { withPreferredAudio config with chroma := .cs420 } =
      { config with chroma := .cs420 } := rfl
  have hchroma : Field.chroma.revert config { withPreferredAudio config with chroma := .cs420 } =
      withPreferredAudio config := rfl
  simp only [NeededAt, Field.forall_iff, haudio, hchroma, hlands.1, OnlyBitDepth, hunselectable]
  simp only [Field.Same, withPreferredAudio]
  grind

theorem neededAt_both (hunselectable : selectable caps config = false)
    (hlands : LandsInBoth caps (withPreferredAudio config)) :
    NeededAt caps config { withPreferredAudio config with chroma := .cs420, bitDepth := .bit8 } ↔
      ¬ ((config.audioCodec ≠ ContainerCompatRegistry.preferredAudioCodec config.container ∧
          selectable caps { config with chroma := .cs420, bitDepth := .bit8 } = true) ∨
        (config.chroma ≠ .cs420 ∧
          selectable caps { withPreferredAudio config with bitDepth := .bit8 } = true)) ∧
      ¬ ((∃ bitDepth, selectable caps { config with bitDepth := bitDepth } = true) ∧
        (config.audioCodec ≠ ContainerCompatRegistry.preferredAudioCodec config.container ∨
          config.chroma = .cs444)) := by
  have haudio : Field.audioCodec.revert config
      { withPreferredAudio config with chroma := .cs420, bitDepth := .bit8 } =
      { config with chroma := .cs420, bitDepth := .bit8 } := rfl
  have hchroma : Field.chroma.revert config
      { withPreferredAudio config with chroma := .cs420, bitDepth := .bit8 } =
      { withPreferredAudio config with bitDepth := .bit8 } := rfl
  have hdepth : Field.bitDepth.revert config
      { withPreferredAudio config with chroma := .cs420, bitDepth := .bit8 } =
      { withPreferredAudio config with chroma := .cs420 } := rfl
  obtain ⟨_, _, hfails, _⟩ := hlands
  simp only [NeededAt, Field.forall_iff, haudio, hchroma, hdepth, hfails, OnlyBitDepth, hunselectable]
  simp only [Field.Same, withPreferredAudio]
  grind

/-- Every adjustment is needed, unless less would have been enough. -/
theorem adjustments_needed_iff (caps : CapabilitySet) (config : UserRecorderConfig) :
    Needed caps config ↔ ¬ Excessive caps config := by
  rw [needed_iff]
  by_cases hselectable : selectable caps config = true
  · refine ⟨fun _ h => absurd (hselectable.symm.trans h.2.2.1) Bool.noConfusion, fun _ => ?_⟩
    rintro resolved hok
    obtain ⟨hresolution, -⟩ := validateConfig_ok_iff.mp hok
    obtain rfl : config = resolved := by
      rw [← hok.2, validateConfig_of_selectable hresolution hselectable, succeed_resolvedConfig]
    exact ⟨fun field hchanged => absurd (field.same_self config) hchanged,
      fun honly => absurd (hselectable.symm.trans honly.1) Bool.noConfusion⟩
  have hunselectable : selectable caps config = false := by simpa using hselectable
  constructor
  · rintro h ⟨hresolution, hvideo, -, hcase⟩
    have hneeded : ∀ {resolved}, Lands caps (withPreferredAudio config) resolved →
        NeededAt caps config resolved :=
      fun hlands => h _ ((validateConfig_lands hunselectable).mpr ⟨hresolution, hvideo, hlands⟩)
    rcases hcase with ⟨hlands, hcase⟩ | ⟨hlands, hcase⟩ | ⟨hlands, honly, hcase⟩
    · exact ((neededAt_chroma hunselectable hlands).mp (hneeded (.inr (.inl ⟨hlands, rfl⟩)))).1 hcase
    · exact ((neededAt_both hunselectable hlands).mp (hneeded (.inr (.inr ⟨hlands, rfl⟩)))).1 hcase
    · rcases hlands with hlands | hlands | hlands
      · refine (neededAt_preferred hunselectable).mp (hneeded (.inl ⟨hlands, rfl⟩)) ⟨honly, ?_⟩
        intro hsame
        have hpreferred : withPreferredAudio config = config := by
          unfold withPreferredAudio
          rw [← hsame]
        rw [hpreferred] at hlands
        exact hselectable hlands
      · exact ((neededAt_chroma hunselectable hlands).mp
          (hneeded (.inr (.inl ⟨hlands, rfl⟩)))).2 ⟨honly, hcase⟩
      · exact ((neededAt_both hunselectable hlands).mp
          (hneeded (.inr (.inr ⟨hlands, rfl⟩)))).2 ⟨honly, hcase⟩
  · intro h resolved hok
    obtain ⟨hresolution, hvideo, hlands⟩ := (validateConfig_lands hunselectable).mp hok
    have hexcessive := fun hcase => h ⟨hresolution, hvideo, hunselectable, hcase⟩
    rcases hlands with ⟨hlands, rfl⟩ | ⟨hlands, rfl⟩ | ⟨hlands, rfl⟩
    · rw [neededAt_preferred hunselectable]
      rintro ⟨honly, haudio⟩
      exact hexcessive (.inr (.inr ⟨.inl hlands, honly, .inl haudio⟩))
    · rw [neededAt_chroma hunselectable hlands]
      exact ⟨fun hcase => hexcessive (.inl ⟨hlands, hcase⟩),
        fun hcase => hexcessive (.inr (.inr ⟨.inr (.inl hlands), hcase⟩))⟩
    · rw [neededAt_both hunselectable hlands]
      exact ⟨fun hcase => hexcessive (.inr (.inl ⟨hlands, hcase⟩)),
        fun hcase => hexcessive (.inr (.inr ⟨.inr (.inr hlands), hcase⟩))⟩

end

/-- AAC in Matroska, in 4:4:4 with 10 bits: given up for Opus, though AAC goes with 4:2:0. -/
theorem aac_replaced_for_chroma :
    ¬ Needed buildStaticValidatedBaseline
      { videoCodec := .hevc, audioCodec := .aac, chroma := .cs444, bitDepth := .bit10 } := by
  intro h
  obtain ⟨hneeded, -⟩ := h (by decide +kernel)
  have hunselectable := hneeded
    ⟨"audio_codec", "AAC", "Opus", "Adjusted to preferred codec for selected container."⟩
    (by decide +kernel) .audioCodec rfl
  exact absurd hunselectable (by decide +kernel)

end Exosnap.Capability
