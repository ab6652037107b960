/-
  Duplicate ticks of the constant-rate loop: whether the slot that is submitted holds the last
  composited picture.

  The loop's slots and its reference are a `KeyedReuse.Store` (`store`). A tick composites, or
  duplicates, or leaves the store alone (`WriteOutcome`); everything else the loop does leaves
  it alone and only lets the input counters grow (`Captured`). `duplicate_ticks_repeat`: in a
  run in which no tick emits a ring entry under the key of the last composite, every duplicate
  submits the reference's picture.

  Without the ring the condition is void (`plain_ticks_advance`). With it, two entries that one
  drain captured are emitted under one key, and a slot that holds the first one passes for the
  second (`two_entries_one_key`).
-/
import Exosnap.Lib.KeyedReuse
import Exosnap.Lib.StepRun
import Exosnap.Engine.CfrLoop

namespace Exosnap.Engine.CfrLoop

open KeyedReuse StepRun

/-! ## The store of the loop -/

def store (s : CfrState) : Store Nat VisualFrameKey Picture where
  slots := fun i => (s.slots i).containedKey.map fun key => (key, (s.slots i).content)
  ref := s.refNv12
  last := s.lastCompositedKey

/-! ## Keys only grow -/

namespace VisualInputs

/-- The key of `v'` is that of `v`, or above it. -/
def Grows (v v' : VisualInputs) : Prop := v.currentVisualKey ≤ v'.currentVisualKey

variable {v v' v'' : VisualInputs}

theorem Grows.refl (v : VisualInputs) : Grows v v := le_refl _

theorem Grows.trans (h : Grows v v') (h' : Grows v' v'') : Grows v v'' := le_trans h h'

theorem setCursor_grows (v : VisualInputs) (cursor : CursorState) : Grows v (v.setCursor cursor) :=
  VisualFrameKey.le_def.mpr ⟨le_refl _, le_refl _, Nat.le_succ _, le_refl _, le_refl _⟩

theorem moveCursor_grows (v : VisualInputs) (visible : Bool) (x y : Int) :
    Grows v (v.moveCursor visible x y) := by
  unfold moveCursor
  split
  · exact setCursor_grows v _
  · exact .refl v

theorem bumpScreen_grows (v : VisualInputs) : Grows v v.bumpScreen :=
  VisualFrameKey.le_def.mpr ⟨Nat.le_succ _, le_refl _, le_refl _, le_refl _, le_refl _⟩

theorem updateOdCursor_grows (cfg : CfrConfig) (v : VisualInputs) (info : OdFrameInfo) :
    Grows v (updateOdCursor cfg v info) := by
  have hshape : ∀ shaped : VisualInputs, Grows v shaped →
      Grows v (if info.lastMouseUpdateTime != 0 then
        { shaped with odPointerReportedByDxgi := true }.moveCursor info.pointerVisible
          info.pointerX info.pointerY
      else shaped) := by
    intro shaped hs
    split
    · exact hs.trans (moveCursor_grows { shaped with odPointerReportedByDxgi := true } _ _ _)
    · exact hs
  unfold updateOdCursor
  apply hshape
  split
  · split
    · exact setCursor_grows v _
    · exact .refl v
  · exact .refl v

theorem captureShape_grows {info : Win32Cursor} (h : captureShape v info = some v') :
    Grows v v' := by
  unfold captureShape at h
  split at h
  · obtain ⟨shape, _, rfl⟩ := Option.map_eq_some_iff.mp h
    exact setCursor_grows v _
  · cases h
    exact .refl v

theorem hideCursor_grows (v : VisualInputs) : Grows v (hideCursor v) := by
  unfold hideCursor
  split
  · exact setCursor_grows v _
  · exact .refl v

theorem sampleWgcCursor_grows (cfg : CfrConfig) (v : VisualInputs) (info : Win32Cursor) :
    Grows v (sampleWgcCursor cfg v info) := by
  unfold sampleWgcCursor
  split
  · exact .refl v
  split
  · exact .refl v
  split
  · exact hideCursor_grows v
  split
  · exact .refl v
  · rename_i shaped hs
    split
    · exact captureShape_grows hs
    · exact (captureShape_grows hs).trans (moveCursor_grows shaped _ _ _)

theorem seedOdCursor_grows (cfg : CfrConfig) (v : VisualInputs) (info : Win32Cursor) :
    Grows v (seedOdCursorFromWin32 cfg v info) := by
  unfold seedOdCursorFromWin32
  split
  · exact .refl v
  split
  · exact hideCursor_grows v
  split
  · exact .refl v
  · rename_i shaped hs
    exact (captureShape_grows hs).trans (moveCursor_grows shaped _ _ _)

theorem sampleOverlay_grows (v : VisualInputs) (overlay : WebcamOverlayLive) :
    Grows v (sampleOverlay v overlay) := by
  unfold sampleOverlay
  split
  · exact .refl v
  · exact VisualFrameKey.le_def.mpr ⟨le_refl _, le_refl _, le_refl _, Nat.le_succ _, le_refl _⟩

theorem observeProvider_grows (cfg : CfrConfig) (v : VisualInputs) (overlay : WebcamOverlayLive)
    (provided : Option WebcamFrameSnapshot) : Grows v (observeProvider cfg v overlay provided) :=
  observeWebcam_le _ _ _

theorem sampleInputs_grows (cfg : CfrConfig) (v : VisualInputs) (inp : TickInput) :
    Grows v (sampleInputs cfg v inp) :=
  ((sampleWgcCursor_grows cfg v _).trans (sampleOverlay_grows _ _)).trans
    (observeProvider_grows cfg _ _ _)

theorem Grows.screen_le (h : Grows v v') :
    v.visualGenerations.screen ≤ v'.visualGenerations.screen :=
  (VisualFrameKey.le_def.mp h).1

end VisualInputs

/-! ## What the loop does outside its ticks -/

/-- Encode textures and results are untouched, counters grow, and a frame that is ready for a
    tick was ready before or has advanced the screen counter. -/
structure Captured (cfg : CfrConfig) (s s' : CfrState) : Prop where
  slots : s'.slots = s.slots
  ref : s'.refNv12 = s.refNv12
  last : s'.lastCompositedKey = s.lastCompositedKey
  composited : s'.lastComposited = s.lastComposited
  submissions : s'.submissions = s.submissions
  grows : s.inputs.Grows s'.inputs
  od : s'.odCapturedTexValid → s.odCapturedTexValid ∨
    (cfg.useOdCapture = true ∧ cfg.usePhaseCorrect = false ∧
      s.inputs.visualGenerations.screen < s'.inputs.visualGenerations.screen)
  wgc : s'.pendingWgcTex.isSome → s.pendingWgcTex.isSome ∨
    (cfg.useOdCapture = false ∧
      s.inputs.visualGenerations.screen < s'.inputs.visualGenerations.screen)

section
variable {cfg : CfrConfig} {s s' s'' : CfrState}

theorem Captured.refl (s : CfrState) : Captured cfg s s :=
  ⟨rfl, rfl, rfl, rfl, rfl, .refl _, .inl, .inl⟩

/-- Only fields outside `Captured` differ, apart from frames that were discarded. -/
theorem Captured.of_inputs {inputs : VisualInputs} (h : s.inputs.Grows inputs) :
    Captured cfg s { s with inputs := inputs } :=
  ⟨rfl, rfl, rfl, rfl, rfl, h, .inl, .inl⟩

theorem odAcquire_captured (hod : cfg.useOdCapture = true) (check : OdFrameCheck) (frame : Image)
    (info : OdFrameInfo) : Captured cfg s (odAcquire cfg s check frame info) := by
  unfold odAcquire
  cases check with
  | skip => exact .refl s
  | fatal => exact ⟨rfl, rfl, rfl, rfl, rfl, .refl _, .inl, .inl⟩
  | ok =>
      dsimp only
      split
      · exact .refl s
      · exact .of_inputs (VisualInputs.updateOdCursor_grows cfg _ info)
      · have hgrows : s.inputs.bumpScreen.Grows (updateOdCursor cfg s.inputs.bumpScreen info) :=
          VisualInputs.updateOdCursor_grows cfg _ info
        have hscreen : s.inputs.visualGenerations.screen <
            (updateOdCursor cfg s.inputs.bumpScreen info).visualGenerations.screen :=
          Nat.lt_of_succ_le hgrows.screen_le
        have hall := (VisualInputs.bumpScreen_grows s.inputs).trans hgrows
        by_cases hph : cfg.usePhaseCorrect = true
        · rw [if_pos hph]
          unfold writeOdFrame
          rw [if_pos hph]
          exact ⟨rfl, rfl, rfl, rfl, rfl, hall, .inl, .inl⟩
        · rw [if_neg hph]
          unfold writeOdFrame markOdFrame
          rw [if_neg hph]
          exact ⟨rfl, rfl, rfl, rfl, rfl, hall,
            fun _ => .inr ⟨hod, Bool.not_eq_true _ ▸ hph, hscreen⟩, .inl⟩

theorem odAcquireFailure_captured (action : OdAcquireFailAction) (topologyChanged : Bool) :
    Captured cfg s (odAcquireFailure s action topologyChanged) := by
  unfold odAcquireFailure
  split
  · split
    · exact ⟨rfl, rfl, rfl, rfl, rfl, .refl _, .inl, .inl⟩
    · exact .refl s
  · exact ⟨rfl, rfl, rfl, rfl, rfl, .refl _, .inl, .inl⟩
  · exact ⟨rfl, rfl, rfl, rfl, rfl, .refl _, .inl, .inl⟩

theorem wgcDrain_captured (hwgc : cfg.useOdCapture = false) (count : Nat)
    (outcome : WgcFrameOutcome) : Captured cfg s (wgcDrain s count outcome) := by
  unfold wgcDrain
  split
  · exact .refl s
  · dsimp only
    split
    · exact ⟨rfl, rfl, rfl, rfl, rfl, VisualInputs.bumpScreen_grows _, .inl,
        fun _ => .inr ⟨hwgc, Nat.lt_succ_self _⟩⟩
    · exact ⟨rfl, rfl, rfl, rfl, rfl, .refl _, .inl, .inl⟩
    · exact ⟨rfl, rfl, rfl, rfl, rfl, .refl _, .inl, .inl⟩

theorem discardCaptured_captured (now : UInt64) : Captured cfg s (discardCaptured cfg s now) := by
  unfold discardCaptured
  dsimp only
  split <;>
    exact ⟨rfl, rfl, rfl, rfl, rfl, .refl _, fun h => absurd h Bool.false_ne_true,
      fun h => absurd h Bool.false_ne_true⟩

/-- Steps that touch the timeline only. -/
structure TimelineOnly (s s' : CfrState) : Prop where
  slots : s'.slots = s.slots
  ref : s'.refNv12 = s.refNv12
  last : s'.lastCompositedKey = s.lastCompositedKey
  composited : s'.lastComposited = s.lastComposited
  submissions : s'.submissions = s.submissions
  inputs : s'.inputs = s.inputs
  od : s'.odCapturedTexValid = s.odCapturedTexValid
  wgc : s'.pendingWgcTex = s.pendingWgcTex

theorem TimelineOnly.refl (s : CfrState) : TimelineOnly s s :=
  ⟨rfl, rfl, rfl, rfl, rfl, rfl, rfl, rfl⟩

theorem TimelineOnly.trans (h : TimelineOnly s s') (h' : TimelineOnly s' s'') :
    TimelineOnly s s'' :=
  ⟨h'.slots.trans h.slots, h'.ref.trans h.ref, h'.last.trans h.last,
    h'.composited.trans h.composited, h'.submissions.trans h.submissions,
    h'.inputs.trans h.inputs, h'.od.trans h.od, h'.wgc.trans h.wgc⟩

theorem TimelineOnly.captured (h : TimelineOnly s s') : Captured cfg s s' :=
  ⟨h.slots, h.ref, h.last, h.composited, h.submissions, h.inputs ▸ .refl _,
    fun hv => .inl (h.od ▸ hv), fun hp => .inl (h.wgc ▸ hp)⟩

theorem resumeEpoch_timeline (now : UInt64) : TimelineOnly s (resumeEpoch s now) := by
  unfold resumeEpoch
  split <;> exact ⟨rfl, rfl, rfl, rfl, rfl, rfl, rfl, rfl⟩

theorem openEpoch_timeline (cfg : CfrConfig) (now : UInt64) :
    TimelineOnly s (openEpoch cfg s now) := by
  unfold openEpoch
  split <;> exact ⟨rfl, rfl, rfl, rfl, rfl, rfl, rfl, rfl⟩

theorem resync_timeline (elapsed100ns : UInt64) : TimelineOnly s (resync cfg s elapsed100ns) := by
  unfold resync
  dsimp only
  split <;> exact ⟨rfl, rfl, rfl, rfl, rfl, rfl, rfl, rfl⟩

theorem TimelineOnly.setPhase (h : TimelineOnly s s') (phase : CfrPhase) :
    TimelineOnly s { s' with phase := phase } :=
  ⟨h.slots, h.ref, h.last, h.composited, h.submissions, h.inputs, h.od, h.wgc⟩

theorem enterTicks_captured (pauseRequested : Bool) (clock : ClockReadings) (reaped : Bool) :
    Captured cfg s (enterTicks cfg s pauseRequested clock reaped) := by
  unfold enterTicks
  split
  · exact discardCaptured_captured _
  · have hopen := (resumeEpoch_timeline (s := s) clock.pause).trans
      (openEpoch_timeline cfg clock.epoch)
    dsimp only
    split
    · exact hopen.captured
    split
    · exact (hopen.setPhase _).captured
    · exact ((hopen.trans (resync_timeline _)).setPhase _).captured

end

/-! ## The invariant -/

/-- The store is sound; the key of the last composite is behind the counters, and behind the
    screen counter while a frame is ready for a tick. -/
structure Keyed (cfg : CfrConfig) (s : CfrState) : Prop where
  sound : (store s).Sound
  last_le : ∀ l, s.lastCompositedKey = some l → l ≤ s.inputs.currentVisualKey
  od : s.odCapturedTexValid → cfg.useOdCapture = true ∧ ∀ l, s.lastCompositedKey = some l →
    cfg.usePhaseCorrect = false ∧ l.screenGeneration < s.inputs.visualGenerations.screen
  wgc : s.pendingWgcTex.isSome → cfg.useOdCapture = false ∧
    ∀ l, s.lastCompositedKey = some l →
      l.screenGeneration < s.inputs.visualGenerations.screen
  /-- the reference holds the last composited picture -/
  reference : ∀ key pic, s.refNv12 = some (key, pic) → s.lastComposited = some pic
  noReference : cfg.refAllocated = false → s.refNv12 = none
  repeats : ∀ sub ∈ s.submissions, sub.duplicate → sub.reference = some sub.content

section
variable {cfg : CfrConfig} {s s' : CfrState}

theorem slot_store {i : Nat} {key : VisualFrameKey}
    (h : (s.slots i).containedKey = some key) :
    (store s).slots i = some (key, (s.slots i).content) :=
  Option.map_eq_some_iff.mpr ⟨key, h, rfl⟩

theorem Keyed.initial (cfg : CfrConfig) (inputs : VisualInputs) (textures : Nat → Picture) :
    Keyed cfg (.initial cfg inputs textures) := by
  refine ⟨.of_empty (fun _ => rfl) rfl, ?_, ?_, ?_, ?_, fun _ => rfl, ?_⟩
  · intro l hl
    cases hl
  · intro hv
    refine ⟨?_, fun l hl => by cases hl⟩
    simp only [CfrState.initial, Bool.and_eq_true] at hv
    exact hv.1
  · intro hp
    refine ⟨?_, fun l hl => by cases hl⟩
    cases hod : cfg.useOdCapture with
    | false => rfl
    | true => simp [CfrState.initial, hod] at hp
  · intro key pic hr
    cases hr
  · intro sub hsub
    cases hsub

theorem Keyed.captured (hI : Keyed cfg s) (hc : Captured cfg s s') : Keyed cfg s' := by
  have hstore : store s' = store s := by
    unfold store
    rw [hc.slots, hc.ref, hc.last]
  refine ⟨by rw [hstore]; exact hI.sound, ?_, ?_, ?_, ?_, ?_, ?_⟩
  · intro l hl
    rw [hc.last] at hl
    exact le_trans (hI.last_le l hl) hc.grows
  · intro hv
    rw [hc.last]
    obtain hv | ⟨hod, hph, hlt⟩ := hc.od hv
    · refine ⟨(hI.od hv).1, fun l hl => ?_⟩
      obtain ⟨hph, hlt⟩ := (hI.od hv).2 l hl
      exact ⟨hph, lt_of_lt_of_le hlt hc.grows.screen_le⟩
    · refine ⟨hod, fun l hl => ⟨hph, lt_of_le_of_lt ?_ hlt⟩⟩
      exact (VisualFrameKey.le_def.mp (hI.last_le l hl)).1
  · intro hp
    rw [hc.last]
    obtain hp | ⟨hod, hlt⟩ := hc.wgc hp
    · refine ⟨(hI.wgc hp).1, fun l hl => ?_⟩
      exact lt_of_lt_of_le ((hI.wgc hp).2 l hl) hc.grows.screen_le
    · refine ⟨hod, fun l hl => lt_of_le_of_lt ?_ hlt⟩
      exact (VisualFrameKey.le_def.mp (hI.last_le l hl)).1
  · rw [hc.ref, hc.composited]
    exact hI.reference
  · rw [hc.ref]
    exact hI.noReference
  · rw [hc.submissions]
    exact hI.repeats

/-! ## The source of a tick -/

/-- The condition of the tick loop. -/
def ticksOn (cfg : CfrConfig) (s : CfrState) : Bool :=
  match s.phase with
  | .ticks elapsed100ns catchUpFrames =>
      decide (elapsed100ns ≥ s.nextTick100ns ∧ catchUpFrames < cfg.kMaxCatchUpFrames)
  | _ => false

/-- The tick emits a ring entry. -/
def emitsEntry (cfg : CfrConfig) (s : CfrState) (inp : TickInput) : Bool :=
  ticksOn cfg s && inp.slot.isSome && cfg.usePhaseCorrect && (pacingDecision cfg s).emit

/-- Selecting a source changes capture state only, and a source it finds was emitted from the
    ring or was ready. -/
theorem selectSource_spec (cfg : CfrConfig) (s : CfrState) :
    Captured cfg s (selectSource cfg s).2 ∧ (selectSource cfg s).2.inputs = s.inputs ∧
      ((selectSource cfg s).1.isSome →
        (cfg.usePhaseCorrect = true ∧ (pacingDecision cfg s).emit = true) ∨
          s.odCapturedTexValid = true ∨ s.pendingWgcTex.isSome) := by
  unfold selectSource
  split
  · rename_i hph
    dsimp only
    split
    · rename_i hemit
      exact ⟨⟨rfl, rfl, rfl, rfl, rfl, .refl _, .inl, .inl⟩, rfl, fun _ => .inl ⟨hph, hemit⟩⟩
    split
    · rename_i hseed
      rw [Bool.and_eq_true] at hseed
      exact ⟨⟨rfl, rfl, rfl, rfl, rfl, .refl _, .inl, .inl⟩, rfl, fun _ => .inr (.inl hseed.2)⟩
    · exact ⟨⟨rfl, rfl, rfl, rfl, rfl, .refl _, .inl, .inl⟩, rfl, fun h => by cases h⟩
  split
  · refine ⟨.refl s, rfl, fun h => .inr (.inl ?_)⟩
    cases hv : s.odCapturedTexValid with
    | true => rfl
    | false => simp [hv] at h
  · exact ⟨.refl s, rfl, fun h => .inr (.inr h)⟩

theorem dynamicOverlayChanged_ne {last current : VisualFrameKey} {overlay : WebcamOverlayLive}
    (h : dynamicOverlayChanged cfg (some last) current overlay = true) : last ≠ current := by
  rintro rfl
  simp [dynamicOverlayChanged] at h

theorem heldSource_isSome {source : Option Image} {overlay : WebcamOverlayLive}
    (h : (heldSource cfg s source overlay).isSome) :
    source.isSome ∨ dynamicOverlayChanged cfg s.lastCompositedKey s.inputs.currentVisualKey
      overlay = true := by
  unfold heldSource at h
  dsimp only at h
  by_cases hre : shouldRecompositeHeldScreen source.isSome s.odHolding
      (dynamicOverlayChanged cfg s.lastCompositedKey s.inputs.currentVisualKey overlay)
      (if cfg.useOdCapture then s.odCapturedTex else s.heldWgcTex).isSome = true
  · exact .inr (shouldRecompositeHeldScreen_changed hre)
  · rw [if_neg hre] at h
    exact .inl h

theorem tickSource_captured (inp : TickInput) : Captured cfg s (tickSource cfg s inp).2 := by
  obtain ⟨hsel, hinputs, _⟩ := selectSource_spec cfg s
  unfold tickSource
  refine ⟨hsel.slots, hsel.ref, hsel.last, hsel.composited, hsel.submissions, ?_, ?_, ?_⟩
  · exact hsel.grows.trans (VisualInputs.sampleInputs_grows cfg _ inp)
  · intro hv
    obtain hv | ⟨hod, hph, hlt⟩ := hsel.od hv
    · exact .inl hv
    · exact .inr ⟨hod, hph, lt_of_lt_of_le hlt (VisualInputs.sampleInputs_grows cfg _ inp).screen_le⟩
  · intro hp
    obtain hp | ⟨hod, hlt⟩ := hsel.wgc hp
    · exact .inl hp
    · exact .inr ⟨hod, lt_of_lt_of_le hlt (VisualInputs.sampleInputs_grows cfg _ inp).screen_le⟩

/-- The condition on a tick: it does not emit a ring entry under the key of the last
    composite, the key that its samples of pointer, overlay and camera lead to. -/
def EmitsFresh (cfg : CfrConfig) (s : CfrState) (inp : TickInput) : Prop :=
  emitsEntry cfg s inp → s.lastCompositedKey ≠ some (sampleInputs cfg s.inputs inp).currentVisualKey

/-- A tick that found a source composites under a key above the last one. -/
theorem tickSource_fresh (hI : Keyed cfg s) {inp : TickInput} {slot : Nat}
    (hon : ticksOn cfg s = true) (hslot : inp.slot = some slot) (hG : EmitsFresh cfg s inp)
    (hsome : (tickSource cfg s inp).1.isSome) :
    (store (tickSource cfg s inp).2).Fresh (tickSource cfg s inp).2.inputs.currentVisualKey := by
  obtain ⟨hsel, hinputs, hready⟩ := selectSource_spec cfg s
  have hlast : (tickSource cfg s inp).2.lastCompositedKey = s.lastCompositedKey := hsel.last
  have hkey : (tickSource cfg s inp).2.inputs = sampleInputs cfg s.inputs inp := by
    rw [← hinputs]
    rfl
  have hgrows := VisualInputs.sampleInputs_grows cfg s.inputs inp
  rw [hkey]
  intro l hl
  have hl' : s.lastCompositedKey = some l := hlast.symm.trans hl
  refine lt_of_le_of_ne (le_trans (hI.last_le l hl') hgrows) ?_
  have hscreen : l.screenGeneration < s.inputs.visualGenerations.screen →
      l ≠ (sampleInputs cfg s.inputs inp).currentVisualKey := by
    rintro hlt rfl
    exact absurd hgrows.screen_le (Nat.not_le_of_lt hlt)
  obtain hsrc | hchanged := heldSource_isSome (s := (tickSource cfg s inp).2) hsome
  · obtain ⟨hph, hemit⟩ | hv | hp := hready hsrc
    · intro heq
      refine hG ?_ (hl'.trans (congrArg some heq))
      unfold emitsEntry
      rw [hon, hslot, hph, hemit]
      rfl
    · exact hscreen ((hI.od hv).2 l hl').2
    · exact hscreen ((hI.wgc hp).2 l hl')
  · rw [hlast, hl', hkey] at hchanged
    exact dynamicOverlayChanged_ne hchanged

/-! ## Writing the slot -/

theorem consumeSource_spec (cfg : CfrConfig) (s : CfrState) :
    (consumeSource cfg s).slots = s.slots ∧ (consumeSource cfg s).refNv12 = s.refNv12 ∧
      (consumeSource cfg s).lastCompositedKey = s.lastCompositedKey ∧
      (consumeSource cfg s).lastComposited = s.lastComposited ∧
      (consumeSource cfg s).submissions = s.submissions ∧
      (consumeSource cfg s).inputs = s.inputs ∧
      (cfg.useOdCapture = true → (consumeSource cfg s).odCapturedTexValid = false ∧
        (consumeSource cfg s).pendingWgcTex = s.pendingWgcTex) ∧
      (cfg.useOdCapture = false → (consumeSource cfg s).pendingWgcTex = none ∧
        (consumeSource cfg s).odCapturedTexValid = s.odCapturedTexValid) := by
  unfold consumeSource
  cases hod : cfg.useOdCapture with
  | true => simp
  | false =>
      cases hp : s.pendingWgcTex with
      | none => simp [hp]
      | some frame => simp

/-- A state whose store, bookkeeping and counters are those of `s`, with no frame ready. -/
theorem Keyed.consumed (hI : Keyed cfg s) {inputs : VisualInputs} (hg : s.inputs.Grows inputs) :
    Keyed cfg (consumeSource cfg { s with inputs := inputs }) := by
  obtain ⟨h1, h2, h3, h4, h5, h6, hod, hwgc⟩ := consumeSource_spec cfg { s with inputs := inputs }
  refine hI.captured ⟨h1, h2, h3, h4, h5, by rw [h6]; exact hg, ?_, ?_⟩
  · intro hv
    cases hb : cfg.useOdCapture with
    | true => exact absurd hv (by rw [(hod hb).1]; exact Bool.false_ne_true)
    | false => exact .inl ((hwgc hb).2 ▸ hv)
  · intro hp
    cases hb : cfg.useOdCapture with
    | true => exact .inl ((hod hb).2 ▸ hp)
    | false => exact absurd hp (by rw [(hwgc hb).1]; exact Bool.false_ne_true)

/-- After `consumeSource` no frame is ready for a tick. -/
theorem Keyed.consumed_unready (hI : Keyed cfg s) (inputs : VisualInputs) :
    (consumeSource cfg { s with inputs := inputs }).odCapturedTexValid = false ∧
      (consumeSource cfg { s with inputs := inputs }).pendingWgcTex = none := by
  obtain ⟨_, _, _, _, _, _, hod, hwgc⟩ := consumeSource_spec cfg { s with inputs := inputs }
  cases hb : cfg.useOdCapture with
  | true =>
      refine ⟨(hod hb).1, ?_⟩
      rw [(hod hb).2]
      cases hp : s.pendingWgcTex with
      | none => rfl
      | some frame =>
          have := (hI.wgc (by rw [hp]; rfl)).1
          rw [hb] at this
          cases this
  | false =>
      refine ⟨?_, (hwgc hb).1⟩
      rw [(hwgc hb).2]
      cases hv : s.odCapturedTexValid with
      | false => rfl
      | true =>
          have := (hI.od hv).1
          rw [hb] at this
          cases this

theorem store_storePicture (slot : Nat) (key : VisualFrameKey) (pic : Picture) :
    store (storePicture cfg s slot key pic) =
      (store s).composite cfg.refAllocated key pic slot := by
  refine Store.ext ?_ ?_ rfl
  · funext i
    by_cases hi : i = slot
    · subst hi
      rw [Store.composite_slots_self]
      simp [store, storePicture]
    · rw [Store.composite_slots_of_ne hi]
      simp [store, storePicture, Function.update_of_ne hi]
  · unfold store storePicture Store.composite
    rfl

/-- A composite under a fresh key keeps the invariant. -/
theorem Keyed.storePicture (hI : Keyed cfg s) {key : VisualFrameKey}
    (hfresh : (store s).Fresh key) (hle : key ≤ s.inputs.currentVisualKey)
    (hod : s.odCapturedTexValid = false) (hwgc : s.pendingWgcTex = none) (slot : Nat)
    (pic : Picture) : Keyed cfg (storePicture cfg s slot key pic) := by
  refine ⟨?_, ?_, ?_, ?_, ?_, ?_, hI.repeats⟩
  · rw [store_storePicture]
    exact hI.sound.composite hfresh _ _ _
  · intro l hl
    cases hl
    exact hle
  · intro hv
    have hv' : s.odCapturedTexValid = true := hv
    rw [hod] at hv'
    cases hv'
  · intro hp
    have hp' : s.pendingWgcTex.isSome = true := hp
    rw [hwgc] at hp'
    cases hp'
  · intro key' pic' hr
    unfold CfrLoop.storePicture at hr ⊢
    cases href : cfg.refAllocated with
    | true =>
        rw [href, if_pos rfl, Option.some.injEq, Prod.mk.injEq] at hr
        exact congrArg some hr.2
    | false =>
        rw [href, if_neg Bool.false_ne_true, hI.noReference href] at hr
        cases hr
  · intro href
    unfold CfrLoop.storePicture
    rw [href, if_neg Bool.false_ne_true]
    exact hI.noReference href

theorem compositeTick_keyed (hI : Keyed cfg s)
    (hfresh : (store s).Fresh s.inputs.currentVisualKey) (slot : Nat) (source : Image)
    (inp : TickInput) : Keyed cfg (compositeTick cfg s slot source inp).2 := by
  have hseed : s.inputs.Grows
      (if cfg.gpuCompositorReady then seedOdCursorFromWin32 cfg s.inputs inp.compositeCursor
       else s.inputs) := by
    split
    · exact VisualInputs.seedOdCursor_grows cfg _ _
    · exact .refl _
  unfold compositeTick
  dsimp only
  split
  · exact hI.captured (.of_inputs hseed)
  split
  · exact hI.consumed hseed
  · exact hI.consumed hseed
  · obtain ⟨hod, hwgc⟩ := hI.consumed_unready _
    obtain ⟨_, _, h3, _, _, h6, _⟩ := consumeSource_spec cfg { s with
      inputs := if cfg.gpuCompositorReady then
        seedOdCursorFromWin32 cfg s.inputs inp.compositeCursor else s.inputs }
    refine (hI.consumed hseed).storePicture ?_ (by rw [h6]; exact hseed) hod hwgc slot _
    intro l hl
    exact hfresh l (h3.symm.trans hl)

theorem duplicateTick_keyed (hI : Keyed cfg s) {key : VisualFrameKey} {pic : Picture}
    (href : s.refNv12 = some (key, pic)) (slot : Nat) :
    Keyed cfg (duplicateTick s slot key pic) ∧
      ((duplicateTick s slot key pic).slots slot).content = pic := by
  by_cases hcur : (s.slots slot).containedKey = some key
  · have hslots : (duplicateTick s slot key pic).slots = s.slots := by
      unfold duplicateTick
      rw [hcur, beq_self_eq_true]
      rfl
    refine ⟨hI.captured ⟨hslots, rfl, rfl, rfl, rfl, .refl _, .inl, .inl⟩, ?_⟩
    rw [hslots]
    -- the copy was skipped: equal keys, equal pictures
    exact hI.sound.reuse slot key _ pic (slot_store hcur) href
  · have hslots : (duplicateTick s slot key pic).slots =
        Function.update s.slots slot { content := pic, containedKey := some key } := by
      unfold duplicateTick
      rw [beq_eq_false_iff_ne.mpr hcur]
      rfl
    refine ⟨⟨?_, hI.last_le, hI.od, hI.wgc, hI.reference, hI.noReference, hI.repeats⟩, ?_⟩
    · have hstore : store (duplicateTick s slot key pic) = (store s).duplicate slot := by
        refine Store.ext ?_ rfl rfl
        funext i
        unfold store
        dsimp only
        rw [hslots]
        by_cases hi : i = slot
        · subst hi
          simp [Store.duplicate, href]
        · simp [Store.duplicate, Function.update_of_ne hi]
      rw [hstore]
      exact hI.sound.duplicate slot
    · rw [hslots, Function.update_self]

/-! ## A tick, and a step -/

theorem Keyed.submitted (hI : Keyed cfg s) (sub : Submission)
    (hsub : sub.duplicate → sub.reference = some sub.content) :
    Keyed cfg { s with submissions := s.submissions ++ [sub] } := by
  refine ⟨hI.sound, hI.last_le, hI.od, hI.wgc, hI.reference, hI.noReference, ?_⟩
  intro sub' hmem hdup
  rw [List.mem_append, List.mem_singleton] at hmem
  obtain hmem | rfl := hmem
  · exact hI.repeats sub' hmem hdup
  · exact hsub hdup

theorem Keyed.timeline (hI : Keyed cfg s) (ht : TimelineOnly s s') : Keyed cfg s' :=
  hI.captured ht.captured

theorem submit_keyed (hI : Keyed cfg s) {slot : Nat} {duplicate : Bool}
    (hdup : duplicate → s.refNv12.map Prod.snd = some (s.slots slot).content) (ptsNs : UInt64)
    (inp : TickInput) (elapsed100ns catchUpFrames : UInt64) :
    Keyed cfg (submit cfg s slot ptsNs duplicate inp elapsed100ns catchUpFrames) := by
  have hsub := hI.submitted { slot := slot, ptsNs := ptsNs, duplicate := duplicate
                              content := (s.slots slot).content
                              reference := s.refNv12.map Prod.snd } hdup
  unfold submit
  dsimp only
  split
  · exact hsub.timeline ⟨rfl, rfl, rfl, rfl, rfl, rfl, rfl, rfl⟩
  split
  · exact hsub.timeline ⟨rfl, rfl, rfl, rfl, rfl, rfl, rfl, rfl⟩
  · exact hsub.timeline ⟨rfl, rfl, rfl, rfl, rfl, rfl, rfl, rfl⟩

/-- The slot a tick writes keeps the invariant, and a duplicate leaves the reference's picture
    in the slot. -/
theorem writeSlot_keyed (hI : Keyed cfg s) {source : Option Image}
    (hfresh : source.isSome → (store s).Fresh s.inputs.currentVisualKey) (slot : Nat)
    (inp : TickInput) :
    Keyed cfg (writeSlot cfg s slot source inp).2 ∧
      ((writeSlot cfg s slot source inp).1 = .duplicated →
        (writeSlot cfg s slot source inp).2.refNv12.map Prod.snd =
          some ((writeSlot cfg s slot source inp).2.slots slot).content) := by
  unfold writeSlot
  split
  · rename_i tex
    refine ⟨compositeTick_keyed hI (hfresh rfl) slot tex inp, fun h => ?_⟩
    unfold compositeTick at h
    dsimp only at h
    split at h
    · cases h
    · split at h <;> cases h
  · split
    · rename_i key pic href
      obtain ⟨hkeyed, hcontent⟩ := duplicateTick_keyed hI href slot
      refine ⟨hkeyed, fun _ => ?_⟩
      have hsame : (duplicateTick s slot key pic).refNv12 = s.refNv12 := rfl
      rw [hsame, href, hcontent]
      rfl
    · exact ⟨hI, fun h => by cases h⟩

theorem tickWithSlot_keyed (hI : Keyed cfg s) {inp : TickInput} {slot : Nat}
    (hon : ticksOn cfg s = true) (hslot : inp.slot = some slot) (hG : EmitsFresh cfg s inp)
    (elapsed100ns catchUpFrames : UInt64) :
    Keyed cfg (tickWithSlot cfg s slot inp elapsed100ns catchUpFrames) := by
  obtain ⟨hw, hdup⟩ := writeSlot_keyed (hI.captured (tickSource_captured inp))
    (tickSource_fresh hI hon hslot hG) slot inp
  unfold tickWithSlot
  dsimp only
  split
  · exact hw.timeline ⟨rfl, rfl, rfl, rfl, rfl, rfl, rfl, rfl⟩
  · exact hw.timeline ⟨rfl, rfl, rfl, rfl, rfl, rfl, rfl, rfl⟩
  · exact submit_keyed hw (fun h => by cases h) _ _ _ _
  · rename_i hres
    exact submit_keyed hw (fun _ => hdup hres) _ _ _ _

theorem tick_keyed (hI : Keyed cfg s) {inp : TickInput} (hG : EmitsFresh cfg s inp)
    {elapsed100ns catchUpFrames : UInt64} (hphase : s.phase = .ticks elapsed100ns catchUpFrames) :
    Keyed cfg (tick cfg s elapsed100ns catchUpFrames inp) := by
  unfold tick
  split
  · rename_i hcond
    have hon : ticksOn cfg s = true := by
      unfold ticksOn
      rw [hphase]
      exact decide_eq_true hcond
    split
    · rename_i slot hslot
      exact tickWithSlot_keyed hI hon hslot hG _ _
    split
    · exact hI.timeline ⟨rfl, rfl, rfl, rfl, rfl, rfl, rfl, rfl⟩
    · exact hI.timeline ⟨rfl, rfl, rfl, rfl, rfl, rfl, rfl, rfl⟩
  · exact hI.timeline ⟨rfl, rfl, rfl, rfl, rfl, rfl, rfl, rfl⟩

/-- `EmitsFresh`, for a step that is a tick. -/
def EmissionsFresh (cfg : CfrConfig) (s : CfrState) : CfrAction → Prop
  | .tick inp => EmitsFresh cfg s inp
  | _ => True

instance (cfg : CfrConfig) (s : CfrState) (a : CfrAction) : Decidable (EmissionsFresh cfg s a) := by
  unfold EmissionsFresh EmitsFresh
  cases a <;> infer_instance

theorem step_keyed {a : CfrAction} (hI : Keyed cfg s) (hG : EmissionsFresh cfg s a)
    (h : step cfg s a = some s') : Keyed cfg s' := by
  unfold step at h
  split at h
  · cases h
    exact hI.timeline ⟨rfl, rfl, rfl, rfl, rfl, rfl, rfl, rfl⟩
  · cases h
    split
    · exact hI.timeline ⟨rfl, rfl, rfl, rfl, rfl, rfl, rfl, rfl⟩
    · exact hI
  · split at h
    · cases h
      exact hI.timeline ⟨rfl, rfl, rfl, rfl, rfl, rfl, rfl, rfl⟩
    · cases h
  · split at h
    · rename_i hod
      cases h
      rw [Bool.and_eq_true] at hod
      exact hI.captured (odAcquire_captured hod.1 _ _ _)
    · cases h
  · split at h
    · cases h
      exact hI.captured (odAcquireFailure_captured _ _)
    · cases h
  · split at h
    · rename_i hwgc
      cases h
      exact hI.captured (wgcDrain_captured (by simpa using hwgc) _ _)
    · cases h
  · cases h
    exact hI.captured (enterTicks_captured _ _ _)
  · rename_i hphase
    split at h
    · cases h
      exact tick_keyed hI hG hphase
    · cases h
  · cases h

end

/-! ## Results -/

/-- In a run whose ticks emit no ring entry under the key of the last composite: every
    duplicate submits what `refNv12` holds, which is the last composited picture, and a slot
    under the reference's key holds its picture. -/
theorem duplicate_ticks_repeat (cfg : CfrConfig) (inputs : VisualInputs) (textures : Nat → Picture)
    (as : List CfrAction) (s : CfrState)
    (hG : Meets (step cfg) (EmissionsFresh cfg) (.initial cfg inputs textures) as)
    (he : exec (step cfg) (.initial cfg inputs textures) as = some s) :
    (∀ sub ∈ s.submissions, sub.duplicate → sub.reference = some sub.content) ∧
      ∀ key pic, s.refNv12 = some (key, pic) → s.lastComposited = some pic ∧
        ∀ slot, (s.slots slot).containedKey = some key → (s.slots slot).content = pic := by
  have hI : Keyed cfg s := exec_invariant (fun _ _ _ hI hG hs => step_keyed hI hG hs)
    (Keyed.initial cfg inputs textures) hG he
  refine ⟨hI.repeats, fun key pic href => ⟨hI.reference key pic href, fun slot hkey => ?_⟩⟩
  exact hI.sound.reuse slot key _ pic (slot_store hkey) href

/-- Without the pacing ring every tick meets the condition. -/
theorem plain_ticks_advance (cfg : CfrConfig) (hplain : cfg.usePhaseCorrect = false)
    (s : CfrState) (a : CfrAction) : EmissionsFresh cfg s a := by
  unfold EmissionsFresh EmitsFresh emitsEntry
  split
  · rw [hplain, Bool.and_false, Bool.false_and]
    intro h
    cases h
  · trivial

/-- Output Duplication with the ring, two encoder slots. -/
def ringConfig : CfrConfig := { useOdCapture := true, firstFrame := some 1, slotCount := 2 }

/-- An iteration at `now`, with the ticks it runs. -/
def iteration (now : UInt64) (slots : List Nat) : List CfrAction :=
  .enterTicks false { pause := 0, epoch := 1000000, now := now } true ::
    slots.map (fun slot => .tick { slot := some slot }) ++ [.tick { slot := none }]

def presented (frame : Image) (qpc : UInt64) : CfrAction :=
  .odAcquire .ok frame { lastPresentTime := qpc }

/-- One frame drained before each tick that emits one, and then a still desktop. -/
def steadyRun : List CfrAction :=
  iteration 1000000 [0] ++ [presented 2 1166666] ++ iteration 1166666 [1] ++
    [presented 3 1333332] ++ iteration 1333332 [0] ++ iteration 1500000 [1]

def blank : Nat → Picture := fun _ => { screen := 0 }

theorem duplicate_ticks_repeat_steadyRun :
    ∃ s, exec (step ringConfig) (.initial ringConfig {} blank) steadyRun = some s ∧
      s.submissions.map (fun sub => (sub.slot, sub.duplicate, sub.content.screen)) =
        [(0, false, 1), (1, false, 2), (0, false, 3), (1, true, 3)] ∧
      ∀ sub ∈ s.submissions, sub.duplicate → sub.reference = some sub.content := by
  obtain ⟨s, hs, hsub⟩ := Option.map_eq_some_iff.mp
    (show (exec (step ringConfig) (.initial ringConfig {} blank) steadyRun).map
      (fun s => s.submissions.map (fun sub => (sub.slot, sub.duplicate, sub.content.screen))) =
      some [(0, false, 1), (1, false, 2), (0, false, 3), (1, true, 3)] by decide)
  exact ⟨s, hs, hsub,
    (duplicate_ticks_repeat ringConfig {} blank steadyRun s (by decide) hs).1⟩

/-- One drain captures two frames; two ticks emit them; the desktop is still after that. -/
def burstRun : List CfrAction :=
  iteration 1000000 [0] ++ [presented 2 1166666, presented 3 1333332] ++
    iteration 1166666 [1] ++ iteration 1333332 [0] ++ iteration 1500000 [1]

/-- The duplicate submits frame 2 from slot 1, while the reference holds frame 3. -/
theorem two_entries_one_key :
    ∃ s, exec (step ringConfig) (.initial ringConfig {} blank) burstRun = some s ∧
      s.submissions.map (fun sub => (sub.slot, sub.duplicate, sub.content.screen)) =
        [(0, false, 1), (1, false, 2), (0, false, 3), (1, true, 2)] ∧
      s.lastComposited.map Picture.screen = some 3 ∧
      ¬ ∀ sub ∈ s.submissions, sub.duplicate → sub.reference = some sub.content := by
  obtain ⟨s, hs, hview⟩ := Option.map_eq_some_iff.mp
    (show (exec (step ringConfig) (.initial ringConfig {} blank) burstRun).map (fun s =>
      (s.submissions.map (fun sub => (sub.slot, sub.duplicate, sub.content.screen)),
        s.lastComposited.map Picture.screen,
        decide (∀ sub ∈ s.submissions, sub.duplicate → sub.reference = some sub.content))) =
      some ([(0, false, 1), (1, false, 2), (0, false, 3), (1, true, 2)], some 3, false) by
        decide)
  rw [Prod.mk.injEq, Prod.mk.injEq] at hview
  exact ⟨s, hs, hview.1, hview.2.1, of_decide_eq_false hview.2.2⟩

end Exosnap.Engine.CfrLoop
