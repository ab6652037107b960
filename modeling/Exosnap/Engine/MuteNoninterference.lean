/-
  What the encoder gets does not depend on the samples of a muted source, where the mute is asked
  for: `muted_samples_unheard`.

  The turns of the loop keep two runs alike (`MuteRuns`) as long as the mixer knows the mutes by
  the time it reads its sources. It is told where a drain begins, which is the invariant
  `Informed`; what a turn leaves of it is `Kept`.

  The mute is not asked for in three places, and `MuteReaches` leaves them out: the loop of a
  pause reads the sources before the mask has reached the mixer, `BeginDrain` puts the tail of a
  single source into its FIFO, and the tail of a bare track's resampler is fed as it is.
  `mute_is_not_asked_for` is a run through each.
-/
import Exosnap.Engine.MuteRuns

namespace Exosnap.Engine

namespace AudioThread

variable {σ κ δ α β : Type*} {M : Nat → Prop} {R : σ → σ → Prop} {p : Parts σ κ δ α β}

/-! ## What a turn leaves -/

/-- What the invariant reads of a source. -/
def Capture.settings : Capture σ κ → Option (BitVec 32 × Nat × Bool)
  | .bare => none
  | .mixed _ mixer => some mixer.settings

/-- No turn but the begin of a drain changes the mutes, or enters a drain. -/
structure Kept (t t' : AudioThread σ κ δ β) : Prop where
  sourceKinds : t'.sourceKinds = t.sourceKinds
  lastMuteMask : t'.lastMuteMask = t.lastMuteMask
  settings : Capture.settings t'.capture = Capture.settings t.capture
  phase : t'.phase = t.phase ∨ t'.phase = .top ∨ t'.phase = .done

theorem Kept.refl (t : AudioThread σ κ δ β) : Kept t t := ⟨rfl, rfl, rfl, .inl rfl⟩

theorem Kept.trans {t t' t'' : AudioThread σ κ δ β} (h : Kept t t') (h' : Kept t' t'') :
    Kept t t'' where
  sourceKinds := h'.sourceKinds.trans h.sourceKinds
  lastMuteMask := h'.lastMuteMask.trans h.lastMuteMask
  settings := h'.settings.trans h.settings
  phase := by
    rcases h'.phase with hsame | hnew
    · rw [hsame]
      exact h.phase
    · exact .inr hnew

theorem Kept.feed {t t' : AudioThread σ κ δ β} (h : Kept t t') (frames : List β) :
    Kept t (t'.feed frames) := ⟨h.sourceKinds, h.lastMuteMask, h.settings, h.phase⟩

theorem Kept.fail {t t' : AudioThread σ κ δ β} (h : Kept t t') : Kept t t'.fail :=
  ⟨h.sourceKinds, h.lastMuteMask, h.settings, .inr (.inr rfl)⟩

theorem kept_emitSilence (t : AudioThread σ κ δ β) (nowNs : Nat) (routed : Bool) :
    Kept t (t.emitSilenceForElapsed p nowNs routed) := by
  unfold emitSilenceForElapsed
  dsimp only
  split
  · exact .refl t
  · split
    · exact ⟨rfl, rfl, rfl, .inl rfl⟩
    · exact ⟨rfl, rfl, rfl, .inr (.inr rfl)⟩

theorem kept_reinit (t : AudioThread σ κ δ β) (answers : Nat → Option InnerStream) :
    Kept t (t.reinit p answers).1 := by
  obtain ⟨kinds, d, capture⟩ := t
  unfold AudioThread.reinit
  cases capture with
  | bare => exact ⟨rfl, rfl, rfl, .inl rfl⟩
  | mixed inners mixer =>
    exact ⟨rfl, rfl, congrArg some (MixedAudioSrc.settings_reinit ..), .inl rfl⟩

theorem kept_reactivate (t : AudioThread σ κ δ β) (k : Tick α) (realign : Bool)
    (answers : Nat → Option InnerStream) : Kept t (t.reactivate p k realign answers) := by
  have hre := kept_reinit (p := p) t answers
  unfold AudioThread.reactivate
  dsimp only
  split
  · refine Kept.trans ?_ (kept_emitSilence _ _ _)
    exact ⟨hre.sourceKinds, hre.lastMuteMask, hre.settings, hre.phase⟩
  · exact hre

theorem kept_degradedTurn (t : AudioThread σ κ δ β) (k : Tick α) :
    Kept t (t.degradedTurn p k) := by
  have hsilence := kept_emitSilence (p := p) t k.nowNs k.routed
  unfold AudioThread.degradedTurn
  dsimp only
  split
  · exact hsilence
  · split
    · exact hsilence
    · exact hsilence.trans (kept_reactivate ..)

theorem kept_mergedHealth (t : AudioThread σ κ δ β) (k : Tick α) :
    Kept t (t.mergedHealth p k) := by
  unfold AudioThread.mergedHealth
  dsimp only
  generalize (decide (0 < t.captureSourceCount) && t.degradedSourceCount == t.captureSourceCount &&
    !t.sourceOwnsTimeline) = clockDriven
  have hfilled : Kept t (if clockDriven then t.emitSilenceForElapsed p k.nowNs k.routed else t) := by
    cases clockDriven with
    | false => exact .refl t
    | true => exact kept_emitSilence ..
  generalize (if clockDriven then t.emitSilenceForElapsed p k.nowNs k.routed else t) = t'
    at hfilled ⊢
  split
  · exact .refl t
  · split
    · exact hfilled
    · split
      · exact hfilled
      · exact hfilled.trans (kept_reactivate ..)

theorem kept_idleTurn (t : AudioThread σ κ δ β) (k : Tick α) : Kept t (t.idleTurn p k) := by
  unfold AudioThread.idleTurn
  split
  · have hsilence := kept_emitSilence (p := p) { t with silentStalled := true } k.nowNs k.routed
    exact ⟨hsilence.sourceKinds, hsilence.lastMuteMask, hsilence.settings, hsilence.phase⟩
  · exact .refl t

theorem kept_leavePause (t : AudioThread σ κ δ β) (k : Tick α) : Kept t (t.leavePause k) :=
  ⟨rfl, rfl, rfl, .inr (.inl rfl)⟩

theorem kept_acquireBuffer (t : AudioThread σ κ δ β) (k : Tick α) :
    Kept t (t.acquireBuffer p k).1 := by
  obtain ⟨kinds, d, capture⟩ := t
  unfold AudioThread.acquireBuffer
  cases capture with
  | bare => exact ⟨rfl, rfl, rfl, .inl rfl⟩
  | mixed inners mixer =>
    exact ⟨rfl, rfl, congrArg some (MixedAudioSrc.settings_acquireBuffer ..), .inl rfl⟩

theorem kept_observeTiming (t : AudioThread σ κ δ β) (k : Tick α) :
    Kept t (t.observeTiming p k) := by
  unfold AudioThread.observeTiming
  split
  · exact .refl t
  · dsimp only
    split
    · exact ⟨rfl, rfl, rfl, .inl rfl⟩
    · exact ⟨rfl, rfl, rfl, .inl rfl⟩

theorem kept_feedPacket (t : AudioThread σ κ δ β) (k : Tick α) (trackMuted : Bool)
    (buf : RawAudioBuffer β) : Kept t (t.feedPacket p k trackMuted buf) := by
  have hgap := (kept_observeTiming (p := p) t k).feed (List.replicate
    (remainingGapFrames buf.gapFrames t.silenceFilledFramesSincePacket) p.silentOut)
  unfold AudioThread.feedPacket
  dsimp only
  split
  · exact hgap.fail
  · next frames _ =>
      have hfed := hgap.feed frames
      split
      · split
        · exact ⟨hfed.sourceKinds, hfed.lastMuteMask, hfed.settings, hfed.phase⟩
        · exact hfed
      · split
        · exact ⟨hfed.sourceKinds, hfed.lastMuteMask, hfed.settings, .inr (.inr rfl)⟩
        · exact hfed.fail

theorem kept_pauseTurn (t : AudioThread σ κ δ β) (k : Tick α) : Kept t (t.pauseTurn p k) := by
  unfold AudioThread.pauseTurn
  split
  · exact kept_leavePause t k
  · have hread := kept_acquireBuffer (p := p) t k
    split
    · next heq =>
        rw [heq] at hread
        exact hread
    · next t' lost heq =>
        rw [heq] at hread
        split
        · exact ⟨hread.sourceKinds, hread.lastMuteMask, hread.settings, .inr (.inl rfl)⟩
        · exact hread.trans (kept_leavePause t' k)

theorem kept_drainTurn (t : AudioThread σ κ δ β) (k : Tick α) (trackMuted : Bool) :
    Kept t (t.drainTurn p k trackMuted) := by
  unfold AudioThread.drainTurn
  split
  · exact ⟨rfl, rfl, rfl, .inr (.inl rfl)⟩
  · have hread := kept_acquireBuffer (p := p) t k
    split
    · next heq =>
        rw [heq] at hread
        exact ⟨hread.sourceKinds, hread.lastMuteMask, hread.settings, .inr (.inl rfl)⟩
    · next heq =>
        rw [heq] at hread
        exact hread.trans (kept_feedPacket ..)

theorem kept_drainOutput (t : AudioThread σ κ δ β) : Kept t (t.drainOutput p) := by
  obtain ⟨kinds, d, capture⟩ := t
  unfold AudioThread.drainOutput
  cases capture <;> exact ⟨rfl, rfl, rfl, .inr (.inr rfl)⟩

theorem kept_tailTurn (t : AudioThread σ κ δ β) (k : Tick α) : Kept t (t.tailTurn p k) := by
  unfold AudioThread.tailTurn
  split
  · exact kept_drainOutput t
  · have hread := kept_acquireBuffer (p := p) t k
    split
    · next heq =>
        rw [heq] at hread
        exact hread.fail
    · next heq =>
        rw [heq] at hread
        dsimp only
        split
        · exact hread.feed _
        · exact (hread.feed _).fail

/-! ## Pushing the mask -/

theorem muted_pushFrom_below (mask : BitVec 32) {i : Nat} (hi : i < 32)
    (kinds : List AudioSourceKind) : ∀ (n : Nat) (mixer : MixedAudioSrc κ), i < n →
      ((kinds.zipIdx n).foldl (fun mixer s => mixer.setSourceMuted s.2 (masked mask s.1))
        mixer).muted i = mixer.muted i := by
  induction kinds with
  | nil => exact fun _ _ _ => rfl
  | cons kind kinds ih =>
    intro n mixer hn
    rw [List.zipIdx_cons, List.foldl_cons, ih (n + 1) _ (by omega),
      MixedAudioSrc.muted_setSourceMuted _ _ _ hi, if_neg (by omega)]

theorem muted_pushFrom (mask : BitVec 32) (kinds : List AudioSourceKind) :
    ∀ (n : Nat) (mixer : MixedAudioSrc κ) (j : Nat) (kind : AudioSourceKind), n + j < 32 →
      kinds[j]? = some kind →
      ((kinds.zipIdx n).foldl (fun mixer s => mixer.setSourceMuted s.2 (masked mask s.1))
        mixer).muted (n + j) = masked mask kind := by
  induction kinds with
  | nil =>
    intro n mixer j kind _ h
    cases h
  | cons k kinds ih =>
    intro n mixer j kind hj h
    rw [List.zipIdx_cons, List.foldl_cons]
    cases j with
    | zero =>
      obtain rfl : k = kind := Option.some.inj h
      have hn : n < 32 := hj
      have hrest := muted_pushFrom_below mask hn kinds (n + 1)
        (mixer.setSourceMuted n (masked mask k)) (by omega)
      exact hrest.trans (by rw [MixedAudioSrc.muted_setSourceMuted _ _ _ hn, if_pos rfl])
    | succ j =>
      rw [show n + (j + 1) = n + 1 + j by omega]
      exact ih (n + 1) _ j kind (by omega) h

/-- The mixer mutes the sources whose kinds the mask holds. -/
theorem muted_pushMask (mask : BitVec 32) {kinds : List AudioSourceKind}
    (mixer : MixedAudioSrc κ) {i : Nat} {kind : AudioSourceKind} (hi : i < 32)
    (h : kinds[i]? = some kind) : (pushMask kinds mask mixer).muted i = masked mask kind := by
  have hpush := muted_pushFrom mask kinds 0 mixer i kind (by omega) h
  rw [Nat.zero_add] at hpush
  exact hpush

/-! ## The mutes that the mixer knows -/

structure Informed (M : Nat → Prop) (kinds : List AudioSourceKind) (bare : Bool)
    (t : AudioThread σ κ δ β) : Prop where
  sourceKinds : t.sourceKinds = kinds
  bare : t.capture.isBare = bare
  /-- What the loop remembers as pushed has reached the mixer. -/
  pushed : ∀ inners mixer, t.capture = .mixed inners mixer → ∀ (i : Nat) kind, M i →
    kinds[i]? = some kind → masked t.lastMuteMask kind = true → mixer.muted i = true
  drainMixed : ∀ trackMuted, t.phase = .draining trackMuted → ∀ inners mixer,
    t.capture = .mixed inners mixer → ∀ i, M i → mixer.muted i = true
  drainBare : ∀ trackMuted, t.phase = .draining trackMuted → t.capture = .bare → M 0 →
    trackMuted = true
  tail : t.phase = .tail → ∃ inners mixer, t.capture = .mixed inners mixer ∧ mixer.draining = true

theorem Kept.mixed {t t' : AudioThread σ κ δ β} (h : Kept t t')
    {inners' : List (OutputFormatAudioSrc σ)} {mixer' : MixedAudioSrc κ}
    (ht : t'.capture = .mixed inners' mixer') :
    ∃ inners mixer, t.capture = .mixed inners mixer ∧ mixer'.settings = mixer.settings := by
  have hsettings := h.settings
  rw [ht] at hsettings
  cases hc : t.capture with
  | bare =>
    rw [hc] at hsettings
    cases hsettings
  | mixed inners mixer =>
    rw [hc] at hsettings
    exact ⟨inners, mixer, rfl, Option.some.inj hsettings⟩

theorem Kept.bare_iff {t t' : AudioThread σ κ δ β} (h : Kept t t') :
    t'.capture.isBare = t.capture.isBare := by
  have hnone : ∀ c : Capture σ κ, c.isBare = (Capture.settings c).isNone := by
    intro c
    cases c <;> rfl
  rw [hnone, hnone, h.settings]

theorem eq_bare_of_isBare {c : Capture σ κ} (h : c.isBare = true) : c = .bare := by
  cases c with
  | bare => rfl
  | mixed => cases h

theorem Kept.drains {t t' : AudioThread σ κ δ β} (h : Kept t t') {trackMuted : Bool}
    (hphase : t'.phase = .draining trackMuted) : t.phase = .draining trackMuted := by
  rcases h.phase with hsame | htop | hdone
  · rw [← hsame, hphase]
  · rw [htop] at hphase
    cases hphase
  · rw [hdone] at hphase
    cases hphase

theorem Informed.kept {kinds : List AudioSourceKind} {bare : Bool} {t t' : AudioThread σ κ δ β}
    (hi : Informed M kinds bare t) (h : Kept t t') : Informed M kinds bare t' where
  sourceKinds := h.sourceKinds.trans hi.sourceKinds
  bare := h.bare_iff.trans hi.bare
  pushed := by
    intro inners' mixer' hc i kind hM hkind hmask
    obtain ⟨inners, mixer, hc₀, hsettings⟩ := h.mixed hc
    rw [h.lastMuteMask] at hmask
    rw [MixedAudioSrc.muted_congr hsettings]
    exact hi.pushed inners mixer hc₀ i kind hM hkind hmask
  drainMixed := by
    intro trackMuted hphase inners' mixer' hc i hM
    obtain ⟨inners, mixer, hc₀, hsettings⟩ := h.mixed hc
    rw [MixedAudioSrc.muted_congr hsettings]
    exact hi.drainMixed trackMuted (h.drains hphase) inners mixer hc₀ i hM
  drainBare := by
    intro trackMuted hphase hc h0
    have hbare : t.capture.isBare = true := by
      rw [← h.bare_iff, hc]
      rfl
    exact hi.drainBare trackMuted (h.drains hphase) (eq_bare_of_isBare hbare) h0
  tail := by
    intro hphase
    have hbefore : t.phase = .tail := by
      rcases h.phase with hsame | htop | hdone
      · rw [← hsame, hphase]
      · rw [htop] at hphase
        cases hphase
      · rw [hdone] at hphase
        cases hphase
    obtain ⟨inners, mixer, hc, hdraining⟩ := hi.tail hbefore
    have hsettings := h.settings
    rw [hc] at hsettings
    cases hc' : t'.capture with
    | bare =>
      rw [hc'] at hsettings
      cases hsettings
    | mixed inners' mixer' =>
      rw [hc'] at hsettings
      have hflag : mixer'.draining = mixer.draining := congrArg (·.2.2) (Option.some.inj hsettings)
      exact ⟨inners', mixer', rfl, hflag.trans hdraining⟩

/-! ## The begin of a drain -/

theorem InnersAlike.mono {mixer mixer' : MixedAudioSrc κ} {a b : List (OutputFormatAudioSrc σ)}
    (h : InnersAlike M R mixer a b)
    (hmuted : ∀ i, M i → mixer.muted i = true → mixer'.muted i = true) :
    InnersAlike M R mixer' a b where
  length := h.length
  blind := h.blind
  heard := fun i d e hd he hnot =>
    h.heard i d e hd he fun hi => hnot ⟨hi.1, hmuted i hi.1 hi.2⟩

theorem Alike.enterDrain {t u : AudioThread σ κ δ β} (h : Alike M R t u) {mask : BitVec 32}
    (hM : ∀ i, M i → i < 32)
    (hmuted : ∀ i, M i → SourceMuted t.sourceKinds t.capture.isBare mask i) :
    Alike M R (t.enterDrain mask) (u.enterDrain mask) := by
  obtain ⟨c, e, rfl, hsource⟩ := h.elim
  obtain ⟨kinds, d, capture⟩ := t
  dsimp only at hsource hmuted
  unfold AudioThread.enterDrain
  cases hsource with
  | bare blind heard => exact ⟨rfl, .bare blind heard⟩
  | @mixed mixer a b d inners =>
    dsimp only
    split
    · refine ⟨rfl, .mixed _ (inners.mono fun i hi _ => ?_)⟩
      obtain ⟨kind, hkind, hmask⟩ := hmuted i hi
      rw [muted_pushMask _ _ (hM i hi) hkind, hmask]
    · exact ⟨rfl, .mixed _ inners⟩

theorem Informed.enterDrain {kinds : List AudioSourceKind} {bare : Bool}
    {t : AudioThread σ κ δ β} (hi : Informed M kinds bare t) {mask : BitVec 32}
    (hM : ∀ i, M i → i < 32) (hmuted : ∀ i, M i → SourceMuted kinds bare mask i) :
    Informed M kinds bare (t.enterDrain mask) := by
  obtain ⟨hkinds, hbare, hpushed, -, -, -⟩ := hi
  obtain ⟨kinds', d, capture⟩ := t
  dsimp only at hkinds hbare hpushed
  subst hkinds hbare
  unfold AudioThread.enterDrain
  cases capture with
  | bare =>
    refine ⟨rfl, rfl, (fun _ _ h => nomatch h), (fun _ _ _ _ h => nomatch h), ?_,
      (fun h => nomatch h)⟩
    intro trackMuted hphase _ h0
    obtain ⟨-, kind, rfl, hmask⟩ := hmuted 0 h0
    obtain rfl : masked mask kind = trackMuted := LoopPhase.draining.inj hphase
    exact hmask
  | mixed inners mixer =>
    dsimp only
    split
    · refine ⟨rfl, rfl, ?_, ?_, nofun, nofun⟩
      · rintro _ _ ⟨⟩ i kind hi hkind hmask
        rw [muted_pushMask _ _ (hM i hi) hkind, hmask]
      · rintro trackMuted - _ _ ⟨⟩ i hi
        obtain ⟨kind, hkind, hmask⟩ := hmuted i hi
        rw [muted_pushMask _ _ (hM i hi) hkind, hmask]
    · next hsame =>
        refine ⟨rfl, rfl, hpushed, ?_, nofun, nofun⟩
        rintro trackMuted - _ _ ⟨⟩ i hi
        obtain ⟨kind, hkind, hmask⟩ := hmuted i hi
        rw [not_not.mp hsame] at hmask
        exact hpushed _ _ rfl i kind hi hkind hmask

theorem Informed.stop {kinds : List AudioSourceKind} {bare : Bool} {t : AudioThread σ κ δ β}
    (hi : Informed M kinds bare t) : Informed M kinds bare (t.stop p) := by
  have hdrain := hi.kept (kept_drainOutput (p := p) t)
  obtain ⟨hkinds, hbare, hpushed, -, -, -⟩ := hi
  obtain ⟨kinds', d, capture⟩ := t
  unfold AudioThread.stop
  cases capture with
  | bare => exact hdrain
  | mixed inners mixer =>
    have hsettings := MixedAudioSrc.settings_beginDrain mixer
      ((inners.map (·.drainResampler p.inner)).map Prod.snd)
    refine ⟨hkinds, hbare, ?_, nofun, nofun, ?_⟩
    · rintro _ _ ⟨⟩ i kind hM hkind hmask
      have hmuted := hpushed _ _ rfl i kind hM hkind hmask
      have hkept : (mixer.beginDrain ((inners.map (·.drainResampler p.inner)).map
        Prod.snd)).sourceMuteMask = mixer.sourceMuteMask := congrArg Prod.fst hsettings
      unfold MixedAudioSrc.muted at hmuted ⊢
      rwa [hkept]
    · exact fun _ => ⟨_, _, rfl, congrArg (·.2.2) hsettings⟩

/-! ## One turn of the two runs -/

theorem Alike.topTurn (hbare : LengthOnly p.bare R) (hinner : LengthOnly p.inner R)
    {t u : AudioThread σ κ δ β} (h : Alike M R t u) {k k' : Tick α} (hk : SameTick M k k')
    (hM : ∀ i, M i → i < 32)
    (hmuted : ∀ i, M i → SourceMuted t.sourceKinds t.capture.isBare k.muteMask i)
    (htail : k.stopRequested = true → TailReaches p M t) :
    Alike M R (t.topTurn p k) (u.topTurn p k') := by
  have hstop : k'.stopRequested = k.stopRequested := by rw [hk.rest]
  have hpause : k'.pauseRequested = k.pauseRequested := by rw [hk.rest]
  have hmask : k'.muteMask = k.muteMask := by rw [hk.rest]
  have hlost : u.bareDegraded = t.bareDegraded := by rw [h.rest]
  have hhealth := h.mergedHealth hbare hinner hk
  have hkept := kept_mergedHealth (p := p) t k
  unfold AudioThread.topTurn
  dsimp only
  rw [hstop, hpause, hlost, hhealth.failed, hhealth.pendingFrameCount hk, hmask]
  split
  · next hrequested => exact h.stop hbare hinner (htail hrequested)
  · split
    · obtain ⟨c, e, rfl, hsource⟩ := h.elim
      exact ⟨rfl, hsource⟩
    · split
      · exact h.degradedTurn hbare hinner hk
      · split
        · exact hhealth
        · split
          · exact hhealth.idleTurn hk
          · refine hhealth.enterDrain hM fun i hi => ?_
            rw [hkept.sourceKinds, hkept.bare_iff]
            exact hmuted i hi

theorem Informed.topTurn {kinds : List AudioSourceKind} {bare : Bool}
    {t : AudioThread σ κ δ β} (hi : Informed M kinds bare t) {k : Tick α}
    (hM : ∀ i, M i → i < 32) (hmuted : ∀ i, M i → SourceMuted kinds bare k.muteMask i) :
    Informed M kinds bare (t.topTurn p k) := by
  have hhealth := hi.kept (kept_mergedHealth (p := p) t k)
  unfold AudioThread.topTurn
  dsimp only
  split
  · exact hi.stop
  · split
    · exact ⟨hi.sourceKinds, hi.bare, hi.pushed, nofun, nofun, nofun⟩
    · split
      · exact hi.kept (kept_degradedTurn t k)
      · split
        · exact hhealth
        · split
          · exact hhealth.kept (kept_idleTurn _ k)
          · exact hhealth.enterDrain hM hmuted

/-- Where the mute is asked for. What a pause reads is muted once the mixer has been told; the
    tails that bypass the mute are empty. -/
def MuteReaches (p : Parts σ κ δ α β) (M : Nat → Prop) (t : AudioThread σ κ δ β) (k : Tick α) :
    Prop :=
  match t.phase with
  | .top => k.stopRequested = true → TailReaches p M t
  | .pausing => t.pendingFrameCount k ≠ 0 → Told M t
  | _ => True

theorem Informed.told_draining {kinds : List AudioSourceKind} {bare : Bool}
    {t : AudioThread σ κ δ β} (hi : Informed M kinds bare t) {trackMuted : Bool}
    (hphase : t.phase = .draining trackMuted) : Told M t := by
  unfold Told
  split
  · trivial
  · next inners mixer hc => exact fun i hM => .inl (hi.drainMixed _ hphase _ _ hc i hM)

theorem Informed.told_tail {kinds : List AudioSourceKind} {bare : Bool}
    {t : AudioThread σ κ δ β} (hi : Informed M kinds bare t) (hphase : t.phase = .tail) :
    Told M t ∧ t.capture ≠ .bare := by
  obtain ⟨inners, mixer, hc, hdraining⟩ := hi.tail hphase
  unfold Told
  rw [hc]
  exact ⟨fun i _ => .inr hdraining, nofun⟩

theorem Informed.step {kinds : List AudioSourceKind} {bare : Bool} {t : AudioThread σ κ δ β}
    (hi : Informed M kinds bare t) {k : Tick α} (hM : ∀ i, M i → i < 32)
    (hmuted : ∀ i, M i → SourceMuted kinds bare k.muteMask i) :
    Informed M kinds bare (AudioThread.step p t k) := by
  unfold AudioThread.step
  cases hphase : t.phase with
  | top => exact hi.topTurn hM hmuted
  | pausing => exact hi.kept (kept_pauseTurn t k)
  | draining trackMuted => exact hi.kept (kept_drainTurn t k trackMuted)
  | tail => exact hi.kept (kept_tailTurn t k)
  | done => exact hi

/-- One turn keeps the runs alike. -/
theorem Alike.step (hbare : LengthOnly p.bare R) (hinner : LengthOnly p.inner R)
    {kinds : List AudioSourceKind} {bare : Bool} {t u : AudioThread σ κ δ β} (h : Alike M R t u)
    (hi : Informed M kinds bare t) {k k' : Tick α} (hk : SameTick M k k')
    (hM : ∀ i, M i → i < 32) (hmuted : ∀ i, M i → SourceMuted kinds bare k.muteMask i)
    (hreach : MuteReaches p M t k) :
    Alike M R (AudioThread.step p t k) (AudioThread.step p u k') := by
  have hphase : u.phase = t.phase := by rw [h.rest]
  unfold AudioThread.step
  unfold MuteReaches at hreach
  rw [hphase]
  cases ht : t.phase with
  | top =>
    rw [ht] at hreach
    refine h.topTurn hbare hinner hk hM (fun i hi' => ?_) hreach
    rw [hi.sourceKinds, hi.bare]
    exact hmuted i hi'
  | pausing =>
    rw [ht] at hreach
    exact h.pauseTurn hbare hinner hk hreach
  | draining trackMuted =>
    exact h.drainTurn hbare hinner hk (hi.told_draining ht) (hi.drainBare trackMuted ht)
  | tail => exact h.tailTurn hbare hinner hk (hi.told_tail ht).1 (hi.told_tail ht).2
  | done => exact h

/-! ## The law -/

theorem Alike.refl (hbare : LengthOnly p.bare R) (t : AudioThread σ κ δ β) : Alike M R t t := by
  refine ⟨rfl, ?_⟩
  cases t.capture with
  | bare => exact .bare (.refl hbare _) fun _ => rfl
  | mixed inners mixer =>
    refine .mixed _ ⟨rfl, fun i d e hd he => ?_, fun i d e hd he _ => ?_⟩
    · rw [Option.some.inj (hd.symm.trans he)]
      exact .refl hbare _
    · exact Option.some.inj (hd.symm.trans he)

/-- Two runs of one track that differ in the samples of muted sources hand the encoder the same
    frames, where every turn meets `MuteReaches`. -/
theorem muted_samples_unheard (hbare : LengthOnly p.bare R) (hinner : LengthOnly p.inner R)
    (sourceKinds : List AudioSourceKind) (outputFormat : OutputFormatAudioSrc σ)
    (capture : Capture σ κ) (slaving : δ) (nowNs : Nat) {ks ks' : List (Tick α)}
    (hM : ∀ i, M i → i < 32)
    (hmuted : ∀ k ∈ ks, ∀ i, M i → SourceMuted sourceKinds capture.isBare k.muteMask i)
    (hsame : List.Forall₂ (SameTick M) ks ks')
    (hreach : StepRun.Meets (fun t k => some (step p t k)) (MuteReaches p M)
      (start sourceKinds outputFormat capture slaving nowNs : AudioThread σ κ δ β) ks) :
    (run p (start sourceKinds outputFormat capture slaving nowNs) ks).fed =
      (run p (start sourceKinds outputFormat capture slaving nowNs) ks').fed := by
  have hstart : Alike M R (start sourceKinds outputFormat capture slaving nowNs :
      AudioThread σ κ δ β) (start sourceKinds outputFormat capture slaving nowNs) :=
    .refl hbare _
  have hinformed : Informed M sourceKinds capture.isBare
      (start sourceKinds outputFormat capture slaving nowNs : AudioThread σ κ δ β) := by
    refine ⟨rfl, rfl, ?_, nofun, nofun, nofun⟩
    -- the loop remembers an empty mask
    intro inners mixer _ i kind _ _ hmask
    have hnone : masked 0#32 kind = false := by cases kind <;> decide
    have hset : masked 0#32 kind = true := hmask
    rw [hnone] at hset
    cases hset
  have hticks := List.forall₂_and_left _ _ |>.mpr ⟨hmuted, hsame⟩
  have hends := StepRun.foldl_related
    (R := fun t u => Alike M R t u ∧ Informed M sourceKinds capture.isBare t)
    (fun t u k k' htu hk hkk' =>
      ⟨htu.1.step hbare hinner htu.2 hkk'.2 hM hkk'.1 hk, htu.2.step hM hkk'.1⟩)
    hticks ⟨hstart, hinformed⟩ hreach
  have hrest := hends.1.rest
  unfold run
  rw [hrest]

/-! ## Runs -/

/-- A resampler that holds the last frame back. -/
def heldFrame : Resampler (List Frame) Frame Frame where
  build _ := some []
  outSamples held n := some (held.length + n)
  convert held frames :=
    let all := held ++ frames
    some (all.drop (all.length - 1), all.take (all.length - 1))
  flush held := ([], held)
  delayNs held := deviceFramesToNs held.length 48000
  setCompensation held _ := held
  silentIn := silence
  forward frame := frame

theorem heldFrame_lengthOnly :
    LengthOnly heldFrame fun held held' => held.length = held'.length where
  refl _ := rfl
  outSamples h := by
    funext n
    simp [heldFrame, h]
  delayNs h := by simp [heldFrame, h]
  setCompensation h _ := h
  convert {s t} h {xs ys} hlen := by
    refine .inr ⟨_, _, _, _, rfl, rfl, ?_, ?_⟩
    · simp [h, hlen]
    · simp [h, hlen]
  flush h := ⟨rfl, h⟩

def heldParts : Parts (List Frame) Unit Unit Frame Frame where
  bare := heldFrame
  inner := heldFrame
  outer := heldFrame
  limiter limiter frames := (limiter, frames)
  slaving :=
    { observe := fun d _ _ _ _ _ => (d, none)
      notifySilenceFilled := fun d _ => d
      reset := fun d => d }
  silentOut := silence

/-- Only source 0 has something, one frame. -/
def readFrame (x : Frame) (qpcNs : Nat) : Nat → Reading Frame
  | 0 => ⟨1, .packet { bytes := some [x], numFrames := 1 } qpcNs, 0⟩
  | _ + 1 => ⟨0, .failed false, 0⟩

def readNothing (_ : Nat) : Reading Frame := ⟨0, .failed false, 0⟩

/-- A microphone that is muted, read for one frame, and stopped. -/
def micTicks (x : Frame) : List (Tick Frame) :=
  [{ muteMask := 2, reading := readFrame x 0 }, { muteMask := 2, reading := readFrame x 0 },
    { muteMask := 2, reading := readNothing },
    { muteMask := 2, stopRequested := true, reading := readNothing },
    { muteMask := 2, reading := readNothing }, { muteMask := 2, reading := readNothing }]

theorem sameReading_refl (r : Reading Frame) : SameReading r r := ⟨rfl, rfl, sameAnswer_refl _⟩

theorem sameTick_refl (M : Nat → Prop) (k : Tick Frame) : SameTick M k k :=
  ⟨rfl, fun _ => sameReading_refl _, fun _ _ => rfl⟩

theorem sameTick_readFrame (k : Tick Frame) (x y : Frame) (qpcNs : Nat) :
    SameTick (· = 0) { k with reading := readFrame x qpcNs }
      { k with reading := readFrame y qpcNs } where
  rest := rfl
  reading := by
    intro i
    cases i with
    | zero => exact ⟨rfl, rfl, .packet _ ⟨rfl, rfl, rfl, rfl, rfl⟩⟩
    | succ i => exact sameReading_refl _
  other := by
    intro i hi
    cases i with
    | zero => exact absurd rfl hi
    | succ i => rfl

theorem micTicks_same (x y : Frame) : List.Forall₂ (SameTick (· = 0)) (micTicks x) (micTicks y) :=
  .cons (sameTick_readFrame { muteMask := 2, reading := readNothing } x y 0)
    (.cons (sameTick_readFrame { muteMask := 2, reading := readNothing } x y 0)
      (List.forall₂_same.mpr fun k _ => sameTick_refl _ k))

/-- A source of 48 kHz stereo, as the output is. -/
def micFormat : OutputFormatAudioSrc (List Frame) :=
  { targetRate := 48000, targetChannels := 2, inner := ⟨48000, 2, false⟩, passthrough := true }

/-- A source that is resampled. -/
def heldFormat : OutputFormatAudioSrc (List Frame) :=
  { targetRate := 48000, targetChannels := 2, inner := ⟨44100, 2, false⟩, swr := some [] }

theorem micTicks_masked (x : Frame) : ∀ k ∈ micTicks x, k.muteMask = 2#32 := by
  intro k hk
  simp only [micTicks, List.mem_cons, List.not_mem_nil, or_false] at hk
  rcases hk with rfl | rfl | rfl | rfl | rfl | rfl <;> rfl

theorem muted_samples_unheard_mic :
    (run heldParts (start [.mic] micFormat .bare () 0) (micTicks (1, 1))).fed =
        (run heldParts (start [.mic] micFormat .bare () 0) (micTicks (0, 0))).fed ∧
      (run heldParts (start [.mic] micFormat .bare () 0) (micTicks (1, 1))).fed = [silence] := by
  refine ⟨muted_samples_unheard (M := (· = 0)) heldFrame_lengthOnly heldFrame_lengthOnly [.mic]
    micFormat .bare () 0 (fun i hi => by omega) ?_ (micTicks_same _ _) ?_, by decide⟩
  · intro k hk i hi
    rw [micTicks_masked _ k hk]
    exact ⟨hi, .mic, rfl, by decide⟩
  · refine (StepRun.meets_total_cons ..).mpr ⟨nofun, ?_⟩
    refine (StepRun.meets_total_cons ..).mpr ⟨trivial, ?_⟩
    refine (StepRun.meets_total_cons ..).mpr ⟨trivial, ?_⟩
    refine (StepRun.meets_total_cons ..).mpr ⟨fun _ _ => .inl rfl, ?_⟩
    refine (StepRun.meets_total_cons ..).mpr ⟨trivial, ?_⟩
    exact (StepRun.meets_total_cons ..).mpr ⟨trivial, trivial⟩

/-- A pause over the first frame, which is mixed behind it. -/
def pausedTicks (x : Frame) : List (Tick Frame) :=
  [{ muteMask := 2, pauseRequested := true, reading := readNothing },
    { muteMask := 2, reading := readFrame x 20833 },
    { muteMask := 2, reading := readNothing },
    { muteMask := 2, reading := fun i => ⟨i, .failed false, 0⟩ },
    { muteMask := 2, reading := fun i => ⟨i, .packet { numFrames := 2, silent := true } 20833, 0⟩ }]

theorem pausedTicks_masked (x : Frame) : ∀ k ∈ pausedTicks x, k.muteMask = 2#32 := by
  intro k hk
  simp only [pausedTicks, List.mem_cons, List.not_mem_nil, or_false] at hk
  rcases hk with rfl | rfl | rfl | rfl | rfl <;> rfl

theorem pausedTicks_same (x y : Frame) :
    List.Forall₂ (SameTick (· = 0)) (pausedTicks x) (pausedTicks y) :=
  .cons (sameTick_refl _ _)
    (.cons (sameTick_readFrame { muteMask := 2, reading := readNothing } x y 20833)
      (List.forall₂_same.mpr fun k _ => sameTick_refl _ k))

/-- The microphone is muted in all of these runs, and heard: in the tail of a bare track, in the
    tail of a track with a gain, and in a merged track that was paused first. -/
theorem mute_is_not_asked_for :
    (List.Forall₂ (SameTick (· = 0)) (micTicks (1, 1)) (micTicks (0, 0)) ∧
      (∀ k ∈ micTicks (1, 1), ∀ bare, SourceMuted [.mic] bare k.muteMask 0) ∧
      (∀ x ∈ [((1, 1) : Frame), (0, 0)],
        (run heldParts (start [.mic] heldFormat .bare () 0) (micTicks x)).fed = [x] ∧
          (run heldParts (start [.mic] micFormat
            (.mixed [heldFormat] (MixedAudioSrc.init [1] false () 0)) () 0) (micTicks x)).fed =
              [x])) ∧
    List.Forall₂ (SameTick (· = 0)) (pausedTicks (1, 1)) (pausedTicks (0, 0)) ∧
      (∀ k ∈ pausedTicks (1, 1), SourceMuted [.mic, .app] false k.muteMask 0) ∧
      ∀ x ∈ [((1, 1) : Frame), (0, 0)],
        (run heldParts (start [.mic, .app] micFormat
          (.mixed [micFormat, micFormat] (MixedAudioSrc.init [1, 1] false () 0)) () 0)
          (pausedTicks x)).fed = [silence, (x.1 * 0.5, x.2 * 0.5)] := by
  refine ⟨⟨micTicks_same _ _, ?_, by decide⟩, pausedTicks_same _ _, ?_, by decide⟩
  · intro k hk bare
    rw [micTicks_masked _ k hk]
    cases bare with
    | true => exact ⟨rfl, .mic, rfl, by decide⟩
    | false => exact ⟨.mic, rfl, by decide⟩
  · intro k hk
    rw [pausedTicks_masked _ k hk]
    exact ⟨.mic, rfl, by decide⟩

end AudioThread

end Exosnap.Engine
