/-
  Two runs of the encode loop whose sources answer with packets of one shape.

  `M` is the set of the muted sources of a track. The runs are compared by `Alike`: they agree in
  everything but the resampler contexts in front of the mute, and these were fed packets of one
  shape. Below, one lemma for each part of the loop says that it keeps the runs alike, wherever
  the mixer has been told of the mutes (`Told`) and a tail that bypasses the mute is empty
  (`NoTail`).
-/
import Exosnap.Engine.AudioThread
import Exosnap.Engine.MixMute

namespace Exosnap.Engine

namespace AudioThread

open OutputFormatAudioSrc (Blind)

variable {σ κ δ α β : Type*}

/-! ## Two runs -/

/-- Readings that differ in the samples of the answer only. -/
structure SameReading (r r' : Reading α) : Prop where
  pending : r'.pending = r.pending
  clockNs : r'.clockNs = r.clockNs
  answer : SameAnswer r.answer r'.answer

/-- Ticks that differ in the samples of the sources in `M` only. -/
structure SameTick (M : Nat → Prop) (k k' : Tick α) : Prop where
  rest : k' = { k with reading := k'.reading }
  reading : ∀ i, SameReading (k.reading i) (k'.reading i)
  other : ∀ i, ¬ M i → k'.reading i = k.reading i

/-- Source `i` of a track under a mute mask. A bare track has one source. -/
def SourceMuted (kinds : List AudioSourceKind) (bare : Bool) (mask : BitVec 32) (i : Nat) :
    Prop :=
  match bare with
  | true => i = 0 ∧ ∃ kind, kinds = [kind] ∧ masked mask kind = true
  | false => ∃ kind, kinds[i]? = some kind ∧ masked mask kind = true

variable (M : Nat → Prop) (R : σ → σ → Prop)

/-- The decorators in the mixer: those of muted sources were fed packets of one shape. -/
structure InnersAlike (mixer : MixedAudioSrc κ) (a b : List (OutputFormatAudioSrc σ)) : Prop where
  length : a.length = b.length
  blind : ∀ (i : Nat) d e, a[i]? = some d → b[i]? = some e → Blind R d e
  heard : ∀ (i : Nat) d e, a[i]? = some d → b[i]? = some e → ¬ (M i ∧ mixer.muted i = true) → d = e

inductive SourceAlike : Capture σ κ → Capture σ κ → OutputFormatAudioSrc σ →
    OutputFormatAudioSrc σ → Prop where
  | bare {d e : OutputFormatAudioSrc σ} (blind : Blind R d e) (heard : ¬ M 0 → d = e) :
      SourceAlike .bare .bare d e
  | mixed {mixer : MixedAudioSrc κ} {a b : List (OutputFormatAudioSrc σ)}
      (d : OutputFormatAudioSrc σ) (inners : InnersAlike M R mixer a b) :
      SourceAlike (.mixed a mixer) (.mixed b mixer) d d

/-- Two threads that agree in all but what a muted source was fed. -/
structure Alike (t u : AudioThread σ κ δ β) : Prop where
  rest : u = { t with capture := u.capture, outputFormat := u.outputFormat }
  source : SourceAlike M R t.capture u.capture t.outputFormat u.outputFormat

variable {M R}

theorem Alike.elim {t u : AudioThread σ κ δ β} (h : Alike M R t u) :
    ∃ c e, u = { t with capture := c, outputFormat := e } ∧
      SourceAlike M R t.capture c t.outputFormat e :=
  ⟨u.capture, u.outputFormat, h.rest, h.source⟩

theorem SourceAlike.rest {c c' : Capture σ κ} {d e : OutputFormatAudioSrc σ}
    (h : SourceAlike M R c c' d e) : e = { d with swr := e.swr } := by
  cases h with
  | bare blind => exact blind.rest
  | mixed => rfl

/-! ## What a turn reads -/

theorem Alike.captureSourceCount {t u : AudioThread σ κ δ β} (h : Alike M R t u) :
    u.captureSourceCount = t.captureSourceCount := by
  obtain ⟨kinds, d, capture⟩ := t
  obtain ⟨c, e, rfl, hsource⟩ := h.elim
  cases hsource <;> rfl

theorem Alike.degradedSourceCount {t u : AudioThread σ κ δ β} (h : Alike M R t u) :
    u.degradedSourceCount = t.degradedSourceCount := by
  obtain ⟨kinds, d, capture⟩ := t
  obtain ⟨c, e, rfl, hsource⟩ := h.elim
  cases hsource <;> rfl

theorem Alike.sourceOwnsTimeline {t u : AudioThread σ κ δ β} (h : Alike M R t u) :
    u.sourceOwnsTimeline = t.sourceOwnsTimeline := by
  obtain ⟨kinds, d, capture⟩ := t
  obtain ⟨c, e, rfl, hsource⟩ := h.elim
  cases hsource <;> rfl

theorem Alike.pendingFrameCount {t u : AudioThread σ κ δ β} (h : Alike M R t u) {k k' : Tick α}
    (hk : SameTick M k k') : u.pendingFrameCount k' = t.pendingFrameCount k := by
  obtain ⟨kinds, d, capture⟩ := t
  obtain ⟨c, e, rfl, hsource⟩ := h.elim
  have hpending : ∀ i, (k'.reading i).pending = (k.reading i).pending :=
    fun i => (hk.reading i).pending
  unfold AudioThread.pendingFrameCount
  rw [hk.rest]
  cases hsource with
  | bare => exact hpending 0
  | mixed =>
    dsimp only
    simp only [hpending]

/-! ## Silence and health -/

theorem Alike.emitSilence {p : Parts σ κ δ α β} {t u : AudioThread σ κ δ β} (h : Alike M R t u)
    (nowNs : Nat) (routed : Bool) :
    Alike M R (t.emitSilenceForElapsed p nowNs routed)
      (u.emitSilenceForElapsed p nowNs routed) := by
  obtain ⟨c, e, rfl, hsource⟩ := h.elim
  have hrate : e.targetRate = t.outputFormat.targetRate := by rw [hsource.rest]
  unfold emitSilenceForElapsed
  dsimp only
  rw [hrate]
  split
  · exact h
  · split
    · exact ⟨rfl, hsource⟩
    · exact ⟨rfl, hsource⟩

/-! ## Lists of decorators -/

theorem getElem?_map_zipIdx {γ γ' : Type*} {f : γ × Nat → γ'} {xs : List γ} {i : Nat} {y : γ'}
    (h : (xs.zipIdx.map f)[i]? = some y) : ∃ x, xs[i]? = some x ∧ y = f (x, i) := by
  rw [List.getElem?_map, List.getElem?_zipIdx, Option.map_map, Option.map_eq_some_iff] at h
  obtain ⟨x, hx, rfl⟩ := h
  exact ⟨x, hx, by simp⟩

theorem map_zipIdx_congr {γ γ' : Type*} {f g : γ × Nat → γ'} {xs ys : List γ}
    (hlen : xs.length = ys.length)
    (h : ∀ (i : Nat) x y, xs[i]? = some x → ys[i]? = some y → f (x, i) = g (y, i)) :
    xs.zipIdx.map f = ys.zipIdx.map g := by
  refine List.ext_getElem (by simp [hlen]) fun i hx hy => ?_
  have hxi : i < xs.length := by simpa using hx
  have hyi : i < ys.length := by simpa using hy
  simpa using h i xs[i] ys[i] (List.getElem?_eq_getElem hxi) (List.getElem?_eq_getElem hyi)

/-- The decorators behind a call of each, where the mixer forgets no mute of `M`. -/
theorem InnersAlike.map {mixer mixer' : MixedAudioSrc κ} {a b : List (OutputFormatAudioSrc σ)}
    (h : InnersAlike M R mixer a b)
    (hmuted : ∀ i, M i → mixer.muted i = true → mixer'.muted i = true)
    {f g : OutputFormatAudioSrc σ × Nat → OutputFormatAudioSrc σ}
    (hblind : ∀ i d e, Blind R d e → (¬ (M i ∧ mixer.muted i = true) → d = e) →
      Blind R (f (d, i)) (g (e, i)))
    (hheard : ∀ i d, ¬ (M i ∧ mixer.muted i = true) → f (d, i) = g (d, i)) :
    InnersAlike M R mixer' (a.zipIdx.map f) (b.zipIdx.map g) where
  length := by simp [h.length]
  blind := by
    intro i x y hx hy
    obtain ⟨d, hd, rfl⟩ := getElem?_map_zipIdx hx
    obtain ⟨e, he, rfl⟩ := getElem?_map_zipIdx hy
    exact hblind i d e (h.blind i d e hd he) (h.heard i d e hd he)
  heard := by
    intro i x y hx hy hnot
    obtain ⟨d, hd, rfl⟩ := getElem?_map_zipIdx hx
    obtain ⟨e, he, rfl⟩ := getElem?_map_zipIdx hy
    have hbefore : ¬ (M i ∧ mixer.muted i = true) := fun hi => hnot ⟨hi.1, hmuted i hi.1 hi.2⟩
    obtain rfl := h.heard i d e hd he hbefore
    exact hheard i d hbefore

/-! ## Reactivation -/

variable {p : Parts σ κ δ α β}

theorem reinitInner_blind (hinner : LengthOnly p.inner R) (mixer : MixedAudioSrc κ)
    (answers : Nat → Option InnerStream) {d e : OutputFormatAudioSrc σ} (h : Blind R d e)
    (i : Nat) :
    Blind R (reinitInner p mixer answers (d, i)).1 (reinitInner p mixer answers (e, i)).1 ∧
      (reinitInner p mixer answers (d, i)).2 = (reinitInner p mixer answers (e, i)).2 := by
  unfold reinitInner
  dsimp only
  split
  · exact h.reinit hinner (answers i)
  · exact ⟨h, rfl⟩

theorem Alike.reinit (hbare : LengthOnly p.bare R) (hinner : LengthOnly p.inner R)
    {t u : AudioThread σ κ δ β} (h : Alike M R t u) (answers : Nat → Option InnerStream) :
    Alike M R (t.reinit p answers).1 (u.reinit p answers).1 ∧
      (t.reinit p answers).2 = (u.reinit p answers).2 := by
  obtain ⟨c, e, rfl, hsource⟩ := h.elim
  obtain ⟨kinds, d, capture⟩ := t
  dsimp only at hsource
  unfold AudioThread.reinit
  cases hsource with
  | bare blind heard =>
    have hre := blind.reinit hbare (answers 0)
    exact ⟨⟨rfl, .bare hre.1 fun h0 => by rw [heard h0]⟩, hre.2⟩
  | @mixed mixer a b d inners =>
    have hrecovered : (a.zipIdx.map (reinitInner p mixer answers)).map Prod.snd =
        (b.zipIdx.map (reinitInner p mixer answers)).map Prod.snd := by
      rw [List.map_map, List.map_map]
      exact map_zipIdx_congr inners.length fun i d e hd he =>
        (reinitInner_blind hinner mixer answers (inners.blind i d e hd he) i).2
    dsimp only
    rw [hrecovered]
    simp only [List.map_map]
    refine ⟨⟨rfl, .mixed _ (inners.map ?_ ?_ ?_)⟩, trivial⟩
    · intro i _ hi
      exact (MixedAudioSrc.muted_congr (MixedAudioSrc.settings_reinit ..) i).trans hi
    · exact fun i d e hde _ => (reinitInner_blind hinner mixer answers hde i).1
    · exact fun i d _ => rfl

theorem Alike.reactivate (hbare : LengthOnly p.bare R) (hinner : LengthOnly p.inner R)
    {t u : AudioThread σ κ δ β} (h : Alike M R t u) {k k' : Tick α} (hk : SameTick M k k')
    (realign : Bool) (answers : Nat → Option InnerStream) :
    Alike M R (t.reactivate p k realign answers) (u.reactivate p k' realign answers) := by
  obtain ⟨hre, hok⟩ := h.reinit hbare hinner answers
  unfold AudioThread.reactivate
  rw [hk.rest]
  dsimp only
  rw [← hok]
  obtain ⟨c, e, hrest, hsource⟩ := hre.elim
  rw [hrest]
  split
  · exact Alike.emitSilence ⟨rfl, hsource⟩ _ _
  · exact ⟨rfl, hsource⟩

theorem Alike.failed {t u : AudioThread σ κ δ β} (h : Alike M R t u) : u.failed = t.failed := by
  rw [h.rest]

theorem Alike.degradedTurn (hbare : LengthOnly p.bare R) (hinner : LengthOnly p.inner R)
    {t u : AudioThread σ κ δ β} (h : Alike M R t u) {k k' : Tick α} (hk : SameTick M k k') :
    Alike M R (t.degradedTurn p k) (u.degradedTurn p k') := by
  have hsilence : Alike M R (t.emitSilenceForElapsed p k.nowNs k.routed)
      (u.emitSilenceForElapsed p k'.nowNs k'.routed) := by
    rw [hk.rest]
    exact h.emitSilence _ _
  have hanswers : k'.reinit = k.reinit := by rw [hk.rest]
  unfold AudioThread.degradedTurn
  dsimp only
  rw [hsilence.failed, hanswers]
  split
  · exact hsilence
  · split
    · exact hsilence
    · exact hsilence.reactivate hbare hinner hk true _

theorem Alike.mergedHealth (hbare : LengthOnly p.bare R) (hinner : LengthOnly p.inner R)
    {t u : AudioThread σ κ δ β} (h : Alike M R t u) {k k' : Tick α} (hk : SameTick M k k') :
    Alike M R (t.mergedHealth p k) (u.mergedHealth p k') := by
  have hsilence : Alike M R (t.emitSilenceForElapsed p k.nowNs k.routed)
      (u.emitSilenceForElapsed p k'.nowNs k'.routed) := by
    rw [hk.rest]
    exact h.emitSilence _ _
  have hanswers : k'.reinit = k.reinit := by rw [hk.rest]
  unfold AudioThread.mergedHealth
  dsimp only
  rw [h.degradedSourceCount, h.captureSourceCount, h.sourceOwnsTimeline, hanswers]
  generalize (decide (0 < t.captureSourceCount) && t.degradedSourceCount == t.captureSourceCount &&
    !t.sourceOwnsTimeline) = clockDriven
  have hfilled : Alike M R (if clockDriven then t.emitSilenceForElapsed p k.nowNs k.routed else t)
      (if clockDriven then u.emitSilenceForElapsed p k'.nowNs k'.routed else u) := by
    cases clockDriven with
    | false => exact h
    | true => exact hsilence
  generalize (if clockDriven then t.emitSilenceForElapsed p k.nowNs k.routed else t) = t'
    at hfilled ⊢
  generalize (if clockDriven then u.emitSilenceForElapsed p k'.nowNs k'.routed else u) = u'
    at hfilled ⊢
  split
  · exact h
  · rw [hfilled.failed]
    split
    · exact hfilled
    · split
      · exact hfilled
      · exact hfilled.reactivate hbare hinner hk clockDriven _

theorem Alike.idleTurn {t u : AudioThread σ κ δ β} (h : Alike M R t u) {k k' : Tick α}
    (hk : SameTick M k k') : Alike M R (t.idleTurn p k) (u.idleTurn p k') := by
  obtain ⟨c, e, hrest, hsource⟩ := h.elim
  unfold AudioThread.idleTurn
  rw [hk.rest, h.sourceOwnsTimeline, hrest]
  dsimp only
  split
  · exact Alike.emitSilence ⟨rfl, hsource⟩ _ _
  · exact ⟨rfl, hsource⟩

/-! ## Reading a muted source -/

theorem sameAnswer_refl {φ : Type*} (a : CaptureAnswer φ) : SameAnswer a a := by
  cases a with
  | failed lost => exact .failed lost
  | packet buf qpcNs => exact .packet qpcNs ⟨rfl, rfl, rfl, rfl, rfl⟩

/-- One source polled in the two runs: a mixer that polls it at all knows its mute. -/
theorem pollSource_alike (hinner : LengthOnly p.inner R) {mixer : MixedAudioSrc κ}
    (htold : ∀ i, M i → mixer.muted i = true ∨ mixer.draining = true) {k k' : Tick α}
    (hk : SameTick M k k') {i : Nat} {d e : OutputFormatAudioSrc σ} (hblind : Blind R d e)
    (hheard : ¬ (M i ∧ mixer.muted i = true) → d = e) :
    Blind R (pollSource p mixer k (d, i)).1 (pollSource p mixer k' (e, i)).1 ∧
      ((pollSource p mixer k (d, i)).2 = (pollSource p mixer k' (e, i)).2 ∨
        mixer.muted i = true ∧ MixedAudioSrc.SamePoll (pollSource p mixer k (d, i)).2
          (pollSource p mixer k' (e, i)).2) := by
  have hreading := hk.reading i
  unfold pollSource
  dsimp only
  rw [hreading.pending, hreading.clockNs]
  split
  · exact ⟨hblind, .inl rfl⟩
  · next hpolled =>
      by_cases hM : M i
      · have hmuted : mixer.muted i = true := by
          refine (htold i hM).resolve_right fun hdraining => hpolled ?_
          simp [hdraining]
        obtain ⟨hd, ha⟩ := hblind.acquireBuffer hinner hreading.answer
        generalize d.acquireBuffer p.inner (k.reading i).answer = x at hd ha ⊢
        generalize e.acquireBuffer p.inner (k'.reading i).answer = y at hd ha ⊢
        obtain ⟨d', a⟩ := x
        obtain ⟨e', a'⟩ := y
        dsimp only at hd ha ⊢
        cases ha with
        | failed lost => exact ⟨hd, .inl rfl⟩
        | packet qpcNs hshape => exact ⟨hd, .inr ⟨hmuted, .packet _ _ hshape⟩⟩
      · obtain rfl := hheard fun h => hM h.1
        rw [hk.other i hM]
        generalize d.acquireBuffer p.inner (k.reading i).answer = x
        obtain ⟨d', a⟩ := x
        cases a with
        | failed lost => exact ⟨.refl hinner _, .inl rfl⟩
        | packet buf qpcNs => exact ⟨.refl hinner _, .inl rfl⟩

/-- A poll of a source that is heard is the same in the two runs. -/
theorem pollSource_heard {mixer : MixedAudioSrc κ}
    (htold : ∀ i, M i → mixer.muted i = true ∨ mixer.draining = true) {k k' : Tick α}
    (hk : SameTick M k k') {i : Nat} (hheard : ¬ (M i ∧ mixer.muted i = true))
    (d : OutputFormatAudioSrc σ) : pollSource p mixer k (d, i) = pollSource p mixer k' (d, i) := by
  have hreading := hk.reading i
  unfold pollSource
  dsimp only
  rw [hreading.pending, hreading.clockNs]
  split
  · rfl
  · next hpolled =>
      have hM : ¬ M i := by
        intro hM
        refine (htold i hM).elim (fun hmuted => hheard ⟨hM, hmuted⟩) fun hdraining => hpolled ?_
        simp [hdraining]
      rw [hk.other i hM]

/-- The mixer has been told of the mutes, or does not read its sources any more. -/
def Told (M : Nat → Prop) (t : AudioThread σ κ δ β) : Prop :=
  match t.capture with
  | .bare => True
  | .mixed _ mixer => ∀ i, M i → mixer.muted i = true ∨ mixer.draining = true

/-- Two answers that are one, but for the samples of a bare muted source. -/
structure AnswerAlike (M : Nat → Prop) (capture : Capture σ κ) (a a' : CaptureAnswer β) :
    Prop where
  shape : SameAnswer a a'
  heard : (capture = .bare → ¬ M 0) → a = a'

theorem head?_map_outputQpcNs {mixer : MixedAudioSrc κ} {a b : List (OutputFormatAudioSrc σ)}
    (h : InnersAlike M R mixer a b) :
    (a.head?.map (·.outputQpcNs)) = (b.head?.map (·.outputQpcNs)) := by
  have hlen := h.length
  cases a with
  | nil => rw [List.eq_nil_of_length_eq_zero hlen.symm]
  | cons d a =>
    obtain ⟨e, b, rfl⟩ := List.exists_cons_of_length_eq_add_one hlen.symm
    have hrest := (h.blind 0 d e rfl rfl).rest
    rw [List.head?_cons, List.head?_cons, Option.map_some, Option.map_some, hrest]

theorem Alike.acquireBuffer (hbare : LengthOnly p.bare R) (hinner : LengthOnly p.inner R)
    {t u : AudioThread σ κ δ β} (h : Alike M R t u) {k k' : Tick α} (hk : SameTick M k k')
    (htold : Told M t) :
    Alike M R (t.acquireBuffer p k).1 (u.acquireBuffer p k').1 ∧
      AnswerAlike M t.capture (t.acquireBuffer p k).2 (u.acquireBuffer p k').2 := by
  obtain ⟨c, e, rfl, hsource⟩ := h.elim
  obtain ⟨kinds, d, capture⟩ := t
  dsimp only at hsource
  unfold AudioThread.acquireBuffer
  cases hsource with
  | bare blind heard =>
    obtain ⟨hd, ha⟩ := blind.acquireBuffer hbare (hk.reading 0).answer
    have hsame : ¬ M 0 → d.acquireBuffer p.bare (k.reading 0).answer =
        e.acquireBuffer p.bare (k'.reading 0).answer := by
      intro h0
      rw [heard h0, hk.other 0 h0]
    have hanswer : ¬ M 0 → (d.acquireBuffer p.bare (k.reading 0).answer).2 =
        (e.acquireBuffer p.bare (k'.reading 0).answer).2 := fun h0 => congrArg Prod.snd (hsame h0)
    exact ⟨⟨rfl, .bare hd fun h0 => congrArg Prod.fst (hsame h0)⟩, ha, fun h0 => hanswer (h0 rfl)⟩
  | @mixed mixer a b d inners =>
    have htold : ∀ i, M i → mixer.muted i = true ∨ mixer.draining = true := htold
    have hclock : k'.clockNs = k.clockNs := by rw [hk.rest]
    have hmixer : mixer.acquireBuffer p.limiter ((pollSources p a mixer k).map Prod.snd) k.clockNs =
        mixer.acquireBuffer p.limiter ((pollSources p b mixer k').map Prod.snd) k.clockNs := by
      refine MixedAudioSrc.acquireBuffer_muted _ mixer (by simp [pollSources, inners.length]) ?_ _
      intro i x y hx hy
      unfold pollSources at hx hy
      rw [List.map_map] at hx hy
      obtain ⟨d, hd, rfl⟩ := getElem?_map_zipIdx hx
      obtain ⟨e, he, rfl⟩ := getElem?_map_zipIdx hy
      exact (pollSource_alike hinner htold hk (inners.blind i d e hd he)
        (inners.heard i d e hd he)).2
    have hinners : InnersAlike M R
        (mixer.acquireBuffer p.limiter ((pollSources p b mixer k').map Prod.snd) k.clockNs).1
        ((pollSources p a mixer k).map Prod.fst) ((pollSources p b mixer k').map Prod.fst) := by
      unfold pollSources
      simp only [List.map_map]
      refine inners.map ?_ ?_ ?_
      · intro i _ hi
        exact (MixedAudioSrc.muted_congr (MixedAudioSrc.settings_acquireBuffer ..) i).trans hi
      · exact fun i d e hde hheard => (pollSource_alike hinner htold hk hde hheard).1
      · exact fun i d hheard => congrArg Prod.fst (pollSource_heard htold hk hheard d)
    dsimp only
    rw [hclock, hmixer]
    unfold mixerQpcNs
    rw [head?_map_outputQpcNs hinners]
    exact ⟨⟨rfl, .mixed _ hinners⟩, sameAnswer_refl _, fun _ => rfl⟩

/-! ## Feeding -/

theorem Alike.feed {t u : AudioThread σ κ δ β} (h : Alike M R t u) (frames : List β) :
    Alike M R (t.feed frames) (u.feed frames) := by
  obtain ⟨c, e, rfl, hsource⟩ := h.elim
  exact ⟨rfl, hsource⟩

theorem Alike.fail {t u : AudioThread σ κ δ β} (h : Alike M R t u) : Alike M R t.fail u.fail := by
  obtain ⟨c, e, rfl, hsource⟩ := h.elim
  exact ⟨rfl, hsource⟩

theorem Alike.leavePause {t u : AudioThread σ κ δ β} (h : Alike M R t u) {k k' : Tick α}
    (hk : SameTick M k k') : Alike M R (t.leavePause k) (u.leavePause k') := by
  obtain ⟨c, e, rfl, hsource⟩ := h.elim
  rw [hk.rest]
  exact ⟨rfl, hsource⟩

theorem SourceAlike.setCompensation (hbare : LengthOnly p.bare R) {c c' : Capture σ κ}
    {d e : OutputFormatAudioSrc σ} (h : SourceAlike M R c c' d e) (compensation : Compensation) :
    SourceAlike M R c c' (setCompensationPpm p c d compensation)
      (setCompensationPpm p c' e compensation) := by
  cases h with
  | bare blind heard =>
    exact .bare (blind.setCompensationPpm hbare compensation) fun h0 => by rw [heard h0]
  | mixed d inners => exact .mixed _ inners

theorem Alike.observeTiming (hbare : LengthOnly p.bare R) {t u : AudioThread σ κ δ β}
    (h : Alike M R t u) {k k' : Tick α} (hk : SameTick M k k') :
    Alike M R (t.observeTiming p k) (u.observeTiming p k') := by
  have hcount := h.captureSourceCount
  have htiming : k'.timing = k.timing := by rw [hk.rest]
  obtain ⟨c, e, rfl, hsource⟩ := h.elim
  have hin : e.inTotal = t.outputFormat.inTotal := by rw [hsource.rest]
  have hout : e.outTotal = t.outputFormat.outTotal := by rw [hsource.rest]
  have hstream : e.inner = t.outputFormat.inner := by rw [hsource.rest]
  have hrate : e.targetRate = t.outputFormat.targetRate := by rw [hsource.rest]
  unfold AudioThread.observeTiming
  rw [hcount, htiming]
  split
  · exact h
  · dsimp only
    rw [hin, hout, hstream, hrate]
    split
    · exact ⟨rfl, hsource⟩
    · exact ⟨rfl, hsource.setCompensation hbare _⟩

theorem packetFrames_alike {trackMuted : Bool} {b b' : RawAudioBuffer β} (h : SameShape b b')
    (heard : trackMuted = false → b = b') :
    packetFrames p trackMuted b = packetFrames p trackMuted b' := by
  cases trackMuted with
  | false => rw [heard rfl]
  | true =>
    unfold packetFrames
    rw [Bool.or_true, Bool.or_true, if_pos rfl, if_pos rfl, h.numFrames]

theorem Alike.feedPacket (hbare : LengthOnly p.bare R) {t u : AudioThread σ κ δ β}
    (h : Alike M R t u) {k k' : Tick α} (hk : SameTick M k k') {trackMuted : Bool}
    {b b' : RawAudioBuffer β} (hb : SameShape b b') (heard : trackMuted = false → b = b') :
    Alike M R (t.feedPacket p k trackMuted b) (u.feedPacket p k' trackMuted b') := by
  have hfilled : u.silenceFilledFramesSincePacket = t.silenceFilledFramesSincePacket := by
    rw [h.rest]
  have hnow : k'.nowNs = k.nowNs := by rw [hk.rest]
  have hrouted : k'.routed = k.routed := by rw [hk.rest]
  have hgap := (h.observeTiming hbare hk).feed (List.replicate
    (remainingGapFrames b.gapFrames t.silenceFilledFramesSincePacket) p.silentOut)
  unfold AudioThread.feedPacket
  dsimp only
  rw [hfilled, hrouted, ← hb.gapFrames, ← hb.numFrames, ← packetFrames_alike hb heard]
  cases packetFrames p trackMuted b with
  | none => exact hgap.fail
  | some frames =>
    obtain ⟨c, e, hrest, hsource⟩ := (hgap.feed frames).elim
    dsimp only
    rw [hrest, hnow]
    split <;> split
    · exact ⟨rfl, hsource⟩
    · exact ⟨rfl, hsource⟩
    · exact ⟨rfl, hsource⟩
    · exact ⟨rfl, hsource⟩

/-! ## The turns -/

theorem Alike.pauseTurn (hbare : LengthOnly p.bare R) (hinner : LengthOnly p.inner R)
    {t u : AudioThread σ κ δ β} (h : Alike M R t u) {k k' : Tick α} (hk : SameTick M k k')
    (htold : t.pendingFrameCount k ≠ 0 → Told M t) :
    Alike M R (t.pauseTurn p k) (u.pauseTurn p k') := by
  have hdegrade : k'.degradeSource = k.degradeSource := by rw [hk.rest]
  unfold AudioThread.pauseTurn
  rw [h.pendingFrameCount hk]
  split
  · exact h.leavePause hk
  · next hpending =>
      obtain ⟨hread, hanswer⟩ := h.acquireBuffer hbare hinner hk (htold hpending)
      have hshape := hanswer.shape
      generalize t.acquireBuffer p k = x at hread hshape ⊢
      generalize u.acquireBuffer p k' = y at hread hshape ⊢
      obtain ⟨t', a⟩ := x
      obtain ⟨u', a'⟩ := y
      dsimp only at hread hshape ⊢
      cases hshape with
      | packet qpcNs _ => exact hread
      | failed lost =>
        dsimp only
        rw [hread.captureSourceCount, hdegrade]
        split
        · obtain ⟨c, e, rfl, hsource⟩ := hread.elim
          exact Alike.leavePause ⟨rfl, hsource⟩ hk
        · exact hread.leavePause hk

theorem Alike.drainTurn (hbare : LengthOnly p.bare R) (hinner : LengthOnly p.inner R)
    {t u : AudioThread σ κ δ β} (h : Alike M R t u) {k k' : Tick α} (hk : SameTick M k k')
    (htold : Told M t) {trackMuted : Bool}
    (hmuted : t.capture = .bare → M 0 → trackMuted = true) :
    Alike M R (t.drainTurn p k trackMuted) (u.drainTurn p k' trackMuted) := by
  have hdegrade : k'.degradeSource = k.degradeSource := by rw [hk.rest]
  unfold AudioThread.drainTurn
  rw [h.pendingFrameCount hk]
  split
  · obtain ⟨c, e, rfl, hsource⟩ := h.elim
    exact ⟨rfl, hsource⟩
  · obtain ⟨hread, hshape, heard⟩ := h.acquireBuffer hbare hinner hk htold
    generalize t.acquireBuffer p k = x at hread hshape heard ⊢
    generalize u.acquireBuffer p k' = y at hread hshape heard ⊢
    obtain ⟨t', a⟩ := x
    obtain ⟨u', a'⟩ := y
    dsimp only at hread hshape heard ⊢
    cases hshape with
    | packet qpcNs hb =>
      refine hread.feedPacket hbare hk hb fun hfalse => ?_
      have heq := heard fun hc h0 => by
        rw [hmuted hc h0] at hfalse
        cases hfalse
      cases heq
      rfl
    | failed lost =>
      obtain ⟨c, e, rfl, hsource⟩ := hread.elim
      dsimp only
      rw [hdegrade]
      exact ⟨rfl, hsource⟩

/-! ## The drains -/

/-- A resampler that has nothing to flush. -/
def NoTail {γ γ' : Type*} (rs : Resampler σ γ γ') (d : OutputFormatAudioSrc σ) : Prop :=
  d.passthrough = true ∨ ∀ swr ∈ d.swr, (rs.flush swr).2 = []

theorem NoTail.drain {γ γ' : Type*} {rs : Resampler σ γ γ'} {d : OutputFormatAudioSrc σ}
    (h : NoTail rs d) : (d.drainResampler rs).2 = [] := by
  unfold OutputFormatAudioSrc.drainResampler
  split
  · rfl
  · next hpassthrough =>
      have hflush := h.resolve_left hpassthrough
      cases hswr : d.swr with
      | none => rfl
      | some swr =>
        have hempty := hflush swr hswr
        dsimp only
        rw [show OutputFormatAudioSrc.kMaxDrainIterations = 15 + 1 from rfl]
        unfold OutputFormatAudioSrc.drainLoop
        generalize rs.flush swr = x at hempty ⊢
        obtain ⟨swr', out⟩ := x
        obtain rfl : out = [] := hempty
        rfl

/-- The tails of two decorators that were fed packets of one shape, where there are none. -/
theorem NoTail.drain_eq {γ γ' : Type*} {rs : Resampler σ γ γ'} (hrs : LengthOnly rs R)
    {d e : OutputFormatAudioSrc σ} (hblind : Blind R d e) (h : NoTail rs d) :
    (d.drainResampler rs).2 = (e.drainResampler rs).2 := by
  have hlen := (hblind.drainResampler hrs).2
  rw [h.drain] at hlen ⊢
  exact (List.eq_nil_of_length_eq_zero hlen.symm).symm

theorem Alike.drainOutput (hbare : LengthOnly p.bare R) {t u : AudioThread σ κ δ β}
    (h : Alike M R t u) (htail : t.capture = .bare → M 0 → NoTail p.bare t.outputFormat) :
    Alike M R (t.drainOutput p) (u.drainOutput p) := by
  obtain ⟨c, e, rfl, hsource⟩ := h.elim
  obtain ⟨kinds, d, capture⟩ := t
  dsimp only at hsource htail
  unfold AudioThread.drainOutput
  cases hsource with
  | mixed d inners => exact ⟨rfl, .mixed _ inners⟩
  | bare blind heard =>
    have hframes : (d.drainResampler p.bare).2 = (e.drainResampler p.bare).2 := by
      by_cases h0 : M 0
      · exact (htail rfl h0).drain_eq hbare blind
      · rw [heard h0]
    dsimp only [AudioThread.feed]
    rw [hframes]
    exact ⟨rfl, .bare (blind.drainResampler hbare).1 fun h0 => by rw [heard h0]⟩

/-- The tails that bypass the mute are empty: that of a bare track, and that of a single source in
    a mixer. -/
def TailReaches (p : Parts σ κ δ α β) (M : Nat → Prop) (t : AudioThread σ κ δ β) : Prop :=
  match t.capture with
  | .bare => M 0 → NoTail p.bare t.outputFormat
  | .mixed inners mixer =>
      mixer.sourceCount = 1 → ∀ (i : Nat) d, M i → inners[i]? = some d → NoTail p.inner d

theorem Alike.stop (hbare : LengthOnly p.bare R) (hinner : LengthOnly p.inner R)
    {t u : AudioThread σ κ δ β} (h : Alike M R t u) (htail : TailReaches p M t) :
    Alike M R (t.stop p) (u.stop p) := by
  have hdrain := h.drainOutput hbare (p := p)
  obtain ⟨c, e, rfl, hsource⟩ := h.elim
  obtain ⟨kinds, d, capture⟩ := t
  dsimp only at hsource
  unfold AudioThread.stop
  cases hsource with
  | bare blind heard => exact hdrain fun _ h0 => htail h0
  | @mixed mixer a b d inners =>
    have htail : mixer.sourceCount = 1 → ∀ (i : Nat) d, M i → a[i]? = some d → NoTail p.inner d :=
      htail
    have hmixer : mixer.beginDrain ((a.map (·.drainResampler p.inner)).map Prod.snd) =
        mixer.beginDrain ((b.map (·.drainResampler p.inner)).map Prod.snd) := by
      refine MixedAudioSrc.beginDrain_muted (by simp [inners.length]) fun i x y hx hy => ?_
      rw [List.map_map, List.getElem?_map, Option.map_eq_some_iff] at hx hy
      obtain ⟨d, hd, rfl⟩ := hx
      obtain ⟨e, he, rfl⟩ := hy
      by_cases hmuted : M i ∧ mixer.muted i = true
      · have hblind := inners.blind i d e hd he
        by_cases hcount : mixer.sourceCount = 1
        · exact .inl ((htail hcount i d hmuted.1 hd).drain_eq hinner hblind)
        · exact .inr ⟨hmuted.2, hcount, (hblind.drainResampler hinner).2⟩
      · rw [inners.heard i d e hd he hmuted]
        exact .inl rfl
    dsimp only
    rw [hmixer]
    refine ⟨rfl, .mixed _ ⟨by simp [inners.length], ?_, ?_⟩⟩
    · intro i x y hx hy
      rw [List.map_map, List.getElem?_map, Option.map_eq_some_iff] at hx hy
      obtain ⟨d, hd, rfl⟩ := hx
      obtain ⟨e, he, rfl⟩ := hy
      exact ((inners.blind i d e hd he).drainResampler hinner).1
    · intro i x y hx hy hnot
      rw [List.map_map, List.getElem?_map, Option.map_eq_some_iff] at hx hy
      obtain ⟨d, hd, rfl⟩ := hx
      obtain ⟨e, he, rfl⟩ := hy
      have hmask := MixedAudioSrc.settings_beginDrain mixer
        ((b.map (·.drainResampler p.inner)).map Prod.snd)
      have hmuted : ¬ (M i ∧ mixer.muted i = true) := by
        rintro ⟨hi, hm⟩
        refine hnot ⟨hi, ?_⟩
        have hkept : (mixer.beginDrain ((b.map (·.drainResampler p.inner)).map
          Prod.snd)).sourceMuteMask = mixer.sourceMuteMask := congrArg Prod.fst hmask
        unfold MixedAudioSrc.muted at hm ⊢
        rwa [hkept]
      rw [inners.heard i d e hd he hmuted]

theorem Alike.tailTurn (hbare : LengthOnly p.bare R) (hinner : LengthOnly p.inner R)
    {t u : AudioThread σ κ δ β} (h : Alike M R t u) {k k' : Tick α} (hk : SameTick M k k')
    (htold : Told M t) (hmixed : t.capture ≠ .bare) :
    Alike M R (t.tailTurn p k) (u.tailTurn p k') := by
  have hrouted : k'.routed = k.routed := by rw [hk.rest]
  unfold AudioThread.tailTurn
  rw [h.pendingFrameCount hk]
  split
  · exact h.drainOutput hbare fun hc => absurd hc hmixed
  · obtain ⟨hread, -, heard⟩ := h.acquireBuffer hbare hinner hk htold
    generalize t.acquireBuffer p k = x at hread heard ⊢
    generalize u.acquireBuffer p k' = y at hread heard ⊢
    obtain ⟨t', a⟩ := x
    obtain ⟨u', a'⟩ := y
    obtain rfl : a = a' := heard fun hc => absurd hc hmixed
    cases a with
    | failed lost => exact hread.fail
    | packet b qpcNs =>
      dsimp only
      rw [hrouted]
      split
      · exact hread.feed _
      · exact (hread.feed _).fail

end AudioThread

end Exosnap.Engine
