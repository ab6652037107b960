/-
  The timeline of a mixer with several sources: what is stored where, and what is mixed from it.

  `Timeline` is the part of the mixer this depends on, and `TimelineInv` what every call keeps of
  it: a ring slot holds the last frame stored for it, the next frame to mix follows the last one
  mixed, and a frame that waits to be mixed is still in its slot, unless it was displaced.

  Displacement (`Displaced`) needs the window to have moved back over it. Before the first frame
  is mixed the timeline's start follows the earliest packet, and a position stored under a later
  start can lie `kMaxFifoFrames` and more behind the new one; a frame stored later for a position
  in the window then takes its slot, and the waiting one counts as missing. Tags rule out the
  other mistake: no frame is mixed at a position it was not stored for.

  `mixed_from_stored` states this for every run. What is mixed at a position is a sum over what
  each source stored, in the order of the sources. Where a packet is stored and whether it is in
  time does depend on the order of arrival: `arrival_order_matters`.
-/
import Exosnap.Engine.MixedAudioSrc
import Exosnap.Lib.StepRun
import Mathlib.Logic.Function.Iterate

namespace Exosnap.Engine

namespace MixedAudioSrc

variable {κ : Type*}

/-! ## Histories, newest first -/

def Event.inSlot (index s : Nat) : Event → Option (Int × Frame)
  | .store i q x => if i = index ∧ slot q = s then some (q, x) else none
  | .emit _ _ => none

def Event.storedAt (index : Nat) (p : Int) : Event → Option Frame
  | .store i q x => if i = index ∧ q = p then some x else none
  | .emit _ _ => none

def Event.emitted : Event → Option Int
  | .emit p _ => some p
  | .store _ _ _ => none

/-- The last store into a slot of a source's ring. -/
def lastInSlot (h : List Event) (index s : Nat) : Option (Int × Frame) :=
  h.findSome? (Event.inSlot index s)

/-- The last frame a source stored for a position. -/
def lastStored (h : List Event) (index : Nat) (p : Int) : Option Frame :=
  h.findSome? (Event.storedAt index p)

def lastEmitted (h : List Event) : Option Int := h.findSome? Event.emitted

/-- The frame a tag vouches for. -/
def tagged (p : Int) : Option (Int × Frame) → Option Frame
  | some (tag, frame) => if tag = p then some frame else none
  | none => none

/-- What a source has for a position: the last frame of its slot, if stored for the position. -/
def heldAt (h : List Event) (index : Nat) (p : Int) : Option Frame :=
  tagged p (lastInSlot h index (slot p))

def addHeld (sum : Frame) : Option Frame → Frame
  | some frame => sum + frame
  | none => sum

/-- The sum over the first `n` sources. -/
def sumOfHeld (n : Nat) (h : List Event) (p : Int) : Frame :=
  ((List.range n).map fun index => heldAt h index p).foldl addHeld silence

/-- A frame stored for `p` before anything was mixed, and behind it a frame stored for a position
    of the same slot at least a ring's length in front of `p`. -/
def Displaced (h : List Event) (index : Nat) (p : Int) : Prop :=
  ∃ after q y between x before,
    h = after ++ .store index q y :: (between ++ .store index p x :: before) ∧
      q + kMaxFifoFrames ≤ p ∧ slot q = slot p ∧ lastEmitted before = none

theorem Displaced.cons {h : List Event} {index : Nat} {p : Int} (hd : Displaced h index p)
    (e : Event) : Displaced (e :: h) index p := by
  obtain ⟨after, q, y, between, x, before, heq, hrest⟩ := hd
  exact ⟨e :: after, q, y, between, x, before, by rw [heq]; rfl, hrest⟩

/-- A frame that is held is the last one stored for its position. -/
theorem lastStored_of_heldAt {h : List Event} {index : Nat} {p : Int} {x : Frame}
    (hx : heldAt h index p = some x) : lastStored h index p = some x := by
  induction h with
  | nil => cases hx
  | cons e h ih =>
    unfold heldAt lastInSlot at hx ih
    unfold lastStored at ih ⊢
    rw [List.findSome?_cons] at hx ⊢
    cases e with
    | emit q y => exact ih hx
    | store i q y =>
      dsimp only [Event.inSlot, Event.storedAt] at hx ⊢
      by_cases hslot : i = index ∧ slot q = slot p
      · rw [if_pos hslot] at hx
        dsimp only [tagged] at hx
        by_cases hq : q = p
        · rw [if_pos hq] at hx
          rw [if_pos ⟨hslot.1, hq⟩]
          exact hx
        · rw [if_neg hq] at hx
          cases hx
      · have hne : ¬ (i = index ∧ q = p) := fun hp => hslot ⟨hp.1, by rw [hp.2]⟩
        rw [if_neg hslot] at hx
        rw [if_neg hne]
        exact ih hx

theorem slot_eq_iff {p q : Int} : slot p = slot q ↔ p % kMaxFifoFrames = q % kMaxFifoFrames := by
  have hp := Int.emod_nonneg p (b := (kMaxFifoFrames : Int)) (by decide)
  have hq := Int.emod_nonneg q (b := (kMaxFifoFrames : Int)) (by decide)
  unfold slot
  omega

/-- Two positions of one slot are a ring's length apart. -/
theorem slot_apart {p q : Int} (h : slot p = slot q) (hlt : p < q) : p + kMaxFifoFrames ≤ q := by
  have hmod := slot_eq_iff.mp h
  have hring : (kMaxFifoFrames : Int) = 24000 := rfl
  rw [hring] at hmod ⊢
  omega

/-! ## The timeline -/

structure Timeline where
  output : Int
  emitted : Bool
  rings : List (Nat → Option (Int × Frame))
  history : List Event

def timeline (m : MixedAudioSrc κ) : Timeline where
  output := m.outputFrame
  emitted := m.timelineEmitted
  rings := m.sources.map (·.ring)
  history := m.history

/-- What was mixed, newest first, is explained by what was stored before. -/
def Sound (n : Nat) : List Event → Prop
  | [] => True
  | .store _ _ _ :: before => Sound n before
  | .emit p x :: before =>
      (∀ q ∈ lastEmitted before, p = q + 1) ∧ x = sumOfHeld n before p ∧
        (∀ index y, lastStored before index p = some y →
          heldAt before index p = some y ∨ Displaced before index p) ∧
        Sound n before

structure TimelineInv (n : Nat) (t : Timeline) : Prop where
  count : t.rings.length = n
  ring : ∀ index ring, t.rings[index]? = some ring → ∀ s, ring s = lastInSlot t.history index s
  emitted : t.emitted = false → lastEmitted t.history = none
  next : ∀ q ∈ lastEmitted t.history, t.output = q + 1
  ahead : lastEmitted t.history = none →
    ∀ index q x, .store index q x ∈ t.history → t.output ≤ q
  window : ∀ after index q x before, t.history = after ++ .store index q x :: before →
    q < t.output + kMaxFifoFrames ∨ lastEmitted before = none
  kept : ∀ index p x, lastStored t.history index p = some x → t.output ≤ p →
    lastInSlot t.history index (slot p) = some (p, x) ∨ Displaced t.history index p
  sound : Sound n t.history

/-! ### One frame stored -/

def Timeline.store (t : Timeline) (index : Nat) (q : Int) (y : Frame) : Timeline :=
  { t with
    rings := t.rings.modify index fun ring => Function.update ring (slot q) (some (q, y))
    history := .store index q y :: t.history }

theorem lastInSlot_store (h : List Event) (i : Nat) (q : Int) (y : Frame) (index s : Nat) :
    lastInSlot (.store i q y :: h) index s =
      if i = index ∧ slot q = s then some (q, y) else lastInSlot h index s := by
  unfold lastInSlot
  rw [List.findSome?_cons]
  dsimp only [Event.inSlot]
  by_cases hpos : i = index ∧ slot q = s
  · rw [if_pos hpos, if_pos hpos]
  · rw [if_neg hpos, if_neg hpos]

theorem lastStored_store (h : List Event) (i : Nat) (q : Int) (y : Frame) (index : Nat) (p : Int) :
    lastStored (.store i q y :: h) index p =
      if i = index ∧ q = p then some y else lastStored h index p := by
  unfold lastStored
  rw [List.findSome?_cons]
  dsimp only [Event.storedAt]
  by_cases hpos : i = index ∧ q = p
  · rw [if_pos hpos, if_pos hpos]
  · rw [if_neg hpos, if_neg hpos]

theorem lastEmitted_store (h : List Event) (i : Nat) (q : Int) (y : Frame) :
    lastEmitted (.store i q y :: h) = lastEmitted h := rfl

/-- The last store for a position, in the history. -/
theorem lastStored_split {h : List Event} {index : Nat} {p : Int} {x : Frame}
    (hx : lastStored h index p = some x) :
    ∃ after before, h = after ++ .store index p x :: before := by
  induction h with
  | nil => cases hx
  | cons e h ih =>
    unfold lastStored at hx ih
    rw [List.findSome?_cons] at hx
    cases e with
    | emit q y =>
      obtain ⟨after, before, heq⟩ := ih hx
      exact ⟨.emit q y :: after, before, by rw [heq]; rfl⟩
    | store i q y =>
      dsimp only [Event.storedAt] at hx
      by_cases hpos : i = index ∧ q = p
      · rw [if_pos hpos] at hx
        obtain ⟨rfl, rfl⟩ := hpos
        obtain rfl := Option.some.inj hx
        exact ⟨[], h, rfl⟩
      · rw [if_neg hpos] at hx
        obtain ⟨after, before, heq⟩ := ih hx
        exact ⟨.store i q y :: after, before, by rw [heq]; rfl⟩

theorem TimelineInv.store {n : Nat} {t : Timeline} (h : TimelineInv n t) {index : Nat} {q : Int}
    (hlow : t.output ≤ q) (hhigh : q < t.output + kMaxFifoFrames) (y : Frame) :
    TimelineInv n (t.store index q y) where
  count := (List.length_modify ..).trans h.count
  ring := by
    intro i ring hring s
    dsimp only [Timeline.store] at hring ⊢
    rw [List.getElem?_modify] at hring
    obtain ⟨old, hold, heq⟩ := Option.map_eq_some_iff.mp hring
    have hsame := h.ring i old hold s
    rw [lastInSlot_store]
    split at heq
    · next hi =>
        rw [← heq, Function.update_apply, hsame]
        by_cases hs : s = slot q
        · rw [if_pos hs, if_pos ⟨hi, hs.symm⟩]
        · rw [if_neg hs, if_neg fun hpos => hs hpos.2.symm]
    · next hi => rw [← heq, hsame, if_neg fun hpos => hi hpos.1]
  emitted := h.emitted
  next := h.next
  ahead := by
    intro hnone i p x hmem
    rcases List.mem_cons.mp hmem with heq | hmem
    · cases heq
      exact hlow
    · exact h.ahead hnone i p x hmem
  window := by
    intro after i p x before heq
    cases after with
    | nil =>
      obtain ⟨hev, -⟩ := List.cons.inj heq
      cases hev
      exact .inl hhigh
    | cons e after => exact h.window after i p x before (List.cons.inj heq).2
  kept := by
    intro i p x hx hp
    dsimp only [Timeline.store] at hx hp ⊢
    rw [lastStored_store] at hx
    rw [lastInSlot_store]
    by_cases hpos : index = i ∧ q = p
    · rw [if_pos hpos] at hx
      obtain ⟨rfl, rfl⟩ := hpos
      rw [if_pos ⟨rfl, rfl⟩, Option.some.inj hx]
      exact .inl rfl
    · rw [if_neg hpos] at hx
      by_cases hslot : index = i ∧ slot q = slot p
      · -- the waiting frame loses its slot
        obtain ⟨rfl, hslot⟩ := hslot
        right
        have hne : q ≠ p := fun heq => hpos ⟨rfl, heq⟩
        have hback : q + kMaxFifoFrames ≤ p := by
          rcases Int.lt_or_gt_of_ne hne with hlt | hgt
          · exact slot_apart hslot hlt
          · have hapart := slot_apart hslot.symm hgt
            omega
        obtain ⟨after, before, heq⟩ := lastStored_split hx
        have hbefore : lastEmitted before = none := by
          rcases h.window after index p x before heq with hin | hnone
          · omega
          · exact hnone
        exact ⟨[], q, y, after, x, before, by rw [heq]; rfl, hback, hslot, hbefore⟩
      · rw [if_neg hslot]
        exact (h.kept i p x hx hp).imp id fun hd => hd.cons _
  sound := h.sound

/-! ### The start moved back, and one frame mixed -/

/-- Until something is mixed the start may move back. -/
theorem TimelineInv.lower {n : Nat} {t : Timeline} (h : TimelineInv n t) (hnot : t.emitted = false)
    {output : Int} (hle : output ≤ t.output) : TimelineInv n { t with output := output } := by
  have hnone := h.emitted hnot
  have hnothing : ∀ {before : List Event} (after : List Event), t.history = after ++ before →
      lastEmitted before = none := by
    intro before after heq
    refine List.findSome?_eq_none_iff.mpr fun e he => ?_
    refine List.findSome?_eq_none_iff.mp hnone e ?_
    rw [heq]
    exact List.mem_append_right after he
  constructor
  · exact h.count
  · exact h.ring
  · exact h.emitted
  · intro q hq
    rw [hnone] at hq
    cases hq
  · intro _ index q x hmem
    have := h.ahead hnone index q x hmem
    dsimp only
    omega
  · intro after index q x before heq
    exact .inr (hnothing (after ++ [.store index q x]) (by rw [heq, List.append_assoc]; rfl))
  · intro index p x hx _
    obtain ⟨after, before, heq⟩ := lastStored_split hx
    refine h.kept index p x hx (h.ahead hnone index p x ?_)
    rw [heq]
    exact List.mem_append_right after List.mem_cons_self
  · exact h.sound

def Timeline.mixFrame (t : Timeline) : Frame :=
  (t.rings.map fun ring => tagged t.output (ring (slot t.output))).foldl addHeld silence

def Timeline.emit (t : Timeline) : Timeline :=
  { t with
    output := t.output + 1
    emitted := true
    history := .emit t.output t.mixFrame :: t.history }

/-- The rings hold what the history says. -/
theorem TimelineInv.held {n : Nat} {t : Timeline} (h : TimelineInv n t) (p : Int) :
    t.rings.map (fun ring => tagged p (ring (slot p))) =
      (List.range n).map fun index => heldAt t.history index p := by
  refine List.ext_getElem? fun i => ?_
  rw [List.getElem?_map, List.getElem?_map]
  by_cases hi : i < t.rings.length
  · have hring := h.ring i t.rings[i] (List.getElem?_eq_getElem hi) (slot p)
    rw [List.getElem?_eq_getElem hi, List.getElem?_range (h.count ▸ hi)]
    dsimp only [Option.map_some]
    rw [hring]
    rfl
  · rw [List.getElem?_eq_none (Nat.le_of_not_lt hi), List.getElem?_eq_none]
    · rfl
    · rw [List.length_range, ← h.count]
      exact Nat.le_of_not_lt hi

theorem TimelineInv.mixFrame_eq {n : Nat} {t : Timeline} (h : TimelineInv n t) :
    t.mixFrame = sumOfHeld n t.history t.output := by
  unfold Timeline.mixFrame sumOfHeld
  rw [h.held]

theorem TimelineInv.emit {n : Nat} {t : Timeline} (h : TimelineInv n t) : TimelineInv n t.emit := by
  have hlast : lastEmitted t.emit.history = some t.output := rfl
  constructor
  · exact h.count
  · exact h.ring
  · exact nofun
  · intro q hq
    rw [hlast] at hq
    rw [← Option.some.inj hq]
    rfl
  · intro hnone
    rw [hlast] at hnone
    cases hnone
  · intro after index q x before heq
    cases after with
    | nil => cases (List.cons.inj heq).1
    | cons e after =>
      have hwindow := h.window after index q x before (List.cons.inj heq).2
      have hout : t.emit.output = t.output + 1 := rfl
      exact hwindow.imp (fun hlt => by omega) id
  · intro index p x hx hp
    have hout : t.emit.output = t.output + 1 := rfl
    exact (h.kept index p x hx (by omega)).imp id fun hd => hd.cons _
  · refine ⟨h.next, h.mixFrame_eq, fun index y hy => ?_, h.sound⟩
    refine (h.kept index t.output y hy (Int.le_refl _)).imp (fun hheld => ?_) id
    rw [heldAt, hheld]
    exact if_pos rfl

/-! ## The operations -/

/-- Operations that leave the timeline alone keep the invariant. -/
theorem timeline_modifySource (m : MixedAudioSrc κ) (index : Nat)
    {f : TimelineSource → TimelineSource} (hf : ∀ s, (f s).ring = s.ring) :
    (m.modifySource index f).timeline = m.timeline := by
  have hrings : (m.sources.modify index f).map (·.ring) = m.sources.map (·.ring) := by
    refine List.ext_getElem? fun i => ?_
    rw [List.getElem?_map, List.getElem?_map, List.getElem?_modify]
    cases m.sources[i]? with
    | none => rfl
    | some s =>
      dsimp only [Option.map_eq_map, Option.map_some]
      split
      · rw [hf]
      · rfl
  unfold timeline modifySource
  rw [hrings]

theorem timeline_storeFrame (m : MixedAudioSrc κ) (index : Nat) (q : Int) (y : Frame) :
    (m.storeFrame index q y).timeline = m.timeline.store index q y := by
  have hrings : (m.sources.modify index fun s =>
      { s with ring := Function.update s.ring (slot q) (some (q, y)) }).map (·.ring) =
        (m.sources.map (·.ring)).modify index fun ring =>
          Function.update ring (slot q) (some (q, y)) := by
    refine List.ext_getElem? fun i => ?_
    rw [List.getElem?_map, List.getElem?_modify, List.getElem?_modify, List.getElem?_map]
    cases m.sources[i]? with
    | none => rfl
    | some s =>
      dsimp only [Option.map_eq_map, Option.map_some]
      split <;> rfl
  unfold storeFrame timeline modifySource Timeline.store
  dsimp only
  rw [hrings]

theorem inv_storeFrames {n : Nat} {m : MixedAudioSrc κ} (h : TimelineInv n m.timeline)
    (index : Nat) (start : Int) (numFrames : Nat) (frame : Nat → Frame) :
    TimelineInv n (m.storeFrames index start numFrames frame).timeline := by
  unfold storeFrames
  induction numFrames with
  | zero => exact h
  | succ k ih =>
    rw [List.range_succ, List.foldl_append, List.foldl_cons, List.foldl_nil]
    dsimp only
    split
    · exact ih
    · next hin =>
        rw [timeline_storeFrame]
        exact ih.store (by have := hin; dsimp only [timeline] at *; omega)
          (by have := hin; dsimp only [timeline] at *; omega) _

/-- A mixer of several sources that was initialized. -/
structure Running (n : Nat) (m : MixedAudioSrc κ) : Prop where
  several : 1 < n
  started : m.timelineStarted = true
  inv : TimelineInv n m.timeline

theorem Running.sourceCount {n : Nat} {m : MixedAudioSrc κ} (h : Running n m) :
    m.sourceCount = n := by
  have hcount := h.inv.count
  unfold timeline at hcount
  rwa [List.length_map] at hcount

/-- What is not part of the timeline may change. -/
theorem Running.congr {n : Nat} {m m' : MixedAudioSrc κ} (h : Running n m)
    (hstarted : m'.timelineStarted = m.timelineStarted) (htimeline : m'.timeline = m.timeline) :
    Running n m' :=
  ⟨h.several, hstarted.trans h.started, htimeline ▸ h.inv⟩

theorem Running.modifySource {n : Nat} {m : MixedAudioSrc κ} (h : Running n m) (index : Nat)
    {f : TimelineSource → TimelineSource} (hf : ∀ s, (f s).ring = s.ring) :
    Running n (m.modifySource index f) :=
  h.congr rfl (timeline_modifySource m index hf)

theorem Running.extendTimeline {n : Nat} {m : MixedAudioSrc κ} (h : Running n m) (index : Nat)
    (start : Int) (numFrames : Nat) : Running n (m.extendTimeline index start numFrames) := by
  have hstarted := h.started
  have hlowered : Running n (if !m.timelineStarted then
      { m with outputFrame := start, latestFrame := start, timelineStarted := true }
    else if !m.timelineEmitted then { m with outputFrame := min m.outputFrame start }
    else m) := by
    have hrunning : (!m.timelineStarted) = false := by rw [hstarted]; rfl
    rw [hrunning]
    cases hnot : !m.timelineEmitted with
    | false => exact h
    | true =>
      have hemitted : m.timelineEmitted = false := by simpa using hnot
      exact ⟨h.several, hstarted, h.inv.lower hemitted (Int.min_le_left _ start)⟩
  unfold MixedAudioSrc.extendTimeline
  dsimp only
  have hseen := hlowered.modifySource index
    (f := fun s => { s with seen := true, endFrame := start + numFrames }) fun _ => rfl
  exact hseen.congr rfl rfl

theorem storeFrames_started (m : MixedAudioSrc κ) (index : Nat) (start : Int) (numFrames : Nat)
    (frame : Nat → Frame) :
    (m.storeFrames index start numFrames frame).timelineStarted = m.timelineStarted := by
  unfold storeFrames
  induction numFrames with
  | zero => rfl
  | succ k ih =>
    rw [List.range_succ, List.foldl_append, List.foldl_cons, List.foldl_nil]
    dsimp only
    split <;> exact ih

theorem Running.storeTimelinePacket {n : Nat} {m : MixedAudioSrc κ} (h : Running n m) (index : Nat)
    (packet : RawAudioBuffer Frame) (qpcNs clockNs : Nat) (tail : Bool) :
    Running n (m.storeTimelinePacket index packet qpcNs clockNs tail) := by
  unfold MixedAudioSrc.storeTimelinePacket
  split
  · exact h
  · split
    · exact h
    · next source hsource =>
        have hext := h.extendTimeline index (m.packetStart source packet qpcNs clockNs tail)
          packet.numFrames
        exact ⟨h.several, (storeFrames_started ..).trans hext.started,
          inv_storeFrames hext.inv _ _ _ _⟩

theorem Running.pumpSource {n : Nat} {r : MixedAudioSrc κ × Bool} (h : Running n r.1)
    (answer : Poll × Nat) : Running n (pumpSource r answer).1 := by
  obtain ⟨m, anyDiscontinuity⟩ := r
  obtain ⟨poll, index⟩ := answer
  have hseveral : ¬ m.sourceCount = 1 := by
    have hcount := h.sourceCount
    have := h.several
    dsimp only at hcount
    omega
  unfold MixedAudioSrc.pumpSource
  dsimp only
  split
  · exact h
  · split
    · exact h
    · split
      · exact h
      · split
        · exact h.modifySource index fun _ => rfl
        · exact h
      · exact h.storeTimelinePacket _ _ _ _ _

theorem Running.pump {n : Nat} {m : MixedAudioSrc κ} (h : Running n m) (polls : List Poll) :
    Running n (m.pumpOnePacketPerSource polls).1 := by
  unfold pumpOnePacketPerSource
  split
  · exact h
  · exact StepRun.foldl_invariant (I := fun r : MixedAudioSrc κ × Bool => Running n r.1)
      (fun r answer hr => hr.pumpSource answer) polls.zipIdx h

/-! ### Mixing -/

theorem mixFrame_eq_tagged (m : MixedAudioSrc κ) (p : Int) :
    m.mixFrame p =
      (m.timeline.rings.map fun ring => tagged p (ring (slot p))).foldl addHeld silence := by
  unfold mixFrame timeline
  rw [List.map_map, List.foldl_map]
  refine congrArg (fun f => m.sources.foldl f silence) ?_
  funext sum s
  dsimp only [Function.comp_apply, TimelineSource.frameAt]
  cases s.ring (slot p) with
  | none => rfl
  | some tag =>
    dsimp only [tagged]
    split
    · next heq => rw [heq]; rfl
    · next heq => rw [heq]; rfl

/-- The next `k` frames, one after the other. -/
theorem iterate_emit (m : MixedAudioSrc κ) (k : Nat) :
    (Timeline.emit^[k] m.timeline).output = m.outputFrame + k ∧
      (Timeline.emit^[k] m.timeline).rings = m.timeline.rings ∧
      (Timeline.emit^[k] m.timeline).history =
        ((List.range k).map fun f : Nat =>
          (m.outputFrame + (f : Int), m.mixFrame (m.outputFrame + (f : Int)))).foldl emitFrame
            m.history := by
  induction k with
  | zero => exact ⟨(Int.add_zero _).symm, rfl, rfl⟩
  | succ k ih =>
    obtain ⟨houtput, hrings, hhistory⟩ := ih
    have hframe : (Timeline.emit^[k] m.timeline).mixFrame = m.mixFrame (m.outputFrame + k) := by
      rw [mixFrame_eq_tagged, Timeline.mixFrame, houtput, hrings]
    rw [Function.iterate_succ_apply']
    refine ⟨?_, hrings, ?_⟩
    · have hstep : (Timeline.emit^[k] m.timeline).emit.output =
          (Timeline.emit^[k] m.timeline).output + 1 := rfl
      omega
    · rw [List.range_succ, List.map_append, List.foldl_append, ← hhistory, Timeline.emit, houtput,
        hframe]
      rfl

theorem Running.mixTimeline {n : Nat} {m : MixedAudioSrc κ} (h : Running n m) {frames : Nat}
    (hpos : frames ≠ 0) : Running n (m.mixTimeline frames).1 := by
  have hinv : ∀ k, TimelineInv n (Timeline.emit^[k] m.timeline) := by
    intro k
    induction k with
    | zero => exact h.inv
    | succ k ih =>
      rw [Function.iterate_succ_apply']
      exact ih.emit
  have htimeline : (m.mixTimeline frames).1.timeline = Timeline.emit^[frames] m.timeline := by
    obtain ⟨k, rfl⟩ := Nat.exists_eq_succ_of_ne_zero hpos
    obtain ⟨houtput, hrings, hhistory⟩ := iterate_emit m (k + 1)
    have hemitted : (Timeline.emit^[k + 1] m.timeline).emitted = true := by
      rw [Function.iterate_succ_apply']
      rfl
    have heta : ∀ t : Timeline, t = ⟨t.output, t.emitted, t.rings, t.history⟩ := fun _ => rfl
    rw [heta (Timeline.emit^[k + 1] m.timeline), houtput, hrings, hhistory, hemitted]
    rfl
  exact ⟨h.several, h.started, htimeline ▸ hinv frames⟩

/-! ## Runs -/

section Runs

variable (process : κ → List Frame → κ × List Frame)

theorem Running.acquireBuffer {n : Nat} {m : MixedAudioSrc κ} (h : Running n m) (polls : List Poll)
    (clockNs : Nat) : Running n (m.acquireBuffer process polls clockNs).1 := by
  have hpump := h.pump polls
  unfold MixedAudioSrc.acquireBuffer
  dsimp only
  generalize hm : { (m.pumpOnePacketPerSource polls).1 with
    timelineDiscontinuityPending := (m.pumpOnePacketPerSource polls).1.timelineDiscontinuityPending ||
      (m.pumpOnePacketPerSource polls).2 } = m'
  have hm' : Running n m' := hm ▸ hpump.congr rfl rfl
  split
  · exact hm'
  · next hpos =>
      have hseveral : 1 < m'.sourceCount := by
        rw [hm'.sourceCount]
        exact hm'.several
      have hmix : Running n (m'.mixBlock (m'.emittableFrames clockNs)).1 := by
        unfold mixBlock
        rw [if_pos hseveral]
        exact hm'.mixTimeline hpos
      have hlimit : Running n ((m'.mixBlock (m'.emittableFrames clockNs)).1.limit process
          (m'.mixBlock (m'.emittableFrames clockNs)).2).1 := by
        unfold limit
        split <;> exact hmix.congr rfl rfl
      exact hlimit.congr rfl rfl

theorem Running.drainSource {n : Nat} {m : MixedAudioSrc κ} (h : Running n m)
    (answer : List Frame × Nat) : Running n (m.drainSource answer) := by
  have hseveral : 1 < m.sourceCount := by
    rw [h.sourceCount]
    exact h.several
  unfold MixedAudioSrc.drainSource
  dsimp only
  split
  · exact h
  · split
    · exact h
    · exact h.storeTimelinePacket _ _ _ _ _

theorem Running.beginDrain {n : Nat} {m : MixedAudioSrc κ} (h : Running n m)
    (tails : List (List Frame)) : Running n (m.beginDrain tails) := by
  unfold MixedAudioSrc.beginDrain
  split
  · exact h
  · exact StepRun.foldl_invariant (I := fun m : MixedAudioSrc κ => Running n m)
      (fun m answer hm => hm.drainSource answer) tails.zipIdx (h.congr rfl rfl)

theorem Running.reinit {n : Nat} {m : MixedAudioSrc κ} (h : Running n m) (answers : List Bool) :
    Running n (m.reinit answers) := by
  unfold MixedAudioSrc.reinit
  refine StepRun.foldl_invariant (I := fun m : MixedAudioSrc κ => Running n m)
    (fun m answer hm => ?_) answers.zipIdx h
  unfold reinitSource
  dsimp only
  split
  · exact hm
  · split
    · exact hm.modifySource _ fun _ => rfl
    · exact hm

theorem Running.setSourceMuted {n : Nat} {m : MixedAudioSrc κ} (h : Running n m) (index : Nat)
    (muted : Bool) : Running n (m.setSourceMuted index muted) := by
  unfold MixedAudioSrc.setSourceMuted
  split
  · exact h
  · split <;> exact h.congr rfl rfl

inductive Call where
  | setSourceMuted (index : Nat) (muted : Bool)
  | acquireBuffer (polls : List Poll) (clockNs : Nat)
  | beginDrain (tails : List (List Frame))
  | reinit (answers : List Bool)

def step (m : MixedAudioSrc κ) : Call → MixedAudioSrc κ
  | .setSourceMuted index muted => m.setSourceMuted index muted
  | .acquireBuffer polls clockNs => (m.acquireBuffer process polls clockNs).1
  | .beginDrain tails => m.beginDrain tails
  | .reinit answers => m.reinit answers

def run (gainMultipliers : List Float32) (limiterEnabled : Bool) (limiter : κ) (clockNs : Nat)
    (calls : List Call) : MixedAudioSrc κ :=
  calls.foldl (step process) (init gainMultipliers limiterEnabled limiter clockNs)

theorem running_init {gainMultipliers : List Float32} (hseveral : 1 < gainMultipliers.length)
    (limiterEnabled : Bool) (limiter : κ) (clockNs : Nat) :
    Running gainMultipliers.length (init gainMultipliers limiterEnabled limiter clockNs) := by
  have hcount : 1 < (gainMultipliers.map fun g => ({ gainMultiplier := g } : TimelineSource)).length := by
    rwa [List.length_map]
  have hinit : init gainMultipliers limiterEnabled limiter clockNs =
      { sources := gainMultipliers.map fun g => { gainMultiplier := g }
        limiterEnabled := limiterEnabled
        limiter := limiter
        outputFrame := samplePosition clockNs
        latestFrame := samplePosition clockNs
        timelineStarted := true } := if_pos hcount
  rw [hinit]
  refine ⟨hseveral, rfl, ?_⟩
  constructor
  · dsimp only [timeline]
    rw [List.length_map, List.length_map]
  · intro index ring hring s
    dsimp only [timeline] at hring
    rw [List.map_map] at hring
    obtain ⟨g, -, rfl⟩ := List.mem_map.mp (List.mem_of_getElem? hring)
    rfl
  · exact fun _ => rfl
  · exact nofun
  · exact fun _ _ _ _ => nofun
  · intro after index q x before heq
    exact absurd heq (by simp [timeline])
  · exact fun _ _ _ => nofun
  · trivial

theorem running_run {gainMultipliers : List Float32} (hseveral : 1 < gainMultipliers.length)
    (limiterEnabled : Bool) (limiter : κ) (clockNs : Nat) (calls : List Call) :
    Running gainMultipliers.length
      (run process gainMultipliers limiterEnabled limiter clockNs calls) := by
  refine StepRun.foldl_invariant (fun m c hm => ?_) calls
    (running_init hseveral limiterEnabled limiter clockNs)
  cases c with
  | setSourceMuted index muted => exact hm.setSourceMuted index muted
  | acquireBuffer polls clockNs => exact Running.acquireBuffer process hm polls clockNs
  | beginDrain tails => exact hm.beginDrain tails
  | reinit answers => exact hm.reinit answers

/-- The stores of one source. -/
def Event.ofSource (index : Nat) : Event → Bool
  | .store i _ _ => i == index
  | .emit _ _ => false

/-- What a source holds depends on its own stores. -/
theorem heldAt_filter (h : List Event) (index : Nat) (p : Int) :
    heldAt (h.filter (Event.ofSource index)) index p = heldAt h index p := by
  unfold heldAt
  refine congrArg (tagged p) ?_
  induction h with
  | nil => rfl
  | cons e h ih =>
    cases e with
    | emit q y => exact ih
    | store i q y =>
      by_cases hi : i = index
      · rw [List.filter_cons_of_pos (by simpa [Event.ofSource] using hi), lastInSlot_store,
          lastInSlot_store, ih]
      · rw [List.filter_cons_of_neg (by simpa [Event.ofSource] using hi), lastInSlot_store,
          if_neg fun hpos => hi hpos.1, ih]

theorem Sound.at_emit {n : Nat} {after before : List Event} {p : Int} {x : Frame}
    (h : Sound n (after ++ .emit p x :: before)) : Sound n (.emit p x :: before) := by
  induction after with
  | nil => exact h
  | cons e after ih =>
    cases e with
    | store i q y => exact ih h
    | emit q y => exact ih h.2.2.2

/-- What `x`, mixed at `p` behind the history `before`, is: the frame behind the last one mixed,
    and the sum over the sources of the last frame stored for its position, except for sources
    whose frame was displaced. It depends on what each source stored, not on how the stores of
    different sources interleave. -/
structure MixedFrom (n : Nat) (before : List Event) (p : Int) (x : Frame) : Prop where
  next : ∀ q ∈ lastEmitted before, p = q + 1
  sum : x = ((List.range n).map fun index => heldAt before index p).foldl addHeld silence
  own : ∀ index y, heldAt before index p = some y → lastStored before index p = some y
  kept : ∀ index y, lastStored before index p = some y →
    heldAt before index p = some y ∨ Displaced before index p
  order : ∀ before', (∀ index, before'.filter (Event.ofSource index) =
      before.filter (Event.ofSource index)) →
    x = ((List.range n).map fun index => heldAt before' index p).foldl addHeld silence

/-- Every frame mixed in a run is. -/
theorem mixed_from_stored {gainMultipliers : List Float32}
    (hseveral : 1 < gainMultipliers.length) (limiterEnabled : Bool) (limiter : κ) (clockNs : Nat)
    (calls : List Call) (after before : List Event) (p : Int) (x : Frame)
    (hmixed : (run process gainMultipliers limiterEnabled limiter clockNs calls).history =
      after ++ .emit p x :: before) :
    MixedFrom gainMultipliers.length before p x := by
  have hsound := (running_run process hseveral limiterEnabled limiter clockNs calls).inv.sound
  have hhistory : (run process gainMultipliers limiterEnabled limiter clockNs calls).timeline.history =
      after ++ .emit p x :: before := hmixed
  rw [hhistory] at hsound
  obtain ⟨hnext, hsum, hkept, -⟩ := hsound.at_emit
  refine ⟨hnext, hsum, fun index y => lastStored_of_heldAt, hkept, fun before' hsame => ?_⟩
  have hheld : (fun index => heldAt before' index p) = fun index => heldAt before index p := by
    funext index
    rw [← heldAt_filter before', hsame index, heldAt_filter]
  rw [hheld]
  exact hsum

end Runs

/-! ## Two runs -/

def bypass (limiter : Unit) (block : List Frame) : Unit × List Frame := (limiter, block)

/-- One frame of full scale. -/
def fullFrame : RawAudioBuffer Frame := { bytes := some [(1, 1)], numFrames := 1 }

def Event.isEmit (e : Event) : Bool := e.emitted.isSome

/-- Source 0 delivers a frame without a time stamp, source 1 one that is a frame earlier than
    the start of the timeline. -/
def untimedFirst : List Call :=
  [.acquireBuffer [.packet fullFrame 0 1000000000, .idle] 1000000000,
    .acquireBuffer [.idle, .packet fullFrame 999979167 1000000000] 1000000000]

def untimedSecond : List Call :=
  [.acquireBuffer [.idle, .packet fullFrame 999979167 1000000000] 1000000000,
    .acquireBuffer [.packet fullFrame 0 1000000000, .idle] 1000000000]

theorem mixed_from_stored_untimed :
    MixedFrom 2 [.store 0 47999 (0.5, 0.5), .store 1 47999 (0.5, 0.5)] 47999 (1, 1) :=
  @mixed_from_stored Unit bypass [1, 1] (by decide) false () 1000000000 untimedSecond [] _ 47999
    (1, 1) (by decide +kernel)

/-- Source 0 delivers a frame for position 30000 and then one for position 6000; the clock runs
    until position 30000 is mixed. -/
def movedBack : List Call :=
  [.acquireBuffer [.packet fullFrame 625000000 416666667, .idle] 416666667,
    .acquireBuffer [.packet fullFrame 125000000 416666667, .idle] 1000000000] ++
    List.replicate 49 (.acquireBuffer [.idle, .idle] 1000000000) ++
    [.acquireBuffer [.idle, .idle] 655020834]


theorem lastStored_emitted (mix : List (Int × Frame)) (h : List Event) (index : Nat) (p : Int) :
    lastStored (mix.foldl emitFrame h) index p = lastStored h index p := by
  induction mix generalizing h with
  | nil => rfl
  | cons e mix ih => exact ih (emitFrame h e)

theorem pump_idle (m : MixedAudioSrc κ) (sources : Nat) :
    m.pumpOnePacketPerSource (List.replicate sources .idle) = (m, false) := by
  have hfold : ∀ first, ((List.replicate sources Poll.idle).zipIdx first).foldl pumpSource
      (m, false) = (m, false) := by
    induction sources with
    | zero => exact fun _ => rfl
    | succ sources ih =>
      intro first
      have hidle : pumpSource (m, false) (.idle, first) = (m, false) := by
        unfold pumpSource
        dsimp only
        split
        · rfl
        · split <;> rfl
      rw [List.replicate_succ, List.zipIdx_cons, List.foldl_cons, hidle, ih]
  unfold pumpOnePacketPerSource
  rw [hfold, ite_self]

/-- A call in which no source has a packet stores nothing. -/
theorem lastStored_idle (process : κ → List Frame → κ × List Frame) (m : MixedAudioSrc κ)
    (sources clockNs index : Nat) (p : Int) :
    lastStored (m.acquireBuffer process (List.replicate sources .idle) clockNs).1.history index p =
      lastStored m.history index p := by
  have hmix : ∀ (m : MixedAudioSrc κ) (n : Nat),
      lastStored (m.mixBlock n).1.history index p = lastStored m.history index p := by
    intro m n
    unfold mixBlock
    split
    · exact lastStored_emitted _ m.history index p
    · rfl
  have hlimit : ∀ (m : MixedAudioSrc κ) (mix : List Frame),
      (m.limit process mix).1.history = m.history := by
    intro m mix
    unfold limit
    split <;> rfl
  unfold MixedAudioSrc.acquireBuffer
  rw [pump_idle]
  dsimp only
  split
  · rfl
  · exact (congrArg (lastStored · index p) (hlimit _ _)).trans (hmix _ _)

/-- The two orders of arrival give different frames; and a frame stored for position 30000 is
    missing when that position is mixed. -/
theorem arrival_order_matters :
    (run bypass [1, 1] false () 1000000000 untimedFirst).history.filter Event.isEmit =
        [.emit 47999 (0.5, 0.5)] ∧
      (run bypass [1, 1] false () 1000000000 untimedSecond).history.filter Event.isEmit =
        [.emit 47999 (1, 1)] ∧
      (run bypass [1, 1] false () 416666667 movedBack).history.head? = some (.emit 30000 silence) ∧
      lastStored (run bypass [1, 1] false () 416666667 movedBack).history 0 30000 =
        some (0.5, 0.5) := by
  refine ⟨by decide +kernel, by decide +kernel, ?_, ?_⟩
  · -- the frame and its position apart: each is computed once
    have hposition : (run bypass [1, 1] false () 416666667 movedBack).history.head?.bind
        Event.emitted = some 30000 := by decide +kernel
    have hframe : ((run bypass [1, 1] false () 416666667 movedBack).history.head?.map
        fun e => match e with
          | .emit _ x => x
          | .store _ _ y => y) = some silence := by decide +kernel
    obtain ⟨e, he, heq⟩ := Option.bind_eq_some_iff.mp hposition
    rw [he] at hframe ⊢
    cases e with
    | store i q y => cases heq
    | emit q x =>
      obtain rfl := Option.some.inj heq
      obtain rfl := Option.some.inj hframe
      rfl
  · have hcall : ∀ (clockNs : Nat) (m : MixedAudioSrc Unit),
        lastStored (step bypass m (.acquireBuffer [.idle, .idle] clockNs)).history 0 30000 =
          lastStored m.history 0 30000 :=
      fun clockNs m => lastStored_idle bypass m 2 clockNs 0 30000
    have hidle : ∀ (k : Nat) (m : MixedAudioSrc Unit), lastStored
        ((List.replicate k (.acquireBuffer [.idle, .idle] 1000000000)).foldl (step bypass) m).history
        0 30000 = lastStored m.history 0 30000 := by
      intro k
      induction k with
      | zero => exact fun _ => rfl
      | succ k ih =>
        intro m
        rw [List.replicate_succ, List.foldl_cons, ih, hcall]
    unfold run movedBack
    rw [List.foldl_append, List.foldl_append, List.foldl_cons, List.foldl_nil, hcall, hidle]
    decide +kernel

end MixedAudioSrc

end Exosnap.Engine
