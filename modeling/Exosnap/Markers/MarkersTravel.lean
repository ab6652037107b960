/-
  Markers and the segments of a split recording.

  Each press writes all markers to the sidecar of the first published segment, and a segment's own
  markers are written under the name the segment has before it is published. So the sidecars fit the
  published segments just when no segment was closed with a marker in its window, and the first
  segment alone contains every marker.
-/
import Exosnap.Markers.MarkerSidecar

namespace Exosnap.Markers

open Capability (Container)
open Services.Path (splitExtension)
open Split (RecordingName extensionOf DeriveValuablePartialPath SegmentName Probe compose partNumber
  segmentName_zero segmentName_of_derive colon_not_in_compose splitExtension_of_plain
  splitExtension_output splitExtension_artefact)

/-! ## The names of sidecars -/

/-- What a segment's name has after the base's stem. -/
def partSuffix (index disambiguator : Nat) : String :=
  "_part-" ++ partNumber index ++ (if disambiguator = 0 then "" else "_" ++ disambiguator.repr)

theorem compose_eq {base stem ext : String} (hbase : splitExtension base = (stem, ext)) (i d : Nat) :
    compose base i d = stem ++ partSuffix i d ++ ext := by
  simp only [compose, hbase, partSuffix, String.append_assoc]

theorem sidecar_of_splitExtension {f stem ext : String} (hf : f ≠ "")
    (hsplit : splitExtension f = (stem, ext)) : DeriveMarkerSidecarPath f = stem ++ ".markers.json" := by
  rw [DeriveMarkerSidecarPath, if_neg hf, hsplit]

section
variable {base stem ext : String} {rest : List Char} {i : Nat} {f : String}

/-- The sidecar of a name that a segment can have. -/
theorem sidecar_of_segmentName (hbase : splitExtension base = (stem, ext)) (hne : base ≠ "")
    (hext : ext.toList = '.' :: rest) (hdot : '.' ∉ rest) (hcolon : ':' ∉ rest) (hrest : rest ≠ [])
    (hname : SegmentName base i f) :
    ∃ tail, (tail = "" ∧ i = 0 ∨ i ≠ 0 ∧ ∃ d, tail = partSuffix i d) ∧
      DeriveMarkerSidecarPath f = stem ++ tail ++ ".markers.json" := by
  unfold SegmentName at hname
  split_ifs at hname with hindex
  · subst hname
    refine ⟨"", .inl ⟨rfl, hindex⟩, ?_⟩
    rw [sidecar_of_splitExtension hne hbase, String.append_empty]
  · obtain ⟨d, rfl⟩ := hname
    refine ⟨partSuffix i d, .inr ⟨hindex, d, rfl⟩, ?_⟩
    have hplain := colon_not_in_compose base i d
    rw [compose_eq hbase, String.toList_append, List.mem_append, not_or] at hplain
    have hsome : stem ++ partSuffix i d ≠ "" := by
      intro hno
      have := congrArg String.length hno
      simp [partSuffix] at this
    rw [compose_eq hbase]
    refine sidecar_of_splitExtension (fun hno => ?_)
      (splitExtension_of_plain hsome hplain.1 hext hdot hcolon hrest)
    have := congrArg String.length hno
    simp [partSuffix] at this

end

section
variable {name : RecordingName} {container : Container} {i : Nat} {f : String}

theorem sidecar_of_output (hname : SegmentName (name.output container) i f) :
    ∃ tail, (tail = "" ∧ i = 0 ∨ i ≠ 0 ∧ ∃ d, tail = partSuffix i d) ∧
      DeriveMarkerSidecarPath f = name.stem ++ tail ++ ".markers.json" := by
  have hne : name.output container ≠ "" := by
    intro hno
    have := congrArg String.length hno
    cases container <;> simp [RecordingName.output, extensionOf] at this
  cases container <;>
    exact sidecar_of_segmentName (splitExtension_output _ _) hne rfl (by decide) (by decide)
      (by decide) hname

theorem sidecar_of_artefact (hname : SegmentName (name.artefact container) i f) :
    ∃ tail, (tail = "" ∧ i = 0 ∨ i ≠ 0 ∧ ∃ d, tail = partSuffix i d) ∧
      DeriveMarkerSidecarPath f = name.output container ++ tail ++ ".markers.json" := by
  refine sidecar_of_segmentName (splitExtension_artefact _ _) (fun hno => ?_) rfl (by decide)
    (by decide) (by decide) hname
  have := congrArg String.length hno
  simp [RecordingName.artefact, DeriveValuablePartialPath] at this

/-- A sidecar written for a file that is not published yet is no published file's sidecar. -/
theorem sidecar_artefact_ne_output {j : Nat} {a : String}
    (ha : SegmentName (name.artefact container) i a) (hf : SegmentName (name.output container) j f) :
    DeriveMarkerSidecarPath a ≠ DeriveMarkerSidecarPath f := by
  obtain ⟨tail, -, hsidecar⟩ := sidecar_of_artefact ha
  obtain ⟨tail', htail', hsidecar'⟩ := sidecar_of_output hf
  rw [hsidecar, hsidecar']
  intro heq
  have hlists := congrArg String.toList heq
  simp only [String.toList_append] at hlists
  have hlists := List.append_cancel_right hlists
  rw [RecordingName.output, String.toList_append, List.append_assoc] at hlists
  have hlists := List.append_cancel_left hlists
  rcases htail' with ⟨rfl, -⟩ | ⟨-, d, rfl⟩
  · cases container <;> simp [extensionOf] at hlists
  · cases container <;> simp [extensionOf, partSuffix] at hlists

/-- The base sidecar is that of segment 0. -/
theorem sidecar_output_index (hname : SegmentName (name.output container) i f)
    (heq : DeriveMarkerSidecarPath f = DeriveMarkerSidecarPath (name.output container)) : i = 0 := by
  obtain ⟨tail, htail, hsidecar⟩ := sidecar_of_output hname
  obtain ⟨tail', htail', hsidecar'⟩ :=
    sidecar_of_output (i := 0) (segmentName_zero (name.output container))
  rcases htail with ⟨-, hindex⟩ | ⟨-, d, rfl⟩
  · exact hindex
  · obtain ⟨rfl, -⟩ := htail'.resolve_right fun hno => hno.1 rfl
    rw [hsidecar, hsidecar'] at heq
    have := congrArg String.length heq
    simp [partSuffix] at this

end

namespace Session

/-! ## What is written in a run -/

/-- The parts of a state that the press of a marker leaves in order. -/
structure Shape (sidecars : String → Option MarkerSidecar) (s : Session) : Prop where
  times : ∀ m ∈ s.markers, m.timeMs ≤ kMaxMarkerTimeMs
  untouched : ∀ path, path ∉ s.written → s.sidecars path = sidecars path
  indexed : ∀ (i : Nat) (g : CompletedSegment), s.segments[i]? = some g →
    g.index = i ∧ g.sessionStartMs = g.startNs / 1000000
  published : ∀ p ∈ s.published, SegmentName s.output p.1.index p.2 ∧
    s.segments[p.1.index]? = some p.1

/-- Of a recording that began over `sidecars`. -/
structure Sidecars (sidecars : String → Option MarkerSidecar) (s : Session) : Prop
    extends Shape sidecars s where
  unmarked : s.markers = [] → s.written = []
  base : s.markers ≠ [] → s.MarkerSidecarPath ∈ s.written ∧
    ReadMarkerSidecar s.sidecars s.MarkerSidecarPath = s.markers

theorem sidecars_start (name : RecordingName) (container : Container) (frameDurNs : Nat)
    (sidecars : String → Option MarkerSidecar) :
    (start name container frameDurNs sidecars).Sidecars sidecars where
  times := nofun
  untouched := fun _ _ => rfl
  indexed := nofun
  published := nofun
  unmarked := fun _ => rfl
  base := fun hno => absurd rfl hno

section
variable {sidecars : String → Option MarkerSidecar} {s s' : Session}

theorem sidecar_ne_empty {name : RecordingName} {container : Container} {i : Nat} {f : String}
    (hname : SegmentName (name.output container) i f ∨ SegmentName (name.artefact container) i f) :
    DeriveMarkerSidecarPath f ≠ "" := by
  intro hno
  rcases hname with hname | hname
  · obtain ⟨tail, -, hsidecar⟩ := sidecar_of_output hname
    have := congrArg String.length (hsidecar.symm.trans hno)
    simp at this
  · obtain ⟨tail, -, hsidecar⟩ := sidecar_of_artefact hname
    have := congrArg String.length (hsidecar.symm.trans hno)
    simp at this

theorem read_congr {sidecars' : String → Option MarkerSidecar} {path : String}
    (h : sidecars path = sidecars' path) :
    ReadMarkerSidecar sidecars path = ReadMarkerSidecar sidecars' path := by
  rw [ReadMarkerSidecar, ReadMarkerSidecar, h]

theorem markerSidecarPath_ne_empty : s.MarkerSidecarPath ≠ "" :=
  sidecar_ne_empty (i := 0) (.inl (segmentName_zero _))

theorem writeMarkerSidecar_eq : s.WriteMarkerSidecar = { s with
    sidecars := Function.update s.sidecars s.MarkerSidecarPath
      (some (SerializeMarkerSidecar s.markers s.output none))
    written := s.MarkerSidecarPath :: s.written } := by
  rw [WriteMarkerSidecar, writeSidecar, if_neg markerSidecarPath_ne_empty]

/-- After a write of the base sidecar. -/
theorem Shape.writeMarkerSidecar (h : s.Shape sidecars) (hsome : s.markers ≠ []) :
    s.WriteMarkerSidecar.Sidecars sidecars := by
  rw [writeMarkerSidecar_eq]
  exact {
    times := h.times
    untouched := by
      intro path hpath
      rw [List.mem_cons, not_or] at hpath
      exact (Function.update_of_ne hpath.1 _ _).trans (h.untouched path hpath.2)
    indexed := h.indexed
    published := h.published
    unmarked := fun hno => absurd hno hsome
    base := by
      refine fun _ => ⟨List.mem_cons_self, ?_⟩
      have hpath := markerSidecarPath_ne_empty (s := s)
      simp only [MarkerSidecarPath, output] at hpath ⊢
      rw [ReadMarkerSidecar, if_neg hpath, Function.update_self]
      exact parse_serialize h.times }

theorem sidecars_addMarker (h : s.Sidecars sidecars) (type : RecordingMarkerType) :
    (s.AddMarker type).Sidecars sidecars := by
  unfold AddMarker
  split_ifs
  · exact h
  · refine Shape.writeMarkerSidecar ⟨?_, h.untouched, h.indexed, h.published⟩ (by simp)
    intro m hm
    rcases List.mem_append.mp hm with hm | hm
    · exact h.times m hm
    · rw [List.mem_singleton.mp hm]
      have hlt := s.lastMediaTimeNs.toNat_lt
      have hdiv : (s.lastMediaTimeNs / 1000000).toNat = s.lastMediaTimeNs.toNat / 1000000 :=
        UInt64.toNat_div _ _
      dsimp only
      rw [hdiv, kMaxMarkerTimeMs]
      omega
  · exact h

/-- A segment's sidecar is written, or none is when no marker lies in its window. -/
theorem writeSegmentMarkerSidecar_eq {g : CompletedSegment} {i : Nat}
    (hpath : SegmentName s.artefact i g.path) :
    s.WriteSegmentMarkerSidecar g =
      if PartitionSegmentMarkers s.markers g.sessionStartMs g.durationMs = [] then s
      else { s with
        sidecars := Function.update s.sidecars (DeriveMarkerSidecarPath g.path)
          (some (SerializeMarkerSidecar
            (PartitionSegmentMarkers s.markers g.sessionStartMs g.durationMs) g.path (some g.index)))
        written := DeriveMarkerSidecarPath g.path :: s.written } := by
  unfold WriteSegmentMarkerSidecar
  by_cases hnil : s.markers = []
  · rw [if_pos hnil, if_pos (by rw [hnil]; rfl)]
  · rw [if_neg hnil]
    dsimp only
    rw [writeSidecar, if_neg (sidecar_ne_empty (.inr hpath))]

theorem sidecars_segmentCompleted (h : s.Sidecars sidecars) {g : CompletedSegment}
    (hindex : g.index = s.segments.length) (hstart : g.sessionStartMs = g.startNs / 1000000)
    (hpath : SegmentName s.artefact g.index g.path) :
    (s.OnSegmentCompleted g).Sidecars sidecars := by
  have hmore : Sidecars sidecars { s with segments := s.segments ++ [g] } :=
    { h with
      indexed := by
        intro i g' hg'
        rcases Nat.lt_trichotomy i s.segments.length with hlt | rfl | hgt
        · rw [List.getElem?_append_left hlt] at hg'
          exact h.indexed i g' hg'
        · rw [List.getElem?_concat_length] at hg'
          rw [← Option.some.inj hg']
          exact ⟨hindex, hstart⟩
        · rw [List.getElem?_eq_none (by simp; omega)] at hg'
          cases hg'
      published := by
        intro p hp
        obtain ⟨hname, hget⟩ := h.published p hp
        refine ⟨hname, ?_⟩
        rwa [List.getElem?_append_left (List.getElem?_eq_some_iff.mp hget).1] }
  unfold OnSegmentCompleted
  dsimp only
  split_ifs
  · rw [writeSegmentMarkerSidecar_eq (s := { s with segments := s.segments ++ [g] }) hpath]
    split_ifs with hnone
    · exact hmore
    · have hne : DeriveMarkerSidecarPath s.output ≠ DeriveMarkerSidecarPath g.path :=
        (sidecar_artefact_ne_output hpath (segmentName_zero _)).symm
      have hsome : s.markers ≠ [] := by
        rintro hnil
        exact hnone (by dsimp only; rw [hnil]; rfl)
      exact { hmore with
        untouched := by
          intro path hpath'
          rw [List.mem_cons, not_or] at hpath'
          exact (Function.update_of_ne hpath'.1 _ _).trans (h.untouched path hpath'.2)
        unmarked := fun hnil => absurd hnil hsome
        base := by
          intro hno
          obtain ⟨hmem, hread⟩ := h.base hsome
          refine ⟨List.mem_cons_of_mem _ hmem, ?_⟩
          exact (read_congr (Function.update_of_ne hne _ _)).trans hread }
  · exact hmore

theorem sidecars_step {a : Action} (h : s.Sidecars sidecars) (hs : s.step a = some s') :
    s'.Sidecars sidecars := by
  cases a with
  | stats videoDurationNs =>
    obtain rfl := Option.some.inj hs
    exact { h with }
  | setState accepts =>
    obtain rfl := Option.some.inj hs
    exact { h with }
  | addMarker type =>
    obtain rfl := Option.some.inj hs
    exact sidecars_addMarker h type
  | segmentCompleted probe segment ok =>
    obtain ⟨path, hpath, rfl⟩ := Option.map_eq_some_iff.mp hs
    exact sidecars_segmentCompleted h rfl rfl (segmentName_of_derive hpath)
  | buildResult succeeded =>
    obtain rfl := Option.some.inj hs
    unfold buildResult
    split_ifs with hwrites
    · exact h.toShape.writeMarkerSidecar hwrites.2.1
    · exact h
  | publish probe index =>
    have hs : s.publish probe index = some s' := hs
    unfold publish at hs
    split at hs
    · next segment file hsegment hfile =>
      split_ifs at hs
      obtain rfl := Option.some.inj hs
      have hindex := (h.indexed index segment hsegment).1
      exact { h with
        published := by
          intro p hp
          rcases List.mem_append.mp hp with hp | hp
          · exact h.published p hp
          · rw [List.mem_singleton.mp hp]
            dsimp only
            rw [hindex]
            exact ⟨segmentName_of_derive hfile, hsegment⟩ }
    · cases hs

/-! ## The segments' own sidecars -/

/-- A segment that is closed with success has no marker in its window. -/
def Unmarked (s : Session) : Action → Prop
  | .segmentCompleted _ segment ok => ok = true →
      PartitionSegmentMarkers s.markers (segment.epochSessionPtsNs / 1000000)
        (localDurationNs segment s.frameDurNs / 1000000) = []
  | _ => True

instance (s : Session) (a : Action) : Decidable (s.Unmarked a) := by
  unfold Unmarked
  split <;> infer_instance

theorem addMarker_written (type : RecordingMarkerType) :
    (s.AddMarker type).written = s.written ∨
      (s.AddMarker type).written = s.MarkerSidecarPath :: s.written := by
  unfold AddMarker
  split_ifs
  · exact .inl rfl
  · rw [writeMarkerSidecar_eq]
    exact .inr rfl
  · exact .inl rfl

/-- What a step writes: nothing, the base sidecar, or the sidecar of a closed segment with a marker
    in its window. -/
theorem step_written {a : Action} (hs : s.step a = some s') :
    (s'.name = s.name ∧ s'.container = s.container) ∧
      (s.Unmarked a ∧ (s'.written = s.written ∨ s'.written = s.MarkerSidecarPath :: s.written) ∨
        ¬s.Unmarked a ∧ ∃ i path, SegmentName s.artefact i path ∧
          s'.written = DeriveMarkerSidecarPath path :: s.written) := by
  cases a with
  | stats videoDurationNs | setState accepts =>
    obtain rfl := Option.some.inj hs
    exact ⟨⟨rfl, rfl⟩, .inl ⟨trivial, .inl rfl⟩⟩
  | addMarker type =>
    obtain rfl := Option.some.inj hs
    refine ⟨?_, .inl ⟨trivial, addMarker_written type⟩⟩
    unfold AddMarker
    split_ifs
    · exact ⟨rfl, rfl⟩
    · rw [writeMarkerSidecar_eq]
      exact ⟨rfl, rfl⟩
    · exact ⟨rfl, rfl⟩
  | segmentCompleted probe segment ok =>
    obtain ⟨path, hpath, rfl⟩ := Option.map_eq_some_iff.mp hs
    have hname := segmentName_of_derive hpath
    unfold OnSegmentCompleted
    cases ok with
    | false => exact ⟨⟨rfl, rfl⟩, .inl ⟨fun hno => absurd hno (by decide), .inl rfl⟩⟩
    | true =>
      dsimp only
      rw [finalizeSegment]
      dsimp only
      rw [if_pos rfl, writeSegmentMarkerSidecar_eq (s := { s with segments := _ }) hname]
      dsimp only
      split_ifs with hnone
      · exact ⟨⟨rfl, rfl⟩, .inl ⟨fun _ => hnone, .inl rfl⟩⟩
      · exact ⟨⟨rfl, rfl⟩, .inr ⟨fun hno => hnone (hno rfl), _, path, hname, rfl⟩⟩
  | buildResult succeeded =>
    obtain rfl := Option.some.inj hs
    unfold buildResult
    split_ifs
    · rw [writeMarkerSidecar_eq]
      exact ⟨⟨rfl, rfl⟩, .inl ⟨trivial, .inr rfl⟩⟩
    · exact ⟨⟨rfl, rfl⟩, .inl ⟨trivial, .inl rfl⟩⟩
  | publish probe index =>
    have hs : s.publish probe index = some s' := hs
    unfold publish at hs
    split at hs
    · split_ifs at hs
      obtain rfl := Option.some.inj hs
      exact ⟨⟨rfl, rfl⟩, .inl ⟨trivial, .inl rfl⟩⟩
    · cases hs

end

theorem sidecars_exec {sidecars : String → Option MarkerSidecar} {s s' : Session} {as : List Action}
    (h : s.Sidecars sidecars) (hs : s.exec as = some s') : s'.Sidecars sidecars :=
  StepRun.exec_invariant_all (fun _ _ _ => sidecars_step) h hs

/-- `t` comes after `s`: the names stay, and what was written stays written. -/
structure Later (s t : Session) : Prop where
  output : t.output = s.output
  written : ∀ path ∈ s.written, path ∈ t.written

theorem later_exec {s s' : Session} {as : List Action} (hs : s.exec as = some s') : s.Later s' := by
  refine StepRun.exec_rel (R := Later) (fun _ => ⟨rfl, fun _ => id⟩)
    (fun hab hbc => ⟨hbc.output.trans hab.output, fun path hpath =>
      hbc.written path (hab.written path hpath)⟩) (fun s a s' hstep => ?_) hs
  obtain ⟨⟨hname, hcontainer⟩, hwritten⟩ := step_written hstep
  refine ⟨by rw [output, output, hname, hcontainer], fun path hpath => ?_⟩
  rcases hwritten with ⟨-, heq | heq⟩ | ⟨-, i, f, -, heq⟩ <;> rw [heq]
  · exact hpath
  · exact List.mem_cons_of_mem _ hpath
  · exact List.mem_cons_of_mem _ hpath

/-- A sidecar is the base's, or that of a file which was not published when it was written. -/
def Sourced (s : Session) : Prop :=
  ∀ path ∈ s.written, path = s.MarkerSidecarPath ∨
    ∃ i f, SegmentName s.artefact i f ∧ path = DeriveMarkerSidecarPath f

theorem sourced_step {s s' : Session} {a : Action} (h : s.Sourced) (hs : s.step a = some s') :
    s'.Sourced := by
  obtain ⟨⟨hname, hcontainer⟩, hwritten⟩ := step_written hs
  unfold Sourced MarkerSidecarPath output artefact at *
  rw [hname, hcontainer]
  rcases hwritten with ⟨-, heq | heq⟩ | ⟨-, i, f, hf, heq⟩ <;> rw [heq]
  · exact h
  · exact List.forall_mem_cons.mpr ⟨.inl rfl, h⟩
  · exact List.forall_mem_cons.mpr ⟨.inr ⟨i, f, hf, rfl⟩, h⟩

theorem sourced_exec {s s' : Session} {as : List Action} (h : s.Sourced) (hs : s.exec as = some s') :
    s'.Sourced :=
  StepRun.exec_invariant_all (fun _ _ _ => sourced_step) h hs

/-- No segment has a sidecar of its own just when none was closed with a marker in its window. -/
theorem unmarked_iff {as : List Action} :
    ∀ {s s' : Session}, s.exec as = some s' → (∀ path ∈ s.written, path = s.MarkerSidecarPath) →
      (StepRun.Meets step Unmarked s as ↔ ∀ path ∈ s'.written, path = s'.MarkerSidecarPath) := by
  induction as with
  | nil =>
    intro s s' hs hbase
    cases hs
    exact ⟨fun _ => hbase, fun _ => trivial⟩
  | cons a as ih =>
    intro s s' hs hbase
    obtain ⟨m, hm, hrest⟩ := StepRun.exec_cons_some.mp hs
    obtain ⟨⟨hname, hcontainer⟩, hwritten⟩ := step_written hm
    have hpath : m.MarkerSidecarPath = s.MarkerSidecarPath := by
      rw [MarkerSidecarPath, MarkerSidecarPath, output, output, hname, hcontainer]
    rcases hwritten with ⟨hunmarked, hwritten⟩ | ⟨hmarked, i, f, hf, hwritten⟩
    · have hbase' : ∀ path ∈ m.written, path = m.MarkerSidecarPath := by
        intro path hmem
        rw [hpath]
        rcases hwritten with heq | heq <;> rw [heq] at hmem
        · exact hbase path hmem
        · rcases List.mem_cons.mp hmem with rfl | hmem
          · rfl
          · exact hbase path hmem
      rw [← ih hrest hbase']
      refine ⟨fun hmeets => hmeets.tail hm, fun hmeets => ⟨hunmarked, fun m' hm' => ?_⟩⟩
      obtain rfl := Option.some.inj (hm.symm.trans hm')
      exact hmeets
    · refine ⟨fun hmeets => absurd hmeets.head hmarked, fun hall => absurd ?_ hmarked⟩
      obtain ⟨houtput, hkept⟩ := later_exec hrest
      have hmem := hkept _ (by rw [hwritten]; exact List.mem_cons_self)
      have heq := hall _ hmem
      rw [MarkerSidecarPath, houtput, ← MarkerSidecarPath, hpath] at heq
      exact absurd heq (sidecar_artefact_ne_output hf (segmentName_zero _))

end Session

/-! ## Markers travel with their segments -/

namespace CompletedSegment

def Contains (g : CompletedSegment) (m : RecordingMarker) : Prop :=
  g.startNs ≤ m.timeMs * 1000000 ∧ m.timeMs * 1000000 < g.startNs + g.lengthNs

instance (g : CompletedSegment) (m : RecordingMarker) : Decidable (g.Contains m) :=
  inferInstanceAs (Decidable (_ ∧ _))

/-- The markers in the segment's media, in segment-local time. -/
def assigned (g : CompletedSegment) (markers : List RecordingMarker) : List RecordingMarker :=
  (markers.filter fun m => g.Contains m).map fun m =>
    { m with timeMs := m.timeMs - g.sessionStartMs }

theorem assigned_eq_self {g : CompletedSegment} {markers : List RecordingMarker}
    (hcontains : ∀ m ∈ markers, g.Contains m) (hstart : g.sessionStartMs = 0) :
    g.assigned markers = markers := by
  rw [assigned, List.filter_eq_self.mpr (by simpa using hcontains), hstart]
  simp

theorem assigned_eq_nil {g : CompletedSegment} {markers : List RecordingMarker}
    (hnone : ∀ m ∈ markers, ¬g.Contains m) : g.assigned markers = [] := by
  rw [assigned, List.filter_eq_nil_iff.mpr (by simpa using hnone), List.map_nil]

/-- A segment that is assigned all markers, at their own times, contains them and starts at 0. -/
theorem of_assigned_eq_self {g : CompletedSegment} {markers : List RecordingMarker}
    (hstart : g.sessionStartMs = g.startNs / 1000000) (h : g.assigned markers = markers) :
    ∀ m ∈ markers, g.Contains m ∧ g.sessionStartMs = 0 := by
  have hlength := congrArg List.length h
  rw [assigned, List.length_map, List.length_filter_eq_length_iff] at hlength
  have hcontains : ∀ m ∈ markers, g.Contains m := by simpa using hlength
  rw [assigned, List.filter_eq_self.mpr (by simpa using hcontains)] at h
  intro m hm
  have hmap := List.map_inj_left.mp (h.trans (List.map_id markers).symm) m hm
  have htime : m.timeMs - g.sessionStartMs = m.timeMs := congrArg RecordingMarker.timeMs hmap
  have hle := (hcontains m hm).1
  refine ⟨hcontains m hm, ?_⟩
  omega

end CompletedSegment

namespace Session

/-- Each marker is in the sidecar of one published segment, the one whose media contains it, and there
    is no other sidecar. -/
structure MarkersTravel (s : Session) : Prop where
  one : ∀ m ∈ s.markers, ∃ p ∈ s.published, p.1.Contains m ∧
    ∀ q ∈ s.published, q.1.Contains m → q = p
  read : ∀ p ∈ s.published,
    ReadMarkerSidecar s.sidecars (DeriveMarkerSidecarPath p.2) = p.1.assigned s.markers
  names : ∀ path ∈ s.written, ∃ p ∈ s.published, path = DeriveMarkerSidecarPath p.2

/-- Segment 0 is published, starts at 0 and alone contains the markers, if there are any; and the
    published segments found no sidecar of an earlier recording, but where one is written over. -/
structure FirstContains (sidecars : String → Option MarkerSidecar) (s : Session) : Prop where
  first : s.markers ≠ [] → ∃ p ∈ s.published, p.1.index = 0 ∧ p.1.sessionStartMs = 0 ∧
    ∀ m ∈ s.markers, p.1.Contains m ∧ ∀ q ∈ s.published, q.1.Contains m → q = p
  stale : ∀ p ∈ s.published, s.markers = [] ∨ p.1.index ≠ 0 →
    ReadMarkerSidecar sidecars (DeriveMarkerSidecarPath p.2) = []

section
variable {sidecars : String → Option MarkerSidecar} {s : Session}

theorem Sidecars.output_of_index (h : s.Sidecars sidecars) {p : CompletedSegment × String}
    (hp : p ∈ s.published) (hindex : p.1.index = 0) : p.2 = s.output := by
  have hname := (h.published p hp).1
  rw [hindex] at hname
  exact hname

/-- The sidecar of a published segment that no write of this recording has reached. -/
theorem Sidecars.read_untouched (h : s.Sidecars sidecars)
    (hbase : ∀ path ∈ s.written, path = s.MarkerSidecarPath) {p : CompletedSegment × String}
    (hp : p ∈ s.published) (hfar : s.markers = [] ∨ p.1.index ≠ 0) :
    ReadMarkerSidecar s.sidecars (DeriveMarkerSidecarPath p.2) =
      ReadMarkerSidecar sidecars (DeriveMarkerSidecarPath p.2) := by
  refine read_congr (h.untouched _ fun hmem => ?_)
  rcases hfar with hnil | hindex
  · rw [h.unmarked hnil] at hmem
    exact nomatch hmem
  · exact hindex (sidecar_output_index (h.published p hp).1 (hbase _ hmem))

theorem Sidecars.travel (h : s.Sidecars sidecars)
    (hbase : ∀ path ∈ s.written, path = s.MarkerSidecarPath) (hfirst : s.FirstContains sidecars) :
    s.MarkersTravel where
  one := by
    intro m hm
    obtain ⟨p, hp, -, -, hall⟩ := hfirst.first (List.ne_nil_of_mem hm)
    exact ⟨p, hp, hall m hm⟩
  read := by
    intro p hp
    by_cases hfar : s.markers = [] ∨ p.1.index ≠ 0
    · rw [h.read_untouched hbase hp hfar, hfirst.stale p hp hfar,
        CompletedSegment.assigned_eq_nil fun m hm hcontains => ?_]
      obtain ⟨first, hmem, hindex, -, hall⟩ := hfirst.first (List.ne_nil_of_mem hm)
      refine hfar.elim (List.ne_nil_of_mem hm) fun hno => hno ?_
      rw [(hall m hm).2 p hp hcontains, hindex]
    · simp only [not_or, ne_eq, not_not] at hfar
      obtain ⟨hsome, hindex⟩ := hfar
      obtain ⟨first, hmem, hindex', hstart, hall⟩ := hfirst.first hsome
      have hsame : p.1 = first.1 := by
        have hget := (h.published p hp).2
        have hget' := (h.published first hmem).2
        rw [hindex] at hget
        rw [hindex'] at hget'
        exact Option.some.inj (hget.symm.trans hget')
      rw [h.output_of_index hp hindex, hsame,
        CompletedSegment.assigned_eq_self (fun m hm => (hall m hm).1) hstart]
      exact (h.base hsome).2
  names := by
    intro path hpath
    rw [hbase path hpath]
    have hsome : s.markers ≠ [] := by
      intro hnil
      rw [h.unmarked hnil] at hpath
      exact nomatch hpath
    obtain ⟨first, hmem, hindex, -⟩ := hfirst.first hsome
    exact ⟨first, hmem, by rw [h.output_of_index hmem hindex]; rfl⟩

theorem MarkersTravel.firstContains (htravel : s.MarkersTravel) (h : s.Sidecars sidecars)
    (hbase : ∀ path ∈ s.written, path = s.MarkerSidecarPath) : s.FirstContains sidecars := by
  have hfirst : s.markers ≠ [] → ∃ p ∈ s.published, p.1.index = 0 ∧ p.1.sessionStartMs = 0 ∧
      ∀ m ∈ s.markers, p.1.Contains m ∧ ∀ q ∈ s.published, q.1.Contains m → q = p := by
    intro hsome
    obtain ⟨hmem, hread⟩ := h.base hsome
    obtain ⟨p, hp, hpath⟩ := htravel.names _ hmem
    have hindex := sidecar_output_index (h.published p hp).1 hpath.symm
    have hassigned := (htravel.read p hp).symm.trans (hpath ▸ hread)
    have hall := CompletedSegment.of_assigned_eq_self
      (h.indexed _ _ (h.published p hp).2).2 hassigned
    obtain ⟨m, hm⟩ := List.exists_mem_of_ne_nil _ hsome
    refine ⟨p, hp, hindex, (hall m hm).2, fun m hm => ⟨(hall m hm).1, fun q hq hcontains => ?_⟩⟩
    obtain ⟨only, -, -, honly⟩ := htravel.one m hm
    rw [honly q hq hcontains, honly p hp (hall m hm).1]
  refine ⟨hfirst, fun p hp hfar => ?_⟩
  rw [← h.read_untouched hbase hp hfar, htravel.read p hp]
  refine CompletedSegment.assigned_eq_nil fun m hm hcontains => ?_
  obtain ⟨first, -, hindex, -, hall⟩ := hfirst (List.ne_nil_of_mem hm)
  refine hfar.elim (List.ne_nil_of_mem hm) fun hno => hno ?_
  rw [(hall m hm).2 p hp hcontains, hindex]

end

/-- For every recording, over whatever sidecars. -/
theorem markers_travel_iff {name : RecordingName} {container : Container} {frameDurNs : Nat}
    {sidecars : String → Option MarkerSidecar} {s : Session} {as : List Action}
    (hs : (start name container frameDurNs sidecars).exec as = some s) :
    s.MarkersTravel ↔
      StepRun.Meets step Unmarked (start name container frameDurNs sidecars) as ∧
        s.FirstContains sidecars := by
  have h := sidecars_exec (sidecars_start name container frameDurNs sidecars) hs
  rw [unmarked_iff hs nofun]
  refine ⟨fun htravel => ?_, fun ⟨hbase, hfirst⟩ => h.travel hbase hfirst⟩
  have hbase : ∀ path ∈ s.written, path = s.MarkerSidecarPath := by
    have hsourced : s.Sourced := sourced_exec (s := start name container frameDurNs sidecars) nofun hs
    intro path hpath
    refine (hsourced path hpath).resolve_right fun ⟨i, f, hf, heq⟩ => ?_
    obtain ⟨p, hp, heq'⟩ := htravel.names path hpath
    exact sidecar_artefact_ne_output hf (h.published p hp).1 (heq.symm.trans heq')
  exact ⟨hbase, htravel.firstContains h hbase⟩

def clip : RecordingName := ⟨"Clip", by decide, by decide⟩

def free : Probe := fun _ => some false

/-- A recording of two segments without markers. -/
theorem markers_travel_none :
    ∃ s, (start clip .matroska 10000000 (fun _ => none)).exec
      [.segmentCompleted free ⟨0, true, 990000000⟩ true,
        .segmentCompleted free ⟨1000000000, true, 990000000⟩ true, .buildResult true,
        .publish free 0, .publish free 1] = some s ∧
      1 < s.published.length ∧ s.MarkersTravel := by
  obtain ⟨s, hs, hview⟩ := (Option.any_eq_true _ _).mp (show ((start clip .matroska 10000000
    (fun _ => none)).exec [.segmentCompleted free ⟨0, true, 990000000⟩ true,
      .segmentCompleted free ⟨1000000000, true, 990000000⟩ true, .buildResult true,
      .publish free 0, .publish free 1]).any (fun s => decide (1 < s.published.length) &&
        s.markers == []) = true by decide)
  simp only [Bool.and_eq_true, decide_eq_true_eq, beq_iff_eq] at hview
  refine ⟨s, hs, hview.1, (markers_travel_iff hs).mpr ⟨by decide, ?_, fun p _ _ => ?_⟩⟩
  · exact fun hsome => absurd hview.2 hsome
  · rw [ReadMarkerSidecar]
    split_ifs <;> rfl

/-- A marker at half a second, and one in the second segment: each segment's own sidecar lies under a
    name that no published segment has. -/
theorem markers_left_behind :
    ¬ ∀ (name : RecordingName) (container : Container) (frameDurNs : Nat)
      (sidecars : String → Option MarkerSidecar) (s : Session) (as : List Action),
      (start name container frameDurNs sidecars).exec as = some s → 1 < s.published.length →
        s.MarkersTravel := by
  intro h
  obtain ⟨s, hs, hview⟩ := (Option.any_eq_true _ _).mp (show ((start clip .matroska 10000000
    (fun _ => none)).exec [.stats 500000000, .addMarker .cut,
      .segmentCompleted free ⟨0, true, 990000000⟩ true, .stats 1500000000, .addMarker .general,
      .segmentCompleted free ⟨1000000000, true, 990000000⟩ true, .buildResult true,
      .publish free 0, .publish free 1]).any (fun s => decide (1 < s.published.length) &&
        s.written.contains "Clip.mkv.markers.json" &&
        s.published.all fun p => DeriveMarkerSidecarPath p.2 != "Clip.mkv.markers.json") = true by
    decide)
  simp only [Bool.and_eq_true, decide_eq_true_eq, List.contains_iff_mem, List.all_eq_true, bne_iff_ne]
    at hview
  obtain ⟨p, hp, heq⟩ := (h _ _ _ _ s _ hs hview.1.1).names _ hview.1.2
  exact hview.2 p hp heq.symm

end Session

end Exosnap.Markers
