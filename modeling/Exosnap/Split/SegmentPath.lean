/-
  The names of a recording's files: the temporary name the engine writes to, and the name of a
  segment, derived from a base name and the segment's index by a search for a free one.

  All files of a recording lie in one folder, so a path is the name of a file there. A part number is
  taken to fit the seven digits its buffer holds.
-/
import Exosnap.Capability.CapabilitySet
import Exosnap.Services.FilesystemPath
import Exosnap.Lib.FirstFree
import Mathlib.Data.List.TakeWhile

namespace Exosnap.Split

open Capability (Container)
open Services.Path (splitExtension)

/-! ## Deriving a name -/

def DeriveValuablePartialPath (finalOutput : String) : String := finalOutput ++ ".partial"

/-- `%03u` -/
def partNumber (index : Nat) : String :=
  String.ofList (List.replicate (3 - (index + 1).repr.length) '0') ++ (index + 1).repr

/-- The name of segment `index`, at try `disambiguator`. -/
def compose (base : String) (index disambiguator : Nat) : String :=
  (splitExtension base).1 ++ "_part-" ++ partNumber index ++
    (if disambiguator = 0 then "" else "_" ++ disambiguator.repr) ++ (splitExtension base).2

def kMaxDisambiguator : Nat := 10000

/-- What a probe of a name says: whether the file exists, or nothing after a filesystem error. -/
abbrev Probe := String → Option Bool

/-- Segment 0 keeps the base name, unprobed. The search ends at the first name that is not known to
    be taken, and fails when that one could not be probed. -/
def DeriveSegmentPath (probe : Probe) (base : String) (index : Nat) : Option String :=
  if index = 0 then some base
  else do
    let d ← FirstFree.firstFree (fun d => probe (compose base index d) == some true)
      kMaxDisambiguator 0
    if probe (compose base index d) = some false then some (compose base index d) else none

/-! ## Names of one base -/

/-- A name that segment `index` can have. -/
def SegmentName (base : String) (index : Nat) (name : String) : Prop :=
  if index = 0 then name = base else ∃ d, name = compose base index d

theorem segmentName_zero (base : String) : SegmentName base 0 base := rfl

section
variable {probe : Probe} {base name : String} {index : Nat}

theorem segmentName_of_derive (h : DeriveSegmentPath probe base index = some name) :
    SegmentName base index name := by
  unfold DeriveSegmentPath at h
  unfold SegmentName
  split_ifs at h ⊢ with hindex
  · exact (Option.some.inj h).symm
  · obtain ⟨d, -, hd⟩ := Option.bind_eq_some_iff.mp h
    split_ifs at hd
    exact ⟨d, (Option.some.inj hd).symm⟩

/-- Only a name that was seen to be free is used. -/
theorem free_of_derive (hindex : index ≠ 0) (h : DeriveSegmentPath probe base index = some name) :
    probe name = some false := by
  unfold DeriveSegmentPath at h
  rw [if_neg hindex] at h
  obtain ⟨d, -, hd⟩ := Option.bind_eq_some_iff.mp h
  split_ifs at hd with hfree
  exact Option.some.inj hd ▸ hfree

/-- Only the names of the segment are probed. -/
theorem derive_congr {probe' : Probe}
    (h : ∀ name, SegmentName base index name → probe name = probe' name) :
    DeriveSegmentPath probe base index = DeriveSegmentPath probe' base index := by
  unfold DeriveSegmentPath
  split_ifs with hindex
  · rfl
  · have hname : ∀ d, probe (compose base index d) = probe' (compose base index d) := by
      intro d
      exact h _ (by rw [SegmentName, if_neg hindex]; exact ⟨d, rfl⟩)
    simp only [hname]

/-- A search that finds a name has found every name before it taken. -/
theorem derive_unique {found : Nat → Bool} {probe' : Probe} {name' : String}
    (hprobe : ∀ d b, probe (compose base index d) = some b → found d = b)
    (hprobe' : ∀ d b, probe' (compose base index d) = some b → found d = b)
    (h : DeriveSegmentPath probe base index = some name)
    (h' : DeriveSegmentPath probe' base index = some name') : name = name' := by
  unfold DeriveSegmentPath at h h'
  split_ifs at h h'
  · exact (Option.some.inj h).symm.trans (Option.some.inj h')
  · obtain ⟨d, hd, hname⟩ := Option.bind_eq_some_iff.mp h
    obtain ⟨d', hd', hname'⟩ := Option.bind_eq_some_iff.mp h'
    split_ifs at hname hname' with hfree hfree'
    have hnot := hprobe d _ hfree
    have hnot' := hprobe' d' _ hfree'
    have hle : d ≤ d' := by
      by_contra hlt
      have := FirstFree.taken_of_lt_firstFree hd d' (Nat.zero_le _) (by omega)
      rw [hprobe d' _ (by simpa using this)] at hnot'
      exact nomatch hnot'
    have hge : d' ≤ d := by
      by_contra hlt
      have := FirstFree.taken_of_lt_firstFree hd' d (Nat.zero_le _) (by omega)
      rw [hprobe' d _ (by simpa using this)] at hnot
      exact nomatch hnot
    obtain rfl := Nat.le_antisymm hle hge
    exact (Option.some.inj hname).symm.trans (Option.some.inj hname')

end

/-! ## Names are told apart -/

theorem toList_partNumber (index : Nat) :
    (partNumber index).toList =
      List.replicate (3 - (index + 1).repr.length) '0' ++ Nat.toDigits 10 (index + 1) := by
  simp [partNumber]

theorem partNumber_injective {i j : Nat} (h : (partNumber i).toList = (partNumber j).toList) :
    i = j := by
  have hvalue : ∀ i, Nat.ofDigitChars 10 (partNumber i).toList 0 = i + 1 := by
    intro i
    rw [toList_partNumber, Nat.ofDigitChars_append, Nat.ofDigitChars_replicate_zero, Nat.mul_zero,
      Nat.ofDigitChars_ten_toDigits]
  have := (hvalue i).symm.trans ((congrArg (Nat.ofDigitChars 10 · 0) h).trans (hvalue j))
  omega

theorem underscore_not_in_partNumber (index : Nat) : '_' ∉ (partNumber index).toList := by
  rw [toList_partNumber, List.mem_append, not_or]
  refine ⟨fun h => ?_, Nat.underscore_not_in_toDigits⟩
  exact absurd (List.eq_of_mem_replicate h) (by decide)

theorem takeWhile_digits {l m : List Char} (hl : '_' ∉ l) (hm : ∀ c ∈ m.head?, c = '_') :
    (l ++ m).takeWhile (· != '_') = l := by
  induction l with
  | nil =>
    cases m with
    | nil => rfl
    | cons c m => simp [hm c rfl]
  | cons c l ih =>
    rw [List.mem_cons, not_or] at hl
    have hc : c ≠ '_' := hl.1 ∘ Eq.symm
    simp [hc, ih hl.2]

/-- The index of a segment can be read from its name. -/
theorem compose_index {base : String} {i j d e : Nat} (h : compose base i d = compose base j e) :
    i = j := by
  have hlists := congrArg String.toList h
  simp only [compose, String.toList_append] at hlists
  have hmid := List.append_cancel_right hlists
  simp only [List.append_assoc] at hmid
  have hmid := List.append_cancel_left (List.append_cancel_left hmid)
  have htail : ∀ d : Nat, ∀ c ∈ (if d = 0 then "" else "_" ++ d.repr : String).toList.head?, c = '_' := by
    intro d c hc
    split_ifs at hc with hd
    · exact nomatch hc
    · simpa using hc.symm
  refine partNumber_injective ?_
  rw [← takeWhile_digits (underscore_not_in_partNumber i) (htail d), hmid,
    takeWhile_digits (underscore_not_in_partNumber j) (htail e)]

/-- The stem and the extension make up what is before a stream's name. -/
theorem splitExtension_append (name : String) :
    (splitExtension name).1.toList ++ (splitExtension name).2.toList =
      name.toList.takeWhile (· != ':') := by
  unfold splitExtension
  dsimp only
  split_ifs
  · simp
  · simp

theorem colon_not_in_compose (base : String) (i d : Nat) : ':' ∉ (compose base i d).toList := by
  have hbase : ∀ c ∈ (splitExtension base).1.toList ++ (splitExtension base).2.toList, c ≠ ':' := by
    rw [splitExtension_append]
    exact fun c hc => by simpa using List.mem_takeWhile_imp hc
  have hdigit : ∀ n : Nat, ':' ∉ Nat.toDigits 10 n := fun n hn =>
    absurd (Nat.isDigit_of_mem_toDigits (by decide) (by decide) hn) (by decide)
  have hpart : ':' ∉ (partNumber i).toList := by
    rw [toList_partNumber, List.mem_append, not_or]
    exact ⟨fun h => absurd (List.eq_of_mem_replicate h) (by decide), hdigit _⟩
  have hsuffix : ':' ∉ (if d = 0 then "" else "_" ++ d.repr : String).toList := by
    split_ifs
    · exact List.not_mem_nil
    · simpa using hdigit d
  intro hc
  simp only [compose, String.toList_append, List.mem_append] at hc
  rcases hc with (((hc | hc) | hc) | hc) | hc
  · exact hbase _ (List.mem_append_left _ hc) rfl
  · exact absurd hc (by decide)
  · exact hpart hc
  · exact hsuffix hc
  · exact hbase _ (List.mem_append_right _ hc) rfl

theorem compose_ne_base {base : String} {i d : Nat} : compose base i d ≠ base := by
  intro h
  have hplain : ∀ c ∈ base.toList, (c != ':') = true := by
    intro c hc
    rw [← h] at hc
    simp only [bne_iff_ne, ne_eq]
    rintro rfl
    exact colon_not_in_compose base i d hc
  have hwhole := splitExtension_append base
  rw [List.takeWhile_eq_self_iff.mpr hplain] at hwhole
  have hlength := congrArg List.length hwhole
  have hcompose := congrArg (fun s => s.toList.length) h
  simp only [compose, String.toList_append, List.length_append,
    show "_part-".toList.length = 6 from rfl] at hcompose hlength
  omega

theorem segmentName_index {base name : String} {i j : Nat} (hi : SegmentName base i name)
    (hj : SegmentName base j name) : i = j := by
  unfold SegmentName at hi hj
  split_ifs at hi hj with h0 h0' h0'
  · exact h0.trans h0'.symm
  · obtain ⟨d, rfl⟩ := hj
    exact absurd hi compose_ne_base
  · obtain ⟨d, rfl⟩ := hi
    exact absurd hj compose_ne_base
  · obtain ⟨d, rfl⟩ := hi
    obtain ⟨e, he⟩ := hj
    exact compose_index he

/-! ## The names of a recording -/

def extensionOf : Container → String
  | .matroska => ".mkv"
  | .mp4 => ".mp4"
  | .webM => ".webm"

/-- The name a recording is made under, without its extension. -/
structure RecordingName where
  stem : String
  nonempty : stem ≠ ""
  /-- It names no alternate stream. -/
  plain : ':' ∉ stem.toList

def RecordingName.output (name : RecordingName) (container : Container) : String :=
  name.stem ++ extensionOf container

/-- The file the engine writes to. -/
def RecordingName.artefact (name : RecordingName) (container : Container) : String :=
  DeriveValuablePartialPath (name.output container)

theorem splitExtension_of_plain {stem ext : String} {rest : List Char} (hstem : stem ≠ "")
    (hplain : ':' ∉ stem.toList) (hext : ext.toList = '.' :: rest) (hdot : '.' ∉ rest)
    (hcolon : ':' ∉ rest) (hrest : rest ≠ []) : splitExtension (stem ++ ext) = (stem, ext) := by
  have hlist : (stem ++ ext).toList = stem.toList ++ '.' :: rest := by
    rw [String.toList_append, hext]
  have hbase : (stem ++ ext).toList.takeWhile (· != ':') = stem.toList ++ '.' :: rest := by
    rw [hlist, List.takeWhile_eq_self_iff]
    intro c hc
    rw [List.mem_append, List.mem_cons] at hc
    rw [bne_iff_ne]
    rintro rfl
    rcases hc with hc | hc | hc
    · exact hplain hc
    · exact absurd hc (by decide)
    · exact hcolon hc
  have hafter : ((stem.toList ++ '.' :: rest).reverse.takeWhile (· != '.')).length = rest.length := by
    have hall : ∀ c ∈ rest.reverse, (c != '.') = true := by
      intro c hc
      rw [bne_iff_ne]
      rintro rfl
      exact hdot (List.mem_reverse.mp hc)
    rw [List.reverse_append, List.reverse_cons, List.append_assoc,
      List.takeWhile_append_of_pos hall]
    simp
  have hpos : 0 < stem.toList.length := by
    rw [List.length_pos_iff, ne_eq, ← String.toList_empty, String.toList_inj]
    exact hstem
  have hrestPos : 0 < rest.length := List.length_pos_iff.mpr hrest
  have hlength : (stem.toList ++ '.' :: rest).length = stem.toList.length + rest.length + 1 := by
    simp only [List.length_append, List.length_cons]
    omega
  unfold splitExtension
  dsimp only
  rw [hbase, hafter, hlength, if_neg, show stem.toList.length + rest.length + 1 - rest.length - 1 =
    stem.toList.length by omega, List.take_left, List.drop_left, ← hext, String.ofList_toList,
    String.ofList_toList]
  rintro (heq | heq | heq)
  · omega
  · omega
  · have := congrArg List.length heq
    rw [hlength] at this
    simp only [List.length_cons, List.length_nil] at this
    omega

theorem splitExtension_output (name : RecordingName) (container : Container) :
    splitExtension (name.output container) = (name.stem, extensionOf container) := by
  cases container <;>
    exact splitExtension_of_plain name.nonempty name.plain rfl (by decide) (by decide) (by decide)

theorem splitExtension_artefact (name : RecordingName) (container : Container) :
    splitExtension (name.artefact container) = (name.output container, ".partial") := by
  refine splitExtension_of_plain (fun h => ?_) (fun h => ?_) rfl (by decide) (by decide) (by decide)
  · have := congrArg (fun s => s.toList.length) h
    cases container <;> simp [RecordingName.output, extensionOf] at this
  · rw [RecordingName.output, String.toList_append, List.mem_append] at h
    rcases h with h | h
    · exact name.plain h
    · cases container <;> exact absurd h (by decide)

/-- What the engine writes is never taken for an output: its names end differently. -/
theorem artefact_ne_output {name : RecordingName} {container : Container} {i j : Nat}
    {a b : String} (ha : SegmentName (name.artefact container) i a)
    (hb : SegmentName (name.output container) j b) : a ≠ b := by
  rintro rfl
  have hpartial : ".partial".toList <:+ a.toList := by
    unfold SegmentName at ha
    split_ifs at ha
    · rw [ha, RecordingName.artefact, DeriveValuablePartialPath, String.toList_append]
      exact List.suffix_append _ _
    · obtain ⟨d, rfl⟩ := ha
      rw [compose, splitExtension_artefact, String.toList_append]
      exact List.suffix_append _ _
  have hext : (extensionOf container).toList <:+ a.toList := by
    unfold SegmentName at hb
    split_ifs at hb
    · rw [hb, RecordingName.output, String.toList_append]
      exact List.suffix_append _ _
    · obtain ⟨d, rfl⟩ := hb
      rw [compose, splitExtension_output, String.toList_append]
      exact List.suffix_append _ _
  have hsuffix := List.suffix_of_suffix_length_le hext hpartial (by cases container <;> decide)
  cases container <;> exact absurd hsuffix (by decide)

end Exosnap.Split
