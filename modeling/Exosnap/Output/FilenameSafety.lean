/-
  The names that `BuildRelativePath` puts together, as Windows takes them.

  Every step after the last token is one on a single segment: forbidden characters are replaced, the
  edges trimmed, and a name of a device gets `_1` at its end. The last step is the one that fails:
  a name of a device that goes on after a dot is one still (`relativePath_safe_iff`).
-/
import Exosnap.Output.FilenameBuilder

namespace Exosnap.Output

open Services (Path)

variable {ct : CharTypes} {source : TokenSource} {pattern : WString}

/-- A name that Windows takes as it is, but for the names of devices. -/
structure WellFormedName (ct : CharTypes) (name : WString) : Prop where
  nonempty : name ≠ []
  valid : ∀ c ∈ name, isInvalidWindowsFilenameChar c = false
  first : ∀ c ∈ name.head?, c ≠ '.' ∧ ct.iswspace c = false
  last : ∀ c ∈ name.getLast?, c ≠ '.' ∧ ct.iswspace c = false

/-- What is promised of a name in a path. -/
structure SafeName (ct : CharTypes) (name : WString) : Prop extends WellFormedName ct name where
  notDot : name ≠ ".".toList
  notDotDot : name ≠ "..".toList
  notReserved : isWindowsReservedDeviceName ct name = false

/-! ## Plain characters -/

/-- Letters, digits, the dash and the underscore of ASCII. -/
def isPlain (c : Char) : Bool := c.isAlphanum || c == '-' || c == '_'

theorem toNat_of_isPlain {c : Char} (h : isPlain c = true) : 32 < c.toNat ∧ c.toNat < 128 := by
  simp only [isPlain, Char.isAlphanum, Char.isAlpha, Char.isUpper, Char.isLower, Char.isDigit,
    Bool.or_eq_true, Bool.and_eq_true, decide_eq_true_eq, beq_iff_eq, UInt32.le_iff_toNat_le,
    ge_iff_le] at h
  change ((((65 ≤ c.toNat ∧ c.toNat ≤ 90) ∨ (97 ≤ c.toNat ∧ c.toNat ≤ 122)) ∨
    (48 ≤ c.toNat ∧ c.toNat ≤ 57)) ∨ c = '-') ∨ c = '_' at h
  obtain (((h | h) | h) | rfl) | rfl := h
  · omega
  · omega
  · omega
  · decide
  · decide

theorem plain_not_dot {c : Char} (h : isPlain c = true) : c ≠ '.' := by
  rintro rfl
  exact absurd h (by decide)

theorem plain_valid {c : Char} (h : isPlain c = true) : isInvalidWindowsFilenameChar c = false := by
  have hc := (toNat_of_isPlain h).1
  unfold isInvalidWindowsFilenameChar
  rw [Bool.or_eq_false_iff]
  refine ⟨by simp; omega, ?_⟩
  rw [← Bool.not_eq_true]
  intro hmem
  have hplain : ("<>:\"/\\|?*".toList.all fun d => !isPlain d) = true := by decide
  have hnot := List.all_eq_true.mp hplain c (List.contains_iff_mem.mp hmem)
  rw [h] at hnot
  cases hnot

/-- Deciding it member by member. -/
theorem valid_of_all {name : WString}
    (h : (name.all fun c => !isInvalidWindowsFilenameChar c) = true) :
    ∀ c ∈ name, isInvalidWindowsFilenameChar c = false :=
  fun c hc => by simpa using List.all_eq_true.mp h c hc

theorem plain_not_space {c : Char} (h : isPlain c = true) : ct.iswspace c = false := by
  obtain ⟨hlow, hhigh⟩ := toNat_of_isPlain h
  have hspace : c ≠ ' ' := by
    rintro rfl
    exact absurd h (by decide)
  rw [ct.iswspace_ascii c hhigh]
  simp [hspace]
  omega

theorem plain_padded {width n : Nat} : ∀ c ∈ padded width n, isPlain c = true := by
  intro c hc
  obtain hc | hc := List.mem_append.mp hc
  · rw [List.eq_of_mem_replicate hc]
    decide
  · have hdigit := Nat.isDigit_of_mem_toDigits (by decide) (by decide) hc
    simp [isPlain, Char.isAlphanum, hdigit]

theorem plain_buildDateTimeToken (tm : Tm) : ∀ c ∈ buildDateTimeToken tm, isPlain c = true := by
  intro c hc
  simp only [buildDateTimeToken, safeStrftime] at hc
  split at hc
  · exact List.all_eq_true.mp (show "1970-01-01_00-00-00".toList.all isPlain = true by decide) c hc
  · have hformat : tm.strftime "%Y-%m-%d_%H-%M-%S".toList =
        padded 4 tm.year ++ '-' :: (padded 2 tm.month ++ '-' :: (padded 2 tm.day ++ '_' ::
          (padded 2 tm.hour ++ '-' :: (padded 2 tm.minute ++ '-' :: (padded 2 tm.second ++ []))))) :=
      rfl
    rw [hformat] at hc
    simp only [List.mem_append, List.mem_cons, List.not_mem_nil, or_false] at hc
    obtain hc | rfl | hc | rfl | hc | rfl | hc | rfl | hc | rfl | hc := hc
    all_goals first | exact plain_padded c hc | decide

theorem plain_buildFallbackBaseName (tm : Tm) :
    ∀ c ∈ buildFallbackBaseName tm, isPlain c = true := by
  intro c hc
  obtain hc | hc := List.mem_append.mp hc
  · exact List.all_eq_true.mp (show "recording_".toList.all isPlain = true by decide) c hc
  · exact plain_buildDateTimeToken tm c hc

/-! ## Names of devices -/

/-- What decides whether a name is a device's stands before its first dot. -/
theorem isWindowsReservedDeviceName_congr {a b : WString}
    (h : a.takeWhile (· != '.') = b.takeWhile (· != '.')) :
    isWindowsReservedDeviceName ct a = isWindowsReservedDeviceName ct b := by
  unfold isWindowsReservedDeviceName
  rw [h]

theorem takeWhile_append_of_dot {a : WString} (h : '.' ∈ a) (b : WString) :
    (a ++ b).takeWhile (· != '.') = a.takeWhile (· != '.') := by
  induction a with
  | nil => cases h
  | cons c a ih =>
    by_cases hc : c = '.'
    · simp [hc]
    · have hmem : '.' ∈ a := (List.mem_cons.mp h).resolve_left (Ne.symm hc)
      rw [List.cons_append, List.takeWhile_cons_of_pos (by simpa using hc),
        List.takeWhile_cons_of_pos (by simpa using hc), ih hmem]

theorem takeWhile_of_noDot {a : WString} (h : '.' ∉ a) : a.takeWhile (· != '.') = a :=
  List.takeWhile_eq_self_iff.mpr fun c hc => by
    simp only [bne_iff_ne]
    rintro rfl
    exact h hc

/-- A device's name has three or four characters before its first dot. -/
theorem length_of_reserved {a : WString} (h : isWindowsReservedDeviceName ct a = true) :
    (a.takeWhile (· != '.')).length = 3 ∨ (a.takeWhile (· != '.')).length = 4 := by
  unfold isWindowsReservedDeviceName at h
  split at h
  · next hstem => simp [hstem]
  · next hstem => simp [hstem]
  · cases h

/-- An extension at the end of a name does not make a device of it, and does not hide one. -/
theorem isWindowsReservedDeviceName_extension (a : WString) {extension : WString}
    (h : extension.head? = some '.') :
    isWindowsReservedDeviceName ct (a ++ extension) = isWindowsReservedDeviceName ct a := by
  refine isWindowsReservedDeviceName_congr ?_
  by_cases ha : '.' ∈ a
  · exact takeWhile_append_of_dot ha extension
  · obtain ⟨rest, rfl⟩ := List.head?_eq_some_iff.mp h
    rw [List.takeWhile_append_of_pos fun c hc => ?_, takeWhile_of_noDot ha]
    · simp
    · simp only [bne_iff_ne]
      rintro rfl
      exact ha hc

/-- A name is a device's after it was escaped exactly if it was one and has a dot. -/
theorem reserved_sanitize_iff (value : WString) :
    isWindowsReservedDeviceName ct (sanitizeReservedDeviceName ct value) = true ↔
      isWindowsReservedDeviceName ct value = true ∧ '.' ∈ value := by
  unfold sanitizeReservedDeviceName
  by_cases hreserved : isWindowsReservedDeviceName ct value = true
  · rw [if_pos hreserved]
    simp only [hreserved, true_and]
    constructor
    · intro hstill
      by_contra hdot
      have hlength := length_of_reserved hstill
      have hbefore := length_of_reserved hreserved
      have hnodot : '.' ∉ value ++ "_1".toList := by
        rw [List.mem_append, not_or]
        exact ⟨hdot, by decide⟩
      have htwo : "_1".toList.length = 2 := rfl
      rw [takeWhile_of_noDot hnodot, List.length_append, htwo] at hlength
      rw [takeWhile_of_noDot hdot] at hbefore
      omega
    · intro hdot
      rw [isWindowsReservedDeviceName_congr (takeWhile_append_of_dot hdot _), hreserved]
  · rw [if_neg hreserved]
    simp [hreserved]

/-! ## The names of a path -/

/-- What begins with no dot is neither of the names that are only dots. -/
theorem WellFormedName.safe {name : WString} (h : WellFormedName ct name)
    (hreserved : isWindowsReservedDeviceName ct name = false) : SafeName ct name where
  toWellFormedName := h
  notDot := by
    rintro rfl
    exact (h.first '.' rfl).1 rfl
  notDotDot := by
    rintro rfl
    exact (h.first '.' rfl).1 rfl
  notReserved := hreserved

theorem WellFormedName.append {name suffix : WString} (h : WellFormedName ct name)
    (hvalid : ∀ c ∈ suffix, isInvalidWindowsFilenameChar c = false)
    (hlast : suffix.getLast?.all isPlain = true) : WellFormedName ct (name ++ suffix) where
  nonempty := by simp [h.nonempty]
  valid := by
    intro c hc
    obtain hc | hc := List.mem_append.mp hc
    · exact h.valid c hc
    · exact hvalid c hc
  first := by
    rw [List.head?_append_of_ne_nil _ h.nonempty]
    exact h.first
  last := by
    by_cases hsuffix : suffix = []
    · rw [hsuffix, List.append_nil]
      exact h.last
    · rw [List.getLast?_append_of_ne_nil _ hsuffix]
      intro c hc
      have hplain := (Option.all_eq_true _ _).mp hlast c hc
      exact ⟨plain_not_dot hplain, plain_not_space hplain⟩

theorem wellFormed_plain {name : WString} (hne : name ≠ []) (h : ∀ c ∈ name, isPlain c = true) :
    WellFormedName ct name where
  nonempty := hne
  valid c hc := plain_valid (h c hc)
  first c hc := 
    have := h c (List.mem_of_mem_head? hc)
    ⟨plain_not_dot this, plain_not_space this⟩
  last c hc := 
    have := h c (List.mem_of_getLast? hc)
    ⟨plain_not_dot this, plain_not_space this⟩

theorem containerExtension_valid (container : Capability.Container) :
    (∀ c ∈ containerExtension container, isInvalidWindowsFilenameChar c = false) ∧
      (containerExtension container).getLast?.all isPlain = true ∧
      (containerExtension container).head? = some '.' := by
  cases container <;> exact ⟨valid_of_all (by decide), by decide, rfl⟩

theorem not_trimSeparator {c : Char} (h : isTrimSeparator ct c = false) :
    c ≠ '.' ∧ ct.iswspace c = false := by
  unfold isTrimSeparator at h
  rw [Bool.or_eq_false_iff] at h
  refine ⟨?_, h.2⟩
  rintro rfl
  exact absurd h.1 (by decide)

/-- What a segment stands for, before the names of devices, if it stands for anything. -/
theorem wellFormed_segmentText {raw : WString} (h : segmentText ct source raw ≠ []) :
    WellFormedName ct (segmentText ct source raw) := by
  unfold segmentText trimSegment at h ⊢
  have htrimmed := Trimming.trimmed_trim (p := isTrimSeparator ct)
    (((collapseMissingTokenSeparators ct (renderTokens ct source raw)).filter
      (· != kMissingTokenSentinel)).map fun c => if isInvalidWindowsFilenameChar c then '_' else c)
  refine ⟨h, fun c hc => ?_, fun c hc => not_trimSeparator (htrimmed.1 c hc),
    fun c hc => not_trimSeparator (htrimmed.2 c hc)⟩
  obtain ⟨d, -, rfl⟩ := List.mem_map.mp ((Trimming.trim_sublist _).subset hc)
  split
  · decide
  · next hd => simpa using hd

theorem wellFormed_sanitize {value : WString} (h : WellFormedName ct value) :
    WellFormedName ct (sanitizeReservedDeviceName ct value) := by
  unfold sanitizeReservedDeviceName
  split
  · exact h.append (valid_of_all (by decide)) (by decide)
  · exact h

theorem sanitize_nil : sanitizeReservedDeviceName ct [] = [] := rfl

theorem safe_fallback (tm : Tm) : SafeName ct (buildFallbackBaseName tm) := by
  have hplain := plain_buildFallbackBaseName tm
  have hten : 10 ≤ "recording_".toList.length := by decide
  have hlength : 10 ≤ (buildFallbackBaseName tm).length :=
    hten.trans (List.prefix_append _ _).length_le
  have hne : buildFallbackBaseName tm ≠ [] := List.ne_nil_of_length_pos (by omega)
  refine (wellFormed_plain hne hplain).safe ?_
  -- no dot, and longer than any name of a device
  by_contra hreserved
  have hstem := length_of_reserved (eq_true_of_ne_false hreserved)
  rw [takeWhile_of_noDot fun hdot => plain_not_dot (hplain _ hdot) rfl] at hstem
  omega

/-- The segments of a path: well formed, and a name of a device only where one goes on after a dot. -/
theorem mem_buildRelativeSegments {segment : WString}
    (h : segment ∈ buildRelativeSegments ct source pattern) :
    WellFormedName ct segment ∧
      (isWindowsReservedDeviceName ct segment = true →
        ∃ raw ∈ (effectivePattern ct pattern).splitOnP isPatternPathSeparator,
          isWindowsReservedDeviceName ct (segmentText ct source raw) = true ∧
            '.' ∈ segmentText ct source raw) := by
  unfold buildRelativeSegments at h
  dsimp only at h
  split at h
  · obtain rfl := List.mem_singleton.mp h
    have hsafe : SafeName ct (buildFallbackBaseName source.tm) := safe_fallback source.tm
    refine ⟨hsafe.toWellFormedName, fun hreserved => ?_⟩
    rw [hsafe.notReserved] at hreserved
    cases hreserved
  · obtain ⟨hmem, hpath⟩ := List.mem_filter.mp h
    obtain ⟨raw, hraw, rfl⟩ := List.mem_map.mp hmem
    have hne : segmentText ct source raw ≠ [] := by
      intro hnil
      rw [renderPatternSegment, hnil, sanitize_nil] at hpath
      exact absurd hpath (by decide)
    exact ⟨wellFormed_sanitize (wellFormed_segmentText hne),
      fun hreserved => ⟨raw, hraw, (reserved_sanitize_iff _).mp hreserved⟩⟩

theorem buildRelativeSegments_ne_nil : buildRelativeSegments ct source pattern ≠ [] := by
  unfold buildRelativeSegments
  dsimp only
  split
  · simp
  · next h => simpa using h

/-- A name of a device that goes on after a dot is a segment of the path. -/
theorem exists_reserved_segment {raw : WString}
    (hraw : raw ∈ (effectivePattern ct pattern).splitOnP isPatternPathSeparator)
    (hreserved : isWindowsReservedDeviceName ct (segmentText ct source raw) = true)
    (hdot : '.' ∈ segmentText ct source raw) :
    ∃ segment ∈ buildRelativeSegments ct source pattern,
      isWindowsReservedDeviceName ct segment = true := by
  have hstill : isWindowsReservedDeviceName ct (renderPatternSegment ct source raw) = true :=
    (reserved_sanitize_iff _).mpr ⟨hreserved, hdot⟩
  have hpath : isPathSegment (renderPatternSegment ct source raw) = true := by
    unfold isPathSegment
    by_contra hnot
    simp only [Bool.not_eq_true', Bool.not_eq_false, Bool.or_eq_true, beq_iff_eq,
      List.isEmpty_iff] at hnot
    obtain (h | h) | h := hnot <;> rw [h] at hstill <;> cases hstill
  have hmem : renderPatternSegment ct source raw ∈
      (((effectivePattern ct pattern).splitOnP isPatternPathSeparator).map
        (renderPatternSegment ct source)).filter isPathSegment :=
    List.mem_filter.mpr ⟨List.mem_map_of_mem hraw, hpath⟩
  refine ⟨_, ?_, hstill⟩
  unfold buildRelativeSegments
  dsimp only
  rw [if_neg]
  · exact hmem
  · rw [List.isEmpty_iff]
    exact List.ne_nil_of_mem hmem

theorem mem_relativeNames {name : WString} :
    name ∈ relativeNames ct source pattern ↔
      name ∈ (buildRelativeSegments ct source pattern).dropLast ∨
        name = (buildRelativeSegments ct source pattern).getLast buildRelativeSegments_ne_nil ++
          containerExtension source.container := by
  unfold relativeNames
  rw [List.mem_append, List.mem_singleton,
    List.getLast?_eq_some_getLast buildRelativeSegments_ne_nil, Option.getD_some]

/-- A name of the path is a segment, or the last segment and the extension. -/
theorem segment_of_mem_relativeNames {name : WString} (h : name ∈ relativeNames ct source pattern) :
    ∃ segment ∈ buildRelativeSegments ct source pattern,
      name = segment ∨ name = segment ++ containerExtension source.container := by
  obtain h | h := mem_relativeNames.mp h
  · exact ⟨name, List.mem_of_mem_dropLast h, .inl rfl⟩
  · exact ⟨_, List.getLast_mem _, .inr h⟩

theorem name_of_segment {segment : WString} (h : segment ∈ buildRelativeSegments ct source pattern) :
    segment ∈ relativeNames ct source pattern ∨
      segment ++ containerExtension source.container ∈ relativeNames ct source pattern := by
  have hne : buildRelativeSegments ct source pattern ≠ [] := buildRelativeSegments_ne_nil
  have hsplit := List.dropLast_append_getLast hne
  rw [← hsplit, List.mem_append, List.mem_singleton] at h
  obtain h | rfl := h
  · exact .inl (mem_relativeNames.mpr (.inl h))
  · exact .inr (mem_relativeNames.mpr (.inr rfl))

theorem wellFormed_relativeNames {name : WString} (h : name ∈ relativeNames ct source pattern) :
    WellFormedName ct name := by
  obtain ⟨segment, hsegment, rfl | rfl⟩ := segment_of_mem_relativeNames h
  · exact (mem_buildRelativeSegments hsegment).1
  · have hextension := containerExtension_valid source.container
    exact (mem_buildRelativeSegments hsegment).1.append hextension.1 hextension.2.1

/-- Joining names to a path of names. -/
theorem names_foldl_append {names : List String} (hnames : ∀ name ∈ names, name ≠ "") (p : Path)
    (hp : p.names.getLast? ≠ some "") :
    (names.foldl Path.append p).names = p.names ++ names := by
  induction names generalizing p with
  | nil => simp
  | cons name names ih =>
    have hfirst : (p.append name).names = p.names ++ [name] := by
      simp only [Path.append, if_neg hp]
    have hlast : (p.append name).names.getLast? ≠ some "" := by
      rw [hfirst, List.getLast?_concat]
      simpa using hnames name List.mem_cons_self
    rw [List.foldl_cons, ih (fun n hn => hnames n (List.mem_cons_of_mem name hn)) _ hlast, hfirst,
      List.append_assoc, List.singleton_append]

/-- The path has the names that were built. -/
theorem names_buildRelativePath :
    (buildRelativePath ct source pattern).names =
      (relativeNames ct source pattern).map String.ofList := by
  unfold buildRelativePath
  rw [names_foldl_append]
  · rfl
  · intro name hname
    obtain ⟨chars, hchars, rfl⟩ := List.mem_map.mp hname
    have hne := (wellFormed_relativeNames hchars).nonempty
    rwa [ne_eq, String.ofList_eq_empty_iff]
  · simp

/-- Every name of the relative path is safe and the last one has the container's extension, exactly if
    no segment of the pattern stands for a name of a device that goes on after a dot. -/
theorem relativePath_safe_iff (ct : CharTypes) (source : TokenSource) (pattern : WString) :
    ((∀ name ∈ (buildRelativePath ct source pattern).names, SafeName ct name.toList) ∧
        ∃ last ∈ (buildRelativePath ct source pattern).names.getLast?,
          containerExtension source.container <:+ last.toList) ↔
      ∀ raw ∈ (effectivePattern ct pattern).splitOnP isPatternPathSeparator,
        ¬(isWindowsReservedDeviceName ct (segmentText ct source raw) = true ∧
          '.' ∈ segmentText ct source raw) := by
  rw [names_buildRelativePath]
  have hextension := (containerExtension_valid source.container).2.2
  constructor
  · rintro ⟨hsafe, -⟩ raw hraw ⟨hreserved, hdot⟩
    obtain ⟨segment, hsegment, hdevice⟩ := exists_reserved_segment hraw hreserved hdot
    have hunsafe : ∃ name ∈ relativeNames ct source pattern,
        isWindowsReservedDeviceName ct name = true := by
      obtain h | h := name_of_segment hsegment
      · exact ⟨_, h, hdevice⟩
      · exact ⟨_, h, (isWindowsReservedDeviceName_extension segment hextension).trans hdevice⟩
    obtain ⟨name, hname, hdevice⟩ := hunsafe
    have hnot := (hsafe _ (List.mem_map_of_mem hname)).notReserved
    rw [String.toList_ofList, hdevice] at hnot
    cases hnot
  · intro hraws
    refine ⟨fun name hname => ?_, ?_⟩
    · obtain ⟨chars, hchars, rfl⟩ := List.mem_map.mp hname
      rw [String.toList_ofList]
      refine (wellFormed_relativeNames hchars).safe ?_
      by_contra hreserved
      replace hreserved := eq_true_of_ne_false hreserved
      obtain ⟨segment, hsegment, rfl | rfl⟩ := segment_of_mem_relativeNames hchars
      · obtain ⟨raw, hraw, hboth⟩ := (mem_buildRelativeSegments hsegment).2 hreserved
        exact hraws raw hraw hboth
      · rw [isWindowsReservedDeviceName_extension segment hextension] at hreserved
        obtain ⟨raw, hraw, hboth⟩ := (mem_buildRelativeSegments hsegment).2 hreserved
        exact hraws raw hraw hboth
    · unfold relativeNames
      dsimp only
      rw [List.map_append, List.map_singleton, List.getLast?_concat]
      refine ⟨_, rfl, ?_⟩
      rw [String.toList_ofList]
      exact List.suffix_append _ _

/-- A segment that begins with the name of a device and goes on after a dot is that device's name
    still. -/
theorem device_with_extension_kept :
    (buildRelativePath .c ⟨⟨2026, 3, 7, 9, 5, 1⟩, 1772874301, .matroska, {}⟩ "con.foo".toList).names =
        ["con.foo_1.mkv"] ∧
      isWindowsReservedDeviceName .c "con.foo_1.mkv".toList = true := by
  decide +kernel

end Exosnap.Output
