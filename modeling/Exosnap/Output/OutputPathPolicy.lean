/-
  Which file-name patterns are accepted, and in what form (`OutputPathPolicy.cpp`).

  `NormalizeFilenamePatternInput` looks for an absolute path and for the home alias before it strips
  what stands in front of the first segment, and it trims before that: what stripping uncovers is not
  looked at again (`normalized_stable_iff`).
-/
import Exosnap.Lib.Separated
import Exosnap.Output.WideString

namespace Exosnap.Output

inductive FilenamePatternPolicyResult where
  | ok
  | emptyInput
  | parentTraversalSegment
  | absolutePath
  | unsupportedEnvironmentVariable
  | unsupportedHomeAlias
  | unsupportedExpression
  deriving DecidableEq, Repr

structure NormalizedFilenamePattern where
  result : FilenamePatternPolicyResult := .emptyInput
  normalizedPattern : WString := []
  deriving DecidableEq, Repr

def isPatternPathSeparator (c : Char) : Bool := c == '/' || c == '\\'

section
variable (ct : CharTypes)

/-- An alphabetic unit and a colon in front. -/
def isDriveQualified : WString → Bool
  | letter :: colon :: _ => ct.iswalpha letter && colon == ':'
  | _ => false

def isDriveAbsolutePath : WString → Bool
  | letter :: colon :: slash :: _ =>
      ct.iswalpha letter && colon == ':' && isPatternPathSeparator slash
  | _ => false

def isUncPath (input : WString) : Bool :=
  startsWith input "\\\\".toList || startsWith input "//".toList

/-- Whether a pattern begins with the alias of the user's folder. -/
def isHomeRelative (input : WString) : Bool :=
  startsWith input "~/".toList || startsWith input "~\\".toList

def slashNormalized (value : WString) : WString :=
  value.map fun c => if c == '\\' then '/' else c

def splitBySlash (value : WString) : List WString := value.splitOn ('/')

/-- Without the `./` and the separators in front. -/
def normalizePatternPrefix : WString → WString
  | [] => []
  | [c] => if isPatternPathSeparator c then [] else [c]
  | c :: d :: rest =>
      if c == '.' && isPatternPathSeparator d then normalizePatternPrefix rest
      else if isPatternPathSeparator c then normalizePatternPrefix (d :: rest)
      else c :: d :: rest

/-- The loop over the segments: without the empty ones and `.`, and none at all at the first `..`. -/
def normalizeSegments : List WString → Option (List WString)
  | [] => some []
  | segment :: rest =>
      if segment.isEmpty || segment == ".".toList then normalizeSegments rest
      else if segment == "..".toList then none
      else (normalizeSegments rest).map (segment :: ·)

def normalizeFilenamePatternInput (rawPattern : WString) : NormalizedFilenamePattern :=
  let trimmed := trim ct rawPattern
  if trimmed.isEmpty then { result := .emptyInput }
  else if trimmed.contains ('%') then { result := .unsupportedEnvironmentVariable }
  else if trimmed.contains ('$') then { result := .unsupportedExpression }
  else if isHomeRelative trimmed then { result := .unsupportedHomeAlias }
  else if isDriveAbsolutePath ct (slashNormalized trimmed) ||
      isUncPath (slashNormalized trimmed) then
    { result := .absolutePath }
  else
    match normalizeSegments (splitBySlash (normalizePatternPrefix (slashNormalized trimmed))) with
    | none => { result := .parentTraversalSegment }
    | some segments =>
        if segments.isEmpty then { result := .emptyInput }
        else { result := .ok, normalizedPattern := ['/'].intercalate segments }

/-- The pattern that the builder of file names works with. -/
def effectivePattern (pattern : WString) : WString :=
  let normalized := normalizeFilenamePatternInput ct pattern
  if normalized.result = .ok then normalized.normalizedPattern else "recording_{datetime}".toList

end

/-! ## The segments of a pattern -/

/-- A segment that is kept, unless it is `..`. -/
def isNamed (segment : WString) : Bool := !(segment.isEmpty || segment == ".".toList)

/-- What stands between the separators of the trimmed text, but for the empty segments and `.`. -/
def patternSegments (ct : CharTypes) (rawPattern : WString) : List WString :=
  ((trim ct rawPattern).splitOnP isPatternPathSeparator).filter isNamed

theorem slash_isPatternPathSeparator : isPatternPathSeparator ('/') = true := by decide

theorem normalizeSegments_eq (segments : List WString) :
    normalizeSegments segments =
      if "..".toList ∈ segments.filter isNamed then none else some (segments.filter isNamed) := by
  induction segments with
  | nil => simp [normalizeSegments]
  | cons segment rest ih =>
    unfold normalizeSegments
    by_cases hnamed : isNamed segment = true
    · have hkept : ¬(segment.isEmpty || segment == ".".toList) = true := by
        simpa [isNamed] using hnamed
      rw [if_neg hkept, List.filter_cons_of_pos hnamed]
      by_cases hparent : segment = "..".toList
      · simp [hparent]
      · rw [if_neg (by simpa using hparent), ih]
        have hne : "..".toList ≠ segment := Ne.symm hparent
        by_cases hrest : "..".toList ∈ rest.filter isNamed
        · rw [if_pos hrest, if_pos (List.mem_cons_of_mem segment hrest)]
          rfl
        · rw [if_neg hrest, if_neg fun h => (List.mem_cons.mp h).elim hne hrest]
          rfl
    · have hdropped : (segment.isEmpty || segment == ".".toList) = true := by
        rwa [isNamed, Bool.not_eq_true', Bool.not_eq_false] at hnamed
      rw [if_pos hdropped, ih, List.filter_cons_of_neg hnamed]

/-- Stripping the prefix takes away no segment that is kept. -/
theorem filter_normalizePatternPrefix (pattern : WString) :
    ((normalizePatternPrefix pattern).splitOnP isPatternPathSeparator).filter isNamed =
      (pattern.splitOnP isPatternPathSeparator).filter isNamed := by
  fun_induction normalizePatternPrefix pattern with
  | case1 => rfl
  | case2 c hc => 
    rw [List.splitOnP_cons_eq_if_modifyHead, if_pos hc]
    rfl
  | case3 => rfl
  | case4 c d rest h ih =>
    obtain ⟨hdot, hsep⟩ : c = '.' ∧ isPatternPathSeparator d = true := by simpa using h
    have hfirst : ∀ b ∈ [c], isPatternPathSeparator b = false := by
      intro b hb
      rw [List.mem_singleton.mp hb, hdot]
      decide
    rw [ih, show c :: d :: rest = [c] ++ d :: rest from rfl,
      List.splitOnP_append_cons_of_forall_mem hfirst d hsep, List.filter_cons_of_neg]
    rw [hdot]
    decide
  | case5 c d rest _ hsep ih =>
    rw [ih, List.splitOnP_cons_eq_if_modifyHead c, if_pos hsep]
    rfl
  | case6 => rfl

theorem normalizePatternPrefix_suffix (pattern : WString) :
    normalizePatternPrefix pattern <:+ pattern := by
  fun_induction normalizePatternPrefix pattern with
  | case1 | case3 | case6 => exact List.suffix_rfl
  | case2 => exact List.nil_suffix
  | case4 c d rest _ ih => exact ih.trans ⟨[c, d], rfl⟩
  | case5 c d rest _ _ ih => exact ih.trans ⟨[c], rfl⟩

theorem backslash_notMem_slashNormalized (value : WString) : '\\' ∉ slashNormalized value := by
  unfold slashNormalized
  rw [List.mem_map]
  rintro ⟨c, _, hc⟩
  split at hc
  · exact absurd hc (by decide)
  · rename_i hne
    exact hne (by simp [hc])

theorem slashNormalized_eq_self {value : WString} (h : '\\' ∉ value) :
    slashNormalized value = value := by
  unfold slashNormalized
  conv_rhs => rw [← List.map_id value]
  refine List.map_congr_left fun c hc => if_neg ?_
  rw [beq_iff_eq]
  rintro rfl
  exact h hc

/-- Cutting at the slashes after the separators were made slashes is cutting at the separators. -/
theorem splitOnP_slashNormalized (value : WString) :
    (slashNormalized value).splitOnP isPatternPathSeparator =
      value.splitOnP isPatternPathSeparator := by
  have hsep : isPatternPathSeparator ∘ (fun c => if c == '\\' then '/' else c) =
      isPatternPathSeparator := by
    funext c
    by_cases hc : c = '\\'
    · simp only [hc, Function.comp_apply]
      decide
    · simp [hc]
  unfold slashNormalized
  rw [Separated.splitOnP_map, hsep]
  conv_rhs => rw [← List.map_id (value.splitOnP isPatternPathSeparator)]
  refine List.map_congr_left fun segment hsegment => ?_
  refine slashNormalized_eq_self fun hmem => ?_
  have := (Separated.mem_of_mem_splitOnP hsegment _ hmem).2
  exact absurd this (by decide)

/-- The segments that are looked at are those of the trimmed text. -/
theorem filter_splitBySlash (value : WString) :
    (splitBySlash (normalizePatternPrefix (slashNormalized value))).filter isNamed =
      (value.splitOnP isPatternPathSeparator).filter isNamed := by
  have hslash : splitBySlash (normalizePatternPrefix (slashNormalized value)) =
      (normalizePatternPrefix (slashNormalized value)).splitOnP isPatternPathSeparator := by
    unfold splitBySlash
    rw [List.splitOn_eq_splitOnP]
    refine Separated.splitOnP_congr fun c hc => ?_
    have hne : c ≠ '\\' := by
      rintro rfl
      exact backslash_notMem_slashNormalized value
        ((normalizePatternPrefix_suffix (slashNormalized value)).subset hc)
    simp [isPatternPathSeparator, hne]
  rw [hslash, filter_normalizePatternPrefix, splitOnP_slashNormalized]

/-! ## Which patterns are accepted -/

section
variable {ct : CharTypes}

theorem normalizeSegments_trim (rawPattern : WString) :
    normalizeSegments
        (splitBySlash (normalizePatternPrefix (slashNormalized (trim ct rawPattern)))) =
      if "..".toList ∈ patternSegments ct rawPattern then none
      else some (patternSegments ct rawPattern) := by
  rw [normalizeSegments_eq, filter_splitBySlash]
  rfl

/-- What an accepted pattern went through. -/
structure PatternAccepted (ct : CharTypes) (rawPattern : WString) : Prop where
  percent : '%' ∉ trim ct rawPattern
  dollar : '$' ∉ trim ct rawPattern
  home : isHomeRelative (trim ct rawPattern) = false
  drive : isDriveAbsolutePath ct (slashNormalized (trim ct rawPattern)) = false
  unc : isUncPath (slashNormalized (trim ct rawPattern)) = false
  parent : "..".toList ∉ patternSegments ct rawPattern
  segments : patternSegments ct rawPattern ≠ []

theorem normalizeFilenamePatternInput_eq_ok {rawPattern p : WString} :
    normalizeFilenamePatternInput ct rawPattern = ⟨.ok, p⟩ ↔
      PatternAccepted ct rawPattern ∧ p = ['/'].intercalate (patternSegments ct rawPattern) := by
  unfold normalizeFilenamePatternInput
  simp only [normalizeSegments_trim]
  constructor
  · intro h
    split at h
    · cases h
    rename_i hnonempty
    split at h
    · cases h
    rename_i hpercent
    split at h
    · cases h
    rename_i hdollar
    split at h
    · cases h
    rename_i hhome
    split at h
    · cases h
    rename_i habsolute
    by_cases hparent : "..".toList ∈ patternSegments ct rawPattern
    · rw [if_pos hparent] at h
      cases h
    · rw [if_neg hparent] at h
      dsimp only at h
      split at h
      · cases h
      rename_i hsegments
      cases h
      rw [Bool.or_eq_true, not_or, Bool.not_eq_true, Bool.not_eq_true] at habsolute
      exact ⟨⟨by simpa using hpercent, by simpa using hdollar, by simpa using hhome, habsolute.1,
        habsolute.2, hparent, by simpa using hsegments⟩, rfl⟩
  · rintro ⟨h, rfl⟩
    have hnonempty : ¬(trim ct rawPattern).isEmpty = true := by
      intro hempty
      refine h.segments ?_
      rw [patternSegments, List.isEmpty_iff.mp hempty]
      rfl
    rw [if_neg hnonempty, if_neg (by simpa using h.percent), if_neg (by simpa using h.dollar),
      if_neg (by simp [h.home]), if_neg (by simp [h.drive, h.unc])]
    rw [if_neg h.parent]
    dsimp only
    rw [if_neg (by simpa using h.segments)]

/-- What is promised of a pattern that was accepted. -/
structure PatternSettled (ct : CharTypes) (p : WString) : Prop where
  /-- It is accepted again, and as it is. -/
  accepted : normalizeFilenamePatternInput ct p = ⟨.ok, p⟩
  /-- It is what the file names are built from. -/
  built : effectivePattern ct p = p
  absolute : isDriveAbsolutePath ct p = false
  unc : isUncPath p = false
  driveQualified : isDriveQualified ct p = false
  homeRelative : isHomeRelative p = false
  segments : ∀ segment ∈ p.splitOnP isPatternPathSeparator,
    segment ≠ [] ∧ segment ≠ ".".toList ∧ segment ≠ "..".toList

/-- No white space stands before the first segment or after the last one, and the first one is
    neither the home alias of the others nor begins with a drive. -/
structure StableSegments (ct : CharTypes) (segments : List WString) : Prop where
  first : ∀ segment ∈ segments.head?, ∀ c ∈ segment.head?, ct.iswspace c = false
  last : ∀ segment ∈ segments.getLast?, ∀ c ∈ segment.getLast?, ct.iswspace c = false
  home : ∀ segment ∈ segments.head?, segment = "~".toList → segments.length = 1
  drive : ∀ segment ∈ segments.head?, isDriveQualified ct segment = false

section
variable {rawPattern : WString}

theorem isNamed_of_mem {segment : WString} (h : segment ∈ patternSegments ct rawPattern) :
    segment ≠ [] ∧ segment ≠ ".".toList := by
  have hnamed := (List.mem_filter.mp h).2
  unfold isNamed at hnamed
  constructor <;> rintro rfl <;> exact absurd hnamed (by decide)

theorem mem_trim_of_mem {segment : WString} (h : segment ∈ patternSegments ct rawPattern) :
    ∀ c ∈ segment, c ∈ trim ct rawPattern ∧ isPatternPathSeparator c = false :=
  Separated.mem_of_mem_splitOnP (List.mem_filter.mp h).1

/-- The accepted pattern is cut into the segments it was made of. -/
theorem splitOnP_joined (h : patternSegments ct rawPattern ≠ []) :
    (['/'].intercalate (patternSegments ct rawPattern)).splitOnP isPatternPathSeparator =
      patternSegments ct rawPattern :=
  Separated.splitOnP_intercalate slash_isPatternPathSeparator h
    fun _ hsegment c hc => (mem_trim_of_mem hsegment c hc).2

end

/-! ### Patterns that begin with a segment -/

theorem isDriveQualified_joined {first : WString} (hfirst : first ≠ []) (rest : List WString) :
    isDriveQualified ct (['/'].intercalate (first :: rest)) = isDriveQualified ct first := by
  cases rest with
  | nil => simp
  | cons next rest =>
    rw [List.intercalate_cons_cons]
    cases first with
    | nil => exact absurd rfl hfirst
    | cons letter tail =>
      cases tail with
      | cons colon tail => rfl
      | nil =>
        have hslash : ('/' == ':') = false := by decide
        simp [isDriveQualified, hslash]

theorem isDriveQualified_of_absolute {p : WString} (h : isDriveAbsolutePath ct p = true) :
    isDriveQualified ct p = true := by
  match p with
  | [] | [_] | [_, _] => cases h
  | letter :: colon :: slash :: rest =>
    unfold isDriveAbsolutePath at h
    rw [Bool.and_eq_true] at h
    exact h.1

theorem isHomeRelative_cons_cons (c d : Char) (rest : WString) :
    isHomeRelative (c :: d :: rest) = ('~' == c && isPatternPathSeparator d) := by
  have hslash : "~/".toList = ['~', '/'] := rfl
  have hbackslash : "~\\".toList = ['~', '\\'] := rfl
  simp only [isHomeRelative, startsWith, hslash, hbackslash, List.isPrefixOf_cons_cons,
    List.isPrefixOf_nil_left, Bool.and_true, isPatternPathSeparator, ← Bool.and_or_distrib_left]
  rw [BEq.comm (a := '/'), BEq.comm (a := '\\')]

/-- A pattern that begins with a segment is relative to the home folder if that segment is its alias
    and others follow. -/
theorem isHomeRelative_joined {first : WString} (hfirst : first ≠ [])
    (hsep : ∀ c ∈ first, isPatternPathSeparator c = false) (rest : List WString) :
    isHomeRelative (['/'].intercalate (first :: rest)) =
      ("~".toList == first && !rest.isEmpty) := by
  have halias : "~".toList = ['~'] := rfl
  match first, rest with
  | [], _ => exact absurd rfl hfirst
  | [c], [] =>
    simp [isHomeRelative, startsWith, List.isPrefixOf]
  | [c], next :: rest =>
    have hjoined : ['/'].intercalate ([c] :: next :: rest) =
        c :: '/' :: ['/'].intercalate (next :: rest) := by
      rw [List.intercalate_cons_cons]
      rfl
    rw [hjoined, isHomeRelative_cons_cons, slash_isPatternPathSeparator]
    simp [halias]
  | c :: d :: tail, rest =>
    have hd : isPatternPathSeparator d = false := hsep d (by simp)
    have hlong : ("~".toList == c :: d :: tail) = false := by simp [halias]
    have hcons : ∃ more, ['/'].intercalate ((c :: d :: tail) :: rest) = c :: d :: more := by
      cases rest with
      | nil => exact ⟨tail, by simp⟩
      | cons next rest => exact ⟨_, by rw [List.intercalate_cons_cons]; rfl⟩
    obtain ⟨more, hmore⟩ := hcons
    rw [hmore, isHomeRelative_cons_cons, hd, hlong, Bool.and_false, Bool.false_and]

theorem isUncPath_joined {first : WString} (hfirst : first ≠ [])
    (hsep : ∀ c ∈ first, isPatternPathSeparator c = false) (rest : List WString) :
    isUncPath (['/'].intercalate (first :: rest)) = false := by
  cases first with
  | nil => exact absurd rfl hfirst
  | cons c tail =>
    have hc : isPatternPathSeparator c = false := hsep c List.mem_cons_self
    obtain ⟨more, hmore⟩ : ∃ more, ['/'].intercalate ((c :: tail) :: rest) = c :: more := by
      cases rest with
      | nil => exact ⟨tail, by simp⟩
      | cons next rest => exact ⟨_, by rw [List.intercalate_cons_cons]; rfl⟩
    have hbackslash : "\\\\".toList = ['\\', '\\'] := rfl
    have hslash : "//".toList = ['/', '/'] := rfl
    unfold isPatternPathSeparator at hc
    rw [Bool.or_eq_false_iff, BEq.comm, BEq.comm (a := c)] at hc
    rw [hmore, isUncPath, startsWith, startsWith, hbackslash, hslash, List.isPrefixOf_cons_cons,
      List.isPrefixOf_cons_cons, hc.1, hc.2]
    rfl

/-! ### When it is stable -/

section
variable {rawPattern p : WString}

/-- Trimming leaves the pattern alone if no white space stands before its first segment or after its
    last one. -/
theorem trim_joined_iff (hne : patternSegments ct rawPattern ≠ []) :
    trim ct (['/'].intercalate (patternSegments ct rawPattern)) =
        ['/'].intercalate (patternSegments ct rawPattern) ↔
      (∀ segment ∈ (patternSegments ct rawPattern).head?, ∀ c ∈ segment.head?,
        ct.iswspace c = false) ∧
      ∀ segment ∈ (patternSegments ct rawPattern).getLast?, ∀ c ∈ segment.getLast?,
        ct.iswspace c = false := by
  have hnamed := fun segment (h : segment ∈ patternSegments ct rawPattern) => (isNamed_of_mem h).1
  have hlast := List.getLast?_eq_some_getLast hne
  have hlastMem := List.getLast_mem hne
  obtain ⟨first, rest, hsegments⟩ := List.exists_cons_of_ne_nil hne
  have hfirst : (patternSegments ct rawPattern).head? = some first := by
    rw [hsegments, List.head?_cons]
  have hhead : (['/'].intercalate (patternSegments ct rawPattern)).head? = first.head? := by
    rw [hsegments]
    exact Separated.head?_intercalate _ _ (hnamed first (hsegments ▸ List.mem_cons_self))
  have htail := Separated.getLast?_intercalate ('/') hlast (hnamed _ hlastMem)
  unfold trim
  rw [Trimming.trim_eq_self_iff, Trimming.Trimmed, hhead, htail, hlast, hfirst]
  simp

theorem notMem_joined {c : Char} (hslash : c ≠ '/') (hc : c ∉ trim ct rawPattern) :
    c ∉ ['/'].intercalate (patternSegments ct rawPattern) := by
  intro hmem
  obtain h | ⟨segment, hsegment, h⟩ := Separated.mem_intercalate hmem
  · exact hslash h
  · exact hc (mem_trim_of_mem hsegment c h).1

theorem backslash_notMem_joined :
    '\\' ∉ ['/'].intercalate (patternSegments ct rawPattern) := by
  intro hmem
  obtain h | ⟨segment, hsegment, h⟩ := Separated.mem_intercalate hmem
  · exact absurd h (by decide)
  · exact absurd (mem_trim_of_mem hsegment _ h).2 (by decide)

/-- The first segment decides of the home alias and of the drive. -/
theorem first_segment_iff (hne : patternSegments ct rawPattern ≠ [])
    (hp : p = ['/'].intercalate (patternSegments ct rawPattern)) :
    isUncPath p = false ∧
      (isHomeRelative p = false ↔ ∀ segment ∈ (patternSegments ct rawPattern).head?,
        segment = "~".toList → (patternSegments ct rawPattern).length = 1) ∧
      (isDriveQualified ct p = false ↔ ∀ segment ∈ (patternSegments ct rawPattern).head?,
        isDriveQualified ct segment = false) := by
  obtain ⟨first, rest, hsegments⟩ := List.exists_cons_of_ne_nil hne
  have hmem : first ∈ patternSegments ct rawPattern := hsegments ▸ List.mem_cons_self
  have hfirst := (isNamed_of_mem hmem).1
  have hsep := fun c hc => (mem_trim_of_mem hmem c hc).2
  rw [hp, hsegments]
  refine ⟨isUncPath_joined hfirst hsep rest, ?_, ?_⟩
  · rw [isHomeRelative_joined hfirst hsep]
    simp only [List.head?_cons, Option.mem_def, Option.some.injEq, forall_eq', List.length_cons]
    cases rest with
    | nil => simp
    | cons next rest =>
      have hlong : (next :: rest).length + 1 ≠ 1 := by simp
      rw [List.isEmpty_cons, Bool.not_false, Bool.and_true, beq_eq_false_iff_ne, ne_comm]
      exact ⟨fun hne heq => absurd heq hne, fun h heq => hlong (h heq)⟩
  · rw [isDriveQualified_joined hfirst]
    simp

theorem settled_of_stable (haccepted : PatternAccepted ct rawPattern)
    (hp : p = ['/'].intercalate (patternSegments ct rawPattern))
    (h : StableSegments ct (patternSegments ct rawPattern)) : PatternSettled ct p := by
  obtain ⟨hunc, hhome, hdrive⟩ := first_segment_iff haccepted.segments hp
  replace hhome := hhome.mpr h.home
  replace hdrive := hdrive.mpr h.drive
  have habsolute : isDriveAbsolutePath ct p = false := by
    by_contra habsolute
    rw [isDriveQualified_of_absolute (by simpa using habsolute)] at hdrive
    cases hdrive
  have hsplit : p.splitOnP isPatternPathSeparator = patternSegments ct rawPattern :=
    hp ▸ splitOnP_joined haccepted.segments
  have htrim : trim ct p = p := hp ▸ (trim_joined_iff haccepted.segments).mpr ⟨h.first, h.last⟩
  have hsegments : patternSegments ct p = patternSegments ct rawPattern := by
    rw [patternSegments, htrim, hsplit]
    exact List.filter_eq_self.mpr fun segment hsegment => (List.mem_filter.mp hsegment).2
  have hbackslash : slashNormalized p = p :=
    slashNormalized_eq_self (hp ▸ backslash_notMem_joined)
  have hagain : normalizeFilenamePatternInput ct p = ⟨.ok, p⟩ := by
    refine normalizeFilenamePatternInput_eq_ok.mpr ⟨?_, hsegments ▸ hp⟩
    constructor
    · exact htrim.symm ▸ hp ▸ notMem_joined (by decide) haccepted.percent
    · exact htrim.symm ▸ hp ▸ notMem_joined (by decide) haccepted.dollar
    · rwa [htrim]
    · rwa [htrim, hbackslash]
    · rwa [htrim, hbackslash]
    · exact hsegments.symm ▸ haccepted.parent
    · exact hsegments.symm ▸ haccepted.segments
  refine ⟨hagain, ?_, habsolute, hunc, hdrive, hhome, ?_⟩
  · simp [effectivePattern, hagain]
  · intro segment hsegment
    rw [hsplit] at hsegment
    have hnamed := isNamed_of_mem hsegment
    refine ⟨hnamed.1, hnamed.2, ?_⟩
    rintro rfl
    exact haccepted.parent hsegment

/-- What is accepted as it is was trimmed: an accepted pattern is no longer than the trimmed text. -/
theorem trim_eq_self_of_accepted (h : normalizeFilenamePatternInput ct p = ⟨.ok, p⟩) :
    trim ct p = p := by
  obtain ⟨-, hp⟩ := normalizeFilenamePatternInput_eq_ok.mp h
  have hsublist : (trim ct p).Sublist p := Trimming.trim_sublist p
  refine hsublist.eq_of_length_le ?_
  calc p.length = (['/'].intercalate (patternSegments ct p)).length := congrArg List.length hp
    _ ≤ (trim ct p).length := Separated.length_intercalate_sublist _ List.filter_sublist

theorem stable_of_settled (haccepted : PatternAccepted ct rawPattern)
    (hp : p = ['/'].intercalate (patternSegments ct rawPattern))
    (h : PatternSettled ct p) : StableSegments ct (patternSegments ct rawPattern) := by
  obtain ⟨-, hhome, hdrive⟩ := first_segment_iff haccepted.segments hp
  have htrim := trim_eq_self_of_accepted h.accepted
  rw [hp] at htrim
  obtain ⟨hfirst, hlast⟩ := (trim_joined_iff haccepted.segments).mp htrim
  exact ⟨hfirst, hlast, hhome.mp h.homeRelative, hdrive.mp h.driveQualified⟩

/-- An accepted pattern stays as it is, and within the folder, exactly if no white space stands before
    its first segment or after its last one and the first one is neither the home alias of the others
    nor begins with a drive. -/
theorem normalized_stable_iff (h : normalizeFilenamePatternInput ct rawPattern = ⟨.ok, p⟩) :
    PatternSettled ct p ↔ StableSegments ct (patternSegments ct rawPattern) := by
  obtain ⟨haccepted, hp⟩ := normalizeFilenamePatternInput_eq_ok.mp h
  exact ⟨stable_of_settled haccepted hp, settled_of_stable haccepted hp⟩

theorem normalized_stable_iff_subfolders :
    PatternSettled .c "{app}/{date}".toList ↔
      StableSegments .c (patternSegments .c " .\\{app}//{date}/ ".toList) :=
  normalized_stable_iff
    (show normalizeFilenamePatternInput .c " .\\{app}//{date}/ ".toList =
      ⟨.ok, "{app}/{date}".toList⟩ by decide)

/-- Behind `./` an absolute path is accepted, and refused when it is looked at again. -/
theorem absolute_path_uncovered :
    normalizeFilenamePatternInput .c "./C:/x".toList = ⟨.ok, "C:/x".toList⟩ ∧
      isDriveAbsolutePath .c "C:/x".toList = true ∧
      normalizeFilenamePatternInput .c "C:/x".toList = { result := .absolutePath } ∧
      effectivePattern .c "C:/x".toList = "recording_{datetime}".toList := by
  decide

end

end

end Exosnap.Output
