/-
  When a recording gets the name that its pattern asks for (`BuildOutputPath`).

  A relative path of ordinary names never leaves the folder it is joined to. The check goes through the
  elements of the normalized folder, though, and a folder that ends in a separator has an empty one at
  the end, which no name is equal to (`pattern_honoured_iff`).
-/
import Exosnap.Output.OutputFolder

namespace Exosnap.Services.Path

/-! ## Joining names to a normal path -/

@[simp] theorem normalForm_rootDirectory (p : Path) :
    p.normalForm.rootDirectory = p.rootDirectory := lexicallyNormal_rootDirectory p

/-- The names of a path, without the empty one for the separator at its end, and without `.`. -/
def ownNames (p : Path) : List String := p.names.filter fun name => name != "" && name != "."

theorem mem_normalStack {rootDirectory : Bool} {stack : List String}
    (h : NormalStack rootDirectory stack) : ∀ name ∈ stack, name ≠ "" ∧ name ≠ "." := by
  induction stack with
  | nil => exact fun _ hname => nomatch hname
  | cons top stack ih =>
    obtain ⟨hempty, hdot, -, hstack⟩ := h
    rintro name (_ | ⟨_, hname⟩)
    · exact ⟨hempty, hdot⟩
    · exact ih hstack name hname

theorem ownNames_lexicallyNormal (p : Path) : p.lexicallyNormal.ownNames = p.nameStack.reverse := by
  have hkept : (p.nameStack.reverse).filter (fun name => name != "" && name != ".") =
      p.nameStack.reverse := by
    refine List.filter_eq_self.mpr fun name hname => ?_
    have := mem_normalStack (normalStack_nameStack p) name (List.mem_reverse.mp hname)
    simp [this.1, this.2]
  unfold ownNames
  obtain h | ⟨h, -⟩ | ⟨h, hstack, -⟩ := lexicallyNormal_names p
  · rw [h, hkept]
  · rw [h, List.filter_append, hkept]
    simp
  · rw [h, hstack]
    rfl

/-- What an appended name comes after. -/
def appendBase (p : Path) : List String :=
  if p.names.getLast? = some "" then p.names.dropLast else p.names

theorem join_names (p : Path) {relative : Path} (hne : relative.names ≠ [])
    (hordinary : ∀ name ∈ relative.names, IsOrdinary name) :
    (p.join relative).names = p.appendBase ++ relative.names ∧
      (p.join relative).rootName = p.rootName ∧
      (p.join relative).rootDirectory =
        (p.rootDirectory || (p.names.isEmpty && decide (2 < p.rootName.length))) := by
  obtain ⟨first, rest, hnames⟩ := List.exists_cons_of_ne_nil hne
  rw [hnames] at hordinary
  unfold join
  rw [hnames, List.foldl_cons]
  have hfirst : (p.append first).names.getLast? ≠ some "" := by
    simpa [append] using (hordinary first List.mem_cons_self).1
  have hnonempty : (p.append first).names ≠ [] := by simp [append]
  generalize hq : p.append first = q at hfirst hnonempty
  have hroot : ∀ (names : List String) (q : Path), q.names ≠ [] →
      (names.foldl append q).rootName = q.rootName ∧
        (names.foldl append q).rootDirectory = q.rootDirectory := by
    intro names
    induction names with
    | nil => exact fun _ _ => ⟨rfl, rfl⟩
    | cons name names ih =>
      intro q hqne
      obtain ⟨hname, hdirectory⟩ := ih (q.append name) (by simp [append])
      refine ⟨hname, hdirectory.trans ?_⟩
      simp [append, hqne]
  obtain ⟨hrootName, hrootDirectory⟩ := hroot rest q hnonempty
  refine ⟨?_, hrootName.trans (hq ▸ rfl), hrootDirectory.trans (hq ▸ rfl)⟩
  rw [Output.names_foldl_append
    (fun name hname => (hordinary name (List.mem_cons_of_mem first hname)).1) q hfirst, ← hq]
  simp [append, appendBase]

theorem appendBase_normalForm (p : Path) :
    (p.normalForm.appendBase = p.nameStack.reverse ∧
        (p.normalForm.names = p.nameStack.reverse ∨ p.nameStack ≠ [])) ∨
      (p.normalForm.appendBase = ["."] ∧ p.nameStack = [] ∧ p.normalForm.names = ["."]) := by
  have hlast : p.nameStack.reverse.getLast? ≠ some "" := by
    intro h
    have hmem := List.mem_of_getLast? h
    exact (mem_normalStack (normalStack_nameStack p) "" (List.mem_reverse.mp hmem)).1 rfl
  have hnames : p.normalForm.names = p.lexicallyNormal.names := rfl
  unfold appendBase
  obtain h | ⟨h, hstack⟩ | ⟨h, hstack, -⟩ := lexicallyNormal_names p
  · rw [hnames, h, if_neg hlast]
    exact .inl ⟨rfl, .inl rfl⟩
  · rw [hnames, h, List.getLast?_concat, if_pos rfl, List.dropLast_concat]
    exact .inl ⟨rfl, .inr hstack⟩
  · rw [hnames, h]
    exact .inr ⟨rfl, hstack, rfl⟩

/-- Joining ordinary names to a normal path and normalizing again: the names of both. -/
theorem normalForm_join (folder : Path) {relative : Path} (hne : relative.names ≠ [])
    (hordinary : ∀ name ∈ relative.names, IsOrdinary name) :
    (folder.normalForm.join relative).normalForm.names =
      folder.normalForm.ownNames ++ relative.names := by
  obtain ⟨hnames, -, hroot⟩ := join_names folder.normalForm hne hordinary
  have hown : folder.normalForm.ownNames = folder.nameStack.reverse := ownNames_lexicallyNormal folder
  have hnormal : (folder.normalForm.join relative).normalForm.names =
      (folder.normalForm.join relative).lexicallyNormal.names := rfl
  rw [hnormal, lexicallyNormal_append hne hordinary hnames, hown]
  congr 2
  obtain ⟨hbase, hsame⟩ | ⟨hbase, hstack, -⟩ := appendBase_normalForm folder
  · rw [hbase]
    by_cases hstack : folder.nameStack = []
    · rw [hstack]
      rfl
    · have hnonempty : folder.normalForm.names.isEmpty = false := by
        rw [List.isEmpty_eq_false_iff]
        intro hnil
        have : folder.normalForm.ownNames = [] := by rw [ownNames, hnil]; rfl
        rw [hown, List.reverse_eq_nil_iff] at this
        exact hstack this
      rw [hroot, hnonempty, Bool.false_and, Bool.or_false, normalForm_rootDirectory]
      exact foldl_pushName_reverse (normalStack_nameStack folder)
  · rw [hbase, hstack]
    rfl

theorem rootName_normalForm_join (folder : Path) {relative : Path} (hne : relative.names ≠ [])
    (hordinary : ∀ name ∈ relative.names, IsOrdinary name) :
    (folder.normalForm.join relative).normalForm.rootName = folder.normalForm.rootName := by
  obtain ⟨-, hroot, -⟩ := join_names folder.normalForm hne hordinary
  have hnormal : ∀ p : Path, p.normalForm.rootName =
      p.rootName.map fun c => if c == '/' then '\\' else c := fun _ => rfl
  rw [hnormal, hroot, hnormal, String.map_map]
  refine congrArg (fun f => String.map f folder.rootName) (funext fun c => ?_)
  by_cases hc : c = '/' <;> simp [hc]

theorem rootDirectory_normalForm_join (folder : Path) {relative : Path} (hne : relative.names ≠ [])
    (hordinary : ∀ name ∈ relative.names, IsOrdinary name) :
    (folder.normalForm.join relative).normalForm.rootDirectory =
      (folder.rootDirectory || (folder.normalForm.names.isEmpty &&
        decide (2 < folder.normalForm.rootName.length))) := by
  obtain ⟨-, -, hroot⟩ := join_names folder.normalForm hne hordinary
  rw [normalForm_rootDirectory, hroot, normalForm_rootDirectory]

theorem splitNames_ne_nil (name chars : List Char) : splitNames name chars ≠ [] := by
  induction chars generalizing name with
  | nil => simp [splitNames]
  | cons c chars ih =>
    unfold splitNames
    split
    · split
      · exact ih []
      · simp
    · exact ih (c :: name)

/-- A path that was read from a text that is not empty is not empty. -/
theorem isEmpty_ofString {text : String} (h : text.toList ≠ []) : (ofString text).isEmpty = false := by
  obtain ⟨c, chars, hchars⟩ := List.exists_cons_of_ne_nil h
  unfold ofString isEmpty
  rw [hchars]
  dsimp only
  by_cases hlength : rootNameLength (c :: chars) = 0
  · rw [hlength, List.drop_zero, List.head?_cons, Option.any_some]
    cases hslash : isSlash c with
    | true => simp
    | false =>
      rw [List.dropWhile_cons_of_neg (by simp [hslash])]
      simp [splitNames_ne_nil]
  · obtain ⟨n, hn⟩ := Nat.exists_eq_succ_of_ne_zero hlength
    have hname : (String.ofList ((c :: chars).take (rootNameLength (c :: chars)))).isEmpty = false := by
      rw [hn, List.take_succ_cons, ← Bool.not_eq_true, String.isEmpty_iff,
        String.ofList_eq_empty_iff]
      exact List.cons_ne_nil _ _
    rw [hname]
    rfl

theorem isEmpty_normalForm {p : Path} (h : p.isEmpty = false) : p.normalForm.isEmpty = false := by
  by_contra hempty
  replace hempty := eq_true_of_ne_false hempty
  have hnames : p.normalForm.names = p.lexicallyNormal.names := rfl
  have hrootName : p.normalForm.rootName =
    p.rootName.map fun c => if c == '/' then '\\' else c := rfl
  unfold isEmpty at hempty
  rw [normalForm_rootDirectory, hnames, hrootName] at hempty
  simp only [Bool.and_eq_true, Bool.not_eq_true', String.isEmpty_iff, List.isEmpty_iff] at hempty
  obtain ⟨⟨hroot, hdirectory⟩, hnone⟩ := hempty
  replace hroot : p.rootName = "" := by simpa using hroot
  rw [lexicallyNormal_eq] at hnone
  split at hnone
  · cases hnone
  · next hnot =>
    have hpnames : p.names = [] := by
      by_contra hne
      exact hnot ⟨hne, hnone, hroot, hdirectory⟩
    simp [isEmpty, hroot, hdirectory, hpnames] at h

end Exosnap.Services.Path

namespace Exosnap.Output

open Services (Path)

variable {ct : CharTypes}

theorem underElements_append (folder rest : List String) :
    underElements ct (folder ++ rest) folder = true := by
  induction folder with
  | nil => cases rest <;> rfl
  | cons name folder ih => simp [underElements, pathElementEqualCaseInsensitive, ih]

/-- Common elements at the beginning decide nothing. -/
theorem underElements_append_left (common candidate folder : List String) :
    underElements ct (common ++ candidate) (common ++ folder) =
      underElements ct candidate folder := by
  induction common with
  | nil => rfl
  | cons name common ih => simp [underElements, pathElementEqualCaseInsensitive, ih]

/-- Only a dot is lowered to a dot. -/
theorem towlower_eq_dot {c : Char} (h : ct.towlower c = '.') : c = '.' := by
  obtain hsame | hletter := ct.towlower_letter c
  · rw [← hsame, h]
  · rw [h, ct.iswalpha_ascii '.' (by decide)] at hletter
    exact absurd hletter (by decide)

theorem elementEqual_empty {name : String} (h : name ≠ "") :
    pathElementEqualCaseInsensitive ct name "" = false := by
  have hne : name.toList ≠ [] := by simpa using h
  simp [pathElementEqualCaseInsensitive, hne]

theorem elementEqual_dot {name : String} (h : name ≠ ".") :
    pathElementEqualCaseInsensitive ct name "." = false := by
  unfold pathElementEqualCaseInsensitive
  rw [beq_eq_false_iff_ne]
  intro heq
  have hdot : ct.towlower '.' = '.' := by
    rw [ct.towlower_ascii '.' (by decide)]
    decide
  rw [show ".".toList = ['.'] from rfl, List.map_singleton, hdot, List.map_eq_singleton_iff] at heq
  obtain ⟨c, hname, hc⟩ := heq
  rw [towlower_eq_dot hc] at hname
  exact h (String.toList_injective hname)

/-- The check of `BuildOutputPath` sees a path of ordinary names in a folder exactly if the normalized
    folder does not end in a separator and is not `.`. -/
theorem isPathUnderFolder_iff (ct : CharTypes) {folder relative : Path} (hfolder : folder.isEmpty = false)
    (hne : relative.names ≠ []) (hordinary : ∀ name ∈ relative.names, Path.IsOrdinary name) :
    isPathUnderFolder ct (folder.normalForm.join relative).normalForm folder.normalForm = true ↔
      folder.normalForm.names.getLast? ≠ some "" ∧ folder.normalForm.names ≠ ["."] := by
  have hcandidate := Path.normalForm_join folder hne hordinary
  have hroot := Path.rootName_normalForm_join folder hne hordinary
  have hdirectory := Path.rootDirectory_normalForm_join folder hne hordinary
  have hown : folder.normalForm.ownNames = folder.nameStack.reverse :=
    Path.ownNames_lexicallyNormal folder
  have hnames : folder.normalForm.names = folder.lexicallyNormal.names := rfl
  have hstack := Path.mem_normalStack (Path.normalStack_nameStack folder)
  obtain ⟨first, rest, hrelative⟩ := List.exists_cons_of_ne_nil hne
  have hfirst := hordinary first (hrelative ▸ List.mem_cons_self)
  unfold isPathUnderFolder
  rw [Path.isEmpty_normalForm hfolder, Bool.not_false, Bool.true_and]
  unfold Path.elements
  rw [hcandidate, hroot, hdirectory, hown, Path.normalForm_rootDirectory]
  obtain h | ⟨h, hnonempty⟩ | ⟨h, hnil, hname, hnodirectory⟩ := Path.lexicallyNormal_names folder
  · have hlast : folder.nameStack.reverse.getLast? ≠ some "" := fun hlast =>
      (hstack "" (List.mem_reverse.mp (List.mem_of_getLast? hlast))).1 rfl
    have hdot : folder.nameStack.reverse ≠ ["."] := fun hdot =>
      (hstack "." (List.mem_reverse.mp (hdot ▸ List.mem_singleton_self _))).2 rfl
    rw [hnames, h]
    refine ⟨fun _ => ⟨hlast, hdot⟩, fun _ => ?_⟩
    -- the elements of the folder come first; only a server's name alone gets a root directory
    cases hstack : folder.nameStack.reverse with
    | nil =>
      cases folder.rootDirectory with
      | true =>
        simp only [Bool.true_or, if_true, List.append_nil, List.nil_append]
        exact underElements_append _ _
      | false =>
        simp only [Bool.false_eq_true, if_false, List.append_nil, List.append_assoc]
        exact underElements_append _ _
    | cons name names =>
      rw [List.isEmpty_cons, Bool.false_and, Bool.or_false, ← List.append_assoc]
      exact underElements_append _ _
  · rw [hnames, h]
    have hfalse : (folder.nameStack.reverse ++ [""]).isEmpty = false := by simp
    rw [hfalse, Bool.false_and, Bool.or_false, ← List.append_assoc, ← List.append_assoc,
      underElements_append_left, hrelative, underElements, elementEqual_empty hfirst.1]
    simp
  · have hempty : folder.normalForm.rootName = "" := String.map_eq_empty.mpr hname
    rw [hnames, h, hnil, hempty, hnodirectory, hrelative]
    simp [underElements, elementEqual_dot hfirst.2.1]

/-! ## The path of a recording -/

section
variable {source : TokenSource} {pattern : WString} {folder : Path}

theorem relativePath_names_ne_nil (ct : CharTypes) (source : TokenSource) (pattern : WString) :
    (buildRelativePath ct source pattern).names ≠ [] := by
  rw [names_buildRelativePath]
  simp [relativeNames]

theorem relativePath_ordinary (ct : CharTypes) (source : TokenSource) (pattern : WString) :
    ∀ name ∈ (buildRelativePath ct source pattern).names, Path.IsOrdinary name := by
  rw [names_buildRelativePath]
  intro name hname
  obtain ⟨chars, hchars, rfl⟩ := List.mem_map.mp hname
  have hfirst := (wellFormed_relativeNames hchars).first
  have hnonempty := (wellFormed_relativeNames hchars).nonempty
  have hchars' : (String.ofList chars).toList = chars := String.toList_ofList
  refine ⟨?_, ?_, ?_⟩
  · rwa [ne_eq, String.ofList_eq_empty_iff]
  · intro h
    rw [h] at hchars'
    exact (hfirst '.' (hchars' ▸ rfl)).1 rfl
  · intro h
    rw [h] at hchars'
    exact (hfirst '.' (hchars' ▸ rfl)).1 rfl

/-- A recording has the name of its pattern, in the folder. -/
structure PatternHonoured (ct : CharTypes) (source : TokenSource) (folder : Path)
    (pattern : WString) : Prop where
  rootName : (buildOutputPath ct source folder pattern).rootName = folder.normalForm.rootName
  rootDirectory :
    folder.rootDirectory = true → (buildOutputPath ct source folder pattern).rootDirectory = true
  names : (buildOutputPath ct source folder pattern).names =
    folder.normalForm.ownNames ++ (buildRelativePath ct source pattern).names
  inside : (buildRelativePath ct source pattern).names ≠ []

/-- Which of the two relative paths the recording gets. -/
theorem buildOutputPath_eq (ct : CharTypes) (source : TokenSource) (pattern : WString)
    (hfolder : folder.isEmpty = false) :
    buildOutputPath ct source folder pattern =
      if folder.normalForm.names.getLast? ≠ some "" ∧ folder.normalForm.names ≠ ["."] then
        (folder.normalForm.join (buildRelativePath ct source pattern)).normalForm
      else (folder.normalForm.join (fallbackRelativePath ct source)).normalForm := by
  have hiff := isPathUnderFolder_iff ct hfolder (relativePath_names_ne_nil ct source pattern)
    (relativePath_ordinary ct source pattern)
  unfold buildOutputPath
  dsimp only
  split
  · next h => rw [if_pos (hiff.mp h)]
  · next h => rw [if_neg fun hboth => h (hiff.mpr hboth)]

/-- What cannot be expanded is refused. -/
theorem expandHomeAlias_error {environment : WString → Option WString} {input : WString}
    {error : OutputFolderPolicyResult} (h : expandHomeAlias environment input = .error error) :
    error ≠ .ok := by
  unfold expandHomeAlias at h
  split at h
  · cases h
  split at h
  · cases h
    intro hok
    cases hok
  · dsimp only at h
    split at h
    · cases h
    · split at h <;> cases h

theorem expandAllowedEnvironmentVariables_error {environment : WString → Option WString}
    {input : WString} {error : OutputFolderPolicyResult}
    (h : expandAllowedEnvironmentVariables ct environment input = .error error) : error ≠ .ok := by
  fun_induction expandAllowedEnvironmentVariables ct environment input with
  | case1 => cases h
  | case2 c rest hc ih =>
    cases hrest : expandAllowedEnvironmentVariables ct environment rest with
    | ok value =>
      rw [hrest] at h
      cases h
    | error e =>
      rw [hrest] at h
      cases h
      exact ih hrest
  | case3 => 
    cases h
    exact fun hok => nomatch hok
  | case4 => 
    cases h
    exact fun hok => nomatch hok
  | case5 => 
    cases h
    exact fun hok => nomatch hok
  | case6 _ _ _ _ after _ _ _ value _ ih =>
    cases hrest : expandAllowedEnvironmentVariables ct environment after with
    | ok value =>
      rw [hrest] at h
      cases h
    | error e =>
      rw [hrest] at h
      cases h
      exact ih hrest

theorem isEmpty_of_accepted {environment : WString → Option WString} {rawInput entered : WString}
    (h : normalizeOutputFolderInput ct environment rawInput = ⟨.ok, folder, entered⟩) :
    folder.isEmpty = false := by
  unfold normalizeOutputFolderInput at h
  dsimp only at h
  split at h
  · cases h
  split at h
  · cases h
  split at h
  · next herror =>
    cases h
    exact absurd rfl (expandHomeAlias_error herror)
  split at h
  · next herror =>
    cases h
    exact absurd rfl (expandAllowedEnvironmentVariables_error herror)
  split at h
  · cases h
  split at h
  · cases h
  next hnonempty =>
    cases h
    refine Path.isEmpty_ofString ?_
    rw [String.toList_ofList]
    simpa using hnonempty

/-- In a folder that was accepted a recording has the name of its pattern exactly if the normalized
    folder does not end in a separator and is not `.`, or if the fallback has the same name. -/
theorem pattern_honoured_iff {environment : WString → Option WString} {rawInput entered : WString}
    (h : normalizeOutputFolderInput ct environment rawInput = ⟨.ok, folder, entered⟩) :
    PatternHonoured ct source folder pattern ↔
      (folder.normalForm.names.getLast? ≠ some "" ∧ folder.normalForm.names ≠ ["."]) ∨
        (buildRelativePath ct source pattern).names = (fallbackRelativePath ct source).names := by
  have hfolder := isEmpty_of_accepted h
  have hpath := buildOutputPath_eq ct source pattern hfolder
  have hne := relativePath_names_ne_nil ct source pattern
  have hordinary := relativePath_ordinary ct source pattern
  have hfallbackNe : (fallbackRelativePath ct source).names ≠ [] :=
    relativePath_names_ne_nil ct _ _
  have hfallback : ∀ name ∈ (fallbackRelativePath ct source).names, Path.IsOrdinary name :=
    relativePath_ordinary ct _ _
  by_cases hcontained :
      folder.normalForm.names.getLast? ≠ some "" ∧ folder.normalForm.names ≠ ["."]
  · rw [if_pos hcontained] at hpath
    refine ⟨fun _ => .inl hcontained, fun _ => ⟨?_, fun hroot => ?_, ?_, hne⟩⟩
    · rw [hpath, Path.rootName_normalForm_join folder hne hordinary]
    · rw [hpath, Path.rootDirectory_normalForm_join folder hne hordinary, hroot, Bool.true_or]
    · rw [hpath, Path.normalForm_join folder hne hordinary]
  · rw [if_neg hcontained] at hpath
    have hnames : (buildOutputPath ct source folder pattern).names =
        folder.normalForm.ownNames ++ (fallbackRelativePath ct source).names := by
      rw [hpath, Path.normalForm_join folder hfallbackNe hfallback]
    constructor
    · intro hhonoured
      refine .inr ?_
      have hsame := hhonoured.names
      rw [hnames] at hsame
      exact (List.append_cancel_left hsame).symm
    · rintro (hnot | hsame)
      · exact absurd hnot hcontained
      · refine ⟨?_, fun hroot => ?_, by rw [hnames, hsame], hne⟩
        · rw [hpath, Path.rootName_normalForm_join folder hfallbackNe hfallback]
        · rw [hpath, Path.rootDirectory_normalForm_join folder hfallbackNe hfallback, hroot, Bool.true_or]

end

/-! ## Two folders -/

def eveningSource : TokenSource := ⟨⟨2026, 3, 7, 19, 5, 1⟩, 1772910301, .matroska, {}⟩

theorem pattern_honoured_iff_share :
    PatternHonoured .c eveningSource (Path.ofString "\\\\nas\\clips") "{date}/clip".toList ↔
      ((Path.ofString "\\\\nas\\clips").normalForm.names.getLast? ≠ some "" ∧
          (Path.ofString "\\\\nas\\clips").normalForm.names ≠ ["."]) ∨
        (buildRelativePath .c eveningSource "{date}/clip".toList).names =
          (fallbackRelativePath .c eveningSource).names :=
  pattern_honoured_iff
    (show normalizeOutputFolderInput .c (fun _ => none) " \\\\nas\\clips".toList =
      ⟨.ok, Path.ofString "\\\\nas\\clips", "\\\\nas\\clips".toList⟩ by decide +kernel)

/-- With a separator at its end a folder is accepted, and the pattern is dropped. -/
theorem trailing_separator_drops_pattern :
    normalizeOutputFolderInput .c (fun _ => none) "C:\\Recordings\\".toList =
        ⟨.ok, Path.ofString "C:\\Recordings\\", "C:\\Recordings\\".toList⟩ ∧
      (buildRelativePath .c eveningSource "clip".toList).names = ["clip.mkv"] ∧
      (buildOutputPath .c eveningSource (Path.ofString "C:\\Recordings\\") "clip".toList).names =
        ["Recordings", "recording_2026-03-07_19-05-01.mkv"] := by
  refine ⟨?_, ?_, ?_⟩ <;> decide +kernel

end Exosnap.Output
