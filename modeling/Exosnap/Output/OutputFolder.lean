/-
  The folder of the recordings (`OutputPathPolicy.cpp`) and the path of a recording in it
  (`BuildOutputPath`, `FilenameBuilder.cpp`).

  The environment is what `GetEnvironmentVariableW` reads of it: a variable that is not set and one
  that is empty are the same.
-/
import Exosnap.Output.FilenameSafety
import Exosnap.Services.LexicalNormal

namespace Exosnap.Services.Path

/-! ## Paths -/

/-- A path behind a drive needs its root directory to be absolute; behind another root name it is. -/
def isAbsolute (p : Path) : Bool :=
  if p.rootName.length = 2 then p.rootDirectory else !p.rootName.isEmpty

/-- `lexically_normal`, with the separators of the root name preferred ones. -/
def normalForm (p : Path) : Path :=
  { p.lexicallyNormal with rootName := p.rootName.map fun c => if c == '/' then '\\' else c }

/-- `p / relative`, for a path of names only. -/
def join (p relative : Path) : Path := relative.names.foldl append p

/-- What an iterator over the path goes through. -/
def elements (p : Path) : List String :=
  (if p.rootName.isEmpty then [] else [p.rootName]) ++ (if p.rootDirectory then ["\\"] else []) ++
    p.names

end Exosnap.Services.Path

namespace Exosnap.Output

open Services (Path)

inductive OutputFolderPolicyResult where
  | ok
  | emptyInput
  | invalidPath
  | notAbsolutePath
  | unsupportedEnvironmentVariable
  | unsupportedExpression
  deriving DecidableEq, Repr

structure NormalizedOutputFolder where
  result : OutputFolderPolicyResult := .invalidPath
  resolvedPath : Path := { names := [] }
  enteredInput : WString := []
  deriving DecidableEq, Repr

def kAllowedEnvNames : List WString :=
  ["USERPROFILE".toList, "APPDATA".toList, "LOCALAPPDATA".toList, "PUBLIC".toList, "TEMP".toList,
    "TMP".toList]

def isSlash (c : Char) : Bool := c == '/' || c == '\\'

section
variable (ct : CharTypes) (environment : WString → Option WString)

def isAllowedEnvName (name : WString) : Bool := kAllowedEnvNames.contains (name.map ct.towupper)

def expandHomeAlias (input : WString) : Except OutputFolderPolicyResult WString :=
  if !(startsWith input "~/".toList || startsWith input "~\\".toList) then .ok input
  else
    match environment "USERPROFILE".toList with
    | none => .error .invalidPath
    | some userProfile =>
        let suffix := input.drop 2
        if suffix.isEmpty then .ok userProfile
        else if userProfile.getLast?.all isSlash then .ok (userProfile ++ suffix)
        else .ok (userProfile ++ '\\' :: suffix)

/-- The loop over the input: what stands between two `%` is the name of a variable. -/
def expandAllowedEnvironmentVariables : WString → Except OutputFolderPolicyResult WString
  | [] => .ok []
  | c :: rest =>
      if c ≠ '%' then (expandAllowedEnvironmentVariables rest).map (c :: ·)
      else
        match h : rest.dropWhile (· != '%') with
        | [] => .error .invalidPath
        | _ :: after =>
            let name := rest.takeWhile (· != '%')
            if !isAllowedEnvName ct name then .error .unsupportedEnvironmentVariable
            else
              match environment name with
              | none => .error .invalidPath
              | some value => (expandAllowedEnvironmentVariables after).map (value ++ ·)
termination_by input => input.length
decreasing_by
  · simp
  · have := (List.dropWhile_suffix (· != '%') (l := rest)).length_le
    rw [h, List.length_cons] at this
    simp only [List.length_cons]
    omega

def isAbsoluteWindowsPath (input : WString) : Bool :=
  isDriveAbsolutePath ct input || isUncPath input || (Path.ofString (String.ofList input)).isAbsolute

def normalizeOutputFolderInput (rawInput : WString) : NormalizedOutputFolder :=
  let trimmed := trim ct rawInput
  if trimmed.isEmpty then { result := .emptyInput }
  else if trimmed.contains '$' then { result := .unsupportedExpression }
  else
    match expandHomeAlias environment trimmed with
    | .error error => { result := error }
    | .ok homeExpanded =>
        match expandAllowedEnvironmentVariables ct environment homeExpanded with
        | .error error => { result := error }
        | .ok envExpanded =>
            if !isAbsoluteWindowsPath ct envExpanded then { result := .notAbsolutePath }
            else if envExpanded.isEmpty then { result := .invalidPath }
            else
              { result := .ok
                resolvedPath := Path.ofString (String.ofList envExpanded)
                enteredInput := trimmed }

end

/-! ## The path of a recording -/

section
variable (ct : CharTypes)

def pathElementEqualCaseInsensitive (lhs rhs : String) : Bool :=
  lhs.toList.map ct.towlower == rhs.toList.map ct.towlower

/-- The elements of the folder, one by one, are those of the candidate. -/
def underElements : List String → List String → Bool
  | _, [] => true
  | [], _ :: _ => false
  | c :: candidate, f :: folder =>
      pathElementEqualCaseInsensitive ct c f && underElements candidate folder

def isPathUnderFolder (candidate folder : Path) : Bool :=
  !folder.isEmpty && underElements ct candidate.elements folder.elements

/-- The pattern of the fallback, which is rendered without a context. -/
def fallbackRelativePath (source : TokenSource) : Path :=
  buildRelativePath ct { source with context := {} } "recording_{datetime}".toList

def buildOutputPath (source : TokenSource) (folder : Path) (pattern : WString) : Path :=
  let normalizedFolder := folder.normalForm
  let candidate := (normalizedFolder.join (buildRelativePath ct source pattern)).normalForm
  if isPathUnderFolder ct candidate normalizedFolder then candidate
  else (normalizedFolder.join (fallbackRelativePath ct source)).normalForm

end

end Exosnap.Output
