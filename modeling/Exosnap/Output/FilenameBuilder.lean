/-
  The names of the files that are recorded (`FilenameBuilder.cpp`): a pattern with tokens is rendered
  segment by segment, and each segment is made a name that Windows takes.

  The local time of a recording is broken down by the C library, which is a parameter; what is
  formatted of it is written here.
-/
import Exosnap.Capability.CapabilitySet
import Exosnap.Output.OutputPathPolicy
import Exosnap.Services.FilesystemPath

namespace Exosnap.Output

open Capability (Container VideoCodec AudioCodec)
open Services (Path)

def kMissingTokenSentinel : Char := Char.ofNat 0xE000

def containerToken : Container → WString
  | .matroska => "mkv".toList
  | .mp4 => "mp4".toList
  | .webM => "webm".toList

def containerExtension : Container → WString
  | .matroska => ".mkv".toList
  | .mp4 => ".mp4".toList
  | .webM => ".webm".toList

def videoCodecToken : VideoCodec → WString
  | .h264 => "h264".toList
  | .hevc => "hevc".toList
  | .av1 => "av1".toList

def audioCodecToken : AudioCodec → WString
  | .aac => "aac".toList
  | .opus => "opus".toList
  | .pcm => "pcm".toList
  | .flac => "flac".toList

/-! ## Characters -/

def isInvalidWindowsFilenameChar (c : Char) : Bool :=
  c.toNat < 32 || "<>:\"/\\|?*".toList.contains c

section
variable (ct : CharTypes)

def isCleanupSeparator (c : Char) : Bool := "|.,:;_-/\\".toList.contains c || ct.iswspace c

def isTrimSeparator (c : Char) : Bool := "|.,:;_-".toList.contains c || ct.iswspace c

def trimSegment (value : WString) : WString := Trimming.trim (isTrimSeparator ct) value

/-! ## Names of devices -/

/-- The name up to its first dot is that of a device. -/
def isWindowsReservedDeviceName (segment : WString) : Bool :=
  match segment.takeWhile (· != '.') with
  | [x, y, z] =>
      let stem := [ct.towlower x, ct.towlower y, ct.towlower z]
      stem == "con".toList || stem == "prn".toList || stem == "aux".toList || stem == "nul".toList
  | [x, y, z, d] =>
      let stem := [ct.towlower x, ct.towlower y, ct.towlower z]
      (stem == "com".toList || stem == "lpt".toList) && '1' ≤ d && d ≤ '9'
  | _ => false

def sanitizeReservedDeviceName (value : WString) : WString :=
  if isWindowsReservedDeviceName ct value then value ++ "_1".toList else value

end

/-! ## The time -/

/-- A local time, by the calendar. -/
structure Tm where
  year : Nat
  month : Nat
  day : Nat
  hour : Nat
  minute : Nat
  second : Nat
  deriving DecidableEq, Repr

def padded (width n : Nat) : WString :=
  List.replicate (width - (Nat.toDigits 10 n).length) '0' ++ Nat.toDigits 10 n

def Tm.conversion (tm : Tm) : Char → WString
  | 'Y' => padded 4 tm.year
  | 'y' => padded 2 (tm.year % 100)
  | 'm' => padded 2 tm.month
  | 'd' => padded 2 tm.day
  | 'H' => padded 2 tm.hour
  | 'M' => padded 2 tm.minute
  | 'S' => padded 2 tm.second
  | _ => []

/-- `wcsftime`, without its buffer. -/
def Tm.strftime (tm : Tm) : WString → WString
  | '%' :: c :: rest => tm.conversion c ++ tm.strftime rest
  | c :: rest => c :: tm.strftime rest
  | [] => []

/-- What does not fit into 32 units, with the zero at the end, is not written. -/
def safeStrftime (tm : Tm) (format fallback : String) : WString :=
  let text := tm.strftime format.toList
  if text.isEmpty || 32 ≤ text.length then fallback.toList else text

def buildDateTimeToken (tm : Tm) : WString :=
  safeStrftime tm "%Y-%m-%d_%H-%M-%S" "1970-01-01_00-00-00"

def buildFallbackBaseName (tm : Tm) : WString := "recording_".toList ++ buildDateTimeToken tm

/-! ## Tokens -/

structure FilenameTargetContext where
  targetName : WString := []
  appName : WString := []
  processName : WString := []
  windowTitle : WString := []
  profileName : WString := []
  videoCodec : VideoCodec := .h264
  audioCodec : AudioCodec := .aac

/-- What the tokens of a pattern stand for. -/
structure TokenSource where
  tm : Tm
  timestamp : Int
  container : Container
  context : FilenameTargetContext

def sanitizeTokenValue (ct : CharTypes) (value : WString) : WString :=
  trimSegment ct (value.map fun c => if isInvalidWindowsFilenameChar c then '_' else c)

/-- The value of a token that is known. -/
def resolveKnownToken (source : TokenSource) (tokenName : WString) : Option WString :=
  match String.ofList tokenName with
  | "date" => some (safeStrftime source.tm "%Y-%m-%d" "1970-01-01")
  | "time" => some (safeStrftime source.tm "%H-%M-%S" "00-00-00")
  | "datetime" => some (buildDateTimeToken source.tm)
  | "timestamp" => some (toString source.timestamp).toList
  | "YYYY" => some (safeStrftime source.tm "%Y" "1970")
  | "YY" => some (safeStrftime source.tm "%y" "70")
  | "MM" => some (safeStrftime source.tm "%m" "01")
  | "DD" => some (safeStrftime source.tm "%d" "01")
  | "hh" => some (safeStrftime source.tm "%H" "00")
  | "mm" => some (safeStrftime source.tm "%M" "00")
  | "ss" => some (safeStrftime source.tm "%S" "00")
  | "app" => some source.context.appName
  | "title" => some source.context.windowTitle
  | "process" => some source.context.processName
  | "target" => some source.context.targetName
  | "profile" => some source.context.profileName
  | "container" => some (containerToken source.container)
  | "video" => some (videoCodecToken source.context.videoCodec)
  | "audio" => some (audioCodecToken source.context.audioCodec)
  | _ => none

section
variable (ct : CharTypes)

/-- What is written for a token, the braces included if it is not known. -/
def renderToken (source : TokenSource) (tokenName : WString) : WString :=
  match resolveKnownToken source tokenName with
  | none => '{' :: (tokenName ++ ['}'])
  | some value =>
      let sanitized := sanitizeTokenValue ct value
      if sanitized.isEmpty then [kMissingTokenSentinel] else sanitized

/-- The loop over a segment. An open brace that none closes is a character like others. -/
def renderTokens (source : TokenSource) : WString → WString
  | [] => []
  | c :: rest =>
      if c ≠ '{' then c :: renderTokens source rest
      else
        match h : rest.dropWhile (· != '}') with
        | [] => c :: renderTokens source rest
        | _ :: after =>
            renderToken ct source (rest.takeWhile (· != '}')) ++ renderTokens source after
termination_by segment => segment.length
decreasing_by
  · simp
  · simp
  · have := (List.dropWhile_suffix (· != '}') (l := rest)).length_le
    rw [h, List.length_cons] at this
    simp only [List.length_cons]
    omega

/-- The last of a run that is no white space, or else the first. -/
def preferredSeparatorFromRun (run : WString) : Option Char :=
  (run.reverse.find? fun c => !ct.iswspace c).or run.head?

/-- The loop over what was rendered, with the result so far. Between two parts that have contents one
    separator is left where a token was missing. -/
def collapseFrom (result : WString) : WString → WString
  | [] => result
  | c :: rest =>
      if c ≠ kMissingTokenSentinel then collapseFrom (result ++ [c]) rest
      else
        let left := result.rdropWhile (isCleanupSeparator ct)
        let leftRun := result.rtakeWhile (isCleanupSeparator ct)
        let right := rest.dropWhile (· == kMissingTokenSentinel)
        let rightRun := right.takeWhile (isCleanupSeparator ct)
        let remaining := right.dropWhile (isCleanupSeparator ct)
        if left.isEmpty || remaining.isEmpty then collapseFrom left remaining
        else
          let joinChar :=
            preferredSeparatorFromRun ct (if leftRun.isEmpty then rightRun else leftRun)
          collapseFrom (left ++ joinChar.toList) remaining
termination_by value => value.length
decreasing_by
  · simp
  all_goals
    have hright := (List.dropWhile_suffix (· == kMissingTokenSentinel) (l := rest)).length_le
    have hremaining := (List.dropWhile_suffix (isCleanupSeparator ct)
      (l := rest.dropWhile (· == kMissingTokenSentinel))).length_le
    simp only [List.length_cons]
    omega

def collapseMissingTokenSeparators (value : WString) : WString := collapseFrom ct [] value

/-- `RenderPatternSegment` up to the names of devices. -/
def segmentText (source : TokenSource) (segment : WString) : WString :=
  let rendered := collapseMissingTokenSeparators ct (renderTokens ct source segment)
  let rendered := rendered.filter (· != kMissingTokenSentinel)
  trimSegment ct (rendered.map fun c => if isInvalidWindowsFilenameChar c then '_' else c)

def renderPatternSegment (source : TokenSource) (segment : WString) : WString :=
  sanitizeReservedDeviceName ct (segmentText ct source segment)

/-! ## Paths -/

/-- What a segment has to be to become a part of the path. -/
def isPathSegment (rendered : WString) : Bool :=
  !(rendered.isEmpty || rendered == ".".toList || rendered == "..".toList)

def buildRelativeSegments (source : TokenSource) (pattern : WString) : List WString :=
  let rawSegments := (effectivePattern ct pattern).splitOnP isPatternPathSeparator
  let segments := (rawSegments.map (renderPatternSegment ct source)).filter isPathSegment
  if segments.isEmpty then [buildFallbackBaseName source.tm] else segments

/-- The segments of the relative path: the last one with the extension. -/
def relativeNames (source : TokenSource) (pattern : WString) : List WString :=
  let segments := buildRelativeSegments ct source pattern
  segments.dropLast ++
    [segments.getLast?.getD (buildFallbackBaseName source.tm) ++ containerExtension source.container]

def buildRelativePath (source : TokenSource) (pattern : WString) : Path :=
  ((relativeNames ct source pattern).map String.ofList).foldl Path.append { names := [] }

end

end Exosnap.Output
