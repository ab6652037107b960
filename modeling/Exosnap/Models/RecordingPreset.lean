/-
  A named preset (`RecordingPreset.cpp`): its identity and its name, over any type of configurations.

  A string is the sequence of its bytes, a character a byte; what is done to names here looks at ASCII
  characters only. What is done to a configuration is a parameter (`ConfigRules`): no name and no id
  depends on it. An id that has to be generated comes with the call.
-/
import Mathlib
import Exosnap.Lib.Trimming

namespace Exosnap.Models

/-! ## Names -/

/-- The white space that is trimmed: blank, tab, line feed, carriage return, form feed, vertical tab. -/
def isBlank (c : Char) : Bool :=
  c == ' ' || c == '\t' || c == '\n' || c == '\r' || c == '\x0c' || c == '\x0b'

def trimWhitespace (s : String) : String := Trimming.trimString isBlank s

def normalizePresetName (name : String) : String := trimWhitespace name

/-- `Char.toLower` is `std::tolower` of the locale the program runs in: it knows the ASCII letters. -/
def foldPresetName (name : String) : String := (normalizePresetName name).map Char.toLower

/-! ## Presets -/

structure RecordingPreset (κ : Type) where
  id : String
  name : String
  config : κ
  deriving DecidableEq, Repr

/-- What is done to the configurations: `StripEnvironmentFields`, `SanitizePresetConfig`, and the
    configurations of the presets that are shipped. -/
structure ConfigRules (κ : Type) where
  strip : κ → κ
  sanitize : κ → κ
  default : κ
  quality : κ
  compact : κ
  performance : κ
  compatibility : κ

def kDefaultPresetId : String := "preset.default"
def kQualityPresetId : String := "preset.quality"
def kCompactPresetId : String := "preset.compact"
def kPerformancePresetId : String := "preset.performance"
def kCompatibilityPresetId : String := "preset.compatibility"

def isBuiltInPresetId (id : String) : Bool :=
  id == kDefaultPresetId || id == kQualityPresetId || id == kCompactPresetId ||
    id == kPerformancePresetId || id == kCompatibilityPresetId

section
variable {κ : Type} (rules : ConfigRules κ)

def makeBuiltInPresets : List (RecordingPreset κ) :=
  [{ id := kDefaultPresetId, name := "Default", config := rules.default },
    { id := kQualityPresetId, name := "Quality", config := rules.quality },
    { id := kCompactPresetId, name := "Compact", config := rules.compact },
    { id := kPerformancePresetId, name := "Performance", config := rules.performance },
    { id := kCompatibilityPresetId, name := "Compatibility", config := rules.compatibility }]

def sanitizePreset (generatedId : String) (preset : RecordingPreset κ) : RecordingPreset κ :=
  let trimmedName := trimWhitespace preset.name
  { id := if preset.id.isEmpty then generatedId else preset.id
    name := if trimmedName.isEmpty then "Untitled preset" else trimmedName
    config := rules.sanitize preset.config }

end

/-! ## What trimming and folding do -/

@[simp] theorem normalizePresetName_normalizePresetName (name : String) :
    normalizePresetName (normalizePresetName name) = normalizePresetName name :=
  Trimming.trimString_trimString name

@[simp] theorem foldPresetName_normalizePresetName (name : String) :
    foldPresetName (normalizePresetName name) = foldPresetName name := by
  unfold foldPresetName
  rw [normalizePresetName_normalizePresetName]

@[simp] theorem map_eq_empty {f : Char → Char} {s : String} : s.map f = "" ↔ s = "" := by
  rw [← String.toList_inj, String.toList_map]
  simp

theorem foldPresetName_eq_empty {name : String} :
    foldPresetName name = "" ↔ normalizePresetName name = "" := map_eq_empty

/-- A name with a number after it. -/
def numberedName (base : String) (suffix : Nat) : String := base ++ " (" ++ suffix.repr ++ ")"

theorem toList_numberedName (base : String) (suffix : Nat) :
    (numberedName base suffix).toList =
      (base.toList ++ [' ']) ++ '(' :: (Nat.toDigits 10 suffix ++ [')']) := by
  simp [numberedName]

theorem toLower_of_isDigit {c : Char} (h : c.isDigit = true) : c.toLower = c := by
  rw [Char.isDigit_iff_toNat] at h
  unfold Char.toLower
  rw [dif_neg]
  rintro ⟨hA, -⟩
  exact absurd (Nat.le_trans hA h.2) (by decide)

/-- Different numbers make different names, also after folding. -/
theorem foldPresetName_numberedName_injective (base : String) :
    Function.Injective fun suffix => foldPresetName (numberedName base suffix) := by
  intro i j hij
  have hfold : ∀ suffix, (foldPresetName (numberedName base suffix)).toList =
      ((base.toList ++ [' ']).dropWhile isBlank).map Char.toLower ++
        '(' :: (Nat.toDigits 10 suffix ++ [')']) := by
    intro suffix
    have hdigits : (Nat.toDigits 10 suffix).map Char.toLower = Nat.toDigits 10 suffix := by
      refine (List.map_congr_left fun c hc => toLower_of_isDigit ?_).trans (List.map_id _)
      exact Nat.isDigit_of_mem_toDigits (by decide) (by decide) hc
    unfold foldPresetName normalizePresetName trimWhitespace
    rw [String.toList_map, Trimming.toList_trimString, toList_numberedName,
      Trimming.trim_append_cons (by decide) (by decide), List.map_append, List.map_cons,
      List.map_append, hdigits]
    rfl
  have hlists := congrArg String.toList hij
  dsimp only at hlists
  rw [hfold i, hfold j] at hlists
  have htails := List.append_cancel_left hlists
  have hdigits := List.append_cancel_right (List.cons.inj htails).2
  refine Nat.repr_injective (String.toList_inj.mp ?_)
  simpa using hdigits

theorem trimmed_of_normalizePresetName {name : String} (h : normalizePresetName name = name) :
    Trimming.Trimmed isBlank name.toList := by
  rw [← h]
  unfold normalizePresetName trimWhitespace
  rw [Trimming.toList_trimString]
  exact Trimming.trimmed_trim _

theorem numberedName_ne_empty (base : String) (suffix : Nat) : numberedName base suffix ≠ "" := by
  intro h
  have hlist := congrArg String.toList h
  rw [toList_numberedName] at hlist
  simp at hlist

/-- A number after a name leaves nothing to trim. -/
theorem normalizePresetName_numberedName {base : String} (h : normalizePresetName base = base)
    (hne : base ≠ "") (suffix : Nat) :
    normalizePresetName (numberedName base suffix) = numberedName base suffix := by
  refine Trimming.trimString_eq_self ?_
  rw [toList_numberedName]
  have htrimmed := trimmed_of_normalizePresetName h
  have hlist : base.toList ≠ [] := by simpa using hne
  refine ⟨fun c hc => htrimmed.1 c ?_, fun c hc => ?_⟩
  · cases hb : base.toList with
    | nil => exact absurd hb hlist
    | cons b bs =>
      rw [hb] at hc
      simpa using hc
  · rw [← List.cons_append, ← List.append_assoc, List.getLast?_concat] at hc
    obtain rfl := Option.some.inj hc
    decide

end Exosnap.Models
