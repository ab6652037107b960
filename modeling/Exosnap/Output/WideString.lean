/-
  Wide strings, and what the C library says of a character (`cwctype`).

  A string is the sequence of its characters. What is done to strings here looks at ASCII characters,
  one private character and what is white space, so that it does not matter how a character beyond
  16 bits is stored. What is said beyond ASCII depends on the system: `CharTypes` keeps what holds on
  each.
-/
import Mathlib
import Exosnap.Lib.Trimming

namespace Exosnap.Output

abbrev WString := List Char

/-- What the C library says of the characters. -/
structure CharTypes where
  iswspace : Char → Bool
  iswalpha : Char → Bool
  towlower : Char → Char
  towupper : Char → Char
  iswspace_ascii (c : Char) (h : c.toNat < 128) :
    iswspace c = (c == ' ' || 9 ≤ c.toNat && c.toNat ≤ 13)
  iswalpha_ascii (c : Char) (h : c.toNat < 128) : iswalpha c = c.isAlpha
  towlower_ascii (c : Char) (h : c.toNat < 128) : towlower c = c.toLower
  towupper_ascii (c : Char) (h : c.toNat < 128) : towupper c = c.toUpper
  /-- What is not left alone becomes a letter. -/
  towlower_letter (c : Char) : towlower c = c ∨ iswalpha (towlower c) = true

/-- The locale named C: nothing beyond ASCII is white space or a letter. -/
def CharTypes.c : CharTypes where
  iswspace c := c == ' ' || 9 ≤ c.toNat && c.toNat ≤ 13
  iswalpha := Char.isAlpha
  towlower := Char.toLower
  towupper := Char.toUpper
  iswspace_ascii _ _ := rfl
  iswalpha_ascii _ _ := rfl
  towlower_ascii _ _ := rfl
  towupper_ascii _ _ := rfl
  towlower_letter c := by
    by_cases h : c.isUpper = true
    · exact .inr (by simp [Char.isAlpha, h])
    · exact .inl (Char.toLower_eq_of_not_isUpper h)

/-- `Trim`. -/
def trim (ct : CharTypes) (value : WString) : WString := Trimming.trim ct.iswspace value

def startsWith (value expected : WString) : Bool := expected.isPrefixOf value

end Exosnap.Output
