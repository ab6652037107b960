/-
  The order of the versions (`SemVer::operator<`), and their text (`ParseSemVer`, `ToString`).

  `rank` is a version as one number: the order is that of the numbers. On what the parser makes,
  which are the versions without an ordinal unless they are prereleases (`parsed_iff`), it is a strict
  total order, and such a version is read back from its text.
-/
import Exosnap.Update.UpdateTypes

namespace Exosnap.Update

namespace SemVer

/-- The last part of a version: a final release stands above every ordinal. -/
def ordinal (v : SemVer) : Nat := if v.isPrerelease then v.prereleaseNumber.toNat else 2 ^ 32

/-- A version as one number. -/
def rank (v : SemVer) : Nat :=
  ((v.major.toNat * 2 ^ 32 + v.minor.toNat) * 2 ^ 32 + v.patch.toNat) * 2 ^ 33 + v.ordinal

/-- Only a prerelease has an ordinal. -/
def Normal (v : SemVer) : Prop := v.isPrerelease = false → v.prereleaseNumber = 0

instance (v : SemVer) : Decidable v.Normal := inferInstanceAs (Decidable (_ → _))

theorem ordinal_le (v : SemVer) : v.ordinal ≤ 2 ^ 32 := by
  have hnumber := v.prereleaseNumber.toNat_lt
  rw [ordinal]
  split_ifs <;> omega

theorem toNat_ne {a b : UInt32} (h : a ≠ b) : a.toNat ≠ b.toNat :=
  fun h' => h (UInt32.toNat_inj.mp h')

theorem lt_iff_rank (v o : SemVer) : v.lt o = true ↔ v.rank < o.rank := by
  have hv := v.ordinal_le
  have ho := o.ordinal_le
  have := v.minor.toNat_lt
  have := o.minor.toNat_lt
  have := v.patch.toNat_lt
  have := o.patch.toNat_lt
  rw [lt, rank, rank]
  by_cases hmajor : v.major = o.major
  · rw [if_neg (not_not.mpr hmajor), hmajor]
    by_cases hminor : v.minor = o.minor
    · rw [if_neg (not_not.mpr hminor), hminor]
      by_cases hpatch : v.patch = o.patch
      · rw [if_neg (not_not.mpr hpatch), hpatch, Nat.add_lt_add_iff_left]
        have hnumber := v.prereleaseNumber.toNat_lt
        have hother := o.prereleaseNumber.toNat_lt
        rw [ordinal, ordinal]
        cases v.isPrerelease <;> cases o.isPrerelease <;>
          simp [UInt32.lt_iff_toNat_lt] <;> omega
      · have hne := toNat_ne hpatch
        rw [if_pos hpatch, decide_eq_true_eq, UInt32.lt_iff_toNat_lt]
        omega
    · have hne := toNat_ne hminor
      rw [if_pos hminor, decide_eq_true_eq, UInt32.lt_iff_toNat_lt]
      omega
  · have hne := toNat_ne hmajor
    rw [if_pos hmajor, decide_eq_true_eq, UInt32.lt_iff_toNat_lt]
    omega

theorem rank_inj {v o : SemVer} (hv : v.Normal) (ho : o.Normal) (h : v.rank = o.rank) : v = o := by
  have hvle := v.ordinal_le
  have hole := o.ordinal_le
  have := v.minor.toNat_lt
  have := o.minor.toNat_lt
  have := v.patch.toNat_lt
  have := o.patch.toNat_lt
  rw [rank, rank] at h
  have hordinal : v.ordinal = o.ordinal := by omega
  have hpatch : v.patch = o.patch := UInt32.toNat_inj.mp (by omega)
  have hminor : v.minor = o.minor := UInt32.toNat_inj.mp (by omega)
  have hmajor : v.major = o.major := UInt32.toNat_inj.mp (by omega)
  have hvlt := v.prereleaseNumber.toNat_lt
  have holt := o.prereleaseNumber.toNat_lt
  obtain ⟨major, minor, patch, prerelease, number⟩ := v
  obtain ⟨major', minor', patch', prerelease', number'⟩ := o
  simp only [ordinal] at hordinal hmajor hminor hpatch hvlt holt
  subst hmajor hminor hpatch
  cases prerelease <;> cases prerelease'
  · rw [show number = 0 from hv rfl, show number' = 0 from ho rfl]
  · simp only [Bool.false_eq_true, if_false, if_true] at hordinal
    omega
  · simp only [Bool.false_eq_true, if_false, if_true] at hordinal
    omega
  · have hnumber : number = number' := UInt32.toNat_inj.mp (by simpa using hordinal)
    rw [hnumber]

end SemVer

/-! ## The text -/

/-- What the parser makes of some text. -/
def Parsed (v : SemVer) : Prop := ∃ s, parseSemVer s = some v

theorem normal_parsePrerelease (v : SemVer) (label : List Char) :
    (parsePrerelease v label).Normal := by
  unfold parsePrerelease
  dsimp only
  split
  · split <;> exact nofun
  · exact nofun

theorem normal_of_parse {s : String} {v : SemVer} (h : parseSemVer s = some v) : v.Normal := by
  simp only [parseSemVer, Option.bind_eq_bind, Option.bind_eq_some_iff] at h
  obtain ⟨⟨major, _⟩, -, _, -, ⟨minor, _⟩, -, _, -, ⟨patch, rest⟩, -, h⟩ := h
  dsimp only at h
  split at h
  · obtain rfl := Option.some.inj h
    exact normal_parsePrerelease _ _
  · obtain rfl := Option.some.inj h
    exact fun _ => rfl

/-- A number is read back, whatever stands behind its digits. -/
theorem fromChars_toString (n : UInt32) {rest : List Char}
    (hrest : ∀ c ∈ rest.head?, c.isDigit = false) :
    fromChars ((toString n).toList ++ rest) = some (n, rest) := by
  have htext : (toString n).toList = Nat.toDigits 10 n.toNat := by
    change (toString n.toNat).toList = _
    rw [Nat.toString_eq_repr, Nat.toList_repr]
  have hdigits : ∀ c ∈ Nat.toDigits 10 n.toNat, c.isDigit = true := fun c hc =>
    Nat.isDigit_of_mem_toDigits (by decide) (by decide) hc
  have hnone : rest.takeWhile Char.isDigit = [] ∧ rest.dropWhile Char.isDigit = rest := by
    cases rest with
    | nil => exact ⟨rfl, rfl⟩
    | cons c rest =>
        have hc : ¬ c.isDigit = true := by simp [hrest c rfl]
        exact ⟨List.takeWhile_cons_of_neg hc, List.dropWhile_cons_of_neg hc⟩
  have htake : (Nat.toDigits 10 n.toNat ++ rest).takeWhile Char.isDigit =
      Nat.toDigits 10 n.toNat := by
    rw [List.takeWhile_append_of_pos hdigits, hnone.1, List.append_nil]
  have hdrop : (Nat.toDigits 10 n.toNat ++ rest).dropWhile Char.isDigit = rest := by
    rw [List.dropWhile_append_of_pos hdigits, hnone.2]
  have hvalue : (Nat.toDigits 10 n.toNat).foldl (fun m c => 10 * m + (c.toNat - '0'.toNat)) 0 =
      n.toNat := by
    rw [← Nat.ofDigitChars_eq_foldl, Nat.ofDigitChars_ten_toDigits]
  have hne : (Nat.toDigits 10 n.toNat).isEmpty = false := by
    rw [List.isEmpty_eq_false_iff]
    exact Nat.toDigits_ne_nil
  rw [fromChars, htext, htake, hdrop, hvalue, hne, decide_eq_false (Nat.not_le.mpr n.toNat_lt),
    UInt32.ofNat_toNat]
  rfl

/-- What stands behind the patch number. -/
def suffixText (v : SemVer) : List Char :=
  if v.isPrerelease then '-' :: 'r' :: 'c' :: ((toString v.prereleaseNumber).toList ++ []) else []

theorem toList_toString (v : SemVer) : v.toString.toList =
    (toString v.major).toList ++ '.' :: ((toString v.minor).toList ++
      '.' :: ((toString v.patch).toList ++ suffixText v)) := by
  unfold SemVer.toString suffixText
  have hstring : ∀ s : String, toString s = s := fun _ => rfl
  cases v.isPrerelease <;> simp [hstring]

theorem parse_toString {v : SemVer} (h : v.Normal) : parseSemVer v.toString = some v := by
  have hdot : ∀ rest : List Char, ∀ c ∈ ('.' :: rest).head?, c.isDigit = false := by
    intro rest c hc
    obtain rfl := Option.some.inj hc
    rfl
  have hsuffix : ∀ c ∈ (suffixText v).head?, c.isDigit = false := by
    intro c hc
    rw [suffixText] at hc
    split_ifs at hc
    · obtain rfl := Option.some.inj hc
      rfl
    · exact nomatch hc
  rw [parseSemVer, toList_toString, fromChars_toString v.major (hdot _)]
  simp only [Option.bind_eq_bind, Option.bind_some, parseSemVer.afterDot,
    fromChars_toString v.minor (hdot _), fromChars_toString v.patch hsuffix]
  obtain ⟨major, minor, patch, prerelease, number⟩ := v
  cases prerelease with
  | false => rw [show number = 0 from h rfl]; rfl
  | true =>
      have hnumber : fromChars ((toString number).toList ++ []) = some (number, []) :=
        fromChars_toString number nofun
      simp only [suffixText, if_true, parsePrerelease, hnumber]

/-- The parser makes every version without an ordinal or with one of a prerelease, and no other. -/
theorem parsed_iff (v : SemVer) : Parsed v ↔ v.Normal :=
  ⟨fun ⟨_, h⟩ => normal_of_parse h, fun h => ⟨v.toString, parse_toString h⟩⟩

end Exosnap.Update
