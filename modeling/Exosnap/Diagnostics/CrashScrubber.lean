/-
  The scrubber of crash reports (`crash_scrubber.cpp`): the passes a text goes through before it
  leaves the process.

  A text is the list of its bytes, each as the character of its code, and `std::tolower` and the
  classes of the regex are those of the "C" locale. What the cache holds was read from the system
  once; an entry that could not be read is empty.
-/
import Exosnap.Lib.MatchReplace

namespace Exosnap.Diagnostics

namespace CrashScrubber

open MatchReplace

/-- `SensitiveValueCache` -/
structure SensitiveValueCache where
  userprofile : List Char := []
  username : List Char := []
  machineName : List Char := []

def SensitiveValueCache.values (cache : SensitiveValueCache) : List (List Char) :=
  [cache.userprofile, cache.username, cache.machineName]

theorem SensitiveValueCache.forall_values {cache : SensitiveValueCache} {P : List Char → Prop} :
    (∀ n ∈ cache.values, P n) ↔ P cache.userprofile ∧ P cache.username ∧ P cache.machineName := by
  simp [values]

inductive Label where
  | path
  | user
  | machine

def Label.text : Label → List Char
  | path => ['p', 'a', 't', 'h']
  | user => ['u', 's', 'e', 'r']
  | machine => ['m', 'a', 'c', 'h', 'i', 'n', 'e']

/-- `[path]`, `[user]`, `[machine]` -/
def Label.replacement (label : Label) : List Char := placeholder '[' ']' label.text

def lower (s : List Char) : List Char := s.map Char.toLower

/-- The needle at the head of the text: `lower_hay.find(lower_needle, pos)` stops where this is not
    0 first. -/
def matchCI (needle s : List Char) : ℕ :=
  if (lower needle).isPrefixOf (lower s) then needle.length else 0

def replaceAllCI (haystack needle replacement : List Char) : List Char :=
  if needle.isEmpty then haystack else replaceAll (matchCI needle) replacement haystack

/-- The class `[\s\"\'\,\;\n\r]`. -/
def stops : List Char := [' ', '\t', '\n', '\x0b', '\x0c', '\r', '\x22', '\x27', ',', ';']

def isStop (c : Char) : Bool := stops.contains c

/-- `[A-Za-z]:\\[^\s\"\'\,\;\n\r]*` -/
def driveMatch : List Char → ℕ
  | d :: ':' :: '\\' :: rest => if d.isAlpha then 3 + (rest.takeWhile (!isStop ·)).length else 0
  | _ => 0

/-- `\\\\[^\s\"\'\,\;\n\r]+` -/
def uncMatch : List Char → ℕ
  | '\\' :: '\\' :: d :: rest =>
      if isStop d then 0 else 3 + (rest.takeWhile (!isStop ·)).length
  | _ => 0

/-- `kPathRegex`: the second alternative is tried where the first fails. -/
def pathMatch (s : List Char) : ℕ := if driveMatch s = 0 then uncMatch s else driveMatch s

/-- `std::regex_replace(input, kPathRegex, "[path]")` -/
def stripWindowsPaths (input : List Char) : List Char :=
  replaceAll pathMatch Label.path.replacement input

def scrubString (cache : SensitiveValueCache) (input : List Char) : List Char :=
  if input.isEmpty then []
  else
    let result :=
      if cache.userprofile.isEmpty then input
      else replaceAllCI input cache.userprofile Label.path.replacement
    let result := stripWindowsPaths result
    let result :=
      if cache.username.isEmpty then result
      else replaceAllCI result cache.username Label.user.replacement
    if cache.machineName.isEmpty then result
    else replaceAllCI result cache.machineName Label.machine.replacement

/-! ## What a report may not hold -/

/-- A drive with its root, or two backslashes with a name behind. -/
def HoldsPath (t : List Char) : Prop :=
  ∃ d, (d.isAlpha = true ∧ [d, ':', '\\'] <:+: t) ∨ (isStop d = false ∧ ['\\', '\\', d] <:+: t)

/-- None of the values that are known, in any case, and no path. -/
structure Clean (cache : SensitiveValueCache) (t : List Char) : Prop where
  values : ∀ n ∈ cache.values, n ≠ [] → ¬ lower n <:+: lower t
  path : ¬ HoldsPath t

/-- A name that no placeholder holds or could end or begin. -/
structure Telling (n : List Char) : Prop where
  noOpen : '[' ∉ n
  noClose : ']' ∉ n
  notLabel : n ≠ [] → ∀ label : Label, ¬ lower n <:+: label.text

/-- The names that are looked for after the paths do not begin with a byte that ends a path. -/
structure SensitiveValueCache.Telling (cache : SensitiveValueCache) : Prop where
  values : ∀ n ∈ cache.values, CrashScrubber.Telling n
  username : ∀ c ∈ cache.username.head?, isStop c = false
  machineName : ∀ c ∈ cache.machineName.head?, isStop c = false

/-! ## The matchers -/

theorem toLower_eq_iff {x d : Char} (hd : d.isAlpha = false) : x.toLower = d ↔ x = d := by
  have hcode : ¬ (65 ≤ d.toNat ∧ d.toNat ≤ 90) ∧ ¬ (97 ≤ d.toNat ∧ d.toNat ≤ 122) := by
    have hcase : (decide (65 ≤ d.toNat ∧ d.toNat ≤ 90) ||
        (decide (97 ≤ d.toNat) && decide (d.toNat ≤ 122))) = false := hd
    simpa using hcase
  unfold Char.toLower
  split
  next hup =>
    have hupper : 65 ≤ x.toNat ∧ x.toNat ≤ 90 := hup
    have hsum : (x.val + 32).toNat = x.toNat + 32 :=
      (UInt32.toNat_add ..).trans (Nat.mod_eq_of_lt (show x.toNat + 32 < 2 ^ 32 by omega))
    constructor
    · rintro rfl
      have hlower : ¬ (97 ≤ (x.val + 32).toNat ∧ (x.val + 32).toNat ≤ 122) := hcode.2
      omega
    · rintro rfl
      exact absurd hupper hcode.1
  next => rfl

theorem mem_lower_iff {d : Char} (hd : d.isAlpha = false) {s : List Char} :
    d ∈ lower s ↔ d ∈ s := by
  simp only [lower, List.mem_map, toLower_eq_iff hd, exists_eq_right]

theorem lower_append (s t : List Char) : lower (s ++ t) = lower s ++ lower t := List.map_append

theorem matchCI_ne_zero_iff {n s : List Char} :
    matchCI n s ≠ 0 ↔ n ≠ [] ∧ ∃ w b, s = w ++ b ∧ lower w = lower n := by
  have hprefix : lower n <+: lower s ↔ ∃ w b, s = w ++ b ∧ lower w = lower n := by
    constructor
    · rintro ⟨b, hb⟩
      obtain ⟨w, b', rfl, hw, -⟩ := List.map_eq_append_iff.1 hb.symm
      exact ⟨w, b', rfl, hw⟩
    · rintro ⟨w, b, rfl, hw⟩
      exact ⟨lower b, by rw [lower_append, hw]⟩
  rw [← hprefix, ← List.isPrefixOf_iff_prefix]
  unfold matchCI
  split <;> simp_all

theorem free_matchCI_iff {n t : List Char} :
    Free (matchCI n) t ↔ (n ≠ [] → ¬ lower n <:+: lower t) := by
  constructor
  · rintro hfree hn ⟨a, b, hab⟩
    rw [List.append_assoc] at hab
    obtain ⟨front, s, rfl, -, hs⟩ := List.map_eq_append_iff.1 hab.symm
    obtain ⟨w, b', rfl, hw, -⟩ := List.map_eq_append_iff.1 hs
    exact matchCI_ne_zero_iff.2 ⟨hn, w, b', rfl, hw⟩ (hfree _ (List.suffix_append _ _))
  · rintro hinfix s ⟨a, rfl⟩
    by_contra hmatch
    obtain ⟨hn, w, b, rfl, hw⟩ := matchCI_ne_zero_iff.1 hmatch
    exact hinfix hn ⟨lower a, lower b, by rw [lower_append, lower_append, hw, List.append_assoc]⟩

theorem driveMatch_ne_zero_iff {s : List Char} :
    driveMatch s ≠ 0 ↔ ∃ d b, s = [d, ':', '\\'] ++ b ∧ d.isAlpha = true := by
  constructor
  · intro h
    unfold driveMatch at h
    split at h
    next d rest =>
      cases hd : d.isAlpha with
      | true => exact ⟨d, rest, rfl, hd⟩
      | false => simp [hd] at h
    next => exact absurd rfl h
  · rintro ⟨d, b, rfl, hd⟩
    simp [driveMatch, hd]

theorem uncMatch_ne_zero_iff {s : List Char} :
    uncMatch s ≠ 0 ↔ ∃ d b, s = ['\\', '\\', d] ++ b ∧ isStop d = false := by
  constructor
  · intro h
    unfold uncMatch at h
    split at h
    next d rest =>
      cases hd : isStop d with
      | false => exact ⟨d, rest, rfl, hd⟩
      | true => simp [hd] at h
    next => exact absurd rfl h
  · rintro ⟨d, b, rfl, hd⟩
    simp [uncMatch, hd]

theorem pathMatch_ne_zero_iff {s : List Char} :
    pathMatch s ≠ 0 ↔ driveMatch s ≠ 0 ∨ uncMatch s ≠ 0 := by
  unfold pathMatch
  split
  next h => simp [h]
  next h => simp [h]

theorem free_pathMatch_iff {t : List Char} : Free pathMatch t ↔ ¬ HoldsPath t := by
  constructor
  · rintro hfree ⟨d, ⟨hd, a, b, rfl⟩ | ⟨hd, a, b, rfl⟩⟩
    · refine pathMatch_ne_zero_iff.2 (.inl (driveMatch_ne_zero_iff.2 ⟨d, b, rfl, hd⟩)) (hfree _ ?_)
      exact ⟨a, (List.append_assoc ..).symm⟩
    · refine pathMatch_ne_zero_iff.2 (.inr (uncMatch_ne_zero_iff.2 ⟨d, b, rfl, hd⟩)) (hfree _ ?_)
      exact ⟨a, (List.append_assoc ..).symm⟩
  · rintro hnone s ⟨a, rfl⟩
    by_contra hmatch
    rcases pathMatch_ne_zero_iff.1 hmatch with hdrive | hunc
    · obtain ⟨d, b, rfl, hd⟩ := driveMatch_ne_zero_iff.1 hdrive
      exact hnone ⟨d, .inl ⟨hd, a, b, List.append_assoc ..⟩⟩
    · obtain ⟨d, b, rfl, hd⟩ := uncMatch_ne_zero_iff.1 hunc
      exact hnone ⟨d, .inr ⟨hd, a, b, List.append_assoc ..⟩⟩

/-! ## What each pass leaves -/

theorem lower_text (label : Label) : lower label.text = label.text := by
  cases label <;> decide

theorem not_mem_text {d : Char} (hd : d.isAlpha = false) (label : Label) : d ∉ label.text := by
  intro hmem
  have hletters : label.text.all Char.isAlpha = true := by cases label <;> decide
  exact absurd (List.all_eq_true.1 hletters d hmem) (by simp [hd])

/-- A name is seen in its own letters. -/
theorem seen_matchCI {n : List Char} (hn : Telling n) (label : Label) (m : List Char → ℕ) :
    Seen '[' ']' label.text m (matchCI n) := by
  intro s hmatch
  obtain ⟨hne, w, b, rfl, hw⟩ := matchCI_ne_zero_iff.1 hmatch
  have hmem {d : Char} (hd : d.isAlpha = false) (hnot : d ∉ n) : d ∉ w := by
    rwa [← mem_lower_iff hd, hw, mem_lower_iff hd]
  refine ⟨w, b, rfl, ?_, hmem (by decide) hn.noOpen, hmem (by decide) hn.noClose, ?_, ?_⟩
  · rintro rfl
    exact hne (List.map_eq_nil_iff.1 hw.symm)
  · rintro ⟨a, c, hin⟩
    refine hn.notLabel hne label ⟨lower a, lower c, ?_⟩
    rw [← hw, ← lower_append, ← lower_append, hin, lower_text]
  · exact fun b' _ => matchCI_ne_zero_iff.2 ⟨hne, w, b', rfl, hw⟩

/-- A drive is seen in its first three letters. Of two backslashes the letter behind may belong to
    a placeholder, and then what was replaced did not begin with a letter that ends a path. -/
theorem seen_pathMatch (label : Label) {m : List Char → ℕ}
    (hm : ∀ d t, isStop d = true → m (d :: t) = 0) :
    Seen '[' ']' label.text m pathMatch := by
  intro s hmatch
  rcases pathMatch_ne_zero_iff.1 hmatch with hdrive | hunc
  · obtain ⟨d, b, rfl, hd⟩ := driveMatch_ne_zero_iff.1 hdrive
    refine ⟨_, b, rfl, List.cons_ne_nil _ _, ?_, ?_, ?_, ?_⟩
    · rintro hmem
      have : '[' = d := by simpa using hmem
      exact absurd (this ▸ hd) (by decide)
    · rintro hmem
      have : ']' = d := by simpa using hmem
      exact absurd (this ▸ hd) (by decide)
    · exact fun hin => not_mem_text (d := ':') (by decide) label (hin.subset (by simp))
    · exact fun b' _ => pathMatch_ne_zero_iff.2 (.inl (driveMatch_ne_zero_iff.2 ⟨d, b', rfl, hd⟩))
  · obtain ⟨d, b, rfl, hd⟩ := uncMatch_ne_zero_iff.1 hunc
    refine ⟨['\\', '\\'], d :: b, rfl, List.cons_ne_nil _ _, by decide, by decide, ?_, ?_⟩
    · exact fun hin => not_mem_text (d := '\\') (by decide) label (hin.subset (by simp))
    · intro b' hb
      cases b' with
      | nil => exact absurd hb (List.cons_ne_nil _ _)
      | cons e b' =>
        have he : isStop e = false := by
          by_contra hstop
          rw [replaceAll_cons_of_eq_zero (hm e b' (by simpa using hstop))] at hb
          exact hstop ((List.cons.inj hb).1 ▸ hd)
        exact pathMatch_ne_zero_iff.2 (.inr (uncMatch_ne_zero_iff.2 ⟨e, b', rfl, he⟩))

theorem isAlpha_of_isStop {d : Char} (hd : isStop d = true) : d.isAlpha = false := by
  have hnone : stops.all (!·.isAlpha) = true := by decide
  simpa using List.all_eq_true.1 hnone d (List.contains_iff_mem.1 hd)

theorem matchCI_of_stop {n : List Char} (hn : ∀ c ∈ n.head?, isStop c = false) {d : Char}
    (hd : isStop d = true) (t : List Char) : matchCI n (d :: t) = 0 := by
  by_contra hmatch
  obtain ⟨hne, w, b, hw, hlower⟩ := matchCI_ne_zero_iff.1 hmatch
  obtain ⟨c, n, rfl⟩ := List.exists_cons_of_ne_nil hne
  obtain ⟨x, w, rfl⟩ := List.exists_cons_of_ne_nil (l := w) (by rintro rfl; simp [lower] at hlower)
  obtain rfl := (List.cons.inj hw).1
  have hletter := isAlpha_of_isStop hd
  have hc : c = d := (toLower_eq_iff hletter).1 <|
    (List.cons.inj hlower).1.symm.trans ((toLower_eq_iff hletter).2 rfl)
  exact absurd (hn c rfl) (by simp [hc, hd])

theorem pathMatch_of_stop {d : Char} (hd : isStop d = true) (t : List Char) :
    pathMatch (d :: t) = 0 := by
  by_contra hmatch
  rcases pathMatch_ne_zero_iff.1 hmatch with hdrive | hunc
  · obtain ⟨e, b, hb, he⟩ := driveMatch_ne_zero_iff.1 hdrive
    obtain rfl := (List.cons.inj hb).1
    exact absurd he (by simp [isAlpha_of_isStop hd])
  · obtain ⟨e, b, hb, -⟩ := uncMatch_ne_zero_iff.1 hunc
    exact absurd ((List.cons.inj hb).1 ▸ hd) (by decide)

theorem replaceAllCI_eq (haystack needle replacement : List Char) :
    replaceAllCI haystack needle replacement =
      replaceAll (matchCI needle) replacement haystack := by
  unfold replaceAllCI
  split
  next h =>
    refine (replaceAll_of_free (free_matchCI_iff.2 fun hne => ?_)).symm
    exact absurd (List.isEmpty_iff.1 h) hne
  next => rfl

/-- A value that could not be read is looked for in vain. -/
theorem pass_eq (n result : List Char) (label : Label) :
    (if n.isEmpty then result else replaceAllCI result n label.replacement) =
      replaceAll (matchCI n) label.replacement result := by
  rw [← replaceAllCI_eq, replaceAllCI]
  split <;> rfl

theorem scrubString_eq (cache : SensitiveValueCache) (input : List Char) :
    scrubString cache input =
      replaceAll (matchCI cache.machineName) Label.machine.replacement
        (replaceAll (matchCI cache.username) Label.user.replacement
          (stripWindowsPaths
            (replaceAll (matchCI cache.userprofile) Label.path.replacement input))) := by
  cases input with
  | nil => rfl
  | cons c input =>
    simp only [scrubString, List.isEmpty_cons, pass_eq, Bool.false_eq_true, if_false]

theorem scrubString_of_clean {cache : SensitiveValueCache} {t : List Char} (ht : Clean cache t) :
    scrubString cache t = t := by
  obtain ⟨hprofile, huser, hmachine⟩ := SensitiveValueCache.forall_values.1 fun n hn =>
    free_matchCI_iff.2 (ht.values n hn)
  rw [scrubString_eq, stripWindowsPaths, replaceAll_of_free hprofile,
    replaceAll_of_free (free_pathMatch_iff.2 ht.path), replaceAll_of_free huser,
    replaceAll_of_free hmachine]

theorem clean_scrubString {cache : SensitiveValueCache} (hcache : cache.Telling)
    (input : List Char) : Clean cache (scrubString cache input) := by
  obtain ⟨hprofile, huser, hmachine⟩ := SensitiveValueCache.forall_values.1 hcache.values
  have hstop {n : List Char} (hn : ∀ c ∈ n.head?, isStop c = false) (label : Label) :
      Seen '[' ']' label.text (matchCI n) pathMatch :=
    seen_pathMatch label fun _ t hd => matchCI_of_stop hn hd t
  rw [scrubString_eq]
  set t₁ := replaceAll (matchCI cache.userprofile) Label.path.replacement input
  set t₂ := stripWindowsPaths t₁
  set t₃ := replaceAll (matchCI cache.username) Label.user.replacement t₂
  -- each pass clears its own matches, and every later pass keeps them away
  have hprofile₃ : Free (matchCI cache.userprofile) t₃ :=
    (seen_matchCI hprofile .user _).replaceAll_keeps <|
      (seen_matchCI hprofile .path pathMatch).replaceAll_keeps
        (seen_matchCI hprofile .path _).replaceAll_clears
  have hpath₂ : Free pathMatch t₂ :=
    (seen_pathMatch .path fun _ t hd => pathMatch_of_stop hd t).replaceAll_clears
  have hpath₃ : Free pathMatch t₃ := (hstop hcache.username .user).replaceAll_keeps hpath₂
  have huser₃ : Free (matchCI cache.username) t₃ := (seen_matchCI huser .user _).replaceAll_clears
  constructor
  · simp only [← free_matchCI_iff]
    exact SensitiveValueCache.forall_values.2
      ⟨(seen_matchCI hprofile .machine _).replaceAll_keeps hprofile₃,
        (seen_matchCI huser .machine _).replaceAll_keeps huser₃,
        (seen_matchCI hmachine .machine _).replaceAll_clears⟩
  · exact free_pathMatch_iff.1 ((hstop hcache.machineName .machine).replaceAll_keeps hpath₃)

/-- What the scrubber returns holds none of the known values, in any case, and no path, and a second
    pass leaves it as it is. Just the texts that are so already it returns unchanged. -/
theorem scrubbed_is_clean {cache : SensitiveValueCache} (hcache : cache.Telling)
    (input : List Char) :
    Clean cache (scrubString cache input) ∧
      scrubString cache (scrubString cache input) = scrubString cache input ∧
      (scrubString cache input = input ↔ Clean cache input) := by
  have hclean := clean_scrubString hcache input
  exact ⟨hclean, scrubString_of_clean hclean, fun h => h ▸ hclean, scrubString_of_clean⟩

theorem scrubbed_is_clean_saved :
    ∃ cache input, scrubString cache input = "[user] on [machine]: [path]\\a.mkv, [path]".toList ∧
      Clean cache (scrubString cache input) := by
  refine ⟨⟨"C:\\Users\\Ada Lo".toList, "Ada Lo".toList, "ADA-PC".toList⟩,
    "ada lo on ada-pc: c:\\users\\ada lo\\a.mkv, \\\\nas\\ada".toList, by decide +kernel,
    (scrubbed_is_clean ⟨?_, ?_, ?_⟩ _).1⟩
  · exact SensitiveValueCache.forall_values.2
      ⟨⟨by decide, by decide, fun _ label => by cases label <;> decide⟩,
        ⟨by decide, by decide, fun _ label => by cases label <;> decide⟩,
        ⟨by decide, by decide, fun _ label => by cases label <;> decide⟩⟩
  · rintro c ⟨⟩
    decide
  · rintro c ⟨⟩
    decide

/-- A name that is in a placeholder is found there. -/
example : scrubString { username := "Pat".toList } "in C:\\a.mkv".toList =
    "in [[user]h]".toList := by decide +kernel

end CrashScrubber

end Exosnap.Diagnostics
