/-
  The session sidecar (`crash_capture.cpp`), by which a launch learns that the session before it
  never marked a clean exit, and the launches that read and write it.

  A file that is opened as text is the text it reads as: its line end is one character, and it ends
  at a Ctrl-Z. A write fails and leaves the file, or it is cut short, or it is whole. The crash
  directory is always known. Sentry, its consent and its tags are left out.
-/
import Exosnap.Diagnostics.CrashScrubber
import Exosnap.Lib.FirstOccurrence
import Exosnap.Lib.StepRun
import Mathlib.Data.List.TakeWhile

namespace Exosnap.Diagnostics

namespace CrashSession

open CrashScrubber FirstOccurrence

structure SessionContext where
  appVersion : List Char := []
  encoderBackend : List Char := []
  container : List Char := []
  videoCodec : List Char := []
  audioCodec : List Char := []
  deriving DecidableEq

def escapeChar : Char → List Char
  | '\x22' => ['\\', '\x22']
  | '\\' => ['\\', '\\']
  | '\n' => ['\\', 'n']
  | '\r' => ['\\', 'r']
  | '\t' => ['\\', 't']
  | c => [c]

def jsonEscape (s : List Char) : List Char := s.flatMap escapeChar

def unescapeChar : Char → Char
  | 'n' => '\n'
  | 'r' => '\r'
  | 't' => '\t'
  | c => c

/-- The loop of `JsonFindString` behind the opening quote. -/
def readString : List Char → Option (List Char)
  | [] => none
  | '\x22' :: _ => some []
  | '\\' :: n :: t => (readString t).map (unescapeChar n :: ·)
  | c :: t => (readString t).map (c :: ·)

def jsonFindString (doc key : List Char) : Option (List Char) := do
  let behindKey ← afterFirst (keyed '\x22' key []) doc
  let behindColon ← afterFirst [':'] behindKey
  let behindQuote ← afterFirst ['\x22'] behindColon
  readString behindQuote

def SessionContext.scrubbed (cache : SensitiveValueCache) (ctx : SessionContext) :
    SessionContext where
  appVersion := scrubString cache ctx.appVersion
  encoderBackend := scrubString cache ctx.encoderBackend
  container := scrubString cache ctx.container
  videoCodec := scrubString cache ctx.videoCodec
  audioCodec := scrubString cache ctx.audioCodec

def SessionContext.fields (ctx : SessionContext) : List (List Char × List Char) :=
  [("app_version".toList, ctx.appVersion), ("encoder_backend".toList, ctx.encoderBackend),
    ("container".toList, ctx.container), ("video_codec".toList, ctx.videoCodec),
    ("audio_codec".toList, ctx.audioCodec)]

/-- `,"key":"value"` -/
def fieldText (field : List Char × List Char) : List Char :=
  ',' :: keyed '\x22' field.1 (':' :: keyed '\x22' (jsonEscape field.2) [])

/-- What `WriteSession` writes, its values being scrubbed. -/
def sessionText (ctx : SessionContext) (cleanExit : Bool) : List Char :=
  '{' :: keyed '\x22' "clean_exit".toList
    (':' :: (if cleanExit then "true".toList else "false".toList) ++
      (ctx.fields.flatMap fieldText ++ ['}', '\n']))

/-- A file that is read as text. -/
def readText (file : List Char) : List Char := file.takeWhile (· ≠ '\x1a')

def readFields (doc : List Char) : SessionContext where
  appVersion := (jsonFindString doc "app_version".toList).getD []
  encoderBackend := (jsonFindString doc "encoder_backend".toList).getD []
  container := (jsonFindString doc "container".toList).getD []
  videoCodec := (jsonFindString doc "video_codec".toList).getD []
  audioCodec := (jsonFindString doc "audio_codec".toList).getD []

/-- `"clean_exit":false` -/
def crashFlag : List Char := keyed '\x22' "clean_exit".toList ":false".toList

def readPreviousCrashContext (disk : Option (List Char)) : Option SessionContext :=
  disk.bind fun file =>
    let doc := readText file
    if (afterFirst crashFlag doc).isSome then some (readFields doc) else none

/-! ## Reading back what was written -/

theorem readString_jsonEscape (v t : List Char) :
    readString (jsonEscape v ++ '\x22' :: t) = some v := by
  induction v with
  | nil => rfl
  | cons c v ih =>
    rw [jsonEscape, List.flatMap_cons, List.append_assoc, ← jsonEscape]
    unfold escapeChar
    split <;> simp_all [readString, unescapeChar]

theorem readString_mono {s t v : List Char} (hs : s <+: t) (h : readString s = some v) :
    readString t = some v := by
  obtain ⟨z, rfl⟩ := hs
  fun_induction readString s generalizing v with
  | case1 => cases h
  | case2 => exact h
  | case3 n t ih =>
    obtain ⟨u, hu, rfl⟩ := Option.map_eq_some_iff.1 h
    simp [readString, ih hu]
  | case4 c t hquote hslash ih =>
    obtain ⟨u, hu, rfl⟩ := Option.map_eq_some_iff.1 h
    -- a backslash that ends the text is not the text's last letter, since a quote closes the value
    have hc : c ≠ '\\' := by
      rintro rfl
      cases t with
      | nil => cases hu
      | cons n t => exact hslash n t rfl rfl
    simp [readString, hc, ih hu]

theorem jsonFindString_mono {s t key v : List Char} (hs : s <+: t)
    (h : jsonFindString s key = some v) : jsonFindString t key = some v := by
  simp only [jsonFindString, Option.bind_eq_bind, Option.bind_eq_some_iff] at h ⊢
  obtain ⟨r₁, h₁, r₂, h₂, r₃, h₃, hv⟩ := h
  obtain ⟨r₁', h₁', hr₁⟩ := afterFirst_mono hs h₁
  obtain ⟨r₂', h₂', hr₂⟩ := afterFirst_mono hr₁ h₂
  obtain ⟨r₃', h₃', hr₃⟩ := afterFirst_mono hr₂ h₃
  exact ⟨r₁', h₁', r₂', h₂', r₃', h₃', readString_mono hr₃ hv⟩

/-- A name that may stand as a key: letters and underscores. -/
def IsKey (k : List Char) : Prop := ∀ c ∈ k, (c.isAlpha || c == '_') = true

instance : DecidablePred IsKey := fun k => List.decidableBAll _ k

theorem IsKey.notMem {k : List Char} (hk : IsKey k) {c : Char}
    (hc : (c.isAlpha || c == '_') = false) : c ∉ k :=
  fun hmem => by simp [hk c hmem] at hc

theorem IsKey.ne_of_mem {k p : List Char} (hk : IsKey k) {c : Char} (hmem : c ∈ p)
    (hc : (c.isAlpha || c == '_') = false) : p ≠ k :=
  fun heq => hk.notMem hc (heq ▸ hmem)

theorem IsKey.jsonEscape_eq {k : List Char} (hk : IsKey k) : jsonEscape k = k := by
  induction k with
  | nil => rfl
  | cons c k ih =>
    obtain ⟨hc, hk⟩ := List.forall_mem_cons.1 hk
    rw [jsonEscape, List.flatMap_cons, ← jsonEscape, ih hk]
    unfold escapeChar
    split <;> first | rfl | exact absurd hc (by decide)

theorem notMem_jsonEscape {d : Char} {u : List Char} (hd : d ∉ ['\\', 'n', 'r', 't'])
    (hu : d ∉ u) : d ∉ jsonEscape u := by
  intro hmem
  obtain ⟨c, hc, hin⟩ := List.mem_flatMap.1 hmem
  have hne : d ≠ c := fun heq => hu (heq ▸ hc)
  unfold escapeChar at hin
  split at hin <;> simp_all

theorem jsonEscape_injective {u v : List Char} (h : jsonEscape u = jsonEscape v) : u = v :=
  Option.some.inj <| by rw [← readString_jsonEscape u [], h, readString_jsonEscape]

/-- A value is passed over by the search for a key that does not stand in it behind the last quote,
    or is not followed there as it is looked for. -/
theorem afterFirst_value {k w t : List Char} (hk : IsKey k) {u v : List Char} (hu : '\x22' ∉ u)
    (hkey : ('\x22' :: k) <:+ ('\x22' :: (u ++ v)) → ¬ w <+: t) :
    afterFirst (keyed '\x22' k w) (keyed '\x22' (jsonEscape u ++ jsonEscape v) t) =
      afterFirst (keyed '\x22' k w) ('\x22' :: t) := by
  have hquote : '\x22' ∉ k := hk.notMem (by decide)
  -- `u` is the value since the last quote
  induction v generalizing u with
  | nil =>
    have hpiece : jsonEscape u ++ jsonEscape [] = jsonEscape u := List.append_nil _
    rw [hpiece]
    refine afterFirst_keyed_of_ne hquote (notMem_jsonEscape (by decide) hu) fun heq => hkey ?_
    obtain rfl := jsonEscape_injective (heq.trans hk.jsonEscape_eq.symm)
    rw [List.append_nil]
  | cons c v ih =>
    by_cases hc : c = '\x22'
    · subst hc
      have hsplit : keyed '\x22' (jsonEscape u ++ jsonEscape ('\x22' :: v)) t =
          keyed '\x22' (jsonEscape u ++ ['\\']) (jsonEscape v ++ '\x22' :: t) := by
        simp [keyed, jsonEscape, escapeChar]
      have hpiece : '\x22' ∉ jsonEscape u ++ ['\\'] := by
        simp [notMem_jsonEscape (by decide) hu]
      have hslash : jsonEscape u ++ ['\\'] ≠ k :=
        hk.ne_of_mem (c := '\\') (by simp) (by decide)
      rw [hsplit, afterFirst_keyed_of_ne hquote hpiece (fun heq => absurd heq hslash)]
      exact ih (u := []) (by simp) fun hsuffix => hkey (hsuffix.trans ⟨'\x22' :: u, by simp⟩)
    · have hnext : jsonEscape u ++ jsonEscape (c :: v) =
          jsonEscape (u ++ [c]) ++ jsonEscape v := by
        simp [jsonEscape]
      rw [hnext]
      exact ih (by simp [hu, Ne.symm hc]) (by simpa using hkey)

/-- A field is passed over by the search for another key. -/
theorem afterFirst_field {k w t p : List Char} {field : List Char × List Char} (hk : IsKey k)
    (hp : '\x22' ∉ p) (hfield : IsKey field.1) (hne : field.1 ≠ k)
    (hkey : ('\x22' :: k) <:+ ('\x22' :: field.2) → ¬ w <+: t) :
    afterFirst (keyed '\x22' k w) ('\x22' :: (p ++ (fieldText field ++ t))) =
      afterFirst (keyed '\x22' k w) ('\x22' :: t) := by
  have hquote : '\x22' ∉ k := hk.notMem (by decide)
  have hcomma : p ++ [','] ≠ k := hk.ne_of_mem (c := ',') (by simp) (by decide)
  have hcolon : [':'] ≠ k := hk.ne_of_mem (c := ':') (by simp) (by decide)
  have hsplit : '\x22' :: (p ++ (fieldText field ++ t)) =
      keyed '\x22' (p ++ [',']) (keyed '\x22' field.1
        (':' :: keyed '\x22' (jsonEscape [] ++ jsonEscape field.2) t)).tail := by
    simp [keyed, fieldText, jsonEscape]
  rw [hsplit, afterFirst_keyed_of_ne hquote (by simp [hp]) (fun heq => absurd heq hcomma)]
  refine (afterFirst_keyed_of_ne hquote (hfield.notMem (by decide))
    fun heq => absurd heq hne).trans ?_
  refine (afterFirst_keyed_of_ne hquote (by decide) fun heq => absurd heq hcolon).trans ?_
  exact afterFirst_value hk (by simp) (by simpa using hkey)

/-- The search for a key ends at its field, where no value before it ends in the key. -/
theorem afterFirst_fields {k v t p : List Char} {before : List (List Char × List Char)}
    (hk : IsKey k) (hp : '\x22' ∉ p) (hkeys : ∀ field ∈ before, IsKey field.1 ∧ field.1 ≠ k)
    (hvalues : ∀ field ∈ before, ¬ ('\x22' :: k) <:+ ('\x22' :: field.2)) :
    afterFirst (keyed '\x22' k [])
        ('\x22' :: (p ++ (before.flatMap fieldText ++ (fieldText (k, v) ++ t)))) =
      some (':' :: keyed '\x22' (jsonEscape v) t) := by
  induction before generalizing p with
  | nil =>
    have hcomma : p ++ [','] ≠ k := hk.ne_of_mem (c := ',') (by simp) (by decide)
    have hsplit : '\x22' :: (p ++ (([] : List _).flatMap fieldText ++ (fieldText (k, v) ++ t))) =
        keyed '\x22' (p ++ [',']) (k ++ '\x22' :: (':' :: keyed '\x22' (jsonEscape v) t)) := by
      simp [keyed, fieldText]
    rw [hsplit, afterFirst_keyed_of_ne (hk.notMem (by decide)) (by simp [hp])
      (fun heq => absurd heq hcomma)]
    have hself := afterFirst_append (keyed '\x22' k []) (':' :: keyed '\x22' (jsonEscape v) t)
    simpa [keyed] using hself
  | cons field before ih =>
    obtain ⟨⟨hfield, hne⟩, hkeys⟩ := List.forall_mem_cons.1 hkeys
    obtain ⟨hvalue, hvalues⟩ := List.forall_mem_cons.1 hvalues
    rw [List.flatMap_cons, List.append_assoc,
      afterFirst_field hk hp hfield hne (fun hsuffix => absurd hsuffix hvalue)]
    exact ih (p := []) (by simp) hkeys hvalues

/-- What follows a value is the next field or the end, and never a flag. -/
theorem afterFirst_crashFlag {p : List Char} {fields : List (List Char × List Char)}
    (hp : '\x22' ∉ p)
    (hkeys : ∀ field ∈ fields, IsKey field.1 ∧ field.1 ≠ "clean_exit".toList) :
    afterFirst crashFlag ('\x22' :: (p ++ (fields.flatMap fieldText ++ ['}', '\n']))) = none := by
  induction fields generalizing p with
  | nil => exact afterFirst_keyed_last (by simp [hp])
  | cons field fields ih =>
    obtain ⟨⟨hfield, hne⟩, hkeys⟩ := List.forall_mem_cons.1 hkeys
    have hnext : ¬ ":false".toList <+: fields.flatMap fieldText ++ ['}', '\n'] := by
      cases fields with
      | nil => decide
      | cons f fields => exact fun hflag => by simp [fieldText] at hflag
    rw [crashFlag, List.flatMap_cons, List.append_assoc,
      afterFirst_field (by decide) hp hfield hne fun _ => hnext]
    exact ih (p := []) (by simp) hkeys

theorem keys_eq (ctx : SessionContext) :
    ctx.fields.map Prod.fst = ({} : SessionContext).fields.map Prod.fst := rfl

theorem isKey_of_mem {ctx : SessionContext} {field : List Char × List Char}
    (h : field ∈ ctx.fields) : IsKey field.1 ∧ field.1 ≠ "clean_exit".toList := by
  have hall : ∀ k ∈ ({} : SessionContext).fields.map Prod.fst,
      IsKey k ∧ k ≠ "clean_exit".toList := by decide +kernel
  exact hall _ (keys_eq ctx ▸ List.mem_map_of_mem h)

/-- No value ends, behind a quote or as a whole, in one of the keys. -/
def NoKey (ctx : SessionContext) : Prop :=
  ∀ field ∈ ctx.fields, ∀ other ∈ ctx.fields,
    ¬ ('\x22' :: other.1) <:+ ('\x22' :: field.2)

instance : DecidablePred NoKey := fun ctx =>
  inferInstanceAs (Decidable (∀ field ∈ ctx.fields, ∀ other ∈ ctx.fields, _))

theorem jsonFindString_sessionText {ctx : SessionContext} (hctx : NoKey ctx) (cleanExit : Bool)
    {k v : List Char} {before after : List (List Char × List Char)}
    (h : ctx.fields = before ++ (k, v) :: after) :
    jsonFindString (sessionText ctx cleanExit) k = some v := by
  have hmem : (k, v) ∈ ctx.fields := by simp [h]
  have hbefore {field : List Char × List Char} (hfield : field ∈ before) : field ∈ ctx.fields := by
    simp [h, hfield]
  obtain ⟨hk, hclean⟩ := isKey_of_mem hmem
  have hnodup : (ctx.fields.map Prod.fst).Nodup := by
    rw [keys_eq]
    decide +kernel
  have hkeys : ∀ field ∈ before, IsKey field.1 ∧ field.1 ≠ k := fun field hfield => by
    refine ⟨(isKey_of_mem (hbefore hfield)).1, ?_⟩
    rw [h, List.map_append, List.nodup_append] at hnodup
    exact hnodup.2.2 _ (List.mem_map_of_mem hfield) _ (by simp)
  have hflag : '\x22' ∉ (':' :: if cleanExit then "true".toList else "false".toList) := by
    cases cleanExit <;> decide +kernel
  have hfound := afterFirst_fields (v := v) (t := after.flatMap fieldText ++ ['}', '\n']) hk hflag
    hkeys fun field hfield => hctx field (hbefore hfield) (k, v) hmem
  have hdoc : afterFirst (keyed '\x22' k []) (sessionText ctx cleanExit) =
      some (':' :: keyed '\x22' (jsonEscape v) (after.flatMap fieldText ++ ['}', '\n'])) := by
    have hskip := afterFirst_skip (q := '\x22') (w := k ++ ['\x22']) (p := ['{'])
      (t := keyed '\x22' "clean_exit".toList
        (':' :: (if cleanExit then "true".toList else "false".toList) ++
          (ctx.fields.flatMap fieldText ++ ['}', '\n']))) (by decide)
    refine hskip.trans ((afterFirst_keyed_of_ne (w := []) (hk.notMem (by decide)) (by decide)
      fun heq => absurd heq.symm hclean).trans ?_)
    rw [← hfound, h]
    simp
  simp only [jsonFindString, hdoc, Option.bind_eq_bind, Option.bind_some]
  rw [show ':' :: keyed '\x22' (jsonEscape v) (after.flatMap fieldText ++ ['}', '\n']) =
    [':'] ++ (['\x22'] ++ (jsonEscape v ++ '\x22' :: (after.flatMap fieldText ++ ['}', '\n'])))
    from rfl, afterFirst_append, Option.bind_some, afterFirst_append, Option.bind_some,
    readString_jsonEscape]

theorem readFields_sessionText {ctx : SessionContext} (hctx : NoKey ctx) (cleanExit : Bool) :
    readFields (sessionText ctx cleanExit) = ctx := by
  have hfind {k v : List Char} (before : List (List Char × List Char)) {after}
      (h : ctx.fields = before ++ (k, v) :: after) :
      jsonFindString (sessionText ctx cleanExit) k = some v :=
    jsonFindString_sessionText hctx cleanExit h
  simp only [readFields, hfind [] rfl, hfind [_] rfl, hfind [_, _] rfl, hfind [_, _, _] rfl,
    hfind [_, _, _, _] rfl, Option.getD_some]

/-- A container that is named like a key is taken for it, and the value behind is read. -/
example : jsonFindString
    (sessionText { container := "audio_codec".toList, videoCodec := "AV1".toList } false)
    "audio_codec".toList = some "AV1".toList := by decide +kernel

/-- Every field is the other's or empty. -/
def SessionContext.Within (got ctx : SessionContext) : Prop :=
  List.Forall₂ (fun g f => g.2 = [] ∨ g = f) got.fields ctx.fields

theorem readFields_within {s t : List Char} (hs : s <+: t) :
    (readFields s).Within (readFields t) := by
  have hfield : ∀ key, (jsonFindString s key).getD [] = [] ∨
      (key, (jsonFindString s key).getD []) = (key, (jsonFindString t key).getD []) := by
    intro key
    cases hfound : jsonFindString s key with
    | none => exact .inl rfl
    | some v => exact .inr (by rw [jsonFindString_mono hs hfound])
  exact .cons (hfield _) (.cons (hfield _) (.cons (hfield _) (.cons (hfield _)
    (.cons (hfield _) .nil))))

theorem afterFirst_crashFlag_sessionText_true (ctx : SessionContext) :
    afterFirst crashFlag (sessionText ctx true) = none := by
  have hskip := afterFirst_skip (q := '\x22') (w := crashFlag.tail) (p := ['{'])
    (t := keyed '\x22' "clean_exit".toList
      (":true".toList ++ (ctx.fields.flatMap fieldText ++ ['}', '\n']))) (by decide)
  refine hskip.trans ((afterFirst_keyed_of_ne (by decide) (by decide) fun _ hflag => ?_).trans ?_)
  · simp at hflag
  · exact afterFirst_crashFlag (by decide) fun field hfield => isKey_of_mem hfield

theorem afterFirst_crashFlag_sessionText_false (ctx : SessionContext) :
    (afterFirst crashFlag (sessionText ctx false)).isSome = true := by
  have hskip := afterFirst_skip (q := '\x22') (w := crashFlag.tail) (p := ['{'])
    (t := crashFlag ++ (ctx.fields.flatMap fieldText ++ ['}', '\n'])) (by decide)
  have hfound := hskip.trans (afterFirst_append crashFlag _)
  exact Option.isSome_iff_exists.2 ⟨_, hfound⟩

/-! ## What a file tells -/

theorem readText_prefix_of {file t : List Char} (h : file <+: t) : readText file <+: t :=
  List.takeWhile_prefix _ |>.trans h

theorem readPrevious_of_clean {ctx : SessionContext} {file : List Char}
    (hfile : file <+: sessionText ctx true) : readPreviousCrashContext (some file) = none := by
  have hnone : afterFirst crashFlag (readText file) = none := by
    by_contra hfound
    obtain ⟨r, hr⟩ := Option.ne_none_iff_exists'.1 hfound
    obtain ⟨r', hr', -⟩ := afterFirst_mono (readText_prefix_of hfile) hr
    rw [afterFirst_crashFlag_sessionText_true] at hr'
    cases hr'
  simp [readPreviousCrashContext, hnone]

theorem readPrevious_within {ctx got : SessionContext} {file : List Char} (hctx : NoKey ctx)
    (hfile : file <+: sessionText ctx false)
    (hgot : readPreviousCrashContext (some file) = some got) : got.Within ctx := by
  simp only [readPreviousCrashContext, Option.bind_some] at hgot
  split at hgot
  next =>
    obtain rfl := Option.some.inj hgot
    rw [← readFields_sessionText hctx false]
    exact readFields_within (readText_prefix_of hfile)
  next => cases hgot

/-- No value cuts the file short. -/
def NoCut (ctx : SessionContext) : Prop := ∀ field ∈ ctx.fields, '\x1a' ∉ field.2

instance : DecidablePred NoCut := fun ctx => inferInstanceAs (Decidable (∀ field ∈ ctx.fields, _))

theorem readText_sessionText {ctx : SessionContext} (hctx : NoCut ctx) :
    readText (sessionText ctx false) = sessionText ctx false := by
  have hfield : ∀ field ∈ ctx.fields, '\x1a' ∉ fieldText field := fun field hmem => by
    have hkey := (isKey_of_mem hmem).1.notMem (c := '\x1a') (by decide)
    have hvalue := notMem_jsonEscape (by decide) (hctx field hmem)
    simp [fieldText, keyed, hkey, hvalue]
  have hnone : '\x1a' ∉ sessionText ctx false := by
    simpa [sessionText, keyed] using fun key value hmem => hfield (key, value) hmem
  refine List.takeWhile_eq_self_iff.2 fun c hc => ?_
  simpa using ne_of_mem_of_not_mem hc hnone

theorem readPrevious_whole {ctx : SessionContext} (hkey : NoKey ctx) (hcut : NoCut ctx) :
    readPreviousCrashContext (some (sessionText ctx false)) = some ctx := by
  simp [readPreviousCrashContext, readText_sessionText hcut,
    afterFirst_crashFlag_sessionText_false, readFields_sessionText hkey]

/-! ## The launches -/

/-- What became of a write: a torn one leaves the first `n` characters. -/
inductive Written where
  | failed
  | torn (n : ℕ)
  | whole

/-- The file, and what was written last: the context, unless a clean exit was marked by it, and
    whether it was cut short. -/
structure Sidecar where
  disk : Option (List Char) := none
  unmarked : Option SessionContext := none
  torn : Bool := false

def Sidecar.writeSession (cache : SensitiveValueCache) (sidecar : Sidecar) (ctx : SessionContext)
    (cleanExit : Bool) : Written → Sidecar
  | .failed => sidecar
  | .torn n =>
      { disk := some ((sessionText (ctx.scrubbed cache) cleanExit).take n)
        unmarked := if cleanExit then none else some ctx
        torn := true }
  | .whole =>
      { disk := some (sessionText (ctx.scrubbed cache) cleanExit)
        unmarked := if cleanExit then none else some ctx
        torn := false }

/-- The fields are read from the file there is, where it can be opened. -/
def Sidecar.markCleanExit (cache : SensitiveValueCache) (sidecar : Sidecar) (readable : Bool) :
    Written → Sidecar :=
  let ctx :=
    match sidecar.disk with
    | some file => if readable then readFields (readText file) else {}
    | none => {}
  sidecar.writeSession cache ctx true

inductive Phase where
  | off
  | bootstrapped
  | running
  deriving DecidableEq

/-- The process that is up, if any, and what the processes before it have left. -/
structure Launches where
  phase : Phase := .off
  pendingCrash : Option SessionContext := none
  sidecar : Sidecar := {}

inductive Action where
  /-- `ProductionBootstrap::InitializeCrashCapture` -/
  | initializeCrashCapture
  /-- `QuickApplication::initializeCrashSession` -/
  | initializeCrashSession (ctx : SessionContext) (begun refreshed : Written)
  | refreshCrashSessionContext (ctx : SessionContext) (written : Written)
  /-- `ProductionBootstrap::Shutdown` -/
  | shutdown (readable : Bool) (written : Written)
  | die

def step (cache : SensitiveValueCache) (s : Launches) : Action → Option Launches
  | .initializeCrashCapture =>
      if s.phase = .off then some { s with phase := .bootstrapped } else none
  | .initializeCrashSession ctx begun refreshed =>
      if s.phase = .bootstrapped then
        some
          { phase := .running
            pendingCrash := readPreviousCrashContext s.sidecar.disk
            sidecar := (s.sidecar.writeSession cache ctx false begun).writeSession cache ctx false
              refreshed }
      else none
  | .refreshCrashSessionContext ctx written =>
      if s.phase = .running then
        some { s with sidecar := s.sidecar.writeSession cache ctx false written }
      else none
  | .shutdown readable written =>
      if s.phase = .off then none
      else some { sidecar := s.sidecar.markCleanExit cache readable written }
  | .die => if s.phase = .off then none else some { sidecar := s.sidecar }

abbrev exec (cache : SensitiveValueCache) : Launches → List Action → Option Launches :=
  StepRun.exec (step cache)

/-- The file holds what was written last, or the beginning of it. -/
def Faithful (cache : SensitiveValueCache) (sidecar : Sidecar) : Prop :=
  match sidecar.unmarked with
  | none => ∀ file ∈ sidecar.disk, ∃ ctx, file <+: sessionText ctx true
  | some ctx =>
      ∃ file, sidecar.disk = some file ∧ file <+: sessionText (ctx.scrubbed cache) false ∧
        (sidecar.torn = false → file = sessionText (ctx.scrubbed cache) false)

section
variable {cache : SensitiveValueCache} {sidecar : Sidecar} {s s' : Launches} {as : List Action}

theorem Faithful.writeSession (h : Faithful cache sidecar) (ctx : SessionContext)
    (cleanExit : Bool) (written : Written) :
    Faithful cache (sidecar.writeSession cache ctx cleanExit written) := by
  cases written with
  | failed => exact h
  | torn n =>
    have hprefix := List.take_prefix n (sessionText (ctx.scrubbed cache) cleanExit)
    cases cleanExit with
    | true => exact fun file hfile => ⟨ctx.scrubbed cache, Option.some.inj hfile ▸ hprefix⟩
    | false => exact ⟨_, rfl, hprefix, fun hwhole => by cases hwhole⟩
  | whole =>
    have hprefix := List.prefix_refl (sessionText (ctx.scrubbed cache) cleanExit)
    cases cleanExit with
    | true => exact fun file hfile => ⟨ctx.scrubbed cache, Option.some.inj hfile ▸ hprefix⟩
    | false => exact ⟨_, rfl, hprefix, fun _ => rfl⟩

theorem Faithful.step {a : Action} (h : Faithful cache s.sidecar)
    (hstep : step cache s a = some s') : Faithful cache s'.sidecar := by
  cases a with
  | initializeCrashCapture =>
    obtain ⟨-, ⟨⟩⟩ := Option.ite_none_right_eq_some.1 hstep
    exact h
  | initializeCrashSession ctx begun refreshed =>
    obtain ⟨-, ⟨⟩⟩ := Option.ite_none_right_eq_some.1 hstep
    exact (h.writeSession ctx false begun).writeSession ctx false refreshed
  | refreshCrashSessionContext ctx written =>
    obtain ⟨-, ⟨⟩⟩ := Option.ite_none_right_eq_some.1 hstep
    exact h.writeSession ctx false written
  | shutdown readable written =>
    obtain ⟨-, ⟨⟩⟩ := Option.ite_none_left_eq_some.1 hstep
    exact h.writeSession _ true written
  | die =>
    obtain ⟨-, ⟨⟩⟩ := Option.ite_none_left_eq_some.1 hstep
    exact h

end

end CrashSession

end Exosnap.Diagnostics
