/-
  What becomes of an entry over any sequence of calls.

  The run keeps, beside the file, the entries that the calls' results say are there: added by an
  `Add` that returned true, with the flag of the last `UpdateFinalized` that returned true, and gone
  with a `Remove` that returned true. `Lossless` is what a call must meet for them to be there. A
  file that does not open looks like an empty one: `Add` then replaces the list by its one entry, and
  `UpdateFinalized` finds no entry and returns true.
-/
import Exosnap.Lib.StepRun
import Exosnap.Settings.RecoveryManifestStore

namespace Exosnap.Settings

/-- The file, what the results so far say it lists, and the ids that have been given out. -/
structure ManifestRun (τ : Type) where
  disk : Option τ
  expected : List RecoveryManifestEntry := []
  issued : List String

structure MutationCall where
  mutation : Mutation
  file : FileAccess := {}
  deriving DecidableEq, Repr

def flagged (id : String) (finalized : Bool) (e : RecoveryManifestEntry) : RecoveryManifestEntry :=
  if e.id = id then { e with finalized } else e

/-- What the results say is listed after a call that returned `ok`. -/
def expectedAfter (expected : List RecoveryManifestEntry) (ok : Bool) :
    Mutation → List RecoveryManifestEntry
  | .add entry => if ok then expected ++ [entry] else expected
  | .updateFinalized id finalized => if ok then expected.map (flagged id finalized) else expected
  | .remove id => if ok then expected.filter (·.id != id) else expected

/-- The ids given out after a call. -/
def issuedAfter (issued : List String) : Mutation → List String
  | .add entry => entry.id :: issued
  | _ => issued

/-- The id of an entry that is added is none that has been given out. -/
def fresh (issued : List String) : Mutation → Bool
  | .add entry => !issued.contains entry.id
  | _ => true

namespace ManifestRun

section
variable {τ : Type} (text : JsonText τ) (filePath : String)

/-- Over any file that is there already. -/
def start (disk : Option τ) : ManifestRun τ :=
  { disk, issued := (entries text filePath disk).map (·.id) }

/-- One call. An id is a random one, so a new entry's is fresh. -/
def step (s : ManifestRun τ) (call : MutationCall) : Option (ManifestRun τ) :=
  if fresh s.issued call.mutation then
    let result := mutate text filePath s.disk call.file call.mutation
    some
      { disk := result.2
        expected := expectedAfter s.expected result.1 call.mutation
        issued := issuedAfter s.issued call.mutation }
  else none

/-- The call does not run into a file that fails to open where that matters: an `Add` must not
    replace a list it could not read, nor an `UpdateFinalized` pass over an entry that still has the
    other flag. The entry that is added is one that its reader keeps. -/
def Lossless (s : ManifestRun τ) (call : MutationCall) : Prop :=
  match call.mutation with
  | .add entry =>
      Readable entry ∧
        (call.file.opens = true ∨ call.file.commits = false ∨ entries text filePath s.disk = [])
  | .updateFinalized id finalized =>
      call.file.opens = true ∨
        ∀ e ∈ entries text filePath s.disk, e.id = id → e.finalized = finalized
  | .remove _ => True

/-- Each expected entry is listed, as the only one with its id, and every listed id has been given
    out. -/
structure Kept (s : ManifestRun τ) : Prop where
  listed : ∀ e ∈ s.expected, (entries text filePath s.disk).filter (·.id = e.id) = [e]
  issued : ∀ e ∈ entries text filePath s.disk, e.id ∈ s.issued

end

/-! ## One call -/

section
variable {es : List RecoveryManifestEntry} {e f : RecoveryManifestEntry} {id key : String}
  {finalized : Bool}

@[simp] theorem id_flagged : (flagged id finalized e).id = e.id := by
  unfold flagged
  split <;> rfl

theorem flagged_eq_self (h : e.id = id → e.finalized = finalized) : flagged id finalized e = e := by
  unfold flagged
  split_ifs with hid
  · rw [← h hid]
  · rfl

theorem map_id_setFinalized (es : List RecoveryManifestEntry) :
    (setFinalized id finalized es).map (·.id) = es.map (·.id) := by
  induction es with
  | nil => rfl
  | cons e es ih =>
    unfold setFinalized
    split_ifs
    · rfl
    · rw [List.map_cons, ih, List.map_cons]

theorem readable_setFinalized (h : ∀ e ∈ es, Readable e) :
    ∀ e ∈ setFinalized id finalized es, Readable e := by
  induction es with
  | nil => exact h
  | cons e es ih =>
    obtain ⟨he, hes⟩ := List.forall_mem_cons.mp h
    unfold setFinalized
    split_ifs
    · refine List.forall_mem_cons.mpr ⟨?_, hes⟩
      exact ⟨he.id_ne, he.id_trimmed, he.artefact_ne, he.artefact_trimmed, he.container⟩
    · exact List.forall_mem_cons.mpr ⟨he, ih hes⟩

theorem filter_setFinalized_of_ne (hne : id ≠ key) (es : List RecoveryManifestEntry) :
    (setFinalized id finalized es).filter (·.id = key) = es.filter (·.id = key) := by
  induction es with
  | nil => rfl
  | cons e es ih =>
    unfold setFinalized
    split_ifs with hid
    · have hkey : e.id ≠ key := hid ▸ hne
      simp [hkey]
    · rw [List.filter_cons, List.filter_cons, ih]

/-- The only entry with an id gets the flag, and stays the only one. -/
theorem filter_setFinalized (h : es.filter (·.id = key) = [f]) :
    (setFinalized id finalized es).filter (·.id = key) = [flagged id finalized f] := by
  have hf : f.id = key := by
    have hmem : f ∈ es.filter (·.id = key) := by simp [h]
    simpa using (List.mem_filter.mp hmem).2
  by_cases hne : id = key
  · subst hne
    induction es with
    | nil => exact nomatch h
    | cons e es ih =>
      unfold setFinalized
      split_ifs with hid
      · rw [List.filter_cons_of_pos (by simpa using hid)] at h
        obtain ⟨rfl, hrest⟩ := List.cons.inj h
        rw [List.filter_cons_of_pos (by simpa using hid), hrest, flagged, if_pos hid]
      · rw [List.filter_cons_of_neg (by simpa using hid)] at h
        rw [List.filter_cons_of_neg (by simpa using hid)]
        exact ih h
  · rw [filter_setFinalized_of_ne hne, h, flagged_eq_self fun hid => absurd (hid.symm.trans hf) hne]

end

section
variable {τ : Type} {text : JsonText τ} {filePath : String} {disk : Option τ} {file : FileAccess}
  {s s' : ManifestRun τ} {call : MutationCall}

theorem Kept.mem (h : Kept text filePath s) {e : RecoveryManifestEntry} (he : e ∈ s.expected) :
    e ∈ entries text filePath s.disk := by
  have hmem : e ∈ (entries text filePath s.disk).filter (·.id = e.id) := by simp [h.listed e he]
  exact (List.mem_filter.mp hmem).1

/-- An `Add` that succeeds and did not miss the list puts its entry at the end. -/
theorem entries_add {entry : RecoveryManifestEntry} (hreadable : Readable entry)
    (hsafe : file.opens = true ∨ file.commits = false ∨ entries text filePath disk = [])
    (hok : (add text filePath disk file entry).1 = true) :
    entries text filePath (add text filePath disk file entry).2 =
      entries text filePath disk ++ [entry] := by
  have hloaded : loadLocked text filePath disk file.opens = entries text filePath disk := by
    rw [loadLocked_eq]
    split_ifs with hopens
    · rfl
    rcases hsafe with h | h | h
    · exact absurd h hopens
    · simp [add, saveLocked, h] at hok
    · exact h.symm
  unfold add at hok ⊢
  rw [hloaded] at hok ⊢
  refine entries_saveLocked hok fun e he => ?_
  rcases List.mem_append.mp he with he | he
  · exact readable_of_mem_entries he
  · exact List.mem_singleton.mp he ▸ hreadable

/-- An `UpdateFinalized` that succeeds has set the flag, or there was none to set. -/
theorem entries_updateFinalized {id : String} {finalized : Bool}
    (hsafe : file.opens = true ∨
      ∀ e ∈ entries text filePath disk, e.id = id → e.finalized = finalized)
    (hok : (updateFinalized text filePath disk file id finalized).1 = true) :
    entries text filePath (updateFinalized text filePath disk file id finalized).2 =
        setFinalized id finalized (entries text filePath disk) ∨
      (∀ e ∈ entries text filePath disk, e.id = id → e.finalized = finalized) ∧
        (updateFinalized text filePath disk file id finalized).2 = disk := by
  simp only [updateFinalized, loadLocked_eq] at hok ⊢
  split_ifs at hok ⊢ with hopens hany hany
  · exact .inl (entries_saveLocked hok (readable_setFinalized fun e he => readable_of_mem_entries he))
  · refine .inr ⟨fun e he hid => absurd ?_ hany, rfl⟩
    exact List.any_eq_true.mpr ⟨e, he, by simpa using hid⟩
  · simp at hany
  · exact .inr ⟨hsafe.resolve_left hopens, rfl⟩

/-- A `Remove` that succeeds has taken the entries with the id out, or has changed nothing. -/
theorem entries_remove {id : String} (hok : (remove text filePath disk file id).1 = true) :
    entries text filePath (remove text filePath disk file id).2 =
        (entries text filePath disk).filter (·.id != id) ∨
      (remove text filePath disk file id).2 = disk := by
  simp only [remove, loadLocked_eq] at hok ⊢
  split_ifs at hok ⊢ with hopens hlen hlen
  · exact .inr rfl
  · refine .inl (entries_saveLocked hok fun e he => ?_)
    exact readable_of_mem_entries (List.mem_filter.mp he).1
  · exact .inr rfl
  · simp at hlen

theorem Kept.add {entry : RecoveryManifestEntry} (h : Kept text filePath s)
    (hfresh : entry.id ∉ s.issued)
    (hnew : entries text filePath disk = entries text filePath s.disk ++ [entry]) :
    Kept text filePath
      { disk := disk, expected := s.expected ++ [entry], issued := entry.id :: s.issued } where
  listed := by
    intro e he
    have hother : ∀ f ∈ entries text filePath s.disk, f.id ≠ entry.id :=
      fun f hf hid => hfresh (hid ▸ h.issued f hf)
    show (entries text filePath disk).filter (·.id = e.id) = [e]
    rw [hnew, List.filter_append]
    rcases List.mem_append.mp he with he | he
    · rw [h.listed e he, List.filter_cons_of_neg (by simpa using (hother e (h.mem he)).symm)]
      rfl
    · obtain rfl := List.mem_singleton.mp he
      have hnone : (entries text filePath s.disk).filter (·.id = e.id) = [] :=
        List.filter_eq_nil_iff.mpr fun f hf => by simpa using hother f hf
      simp [hnone]
  issued := by
    intro e he
    replace he : e ∈ entries text filePath disk := he
    rw [hnew] at he
    rcases List.mem_append.mp he with he | he
    · exact List.mem_cons_of_mem _ (h.issued e he)
    · exact List.mem_singleton.mp he ▸ List.mem_cons_self

theorem Kept.flag {id : String} {finalized : Bool} (h : Kept text filePath s)
    (hnew : entries text filePath disk = setFinalized id finalized (entries text filePath s.disk)) :
    Kept text filePath
      { disk := disk, expected := s.expected.map (flagged id finalized), issued := s.issued } where
  listed := by
    intro e he
    obtain ⟨f, hf, rfl⟩ := List.mem_map.mp he
    show (entries text filePath disk).filter (·.id = (flagged id finalized f).id) = _
    rw [hnew, id_flagged]
    exact filter_setFinalized (h.listed f hf)
  issued := by
    intro e he
    have hid : e.id ∈ (entries text filePath disk).map (·.id) := List.mem_map_of_mem he
    rw [hnew, map_id_setFinalized] at hid
    obtain ⟨f, hf, hfe⟩ := List.mem_map.mp hid
    exact hfe ▸ h.issued f hf

theorem Kept.drop {id : String} (h : Kept text filePath s)
    (hnew : entries text filePath disk = (entries text filePath s.disk).filter (·.id != id)) :
    Kept text filePath
      { disk := disk, expected := s.expected.filter (·.id != id), issued := s.issued } where
  listed := by
    intro e he
    obtain ⟨he, hid⟩ := List.mem_filter.mp he
    show (entries text filePath disk).filter (·.id = e.id) = [e]
    rw [hnew, List.filter_filter, ← h.listed e he]
    refine List.filter_congr fun f hf => ?_
    by_cases hfe : f.id = e.id
    · simpa [hfe] using hid
    · simp [hfe]
  issued := by
    intro e he
    replace he : e ∈ entries text filePath disk := he
    rw [hnew] at he
    exact h.issued e (List.mem_filter.mp he).1

/-- Fewer expectations of the same file. -/
theorem Kept.weaken (h : Kept text filePath s) {expected : List RecoveryManifestEntry}
    (hfewer : ∀ e ∈ expected, e ∈ s.expected) {issued : List String}
    (hmore : ∀ id ∈ s.issued, id ∈ issued) :
    Kept text filePath { disk := s.disk, expected := expected, issued := issued } :=
  ⟨fun e he => h.listed e (hfewer e he), fun e he => hmore e.id (h.issued e he)⟩

/-- What one call keeps. -/
theorem Kept.step (h : Kept text filePath s) (hlossless : Lossless text filePath s call)
    (hs : step text filePath s call = some s') : Kept text filePath s' := by
  obtain ⟨mutation, file⟩ := call
  unfold ManifestRun.step at hs
  split_ifs at hs with hfresh
  obtain rfl := Option.some.inj hs
  cases hok : (mutate text filePath s.disk file mutation).1 with
  | false =>
    rw [mutate_of_false hok]
    cases mutation with
    | add entry => exact h.weaken (fun _ he => he) fun _ hid => List.mem_cons_of_mem _ hid
    | updateFinalized id finalized => exact h
    | remove id => exact h
  | true =>
    cases mutation with
    | add entry =>
      exact h.add (by simpa [fresh] using hfresh) (entries_add hlossless.1 hlossless.2 hok)
    | updateFinalized id finalized =>
      rcases entries_updateFinalized hlossless hok with hnew | ⟨hset, hsame⟩
      · exact h.flag hnew
      · have hexpected : s.expected.map (flagged id finalized) = s.expected :=
          List.map_congr_left (fun e he => flagged_eq_self (hset e (h.mem he))) |>.trans (List.map_id _)
        simp only [mutate, hsame, expectedAfter, issuedAfter, if_true, hexpected]
        exact h
    | remove id =>
      rcases entries_remove hok with hnew | hsame
      · exact h.drop hnew
      · simp only [mutate, hsame, expectedAfter, issuedAfter, if_true]
        exact h.weaken (fun e he => (List.mem_filter.mp he).1) fun _ hid => hid

theorem kept_start : Kept text filePath (start text filePath disk) :=
  ⟨fun _ he => absurd he List.not_mem_nil, fun _ he => List.mem_map_of_mem he⟩

end

/-- Over any file, in a run whose calls are all lossless, every entry whose `Add` returned true and
    that no `Remove` has taken out is among the entries at the next read that opens, with the flag
    last set; and a call that returns false leaves the file. -/
theorem entries_kept {τ : Type} (text : JsonText τ) (filePath : String) (disk : Option τ)
    (calls : List MutationCall)
    (hlossless : StepRun.Meets (step text filePath) (Lossless text filePath)
      (start text filePath disk) calls)
    {s : ManifestRun τ}
    (hrun : StepRun.exec (step text filePath) (start text filePath disk) calls = some s) :
    (∀ e ∈ s.expected, e ∈ entries text filePath s.disk) ∧
      ∀ file mutation, (mutate text filePath s.disk file mutation).1 = false →
        (mutate text filePath s.disk file mutation).2 = s.disk := by
  have hkept : Kept text filePath s :=
    StepRun.exec_invariant (fun _ _ _ hI hG hs => Kept.step hI hG hs) kept_start hlossless hrun
  exact ⟨fun e he => hkept.mem he, fun file mutation hfailed => mutate_of_false hfailed⟩

/-- Documents as the contents of files, written and parsed as they are. -/
def wholeDocuments : JsonText Json where
  toJson := id
  fromJson := some
  fromJson_toJson := fun _ => rfl

def firstSegment : RecoveryManifestEntry :=
  { id := "7d1c0b6e"
    artefactPath := "C:/Videos/match.mkv.partial"
    intendedContainer := "mp4"
    finalOutputPath := "C:/Videos/match.mp4"
    startedAt := "2025-01-01T12:00:00Z" }

def secondSegment : RecoveryManifestEntry :=
  { id := "52f04a91"
    artefactPath := "C:/Videos/match_part002.mkv"
    intendedContainer := "mp4"
    finalOutputPath := "C:/Videos/match_part002.mp4"
    startedAt := "2025-01-01T13:00:00Z" }

theorem readable_segments : Readable firstSegment ∧ Readable secondSegment := by
  constructor
  · exact ⟨by decide, by decide, by decide, by decide, .inr rfl⟩
  · exact ⟨by decide, by decide, by decide, by decide, .inr rfl⟩

/-- A segment is listed and finished, and the next one does not reach the file. -/
def protectedCalls : List MutationCall :=
  [{ mutation := .add firstSegment },
    { mutation := .updateFinalized firstSegment.id true },
    { mutation := .add secondSegment, file := { opens := false, commits := false } }]

theorem entries_kept_protected :
    ∃ s : ManifestRun Json,
      StepRun.exec (step wholeDocuments "recovery-manifest.json")
          (start wholeDocuments "recovery-manifest.json" none) protectedCalls = some s ∧
        s.expected = [{ firstSegment with finalized := true }] ∧
        (∀ e ∈ s.expected, e ∈ entries wholeDocuments "recovery-manifest.json" s.disk) ∧
        (mutate wholeDocuments "recovery-manifest.json" s.disk { commits := false }
          (.remove firstSegment.id)).2 = s.disk := by
  have hrun : ((StepRun.exec (step wholeDocuments "recovery-manifest.json")
      (start wholeDocuments "recovery-manifest.json" none) protectedCalls).map (·.expected)) =
        some [{ firstSegment with finalized := true }] := by decide +kernel
  obtain ⟨s, hs, hexpected⟩ := Option.map_eq_some_iff.mp hrun
  have hlossless : StepRun.Meets (step wholeDocuments "recovery-manifest.json")
      (Lossless wholeDocuments "recovery-manifest.json")
      (start wholeDocuments "recovery-manifest.json" none) protectedCalls :=
    ⟨⟨readable_segments.1, .inl rfl⟩, fun _ _ => ⟨.inl rfl, fun _ _ =>
      ⟨⟨readable_segments.2, .inr (.inl rfl)⟩, fun _ _ => trivial⟩⟩⟩
  have hkept := entries_kept wholeDocuments "recovery-manifest.json" none protectedCalls hlossless hs
  have hremove : ((StepRun.exec (step wholeDocuments "recovery-manifest.json")
      (start wholeDocuments "recovery-manifest.json" none) protectedCalls).map fun s =>
        (mutate wholeDocuments "recovery-manifest.json" s.disk { commits := false }
          (.remove firstSegment.id)).1) = some false := by decide +kernel
  rw [hs] at hremove
  exact ⟨s, hs, hexpected, hkept.1, hkept.2 _ _ (Option.some.inj hremove)⟩

/-- The file does not open for the second `Add`, which replaces the list by its own entry. -/
def unreadCalls : List MutationCall :=
  [{ mutation := .add firstSegment }, { mutation := .add secondSegment, file := { opens := false } }]

theorem entry_lost :
    ¬ ∀ (calls : List MutationCall) (s : ManifestRun Json),
        (∀ call ∈ calls, ∀ entry, call.mutation = .add entry → Readable entry) →
        StepRun.exec (step wholeDocuments "recovery-manifest.json")
          (start wholeDocuments "recovery-manifest.json" none) calls = some s →
        ∀ e ∈ s.expected, e ∈ entries wholeDocuments "recovery-manifest.json" s.disk := by
  intro h
  have hrun : ((StepRun.exec (step wholeDocuments "recovery-manifest.json")
      (start wholeDocuments "recovery-manifest.json" none) unreadCalls).map fun s =>
        (s.expected, entries wholeDocuments "recovery-manifest.json" s.disk)) =
        some ([firstSegment, secondSegment], [secondSegment]) := by decide +kernel
  obtain ⟨s, hs, hview⟩ := Option.map_eq_some_iff.mp hrun
  obtain ⟨hexpected, hentries⟩ := Prod.mk.inj hview
  have hreadable : ∀ call ∈ unreadCalls, ∀ entry, call.mutation = .add entry → Readable entry := by
    intro call hcall entry hentry
    simp only [unreadCalls, List.mem_cons, List.not_mem_nil, or_false] at hcall
    rcases hcall with rfl | rfl <;> obtain rfl := Mutation.add.inj hentry
    · exact readable_segments.1
    · exact readable_segments.2
  have hlisted := h unreadCalls s hreadable hs firstSegment (by simp [hexpected])
  rw [hentries] at hlisted
  exact absurd (List.mem_singleton.mp hlisted) (by decide)

end ManifestRun

end Exosnap.Settings
