/-
  What the programs of a transaction keep, question by question: every property that is owed is
  listed in the journal on disk with its original value, and a property that is not owed has it.

  The contract asks one thing of the host: a setter changes only properties that the journal on
  disk lists as outstanding at that moment. Everything else it may decide as it likes.
-/
import Exosnap.Envctl.EnvTransaction

namespace Exosnap.Envctl

open Asking (Prog query wp wp_seq wp_mono wp_query_bind)

def Lists (applied : List AppliedEntry) (key : String) : Prop :=
  ∃ entry ∈ applied, entry.property = key

instance (applied : List AppliedEntry) (key : String) : Decidable (Lists applied key) :=
  inferInstanceAs (Decidable (∃ entry ∈ applied, entry.property = key))

/-- The journal holds original values; `value₀` are those of all properties. -/
structure JournalOk (value₀ : String → String) (j : Journal) : Prop where
  original : ∀ key value, j.original.find key = some value → value = value₀ key
  applied : ∀ entry ∈ j.applied, entry.«from» = value₀ entry.property

structure WorldOk (value₀ : String → String) (w : World) : Prop where
  changes : ∀ key, w.value key ≠ value₀ key → key ∈ w.owed
  listed : ∀ key ∈ w.owed, Lists w.obligations key
  disk : ∀ file, w.disk = some file →
    JournalOk value₀ file.journal ∧ file.journal.state.IsDirty = true

/-- The setter changes only what the journal on disk lists as outstanding. -/
def Confined (w : World) (effect : List (String × String)) : Prop :=
  ∀ change ∈ effect, World.changed w.value effect change.1 ≠ w.value change.1 →
    Lists w.obligations change.1

instance (w : World) (effect : List (String × String)) : Decidable (Confined w effect) :=
  inferInstanceAs (Decidable (∀ _ ∈ _, _ → Lists _ _))

/-- A change for a transaction runs under no journal but that transaction's own. -/
def OwnJournal (w : World) : Request → Prop
  | .apply (.mutate transaction) _ _ => ∀ file ∈ w.disk, file.transaction = transaction
  | _ => True

def Allowed (w : World) : (r : Request) → World.Choice r → Prop
  | .apply _ _ _, answer => Confined w answer.2
  | _, _ => True

def duty (value₀ : String → String) : Asking.Contract environment where
  allowed := Allowed
  inv w r := WorldOk value₀ w ∧ OwnJournal w r

variable {value₀ : String → String} {w : World} {t : EnvironmentTransaction}

/-! ## One question -/

theorem obligations_of_disk {file : JournalFile} (h : w.disk = some file) :
    w.obligations = file.journal.applied := by
  simp [World.obligations, h]

theorem WorldOk.nothing_owed (h : WorldOk value₀ w) (hnone : w.obligations = []) :
    w.owed = [] := by
  refine List.eq_nil_iff_forall_not_mem.mpr fun key hkey => ?_
  obtain ⟨entry, hentry, -⟩ := h.listed key hkey
  rw [hnone] at hentry
  exact nomatch hentry

theorem WorldOk.value_eq (h : WorldOk value₀ w) {key : String} (hkey : key ∉ w.owed) :
    w.value key = value₀ key :=
  Classical.byContradiction fun hne => hkey (h.changes key hne)

theorem WorldOk.verified (h : WorldOk value₀ w) {key : String} (hkey : w.value key = value₀ key) :
    WorldOk value₀ (w.verified key) where
  changes := fun other hne => by
    have hother : other ≠ key := fun heq => hne (heq ▸ hkey)
    simpa [World.verified, hother] using h.changes other hne
  listed := fun other hother => h.listed other (List.mem_filter.mp hother).1
  disk := h.disk

theorem changed_not_mem {value : String → String} {effect : List (String × String)} {key : String}
    (h : key ∉ effect.map Prod.fst) : World.changed value effect key = value key := by
  have hnone : effect.reverse.lookup key = none := by
    refine List.lookup_eq_none_iff.mpr fun change hchange => ?_
    have hmem : change.1 ∈ effect.map Prod.fst :=
      List.mem_map_of_mem (List.mem_reverse.mp hchange)
    exact bne_iff_ne.mpr fun heq => h (heq ▸ hmem)
  simp [World.changed, hnone]

theorem WorldOk.applied (h : WorldOk value₀ w) {effect : List (String × String)}
    (hconfined : Confined w effect) : WorldOk value₀ (w.applied effect) where
  changes := fun key hne => by
    refine List.mem_append.mpr ?_
    by_cases hchanged : World.changed w.value effect key = w.value key
    · exact .inl (h.changes key (hchanged ▸ hne))
    · refine .inr (List.mem_filter.mpr ⟨?_, by simpa using hchanged⟩)
      exact Classical.byContradiction fun hmem => hchanged (changed_not_mem hmem)
  listed := fun key hkey => by
    rcases List.mem_append.mp hkey with hkey | hkey
    · exact h.listed key hkey
    · obtain ⟨hmem, hchanged⟩ := List.mem_filter.mp hkey
      obtain ⟨change, hchange, rfl⟩ := List.mem_map.mp hmem
      exact hconfined change hchange (by simpa using hchanged)
  disk := h.disk

theorem ask_clock {α : Type} {post : α → World → Prop} {f : String → Prog envctl α}
    (h : WorldOk value₀ w) (hf : ∀ now, wp (duty value₀) post (f now) w) :
    wp (duty value₀) post (query (I := envctl) .clock >>= f) w :=
  wp_query_bind.mpr ⟨⟨h, trivial⟩, fun now _ => hf now⟩

theorem ask_describe {α : Type} {post : α → World → Prop}
    {f : List PropertyDescriptor → Prog envctl α} (h : WorldOk value₀ w)
    (hf : ∀ descriptors, wp (duty value₀) post (f descriptors) w) :
    wp (duty value₀) post (query (I := envctl) .describe >>= f) w :=
  wp_query_bind.mpr ⟨⟨h, trivial⟩, fun descriptors _ => hf descriptors⟩

theorem ask_devicePresent {α : Type} {post : α → World → Prop} {deviceAlias : String}
    {f : Bool → Prog envctl α} (h : WorldOk value₀ w)
    (hf : ∀ present, wp (duty value₀) post (f present) w) :
    wp (duty value₀) post (query (I := envctl) (.devicePresent deviceAlias) >>= f) w :=
  wp_query_bind.mpr ⟨⟨h, trivial⟩, fun present _ => hf present⟩

theorem ask_readJournal {α : Type} {post : α → World → Prop}
    {f : Except String (Option JournalFile) → Prog envctl α} (h : WorldOk value₀ w)
    (hf : ∀ reply, (∀ file, reply = .ok file → file = w.disk) → wp (duty value₀) post (f reply) w) :
    wp (duty value₀) post (query (I := envctl) (.readJournal none) >>= f) w := by
  refine wp_query_bind.mpr ⟨⟨h, trivial⟩, fun error _ => ?_⟩
  cases error with
  | none => exact hf _ fun file hfile => (Except.ok.inj hfile).symm
  | some error => exact hf _ fun file hfile => nomatch hfile

/-- A plain read leaves the world alone. -/
theorem ask_read {α : Type} {post : α → World → Prop} {id : PropertyId}
    {f : ReadResult → Prog envctl α} (h : WorldOk value₀ w)
    (hf : ∀ result : ReadResult, (result.ok = true → result.value = w.value id.Key) →
      wp (duty value₀) post (f result) w) :
    wp (duty value₀) post (query (I := envctl) (.read id none) >>= f) w := by
  refine wp_query_bind.mpr ⟨⟨h, trivial⟩, fun result _ => ?_⟩
  have hworld : environment.next w (.read id none) result = w := by
    simp [environment, World.next]
  rw [hworld]
  refine hf _ fun hok => ?_
  by_cases hresult : result.ok = true
  · simp [environment, World.reply, hresult]
  · simp [environment, World.reply, hresult] at hok

/-- A read that finds the original value takes the property off what is owed. -/
theorem ask_verify {α : Type} {post : α → World → Prop} {id : PropertyId} {expected : String}
    {f : ReadResult → Prog envctl α} (h : WorldOk value₀ w) (hexpected : expected = value₀ id.Key)
    (hf : ∀ (result : ReadResult) (w' : World), WorldOk value₀ w' → w'.disk = w.disk →
      (∀ key ∈ w'.owed, key ∈ w.owed) →
      (result.ok = true ∧ result.value = expected → id.Key ∉ w'.owed) →
      wp (duty value₀) post (f result) w') :
    wp (duty value₀) post (query (I := envctl) (.read id (some expected)) >>= f) w := by
  refine wp_query_bind.mpr ⟨⟨h, trivial⟩, fun result _ => ?_⟩
  by_cases hresult : result.ok = true ∧ expected = w.value id.Key
  · have hworld : environment.next w (.read id (some expected)) result = w.verified id.Key := by
      simp [environment, World.next, hresult.1, hresult.2]
    rw [hworld]
    exact hf _ _ (h.verified (hresult.2.symm.trans hexpected)) rfl
      (fun key hkey => (List.mem_filter.mp hkey).1) fun _ => by simp [World.verified]
  · have hworld : environment.next w (.read id (some expected)) result = w := by
      have hnot : ¬ (result.ok = true ∧ some expected = some (w.value id.Key)) := fun hboth =>
        hresult ⟨hboth.1, Option.some.inj hboth.2⟩
      simp only [environment, World.next, if_neg hnot]
    rw [hworld]
    refine hf _ _ h rfl (fun _ hkey => hkey) fun hfound => absurd ?_ hresult
    by_cases hok : result.ok = true
    · simp only [environment, World.reply, hok, if_true] at hfound
      exact ⟨hok, hfound.2.symm⟩
    · simp [environment, World.reply, hok] at hfound

theorem ask_apply {α : Type} {post : α → World → Prop} {purpose : ApplyPurpose} {id : PropertyId}
    {value : String} {f : ApplyResult → Prog envctl α} (h : WorldOk value₀ w)
    (hown : OwnJournal w (.apply purpose id value))
    (hf : ∀ (result : ApplyResult) (w' : World), WorldOk value₀ w' → w'.disk = w.disk →
      wp (duty value₀) post (f result) w') :
    wp (duty value₀) post (query (I := envctl) (.apply purpose id value) >>= f) w :=
  wp_query_bind.mpr ⟨⟨h, hown⟩, fun answer hallowed =>
    hf answer.1 (w.applied answer.2) (h.applied hallowed) rfl⟩

theorem ask_deleteJournal {α : Type} {post : α → World → Prop} {f : Option String → Prog envctl α}
    (h : WorldOk value₀ w) (howed : w.owed = [])
    (hf : ∀ (error : Option String) (w' : World), WorldOk value₀ w' → w'.owed = [] →
      (w'.disk = none ∨ w' = w) → wp (duty value₀) post (f error) w') :
    wp (duty value₀) post (query (I := envctl) .deleteJournal >>= f) w := by
  refine wp_query_bind.mpr ⟨⟨h, trivial⟩, fun error _ => ?_⟩
  cases error with
  | none =>
    refine hf none { w with disk := none } ⟨h.changes, ?_, fun _ hfile => nomatch hfile⟩ howed
      (.inl rfl)
    intro key hkey
    exact absurd hkey (by simp [howed])
  | some error => exact hf (some error) w h howed (.inr rfl)

/-! ## The journal is written -/

/-- The transaction may act: its journal lists all that is owed. -/
structure Rightful (value₀ : String → String) (t : EnvironmentTransaction) (w : World) : Prop where
  world : WorldOk value₀ w
  journal : JournalOk value₀ t.journal
  owes : ∀ key ∈ w.owed, Lists t.journal.applied key

/-- What a restore leaves as it is. -/
structure Same (t t' : EnvironmentTransaction) : Prop where
  original : t'.journal.original = t.journal.original
  transaction : t'.transaction = t.transaction
  self : t'.self = t.self

theorem Same.refl (t : EnvironmentTransaction) : Same t t := ⟨rfl, rfl, rfl⟩

theorem Same.trans {a b c : EnvironmentTransaction} (h : Same a b) (h' : Same b c) : Same a c :=
  ⟨h'.original.trans h.original, h'.transaction.trans h.transaction, h'.self.trans h.self⟩

theorem same_note (t : EnvironmentTransaction) (key : String)
    (f : PropertyEvidence → PropertyEvidence) : Same t (t.note key f) := ⟨rfl, rfl, rfl⟩

theorem same_noteSkipped (t : EnvironmentTransaction) (which : PropertyEvidence → Bool) :
    Same t (t.noteSkipped which) := ⟨rfl, rfl, rfl⟩

def HeldBy (self : Option Nat) (w : World) : Prop := ∀ file, w.disk = some file → file.holder = self

/-- The journal on disk is the transaction's own, with what is outstanding in memory. -/
def Synced (t : EnvironmentTransaction) (w : World) : Prop :=
  ∃ file, w.disk = some file ∧ file.journal.applied = t.journal.applied ∧ file.holder = t.self ∧
    file.transaction = t.transaction

theorem Synced.heldBy (h : Synced t w) : HeldBy t.self w := by
  obtain ⟨file, hfile, -, hholder, -⟩ := h
  intro other hother
  rw [hfile] at hother
  cases hother
  exact hholder

/-- A write that succeeds puts what is in memory on disk, one that fails changes nothing. -/
theorem persist_spec (h : Rightful value₀ t w) (state : TransactionState)
    (hstate : state.IsDirty = true) :
    wp (duty value₀) (fun r w' => Rightful value₀ r.1 w' ∧ Same t r.1 ∧
        r.1.journal.applied = t.journal.applied ∧ r.1.journal.state = state ∧ w'.owed = w.owed ∧
        (r.2 = none → Synced r.1 w') ∧ (∀ error, r.2 = some error → w'.disk = w.disk))
      (t.PersistJournal state) w := by
  have hjournal : ∀ now, JournalOk value₀ (t.stamped state now).journal := fun now =>
    ⟨h.journal.original, h.journal.applied⟩
  refine ask_clock h.world fun now => ?_
  refine wp_query_bind.mpr ⟨⟨h.world, trivial⟩, fun error _ => ?_⟩
  cases error with
  | none =>
    refine ⟨⟨⟨h.world.changes, h.owes, ?_⟩, hjournal now, h.owes⟩, ⟨rfl, rfl, rfl⟩, rfl,
      rfl, rfl, fun _ => ⟨_, rfl, rfl, rfl, rfl⟩, (fun _ herror => nomatch herror)⟩
    intro file hfile
    cases hfile
    exact ⟨hjournal now, hstate⟩
  | some error =>
    exact ⟨⟨h.world, hjournal now, h.owes⟩, ⟨rfl, rfl, rfl⟩, rfl, rfl, rfl,
      (fun hnone => nomatch hnone), fun _ _ => rfl⟩

/-- A write by the transaction that has the journal in its hands. -/
theorem persist_held {α : Type} {post : α → World → Prop} (h : Rightful value₀ t w)
    (hheld : HeldBy t.self w) (state : TransactionState) (hstate : state.IsDirty = true)
    {f : EnvironmentTransaction × Option String → Prog envctl α}
    (hf : ∀ t' error w', Rightful value₀ t' w' → Same t t' →
      t'.journal.applied = t.journal.applied → t'.journal.state = state → w'.owed = w.owed →
      HeldBy t.self w' → (error = none → Synced t' w') → wp (duty value₀) post (f (t', error)) w') :
    wp (duty value₀) post (t.PersistJournal state >>= f) w := by
  refine wp_seq (persist_spec h state hstate) ?_
  rintro ⟨t', error⟩ w' ⟨hrightful, hsame, happlied, hstate', howed, hnone, hsome⟩
  refine hf t' error w' hrightful hsame happlied hstate' howed ?_ hnone
  cases error with
  | none => exact hsame.self ▸ (hnone rfl).heldBy
  | some error => exact fun file hfile => hheld file (hsome error rfl ▸ hfile)

/-! ## Restore -/

theorem Rightful.congr (h : Rightful value₀ t w) {t' : EnvironmentTransaction}
    (hjournal : t'.journal = t.journal) : Rightful value₀ t' w :=
  ⟨h.world, hjournal ▸ h.journal, hjournal ▸ h.owes⟩

/-- After a question that left the disk alone, what is outstanding is still on it. -/
theorem Synced.owes (h : Synced t w) (hworld : WorldOk value₀ w) :
    ∀ key ∈ w.owed, Lists t.journal.applied key := by
  obtain ⟨file, hfile, happlied, -⟩ := h
  rw [← happlied, ← obligations_of_disk hfile]
  exact hworld.listed

/-- One entry: it is verified and no longer owed, or there is a result that is no success. -/
structure Settled (value₀ : String → String) (t : EnvironmentTransaction) (key : String)
    (r : EnvironmentTransaction × Option TransactionResult) (w : World) : Prop where
  rightful : Rightful value₀ r.1 w
  same : Same t r.1
  applied : r.1.journal.applied = t.journal.applied
  held : HeldBy t.self w
  verified : r.2 = none → Synced r.1 w ∧ key ∉ w.owed
  failed : ∀ result, r.2 = some result → result.state ≠ .restored

/-- The evidence is no part of it. -/
theorem Settled.of_note {key other : String} {f : PropertyEvidence → PropertyEvidence}
    {r : EnvironmentTransaction × Option TransactionResult}
    (h : Settled value₀ (t.note other f) key r w) : Settled value₀ t key r w :=
  ⟨h.rightful, (same_note t other f).trans h.same, h.applied, h.held, h.verified, h.failed⟩

theorem restoreFailure_spec (h : Rightful value₀ t w) (hheld : HeldBy t.self w)
    (key code message : String) :
    wp (duty value₀) (Settled value₀ t key) (t.restoreFailure code message) w := by
  refine persist_held h hheld .restoreFailed rfl
    fun t' error w' hrightful hsame happlied hstate _ hheld' _ => ?_
  refine ⟨hrightful, hsame, happlied, hheld', (fun hnone => nomatch hnone), ?_⟩
  rintro result ⟨⟩
  simp [EnvironmentTransaction.Fail, hstate]

theorem verifyBack_spec (hworld : WorldOk value₀ w) (hjournal : JournalOk value₀ t.journal)
    (hsynced : Synced t w) {entry : AppliedEntry} {id : PropertyId}
    (hid : id.Key = entry.property) (hfrom : entry.«from» = value₀ id.Key) :
    wp (duty value₀) (Settled value₀ t entry.property) (t.verifyBack id entry) w := by
  refine ask_verify hworld hfrom fun verify w' hw' hdisk' howed' hfound' => ?_
  have hsynced' : Synced t w' := by rwa [Synced, hdisk']
  have hrightful : Rightful value₀ t w' := ⟨hw', hjournal, hsynced'.owes hw'⟩
  split
  · rename_i hverify
    exact ⟨hrightful.congr rfl, ⟨rfl, rfl, rfl⟩, rfl, hsynced'.heldBy,
      fun _ => ⟨hsynced', hid ▸ hfound' hverify⟩, (fun _ hresult => nomatch hresult)⟩
  · exact wp_mono (restoreFailure_spec (t := t.noteAfter entry.property verify.shown)
      (hrightful.congr rfl) hsynced'.heldBy entry.property _ _) fun r w'' hr => hr.of_note

theorem putBack_spec (h : Rightful value₀ t w) (hsynced : Synced t w) {entry : AppliedEntry}
    {id : PropertyId} (hid : id.Key = entry.property) (hfrom : entry.«from» = value₀ id.Key)
    (current : ReadResult) :
    wp (duty value₀) (Settled value₀ t entry.property) (t.putBack id entry current) w := by
  refine ask_apply h.world trivial fun restored w' hw' hdisk' => ?_
  have hsynced' : Synced t w' := by rwa [Synced, hdisk']
  split
  · have hrightful : Rightful value₀ t w' := ⟨hw', h.journal, hsynced'.owes hw'⟩
    exact wp_mono (restoreFailure_spec (t := t.noteAfter entry.property current.shown)
      (hrightful.congr rfl) hsynced'.heldBy entry.property _ _) fun r w'' hr => hr.of_note
  · exact verifyBack_spec hw' h.journal hsynced' hid hfrom

theorem restoreEntry_spec (h : Rightful value₀ t w) (hsynced : Synced t w) {entry : AppliedEntry}
    (hentry : entry ∈ t.journal.applied) {id : PropertyId} (hid : id.Key = entry.property) :
    wp (duty value₀) (Settled value₀ t entry.property) (t.restoreEntry id entry) w := by
  have hfrom : entry.«from» = value₀ id.Key := hid ▸ h.journal.applied entry hentry
  refine ask_verify h.world hfrom fun current w' hw' hdisk' howed' hfound' => ?_
  have hsynced' : Synced t w' := by rwa [Synced, hdisk']
  have hrightful : Rightful value₀ t w' := ⟨hw', h.journal, hsynced'.owes hw'⟩
  split
  · rename_i hcurrent
    exact ⟨hrightful.congr rfl, ⟨rfl, rfl, rfl⟩, rfl, hsynced'.heldBy,
      fun _ => ⟨hsynced', hid ▸ hfound' hcurrent⟩, (fun _ hresult => nomatch hresult)⟩
  · exact wp_mono (putBack_spec (t := t.noteBefore entry) (hrightful.congr rfl) hsynced' hid hfrom
      current) fun r w'' hr => hr.of_note

/-- What a restore leaves behind: it may go on, and it says Restored only when nothing is owed. -/
structure Stands (value₀ : String → String) (t : EnvironmentTransaction)
    (r : EnvironmentTransaction × TransactionResult) (w : World) : Prop where
  rightful : Rightful value₀ r.1 w
  same : Same t r.1
  restored : r.2.state = .restored → w.owed = []

/-- The journal is deleted once nothing is outstanding. -/
theorem deleteRestored_spec (h : Rightful value₀ t w) (happlied : t.journal.applied = []) :
    wp (duty value₀) (fun r w' => Stands value₀ t r w' ∧ (w'.disk = none ∨ w' = w))
      t.deleteRestored w := by
  have howed : w.owed = [] := by
    refine List.eq_nil_iff_forall_not_mem.mpr fun key hkey => ?_
    obtain ⟨entry, hentry, -⟩ := h.owes key hkey
    rw [happlied] at hentry
    exact nomatch hentry
  refine ask_deleteJournal h.world howed fun error w' hw' howed' hdisk => ?_
  refine ⟨⟨⟨hw', ⟨h.journal.original, h.journal.applied⟩, fun key hkey => ?_⟩,
    ⟨rfl, rfl, rfl⟩, fun _ => howed'⟩, hdisk⟩
  exact absurd hkey (by simp [howed'])

theorem restoreEntries_spec (h : Rightful value₀ t w) (hsynced : Synced t w)
    {entries : List AppliedEntry} (hentries : t.journal.applied = entries.reverse) :
    wp (duty value₀) (fun r w' => Stands value₀ t r w' ∧ HeldBy t.self w')
      (t.restoreEntries entries) w := by
  induction entries generalizing t w with
  | nil =>
    refine wp_mono (deleteRestored_spec (t := t.noteSkipped _) ⟨h.world, h.journal, h.owes⟩ hentries)
      fun r w' hr => ⟨⟨hr.1.rightful, (same_noteSkipped t _).trans hr.1.same,
        hr.1.restored⟩, ?_⟩
    rcases hr.2 with hnone | rfl
    · exact fun file hfile => nomatch hnone ▸ hfile
    · exact hsynced.heldBy
  | cons entry rest ih =>
    rw [EnvironmentTransaction.restoreEntries]
    split
    · refine persist_held h hsynced.heldBy .restoreFailed rfl
        fun t' error w' hrightful hsame _ hstate _ hheld _ => ?_
      refine ⟨⟨hrightful, hsame, fun hrestored => ?_⟩, hheld⟩
      simp [EnvironmentTransaction.Fail, hstate] at hrestored
    · rename_i id hid
      have hentry : entry ∈ t.journal.applied := by simp [hentries]
      refine wp_seq (restoreEntry_spec h hsynced hentry (key_of_propertyIdFromKey hid)) ?_
      rintro ⟨t₁, failed⟩ w₁ ⟨hrightful₁, hsame₁, happlied₁, hheld₁, hnone₁, hsome₁⟩
      cases failed with
      | some result =>
        exact ⟨⟨hrightful₁, hsame₁, fun hrestored => absurd hrestored (hsome₁ result rfl)⟩, hheld₁⟩
      | none =>
        obtain ⟨hsynced₁, hverified⟩ := hnone₁ rfl
        have hpopped : Rightful value₀ (t₁.withApplied rest.reverse) w₁ := by
          have hlist : t₁.journal.applied = rest.reverse ++ [entry] := by
            rw [happlied₁, hentries, List.reverse_cons]
          refine ⟨hrightful₁.world, ⟨hrightful₁.journal.original, fun other hother => ?_⟩, ?_⟩
          · exact hrightful₁.journal.applied other (hlist ▸ List.mem_append_left _ hother)
          · intro key hkey
            obtain ⟨other, hother, hkey'⟩ := hrightful₁.owes key hkey
            rcases List.mem_append.mp (hlist ▸ hother) with hrest | hlast
            · exact ⟨other, hrest, hkey'⟩
            · rw [List.mem_singleton.mp hlast] at hkey'
              exact absurd hkey (hkey' ▸ hverified)
        refine persist_held hpopped (hsame₁.self ▸ hheld₁) .restoring rfl
          fun t₂ error w₂ hrightful₂ hsame₂ happlied₂ hstate₂ _ hheld₂ hsynced₂ => ?_
        have hsame : Same t t₂ := hsame₁.trans
          ⟨hsame₂.original, hsame₂.transaction, hsame₂.self⟩
        cases error with
        | some error =>
          refine ⟨⟨hrightful₂, hsame, fun hrestored => ?_⟩, hsame₁.self ▸ hheld₂⟩
          simp [EnvironmentTransaction.Fail, hstate₂] at hrestored
        | none =>
          refine wp_mono (ih hrightful₂ (hsynced₂ rfl) happlied₂) fun r w' hr => ?_
          exact ⟨⟨hr.1.rightful, hsame.trans hr.1.same, hr.1.restored⟩, hsame.self ▸ hr.2⟩

theorem missingDevice_spec (h : WorldOk value₀ w) (aliases : List String) :
    wp (duty value₀) (fun _ w' => w' = w) (EnvironmentTransaction.missingDevice aliases) w := by
  induction aliases with
  | nil => rfl
  | cons deviceAlias rest ih =>
    refine ask_devicePresent h fun present => ?_
    cases present with
    | true => exact ih
    | false => rfl

/-- Nothing has happened to the journal and to what is owed. -/
def Untouched (w w' : World) : Prop := w'.disk = w.disk ∧ w'.owed = w.owed

theorem restoreInternal_spec (h : Rightful value₀ t w) :
    wp (duty value₀) (fun r w' => Stands value₀ t r w' ∧ (Untouched w w' ∨ HeldBy t.self w'))
      t.RestoreInternal w := by
  unfold EnvironmentTransaction.RestoreInternal
  split
  · rename_i happlied
    refine wp_mono (deleteRestored_spec (t := t.noteSkipped _) (h.congr rfl) happlied)
      fun r w' hr => ⟨⟨hr.1.rightful, (same_noteSkipped t _).trans hr.1.same, hr.1.restored⟩, ?_⟩
    rcases hr.2 with hnone | rfl
    · exact .inr fun file hfile => nomatch hnone ▸ hfile
    · exact .inl ⟨rfl, rfl⟩
  · refine wp_seq (persist_spec h .restoring rfl) ?_
    rintro ⟨t₁, error⟩ w₁ ⟨hrightful₁, hsame₁, happlied₁, hstate₁, howed₁, hnone₁, hsome₁⟩
    cases error with
    | some error =>
      refine ⟨⟨hrightful₁, hsame₁, fun hrestored => ?_⟩, .inl ⟨hsome₁ error rfl, howed₁⟩⟩
      exact nomatch hstate₁.symm.trans hrestored
    | none =>
      have hsynced₁ := hnone₁ rfl
      refine wp_seq (missingDevice_spec hrightful₁.world _) ?_
      rintro missing _ rfl
      cases missing with
      | some deviceAlias =>
        refine persist_held hrightful₁ hsynced₁.heldBy .restorePendingDeviceUnavailable rfl
          fun t₂ error w₂ hrightful₂ hsame₂ _ hstate₂ _ hheld₂ _ => ?_
        refine ⟨⟨hrightful₂, hsame₁.trans hsame₂, fun hrestored => ?_⟩, .inr (hsame₁.self ▸ hheld₂)⟩
        simp [hstate₂] at hrestored
      | none =>
        refine wp_mono (restoreEntries_spec hrightful₁ hsynced₁ (List.reverse_reverse _).symm)
          fun r w' hr => ?_
        exact ⟨⟨hr.1.rightful, hsame₁.trans hr.1.same, hr.1.restored⟩, .inr (hsame₁.self ▸ hr.2)⟩

theorem restore_spec (h : Rightful value₀ t w) (hsettled : t.settled = none) :
    wp (duty value₀) (fun r w' => Stands value₀ t r w' ∧ (Untouched w w' ∨ HeldBy t.self w'))
      t.Restore w := by
  unfold EnvironmentTransaction.Restore
  rw [hsettled]
  refine wp_seq (restoreInternal_spec h) fun r w' hr => ?_
  exact ⟨⟨hr.1.rightful.congr rfl, ⟨hr.1.same.original, hr.1.same.transaction, hr.1.same.self⟩,
    hr.1.restored⟩, hr.2⟩

/-! ## Begin -/

/-- A begin goes on with the journal in its hands. -/
structure Going (value₀ : String → String) (t t' : EnvironmentTransaction) (w : World) : Prop where
  rightful : Rightful value₀ t' w
  same : Same t t'
  held : HeldBy t.self w

theorem Going.trans {t₁ t₂ : EnvironmentTransaction} (h : Going value₀ t₁ t₂ w) (hsame : Same t t₁) :
    Going value₀ t t₂ w :=
  ⟨h.rightful, hsame.trans h.same, hsame.self ▸ h.held⟩

theorem rollBack_spec (h : Rightful value₀ t w) (hheld : HeldBy t.self w) (code message : String) :
    wp (duty value₀) (fun r w' => Going value₀ t r.1 w') (t.rollBack code message) w := by
  refine wp_seq (restoreInternal_spec h) fun r w' hr => ⟨hr.1.rightful, hr.1.same, ?_⟩
  rcases hr.2 with huntouched | hheld'
  · exact fun file hfile => hheld file (huntouched.1 ▸ hfile)
  · exact hheld'

/-- The original values are read while nothing is owed. -/
theorem snapshot_spec (h : Rightful value₀ t w) (howed : w.owed = [])
    (desired : List (String × String)) :
    wp (duty value₀) (fun r w' => w' = w ∧ Rightful value₀ r.1 w ∧ r.1.self = t.self ∧
        r.1.transaction = t.transaction ∧
        (∀ key, (t.journal.original.find key).isSome → (r.1.journal.original.find key).isSome) ∧
        ∀ requests, r.2 = .ok requests →
          ∀ wish ∈ requests, (r.1.journal.original.find wish.1.Key).isSome)
      (t.snapshot desired) w := by
  induction desired generalizing t with
  | nil =>
    refine ⟨rfl, h, rfl, rfl, fun _ hkey => hkey, ?_⟩
    rintro requests ⟨⟩ wish hwish
    exact nomatch hwish
  | cons entry rest ih =>
    obtain ⟨key, value⟩ := entry
    rw [EnvironmentTransaction.snapshot]
    split
    · exact ⟨rfl, h, rfl, rfl, fun _ hkey => hkey, (fun _ hrequests => nomatch hrequests)⟩
    rename_i id hid
    have hkey := key_of_propertyIdFromKey hid
    refine ask_read h.world fun read hread => ?_
    split
    · exact ⟨rfl, h, rfl, rfl, fun _ hkey => hkey, (fun _ hrequests => nomatch hrequests)⟩
    split
    · exact ⟨rfl, h, rfl, rfl, fun _ hkey => hkey, (fun _ hrequests => nomatch hrequests)⟩
    rename_i hok
    have hvalue : read.value = value₀ key := by
      rw [hread (by simpa using hok), hkey]
      exact h.world.value_eq (by simp [howed])
    have hrecorded : Rightful value₀ (t.recorded key read.value value) w := by
      refine ⟨h.world, ⟨fun other found hfound => ?_, h.journal.applied⟩, h.owes⟩
      simp only [EnvironmentTransaction.recorded, SortedMap.find_set] at hfound
      split at hfound
      · rename_i hother
        rw [← Option.some.inj hfound, hother, hvalue]
      · exact h.journal.original other found hfound
    refine wp_seq (ih hrecorded) ?_
    rintro ⟨t', requests⟩ w' ⟨hw', hrightful, hself, htransaction, hkept, hrequests⟩
    have hkept' : ∀ other, (t.journal.original.find other).isSome →
        (t'.journal.original.find other).isSome := fun other hother => by
      refine hkept other ?_
      simp only [EnvironmentTransaction.recorded, SortedMap.find_set]
      split
      · rfl
      · exact hother
    cases requests with
    | error result =>
      exact ⟨hw', hrightful, hself, htransaction, hkept', (fun _ hrequests => nomatch hrequests)⟩
    | ok requests =>
      refine ⟨hw', hrightful, hself, htransaction, hkept', ?_⟩
      rintro _ ⟨⟩ wish hwish
      rcases List.mem_cons.mp hwish with rfl | hwish
      · exact hkept _ (by simp [EnvironmentTransaction.recorded, hkey])
      · exact hrequests requests rfl wish hwish

theorem giveUp_spec (h : Rightful value₀ t w) (hheld : HeldBy t.self w) (code message : String) :
    wp (duty value₀) (fun r w' => Going value₀ t r.1 w') (t.giveUp code message) w :=
  wp_seq (rollBack_spec h hheld code message) fun _ _ hr => hr

theorem obliged_rightful (h : Rightful value₀ t w) {wish : Wish}
    (hkey : (t.journal.original.find wish.1.Key).isSome) (now : String) :
    Rightful value₀ (t.obliged wish now) w := by
  obtain ⟨before, hbefore⟩ := Option.isSome_iff_exists.mp hkey
  refine ⟨h.world, ⟨h.journal.original, fun entry hentry => ?_⟩, fun other hother => ?_⟩
  · rcases List.mem_append.mp hentry with hold | hnew
    · exact h.journal.applied entry hold
    · rw [List.mem_singleton.mp hnew]
      simpa [hbefore] using h.journal.original wish.1.Key before hbefore
  · obtain ⟨entry, hentry, hproperty⟩ := h.owes other hother
    exact ⟨entry, List.mem_append_left _ hentry, hproperty⟩

theorem verifyWish_spec (h : Rightful value₀ t w) (hheld : HeldBy t.self w) (wish : Wish) :
    wp (duty value₀) (fun r w' => Going value₀ t r.1 w') (t.verifyWish wish) w := by
  refine ask_read h.world fun verify _ => ?_
  have hnote : Same t (t.noteApplied wish.1.Key verify.value) := same_note ..
  have hnoted : Rightful value₀ (t.noteApplied wish.1.Key verify.value) w := h.congr rfl
  split
  · exact wp_mono (giveUp_spec hnoted hheld _ _) fun _ _ hr => Going.trans hr hnote
  split
  · exact wp_mono (giveUp_spec hnoted hheld _ _) fun _ _ hr => Going.trans hr hnote
  refine persist_held hnoted hheld .mutating rfl
    fun t' error w' hrightful hsame _ _ _ hheld' _ => ?_
  cases error with
  | some error =>
    exact wp_mono (giveUp_spec hrightful (hsame.self ▸ hheld') _ _)
      fun r w'' hr => hr.trans (hnote.trans hsame)
  | none => exact ⟨hrightful, hnote.trans hsame, hheld'⟩

theorem setWish_spec (h : Rightful value₀ t w) (hsynced : Synced t w) (wish : Wish) :
    wp (duty value₀) (fun r w' => Going value₀ t r.1 w') (t.setWish wish) w := by
  have hown : OwnJournal w (.apply (.mutate t.transaction) wish.1 wish.2) := by
    obtain ⟨file, hfile, -, -, htransaction⟩ := hsynced
    intro other hother
    rw [hfile] at hother
    cases hother
    exact htransaction
  refine ask_apply h.world hown fun applied w' hw' hdisk' => ?_
  have hsynced' : Synced t w' := by rwa [Synced, hdisk']
  have hrightful : Rightful value₀ t w' := ⟨hw', h.journal, hsynced'.owes hw'⟩
  split
  · exact giveUp_spec hrightful hsynced'.heldBy _ _
  · exact verifyWish_spec hrightful hsynced'.heldBy wish

/-- The setter runs with its obligation on disk; every way out leaves what is owed listed. -/
theorem applyWish_spec (h : Rightful value₀ t w) (hheld : HeldBy t.self w) {wish : Wish}
    (hkey : (t.journal.original.find wish.1.Key).isSome) :
    wp (duty value₀) (fun r w' => Going value₀ t r.1 w') (t.applyWish wish) w := by
  refine ask_clock h.world fun now => ?_
  refine persist_held (obliged_rightful h hkey now) hheld .mutating rfl
    fun t' error w' hrightful hsame' _ _ howed hheld' hsynced => ?_
  have hsame : Same t t' := ⟨hsame'.original, hsame'.transaction, hsame'.self⟩
  cases error with
  | some error =>
    have hback : Rightful value₀ (t'.unobliged wish t.journal.applied) w' :=
      ⟨hrightful.world, ⟨hrightful.journal.original, h.journal.applied⟩,
        fun key hkey => h.owes key (howed ▸ hkey)⟩
    exact wp_mono (giveUp_spec hback (hsame.self ▸ hheld') _ _) fun r w'' hr =>
      hr.trans ⟨hsame.original, hsame.transaction, hsame.self⟩
  | none =>
    exact wp_mono (setWish_spec (t := { t' with mutated := true }) (hrightful.congr rfl)
      (hsynced rfl) wish) fun r w'' hr => hr.trans ⟨hsame.original, hsame.transaction, hsame.self⟩

theorem applyDelta_spec (h : Rightful value₀ t w) (hheld : HeldBy t.self w) {delta : List Wish}
    (hkeys : ∀ wish ∈ delta, (t.journal.original.find wish.1.Key).isSome) :
    wp (duty value₀) (fun r w' => Going value₀ t r.1 w') (t.applyDelta delta) w := by
  induction delta generalizing t w with
  | nil =>
    refine persist_held h hheld .active rfl
      fun t' error w' hrightful hsame _ _ _ hheld' _ => ?_
    have hgoing : HeldBy t'.self w' := hsame.self ▸ hheld'
    cases error with
    | some error =>
      exact wp_mono (rollBack_spec hrightful hgoing _ _) fun r w'' hr => hr.trans hsame
    | none => exact ⟨hrightful, hsame, hheld'⟩
  | cons wish rest ih =>
    refine wp_seq (applyWish_spec h hheld (hkeys wish List.mem_cons_self)) ?_
    rintro ⟨t', failed⟩ w' hgoing
    cases failed with
    | some result => exact hgoing
    | none =>
      refine wp_mono (ih hgoing.rightful (hgoing.same.self ▸ hgoing.held) fun other hother => ?_)
        fun r w'' hr => hr.trans hgoing.same
      rw [hgoing.same.original]
      exact hkeys other (List.mem_cons_of_mem _ hother)

theorem mutate_spec (h : Rightful value₀ t w) (hheld : HeldBy t.self w) (howed : w.owed = [])
    {requests : List Wish}
    (hkeys : ∀ wish ∈ requests, (t.journal.original.find wish.1.Key).isSome) :
    wp (duty value₀) (fun r w' => Going value₀ t r.1 w') (t.mutate requests) w := by
  refine ask_describe h.world fun descriptors => ?_
  split
  · refine ask_deleteJournal h.world howed fun error w' hw' howed' hdisk => ?_
    refine ⟨⟨hw', ⟨h.journal.original, h.journal.applied⟩, fun key hkey => ?_⟩, ⟨rfl, rfl, rfl⟩, ?_⟩
    · exact absurd hkey (by simp [howed'])
    · rcases hdisk with hnone | rfl
      · exact fun file hfile => nomatch hnone ▸ hfile
      · exact hheld
  split
  · refine persist_held h hheld .active rfl
      fun t' error w' hrightful hsame _ _ _ hheld' _ => ?_
    cases error with
    | some error => exact ⟨hrightful, hsame, hheld'⟩
    | none => exact ⟨hrightful, hsame, hheld'⟩
  · refine persist_held h hheld .mutating rfl
      fun t' error w' hrightful hsame _ _ _ hheld' _ => ?_
    cases error with
    | some error => exact ⟨hrightful, hsame, hheld'⟩
    | none =>
      refine wp_mono (applyDelta_spec hrightful (hsame.self ▸ hheld') fun wish hwish => ?_)
        fun r w'' hr => hr.trans hsame
      rw [hsame.original]
      exact hkeys wish (List.mem_filter.mp hwish).1

/-- A begin is refused and leaves everything as it is, or has the journal in its hands. -/
structure Begun (value₀ : String → String) (t : EnvironmentTransaction) (w : World)
    (t' : EnvironmentTransaction) (w' : World) : Prop where
  world : WorldOk value₀ w'
  journal : JournalOk value₀ t'.journal
  self : t'.self = t.self
  outcome : (t' = t ∧ w' = w) ∨ (HeldBy t.self w' ∧ ∀ key ∈ w'.owed, Lists t'.journal.applied key)

theorem begin_spec (hworld : WorldOk value₀ w) (hjournal : JournalOk value₀ t.journal)
    (desired : SortedMap String String) (transaction : Nat) :
    wp (duty value₀) (fun r w' => Begun value₀ t w r.1 w') (t.Begin desired transaction) w := by
  refine ask_readJournal hworld fun reply hreply => ?_
  split
  · exact ⟨hworld, hjournal, rfl, .inl ⟨rfl, rfl⟩⟩
  · exact ⟨hworld, hjournal, rfl, .inl ⟨rfl, rfl⟩⟩
  have hdisk : w.disk = none := (hreply none rfl).symm
  have hheld : ∀ self, HeldBy self w := fun self file hfile => nomatch hdisk ▸ hfile
  have howed : w.owed = [] := hworld.nothing_owed (by simp [World.obligations, hdisk])
  have hcleared : Rightful value₀ (t.cleared transaction) w :=
    ⟨hworld, ⟨(fun _ _ hfound => nomatch hfound), fun _ hentry => nomatch hentry⟩,
      fun key hkey => absurd hkey (by simp [howed])⟩
  refine wp_seq (snapshot_spec hcleared howed desired.entries) ?_
  rintro ⟨t₁, requests⟩ _ ⟨rfl, hrightful₁, hself₁, htransaction₁, -, hrequests⟩
  cases requests with
  | error result =>
    exact ⟨hworld, hrightful₁.journal, hself₁, .inr ⟨hheld _, hrightful₁.owes⟩⟩
  | ok requests =>
    refine persist_held hrightful₁ (hheld _) .prepared rfl
      fun t₂ error w₂ hrightful₂ hsame₂ _ _ howed₂ hheld₂ _ => ?_
    have hself₂ : t₂.self = t.self := hsame₂.self.trans hself₁
    cases error with
    | some error =>
      exact ⟨hrightful₂.world, hrightful₂.journal, hself₂, .inr ⟨hself₁ ▸ hheld₂, hrightful₂.owes⟩⟩
    | none =>
      refine wp_mono (mutate_spec hrightful₂ (hsame₂.self ▸ hheld₂) (howed₂.trans howed)
        fun wish hwish => ?_) fun r w' hr => ⟨hr.rightful.world, hr.rightful.journal,
          hr.same.self.trans hself₂, .inr ⟨hself₂ ▸ hr.held, hr.rightful.owes⟩⟩
      rw [hsame₂.original]
      exact hrequests requests rfl wish hwish

end Exosnap.Envctl
