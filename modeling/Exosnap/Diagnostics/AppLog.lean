/-
  The log file and its rotation (`AppLog.cpp`): one live file, the backups behind it, and the
  sequence of operations by which a line is written, any of which can fail.

  A file is the list of its lines. A line that was written stays in the file's buffer until a flush
  takes it to the disk; a close flushes once more and drops the buffer. `reached` is the history of
  the lines that came to the disk, and `rotations` that of the rotations. The reports of failures
  are left out.
-/
import Mathlib.Data.List.Infix
import Mathlib.Algebra.GroupWithZero.Nat

namespace Exosnap.Diagnostics

abbrev LogLine := String

/-- What `write` returns for the line and its line end. -/
def writtenBytes (line : LogLine) : Nat := line.utf8ByteSize + 1

/-- On disk a line end is two bytes. -/
def diskBytes (line : LogLine) : Nat := writtenBytes line + 1 + line.toList.count '\n'

def kMaxLogFileCount : Nat := 3

/-- The files by their rotation slot: 0 is the live file. -/
abbrev LogFiles := Nat → Option (List LogLine)

def contents (file : Option (List LogLine)) : List LogLine := file.getD []

def fileBytes (file : Option (List LogLine)) : Nat := ((contents file).map diskBytes).sum

/-- Which of the operations of a rotation succeed. -/
structure RotateAnswers where
  close : Bool := true
  remove : Bool := true
  rename : Nat → Bool := fun _ => true
  open_ : Bool := true

/-- Which of the operations succeed when a line is written. -/
structure WriteAnswers where
  open_ : Bool := true
  leftover : RotateAnswers := {}
  write : Bool := true
  flush : Bool := true
  rotate : RotateAnswers := {}

/-- A rotation: the files it found, what it was allowed to do, and the files before the reopen. -/
structure Rotation where
  before : LogFiles
  answers : RotateAnswers
  after : LogFiles

structure AppLog where
  files : LogFiles
  maxLogFileBytes : Nat
  isOpen : Bool := false
  buffer : List LogLine := []
  logFileSize : Nat := 0
  reached : List LogLine := []
  rotations : List Rotation := []

def setFile (files : LogFiles) (index : Nat) (file : Option (List LogLine)) : LogFiles :=
  fun i => if i = index then file else files i

/-- `QFile::rename` refuses to overwrite. -/
def renameFile (granted : Bool) (files : LogFiles) (source target : Nat) : LogFiles :=
  if granted && (files source).isSome && (files target).isNone then
    setFile (setFile files target (files source)) source none
  else files

def removeOldest (files : LogFiles) (ok : Bool) : LogFiles :=
  if ok then setFile files (kMaxLogFileCount - 1) none else files

/-- The loop of `rotateLogFileUnlocked`, over the slots below `index`. -/
def shiftFiles (rename : Nat → Bool) : Nat → LogFiles → LogFiles
  | 0, files => files
  | index + 1, files => shiftFiles rename index (renameFile (rename index) files index (index + 1))

namespace AppLog

def flush (s : AppLog) (ok : Bool) : AppLog :=
  if ok then
    { s with
      files := setFile s.files 0 (some (contents (s.files 0) ++ s.buffer))
      buffer := [], reached := s.reached ++ s.buffer }
  else s

def close (s : AppLog) (ok : Bool) : AppLog :=
  { s.flush (s.isOpen && ok) with isOpen := false, buffer := [] }

/-- Opened to append: the file is created when there is none. -/
def openLogFile (s : AppLog) (ok : Bool) : AppLog × Bool :=
  if ok then
    ({ s with files := setFile s.files 0 (some (contents (s.files 0))), isOpen := true }, true)
  else (s, false)

def rotateLogFile (s : AppLog) (a : RotateAnswers) : AppLog × Bool :=
  let s := s.close a.close
  let after := shiftFiles a.rename (kMaxLogFileCount - 1) (removeOldest s.files a.remove)
  let (s, opened) := AppLog.openLogFile
    { s with files := after, rotations := ⟨s.files, a, after⟩ :: s.rotations } a.open_
  ({ s with logFileSize := if opened then fileBytes (s.files 0) else 0 }, opened)

def ensureLogFileOpen (s : AppLog) (a : WriteAnswers) : AppLog × Bool :=
  if s.isOpen then (s, true)
  else
    let (s, opened) := s.openLogFile a.open_
    if !opened then (s, false)
    else
      let s := { s with logFileSize := fileBytes (s.files 0) }
      -- a previous run can have left an oversized file behind
      if s.maxLogFileBytes ≤ s.logFileSize then s.rotateLogFile a.leftover else (s, true)

def writeLine (s : AppLog) (line : LogLine) (a : WriteAnswers) : AppLog × Bool :=
  let (s, opened) := s.ensureLogFileOpen a
  if !opened then (s, false)
  else if !a.write then (s, false)
  else
    let s := { s with buffer := s.buffer ++ [line] }
    if !a.flush then (s, false)
    else
      let s := s.flush true
      let s := { s with logFileSize := s.logFileSize + writtenBytes line }
      if s.maxLogFileBytes ≤ s.logFileSize then s.rotateLogFile a.rotate else (s, true)

/-- The process starts on whatever files there are. -/
def start (files : LogFiles) (maxLogFileBytes : Nat) : AppLog where
  files := files
  maxLogFileBytes := maxLogFileBytes

def writeLines (s : AppLog) (lines : List (LogLine × WriteAnswers)) : AppLog :=
  lines.foldl (fun s l => (s.writeLine l.1 l.2).1) s

end AppLog

/-! ## Reading the files -/

/-- The lines of the files below a slot, oldest file first. -/
def readFrom (files : LogFiles) : Nat → List LogLine
  | 0 => []
  | index + 1 => contents (files index) ++ readFrom files index

def AppLog.reading (s : AppLog) : List LogLine := readFrom s.files kMaxLogFileCount

theorem setFile_self (files : LogFiles) (i : Nat) (file : Option (List LogLine)) :
    setFile files i file i = file := if_pos rfl

theorem setFile_other (files : LogFiles) {i j : Nat} (file : Option (List LogLine)) (h : j ≠ i) :
    setFile files i file j = files j := if_neg h

theorem readFrom_congr {files files' : LogFiles} {n : Nat} (h : ∀ i < n, files i = files' i) :
    readFrom files n = readFrom files' n := by
  induction n with
  | zero => rfl
  | succ n ih => rw [readFrom, readFrom, h n (Nat.lt_succ_self n), ih fun i hi => h i (by omega)]

/-- A line's way from one slot to the next does not change what is read. -/
theorem readFrom_rename (granted : Bool) (files : LogFiles) {i n : Nat} (hi : i + 1 < n) :
    readFrom (renameFile granted files i (i + 1)) n = readFrom files n := by
  by_cases hmove : (granted && (files i).isSome && (files (i + 1)).isNone) = true
  · obtain ⟨⟨-, -⟩, hnone⟩ : (granted = true ∧ (files i).isSome = true) ∧
        (files (i + 1)).isNone = true := by simpa using hmove
    rw [renameFile, if_pos hmove]
    induction n with
    | zero => omega
    | succ n ih =>
        rcases Nat.lt_or_ge (i + 1) n with hlt | hge
        · rw [readFrom, readFrom, ih hlt, setFile_other _ _ (by omega),
            setFile_other _ _ (by omega)]
        · obtain rfl : n = i + 1 := by omega
          have hbelow : readFrom (setFile (setFile files (i + 1) (files i)) i none) i =
              readFrom files i := readFrom_congr fun j hj => by
            rw [setFile_other _ _ (by omega), setFile_other _ _ (by omega)]
          rw [readFrom, readFrom, readFrom, readFrom, hbelow, setFile_self,
            setFile_other _ _ (by omega), setFile_self, Option.isNone_iff_eq_none.mp hnone]
          rfl
  · rw [renameFile, if_neg hmove]

theorem readFrom_shift (rename : Nat → Bool) {k n : Nat} (hk : k < n) (files : LogFiles) :
    readFrom (shiftFiles rename k files) n = readFrom files n := by
  induction k generalizing files with
  | zero => rfl
  | succ k ih => rw [shiftFiles, ih (by omega), readFrom_rename _ _ hk]

/-- What is written to the live file is read last. -/
theorem readFrom_append (files : LogFiles) (lines : List LogLine) (n : Nat) :
    readFrom (setFile files 0 (some (contents (files 0) ++ lines))) (n + 1) =
      readFrom files (n + 1) ++ lines := by
  induction n with
  | zero => simp [readFrom, setFile_self, contents]
  | succ n ih =>
      rw [readFrom, ih, setFile_other _ _ (by omega), ← List.append_assoc]
      rfl

theorem readFrom_live {files : LogFiles} (h : contents (files 0) ≠ []) (n : Nat) :
    readFrom files (n + 1) ≠ [] := by
  induction n with
  | zero => simpa [readFrom] using h
  | succ n ih =>
      rw [readFrom]
      exact fun hnil => ih (List.append_eq_nil_iff.mp hnil).2

theorem removeOldest_live (files : LogFiles) (ok : Bool) : removeOldest files ok 0 = files 0 := by
  rw [removeOldest]
  split
  · exact setFile_other _ _ (by decide)
  · rfl

theorem readFrom_removeOldest (files : LogFiles) (ok : Bool) :
    readFrom (removeOldest files ok) kMaxLogFileCount <:+ readFrom files kMaxLogFileCount := by
  rw [removeOldest]
  split
  · have hbelow : readFrom (setFile files (kMaxLogFileCount - 1) none) (kMaxLogFileCount - 1) =
        readFrom files (kMaxLogFileCount - 1) :=
      readFrom_congr fun i hi => setFile_other _ _ (by omega)
    refine ⟨contents (files (kMaxLogFileCount - 1)), ?_⟩
    change _ ++ (contents (setFile files (kMaxLogFileCount - 1) none (kMaxLogFileCount - 1)) ++
      readFrom _ (kMaxLogFileCount - 1)) = contents _ ++ readFrom _ (kMaxLogFileCount - 1)
    rw [hbelow, setFile_self]
    rfl
  · exact List.suffix_refl _

/-! ## A rotation -/

/-- The oldest backup was there, and was removed. -/
def Rotation.Removes (r : Rotation) : Prop :=
  (r.before (kMaxLogFileCount - 1)).isSome = true ∧ r.answers.remove = true

/-- Every newer file is one slot further up. -/
def Rotation.Shifts (r : Rotation) : Prop :=
  ∀ i < kMaxLogFileCount - 1, r.after (i + 1) = r.before i

/-- No rename of a newer file is refused. -/
def Rotation.Granted (r : Rotation) : Prop :=
  ∀ i < kMaxLogFileCount - 1, (r.before i).isSome = true → r.answers.rename i = true

def Rotation.Made (r : Rotation) : Prop :=
  r.after = shiftFiles r.answers.rename (kMaxLogFileCount - 1)
    (removeOldest r.before r.answers.remove)

theorem renameFile_other (granted : Bool) (files : LogFiles) {i j : Nat} (h : j ≠ i)
    (h' : j ≠ i + 1) : renameFile granted files i (i + 1) j = files j := by
  rw [renameFile]
  split
  · rw [setFile_other _ _ h, setFile_other _ _ h']
  · rfl

theorem shiftFiles_above (rename : Nat → Bool) {k j : Nat} (h : k < j) (files : LogFiles) :
    shiftFiles rename k files j = files j := by
  induction k generalizing files with
  | zero => rfl
  | succ k ih => rw [shiftFiles, ih (by omega), renameFile_other _ _ (by omega) (by omega)]

/-- From a free slot down, the files move up exactly when no rename is refused. -/
theorem shiftFiles_iff (rename : Nat → Bool) {k : Nat} {files : LogFiles}
    (hfree : files k = none) :
    (∀ i < k, shiftFiles rename k files (i + 1) = files i) ↔
      ∀ i < k, (files i).isSome = true → rename i = true := by
  induction k generalizing files with
  | zero => exact iff_of_true (fun i hi => absurd hi (by omega)) fun i hi => absurd hi (by omega)
  | succ k ih =>
      have hbelow : ∀ i < k, renameFile (rename k) files k (k + 1) i = files i :=
        fun i hi => renameFile_other _ _ (Nat.ne_of_lt hi) (by omega)
      have htop : shiftFiles rename (k + 1) files (k + 1) =
          renameFile (rename k) files k (k + 1) (k + 1) :=
        shiftFiles_above rename (Nat.lt_succ_self k) _
      -- the slot below is moved, or was free
      have hmoved : renameFile (rename k) files k (k + 1) (k + 1) = files k ↔
          ((files k).isSome = true → rename k = true) := by
        rw [renameFile]
        cases hk : files k with
        | none => simp [hfree]
        | some lines => cases hr : rename k <;> simp [hfree, setFile]
      have hlow : (renameFile (rename k) files k (k + 1) k = none) ↔
          ((files k).isSome = true → rename k = true) := by
        rw [renameFile]
        cases hk : files k with
        | none => simp [hk]
        | some lines => cases hr : rename k <;> simp [hfree, hk, setFile]
      constructor
      · intro h
        have hk := hmoved.mp (htop ▸ h k (Nat.lt_succ_self k))
        have hrest := (ih (hlow.mpr hk)).mp fun i hi => by
          rw [hbelow i hi]
          exact h i (by omega)
        intro i hi hsome
        rcases Nat.lt_succ_iff_lt_or_eq.mp hi with hlt | rfl
        · exact hrest i hlt (by rwa [hbelow i hlt])
        · exact hk hsome
      · intro h
        have hk := h k (Nat.lt_succ_self k)
        have hrest := (ih (hlow.mpr hk)).mpr fun i hi hsome =>
          h i (by omega) (by rwa [hbelow i hi] at hsome)
        intro i hi
        rcases Nat.lt_succ_iff_lt_or_eq.mp hi with hlt | rfl
        · exact (hrest i hlt).trans (hbelow i hlt)
        · exact htop.trans (hmoved.mpr hk)

theorem Rotation.Made.shifts_iff {r : Rotation} (h : r.Made) (hr : r.Removes) :
    r.Shifts ↔ r.Granted := by
  have hremoved : removeOldest r.before r.answers.remove =
      setFile r.before (kMaxLogFileCount - 1) none := if_pos hr.2
  have hkept : ∀ i < kMaxLogFileCount - 1,
      removeOldest r.before r.answers.remove i = r.before i := fun i hi => by
    rw [hremoved, setFile_other _ _ (by omega)]
  have hfree : removeOldest r.before r.answers.remove (kMaxLogFileCount - 1) = none := by
    rw [hremoved, setFile_self]
  have hiff := shiftFiles_iff r.answers.rename hfree
  constructor
  · intro hs i hi hsome
    exact hiff.mp (fun j hj => by rw [← h, hkept j hj]; exact hs j hj) i hi
      (by rwa [hkept i hi])
  · intro hg i hi
    rw [h, hiff.mpr (fun j hj hsome => hg j hj (by rwa [hkept j hj] at hsome)) i hi, hkept i hi]

/-! ## Runs -/

/-- What holds of the log after any lines, `initial` being what could be read at the start. -/
structure Kept (initial : List LogLine) (s : AppLog) : Prop where
  suffix : s.reading <:+ initial ++ s.reached
  last : initial ++ s.reached ≠ [] → s.reading ≠ []
  closed : s.isOpen = false → s.buffer = []
  size : s.isOpen = true → s.logFileSize ≤ fileBytes (s.files 0)
  rotations : ∀ r ∈ s.rotations, r.Made

section
variable {initial : List LogLine} {s : AppLog}

theorem reading_flush (s : AppLog) : (s.flush true).reading = s.reading ++ s.buffer :=
  readFrom_append s.files s.buffer (kMaxLogFileCount - 1)

theorem fileBytes_append (file : Option (List LogLine)) (lines : List LogLine) :
    fileBytes (some (contents file ++ lines)) = fileBytes file + (lines.map diskBytes).sum := by
  simp [fileBytes, contents]

theorem Kept.flush (h : Kept initial s) (ok : Bool) : Kept initial (s.flush ok) := by
  cases ok with
  | false => exact h
  | true =>
      obtain ⟨p, hp⟩ := h.suffix
      have hreached : initial ++ (s.flush true).reached = p ++ (s.reading ++ s.buffer) := by
        change initial ++ (s.reached ++ s.buffer) = _
        rw [← List.append_assoc, ← hp, List.append_assoc]
      refine ⟨⟨p, ?_⟩, fun hne => ?_, fun _ => rfl, fun hopen => ?_, h.rotations⟩
      · rw [reading_flush, hreached]
      · rw [reading_flush]
        intro hnil
        obtain ⟨hread, hbuffer⟩ := List.append_eq_nil_iff.mp hnil
        have hsame : (s.flush true).reached = s.reached := by
          change s.reached ++ s.buffer = _
          rw [hbuffer, List.append_nil]
        exact h.last (hsame ▸ hne) hread
      · have hsize := h.size hopen
        change s.logFileSize ≤
          fileBytes (setFile s.files 0 (some (contents (s.files 0) ++ s.buffer)) 0)
        rw [setFile_self, fileBytes_append]
        omega

theorem Kept.close (h : Kept initial s) (ok : Bool) : Kept initial (s.close ok) :=
  { h.flush (s.isOpen && ok) with
    closed := fun _ => rfl
    size := fun hopen => absurd hopen (by simp [AppLog.close]) }

theorem reading_openLogFile (s : AppLog) (ok : Bool) :
    (s.openLogFile ok).1.reading = s.reading := by
  cases ok with
  | false => rfl
  | true =>
      have happend := readFrom_append s.files [] (kMaxLogFileCount - 1)
      rw [List.append_nil, List.append_nil] at happend
      exact happend

theorem Kept.opened (h : Kept initial s) (ok : Bool) :
    Kept initial
      { (s.openLogFile ok).1 with
        logFileSize := if ok then fileBytes ((s.openLogFile ok).1.files 0) else 0 } := by
  have hread := reading_openLogFile s ok
  cases ok with
  | false =>
      exact ⟨h.suffix, h.last, h.closed, fun _ => Nat.zero_le _, h.rotations⟩
  | true =>
      exact ⟨hread ▸ h.suffix, fun hne => hread ▸ h.last hne, (fun hshut => nomatch hshut),
        fun _ => Nat.le_refl _, h.rotations⟩

theorem contents_close_live (s : AppLog) (ok : Bool) (h : contents (s.files 0) ≠ []) :
    contents ((s.close ok).files 0) ≠ [] := by
  cases hboth : s.isOpen && ok with
  | false => simpa [AppLog.close, AppLog.flush, hboth] using h
  | true =>
      simp only [AppLog.close, AppLog.flush, hboth, if_true, setFile_self]
      exact fun hnil => h (List.append_eq_nil_iff.mp hnil).1

/-- A rotation of a live file that is not empty. -/
theorem Kept.rotateLogFile (h : Kept initial s) (hlive : contents (s.files 0) ≠ [])
    (a : RotateAnswers) : Kept initial (s.rotateLogFile a).1 := by
  have hclosed := h.close a.close
  have hliveClosed := contents_close_live s a.close hlive
  have hread : readFrom (shiftFiles a.rename (kMaxLogFileCount - 1)
      (removeOldest (s.close a.close).files a.remove)) kMaxLogFileCount =
        readFrom (removeOldest (s.close a.close).files a.remove) kMaxLogFileCount :=
    readFrom_shift _ (by decide) _
  have hshifted : Kept initial
      { s.close a.close with
        files := shiftFiles a.rename (kMaxLogFileCount - 1)
          (removeOldest (s.close a.close).files a.remove)
        rotations := ⟨(s.close a.close).files, a, shiftFiles a.rename (kMaxLogFileCount - 1)
          (removeOldest (s.close a.close).files a.remove)⟩ :: (s.close a.close).rotations } := by
    refine ⟨?_, fun _ => ?_, fun _ => rfl, (fun hopen => nomatch hopen), ?_⟩
    · change readFrom _ kMaxLogFileCount <:+ _
      rw [hread]
      exact (readFrom_removeOldest _ _).trans hclosed.suffix
    · change readFrom _ kMaxLogFileCount ≠ []
      rw [hread]
      exact readFrom_live (by rwa [removeOldest_live]) (kMaxLogFileCount - 1)
    · intro r hr
      rcases List.mem_cons.mp hr with rfl | hr
      · rfl
      · exact hclosed.rotations r hr
  have hopened := hshifted.opened a.open_
  cases hopen : a.open_ with
  | false =>
      rw [hopen] at hopened
      simpa [AppLog.rotateLogFile, AppLog.openLogFile, hopen] using hopened
  | true =>
      rw [hopen] at hopened
      simpa [AppLog.rotateLogFile, AppLog.openLogFile, hopen] using hopened

/-- A file that is due for a rotation is not empty. -/
theorem live_of_due {files : LogFiles} {size maxBytes : Nat} (hmax : 0 < maxBytes)
    (hdue : maxBytes ≤ size) (hsize : size ≤ fileBytes (files 0)) : contents (files 0) ≠ [] := by
  intro hnil
  rw [fileBytes, hnil] at hsize
  simp at hsize
  omega

theorem maxLogFileBytes_rotate (s : AppLog) (a : RotateAnswers) :
    (s.rotateLogFile a).1.maxLogFileBytes = s.maxLogFileBytes := by
  have hclose : (s.close a.close).maxLogFileBytes = s.maxLogFileBytes := by
    simp only [AppLog.close, AppLog.flush]
    split <;> rfl
  cases hopen : a.open_ <;> simpa [AppLog.rotateLogFile, AppLog.openLogFile, hopen] using hclose

theorem Kept.ensureLogFileOpen (h : Kept initial s) (hmax : 0 < s.maxLogFileBytes)
    (a : WriteAnswers) : Kept initial (s.ensureLogFileOpen a).1 ∧
      (s.ensureLogFileOpen a).1.maxLogFileBytes = s.maxLogFileBytes := by
  rw [AppLog.ensureLogFileOpen]
  split
  · exact ⟨h, rfl⟩
  · cases hopen : a.open_ with
    | false => exact ⟨h, rfl⟩
    | true =>
        have hopened := h.opened true
        simp only [AppLog.openLogFile, if_true] at hopened ⊢
        simp only [Bool.not_true, Bool.false_eq_true, if_false]
        split
        · rename_i hdue
          refine ⟨hopened.rotateLogFile ?_ _, maxLogFileBytes_rotate _ _⟩
          exact live_of_due hmax hdue (Nat.le_refl _)
        · exact ⟨hopened, rfl⟩

theorem Kept.buffered (h : Kept initial s) (hopen : s.isOpen = true) (line : LogLine) :
    Kept initial { s with buffer := s.buffer ++ [line] } :=
  ⟨h.suffix, h.last, fun hshut => absurd (hopen.symm.trans hshut) (by simp), h.size, h.rotations⟩

theorem writtenBytes_le_diskBytes (line : LogLine) : writtenBytes line ≤ diskBytes line := by
  rw [diskBytes]
  omega

theorem ensureLogFileOpen_isOpen (s : AppLog) (a : WriteAnswers)
    (h : (s.ensureLogFileOpen a).2 = true) : (s.ensureLogFileOpen a).1.isOpen = true := by
  rw [AppLog.ensureLogFileOpen] at h ⊢
  split at h
  · rename_i hopen
    rw [if_pos hopen]
    exact hopen
  · rename_i hshut
    rw [if_neg hshut]
    cases hopen : a.open_ with
    | false => simp [AppLog.openLogFile, hopen] at h
    | true =>
        simp only [AppLog.openLogFile, hopen, if_true, Bool.not_true, Bool.false_eq_true,
          if_false] at h ⊢
        split at h
        · rename_i hdue
          rw [if_pos hdue]
          cases hre : a.leftover.open_ with
          | false => simp [AppLog.rotateLogFile, AppLog.openLogFile, hre] at h
          | true => simp [AppLog.rotateLogFile, AppLog.openLogFile, hre]
        · rename_i hdue
          rw [if_neg hdue]

theorem Kept.writeLine (h : Kept initial s) (hmax : 0 < s.maxLogFileBytes) (line : LogLine)
    (a : WriteAnswers) : Kept initial (s.writeLine line a).1 ∧
      (s.writeLine line a).1.maxLogFileBytes = s.maxLogFileBytes := by
  obtain ⟨hkept, hbytes⟩ := h.ensureLogFileOpen hmax a
  have hisOpen := ensureLogFileOpen_isOpen s a
  rw [AppLog.writeLine]
  generalize s.ensureLogFileOpen a = e at hkept hbytes hisOpen
  obtain ⟨t, opened⟩ := e
  dsimp only at hkept hbytes hisOpen ⊢
  split
  · exact ⟨hkept, hbytes⟩
  · rename_i hopened
    have hopen : t.isOpen = true := hisOpen (by simpa using hopened)
    split
    · exact ⟨hkept, hbytes⟩
    · have hbuffered := hkept.buffered hopen line
      split
      · exact ⟨hbuffered, hbytes⟩
      · have hflushed := hbuffered.flush true
        -- the line itself is on disk now
        have hsize : t.logFileSize + writtenBytes line ≤
            fileBytes (setFile t.files 0
              (some (contents (t.files 0) ++ (t.buffer ++ [line]))) 0) := by
          have hold := hkept.size hopen
          have hline := writtenBytes_le_diskBytes line
          rw [setFile_self, fileBytes_append, List.map_append, List.sum_append]
          simp only [List.map_cons, List.map_nil, List.sum_cons, List.sum_nil]
          omega
        have hcounted : Kept initial
            { ({ t with buffer := t.buffer ++ [line] } : AppLog).flush true with
              logFileSize := t.logFileSize + writtenBytes line } :=
          { hflushed with size := fun _ => hsize }
        split
        · rename_i hdue
          refine ⟨hcounted.rotateLogFile ?_ _, (maxLogFileBytes_rotate _ _).trans hbytes⟩
          exact live_of_due (hbytes ▸ hmax) hdue hsize
        · exact ⟨hcounted, hbytes⟩

theorem Kept.writeLines (h : Kept initial s) (hmax : 0 < s.maxLogFileBytes)
    (lines : List (LogLine × WriteAnswers)) : Kept initial (s.writeLines lines) := by
  induction lines generalizing s with
  | nil => exact h
  | cons l lines ih =>
      obtain ⟨hkept, hbytes⟩ := h.writeLine hmax l.1 l.2
      exact ih hkept (hbytes ▸ hmax)

end

/-- What can be read is the end of what was there and of what was written since; and the oldest
    backup goes only where all newer files move up exactly when it goes only where no rename of
    them is refused. -/
theorem rotation_loses_oldest (files : LogFiles) (maxBytes : Nat) (hmax : 0 < maxBytes)
    (lines : List (LogLine × WriteAnswers)) :
    let s := (AppLog.start files maxBytes).writeLines lines
    s.reading <:+ readFrom files kMaxLogFileCount ++ s.reached ∧
    (readFrom files kMaxLogFileCount ++ s.reached ≠ [] → s.reading ≠ []) ∧
    ((∀ r ∈ s.rotations, r.Removes → r.Shifts) ↔ ∀ r ∈ s.rotations, r.Removes → r.Granted) := by
  have hstart : Kept (readFrom files kMaxLogFileCount) (AppLog.start files maxBytes) := by
    refine ⟨?_, fun hne => ?_, fun _ => rfl, (fun hopen => nomatch hopen), fun r hr => nomatch hr⟩
    · rw [show (AppLog.start files maxBytes).reached = [] from rfl, List.append_nil]
      exact List.suffix_refl _
    · rwa [show (AppLog.start files maxBytes).reached = [] from rfl, List.append_nil] at hne
  have h := hstart.writeLines hmax lines
  refine ⟨h.suffix, h.last, ?_⟩
  constructor
  · exact fun hall r hr hremoves => ((h.rotations r hr).shifts_iff hremoves).mp (hall r hr hremoves)
  · exact fun hall r hr hremoves =>
      ((h.rotations r hr).shifts_iff hremoves).mpr (hall r hr hremoves)

theorem rotation_loses_oldest_one :
    ((AppLog.start (fun _ => none) 10).writeLines [("a line", {})]).reading <:+ ["a line"] :=
  (rotation_loses_oldest (fun _ => none) 10 (by decide) [("a line", {})]).1

/-- A viewer holds the live file: each line's rotation removes a backup, and moves none in. -/
theorem backups_lost_to_retries :
    let held : RotateAnswers := { rename := fun i => i ≠ 0 }
    let files : LogFiles := fun i =>
      if i = 1 then some ["newer"] else if i = 2 then some ["old"] else none
    let s := (AppLog.start files 5).writeLines
      [("first", { rotate := held }), ("second", { rotate := held })]
    s.reading = ["first", "second"] ∧ ∃ r ∈ s.rotations, r.Removes ∧ ¬ r.Shifts := by
  refine ⟨by decide, ?_⟩
  refine ⟨_, List.mem_cons_self, ⟨by decide, rfl⟩, fun h => ?_⟩
  exact absurd (h 0 (by decide)) (by decide)

end Exosnap.Diagnostics
