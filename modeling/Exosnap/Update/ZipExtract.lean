/-
  The extraction of an update's archive (`zip_extract.cpp`, `Utf8ToWide`): the check of the names, and
  the two loops of `ExtractZip`.

  A name is checked as bytes and written as wide characters. The conversion is a parameter with what
  Windows documents of it: an ASCII byte is its character, other bytes give other characters, at least
  one. What becomes of the dots and blanks at the end of a name, which Windows takes away from all but
  an extended path, is a parameter too; so are the answers of miniz and of the file system.
-/
import Exosnap.Lib.Separated

namespace Exosnap.Update.ZipExtract

/-! ## Names -/

abbrev Bytes := List UInt8

def bytesOf (s : String) : Bytes := s.toUTF8.toList

def slash : UInt8 := 0x2F
def backslash : UInt8 := 0x5C
def colon : UInt8 := 0x3A
def dot : UInt8 := 0x2E

def isSeparatorByte (b : UInt8) : Bool := b = slash ∨ b = backslash

def IsSafeZipEntryName (entryName : Bytes) : Bool :=
  match entryName with
  | [] => false
  | front :: _ =>
      if isSeparatorByte front then false
      else if colon ∈ entryName then false
      else (entryName.splitOnP isSeparatorByte).all (· ≠ [dot, dot])

/-- Bytes and the wide characters they may be converted to. -/
inductive Widens : Bytes → List Char → Prop where
  | nil : Widens [] []
  | ascii {b : UInt8} {bytes : Bytes} {text : List Char} (hb : b < 0x80)
      (rest : Widens bytes text) : Widens (b :: bytes) (Char.ofNat b.toNat :: text)
  | other {run bytes : Bytes} {chars text : List Char} (hrun : ∀ b ∈ run, 0x80 ≤ b)
      (hchars : ∀ c ∈ chars, 128 ≤ c.toNat) (hne : chars ≠ []) (rest : Widens bytes text) :
      Widens (run ++ bytes) (chars ++ text)

/-- `MultiByteToWideChar` for UTF-8: `none` when it fails. -/
structure MultiByteToWideChar where
  convert : Bytes → Option (List Char)
  widens : ∀ bytes text, convert bytes = some text → Widens bytes text

def Utf8ToWide (api : MultiByteToWideChar) (utf8 : Bytes) : List Char :=
  if utf8 = [] then [] else (api.convert utf8).getD []

/-! ## Paths -/

abbrev Name := List Char

def isSeparator (c : Char) : Bool := c = '/' ∨ c = '\\'

/-- What `operator/` makes of the destination and a text: the names of the text below it, or, if it
    has a root of its own, another place. -/
inductive OutPath where
  | inDest (names : List Name)
  | elsewhere (text : List Char)
  deriving DecidableEq

def appendToDest (text : List Char) : OutPath :=
  if (text.head?.any isSeparator) ∨ text[1]? = some ':' then .elsewhere text
  else .inDest (text.splitOnP isSeparator)

/-- One name, behind the names before it, the last one first. -/
def pushName (atEnd : Name → Name) (stack : List Name) (name : Name) : List Name :=
  if name = [] ∨ name = ['.'] then stack
  else if name = ['.', '.'] then stack.tail
  else if atEnd name = [] then stack
  else atEnd name :: stack

/-- The place that Windows takes a path for: `none` for one of another root, and for a stream. -/
def resolve (atEnd : Name → Name) (dest : List Name) : OutPath → Option (List Name)
  | .elsewhere _ => none
  | .inDest names =>
      if names.any (':' ∈ ·) then none
      else some (names.foldl (pushName atEnd) dest.reverse).reverse

def OutPath.parentPath : OutPath → OutPath
  | .inDest names => .inDest names.dropLast
  | path => path

/-- `create_directories` creates what is missing on the way, too. -/
def createDirectories : OutPath → List OutPath
  | .inDest names => names.inits.map .inDest
  | path => [path]

/-! ## The archive -/

/-- An entry, and what miniz and the file system answer when it is handled. -/
structure Entry where
  filename : Bytes
  directory : Bool
  statOk : Bool
  directoriesOk : Bool
  openOk : Bool
  extractOk : Bool

/-- An archive, and what is answered before its entries. -/
structure Archive where
  zipPathUtf8 : Option Bytes
  opens : Bool
  entries : List Entry
  destFailure : Option Bytes

structure Extracted where
  /-- Every path that is created or opened for writing. -/
  writes : List OutPath
  error : Option Bytes

/-- The first loop: the names are checked before anything is written. -/
def checkNames : Nat → List Entry → Option Bytes
  | _, [] => none
  | i, entry :: rest =>
      if ¬ entry.statOk then
        some (bytesOf "ExtractZip: failed to stat entry " ++ bytesOf (toString i))
      else if ¬ IsSafeZipEntryName entry.filename then
        some (bytesOf "ExtractZip: unsafe entry name rejected: " ++ entry.filename)
      else checkNames (i + 1) rest

variable (api : MultiByteToWideChar)

def outPath (entry : Entry) : OutPath := appendToDest (Utf8ToWide api entry.filename)

/-- The second loop's body: what it writes, and its error. -/
def extractEntry (entry : Entry) : List OutPath × Option Bytes :=
  let path := outPath api entry
  if entry.directory then
    (createDirectories path,
      if entry.directoriesOk then none
      else some (bytesOf "ExtractZip: failed to create directory for entry: " ++ entry.filename))
  else if ¬ entry.directoriesOk then
    (createDirectories path.parentPath,
      some (bytesOf "ExtractZip: failed to create parent directory for entry: " ++ entry.filename))
  else
    (createDirectories path.parentPath ++ [path],
      if ¬ entry.openOk then
        some (bytesOf "ExtractZip: failed to open destination file for entry: " ++ entry.filename)
      else if ¬ entry.extractOk then
        some (bytesOf "ExtractZip: failed to extract entry: " ++ entry.filename)
      else none)

def extractEntries : List Entry → Extracted
  | [] => ⟨[], none⟩
  | entry :: rest =>
      match extractEntry api entry with
      | (writes, some error) => ⟨writes, some error⟩
      | (writes, none) =>
          let behind := extractEntries rest
          { behind with writes := writes ++ behind.writes }

def ExtractZip (archive : Archive) : Extracted :=
  match archive.zipPathUtf8 with
  | none => ⟨[], some (bytesOf "ExtractZip: failed to convert zip path to UTF-8")⟩
  | some zipPath =>
      if ¬ archive.opens then
        ⟨[], some (bytesOf "ExtractZip: failed to open zip archive: " ++ zipPath)⟩
      else
        match checkNames 0 archive.entries with
        | some error => ⟨[], some error⟩
        | none =>
            let dest := createDirectories (.inDest [])
            match archive.destFailure with
            | some message =>
                ⟨dest, some
                  (bytesOf "ExtractZip: failed to create destination directory: " ++ message)⟩
            | none =>
                let extracted := extractEntries api archive.entries
                { extracted with writes := dest ++ extracted.writes }

variable {api : MultiByteToWideChar}

/-! ## The conversion -/

theorem toNat_ofNat_byte (b : UInt8) : (Char.ofNat b.toNat).toNat = b.toNat := by
  have hlt := b.toNat_lt
  have hvalid : b.toNat.isValidChar := Or.inl (by omega)
  rw [Char.ofNat, dif_pos hvalid]
  rfl

/-- A character below 128 comes from the byte of that value. -/
theorem byte_of_char {b : UInt8} {c : Char} (h : Char.ofNat b.toNat = c) : b.toNat = c.toNat := by
  rw [← h, toNat_ofNat_byte]

theorem isSeparator_byte {b : UInt8} : isSeparator (Char.ofNat b.toNat) = isSeparatorByte b := by
  have hchar : ∀ c : Char, ∀ d : UInt8, d.toNat = c.toNat →
      (Char.ofNat b.toNat = c ↔ b = d) := by
    intro c d hd
    constructor
    · exact fun h => UInt8.toNat_inj.mp ((byte_of_char h).trans hd.symm)
    · rintro rfl
      rw [hd, Char.ofNat_toNat]
  rw [isSeparator, isSeparatorByte, decide_eq_decide]
  exact or_congr (hchar '/' slash rfl) (hchar '\\' backslash rfl)

theorem isSeparator_of_le {c : Char} (h : 128 ≤ c.toNat) : isSeparator c = false := by
  refine decide_eq_false ?_
  rintro (rfl | rfl) <;> exact absurd h (by decide)

theorem isSeparatorByte_of_le {b : UInt8} (h : 0x80 ≤ b) : isSeparatorByte b = false := by
  refine decide_eq_false ?_
  rintro (rfl | rfl) <;> exact absurd h (by decide)

/-- The parts of a name are converted each by itself. -/
theorem widens_splitOnP {bytes : Bytes} {text : List Char} (h : Widens bytes text) :
    List.Forall₂ Widens (bytes.splitOnP isSeparatorByte) (text.splitOnP isSeparator) := by
  induction h with
  | nil =>
      rw [List.splitOnP_nil, List.splitOnP_nil]
      exact .cons .nil .nil
  | ascii hb rest ih =>
      rw [List.splitOnP_cons_eq_if_modifyHead, List.splitOnP_cons_eq_if_modifyHead, isSeparator_byte]
      split_ifs
      · exact .cons .nil ih
      · exact Separated.forall₂_modifyHead (fun _ _ h => h.ascii hb) ih
  | other hrun hchars hne rest ih =>
      rw [Separated.splitOnP_append fun b hb => isSeparatorByte_of_le (hrun b hb),
        Separated.splitOnP_append fun c hc => isSeparator_of_le (hchars c hc)]
      exact Separated.forall₂_modifyHead (fun _ _ h => h.other hrun hchars hne) ih

/-- An ASCII character of the text is a byte of the name. -/
theorem byte_mem_of_widens {bytes : Bytes} {text : List Char} (h : Widens bytes text) {c : Char}
    (hc : c ∈ text) (hascii : c.toNat < 128) : ∃ b ∈ bytes, b.toNat = c.toNat := by
  induction h with
  | nil => exact absurd hc List.not_mem_nil
  | @ascii b bytes text hb rest ih =>
      rcases List.mem_cons.mp hc with heq | hc
      · exact ⟨b, List.mem_cons_self, byte_of_char heq.symm⟩
      · obtain ⟨b', hb', heq⟩ := ih hc
        exact ⟨b', List.mem_cons_of_mem b hb', heq⟩
  | other hrun hchars hne rest ih =>
      rcases List.mem_append.mp hc with hc | hc
      · exact absurd (hchars c hc) (Nat.not_le.mpr hascii)
      · obtain ⟨b', hb', heq⟩ := ih hc
        exact ⟨b', List.mem_append_right _ hb', heq⟩

/-- A text of ASCII characters comes from these bytes. -/
theorem bytes_of_ascii {bytes : Bytes} {text : List Char} (h : Widens bytes text)
    (hascii : ∀ c ∈ text, c.toNat < 128) : bytes.map UInt8.toNat = text.map Char.toNat := by
  induction h with
  | nil => rfl
  | ascii hb rest ih =>
      rw [List.map_cons, List.map_cons, toNat_ofNat_byte,
        ih fun c hc => hascii c (List.mem_cons_of_mem _ hc)]
  | @other run bytes chars text hrun hchars hne rest ih =>
      obtain ⟨c, chars, rfl⟩ := List.exists_cons_of_ne_nil hne
      have hlt := hascii c List.mem_cons_self
      exact absurd (hchars c List.mem_cons_self) (Nat.not_le.mpr hlt)

/-! ## Names that pass -/

/-- What the checked name is as a text: it has no root, no colon, and no part that is a parent. -/
structure SafeText (text : List Char) : Prop where
  rooted : text.head?.any isSeparator = false
  colon : ':' ∉ text
  parents : ['.', '.'] ∉ text.splitOnP isSeparator

theorem safeText_nil : SafeText [] where
  rooted := rfl
  colon := List.not_mem_nil
  parents := by decide

theorem head_of_widens {bytes : Bytes} {text : List Char} (h : Widens bytes text)
    (hfront : bytes.head?.any isSeparatorByte = false) : text.head?.any isSeparator = false := by
  cases h with
  | nil => rfl
  | ascii hb rest => exact isSeparator_byte.trans hfront
  | @other run bytes chars text hrun hchars hne rest =>
      obtain ⟨c, chars, rfl⟩ := List.exists_cons_of_ne_nil hne
      exact isSeparator_of_le (hchars c List.mem_cons_self)

theorem isSafeZipEntryName_iff {entryName : Bytes} :
    IsSafeZipEntryName entryName ↔ entryName ≠ [] ∧ entryName.head?.any isSeparatorByte = false ∧
      colon ∉ entryName ∧ [dot, dot] ∉ entryName.splitOnP isSeparatorByte := by
  cases entryName with
  | nil => exact iff_of_false nofun fun h => h.1 rfl
  | cons front rest =>
      rw [IsSafeZipEntryName]
      split_ifs with hfront hcolon
      · exact iff_of_false nofun fun h => absurd (hfront.symm.trans h.2.1) nofun
      · exact iff_of_false nofun fun h => h.2.2.1 hcolon
      · rw [List.all_eq_true]
        constructor
        · exact fun h => ⟨List.cons_ne_nil _ _, Bool.not_eq_true _ |>.mp hfront, hcolon,
            fun hmem => of_decide_eq_true (h _ hmem) rfl⟩
        · exact fun h part hpart => decide_eq_true fun heq => h.2.2.2 (heq ▸ hpart)

theorem safeText_of_widens {bytes : Bytes} {text : List Char} (hsafe : IsSafeZipEntryName bytes)
    (h : Widens bytes text) : SafeText text := by
  obtain ⟨-, hfront, hcolon, hparents⟩ := isSafeZipEntryName_iff.mp hsafe
  refine ⟨head_of_widens h hfront, fun hmem => ?_, fun hmem => ?_⟩
  · obtain ⟨b, hb, heq⟩ := byte_mem_of_widens h hmem (by decide)
    have hbyte : b = colon := UInt8.toNat_inj.mp heq
    exact hcolon (hbyte ▸ hb)
  · obtain ⟨part, hpart, hwidens⟩ := Separated.exists_of_forall₂ (widens_splitOnP h) hmem
    have hdots : ∀ c ∈ [('.' : Char), '.'], c.toNat < 128 := by simp
    have hbytes := bytes_of_ascii hwidens hdots
    have heq : part = [dot, dot] :=
      List.map_injective_iff.mpr (fun _ _ => UInt8.toNat_inj.mp) hbytes
    exact hparents (heq ▸ hpart)

theorem safeText_utf8ToWide (api : MultiByteToWideChar) {name : Bytes}
    (hsafe : IsSafeZipEntryName name) : SafeText (Utf8ToWide api name) := by
  rw [Utf8ToWide]
  split_ifs
  · exact safeText_nil
  · cases hconvert : api.convert name with
    | none => exact safeText_nil
    | some text => exact safeText_of_widens hsafe (api.widens name text hconvert)

/-! ## Paths below the destination -/

/-- Windows takes the path for a place below the destination, or for the destination. -/
def Below (atEnd : Name → Name) (dest : List Name) (path : OutPath) : Prop :=
  ∃ rest, resolve atEnd dest path = some (dest ++ rest)

/-- No name of the path is a parent, or has a colon. -/
def PlainNames (names : List Name) : Prop := ∀ name ∈ names, name ≠ ['.', '.'] ∧ ':' ∉ name

theorem foldl_pushName (atEnd : Name → Name) {names : List Name} (h : PlainNames names)
    (stack : List Name) : ∃ rest, names.foldl (pushName atEnd) stack = rest ++ stack := by
  induction names generalizing stack with
  | nil => exact ⟨[], rfl⟩
  | cons name names ih =>
      have hrest : PlainNames names := fun n hn => h n (List.mem_cons_of_mem _ hn)
      rw [List.foldl_cons, pushName]
      split_ifs with hnone hparent hempty
      · exact ih hrest stack
      · exact absurd hparent (h name List.mem_cons_self).1
      · exact ih hrest stack
      · obtain ⟨rest, heq⟩ := ih hrest (atEnd name :: stack)
        exact ⟨rest ++ [atEnd name], by rw [heq, List.append_assoc, List.singleton_append]⟩

theorem below_of_plain (atEnd : Name → Name) (dest : List Name) {names : List Name}
    (h : PlainNames names) : Below atEnd dest (.inDest names) := by
  obtain ⟨rest, heq⟩ := foldl_pushName atEnd h dest.reverse
  have hcolon : ¬ names.any (':' ∈ ·) := by
    rw [List.any_eq_true]
    rintro ⟨name, hname, hmem⟩
    exact (h name hname).2 (of_decide_eq_true hmem)
  refine ⟨rest.reverse, ?_⟩
  rw [resolve, if_neg hcolon, heq, List.reverse_append, List.reverse_reverse]

theorem appendToDest_of_safe {text : List Char} (h : SafeText text) :
    appendToDest text = .inDest (text.splitOnP isSeparator) ∧
      PlainNames (text.splitOnP isSeparator) := by
  refine ⟨if_neg ?_, fun name hname => ⟨fun heq => h.parents (heq ▸ hname), fun hmem => ?_⟩⟩
  · rintro (hroot | hdrive)
    · exact absurd (h.rooted.symm.trans hroot) nofun
    · exact h.colon (List.mem_of_getElem? hdrive)
  · exact h.colon (Separated.mem_of_mem_splitOnP hname _ hmem).1

theorem plainNames_sublist {names names' : List Name} (h : PlainNames names)
    (hsub : names' ⊆ names) :
    PlainNames names' := fun name hname => h name (hsub hname)

theorem below_createDirectories (atEnd : Name → Name) (dest : List Name) {names : List Name}
    (h : PlainNames names) : ∀ path ∈ createDirectories (.inDest names), Below atEnd dest path := by
  intro path hpath
  obtain ⟨front, hfront, rfl⟩ := List.mem_map.mp hpath
  exact below_of_plain atEnd dest
    (plainNames_sublist h ((List.mem_inits _ _).mp hfront).subset)

/-! ## The extraction -/

/-- What is written for an entry is below the destination. -/
theorem below_extractEntry (api : MultiByteToWideChar) (atEnd : Name → Name) (dest : List Name)
    {entry : Entry} (hsafe : IsSafeZipEntryName entry.filename) :
    ∀ path ∈ (extractEntry api entry).1, Below atEnd dest path := by
  obtain ⟨hpath, hplain⟩ := appendToDest_of_safe (safeText_utf8ToWide api hsafe)
  have hparent := plainNames_sublist hplain (List.dropLast_subset _)
  intro path hmem
  rw [extractEntry, outPath, hpath] at hmem
  by_cases hdirectory : entry.directory
  · rw [if_pos hdirectory] at hmem
    exact below_createDirectories atEnd dest hplain path hmem
  rw [if_neg hdirectory] at hmem
  by_cases hfailed : ¬ entry.directoriesOk
  · rw [if_pos hfailed] at hmem
    exact below_createDirectories atEnd dest hparent path hmem
  rw [if_neg hfailed] at hmem
  rcases List.mem_append.mp hmem with hmem | hmem
  · exact below_createDirectories atEnd dest hparent path hmem
  · rw [List.mem_singleton.mp hmem]
    exact below_of_plain atEnd dest hplain

theorem below_extractEntries (atEnd : Name → Name) (dest : List Name) {entries : List Entry}
    (hsafe : ∀ entry ∈ entries, IsSafeZipEntryName entry.filename) :
    ∀ path ∈ (extractEntries api entries).writes, Below atEnd dest path := by
  induction entries with
  | nil => exact fun path hpath => absurd hpath List.not_mem_nil
  | cons entry rest ih =>
      have hentry := below_extractEntry api atEnd dest (hsafe entry List.mem_cons_self)
      have hrest := ih fun e he => hsafe e (List.mem_cons_of_mem entry he)
      rw [extractEntries]
      cases h : extractEntry api entry with
      | mk writes error =>
          rw [h] at hentry
          cases error with
          | some error => exact hentry
          | none =>
              intro path hpath
              exact (List.mem_append.mp hpath).elim (hentry path) (hrest path)

/-- The names that the first loop lets pass. -/
theorem safe_of_checkNames {i : Nat} {entries : List Entry} (h : checkNames i entries = none) :
    ∀ entry ∈ entries, IsSafeZipEntryName entry.filename := by
  induction entries generalizing i with
  | nil => exact fun entry hentry => absurd hentry List.not_mem_nil
  | cons entry rest ih =>
      rw [checkNames] at h
      split_ifs at h with hstat hsafe
      intro e he
      rcases List.mem_cons.mp he with rfl | he
      · exact hsafe
      · exact ih h e he

/-- `ExtractZip` writes something only behind a first loop that has let all names pass. -/
theorem extractZip_cases (api : MultiByteToWideChar) (archive : Archive) :
    ((ExtractZip api archive).writes = [] ∧ (ExtractZip api archive).error ≠ none) ∨
      (checkNames 0 archive.entries = none ∧
        (ExtractZip api archive).writes ⊆ createDirectories (.inDest []) ++
          (extractEntries api archive.entries).writes) := by
  rw [ExtractZip]
  cases archive.zipPathUtf8 with
  | none => exact .inl ⟨rfl, Option.some_ne_none _⟩
  | some zipPath =>
      dsimp only
      cases archive.opens with
      | false => exact .inl ⟨rfl, Option.some_ne_none _⟩
      | true =>
          rw [if_neg (by simp)]
          cases checkNames 0 archive.entries with
          | some error => exact .inl ⟨rfl, Option.some_ne_none _⟩
          | none =>
              refine .inr ⟨rfl, ?_⟩
              cases archive.destFailure with
              | some message => exact List.subset_append_left _ _
              | none => exact List.Subset.refl _

end Exosnap.Update.ZipExtract
