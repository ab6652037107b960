/-
  The crash manifest (`RecoveryManifestStore.cpp`): an entry as a JSON object, the file as it is read
  back, and the three changes, each of which loads the list, changes it and replaces the file.

  The text of a JSON document is a parameter: `JsonText` says that what this store writes is read back
  as the document it was written from. A string is a sequence of Unicode characters. The lock is not
  modelled: a call holds it from its first read to its last write, so calls are taken one after another.
  What the environment decides of a call (does the file open for reading, is the write committed)
  comes with the call. The log lines and the making of the directory are left out.
-/
import Exosnap.Lib.Trimming

namespace Exosnap.Settings

/-! ## JSON -/

/-- A document. A number is what it is as an `int`, where it is one; an object has its fields in the
    order of their keys. -/
inductive Json where
  | null
  | bool (value : Bool)
  | number (asInt : Option Int)
  | string (value : String)
  | array (values : List Json)
  | object (fields : List (String × Json))

namespace Json

abbrev Fields := List (String × Json)

def value (fields : Fields) (key : String) : Json := (fields.lookup key).getD .null

def toStr : Json → String
  | .string s => s
  | _ => ""

def toBool (default : Bool) : Json → Bool
  | .bool b => b
  | _ => default

def toInt (default : Int) : Json → Int
  | .number n => n.getD default
  | _ => default

def toArray : Json → List Json
  | .array vs => vs
  | _ => []

end Json

/-- `QChar::isSpace`. -/
def isSpace (c : Char) : Bool :=
  let n := c.toNat
  (9 ≤ n && n ≤ 13) || n == 0x20 || n == 0x85 || n == 0xA0 || n == 0x1680 ||
    (0x2000 ≤ n && n ≤ 0x200A) || n == 0x2028 || n == 0x2029 || n == 0x202F || n == 0x205F ||
    n == 0x3000

def trimmed (s : String) : String := Trimming.trimString isSpace s

/-- `QString::toLower`, on the characters whose lower case is an ASCII letter: the ASCII capitals and
    the Kelvin sign. No other character is part of a container's name. -/
def toLower (s : String) : String :=
  s.map fun c => if c = '\u212A' then 'k' else c.toLower

/-! ## Entries -/

structure RecoveryManifestEntry where
  id : String
  artefactPath : String
  intendedContainer : String
  finalOutputPath : String
  startedAt : String
  finalized : Bool := false
  deriving DecidableEq, Repr

def entryToJson (e : RecoveryManifestEntry) : Json :=
  .object
    [("artefact_path", .string e.artefactPath),
      ("final_output_path", .string e.finalOutputPath),
      ("finalized", .bool e.finalized),
      ("id", .string e.id),
      ("intended_container", .string e.intendedContainer),
      ("started_at", .string e.startedAt)]

def entryFromJson (obj : Json.Fields) : Option RecoveryManifestEntry :=
  let id := trimmed (Json.value obj "id").toStr
  if id.isEmpty then none
  else
    let artefact := trimmed (Json.value obj "artefact_path").toStr
    if artefact.isEmpty then none
    else
      let container := toLower (trimmed (Json.value obj "intended_container").toStr)
      if container ≠ "mkv" ∧ container ≠ "mp4" then none
      else
        some
          { id := id
            artefactPath := artefact
            intendedContainer := container
            finalOutputPath := (Json.value obj "final_output_path").toStr
            startedAt := (Json.value obj "started_at").toStr
            finalized := (Json.value obj "finalized").toBool false }

/-- An entry whose values its own reader keeps. -/
structure Readable (e : RecoveryManifestEntry) : Prop where
  id_ne : e.id ≠ ""
  id_trimmed : Trimming.Trimmed isSpace e.id.toList
  artefact_ne : e.artefactPath ≠ ""
  artefact_trimmed : Trimming.Trimmed isSpace e.artefactPath.toList
  container : e.intendedContainer = "mkv" ∨ e.intendedContainer = "mp4"

/-! ## The file -/

def kSchemaVersion : Int := 1

/-- The document of a list of entries. -/
def manifestToJson (entries : List RecoveryManifestEntry) : Json :=
  .object
    [("entries", .array (entries.map entryToJson)),
      ("schema_version", .number (some kSchemaVersion))]

def entryOfValue : Json → Option RecoveryManifestEntry
  | .object obj => entryFromJson obj
  | _ => none

/-- The entries of a document that has been parsed, an unknown version counting as no entry. -/
def manifestFromJson (root : Json.Fields) : List RecoveryManifestEntry :=
  let version := (Json.value root "schema_version").toInt 0
  if version < 1 ∨ version > kSchemaVersion then []
  else (Json.value root "entries").toArray.filterMap entryOfValue

/-- The writer and the parser of JSON text, over the type of a file's contents. -/
structure JsonText (τ : Type) where
  toJson : Json → τ
  fromJson : τ → Option Json
  fromJson_toJson (entries : List RecoveryManifestEntry) :
    fromJson (toJson (manifestToJson entries)) = some (manifestToJson entries)

/-- What the environment decides of one call. -/
structure FileAccess where
  opens : Bool := true
  commits : Bool := true
  deriving DecidableEq, Repr

section
variable {τ : Type} (text : JsonText τ) (filePath : String)

/-- `LoadLocked`, on what the file holds (`none` where there is no file). -/
def loadLocked (disk : Option τ) (opens : Bool) : List RecoveryManifestEntry :=
  if filePath.isEmpty then []
  else
    match disk with
    | none => []
    | some data =>
        if opens then
          match text.fromJson data with
          | some (.object root) => manifestFromJson root
          | _ => []
        else []

/-- `SaveLocked`: whether it succeeded, and what the file holds then. -/
def saveLocked (disk : Option τ) (commits : Bool) (entries : List RecoveryManifestEntry) :
    Bool × Option τ :=
  if filePath.isEmpty then (false, disk)
  else if commits then (true, some (text.toJson (manifestToJson entries)))
  else (false, disk)

/-- What `Entries` returns when the file opens. -/
def entries (disk : Option τ) : List RecoveryManifestEntry := loadLocked text filePath disk true

def add (disk : Option τ) (file : FileAccess) (entry : RecoveryManifestEntry) : Bool × Option τ :=
  saveLocked text filePath disk file.commits (loadLocked text filePath disk file.opens ++ [entry])

/-- Sets the flag of the first entry with the id. -/
def setFinalized (id : String) (finalized : Bool) :
    List RecoveryManifestEntry → List RecoveryManifestEntry
  | [] => []
  | e :: es => if e.id = id then { e with finalized } :: es else e :: setFinalized id finalized es

def updateFinalized (disk : Option τ) (file : FileAccess) (id : String) (finalized : Bool) :
    Bool × Option τ :=
  let loaded := loadLocked text filePath disk file.opens
  if loaded.any (·.id == id) then
    saveLocked text filePath disk file.commits (setFinalized id finalized loaded)
  else (true, disk)

def remove (disk : Option τ) (file : FileAccess) (id : String) : Bool × Option τ :=
  let loaded := loadLocked text filePath disk file.opens
  let kept := loaded.filter (·.id != id)
  if kept.length = loaded.length then (true, disk)
  else saveLocked text filePath disk file.commits kept

inductive Mutation where
  | add (entry : RecoveryManifestEntry)
  | updateFinalized (id : String) (finalized : Bool)
  | remove (id : String)
  deriving DecidableEq, Repr

/-- A call of one of the three: what it returns, and what the file holds then. -/
def mutate (disk : Option τ) (file : FileAccess) : Mutation → Bool × Option τ
  | .add entry => add text filePath disk file entry
  | .updateFinalized id finalized => updateFinalized text filePath disk file id finalized
  | .remove id => remove text filePath disk file id

end

/-! ## What is read back -/

section
variable {τ : Type} {text : JsonText τ} {filePath : String} {disk : Option τ}

theorem trimmed_eq_self {s : String} (h : Trimming.Trimmed isSpace s.toList) : trimmed s = s :=
  Trimming.trimString_eq_self h

theorem trimmed_trimmed (s : String) : Trimming.Trimmed isSpace (trimmed s).toList := by
  unfold trimmed
  rw [Trimming.toList_trimString]
  exact Trimming.trimmed_trim _

/-- A readable entry is read back as it was written. -/
theorem entryOfValue_entryToJson {e : RecoveryManifestEntry} (h : Readable e) :
    entryOfValue (entryToJson e) = some e := by
  have hcontainer : toLower (trimmed e.intendedContainer) = e.intendedContainer := by
    rcases h.container with hc | hc <;> rw [hc] <;> decide +kernel
  have hknown : ¬(e.intendedContainer ≠ "mkv" ∧ e.intendedContainer ≠ "mp4") := by
    have := h.container
    tauto
  simp [entryOfValue, entryToJson, entryFromJson, Json.value, Json.toStr, Json.toBool,
    List.lookup_cons, trimmed_eq_self h.id_trimmed, trimmed_eq_self h.artefact_trimmed, h.id_ne,
    h.artefact_ne, hcontainer, hknown]

/-- What the reader returns is readable. -/
theorem readable_of_entryFromJson {obj : Json.Fields} {e : RecoveryManifestEntry}
    (h : entryFromJson obj = some e) : Readable e := by
  unfold entryFromJson at h
  dsimp only at h
  split_ifs at h with hid hartefact hcontainer
  obtain rfl := Option.some.inj h
  refine ⟨?_, trimmed_trimmed _, ?_, trimmed_trimmed _, ?_⟩
  · simpa using hid
  · simpa using hartefact
  · rw [not_and_or, not_not, not_not] at hcontainer
    exact hcontainer

theorem readable_of_mem_manifestFromJson {root : Json.Fields} {e : RecoveryManifestEntry}
    (h : e ∈ manifestFromJson root) : Readable e := by
  unfold manifestFromJson at h
  dsimp only at h
  split_ifs at h
  · exact absurd h List.not_mem_nil
  obtain ⟨v, -, hv⟩ := List.mem_filterMap.mp h
  cases v with
  | object obj =>
    rw [entryOfValue] at hv
    exact readable_of_entryFromJson hv
  | _ => exact absurd hv (Option.some_ne_none e ∘ Eq.symm)

/-- What a file that opens is read as is what its text parses to. -/
theorem entries_some {data : τ} (hpath : filePath.isEmpty = false) :
    entries text filePath (some data) =
      match text.fromJson data with
      | some (.object root) => manifestFromJson root
      | _ => [] := by
  simp only [entries, loadLocked, hpath, Bool.false_eq_true, if_false, if_true]

theorem readable_of_mem_entries {e : RecoveryManifestEntry} (h : e ∈ entries text filePath disk) :
    Readable e := by
  cases hpath : filePath.isEmpty with
  | true => simp [entries, loadLocked, hpath] at h
  | false =>
    cases disk with
    | none => simp [entries, loadLocked, hpath] at h
    | some data =>
      rw [entries_some hpath] at h
      split at h
      · exact readable_of_mem_manifestFromJson h
      · exact absurd h List.not_mem_nil

theorem manifestFromJson_manifestToJson {es : List RecoveryManifestEntry}
    (h : ∀ e ∈ es, Readable e) :
    ∃ root, manifestToJson es = .object root ∧ manifestFromJson root = es := by
  refine ⟨_, rfl, ?_⟩
  have hback : (es.map entryToJson).filterMap entryOfValue = es := by
    rw [List.filterMap_map]
    calc es.filterMap (entryOfValue ∘ entryToJson) = es.filterMap some :=
          List.filterMap_congr fun e he => by
            rw [Function.comp_apply, entryOfValue_entryToJson (h e he)]
      _ = es := List.filterMap_some
  simp [manifestFromJson, Json.value, Json.toInt, Json.toArray, List.lookup_cons, kSchemaVersion,
    hback]

/-- Where the file opens, it is read; where it does not, the list looks empty. -/
theorem loadLocked_eq (opens : Bool) :
    loadLocked text filePath disk opens = if opens then entries text filePath disk else [] := by
  cases opens with
  | true => rfl
  | false => cases disk <;> simp [loadLocked]

/-- A save that succeeds is what is read back. -/
theorem entries_saveLocked {commits : Bool} {es : List RecoveryManifestEntry}
    (hsaved : (saveLocked text filePath disk commits es).1 = true) (h : ∀ e ∈ es, Readable e) :
    entries text filePath (saveLocked text filePath disk commits es).2 = es := by
  unfold saveLocked at hsaved ⊢
  split_ifs at hsaved ⊢ with hpath hcommits
  obtain ⟨root, hroot, hes⟩ := manifestFromJson_manifestToJson h
  rw [entries_some (by simpa using hpath), text.fromJson_toJson, hroot]
  exact hes

/-- A save that fails leaves the file. -/
theorem saveLocked_of_false {commits : Bool} {es : List RecoveryManifestEntry}
    (hfailed : (saveLocked text filePath disk commits es).1 = false) :
    (saveLocked text filePath disk commits es).2 = disk := by
  unfold saveLocked at hfailed ⊢
  split_ifs at hfailed ⊢ <;> rfl

/-- A call that returns `false` leaves the file. -/
theorem mutate_of_false {file : FileAccess} {m : Mutation}
    (hfailed : (mutate text filePath disk file m).1 = false) :
    (mutate text filePath disk file m).2 = disk := by
  cases m with
  | add e => exact saveLocked_of_false hfailed
  | updateFinalized id finalized =>
    simp only [mutate, updateFinalized] at hfailed ⊢
    split_ifs at hfailed ⊢ with hany
    exact saveLocked_of_false hfailed
  | remove id =>
    simp only [mutate, remove] at hfailed ⊢
    split_ifs at hfailed ⊢ with hlen
    exact saveLocked_of_false hfailed

end

end Exosnap.Settings
