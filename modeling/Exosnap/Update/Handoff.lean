/-
  The document that the application hands to the updater (`handoff.h`, `handoff.cpp`): its writer and
  its reader.

  A document is what Qt's JSON reader makes of the bytes, or that reader's error; a number is the
  rational its double denotes. Which paths are absolute, and how a number is printed into a message,
  are parameters. The reader takes every document that the writer writes back to what was written, and
  what else it takes names the process the document names exactly if the number there is whole
  (`handoff_document`).
-/
import Exosnap.Control.Protocol
import Exosnap.Lib.Excepts
import Exosnap.Update.UpdateTypes
import Mathlib.Data.Rat.Floor

namespace Exosnap.Update.Handoff

open Control (JsonValue JsonObject)
open Excepts

def kHandoffVersion : Int32 := 1

def kFieldVersion : String := "handoffVersion"
def kFieldTransactionId : String := "updateTransactionId"
def kFieldTargetVersion : String := "targetVersion"
def kFieldCurrentVersion : String := "currentVersion"
def kFieldManifestPath : String := "manifestPath"
def kFieldSignaturePath : String := "manifestSignaturePath"
def kFieldInstallMode : String := "installMode"
def kFieldInstallDir : String := "installDir"
def kFieldAppPid : String := "appPid"
def kFieldVerifyReinstall : String := "verifyReinstall"

def kInstallModeInstalled : String := "installed"
def kInstallModePortable : String := "portable"

structure UpdateHandoff where
  handoffVersion : Int32 := kHandoffVersion
  updateTransactionId : String
  targetVersion : String
  currentVersion : String
  manifestPath : String
  manifestSignaturePath : String
  installMode : InstallMode
  installDir : String
  appPid : UInt32
  verifyReinstall : Bool
  deriving DecidableEq

inductive HandoffRejection where
  | malformedJson
  | unsupportedVersion
  | missingField
  | invalidField
  deriving DecidableEq, Repr

structure Rejected where
  rejection : HandoffRejection
  detail : String
  deriving DecidableEq

/-! ## The writer -/

def installModeName : InstallMode → String
  | .installed => kInstallModeInstalled
  | .portable => kInstallModePortable

def SerializeUpdateHandoff (handoff : UpdateHandoff) : JsonObject :=
  let object : JsonObject := []
  let object := object.insert kFieldVersion (.double handoff.handoffVersion.toInt)
  let object := object.insert kFieldTransactionId (.string handoff.updateTransactionId)
  let object := object.insert kFieldTargetVersion (.string handoff.targetVersion)
  let object := object.insert kFieldCurrentVersion (.string handoff.currentVersion)
  let object := object.insert kFieldManifestPath (.string handoff.manifestPath)
  let object := object.insert kFieldSignaturePath (.string handoff.manifestSignaturePath)
  let object := object.insert kFieldInstallMode (.string (installModeName handoff.installMode))
  let object := object.insert kFieldInstallDir (.string handoff.installDir)
  let object := object.insert kFieldAppPid (.double handoff.appPid.toNat)
  object.insert kFieldVerifyReinstall (.bool handoff.verifyReinstall)

theorem installModeName_ne (mode : InstallMode) : installModeName mode ≠ "" := by
  cases mode <;> decide

/-! ## The reader -/

section Reader

variable (isAbsolutePath : String → Bool) (number : ℚ → String)

/-- `QJsonValue::toInt` of a number: the default for one that is no `int`. -/
def toInt (value : ℚ) (default : Int) : Int :=
  if value.den = 1 ∧ -2 ^ 31 ≤ value.num ∧ value.num < 2 ^ 31 then value.num else default

def takeObject (document : Except String JsonValue) : Except Rejected JsonObject :=
  match document with
  | .error error => .error ⟨.malformedJson, error⟩
  | .ok (.object object) => .ok object
  | .ok _ => .error ⟨.malformedJson, "the document is not a JSON object"⟩

/-- The version gate comes first, and is exact. -/
def takeVersion (object : JsonObject) : Except Rejected Int32 :=
  match object.value kFieldVersion with
  | .double version =>
      if toInt version (-1) ≠ kHandoffVersion.toInt then
        .error ⟨.unsupportedVersion, "handoffVersion " ++ toString (toInt version (-1)) ++
          " is not supported (this build reads " ++ toString kHandoffVersion.toInt ++ ")"⟩
      else .ok kHandoffVersion
  | _ => .error ⟨.unsupportedVersion, kFieldVersion ++ " is absent or not a number"⟩

def TakeRequiredString (object : JsonObject) (field : String) : Except Rejected String :=
  match object.value field with
  | .undefined | .null => .error ⟨.missingField, field⟩
  | .string text =>
      if text = "" then .error ⟨.missingField, field ++ " is empty"⟩ else .ok text
  | _ => .error ⟨.invalidField, field ++ " is not a string"⟩

def takeInstallMode (object : JsonObject) : Except Rejected InstallMode := do
  let installMode ← TakeRequiredString object kFieldInstallMode
  if installMode = kInstallModeInstalled then return .installed
  else if installMode = kInstallModePortable then return .portable
  else
    throw ⟨.invalidField, "installMode '" ++ installMode ++ "' (expected installed|portable)"⟩

/-- The cast to 32 bits cuts the fraction off. -/
def takeAppPid (object : JsonObject) : Except Rejected UInt32 :=
  match object.value kFieldAppPid with
  | .double pidNumber =>
      if pidNumber ≤ 0 ∨ 4294967295 < pidNumber then
        .error ⟨.invalidField, "appPid " ++ number pidNumber ++ " is not a running process id"⟩
      else .ok (UInt32.ofNat ⌊pidNumber⌋.toNat)
  | _ => .error ⟨.missingField, kFieldAppPid⟩

def takeVerifyReinstall (object : JsonObject) : Except Rejected Bool :=
  match object.value kFieldVerifyReinstall with
  | .bool verify => .ok verify
  | _ => .error ⟨.missingField, kFieldVerifyReinstall⟩

def checkPaths (manifestPath manifestSignaturePath installDir : String) : Except Rejected Unit :=
  if ¬ isAbsolutePath manifestPath ∨ ¬ isAbsolutePath manifestSignaturePath then
    .error ⟨.invalidField, "manifest paths must be absolute"⟩
  else if ¬ isAbsolutePath installDir then
    .error ⟨.invalidField, "installDir must be absolute"⟩
  else .ok ()

def ParseUpdateHandoff (document : Except String JsonValue) : Except Rejected UpdateHandoff := do
  let object ← takeObject document
  let handoffVersion ← takeVersion object
  let updateTransactionId ← TakeRequiredString object kFieldTransactionId
  let targetVersion ← TakeRequiredString object kFieldTargetVersion
  let currentVersion ← TakeRequiredString object kFieldCurrentVersion
  let manifestPath ← TakeRequiredString object kFieldManifestPath
  let manifestSignaturePath ← TakeRequiredString object kFieldSignaturePath
  let installDir ← TakeRequiredString object kFieldInstallDir
  let installMode ← takeInstallMode object
  let appPid ← takeAppPid number object
  let verifyReinstall ← takeVerifyReinstall object
  checkPaths isAbsolutePath manifestPath manifestSignaturePath installDir
  return { handoffVersion, updateTransactionId, targetVersion, currentVersion, manifestPath
           manifestSignaturePath, installMode, installDir, appPid, verifyReinstall }

end Reader

variable {isAbsolutePath : String → Bool} {number : ℚ → String}

/-- The strings are there, and the paths absolute. -/
structure Complete (isAbsolutePath : String → Bool) (handoff : UpdateHandoff) : Prop where
  transactionId : handoff.updateTransactionId ≠ ""
  targetVersion : handoff.targetVersion ≠ ""
  currentVersion : handoff.currentVersion ≠ ""
  manifest : handoff.manifestPath ≠ "" ∧ isAbsolutePath handoff.manifestPath
  signature : handoff.manifestSignaturePath ≠ "" ∧ isAbsolutePath handoff.manifestSignaturePath
  installDir : handoff.installDir ≠ "" ∧ isAbsolutePath handoff.installDir

/-- The handoff names the process that the document names, and it can be one. -/
def NamesProcess (document : Except String JsonValue) (handoff : UpdateHandoff) : Prop :=
  ∃ object : JsonObject, document = .ok (.object object) ∧ 1 ≤ handoff.appPid.toNat ∧
    object.value kFieldAppPid = .double handoff.appPid.toNat

def WholePid (document : Except String JsonValue) : Prop :=
  ∃ (object : JsonObject) (pid : ℚ), document = .ok (.object object) ∧
    object.value kFieldAppPid = .double pid ∧ pid.den = 1

/-! ## What the writer writes -/

theorem value_insert_self (object : JsonObject) (key : String) (value : JsonValue) :
    (object.insert key value).value key = value := by
  have hnone : List.lookup key (object.filter fun field => field.1 != key) = none := by
    refine List.lookup_eq_none_iff.mpr fun field h => ?_
    rw [bne_comm]
    exact (List.mem_filter.mp h).2
  rw [JsonObject.value, JsonObject.insert, List.lookup_append, hnone, List.lookup_cons,
    beq_self_eq_true]
  rfl

theorem value_insert_of_ne (object : JsonObject) {key other : String} (value : JsonValue)
    (h : other ≠ key) : (object.insert key value).value other = object.value other := by
  have hkept : List.lookup other (object.filter fun field => field.1 != key) =
      List.lookup other object := by
    induction object with
    | nil => rfl
    | cons field rest ih =>
        obtain ⟨name, kept⟩ := field
        rw [List.filter_cons]
        by_cases hkey : name = key
        · rw [if_neg (by simp [hkey]), ih, List.lookup_cons, beq_false_of_ne (hkey ▸ h)]
        · rw [if_pos (by simpa using hkey), List.lookup_cons, List.lookup_cons, ih]
  rw [JsonObject.value, JsonObject.insert, List.lookup_append, hkept, List.lookup_cons,
    beq_false_of_ne h, List.lookup_nil, Option.or_none]
  rfl

/-- Each field of the document is the handoff's. -/
structure Written (object : JsonObject) (handoff : UpdateHandoff) : Prop where
  handoffVersion : object.value kFieldVersion = .double handoff.handoffVersion.toInt
  updateTransactionId : object.value kFieldTransactionId = .string handoff.updateTransactionId
  targetVersion : object.value kFieldTargetVersion = .string handoff.targetVersion
  currentVersion : object.value kFieldCurrentVersion = .string handoff.currentVersion
  manifestPath : object.value kFieldManifestPath = .string handoff.manifestPath
  manifestSignaturePath : object.value kFieldSignaturePath = .string handoff.manifestSignaturePath
  installMode : object.value kFieldInstallMode = .string (installModeName handoff.installMode)
  installDir : object.value kFieldInstallDir = .string handoff.installDir
  appPid : object.value kFieldAppPid = .double handoff.appPid.toNat
  verifyReinstall : object.value kFieldVerifyReinstall = .bool handoff.verifyReinstall

theorem written_serialize (handoff : UpdateHandoff) :
    Written (SerializeUpdateHandoff handoff) handoff := by
  constructor
  all_goals
    -- the fields inserted after this one are others
    simp only [SerializeUpdateHandoff]
    repeat rw [value_insert_of_ne _ _ (by decide)]
    rw [value_insert_self]

/-! ## What the reader takes -/

/-- Every field is taken from the document, and the paths pass. -/
structure Taken (isAbsolutePath : String → Bool) (number : ℚ → String) (object : JsonObject)
    (handoff : UpdateHandoff) : Prop where
  handoffVersion : takeVersion object = .ok handoff.handoffVersion
  updateTransactionId :
    TakeRequiredString object kFieldTransactionId = .ok handoff.updateTransactionId
  targetVersion : TakeRequiredString object kFieldTargetVersion = .ok handoff.targetVersion
  currentVersion : TakeRequiredString object kFieldCurrentVersion = .ok handoff.currentVersion
  manifestPath : TakeRequiredString object kFieldManifestPath = .ok handoff.manifestPath
  manifestSignaturePath :
    TakeRequiredString object kFieldSignaturePath = .ok handoff.manifestSignaturePath
  installDir : TakeRequiredString object kFieldInstallDir = .ok handoff.installDir
  installMode : takeInstallMode object = .ok handoff.installMode
  appPid : takeAppPid number object = .ok handoff.appPid
  verifyReinstall : takeVerifyReinstall object = .ok handoff.verifyReinstall
  paths : checkPaths isAbsolutePath handoff.manifestPath handoff.manifestSignaturePath
    handoff.installDir = .ok ()

theorem parse_ok_iff {document : Except String JsonValue} {handoff : UpdateHandoff} :
    ParseUpdateHandoff isAbsolutePath number document = .ok handoff ↔
      ∃ object, document = .ok (.object object) ∧ Taken isAbsolutePath number object handoff := by
  constructor
  · intro h
    rw [ParseUpdateHandoff] at h
    obtain ⟨object, hobject, h⟩ := bind_ok_iff.mp h
    obtain ⟨handoffVersion, hversion, h⟩ := bind_ok_iff.mp h
    obtain ⟨updateTransactionId, htransaction, h⟩ := bind_ok_iff.mp h
    obtain ⟨targetVersion, htarget, h⟩ := bind_ok_iff.mp h
    obtain ⟨currentVersion, hcurrent, h⟩ := bind_ok_iff.mp h
    obtain ⟨manifestPath, hmanifest, h⟩ := bind_ok_iff.mp h
    obtain ⟨manifestSignaturePath, hsignature, h⟩ := bind_ok_iff.mp h
    obtain ⟨installDir, hdir, h⟩ := bind_ok_iff.mp h
    obtain ⟨installMode, hmode, h⟩ := bind_ok_iff.mp h
    obtain ⟨appPid, hpid, h⟩ := bind_ok_iff.mp h
    obtain ⟨verifyReinstall, hverify, h⟩ := bind_ok_iff.mp h
    obtain ⟨⟨⟩, hpaths, h⟩ := bind_ok_iff.mp h
    obtain rfl := Except.ok.inj h
    refine ⟨object, ?_, hversion, htransaction, htarget, hcurrent, hmanifest, hsignature, hdir,
      hmode, hpid, hverify, hpaths⟩
    match document, hobject with
    | .ok (.object _), hobject => rw [Except.ok.inj hobject]
  · rintro ⟨object, rfl, h⟩
    simp only [ParseUpdateHandoff, takeObject, h.handoffVersion, h.updateTransactionId,
      h.targetVersion, h.currentVersion, h.manifestPath, h.manifestSignaturePath, h.installDir,
      h.installMode, h.appPid, h.verifyReinstall, h.paths, ok_bind]
    rfl

theorem takeRequiredString_ok_iff {object : JsonObject} {field text : String} :
    TakeRequiredString object field = .ok text ↔ object.value field = .string text ∧ text ≠ "" := by
  rw [TakeRequiredString]
  constructor
  · intro h
    split at h
    any_goals contradiction
    rename_i text' hvalue
    split_ifs at h with hempty
    obtain rfl := Except.ok.inj h
    exact ⟨hvalue, hempty⟩
  · rintro ⟨hvalue, hne⟩
    simp only [hvalue, if_neg hne]

theorem takeAppPid_ok_iff {object : JsonObject} {appPid : UInt32} :
    takeAppPid number object = .ok appPid ↔ ∃ pid : ℚ, object.value kFieldAppPid = .double pid ∧
      0 < pid ∧ pid ≤ 4294967295 ∧ appPid = UInt32.ofNat ⌊pid⌋.toNat := by
  rw [takeAppPid]
  constructor
  · intro h
    split at h
    any_goals contradiction
    rename_i pid hvalue
    split_ifs at h with hrange
    rw [not_or, not_le, not_lt] at hrange
    exact ⟨pid, hvalue, hrange.1, hrange.2, (Except.ok.inj h).symm⟩
  · rintro ⟨pid, hvalue, hpos, hle, rfl⟩
    simp only [hvalue, if_neg (not_or.mpr ⟨not_le.mpr hpos, not_lt.mpr hle⟩)]

theorem checkPaths_ok_iff {manifestPath manifestSignaturePath installDir : String} :
    checkPaths isAbsolutePath manifestPath manifestSignaturePath installDir = .ok () ↔
      isAbsolutePath manifestPath ∧ isAbsolutePath manifestSignaturePath ∧
        isAbsolutePath installDir := by
  rw [checkPaths]
  split_ifs with hmanifest hdir
  · exact iff_of_false nofun fun h => hmanifest.elim (· h.1) (· h.2.1)
  · rw [not_or, not_not, not_not] at hmanifest
    exact iff_of_true rfl ⟨hmanifest.1, hmanifest.2, hdir⟩
  · exact iff_of_false nofun fun h => hdir h.2.2

/-! ## Round trip -/

theorem toInt_of_int32 (version : Int32) (default : Int) :
    toInt version.toInt default = version.toInt := by
  rw [toInt, Rat.den_intCast, Rat.num_intCast, if_pos ⟨rfl, version.le_toInt, version.toInt_lt⟩]

theorem takeVersion_of_written {object : JsonObject} {version : Int32}
    (h : object.value kFieldVersion = .double version.toInt) :
    takeVersion object = .ok version ↔ version = kHandoffVersion := by
  simp only [takeVersion, h, toInt_of_int32]
  split_ifs with hother
  · exact iff_of_false nofun fun h => hother (congrArg Int32.toInt h)
  · have hsame := Int32.toInt_inj.mp (not_not.mp hother)
    exact ⟨fun h => hsame, fun h => by rw [h]⟩

/-- A document with the fields of a handoff, whatever it has for the process. -/
theorem taken_of_fields {object written : JsonObject} {handoff : UpdateHandoff}
    (hwritten : Written written handoff)
    (hsame : ∀ field, field ≠ kFieldAppPid → object.value field = written.value field)
    (h : Complete isAbsolutePath handoff) (hversion : handoff.handoffVersion = kHandoffVersion)
    (hpid : takeAppPid number object = .ok handoff.appPid) :
    Taken isAbsolutePath number object handoff := by
  have hstring : ∀ field text, field ≠ kFieldAppPid → written.value field = .string text →
      text ≠ "" → TakeRequiredString object field = .ok text :=
    fun field text hfield hvalue hne =>
      takeRequiredString_ok_iff.mpr ⟨(hsame field hfield).trans hvalue, hne⟩
  refine ⟨?_, hstring _ _ (by decide) hwritten.updateTransactionId h.transactionId,
    hstring _ _ (by decide) hwritten.targetVersion h.targetVersion,
    hstring _ _ (by decide) hwritten.currentVersion h.currentVersion,
    hstring _ _ (by decide) hwritten.manifestPath h.manifest.1,
    hstring _ _ (by decide) hwritten.manifestSignaturePath h.signature.1,
    hstring _ _ (by decide) hwritten.installDir h.installDir.1, ?_, hpid, ?_,
    checkPaths_ok_iff.mpr ⟨h.manifest.2, h.signature.2, h.installDir.2⟩⟩
  · have hvalue := (hsame kFieldVersion (by decide)).trans hwritten.handoffVersion
    exact (takeVersion_of_written hvalue).mpr hversion
  · have hname := hstring _ _ (by decide) hwritten.installMode (installModeName_ne _)
    rw [takeInstallMode, hname, ok_bind]
    cases handoff.installMode <;> rfl
  · have hvalue := (hsame kFieldVerifyReinstall (by decide)).trans hwritten.verifyReinstall
    rw [takeVerifyReinstall, hvalue]

theorem taken_of_written (number : ℚ → String) {object : JsonObject} {handoff : UpdateHandoff}
    (hwritten : Written object handoff) (h : Complete isAbsolutePath handoff)
    (hpid : 1 ≤ handoff.appPid.toNat) :
    Taken isAbsolutePath number object handoff ↔ handoff.handoffVersion = kHandoffVersion := by
  refine ⟨fun htaken => (takeVersion_of_written hwritten.handoffVersion).mp htaken.handoffVersion,
    fun hversion => taken_of_fields hwritten (fun _ _ => rfl) h hversion ?_⟩
  have hle : handoff.appPid.toNat ≤ 4294967295 := Nat.le_of_lt_succ handoff.appPid.toNat_lt
  refine takeAppPid_ok_iff.mpr ⟨handoff.appPid.toNat, hwritten.appPid, Nat.cast_pos.mpr hpid,
    by exact_mod_cast hle, ?_⟩
  rw [Int.floor_natCast, Int.toNat_natCast, UInt32.ofNat_toNat]

/-- What is written is read back, in the one version that is read. -/
theorem parse_serialize_iff {handoff : UpdateHandoff} (h : Complete isAbsolutePath handoff)
    (hpid : 1 ≤ handoff.appPid.toNat) :
    ParseUpdateHandoff isAbsolutePath number (.ok (.object (SerializeUpdateHandoff handoff))) =
      .ok handoff ↔ handoff.handoffVersion = kHandoffVersion := by
  have hwritten := written_serialize handoff
  rw [parse_ok_iff, ← taken_of_written number hwritten h hpid]
  constructor
  · rintro ⟨object, hobject, htaken⟩
    rwa [JsonValue.object.inj (Except.ok.inj hobject)]
  · exact fun htaken => ⟨_, rfl, htaken⟩

/-! ## What is accepted -/

theorem complete_of_taken {object : JsonObject} {handoff : UpdateHandoff}
    (h : Taken isAbsolutePath number object handoff) : Complete isAbsolutePath handoff := by
  obtain ⟨hmanifest, hsignature, hdir⟩ := checkPaths_ok_iff.mp h.paths
  exact ⟨(takeRequiredString_ok_iff.mp h.updateTransactionId).2,
    (takeRequiredString_ok_iff.mp h.targetVersion).2,
    (takeRequiredString_ok_iff.mp h.currentVersion).2,
    ⟨(takeRequiredString_ok_iff.mp h.manifestPath).2, hmanifest⟩,
    ⟨(takeRequiredString_ok_iff.mp h.manifestSignaturePath).2, hsignature⟩,
    ⟨(takeRequiredString_ok_iff.mp h.installDir).2, hdir⟩⟩

/-- A whole number in the range is not changed by the cast. -/
theorem cast_whole {pid : ℚ} (hwhole : pid.den = 1) (hpos : 0 < pid) (hle : pid ≤ 4294967295) :
    1 ≤ (UInt32.ofNat ⌊pid⌋.toNat).toNat ∧ ((UInt32.ofNat ⌊pid⌋.toNat).toNat : ℚ) = pid := by
  obtain ⟨n, rfl⟩ : ∃ n : Int, pid = n := ⟨pid.num, (Rat.den_eq_one_iff pid).mp hwhole |>.symm⟩
  have hn : 0 < n := by exact_mod_cast hpos
  have hmax : n ≤ 4294967295 := by exact_mod_cast hle
  have hnat : (UInt32.ofNat ⌊(n : ℚ)⌋.toNat).toNat = n.toNat := by
    rw [Int.floor_intCast, UInt32.toNat_ofNat']
    exact Nat.mod_eq_of_lt (by omega)
  rw [hnat]
  refine ⟨by omega, ?_⟩
  rw [← Int.cast_natCast, Int.toNat_of_nonneg hn.le]

theorem namesProcess_iff {object : JsonObject} {handoff : UpdateHandoff}
    (h : Taken isAbsolutePath number object handoff) :
    NamesProcess (.ok (.object object)) handoff ↔ WholePid (.ok (.object object)) := by
  constructor
  · rintro ⟨object', hobject, -, hvalue⟩
    exact ⟨object', _, hobject, hvalue, Rat.den_natCast _⟩
  · rintro ⟨object', pid, hobject, hvalue, hwhole⟩
    cases hobject
    obtain ⟨pid', hvalue', hpos, hle, hcast⟩ := takeAppPid_ok_iff.mp h.appPid
    cases hvalue.symm.trans hvalue'
    obtain ⟨hone, hsame⟩ := cast_whole hwhole hpos hle
    rw [← hcast] at hone hsame
    exact ⟨object, rfl, hone, hvalue.trans (congrArg JsonValue.double hsame.symm)⟩

/-- What the writer writes is read back in the one version there is; what is accepted is complete, and
    it names the process of the document exactly if the number there is whole. -/
theorem handoff_document (isAbsolutePath : String → Bool) (number : ℚ → String) :
    (∀ handoff, Complete isAbsolutePath handoff → 1 ≤ handoff.appPid.toNat →
      (ParseUpdateHandoff isAbsolutePath number
        (.ok (.object (SerializeUpdateHandoff handoff))) = .ok handoff ↔
          handoff.handoffVersion = kHandoffVersion)) ∧
    ∀ document handoff, ParseUpdateHandoff isAbsolutePath number document = .ok handoff →
      Complete isAbsolutePath handoff ∧ (NamesProcess document handoff ↔ WholePid document) := by
  refine ⟨fun _ h hpid => parse_serialize_iff h hpid, fun document handoff h => ?_⟩
  obtain ⟨object, rfl, htaken⟩ := parse_ok_iff.mp h
  exact ⟨complete_of_taken htaken, namesProcess_iff htaken⟩

/-- Half a process is accepted, as none. -/
theorem fraction_accepted :
    ¬ ∀ isAbsolutePath number document handoff,
      ParseUpdateHandoff isAbsolutePath number document = .ok handoff →
        NamesProcess document handoff := by
  intro h
  let handoff : UpdateHandoff :=
    { updateTransactionId := "u-1", targetVersion := "1.1.0", currentVersion := "1.0.0"
      manifestPath := "C:/t/m.json", manifestSignaturePath := "C:/t/m.json.sig"
      installMode := .portable, installDir := "C:/exosnap", appPid := 0, verifyReinstall := false }
  let object := (SerializeUpdateHandoff handoff).insert kFieldAppPid (.double (1 / 2))
  have hpid : takeAppPid toString object = .ok handoff.appPid :=
    takeAppPid_ok_iff.mpr ⟨1 / 2, value_insert_self _ _ _, by norm_num, by norm_num,
      by norm_num; rfl⟩
  have hcomplete : Complete (·.startsWith "C:/") handoff := by
    constructor <;> decide +kernel
  have htaken := taken_of_fields (written_serialize handoff)
    (fun _ hfield => value_insert_of_ne _ _ hfield) hcomplete rfl hpid
  obtain ⟨-, -, hone, -⟩ := h _ _ _ _ (parse_ok_iff.mpr ⟨object, rfl, htaken⟩)
  exact absurd hone (by decide)

end Exosnap.Update.Handoff
