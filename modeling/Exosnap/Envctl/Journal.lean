/-
  The recovery journal and its text: what a transaction owes, written as one JSON document and read
  back by the recovery.

  Modelled from src/tools/envctl/core/env_journal.h and env_journal.cpp. The JSON library is a
  parameter: `JsonText` says that what it writes for a journal it reads back, with the fields of
  each object in the order of their keys. A string is a well-formed one, as the library reads and
  writes no others.
-/
import Exosnap.Envctl.EnvTypes
import Exosnap.Lib.SortedMap
import Mathlib.Data.Rat.Init

namespace Exosnap.Envctl

inductive Json where
  | null
  | boolean (value : Bool)
  | integer (value : Int)
  | float (value : ℚ)
  | string (value : String)
  | array (values : List Json)
  | object (fields : List (String × Json))

namespace Json

abbrev Fields := List (String × Json)

def isObject : Json → Bool
  | object _ => true
  | _ => false

/-- The name a `type_error` gives the type by. -/
def typeName : Json → String
  | null => "null"
  | boolean _ => "boolean"
  | integer _ | float _ => "number"
  | string _ => "string"
  | array _ => "array"
  | object _ => "object"

mutual

/-- The document with each object's fields in the order of their keys, as it is read back. -/
def sorted : Json → Json
  | array values => array (sortedValues values)
  | object fields => object (SortedMap.placeAll (sortedFields fields) [])
  | value => value

def sortedValues : List Json → List Json
  | [] => []
  | value :: rest => value.sorted :: sortedValues rest

def sortedFields : Fields → Fields
  | [] => []
  | (key, value) :: rest => (key, value.sorted) :: sortedFields rest

end

def typeError (expected : String) (value : Json) : String :=
  "journal_invalid: [json.exception.type_error.302] type must be " ++ expected ++ ", but is " ++
    value.typeName

/-- `value(key, std::string{})`: a field that is there has to be a string. -/
def valueString (fields : Fields) (key : String) : Except String String :=
  match fields.lookup key with
  | none => .ok ""
  | some (.string text) => .ok text
  | some value => .error (typeError "string" value)

/-- `value(key, 0)`, of an `int`: any number is taken, and a boolean, cut to 32 bits. -/
def valueInt (fields : Fields) (key : String) : Except String Int :=
  match fields.lookup key with
  | none => .ok 0
  | some (.integer n) => .ok (n.bmod (2 ^ 32))
  | some (.float x) => .ok ((x.num.tdiv x.den).bmod (2 ^ 32))
  | some (.boolean b) => .ok (if b then 1 else 0)
  | some value => .error (typeError "number" value)

/-- `value(key, 0LL)`: any number, cut to 64 bits. -/
def valueLongLong (fields : Fields) (key : String) : Except String Int64 :=
  match fields.lookup key with
  | none => .ok 0
  | some (.integer n) => .ok (Int64.ofInt n)
  | some (.float x) => .ok (Int64.ofInt (x.num.tdiv x.den))
  | some value => .error (typeError "number" value)

end Json

def kJournalSchemaVersion : Int := 1

structure AppliedEntry where
  property : String
  «from» : String
  «to» : String
  atUtc : String := ""
deriving DecidableEq

/-- A journal has the one schema version there is: nothing sets another, and the reader takes no
    other. -/
structure Journal where
  schemaVersion : Int := kJournalSchemaVersion
  current : schemaVersion = kJournalSchemaVersion := by rfl
  transactionId : String := ""
  ownerPid : Int64 := 0
  runId : String := ""
  machine : String := ""
  scenario : String := ""
  state : TransactionState := .clean
  original : SortedMap String String := {}
  desired : SortedMap String String := {}
  applied : List AppliedEntry := []
  createdAt : String := ""
  updatedAt : String := ""

def mapToJson (m : SortedMap String String) : Json :=
  .object (m.entries.map fun entry => (entry.1, .string entry.2))

def AppliedEntry.toJson (entry : AppliedEntry) : Json :=
  .object [("property", .string entry.property), ("from", .string entry.«from»),
    ("to", .string entry.«to»), ("atUtc", .string entry.atUtc)]

def Journal.toJson (j : Journal) : Json :=
  .object
    [("schemaVersion", .integer j.schemaVersion), ("transactionId", .string j.transactionId),
     ("ownerPid", .integer j.ownerPid.toInt), ("runId", .string j.runId),
     ("machine", .string j.machine), ("scenario", .string j.scenario),
     ("state", .string j.state.ToKey), ("original", mapToJson j.original),
     ("desired", mapToJson j.desired), ("applied", .array (j.applied.map AppliedEntry.toJson)),
     ("createdAt", .string j.createdAt), ("updatedAt", .string j.updatedAt)]

/-- `read_map`: of an object the fields that are strings, of anything else nothing. -/
def mapFromJson : Option Json → SortedMap String String
  | some (.object fields) =>
      SortedMap.ofEntries (fields.filterMap fun field =>
        match field.2 with
        | .string text => some (field.1, text)
        | _ => none)
  | _ => {}

/-- The elements of the document's applied array. -/
def appliedElements (fields : Json.Fields) : List Json :=
  match fields.lookup "applied" with
  | some (.array elements) => elements
  | _ => []

def AppliedEntry.fromJson (item : Json.Fields) : Except String AppliedEntry := do
  let property ← Json.valueString item "property"
  let «from» ← Json.valueString item "from"
  let «to» ← Json.valueString item "to"
  let atUtc ← Json.valueString item "atUtc"
  return { property, «from», «to», atUtc }

def appliedFromJson : List Json → Except String (List AppliedEntry)
  | [] => .ok []
  | .object item :: rest => do
      let entry ← AppliedEntry.fromJson item
      let entries ← appliedFromJson rest
      return entry :: entries
  | _ :: rest => appliedFromJson rest

def Journal.fromFields (fields : Json.Fields) : Except String Journal := do
  let schemaVersion ← Json.valueInt fields "schemaVersion"
  if current : schemaVersion = kJournalSchemaVersion then
    let transactionId ← Json.valueString fields "transactionId"
    let ownerPid ← Json.valueLongLong fields "ownerPid"
    let runId ← Json.valueString fields "runId"
    let machine ← Json.valueString fields "machine"
    let scenario ← Json.valueString fields "scenario"
    let key ← Json.valueString fields "state"
    match TransactionState.FromKey key with
    | none => throw ("journal_invalid: unknown state '" ++ key ++ "'.")
    | some state =>
        let applied ← appliedFromJson (appliedElements fields)
        let createdAt ← Json.valueString fields "createdAt"
        let updatedAt ← Json.valueString fields "updatedAt"
        return { schemaVersion, current, transactionId, ownerPid, runId, machine, scenario, state,
                 original := mapFromJson (fields.lookup "original"),
                 desired := mapFromJson (fields.lookup "desired"), applied, createdAt, updatedAt }
  else throw s!"journal_invalid: unsupported schemaVersion {schemaVersion}."

/-- The JSON library on the texts `τ`: how it writes a document, and what it reads. -/
structure JsonText (τ : Type) where
  dump : Json → τ
  parse : τ → Option Json
  parse_dump (j : Journal) : parse (dump j.toJson) = some j.toJson.sorted

namespace JsonText

variable {τ : Type} (text : JsonText τ)

def ToJsonText (j : Journal) : τ := text.dump j.toJson

def FromJsonText (t : τ) : Except String Journal :=
  match text.parse t with
  | some (.object fields) => Journal.fromFields fields
  | _ => .error "journal_invalid: not a JSON object."

end JsonText

end Exosnap.Envctl
