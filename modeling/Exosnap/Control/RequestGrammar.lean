/-
  What `ParseRequest` accepts, and which id it carries.

  The grammar of a request is a relation between an object and the request it denotes (`Denotes`). The
  parser cuts numbers to whole ones, so that the two agree on numbers that are whole where it reads
  them (`parseRequest_grammar`). A numeric id is echoed in decimal form: ids of one kind stay apart,
  but a number and the string of its digits do not. A request in protocol 1 never asks for the state.
-/
import Exosnap.Control.Protocol
import Mathlib.Data.Rat.Floor
import Std.Data.String.ToInt

namespace Exosnap.Control

/-- The text that stands for an id. -/
def idText : JsonValue → String
  | .string id => id
  | .double id => toString id.num
  | _ => ""

/-- Two ids that are both strings, or both numbers. -/
def sameKind : JsonValue → JsonValue → Bool
  | .string _, .string _ => true
  | .double _, .double _ => true
  | _, _ => false

/-- Absent, or null. -/
def isMissing : JsonValue → Bool
  | .undefined => true
  | .null => true
  | _ => false

/-- The request that an object stands for. -/
structure Denotes (object : JsonObject) (request : ParsedRequest) : Prop where
  protocol : object.value "protocol" = .double request.protocol
  known : request.protocol = 1 ∨ request.protocol = 2
  id : request.id = idText (object.value "id")
  command : object.value "command" = .string request.command
  named : request.command ≠ ""
  params : object.value "params" = .object request.params ∨
    isMissing (object.value "params") = true ∧ request.params = []
  includeState : (∃ asked, object.value "includeState" = .bool asked ∧
      request.includeState = (asked && decide (request.protocol = 2))) ∨
    isMissing (object.value "includeState") = true ∧ request.includeState = false

/-- The numbers that are cut are whole: a protocol that is cut to a known one, and an id, which is one
    of 64 bits. -/
structure WholeNumbers (object : JsonObject) : Prop where
  protocol : ∀ n, object.value "protocol" = .double n → 1 ≤ n → n < 3 → n.den = 1
  id : ∀ n, object.value "id" = .double n → n.den = 1 ∧ -2 ^ 63 ≤ n.num ∧ n.num < 2 ^ 63

/-- The id that a line is answered with. -/
def carriedId : Except ParseFailure ParsedRequest → String
  | .ok request => request.id
  | .error failure => failure.id

/-! ## Numbers -/

theorem toInt_of_whole {bits : Nat} {n : ℚ} (h : n.den = 1) (hmin : -2 ^ (bits - 1) ≤ n.num)
    (hmax : n.num < 2 ^ (bits - 1)) : toInt bits n = n.num := by
  have hcut : n.num.tdiv n.den = n.num := by rw [h, Nat.cast_one, Int.tdiv_one]
  unfold toInt
  rw [hcut]
  exact if_pos ⟨hmin, hmax⟩

/-- What is cut to a positive number is at most one above it. -/
theorem le_of_tdiv {n : ℚ} {k : Int} (hk : 1 ≤ k) (h : n.num.tdiv n.den = k) :
    (k : ℚ) ≤ n ∧ n < k + 1 := by
  have hnonneg : 0 ≤ n.num := by
    by_contra hneg
    have hopposite : 0 ≤ (-n.num).tdiv n.den := Int.tdiv_nonneg (by omega) (Int.natCast_nonneg _)
    rw [Int.neg_tdiv, h] at hopposite
    omega
  rw [Int.tdiv_eq_ediv_of_nonneg hnonneg, ← Rat.floor_def] at h
  subst h
  exact ⟨Int.floor_le n, Int.lt_floor_add_one n⟩

/-- The protocols that are accepted are those of the grammar. -/
theorem supported_iff {n : ℚ} (hwhole : 1 ≤ n → n < 3 → n.den = 1) {protocol : Int} :
    (toInt 32 n = protocol ∧ IsSupportedProtocol (toInt 32 n) = true) ↔
      n = protocol ∧ (protocol = 1 ∨ protocol = 2) := by
  constructor
  · rintro ⟨rfl, hsupported⟩
    have hknown : toInt 32 n = 1 ∨ toInt 32 n = 2 := by
      have hbounds : 1 ≤ toInt 32 n ∧ toInt 32 n ≤ 2 := by
        obtain ⟨hmin, hmax⟩ := Bool.and_eq_true_iff.mp hsupported
        exact ⟨of_decide_eq_true hmin, of_decide_eq_true hmax⟩
      omega
    have hcut : n.num.tdiv n.den = toInt 32 n := by
      unfold toInt at hknown ⊢
      dsimp only at hknown ⊢
      split
      · rfl
      next hrange =>
        rw [if_neg hrange] at hknown
        omega
    refine ⟨?_, hknown⟩
    obtain ⟨hle, hlt⟩ := le_of_tdiv (by omega) hcut
    have hden : n.den = 1 := by
      obtain h | h := hknown
      · rw [h] at hle hlt
        exact hwhole (by simpa using hle) (hlt.trans (by norm_num))
      · rw [h] at hle hlt
        exact hwhole (le_trans (by norm_num) hle) (hlt.trans_le (by norm_num))
    rw [hden, Nat.cast_one, Int.tdiv_one] at hcut
    rw [← hcut]
    exact (Rat.coe_int_num_of_den_eq_one hden).symm
  · rintro ⟨rfl, hknown⟩
    have hcut : toInt 32 (protocol : ℚ) = protocol := by
      refine toInt_of_whole (Rat.den_intCast protocol) ?_ ?_
      · rw [Rat.num_intCast]
        omega
      · rw [Rat.num_intCast]
        omega
    rw [hcut]
    refine ⟨rfl, ?_⟩
    obtain rfl | rfl := hknown
    · rfl
    · rfl

/-! ## Ids -/

theorem recoverId_eq {object : JsonObject} (h : WholeNumbers object) :
    RecoverId object = idText (object.value "id") := by
  unfold RecoverId
  cases hid : object.value "id" with
  | double n =>
    obtain ⟨hden, hmin, hmax⟩ := h.id n hid
    exact congrArg toString (toInt_of_whole hden hmin hmax)
  | _ => rfl

/-- Ids of one kind have texts of their own. -/
theorem idText_inj {object other : JsonObject} (h : WholeNumbers object) (ho : WholeNumbers other)
    (hkind : sameKind (object.value "id") (other.value "id") = true)
    (htext : idText (object.value "id") = idText (other.value "id")) :
    object.value "id" = other.value "id" := by
  cases hid : object.value "id" with
  | string id =>
    cases hid' : other.value "id" with
    | string id' =>
      rw [hid, hid'] at htext
      exact congrArg JsonValue.string htext
    | _ => simp [hid, hid', sameKind] at hkind
  | double n =>
    cases hid' : other.value "id" with
    | double m =>
      rw [hid, hid'] at htext
      have hnum : n.num = m.num := Int.repr_injective htext
      rw [← Rat.coe_int_num_of_den_eq_one (h.id n hid).1, hnum,
        Rat.coe_int_num_of_den_eq_one (ho.id m hid').1]
    | _ => simp [hid, hid', sameKind] at hkind
  | _ => simp [hid, sameKind] at hkind

/-! ## Fields -/

theorem params_iff {value : JsonValue} {fields : JsonObject} :
    ((!value.isUndefined && !value.isNull && !value.isObject) = false ∧ value.toObject = fields) ↔
      value = .object fields ∨ isMissing value = true ∧ fields = [] := by
  cases value <;>
    simp [JsonValue.isUndefined, JsonValue.isNull, JsonValue.isObject, JsonValue.toObject, isMissing,
      eq_comm]

theorem includeState_iff {value : JsonValue} {protocol : Int} {asks : Bool}
    (hprotocol : protocol = 1 ∨ protocol = 2) :
    ((!value.isUndefined && !value.isNull && !value.isBool) = false ∧
        (decide (protocol ≥ 2) && value.toBool false) = asks) ↔
      (∃ asked, value = .bool asked ∧ asks = (asked && decide (protocol = 2))) ∨
        isMissing value = true ∧ asks = false := by
  obtain rfl | rfl := hprotocol <;> cases value <;>
    simp [JsonValue.isUndefined, JsonValue.isNull, JsonValue.isBool, JsonValue.toBool, isMissing,
      eq_comm]

/-! ## Lines -/

section
variable {fromJson : List UInt8 → Except String JsonValue} {line : List UInt8} {object : JsonObject}
  {request : ParsedRequest}

/-- When an object is parsed, and into what. -/
theorem parseRequest_ok_iff (hline : line.length ≤ kMaxRequestBytes)
    (hjson : fromJson line = .ok (.object object)) :
    ParseRequest fromJson line = .ok request ↔
      ∃ n, object.value "protocol" = .double n ∧
        (toInt 32 n = request.protocol ∧ IsSupportedProtocol (toInt 32 n) = true) ∧
        RecoverId object = request.id ∧
        object.value "command" = .string request.command ∧ request.command ≠ "" ∧
        ((!(object.value "params").isUndefined && !(object.value "params").isNull &&
            !(object.value "params").isObject) = false ∧
          (object.value "params").toObject = request.params) ∧
        (!(object.value "includeState").isUndefined && !(object.value "includeState").isNull &&
            !(object.value "includeState").isBool) = false ∧
          (decide (request.protocol ≥ 2) && (object.value "includeState").toBool false) =
            request.includeState := by
  unfold ParseRequest
  rw [if_neg (Nat.not_lt.mpr hline), hjson]
  dsimp only
  constructor
  · intro h
    split at h
    case h_2 => cases h
    next n hprotocol =>
      split at h
      · cases h
      next hsupported =>
      split at h
      case h_2 => cases h
      next command hcommand =>
        split at h
        · cases h
        next hnamed =>
        split at h
        · cases h
        next hparams =>
        split at h
        · cases h
        next hstate =>
        obtain rfl := Except.ok.inj h
        exact ⟨n, hprotocol, ⟨rfl, by simpa using hsupported⟩, rfl, hcommand, by simpa using hnamed,
          ⟨eq_false_of_ne_true hparams, rfl⟩, eq_false_of_ne_true hstate, rfl⟩
  · rintro ⟨n, hprotocol, ⟨hcut, hsupported⟩, hid, hcommand, hnamed, ⟨hparams, hfields⟩, hstate,
      hasks⟩
    rw [hprotocol]
    dsimp only
    rw [if_neg (by simp [hsupported]), hcommand]
    dsimp only
    rw [if_neg (by simpa using hnamed), if_neg (by simp [hparams]), if_neg (by simp [hstate]), hid,
      hfields, hcut, hasks]

/-- An object is parsed into the request that it denotes. -/
theorem parseRequest_iff_denotes (hline : line.length ≤ kMaxRequestBytes)
    (hjson : fromJson line = .ok (.object object)) (hwhole : WholeNumbers object) :
    ParseRequest fromJson line = .ok request ↔ Denotes object request := by
  rw [parseRequest_ok_iff hline hjson]
  constructor
  · rintro ⟨n, hprotocol, hsupported, hid, hcommand, hnamed, hparams, hstate⟩
    obtain ⟨rfl, hknown⟩ := (supported_iff (hwhole.protocol n hprotocol)).mp hsupported
    exact ⟨hprotocol, hknown, hid.symm.trans (recoverId_eq hwhole), hcommand, hnamed,
      params_iff.mp hparams, (includeState_iff hknown).mp hstate⟩
  · intro h
    refine ⟨request.protocol, h.protocol, (supported_iff (hwhole.protocol _ h.protocol)).mpr
      ⟨rfl, h.known⟩, (recoverId_eq hwhole).trans h.id.symm, h.command, h.named,
      params_iff.mpr h.params, (includeState_iff h.known).mpr h.includeState⟩

/-- Whatever becomes of an object, it is answered under its id. -/
theorem carriedId_eq (hline : line.length ≤ kMaxRequestBytes)
    (hjson : fromJson line = .ok (.object object)) :
    carriedId (ParseRequest fromJson line) = RecoverId object := by
  unfold ParseRequest
  rw [if_neg (Nat.not_lt.mpr hline), hjson]
  dsimp only
  split
  case h_2 => rfl
  split
  · rfl
  split
  case h_2 => rfl
  split
  · rfl
  split
  · rfl
  split
  · rfl
  · rfl

/-- What is parsed is an object. -/
theorem object_of_parseRequest (h : ParseRequest fromJson line = .ok request) :
    ∃ object, fromJson line = .ok (.object object) := by
  unfold ParseRequest at h
  split at h
  · cases h
  split at h
  · cases h
  next object hjson => exact ⟨object, hjson⟩
  · cases h

end

/-- Where the numbers that are cut are whole, a line is accepted exactly if it is an object of the
    grammar, with the fields of it; an object is answered under its id, and ids of one kind that
    differ are answered apart. -/
theorem parseRequest_grammar (fromJson : List UInt8 → Except String JsonValue)
    (line other : List UInt8) (hline : line.length ≤ kMaxRequestBytes)
    (hother : other.length ≤ kMaxRequestBytes)
    (hwhole : ∀ object, fromJson line = .ok (.object object) → WholeNumbers object)
    (hwhole' : ∀ object, fromJson other = .ok (.object object) → WholeNumbers object) :
    (∀ request, ParseRequest fromJson line = .ok request ↔
        ∃ object, fromJson line = .ok (.object object) ∧ Denotes object request) ∧
      (∀ object : JsonObject, fromJson line = .ok (.object object) →
        carriedId (ParseRequest fromJson line) = idText (object.value "id")) ∧
      ∀ object object' : JsonObject, fromJson line = .ok (.object object) →
        fromJson other = .ok (.object object') →
        sameKind (object.value "id") (object'.value "id") = true →
        carriedId (ParseRequest fromJson line) = carriedId (ParseRequest fromJson other) →
        object.value "id" = object'.value "id" := by
  have hcarried : ∀ object : JsonObject, fromJson line = .ok (.object object) →
      carriedId (ParseRequest fromJson line) = idText (object.value "id") := fun object hjson =>
    (carriedId_eq hline hjson).trans (recoverId_eq (hwhole object hjson))
  refine ⟨fun request => ⟨fun h => ?_, ?_⟩, hcarried, ?_⟩
  · obtain ⟨object, hjson⟩ := object_of_parseRequest h
    exact ⟨object, hjson, (parseRequest_iff_denotes hline hjson (hwhole object hjson)).mp h⟩
  · rintro ⟨object, hjson, hdenotes⟩
    exact (parseRequest_iff_denotes hline hjson (hwhole object hjson)).mpr hdenotes
  · intro object object' hjson hjson' hkind hsame
    rw [hcarried object hjson, carriedId_eq hother hjson',
      recoverId_eq (hwhole' object' hjson')] at hsame
    exact idText_inj (hwhole object hjson) (hwhole' object' hjson') hkind hsame

def lineOf (text : String) : List UInt8 := text.toList.map Char.toUInt8

/-- A parser that knows a few lines. -/
def jsonOf (known : List (String × JsonObject)) (line : List UInt8) : Except String JsonValue :=
  match known.find? fun entry => lineOf entry.1 == line with
  | some entry => .ok (.object entry.2)
  | none => .error "illegal value"

def numberedLine : String :=
  "\x7b\"protocol\":1,\"id\":1,\"command\":\"x\",\"includeState\":true\x7d"

def numbered : JsonObject :=
  [("protocol", .double 1), ("id", .double 1), ("command", .string "x"),
    ("includeState", .bool true)]

def quotedLine : String := "\x7b\"protocol\":1,\"id\":\"1\",\"command\":\"x\"\x7d"

def quoted : JsonObject :=
  [("protocol", .double 1), ("id", .string "1"), ("command", .string "x")]

def fractionLine : String := "\x7b\"protocol\":1.5,\"id\":1.5,\"command\":\"x\"\x7d"

def fraction : JsonObject :=
  [("protocol", .double (3 / 2)), ("id", .double (3 / 2)), ("command", .string "x")]

/-- The three documents; nothing else is read. -/
def threeJson : List UInt8 → Except String JsonValue :=
  jsonOf [(numberedLine, numbered), (quotedLine, quoted), (fractionLine, fraction)]

theorem parseRequest_grammar_numbers :
    (∀ request, ParseRequest threeJson (lineOf numberedLine) = .ok request ↔
        ∃ object, threeJson (lineOf numberedLine) = .ok (.object object) ∧
          Denotes object request) ∧
      (∀ object : JsonObject, threeJson (lineOf numberedLine) = .ok (.object object) →
        carriedId (ParseRequest threeJson (lineOf numberedLine)) =
          idText (object.value "id")) ∧
      ∀ object object' : JsonObject, threeJson (lineOf numberedLine) = .ok (.object object) →
        threeJson (lineOf quotedLine) = .ok (.object object') →
        sameKind (object.value "id") (object'.value "id") = true →
        carriedId (ParseRequest threeJson (lineOf numberedLine)) =
          carriedId (ParseRequest threeJson (lineOf quotedLine)) →
        object.value "id" = object'.value "id" := by
  have hnumbered : threeJson (lineOf numberedLine) = .ok (.object numbered) := rfl
  have hquoted : threeJson (lineOf quotedLine) = .ok (.object quoted) := rfl
  refine parseRequest_grammar threeJson _ _ (by decide) (by decide) (fun object h => ?_)
    fun object h => ?_
  · cases hnumbered.symm.trans h
    refine ⟨fun n hn _ _ => ?_, fun n hn => ?_⟩
    · cases hn
      rfl
    · cases hn
      decide
  · cases hquoted.symm.trans h
    refine ⟨fun n hn _ _ => ?_, nofun⟩
    cases hn
    rfl

/-- Three lines of different ids are one request, which asks for no state. -/
theorem ids_are_one :
    numbered.value "id" ≠ quoted.value "id" ∧
      ∀ text ∈ [numberedLine, quotedLine, fractionLine],
        ParseRequest threeJson (lineOf text) =
          .ok { protocol := 1, id := "1", command := "x", params := [], includeState := false } := by
  refine ⟨nofun, fun text htext => ?_⟩
  simp only [List.mem_cons, List.not_mem_nil, or_false] at htext
  obtain rfl | rfl | rfl := htext
  all_goals
    exact (parseRequest_ok_iff (by decide) rfl).mpr
      ⟨_, rfl, by decide +kernel, by decide +kernel, rfl, by decide, ⟨rfl, rfl⟩, rfl, rfl⟩

end Exosnap.Control
