/-
  The markers in an entry of the recording history (`RecordingHistoryStore.cpp`), and the sidecar's
  reading of them.

  Both readers pass a marker over when its time is of no use. The history's has no upper bound, and
  it passes over a type it does not know, which the sidecar's takes for a general one: one marker is
  read alike exactly if neither makes the difference (`readAlike_iff`). What either of them
  writes is read back as it was.
-/
import Exosnap.Markers.MarkerSidecar
import Exosnap.Settings.PresetNames

namespace Exosnap.Markers.History

open Settings (enumFromString enumFromString_eq)

/-- An element of an array of markers: `none` when it is not an object. -/
abbrev MarkerElement := Option MarkerJson

/-- `QJsonValue::toObject`, of an element. -/
def toObject (element : MarkerElement) : MarkerJson := element.getD ⟨none, "", ""⟩

def StringToMarkerType : String → Option RecordingMarkerType :=
  enumFromString [("general", .general), ("cut", .cut), ("highlight", .highlight)]

/-- The cast to 64 bits. What becomes of a number that does not fit is a parameter. -/
def toUInt64 (overflow : ℚ → Nat) (ms : ℚ) : Nat := if ms < 2 ^ 64 then ⌊ms⌋.toNat else overflow ms

/-- One element of the array, as `ValidateCompletedRecording` reads it. -/
def validateMarker (overflow : ℚ → Nat) (element : MarkerElement) : Option RecordingMarker :=
  match element with
  | none => none
  | some marker =>
      let timeMs := marker.timeMs.getD (-1)
      match StringToMarkerType marker.type with
      | some type =>
          if timeMs < 0 then none
          else some { timeMs := toUInt64 overflow timeMs, type, label := marker.label }
      | none => none

/-- The field of an entry: `none` when it is absent, or no array. -/
abbrev MarkersField := Option (List MarkerElement)

def ValidateMarkers (overflow : ℚ → Nat) (field : MarkersField) : List RecordingMarker :=
  match field with
  | some markers => markers.filterMap (validateMarker overflow)
  | none => []

/-- The field that `RecordingToJson` writes. -/
def MarkersToJson (markers : List RecordingMarker) : MarkersField :=
  if markers = [] then none
  else some (markers.map fun m => some
    { timeMs := some m.timeMs, type := RecordingMarkerTypeToString m.type, label := m.label })

/-- The sidecar with these elements, as its reader takes them. -/
def sidecarOf (elements : List MarkerElement) : MarkerSidecar where
  media := ""
  segmentIndex := none
  markers := elements.map toObject

/-- Both readers keep the element, at one time, or both pass it over; and what they keep was a number
    in the range of the format. -/
structure ReadAlike (overflow : ℚ → Nat) (element : MarkerElement) : Prop where
  times : (ParseMarkerSidecar (sidecarOf [element])).map RecordingMarker.timeMs =
    (ValidateMarkers overflow (some [element])).map RecordingMarker.timeMs
  ranged : ∀ m ∈ ValidateMarkers overflow (some [element]),
    ∃ ms, (toObject element).timeMs = some ms ∧ 0 ≤ ms ∧ ms ≤ kMaxMarkerTimeMs

/-- The time does not lie above the range, or it lies outside if the history does not know the type. -/
def TimeWithinReach (element : MarkerElement) : Prop :=
  ∀ marker ms, element = some marker → marker.timeMs = some ms →
    match StringToMarkerType marker.type with
    | some _ => ms ≤ kMaxMarkerTimeMs
    | none => ms < 0 ∨ kMaxMarkerTimeMs < ms

variable {overflow : ℚ → Nat}

/-! ## One marker -/

theorem parse_one (element : MarkerElement) :
    (ParseMarkerSidecar (sidecarOf [element])).map RecordingMarker.timeMs =
      (ParseMarkerTimeMs (toObject element).timeMs).toList := by
  rw [ParseMarkerSidecar, sidecarOf]
  cases h : ParseMarkerTimeMs (toObject element).timeMs with
  | none => simp [h]
  | some timeMs => simp [h]

theorem validate_one (element : MarkerElement) :
    ValidateMarkers overflow (some [element]) = (validateMarker overflow element).toList := by
  cases h : validateMarker overflow element with
  | none => simp [ValidateMarkers, h]
  | some marker => simp [ValidateMarkers, h]

theorem parseMarkerTimeMs_inRange {ms : ℚ} (hpos : 0 ≤ ms) (hle : ms ≤ kMaxMarkerTimeMs) :
    ParseMarkerTimeMs (some ms) = some ⌊ms⌋.toNat := by
  rw [ParseMarkerTimeMs, if_neg (by rw [not_or, not_lt, not_lt]; exact ⟨hpos, hle⟩)]

theorem parseMarkerTimeMs_outside {ms : ℚ} (h : ms < 0 ∨ kMaxMarkerTimeMs < ms) :
    ParseMarkerTimeMs (some ms) = none := if_pos h

/-- Every number in the range of the format fits. -/
theorem toUInt64_inRange {ms : ℚ} (hle : ms ≤ kMaxMarkerTimeMs) :
    toUInt64 overflow ms = ⌊ms⌋.toNat := by
  have hfits : (kMaxMarkerTimeMs : ℚ) < 2 ^ 64 := by norm_num [kMaxMarkerTimeMs]
  rw [toUInt64, if_pos (hle.trans_lt hfits)]

theorem validateMarker_unknown (overflow : ℚ → Nat) {marker : MarkerJson}
    (h : StringToMarkerType marker.type = none) :
    validateMarker overflow (some marker) = none := by
  simp only [validateMarker, h]

theorem validateMarker_negative {marker : MarkerJson} (h : marker.timeMs.getD (-1) < 0) :
    validateMarker overflow (some marker) = none := by
  cases htype : StringToMarkerType marker.type with
  | none => exact validateMarker_unknown overflow htype
  | some type => simp only [validateMarker, htype, if_pos h]

theorem validateMarker_known {marker : MarkerJson} {type : RecordingMarkerType} {ms : ℚ}
    (htype : StringToMarkerType marker.type = some type) (hms : marker.timeMs = some ms)
    (hpos : 0 ≤ ms) :
    validateMarker overflow (some marker) =
      some { timeMs := toUInt64 overflow ms, type, label := marker.label } := by
  simp only [validateMarker, htype, hms, Option.getD_some, if_neg hpos.not_gt]

/-- Neither reader keeps it. -/
theorem readAlike_of_passed {element : MarkerElement}
    (hsidecar : ParseMarkerTimeMs (toObject element).timeMs = none)
    (hhistory : validateMarker overflow element = none) : ReadAlike overflow element where
  times := by rw [parse_one, validate_one, hsidecar, hhistory]; rfl
  ranged := by rw [validate_one, hhistory]; exact fun m hm => absurd hm List.not_mem_nil

theorem readAlike_of_known {marker : MarkerJson} {type : RecordingMarkerType} {ms : ℚ}
    (htype : StringToMarkerType marker.type = some type) (hms : marker.timeMs = some ms) :
    ReadAlike overflow (some marker) ↔ ms ≤ kMaxMarkerTimeMs := by
  rcases lt_or_ge ms 0 with hneg | hpos
  · have hnone : marker.timeMs.getD (-1) < 0 := by rwa [hms]
    refine iff_of_true (readAlike_of_passed ?_ (validateMarker_negative hnone))
      (hneg.le.trans (Nat.cast_nonneg _))
    rw [toObject, Option.getD_some, hms]
    exact parseMarkerTimeMs_outside (.inl hneg)
  · constructor
    · intro h
      obtain ⟨ms', hms', -, hle⟩ := h.ranged _ (by
        rw [validate_one, validateMarker_known htype hms hpos]
        exact List.mem_singleton_self _)
      rw [toObject, Option.getD_some, hms, Option.some.injEq] at hms'
      rwa [hms']
    · intro hle
      refine ⟨?_, fun m _ => ⟨ms, hms, hpos, hle⟩⟩
      rw [parse_one, validate_one, validateMarker_known htype hms hpos, toObject, Option.getD_some,
        hms, parseMarkerTimeMs_inRange hpos hle, toUInt64_inRange hle]
      rfl

theorem readAlike_of_unknown {marker : MarkerJson} {ms : ℚ}
    (htype : StringToMarkerType marker.type = none) (hms : marker.timeMs = some ms) :
    ReadAlike overflow (some marker) ↔ ms < 0 ∨ kMaxMarkerTimeMs < ms := by
  have hhistory := validateMarker_unknown overflow htype
  have hobject : (toObject (some marker)).timeMs = some ms := hms
  constructor
  · intro h
    by_contra hin
    rw [not_or, not_lt, not_lt] at hin
    have htimes := h.times
    rw [parse_one, validate_one, hhistory, hobject, parseMarkerTimeMs_inRange hin.1 hin.2] at htimes
    exact absurd htimes nofun
  · intro hout
    exact readAlike_of_passed (hobject ▸ parseMarkerTimeMs_outside hout) hhistory

/-- The two readers take a marker alike exactly if its time is within the reach of both. -/
theorem readAlike_iff (element : MarkerElement) :
    ReadAlike overflow element ↔ TimeWithinReach element := by
  cases element with
  | none => exact iff_of_true (readAlike_of_passed rfl rfl) nofun
  | some marker =>
      cases hms : marker.timeMs with
      | none =>
          refine iff_of_true (readAlike_of_passed ?_ (validateMarker_negative ?_)) ?_
          · rw [toObject, Option.getD_some, hms]; rfl
          · rw [hms, Option.getD_none]; norm_num
          · rintro marker' ms ⟨⟩ hms'
            exact absurd (hms.symm.trans hms') nofun
      | some ms =>
          have hreach : TimeWithinReach (some marker) ↔
              match StringToMarkerType marker.type with
              | some _ => ms ≤ kMaxMarkerTimeMs
              | none => ms < 0 ∨ kMaxMarkerTimeMs < ms := by
            refine ⟨fun h => h marker ms rfl hms, fun h marker' ms' hmarker hms' => ?_⟩
            cases hmarker
            cases hms.symm.trans hms'
            exact h
          rw [hreach]
          cases htype : StringToMarkerType marker.type with
          | some type => exact readAlike_of_known htype hms
          | none => exact readAlike_of_unknown htype hms

/-! ## What is written -/

theorem stringToMarkerType_toString (type : RecordingMarkerType) :
    StringToMarkerType (RecordingMarkerTypeToString type) = some type := by
  cases type <;> decide +kernel

theorem validateMarker_written {m : RecordingMarker} (h : m.timeMs ≤ kMaxMarkerTimeMs) :
    validateMarker overflow (some { timeMs := some (m.timeMs : ℚ)
                                    type := RecordingMarkerTypeToString m.type
                                    label := m.label }) = some m := by
  have hle : (m.timeMs : ℚ) ≤ kMaxMarkerTimeMs := Nat.cast_le.mpr h
  have hknown : validateMarker overflow
      (some ⟨some (m.timeMs : ℚ), RecordingMarkerTypeToString m.type, m.label⟩) =
        some { timeMs := toUInt64 overflow m.timeMs, type := m.type, label := m.label } :=
    validateMarker_known (stringToMarkerType_toString m.type) rfl (Nat.cast_nonneg m.timeMs)
  rw [hknown, toUInt64_inRange hle, Int.floor_natCast, Int.toNat_natCast]

/-- An entry's markers are read back as they were. -/
theorem validateMarkers_toJson {markers : List RecordingMarker}
    (h : ∀ m ∈ markers, m.timeMs ≤ kMaxMarkerTimeMs) :
    ValidateMarkers overflow (MarkersToJson markers) = markers := by
  rw [MarkersToJson]
  split_ifs with hnil
  · exact hnil.symm
  · rw [ValidateMarkers, List.filterMap_map]
    refine (List.filterMap_congr (g := some) fun m hm => ?_).trans List.filterMap_some
    exact validateMarker_written (h m hm)

/-- The readers agree on a marker exactly if its time is within the reach of both, and what either of
    the writers writes is read back as it was. -/
theorem markers_read_alike (overflow : ℚ → Nat) :
    (∀ element, ReadAlike overflow element ↔ TimeWithinReach element) ∧
      ∀ markers : List RecordingMarker, (∀ m ∈ markers, m.timeMs ≤ kMaxMarkerTimeMs) →
        (∀ media segmentIndex,
          ParseMarkerSidecar (SerializeMarkerSidecar markers media segmentIndex) = markers) ∧
        ValidateMarkers overflow (MarkersToJson markers) = markers :=
  ⟨readAlike_iff, fun _ h => ⟨fun _ _ => parse_serialize h, validateMarkers_toJson h⟩⟩

/-- A time just above the range: the sidecar's reader skips the marker, the history's keeps it. -/
theorem not_read_alike_above_range :
    ¬ ∀ overflow element, ReadAlike overflow element := by
  intro h
  have hreach := (readAlike_iff _).mp (h (fun _ => 0) (some ⟨some 9007199254740994, "cut", ""⟩))
  have hle := hreach _ _ rfl rfl
  rw [show StringToMarkerType "cut" = some .cut from stringToMarkerType_toString .cut] at hle
  norm_num [kMaxMarkerTimeMs] at hle

end Exosnap.Markers.History
