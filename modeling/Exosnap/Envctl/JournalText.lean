/-
  Reading a journal back. What is written for a journal reads as that journal; a text that reads as
  a journal has an entry in it for each element of its applied array exactly when the field is an
  array of objects.
-/
import Exosnap.Envctl.Journal

namespace Exosnap.Envctl

/-! ## A journal read back from its own text -/

theorem lookup_sorted (fields : Json.Fields) (key : String) :
    (SortedMap.placeAll (Json.sortedFields fields) []).lookup key =
      (Json.sortedFields fields).reverse.lookup key :=
  (SortedMap.lookup_placeAll _ _ _).trans (Option.or_none)

theorem sortedFields_strings (entries : List (String × String)) :
    Json.sortedFields (entries.map fun entry => (entry.1, Json.string entry.2)) =
      entries.map fun entry => (entry.1, Json.string entry.2) := by
  induction entries with
  | nil => rfl
  | cons entry rest ih =>
    rw [List.map_cons, Json.sortedFields, ih]
    rfl

theorem mapFromJson_mapToJson (m : SortedMap String String) :
    mapFromJson (some (mapToJson m).sorted) = m := by
  have hsorted : (m.entries.map fun entry => (entry.1, Json.string entry.2)).Pairwise
      fun a b => a.1 < b.1 := List.pairwise_map.mpr m.sorted
  rw [mapToJson, Json.sorted, sortedFields_strings,
    SortedMap.placeAll_sorted (by simpa using hsorted), List.nil_append, mapFromJson,
    List.filterMap_map]
  exact (congrArg SortedMap.ofEntries (List.filterMap_some)).trans m.ofEntries_entries

/-- The fields of an entry's object, as they are read back. -/
theorem fromJson_toJson (entry : AppliedEntry) :
    ∃ item, entry.toJson.sorted = .object item ∧ AppliedEntry.fromJson item = .ok entry := by
  refine ⟨_, by rw [AppliedEntry.toJson, Json.sorted], ?_⟩
  rw [AppliedEntry.fromJson, Json.valueString, Json.valueString, Json.valueString,
    Json.valueString, lookup_sorted, lookup_sorted, lookup_sorted, lookup_sorted]
  rfl

theorem appliedFromJson_toJson (applied : List AppliedEntry) :
    appliedFromJson (Json.sortedValues (applied.map AppliedEntry.toJson)) = .ok applied := by
  induction applied with
  | nil => rfl
  | cons entry rest ih =>
    obtain ⟨item, hitem, hread⟩ := fromJson_toJson entry
    rw [List.map_cons, Json.sortedValues, hitem, appliedFromJson, hread, ih]
    rfl

/-- The fields of a journal's document, as they are read back. -/
def Journal.fieldsRead (j : Journal) : Json.Fields :=
  SortedMap.placeAll (Json.sortedFields
    [("schemaVersion", .integer j.schemaVersion), ("transactionId", .string j.transactionId),
     ("ownerPid", .integer j.ownerPid.toInt), ("runId", .string j.runId),
     ("machine", .string j.machine), ("scenario", .string j.scenario),
     ("state", .string j.state.ToKey), ("original", mapToJson j.original),
     ("desired", mapToJson j.desired), ("applied", .array (j.applied.map AppliedEntry.toJson)),
     ("createdAt", .string j.createdAt), ("updatedAt", .string j.updatedAt)]) []

theorem fromFields_fieldsRead (j : Journal) : Journal.fromFields j.fieldsRead = .ok j := by
  have hlookup : ∀ key, j.fieldsRead.lookup key = _ := fun key => lookup_sorted _ key
  have hversion : Json.valueInt j.fieldsRead "schemaVersion" = .ok j.schemaVersion := by
    rw [Json.valueInt, hlookup, j.current]
    rfl
  have hpid : Json.valueLongLong j.fieldsRead "ownerPid" = .ok j.ownerPid := by
    rw [Json.valueLongLong, hlookup]
    exact congrArg Except.ok (Int64.ofInt_toInt _)
  have happlied : appliedFromJson (appliedElements j.fieldsRead) = .ok j.applied := by
    rw [appliedElements, hlookup]
    exact appliedFromJson_toJson j.applied
  have horiginal : mapFromJson (j.fieldsRead.lookup "original") = j.original := by
    rw [hlookup]
    exact mapFromJson_mapToJson j.original
  have hdesired : mapFromJson (j.fieldsRead.lookup "desired") = j.desired := by
    rw [hlookup]
    exact mapFromJson_mapToJson j.desired
  have htext : ∀ key text : String, j.fieldsRead.lookup key = some (.string text) →
      Json.valueString j.fieldsRead key = .ok text := fun key text h => by
    rw [Json.valueString, h]
  have htransaction := htext "transactionId" _ (hlookup _)
  have hrun := htext "runId" _ (hlookup _)
  have hmachine := htext "machine" _ (hlookup _)
  have hscenario := htext "scenario" _ (hlookup _)
  have hstate := htext "state" _ (hlookup _)
  have hcreated := htext "createdAt" _ (hlookup _)
  have hupdated := htext "updatedAt" _ (hlookup _)
  simp only [Journal.fromFields, hversion, hpid, htransaction, hrun, hmachine, hscenario, hstate,
    hcreated, hupdated, happlied, horiginal, hdesired]
  simp only [bind, Except.bind, dif_pos j.current, TransactionState.fromKey_toKey]
  rfl

/-! ## What is read of a text -/

/-- What the document says has been applied: nothing when it has no such field, and nothing that can
    be told when the field is no array. -/
def appliedArray (fields : Json.Fields) : Option (List Json) :=
  match fields.lookup "applied" with
  | none => some []
  | some (.array elements) => some elements
  | some _ => none

theorem appliedElements_of_array {fields : Json.Fields} {elements : List Json}
    (h : appliedArray fields = some elements) : appliedElements fields = elements := by
  unfold appliedArray at h
  unfold appliedElements
  split at h
  next hlookup =>
    rw [hlookup]
    exact Option.some.inj h
  next hlookup =>
    rw [hlookup]
    exact Option.some.inj h
  · exact nomatch h

/-- The entry has the element's property and from values, a field that is not there being empty. -/
def EntryOf (element : Json) (entry : AppliedEntry) : Prop :=
  ∃ item, element = .object item ∧ Json.valueString item "property" = .ok entry.property ∧
    Json.valueString item "from" = .ok entry.«from»

/-- A document whose fields have the types and values the reader asks for. -/
structure Readable (fields : Json.Fields) : Prop where
  version : Json.valueInt fields "schemaVersion" = .ok kJournalSchemaVersion
  texts : ∀ key ∈ ["transactionId", "runId", "machine", "scenario", "createdAt", "updatedAt"],
    ∃ s, Json.valueString fields key = .ok s
  ownerPid : ∃ n, Json.valueLongLong fields "ownerPid" = .ok n
  state : ∃ key state, Json.valueString fields "state" = .ok key ∧
    TransactionState.FromKey key = some state
  items : ∀ item, Json.object item ∈ appliedElements fields →
    ∀ key ∈ ["property", "from", "to", "atUtc"], ∃ s, Json.valueString item key = .ok s

theorem bind_ok {α β : Type} {x : Except String α} {f : α → Except String β} {b : β}
    (h : x >>= f = .ok b) : ∃ a, x = .ok a ∧ f a = .ok b := by
  cases x with
  | error message => exact nomatch h
  | ok a => exact ⟨a, rfl, h⟩

theorem entryFromJson_ok {item : Json.Fields} {entry : AppliedEntry}
    (h : AppliedEntry.fromJson item = .ok entry) :
    EntryOf (.object item) entry ∧
      ∀ key ∈ ["property", "from", "to", "atUtc"], ∃ s, Json.valueString item key = .ok s := by
  obtain ⟨property, hproperty, h⟩ := bind_ok h
  obtain ⟨«from», hfrom, h⟩ := bind_ok h
  obtain ⟨«to», hto, h⟩ := bind_ok h
  obtain ⟨atUtc, hat, h⟩ := bind_ok h
  cases h
  refine ⟨⟨item, rfl, hproperty, hfrom⟩, fun key hkey => ?_⟩
  simp only [List.mem_cons, List.not_mem_nil, or_false] at hkey
  rcases hkey with rfl | rfl | rfl | rfl
  · exact ⟨_, hproperty⟩
  · exact ⟨_, hfrom⟩
  · exact ⟨_, hto⟩
  · exact ⟨_, hat⟩

theorem entryFromJson_of_texts {item : Json.Fields}
    (h : ∀ key ∈ ["property", "from", "to", "atUtc"], ∃ s, Json.valueString item key = .ok s) :
    ∃ entry, AppliedEntry.fromJson item = .ok entry := by
  obtain ⟨property, hproperty⟩ := h "property" (by simp)
  obtain ⟨«from», hfrom⟩ := h "from" (by simp)
  obtain ⟨«to», hto⟩ := h "to" (by simp)
  obtain ⟨atUtc, hat⟩ := h "atUtc" (by simp)
  exact ⟨{ property, «from», «to», atUtc },
    by rw [AppliedEntry.fromJson, hproperty, hfrom, hto, hat]; rfl⟩

/-- The entries that are read are those of the elements that are objects. -/
theorem appliedFromJson_ok {elements : List Json} {applied : List AppliedEntry}
    (h : appliedFromJson elements = .ok applied) :
    List.Forall₂ EntryOf (elements.filter Json.isObject) applied ∧
      ∀ item, Json.object item ∈ elements →
        ∀ key ∈ ["property", "from", "to", "atUtc"], ∃ s, Json.valueString item key = .ok s := by
  induction elements generalizing applied with
  | nil =>
    cases h
    exact ⟨.nil, nofun⟩
  | cons element rest ih =>
    cases element with
    | object item =>
      obtain ⟨entry, hentry, h⟩ := bind_ok h
      obtain ⟨entries, hentries, h⟩ := bind_ok h
      cases h
      obtain ⟨hof, htexts⟩ := entryFromJson_ok hentry
      obtain ⟨hrest, hitems⟩ := ih hentries
      refine ⟨.cons hof hrest, fun item' hitem => ?_⟩
      rcases List.mem_cons.mp hitem with heq | hitem
      · cases heq
        exact htexts
      · exact hitems item' hitem
    | null | boolean | integer | float | string | array =>
      obtain ⟨hrest, hitems⟩ := ih h
      exact ⟨hrest, fun item hitem => hitems item
        ((List.mem_cons.mp hitem).resolve_left fun heq => nomatch heq)⟩

theorem appliedFromJson_of_texts {elements : List Json}
    (h : ∀ item, Json.object item ∈ elements →
      ∀ key ∈ ["property", "from", "to", "atUtc"], ∃ s, Json.valueString item key = .ok s) :
    ∃ applied, appliedFromJson elements = .ok applied := by
  induction elements with
  | nil => exact ⟨[], rfl⟩
  | cons element rest ih =>
    obtain ⟨entries, hentries⟩ := ih fun item hitem => h item (List.mem_cons_of_mem _ hitem)
    cases element with
    | object item =>
      obtain ⟨entry, hentry⟩ := entryFromJson_of_texts (h item List.mem_cons_self)
      exact ⟨entry :: entries, by rw [appliedFromJson, hentry, hentries]; rfl⟩
    | null | boolean | integer | float | string | array => exact ⟨entries, hentries⟩

theorem fromFields_ok {fields : Json.Fields} {j : Journal} (h : Journal.fromFields fields = .ok j) :
    Readable fields ∧ appliedFromJson (appliedElements fields) = .ok j.applied := by
  obtain ⟨version, hversion, h⟩ := bind_ok h
  split at h
  next hcurrent =>
    obtain ⟨transactionId, htransaction, h⟩ := bind_ok h
    obtain ⟨ownerPid, hpid, h⟩ := bind_ok h
    obtain ⟨runId, hrun, h⟩ := bind_ok h
    obtain ⟨machine, hmachine, h⟩ := bind_ok h
    obtain ⟨scenario, hscenario, h⟩ := bind_ok h
    obtain ⟨key, hkey, h⟩ := bind_ok h
    split at h
    · exact nomatch h
    next state hstate =>
      obtain ⟨applied, happlied, h⟩ := bind_ok h
      obtain ⟨createdAt, hcreated, h⟩ := bind_ok h
      obtain ⟨updatedAt, hupdated, h⟩ := bind_ok h
      cases h
      refine ⟨⟨hcurrent ▸ hversion, fun key hkey => ?_, ⟨_, hpid⟩, ⟨key, state, hkey, hstate⟩,
        (appliedFromJson_ok happlied).2⟩, happlied⟩
      simp only [List.mem_cons, List.not_mem_nil, or_false] at hkey
      rcases hkey with rfl | rfl | rfl | rfl | rfl | rfl
      · exact ⟨_, htransaction⟩
      · exact ⟨_, hrun⟩
      · exact ⟨_, hmachine⟩
      · exact ⟨_, hscenario⟩
      · exact ⟨_, hcreated⟩
      · exact ⟨_, hupdated⟩
  · exact nomatch h

theorem Readable.fromFields {fields : Json.Fields} (h : Readable fields) :
    ∃ j, Journal.fromFields fields = .ok j := by
  obtain ⟨transactionId, htransaction⟩ := h.texts "transactionId" (by simp)
  obtain ⟨runId, hrun⟩ := h.texts "runId" (by simp)
  obtain ⟨machine, hmachine⟩ := h.texts "machine" (by simp)
  obtain ⟨scenario, hscenario⟩ := h.texts "scenario" (by simp)
  obtain ⟨createdAt, hcreated⟩ := h.texts "createdAt" (by simp)
  obtain ⟨updatedAt, hupdated⟩ := h.texts "updatedAt" (by simp)
  obtain ⟨ownerPid, hpid⟩ := h.ownerPid
  obtain ⟨key, state, hkey, hstate⟩ := h.state
  obtain ⟨applied, happlied⟩ := appliedFromJson_of_texts h.items
  simp only [Journal.fromFields, h.version, htransaction, hrun, hmachine, hscenario, hcreated,
    hupdated, hpid, hkey, happlied, bind, Except.bind, hstate]
  exact ⟨_, rfl⟩

theorem isObject_of_entries {elements : List Json} {applied : List AppliedEntry}
    (h : List.Forall₂ EntryOf elements applied) :
    ∀ element ∈ elements, element.isObject = true := by
  induction h with
  | nil => exact nofun
  | cons hof _ ih =>
    obtain ⟨item, rfl, -⟩ := hof
    intro element helement
    rcases List.mem_cons.mp helement with rfl | helement
    · rfl
    · exact ih element helement

/-! ## Reading drops nothing -/

namespace JsonText

variable {τ : Type} (text : JsonText τ)

/-- A text that reads as a journal says what has been applied, and the journal has an entry for each
    element of it. -/
def ReadsAll (t : τ) : Prop :=
  ∀ j, text.FromJsonText t = .ok j → ∃ fields elements, text.parse t = some (.object fields) ∧
    appliedArray fields = some elements ∧ List.Forall₂ EntryOf elements j.applied

/-- What a readable document says has been applied is an array, and holds objects only. -/
def HoldsObjects (t : τ) : Prop :=
  ∀ fields, text.parse t = some (.object fields) → Readable fields →
    ∃ elements, appliedArray fields = some elements ∧
      ∀ element ∈ elements, element.isObject = true

theorem fromJsonText_toJsonText (j : Journal) : text.FromJsonText (text.ToJsonText j) = .ok j := by
  rw [FromJsonText, ToJsonText, text.parse_dump]
  exact fromFields_fieldsRead j

theorem fromJsonText_ok {t : τ} {j : Journal} (h : text.FromJsonText t = .ok j) :
    ∃ fields, text.parse t = some (.object fields) ∧ Journal.fromFields fields = .ok j := by
  rw [FromJsonText] at h
  split at h
  next fields hparse => exact ⟨fields, hparse, h⟩
  · exact nomatch h

theorem readsAll_iff (t : τ) : text.ReadsAll t ↔ text.HoldsObjects t := by
  constructor
  · intro hreads fields hparse hreadable
    obtain ⟨j, hj⟩ := hreadable.fromFields
    obtain ⟨fields', elements, hparse', harray, hall⟩ :=
      hreads j (by rw [FromJsonText, hparse]; exact hj)
    cases hparse.symm.trans hparse'
    exact ⟨elements, harray, isObject_of_entries hall⟩
  · intro hobjects j hj
    obtain ⟨fields, hparse, hfields⟩ := text.fromJsonText_ok hj
    obtain ⟨hreadable, happlied⟩ := fromFields_ok hfields
    obtain ⟨elements, harray, hall⟩ := hobjects fields hparse hreadable
    have hentries := (appliedFromJson_ok happlied).1
    rw [appliedElements_of_array harray, List.filter_eq_self.mpr hall] at hentries
    exact ⟨fields, elements, hparse, harray, hentries⟩

/-- Every journal is read back from its text, and a text drops nothing exactly when what it says has
    been applied, if it reads as a journal, is an array of objects. -/
theorem journal_drops_nothing_iff (j : Journal) (t : τ) :
    (text.FromJsonText (text.ToJsonText j) = .ok j ∧ text.ReadsAll t) ↔ text.HoldsObjects t := by
  rw [← text.readsAll_iff t]
  exact and_iff_right (text.fromJsonText_toJsonText j)

end JsonText

/-- The documents themselves as their texts. -/
def documentText : JsonText Json where
  dump := id
  parse document := some document.sorted
  parse_dump _ := rfl

/-- The one obligation is written as a string: the journal reads as one that owes nothing. -/
def strippedDocument : Json :=
  .object [("schemaVersion", .integer 1), ("state", .string "Mutating"),
    ("applied", .array [.string "display.main:hz"])]

theorem stripped_journal :
    ∃ j, documentText.FromJsonText strippedDocument = .ok j ∧ j.state = .mutating ∧
      j.applied = [] ∧ ¬ documentText.ReadsAll strippedDocument := by
  refine ⟨_, rfl, rfl, rfl, fun h => ?_⟩
  obtain ⟨fields, elements, hparse, harray, hall⟩ := h _ rfl
  cases hparse
  cases harray
  exact nomatch hall

end Exosnap.Envctl
