/-
  The choice of an encoder device: what a resolution that resolves has chosen, and that the order in
  which the adapters are enumerated does not matter.

  Each mode is first brought to a form in which the candidates are asked by value: the explicit mode
  for those with the preferred identity, the automatic one for the capture adapter's.
-/
import Exosnap.Capability.EncoderDeviceResolver
import Mathlib.Data.List.Nodup

namespace Exosnap.Capability

section
variable {α κ : Type}

/-! ## Positions in lists -/

/-- What stands at the positions that are found is what a filter leaves. -/
theorem getElem?_findIdxs (p : α → Bool) (l : List α) :
    (l.findIdxs p).map (l[·]?) = (l.filter p).map some := by
  induction l with
  | nil => rfl
  | cons a l ih =>
    have hshift : (l.findIdxs p 1).map ((a :: l)[·]?) = (l.filter p).map some := by
      rw [List.findIdxs_start, List.map_map, ← ih]
      exact List.map_congr_left fun i _ => List.getElem?_cons_succ
    rw [List.findIdxs_cons, List.filter_cons]
    split
    · rw [List.map_cons, List.map_cons, ← hshift]
      rfl
    · exact hshift

/-- Among members with different keys, the one with a key is found in any order. -/
theorem find?_perm [DecidableEq κ] {key : α → κ} {l l' : List α} (hperm : l.Perm l')
    (hnodup : (l.map key).Nodup) (k : κ) :
    l.find? (fun a => key a = k) = l'.find? (fun a => key a = k) := by
  have hsome : ∀ {m n : List α}, m.Perm n → (m.map key).Nodup → ∀ {a},
      m.find? (fun a => key a = k) = some a → n.find? (fun a => key a = k) = some a := by
    intro m n hmn hkeys a ha
    have hmem : a ∈ n := hmn.subset (List.mem_of_find?_eq_some ha)
    have hkey : key a = k := by simpa using List.find?_some ha
    cases hb : n.find? (fun a => key a = k) with
    | none =>
      rw [List.find?_eq_none] at hb
      exact absurd (decide_eq_true hkey) (hb a hmem)
    | some b =>
      have hother : key b = k := by simpa using List.find?_some hb
      have hb' : b ∈ m := hmn.symm.subset (List.mem_of_find?_eq_some hb)
      rw [List.inj_on_of_nodup_map hkeys hb' (List.mem_of_find?_eq_some ha) (hother.trans hkey.symm)]
  have hnodup' : (l'.map key).Nodup := (hperm.map key).nodup_iff.mp hnodup
  cases h : l.find? (fun a => key a = k) with
  | some a => exact (hsome hperm hnodup h).symm
  | none =>
    cases h' : l'.find? (fun a => key a = k) with
    | none => rfl
    | some a =>
      rw [hsome hperm.symm hnodup' h'] at h
      exact nomatch h

end

/-! ## Resolutions by value -/

/-- The candidate of a resolution. -/
def EncoderDeviceResolution.chosen (result : EncoderDeviceResolution)
    (candidates : List EncoderDeviceCandidate) : Option EncoderDeviceCandidate :=
  result.candidateIndex.bind (candidates[·]?)

def hasIdentity (device : Engine.EncoderDeviceFingerprint) (candidate : EncoderDeviceCandidate) : Bool :=
  Engine.sameHardwareIdentity (fingerprintFromAdapter candidate.adapter) device

/-- What becomes of the one candidate with the preferred identity. -/
def explicitOutcome (candidates : List EncoderDeviceCandidate) (captureAdapterLuid : Int64)
    (captureAdapterKnown : Bool) (index : Nat) (selected : EncoderDeviceCandidate) :
    EncoderDeviceResolution :=
  let result := populateAssignment { candidateIndex := some index } selected candidates
    captureAdapterLuid captureAdapterKnown
  if !selected.usable then { result with reason := selected.unavailableReason }
  else if captureAdapterKnown then
    { result with resolved := result.validation.ok, reason := result.validation.reason }
  else { result with resolved := true }

/-- What becomes of the candidate of the capture adapter. -/
def autoOutcome (candidates : List EncoderDeviceCandidate) (captureAdapterLuid : Int64)
    (index : Nat) (selected : EncoderDeviceCandidate) : EncoderDeviceResolution :=
  let result := populateAssignment { candidateIndex := some index } selected candidates
    captureAdapterLuid true
  if !result.validation.ok then { result with reason := result.validation.reason }
  else { result with resolved := true }

section
variable {candidates candidates' : List EncoderDeviceCandidate}
  {device : Engine.EncoderDeviceFingerprint} {luid : Int64} {known : Bool} {i : Nat}
  {selected : EncoderDeviceCandidate}

/-- One candidate with the identity is resolved at its position. -/
theorem resolveExplicit_one (luid : Int64) (known : Bool)
    (h : candidates.filter (hasIdentity device) = [selected]) :
    ∃ i, candidates[i]? = some selected ∧
      resolveExplicit candidates device luid known =
        explicitOutcome candidates luid known i selected := by
  have hpositions := getElem?_findIdxs (hasIdentity device) candidates
  rw [h] at hpositions
  obtain ⟨index, rest, hmatches, hselected, hrest⟩ := List.map_eq_cons_iff.mp hpositions
  rw [List.map_nil, List.map_eq_nil_iff] at hrest
  subst hrest
  have hmatches' : hardwareMatches candidates device = [index] := hmatches
  refine ⟨index, hselected, ?_⟩
  unfold resolveExplicit explicitOutcome
  rw [hmatches']
  dsimp only
  rw [hselected]

/-- Without exactly one, the order does not matter for the refusal. -/
theorem resolveExplicit_other (h : ∀ selected, candidates.filter (hasIdentity device) ≠ [selected]) :
    resolveExplicit candidates device luid known =
      if candidates.filter (hasIdentity device) = [] then
        { reason := "The selected encoder device is not present on this system." }
      else { reason := "Multiple adapters match the selected encoder device and cannot be told " ++
        "apart. Choose Auto or select the device again." } := by
  have hpositions := getElem?_findIdxs (hasIdentity device) candidates
  unfold resolveExplicit
  rw [show hardwareMatches candidates device = candidates.findIdxs (hasIdentity device) from rfl]
  have hlength := congrArg List.length hpositions
  rw [List.length_map, List.length_map] at hlength
  match hfound : candidates.filter (hasIdentity device), hlength with
  | [], hlength =>
    rw [List.length_eq_zero_iff.mp hlength]
    rfl
  | [selected], _ => exact absurd hfound (h selected)
  | a :: b :: rest, hlength =>
    match candidates.findIdxs (hasIdentity device), hlength with
    | i :: j :: positions, _ => rfl

/-- The candidate of the capture adapter is resolved at its position. -/
theorem resolveAuto_some (h : candidates.find? (·.adapter.luid = luid) = some selected) :
    ∃ i, candidates[i]? = some selected ∧
      resolveAuto candidates luid true = autoOutcome candidates luid i selected := by
  rw [List.find?_eq_bind_findIdx?_getElem?] at h
  obtain ⟨index, hindex, hselected⟩ := Option.bind_eq_some_iff.mp h
  refine ⟨index, hselected, ?_⟩
  unfold resolveAuto autoOutcome
  rw [hindex]
  dsimp only
  rw [hselected]
  rfl

theorem resolveAuto_none (h : candidates.find? (·.adapter.luid = luid) = none) :
    resolveAuto candidates luid true =
      { reason := "No encoder-capable device matches the capture source." } := by
  have hindex : candidates.findIdx? (·.adapter.luid = luid) = none :=
    List.findIdx?_eq_none_iff.mpr fun a ha => by simpa using List.find?_eq_none.mp h a ha
  unfold resolveAuto
  rw [hindex]
  rfl

/-! ## What is chosen -/

theorem populateAssignment_usable {result : EncoderDeviceResolution}
    (h : (populateAssignment result selected candidates luid known).validation.ok = true) :
    selected.usable = true :=
  (Engine.validatePipelineAssignment_ok.mp h).2.2.1

theorem explicitOutcome_resolved
    (h : (explicitOutcome candidates luid known i selected).resolved = true) :
    selected.usable = true ∧
      (known = true → (explicitOutcome candidates luid known i selected).validation.ok = true) := by
  unfold explicitOutcome at h ⊢
  dsimp only at h ⊢
  split at h
  case isTrue => exact nomatch h
  case isFalse husable =>
  refine ⟨by simpa using husable, fun hknown => ?_⟩
  subst hknown
  rw [if_neg husable]
  exact h

theorem autoOutcome_resolved (h : (autoOutcome candidates luid i selected).resolved = true) :
    selected.usable = true := by
  unfold autoOutcome at h
  dsimp only at h
  split at h
  case isTrue => exact nomatch h
  case isFalse hok => exact populateAssignment_usable (by simpa using hok)

@[simp] theorem explicitOutcome_candidateIndex :
    (explicitOutcome candidates luid known i selected).candidateIndex = some i := by
  unfold explicitOutcome
  dsimp only
  split_ifs
  · rfl
  · rfl
  · rfl

@[simp] theorem autoOutcome_candidateIndex :
    (autoOutcome candidates luid i selected).candidateIndex = some i := by
  unfold autoOutcome
  dsimp only
  split_ifs
  · rfl
  · rfl

/-! ## Orders -/

theorem findCandidateByLuid_perm (hperm : candidates.Perm candidates')
    (hnodup : (candidates.map (·.adapter.luid)).Nodup) :
    findCandidateByLuid candidates luid = findCandidateByLuid candidates' luid := by
  unfold findCandidateByLuid
  rw [find?_perm hperm hnodup]

/-- An assignment asks the candidates for the capture adapter only. -/
theorem populateAssignment_congr {j : Nat}
    (h : findCandidateByLuid candidates luid = findCandidateByLuid candidates' luid) :
    populateAssignment { candidateIndex := some j } selected candidates' luid known =
      { populateAssignment { candidateIndex := some i } selected candidates luid known with
        candidateIndex := some j } := by
  unfold populateAssignment
  rw [h]

theorem explicitOutcome_congr {j : Nat}
    (h : findCandidateByLuid candidates luid = findCandidateByLuid candidates' luid) :
    explicitOutcome candidates' luid known j selected =
      { explicitOutcome candidates luid known i selected with candidateIndex := some j } := by
  unfold explicitOutcome
  rw [populateAssignment_congr (i := i) h]
  dsimp only
  split_ifs
  · rfl
  · rfl
  · rfl

theorem autoOutcome_congr {j : Nat}
    (h : findCandidateByLuid candidates luid = findCandidateByLuid candidates' luid) :
    autoOutcome candidates' luid j selected =
      { autoOutcome candidates luid i selected with candidateIndex := some j } := by
  unfold autoOutcome
  rw [populateAssignment_congr (i := i) h]
  dsimp only
  split_ifs
  · rfl
  · rfl

/-- Two orders of the candidates differ in the index alone, and choose the same candidate. -/
def SameChoice (candidates candidates' : List EncoderDeviceCandidate)
    (result result' : EncoderDeviceResolution) : Prop :=
  result' = { result with candidateIndex := result'.candidateIndex } ∧
    result'.chosen candidates' = result.chosen candidates

theorem sameChoice_unchosen {result : EncoderDeviceResolution} (h : result.candidateIndex = none) :
    SameChoice candidates candidates' result result := by
  refine ⟨rfl, ?_⟩
  unfold EncoderDeviceResolution.chosen
  rw [h]
  rfl

/-- The same candidate, at another position. -/
theorem sameChoice_chosen {result : EncoderDeviceResolution} {j : Nat}
    (hresult : result.candidateIndex = some i) (hi : candidates[i]? = some selected)
    (hj : candidates'[j]? = some selected) :
    SameChoice candidates candidates' result { result with candidateIndex := some j } := by
  refine ⟨rfl, ?_⟩
  unfold EncoderDeviceResolution.chosen
  rw [hresult]
  exact hj.trans hi.symm

theorem resolveExplicit_perm (hperm : candidates.Perm candidates')
    (hnodup : (candidates.map (·.adapter.luid)).Nodup) :
    SameChoice candidates candidates' (resolveExplicit candidates device luid known)
      (resolveExplicit candidates' device luid known) := by
  have hfilter := hperm.filter (hasIdentity device)
  by_cases hone : ∃ selected, candidates.filter (hasIdentity device) = [selected]
  · obtain ⟨selected, hselected⟩ := hone
    have hselected' : candidates'.filter (hasIdentity device) = [selected] := by
      rw [hselected] at hfilter
      exact List.perm_singleton.mp hfilter.symm
    obtain ⟨i, hi, hresult⟩ := resolveExplicit_one luid known hselected
    obtain ⟨j, hj, hresult'⟩ := resolveExplicit_one luid known hselected'
    rw [hresult, hresult', explicitOutcome_congr (i := i) (findCandidateByLuid_perm hperm hnodup)]
    exact sameChoice_chosen explicitOutcome_candidateIndex hi hj
  · have hother : ∀ selected, candidates.filter (hasIdentity device) ≠ [selected] :=
      fun selected h => hone ⟨selected, h⟩
    have hother' : ∀ selected, candidates'.filter (hasIdentity device) ≠ [selected] := by
      intro selected h
      rw [h] at hfilter
      exact hother selected (List.perm_singleton.mp hfilter)
    have hnil : candidates'.filter (hasIdentity device) = [] ↔
        candidates.filter (hasIdentity device) = [] := by
      rw [← List.length_eq_zero_iff, ← List.length_eq_zero_iff, hfilter.length_eq]
    rw [resolveExplicit_other hother, resolveExplicit_other hother']
    simp only [hnil]
    refine sameChoice_unchosen ?_
    split_ifs
    · rfl
    · rfl

theorem resolveAuto_perm (hperm : candidates.Perm candidates')
    (hnodup : (candidates.map (·.adapter.luid)).Nodup) :
    SameChoice candidates candidates' (resolveAuto candidates luid known)
      (resolveAuto candidates' luid known) := by
  cases known with
  | false => exact sameChoice_unchosen rfl
  | true =>
    have hfind := find?_perm hperm hnodup luid
    cases hselected : candidates.find? (·.adapter.luid = luid) with
    | none =>
      rw [resolveAuto_none hselected, resolveAuto_none (hfind.symm.trans hselected)]
      exact sameChoice_unchosen rfl
    | some selected =>
      obtain ⟨i, hi, hresult⟩ := resolveAuto_some hselected
      obtain ⟨j, hj, hresult'⟩ := resolveAuto_some (hfind.symm.trans hselected)
      rw [hresult, hresult', autoOutcome_congr (i := i) (findCandidateByLuid_perm hperm hnodup)]
      exact sameChoice_chosen autoOutcome_candidateIndex hi hj

theorem resolveExplicit_resolved
    (h : (resolveExplicit candidates device luid known).resolved = true) :
    ∃ selected, (resolveExplicit candidates device luid known).chosen candidates = some selected ∧
      selected.usable = true ∧ candidates.filter (hasIdentity device) = [selected] ∧
      (known = true → (resolveExplicit candidates device luid known).validation.ok = true) := by
  by_cases hone : ∃ selected, candidates.filter (hasIdentity device) = [selected]
  · obtain ⟨selected, hselected⟩ := hone
    obtain ⟨i, hi, hresult⟩ := resolveExplicit_one luid known hselected
    rw [hresult] at h ⊢
    obtain ⟨husable, hvalid⟩ := explicitOutcome_resolved h
    refine ⟨selected, ?_, husable, hselected, hvalid⟩
    unfold EncoderDeviceResolution.chosen
    rw [explicitOutcome_candidateIndex]
    exact hi
  · rw [resolveExplicit_other fun selected h => hone ⟨selected, h⟩] at h
    split at h
    · exact nomatch h
    · exact nomatch h

theorem resolveAuto_resolved (h : (resolveAuto candidates luid known).resolved = true) :
    ∃ selected, (resolveAuto candidates luid known).chosen candidates = some selected ∧
      selected.usable = true ∧ selected.adapter.luid = luid := by
  cases known with
  | false => exact nomatch h
  | true =>
    cases hselected : candidates.find? (·.adapter.luid = luid) with
    | none =>
      rw [resolveAuto_none hselected] at h
      exact nomatch h
    | some selected =>
      obtain ⟨i, hi, hresult⟩ := resolveAuto_some hselected
      rw [hresult] at h ⊢
      refine ⟨selected, ?_, autoOutcome_resolved h, by simpa using List.find?_some hselected⟩
      unfold EncoderDeviceResolution.chosen
      rw [autoOutcome_candidateIndex]
      exact hi

end

/-! ## The choice -/

/-- What a resolution that resolves has chosen. -/
structure ChoiceSound (candidates : List EncoderDeviceCandidate)
    (preference : Engine.EncoderDevicePreference) (captureAdapterLuid : Int64)
    (captureAdapterKnown : Bool) (selected : EncoderDeviceCandidate)
    (result : EncoderDeviceResolution) : Prop where
  chosen : result.chosen candidates = some selected
  usable : selected.usable = true
  explicit : preference.mode = .explicit →
    candidates.filter (hasIdentity preference.device) = [selected]
  validated : preference.mode = .explicit → captureAdapterKnown = true → result.validation.ok = true
  auto : preference.mode = .auto → captureAdapterKnown = true →
    selected.adapter.luid = captureAdapterLuid

/-- A resolution that resolves is sound, and does not depend on the order of the adapters. -/
theorem encoder_device_choice (adapters : List AdapterInfo)
    (capabilities : List AdapterEncoderCapability) (request : EncoderDeviceRequest)
    (preference : Engine.EncoderDevicePreference) (captureAdapterLuid : Int64)
    (captureAdapterKnown : Bool) :
    ((resolveEncoderDevice (buildEncoderDeviceCandidates adapters capabilities request) preference
        captureAdapterLuid captureAdapterKnown).resolved = true →
      ∃ selected, ChoiceSound (buildEncoderDeviceCandidates adapters capabilities request) preference
        captureAdapterLuid captureAdapterKnown selected
        (resolveEncoderDevice (buildEncoderDeviceCandidates adapters capabilities request) preference
          captureAdapterLuid captureAdapterKnown)) ∧
    (((buildEncoderDeviceCandidates adapters capabilities request).map (·.adapter.luid)).Nodup →
      ∀ candidates', (buildEncoderDeviceCandidates adapters capabilities request).Perm candidates' →
        SameChoice (buildEncoderDeviceCandidates adapters capabilities request) candidates'
          (resolveEncoderDevice (buildEncoderDeviceCandidates adapters capabilities request)
            preference captureAdapterLuid captureAdapterKnown)
          (resolveEncoderDevice candidates' preference captureAdapterLuid captureAdapterKnown)) := by
  generalize buildEncoderDeviceCandidates adapters capabilities request = candidates
  unfold resolveEncoderDevice
  cases hmode : preference.mode with
  | explicit =>
    have hnotAuto : preference.mode ≠ .auto := by simp [hmode]
    refine ⟨fun h => ?_, fun hnodup candidates' hperm => resolveExplicit_perm hperm hnodup⟩
    obtain ⟨selected, hchosen, husable, hone, hvalid⟩ := resolveExplicit_resolved h
    exact ⟨selected, hchosen, husable, fun _ => hone, fun _ hknown => hvalid hknown,
      fun hauto => absurd hauto hnotAuto⟩
  | auto =>
    have hnotExplicit : preference.mode ≠ .explicit := by simp [hmode]
    refine ⟨fun h => ?_, fun hnodup candidates' hperm => resolveAuto_perm hperm hnodup⟩
    obtain ⟨selected, hchosen, husable, hluid⟩ := resolveAuto_resolved h
    exact ⟨selected, hchosen, husable, fun hexplicit => absurd hexplicit hnotExplicit,
      fun hexplicit => absurd hexplicit hnotExplicit, fun _ _ => hluid⟩

/-- Two NVIDIA cards: the explicit choice is the second, which captures. -/
theorem encoder_device_choice_two_cards :
    ∃ selected, ChoiceSound (buildEncoderDeviceCandidates
        [{ vendorId := 0x10DE, deviceId := 1, luid := 7 }, { vendorId := 0x10DE, deviceId := 2, luid := 9 }]
        [{ probed := true, av1 := true }, { probed := true, av1 := true }] {})
      { mode := .explicit, device := { vendorId := 0x10DE, deviceId := 2 } } 9 true selected
      (resolveEncoderDevice (buildEncoderDeviceCandidates
        [{ vendorId := 0x10DE, deviceId := 1, luid := 7 }, { vendorId := 0x10DE, deviceId := 2, luid := 9 }]
        [{ probed := true, av1 := true }, { probed := true, av1 := true }] {})
        { mode := .explicit, device := { vendorId := 0x10DE, deviceId := 2 } } 9 true) :=
  (encoder_device_choice
    [{ vendorId := 0x10DE, deviceId := 1, luid := 7 }, { vendorId := 0x10DE, deviceId := 2, luid := 9 }]
    [{ probed := true, av1 := true }, { probed := true, av1 := true }] {}
    { mode := .explicit, device := { vendorId := 0x10DE, deviceId := 2 } } 9 true).1 (by decide)

end Exosnap.Capability
