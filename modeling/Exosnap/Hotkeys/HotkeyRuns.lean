/-
  Bindings and registrations over runs of calls.

  Only `TrySetBinding` looks for conflicts, and it compares whole sequences where the registrar gets
  the first chord; stored strings are taken as they are, and what is held is left where it is. A call
  is clean when it runs into none of this, and over clean calls bindings and registrations agree
  (`hotkeys_agree`).
-/
import Exosnap.Hotkeys.GlobalHotkeyService

namespace Exosnap.Hotkeys

open HotkeySystem

variable {texts : KeyTexts} {s : HotkeySystem} {action : HotkeyAction} {seq : KeySequence}
  {acceptsNew acceptsOld : Bool}

/-! ## What is asked -/

/-- No two actions have one combination. -/
def DistinctBindings (bindings : HotkeyAction → KeySequence) : Prop :=
  ∀ a b, a ≠ b → ∀ c ∈ combination (bindings a), combination (bindings b) ≠ some c

/-- What is held under the id of an action is what its binding shows. -/
structure Agrees (s : HotkeySystem) : Prop where
  distinct : DistinctBindings s.bindings
  registered : ∀ h ∈ s.held, combination (s.bindings h.action) = some h.combination

/-- A call that tries to bind and fails changes no binding, emits nothing and leaves the old
    combination registered, unless the registrar refuses it. -/
def FailedRebindKeeps (texts : KeyTexts) (s : HotkeySystem) : HotkeyCall → Prop
  | .trySetBinding action seq acceptsNew acceptsOld =>
      (s.trySetBinding texts action seq acceptsNew acceptsOld).1.success = false →
        (s.trySetBinding texts action seq acceptsNew acceptsOld).2.bindings = s.bindings ∧
          (s.trySetBinding texts action seq acceptsNew acceptsOld).2.emitted = s.emitted ∧
          (acceptsOld = true → ∀ c ∈ combination (s.bindings action), ∀ registrar,
            ⟨registrar, action, c⟩ ∈ s.held →
              ⟨registrar, action, c⟩ ∈
                (s.trySetBinding texts action seq acceptsNew acceptsOld).2.held)
  | _ => True

/-- Nobody refuses to register the binding. -/
def NotRefused (registrar : Option Nat) (seq : KeySequence) (acceptsNew : Bool) : Prop :=
  registrar = none ∨ seq = [] ∨ acceptsNew = true

/-- The call changes the binding of the action. -/
structure Rebinds (s : HotkeySystem) (action : HotkeyAction) (seq : KeySequence)
    (acceptsNew : Bool) : Prop where
  valid : validateSequence seq = .none
  free : s.findConflict action seq = none
  changed : s.bindings action ≠ seq
  accepted : NotRefused s.registrar seq acceptsNew

/-- A binding that is changed takes no combination of another action, and leaves none behind with a
    registrar that is not asked any more. -/
structure CleanRebind (s : HotkeySystem) (action : HotkeyAction) (seq : KeySequence) : Prop where
  distinct : ∀ other, other ≠ action → ∀ c ∈ combination seq,
    combination (s.bindings other) ≠ some c
  elsewhere : ∀ h ∈ s.held, h.action = action → some h.registrar ≠ s.registrar →
    combination seq = some h.combination

/-- What a call must not run into. -/
def Clean (texts : KeyTexts) (s : HotkeySystem) : HotkeyCall → Prop
  | .loadFromStrings stored =>
      DistinctBindings (fun action => loadedBinding texts action (stored action)) ∧
        ∀ h ∈ s.held,
          combination (loadedBinding texts h.action (stored h.action)) = some h.combination
  | .setRegistrar _ _ => True
  | .trySetBinding action seq acceptsNew _ =>
      Rebinds s action seq acceptsNew → CleanRebind s action seq
  | .unsetBinding action => s.bindings action ≠ [] → CleanRebind s action []
  | .resetToDefault action acceptsNew _ =>
      Rebinds s action (defaultBinding action) acceptsNew →
        CleanRebind s action (defaultBinding action)

/-! ## Sequences -/

theorem vk_of_valid {chord : Chord} {rest : KeySequence}
    (h : validateSequence (chord :: rest) = .none) : qtKeyToVk chord.key ≠ 0 := by
  simp only [validateSequence] at h
  split at h
  · cases h
  split at h
  · cases h
  split at h
  · cases h
  · assumption

theorem valid_default (action : HotkeyAction) :
    validateSequence (defaultBinding action) = .none := by
  cases action <;> decide

theorem valid_loaded (action : HotkeyAction) (stored : String) :
    validateSequence (loadedBinding texts action stored) = .none := by
  unfold loadedBinding
  split
  · rfl
  split
  · exact valid_default action
  · dsimp only
    split
    · next h =>
      rw [Bool.and_eq_true, beq_iff_eq] at h
      exact h.2
    · exact valid_default action

theorem findConflict_eq_none :
    s.findConflict action seq = none ↔
      ∀ other, other ≠ action → seq ≠ [] → s.bindings other ≠ seq := by
  unfold findConflict
  rw [List.find?_eq_none]
  constructor
  · intro h other hother hseq heq
    refine h other (HotkeyAction.mem_all other) ?_
    simp [hother, hseq, heq]
  · intro h other _ hboth
    simp only [Bool.and_eq_true, bne_iff_ne, Bool.not_eq_true', beq_iff_eq,
      List.isEmpty_eq_false_iff] at hboth
    exact h other hboth.1.1 hboth.1.2 hboth.2

/-! ## Registrations -/

theorem mem_unregister {held : Registrations} {registrar : Nat} {h : Registration} :
    h ∈ held.unregister registrar action ↔
      h ∈ held ∧ ¬(h.registrar = registrar ∧ h.action = action) := by
  simp [Registrations.unregister, List.mem_filter, imp_iff_not_or]

theorem mem_register {held : Registrations} {registrar : Nat} {c : Combination} {accepts : Bool}
    {h : Registration} :
    h ∈ held.register registrar action c accepts ↔
      (accepts = true ∧ h = ⟨registrar, action, c⟩) ∨ h ∈ held := by
  unfold Registrations.register
  cases accepts <;> simp

@[simp] theorem registrable_nil : registrable [] = none := rfl

theorem registrable_of_valid (h : validateSequence seq = .none) :
    registrable seq = combination seq := by
  cases seq with
  | nil => rfl
  | cons chord rest => exact if_neg (vk_of_valid h)

theorem mem_restoreOld {held : Registrations} {registrar : Nat} {old : KeySequence}
    {h : Registration} (hvalid : validateSequence old = .none) :
    h ∈ restoreOld held registrar action old acceptsOld ↔
      (acceptsOld = true ∧ ∃ c ∈ combination old, h = ⟨registrar, action, c⟩) ∨ h ∈ held := by
  unfold restoreOld
  rw [registrable_of_valid hvalid]
  cases hc : combination old with
  | none => simp
  | some c => simp [mem_register]

theorem mem_foldl_register {registrar : Nat} {accepts : HotkeyAction → Bool} {h : Registration}
    (asked : List (HotkeyAction × Combination)) (held : Registrations) :
    h ∈ asked.foldl (fun held ask => held.register registrar ask.1 ask.2 (accepts ask.1)) held ↔
      (∃ ask ∈ asked, accepts ask.1 = true ∧ h = ⟨registrar, ask.1, ask.2⟩) ∨ h ∈ held := by
  induction asked generalizing held with
  | nil => simp
  | cons ask asked ih =>
    rw [List.foldl_cons, ih, mem_register]
    simp only [List.exists_mem_cons_iff]
    exact ⟨fun h => by rwa [or_assoc, or_left_comm], fun h => by rwa [or_assoc, or_left_comm] at h⟩

/-- What is held after a binding was changed. -/
def heldAfter (registrar : Option Nat) (held : Registrations) (action : HotkeyAction)
    (seq : KeySequence) : Registrations :=
  match registrar with
  | none => held
  | some registrar =>
      ((combination seq).map fun c => (⟨registrar, action, c⟩ : Registration)).toList ++
        held.unregister registrar action

theorem attemptRegistration_accepted {registrar : Option Nat} {old : KeySequence}
    (held : Registrations) (hseq : validateSequence seq = .none)
    (h : NotRefused registrar seq acceptsNew) :
    attemptRegistration registrar held action seq old acceptsNew acceptsOld =
      (succeeded action, heldAfter registrar held action seq) := by
  cases registrar with
  | none => rfl
  | some registrar =>
    cases seq with
    | nil => rfl
    | cons chord rest =>
      obtain hnone | hnil | rfl := h
      · cases hnone
      · cases hnil
      · simp [attemptRegistration, heldAfter, combination, Registrations.register,
          vk_of_valid hseq]

theorem attemptRegistration_refused {registrar : Option Nat} (held : Registrations)
    (action : HotkeyAction) (old : KeySequence) (acceptsOld : Bool)
    (hseq : validateSequence seq = .none)
    (h : ¬NotRefused registrar seq acceptsNew) :
    ∃ r, registrar = some r ∧
      (attemptRegistration registrar held action seq old acceptsNew acceptsOld).1.success = false ∧
      (attemptRegistration registrar held action seq old acceptsNew acceptsOld).2 =
        restoreOld (held.unregister r action) r action old acceptsOld := by
  unfold NotRefused at h
  push Not at h
  obtain ⟨hregistrar, hseq', hrefused⟩ := h
  obtain ⟨r, rfl⟩ := Option.ne_none_iff_exists'.mp hregistrar
  obtain ⟨chord, rest, rfl⟩ := List.exists_cons_of_ne_nil hseq'
  obtain rfl := eq_false_of_ne_true hrefused
  exact ⟨r, rfl, by simp [attemptRegistration, vk_of_valid hseq]⟩

/-- What a call to bind does: nothing; or, where the registrar refuses the combination, it registers
    the old one again; or it changes the binding and what is held. -/
theorem trySetBinding_cases (texts : KeyTexts) (s : HotkeySystem) (action : HotkeyAction)
    (seq : KeySequence) (acceptsNew acceptsOld : Bool) :
    (¬Rebinds s action seq acceptsNew ∧
        (s.trySetBinding texts action seq acceptsNew acceptsOld).2 = s) ∨
      (∃ registrar, s.registrar = some registrar ∧ acceptsNew = false ∧
        (s.trySetBinding texts action seq acceptsNew acceptsOld).2 =
          { s with
            held := restoreOld (s.held.unregister registrar action) registrar action
              (s.bindings action) acceptsOld }) ∨
      (Rebinds s action seq acceptsNew ∧
        (s.trySetBinding texts action seq acceptsNew acceptsOld).1.success = true ∧
        (s.trySetBinding texts action seq acceptsNew acceptsOld).2 =
          { s with held := heldAfter s.registrar s.held action seq }.commitBinding action seq) := by
  unfold trySetBinding
  by_cases hseq : validateSequence seq = .none
  · rw [if_neg (not_not.mpr hseq)]
    cases hconflict : s.findConflict action seq with
    | some conflicting => exact .inl ⟨fun h => absurd (hconflict.symm.trans h.free) nofun, rfl⟩
    | none =>
      dsimp only
      by_cases hsame : s.bindings action = seq
      · rw [if_pos hsame]
        exact .inl ⟨fun h => h.changed hsame, rfl⟩
      rw [if_neg hsame]
      by_cases haccepted : NotRefused s.registrar seq acceptsNew
      · rw [attemptRegistration_accepted s.held hseq haccepted]
        exact .inr (.inr ⟨⟨hseq, hconflict, hsame, haccepted⟩, rfl, rfl⟩)
      · obtain ⟨r, hr, hfailed, hheld⟩ := attemptRegistration_refused s.held action
          (s.bindings action) acceptsOld hseq haccepted
        rw [if_neg (by rw [hfailed]; exact Bool.false_ne_true), hheld]
        have hrefused : acceptsNew = false := eq_false_of_ne_true fun h => haccepted (.inr (.inr h))
        exact .inr (.inl ⟨r, hr, hrefused, rfl⟩)
  · rw [if_pos hseq]
    exact .inl ⟨fun h => hseq h.valid, rfl⟩

/-! ## One call -/

/-- Bindings and registrations agree, and every binding can be registered. -/
structure HotkeyInvariant (s : HotkeySystem) : Prop extends Agrees s where
  valid : ∀ action, validateSequence (s.bindings action) = .none

theorem mem_heldAfter {h : Registration} (hmem : h ∈ heldAfter s.registrar s.held action seq) :
    (h.action = action ∧ some h.combination = combination seq) ∨
      (h ∈ s.held ∧ ¬(some h.registrar = s.registrar ∧ h.action = action)) := by
  unfold heldAfter at hmem
  cases hregistrar : s.registrar with
  | none =>
    rw [hregistrar] at hmem
    exact .inr ⟨hmem, fun hboth => nomatch hboth.1⟩
  | some registrar =>
    rw [hregistrar] at hmem
    obtain hmem | hmem := List.mem_append.mp hmem
    · obtain ⟨c, hc, rfl⟩ := Option.mem_map.mp (Option.mem_toList.mp hmem)
      exact .inl ⟨rfl, hc.symm⟩
    · obtain ⟨hheld, hnot⟩ := mem_unregister.mp hmem
      exact .inr ⟨hheld, fun hboth => hnot ⟨Option.some.inj hboth.1, hboth.2⟩⟩

theorem invariant_rebind (h : HotkeyInvariant s) (hclean : CleanRebind s action seq)
    (hseq : validateSequence seq = .none) :
    HotkeyInvariant
      ({ s with held := heldAfter s.registrar s.held action seq }.commitBinding action seq) where
  distinct := by
    intro a b hab c hc
    by_cases ha : a = action
    · subst ha
      have hb : b ≠ a := Ne.symm hab
      simp only [commitBinding, Function.update_self, Function.update_of_ne hb] at hc ⊢
      exact hclean.distinct b hb c hc
    · by_cases hb : b = action
      · subst hb
        simp only [commitBinding, Function.update_self, Function.update_of_ne hab] at hc ⊢
        intro hsame
        exact hclean.distinct a hab c hsame hc
      · simp only [commitBinding, Function.update_of_ne ha, Function.update_of_ne hb] at hc ⊢
        exact h.distinct a b hab c hc
  registered := by
    intro r hr
    obtain ⟨haction, hcombination⟩ | ⟨hheld, hnot⟩ := mem_heldAfter hr
    · simp only [commitBinding, haction, Function.update_self]
      exact hcombination.symm
    · by_cases haction : r.action = action
      · simp only [commitBinding, haction, Function.update_self]
        exact hclean.elsewhere r hheld haction fun hregistrar => hnot ⟨hregistrar, haction⟩
      · simp only [commitBinding, Function.update_of_ne haction]
        exact h.registered r hheld
  valid := by
    intro a
    by_cases ha : a = action
    · simpa only [commitBinding, ha, Function.update_self] using hseq
    · simpa only [commitBinding, Function.update_of_ne ha] using h.valid a

theorem invariant_restore (h : HotkeyInvariant s) (registrar : Nat) :
    HotkeyInvariant
      { s with
        held := restoreOld (s.held.unregister registrar action) registrar action
          (s.bindings action) acceptsOld } where
  distinct := h.distinct
  registered := by
    intro r hr
    obtain ⟨-, c, hc, rfl⟩ | hr := (mem_restoreOld (h.valid action)).mp hr
    · exact hc
    · exact h.registered r (mem_unregister.mp hr).1
  valid := h.valid

theorem invariant_trySetBinding (h : HotkeyInvariant s)
    (hclean : Rebinds s action seq acceptsNew → CleanRebind s action seq) :
    HotkeyInvariant (s.trySetBinding texts action seq acceptsNew acceptsOld).2 := by
  obtain ⟨-, hsame⟩ | ⟨registrar, -, -, hrestored⟩ | ⟨hrebinds, -, hchanged⟩ :=
    trySetBinding_cases texts s action seq acceptsNew acceptsOld
  · rwa [hsame]
  · rw [hrestored]
    exact invariant_restore h registrar
  · rw [hchanged]
    exact invariant_rebind h (hclean hrebinds) hrebinds.valid

theorem unsetBinding_eq (h : s.bindings action ≠ []) :
    s.unsetBinding action =
      { s with held := heldAfter s.registrar s.held action [] }.commitBinding action [] := by
  unfold unsetBinding heldAfter
  rw [if_neg (by simpa using h)]
  cases s with
  | mk registrar bindings held emitted => cases registrar <;> rfl

theorem invariant_unset (h : HotkeyInvariant s)
    (hclean : s.bindings action ≠ [] → CleanRebind s action []) :
    HotkeyInvariant (s.unsetBinding action) := by
  by_cases hempty : s.bindings action = []
  · rwa [unsetBinding, hempty, List.isEmpty_nil, if_pos rfl]
  · rw [unsetBinding_eq hempty]
    exact invariant_rebind h (hclean hempty) rfl

theorem invariant_setRegistrar (h : HotkeyInvariant s) (registrar : Option Nat)
    (accepts : HotkeyAction → Bool) : HotkeyInvariant (s.setRegistrar registrar accepts).2 := by
  cases registrar with
  | none => exact ⟨⟨h.distinct, h.registered⟩, h.valid⟩
  | some registrar =>
    refine ⟨⟨h.distinct, ?_⟩, h.valid⟩
    intro r hr
    obtain ⟨ask, hask, -, rfl⟩ | hr := (mem_foldl_register _ _).mp hr
    · obtain ⟨action, -, hc⟩ := List.mem_filterMap.mp hask
      rw [registrable_of_valid (h.valid action)] at hc
      obtain ⟨c, hshown, rfl⟩ := Option.map_eq_some_iff.mp hc
      exact hshown
    · exact h.registered r hr

/-- A clean call keeps the invariant. -/
theorem invariant_call (call : HotkeyCall) (h : HotkeyInvariant s) (hclean : Clean texts s call) :
    HotkeyInvariant (s.call texts call) := by
  cases call with
  | loadFromStrings stored =>
    exact ⟨⟨hclean.1, hclean.2⟩, fun action => valid_loaded action (stored action)⟩
  | setRegistrar registrar accepts => exact invariant_setRegistrar h registrar accepts
  | trySetBinding action seq acceptsNew acceptsOld => exact invariant_trySetBinding h hclean
  | unsetBinding action => exact invariant_unset h hclean
  | resetToDefault action acceptsNew acceptsOld => exact invariant_trySetBinding h hclean

/-! ## A failed rebind -/

/-- A failed call puts the old registration back, where there is a valid old binding. -/
theorem failedRebind_keeps (call : HotkeyCall)
    (h : ∀ action, validateSequence (s.bindings action) = .none) :
    FailedRebindKeeps texts s call := by
  cases call with
  | trySetBinding action seq acceptsNew acceptsOld =>
    intro hfailed
    obtain ⟨-, hsame⟩ | ⟨registrar, -, -, hrestored⟩ | ⟨-, hsucceeded, -⟩ :=
      trySetBinding_cases texts s action seq acceptsNew acceptsOld
    · rw [hsame]
      exact ⟨rfl, rfl, fun _ _ _ _ hheld => hheld⟩
    · rw [hrestored]
      refine ⟨rfl, rfl, fun haccepts c hc other hheld => ?_⟩
      refine (mem_restoreOld (h action)).mpr ?_
      by_cases hother : other = registrar
      · exact .inl ⟨haccepts, c, hc, by rw [hother]⟩
      · exact .inr (mem_unregister.mpr ⟨hheld, fun hboth => hother hboth.1⟩)
    · rw [hsucceeded] at hfailed
      cases hfailed
  | loadFromStrings stored => trivial
  | setRegistrar registrar accepts => trivial
  | unsetBinding action => trivial
  | resetToDefault action acceptsNew acceptsOld => trivial

/-! ## Runs -/

theorem distinct_defaults : DistinctBindings defaultBinding := by
  unfold DistinctBindings
  decide

/-- Over clean calls bindings and registrations agree after each call, and a call that fails to bind
    keeps what was bound and registered. -/
theorem hotkeys_agree (texts : KeyTexts) (calls : List HotkeyCall) (call : HotkeyCall)
    (h : StepRun.Meets (fun s call => some (s.call texts call)) (Clean texts) .initial
      (calls ++ [call])) :
    Agrees ((calls ++ [call]).foldl (HotkeySystem.call texts) .initial) ∧
      FailedRebindKeeps texts (calls.foldl (HotkeySystem.call texts) .initial) call := by
  have hinitial : HotkeyInvariant .initial := ⟨⟨distinct_defaults, nofun⟩, valid_default⟩
  have hrun : ∀ run,
      StepRun.Meets (fun s call => some (s.call texts call)) (Clean texts) .initial run →
      HotkeyInvariant (run.foldl (HotkeySystem.call texts) .initial) := fun run hmeets =>
    StepRun.exec_invariant
      (fun s call s' hs hclean hstep => Option.some.inj hstep ▸ invariant_call call hs hclean)
      hinitial hmeets (StepRun.exec_total _ _ run)
  have hbefore := hrun calls ((StepRun.meets_concat _ _ call calls _).mp h).1
  exact ⟨(hrun _ h).toAgrees, failedRebind_keeps call hbefore.valid⟩

/-- The texts of a keyboard on which `Alt+Shift+P` is the only one that is read. -/
def plainTexts : KeyTexts where
  fromString text := if text = "Alt+Shift+P" then altShift 0x50 else []
  nativeText _ := "Alt+Shift+P"
  isSpace := Char.isWhitespace

theorem hotkeys_agree_refused :
    let calls : List HotkeyCall :=
      [.setRegistrar (some 0) fun _ => true,
        .trySetBinding .toggleRecording (altShift 0x58) true true]
    let call : HotkeyCall := .trySetBinding .togglePause (altShift 0x59) false true
    Agrees ((calls ++ [call]).foldl (HotkeySystem.call plainTexts) .initial) ∧
      FailedRebindKeeps plainTexts (calls.foldl (HotkeySystem.call plainTexts) .initial) call := by
  refine hotkeys_agree plainTexts _ _ ?_
  simp only [List.cons_append, List.nil_append, StepRun.meets_total_cons]
  refine ⟨trivial, fun _ => ⟨by decide, by decide⟩, fun hrebinds => ?_, trivial⟩
  exact absurd hrebinds.accepted (by unfold NotRefused; decide)

/-- Stored strings are taken without a look at each other: two actions start on one combination. -/
theorem stored_conflict_is_bound :
    ¬Agrees ([.loadFromStrings fun
        | .toggleRecording => "Alt+Shift+P"
        | _ => ""].foldl (HotkeySystem.call plainTexts) .initial) := by
  intro h
  exact h.distinct .toggleRecording .togglePause (by decide) ⟨0x4005, 0x50⟩ (by decide) (by decide)

end Exosnap.Hotkeys
