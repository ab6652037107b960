/-
  The reset of all bindings.

  It goes action by action through the search for conflicts, which looks at bindings that are still
  to be reset. A step changes nothing but its own action, so that the whole is what each step does to
  the bindings as they were (`resetEach_iff`): a default that a later action holds is not given back, and
  an action that shows its default already is passed over, registered or not.
-/
import Exosnap.Hotkeys.HotkeyRuns

namespace Exosnap.Hotkeys

open HotkeySystem

variable {texts : KeyTexts} {s : HotkeySystem} {registrar : Nat} {action other : HotkeyAction}

/-- The binding is the default, and the one that is registered. -/
structure AtDefault (s : HotkeySystem) (registrar : Nat) (action : HotkeyAction) : Prop where
  binding : s.bindings action = defaultBinding action
  registered : ∀ c, ⟨registrar, action, c⟩ ∈ s.held ↔ combination (defaultBinding action) = some c

/-- An action that shows its default has it registered. -/
def Kept (s : HotkeySystem) (registrar : Nat) (action : HotkeyAction) : Prop :=
  s.bindings action = defaultBinding action → AtDefault s registrar action

/-- Another action holds the default only if the action itself holds it as well. -/
def Unblocked (s : HotkeySystem) (action other : HotkeyAction) : Prop :=
  s.bindings other = defaultBinding action → s.bindings action = defaultBinding action

/-- The two states are the same for an action. -/
structure SameFor (s t : HotkeySystem) (action : HotkeyAction) : Prop where
  registrar : s.registrar = t.registrar
  binding : s.bindings action = t.bindings action
  held : ∀ registrar c,
    (⟨registrar, action, c⟩ : Registration) ∈ s.held ↔ ⟨registrar, action, c⟩ ∈ t.held

theorem SameFor.atDefault_iff {t : HotkeySystem} (h : SameFor s t action) :
    AtDefault s registrar action ↔ AtDefault t registrar action := by
  constructor
  · rintro ⟨hbinding, hregistered⟩
    exact ⟨h.binding ▸ hbinding, fun c => (h.held registrar c).symm.trans (hregistered c)⟩
  · rintro ⟨hbinding, hregistered⟩
    exact ⟨h.binding ▸ hbinding, fun c => (h.held registrar c).trans (hregistered c)⟩

theorem defaultBinding_injective : Function.Injective defaultBinding := by
  unfold Function.Injective
  decide

theorem mem_heldAfter_some {held : Registrations} {seq : KeySequence} {h : Registration} :
    h ∈ heldAfter (some registrar) held action seq ↔
      (∃ c ∈ combination seq, ⟨registrar, action, c⟩ = h) ∨
        (h ∈ held ∧ ¬(h.registrar = registrar ∧ h.action = action)) := by
  simp only [heldAfter, List.mem_append, Option.mem_toList, Option.mem_def, Option.map_eq_some_iff,
    mem_unregister]

/-- A reset changes nothing of another action. -/
theorem resetToDefault_frame (acceptsOld : Bool) (hother : other ≠ action) :
    SameFor (s.resetToDefault texts action true acceptsOld).2 s other := by
  obtain ⟨-, hsame⟩ | ⟨_, -, hrefused, -⟩ | ⟨-, -, hchanged⟩ :=
    trySetBinding_cases texts s action (defaultBinding action) true acceptsOld
  · rw [resetToDefault, hsame]
    exact ⟨rfl, rfl, fun _ _ => Iff.rfl⟩
  · cases hrefused
  · rw [resetToDefault, hchanged]
    refine ⟨rfl, Function.update_of_ne hother _ _, fun r c => ?_⟩
    show _ ∈ heldAfter s.registrar s.held action _ ↔ _
    cases hregistrar : s.registrar with
    | none => rfl
    | some asked =>
      rw [mem_heldAfter_some]
      constructor
      · rintro (⟨c, -, heq⟩ | ⟨hheld, -⟩)
        · exact absurd (congrArg Registration.action heq).symm hother
        · exact hheld
      · exact fun hheld => .inr ⟨hheld, fun hboth => hother hboth.2⟩

/-- What a reset of one action needs. -/
theorem resetToDefault_iff (acceptsOld : Bool) (hregistrar : s.registrar = some registrar) :
    AtDefault (s.resetToDefault texts action true acceptsOld).2 registrar action ↔
      Kept s registrar action ∧ ∀ other, other ≠ action → Unblocked s action other := by
  have hnonempty : defaultBinding action ≠ [] := by cases action <;> decide
  obtain ⟨hnot, hsame⟩ | ⟨_, -, hrefused, -⟩ | ⟨hrebinds, -, hchanged⟩ :=
    trySetBinding_cases texts s action (defaultBinding action) true acceptsOld
  · rw [resetToDefault, hsame]
    constructor
    · exact fun h => ⟨fun _ => h, fun _ _ _ => h.binding⟩
    · rintro ⟨hkept, hfree⟩
      by_contra hreset
      refine hnot ⟨valid_default action, ?_, fun hbinding => hreset (hkept hbinding),
        .inr (.inr rfl)⟩
      exact findConflict_eq_none.mpr fun other hother _ hconflict =>
        hreset (hkept (hfree other hother hconflict))
  · cases hrefused
  · rw [resetToDefault, hchanged]
    refine iff_of_true ⟨Function.update_self _ _ _, fun c => ?_⟩
      ⟨fun hbinding => absurd hbinding hrebinds.changed, fun other hother hconflict =>
        absurd hconflict (findConflict_eq_none.mp hrebinds.free other hother hnonempty)⟩
    show _ ∈ heldAfter s.registrar s.held action _ ↔ _
    rw [hregistrar, mem_heldAfter_some]
    constructor
    · rintro (⟨d, hd, heq⟩ | ⟨-, hnot⟩)
      · exact hd.trans (congrArg (fun h : Registration => some h.combination) heq)
      · exact absurd ⟨rfl, rfl⟩ hnot
    · exact fun hc => .inl ⟨c, hc, rfl⟩

/-- The steps of the reset of all, for some of the actions. -/
def resetEach (texts : KeyTexts) (accepts : HotkeyAction → Bool × Bool) (actions : List HotkeyAction)
    (s : HotkeySystem) : HotkeySystem :=
  actions.foldl
    (fun s action => (s.resetToDefault texts action (accepts action).1 (accepts action).2).2) s

variable {accepts : HotkeyAction → Bool × Bool}

theorem resetEach_frame (haccepts : ∀ action, (accepts action).1 = true)
    {actions : List HotkeyAction} (s : HotkeySystem) (h : other ∉ actions) :
    SameFor (resetEach texts accepts actions s) s other := by
  induction actions generalizing s with
  | nil => exact ⟨rfl, rfl, fun _ _ => Iff.rfl⟩
  | cons action actions ih =>
    obtain ⟨hother, hrest⟩ := not_or.mp (List.mem_cons.not.mp h)
    have hstep : SameFor (s.resetToDefault texts action (accepts action).1 (accepts action).2).2 s
        other := by
      rw [haccepts]
      exact resetToDefault_frame _ hother
    have hlater := ih (s.resetToDefault texts action (accepts action).1 (accepts action).2).2 hrest
    exact ⟨hlater.registrar.trans hstep.registrar, hlater.binding.trans hstep.binding,
      fun r c => (hlater.held r c).trans (hstep.held r c)⟩

theorem resetToDefault_registrar (texts : KeyTexts) (s : HotkeySystem) (action : HotkeyAction)
    (acceptsOld : Bool) :
    (s.resetToDefault texts action true acceptsOld).2.registrar = s.registrar := by
  obtain ⟨-, hsame⟩ | ⟨_, -, hrefused, -⟩ | ⟨-, -, hchanged⟩ :=
    trySetBinding_cases texts s action (defaultBinding action) true acceptsOld
  · rw [resetToDefault, hsame]
  · cases hrefused
  · rw [resetToDefault, hchanged]
    rfl

/-- What the reset of some of the actions needs: of two of them the later one does not block the
    earlier one, and neither does an action that is left out. -/
structure Resettable (s : HotkeySystem) (registrar : Nat) (actions : List HotkeyAction) : Prop where
  kept : ∀ action ∈ actions, Kept s registrar action
  ordered : actions.Pairwise (Unblocked s)
  apart : ∀ action ∈ actions, ∀ other ∉ actions, Unblocked s action other

theorem SameFor.kept_iff {t : HotkeySystem} (h : SameFor s t action) :
    Kept s registrar action ↔ Kept t registrar action := by
  unfold Kept
  rw [h.binding, h.atDefault_iff]

theorem SameFor.unblocked_iff {t : HotkeySystem} (h : SameFor s t action) (ho : SameFor s t other) :
    Unblocked s action other ↔ Unblocked t action other := by
  unfold Unblocked
  rw [h.binding, ho.binding]

/-- After the first of the actions is at its default, it blocks no other one. -/
theorem resettable_cons {s' : HotkeySystem} {first : HotkeyAction} {rest : List HotkeyAction}
    (hfirst : first ∉ rest) (hframe : ∀ other, other ≠ first → SameFor s' s other)
    (hstep : AtDefault s' registrar first ↔
      Kept s registrar first ∧ ∀ other, other ≠ first → Unblocked s first other) :
    AtDefault s' registrar first ∧ Resettable s' registrar rest ↔
      Resettable s registrar (first :: rest) := by
  have hrest : ∀ {action}, action ∈ rest → action ≠ first := fun haction heq =>
    hfirst (heq ▸ haction)
  constructor
  · rintro ⟨hdefault, hkept, hordered, hapart⟩
    obtain ⟨hfirstKept, hunblocked⟩ := hstep.mp hdefault
    refine ⟨List.forall_mem_cons.mpr ⟨hfirstKept, fun action haction =>
      (hframe action (hrest haction)).kept_iff.mp (hkept action haction)⟩,
      List.pairwise_cons.mpr ⟨fun action haction => hunblocked action (hrest haction),
        hordered.imp_of_mem fun ha hb => ((hframe _ (hrest ha)).unblocked_iff
          (hframe _ (hrest hb))).mp⟩, ?_⟩
    intro action haction other hother
    obtain ⟨hne, hout⟩ := not_or.mp (List.mem_cons.not.mp hother)
    obtain rfl | haction := List.mem_cons.mp haction
    · exact hunblocked other hne
    · exact ((hframe _ (hrest haction)).unblocked_iff (hframe _ hne)).mp
        (hapart action haction other hout)
  · rintro ⟨hkept, hordered, hapart⟩
    obtain ⟨hlater, hordered⟩ := List.pairwise_cons.mp hordered
    have hdefault : AtDefault s' registrar first := hstep.mpr
      ⟨hkept first List.mem_cons_self, fun other hother => by
        by_cases hmem : other ∈ rest
        · exact hlater other hmem
        · exact hapart first List.mem_cons_self other (by simp [hother, hmem])⟩
    refine ⟨hdefault, fun action haction => (hframe action (hrest haction)).kept_iff.mpr
      (hkept action (List.mem_cons_of_mem first haction)),
      hordered.imp_of_mem fun ha hb => ((hframe _ (hrest ha)).unblocked_iff
        (hframe _ (hrest hb))).mpr, ?_⟩
    intro action haction other hother
    by_cases hne : other = first
    · intro hblocked
      rw [hne, hdefault.binding] at hblocked
      exact absurd (defaultBinding_injective hblocked).symm (hrest haction)
    · exact ((hframe _ (hrest haction)).unblocked_iff (hframe _ hne)).mpr
        (hapart action (List.mem_cons_of_mem first haction) other (by simp [hne, hother]))

theorem resetEach_iff (texts : KeyTexts) (haccepts : ∀ action, (accepts action).1 = true)
    {actions : List HotkeyAction} (hnodup : actions.Nodup) (s : HotkeySystem)
    (hregistrar : s.registrar = some registrar) :
    (∀ action ∈ actions, AtDefault (resetEach texts accepts actions s) registrar action) ↔
      Resettable s registrar actions := by
  induction actions generalizing s with
  | nil => exact iff_of_true nofun ⟨nofun, .nil, nofun⟩
  | cons first rest ih =>
    obtain ⟨hfirst, hrest⟩ := List.nodup_cons.mp hnodup
    have hrun : resetEach texts accepts (first :: rest) s =
        resetEach texts accepts rest (s.resetToDefault texts first true (accepts first).2).2 := by
      rw [← haccepts first]
      rfl
    have hregistrar' := (resetToDefault_registrar texts s first (accepts first).2).trans hregistrar
    rw [hrun, List.forall_mem_cons, (resetEach_frame haccepts _ hfirst).atDefault_iff,
      ih hrest _ hregistrar']
    exact resettable_cons hfirst (fun other hother => resetToDefault_frame _ hother)
      (resetToDefault_iff _ hregistrar)

/-- With a registrar that accepts every default, the reset of all gives every action its default
    exactly if no action blocks an earlier one and every default that is shown is registered. -/
theorem resetAll_iff (texts : KeyTexts) (s : HotkeySystem) (registrar : Nat)
    (accepts : HotkeyAction → Bool × Bool) (hregistrar : s.registrar = some registrar)
    (haccepts : ∀ action, (accepts action).1 = true) :
    (∀ action, AtDefault (s.resetAllToDefaults texts accepts) registrar action) ↔
      (∀ action, s.bindings action = defaultBinding action → ∀ c,
          ⟨registrar, action, c⟩ ∈ s.held ↔ combination (defaultBinding action) = some c) ∧
        HotkeyAction.all.Pairwise fun earlier later =>
          s.bindings later = defaultBinding earlier →
            s.bindings earlier = defaultBinding earlier := by
  have hnodup : HotkeyAction.all.Nodup := by decide
  have heach := resetEach_iff texts haccepts hnodup s hregistrar
  have hall : ∀ action : HotkeyAction, action ∈ HotkeyAction.all := HotkeyAction.mem_all
  constructor
  · intro h
    obtain ⟨hkept, hordered, -⟩ := heach.mp fun action _ => h action
    exact ⟨fun action hbinding => (hkept action (hall action) hbinding).registered, hordered⟩
  · rintro ⟨hregistered, hordered⟩ action
    exact heach.mpr ⟨fun action _ hbinding => ⟨hbinding, hregistered action hbinding⟩, hordered,
      fun _ _ other hother => absurd (hall other) hother⟩ action (hall action)

/-- Calls after which the recording's shortcut is one of the user's, and its default belongs to the
    pause. -/
def swappedCalls (registrar : Nat) : List HotkeyCall :=
  [.setRegistrar (some registrar) fun _ => true,
    .trySetBinding .toggleRecording (altShift 0x58) true true,
    .trySetBinding .togglePause (altShift 0x52) true true]

theorem resetAll_iff_unset :
    let s := [.setRegistrar (some 0) fun _ => true, .unsetBinding .captureFrame].foldl
      (HotkeySystem.call plainTexts) .initial
    (∀ action, AtDefault (s.resetAllToDefaults plainTexts fun _ => (true, true)) 0 action) ↔
      (∀ action, s.bindings action = defaultBinding action → ∀ c,
          ⟨0, action, c⟩ ∈ s.held ↔ combination (defaultBinding action) = some c) ∧
        HotkeyAction.all.Pairwise fun earlier later =>
          s.bindings later = defaultBinding earlier →
            s.bindings earlier = defaultBinding earlier :=
  resetAll_iff plainTexts _ 0 (fun _ => (true, true)) (by decide) (by decide)

/-- The default that a later action holds is not given back. -/
theorem default_of_later_action :
    let s := (swappedCalls 0).foldl (HotkeySystem.call plainTexts) .initial
    s.registrar = some 0 ∧
      (s.resetAllToDefaults plainTexts fun _ => (true, true)).bindings .toggleRecording =
        altShift 0x58 ∧
      ¬∀ action, AtDefault (s.resetAllToDefaults plainTexts fun _ => (true, true)) 0 action := by
  refine ⟨by decide, by decide, fun h => ?_⟩
  exact absurd (h .toggleRecording).binding (by decide)

end Exosnap.Hotkeys
