/-
  A log of events in which some events are boundaries: the members since the latest boundary
  (`openGroup`), the number of non-empty groups (`groupCount`), and what each boundary says of
  the group it closes (`AtBoundary`).

  Logs are newest first, so appending an event is `cons` and every definition here recurses on
  the structure. Nothing names what the events are.
-/
import Mathlib.Tactic.Common

namespace EventGroups

universe u
variable {ε : Type u} (member boundary : ε → Bool)

/-- The members after the latest boundary, newest first. -/
def openGroup : List ε → List ε
  | [] => []
  | e :: h =>
      if boundary e then [] else if member e then e :: openGroup h else openGroup h

/-- The number of groups with a member, the one still open included. -/
def groupCount : List ε → Nat
  | [] => 0
  | e :: h =>
      if !boundary e && member e && (openGroup member boundary h).isEmpty then groupCount h + 1
      else groupCount h

/-- Every boundary `b` of the log satisfies `P b g`, where `g` is the group it closes. -/
def AtBoundary (P : ε → List ε → Prop) : List ε → Prop
  | [] => True
  | e :: h => (boundary e → P e (openGroup member boundary h)) ∧ AtBoundary P h

instance decAtBoundary (P : ε → List ε → Prop) [hP : ∀ e g, Decidable (P e g)] :
    (h : List ε) → Decidable (AtBoundary member boundary P h)
  | [] => isTrue trivial
  | e :: h =>
      @instDecidableAnd _ _ (@instDecidableForall _ _ _ (hP e (openGroup member boundary h)))
        (decAtBoundary P h)

section
variable {member boundary} {e : ε} {h : List ε} {P : ε → List ε → Prop}

@[simp] theorem openGroup_nil : openGroup member boundary [] = [] := rfl

theorem openGroup_boundary (hb : boundary e) : openGroup member boundary (e :: h) = [] := by
  rw [openGroup, if_pos hb]

theorem openGroup_member (hb : boundary e = false) (hm : member e) :
    openGroup member boundary (e :: h) = e :: openGroup member boundary h := by
  rw [openGroup, hb, if_neg Bool.false_ne_true, if_pos hm]

theorem openGroup_other (hb : boundary e = false) (hm : member e = false) :
    openGroup member boundary (e :: h) = openGroup member boundary h := by
  rw [openGroup, hb, hm, if_neg Bool.false_ne_true, if_neg Bool.false_ne_true]

theorem AtBoundary.cons (hh : AtBoundary member boundary P h)
    (he : boundary e → P e (openGroup member boundary h)) :
    AtBoundary member boundary P (e :: h) :=
  ⟨he, hh⟩

theorem AtBoundary.other (hh : AtBoundary member boundary P h) (hb : boundary e = false) :
    AtBoundary member boundary P (e :: h) :=
  hh.cons fun h' => absurd h' (by rw [hb]; exact Bool.false_ne_true)

/-- Boundaries that each close a non-empty group are no more than the groups. An open group
    has not been closed by any of them. -/
theorem countP_le_groupCount {counted : ε → Bool}
    (hh : AtBoundary member boundary (fun b g => counted b → g ≠ []) h) :
    h.countP (fun e => boundary e && counted e) +
        (if openGroup member boundary h = [] then 0 else 1) ≤ groupCount member boundary h := by
  induction h with
  | nil => simp [groupCount]
  | cons e h ih =>
      obtain ⟨he, hrest⟩ := hh
      have ih := ih hrest
      cases hb : boundary e with
      | true =>
          rw [openGroup_boundary hb, groupCount, List.countP_cons]
          by_cases hc : counted e
          · rw [if_neg (he hb hc)] at ih
            simpa [hb, hc] using ih
          · have : h.countP (fun e => boundary e && counted e) ≤
                groupCount member boundary h := by omega
            simpa [hb, hc] using this
      | false =>
          rw [groupCount, List.countP_cons]
          cases hm : member e with
          | true =>
              rw [openGroup_member hb hm]
              by_cases hg : openGroup member boundary h = []
              · simpa [hb, hm, hg] using ih
              · rw [if_neg hg] at ih
                simpa [hb, hm, hg] using ih
          | false =>
              rw [openGroup_other hb hm]
              simpa [hb, hm] using ih

end

end EventGroups
