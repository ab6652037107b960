/-
  The first of the largest: what a loop keeps that takes a candidate in only when it is larger than
  the one it holds. Mathlib's `List.argmax` is that loop; here it is read back as a place in the list
  that the candidates come from.
-/
import Mathlib.Data.List.MinMax

namespace Exosnap

variable {α β κ : Type*} [LinearOrder κ]

/-- `x` comes from a place of the list with smaller candidates before it and no larger one behind. -/
def FirstMaximum (candidate : β → Option α) (key : α → κ) (l : List β) (x : α) : Prop :=
  ∃ before b after, l = before ++ b :: after ∧ candidate b = some x ∧
    (∀ c ∈ before, ∀ y, candidate c = some y → key y < key x) ∧
    ∀ c ∈ after, ∀ y, candidate c = some y → key y ≤ key x

theorem exists_split_of_mem_argmax {key : α → κ} {l : List α} {x : α} (h : x ∈ l.argmax key) :
    ∃ before after, l = before ++ x :: after ∧ (∀ y ∈ before, key y < key x) ∧
      ∀ y ∈ after, key y ≤ key x := by
  classical
  obtain ⟨hmem, hle, hfirst⟩ := List.mem_argmax_iff.mp h
  obtain ⟨before, after, rfl, hnew⟩ := List.eq_append_cons_of_mem hmem
  refine ⟨before, after, rfl, fun y hy => ?_, fun y hy => hle y ?_⟩
  · by_contra hlt
    have hindex := hfirst y (List.mem_append_left _ hy) (not_lt.mp hlt)
    rw [List.idxOf_append_of_notMem hnew, List.idxOf_cons_self,
      List.idxOf_append_of_mem hy] at hindex
    have hbelow := List.idxOf_lt_length_iff.mpr hy
    omega
  · exact List.mem_append_right _ (List.mem_cons_of_mem _ hy)

theorem FirstMaximum.of_mem_argmax {candidate : β → Option α} {key : α → κ} {l : List β} {x : α}
    (h : x ∈ (l.filterMap candidate).argmax key) : FirstMaximum candidate key l x := by
  obtain ⟨before, after, hsplit, hbefore, hafter⟩ := exists_split_of_mem_argmax h
  obtain ⟨front, back, rfl, hfront, hback⟩ := List.filterMap_eq_append_iff.mp hsplit
  obtain ⟨skipped, b, rest, rfl, hskipped, hb, hrest⟩ := List.filterMap_eq_cons_iff.mp hback
  refine ⟨front ++ skipped, b, rest, by rw [List.append_assoc], hb, fun c hc y hy => ?_,
    fun c hc y hy => hafter y ?_⟩
  · rcases List.mem_append.mp hc with hc | hc
    · exact hbefore y (hfront ▸ List.mem_filterMap.mpr ⟨c, hc, hy⟩)
    · rw [hskipped c hc] at hy
      exact nomatch hy
  · exact hrest ▸ List.mem_filterMap.mpr ⟨c, hc, hy⟩

end Exosnap
