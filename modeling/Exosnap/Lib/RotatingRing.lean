/-
  A ring that is written round robin, with holes where entries were consumed.

  `pending` reads it in the order of writing, from the place that is written next, without the
  holes. A write takes the oldest place, so the only entry it can cost is the oldest one
  (`pending_push`). Consuming entries leaves the others in their order (`pending_map`).
-/
import Mathlib.Data.List.Rotate

namespace RotatingRing

variable {α : Type*} {live : α → Bool} {ring : List α} {head : ℕ}

/-- The entries, oldest first. -/
def pending (live : α → Bool) (ring : List α) (head : ℕ) : List α := (ring.rotate head).filter live

theorem mem_of_mem_pending {a : α} (h : a ∈ pending live ring head) : a ∈ ring :=
  List.mem_rotate.mp (List.mem_filter.mp h).1

theorem pending_eq_nil (h : ∀ a ∈ ring, live a = false) : pending live ring head = [] := by
  refine List.filter_eq_nil_iff.mpr fun a ha => ?_
  simp [h a (List.mem_rotate.mp ha)]

/-- The place that is written next is the oldest. -/
theorem rotate_eq_cons (h : head < ring.length) :
    ring.rotate head = ring[head] :: (ring.drop (head + 1) ++ ring.take head) := by
  rw [List.rotate_eq_drop_append_take h.le, List.drop_eq_getElem_cons h, List.cons_append]

/-- After a write it is the newest. -/
theorem rotate_set_succ (h : head < ring.length) (a : α) :
    (ring.set head a).rotate ((head + 1) % ring.length) =
      ring.drop (head + 1) ++ ring.take head ++ [a] := by
  have hlength : (ring.set head a).length = ring.length := List.length_set
  have hle : head + 1 ≤ (ring.set head a).length := by omega
  rw [← hlength, List.rotate_mod, List.rotate_eq_drop_append_take hle,
    List.drop_set_of_lt (Nat.lt_succ_self head), List.take_set, List.append_assoc,
    List.take_succ_eq_append_getElem h,
    List.set_append_right _ _ (by simp [h.le])]
  simp [h.le]

/-- A write drops the entry of the oldest place, if there is one, and appends the new one. -/
theorem pending_push (h : head < ring.length) {a : α} (ha : live a = true) :
    ∃ rest, pending live ring head = (if live ring[head] then [ring[head]] else []) ++ rest ∧
      pending live (ring.set head a) ((head + 1) % ring.length) = rest ++ [a] := by
  refine ⟨(ring.drop (head + 1) ++ ring.take head).filter live, ?_, ?_⟩
  · rw [pending, rotate_eq_cons h, List.filter_cons]
    split <;> rfl
  · rw [pending, rotate_set_succ h, List.filter_append, List.filter_cons_of_pos ha, List.filter_nil]

/-- What is consumed becomes a hole, and what is kept stays where it is. -/
theorem pending_map {f : α → α} {keep : α → Bool}
    (hkeep : ∀ a, live a = true → keep a = true → f a = a)
    (hlive : ∀ a, live (f a) = (live a && keep a)) :
    pending live (ring.map f) head = (pending live ring head).filter keep := by
  rw [pending, pending, ← List.map_rotate, List.filter_map, List.filter_filter]
  have hcomp : (live ∘ f) = fun a => keep a && live a := by
    funext a
    rw [Function.comp_apply, hlive, Bool.and_comm]
  rw [hcomp]
  refine (List.map_congr_left fun a ha => ?_).trans (List.map_id _)
  obtain ⟨hk, hl⟩ := Bool.and_eq_true_iff.mp (List.mem_filter.mp ha).2
  exact hkeep a hl hk

end RotatingRing
