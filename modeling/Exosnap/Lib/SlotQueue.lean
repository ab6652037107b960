/-
  A pool of slots that pass through a queue.

  Every slot has a mark. Somebody may hold it (`held`), or it stands in the queue, first in first
  out. `Owns` says that the marks are right: a slot is marked when it is held or queued, never
  both, and the queue names it once. The rules are what can be done with a slot: hold it, put it
  back, queue it, take the oldest or the newest out of the queue. `Owns.lost` is what taking the
  oldest out without clearing its mark leaves behind.
-/
import Mathlib.Data.Finset.Basic
import Mathlib.Data.Fintype.Card

namespace SlotQueue

variable {ι : Type*} {marked : ι → Bool} {held : Finset ι} {queue : List ι} {i : ι}

structure Owns (marked : ι → Bool) (held : Finset ι) (queue : List ι) : Prop where
  nodup : queue.Nodup
  disjoint : ∀ i ∈ queue, i ∉ held
  marked : ∀ i, marked i = true ↔ i ∈ held ∨ i ∈ queue

theorem Owns.empty : Owns (fun _ : ι => false) ∅ [] where
  nodup := List.nodup_nil
  disjoint := nofun
  marked i := by simp

theorem Owns.not_held (h : Owns marked held queue) (hi : marked i = false) : i ∉ held := by
  intro hheld
  have hmark := (h.marked i).mpr (.inl hheld)
  rw [hi] at hmark
  exact nomatch hmark

theorem Owns.not_queued (h : Owns marked held queue) (hi : marked i = false) : i ∉ queue := by
  intro hqueue
  have hmark := (h.marked i).mpr (.inr hqueue)
  rw [hi] at hmark
  exact nomatch hmark

/-- The order of the queue does not matter to the marks. -/
theorem Owns.perm {queue' : List ι} (h : Owns marked held queue) (hperm : queue.Perm queue') :
    Owns marked held queue' where
  nodup := hperm.nodup_iff.mp h.nodup
  disjoint j hj := h.disjoint j (hperm.mem_iff.mpr hj)
  marked j := by rw [h.marked, hperm.mem_iff]

/-- Taken out with its mark, the oldest slot is nobody's. -/
theorem Owns.lost (h : Owns marked held (i :: queue)) :
    marked i = true ∧ i ∉ held ∧ i ∉ queue :=
  ⟨(h.marked i).mpr (.inr List.mem_cons_self), h.disjoint i List.mem_cons_self,
    (List.nodup_cons.mp h.nodup).1⟩

/-- As many slots are queued as there are at most. -/
theorem Owns.length_le [Fintype ι] (h : Owns marked held queue) :
    queue.length ≤ Fintype.card ι := h.nodup.length_le_card

/-! ## Moving a slot -/

variable [DecidableEq ι]

/-- Marked: held, or named once by the queue. -/
theorem Owns.marked_iff_count (h : Owns marked held queue) (i : ι) :
    marked i = true ↔ i ∈ held ∨ queue.count i = 1 := by
  rw [h.marked]
  refine or_congr Iff.rfl ⟨List.count_eq_one_of_mem h.nodup, fun hcount => ?_⟩
  exact List.count_pos_iff.mp (hcount ▸ Nat.zero_lt_one)

/-- A free slot is taken. -/
theorem Owns.hold (h : Owns marked held queue) (hi : marked i = false) :
    Owns (Function.update marked i true) (insert i held) queue where
  nodup := h.nodup
  disjoint j hj := by
    have hne : j ≠ i := fun heq => h.not_queued hi (heq ▸ hj)
    rw [Finset.mem_insert, not_or]
    exact ⟨hne, h.disjoint j hj⟩
  marked j := by
    by_cases hj : j = i
    · subst hj
      simp
    · rw [Function.update_of_ne hj, h.marked, Finset.mem_insert]
      simp [hj]

/-- A held slot is put back. -/
theorem Owns.drop (h : Owns marked held queue) (hi : i ∈ held) :
    Owns (Function.update marked i false) (held.erase i) queue where
  nodup := h.nodup
  disjoint j hj hmem := h.disjoint j hj (Finset.mem_of_mem_erase hmem)
  marked j := by
    by_cases hj : j = i
    · subst hj
      have hqueue : j ∉ queue := fun hq => h.disjoint j hq hi
      simp [hqueue]
    · rw [Function.update_of_ne hj, h.marked, Finset.mem_erase]
      simp [hj]

/-- A held slot is queued. -/
theorem Owns.enqueue (h : Owns marked held queue) (hi : i ∈ held) :
    Owns marked (held.erase i) (queue ++ [i]) where
  nodup := by
    have hqueue : i ∉ queue := fun hq => h.disjoint i hq hi
    exact List.nodup_append.mpr ⟨h.nodup, List.nodup_singleton i, by
      rintro a ha b hb rfl
      exact hqueue (List.mem_singleton.mp hb ▸ ha)⟩
  disjoint j hj hmem := by
    obtain ⟨hne, hheld⟩ := Finset.mem_erase.mp hmem
    rcases List.mem_append.mp hj with hq | hlast
    · exact h.disjoint j hq hheld
    · exact hne (List.mem_singleton.mp hlast)
  marked j := by
    rw [h.marked, Finset.mem_erase, List.mem_append, List.mem_singleton]
    by_cases hj : j = i
    · subst hj
      simp [hi]
    · simp [hj]

/-- A free slot is queued at once. -/
theorem Owns.place (h : Owns marked held queue) (hi : marked i = false) :
    Owns (Function.update marked i true) held (queue ++ [i]) := by
  have hplaced := (h.hold hi).enqueue (Finset.mem_insert_self i held)
  rwa [Finset.erase_insert (h.not_held hi)] at hplaced

/-- The oldest slot of the queue is freed. -/
theorem Owns.dequeue (h : Owns marked held (i :: queue)) :
    Owns (Function.update marked i false) held queue where
  nodup := h.nodup.of_cons
  disjoint j hj := h.disjoint j (List.mem_cons_of_mem i hj)
  marked j := by
    by_cases hj : j = i
    · subst hj
      have hheld := h.disjoint j List.mem_cons_self
      have hqueue := (List.nodup_cons.mp h.nodup).1
      simp [hheld, hqueue]
    · rw [Function.update_of_ne hj, h.marked, List.mem_cons]
      simp [hj]

end SlotQueue
