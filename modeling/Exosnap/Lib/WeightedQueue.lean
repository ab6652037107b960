/-
  A first-in-first-out queue of weighted items under a soft limit on the total weight.

  An item of weight is put in only while the total is below the limit; an item without weight may
  be put in at any time. `Within` is what holds then: the total is under the limit, or it is above
  it by the newest item of weight alone. Taking the oldest item out keeps it.
-/
import Mathlib.Algebra.Order.BigOperators.Group.List
import Mathlib.Algebra.Order.Ring.Nat

namespace WeightedQueue

variable {α : Type*} {w : α → ℕ} {limit : ℕ} {queue : List α} {a : α}

def weight (w : α → ℕ) (queue : List α) : ℕ := (queue.map w).sum

@[simp] theorem weight_nil : weight w [] = 0 := rfl

@[simp] theorem weight_cons : weight w (a :: queue) = w a + weight w queue := by simp [weight]

@[simp] theorem weight_append (queue' : List α) :
    weight w (queue ++ queue') = weight w queue + weight w queue' := by simp [weight]

theorem le_weight (h : a ∈ queue) : w a ≤ weight w queue :=
  List.single_le_sum (fun _ _ => Nat.zero_le _) _ (List.mem_map_of_mem h)

/-- Without its newest item of weight, the queue is below the limit. -/
def Within (w : α → ℕ) (limit : ℕ) (queue : List α) : Prop :=
  weight w queue ≤ limit ∨
    ∃ older newest later, queue = older ++ newest :: later ∧ weight w later = 0 ∧
      weight w older < limit

theorem Within.nil : Within w limit [] := .inl (Nat.zero_le _)

theorem Within.push (hroom : weight w queue < limit) : Within w limit (queue ++ [a]) :=
  .inr ⟨queue, a, [], rfl, rfl, hroom⟩

theorem Within.push_weightless (h : Within w limit queue) (ha : w a = 0) :
    Within w limit (queue ++ [a]) := by
  rcases h with hle | ⟨older, newest, later, rfl, hlater, holder⟩
  · exact .inl (by simpa [ha] using hle)
  · exact .inr ⟨older, newest, later ++ [a], by simp, by simp [hlater, ha], holder⟩

theorem Within.pop (h : Within w limit (a :: queue)) : Within w limit queue := by
  rcases h with hle | ⟨older, newest, later, hq, hlater, holder⟩
  · rw [weight_cons] at hle
    exact .inl (by omega)
  · cases older with
    | nil =>
        obtain ⟨-, rfl⟩ := List.cons.inj hq
        exact .inl (by omega)
    | cons b older =>
        obtain ⟨-, rfl⟩ := List.cons.inj hq
        rw [weight_cons] at holder
        exact .inr ⟨older, newest, later, rfl, hlater, by omega⟩

/-- Over the limit, the queue is over it by less than one of its items. -/
theorem Within.over_by_one (h : Within w limit queue) :
    weight w queue ≤ limit ∨ ∃ a ∈ queue, weight w queue < limit + w a := by
  rcases h with hle | ⟨older, newest, later, rfl, hlater, holder⟩
  · exact .inl hle
  · refine .inr ⟨newest, by simp, ?_⟩
    rw [weight_append, weight_cons]
    omega

end WeightedQueue
