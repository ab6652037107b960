/-
  Values of several sources placed at positions of a line, and a buffer that holds, for each
  position, the sum of the values placed there, added in the order they came.

  Addition is any binary operation. Where it is associative and commutative the order is of no
  consequence; floating-point addition commutes and does not associate, so that only sums of
  two terms, and sums whose terms keep their order, are the same for two orders of arrival
  (`sumAt_eq_of_interleaved`).
-/
import Mathlib.Data.List.Perm.Basic
import Mathlib.Data.List.Count

namespace PositionSums

variable {α : Type*}

/-- A value of a source, and where it belongs. -/
structure Placed (α : Type*) where
  source : Nat
  position : Int
  value : α
  deriving DecidableEq

/-- A block of consecutive values. -/
def place (source : Nat) : Int → List α → List (Placed α)
  | _, [] => []
  | start, x :: xs => ⟨source, start, x⟩ :: place source (start + 1) xs

/-- The values of position `p`, in order. -/
def valuesAt (p : Int) (placed : List (Placed α)) : List (Placed α) :=
  placed.filter fun x => x.position = p

/-- One past the last position, `origin` if there is none behind it. -/
def extent (origin : Int) (placed : List (Placed α)) : Int :=
  placed.foldl (fun e x => max e (x.position + 1)) origin

section Blocks

theorem length_place (source : Nat) (start : Int) (block : List α) :
    (place source start block).length = block.length := by
  induction block generalizing start with
  | nil => rfl
  | cons x xs ih => rw [place, List.length_cons, List.length_cons, ih]

theorem place_append (source : Nat) (start : Int) (xs ys : List α) :
    place source start (xs ++ ys) =
      place source start xs ++ place source (start + xs.length) ys := by
  induction xs generalizing start with
  | nil => simp [place]
  | cons x xs ih =>
    have hstart : start + 1 + (xs.length : Int) = start + ((x :: xs).length : Nat) := by
      rw [List.length_cons]
      omega
    rw [List.cons_append, place, place, ih, hstart, List.cons_append]

theorem mem_place {source : Nat} {start : Int} {block : List α} {x : Placed α}
    (h : x ∈ place source start block) :
    x.source = source ∧ start ≤ x.position ∧ x.position < start + block.length := by
  induction block generalizing start with
  | nil => cases h
  | cons b bs ih =>
    rw [place, List.mem_cons] at h
    rw [List.length_cons]
    rcases h with rfl | h
    · exact ⟨rfl, by dsimp only; omega, by dsimp only; omega⟩
    · obtain ⟨hs, hlo, hhi⟩ := ih h
      exact ⟨hs, by omega, by omega⟩

/-- A block has at most one value for a position. -/
theorem valuesAt_place (source : Nat) (start : Int) (block : List α) (i : Nat) :
    valuesAt (start + i) (place source start block) =
      (block[i]?.map fun x => (⟨source, start + i, x⟩ : Placed α)).toList := by
  induction block generalizing start i with
  | nil => rfl
  | cons b bs ih =>
    cases i with
    | zero =>
      have hlater : valuesAt start (place source (start + 1) bs) = [] := by
        refine List.filter_eq_nil_iff.mpr fun x hx => ?_
        have := mem_place hx
        simp only [decide_eq_true_eq]
        omega
      simp only [valuesAt] at hlater ⊢
      simp [place, hlater]
    | succ i =>
      have hne : ¬ start = start + ((i + 1 : Nat) : Int) := by omega
      have hpos : start + ((i + 1 : Nat) : Int) = start + 1 + (i : Int) := by omega
      have hrest := ih (start + 1) i
      rw [valuesAt, place, List.filter_cons_of_neg (by simpa using hne), hpos, List.getElem?_cons_succ]
      exact hrest

theorem valuesAt_place_of_lt {source : Nat} {start p : Int} {block : List α} (h : p < start) :
    valuesAt p (place source start block) = [] := by
  refine List.filter_eq_nil_iff.mpr fun x hx => ?_
  have := mem_place hx
  simp only [decide_eq_true_eq]
  omega

/-- What of a block lies at a position or behind it. -/
theorem filter_place_ge (source : Nat) (start p : Int) (block : List α) :
    (place source start block).filter (p ≤ ·.position) =
      place source (start + (p - start).toNat) (block.drop (p - start).toNat) := by
  by_cases hall : block.length ≤ (p - start).toNat
  · rw [List.drop_eq_nil_of_le hall]
    refine List.filter_eq_nil_iff.mpr fun x hx => ?_
    have := mem_place hx
    simp only [decide_eq_true_eq]
    omega
  · conv_lhs => rw [← List.take_append_drop (p - start).toNat block]
    rw [place_append, List.filter_append, List.length_take, Nat.min_eq_left (by omega)]
    have hfront : (place source start (block.take (p - start).toNat)).filter (p ≤ ·.position) = [] := by
      refine List.filter_eq_nil_iff.mpr fun x hx => ?_
      have := mem_place hx
      rw [List.length_take] at this
      simp only [decide_eq_true_eq]
      omega
    rw [hfront, List.nil_append]
    refine List.filter_eq_self.mpr fun x hx => ?_
    have := mem_place hx
    simp only [decide_eq_true_eq]
    omega

/-- What of a block lies in front of a position. -/
theorem filter_place_lt (source : Nat) (start p : Int) (block : List α) :
    (place source start block).filter (·.position < p) =
      place source start (block.take (p - start).toNat) := by
  conv_lhs => rw [← List.take_append_drop (p - start).toNat block]
  rw [place_append, List.filter_append]
  have hback : (place source (start + (block.take (p - start).toNat).length)
      (block.drop (p - start).toNat)).filter (·.position < p) = [] := by
    refine List.filter_eq_nil_iff.mpr fun x hx => ?_
    have hx := mem_place hx
    rw [List.length_take, List.length_drop] at hx
    simp only [decide_eq_true_eq]
    omega
  rw [hback, List.append_nil]
  refine List.filter_eq_self.mpr fun x hx => ?_
  have := mem_place hx
  rw [List.length_take] at this
  simp only [decide_eq_true_eq]
  omega

theorem valuesAt_append (p : Int) (xs ys : List (Placed α)) :
    valuesAt p (xs ++ ys) = valuesAt p xs ++ valuesAt p ys := List.filter_append ..

theorem extent_append (origin : Int) (xs ys : List (Placed α)) :
    extent origin (xs ++ ys) = extent (extent origin xs) ys := List.foldl_append ..

theorem extent_place (origin : Int) (source : Nat) (start : Int) {block : List α}
    (hne : block ≠ []) :
    extent origin (place source start block) = max origin (start + block.length) := by
  induction block generalizing origin start with
  | nil => exact absurd rfl hne
  | cons b bs ih =>
    have hstep : extent origin (place source start (b :: bs)) =
        extent (max origin (start + 1)) (place source (start + 1) bs) := rfl
    rw [hstep, List.length_cons]
    by_cases hbs : bs = []
    · subst hbs
      rfl
    · rw [ih _ _ hbs]
      omega

theorem extent_ge (origin : Int) (placed : List (Placed α)) :
    origin ≤ extent origin placed ∧ ∀ x ∈ placed, x.position < extent origin placed := by
  induction placed generalizing origin with
  | nil => exact ⟨Int.le_refl _, nofun⟩
  | cons x xs ih =>
    obtain ⟨horigin, hrest⟩ := ih (max origin (x.position + 1))
    have hstep : extent origin (x :: xs) = extent (max origin (x.position + 1)) xs := rfl
    rw [hstep]
    refine ⟨by omega, fun y hy => ?_⟩
    rcases List.mem_cons.mp hy with rfl | hy
    · omega
    · exact hrest y hy

theorem extent_perm {xs ys : List (Placed α)} (h : xs.Perm ys) (origin : Int) :
    extent origin xs = extent origin ys := by
  refine h.foldl_eq' (fun x _ y _ e => ?_) origin
  omega

end Blocks

/-! ## The buffer -/

section Buffer

variable (zero : α)

/-- At least `n` entries, the new ones zero. -/
def grow (buffer : List α) (n : Nat) : List α :=
  buffer ++ List.replicate (n - buffer.length) zero

theorem getD_grow (buffer : List α) (n i : Nat) :
    (grow zero buffer n).getD i zero = buffer.getD i zero := by
  simp only [List.getD_eq_getElem?_getD, grow, List.getElem?_append, List.getElem?_replicate]
  split
  · rfl
  · have hnone : buffer[i]? = none := List.getElem?_eq_none (by omega)
    rw [hnone]
    split <;> rfl

theorem length_grow (buffer : List α) (n : Nat) :
    (grow zero buffer n).length = max buffer.length n := by
  rw [grow, List.length_append, List.length_replicate]
  omega

variable [Add α]

/-- The sum from zero, in order. -/
def sum (xs : List (Placed α)) : α := xs.foldl (fun acc x => acc + x.value) zero

def sumAt (placed : List (Placed α)) (p : Int) : α := sum zero (valuesAt p placed)

/-- The block added to the buffer from `offset` on. -/
def addAt (buffer : List α) (offset : Nat) (block : List α) : List α :=
  (grow zero buffer (offset + block.length)).mapIdx fun i x =>
    if i < offset then x
    else match block[i - offset]? with
      | some y => x + y
      | none => x

theorem length_addAt (buffer : List α) (offset : Nat) (block : List α) :
    (addAt zero buffer offset block).length = max buffer.length (offset + block.length) := by
  rw [addAt, List.length_mapIdx, length_grow]

theorem getD_addAt_lt (buffer : List α) {offset i : Nat} (block : List α) (hi : i < offset) :
    (addAt zero buffer offset block).getD i zero = buffer.getD i zero := by
  rw [← getD_grow zero buffer (offset + block.length) i]
  simp only [addAt, List.getD_eq_getElem?_getD, List.getElem?_mapIdx, if_pos hi]
  cases (grow zero buffer (offset + block.length))[i]? <;> rfl

/-- From `offset` on, the values of the block are added. -/
theorem getD_addAt (buffer : List α) (offset : Nat) (block : List α) (j : Nat) :
    (addAt zero buffer offset block).getD (offset + j) zero =
      match block[j]? with
      | some y => buffer.getD (offset + j) zero + y
      | none => buffer.getD (offset + j) zero := by
  have hnot : ¬ offset + j < offset := by omega
  rw [← getD_grow zero buffer (offset + block.length) (offset + j)]
  simp only [addAt, List.getD_eq_getElem?_getD, List.getElem?_mapIdx, if_neg hnot,
    Nat.add_sub_cancel_left]
  by_cases hj : j < block.length
  · have hgrown : offset + j < (grow zero buffer (offset + block.length)).length := by
      rw [length_grow]
      omega
    rw [List.getElem?_eq_getElem hgrown, List.getElem?_eq_getElem hj]
    rfl
  · rw [List.getElem?_eq_none (Nat.le_of_not_lt hj)]
    cases (grow zero buffer (offset + block.length))[offset + j]? <;> rfl

/-- What is in front of the buffer does not matter. -/
theorem addAt_append (front buffer : List α) (offset : Nat) (block : List α) :
    addAt zero (front ++ buffer) (front.length + offset) block =
      front ++ addAt zero buffer offset block := by
  have hsize : front.length + offset + block.length - (front ++ buffer).length =
      offset + block.length - buffer.length := by
    rw [List.length_append]
    omega
  rw [addAt, grow, hsize, List.append_assoc, List.mapIdx_append, addAt, grow]
  congr 1
  · refine List.ext_getElem? fun i => ?_
    rw [List.getElem?_mapIdx]
    by_cases hi : i < front.length
    · have hfront : i < front.length + offset := by omega
      simp only [if_pos hfront, Option.map_id_fun', id_eq]
    · rw [List.getElem?_eq_none (Nat.le_of_not_lt hi)]
      rfl
  · congr 1
    funext i x
    have hlt : i + front.length < front.length + offset ↔ i < offset := by omega
    have hsub : i + front.length - (front.length + offset) = i - offset := by omega
    simp only [hlt, hsub]

/-- The buffer that begins at `origin` holds the sums of what was placed. -/
structure Holds (origin : Int) (buffer : List α) (placed : List (Placed α)) : Prop where
  sums : ∀ i : Nat, buffer.getD i zero = sumAt zero placed (origin + i)
  extent_eq : origin + buffer.length = extent origin placed

theorem Holds.empty (origin : Int) : Holds zero origin [] [] where
  sums := fun _ => rfl
  extent_eq := Int.add_zero origin

theorem sumAt_append (xs ys : List (Placed α)) (p : Int) :
    sumAt zero (xs ++ ys) p = (valuesAt p ys).foldl (fun acc x => acc + x.value) (sumAt zero xs p) := by
  rw [sumAt, valuesAt_append, sum, List.foldl_append]
  rfl

/-- Adding a block at its position. -/
theorem Holds.addAt {origin : Int} {buffer : List α} {placed : List (Placed α)}
    (h : Holds zero origin buffer placed) (source offset : Nat) {block : List α} (hne : block ≠ []) :
    Holds zero origin (addAt zero buffer offset block)
      (placed ++ place source (origin + offset) block) where
  sums := by
    intro i
    rw [sumAt_append, ← h.sums i]
    by_cases hi : i < offset
    · rw [getD_addAt_lt zero buffer block hi, valuesAt_place_of_lt (by omega)]
      rfl
    · obtain ⟨j, rfl⟩ := Nat.exists_eq_add_of_le (Nat.le_of_not_lt hi)
      have hpos : origin + ((offset + j : Nat) : Int) = origin + offset + j := by omega
      rw [getD_addAt, hpos, valuesAt_place]
      cases block[j]? <;> rfl
  extent_eq := by
    rw [extent_append, ← h.extent_eq, extent_place _ _ _ hne, length_addAt]
    omega

theorem Holds.length_eq {origin : Int} {b b' : List α} {xs ys : List (Placed α)}
    (h : Holds zero origin b xs) (h' : Holds zero origin b' ys) (hperm : xs.Perm ys) :
    b.length = b'.length := by
  have hlen := h.extent_eq
  have hlen' := h'.extent_eq
  rw [extent_perm hperm] at hlen
  omega

end Buffer

/-! ## Orders of arrival -/

theorem perm_pair {a b : α} {l : List α} (h : [a, b].Perm l) : l = [a, b] ∨ l = [b, a] := by
  obtain ⟨c, d, rfl⟩ := List.length_eq_two.mp h.length_eq.symm
  have ha : a ∈ [c, d] := h.subset List.mem_cons_self
  rcases List.mem_cons.mp ha with rfl | hd
  · have hb : [b].Perm [d] := h.cons_inv
    rw [List.singleton_perm.mp hb]
    exact .inl rfl
  · obtain rfl : a = d := List.mem_singleton.mp hd
    have hb : [b].Perm [c] := (h.trans (List.Perm.swap a c [])).cons_inv
    obtain rfl : b = c := (List.cons.inj (List.singleton_perm.mp hb)).1
    exact .inr rfl

/-- Two orders of the same values in which each source keeps its own. -/
def Interleaved (xs ys : List (Placed α)) : Prop :=
  ∀ s, xs.filter (fun x => x.source = s) = ys.filter fun x => x.source = s

theorem Interleaved.perm {xs ys : List (Placed α)} (h : Interleaved xs ys) : xs.Perm ys := by
  classical
  rw [List.perm_iff_count]
  intro a
  have hcount := congrArg (List.count a) (h a.source)
  rwa [List.count_filter (by simp), List.count_filter (by simp)] at hcount

theorem Interleaved.valuesAt {xs ys : List (Placed α)} (h : Interleaved xs ys) (p : Int) :
    Interleaved (valuesAt p xs) (valuesAt p ys) := by
  intro s
  have hs := congrArg (List.filter fun x => decide (x.position = p)) (h s)
  rw [List.filter_comm] at hs
  rw [PositionSums.valuesAt, PositionSums.valuesAt, hs, List.filter_comm]

/-- The sum does not depend on the order. -/
def OrderFree (xs : List (Placed α)) : Prop :=
  xs.length ≤ 2 ∨ ∃ s, ∀ x ∈ xs, x.source = s

/-- At most two terms, or the terms of one source. -/
theorem sumAt_eq_of_interleaved [Add α] {zero : α}
    (hswap : ∀ a b : α, zero + a + b = zero + b + a) {xs ys : List (Placed α)}
    (h : Interleaved xs ys) (p : Int) (hfree : OrderFree (PositionSums.valuesAt p xs)) :
    sumAt zero xs p = sumAt zero ys p := by
  have hp := h.valuesAt p
  rw [sumAt, sumAt]
  generalize PositionSums.valuesAt p xs = us at hp hfree
  generalize PositionSums.valuesAt p ys = vs at hp
  rcases hfree with hfew | ⟨s, hs⟩
  · have hperm := hp.perm
    match us, hfew with
    | [], _ => rw [List.nil_perm.mp hperm]
    | [a], _ => rw [List.singleton_perm.mp hperm]
    | [a, b], _ =>
      rcases perm_pair hperm with rfl | rfl
      · rfl
      · exact hswap a.value b.value
  · have hall : ∀ x ∈ vs, x.source = s := fun x hx => hs x (hp.perm.mem_iff.mpr hx)
    have heq := hp s
    rw [List.filter_eq_self.mpr (by simpa using hs), List.filter_eq_self.mpr (by simpa using hall)]
      at heq
    rw [heq]

end PositionSums
