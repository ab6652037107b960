/-
  Insertion from the back into a list kept sorted by a total preorder: the new element goes
  behind every element it does not precede, so equal elements keep their arrival order.

  Adding the elements of a list one at a time this way sorts it stably
  (`insertionSort_concat`: `List.insertionSort` of the list, which is stable). A prefix that
  precedes the new element takes no part in the insertion (`insertFromBack_append`), so it can
  be taken away before the insertion (a window over a stream).
-/
import Mathlib.Data.List.Sort
import Mathlib.Data.List.DropRight

namespace StableInsert

variable {α : Type*} (r : α → α → Prop) [DecidableRel r]

/-- Scan from the back over the elements that do not precede `x`, and put `x` before them. -/
def insertFromBack (x : α) (l : List α) : List α :=
  l.rdropWhile (fun y => !decide (r y x)) ++ x :: l.rtakeWhile (fun y => !decide (r y x))

/-- The same place found from the front: behind the leading elements that precede `x`. -/
def insertAfter (x : α) : List α → List α
  | [] => [x]
  | y :: l => if r y x then y :: insertAfter x l else x :: y :: l

@[simp] theorem insertFromBack_nil (x : α) : insertFromBack r x [] = [x] := rfl

theorem perm_insertFromBack (x : α) (l : List α) : (insertFromBack r x l).Perm (x :: l) := by
  unfold insertFromBack
  refine List.perm_middle.trans (List.Perm.cons _ ?_)
  rw [List.rdropWhile_append_rtakeWhile]

/-- The scan stops at an element that precedes `x`. -/
theorem insertFromBack_concat_of_rel {x y : α} (h : r y x) (l : List α) :
    insertFromBack r x (l ++ [y]) = l ++ [y] ++ [x] := by
  unfold insertFromBack
  rw [List.rdropWhile_concat_neg _ _ _ (by simpa using h),
    List.rtakeWhile_concat_neg _ _ _ (by simpa using h)]

/-- The scan passes an element that does not precede `x`. -/
theorem insertFromBack_concat_of_not_rel {x y : α} (h : ¬ r y x) (l : List α) :
    insertFromBack r x (l ++ [y]) = insertFromBack r x l ++ [y] := by
  unfold insertFromBack
  rw [List.rdropWhile_concat_pos _ _ _ (by simpa using h),
    List.rtakeWhile_concat_pos _ _ _ (by simpa using h)]
  simp

/-- Elements that precede `x` and lie before the rest are not touched. -/
theorem insertFromBack_append {x : α} {l : List α} (h : ∀ y ∈ l, r y x) (l' : List α) :
    insertFromBack r x (l ++ l') = l ++ insertFromBack r x l' := by
  induction l' using List.reverseRecOn with
  | nil =>
      rcases List.eq_nil_or_concat l with rfl | ⟨m, y, rfl⟩
      · rfl
      · rw [List.concat_eq_append] at h ⊢
        rw [List.append_nil, insertFromBack_concat_of_rel r (h y (by simp))]
        rfl
  | append_singleton m y ih =>
      rw [← List.append_assoc]
      by_cases hy : r y x
      · rw [insertFromBack_concat_of_rel r hy, insertFromBack_concat_of_rel r hy]
        simp
      · rw [insertFromBack_concat_of_not_rel r hy, insertFromBack_concat_of_not_rel r hy, ih,
          List.append_assoc]

/-! ## Sorted lists -/

section
variable [IsTrans α r]

theorem insertFromBack_of_not_rel_head {x y : α} {l : List α} (hl : (y :: l).Pairwise r)
    (h : ¬ r y x) : insertFromBack r x (y :: l) = x :: y :: l := by
  induction l using List.reverseRecOn with
  | nil => exact insertFromBack_concat_of_not_rel r h []
  | append_singleton m z ih =>
      -- every later element follows `y`, so none of them precedes `x` either
      have hz : ¬ r z x := fun hzx =>
        h (IsTrans.trans _ _ _ ((List.pairwise_cons.mp hl).1 z (by simp)) hzx)
      rw [← List.cons_append, insertFromBack_concat_of_not_rel r hz,
        ih (hl.sublist (by simp))]
      rfl

/-- On a sorted list the two scans find the same place. -/
theorem insertFromBack_eq_insertAfter {x : α} {l : List α} (hl : l.Pairwise r) :
    insertFromBack r x l = insertAfter r x l := by
  induction l with
  | nil => rfl
  | cons y l ih =>
      unfold insertAfter
      split
      · rename_i hyx
        rw [← ih hl.of_cons]
        exact insertFromBack_append r (l := [y]) (by simpa using hyx) l
      · rename_i hyx
        exact insertFromBack_of_not_rel_head r hl hyx

/-- Filtering commutes with an insertion into a sorted list. -/
theorem filter_orderedInsert (p : α → Bool) (a : α) {l : List α} (hl : l.Pairwise r) :
    (List.orderedInsert r a l).filter p =
      if p a then List.orderedInsert r a (l.filter p) else l.filter p := by
  induction l with
  | nil =>
      by_cases ha : p a <;> simp [ha]
  | cons b l ih =>
      obtain ⟨hb, hl'⟩ := List.pairwise_cons.mp hl
      by_cases hab : r a b
      · -- `a` goes to the front, and precedes whatever the filter leaves
        have hrest : ∀ c ∈ (b :: l).filter p, r a c := by
          intro c hc
          rcases List.mem_cons.mp (List.mem_of_mem_filter hc) with rfl | hcl
          · exact hab
          · exact IsTrans.trans _ _ _ hab (hb c hcl)
        have hfront : List.orderedInsert r a ((b :: l).filter p) = a :: (b :: l).filter p := by
          cases hf : (b :: l).filter p with
          | nil => rfl
          | cons c m => exact List.orderedInsert_cons_of_le _ _ (hrest c (hf ▸ List.mem_cons_self))
        rw [List.orderedInsert_cons_of_le _ _ hab, hfront, List.filter_cons]
      · rw [List.orderedInsert_cons, if_neg hab, List.filter_cons, ih hl', List.filter_cons]
        by_cases hpb : p b <;> by_cases ha : p a <;> simp [hpb, ha, hab]

variable [Std.Total r]

/-- The two insertions commute: `orderedInsert` puts its element before its equals,
    `insertAfter` behind them. -/
theorem orderedInsert_insertAfter (a x : α) (l : List α) :
    List.orderedInsert r a (insertAfter r x l) = insertAfter r x (List.orderedInsert r a l) := by
  induction l with
  | nil =>
      by_cases hax : r a x <;> simp [insertAfter, hax]
  | cons b l ih =>
      by_cases hbx : r b x <;> by_cases hab : r a b
      · have hax : r a x := IsTrans.trans _ _ _ hab hbx
        simp [insertAfter, hbx, hab, hax]
      · simp [insertAfter, hbx, hab, ih]
      · by_cases hax : r a x <;> simp [insertAfter, hbx, hab, hax]
      · -- `x` precedes `b`, so an `a` before `x` would be before `b`
        have hxb : r x b := (Std.Total.total x b).resolve_right hbx
        have hax : ¬ r a x := fun hax => hab (IsTrans.trans _ _ _ hax hxb)
        simp [insertAfter, hbx, hab, hax]

/-- Inserting from the back one element at a time is the stable sort. -/
theorem insertionSort_concat (l : List α) (x : α) :
    List.insertionSort r (l ++ [x]) = insertFromBack r x (List.insertionSort r l) := by
  rw [insertFromBack_eq_insertAfter r (List.pairwise_insertionSort r l)]
  induction l with
  | nil => rfl
  | cons a l ih =>
      rw [List.cons_append, List.insertionSort_cons, ih, orderedInsert_insertAfter,
        List.insertionSort_cons]

theorem filter_insertionSort (p : α → Bool) (l : List α) :
    (List.insertionSort r l).filter p = List.insertionSort r (l.filter p) := by
  induction l with
  | nil => rfl
  | cons a l ih =>
      rw [List.insertionSort_cons, filter_orderedInsert r p a (List.pairwise_insertionSort r l), ih,
        List.filter_cons]
      split <;> rfl

end

end StableInsert
