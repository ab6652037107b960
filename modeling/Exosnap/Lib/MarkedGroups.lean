/-
  A stream cut into labelled groups: an item may carry the label of a new group, which it then
  begins; every other item joins the group before it.

  `groups` loses and repeats nothing (`groups_flatMap`), has one group more than the stream has
  labels, in their order (`groups_labels`), and every group but the first begins with the item
  that carried its label (`groups_starts`).
-/
import Mathlib.Data.List.Basic

namespace MarkedGroups

variable {κ α : Type*} {cur : κ × List α} {stream : List (Option κ × α)}

/-- The groups of a stream, from the open group `cur` on. -/
def groups (cur : κ × List α) : List (Option κ × α) → List (κ × List α)
  | [] => [cur]
  | (none, a) :: stream => groups (cur.1, cur.2 ++ [a]) stream
  | (some k, a) :: stream => cur :: groups (k, [a]) stream

theorem groups_flatMap (stream : List (Option κ × α)) (cur : κ × List α) :
    (groups cur stream).flatMap Prod.snd = cur.2 ++ stream.map Prod.snd := by
  induction stream generalizing cur with
  | nil => simp [groups]
  | cons item stream ih =>
      obtain ⟨_ | k, a⟩ := item
      · simp [groups, ih]
      · simp [groups, ih]

theorem groups_labels (stream : List (Option κ × α)) (cur : κ × List α) :
    (groups cur stream).map Prod.fst = cur.1 :: stream.filterMap Prod.fst := by
  induction stream generalizing cur with
  | nil => rfl
  | cons item stream ih =>
      obtain ⟨_ | k, a⟩ := item
      · simp [groups, ih]
      · simp [groups, ih]

/-- The open group keeps its label and what it has. -/
theorem groups_head (stream : List (Option κ × α)) (cur : κ × List α) :
    ∃ more later, groups cur stream = (cur.1, cur.2 ++ more) :: later := by
  induction stream generalizing cur with
  | nil => exact ⟨[], [], by simp [groups]⟩
  | cons item stream ih =>
      obtain ⟨_ | k, a⟩ := item
      · obtain ⟨more, later, h⟩ := ih (cur.1, cur.2 ++ [a])
        exact ⟨a :: more, later, by simp [groups, h]⟩
      · exact ⟨[], groups (k, [a]) stream, by simp [groups]⟩

/-- A later group begins with the item that carried its label, behind what the groups before it
    hold. -/
theorem groups_starts {i : ℕ} {g : κ × List α} (h : (groups cur stream)[i + 1]? = some g) :
    ∃ before a after rest, stream = before ++ (some g.1, a) :: after ∧ g.2 = a :: rest ∧
      cur.2 ++ before.map Prod.snd = ((groups cur stream).take (i + 1)).flatMap Prod.snd := by
  induction stream generalizing cur i with
  | nil => simp [groups] at h
  | cons item stream ih =>
      obtain ⟨_ | k, a⟩ := item
      · obtain ⟨before, b, after, rest, rfl, hmembers, hbefore⟩ := ih h
        refine ⟨(none, a) :: before, b, after, rest, rfl, hmembers, ?_⟩
        simpa [groups] using hbefore
      · cases i with
        | zero =>
            -- the group this label opens
            obtain ⟨more, later, hhead⟩ := groups_head stream (k, [a])
            simp only [groups, hhead, List.getElem?_cons_succ, List.getElem?_cons_zero,
              Option.some.injEq] at h
            subst h
            exact ⟨[], a, stream, more, rfl, rfl, by simp [groups]⟩
        | succ i =>
            simp only [groups, List.getElem?_cons_succ] at h
            obtain ⟨before, b, after, rest, rfl, hmembers, hbefore⟩ := ih h
            refine ⟨(some k, a) :: before, b, after, rest, rfl, hmembers, ?_⟩
            simpa [groups] using hbefore

/-- Items without a label join the open group. -/
theorem groups_unlabelled (items : List α) (stream : List (Option κ × α)) (cur : κ × List α) :
    groups cur (items.map (none, ·) ++ stream) = groups (cur.1, cur.2 ++ items) stream := by
  induction items generalizing cur with
  | nil => simp
  | cons a items ih => simp [groups, ih]

/-- A label is not in a tail without labels. -/
theorem labelled_of_append {items : List α} {before after : List (Option κ × α)} {k : κ} {a : α}
    (h : stream ++ items.map (none, ·) = before ++ (some k, a) :: after) :
    ∃ after', stream = before ++ (some k, a) :: after' := by
  have hnot : (some k, a) ∉ items.map (fun b => ((none : Option κ), b)) := by simp
  rcases List.append_eq_append_iff.mp h with ⟨tail, rfl, htail⟩ | ⟨tail, rfl, htail⟩
  · exact absurd (htail ▸ by simp) hnot
  · cases tail with
    | nil =>
        rw [List.nil_append] at htail
        exact absurd (htail ▸ List.mem_cons_self) hnot
    | cons item tail =>
        obtain ⟨rfl, -⟩ := List.cons.inj htail
        exact ⟨tail, rfl⟩

/-- What holds of every two items of the stream in their order holds within a group. -/
theorem groups_pairwise {R : α → α → Prop} (h : (cur.2 ++ stream.map Prod.snd).Pairwise R)
    {g : κ × List α} (hg : g ∈ groups cur stream) : g.2.Pairwise R := by
  rw [← groups_flatMap, List.pairwise_flatMap] at h
  exact h.1 g hg

end MarkedGroups
