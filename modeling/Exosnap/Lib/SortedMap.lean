/-
  Maps that keep their entries in the order of their keys, as one list. Setting a key puts its entry
  in its place or replaces the one there, and setting the entries of a map in order gives the map
  (`ofEntries_entries`).
-/
import Mathlib.Order.Lattice

variable {κ α : Type}

namespace SortedMap

variable [LinearOrder κ]

/-- The entries with `key` set to `value`. -/
def place (key : κ) (value : α) : List (κ × α) → List (κ × α)
  | [] => [(key, value)]
  | (k, v) :: rest =>
      if key < k then (key, value) :: (k, v) :: rest
      else if key = k then (key, value) :: rest
      else (k, v) :: place key value rest

def placeAll (entries table : List (κ × α)) : List (κ × α) :=
  entries.foldl (fun table entry => place entry.1 entry.2 table) table

theorem mem_place {key : κ} {value : α} {entries : List (κ × α)} {p : κ × α}
    (h : p ∈ place key value entries) : p = (key, value) ∨ p ∈ entries := by
  induction entries with
  | nil => exact .inl (List.mem_singleton.mp h)
  | cons entry rest ih =>
    rw [place] at h
    split at h
    · exact List.mem_cons.mp h
    split at h
    · exact (List.mem_cons.mp h).imp_right (List.mem_cons_of_mem _)
    · rcases List.mem_cons.mp h with rfl | h
      · exact .inr List.mem_cons_self
      · exact (ih h).imp_right (List.mem_cons_of_mem _)

theorem sorted_place (key : κ) (value : α) {entries : List (κ × α)}
    (h : entries.Pairwise fun a b => a.1 < b.1) :
    (place key value entries).Pairwise fun a b => a.1 < b.1 := by
  induction entries with
  | nil => exact List.pairwise_singleton _ _
  | cons entry rest ih =>
    obtain ⟨hfirst, hrest⟩ := List.pairwise_cons.mp h
    rw [place]
    split
    next hlt =>
      refine List.pairwise_cons.mpr ⟨fun p hp => ?_, h⟩
      rcases List.mem_cons.mp hp with rfl | hp
      · exact hlt
      · exact lt_trans hlt (hfirst p hp)
    split
    next heq => exact List.pairwise_cons.mpr ⟨fun p hp => heq ▸ hfirst p hp, hrest⟩
    next hlt hne =>
      refine List.pairwise_cons.mpr ⟨fun p hp => ?_, ih hrest⟩
      rcases mem_place hp with rfl | hp
      · exact lt_of_le_of_ne (not_lt.mp hlt) (Ne.symm hne)
      · exact hfirst p hp

theorem lookup_entry (k key : κ) (value : α) (rest : List (κ × α)) :
    ((key, value) :: rest).lookup k = if k = key then some value else rest.lookup k := by
  rw [List.lookup_cons]
  by_cases h : k = key
  · rw [beq_iff_eq.mpr h, if_pos h]
  · rw [beq_eq_false_iff_ne.mpr h, if_neg h]

theorem lookup_place (key : κ) (value : α) (entries : List (κ × α)) (k : κ) :
    (place key value entries).lookup k = if k = key then some value else entries.lookup k := by
  induction entries with
  | nil => exact lookup_entry k key value []
  | cons entry rest ih =>
    obtain ⟨k', v⟩ := entry
    rw [place]
    split
    · exact lookup_entry k key value _
    split
    next heq =>
      rw [lookup_entry, lookup_entry, ← heq]
      by_cases h : k = key
      · rw [if_pos h, if_pos h]
      · rw [if_neg h, if_neg h, if_neg h]
    next hne =>
      rw [lookup_entry, lookup_entry, ih]
      by_cases h : k = k'
      · rw [if_pos h, if_neg fun hk => hne (hk.symm.trans h), if_pos h]
      · rw [if_neg h, if_neg h]

/-- An entry behind all others is placed at the end. -/
theorem place_concat {key : κ} {value : α} {entries : List (κ × α)}
    (h : ∀ p ∈ entries, p.1 < key) : place key value entries = entries ++ [(key, value)] := by
  induction entries with
  | nil => rfl
  | cons entry rest ih =>
    have hlt := h entry List.mem_cons_self
    rw [place, if_neg (lt_asymm hlt), if_neg (ne_of_gt hlt), ih fun p hp => h p (List.mem_cons_of_mem _ hp)]
    rfl

theorem placeAll_sorted {entries table : List (κ × α)}
    (h : (table ++ entries).Pairwise fun a b => a.1 < b.1) :
    placeAll entries table = table ++ entries := by
  induction entries generalizing table with
  | nil => exact (List.append_nil _).symm
  | cons entry rest ih =>
    have hlast : ∀ p ∈ table, p.1 < entry.1 := fun p hp =>
      (List.pairwise_append.mp h).2.2 p hp entry List.mem_cons_self
    rw [placeAll, List.foldl_cons, place_concat hlast]
    exact (ih (List.append_cons .. ▸ h)).trans (List.append_cons ..).symm

theorem lookup_placeAll (entries table : List (κ × α)) (k : κ) :
    (placeAll entries table).lookup k = (entries.reverse.lookup k).or (table.lookup k) := by
  induction entries generalizing table with
  | nil => rfl
  | cons entry rest ih =>
    rw [placeAll, List.foldl_cons, ← placeAll, ih, lookup_place, List.reverse_cons,
      List.lookup_append, lookup_entry]
    by_cases h : k = entry.1
    · rw [if_pos h, if_pos h, Option.or_assoc]
      rfl
    · rw [if_neg h, if_neg h, List.lookup_nil, Option.or_none]

theorem sorted_nil : ([] : List (κ × α)).Pairwise fun a b => a.1 < b.1 := List.Pairwise.nil

end SortedMap

/-- A map with its entries in the order of their keys. -/
structure SortedMap (κ α : Type) [LinearOrder κ] where
  entries : List (κ × α) := []
  sorted : entries.Pairwise fun a b => a.1 < b.1 := by exact SortedMap.sorted_nil

namespace SortedMap

variable [LinearOrder κ]

theorem ext_entries {m m' : SortedMap κ α} (h : m.entries = m'.entries) : m = m' := by
  cases m
  cases m'
  cases h
  rfl

def find (m : SortedMap κ α) (key : κ) : Option α := m.entries.lookup key

def set (m : SortedMap κ α) (key : κ) (value : α) : SortedMap κ α :=
  ⟨place key value m.entries, sorted_place key value m.sorted⟩

def ofEntries (entries : List (κ × α)) : SortedMap κ α :=
  entries.foldl (fun m entry => m.set entry.1 entry.2) {}

@[simp] theorem find_empty (k : κ) : ({} : SortedMap κ α).find k = none := rfl

@[simp] theorem find_set (m : SortedMap κ α) (key : κ) (value : α) (k : κ) :
    (m.set key value).find k = if k = key then some value else m.find k :=
  lookup_place key value m.entries k

theorem entries_foldl_set (entries : List (κ × α)) (m : SortedMap κ α) :
    (entries.foldl (fun m entry => m.set entry.1 entry.2) m).entries =
      placeAll entries m.entries := by
  induction entries generalizing m with
  | nil => rfl
  | cons entry rest ih => exact ih _

/-- A map is what its entries, set in order, give. -/
theorem ofEntries_entries (m : SortedMap κ α) : ofEntries m.entries = m :=
  ext_entries ((entries_foldl_set _ _).trans (placeAll_sorted m.sorted))

end SortedMap
