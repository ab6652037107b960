/-
  Tables kept in the order of their keys, to which an entry is added unless its key is there: a table
  made from a list of entries answers as the list does.
-/
import Mathlib.Data.List.Defs

namespace OrderedTable

variable {κ α : Type} [BEq κ] [LawfulBEq κ] [LT κ] [DecidableLT κ]

def insert (key : κ) (value : α) : List (κ × α) → List (κ × α)
  | [] => [(key, value)]
  | (k, v) :: rest =>
      if key < k then (key, value) :: (k, v) :: rest else (k, v) :: insert key value rest

/-- Add an entry, unless there is one for the key. -/
def emplace (entries : List (κ × α)) (key : κ) (value : α) : List (κ × α) :=
  if (entries.lookup key).isSome then entries else insert key value entries

def ofList (entries : List (κ × α)) : List (κ × α) :=
  entries.foldl (fun table entry => emplace table entry.1 entry.2) []

theorem lookup_insert {entries : List (κ × α)} {key : κ} (value : α) (k : κ)
    (h : entries.lookup key = none) :
    (insert key value entries).lookup k = if k == key then some value else entries.lookup k := by
  induction entries with
  | nil =>
    rw [insert, List.lookup_cons]
    cases k == key <;> rfl
  | cons entry rest ih =>
    obtain ⟨k', v⟩ := entry
    have hne : (key == k') = false := by
      rw [Bool.eq_false_iff]
      intro heq
      rw [List.lookup_cons, heq] at h
      exact nomatch h
    rw [List.lookup_cons, hne] at h
    rw [insert]
    split
    · rw [List.lookup_cons]
      cases k == key <;> rfl
    · rw [List.lookup_cons, List.lookup_cons, ih h]
      cases hk : k == k' with
      | false => rfl
      | true =>
        obtain rfl := eq_of_beq hk
        have hkey : (k == key) = false := by
          rw [Bool.eq_false_iff] at hne ⊢
          exact fun heq => hne (beq_iff_eq.mpr (eq_of_beq heq).symm)
        rw [hkey]
        rfl

/-- An entry that is there already is kept. -/
theorem lookup_emplace (entries : List (κ × α)) (key : κ) (value : α) (k : κ) :
    (emplace entries key value).lookup k =
      (entries.lookup k).or (if k == key then some value else none) := by
  unfold emplace
  cases hkey : entries.lookup key with
  | some v =>
    rw [Option.isSome_some, if_pos rfl]
    cases hk : k == key with
    | false => simp
    | true =>
      obtain rfl := eq_of_beq hk
      rw [hkey]
      rfl
  | none =>
    rw [Option.isSome_none, if_neg (by decide), lookup_insert value k hkey]
    cases hk : k == key with
    | false => simp
    | true =>
      obtain rfl := eq_of_beq hk
      rw [hkey]
      rfl

theorem lookup_foldl_emplace (entries table : List (κ × α)) (k : κ) :
    (entries.foldl (fun table entry => emplace table entry.1 entry.2) table).lookup k =
      (table.lookup k).or (entries.lookup k) := by
  induction entries generalizing table with
  | nil => simp
  | cons entry rest ih =>
    rw [List.foldl_cons, ih, lookup_emplace, Option.or_assoc, List.lookup_cons]
    cases k == entry.1 <;> rfl

/-- The table has the entries of the list. -/
theorem lookup_ofList (entries : List (κ × α)) (k : κ) :
    (ofList entries).lookup k = entries.lookup k :=
  (lookup_foldl_emplace entries [] k).trans (Option.none_or)

end OrderedTable
