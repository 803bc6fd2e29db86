import Mathlib.Data.List.AList

/-!
# Texts of assignments

A text is cut into items at a separator, each item assigns a value to a key, and a later assignment
to a key replaces an earlier one.  A writer that puts the separator in front of every item, and
never into one, is read back item by item (`splitOn_items`); and when the keys of the last items
differ, each of them has the value that its item assigns (`lookup_read_of_mem`), whatever came
before.
-/

namespace Assignments

variable {α κ β : Type*} [DecidableEq κ]

/-- Make the assignments in order. -/
def assignAll (pairs : List (κ × β)) (dict : AList fun _ : κ => β) : AList fun _ : κ => β :=
  pairs.foldl (fun dict pair => dict.insert pair.1 pair.2) dict

lemma lookup_assignAll_of_notMem {pairs : List (κ × β)} {key : κ} (h : key ∉ pairs.map Prod.fst)
    (dict : AList fun _ : κ => β) : (assignAll pairs dict).lookup key = dict.lookup key := by
  induction pairs generalizing dict with
  | nil => rfl
  | cons pair pairs ih =>
      obtain ⟨hfirst, hrest⟩ := not_or.mp (mt List.mem_cons.mpr h)
      have hcons : assignAll (pair :: pairs) dict =
          assignAll pairs (dict.insert pair.1 pair.2) := rfl
      rw [hcons, ih hrest, AList.lookup_insert_ne hfirst]

/-- **Different keys keep their values.** -/
lemma lookup_assignAll_of_mem {pairs : List (κ × β)} {pair : κ × β}
    (hkeys : (pairs.map Prod.fst).Nodup) (hmem : pair ∈ pairs) (dict : AList fun _ : κ => β) :
    (assignAll pairs dict).lookup pair.1 = some pair.2 := by
  induction pairs generalizing dict with
  | nil => cases hmem
  | cons first pairs ih =>
      obtain ⟨hfirst, hrest⟩ := List.nodup_cons.mp hkeys
      have hcons : assignAll (first :: pairs) dict =
          assignAll pairs (dict.insert first.1 first.2) := rfl
      rcases List.mem_cons.mp hmem with rfl | hmem
      · rw [hcons, lookup_assignAll_of_notMem hfirst, AList.lookup_insert]
      · rw [hcons, ih hrest hmem]

variable [DecidableEq α] {sep : α}

/-- **Items behind separators** are read back. -/
lemma splitOn_items {items : List (List α)} (hitems : ∀ item ∈ items, sep ∉ item) {head : List α}
    (hhead : sep ∉ head) :
    (head ++ items.flatMap (sep :: ·)).splitOn sep = head :: items := by
  induction items generalizing head with
  | nil => rw [List.flatMap_nil, List.append_nil, List.splitOn_eq_singleton hhead]
  | cons item items ih =>
      obtain ⟨hitem, hrest⟩ := List.forall_mem_cons.mp hitems
      have hsplit : head ++ (item :: items).flatMap (sep :: ·) =
          head ++ sep :: (item ++ items.flatMap (sep :: ·)) := by simp
      rw [hsplit, List.splitOn_append_cons_self, List.splitOn_eq_singleton hhead, ih hrest hitem]
      rfl

/-- Read a text of assignments. -/
def read (sep : α) (assignment : List α → κ × β) (text : List α) : AList fun _ : κ => β :=
  assignAll ((text.splitOn sep).map assignment) ∅

section Read

variable (assignment : List α → κ × β) {items : List (List α)} {head : List α}

lemma read_items (hitems : ∀ item ∈ items, sep ∉ item) (hhead : sep ∉ head) :
    read sep assignment (head ++ items.flatMap (sep :: ·)) =
      assignAll (items.map assignment)
        (AList.insert (assignment head).1 (assignment head).2 ∅) := by
  rw [read, splitOn_items hitems hhead]
  rfl

/-- **What an item assigns is what is read**, when the keys of the items differ. -/
theorem lookup_read_of_mem (hitems : ∀ item ∈ items, sep ∉ item) (hhead : sep ∉ head)
    (hkeys : (items.map fun item => (assignment item).1).Nodup) {item : List α}
    (hmem : item ∈ items) :
    (read sep assignment (head ++ items.flatMap (sep :: ·))).lookup (assignment item).1 =
      some (assignment item).2 := by
  rw [read_items assignment hitems hhead]
  apply lookup_assignAll_of_mem
  · rw [List.map_map]
    exact hkeys
  · exact List.mem_map_of_mem hmem

/-- The head is read where no item assigns to its key. -/
theorem lookup_read_head (hitems : ∀ item ∈ items, sep ∉ item) (hhead : sep ∉ head)
    (hkey : ∀ item ∈ items, (assignment item).1 ≠ (assignment head).1) :
    (read sep assignment (head ++ items.flatMap (sep :: ·))).lookup (assignment head).1 =
      some (assignment head).2 := by
  rw [read_items assignment hitems hhead, lookup_assignAll_of_notMem, AList.lookup_insert]
  rw [List.map_map]
  intro hmem
  obtain ⟨item, hitem, heq⟩ := List.mem_map.mp hmem
  exact hkey item hitem heq

end Read

end Assignments
