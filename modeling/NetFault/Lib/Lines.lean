import Mathlib.Data.List.Basic

/-!
# Streams of lines

A stream is split at a separator that ends its lines.  What stands before the last separator are
the complete lines, and what stands after it is the line that is still open.  Something without
a separator that is appended belongs to the open line, and a separator completes it.
-/

namespace Lines

variable {α : Type*} [BEq α] (sep : α)

/-- The lines that are ended by a separator. -/
def complete (stream : List α) : List (List α) := (stream.splitOn sep).dropLast

/-- What follows the last separator. -/
def pending (stream : List α) : List α := (stream.splitOn sep).getLastD []

variable {sep} {stream text : List α}

lemma splitOn_eq (sep : α) (stream : List α) :
    stream.splitOn sep = complete sep stream ++ [pending sep stream] := by
  have hne := List.splitOn_ne_nil sep stream
  rw [pending, List.getLastD_eq_getLast?, List.getLast?_eq_some_getLast hne]
  exact (List.dropLast_append_getLast hne).symm

@[simp] lemma complete_nil : complete sep ([] : List α) = [] := by simp [complete]

@[simp] lemma pending_nil : pending sep ([] : List α) = [] := by simp [pending]

/-- A split that is known determines both parts. -/
lemma eq_of_splitOn (lines : List (List α)) {last : List α}
    (h : stream.splitOn sep = lines ++ [last]) :
    complete sep stream = lines ∧ pending sep stream = last := by
  obtain ⟨hlines, hlast⟩ := List.append_inj' ((splitOn_eq sep stream).symm.trans h) rfl
  exact ⟨hlines, List.singleton_injective hlast⟩

variable [LawfulBEq α]

/-- The induction is on the stream, whose first element is a separator or belongs to the first
line; that line may be the open one. -/
lemma splitOn_append (htext : sep ∉ text) (stream : List α) :
    (stream ++ text).splitOn sep = complete sep stream ++ [pending sep stream ++ text] := by
  induction stream with
  | nil => simp [List.splitOn_eq_singleton htext]
  | cons first rest ih =>
      rw [List.cons_append, List.splitOn_cons_eq_if_modifyHead, ih]
      have hcons := List.splitOn_cons_eq_if_modifyHead (a := sep) first rest
      rw [splitOn_eq sep rest] at hcons
      split_ifs at hcons ⊢ with hfirst
      · obtain ⟨hlines, hlast⟩ := eq_of_splitOn ([] :: complete sep rest) hcons
        rw [hlines, hlast]
        rfl
      · rcases hrest : complete sep rest with _ | ⟨line, lines⟩
        · rw [hrest] at hcons
          obtain ⟨hlines, hlast⟩ := eq_of_splitOn [] hcons
          rw [hlines, hlast]
          rfl
        · rw [hrest] at hcons
          obtain ⟨hlines, hlast⟩ := eq_of_splitOn ((first :: line) :: lines) hcons
          rw [hlines, hlast]
          rfl

/-- **A text without a separator** is added to the open line. -/
theorem append_text (htext : sep ∉ text) (stream : List α) :
    complete sep (stream ++ text) = complete sep stream ∧
      pending sep (stream ++ text) = pending sep stream ++ text :=
  eq_of_splitOn _ (splitOn_append htext stream)

/-- **A separator** completes the open line. -/
theorem append_line (htext : sep ∉ text) (stream : List α) :
    complete sep (stream ++ (text ++ [sep])) =
        complete sep stream ++ [pending sep stream ++ text] ∧
      pending sep (stream ++ (text ++ [sep])) = [] := by
  apply eq_of_splitOn
  rw [← List.append_assoc, List.splitOn_append_cons_self, splitOn_append htext, List.splitOn_nil]

end Lines
