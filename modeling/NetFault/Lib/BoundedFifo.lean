import Mathlib.Data.Nat.Notation
import Mathlib.Tactic.Lemma
import Mathlib.Tactic.TypeStar

/-!
# Bounded first-in first-out stores

What a bounded queue is for: items leave in the order in which they came, a block is taken as a
whole or refused, and so is a request for more items than there are.  A refused operation leaves
the store as it was.
-/

/-- At most `capacity` items, the oldest first. -/
structure BoundedFifo (α : Type*) (capacity : ℕ) where
  items : List α
  length_le : items.length ≤ capacity

namespace BoundedFifo

variable {α : Type*} {capacity : ℕ}

inductive Op (α : Type*)
  | push (block : List α)
  | drop (count : ℕ)

/-- The store without items. -/
def empty (α : Type*) (capacity : ℕ) : BoundedFifo α capacity := ⟨[], Nat.zero_le capacity⟩

def step (fifo : BoundedFifo α capacity) : Op α → BoundedFifo α capacity
  | .push block =>
      if h : fifo.items.length + block.length ≤ capacity then
        ⟨fifo.items ++ block, by rw [List.length_append]; exact h⟩
      else fifo
  | .drop count =>
      if count ≤ fifo.items.length then
        ⟨fifo.items.drop count, by
          rw [List.length_drop]; exact Nat.le_trans (Nat.sub_le _ _) fifo.length_le⟩
      else fifo

def run (ops : List (Op α)) (fifo : BoundedFifo α capacity) : BoundedFifo α capacity :=
  ops.foldl step fifo

lemma step_push {fifo : BoundedFifo α capacity} {block : List α}
    (h : fifo.items.length + block.length ≤ capacity) :
    (fifo.step (.push block)).items = fifo.items ++ block := by
  simp only [step, dif_pos h]

lemma step_drop {fifo : BoundedFifo α capacity} {count : ℕ} (h : count ≤ fifo.items.length) :
    (fifo.step (.drop count)).items = fifo.items.drop count := by
  simp only [step, if_pos h]

lemma step_drop_refused {fifo : BoundedFifo α capacity} {count : ℕ}
    (h : fifo.items.length < count) : fifo.step (.drop count) = fifo := by
  simp only [step, if_neg (Nat.not_le_of_lt h)]

end BoundedFifo
