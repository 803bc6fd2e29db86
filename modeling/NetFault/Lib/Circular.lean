import Mathlib.Data.List.GetD
import Mathlib.Data.List.Rotate
import Mathlib.Data.Nat.ModEq
import Mathlib.Tactic.Ring

/-!
# Circular windows of a list

A fixed-length list read as a ring: the *window* of `size` cells that starts at `head` and
wraps past the end.  `Circular.window` is that window in reading order, `Circular.overwrite`
stores a block of cells at a position without changing the length of the list.

Three facts carry every ring buffer built on top of these definitions.  The cells between
`head` and the end of the list are a prefix of the window (`take_drop_eq_take_window`);
advancing `head` drops the front of the window (`window_advance`); and a block stored just past
the window, in cells the window does not occupy, extends it (`window_overwrite`).
-/

namespace Circular

variable {α : Type*}

/-- The `size` cells of `cells` that follow position `head`, wrapping past the end. -/
def window (cells : List α) (head size : ℕ) : List α :=
  (cells.rotate head).take size

/-- Store `block` at position `pos`; what does not fit is cut off. -/
def overwrite (cells : List α) (pos : ℕ) (block : List α) : List α :=
  cells.take pos ++ (block ++ cells.drop (pos + block.length)).take (cells.length - pos)

@[simp] lemma length_overwrite (cells : List α) (pos : ℕ) (block : List α) :
    (overwrite cells pos block).length = cells.length := by
  simp only [overwrite, List.length_append, List.length_take, List.length_drop]
  omega

lemma overwrite_eq {cells : List α} {pos : ℕ} {block : List α}
    (h : pos + block.length ≤ cells.length) :
    overwrite cells pos block = cells.take pos ++ (block ++ cells.drop (pos + block.length)) := by
  have hlen : (block ++ cells.drop (pos + block.length)).length ≤ cells.length - pos := by
    simp only [List.length_append, List.length_drop]
    omega
  rw [overwrite, List.take_of_length_le hlen]

@[simp] lemma overwrite_nil (cells : List α) (pos : ℕ) : overwrite cells pos [] = cells := by
  have hlen : (cells.drop pos).length ≤ cells.length - pos := by simp
  simp only [overwrite, List.nil_append, List.length_nil, Nat.add_zero,
    List.take_of_length_le hlen, List.take_append_drop]

lemma length_window {cells : List α} {head size : ℕ} (h : size ≤ cells.length) :
    (window cells head size).length = size := by
  simp [window, h]

@[simp] lemma window_zero (cells : List α) (head : ℕ) : window cells head 0 = [] := by
  simp [window]

lemma window_mod (cells : List α) (head size : ℕ) :
    window cells (head % cells.length) size = window cells head size := by
  rw [window, window, List.rotate_mod]

/-- The window cell by cell. -/
lemma window_eq_map {cells : List α} {size : ℕ} (hsize : size ≤ cells.length) (head : ℕ)
    (fallback : α) :
    window cells head size =
      (List.range size).map fun i => cells.getD ((head + i) % cells.length) fallback := by
  apply List.ext_getElem
  · rw [length_window hsize, List.length_map, List.length_range]
  · intro i hi hi'
    rw [List.length_map, List.length_range] at hi'
    have hmod : (head + i) % cells.length < cells.length := Nat.mod_lt _ (by omega)
    simp only [window, List.getElem_take, List.getElem_rotate, List.getElem_map,
      List.getElem_range, List.getD_eq_getElem cells fallback hmod, Nat.add_comm i head]

/-- Two positions of the ring are the same cell only if they are the same position. -/
lemma position_injective {head count i j : ℕ} (hi : i < count) (hj : j < count)
    (h : (head + i) % count = (head + j) % count) : i = j := by
  have hcancel := Nat.ModEq.add_left_cancel' head h
  rw [Nat.ModEq, Nat.mod_eq_of_lt hi, Nat.mod_eq_of_lt hj] at hcancel
  exact hcancel

/-- The window unrolled: the cells up to the end of the list, then the wrapped remainder. -/
lemma window_eq {cells : List α} {head : ℕ} (hhead : head ≤ cells.length) (size : ℕ) :
    window cells head size =
      (cells.drop head).take size ++ (cells.take head).take (size - (cells.length - head)) := by
  rw [window, List.rotate_eq_drop_append_take hhead, List.take_append, List.length_drop]

/-- The contiguous cells from `head` on are a prefix of the window. -/
lemma take_drop_eq_take_window {cells : List α} {head size n : ℕ} (hhead : head ≤ cells.length)
    (hn : n ≤ size) (hend : n ≤ cells.length - head) :
    (cells.drop head).take n = (window cells head size).take n := by
  rw [window_eq hhead, List.take_append_of_le_length, List.take_take, min_eq_left hn]
  simp only [List.length_take, List.length_drop]
  omega

/-- Moving `head` forward drops the front of the window. -/
lemma window_advance {cells : List α} (head : ℕ) {size n : ℕ} (hn : n ≤ size)
    (hsize : size ≤ cells.length) :
    window cells (head + n) (size - n) = (window cells head size).drop n := by
  have hlen : (cells.rotate head).length = cells.length := List.length_rotate ..
  rw [window, window, ← List.rotate_rotate,
    List.rotate_eq_drop_append_take (by omega : n ≤ (cells.rotate head).length),
    List.take_append_of_le_length (by simp only [List.length_drop]; omega), List.drop_take]

/-- A block stored just past the window, where the window has no cells, extends the window.
The two cases are a window that ends before the end of the list, and one that has wrapped. -/
lemma window_overwrite {cells : List α} {head size : ℕ} {block : List α}
    (hhead : head < cells.length) (hfree : block.length ≤ cells.length - size)
    (hend : (head + size) % cells.length + block.length ≤ cells.length)
    (hsize : size ≤ cells.length) :
    window (overwrite cells ((head + size) % cells.length) block) head (size + block.length) =
      window cells head size ++ block := by
  rw [window_eq (by rw [length_overwrite]; omega), window_eq hhead.le, length_overwrite]
  by_cases hwrap : head + size < cells.length
  · rw [Nat.mod_eq_of_lt hwrap] at hend ⊢
    have hdrop : (overwrite cells (head + size) block).drop head =
        (cells.drop head).take size ++ (block ++ cells.drop (head + size + block.length)) := by
      rw [overwrite_eq hend, List.drop_append_of_le_length (by simp; omega), List.drop_take,
        Nat.add_sub_cancel_left]
    have hlen : ((cells.drop head).take size).length = size := by simp; omega
    have hrest : size + block.length - (cells.length - head) = 0 := by omega
    have hrest' : size - (cells.length - head) = 0 := by omega
    rw [hdrop, hrest, hrest', List.take_append, hlen]
    simp
  · by_cases hfull : block = []
    · subst hfull
      simp
    · have hpos : 0 < block.length := List.length_pos_iff.mpr hfull
      have hmod : (head + size) % cells.length = head + size - cells.length := by
        rw [Nat.mod_eq_sub_mod (by omega), Nat.mod_eq_of_lt (by omega)]
      rw [hmod] at hend ⊢
      set tail := head + size - cells.length with htail
      have hle : tail + block.length ≤ head := by omega
      have hdrop : (overwrite cells tail block).drop head = cells.drop head := by
        rw [overwrite_eq hend, List.drop_append, List.drop_append, List.drop_drop,
          List.drop_eq_nil_of_le (by simp; omega), List.drop_eq_nil_of_le (by simp; omega)]
        simp only [List.length_take, List.nil_append]
        congr 1
        omega
      have htake : ((overwrite cells tail block).take head).take (tail + block.length) =
          (cells.take head).take tail ++ block := by
        rw [List.take_take, List.take_take, min_eq_left hle, min_eq_left (by omega),
          overwrite_eq hend, List.take_append, List.take_append,
          List.take_of_length_le (by simp)]
        have hlt : (cells.take tail).length = tail := by simp; omega
        rw [hlt, Nat.add_sub_cancel_left]
        simp
      have hcount : size + block.length - (cells.length - head) = tail + block.length := by omega
      have hcount' : size - (cells.length - head) = tail := by omega
      have hsat : ∀ n, size ≤ n → (cells.drop head).take n = cells.drop head := by
        intro n hn
        exact List.take_of_length_le (by simp only [List.length_drop]; omega)
      rw [hdrop, hcount, hcount', htake, hsat size le_rfl, hsat _ (by omega), List.append_assoc]

end Circular
