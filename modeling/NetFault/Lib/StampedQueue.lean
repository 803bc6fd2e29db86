import Mathlib.Data.List.Pairwise
import Mathlib.Data.List.TakeWhile
import Mathlib.Order.Lattice

/-!
# Queues whose items carry a release time

An abstract delay: items wait in the order they came, each with the time from which it may leave.
A block of items is stamped when it enters, and a stamp that would lie before an earlier one is
raised to it, whether the earlier item still waits or not.  So the stamps never decrease
(`Ordered`), the items that may leave are the first ones (`Ordered.released_eq_take`), and the next
to become free is the first that may not (`find?_lt_eq_some_iff`).
-/

/-- Items with their release times, first to leave first, and the latest release time given out. -/
structure StampedQueue (α τ : Type*) where
  entries : List (α × τ)
  last : τ

namespace StampedQueue

variable {α τ : Type*} [LinearOrder τ]

section Operations

variable (q : StampedQueue α τ)

/-- A block enters, to be released at `time` or at the latest release time so far. -/
def commit (block : List α) (time : τ) : StampedQueue α τ :=
  if block = [] then q
  else
    { entries := q.entries ++ block.map fun item => (item, max time q.last)
      last := max time q.last }

/-- The first items leave. -/
def consume (count : ℕ) : StampedQueue α τ := { q with entries := q.entries.drop count }

def items : List α := q.entries.map Prod.fst

def stamps : List τ := q.entries.map Prod.snd

/-- The entries that may leave at `now`. -/
def released (now : τ) : List (α × τ) := q.entries.filter fun entry => decide (entry.2 ≤ now)

/-- Release times do not decrease along the queue, and none is later than the latest. -/
structure Ordered : Prop where
  sorted : q.stamps.Pairwise (· ≤ ·)
  le_last : ∀ stamp ∈ q.stamps, stamp ≤ q.last

end Operations

variable {q : StampedQueue α τ}

omit [LinearOrder τ] in
@[simp] lemma items_consume (q : StampedQueue α τ) (count : ℕ) :
    (q.consume count).items = q.items.drop count := List.map_drop ..

omit [LinearOrder τ] in
@[simp] lemma stamps_consume (q : StampedQueue α τ) (count : ℕ) :
    (q.consume count).stamps = q.stamps.drop count := List.map_drop ..

@[simp] lemma items_commit (q : StampedQueue α τ) (block : List α) (time : τ) :
    (q.commit block time).items = q.items ++ block := by
  unfold commit
  split_ifs with hempty
  · rw [hempty, List.append_nil]
  · simp [items, Function.comp_def]

lemma stamps_commit {block : List α} (hblock : block ≠ []) (time : τ) :
    (q.commit block time).stamps = q.stamps ++ List.replicate block.length (max time q.last) := by
  rw [commit, if_neg hblock]
  simp [stamps, Function.comp_def, List.map_const']

lemma last_commit {block : List α} (hblock : block ≠ []) (time : τ) :
    (q.commit block time).last = max time q.last := by
  rw [commit, if_neg hblock]

lemma ordered_empty (start : τ) : Ordered (⟨[], start⟩ : StampedQueue α τ) :=
  ⟨.nil, by simp [stamps]⟩

lemma Ordered.commit (h : q.Ordered) (block : List α) (time : τ) :
    (q.commit block time).Ordered := by
  by_cases hblock : block = []
  · rw [StampedQueue.commit, if_pos hblock]
    exact h
  have hlast : q.last ≤ max time q.last := le_max_right _ _
  refine ⟨?_, ?_⟩
  · rw [stamps_commit hblock]
    refine List.pairwise_append.mpr ⟨h.sorted, List.pairwise_replicate.mpr (.inr le_rfl), ?_⟩
    intro a ha b hb
    rw [List.eq_of_mem_replicate hb]
    exact (h.le_last a ha).trans hlast
  · rw [stamps_commit hblock, last_commit hblock]
    intro stamp hstamp
    rcases List.mem_append.mp hstamp with hold | hnew
    · exact (h.le_last stamp hold).trans hlast
    · exact (List.eq_of_mem_replicate hnew).le

lemma Ordered.consume (h : q.Ordered) (count : ℕ) : (q.consume count).Ordered := by
  refine ⟨?_, ?_⟩
  · rw [stamps_consume]
    exact h.sorted.drop
  · rw [stamps_consume]
    exact fun stamp hstamp => h.le_last stamp (List.mem_of_mem_drop hstamp)

/-! ## What is released -/

/-- On sorted stamps, those that have passed come first. -/
lemma filter_le_eq_takeWhile {entries : List (α × τ)} (now : τ)
    (h : (entries.map Prod.snd).Pairwise (· ≤ ·)) :
    entries.filter (fun entry => decide (entry.2 ≤ now)) =
      entries.takeWhile fun entry => decide (entry.2 ≤ now) := by
  induction entries with
  | nil => rfl
  | cons entry entries ih =>
      obtain ⟨hfirst, hrest⟩ := List.pairwise_cons.mp h
      by_cases hpassed : entry.2 ≤ now
      · rw [List.filter_cons, List.takeWhile_cons, if_pos (decide_eq_true hpassed),
          if_pos (decide_eq_true hpassed), ih hrest]
      · -- nothing after a held entry has passed
        rw [List.filter_cons, List.takeWhile_cons, if_neg (by simpa using hpassed),
          if_neg (by simpa using hpassed), List.filter_eq_nil_iff]
        intro later hlater hdue
        have hle := hfirst later.2 (List.mem_map_of_mem hlater)
        exact hpassed (hle.trans (of_decide_eq_true hdue))

/-- **The released entries are the first of the queue.** -/
lemma Ordered.released_eq_take (h : q.Ordered) (now : τ) :
    q.released now = q.entries.take (q.released now).length := by
  rw [released, filter_le_eq_takeWhile now h.sorted]
  exact List.prefix_iff_eq_take.mp (List.takeWhile_prefix _)

lemma Ordered.length_released (h : q.Ordered) (now : τ) :
    (q.released now).length = (q.stamps.takeWhile fun stamp => decide (stamp ≤ now)).length := by
  rw [released, filter_le_eq_takeWhile now h.sorted, stamps, List.takeWhile_map, List.length_map]
  rfl

/-- On sorted stamps, the first that has not passed is the smallest of those. -/
lemma find?_lt_eq_some_iff {stamps : List τ} (h : stamps.Pairwise (· ≤ ·)) (now stamp : τ) :
    stamps.find? (fun stamp => decide (now < stamp)) = some stamp ↔
      stamp ∈ stamps ∧ now < stamp ∧ ∀ other ∈ stamps, now < other → stamp ≤ other := by
  induction stamps with
  | nil => simp
  | cons first rest ih =>
      obtain ⟨hfirst, hrest⟩ := List.pairwise_cons.mp h
      by_cases hheld : now < first
      · rw [List.find?_cons_of_pos (by simpa using hheld), Option.some.injEq]
        constructor
        · rintro rfl
          refine ⟨List.mem_cons_self .., hheld, fun other hother _ => ?_⟩
          rcases List.mem_cons.mp hother with rfl | hother
          · exact le_rfl
          · exact hfirst other hother
        · rintro ⟨hmem, -, hleast⟩
          refine le_antisymm ?_ (hleast first (List.mem_cons_self ..) hheld)
          rcases List.mem_cons.mp hmem with rfl | hmem
          · exact le_rfl
          · exact hfirst stamp hmem
      · rw [List.find?_cons_of_neg (by simpa using hheld), ih hrest]
        constructor
        · rintro ⟨hmem, hlater, hleast⟩
          refine ⟨List.mem_cons_of_mem _ hmem, hlater, fun other hother hnow => ?_⟩
          rcases List.mem_cons.mp hother with rfl | hother
          · exact absurd hnow hheld
          · exact hleast other hother hnow
        · rintro ⟨hmem, hlater, hleast⟩
          refine ⟨?_, hlater, fun other hother => hleast other (List.mem_cons_of_mem _ hother)⟩
          rcases List.mem_cons.mp hmem with rfl | hmem
          · exact absurd hlater hheld
          · exact hmem

end StampedQueue
