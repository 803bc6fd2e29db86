import NetFault.Basic
import Mathlib.Data.List.Sort

/-!
# The queue of deadlines

`TimerQueue` is a `std::priority_queue` ordered by deadline and, among equal deadlines, by the
order of scheduling.  All that its users see of it is that the top is an entry which no other
entry precedes, so the heap is kept as the list of its entries in that order.  The order is part
of the type, and so is the fact that no sequence number has been given out twice.

Entries of removed connections stay in the queue until they are due; whoever pops them checks
whether the connection still exists.
-/

namespace NetFault

inductive TimerKind
  | pump
  | idleTimeout
  | connectTimeout
  deriving DecidableEq, Repr

structure TimerEvent where
  deadline : ℤ
  /-- Breaks the tie between equal deadlines. -/
  sequence : ℕ
  connectionId : ℕ
  kind : TimerKind
  deriving DecidableEq, Repr

/-- The comparator `Later` of the heap. -/
def TimerEvent.later (left right : TimerEvent) : Bool :=
  if left.deadline ≠ right.deadline then decide (left.deadline > right.deadline)
  else decide (left.sequence > right.sequence)

/-- `a` may stand before `b`. -/
def TimerEvent.NotLater (a b : TimerEvent) : Prop := a.later b = false

instance : DecidableRel TimerEvent.NotLater := fun _ _ => inferInstanceAs (Decidable (_ = false))

lemma TimerEvent.notLater_iff {a b : TimerEvent} :
    a.NotLater b ↔ a.deadline < b.deadline ∨ a.deadline = b.deadline ∧ a.sequence ≤ b.sequence := by
  rw [TimerEvent.NotLater, TimerEvent.later]
  split_ifs with h
  · simp only [gt_iff_lt, decide_eq_false_iff_not]
    omega
  · simp only [gt_iff_lt, decide_eq_false_iff_not]
    omega

instance : IsTrans TimerEvent TimerEvent.NotLater where
  trans a b c hab hbc := by
    rw [TimerEvent.notLater_iff] at hab hbc ⊢
    omega

instance : Std.Total TimerEvent.NotLater where
  total a b := by
    rw [TimerEvent.notLater_iff, TimerEvent.notLater_iff]
    omega

/-- `TimerQueue`, with its order. -/
structure TimerQueue where
  heap : List TimerEvent := []
  nextSequence : ℕ := 1
  sorted : heap.Pairwise TimerEvent.NotLater := by exact .nil
  fresh : ∀ e ∈ heap, e.sequence < nextSequence := by exact List.forall_mem_nil _

namespace TimerQueue

variable (q : TimerQueue)

/-- The entry that the next `schedule` makes. -/
def entry (deadline : ℤ) (connectionId : ℕ) (kind : TimerKind) : TimerEvent :=
  { deadline, sequence := q.nextSequence, connectionId, kind }

def schedule (deadline : ℤ) (connectionId : ℕ) (kind : TimerKind) : TimerQueue where
  heap := q.heap.orderedInsert TimerEvent.NotLater (q.entry deadline connectionId kind)
  nextSequence := q.nextSequence + 1
  sorted := List.Pairwise.orderedInsert _ _ q.sorted
  fresh := by
    intro e he
    rcases (List.mem_orderedInsert _).mp he with rfl | he
    · exact Nat.lt_succ_self _
    · exact (q.fresh e he).trans (Nat.lt_succ_self _)

/-- The first entry, if it is due, and the queue without it. -/
def popDue (now : ℤ) : Option (TimerEvent × TimerQueue) :=
  match h : q.heap with
  | [] => none
  | event :: rest =>
      if event.deadline > now then none
      else some (event,
        { heap := rest
          nextSequence := q.nextSequence
          sorted := (h ▸ q.sorted).tail
          fresh := fun e he => q.fresh e (h ▸ List.mem_cons_of_mem _ he) })

def nextDeadline : Option ℤ := q.heap.head?.map TimerEvent.deadline

def size : ℕ := q.heap.length

/-- How many entries are due. -/
def due (now : ℤ) : ℕ := q.heap.countP fun e => e.deadline ≤ now

variable {q}

@[simp] lemma mem_schedule {e : TimerEvent} {deadline : ℤ} {connectionId : ℕ} {kind : TimerKind} :
    e ∈ (q.schedule deadline connectionId kind).heap ↔
      e = q.entry deadline connectionId kind ∨ e ∈ q.heap :=
  List.mem_orderedInsert _

lemma schedule_heap (deadline : ℤ) (connectionId : ℕ) (kind : TimerKind) :
    (q.schedule deadline connectionId kind).heap =
      q.heap.orderedInsert TimerEvent.NotLater (q.entry deadline connectionId kind) := rfl

lemma countP_schedule (f : TimerEvent → Bool) (deadline : ℤ) (connectionId : ℕ)
    (kind : TimerKind) :
    (q.schedule deadline connectionId kind).heap.countP f =
      q.heap.countP f + if f (q.entry deadline connectionId kind) then 1 else 0 := by
  rw [schedule_heap, (List.perm_orderedInsert _ _ _).countP_eq, List.countP_cons]

lemma due_schedule {now deadline : ℤ} (h : now < deadline) (connectionId : ℕ) (kind : TimerKind) :
    (q.schedule deadline connectionId kind).due now = q.due now := by
  rw [due, countP_schedule, if_neg]
  · rfl
  · exact fun hle => absurd (of_decide_eq_true hle) (not_le.mpr h)

/-- `q'` is `q`, or `q` with one entry scheduled for after `now`. -/
def Grown (now : ℤ) (q q' : TimerQueue) : Prop :=
  q' = q ∨ ∃ deadline connectionId kind, now < deadline ∧
    q' = q.schedule deadline connectionId kind

lemma Grown.due_eq {now : ℤ} {q' : TimerQueue} (h : Grown now q q') : q'.due now = q.due now := by
  obtain rfl | ⟨deadline, connectionId, kind, hlater, rfl⟩ := h
  · rfl
  · exact due_schedule hlater connectionId kind

/-- **What is popped**: the first entry, and it is due. -/
lemma popDue_eq_some {now : ℤ} {e : TimerEvent} {q' : TimerQueue}
    (h : q.popDue now = some (e, q')) : q.heap = e :: q'.heap ∧ e.deadline ≤ now := by
  rw [popDue] at h
  split at h
  · cases h
  · next event rest hheap =>
      split_ifs at h with hlater
      simp only [Option.some.injEq, Prod.mk.injEq] at h
      obtain ⟨rfl, rfl⟩ := h
      exact ⟨hheap, not_lt.mp hlater⟩

lemma due_popDue {now : ℤ} {e : TimerEvent} {q' : TimerQueue}
    (h : q.popDue now = some (e, q')) : q.due now = q'.due now + 1 := by
  obtain ⟨hheap, hdue⟩ := popDue_eq_some h
  rw [due, hheap, List.countP_cons_of_pos (by simpa using hdue)]
  rfl

/-- **When nothing is popped**: when no entry is due. -/
lemma popDue_eq_none {now : ℤ} : q.popDue now = none ↔ ∀ e ∈ q.heap, now < e.deadline := by
  rw [popDue]
  split
  · next hheap => simp [hheap]
  · next event rest hheap =>
      have hfirst : ∀ e ∈ rest, event.NotLater e := (List.pairwise_cons.mp (hheap ▸ q.sorted)).1
      split_ifs with hlater
      · simp only [true_iff, hheap, List.mem_cons]
        rintro e (rfl | he)
        · exact hlater
        · have hle := TimerEvent.notLater_iff.mp (hfirst e he)
          omega
      · simp only [false_iff, not_forall]
        exact ⟨event, by simp [hheap], hlater⟩

lemma nextDeadline_mem {deadline : ℤ} (h : q.nextDeadline = some deadline) :
    ∃ e ∈ q.heap, e.deadline = deadline := by
  obtain ⟨e, he, hd⟩ := Option.map_eq_some_iff.mp h
  exact ⟨e, List.mem_of_mem_head? he, hd⟩

end TimerQueue

end NetFault
