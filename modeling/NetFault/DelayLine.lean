import NetFault.Basic
import Mathlib.Algebra.BigOperators.Group.List.Basic
import Mathlib.Algebra.Order.Group.Nat
import Mathlib.Data.List.Pairwise
import Mathlib.Data.List.TakeWhile
import Mathlib.Order.Lattice

/-!
# Latency bookkeeping of one direction

`DelayLine` records, for the bytes that wait in a direction's queue, when each may leave.  It
stores runs of equal stamps as segments; `stamps` is the list it stands for, one stamp for each
waiting byte in stream order.

`WellFormed` is the representation invariant: segments are non-empty and strictly increasing,
`pending` is their total, and no stamp is later than `lastEligible`.  Under it `onCommit` appends
stamps (clamped to the latest one so far), `onConsume` drops them from the front and never looks
past the last segment, and `releasable` counts the leading stamps that have passed.
-/

namespace NetFault

/-- A run of bytes that become eligible together. -/
structure Segment where
  bytes : ℕ
  eligibleAt : ℤ
  deriving DecidableEq, Repr

/-- `DelayLine`: the deque of segments, the pending total and the latest stamp given out. -/
structure DelayLine where
  segments : List Segment := []
  pending : ℕ := 0
  lastEligible : ℤ := 0
  deriving DecidableEq, Repr

namespace DelayLine

/-- `push_back`, or an addition to the last segment when its stamp is the same. -/
def appendSegment : List Segment → ℕ → ℤ → List Segment
  | [], bytes, eligibleAt => [⟨bytes, eligibleAt⟩]
  | [last], bytes, eligibleAt =>
      if last.eligibleAt = eligibleAt then [{ last with bytes := last.bytes + bytes }]
      else [last, ⟨bytes, eligibleAt⟩]
  | first :: second :: rest, bytes, eligibleAt =>
      first :: appendSegment (second :: rest) bytes eligibleAt

/-- The monotone clamp: a stamp is never earlier than the latest one already given out. -/
def clamp (line : DelayLine) (eligibleAt : ℤ) : ℤ :=
  if eligibleAt < line.lastEligible then line.lastEligible else eligibleAt

def onCommit (line : DelayLine) (bytes : ℕ) (eligibleAt : ℤ) : DelayLine :=
  if bytes = 0 then
    line
  else
    { segments := appendSegment line.segments bytes (line.clamp eligibleAt)
      pending := line.pending + bytes
      lastEligible := line.clamp eligibleAt }

/-- Bytes of the leading segments whose eligibility has passed. -/
def releasableIn (now : ℤ) : List Segment → ℕ
  | [] => 0
  | segment :: rest =>
      if segment.eligibleAt > now then 0 else segment.bytes + releasableIn now rest

def releasable (line : DelayLine) (now : ℤ) : ℕ := releasableIn now line.segments

/-- The loop of `on_consume`.  A segment that is used up is popped; otherwise it absorbs the
rest of the count. -/
def consumeFrom : List Segment → ℕ → Except Fault (List Segment)
  | segments, 0 => .ok segments
  | [], _ + 1 => .error .delayFront
  | front :: rest, count + 1 =>
      let taken := min (count + 1) front.bytes
      if front.bytes - taken = 0 then consumeFrom rest (count + 1 - taken)
      else .ok ({ front with bytes := front.bytes - taken } :: rest)

def onConsume (line : DelayLine) (bytes : ℕ) : Except Fault DelayLine :=
  if line.pending < bytes then
    .error .delayConsume
  else
    match consumeFrom line.segments bytes with
    | .error e => .error e
    | .ok segments => .ok { line with segments, pending := line.pending - bytes }

/-- Eligibility of the first segment still held back. -/
def nextEligible (line : DelayLine) (now : ℤ) : Option ℤ :=
  (line.segments.find? fun segment => decide (segment.eligibleAt > now)).map Segment.eligibleAt

/-! ## The stamps a line stands for -/

/-- One stamp for each byte of the segments. -/
def stampsOf (segments : List Segment) : List ℤ :=
  segments.flatMap fun segment => List.replicate segment.bytes segment.eligibleAt

def stamps (line : DelayLine) : List ℤ := stampsOf line.segments

@[simp] lemma stampsOf_nil : stampsOf [] = [] := rfl

@[simp] lemma stampsOf_cons (segment : Segment) (rest : List Segment) :
    stampsOf (segment :: rest) =
      List.replicate segment.bytes segment.eligibleAt ++ stampsOf rest := rfl

lemma stampsOf_appendSegment : ∀ (segments : List Segment) (bytes : ℕ) (eligibleAt : ℤ),
    stampsOf (appendSegment segments bytes eligibleAt) =
      stampsOf segments ++ List.replicate bytes eligibleAt
  | [], bytes, eligibleAt => by simp [appendSegment]
  | [last], bytes, eligibleAt => by
      rw [appendSegment]
      split_ifs with h
      · simp [← h]
      · simp
  | first :: second :: rest, bytes, eligibleAt => by
      rw [appendSegment, stampsOf_cons, stampsOf_appendSegment (second :: rest),
        stampsOf_cons first, List.append_assoc]

/-- The representation invariant of a delay line. -/
structure WellFormed (line : DelayLine) : Prop where
  pos : ∀ segment ∈ line.segments, 0 < segment.bytes
  increasing : line.segments.Pairwise fun a b => a.eligibleAt < b.eligibleAt
  pending_eq : line.pending = line.stamps.length
  le_last : ∀ segment ∈ line.segments, segment.eligibleAt ≤ line.lastEligible

lemma wellFormed_empty : WellFormed {} :=
  ⟨by simp, by simp, rfl, by simp⟩

/-- A predicate on segments that survives adding bytes survives appending. -/
lemma forall_mem_appendSegment {P : Segment → Prop} {bytes : ℕ} {eligibleAt : ℤ}
    (hnew : P ⟨bytes, eligibleAt⟩)
    (hgrow : ∀ segment, P segment → P { segment with bytes := segment.bytes + bytes }) :
    ∀ segments : List Segment, (∀ segment ∈ segments, P segment) →
      ∀ segment ∈ appendSegment segments bytes eligibleAt, P segment
  | [], _ => by simpa [appendSegment] using hnew
  | [last], h => by
      rw [appendSegment]
      have hlast := h last (by simp)
      split_ifs
      · simpa using hgrow last hlast
      · simpa using ⟨hlast, hnew⟩
  | first :: second :: rest, h => by
      rw [appendSegment]
      intro segment hmem
      rcases List.mem_cons.mp hmem with rfl | hmem
      · exact h _ (by simp)
      · exact forall_mem_appendSegment hnew hgrow (second :: rest)
          (fun s hs => h s (List.mem_cons_of_mem _ hs)) segment hmem

/-- Appending at or past every stamp keeps the segments increasing: an equal stamp can only be
the last one, where the bytes are merged. -/
lemma pairwise_appendSegment {bytes : ℕ} {eligibleAt : ℤ} :
    ∀ segments : List Segment,
      segments.Pairwise (fun a b => a.eligibleAt < b.eligibleAt) →
      (∀ segment ∈ segments, segment.eligibleAt ≤ eligibleAt) →
      (appendSegment segments bytes eligibleAt).Pairwise fun a b => a.eligibleAt < b.eligibleAt
  | [], _, _ => by simp [appendSegment]
  | [last], _, hle => by
      rw [appendSegment]
      split_ifs with h
      · simp
      · have := hle last (by simp)
        simp only [List.pairwise_cons, List.mem_singleton, forall_eq, List.not_mem_nil,
          false_implies, implies_true, List.Pairwise.nil, and_self, and_true]
        omega
  | first :: second :: rest, hinc, hle => by
      rw [appendSegment]
      obtain ⟨hfirst, hrest⟩ := List.pairwise_cons.mp hinc
      refine List.pairwise_cons.mpr ⟨?_, pairwise_appendSegment (second :: rest) hrest
        fun s hs => hle s (List.mem_cons_of_mem _ hs)⟩
      have hsecond := hfirst second (by simp)
      refine forall_mem_appendSegment (P := fun s => first.eligibleAt < s.eligibleAt) ?_
        (fun _ h => h) _ hfirst
      exact hsecond.trans_le (hle second (by simp))

lemma le_clamp (line : DelayLine) (eligibleAt : ℤ) : eligibleAt ≤ line.clamp eligibleAt := by
  rw [clamp]
  split_ifs <;> omega

lemma lastEligible_le_clamp (line : DelayLine) (eligibleAt : ℤ) :
    line.lastEligible ≤ line.clamp eligibleAt := by
  rw [clamp]
  split_ifs <;> omega

/-- Committing appends the clamped stamp, once for each byte. -/
lemma stamps_onCommit {line : DelayLine} {bytes : ℕ} (eligibleAt : ℤ) (h : 0 < bytes) :
    (line.onCommit bytes eligibleAt).stamps =
      line.stamps ++ List.replicate bytes (line.clamp eligibleAt) := by
  rw [onCommit, if_neg h.ne', stamps, stampsOf_appendSegment, stamps]

lemma lastEligible_onCommit {line : DelayLine} {bytes : ℕ} (eligibleAt : ℤ)
    (h : 0 < bytes) : (line.onCommit bytes eligibleAt).lastEligible = line.clamp eligibleAt := by
  rw [onCommit, if_neg h.ne']

lemma pending_onCommit (line : DelayLine) (bytes : ℕ) (eligibleAt : ℤ) :
    (line.onCommit bytes eligibleAt).pending = line.pending + bytes := by
  rw [onCommit]
  split_ifs with h <;> simp [h]

lemma WellFormed.onCommit {line : DelayLine} (hw : line.WellFormed) (bytes : ℕ)
    (eligibleAt : ℤ) : (line.onCommit bytes eligibleAt).WellFormed := by
  rcases Nat.eq_zero_or_pos bytes with rfl | hpos
  · simpa [DelayLine.onCommit] using hw
  have hle : ∀ s ∈ line.segments, s.eligibleAt ≤ line.clamp eligibleAt := fun s hs =>
    (hw.le_last s hs).trans (line.lastEligible_le_clamp eligibleAt)
  refine ⟨?_, ?_, ?_, ?_⟩
  · rw [DelayLine.onCommit, if_neg hpos.ne']
    exact forall_mem_appendSegment hpos (fun s hs => Nat.add_pos_left hs _) _ hw.pos
  · rw [DelayLine.onCommit, if_neg hpos.ne']
    exact pairwise_appendSegment _ hw.increasing hle
  · rw [pending_onCommit, stamps_onCommit _ hpos, List.length_append, List.length_replicate,
      hw.pending_eq]
  · rw [lastEligible_onCommit _ hpos, DelayLine.onCommit, if_neg hpos.ne']
    exact forall_mem_appendSegment (P := fun s => s.eligibleAt ≤ line.clamp eligibleAt) le_rfl
      (fun _ h => h) _ hle

/-! ## Consuming -/

/-- The loop of `on_consume` stays inside the segments it is given enough bytes for.  The
segments that are left are a tail of the old ones, the first perhaps shortened. -/
lemma consumeFrom_spec : ∀ (segments : List Segment) (count : ℕ),
    (∀ segment ∈ segments, 0 < segment.bytes) → count ≤ (stampsOf segments).length →
    ∃ segments', consumeFrom segments count = .ok segments' ∧
      stampsOf segments' = (stampsOf segments).drop count ∧
      (∀ segment ∈ segments', 0 < segment.bytes) ∧
      (segments'.map Segment.eligibleAt) <:+ (segments.map Segment.eligibleAt)
  | segments, 0, hpos, _ => by
      refine ⟨segments, ?_, by simp, hpos, List.suffix_rfl⟩
      cases segments <;> rfl
  | [], count + 1, _, hle => by simp at hle
  | front :: rest, count + 1, hpos, hle => by
      have hfront := hpos front (by simp)
      have hrest : ∀ s ∈ rest, 0 < s.bytes := fun s hs => hpos s (List.mem_cons_of_mem _ hs)
      rw [stampsOf_cons, List.length_append, List.length_replicate] at hle
      rw [consumeFrom]
      by_cases hall : front.bytes ≤ count + 1
      · have htaken : min (count + 1) front.bytes = front.bytes := min_eq_right hall
        obtain ⟨segments', hok, hstamps, hpos', hsuf⟩ :=
          consumeFrom_spec rest (count + 1 - front.bytes) hrest (by omega)
        refine ⟨segments', ?_, ?_, hpos', ?_⟩
        · simpa only [htaken, Nat.sub_self, if_true] using hok
        · have hgone : (List.replicate front.bytes front.eligibleAt).drop (count + 1) = [] :=
            List.drop_eq_nil_of_le (by simpa using hall)
          rw [hstamps, stampsOf_cons, List.drop_append, List.length_replicate, hgone,
            List.nil_append]
        · exact hsuf.trans (List.suffix_cons _ _)
      · have htaken : min (count + 1) front.bytes = count + 1 := min_eq_left (by omega)
        have hleft : ¬ front.bytes - (count + 1) = 0 := by omega
        refine ⟨{ front with bytes := front.bytes - (count + 1) } :: rest,
          by simp only [htaken, hleft, if_false], ?_, ?_, ?_⟩
        · rw [stampsOf_cons, stampsOf_cons, List.drop_append_of_le_length (by simp; omega),
            List.drop_replicate]
        · intro s hs
          rcases List.mem_cons.mp hs with rfl | hs
          · exact Nat.pos_of_ne_zero hleft
          · exact hrest s hs
        · simp

/-- `on_consume` of pending bytes cannot fail, and drops their stamps. -/
lemma WellFormed.onConsume {line : DelayLine} (hw : line.WellFormed) {bytes : ℕ}
    (h : bytes ≤ line.pending) :
    ∃ line', line.onConsume bytes = .ok line' ∧ line'.WellFormed ∧
      line'.stamps = line.stamps.drop bytes ∧ line'.pending = line.pending - bytes ∧
      line'.lastEligible = line.lastEligible := by
  obtain ⟨segments', hok, hstamps, hpos, hsuf⟩ :=
    consumeFrom_spec line.segments bytes hw.pos (by rw [← stamps, ← hw.pending_eq]; exact h)
  refine ⟨{ line with segments := segments', pending := line.pending - bytes },
    by rw [DelayLine.onConsume, if_neg (by omega), hok], ⟨hpos, ?_, ?_, ?_⟩, hstamps, rfl, rfl⟩
  · have hmap : (line.segments.map Segment.eligibleAt).Pairwise (· < ·) :=
      List.pairwise_map.mpr hw.increasing
    exact List.pairwise_map.mp (hmap.sublist hsuf.sublist)
  · show line.pending - bytes = (stampsOf segments').length
    rw [hstamps, List.length_drop, hw.pending_eq, stamps]
  · intro s hs
    have hmem : s.eligibleAt ∈ line.segments.map Segment.eligibleAt :=
      hsuf.subset (List.mem_map_of_mem hs)
    obtain ⟨s', hs', heq⟩ := List.mem_map.mp hmem
    rw [← heq]
    exact hw.le_last s' hs'

/-! ## Release -/

/-- `releasable` counts the leading stamps that have passed. -/
lemma releasableIn_eq (now : ℤ) : ∀ segments : List Segment,
    (∀ segment ∈ segments, 0 < segment.bytes) →
    releasableIn now segments = ((stampsOf segments).takeWhile (· ≤ now)).length
  | [], _ => rfl
  | segment :: rest, hpos => by
      have ih := releasableIn_eq now rest fun s hs => hpos s (List.mem_cons_of_mem _ hs)
      have hbytes := hpos segment (by simp)
      obtain ⟨n, hn⟩ := Nat.exists_eq_succ_of_ne_zero hbytes.ne'
      rw [releasableIn, stampsOf_cons, List.takeWhile_append, ih]
      split_ifs with hlate hfull hfull
      · simp [hn, List.replicate_succ, not_le.mpr hlate] at hfull
      · simp [hn, List.replicate_succ, not_le.mpr hlate]
      · simp
      · simp [not_lt.mp hlate] at hfull

lemma releasable_le_pending {line : DelayLine} (hw : line.WellFormed) (now : ℤ) :
    line.releasable now ≤ line.pending := by
  rw [releasable, releasableIn_eq now _ hw.pos, hw.pending_eq, stamps]
  exact (List.takeWhile_prefix _).length_le

/-- A stamp among the releasable ones has passed. -/
lemma stamps_getElem_le_of_lt_releasable {line : DelayLine} (hw : line.WellFormed)
    {now : ℤ} {i : ℕ} (hi : i < line.releasable now) :
    ∃ e, line.stamps[i]? = some e ∧ e ≤ now := by
  rw [releasable, releasableIn_eq now _ hw.pos] at hi
  have hpre : (stampsOf line.segments).takeWhile (· ≤ now) <+: stampsOf line.segments :=
    List.takeWhile_prefix _
  refine ⟨((stampsOf line.segments).takeWhile (· ≤ now))[i], ?_, ?_⟩
  · rw [stamps, hpre.getElem hi]
    exact List.getElem?_eq_getElem _
  · simpa using List.mem_takeWhile_imp (List.getElem_mem hi)

/-- A line that holds bytes but releases none has a later time at which it will. -/
lemma nextEligible_of_releasable_eq_zero {line : DelayLine} (hw : line.WellFormed)
    {now : ℤ} (hne : 0 < line.pending) (hz : line.releasable now = 0) :
    ∃ t, line.nextEligible now = some t ∧ now < t := by
  rw [releasable] at hz
  rcases hseg : line.segments with _ | ⟨front, rest⟩
  · rw [hw.pending_eq, stamps, hseg] at hne
    simp at hne
  · have hfront := hw.pos front (by simp [hseg])
    have hlate : front.eligibleAt > now := by
      rw [hseg, releasableIn] at hz
      by_contra hcon
      rw [if_neg hcon] at hz
      omega
    exact ⟨front.eligibleAt, by simp [nextEligible, hseg, hlate], hlate⟩

end DelayLine

end NetFault
