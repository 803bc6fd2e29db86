import NetFault.Basic

/-!
# Watermark hysteresis

`BackpressureTracker` pauses the reads of a direction when its queue reaches the high-water mark
and resumes them when the queue has drained to the low-water mark.  It is told occupancies by
`observe` and sees nothing else; `observe_spec` says what one observation does to the pause flag.
-/

namespace NetFault

inductive BackpressureTransition
  | none
  | paused
  | resumed
  deriving DecidableEq, Repr

/-- `BackpressureTracker`.  The constructor's check on the watermarks is a field. -/
structure BackpressureTracker where
  lowWaterBytes : ℕ
  highWaterBytes : ℕ
  readPaused : Bool := false
  atCapacity : Bool := false
  pauseStartedAt : ℤ := 0
  totalPaused : ℤ := 0
  pauseCount : UInt64 := 0
  resumeCount : UInt64 := 0
  saturationCount : UInt64 := 0
  low_lt_high : lowWaterBytes < highWaterBytes
  deriving DecidableEq

namespace BackpressureTracker

def create (lowWaterBytes highWaterBytes : ℕ) : Except Fault BackpressureTracker :=
  if h : highWaterBytes = 0 ∨ highWaterBytes ≤ lowWaterBytes then
    .error .watermarks
  else
    .ok { lowWaterBytes, highWaterBytes, low_lt_high := by omega }

variable (t : BackpressureTracker)

/-- The saturation bookkeeping of `observe`: each run of observations at capacity counts once. -/
def noteSaturation (atCapacity : Bool) : BackpressureTracker :=
  { t with
    saturationCount :=
      if atCapacity && !t.atCapacity then t.saturationCount + 1 else t.saturationCount
    atCapacity := atCapacity }

def observe (occupancy capacity : ℕ) (now : ℤ) :
    Except Fault (BackpressureTransition × BackpressureTracker) :=
  if capacity < occupancy ∨ capacity < t.highWaterBytes then
    .error .occupancy
  else
    let t := t.noteSaturation (occupancy == capacity)
    if !t.readPaused && decide (t.highWaterBytes ≤ occupancy) then
      .ok (.paused,
        { t with readPaused := true, pauseStartedAt := now, pauseCount := t.pauseCount + 1 })
    else if t.readPaused && decide (occupancy ≤ t.lowWaterBytes) then
      .ok (.resumed,
        { t with
          readPaused := false
          totalPaused := t.totalPaused + (now - t.pauseStartedAt)
          resumeCount := t.resumeCount + 1 })
    else
      .ok (.none, t)

def pausedDuration (now : ℤ) : ℤ :=
  t.totalPaused + if t.readPaused then now - t.pauseStartedAt else 0

/-- The pause flag an observation leaves: between the watermarks it keeps its value. -/
def pausedAfter (occupancy : ℕ) : Bool :=
  if t.readPaused then decide (t.lowWaterBytes < occupancy)
  else decide (t.highWaterBytes ≤ occupancy)

@[simp] lemma noteSaturation_readPaused (b : Bool) :
    (t.noteSaturation b).readPaused = t.readPaused := rfl

@[simp] lemma noteSaturation_lowWaterBytes (b : Bool) :
    (t.noteSaturation b).lowWaterBytes = t.lowWaterBytes := rfl

@[simp] lemma noteSaturation_highWaterBytes (b : Bool) :
    (t.noteSaturation b).highWaterBytes = t.highWaterBytes := rfl

lemma create_spec {low high : ℕ} (h : low < high) :
    ∃ t, create low high = .ok t ∧ t.readPaused = false ∧ t.lowWaterBytes = low ∧
      t.highWaterBytes = high :=
  ⟨_, dif_neg (by omega), rfl, rfl, rfl⟩

/-- **What an accepted observation can do**: begin a pause, end one, or neither; the saturation is
noted in each case. -/
lemma observe_cases {t t' : BackpressureTracker} {occupancy capacity : ℕ} {now : ℤ}
    {transition : BackpressureTransition}
    (h : t.observe occupancy capacity now = .ok (transition, t')) :
    (transition = .paused ∧ t.readPaused = false ∧ t.highWaterBytes ≤ occupancy ∧
      t' = { t.noteSaturation (occupancy == capacity) with
        readPaused := true, pauseStartedAt := now, pauseCount := t.pauseCount + 1 }) ∨
    (transition = .resumed ∧ t.readPaused = true ∧ occupancy ≤ t.lowWaterBytes ∧
      t' = { t.noteSaturation (occupancy == capacity) with
        readPaused := false
        totalPaused := t.totalPaused + (now - t.pauseStartedAt)
        resumeCount := t.resumeCount + 1 }) ∨
    (transition = .none ∧ (t.readPaused = false → occupancy < t.highWaterBytes) ∧
      (t.readPaused = true → t.lowWaterBytes < occupancy) ∧
      t' = t.noteSaturation (occupancy == capacity)) := by
  have hrange : ¬(capacity < occupancy ∨ capacity < t.highWaterBytes) := by
    intro hrange
    rw [observe, if_pos hrange] at h
    cases h
  rw [observe, if_neg hrange] at h
  simp only [noteSaturation_readPaused, noteSaturation_highWaterBytes,
    noteSaturation_lowWaterBytes] at h
  by_cases hpause : (!t.readPaused && decide (t.highWaterBytes ≤ occupancy)) = true
  · obtain ⟨rfl, rfl⟩ := Prod.mk.inj (Except.ok.inj ((if_pos hpause).symm.trans h))
    simp only [Bool.and_eq_true, Bool.not_eq_true', decide_eq_true_eq] at hpause
    exact .inl ⟨rfl, hpause.1, hpause.2, rfl⟩
  by_cases hresume : (t.readPaused && decide (occupancy ≤ t.lowWaterBytes)) = true
  · obtain ⟨rfl, rfl⟩ := Prod.mk.inj (Except.ok.inj
      (((if_neg hpause).trans (if_pos hresume)).symm.trans h))
    simp only [Bool.and_eq_true, decide_eq_true_eq] at hresume
    exact .inr (.inl ⟨rfl, hresume.1, hresume.2, rfl⟩)
  · obtain ⟨rfl, rfl⟩ := Prod.mk.inj (Except.ok.inj
      (((if_neg hpause).trans (if_neg hresume)).symm.trans h))
    refine .inr (.inr ⟨rfl, fun hrunning => ?_, fun hpaused => ?_, rfl⟩)
    · simpa [hrunning] using hpause
    · simpa [hpaused] using hresume

/-- An observation does not move the marks. -/
lemma observe_marks {t t' : BackpressureTracker} {occupancy capacity : ℕ} {now : ℤ}
    {transition : BackpressureTransition}
    (h : t.observe occupancy capacity now = .ok (transition, t')) :
    t'.lowWaterBytes = t.lowWaterBytes ∧ t'.highWaterBytes = t.highWaterBytes := by
  rcases observe_cases h with ⟨-, -, -, rfl⟩ | ⟨-, -, -, rfl⟩ | ⟨-, -, -, rfl⟩
  all_goals exact ⟨rfl, rfl⟩

/-- An observation moves the pause flag by hysteresis. -/
lemma observe_paused {t t' : BackpressureTracker} {occupancy capacity : ℕ} {now : ℤ}
    {transition : BackpressureTransition}
    (h : t.observe occupancy capacity now = .ok (transition, t')) :
    t'.readPaused = t.pausedAfter occupancy := by
  rcases observe_cases h with ⟨-, hrunning, hhigh, rfl⟩ | ⟨-, hpaused, hlow, rfl⟩ |
    ⟨-, hbelow, habove, rfl⟩
  · simp [pausedAfter, hrunning, hhigh]
  · simp [pausedAfter, hpaused, hlow]
  · -- neither mark is crossed: the flag is the one the hysteresis keeps
    rcases hflag : t.readPaused with _ | _
    · simpa [pausedAfter, hflag] using hbelow hflag
    · simpa [pausedAfter, hflag] using habove hflag

/-- One observation of a possible occupancy: it is accepted, it keeps the watermarks, and it
moves the pause flag by hysteresis. -/
lemma observe_spec {occupancy capacity : ℕ} (now : ℤ) (hocc : occupancy ≤ capacity)
    (hhigh : t.highWaterBytes ≤ capacity) :
    ∃ transition t', t.observe occupancy capacity now = .ok (transition, t') ∧
      t'.readPaused = t.pausedAfter occupancy ∧ t'.lowWaterBytes = t.lowWaterBytes ∧
      t'.highWaterBytes = t.highWaterBytes := by
  obtain ⟨transition, t', hobs⟩ : ∃ transition t',
      t.observe occupancy capacity now = .ok (transition, t') := by
    unfold observe
    rw [if_neg (by omega)]
    dsimp only
    split_ifs
    · exact ⟨_, _, rfl⟩
    · exact ⟨_, _, rfl⟩
    · exact ⟨_, _, rfl⟩
  exact ⟨transition, t', hobs, observe_paused hobs, observe_marks hobs⟩

end BackpressureTracker

end NetFault
