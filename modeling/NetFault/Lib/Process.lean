import Mathlib.Data.List.Basic
import Mathlib.Tactic.TypeStar

/-!
# Programs that talk to their surroundings one call at a time

A `Process ε` is a sequential program whose only contact with the outside are calls, each of which
is answered by the surroundings and appended to the history of the program.  What the surroundings
answer is a function of that history, so one such function is one behaviour of everything outside,
and a statement about all of them is a statement about all orders in which the outside can act.

A loop has a budget of trips.  A program whose budget is used up has no result: it is *still
running*, and the history is what it has done so far.  `Meets P p Q I` speaks of both outcomes: from
a history with `P`, the program returns with `Q`, or is still running with `I`.  An `I` that cannot
hold is total correctness.  The loop rule `meets_iterate_counted` knows the number of trips, so that
`I` may say what a loop that has used up its budget has done.
-/

/-- A program with calls of type `ε`; no result means that it is still running. -/
abbrev Process (ε : Type) := OptionT (StateM (List ε))

namespace Process

variable {ε α β σ ρ : Type}

/-- The outcome of a program from a history: its result, if it has returned, and the history. -/
def outcome (p : Process ε α) (h : List ε) : Option α × List ε := OptionT.run p h

/-- One call: the surroundings answer from the history, and the call joins it. -/
def call (answer : List ε → α) (event : α → ε) : Process ε α := do
  let h ← get
  set (h ++ [event (answer h)])
  pure (answer h)

/-- How a trip through a loop body ends. -/
inductive Next (σ ρ : Type)
  /-- Test the loop condition again. -/
  | again (state : σ)
  | leave (result : ρ)

/-- What a trip establishes: `Inv` when the loop goes on, `Q` when it is left. -/
def Next.Holds (Inv : σ → List ε → Prop) (Q : ρ → List ε → Prop) : Next σ ρ → List ε → Prop
  | .again state => Inv state
  | .leave result => Q result

/-- Iterate a loop body within a budget of trips. -/
def iterate (body : σ → Process ε (Next σ ρ)) : ℕ → σ → Process ε ρ
  | 0, _ => failure
  | budget + 1, s => do
      match ← body s with
      | .again s' => iterate body budget s'
      | .leave r => pure r

/-! ## Outcomes -/

@[simp] lemma outcome_pure (a : α) (h : List ε) : outcome (pure a : Process ε α) h = (some a, h) :=
  rfl

@[simp] lemma outcome_failure (h : List ε) : outcome (failure : Process ε α) h = (none, h) := rfl

@[simp] lemma outcome_call (answer : List ε → α) (event : α → ε) (h : List ε) :
    outcome (call answer event) h = (some (answer h), h ++ [event (answer h)]) := rfl

lemma outcome_bind_of_some {p : Process ε α} {f : α → Process ε β} {h h' : List ε} {a : α}
    (hp : outcome p h = (some a, h')) : outcome (p >>= f) h = outcome (f a) h' := by
  unfold outcome at hp ⊢
  rw [OptionT.run_bind]
  simp [Option.elimM, bind, StateT.bind, hp]

lemma outcome_bind_of_none {p : Process ε α} {f : α → Process ε β} {h h' : List ε}
    (hp : outcome p h = (none, h')) : outcome (p >>= f) h = (none, h') := by
  unfold outcome at hp ⊢
  rw [OptionT.run_bind]
  simp only [Option.elimM, bind, StateT.bind, hp]
  rfl

/-! ## Specifications -/

/-- From a history with `P` the program returns with `Q`, or is still running with `I`. -/
def Meets (P : List ε → Prop) (p : Process ε α) (Q : α → List ε → Prop) (I : List ε → Prop) :
    Prop :=
  ∀ h, P h →
    match outcome p h with
    | (some a, h') => Q a h'
    | (none, h') => I h'

variable {P P' : List ε → Prop} {Q Q' : α → List ε → Prop} {I I' : List ε → Prop}

lemma meets_pure {a : α} (h : ∀ hist, P hist → Q a hist) : Meets P (pure a) Q I := h

lemma meets_call {answer : List ε → α} {event : α → ε}
    (h : ∀ hist, P hist → Q (answer hist) (hist ++ [event (answer hist)])) :
    Meets P (call answer event) Q I := h

lemma Meets.bind {R : β → List ε → Prop} {p : Process ε β} {f : β → Process ε α}
    (hp : Meets P p R I) (hf : ∀ b, Meets (R b) (f b) Q I) : Meets P (p >>= f) Q I := by
  intro h hh
  have hfirst := hp h hh
  rcases hout : outcome p h with ⟨_ | b, h'⟩
  · rw [outcome_bind_of_none hout]
    rw [hout] at hfirst
    exact hfirst
  · rw [outcome_bind_of_some hout]
    rw [hout] at hfirst
    exact hf b h' hfirst

/-- What a specification says of one run. -/
lemma Meets.run {p : Process ε α} (hp : Meets P p Q I) {h : List ε} (hh : P h) :
    (∀ a, (outcome p h).1 = some a → Q a (outcome p h).2) ∧
      ((outcome p h).1 = none → I (outcome p h).2) := by
  have hmeets := hp h hh
  rcases hout : outcome p h with ⟨_ | a, h'⟩
  · rw [hout] at hmeets
    refine ⟨fun a ha => ?_, fun _ => hmeets⟩
    cases ha
  · rw [hout] at hmeets
    constructor
    · intro b hb
      obtain rfl : a = b := by simpa using hb
      exact hmeets
    · intro hnone
      cases hnone

/-- The rule of consequence. -/
lemma Meets.weaken {p : Process ε α} (hp : Meets P p Q I) (hpre : ∀ h, P' h → P h)
    (hpost : ∀ a h, Q a h → Q' a h) (hrunning : ∀ h, I h → I' h) : Meets P' p Q' I' := by
  intro h hh
  have hmeets := hp h (hpre h hh)
  rcases hout : outcome p h with ⟨_ | a, h'⟩
  · rw [hout] at hmeets
    exact hrunning h' hmeets
  · rw [hout] at hmeets
    exact hpost a h' hmeets

lemma Meets.strengthen {p : Process ε α} (hp : Meets P p Q I) (hpre : ∀ h, P' h → P h) :
    Meets P' p Q I :=
  hp.weaken hpre (fun _ _ h => h) (fun _ h => h)

/-- What a precondition says about other things than the history. -/
lemma Meets.assuming {φ : Prop} {p : Process ε α} (hP : ∀ h, P h → φ) (hp : φ → Meets P p Q I) :
    Meets P p Q I :=
  fun h hh => hp (hP h hh) h hh

/-- What a specification fixes may be read off the history. -/
lemma meets_exists {ι : Type*} {P : ι → List ε → Prop} {p : Process ε α}
    (h : ∀ i, Meets (P i) p Q I) : Meets (fun hist => ∃ i, P i hist) p Q I :=
  fun hist ⟨i, hi⟩ => h i hist hi

/-- **Invariants of a loop**, whether it has ended or not, and of the number of its trips.  The
induction is on the budget; the trips made so far and the budget that is left keep their sum. -/
theorem meets_iterate_counted {Q : ρ → List ε → Prop} (Inv : ℕ → σ → List ε → Prop)
    {body : σ → Process ε (Next σ ρ)}
    (hbody : ∀ trips s, Meets (Inv trips s) (body s) (Next.Holds (Inv (trips + 1)) Q) I)
    {total : ℕ} (hrunning : ∀ s h, Inv total s h → I h) :
    ∀ budget trips s, trips + budget = total →
      Meets (Inv trips s) (iterate body budget s) Q I := by
  intro budget
  induction budget with
  | zero =>
      intro trips s htotal h hh
      obtain rfl : trips = total := htotal
      exact hrunning s h hh
  | succ budget ih =>
      intro trips s htotal
      refine (hbody trips s).bind fun next => ?_
      cases next with
      | again s' => exact ih (trips + 1) s' (by omega)
      | leave r => exact meets_pure fun _ hh => hh

/-- **Invariants of a loop.** -/
theorem meets_iterate {Q : ρ → List ε → Prop} (Inv : σ → List ε → Prop)
    {body : σ → Process ε (Next σ ρ)}
    (hbody : ∀ s, Meets (Inv s) (body s) (Next.Holds Inv Q) I)
    (hrunning : ∀ s h, Inv s h → I h) (budget : ℕ) (s : σ) :
    Meets (Inv s) (iterate body budget s) Q I :=
  meets_iterate_counted (fun _ => Inv) (fun _ => hbody) hrunning budget 0 s (Nat.zero_add _)

end Process
