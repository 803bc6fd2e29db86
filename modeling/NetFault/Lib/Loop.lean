import Mathlib.Data.Nat.Notation
import Mathlib.Tactic.TypeStar

/-!
# Loops with a budget of trips

A `while` loop whose body may break, return or raise is a function from a state to a `Trip`:
go round again, or leave with a result.  `Loop.run` iterates the body, and raises a distinguished
error when its budget of trips runs out, so that a loop which would not end is not given a
result.  `Loop.run_spec` is the total-correctness rule: an invariant kept by every trip and a
measure that every repeated trip lowers give a result for each budget above the measure.
`Loop.run_exit` speaks of a loop that is known to return, and `Loop.run_map` of a change of states
that the body does not notice.
-/

namespace Loop

variable {ε σ ρ : Type*}

/-- What one trip through a loop body decides. -/
inductive Trip (σ ρ : Type*)
  /-- Test the loop condition again in the new state. -/
  | again (state : σ)
  /-- Leave the loop with a result. -/
  | exit (result : ρ) (state : σ)

/-- The state a trip ends in. -/
def Trip.state : Trip σ ρ → σ
  | .again state => state
  | .exit _ state => state

/-- Iterate `body`, raising `stuck` when the budget is used up. -/
def run (body : σ → Except ε (Trip σ ρ)) (stuck : ε) : ℕ → σ → Except ε (ρ × σ)
  | 0, _ => .error stuck
  | budget + 1, s =>
      match body s with
      | .error e => .error e
      | .ok (.again s') => run body stuck budget s'
      | .ok (.exit r s') => .ok (r, s')

/-- Change the state a trip ends in. -/
def Trip.map (f : σ → σ) : Trip σ ρ → Trip σ ρ
  | .again state => .again (f state)
  | .exit result state => .exit result (f state)

/-- **Total correctness of a loop.**  The induction is on the budget; the measure bounds the
number of trips that are still to come. -/
theorem run_spec (body : σ → Except ε (Trip σ ρ)) (stuck : ε) (Inv : σ → Prop)
    (Post : ρ → σ → Prop) (measure : σ → ℕ)
    (hbody : ∀ s, Inv s →
      (∃ s', body s = .ok (.again s') ∧ Inv s' ∧ measure s' < measure s) ∨
        ∃ r s', body s = .ok (.exit r s') ∧ Post r s') :
    ∀ budget s, Inv s → measure s < budget →
      ∃ r s', run body stuck budget s = .ok (r, s') ∧ Post r s' := by
  intro budget
  induction budget with
  | zero => intro s _ hlt; exact absurd hlt (Nat.not_lt_zero _)
  | succ budget ih =>
      intro s hs hlt
      rcases hbody s hs with ⟨s', hstep, hs', hdec⟩ | ⟨r, s', hstep, hpost⟩
      · obtain ⟨r, s'', hrun, hpost⟩ := ih s' hs' (by omega)
        exact ⟨r, s'', by rw [run, hstep]; exact hrun, hpost⟩
      · exact ⟨r, s', by rw [run, hstep], hpost⟩

/-- **Partial correctness of a loop.**  A loop that returns does so from a trip that leaves it, made
in a state in which what every repeated trip keeps still holds. -/
theorem run_exit (Inv : σ → Prop) {body : σ → Except ε (Trip σ ρ)} {stuck : ε}
    (hagain : ∀ s s', Inv s → body s = .ok (.again s') → Inv s') {r : ρ} {s' : σ} :
    ∀ budget s, Inv s → run body stuck budget s = .ok (r, s') →
      ∃ last, Inv last ∧ body last = .ok (.exit r s') := by
  intro budget
  induction budget with
  | zero => intro s _ hrun; cases hrun
  | succ budget ih =>
      intro s hs hrun
      rw [run] at hrun
      split at hrun
      · cases hrun
      · next mid hbody => exact ih mid (hagain s mid hs hbody) hrun
      · next r' mid hbody =>
          obtain ⟨rfl, rfl⟩ : r' = r ∧ mid = s' := by simpa using hrun
          exact ⟨s, hs, hbody⟩

/-- **A loop commutes with what its body commutes with.** -/
theorem run_map {body : σ → Except ε (Trip σ ρ)} {stuck : ε} {f : σ → σ}
    (hbody : ∀ s, body (f s) = (body s).map (Trip.map f)) :
    ∀ budget s, run body stuck budget (f s) =
      (run body stuck budget s).map fun last => (last.1, f last.2) := by
  intro budget
  induction budget with
  | zero =>
      intro s
      rfl
  | succ budget ih =>
      intro s
      rw [run, run, hbody s]
      rcases body s with e | state | ⟨r, state⟩
      · rfl
      · exact ih state
      · rfl

end Loop
