import Mathlib.Data.List.Basic
import Mathlib.Data.List.Infix

/-!
# Histories whose events are allowed by their past

A history is the list of events so far, oldest first.  `History.Guarded allowed h` says that
every event of `h` was allowed by the events before it; temporal facts of the form "a `b` only
after an `a`" and "no `a` after a `b`" are all of this shape.  A history grows at its end, and
`guarded_append_iff` reduces the guard of a longer history to that of the shorter one and of the
events appended to it.
-/

namespace History

variable {ε : Type*}

/-- Every event of `h` was allowed by the events before it. -/
def Guarded (allowed : List ε → ε → Prop) (h : List ε) : Prop :=
  ∀ past e future, h = past ++ e :: future → allowed past e

variable {allowed : List ε → ε → Prop}

@[simp] lemma guarded_nil : Guarded allowed [] := by
  intro past e future h
  simp at h

lemma guarded_append_iff {h added : List ε} :
    Guarded allowed (h ++ added) ↔
      Guarded allowed h ∧ Guarded (fun past e => allowed (h ++ past) e) added := by
  constructor
  · intro hg
    refine ⟨fun past e future hh => hg past e (future ++ added) (by simp [hh]),
      fun past e future hh => hg (h ++ past) e future (by simp [hh])⟩
  · rintro ⟨hg, hadded⟩ past e future hh
    rcases List.append_eq_append_iff.mp hh with ⟨mid, hpast, hmid⟩ | ⟨mid, hpast, hmid⟩
    · rw [hpast]
      exact hadded mid e future hmid
    · rcases mid with _ | ⟨e', mid⟩
      · have hpe : past = h := by simpa using hpast.symm
        subst hpe
        simpa using hadded [] e future (by simpa using hmid.symm)
      · obtain ⟨rfl, -⟩ : e = e' ∧ future = mid ++ added := by simpa using hmid
        exact hg past e mid hpast

lemma guarded_singleton_iff {e : ε} : Guarded allowed [e] ↔ allowed [] e := by
  constructor
  · intro hg
    exact hg [] e [] rfl
  · intro ha past e' future h
    rcases past with _ | ⟨_, past⟩
    · obtain ⟨rfl, -⟩ : e = e' ∧ [] = future := by simpa using h
      exact ha
    · simp at h

lemma guarded_snoc_iff {h : List ε} {e : ε} :
    Guarded allowed (h ++ [e]) ↔ Guarded allowed h ∧ allowed h e := by
  rw [guarded_append_iff, guarded_singleton_iff, List.append_nil]

/-- Events that are always allowed never break a guard. -/
lemma Guarded.append_of_forall {h added : List ε} (hg : Guarded allowed h)
    (hadded : ∀ past, ∀ e ∈ added, allowed past e) : Guarded allowed (h ++ added) := by
  refine guarded_append_iff.mpr ⟨hg, fun past e future hh => hadded _ e ?_⟩
  simp [hh]

/-- An event of a kind that occurs once at most has one place in the history. -/
lemma eq_of_countP_le_one {kind : ε → Bool} {past past' future future' : List ε} {e e' : ε}
    (h : (past ++ e :: future).countP kind ≤ 1) (he : kind e = true) (he' : kind e' = true)
    (heq : past ++ e :: future = past' ++ e' :: future') :
    past = past' ∧ e = e' ∧ future = future' := by
  have htwice := heq ▸ h
  rcases List.append_eq_append_iff.mp heq with ⟨mid, rfl, hmid⟩ | ⟨mid, rfl, hmid⟩
  · rcases mid with _ | ⟨e₁, mid⟩
    · simpa using hmid
    · -- the other event would come later
      obtain ⟨rfl, -⟩ : e = e₁ ∧ future = mid ++ e' :: future' := by simpa using hmid
      simp only [List.countP_append, List.countP_cons_of_pos he,
        List.countP_cons_of_pos he'] at htwice
      omega
  · rcases mid with _ | ⟨e₁, mid⟩
    · simpa [eq_comm] using hmid
    · obtain ⟨rfl, -⟩ : e' = e₁ ∧ future' = mid ++ e :: future := by simpa using hmid
      simp only [List.countP_append, List.countP_cons_of_pos he, List.countP_cons_of_pos he'] at h
      omega

end History
