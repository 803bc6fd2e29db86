import Mathlib.Data.List.Infix

/-!
# Streams that pass through stages

A stream passes a sequence of points.  At one moment, a `StreamPoint` is what has passed a point so
far, and whether the stream was seen to end there.  `Conveys cut a b` relates two points of one
stream at that moment: what has passed `b` is a beginning of what has passed `a`, and an end seen at
`b` is the end seen at `a`, with everything passed in between, unless the stream was `cut`.

A channel that keeps order and loses nothing conveys without a cut, and a component that forwards
conveys up to its own reasons to give up.  Both compose: `Conveys.trans`.
-/

/-- What has passed a point of a stream, and whether the stream has ended there. -/
structure StreamPoint (β : Type*) where
  passed : List β
  Ended : Prop

/-- What has passed `b` is a beginning of what has passed `a`, and without a `cut` the stream ends
at `b` only when it has ended at `a` and everything has passed. -/
structure Conveys {β : Type*} (cut : Prop) (a b : StreamPoint β) : Prop where
  passed : b.passed <+: a.passed
  complete : b.Ended → ¬cut → a.Ended ∧ b.passed = a.passed

namespace Conveys

variable {β : Type*} {cut cut' : Prop} {a b c : StreamPoint β}

lemma trans (h : Conveys cut a b) (h' : Conveys cut' b c) : Conveys (cut ∨ cut') a c where
  passed := h'.passed.trans h.passed
  complete := by
    intro hended hcut
    obtain ⟨hb, heq'⟩ := h'.complete hended fun hc => hcut (.inr hc)
    obtain ⟨ha, heq⟩ := h.complete hb fun hc => hcut (.inl hc)
    exact ⟨ha, heq'.trans heq⟩

lemma mono (h : Conveys cut a b) (hcut : cut → cut') : Conveys cut' a b where
  passed := h.passed
  complete hended hno := h.complete hended fun hc => hno (hcut hc)

/-- All has passed, and the stream has ended. -/
lemma of_eq (hpassed : b.passed = a.passed) (hended : a.Ended) : Conveys cut a b where
  passed := hpassed ▸ List.prefix_refl _
  complete _ _ := ⟨hended, hpassed⟩

/-- The stream has not ended at the second point. -/
lemma of_open (hpassed : b.passed <+: a.passed) (hopen : ¬b.Ended) : Conveys cut a b where
  passed := hpassed
  complete hended := absurd hended hopen

end Conveys
