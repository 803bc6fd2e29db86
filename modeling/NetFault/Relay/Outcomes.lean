import NetFault.Relay.Methods

/-!
# What the methods ask for, and what they leave alone

The relay asks for a connection to be closed for two kinds of reasons: a socket error and the
injected reset.  Reading from one socket leaves the other one's read side alone, and no method
but `mark_upstream_connected` touches the connect.
-/

namespace NetFault

section Outcomes

variable {io : SocketIo} {now : ℤ} {s s' : Session} {finalState : ConnectionState}
  {reason : CloseReason}

/-- Neither the connect nor the flag `readOpen side` has changed. -/
def Session.KeepsRead (side : Side) (s s' : Session) : Prop :=
  s'.relay.upstreamConnecting = s.relay.upstreamConnecting ∧
    s'.relay.readOpen side = s.relay.readOpen side

lemma Session.KeepsRead.trans {side : Side} {s'' : Session} (h : s.KeepsRead side s')
    (h' : s'.KeepsRead side s'') : s.KeepsRead side s'' :=
  ⟨h'.1.trans h.1, h'.2.trans h.2⟩

lemma observeBackpressure_keepsRead {source : Side} (side : Side)
    (h : s.observeBackpressure source now = .ok s') : s.KeepsRead side s' := by
  simp only [Session.observeBackpressure, bind, Except.bind] at h
  split at h
  · cases h
  · split at h <;> (obtain rfl := Except.ok.inj h; exact ⟨rfl, rfl⟩)

lemma commitReceived_keepsRead {source : Side} {bytes : List Byte} (side : Side)
    (h : s.commitReceived source bytes now = .ok s') : s.KeepsRead side s' := by
  simp only [Session.commitReceived, bind, Except.bind] at h
  split at h
  · cases h
  · have hkeeps := observeBackpressure_keepsRead side h
    exact ⟨hkeeps.1, hkeeps.2⟩

/-- What a trip through the loop of `handle_readable` can do. -/
lemma handleReadableBody_outcome {source : Side} {hangupHint : Bool}
    {trip : Loop.Trip Session PumpResult}
    (h : s.handleReadableBody io source hangupHint now = .ok trip) :
    s.KeepsRead source.peer trip.state ∧ ∀ r last, trip = .exit r last →
      r = .proceed ∨ ∃ error, r = closeForError error .read := by
  simp only [Session.handleReadableBody] at h
  split at h
  swap
  · obtain rfl := Except.ok.inj h
    exact ⟨⟨rfl, rfl⟩, by simp +contextual [eq_comm]⟩
  split at h
  · cases h
  split at h
  · next bytes _ =>
      rcases hcommit : Session.commitReceived source bytes now (s.record _) with _ | s'
      · rw [hcommit] at h
        cases h
      · rw [hcommit] at h
        obtain rfl := Except.ok.inj h
        have hkeeps := commitReceived_keepsRead source.peer hcommit
        exact ⟨⟨hkeeps.1, hkeeps.2⟩, by simp⟩
  · obtain rfl := Except.ok.inj h
    refine ⟨⟨rfl, Function.update_of_ne (Side.peer_ne source) ..⟩, by simp +contextual [eq_comm]⟩
  · obtain rfl := Except.ok.inj h
    refine ⟨?_, by simp +contextual [eq_comm]⟩
    rcases hangupHint with _ | _
    · exact ⟨rfl, rfl⟩
    · exact ⟨rfl, Function.update_of_ne (Side.peer_ne source) ..⟩
  · next error _ =>
      obtain rfl := Except.ok.inj h
      refine ⟨⟨rfl, rfl⟩, ?_⟩
      rintro r last ⟨⟩
      exact .inr ⟨error, rfl⟩

/-- **`handle_readable`** closes a connection for a read error only, and does not touch the other
read side. -/
lemma handleReadable_outcome {source : Side} {hangupHint : Bool} {result : PumpResult}
    (h : s.handleReadable io source hangupHint now = .ok (result, s')) :
    s.KeepsRead source.peer s' ∧
      (result = .proceed ∨ ∃ error, result = closeForError error .read) := by
  obtain ⟨last, hkeeps, hbody⟩ := Loop.run_exit (fun m => s.KeepsRead source.peer m)
    (fun m m' hm hbody => hm.trans (handleReadableBody_outcome hbody).1) _ s ⟨rfl, rfl⟩ h
  obtain ⟨hlast, hresult⟩ := handleReadableBody_outcome hbody
  exact ⟨hkeeps.trans hlast, hresult result s' rfl⟩

lemma flushBody_exit {destination : Side} {r : Option PumpResult}
    (h : s.flushBody io destination now = .ok (.exit r s')) :
    ∀ result, r = some result → ∃ error, result = closeForError error .write := by
  simp only [Session.flushBody] at h
  split at h
  · obtain ⟨rfl, -⟩ := Loop.Trip.exit.inj (Except.ok.inj h)
    simp
  split at h
  · obtain ⟨rfl, -⟩ := Loop.Trip.exit.inj (Except.ok.inj h)
    simp
  split at h
  · next count _ =>
      rcases hcommit : Session.commitSent destination _ count now (Session.record _ _) with
        _ | s' <;> rw [hcommit] at h <;> cases h
  · obtain ⟨rfl, -⟩ := Loop.Trip.exit.inj (Except.ok.inj h)
    simp
  · next error _ =>
      obtain ⟨rfl, -⟩ := Loop.Trip.exit.inj (Except.ok.inj h)
      exact fun result heq => ⟨error, (Option.some.inj heq).symm⟩
  · next error _ =>
      obtain ⟨rfl, -⟩ := Loop.Trip.exit.inj (Except.ok.inj h)
      exact fun result heq => ⟨error, (Option.some.inj heq).symm⟩

/-- **`flush`** closes a connection for a write error or the injected reset. -/
lemma flush_outcome {destination : Side} {result : PumpResult}
    (h : s.flush io destination now = .ok (result, s')) :
    result = .proceed ∨ (∃ error, result = closeForError error .write) ∨
      result = .close .reset .faultReset := by
  rw [Session.flush] at h
  split at h
  · obtain ⟨rfl, -⟩ := Prod.mk.inj (Except.ok.inj h)
    exact .inl rfl
  split at h
  · cases h
  · next r last hrun =>
      obtain ⟨rfl, -⟩ := Prod.mk.inj (Except.ok.inj h)
      obtain ⟨m, -, hbody⟩ := Loop.run_exit (fun _ => True) (fun _ _ _ _ => trivial) _ s
        trivial hrun
      exact .inr (.inl (flushBody_exit hbody r rfl))
  · next last hrun =>
      obtain rfl := congrArg Prod.fst (Except.ok.inj h)
      simp only [Session.checkLifecycleFaults]
      split
      · exact .inr (.inr rfl)
      · exact .inl rfl

/-- What time does to a relay: the activity it records is the old one or that of `now`, when it was
accepted does not change, and it does not go back to connecting. -/
structure Session.Ages (now : ℤ) (s s' : Session) : Prop where
  acceptedAt : s'.relay.acceptedAt = s.relay.acceptedAt
  lastActivity : s'.relay.lastActivity = s.relay.lastActivity ∨ s'.relay.lastActivity = now
  connecting : s'.relay.upstreamConnecting = true → s.relay.upstreamConnecting = true

lemma Session.Ages.refl (s : Session) : s.Ages now s := ⟨rfl, .inl rfl, id⟩

lemma Session.Ages.trans {s'' : Session} (h : s.Ages now s') (h' : s'.Ages now s'') :
    s.Ages now s'' := by
  refine ⟨h'.acceptedAt.trans h.acceptedAt, ?_, h.connecting ∘ h'.connecting⟩
  rcases h'.lastActivity with heq | heq
  · rw [heq]
    exact h.lastActivity
  · exact .inr heq

lemma Move.ages (h : Move io now s s') : s.Ages now s' := by
  cases h with
  | receiveNothing source span hint result => cases result <;> exact ⟨rfl, .inl rfl, id⟩
  | endOfStream source span hint result => cases result <;> exact ⟨rfl, .inl rfl, id⟩
  | sendNothing destination budget result => cases result <;> exact ⟨rfl, .inl rfl, id⟩
  | injectHalfClose injectable =>
      simp only [Session.injectHalfClose]
      split_ifs <;> exact ⟨rfl, .inl rfl, id⟩
  | forward destination forwardable =>
      simp only [Session.forwardHalfClose]
      split_ifs <;> exact ⟨rfl, .inl rfl, id⟩
  | receive | send => exact ⟨rfl, .inr rfl, id⟩
  | refill | injectReset => exact ⟨rfl, .inl rfl, id⟩
  | connect => exact ⟨rfl, .inl rfl, fun h => by cases h⟩

lemma Moves.ages (h : Moves io now s s') : s.Ages now s' := by
  induction h with
  | refl => exact .refl s
  | tail _ hmove ih => exact ih.trans hmove.ages

/-- A finished connect stays finished. -/
lemma Moves.connected (h : Moves io now s s') (hconn : s.relay.upstreamConnecting = false) :
    s'.relay.upstreamConnecting = false := by
  rw [Bool.eq_false_iff] at hconn ⊢
  exact mt h.ages.connecting hconn

lemma forwardHalfClose_keepsRead (destination side : Side) :
    s.KeepsRead side (s.forwardHalfClose io destination) := by
  simp only [Session.forwardHalfClose]
  split_ifs <;> exact ⟨rfl, rfl⟩

lemma propagateHalfCloses_keepsRead (side : Side) :
    s.KeepsRead side (s.propagateHalfCloses io) := by
  rw [Session.propagateHalfCloses]
  split_ifs
  · exact (forwardHalfClose_keepsRead .upstream side).trans
      (forwardHalfClose_keepsRead .client side)
  · exact forwardHalfClose_keepsRead .upstream side
  · exact forwardHalfClose_keepsRead .client side
  · exact ⟨rfl, rfl⟩

end Outcomes

end NetFault
