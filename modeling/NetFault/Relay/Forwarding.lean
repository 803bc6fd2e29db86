import NetFault.Lib.Conveyance
import NetFault.Relay.Lifecycle

/-!
# A relay as two stages of two streams

At every moment of its history, also in the middle of a call, a relay conveys what it has received
from one socket to the other: what was accepted is a beginning of what was received, and a shutdown
passes on an end that was observed, after the last byte.  The half-close fault is the one cut, and
it cuts only the stream towards the client.

`Lifecycle` and `Intact` are about the moments between moves.  For the moments inside, what a send
may offer is a guard of the history (`Forwards`), as the half-close protocol is.
-/

namespace NetFault

open TraceEvent

/-- A send continues what was accepted with bytes that were received. -/
def Forwards (past : Trace) : TraceEvent → Prop
  | .send side data _ _ => past.sent side ++ data <+: past.received side.peer
  | _ => True

/-- A call of `send`. -/
def TraceEvent.isSend : TraceEvent → Bool
  | .send .. => true
  | _ => false

lemma forwards_of_not_send {past : Trace} {e : TraceEvent} (h : e.isSend = false) :
    Forwards past e := by
  cases e with
  | send => cases h
  | _ => trivial

lemma TraceEvent.not_send_of_isNote {e : TraceEvent} (h : e.isNote = true) : e.isSend = false := by
  cases e with
  | send => cases h
  | _ => rfl

section Moves

variable {io : SocketIo} {now : ℤ} {s s' : Session}

/-- What is offered to a socket is the front of its queue. -/
lemma Session.Intact.offer_begins {destination : Side} (h : s.Intact destination.peer)
    {budget : ℕ} (hwritable : s.Writable destination budget now) :
    s.trace.sent destination ++ s.offer destination budget <+:
      s.trace.received destination.peer := by
  rw [h.stream, Side.peer_peer, hwritable.offer_eq]
  exact (List.prefix_append_right_inj _).mpr (List.take_prefix _ _)

/-- **Every move forwards.** -/
lemma Move.forwards (hmove : Move io now s s') (hintact : ∀ source, s.Intact source)
    (h : History.Guarded Forwards s.trace) : History.Guarded Forwards s'.trace := by
  have hquiet : ∀ added : Trace, (∀ e ∈ added, e.isSend = false) →
      History.Guarded Forwards (s.trace ++ added) := fun added hadded =>
    h.append_of_forall fun past e he => forwards_of_not_send (hadded e he)
  cases hmove with
  | receive source span hint bytes d' notes readable answer ingest =>
      refine hquiet _ fun e he => ?_
      rcases List.mem_cons.mp he with rfl | he
      · rfl
      · exact TraceEvent.not_send_of_isNote (ingest.isNote e he)
  | receiveNothing source span hint result readable answer nothing =>
      rw [Session.afterReceive_trace]
      exact hquiet _ (by simp [TraceEvent.isSend])
  | endOfStream source span hint result readable answer ended =>
      rw [Session.noteHalfClosedRead_trace, Session.afterReceive_trace, List.append_assoc]
      exact hquiet _ (by simp [TraceEvent.isSend])
  | refill source => exact h
  | send destination budget count d' notes writable answer egress =>
      have hsend : History.Guarded Forwards (s.trace ++
          [.send destination (s.offer destination budget) (.transferred count) now]) :=
        History.guarded_snoc_iff.mpr ⟨h, (hintact _).offer_begins writable⟩
      simpa [Session.egressed] using hsend.append_of_forall fun past e he =>
        forwards_of_not_send (TraceEvent.not_send_of_isNote (egress.observed.isNote e he))
  | sendNothing destination budget result writable answer nothing =>
      rw [Session.afterSend_trace]
      exact History.guarded_snoc_iff.mpr ⟨h, (hintact _).offer_begins writable⟩
  | injectHalfClose injectable =>
      rcases hok : io.shutdownWrite s.trace .client with _ | _
      · rw [injectable.injectHalfClose_of_failed hok]
        exact hquiet _ (by simp [TraceEvent.isSend])
      · rw [injectable.injectHalfClose_of_ok hok]
        exact hquiet _ (by simp [TraceEvent.isSend])
  | injectReset total => exact hquiet _ (by simp [TraceEvent.isSend])
  | forward destination forwardable =>
      rcases hok : io.shutdownWrite s.trace destination with _ | _
      · rw [Session.forwardHalfClose_of_failed hok]
        exact hquiet _ (by simp [TraceEvent.isSend])
      · rw [Session.forwardHalfClose_of_ok hok]
        exact hquiet _ (by simp [TraceEvent.isSend])
  | connect => exact h

end Moves

/-! ## The two stages -/

namespace Trace

/-- The stream from `side`, as the answers of its socket give it. -/
def arriving (trace : Trace) (side : Side) : StreamPoint Byte where
  passed := trace.received side
  Ended := 0 < trace.count (isEof side)

/-- The stream towards `side` as the relay makes it. -/
def leaving (trace : Trace) (side : Side) : StreamPoint Byte where
  passed := trace.sent side
  Ended := ∃ cause ok, .shutdownWrite side cause ok ∈ trace

@[simp] lemma arriving_passed (trace : Trace) (side : Side) :
    (trace.arriving side).passed = trace.received side := rfl

@[simp] lemma leaving_passed (trace : Trace) (side : Side) :
    (trace.leaving side).passed = trace.sent side := rfl

/-- The half-close fault was injected. -/
def HalfClosed (trace : Trace) : Prop := ∃ ok, .shutdownWrite .client .injected ok ∈ trace

end Trace

section Conveys

variable {past : Trace} {side : Side}

/-- An event that does not touch the stream towards `side`. -/
lemma Trace.conveys_quiet {e : TraceEvent}
    (h : Conveys (side = .client ∧ past.HalfClosed) (past.arriving side.peer) (past.leaving side))
    (hreceived : Trace.receivedIn side.peer e = []) (hsent : Trace.sentIn side e = [])
    (hshut : ∀ cause ok, e ≠ .shutdownWrite side cause ok) :
    Conveys (side = .client ∧ Trace.HalfClosed (past ++ [e]))
      (Trace.arriving (past ++ [e]) side.peer) (Trace.leaving (past ++ [e]) side) where
  passed := by
    show Trace.sent side (past ++ [e]) <+: Trace.received side.peer (past ++ [e])
    simpa [hreceived, hsent] using h.passed
  complete := by
    rintro ⟨cause, ok, hmem⟩ hcut
    have hold : .shutdownWrite side cause ok ∈ past := by
      rcases List.mem_append.mp hmem with hmem | hmem
      · exact hmem
      · exact absurd (List.mem_singleton.mp hmem).symm (hshut cause ok)
    obtain ⟨hended, heq⟩ := h.complete ⟨cause, ok, hold⟩ fun hc =>
      hcut ⟨hc.1, hc.2.imp fun _ hin => List.mem_append_left _ hin⟩
    refine ⟨?_, ?_⟩
    · show 0 < Trace.count (isEof side.peer) (past ++ [e])
      rw [Trace.count_append]
      exact Nat.add_pos_left hended _
    · show Trace.sent side (past ++ [e]) = Trace.received side.peer (past ++ [e])
      simpa [hreceived, hsent] using heq

/-- A receive from the other side of the stream comes before its end. -/
lemma Trace.conveys_receive {span : ℕ} {hint : Bool} {result : IoResult (List Byte)} {now : ℤ}
    (h : Conveys (side = .client ∧ past.HalfClosed) (past.arriving side.peer) (past.leaving side))
    (hopen : past.count (isEof side.peer) = 0) :
    Conveys (side = .client ∧ Trace.HalfClosed (past ++ [.receive side.peer span hint result now]))
      (Trace.arriving (past ++ [.receive side.peer span hint result now]) side.peer)
      (Trace.leaving (past ++ [.receive side.peer span hint result now]) side) where
  passed := by
    show Trace.sent side (past ++ [_]) <+: Trace.received side.peer (past ++ [_])
    rw [Trace.sent_append, Trace.received_append, show Trace.sent side
      [.receive side.peer span hint result now] = [] from rfl, List.append_nil]
    exact h.passed.trans (List.prefix_append _ _)
  complete := by
    rintro ⟨cause, ok, hmem⟩ hcut
    have hold : .shutdownWrite side cause ok ∈ past := by simpa using hmem
    obtain ⟨hended, -⟩ := h.complete ⟨cause, ok, hold⟩ fun hc =>
      hcut ⟨hc.1, hc.2.imp fun _ hin => List.mem_append_left _ hin⟩
    have hpos : 0 < past.count (isEof side.peer) := hended
    omega

/-- A send takes received bytes; after a shutdown that failed there are none left. -/
lemma Trace.conveys_send {data : List Byte} {result : IoResult ℕ} {now : ℤ}
    (h : Conveys (side = .client ∧ past.HalfClosed) (past.arriving side.peer) (past.leaving side))
    (hdata : past.sent side ++ data <+: past.received side.peer) :
    Conveys (side = .client ∧ Trace.HalfClosed (past ++ [.send side data result now]))
      (Trace.arriving (past ++ [.send side data result now]) side.peer)
      (Trace.leaving (past ++ [.send side data result now]) side) := by
  have htaken : Trace.sentIn side (.send side data result now) <+: data := by
    rcases result with count | _ | _ | _
    · simpa [Trace.sentIn] using List.take_prefix count data
    all_goals exact List.nil_prefix
  have hsent : Trace.sent side (past ++ [.send side data result now]) =
      past.sent side ++ Trace.sentIn side (.send side data result now) := by
    simp
  have hreceived : Trace.received side.peer (past ++ [.send side data result now]) =
      past.received side.peer := by
    simp [Trace.receivedIn]
  refine ⟨?_, ?_⟩
  · show Trace.sent side (past ++ [_]) <+: Trace.received side.peer (past ++ [_])
    rw [hsent, hreceived]
    exact ((List.prefix_append_right_inj _).mpr htaken).trans hdata
  · rintro ⟨cause, ok, hmem⟩ hcut
    have hold : .shutdownWrite side cause ok ∈ past := by simpa using hmem
    obtain ⟨hended, heq⟩ := h.complete ⟨cause, ok, hold⟩ fun hc =>
      hcut ⟨hc.1, hc.2.imp fun _ hin => List.mem_append_left _ hin⟩
    have heq' : past.sent side = past.received side.peer := heq
    have hnil : data = [] := by
      have hlen := hdata.length_le
      rw [List.length_append, heq'] at hlen
      exact List.length_eq_zero_iff.mp (by omega)
    refine ⟨?_, ?_⟩
    · show 0 < Trace.count (isEof side.peer) (past ++ [_])
      rw [Trace.count_append]
      exact Nat.add_pos_left hended _
    · show Trace.sent side (past ++ [_]) = Trace.received side.peer (past ++ [_])
      rw [hnil] at htaken
      rw [hsent, hreceived, ← heq', hnil, List.prefix_nil.mp htaken, List.append_nil]

/-- A shutdown passes on the end of the stream, unless it is the fault. -/
lemma Trace.conveys_shutdown {cause : ShutdownCause} {ok : Bool}
    (h : Conveys (side = .client ∧ past.HalfClosed) (past.arriving side.peer) (past.leaving side))
    (hallowed : past.count (isEof side.peer) = 1 ∧ past.sent side = past.received side.peer ∨
      side = .client ∧ cause = .injected ∧ past.count isInjection = 0) :
    Conveys (side = .client ∧ Trace.HalfClosed (past ++ [.shutdownWrite side cause ok]))
      (Trace.arriving (past ++ [.shutdownWrite side cause ok]) side.peer)
      (Trace.leaving (past ++ [.shutdownWrite side cause ok]) side) where
  passed := by
    show Trace.sent side (past ++ [_]) <+: Trace.received side.peer (past ++ [_])
    simpa [Trace.sentIn, Trace.receivedIn] using h.passed
  complete := by
    intro _ hcut
    rcases hallowed with ⟨hended, heq⟩ | ⟨rfl, rfl, -⟩
    · refine ⟨?_, ?_⟩
      · show 0 < Trace.count (isEof side.peer) (past ++ [_])
        rw [Trace.count_append]
        omega
      · show Trace.sent side (past ++ [_]) = Trace.received side.peer (past ++ [_])
        simpa [Trace.sentIn, Trace.receivedIn] using heq
    · exact absurd ⟨rfl, ok, by simp⟩ hcut

/-- **At every moment a relay conveys both streams**, up to the injected half-close, which cuts the
one towards the client.  The induction is on the history, by its last event. -/
lemma conveys_of_guarded {trace : Trace} (hprotocol : History.Guarded Protocol trace)
    (hforwards : History.Guarded Forwards trace) (side : Side) :
    Conveys (side = .client ∧ trace.HalfClosed) (trace.arriving side.peer)
      (trace.leaving side) := by
  induction trace using List.reverseRecOn with
  | nil =>
      refine ⟨List.nil_prefix, ?_⟩
      rintro ⟨cause, ok, hmem⟩
      cases hmem
  | append_singleton past e ih =>
      obtain ⟨hpast, hallowed⟩ := History.guarded_snoc_iff.mp hprotocol
      obtain ⟨hforwards', hsend⟩ := History.guarded_snoc_iff.mp hforwards
      have h := ih hpast hforwards'
      cases e with
      | receive source span hint result now =>
          by_cases hside : source = side.peer
          · subst hside
            exact Trace.conveys_receive h hallowed.2
          · refine Trace.conveys_quiet h ?_ rfl (by simp)
            cases result <;> simp [Trace.receivedIn, hside]
      | send destination data result now =>
          by_cases hside : destination = side
          · subst hside
            exact Trace.conveys_send h hsend
          · refine Trace.conveys_quiet h rfl ?_ (by simp)
            cases result <;> simp [Trace.sentIn, hside]
      | shutdownWrite destination cause ok =>
          by_cases hside : destination = side
          · subst hside
            exact Trace.conveys_shutdown h hallowed.2
          · exact Trace.conveys_quiet h rfl rfl (by simp [hside])
      | observed event state => exact Trace.conveys_quiet h rfl rfl (by simp)
      | stamped source bytes delay eligibleAt => exact Trace.conveys_quiet h rfl rfl (by simp)
      | occupancy source bytes now => exact Trace.conveys_quiet h rfl rfl (by simp)

end Conveys

end NetFault
