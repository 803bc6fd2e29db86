import NetFault.Basic

/-!
# Coarse connection states

The lifecycle a connection reports in its events, derived from three of the relay's flags.
-/

namespace NetFault

inductive ConnectionState
  | connectingUpstream
  | active
  | clientReadClosed
  | upstreamReadClosed
  | draining
  | fullyClosed
  | reset
  | failed
  | timedOut
  deriving DecidableEq, Repr

structure ConnectionLifecycle where
  upstreamConnecting : Bool := false
  clientReadOpen : Bool := true
  upstreamReadOpen : Bool := true
  deriving DecidableEq, Repr

def deriveConnectionState (lifecycle : ConnectionLifecycle) : ConnectionState :=
  if lifecycle.upstreamConnecting then .connectingUpstream
  else if !lifecycle.clientReadOpen && !lifecycle.upstreamReadOpen then .draining
  else if !lifecycle.clientReadOpen then .clientReadClosed
  else if !lifecycle.upstreamReadOpen then .upstreamReadClosed
  else .active

def stateName : ConnectionState → String
  | .connectingUpstream => "connecting_upstream"
  | .active => "active"
  | .clientReadClosed => "client_read_closed"
  | .upstreamReadClosed => "upstream_read_closed"
  | .draining => "draining"
  | .fullyClosed => "fully_closed"
  | .reset => "reset"
  | .failed => "failed"
  | .timedOut => "timed_out"

end NetFault
