import NetFault.Endpoint
import NetFault.Relay.Model

/-!
# The proxy's configuration

`ProxyConfig` and the checks of the constructor `Proxy::Proxy`.  Timeouts are millisecond counts;
within the accepted range they are at most ten minutes.
-/

namespace NetFault

/-- `ProxyConfig`, with the defaults of the source. -/
structure ProxyConfig where
  listen : Endpoint := { host := "127.0.0.1", port := 8080 }
  upstream : Endpoint := { host := "127.0.0.1", port := 9000 }
  maxConnections : ℕ := 256
  bufferBytesPerDirection : ℕ := 65536
  lowWaterBytes : ℕ := 32768
  highWaterBytes : ℕ := 65536
  /-- Zero keeps the kernel's default. -/
  socketBufferBytes : ℕ := 0
  /-- Milliseconds; zero disables. -/
  connectTimeout : ℤ := 0
  /-- Milliseconds; zero disables. -/
  idleTimeout : ℤ := 0
  /-- Empty disables the export. -/
  metricsFile : String := ""
  faults : FaultPlan := {}
  allowNonLoopbackListen : Bool := false
  allowNonLoopbackUpstream : Bool := false
  deriving DecidableEq

/-- The checks of the constructor. -/
inductive ProxyConfigError
  | maxConnections
  | bufferBytes
  | watermarks
  | socketBuffer
  | timeouts
  | faults (error : FaultPlanError)
  /-- `Endpoint::to_sockaddr` rejects the host. -/
  | address
  | nonLoopbackListen
  | nonLoopbackUpstream
  deriving DecidableEq, Repr

def ProxyConfigError.what : ProxyConfigError → String
  | .maxConnections => "max_connections must be positive"
  | .bufferBytes => "buffer_bytes_per_direction must be between 1024 and 16777216"
  | .watermarks => "watermarks must satisfy 0 <= low_water_bytes < high_water_bytes <= buffer_bytes"
  | .socketBuffer => "socket_buffer_bytes must be 0 (kernel default) or between 1024 and 1048576"
  | .timeouts => "timeouts must be between 0 (disabled) and 600000 ms"
  | .faults error => error.what
  | .address => "invalid numeric IPv4 address"
  | .nonLoopbackListen => "non-loopback listen requires --unsafe-allow-non-loopback-listen"
  | .nonLoopbackUpstream => "non-loopback upstream requires --unsafe-allow-non-loopback-upstream"

namespace ProxyConfig

variable (config : ProxyConfig)

/-- The two checks of the addresses.  Both hosts must be numeric, whatever is allowed. -/
def validateEndpoints : Except ProxyConfigError Unit :=
  match config.listen.isLoopback with
  | none => .error .address
  | some listenLoopback =>
      if !listenLoopback && !config.allowNonLoopbackListen then .error .nonLoopbackListen
      else
        match config.upstream.isLoopback with
        | none => .error .address
        | some upstreamLoopback =>
            if !upstreamLoopback && !config.allowNonLoopbackUpstream then
              .error .nonLoopbackUpstream
            else .ok ()

/-- The constructor `Proxy::Proxy`. -/
def validate : Except ProxyConfigError Unit :=
  if config.maxConnections = 0 then .error .maxConnections
  else if config.bufferBytesPerDirection < 1024 ∨ config.bufferBytesPerDirection > 16777216 then
    .error .bufferBytes
  else if config.lowWaterBytes ≥ config.highWaterBytes ∨
      config.highWaterBytes > config.bufferBytesPerDirection then
    .error .watermarks
  else if config.socketBufferBytes ≠ 0 ∧
      (config.socketBufferBytes < 1024 ∨ config.socketBufferBytes > 1048576) then
    .error .socketBuffer
  else if config.connectTimeout < 0 ∨ config.idleTimeout < 0 ∨ config.connectTimeout > 600000 ∨
      config.idleTimeout > 600000 then
    .error .timeouts
  else
    match config.faults.validate with
    | .error error => .error (.faults error)
    | .ok () => config.validateEndpoints

/-- The configuration handed to each relay. -/
def relayConfig : RelayConfig where
  bufferBytesPerDirection := config.bufferBytesPerDirection
  lowWaterBytes := config.lowWaterBytes
  highWaterBytes := config.highWaterBytes

/-- `connect_timeout` on the clock, in nanoseconds. -/
def connectTimeoutNs : ℤ := config.connectTimeout * 1000000

/-- `idle_timeout` on the clock, in nanoseconds. -/
def idleTimeoutNs : ℤ := config.idleTimeout * 1000000

variable {config}

/-- What the rest of the proxy relies on. -/
lemma validate_spec (h : config.validate = .ok ()) :
    0 < config.maxConnections ∧ config.relayConfig.Valid ∧ 0 ≤ config.connectTimeout ∧
      0 ≤ config.idleTimeout ∧ config.faults.validate = .ok () := by
  rw [validate] at h
  split_ifs at h with hmax hbuffer hmarks hsocket htimeouts
  rcases hfaults : config.faults.validate with error | ⟨⟩
  · rw [hfaults] at h
    cases h
  · refine ⟨by omega, ⟨?_, ?_⟩, by omega, by omega, rfl⟩
    · show config.lowWaterBytes < config.highWaterBytes
      omega
    · show config.highWaterBytes ≤ config.bufferBytesPerDirection
      omega

example : ({} : ProxyConfig).validate = .ok () := by decide +kernel

end ProxyConfig

end NetFault
