import NetFault.Arguments
import NetFault.Proxy.Config

/-!
# The command line of `netfault-proxy`

`main` reads its arguments into a `ProxyConfig`, fills in the watermarks that were not set, warns of
addresses that are not loopback, and constructs the proxy, which validates the configuration.

The loop changes the configuration as it goes.  What it comes to is said without a loop by
`proxySettingsOf`: every field is read from the last setting of its option, or has its default.
`std::from_chars` for a `double` is not written out: what it makes of a text is a parameter.
-/

namespace NetFault

open CommandLine

/-- A `double`, as far as comparisons tell. -/
inductive DoubleValue
  | finite (value : ℚ)
  | infinite (negative : Bool)
  | nan
  deriving DecidableEq

/-- What `std::from_chars` reads from a text as a `double`, if it reads all of it. -/
abbrev FromCharsDouble := String → Option DoubleValue

/-! ## The options -/

inductive ProxyOption
  | listen
  | upstream
  | maxConnections
  | bufferBytes
  | lowWaterBytes
  | highWaterBytes
  | socketBufferBytes
  | connectTimeoutMs
  | idleTimeoutMs
  | metricsFile
  | faultSeed
  | faultProbability
  | faultDirection
  | faultLatencyMs
  | faultJitterMs
  | faultRateBytesPerSec
  | faultBurstBytes
  | faultResetAfterBytes
  | faultHalfCloseAfterBytes
  | unsafeAllowNonLoopbackListen
  | unsafeAllowNonLoopbackUpstream
  deriving DecidableEq, Repr

/-- The variables of `main` that the loop changes. -/
structure ProxySettings where
  config : ProxyConfig := {}
  bufferWasSet : Bool := false
  lowWaterWasSet : Bool := false
  highWaterWasSet : Bool := false
  deriving DecidableEq

namespace ProxyOption

def name : ProxyOption → String
  | listen => "--listen"
  | upstream => "--upstream"
  | maxConnections => "--max-connections"
  | bufferBytes => "--buffer-bytes"
  | lowWaterBytes => "--low-water-bytes"
  | highWaterBytes => "--high-water-bytes"
  | socketBufferBytes => "--socket-buffer-bytes"
  | connectTimeoutMs => "--connect-timeout-ms"
  | idleTimeoutMs => "--idle-timeout-ms"
  | metricsFile => "--metrics-file"
  | faultSeed => "--fault-seed"
  | faultProbability => "--fault-probability"
  | faultDirection => "--fault-direction"
  | faultLatencyMs => "--fault-latency-ms"
  | faultJitterMs => "--fault-jitter-ms"
  | faultRateBytesPerSec => "--fault-rate-bytes-per-sec"
  | faultBurstBytes => "--fault-burst-bytes"
  | faultResetAfterBytes => "--fault-reset-after-bytes"
  | faultHalfCloseAfterBytes => "--fault-half-close-after-bytes"
  | unsafeAllowNonLoopbackListen => "--unsafe-allow-non-loopback-listen"
  | unsafeAllowNonLoopbackUpstream => "--unsafe-allow-non-loopback-upstream"

def all : List ProxyOption :=
  [listen, upstream, maxConnections, bufferBytes, lowWaterBytes, highWaterBytes, socketBufferBytes,
    connectTimeoutMs, idleTimeoutMs, metricsFile, faultSeed, faultProbability, faultDirection,
    faultLatencyMs, faultJitterMs, faultRateBytesPerSec, faultBurstBytes, faultResetAfterBytes,
    faultHalfCloseAfterBytes, unsafeAllowNonLoopbackListen, unsafeAllowNonLoopbackUpstream]

end ProxyOption

/-- `parse_size`; zero is accepted. -/
def parseSize (text name : String) : Except String ℕ :=
  let parsed := fromCharsSize text.toList
  if parsed.error ≠ .none ∨ parsed.rest ≠ [] then
    .error (name ++ " must be a non-negative integer")
  else .ok parsed.value

/-- `parse_probability`.  A NaN passes both comparisons, here and in `FaultPlan::validate`, and no
sample is below it: the faults then apply to no connection, as for zero. -/
def parseProbability (fromCharsDouble : FromCharsDouble) (text : String) : Except String ℚ :=
  match fromCharsDouble text with
  | some (.finite value) =>
      if value < 0 ∨ value > 1 then .error "fault_probability must be a number between 0 and 1"
      else .ok value
  | some .nan => .ok 0
  | some (.infinite _) | none => .error "fault_probability must be a number between 0 and 1"

def parseDirections (text : String) : Except String FaultDirections :=
  if text = "both" then .ok .both
  else if text = "c2u" then .ok .clientToUpstream
  else if text = "u2c" then .ok .upstreamToClient
  else .error "fault_direction must be both, c2u, or u2c"

/-- An option whose value is a size. -/
def sizeOption (name : String) (set : ℕ → ProxySettings → ProxySettings) : Action ProxySettings :=
  .value fun text => (parseSize text name).map set

/-- What the branch of each option does. -/
def ProxyOption.action (fromCharsDouble : FromCharsDouble) : ProxyOption → Action ProxySettings
  | listen => .value fun text =>
      (Endpoint.parse text).map fun endpoint s => { s with config.listen := endpoint }
  | upstream => .value fun text =>
      (Endpoint.parse text).map fun endpoint s => { s with config.upstream := endpoint }
  | maxConnections => sizeOption "max_connections" fun n s => { s with config.maxConnections := n }
  | bufferBytes => sizeOption "buffer_bytes" fun n s =>
      { s with config.bufferBytesPerDirection := n, bufferWasSet := true }
  | lowWaterBytes => sizeOption "low_water_bytes" fun n s =>
      { s with config.lowWaterBytes := n, lowWaterWasSet := true }
  | highWaterBytes => sizeOption "high_water_bytes" fun n s =>
      { s with config.highWaterBytes := n, highWaterWasSet := true }
  | socketBufferBytes => sizeOption "socket_buffer_bytes" fun n s =>
      { s with config.socketBufferBytes := n }
  | connectTimeoutMs => sizeOption "connect_timeout_ms" fun n s =>
      { s with config.connectTimeout := milliseconds n }
  | idleTimeoutMs => sizeOption "idle_timeout_ms" fun n s =>
      { s with config.idleTimeout := milliseconds n }
  | metricsFile => .value fun text => (.ok text : Except String String).map fun path s =>
      { s with config.metricsFile := path }
  | faultSeed => sizeOption "fault_seed" fun n s =>
      { s with config.faults.masterSeed := UInt64.ofNat n }
  | faultProbability => .value fun text =>
      (parseProbability fromCharsDouble text).map fun p s =>
        { s with config.faults.applyProbability := p }
  | faultDirection => .value fun text =>
      (parseDirections text).map fun d s => { s with config.faults.directions := d }
  | faultLatencyMs => sizeOption "fault_latency_ms" fun n s =>
      { s with config.faults.latency := milliseconds n }
  | faultJitterMs => sizeOption "fault_jitter_ms" fun n s =>
      { s with config.faults.jitter := milliseconds n }
  | faultRateBytesPerSec => sizeOption "fault_rate_bytes_per_sec" fun n s =>
      { s with config.faults.rateBytesPerSecond := n }
  | faultBurstBytes => sizeOption "fault_burst_bytes" fun n s =>
      { s with config.faults.burstBytes := n }
  | faultResetAfterBytes => sizeOption "fault_reset_after_bytes" fun n s =>
      { s with config.faults.resetAfterBytes := UInt64.ofNat n }
  | faultHalfCloseAfterBytes => sizeOption "fault_half_close_after_bytes" fun n s =>
      { s with config.faults.halfCloseAfterBytes := UInt64.ofNat n }
  | unsafeAllowNonLoopbackListen => .flag fun s => { s with config.allowNonLoopbackListen := true }
  | unsafeAllowNonLoopbackUpstream => .flag fun s =>
      { s with config.allowNonLoopbackUpstream := true }

def proxyGrammar (fromCharsDouble : FromCharsDouble) : Grammar ProxyOption ProxySettings where
  all := ProxyOption.all
  name := ProxyOption.name
  action := ProxyOption.action fromCharsDouble
  stop := "--help"
  mem_all key := by cases key <;> simp [ProxyOption.all]
  nodup := by decide +kernel

/-! ## `main` -/

/-- The watermarks that follow those that were set. -/
def ProxySettings.finish (s : ProxySettings) : ProxyConfig :=
  let config := if s.bufferWasSet && !s.highWaterWasSet then
    { s.config with highWaterBytes := s.config.bufferBytesPerDirection } else s.config
  if (s.bufferWasSet || s.highWaterWasSet) && !s.lowWaterWasSet then
    { config with lowWaterBytes := config.highWaterBytes / 2 } else config

/-- What `main` does before `Proxy::run`: it shows the help, fails, or runs a proxy; with the lines
on the standard error. -/
inductive Launch
  | help
  | failed (stderr : List String)
  | run (stderr : List String) (config : ProxyConfig)
  deriving DecidableEq

def listenWarning : String :=
  "WARNING: non-loopback listener requested; this can expose the proxy to other hosts."

def upstreamWarning : String :=
  "WARNING: non-loopback upstream requested; use only an explicitly authorized destination."

/-- The line of an exception. -/
def proxyFailure (what : String) : String := "netfault-proxy: " ++ what

/-- The warnings and the constructor; `none` is the exception of `to_sockaddr`. -/
def ProxyConfig.launch (config : ProxyConfig) : Launch :=
  match config.listen.isLoopback with
  | none => .failed [proxyFailure ProxyConfigError.address.what]
  | some listenLoopback =>
      let warnings := if listenLoopback then [] else [listenWarning]
      match config.upstream.isLoopback with
      | none => .failed (warnings ++ [proxyFailure ProxyConfigError.address.what])
      | some upstreamLoopback =>
          let warnings := if upstreamLoopback then warnings else warnings ++ [upstreamWarning]
          match config.validate with
          | .error e => .failed (warnings ++ [proxyFailure e.what])
          | .ok () => .run warnings config

/-- What `main` does after its loop. -/
def proxyLaunch : Except CommandLine.Error (Option ProxySettings) → Launch
  | .error e => .failed [proxyFailure (argumentError e)]
  | .ok none => .help
  | .ok (some s) => s.finish.launch

/-- `main`, for the arguments after the name of the program. -/
def proxyMain (fromCharsDouble : FromCharsDouble) (argv : List String) : Launch :=
  proxyLaunch ((proxyGrammar fromCharsDouble).parse (argv.map cString) {})

/-! ## What the settings come to -/

/-- An option whose value is a size. -/
def sizeOr (name : String) (default : ℕ) (given : Option String) : ℕ :=
  readOr (parseSize · name) default given

/-- The state of `main` after some settings, as a function of what they assign last. -/
def proxySettingsOf (fromCharsDouble : FromCharsDouble) (given : ProxyOption → Option String) :
    ProxySettings where
  config :=
    { listen := readOr Endpoint.parse { host := "127.0.0.1", port := 8080 } (given .listen)
      upstream := readOr Endpoint.parse { host := "127.0.0.1", port := 9000 } (given .upstream)
      maxConnections := sizeOr "max_connections" 256 (given .maxConnections)
      bufferBytesPerDirection := sizeOr "buffer_bytes" 65536 (given .bufferBytes)
      lowWaterBytes := sizeOr "low_water_bytes" 32768 (given .lowWaterBytes)
      highWaterBytes := sizeOr "high_water_bytes" 65536 (given .highWaterBytes)
      socketBufferBytes := sizeOr "socket_buffer_bytes" 0 (given .socketBufferBytes)
      connectTimeout := milliseconds (sizeOr "connect_timeout_ms" 0 (given .connectTimeoutMs))
      idleTimeout := milliseconds (sizeOr "idle_timeout_ms" 0 (given .idleTimeoutMs))
      metricsFile := (given .metricsFile).getD ""
      faults :=
        { masterSeed := UInt64.ofNat (sizeOr "fault_seed" 0 (given .faultSeed))
          applyProbability := readOr (parseProbability fromCharsDouble) 1 (given .faultProbability)
          directions := readOr parseDirections .both (given .faultDirection)
          latency := milliseconds (sizeOr "fault_latency_ms" 0 (given .faultLatencyMs))
          jitter := milliseconds (sizeOr "fault_jitter_ms" 0 (given .faultJitterMs))
          rateBytesPerSecond := sizeOr "fault_rate_bytes_per_sec" 0 (given .faultRateBytesPerSec)
          burstBytes := sizeOr "fault_burst_bytes" 0 (given .faultBurstBytes)
          resetAfterBytes :=
            UInt64.ofNat (sizeOr "fault_reset_after_bytes" 0 (given .faultResetAfterBytes))
          halfCloseAfterBytes := UInt64.ofNat
            (sizeOr "fault_half_close_after_bytes" 0 (given .faultHalfCloseAfterBytes)) }
      allowNonLoopbackListen := (given .unsafeAllowNonLoopbackListen).isSome
      allowNonLoopbackUpstream := (given .unsafeAllowNonLoopbackUpstream).isSome }
  bufferWasSet := (given .bufferBytes).isSome
  lowWaterWasSet := (given .lowWaterBytes).isSome
  highWaterWasSet := (given .highWaterBytes).isSome

section Settings

variable {fromCharsDouble : FromCharsDouble}

lemma proxySettingsOf_none (fromCharsDouble : FromCharsDouble) :
    proxySettingsOf fromCharsDouble (fun _ => none) = ({} : ProxySettings) := rfl

/-- A setting of a size is an assignment. -/
lemma sizeOr_some {name text : String} {n default : ℕ} (h : parseSize text name = .ok n) :
    sizeOr name default (some text) = n :=
  readOr_some h

/-- **Every branch of the loop is an assignment** to its option. -/
lemma proxySettingsOf_update (given : ProxyOption → Option String) (x : Setting ProxyOption)
    (set : ProxySettings → ProxySettings) (h : (proxyGrammar fromCharsDouble).update x = some set) :
    set (proxySettingsOf fromCharsDouble given) =
      proxySettingsOf fromCharsDouble (Function.update given x.key (some x.text)) := by
  obtain ⟨key, value⟩ := x
  cases key with
  | listen | upstream | faultProbability | faultDirection =>
      obtain ⟨text, value, rfl, hread, rfl⟩ := (Grammar.update_of_read rfl).mp h
      simp [proxySettingsOf, Setting.text, readOr_some hread]
  | metricsFile =>
      obtain ⟨text, value, rfl, hread, rfl⟩ := (Grammar.update_of_read rfl).mp h
      simp [proxySettingsOf, Setting.text, Except.ok.inj hread]
  | unsafeAllowNonLoopbackListen | unsafeAllowNonLoopbackUpstream =>
      obtain ⟨rfl, rfl⟩ := (Grammar.update_of_flag rfl).mp h
      simp [proxySettingsOf]
  | maxConnections | bufferBytes | lowWaterBytes | highWaterBytes | socketBufferBytes
  | connectTimeoutMs | idleTimeoutMs | faultSeed | faultLatencyMs | faultJitterMs
  | faultRateBytesPerSec | faultBurstBytes | faultResetAfterBytes | faultHalfCloseAfterBytes =>
      obtain ⟨text, n, rfl, hread, rfl⟩ := (Grammar.update_of_read rfl).mp h
      simp [proxySettingsOf, Setting.text, sizeOr_some hread]

end Settings

/-! ## The addresses -/

/-- The warnings of a configuration. -/
def ProxyConfig.warnings (config : ProxyConfig) : List String :=
  (if config.listen.isLoopback = some true then [] else [listenWarning]) ++
    if config.upstream.isLoopback = some true then [] else [upstreamWarning]

/-- `launch` of a configuration with numeric addresses. -/
lemma ProxyConfig.launch_eq {config : ProxyConfig} (hlisten : config.listen.isLoopback ≠ none)
    (hupstream : config.upstream.isLoopback ≠ none) :
    config.launch = match config.validate with
      | .error e => .failed (config.warnings ++ [proxyFailure e.what])
      | .ok () => .run config.warnings config := by
  obtain ⟨listen, hlisten⟩ := Option.ne_none_iff_exists'.mp hlisten
  obtain ⟨upstream, hupstream⟩ := Option.ne_none_iff_exists'.mp hupstream
  rw [launch, warnings, hlisten, hupstream]
  cases listen <;> cases upstream <;> simp

/-- Only the watermarks follow others. -/
lemma ProxySettings.finish_eq (s : ProxySettings) : s.finish =
    { s.config with
      lowWaterBytes := s.finish.lowWaterBytes, highWaterBytes := s.finish.highWaterBytes } := by
  simp only [finish]
  split_ifs <;> rfl

lemma ProxySettings.finish_listen (s : ProxySettings) : s.finish.listen = s.config.listen := by
  rw [finish_eq]

lemma ProxySettings.finish_upstream (s : ProxySettings) :
    s.finish.upstream = s.config.upstream := by
  rw [finish_eq]

lemma ProxySettings.finish_allowNonLoopbackListen (s : ProxySettings) :
    s.finish.allowNonLoopbackListen = s.config.allowNonLoopbackListen := by
  rw [finish_eq]

lemma ProxySettings.finish_allowNonLoopbackUpstream (s : ProxySettings) :
    s.finish.allowNonLoopbackUpstream = s.config.allowNonLoopbackUpstream := by
  rw [finish_eq]

/-- The configuration that some settings come to. -/
def proxyConfigOf (fromCharsDouble : FromCharsDouble) (xs : List (Setting ProxyOption)) :
    ProxyConfig :=
  (proxySettingsOf fromCharsDouble (given xs)).finish

section Main

variable {fromCharsDouble : FromCharsDouble} {xs : List (Setting ProxyOption)}

lemma launch_proxyConfigOf (fromCharsDouble : FromCharsDouble) (xs : List (Setting ProxyOption)) :
    (proxyConfigOf fromCharsDouble xs).launch =
      match (proxyConfigOf fromCharsDouble xs).validate with
      | .error e => .failed ((proxyConfigOf fromCharsDouble xs).warnings ++ [proxyFailure e.what])
      | .ok () => .run (proxyConfigOf fromCharsDouble xs).warnings
          (proxyConfigOf fromCharsDouble xs) := by
  apply ProxyConfig.launch_eq
  · rw [proxyConfigOf, ProxySettings.finish_listen]
    exact isLoopback_readOr (by decide +kernel) _
  · rw [proxyConfigOf, ProxySettings.finish_upstream]
    exact isLoopback_readOr (by decide +kernel) _

/-- **How `main` ends**, and after which settings. -/
lemma proxyMain_eq_iff {argv : List String} {launch : Launch} :
    proxyMain fromCharsDouble argv = launch ↔ ∃ xs rest ending,
      argv.map cString = xs.flatMap (·.words (proxyGrammar fromCharsDouble)) ++ rest ∧
      (proxyGrammar fromCharsDouble).Accepts xs ∧
      (proxyGrammar fromCharsDouble).Ends rest ending ∧
      launch = proxyLaunch (ending.outcome (proxySettingsOf fromCharsDouble (given xs))) := by
  rw [proxyMain, ← proxySettingsOf_none fromCharsDouble]
  exact Grammar.launch_parse_iff proxyLaunch _ proxySettingsOf_update

lemma proxyMain_run_iff {argv : List String} {stderr : List String} {config : ProxyConfig} :
    proxyMain fromCharsDouble argv = .run stderr config ↔
      ∃ xs, argv.map cString = xs.flatMap (·.words (proxyGrammar fromCharsDouble)) ∧
        (proxyGrammar fromCharsDouble).Accepts xs ∧ config = proxyConfigOf fromCharsDouble xs ∧
        config.validate = .ok () ∧ stderr = config.warnings := by
  rw [proxyMain_eq_iff]
  constructor
  · rintro ⟨xs, rest, ending, hargv, haccepts, hends, hlaunch⟩
    cases hends with
    | done =>
        have hlaunch := hlaunch.trans (launch_proxyConfigOf fromCharsDouble xs)
        rcases hvalid : (proxyConfigOf fromCharsDouble xs).validate with e | ⟨⟩
        · simp [hvalid] at hlaunch
        · simp only [hvalid, Launch.run.injEq] at hlaunch
          obtain ⟨rfl, rfl⟩ := hlaunch
          exact ⟨xs, by simpa using hargv, haccepts, rfl, hvalid, rfl⟩
    | stopped | unknown | missing | rejected => cases hlaunch
  · rintro ⟨xs, hargv, haccepts, rfl, hvalid, rfl⟩
    have hlaunch := launch_proxyConfigOf fromCharsDouble xs
    rw [hvalid] at hlaunch
    exact ⟨xs, [], .done, by simpa using hargv, haccepts, .done, hlaunch.symm⟩

lemma proxyMain_help_iff {argv : List String} : proxyMain fromCharsDouble argv = .help ↔
    ∃ xs rest, argv.map cString =
        xs.flatMap (·.words (proxyGrammar fromCharsDouble)) ++ "--help" :: rest ∧
      (proxyGrammar fromCharsDouble).Accepts xs := by
  rw [proxyMain_eq_iff]
  constructor
  · rintro ⟨xs, rest, ending, hargv, haccepts, hends, hlaunch⟩
    cases hends with
    | done =>
        have hlaunch := hlaunch.trans (launch_proxyConfigOf fromCharsDouble xs)
        rcases hvalid : (proxyConfigOf fromCharsDouble xs).validate with e | ⟨⟩ <;>
          simp [hvalid] at hlaunch
    | stopped rest => exact ⟨xs, rest, hargv, haccepts⟩
    | unknown | missing | rejected => cases hlaunch
  · rintro ⟨xs, rest, hargv, haccepts⟩
    exact ⟨xs, _, .stopped, hargv, haccepts, .stopped rest, rfl⟩

lemma proxyMain_failed_iff {argv : List String} {stderr : List String} :
    proxyMain fromCharsDouble argv = .failed stderr ↔
      (∃ xs rest e, argv.map cString =
          xs.flatMap (·.words (proxyGrammar fromCharsDouble)) ++ rest ∧
        (proxyGrammar fromCharsDouble).Accepts xs ∧
        (proxyGrammar fromCharsDouble).Ends rest (.failed e) ∧
        stderr = [proxyFailure (argumentError e)]) ∨
      ∃ xs e, argv.map cString = xs.flatMap (·.words (proxyGrammar fromCharsDouble)) ∧
        (proxyGrammar fromCharsDouble).Accepts xs ∧
        (proxyConfigOf fromCharsDouble xs).validate = .error e ∧
        stderr = (proxyConfigOf fromCharsDouble xs).warnings ++ [proxyFailure e.what] := by
  rw [proxyMain_eq_iff]
  constructor
  · rintro ⟨xs, rest, _ | _ | e, hargv, haccepts, hends, hlaunch⟩
    · cases hends
      have hlaunch := hlaunch.trans (launch_proxyConfigOf fromCharsDouble xs)
      rcases hvalid : (proxyConfigOf fromCharsDouble xs).validate with e | ⟨⟩
      · simp only [hvalid, Launch.failed.injEq] at hlaunch
        exact .inr ⟨xs, e, by simpa using hargv, haccepts, hvalid, hlaunch⟩
      · simp [hvalid] at hlaunch
    · cases hlaunch
    · exact .inl ⟨xs, rest, e, hargv, haccepts, hends, Launch.failed.inj hlaunch⟩
  · rintro (⟨xs, rest, e, hargv, haccepts, hends, rfl⟩ | ⟨xs, e, hargv, haccepts, hvalid, rfl⟩)
    · exact ⟨xs, rest, .failed e, hargv, haccepts, hends, rfl⟩
    · have hlaunch := launch_proxyConfigOf fromCharsDouble xs
      rw [hvalid] at hlaunch
      exact ⟨xs, [], .done, by simpa using hargv, haccepts, .done, hlaunch.symm⟩

end Main

/-- The constructor lets no other address than a loopback one pass without its flag. -/
lemma ProxyConfig.loopback_or_allowed {config : ProxyConfig} (h : config.validate = .ok ()) :
    (config.listen.isLoopback = some true ∨ config.allowNonLoopbackListen = true) ∧
      (config.upstream.isLoopback = some true ∨ config.allowNonLoopbackUpstream = true) := by
  have hendpoints : config.validateEndpoints = .ok () := by
    rw [validate] at h
    split_ifs at h
    rcases hfaults : config.faults.validate with e | ⟨⟩
    · simp [hfaults] at h
    · simpa [hfaults] using h
  rw [validateEndpoints] at hendpoints
  rcases hlisten : config.listen.isLoopback with _ | listen
  · simp [hlisten] at hendpoints
  rcases hupstream : config.upstream.isLoopback with _ | upstream
  · simp only [hlisten, hupstream] at hendpoints
    split_ifs at hendpoints
  · simp only [hlisten, hupstream] at hendpoints
    split_ifs at hendpoints with hfirst hsecond
    constructor
    · cases listen <;> simp_all
    · cases upstream <;> simp_all

/-- **What a command line of `netfault-proxy` comes to.**  For all arguments, the proxy runs with a
configuration if and only if they are settings, one after the other, with values that are accepted,
the configuration is that of the last setting of each option, with the defaults of `main` and the
watermarks that follow the buffer, and it passes the checks of the constructor; it then has warned
of the addresses that are not loopback, each of which was allowed by a flag among the arguments.
The help is shown if and only if `--help` comes after such settings.  And `main` fails with one line
for the first argument that it cannot accept, or with the warnings and the text of the check that
the configuration does not pass. -/
theorem proxy_command_line (fromCharsDouble : FromCharsDouble) (argv : List String) :
    (∀ stderr config, proxyMain fromCharsDouble argv = .run stderr config ↔
      ∃ xs, argv.map cString = xs.flatMap (·.words (proxyGrammar fromCharsDouble)) ∧
        (proxyGrammar fromCharsDouble).Accepts xs ∧ config = proxyConfigOf fromCharsDouble xs ∧
        config.validate = .ok () ∧ stderr = config.warnings) ∧
    (∀ stderr config, proxyMain fromCharsDouble argv = .run stderr config →
      (config.listen.isLoopback = some true ∨ listenWarning ∈ stderr ∧
        "--unsafe-allow-non-loopback-listen" ∈ argv.map cString) ∧
      (config.upstream.isLoopback = some true ∨ upstreamWarning ∈ stderr ∧
        "--unsafe-allow-non-loopback-upstream" ∈ argv.map cString)) ∧
    (proxyMain fromCharsDouble argv = .help ↔
      ∃ xs rest, argv.map cString =
          xs.flatMap (·.words (proxyGrammar fromCharsDouble)) ++ "--help" :: rest ∧
        (proxyGrammar fromCharsDouble).Accepts xs) ∧
    ∀ stderr, proxyMain fromCharsDouble argv = .failed stderr ↔
      (∃ xs rest e, argv.map cString =
          xs.flatMap (·.words (proxyGrammar fromCharsDouble)) ++ rest ∧
        (proxyGrammar fromCharsDouble).Accepts xs ∧
        (proxyGrammar fromCharsDouble).Ends rest (.failed e) ∧
        stderr = [proxyFailure (argumentError e)]) ∨
      ∃ xs e, argv.map cString = xs.flatMap (·.words (proxyGrammar fromCharsDouble)) ∧
        (proxyGrammar fromCharsDouble).Accepts xs ∧
        (proxyConfigOf fromCharsDouble xs).validate = .error e ∧
        stderr = (proxyConfigOf fromCharsDouble xs).warnings ++ [proxyFailure e.what] := by
  refine ⟨fun _ _ => proxyMain_run_iff, fun stderr config hrun => ?_, proxyMain_help_iff,
    fun _ => proxyMain_failed_iff⟩
  obtain ⟨xs, hargv, -, rfl, hvalid, rfl⟩ := proxyMain_run_iff.mp hrun
  obtain ⟨hlisten, hupstream⟩ := ProxyConfig.loopback_or_allowed hvalid
  rw [hargv]
  constructor
  · by_cases hloop : (proxyConfigOf fromCharsDouble xs).listen.isLoopback = some true
    · exact .inl hloop
    · refine .inr ⟨by simp [ProxyConfig.warnings, hloop], ?_⟩
      have hallowed := hlisten.resolve_left hloop
      rw [proxyConfigOf, ProxySettings.finish_allowNonLoopbackListen] at hallowed
      exact Grammar.name_mem_of_given (Option.isSome_iff_ne_none.mp hallowed)
  · by_cases hloop : (proxyConfigOf fromCharsDouble xs).upstream.isLoopback = some true
    · exact .inl hloop
    · refine .inr ⟨by simp [ProxyConfig.warnings, hloop], ?_⟩
      have hallowed := hupstream.resolve_left hloop
      rw [proxyConfigOf, ProxySettings.finish_allowNonLoopbackUpstream] at hallowed
      exact Grammar.name_mem_of_given (Option.isSome_iff_ne_none.mp hallowed)

-- the watermarks follow the buffer; a listener on every address needs its flag
example :
    proxyMain (fun _ => none) ["--buffer-bytes", "1024", "--listen", "127.0.0.1:8081"] =
        .run [] { listen := { host := "127.0.0.1", port := 8081 }, bufferBytesPerDirection := 1024
                  lowWaterBytes := 512, highWaterBytes := 1024 } ∧
      proxyMain (fun _ => none) ["--listen", "0.0.0.0:8081"] =
        .failed [listenWarning, proxyFailure ProxyConfigError.nonLoopbackListen.what] := by
  decide +kernel

/-! ## Writing a configuration down -/

namespace ProxyConfig

/-- The values on a command line for a configuration; `probability` is a text of its probability. -/
def valueOf (config : ProxyConfig) (probability : String) : ProxyOption → Option (Option String)
  | .listen => some (some config.listen.toString)
  | .upstream => some (some config.upstream.toString)
  | .maxConnections => some (some (toString config.maxConnections))
  | .bufferBytes => some (some (toString config.bufferBytesPerDirection))
  | .lowWaterBytes => some (some (toString config.lowWaterBytes))
  | .highWaterBytes => some (some (toString config.highWaterBytes))
  | .socketBufferBytes => some (some (toString config.socketBufferBytes))
  | .connectTimeoutMs => some (some (toString config.connectTimeout.toNat))
  | .idleTimeoutMs => some (some (toString config.idleTimeout.toNat))
  | .metricsFile => some (some config.metricsFile)
  | .faultSeed => some (some (toString config.faults.masterSeed.toNat))
  | .faultProbability => some (some probability)
  | .faultDirection => some (some (match config.faults.directions with
      | .both => "both"
      | .clientToUpstream => "c2u"
      | .upstreamToClient => "u2c"))
  | .faultLatencyMs => some (some (toString config.faults.latency.toNat))
  | .faultJitterMs => some (some (toString config.faults.jitter.toNat))
  | .faultRateBytesPerSec => some (some (toString config.faults.rateBytesPerSecond))
  | .faultBurstBytes => some (some (toString config.faults.burstBytes))
  | .faultResetAfterBytes => some (some (toString config.faults.resetAfterBytes.toNat))
  | .faultHalfCloseAfterBytes => some (some (toString config.faults.halfCloseAfterBytes.toNat))
  | .unsafeAllowNonLoopbackListen => if config.allowNonLoopbackListen then some none else none
  | .unsafeAllowNonLoopbackUpstream => if config.allowNonLoopbackUpstream then some none else none

/-- The configuration can be written down: its values are of the types of the source, its endpoints
could have been parsed, and `probability` is a text of its probability. -/
structure Writable (fromCharsDouble : FromCharsDouble) (probability : String)
    (config : ProxyConfig) : Prop where
  listen : IsAddress config.listen.host ∧ config.listen.port ≠ 0
  upstream : IsAddress config.upstream.host ∧ config.upstream.port ≠ 0
  sizes : ∀ n ∈ [config.maxConnections, config.bufferBytesPerDirection, config.lowWaterBytes,
    config.highWaterBytes, config.socketBufferBytes, config.faults.rateBytesPerSecond,
    config.faults.burstBytes], n < 2 ^ 64
  durations : ∀ t ∈ [config.connectTimeout, config.idleTimeout, config.faults.latency,
    config.faults.jitter], 0 ≤ t ∧ t < 2 ^ 63
  metricsFile : '\x00' ∉ config.metricsFile.toList
  probability : fromCharsDouble probability = some (.finite config.faults.applyProbability) ∧
    0 ≤ config.faults.applyProbability ∧ config.faults.applyProbability ≤ 1 ∧
    '\x00' ∉ probability.toList

end ProxyConfig

section Writable

variable {fromCharsDouble : FromCharsDouble} {probability : String} {config : ProxyConfig}

lemma parseSize_toString {n : ℕ} (h : n < 2 ^ 64) (name : String) :
    parseSize (toString n) name = .ok n := by
  have htext : (toString n).toList = Nat.toDigits 10 n := by simp
  have hdigits : ∀ c ∈ Nat.toDigits 10 n, c.isDigit = true := fun c hc =>
    Nat.isDigit_of_mem_toDigits (by decide) (by decide) hc
  have hparsed : fromCharsSize (toString n).toList =
      { value := n, rest := [], error := .none } := by
    rw [fromCharsSize, htext, List.takeWhile_eq_self_iff.mpr hdigits,
      List.dropWhile_eq_nil_iff.mpr hdigits, if_neg Nat.toDigits_ne_nil, decimalValue_toDigits,
      if_neg (not_le.mpr h)]
  simp only [parseSize, hparsed]
  simp

lemma milliseconds_toNat {t : ℤ} (h : 0 ≤ t ∧ t < 2 ^ 63) : milliseconds t.toNat = t := by
  rw [milliseconds, Int.toNat_of_nonneg h.1, i64]
  exact Int.bmod_eq_of_le (by omega) (by omega)

lemma not_nul_mem_name (key : ProxyOption) : '\x00' ∉ key.name.toList := by
  cases key <;> decide

namespace ProxyConfig

/-- Nothing that is written has a NUL. -/
lemma Writable.not_nul_mem (h : config.Writable fromCharsDouble probability) {key : ProxyOption}
    {text : String} (hvalue : config.valueOf probability key = some (some text)) :
    '\x00' ∉ text.toList := by
  cases key with
  | listen =>
      obtain rfl := Option.some.inj (Option.some.inj hvalue)
      exact not_nul_mem_endpoint h.listen.1
  | upstream =>
      obtain rfl := Option.some.inj (Option.some.inj hvalue)
      exact not_nul_mem_endpoint h.upstream.1
  | metricsFile =>
      obtain rfl := Option.some.inj (Option.some.inj hvalue)
      exact h.metricsFile
  | faultProbability =>
      obtain rfl := Option.some.inj (Option.some.inj hvalue)
      exact h.probability.2.2.2
  | faultDirection =>
      obtain rfl := Option.some.inj (Option.some.inj hvalue)
      cases config.faults.directions <;> decide
  | unsafeAllowNonLoopbackListen | unsafeAllowNonLoopbackUpstream =>
      simp only [valueOf] at hvalue
      split_ifs at hvalue
      cases hvalue
  | maxConnections | bufferBytes | lowWaterBytes | highWaterBytes | socketBufferBytes
  | connectTimeoutMs | idleTimeoutMs | faultSeed | faultLatencyMs | faultJitterMs
  | faultRateBytesPerSec | faultBurstBytes | faultResetAfterBytes | faultHalfCloseAfterBytes =>
      obtain rfl := Option.some.inj (Option.some.inj hvalue)
      exact not_nul_mem_toString _

lemma parseDirections_valueOf : parseDirections (match config.faults.directions with
    | .both => "both"
    | .clientToUpstream => "c2u"
    | .upstreamToClient => "u2c") = .ok config.faults.directions := by
  cases config.faults.directions <;> decide

lemma Writable.parseProbability (h : config.Writable fromCharsDouble probability) :
    parseProbability fromCharsDouble probability = .ok config.faults.applyProbability := by
  obtain ⟨hread, hlow, hhigh, -⟩ := h.probability
  rw [NetFault.parseProbability, hread]
  exact if_neg (not_or.mpr ⟨not_lt.mpr hlow, not_lt.mpr hhigh⟩)

/-- A size is accepted in its decimal text. -/
lemma update_size {key : ProxyOption} {name : String} {set : ℕ → ProxySettings → ProxySettings}
    (haction : (proxyGrammar fromCharsDouble).action key = sizeOption name set) {n : ℕ}
    (hn : n < 2 ^ 64) {value : Option String} (hvalue : some (some (toString n)) = some value) :
    ∃ set', (proxyGrammar fromCharsDouble).update ⟨key, value⟩ = some set' :=
  ⟨set n, (Grammar.update_of_read haction).mpr ⟨toString n, n, (Option.some.inj hvalue).symm,
    parseSize_toString hn name, rfl⟩⟩

/-- **What is written is accepted.** -/
lemma Writable.accepts (h : config.Writable fromCharsDouble probability) {x : Setting ProxyOption}
    (hx : config.valueOf probability x.key = some x.value) :
    ((proxyGrammar fromCharsDouble).update x).isSome = true := by
  obtain ⟨hmax, hbuffer, hlow, hhigh, hsocket, hrate, hburst⟩ : _ ∧ _ ∧ _ ∧ _ ∧ _ ∧ _ ∧ _ := by
    simpa using h.sizes
  obtain ⟨hconnect, hidle, hlatency, hjitter⟩ : _ ∧ _ ∧ _ ∧ _ := by simpa using h.durations
  have hword : ∀ n : UInt64, n.toNat < 2 ^ 64 := UInt64.toNat_lt
  have hduration : ∀ t : ℤ, t < 2 ^ 63 → t.toNat < 2 ^ 64 := fun t ht => by omega
  obtain ⟨key, value⟩ := x
  rw [Option.isSome_iff_exists]
  cases key with
  | listen =>
      exact ⟨_, (Grammar.update_of_read rfl).mpr ⟨_, _, (Option.some.inj hx).symm,
        parse_toString_of_isAddress h.listen.1 h.listen.2, rfl⟩⟩
  | upstream =>
      exact ⟨_, (Grammar.update_of_read rfl).mpr ⟨_, _, (Option.some.inj hx).symm,
        parse_toString_of_isAddress h.upstream.1 h.upstream.2, rfl⟩⟩
  | metricsFile =>
      exact ⟨_, (Grammar.update_of_read rfl).mpr ⟨_, _, (Option.some.inj hx).symm, rfl, rfl⟩⟩
  | faultProbability =>
      exact ⟨_, (Grammar.update_of_read rfl).mpr ⟨_, _, (Option.some.inj hx).symm,
        h.parseProbability, rfl⟩⟩
  | faultDirection =>
      exact ⟨_, (Grammar.update_of_read rfl).mpr ⟨_, _, (Option.some.inj hx).symm,
        parseDirections_valueOf, rfl⟩⟩
  | unsafeAllowNonLoopbackListen | unsafeAllowNonLoopbackUpstream =>
      simp only [valueOf] at hx
      split_ifs at hx
      exact ⟨_, (Grammar.update_of_flag rfl).mpr ⟨(Option.some.inj hx).symm, rfl⟩⟩
  | maxConnections => exact update_size rfl hmax hx
  | bufferBytes => exact update_size rfl hbuffer hx
  | lowWaterBytes => exact update_size rfl hlow hx
  | highWaterBytes => exact update_size rfl hhigh hx
  | socketBufferBytes => exact update_size rfl hsocket hx
  | faultRateBytesPerSec => exact update_size rfl hrate hx
  | faultBurstBytes => exact update_size rfl hburst hx
  | connectTimeoutMs => exact update_size rfl (hduration _ hconnect.2) hx
  | idleTimeoutMs => exact update_size rfl (hduration _ hidle.2) hx
  | faultLatencyMs => exact update_size rfl (hduration _ hlatency.2) hx
  | faultJitterMs => exact update_size rfl (hduration _ hjitter.2) hx
  | faultSeed => exact update_size rfl (hword _) hx
  | faultResetAfterBytes => exact update_size rfl (hword _) hx
  | faultHalfCloseAfterBytes => exact update_size rfl (hword _) hx

/-- **What is written is read back.** -/
lemma Writable.proxySettingsOf (h : config.Writable fromCharsDouble probability) :
    proxySettingsOf fromCharsDouble (fun key => (config.valueOf probability key).map (·.getD "")) =
      { config, bufferWasSet := true, lowWaterWasSet := true, highWaterWasSet := true } := by
  obtain ⟨hmax, hbuffer, hlow, hhigh, hsocket, hrate, hburst⟩ : _ ∧ _ ∧ _ ∧ _ ∧ _ ∧ _ ∧ _ := by
    simpa using h.sizes
  obtain ⟨hconnect, hidle, hlatency, hjitter⟩ : _ ∧ _ ∧ _ ∧ _ := by simpa using h.durations
  have hsize : ∀ {n : ℕ}, n < 2 ^ 64 →
      ∀ name default, sizeOr name default (some (toString n)) = n :=
    fun hn name default => sizeOr_some (parseSize_toString hn name)
  have hduration : ∀ {t : ℤ}, 0 ≤ t ∧ t < 2 ^ 63 → ∀ name default,
      milliseconds (sizeOr name default (some (toString t.toNat))) = t := by
    intro t ht name default
    rw [hsize (by omega), milliseconds_toNat ht]
  have hword : ∀ (n : UInt64) name default,
      UInt64.ofNat (sizeOr name default (some (toString n.toNat))) = n := by
    intro n name default
    rw [hsize (UInt64.toNat_lt n), UInt64.ofNat_toNat]
  have hlisten := parse_toString_of_isAddress h.listen.1 h.listen.2
  have hupstream := parse_toString_of_isAddress h.upstream.1 h.upstream.2
  simp only [NetFault.proxySettingsOf, valueOf, Option.map_some, Option.getD_some,
    Option.isSome_some, readOr_some hlisten, readOr_some hupstream, readOr_some h.parseProbability,
    readOr_some parseDirections_valueOf, hsize hmax, hsize hbuffer, hsize hlow, hsize hhigh,
    hsize hsocket, hsize hrate, hsize hburst, hduration hconnect, hduration hidle,
    hduration hlatency, hduration hjitter, hword]
  rcases config with ⟨_, _, _, _, _, _, _, _, _, _, _, listen, upstream⟩
  cases listen <;> cases upstream <;> rfl

/-- The settings of a configuration, in the order of the help. -/
def settings (config : ProxyConfig) (probability : String) : List (Setting ProxyOption) :=
  settingsOf ProxyOption.all (config.valueOf probability)

end ProxyConfig

end Writable

/-- **Command lines are read back.**  Every configuration that can be written down is what `main`
starts with, or refuses to, when it is written down option by option, in any order. -/
theorem proxy_command_line_round_trip (fromCharsDouble : FromCharsDouble) (probability : String)
    (config : ProxyConfig) (h : config.Writable fromCharsDouble probability)
    (xs : List (Setting ProxyOption)) (hperm : xs.Perm (config.settings probability)) :
    proxyMain fromCharsDouble (xs.flatMap (·.words (proxyGrammar fromCharsDouble))) =
      match config.validate with
      | .error e => .failed (config.warnings ++ [proxyFailure e.what])
      | .ok () => .run config.warnings config := by
  have hkeys : ((config.settings probability).map Setting.key).Nodup :=
    nodup_settingsOf (by decide) _
  have hmem : ∀ x ∈ xs, config.valueOf probability x.key = some x.value := fun x hx =>
    (mem_settingsOf.mp (hperm.subset hx)).2
  have hgiven : given xs = fun key => (config.valueOf probability key).map (·.getD "") := by
    rw [given_perm hperm (((hperm.map _).nodup_iff).mpr hkeys)]
    funext key
    exact given_settingsOf (by decide) (fun key => by cases key <;> decide) _ key
  have hconfig : proxyConfigOf fromCharsDouble xs = config := by
    rw [proxyConfigOf, hgiven, h.proxySettingsOf]
    rfl
  have hwords : (xs.flatMap (·.words (proxyGrammar fromCharsDouble))).map cString =
      xs.flatMap (·.words (proxyGrammar fromCharsDouble)) := by
    rw [List.map_congr_left fun word hword => cString_of_not_mem ?_, List.map_id']
    obtain ⟨x, hx, hword⟩ := List.mem_flatMap.mp hword
    rcases List.mem_cons.mp hword with rfl | hword
    · exact not_nul_mem_name x.key
    · exact h.not_nul_mem ((hmem x hx).trans (congrArg some (Option.mem_toList.mp hword)))
  rw [← hconfig, ← launch_proxyConfigOf]
  refine proxyMain_eq_iff.mpr ⟨xs, [], .done, by simpa using hwords,
    fun x hx => h.accepts (hmem x hx), .done, ?_⟩
  rfl

/-- A proxy on the loopback network that delays half of its connections. -/
def halfDelayed : ProxyConfig :=
  { listen := { host := "127.0.0.1", port := 8081 }, metricsFile := "metrics.json"
    faults := { masterSeed := 42, applyProbability := 1 / 2, latency := 20, jitter := 5 } }

/-- Half of the connections are delayed; the options come in the reverse of the order in which
`settings` writes them. -/
theorem proxy_command_line_round_trip_reversed :
    proxyMain (fun text => if text = "0.5" then some (.finite (1 / 2)) else none)
      ((halfDelayed.settings "0.5").reverse.flatMap (·.words (proxyGrammar fun text =>
        if text = "0.5" then some (.finite (1 / 2)) else none))) = .run [] halfDelayed := by
  have hwritable : halfDelayed.Writable
      (fun text => if text = "0.5" then some (.finite (1 / 2)) else none) "0.5" :=
    { listen := ⟨⟨127, 0, 0, 1, by simp [Octets], by decide +kernel⟩, by decide⟩
      upstream := ⟨⟨127, 0, 0, 1, by simp [Octets], by decide +kernel⟩, by decide⟩
      sizes := by decide
      durations := by decide
      metricsFile := by decide
      probability := ⟨rfl, by decide +kernel, by decide +kernel, by decide⟩ }
  have hrun := proxy_command_line_round_trip _ "0.5" halfDelayed hwritable _ (List.reverse_perm _)
  have hvalid : halfDelayed.validate = .ok () := by decide +kernel
  have hwarnings : halfDelayed.warnings = [] := by decide +kernel
  simpa only [hvalid, hwarnings] using hrun

end NetFault
