import NetFault.Arguments
import NetFault.Workload.Server

/-!
# The command lines of the server and of the client

Both programs talk to the loopback network only and put limits on what they can be asked for.  What
the other modules assume of a worker's configuration holds of every command line that is accepted:
`server_command_line` and `client_command_line` say which these are and what they come to.
-/

namespace NetFault

open CommandLine

/-! ## The server -/

inductive ServerOption
  | listen
  | mode
  | delayMs
  | chunkBytes
  | sendBytes
  deriving DecidableEq, Repr

/-- The variables of the server's `main` that the loop changes. -/
structure ServerSettings where
  listenEndpoint : Endpoint := { host := "127.0.0.1", port := 9000 }
  config : ServerConfig := {}
  deriving DecidableEq

namespace Server

/-- `parse_size` of the server. -/
def parseSize (text name : String) (allowZero : Bool) : Except String ℕ :=
  let parsed := fromCharsSize text.toList
  if parsed.error ≠ .none ∨ parsed.rest ≠ [] ∨ (!allowZero ∧ parsed.value = 0) then
    .error (name ++ " must be a valid integer")
  else .ok parsed.value

def parseMode (mode : String) : Except String ServerMode :=
  if mode = "echo" then .ok .echo
  else if mode = "slow-reader" then .ok .slowReader
  else if mode = "slow-writer" then .ok .slowWriter
  else if mode = "read-until-eof" then .ok .readUntilEof
  else if mode = "send-then-half-close" then .ok .sendThenHalfClose
  else
    .error "mode must be echo, slow-reader, slow-writer, read-until-eof, or send-then-half-close"

end Server

namespace ServerOption

def name : ServerOption → String
  | listen => "--listen"
  | mode => "--mode"
  | delayMs => "--delay-ms"
  | chunkBytes => "--chunk-bytes"
  | sendBytes => "--send-bytes"

def action : ServerOption → Action ServerSettings
  | listen => .value fun text =>
      (Endpoint.parse text).map fun endpoint s => { s with listenEndpoint := endpoint }
  | mode => .value fun text =>
      (Server.parseMode text).map fun mode s => { s with config.mode := mode }
  | delayMs => .value fun text => (Server.parseSize text "delay_ms" true).map fun n s =>
      { s with config.delay := milliseconds n }
  | chunkBytes => .value fun text => (Server.parseSize text "chunk_bytes" false).map fun n s =>
      { s with config.chunkBytes := n }
  | sendBytes => .value fun text => (Server.parseSize text "send_bytes" false).map fun n s =>
      { s with config.sendBytes := n }

end ServerOption

def serverGrammar : Grammar ServerOption ServerSettings where
  all := [.listen, .mode, .delayMs, .chunkBytes, .sendBytes]
  name := ServerOption.name
  action := ServerOption.action
  stop := "--help"
  mem_all key := by cases key <;> simp
  nodup := by decide

/-- What a workload program does once it has read its arguments: it shows the help, fails with a
line on the standard error, or goes to work. -/
inductive WorkloadLaunch (α : Type)
  | help
  | failed (stderr : String)
  | run (work : α)
  deriving DecidableEq

/-- The checks of the server's `main` after its loop. -/
def ServerSettings.check (s : ServerSettings) : Except String Unit :=
  match s.listenEndpoint.isLoopback with
  | none => .error "invalid numeric IPv4 address"
  | some loopback =>
      if !loopback then .error "the Milestone 1 server only permits loopback listeners"
      else if s.config.delay > 60000 ∨ s.config.chunkBytes > 1048576 then
        .error "delay must be at most 60000 ms and chunk size at most 1048576 bytes"
      else if s.config.sendBytes > 16777216 then .error "send_bytes must be at most 16777216"
      else .ok ()

/-- What `main` does after its loop, before it opens a socket. -/
def launchChecked {α : Type} (program : String) (check : α → Except String Unit) :
    Except CommandLine.Error (Option α) → WorkloadLaunch α
  | .error e => .failed (program ++ ": " ++ argumentError e)
  | .ok none => .help
  | .ok (some s) =>
      match check s with
      | .error what => .failed (program ++ ": " ++ what)
      | .ok () => .run s

def serverMain (argv : List String) : WorkloadLaunch ServerSettings :=
  launchChecked "netfault-server" ServerSettings.check (serverGrammar.parse (argv.map cString) {})

/-! ## The client -/

inductive ClientOption
  | connect
  | connections
  | payloadBytes
  | mode
  | requests
  | warmup
  | requestBytes
  | seed
  deriving DecidableEq, Repr

inductive ClientMode
  | bulk
  | requestResponse
  deriving DecidableEq, Repr

/-- The variables of the client's `main`. -/
structure ClientSettings where
  endpoint : Endpoint := { host := "127.0.0.1", port := 8080 }
  mode : ClientMode := .bulk
  connectionCount : ℕ := 1
  payloadBytes : ℕ := 4096
  requests : ℕ := 100
  warmup : ℕ := 5
  requestBytes : ℕ := 1024
  seed : UInt64 := 12345
  deriving DecidableEq

namespace Client

/-- `parse_size` of the client. -/
def parseSize (text name : String) : Except String ℕ :=
  let parsed := fromCharsSize text.toList
  if parsed.error ≠ .none ∨ parsed.rest ≠ [] ∨ parsed.value = 0 then
    .error (name ++ " must be a positive integer")
  else .ok parsed.value

def parseSeed (text : String) : Except String UInt64 :=
  let parsed := fromCharsSize text.toList
  if parsed.error ≠ .none ∨ parsed.rest ≠ [] then .error "seed must be an unsigned integer"
  else .ok (UInt64.ofNat parsed.value)

/-- The branch of `--mode`. -/
def parseMode (value : String) : Except String ClientMode :=
  if value = "bulk" then .ok .bulk
  else if value = "request-response" then .ok .requestResponse
  else .error "mode must be bulk or request-response"

end Client

namespace ClientOption

def name : ClientOption → String
  | connect => "--connect"
  | connections => "--connections"
  | payloadBytes => "--payload-bytes"
  | mode => "--mode"
  | requests => "--requests"
  | warmup => "--warmup"
  | requestBytes => "--request-bytes"
  | seed => "--seed"

def action : ClientOption → Action ClientSettings
  | connect => .value fun text =>
      (Endpoint.parse text).map fun endpoint s => { s with endpoint }
  | connections => .value fun text => (Client.parseSize text "connections").map fun n s =>
      { s with connectionCount := n }
  | payloadBytes => .value fun text => (Client.parseSize text "payload_bytes").map fun n s =>
      { s with payloadBytes := n }
  | mode => .value fun text => (Client.parseMode text).map fun mode s => { s with mode }
  | requests => .value fun text => (Client.parseSize text "requests").map fun n s =>
      { s with requests := n }
  | warmup => .value fun text => (Client.parseSize text "warmup").map fun n s =>
      { s with warmup := n }
  | requestBytes => .value fun text => (Client.parseSize text "request_bytes").map fun n s =>
      { s with requestBytes := n }
  | seed => .value fun text => (Client.parseSeed text).map fun seed s => { s with seed }

end ClientOption

def clientGrammar : Grammar ClientOption ClientSettings where
  all := [.connect, .connections, .payloadBytes, .mode, .requests, .warmup, .requestBytes, .seed]
  name := ClientOption.name
  action := ClientOption.action
  stop := "--help"
  mem_all key := by cases key <;> simp
  nodup := by decide

/-- The checks of the client's `main` after its loop.  The product of the last one is that of a
`std::size_t`. -/
def ClientSettings.check (s : ClientSettings) : Except String Unit :=
  match s.endpoint.isLoopback with
  | none => .error "invalid numeric IPv4 address"
  | some loopback =>
      if !loopback then .error "the client only permits loopback destinations"
      else if s.connectionCount > 1024 ∨ s.payloadBytes > 67108864 then
        .error "requested workload exceeds the safety limit"
      else if s.requests > 100000 ∨ s.warmup > 1000 ∨ s.requestBytes > 1048576 ∨
          u64 (s.connectionCount * s.requests) > 1000000 then
        .error "requested benchmark exceeds the sample safety limit"
      else .ok ()

def clientMain (argv : List String) : WorkloadLaunch ClientSettings :=
  launchChecked "netfault-client" ClientSettings.check (clientGrammar.parse (argv.map cString) {})

/-! ## What the settings come to -/

section Launch

variable {κ α : Type} [DecidableEq κ] {g : Grammar κ α}

/-- **How a workload program ends its start**, and after which settings. -/
lemma launchChecked_parse (program : String) (check : α → Except String Unit)
    (state : (κ → Option String) → α)
    (hupdate : ∀ given x set, g.update x = some set →
      set (state given) = state (Function.update given x.key (some x.text))) (argv : List String) :
    (∀ s, launchChecked program check (g.parse argv (state fun _ => none)) = .run s ↔
      ∃ xs, argv = xs.flatMap (·.words g) ∧ g.Accepts xs ∧ s = state (given xs) ∧
        check s = .ok ()) ∧
    (launchChecked program check (g.parse argv (state fun _ => none)) = .help ↔
      ∃ xs rest, argv = xs.flatMap (·.words g) ++ g.stop :: rest ∧ g.Accepts xs) ∧
    ∀ stderr, launchChecked program check (g.parse argv (state fun _ => none)) = .failed stderr ↔
      (∃ xs rest e, argv = xs.flatMap (·.words g) ++ rest ∧ g.Accepts xs ∧ g.Ends rest (.failed e) ∧
        stderr = program ++ ": " ++ argumentError e) ∨
      ∃ xs what, argv = xs.flatMap (·.words g) ∧ g.Accepts xs ∧
        check (state (given xs)) = .error what ∧ stderr = program ++ ": " ++ what := by
  refine ⟨fun s => ?_, ?_, fun stderr => ?_⟩
  · rw [Grammar.launch_parse_iff _ state hupdate]
    constructor
    · rintro ⟨xs, rest, ending, rfl, haccepts, hends, hlaunch⟩
      cases hends with
      | done =>
          rcases hcheck : check (state (given xs)) with what | ⟨⟩ <;>
            simp only [Grammar.Ending.outcome, launchChecked, hcheck, reduceCtorEq,
              WorkloadLaunch.run.injEq] at hlaunch
          exact ⟨xs, List.append_nil _, haccepts, hlaunch, hlaunch ▸ hcheck⟩
      | stopped | unknown | missing | rejected => cases hlaunch
    · rintro ⟨xs, rfl, haccepts, rfl, hcheck⟩
      refine ⟨xs, [], .done, (List.append_nil _).symm, haccepts, .done, ?_⟩
      simp only [Grammar.Ending.outcome, launchChecked, hcheck]
  · rw [Grammar.launch_parse_iff _ state hupdate]
    constructor
    · rintro ⟨xs, rest, ending, rfl, haccepts, hends, hlaunch⟩
      cases hends with
      | done =>
          rcases hcheck : check (state (given xs)) with what | ⟨⟩ <;>
            simp [Grammar.Ending.outcome, launchChecked, hcheck] at hlaunch
      | stopped rest => exact ⟨xs, rest, rfl, haccepts⟩
      | unknown | missing | rejected => cases hlaunch
    · rintro ⟨xs, rest, rfl, haccepts⟩
      exact ⟨xs, _, .stopped, rfl, haccepts, .stopped rest, rfl⟩
  · rw [Grammar.launch_parse_iff _ state hupdate]
    constructor
    · rintro ⟨xs, rest, _ | _ | e, rfl, haccepts, hends, hlaunch⟩
      · cases hends
        rcases hcheck : check (state (given xs)) with what | ⟨⟩ <;>
          simp only [Grammar.Ending.outcome, launchChecked, hcheck, reduceCtorEq,
            WorkloadLaunch.failed.injEq] at hlaunch
        exact .inr ⟨xs, what, List.append_nil _, haccepts, hcheck, hlaunch⟩
      · cases hlaunch
      · exact .inl ⟨xs, rest, e, rfl, haccepts, hends, WorkloadLaunch.failed.inj hlaunch⟩
    · rintro (⟨xs, rest, e, rfl, haccepts, hends, rfl⟩ | ⟨xs, what, rfl, haccepts, hcheck, rfl⟩)
      · exact ⟨xs, rest, .failed e, rfl, haccepts, hends, rfl⟩
      · refine ⟨xs, [], .done, (List.append_nil _).symm, haccepts, .done, ?_⟩
        simp only [Grammar.Ending.outcome, launchChecked, hcheck]

end Launch

/-- The state of the server's `main` after some settings. -/
def serverSettingsOf (given : ServerOption → Option String) : ServerSettings where
  listenEndpoint := readOr Endpoint.parse { host := "127.0.0.1", port := 9000 } (given .listen)
  config :=
    { mode := readOr Server.parseMode .echo (given .mode)
      delay := milliseconds (readOr (Server.parseSize · "delay_ms" true) 0 (given .delayMs))
      chunkBytes := readOr (Server.parseSize · "chunk_bytes" false) 16384 (given .chunkBytes)
      sendBytes := readOr (Server.parseSize · "send_bytes" false) 65536 (given .sendBytes) }

lemma serverSettingsOf_update (given : ServerOption → Option String) (x : Setting ServerOption)
    (set : ServerSettings → ServerSettings) (h : serverGrammar.update x = some set) :
    set (serverSettingsOf given) =
      serverSettingsOf (Function.update given x.key (some x.text)) := by
  obtain ⟨key, value⟩ := x
  cases key with
  | listen | mode | delayMs | chunkBytes | sendBytes =>
      obtain ⟨text, value, rfl, hread, rfl⟩ := (Grammar.update_of_read rfl).mp h
      simp [serverSettingsOf, Setting.text, readOr, hread, Except.toOption]

/-- The state of the client's `main` after some settings. -/
def clientSettingsOf (given : ClientOption → Option String) : ClientSettings where
  endpoint := readOr Endpoint.parse { host := "127.0.0.1", port := 8080 } (given .connect)
  mode := readOr Client.parseMode .bulk (given .mode)
  connectionCount := readOr (Client.parseSize · "connections") 1 (given .connections)
  payloadBytes := readOr (Client.parseSize · "payload_bytes") 4096 (given .payloadBytes)
  requests := readOr (Client.parseSize · "requests") 100 (given .requests)
  warmup := readOr (Client.parseSize · "warmup") 5 (given .warmup)
  requestBytes := readOr (Client.parseSize · "request_bytes") 1024 (given .requestBytes)
  seed := readOr Client.parseSeed 12345 (given .seed)

lemma clientSettingsOf_update (given : ClientOption → Option String) (x : Setting ClientOption)
    (set : ClientSettings → ClientSettings) (h : clientGrammar.update x = some set) :
    set (clientSettingsOf given) =
      clientSettingsOf (Function.update given x.key (some x.text)) := by
  obtain ⟨key, value⟩ := x
  cases key with
  | connect | connections | payloadBytes | mode | requests | warmup | requestBytes | seed =>
      obtain ⟨text, value, rfl, hread, rfl⟩ := (Grammar.update_of_read rfl).mp h
      simp [clientSettingsOf, Setting.text, readOr, hread, Except.toOption]

/-! ## What is accepted -/

lemma Server.parseSize_pos {text name : String} {n : ℕ} (h : parseSize text name false = .ok n) :
    0 < n := by
  simp only [parseSize, Bool.not_false, true_and] at h
  split_ifs at h with hrejected
  rw [← Except.ok.inj h]
  exact Nat.pos_of_ne_zero fun hzero => hrejected (.inr (.inr hzero))

lemma Client.parseSize_pos {text name : String} {n : ℕ} (h : parseSize text name = .ok n) :
    0 < n := by
  simp only [parseSize] at h
  split_ifs at h with hrejected
  rw [← Except.ok.inj h]
  exact Nat.pos_of_ne_zero fun hzero => hrejected (.inr (.inr hzero))

/-- What the workers of a server rely on. -/
structure ServerSettings.Fit (s : ServerSettings) : Prop where
  loopback : s.listenEndpoint.isLoopback = some true
  delay : -(2 ^ 63) ≤ s.config.delay ∧ s.config.delay ≤ 60000
  chunkBytes : 0 < s.config.chunkBytes ∧ s.config.chunkBytes ≤ 1048576
  sendBytes : 0 < s.config.sendBytes ∧ s.config.sendBytes ≤ 16777216

/-- **The checks of the server** leave what its workers rely on. -/
lemma serverSettingsOf_fit {given : ServerOption → Option String}
    (h : (serverSettingsOf given).check = .ok ()) : (serverSettingsOf given).Fit := by
  have hchunk : 0 < (serverSettingsOf given).config.chunkBytes :=
    readOr_rule (fun n => 0 < n) (by decide) (fun _ _ => Server.parseSize_pos) _
  have hsend : 0 < (serverSettingsOf given).config.sendBytes :=
    readOr_rule (fun n => 0 < n) (by decide) (fun _ _ => Server.parseSize_pos) _
  have hdelay : IsInt64 (serverSettingsOf given).config.delay := by
    simp only [serverSettingsOf]
    exact isInt64_milliseconds _
  rw [ServerSettings.check] at h
  rcases hloop : (serverSettingsOf given).listenEndpoint.isLoopback with _ | loopback
  · simp [hloop] at h
  · simp only [hloop] at h
    split_ifs at h with hfirst hsecond hthird
    obtain rfl : loopback = true := by simpa using hfirst
    simp only [not_or, not_lt] at hsecond hthird
    exact ⟨hloop, ⟨hdelay.1, hsecond.1⟩, ⟨hchunk, hsecond.2⟩, ⟨hsend, hthird⟩⟩

/-- **What a command line of `netfault-server` comes to.**  For all arguments, the server goes to
work if and only if they are settings with values that are accepted, one after the other, and what
the last setting of each option comes to, with the defaults of `main`, passes the checks; its
listener is then on the loopback network and its sizes are positive and bounded.  A delay of 2^63
milliseconds or more is taken for a negative one and passes.  The help is shown if and only if
`--help` comes after such settings; and `main` fails with one line, for the first argument that it
cannot accept or the first check that is not passed. -/
theorem server_command_line (argv : List String) :
    (∀ s, serverMain argv = .run s ↔
      ∃ xs, argv.map cString = xs.flatMap (·.words serverGrammar) ∧ serverGrammar.Accepts xs ∧
        s = serverSettingsOf (given xs) ∧ s.check = .ok ()) ∧
    (∀ s, serverMain argv = .run s → s.Fit) ∧
    (serverMain argv = .help ↔ ∃ xs rest, argv.map cString =
        xs.flatMap (·.words serverGrammar) ++ "--help" :: rest ∧ serverGrammar.Accepts xs) ∧
    ∀ stderr, serverMain argv = .failed stderr ↔
      (∃ xs rest e, argv.map cString = xs.flatMap (·.words serverGrammar) ++ rest ∧
        serverGrammar.Accepts xs ∧ serverGrammar.Ends rest (.failed e) ∧
        stderr = "netfault-server: " ++ argumentError e) ∨
      ∃ xs what, argv.map cString = xs.flatMap (·.words serverGrammar) ∧
        serverGrammar.Accepts xs ∧ (serverSettingsOf (given xs)).check = .error what ∧
        stderr = "netfault-server: " ++ what := by
  obtain ⟨hrun, hhelp, hfailed⟩ := launchChecked_parse "netfault-server" ServerSettings.check
    serverSettingsOf serverSettingsOf_update (argv.map cString)
  refine ⟨hrun, fun s hs => ?_, hhelp, hfailed⟩
  obtain ⟨xs, -, -, rfl, hcheck⟩ := (hrun s).mp hs
  exact serverSettingsOf_fit hcheck

-- one delay is refused, and a longer one is taken for a negative one
example :
    serverMain ["--delay-ms", "60001"] = .failed
        "netfault-server: delay must be at most 60000 ms and chunk size at most 1048576 bytes" ∧
      serverMain ["--mode", "slow-reader", "--delay-ms", "9223372036854775808"] =
        .run { config := { mode := .slowReader, delay := -9223372036854775808 } } := by
  decide +kernel

/-- What the connections of a client rely on. -/
structure ClientSettings.Fit (s : ClientSettings) : Prop where
  loopback : s.endpoint.isLoopback = some true
  connectionCount : 0 < s.connectionCount ∧ s.connectionCount ≤ 1024
  payloadBytes : 0 < s.payloadBytes ∧ s.payloadBytes ≤ 67108864
  requests : 0 < s.requests ∧ s.requests ≤ 100000
  warmup : 0 < s.warmup ∧ s.warmup ≤ 1000
  requestBytes : 0 < s.requestBytes ∧ s.requestBytes ≤ 1048576
  samples : s.connectionCount * s.requests ≤ 1000000

/-- **The checks of the client**; the factors of the product are checked before it, so it cannot
wrap. -/
lemma clientSettingsOf_fit {given : ClientOption → Option String}
    (h : (clientSettingsOf given).check = .ok ()) : (clientSettingsOf given).Fit := by
  have hpos : ∀ name default given, 0 < default →
      0 < readOr (Client.parseSize · name) default given := fun name default given hdefault =>
    readOr_rule (fun n => 0 < n) hdefault (fun _ _ => Client.parseSize_pos) given
  rw [ClientSettings.check] at h
  rcases hloop : (clientSettingsOf given).endpoint.isLoopback with _ | loopback
  · simp [hloop] at h
  · simp only [hloop] at h
    split_ifs at h with hfirst hsecond hthird
    obtain rfl : loopback = true := by simpa using hfirst
    simp only [not_or, not_lt] at hsecond hthird
    obtain ⟨hconnections, hpayload⟩ := hsecond
    obtain ⟨hrequests, hwarmup, hbytes, hsamples⟩ := hthird
    have hproduct := Nat.mul_le_mul hconnections hrequests
    rw [u64_of_lt (by omega)] at hsamples
    exact ⟨hloop, ⟨hpos _ _ _ (by decide), hconnections⟩,
      ⟨hpos _ _ _ (by decide), hpayload⟩, ⟨hpos _ _ _ (by decide), hrequests⟩,
      ⟨hpos _ _ _ (by decide), hwarmup⟩, ⟨hpos _ _ _ (by decide), hbytes⟩, hsamples⟩

/-- **What a command line of `netfault-client` comes to.**  The same as for the server; what the
client goes to work with is positive, bounded, and asks for no more than a million samples. -/
theorem client_command_line (argv : List String) :
    (∀ s, clientMain argv = .run s ↔
      ∃ xs, argv.map cString = xs.flatMap (·.words clientGrammar) ∧ clientGrammar.Accepts xs ∧
        s = clientSettingsOf (given xs) ∧ s.check = .ok ()) ∧
    (∀ s, clientMain argv = .run s → s.Fit) ∧
    (clientMain argv = .help ↔ ∃ xs rest, argv.map cString =
        xs.flatMap (·.words clientGrammar) ++ "--help" :: rest ∧ clientGrammar.Accepts xs) ∧
    ∀ stderr, clientMain argv = .failed stderr ↔
      (∃ xs rest e, argv.map cString = xs.flatMap (·.words clientGrammar) ++ rest ∧
        clientGrammar.Accepts xs ∧ clientGrammar.Ends rest (.failed e) ∧
        stderr = "netfault-client: " ++ argumentError e) ∨
      ∃ xs what, argv.map cString = xs.flatMap (·.words clientGrammar) ∧
        clientGrammar.Accepts xs ∧ (clientSettingsOf (given xs)).check = .error what ∧
        stderr = "netfault-client: " ++ what := by
  obtain ⟨hrun, hhelp, hfailed⟩ := launchChecked_parse "netfault-client" ClientSettings.check
    clientSettingsOf clientSettingsOf_update (argv.map cString)
  refine ⟨hrun, fun s hs => ?_, hhelp, hfailed⟩
  obtain ⟨xs, -, -, rfl, hcheck⟩ := (hrun s).mp hs
  exact clientSettingsOf_fit hcheck

-- the last setting of an option counts, and the samples are bounded together
example :
    clientMain ["--requests", "0x7"] = .failed
        "netfault-client: requests must be a positive integer" ∧
      clientMain ["--requests", "7", "--seed", "1", "--requests", "2000"] =
        .run { requests := 2000, seed := 1 } ∧
      clientMain ["--requests", "2000", "--connections", "501"] = .failed
        "netfault-client: requested benchmark exceeds the sample safety limit" := by
  decide +kernel

end NetFault
