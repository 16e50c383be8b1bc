import Gocbcore.AgentConfig
import Gocbcore.Blocks

/-!
# `FromConnStr`

`(*AgentConfig).FromConnStr` parses and resolves a connection string with the
`gocbconnstr` library, then runs its body, block by block, on the receiver. Each block
of the body reads the resolved connection string, possibly returns an error, and
otherwise assigns fields of the config. `connStrBlocks` lists the blocks in the order
of the source, and `fromConnStr` runs them with `runBlocks`.

Twenty of the blocks have one shape: fetch the last value of an option, parse it, return
a fixed error if the parse fails, assign a field otherwise. Each is an `OptionCheck`, the
option's name, parser, error text and field as the source has them, and `optionChecks`
lists them in the source's order; `optionBlock` is the shape they share. The hosts, TLS,
bucket and `network` blocks have bodies of their own.

What `FromConnStr` calls outside the repository is a parameter, `Env`: `Parse`,
`Resolve`, `ioutil.ReadFile`, `AppendCertsFromPEM` and `strconv.ParseFloat`. The
result of `Parse` is only handed to `Resolve`, so its type is a parameter too.
-/

namespace Gocbcore

/-- A Go `error`: the text of an `errors.New` or `fmt.Errorf` error, or the package's
`errInvalidCertificate`, which is declared outside the source. -/
inductive Error where
  | new (text : String)
  | invalidCertificate
  deriving DecidableEq, Repr

/-- A `gocbconnstr.Address`. -/
structure Address where
  host : String
  port : Int
  deriving DecidableEq, Repr

/-- `fmt.Sprintf("%s:%d", specHost.Host, specHost.Port)`. -/
def Address.hostPort (address : Address) : String :=
  address.host ++ ":" ++ toString address.port

/-- A `gocbconnstr.ResolvedConnSpec`. The options map is a function: a name missing
from the map reads as the `nil` slice. -/
structure ResolvedConnSpec where
  useSsl : Bool
  memdHosts : List Address
  httpHosts : List Address
  bucket : String
  options : String → List String

/-- The functions `FromConnStr` calls outside the repository. -/
structure Env (BaseSpec : Type) where
  /-- `gocbconnstr.Parse`. -/
  parse : String → Except Error BaseSpec
  /-- `gocbconnstr.Resolve`. -/
  resolve : BaseSpec → Except Error ResolvedConnSpec
  /-- `ioutil.ReadFile`. -/
  readFile : String → Except Error (List UInt8)
  /-- `(*x509.CertPool).AppendCertsFromPEM`: the pool after the call, and whether a
  certificate was appended. -/
  appendCertsFromPEM : CertPool → List UInt8 → CertPool × Bool
  /-- `strconv.ParseFloat(s, 64)`. -/
  parseFloat : String → Option Float

/-- The `fetchOption` closure: the last value given for an option. -/
def fetchOption (spec : ResolvedConnSpec) (name : String) : Option String :=
  (spec.options name).getLast?

/-- A block of `FromConnStr`. -/
abbrev ConfigBlock := Block AgentConfig Error

/-- The hosts block: the resolved hosts as `host:port` strings, cleared or checked as
`bootstrap_on` asks, then assigned to `MemdAddrs` and `HTTPAddrs`. -/
def bootstrapBlock (spec : ResolvedConnSpec) : ConfigBlock :=
  let httpHosts := spec.httpHosts.map Address.hostPort
  let memdHosts := spec.memdHosts.map Address.hostPort
  match (fetchOption spec "bootstrap_on").getD "" with
  | "http" =>
      if httpHosts.length = 0 then
        .error (.new "bootstrap_on=http but no HTTP hosts in connection string")
      else .ok fun config => { config with memdAddrs := [], httpAddrs := httpHosts }
  | "cccp" =>
      if memdHosts.length = 0 then
        .error (.new "bootstrap_on=cccp but no CCCP/Memcached hosts in connection string")
      else .ok fun config => { config with memdAddrs := memdHosts, httpAddrs := [] }
  | "both" | "" => .ok fun config => { config with memdAddrs := memdHosts, httpAddrs := httpHosts }
  | _ => .error (.new "bootstrap_on=\x7bhttp,cccp,both\x7d")

/-- The loop over the `ca_cert_path` values: each file is read and its certificates
appended to `roots`; the first file that cannot be read, or adds no certificate, ends
the loop with an error. -/
def appendCACertFiles {BaseSpec : Type} (env : Env BaseSpec) (roots : CertPool) :
    List String → Except Error CertPool
  | [] => .ok roots
  | path :: paths =>
      match env.readFile path with
      | .error err => .error err
      | .ok cacert =>
          match env.appendCertsFromPEM roots cacert with
          | (roots, true) => appendCACertFiles env roots paths
          | (_, false) => .error .invalidCertificate

/-- The TLS block: with `UseSsl`, either a root pool built from every `ca_cert_path`
value, or `TLSSkipVerify` when there is none; then `UseTLS`. -/
def tlsBlock {BaseSpec : Type} (env : Env BaseSpec) (spec : ResolvedConnSpec) : ConfigBlock :=
  if spec.useSsl then
    let cacertpaths := spec.options "ca_cert_path"
    if cacertpaths.length > 0 then
      match appendCACertFiles env newCertPool cacertpaths with
      | .error err => .error err
      | .ok roots => .ok fun config => { config with tlsRootCAs := some roots, useTLS := true }
    else .ok fun config => { config with tlsSkipVerify := true, useTLS := true }
  else .ok id

/-- The bucket block: a nonempty bucket name replaces the config's. -/
def bucketBlock (spec : ResolvedConnSpec) : ConfigBlock :=
  if spec.bucket ≠ "" then .ok fun config => { config with bucketName := spec.bucket }
  else .ok id

/-- The `network` block; `default` is the empty network type. It has no error. -/
def networkBlock (spec : ResolvedConnSpec) : ConfigBlock :=
  match fetchOption spec "network" with
  | none => .ok id
  | some valStr =>
      .ok fun config => { config with networkType := if valStr = "default" then "" else valStr }

/-- The blocks `if valStr, ok := fetchOption(name); ok { ... }`: parse the option's last
value with `decode`, return `message` if that fails, and `assign` the value otherwise. -/
def optionBlock {α : Type} (spec : ResolvedConnSpec) (name : String)
    (decode : String → Option α) (message : String) (assign : α → AgentConfig → AgentConfig) :
    ConfigBlock :=
  match fetchOption spec name with
  | none => .ok id
  | some valStr =>
      match decode valStr with
      | none => .error (.new message)
      | some val => .ok (assign val)

/-- The `dcp_priority` switch. -/
def dcpAgentPriorityOf : String → Option DcpAgentPriority
  | "" => some .low
  | "low" => some .low
  | "medium" => some .med
  | "high" => some .high
  | _ => none

/-- One of the twenty blocks `if valStr, ok := fetchOption(name); ok { ... }`, as the
source writes it: the option's name, the parser of its last value, the text of the error
returned when the parser rejects it, and the assignment made otherwise. -/
structure OptionCheck where
  {α : Type}
  name : String
  decode : String → Option α
  message : String
  assign : α → AgentConfig → AgentConfig

/-- The block of an option check. -/
def OptionCheck.block (spec : ResolvedConnSpec) (check : OptionCheck) : ConfigBlock :=
  optionBlock spec check.name check.decode check.message check.assign

/-- The option checks of `FromConnStr`, in the order of the source. Only
`compression_min_ratio` reads a collaborator, `strconv.ParseFloat`. -/
def optionChecks {BaseSpec : Type} (env : Env BaseSpec) : List OptionCheck :=
  [⟨"kv_connect_timeout", parseInt,
     "kv_connect_timeout option must be a number",
     fun val config => { config with kvConnectTimeout := val * millisecond }⟩,
   ⟨"config_poll_timeout", parseInt,
     "config poll timeout option must be a number",
     fun val config => { config with cccpMaxWait := val * millisecond }⟩,
   ⟨"config_poll_interval", parseInt,
     "config pool interval option must be a number",
     fun val config => { config with cccpPollPeriod := val * millisecond }⟩,
   ⟨"enable_mutation_tokens", parseBool,
     "enable_mutation_tokens option must be a boolean",
     fun val config => { config with useMutationTokens := val }⟩,
   ⟨"compression", parseBool,
     "compression option must be a boolean",
     fun val config => { config with useCompression := val }⟩,
   ⟨"compression_min_size", parseInt,
     "compression_min_size option must be an int",
     fun val config => { config with compressionMinSize := val }⟩,
   ⟨"compression_min_ratio", env.parseFloat,
     "compression_min_size option must be an int",
     fun val config => { config with compressionMinRatio := val }⟩,
   ⟨"enable_server_durations", parseBool,
     "server_duration option must be a boolean",
     fun val config => { config with useDurations := val }⟩,
   ⟨"max_idle_http_connections", parseInt,
     "http max idle connections option must be a number",
     fun val config => { config with httpMaxIdleConns := val }⟩,
   ⟨"max_perhost_idle_http_connections", parseInt,
     "max_perhost_idle_http_connections option must be a number",
     fun val config => { config with httpMaxIdleConnsPerHost := val }⟩,
   ⟨"idle_http_connection_timeout", parseInt,
     "idle_http_connection_timeout option must be a number",
     fun val config => { config with httpIdleConnectionTimeout := val * millisecond }⟩,
   ⟨"orphaned_response_logging", parseBool,
     "orphaned_response_logging option must be a boolean",
     fun val config => { config with useZombieLogger := val }⟩,
   ⟨"orphaned_response_logging_interval", parseInt,
     "orphaned_response_logging_interval option must be a number",
     fun val config => { config with zombieLoggerInterval := val * millisecond }⟩,
   ⟨"orphaned_response_logging_sample_size", parseInt,
     "orphaned_response_logging_sample_size option must be a number",
     fun val config => { config with zombieLoggerSampleSize := val }⟩,
   ⟨"dcp_priority", dcpAgentPriorityOf,
     "dcp_priority must be one of low, medium or high",
     fun priority config => { config with dcpAgentPriority := priority }⟩,
   ⟨"enable_dcp_expiry", parseBool,
     "enable_dcp_expiry option must be a boolean",
     fun val config => { config with useDCPExpiry := val }⟩,
   ⟨"http_redial_period", parseInt,
     "http redial period option must be a number",
     fun val config => { config with httpRedialPeriod := val * millisecond }⟩,
   ⟨"http_retry_delay", parseInt,
     "http retry delay option must be a number",
     fun val config => { config with httpRetryDelay := val * millisecond }⟩,
   ⟨"kv_pool_size", parseInt,
     "kv pool size option must be a number",
     fun val config => { config with kvPoolSize := val }⟩,
   ⟨"max_queue_size", parseInt,
     "max queue size option must be a number",
     fun val config => { config with maxQueueSize := val }⟩]

/-- The body of `FromConnStr` after `Resolve`, block by block, in the order of the source:
the hosts, TLS, bucket and `network` blocks, then the option checks. -/
def connStrBlocks {BaseSpec : Type} (env : Env BaseSpec) (spec : ResolvedConnSpec) :
    List ConfigBlock :=
  bootstrapBlock spec :: tlsBlock env spec :: bucketBlock spec :: networkBlock spec ::
    (optionChecks env).map (OptionCheck.block spec)

/-- `(*AgentConfig).FromConnStr`: the config after the call, and the error it returns,
`none` standing for `nil`. -/
def fromConnStr {BaseSpec : Type} (env : Env BaseSpec) (config : AgentConfig)
    (connStr : String) : AgentConfig × Option Error :=
  match env.parse connStr with
  | .error err => (config, some err)
  | .ok baseSpec =>
      match env.resolve baseSpec with
      | .error err => (config, some err)
      | .ok spec => runBlocks (connStrBlocks env spec) config

/-! ## What each block can write -/

/-- A call either stops in `Parse` or `Resolve`, with the config as it was, or is the run
of the body's blocks on the resolved connection string. -/
theorem fromConnStr_cases {BaseSpec : Type} (env : Env BaseSpec) (config : AgentConfig)
    (connStr : String) :
    (∃ err, fromConnStr env config connStr = (config, some err) ∧
      (env.parse connStr = .error err ∨
        ∃ baseSpec, env.parse connStr = .ok baseSpec ∧ env.resolve baseSpec = .error err)) ∨
    ∃ baseSpec spec, env.parse connStr = .ok baseSpec ∧ env.resolve baseSpec = .ok spec ∧
      fromConnStr env config connStr = runBlocks (connStrBlocks env spec) config := by
  rcases parsed : env.parse connStr with err | baseSpec
  · exact .inl ⟨err, by simp [fromConnStr, parsed], .inl rfl⟩
  · rcases resolved : env.resolve baseSpec with err | spec
    · exact .inl ⟨err, by simp [fromConnStr, parsed, resolved], .inr ⟨baseSpec, rfl, resolved⟩⟩
    · exact .inr ⟨baseSpec, spec, rfl, resolved, by simp [fromConnStr, parsed, resolved]⟩

/-- A call that gets past `Resolve` is the run of the body. -/
theorem fromConnStr_eq_runBlocks {BaseSpec : Type} (env : Env BaseSpec) {config : AgentConfig}
    {connStr : String} {baseSpec : BaseSpec} {spec : ResolvedConnSpec}
    (parsed : env.parse connStr = .ok baseSpec) (resolved : env.resolve baseSpec = .ok spec) :
    fromConnStr env config connStr = runBlocks (connStrBlocks env spec) config := by
  simp [fromConnStr, parsed, resolved]

theorem bootstrapBlock_eq_ok {spec : ResolvedConnSpec} {write : AgentConfig → AgentConfig}
    (ok : bootstrapBlock spec = .ok write) :
    ∃ memdAddrs httpAddrs, write = fun config => { config with memdAddrs, httpAddrs } := by
  simp only [bootstrapBlock] at ok
  split at ok <;> (try split at ok) <;> cases ok <;> exact ⟨_, _, rfl⟩

theorem tlsBlock_eq_ok {BaseSpec : Type} {env : Env BaseSpec} {spec : ResolvedConnSpec}
    {write : AgentConfig → AgentConfig} (ok : tlsBlock env spec = .ok write) :
    (∃ roots, write = fun config => { config with tlsRootCAs := some roots, useTLS := true }) ∨
      write = (fun config => { config with tlsSkipVerify := true, useTLS := true }) ∨
      write = id := by
  simp only [tlsBlock] at ok
  split at ok
  · split at ok
    · split at ok
      · cases ok
      · cases ok
        exact .inl ⟨_, rfl⟩
    · cases ok
      exact .inr (.inl rfl)
  · cases ok
    exact .inr (.inr rfl)

theorem bucketBlock_eq_ok {spec : ResolvedConnSpec} {write : AgentConfig → AgentConfig}
    (ok : bucketBlock spec = .ok write) :
    write = (fun config => { config with bucketName := spec.bucket }) ∨ write = id := by
  simp only [bucketBlock] at ok
  split at ok <;> cases ok
  · exact .inl rfl
  · exact .inr rfl

theorem networkBlock_eq_ok {spec : ResolvedConnSpec} {write : AgentConfig → AgentConfig}
    (ok : networkBlock spec = .ok write) :
    (∃ networkType, write = fun config => { config with networkType }) ∨ write = id := by
  simp only [networkBlock] at ok
  split at ok <;> cases ok
  · exact .inr rfl
  · exact .inl ⟨_, rfl⟩

theorem optionBlock_eq_ok {α : Type} {spec : ResolvedConnSpec} {name : String}
    {decode : String → Option α} {message : String} {assign : α → AgentConfig → AgentConfig}
    {write : AgentConfig → AgentConfig}
    (ok : optionBlock spec name decode message assign = .ok write) :
    write = id ∨ ∃ val, write = assign val := by
  simp only [optionBlock] at ok
  split at ok
  · cases ok
    exact .inl rfl
  · split at ok <;> cases ok
    exact .inr ⟨_, rfl⟩

/-- A present option whose value parses is assigned. -/
theorem optionBlock_of_decode {α : Type} {spec : ResolvedConnSpec} {name valStr : String}
    {decode : String → Option α} {val : α} (message : String)
    (assign : α → AgentConfig → AgentConfig)
    (fetched : fetchOption spec name = some valStr) (decoded : decode valStr = some val) :
    optionBlock spec name decode message assign = .ok (assign val) := by
  simp [optionBlock, fetched, decoded]

/-! ## The errors each block returns -/

/-- The hosts block fails on `bootstrap_on=http` without HTTP hosts, on
`bootstrap_on=cccp` without memcached hosts, and on any value but `http`, `cccp`, `both`
and the empty one. -/
def BootstrapFails (spec : ResolvedConnSpec) (err : Error) : Prop :=
  let bootstrapOn := (fetchOption spec "bootstrap_on").getD ""
  (bootstrapOn = "http" ∧ spec.httpHosts = [] ∧
      err = .new "bootstrap_on=http but no HTTP hosts in connection string") ∨
  (bootstrapOn = "cccp" ∧ spec.memdHosts = [] ∧
      err = .new "bootstrap_on=cccp but no CCCP/Memcached hosts in connection string") ∨
  (bootstrapOn ≠ "http" ∧ bootstrapOn ≠ "cccp" ∧ bootstrapOn ≠ "both" ∧ bootstrapOn ≠ "" ∧
      err = .new "bootstrap_on=\x7bhttp,cccp,both\x7d")

/-- The loop over `paths` fails at a file after files that were all read and appended to
`roots`, giving `pool`: with the error of reading it, or with `errInvalidCertificate`
when what it holds adds no certificate to `pool`. -/
def CACertFileFails {BaseSpec : Type} (env : Env BaseSpec) (roots : CertPool)
    (paths : List String) (err : Error) : Prop :=
  ∃ earlier path later pool, paths = earlier ++ path :: later ∧
    appendCACertFiles env roots earlier = .ok pool ∧
    (env.readFile path = .error err ∨
      ∃ cacert, env.readFile path = .ok cacert ∧
        (env.appendCertsFromPEM pool cacert).2 = false ∧ err = .invalidCertificate)

/-- The TLS block fails only on a TLS string, at one of its `ca_cert_path` files. -/
def TlsFails {BaseSpec : Type} (env : Env BaseSpec) (spec : ResolvedConnSpec)
    (err : Error) : Prop :=
  spec.useSsl = true ∧ CACertFileFails env newCertPool (spec.options "ca_cert_path") err

theorem bootstrapBlock_eq_error {spec : ResolvedConnSpec} {err : Error}
    (failed : bootstrapBlock spec = .error err) : BootstrapFails spec err := by
  simp only [bootstrapBlock] at failed
  split at failed <;> (try split at failed) <;> cases failed <;>
    simp_all [BootstrapFails, List.length_eq_zero]

theorem appendCACertFiles_eq_error {BaseSpec : Type} {env : Env BaseSpec} {err : Error} :
    ∀ {roots : CertPool} {paths : List String},
      appendCACertFiles env roots paths = .error err → CACertFileFails env roots paths err
  | _, [], failed => by cases failed
  | roots, path :: paths, failed => by
      simp only [appendCACertFiles] at failed
      split at failed
      · cases failed
        exact ⟨[], path, paths, roots, rfl, rfl, .inl ‹_›⟩
      · rename_i cacert read
        split at failed
        · rename_i next appended
          obtain ⟨earlier, bad, later, pool, rfl, passed, fails⟩ :=
            appendCACertFiles_eq_error failed
          refine ⟨path :: earlier, bad, later, pool, rfl, ?_, fails⟩
          simp only [appendCACertFiles, read, appended, passed]
        · rename_i rejected
          cases failed
          exact ⟨[], path, paths, roots, rfl, rfl, .inr ⟨cacert, read, by rw [rejected], rfl⟩⟩

theorem tlsBlock_eq_error {BaseSpec : Type} {env : Env BaseSpec} {spec : ResolvedConnSpec}
    {err : Error} (failed : tlsBlock env spec = .error err) : TlsFails env spec err := by
  simp only [tlsBlock] at failed
  split at failed <;> (try split at failed) <;> (try split at failed) <;> cases failed
  exact ⟨‹_›, appendCACertFiles_eq_error ‹_›⟩

theorem bucketBlock_ne_error (spec : ResolvedConnSpec) (err : Error) :
    bucketBlock spec ≠ .error err := by
  simp only [bucketBlock]
  split <;> nofun

theorem networkBlock_ne_error (spec : ResolvedConnSpec) (err : Error) :
    networkBlock spec ≠ .error err := by
  simp only [networkBlock]
  split <;> nofun

theorem optionBlock_eq_error {α : Type} {spec : ResolvedConnSpec} {name : String}
    {decode : String → Option α} {message : String} {assign : α → AgentConfig → AgentConfig}
    {err : Error} (failed : optionBlock spec name decode message assign = .error err) :
    err = .new message ∧ ∃ valStr, fetchOption spec name = some valStr ∧ decode valStr = none := by
  simp only [optionBlock] at failed
  split at failed <;> (try split at failed) <;> cases failed
  exact ⟨rfl, _, ‹_›, ‹_›⟩

/-- A block of the body is the hosts, TLS, bucket or `network` block, or the block of an
option check. -/
theorem mem_connStrBlocks {BaseSpec : Type} {env : Env BaseSpec} {spec : ResolvedConnSpec}
    {block : ConfigBlock} (mem : block ∈ connStrBlocks env spec) :
    block = bootstrapBlock spec ∨ block = tlsBlock env spec ∨ block = bucketBlock spec ∨
      block = networkBlock spec ∨ ∃ check ∈ optionChecks env, block = check.block spec := by
  simp only [connStrBlocks, List.mem_cons, List.mem_map] at mem
  rcases mem with hosts | tls | bucket | network | ⟨check, mem, rfl⟩
  exacts [.inl hosts, .inr (.inl tls), .inr (.inr (.inl bucket)),
    .inr (.inr (.inr (.inl network))), .inr (.inr (.inr (.inr ⟨check, mem, rfl⟩)))]

/-! ## What the body reads of the resolved string -/

/-- Two resolved connection strings that agree on everything the body reads: TLS, the
hosts, the bucket, every `ca_cert_path` value, and the last value of every option. -/
structure SameReads (spec spec' : ResolvedConnSpec) : Prop where
  useSsl : spec.useSsl = spec'.useSsl
  memdHosts : spec.memdHosts = spec'.memdHosts
  httpHosts : spec.httpHosts = spec'.httpHosts
  bucket : spec.bucket = spec'.bucket
  caCertPaths : spec.options "ca_cert_path" = spec'.options "ca_cert_path"
  lastValues : ∀ name, fetchOption spec name = fetchOption spec' name

theorem connStrBlocks_congr {BaseSpec : Type} (env : Env BaseSpec)
    {spec spec' : ResolvedConnSpec} (same : SameReads spec spec') :
    connStrBlocks env spec = connStrBlocks env spec' := by
  have hosts : bootstrapBlock spec = bootstrapBlock spec' := by
    simp only [bootstrapBlock, same.lastValues, same.memdHosts, same.httpHosts]
  have tls : tlsBlock env spec = tlsBlock env spec' := by
    simp only [tlsBlock, same.useSsl, same.caCertPaths]
  have bucket : bucketBlock spec = bucketBlock spec' := by
    simp only [bucketBlock, same.bucket]
  have network : networkBlock spec = networkBlock spec' := by
    simp only [networkBlock, same.lastValues]
  have option : OptionCheck.block spec = OptionCheck.block spec' :=
    funext fun _ => by simp only [OptionCheck.block, optionBlock, same.lastValues]
  simp only [connStrBlocks, hosts, tls, bucket, network, option]

section Frame

variable {α : Type} {field : AgentConfig → α}

theorem bootstrapBlock_preserves (spec : ResolvedConnSpec)
    (unchanged : ∀ memdAddrs httpAddrs config,
      field { config with memdAddrs, httpAddrs } = field config) :
    Preserves field (bootstrapBlock spec) := by
  intro write ok config
  obtain ⟨memdAddrs, httpAddrs, rfl⟩ := bootstrapBlock_eq_ok ok
  exact unchanged _ _ _

theorem tlsBlock_preserves {BaseSpec : Type} (env : Env BaseSpec) (spec : ResolvedConnSpec)
    (unchangedRoots : ∀ roots config,
      field { config with tlsRootCAs := some roots, useTLS := true } = field config)
    (unchangedSkip : ∀ config,
      field { config with tlsSkipVerify := true, useTLS := true } = field config) :
    Preserves field (tlsBlock env spec) := by
  intro write ok config
  rcases tlsBlock_eq_ok ok with ⟨roots, rfl⟩ | rfl | rfl
  · exact unchangedRoots _ _
  · exact unchangedSkip _
  · rfl

theorem bucketBlock_preserves (spec : ResolvedConnSpec)
    (unchanged : ∀ config, field { config with bucketName := spec.bucket } = field config) :
    Preserves field (bucketBlock spec) := by
  intro write ok config
  rcases bucketBlock_eq_ok ok with rfl | rfl
  · exact unchanged _
  · rfl

theorem networkBlock_preserves (spec : ResolvedConnSpec)
    (unchanged : ∀ networkType config, field { config with networkType } = field config) :
    Preserves field (networkBlock spec) := by
  intro write ok config
  rcases networkBlock_eq_ok ok with ⟨networkType, rfl⟩ | rfl
  · exact unchanged _ _
  · rfl

theorem optionBlock_preserves {β : Type} (spec : ResolvedConnSpec) (name : String)
    (decode : String → Option β) (message : String) (assign : β → AgentConfig → AgentConfig)
    (unchanged : ∀ val config, field (assign val config) = field config) :
    Preserves field (optionBlock spec name decode message assign) := by
  intro write ok config
  rcases optionBlock_eq_ok ok with rfl | ⟨val, rfl⟩
  · rfl
  · exact unchanged _ _

end Frame

/-! ## A single-host connection string -/

/-- What `Resolve` returns for `couchbase://localhost?...` with the given options: the
host on the default memcached and HTTP ports, no TLS, no bucket. -/
def localhostSpec (options : String → List String) : ResolvedConnSpec where
  useSsl := false
  memdHosts := [⟨"localhost", 11210⟩]
  httpHosts := [⟨"localhost", 8091⟩]
  bucket := ""
  options := options

/-- Collaborators that resolve every connection string to `localhostSpec options`. No
file is read and no float parsed on such a string. -/
def localhostEnv (options : String → List String) : Env Unit where
  parse _ := .ok ()
  resolve _ := .ok (localhostSpec options)
  readFile _ := .error (.new "open: no such file or directory")
  appendCertsFromPEM pool _ := (pool, false)
  parseFloat _ := none

end Gocbcore
