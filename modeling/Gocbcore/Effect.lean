import Gocbcore.FromConnStr
import Gocbcore.ConfigPatch

/-!
# The effect of `FromConnStr` is a partial configuration

Every block of `FromConnStr` assigns fields to values computed from the resolved
connection string, never from the config. So each write is a `ConfigPatch` applied to
the config, and a whole call, whether it fails or not, applies one patch and returns one
error, both fixed by the connection string and the collaborators
(`fromConnStr_eq_patch`). This is the refinement of the block-by-block model by the
partial-configuration view.

Two consequences over every call: the fields outside the patch's reach are never
written, and calling `FromConnStr` again with the same string on the config it produced
changes nothing and returns the same error (`fromConnStr_idempotent`).

The patch and the error depend on the resolved string only through what the body reads:
the last value of each option, every `ca_cert_path` value, TLS, the hosts and the bucket
(`fromConnStr_reads_last_values`).
-/

namespace Gocbcore

/-- Every write the block can make applies a patch. -/
def WritesPatch (block : ConfigBlock) : Prop :=
  ∀ write, block = .ok write → ∃ patch : ConfigPatch, write = patch.apply

theorem bootstrapBlock_writesPatch (spec : ResolvedConnSpec) :
    WritesPatch (bootstrapBlock spec) := by
  intro write ok
  obtain ⟨memdAddrs, httpAddrs, rfl⟩ := bootstrapBlock_eq_ok ok
  exact ⟨{ memdAddrs := some memdAddrs, httpAddrs := some httpAddrs }, rfl⟩

theorem tlsBlock_writesPatch {BaseSpec : Type} (env : Env BaseSpec) (spec : ResolvedConnSpec) :
    WritesPatch (tlsBlock env spec) := by
  intro write ok
  rcases tlsBlock_eq_ok ok with ⟨roots, rfl⟩ | rfl | rfl
  · exact ⟨{ tlsRootCAs := some (some roots), useTLS := some true }, rfl⟩
  · exact ⟨{ tlsSkipVerify := some true, useTLS := some true }, rfl⟩
  · exact ⟨{}, rfl⟩

theorem bucketBlock_writesPatch (spec : ResolvedConnSpec) : WritesPatch (bucketBlock spec) := by
  intro write ok
  rcases bucketBlock_eq_ok ok with rfl | rfl
  · exact ⟨{ bucketName := some spec.bucket }, rfl⟩
  · exact ⟨{}, rfl⟩

theorem networkBlock_writesPatch (spec : ResolvedConnSpec) : WritesPatch (networkBlock spec) := by
  intro write ok
  rcases networkBlock_eq_ok ok with ⟨networkType, rfl⟩ | rfl
  · exact ⟨{ networkType := some networkType }, rfl⟩
  · exact ⟨{}, rfl⟩

theorem optionBlock_writesPatch {β : Type} (spec : ResolvedConnSpec) (name : String)
    (decode : String → Option β) (message : String) (assign : β → AgentConfig → AgentConfig)
    (patchOf : β → ConfigPatch) (assigns : ∀ val, assign val = (patchOf val).apply) :
    WritesPatch (optionBlock spec name decode message assign) := by
  intro write ok
  rcases optionBlock_eq_ok ok with rfl | ⟨val, rfl⟩
  · exact ⟨{}, rfl⟩
  · exact ⟨patchOf val, assigns val⟩

/-- Every option check assigns a patch: a value for the one field it writes. -/
theorem optionChecks_assign_patch {BaseSpec : Type} (env : Env BaseSpec) :
    ∀ check ∈ optionChecks env, ∃ patchOf : check.α → ConfigPatch,
      ∀ val, check.assign val = (patchOf val).apply := by
  intro check mem
  repeat' rcases mem with _ | ⟨_, mem⟩
  exacts [⟨fun val => { kvConnectTimeout := some (val * millisecond) }, fun _ => rfl⟩,
    ⟨fun val => { cccpMaxWait := some (val * millisecond) }, fun _ => rfl⟩,
    ⟨fun val => { cccpPollPeriod := some (val * millisecond) }, fun _ => rfl⟩,
    ⟨fun val => { useMutationTokens := some val }, fun _ => rfl⟩,
    ⟨fun val => { useCompression := some val }, fun _ => rfl⟩,
    ⟨fun val => { compressionMinSize := some val }, fun _ => rfl⟩,
    ⟨fun val => { compressionMinRatio := some val }, fun _ => rfl⟩,
    ⟨fun val => { useDurations := some val }, fun _ => rfl⟩,
    ⟨fun val => { httpMaxIdleConns := some val }, fun _ => rfl⟩,
    ⟨fun val => { httpMaxIdleConnsPerHost := some val }, fun _ => rfl⟩,
    ⟨fun val => { httpIdleConnectionTimeout := some (val * millisecond) }, fun _ => rfl⟩,
    ⟨fun val => { useZombieLogger := some val }, fun _ => rfl⟩,
    ⟨fun val => { zombieLoggerInterval := some (val * millisecond) }, fun _ => rfl⟩,
    ⟨fun val => { zombieLoggerSampleSize := some val }, fun _ => rfl⟩,
    ⟨fun val => { dcpAgentPriority := some val }, fun _ => rfl⟩,
    ⟨fun val => { useDCPExpiry := some val }, fun _ => rfl⟩,
    ⟨fun val => { httpRedialPeriod := some (val * millisecond) }, fun _ => rfl⟩,
    ⟨fun val => { httpRetryDelay := some (val * millisecond) }, fun _ => rfl⟩,
    ⟨fun val => { kvPoolSize := some val }, fun _ => rfl⟩,
    ⟨fun val => { maxQueueSize := some val }, fun _ => rfl⟩]

/-- Each block of the body writes a patch. -/
theorem connStrBlocks_writesPatch {BaseSpec : Type} (env : Env BaseSpec)
    (spec : ResolvedConnSpec) : ∀ block ∈ connStrBlocks env spec, WritesPatch block := by
  intro block mem
  rcases mem_connStrBlocks mem with rfl | rfl | rfl | rfl | ⟨check, listed, rfl⟩
  · exact bootstrapBlock_writesPatch spec
  · exact tlsBlock_writesPatch env spec
  · exact bucketBlock_writesPatch spec
  · exact networkBlock_writesPatch spec
  · obtain ⟨patchOf, assigns⟩ := optionChecks_assign_patch env check listed
    exact optionBlock_writesPatch _ _ _ _ _ patchOf assigns

/-- A run of blocks that write patches applies one patch, and returns one error, whatever
the config. -/
theorem runBlocks_eq_patch {blocks : List ConfigBlock}
    (patches : ∀ block ∈ blocks, WritesPatch block) :
    ∃ (patch : ConfigPatch) (err : Option Error),
      ∀ config, runBlocks blocks config = (patch.apply config, err) := by
  induction blocks with
  | nil => exact ⟨{}, none, fun _ => rfl⟩
  | cons block blocks ih =>
      obtain ⟨later, err, run⟩ := ih fun b mem => patches b (List.mem_cons_of_mem _ mem)
      cases block with
      | error first => exact ⟨{}, some first, fun _ => rfl⟩
      | ok write =>
          obtain ⟨patch, rfl⟩ := patches _ (List.mem_cons_self _ _) write rfl
          refine ⟨patch.andThen later, err, fun config => ?_⟩
          rw [ConfigPatch.apply_andThen]
          exact run _

/-- A call's effect is a patch and an error fixed by the connection string. -/
theorem exists_patch_of_fromConnStr {BaseSpec : Type} (env : Env BaseSpec) (connStr : String) :
    ∃ (patch : ConfigPatch) (err : Option Error),
      ∀ config, fromConnStr env config connStr = (patch.apply config, err) := by
  rcases parsed : env.parse connStr with err | baseSpec
  · exact ⟨{}, some err, fun _ => by simp [fromConnStr, parsed]⟩
  rcases resolved : env.resolve baseSpec with err | spec
  · exact ⟨{}, some err, fun _ => by simp [fromConnStr, parsed, resolved]⟩
  obtain ⟨patch, err, run⟩ := runBlocks_eq_patch (connStrBlocks_writesPatch env spec)
  exact ⟨patch, err, fun config =>
    (fromConnStr_eq_runBlocks env parsed resolved).trans (run config)⟩

/-- Every call of `FromConnStr` with a given connection string applies one partial
configuration and returns one error, whatever config it is called on. No connection string
sets the fields outside the patch: the user agent, the overall `ConnectTimeout` (only
`KVConnectTimeout` has an option), `DisableDecompression`, `UseCollections`,
`NoRootTraceSpans` and `UseDCPStreamID` are as they were, whether the call fails or not. -/
theorem fromConnStr_eq_patch {BaseSpec : Type} (env : Env BaseSpec) (connStr : String) :
    ∃ (patch : ConfigPatch) (err : Option Error), ∀ config,
      fromConnStr env config connStr = (patch.apply config, err) ∧
      let result := (fromConnStr env config connStr).1
      result.userAgent = config.userAgent ∧ result.connectTimeout = config.connectTimeout ∧
        result.disableDecompression = config.disableDecompression ∧
        result.useCollections = config.useCollections ∧
        result.noRootTraceSpans = config.noRootTraceSpans ∧
        result.useDCPStreamID = config.useDCPStreamID := by
  obtain ⟨patch, err, effect⟩ := exists_patch_of_fromConnStr env connStr
  refine ⟨patch, err, fun config => ⟨effect config, ?_⟩⟩
  simp only [effect]
  exact ⟨rfl, rfl, rfl, rfl, rfl, rfl⟩

/-- Calling `FromConnStr` again with the same connection string on the config it produced
changes nothing and returns the same error, whether the first call failed or not. -/
theorem fromConnStr_idempotent {BaseSpec : Type} (env : Env BaseSpec) (config : AgentConfig)
    (connStr : String) :
    fromConnStr env (fromConnStr env config connStr).1 connStr = fromConnStr env config connStr := by
  obtain ⟨patch, err, effect⟩ := exists_patch_of_fromConnStr env connStr
  rw [effect, effect, ConfigPatch.apply_apply]

/-! ## What a call reads -/

/-- `FromConnStr` reads of each option only its last value, except `ca_cert_path`, of which
it reads every value. Two connection strings whose resolved forms agree on TLS, the hosts,
the bucket, every `ca_cert_path` value and the last value of every option leave every
config the same and return the same error, even where an earlier value of an option would
be rejected. -/
theorem fromConnStr_reads_last_values {BaseSpec : Type} (env : Env BaseSpec)
    (config : AgentConfig) {connStr connStr' : String} {baseSpec baseSpec' : BaseSpec}
    {spec spec' : ResolvedConnSpec}
    (parsed : env.parse connStr = .ok baseSpec) (resolved : env.resolve baseSpec = .ok spec)
    (parsed' : env.parse connStr' = .ok baseSpec')
    (resolved' : env.resolve baseSpec' = .ok spec') (same : SameReads spec spec') :
    fromConnStr env config connStr = fromConnStr env config connStr' := by
  rw [fromConnStr_eq_runBlocks env parsed resolved,
    fromConnStr_eq_runBlocks env parsed' resolved', connStrBlocks_congr env same]

/-- The options of `couchbase://localhost?kv_connect_timeout=abc&kv_connect_timeout=5`. -/
def repeatedTimeoutOptions (name : String) : List String :=
  if name = "kv_connect_timeout" then ["abc", "5"] else []

/-- The options of `couchbase://localhost?kv_connect_timeout=5`. -/
def lastTimeoutOptions (name : String) : List String :=
  if name = "kv_connect_timeout" then ["5"] else []

/-- Collaborators that resolve the first string above to its options, and any other
string to those of the second. -/
def timeoutStringsEnv : Env String where
  parse connStr := .ok connStr
  resolve connStr := .ok (localhostSpec
    (if connStr = "couchbase://localhost?kv_connect_timeout=abc&kv_connect_timeout=5" then
      repeatedTimeoutOptions else lastTimeoutOptions))
  readFile _ := .error (.new "open: no such file or directory")
  appendCertsFromPEM pool _ := (pool, false)
  parseFloat _ := none

theorem repeated_kvConnectTimeout_reads_last :
    timeoutStringsEnv.parse "couchbase://localhost?kv_connect_timeout=abc&kv_connect_timeout=5" =
      .ok "couchbase://localhost?kv_connect_timeout=abc&kv_connect_timeout=5" ∧
    timeoutStringsEnv.resolve "couchbase://localhost?kv_connect_timeout=abc&kv_connect_timeout=5" =
      .ok (localhostSpec repeatedTimeoutOptions) ∧
    timeoutStringsEnv.parse "couchbase://localhost?kv_connect_timeout=5" =
      .ok "couchbase://localhost?kv_connect_timeout=5" ∧
    timeoutStringsEnv.resolve "couchbase://localhost?kv_connect_timeout=5" =
      .ok (localhostSpec lastTimeoutOptions) ∧
    SameReads (localhostSpec repeatedTimeoutOptions) (localhostSpec lastTimeoutOptions) ∧
    fromConnStr timeoutStringsEnv {}
        "couchbase://localhost?kv_connect_timeout=abc&kv_connect_timeout=5" =
      fromConnStr timeoutStringsEnv {} "couchbase://localhost?kv_connect_timeout=5" := by
  have resolvedRepeated : timeoutStringsEnv.resolve
      "couchbase://localhost?kv_connect_timeout=abc&kv_connect_timeout=5" =
      .ok (localhostSpec repeatedTimeoutOptions) := by simp [timeoutStringsEnv]
  have resolvedLast : timeoutStringsEnv.resolve "couchbase://localhost?kv_connect_timeout=5" =
      .ok (localhostSpec lastTimeoutOptions) := by simp [timeoutStringsEnv]
  have same : SameReads (localhostSpec repeatedTimeoutOptions) (localhostSpec lastTimeoutOptions) :=
    ⟨rfl, rfl, rfl, rfl, rfl, fun name => by
      simp only [fetchOption, localhostSpec, repeatedTimeoutOptions, lastTimeoutOptions]
      split <;> rfl⟩
  exact ⟨rfl, resolvedRepeated, rfl, resolvedLast, same,
    fromConnStr_reads_last_values timeoutStringsEnv {} rfl resolvedRepeated rfl resolvedLast same⟩

end Gocbcore
