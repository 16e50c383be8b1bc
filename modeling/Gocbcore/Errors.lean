import Gocbcore.FromConnStr

/-!
# Errors of `FromConnStr`

`FromConnStr` writes the receiver as it goes. The hosts block assigns `MemdAddrs` and
`HTTPAddrs` before any option is parsed, and each option block assigns its field before
the next block runs, so an error from a later block comes back with the earlier writes
in place. What does hold is that the failing block itself writes nothing, and that the
blocks before it have all completed: `fromConnStr_error_keeps_earlier_writes`.

Every error names the check that failed: it comes from `Parse`, `Resolve`, the
`bootstrap_on` check, a `ca_cert_path` file, or an option check of `optionChecks` whose
parser rejects the option's last value, with that check's own text
(`fromConnStr_error_names_check`). The texts are those of the source, so the
`compression_min_ratio` check returns the text of the `compression_min_size` one.
-/

namespace Gocbcore

variable {BaseSpec : Type} (env : Env BaseSpec) (config : AgentConfig) (connStr : String)

/-- When `FromConnStr` returns an error, the config holds exactly the writes of the blocks
that completed before the failing one. An error from `Parse` or `Resolve` leaves it as it
was; any other error is returned by a block of the body, every block before that one
succeeded, and the config is the old one with their writes applied in order. -/
theorem fromConnStr_error_keeps_earlier_writes {final : AgentConfig} {err : Error}
    (failed : fromConnStr env config connStr = (final, some err)) :
    (final = config ∧
      (env.parse connStr = .error err ∨
        ∃ baseSpec, env.parse connStr = .ok baseSpec ∧ env.resolve baseSpec = .error err)) ∨
    ∃ baseSpec spec writes rest,
      env.parse connStr = .ok baseSpec ∧ env.resolve baseSpec = .ok spec ∧
      connStrBlocks env spec = writes.map .ok ++ .error err :: rest ∧
      final = applyAll writes config := by
  rcases fromConnStr_cases env config connStr with
    ⟨first, stopped, stage⟩ | ⟨baseSpec, spec, parsed, resolved, run⟩
  · rw [stopped, Prod.mk.injEq, Option.some.injEq] at failed
    obtain ⟨rfl, rfl⟩ := failed
    exact .inl ⟨rfl, stage⟩
  · rw [run] at failed
    obtain ⟨writes, rest, shape, rfl⟩ := runBlocks_eq_error failed
    exact .inr ⟨baseSpec, spec, writes, rest, parsed, resolved, shape, rfl⟩

/-- The options of `couchbase://localhost?kv_connect_timeout=abc`. -/
def badTimeoutOptions (name : String) : List String :=
  if name = "kv_connect_timeout" then ["abc"] else []

theorem kvConnectTimeout_error_keeps_hosts :
    fromConnStr (localhostEnv badTimeoutOptions) {} "couchbase://localhost?kv_connect_timeout=abc" =
      (({ memdAddrs := ["localhost:11210"], httpAddrs := ["localhost:8091"] } : AgentConfig),
        some (.new "kv_connect_timeout option must be a number")) ∧
    ((({ memdAddrs := ["localhost:11210"], httpAddrs := ["localhost:8091"] } : AgentConfig) =
        ({} : AgentConfig) ∧
      ((localhostEnv badTimeoutOptions).parse "couchbase://localhost?kv_connect_timeout=abc" =
          .error (.new "kv_connect_timeout option must be a number") ∨
        ∃ baseSpec, (localhostEnv badTimeoutOptions).parse
            "couchbase://localhost?kv_connect_timeout=abc" = .ok baseSpec ∧
          (localhostEnv badTimeoutOptions).resolve baseSpec =
            .error (.new "kv_connect_timeout option must be a number"))) ∨
    ∃ baseSpec spec writes rest,
      (localhostEnv badTimeoutOptions).parse "couchbase://localhost?kv_connect_timeout=abc" =
        .ok baseSpec ∧
      (localhostEnv badTimeoutOptions).resolve baseSpec = .ok spec ∧
      connStrBlocks (localhostEnv badTimeoutOptions) spec =
        writes.map .ok ++ .error (.new "kv_connect_timeout option must be a number") :: rest ∧
      ({ memdAddrs := ["localhost:11210"], httpAddrs := ["localhost:8091"] } : AgentConfig) =
        applyAll writes ({} : AgentConfig)) :=
  ⟨rfl, fromConnStr_error_keeps_earlier_writes _ _ _ rfl⟩

/-- A string with valid hosts and `kv_connect_timeout=abc` returns an error after
`MemdAddrs` and `HTTPAddrs` have been overwritten. -/
theorem kvConnectTimeout_error_after_hosts_written :
    (fromConnStr (localhostEnv badTimeoutOptions) {}
      "couchbase://localhost?kv_connect_timeout=abc").2 =
      some (.new "kv_connect_timeout option must be a number") ∧
    (fromConnStr (localhostEnv badTimeoutOptions) {}
      "couchbase://localhost?kv_connect_timeout=abc").1.memdAddrs = ["localhost:11210"] ∧
    (fromConnStr (localhostEnv badTimeoutOptions) {}
      "couchbase://localhost?kv_connect_timeout=abc").1.httpAddrs = ["localhost:8091"] ∧
    (fromConnStr (localhostEnv badTimeoutOptions) {}
      "couchbase://localhost?kv_connect_timeout=abc").1.memdAddrs ≠
      ({} : AgentConfig).memdAddrs := by
  decide

/-! ## Where an error comes from -/

/-- Every error `FromConnStr` returns comes from `Parse`, from `Resolve`, or from a check of
the body that failed: `bootstrap_on` against the hosts, on a TLS string a `ca_cert_path`
file that cannot be read or adds no certificate to the pool of the files before it, or a
check of `optionChecks` whose parser rejects the option's last value, with that check's own
text. The bucket and `network` blocks never fail. -/
theorem fromConnStr_error_names_check {err : Error}
    (failed : (fromConnStr env config connStr).2 = some err) :
    env.parse connStr = .error err ∨
    (∃ baseSpec, env.parse connStr = .ok baseSpec ∧ env.resolve baseSpec = .error err) ∨
    ∃ baseSpec spec, env.parse connStr = .ok baseSpec ∧ env.resolve baseSpec = .ok spec ∧
      (BootstrapFails spec err ∨ TlsFails env spec err ∨
        ∃ check ∈ optionChecks env, err = .new check.message ∧
          ∃ valStr, fetchOption spec check.name = some valStr ∧ check.decode valStr = none) := by
  rcases fromConnStr_cases env config connStr with
    ⟨first, stopped, stage⟩ | ⟨baseSpec, spec, parsed, resolved, run⟩
  · rw [stopped] at failed
    cases failed
    exact stage.imp_right .inl
  refine .inr (.inr ⟨baseSpec, spec, parsed, resolved, ?_⟩)
  rw [run] at failed
  obtain ⟨writes, rest, shape, -⟩ := runBlocks_eq_error
    (Prod.ext rfl failed : runBlocks (connStrBlocks env spec) config =
      ((runBlocks (connStrBlocks env spec) config).1, some err))
  have mem : .error err ∈ connStrBlocks env spec := by
    rw [shape]
    exact List.mem_append_right _ (List.mem_cons_self _ _)
  rcases mem_connStrBlocks mem with hosts | tls | bucket | network | ⟨check, listed, option⟩
  · exact .inl (bootstrapBlock_eq_error hosts.symm)
  · exact .inr (.inl (tlsBlock_eq_error tls.symm))
  · exact absurd bucket.symm (bucketBlock_ne_error spec err)
  · exact absurd network.symm (networkBlock_ne_error spec err)
  · exact .inr (.inr ⟨check, listed, optionBlock_eq_error option.symm⟩)

theorem kvConnectTimeout_error_names_option :
    (fromConnStr (localhostEnv badTimeoutOptions) {}
      "couchbase://localhost?kv_connect_timeout=abc").2 =
      some (.new "kv_connect_timeout option must be a number") ∧
    ((localhostEnv badTimeoutOptions).parse "couchbase://localhost?kv_connect_timeout=abc" =
        .error (.new "kv_connect_timeout option must be a number") ∨
      (∃ baseSpec, (localhostEnv badTimeoutOptions).parse
          "couchbase://localhost?kv_connect_timeout=abc" = .ok baseSpec ∧
        (localhostEnv badTimeoutOptions).resolve baseSpec =
          .error (.new "kv_connect_timeout option must be a number")) ∨
      ∃ baseSpec spec, (localhostEnv badTimeoutOptions).parse
          "couchbase://localhost?kv_connect_timeout=abc" = .ok baseSpec ∧
        (localhostEnv badTimeoutOptions).resolve baseSpec = .ok spec ∧
        (BootstrapFails spec (.new "kv_connect_timeout option must be a number") ∨
          TlsFails (localhostEnv badTimeoutOptions) spec
            (.new "kv_connect_timeout option must be a number") ∨
          ∃ check ∈ optionChecks (localhostEnv badTimeoutOptions),
            Error.new "kv_connect_timeout option must be a number" = .new check.message ∧
            ∃ valStr, fetchOption spec check.name = some valStr ∧
              check.decode valStr = none)) :=
  ⟨rfl, fromConnStr_error_names_check _ ({} : AgentConfig) _ rfl⟩

end Gocbcore
