import Gocbcore.FromConnStr

/-!
# Millisecond options

Seven options of `FromConnStr` are millisecond counts. Each block parses the last value
with `strconv.ParseInt(valStr, 10, 64)` and assigns
`time.Duration(val) * time.Millisecond`. The product is an `int64` product, so it wraps
modulo `2 ^ 64`: every value `ParseInt` accepts is assigned, and above
`9223372036854` milliseconds, or below its negation, the duration is not `n * 10 ^ 6`.

`fromConnStr_duration_wraps` states what the field holds after any call, whether it
returns an error or not: the wrapped product, or, when an earlier block failed, the
field as it was.
-/

namespace Gocbcore

/-- The millisecond options, each with the field its block assigns. -/
def durationFields : List (String × (AgentConfig → Duration)) :=
  [("kv_connect_timeout", AgentConfig.kvConnectTimeout),
   ("config_poll_timeout", AgentConfig.cccpMaxWait),
   ("config_poll_interval", AgentConfig.cccpPollPeriod),
   ("idle_http_connection_timeout", AgentConfig.httpIdleConnectionTimeout),
   ("orphaned_response_logging_interval", AgentConfig.zombieLoggerInterval),
   ("http_redial_period", AgentConfig.httpRedialPeriod),
   ("http_retry_delay", AgentConfig.httpRetryDelay)]

section Blocks

variable {BaseSpec : Type} (env : Env BaseSpec) {spec : ResolvedConnSpec}
  {name valStr : String} {field : AgentConfig → Duration} {n : Int64}

/-- The option's own block assigns `n * millisecond` to its field, and no other block
writes that field. -/
theorem connStrBlocks_duration (listed : (name, field) ∈ durationFields)
    (fetched : fetchOption spec name = some valStr) (accepted : parseInt valStr = some n) :
    (∀ block ∈ connStrBlocks env spec, WritesAtMost field (n * millisecond) block) ∧
      ∃ setter, .ok setter ∈ connStrBlocks env spec ∧
        ∀ config, field (setter config) = n * millisecond := by
  simp only [durationFields, List.mem_cons, Prod.mk.injEq, List.mem_nil_iff, or_false] at listed
  rcases listed with ⟨rfl, rfl⟩ | ⟨rfl, rfl⟩ | ⟨rfl, rfl⟩ | ⟨rfl, rfl⟩ | ⟨rfl, rfl⟩ |
    ⟨rfl, rfl⟩ | ⟨rfl, rfl⟩ <;>
  · simp only [connStrBlocks, optionChecks, List.map_cons, List.map_nil, OptionCheck.block]
    rw [optionBlock_of_decode _ _ fetched accepted]
    constructor
    · simp only [List.mem_cons, List.mem_nil_iff, or_false, forall_eq_or_imp, forall_eq]
      refine ⟨.of_preserves (bootstrapBlock_preserves _ fun _ _ _ => rfl),
        .of_preserves (tlsBlock_preserves _ _ (fun _ _ => rfl) (fun _ => rfl)),
        .of_preserves (bucketBlock_preserves _ fun _ => rfl),
        .of_preserves (networkBlock_preserves _ fun _ _ => rfl), ?_⟩
      and_intros
      all_goals first
        | exact .of_preserves (optionBlock_preserves _ _ _ _ _ fun _ _ => rfl)
        | rintro _ ⟨⟩ _
          exact .inr rfl
    · refine ⟨?_, ?_, ?_⟩
      rotate_left
      · repeat' first | exact List.mem_cons_self _ _ | apply List.mem_cons_of_mem
      · exact fun _ => rfl

end Blocks

/-- After any call of `FromConnStr` in which a millisecond option's last value is accepted
by `ParseInt` as `n`, its field holds `n * 10 ^ 6` reduced into the `int64` range, which is
`n * 10 ^ 6` itself exactly when `|n| ≤ 9223372036854`; or the call returned the error of a
block before the option's, after blocks that all passed, leaving the field as it was. -/
theorem fromConnStr_duration_wraps {BaseSpec : Type} (env : Env BaseSpec)
    (config : AgentConfig) (connStr : String) {baseSpec : BaseSpec} {spec : ResolvedConnSpec}
    {name valStr : String} {field : AgentConfig → Duration} {n : Int64}
    (listed : (name, field) ∈ durationFields)
    (parsed : env.parse connStr = .ok baseSpec) (resolved : env.resolve baseSpec = .ok spec)
    (fetched : fetchOption spec name = some valStr) (accepted : parseInt valStr = some n) :
    ((field (fromConnStr env config connStr).1).toInt = (n.toInt * 1000000).bmod (2 ^ 64) ∧
      ((field (fromConnStr env config connStr).1).toInt = n.toInt * 1000000 ↔
        -9223372036854 ≤ n.toInt ∧ n.toInt ≤ 9223372036854)) ∨
    ∃ (writes : List (AgentConfig → AgentConfig)) (err : Error) (rest : List ConfigBlock),
      connStrBlocks env spec = writes.map .ok ++ .error err :: rest ∧
      (∃ setter, .ok setter ∈ rest ∧ ∀ config, field (setter config) = n * millisecond) ∧
      (fromConnStr env config connStr).2 = some err ∧
      field (fromConnStr env config connStr).1 = field config := by
  obtain ⟨allowed, setter, mem, sets⟩ := connStrBlocks_duration env listed fetched accepted
  rw [fromConnStr_eq_runBlocks env parsed resolved]
  rcases field_runBlocks allowed mem sets config with
    set | ⟨writes, err, rest, shape, after, failed, kept⟩
  · rw [set]
    exact .inl ⟨toInt_mul_millisecond n, toInt_mul_millisecond_eq_iff n⟩
  · exact .inr ⟨writes, err, rest, shape, ⟨setter, after, sets⟩, failed, kept⟩

/-- The options of `couchbase://localhost?kv_connect_timeout=9223372036855`. -/
def wrappingOptions (name : String) : List String :=
  if name = "kv_connect_timeout" then ["9223372036855"] else []

theorem kvConnectTimeout_wraps_at_localhost :
    ("kv_connect_timeout", AgentConfig.kvConnectTimeout) ∈ durationFields ∧
    (localhostEnv wrappingOptions).parse
      "couchbase://localhost?kv_connect_timeout=9223372036855" = .ok () ∧
    (localhostEnv wrappingOptions).resolve () = .ok (localhostSpec wrappingOptions) ∧
    fetchOption (localhostSpec wrappingOptions) "kv_connect_timeout" = some "9223372036855" ∧
    parseInt "9223372036855" = some 9223372036855#64 ∧
    (((fromConnStr (localhostEnv wrappingOptions) {}
        "couchbase://localhost?kv_connect_timeout=9223372036855").1.kvConnectTimeout.toInt =
        ((9223372036855#64).toInt * 1000000).bmod (2 ^ 64) ∧
      ((fromConnStr (localhostEnv wrappingOptions) {}
          "couchbase://localhost?kv_connect_timeout=9223372036855").1.kvConnectTimeout.toInt =
          (9223372036855#64).toInt * 1000000 ↔
        -9223372036854 ≤ (9223372036855#64).toInt ∧ (9223372036855#64).toInt ≤ 9223372036854)) ∨
    ∃ (writes : List (AgentConfig → AgentConfig)) (err : Error) (rest : List ConfigBlock),
      connStrBlocks (localhostEnv wrappingOptions) (localhostSpec wrappingOptions) =
        writes.map .ok ++ .error err :: rest ∧
      (∃ setter, .ok setter ∈ rest ∧
        ∀ config, (setter config).kvConnectTimeout = 9223372036855#64 * millisecond) ∧
      (fromConnStr (localhostEnv wrappingOptions) {}
        "couchbase://localhost?kv_connect_timeout=9223372036855").2 = some err ∧
      (fromConnStr (localhostEnv wrappingOptions) {}
        "couchbase://localhost?kv_connect_timeout=9223372036855").1.kvConnectTimeout =
        ({} : AgentConfig).kvConnectTimeout) := by
  have fetched :
      fetchOption (localhostSpec wrappingOptions) "kv_connect_timeout" = some "9223372036855" := by
    decide
  have accepted : parseInt "9223372036855" = some 9223372036855#64 := by decide
  exact ⟨List.mem_cons_self _ _, rfl, rfl, fetched, accepted,
    fromConnStr_duration_wraps (localhostEnv wrappingOptions) {}
      "couchbase://localhost?kv_connect_timeout=9223372036855" (List.mem_cons_self _ _) rfl rfl
      fetched accepted⟩

/-- `ParseInt` accepts `9223372036855`, the call returns `nil`, and the connect timeout is
a negative duration instead of `9223372036855 * 10 ^ 6` nanoseconds. -/
theorem kvConnectTimeout_wraps_negative :
    fetchOption (localhostSpec wrappingOptions) "kv_connect_timeout" = some "9223372036855" ∧
    parseInt "9223372036855" = some 9223372036855#64 ∧
    (fromConnStr (localhostEnv wrappingOptions) {}
      "couchbase://localhost?kv_connect_timeout=9223372036855").2 = none ∧
    (fromConnStr (localhostEnv wrappingOptions) {}
      "couchbase://localhost?kv_connect_timeout=9223372036855").1.kvConnectTimeout.toInt =
      -9223372036854551616 ∧
    (fromConnStr (localhostEnv wrappingOptions) {}
      "couchbase://localhost?kv_connect_timeout=9223372036855").1.kvConnectTimeout.toInt ≠
      9223372036855 * 1000000 := by
  decide

end Gocbcore
