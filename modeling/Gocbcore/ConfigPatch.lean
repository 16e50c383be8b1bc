import Gocbcore.AgentConfig

/-!
# Partial configurations

What a connection string means to an `AgentConfig` is a partial configuration: a value
for some of the fields `FromConnStr` can write, and nothing for the others. A
`ConfigPatch` has one optional value for each field `FromConnStr` assigns; the fields it
never assigns (`UserAgent`, `DisableDecompression`, `UseCollections`, `ConnectTimeout`,
`NoRootTraceSpans`, `UseDCPStreamID`) have no place in it.

Patches compose (`andThen`, the later one winning field by field), and applying a patch
twice is applying it once.
-/

namespace Gocbcore

/-- A value for some of the fields `FromConnStr` assigns. -/
structure ConfigPatch where
  memdAddrs : Option (List String) := none
  httpAddrs : Option (List String) := none
  useTLS : Option Bool := none
  bucketName : Option String := none
  networkType : Option String := none
  tlsRootCAs : Option (Option CertPool) := none
  tlsSkipVerify : Option Bool := none
  useMutationTokens : Option Bool := none
  useCompression : Option Bool := none
  useDurations : Option Bool := none
  compressionMinSize : Option Int64 := none
  compressionMinRatio : Option Float := none
  httpRedialPeriod : Option Duration := none
  httpRetryDelay : Option Duration := none
  cccpMaxWait : Option Duration := none
  cccpPollPeriod : Option Duration := none
  kvConnectTimeout : Option Duration := none
  kvPoolSize : Option Int64 := none
  maxQueueSize : Option Int64 := none
  httpMaxIdleConns : Option Int64 := none
  httpMaxIdleConnsPerHost : Option Int64 := none
  httpIdleConnectionTimeout : Option Duration := none
  useZombieLogger : Option Bool := none
  zombieLoggerInterval : Option Duration := none
  zombieLoggerSampleSize : Option Int64 := none
  dcpAgentPriority : Option DcpAgentPriority := none
  useDCPExpiry : Option Bool := none

namespace ConfigPatch

/-- The config with the patch's values in place of its own. -/
def apply (patch : ConfigPatch) (config : AgentConfig) : AgentConfig :=
  { config with
    memdAddrs := patch.memdAddrs.getD config.memdAddrs
    httpAddrs := patch.httpAddrs.getD config.httpAddrs
    useTLS := patch.useTLS.getD config.useTLS
    bucketName := patch.bucketName.getD config.bucketName
    networkType := patch.networkType.getD config.networkType
    tlsRootCAs := patch.tlsRootCAs.getD config.tlsRootCAs
    tlsSkipVerify := patch.tlsSkipVerify.getD config.tlsSkipVerify
    useMutationTokens := patch.useMutationTokens.getD config.useMutationTokens
    useCompression := patch.useCompression.getD config.useCompression
    useDurations := patch.useDurations.getD config.useDurations
    compressionMinSize := patch.compressionMinSize.getD config.compressionMinSize
    compressionMinRatio := patch.compressionMinRatio.getD config.compressionMinRatio
    httpRedialPeriod := patch.httpRedialPeriod.getD config.httpRedialPeriod
    httpRetryDelay := patch.httpRetryDelay.getD config.httpRetryDelay
    cccpMaxWait := patch.cccpMaxWait.getD config.cccpMaxWait
    cccpPollPeriod := patch.cccpPollPeriod.getD config.cccpPollPeriod
    kvConnectTimeout := patch.kvConnectTimeout.getD config.kvConnectTimeout
    kvPoolSize := patch.kvPoolSize.getD config.kvPoolSize
    maxQueueSize := patch.maxQueueSize.getD config.maxQueueSize
    httpMaxIdleConns := patch.httpMaxIdleConns.getD config.httpMaxIdleConns
    httpMaxIdleConnsPerHost := patch.httpMaxIdleConnsPerHost.getD config.httpMaxIdleConnsPerHost
    httpIdleConnectionTimeout :=
      patch.httpIdleConnectionTimeout.getD config.httpIdleConnectionTimeout
    useZombieLogger := patch.useZombieLogger.getD config.useZombieLogger
    zombieLoggerInterval := patch.zombieLoggerInterval.getD config.zombieLoggerInterval
    zombieLoggerSampleSize := patch.zombieLoggerSampleSize.getD config.zombieLoggerSampleSize
    dcpAgentPriority := patch.dcpAgentPriority.getD config.dcpAgentPriority
    useDCPExpiry := patch.useDCPExpiry.getD config.useDCPExpiry }

/-- `first`, then `second`: a field takes the value of the later patch that has one. -/
def andThen (first second : ConfigPatch) : ConfigPatch where
  memdAddrs := second.memdAddrs.or first.memdAddrs
  httpAddrs := second.httpAddrs.or first.httpAddrs
  useTLS := second.useTLS.or first.useTLS
  bucketName := second.bucketName.or first.bucketName
  networkType := second.networkType.or first.networkType
  tlsRootCAs := second.tlsRootCAs.or first.tlsRootCAs
  tlsSkipVerify := second.tlsSkipVerify.or first.tlsSkipVerify
  useMutationTokens := second.useMutationTokens.or first.useMutationTokens
  useCompression := second.useCompression.or first.useCompression
  useDurations := second.useDurations.or first.useDurations
  compressionMinSize := second.compressionMinSize.or first.compressionMinSize
  compressionMinRatio := second.compressionMinRatio.or first.compressionMinRatio
  httpRedialPeriod := second.httpRedialPeriod.or first.httpRedialPeriod
  httpRetryDelay := second.httpRetryDelay.or first.httpRetryDelay
  cccpMaxWait := second.cccpMaxWait.or first.cccpMaxWait
  cccpPollPeriod := second.cccpPollPeriod.or first.cccpPollPeriod
  kvConnectTimeout := second.kvConnectTimeout.or first.kvConnectTimeout
  kvPoolSize := second.kvPoolSize.or first.kvPoolSize
  maxQueueSize := second.maxQueueSize.or first.maxQueueSize
  httpMaxIdleConns := second.httpMaxIdleConns.or first.httpMaxIdleConns
  httpMaxIdleConnsPerHost := second.httpMaxIdleConnsPerHost.or first.httpMaxIdleConnsPerHost
  httpIdleConnectionTimeout :=
    second.httpIdleConnectionTimeout.or first.httpIdleConnectionTimeout
  useZombieLogger := second.useZombieLogger.or first.useZombieLogger
  zombieLoggerInterval := second.zombieLoggerInterval.or first.zombieLoggerInterval
  zombieLoggerSampleSize := second.zombieLoggerSampleSize.or first.zombieLoggerSampleSize
  dcpAgentPriority := second.dcpAgentPriority.or first.dcpAgentPriority
  useDCPExpiry := second.useDCPExpiry.or first.useDCPExpiry

theorem getD_or {α : Type} (later earlier : Option α) (value : α) :
    (later.or earlier).getD value = later.getD (earlier.getD value) := by
  cases later <;> rfl

theorem getD_getD {α : Type} (patch : Option α) (value : α) :
    patch.getD (patch.getD value) = patch.getD value := by
  cases patch <;> rfl

@[simp]
theorem apply_empty (config : AgentConfig) : ({} : ConfigPatch).apply config = config := rfl

theorem apply_andThen (first second : ConfigPatch) (config : AgentConfig) :
    (first.andThen second).apply config = second.apply (first.apply config) := by
  simp only [apply, andThen, getD_or]

/-- A patch applied twice is applied once. -/
theorem apply_apply (patch : ConfigPatch) (config : AgentConfig) :
    patch.apply (patch.apply config) = patch.apply config := by
  simp only [apply, getD_getD]

end ConfigPatch

end Gocbcore
