import Gocbcore.Strconv

/-!
# The agent configuration

`AgentConfig` is the receiver of `FromConnStr`. Each field has its Go zero value as its
default, so `({} : AgentConfig)` is `AgentConfig{}`. Go slices are lists, with `nil` and
the empty slice both `[]`; the `*x509.CertPool` pointer is an `Option`.

The fields of interface or struct type declared outside the source (`Auth`, `Tracer`,
`DefaultRetryStrategy`, `CircuitBreakerConfig`) are read by no modelled function and
are left out.
-/

namespace Gocbcore

/-- The DCP priority values. The type and its constants are declared outside the source;
`FromConnStr` uses the three constants below, and the zero value is `low`. -/
inductive DcpAgentPriority where
  | low
  | med
  | high
  deriving DecidableEq, Repr

/-- An `*x509.CertPool`: the DER certificates appended to it, in order. -/
structure CertPool where
  certs : List (List UInt8) := []
  deriving DecidableEq, Repr

/-- `x509.NewCertPool()`. -/
def newCertPool : CertPool := {}

/-- `AgentConfig` specifies the configuration options for creation of an Agent. -/
structure AgentConfig where
  userAgent : String := ""
  memdAddrs : List String := []
  httpAddrs : List String := []
  useTLS : Bool := false
  bucketName : String := ""
  networkType : String := ""
  tlsRootCAs : Option CertPool := none
  tlsSkipVerify : Bool := false
  useMutationTokens : Bool := false
  useCompression : Bool := false
  useDurations : Bool := false
  disableDecompression : Bool := false
  useCollections : Bool := false
  compressionMinSize : Int64 := 0
  compressionMinRatio : Float := 0
  httpRedialPeriod : Duration := 0
  httpRetryDelay : Duration := 0
  cccpMaxWait : Duration := 0
  cccpPollPeriod : Duration := 0
  connectTimeout : Duration := 0
  kvConnectTimeout : Duration := 0
  kvPoolSize : Int64 := 0
  maxQueueSize : Int64 := 0
  httpMaxIdleConns : Int64 := 0
  httpMaxIdleConnsPerHost : Int64 := 0
  httpIdleConnectionTimeout : Duration := 0
  noRootTraceSpans : Bool := false
  useZombieLogger : Bool := false
  zombieLoggerInterval : Duration := 0
  zombieLoggerSampleSize : Int64 := 0
  dcpAgentPriority : DcpAgentPriority := .low
  useDCPExpiry : Bool := false
  useDCPStreamID : Bool := false
  deriving Repr

/-- `(*AgentConfig).redacted`: a copy of the config for logging. Under full log
redaction the addresses go through `redactSystemData` and a nonempty bucket name
through `redactMetaData`. The three functions are declared outside the source. -/
def AgentConfig.redacted (isLogRedactionLevelFull : Bool)
    (redactSystemData redactMetaData : String → String) (config : AgentConfig) :
    AgentConfig :=
  if isLogRedactionLevelFull then
    { config with
      httpAddrs := config.httpAddrs.map redactSystemData
      memdAddrs := config.memdAddrs.map redactSystemData
      bucketName :=
        if config.bucketName ≠ "" then redactMetaData config.bucketName else config.bucketName }
  else config

end Gocbcore
