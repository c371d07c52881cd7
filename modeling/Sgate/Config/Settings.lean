import Sgate.Gateway.Limits
import Mathlib.Data.Rat.Defs

/-! # The configuration

The sections of the configuration file that `ApplyRuntimeDefaults`, `Validate` and the users of a
configuration look at, with Go's zero values as defaults. Numbers of type `float64` are rationals, and
a map of the file is the list of its entries. -/

namespace Sgate.Settings

/-! ## Sections -/

structure Transport where
  port : ℤ := 0
  type : String := ""
  deriving DecidableEq

structure GRPCConfig where
  port : ℤ := 0
  windowSize : ℤ := 0
  maxMessageSize : ℤ := 0
  deriving DecidableEq

/-- `EtcdConfig`: the fields with a default. -/
structure EtcdConfig where
  servicePrefix : String := ""
  leaseTTL : String := ""
  deriving DecidableEq

structure StreamQueueConfig where
  policy : String := ""
  maxSize : ℤ := 0
  blockTimeout : String := ""
  backpressureThreshold : ℚ := 0
  sendTimeout : String := ""
  deriving DecidableEq

structure StreamConfig where
  shardCount : ℤ := 0
  connGroupCount : ℤ := 0
  sendChannelSize : ℤ := 0
  batchPush : Bool := false
  queuePolicy : StreamQueueConfig := {}
  deriving DecidableEq

/-- `ProtectionConfig`. The limits of frames and buffers are those of `Gateway.Limits`. -/
structure ProtectionConfig where
  frames : Gateway.ProtectionConfig := ⟨0, 0, 0, 0⟩
  maxConnections : ℤ := 0
  maxConnectionsPerIP : ℤ := 0
  maxMessagesPerConn : ℤ := 0
  cpuThreshold : ℚ := 0
  dropOnOverload : Bool := false
  checkIntervalMs : ℤ := 0
  wsHeartbeatTimeout : ℤ := 0
  wsCheckInterval : ℤ := 0
  connCheckInterval : String := ""
  connIdleTimeout : String := ""
  verifyInbound : Bool := false
  preAuthCommands : List ℤ := []
  benchMode : Bool := false
  deriving DecidableEq

structure RateLimitConfig where
  enabled : Bool := false
  maxTokens : ℤ := 0
  tokenRefresh : String := ""
  routeMaxTokens : ℤ := 0
  globalMaxTokens : ℤ := 0
  deriving DecidableEq

structure CircuitBreakerConfig where
  enabled : Bool := false
  failureThreshold : ℤ := 0
  successThreshold : ℤ := 0
  timeout : String := ""
  deriving DecidableEq

structure SecurityConfig where
  enabled : Bool := false
  whitelist : List String := []
  blacklist : List String := []
  rateLimit : RateLimitConfig := {}
  circuitBreaker : CircuitBreakerConfig := {}
  trustedProxies : List String := []
  deriving DecidableEq

structure LoginValidationConfig where
  enabled : Bool := false
  batchInterval : String := ""
  batchSize : ℤ := 0
  deriving DecidableEq

structure WAFConfig where
  enabled : Bool := false
  maxPayloadSize : ℤ := 0
  blockAction : String := ""
  deriving DecidableEq

structure JWTAuthConfig where
  enabled : Bool := false
  secret : String := ""
  headerField : String := ""
  deriving DecidableEq

structure CanaryConfig where
  enabled : Bool := false
  percent : ℤ := 0
  headers : List (String × String) := []
  userIDs : List String := []
  targetRoute : String := ""
  deriving DecidableEq

structure TrafficMirrorConfig where
  enabled : Bool := false
  percent : ℤ := 0
  targetAddr : String := ""
  queueSize : ℤ := 0
  workers : ℤ := 0
  deriving DecidableEq

/-- `OTelTracerConfig`: the fields with a default. -/
structure OTelTracerConfig where
  serviceName : String := ""
  sampleRate : ℤ := 0
  queueSize : ℤ := 0
  workers : ℤ := 0
  deriving DecidableEq

structure DegradationRuleConfig where
  route : String := ""
  errorThreshold : ℚ := 0
  windowSize : ℤ := 0
  fallbackData : String := ""
  coolDown : String := ""
  deriving DecidableEq

structure DegradationConfig where
  enabled : Bool := false
  rules : List DegradationRuleConfig := []
  deriving DecidableEq

structure PerfConfig where
  gcPercent : ℤ := 0
  memoryLimitPercent : ℤ := 0
  deriving DecidableEq

structure PipelineConfig where
  asyncEnabled : Bool := false
  workerShards : ℤ := 0
  workerQueueSize : ℤ := 0
  deriving DecidableEq

structure Config where
  httpPort : ℤ := 0
  belong : String := ""
  serverID : String := ""
  serverType : String := ""
  zone : String := ""
  transports : List Transport := []
  grpc : GRPCConfig := {}
  etcd : EtcdConfig := {}
  stream : StreamConfig := {}
  protection : ProtectionConfig := {}
  security : SecurityConfig := {}
  loginValidation : LoginValidationConfig := {}
  waf : WAFConfig := {}
  jwtAuth : JWTAuthConfig := {}
  canary : CanaryConfig := {}
  trafficMirror : TrafficMirrorConfig := {}
  otelTracer : OTelTracerConfig := {}
  alertRateLimit : ℤ := 0
  degradation : DegradationConfig := {}
  perf : PerfConfig := {}
  pipeline : PipelineConfig := {}
  deriving DecidableEq

/-! ## Defaults -/

/-- A value, or a default in place of one that is not positive. -/
def orDefault {α : Type*} [LE α] [OfNat α 0] [DecidableLE α] (x d : α) : α := if x ≤ 0 then d else x

/-- A text, or a default in place of the empty one. -/
def orText (s d : String) : String := if s = "" then d else s

@[simp] theorem orDefault_idem {α : Type*} [LE α] [OfNat α 0] [DecidableLE α] (x d : α) :
    orDefault (orDefault x d) d = orDefault x d := by
  unfold orDefault
  split
  · split <;> rfl
  · rfl

@[simp] theorem orText_idem (s d : String) : orText (orText s d) d = orText s d := by
  unfold orText
  split
  · split <;> rfl
  · rfl

/-- `DefaultMaxFrameSize` and `DefaultMaxWSFrameSize`. -/
def defaultMaxFrameSize : ℤ := 4 * 1024 * 1024

def defaultRateLimitMaxTokens : ℤ := 10000

/-- The defaults of `Protection`. -/
def ProtectionConfig.applyRuntimeDefaults (p : ProtectionConfig) : ProtectionConfig :=
  { p with
    frames :=
      { maxFrameSize := orDefault p.frames.maxFrameSize defaultMaxFrameSize
        maxFrameBufSize := orDefault p.frames.maxFrameBufSize (defaultMaxFrameSize + 4)
        maxWSFrameSize := orDefault p.frames.maxWSFrameSize defaultMaxFrameSize
        maxWSBufferSize := orDefault p.frames.maxWSBufferSize (defaultMaxFrameSize + 14) }
    wsHeartbeatTimeout := orDefault p.wsHeartbeatTimeout 60
    wsCheckInterval := orDefault p.wsCheckInterval 30
    connCheckInterval := orText p.connCheckInterval "5m"
    connIdleTimeout := orText p.connIdleTimeout "5m"
    preAuthCommands := if p.preAuthCommands.length = 0 then [1000001] else p.preAuthCommands
    checkIntervalMs := orDefault p.checkIntervalMs 200
    cpuThreshold := orDefault p.cpuThreshold 90 }

/-- The defaults of `Stream`. -/
def StreamConfig.applyRuntimeDefaults (s : StreamConfig) : StreamConfig :=
  { s with
    sendChannelSize := orDefault s.sendChannelSize 65536
    queuePolicy :=
      { policy := orText s.queuePolicy.policy "drop"
        maxSize := orDefault s.queuePolicy.maxSize 100000
        blockTimeout := orText s.queuePolicy.blockTimeout "500ms"
        backpressureThreshold := orDefault s.queuePolicy.backpressureThreshold (4 / 5)
        sendTimeout := orText s.queuePolicy.sendTimeout "200ms" }
    shardCount := orDefault s.shardCount 96
    connGroupCount := orDefault s.connGroupCount 4 }

/-- The defaults of `Security`. -/
def SecurityConfig.applyRuntimeDefaults (s : SecurityConfig) : SecurityConfig :=
  { s with
    rateLimit :=
      { s.rateLimit with
        maxTokens := orDefault s.rateLimit.maxTokens defaultRateLimitMaxTokens
        tokenRefresh := orText s.rateLimit.tokenRefresh "1s"
        routeMaxTokens := max 0 s.rateLimit.routeMaxTokens
        globalMaxTokens := max 0 s.rateLimit.globalMaxTokens }
    circuitBreaker :=
      { s.circuitBreaker with
        failureThreshold := orDefault s.circuitBreaker.failureThreshold 5
        successThreshold := orDefault s.circuitBreaker.successThreshold 3
        timeout := orText s.circuitBreaker.timeout "30s" } }

def Config.applyRuntimeDefaults (c : Config) : Config :=
  { c with
    protection := c.protection.applyRuntimeDefaults
    grpc :=
      { port := orDefault c.grpc.port 50051
        windowSize := orDefault c.grpc.windowSize 524288
        maxMessageSize := orDefault c.grpc.maxMessageSize (4 * 1024 * 1024) }
    stream := c.stream.applyRuntimeDefaults
    security := c.security.applyRuntimeDefaults
    jwtAuth := { c.jwtAuth with headerField := orText c.jwtAuth.headerField "X-Auth-Token" }
    loginValidation :=
      { c.loginValidation with
        batchInterval := orText c.loginValidation.batchInterval "60s"
        batchSize := orDefault c.loginValidation.batchSize 200 }
    waf :=
      { c.waf with
        maxPayloadSize := orDefault c.waf.maxPayloadSize (1024 * 1024)
        blockAction := orText c.waf.blockAction "drop" }
    pipeline :=
      { c.pipeline with
        workerShards := orDefault c.pipeline.workerShards 0
        workerQueueSize := orDefault c.pipeline.workerQueueSize 65536 }
    etcd :=
      { servicePrefix := orText c.etcd.servicePrefix "/services"
        leaseTTL := orText c.etcd.leaseTTL "10s" }
    perf :=
      { gcPercent := orDefault c.perf.gcPercent 300
        memoryLimitPercent := orDefault c.perf.memoryLimitPercent 80 }
    otelTracer :=
      { serviceName := orText c.otelTracer.serviceName "sgate"
        sampleRate := orDefault c.otelTracer.sampleRate 100
        queueSize := orDefault c.otelTracer.queueSize 1024
        workers := orDefault c.otelTracer.workers 2 }
    alertRateLimit := orDefault c.alertRateLimit 30
    trafficMirror :=
      { c.trafficMirror with
        queueSize := orDefault c.trafficMirror.queueSize 1024
        workers := orDefault c.trafficMirror.workers 2 } }

@[simp] theorem ProtectionConfig.applyRuntimeDefaults_idem (p : ProtectionConfig) :
    p.applyRuntimeDefaults.applyRuntimeDefaults = p.applyRuntimeDefaults := by
  by_cases h : p.preAuthCommands.length = 0
  · simp [applyRuntimeDefaults, h]
  · simp [applyRuntimeDefaults, h]

@[simp] theorem StreamConfig.applyRuntimeDefaults_idem (s : StreamConfig) :
    s.applyRuntimeDefaults.applyRuntimeDefaults = s.applyRuntimeDefaults := by
  simp [applyRuntimeDefaults]

@[simp] theorem SecurityConfig.applyRuntimeDefaults_idem (s : SecurityConfig) :
    s.applyRuntimeDefaults.applyRuntimeDefaults = s.applyRuntimeDefaults := by
  simp [applyRuntimeDefaults]

/-- **Defaults are filled in once**: the comment of `ApplyRuntimeDefaults` calls it idempotent. -/
@[simp] theorem Config.applyRuntimeDefaults_idem (c : Config) :
    c.applyRuntimeDefaults.applyRuntimeDefaults = c.applyRuntimeDefaults := by
  simp [applyRuntimeDefaults]

/-! ## Loading -/

/-- What `Validate` looks at. -/
def Config.gatewayConfig (c : Config) : Gateway.GatewayConfig where
  httpPort := c.httpPort
  belong := c.belong
  serverID := c.serverID
  serverType := c.serverType
  zone := c.zone
  transports := c.transports.length
  jwtEnabled := c.jwtAuth.enabled
  jwtSecret := c.jwtAuth.secret
  trustedProxies := c.security.trustedProxies
  protection := c.protection.frames

/-- Functions of other libraries: the YAML reader, the check of an address or a range, durations as
texts, and the largest slice the Go runtime can make. -/
structure Lib where
  unmarshal : String → Except String Config
  validateIPOrCIDR : String → Option String
  /-- `time.ParseDuration`, in nanoseconds. -/
  parseDuration : String → Option ℤ
  durationString : ℤ → String
  maxSlice : ℤ

variable (lib : Lib)

def Config.validate (c : Config) : Option String := c.gatewayConfig.validate lib.validateIPOrCIDR

def parseDurationDefault (s : String) (d : ℤ) : ℤ := (lib.parseDuration s).getD d

/-- `config.Load`, with the content of the file: the configuration that it stores and returns. -/
def load (content : String) : Except String Config :=
  match lib.unmarshal content with
  | .error err => .error err
  | .ok cfg =>
    match cfg.applyRuntimeDefaults.validate lib with
    | some err => .error err
    | none => .ok cfg.applyRuntimeDefaults

theorem load_spec {lib : Lib} {content : String} {cfg : Config} (h : load lib content = .ok cfg) :
    cfg.applyRuntimeDefaults = cfg ∧ cfg.validate lib = none := by
  unfold load at h
  split at h
  · cases h
  · split at h
    · cases h
    · rename_i hvalid
      cases h
      exact ⟨Config.applyRuntimeDefaults_idem _, hvalid⟩

end Sgate.Settings
