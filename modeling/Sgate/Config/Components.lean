import Sgate.Config.Settings
import Sgate.Connection.Admission
import Sgate.Security.RateReload

/-! # The components of a running gateway

The components that take parameters from the configuration, with their constructors and the methods by
which a hot update changes them. A pointer that may be nil is an `Option`. -/

namespace Sgate.HotUpdate

open Settings Security
open Gateway (WhitelistBlacklist)

/-! ## Components -/

/-- `ReplaceWhitelist` and `ReplaceBlacklist`. -/
def replaceLists (_wbl : WhitelistBlacklist) (whitelist blacklist : List String) :
    WhitelistBlacklist :=
  ⟨whitelist.toFinset, blacklist.toFinset⟩

def newWhitelistBlacklist (whitelist blacklist : List String) : WhitelistBlacklist where
  whitelist := whitelist.foldl (fun m ip => insert ip m) ∅
  blacklist := blacklist.foldl (fun m ip => insert ip m) ∅

structure CanaryFilter where
  percent : ℤ
  headers : List (String × String)
  userIDs : Finset String
  targetRoute : String
  deriving DecidableEq

def newCanaryFilter (cfg : CanaryConfig) : CanaryFilter :=
  ⟨cfg.percent, cfg.headers, cfg.userIDs.toFinset, cfg.targetRoute⟩

def CanaryFilter.updateConfig (_f : CanaryFilter) (cfg : CanaryConfig) : CanaryFilter where
  percent := cfg.percent
  headers := cfg.headers
  userIDs := cfg.userIDs.toFinset
  targetRoute := cfg.targetRoute

structure TrafficMirror where
  percent : ℤ
  targetAddr : String
  deriving DecidableEq

def newTrafficMirror (cfg : TrafficMirrorConfig) : TrafficMirror := ⟨cfg.percent, cfg.targetAddr⟩

def TrafficMirror.updatePercent (tm : TrafficMirror) (p : ℤ) : TrafficMirror := { tm with percent := p }

structure DegradeRule where
  route : String
  errorThreshold : ℚ
  windowSize : ℤ
  fallbackData : String
  coolDown : ℤ
  deriving DecidableEq

structure JWTAuthFilter where
  secret : String
  deriving DecidableEq

/-- `OverloadProtector`: what it takes from the configuration. -/
structure OverloadProtector where
  cpuThreshold : ℚ
  dropOnOverload : Bool
  observeOnly : Bool
  checkInterval : ℤ
  deriving DecidableEq

def millisecond : ℤ := 1000000

def newOverloadProtector (cfg : ProtectionConfig) : OverloadProtector where
  cpuThreshold := if cfg.cpuThreshold ≤ 0 then 90 else cfg.cpuThreshold
  dropOnOverload := cfg.dropOnOverload
  observeOnly := cfg.benchMode
  checkInterval := if 0 < cfg.checkIntervalMs then cfg.checkIntervalMs * millisecond else 200 * millisecond

structure BreakerParams where
  failureThreshold : ℤ
  successThreshold : ℤ
  timeout : ℤ
  deriving DecidableEq

def int32 (n : ℤ) : ℤ := Int.bmod n (2 ^ 32)

/-- The limits that `NewConnectionManager` stores. -/
def newLimits (maxConn maxConnPerIP : ℤ) : Limits := ⟨int32 maxConn, int32 maxConnPerIP⟩

def updateLimits (limits : Limits) (maxConn maxConnPerIP : ℤ) : Limits where
  maxConnections := if 0 ≤ maxConn then int32 maxConn else limits.maxConnections
  maxConnectionsPerIP := if 0 ≤ maxConnPerIP then int32 maxConnPerIP else limits.maxConnectionsPerIP

section

variable (lib : Lib)

/-- `newDegradationRule`; `none` if making the window panics. -/
def newDegradationRule (rc : DegradationRuleConfig) : Option DegradeRule :=
  if rc.windowSize < 0 ∨ lib.maxSlice < rc.windowSize then none
  else some
    { route := rc.route
      errorThreshold := if rc.errorThreshold ≤ 0 then 1 / 2 else rc.errorThreshold
      windowSize := if rc.windowSize ≤ 0 then 100 else rc.windowSize
      fallbackData := rc.fallbackData
      coolDown := parseDurationDefault lib rc.coolDown (30 * second) }

/-- `AddRule` for one rule after the other, until one panics. The flag says that none did. -/
def addRules (rules : KeyMap String DegradeRule) :
    List DegradationRuleConfig → KeyMap String DegradeRule × Bool
  | [] => (rules, true)
  | rc :: rcs =>
    match newDegradationRule lib rc with
    | none => (rules, false)
    | some r => addRules (rules.store rc.route r) rcs

def breakerParamsFrom (cfg : Config) : Option BreakerParams :=
  let cb := cfg.security.circuitBreaker
  if cb.enabled then
    let d := parseDurationDefault lib cb.timeout 0
    some
      { failureThreshold := if 0 < cb.failureThreshold then cb.failureThreshold else 5
        successThreshold := if 0 < cb.successThreshold then cb.successThreshold else 3
        timeout := if 0 < d then d else 30 * second }
  else none

def tokensOf (cfg : RateLimitConfig) : ℤ :=
  if cfg.maxTokens ≤ 0 then defaultRateLimitMaxTokens else cfg.maxTokens

/-- The period that a configuration asks for. -/
def refreshOf (cfg : RateLimitConfig) : ℤ :=
  let d := parseDurationDefault lib cfg.tokenRefresh 0
  if 0 < d then d else second

/-- The limiter that `SecurityComponent.Init` makes. -/
def newLimiter (maphash : String → ℕ) (cfg : RateLimitConfig) (now : ℤ) : RateLimiter :=
  let rl := RateLimiter.newRateLimiter maphash (tokensOf cfg) (refreshOf lib cfg) now
  let rl := if 0 < cfg.routeMaxTokens then rl.setRouteMaxTokens cfg.routeMaxTokens else rl
  if 0 < cfg.globalMaxTokens then rl.setGlobalMaxTokens cfg.globalMaxTokens now else rl

/-- The calls by which a hot update changes a limiter. -/
def updateLimiter (cfg : RateLimitConfig) (now : ℤ) (rl : RateLimiter) : RateLimiter :=
  ((rl.updateRate (tokensOf cfg) (refreshOf lib cfg) now).setRouteMaxTokens
    cfg.routeMaxTokens).setGlobalMaxTokens cfg.globalMaxTokens now

end

/-! ## The gateway -/

/-- What a running gateway has from its configuration, without the rate limiter. -/
@[ext]
structure Values where
  /-- The global configuration, `config.Get()`. -/
  conf : Config
  cfg : Config
  breakerParams : Option BreakerParams
  protection : ProtectionConfig
  grpcCfg : GRPCConfig
  streamCfg : StreamConfig
  limits : Limits
  whitelistBlacklist : Option WhitelistBlacklist
  overloadProtector : Option OverloadProtector
  jwtAuth : Option JWTAuthFilter
  canaryFilter : Option CanaryFilter
  trafficMirror : Option TrafficMirror
  degradation : Option (KeyMap String DegradeRule)

structure Running extends Values where
  rateLimiter : Option RateLimiter

section

variable (lib : Lib)

/-- The rules that `TrafficComponent.Init` makes; `none` outside if that panics. -/
def newDegradation (cfg : DegradationConfig) : Option (Option (KeyMap String DegradeRule)) :=
  if cfg.enabled then
    match addRules lib .empty cfg.rules with
    | (rules, true) => some (some rules)
    | (_, false) => none
  else some none

/-- The gateway that `SecurityComponent.Init`, `TrafficComponent.Init` and `newGateway` build from a
loaded configuration, with its degradation rules. -/
def build (maphash : String → ℕ) (conf : Config) (now : ℤ)
    (degradation : Option (KeyMap String DegradeRule)) : Running :=
  let cfg := conf.applyRuntimeDefaults
  { conf := conf
    cfg := cfg
    breakerParams := breakerParamsFrom lib cfg
    protection := cfg.protection
    grpcCfg := cfg.grpc
    streamCfg := cfg.stream
    limits := newLimits cfg.protection.maxConnections cfg.protection.maxConnectionsPerIP
    whitelistBlacklist :=
      if conf.security.enabled then
        some (newWhitelistBlacklist conf.security.whitelist conf.security.blacklist)
      else none
    overloadProtector := some (newOverloadProtector cfg.protection)
    jwtAuth := if conf.jwtAuth.enabled then some ⟨conf.jwtAuth.secret⟩ else none
    canaryFilter := if conf.canary.enabled then some (newCanaryFilter conf.canary) else none
    trafficMirror :=
      if conf.trafficMirror.enabled then some (newTrafficMirror conf.trafficMirror) else none
    degradation := degradation
    rateLimiter :=
      if conf.security.rateLimit.enabled then some (newLimiter lib maphash conf.security.rateLimit now)
      else none }

/-- A start of the gateway. It fails if JWT has no secret or a degradation rule panics. -/
def start (maphash : String → ℕ) (conf : Config) (now : ℤ) : Option Running :=
  if conf.jwtAuth.enabled = true ∧ conf.jwtAuth.secret = "" then none
  else (newDegradation lib conf.degradation).map (build lib maphash conf now)

end

end Sgate.HotUpdate
