import Sgate.Config.Components

/-! # Hot updates

`configWatcher` passes a changed file to `handleConfigUpdate`, which replaces the configuration of the
running gateway and tells each component. An update can be rejected, and it can panic in the middle:
making the window of a degradation rule with a negative size does. -/

namespace Sgate.HotUpdate

open Settings Security Running
open Gateway (WhitelistBlacklist)

/-! ## Updates -/

/-- How an update ends. -/
inductive Outcome
  | accepted
  | rejected (err : String)
  | panicked
  deriving DecidableEq

structure SecurityEnableFlags where
  security : Bool
  rateLimit : Bool
  waf : Bool
  jwtAuth : Bool
  circuitBreaker : Bool
  deriving DecidableEq

def securityEnableFlagsOf (c : Config) : SecurityEnableFlags where
  security := c.security.enabled
  rateLimit := c.security.rateLimit.enabled
  waf := c.waf.enabled
  jwtAuth := c.jwtAuth.enabled
  circuitBreaker := c.security.circuitBreaker.enabled

structure RateLimitAdminRequest where
  maxTokens : ℤ := 0
  tokenRefresh : String := ""
  routeMaxTokens : ℤ := 0
  globalMaxTokens : ℤ := 0
  deriving DecidableEq

inductive AdminReply
  | error (status : ℕ) (text : String)
  | ok (maxTokens : ℤ) (tokenRefresh : String) (routeMaxTokens globalMaxTokens : ℤ)
  deriving DecidableEq

section

variable (lib : Lib)

/-- The period that a request asks for; `none` if it is not valid. -/
def RateLimitAdminRequest.refresh (req : RateLimitAdminRequest) : Option ℤ :=
  if req.tokenRefresh = "" then some second
  else
    match lib.parseDuration req.tokenRefresh with
    | none => none
    | some d => if d ≤ 0 then none else some d

def RateLimitAdminRequest.tokens (req : RateLimitAdminRequest) : ℤ :=
  if req.maxTokens ≤ 0 then defaultRateLimitMaxTokens else req.maxTokens

def RateLimitAdminRequest.clone (req : RateLimitAdminRequest) (refresh : ℤ) (cur : Config) : Config :=
  { cur with
    security :=
      { cur.security with
        rateLimit :=
          { cur.security.rateLimit with
            maxTokens := req.tokens
            tokenRefresh := lib.durationString refresh
            routeMaxTokens := req.routeMaxTokens
            globalMaxTokens := req.globalMaxTokens } } }

namespace Running

/-- The writes of `handleConfigUpdate` up to the degradation rules, in their order. -/
def write (s : Running) (new : Config) (now : ℤ) : Running :=
  { s with
    cfg := new
    breakerParams := breakerParamsFrom lib new
    rateLimiter := s.rateLimiter.map fun rl =>
      if new.security.rateLimit.enabled then updateLimiter lib new.security.rateLimit now rl else rl
    whitelistBlacklist := s.whitelistBlacklist.map fun wbl =>
      if new.security.enabled then replaceLists wbl new.security.whitelist new.security.blacklist
      else replaceLists wbl [] []
    protection := if s.overloadProtector.isSome then new.protection else s.protection
    limits := updateLimits s.limits new.protection.maxConnections new.protection.maxConnectionsPerIP
    grpcCfg := new.grpc
    streamCfg := new.stream
    -- an empty secret is not taken over
    jwtAuth := s.jwtAuth.map fun f =>
      if new.jwtAuth.enabled = true ∧ new.jwtAuth.secret ≠ "" then ⟨new.jwtAuth.secret⟩ else f
    canaryFilter := s.canaryFilter.map fun f =>
      if new.canary.enabled then f.updateConfig new.canary else f
    trafficMirror := s.trafficMirror.map fun tm =>
      if new.trafficMirror.enabled then tm.updatePercent new.trafficMirror.percent else tm }

def setDegradation (s : Running) (degradation : Option (KeyMap String DegradeRule)) : Running :=
  { s with degradation := degradation }

/-- `conf.Store`. -/
def publish (s : Running) (cfg : Config) : Running := { s with conf := cfg }

/-- The last part of `handleConfigUpdate`: the degradation rules, added one by one. -/
def addDegradation (s : Running) (new : Config) : Running × Outcome :=
  match s.degradation with
  | none => (s, .accepted)
  | some rules =>
    if new.degradation.enabled then
      let r := addRules lib rules new.degradation.rules
      (s.setDegradation (some r.1), if r.2 then .accepted else .panicked)
    else (s, .accepted)

/-- `handleConfigUpdate`. A panic is recovered by the loop that calls it. -/
def handleConfigUpdate (s : Running) (newCfg : Config) (now : ℤ) : Running × Outcome :=
  let new := newCfg.applyRuntimeDefaults
  match new.validate lib with
  | some err => (s, .rejected err)
  | none =>
    if securityEnableFlagsOf s.cfg ≠ securityEnableFlagsOf new then
      (s, .rejected "security enable flags cannot hot-toggle, restart required")
    else (s.write lib new now).addDegradation lib new

/-- A changed file: `configWatcher` with `Load`, which stores the global configuration, and the
update. -/
def reload (s : Running) (content : String) (now : ℤ) : Running × Outcome :=
  match load lib content with
  | .error err => (s, .rejected err)
  | .ok cfg => (s.publish cfg).handleConfigUpdate lib cfg now

/-- `handleAdminRateLimit`; the body is `none` if it is not JSON. -/
def handleAdminRateLimit (s : Running) (body : Option RateLimitAdminRequest) (now : ℤ) :
    Running × AdminReply :=
  match s.rateLimiter with
  | none => (s, .error 503 "rate limiter not enabled")
  | some rl =>
    match body with
    | none => (s, .error 400 "invalid json body")
    | some req =>
      match req.refresh lib with
      | none => (s, .error 400 "invalid tokenRefresh")
      | some refresh =>
        let rl := ((rl.updateRate req.tokens refresh now).setRouteMaxTokens
          req.routeMaxTokens).setGlobalMaxTokens req.globalMaxTokens now
        ({ s with rateLimiter := some rl, cfg := req.clone lib refresh s.cfg },
          .ok req.tokens (lib.durationString refresh) req.routeMaxTokens req.globalMaxTokens)

def callLimiter (s : Running) (c : Call) (now : ℤ) : Running :=
  { s with rateLimiter := s.rateLimiter.map fun rl => (rl.perform now c).1 }

end Running

end

/-! ## What can be observed -/

structure RateParams where
  maxTokens : ℤ
  burstTokens : ℤ
  tokenRefresh : ℤ
  routeMaxTokens : ℤ
  globalMaxTokens : ℤ
  dimensionConfigs : KeyMap String DimensionConfig

def paramsOf (rl : RateLimiter) : RateParams where
  maxTokens := rl.maxTokens
  burstTokens := rl.burstTokens
  tokenRefresh := rl.tokenRefresh
  routeMaxTokens := rl.routeMaxTokens
  globalMaxTokens := rl.globalMaxTokens
  dimensionConfigs := rl.dimensionConfigs

def rateParams (maxTokens tokenRefresh routeMaxTokens globalMaxTokens : ℤ) : RateParams where
  maxTokens := maxTokens
  burstTokens := maxTokens * 2
  tokenRefresh := tokenRefresh
  routeMaxTokens := routeMaxTokens
  globalMaxTokens := globalMaxTokens
  dimensionConfigs := RateLimiter.dimensions maxTokens tokenRefresh routeMaxTokens

/-- The parameters that a configuration asks for. -/
def configuredParams (lib : Lib) (cfg : RateLimitConfig) : RateParams :=
  rateParams (tokensOf cfg) (refreshOf lib cfg) cfg.routeMaxTokens cfg.globalMaxTokens

theorem paramsOf_setRates (rl : RateLimiter) (m r n g now : ℤ) :
    paramsOf (((rl.updateRate m r now).setRouteMaxTokens n).setGlobalMaxTokens g now) =
      rateParams m r n g := by
  have hdims : (((rl.updateRate m r now).setRouteMaxTokens n).setGlobalMaxTokens g now).dimensionConfigs =
      RateLimiter.dimensions m r n := Function.update_idem ..
  unfold paramsOf rateParams
  rw [hdims]
  rfl

def Running.observe (s : Running) : Values × Option RateParams :=
  (s.toValues, s.rateLimiter.map paramsOf)

/-! ## Rules -/

section Rules

variable {lib : Lib} {m m' : KeyMap String DegradeRule} {rcs : List DegradationRuleConfig}

variable {route : String}

end Rules

/-! ## Reloads that fail -/

/-- Everything that a configuration asks for is in force already, the degradation rules as far as they
can be added. -/
structure InForce (lib : Lib) (new : Config) (s : Running) : Prop where
  conf : s.conf = new
  cfg : s.cfg = new
  breakerParams : s.breakerParams = breakerParamsFrom lib new
  rateLimiter : ∀ rl, s.rateLimiter = some rl → new.security.rateLimit.enabled = true →
    paramsOf rl = configuredParams lib new.security.rateLimit
  whitelistBlacklist : ∀ wbl, s.whitelistBlacklist = some wbl → wbl =
    if new.security.enabled then replaceLists wbl new.security.whitelist new.security.blacklist
    else replaceLists wbl [] []
  protection : s.overloadProtector.isSome → s.protection = new.protection
  limits : s.limits =
    updateLimits s.limits new.protection.maxConnections new.protection.maxConnectionsPerIP
  grpcCfg : s.grpcCfg = new.grpc
  streamCfg : s.streamCfg = new.stream
  jwtAuth : ∀ f, s.jwtAuth = some f → new.jwtAuth.enabled = true ∧ new.jwtAuth.secret ≠ "" →
    f = ⟨new.jwtAuth.secret⟩
  canaryFilter : ∀ f, s.canaryFilter = some f → new.canary.enabled = true → f = newCanaryFilter new.canary
  trafficMirror : ∀ tm, s.trafficMirror = some tm → new.trafficMirror.enabled = true →
    tm.percent = new.trafficMirror.percent
  degradation : ∀ rules, s.degradation = some rules → new.degradation.enabled = true →
    (addRules lib rules new.degradation.rules).1 = rules

section Reload

variable {lib : Lib} {s : Running} {cfg : Config} {content : String} {now : ℤ}

variable {rules : KeyMap String DegradeRule}

theorem addDegradation_of_none (h : s.degradation = none) :
    s.addDegradation lib cfg = (s, .accepted) := by
  simp only [addDegradation, h]

theorem addDegradation_of_disabled (h : ¬ cfg.degradation.enabled = true) :
    s.addDegradation lib cfg = (s, .accepted) := by
  unfold addDegradation
  split
  · rfl
  · exact if_neg h

theorem addDegradation_of_some (h : s.degradation = some rules)
    (henabled : cfg.degradation.enabled = true) : s.addDegradation lib cfg =
      (s.setDegradation (some (addRules lib rules cfg.degradation.rules).1),
        if (addRules lib rules cfg.degradation.rules).2 then .accepted else .panicked) := by
  simp only [addDegradation, h, henabled, if_true]

end Reload

def fileWith (cfg : Config) : Lib where
  unmarshal _ := .ok cfg
  validateIPOrCIDR _ := none
  parseDuration _ := none
  durationString _ := ""
  maxSlice := 1000

def smallConfig : Config :=
  { httpPort := 8081, belong := "test", serverID := "gw", serverType := "gate", zone := "z1",
    transports := [⟨10000, "tcp"⟩], degradation := ⟨true, []⟩ }

/-- The states of a gateway that is started with a file, and then updated, asked for other rates, and
used. -/
inductive Reachable (lib : Lib) : Running → Prop
  | start {maphash : String → ℕ} {content : String} {conf : Config} {now : ℤ} {s : Running} :
      load lib content = .ok conf → start lib maphash conf now = some s → Reachable lib s
  | reload {s : Running} (content : String) (now : ℤ) : Reachable lib s →
      Reachable lib (s.reload lib content now).1
  /-- An update from the configuration centre. -/
  | update {s : Running} (newCfg : Config) (now : ℤ) : Reachable lib s →
      Reachable lib (s.handleConfigUpdate lib newCfg now).1
  | admin {s : Running} (body : Option RateLimitAdminRequest) (now : ℤ) : Reachable lib s →
      Reachable lib (s.handleAdminRateLimit lib body now).1
  | call {s : Running} (c : Call) (now : ℤ) : Reachable lib s → Reachable lib (s.callLimiter c now)

/-- The gateway has the components of security that its configuration enables, and an overload
protector. -/
structure WellBuilt (s : Running) : Prop where
  whitelistBlacklist : s.whitelistBlacklist.isSome = s.cfg.security.enabled
  rateLimiter : s.rateLimiter.isSome = s.cfg.security.rateLimit.enabled
  jwtAuth : s.jwtAuth.isSome = s.cfg.jwtAuth.enabled
  overloadProtector : s.overloadProtector.isSome = true

section Built

variable {lib : Lib} {s : Running} {newCfg : Config} {now : ℤ}

/-- **What an update does**: it is rejected and changes nothing, or the configuration is valid, keeps
the flags, and is written. -/
theorem handleConfigUpdate_cases (lib : Lib) (s : Running) (newCfg : Config) (now : ℤ) :
    (∃ err, s.handleConfigUpdate lib newCfg now = (s, .rejected err)) ∨
      newCfg.applyRuntimeDefaults.validate lib = none ∧
      securityEnableFlagsOf s.cfg = securityEnableFlagsOf newCfg.applyRuntimeDefaults ∧
      s.handleConfigUpdate lib newCfg now =
        (s.write lib newCfg.applyRuntimeDefaults now).addDegradation lib newCfg.applyRuntimeDefaults := by
  cases hvalid : newCfg.applyRuntimeDefaults.validate lib with
  | some err => exact .inl ⟨err, by simp only [handleConfigUpdate, hvalid]⟩
  | none =>
    by_cases hflags : securityEnableFlagsOf s.cfg = securityEnableFlagsOf newCfg.applyRuntimeDefaults
    · refine .inr ⟨rfl, hflags, ?_⟩
      simp only [handleConfigUpdate, hvalid, hflags, ne_eq, not_true_eq_false, if_false]
    · refine .inl ⟨"security enable flags cannot hot-toggle, restart required", ?_⟩
      simp only [handleConfigUpdate, hvalid, ne_eq, hflags, not_false_eq_true, if_true]

theorem addDegradation_fst (lib : Lib) (s : Running) (cfg : Config) : (s.addDegradation lib cfg).1 =
    s.setDegradation (s.degradation.map fun rules =>
      if cfg.degradation.enabled then (addRules lib rules cfg.degradation.rules).1 else rules) := by
  cases hrules : s.degradation with
  | none =>
    rw [addDegradation_of_none hrules, Option.map_none, ← hrules]
    rfl
  | some rules =>
    by_cases henabled : cfg.degradation.enabled = true
    · rw [addDegradation_of_some hrules henabled, Option.map_some, if_pos henabled]
    · rw [addDegradation_of_disabled henabled, Option.map_some, if_neg henabled, ← hrules]
      rfl

theorem wellBuilt_build (maphash : String → ℕ) (conf : Config) (now : ℤ)
    (degradation : Option (KeyMap String DegradeRule)) :
    WellBuilt (build lib maphash conf now degradation) where
  whitelistBlacklist := by
    show (if conf.security.enabled then some _ else none).isSome = conf.security.enabled
    cases conf.security.enabled <;> rfl
  rateLimiter := by
    show (if conf.security.rateLimit.enabled then some _ else none).isSome =
      conf.security.rateLimit.enabled
    cases conf.security.rateLimit.enabled <;> rfl
  jwtAuth := by
    show (if conf.jwtAuth.enabled then some _ else none).isSome = conf.jwtAuth.enabled
    cases conf.jwtAuth.enabled <;> rfl
  overloadProtector := rfl

section

variable (h : WellBuilt s)
include h

theorem WellBuilt.write {cfg : Config}
    (hflags : securityEnableFlagsOf s.cfg = securityEnableFlagsOf cfg) (now : ℤ) :
    WellBuilt (s.write lib cfg now) where
  whitelistBlacklist := by
    rw [Running.write, Option.isSome_map, h.whitelistBlacklist]
    exact congrArg SecurityEnableFlags.security hflags
  rateLimiter := by
    rw [Running.write, Option.isSome_map, h.rateLimiter]
    exact congrArg SecurityEnableFlags.rateLimit hflags
  jwtAuth := by
    rw [Running.write, Option.isSome_map, h.jwtAuth]
    exact congrArg SecurityEnableFlags.jwtAuth hflags
  overloadProtector := h.overloadProtector

theorem WellBuilt.setDegradation (degradation : Option (KeyMap String DegradeRule)) :
    WellBuilt (s.setDegradation degradation) :=
  { h with }

theorem WellBuilt.handleConfigUpdate (newCfg : Config) (now : ℤ) :
    WellBuilt (s.handleConfigUpdate lib newCfg now).1 := by
  obtain ⟨err, heq⟩ | ⟨-, hflags, heq⟩ := handleConfigUpdate_cases lib s newCfg now
  · rw [heq]
    exact h
  · rw [heq, addDegradation_fst]
    exact (h.write hflags now).setDegradation _

theorem WellBuilt.publish (cfg : Config) : WellBuilt (s.publish cfg) := { h with }

theorem WellBuilt.reload (content : String) (now : ℤ) : WellBuilt (s.reload lib content now).1 := by
  unfold Running.reload
  split
  · exact h
  · exact (h.publish _).handleConfigUpdate _ now

theorem WellBuilt.handleAdminRateLimit (body : Option RateLimitAdminRequest) (now : ℤ) :
    WellBuilt (s.handleAdminRateLimit lib body now).1 := by
  unfold Running.handleAdminRateLimit
  split
  · exact h
  · split
    · exact h
    · split
      · exact h
      · rename_i rl hrl _ req _ refresh hrefresh
        have hsome := h.rateLimiter
        rw [hrl] at hsome
        exact { h with rateLimiter := hsome }

theorem WellBuilt.callLimiter (c : Call) (now : ℤ) :
    WellBuilt (s.callLimiter c now) where
  __ := h
  rateLimiter := by
    rw [Running.callLimiter, Option.isSome_map]
    exact h.rateLimiter

end

theorem start_eq_some {maphash : String → ℕ} {conf : Config} (h : start lib maphash conf now = some s) :
    ∃ degradation, newDegradation lib conf.degradation = some degradation ∧
      s = build lib maphash conf now degradation := by
  unfold start at h
  split at h
  · cases h
  · obtain ⟨degradation, hnew, rfl⟩ := Option.map_eq_some_iff.mp h
    exact ⟨degradation, hnew, rfl⟩

/-- **Every state.** -/
theorem Reachable.wellBuilt (h : Reachable lib s) : WellBuilt s := by
  induction h with
  | start _ hstart =>
    obtain ⟨degradation, -, rfl⟩ := start_eq_some hstart
    exact wellBuilt_build _ _ _ degradation
  | reload content now _ ih => exact ih.reload content now
  | update newCfg now _ ih => exact ih.handleConfigUpdate newCfg now
  | admin body now _ ih => exact ih.handleAdminRateLimit body now
  | call c now _ ih => exact ih.callLimiter c now

end Built

end Sgate.HotUpdate
