import Mathlib.Data.Fintype.Basic
import Sgate.Config.Restart

/-! # A request for other rates during an update

`handleAdminRateLimit` changes the limiter, then loads `g.cfg` and stores a clone with its rates;
`handleConfigUpdate` stores a new configuration and then changes the limiter. Each load and store of
`g.cfg` and each call to the limiter is one step; `stepAdmin_alone` and `stepUpdate_alone` say that the
steps of each side make up the call. -/

namespace Sgate.HotUpdate

open Settings Security Transition Running RateParams

/-! ## The limiter and the configuration -/

/-- Durations can be read back. -/
def Lawful (lib : Lib) : Prop := ∀ d, 0 < d → lib.parseDuration (lib.durationString d) = some d

/-- The limiter has the parameters that the configuration asks for. -/
def InSync (lib : Lib) (s : Running) : Prop :=
  ∀ rl, s.rateLimiter = some rl → paramsOf rl = configuredParams lib s.cfg.security.rateLimit

section Sync

variable {lib : Lib} {s : Running} {now : ℤ} {req : RateLimitAdminRequest} {refresh : ℤ}

theorem refresh_pos (h : req.refresh lib = some refresh) : 0 < refresh := by
  unfold RateLimitAdminRequest.refresh at h
  split at h
  · cases h
    decide
  · split at h
    · cases h
    · split at h <;> cases h
      omega

theorem configuredParams_clone (hlib : Lawful lib) (h : 0 < refresh) (cur : Config) :
    configuredParams lib (req.clone lib refresh cur).security.rateLimit =
      rateParams req.tokens refresh req.routeMaxTokens req.globalMaxTokens := by
  have htokens : tokensOf (req.clone lib refresh cur).security.rateLimit = req.tokens := by
    have hpos : ¬ req.tokens ≤ 0 := by
      unfold RateLimitAdminRequest.tokens
      split
      · decide
      · omega
    exact if_neg hpos
  have hrefresh : refreshOf lib (req.clone lib refresh cur).security.rateLimit = refresh := by
    show (if 0 < (lib.parseDuration (lib.durationString refresh)).getD 0 then
      (lib.parseDuration (lib.durationString refresh)).getD 0 else second) = refresh
    rw [hlib refresh h, Option.getD_some, if_pos h]
  rw [configuredParams, htokens, hrefresh]
  rfl

theorem InSync.handleConfigUpdate (h : InSync lib s) (hs : WellBuilt s) (newCfg : Config) (now : ℤ) :
    InSync lib (s.handleConfigUpdate lib newCfg now).1 := by
  obtain ⟨err, heq⟩ | ⟨-, hflags, heq⟩ := handleConfigUpdate_cases lib s newCfg now
  · rw [heq]
    exact h
  · rw [heq, addDegradation_fst]
    intro rl hrl
    obtain ⟨-, hnone⟩ | ⟨-, rl', hrl', -, hparams⟩ := rateLimiter_write hs hflags lib now
    · cases hrl.symm.trans hnone
    · cases hrl.symm.trans hrl'
      exact hparams

theorem InSync.handleAdminRateLimit (h : InSync lib s) (hlib : Lawful lib)
    (body : Option RateLimitAdminRequest) (now : ℤ) :
    InSync lib (s.handleAdminRateLimit lib body now).1 := by
  unfold Running.handleAdminRateLimit
  split
  · exact h
  · split
    · exact h
    · split
      · exact h
      · rename_i rl hrl _ req _ refresh hrefresh
        rintro rl' ⟨⟩
        rw [configuredParams_clone hlib (refresh_pos hrefresh)]
        exact paramsOf_setRates rl _ _ _ _ now

theorem paramsOf_perform (rl : RateLimiter) (now : ℤ) (c : Call) :
    paramsOf (rl.perform now c).1 = paramsOf rl := by
  cases c with
  | allow d k =>
    simp only [RateLimiter.perform, RateLimiter.allow]
    split
    · rfl
    · split <;> rfl
  | allowGlobal =>
    simp only [RateLimiter.perform, RateLimiter.allowGlobal]
    split <;> rfl
  | cleanup => rfl

/-- **Without overlap** the limiter has the rates of the configuration in every state. -/
theorem Reachable.inSync (h : Reachable lib s) (hlib : Lawful lib) : InSync lib s := by
  induction h with
  | @start maphash content conf now s hload hstart =>
    obtain ⟨degradation, -, rfl⟩ := start_eq_some hstart
    obtain ⟨hdefaults, -⟩ := load_spec hload
    intro rl hrl
    have hlimiter : (if conf.security.rateLimit.enabled then
        some (newLimiter lib maphash conf.security.rateLimit now) else none) = some rl := hrl
    split at hlimiter <;> cases hlimiter
    have hroute : 0 ≤ conf.security.rateLimit.routeMaxTokens := by
      rw [← hdefaults]
      exact le_max_left ..
    have hglobal : 0 ≤ conf.security.rateLimit.globalMaxTokens := by
      rw [← hdefaults]
      exact le_max_left ..
    show _ = configuredParams lib conf.applyRuntimeDefaults.security.rateLimit
    rw [hdefaults]
    exact paramsOf_newLimiter maphash hroute hglobal now
  | reload content now hs ih =>
    unfold Running.reload
    split
    · exact ih
    · rename_i cfg _
      have hpublished : InSync lib (Running.publish _ cfg) := ih
      exact hpublished.handleConfigUpdate (hs.wellBuilt.publish cfg) cfg now
  | update newCfg now hs ih => exact ih.handleConfigUpdate hs.wellBuilt newCfg now
  | admin body now _ ih => exact ih.handleAdminRateLimit hlib body now
  | call c now _ ih =>
    intro rl hrl
    obtain ⟨rl', hrl', rfl⟩ := Option.map_eq_some_iff.mp hrl
    rw [paramsOf_perform]
    exact ih rl' hrl'

end Sync

/-! ## Steps -/

/-- The three calls that set the rates of a limiter. -/
inductive Part
  | rate
  | route
  | global
  deriving DecidableEq

instance : Fintype Part := ⟨{.rate, .route, .global}, fun part => by cases part <;> decide⟩

structure Rates where
  maxTokens : ℤ
  tokenRefresh : ℤ
  routeMaxTokens : ℤ
  globalMaxTokens : ℤ
  deriving DecidableEq

/-- The rates that an update sets. -/
def configuredRates (lib : Lib) (cfg : RateLimitConfig) : Rates :=
  ⟨tokensOf cfg, refreshOf lib cfg, cfg.routeMaxTokens, cfg.globalMaxTokens⟩

/-- The rates that a request sets. -/
def RateLimitAdminRequest.rates (req : RateLimitAdminRequest) (refresh : ℤ) : Rates :=
  ⟨req.tokens, refresh, req.routeMaxTokens, req.globalMaxTokens⟩

/-- One of the calls on the limiter. -/
def setPart (part : Part) (v : Rates) (now : ℤ) (rl : RateLimiter) : RateLimiter :=
  match part with
  | .rate => rl.updateRate v.maxTokens v.tokenRefresh now
  | .route => rl.setRouteMaxTokens v.routeMaxTokens
  | .global => rl.setGlobalMaxTokens v.globalMaxTokens now

inductive AdminPc
  | received
  /-- Before one of the calls to the limiter. -/
  | change (part : Part) (req : RateLimitAdminRequest) (refresh : ℤ)
  | load (req : RateLimitAdminRequest) (refresh : ℤ)
  | store (req : RateLimitAdminRequest) (refresh : ℤ) (cur : Config)
  | replied
  /-- There is no limiter, or the body is not valid. -/
  | refused
  deriving DecidableEq

inductive UpdatePc
  | received
  | store
  | change (part : Part)
  /-- The writes that concern neither `g.cfg` nor the limiter. -/
  | rest
  | finished
  | rejected
  deriving DecidableEq

open UpdatePc

section

variable (lib : Lib)

namespace Running

def setRates (s : Running) (part : Part) (v : Rates) (now : ℤ) : Running :=
  { s with rateLimiter := s.rateLimiter.map (setPart part v now) }

/-- `g.cfg.Store`. -/
def storeCfg (s : Running) (cfg : Config) : Running := { s with cfg := cfg }

/-- What an update writes besides `g.cfg` and the limiter. -/
def writeRest (s : Running) (new : Config) (now : ℤ) : Running :=
  { s.write lib new now with cfg := s.cfg, rateLimiter := s.rateLimiter }

end Running

/-- The request, with its period; `none` if the body or the period is not valid. -/
def asked (body : Option RateLimitAdminRequest) : Option (RateLimitAdminRequest × ℤ) :=
  body.bind fun req => (req.refresh lib).map fun refresh => (req, refresh)

/-- One step of `handleAdminRateLimit`. -/
def stepAdmin (body : Option RateLimitAdminRequest) (s : Running) (now : ℤ) :
    AdminPc → Option (Running × AdminPc)
  | .received =>
    match s.rateLimiter, asked lib body with
    | some _, some (req, refresh) => some (s, .change .rate req refresh)
    | _, _ => some (s, .refused)
  -- the limiter is changed before `g.cfg` is loaded
  | .change .rate req refresh =>
    some (s.setRates .rate (req.rates refresh) now, .change .route req refresh)
  | .change .route req refresh =>
    some (s.setRates .route (req.rates refresh) now, .change .global req refresh)
  | .change .global req refresh => some (s.setRates .global (req.rates refresh) now, .load req refresh)
  | .load req refresh => some (s, .store req refresh s.cfg)
  -- whatever `g.cfg` is by now
  | .store req refresh cur => some (s.storeCfg (req.clone lib refresh cur), .replied)
  | .replied | .refused => none

/-- One step of `handleConfigUpdate`. -/
def stepUpdate (newCfg : Config) (s : Running) (now : ℤ) : UpdatePc → Option (Running × UpdatePc)
  | .received =>
    match newCfg.applyRuntimeDefaults.validate lib with
    | some _ => some (s, .rejected)
    | none =>
      if securityEnableFlagsOf s.cfg ≠ securityEnableFlagsOf newCfg.applyRuntimeDefaults then
        some (s, .rejected)
      else some (s, .store)
  -- `g.cfg` is stored before the limiter is changed
  | .store =>
    some (s.storeCfg newCfg.applyRuntimeDefaults,
      if s.rateLimiter.isSome = true ∧ newCfg.applyRuntimeDefaults.security.rateLimit.enabled = true then
        .change .rate
      else .rest)
  | .change .rate => some (s.setRates .rate (configuredRates lib
      newCfg.applyRuntimeDefaults.security.rateLimit) now, .change .route)
  | .change .route => some (s.setRates .route (configuredRates lib
      newCfg.applyRuntimeDefaults.security.rateLimit) now, .change .global)
  | .change .global => some (s.setRates .global (configuredRates lib
      newCfg.applyRuntimeDefaults.security.rateLimit) now, .rest)
  | .rest => some (((s.writeRest lib newCfg.applyRuntimeDefaults now).addDegradation lib
      newCfg.applyRuntimeDefaults).1, .finished)
  | .finished | .rejected => none

/-- A gateway with a request and an update under way. -/
structure Race where
  gateway : Running
  admin : AdminPc := .received
  update : UpdatePc := .received

/-- Which of the two makes a step, and when. -/
inductive RaceAction
  | admin (now : ℤ)
  | update (now : ℤ)

def stepRace (body : Option RateLimitAdminRequest) (newCfg : Config) (r : Race) :
    RaceAction → Option Race
  | .admin now => (stepAdmin lib body r.gateway now r.admin).map fun p =>
    { r with gateway := p.1, admin := p.2 }
  | .update now => (stepUpdate lib newCfg r.gateway now r.update).map fun p =>
    { r with gateway := p.1, update := p.2 }

end

/-- The calls that a request has made. -/
def AdminPc.did : AdminPc → Part → Bool
  | .received | .refused => fun _ => false
  | .change .rate _ _ => fun _ => false
  | .change .route _ _ => fun part => part = .rate
  | .change .global _ _ => fun part => part ≠ .global
  | .load _ _ | .store _ _ _ | .replied => fun _ => true

def UpdatePc.did : UpdatePc → Part → Bool
  | .received | .store | .rejected => fun _ => false
  | .change .rate => fun _ => false
  | .change .route => fun part => part = .rate
  | .change .global => fun part => part ≠ .global
  | .rest | .finished => fun _ => true

def UpdatePc.stored : UpdatePc → Bool
  | .received | .store | .rejected => false
  | .change _ | .rest | .finished => true

def AdminPc.ended : AdminPc → Bool
  | .replied | .refused => true
  | _ => false

def UpdatePc.ended : UpdatePc → Bool
  | .finished | .rejected => true
  | _ => false

/-- The request changes a rate only before the update has stored its configuration or after the update
has changed that rate; the update stores before the first change of the request or after its end. -/
def Orderly (r : Race) : RaceAction → Prop
  | .admin _ => match r.admin with
      | .change part _ _ => r.update.stored = true → r.update.did part = true
      | _ => True
  | .update _ => r.update = .store → (∀ part, r.admin.did part = false) ∨ r.admin.ended = true

instance decidableOrderly (r : Race) : DecidablePred (Orderly r) := fun action => by
  unfold Orderly
  split
  · split <;> infer_instance
  · infer_instance

/-! ## Rates, part by part -/

/-- The rates that one call sets. -/
def Rates.part (v : Rates) : Part → ℤ × ℤ
  | .rate => (v.maxTokens, v.tokenRefresh)
  | .route => (v.routeMaxTokens, 0)
  | .global => (v.globalMaxTokens, 0)

/-- The rates `v`, but for one call those of `w`. -/
def Rates.set (v w : Rates) : Part → Rates
  | .rate => { v with maxTokens := w.maxTokens, tokenRefresh := w.tokenRefresh }
  | .route => { v with routeMaxTokens := w.routeMaxTokens }
  | .global => { v with globalMaxTokens := w.globalMaxTokens }

/-- The limiter has these rates, and its other parameters follow from them. -/
def HasRates (s : Running) (v : Rates) : Prop :=
  ∀ rl, s.rateLimiter = some rl →
    paramsOf rl = rateParams v.maxTokens v.tokenRefresh v.routeMaxTokens v.globalMaxTokens

section Parts

variable {s s' : Running} {part p : Part} {v w : Rates}

theorem Rates.part_set : (v.set w part).part p = if p = part then w.part p else v.part p := by
  cases part <;> cases p <;> rfl

theorem Rates.eq_of_part (h : ∀ p, v.part p = w.part p) : v = w := by
  obtain ⟨hmax, hrefresh⟩ := Prod.mk.inj (h .rate)
  have hroute := congrArg Prod.fst (h .route)
  have hglobal := congrArg Prod.fst (h .global)
  cases v
  cases w
  exact (mk.injEq ..).mpr ⟨hmax, hrefresh, hroute, hglobal⟩

theorem HasRates.congr (h : HasRates s v) (hsame : s'.rateLimiter = s.rateLimiter) : HasRates s' v := by
  intro rl hrl
  exact h rl (hsame ▸ hrl)

theorem HasRates.setRates (h : HasRates s v) (part : Part) (w : Rates) (now : ℤ) :
    HasRates (s.setRates part w now) (v.set w part) := by
  intro rl hrl
  obtain ⟨rl', hrl', rfl⟩ := Option.map_eq_some_iff.mp hrl
  obtain ⟨hmax, hburst, hrefresh, hroute, hglobal, hdims⟩ := RateParams.mk.inj (h rl' hrl')
  cases part with
  | rate =>
    show _ = rateParams w.maxTokens w.tokenRefresh v.routeMaxTokens v.globalMaxTokens
    rw [← hroute, ← hglobal]
    rfl
  | route =>
    show RateParams.mk rl'.maxTokens rl'.burstTokens rl'.tokenRefresh w.routeMaxTokens
      rl'.globalMaxTokens (rl'.dimensionConfigs.store "route" _) = _
    rw [hmax, hburst, hrefresh, hglobal, hdims]
    exact congrArg (RateParams.mk _ _ _ _ _) (Function.update_idem ..)
  | global =>
    show RateParams.mk rl'.maxTokens rl'.burstTokens rl'.tokenRefresh rl'.routeMaxTokens
      w.globalMaxTokens rl'.dimensionConfigs = _
    rw [hmax, hburst, hrefresh, hroute, hdims]
    rfl

end Parts

/-! ## What the calls come to -/

section Calls

variable (lib : Lib) (body : Option RateLimitAdminRequest) (newCfg : Config)

/-- What a request makes of the configuration. -/
def adminCfg (c : Config) : Config :=
  match asked lib body with
  | some (req, refresh) => req.clone lib refresh c
  | none => c

/-- An update is accepted by a gateway with this configuration. -/
def Accepted (c : Config) : Prop :=
  newCfg.applyRuntimeDefaults.validate lib = none ∧
    securityEnableFlagsOf c = securityEnableFlagsOf newCfg.applyRuntimeDefaults

variable {lib body newCfg} {s s' : Running} {now : ℤ} {pc pc' : AdminPc} {upc upc' : UpdatePc}

theorem accepted_adminCfg (c : Config) : Accepted lib newCfg (adminCfg lib body c) ↔ Accepted lib newCfg c := by
  unfold adminCfg
  split <;> exact Iff.rfl

theorem cfg_handleAdminRateLimit (s : Running) (now : ℤ) :
    (s.handleAdminRateLimit lib body now).1.cfg =
      if s.rateLimiter.isSome then adminCfg lib body s.cfg else s.cfg := by
  cases hrl : s.rateLimiter with
  | none => simp [handleAdminRateLimit, hrl]
  | some rl =>
    cases body with
    | none => simp [handleAdminRateLimit, hrl, adminCfg, asked]
    | some req =>
      cases hrefresh : req.refresh lib <;>
        simp [handleAdminRateLimit, hrl, hrefresh, adminCfg, asked]

theorem handleConfigUpdate_of_accepted (h : Accepted lib newCfg s.cfg) (now : ℤ) :
    s.handleConfigUpdate lib newCfg now = (s.write lib newCfg.applyRuntimeDefaults
      now).addDegradation lib newCfg.applyRuntimeDefaults := by
  simp only [handleConfigUpdate, h.1, h.2, ne_eq, not_true_eq_false, if_false]

theorem cfg_of_accepted (h : Accepted lib newCfg s.cfg) (now : ℤ) :
    (s.handleConfigUpdate lib newCfg now).1.cfg = newCfg.applyRuntimeDefaults := by
  rw [handleConfigUpdate_of_accepted h, addDegradation_fst]
  rfl

theorem handleConfigUpdate_of_not_accepted (h : ¬ Accepted lib newCfg s.cfg) (now : ℤ) :
    (s.handleConfigUpdate lib newCfg now).1 = s := by
  obtain ⟨err, heq⟩ | ⟨hvalid, hflags, -⟩ := handleConfigUpdate_cases lib s newCfg now
  · rw [heq]
  · exact absurd ⟨hvalid, hflags⟩ h

theorem isSome_handleConfigUpdate (s : Running) (now : ℤ) :
    (s.handleConfigUpdate lib newCfg now).1.rateLimiter.isSome = s.rateLimiter.isSome := by
  obtain ⟨err, heq⟩ | ⟨-, -, heq⟩ := handleConfigUpdate_cases lib s newCfg now
  · rw [heq]
  · rw [heq, addDegradation_fst]
    exact Option.isSome_map

/-- A request is served if there is a limiter and it is valid, and then it is the request in hand. -/
def AdminPc.Serves (lib : Lib) (body : Option RateLimitAdminRequest) (limited : Bool) : AdminPc → Prop
  | .received => True
  | .refused => limited = false ∨ asked lib body = none
  | .change _ req refresh | .load req refresh | .store req refresh _ =>
    limited = true ∧ asked lib body = some (req, refresh)
  | .replied => limited = true ∧ (asked lib body).isSome = true

/-- The rates of a valid request. -/
def askedRates (lib : Lib) (body : Option RateLimitAdminRequest) : Rates :=
  match asked lib body with
  | some (req, refresh) => req.rates refresh
  | none => ⟨0, 0, 0, 0⟩

/-- What a request that works on the configuration `c` has made of it so far. -/
def BasedOn (lib : Lib) (body : Option RateLimitAdminRequest) (c : Config) (pc : AdminPc) (cfg : Config) :
    Prop :=
  match pc with
  | .replied => cfg = adminCfg lib body c
  | .store _ _ cur => cfg = c ∧ cur = c
  | .received | .change _ _ _ | .load _ _ | .refused => cfg = c

theorem BasedOn.accepted_iff {c cfg : Config} (h : BasedOn lib body c pc cfg) :
    Accepted lib newCfg cfg ↔ Accepted lib newCfg c := by
  cases pc with
  | replied =>
    cases h
    exact accepted_adminCfg c
  | store => rw [h.1]
  | received | change | load | refused => rw [show cfg = c from h]

/-- **What a step of the request does**: it makes one of its calls, or leaves the limiter alone. -/
theorem stepAdmin_spec (h : stepAdmin lib body s now pc = some (s', pc'))
    (hserves : pc.Serves lib body s.rateLimiter.isSome) :
    pc'.Serves lib body s.rateLimiter.isSome ∧
    (∀ c, BasedOn lib body c pc s.cfg → BasedOn lib body c pc' s'.cfg) ∧
    ((s'.rateLimiter = s.rateLimiter ∧ pc'.did = pc.did) ∨
      ∃ part req refresh, pc = .change part req refresh ∧
        s' = s.setRates part (askedRates lib body) now ∧
        ∀ p, pc'.did p = true ↔ pc.did p = true ∨ p = part) := by
  cases pc with
  | received =>
    simp only [stepAdmin] at h
    split at h
    · rename_i hrl hasked
      cases h
      exact ⟨⟨by rw [hrl]; rfl, hasked⟩, fun c hc => hc, .inl ⟨rfl, rfl⟩⟩
    · rename_i hnot
      cases h
      refine ⟨?_, fun c hc => hc, .inl ⟨rfl, rfl⟩⟩
      cases hrl : s.rateLimiter with
      | none => exact .inl rfl
      | some rl =>
        refine .inr ?_
        cases hasked : asked lib body with
        | none => rfl
        | some p => exact absurd hasked (hnot rl p.1 p.2 hrl)
  | change part req refresh =>
    have hasked : asked lib body = some (req, refresh) := hserves.2
    have hrates : askedRates lib body = req.rates refresh := by rw [askedRates, hasked]
    rw [hrates]
    cases part with
    | rate =>
      cases h
      exact ⟨hserves, fun c hc => hc, .inr ⟨_, _, _, rfl, rfl, by simp [AdminPc.did]⟩⟩
    | route | global =>
      cases h
      exact ⟨hserves, fun c hc => hc,
        .inr ⟨_, _, _, rfl, rfl, fun p => by cases p <;> simp [AdminPc.did]⟩⟩
  | load req refresh =>
    cases h
    exact ⟨hserves, fun c hc => ⟨hc, hc⟩, .inl ⟨rfl, rfl⟩⟩
  | store req refresh cur =>
    cases h
    have hasked : asked lib body = some (req, refresh) := hserves.2
    refine ⟨⟨hserves.1, by rw [hasked]; rfl⟩, fun c hc => ?_, .inl ⟨rfl, rfl⟩⟩
    obtain ⟨-, rfl⟩ := hc
    show _ = adminCfg lib body cur
    rw [adminCfg, hasked]
    rfl
  | replied | refused => cases h

/-- **What a step of the update does.** -/
theorem stepUpdate_spec (h : stepUpdate lib newCfg s now upc = some (s', upc')) :
    (upc = .received ∧ s' = s ∧ (Accepted lib newCfg s.cfg ∧ upc' = .store ∨
      ¬ Accepted lib newCfg s.cfg ∧ upc' = .rejected)) ∨
    (upc = .store ∧ s' = s.storeCfg newCfg.applyRuntimeDefaults ∧
      (upc' = .change .rate ∨ upc' = .rest ∧ ¬ (s.rateLimiter.isSome = true ∧
          newCfg.applyRuntimeDefaults.security.rateLimit.enabled = true))) ∨
    (∃ part, upc = .change part ∧ upc'.stored = true ∧
      s' = s.setRates part (configuredRates lib newCfg.applyRuntimeDefaults.security.rateLimit) now ∧
      ∀ p, upc'.did p = true ↔ upc.did p = true ∨ p = part) ∨
    (upc = .rest ∧ upc' = .finished ∧ s'.cfg = s.cfg ∧ s'.rateLimiter = s.rateLimiter) := by
  cases upc with
  | received =>
    refine .inl ⟨rfl, ?_⟩
    simp only [stepUpdate] at h
    split at h
    · rename_i hinvalid
      cases h
      exact ⟨rfl, .inr ⟨fun haccepted => by simp [haccepted.1] at hinvalid, rfl⟩⟩
    · rename_i hvalid
      split at h
      · rename_i hflags
        cases h
        exact ⟨rfl, .inr ⟨fun haccepted => hflags haccepted.2, rfl⟩⟩
      · rename_i hflags
        cases h
        exact ⟨rfl, .inl ⟨⟨hvalid, not_not.mp hflags⟩, rfl⟩⟩
  | store =>
    cases h
    refine .inr (.inl ⟨rfl, rfl, ?_⟩)
    split
    · exact .inl rfl
    · rename_i hskip
      exact .inr ⟨rfl, hskip⟩
  | change part =>
    refine .inr (.inr (.inl ⟨part, rfl, ?_⟩))
    cases part with
    | rate =>
      cases h
      exact ⟨rfl, rfl, by simp [did]⟩
    | route | global =>
      cases h
      exact ⟨rfl, rfl, fun p => by cases p <;> simp [did]⟩
  | rest =>
    cases h
    refine .inr (.inr (.inr ⟨rfl, rfl, ?_⟩))
    rw [addDegradation_fst]
    exact ⟨rfl, rfl⟩
  | finished | rejected => cases h

end Calls

/-! ## Each side on its own -/

section OnItsOwn

variable {lib : Lib} {body : Option RateLimitAdminRequest} {newCfg : Config} {r : Race}

/-- **The steps of the update** make up `handleConfigUpdate`. -/
theorem stepUpdate_alone (hr : r.update = .received) (now : ℤ) :
    ∃ n upc, upc.ended = true ∧ run (stepRace lib body newCfg) r (List.replicate n (.update now)) =
        some { r with gateway := (r.gateway.handleConfigUpdate lib newCfg now).1, update := upc } := by
  obtain ⟨s, pc, upc⟩ := r
  obtain rfl : upc = .received := hr
  cases hvalid : newCfg.applyRuntimeDefaults.validate lib with
  | some err =>
    exact ⟨1, .rejected, rfl, by simp [run, stepRace, stepUpdate, handleConfigUpdate, hvalid]⟩
  | none =>
    by_cases hflags : securityEnableFlagsOf s.cfg = securityEnableFlagsOf newCfg.applyRuntimeDefaults
    · cases hrl : s.rateLimiter with
      | none =>
        refine ⟨3, .finished, rfl, ?_⟩
        simp [run, stepRace, stepUpdate, handleConfigUpdate, hvalid, hflags, hrl, storeCfg, writeRest, write]
      | some rl =>
        by_cases henabled : newCfg.applyRuntimeDefaults.security.rateLimit.enabled = true
        · refine ⟨6, .finished, rfl, ?_⟩
          simp [run, stepRace, stepUpdate, handleConfigUpdate, hvalid, hflags, hrl, henabled, storeCfg,
            setRates, setPart, configuredRates, updateLimiter, writeRest, write]
        · refine ⟨3, .finished, rfl, ?_⟩
          simp [run, stepRace, stepUpdate, handleConfigUpdate, hvalid, hflags, hrl, henabled, storeCfg,
            writeRest, write]
    · exact ⟨1, .rejected, rfl, by simp [run, stepRace, stepUpdate, handleConfigUpdate, hvalid, hflags]⟩

/-- **The steps of the request** make up `handleAdminRateLimit`. -/
theorem stepAdmin_alone (hr : r.admin = .received) (now : ℤ) :
    ∃ n pc, pc.ended = true ∧ run (stepRace lib body newCfg) r (List.replicate n (.admin now)) =
        some { r with gateway := (r.gateway.handleAdminRateLimit lib body now).1, admin := pc } := by
  obtain ⟨s, pc, upc⟩ := r
  obtain rfl : pc = .received := hr
  cases hrl : s.rateLimiter with
  | none => exact ⟨1, .refused, rfl, by simp [run, stepRace, stepAdmin, handleAdminRateLimit, hrl]⟩
  | some rl =>
    cases body with
    | none => exact ⟨1, .refused, rfl, by simp [run, stepRace, stepAdmin, handleAdminRateLimit, hrl, asked]⟩
    | some req =>
      cases hrefresh : req.refresh lib with
      | none =>
        refine ⟨1, .refused, rfl, ?_⟩
        simp [run, stepRace, stepAdmin, handleAdminRateLimit, hrl, asked, hrefresh]
      | some refresh =>
        refine ⟨6, .replied, rfl, ?_⟩
        simp [run, stepRace, stepAdmin, handleAdminRateLimit, hrl, asked, hrefresh, setRates, setPart,
          RateLimitAdminRequest.rates, storeCfg]

end OnItsOwn

/-! ## The request and the update together -/

section Together

variable (lib : Lib) (body : Option RateLimitAdminRequest) (newCfg : Config) (s₀ : Running)

/-- The update has not stored its configuration: the request works on the one from the start. -/
structure Pending (r : Race) (v : Rates) : Prop where
  stored : r.update.stored = false
  accepted : r.update = .store → Accepted lib newCfg s₀.cfg
  rejected : r.update = .rejected → ¬ Accepted lib newCfg s₀.cfg
  cfg : BasedOn lib body s₀.cfg r.admin r.gateway.cfg
  rates : ∀ p, v.part p = (if r.admin.did p then askedRates lib body
    else configuredRates lib s₀.cfg.security.rateLimit).part p

/-- The update has stored its configuration after the end of the request. -/
structure RequestFirst (r : Race) (v : Rates) : Prop where
  stored : r.update.stored = true
  accepted : Accepted lib newCfg s₀.cfg
  ended : r.admin.ended = true
  cfg : r.gateway.cfg = newCfg.applyRuntimeDefaults
  rates : ∀ p, r.update.did p = true →
    v.part p = (configuredRates lib newCfg.applyRuntimeDefaults.security.rateLimit).part p

/-- The update has stored its configuration before the first change of the request, which works on
it and changes what the update has changed. -/
structure UpdateFirst (r : Race) (v : Rates) : Prop where
  stored : r.update.stored = true
  accepted : Accepted lib newCfg s₀.cfg
  cfg : BasedOn lib body newCfg.applyRuntimeDefaults r.admin r.gateway.cfg
  changed : ∀ p, r.admin.did p = true → r.update.did p = true ∧ v.part p = (askedRates lib body).part p
  rates : ∀ p, r.admin.did p = false → r.update.did p = true →
    v.part p = (configuredRates lib newCfg.applyRuntimeDefaults.security.rateLimit).part p

/-- What holds in every state of an orderly run from `s₀`. -/
structure Sound (r : Race) : Prop where
  present : r.gateway.rateLimiter.isSome = s₀.rateLimiter.isSome
  serves : r.admin.Serves lib body s₀.rateLimiter.isSome
  phase : ∃ v, HasRates r.gateway v ∧ (Pending lib body newCfg s₀ r v ∨
    RequestFirst lib newCfg s₀ r v ∨ UpdateFirst lib body newCfg s₀ r v)

variable {lib body newCfg s₀} {r : Race} {s' : Running} {pc' : AdminPc} {upc' : UpdatePc} {now : ℤ}

theorem sound_start (h : InSync lib s₀) : Sound lib body newCfg s₀ { gateway := s₀ } where
  present := rfl
  serves := trivial
  phase := ⟨configuredRates lib s₀.cfg.security.rateLimit, h, .inl ⟨rfl, by simp, by simp, rfl, fun _ => rfl⟩⟩

theorem Sound.pending (h : Sound lib body newCfg s₀ r) (hstored : r.update.stored = false) :
    ∃ v, HasRates r.gateway v ∧ Pending lib body newCfg s₀ r v := by
  obtain ⟨v, hrates, hphase | hphase | hphase⟩ := h.phase
  · exact ⟨v, hrates, hphase⟩
  · cases hstored.symm.trans hphase.stored
  · cases hstored.symm.trans hphase.stored

section

variable (h : Sound lib body newCfg s₀ r)
include h

theorem Sound.admin (horder : Orderly r (.admin now))
    (hstep : stepAdmin lib body r.gateway now r.admin = some (s', pc')) :
    Sound lib body newCfg s₀ { r with gateway := s', admin := pc' } := by
  have hended : r.admin.ended = false := by
    cases hpc : r.admin <;> simp [hpc, stepAdmin] at hstep <;> rfl
  obtain ⟨hserves, hcfg, hcall⟩ := stepAdmin_spec hstep (h.present ▸ h.serves)
  obtain ⟨v, hrates, hphase⟩ := h.phase
  -- a part keeps its rates, or gets those of the request, and not before an update under way sets it
  obtain ⟨v', hrates', hsome, hpart⟩ : ∃ v', HasRates s' v' ∧
      s'.rateLimiter.isSome = r.gateway.rateLimiter.isSome ∧
      ∀ p, pc'.did p = r.admin.did p ∧ v'.part p = v.part p ∨
        (r.update.stored = true → r.update.did p = true) ∧ pc'.did p = true ∧
          v'.part p = (askedRates lib body).part p := by
    obtain ⟨hsame, hdid⟩ | ⟨part, req, refresh, hpc, rfl, hdid⟩ := hcall
    · exact ⟨v, hrates.congr hsame, congrArg _ hsame, fun p => .inl ⟨by rw [hdid], rfl⟩⟩
    · refine ⟨_, hrates.setRates part _ now, Option.isSome_map, fun p => ?_⟩
      rw [Rates.part_set]
      by_cases hp : p = part
      · subst hp
        simp only [Orderly, hpc] at horder
        exact .inr ⟨horder, (hdid p).mpr (.inr rfl), if_pos rfl⟩
      · exact .inl ⟨by rw [Bool.eq_iff_iff, hdid, or_iff_left hp], if_neg hp⟩
  refine ⟨hsome.trans h.present, h.present ▸ hserves, v', hrates', ?_⟩
  obtain hphase | hphase | hphase := hphase
  · refine .inl { hphase with cfg := hcfg _ hphase.cfg, rates := fun p => ?_ }
    obtain ⟨hdid, hkeep⟩ | ⟨-, hdid, hset⟩ := hpart p
    · rw [hdid, hkeep]
      exact hphase.rates p
    · rw [if_pos hdid]
      exact hset
  · cases hended.symm.trans hphase.ended
  · refine .inr (.inr ⟨hphase.stored, hphase.accepted, hcfg _ hphase.cfg, fun p hmade => ?_,
      fun p hnot hmade => ?_⟩)
    · obtain ⟨hdid, hkeep⟩ | ⟨horder, -, hset⟩ := hpart p
      · exact (hphase.changed p (hdid ▸ hmade)).imp_right hkeep.trans
      · exact ⟨horder hphase.stored, hset⟩
    · obtain ⟨hdid, hkeep⟩ | ⟨-, hdid, -⟩ := hpart p
      · exact hkeep.trans (hphase.rates p (hdid ▸ hnot) hmade)
      · cases hdid.symm.trans hnot

theorem Sound.update_store (hs : WellBuilt s₀) (hupc : r.update = .store)
    (horder : (∀ part, r.admin.did part = false) ∨ r.admin.ended = true)
    (hnext : upc' = .change .rate ∨ upc' = .rest ∧ ¬ (r.gateway.rateLimiter.isSome = true ∧
      newCfg.applyRuntimeDefaults.security.rateLimit.enabled = true)) :
    Sound lib body newCfg s₀
      { r with gateway := r.gateway.storeCfg newCfg.applyRuntimeDefaults, update := upc' } where
  __ := h
  phase := by
    obtain ⟨v, hrates, hpending⟩ := h.pending (by rw [hupc]; rfl)
    have haccepted := hpending.accepted hupc
    have hstored : upc'.stored = true := by
      obtain rfl | ⟨rfl, -⟩ := hnext <;> rfl
    -- the calls are left out only if there is no limiter
    obtain ⟨v', hrates', hmade⟩ : ∃ v', HasRates r.gateway v' ∧ ∀ p, upc'.did p = true →
        v'.part p = (configuredRates lib newCfg.applyRuntimeDefaults.security.rateLimit).part p := by
      obtain rfl | ⟨rfl, hskip⟩ := hnext
      · exact ⟨v, hrates, by simp [did]⟩
      · refine ⟨_, fun rl hrl => absurd ?_ hskip, fun _ _ => rfl⟩
        have hsome : r.gateway.rateLimiter.isSome = true := by rw [hrl, Option.isSome_some]
        refine ⟨hsome, ?_⟩
        calc
          _ = s₀.cfg.security.rateLimit.enabled :=
            (congrArg SecurityEnableFlags.rateLimit haccepted.2).symm
          _ = s₀.rateLimiter.isSome := hs.rateLimiter.symm
          _ = r.gateway.rateLimiter.isSome := h.present.symm
          _ = true := hsome
    refine ⟨v', hrates', ?_⟩
    obtain hnone | hended := horder
    · refine .inr (.inr ⟨hstored, haccepted, ?_, fun p hdid => ?_, fun p _ => hmade p⟩)
      · -- nothing was changed, so nothing was loaded
        have hloaded := hnone .rate
        cases hpc : r.admin with
        | received | change | load | refused => rfl
        | store | replied => exact absurd (hpc ▸ hloaded) (by simp [AdminPc.did])
      · cases (hnone p).symm.trans hdid
    · exact .inr (.inl ⟨hstored, haccepted, hended, rfl, hmade⟩)

/-- After its store, the update sets each part once. -/
theorem Sound.update_after (hstored : r.update.stored = true) (hstored' : upc'.stored = true)
    (hcfg : s'.cfg = r.gateway.cfg) (hpresent : s'.rateLimiter.isSome = r.gateway.rateLimiter.isSome)
    (hcall : ∀ v, HasRates r.gateway v → ∃ v', HasRates s' v' ∧
      ∀ p, upc'.did p = r.update.did p ∧ v'.part p = v.part p ∨ r.update.did p = false ∧
        v'.part p = (configuredRates lib newCfg.applyRuntimeDefaults.security.rateLimit).part p) :
    Sound lib body newCfg s₀ { r with gateway := s', update := upc' } := by
  obtain ⟨v, hrates, hphase⟩ := h.phase
  obtain ⟨v', hrates', hpart⟩ := hcall v hrates
  refine ⟨hpresent.trans h.present, h.serves, v', hrates', ?_⟩
  obtain hphase | hphase | hphase := hphase
  · cases hphase.stored.symm.trans hstored
  · refine .inr (.inl ⟨hstored', hphase.accepted, hphase.ended, hcfg.trans hphase.cfg,
      fun p hmade => ?_⟩)
    obtain ⟨hdid, hkeep⟩ | ⟨-, hset⟩ := hpart p
    · exact hkeep.trans (hphase.rates p (hdid ▸ hmade))
    · exact hset
  · refine .inr (.inr ⟨hstored', hphase.accepted, hcfg ▸ hphase.cfg, fun p hmade => ?_,
      fun p hadmin hmade => ?_⟩)
    · obtain ⟨hupdate, hasked⟩ := hphase.changed p hmade
      obtain ⟨hdid, hkeep⟩ | ⟨hnot, -⟩ := hpart p
      · exact ⟨hdid.trans hupdate, hkeep.trans hasked⟩
      · cases hnot.symm.trans hupdate
    · obtain ⟨hdid, hkeep⟩ | ⟨-, hset⟩ := hpart p
      · exact hkeep.trans (hphase.rates p hadmin (hdid ▸ hmade))
      · exact hset

theorem Sound.update (hs : WellBuilt s₀) (horder : Orderly r (.update now))
    (hstep : stepUpdate lib newCfg r.gateway now r.update = some (s', upc')) :
    Sound lib body newCfg s₀ { r with gateway := s', update := upc' } := by
  obtain ⟨hupc, rfl, hnext⟩ | ⟨hupc, rfl, hnext⟩ | ⟨part, hupc, hstored, rfl, hdid⟩ |
    ⟨hupc, rfl, hcfg, hsame⟩ := stepUpdate_spec hstep
  · obtain ⟨v, hrates, hpending⟩ := h.pending (by rw [hupc]; rfl)
    refine { h with phase := ⟨v, hrates, .inl ?_⟩ }
    -- the request does not change the decision
    have hdecision : _ ↔ Accepted lib newCfg s₀.cfg := hpending.cfg.accepted_iff
    obtain ⟨haccepted, rfl⟩ | ⟨hrejected, rfl⟩ := hnext
    · exact ⟨rfl, fun _ => hdecision.mp haccepted, by simp, hpending.cfg, hpending.rates⟩
    · exact ⟨rfl, by simp, fun _ => mt hdecision.mpr hrejected, hpending.cfg, hpending.rates⟩
  · exact h.update_store hs hupc (horder hupc) hnext
  · refine h.update_after (by rw [hupc]; rfl) hstored rfl Option.isSome_map fun v hrates =>
      ⟨_, hrates.setRates part _ now, fun p => ?_⟩
    rw [Rates.part_set]
    by_cases hp : p = part
    · subst hp
      exact .inr ⟨by rw [hupc]; cases p <;> rfl, if_pos rfl⟩
    · exact .inl ⟨by rw [Bool.eq_iff_iff, hdid, or_iff_left hp], if_neg hp⟩
  · exact h.update_after (by rw [hupc]; rfl) rfl hcfg (congrArg _ hsame) fun v hrates =>
      ⟨v, hrates.congr hsame, fun p => .inl ⟨by rw [hupc]; rfl, rfl⟩⟩

end

variable {limited : Bool}

theorem BasedOn.ended {c cfg : Config} (h : BasedOn lib body c pc' cfg)
    (hserves : pc'.Serves lib body limited) (hended : pc'.ended = true) :
    cfg = if limited then adminCfg lib body c else c := by
  cases pc' with
  | replied =>
    rw [hserves.1]
    exact h
  | refused =>
    have hcfg : cfg = c := h
    rcases hserves with hlimited | hasked
    · rw [hcfg, hlimited]
      rfl
    · have hsame : adminCfg lib body c = c := by rw [adminCfg, hasked]
      rw [hcfg, hsame, ite_self]
  | received | change | load | store => cases hended

/-- The rates of a request that is over, or else of the configuration it works on, are those of the
configuration it has stored. -/
theorem rates_of_basedOn {c cfg : Config} {v : Rates} (hlib : Lawful lib)
    (h : BasedOn lib body c pc' cfg) (hserves : pc'.Serves lib body limited)
    (hended : pc'.ended = true) (hrates : ∀ p, v.part p = (if pc'.did p then askedRates lib body
      else configuredRates lib c.security.rateLimit).part p) :
    v = configuredRates lib cfg.security.rateLimit := by
  cases pc' with
  | replied =>
    rw [Rates.eq_of_part (w := askedRates lib body) hrates]
    obtain ⟨⟨req, refresh⟩, hasked⟩ := Option.isSome_iff_exists.mp hserves.2
    have hpos : 0 < refresh := by
      obtain ⟨req', -, hreq⟩ := Option.bind_eq_some_iff.mp hasked
      obtain ⟨refresh', hrefresh, heq⟩ := Option.map_eq_some_iff.mp hreq
      obtain rfl := congrArg Prod.snd heq
      exact refresh_pos hrefresh
    have hparams : configuredParams lib (req.clone lib refresh c).security.rateLimit = _ :=
      configuredParams_clone hlib hpos c
    rw [show cfg = adminCfg lib body c from h, adminCfg, askedRates, hasked]
    exact congrArg (fun p : RateParams =>
      Rates.mk p.maxTokens p.tokenRefresh p.routeMaxTokens p.globalMaxTokens) hparams.symm
  | refused =>
    rw [show cfg = c from h]
    exact Rates.eq_of_part hrates
  | received | change | load | store => cases hended

section

variable (h : Sound lib body newCfg s₀ r)
include h

theorem Sound.step (hs : WellBuilt s₀) {action : RaceAction} {r' : Race} (horder : Orderly r action)
    (hstep : stepRace lib body newCfg r action = some r') : Sound lib body newCfg s₀ r' := by
  cases action with
  | admin now =>
    obtain ⟨⟨s', pc'⟩, hadmin, rfl⟩ := Option.map_eq_some_iff.mp hstep
    exact h.admin horder hadmin
  | update now =>
    obtain ⟨⟨s', upc'⟩, hupdate, rfl⟩ := Option.map_eq_some_iff.mp hstep
    exact h.update hs horder hupdate

/-- When both are over, the configuration is that of one call after the other. -/
theorem Sound.cfg_serial (hadmin : r.admin.ended = true) (hupdate : r.update.ended = true) :
    (∀ now now', r.gateway.cfg =
      ((s₀.handleAdminRateLimit lib body now).1.handleConfigUpdate lib newCfg now').1.cfg) ∨
    ∀ now now', r.gateway.cfg =
      ((s₀.handleConfigUpdate lib newCfg now).1.handleAdminRateLimit lib body now').1.cfg := by
  obtain ⟨v, -, hphase | hphase | hphase⟩ := h.phase
  · have hrejected : r.update = .rejected := by
      have hstored := hphase.stored
      cases hupc : r.update <;> simp_all [stored, ended]
    refine .inr fun now now' => ?_
    rw [handleConfigUpdate_of_not_accepted (hphase.rejected hrejected), cfg_handleAdminRateLimit]
    exact hphase.cfg.ended h.serves hadmin
  · refine .inl fun now now' => ?_
    have haccepted : Accepted lib newCfg (s₀.handleAdminRateLimit lib body now).1.cfg := by
      rw [cfg_handleAdminRateLimit]
      split
      · exact (accepted_adminCfg s₀.cfg).mpr hphase.accepted
      · exact hphase.accepted
    rw [cfg_of_accepted haccepted, hphase.cfg]
  · refine .inr fun now now' => ?_
    rw [cfg_handleAdminRateLimit, cfg_of_accepted hphase.accepted, isSome_handleConfigUpdate]
    exact hphase.cfg.ended h.serves hadmin

theorem Sound.inSync (hlib : Lawful lib) (hadmin : r.admin.ended = true)
    (hupdate : r.update.ended = true) : InSync lib r.gateway := by
  have hmade (p : Part) (hstored : r.update.stored = true) : r.update.did p = true := by
    cases hupc : r.update <;> simp_all [stored, ended, did]
  obtain ⟨v, hrates, hphase⟩ := h.phase
  suffices hv : v = configuredRates lib r.gateway.cfg.security.rateLimit by
    rw [hv] at hrates
    exact hrates
  obtain hphase | hphase | hphase := hphase
  · exact rates_of_basedOn hlib hphase.cfg h.serves hadmin hphase.rates
  · rw [hphase.cfg]
    exact Rates.eq_of_part fun p => hphase.rates p (hmade p hphase.stored)
  · refine rates_of_basedOn hlib hphase.cfg h.serves hadmin fun p => ?_
    split
    · rename_i hcalled
      exact (hphase.changed p hcalled).2
    · rename_i hnot
      exact hphase.rates p (Bool.eq_false_iff.mpr hnot) (hmade p hphase.stored)

end

/-- **One after the other.** If a request and an update run at the same time in an orderly way, then in
the end the configuration is that of one call after the other, and the limiter has its rates. -/
theorem serial_of_orderly {actions : List RaceAction} (hlib : Lawful lib) (hs : Reachable lib s₀)
    (horder : Transition.Guarded (stepRace lib body newCfg) Orderly { gateway := s₀ } actions)
    (hrun : Transition.run (stepRace lib body newCfg) { gateway := s₀ } actions = some r)
    (hadmin : r.admin.ended = true) (hupdate : r.update.ended = true) :
    ((∀ now now', r.gateway.cfg =
        ((s₀.handleAdminRateLimit lib body now).1.handleConfigUpdate lib newCfg now').1.cfg) ∨
      ∀ now now', r.gateway.cfg =
        ((s₀.handleConfigUpdate lib newCfg now).1.handleAdminRateLimit lib body now').1.cfg) ∧
    InSync lib r.gateway := by
  have hsound : Sound lib body newCfg s₀ r :=
    run_invariant (fun _ _ _ hsound hmeets hstep => hsound.step hs.wellBuilt hmeets hstep)
      (sound_start (hs.inSync hlib)) horder hrun
  exact ⟨hsound.cfg_serial hadmin hupdate, hsound.inSync hlib hadmin hupdate⟩

end Together

/-- The small configuration with a rate limiter. -/
def limitedConfig : Config := { smallConfig with security := { rateLimit := { enabled := true } } }

/-- Durations as `time` reads and writes them in the runs below, where only a second occurs. Any other
one is written as a mark for each nanosecond. -/
def secondLib : Lib :=
  { fileWith limitedConfig with
    parseDuration := fun s => if s = "1s" then some second
      else if s ≠ "" ∧ s.toList.all (· = '|') then some s.length else none
    durationString := fun d => if d = second then "1s" else String.ofList (List.replicate d.toNat '|') }

theorem lawful_secondLib : Lawful secondLib := by
  intro d hd
  by_cases hsecond : d = second
  · rw [hsecond]
    rfl
  · obtain ⟨n, hn⟩ : ∃ n, d.toNat = n + 1 := ⟨d.toNat - 1, by omega⟩
    have htext : secondLib.durationString d = String.ofList (List.replicate d.toNat '|') :=
      if_neg hsecond
    have hne : ∀ s : String, s.toList.head? ≠ some '|' →
        String.ofList (List.replicate d.toNat '|') ≠ s := by
      rintro _ hs rfl
      simp [hn, List.replicate_succ] at hs
    rw [htext]
    refine (if_neg (hne "1s" (by decide))).trans ?_
    rw [if_pos ⟨hne "" (by decide), by simp⟩, String.length_ofList, List.length_replicate,
      Int.toNat_of_nonneg hd.le]

/-- A gateway that was started with that configuration. -/
def limitedGateway : Running :=
  build secondLib (fun _ => 0) limitedConfig.applyRuntimeDefaults 0 (some .empty)

theorem reachable_limitedGateway : Reachable secondLib limitedGateway :=
  @Reachable.start _ (fun _ => 0) "" limitedConfig.applyRuntimeDefaults 0 _ rfl rfl

/-- An update that limits the number of connections. -/
def limitConnections : Config := { limitedConfig with protection := { maxConnections := 5 } }

/-- The request follows the update call by call. -/
def following : List RaceAction :=
  [.update 0, .admin 0, .update 0, .update 0, .admin 0, .update 0, .admin 0, .update 0, .admin 0,
    .update 0, .admin 0, .admin 0]

/-- The request ends with its rates in the configuration of the update. -/
theorem serial_of_orderly_following :
    ∃ r, Transition.run (stepRace secondLib (some { maxTokens := 7 }) limitConnections)
        { gateway := limitedGateway } following = some r ∧
      (∀ now now', r.gateway.cfg = ((limitedGateway.handleConfigUpdate secondLib limitConnections
        now).1.handleAdminRateLimit secondLib (some { maxTokens := 7 }) now').1.cfg) ∧
      InSync secondLib r.gateway := by
  have horder : Transition.Guarded (stepRace secondLib (some { maxTokens := 7 }) limitConnections) Orderly
      { gateway := limitedGateway } following := by decide +kernel
  obtain ⟨hserial, hsync⟩ :=
    serial_of_orderly lawful_secondLib reachable_limitedGateway horder rfl rfl rfl
  refine ⟨_, rfl, hserial.resolve_left fun h => ?_, hsync⟩
  have htokens := congrArg (·.security.rateLimit.maxTokens) (h 0 0)
  exact absurd htokens (by decide +kernel)

/-- The request loads the configuration before the update stores its own, and stores after it. -/
def overlapping : List RaceAction :=
  [.admin 0, .admin 0, .admin 0, .admin 0, .admin 0, .update 0, .update 0, .update 0, .update 0,
    .update 0, .update 0, .admin 0]

/-- The calls of the request come between the store of the update and its calls. -/
def between : List RaceAction :=
  [.update 0, .update 0, .admin 0, .admin 0, .admin 0, .admin 0, .update 0, .update 0, .update 0,
    .update 0, .admin 0, .admin 0]

/-- In the first run the limit on connections of the update is lost, which it is not in either order of
the calls. In both runs the limiter has the rate of the update, and the configuration has that of the
request. -/
theorem update_lost :
    let step := stepRace secondLib (some { maxTokens := 7 }) limitConnections
    (∃ r, Transition.run step { gateway := limitedGateway } overlapping = some r ∧
      r.admin.ended = true ∧ r.update.ended = true ∧ r.gateway.cfg.protection.maxConnections = 0 ∧
      (∀ now now', ((limitedGateway.handleAdminRateLimit secondLib (some { maxTokens := 7 })
        now).1.handleConfigUpdate secondLib limitConnections now').1.cfg.protection.maxConnections = 5) ∧
      (∀ now now', ((limitedGateway.handleConfigUpdate secondLib limitConnections
        now).1.handleAdminRateLimit secondLib (some { maxTokens := 7 })
          now').1.cfg.protection.maxConnections = 5) ∧
      ¬ InSync secondLib r.gateway) ∧
    ∃ r, Transition.run step { gateway := limitedGateway } between = some r ∧
      r.admin.ended = true ∧ r.update.ended = true ∧ r.gateway.cfg.security.rateLimit.maxTokens = 7 ∧
      r.gateway.rateLimiter.map (·.maxTokens) = some 10000 ∧ ¬ InSync secondLib r.gateway := by
  refine ⟨⟨_, rfl, rfl, rfl, by decide +kernel, fun now now' => ?_, fun now now' => ?_, fun h => ?_⟩, _, rfl,
    rfl, rfl, by decide +kernel, by decide +kernel, fun h => ?_⟩
  · rfl
  · rfl
  · exact absurd (congrArg maxTokens (h _ rfl)) (by decide +kernel)
  · exact absurd (congrArg maxTokens (h _ rfl)) (by decide +kernel)

end Sgate.HotUpdate
