import Sgate.Config.HotUpdate

/-! # Hot updates and restarts

A gateway after an update against one that is started with the new configuration (`SameDecisions`).
`AsRestarted` says, component by component, what the gateway must have been before the update. -/

namespace Sgate.HotUpdate

open Settings Security RateLimiter
open Gateway (WhitelistBlacklist)

/-! ## Decisions -/

section Rates

variable {lib : Lib} {rl rl' : RateLimiter} {now now' : ℤ} {c : RateLimitConfig} {dim : String}

section

variable (h : rl.Consistent now)
include h

end

theorem one_le_tokensOf (c : RateLimitConfig) : 1 ≤ tokensOf c := by
  unfold tokensOf
  split
  · decide
  · omega

theorem consistent_updateLimiter (lib : Lib) (c : RateLimitConfig) (now : ℤ) (rl : RateLimiter) :
    (updateLimiter lib c now rl).Consistent now :=
  ((consistent_updateRate rl (one_le_tokensOf c) (refreshOf lib c) now).setRouteMaxTokens
    c.routeMaxTokens le_rfl).setGlobalMaxTokens c.globalMaxTokens

theorem consistent_newLimiter (lib : Lib) (maphash : String → ℕ) (c : RateLimitConfig) (now : ℤ) :
    (newLimiter lib maphash c now).Consistent now := by
  have hnew : (newRateLimiter maphash (tokensOf c) (refreshOf lib c) now).Consistent now :=
    consistent_new (one_le_tokensOf c) _ now
  have hroute : (if 0 < c.routeMaxTokens then
      (newRateLimiter maphash (tokensOf c) (refreshOf lib c) now).setRouteMaxTokens
        c.routeMaxTokens
      else newRateLimiter maphash (tokensOf c) (refreshOf lib c) now).Consistent now := by
    split
    · exact hnew.setRouteMaxTokens _ le_rfl
    · exact hnew
  unfold newLimiter
  dsimp only
  split
  · exact hroute.setGlobalMaxTokens _
  · exact hroute

theorem paramsOf_newLimiter (maphash : String → ℕ) (hroute : 0 ≤ c.routeMaxTokens)
    (hglobal : 0 ≤ c.globalMaxTokens) (now : ℤ) :
    paramsOf (newLimiter lib maphash c now) = configuredParams lib c := by
  have hconsistent := consistent_newLimiter lib maphash c now
  have hmax : (newLimiter lib maphash c now).maxTokens = tokensOf c := by
    unfold newLimiter
    split <;> split <;> rfl
  have hrefresh : (newLimiter lib maphash c now).tokenRefresh = refreshOf lib c := by
    unfold newLimiter
    split <;> split <;> rfl
  -- the rates of routes and of all messages are set only if they are positive; they are zero at first
  have hr : (newLimiter lib maphash c now).routeMaxTokens = c.routeMaxTokens := by
    unfold newLimiter
    split <;> split <;> first | rfl | (show (0 : ℤ) = c.routeMaxTokens; omega)
  have hg : (newLimiter lib maphash c now).globalMaxTokens = c.globalMaxTokens := by
    unfold newLimiter
    split <;> split <;> first | rfl | (show (0 : ℤ) = c.globalMaxTokens; omega)
  simp only [paramsOf, configuredParams, rateParams, hconsistent.burstTokens,
    hconsistent.dimensionConfigs, hmax, hrefresh, hr, hg]

end Rates

/-! ## The components one by one -/

section Components

variable {lib : Lib} {new : Config} {s : Running} {now : ℤ}

variable {e : Bool}

variable {maphash : String → ℕ} {now' : ℤ} {d' : Option (KeyMap String DegradeRule)}

section

variable (hs : WellBuilt s) (hflags : securityEnableFlagsOf s.cfg = securityEnableFlagsOf new)
include hs hflags

/-- After a write the limiter is consistent, with the parameters of the configuration. -/
theorem rateLimiter_write (lib : Lib) (now : ℤ) :
    (new.security.rateLimit.enabled = false ∧ (s.write lib new now).rateLimiter = none) ∨
      new.security.rateLimit.enabled = true ∧ ∃ rl, (s.write lib new now).rateLimiter = some rl ∧
        rl.Consistent now ∧ paramsOf rl = configuredParams lib new.security.rateLimit := by
  have hsome : s.rateLimiter.isSome = new.security.rateLimit.enabled :=
    hs.rateLimiter.trans (congrArg SecurityEnableFlags.rateLimit hflags)
  cases hrl : s.rateLimiter with
  | none =>
    rw [hrl] at hsome
    exact .inl ⟨hsome.symm, by simp only [Running.write, hrl, Option.map_none]⟩
  | some rl =>
    rw [hrl] at hsome
    refine .inr ⟨hsome.symm, updateLimiter lib new.security.rateLimit now rl, ?_, ?_, ?_⟩
    · simp only [Running.write, hrl, Option.map_some, ← hsome, Option.isSome_some, if_true]
    · exact consistent_updateLimiter lib _ now rl
    · exact paramsOf_setRates rl _ _ _ _ now

end

end Components

/-- A library with the small configuration, and the gateway started with it. -/
def started : Running :=
  build (fileWith smallConfig) (fun _ => 0) smallConfig.applyRuntimeDefaults 0 (some .empty)

end Sgate.HotUpdate
