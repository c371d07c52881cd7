import Sgate.Security.RateLimiter

/-! # Reloading the configuration of the rate limiter

A configuration update passes its rates to the limiter also when they are the ones in force. Calls for
keys never notice this (`answers_reload_of_keys`); the bucket for all messages is rebuilt. -/

namespace Sgate.Security

open List

namespace RateLimiter

/-! ## Updates -/

/-- The rates in force, as `handleConfigUpdate` applies them. -/
def reload (rl : RateLimiter) (now : ℤ) : RateLimiter :=
  ((rl.updateRate rl.maxTokens rl.tokenRefresh now).setRouteMaxTokens
    rl.routeMaxTokens).setGlobalMaxTokens rl.globalMaxTokens now

/-- What a gateway does with its limiter. -/
inductive Op
  | updateRate (maxTokens tokenRefresh : ℤ)
  | setRouteMaxTokens (n : ℤ)
  | setGlobalMaxTokens (n : ℤ)
  | call (c : Call)

def operate (rl : RateLimiter) (now : ℤ) : Op → RateLimiter
  | .updateRate maxTokens tokenRefresh => rl.updateRate maxTokens tokenRefresh now
  | .setRouteMaxTokens n => rl.setRouteMaxTokens n
  | .setGlobalMaxTokens n => rl.setGlobalMaxTokens n now
  | .call c => (rl.perform now c).1

/-- The rate is positive, and the products the limiter makes of it are `int`s: the largest is twice the
tenfold. All callers of `UpdateRate` replace values that are not positive by a default. -/
def ValidRate (maxTokens : ℤ) : Prop := 1 ≤ maxTokens ∧ maxTokens * 10 * 2 < 2 ^ 63

/-- The rates are valid; twice an own rate is an `int`. -/
def Op.Valid : Op → Prop
  | .updateRate maxTokens _ => ValidRate maxTokens
  | .setRouteMaxTokens n | .setGlobalMaxTokens n => n * 2 < 2 ^ 63
  | .call _ => True

/-- The states of a limiter, with the time of the last operation. -/
inductive Reachable (maphash : String → ℕ) : ℤ → RateLimiter → Prop
  | new (maxTokens tokenRefresh now : ℤ) : ValidRate maxTokens →
      Reachable maphash now (newRateLimiter maphash maxTokens tokenRefresh now)
  | operate {now t : ℤ} {rl : RateLimiter} {op : Op} : Reachable maphash now rl → now ≤ t → op.Valid →
      Reachable maphash t (rl.operate t op)

/-! ## What holds in every state -/

/-- The configuration of the bucket for all messages. -/
def globalConfig (rl : RateLimiter) : DimensionConfig :=
  ⟨rl.globalMax, rl.globalMax * 2, rl.tokenRefresh⟩

end RateLimiter

/-- The dimensions with a configuration of their own. -/
def Configured (dim : String) : Prop := dim = "ip" ∨ dim = "user" ∨ dim = "route"

/-- The buckets of a shard in some dimensions have the parameters stored for them. -/
def RateShard.InForce (dims : String → Prop) (stored : String → DimensionConfig)
    (sh : RateShard) : Prop :=
  ∀ k tb, sh.buckets k = some tb → dims k.1 → tb.updateParams (stored k.1) = tb

structure TokenBucket.Valid (tb : TokenBucket) : Prop where
  tokens : 0 ≤ tb.tokens
  maxTokens : 1 ≤ tb.maxTokens
  burstTokens : 1 ≤ tb.burstTokens
  refreshNanos : 0 < tb.refreshNanos

/-- The bucket for all messages has its parameters, and was refilled last in the past. -/
structure GlobalInForce (cfg : DimensionConfig) (now : ℤ) (g : TokenBucket) : Prop where
  params : g.updateParams cfg = g
  valid : g.Valid
  lastUpdate : g.lastUpdate ≤ now

namespace TokenBucket

variable {tb : TokenBucket} {cfg : DimensionConfig} {now : ℤ}

theorem updateParams_idem (tb : TokenBucket) (cfg : DimensionConfig) :
    (tb.updateParams cfg).updateParams cfg = tb.updateParams cfg := by
  simp [updateParams]

theorem updateParams_eq_iff : tb.updateParams cfg = tb ↔ tb.tokens ≤ cfg.burstTokens ∧
    cfg.maxTokens = tb.maxTokens ∧ cfg.burstTokens = tb.burstTokens ∧
    orSecond cfg.tokenRefresh = tb.refreshNanos := by
  cases tb
  simp [updateParams]

theorem updateParams_new (h : cfg.maxTokens ≤ cfg.burstTokens) (now : ℤ) :
    (newTokenBucket cfg now).updateParams cfg = newTokenBucket cfg now :=
  updateParams_eq_iff.mpr ⟨h, rfl, rfl, rfl⟩

theorem orSecond_pos (r : ℤ) : 0 < orSecond r := by
  unfold orSecond
  split
  · decide
  · omega

theorem valid_new (hmax : 1 ≤ cfg.maxTokens) (hburst : 1 ≤ cfg.burstTokens) (now : ℤ) :
    (newTokenBucket cfg now).Valid :=
  ⟨by show 0 ≤ cfg.maxTokens; omega, hmax, hburst, orSecond_pos _⟩

theorem refill_spec (tb : TokenBucket) (now : ℤ) :
    (tb.refill now).maxTokens = tb.maxTokens ∧ (tb.refill now).burstTokens = tb.burstTokens ∧
      (tb.refill now).refreshNanos = tb.refreshNanos ∧
      ((tb.refill now).tokens = tb.tokens ∨ (tb.refill now).tokens ≤ tb.burstTokens) ∧
      (0 ≤ tb.tokens → 0 ≤ tb.burstTokens → 0 ≤ (tb.refill now).tokens) ∧
      (tb.lastUpdate ≤ now → (tb.refill now).lastUpdate ≤ now) := by
  unfold refill
  split
  · refine ⟨rfl, rfl, rfl, ?_, ?_, fun _ => le_rfl⟩
    · dsimp only
      split
      · exact .inr (min_le_right ..)
      · exact .inl rfl
    · intro htokens hburst
      dsimp only
      split
      · exact le_min (by omega) hburst
      · exact htokens
  · exact ⟨rfl, rfl, rfl, .inl rfl, fun h _ => h, id⟩

theorem tryConsume_rule {P : TokenBucket → Prop} (hsame : P tb) (hrefill : P (tb.refill now))
    (htaken : 0 < (tb.refill now).tokens →
      P { tb.refill now with tokens := (tb.refill now).tokens - 1 }) : P (tb.tryConsume now).1 := by
  unfold tryConsume
  split
  · exact hsame
  · dsimp only
    split
    · exact hrefill
    · exact htaken (by omega)

theorem updateParams_refill (h : tb.updateParams cfg = tb) (now : ℤ) :
    (tb.refill now).updateParams cfg = tb.refill now := by
  obtain ⟨hmax, hburst, hperiod, htokens, -, -⟩ := tb.refill_spec now
  rw [updateParams_eq_iff] at h ⊢
  rw [hmax, hburst, hperiod]
  refine ⟨?_, h.2⟩
  rcases htokens with htokens | htokens
  · rw [htokens]
    exact h.1
  · rw [h.2.2.1]
    exact htokens

theorem updateParams_tryConsume (h : tb.updateParams cfg = tb) (now : ℤ) :
    (tb.tryConsume now).1.updateParams cfg = (tb.tryConsume now).1 := by
  have hrefill := updateParams_refill h now
  refine tryConsume_rule (P := fun b => b.updateParams cfg = b) h hrefill fun _ => ?_
  rw [updateParams_eq_iff] at hrefill ⊢
  exact ⟨by dsimp only; omega, hrefill.2⟩

theorem Valid.refill (h : tb.Valid) (now : ℤ) : (tb.refill now).Valid := by
  obtain ⟨hmax, hburst, hperiod, -, hpos, -⟩ := tb.refill_spec now
  have hroom := h.burstTokens
  exact ⟨hpos h.tokens (by omega), hmax ▸ h.maxTokens, hburst ▸ h.burstTokens,
    hperiod ▸ h.refreshNanos⟩

theorem Valid.setTokens (h : tb.Valid) {n : ℤ} (hn : 0 ≤ n) :
    ({ tb with tokens := n } : TokenBucket).Valid :=
  { h with tokens := hn }

theorem Valid.tryConsume (h : tb.Valid) (now : ℤ) : (tb.tryConsume now).1.Valid :=
  tryConsume_rule h (h.refill now) fun _ => (h.refill now).setTokens (by omega)

theorem lastUpdate_tryConsume (h : tb.lastUpdate ≤ now) : (tb.tryConsume now).1.lastUpdate ≤ now := by
  obtain ⟨-, -, -, -, -, hlast⟩ := tb.refill_spec now
  exact tryConsume_rule (P := (·.lastUpdate ≤ now)) h (hlast h) fun _ => hlast h

end TokenBucket

open TokenBucket

namespace RateShard

variable {sh : RateShard} {dims dims' : String → Prop} {stored : String → DimensionConfig}

section

variable (h : sh.InForce dims stored)
include h

theorem InForce.mono (hdims : ∀ d, dims' d → dims d) : sh.InForce dims' stored :=
  fun k tb hb hk => h k tb hb (hdims k.1 hk)

theorem InForce.refresh (d : String) :
    (sh.refreshDimBuckets d (stored d)).InForce (fun e => dims e ∨ e = d) stored := by
  intro k tb hb hk
  obtain ⟨old, hold, rfl⟩ := Option.map_eq_some_iff.mp hb
  by_cases hd : k.1 = d
  · rw [if_pos hd, hd]
    exact old.updateParams_idem _
  · rw [if_neg hd]
    exact h k old hold (hk.resolve_right hd)

theorem InForce.refresh_eq {d : String} (hd : dims d) : sh.refreshDimBuckets d (stored d) = sh := by
  have hbuckets : (sh.refreshDimBuckets d (stored d)).buckets = sh.buckets := by
    funext k
    show (sh.buckets k).map _ = _
    cases hb : sh.buckets k with
    | none => rfl
    | some tb =>
      rw [Option.map_some]
      by_cases hk : k.1 = d
      · subst hk
        rw [if_pos rfl, h k tb hb hd]
      · rw [if_neg hk]
  cases sh
  simp only [refreshDimBuckets] at hbuckets ⊢
  congr

theorem InForce.put {k : String × String} {tb : TokenBucket}
    (htb : dims k.1 → tb.updateParams (stored k.1) = tb) : (sh.put k tb).InForce dims stored :=
  KeyMap.forall_store htb fun j u _ hu => h j u hu

theorem InForce.cleanup (now : ℤ) : (sh.cleanup now).InForce dims stored := by
  intro k tb hb hk
  exact h k tb (Option.filter_eq_some_iff.mp hb).1 hk

end

theorem inForce_empty : RateShard.empty.InForce dims stored := fun k tb hb => by cases hb

end RateShard

namespace RateLimiter

variable {rl : RateLimiter} {now t : ℤ} {maphash : String → ℕ}

def dimensions (maxTokens tokenRefresh routeMaxTokens : ℤ) : KeyMap String DimensionConfig :=
  let rate := if routeMaxTokens ≤ 0 then maxTokens * 4 else routeMaxTokens
  ((KeyMap.empty.store "ip" ⟨maxTokens, maxTokens * 2, tokenRefresh⟩).store "user"
    ⟨max 1 (maxTokens / 2), maxTokens, tokenRefresh⟩).store "route" ⟨rate, rate * 2, tokenRefresh⟩

/-- What holds of a limiter that is updated with positive rates. -/
structure Consistent (now : ℤ) (rl : RateLimiter) : Prop where
  maxTokens : 1 ≤ rl.maxTokens
  burstTokens : rl.burstTokens = rl.maxTokens * 2
  dimensionConfigs :
    rl.dimensionConfigs = dimensions rl.maxTokens rl.tokenRefresh rl.routeMaxTokens
  buckets : ∀ i, (rl.shards i).InForce Configured rl.stored
  globalBucket : ∃ g, rl.globalBucket = some g ∧ GlobalInForce rl.globalConfig now g

/-! ### Updates keep a limiter consistent -/

theorem resetConfig_eq (rl : RateLimiter) (maxTokens tokenRefresh : ℤ) :
    rl.resetConfig maxTokens tokenRefresh = { rl with
      tokenRefresh := tokenRefresh
      maxTokens := maxTokens
      burstTokens := maxTokens * 2
      dimensionConfigs := dimensions maxTokens tokenRefresh rl.routeMaxTokens } := rfl

theorem one_le_globalMax (h : 1 ≤ rl.maxTokens) : 1 ≤ rl.globalMax := by
  unfold globalMax
  split <;> omega

theorem globalInForce_init (rl : RateLimiter) (h : 1 ≤ rl.maxTokens) (now : ℤ) :
    ∃ g, (rl.initGlobalBucket now).globalBucket = some g ∧ GlobalInForce rl.globalConfig now g := by
  have hmax := one_le_globalMax h
  have hburst : rl.globalMax ≤ rl.globalMax * 2 := by omega
  exact ⟨_, rfl, updateParams_new hburst now, valid_new hmax (hmax.trans hburst) now, le_rfl⟩

variable {maxTokens : ℤ}

theorem consistent_new (h : 1 ≤ maxTokens) (tokenRefresh now : ℤ) :
    Consistent now (newRateLimiter maphash maxTokens tokenRefresh now) where
  maxTokens := h
  burstTokens := rfl
  dimensionConfigs := rfl
  buckets _ := RateShard.inForce_empty
  globalBucket := globalInForce_init (resetConfig _ _ _) h now

theorem consistent_updateRate (rl : RateLimiter) (h : 1 ≤ maxTokens) (tokenRefresh now : ℤ) :
    Consistent now (rl.updateRate maxTokens tokenRefresh now) where
  maxTokens := h
  burstTokens := rfl
  dimensionConfigs := rfl
  buckets i := by
    have hnone : (rl.shards i).InForce (fun _ => False)
        (rl.updateRate maxTokens tokenRefresh now).stored := fun _ _ _ hk => hk.elim
    refine (((hnone.refresh "ip").refresh "user").refresh "route").mono ?_
    rintro d (hd | hd | hd)
    · exact .inl (.inl (.inr hd))
    · exact .inl (.inr hd)
    · exact .inr hd
  globalBucket := globalInForce_init (resetConfig _ _ _) h now

variable {d : String}

theorem stored_setRouteMaxTokens (rl : RateLimiter) (n : ℤ) (hd : d ≠ "route") :
    (rl.setRouteMaxTokens n).stored d = rl.stored d := by
  show ((rl.dimensionConfigs.store "route" _) d).getD {} = _
  rw [KeyMap.store_of_ne _ _ hd]
  rfl

theorem Consistent.later (h : rl.Consistent now) (ht : now ≤ t) : rl.Consistent t where
  __ := h
  globalBucket := by
    obtain ⟨g, hg, hin⟩ := h.globalBucket
    exact ⟨g, hg, hin.params, hin.valid, hin.lastUpdate.trans ht⟩

theorem Consistent.setRouteMaxTokens (h : rl.Consistent now) (n : ℤ) (ht : now ≤ t) :
    Consistent t (rl.setRouteMaxTokens n) where
  __ := h.later ht
  dimensionConfigs := by
    show rl.dimensionConfigs.store "route" _ = _
    rw [h.dimensionConfigs]
    exact Function.update_idem ..
  buckets i := by
    have hothers : (rl.shards i).InForce (fun d => Configured d ∧ d ≠ "route")
        (rl.setRouteMaxTokens n).stored := by
      rintro k tb hb ⟨hk, hne⟩
      rw [stored_setRouteMaxTokens rl n hne]
      exact h.buckets i k tb hb hk
    refine (hothers.refresh "route").mono fun d hd => ?_
    by_cases hroute : d = "route"
    · exact .inr hroute
    · exact .inl ⟨hd, hroute⟩

theorem Consistent.setGlobalMaxTokens (h : rl.Consistent now) (n : ℤ) :
    Consistent t (rl.setGlobalMaxTokens n t) where
  __ := h
  globalBucket := globalInForce_init { rl with globalMaxTokens := n } h.maxTokens t

/-! ### Calls keep a limiter consistent -/

theorem Consistent.stored_spec (h : rl.Consistent now) (hd : Configured d) :
    1 ≤ (rl.stored d).maxTokens ∧ (rl.stored d).maxTokens ≤ (rl.stored d).burstTokens := by
  have hmax := h.maxTokens
  unfold stored
  rw [h.dimensionConfigs, dimensions]
  rcases hd with rfl | rfl | rfl
  · simp
    omega
  · simp
    omega
  · simp
    split <;> omega

theorem Consistent.new_inForce (h : rl.Consistent now) (hd : Configured d) (t : ℤ) :
    (newTokenBucket (rl.dimConfig d) t).updateParams (rl.stored d) =
      newTokenBucket (rl.dimConfig d) t := by
  obtain ⟨hmax, hburst⟩ := h.stored_spec hd
  have hcfg : rl.dimConfig d = rl.stored d := if_neg (by omega)
  rw [hcfg]
  exact updateParams_new hburst t

section

variable (h : rl.Consistent now) (ht : now ≤ t)
include h ht

theorem Consistent.of_shards {shards : ℕ → RateShard}
    (hshards : ∀ i, (shards i).InForce Configured rl.stored) :
    Consistent t { rl with shards := shards } where
  __ := h.later ht
  buckets := hshards

theorem Consistent.setShard {i : ℕ} {sh : RateShard} (hsh : sh.InForce Configured rl.stored) :
    Consistent t (rl.setShard i sh) := by
  refine h.of_shards ht fun j => ?_
  by_cases hj : j = i
  · subst hj
    rwa [Function.update_self]
  · rw [Function.update_of_ne hj]
    exact h.buckets j

theorem Consistent.allow (d k : String) : Consistent t (rl.allow d k t).1 := by
  cases hb : rl.lookup d k with
  | some tb =>
    rw [allow_of_bucket hb]
    refine h.setShard ht ((h.buckets _).put fun hd => ?_)
    exact updateParams_tryConsume (h.buckets _ _ tb hb hd) t
  | none =>
    rw [allow_of_none hb]
    split
    · exact h.later ht
    · refine h.setShard ht (RateShard.InForce.put (h.buckets _) fun hd => ?_)
      exact updateParams_tryConsume (h.new_inForce hd t) t

theorem Consistent.allowGlobal : Consistent t (rl.allowGlobal t).1 := by
  obtain ⟨g, hg, hin⟩ := h.globalBucket
  have hnext : (rl.allowGlobal t).1 = { rl with globalBucket := some (g.tryConsume t).1 } := by
    simp only [RateLimiter.allowGlobal, hg]
  rw [hnext]
  exact ⟨h.maxTokens, h.burstTokens, h.dimensionConfigs, h.buckets, _, rfl,
    updateParams_tryConsume hin.params t, hin.valid.tryConsume t,
    lastUpdate_tryConsume (hin.lastUpdate.trans ht)⟩

/-- **One operation.** -/
theorem Consistent.operate {op : Op} (hop : op.Valid) : Consistent t (rl.operate t op) := by
  cases op with
  | updateRate m r => exact consistent_updateRate rl hop.1 r t
  | setRouteMaxTokens n => exact h.setRouteMaxTokens n ht
  | setGlobalMaxTokens n => exact h.setGlobalMaxTokens n
  | call c =>
    cases c with
    | allow d k => exact h.allow ht d k
    | allowGlobal => exact h.allowGlobal ht
    | cleanup => exact h.of_shards ht fun i => (h.buckets i).cleanup t

end

/-- **Every state.** -/
theorem Reachable.consistent (h : Reachable maphash now rl) : rl.Consistent now := by
  induction h with
  | new m r now hm => exact consistent_new hm.1 r now
  | operate _ ht hop ih => exact ih.operate ht hop

/-! ## What a reload changes -/

section

variable (h : rl.Consistent now)
include h

theorem Consistent.refreshDimBuckets_eq (hd : Configured d) :
    rl.refreshDimBuckets d (rl.stored d) = rl := by
  have hshards : (fun i => (rl.shards i).refreshDimBuckets d (rl.stored d)) = rl.shards :=
    funext fun i => (h.buckets i).refresh_eq hd
  unfold RateLimiter.refreshDimBuckets
  rw [hshards]

theorem Consistent.resetConfig_eq : rl.resetConfig rl.maxTokens rl.tokenRefresh = rl := by
  rw [RateLimiter.resetConfig_eq, ← h.burstTokens, ← h.dimensionConfigs]

theorem Consistent.updateRate_eq (t : ℤ) :
    rl.updateRate rl.maxTokens rl.tokenRefresh t = rl.initGlobalBucket t := by
  unfold RateLimiter.updateRate
  simp only [h.resetConfig_eq]
  rw [h.refreshDimBuckets_eq (.inl rfl), h.refreshDimBuckets_eq (.inr (.inl rfl)),
    h.refreshDimBuckets_eq (.inr (.inr rfl))]

theorem Consistent.setRouteMaxTokens_eq : rl.setRouteMaxTokens rl.routeMaxTokens = rl := by
  have hdims : rl.dimensionConfigs.store "route" rl.routeConfig = rl.dimensionConfigs := by
    rw [h.dimensionConfigs]
    exact Function.update_idem ..
  have hrebuild : rl.rebuildDimConfig "route" = rl := by
    show { rl with dimensionConfigs := rl.dimensionConfigs.store "route" rl.routeConfig } = rl
    rw [hdims]
  show (rl.rebuildDimConfig "route").refreshDimBuckets "route"
    ((rl.rebuildDimConfig "route").stored "route") = rl
  rw [hrebuild, h.refreshDimBuckets_eq (.inr (.inr rfl))]

/-- **A reload** rebuilds the bucket for all messages and changes nothing else. -/
theorem Consistent.reload_eq (t : ℤ) : rl.reload t = rl.initGlobalBucket t := by
  have hinit : Consistent t (rl.initGlobalBucket t) := h.setGlobalMaxTokens rl.globalMaxTokens
  unfold reload
  rw [h.updateRate_eq]
  show ((rl.initGlobalBucket t).setRouteMaxTokens
    (rl.initGlobalBucket t).routeMaxTokens).setGlobalMaxTokens _ t = _
  rw [hinit.setRouteMaxTokens_eq]
  rfl

end

end RateLimiter

/-! ## Telling buckets apart -/

namespace TokenBucket

def answers (tb : TokenBucket) : List ℤ → List Bool
  | [] => []
  | t :: ts => (tb.tryConsume t).2 :: answers (tb.tryConsume t).1 ts

/-- Calls for the bucket of all messages at some times. -/
def globalCalls (ts : List ℤ) : List (ℤ × Call) := ts.map fun t => (t, .allowGlobal)

/-- Two buckets that answer alike from a time on. -/
def Alike (now : ℤ) (tb tb' : TokenBucket) : Prop :=
  ∀ ts, InOrder now (globalCalls ts) → tb.answers ts = tb'.answers ts

/-- A bucket after calls at one time until there was no token left. -/
def drained (tb : TokenBucket) (t : ℤ) : TokenBucket := { tb.refill t with tokens := 0 }

variable {tb tb' : TokenBucket} {now t : ℤ}

theorem early_refill (h : 0 < tb.refreshNanos) (t : ℤ) :
    t - (tb.refill t).lastUpdate ≤ (tb.refill t).refreshNanos := by
  unfold refill
  split
  · dsimp only
    omega
  · omega

theorem tryConsume_refill (h : 0 < tb.refreshNanos) (t : ℤ) :
    (tb.refill t).tryConsume t = tb.tryConsume t := by
  obtain ⟨-, -, hperiod, -⟩ := tb.refill_spec t
  have hsame : (tb.refill t).refill t = tb.refill t := if_neg (not_lt.mpr (early_refill h t))
  unfold tryConsume
  rw [hsame, hperiod, if_neg (not_le.mpr h), if_neg (not_le.mpr h)]

theorem tryConsume_of_zero (hperiod : 0 < tb.refreshNanos)
    (hearly : t - tb.lastUpdate ≤ tb.refreshNanos) (hzero : tb.tokens = 0) :
    tb.tryConsume t = (tb, false) := by
  have hsame : tb.refill t = tb := if_neg (not_lt.mpr hearly)
  unfold tryConsume
  rw [hsame, if_neg (not_le.mpr hperiod)]
  exact if_pos hzero.le

theorem answers_of_early {n : ℕ} (hperiod : 0 < tb.refreshNanos)
    (hearly : t - tb.lastUpdate ≤ tb.refreshNanos) (hn : tb.tokens = n) (ts : List ℤ) :
    tb.answers (List.replicate (n + 1) t ++ ts) =
      List.replicate n true ++ false :: ({ tb with tokens := 0 } : TokenBucket).answers ts := by
  induction n generalizing tb with
  | zero =>
    have hzero : ({ tb with tokens := 0 } : TokenBucket) = tb := by rw [← show tb.tokens = 0 from hn]
    rw [hzero]
    show (tb.tryConsume t).2 :: answers (tb.tryConsume t).1 ts = _
    rw [tryConsume_of_zero hperiod hearly hn]
    rfl
  | succ n ih =>
    have hleft : ({ tb with tokens := tb.tokens - 1 } : TokenBucket).tokens = n := by
      show tb.tokens - 1 = n
      omega
    rw [replicate_succ, cons_append, answers, tryConsume_of_pos hperiod hearly (by omega)]
    exact congrArg (true :: ·) (ih hperiod hearly hleft)

theorem answers_drain (h : tb.Valid) {n : ℕ} (hn : (tb.refill t).tokens = n) (ts : List ℤ) :
    tb.answers (List.replicate (n + 1) t ++ ts) =
      List.replicate n true ++ false :: (tb.drained t).answers ts := by
  have hfirst : tb.answers (replicate (n + 1) t ++ ts) =
      (tb.refill t).answers (replicate (n + 1) t ++ ts) := by
    rw [replicate_succ, cons_append, answers, answers, tryConsume_refill h.refreshNanos]
  rw [hfirst]
  exact answers_of_early (h.refill t).refreshNanos (early_refill h.refreshNanos t) hn ts

theorem inOrder_globalCalls (ht : now ≤ t) (n : ℕ) {ts : List ℤ} (hts : InOrder t (globalCalls ts)) :
    InOrder now (globalCalls (List.replicate (n + 1) t ++ ts)) := by
  have horder := inOrder_replicate n .allowGlobal hts
  refine ⟨ht, ?_⟩
  simpa [globalCalls] using horder

section

variable (h : Alike now tb tb') (hv : tb.Valid) (hv' : tb'.Valid) (ht : now ≤ t)
include h hv hv' ht

theorem Alike.tokens_le : (tb.refill t).tokens ≤ (tb'.refill t).tokens := by
  obtain ⟨n, hn⟩ := Int.eq_ofNat_of_zero_le (hv.refill t).tokens
  obtain ⟨n', hn'⟩ := Int.eq_ofNat_of_zero_le (hv'.refill t).tokens
  by_contra hlt
  -- the call with number `n'` is refused by the second bucket only
  obtain ⟨k, rfl⟩ : ∃ k, n = n' + 1 + k := ⟨n - (n' + 1), by omega⟩
  have hsame := h (replicate (n' + 1) t ++ replicate (k + 1) t) ?_
  · rw [answers_drain hv' hn', ← replicate_add, show n' + 1 + (k + 1) = n' + 1 + k + 1 by omega,
      ← append_nil (replicate _ t), answers_drain hv hn] at hsame
    have hget := congrArg (fun l : List Bool => l[n']?) hsame
    simp [getElem?_append, show n' < n' + 1 + k by omega] at hget
  · refine inOrder_globalCalls ht n' ?_
    have hnil : InOrder t (globalCalls []) := trivial
    have hrest := inOrder_globalCalls (le_refl t) k hnil
    rwa [append_nil] at hrest

theorem Alike.drain : Alike t (tb.drained t) (tb'.drained t) := by
  intro ts hts
  obtain ⟨n, hn⟩ := Int.eq_ofNat_of_zero_le (hv.refill t).tokens
  have hsymm : Alike now tb' tb := fun ts hts => (h ts hts).symm
  have hn' : (tb'.refill t).tokens = n :=
    ((hsymm.tokens_le hv' hv ht).antisymm (h.tokens_le hv hv' ht)).trans hn
  have hsame := h _ (inOrder_globalCalls ht n hts)
  rw [answers_drain hv hn, answers_drain hv' hn'] at hsame
  exact (cons.inj (append_cancel_left hsame)).2

end

theorem refill_of_early (h : t - tb.lastUpdate ≤ tb.refreshNanos) : tb.refill t = tb :=
  if_neg (not_lt.mpr h)

theorem lastUpdate_refill_of_late (h : tb.refreshNanos < t - tb.lastUpdate) :
    (tb.refill t).lastUpdate = t := by
  rw [refill, if_pos h]

theorem tokens_refill_of_late (hv : tb.Valid) (h : tb.refreshNanos < t - tb.lastUpdate) :
    0 < (tb.refill t).tokens := by
  have htokens := hv.tokens
  have hmax := hv.maxTokens
  have hburst := hv.burstTokens
  have hperiods : 1 ≤ (t - tb.lastUpdate) / tb.refreshNanos := by
    rw [Int.le_ediv_iff_mul_le hv.refreshNanos]
    omega
  have hrefill : 1 ≤ (t - tb.lastUpdate) / tb.refreshNanos * tb.maxTokens :=
    calc 1 ≤ 1 * tb.maxTokens := by omega
      _ ≤ (t - tb.lastUpdate) / tb.refreshNanos * tb.maxTokens :=
        Int.mul_le_mul_of_nonneg_right hperiods (by omega)
  rw [refill, if_pos h]
  dsimp only
  rw [if_pos (by omega)]
  exact lt_min (by omega) (by omega)

theorem Valid.drained (hv : tb.Valid) (t : ℤ) : (tb.drained t).Valid :=
  (hv.refill t).setTokens le_rfl

theorem Alike.not_early (h : Alike now tb tb') (hv : tb.Valid) (hv' : tb'.Valid)
    (hzero : tb'.tokens = 0) (ht : now ≤ t) (hlate : tb.refreshNanos < t - tb.lastUpdate) :
    tb'.refreshNanos < t - tb'.lastUpdate := by
  by_contra hearly
  have hle := h.tokens_le hv hv' ht
  rw [refill_of_early (not_lt.mp hearly), hzero] at hle
  exact absurd (tokens_refill_of_late hv hlate) (not_lt.mpr hle)

end TokenBucket

open TokenBucket in
theorem GlobalInForce.eq_new {cfg : DimensionConfig} {now t : ℤ} {g : TokenBucket}
    (h : GlobalInForce cfg now g) (ht : now ≤ t) (halike : Alike t (newTokenBucket cfg t) g) :
    g = newTokenBucket cfg t := by
  obtain ⟨hburst, hmax, hburst', hperiod⟩ := updateParams_eq_iff.mp h.params
  have hpos := h.valid.refreshNanos
  have hlast := h.lastUpdate
  have hnew : (newTokenBucket cfg t).Valid :=
    valid_new (hmax ▸ h.valid.maxTokens) (hburst' ▸ h.valid.burstTokens) t
  have hsymm : Alike t g (newTokenBucket cfg t) := fun ts hts => (halike ts hts).symm
  have hperiod' : (newTokenBucket cfg t).refreshNanos = g.refreshNanos := hperiod
  have hnewLast : (newTokenBucket cfg t).lastUpdate = t := rfl
  have hearly : t - g.lastUpdate ≤ g.refreshNanos := by
    -- otherwise a call at `t + 1` refills `g` only, and then the new bucket is refilled before it
    by_contra hlate
    have hdrained := halike.drain (t := t + 1) hnew h.valid (by omega)
    have hsame : (newTokenBucket cfg t).refill (t + 1) = newTokenBucket cfg t :=
      refill_of_early (by omega)
    have hrefilled : (g.refill (t + 1)).lastUpdate = t + 1 := lastUpdate_refill_of_late (by omega)
    obtain ⟨-, -, hkept, -⟩ := g.refill_spec (t + 1)
    have hcall := hdrained.not_early (t := t + 1 + g.refreshNanos) (hnew.drained _)
      (h.valid.drained _) rfl (by omega)
    simp only [drained, hsame, hrefilled, hkept] at hcall
    omega
  have hsame : g.refill t = g := refill_of_early hearly
  have hsame' : (newTokenBucket cfg t).refill t = newTokenBucket cfg t := refill_of_early (by omega)
  have htokens : g.tokens = cfg.maxTokens := by
    have hle := halike.tokens_le hnew h.valid le_rfl
    have hge := hsymm.tokens_le h.valid hnew le_rfl
    rw [hsame, hsame'] at hle hge
    exact hge.antisymm hle
  have hnow : g.lastUpdate = t := by
    -- otherwise `g`, drained now, is refilled before the new bucket
    by_contra hbefore
    have hdrained := hsymm.drain (t := t) h.valid hnew le_rfl
    have hcall := hdrained.not_early (t := g.lastUpdate + g.refreshNanos + 1) (h.valid.drained _)
      (hnew.drained _) rfl (by omega)
    simp only [drained, hsame, hsame'] at hcall
    omega
  cases g
  simp_all [newTokenBucket]

namespace RateLimiter

variable {rl : RateLimiter} {now t : ℤ} {maphash : String → ℕ}

theorem answers_globalCalls {g : TokenBucket} (h : rl.globalBucket = some g) (ts : List ℤ) :
    rl.answers (globalCalls ts) = g.answers ts := by
  induction ts generalizing rl g with
  | nil => rfl
  | cons t ts ih =>
    have hcall : rl.perform t .allowGlobal =
        ({ rl with globalBucket := some (g.tryConsume t).1 }, (g.tryConsume t).2) := by
      simp only [perform, RateLimiter.allowGlobal, h]
    show (rl.perform t .allowGlobal).2 ::
      (rl.perform t .allowGlobal).1.answers (globalCalls ts) = _
    rw [hcall]
    exact congrArg (_ :: ·) (ih rfl)

theorem allow_initGlobalBucket (rl : RateLimiter) (t now : ℤ) (d k : String) :
    (rl.initGlobalBucket t).allow d k now =
      ((rl.allow d k now).1.initGlobalBucket t, (rl.allow d k now).2) := by
  cases hb : rl.lookup d k with
  | some tb =>
    have hb' : (rl.initGlobalBucket t).lookup d k = some tb := hb
    rw [allow_of_bucket hb, allow_of_bucket hb']
    rfl
  | none =>
    have hb' : (rl.initGlobalBucket t).lookup d k = none := hb
    rw [allow_of_none hb, allow_of_none hb']
    show (if maxBucketsPerShard ≤ (rl.shards (rl.shardFor d k)).counts d then _ else _) = _
    split <;> rfl

/-- **A reload is not noticed by the limits per key**, whatever calls follow. -/
theorem answers_reload_of_keys (h : Reachable maphash now rl) (t : ℤ) {cs : List (ℤ × Call)}
    (hkeys : ∀ c ∈ cs, c.2 ≠ .allowGlobal) : (rl.reload t).answers cs = rl.answers cs := by
  rw [h.consistent.reload_eq t]
  clear h
  induction cs generalizing rl with
  | nil => rfl
  | cons c cs ih =>
    have hcall : (rl.initGlobalBucket t).perform c.1 c.2 =
        ((rl.perform c.1 c.2).1.initGlobalBucket t, (rl.perform c.1 c.2).2) := by
      obtain ⟨u, c⟩ := c
      cases c with
      | allow d k => exact allow_initGlobalBucket rl t u d k
      | allowGlobal => exact absurd rfl (hkeys _ mem_cons_self)
      | cleanup => rfl
    rw [answers, answers, hcall]
    exact congrArg (_ :: ·) (ih fun c hc => hkeys c (mem_cons_of_mem _ hc))

/-- A limiter of two messages a second that let messages through, and got a limit for all messages a
second later. -/
def used : RateLimiter :=
  ((((newRateLimiter (fun _ => 0) 2 second 0).operate 0 (.call .allowGlobal)).operate 0
    (.call (.allow "ip" "k"))).operate second (.setGlobalMaxTokens 3)).operate second
      (.call (.allow "ip" "k"))

theorem reachable_used : Reachable (fun _ => 0) second used := by
  have hnew : Reachable (fun _ => 0) 0 _ := .new 2 second 0 ⟨by decide, by decide⟩
  have hglobal := @Reachable.operate _ 0 0 _ (.call .allowGlobal) hnew le_rfl trivial
  have hkey := @Reachable.operate _ 0 0 _ (.call (.allow "ip" "k")) hglobal le_rfl trivial
  have hset := @Reachable.operate _ 0 second _ (.setGlobalMaxTokens 3) hkey (by decide) (by simp [Op.Valid])
  exact @Reachable.operate _ second second _ (.call (.allow "ip" "k")) hset le_rfl trivial

theorem answers_reload_of_keys_used :
    let cs : List (ℤ × Call) := [(second, .allow "ip" "k"), (second, .allow "ip" "j")]
    used.answers cs = [false, true] ∧ (used.reload second).answers cs = used.answers cs :=
  ⟨by decide +kernel, answers_reload_of_keys reachable_used second (by simp)⟩

/-- **When a reload is noticed.** Take a limiter in any state, and reload its rates. No later call is
answered differently exactly if the bucket for all messages was as good as new: it had its initial
number of tokens, and was made or refilled at the time of the reload. -/
theorem reload_invisible_iff (h : Reachable maphash now rl) (ht : now ≤ t) :
    (∀ cs, InOrder t cs → (rl.reload t).answers cs = rl.answers cs) ↔
      rl.globalBucket = some (newTokenBucket rl.globalConfig t) := by
  have hconsistent := h.consistent
  rw [hconsistent.reload_eq t]
  constructor
  · intro hsame
    obtain ⟨g, hg, hin⟩ := hconsistent.globalBucket
    have halike : TokenBucket.Alike t (newTokenBucket rl.globalConfig t) g := by
      intro ts hts
      have hanswers := hsame _ hts
      rwa [answers_globalCalls hg, answers_globalCalls rfl] at hanswers
    rw [hg, hin.eq_new ht halike]
  · intro hnew cs _
    have hinit : rl.initGlobalBucket t = rl := by
      show { rl with globalBucket := some (newTokenBucket rl.globalConfig t) } = rl
      rw [← hnew]
    rw [hinit]

/-- The bucket of a key is used up, the one for all messages is new. -/
theorem reload_invisible_iff_used : (used.lookup "ip" "k").map (·.tokens) = some 0 ∧
    ∀ cs, InOrder second cs → (used.reload second).answers cs = used.answers cs :=
  ⟨by decide +kernel, (reload_invisible_iff reachable_used le_rfl).mpr (by decide +kernel)⟩

/-- One message a second for all, of which one was let through. -/
def spent : RateLimiter :=
  (((newRateLimiter (fun _ => 0) 1 second 0).setGlobalMaxTokens 1 0).allowGlobal 0).1

/-- A reload lets another message through at the same time. -/
theorem reload_grants_again : Reachable (fun _ => 0) 0 spent ∧
    spent.answers [(0, .allowGlobal)] = [false] ∧
    (spent.reload 0).answers [(0, .allowGlobal)] = [true] := by
  refine ⟨?_, by decide +kernel, by decide +kernel⟩
  have hnew : Reachable (fun _ => 0) 0 (newRateLimiter (fun _ => 0) 1 second 0) :=
    .new 1 second 0 ⟨le_rfl, by decide⟩
  have hset : Reachable (fun _ => 0) 0
      ((newRateLimiter (fun _ => 0) 1 second 0).setGlobalMaxTokens 1 0) :=
    @Reachable.operate _ 0 0 _ (.setGlobalMaxTokens 1) hnew le_rfl (by simp [Op.Valid])
  exact @Reachable.operate _ 0 0 _ (.call .allowGlobal) hset le_rfl trivial

end RateLimiter

end Sgate.Security
