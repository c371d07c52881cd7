import Sgate.Lib.KeyMap
import Mathlib.Data.Finset.Basic
import Mathlib.Data.Finset.Card
import Mathlib.Tactic.Ring

/-! # The rate limiter

A token bucket per dimension and key, in shards with a bounded number of buckets, and one bucket for
all messages. A cleanup pass deletes buckets that were not refilled for half an hour. Times are in
nanoseconds, numbers are unbounded (as in 64 bits for the rates of `ValidRate`), and a call is one step.
`Paid` is the potential of a bucket: what was granted and what is left was paid for by time. -/

namespace Sgate.Security

/-! ## Buckets -/

structure DimensionConfig where
  maxTokens : ℤ := 0
  burstTokens : ℤ := 0
  tokenRefresh : ℤ := 0
  deriving DecidableEq

structure TokenBucket where
  tokens : ℤ
  lastUpdate : ℤ
  maxTokens : ℤ
  burstTokens : ℤ
  refreshNanos : ℤ
  deriving DecidableEq

def second : ℤ := 1000000000

/-- A period, a second where none is given. -/
def orSecond (tokenRefresh : ℤ) : ℤ := if tokenRefresh ≤ 0 then second else tokenRefresh

namespace TokenBucket

/-- The first half of `tryConsume`: tokens for the periods that passed. -/
def refill (tb : TokenBucket) (now : ℤ) : TokenBucket :=
  if tb.refreshNanos < now - tb.lastUpdate then
    let refill := (now - tb.lastUpdate) / tb.refreshNanos * tb.maxTokens
    { tb with
      lastUpdate := now
      tokens := if 0 < refill then min (tb.tokens + refill) tb.burstTokens else tb.tokens }
  else tb

def tryConsume (tb : TokenBucket) (now : ℤ) : TokenBucket × Bool :=
  if tb.refreshNanos ≤ 0 then (tb, 0 < tb.tokens)
  else
    let tb := tb.refill now
    if tb.tokens ≤ 0 then (tb, false) else ({ tb with tokens := tb.tokens - 1 }, true)

def updateParams (tb : TokenBucket) (cfg : DimensionConfig) : TokenBucket where
  tokens := min tb.tokens cfg.burstTokens
  lastUpdate := tb.lastUpdate
  maxTokens := cfg.maxTokens
  burstTokens := cfg.burstTokens
  refreshNanos := orSecond cfg.tokenRefresh

end TokenBucket

def newTokenBucket (cfg : DimensionConfig) (now : ℤ) : TokenBucket where
  tokens := cfg.maxTokens
  lastUpdate := now
  maxTokens := cfg.maxTokens
  burstTokens := cfg.burstTokens
  refreshNanos := orSecond cfg.tokenRefresh

/-! ## Shards -/

/-- `rateShard`: the buckets by dimension and key, and the number of buckets of each dimension. -/
structure RateShard where
  buckets : KeyMap (String × String) TokenBucket
  keys : Finset (String × String)
  counts : String → ℤ
  mem_keys : ∀ k, k ∈ keys ↔ (buckets k).isSome

/-- Half an hour: `30 * time.Minute`. -/
def idleLimit : ℤ := 30 * 60 * second

namespace RateShard

theorem mem_keys_empty (k : String × String) :
    k ∈ (∅ : Finset (String × String)) ↔
      ((KeyMap.empty : KeyMap (String × String) TokenBucket) k).isSome := by simp

def empty : RateShard := ⟨.empty, ∅, fun _ => 0, mem_keys_empty⟩

theorem mem_keys_put (sh : RateShard) (k : String × String) (tb : TokenBucket) (j : String × String) :
    j ∈ insert k sh.keys ↔ (sh.buckets.store k tb j).isSome := by
  by_cases h : j = k
  · simp [h]
  · simp [h, sh.mem_keys]

def put (sh : RateShard) (k : String × String) (tb : TokenBucket) : RateShard where
  buckets := sh.buckets.store k tb
  keys := insert k sh.keys
  counts := sh.counts
  mem_keys := sh.mem_keys_put k tb

def count (sh : RateShard) (dimension : String) : RateShard :=
  { sh with counts := Function.update sh.counts dimension (sh.counts dimension + 1) }

theorem mem_keys_refresh (sh : RateShard) (f : String × String → TokenBucket → TokenBucket)
    (j : String × String) : j ∈ sh.keys ↔ ((sh.buckets j).map (f j)).isSome := by
  rw [sh.mem_keys, Option.isSome_map]

def refreshDimBuckets (sh : RateShard) (dimension : String) (cfg : DimensionConfig) : RateShard where
  buckets k := (sh.buckets k).map fun tb => if k.1 = dimension then tb.updateParams cfg else tb
  keys := sh.keys
  counts := sh.counts
  mem_keys := sh.mem_keys_refresh fun k tb => if k.1 = dimension then tb.updateParams cfg else tb

/-- The bucket of a key was not refilled for half an hour. -/
def stale (sh : RateShard) (now : ℤ) (k : String × String) : Bool :=
  (sh.buckets k).any fun tb => idleLimit < now - tb.lastUpdate

theorem mem_keys_cleanup (sh : RateShard) (now : ℤ) (k : String × String) :
    k ∈ sh.keys.filter (sh.stale now · = false) ↔
      ((sh.buckets k).filter fun tb => ! decide (idleLimit < now - tb.lastUpdate)).isSome := by
  rw [Finset.mem_filter, sh.mem_keys, stale]
  cases sh.buckets k with
  | none => simp
  | some tb => simp [Option.filter]

/-- The part of `cleanup` in one shard. A dimension without buckets loses its count. -/
def cleanup (sh : RateShard) (now : ℤ) : RateShard where
  buckets k := (sh.buckets k).filter fun tb => ! decide (idleLimit < now - tb.lastUpdate)
  keys := sh.keys.filter (sh.stale now · = false)
  counts dimension :=
    if (sh.keys.filter fun k => k.1 = dimension ∧ sh.stale now k = false) = ∅ then 0
    else sh.counts dimension - (sh.keys.filter fun k => k.1 = dimension ∧ sh.stale now k = true).card
  mem_keys := sh.mem_keys_cleanup now

end RateShard

/-! ## The limiter -/

/-- `maxBucketsPerShard`, as `NewRateLimiter` computes it. -/
def maxBucketsPerShard : ℤ := max 1 (100000 / 64)

structure RateLimiter where
  shards : ℕ → RateShard
  globalBucket : Option TokenBucket
  tokenRefresh : ℤ
  maxTokens : ℤ
  burstTokens : ℤ
  routeMaxTokens : ℤ
  globalMaxTokens : ℤ
  dimensionConfigs : KeyMap String DimensionConfig
  /-- `maphash.String` with the seed of the limiter. -/
  maphash : String → ℕ

namespace RateLimiter

def setDim (rl : RateLimiter) (dimension : String) (cfg : DimensionConfig) : RateLimiter :=
  { rl with dimensionConfigs := rl.dimensionConfigs.store dimension cfg }

/-- The configuration of the dimension `ip`. -/
def ipConfig (rl : RateLimiter) : DimensionConfig :=
  ⟨rl.maxTokens, rl.maxTokens * 2, rl.tokenRefresh⟩

/-- The configuration of the dimension `user`: half the rate, but not less than one. -/
def userConfig (rl : RateLimiter) : DimensionConfig :=
  ⟨max 1 (rl.maxTokens / 2), rl.maxTokens, rl.tokenRefresh⟩

/-- The configuration of the dimension `route`. -/
def routeConfig (rl : RateLimiter) : DimensionConfig :=
  let rate := if rl.routeMaxTokens ≤ 0 then rl.maxTokens * 4 else rl.routeMaxTokens
  ⟨rate, rate * 2, rl.tokenRefresh⟩

/-- `rebuildDimConfigLocked`. -/
def rebuildDimConfig (rl : RateLimiter) (dimension : String) : RateLimiter :=
  if dimension = "ip" then rl.setDim "ip" rl.ipConfig
  else if dimension = "user" then rl.setDim "user" rl.userConfig
  else if dimension = "route" then rl.setDim "route" rl.routeConfig
  else rl

/-- `resetConfigLocked`. -/
def resetConfig (rl : RateLimiter) (maxTokens tokenRefresh : ℤ) : RateLimiter :=
  let rl := { rl with
    tokenRefresh := tokenRefresh
    maxTokens := maxTokens
    burstTokens := maxTokens * 2
    dimensionConfigs := .empty }
  ((rl.rebuildDimConfig "ip").rebuildDimConfig "user").rebuildDimConfig "route"

def globalMax (rl : RateLimiter) : ℤ :=
  if rl.globalMaxTokens ≤ 0 then rl.maxTokens * 10 else rl.globalMaxTokens

def initGlobalBucket (rl : RateLimiter) (now : ℤ) : RateLimiter :=
  let bucket := newTokenBucket ⟨rl.globalMax, rl.globalMax * 2, rl.tokenRefresh⟩ now
  { rl with globalBucket := some bucket }

def newRateLimiter (maphash : String → ℕ) (maxTokens tokenRefresh now : ℤ) : RateLimiter :=
  let rl : RateLimiter :=
    { shards := fun _ => .empty
      globalBucket := none
      tokenRefresh := tokenRefresh
      maxTokens := maxTokens
      burstTokens := maxTokens * 2
      routeMaxTokens := 0
      globalMaxTokens := 0
      dimensionConfigs := .empty
      maphash := maphash }
  (rl.resetConfig maxTokens tokenRefresh).initGlobalBucket now

def refreshDimBuckets (rl : RateLimiter) (dimension : String) (cfg : DimensionConfig) : RateLimiter :=
  { rl with shards := fun i => (rl.shards i).refreshDimBuckets dimension cfg }

def stored (rl : RateLimiter) (dimension : String) : DimensionConfig :=
  (rl.dimensionConfigs dimension).getD {}

def setRouteMaxTokens (rl : RateLimiter) (n : ℤ) : RateLimiter :=
  let rl := RateLimiter.rebuildDimConfig { rl with routeMaxTokens := n } "route"
  rl.refreshDimBuckets "route" (rl.stored "route")

def setGlobalMaxTokens (rl : RateLimiter) (n now : ℤ) : RateLimiter :=
  initGlobalBucket { rl with globalMaxTokens := n } now

/-- `UpdateRate`. The dimensions configured are those of `resetConfigLocked`. -/
def updateRate (rl : RateLimiter) (maxTokens tokenRefresh now : ℤ) : RateLimiter :=
  let rl := rl.resetConfig maxTokens tokenRefresh
  let rl := rl.refreshDimBuckets "ip" (rl.stored "ip")
  let rl := rl.refreshDimBuckets "user" (rl.stored "user")
  let rl := rl.refreshDimBuckets "route" (rl.stored "route")
  rl.initGlobalBucket now

/-- `shardFor` of the `shardKey` of a dimension and a key. -/
def shardFor (rl : RateLimiter) (dimension key : String) : ℕ :=
  rl.maphash (dimension ++ "\x00" ++ key) % 64

def dimConfig (rl : RateLimiter) (dimension : String) : DimensionConfig :=
  if (rl.stored dimension).maxTokens = 0 then ⟨rl.maxTokens, rl.burstTokens, rl.tokenRefresh⟩
  else rl.stored dimension

def setShard (rl : RateLimiter) (i : ℕ) (sh : RateShard) : RateLimiter :=
  { rl with shards := Function.update rl.shards i sh }

def allowGlobal (rl : RateLimiter) (now : ℤ) : RateLimiter × Bool :=
  match rl.globalBucket with
  | none => (rl, true)
  | some bucket => ({ rl with globalBucket := some (bucket.tryConsume now).1 }, (bucket.tryConsume now).2)

def allow (rl : RateLimiter) (dimension key : String) (now : ℤ) : RateLimiter × Bool :=
  let i := rl.shardFor dimension key
  let sh := rl.shards i
  match sh.buckets (dimension, key) with
  | some bucket =>
    let r := bucket.tryConsume now
    (rl.setShard i (sh.put (dimension, key) r.1), r.2)
  | none =>
    if maxBucketsPerShard ≤ sh.counts dimension then (rl, false)
    else
      let r := (newTokenBucket (rl.dimConfig dimension) now).tryConsume now
      (rl.setShard i ((sh.put (dimension, key) r.1).count dimension), r.2)

def cleanup (rl : RateLimiter) (now : ℤ) : RateLimiter :=
  { rl with shards := fun i => (rl.shards i).cleanup now }

def lookup (rl : RateLimiter) (dimension key : String) : Option TokenBucket :=
  (rl.shards (rl.shardFor dimension key)).buckets (dimension, key)

end RateLimiter

/-! ## Calls -/

/-- What happens to a limiter while its configuration stays. -/
inductive Call
  | allow (dimension key : String)
  | allowGlobal
  | cleanup
  deriving DecidableEq

def RateLimiter.perform (rl : RateLimiter) (now : ℤ) : Call → RateLimiter × Bool
  | .allow dimension key => rl.allow dimension key now
  | .allowGlobal => rl.allowGlobal now
  | .cleanup => (rl.cleanup now, false)

def RateLimiter.answers (rl : RateLimiter) : List (ℤ × Call) → List Bool
  | [] => []
  | c :: cs => (rl.perform c.1 c.2).2 :: answers (rl.perform c.1 c.2).1 cs

def RateLimiter.granted (rl : RateLimiter) (dimension key : String) : List (ℤ × Call) → ℤ
  | [] => 0
  | c :: cs =>
    (if c.2 = .allow dimension key ∧ (rl.perform c.1 c.2).2 = true then 1 else 0) +
      granted (rl.perform c.1 c.2).1 dimension key cs

def firstCall (dimension key : String) (cs : List (ℤ × Call)) : Option ℤ :=
  (cs.find? fun c => c.2 = .allow dimension key).map (·.1)

/-- The times do not decrease, and `now` is not later than the first. -/
def InOrder (now : ℤ) : List (ℤ × Call) → Prop
  | [] => True
  | c :: cs => now ≤ c.1 ∧ InOrder c.1 cs

/-! ## The bucket of one key -/

/-- What `tryConsume` grants: a token or none. -/
def TokenBucket.grant (tb : TokenBucket) (now : ℤ) : ℤ := if (tb.tryConsume now).2 = true then 1 else 0

/-- What a call does to the bucket of a key, with the number of tokens granted; `own` says that it is
a call for the key. -/
inductive KeyStep (cfg : DimensionConfig) (now : ℤ) (own : Bool) :
    Option TokenBucket → ℤ → Option TokenBucket → Prop
  /-- The call is for another key, or there is no room for a bucket. -/
  | same (o : Option TokenBucket) : KeyStep cfg now own o 0 o
  | created : own = true → KeyStep cfg now own none ((newTokenBucket cfg now).grant now)
      (some ((newTokenBucket cfg now).tryConsume now).1)
  | consumed (tb : TokenBucket) : own = true → KeyStep cfg now own (some tb) (tb.grant now)
      (some (tb.tryConsume now).1)
  | evicted (tb : TokenBucket) : idleLimit < now - tb.lastUpdate → KeyStep cfg now own (some tb) 0 none

section Keys

variable {rl : RateLimiter} {dim key : String} {now : ℤ} {c : Call}

open RateLimiter

@[simp] theorem shardFor_setShard (i : ℕ) (sh : RateShard) :
    (rl.setShard i sh).shardFor = rl.shardFor := rfl

theorem dimConfig_perform (rl : RateLimiter) (now : ℤ) (c : Call) :
    (rl.perform now c).1.dimConfig = rl.dimConfig := by
  cases c with
  | allow d k =>
    simp only [perform, allow]
    split
    · rfl
    · split <;> rfl
  | allowGlobal =>
    simp only [perform, RateLimiter.allowGlobal]
    split <;> rfl
  | cleanup => rfl

theorem lookup_setShard (d k : String) (sh : RateShard)
    (hsh : (dim, key) ≠ (d, k) →
      sh.buckets (dim, key) = (rl.shards (rl.shardFor d k)).buckets (dim, key)) :
    (rl.setShard (rl.shardFor d k) sh).lookup dim key =
      if (dim, key) = (d, k) then sh.buckets (d, k) else rl.lookup dim key := by
  unfold lookup
  rw [shardFor_setShard]
  by_cases hk : (dim, key) = (d, k)
  · cases hk
    simp [setShard]
  · rw [if_neg hk]
    by_cases hi : rl.shardFor dim key = rl.shardFor d k
    · simp [setShard, hi, hsh hk]
    · simp [setShard, hi]

theorem allow_of_bucket {tb : TokenBucket} (h : rl.lookup dim key = some tb) :
    rl.allow dim key now = (rl.setShard (rl.shardFor dim key)
      ((rl.shards (rl.shardFor dim key)).put (dim, key) (tb.tryConsume now).1), (tb.tryConsume now).2) := by
  have hbucket : (rl.shards (rl.shardFor dim key)).buckets (dim, key) = some tb := h
  simp only [allow, hbucket]

theorem allow_of_none (h : rl.lookup dim key = none) :
    rl.allow dim key now =
      if maxBucketsPerShard ≤ (rl.shards (rl.shardFor dim key)).counts dim then (rl, false)
      else
        let r := (newTokenBucket (rl.dimConfig dim) now).tryConsume now
        (rl.setShard (rl.shardFor dim key)
          (((rl.shards (rl.shardFor dim key)).put (dim, key) r.1).count dim), r.2) := by
  have hbucket : (rl.shards (rl.shardFor dim key)).buckets (dim, key) = none := h
  simp only [allow, hbucket]

theorem lookup_allow_of_ne {d k : String} (h : (dim, key) ≠ (d, k)) :
    (rl.allow d k now).1.lookup dim key = rl.lookup dim key := by
  cases hb : rl.lookup d k with
  | some tb =>
    rw [allow_of_bucket hb, lookup_setShard, if_neg h]
    exact fun hne => KeyMap.store_of_ne _ _ hne
  | none =>
    rw [allow_of_none hb]
    split
    · rfl
    · rw [lookup_setShard, if_neg h]
      exact fun hne => KeyMap.store_of_ne _ _ hne

/-- **One call.** -/
theorem keyStep_perform (rl : RateLimiter) (dim key : String) (now : ℤ) (c : Call) :
    KeyStep (rl.dimConfig dim) now (c = .allow dim key) (rl.lookup dim key)
      (if c = .allow dim key ∧ (rl.perform now c).2 = true then 1 else 0)
      ((rl.perform now c).1.lookup dim key) := by
  cases c with
  | allow d k =>
    by_cases hk : (dim, key) = (d, k)
    · cases hk
      simp only [true_and, perform]
      cases hb : rl.lookup dim key with
      | some tb =>
        rw [allow_of_bucket hb, lookup_setShard _ _ _ (absurd rfl), if_pos rfl]
        simpa [RateShard.put, TokenBucket.grant] using KeyStep.consumed tb (by simp)
      | none =>
        rw [allow_of_none hb]
        split
        · simpa [hb] using .same none
        · rw [lookup_setShard _ _ _ (absurd rfl), if_pos rfl]
          simpa [RateShard.put, RateShard.count, TokenBucket.grant] using
            KeyStep.created (by simp)
    · have hne : Call.allow d k ≠ .allow dim key := by
        rintro ⟨⟩
        exact hk rfl
      rw [if_neg fun h => hne h.1, perform, lookup_allow_of_ne hk]
      exact .same _
  | allowGlobal =>
    have hsame : (rl.perform now .allowGlobal).1.lookup dim key = rl.lookup dim key := by
      simp only [perform, RateLimiter.allowGlobal]
      split <;> rfl
    rw [hsame, if_neg (by simp)]
    exact .same _
  | cleanup =>
    have hcleanup : (rl.perform now .cleanup).1.lookup dim key =
        (rl.lookup dim key).filter fun tb => ! decide (idleLimit < now - tb.lastUpdate) := rfl
    rw [hcleanup]
    cases rl.lookup dim key with
    | none => exact .same _
    | some tb =>
      by_cases hstale : idleLimit < now - tb.lastUpdate
      · simpa [Option.filter, hstale] using .evicted tb hstale
      · simpa [Option.filter, hstale] using .same (some tb)

end Keys

/-! ## The bound on the rate -/

/-- The tokens of a bucket were paid for by time: what was granted to the key since `t0`, and what is
left, is at most one filling and one for each period until the last refill. A key without a bucket
could be given a full one. -/
def Paid (cfg : DimensionConfig) (t0 now granted : ℤ) : Option TokenBucket → Prop
  | none => granted + cfg.maxTokens ≤ cfg.maxTokens * (1 + (now - t0) / cfg.tokenRefresh)
  | some tb => tb.maxTokens = cfg.maxTokens ∧ tb.refreshNanos = cfg.tokenRefresh ∧
      0 ≤ tb.tokens ∧ 0 ≤ tb.burstTokens ∧ t0 ≤ tb.lastUpdate ∧ tb.lastUpdate ≤ now ∧
      granted + tb.tokens ≤ cfg.maxTokens * (1 + (tb.lastUpdate - t0) / cfg.tokenRefresh)

/-- The configurations of the bound: at least one token, room for a filling, a positive period. -/
structure DimensionConfig.Valid (cfg : DimensionConfig) : Prop where
  maxTokens : 1 ≤ cfg.maxTokens
  burstTokens : cfg.maxTokens ≤ cfg.burstTokens
  tokenRefresh : 0 < cfg.tokenRefresh

section Bound

variable {cfg : DimensionConfig} {t0 now t g d : ℤ} {o o' : Option TokenBucket} {own : Bool}

theorem DimensionConfig.Valid.orSecond_eq (hcfg : cfg.Valid) :
    orSecond cfg.tokenRefresh = cfg.tokenRefresh := if_neg (not_le.mpr hcfg.tokenRefresh)

theorem periods_add_le {r : ℤ} (hr : 0 < r) (t0 s t : ℤ) :
    (s - t0) / r + (t - s) / r ≤ (t - t0) / r := by
  rw [Int.le_ediv_iff_mul_le hr, Int.add_mul]
  calc (s - t0) / r * r + (t - s) / r * r
      ≤ (s - t0) + (t - s) := Int.add_le_add (Int.ediv_mul_le _ hr.ne') (Int.ediv_mul_le _ hr.ne')
    _ = t - t0 := by ring

theorem paid_mono (hcfg : cfg.Valid) (t0 : ℤ) {s : ℤ} (h : s ≤ t) :
    cfg.maxTokens * (1 + (s - t0) / cfg.tokenRefresh) ≤
      cfg.maxTokens * (1 + (t - t0) / cfg.tokenRefresh) := by
  have hdiv : (s - t0) / cfg.tokenRefresh ≤ (t - t0) / cfg.tokenRefresh :=
    Int.ediv_le_ediv hcfg.tokenRefresh (by omega)
  have hpos := hcfg.maxTokens
  exact Int.mul_le_mul_of_nonneg_left (by omega) (by omega)

variable {tb : TokenBucket}

section

variable (hcfg : cfg.Valid)
include hcfg

theorem Paid.refill (h : Paid cfg t0 now g (some tb)) (ht : now ≤ t) :
    Paid cfg t0 t g (some (tb.refill t)) := by
  obtain ⟨hmax, hperiod, htokens, hburst, hstart, hlast, hpaid⟩ := h
  unfold TokenBucket.refill
  split
  · rename_i hlate
    have hpos := hcfg.maxTokens
    have hsum := periods_add_le hcfg.tokenRefresh t0 tb.lastUpdate t
    have hrefill : 0 ≤ (t - tb.lastUpdate) / cfg.tokenRefresh * cfg.maxTokens :=
      Int.mul_nonneg (Int.ediv_nonneg (by omega) hcfg.tokenRefresh.le) (by omega)
    have hgrown : cfg.maxTokens * (1 + (tb.lastUpdate - t0) / cfg.tokenRefresh) +
        (t - tb.lastUpdate) / cfg.tokenRefresh * cfg.maxTokens ≤
        cfg.maxTokens * (1 + (t - t0) / cfg.tokenRefresh) := by
      calc _ = cfg.maxTokens * (1 + ((tb.lastUpdate - t0) / cfg.tokenRefresh +
              (t - tb.lastUpdate) / cfg.tokenRefresh)) := by ring
        _ ≤ _ := Int.mul_le_mul_of_nonneg_left (by omega) (by omega)
    simp only [hmax, hperiod]
    refine ⟨rfl, rfl, ?_, hburst, hstart.trans (hlast.trans ht), le_rfl, ?_⟩
    · split
      · exact le_min (by omega) hburst
      · exact htokens
    · dsimp only
      split
      · have := min_le_left (tb.tokens + (t - tb.lastUpdate) / cfg.tokenRefresh * cfg.maxTokens)
          tb.burstTokens
        omega
      · omega
  · exact ⟨hmax, hperiod, htokens, hburst, hstart, hlast.trans ht, hpaid⟩

theorem Paid.tryConsume (h : Paid cfg t0 now g (some tb)) (ht : now ≤ t) :
    Paid cfg t0 t (g + tb.grant t) (some (tb.tryConsume t).1) := by
  have hperiod : ¬ tb.refreshNanos ≤ 0 := by
    rw [h.2.1]
    exact not_le.mpr hcfg.tokenRefresh
  obtain ⟨hmax, hper, htokens, hburst, hstart, hlast, hpaid⟩ := h.refill hcfg ht
  unfold TokenBucket.grant TokenBucket.tryConsume
  rw [if_neg hperiod]
  dsimp only
  split
  · exact ⟨hmax, hper, htokens, hburst, hstart, hlast, by simpa using hpaid⟩
  · refine ⟨hmax, hper, ?_, hburst, hstart, hlast, ?_⟩
    · dsimp only
      omega
    · simp only [if_true]
      omega

theorem Paid.created (h : Paid cfg t0 now g none) (ht0 : t0 ≤ now) (ht : now ≤ t) :
    Paid cfg t0 t g (some (newTokenBucket cfg t)) := by
  have hpos := hcfg.maxTokens
  have hroom := hcfg.burstTokens
  refine ⟨rfl, hcfg.orSecond_eq, ?_, ?_, ht0.trans ht, le_rfl, ?_⟩
  · show 0 ≤ cfg.maxTokens
    omega
  · show 0 ≤ cfg.burstTokens
    omega
  · exact le_trans h (paid_mono hcfg t0 ht)

theorem Paid.evicted (hidle : cfg.tokenRefresh ≤ idleLimit + 1) (h : Paid cfg t0 now g (some tb))
    (hstale : idleLimit < t - tb.lastUpdate) : Paid cfg t0 t g none := by
  obtain ⟨-, -, htokens, -, -, -, hpaid⟩ := h
  have hpos := hcfg.maxTokens
  have hperiod : 1 ≤ (t - tb.lastUpdate) / cfg.tokenRefresh := by
    rw [Int.le_ediv_iff_mul_le hcfg.tokenRefresh]
    omega
  have hsum := periods_add_le hcfg.tokenRefresh t0 tb.lastUpdate t
  calc g + cfg.maxTokens
      ≤ cfg.maxTokens * (1 + (tb.lastUpdate - t0) / cfg.tokenRefresh) + cfg.maxTokens := by omega
    _ = cfg.maxTokens * (1 + ((tb.lastUpdate - t0) / cfg.tokenRefresh + 1)) := by ring
    _ ≤ cfg.maxTokens * (1 + (t - t0) / cfg.tokenRefresh) :=
        Int.mul_le_mul_of_nonneg_left (by omega) (by omega)

/-- **One step.** If the period is not longer than the time after which buckets are deleted, every
call keeps the tokens paid for. -/
theorem Paid.step (hidle : cfg.tokenRefresh ≤ idleLimit + 1) (h : Paid cfg t0 now g o)
    (ht0 : t0 ≤ now) (ht : now ≤ t) (hstep : KeyStep cfg t own o d o') :
    Paid cfg t0 t (g + d) o' := by
  cases hstep with
  | same =>
    rw [Int.add_zero]
    cases o with
    | none => exact le_trans h (paid_mono hcfg t0 ht)
    | some tb =>
      obtain ⟨hmax, hperiod, htokens, hburst, hstart, hlast, hpaid⟩ := h
      exact ⟨hmax, hperiod, htokens, hburst, hstart, hlast.trans ht, hpaid⟩
  | created => exact (h.created hcfg ht0 ht).tryConsume hcfg le_rfl
  | consumed tb => exact h.tryConsume hcfg ht
  | evicted tb hstale =>
    rw [Int.add_zero]
    exact h.evicted hcfg hidle hstale

theorem Paid.le (h : Paid cfg t0 now g o) (ht : now ≤ t) :
    g ≤ cfg.maxTokens * (1 + (t - t0) / cfg.tokenRefresh) := by
  have hpos := hcfg.maxTokens
  cases o with
  | none =>
    have hlater := paid_mono hcfg t0 ht
    have hpaid : g + cfg.maxTokens ≤ cfg.maxTokens * (1 + (now - t0) / cfg.tokenRefresh) := h
    omega
  | some tb =>
    obtain ⟨-, -, htokens, -, -, hlast, hpaid⟩ := h
    have hlater := paid_mono hcfg t0 (hlast.trans ht)
    omega

end

open RateLimiter

variable {rl : RateLimiter} {dim key : String} {cs : List (ℤ × Call)}

/-- **Whole runs.** -/
theorem Paid.run (hcfg : (rl.dimConfig dim).Valid)
    (hidle : (rl.dimConfig dim).tokenRefresh ≤ idleLimit + 1)
    (h : Paid (rl.dimConfig dim) t0 now g (rl.lookup dim key)) (ht0 : t0 ≤ now)
    (horder : InOrder now cs) (ht : now ≤ t) (hcs : ∀ c ∈ cs, c.1 ≤ t) :
    g + rl.granted dim key cs ≤
      (rl.dimConfig dim).maxTokens * (1 + (t - t0) / (rl.dimConfig dim).tokenRefresh) := by
  induction cs generalizing rl now g with
  | nil =>
    rw [granted, Int.add_zero]
    exact h.le hcfg ht
  | cons c cs ih =>
    have hsame := congrFun (dimConfig_perform rl c.1 c.2) dim
    have hnext := h.step hcfg hidle ht0 horder.1 (keyStep_perform rl dim key c.1 c.2)
    rw [← hsame] at hcfg hidle hnext
    rw [granted, ← Int.add_assoc, ← hsame]
    exact ih hcfg hidle hnext (ht0.trans horder.1) horder.2 (hcs c List.mem_cons_self)
      fun c' hc' => hcs c' (List.mem_cons_of_mem c hc')

theorem lookup_perform_of_ne {c : Call} (hc : c ≠ .allow dim key) (h : rl.lookup dim key = none) :
    (rl.perform t c).1.lookup dim key = none := by
  have hstep := keyStep_perform rl dim key t c
  rw [h] at hstep
  generalize (rl.perform t c).1.lookup dim key = o at hstep
  generalize (if c = .allow dim key ∧ (rl.perform t c).2 = true then (1 : ℤ) else 0) = d at hstep
  cases hstep with
  | same => rfl
  | created hown => exact absurd (of_decide_eq_true hown) hc

theorem granted_le (hcfg : (rl.dimConfig dim).Valid)
    (hidle : (rl.dimConfig dim).tokenRefresh ≤ idleLimit + 1) (hnone : rl.lookup dim key = none)
    (horder : InOrder now cs) (hfirst : firstCall dim key cs = some t0) (hcs : ∀ c ∈ cs, c.1 ≤ t) :
    rl.granted dim key cs ≤
      (rl.dimConfig dim).maxTokens * (1 + (t - t0) / (rl.dimConfig dim).tokenRefresh) := by
  induction cs generalizing rl now with
  | nil => simp [firstCall] at hfirst
  | cons c cs ih =>
    by_cases hc : c.2 = .allow dim key
    · -- the account of the key starts with its first call
      obtain rfl : c.1 = t0 := by simpa [firstCall, hc] using hfirst
      have hpaid : Paid (rl.dimConfig dim) c.1 c.1 0 (rl.lookup dim key) := by
        rw [hnone]
        simp [Paid]
      have horder' : InOrder c.1 (c :: cs) := ⟨le_rfl, horder.2⟩
      have hrun := hpaid.run hcfg hidle le_rfl horder' (hcs c List.mem_cons_self) hcs
      rwa [Int.zero_add] at hrun
    · have hsame := congrFun (dimConfig_perform rl c.1 c.2) dim
      rw [← hsame] at hcfg hidle
      rw [granted, if_neg fun h => hc h.1, Int.zero_add, ← hsame]
      refine ih hcfg hidle (lookup_perform_of_ne hc hnone) horder.2 ?_
        fun c' hc' => hcs c' (List.mem_cons_of_mem c hc')
      simpa [firstCall, hc] using hfirst

/-! ### Longer periods -/

theorem tryConsume_of_pos (hperiod : 0 < tb.refreshNanos)
    (hearly : t - tb.lastUpdate ≤ tb.refreshNanos) (hpos : 0 < tb.tokens) :
    tb.tryConsume t = ({ tb with tokens := tb.tokens - 1 }, true) := by
  have hsame : tb.refill t = tb := if_neg (by omega)
  unfold TokenBucket.tryConsume
  rw [if_neg (by omega), hsame]
  exact if_neg (by omega)

/-- The number of buckets that the shard of a key counts for its dimension. -/
def counted (rl : RateLimiter) (dim key : String) : ℤ :=
  (rl.shards (rl.shardFor dim key)).counts dim

theorem perform_of_bucket (hb : rl.lookup dim key = some tb) (t : ℤ) :
    ∃ rl' : RateLimiter, rl.perform t (.allow dim key) = (rl', (tb.tryConsume t).2) ∧
      rl'.lookup dim key = some (tb.tryConsume t).1 ∧ rl'.dimConfig = rl.dimConfig ∧
      counted rl' dim key = counted rl dim key := by
  refine ⟨_, allow_of_bucket hb, ?_, rfl, ?_⟩
  · rw [lookup_setShard _ _ _ (absurd rfl), if_pos rfl]
    exact KeyMap.store_self ..
  · simp [counted, setShard, shardFor, RateShard.put]

theorem perform_of_none (hb : rl.lookup dim key = none)
    (hroom : counted rl dim key < maxBucketsPerShard) (t : ℤ) :
    ∃ rl' : RateLimiter,
      rl.perform t (.allow dim key) = (rl', ((newTokenBucket (rl.dimConfig dim) t).tryConsume t).2) ∧
      rl'.lookup dim key = some ((newTokenBucket (rl.dimConfig dim) t).tryConsume t).1 ∧
      rl'.dimConfig = rl.dimConfig ∧ counted rl' dim key = counted rl dim key + 1 := by
  refine ⟨_, (allow_of_none hb).trans (if_neg (not_le.mpr hroom)), ?_, rfl, ?_⟩
  · rw [lookup_setShard _ _ _ (absurd rfl), if_pos rfl]
    exact KeyMap.store_self ..
  · simp [counted, setShard, shardFor, RateShard.put, RateShard.count]

theorem counted_cleanup (rl : RateLimiter) (t : ℤ) :
    counted (rl.cleanup t) dim key ≤ max 0 (counted rl dim key) := by
  show (if _ then (0 : ℤ) else _) ≤ _
  split
  · exact le_max_left ..
  · refine le_trans ?_ (le_max_right ..)
    show counted rl dim key - _ ≤ counted rl dim key
    omega

theorem granted_drain {n : ℕ} (hb : rl.lookup dim key = some tb) (hperiod : 0 < tb.refreshNanos)
    (hlast : tb.lastUpdate = t) (hn : tb.tokens = n) :
    ∃ rl' : RateLimiter, rl'.lookup dim key = some { tb with tokens := 0 } ∧
      rl'.dimConfig = rl.dimConfig ∧ counted rl' dim key = counted rl dim key ∧
      ∀ rest, rl.granted dim key (List.replicate n (t, .allow dim key) ++ rest) =
        n + rl'.granted dim key rest := by
  induction n generalizing rl tb with
  | zero =>
    refine ⟨rl, ?_, rfl, rfl, fun rest => by simp⟩
    have hzero : tb.tokens = 0 := hn
    rw [hb, ← hzero]
  | succ n ih =>
    obtain ⟨rl₁, hperform, hb₁, hcfg₁, hcount₁⟩ := perform_of_bucket hb t
    rw [tryConsume_of_pos hperiod (by omega) (by omega)] at hperform hb₁
    obtain ⟨rl', hb', hcfg', hcount', hrest⟩ := ih hb₁ hperiod hlast (by simp [hn])
    refine ⟨rl', hb', hcfg'.trans hcfg₁, hcount'.trans hcount₁, fun rest => ?_⟩
    rw [List.replicate_succ, List.cons_append, granted, hperform, if_pos ⟨rfl, rfl⟩, hrest]
    push_cast
    ring

def NoBuckets (rl : RateLimiter) : Prop := ∀ i, rl.shards i = .empty

theorem NoBuckets.lookup (h : NoBuckets rl) (dim key : String) : rl.lookup dim key = none := by
  rw [RateLimiter.lookup, h]
  rfl

theorem NoBuckets.counted (h : NoBuckets rl) (dim key : String) : counted rl dim key = 0 := by
  rw [Security.counted, h]
  rfl

/-- All tokens of a key at one time, and another one as soon as its bucket can be deleted. -/
def refilledTooEarly (dim key : String) (maxTokens : ℤ) : List (ℤ × Call) :=
  (0, .allow dim key) :: (List.replicate (maxTokens - 1).toNat (0, .allow dim key) ++
    [(idleLimit + 1, .cleanup), (idleLimit + 1, .allow dim key)])

theorem inOrder_replicate (n : ℕ) (c : Call) (h : InOrder t cs) :
    InOrder t (List.replicate n (t, c) ++ cs) := by
  induction n with
  | zero => exact h
  | succ n ih => exact ⟨le_rfl, ih⟩

theorem tryConsume_new (hcfg : cfg.Valid) (t : ℤ) : (newTokenBucket cfg t).tryConsume t =
    ({ newTokenBucket cfg t with tokens := cfg.maxTokens - 1 }, true) := by
  have hperiod : 0 < (newTokenBucket cfg t).refreshNanos := hcfg.tokenRefresh.trans_eq hcfg.orSecond_eq.symm
  refine tryConsume_of_pos hperiod ?_ hcfg.maxTokens
  show t - t ≤ _
  omega

theorem granted_refilledTooEarly (hcfg : (rl.dimConfig dim).Valid) (hempty : NoBuckets rl)
    (key : String) : rl.granted dim key (refilledTooEarly dim key (rl.dimConfig dim).maxTokens) =
      (rl.dimConfig dim).maxTokens + 1 := by
  have hpos := hcfg.maxTokens
  have hperiod := hcfg.tokenRefresh.trans_eq hcfg.orSecond_eq.symm
  have hleft : (rl.dimConfig dim).maxTokens - 1 = ((rl.dimConfig dim).maxTokens - 1).toNat :=
    (Int.toNat_of_nonneg (by omega)).symm
  -- the first call creates the bucket, the next ones empty it
  obtain ⟨rl₁, hperform₁, hb₁, hcfg₁, hcount₁⟩ := perform_of_none (hempty.lookup dim key)
    (by rw [hempty.counted]; decide) 0
  rw [tryConsume_new hcfg] at hperform₁ hb₁
  obtain ⟨rl₂, hb₂, hcfg₂, hcount₂, hdrain⟩ := granted_drain (t := 0) hb₁ hperiod rfl hleft
  -- the bucket is deleted, and there is room for another one
  have hb₃ : (rl₂.cleanup (idleLimit + 1)).lookup dim key = none := by
    show (rl₂.lookup dim key).filter _ = none
    rw [hb₂]
    simp [Option.filter, newTokenBucket]
  have hcount₃ : counted (rl₂.cleanup (idleLimit + 1)) dim key < maxBucketsPerShard := by
    refine (counted_cleanup rl₂ (idleLimit + 1)).trans_lt ?_
    rw [hcount₂, hcount₁, hempty.counted]
    decide
  have hcfg₃ : (rl₂.cleanup (idleLimit + 1)).dimConfig dim = rl.dimConfig dim := by
    show rl₂.dimConfig dim = _
    rw [hcfg₂, hcfg₁]
  obtain ⟨rl₄, hperform₄, -⟩ := perform_of_none hb₃ hcount₃ (idleLimit + 1)
  rw [hcfg₃, tryConsume_new hcfg] at hperform₄
  have hperform₃ : rl₂.perform (idleLimit + 1) .cleanup = (rl₂.cleanup (idleLimit + 1), false) := rfl
  rw [refilledTooEarly, granted, hperform₁, if_pos ⟨rfl, rfl⟩, hdrain, granted, hperform₃,
    if_neg (by simp), granted, hperform₄, if_pos ⟨rfl, rfl⟩, granted]
  omega

/-- **The bound on the rate.** Take a limiter without buckets and a dimension with a valid
configuration. Each of its keys is granted, from its first call at `t0` until `t`, at most the rate
for each period begun, exactly if the period is not longer than the time after which buckets are
deleted. -/
theorem rateBound_iff (rl : RateLimiter) (dim : String) (hempty : NoBuckets rl)
    (hcfg : (rl.dimConfig dim).Valid) :
    (∀ (key : String) (now t0 t : ℤ) (cs : List (ℤ × Call)), InOrder now cs →
      firstCall dim key cs = some t0 → (∀ c ∈ cs, c.1 ≤ t) →
      rl.granted dim key cs ≤
        (rl.dimConfig dim).maxTokens * (1 + (t - t0) / (rl.dimConfig dim).tokenRefresh)) ↔
      (rl.dimConfig dim).tokenRefresh ≤ idleLimit + 1 := by
  constructor
  · intro h
    by_contra hlong
    have horder : InOrder 0 (refilledTooEarly dim "" (rl.dimConfig dim).maxTokens) :=
      ⟨le_rfl, inOrder_replicate _ _ ⟨show (0 : ℤ) ≤ idleLimit + 1 by decide, le_rfl, trivial⟩⟩
    have hfirst : firstCall dim "" (refilledTooEarly dim "" (rl.dimConfig dim).maxTokens) = some 0 := by
      simp [firstCall, refilledTooEarly]
    have hbound := h "" 0 0 (idleLimit + 1) _ horder hfirst ?_
    · -- less than a period has passed
      have hzero : (idleLimit + 1 - 0) / (rl.dimConfig dim).tokenRefresh = 0 :=
        Int.ediv_eq_zero_of_lt (by decide) (by omega)
      rw [granted_refilledTooEarly hcfg hempty, hzero] at hbound
      omega
    · intro c hc
      have hnonneg : 0 ≤ idleLimit + 1 := by decide
      simp only [refilledTooEarly, List.mem_cons, List.mem_append, List.mem_replicate,
        List.not_mem_nil, or_false] at hc
      rcases hc with rfl | ⟨-, rfl⟩ | rfl | rfl
      · exact hnonneg
      · exact hnonneg
      · exact le_rfl
      · exact le_rfl
  · intro hidle key now t0 t cs horder hfirst hcs
    exact granted_le hcfg hidle (hempty.lookup dim key) horder hfirst hcs

end Bound

def twoPerSecond : RateLimiter := .newRateLimiter (fun _ => 0) 2 second 0

/-- Three messages at once and one after a second and a nanosecond. -/
theorem rateBound_iff_twoPerSecond :
    let calls := [(0, Call.allow "ip" "a"), (0, .allow "ip" "a"), (0, .allow "ip" "a"),
      (second + 1, .allow "ip" "a")]
    twoPerSecond.answers calls = [true, true, false, true] ∧
      twoPerSecond.granted "ip" "a" calls ≤ 2 * (1 + (second + 1 - 0) / second) := by
  intro calls
  have hcfg : (twoPerSecond.dimConfig "ip").Valid := ⟨by decide, by decide, by decide⟩
  refine ⟨by decide +kernel, ?_⟩
  exact (rateBound_iff twoPerSecond "ip" (fun _ => rfl) hcfg).mpr (by decide) "a" 0 0 (second + 1)
    calls (by simp [calls, InOrder, second]) rfl (by decide)

def onePerHour : RateLimiter := .newRateLimiter (fun _ => 0) 1 (3600 * second) 0

/-- The bucket of the first message is deleted after half an hour, and a second message is let through
within the hour. -/
theorem onePerHour_twice :
    let calls := [(0, Call.allow "ip" "a"), (idleLimit + 1, .cleanup),
      (idleLimit + 1, .allow "ip" "a")]
    onePerHour.dimConfig "ip" = ⟨1, 2, 3600 * second⟩ ∧ onePerHour.granted "ip" "a" calls = 2 ∧
      ¬ onePerHour.granted "ip" "a" calls ≤ 1 * (1 + (idleLimit + 1 - 0) / (3600 * second)) := by
  decide +kernel

end Sgate.Security
