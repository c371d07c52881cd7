import Sgate.Security.RateLimiter

/-! # The number of buckets

Every shard counts its buckets per dimension beside the buckets, and refuses to make one when the count
of its dimension has reached the limit. The counts are the numbers of buckets whatever is called. -/

namespace Sgate.Security

open RateShard

namespace RateShard

theorem mem_keys_clearDimension (sh : RateShard) (dimension : String) (k : String × String) :
    k ∈ sh.keys.filter (·.1 ≠ dimension) ↔
      (if k.1 = dimension then none else sh.buckets k).isSome := by
  rw [Finset.mem_filter, sh.mem_keys]
  split <;> simp [*]

def clearDimension (sh : RateShard) (dimension : String) : RateShard where
  buckets k := if k.1 = dimension then none else sh.buckets k
  keys := sh.keys.filter (·.1 ≠ dimension)
  counts := Function.update sh.counts dimension 0
  mem_keys := sh.mem_keys_clearDimension dimension

/-- The number of buckets of a dimension. -/
def size (sh : RateShard) (dimension : String) : ℕ := (sh.keys.filter (·.1 = dimension)).card

def Accounted (sh : RateShard) : Prop :=
  ∀ d, sh.counts d = sh.size d ∧ sh.counts d ≤ maxBucketsPerShard

variable {sh : RateShard} {k : String × String}

theorem maxBucketsPerShard_nonneg : 0 ≤ maxBucketsPerShard := by
  decide

theorem accounted_empty : empty.Accounted := fun _ => ⟨rfl, maxBucketsPerShard_nonneg⟩

theorem Accounted.put (h : sh.Accounted) (hk : k ∈ sh.keys) (tb : TokenBucket) :
    (sh.put k tb).Accounted := by
  intro d
  have hkeys : (sh.put k tb).keys = sh.keys := Finset.insert_eq_of_mem hk
  rw [size, hkeys]
  exact h d

theorem Accounted.create (h : sh.Accounted) (hk : k ∉ sh.keys) (tb : TokenBucket)
    (hroom : sh.counts k.1 < maxBucketsPerShard) : ((sh.put k tb).count k.1).Accounted := by
  intro d
  have hcount : ((sh.put k tb).count k.1).counts d =
      if d = k.1 then sh.counts d + 1 else sh.counts d := by
    simp only [RateShard.count, RateShard.put, Function.update_apply]
    split <;> simp [*]
  have hsize : ((sh.put k tb).count k.1).size d = if d = k.1 then sh.size d + 1 else sh.size d := by
    simp only [size, RateShard.count, RateShard.put, Finset.filter_insert, eq_comm (a := k.1)]
    split
    · rw [Finset.card_insert_of_notMem fun hmem => hk (Finset.mem_filter.mp hmem).1]
    · rfl
  obtain ⟨heq, hle⟩ := h d
  rw [hcount, hsize]
  split
  · subst d
    omega
  · exact ⟨heq, hle⟩

theorem Accounted.cleanup (h : sh.Accounted) (now : ℤ) : (sh.cleanup now).Accounted := by
  intro d
  obtain ⟨heq, hle⟩ := h d
  have hkept : (sh.cleanup now).size d =
      (sh.keys.filter fun k => k.1 = d ∧ sh.stale now k = false).card := by
    simp only [size, RateShard.cleanup, Finset.filter_filter, and_comm]
  have hsplit : (sh.keys.filter fun k => k.1 = d ∧ sh.stale now k = false).card +
      (sh.keys.filter fun k => k.1 = d ∧ sh.stale now k = true).card = sh.size d := by
    simpa [Finset.filter_filter, size] using
      Finset.card_filter_add_card_filter_not (s := sh.keys.filter (·.1 = d)) (sh.stale now · = false)
  rw [hkept]
  simp only [RateShard.cleanup]
  split
  · rename_i hempty
    rw [hempty]
    exact ⟨rfl, maxBucketsPerShard_nonneg⟩
  · omega

theorem Accounted.clearDimension (h : sh.Accounted) (dimension : String) :
    (sh.clearDimension dimension).Accounted := by
  intro d
  simp only [RateShard.clearDimension, size, Finset.filter_filter, Function.update_apply]
  split
  · subst d
    exact ⟨by simp, maxBucketsPerShard_nonneg⟩
  · rename_i hd
    have hsame : (sh.keys.filter fun k => k.1 ≠ dimension ∧ k.1 = d) = sh.keys.filter (·.1 = d) := by
      apply Finset.filter_congr
      rintro k -
      constructor
      · exact And.right
      · rintro rfl
        exact ⟨hd, rfl⟩
    rw [hsame]
    exact h d

end RateShard

/-- What changes the buckets, in one shard at a time. -/
inductive BucketOp
  | allow (dimension key : String) (now : ℤ)
  | cleanup (shard : ℕ) (now : ℤ)
  | clear (shard : ℕ)
  | clearDimension (shard : ℕ) (dimension : String)

namespace RateLimiter

def exec (rl : RateLimiter) : BucketOp → RateLimiter
  | .allow dimension key now => (rl.allow dimension key now).1
  | .cleanup i now => rl.setShard i ((rl.shards i).cleanup now)
  | .clear i => rl.setShard i .empty
  | .clearDimension i dimension => rl.setShard i ((rl.shards i).clearDimension dimension)

structure Accounted (rl : RateLimiter) : Prop where
  counts : ∀ i, (rl.shards i).Accounted
  home : ∀ i d k, (d, k) ∈ (rl.shards i).keys → i = rl.shardFor d k

variable {rl : RateLimiter} {i : ℕ} {sh : RateShard}

theorem Accounted.setShard (h : rl.Accounted) (hsh : sh.Accounted)
    (hhome : ∀ d k, (d, k) ∈ sh.keys → i = rl.shardFor d k) : (rl.setShard i sh).Accounted where
  counts j := by
    by_cases hj : j = i
    · subst j
      simpa [RateLimiter.setShard] using hsh
    · simpa [RateLimiter.setShard, hj] using h.counts j
  home j d k hk := by
    by_cases hj : j = i
    · subst j
      exact hhome d k (by simpa [RateLimiter.setShard] using hk)
    · exact h.home j d k (by simpa [RateLimiter.setShard, hj] using hk)

theorem Accounted.exec (h : rl.Accounted) (op : BucketOp) : (rl.exec op).Accounted := by
  cases op with
  | allow d k now =>
    have hhome : ∀ d' k', (d', k') ∈ insert (d, k) (rl.shards (rl.shardFor d k)).keys →
        rl.shardFor d k = rl.shardFor d' k' := by
      intro d' k' hk'
      rcases Finset.mem_insert.mp hk' with heq | hk'
      · cases heq
        rfl
      · exact h.home _ d' k' hk'
    have hmem := (rl.shards (rl.shardFor d k)).mem_keys (d, k)
    show (rl.allow d k now).1.Accounted
    cases hb : rl.lookup d k with
    | some tb =>
      rw [allow_of_bucket hb]
      rw [show (rl.shards (rl.shardFor d k)).buckets (d, k) = some tb from hb] at hmem
      exact h.setShard ((h.counts _).put (hmem.mpr rfl) _) hhome
    | none =>
      rw [allow_of_none hb]
      split
      · exact h
      · rename_i hroom
        rw [show (rl.shards (rl.shardFor d k)).buckets (d, k) = none from hb] at hmem
        exact h.setShard ((h.counts _).create (by simp [hmem]) _ (not_le.mp hroom)) hhome
  | cleanup i now =>
    refine h.setShard ((h.counts i).cleanup now) fun d k hk => h.home i d k ?_
    exact (Finset.mem_filter.mp hk).1
  | clear i => exact h.setShard accounted_empty (by simp [empty])
  | clearDimension i d =>
    refine h.setShard ((h.counts i).clearDimension d) fun d' k hk => h.home i d' k ?_
    exact (Finset.mem_filter.mp hk).1

end RateLimiter

end Sgate.Security
