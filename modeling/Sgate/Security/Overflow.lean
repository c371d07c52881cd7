import Sgate.Security.RateLimiter

/-! # Token buckets in 64-bit arithmetic

`Security.RateLimiter` counts tokens and nanoseconds in unbounded numbers, the source in `int64`. A
refill multiplies the periods that passed by the rate and adds the product to the tokens without
looking at their size. As long as everything fits, a bucket is the unbounded one
(`Exact.tryConsume`). -/

namespace Sgate.Security

open Int64

/-- A `TokenBucket` as it is stored. -/
structure TokenBucket64 where
  tokens : Int64
  lastUpdate : Int64
  maxTokens : Int64
  burstTokens : Int64
  refreshNanos : Int64

namespace TokenBucket64

def refill (tb : TokenBucket64) (now : Int64) : TokenBucket64 :=
  if tb.refreshNanos < now - tb.lastUpdate then
    let refill := (now - tb.lastUpdate) / tb.refreshNanos * tb.maxTokens
    { tb with
      lastUpdate := now
      tokens := if 0 < refill then min (tb.tokens + refill) tb.burstTokens else tb.tokens }
  else tb

def tryConsume (tb : TokenBucket64) (now : Int64) : TokenBucket64 × Bool :=
  if tb.refreshNanos ≤ 0 then (tb, 0 < tb.tokens)
  else
    let tb := tb.refill now
    if tb.tokens ≤ 0 then (tb, false) else ({ tb with tokens := tb.tokens - 1 }, true)

def toBucket (tb : TokenBucket64) : TokenBucket :=
  ⟨tb.tokens.toInt, tb.lastUpdate.toInt, tb.maxTokens.toInt, tb.burstTokens.toInt,
    tb.refreshNanos.toInt⟩

/-- The time since the last refill. -/
def gap (tb : TokenBucket64) (now : Int64) : ℤ := now.toInt - tb.lastUpdate.toInt

/-- The tokens that are due for that time. -/
def gained (tb : TokenBucket64) (now : Int64) : ℤ :=
  tb.gap now / tb.refreshNanos.toInt * tb.maxTokens.toInt

/-- No number that a refill computes overflows. -/
structure Exact (tb : TokenBucket64) (now : Int64) : Prop where
  elapsed : (now - tb.lastUpdate).toInt = tb.gap now
  refill : ((now - tb.lastUpdate) / tb.refreshNanos * tb.maxTokens).toInt = tb.gained now
  tokens : (tb.tokens + (now - tb.lastUpdate) / tb.refreshNanos * tb.maxTokens).toInt =
    tb.tokens.toInt + tb.gained now

variable {tb : TokenBucket64} {now : Int64}

theorem bmod_eq_self_iff {n : ℤ} : n.bmod (2 ^ 64) = n ↔ -2 ^ 63 ≤ n ∧ n < 2 ^ 63 := by
  rw [Int.bmod_def]
  omega

theorem toInt_min (a b : Int64) : (min a b).toInt = min a.toInt b.toInt := by
  show (if a ≤ b then a else b).toInt = _
  rw [min_def]
  simp only [le_iff_toInt_le]
  split <;> rfl

theorem toBucket_refill : tb.toBucket.refill now.toInt = if tb.refreshNanos.toInt < tb.gap now then
      { tb.toBucket with
        lastUpdate := now.toInt
        tokens := if 0 < tb.gained now then
            min (tb.tokens.toInt + tb.gained now) tb.burstTokens.toInt
          else tb.tokens.toInt }
    else tb.toBucket := rfl

theorem Exact.refill_eq (h : tb.Exact now) :
    (tb.refill now).toBucket = tb.toBucket.refill now.toInt := by
  have hlate : tb.refreshNanos < now - tb.lastUpdate ↔ tb.refreshNanos.toInt < tb.gap now := by
    rw [lt_iff_toInt_lt, h.elapsed]
  have hdue : 0 < (now - tb.lastUpdate) / tb.refreshNanos * tb.maxTokens ↔ 0 < tb.gained now := by
    rw [lt_iff_toInt_lt, h.refill, toInt_zero]
  simp only [toBucket_refill, TokenBucket64.refill, hlate, hdue]
  split
  · split
    · rw [toBucket, toInt_min, h.tokens]
      rfl
    · rfl
  · rfl

/-- Without overflow, the bucket behaves like the unbounded one. -/
theorem Exact.tryConsume (h : tb.Exact now) :
    ((tb.tryConsume now).1.toBucket, (tb.tryConsume now).2) = tb.toBucket.tryConsume now.toInt := by
  have hrefresh : tb.refreshNanos ≤ 0 ↔ tb.toBucket.refreshNanos ≤ 0 := le_iff_toInt_le
  have htokens : (tb.refill now).tokens ≤ 0 ↔ (tb.toBucket.refill now.toInt).tokens ≤ 0 := by
    rw [le_iff_toInt_le, ← h.refill_eq]
    rfl
  unfold TokenBucket64.tryConsume TokenBucket.tryConsume
  simp only [hrefresh, htokens]
  split
  · simp only [Prod.mk.injEq, true_and, lt_iff_toInt_lt]
    rfl
  · split
    · rw [h.refill_eq]
    · rename_i hpos
      -- a positive number of tokens can be counted down
      have hone : ((tb.refill now).tokens - 1).toInt = (tb.refill now).tokens.toInt - 1 := by
        have hrange := (tb.refill now).tokens.toInt_lt
        rw [← h.refill_eq] at hpos
        rw [toInt_sub, toInt_one, bmod_eq_self_iff]
        change ¬ (tb.refill now).tokens.toInt ≤ 0 at hpos
        omega
      rw [← h.refill_eq, toBucket, hone]
      rfl

section

variable (hmax : 1 ≤ tb.maxTokens.toInt) (hrefresh : 1 ≤ tb.refreshNanos.toInt)
  (hgap : tb.refreshNanos.toInt < tb.gap now)

include hmax hrefresh hgap

theorem gained_pos : 0 < tb.gained now := by
  have hperiod : 0 < tb.gap now / tb.refreshNanos.toInt :=
    Int.le_ediv_of_mul_le (by omega) (by omega)
  exact Int.mul_pos hperiod hmax

/-- When nothing overflows, for a bucket that is due for a refill. -/
theorem exact_iff : tb.Exact now ↔ tb.gap now < 2 ^ 63 ∧ tb.gained now < 2 ^ 63 ∧
    tb.tokens.toInt + tb.gained now < 2 ^ 63 := by
  have hgained := gained_pos hmax hrefresh hgap
  constructor
  · intro h
    exact ⟨h.elapsed ▸ toInt_lt _, h.refill ▸ toInt_lt _, h.tokens ▸ toInt_lt _⟩
  · rintro ⟨hgap', hgained', htokens⟩
    have hmin := tb.tokens.le_toInt
    have helapsed : (now - tb.lastUpdate).toInt = tb.gap now := by
      rw [toInt_sub]
      exact bmod_eq_self_iff.mpr ⟨by rw [← gap]; omega, hgap'⟩
    have hperiods : ((now - tb.lastUpdate) / tb.refreshNanos).toInt =
        tb.gap now / tb.refreshNanos.toInt := by
      have hnonneg : 0 ≤ tb.gap now := by omega
      have hle : tb.gap now / tb.refreshNanos.toInt ≤ tb.gap now := Int.ediv_le_self _ hnonneg
      have hdiv : 0 ≤ tb.gap now / tb.refreshNanos.toInt := Int.ediv_nonneg hnonneg (by omega)
      rw [toInt_div, helapsed, Int.tdiv_eq_ediv_of_nonneg hnonneg]
      exact bmod_eq_self_iff.mpr ⟨by omega, by omega⟩
    have hrefill : ((now - tb.lastUpdate) / tb.refreshNanos * tb.maxTokens).toInt = tb.gained now := by
      rw [toInt_mul, hperiods]
      exact bmod_eq_self_iff.mpr ⟨by rw [← gained]; omega, hgained'⟩
    refine ⟨helapsed, hrefill, ?_⟩
    rw [toInt_add, hrefill]
    exact bmod_eq_self_iff.mpr ⟨by omega, htokens⟩

theorem Exact.refills_iff (h : tb.Exact now) (hburst : 1 ≤ tb.burstTokens.toInt) :
    (tb.tryConsume now).2 = true ∧ (tb.tryConsume now).1.tokens.toInt =
        min (tb.tokens.toInt + tb.gained now) tb.burstTokens.toInt - 1 ↔
    0 < tb.tokens.toInt + tb.gained now := by
  have hgained : 0 < tb.gained now := gained_pos hmax hrefresh hgap
  have hrefilled : (tb.toBucket.refill now.toInt).tokens =
      min (tb.tokens.toInt + tb.gained now) tb.burstTokens.toInt := by
    rw [toBucket_refill, if_pos hgap]
    exact if_pos hgained
  have hsame := h.tryConsume
  rw [TokenBucket.tryConsume, if_neg (by change ¬ tb.refreshNanos.toInt ≤ 0; omega)] at hsame
  dsimp only at hsame
  rw [hrefilled] at hsame
  split at hsame
  · rename_i hempty
    simp only [Prod.mk.injEq] at hsame
    rw [hsame.2]
    simp only [Bool.false_eq_true, false_and, false_iff]
    omega
  · rename_i hpos
    simp only [Prod.mk.injEq] at hsame
    refine ⟨fun _ => by omega, fun _ => ⟨hsame.2, ?_⟩⟩
    exact congrArg TokenBucket.tokens hsame.1

end

/-- **When an idle bucket refills.** A bucket with a rate, a burst of at least the rate and a period,
whatever its tokens, grants a token more than a period after its last refill and is left with
`min (tokens + gap / refresh * max) burst - 1`, computed without overflow, exactly if the gap, the
product and the sum are below `2 ^ 63` and the sum is positive. -/
theorem idle_refills_iff (tb : TokenBucket64) (now : Int64) (hmax : 1 ≤ tb.maxTokens)
    (hburst : tb.maxTokens ≤ tb.burstTokens) (hrefresh : 1 ≤ tb.refreshNanos)
    (hgap : tb.refreshNanos.toInt < tb.gap now) :
    (tb.Exact now ∧ (tb.tryConsume now).2 = true ∧ (tb.tryConsume now).1.tokens.toInt =
        min (tb.tokens.toInt + tb.gained now) tb.burstTokens.toInt - 1) ↔
    (tb.gap now < 2 ^ 63 ∧ tb.gained now < 2 ^ 63 ∧ tb.tokens.toInt + tb.gained now < 2 ^ 63) ∧
      0 < tb.tokens.toInt + tb.gained now := by
  rw [le_iff_toInt_le] at hmax hburst hrefresh
  rw [← exact_iff hmax hrefresh hgap]
  exact and_congr_right fun h => h.refills_iff hmax hrefresh hgap (hmax.trans hburst)

/-- The statement for an empty bucket of ten tokens a second, after a minute. -/
theorem idle_refills_minute :
    ((⟨0, 0, 10, 20, 1000000000⟩ : TokenBucket64).tryConsume 60000000000).2 = true :=
  ((idle_refills_iff ⟨0, 0, 10, 20, 1000000000⟩ 60000000000 (by decide) (by decide) (by decide)
    (by decide)).mpr (by decide)).2.1

/-- An empty bucket with a million tokens a nanosecond is still empty after three hours. -/
theorem idle_stays_empty :
    ((⟨0, 0, 1000000, 2000000, 1⟩ : TokenBucket64).tryConsume 10800000000000).2 = false := by
  decide

end TokenBucket64

end Sgate.Security
