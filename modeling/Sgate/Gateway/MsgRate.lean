import Sgate.Gateway.Pipeline

/-! # The message rate of a connection

`CheckAndIncrementMsgRate` counts in windows that start with a call. A call that is admitted is counted
in the window that is current after it. -/

namespace Sgate.Pipeline

/-- A call of `CheckAndIncrementMsgRate`, with the window before and after it. -/
structure RateCall where
  now : ℤ
  before : ℤ
  window : ℤ
  admitted : Bool

/-- Calls at the given times, one after the other. -/
def rateCalls (maxPerConn : ℤ) (c : Client) : List ℤ → List RateCall
  | [] => []
  | now :: times =>
    let r := c.checkAndIncrementMsgRate maxPerConn now
    ⟨now, c.msgWindowStart, r.1.msgWindowStart, r.2⟩ :: rateCalls maxPerConn r.1 times

section

variable {c : Client} {maxPerConn now t u : ℤ} {times : List ℤ}

/-- What a call does: it starts a window, is refused, or is counted in the current window. -/
theorem checkAndIncrementMsgRate_cases (hmax : 1 ≤ maxPerConn) (c : Client) (now : ℤ) :
    let r := c.checkAndIncrementMsgRate maxPerConn now
    (1000 ≤ now - c.msgWindowStart ∧ r.2 = true ∧ r.1.msgWindowStart = now ∧ r.1.msgCount = 1) ∨
    (now - c.msgWindowStart < 1000 ∧ maxPerConn ≤ c.msgCount ∧ r = (c, false)) ∨
    (now - c.msgWindowStart < 1000 ∧ c.msgCount < maxPerConn ∧ r.2 = true ∧
      r.1.msgWindowStart = c.msgWindowStart ∧ r.1.msgCount = c.msgCount + 1) := by
  unfold Client.checkAndIncrementMsgRate
  rw [if_neg (by omega)]
  split
  · simp_all
  · split <;> simp_all

/-- The window `w` takes in what its count leaves room for, a later one at most `maxPerConn`. -/
theorem countP_window_le (hmax : 1 ≤ maxPerConn) (hcount : c.msgCount ≤ maxPerConn) (w : ℤ) :
    ((rateCalls maxPerConn c times).countP fun r => r.admitted ∧ r.window = w : ℕ) ≤
      if c.msgWindowStart < w then maxPerConn
      else if c.msgWindowStart = w then maxPerConn - c.msgCount else 0 := by
  induction times generalizing c with
  | nil =>
    simp only [rateCalls, List.countP_nil]
    split_ifs <;> omega
  | cons now times ih =>
    rw [rateCalls, List.countP_cons, Nat.cast_add]
    obtain ⟨hnow, hok, hstart, hone⟩ | ⟨-, -, heq⟩ | ⟨-, hroom, hok, hstart, hnext⟩ :=
      checkAndIncrementMsgRate_cases hmax c now
    · have hrest := ih (hone.trans_le hmax)
      rw [hstart, hone] at hrest
      simp only [hok, hstart, true_and, decide_eq_true_eq]
      split_ifs at hrest ⊢ <;> omega
    · simpa [heq] using ih hcount
    · have hrest := ih (hnext.trans_le (by omega))
      rw [hstart, hnext] at hrest
      simp only [hok, hstart, true_and, decide_eq_true_eq]
      split_ifs at hrest ⊢ <;> omega

theorem countP_interval_eq_zero (h : ∀ now ∈ times, u < now) (c : Client) :
    (rateCalls maxPerConn c times).countP (fun r => r.admitted ∧ t ≤ r.now ∧ r.now ≤ u) = 0 := by
  induction times generalizing c with
  | nil => rfl
  | cons now times ih =>
    have hnow := h now List.mem_cons_self
    rw [rateCalls, List.countP_cons, ih (fun x hx => h x (List.mem_cons_of_mem _ hx))]
    simp [show ¬ now ≤ u by omega]

/-- From `t` on, at most one more window starts in an interval of less than a second. -/
theorem countP_interval_le_of_ge (hmax : 1 ≤ maxPerConn) (hcount : c.msgCount ≤ maxPerConn)
    (hshort : u - t < 1000) (hge : ∀ now ∈ times, t ≤ now) (hsorted : times.Pairwise (· ≤ ·)) :
    ((rateCalls maxPerConn c times).countP fun r => r.admitted ∧ t ≤ r.now ∧ r.now ≤ u : ℕ) ≤
      (if t ≤ c.msgWindowStart then maxPerConn else 2 * maxPerConn) - c.msgCount := by
  induction times generalizing c with
  | nil =>
    simp only [rateCalls, List.countP_nil]
    split_ifs <;> omega
  | cons now times ih =>
    obtain ⟨hfirst, hrest⟩ := List.pairwise_cons.mp hsorted
    by_cases hnow : now ≤ u
    · have ht := hge now List.mem_cons_self
      have ih' := fun c' (h' : Client.msgCount c' ≤ maxPerConn) =>
        ih (c := c') h' (fun x hx => hge x (List.mem_cons_of_mem _ hx)) hrest
      rw [rateCalls, List.countP_cons, Nat.cast_add]
      obtain ⟨hold, hok, hstart, hone⟩ | ⟨-, -, heq⟩ | ⟨-, hroom, hok, hstart, hnext⟩ :=
        checkAndIncrementMsgRate_cases hmax c now
      · have hlater := ih' _ (hone.trans_le hmax)
        rw [hstart, hone, if_pos ht] at hlater
        simp only [hok, ht, hnow, and_self, decide_true, if_true, Nat.cast_one]
        split_ifs <;> omega
      · simpa [heq] using ih' c hcount
      · have hlater := ih' _ (hnext.trans_le (by omega))
        rw [hstart, hnext] at hlater
        simp only [hok, ht, hnow, and_self, decide_true, if_true, Nat.cast_one]
        omega
    · have hall : ∀ x ∈ now :: times, u < x := by
        intro x hx
        rcases List.mem_cons.mp hx with rfl | hx
        · omega
        · have := hfirst x hx
          omega
      rw [countP_interval_eq_zero hall]
      split_ifs <;> simp <;> omega

theorem countP_interval_le (hmax : 1 ≤ maxPerConn) (h₀ : 0 ≤ c.msgCount)
    (hcount : c.msgCount ≤ maxPerConn) (hshort : u - t < 1000) (hsorted : times.Pairwise (· ≤ ·)) :
    ((rateCalls maxPerConn c times).countP fun r => r.admitted ∧ t ≤ r.now ∧ r.now ≤ u : ℕ) ≤
      2 * maxPerConn := by
  induction times generalizing c with
  | nil => simp [rateCalls]; omega
  | cons now times ih =>
    by_cases hnow : t ≤ now
    · have hge : ∀ x ∈ now :: times, t ≤ x := by
        intro x hx
        rcases List.mem_cons.mp hx with rfl | hx
        · exact hnow
        · exact hnow.trans ((List.pairwise_cons.mp hsorted).1 x hx)
      have hle := countP_interval_le_of_ge hmax hcount hshort hge hsorted
      split_ifs at hle <;> omega
    · have hrest := (List.pairwise_cons.mp hsorted).2
      rw [rateCalls, List.countP_cons, if_neg (by simp [hnow]), Nat.add_zero]
      obtain ⟨-, -, -, hone⟩ | ⟨-, -, heq⟩ | ⟨-, hroom, -, -, hnext⟩ :=
        checkAndIncrementMsgRate_cases hmax c now
      · exact ih (by omega) (by omega) hrest
      · rw [heq]
        exact ih h₀ hcount hrest
      · exact ih (by omega) (by omega) hrest

theorem admitted_of_mem_rateCalls (hmax : 1 ≤ maxPerConn) {r : RateCall}
    (hr : r ∈ rateCalls maxPerConn c times) (hlate : 1000 ≤ r.now - r.before) : r.admitted = true := by
  induction times generalizing c with
  | nil => cases hr
  | cons now times ih =>
    rcases List.mem_cons.mp hr with rfl | hr
    · obtain ⟨-, hok, -⟩ | ⟨hnow, -⟩ | ⟨hnow, -⟩ := checkAndIncrementMsgRate_cases hmax c now
      · exact hok
      · exact absurd hlate (not_le.mpr hnow)
      · exact absurd hlate (not_le.mpr hnow)
    · exact ih hr

end

/-- **The message rate of a connection.** Of the calls on a new connection, whose first window starts
with it, at most `maxPerConn` are admitted in each window, and at most twice as many in any interval of
less than a second. A call that comes a second after the start of the current window or later is
admitted. -/
theorem msgRate_bounds (conn : Connection) (created maxPerConn : ℤ) (hmax : 1 ≤ maxPerConn)
    (times : List ℤ) (hsorted : times.Pairwise (· ≤ ·)) :
    let calls := rateCalls maxPerConn
      { toConnection := conn, createdAt := created, msgWindowStart := created } times
    (∀ w, (calls.countP fun r => r.admitted ∧ r.window = w : ℕ) ≤ maxPerConn) ∧
    (∀ t u, u - t < 1000 →
      (calls.countP fun r => r.admitted ∧ t ≤ r.now ∧ r.now ≤ u : ℕ) ≤ 2 * maxPerConn) ∧
    ∀ r ∈ calls, 1000 ≤ r.now - r.before → r.admitted = true := by
  have hnew : (0 : ℤ) ≤ maxPerConn := by omega
  refine ⟨fun w => ?_, fun t u hshort => ?_, fun r hr => admitted_of_mem_rateCalls hmax hr⟩
  · refine (countP_window_le hmax hnew w).trans ?_
    split_ifs
    · exact le_rfl
    · exact (sub_zero maxPerConn).le
    · exact hnew
  · exact countP_interval_le hmax le_rfl hnew hshort hsorted

/-- Two messages a second: two at the end of the first window, two at the beginning of the next. -/
theorem msgRate_bounds_two :
    let c : Client :=
      { remoteAddr := "10.0.0.1:1", userUUID := "temp_1", createdAt := 1500, msgWindowStart := 1500 }
    let calls := rateCalls 2 c [1600, 2490, 2495, 2500, 2510]
    calls.map RateCall.admitted = [true, true, false, true, true] ∧
      (calls.countP fun r => r.admitted ∧ 2400 ≤ r.now ∧ r.now ≤ 2600 : ℕ) ≤ (2 * 2 : ℤ) :=
  ⟨by decide, (msgRate_bounds { remoteAddr := "10.0.0.1:1", userUUID := "temp_1" } 1500 2 (by decide)
    [1600, 2490, 2495, 2500, 2510] (by decide)).2.1 2400 2600 (by decide)⟩

end Sgate.Pipeline
