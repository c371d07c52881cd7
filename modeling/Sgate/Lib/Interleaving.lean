import Sgate.Lib.Transition
import Mathlib.Algebra.BigOperators.Group.List.Basic
import Mathlib.Algebra.GroupWithZero.Nat
import Mathlib.Algebra.Order.BigOperators.Group.List
import Mathlib.Data.List.Basic

/-! # Interleaved threads over a shared state

A `Program` says what one atomic step of one thread does to the shared state; a `World` is a shared
state with the local states of all threads that were ever started; `Program.run` performs a whole
schedule, a run of the transition system of `Program.exec`. `Program.run_local` carries properties of the
shared state and of every thread along guarded runs; `tally` sums a measure over all threads. -/

namespace Interleaving

open List

/-- A shared-memory program over shared states `σ`, thread-local states `τ` and scheduler choices
`χ`. -/
structure Program (σ τ χ : Type*) where
  /-- Starting a thread: the shared state afterwards, `none` if the thread may not be started. -/
  start : σ → τ → Option σ
  /-- One atomic step of a thread: the shared state, the thread's next local state and the threads
  it starts; `none` if the step is not enabled. -/
  step : σ → τ → χ → Option (σ × τ × List τ)

structure World (σ τ : Type*) where
  /-- The memory all threads see. -/
  shared : σ
  /-- The local states, in the order in which the threads were started. -/
  threads : List τ

/-- What a scheduler can do: start a thread, or let the thread at a position make one step. -/
inductive Action (τ χ : Type*)
  | start (thread : τ)
  | step (index : ℕ) (choice : χ)

variable {σ τ χ : Type*}

/-! ## Sums over threads -/

/-- The sum of a measure over a list of threads. -/
def tally (f : τ → ℕ) (ts : List τ) : ℕ := (ts.map f).sum

@[simp] theorem tally_nil (f : τ → ℕ) : tally f [] = 0 := rfl

@[simp] theorem tally_cons (f : τ → ℕ) (t : τ) (ts : List τ) :
    tally f (t :: ts) = f t + tally f ts := by
  simp [tally]

@[simp] theorem tally_append (f : τ → ℕ) (ts us : List τ) :
    tally f (ts ++ us) = tally f ts + tally f us := by
  simp [tally]

variable {ts : List τ} {i : ℕ} {t : τ}

section

variable (f : τ → ℕ)

/-- A sum is what one thread contributes and what the others do; a step of that thread leaves the
others alone. -/
theorem tally_split (ht : ts[i]? = some t) :
    ∃ n, tally f ts = n + f t ∧ ∀ t', tally f (ts.set i t') = n + f t' := by
  induction ts generalizing i with
  | nil => simp at ht
  | cons u us ih =>
    cases i with
    | zero =>
      obtain rfl : u = t := by simpa using ht
      refine ⟨tally f us, ?_, fun t' => ?_⟩
      · rw [tally_cons, Nat.add_comm]
      · rw [set_cons_zero, tally_cons, Nat.add_comm]
    | succ i =>
      obtain ⟨n, hn, hset⟩ := ih (i := i) (by simpa using ht)
      refine ⟨f u + n, ?_, fun t' => ?_⟩
      · rw [tally_cons, hn, Nat.add_assoc]
      · rw [set_cons_succ, tally_cons, hset, Nat.add_assoc]

/-- **One thread changes.** Replacing the thread `t` at position `i` by `t'` trades `f t` for
`f t'`. -/
theorem tally_set (t' : τ) (ht : ts[i]? = some t) :
    tally f (ts.set i t') + f t = tally f ts + f t' := by
  obtain ⟨n, hn, hset⟩ := tally_split f ht
  rw [hn, hset]
  omega

/-- A thread contributes at most the whole sum. -/
theorem le_tally (ht : t ∈ ts) : f t ≤ tally f ts := by
  induction ts with
  | nil => simp at ht
  | cons u us ih =>
    rw [tally_cons]
    rcases mem_cons.mp ht with rfl | h
    · omega
    · have := ih h
      omega

/-- A sum is zero iff every thread contributes nothing. -/
theorem tally_eq_zero_iff (ts : List τ) : tally f ts = 0 ↔ ∀ t ∈ ts, f t = 0 := by
  induction ts with
  | nil => simp
  | cons u us ih => simp [ih]

/-- A positive sum has a thread that contributes. -/
theorem exists_of_tally_pos (h : 0 < tally f ts) : ∃ t ∈ ts, 0 < f t := by
  by_contra hc
  have : tally f ts = 0 := (tally_eq_zero_iff f ts).mpr fun t ht => by
    by_contra hne
    exact hc ⟨t, ht, Nat.pos_of_ne_zero hne⟩
  omega

end

variable {f g : τ → ℕ}

/-- Measures that agree on the threads have the same sum. -/
theorem tally_congr (h : ∀ t ∈ ts, f t = g t) : tally f ts = tally g ts :=
  congrArg sum (map_congr_left h)

/-- A larger measure has a larger sum. -/
theorem tally_mono (h : ∀ t ∈ ts, f t ≤ g t) : tally f ts ≤ tally g ts := by
  induction ts with
  | nil => exact le_rfl
  | cons u us ih => exact Nat.add_le_add (h u (by simp)) (ih fun t ht => h t (by simp [ht]))

/-- A sum over a view of the threads. -/
theorem tally_map {υ : Type*} (f : υ → ℕ) (g : τ → υ) (ts : List τ) :
    tally f (ts.map g) = tally (fun t => f (g t)) ts := by
  simp [tally, Function.comp_def]

/-! ## Threads before and after a step -/

variable {ts new : List τ}

/-- A thread other than the one that stepped is still there. -/
theorem mem_set_append_of_ne {t t' u : τ} (ht : ts[i]? = some t) (hu : u ∈ ts) (hne : u ≠ t) :
    u ∈ ts.set i t' ++ new := by
  obtain ⟨j, hj, rfl⟩ := mem_iff_getElem.mp hu
  have hij : i ≠ j := by
    rintro rfl
    exact hne (by simpa [hj] using ht)
  refine mem_append_left _ (mem_iff_getElem.mpr ⟨j, by simpa using hj, ?_⟩)
  exact getElem_set_ne hij _

variable {t t' : τ}

/-- The thread that stepped is there in its next local state. -/
theorem mem_set_append_self (ht : ts[i]? = some t) : t' ∈ ts.set i t' ++ new := by
  obtain ⟨hi, -⟩ := List.getElem?_eq_some_iff.mp ht
  refine mem_append_left _ (mem_iff_getElem.mpr ⟨i, by simpa using hi, ?_⟩)
  exact getElem_set_self _

variable {t' u : τ}

theorem of_mem_snoc (hu : u ∈ ts ++ [t']) : u ∈ ts ∨ u = t' := by
  simpa using hu

/-- After a step every thread is an old one, the one that stepped, or a new one. -/
theorem of_mem_set_append (hu : u ∈ ts.set i t' ++ new) : u ∈ ts ∨ u = t' ∨ u ∈ new := by
  rcases mem_append.mp hu with h | h
  · rcases mem_or_eq_of_mem_set h with h | h
    · exact .inl h
    · exact .inr (.inl h)
  · exact .inr (.inr h)

/-- After a step every thread is one that stood at another position, the one that stepped, or a new
one. -/
theorem position_of_mem_set_append (hu : u ∈ ts.set i t' ++ new) :
    (∃ j, j ≠ i ∧ ts[j]? = some u) ∨ u = t' ∨ u ∈ new := by
  rcases mem_append.mp hu with h | h
  · obtain ⟨j, hj, rfl⟩ := mem_iff_getElem.mp h
    by_cases hij : j = i
    · subst hij
      exact .inr (.inl (by simp))
    · refine .inl ⟨j, hij, ?_⟩
      rw [getElem_set_ne (Ne.symm hij)]
      exact getElem?_eq_getElem _
  · exact .inr (.inr h)

/-! ## Relations between threads -/

variable {R : τ → τ → Prop}

/-- Threads at different positions are related. -/
theorem rel_of_pairwise (hsymm : ∀ t u, R t u → R u t) (h : ts.Pairwise R) {i j : ℕ} {t u : τ}
    (hij : j ≠ i) (ht : ts[i]? = some t) (hu : ts[j]? = some u) : R t u := by
  obtain ⟨hi, rfl⟩ := List.getElem?_eq_some_iff.mp ht
  obtain ⟨hj, rfl⟩ := List.getElem?_eq_some_iff.mp hu
  rcases Nat.lt_or_gt_of_ne hij with hlt | hgt
  · exact hsymm _ _ (pairwise_iff_getElem.mp h j i hj hi hlt)
  · exact pairwise_iff_getElem.mp h i j hi hj hgt

/-- **One thread moves on.** Threads stay pairwise related if the thread that stepped stays related
to the others and the threads it starts are related to all. -/
theorem pairwise_set_append (hsymm : ∀ t u, R t u → R u t) (h : ts.Pairwise R)
    (ht : ts[i]? = some t) (hstep : ∀ u ∈ ts, R t u → R t' u) (hnew : ∀ n ∈ new, ∀ u, R n u) :
    (ts.set i t' ++ new).Pairwise R := by
  rw [pairwise_append]
  refine ⟨?_, ?_, fun u _ n hn => hsymm _ _ (hnew n hn u)⟩
  · have hrel {j : ℕ} (hj : j < ts.length) (hij : j ≠ i) : R t' (ts[j]) :=
      hstep _ (getElem_mem hj)
        (rel_of_pairwise hsymm h hij ht (getElem?_eq_getElem hj))
    rw [pairwise_iff_getElem] at h ⊢
    intro a b ha hb hab
    rw [length_set] at ha hb
    rw [getElem_set, getElem_set]
    split
    · split
      · omega
      · exact hrel hb (by omega)
    · split
      · exact hsymm _ _ (hrel ha (by omega))
      · exact h a b ha hb hab
  · exact pairwise_iff_getElem.mpr fun a b ha hb _ => hnew _ (getElem_mem ha) _

/-! ## Lists collected from threads -/

variable {α : Type*}

/-- A step that keeps what its thread contributes keeps the collected list. -/
theorem flatMap_set_of_eq (g : τ → List α) (ht : ts[i]? = some t) (h : g t' = g t) :
    (ts.set i t').flatMap g = ts.flatMap g := by
  induction ts generalizing i with
  | nil => simp at ht
  | cons u us ih =>
    cases i with
    | zero =>
      obtain rfl : u = t := by simpa using ht
      simp [h]
    | succ i =>
      have := ih (i := i) (by simpa using ht)
      simp [this]

/-- If only one thread contributes elements with a property, these are all there are. -/
theorem filter_flatMap_of_only (g : τ → List α) (p : α → Bool) (ht : ts[i]? = some t)
    (honly : ∀ j u, ts[j]? = some u → j ≠ i → ∀ x ∈ g u, p x = false) :
    (ts.flatMap g).filter p = (g t).filter p := by
  have hnone : ∀ us : List τ, (∀ u ∈ us, ∀ x ∈ g u, p x = false) → (us.flatMap g).filter p = [] := by
    intro us hus
    rw [filter_eq_nil_iff]
    intro x hx
    obtain ⟨u, hu, hxu⟩ := mem_flatMap.mp hx
    simp [hus u hu x hxu]
  induction ts generalizing i with
  | nil => simp at ht
  | cons u us ih =>
    rw [flatMap_cons, filter_append]
    cases i with
    | zero =>
      obtain rfl : u = t := by simpa using ht
      have hrest : (us.flatMap g).filter p = [] := by
        refine hnone us fun v hv => ?_
        obtain ⟨j, hj⟩ := mem_iff_getElem?.mp hv
        exact honly (j + 1) v (by simpa using hj) (Nat.succ_ne_zero j)
      rw [hrest, append_nil]
    | succ i =>
      have hfirst : (g u).filter p = [] := by
        have := hnone [u] (by simpa using honly 0 u rfl (Nat.succ_ne_zero i).symm)
        simpa using this
      rw [hfirst, nil_append]
      refine ih (by simpa using ht) fun j v hv hj => ?_
      exact honly (j + 1) v (by simpa using hv) (by omega)

/-- **One contributor.** If only threads with positive measure contribute and the measures sum to at
most one, then a thread with positive measure contributes the whole list. -/
theorem flatMap_of_exclusive (g : τ → List α) {f : τ → ℕ} (hg : ∀ u, f u = 0 → g u = [])
    (ht : ts[i]? = some t) (hpos : 0 < f t) (hone : tally f ts ≤ 1) :
    ts.flatMap g = g t ∧ ∀ t', (ts.set i t').flatMap g = g t' := by
  induction ts generalizing i with
  | nil => simp at ht
  | cons u us ih =>
    rw [tally_cons] at hone
    cases i with
    | zero =>
      obtain rfl : u = t := by simpa using ht
      have hzero : tally f us = 0 := by omega
      have hnil : us.flatMap g = [] := by
        rw [flatMap_eq_nil_iff]
        exact fun v hv => hg v ((tally_eq_zero_iff f us).mp hzero v hv)
      simp [hnil]
    | succ i =>
      have ht' : us[i]? = some t := by simpa using ht
      have hle := le_tally f (mem_of_getElem? ht')
      obtain ⟨h₁, h₂⟩ := ih ht' (by omega)
      have hu : g u = [] := hg u (by omega)
      simp [hu, h₁, h₂]

namespace Program

variable (P : Program σ τ χ)

/-! ## Schedules -/

/-- One action of the scheduler; `none` if it is not possible. -/
def exec (w : World σ τ) : Action τ χ → Option (World σ τ)
  | .start t => (P.start w.shared t).map fun s => ⟨s, w.threads ++ [t]⟩
  | .step i x =>
    match w.threads[i]? with
    | none => none
    | some t => (P.step w.shared t x).map fun r => ⟨r.1, w.threads.set i r.2.1 ++ r.2.2⟩

/-- A whole schedule; `none` if one of its actions is not possible. -/
abbrev run : World σ τ → List (Action τ χ) → Option (World σ τ) := Transition.run P.exec

/-- Every action of the schedule meets the guard `G` in the state in which it is taken. -/
abbrev Guarded : (World σ τ → Action τ χ → Prop) → World σ τ → List (Action τ χ) → Prop :=
  Transition.Guarded P.exec

/-- The property `I` holds in every state the schedule passes through. -/
abbrev Throughout : (World σ τ → Prop) → World σ τ → List (Action τ χ) → Prop :=
  Transition.Throughout P.exec

/-- The guard under which every thread meets `hstart` when it is started and `hstep` when it makes a
step. -/
def ThreadGuard (hstart hstep : World σ τ → τ → Prop) (w : World σ τ) : Action τ χ → Prop
  | .start t => hstart w t
  | .step i _ => ∀ t ∈ w.threads[i]?, hstep w t

instance decidableThreadGuard (hstart hstep : World σ τ → τ → Prop)
    [∀ w t, Decidable (hstart w t)] [∀ w t, Decidable (hstep w t)] (w : World σ τ) :
    (a : Action τ χ) → Decidable (ThreadGuard hstart hstep w a)
  | .start t => inferInstanceAs (Decidable (hstart w t))
  | .step i _ => inferInstanceAs (Decidable (∀ t ∈ w.threads[i]?, hstep w t))

variable {P} {w w' : World σ τ} {a : Action τ χ} {as : List (Action τ χ)}
  {G : World σ τ → Action τ χ → Prop}

/-- **What an action can do**: start a thread, or move one thread by one atomic step. -/
theorem exec_cases (h : P.exec w a = some w') :
    (∃ t s, a = .start t ∧ P.start w.shared t = some s ∧ w' = ⟨s, w.threads ++ [t]⟩) ∨
    (∃ i x t s t' new, a = .step i x ∧ w.threads[i]? = some t ∧
      P.step w.shared t x = some (s, t', new) ∧ w' = ⟨s, w.threads.set i t' ++ new⟩) := by
  cases a with
  | start t =>
    simp only [exec, Option.map_eq_some_iff] at h
    obtain ⟨s, hs, rfl⟩ := h
    exact .inl ⟨t, s, rfl, hs, rfl⟩
  | step i x =>
    simp only [exec] at h
    split at h
    · cases h
    · rename_i t ht
      obtain ⟨⟨s, t', new⟩, hr, rfl⟩ := Option.map_eq_some_iff.mp h
      exact .inr ⟨i, x, t, s, t', new, rfl, ht, hr, rfl⟩

/-- A property of the shared state together with a property of every thread. -/
def Local (S : σ → Prop) (L : σ → τ → Prop) (w : World σ τ) : Prop :=
  S w.shared ∧ ∀ t ∈ w.threads, L w.shared t

variable {L : σ → τ → Prop} {S : σ → Prop}

/-- **Thread-local properties, one action.** Suppose the start or the step establishes the shared part
and the local part of the threads it touches, and does not disturb the local part of another thread.
Then it keeps shared and local part. -/
theorem local_exec
    (hstart : ∀ t s, a = .start t → P.start w.shared t = some s → (S s ∧ L s t) ∧ ∀ u, L w.shared u → L s u)
    (hstep : ∀ i x t s t' new, a = .step i x → w.threads[i]? = some t → P.step w.shared t x = some (s, t', new) → (S s ∧ L s t' ∧ ∀ u ∈ new, L s u) ∧ ∀ u, L w.shared u → L s u)
    (hw : Local S L w) (h : P.exec w a = some w') : Local S L w' := by
  obtain ⟨t, s, ha, hs, rfl⟩ | ⟨i, x, t, s, t', new, ha, ht, hs, rfl⟩ := exec_cases h
  · obtain ⟨⟨hS, hL⟩, hothers⟩ := hstart t s ha hs
    refine ⟨hS, fun u hu => ?_⟩
    rcases mem_append.mp hu with hu | hu
    · exact hothers u (hw.2 u hu)
    · obtain rfl : u = t := by simpa using hu
      exact hL
  · obtain ⟨⟨hS, hL, hnew⟩, hothers⟩ := hstep i x t s t' new ha ht hs
    refine ⟨hS, fun u hu => ?_⟩
    rcases of_mem_set_append hu with hu | rfl | hu
    · exact hothers u (hw.2 u hu)
    · exact hL
    · exact hnew u hu

/-- **Thread-local invariants.** Suppose a start and a step that meet the guard establish the shared
part and the local part of the threads they touch, and never disturb the local part of another
thread. Then shared and local part hold at the end of every guarded run. -/
theorem run_local
    (hstart : ∀ w t s, Local S L w → G w (.start t) → P.start w.shared t = some s → (S s ∧ L s t) ∧ ∀ u, L w.shared u → L s u)
    (hstep : ∀ w i x t s t' new, Local S L w → G w (.step i x) → w.threads[i]? = some t → P.step w.shared t x = some (s, t', new) → (S s ∧ L s t' ∧ ∀ u ∈ new, L s u) ∧ ∀ u, L w.shared u → L s u)
    (hinit : Local S L w) (hguard : P.Guarded G w as) (hrun : P.run w as = some w') :
    Local S L w' := by
  refine Transition.run_invariant (fun w a w' hw hg h => ?_) hinit hguard hrun
  refine local_exec ?_ ?_ hw h
  · rintro t s rfl hs
    exact hstart w t s hw hg hs
  · rintro i x t s t' new rfl ht hs
    exact hstep w i x t s t' new hw hg ht hs

end Program

end Interleaving
