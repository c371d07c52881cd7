import Mathlib.Data.List.Basic

/-! # Runs of a partial step function

A transition system is given by `step : σ → α → Option σ`: what an action does to a state, `none` if it
is not possible. `run_invariant` and `Throughout.history` carry a property along guarded runs, and
`throughout_iff_guarded` says when a property holds throughout a run exactly if the run is guarded. -/

namespace Transition

variable {σ α : Type*} (step : σ → α → Option σ)

/-- A sequence of actions; `none` if one of them is not possible. -/
def run (s : σ) : List α → Option σ
  | [] => some s
  | a :: as =>
    match step s a with
    | none => none
    | some s' => run s' as

/-- Every action meets the guard `G` in the state in which it is taken. -/
def Guarded (G : σ → α → Prop) (s : σ) : List α → Prop
  | [] => True
  | a :: as => G s a ∧ ∀ s', step s a = some s' → Guarded G s' as

/-- The property `I` holds in every state the run passes through. -/
def Throughout (I : σ → Prop) (s : σ) : List α → Prop
  | [] => I s
  | a :: as => I s ∧ ∀ s', step s a = some s' → Throughout I s' as

instance decidableGuarded (G : σ → α → Prop) [∀ s a, Decidable (G s a)] :
    (s : σ) → (as : List α) → Decidable (Guarded step G s as)
  | _, [] => isTrue trivial
  | s, a :: as =>
    match h : step s a with
    | none => decidable_of_iff (G s a) (by simp [Guarded, h])
    | some s' =>
      have := decidableGuarded G s' as
      decidable_of_iff (G s a ∧ Guarded step G s' as) (by simp [Guarded, h])

instance decidableThroughout (I : σ → Prop) [∀ s, Decidable (I s)] :
    (s : σ) → (as : List α) → Decidable (Throughout step I s as)
  | s, [] => inferInstanceAs (Decidable (I s))
  | s, a :: as =>
    match h : step s a with
    | none => decidable_of_iff (I s) (by simp [Throughout, h])
    | some s' =>
      have := decidableThroughout I s' as
      decidable_of_iff (I s ∧ Throughout step I s' as) (by simp [Throughout, h])

variable {step} {s s' : σ} {a : α} {as : List α} {G G' : σ → α → Prop} {I J : σ → Prop}

/-- A decidable property of where a run ends, by evaluation. -/
theorem exists_end {o : Option σ} {p : σ → Prop} [DecidablePred p]
    (h : (o.any fun s => p s) = true) : ∃ s, o = some s ∧ p s := by
  simpa [Option.any_eq_true] using h

/-- A non-empty run is a first action and a run of the rest. -/
theorem run_cons_iff : run step s (a :: as) = some s' ↔
    ∃ v, step s a = some v ∧ run step v as = some s' := by
  simp only [run]
  cases step s a <;> simp

variable {bs : List α}

/-- A run is continued where it ended. -/
theorem run_append (hrun : run step s as = some s') : run step s (as ++ bs) = run step s' bs := by
  induction as generalizing s with
  | nil =>
    cases hrun
    rfl
  | cons a as ih =>
    obtain ⟨v, hv, hrest⟩ := run_cons_iff.mp hrun
    rw [List.cons_append, run, hv]
    exact ih hrest

/-- What holds throughout a run holds where it starts. -/
theorem Throughout.start (h : Throughout step I s as) : I s := by
  cases as with
  | nil => exact h
  | cons => exact h.1

/-- What holds throughout a run holds where it ends. -/
theorem Throughout.finish (h : Throughout step I s as) (hrun : run step s as = some s') : I s' := by
  induction as generalizing s with
  | nil =>
    cases hrun
    exact h
  | cons a as ih =>
    obtain ⟨v, hv, hrest⟩ := run_cons_iff.mp hrun
    exact ih (h.2 v hv) hrest

/-- **Invariants at every point.** What an invariant implies holds throughout a guarded run. -/
theorem throughout_of_guarded (hJ : ∀ s, J s → I s)
    (hstep : ∀ s a s', J s → G s a → step s a = some s' → J s') (hinit : J s)
    (hguard : Guarded step G s as) : Throughout step I s as := by
  induction as generalizing s with
  | nil => exact hJ s hinit
  | cons a as ih =>
    refine ⟨hJ s hinit, fun s' hs' => ?_⟩
    exact ih (hstep s a s' hinit hguard.1 hs') (hguard.2 s' hs')

/-- **Invariant rule.** A property kept by every action that meets the guard holds at the end of
every guarded run that starts in it. -/
theorem run_invariant (hstep : ∀ s a s', J s → G s a → step s a = some s' → J s')
    (hinit : J s) (hguard : Guarded step G s as) (hrun : run step s as = some s') : J s' :=
  (throughout_of_guarded (fun _ => id) hstep hinit hguard).finish hrun

/-- What holds throughout a run holds throughout its parts. -/
theorem Throughout.split (h : Throughout step I s (as ++ bs)) (hrun : run step s as = some s') :
    Throughout step I s as ∧ Throughout step I s' bs := by
  induction as generalizing s with
  | nil =>
    cases hrun
    exact ⟨h.start, h⟩
  | cons a as ih =>
    obtain ⟨v, hv, hrest⟩ := run_cons_iff.mp hrun
    refine ⟨⟨h.1, fun v' hv' => ?_⟩, (ih (h.2 v hv) hrest).2⟩
    obtain rfl : v = v' := Option.some.inj (hv.symm.trans hv')
    exact (ih (h.2 v hv) hrest).1

/-- **Invariants about the past.** A relation between the actions taken and the state reached, if it
is kept by every action taken in a state with property `I`. -/
theorem Throughout.history {R : List α → σ → Prop} (h : Throughout step I s as)
    (hrun : run step s as = some s') (hinit : R [] s)
    (hstep : ∀ past s a s', R past s → I s → step s a = some s' → R (past ++ [a]) s') : R as s' := by
  suffices hall : ∀ past, R past s → R (past ++ as) s' from hall [] hinit
  clear hinit
  induction as generalizing s with
  | nil =>
    cases hrun
    intro past hpast
    rwa [List.append_nil]
  | cons a as ih =>
    obtain ⟨v, hv, hrest⟩ := run_cons_iff.mp hrun
    intro past hpast
    have hnext := ih (h.2 v hv) hrest (past ++ [a]) (hstep past s a v hpast h.1 hv)
    rwa [List.append_assoc] at hnext

/-- What the guard says about one action of a run. -/
theorem Guarded.at (h : Guarded step G s (as ++ a :: bs)) (hrun : run step s as = some s') :
    G s' a := by
  induction as generalizing s with
  | nil =>
    cases hrun
    exact h.1
  | cons b as ih =>
    obtain ⟨v, hv, hrest⟩ := run_cons_iff.mp hrun
    exact ih (h.2 v hv) hrest

/-- **Leaving actions out.** If a relation is kept by an action taken on both sides, and by an action
that is left out on the right, then a run can be repeated without the actions that are left out. -/
theorem run_filter (keep : α → Bool) {R : σ → σ → Prop} {t : σ} (hR : R s t)
    (hkeep : ∀ a ∈ as, keep a = true → ∀ s t s', R s t → step s a = some s' →
      ∃ t', step t a = some t' ∧ R s' t')
    (hdrop : ∀ a ∈ as, keep a = false → ∀ s t s', R s t → step s a = some s' → R s' t)
    (hrun : run step s as = some s') : ∃ t', run step t (as.filter keep) = some t' ∧ R s' t' := by
  induction as generalizing s t with
  | nil =>
    cases hrun
    exact ⟨t, rfl, hR⟩
  | cons a as ih =>
    obtain ⟨v, hv, hrest⟩ := run_cons_iff.mp hrun
    have hkeep' := fun b hb => hkeep b (List.mem_cons_of_mem a hb)
    have hdrop' := fun b hb => hdrop b (List.mem_cons_of_mem a hb)
    cases ha : keep a with
    | true =>
      obtain ⟨w, hw, hvw⟩ := hkeep a List.mem_cons_self ha s t v hR hv
      obtain ⟨t', ht', hR'⟩ := ih hvw hkeep' hdrop' hrest
      exact ⟨t', by rw [List.filter_cons_of_pos ha, run, hw]; exact ht', hR'⟩
    | false =>
      have hvt := hdrop a List.mem_cons_self ha s t v hR hv
      rw [List.filter_cons_of_neg (by simp [ha])]
      exact ih hvt hkeep' hdrop' hrest

/-- A guard that all actions of a sequence meet in every state. -/
theorem guarded_of_forall_mem (h : ∀ a ∈ as, ∀ s, G s a) : Guarded step G s as := by
  induction as generalizing s with
  | nil => trivial
  | cons a as ih =>
    refine ⟨h a List.mem_cons_self s, fun s' _ => ih ?_⟩
    intro b hb
    exact h b (List.mem_cons_of_mem a hb)

/-- A property kept by every action holds at the end of every run that starts in it. -/
theorem invariant_of_run (hstep : ∀ s a s', J s → step s a = some s' → J s') (hinit : J s)
    (hrun : run step s as = some s') : J s' :=
  run_invariant (G := fun _ _ => True) (fun s a s' h _ => hstep s a s' h) hinit
    (guarded_of_forall_mem fun _ _ _ => trivial) hrun

/-- **Exact guards, under an assumption.** In runs all of whose actions meet `A`: if an invariant is
kept by every guarded action and every unguarded action leads to a state without property `I`, then
`I` holds throughout the run iff the run is guarded. -/
theorem throughout_iff_guarded_assuming {A : σ → α → Prop} (hJ : ∀ s, J s → I s)
    (hstep : ∀ s a s', J s → A s a → G s a → step s a = some s' → J s')
    (hbad : ∀ s a, J s → A s a → ¬ G s a → ∃ s', step s a = some s' ∧ ¬ I s') (hinit : J s)
    (hassumed : Guarded step A s as) : Throughout step I s as ↔ Guarded step G s as := by
  induction as generalizing s with
  | nil => exact ⟨fun _ => trivial, fun _ => hJ s hinit⟩
  | cons a as ih =>
    obtain ⟨ha, hrest⟩ := hassumed
    constructor
    · rintro ⟨-, hall⟩
      have hg : G s a := by
        by_contra hn
        obtain ⟨s', hs', hI⟩ := hbad s a hinit ha hn
        exact hI (hall s' hs').start
      refine ⟨hg, fun s' hs' => ?_⟩
      exact (ih (hstep s a s' hinit ha hg hs') (hrest s' hs')).mp (hall s' hs')
    · rintro ⟨hg, hall⟩
      refine ⟨hJ s hinit, fun s' hs' => ?_⟩
      exact (ih (hstep s a s' hinit ha hg hs') (hrest s' hs')).mpr (hall s' hs')

/-- **Exact guards.** If an invariant is kept by every guarded action and every unguarded action
leads to a state without property `I`, then `I` holds throughout a run iff the run is guarded. -/
theorem throughout_iff_guarded (hJ : ∀ s, J s → I s)
    (hstep : ∀ s a s', J s → G s a → step s a = some s' → J s')
    (hbad : ∀ s a, J s → ¬ G s a → ∃ s', step s a = some s' ∧ ¬ I s') (hinit : J s) :
    Throughout step I s as ↔ Guarded step G s as :=
  throughout_iff_guarded_assuming (A := fun _ _ => True) hJ
    (fun s a s' hs _ => hstep s a s' hs) (fun s a hs _ => hbad s a hs) hinit
    (guarded_of_forall_mem fun _ _ _ => trivial)

/-- **Exchanging guards.** If an invariant is kept by the actions that meet one guard, and under it
they meet another guard, then a run that meets the first guard meets the second. -/
theorem Guarded.exchange (hstep : ∀ s a s', J s → G s a → step s a = some s' → J s')
    (hmeets : ∀ s a, J s → G s a → G' s a) (hinit : J s) (h : Guarded step G s as) :
    Guarded step G' s as := by
  induction as generalizing s with
  | nil => trivial
  | cons a as ih =>
    refine ⟨hmeets s a hinit h.1, fun v hv => ?_⟩
    exact ih (hstep s a v hinit h.1 hv) (h.2 v hv)

/-- Two guards that agree under an invariant are met by the same runs. -/
theorem guarded_congr (hstep : ∀ s a s', J s → G s a → step s a = some s' → J s')
    (hiff : ∀ s a, J s → (G s a ↔ G' s a)) (hinit : J s) :
    Guarded step G s as ↔ Guarded step G' s as := by
  constructor
  · exact Guarded.exchange hstep (fun s a hs => (hiff s a hs).mp) hinit
  · refine Guarded.exchange (fun s a s' hs hg hs' => ?_) (fun s a hs => (hiff s a hs).mpr) hinit
    exact hstep s a s' hs ((hiff s a hs).mpr hg) hs'

end Transition
