import Sgate.Lib.Interleaving

/-! # Recorded runs

A recorded program keeps its run as a list of marks, newest first, and gives every thread the number of
the start it goes back to. Nothing the program does depends on the record (`Program.run_numbered`). -/

namespace Interleaving

variable {σ τ χ : Type*}

/-- What happened in a run. -/
inductive Mark (τ : Type*)
  /-- The scheduler started a thread. -/
  | started (t : τ)
  /-- A thread that goes back to the start with number `origin` made a step from `t` to `t'`. -/
  | stepped (origin : ℕ) (t t' : τ)
  deriving DecidableEq

/-- A shared state with the run that led to it. -/
structure Recorded (σ τ : Type*) where
  state : σ
  marks : List (Mark τ)

namespace Program

variable (P : Program σ τ χ)

def recorded : Program (Recorded σ τ) (ℕ × τ) χ where
  start s u :=
    if u.1 = s.marks.length then
      (P.start s.state u.2).map fun s' => ⟨s', .started u.2 :: s.marks⟩
    else none
  step s u x :=
    (P.step s.state u.2 x).map fun r =>
      (⟨r.1, .stepped u.1 u.2 r.2.1 :: s.marks⟩, (u.1, r.2.1), r.2.2.map (Prod.mk u.1))

variable {P} {s s' : Recorded σ τ} {u u' : ℕ × τ} {new : List (ℕ × τ)} {x : χ}

/-- **What a start records.** -/
theorem recorded_start (h : P.recorded.start s u = some s') :
    u.1 = s.marks.length ∧ P.start s.state u.2 = some s'.state ∧
      s'.marks = .started u.2 :: s.marks := by
  simp only [recorded, Option.ite_none_right_eq_some, Option.map_eq_some_iff] at h
  obtain ⟨hnum, g, hg, rfl⟩ := h
  exact ⟨hnum, hg, rfl⟩

/-- **What a step records.** -/
theorem recorded_step (h : P.recorded.step s u x = some (s', u', new)) :
    ∃ ts, P.step s.state u.2 x = some (s'.state, u'.2, ts) ∧ u'.1 = u.1 ∧
      new = ts.map (Prod.mk u.1) ∧ s'.marks = .stepped u.1 u.2 u'.2 :: s.marks := by
  obtain ⟨⟨g, t', ts⟩, hs, heq⟩ := Option.map_eq_some_iff.mp h
  cases heq
  exact ⟨ts, hs, rfl, rfl, rfl⟩

/-! ## Runs and recorded runs -/

/-- The schedule with the numbers of its starts; `n` actions were taken before. -/
def numbered (n : ℕ) : List (Action τ χ) → List (Action (ℕ × τ) χ)
  | [] => []
  | .start t :: as => .start (n, t) :: numbered (n + 1) as
  | .step i x :: as => .step i x :: numbered (n + 1) as

/-- The recorded world stands for the world, after `n` actions. -/
structure Records (n : ℕ) (r : World (Recorded σ τ) (ℕ × τ)) (w : World σ τ) : Prop where
  state : r.shared.state = w.shared
  threads : r.threads.map Prod.snd = w.threads
  length : r.shared.marks.length = n

/-- A world in which nothing was recorded yet. -/
def unrecorded (w : World σ τ) : World (Recorded σ τ) (ℕ × τ) :=
  ⟨⟨w.shared, []⟩, w.threads.map (Prod.mk 0)⟩

theorem records_unrecorded (w : World σ τ) : Records 0 (unrecorded w) w :=
  ⟨rfl, by simp [unrecorded], rfl⟩

variable {w w' : World σ τ} {r : World (Recorded σ τ) (ℕ × τ)}

theorem Records.exec {n : ℕ} {a : Action τ χ} (hr : Records n r w) (h : P.exec w a = some w')
    (as : List (Action τ χ)) :
    ∃ b r', numbered n (a :: as) = b :: numbered (n + 1) as ∧ P.recorded.exec r b = some r' ∧
      Records (n + 1) r' w' := by
  obtain ⟨t, s, rfl, hs, rfl⟩ | ⟨i, x, t, s, t', new, rfl, ht, hs, rfl⟩ := exec_cases h
  · refine ⟨.start (n, t), ⟨⟨s, .started t :: r.shared.marks⟩, r.threads ++ [(n, t)]⟩, rfl, ?_, rfl,
      ?_, ?_⟩
    · simp [Program.exec, recorded, hr.length, hr.state, hs]
    · simp [hr.threads]
    · simp [hr.length]
  · rw [← hr.threads, List.getElem?_map, Option.map_eq_some_iff] at ht
    obtain ⟨⟨m, t⟩, hm, rfl⟩ := ht
    refine ⟨.step i x, ⟨⟨s, .stepped m t t' :: r.shared.marks⟩,
      r.threads.set i (m, t') ++ new.map (Prod.mk m)⟩, rfl, ?_, rfl, ?_, ?_⟩
    · simp [Program.exec, recorded, hm, hr.state, hs]
    · simp [List.map_set, hr.threads]
    · simp [hr.length]

variable {as : List (Action τ χ)}

/-- **Every run can be recorded.** -/
theorem Records.run {n : ℕ} (hr : Records n r w) (h : P.run w as = some w') :
    ∃ r', P.recorded.run r (numbered n as) = some r' ∧ Records (n + as.length) r' w' := by
  induction as generalizing n r w with
  | nil =>
    cases h
    exact ⟨r, rfl, hr⟩
  | cons a as ih =>
    obtain ⟨v, hexec, hrun⟩ := Transition.run_cons_iff.mp h
    obtain ⟨b, r₁, hcons, hexec', hr₁⟩ := hr.exec hexec as
    obtain ⟨r', hrun', hr'⟩ := ih hr₁ hrun
    refine ⟨r', ?_, ?_⟩
    · rw [hcons]
      exact Transition.run_cons_iff.mpr ⟨r₁, hexec', hrun'⟩
    · rwa [List.length_cons, Nat.add_comm as.length, ← Nat.add_assoc]

/-- **Every run is the run of the recorded program with the numbered schedule.** -/
theorem run_numbered (h : P.run w as = some w') :
    ∃ r, P.recorded.run (unrecorded w) (numbered 0 as) = some r ∧ r.shared.state = w'.shared ∧
      r.threads.map Prod.snd = w'.threads := by
  obtain ⟨r, hrun, hr⟩ := (records_unrecorded w).run h
  exact ⟨r, hrun, hr.state, hr.threads⟩

end Program

end Interleaving
