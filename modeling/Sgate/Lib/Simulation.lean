import Mathlib.Tactic.Common

/-! # Two programs in step

Two programs run in step if, started in related states, they return the same value and end in related
states (`Related`). The rules follow the constructs of a program. -/

namespace Simulation

variable {σ τ α β : Type}

/-- Started in related states, the programs return the same value and end in related states. -/
def Related (R : σ → τ → Prop) (p : StateM σ α) (q : StateM τ α) : Prop :=
  ∀ s t, R s t → (p s).1 = (q t).1 ∧ R (p s).2 (q t).2

variable {R : σ → τ → Prop}

theorem Related.pure (a : α) : Related R (Pure.pure a) (Pure.pure a) := fun _ _ h => ⟨rfl, h⟩

/-- **Sequences.** -/
theorem Related.bind {p : StateM σ α} {q : StateM τ α} {k : α → StateM σ β} {l : α → StateM τ β}
    (hp : Related R p q) (hk : ∀ a, Related R (k a) (l a)) : Related R (p >>= k) (q >>= l) := by
  intro s t h
  obtain ⟨hvalue, hstate⟩ := hp s t h
  have hnext := hk (p s).1 (p s).2 (q t).2 hstate
  rw [hvalue] at hnext
  show (k (p s).1 (p s).2).1 = (l (q t).1 (q t).2).1 ∧ R (k (p s).1 (p s).2).2 (l (q t).1 (q t).2).2
  rw [hvalue]
  exact hnext

variable {c : Prop}

/-- **Case distinctions.** -/
theorem Related.ite [Decidable c] {p p' : StateM σ α} {q q' : StateM τ α} (hpos : c → Related R p q)
    (hneg : ¬ c → Related R p' q') : Related R (if c then p else p') (if c then q else q') := by
  by_cases h : c
  · rw [if_pos h, if_pos h]
    exact hpos h
  · rw [if_neg h, if_neg h]
    exact hneg h

/-- **Writing.** -/
theorem Related.modify {f : σ → σ} {g : τ → τ} (h : ∀ s t, R s t → R (f s) (g t)) :
    Related R (modify f) (modify g) :=
  fun s t hst => ⟨rfl, h s t hst⟩

def read (f : σ → α) : StateM σ α := fun s => (f s, s)

/-- **Reading.** -/
theorem Related.read {f : σ → α} {g : τ → α} (h : ∀ s t, R s t → f s = g t) :
    Related R (read f) (read g) :=
  fun s t hst => ⟨h s t hst, hst⟩

/-- A statement that is skipped unless a condition holds. -/
def whenever (c : Prop) [Decidable c] (p : StateM σ Unit) : StateM σ Unit :=
  if c then p else Pure.pure ()

theorem Related.whenever [Decidable c] {p : StateM σ Unit} {q : StateM τ Unit}
    (h : c → Related R p q) : Related R (whenever c p) (whenever c q) :=
  .ite h fun _ => .pure ()

/-- A statement about a value that may be missing. -/
def whenSome (o : Option α) (p : α → StateM σ Unit) : StateM σ Unit :=
  match o with
  | none => Pure.pure ()
  | some a => p a

theorem Related.whenSome {o : Option α} {p : α → StateM σ Unit} {q : α → StateM τ Unit}
    (h : ∀ a, Related R (p a) (q a)) : Related R (whenSome o p) (whenSome o q) := by
  cases o with
  | none => exact .pure ()
  | some a => exact h a

end Simulation
