import Mathlib.Tactic.Common

/-! # Programs that may end early

A `Stage` works on a state and either goes on with a value or ends with a result. `Effects` says what a
stage does to the state, with a rule for sequences; a stage is `Blind` if it does not look at a part of
the state. -/

namespace EarlyExit

variable {S ρ α β : Type}

/-- A program on the state `S` that ends early with a result in `ρ`. -/
def Stage (S ρ α : Type) : Type := S → Except ρ α × S

namespace Stage

/-- Go on with a value. -/
def pure (a : α) : Stage S ρ α := fun s => (.ok a, s)

/-- One stage after another; the second is left out if the first ends. -/
def bind (x : Stage S ρ α) (k : α → Stage S ρ β) : Stage S ρ β := fun s =>
  match x s with
  | (.ok a, s') => k a s'
  | (.error r, s') => (.error r, s')

instance : Monad (Stage S ρ) where
  pure := Stage.pure
  bind := Stage.bind

variable {x : Stage S ρ α} {k : α → Stage S ρ β} {s s' : S} {a : α} {r : ρ}

theorem pure_apply (a : α) (s : S) : (Pure.pure a : Stage S ρ α) s = (.ok a, s) := rfl

theorem bind_of_ok (h : x s = (.ok a, s')) : (x >>= k) s = k a s' := by
  show Stage.bind x k s = k a s'
  rw [Stage.bind, h]

theorem bind_of_error (h : x s = (.error r, s')) : (x >>= k) s = (.error r, s') := by
  show Stage.bind x k s = _
  rw [Stage.bind, h]

/-- A sequence goes on exactly if both of its parts do. -/
theorem bind_eq_ok {b : β} : (x >>= k) s = (.ok b, s') ↔
    ∃ a t, x s = (.ok a, t) ∧ k a t = (.ok b, s') := by
  rcases hs : x s with ⟨r | a, t⟩
  · rw [bind_of_error hs]
    simp
  · rw [bind_of_ok hs]
    simp

end Stage

/-! ## Effects -/

/-- What a stage does to the state: `Q` if it goes on, `R` if it ends. -/
structure Effects (Q : S → S → Prop) (R : S → ρ → S → Prop) (x : Stage S ρ α) : Prop where
  goes : ∀ {s a s'}, x s = (.ok a, s') → Q s s'
  ends : ∀ {s r s'}, x s = (.error r, s') → R s r s'

variable {Q : S → S → Prop} {R : S → ρ → S → Prop} {x : Stage S ρ α} {k : α → Stage S ρ β}

/-- In each state the stage goes on or ends. -/
theorem Effects.of_cases (h : ∀ s, (∃ a s', x s = (.ok a, s') ∧ Q s s') ∨
    ∃ r s', x s = (.error r, s') ∧ R s r s') : Effects Q R x := by
  constructor
  · intro s a s' hs
    rcases h s with ⟨b, t, ht, hQ⟩ | ⟨r, t, ht, -⟩
    · obtain ⟨-, rfl⟩ := Prod.mk.inj (ht.symm.trans hs)
      exact hQ
    · cases ht.symm.trans hs
  · intro s r s' hs
    rcases h s with ⟨b, t, ht, -⟩ | ⟨r', t, ht, hR⟩
    · cases ht.symm.trans hs
    · obtain ⟨hr, rfl⟩ := Prod.mk.inj (ht.symm.trans hs)
      obtain rfl := Except.error.inj hr
      exact hR

theorem Effects.pure (hrefl : ∀ s, Q s s) (a : α) : Effects Q R (Pure.pure a : Stage S ρ α) :=
  .of_cases fun s => Or.inl ⟨a, s, rfl, hrefl s⟩

/-- A choice by the state. -/
theorem Effects.ite {p : S → Prop} [DecidablePred p] {y : Stage S ρ α} (hx : Effects Q R x)
    (hy : Effects Q R y) : Effects Q R fun s => if p s then x s else y s := by
  constructor
  · intro s a s' h
    split at h
    · exact hx.goes h
    · exact hy.goes h
  · intro s r s' h
    split at h
    · exact hx.ends h
    · exact hy.ends h

/-- **Sequences.** -/
theorem Effects.bind (hx : Effects Q R x) (hk : ∀ a, Effects Q R (k a))
    (htrans : ∀ {s t u}, Q s t → Q t u → Q s u) (hafter : ∀ {s t r u}, Q s t → R t r u → R s r u) :
    Effects Q R (x >>= k) := by
  constructor
  · intro s b u h
    rcases hs : x s with ⟨r | a, t⟩
    · rw [Stage.bind_of_error hs] at h
      cases h
    · rw [Stage.bind_of_ok hs] at h
      exact htrans (hx.goes hs) ((hk a).goes h)
  · intro s r u h
    rcases hs : x s with ⟨r' | a, t⟩
    · rw [Stage.bind_of_error hs] at h
      obtain ⟨hr, rfl⟩ := Prod.mk.inj h
      obtain rfl := Except.error.inj hr
      exact hx.ends hs
    · rw [Stage.bind_of_ok hs] at h
      exact hafter (hx.goes hs) ((hk a).ends h)

/-! ## Blindness -/

/-- A stage does not look at what `hide` overwrites, and leaves it as it is. -/
def Blind (hide : S → S) (x : Stage S ρ α) : Prop := ∀ s, x (hide s) = ((x s).1, hide (x s).2)

theorem Blind.pure (hide : S → S) (a : α) : Blind hide (Pure.pure a : Stage S ρ α) := fun _ => rfl

variable {hide : S → S}

/-- **Sequences.** -/
theorem Blind.bind (hx : Blind hide x) (hk : ∀ a, Blind hide (k a)) : Blind hide (x >>= k) := by
  intro s
  have hhidden := hx s
  rcases hs : x s with ⟨r | a, t⟩
  · rw [hs] at hhidden
    rw [Stage.bind_of_error hs, Stage.bind_of_error hhidden]
  · rw [hs] at hhidden
    rw [Stage.bind_of_ok hs, Stage.bind_of_ok hhidden]
    exact hk a t

/-- A stage that does not look at a part of the state keeps it. -/
theorem Blind.effects (hx : Blind hide x) :
    Effects (fun s t => hide s = s → hide t = t) (fun s _ t => hide s = s → hide t = t) x := by
  have hkept : ∀ s, hide s = s → hide (x s).2 = (x s).2 := by
    intro s hs
    have hhidden := hx s
    rw [hs] at hhidden
    exact (congrArg Prod.snd hhidden).symm
  constructor
  · intro s a t h hs
    simpa only [h] using hkept s hs
  · intro s r t h hs
    simpa only [h] using hkept s hs

end EarlyExit
