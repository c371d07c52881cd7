import Mathlib.Logic.Function.Basic
import Mathlib.Tactic.Common

/-! # Partial maps with compare-and-delete

Partial maps as functions into `Option`, with the operations a concurrent map offers, and pairs of maps
that are inverse to each other (`KeyMap.Inverse`), changed by linking two keys and by cutting a link. -/

abbrev KeyMap (κ ν : Type*) : Type _ := κ → Option ν

namespace KeyMap

variable {κ ν : Type*}

def empty : KeyMap κ ν := fun _ => none

@[simp] theorem empty_apply (k : κ) : (empty : KeyMap κ ν) k = none := rfl

variable [DecidableEq κ]

/-- Store a value under a key. -/
def store (m : KeyMap κ ν) (k : κ) (v : ν) : KeyMap κ ν := Function.update m k (some v)

@[simp] theorem store_self (m : KeyMap κ ν) (k : κ) (v : ν) : m.store k v k = some v :=
  Function.update_self ..

variable {j k : κ}

@[simp] theorem store_of_ne (m : KeyMap κ ν) (v : ν) (h : j ≠ k) :
    m.store k v j = m j := Function.update_of_ne h ..

theorem store_apply (m : KeyMap κ ν) (j k : κ) (v : ν) :
    m.store k v j = if j = k then some v else m j := by
  by_cases h : j = k
  · subst h; simp
  · simp [h]

variable {m : KeyMap κ ν} {k : κ} {v : ν}

/-- A property of all entries, with one entry replaced. -/
theorem forall_store {P : κ → ν → Prop} (hk : P k v) (h : ∀ j u, j ≠ k → m j = some u → P j u) :
    ∀ j u, m.store k v j = some u → P j u := by
  intro j u hu
  rw [store_apply] at hu
  split at hu
  · rename_i hj
    subst hj
    cases hu
    exact hk
  · rename_i hj
    exact h j u hj hu

/-- Remove the entry of a key. -/
def delete (m : KeyMap κ ν) (k : κ) : KeyMap κ ν := Function.update m k none

@[simp] theorem delete_self (m : KeyMap κ ν) (k : κ) : m.delete k k = none :=
  Function.update_self ..

@[simp] theorem delete_of_ne (m : KeyMap κ ν) (h : j ≠ k) : m.delete k j = m j :=
  Function.update_of_ne h ..

theorem delete_apply (m : KeyMap κ ν) (j k : κ) :
    m.delete k j = if j = k then none else m j := by
  by_cases h : j = k
  · subst h; simp
  · simp [h]

/-- Change the value of a key that has one. -/
def modify (m : KeyMap κ ν) (k : κ) (f : ν → ν) : KeyMap κ ν := Function.update m k ((m k).map f)

theorem modify_apply (m : KeyMap κ ν) (j k : κ) (f : ν → ν) :
    m.modify k f j = if j = k then (m j).map f else m j := by
  by_cases h : j = k
  · subst h; simp [modify]
  · simp [modify, h]

/-- A key without a value keeps none. -/
theorem modify_of_none (f : ν → ν) (h : m k = none) : m.modify k f = m := by
  funext j
  rw [modify_apply]
  split
  · subst j
    rw [h]
    rfl
  · rfl

variable {f : ν → ν}

theorem modify_eq_some :
    m.modify k f j = some v ↔ ∃ u, m j = some u ∧ v = if j = k then f u else u := by
  rw [modify_apply]
  split
  · simp [eq_comm]
  · simp

/-- A property of all values that a change of one value keeps. -/
theorem forall_modify {P : κ → ν → Prop} (h : ∀ j v, m j = some v → P j v)
    (hf : ∀ j v, P j v → P j (f v)) : ∀ j v, m.modify k f j = some v → P j v := by
  intro j v hv
  obtain ⟨u, hu, rfl⟩ := modify_eq_some.mp hv
  split
  · exact hf j u (h j u hu)
  · exact h j u hu

/-- Remove the entries that meet a condition. -/
def deleteFunc (m : KeyMap κ ν) (p : κ → ν → Bool) : KeyMap κ ν :=
  fun k => (m k).filter fun v => !p k v

omit [DecidableEq κ] in
theorem deleteFunc_eq_some {p : κ → ν → Bool} :
    m.deleteFunc p k = some v ↔ m k = some v ∧ p k v = false := by
  simp [deleteFunc, Option.filter_eq_some_iff]

/-! ### Values through a function -/

variable {μ : Type*} {g : ν → μ}

/-- The map with a function applied to its values. -/
def map (g : ν → μ) (m : KeyMap κ ν) : KeyMap κ μ := fun k => (m k).map g

omit [DecidableEq κ] in
theorem map_eq_some {u : μ} :
    m.map g k = some u ↔ ∃ v, m k = some v ∧ g v = u := Option.map_eq_some_iff

theorem map_store (m : KeyMap κ ν) (k : κ) (v : ν) : (m.store k v).map g = (m.map g).store k (g v) := by
  funext j
  simp only [map, store_apply]
  split <;> rfl

theorem map_delete (m : KeyMap κ ν) (k : κ) : (m.delete k).map g = (m.map g).delete k := by
  funext j
  simp only [map, delete_apply]
  split <;> rfl

/-- A change of values that `g` sees as the change `f'`. -/
theorem map_modify {f' : μ → μ} (h : ∀ v, g (f v) = f' (g v)) (m : KeyMap κ ν) (k : κ) :
    (m.modify k f).map g = (m.map g).modify k f' := by
  funext j
  simp only [map, modify_apply]
  split
  · cases m j <;> simp [h]
  · rfl

/-- A change of values that `g` does not see. -/
theorem map_modify_same (h : ∀ v, g (f v) = g v) (m : KeyMap κ ν) (k : κ) :
    (m.modify k f).map g = m.map g := by
  funext j
  simp only [map, modify_apply]
  split
  · cases m j <;> simp [h]
  · rfl

variable [DecidableEq ν]

/-- Compare-and-delete: remove the entry of a key only while it still holds the given value. -/
def deleteIf (m : KeyMap κ ν) (k : κ) (v : ν) : KeyMap κ ν := if m k = some v then m.delete k else m

theorem deleteIf_apply (m : KeyMap κ ν) (j k : κ) (v : ν) :
    m.deleteIf k v j = if j = k ∧ m k = some v then none else m j := by
  unfold deleteIf
  by_cases hv : m k = some v <;> simp [hv, delete_apply]

/-- Compare-and-delete keeps an entry that holds another value. -/
theorem deleteIf_eq_some {u v : ν} :
    m.deleteIf k v j = some u ↔ m j = some u ∧ ¬ (j = k ∧ u = v) := by
  rw [deleteIf_apply]
  by_cases h : j = k
  · subst h
    by_cases hv : m j = some v
    · simp only [hv, and_self, if_true, reduceCtorEq, Option.some.injEq, true_and, false_iff, not_and,
        not_not]
      exact fun h => h.symm
    · simp only [hv, and_false, if_false, true_and, iff_self_and]
      rintro hu rfl
      exact hv hu
  · simp [h]

/-- Deleting an entry that holds no other value. -/
theorem delete_eq_deleteIf (h : ∀ u, m k = some u → u = v) : m.delete k = m.deleteIf k v := by
  unfold deleteIf
  split
  · rfl
  · rename_i hk
    have hnone : m k = none := Option.eq_none_iff_forall_ne_some.mpr fun u hu => hk (h u hu ▸ hu)
    rw [delete, ← hnone, Function.update_eq_self]

/-! ## Partial bijections -/

variable {α β : Type*}

/-- Two maps are inverse to each other: they hold the same pairs. -/
def Inverse (f : KeyMap α β) (g : KeyMap β α) : Prop := ∀ a b, f a = some b ↔ g b = some a

theorem inverse_empty : Inverse (empty : KeyMap α β) (empty : KeyMap β α) := by
  intro a b; simp

variable [DecidableEq α] [DecidableEq β] {g : KeyMap β α} {f : KeyMap α β}

/-- **Linking** `a` and `b`: store the pair on both sides after dropping the old partner of either.
The result is again a partial bijection. -/
theorem Inverse.link (h : Inverse f g) {f' : KeyMap α β} {g' : KeyMap β α} (a : α) (b : β)
    (hf : ∀ x, f' x = if x = a then some b else if f x = some b then none else f x)
    (hg : ∀ y, g' y = if y = b then some a else if g y = some a then none else g y) :
    Inverse f' g' := by
  intro x y
  have hxy := h x y
  -- the pair is the new one, one of the two that were dropped, or an untouched one
  by_cases hx : x = a <;> by_cases hy : y = b <;> grind

/-- **Cutting** the link of `a` and `b` on both sides keeps a partial bijection. -/
theorem Inverse.cut (h : Inverse f g) {a : α} {b : β} (hab : f a = some b) :
    Inverse (f.delete a) (g.delete b) := by
  intro x y
  have hxy := h x y
  have hay := h a y
  rw [delete_apply, delete_apply]
  by_cases hx : x = a <;> by_cases hy : y = b <;> grind

end KeyMap
