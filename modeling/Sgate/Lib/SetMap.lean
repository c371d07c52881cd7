import Sgate.Lib.KeyMap
import Mathlib.Data.Finset.Basic

/-! # Maps with finite sets as values

A map to finite sets is a relation that can be listed by its keys. A key whose set becomes empty is
dropped (`eraseAt`, `Proper`). A relation listed from both sides is a pair of such maps (`Incident`). -/

namespace KeyMap

variable {κ ν : Type*} {m m' : KeyMap κ (Finset ν)} {i k : κ} {u v : ν}

/-- The set of a key; empty if it has no entry. -/
def values (m : KeyMap κ (Finset ν)) (k : κ) : Finset ν := (m k).getD ∅

theorem mem_values_iff : v ∈ m.values k ↔ ∃ vs, m k = some vs ∧ v ∈ vs := by
  unfold values
  cases m k <;> simp

/-- No key has the empty set. -/
def Proper (m : KeyMap κ (Finset ν)) : Prop := ∀ k, m k ≠ some ∅

theorem proper_empty : (empty : KeyMap κ (Finset ν)).Proper := fun _ => nofun

/-- A key of a proper map has no entry iff it has no values. -/
theorem Proper.eq_none_iff (h : m.Proper) : m k = none ↔ ∀ v, v ∉ m.values k := by
  constructor
  · intro hk v
    simp [values, hk]
  · intro hk
    cases hm : m k with
    | none => rfl
    | some vs =>
      have hempty : vs = ∅ := Finset.eq_empty_of_forall_notMem fun v hv =>
        hk v (mem_values_iff.mpr ⟨vs, hm, hv⟩)
      exact absurd (hempty ▸ hm) (h k)

/-- Listed by its values, a relation holds the pairs it holds listed by its keys. -/
def Incident (m : KeyMap κ (Finset ν)) (w : KeyMap ν (Finset κ)) : Prop :=
  ∀ k v, v ∈ m.values k ↔ k ∈ w.values v

theorem incident_empty : Incident (empty : KeyMap κ (Finset ν)) (empty : KeyMap ν (Finset κ)) := by
  intro k v
  simp [values]

variable [DecidableEq κ] [DecidableEq ν]

/-- Put a value into the set of a key. -/
def insertAt (m : KeyMap κ (Finset ν)) (k : κ) (v : ν) : KeyMap κ (Finset ν) :=
  m.store k (insert v (m.values k))

/-- Take a value out of the set of a key; a key without values is dropped. -/
def eraseAt (m : KeyMap κ (Finset ν)) (k : κ) (v : ν) : KeyMap κ (Finset ν) :=
  match m k with
  | none => m
  | some vs => if vs.erase v = ∅ then m.delete k else m.store k (vs.erase v)

theorem mem_values_insertAt : u ∈ (m.insertAt k v).values i ↔ (i = k ∧ u = v) ∨ u ∈ m.values i := by
  rw [insertAt, values, store_apply]
  split
  · rename_i hik
    subst hik
    simp
  · simp [values, *]

theorem Proper.insertAt (h : m.Proper) : (m.insertAt k v).Proper := by
  intro i
  rw [KeyMap.insertAt, store_apply]
  split
  · simp
  · exact h i

theorem eraseAt_apply : m.eraseAt k v i =
    if i = k then (m k).bind fun vs => if vs.erase v = ∅ then none else some (vs.erase v) else m i := by
  unfold eraseAt
  cases hk : m k with
  | none =>
    split
    · subst i
      exact hk
    · rfl
  | some vs =>
    dsimp only [Option.bind_some]
    split
    · rw [delete_apply]
    · rw [store_apply]

theorem values_eraseAt : (m.eraseAt k v).values i = if i = k then (m.values i).erase v else m.values i := by
  rw [values, eraseAt_apply]
  split
  · subst i
    cases hk : m k with
    | none => simp [values, hk]
    | some vs =>
      dsimp only [Option.bind_some]
      split <;> simp [values, *]
  · rfl

theorem mem_values_eraseAt : u ∈ (m.eraseAt k v).values i ↔ u ∈ m.values i ∧ ¬ (i = k ∧ u = v) := by
  rw [values_eraseAt]
  split
  · subst i
    simp [and_comm]
  · simp [*]

theorem Proper.eraseAt (h : m.Proper) : (m.eraseAt k v).Proper := by
  intro i
  rw [eraseAt_apply]
  split
  · cases m k with
    | none => simp
    | some vs =>
      dsimp only [Option.bind_some]
      split <;> simp [*]
  · exact h i

variable {w : KeyMap ν (Finset κ)}

/-- A pair put in on both sides. -/
theorem Incident.insertAt (h : Incident m w) (k : κ) (v : ν) :
    Incident (m.insertAt k v) (w.insertAt v k) := by
  intro i u
  rw [mem_values_insertAt, mem_values_insertAt, h i u, and_comm]

/-- A pair taken out on both sides. -/
theorem Incident.eraseAt (h : Incident m w) (k : κ) (v : ν) :
    Incident (m.eraseAt k v) (w.eraseAt v k) := by
  intro i u
  rw [mem_values_eraseAt, mem_values_eraseAt, h i u, and_comm (a := i = k)]

omit [DecidableEq κ] in
/-- A value taken out of all sets on one side, and dropped as a key on the other. -/
theorem Incident.sweep (h : Incident m w) (hm : ∀ i u, u ∈ m'.values i ↔ u ∈ m.values i ∧ u ≠ v) :
    Incident m' (w.delete v) := by
  intro i u
  rw [hm, h i u, values, values, delete_apply]
  split <;> simp [*]

end KeyMap
