import Mathlib.Data.List.Basic

/-! # Consecutive slices of a list -/

namespace Slices

variable {α : Type*} {size n count w : ℕ}

/-- The bounds `[lo, hi)` of at most `count` slices of `n` positions, from the `w`-th on: each of `size`
positions but the last, which ends at `n`; none starts past the end. -/
def bounds (size n : ℕ) : ℕ → ℕ → List (ℕ × ℕ)
  | 0, _ => []
  | count + 1, w =>
    if n ≤ w * size then [] else
      (w * size, min (w * size + size) n) :: bounds size n count (w + 1)

/-- The slice of a list between two bounds. -/
def slice (l : List α) (b : ℕ × ℕ) : List α := (l.drop b.1).take (b.2 - b.1)

theorem mem_bounds {b : ℕ × ℕ} (h : b ∈ bounds size n count w) :
    w * size ≤ b.1 ∧ b.1 < n ∧ b.2 = min (b.1 + size) n := by
  induction count generalizing w with
  | zero => cases h
  | succ count ih =>
    rw [bounds] at h
    split_ifs at h with hlo
    · cases h
    · rcases List.mem_cons.mp h with rfl | h
      · exact ⟨Nat.le_refl _, by omega, rfl⟩
      · have hrest := ih h
        rw [Nat.succ_mul] at hrest
        exact ⟨by omega, hrest.2⟩

/-- The slices do not overlap. -/
theorem pairwise_bounds : (bounds size n count w).Pairwise (fun a b => a.2 ≤ b.1) := by
  induction count generalizing w with
  | zero => exact .nil
  | succ count ih =>
    rw [bounds]
    split_ifs with hlo
    · exact .nil
    · refine .cons (fun b hb => ?_) ih
      have hstart := (mem_bounds hb).1
      rw [Nat.succ_mul] at hstart
      exact Nat.le_trans (Nat.min_le_left _ _) hstart

/-- The slices joined are the list, if there are enough of them. -/
theorem flatMap_slice (l : List α) (h : l.length ≤ (w + count) * size) :
    (bounds size l.length count w).flatMap (slice l) = l.drop (w * size) := by
  induction count generalizing w with
  | zero => exact (List.drop_of_length_le h).symm
  | succ count ih =>
    rw [bounds]
    split_ifs with hlo
    · exact (List.drop_of_length_le hlo).symm
    · have hslice : slice l (w * size, min (w * size + size) l.length) =
          (l.drop (w * size)).take size := by
        refine List.take_eq_take_iff.mpr ?_
        simp only [List.length_drop]
        omega
      rw [List.flatMap_cons, hslice, ih (by rwa [Nat.add_right_comm, Nat.add_assoc]), Nat.succ_mul,
        ← List.drop_drop, List.take_append_drop]

end Slices
