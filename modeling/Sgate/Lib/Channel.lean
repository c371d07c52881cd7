import Mathlib.Data.List.Basic

/-! # Bounded channels

A channel holds at most `cap` values, oldest first. The two operations are the ones that do not wait;
a producer or consumer that waits is one whose step is not possible. -/

/-- A channel of capacity `cap`. -/
structure Channel (α : Type*) (cap : ℕ) where
  buffer : List α
  bounded : buffer.length ≤ cap

namespace Channel

variable {α : Type*} {cap : ℕ} {c c' : Channel α cap} {x : α}

/-- Nothing has been sent. -/
def empty : Channel α cap := ⟨[], Nat.zero_le cap⟩

theorem length_send_le (h : c.buffer.length < cap) : (c.buffer ++ [x]).length ≤ cap := by
  rw [List.length_append]
  exact h

theorem length_recv_le (c : Channel α cap) : c.buffer.tail.length ≤ cap := by
  rw [List.length_tail]
  exact Nat.le_trans (Nat.sub_le ..) c.bounded

def trySend (c : Channel α cap) (x : α) : Option (Channel α cap) :=
  if h : c.buffer.length < cap then some ⟨c.buffer ++ [x], length_send_le h⟩ else none

/-- Receive the oldest value if there is one. -/
def tryRecv (c : Channel α cap) : Option (α × Channel α cap) :=
  c.buffer.head?.map fun x => (x, ⟨c.buffer.tail, c.length_recv_le⟩)

theorem buffer_of_trySend (h : c.trySend x = some c') : c'.buffer = c.buffer ++ [x] := by
  unfold trySend at h
  split at h <;> cases h
  rfl

theorem trySend_isSome_iff : (c.trySend x).isSome = true ↔ c.buffer.length < cap := by
  unfold trySend
  split <;> simp_all

theorem buffer_of_tryRecv (h : c.tryRecv = some (x, c')) : c.buffer = x :: c'.buffer := by
  obtain ⟨y, hy, heq⟩ := Option.map_eq_some_iff.mp h
  cases heq
  exact (List.cons_head?_tail hy).symm

theorem tryRecv_eq_none_iff : c.tryRecv = none ↔ c.buffer = [] := by
  rw [tryRecv, Option.map_eq_none_iff, List.head?_eq_none_iff]

/-- After a receive, a channel of capacity one is empty. -/
theorem buffer_eq_nil_of_tryRecv {c c' : Channel α 1} (h : c.tryRecv = some (x, c')) :
    c'.buffer = [] := by
  have hlength := c.bounded
  rw [buffer_of_tryRecv h, List.length_cons] at hlength
  exact List.eq_nil_of_length_eq_zero (by omega)

variable {c : Channel α 1}

/-- There is room in a channel of capacity one exactly if it is empty. -/
theorem trySend_eq_none_iff : c.trySend x = none ↔ c.buffer ≠ [] := by
  rw [← Option.not_isSome_iff_eq_none, trySend_isSome_iff, Nat.lt_one_iff, List.length_eq_zero_iff]

end Channel
