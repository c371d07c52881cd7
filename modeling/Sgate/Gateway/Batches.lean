import Sgate.Connection.Manager
import Sgate.Lib.Slices
import Sgate.Lib.Transition

/-! # Work over a snapshot of the connections

`kickConnectionsAsync` and `BroadcastAll` give slices of a snapshot to at most 32 workers.
`runBatchValidateSweep` has slices of one checked by the login server and kicks what it rejects. -/

namespace Sgate.Gateway

open Slices Transition Connection List

section FanOut

variable {α : Type*}

/-- The slices `matched[lo:hi]` the workers get. -/
def fanOutSlices (total : ℕ) : List (ℕ × ℕ) :=
  let workers := 32
  let chunkSize := (total + workers - 1) / workers
  bounds chunkSize total workers 0

/-- A fan-out in progress. Every visit of `kickConnectionsAsync` counts as sent (`kicked`). -/
structure FanOut (α : Type*) where
  /-- What each worker has left of its slice. -/
  chunks : List (List α)
  visited : List α := []
  sent : ℕ := 0
  failed : ℕ := 0

/-- The workers start. -/
def fanOut (matched : List α) : FanOut α where
  chunks := (fanOutSlices matched.length).map (slice matched)

/-- A worker visits the next connection of its chunk, with or without an error. -/
def FanOut.step (s : FanOut α) (a : ℕ × Bool) : Option (FanOut α) :=
  match s.chunks[a.1]? with
  | some (conn :: rest) =>
    some { s with
      chunks := s.chunks.set a.1 rest
      visited := conn :: s.visited
      sent := if a.2 then s.sent + 1 else s.sent
      failed := if a.2 then s.failed else s.failed + 1 }
  | _ => none

theorem perm_flatten_set {l : List (List α)} {i : ℕ} {x : α} {xs : List α}
    (h : l[i]? = some (x :: xs)) : (x :: (l.set i xs).flatten).Perm l.flatten := by
  induction l generalizing i with
  | nil => cases h
  | cons y l ih =>
    cases i with
    | zero =>
      cases h
      exact .refl _
    | succ i => exact perm_middle.symm.trans ((ih h).append_left y)

/-- Each visit takes one connection off the chunks and counts it. -/
theorem FanOut.run_visits {s s' : FanOut α} {visits : List (ℕ × Bool)}
    (h : run FanOut.step s visits = some s') :
    (s'.visited ++ s'.chunks.flatten).Perm (s.visited ++ s.chunks.flatten) ∧
      s'.sent + s'.failed = s.sent + s.failed + visits.length ∧
      s'.visited.length = s.visited.length + visits.length := by
  induction visits generalizing s with
  | nil =>
    cases h
    exact ⟨.refl _, rfl, rfl⟩
  | cons a visits ih =>
    obtain ⟨v, hstep, hrun⟩ := run_cons_iff.mp h
    obtain ⟨hperm, hcount, hlength⟩ := ih hrun
    rw [FanOut.step] at hstep
    split at hstep <;> cases hstep
    next conn rest hchunk =>
      refine ⟨hperm.trans ?_, ?_, ?_⟩
      · exact perm_middle.symm.trans ((perm_flatten_set hchunk).append_left _)
      · rw [hcount, length_cons]
        dsimp only
        split_ifs <;> omega
      · rw [hlength, length_cons, length_cons]
        omega

/-- A worker with something left can go on, with or without an error. -/
theorem FanOut.exists_step {s : FanOut α} (h : ¬ ∀ chunk ∈ s.chunks, chunk = []) :
    ∃ w, ∀ ok, (s.step (w, ok)).isSome = true := by
  push Not at h
  obtain ⟨chunk, hchunk, hne⟩ := h
  obtain ⟨w, hw⟩ := mem_iff_getElem?.mp hchunk
  obtain ⟨conn, rest, rfl⟩ := exists_cons_of_ne_nil hne
  exact ⟨w, fun ok => by simp [FanOut.step, hw]⟩

theorem flatMap_fanOutSlices (l : List α) : (fanOutSlices l.length).flatMap (slice l) = l := by
  refine (flatMap_slice l ?_).trans (by simp)
  omega

/-- **A fan-out visits each connection once.** The slices are in bounds, disjoint and cover all
positions. Whatever the order of the workers, one of them can go on until there were as many visits as
there are connections; then all are done, and each connection was visited once and counted as sent or
failed. -/
theorem fanOut_once (matched : List α) :
    (∀ b ∈ fanOutSlices matched.length, b.1 < b.2 ∧ b.2 ≤ matched.length) ∧
      (fanOutSlices matched.length).Pairwise (fun a b => a.2 ≤ b.1) ∧
      (∀ i < matched.length, ∃ b ∈ fanOutSlices matched.length, b.1 ≤ i ∧ i < b.2) ∧
      ∀ visits s, run FanOut.step (fanOut matched) visits = some s →
        ((∀ chunk ∈ s.chunks, chunk = []) ↔ visits.length = matched.length) ∧
        (visits.length ≠ matched.length → ∃ w, ∀ ok, (s.step (w, ok)).isSome = true) ∧
        ((∀ chunk ∈ s.chunks, chunk = []) →
          s.visited.Perm matched ∧ s.sent + s.failed = matched.length) := by
  refine ⟨fun b hb => ?_, pairwise_bounds, fun i hi => ?_, fun visits s hrun => ?_⟩
  · obtain ⟨-, hlt, htop⟩ := mem_bounds hb
    omega
  · -- the position is listed in one of the slices of all positions
    have hmem : i ∈ (fanOutSlices matched.length).flatMap (slice (range matched.length)) := by
      have hall := flatMap_fanOutSlices (range matched.length)
      rw [length_range] at hall
      rw [hall]
      exact mem_range.mpr hi
    obtain ⟨b, hb, hmem⟩ := mem_flatMap.mp hmem
    refine ⟨b, hb, ?_⟩
    obtain ⟨k, hk, rfl⟩ := mem_iff_getElem.mp hmem
    simp only [slice, getElem_take, getElem_drop, getElem_range, length_take] at hk ⊢
    omega
  · obtain ⟨hperm, hcount, hlength⟩ := FanOut.run_visits hrun
    rw [fanOut, ← flatMap_def, nil_append, flatMap_fanOutSlices] at hperm
    have htotal := hperm.length_eq
    rw [length_append, hlength] at htotal
    simp only [fanOut, length_nil, Nat.zero_add] at htotal hcount
    have hdone : (∀ chunk ∈ s.chunks, chunk = []) ↔ visits.length = matched.length := by
      rw [← flatten_eq_nil_iff, ← length_eq_zero_iff]
      omega
    refine ⟨hdone, fun hleft => FanOut.exists_step (mt hdone.mp hleft), fun h => ?_⟩
    · rw [← flatten_eq_nil_iff] at h
      rw [h, append_nil] at hperm
      rw [h, length_nil] at htotal
      exact ⟨hperm, by omega⟩

end FanOut

end Sgate.Gateway
