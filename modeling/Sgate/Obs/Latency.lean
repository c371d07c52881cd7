import Mathlib.Algebra.BigOperators.Intervals
import Mathlib.Data.Int.ModEq

/-! # The window of the latency tracker

Sixteen rings take the samples in turn. Together they are one ring: the place of sample `j` depends
only on `j` modulo the size of the window. -/

namespace Sgate.Obs

open Finset

structure LatencyShard where
  samples : ℕ → ℤ := fun _ => 0
  head : ℕ := 0
  count : ℕ := 0

structure LatencyTracker where
  shards : ℕ → LatencyShard := fun _ => {}
  size : ℕ
  rr : UInt64 := 0

structure LatencyStats where
  p50 : ℤ := 0
  p95 : ℤ := 0
  p99 : ℤ := 0
  max : ℤ := 0
  cnt : ℕ := 0

/-- The samples each shard keeps. -/
def perShard (size : ℤ) : ℕ := (max ((if size ≤ 0 then 10000 else size) / 16) 1).toNat

def newLatencyTracker (size : ℤ) : LatencyTracker := { size := perShard size }

/-- The samples in use, of a slice of length `size`. -/
def LatencyShard.recent (s : LatencyShard) (size : ℕ) : List ℤ :=
  (List.range (if s.count < size then s.count else size)).map s.samples

namespace LatencyTracker

def record (lt : LatencyTracker) (d : ℤ) : LatencyTracker :=
  let i := ((lt.rr + 1) &&& 15).toNat
  let s := lt.shards i
  { lt with
    rr := lt.rr + 1
    shards := Function.update lt.shards i
      { samples := Function.update s.samples s.head d
        head := (s.head + 1) % lt.size
        count := if s.count < lt.size then s.count + 1 else s.count } }

/-- The samples that `GetStats` collects. -/
def collect (lt : LatencyTracker) : List ℤ :=
  (List.range 16).flatMap fun i => (lt.shards i).recent lt.size

/-- A number rounded to the 53 bits of a `float64`, at a tie to even. -/
def float64 (n : ℕ) : ℕ :=
  let s := n.log2 - 52
  let q := n / 2 ^ s
  let r := n % 2 ^ s
  (if 2 ^ s < 2 * r ∨ 2 ^ s = 2 * r ∧ q % 2 = 1 then q + 1 else q) * 2 ^ s

/-- `math.Ceil(p * float64(n))` for a `p` of so many units of `2⁻⁵³`. -/
def ceil (p n : ℕ) : ℤ := ((float64 (p * float64 n) + 2 ^ 53 - 1) / 2 ^ 53 : ℕ)

/-- `GetStats`. The constants are 0.5, 0.95 and 0.99 as a `float64`. -/
def getStats (lt : LatencyTracker) : LatencyStats :=
  let buf := lt.collect.mergeSort
  if buf.length = 0 then {}
  else
    let getPct p := buf.getD (min (max (ceil p buf.length - 1) 0).toNat (buf.length - 1)) 0
    ⟨getPct (2 ^ 52), getPct 8556839292003942, getPct 8917127262193582, buf.getD (buf.length - 1) 0, buf.length⟩

end LatencyTracker

open LatencyTracker

theorem shard_index (n : ℕ) : ((UInt64.ofNat n + 1) &&& 15).toNat = (n + 1) % 16 := by
  have hmask := Nat.and_two_pow_sub_one_eq_mod ((n % 2 ^ 64 + 1) % 2 ^ 64) 4
  simp only [UInt64.toNat_and, UInt64.toNat_add, UInt64.toNat_ofNat']
  refine hmask.trans ?_
  omega

/-- Two samples with one place are a whole window apart. -/
theorem le_of_same_place {per j n : ℕ} (hj : j < n) (hshard : (j + 1) % 16 = (n + 1) % 16)
    (hslot : j / 16 % per = n / 16 % per) : j + 16 * per ≤ n := by
  have hdvd : per ∣ n / 16 - j / 16 := (Nat.modEq_iff_dvd' (by omega)).mp hslot
  have hle := Nat.le_of_dvd (by omega) hdvd
  omega

/-- What the tracker holds after `ds` was recorded; sample `j` is in shard `(j + 1) % 16`. -/
structure Holds (per : ℕ) (ds : List ℤ) (lt : LatencyTracker) : Prop where
  size : lt.size = per
  rr : lt.rr = UInt64.ofNat ds.length
  ring : ∀ j, (lt.shards ((j + 1) % 16)).head = (ds.length + 15 - j % 16) / 16 % per ∧
    (lt.shards ((j + 1) % 16)).count = min ((ds.length + 15 - j % 16) / 16) per
  kept : ∀ j, (hj : j < ds.length) → ds.length ≤ j + 16 * per →
    (lt.shards ((j + 1) % 16)).samples (j / 16 % per) = ds[j]

variable {per : ℕ} {ds : List ℤ} {lt : LatencyTracker}

theorem Holds.record (h : Holds per ds lt) (d : ℤ) : Holds per (ds ++ [d]) (lt.record d) := by
  obtain ⟨hsize, hrr, hring, hkept⟩ := h
  obtain ⟨hhead, hcount⟩ := hring ds.length
  have hturn : (ds.length + 15 - ds.length % 16) / 16 = ds.length / 16 := by omega
  have hplace : ((lt.rr + 1) &&& 15).toNat = (ds.length + 1) % 16 := by rw [hrr, shard_index]
  unfold LatencyTracker.record
  simp only [hplace, hsize, hhead, hcount, hturn]
  refine ⟨rfl, by simp [hrr], fun j => ?_, fun j hj hwindow => ?_⟩ <;> dsimp only
  · rw [List.length_append, List.length_singleton]
    by_cases hshard : (j + 1) % 16 = (ds.length + 1) % 16
    · have hnext : (ds.length + 1 + 15 - j % 16) / 16 = ds.length / 16 + 1 := by omega
      rw [hnext, hshard, Function.update_self]
      exact ⟨Nat.mod_add_mod .., by dsimp only; split <;> omega⟩
    · have hnext : (ds.length + 1 + 15 - j % 16) / 16 = (ds.length + 15 - j % 16) / 16 := by omega
      rw [hnext, Function.update_of_ne hshard]
      exact hring j
  · rw [List.length_append, List.length_singleton] at hj hwindow
    by_cases hlast : j = ds.length
    · subst hlast
      simp
    · have hold : j < ds.length := by omega
      rw [List.getElem_append_left hold, ← hkept j hold (by omega)]
      by_cases hshard : (j + 1) % 16 = (ds.length + 1) % 16
      · rw [hshard, Function.update_self]
        refine Function.update_of_ne (fun hslot => ?_) ..
        have hfar := le_of_same_place hold hshard hslot
        omega
      · rw [Function.update_of_ne hshard]

/-- The shard of a sample and its slot. -/
def place (per j : ℕ) : (_ : ℕ) × ℕ := ⟨(j + 1) % 16, j / 16 % per⟩

theorem injOn_place (per n : ℕ) : Set.InjOn (place per) (Ico (n - 16 * per) n) := by
  intro j hj k hk hplace
  rw [coe_Ico, Set.mem_Ico] at hj hk
  simp only [place, Sigma.mk.injEq, heq_eq_eq] at hplace
  obtain ⟨hshard, hslot⟩ := hplace
  rcases lt_trichotomy j k with hlt | heq | hlt
  · have hfar := le_of_same_place hlt hshard hslot
    omega
  · exact heq
  · have hfar := le_of_same_place hlt hshard.symm hslot.symm
    omega

/-- The samples of the window have the places in use. -/
theorem Holds.image_place (h : Holds per ds lt) :
    (Ico (ds.length - 16 * per) ds.length).image (place per) =
      (range 16).sigma fun i => range (min (lt.shards i).count per) := by
  ext ⟨i, p⟩
  simp only [mem_image, mem_sigma, mem_range, mem_Ico, place, Sigma.mk.injEq, heq_eq_eq]
  constructor
  · rintro ⟨j, hj, rfl, rfl⟩
    have hle := Nat.mod_le (j / 16) per
    have hlt := Nat.mod_lt (j / 16) (y := per) (by omega)
    rw [(h.ring j).2]
    omega
  · -- the last sample of the shard that went to slot `p`
    rintro ⟨hi, hp⟩
    have hcount := (h.ring (i + 15)).2
    rw [show (i + 15 + 1) % 16 = i by omega] at hcount
    obtain ⟨q, hq⟩ : ∃ q, (ds.length + 15 - (i + 15) % 16) / 16 = q := ⟨_, rfl⟩
    have hturn := Nat.mod_add_div (q - 1 - p) per
    have hlt := Nat.mod_lt (q - 1 - p) (y := per) (by omega)
    have hslot : (p + per * ((q - 1 - p) / per)) % per = p := by
      rw [Nat.add_mul_mod_self_left, Nat.mod_eq_of_lt (by omega)]
    generalize per * ((q - 1 - p) / per) = k at hturn hslot
    refine ⟨16 * (p + k) + (i + 15) % 16, by omega, by omega, ?_⟩
    rwa [show (16 * (p + k) + (i + 15) % 16) / 16 = p + k by omega]

theorem collect_eq (lt : LatencyTracker) :
    (lt.collect : Multiset ℤ) = ((range 16).sigma fun i => range (min (lt.shards i).count lt.size)).val.map
      fun x => (lt.shards x.1).samples x.2 := by
  simp only [min_def_lt, Finset.sigma, Multiset.sigma, Multiset.map_bind, Multiset.map_map]
  exact (Multiset.coe_bind ..).symm

theorem Holds.collect (h : Holds per ds lt) :
    (lt.collect : Multiset ℤ) = ds.drop (ds.length - 16 * per) := by
  rw [collect_eq, h.size, ← h.image_place, image_val_of_injOn (injOn_place ..), Multiset.map_map]
  have hwindow : ds.drop (ds.length - 16 * per) = (List.range' (ds.length - 16 * per)
      (ds.length - (ds.length - 16 * per))).map fun j => ds.getD j 0 := by
    refine List.ext_getElem (by simp) fun j hj _ => ?_
    rw [List.length_drop] at hj
    simp [show ds.length - 16 * per + j < ds.length by omega]
  rw [hwindow]
  refine Multiset.map_congr rfl fun j hj => ?_
  have hj' := mem_Ico.mp (mem_def.mpr hj)
  exact (h.kept j hj'.2 (by omega)).trans (by simp [hj'.2])

theorem holds_record (size : ℤ) (ds : List ℤ) :
    Holds (perShard size) ds (ds.foldl record (newLatencyTracker size)) := by
  induction ds using List.reverseRecOn with
  | nil =>
    refine ⟨rfl, rfl, fun j => ?_, nofun⟩
    rw [show (([] : List ℤ).length + 15 - j % 16) / 16 = 0 by simp; omega, Nat.zero_mod, Nat.zero_min]
    exact ⟨rfl, rfl⟩
  | append_singleton ds d ih =>
    rw [List.foldl_append]
    exact ih.record d

theorem getStats_cnt (lt : LatencyTracker) : lt.getStats.cnt = lt.collect.length := by
  rw [← List.length_mergeSort lt.collect, getStats]
  split
  case isTrue hempty => exact hempty.symm
  case isFalse => rfl

theorem getStats_max (hne : lt.collect ≠ []) :
    IsGreatest { d | d ∈ lt.collect } lt.getStats.max := by
  have hpos : 0 < lt.collect.mergeSort.length := by
    rw [List.length_mergeSort]
    exact List.length_pos_iff.mpr hne
  have hmax : lt.getStats.max = lt.collect.mergeSort[lt.collect.mergeSort.length - 1] := by
    rw [getStats, if_neg hpos.ne']
    exact List.getElem_eq_getD .. |>.symm
  have hsorted := List.pairwise_iff_getElem.mp (List.pairwise_mergeSort' (· ≤ ·) lt.collect)
  refine hmax ▸ ⟨List.mem_mergeSort.mp (List.getElem_mem _), fun d hd => ?_⟩
  obtain ⟨i, hi, rfl⟩ := List.getElem_of_mem (List.mem_mergeSort.mpr hd : d ∈ lt.collect.mergeSort)
  rcases (Nat.le_sub_one_of_lt hi).lt_or_eq with hlt | rfl
  · exact hsorted i _ hi _ hlt
  · exact le_rfl

/-- **The window.** For every size and every sequence of calls of `Record`, `GetStats` collects the
last sixteen times `per` values, or all if there are fewer; `Cnt` is their number, `Max` the greatest. -/
theorem latency_window (size : ℤ) (ds : List ℤ) :
    let lt := ds.foldl record (newLatencyTracker size)
    let window := ds.drop (ds.length - 16 * perShard size)
    (lt.collect : Multiset ℤ) = window ∧ window.length = min ds.length (16 * perShard size) ∧
      lt.getStats.cnt = window.length ∧
      (window ≠ [] → IsGreatest { d | d ∈ window } lt.getStats.max) := by
  intro lt window
  have hperm := Multiset.coe_eq_coe.mp (holds_record size ds).collect
  refine ⟨Multiset.coe_eq_coe.mpr hperm, ?_, (getStats_cnt lt).trans hperm.length_eq, fun hne => ?_⟩
  · rw [List.length_drop]
    omega
  · have hmem : { d | d ∈ window } = { d | d ∈ lt.collect } := Set.ext fun _ => hperm.mem_iff.symm
    rw [hmem]
    exact getStats_max fun hempty => hne (List.nil_perm.mp (hempty ▸ hperm))

end Sgate.Obs
