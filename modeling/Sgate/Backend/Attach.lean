import Sgate.Backend.Steps

/-! # The attachment state machine

`attachShard`, `detachShard` and `Close` keep the streams of a client, their count and the state in
separate steps. `Debt` counts what the calls in progress still owe, and `Balanced` says how the three
agree up to that debt. A state is stored on an earlier read: `settled_of_freshStore`. -/

namespace Sgate.Backend

open Interleaving LogicClient

/-! ## What calls in progress owe -/

/-- What goroutines still have to do: add to the count, subtract from it, check whether the client
became disconnected, check whether it became connected, store the state of a closed client. -/
structure Debt where
  adds : ℕ := 0
  subs : ℕ := 0
  downs : ℕ := 0
  ups : ℕ := 0
  closers : ℕ := 0

instance : Add Debt where
  add d e := ⟨d.adds + e.adds, d.subs + e.subs, d.downs + e.downs, d.ups + e.ups,
    d.closers + e.closers⟩

@[simp] theorem Debt.add_adds (d e : Debt) : (d + e).adds = d.adds + e.adds := rfl
@[simp] theorem Debt.add_subs (d e : Debt) : (d + e).subs = d.subs + e.subs := rfl
@[simp] theorem Debt.add_downs (d e : Debt) : (d + e).downs = d.downs + e.downs := rfl
@[simp] theorem Debt.add_ups (d e : Debt) : (d + e).ups = d.ups + e.ups := rfl
@[simp] theorem Debt.add_closers (d e : Debt) : (d + e).closers = d.closers + e.closers := rfl

/-- What `attachShard` owes. -/
def AttachPc.debt : AttachPc → Debt
  | .add => { adds := 1 }
  | .readAttached | .readState | .loadState | .storeState => { ups := 1 }
  | .readClosing | .swap | .spawnFlush | .returned _ => {}

/-- What `detachShard` owes. -/
def DetachPc.debt : DetachPc → Debt
  | .readClosing | .sub => { subs := 1 }
  | .readState | .loadState | .storeState => { downs := 1 }
  | .clear | .returned => {}

/-- What `Close` owes once it has started. -/
def ClosePc.debt : ClosePc → Debt
  | .markClosed _ | .closeStop _ | .drain _ _ | .loadState | .storeState => { closers := 1 }
  | .lock | .closeQueue | .returned => {}

/-- The place of a goroutine in `attachShard`. -/
def Goroutine.attachPc : Goroutine → Option AttachPc
  | .attach _ _ pc => some pc
  | _ => none

/-- The place of a goroutine in `detachShard`, called directly or from a send loop. -/
def Goroutine.detachPc : Goroutine → Option DetachPc
  | .detach _ _ pc => some pc
  | .loop _ (.detach _ _ pc) => some pc
  | _ => none

def Goroutine.debt : Goroutine → Debt
  | .attach _ _ pc => pc.debt
  | .close pc => pc.debt
  | .detach _ _ pc => pc.debt
  | .loop _ (.detach _ _ pc) => pc.debt
  | _ => {}

def debts (ts : List Goroutine) : Debt where
  adds := tally (fun t => t.debt.adds) ts
  subs := tally (fun t => t.debt.subs) ts
  downs := tally (fun t => t.debt.downs) ts
  ups := tally (fun t => t.debt.ups) ts
  closers := tally (fun t => t.debt.closers) ts

variable {t : Goroutine}

theorem debts_set {ts : List Goroutine} {i : ℕ} (ht : ts[i]? = some t) :
    ∃ r, debts ts = r + t.debt ∧ ∀ t', debts (ts.set i t') = r + t'.debt := by
  have hrest (f : Goroutine → ℕ) :
      ∃ r, tally f ts = r + f t ∧ ∀ t', tally f (ts.set i t') = r + f t' := by
    have hle := le_tally f (List.mem_of_getElem? ht)
    refine ⟨tally f ts - f t, by omega, fun t' => ?_⟩
    have := tally_set f t' ht
    omega
  obtain ⟨a, ha, ha'⟩ := hrest fun t => t.debt.adds
  obtain ⟨b, hb, hb'⟩ := hrest fun t => t.debt.subs
  obtain ⟨d, hd, hd'⟩ := hrest fun t => t.debt.downs
  obtain ⟨u, hu, hu'⟩ := hrest fun t => t.debt.ups
  obtain ⟨k, hk, hk'⟩ := hrest fun t => t.debt.closers
  refine ⟨⟨a, b, d, u, k⟩, ?_, fun t' => ?_⟩
  · rw [debts, ha, hb, hd, hu, hk]
    rfl
  · rw [debts, ha', hb', hd', hu', hk']
    rfl

theorem debts_append {ts new : List Goroutine} (h : ∀ t ∈ new, t.debt = {}) :
    debts (ts ++ new) = debts ts := by
  have hnew (f : Debt → ℕ) (hf : f {} = 0) : tally (fun t => f t.debt) new = 0 :=
    (tally_eq_zero_iff _ _).mpr fun t ht => by rw [h t ht, hf]
  simp only [debts, tally_append, hnew Debt.adds rfl, hnew Debt.subs rfl, hnew Debt.downs rfl,
    hnew Debt.ups rfl, hnew Debt.closers rfl, Nat.add_zero]

/-! ## Balance -/

def LogicClient.bound (c : LogicClient) : ℕ :=
  tally (fun sh => if sh.stream = none then 0 else 1) c.shards

/-- Streams, count and state agree up to the debt `d`. -/
structure Balanced (c : LogicClient) (d : Debt) : Prop where
  pos : 0 < c.shards.length
  /-- The count is the number of streams, up to pending additions and subtractions. -/
  count : c.closing = false → c.attached + d.adds = c.bound + d.subs
  /-- A connected client with too few streams is about to be checked. -/
  down : c.closing = false → c.attached < c.shards.length → c.state = .connected → 0 < d.downs
  /-- A disconnected client with enough streams is about to be checked. -/
  up : c.closing = false → c.shards.length ≤ c.attached → c.state = .disconnected → 0 < d.ups
  /-- A closing client is disconnected, or `Close` is about to see to it. -/
  closed : c.closing = true → c.state = .connected → 0 < d.closers
  /-- Once `Close` has started, the client is closing. -/
  started : 0 < d.closers → c.closing = true

variable {cfg : ClientConfig} {c c' : LogicClient} {r : Debt} {i : ℕ} {sh : StreamShard}

theorem bound_setShard (sh' : StreamShard) (hsh : c.shards[i]? = some sh) :
    (c.setShard i sh').bound + (if sh.stream = none then 0 else 1) =
      c.bound + if sh'.stream = none then 0 else 1 :=
  tally_set (fun sh : StreamShard => if sh.stream = none then 0 else 1) sh' hsh

theorem Balanced.of_same {d : Debt} (hb : Balanced c d)
    (hstreams : c'.shards.map StreamShard.stream = c.shards.map StreamShard.stream)
    (hatt : c'.attached = c.attached) (hst : c'.state = c.state) (hcl : c'.closing = c.closing) :
    Balanced c' d := by
  -- number of shards and of streams are read off the list of streams
  have hlen : c'.shards.length = c.shards.length := by
    simpa using congrArg List.length hstreams
  have hbound : c'.bound = c.bound := by
    have := congrArg (tally fun s : Option ℕ => if s = none then 0 else 1) hstreams
    rwa [tally_map, tally_map] at this
  obtain ⟨hpos, hcount, hdown, hup, hclosed, hstarted⟩ := hb
  exact ⟨by rwa [hlen], by rwa [hcl, hatt, hbound], by rwa [hcl, hatt, hlen, hst],
    by rwa [hcl, hatt, hlen, hst], by rwa [hcl, hst], by rwa [hcl]⟩

theorem Balanced.setStream {d d' : Debt} (sh' : StreamShard) (hb : Balanced c d)
    (hsh : c.shards[i]? = some sh)
    (hbal : (if sh'.stream = none then 0 else 1) + d'.subs + d.adds =
      (if sh.stream = none then 0 else 1) + d.subs + d'.adds)
    (hd : d.downs ≤ d'.downs) (hu : d.ups ≤ d'.ups) (hk : d'.closers = d.closers) :
    Balanced (c.setShard i sh') d' := by
  have hset := bound_setShard sh' hsh
  have hlen : (c.setShard i sh').shards.length = c.shards.length := by simp [setShard]
  refine ⟨by rw [hlen]; exact hb.pos, fun hc => ?_, fun hc hlt hs => ?_, fun hc hle hs => ?_,
    fun hc hs => ?_, fun hk' => ?_⟩
  · have h₁ := hb.count hc
    have h₂ : (c.setShard i sh').attached = c.attached := rfl
    omega
  · rw [hlen] at hlt
    exact lt_of_lt_of_le (hb.down hc hlt hs) hd
  · rw [hlen] at hle
    exact lt_of_lt_of_le (hb.up hc hle hs) hu
  · rw [hk]
    exact hb.closed hc hs
  · rw [hk] at hk'
    exact hb.started hk'

variable {idx stream : ℕ}

/-- A step of `attachShard` keeps the balance, if it stores the state it should. -/
theorem Balanced.attachShard {pc pc' : AttachPc} {new : List Goroutine}
    (hb : Balanced c (r + pc.debt))
    (hg : pc = .storeState → c.closing = false ∧ c.shards.length ≤ c.attached)
    (h : c.attachShard idx stream pc = some (c', pc', new)) : Balanced c' (r + pc'.debt) := by
  cases pc with
  | readClosing =>
    simp only [LogicClient.attachShard, Option.ite_none_left_eq_some] at h
    obtain ⟨rfl, rfl, -⟩ := by simpa using h.2
    split <;> exact hb
  | swap =>
    simp only [LogicClient.attachShard] at h
    split at h
    · cases h
      exact hb
    · rename_i sh hsh
      cases h
      -- a new stream is paid for by the pending addition; a replaced one costs nothing
      refine Balanced.setStream _ hb hsh ?_ ?_ ?_ ?_
      all_goals cases hs : sh.stream <;> simp [AttachPc.debt] <;> omega
  | add =>
    cases h
    refine ⟨hb.pos, fun hc => ?_, fun hc hlt hs => ?_, fun hc hle hs => ?_, hb.closed, hb.started⟩
    · have := hb.count hc
      simp only [AttachPc.debt, Debt.add_adds, Debt.add_subs, LogicClient.bound] at this ⊢
      omega
    · exact hb.down hc (by simp only at hlt; omega) hs
    · simp [AttachPc.debt]
  | readAttached =>
    cases h
    split
    · exact hb
    · rename_i hlt
      exact { hb with up := fun _ hle => absurd hle hlt }
  | readState =>
    obtain ⟨rfl, rfl, -⟩ := by simpa [LogicClient.attachShard] using h
    split
    · rename_i hs
      exact { hb with up := fun _ _ hd => by simp [hs] at hd }
    · exact hb
  | loadState =>
    cases h
    split
    · rename_i hs
      exact { hb with up := fun _ _ hd => by simp [hs] at hd }
    · exact hb
  | storeState =>
    cases h
    -- only the guard rules out that the streams are gone by now
    obtain ⟨hc, hle⟩ := hg rfl
    refine ⟨hb.pos, hb.count, fun _ hlt _ => ?_, fun _ _ hs => (by cases hs),
      fun hc' _ => ?_, hb.started⟩
    · simp only at hlt
      omega
    · simp [hc] at hc'
  | spawnFlush =>
    cases h
    exact hb
  | returned err => simp [LogicClient.attachShard] at h

theorem Balanced.detachShard {pc pc' : DetachPc} (hb : Balanced c (r + pc.debt))
    (hg : pc = .storeState → c.closing = false → c.attached < c.shards.length)
    (h : c.detachShard idx stream pc = some (c', pc')) : Balanced c' (r + pc'.debt) := by
  cases pc with
  | clear =>
    simp only [LogicClient.detachShard] at h
    split at h
    · cases h
    · rename_i sh hsh
      split at h
      · rename_i hs
        cases h
        -- the lost stream is paid for by the pending subtraction
        refine Balanced.setStream _ hb hsh ?_ ?_ ?_ ?_
        all_goals simp [DetachPc.debt, hs] <;> omega
      · cases h
        exact hb
  | readClosing =>
    simp only [LogicClient.detachShard, Option.ite_none_left_eq_some] at h
    obtain ⟨rfl, rfl⟩ := by simpa using h.2
    split
    · -- a closing client gives up counting
      rename_i hc
      exact { hb with count := fun hc' => by simp [hc] at hc' }
    · exact hb
  | sub =>
    cases h
    have hbal (hc : c.closing = false) : c.attached - 1 + r.adds = c.bound + r.subs := by
      have := hb.count hc
      simp only [DetachPc.debt, Debt.add_adds, Debt.add_subs] at this
      omega
    split
    · -- below zero: the client was not complete before, so another call is checking
      rename_i hneg
      have hpos := hb.pos
      refine ⟨hpos, hbal, fun hc _ hs => hb.down hc ?_ hs, fun hc hle _ => ?_, hb.closed, hb.started⟩
      · omega
      · simp only at hle
        omega
    · split
      · rename_i hlt
        refine ⟨hb.pos, hbal, fun _ _ _ => ?_, fun _ hle _ => ?_, hb.closed, hb.started⟩
        · simp [DetachPc.debt]
        · simp only at hle
          omega
      · rename_i hle
        refine ⟨hb.pos, hbal, fun _ hlt _ => ?_, fun hc _ hs => hb.up hc ?_ hs, hb.closed, hb.started⟩
        · simp only at hlt
          omega
        · omega
  | readState =>
    cases h
    split
    · exact hb
    · rename_i hs
      exact { hb with down := fun _ _ hc => absurd hc hs }
  | loadState =>
    cases h
    split
    · rename_i hs
      exact { hb with down := fun _ _ hc => by simp [hs] at hc }
    · exact hb
  | storeState =>
    cases h
    refine ⟨hb.pos, hb.count, fun _ _ hs => (by cases hs), fun hc hle _ => ?_,
      fun _ hs => (by cases hs), hb.started⟩
    have := hg rfl hc
    simp only at hle
    omega
  | returned => simp [LogicClient.detachShard] at h

theorem Balanced.close {pc pc' : ClosePc} (hb : Balanced c (r + pc.debt))
    (h : c.close pc = some (c', pc')) : Balanced c' (r + pc'.debt) := by
  have hpos := hb.pos
  cases pc with
  | lock =>
    simp only [LogicClient.close, Option.ite_none_left_eq_some] at h
    obtain ⟨-, h⟩ := h
    split at h
    · cases h
      exact hb
    · cases h
      -- from here on only the last clause is about the client
      refine ⟨hpos, (by simp), (by simp), (by simp), fun _ _ => ?_, fun _ => rfl⟩
      simp [ClosePc.debt]
  | markClosed i =>
    simp only [LogicClient.close] at h
    split at h
    · cases h
      exact hb.of_same rfl rfl rfl rfl
    · rename_i sh hsh
      cases h
      exact hb.of_same (map_setShard hsh rfl) rfl rfl rfl
  | closeStop i =>
    simp only [LogicClient.close] at h
    split at h <;> cases h
    rename_i sh hsh
    exact hb.of_same (map_setShard hsh rfl) rfl rfl rfl
  | drain i dropped =>
    simp only [LogicClient.close] at h
    split at h
    · cases h
    · rename_i sh hsh
      split at h
      · cases h
        exact hb.of_same rfl rfl rfl rfl
      · cases h
        exact hb.of_same (map_setShard hsh rfl) rfl rfl rfl
  | loadState =>
    cases h
    split
    · rename_i hs
      exact ⟨hpos, hb.count, hb.down, hb.up, fun _ hc => (by simp [hs] at hc),
        fun hk => hb.started (by simp only [ClosePc.debt, Debt.add_closers]; omega)⟩
    · exact hb
  | storeState =>
    cases h
    have hc : c.closing = true := hb.started (by simp [ClosePc.debt])
    exact ⟨hpos, fun h => (by simp [hc] at h), fun _ _ h => (by cases h),
      fun h => (by simp [hc] at h), fun _ h => (by cases h), fun _ => hc⟩
  | closeQueue =>
    cases h
    exact hb.of_same rfl rfl rfl rfl
  | returned => simp [LogicClient.close] at h

/-! ## Whole runs -/

/-- The condition on a step: an attach stores `Connected` only if the client is not closing and all
shards still count as attached, and a detach stores `Disconnected` only if they do not, or the client
is closing. -/
def FreshStore (w : World LogicClient Goroutine) (t : Goroutine) : Prop :=
  (t.attachPc = some .storeState →
    w.shared.closing = false ∧ w.shared.shards.length ≤ w.shared.attached) ∧
  (t.detachPc = some .storeState →
    w.shared.closing = false → w.shared.attached < w.shared.shards.length)
  deriving Decidable

section

variable {t' : Goroutine}

/-- **One step keeps the balance**, if it stores the state it should. -/
theorem Step.balanced {new : List Goroutine} (h : Step cfg c t c' t' new)
    (hattach : t.attachPc = some .storeState → c.closing = false ∧ c.shards.length ≤ c.attached)
    (hdetach : t.detachPc = some .storeState → c.closing = false → c.attached < c.shards.length)
    (hb : Balanced c (r + t.debt)) : Balanced c' (r + t'.debt) := by
  cases h with
  | send h | flush h =>
    obtain ⟨hs, ha, hst, hc⟩ := h.sameConnection
    exact hb.of_same hs ha hst hc
  | attach h =>
    refine hb.attachShard ?_ h
    rintro rfl
    exact hattach rfl
  | detach h =>
    refine hb.detachShard ?_ h
    rintro rfl
    exact hdetach rfl
  | close h => exact hb.close h
  | loop h =>
    rename_i idx pc pc'
    by_cases hpc : ∃ batch stream pc₁, pc = .detach batch stream pc₁
    · obtain ⟨batch, stream, pc₁, rfl⟩ := hpc
      have hg : pc₁ = .storeState → c.closing = false → c.attached < c.shards.length := by
        rintro rfl
        exact hdetach rfl
      cases h with
      | detach h | detached h => exact Balanced.detachShard hb hg h
    · -- elsewhere the loop owes nothing, and it enters `detachShard` at its first place
      have hne : ∀ batch stream pc₁, pc ≠ .detach batch stream pc₁ :=
        fun b s p heq => hpc ⟨b, s, p, heq⟩
      obtain ⟨hs, ha, hst, hc⟩ := h.sameConnection hne
      have hd : (Goroutine.loop idx pc).debt = (Goroutine.loop idx pc').debt := by
        cases h with
        | detach | detached => exact absurd rfl (hne _ _ _)
        | collect => split <;> rfl
        | _ => rfl
      rw [← hd]
      exact hb.of_same hs ha hst hc

theorem Start.balanced {d : Debt} (h : Start c t c') (hb : Balanced c d) :
    Balanced c' d ∧ t.debt = {} := by
  cases h with
  | send | sendPooled | attach => exact ⟨hb.of_same rfl rfl rfl rfl, rfl⟩
  | detach | close => exact ⟨hb, rfl⟩

end

theorem balanced_initWorld (cfg : ClientConfig) :
    Balanced (initWorld cfg).shared (debts (initWorld cfg).threads) := by
  have hd : debts (initWorld cfg).threads = {} := by
    rw [← List.nil_append (initWorld cfg).threads, debts_append]
    · rfl
    · intro t ht
      obtain ⟨i, rfl⟩ := loop_of_mem_initWorld ht
      rfl
  have hbound : (initWorld cfg).shared.bound = 0 := by
    rw [bound, tally_eq_zero_iff]
    intro sh hsh
    rw [List.eq_of_mem_replicate hsh]
    rfl
  have hlen : (initWorld cfg).shared.shards.length = cfg.totalShards := by
    simp [initWorld, newLogicClient]
  have htotal := cfg.totalShards_pos
  refine ⟨by omega, fun _ => ?_, fun _ _ h => (by cases h), fun _ hle _ => ?_, fun h => (by cases h),
    fun h => ?_⟩
  · rw [hbound, hd]
    rfl
  · rw [hlen] at hle
    have : (initWorld cfg).shared.attached = 0 := rfl
    omega
  · rw [hd] at h
    cases h

theorem balanced_of_freshStore {cfg : ClientConfig} {as : List (Action Goroutine Choice)}
    {w : World LogicClient Goroutine}
    (hg : (logicClient cfg).Guarded (Program.ThreadGuard (fun _ _ => True) FreshStore)
      (initWorld cfg) as)
    (hrun : (logicClient cfg).run (initWorld cfg) as = some w) :
    Balanced w.shared (debts w.threads) := by
  refine Transition.run_invariant (J := fun w => Balanced w.shared (debts w.threads)) ?_
    (balanced_initWorld cfg) hg hrun
  intro w a w' hb hfresh hexec
  rcases Program.exec_cases hexec with ⟨t, c', rfl, hs, rfl⟩ | ⟨i, x, t, c', t', new, rfl, ht, hs, rfl⟩
  · obtain ⟨hb', ht⟩ := (start_of_start hs).balanced hb
    rw [debts_append (by simpa using ht)]
    exact hb'
  · have hstep := step_of_step hs
    obtain ⟨hattach, hdetach⟩ := hfresh t ht
    obtain ⟨r, hr, hset⟩ := debts_set ht
    have hnew : ∀ u ∈ new, u.debt = {} := by
      rcases hstep.new_eq with rfl | rfl
      · simp
      · simp [Goroutine.debt]
    rw [hr] at hb
    rw [debts_append hnew, hset]
    exact hstep.balanced hattach hdetach hb

/-! ## Quiet states -/

/-- The goroutine is not in the middle of `attachShard`, `detachShard` or `Close`. -/
def Goroutine.quiet : Goroutine → Bool
  | .attach _ _ (.returned _) | .detach _ _ .returned | .close .returned => true
  | .attach _ _ _ | .detach _ _ _ | .close _ | .loop _ (.detach _ _ _) => false
  | .send _ _ | .flush _ | .loop _ _ => true

/-- What a quiet client must look like: while it is open, the count is the number of streams and it
is connected iff every shard has one; once closed, it is disconnected. -/
structure Settled (c : LogicClient) : Prop where
  attached : c.closing = false → c.attached = c.bound
  connected : c.closing = false → (c.state = .connected ↔ ∀ sh ∈ c.shards, sh.stream ≠ none)
  closed : c.closing = true → c.state = .disconnected

theorem debt_of_quiet (h : t.quiet) : t.debt = {} := by
  cases t with
  | send | flush => rfl
  | attach idx stream pc | detach idx stream pc | close pc | loop idx pc =>
    cases pc <;> first | rfl | simp [Goroutine.quiet] at h

theorem quiet_close {pc : ClosePc} (h : (Goroutine.close pc).quiet) : pc = .returned := by
  cases pc <;> first | rfl | simp [Goroutine.quiet] at h

theorem exists_close_of_closers (h : 0 < t.debt.closers) :
    ∃ pc, t = .close pc ∧ pc ≠ .returned := by
  unfold Goroutine.debt at h
  split at h
  · rename_i pc
    cases pc <;> simp [AttachPc.debt] at h
  · rename_i pc
    refine ⟨pc, rfl, ?_⟩
    rintro rfl
    simp [ClosePc.debt] at h
  · rename_i pc
    cases pc <;> simp [DetachPc.debt] at h
  · rename_i pc
    cases pc <;> simp [DetachPc.debt] at h
  · simp at h

theorem bound_le_length (c : LogicClient) : c.bound ≤ c.shards.length := by
  rw [bound]
  induction c.shards with
  | nil => exact le_rfl
  | cons sh shs ih =>
    rw [tally_cons, List.length_cons]
    split <;> omega

theorem bound_eq_length_iff (c : LogicClient) :
    c.bound = c.shards.length ↔ ∀ sh ∈ c.shards, sh.stream ≠ none := by
  have hle (shs : List StreamShard) := bound_le_length { c with shards := shs }
  simp only [bound] at hle ⊢
  induction c.shards with
  | nil => simp
  | cons sh shs ih =>
    have := hle shs
    rw [tally_cons, List.length_cons, List.forall_mem_cons]
    by_cases hs : sh.stream = none
    · simp only [hs, if_true, ne_eq, not_true_eq_false, false_and, iff_false]
      omega
    · simp only [hs, if_false, ne_eq, not_false_eq_true, true_and]
      refine Iff.trans ?_ ih
      omega

/-- **The attachment state machine.** In every run whose stores are fresh, every quiet state is
settled, and once `Close` is through the client stays disconnected, quiet or not. -/
theorem settled_of_freshStore (cfg : ClientConfig) (as : List (Action Goroutine Choice))
    {w : World LogicClient Goroutine}
    (hg : (logicClient cfg).Guarded (Program.ThreadGuard (fun _ _ => True) FreshStore)
      (initWorld cfg) as)
    (hrun : (logicClient cfg).run (initWorld cfg) as = some w) :
    ((∀ t ∈ w.threads, t.quiet) → Settled w.shared) ∧
      (w.shared.closing = true → (∀ pc, .close pc ∈ w.threads → pc = .returned) →
        w.shared.state = .disconnected) := by
  have hb := balanced_of_freshStore hg hrun
  have hdone : w.shared.closing = true → (∀ pc, .close pc ∈ w.threads → pc = .returned) →
      w.shared.state = .disconnected := by
    intro hc hclose
    cases hs : w.shared.state with
    | disconnected => rfl
    | connected =>
      obtain ⟨t, ht, hpos⟩ := exists_of_tally_pos _ (hb.closed hc hs)
      obtain ⟨pc, rfl, hpc⟩ := exists_close_of_closers hpos
      exact absurd (hclose pc ht) hpc
  refine ⟨fun hq => ?_, hdone⟩
  have hd : debts w.threads = {} := by
    rw [← List.nil_append w.threads, debts_append fun t ht => debt_of_quiet (hq t ht)]
    rfl
  rw [hd] at hb
  have hatt (hc : w.shared.closing = false) : w.shared.attached = w.shared.bound := by
    have h := hb.count hc
    simpa using h
  refine ⟨hatt, fun hc => ?_, fun hc => hdone hc fun pc hpc => quiet_close (hq _ hpc)⟩
  rw [← bound_eq_length_iff]
  have hatt' := hatt hc
  have hle := bound_le_length w.shared
  constructor
  · intro hs
    by_contra hne
    exact absurd (hb.down hc (by omega) hs) (lt_irrefl 0)
  · intro heq
    cases hs : w.shared.state with
    | connected => rfl
    | disconnected => exact absurd (hb.up hc (by omega) hs) (lt_irrefl 0)

/-- A client of two shards. -/
def twoShards : ClientConfig := { oneShard with totalShards := 2, totalShards_pos := Nat.two_pos }

/-- Two calls, goroutines 2 and 3, attach a stream each with their steps mixed, and goroutine 5
detaches the stream of shard 0. -/
def attachBothDetach : List (Action Goroutine Choice) :=
  .start (.attach 0 0 .readClosing) :: steps 2 3 ++ .start (.attach 1 1 .readClosing) :: steps 3 2 ++
    steps 2 1 ++ steps 3 6 ++ .start (.detach 0 0 .clear) :: steps 5 6

/-- After `attachBothDetach`, goroutine 6 attaches a new stream to shard 0. -/
def attachAgain : List (Action Goroutine Choice) :=
  attachBothDetach ++ .start (.attach 0 2 .readClosing) :: steps 6 8

/-- With one of its two streams detached the client is settled and disconnected; with a new one
attached it is settled and connected again. -/
theorem settled_attachAgain :
    (∃ w, (logicClient twoShards).run (initWorld twoShards) attachBothDetach = some w ∧
      w.shared.attached = 1 ∧ w.shared.state = .disconnected ∧ Settled w.shared) ∧
    ∃ w, (logicClient twoShards).run (initWorld twoShards) attachAgain = some w ∧
      w.shared.attached = 2 ∧ w.shared.state = .connected ∧ Settled w.shared :=
  ⟨⟨_, rfl, rfl, rfl,
    (settled_of_freshStore twoShards attachBothDetach (by decide +kernel) rfl).1 (by decide)⟩,
   ⟨_, rfl, rfl, rfl,
    (settled_of_freshStore twoShards attachAgain (by decide +kernel) rfl).1 (by decide)⟩⟩

/-- An attach has read the count and is about to store `Connected` when its stream is detached. -/
def detachBeforeStore : List (Action Goroutine Choice) :=
  .start (.attach 0 0 .readClosing) :: steps 1 6 ++ .start (.detach 0 0 .clear) :: steps 2 4 ++
    steps 1 2

/-- In that run the client ends connected, with no call in progress and no stream attached. -/
theorem staleConnected_wrong : ∃ w,
    (logicClient oneShard).run (initWorld oneShard) detachBeforeStore = some w ∧
      (∀ t ∈ w.threads, t.quiet) ∧ w.shared.state = .connected ∧ w.shared.bound = 0 ∧
      ¬ Settled w.shared := by
  refine ⟨_, rfl, by decide, rfl, rfl, fun h => ?_⟩
  have := (h.connected rfl).mp rfl
  exact absurd (this _ (List.mem_singleton.mpr rfl)) (by decide)

end Sgate.Backend
