import Sgate.Backend.Steps

/-! # No stranded message

A message in the reconnect queue of a connected client needs a goroutine that *covers* the queue: a
flusher that will still dequeue, or somebody about to start one. `queue_empty_of_covered` says when
none is left behind. -/

namespace Sgate.Backend

open Interleaving LogicClient Goroutine

/-! ## Cover -/

/-- One for a flusher that will try to dequeue again. -/
def FlushPc.cover : FlushPc → ℕ
  | .cas | .check _ _ | .direct _ _ | .shard _ _ _ | .requeue _ _ => 1
  | .loop failures => if failures < maxFailures then 1 else 0
  | .reset | .returned => 0

def Goroutine.cover : Goroutine → ℕ
  | .send _ .spawnFlush => 1
  | .attach _ _ .spawnFlush => 1
  | .flush pc => pc.cover
  | .send _ _ | .attach _ _ _ | .detach _ _ _ | .close _ | .loop _ _ => 0

/-- The step of the goroutine leaves messages in the queue and no cover of its own. -/
def Goroutine.leaves (c : LogicClient) : Goroutine → Bool
  | .send _ .enqueue => true
  | .flush .cas => c.messageQueue.flushing && !c.messageQueue.queue.isEmpty
  | .flush (.requeue failures _) => decide (maxFailures ≤ failures + 1)
  | _ => false

/-- The condition on a step: on a connected client, a goroutine that leaves messages in the queue
leaves them to another one that covers it. -/
def LeavesCovered (w : World LogicClient Goroutine) (t : Goroutine) : Prop :=
  w.shared.state = .connected → t.leaves w.shared = true → t.cover < tally Goroutine.cover w.threads
  deriving Decidable

/-- The invariant: the client is not closing, and if it is connected with messages in the queue then
`n` goroutines cover it. -/
structure Covered (c : LogicClient) (n : ℕ) : Prop where
  open_ : c.closing = false
  cover : c.state = .connected → c.messageQueue.queue ≠ [] → 0 < n

variable {cfg : ClientConfig} {c c' : LogicClient} {t t' : Goroutine} {m : Message} {n : ℕ}

theorem SendPc.cover_of_owns {pc : SendPc} (h : pc.owns) : (send m pc).cover = 0 := by
  cases pc with
  | spawnFlush => simp [SendPc.owns] at h
  | _ => rfl

theorem FlushPc.cover_of_hand {pc : FlushPc} (h : pc.hand = some m) : pc.cover = 1 := by
  cases pc with
  | cas | loop | reset | returned => simp [FlushPc.hand] at h
  | check | direct | shard | requeue => rfl

theorem Covered.of_same {k k' : ℕ} (h : Covered c (n + k)) (hc : c'.closing = c.closing)
    (hs : c'.state = c.state) (hq : c'.messageQueue.queue = c.messageQueue.queue) (hk : k ≤ k') :
    Covered c' (n + k') := by
  refine ⟨by rw [hc]; exact h.open_, fun hst hne => ?_⟩
  rw [hs] at hst
  rw [hq] at hne
  have := h.cover hst hne
  omega

variable {new : List Goroutine}

theorem SendStep.covered {pc pc' : SendPc} (h : SendStep cfg c m pc c' pc' new)
    (hb : Covered c (n + (send m pc).cover))
    (hg : c.state = .connected → (send m pc).leaves c = true → (send m pc).cover < n + (send m pc).cover) :
    Covered c' (n + (send m pc').cover + tally cover new) := by
  cases h with
  | hold hpc hpc' =>
    rw [SendPc.cover_of_owns hpc] at hb
    exact hb.of_same rfl rfl rfl (Nat.zero_le _)
  | enqueue hq =>
    refine ⟨hb.open_, fun hs _ => ?_⟩
    have := hg hs rfl
    omega
  | enqueueAfter hq =>
    -- the sender itself is going to start a flusher
    refine ⟨hb.open_, fun _ _ => ?_⟩
    simp only [cover]
    omega
  | put hpc hsh | ok | late | spawn | putBack err => exact hb.of_same rfl rfl rfl le_rfl

theorem FlushStep.covered {pc pc' : FlushPc} (h : FlushStep cfg c pc c' pc')
    (hb : Covered c (n + pc.cover))
    (hg : c.state = .connected → (flush pc).leaves c = true → pc.cover < n + pc.cover) :
    Covered c' (n + pc'.cover) := by
  cases h with
  | lose hf =>
    refine ⟨hb.open_, fun hs hne => ?_⟩
    -- the flusher that holds the flag may have seen the queue empty already
    have := hg hs (by simpa [leaves, hf] using hne)
    omega
  | win | put | late | ok | reset => exact hb.of_same rfl rfl rfl le_rfl
  | dequeue hf hq =>
    refine ⟨hb.open_, fun _ _ => ?_⟩
    simp only [FlushPc.cover]
    omega
  | empty hq => exact ⟨hb.open_, fun _ hne => absurd hq hne⟩
  | giveUp hf =>
    refine hb.of_same rfl rfl rfl ?_
    simp only [FlushPc.cover]
    split <;> omega
  | discard hc => exact absurd hc (by simp [hb.open_])
  | hold hpc hpc' =>
    refine hb.of_same rfl rfl rfl ?_
    rw [FlushPc.cover_of_hand hpc, FlushPc.cover_of_hand hpc']
  | requeue hq =>
    rename_i failures m gone rest
    refine ⟨hb.open_, fun hs _ => ?_⟩
    by_cases hf : failures + 1 < maxFailures
    · simp only [FlushPc.cover, hf, if_true]
      omega
    -- the last failure in a row: the flusher gives up
    · have := hg hs (by simpa [leaves] using hf)
      omega

variable {idx stream : ℕ}

/-- A step of `attachShard`: when it connects the client, it goes on to start a flusher. -/
theorem Covered.attachShard {pc pc' : AttachPc}
    (hb : Covered c (n + (Goroutine.attach idx stream pc).cover))
    (h : c.attachShard idx stream pc = some (c', pc', new)) :
    Covered c' (n + (Goroutine.attach idx stream pc').cover + tally Goroutine.cover new) := by
  cases pc with
  | storeState =>
    cases h
    -- the client is connected only now, and the flusher comes next
    refine ⟨hb.open_, fun _ _ => ?_⟩
    simp only [Goroutine.cover]
    omega
  | spawnFlush =>
    cases h
    exact hb.of_same rfl rfl rfl le_rfl
  | _ =>
    obtain ⟨hsame, -, -, hstate⟩ := sameMessages_attachShard h
    rw [Nat.add_assoc]
    exact hb.of_same hsame.closing (hstate (by simp)) (congrArg _ hsame.messageQueue) (Nat.zero_le _)

theorem Covered.detachShard {pc pc' : DetachPc} (hb : Covered c n)
    (h : c.detachShard idx stream pc = some (c', pc')) : Covered c' n := by
  cases pc with
  | storeState =>
    cases h
    exact ⟨hb.open_, fun hs => by cases hs⟩
  | _ =>
    obtain ⟨hsame, -, hstate⟩ := sameMessages_detachShard h
    exact hb.of_same (k := 0) hsame.closing (hstate (by simp)) (congrArg _ hsame.messageQueue) le_rfl

theorem LoopStep.covered {idx : ℕ} {pc pc' : LoopPc} (h : LoopStep c idx pc c' pc')
    (hb : Covered c n) : Covered c' n := by
  cases h with
  | detach h | detached h => exact hb.detachShard h
  | exit | collected | noStream | stream | fail | done => exact hb
  | first | collect | sent | count | put => exact ⟨hb.open_, hb.cover⟩

/-! ## Whole runs -/

/-- The runs considered: `Close` is never called, and queues are left covered. -/
abbrev CoveredRun (cfg : ClientConfig) (as : List (Action Goroutine Choice)) : Prop :=
  (logicClient cfg).Guarded
    (Program.ThreadGuard (fun _ t => t.isClose = false) LeavesCovered) (initWorld cfg) as

/-- No goroutine is in `Close`, and the queue is covered by those counted. -/
def CoveredWorld (w : World LogicClient Goroutine) : Prop :=
  (∀ t ∈ w.threads, t.isClose = false) ∧ Covered w.shared (tally Goroutine.cover w.threads)

section

/-- **One step keeps the queue covered.** -/
theorem Step.covered {new : List Goroutine} (h : Step cfg c t c' t' new) (hclose : t.isClose = false)
    (hb : Covered c (n + t.cover))
    (hg : c.state = .connected → t.leaves c = true → t.cover < n + t.cover) :
    t'.isClose = false ∧ Covered c' (n + t'.cover + tally Goroutine.cover new) := by
  cases h with
  | send h | flush h => exact ⟨rfl, h.covered hb hg⟩
  | attach h => exact ⟨rfl, hb.attachShard h⟩
  | detach h => exact ⟨rfl, hb.detachShard h⟩
  | close h => cases hclose
  | loop h => exact ⟨rfl, h.covered hb⟩

theorem coveredWorld_initWorld (cfg : ClientConfig) : CoveredWorld (initWorld cfg) := by
  refine ⟨fun t ht => ?_, rfl, fun h => by cases h⟩
  obtain ⟨i, rfl⟩ := loop_of_mem_initWorld ht
  rfl

theorem CoveredWorld.exec {w w' : World LogicClient Goroutine} {a : Action Goroutine Choice}
    (hw : CoveredWorld w)
    (hg : Program.ThreadGuard (fun _ t => t.isClose = false) LeavesCovered w a)
    (h : (logicClient cfg).exec w a = some w') : CoveredWorld w' := by
  obtain ⟨hclose, hcov⟩ := hw
  rcases Program.exec_cases h with ⟨t, c', rfl, hs, rfl⟩ | ⟨i, x, t, c', t', new, rfl, ht, hs, rfl⟩
  · have hadd : Covered c' (tally cover w.threads + tally cover [t]) := by
      cases start_of_start hs with
      | send | sendPooled | attach | detach | close =>
        exact hcov.of_same (k := 0) rfl rfl rfl (Nat.zero_le _)
    refine ⟨fun u hu => ?_, by rw [tally_append]; exact hadd⟩
    rcases of_mem_snoc hu with hu | rfl
    · exact hclose u hu
    · exact hg
  · have hstep := step_of_step hs
    -- `n` goroutines other than the one that moves cover the queue
    obtain ⟨n, hn, hset⟩ := tally_split cover ht
    have hleave := hg t ht
    rw [LeavesCovered, hn] at hleave
    rw [hn] at hcov
    obtain ⟨hc', hcov'⟩ := hstep.covered (hclose t (List.mem_of_getElem? ht)) hcov hleave
    refine ⟨fun u hu => ?_, ?_⟩
    · rcases of_mem_set_append hu with hu | rfl | hu
      · exact hclose u hu
      · exact hc'
      · rcases hstep.new_eq with rfl | rfl
        · cases hu
        · rw [List.mem_singleton.mp hu]
          rfl
    · rw [tally_append, hset]
      exact hcov'

end

/-- The goroutine is no call of `SendMessage` or `attachShard` in progress and no flusher that was
started and has not ended. -/
def Goroutine.resting : Goroutine → Bool
  | .send _ (.returned _) | .attach _ _ (.returned _) | .flush .returned => true
  | .send _ _ | .attach _ _ _ | .flush _ => false
  | .detach _ _ _ | .close _ | .loop _ _ => true

theorem cover_of_resting {t : Goroutine} (h : t.resting) : t.cover = 0 := by
  cases t with
  | send m pc | attach idx stream pc | flush pc => cases pc <;> first | rfl | simp [resting] at h
  | detach | close | loop => rfl

/-- **No stranded message.** In every run of an open client that leaves its queue covered: when no
`SendMessage` or `attachShard` call is in progress and no flusher is running or started, a connected
client has an empty reconnect queue. -/
theorem queue_empty_of_covered (cfg : ClientConfig) (as : List (Action Goroutine Choice))
    {w : World LogicClient Goroutine} (hg : CoveredRun cfg as)
    (hrun : (logicClient cfg).run (initWorld cfg) as = some w)
    (hrest : ∀ t ∈ w.threads, t.resting) (hs : w.shared.state = .connected) :
    w.shared.messageQueue.queue = [] := by
  obtain ⟨-, hcov⟩ := Transition.run_invariant (fun _ _ _ hw hg h => hw.exec hg h)
    (coveredWorld_initWorld cfg) hg hrun
  by_contra hne
  have hpos := hcov.cover hs hne
  rw [(tally_eq_zero_iff _ _).mpr fun t ht => cover_of_resting (hrest t ht)] at hpos
  exact absurd hpos (lt_irrefl 0)

/-- A message is queued while the client is disconnected, and the flusher that the attach starts
sends it. -/
def queueThenAttach : List (Action Goroutine Choice) :=
  .start (.send ⟨0, 0, { sessionId := "s" }⟩ .readState) :: steps 1 3 ++
    .start (.attach 0 0 .readClosing) :: steps 2 8 ++ steps 3 9

/-- That message does not stay behind. -/
theorem queue_empty_queueThenAttach : ∃ w,
    (logicClient oneShard).run (initWorld oneShard) queueThenAttach = some w ∧
      w.shared.state = .connected ∧ w.shared.messageQueue.queue = [] :=
  ⟨_, rfl, rfl, queue_empty_of_covered oneShard queueThenAttach (by decide) rfl
    (by decide) rfl⟩

/-- A sender sees the client disconnected and is overtaken by an attach and its whole flush before it
queues its message. -/
def lateEnqueue : List (Action Goroutine Choice) :=
  .start (.send ⟨0, 0, { sessionId := "s" }⟩ .readState) :: steps 1 2 ++
    .start (.attach 0 0 .readClosing) :: steps 2 8 ++ steps 3 3 ++ steps 1 1

/-- In that run everything comes to rest with the client connected and the message in the queue. -/
theorem lateEnqueue_stranded : ∃ w,
    (logicClient oneShard).run (initWorld oneShard) lateEnqueue = some w ∧
      (∀ t ∈ w.threads, t.resting) ∧ w.shared.closing = false ∧ w.shared.state = .connected ∧
      w.shared.messageQueue.queue ≠ [] :=
  ⟨_, rfl, by decide, rfl, rfl, by decide⟩

end Sgate.Backend
