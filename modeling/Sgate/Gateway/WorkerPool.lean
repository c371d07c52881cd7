import Sgate.Lib.Channel
import Sgate.Lib.Interleaving
import Sgate.Routes.Frame

/-! # The worker pool

Each worker has a bounded channel, chosen by a hash of the connection. `Submit` and `SubmitWS` count the
task first, then try to send it and count it as dropped if there is no room; other goroutines run in
between. Counters do not overflow. -/

namespace Sgate.WorkerPool

open Routes Transition Interleaving
open List hiding take

/-- `pipelineTaskData` and `wsPipelineTaskData`, as far as they have the same fields. -/
structure TaskData where
  connectionID : String
  data : Bytes
  message : StreamData
  deriving DecidableEq

inductive PipelineTask
  | task (t : TaskData)
  | wsTask (t : TaskData)
  deriving DecidableEq

def PipelineTask.connectionID : PipelineTask → String
  | .task t => t.connectionID
  | .wsTask t => t.connectionID

structure PipelineWorker (cap : ℕ) where
  taskCh : Channel PipelineTask cap
  executing : Option PipelineTask

inductive Submission
  | counted (task : PipelineTask)
  | full (task : PipelineTask)

/-- `PipelineWorkerPool`, with what was accepted and what was finished so far, oldest first. -/
structure PipelineWorkerPool (cap : ℕ) where
  workers : List (PipelineWorker cap)
  shards : ℕ
  submitted : ℕ
  dropped : ℕ
  messagesDroppedFull : ℕ
  underWay : List Submission
  accepted : List PipelineTask
  finished : List PipelineTask

def defaultPipelineWorkerQueueSize : ℤ := 65536

/-- The number of shards; `procs` is `GOMAXPROCS`. -/
def shardCount (procs : ℕ) (workerShards : ℤ) : ℕ :=
  if workerShards ≤ 0 then procs * 4 else workerShards.toNat

def perShard (shards : ℕ) (workerQueueSize : ℤ) : ℕ :=
  let queueSize := if workerQueueSize ≤ 0 then defaultPipelineWorkerQueueSize else workerQueueSize
  max (queueSize.toNat / shards) 1

def PipelineWorker.idle (cap : ℕ) : PipelineWorker cap := ⟨.empty, none⟩

def newPool (cap shards : ℕ) : PipelineWorkerPool cap where
  workers := List.replicate shards (.idle cap)
  shards := shards
  submitted := 0
  dropped := 0
  messagesDroppedFull := 0
  underWay := []
  accepted := []
  finished := []

def newPipelineWorkerPool (procs : ℕ) (workerShards workerQueueSize : ℤ) :
    PipelineWorkerPool (perShard (shardCount procs workerShards) workerQueueSize) :=
  newPool _ (shardCount procs workerShards)

/-- `getShard`. The number of shards is converted to 32 bits; if that gives zero, the division
panics. -/
def getShard (fnv1a32 : String → ℕ) (shards : ℕ) (connectionID : String) : Option ℕ :=
  if shards % 2 ^ 32 = 0 then none else some (fnv1a32 connectionID % (shards % 2 ^ 32))

variable {i : ℕ} {connectionID : String}

theorem lt_of_getShard {fnv1a32 : String → ℕ} {shards : ℕ}
    (h : getShard fnv1a32 shards connectionID = some i) : i < shards := by
  unfold getShard at h
  split at h <;> cases h
  rename_i hpos
  calc fnv1a32 connectionID % (shards % 2 ^ 32) < shards % 2 ^ 32 :=
        Nat.mod_lt _ (Nat.pos_of_ne_zero hpos)
    _ ≤ shards := Nat.mod_le ..

variable {cap : ℕ} (fnv1a32 : String → ℕ)

/-! ## Steps -/

namespace PipelineWorkerPool

def setWorker (p : PipelineWorkerPool cap) (i : ℕ) (w : PipelineWorker cap) : PipelineWorkerPool cap :=
  { p with workers := p.workers.set i w }

def leave (p : PipelineWorkerPool cap) (k : ℕ) : PipelineWorkerPool cap :=
  { p with underWay := p.underWay.eraseIdx k }

/-- `Submit` and `SubmitWS`, first statement. -/
def submit (p : PipelineWorkerPool cap) (task : PipelineTask) : PipelineWorkerPool cap :=
  { p with submitted := p.submitted + 1, underWay := p.underWay ++ [.counted task] }

/-- The `select` of a submission: send, or go on to count the task as dropped. -/
def trySend (p : PipelineWorkerPool cap) (k : ℕ) (task : PipelineTask) :
    Option (PipelineWorkerPool cap) := do
  let shard ← getShard fnv1a32 p.shards task.connectionID
  let w ← p.workers[shard]?
  match w.taskCh.trySend task with
  | some ch =>
    return { (p.setWorker shard { w with taskCh := ch }).leave k with accepted := p.accepted ++ [task] }
  | none => return { p with underWay := p.underWay.set k (.full task) }

/-- The end of a submission for which there was no room. -/
def drop (p : PipelineWorkerPool cap) (k : ℕ) : PipelineWorkerPool cap :=
  { p.leave k with dropped := p.dropped + 1, messagesDroppedFull := p.messagesDroppedFull + 1 }

/-- `runWorker` takes a task from its channel. -/
def take (p : PipelineWorkerPool cap) (i : ℕ) : Option (PipelineWorkerPool cap) := do
  let w ← p.workers[i]?
  if w.executing.isSome then none
  else
    let (task, ch) ← w.taskCh.tryRecv
    return p.setWorker i ⟨ch, some task⟩

/-- `processTask` and `processWSTask` return. -/
def finish (p : PipelineWorkerPool cap) (i : ℕ) : Option (PipelineWorkerPool cap) := do
  let w ← p.workers[i]?
  let task ← w.executing
  return { p.setWorker i { w with executing := none } with finished := p.finished ++ [task] }

def executing (p : PipelineWorkerPool cap) : List PipelineTask :=
  p.workers.flatMap fun w => w.executing.toList

def queued (p : PipelineWorkerPool cap) : List PipelineTask :=
  p.workers.flatMap fun w => w.taskCh.buffer

end PipelineWorkerPool

open PipelineWorkerPool

inductive PoolAction
  /-- A call of `Submit` or `SubmitWS` begins. -/
  | submit (task : PipelineTask)
  /-- A submission that is under way makes a step. -/
  | proceed (k : ℕ)
  /-- A worker takes a task. -/
  | take (i : ℕ)
  /-- A worker has finished its task. -/
  | finish (i : ℕ)
  deriving DecidableEq

def stepPool (p : PipelineWorkerPool cap) : PoolAction → Option (PipelineWorkerPool cap)
  | .submit task => some (p.submit task)
  | .proceed k =>
    match p.underWay[k]? with
    | none => none
    | some (.counted task) => p.trySend fnv1a32 k task
    | some (.full _) => some (p.drop k)
  | .take i => p.take i
  | .finish i => p.finish i

def PoolAction.isWorker : PoolAction → Bool
  | .take _ => true
  | .finish _ => true
  | _ => false

variable {fnv1a32} {p p' : PipelineWorkerPool cap} {a : PoolAction}

theorem stepPool_cases (h : stepPool fnv1a32 p a = some p') :
    (∃ task, p' = p.submit task) ∨
    (∃ k task i w ch, p.underWay[k]? = some (.counted task) ∧
      getShard fnv1a32 p.shards task.connectionID = some i ∧ p.workers[i]? = some w ∧
      w.taskCh.trySend task = some ch ∧
      p' = { (p.setWorker i { w with taskCh := ch }).leave k with accepted := p.accepted ++ [task] }) ∨
    (∃ k task, p.underWay[k]? = some (.counted task) ∧
      p' = { p with underWay := p.underWay.set k (.full task) }) ∨
    (∃ k task, p.underWay[k]? = some (.full task) ∧ p' = p.drop k) ∨
    (∃ i w task ch, a = .take i ∧ p.workers[i]? = some w ∧ w.executing = none ∧
      w.taskCh.tryRecv = some (task, ch) ∧ p' = p.setWorker i ⟨ch, some task⟩) ∨
    (∃ i w task, a = .finish i ∧ p.workers[i]? = some w ∧ w.executing = some task ∧
      p' = { p.setWorker i { w with executing := none } with finished := p.finished ++ [task] }) := by
  cases a with
  | submit task => exact .inl ⟨task, (Option.some.inj h).symm⟩
  | proceed k =>
    simp only [stepPool] at h
    split at h
    · cases h
    · rename_i task hk
      obtain ⟨i, hi, h⟩ := Option.bind_eq_some_iff.mp h
      obtain ⟨w, hw, h⟩ := Option.bind_eq_some_iff.mp h
      split at h
      · rename_i ch hch
        exact .inr (Or.inl ⟨k, task, i, w, ch, hk, hi, hw, hch, (Option.some.inj h).symm⟩)
      · exact .inr (Or.inr (Or.inl ⟨k, task, hk, (Option.some.inj h).symm⟩))
    · rename_i task hk
      exact .inr (Or.inr (Or.inr (Or.inl ⟨k, task, hk, (Option.some.inj h).symm⟩)))
  | take i =>
    obtain ⟨w, hw, h⟩ := Option.bind_eq_some_iff.mp h
    split at h
    · cases h
    · rename_i hidle
      obtain ⟨⟨task, ch⟩, hch, h⟩ := Option.bind_eq_some_iff.mp h
      exact .inr (Or.inr (Or.inr (Or.inr (Or.inl ⟨i, w, task, ch, rfl, hw,
        Option.not_isSome_iff_eq_none.mp hidle, hch, (Option.some.inj h).symm⟩))))
  | finish i =>
    obtain ⟨w, hw, h⟩ := Option.bind_eq_some_iff.mp h
    obtain ⟨task, htask, h⟩ := Option.bind_eq_some_iff.mp h
    exact .inr (Or.inr (Or.inr (Or.inr (Or.inr ⟨i, w, task, rfl, hw, htask,
      (Option.some.inj h).symm⟩))))

/-! ## The invariant -/

def onShard (fnv1a32 : String → ℕ) (shards i : ℕ) (t : PipelineTask) : Bool :=
  getShard fnv1a32 shards t.connectionID = some i

def InOrder (fnv1a32 : String → ℕ) (p : PipelineWorkerPool cap) (i : ℕ) (w : PipelineWorker cap) :
    Prop :=
  p.finished.filter (onShard fnv1a32 p.shards i) ++ w.executing.toList ++ w.taskCh.buffer =
    p.accepted.filter (onShard fnv1a32 p.shards i)

structure Sound (fnv1a32 : String → ℕ) (p : PipelineWorkerPool cap) : Prop where
  length_workers : p.workers.length = p.shards
  sharded : ∀ t ∈ p.accepted, ∃ i, getShard fnv1a32 p.shards t.connectionID = some i
  ordered : ∀ {i w}, p.workers[i]? = some w → InOrder fnv1a32 p i w
  finished_subset : p.finished ⊆ p.accepted
  conserved : p.submitted =
    p.dropped + p.finished.length + p.executing.length + p.queued.length + p.underWay.length

theorem sound_newPool (fnv1a32 : String → ℕ) (cap shards : ℕ) :
    Sound fnv1a32 (newPool cap shards) where
  length_workers := length_replicate
  sharded t ht := absurd ht not_mem_nil
  ordered {i w} hw := by
    obtain rfl := eq_of_mem_replicate (mem_of_getElem? hw)
    rfl
  finished_subset := nil_subset _
  conserved := by
    have hnil : ∀ n : ℕ, (replicate n (PipelineWorker.idle cap)).flatMap
        (fun w => w.executing.toList) = [] := by simp [PipelineWorker.idle]
    have hnil' : ∀ n : ℕ, (replicate n (PipelineWorker.idle cap)).flatMap
        (fun w => w.taskCh.buffer) = [] := by simp [PipelineWorker.idle, Channel.empty]
    simp [newPool, executing, queued, hnil, hnil']

variable {w : PipelineWorker cap}

theorem length_setWorker (hw : p.workers[i]? = some w) (w' : PipelineWorker cap) :
    (p.setWorker i w').executing.length + w.executing.toList.length =
        p.executing.length + w'.executing.toList.length ∧
      (p.setWorker i w').queued.length + w.taskCh.buffer.length =
        p.queued.length + w'.taskCh.buffer.length := by
  simp only [executing, queued, length_flatMap]
  exact ⟨tally_set _ w' hw, tally_set _ w' hw⟩

variable {task : PipelineTask} {ch : Channel PipelineTask cap}

theorem length_take (hw : p.workers[i]? = some w) (hidle : w.executing = none)
    (hch : w.taskCh.tryRecv = some (task, ch)) :
    (p.setWorker i ⟨ch, some task⟩).executing.length = p.executing.length + 1 ∧
      (p.setWorker i ⟨ch, some task⟩).queued.length + 1 = p.queued.length := by
  obtain ⟨hexecuting, hqueued⟩ := length_setWorker hw ⟨ch, some task⟩
  rw [hidle] at hexecuting
  rw [Channel.buffer_of_tryRecv hch] at hqueued
  simp only [Option.toList_none, Option.toList_some, length_nil, length_cons]
    at hexecuting hqueued
  omega

theorem length_finish (hw : p.workers[i]? = some w) (htask : w.executing = some task) :
    (p.setWorker i { w with executing := none }).executing.length + 1 = p.executing.length ∧
      (p.setWorker i { w with executing := none }).queued.length = p.queued.length := by
  obtain ⟨hexecuting, hqueued⟩ := length_setWorker hw { w with executing := none }
  rw [htask] at hexecuting
  simp only [Option.toList_none, Option.toList_some, length_nil, length_cons]
    at hexecuting hqueued
  omega

variable {t : PipelineTask}

theorem filter_append_onShard (xs : List PipelineTask) {shards i j : ℕ}
    (ht : getShard fnv1a32 shards t.connectionID = some i) :
    (xs ++ [t]).filter (onShard fnv1a32 shards j) =
      xs.filter (onShard fnv1a32 shards j) ++ if i = j then [t] else [] := by
  rw [filter_append, filter_singleton, onShard, ht]
  simp

theorem getElem?_setWorker {i j : ℕ} {w w' v : PipelineWorker cap} (hw : p.workers[i]? = some w)
    (hv : (p.workers.set i w')[j]? = some v) :
    i = j ∧ v = w' ∨ i ≠ j ∧ p.workers[j]? = some v := by
  have hlt : i < p.workers.length := (List.getElem?_eq_some_iff.mp hw).1
  by_cases h : i = j
  · subst h
    rw [getElem?_set_self hlt] at hv
    exact .inl ⟨rfl, (Option.some.inj hv).symm⟩
  · rw [getElem?_set_ne h] at hv
    exact .inr ⟨h, hv⟩

section

variable (h : Sound fnv1a32 p)
include h

theorem Sound.submit (task : PipelineTask) :
    Sound fnv1a32 (p.submit task) where
  __ := h
  conserved := by
    have hold := h.conserved
    show p.submitted + 1 = p.dropped + p.finished.length + p.executing.length + p.queued.length +
      (p.underWay ++ [Submission.counted task]).length
    rw [length_append, length_singleton]
    omega

theorem Sound.accept {k i : ℕ} (hk : p.underWay[k]? = some (.counted task))
    (hi : getShard fnv1a32 p.shards task.connectionID = some i) (hw : p.workers[i]? = some w)
    (hch : w.taskCh.trySend task = some ch) :
    Sound fnv1a32 { (p.setWorker i { w with taskCh := ch }).leave k with
      accepted := p.accepted ++ [task] } where
  length_workers := (length_set ..).trans h.length_workers
  sharded t ht := by
    rcases of_mem_snoc ht with ht | rfl
    · exact h.sharded t ht
    · exact ⟨i, hi⟩
  ordered {j v} hv := by
    show _ ++ _ ++ _ = (p.accepted ++ [task]).filter (onShard fnv1a32 p.shards j)
    rw [filter_append_onShard _ hi]
    rcases getElem?_setWorker hw hv with ⟨rfl, rfl⟩ | ⟨hij, hv⟩
    · have hold : _ ++ _ ++ _ = _ := h.ordered hw
      rw [if_pos rfl, ← hold]
      simp only [Channel.buffer_of_trySend hch, append_assoc]
      rfl
    · rw [if_neg hij, append_nil]
      exact h.ordered hv
  finished_subset := List.Subset.trans h.finished_subset (subset_append_left ..)
  conserved := by
    have hold := h.conserved
    have hk' := List.length_eraseIdx_of_lt (List.getElem?_eq_some_iff.mp hk).1
    have hlt : k < p.underWay.length := (List.getElem?_eq_some_iff.mp hk).1
    obtain ⟨hexecuting, hqueued⟩ := length_setWorker hw { w with taskCh := ch }
    simp only [Channel.buffer_of_trySend hch, length_append, length_singleton]
      at hexecuting hqueued
    show p.submitted = p.dropped + p.finished.length +
      (p.setWorker i { w with taskCh := ch }).executing.length +
      (p.setWorker i { w with taskCh := ch }).queued.length + (p.underWay.eraseIdx k).length
    omega

theorem Sound.foundFull (k : ℕ) (s : Submission) :
    Sound fnv1a32 { p with underWay := p.underWay.set k s } where
  __ := h
  conserved := by
    rw [length_set]
    exact h.conserved

theorem Sound.drop {k : ℕ} {s : Submission} (hk : p.underWay[k]? = some s) :
    Sound fnv1a32 (p.drop k) where
  __ := h
  conserved := by
    have hold := h.conserved
    have hlt : k < p.underWay.length := (List.getElem?_eq_some_iff.mp hk).1
    show p.submitted = (p.dropped + 1) + p.finished.length + p.executing.length + p.queued.length +
      (p.underWay.eraseIdx k).length
    rw [length_eraseIdx_of_lt hlt]
    omega

theorem Sound.take {i : ℕ} {w : PipelineWorker cap} {task : PipelineTask}
    {ch : Channel PipelineTask cap} (hw : p.workers[i]? = some w) (hidle : w.executing = none)
    (hch : w.taskCh.tryRecv = some (task, ch)) :
    Sound fnv1a32 (p.setWorker i ⟨ch, some task⟩) where
  length_workers := (length_set ..).trans h.length_workers
  __ := h
  ordered {j v} hv := by
    rcases getElem?_setWorker hw hv with ⟨rfl, rfl⟩ | ⟨-, hv⟩
    · have hold : _ ++ w.executing.toList ++ w.taskCh.buffer = _ := h.ordered hw
      rw [hidle, Channel.buffer_of_tryRecv hch] at hold
      show p.finished.filter (onShard fnv1a32 p.shards i) ++ [task] ++ ch.buffer =
        p.accepted.filter (onShard fnv1a32 p.shards i)
      simpa using hold
    · exact h.ordered hv
  conserved := by
    have hold := h.conserved
    obtain ⟨hexecuting, hqueued⟩ := length_take hw hidle hch
    show p.submitted = p.dropped + p.finished.length + _ + _ + p.underWay.length
    omega

theorem Sound.onShard_executing (hw : p.workers[i]? = some w)
    (ht : task ∈ w.executing.toList ++ w.taskCh.buffer) :
    task ∈ p.accepted ∧ getShard fnv1a32 p.shards task.connectionID = some i := by
  have hold : _ ++ w.executing.toList ++ w.taskCh.buffer = _ := h.ordered hw
  have hmem : task ∈ p.accepted.filter (onShard fnv1a32 p.shards i) := by
    rw [← hold, append_assoc]
    exact mem_append_right _ ht
  obtain ⟨haccepted, hshard⟩ := mem_filter.mp hmem
  exact ⟨haccepted, of_decide_eq_true hshard⟩

theorem Sound.finish (hw : p.workers[i]? = some w) (htask : w.executing = some task) :
    Sound fnv1a32 { p.setWorker i { w with executing := none } with
      finished := p.finished ++ [task] } := by
  have hmem : task ∈ w.executing.toList ++ w.taskCh.buffer := by simp [htask]
  obtain ⟨haccepted, hi⟩ := h.onShard_executing hw hmem
  refine ⟨(length_set ..).trans h.length_workers, h.sharded, ?_, ?_, ?_⟩
  · intro j v hv
    show (p.finished ++ [task]).filter (onShard fnv1a32 p.shards j) ++ _ ++ _ =
      p.accepted.filter (onShard fnv1a32 p.shards j)
    rw [filter_append_onShard _ hi]
    rcases getElem?_setWorker hw hv with ⟨rfl, rfl⟩ | ⟨hij, hv⟩
    · have hold : _ ++ w.executing.toList ++ w.taskCh.buffer = _ := h.ordered hw
      rw [htask] at hold
      simpa using hold
    · rw [if_neg hij, append_nil]
      exact h.ordered hv
  · intro t ht
    rcases of_mem_snoc ht with ht | rfl
    · exact h.finished_subset ht
    · exact haccepted
  · have hold := h.conserved
    obtain ⟨hexecuting, hqueued⟩ := length_finish hw htask
    show p.submitted = p.dropped + (p.finished ++ [task]).length +
      (p.setWorker i { w with executing := none }).executing.length +
      (p.setWorker i { w with executing := none }).queued.length + p.underWay.length
    rw [length_append, length_singleton]
    omega

theorem Sound.step (hs : stepPool fnv1a32 p a = some p') : Sound fnv1a32 p' := by
  rcases stepPool_cases hs with ⟨task, rfl⟩ | ⟨k, task, i, w, ch, hk, hi, hw, hch, rfl⟩ |
    ⟨k, task, -, rfl⟩ | ⟨k, task, hk, rfl⟩ | ⟨i, w, task, ch, -, hw, hidle, hch, rfl⟩ |
    ⟨i, w, task, -, hw, htask, rfl⟩
  · exact h.submit task
  · exact h.accept hk hi hw hch
  · exact h.foundFull k _
  · exact h.drop hk
  · exact h.take hw hidle hch
  · exact h.finish hw htask

end

/-! ## The tasks of one connection -/

def ofConnection (connectionID : String) (t : PipelineTask) : Bool := t.connectionID = connectionID

theorem Sound.of_mem (h : Sound fnv1a32 p) (ht : t ∈ p.executing ∨ t ∈ p.queued) :
    t ∈ p.accepted := by
  obtain ⟨w, hw, htw⟩ : ∃ w ∈ p.workers, t ∈ w.executing.toList ++ w.taskCh.buffer := by
    rcases ht with ht | ht
    · obtain ⟨w, hw, htw⟩ := mem_flatMap.mp ht
      exact ⟨w, hw, mem_append_left _ htw⟩
    · obtain ⟨w, hw, htw⟩ := mem_flatMap.mp ht
      exact ⟨w, hw, mem_append_right _ htw⟩
  obtain ⟨i, hi⟩ := mem_iff_getElem?.mp hw
  exact (h.onShard_executing hi htw).1

theorem filter_ofConnection {i shards : ℕ} (hi : getShard fnv1a32 shards connectionID = some i)
    (xs : List PipelineTask) :
    (xs.filter (onShard fnv1a32 shards i)).filter (ofConnection connectionID) =
      xs.filter (ofConnection connectionID) := by
  rw [filter_filter]
  refine filter_congr fun t _ => ?_
  by_cases h : t.connectionID = connectionID
  · subst h
    simp [ofConnection, onShard, hi]
  · simp [ofConnection, h]

theorem Sound.connection (h : Sound fnv1a32 p) (connectionID : String) :
    p.finished.filter (ofConnection connectionID) ++ p.executing.filter (ofConnection connectionID) ++
        p.queued.filter (ofConnection connectionID) = p.accepted.filter (ofConnection connectionID) ∧
      (p.executing.filter (ofConnection connectionID)).length ≤ 1 := by
  cases hi : getShard fnv1a32 p.shards connectionID with
  | none =>
    -- no task of the connection was ever accepted
    have hnone : ∀ xs : List PipelineTask, xs ⊆ p.accepted →
        xs.filter (ofConnection connectionID) = [] := by
      intro xs hxs
      rw [filter_eq_nil_iff]
      intro t ht hid
      obtain ⟨i, ht'⟩ := h.sharded t (hxs ht)
      rw [of_decide_eq_true hid, hi] at ht'
      cases ht'
    rw [hnone p.finished h.finished_subset, hnone p.executing fun t ht => h.of_mem (Or.inl ht),
      hnone p.queued fun t ht => h.of_mem (Or.inr ht), hnone p.accepted (List.Subset.refl _)]
    exact ⟨rfl, Nat.zero_le _⟩
  | some i =>
    have hlt : i < p.workers.length := h.length_workers ▸ lt_of_getShard hi
    obtain ⟨w, hw⟩ : ∃ w, p.workers[i]? = some w := ⟨_, getElem?_eq_getElem hlt⟩
    -- the other workers have nothing of the connection
    have hother : ∀ j v, p.workers[j]? = some v → j ≠ i →
        ∀ t ∈ v.executing.toList ++ v.taskCh.buffer, ofConnection connectionID t = false := by
      intro j v hv hj t ht
      have ht' := (h.onShard_executing hv ht).2
      by_contra hid
      rw [of_decide_eq_true (Bool.eq_true_of_not_eq_false hid), hi] at ht'
      exact hj (Option.some.inj ht').symm
    have hexecuting : p.executing.filter (ofConnection connectionID) =
        w.executing.toList.filter (ofConnection connectionID) :=
      filter_flatMap_of_only (fun w : PipelineWorker cap => w.executing.toList)
        (ofConnection connectionID) hw
        fun j v hv hj t ht => hother j v hv hj t (mem_append_left _ ht)
    have hqueued : p.queued.filter (ofConnection connectionID) =
        w.taskCh.buffer.filter (ofConnection connectionID) :=
      filter_flatMap_of_only (fun w : PipelineWorker cap => w.taskCh.buffer)
        (ofConnection connectionID) hw
        fun j v hv hj t ht => hother j v hv hj t (mem_append_right _ ht)
    have hshard : _ ++ w.executing.toList ++ w.taskCh.buffer = _ := h.ordered hw
    rw [hexecuting, hqueued]
    constructor
    · rw [← filter_ofConnection hi p.finished, ← filter_ofConnection hi p.accepted, ← hshard]
      simp only [filter_append]
    · exact (length_filter_le ..).trans (by cases w.executing <;> simp)

/-! ## All tasks are executed -/

/-- The workers alone can finish all that was accepted. -/
def Drains (fnv1a32 : String → ℕ) (p : PipelineWorkerPool cap) : Prop :=
  ∃ as p', (∀ a ∈ as, PoolAction.isWorker a = true) ∧ run (stepPool fnv1a32) p as = some p' ∧
    p'.accepted = p.accepted ∧ p'.executing = [] ∧ p'.queued = []

theorem Drains.of_step (ha : a.isWorker = true) (hs : stepPool fnv1a32 p a = some p')
    (haccepted : p'.accepted = p.accepted) (h : Drains fnv1a32 p') : Drains fnv1a32 p := by
  obtain ⟨as, q, has, hrun, haccepted', hdone⟩ := h
  refine ⟨a :: as, q, ?_, run_cons_iff.mpr ⟨p', hs, hrun⟩, haccepted'.trans haccepted, hdone⟩
  intro b hb
  rcases mem_cons.mp hb with rfl | hb
  · exact ha
  · exact has b hb

theorem exists_finish (h : p.executing ≠ []) : ∃ i p', stepPool fnv1a32 p (.finish i) = some p' ∧
    p'.accepted = p.accepted ∧ p'.executing.length + 1 = p.executing.length ∧
      p'.queued.length = p.queued.length := by
  obtain ⟨t, ht⟩ := exists_mem_of_ne_nil _ h
  obtain ⟨w, hmem, htw⟩ := mem_flatMap.mp ht
  obtain ⟨i, hw⟩ := mem_iff_getElem?.mp hmem
  have htask : w.executing = some t := Option.mem_toList.mp htw
  refine ⟨i, { p.setWorker i { w with executing := none } with finished := p.finished ++ [t] }, ?_, rfl,
    length_finish hw htask⟩
  simp [stepPool, finish, hw, htask]

theorem exists_take (hidle : p.executing = []) (h : p.queued ≠ []) :
    ∃ i p', stepPool fnv1a32 p (.take i) = some p' ∧ p'.accepted = p.accepted ∧
      p'.executing.length = p.executing.length + 1 ∧ p'.queued.length + 1 = p.queued.length := by
  obtain ⟨t, ht⟩ := exists_mem_of_ne_nil _ h
  obtain ⟨w, hmem, htw⟩ := mem_flatMap.mp ht
  obtain ⟨i, hw⟩ := mem_iff_getElem?.mp hmem
  have hnone : w.executing = none :=
    Option.toList_eq_nil_iff.mp (flatMap_eq_nil_iff.mp hidle w hmem)
  obtain ⟨⟨task, ch⟩, hch⟩ : ∃ r, w.taskCh.tryRecv = some r := by
    refine Option.ne_none_iff_exists'.mp fun hempty => ?_
    rw [Channel.tryRecv_eq_none_iff.mp hempty] at htw
    exact not_mem_nil htw
  refine ⟨i, p.setWorker i ⟨ch, some task⟩, ?_, rfl, length_take hw hnone hch⟩
  simp [stepPool, take, hw, hnone, hch]

theorem drains (p : PipelineWorkerPool cap) : Drains fnv1a32 p := by
  -- each step of a worker brings a task closer to its end: a queued task has two steps to go
  induction hn : p.executing.length + 2 * p.queued.length using Nat.strong_induction_on
    generalizing p with
  | _ n ih =>
    by_cases hexecuting : p.executing = []
    · by_cases hqueued : p.queued = []
      · exact ⟨[], p, fun a ha => absurd ha not_mem_nil, rfl, rfl, hexecuting, hqueued⟩
      · obtain ⟨i, p', hs, haccepted, hlength, hlength'⟩ := exists_take hexecuting hqueued
        exact .of_step rfl hs haccepted (ih _ (by omega) p' rfl)
    · obtain ⟨i, p', hs, haccepted, hlength, hlength'⟩ := exists_finish hexecuting
      exact .of_step rfl hs haccepted (ih _ (by omega) p' rfl)

/-- **Order and conservation.** For every configuration of the pool and at every moment of every
interleaving: the accepted tasks of a connection are, in the order in which they were accepted, those
that were finished, the one that is executed, if any, and those that are queued, and the workers alone
can finish all of them; and every submission has been dropped, finished, is executed, is queued or is
still under way. -/
theorem pool_orders_and_conserves (fnv1a32 : String → ℕ) (procs : ℕ)
    (workerShards workerQueueSize : ℤ) (as : List PoolAction)
    (p : PipelineWorkerPool (perShard (shardCount procs workerShards) workerQueueSize))
    (hrun : run (stepPool fnv1a32) (newPipelineWorkerPool procs workerShards workerQueueSize) as =
      some p) :
    (∀ connectionID, p.finished.filter (ofConnection connectionID) ++
          p.executing.filter (ofConnection connectionID) ++
          p.queued.filter (ofConnection connectionID) = p.accepted.filter (ofConnection connectionID) ∧
        (p.executing.filter (ofConnection connectionID)).length ≤ 1) ∧
    (∃ bs p', (∀ b ∈ bs, PoolAction.isWorker b = true) ∧ run (stepPool fnv1a32) p bs = some p' ∧
      ∀ connectionID, p'.finished.filter (ofConnection connectionID) =
        p.accepted.filter (ofConnection connectionID)) ∧
    p.submitted =
      p.dropped + p.finished.length + p.executing.length + p.queued.length + p.underWay.length := by
  have hkeep : ∀ {q q' : PipelineWorkerPool (perShard (shardCount procs workerShards) workerQueueSize)}
      {bs}, Sound fnv1a32 q → run (stepPool fnv1a32) q bs = some q' → Sound fnv1a32 q' := by
    intro q q' bs hq hbs
    exact invariant_of_run (fun _ _ _ h hs => h.step hs) hq hbs
  have hsound : Sound fnv1a32 p := hkeep (sound_newPool fnv1a32 _ _) hrun
  refine ⟨hsound.connection, ?_, hsound.conserved⟩
  obtain ⟨bs, p', hbs, hrun', haccepted, hexecuting, hqueued⟩ := drains p
  refine ⟨bs, p', hbs, hrun', fun connectionID => ?_⟩
  have hall := ((hkeep hsound hrun').connection connectionID).1
  rw [hexecuting, hqueued, haccepted] at hall
  simpa using hall

def sampleTask (connectionID : String) (data : Bytes) : TaskData := ⟨connectionID, data, {}⟩

/-- A pool of one worker with room for one task: the second task of the connection finds no room, the
third is accepted. -/
def crowded : List PoolAction :=
  [.submit (.task (sampleTask "a" [1])), .proceed 0, .submit (.wsTask (sampleTask "a" [2])),
    .proceed 0, .take 0, .proceed 0, .submit (.task (sampleTask "a" [3])), .proceed 0]

theorem pool_orders_and_conserves_crowded :
    ∃ p, run (stepPool String.length) (newPipelineWorkerPool 1 1 1) crowded = some p ∧
      p.dropped = 1 ∧ p.executing = [.task (sampleTask "a" [1])] ∧
      p.executing.filter (ofConnection "a") ++ p.queued.filter (ofConnection "a") =
        p.accepted.filter (ofConnection "a") ∧
      p.submitted =
        p.dropped + p.finished.length + p.executing.length + p.queued.length + p.underWay.length := by
  refine ⟨_, rfl, by decide, by decide, ?_, ?_⟩
  · exact ((pool_orders_and_conserves String.length 1 1 1 crowded _ rfl).1 "a").1
  · exact (pool_orders_and_conserves String.length 1 1 1 crowded _ rfl).2.2

/-- A task is counted before it is anywhere. -/
theorem counted_nowhere :
    (run (stepPool String.length) (newPipelineWorkerPool 1 1 1) [.submit (.task (sampleTask "a" [1]))]).map
      (fun p => (p.submitted, p.dropped + p.finished.length + p.executing.length + p.queued.length)) =
        some (1, 0) := by
  decide

end Sgate.WorkerPool
