import Mathlib.Data.List.Basic
import Mathlib.Data.Rat.Defs
import Mathlib.Algebra.Order.Ring.Rat

/-! # The reconnect queue

`StreamMessageQueue` buffers messages for a logic server while its streams are down. Every operation
also returns the messages it discards, since the code returns those to the object pool. -/

namespace Sgate.Backend

/-- What the backend reports to its callers. -/
inductive Err
  | notConnected
  | connectionClosing
  | queueFull
  | sendTimeout
  | backpressure
deriving DecidableEq

/-- What a full queue does. `drop` also stands for every unknown policy name, which the code treats
alike. -/
inductive QueuePolicy
  | drop
  | block
  | timeout
  | backpressure
deriving DecidableEq

/-- The queue settings as configured, before defaults. -/
structure StreamQueueConfig where
  policy : QueuePolicy := .drop
  maxSize : ℤ := 0
  backpressureThreshold : ℚ := 0

def defaultStreamQueueMaxSize : ℕ := 100000

def defaultBackpressureThreshold : ℚ := 4 / 5

/-- The reconnect queue, oldest message first. `flushing` keeps flushers from running side by side,
`closed` makes callers that wait for room give up. -/
structure StreamMessageQueue (α : Type) where
  queue : List α
  maxSize : ℕ
  policy : QueuePolicy
  backpressureThreshold : ℚ
  flushing : Bool
  closed : Bool
  /-- Every queue has room for a message. -/
  maxSize_pos : 0 < maxSize

namespace StreamMessageQueue

variable {α : Type}

/-- The size limit of a configuration; a limit that is not positive means the default. -/
def sizeLimit (size : ℤ) : ℕ := if size ≤ 0 then defaultStreamQueueMaxSize else size.toNat

theorem sizeLimit_pos (size : ℤ) : 0 < sizeLimit size := by
  unfold sizeLimit
  split
  · decide
  · omega

/-- `NewStreamMessageQueue`: an empty queue with the configured limits or their defaults. -/
def newStreamMessageQueue (cfg : StreamQueueConfig) : StreamMessageQueue α where
  queue := []
  maxSize := sizeLimit cfg.maxSize
  policy := cfg.policy
  backpressureThreshold :=
    if cfg.backpressureThreshold ≤ 0 ∨ 1 < cfg.backpressureThreshold then
      defaultBackpressureThreshold
    else cfg.backpressureThreshold
  flushing := false
  closed := false
  maxSize_pos := sizeLimit_pos cfg.maxSize

def full (q : StreamMessageQueue α) : Bool := decide (q.maxSize ≤ q.queue.length)

/-- The queue is filled up to the back-pressure threshold. -/
def backpressured (q : StreamMessageQueue α) : Bool :=
  decide (q.backpressureThreshold ≤ (q.queue.length : ℚ) / q.maxSize)

def withQueue (q : StreamMessageQueue α) (ms : List α) : StreamMessageQueue α :=
  { q with queue := ms }

@[simp] theorem withQueue_queue (q : StreamMessageQueue α) (ms : List α) :
    (q.withQueue ms).queue = ms := rfl

/-- Make room by discarding the oldest message of a full queue; the discarded message comes
second. -/
def dropOldest (q : StreamMessageQueue α) : StreamMessageQueue α × List α :=
  if q.full then (q.withQueue q.queue.tail, q.queue.take 1) else (q, [])

def push (q : StreamMessageQueue α) (m : α) : StreamMessageQueue α := q.withQueue (q.queue ++ [m])

/-- `Enqueue`: the queue afterwards, the messages discarded for room and the error, if any. A caller
that has to wait for room and whose deadline has not `expired` makes no step. -/
def enqueue (q : StreamMessageQueue α) (m : α) (expired : Bool) :
    Option (StreamMessageQueue α × List α × Option Err) :=
  match q.policy with
  | .block | .timeout =>
    if q.full then
      if q.closed then some (q, [], some .connectionClosing)
      else if expired then some (q, [], some .queueFull)
      else none
    else some (q.push m, [], none)
  | .backpressure =>
    if q.backpressured then some (q, [], some .backpressure)
    else some (q.dropOldest.1.push m, q.dropOldest.2, none)
  | .drop => some (q.dropOldest.1.push m, q.dropOldest.2, none)

def dequeue (q : StreamMessageQueue α) : Option (α × StreamMessageQueue α) :=
  match q.queue with
  | [] => none
  | m :: rest => some (m, q.withQueue rest)

/-- `RequeueFront`: put a message back in front, discarding the oldest message of a full queue. -/
def requeueFront (q : StreamMessageQueue α) (m : α) : StreamMessageQueue α × List α :=
  (q.dropOldest.1.withQueue (m :: q.dropOldest.1.queue), q.dropOldest.2)

theorem dropOldest_spec (q : StreamMessageQueue α) :
    ∃ rest, q.dropOldest.2 ++ rest = q.queue ∧ q.dropOldest.1 = q.withQueue rest := by
  unfold dropOldest
  split
  · exact ⟨q.queue.tail, by cases q.queue <;> rfl, rfl⟩
  · exact ⟨q.queue, rfl, rfl⟩

theorem dropOldest_of_not_full {q : StreamMessageQueue α} (h : ¬ q.full = true) :
    q.dropOldest = (q, []) := if_neg h

variable {q q' : StreamMessageQueue α} {err : Option Err} {gone : List α} {expired : Bool}

/-- The outcome of `Enqueue`: an error that changes nothing, or the message behind a queue with room;
a queue with room discards nothing. -/
theorem enqueue_eq {m : α} (h : q.enqueue m expired = some (q', gone, err)) :
    (∃ e, err = some e ∧ q' = q ∧ gone = []) ∨
    (err = none ∧ q' = q.dropOldest.1.push m ∧ gone = q.dropOldest.2) := by
  unfold enqueue at h
  cases hp : q.policy <;> simp only [hp] at h
  case drop =>
    cases h
    exact .inr ⟨rfl, rfl, rfl⟩
  case backpressure =>
    split at h
    · cases h
      exact .inl ⟨_, rfl, rfl, rfl⟩
    · cases h
      exact .inr ⟨rfl, rfl, rfl⟩
  all_goals
    -- waiting callers: an error when closed or too late, else the queue had room
    split at h
    · split at h
      · cases h
        exact .inl ⟨_, rfl, rfl, rfl⟩
      · split at h <;> cases h
        exact .inl ⟨_, rfl, rfl, rfl⟩
    · rename_i hroom
      cases h
      rw [dropOldest_of_not_full hroom]
      exact .inr ⟨rfl, rfl, rfl⟩

/-- **What `Enqueue` can do**: report an error and change nothing, or append the message behind what
is left of the queue. -/
theorem enqueue_cases {m : α} (h : q.enqueue m expired = some (q', gone, err)) :
    (∃ e, err = some e ∧ q' = q ∧ gone = []) ∨
    (err = none ∧ ∃ rest, gone ++ rest = q.queue ∧ q' = q.withQueue (rest ++ [m])) := by
  obtain herr | ⟨rfl, rfl, rfl⟩ := enqueue_eq h
  · exact .inl herr
  · obtain ⟨rest, hrest, hq⟩ := q.dropOldest_spec
    exact .inr ⟨rfl, rest, hrest, by rw [hq]; rfl⟩

theorem requeueFront_spec (q : StreamMessageQueue α) (m : α) :
    ∃ rest, (q.requeueFront m).2 ++ rest = q.queue ∧
      (q.requeueFront m).1 = q.withQueue (m :: rest) := by
  obtain ⟨rest, hrest, hq⟩ := q.dropOldest_spec
  exact ⟨rest, hrest, by rw [requeueFront, hq]; rfl⟩

end StreamMessageQueue

end Sgate.Backend
