import Sgate.Lib.Interleaving
import Sgate.Routes.Frame
import Sgate.Backend.Queue

/-! # The logic client as a concurrent program

`LogicClient` forwards messages to one logic server over several streams. The Go methods are cut into
atomic steps: one lock-protected block, channel operation or atomic access each. The fields `entered`
and `delivered` and the call numbers are not in the code; they record the history, and no step reads
them. -/

namespace Sgate.Backend

open Interleaving Routes

/-! ## State -/

inductive LogicConnectionState
  | disconnected
  | connected
deriving DecidableEq

/-- A pooled message on its way: the pool object, the number of the `SendMessage` call that hands it
over and what the object holds. -/
structure Message where
  obj : ℕ
  call : ℕ
  data : StreamData
deriving DecidableEq

def Message.sessionId (m : Message) : String := m.data.sessionId

/-- `StreamShard`: the attached stream, the send channel, whether the shard was closed and whether
its stop channel was. `entered` lists everything that ever entered the channel. -/
structure StreamShard where
  stream : Option ℕ := none
  sendCh : List Message := []
  closed : Bool := false
  stopped : Bool := false
  entered : List Message := []

def StreamShard.put (sh : StreamShard) (m : Message) : StreamShard :=
  { sh with sendCh := sh.sendCh ++ [m], entered := sh.entered ++ [m] }

@[simp] theorem StreamShard.put_sendCh (sh : StreamShard) (m : Message) :
    (sh.put m).sendCh = sh.sendCh ++ [m] := rfl

@[simp] theorem StreamShard.put_entered (sh : StreamShard) (m : Message) :
    (sh.put m).entered = sh.entered ++ [m] := rfl

/-- What is fixed when a client is created. `hash` is the string hash shards are picked by. -/
structure ClientConfig where
  totalShards : ℕ
  sendChannelSize : ℕ
  queuePolicy : StreamQueueConfig
  hash : String → ℕ
  totalShards_pos : 0 < totalShards
  sendChannelSize_pos : 0 < sendChannelSize

/-- The memory the goroutines of one client share. `mu` says that `Close` holds the write lock,
`pool` lists the objects in the message pool, `droppedNoConn` is the gateway's drop counter and
`delivered` everything that was written to a stream. -/
structure LogicClient where
  state : LogicConnectionState
  mu : Bool
  closing : Bool
  attached : ℤ
  shards : List StreamShard
  messageQueue : StreamMessageQueue Message
  pool : List ℕ
  droppedNoConn : ℕ
  delivered : List Message
  nextObj : ℕ
  nextCall : ℕ
  nextStream : ℕ

/-! ## Goroutines -/

/-- Places in `StreamShard.SendMessage`: the closed check, the attempt to send, the wait for room and
the second closed check. -/
inductive ShardPc
  | checkClosed
  | trySend
  | waitSend
  | recheck
deriving DecidableEq

/-- The places of `StreamShard.SendMessage` at which the message is not in the channel yet. -/
def ShardPc.owns : ShardPc → Bool
  | .recheck => false
  | _ => true

/-- The places of `StreamShard.SendMessage` at which the message can enter the channel. -/
def ShardPc.sends : ShardPc → Bool
  | .trySend | .waitSend => true
  | .checkClosed | .recheck => false

theorem ShardPc.owns_of_sends {pc : ShardPc} (h : pc.sends) : pc.owns := by
  cases pc with
  | recheck => cases h
  | _ => rfl

@[simp] theorem ShardPc.owns_recheck : ShardPc.recheck.owns = false := rfl

/-- Places in `LogicClient.SendMessage` and its caller, who returns the message to the pool when the
call failed. -/
inductive SendPc
  | readState
  | readClosing
  | enqueue
  | shard (pc : ShardPc)
  | enqueueAfter
  | spawnFlush
  | failed (err : Err)
  | returned (err : Option Err)
deriving DecidableEq

/-- Places in `Flush`, with the count of consecutive failures and the message in hand. -/
inductive FlushPc
  | cas
  | loop (failures : ℕ)
  | check (failures : ℕ) (m : Message)
  | direct (failures : ℕ) (m : Message)
  | shard (failures : ℕ) (m : Message) (pc : ShardPc)
  | requeue (failures : ℕ) (m : Message)
  | reset
  | returned
deriving DecidableEq

/-- Places in `attachShard`. -/
inductive AttachPc
  | readClosing
  | swap
  | add
  | readAttached
  | readState
  | loadState
  | storeState
  | spawnFlush
  | returned (err : Option Err)
deriving DecidableEq

/-- Places in `detachShard`. -/
inductive DetachPc
  | clear
  | readClosing
  | sub
  | readState
  | loadState
  | storeState
  | returned
deriving DecidableEq

/-- Places in `Close`, with the shard being stopped and the count of messages drained from it. -/
inductive ClosePc
  | lock
  | markClosed (shard : ℕ)
  | closeStop (shard : ℕ)
  | drain (shard : ℕ) (dropped : ℕ)
  | loadState
  | storeState
  | closeQueue
  | returned
deriving DecidableEq

/-- Places in the send loop of a shard, with the batch in hand. -/
inductive LoopPc
  | select
  | collect (batch : List Message)
  | readStream (batch : List Message)
  | sendMsg (batch : List Message) (stream : ℕ)
  | detach (batch : List Message) (stream : ℕ) (pc : DetachPc)
  | countDropped (batch : List Message)
  | put (batch : List Message)
  | exited
deriving DecidableEq

inductive Goroutine
  | send (m : Message) (pc : SendPc)
  | flush (pc : FlushPc)
  | attach (idx stream : ℕ) (pc : AttachPc)
  | detach (idx stream : ℕ) (pc : DetachPc)
  | close (pc : ClosePc)
  | loop (idx : ℕ) (pc : LoopPc)
deriving DecidableEq

/-- What the environment decides at a step: which ready case of a `select` is taken, whether a
deadline has passed, whether a stream write fails. -/
inductive Choice
  | proceed
  | stop
  | timeout
  | fail
deriving DecidableEq

/-! ## Steps -/

/-- How a step of `StreamShard.SendMessage` continues. -/
inductive ShardNext
  | goto (pc : ShardPc)
  | done (err : Option Err)

/-- `StreamShard.SendMessage` on a channel of the given capacity. -/
def StreamShard.sendMessage (capacity : ℕ) (sh : StreamShard) (m : Message) :
    ShardPc → Choice → Option (StreamShard × ShardNext)
  | .checkClosed, _ => some (sh, if sh.closed then .done (some .notConnected) else .goto .trySend)
  | .trySend, _ =>
    if sh.sendCh.length < capacity then some (sh.put m, .goto .recheck)
    else some (sh, .goto .waitSend)
  -- a full channel: wait for room, for the shard to stop or for the deadline
  | .waitSend, .proceed =>
    if sh.sendCh.length < capacity then some (sh.put m, .goto .recheck) else none
  | .waitSend, .stop => if sh.stopped then some (sh, .done (some .notConnected)) else none
  | .waitSend, .timeout => some (sh, .done (some .sendTimeout))
  | .waitSend, .fail => none
  -- the message is in the channel, whatever the second check finds
  | .recheck, _ => some (sh, .done (if sh.closed then some .notConnected else none))

namespace LogicClient

def setShard (c : LogicClient) (i : ℕ) (sh : StreamShard) : LogicClient :=
  { c with shards := c.shards.set i sh }

def putStreamData (c : LogicClient) (m : Message) : LogicClient :=
  { c with pool := m.obj :: c.pool }

/-- Return the messages a queue operation discarded, oldest first. -/
def putAll (c : LogicClient) (ms : List Message) : LogicClient := ms.foldl putStreamData c

/-- The reconnect queue takes a message; what it discards goes to the pool. -/
def enqueue (c : LogicClient) (m : Message) (x : Choice) : Option (LogicClient × Option Err) :=
  match c.messageQueue.enqueue m (x = .timeout) with
  | none => none
  | some (q, gone, err) => some ({ c with messageQueue := q }.putAll gone, err)

def getShard (cfg : ClientConfig) (c : LogicClient) (sessionID : String) : ℕ :=
  cfg.hash sessionID % c.shards.length

/-- A step of `SendMessage` on the shard of the message's session. -/
def shardSend (cfg : ClientConfig) (c : LogicClient) (m : Message) (pc : ShardPc) (x : Choice) :
    Option (LogicClient × ShardNext) :=
  match c.shards[getShard cfg c m.sessionId]? with
  | none => none
  | some sh =>
    match sh.sendMessage cfg.sendChannelSize m pc x with
    | none => none
    | some (sh', next) => some (c.setShard (getShard cfg c m.sessionId) sh', next)

/-- `LogicClient.SendMessage`, and at the end the caller who returns a refused message. -/
def sendMessage (cfg : ClientConfig) (c : LogicClient) (m : Message) :
    SendPc → Choice → Option (LogicClient × SendPc × List Goroutine)
  -- the state is read without the lock
  | .readState, _ =>
    some (c, if c.state = .connected then .shard .checkClosed else .readClosing, [])
  | .readClosing, _ =>
    if c.mu then none
    else some (c, if c.closing then .failed .connectionClosing else .enqueue, [])
  | .enqueue, x =>
    match c.enqueue m x with
    | none => none
    | some (c', none) => some (c', .returned none, [])
    | some (c', some err) => some (c', .failed err, [])
  | .shard pc, x =>
    match shardSend cfg c m pc x with
    | none => none
    | some (c', .goto pc') => some (c', .shard pc', [])
    | some (c', .done none) => some (c', .returned none, [])
    | some (c', .done (some _)) => some (c', .enqueueAfter, [])
  -- the shard refused, so the message is queued and a flush is asked for
  | .enqueueAfter, x =>
    match c.enqueue m x with
    | none => none
    | some (c', none) => some (c', .spawnFlush, [])
    | some (c', some err) => some (c', .failed err, [])
  | .spawnFlush, _ => some (c, .returned none, [.flush .cas])
  -- the caller still owns a refused message
  | .failed err, _ => some (c.putStreamData m, .returned (some err), [])
  | .returned _, _ => none

/-- `maxFailures` of `Flush` -/
def maxFailures : ℕ := 100

/-- Set the flag that keeps flushers apart. -/
def setFlushing (c : LogicClient) (b : Bool) : LogicClient :=
  { c with messageQueue := { c.messageQueue with flushing := b } }

/-- `Flush`, with `SendMessageDirect` from place `direct` on. -/
def flush (cfg : ClientConfig) (c : LogicClient) :
    FlushPc → Choice → Option (LogicClient × FlushPc)
  -- one flusher at a time
  | .cas, _ =>
    if c.messageQueue.flushing then some (c, .returned)
    else some (c.setFlushing true, .loop 0)
  | .loop failures, _ =>
    if failures < maxFailures then
      match c.messageQueue.dequeue with
      | none => some (c, .reset)
      | some (m, q) => some ({ c with messageQueue := q }, .check failures m)
    else some (c, .reset)
  | .check failures m, _ =>
    if c.mu then none
    else if c.closing then some (c.putStreamData m, .reset)
    else some (c, if c.state = .connected then .direct failures m else .requeue failures m)
  | .direct failures m, _ =>
    if c.mu then none
    else if c.closing ∨ c.state ≠ .connected then some (c, .requeue failures m)
    else some (c, .shard failures m .checkClosed)
  | .shard failures m pc, x =>
    match shardSend cfg c m pc x with
    | none => none
    | some (c', .goto pc') => some (c', .shard failures m pc')
    | some (c', .done none) => some (c', .loop 0)
    | some (c', .done (some _)) => some (c', .requeue failures m)
  -- a full queue drops its oldest message to make room at the front
  | .requeue failures m, _ =>
    some ({ c with messageQueue := (c.messageQueue.requeueFront m).1 }.putAll
      (c.messageQueue.requeueFront m).2, .loop (failures + 1))
  | .reset, _ => some (c.setFlushing false, .returned)
  | .returned, _ => none

/-- `attachShard`. The client has as many shards as its `totalShards`. -/
def attachShard (c : LogicClient) (idx stream : ℕ) :
    AttachPc → Option (LogicClient × AttachPc × List Goroutine)
  | .readClosing =>
    if c.mu then none
    else some (c, if c.closing then .returned (some .connectionClosing) else .swap, [])
  | .swap =>
    match c.shards[idx]? with
    | none => some (c, .returned (some .notConnected), [])
    | some sh =>
      some (c.setShard idx { sh with stream := some stream },
        if sh.stream = none then .add else .readAttached, [])
  -- only a shard that had no stream is counted; a replaced stream keeps its place
  | .add => some ({ c with attached := c.attached + 1 }, .readAttached, [])
  | .readAttached =>
    some (c, if (c.shards.length : ℤ) ≤ c.attached then .readState else .returned none, [])
  | .readState => some (c, if c.state ≠ .connected then .loadState else .returned none, [])
  -- `setState` loads once more and stores only a change
  | .loadState => some (c, if c.state = .connected then .spawnFlush else .storeState, [])
  | .storeState => some ({ c with state := .connected }, .spawnFlush, [])
  | .spawnFlush => some (c, .returned none, [.flush .cas])
  | .returned _ => none

def detachShard (c : LogicClient) (idx stream : ℕ) : DetachPc → Option (LogicClient × DetachPc)
  | .clear =>
    match c.shards[idx]? with
    | none => none
    | some sh =>
      if sh.stream = some stream then
        some (c.setShard idx { sh with stream := none }, .readClosing)
      else some (c, .returned)
  | .readClosing => if c.mu then none else some (c, if c.closing then .returned else .sub)
  -- the branches look at the value the subtraction returned, not at the counter
  | .sub =>
    some ({ c with attached := c.attached - 1 }, if c.attached - 1 < 0 then .returned
      else if c.attached - 1 < c.shards.length then .readState
      else .returned)
  | .readState => some (c, if c.state = .connected then .loadState else .returned)
  | .loadState => some (c, if c.state = .disconnected then .returned else .storeState)
  | .storeState => some ({ c with state := .disconnected }, .returned)
  | .returned => none

/-- `Close`. The write lock is held from `markClosed 0` until the last shard is stopped. -/
def close (c : LogicClient) : ClosePc → Option (LogicClient × ClosePc)
  | .lock =>
    if c.mu then none
    else if c.closing then some (c, .returned)
    else some ({ c with mu := true, closing := true }, .markClosed 0)
  | .markClosed i =>
    match c.shards[i]? with
    | none => some ({ c with mu := false }, .loadState)
    | some sh => some (c.setShard i { sh with closed := true }, .closeStop i)
  | .closeStop i =>
    match c.shards[i]? with
    | none => none
    | some sh => some (c.setShard i { sh with stopped := true }, .drain i 0)
  -- what is left in the channel goes to the pool and is counted once
  | .drain i dropped =>
    match c.shards[i]? with
    | none => none
    | some sh =>
      match sh.sendCh with
      | [] => some ({ c with droppedNoConn := c.droppedNoConn + dropped }, .markClosed (i + 1))
      | m :: rest =>
        some ((c.setShard i { sh with sendCh := rest }).putStreamData m, .drain i (dropped + 1))
  | .loadState => some (c, if c.state = .disconnected then .closeQueue else .storeState)
  | .storeState => some ({ c with state := .disconnected }, .closeQueue)
  | .closeQueue =>
    some ({ c with messageQueue := { c.messageQueue with closed := true } }, .returned)
  | .returned => none

/-- `maxBatchCount` of the send loop -/
def maxBatchCount : ℕ := 256

/-- `startSendLoop`, `sendBatchInner` and the detach after a failed write. -/
def sendLoop (c : LogicClient) (idx : ℕ) : LoopPc → Choice → Option (LogicClient × LoopPc)
  | .select, .stop =>
    match c.shards[idx]? with
    | none => none
    | some sh => if sh.stopped then some (c, .exited) else none
  | .select, _ =>
    match c.shards[idx]? with
    | none => none
    | some sh =>
      match sh.sendCh with
      | [] => none
      | m :: rest => some (c.setShard idx { sh with sendCh := rest }, .collect [m])
  | .collect batch, _ =>
    match c.shards[idx]? with
    | none => none
    | some sh =>
      match sh.sendCh with
      | [] => some (c, .readStream batch)
      | m :: rest =>
        some (c.setShard idx { sh with sendCh := rest },
          if maxBatchCount ≤ (batch ++ [m]).length then .readStream (batch ++ [m])
          else .collect (batch ++ [m]))
  | .readStream batch, _ =>
    match c.shards[idx]? with
    | none => none
    | some sh =>
      match sh.stream with
      | none => some (c, .countDropped batch)
      | some stream => some (c, .sendMsg batch stream)
  | .sendMsg batch stream, .fail => some (c, .detach batch stream .clear)
  | .sendMsg batch _, _ => some ({ c with delivered := c.delivered ++ batch }, .put batch)
  | .detach batch stream pc, _ =>
    match c.detachShard idx stream pc with
    | none => none
    | some (c', .returned) => some (c', .countDropped batch)
    | some (c', pc') => some (c', .detach batch stream pc')
  | .countDropped batch, _ =>
    some ({ c with droppedNoConn := c.droppedNoConn + batch.length }, .put batch)
  | .put [], _ => some (c, .select)
  | .put (m :: rest), _ => some (c.putStreamData m, .put rest)
  | .exited, _ => none

/-! ## The program -/

def step (cfg : ClientConfig) (c : LogicClient) :
    Goroutine → Choice → Option (LogicClient × Goroutine × List Goroutine)
  | .send m pc, x => (sendMessage cfg c m pc x).map fun r => (r.1, .send m r.2.1, r.2.2)
  | .flush pc, x => (flush cfg c pc x).map fun r => (r.1, .flush r.2, [])
  | .attach idx stream pc, _ =>
    (attachShard c idx stream pc).map fun r => (r.1, .attach idx stream r.2.1, r.2.2)
  | .detach idx stream pc, _ =>
    (detachShard c idx stream pc).map fun r => (r.1, .detach idx stream r.2, [])
  | .close pc, _ => (close c pc).map fun r => (r.1, .close r.2, [])
  | .loop idx pc, x => (sendLoop c idx pc x).map fun r => (r.1, .loop idx r.2, [])

/-- The calls the environment makes. A sender first takes an object from the pool, or a new one if
the pool has none to give; every attached stream is a new one. Flushers and send loops are started by
the client itself. -/
def start (c : LogicClient) : Goroutine → Option LogicClient
  | .send m .readState =>
    if m.call ≠ c.nextCall then none
    else if m.obj = c.nextObj then
      some { c with nextObj := c.nextObj + 1, nextCall := c.nextCall + 1 }
    else if m.obj ∈ c.pool then
      some { c with pool := c.pool.erase m.obj, nextCall := c.nextCall + 1 }
    else none
  | .attach _ stream .readClosing =>
    if stream = c.nextStream then some { c with nextStream := c.nextStream + 1 } else none
  | .detach idx _ .clear => if idx < c.shards.length then some c else none
  | .close .lock => some c
  | _ => none

/-- A client after `NewLogicClient` and `initAccepted`. -/
def newLogicClient (cfg : ClientConfig) : LogicClient where
  state := .disconnected
  mu := false
  closing := false
  attached := 0
  shards := List.replicate cfg.totalShards {}
  messageQueue := .newStreamMessageQueue cfg.queuePolicy
  pool := []
  droppedNoConn := 0
  delivered := []
  nextObj := 0
  nextCall := 0
  nextStream := 0

end LogicClient

def logicClient (cfg : ClientConfig) : Program LogicClient Goroutine Choice where
  start := LogicClient.start
  step := LogicClient.step cfg

def initWorld (cfg : ClientConfig) : World LogicClient Goroutine :=
  ⟨.newLogicClient cfg, (List.range cfg.totalShards).map fun i => .loop i .select⟩

/-! ## Schedules -/

def oneShard : ClientConfig where
  totalShards := 1
  sendChannelSize := 2
  queuePolicy := {}
  hash := fun _ => 0
  totalShards_pos := by decide
  sendChannelSize_pos := by decide

/-- The goroutine at position `i` makes `n` steps and is never delayed by a full channel. -/
def steps (i n : ℕ) : List (Action Goroutine Choice) := List.replicate n (.step i .proceed)

/-- A stream is attached to shard 0 of a new one-shard client: goroutine 1 is the call, which starts
the flusher 2. -/
def attachFirst : List (Action Goroutine Choice) := .start (.attach 0 0 .readClosing) :: steps 1 8

/-- The first and the second call of `SendMessage` for session `"s"`. -/
def callOne : Goroutine := .send ⟨0, 0, { sessionId := "s" }⟩ .readState

@[inherit_doc callOne]
def callTwo : Goroutine := .send ⟨1, 1, { sessionId := "s" }⟩ .readState

end Sgate.Backend
