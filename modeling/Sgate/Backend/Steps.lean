import Sgate.Backend.Client

/-! # What the goroutines of a client can do

One inversion result per goroutine: `SendStep`, `FlushStep` and `LoopStep` list the effects of a step.
Later invariants are proved from these, and no step function is unfolded again. -/

namespace Sgate.Backend

open Interleaving LogicClient

/-! ## What the shared operations do -/

namespace LogicClient

variable {cfg : ClientConfig} {c c' : LogicClient} {m : Message}

/-- The client with other queue content, after `gone` was returned to the pool. -/
def withQueue (c : LogicClient) (ms gone : List Message) : LogicClient :=
  { c with
    messageQueue := c.messageQueue.withQueue ms
    pool := (gone.map Message.obj).reverse ++ c.pool }

theorem putAll_eq (c : LogicClient) (ms : List Message) :
    c.putAll ms = { c with pool := (ms.map Message.obj).reverse ++ c.pool } := by
  induction ms generalizing c with
  | nil => rfl
  | cons m ms ih =>
    rw [putAll, List.foldl_cons, ← putAll, ih]
    simp [putStreamData]

variable {x : Choice}

/-- **Queueing a message**: refused without effect, or appended behind what is left of the queue. -/
theorem enqueue_cases {err : Option Err} (h : c.enqueue m x = some (c', err)) :
    (∃ e, err = some e ∧ c' = c) ∨
    (err = none ∧ ∃ gone rest, gone ++ rest = c.messageQueue.queue ∧
      c' = c.withQueue (rest ++ [m]) gone) := by
  unfold enqueue at h
  split at h
  · cases h
  · rename_i q gone err' hq
    obtain ⟨rfl, rfl⟩ : c' = { c with messageQueue := q }.putAll gone ∧ err = err' := by
      simpa [eq_comm] using h
    rw [putAll_eq]
    rcases StreamMessageQueue.enqueue_cases hq with ⟨e, rfl, rfl, rfl⟩ | ⟨rfl, rest, hrest, rfl⟩
    · exact .inl ⟨e, rfl, rfl⟩
    · exact .inr ⟨rfl, gone, rest, hrest, rfl⟩

theorem setShard_self {i : ℕ} {sh : StreamShard} (h : c.shards[i]? = some sh) :
    c.setShard i sh = c := by
  obtain ⟨hi, rfl⟩ := List.getElem?_eq_some_iff.mp h
  simp [setShard]

/-- The effects of a step of `StreamShard.SendMessage`. -/
inductive ShardStep (cfg : ClientConfig) (c : LogicClient) (m : Message) :
    ShardPc → LogicClient → ShardNext → Prop
  /-- The caller moves on and keeps the message. -/
  | hold {pc pc' : ShardPc} (hpc : pc.owns) (hpc' : pc'.owns) : ShardStep cfg c m pc c (.goto pc')
  /-- The shard does not take the message. -/
  | refuse {pc : ShardPc} (hpc : pc.owns) (err : Err) : ShardStep cfg c m pc c (.done (some err))
  /-- The message enters the channel. -/
  | put {pc : ShardPc} {sh : StreamShard} (hpc : pc.sends)
      (hsh : c.shards[getShard cfg c m.sessionId]? = some sh) :
      ShardStep cfg c m pc (c.setShard (getShard cfg c m.sessionId) (sh.put m)) (.goto .recheck)
  /-- The shard is still open after the message entered the channel. -/
  | ok {sh : StreamShard} (hsh : c.shards[getShard cfg c m.sessionId]? = some sh)
      (hopen : sh.closed = false) : ShardStep cfg c m .recheck c (.done none)
  /-- The shard was closed after the message entered the channel. -/
  | late {sh : StreamShard} (hsh : c.shards[getShard cfg c m.sessionId]? = some sh)
      (hclosed : sh.closed = true) : ShardStep cfg c m .recheck c (.done (some .notConnected))

/-- **Every step of `StreamShard.SendMessage` is one of these.** -/
theorem shardStep_of_shardSend {pc : ShardPc} {next : ShardNext}
    (h : shardSend cfg c m pc x = some (c', next)) : ShardStep cfg c m pc c' next := by
  unfold shardSend at h
  split at h
  · cases h
  rename_i sh hsh
  split at h
  · cases h
  rename_i sh' next' hstep
  obtain ⟨rfl, rfl⟩ : c' = c.setShard (getShard cfg c m.sessionId) sh' ∧ next = next' := by
    simpa [eq_comm] using h
  cases pc with
  | checkClosed =>
    cases hstep
    rw [setShard_self hsh]
    split
    · exact .refuse rfl _
    · exact .hold rfl rfl
  | trySend =>
    simp only [StreamShard.sendMessage] at hstep
    split at hstep
    · cases hstep
      exact .put rfl hsh
    · cases hstep
      rw [setShard_self hsh]
      exact .hold rfl rfl
  | waitSend =>
    cases x with
    | proceed =>
      simp only [StreamShard.sendMessage, Option.ite_none_right_eq_some] at hstep
      obtain ⟨-, hstep⟩ := hstep
      cases hstep
      exact .put rfl hsh
    | stop =>
      simp only [StreamShard.sendMessage, Option.ite_none_right_eq_some] at hstep
      obtain ⟨-, hstep⟩ := hstep
      cases hstep
      rw [setShard_self hsh]
      exact .refuse rfl _
    | timeout =>
      cases hstep
      rw [setShard_self hsh]
      exact .refuse rfl _
    | fail => simp [StreamShard.sendMessage] at hstep
  | recheck =>
    cases hstep
    rw [setShard_self hsh]
    cases hclosed : sh.closed with
    | false => exact .ok hsh hclosed
    | true => exact .late hsh hclosed

end LogicClient

/-! ## Sending -/

/-- The places of a sender at which it owns its message. -/
def SendPc.owns : SendPc → Bool
  | .readState | .readClosing | .enqueue | .enqueueAfter | .failed _ => true
  | .shard pc => pc.owns
  | .spawnFlush | .returned _ => false

/-- The effects of a step of `SendMessage` and its caller. -/
inductive SendStep (cfg : ClientConfig) (c : LogicClient) (m : Message) :
    SendPc → LogicClient → SendPc → List Goroutine → Prop
  /-- The sender moves on and keeps the message. -/
  | hold {pc pc' : SendPc} (hpc : pc.owns) (hpc' : pc'.owns) : SendStep cfg c m pc c pc' []
  /-- The message is queued because the client was seen disconnected. -/
  | enqueue {gone rest : List Message} (h : gone ++ rest = c.messageQueue.queue) :
      SendStep cfg c m .enqueue (c.withQueue (rest ++ [m]) gone) (.returned none) []
  /-- The message is queued because the shard did not take it. -/
  | enqueueAfter {gone rest : List Message} (h : gone ++ rest = c.messageQueue.queue) :
      SendStep cfg c m .enqueueAfter (c.withQueue (rest ++ [m]) gone) .spawnFlush []
  /-- The message enters the channel of its shard. -/
  | put {pc : ShardPc} {sh : StreamShard} (hpc : pc.sends)
      (hsh : c.shards[getShard cfg c m.sessionId]? = some sh) :
      SendStep cfg c m (.shard pc) (c.setShard (getShard cfg c m.sessionId) (sh.put m))
        (.shard .recheck) []
  /-- The shard is still open after the message entered the channel. -/
  | ok {sh : StreamShard} (hsh : c.shards[getShard cfg c m.sessionId]? = some sh)
      (hopen : sh.closed = false) : SendStep cfg c m (.shard .recheck) c (.returned none) []
  /-- The shard was closed after the message entered the channel. -/
  | late {sh : StreamShard} (hsh : c.shards[getShard cfg c m.sessionId]? = some sh)
      (hclosed : sh.closed = true) : SendStep cfg c m (.shard .recheck) c .enqueueAfter []
  /-- A flusher is started for the queued message. -/
  | spawn : SendStep cfg c m .spawnFlush c (.returned none) [.flush .cas]
  /-- The caller returns a refused message to the pool. -/
  | putBack (err : Err) :
      SendStep cfg c m (.failed err) (c.putStreamData m) (.returned (some err)) []

variable {cfg : ClientConfig} {c c' : LogicClient} {m : Message} {x : Choice} {new : List Goroutine}

/-- **Every step of a sender is one of these.** -/
theorem sendStep_of_sendMessage {pc pc' : SendPc}
    (h : sendMessage cfg c m pc x = some (c', pc', new)) : SendStep cfg c m pc c' pc' new := by
  cases pc with
  | readState =>
    cases h
    exact .hold rfl (by split <;> rfl)
  | readClosing =>
    simp only [sendMessage, Option.ite_none_left_eq_some] at h
    obtain ⟨rfl, rfl, rfl⟩ := by simpa using h.2
    exact .hold rfl (by split <;> rfl)
  | enqueue | enqueueAfter =>
    simp only [sendMessage] at h
    split at h
    · cases h
    · rename_i c₁ henq
      cases h
      rcases enqueue_cases henq with ⟨e, he, -⟩ | ⟨-, gone, rest, hrest, rfl⟩
      · cases he
      · first | exact .enqueue hrest | exact .enqueueAfter hrest
    · rename_i c₁ err henq
      cases h
      rcases enqueue_cases henq with ⟨e, -, rfl⟩ | ⟨he, -⟩
      · exact .hold rfl rfl
      · cases he
  | shard pc =>
    simp only [sendMessage] at h
    split at h
    · cases h
    · rename_i hsend
      cases h
      cases shardStep_of_shardSend hsend with
      | hold hpc hpc' => exact .hold hpc hpc'
      | put hpc hsh => exact .put hpc hsh
    · rename_i hsend
      cases h
      cases shardStep_of_shardSend hsend with
      | ok hsh hopen => exact .ok hsh hopen
    · rename_i hsend
      cases h
      cases shardStep_of_shardSend hsend with
      | refuse hpc => exact .hold hpc rfl
      | late hsh hclosed => exact .late hsh hclosed
  | spawnFlush =>
    cases h
    exact .spawn
  | failed err =>
    cases h
    exact .putBack err
  | returned err => simp [sendMessage] at h

/-! ## Flushing -/

def FlushPc.hand : FlushPc → Option Message
  | .check _ m | .direct _ m | .requeue _ m => some m
  | .shard _ m pc => if pc.owns then some m else none
  | .cas | .loop _ | .reset | .returned => none

/-- The effects of a step of `Flush`. -/
inductive FlushStep (cfg : ClientConfig) (c : LogicClient) :
    FlushPc → LogicClient → FlushPc → Prop
  /-- Another flusher is running. -/
  | lose (h : c.messageQueue.flushing = true) : FlushStep cfg c .cas c .returned
  /-- The flusher starts. -/
  | win (h : c.messageQueue.flushing = false) : FlushStep cfg c .cas (c.setFlushing true) (.loop 0)
  /-- The flusher takes the oldest message. -/
  | dequeue {failures : ℕ} {m : Message} {rest : List Message} (hf : failures < maxFailures)
      (h : c.messageQueue.queue = m :: rest) :
      FlushStep cfg c (.loop failures) (c.withQueue rest []) (.check failures m)
  | empty {failures : ℕ} (h : c.messageQueue.queue = []) : FlushStep cfg c (.loop failures) c .reset
  /-- Too many failures in a row. -/
  | giveUp {failures : ℕ} (hf : maxFailures ≤ failures) : FlushStep cfg c (.loop failures) c .reset
  /-- The client is closing and the message in hand is discarded. -/
  | discard {failures : ℕ} {m : Message} (h : c.closing = true) :
      FlushStep cfg c (.check failures m) (c.putStreamData m) .reset
  /-- The flusher moves on and keeps the message. -/
  | hold {pc pc' : FlushPc} {m : Message} (hpc : pc.hand = some m) (hpc' : pc'.hand = some m) :
      FlushStep cfg c pc c pc'
  /-- The message enters the channel of its shard. -/
  | put {failures : ℕ} {m : Message} {pc : ShardPc} {sh : StreamShard} (hpc : pc.sends)
      (hsh : c.shards[getShard cfg c m.sessionId]? = some sh) :
      FlushStep cfg c (.shard failures m pc)
        (c.setShard (getShard cfg c m.sessionId) (sh.put m)) (.shard failures m .recheck)
  /-- The shard is still open after the message entered the channel. -/
  | ok {failures : ℕ} {m : Message} {sh : StreamShard}
      (hsh : c.shards[getShard cfg c m.sessionId]? = some sh) (hopen : sh.closed = false) :
      FlushStep cfg c (.shard failures m .recheck) c (.loop 0)
  /-- The shard was closed after the message entered the channel. -/
  | late {failures : ℕ} {m : Message} {sh : StreamShard}
      (hsh : c.shards[getShard cfg c m.sessionId]? = some sh) (hclosed : sh.closed = true) :
      FlushStep cfg c (.shard failures m .recheck) c (.requeue failures m)
  /-- The message goes back to the front of the queue. -/
  | requeue {failures : ℕ} {m : Message} {gone rest : List Message}
      (h : gone ++ rest = c.messageQueue.queue) :
      FlushStep cfg c (.requeue failures m) (c.withQueue (m :: rest) gone) (.loop (failures + 1))
  /-- The flusher ends. -/
  | reset : FlushStep cfg c .reset (c.setFlushing false) .returned

/-- **Every step of a flusher is one of these.** -/
theorem flushStep_of_flush {pc pc' : FlushPc} (h : flush cfg c pc x = some (c', pc')) :
    FlushStep cfg c pc c' pc' := by
  cases pc with
  | cas =>
    simp only [flush] at h
    split at h
    · rename_i hf
      cases h
      exact .lose hf
    · rename_i hf
      cases h
      exact .win (by simpa using hf)
  | loop failures =>
    simp only [flush] at h
    split at h
    · rename_i hf
      unfold StreamMessageQueue.dequeue at h
      cases hq : c.messageQueue.queue with
      | nil =>
        obtain ⟨rfl, rfl⟩ := by simpa [hq] using h
        exact .empty hq
      | cons m rest =>
        obtain ⟨rfl, rfl⟩ := by simpa [hq] using h
        exact .dequeue hf hq
    · rename_i hf
      cases h
      exact .giveUp (by omega)
  | check failures m =>
    simp only [flush, Option.ite_none_left_eq_some] at h
    obtain ⟨-, h⟩ := h
    split at h
    · rename_i hc
      cases h
      exact .discard hc
    · cases h
      refine .hold (m := m) rfl ?_
      split <;> rfl
  | direct failures m =>
    simp only [flush, Option.ite_none_left_eq_some] at h
    obtain ⟨-, h⟩ := h
    split at h <;> cases h <;> exact .hold (m := m) rfl rfl
  | shard failures m pc =>
    simp only [flush] at h
    split at h
    · cases h
    · rename_i hsend
      cases h
      cases shardStep_of_shardSend hsend with
      | hold hpc hpc' => exact .hold (m := m) (if_pos hpc) (if_pos hpc')
      | put hpc hsh => exact .put hpc hsh
    · rename_i hsend
      cases h
      cases shardStep_of_shardSend hsend with
      | ok hsh hopen => exact .ok hsh hopen
    · rename_i hsend
      cases h
      cases shardStep_of_shardSend hsend with
      | refuse hpc => exact .hold (m := m) (if_pos hpc) rfl
      | late hsh hclosed => exact .late hsh hclosed
  | requeue failures m =>
    obtain ⟨rest, hrest, hq⟩ := c.messageQueue.requeueFront_spec m
    simp only [flush, putAll_eq, hq] at h
    cases h
    exact .requeue hrest
  | reset =>
    cases h
    exact .reset
  | returned => simp [flush] at h

/-! ## The send loop -/

/-- The effects of a step of the send loop of shard `idx`. -/
inductive LoopStep (c : LogicClient) (idx : ℕ) : LoopPc → LogicClient → LoopPc → Prop
  /-- The loop sees the closed stop channel. -/
  | exit {sh : StreamShard} (hsh : c.shards[idx]? = some sh) (hstop : sh.stopped = true) :
      LoopStep c idx .select c .exited
  | first {sh : StreamShard} {m : Message} {rest : List Message} (hsh : c.shards[idx]? = some sh)
      (hch : sh.sendCh = m :: rest) :
      LoopStep c idx .select (c.setShard idx { sh with sendCh := rest }) (.collect [m])
  | collect {batch : List Message} {sh : StreamShard} {m : Message} {rest : List Message}
      (hsh : c.shards[idx]? = some sh) (hch : sh.sendCh = m :: rest) :
      LoopStep c idx (.collect batch) (c.setShard idx { sh with sendCh := rest })
        (if maxBatchCount ≤ (batch ++ [m]).length then .readStream (batch ++ [m])
          else .collect (batch ++ [m]))
  /-- The channel is empty. -/
  | collected {batch : List Message} : LoopStep c idx (.collect batch) c (.readStream batch)
  | noStream {batch : List Message} : LoopStep c idx (.readStream batch) c (.countDropped batch)
  /-- The batch is going to be written to the attached stream. -/
  | stream {batch : List Message} {stream : ℕ} :
      LoopStep c idx (.readStream batch) c (.sendMsg batch stream)
  | sent {batch : List Message} {stream : ℕ} :
      LoopStep c idx (.sendMsg batch stream) { c with delivered := c.delivered ++ batch }
        (.put batch)
  | fail {batch : List Message} {stream : ℕ} :
      LoopStep c idx (.sendMsg batch stream) c (.detach batch stream .clear)
  /-- The loop is in `detachShard`. -/
  | detach {batch : List Message} {stream : ℕ} {pc pc' : DetachPc} {c' : LogicClient}
      (h : c.detachShard idx stream pc = some (c', pc')) (hpc' : pc' ≠ .returned) :
      LoopStep c idx (.detach batch stream pc) c' (.detach batch stream pc')
  /-- The loop comes back from `detachShard`. -/
  | detached {batch : List Message} {stream : ℕ} {pc : DetachPc} {c' : LogicClient}
      (h : c.detachShard idx stream pc = some (c', .returned)) :
      LoopStep c idx (.detach batch stream pc) c' (.countDropped batch)
  | count {batch : List Message} :
      LoopStep c idx (.countDropped batch)
        { c with droppedNoConn := c.droppedNoConn + batch.length } (.put batch)
  /-- A message of the batch is returned to the pool. -/
  | put {m : Message} {rest : List Message} :
      LoopStep c idx (.put (m :: rest)) (c.putStreamData m) (.put rest)
  | done : LoopStep c idx (.put []) c .select

variable {idx : ℕ}

/-- **Every step of a send loop is one of these.** -/
theorem loopStep_of_sendLoop {pc pc' : LoopPc} (h : sendLoop c idx pc x = some (c', pc')) :
    LoopStep c idx pc c' pc' := by
  cases pc with
  | select =>
    cases x with
    | stop =>
      simp only [sendLoop] at h
      split at h
      · cases h
      · rename_i sh hsh
        simp only [Option.ite_none_right_eq_some] at h
        obtain ⟨rfl, rfl⟩ := by simpa using h.2
        exact .exit hsh h.1
    | proceed | timeout | fail =>
      simp only [sendLoop] at h
      split at h
      · cases h
      · rename_i sh hsh
        split at h <;> cases h
        rename_i m rest hch
        exact .first hsh hch
  | collect batch =>
    simp only [sendLoop] at h
    split at h
    · cases h
    · rename_i sh hsh
      split at h
      · cases h
        exact .collected
      · rename_i m rest hch
        obtain ⟨rfl, rfl⟩ : c.setShard idx { sh with sendCh := rest } = c' ∧ _ = pc' := by
          simpa only [Option.some.injEq, Prod.mk.injEq] using h
        exact .collect hsh hch
  | readStream batch =>
    simp only [sendLoop] at h
    split at h
    · cases h
    · split at h
      · cases h
        exact .noStream
      · cases h
        exact .stream
  | sendMsg batch stream =>
    cases x with
    | fail =>
      cases h
      exact .fail
    | proceed | stop | timeout =>
      cases h
      exact .sent
  | detach batch stream pc =>
    simp only [sendLoop] at h
    split at h
    · cases h
    · rename_i c₁ hd
      cases h
      exact .detached hd
    · rename_i c₁ pc₁ hne hd
      cases h
      exact .detach hd hne
  | countDropped batch =>
    cases h
    exact .count
  | put batch =>
    cases batch with
    | nil =>
      cases h
      exact .done
    | cons m rest =>
      cases h
      exact .put
  | exited => simp [sendLoop] at h

/-! ## Attaching and detaching -/

/-- What the message path uses of a shard: everything except the stream. -/
def StreamShard.channel (sh : StreamShard) : List Message × List Message × Bool × Bool :=
  (sh.sendCh, sh.entered, sh.closed, sh.stopped)

/-- Two clients that hold the same messages in the same places and treat them alike. -/
structure SameMessages (c c' : LogicClient) : Prop where
  closing : c'.closing = c.closing
  channels : c'.shards.map StreamShard.channel = c.shards.map StreamShard.channel
  messageQueue : c'.messageQueue = c.messageQueue
  pool : c'.pool = c.pool
  delivered : c'.delivered = c.delivered
  nextObj : c'.nextObj = c.nextObj
  nextCall : c'.nextCall = c.nextCall

theorem SameMessages.refl (c : LogicClient) : SameMessages c c :=
  ⟨rfl, rfl, rfl, rfl, rfl, rfl, rfl⟩

variable {sh sh' : StreamShard} {i : ℕ}

theorem map_setShard {α : Type} {f : StreamShard → α} (hsh : c.shards[i]? = some sh)
    (hf : f sh' = f sh) : (c.setShard i sh').shards.map f = c.shards.map f := by
  refine List.ext_getElem? fun j => ?_
  by_cases hij : i = j
  · subst hij
    simp [setShard, hsh, List.getElem?_set_self', hf]
  · simp [setShard, List.getElem?_set_ne hij]

theorem sameMessages_setStream {sh : StreamShard} (s : Option ℕ) (hsh : c.shards[i]? = some sh) :
    SameMessages c (c.setShard i { sh with stream := s }) where
  closing := rfl
  channels := map_setShard hsh rfl
  messageQueue := rfl
  pool := rfl
  delivered := rfl
  nextObj := rfl
  nextCall := rfl

variable {idx stream : ℕ} {pc pc' : AttachPc}

/-- **`attachShard` moves and counts no message**, and starts a flusher in its last step only. -/
theorem sameMessages_attachShard (h : attachShard c idx stream pc = some (c', pc', new)) :
    SameMessages c c' ∧ c'.droppedNoConn = c.droppedNoConn ∧ (new = [] ∨ new = [.flush .cas]) ∧
      (pc ≠ .storeState → c'.state = c.state) := by
  cases pc with
  | swap =>
    simp only [attachShard] at h
    split at h
    · cases h
      exact ⟨.refl c, rfl, .inl rfl, fun _ => rfl⟩
    · rename_i sh hsh
      cases h
      exact ⟨sameMessages_setStream _ hsh, rfl, .inl rfl, fun _ => rfl⟩
  | readClosing =>
    simp only [attachShard, Option.ite_none_left_eq_some] at h
    obtain ⟨rfl, -, rfl⟩ := by simpa using h.2
    exact ⟨.refl c, rfl, .inl rfl, fun _ => rfl⟩
  | returned err => simp [attachShard] at h
  | spawnFlush =>
    cases h
    exact ⟨.refl c, rfl, .inr rfl, fun _ => rfl⟩
  | storeState =>
    cases h
    exact ⟨by constructor <;> rfl, rfl, .inl rfl, fun h => absurd rfl h⟩
  | _ =>
    cases h
    exact ⟨by constructor <;> rfl, rfl, .inl rfl, fun _ => rfl⟩

/-- **`detachShard` moves and counts no message.** -/
theorem sameMessages_detachShard {pc pc' : DetachPc}
    (h : detachShard c idx stream pc = some (c', pc')) :
    SameMessages c c' ∧ c'.droppedNoConn = c.droppedNoConn ∧
      (pc ≠ .storeState → c'.state = c.state) := by
  cases pc with
  | clear =>
    simp only [detachShard] at h
    split at h
    · cases h
    · rename_i sh hsh
      split at h
      · cases h
        exact ⟨sameMessages_setStream _ hsh, rfl, fun _ => rfl⟩
      · cases h
        exact ⟨.refl c, rfl, fun _ => rfl⟩
  | readClosing =>
    simp only [detachShard, Option.ite_none_left_eq_some] at h
    obtain ⟨rfl, -⟩ := by simpa using h.2
    exact ⟨.refl c, rfl, fun _ => rfl⟩
  | returned => simp [detachShard] at h
  | storeState =>
    cases h
    exact ⟨by constructor <;> rfl, rfl, fun h => absurd rfl h⟩
  | _ =>
    cases h
    exact ⟨by constructor <;> rfl, rfl, fun _ => rfl⟩

/-! ## Frames -/

/-- Two clients with the same streams, count, state and closing flag. -/
structure SameConnection (c c' : LogicClient) : Prop where
  streams : c'.shards.map StreamShard.stream = c.shards.map StreamShard.stream
  attached : c'.attached = c.attached
  state : c'.state = c.state
  closing : c'.closing = c.closing

theorem SameConnection.refl (c : LogicClient) : SameConnection c c := ⟨rfl, rfl, rfl, rfl⟩

theorem sameConnection_setShard (hsh : c.shards[i]? = some sh) (hs : sh'.stream = sh.stream) :
    SameConnection c (c.setShard i sh') :=
  ⟨map_setShard hsh hs, rfl, rfl, rfl⟩

/-- **A sender does not touch the connection.** -/
theorem SendStep.sameConnection {pc pc' : SendPc} (h : SendStep cfg c m pc c' pc' new) :
    SameConnection c c' := by
  cases h with
  | put _ hsh => exact sameConnection_setShard hsh rfl
  | hold | ok | late | spawn => exact .refl c
  | enqueue | enqueueAfter | putBack => exact ⟨rfl, rfl, rfl, rfl⟩

/-- **A flusher does not touch the connection.** -/
theorem FlushStep.sameConnection {pc pc' : FlushPc} (h : FlushStep cfg c pc c' pc') :
    SameConnection c c' := by
  cases h with
  | put _ hsh => exact sameConnection_setShard hsh rfl
  | lose | empty | giveUp | hold | ok | late => exact .refl c
  | win | dequeue | discard | requeue | reset => exact ⟨rfl, rfl, rfl, rfl⟩

/-- **A send loop touches the connection only in `detachShard`.** -/
theorem LoopStep.sameConnection {pc pc' : LoopPc} (h : LoopStep c idx pc c' pc')
    (hpc : ∀ batch stream pc₁, pc ≠ .detach batch stream pc₁) : SameConnection c c' := by
  cases h with
  | first hsh | collect hsh => exact sameConnection_setShard hsh rfl
  | detach | detached => exact absurd rfl (hpc _ _ _)
  | exit | collected | noStream | stream | fail | done => exact .refl c
  | sent | count | put => exact ⟨rfl, rfl, rfl, rfl⟩

/-! ## All goroutines -/

inductive Step (cfg : ClientConfig) (c : LogicClient) :
    Goroutine → LogicClient → Goroutine → List Goroutine → Prop
  | send {m : Message} {pc pc' : SendPc} {c' : LogicClient} {new : List Goroutine}
      (h : SendStep cfg c m pc c' pc' new) : Step cfg c (.send m pc) c' (.send m pc') new
  | flush {pc pc' : FlushPc} {c' : LogicClient} (h : FlushStep cfg c pc c' pc') :
      Step cfg c (.flush pc) c' (.flush pc') []
  | attach {idx stream : ℕ} {pc pc' : AttachPc} {c' : LogicClient} {new : List Goroutine}
      (h : attachShard c idx stream pc = some (c', pc', new)) :
      Step cfg c (.attach idx stream pc) c' (.attach idx stream pc') new
  | detach {idx stream : ℕ} {pc pc' : DetachPc} {c' : LogicClient}
      (h : detachShard c idx stream pc = some (c', pc')) :
      Step cfg c (.detach idx stream pc) c' (.detach idx stream pc') []
  | close {pc pc' : ClosePc} {c' : LogicClient} (h : close c pc = some (c', pc')) :
      Step cfg c (.close pc) c' (.close pc') []
  | loop {idx : ℕ} {pc pc' : LoopPc} {c' : LogicClient} (h : LoopStep c idx pc c' pc') :
      Step cfg c (.loop idx pc) c' (.loop idx pc') []

variable {t t' : Goroutine}

/-- **Every step of the program is one of these.** -/
theorem step_of_step (h : (logicClient cfg).step c t x = some (c', t', new)) :
    Step cfg c t c' t' new := by
  cases t <;> obtain ⟨⟨c₁, r⟩, hs, heq⟩ := Option.map_eq_some_iff.mp h <;> cases heq
  case send => exact .send (sendStep_of_sendMessage hs)
  case flush => exact .flush (flushStep_of_flush hs)
  case attach => exact .attach hs
  case detach => exact .detach hs
  case close => exact .close hs
  case loop => exact .loop (loopStep_of_sendLoop hs)

theorem Step.new_eq (h : Step cfg c t c' t' new) : new = [] ∨ new = [.flush .cas] := by
  cases h with
  | send h =>
    cases h with
    | spawn => exact .inr rfl
    | _ => exact .inl rfl
  | attach h => exact (sameMessages_attachShard h).2.2.1
  | flush | detach | close | loop => exact .inl rfl

/-- Whether a goroutine is a call of `Close`. -/
def Goroutine.isClose : Goroutine → Bool
  | .close _ => true
  | _ => false

theorem Step.isClose (h : Step cfg c t c' t' new) : t'.isClose = t.isClose := by
  cases h <;> rfl

inductive Start (c : LogicClient) : Goroutine → LogicClient → Prop
  /-- A sender that fills a new object. -/
  | send {m : Message} (hcall : m.call = c.nextCall) (hobj : m.obj = c.nextObj) :
      Start c (.send m .readState)
        { c with nextObj := c.nextObj + 1, nextCall := c.nextCall + 1 }
  /-- A sender that fills an object of the pool. -/
  | sendPooled {m : Message} (hcall : m.call = c.nextCall) (hobj : m.obj ∈ c.pool) :
      Start c (.send m .readState)
        { c with pool := c.pool.erase m.obj, nextCall := c.nextCall + 1 }
  | attach {idx : ℕ} : Start c (.attach idx c.nextStream .readClosing)
      { c with nextStream := c.nextStream + 1 }
  | detach {idx stream : ℕ} (h : idx < c.shards.length) : Start c (.detach idx stream .clear) c
  | close : Start c (.close .lock) c

variable {t : Goroutine}

/-- **Every call of the environment is one of these.** -/
theorem start_of_start (h : (logicClient cfg).start c t = some c') : Start c t c' := by
  change LogicClient.start c t = some c' at h
  unfold LogicClient.start at h
  split at h
  · rename_i m
    split at h
    · cases h
    · rename_i hcall
      split at h
      · rename_i hobj
        cases h
        exact .send (not_not.mp hcall) hobj
      · split at h <;> cases h
        rename_i hobj
        exact .sendPooled (not_not.mp hcall) hobj
  · split at h <;> cases h
    rename_i hs
    subst hs
    exact .attach
  · split at h <;> cases h
    rename_i hidx
    exact .detach hidx
  · cases h
    exact .close
  · cases h

/-! ## The start of a run -/

theorem loop_of_mem_initWorld (ht : t ∈ (initWorld cfg).threads) : ∃ i, t = .loop i .select := by
  obtain ⟨i, -, rfl⟩ := List.mem_map.mp ht
  exact ⟨i, rfl⟩

theorem tally_initWorld (f : Goroutine → ℕ) (hf : ∀ i, f (.loop i .select) = 0) :
    tally f (initWorld cfg).threads = 0 := by
  rw [tally_eq_zero_iff]
  intro t ht
  obtain ⟨i, rfl⟩ := loop_of_mem_initWorld ht
  exact hf i

end Sgate.Backend
