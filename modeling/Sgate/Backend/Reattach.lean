import Sgate.Backend.Steps
import Sgate.Lib.Transition

/-! # Messages sent while a client is disconnected

What a call of a logic client does if no other goroutine runs meanwhile: `SendMessage` fills the
reconnect queue (`send_queues`), and attaching the last stream empties it (`reattach_sends`). -/

namespace Sgate.Backend

open Interleaving Transition List

/-! ## Goroutines that run alone -/

structure Alone where
  client : LogicClient
  goroutine : Goroutine
  started : List Goroutine := []

def Alone.step (cfg : ClientConfig) (a : Alone) (x : Choice) : Option Alone :=
  (LogicClient.step cfg a.client a.goroutine x).map fun r => ⟨r.1, r.2.1, a.started ++ r.2.2⟩

/-- The goroutine makes `n` steps and is never delayed. -/
def Alone.proceeds (cfg : ClientConfig) (a : Alone) (n : ℕ) : Option Alone :=
  run (Alone.step cfg) a (List.replicate n .proceed)

theorem Alone.proceeds_add {cfg : ClientConfig} {a b : Alone} {n k : ℕ}
    (h : a.proceeds cfg n = some b) : a.proceeds cfg (n + k) = b.proceeds cfg k := by
  unfold proceeds at *
  rw [replicate_add]
  exact run_append h

namespace StreamMessageQueue

/-- Another message is accepted and nothing is discarded for it. -/
def HasRoom {α : Type} (q : StreamMessageQueue α) : Prop :=
  q.full = false ∧ (q.policy = .backpressure → q.backpressured = false)

theorem enqueue_of_hasRoom {α : Type} {q : StreamMessageQueue α} (h : q.HasRoom) (m : α)
    (expired : Bool) : q.enqueue m expired = some (q.push m, [], none) := by
  have hdrop : q.dropOldest = (q, []) := by simp [dropOldest, h.1]
  unfold enqueue
  cases hp : q.policy with
  | block | timeout => simp [h.1]
  | backpressure => simp [h.2 hp, hdrop]
  | drop => simp [hdrop]

end StreamMessageQueue

namespace LogicClient

variable {cfg : ClientConfig} {c : LogicClient} {m : Message}

def Open (c : LogicClient) : Prop := c.closing = false ∧ c.mu = false

def queued (c : LogicClient) (m : Message) : LogicClient :=
  { c with messageQueue := c.messageQueue.push m }

attribute [local simp] Alone.step step sendMessage flush shardSend StreamShard.sendMessage
  attachShard

/-- **A message for a disconnected client is queued.** -/
theorem send_queues (hopen : c.Open) (hstate : c.state = .disconnected)
    (hroom : c.messageQueue.HasRoom) (x y z : Choice) :
    run (Alone.step cfg) ⟨c, .send m .readState, []⟩ [x, y, z] =
      some ⟨c.queued m, .send m (.returned none), []⟩ := by
  have h₁ : Alone.step cfg ⟨c, .send m .readState, []⟩ x = some ⟨c, .send m .readClosing, []⟩ := by
    simp [hstate]
  have h₂ : Alone.step cfg ⟨c, .send m .readClosing, []⟩ y = some ⟨c, .send m .enqueue, []⟩ := by
    simp [hopen.1, hopen.2]
  have h₃ : Alone.step cfg ⟨c, .send m .enqueue, []⟩ z =
      some ⟨c.queued m, .send m (.returned none), []⟩ := by
    simp [enqueue, StreamMessageQueue.enqueue_of_hasRoom hroom, putAll, queued]
  exact run_cons_iff.mpr ⟨_, h₁, run_cons_iff.mpr ⟨_, h₂, run_cons_iff.mpr ⟨_, h₃, rfl⟩⟩⟩

/-! ## Flushing -/

def InChannel (cfg : ClientConfig) (c : LogicClient) (m : Message) : Prop :=
  ∃ sh, c.shards[getShard cfg c m.sessionId]? = some sh ∧ m ∈ sh.sendCh

/-- The client can send: it is connected, and all its shards are open and have room for `n` more
messages. -/
structure Ready (cfg : ClientConfig) (c : LogicClient) (n : ℕ) : Prop where
  isOpen : c.Open
  connected : c.state = .connected
  shards : c.shards ≠ []
  room : ∀ sh ∈ c.shards, sh.closed = false ∧ sh.sendCh.length + n ≤ cfg.sendChannelSize

section

variable {i : ℕ} {sh : StreamShard} {n : ℕ} {ms : List Message}

theorem exists_shard (cfg : ClientConfig) (h : c.shards ≠ []) (s : String) :
    ∃ sh, c.shards[getShard cfg c s]? = some sh := by
  have hlt : getShard cfg c s < c.shards.length := Nat.mod_lt _ (length_pos_iff.mpr h)
  exact ⟨_, getElem?_eq_getElem hlt⟩

theorem InChannel.put {m' : Message} (hsh : c.shards[i]? = some sh) (h : InChannel cfg c m') :
    InChannel cfg (c.setShard i (sh.put m)) m' := by
  obtain ⟨sh', hsh', hmem⟩ := h
  have hshard : getShard cfg (c.setShard i (sh.put m)) m'.sessionId = getShard cfg c m'.sessionId := by
    simp [getShard, setShard]
  obtain ⟨hi, -⟩ := List.getElem?_eq_some_iff.mp hsh
  unfold InChannel
  rw [hshard, setShard, getElem?_set]
  split
  · rename_i heq
    obtain rfl : sh = sh' := by
      rw [← heq, hsh] at hsh'
      exact Option.some.inj hsh'
    exact ⟨sh.put m, rfl, by simp [hmem]⟩
  · exact ⟨sh', hsh', hmem⟩

theorem Ready.put (h : Ready cfg c (n + 1)) (hsh : c.shards[i]? = some sh) (ms : List Message) :
    Ready cfg ({ c with messageQueue := c.messageQueue.withQueue ms }.setShard i (sh.put m)) n where
  __ := h
  shards := by
    intro hnil
    exact h.shards (by simpa [setShard] using hnil)
  room := by
    intro sh' hsh'
    rcases mem_or_eq_of_mem_set hsh' with hold | rfl
    · obtain ⟨hclosed, hroom⟩ := h.room sh' hold
      exact ⟨hclosed, by omega⟩
    · obtain ⟨hclosed, hroom⟩ := h.room sh (mem_of_getElem? hsh)
      refine ⟨hclosed, ?_⟩
      simp only [StreamShard.put_sendCh, length_append, length_singleton]
      omega

theorem flush_one (h : Ready cfg c (n + 1)) (hqueue : c.messageQueue.queue = m :: ms)
    (hsh : c.shards[getShard cfg c m.sessionId]? = some sh) :
    Alone.proceeds cfg ⟨c, .flush (.loop 0), []⟩ 6 =
      some ⟨{ c with messageQueue := c.messageQueue.withQueue ms }.setShard
        (getShard cfg c m.sessionId) (sh.put m), .flush (.loop 0), []⟩ := by
  obtain ⟨hclosed, hroom⟩ := h.room sh (mem_of_getElem? hsh)
  obtain ⟨hopen, hmu⟩ := h.isOpen
  have hcap : sh.sendCh.length < cfg.sendChannelSize := by omega
  obtain ⟨hi, -⟩ := List.getElem?_eq_some_iff.mp hsh
  -- the client without the message in the queue
  generalize hc : { c with messageQueue := c.messageQueue.withQueue ms } = c₁
  have hsh₁ : c₁.shards[getShard cfg c₁ m.sessionId]? = some sh := by
    rw [← hc]
    exact hsh
  have hself : c₁.setShard (getShard cfg c₁ m.sessionId) sh = c₁ := setShard_self hsh₁
  have hshard : getShard cfg c₁ m.sessionId = getShard cfg c m.sessionId := by rw [← hc]; rfl
  have hput : (c₁.setShard (getShard cfg c₁ m.sessionId) (sh.put m)).shards[getShard cfg
      (c₁.setShard (getShard cfg c₁ m.sessionId) (sh.put m)) m.sessionId]? = some (sh.put m) := by
    have hlen : getShard cfg (c₁.setShard (getShard cfg c₁ m.sessionId) (sh.put m)) m.sessionId =
        getShard cfg c₁ m.sessionId := by simp [getShard, setShard]
    rw [hlen, setShard, getElem?_set_self]
    rw [hshard, ← hc]
    exact hi
  have h₁ : Alone.step cfg ⟨c, .flush (.loop 0), []⟩ .proceed = some ⟨c₁, .flush (.check 0 m), []⟩ := by
    simp [maxFailures, StreamMessageQueue.dequeue, hqueue, hc]
  have h₂ : Alone.step cfg ⟨c₁, .flush (.check 0 m), []⟩ .proceed =
      some ⟨c₁, .flush (.direct 0 m), []⟩ := by
    simp [← hc, hmu, hopen, h.connected]
  have h₃ : Alone.step cfg ⟨c₁, .flush (.direct 0 m), []⟩ .proceed =
      some ⟨c₁, .flush (.shard 0 m .checkClosed), []⟩ := by
    simp [← hc, hmu, hopen, h.connected]
  have h₄ : Alone.step cfg ⟨c₁, .flush (.shard 0 m .checkClosed), []⟩ .proceed =
      some ⟨c₁, .flush (.shard 0 m .trySend), []⟩ := by
    simp [hsh₁, hclosed, hself]
  have h₅ : Alone.step cfg ⟨c₁, .flush (.shard 0 m .trySend), []⟩ .proceed =
      some ⟨c₁.setShard (getShard cfg c₁ m.sessionId) (sh.put m), .flush (.shard 0 m .recheck), []⟩ := by
    simp [hsh₁, hcap]
  have h₆ : Alone.step cfg
      ⟨c₁.setShard (getShard cfg c₁ m.sessionId) (sh.put m), .flush (.shard 0 m .recheck), []⟩ .proceed =
      some ⟨c₁.setShard (getShard cfg c₁ m.sessionId) (sh.put m), .flush (.loop 0), []⟩ := by
    have hclosed' : (sh.put m).closed = false := hclosed
    have hback := setShard_self hput
    simp [hput, hclosed', hback]
  rw [← hshard]
  exact run_cons_iff.mpr ⟨_, h₁, run_cons_iff.mpr ⟨_, h₂, run_cons_iff.mpr ⟨_, h₃,
    run_cons_iff.mpr ⟨_, h₄, run_cons_iff.mpr ⟨_, h₅, run_cons_iff.mpr ⟨_, h₆, rfl⟩⟩⟩⟩⟩⟩

/-- The flusher empties the queue: by induction on the queue, one message after the other. -/
theorem flush_loop (h : Ready cfg c ms.length) (hqueue : c.messageQueue.queue = ms) :
    ∃ c', Alone.proceeds cfg ⟨c, .flush (.loop 0), []⟩ (6 * ms.length + 2) =
        some ⟨c', .flush .returned, []⟩ ∧ c'.messageQueue.queue = [] ∧
      (∀ m ∈ ms, InChannel cfg c' m) ∧ ∀ m, InChannel cfg c m → InChannel cfg c' m := by
  induction ms generalizing c with
  | nil =>
    have h₁ : Alone.step cfg ⟨c, .flush (.loop 0), []⟩ .proceed = some ⟨c, .flush .reset, []⟩ := by
      simp [maxFailures, StreamMessageQueue.dequeue, hqueue]
    refine ⟨c.setFlushing false, ?_, hqueue, by simp, fun m hm => hm⟩
    exact run_cons_iff.mpr ⟨_, h₁, rfl⟩
  | cons m ms ih =>
    obtain ⟨sh, hsh⟩ := exists_shard cfg h.shards m.sessionId
    have hone := flush_one h hqueue hsh
    have hready := h.put (m := m) hsh ms
    obtain ⟨c', hrun, hempty, hsent, hkept⟩ := ih hready rfl
    refine ⟨c', ?_, hempty, ?_, ?_⟩
    · have hsteps : 6 * (m :: ms).length + 2 = 6 + (6 * ms.length + 2) := by
        rw [length_cons]
        omega
      rw [hsteps, Alone.proceeds_add hone]
      exact hrun
    · intro m' hm'
      rcases mem_cons.mp hm' with rfl | hm'
      · apply hkept
        refine ⟨sh.put m', ?_, by simp⟩
        obtain ⟨hi, -⟩ := List.getElem?_eq_some_iff.mp hsh
        have hshard : getShard cfg ({ c with messageQueue := c.messageQueue.withQueue ms }.setShard
            (getShard cfg c m'.sessionId) (sh.put m')) m'.sessionId = getShard cfg c m'.sessionId := by
          simp [getShard, setShard]
        rw [hshard]
        exact getElem?_set_self hi
      · exact hsent m' hm'
    · intro m' hm'
      apply hkept
      exact InChannel.put (c := { c with messageQueue := c.messageQueue.withQueue ms }) hsh hm'

/-- **The last missing stream is attached**: the call marks the client connected and starts a flusher,
which takes every queued message to the channel of its shard. -/
theorem reattach_sends (idx stream : ℕ) (hopen : c.Open) (hstate : c.state = .disconnected)
    (hsh : c.shards[idx]? = some sh) (hmissing : sh.stream = none)
    (hlast : c.attached + 1 = c.shards.length) (hflushing : c.messageQueue.flushing = false)
    (hroom : ∀ sh ∈ c.shards, sh.closed = false ∧
      sh.sendCh.length + c.messageQueue.queue.length ≤ cfg.sendChannelSize) :
    ∃ c₁ c₂, Alone.proceeds cfg ⟨c, .attach idx stream .readClosing, []⟩ 8 =
        some ⟨c₁, .attach idx stream (.returned none), [.flush .cas]⟩ ∧
      Alone.proceeds cfg ⟨c₁, .flush .cas, []⟩ (6 * c.messageQueue.queue.length + 3) =
        some ⟨c₂, .flush .returned, []⟩ ∧
      c₂.messageQueue.queue = [] ∧ ∀ m ∈ c.messageQueue.queue, InChannel cfg c₂ m := by
  obtain ⟨hi, -⟩ := List.getElem?_eq_some_iff.mp hsh
  -- the client with the stream, and with the stream counted
  let cA : LogicClient := c.setShard idx { sh with stream := some stream }
  let cB : LogicClient := { cA with attached := c.attached + 1 }
  let cC : LogicClient := { cB with state := .connected }
  have hlength : cB.shards.length = c.shards.length := by simp [cB, cA, setShard]
  have hdown : cB.state ≠ .connected := by
    show c.state ≠ .connected
    simp [hstate]
  have h₁ : Alone.step cfg ⟨c, .attach idx stream .readClosing, []⟩ .proceed =
      some ⟨c, .attach idx stream .swap, []⟩ := by
    simp [hopen.1, hopen.2]
  have h₂ : Alone.step cfg ⟨c, .attach idx stream .swap, []⟩ .proceed =
      some ⟨cA, .attach idx stream .add, []⟩ := by
    simp [hsh, hmissing, cA]
  have h₃ : Alone.step cfg ⟨cA, .attach idx stream .add, []⟩ .proceed =
      some ⟨cB, .attach idx stream .readAttached, []⟩ := rfl
  have h₄ : Alone.step cfg ⟨cB, .attach idx stream .readAttached, []⟩ .proceed =
      some ⟨cB, .attach idx stream .readState, []⟩ := by
    have hall : (cB.shards.length : ℤ) ≤ cB.attached := by
      rw [hlength]
      exact hlast.ge
    simp [hall]
  have h₅ : Alone.step cfg ⟨cB, .attach idx stream .readState, []⟩ .proceed =
      some ⟨cB, .attach idx stream .loadState, []⟩ := by
    simp [hdown]
  have h₆ : Alone.step cfg ⟨cB, .attach idx stream .loadState, []⟩ .proceed =
      some ⟨cB, .attach idx stream .storeState, []⟩ := by
    simp [hdown]
  have h₇ : Alone.step cfg ⟨cB, .attach idx stream .storeState, []⟩ .proceed =
      some ⟨cC, .attach idx stream .spawnFlush, []⟩ := rfl
  have hready : Ready cfg (cC.setFlushing true) c.messageQueue.queue.length := by
    refine ⟨hopen, rfl, fun hnil => ?_, fun sh' hsh' => ?_⟩
    · have hzero : cC.shards.length = 0 := by
        rw [show cC.shards = [] from hnil]
        rfl
      have hpos : 0 < c.shards.length := Nat.lt_of_le_of_lt (Nat.zero_le idx) hi
      rw [← hlength] at hpos
      exact absurd hzero (Nat.ne_of_gt hpos)
    · rcases mem_or_eq_of_mem_set hsh' with hold | rfl
      · exact hroom sh' hold
      · exact hroom sh (mem_of_getElem? hsh)
  have hcas : Alone.step cfg ⟨cC, .flush .cas, []⟩ .proceed =
      some ⟨cC.setFlushing true, .flush (.loop 0), []⟩ := by
    have hidle : cC.messageQueue.flushing = false := hflushing
    simp [hidle]
  obtain ⟨c₂, hrun, hempty, hsent, -⟩ := flush_loop hready rfl
  refine ⟨cC, c₂, ?_, run_cons_iff.mpr ⟨_, hcas, hrun⟩, hempty, hsent⟩
  exact run_cons_iff.mpr ⟨_, h₁, run_cons_iff.mpr ⟨_, h₂, run_cons_iff.mpr ⟨_, h₃,
    run_cons_iff.mpr ⟨_, h₄, run_cons_iff.mpr ⟨_, h₅, run_cons_iff.mpr ⟨_, h₆,
      run_cons_iff.mpr ⟨_, h₇, rfl⟩⟩⟩⟩⟩⟩⟩

end

end LogicClient

end Sgate.Backend
