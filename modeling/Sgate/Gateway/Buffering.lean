import Sgate.Backend.Reattach
import Sgate.Gateway.Degraded

/-! # Messages for a logic server that is disconnected

`Process` takes a logic client only if it is connected. So the reconnect queue gets a message only if
the client lost its stream between that check and `SendMessage` (`buffered_iff`). -/

namespace Sgate.Pipeline

open Routes EarlyExit Transition
open Backend (ClientConfig LogicClient Message Alone Choice)

variable {σ γ : Type} {env : Env} {connectionID : String} {data : Bytes} {message : StreamData}
  {g g' g₁ : MessagePipeline σ γ} {c c' : Client} {client : Option ℕ} {msg : StreamData} {k : ℕ}

/-- The gateway with client `k` connected. -/
def withConnected (g : MessagePipeline σ γ) (k : ℕ) : MessagePipeline σ γ :=
  { g with isConnected := Function.update g.isConnected k true }

theorem withConnected_of_connected (h : g.isConnected k = true) : withConnected g k = g := by
  unfold withConnected
  rw [← h, Function.update_eq_self]

/-- The client `Process` chooses for a connection that is bound to a logic server. -/
def chosenClient (g : MessagePipeline σ γ) (c : Client) : Option ℕ :=
  (c.logicClient.filter g.isConnected).or (g.getLogicClient c.serverID)

/-- **Who gets the message** of a bound connection. -/
theorem authorize_client (hconn : g.connections connectionID = some c) (hbound : c.serverID ≠ "")
    (h : authorize env connectionID message g = (.ok (c', client), g₁)) : client = chosenClient g c := by
  obtain ⟨-, hfound, v, hrate, hclient⟩ := authorize_stages h
  cases hconn.symm.trans hfound
  obtain ⟨c₁, -, rfl⟩ := checkMsgRate_eq_ok hrate
  -- the check of the rate leaves the clients and their states alone
  have hcached : c.logicClient.filter
      (g.withConnections (g.connections.store connectionID c₁)).isConnected =
      c.logicClient.filter g.isConnected := rfl
  have hpool : (g.withConnections (g.connections.store connectionID c₁)).getLogicClient c.serverID =
      g.getLogicClient c.serverID := rfl
  unfold findLogicClient at hclient
  rw [if_neg hbound, hcached, hpool] at hclient
  unfold chosenClient
  cases hc : c.logicClient.filter g.isConnected with
  | some k =>
    rw [hc] at hclient
    cases hclient
    rfl
  | none =>
    rw [hc] at hclient
    cases hp : g.getLogicClient c.serverID with
    | none =>
      rw [hp] at hclient
      cases hclient
    | some k =>
      rw [hp] at hclient
      cases hclient
      rfl

theorem chosenClient_eq_some_iff (hpool : g.clients c.serverID = some k) :
    chosenClient g c = some k ↔
      g.isConnected k = true ∧ (c.logicClient.filter g.isConnected = none ∨ c.logicClient = some k) := by
  unfold chosenClient MessagePipeline.getLogicClient
  rw [hpool]
  cases hc : c.logicClient.filter g.isConnected with
  | none => simp
  | some k' =>
    obtain ⟨hcached, hup⟩ := Option.filter_eq_some_iff.mp hc
    rw [Option.some_or, hcached]
    constructor
    · intro h
      cases h
      exact ⟨hup, .inr rfl⟩
    · rintro ⟨-, h | h⟩
      · cases h
      · exact h

/-- **The message waits for the client**: `Process` hands it to client `k`, whose `SendMessage` puts it
at the end of the reconnect queue and returns without an error; and when the last missing stream is
attached, the flusher takes it to the channel of its shard. -/
structure Buffered (cfg : ClientConfig) (env : Env) (connectionID : String) (data : Bytes)
    (message : StreamData) (g : MessagePipeline σ γ) (k : ℕ) (lc : LogicClient) (m : Message) : Prop where
  isHanded : handed env connectionID data message g = some (k, m.data)
  isQueued : ∀ x y z : Choice, run (Alone.step cfg) ⟨lc, .send m .readState, []⟩ [x, y, z] =
    some ⟨lc.queued m, .send m (.returned none), []⟩
  isSent : ∀ idx stream sh, (lc.queued m).shards[idx]? = some sh → sh.stream = none →
    (lc.queued m).attached + 1 = (lc.queued m).shards.length →
    (lc.queued m).messageQueue.flushing = false →
    (∀ sh ∈ (lc.queued m).shards, sh.closed = false ∧
      sh.sendCh.length + (lc.queued m).messageQueue.queue.length ≤ cfg.sendChannelSize) →
    ∃ c₁ c₂ n, Alone.proceeds cfg ⟨lc.queued m, .attach idx stream .readClosing, []⟩ 8 =
        some ⟨c₁, .attach idx stream (.returned none), [.flush .cas]⟩ ∧
      Alone.proceeds cfg ⟨c₁, .flush .cas, []⟩ n = some ⟨c₂, .flush .returned, []⟩ ∧
      LogicClient.InChannel cfg c₂ m

/-- **When a message for a disconnected client is buffered.** For every connection that is bound to a
server with client `k` in the pool, and every message that passes all stages of `Process` if `k` is
connected: if `k` is disconnected when the message would reach it, not closing, and its queue has room,
then the message is buffered iff `k` was still connected when `Process` chose the client, and the
connection had not cached another connected one. -/
theorem buffered_iff (env : Env) (connectionID : String) (data : Bytes) (message : StreamData)
    (g g' : MessagePipeline σ γ) (c : Client) (k : ℕ) (client : Option ℕ) (m : Message)
    (hconn : g.connections connectionID = some c) (hbound : c.serverID ≠ "")
    (hpool : g.clients c.serverID = some k)
    (hpass : prepare env connectionID data message (withConnected g k) = (.ok (client, m.data), g'))
    (cfg : ClientConfig) (lc : LogicClient) (hopen : lc.Open) (hdown : lc.state = .disconnected)
    (hroom : lc.messageQueue.HasRoom) :
    Buffered cfg env connectionID data message g k lc m ↔
      g.isConnected k = true ∧ (c.logicClient.filter g.isConnected = none ∨ c.logicClient = some k) := by
  rw [← chosenClient_eq_some_iff hpool]
  constructor
  · intro h
    have hhanded := h.isHanded
    unfold handed at hhanded
    rcases hprep : prepare env connectionID data message g with ⟨r | ⟨client', msg⟩, g₂⟩
    · rw [hprep] at hhanded
      cases hhanded
    · rw [hprep] at hhanded
      obtain ⟨c', g₁, hauth, -⟩ := prepare_eq_ok hprep
      rw [← authorize_client hconn hbound hauth]
      obtain ⟨k', hk', heq⟩ := Option.map_eq_some_iff.mp hhanded
      rw [hk', (Prod.mk.inj heq).1]
  · intro hchosen
    have hup := ((chosenClient_eq_some_iff hpool).mp hchosen).1
    rw [withConnected_of_connected hup] at hpass
    obtain ⟨c', g₁, hauth, -⟩ := prepare_eq_ok hpass
    have hclient := authorize_client hconn hbound hauth
    refine ⟨?_, fun x y z => LogicClient.send_queues hopen hdown hroom x y z, ?_⟩
    · unfold handed
      rw [hpass, hclient, hchosen]
      rfl
    · intro idx stream sh hsh hmissing hlast hflushing hshards
      obtain ⟨c₁, c₂, hattach, hflush, -, hsent⟩ :=
        LogicClient.reattach_sends (c := lc.queued m) idx stream hopen hdown hsh hmissing hlast
          hflushing hshards
      refine ⟨c₁, c₂, _, hattach, hflush, hsent m ?_⟩
      exact List.mem_append_right _ (List.mem_singleton_self m)

/-- The message that `sampleClient` sends, as it reaches the logic client. -/
def sampleForwarded : Message where
  obj := 0
  call := 0
  data := fastMessage "conn_1" (sampleMessage 5 [7]) sampleClient

/-- The client loses its stream after it was chosen: the message is buffered. -/
theorem buffered_iff_lostStream : Buffered Backend.oneShard (sampleEnv 0) "conn_1" [7] (sampleMessage 5 [7])
    (plainGateway sampleClient) 0 (.newLogicClient Backend.oneShard) sampleForwarded :=
  (buffered_iff (sampleEnv 0) "conn_1" [7] (sampleMessage 5 [7]) (plainGateway sampleClient) _ sampleClient
    0 (some 0) sampleForwarded rfl (by decide) rfl rfl Backend.oneShard _ ⟨rfl, rfl⟩ rfl
    ⟨rfl, fun h => absurd h (by decide)⟩).mpr ⟨rfl, .inl rfl⟩

/-- The gateway while the client of the server is disconnected. -/
def downGateway : MessagePipeline Unit Unit :=
  { plainGateway sampleClient with isConnected := fun _ => false }

/-- The client is disconnected when `Process` looks for it. It would queue the message, and with the
client connected the message passes; but it is dropped for want of a logic server. -/
theorem disconnected_dropped :
    handed (sampleEnv 0) "conn_1" [7] (sampleMessage 5 [7]) (withConnected downGateway 0) =
      some (0, sampleForwarded.data) ∧
    run (Alone.step Backend.oneShard)
        ⟨.newLogicClient Backend.oneShard, .send sampleForwarded .readState, []⟩
        [.proceed, .proceed, .proceed] =
      some ⟨(LogicClient.newLogicClient Backend.oneShard).queued sampleForwarded,
        .send sampleForwarded (.returned none), []⟩ ∧
    handed (sampleEnv 0) "conn_1" [7] (sampleMessage 5 [7]) downGateway = none ∧
    (process (sampleEnv 0) "conn_1" [7] (sampleMessage 5 [7]) downGateway).2.counters .noLogic = 1 := by
  refine ⟨rfl, rfl, rfl, rfl⟩

end Sgate.Pipeline
