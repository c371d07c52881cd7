import Mathlib.Data.Int.Notation
import Sgate.Lib.KeyMap
import Sgate.Lib.Transition

/-! # The pool of logic clients

A logic server dials in with a stream for each of its shards. `Attach` finds or creates the client of the
server under the lock of the pool; a client made for another number of shards is replaced, and closed by a
goroutine. The streams of a client are in `Backend.Client`: here a client is what never changes of it. -/

namespace Sgate.Backend

open Transition List

/-- `routes.LogicStreamMeta`, as far as it is read under the lock. -/
structure LogicStreamMeta where
  logicID : String
  zone : String
  shardCount : ℤ

/-- A `LogicClient`: its number among those created, and what `Attach` sets in it. -/
structure ClientRef where
  object : ℕ
  serverID : String
  totalShards : ℤ

structure LogicClientPool where
  clients : List (String × ClientRef) := []
  fastClient : Option ClientRef := none
  zoneMap : KeyMap String String := .empty
  closed : Bool := false
  /-- The number of clients created. -/
  created : ℕ := 0
  /-- The clients on which `Close` was called, or will be by its goroutine. -/
  released : List ClientRef := []

namespace LogicClientPool

/-- `clients[id]`: one client or none, as the keys differ. -/
def client (p : LogicClientPool) (id : String) : List ClientRef :=
  (p.clients.filter (·.1 = id)).map Prod.snd

def updateFastClient (p : LogicClientPool) : LogicClientPool :=
  { p with fastClient := match p.clients with
      | [(_, c)] => some c
      | _ => none }

/-- The branch of `Attach` that creates a client. -/
def create (p : LogicClientPool) (m : LogicStreamMeta) : LogicClientPool :=
  { p with
    clients := (m.logicID, ⟨p.created, m.logicID, m.shardCount⟩) :: p.clients.filter (·.1 ≠ m.logicID)
    zoneMap := if m.zone ≠ "" then p.zoneMap.store m.logicID m.zone else p.zoneMap
    created := p.created + 1
    released := p.released ++ p.client m.logicID }.updateFastClient

/-- `Attach` under the lock: the pool afterwards, and the client for the stream. -/
def attach (p : LogicClientPool) (m : LogicStreamMeta) : Option (LogicClientPool × ClientRef) :=
  if p.closed then none
  else match (p.client m.logicID).find? (·.totalShards = m.shardCount) with
    | some c => some (p, c)
    | none => some (p.create m, ⟨p.created, m.logicID, m.shardCount⟩)

/-- `Close`; it leaves the fast client. -/
def close (p : LogicClientPool) : LogicClientPool :=
  { p with
    clients := []
    zoneMap := .empty
    closed := true
    released := p.released ++ p.clients.map Prod.snd }

/-- `IsConnected`, given which clients are connected. -/
def isConnected (p : LogicClientPool) (connected : ClientRef → Bool) : Bool :=
  match p.fastClient with
  | some c => connected c
  | none => p.clients.any fun e => connected e.2

inductive Op
  | attach (m : LogicStreamMeta)
  | close

/-- A second `Close` panics: its channel is closed already. -/
def step (p : LogicClientPool) : Op → Option LogicClientPool
  | .attach m => some ((p.attach m).elim p Prod.fst)
  | .close => if p.closed then none else some p.close

structure Accounted (p : LogicClientPool) : Prop where
  once : ((p.released ++ p.clients.map Prod.snd).map (·.object)).Perm (range p.created)
  keys : (p.clients.map Prod.fst).Nodup
  own : ∀ e ∈ p.clients, e.2.serverID = e.1
  fast : p.closed = false → p.fastClient = p.updateFastClient.fastClient
  shut : p.closed = true → p.clients = []

variable {p p' : LogicClientPool}

theorem Accounted.create (h : p.Accounted) (hopen : p.closed = false) (m : LogicStreamMeta) :
    (p.create m).Accounted where
  once := by
    -- the new client takes the next number, the one it replaces is released
    have hsplit : (p.client m.logicID ++ (p.clients.filter (·.1 ≠ m.logicID)).map Prod.snd).Perm
        (p.clients.map Prod.snd) := by
      simpa [client] using (filter_append_perm (·.1 = m.logicID) p.clients).map Prod.snd
    show (((p.released ++ p.client m.logicID) ++ _ :: _).map _).Perm (range (p.created + 1))
    rw [range_succ, append_assoc]
    refine ((perm_middle.append_left _).trans perm_middle |>.map _).trans ?_
    refine .trans (.cons _ ?_) (perm_append_singleton _ _).symm
    exact ((hsplit.append_left _).map _).trans h.once
  keys := nodup_cons.mpr ⟨by simp, h.keys.sublist (filter_sublist.map _)⟩
  own := forall_mem_cons.mpr ⟨rfl, fun e he => h.own e (mem_of_mem_filter he)⟩
  fast _ := rfl
  shut hshut := absurd (hopen.symm.trans hshut) nofun

theorem Accounted.step {op : Op} (h : p.Accounted) (hs : p.step op = some p') : p'.Accounted := by
  cases op with
  | attach m =>
    cases hs
    unfold attach
    split
    · exact h
    · split
      · exact h
      · exact h.create (Bool.eq_false_iff.mpr ‹_›) m
  | close =>
    obtain ⟨-, ⟨⟩⟩ := Option.ite_none_left_eq_some.mp hs
    exact ⟨by simpa [close] using h.once, nodup_nil, by simp [close], nofun, fun _ => rfl⟩

/-- **No client is lost or closed twice.** In every run of `Attach` and `Close`, each client created is
the client of its server or was handed to `Close`, and that once; the pool has one client for a server,
and none when it is closed. While it is open, the fast path of `IsConnected` answers as the loop over the
clients does, whichever are connected. -/
theorem clients_accounted (ops : List Op) (hrun : run step {} ops = some p) :
    ((p.released ++ p.clients.map Prod.snd).map (·.object)).Perm (range p.created) ∧
      (p.clients.map Prod.fst).Nodup ∧ (∀ e ∈ p.clients, e.2.serverID = e.1) ∧
      (p.closed = true → p.clients = []) ∧
      (p.closed = false → ∀ connected, p.isConnected connected = p.clients.any (connected ·.2)) := by
  have h : p.Accounted := by
    refine invariant_of_run (fun _ _ _ h => h.step) ?_ hrun
    exact ⟨.refl _, nodup_nil, by simp, fun _ => rfl, fun _ => rfl⟩
  refine ⟨h.once, h.keys, h.own, h.shut, fun hopen connected => ?_⟩
  rw [isConnected, h.fast hopen, updateFastClient]
  cases p.clients with
  | nil => rfl
  | cons e l => cases l <;> simp

/-- A server comes back with another number of shards. -/
theorem clients_accounted_replaced : ∃ p, run step {} [.attach ⟨"s", "z", 1⟩, .attach ⟨"s", "z", 2⟩] =
    some p ∧ ((p.released ++ p.clients.map Prod.snd).map (·.object)).Perm (range p.created) :=
  (Option.isSome_iff_exists.mp rfl).imp fun _ hrun => ⟨hrun, (clients_accounted _ hrun).1⟩

end LogicClientPool

end Sgate.Backend
