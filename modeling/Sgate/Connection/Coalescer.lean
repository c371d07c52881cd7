import Sgate.Connection.Output
import Sgate.Lib.KeyMap
import Sgate.Lib.Transition

/-! # The write coalescer

`AddMulti` appends a message to the buffer of a connection and marks the connection in the dirty set
of its shard. `flushLoop` swaps the dirty set of a shard for an empty one and flushes the connections
that were in it. Appending, marking, swapping, looking up, taking a buffer and `AsyncWrite` are single
steps, and any number of producers take turns with the loop. -/

namespace Sgate.Coalescer

open Output Gateway.LoginPath List

variable {ι κ : Type*}

/-! ## Dirty sets -/

/-- `writeCoalescer`: the connections with data to flush, in the order in which they were marked, and
the same as a set. The time of the last flush is left to the scheduler. -/
structure WriteCoalescer (κ : Type*) where
  dirty : List κ
  dirtySet : Finset κ
  agree : ∀ k, k ∈ dirtySet ↔ k ∈ dirty

namespace WriteCoalescer

theorem agree_new (k : κ) : k ∈ (∅ : Finset κ) ↔ k ∈ [] := by simp

/-- `newWriteCoalescer`. -/
def new : WriteCoalescer κ := ⟨[], ∅, agree_new⟩

variable [DecidableEq κ]

theorem agree_mark (w : WriteCoalescer κ) (connID k : κ) :
    k ∈ insert connID w.dirtySet ↔ k ∈ w.dirty ++ [connID] := by
  rw [Finset.mem_insert, w.agree, mem_append, mem_singleton, or_comm]

/-- The second half of `addMulti`. -/
def mark (w : WriteCoalescer κ) (connID : κ) : WriteCoalescer κ :=
  if connID ∈ w.dirtySet then w
  else ⟨w.dirty ++ [connID], insert connID w.dirtySet, w.agree_mark connID⟩

theorem mem_dirty_mark {w : WriteCoalescer κ} {connID k : κ} :
    k ∈ (w.mark connID).dirty ↔ k ∈ w.dirty ∨ k = connID := by
  unfold mark
  split
  · rename_i hmem
    constructor
    · exact Or.inl
    · rintro (hk | rfl)
      · exact hk
      · exact (w.agree k).mp hmem
  · simp

end WriteCoalescer

/-! ## States -/

/-- What `Connection` has for sending. -/
structure Conn where
  isWS : Bool
  buffer : Buffer := {}
  /-- The calls of `AsyncWrite`. -/
  written : List Bytes := []

/-- What never changes: the identifier of a connection, the hash of an identifier and the number of
shards asked for. -/
structure Layout (ι κ : Type*) where
  connID : ι → κ
  fnv1a32 : κ → ℕ
  shardCount : ℤ

namespace Layout

variable (L : Layout ι κ)

/-- `NewShardedWriteCoalescer`: 16 shards unless a number is given. -/
def shardN : ℕ := if L.shardCount ≤ 0 then 16 else L.shardCount.toNat

def getShard (connID : κ) : ℕ := L.fnv1a32 connID % L.shardN

def home (c : ι) : ℕ := L.getShard (L.connID c)

theorem home_lt (c : ι) : L.home c < L.shardN := by
  apply Nat.mod_lt
  unfold shardN
  split <;> omega

end Layout

/-- The two kinds of sweeps of `flushLoop`. -/
inductive Sweep
  /-- At a tick, with the number of dirty connections counted. -/
  | tick (totalDirty : ℕ)
  /-- After `Stop`. -/
  | final
  deriving DecidableEq

/-- `shouldFlush` of a shard; whether the interval has elapsed is up to the clock. -/
def Sweep.flushes (elapsed : Bool) : Sweep → Bool
  | .tick totalDirty => 50000 ≤ totalDirty || elapsed
  | .final => true

inductive Hand (ι : Type*)
  | empty
  /-- `GetConnection` found it. -/
  | found (c : ι)
  /-- `FlushCoalesced` took its buffer. -/
  | taken (c : ι) (data : Bytes)
  /-- The bytes to pass to `AsyncWrite`. -/
  | framed (c : ι) (data : Bytes)

/-- Where `flushLoop` stands. -/
inductive FlushLoop (ι κ : Type*)
  | selecting
  /-- Counting: the shards below `shard` have `totalDirty` dirty connections. -/
  | counting (shard totalDirty : ℕ)
  /-- About to look at `shard`. -/
  | sweeping (sweep : Sweep) (shard : ℕ)
  /-- In `flush` of `shard`, with the identifiers of `batch` still to visit. -/
  | visiting (sweep : Sweep) (shard : ℕ) (hand : Hand ι) (batch : List κ)
  | returned

structure State (ι κ : Type*) where
  conn : ι → Conn
  /-- What `GetConnection` finds. -/
  registry : KeyMap κ ι
  shards : ℕ → WriteCoalescer κ
  /-- The producers in `addMulti` that have appended and not marked yet. -/
  producers : List ι
  loop : FlushLoop ι κ
  /-- `stopCh` is closed. -/
  stopped : Bool

/-- What a scheduler can do. -/
inductive Action (ι κ : Type*)
  /-- A producer calls `AddMulti` and appends. -/
  | append (c : ι) (payload : Bytes)
  /-- A producer marks its connection. -/
  | mark (c : ι)
  /-- A connection is registered under its identifier. -/
  | register (c : ι)
  | unregister (connID : κ)
  | setWS (c : ι) (isWS : Bool)
  | stop
  /-- The loop goes on; `choice` stands for the channel `select` takes and for the clock. -/
  | loop (choice : Bool)
  deriving DecidableEq

/-! ## Steps -/

namespace State

def setShard (s : State ι κ) (i : ℕ) (w : WriteCoalescer κ) : State ι κ :=
  { s with shards := Function.update s.shards i w }

/-- The loop goes to another position. -/
def go (s : State ι κ) (loop : FlushLoop ι κ) : State ι κ := { s with loop := loop }

@[simp] theorem go_conn (s : State ι κ) (l : FlushLoop ι κ) : (s.go l).conn = s.conn := rfl

@[simp] theorem go_loop (s : State ι κ) (l : FlushLoop ι κ) : (s.go l).loop = l := rfl

variable [DecidableEq ι]

def modify (s : State ι κ) (c : ι) (f : Conn → Conn) : State ι κ :=
  { s with conn := Function.update s.conn c (f (s.conn c)) }

@[simp] theorem modify_conn_self (s : State ι κ) (c : ι) (f : Conn → Conn) :
    (s.modify c f).conn c = f (s.conn c) := Function.update_self ..

@[simp] theorem modify_conn_of_ne (s : State ι κ) {c d : ι} (f : Conn → Conn) (h : c ≠ d) :
    (s.modify d f).conn c = s.conn c := Function.update_of_ne h ..

variable (L : Layout ι κ)

/-- One step of `flushLoop`. -/
def flushLoop (s : State ι κ) (choice : Bool) : Option (State ι κ) :=
  match s.loop with
  | .selecting =>
    if choice then
      if s.stopped then some (s.go (.sweeping .final 0)) else none
    else some (s.go (.counting 0 0))
  | .counting i totalDirty =>
    if i < L.shardN then
      some (s.go (.counting (i + 1) (totalDirty + (s.shards i).dirty.length)))
    else if 0 < totalDirty then some (s.go (.sweeping (.tick totalDirty) 0))
    else some (s.go .selecting)
  | .sweeping sweep i =>
    if i < L.shardN then
      -- the check of the clock and the swap are one step: what the check reads is the loop's own
      if sweep.flushes choice = true ∧ (s.shards i).dirty ≠ [] then
        some ((s.setShard i .new).go (.visiting sweep i .empty (s.shards i).dirty))
      else some (s.go (.sweeping sweep (i + 1)))
    else
      match sweep with
      | .tick _ => some (s.go .selecting)
      | .final => some (s.go .returned)
  | .visiting sweep i .empty [] => some (s.go (.sweeping sweep (i + 1)))
  | .visiting sweep i .empty (k :: batch) =>
    match s.registry k with
    | none => some (s.go (.visiting sweep i .empty batch))
    | some c => some (s.go (.visiting sweep i (.found c) batch))
  | .visiting sweep i (.found c) batch =>
    if (s.conn c).buffer.coalescedCount = 0 then
      some (s.go (.visiting sweep i .empty batch))
    else
      some ((s.modify c fun x => { x with buffer := {} }).go
        (.visiting sweep i (.taken c (s.conn c).buffer.coalescedData) batch))
  | .visiting sweep i (.taken c data) batch =>
    some (s.go (.visiting sweep i (.framed c (outgoing (s.conn c).isWS data)) batch))
  | .visiting sweep i (.framed c data) batch =>
    some ((s.modify c fun x => { x with written := x.written ++ [data] }).go
      (.visiting sweep i .empty batch))
  | .returned => none

/-- The ways `flushLoop` goes on from a position. -/
inductive Advance (L : Layout ι κ) (s : State ι κ) : FlushLoop ι κ → State ι κ → Prop
  | tick : Advance L s .selecting (s.go (.counting 0 0))
  | stop : Advance L s .selecting (s.go (.sweeping .final 0))
  | count {i n : ℕ} : Advance L s (.counting i n)
      (s.go (.counting (i + 1) (n + (s.shards i).dirty.length)))
  | someDirty {i n : ℕ} : Advance L s (.counting i n) (s.go (.sweeping (.tick n) 0))
  | noneDirty {i n : ℕ} : Advance L s (.counting i n) (s.go .selecting)
  | swap {w : Sweep} {i : ℕ} : Advance L s (.sweeping w i)
      ((s.setShard i .new).go (.visiting w i .empty (s.shards i).dirty))
  | pass {w : Sweep} {i : ℕ} : (w = .final → (s.shards i).dirty = []) →
      Advance L s (.sweeping w i) (s.go (.sweeping w (i + 1)))
  | sweptTick {i n : ℕ} : Advance L s (.sweeping (.tick n) i) (s.go .selecting)
  | sweptFinal {i : ℕ} : L.shardN ≤ i → Advance L s (.sweeping .final i) (s.go .returned)
  | visited {w : Sweep} {i : ℕ} :
      Advance L s (.visiting w i .empty []) (s.go (.sweeping w (i + 1)))
  | gone {w : Sweep} {i : ℕ} {k : κ} {batch : List κ} : s.registry k = none →
      Advance L s (.visiting w i .empty (k :: batch)) (s.go (.visiting w i .empty batch))
  | find {w : Sweep} {i : ℕ} {k : κ} {c : ι} {batch : List κ} : s.registry k = some c →
      Advance L s (.visiting w i .empty (k :: batch))
        (s.go (.visiting w i (.found c) batch))
  | blank {w : Sweep} {i : ℕ} {c : ι} {batch : List κ} : (s.conn c).buffer.coalescedCount = 0 →
      Advance L s (.visiting w i (.found c) batch) (s.go (.visiting w i .empty batch))
  | take {w : Sweep} {i : ℕ} {c : ι} {batch : List κ} : (s.conn c).buffer.coalescedCount ≠ 0 →
      Advance L s (.visiting w i (.found c) batch)
        ((s.modify c fun x => { x with buffer := {} }).go
          (.visiting w i (.taken c (s.conn c).buffer.coalescedData) batch))
  | frame {w : Sweep} {i : ℕ} {c : ι} {data : Bytes} {batch : List κ} :
      Advance L s (.visiting w i (.taken c data) batch)
        (s.go (.visiting w i (.framed c (outgoing (s.conn c).isWS data)) batch))
  | write {w : Sweep} {i : ℕ} {c : ι} {data : Bytes} {batch : List κ} :
      Advance L s (.visiting w i (.framed c data) batch)
        ((s.modify c fun x => { x with written := x.written ++ [data] }).go
          (.visiting w i .empty batch))

variable {L} {s s' : State ι κ}

theorem advance_of_flushLoop {choice : Bool} (h : s.flushLoop L choice = some s') :
    Advance L s s.loop s' := by
  unfold flushLoop at h
  generalize s.loop = l at h
  split at h
  · split at h
    · split at h <;> cases h
      exact .stop
    · cases h
      exact .tick
  · split at h
    · cases h
      exact .count
    · split at h <;> cases h
      · exact .someDirty
      · exact .noneDirty
  · rename_i w i
    split at h
    · split at h <;> cases h
      · exact .swap
      · rename_i hskip
        refine .pass fun hw => ?_
        simpa [hw, Sweep.flushes] using hskip
    · rename_i hend
      cases w <;> cases h
      · exact .sweptTick
      · exact .sweptFinal (Nat.le_of_not_lt hend)
  · cases h
    exact .visited
  · split at h <;> cases h
    · exact .gone ‹_›
    · exact .find ‹_›
  · split at h <;> cases h
    · exact .blank ‹_›
    · exact .take ‹_›
  · cases h
    exact .frame
  · cases h
    exact .write
  · cases h

variable [DecidableEq κ] (L)

def step (s : State ι κ) : Action ι κ → Option (State ι κ)
  | .append c payload =>
    let s := s.modify c fun x => { x with buffer := x.buffer.appendCoalesced payload }
    some { s with producers := c :: s.producers }
  | .mark c =>
    if c ∈ s.producers then
      let s := s.setShard (L.home c) ((s.shards (L.home c)).mark (L.connID c))
      some { s with producers := s.producers.erase c }
    else none
  | .register c => some { s with registry := s.registry.store (L.connID c) c }
  | .unregister connID => some { s with registry := s.registry.delete connID }
  | .setWS c isWS => some (s.modify c fun x => { x with isWS := isWS })
  | .stop => if s.stopped then none else some { s with stopped := true }
  | .loop choice => s.flushLoop L choice

end State

open State

/-! ## What one connection sees -/

section Lanes

variable [DecidableEq ι]

/-- What the loop holds of a connection, as it will be passed to `AsyncWrite`. -/
def FlushLoop.inHand (isWS : Bool) (c : ι) : FlushLoop ι κ → List Bytes
  | .visiting _ _ (.taken d data) _ => if d = c then [outgoing isWS data] else []
  | .visiting _ _ (.framed d data) _ => if d = c then [data] else []
  | _ => []

/-- A connection with its buffer and the calls of `AsyncWrite` made or about to be made. -/
structure Lane where
  buffer : Buffer
  sent : List Bytes
  deriving DecidableEq

def State.lane (isWS : Bool) (c : ι) (s : State ι κ) : Lane where
  buffer := (s.conn c).buffer
  sent := (s.conn c).written ++ s.loop.inHand isWS c

def Action.payloads (c : ι) : Action ι κ → List Bytes
  | .append d payload => if d = c then [payload] else []
  | _ => []

/-- The messages appended for a connection in a run. -/
def appended (c : ι) (as : List (Action ι κ)) : List Bytes := as.flatMap (Action.payloads c)

/-- What can happen to a lane, with the messages appended. -/
inductive Lane.Move (isWS : Bool) : Lane → List Bytes → Lane → Prop
  | stay (l : Lane) : Move isWS l [] l
  | append (l : Lane) (p : Bytes) : Move isWS l [p] { l with buffer := l.buffer.appendCoalesced p }
  | take (l : Lane) : Move isWS l []
      { buffer := {}, sent := l.sent ++ [outgoing isWS l.buffer.coalescedData] }

variable {L : Layout ι κ} {s s' : State ι κ} {c : ι} {isWS : Bool}

theorem lane_congr (hconn : s'.conn c = s.conn c)
    (hhand : s'.loop.inHand isWS c = s.loop.inHand isWS c) : s'.lane isWS c = s.lane isWS c := by
  rw [lane, lane, hconn, hhand]

attribute [local simp] State.lane FlushLoop.inHand

theorem move_of_advance (hws : (s.conn c).isWS = isWS) (h : State.Advance L s s.loop s') :
    Lane.Move isWS (s.lane isWS c) [] (s'.lane isWS c) := by
  have stay : s'.lane isWS c = s.lane isWS c →
      Lane.Move isWS (s.lane isWS c) [] (s'.lane isWS c) := by
    intro hlane
    rw [hlane]
    exact .stay _
  generalize hl : s.loop = l at h
  cases h with
  | @take w i d batch hcount =>
    by_cases hd : c = d
    · subst hd
      have hbefore : s.lane isWS c = ⟨(s.conn c).buffer, (s.conn c).written⟩ := by
        simp [hl]
      rw [hbefore]
      simpa using
        Lane.Move.take ⟨(s.conn c).buffer, (s.conn c).written⟩
    · exact stay (lane_congr (by simp [hd]) (by simp [hl, Ne.symm hd]))
  | @frame w i d data batch =>
    refine stay (lane_congr rfl ?_)
    by_cases hd : d = c
    · subst hd
      simp [hl, hws]
    · simp [hl, hd]
  | @write w i d data batch =>
    by_cases hd : c = d
    · subst hd
      exact stay (by simp [hl])
    · exact stay (lane_congr (by simp [hd]) (by simp [hl, Ne.symm hd]))
  | _ => exact stay (lane_congr rfl (by simp [hl]))

theorem move_of_step [DecidableEq κ] {a : Action ι κ} (hws : (s.conn c).isWS = isWS)
    (h : s.step L a = some s') :
    Lane.Move isWS (s.lane isWS c) (a.payloads c) (s'.lane isWS c) := by
  have stay : s'.lane isWS c = s.lane isWS c → a.payloads c = [] →
      Lane.Move isWS (s.lane isWS c) (a.payloads c) (s'.lane isWS c) := by
    intro hlane hnone
    rw [hlane, hnone]
    exact .stay _
  cases a with
  | append d payload =>
    cases h
    by_cases hd : c = d
    · subst hd
      simpa [Action.payloads] using .append _ payload
    · refine stay (lane_congr ?_ rfl) (if_neg (Ne.symm hd))
      exact Function.update_of_ne hd ..
  | mark d =>
    simp only [State.step] at h
    split at h <;> cases h
    exact stay rfl rfl
  | register d | unregister k =>
    cases h
    exact stay rfl rfl
  | setWS d b =>
    cases h
    refine stay ?_ rfl
    by_cases hd : c = d
    · subst hd
      simp [State.modify]
    · exact lane_congr (State.modify_conn_of_ne s _ hd) rfl
  | stop =>
    simp only [State.step] at h
    split at h <;> cases h
    exact stay rfl rfl
  | loop choice => exact move_of_advance hws (State.advance_of_flushLoop h)

variable {l l' : Lane}

theorem Lane.Move.pending {qs : List Bytes} (h : Lane.Move isWS l qs l')
    (hcount : l'.buffer.coalescedCount ≠ 0) : l.buffer.coalescedCount ≠ 0 ∨ qs ≠ [] := by
  cases h with
  | stay => exact .inl hcount
  | append p => exact .inr (cons_ne_nil p [])
  | take => exact absurd rfl hcount

/-! ## Nothing is lost, duplicated or reordered -/

/-- The messages `ps` were sent in flushes, in order, except for a rest that the buffer holds. -/
def Lane.Conserves (isWS : Bool) (ps : List Bytes) (l : Lane) : Prop :=
  ∃ flushed : List (List Bytes), ∃ pending : List Bytes, flushed.flatten ++ pending = ps ∧
    l.buffer.Holds pending ∧ l.sent = flushed.map fun qs => outgoing isWS (qs.flatMap writeFrame)

theorem Lane.Conserves.move {ps qs : List Bytes} (h : l.Conserves isWS ps)
    (hmove : Lane.Move isWS l qs l') : l'.Conserves isWS (ps ++ qs) := by
  obtain ⟨flushed, pending, rfl, hholds, hsent⟩ := h
  cases hmove with
  | stay => exact ⟨flushed, pending, by simp, hholds, hsent⟩
  | append p => exact ⟨flushed, pending ++ [p], by simp, hholds.append p, hsent⟩
  | take =>
    -- the buffer becomes the last flush
    refine ⟨flushed ++ [pending], [], by simp, Buffer.holds_empty, ?_⟩
    rw [hsent, hholds.data_eq, map_append, map_singleton]

theorem Lane.Conserves.flatten_eq {ps : List Bytes} {l : Lane} (h : l.Conserves isWS ps)
    (hread : Readable isWS ps) :
    l.sent.flatten ++ outgoing isWS l.buffer.coalescedData = ps.flatMap (framed isWS) := by
  obtain ⟨flushed, pending, rfl, hholds, hsent⟩ := h
  have hpending : Readable isWS pending := fun hws p hp => hread hws p (mem_append_right _ hp)
  have hflushed : ∀ qs ∈ flushed,
      outgoing isWS (qs.flatMap writeFrame) = qs.flatMap (framed isWS) := by
    intro qs hqs
    refine outgoing_flatMap fun hws p hp => hread hws p (mem_append_left _ ?_)
    exact mem_flatten_of_mem hqs hp
  rw [hsent, map_congr_left hflushed, hholds.data_eq, outgoing_flatMap hpending,
    flatMap_append, ← flatMap_def, flatten_eq_flatMap, flatMap_assoc]
  rfl

/-! ## Pending messages are seen to -/

/-- The loop is going to flush the connection in this pass. -/
def FlushLoop.Visits (connID : κ) (c : ι) : FlushLoop ι κ → Prop
  | .visiting _ _ hand batch => hand = .found c ∨ connID ∈ batch
  | _ => False

/-- The loop is going to look at a shard, at the latest in its final sweep. -/
def FlushLoop.Sweeps (shard : ℕ) : FlushLoop ι κ → Prop
  | .sweeping .final i => i ≤ shard
  | .visiting .final i _ _ => i < shard
  | .returned => False
  | _ => True

/-- Pending messages have someone who will see to them: the connection is in the dirty set, or the
loop is going to visit it, or a producer is going to mark it. -/
def Awake (L : Layout ι κ) (c : ι) (s : State ι κ) : Prop :=
  L.connID c ∈ (s.shards (L.home c)).dirty ∨ s.loop.Visits (L.connID c) c ∨ c ∈ s.producers

/-- Pending messages will be flushed without the help of a producer. -/
def Scheduled (L : Layout ι κ) (c : ι) (s : State ι κ) : Prop :=
  L.connID c ∈ (s.shards (L.home c)).dirty ∧ s.loop.Sweeps (L.home c) ∨ s.loop.Visits (L.connID c) c

/-- What a step does to a connection that waits: it goes on to wait for a visit, or it stays in the
dirty set and the loop does not get past its shard, or it moves from there into the batch. -/
structure Attends (L : Layout ι κ) (c : ι) (s s' : State ι κ) : Prop where
  visits : s.loop.Visits (L.connID c) c → s'.loop.Visits (L.connID c) c
  dirty : L.connID c ∈ (s.shards (L.home c)).dirty → L.connID c ∈ (s'.shards (L.home c)).dirty ∧
      (s.loop.Sweeps (L.home c) → s'.loop.Sweeps (L.home c)) ∨
    s'.loop.Visits (L.connID c) c

omit [DecidableEq ι] in
theorem attends_in_batch {w : Sweep} {i : ℕ} {hand hand' : Hand ι} {batch batch' : List κ}
    (hl : s.loop = .visiting w i hand batch) (hl' : s'.loop = .visiting w i hand' batch')
    (hshards : s'.shards = s.shards)
    (hvisits : hand = .found c ∨ L.connID c ∈ batch → hand' = .found c ∨ L.connID c ∈ batch') :
    Attends L c s s' := by
  refine ⟨?_, fun hmem => .inl ⟨by rwa [hshards], ?_⟩⟩
  · rw [hl, hl']
    exact hvisits
  · rw [hl, hl']
    cases w <;> exact id

theorem attends_of_advance (hreg : s.registry (L.connID c) = some c)
    (h : State.Advance L s s.loop s') (hcount : (s'.conn c).buffer.coalescedCount ≠ 0) :
    Attends L c s s' := by
  generalize hl : s.loop = l at h
  cases h with
  | @swap w i =>
    refine ⟨by simp [hl, FlushLoop.Visits], fun hmem => ?_⟩
    by_cases hi : L.home c = i
    · subst hi
      exact .inr (.inr hmem)
    · refine .inl ⟨?_, ?_⟩
      · simpa [State.go, State.setShard, hi] using hmem
      · cases w with
        | tick => simp [FlushLoop.Sweeps]
        | final =>
          simp only [hl, FlushLoop.Sweeps, State.go_loop]
          omega
  | @pass w i hempty =>
    refine ⟨by simp [hl, FlushLoop.Visits], fun hmem => .inl ⟨hmem, ?_⟩⟩
    cases w with
    | tick => simp [FlushLoop.Sweeps]
    | final =>
      have hi : L.home c ≠ i := by
        rintro rfl
        simp [hempty rfl] at hmem
      simp only [hl, FlushLoop.Sweeps, State.go_loop]
      omega
  | @sweptFinal i hend =>
    have := L.home_lt c
    refine ⟨by simp [hl, FlushLoop.Visits], fun hmem => .inl ⟨hmem, ?_⟩⟩
    simp only [hl, FlushLoop.Sweeps, State.go_loop]
    omega
  | @visited w i =>
    refine ⟨by simp [hl, FlushLoop.Visits], fun hmem => .inl ⟨hmem, ?_⟩⟩
    rw [hl, State.go_loop]
    cases w with
    | tick _ => exact fun _ => trivial
    | final => exact id
  | @gone w i k batch hk =>
    have hne : L.connID c ≠ k := by
      rintro rfl
      simp [hreg] at hk
    exact attends_in_batch hl rfl rfl (by simp [hne])
  | @find w i k d batch hk =>
    refine attends_in_batch hl rfl rfl ?_
    by_cases hk' : L.connID c = k
    · -- its own identifier is next: the registry gives the connection itself
      obtain rfl : c = d := by simpa [← hk', hreg] using hk
      simp
    · simp only [reduceCtorEq, false_or, mem_cons, hk']
      exact .inr
  | @blank w i d batch hzero =>
    have hne : d ≠ c := by
      rintro rfl
      exact hcount hzero
    exact attends_in_batch hl rfl rfl (by simp [hne])
  | @take w i d batch hsome =>
    have hne : d ≠ c := by
      rintro rfl
      simp at hcount
    exact attends_in_batch hl rfl rfl (by simp [hne])
  | frame | write => exact attends_in_batch hl rfl rfl (by simp)
  | _ => exact ⟨by simp [hl, FlushLoop.Visits], fun hmem => .inl ⟨hmem, by simp [FlushLoop.Sweeps]⟩⟩

end Lanes

section Runs

variable [DecidableEq ι] [DecidableEq κ] {L : Layout ι κ} {s s' : State ι κ} {c : ι} {isWS : Bool}
  {a : Action ι κ}

theorem producers_of_step (h : s.step L a = some s') :
    s'.producers = match a with
      | .append d _ => d :: s.producers
      | .mark d => s.producers.erase d
      | _ => s.producers := by
  cases a with
  | mark d =>
    simp only [step] at h
    split at h <;> cases h
    rfl
  | stop =>
    simp only [step] at h
    split at h <;> cases h
    rfl
  | loop choice =>
    have hadvance := advance_of_flushLoop h
    generalize s.loop = l at hadvance
    cases hadvance <;> rfl
  | _ =>
    cases h
    rfl

theorem mem_dirty_of_mark (h : s.step L (.mark c) = some s') :
    L.connID c ∈ (s'.shards (L.home c)).dirty := by
  simp only [step] at h
  split at h <;> cases h
  simp [setShard, WriteCoalescer.mem_dirty_mark]

section

variable (hreg : s.registry (L.connID c) = some c) (h : s.step L a = some s')
  (hcount : (s'.conn c).buffer.coalescedCount ≠ 0)
include hreg h hcount

theorem attends_of_step : Attends L c s s' := by
  -- all but the loop leave the loop alone and can only add to the dirty set
  have grow : s'.loop = s.loop → (L.connID c ∈ (s.shards (L.home c)).dirty →
      L.connID c ∈ (s'.shards (L.home c)).dirty) → Attends L c s s' := by
    intro hloop hdirty
    exact ⟨by rw [hloop]; exact id, fun hmem => .inl ⟨hdirty hmem, by rw [hloop]; exact id⟩⟩
  cases a with
  | mark d =>
    simp only [step] at h
    split at h <;> cases h
    refine grow rfl fun hmem => ?_
    by_cases hhome : L.home c = L.home d
    · simpa [setShard, hhome, WriteCoalescer.mem_dirty_mark] using
        Or.inl (hhome ▸ hmem)
    · simpa [setShard, hhome] using hmem
  | stop =>
    simp only [step] at h
    split at h <;> cases h
    exact grow rfl id
  | loop choice => exact attends_of_advance hreg (advance_of_flushLoop h) hcount
  | _ =>
    cases h
    exact grow rfl id

/-- **No lost wakeup.** Messages that are pending after a step are seen to. -/
theorem awake_of_step (hawake : (s.conn c).buffer.coalescedCount ≠ 0 → Awake L c s) :
    Awake L c s' := by
  have hattends := attends_of_step hreg h hcount
  have hproducers := producers_of_step h
  -- a producer stays one, or has just marked the connection
  have hproduces : c ∈ s.producers ∨ a.payloads c ≠ [] → Awake L c s' := by
    intro hc
    cases a with
    | append d p =>
      refine .inr (.inr ?_)
      rw [hproducers, mem_cons]
      by_cases hd : d = c
      · exact .inl hd.symm
      · exact .inr (hc.resolve_right (by simp [Action.payloads, hd]))
    | mark d =>
      by_cases hd : c = d
      · subst hd
        exact .inl (mem_dirty_of_mark h)
      · have hmem := hc.resolve_right (fun hne => hne rfl)
        refine .inr (.inr ?_)
        rw [hproducers]
        exact (mem_erase_of_ne hd).mpr hmem
    | _ =>
      have hmem := hc.resolve_right (fun hne => hne rfl)
      exact .inr (.inr (hproducers ▸ hmem))
  rcases (move_of_step (c := c) rfl h).pending hcount with hbefore | happends
  · rcases hawake hbefore with hdirty | hvisits | hmem
    · rcases hattends.dirty hdirty with hstays | hbatch
      · exact .inl hstays.1
      · exact .inr (.inl hbatch)
    · exact .inr (.inl (hattends.visits hvisits))
    · exact hproduces (.inl hmem)
  · exact hproduces (.inr happends)

theorem scheduled_of_step (hquiet : a.payloads c = [])
    (hscheduled : (s.conn c).buffer.coalescedCount ≠ 0 → Scheduled L c s) : Scheduled L c s' := by
  have hattends := attends_of_step hreg h hcount
  have hbefore := ((move_of_step (c := c) rfl h).pending hcount).resolve_right fun hne => hne hquiet
  rcases hscheduled hbefore with ⟨hdirty, hsweeps⟩ | hvisits
  · rcases hattends.dirty hdirty with ⟨hstays, hgoesOn⟩ | hbatch
    · exact .inl ⟨hstays, hgoesOn hsweeps⟩
    · exact .inr hbatch
  · exact .inr (hattends.visits hvisits)

end

/-! ## Whole runs -/

/-- The connection is registered and has this transport type. -/
def Stays (L : Layout ι κ) (c : ι) (isWS : Bool) (s : State ι κ) : Prop :=
  s.registry (L.connID c) = some c ∧ (s.conn c).isWS = isWS

/-- Nothing was appended to the connection or written to it. -/
def State.Fresh (c : ι) (s : State ι κ) : Prop := ∀ isWS, s.lane isWS c = ⟨{}, []⟩
  deriving Decidable

/-- The loop has returned, and there was no producer on the connection since some moment before the
final sweep got to its shard. -/
def FinallyFlushed (L : Layout ι κ) (c : ι) (s : State ι κ) (as : List (Action ι κ))
    (s' : State ι κ) : Prop :=
  s'.loop = .returned ∧ ∃ bs cs u, as = bs ++ cs ∧ Transition.run (State.step L) s bs = some u ∧
    c ∉ u.producers ∧ u.loop.Sweeps (L.home c) ∧ appended c cs = []

instance (L : Layout ι κ) (c : ι) (isWS : Bool) (s : State ι κ) : Decidable (Stays L c isWS s) :=
  inferInstanceAs (Decidable (_ ∧ _))

variable {as cs : List (Action ι κ)}

theorem scheduled_of_run (hquiet : appended c cs = [])
    (hscheduled : (s.conn c).buffer.coalescedCount ≠ 0 → Scheduled L c s)
    (hstays : Transition.Throughout (step L) (Stays L c isWS) s cs)
    (hrun : Transition.run (step L) s cs = some s') :
    (s'.conn c).buffer.coalescedCount ≠ 0 → Scheduled L c s' := by
  refine hstays.history (R := fun past s => appended c past = [] →
    (s.conn c).buffer.coalescedCount ≠ 0 → Scheduled L c s) hrun (fun _ => hscheduled)
    (fun past s a s' hpast hs hstep hnone => ?_) hquiet
  rw [appended, flatMap_append, flatMap_singleton, append_eq_nil_iff] at hnone
  exact fun hcount => scheduled_of_step hs.1 hstep hcount hnone.2 (hpast hnone.1)

section

variable (hfresh : s.Fresh c) (hstays : Transition.Throughout (State.step L) (Stays L c isWS) s as)
  (hrun : Transition.run (State.step L) s as = some s')
include hfresh hstays hrun

theorem conserves_of_run : (s'.lane isWS c).Conserves isWS (appended c as) := by
  refine hstays.history (R := fun past s => (s.lane isWS c).Conserves isWS (appended c past)) hrun
    ?_ fun past s a s' hpast hs hstep => ?_
  · rw [hfresh isWS]
    exact ⟨[], [], rfl, Buffer.holds_empty, rfl⟩
  · have hnext := hpast.move (move_of_step hs.2 hstep)
    rwa [appended, flatMap_append, flatMap_singleton]

theorem awake_of_run : (s'.conn c).buffer.coalescedCount ≠ 0 → Awake L c s' := by
  refine hstays.history
    (R := fun _ s => (s.conn c).buffer.coalescedCount ≠ 0 → Awake L c s) hrun ?_
    fun past s a s' hpast hs hstep hcount => awake_of_step hs.1 hstep hcount hpast
  intro hcount
  have hempty : (s.conn c).buffer = {} := congrArg Lane.buffer (hfresh isWS)
  exact absurd (congrArg Buffer.coalescedCount hempty) hcount

theorem pending_of_finallyFlushed (hfinal : FinallyFlushed L c s as s') :
    (s'.conn c).buffer.coalescedCount = 0 := by
  obtain ⟨hreturned, bs, cs, u, rfl, hbs, hidle, hsweeps, hquiet⟩ := hfinal
  obtain ⟨hbefore, hafter⟩ := hstays.split hbs
  rw [Transition.run_append hbs] at hrun
  have hu : (u.conn c).buffer.coalescedCount ≠ 0 → Scheduled L c u := by
    intro hcount
    rcases awake_of_run hfresh hbefore hbs hcount with hdirty | hvisits | hmem
    · exact .inl ⟨hdirty, hsweeps⟩
    · exact .inr hvisits
    · exact absurd hmem hidle
  by_contra hcount
  -- a loop that returned neither sweeps nor visits
  rcases scheduled_of_run hquiet hu hafter hrun hcount with ⟨-, hswept⟩ | hvisited
  · rw [hreturned] at hswept
    exact hswept
  · rw [hreturned] at hvisited
    exact hvisited

end

/-- **The coalescer loses, duplicates and reorders nothing.** For a connection that stays registered
and keeps its transport type, in every interleaving of producers with the loop: the messages appended
were flushed in order, except for a rest in the buffer; as bytes, what was passed to `AsyncWrite`,
followed by what the loop holds and by the buffer, is the messages one by one in the framing of the
transport; pending messages are seen to; and nothing is pending after the final flush. -/
theorem coalescer_conserves (hfresh : s.Fresh c)
    (hstays : Transition.Throughout (State.step L) (Stays L c isWS) s as)
    (hrun : Transition.run (State.step L) s as = some s') :
    (s'.lane isWS c).Conserves isWS (appended c as) ∧
    (Readable isWS (appended c as) →
      (s'.conn c).written.flatten ++ (s'.loop.inHand isWS c).flatten ++
        outgoing isWS (s'.conn c).buffer.coalescedData = (appended c as).flatMap (framed isWS)) ∧
    ((s'.conn c).buffer.coalescedCount ≠ 0 → Awake L c s') ∧
    (FinallyFlushed L c s as s' → (s'.conn c).buffer = {} ∧ s'.loop.inHand isWS c = []) := by
  have hconserves := conserves_of_run hfresh hstays hrun
  refine ⟨hconserves, fun hread => ?_, awake_of_run hfresh hstays hrun, fun hfinal => ?_⟩
  · have hbytes := hconserves.flatten_eq hread
    rwa [lane, flatten_append] at hbytes
  · have hcount := pending_of_finallyFlushed hfresh hstays hrun hfinal
    obtain ⟨_, pending, -, hholds, -⟩ := hconserves
    obtain rfl : pending = [] := by
      rw [← length_eq_zero_iff, ← hholds.count_eq]
      exact hcount
    exact ⟨hholds.eq_empty, by rw [hfinal.1]; rfl⟩

end Runs

def oneShard : Layout Unit Unit := ⟨id, fun _ => 0, 1⟩

/-- The connection is registered and nothing was sent yet. -/
def registered : State Unit Unit where
  conn _ := { isWS := false }
  registry _ := some ()
  shards _ := .new
  producers := []
  loop := .selecting
  stopped := false

/-- Two producers append, one of them marks, the loop takes the buffer at a tick, and another message
arrives while the loop has the first two in hand. -/
def arrivals : List (Action Unit Unit) :=
  [.append () [1], .append () [2, 3], .mark (), .loop false, .loop false, .loop false, .loop true,
    .loop false, .loop false, .append () [4], .mark (), .mark ()]

/-- The coalescer is stopped; the loop finishes its pass and makes its final sweep. -/
def shutdown : List (Action Unit Unit) :=
  [.stop, .loop false, .loop false, .loop false, .loop false, .loop true, .loop false, .loop false,
    .loop false, .loop false, .loop false, .loop false, .loop false]

theorem coalescer_conserves_shutdown :
    ∃ s', Transition.run (State.step oneShard) registered (arrivals ++ shutdown) = some s' ∧
      (s'.conn ()).written = [[0, 0, 0, 1, 1, 0, 0, 0, 2, 2, 3], [0, 0, 0, 1, 4]] ∧
      FinallyFlushed oneShard () registered (arrivals ++ shutdown) s' ∧
      (s'.conn ()).buffer = {} := by
  have hstays : Transition.Throughout (step oneShard) (Stays oneShard () false) registered
      (arrivals ++ shutdown) := by decide
  obtain ⟨s', hrun, hwritten, hreturned⟩ : ∃ s',
      Transition.run (step oneShard) registered (arrivals ++ shutdown) = some s' ∧
        (s'.conn ()).written = [[0, 0, 0, 1, 1, 0, 0, 0, 2, 2, 3], [0, 0, 0, 1, 4]] ∧
        s'.loop = .returned := ⟨_, rfl, by decide, rfl⟩
  have hfinal : FinallyFlushed oneShard () registered (arrivals ++ shutdown) s' :=
    ⟨hreturned, arrivals, shutdown, _, rfl, rfl, by decide, trivial, rfl⟩
  exact ⟨s', hrun, hwritten, hfinal, ((coalescer_conserves (by decide) hstays hrun).2.2.2 hfinal).1⟩

end Sgate.Coalescer
