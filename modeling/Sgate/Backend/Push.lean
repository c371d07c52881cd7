import Sgate.Routes.Frame
import Mathlib.Data.List.Induction
import Mathlib.Data.List.Perm.Basic
import Mathlib.Data.List.Nodup
import Mathlib.Data.Nat.Digits.Defs
import Mathlib.Logic.Encodable.Basic
import Mathlib.Logic.Equiv.List

/-! # Messages pushed to clients

`receiveMessages` hands what a logic server sends to the connections. In plain mode every message
becomes a frame of its own; with `batchPush` the messages to sessions are collected, and `flushBatch`
sends those of each connection as one `PushBatch` frame. -/

namespace Sgate.Backend

open Routes List

/-! ## Frames and batches -/

def batchFlushSize : ℕ := 128

/-- `MessageFrame`, the envelope of every frame to a client. -/
structure MessageFrame where
  cmd : Int := 0
  seqId : Int := 0
  body : Bytes := []
  deriving DecidableEq

/-- `PushItem`, a message within a `PushBatch`. -/
structure PushItem where
  sessionId : String
  cmd : Int
  data : Bytes
  seqId : Int
  deriving DecidableEq

/-- The protobuf runtime, and how a client reads what it wrote. Frames and items have numbers, bytes
and text in UTF-8 only, which are always encoded. -/
structure PushCodec where
  marshalFrame : MessageFrame → Option Bytes
  unmarshalFrame : Bytes → Option MessageFrame
  /-- `MarshalAppend` of a `PushBatch` with these items. -/
  marshalBatch : List PushItem → Option Bytes
  unmarshalBatch : Bytes → Option (List PushItem)
  frame_read : ∀ f, ∃ b, marshalFrame f = some b ∧ unmarshalFrame b = some f
  batch_read : ∀ items, ∃ b, marshalBatch items = some b ∧ unmarshalBatch b = some items

def PushCodec.marshalClientMessage (codec : PushCodec) (m : StreamData) : Option Bytes :=
  codec.marshalFrame { cmd := m.cmd, seqId := m.seqId, body := m.data }

/-- `connBatch`, with its key in the map of the flush. -/
structure ConnBatch where
  sessionId : String
  items : List PushItem

/-- The order in which a pass through the map meets its entries. -/
structure MapOrder where
  range : List ConnBatch → List ConnBatch
  perm : ∀ l, (range l).Perm l

/-- What the receive loop works with: the encodings and the connections that are registered. -/
structure Downstream where
  codec : PushCodec
  /-- The connections in the order of `ForEach`. -/
  live : List String

/-- The batch of the receive loop and what the loop did so far. Payloads are handed to a connection
through the coalescer or by `Send`, which both keep their order. -/
structure Push where
  batch : List StreamData := []
  /-- Payloads and the connections they were handed to, oldest first. -/
  delivered : List (String × Bytes) := []
  pushedToClient : ℕ := 0
  pushDroppedNoConn : ℕ := 0
  /-- The calls of `UpdateConnectionUserUUID`. -/
  userKeys : List (String × String) := []

namespace Downstream

variable (d : Downstream)

/-! ## Flushing -/

def pushItem (m : StreamData) : PushItem :=
  { sessionId := m.sessionId, cmd := m.cmd, data := m.data, seqId := m.seqId }

/-- Append the item of a message to the entry of its session. -/
def appendItem (m : StreamData) (cb : ConnBatch) : ConnBatch :=
  if cb.sessionId = m.sessionId then { cb with items := cb.items ++ [pushItem m] } else cb

/-- Sort a message into the map; a message without a connection is counted. -/
def collectOne (acc : List ConnBatch × ℕ) (m : StreamData) : List ConnBatch × ℕ :=
  if m.sessionId = "" then acc
  else if m.sessionId ∈ acc.1.map ConnBatch.sessionId then
    (acc.1.map (appendItem m), acc.2)
  else if m.sessionId ∈ d.live then (acc.1 ++ [⟨m.sessionId, [pushItem m]⟩], acc.2)
  else (acc.1, acc.2 + 1)

def sendConnBatch (st : Push) (cb : ConnBatch) : Push :=
  match d.codec.marshalBatch cb.items with
  | none => { st with pushDroppedNoConn := st.pushDroppedNoConn + cb.items.length }
  | some batchData =>
    match d.codec.marshalClientMessage { cmd := cmdPushBatch, data := batchData } with
    | none => { st with pushDroppedNoConn := st.pushDroppedNoConn + cb.items.length }
    | some responseData =>
      { st with
        delivered := st.delivered ++ [(cb.sessionId, responseData)]
        pushedToClient := st.pushedToClient + cb.items.length }

def flushBatch (order : MapOrder) (st : Push) : Push :=
  if st.batch = [] then st
  else
    let connMap := st.batch.foldl d.collectOne ([], 0)
    let counted := { st with pushDroppedNoConn := st.pushDroppedNoConn + connMap.2 }
    { (order.range connMap.1).foldl d.sendConnBatch counted with batch := [] }

/-! ## Messages -/

/-- The broadcast branch of `processOne`. -/
def broadcast (st : Push) (m : StreamData) : Push :=
  match d.codec.marshalClientMessage m with
  | none => st
  | some respData =>
    { st with
      delivered := st.delivered ++ d.live.map fun c => (c, respData)
      pushedToClient := st.pushedToClient + d.live.length }

/-- The calls of `UpdateConnectionUserUUID`, with the one for this message. -/
def keepUserKey (st : Push) (m : StreamData) : List (String × String) :=
  if m.userKey ≠ "" then st.userKeys ++ [(m.sessionId, m.userKey)] else st.userKeys

/-- The branch of `processOne` without `batchPush`. -/
def pushOne (st : Push) (m : StreamData) : Push :=
  if m.sessionId ∈ d.live then
    match d.codec.marshalClientMessage m with
    | none => { st with userKeys := keepUserKey st m }
    | some responseData =>
      { st with
        userKeys := keepUserKey st m
        delivered := st.delivered ++ [(m.sessionId, responseData)]
        pushedToClient := st.pushedToClient + 1 }
  else { st with pushDroppedNoConn := st.pushDroppedNoConn + 1 }

/-- The branch of `processOne` with `batchPush`. -/
def collect (order : MapOrder) (st : Push) (m : StreamData) : Push :=
  let st := { st with userKeys := keepUserKey st m, batch := st.batch ++ [m] }
  if batchFlushSize ≤ st.batch.length then d.flushBatch order st else st

/-- `processOne`: heartbeats are dropped, an empty session stands for all connections. -/
def processOne (batchPush : Bool) (st : Push) (a : MapOrder × StreamData) : Push :=
  if a.2.cmd = cmdHeartbeatReq then st
  else if a.2.sessionId = "" then
    d.broadcast (if batchPush then d.flushBatch a.1 st else st) a.2
  else if batchPush then d.collect a.1 st a.2
  else d.pushOne st a.2

/-- All messages of a stream, one after the other. -/
def processAll (batchPush : Bool) (st : Push) (arrivals : List (MapOrder × StreamData)) : Push :=
  arrivals.foldl (d.processOne batchPush) st

/-! ## What a client sees -/

def itemFrame (item : PushItem) : MessageFrame :=
  { cmd := item.cmd, seqId := item.seqId, body := item.data }

def messageFrame (m : StreamData) : MessageFrame :=
  { cmd := m.cmd, seqId := m.seqId, body := m.data }

def read (b : Bytes) : List MessageFrame := (d.codec.unmarshalFrame b).toList

/-- The messages in a payload for a client that unpacks batches. -/
def unpack (b : Bytes) : List MessageFrame :=
  (d.read b).flatMap fun f =>
    if f.cmd = cmdPushBatch then ((d.codec.unmarshalBatch f.body).getD []).map itemFrame else [f]

/-- What a client makes of the payloads handed to its connection. -/
def seen (view : Bytes → List MessageFrame) (st : Push) (c : String) : List MessageFrame :=
  st.delivered.flatMap fun p => if p.1 = c then view p.2 else []

def pending (st : Push) (c : String) : List MessageFrame :=
  st.batch.flatMap fun m => if m.sessionId = c then [messageFrame m] else []

/-! ## What a flush delivers -/

def grouped (l : List ConnBatch) (c : String) : List MessageFrame :=
  l.flatMap fun cb => if cb.sessionId = c then cb.items.map itemFrame else []

theorem grouped_cons (cb : ConnBatch) (l : List ConnBatch) (c : String) : grouped (cb :: l) c =
    (if cb.sessionId = c then cb.items.map itemFrame else []) ++ grouped l c :=
  flatMap_cons

variable {d} {st : Push} {c : String} {m : StreamData} {l l' : List ConnBatch}

theorem read_marshal {f : MessageFrame} {b : Bytes} (h : d.codec.marshalFrame f = some b) :
    d.read b = [f] := by
  obtain ⟨b', hb, hread⟩ := d.codec.frame_read f
  obtain rfl : b' = b := Option.some.inj (hb.symm.trans h)
  rw [read, hread]
  rfl

theorem sendConnBatch_eq (st : Push) (cb : ConnBatch) : ∃ b, d.sendConnBatch st cb = { st with
      delivered := st.delivered ++ [(cb.sessionId, b)]
      pushedToClient := st.pushedToClient + cb.items.length } ∧
    d.unpack b = cb.items.map itemFrame := by
  obtain ⟨body, hbody, hitems⟩ := d.codec.batch_read cb.items
  obtain ⟨b, hb, -⟩ := d.codec.frame_read { cmd := cmdPushBatch, body := body }
  refine ⟨b, ?_, ?_⟩
  · rw [sendConnBatch, hbody]
    dsimp only
    rw [PushCodec.marshalClientMessage, hb]
  · rw [unpack, read_marshal hb]
    simp [hitems]

theorem seen_foldl_sendConnBatch (st : Push) (l : List ConnBatch) (c : String) :
    seen d.unpack (l.foldl d.sendConnBatch st) c = seen d.unpack st c ++ grouped l c := by
  induction l generalizing st with
  | nil => exact (append_nil _).symm
  | cons cb l ih =>
    obtain ⟨b, hsend, hunpack⟩ := d.sendConnBatch_eq st cb
    have hone : seen d.unpack (d.sendConnBatch st cb) c =
        seen d.unpack st c ++ if cb.sessionId = c then cb.items.map itemFrame else [] := by
      rw [hsend, ← hunpack]
      simp [seen]
    rw [foldl_cons, ih, hone, append_assoc, ← grouped_cons]

theorem delivered_foldl_sendConnBatch {p : String × Bytes}
    (hp : p ∈ (l.foldl d.sendConnBatch st).delivered) :
    p ∈ st.delivered ∨ ∃ cb ∈ l, cb.sessionId = p.1 := by
  induction l generalizing st with
  | nil => exact .inl hp
  | cons cb l ih =>
    rcases ih hp with h | ⟨cb', hcb', heq⟩
    · obtain ⟨b, hsend, -⟩ := d.sendConnBatch_eq st cb
      rw [hsend] at h
      rcases mem_append.mp h with h | h
      · exact .inl h
      · obtain rfl := mem_singleton.mp h
        exact .inr ⟨cb, mem_cons_self, rfl⟩
    · exact .inr ⟨cb', mem_cons_of_mem cb hcb', heq⟩

theorem grouped_perm (h : l'.Perm l) (hkeys : (l.map ConnBatch.sessionId).Nodup) :
    grouped l' c = grouped l c := by
  induction h with
  | nil => rfl
  | cons cb h ih =>
    simp only [map_cons, nodup_cons] at hkeys
    rw [grouped_cons, grouped_cons, ih hkeys.2]
  | swap cb cb' l =>
    simp only [map_cons, nodup_cons, mem_cons, not_or] at hkeys
    have hne : cb.sessionId ≠ cb'.sessionId := hkeys.1.1
    rw [grouped_cons, grouped_cons, grouped_cons, grouped_cons, ← append_assoc,
      ← append_assoc]
    congr 1
    by_cases hc : cb.sessionId = c
    · rw [if_neg (fun hc' => hne (hc.trans hc'.symm)), append_nil, nil_append]
    · rw [if_neg hc, append_nil, nil_append]
  | trans h₁ h₂ ih₁ ih₂ => rw [ih₁ ((h₂.map _).nodup_iff.mpr hkeys), ih₂ hkeys]

/-- The map of a flush: one entry for a connection, with the messages to it. -/
structure Grouped (d : Downstream) (batch : List StreamData) (l : List ConnBatch) : Prop where
  keys : (l.map ConnBatch.sessionId).Nodup
  live : ∀ cb ∈ l, cb.sessionId ∈ d.live
  messages : ∀ c ∈ d.live, grouped l c = batch.flatMap fun m =>
    if m.sessionId = c then [messageFrame m] else []

theorem sessionId_appendItem (m : StreamData) (cb : ConnBatch) :
    (appendItem m cb).sessionId = cb.sessionId := by
  unfold appendItem
  split <;> rfl

theorem map_appendItem_of_notMem (hmem : m.sessionId ∉ l.map ConnBatch.sessionId) :
    l.map (appendItem m) = l := by
  induction l with
  | nil => rfl
  | cons cb l ih =>
    simp only [map_cons, mem_cons, not_or] at hmem
    rw [map_cons, ih hmem.2, appendItem, if_neg (Ne.symm hmem.1)]

theorem grouped_map_appendItem (hkeys : (l.map ConnBatch.sessionId).Nodup)
    (hmem : m.sessionId ∈ l.map ConnBatch.sessionId) (c : String) :
    grouped (l.map (appendItem m)) c =
      grouped l c ++ if m.sessionId = c then [messageFrame m] else [] := by
  induction l with
  | nil => cases hmem
  | cons cb l ih =>
    rw [map_cons, nodup_cons] at hkeys
    rw [map_cons, grouped_cons, grouped_cons, sessionId_appendItem]
    by_cases hcb : cb.sessionId = m.sessionId
    · -- the entry of the session: there is no other one
      have hrest : m.sessionId ∉ l.map ConnBatch.sessionId := hcb ▸ hkeys.1
      rw [map_appendItem_of_notMem hrest, appendItem, if_pos hcb, hcb]
      by_cases hc : m.sessionId = c
      · have hnone : grouped l c = [] := by
          apply flatMap_eq_nil_iff.mpr
          intro cb' hcb'
          apply if_neg
          rintro rfl
          exact hrest (hc ▸ mem_map_of_mem hcb')
        rw [if_pos hc, if_pos hc, if_pos hc, hnone, map_append, append_nil,
          append_nil]
        rfl
      · rw [if_neg hc, if_neg hc, if_neg hc, append_nil]
    · have hmem' : m.sessionId ∈ l.map ConnBatch.sessionId := by
        rcases mem_cons.mp hmem with h | h
        · exact absurd h.symm hcb
        · exact h
      rw [ih hkeys.2 hmem', appendItem, if_neg hcb, append_assoc]

theorem Grouped.collectOne {batch : List StreamData} {n : ℕ} (h : Grouped d batch l)
    (hm : m.sessionId ≠ "") : Grouped d (batch ++ [m]) (d.collectOne (l, n) m).1 := by
  have hone (c : String) : ((batch ++ [m]).flatMap fun m => if m.sessionId = c then [messageFrame m]
      else []) = (batch.flatMap fun m => if m.sessionId = c then [messageFrame m] else []) ++
        if m.sessionId = c then [messageFrame m] else [] := by
    simp
  unfold Downstream.collectOne
  rw [if_neg hm]
  by_cases hmem : m.sessionId ∈ l.map ConnBatch.sessionId
  · rw [if_pos hmem]
    refine ⟨?_, ?_, ?_⟩
    · have hsame : (l.map (appendItem m)).map ConnBatch.sessionId = l.map ConnBatch.sessionId := by
        rw [map_map]
        exact map_congr_left fun cb _ => sessionId_appendItem m cb
      exact hsame ▸ h.keys
    · intro cb hcb
      obtain ⟨cb', hcb', rfl⟩ := mem_map.mp hcb
      exact (sessionId_appendItem m cb').symm ▸ h.live cb' hcb'
    · intro c hc
      rw [hone, ← h.messages c hc]
      exact grouped_map_appendItem h.keys hmem c
  · rw [if_neg hmem]
    by_cases hlive : m.sessionId ∈ d.live
    · rw [if_pos hlive]
      refine ⟨?_, ?_, ?_⟩
      · rw [map_append, nodup_append]
        refine ⟨h.keys, nodup_singleton _, ?_⟩
        intro a ha b hb hab
        obtain rfl : b = m.sessionId := mem_singleton.mp hb
        subst hab
        exact hmem ha
      · exact forall_mem_append.mpr ⟨h.live, forall_mem_singleton.mpr hlive⟩
      · intro c hc
        rw [hone, ← h.messages c hc]
        simp only [grouped, flatMap_append]
        congr 1
        simp [messageFrame, itemFrame, pushItem]
    · rw [if_neg hlive]
      refine ⟨h.keys, h.live, ?_⟩
      intro c hc
      have hne : m.sessionId ≠ c := fun heq => hlive (heq ▸ hc)
      rw [hone, if_neg hne, append_nil]
      exact h.messages c hc

theorem grouped_foldl (batch : List StreamData) (hbatch : ∀ m ∈ batch, m.sessionId ≠ "") :
    Grouped d batch (batch.foldl d.collectOne ([], 0)).1 := by
  induction batch using reverseRecOn with
  | nil => exact ⟨nodup_nil, by simp, fun c _ => rfl⟩
  | append_singleton batch m ih =>
    rw [foldl_append]
    refine (ih fun m' hm' => hbatch m' ?_).collectOne (hbatch m ?_)
    · exact mem_append_left _ hm'
    · exact mem_append_right _ (mem_singleton_self m)

/-- **Flushing.** A flush delivers the pending messages of every connection that is registered, and
nothing to others. -/
theorem seen_flushBatch (order : MapOrder) (hbatch : ∀ m ∈ st.batch, m.sessionId ≠ "") :
    (∀ c ∈ d.live, seen d.unpack (d.flushBatch order st) c = seen d.unpack st c ++ pending st c) ∧
      ∀ p ∈ (d.flushBatch order st).delivered, p ∈ st.delivered ∨ p.1 ∈ d.live := by
  unfold flushBatch
  by_cases hnil : st.batch = []
  · rw [if_pos hnil]
    refine ⟨fun c _ => ?_, fun p hp => .inl hp⟩
    rw [pending, hnil]
    exact (append_nil _).symm
  · rw [if_neg hnil]
    have hmap := @grouped_foldl d st.batch hbatch
    generalize st.batch.foldl d.collectOne ([], 0) = connMap at hmap
    constructor
    · intro c hc
      have hseen := seen_foldl_sendConnBatch (d := d)
        { st with pushDroppedNoConn := st.pushDroppedNoConn + connMap.2 } (order.range connMap.1) c
      rw [grouped_perm (order.perm connMap.1) hmap.keys, hmap.messages c hc] at hseen
      exact hseen
    · intro p hp
      rcases delivered_foldl_sendConnBatch hp with hp | ⟨cb, hcb, heq⟩
      · exact .inl hp
      · exact .inr (heq ▸ hmap.live cb ((order.perm connMap.1).mem_iff.mp hcb))

@[simp] theorem batch_flushBatch (order : MapOrder) : (d.flushBatch order st).batch = [] := by
  unfold flushBatch
  split
  · assumption
  · rfl

/-! ## Batches change the packaging only -/

/-- With batches a client saw what it saw without, up to the pending messages. -/
structure Repackages (d : Downstream) (st plain : Push) : Prop where
  sessions : ∀ m ∈ st.batch, m.sessionId ≠ ""
  live : ∀ c ∈ d.live, seen d.unpack st c ++ pending st c = seen d.read plain c
  addressed : ∀ p ∈ st.delivered, p.1 ∈ d.live

variable {plain : Push} {order : MapOrder}

section

variable (h : Repackages d st plain)
include h

theorem Repackages.flushBatch (order : MapOrder) : Repackages d (d.flushBatch order st) plain := by
  obtain ⟨hseen, hdelivered⟩ := seen_flushBatch (d := d) order h.sessions
  refine ⟨by simp, fun c hc => ?_, fun p hp => ?_⟩
  · rw [hseen c hc, ← h.live c hc, append_assoc]
    simp [pending]
  · rcases hdelivered p hp with hp | hp
    · exact h.addressed p hp
    · exact hp

theorem Repackages.broadcast (hbatch : st.batch = []) (hcmd : m.cmd ≠ cmdPushBatch) :
    Repackages d (d.broadcast st m) (d.broadcast plain m) := by
  obtain ⟨b, hb, -⟩ := d.codec.frame_read (messageFrame m)
  have hread : d.read b = [messageFrame m] := read_marshal hb
  have hunpack : d.unpack b = [messageFrame m] := by
    rw [unpack, hread]
    simp [messageFrame, hcmd]
  have hmarshal : d.codec.marshalClientMessage m = some b := hb
  have hsent (c : String) (view : Bytes → List MessageFrame) (st : Push) :
      seen view (d.broadcast st m) c = seen view st c ++
        d.live.flatMap fun c' => if c' = c then view b else [] := by
    rw [Downstream.broadcast, hmarshal]
    simp [seen, flatMap_map]
  have hnone (st : Push) (hst : st.batch = []) (c : String) : pending st c = [] := by
    simp [pending, hst]
  have hbatch' : (d.broadcast st m).batch = [] := by
    rw [Downstream.broadcast, hmarshal]
    exact hbatch
  refine ⟨by simp [hbatch'], fun c hc => ?_, fun p hp => ?_⟩
  · have hlive := h.live c hc
    rw [hnone st hbatch, append_nil] at hlive
    rw [hnone _ hbatch', append_nil, hsent, hsent, hlive, hread, hunpack]
  · rw [Downstream.broadcast, hmarshal] at hp
    rcases mem_append.mp hp with hp | hp
    · exact h.addressed p hp
    · obtain ⟨c, hc, rfl⟩ := mem_map.mp hp
      exact hc

theorem Repackages.collect (hm : m.sessionId ≠ "") :
    Repackages d (d.collect order st m) (d.pushOne plain m) := by
  have hpending (c : String) : pending { st with userKeys := keepUserKey st m, batch := st.batch ++ [m] } c =
      pending st c ++ if m.sessionId = c then [messageFrame m] else [] := by
    simp [pending]
  have hplain : ∀ c ∈ d.live, seen d.read (d.pushOne plain m) c =
      seen d.read plain c ++ if m.sessionId = c then [messageFrame m] else [] := by
    intro c hc
    obtain ⟨b, hb, -⟩ := d.codec.frame_read (messageFrame m)
    have hmarshal : d.codec.marshalClientMessage m = some b := hb
    unfold pushOne
    by_cases hlive : m.sessionId ∈ d.live
    · rw [if_pos hlive, hmarshal, ← read_marshal hb]
      simp [seen]
    · have hne : m.sessionId ≠ c := fun heq => hlive (heq ▸ hc)
      rw [if_neg hlive, if_neg hne, append_nil]
      rfl
  have hnext : Repackages d { st with userKeys := keepUserKey st m, batch := st.batch ++ [m] }
      (d.pushOne plain m) := by
    refine ⟨?_, fun c hc => ?_, h.addressed⟩
    · exact forall_mem_append.mpr ⟨h.sessions, forall_mem_singleton.mpr hm⟩
    · rw [hpending, hplain c hc, ← h.live c hc, append_assoc]
      rfl
  unfold Downstream.collect
  dsimp only
  split
  · exact hnext.flushBatch order
  · exact hnext

/-- **One message.** -/
theorem Repackages.processOne {a : MapOrder × StreamData}
    (ha : a.2.sessionId = "" → a.2.cmd ≠ cmdPushBatch) :
    Repackages d (d.processOne true st a) (d.processOne false plain a) := by
  unfold Downstream.processOne
  by_cases hbeat : a.2.cmd = cmdHeartbeatReq
  · rw [if_pos hbeat, if_pos hbeat]
    exact h
  · rw [if_neg hbeat, if_neg hbeat]
    by_cases hall : a.2.sessionId = ""
    · rw [if_pos hall, if_pos hall]
      exact (h.flushBatch a.1).broadcast (batch_flushBatch a.1) (ha hall)
    · rw [if_neg hall, if_neg hall]
      exact h.collect hall

end

/-- **Batches change the packaging only.** Let no broadcast have the command of a batch. After every
sequence of messages from a stream, a client that unpacks the batches it received, and then the
messages still pending for it, has the messages of the plain mode in the same order. Nothing is
handed to a connection that is not registered. -/
theorem batchPush_repackages (d : Downstream) (arrivals : List (MapOrder × StreamData))
    (hreserved : ∀ a ∈ arrivals, a.2.sessionId = "" → a.2.cmd ≠ cmdPushBatch) :
    (∀ c ∈ d.live, seen d.unpack (d.processAll true {} arrivals) c ++
        pending (d.processAll true {} arrivals) c = seen d.read (d.processAll false {} arrivals) c) ∧
      ∀ p ∈ (d.processAll true {} arrivals).delivered, p.1 ∈ d.live := by
  have h : Repackages d (d.processAll true {} arrivals) (d.processAll false {} arrivals) := by
    induction arrivals using reverseRecOn with
    | nil => exact ⟨by simp [processAll], fun c _ => rfl, by simp [processAll]⟩
    | append_singleton arrivals a ih =>
      rw [processAll, processAll, foldl_append, foldl_append]
      refine (ih fun b hb => hreserved b ?_).processOne (hreserved a ?_)
      · exact mem_append_left _ hb
      · exact mem_append_right _ (mem_singleton_self a)
  exact ⟨h.live, h.addressed⟩

/-! ## A codec -/

/-- The bytes of a number, least significant byte first. -/
def bytesOf (n : ℕ) : Bytes := (Nat.digits 256 n).map UInt8.ofNat

/-- The number that has these bytes. -/
def natOf (b : Bytes) : ℕ := Nat.ofDigits 256 (b.map UInt8.toNat)

theorem natOf_bytesOf (n : ℕ) : natOf (bytesOf n) = n := by
  have hdigits : ((Nat.digits 256 n).map UInt8.ofNat).map UInt8.toNat = Nat.digits 256 n := by
    rw [map_map]
    refine (map_congr_left ?_).trans (map_id _)
    intro x hx
    have hlt : x < 256 := Nat.digits_lt_base (by decide) hx
    simp [Nat.mod_eq_of_lt hlt]
  rw [natOf, bytesOf, hdigits, Nat.ofDigits_digits]

instance : Encodable UInt8 :=
  Encodable.ofLeftInverse UInt8.toNat UInt8.ofNat fun _ => UInt8.ofNat_toNat

instance : Encodable Char := Encodable.ofLeftInverse Char.toNat Char.ofNat Char.ofNat_toNat

instance : Encodable String :=
  Encodable.ofLeftInverse String.toList String.ofList fun _ => String.ofList_toList

instance : Encodable MessageFrame :=
  Encodable.ofLeftInverse (fun f => (f.cmd, f.seqId, f.body)) (fun t => ⟨t.1, t.2.1, t.2.2⟩)
    fun _ => rfl

instance : Encodable PushItem :=
  Encodable.ofLeftInverse (fun i => (i.sessionId, i.cmd, i.data, i.seqId))
    (fun t => ⟨t.1, t.2.1, t.2.2.1, t.2.2.2⟩) fun _ => rfl

/-- A base-128 varint of at most `fuel` bytes. -/
def putVarint : ℕ → ℕ → Bytes
  | 0, _ => []
  | fuel + 1, n =>
    if n < 128 then [UInt8.ofNat n] else UInt8.ofNat (n % 128 + 128) :: putVarint fuel (n / 128)

/-- The field `num` with a number; zero is left out. -/
def putInt (num : ℕ) (v : Int) : Bytes :=
  if v = 0 then [] else putVarint 10 (8 * num + varintType) ++ putVarint 10 (v % 2 ^ 64).toNat

/-- The field `num` with bytes. -/
def putBytes (num : ℕ) (b : Bytes) : Bytes :=
  putVarint 10 (8 * num + bytesType) ++ putVarint 10 b.length ++ b

/-- The fields of a message with their varints or bytes. -/
def readFields : ℕ → Bytes → Option (List (ℕ × ℕ × Bytes))
  | _, [] => some []
  | 0, _ :: _ => none
  | fuel + 1, b :: bs => do
    let ((num, typ), rest) ← standardTag (b :: bs)
    if typ = varintType then
      let (v, rest) ← standardVarint rest
      return (num, v, []) :: (← readFields fuel rest)
    else
      let (v, rest) ← standardBytes rest
      return (num, 0, v) :: (← readFields fuel rest)

section

variable {α : Type} [Encodable α] [DecidableEq α] (put : α → Bytes) (get : Bytes → Option α)

/-- The bytes of the wire format if it has room for the value. A value it has no room for, with a
number beyond 64 bits, is written as its own number behind a zero, which starts no field. -/
def marshal (x : α) : Bytes :=
  if (put x).head? ≠ some 0 ∧ get (put x) = some x then put x else 0 :: bytesOf (Encodable.encode x)

@[inherit_doc marshal]
def unmarshal (b : Bytes) : Option α :=
  if b.head? = some 0 then Encodable.decode (natOf b.tail) else get b

theorem unmarshal_marshal (x : α) : unmarshal get (marshal put get x) = some x := by
  rw [marshal]
  split
  case isTrue h =>
    rw [unmarshal, if_neg h.1, h.2]
  case isFalse =>
    rw [unmarshal, head?_cons, if_pos rfl, tail_cons, natOf_bytesOf, Encodable.encodek]

end

/-- A frame with the field numbers that `extractMessageFrame` reads. -/
def putFrame (f : MessageFrame) : Bytes :=
  putInt 1 f.cmd ++ putInt 2 f.seqId ++ if f.body = [] then [] else putBytes 99 f.body

/-- The fields that `extractMessageFrame` reads. -/
def getFrame (b : Bytes) : Option MessageFrame :=
  (consumeFrameFields .standard b.length {} b).map fun f => ⟨f.cmd, f.seqID, f.body⟩

/-- An item, with its fields in the order of `PushItem` and the session in ASCII. -/
def putItem (i : PushItem) : Bytes :=
  putBytes 1 (i.sessionId.toList.map fun c => UInt8.ofNat c.toNat) ++ putInt 2 i.cmd ++
    (if i.data = [] then [] else putBytes 3 i.data) ++ putInt 4 i.seqId

@[inherit_doc putItem]
def getItem (b : Bytes) : Option PushItem :=
  (readFields b.length b).map fun fs =>
    let field (num : ℕ) : ℕ × Bytes := (fs.lookup num).getD (0, [])
    { sessionId := String.ofList ((field 1).2.map fun x => Char.ofNat x.toNat)
      cmd := int32 (field 2).1, data := (field 3).2, seqId := int64 (field 4).1 }

/-- Frames and batches as protobuf writes them. -/
def wireCodec : PushCodec where
  marshalFrame f := some (marshal putFrame getFrame f)
  unmarshalFrame := unmarshal getFrame
  marshalBatch items := some (marshal (flatMap fun i => putBytes 1 (putItem i)) getBatch items)
  unmarshalBatch := unmarshal getBatch
  frame_read f := ⟨_, rfl, unmarshal_marshal putFrame getFrame f⟩
  batch_read items := ⟨_, rfl, unmarshal_marshal _ getBatch items⟩
where
  /-- The items are the repeated field of a batch. -/
  getBatch (b : Bytes) : Option (List PushItem) :=
    (readFields b.length b).bind fun fs => fs.mapM fun f => getItem f.2.2

/-- One session, with frames as protobuf writes them. -/
def single : Downstream := ⟨wireCodec, ["c"]⟩

/-- The range over the map follows the order of its entries. -/
def inOrder : MapOrder := ⟨id, List.Perm.refl⟩

/-- A message to a session and a broadcast behind it, with the frames that the two modes write. -/
theorem batchPush_repackages_pushThenBroadcast :
    let arrivals := [(inOrder, { sessionId := "c", cmd := 5, seqId := 1, data := [1] }),
      (inOrder, { cmd := 6, data := [2] })]
    (single.processAll false {} arrivals).delivered =
      [("c", [8, 5, 16, 1, 154, 6, 1, 1]), ("c", [8, 6, 154, 6, 1, 2])] ∧
    (single.processAll true {} arrivals).delivered =
      [("c", [8, 194, 168, 165, 4, 154, 6, 12, 10, 10, 10, 1, 99, 16, 5, 26, 1, 1, 32, 1]),
        ("c", [8, 6, 154, 6, 1, 2])] ∧
    seen single.unpack (single.processAll true {} arrivals) "c" ++
        pending (single.processAll true {} arrivals) "c" =
      seen single.read (single.processAll false {} arrivals) "c" := by
  intro arrivals
  exact ⟨by decide +kernel, by decide +kernel,
    (batchPush_repackages single arrivals (by decide)).1 "c" (by decide)⟩

/-- A broadcast with the command of a batch and no data: the client takes it for an empty batch. -/
theorem reservedBroadcast_lost :
    let arrivals := [(inOrder, { cmd := cmdPushBatch })]
    seen single.unpack (single.processAll true {} arrivals) "c" ++
        pending (single.processAll true {} arrivals) "c" = [] ∧
      seen single.read (single.processAll false {} arrivals) "c" = [{ cmd := cmdPushBatch }] := by
  decide +kernel

/-! ## The receive loop -/

variable (d)

/-- What the loop meets when it comes around: the stop channel is closed, `RecvMsg` fails, or it
returns a `StreamBatch`, whose items may be nil. -/
inductive Recv
  | stop
  | fail (order : MapOrder)
  | frame (items : List (MapOrder × Option StreamData))

/-- The receive loop. Unless it returned it waits in `RecvMsg`. -/
structure Loop where
  push : Push := {}
  returned : Bool := false

def messages (items : List (MapOrder × Option StreamData)) : List (MapOrder × StreamData) :=
  items.filterMap fun i => i.2.map fun m => (i.1, m)

def turn (batchPush : Bool) (l : Loop) (e : Recv) : Loop :=
  if l.returned then l
  else
    match e with
    | .stop => { l with returned := true }
    | .fail order => ⟨if batchPush then d.flushBatch order l.push else l.push, true⟩
    | .frame items => { l with push := d.processAll batchPush l.push (messages items) }

def receiveMessages (batchPush : Bool) (events : List Recv) : Loop :=
  events.foldl (d.turn batchPush) {}

/-- **No message is left waiting**: not while the loop waits in `RecvMsg`, and not when it returned. -/
def Prompt (events : List Recv) : Prop :=
  ∀ seen, seen <+: events → (d.receiveMessages true seen).push.batch = []

/-- The number of messages to sessions since the last broadcast. -/
def sinceBroadcast (n : ℕ) (a : MapOrder × StreamData) : ℕ :=
  if a.2.cmd = cmdHeartbeatReq then n else if a.2.sessionId = "" then 0 else n + 1

/-- The number of messages to sessions since the last broadcast, up to where the loop returns; none if
it returns with an error. -/
def waiting : ℕ → List Recv → ℕ
  | n, [] => n
  | n, .stop :: _ => n
  | _, .fail _ :: _ => 0
  | n, .frame items :: events => waiting ((messages items).foldl sinceBroadcast n) events

section Loop

variable {st : Push} {n : ℕ}

theorem length_batch_processOne (hn : st.batch.length = n % batchFlushSize) (a : MapOrder × StreamData) :
    (d.processOne true st a).batch.length = sinceBroadcast n a % batchFlushSize := by
  unfold processOne sinceBroadcast
  by_cases hbeat : a.2.cmd = cmdHeartbeatReq
  · rw [if_pos hbeat, if_pos hbeat, hn]
  · rw [if_neg hbeat, if_neg hbeat]
    by_cases hall : a.2.sessionId = ""
    · rw [if_pos hall, if_pos hall, if_pos rfl]
      have hkeeps : (d.broadcast (d.flushBatch a.1 st) a.2).batch = (d.flushBatch a.1 st).batch := by
        unfold broadcast
        split <;> rfl
      rw [hkeeps, batch_flushBatch]
      rfl
    · rw [if_neg hall, if_neg hall, if_pos rfl]
      unfold collect
      dsimp only
      rw [length_append, hn]
      unfold batchFlushSize
      split
      · rw [batch_flushBatch, length_nil]
        simp only [length_singleton] at *
        omega
      · simp only [length_append, length_singleton, hn, batchFlushSize] at *
        omega

theorem length_batch_processAll (hn : st.batch.length = n % batchFlushSize)
    (arrivals : List (MapOrder × StreamData)) :
    (d.processAll true st arrivals).batch.length =
      arrivals.foldl sinceBroadcast n % batchFlushSize := by
  induction arrivals generalizing st n with
  | nil => exact hn
  | cons a arrivals ih => exact ih (d.length_batch_processOne hn a)

variable {l : Loop}

theorem foldl_turn_of_returned (h : l.returned = true) (events : List Recv) :
    events.foldl (d.turn true) l = l := by
  induction events with
  | nil => rfl
  | cons e events ih =>
    have hturn : d.turn true l e = l := if_pos h
    rw [foldl_cons, hturn, ih]

theorem length_batch_foldl_turn (hl : l.returned = false)
    (hn : l.push.batch.length = n % batchFlushSize) (events : List Recv) :
    (events.foldl (d.turn true) l).push.batch.length = waiting n events % batchFlushSize := by
  induction events generalizing l n with
  | nil => exact hn
  | cons e events ih =>
    rw [foldl_cons]
    have hopen : ¬ l.returned = true := by simp [hl]
    cases e with
    | stop =>
      have hturn : d.turn true l .stop = { l with returned := true } := if_neg hopen
      rw [hturn, d.foldl_turn_of_returned rfl]
      exact hn
    | fail order =>
      have hturn : d.turn true l (.fail order) = ⟨d.flushBatch order l.push, true⟩ := if_neg hopen
      rw [hturn, d.foldl_turn_of_returned rfl, batch_flushBatch]
      rfl
    | frame items =>
      have hturn : d.turn true l (.frame items) =
          { l with push := d.processAll true l.push (messages items) } := if_neg hopen
      rw [hturn]
      exact ih hl (d.length_batch_processAll hn (messages items))

end Loop

/-- **Messages held back.** The receive loop holds nothing back exactly if, whenever it comes around,
the number of messages to sessions since the last broadcast is a multiple of `batchFlushSize` or the
stream failed. -/
theorem prompt_iff (events : List Recv) :
    d.Prompt events ↔ ∀ seen, seen <+: events → waiting 0 seen % batchFlushSize = 0 := by
  have hlength (seen : List Recv) : (d.receiveMessages true seen).push.batch.length =
      waiting 0 seen % batchFlushSize := d.length_batch_foldl_turn rfl rfl seen
  constructor
  · intro h seen hseen
    rw [← hlength, h seen hseen, length_nil]
  · intro h seen hseen
    apply eq_nil_of_length_eq_zero
    rw [hlength, h seen hseen]

/-- One message: it is pending while the loop waits for the next frame, and when the client is closed
the loop returns without having sent or counted it. -/
theorem oneMessage_heldBack :
    let frame := Recv.frame [(inOrder, some { sessionId := "c", cmd := 5, data := [1] })]
    let blocked := single.receiveMessages true [frame]
    let closed := single.receiveMessages true [frame, .stop]
    blocked.returned = false ∧ blocked.push.batch.length = 1 ∧
      closed.returned = true ∧ closed.push.batch.length = 1 ∧ closed.push.delivered = [] ∧
      closed.push.pushDroppedNoConn = 0 ∧ ¬ single.Prompt [frame] := by
  intro frame blocked closed
  have hheld : (single.receiveMessages true [frame]).push.batch.length = 1 := by rfl
  refine ⟨rfl, hheld, rfl, by rfl, by rfl, by rfl, fun h => ?_⟩
  rw [h [frame] prefix_rfl] at hheld
  cases hheld

end Downstream

end Sgate.Backend
