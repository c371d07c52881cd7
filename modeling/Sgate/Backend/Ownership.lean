import Sgate.Backend.Steps
import Mathlib.Data.List.Nodup
import Mathlib.Data.List.Count

/-! # Single ownership of pooled messages

A message object travels from a sender through a channel or the reconnect queue and a batch to the
pool. Whoever holds it may hand it on or return it, so it must never be in two places at once. -/

namespace Sgate.Backend

open Interleaving LogicClient
open Goroutine hiding close flush

/-! ## Places -/

/-- The messages a send loop has taken and not returned to the pool. -/
def LoopPc.batch : LoopPc → List Message
  | .collect batch | .readStream batch | .sendMsg batch _ | .detach batch _ _
  | .countDropped batch | .put batch => batch
  | .select | .exited => []

/-- The messages a send loop may still write to a stream. -/
def LoopPc.unsent : LoopPc → List Message
  | .collect batch | .readStream batch | .sendMsg batch _ => batch
  | .select | .detach _ _ _ | .countDropped _ | .put _ | .exited => []

def Goroutine.held : Goroutine → List Message
  | .send m pc => if pc.owns then [m] else []
  | .flush pc => pc.hand.toList
  | .loop _ pc => pc.batch
  | .attach _ _ _ | .detach _ _ _ | .close _ => []

/-- The messages of a goroutine that may still be delivered. -/
def Goroutine.undelivered : Goroutine → List Message
  | .loop _ pc => pc.unsent
  | t => t.held

/-- The objects at all places: in the hands of goroutines, in the channels, in the reconnect queue
and in the pool. -/
def places (w : World LogicClient Goroutine) : List ℕ :=
  w.threads.flatMap (fun t => t.held.map Message.obj) ++
    w.shared.shards.flatMap (fun sh => sh.sendCh.map Message.obj) ++
    w.shared.messageQueue.queue.map Message.obj ++ w.shared.pool

/-- Every object in use is in exactly one place, and no message was written to a stream twice. -/
structure SingleOwner (w : World LogicClient Goroutine) : Prop where
  place : ∀ o, (places w).count o = if o < w.shared.nextObj then 1 else 0
  delivered_once : (w.shared.delivered.map Message.call).Nodup

/-! ## Counting -/

/-- One for a message that lives in object `o`. -/
def isObj (o : ℕ) (m : Message) : ℕ := if m.obj = o then 1 else 0

/-- One for the message of call `k`. -/
def isCall (k : ℕ) (m : Message) : ℕ := if m.call = k then 1 else 0

theorem count_map_obj (o : ℕ) (ms : List Message) :
    (ms.map Message.obj).count o = tally (isObj o) ms := by
  induction ms with
  | nil => rfl
  | cons m ms ih =>
    rw [List.map_cons, List.count_cons, ih, tally_cons, isObj]
    simp only [beq_iff_eq]
    omega

theorem count_map_call (k : ℕ) (ms : List Message) :
    (ms.map Message.call).count k = tally (isCall k) ms := by
  induction ms with
  | nil => rfl
  | cons m ms ih =>
    rw [List.map_cons, List.count_cons, ih, tally_cons, isCall]
    simp only [beq_iff_eq]
    omega

/-- The weight of the messages in the channels and the reconnect queue. -/
def LogicClient.stored (f : Message → ℕ) (c : LogicClient) : ℕ :=
  tally (fun sh => tally f sh.sendCh) c.shards + tally f c.messageQueue.queue

theorem count_places (o : ℕ) (w : World LogicClient Goroutine) :
    (places w).count o = tally (fun t => tally (isObj o) t.held) w.threads +
      w.shared.stored (isObj o) + w.shared.pool.count o := by
  have hflat {α : Type} (g : α → List Message) (ts : List α) :
      (ts.flatMap fun t => (g t).map Message.obj).count o = tally (fun t => tally (isObj o) (g t)) ts := by
    rw [List.count_flatMap, tally]
    simp only [Function.comp_def, count_map_obj]
  rw [places, List.count_append, List.count_append, List.count_append, hflat, hflat, count_map_obj,
    stored, Nat.add_assoc (tally _ w.threads)]

section

variable {c c' : LogicClient} (f : Message → ℕ) {sh : StreamShard}

theorem stored_setShard {i : ℕ} (sh' : StreamShard) (hsh : c.shards[i]? = some sh) :
    (c.setShard i sh').stored f + tally f sh.sendCh = c.stored f + tally f sh'.sendCh := by
  have h := tally_set (fun sh => tally f sh.sendCh) sh' hsh
  simp only [stored, setShard] at h ⊢
  omega

theorem stored_take {i : ℕ} {m : Message} {rest : List Message} (hsh : c.shards[i]? = some sh)
    (hch : sh.sendCh = m :: rest) :
    (c.setShard i { sh with sendCh := rest }).stored f + f m = c.stored f := by
  have h := stored_setShard f { sh with sendCh := rest } hsh
  simp only [hch, tally_cons] at h
  omega

theorem stored_withQueue (ms gone : List Message) :
    (c.withQueue ms gone).stored f + tally f c.messageQueue.queue = c.stored f + tally f ms := by
  simp only [stored, withQueue, StreamMessageQueue.withQueue_queue]
  omega

theorem SameMessages.stored_eq (h : SameMessages c c') : c'.stored f = c.stored f := by
  -- the channels are the same, stream by stream
  have hch := congrArg (tally fun ch : _ × _ × _ × _ => tally f ch.1) h.channels
  simp only [tally_map] at hch
  rw [stored, stored, h.messageQueue]
  exact congrArg (· + _) hch

end

/-! ## One step -/

/-- A step that loses no object and doubles none: what leaves the places of the client and of the
goroutine goes to the pool, and what is delivered was not delivered before. -/
structure Moves (c : LogicClient) (t : Goroutine) (c' : LogicClient) (t' : Goroutine) : Prop where
  obj : ∀ o, c'.stored (isObj o) + tally (isObj o) t'.held + c'.pool.count o =
    c.stored (isObj o) + tally (isObj o) t.held + c.pool.count o
  call : ∀ k, c'.stored (isCall k) + tally (isCall k) t'.undelivered +
      tally (isCall k) c'.delivered ≤
    c.stored (isCall k) + tally (isCall k) t.undelivered + tally (isCall k) c.delivered
  nextObj : c'.nextObj = c.nextObj
  nextCall : c'.nextCall = c.nextCall

/-- The messages that `Close` has drained from a channel and not counted yet. -/
def ClosePc.drained : ClosePc → ℕ
  | .drain _ dropped => dropped
  | _ => 0

/-- The message whose shard a goroutine checks for the second time. -/
def Goroutine.rechecks : Goroutine → Option Message
  | .send m (.shard .recheck) => some m
  | .flush (.shard _ m .recheck) => some m
  | _ => none

/-- The next step of the goroutine finds its shard closed although its message entered the
channel. -/
def ReadsClosed (cfg : ClientConfig) (c : LogicClient) (t : Goroutine) : Prop :=
  ∃ m sh, t.rechecks = some m ∧ c.shards[getShard cfg c m.sessionId]? = some sh ∧ sh.closed = true

section

variable {cfg : ClientConfig} {c c' : LogicClient} {t t' : Goroutine} {m : Message}

/-- What a step does to the messages of the client and of the goroutine: `gone` is returned to the
pool, everything else stays in some place. -/
structure Transfers (c : LogicClient) (t : Goroutine) (c' : LogicClient) (t' : Goroutine)
    (gone : List Message) : Prop where
  weight : ∀ f, c'.stored f + tally f t'.held + tally f gone = c.stored f + tally f t.held
  pool : c'.pool = (gone.map Message.obj).reverse ++ c.pool
  nextObj : c'.nextObj = c.nextObj
  nextCall : c'.nextCall = c.nextCall

theorem Transfers.count_pool {gone : List Message} (h : Transfers c t c' t' gone) (o : ℕ) :
    c'.pool.count o = tally (isObj o) gone + c.pool.count o := by
  rw [h.pool, List.count_append, List.count_reverse, count_map_obj]

theorem SameMessages.transfers (h : SameMessages c c') (hheld : t'.held = t.held) :
    Transfers c t c' t' [] where
  weight := by
    intro f
    rw [h.stored_eq, hheld]
    rfl
  __ := h

variable {new : List Goroutine}

theorem Transfers.of_put {i : ℕ} {sh : StreamShard} (hsh : c.shards[i]? = some sh)
    (hheld : t.held = [m]) (hheld' : t'.held = []) :
    Transfers c t (c.setShard i (sh.put m)) t' [] := by
  refine ⟨fun f => ?_, rfl, rfl, rfl⟩
  have h := stored_setShard f (sh.put m) hsh
  simp only [StreamShard.put_sendCh, tally_append, hheld, hheld', tally_nil] at h ⊢
  omega

theorem Transfers.of_withQueue {ms gone : List Message}
    (h : ∀ f, tally f ms + tally f t'.held + tally f gone =
      tally f c.messageQueue.queue + tally f t.held) :
    Transfers c t (c.withQueue ms gone) t' gone := by
  refine ⟨fun f => ?_, rfl, rfl, rfl⟩
  have hstored := stored_withQueue (c := c) f ms gone
  have hmoved := h f
  omega

theorem SendStep.transfers {pc pc' : SendPc} (h : SendStep cfg c m pc c' pc' new)
    (hopen : ¬ ReadsClosed cfg c (.send m pc)) :
    ∃ gone, Transfers c (.send m pc) c' (.send m pc') gone := by
  cases h with
  | hold hpc hpc' =>
    refine ⟨[], (SameMessages.refl c).transfers ?_⟩
    simp only [held, hpc, hpc']
  | enqueue hq | enqueueAfter hq =>
    rename_i gone rest
    -- what the queue discards goes to the pool, the message takes its place
    refine ⟨gone, .of_withQueue fun f => ?_⟩
    rw [← hq, tally_append, tally_append]
    change _ + tally f [m] + 0 + _ = _ + _ + tally f [m]
    omega
  | put hpc hsh => exact ⟨[], .of_put hsh (if_pos (ShardPc.owns_of_sends hpc)) rfl⟩
  | ok | spawn => exact ⟨[], (SameMessages.refl c).transfers rfl⟩
  | late hsh hclosed => exact absurd ⟨m, _, rfl, hsh, hclosed⟩ hopen
  | putBack err => exact ⟨[m], fun f => rfl, rfl, rfl, rfl⟩

theorem FlushStep.transfers {pc pc' : FlushPc} (h : FlushStep cfg c pc c' pc')
    (hopen : ¬ ReadsClosed cfg c (.flush pc)) :
    ∃ gone, Transfers c (.flush pc) c' (.flush pc') gone := by
  cases h with
  | lose | empty | giveUp | ok => exact ⟨[], (SameMessages.refl c).transfers rfl⟩
  | win | reset => exact ⟨[], fun f => rfl, rfl, rfl, rfl⟩
  | dequeue hf hq =>
    rename_i failures m rest
    refine ⟨[], .of_withQueue fun f => ?_⟩
    rw [hq, tally_cons]
    change _ + tally f [m] + 0 = _ + _ + 0
    rw [tally_cons, tally_nil]
    omega
  | discard hclosing =>
    rename_i failures m
    exact ⟨[m], fun f => rfl, rfl, rfl, rfl⟩
  | hold hpc hpc' =>
    refine ⟨[], (SameMessages.refl c).transfers ?_⟩
    simp only [held, hpc, hpc']
  | put hpc hsh =>
    refine ⟨[], .of_put hsh ?_ rfl⟩
    rw [held, FlushPc.hand, if_pos (ShardPc.owns_of_sends hpc)]
    rfl
  | late hsh hclosed => exact absurd ⟨_, _, rfl, hsh, hclosed⟩ hopen
  | requeue hq =>
    rename_i failures m gone rest
    -- the message goes back to the queue, what makes room for it to the pool
    refine ⟨gone, .of_withQueue fun f => ?_⟩
    rw [← hq, tally_append, tally_cons]
    change _ + 0 + _ = _ + _ + tally f [m]
    rw [tally_cons, tally_nil]
    omega

variable {idx : ℕ}

theorem Transfers.of_take {sh : StreamShard} {rest : List Message} (hsh : c.shards[idx]? = some sh)
    (hch : sh.sendCh = m :: rest) (hheld : t'.held = t.held ++ [m]) :
    Transfers c t (c.setShard idx { sh with sendCh := rest }) t' [] := by
  refine ⟨fun f => ?_, rfl, rfl, rfl⟩
  have h := stored_take f hsh hch
  simp only [hheld, tally_append, tally_cons, tally_nil]
  omega

theorem LoopStep.transfers {pc pc' : LoopPc} (h : LoopStep c idx pc c' pc') :
    ∃ gone, Transfers c (.loop idx pc) c' (.loop idx pc') gone := by
  cases h with
  | exit | collected | stream | noStream | fail | done =>
    exact ⟨[], (SameMessages.refl c).transfers rfl⟩
  | first hsh hch => exact ⟨[], .of_take hsh hch rfl⟩
  | collect hsh hch => exact ⟨[], .of_take hsh hch (by split <;> rfl)⟩
  | sent | count => exact ⟨[], fun f => rfl, rfl, rfl, rfl⟩
  | detach h | detached h => exact ⟨[], (sameMessages_detachShard h).1.transfers rfl⟩
  | put =>
    rename_i m rest
    refine ⟨[m], fun f => ?_, rfl, rfl, rfl⟩
    simp only [stored, putStreamData, held, LoopPc.batch, tally_cons, tally_nil]
    omega

variable {pc pc' : ClosePc}

theorem Transfers.of_setShard {i : ℕ} {sh sh' : StreamShard} (hsh : c.shards[i]? = some sh)
    (hch : sh'.sendCh = sh.sendCh) :
    Transfers c (.close pc) (c.setShard i sh') (.close pc') [] := by
  refine ⟨fun f => ?_, rfl, rfl, rfl⟩
  have h := stored_setShard f sh' hsh
  rw [hch] at h
  simp only [held, tally_nil]
  omega

theorem transfers_close (h : close c pc = some (c', pc')) :
    ∃ gone, Transfers c (.close pc) c' (.close pc') gone ∧ c'.delivered = c.delivered ∧
      c'.droppedNoConn + pc'.drained = c.droppedNoConn + pc.drained + gone.length := by
  cases pc with
  | lock =>
    simp only [close, Option.ite_none_left_eq_some] at h
    obtain ⟨-, h⟩ := h
    split at h <;> cases h
    · exact ⟨[], (SameMessages.refl c).transfers rfl, rfl, rfl⟩
    · exact ⟨[], ⟨fun f => rfl, rfl, rfl, rfl⟩, rfl, rfl⟩
  | markClosed i =>
    simp only [close] at h
    split at h
    · cases h
      exact ⟨[], ⟨fun f => rfl, rfl, rfl, rfl⟩, rfl, rfl⟩
    · rename_i sh hsh
      cases h
      exact ⟨[], .of_setShard hsh rfl, rfl, rfl⟩
  | closeStop i =>
    simp only [close] at h
    split at h <;> cases h
    rename_i sh hsh
    exact ⟨[], .of_setShard hsh rfl, rfl, rfl⟩
  | drain i dropped =>
    simp only [close] at h
    split at h
    · cases h
    · rename_i sh hsh
      split at h
      · cases h
        exact ⟨[], ⟨fun f => rfl, rfl, rfl, rfl⟩, rfl, rfl⟩
      · rename_i m rest hch
        cases h
        refine ⟨[m], ⟨fun f => ?_, rfl, rfl, rfl⟩, rfl, rfl⟩
        have h₁ := stored_take f hsh hch
        simp only [held, tally_nil, tally_cons, stored, putStreamData] at h₁ ⊢
        omega
  | loadState =>
    cases h
    exact ⟨[], (SameMessages.refl c).transfers rfl, rfl, by split <;> rfl⟩
  | storeState | closeQueue =>
    cases h
    exact ⟨[], ⟨fun f => rfl, rfl, rfl, rfl⟩, rfl, rfl⟩
  | returned => simp [close] at h

theorem LoopStep.undelivered_le {pc pc' : LoopPc} (h : LoopStep c idx pc c' pc')
    (hdel : c'.delivered = c.delivered) (f : Message → ℕ) :
    c'.stored f + tally f pc'.unsent ≤ c.stored f + tally f pc.unsent := by
  cases h with
  | exit | collected | stream | done | put | count => exact le_rfl
  | noStream | fail => exact Nat.le_add_right _ _
  | first hsh hch => exact (stored_take f hsh hch).le
  | collect hsh hch =>
    rename_i batch sh m rest
    have hunsent : (if maxBatchCount ≤ (batch ++ [m]).length then LoopPc.readStream (batch ++ [m])
        else .collect (batch ++ [m])).unsent = batch ++ [m] := by
      split <;> rfl
    have h := stored_take f hsh hch
    rw [hunsent, tally_append, tally_cons, tally_nil]
    simp only [LoopPc.unsent]
    omega
  | sent =>
    -- only an empty batch can be written without delivering anything
    obtain rfl := List.append_right_eq_self.mp hdel
    exact le_rfl
  | detach h | detached h => exact ((sameMessages_detachShard h).1.stored_eq f).le

section

variable (h : Step cfg c t c' t' new)
include h

/-- **What one step delivers**: nothing, or the batch of a send loop. -/
theorem Step.delivered_cases :
    c'.delivered = c.delivered ∨ ∃ idx batch stream, t = .loop idx (.sendMsg batch stream) ∧
      t' = .loop idx (.put batch) ∧ c' = { c with delivered := c.delivered ++ batch } := by
  cases h with
  | send h | flush h => cases h <;> exact .inl rfl
  | attach h => exact .inl (sameMessages_attachShard h).1.delivered
  | detach h => exact .inl (sameMessages_detachShard h).1.delivered
  | close h =>
    obtain ⟨-, -, hdel, -⟩ := transfers_close h
    exact .inl hdel
  | loop h =>
    cases h with
    | sent => exact .inr ⟨_, _, _, rfl, rfl, rfl⟩
    | detach h | detached h => exact .inl (sameMessages_detachShard h).1.delivered
    | _ => exact .inl rfl

theorem Step.held_new : ∀ u ∈ new, u.held = [] ∧ u.undelivered = [] := by
  rcases h.new_eq with rfl | rfl
  · simp
  · simp [held, undelivered, FlushPc.hand]

variable (hopen : ¬ ReadsClosed cfg c t)
include hopen

/-- **What one step does to the messages**, unless it finds a shard closed behind a message. -/
theorem Step.transfers : ∃ gone, Transfers c t c' t' gone := by
  cases h with
  | send h | flush h => exact h.transfers hopen
  | attach h => exact ⟨[], (sameMessages_attachShard h).1.transfers rfl⟩
  | detach h => exact ⟨[], (sameMessages_detachShard h).1.transfers rfl⟩
  | close h =>
    obtain ⟨gone, htr, -⟩ := transfers_close h
    exact ⟨gone, htr⟩
  | loop h => exact h.transfers

/-- **A step that delivers nothing** adds nothing to what may be delivered, unless it finds a shard
closed behind a message. -/
theorem Step.undelivered_le (hdel : c'.delivered = c.delivered) (f : Message → ℕ) :
    c'.stored f + tally f t'.undelivered ≤ c.stored f + tally f t.undelivered := by
  obtain ⟨gone, htr⟩ := h.transfers hopen
  have hw := htr.weight f
  cases h with
  | loop h => exact h.undelivered_le hdel f
  | send | flush | attach | detach | close => exact Nat.le.intro hw

/-- **One step keeps every object in one place**, unless it finds a shard closed behind a message. -/
theorem Step.moves : Moves c t c' t' := by
  obtain ⟨gone, htr⟩ := h.transfers hopen
  refine ⟨fun o => ?_, fun k => ?_, htr.nextObj, htr.nextCall⟩
  · have h₁ := htr.weight (isObj o)
    have h₂ := htr.count_pool o
    omega
  · have hw := htr.weight (isCall k)
    rcases h.delivered_cases with hdel | ⟨idx, batch, stream, rfl, rfl, rfl⟩
    · -- nothing is delivered, and what may be delivered is among what is held
      have hund := h.undelivered_le hopen hdel (isCall k)
      rw [hdel]
      omega
    · -- the batch is still held after it was written, but it counts as delivered
      simp only [stored, undelivered, LoopPc.unsent, tally_append, tally_nil]
      omega

end

end

/-! ## Whole runs -/

/-- The invariant behind `SingleOwner`, counted place by place. -/
structure Owned (w : World LogicClient Goroutine) : Prop where
  obj : ∀ o, tally (fun t => tally (isObj o) t.held) w.threads + w.shared.stored (isObj o) +
    w.shared.pool.count o = if o < w.shared.nextObj then 1 else 0
  call : ∀ k, tally (fun t => tally (isCall k) t.undelivered) w.threads +
    w.shared.stored (isCall k) + tally (isCall k) w.shared.delivered ≤
      if k < w.shared.nextCall then 1 else 0

section

variable {cfg : ClientConfig} {w w' : World LogicClient Goroutine} {a : Action Goroutine Choice}

theorem Owned.singleOwner (h : Owned w) : SingleOwner w where
  place := fun o => by rw [count_places, h.obj o]
  delivered_once := by
    rw [List.nodup_iff_count_le_one]
    intro k
    rw [count_map_call]
    have := h.call k
    split at this <;> omega

theorem stored_initWorld (cfg : ClientConfig) (f : Message → ℕ) :
    (initWorld cfg).shared.stored f = 0 := by
  have : tally (fun sh : StreamShard => tally f sh.sendCh) (List.replicate cfg.totalShards {}) = 0 := by
    rw [tally_eq_zero_iff]
    intro sh hsh
    rw [List.eq_of_mem_replicate hsh]
    rfl
  simpa [stored, initWorld, newLogicClient, StreamMessageQueue.newStreamMessageQueue] using this

theorem owned_initWorld (cfg : ClientConfig) : Owned (initWorld cfg) := by
  constructor
  · intro o
    rw [tally_initWorld _ fun i => rfl, stored_initWorld]
    rfl
  · intro k
    rw [tally_initWorld _ fun i => rfl, stored_initWorld]
    exact Nat.zero_le _

theorem Owned.start {t : Goroutine} {c' : LogicClient} (hw : Owned w) (h : Start w.shared t c') :
    Owned ⟨c', w.threads ++ [t]⟩ := by
  obtain ⟨c, ts⟩ := w
  have hobj := hw.obj
  have hcall := hw.call
  cases h with
  | send hk ho =>
    rename_i m
    refine ⟨fun o => ?_, fun k => ?_⟩
    · have := hobj o
      simp only [tally_append, tally_cons, tally_nil, held, SendPc.owns, if_true,
        isObj, stored] at this ⊢
      grind
    · have := hcall k
      simp only [tally_append, tally_cons, tally_nil, undelivered, held,
        SendPc.owns, if_true, isCall, stored] at this ⊢
      grind
  | sendPooled hk ho =>
    rename_i m
    -- the pool had the object, so no other place had it
    refine ⟨fun o => ?_, fun k => ?_⟩
    · have := hobj o
      simp only [tally_append, tally_cons, tally_nil, held, SendPc.owns, if_true,
        isObj, stored, List.count_erase, beq_iff_eq] at this ⊢
      grind
    · have := hcall k
      simp only [tally_append, tally_cons, tally_nil, undelivered, held,
        SendPc.owns, if_true, isCall, stored] at this ⊢
      grind
  | attach | detach | close =>
    refine ⟨fun o => ?_, fun k => ?_⟩
    · rw [tally_append]
      exact hobj o
    · rw [tally_append]
      exact hcall k

theorem Owned.step {i : ℕ} {t t' : Goroutine} {c' : LogicClient} {new : List Goroutine}
    (hw : Owned w) (ht : w.threads[i]? = some t) (hm : Moves w.shared t c' t')
    (hnew : ∀ u ∈ new, u.held = [] ∧ u.undelivered = []) :
    Owned ⟨c', w.threads.set i t' ++ new⟩ := by
  refine ⟨fun o => ?_, fun k => ?_⟩
  · have h₁ := tally_set (fun t => tally (isObj o) t.held) t' ht
    have h₂ := hm.obj o
    have h₃ := hw.obj o
    have h₄ : tally (fun t => tally (isObj o) t.held) new = 0 :=
      (tally_eq_zero_iff _ _).mpr fun u hu => by rw [(hnew u hu).1]; rfl
    simp only [tally_append, hm.nextObj] at h₁ ⊢
    omega
  · have h₁ := tally_set (fun t => tally (isCall k) t.undelivered) t' ht
    have h₂ := hm.call k
    have h₃ := hw.call k
    have h₄ : tally (fun t => tally (isCall k) t.undelivered) new = 0 :=
      (tally_eq_zero_iff _ _).mpr fun u hu => by rw [(hnew u hu).2]; rfl
    simp only [tally_append, hm.nextCall] at h₁ ⊢
    omega

/-- The condition on an action: the goroutine that moves does not find its shard closed behind its
message. -/
def NotLate (cfg : ClientConfig) (w : World LogicClient Goroutine) :
    Action Goroutine Choice → Prop
  | .start _ => True
  | .step i _ => ∀ t, w.threads[i]? = some t → ¬ ReadsClosed cfg w.shared t

theorem Owned.exec (hw : Owned w) (hg : NotLate cfg w a)
    (h : (logicClient cfg).exec w a = some w') : Owned w' := by
  rcases Program.exec_cases h with ⟨t, c', rfl, hs, rfl⟩ | ⟨i, x, t, c', t', new, rfl, ht, hs, rfl⟩
  · exact hw.start (start_of_start hs)
  · have hstep := step_of_step hs
    exact hw.step ht (hstep.moves (hg t ht)) hstep.held_new

/-- After a late check the goroutine holds the message, and the client keeps everything it had. -/
theorem step_of_readsClosed {c : LogicClient} {t : Goroutine} {m : Message} {sh : StreamShard}
    (x : Choice) (hr : t.rechecks = some m)
    (hsh : c.shards[getShard cfg c m.sessionId]? = some sh) (hclosed : sh.closed = true) :
    ∃ t', (logicClient cfg).step c t x = some (c, t', []) ∧ t'.held = [m] ∧ t.held = [] := by
  have hsend : shardSend cfg c m .recheck x = some (c, .done (some .notConnected)) := by
    simp [shardSend, hsh, StreamShard.sendMessage, hclosed, setShard_self hsh]
  unfold rechecks at hr
  split at hr
  · cases hr
    refine ⟨.send m .enqueueAfter, ?_, rfl, rfl⟩
    simp [logicClient, LogicClient.step, sendMessage, hsend]
  · rename_i failures m'
    cases hr
    refine ⟨.flush (.requeue failures m), ?_, rfl, rfl⟩
    simp [logicClient, LogicClient.step, flush, hsend]
  · cases hr

/-- **A late check doubles the message.** -/
theorem exec_of_late (hw : Owned w) (hg : ¬ NotLate cfg w a) :
    ∃ w', (logicClient cfg).exec w a = some w' ∧ ¬ SingleOwner w' := by
  cases a with
  | start t => exact absurd trivial hg
  | step i x =>
    simp only [NotLate, not_forall, not_not] at hg
    obtain ⟨t, ht, m, sh, hr, hsh, hclosed⟩ := hg
    obtain ⟨t', hstep, hheld, hnone⟩ := step_of_readsClosed x hr hsh hclosed
    -- the message stays in the channel and is in the hands of the goroutine again
    refine ⟨⟨w.shared, w.threads.set i t' ++ []⟩, ?_, fun hso => ?_⟩
    · simp [Program.exec, ht, hstep]
    · have h₁ := tally_set (fun t => tally (isObj m.obj) t.held) t' ht
      have h₂ := hso.place m.obj
      have h₃ := hw.obj m.obj
      have h₄ : tally (isObj m.obj) t'.held = 1 := by rw [hheld]; simp [isObj]
      have h₅ : tally (isObj m.obj) t.held = 0 := by rw [hnone]; rfl
      rw [count_places] at h₂
      simp only [tally_append, tally_nil] at h₂
      omega

end

/-- **Single ownership, exactly.** In every run of a client, every object stays in one place and no
message is delivered twice, iff no sender and no flusher finds its shard closed after its message
entered the channel. -/
theorem singleOwner_iff (cfg : ClientConfig) (as : List (Action Goroutine Choice)) :
    (logicClient cfg).Throughout SingleOwner (initWorld cfg) as ↔
      (logicClient cfg).Guarded (NotLate cfg) (initWorld cfg) as :=
  Transition.throughout_iff_guarded (fun _ h => h.singleOwner) (fun _ _ _ hw hg h => hw.exec hg h)
    (fun _ _ hw hg => exec_of_late hw hg) (owned_initWorld cfg)

/-- A message enters the channel, `Close` marks the shard closed, and the sender checks again and
queues the message. -/
def closeBehindSend : List (Action Goroutine Choice) :=
  attachFirst ++ .start callOne :: steps 3 3 ++ .start (.close .lock) :: steps 4 2 ++ steps 3 2

/-- In that run the message is both in the channel and in the reconnect queue. -/
theorem closeBehindSend_doubles : ∃ w,
    (logicClient oneShard).run (initWorld oneShard) closeBehindSend = some w ∧
      (places w).count 0 = 2 ∧ ¬ SingleOwner w :=
  ⟨_, rfl, by decide, fun h => absurd (h.place 0) (by decide)⟩

end Sgate.Backend
