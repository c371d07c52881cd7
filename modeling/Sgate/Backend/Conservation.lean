import Sgate.Backend.Ownership

/-! # Accounting for accepted messages

A message whose `SendMessage` call succeeded is in a channel, in a batch, in the reconnect queue or in
the hand of the flusher until it is written or counted as dropped (`Conserved`). `Lost` lists the steps
that make one disappear. -/

namespace Sgate.Backend

open Interleaving LogicClient
open Goroutine hiding flush

/-! ## The equation -/

/-- The call has handed its message over, or has returned without an error. -/
def SendPc.accepted : SendPc → Bool
  | .shard .recheck | .spawnFlush | .returned none => true
  | _ => false

theorem SendPc.accepted_of_owns {pc : SendPc} (h : pc.owns = true) : pc.accepted = false := by
  cases pc with
  | shard pc =>
    cases pc with
    | recheck => cases h
    | _ => rfl
  | spawnFlush | returned => cases h
  | _ => rfl

def Goroutine.accepted : Goroutine → ℕ
  | .send _ pc => if pc.accepted then 1 else 0
  | _ => 0

/-- Messages that a send loop has taken and neither written nor counted. -/
def LoopPc.carried : LoopPc → ℕ
  | .collect batch | .readStream batch | .sendMsg batch _ | .detach batch _ _
  | .countDropped batch => batch.length
  | .select | .put _ | .exited => 0

/-- Accepted messages on their way through a goroutine: in a batch, in the hand of the flusher, or
drained and not yet added to the counter. -/
def Goroutine.carried : Goroutine → ℕ
  | .flush pc => pc.hand.toList.length
  | .loop _ pc => pc.carried
  | .close (.drain _ dropped) => dropped
  | _ => 0

/-- Messages written, counted as dropped, or in the channels and the reconnect queue. -/
def LogicClient.accounted (c : LogicClient) : ℕ :=
  c.delivered.length + c.droppedNoConn + c.stored fun _ => 1

/-- Every accepted message was written or counted, or is still on its way. -/
def Conserved (w : World LogicClient Goroutine) : Prop :=
  tally Goroutine.accepted w.threads = w.shared.accounted + tally Goroutine.carried w.threads
  deriving Decidable

/-! ## Messages that are lost -/

/-- Taking a message makes the queue discard its oldest one. -/
def StreamMessageQueue.discards {α : Type} (q : StreamMessageQueue α) : Bool :=
  q.full && match q.policy with
    | .drop => true
    | .backpressure => !q.backpressured
    | .block | .timeout => false

open StreamMessageQueue

/-- Accepted messages that the next step of a goroutine discards without counting them. -/
def Goroutine.lost (c : LogicClient) : Goroutine → ℕ
  | .send _ .enqueue | .send _ .enqueueAfter => if c.messageQueue.discards then 1 else 0
  | .flush (.requeue _ _) => if c.messageQueue.full then 1 else 0
  | .flush (.check _ _) => if c.mu = false ∧ c.closing = true then 1 else 0
  | _ => 0

section Queue

variable {α : Type} {q q' : StreamMessageQueue α} {m : α}

theorem StreamMessageQueue.length_dropOldest (q : StreamMessageQueue α) :
    q.dropOldest.2.length = if q.full then 1 else 0 := by
  have hpos := q.maxSize_pos
  unfold dropOldest
  split
  · rename_i hfull
    simp only [full, decide_eq_true_eq] at hfull
    rw [List.length_take]
    omega
  · rfl

theorem StreamMessageQueue.length_gone {expired : Bool} {gone : List α} {err : Option Err}
    (h : q.enqueue m expired = some (q', gone, err)) :
    gone.length = if q.discards then 1 else 0 := by
  have hdrop := q.length_dropOldest
  unfold enqueue at h
  unfold discards
  cases hp : q.policy <;> simp only [hp] at h
  case drop =>
    cases h
    simpa using hdrop
  case backpressure =>
    split at h
    · rename_i hback
      cases h
      simp [hback]
    · rename_i hback
      cases h
      simpa [hback] using hdrop
  all_goals
    split at h
    · split at h
      · cases h
        simp
      · split at h <;> cases h
        simp
    · cases h
      simp

end Queue

/-! ## One step -/

/-- What a step does to the two sides of the equation: they change alike, but for messages that are
from then on in two places and messages that are nowhere. -/
def Balances (c : LogicClient) (t : Goroutine) (c' : LogicClient) (t' : Goroutine)
    (doubled lost : ℕ) : Prop :=
  t'.accepted + (c.accounted + t.carried) + doubled =
    t.accepted + (c'.accounted + t'.carried) + lost

section Steps

variable {cfg : ClientConfig} {c c' : LogicClient} {m : Message} {x : Choice}

theorem tally_one (ms : List Message) : tally (fun _ => 1) ms = ms.length := by
  induction ms with
  | nil => rfl
  | cons m ms ih => rw [tally_cons, ih, List.length_cons, Nat.add_comm]

theorem accounted_withQueue (ms gone : List Message) :
    (c.withQueue ms gone).accounted + c.messageQueue.queue.length = c.accounted + ms.length := by
  have h := stored_withQueue (c := c) (fun _ => 1) ms gone
  rw [tally_one, tally_one] at h
  have hdel : (c.withQueue ms gone).delivered = c.delivered := rfl
  have hdropped : (c.withQueue ms gone).droppedNoConn = c.droppedNoConn := rfl
  rw [accounted, accounted, hdel, hdropped]
  omega

variable {sh : StreamShard} {i : ℕ}

theorem accounted_setShard (sh' : StreamShard) (hsh : c.shards[i]? = some sh) :
    (c.setShard i sh').accounted + sh.sendCh.length = c.accounted + sh'.sendCh.length := by
  have h := stored_setShard (fun _ => 1) sh' hsh
  rw [tally_one, tally_one] at h
  have hdel : (c.setShard i sh').delivered = c.delivered := rfl
  have hdropped : (c.setShard i sh').droppedNoConn = c.droppedNoConn := rfl
  rw [accounted, accounted, hdel, hdropped]
  omega

theorem accounted_put (hsh : c.shards[i]? = some sh) :
    (c.setShard i (sh.put m)).accounted = c.accounted + 1 := by
  have h := accounted_setShard (sh.put m) hsh
  simp only [StreamShard.put_sendCh, List.length_append, List.length_singleton] at h
  omega

theorem accounted_take {rest : List Message} (hsh : c.shards[i]? = some sh)
    (hch : sh.sendCh = m :: rest) :
    (c.setShard i { sh with sendCh := rest }).accounted + 1 = c.accounted := by
  have h := accounted_setShard { sh with sendCh := rest } hsh
  simp only [hch, List.length_cons] at h
  omega

/-- **Queueing a message** takes the place of the one that is discarded, if any. -/
theorem accounted_enqueue {err : Option Err} (h : c.enqueue m x = some (c', err)) :
    (err = none ∧ c'.accounted + (if c.messageQueue.discards then 1 else 0) = c.accounted + 1) ∨
      ((∃ e, err = some e) ∧ c' = c ∧ c.messageQueue.discards = false) := by
  unfold LogicClient.enqueue at h
  split at h
  · cases h
  · rename_i q gone err' hq
    obtain ⟨rfl, rfl⟩ : c' = { c with messageQueue := q }.putAll gone ∧ err = err' := by
      simpa [eq_comm] using h
    have hlen := length_gone hq
    rcases enqueue_cases hq with ⟨e, rfl, rfl, rfl⟩ | ⟨rfl, rest, hrest, rfl⟩
    · refine .inr ⟨⟨e, rfl⟩, rfl, ?_⟩
      cases hd : c.messageQueue.discards with
      | false => rfl
      | true => simp [hd] at hlen
    · have hacc := accounted_withQueue (c := c) (rest ++ [m]) gone
      rw [← hrest, List.length_append, List.length_append, List.length_singleton] at hacc
      rw [← hlen, putAll_eq]
      refine .inl ⟨rfl, ?_⟩
      change (c.withQueue (rest ++ [m]) gone).accounted + gone.length = c.accounted + 1
      omega

variable {t t' : Goroutine}

theorem Balances.of_eq (hacc : t'.accepted = t.accepted) (hcar : t'.carried = t.carried)
    (hc : c'.accounted = c.accounted) : Balances c t c' t' 0 0 := by
  rw [Balances, hacc, hcar, hc]

variable {new : List Goroutine} {pc pc' : SendPc}

theorem SendStep.balances (h : SendStep cfg c m pc c' pc' new)
    (hopen : ¬ ReadsClosed cfg c (.send m pc)) (henq : pc ≠ .enqueue) (hafter : pc ≠ .enqueueAfter) :
    Balances c (.send m pc) c' (.send m pc') 0 0 := by
  cases h with
  | hold hpc hpc' =>
    refine .of_eq ?_ rfl rfl
    simp only [accepted, SendPc.accepted_of_owns hpc, SendPc.accepted_of_owns hpc']
  | enqueue => exact absurd rfl henq
  | enqueueAfter => exact absurd rfl hafter
  | put hpc hsh =>
    -- the message is accepted and in the channel at once
    have hold : SendPc.accepted (.shard _) = false :=
      SendPc.accepted_of_owns (ShardPc.owns_of_sends hpc)
    simp only [Balances, accepted, hold, carried, accounted_put hsh]
    change 1 + _ + 0 = 0 + _ + 0
    omega
  | ok | spawn | putBack => exact .of_eq rfl rfl rfl
  | late hsh hclosed => exact absurd ⟨m, _, rfl, hsh, hclosed⟩ hopen

/-- **Sending**: only a queue that discards loses a message. -/
theorem balances_send (h : sendMessage cfg c m pc x = some (c', pc', new))
    (hopen : ¬ ReadsClosed cfg c (.send m pc)) :
    Balances c (.send m pc) c' (.send m pc') 0 (Goroutine.lost c (.send m pc)) := by
  cases pc with
  | enqueue | enqueueAfter =>
    simp only [sendMessage] at h
    split at h
    · cases h
    · rename_i c₁ henq
      cases h
      rcases accounted_enqueue henq with ⟨-, hacc⟩ | ⟨⟨e, he⟩, -⟩
      · change 1 + (c.accounted + 0) + 0 = 0 + (_ + 0) + (if c.messageQueue.discards then 1 else 0)
        omega
      · cases he
    · rename_i c₁ err henq
      cases h
      rcases accounted_enqueue henq with ⟨he, -⟩ | ⟨-, rfl, hd⟩
      · cases he
      · simp only [lost, hd]
        exact .of_eq rfl rfl rfl
  | _ => exact (sendStep_of_sendMessage h).balances hopen (by simp) (by simp)

variable {pc pc' : FlushPc}

theorem FlushStep.balances (h : FlushStep cfg c pc c' pc') (hopen : ¬ ReadsClosed cfg c (.flush pc))
    (hcheck : ∀ n m, pc ≠ .check n m) (hrequeue : ∀ n m, pc ≠ .requeue n m) :
    Balances c (.flush pc) c' (.flush pc') 0 0 := by
  cases h with
  | lose | win | empty | giveUp | ok | reset => exact .of_eq rfl rfl rfl
  | dequeue hf hq =>
    rename_i failures m rest
    have hacc := accounted_withQueue (c := c) rest []
    rw [hq, List.length_cons] at hacc
    change 0 + (c.accounted + 0) + 0 = 0 + ((c.withQueue rest []).accounted + 1) + 0
    omega
  | hold hpc hpc' => exact .of_eq rfl (by simp only [carried, hpc, hpc']) rfl
  | discard => exact absurd rfl (hcheck _ _)
  | requeue => exact absurd rfl (hrequeue _ _)
  | put hpc hsh =>
    rename_i failures m pc sh
    have hhand : FlushPc.hand (.shard failures m pc) = some m := if_pos (ShardPc.owns_of_sends hpc)
    simp only [Balances, accepted, carried, hhand, accounted_put hsh]
    change 0 + (_ + 1) + 0 = 0 + (_ + 0) + 0
    omega
  | late hsh hclosed => exact absurd ⟨_, _, rfl, hsh, hclosed⟩ hopen

/-- **Flushing**: a full queue loses a message for the one put back, a closing client the message in
hand. -/
theorem balances_flush (h : flush cfg c pc x = some (c', pc'))
    (hopen : ¬ ReadsClosed cfg c (.flush pc)) :
    Balances c (.flush pc) c' (.flush pc') 0 (Goroutine.lost c (.flush pc)) := by
  cases pc with
  | check failures m =>
    simp only [flush, Option.ite_none_left_eq_some] at h
    obtain ⟨hmu, h⟩ := h
    split at h
    · rename_i hclosing
      cases h
      have hlost : lost c (.flush (.check failures m)) = 1 :=
        if_pos ⟨by simpa using hmu, hclosing⟩
      rw [hlost]
      change 0 + (c.accounted + 1) + 0 = 0 + (c.accounted + 0) + 1
      omega
    · rename_i hclosing
      cases h
      have hlost : lost c (.flush (.check failures m)) = 0 :=
        if_neg fun hc => hclosing hc.2
      rw [hlost]
      refine .of_eq rfl ?_ rfl
      split <;> rfl
  | requeue failures m =>
    obtain ⟨rest, hrest, hq⟩ := c.messageQueue.requeueFront_spec m
    have hgone : (c.messageQueue.requeueFront m).2.length =
        if c.messageQueue.full then 1 else 0 := c.messageQueue.length_dropOldest
    simp only [flush, putAll_eq, hq] at h
    cases h
    have hacc := accounted_withQueue (c := c) (m :: rest) (c.messageQueue.requeueFront m).2
    rw [← hrest, List.length_append, List.length_cons] at hacc
    change 0 + (c.accounted + 1) + 0 = 0 + ((c.withQueue (m :: rest) _).accounted + 0) +
      (if c.messageQueue.full then 1 else 0)
    omega
  | _ => exact (flushStep_of_flush h).balances hopen (by simp) (by simp)

variable {idx stream : ℕ}

theorem SameMessages.accounted_eq (h : SameMessages c c')
    (hdropped : c'.droppedNoConn = c.droppedNoConn) : c'.accounted = c.accounted := by
  rw [accounted, accounted, h.delivered, hdropped, h.stored_eq]

/-- **The send loop** loses nothing. -/
theorem LoopStep.balances {idx : ℕ} {pc pc' : LoopPc} (h : LoopStep c idx pc c' pc') :
    Balances c (.loop idx pc) c' (.loop idx pc') 0 0 := by
  cases h with
  | exit | collected | noStream | stream | fail | done | put => exact .of_eq rfl rfl rfl
  | first hsh hch =>
    have hacc := accounted_take hsh hch
    simp only [Balances, accepted, carried, LoopPc.carried,
      List.length_singleton]
    omega
  | collect hsh hch =>
    rename_i batch sh m rest
    have hacc := accounted_take hsh hch
    have hcar : carried (.loop idx (if maxBatchCount ≤ (batch ++ [m]).length then
        .readStream (batch ++ [m]) else .collect (batch ++ [m]))) = batch.length + 1 := by
      split <;> simp [carried, LoopPc.carried]
    rw [Balances, hcar]
    simp only [accepted, carried, LoopPc.carried]
    omega
  | sent =>
    simp only [Balances, accepted, carried, LoopPc.carried, accounted, stored,
      List.length_append]
    omega
  | detach h | detached h =>
    obtain ⟨hsame, hdropped, -⟩ := sameMessages_detachShard h
    exact .of_eq rfl rfl (hsame.accounted_eq hdropped)
  | count =>
    simp only [Balances, accepted, carried, LoopPc.carried, accounted, stored]
    omega

/-- **`Close`** counts what it drains from the channels. -/
theorem balances_close {pc pc' : ClosePc} (h : close c pc = some (c', pc')) :
    Balances c (.close pc) c' (.close pc') 0 0 := by
  obtain ⟨gone, htr, hdel, hdrained⟩ := transfers_close h
  have hweight := htr.weight fun _ => 1
  have hcar (pc : ClosePc) : carried (.close pc) = pc.drained := by cases pc <;> rfl
  change _ + 0 + tally _ gone = _ + 0 at hweight
  rw [tally_one] at hweight
  simp only [Balances, accepted, hcar, accounted, hdel]
  omega

/-- **One step** changes the two sides alike but for what it loses, unless it finds a shard closed
behind a message. -/
theorem balances_step (h : (logicClient cfg).step c t x = some (c', t', new))
    (hopen : ¬ ReadsClosed cfg c t) : Balances c t c' t' 0 (t.lost c) := by
  cases t with
  | send m pc =>
    obtain ⟨r, hs, heq⟩ := Option.map_eq_some_iff.mp h
    cases heq
    exact balances_send hs hopen
  | flush pc =>
    obtain ⟨r, hs, heq⟩ := Option.map_eq_some_iff.mp h
    cases heq
    exact balances_flush hs hopen
  | attach =>
    cases step_of_step h with
    | attach hs =>
      obtain ⟨hsame, hdropped, -⟩ := sameMessages_attachShard hs
      exact .of_eq rfl rfl (hsame.accounted_eq hdropped)
  | detach =>
    cases step_of_step h with
    | detach hs =>
      obtain ⟨hsame, hdropped, -⟩ := sameMessages_detachShard hs
      exact .of_eq rfl rfl (hsame.accounted_eq hdropped)
  | close =>
    cases step_of_step h with
    | close hs => exact balances_close hs
  | loop =>
    cases step_of_step h with
    | loop hs => exact hs.balances

theorem StreamMessageQueue.enqueue_of_discards {α : Type} {q : StreamMessageQueue α} (m : α)
    (expired : Bool) (h : q.discards = true) :
    q.enqueue m expired = some (q.dropOldest.1.push m, q.dropOldest.2, none) := by
  simp only [discards, Bool.and_eq_true] at h
  unfold enqueue
  cases hp : q.policy <;> simp_all

theorem step_of_lost (cfg : ClientConfig) (x : Choice) (h : t.lost c ≠ 0) :
    ∃ c' t' new, (logicClient cfg).step c t x = some (c', t', new) := by
  have hite {p : Prop} [Decidable p] (hp : (if p then 1 else 0) ≠ 0) : p := by
    by_contra hn
    exact hp (if_neg hn)
  change ∃ c' t' new, LogicClient.step cfg c t x = some (c', t', new)
  unfold lost at h
  split at h
  · have henq := enqueue_of_discards ‹Message› (x = .timeout) (hite h)
    exact ⟨_, _, _, by simp only [LogicClient.step, sendMessage, LogicClient.enqueue, henq]; rfl⟩
  · have henq := enqueue_of_discards ‹Message› (x = .timeout) (hite h)
    exact ⟨_, _, _, by simp only [LogicClient.step, sendMessage, LogicClient.enqueue, henq]; rfl⟩
  · exact ⟨_, _, _, rfl⟩
  · obtain ⟨hmu, hclosing⟩ := hite h
    exact ⟨_, _, _, by simp only [LogicClient.step, flush, hmu, hclosing]; rfl⟩
  · exact absurd rfl h

theorem balances_of_readsClosed (x : Choice) (h : ReadsClosed cfg c t) :
    ∃ t', (logicClient cfg).step c t x = some (c, t', []) ∧ Balances c t c t' 1 0 := by
  obtain ⟨m, sh, hr, hsh, hclosed⟩ := h
  obtain ⟨t', hstep, hheld, -⟩ := step_of_readsClosed x hr hsh hclosed
  refine ⟨t', hstep, ?_⟩
  unfold rechecks at hr
  split at hr
  · cases hr
    -- the call has not handed its message over after all
    cases step_of_step hstep with
    | send hs =>
      rename_i pc'
      have hpc' : pc'.owns = true := by
        by_contra hn
        simp [held, hn] at hheld
      simp only [Balances, accepted, carried, SendPc.accepted_of_owns hpc']
      change 0 + (_ + 0) + 1 = 1 + (_ + 0) + 0
      omega
  · cases hr
    -- the flusher has its message in hand again
    cases step_of_step hstep with
    | flush hs =>
      have hcar : carried (.flush _) = 1 := congrArg List.length hheld
      rw [Balances, hcar]
      change 0 + (_ + 0) + 1 = 0 + (_ + 1) + 0
      omega
  · cases hr

end Steps

/-! ## Whole runs -/

variable {cfg : ClientConfig} {w w' : World LogicClient Goroutine} {a : Action Goroutine Choice}

/-- The condition on an action: the goroutine that moves loses no message and does not find its shard
closed behind its message. -/
def NoLoss (cfg : ClientConfig) (w : World LogicClient Goroutine) : Action Goroutine Choice → Prop
  | .start _ => True
  | .step i _ => ∀ t, w.threads[i]? = some t → ¬ ReadsClosed cfg w.shared t ∧ t.lost w.shared = 0

/-- The equation survives a step that loses as much as it doubles, and no other. -/
theorem conserved_step_iff {i doubled lost : ℕ} {t t' : Goroutine} {c' : LogicClient}
    {new : List Goroutine} (hw : Conserved w) (ht : w.threads[i]? = some t)
    (hb : Balances w.shared t c' t' doubled lost) (hnew : new = [] ∨ new = [.flush .cas]) :
    Conserved ⟨c', w.threads.set i t' ++ new⟩ ↔ doubled = lost := by
  have hacc := tally_set accepted t' ht
  have hcar := tally_set carried t' ht
  have hnone : tally accepted new = 0 ∧ tally carried new = 0 := by
    rcases hnew with rfl | rfl <;> exact ⟨rfl, rfl⟩
  simp only [Conserved, tally_append, hnone.1, hnone.2]
  unfold Conserved at hw
  unfold Balances at hb
  omega

theorem Conserved.exec (hw : Conserved w) (hg : NoLoss cfg w a)
    (h : (logicClient cfg).exec w a = some w') : Conserved w' := by
  rcases Program.exec_cases h with ⟨t, c', rfl, hs, rfl⟩ | ⟨i, x, t, c', t', new, rfl, ht, hs, rfl⟩
  · -- a call of the environment has handed over nothing
    have hnone : t.accepted = 0 ∧ t.carried = 0 ∧ c'.accounted = w.shared.accounted := by
      cases start_of_start hs <;> exact ⟨rfl, rfl, rfl⟩
    obtain ⟨hacc, hcar, hc⟩ := hnone
    simpa [Conserved, hacc, hcar, hc] using hw
  · obtain ⟨hopen, hlost⟩ := hg t ht
    have hb := balances_step hs hopen
    exact (conserved_step_iff hw ht hb (step_of_step hs).new_eq).mpr hlost.symm

/-- **A step that loses or doubles a message breaks the equation.** -/
theorem exec_of_loss (hw : Conserved w) (hg : ¬ NoLoss cfg w a) :
    ∃ w', (logicClient cfg).exec w a = some w' ∧ ¬ Conserved w' := by
  cases a with
  | start t => exact absurd trivial hg
  | step i x =>
    simp only [NoLoss, not_forall] at hg
    obtain ⟨t, ht, hg⟩ := hg
    by_cases hclosed : ReadsClosed cfg w.shared t
    · obtain ⟨t', hs, hb⟩ := balances_of_readsClosed x hclosed
      refine ⟨⟨w.shared, w.threads.set i t' ++ []⟩, by simp [Program.exec, ht, hs], ?_⟩
      rw [conserved_step_iff hw ht hb (.inl rfl)]
      exact Nat.one_ne_zero
    · have hlost : t.lost w.shared ≠ 0 := fun h => hg ⟨hclosed, h⟩
      obtain ⟨c', t', new, hs⟩ := step_of_lost cfg x hlost
      refine ⟨⟨c', w.threads.set i t' ++ new⟩, by simp [Program.exec, ht, hs], ?_⟩
      rw [conserved_step_iff hw ht (balances_step hs hclosed) (step_of_step hs).new_eq]
      exact hlost.symm

theorem conserved_initWorld (cfg : ClientConfig) : Conserved (initWorld cfg) := by
  rw [Conserved, tally_initWorld _ fun i => rfl, tally_initWorld _ fun i => rfl, accounted,
    stored_initWorld]
  rfl

/-- **No silent loss, exactly.** In every run of a client, the accepted messages are the written, the
counted and the stored ones with those on their way, iff no sender makes a full queue discard a
message, no flusher puts a message back into a full queue or discards one because the client is
closing, and neither finds its shard closed after its message entered the channel. -/
theorem conserved_iff (cfg : ClientConfig) (as : List (Action Goroutine Choice)) :
    (logicClient cfg).Throughout Conserved (initWorld cfg) as ↔
      (logicClient cfg).Guarded (NoLoss cfg) (initWorld cfg) as :=
  Transition.throughout_iff_guarded (fun _ h => h) (fun _ _ _ hw hg h => hw.exec hg h)
    (fun _ _ hw hg => exec_of_loss hw hg) (conserved_initWorld cfg)

/-- A one-shard client whose reconnect queue has room for one message. -/
def shortQueue : ClientConfig := { oneShard with queuePolicy := { maxSize := 1 } }

/-- Two calls of `SendMessage` while no stream is attached. -/
def twoWhileDisconnected : List (Action Goroutine Choice) :=
  .start callOne :: steps 1 3 ++ .start callTwo :: steps 2 3

/-- In that run both calls return without an error, but the queue discarded the first message for the
second: nothing is written, counted or on its way but the second one. -/
theorem twoWhileDisconnected_loses : ∃ w,
    (logicClient shortQueue).run (initWorld shortQueue) twoWhileDisconnected = some w ∧
      tally Goroutine.accepted w.threads = 2 ∧ w.shared.accounted = 1 ∧
      tally Goroutine.carried w.threads = 0 ∧ w.shared.droppedNoConn = 0 ∧ ¬ Conserved w :=
  ⟨_, rfl, by decide, by decide, by decide, by decide, by decide⟩

end Sgate.Backend
