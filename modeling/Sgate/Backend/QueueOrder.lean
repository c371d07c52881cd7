import Sgate.Backend.Queue
import Sgate.Lib.Transition
import Mathlib.Data.List.Nodup

/-! # The order of the reconnect queue

The queue between senders and its one flusher, which has at most one message in its hand: it has
dequeued it and neither sent it nor put it back. A message counts as arrived when it is accepted, and
carries its number. -/

namespace Sgate.Backend

open Transition StreamMessageQueue List

/-- The queue, the message in the hand of the flusher and all messages accepted so far. -/
structure Reconnect (α : Type) where
  queue : StreamMessageQueue (α × ℕ)
  hand : Option (α × ℕ) := none
  accepted : List α := []

inductive QueueOp (α : Type)
  | enqueue (m : α)
  | dequeue
  | requeueFront
  /-- The message in hand is sent. -/
  | sent

namespace Reconnect

variable {α : Type}

/-- What is kept, the message in hand first. -/
def retained (s : Reconnect α) : List (α × ℕ) := s.hand.toList ++ s.queue.queue

/-- An operation, with the messages it discards. Nobody's deadline expires; a sender that waits for
room makes no step. -/
def exec (s : Reconnect α) : QueueOp α → Option (Reconnect α × List (α × ℕ))
  | .enqueue m =>
    match s.queue.enqueue (m, s.accepted.length) false with
    | none => none
    | some (_, _, some _) => some (s, [])
    | some (queue, gone, none) => some ({ s with queue, accepted := s.accepted ++ [m] }, gone)
  | .dequeue =>
    match s.hand, s.queue.dequeue with
    | some _, _ => none
    | none, none => some (s, [])
    | none, some (m, queue) => some ({ s with queue, hand := some m }, [])
  | .requeueFront =>
    match s.hand with
    | none => none
    | some m => some ({ s with queue := (s.queue.requeueFront m).1, hand := none },
        (s.queue.requeueFront m).2)
  | .sent =>
    match s.hand with
    | none => none
    | some _ => some ({ s with hand := none }, [])

def step (s : Reconnect α) (op : QueueOp α) : Option (Reconnect α) := (s.exec op).map Prod.fst

def start (cfg : StreamQueueConfig) : Reconnect α := { queue := newStreamMessageQueue cfg }

/-- What is kept are accepted messages, in the order in which they arrived. -/
structure Ordered (cfg : StreamQueueConfig) (s : Reconnect α) : Prop where
  limit : s.queue.maxSize = sizeLimit cfg.maxSize
  policy : s.queue.policy = cfg.policy
  bound : s.queue.queue.length ≤ s.queue.maxSize
  order : s.retained.Sublist s.accepted.zipIdx

section

variable {cfg : StreamQueueConfig} {s s' : Reconnect α} {op : QueueOp α} {gone : List (α × ℕ)}

theorem ordered_start : Ordered cfg (start cfg : Reconnect α) where
  limit := rfl
  policy := rfl
  bound := Nat.zero_le _
  order := .slnil

theorem sublist_dropOldest (q : StreamMessageQueue α) : q.dropOldest.1.queue.Sublist q.queue := by
  obtain ⟨rest, hrest, hq⟩ := q.dropOldest_spec
  rw [hq, ← hrest]
  exact sublist_append_right ..

theorem length_dropOldest {q : StreamMessageQueue α} (h : q.queue.length ≤ q.maxSize) :
    q.dropOldest.1.queue.length < q.maxSize := by
  have hpos := q.maxSize_pos
  unfold dropOldest
  split
  · rw [withQueue_queue, length_tail]
    omega
  · rename_i hroom
    simpa [full] using hroom

theorem dropOldest_settings (q : StreamMessageQueue α) :
    q.dropOldest.1.maxSize = q.maxSize ∧ q.dropOldest.1.policy = q.policy := by
  obtain ⟨rest, -, hq⟩ := q.dropOldest_spec
  rw [hq]
  exact ⟨rfl, rfl⟩

theorem exec_enqueue {m : α} (h : s.exec (.enqueue m) = some (s', gone)) :
    (s' = s ∧ gone = []) ∨
    (s' = { s with queue := s.queue.dropOldest.1.push (m, s.accepted.length)
                   accepted := s.accepted ++ [m] } ∧ gone = s.queue.dropOldest.2) := by
  simp only [exec] at h
  split at h
  · cases h
  · cases h
    exact .inl ⟨rfl, rfl⟩
  · rename_i hq
    cases h
    obtain ⟨e, herr, -⟩ | ⟨-, rfl, rfl⟩ := enqueue_eq hq
    · cases herr
    · exact .inr ⟨rfl, rfl⟩

theorem Ordered.exec (h : Ordered cfg s) (hs : s.exec op = some (s', gone)) : Ordered cfg s' := by
  obtain ⟨hlimit, hpolicy⟩ := dropOldest_settings s.queue
  have hroom := length_dropOldest h.bound
  cases op with
  | enqueue m =>
    obtain ⟨rfl, -⟩ | ⟨rfl, -⟩ := exec_enqueue hs
    · exact h
    · refine ⟨hlimit.trans h.limit, hpolicy.trans h.policy, ?_, ?_⟩
      · simp only [push, withQueue, length_append, length_singleton, hlimit]
        omega
      · have hzip : (s.accepted ++ [m]).zipIdx = s.accepted.zipIdx ++ [(m, s.accepted.length)] := by
          simp [zipIdx_append]
        have hrest := (List.Sublist.refl s.hand.toList).append (sublist_dropOldest s.queue)
        have horder := (hrest.trans h.order).append_right [(m, s.accepted.length)]
        rw [append_assoc, ← hzip] at horder
        exact horder
  | dequeue =>
    simp only [Reconnect.exec, StreamMessageQueue.dequeue] at hs
    split at hs
    · cases hs
    · cases hs
      exact h
    · rename_i hhand hdequeue
      split at hdequeue <;> cases hdequeue
      rename_i m rest hqueue
      cases hs
      have hbound := h.bound
      have horder := h.order
      simp only [retained, hhand, hqueue, length_cons] at hbound horder
      exact ⟨h.limit, h.policy, (Nat.le_succ _).trans hbound, horder⟩
  | requeueFront =>
    simp only [Reconnect.exec] at hs
    split at hs <;> cases hs
    rename_i m hhand
    have horder := h.order
    rw [retained, hhand] at horder
    refine ⟨hlimit.trans h.limit, hpolicy.trans h.policy, ?_,
      ((sublist_dropOldest s.queue).cons_cons m).trans horder⟩
    simp only [requeueFront, withQueue, length_cons, hlimit]
    omega
  | sent =>
    simp only [Reconnect.exec] at hs
    split at hs <;> cases hs
    exact { h with order := (sublist_append_right ..).trans h.order }

theorem Ordered.step (h : Ordered cfg s) (hs : s.step op = some s') : Ordered cfg s' := by
  obtain ⟨⟨v, gone⟩, hexec, rfl⟩ := Option.map_eq_some_iff.mp hs
  exact h.exec hexec

theorem Ordered.pairwise (h : Ordered cfg s) : s.retained.Pairwise fun x y => x.2 < y.2 := by
  have hnumbers : (s.accepted.zipIdx.map Prod.snd).Pairwise (· < ·) := by
    rw [zipIdx_map_snd]
    exact pairwise_lt_range'
  exact (pairwise_map.mp hnumbers).sublist h.order

/-- **The queue is bounded and in order.** Whatever the policy and the size limit, the queue never has
more messages than the limit, and the message in hand followed by the queue is a part of the accepted
messages, in the order of their arrival and without duplicates. -/
theorem queue_in_order (cfg : StreamQueueConfig) (ops : List (QueueOp α)) (s : Reconnect α)
    (hrun : run step (start cfg) ops = some s) :
    s.queue.queue.length ≤ sizeLimit cfg.maxSize ∧ s.retained.Sublist s.accepted.zipIdx ∧
      s.retained.Nodup := by
  have h : Ordered cfg s := invariant_of_run (fun _ _ _ h hs => h.step hs) ordered_start hrun
  refine ⟨h.limit ▸ h.bound, h.order, h.pairwise.imp ?_⟩
  rintro x y hlt rfl
  exact lt_irrefl _ hlt

/-- A message is put back into a queue that filled up while it was in hand. -/
def putBack : List (QueueOp ℕ) := [.enqueue 7, .enqueue 8, .dequeue, .enqueue 9, .requeueFront]

theorem queue_in_order_putBack : ∃ s, run step (start { maxSize := 2 }) putBack = some s ∧
    s.retained.Sublist s.accepted.zipIdx := by
  obtain ⟨s, hs⟩ : ∃ s, run step (start { maxSize := 2 }) putBack = some s := ⟨_, rfl⟩
  exact ⟨s, hs, (queue_in_order _ putBack s hs).2.1⟩

/-! ## Who is discarded -/

/-- Whatever the operation discards arrived before everything that is kept. -/
def DropsOldest (s : Reconnect α) (op : QueueOp α) : Prop :=
  ∀ s' gone, s.exec op = some (s', gone) → ∀ x ∈ gone, ∀ y ∈ s'.retained, x.2 < y.2

theorem dropsOldest_of_exec (h : s.exec op = some (s', gone)) :
    s.DropsOldest op ↔ ∀ x ∈ gone, ∀ y ∈ s'.retained, x.2 < y.2 := by
  simp [DropsOldest, h]

instance decidableDropsOldest (s : Reconnect α) (op : QueueOp α) : Decidable (s.DropsOldest op) :=
  match h : s.exec op with
  | none => isTrue (by simp [DropsOldest, h])
  | some (_, _) => decidable_of_iff _ (dropsOldest_of_exec h).symm

/-- A message is put into a full queue only while the hand of the flusher is empty. -/
def HandEmpty (s : Reconnect α) : QueueOp α → Prop
  | .enqueue _ | .requeueFront => s.queue.full = true → s.hand = none
  | .dequeue | .sent => True

theorem Ordered.older_iff (h : Ordered cfg s) (new : List (α × ℕ))
    (hnew : ∀ y ∈ new, y.2 = s.accepted.length) :
    (∀ x ∈ s.queue.dropOldest.2, ∀ y ∈ s.hand.toList ++ (s.queue.dropOldest.1.queue ++ new),
      x.2 < y.2) ↔ (s.queue.full = true → s.hand = none) := by
  by_cases hfull : s.queue.full = true
  · have hpos := s.queue.maxSize_pos
    obtain ⟨x, rest, hqueue⟩ := exists_cons_of_length_pos
      (hpos.trans_le (of_decide_eq_true hfull))
    have hdrop : s.queue.dropOldest = (s.queue.withQueue rest, [x]) := by
      rw [dropOldest, if_pos hfull, hqueue]
      rfl
    have hpairwise := h.pairwise
    have hmem : x ∈ s.accepted.zipIdx := h.order.subset (by simp [retained, hqueue])
    have hx : x.2 < s.accepted.length := by
      have := snd_lt_of_mem_zipIdx hmem
      omega
    rw [hdrop]
    cases hhand : s.hand with
    | none =>
      simp only [retained, hhand, hqueue, Option.toList_none, nil_append,
        pairwise_cons] at hpairwise
      simp only [implies_true, iff_true, mem_singleton, forall_eq, Option.toList_none,
        nil_append, mem_append, withQueue_queue]
      rintro y (hy | hy)
      · exact hpairwise.1 y hy
      · rw [hnew y hy]
        exact hx
    | some z =>
      -- the message in hand is older than the front of the queue
      have hz : z.2 < x.2 := by
        simp only [retained, hhand, hqueue, Option.toList_some, singleton_append,
          pairwise_cons] at hpairwise
        exact hpairwise.1 x mem_cons_self
      refine ⟨fun hall => absurd (hall x (by simp) z (by simp)) hz.asymm, fun hnone => ?_⟩
      exact absurd (hnone hfull) (by simp)
  · rw [dropOldest_of_not_full hfull]
    simp [hfull]

theorem Ordered.dropsOldest_iff (h : Ordered cfg s) (hdrop : cfg.policy = .drop) :
    s.DropsOldest op ↔ s.HandEmpty op := by
  have hpolicy := h.policy.trans hdrop
  cases op with
  | enqueue m =>
    have hexec : s.exec (.enqueue m) =
        some ({ s with queue := s.queue.dropOldest.1.push (m, s.accepted.length)
                       accepted := s.accepted ++ [m] }, s.queue.dropOldest.2) := by
      simp only [Reconnect.exec, StreamMessageQueue.enqueue, hpolicy]
    rw [dropsOldest_of_exec hexec]
    exact h.older_iff [(m, s.accepted.length)] (by simp)
  | requeueFront =>
    cases hhand : s.hand with
    | none => simp [DropsOldest, HandEmpty, Reconnect.exec, hhand]
    | some z =>
      have hexec : s.exec .requeueFront = some
          ({ s with queue := (s.queue.requeueFront z).1, hand := none }, s.queue.dropOldest.2) := by
        simp only [Reconnect.exec, hhand, requeueFront]
      have holder := h.older_iff [] (by simp)
      rw [hhand, append_nil] at holder
      rw [dropsOldest_of_exec hexec, HandEmpty, hhand]
      exact holder
  | dequeue | sent =>
    simp only [DropsOldest, HandEmpty, Reconnect.exec, iff_true]
    split <;> simp

/-- **When overflow drops the oldest message.** With the drop policy, every message discarded in a run
arrived before all that are kept at that moment exactly if no message is put into a full queue, anew
or back, while the flusher has one in its hand. -/
theorem oldest_dropped_iff (cfg : StreamQueueConfig) (hdrop : cfg.policy = .drop)
    (ops : List (QueueOp α)) :
    Guarded step DropsOldest (start cfg : Reconnect α) ops ↔
      Guarded step HandEmpty (start cfg : Reconnect α) ops :=
  guarded_congr (fun _ _ _ h _ hs => Ordered.step h hs) (fun _ _ h => h.dropsOldest_iff hdrop)
    ordered_start

/-- The statement for a queue that overflows with an idle flusher. -/
theorem oldest_dropped_idle : Guarded step HandEmpty
    (start { policy := .drop, maxSize := 1 } : Reconnect ℕ) [.enqueue 7, .enqueue 8] :=
  (oldest_dropped_iff { policy := .drop, maxSize := 1 } rfl _).mp (by decide)

/-- The message put back is older than the one discarded for it. -/
theorem youngest_dropped : ¬ Guarded step DropsOldest
    (start { policy := .drop, maxSize := 2 } : Reconnect ℕ) putBack := by
  decide

end

end Reconnect

end Sgate.Backend
