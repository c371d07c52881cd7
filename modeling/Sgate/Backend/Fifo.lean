import Sgate.Backend.Steps

/-! # Order of the messages of a session

Messages reach the channel of a shard directly or through the reconnect queue and a flusher. The *line*
of a session lists what entered the channel, what the flusher has in hand and what is queued. Only a
sender that passes waiting messages can break its order (`entered_sorted_of_noOvertaking`). -/

namespace Sgate.Backend

open Interleaving LogicClient Goroutine List

/-! ## The line of a session -/

/-- The calls of session `s` among the messages, in order. -/
def callsOf (s : String) (ms : List Message) : List ℕ :=
  (ms.filter fun m => m.sessionId = s).map Message.call

@[simp] theorem callsOf_nil (s : String) : callsOf s [] = [] := rfl

@[simp] theorem callsOf_append (s : String) (ms ns : List Message) :
    callsOf s (ms ++ ns) = callsOf s ms ++ callsOf s ns := by
  simp [callsOf]

theorem callsOf_cons (s : String) (m : Message) (ms : List Message) :
    callsOf s (m :: ms) = callsOf s [m] ++ callsOf s ms :=
  callsOf_append s [m] ms

variable {s : String}

theorem callsOf_singleton_of_ne {m : Message} (h : m.sessionId ≠ s) : callsOf s [m] = [] := by
  simp [callsOf, h]

/-- Everything that entered the channel of the shard of session `s`. -/
def LogicClient.entered (cfg : ClientConfig) (c : LogicClient) (s : String) : List Message :=
  ((c.shards.map StreamShard.entered)[getShard cfg c s]?).getD []

/-- The calls of a session on their way, given what the flushers hold. -/
def line (cfg : ClientConfig) (s : String) (c : LogicClient) (hand : List Message) : List ℕ :=
  callsOf s (c.entered cfg s) ++ callsOf s hand ++ callsOf s c.messageQueue.queue

variable {cfg : ClientConfig} {c c' : LogicClient} {m : Message}

theorem entered_of_map
    (h : c'.shards.map StreamShard.entered = c.shards.map StreamShard.entered) :
    c'.entered cfg s = c.entered cfg s := by
  have hlen : c'.shards.length = c.shards.length := by simpa using congrArg length h
  rw [LogicClient.entered, LogicClient.entered, h, getShard, getShard, hlen]

theorem SameMessages.entered_eq (h : SameMessages c c') : c'.entered cfg s = c.entered cfg s := by
  refine entered_of_map ?_
  have := congrArg (map fun ch : _ × _ × _ × _ => ch.2.1) h.channels
  rw [map_map, map_map] at this
  exact this

theorem callsOf_entered_put {sh : StreamShard}
    (hsh : c.shards[getShard cfg c m.sessionId]? = some sh) :
    callsOf s ((c.setShard (getShard cfg c m.sessionId) (sh.put m)).entered cfg s) =
      callsOf s (c.entered cfg s) ++ callsOf s [m] := by
  -- the shard of a session depends only on how many shards there are
  have hget : getShard cfg (c.setShard (getShard cfg c m.sessionId) (sh.put m)) s =
      getShard cfg c s := by
    simp [getShard, setShard]
  rw [LogicClient.entered, LogicClient.entered, hget, getElem?_map, getElem?_map]
  by_cases hidx : getShard cfg c m.sessionId = getShard cfg c s
  -- two sessions may share a shard; `callsOf` then filters
  · rw [← hidx]
    simp [setShard, getElem?_set_self', hsh]
  · have hne : m.sessionId ≠ s := fun heq => hidx (by rw [heq])
    rw [callsOf_singleton_of_ne hne, append_nil]
    simp [setShard, getElem?_set_ne hidx]

/-! ## Senders and flushers -/

def Goroutine.hand : Goroutine → List Message
  | .flush pc => pc.hand.toList
  | _ => []

def hands (ts : List Goroutine) : List Message := ts.flatMap Goroutine.hand

/-- The call of session `s` whose message the goroutine still holds as a sender. -/
def Goroutine.pending (s : String) : Goroutine → List ℕ
  | .send m pc => if pc.owns then callsOf s [m] else []
  | _ => []

/-- One for a call of session `s` that has not returned without an error. -/
def Goroutine.unfinished (s : String) : Goroutine → ℕ
  | .send m pc => if m.sessionId = s ∧ pc ≠ .returned none then 1 else 0
  | _ => 0

/-- One for a flusher that holds the flag. -/
def Goroutine.flushes : Goroutine → ℕ
  | .flush .cas | .flush .returned => 0
  | .flush _ => 1
  | _ => 0

/-- The goroutine can put a message of session `s` directly into the channel. -/
def Goroutine.puts (s : String) : Goroutine → Bool
  | .send m (.shard pc) => decide (m.sessionId = s) && pc.sends
  | _ => false

variable {t : Goroutine}

theorem hand_of_flushes (h : t.flushes = 0) : t.hand = [] := by
  cases t with
  | flush pc => cases pc <;> first | rfl | simp [flushes] at h
  | _ => rfl

section

variable (t : Goroutine) (s : String)

theorem unfinished_le : t.unfinished s ≤ 1 := by
  cases t with
  | send m pc =>
    simp only [unfinished]
    split <;> omega
  | _ => exact Nat.zero_le _

theorem length_pending_le : (t.pending s).length ≤ 1 := by
  cases t with
  | send m pc =>
    simp only [pending]
    split
    · exact (length_map _).trans_le (length_filter_le _ _)
    · exact Nat.zero_le _
  | _ => exact Nat.zero_le _

theorem pairwise_pending : (t.pending s).Pairwise (· < ·) := by
  have hlen := length_pending_le t s
  rcases h : t.pending s with _ | ⟨k, _ | ⟨k', ks⟩⟩
  · exact List.Pairwise.nil
  · exact pairwise_singleton _ _
  · simp [h] at hlen

end

theorem unfinished_of_pending (h : t.pending s ≠ []) : t.unfinished s = 1 := by
  cases t with
  | send m pc =>
    by_cases hpc : pc.owns
    · have hm : m.sessionId = s := by
        by_contra hne
        simp [pending, callsOf_singleton_of_ne hne] at h
      have hret : pc ≠ .returned none := by
        rintro rfl
        simp [SendPc.owns] at hpc
      simp [unfinished, hm, hret]
    · simp [pending, hpc] at h
  | _ => simp [pending] at h

/-! ## One step -/

/-- A step that keeps the order of session `s`: the line loses calls or gains, at its end, the call
the goroutine was holding. -/
structure Flows (cfg : ClientConfig) (s : String) (c : LogicClient) (hand : List Message)
    (t : Goroutine) (c' : LogicClient) (hand' : List Message) (t' : Goroutine) : Prop where
  line : (t'.pending s = t.pending s ∧ (line cfg s c' hand').Sublist (line cfg s c hand)) ∨
    (t'.pending s = [] ∧
      (Backend.line cfg s c' hand').Sublist (Backend.line cfg s c hand ++ t.pending s))
  unfinished : t'.unfinished s ≤ t.unfinished s
  nextCall : c'.nextCall = c.nextCall
  closing : c'.closing = c.closing
  closed : c'.shards.map StreamShard.closed = c.shards.map StreamShard.closed

section

variable {hand : List Message} {t' : Goroutine}

theorem SameMessages.flows (h : SameMessages c c')
    (hpending : t'.pending s = t.pending s) (hunf : t'.unfinished s ≤ t.unfinished s) :
    Flows cfg s c hand t c' hand t' where
  line := by
    refine .inl ⟨hpending, ?_⟩
    rw [Backend.line, Backend.line, h.entered_eq, h.messageQueue]
  unfinished := hunf
  __ := h
  closed := by
    have := congrArg (map fun ch : _ × _ × _ × _ => ch.2.2.1) h.channels
    rw [map_map, map_map] at this
    exact this

theorem line_enqueue_sublist {gone rest : List Message} (h : gone ++ rest = c.messageQueue.queue) :
    (line cfg s (c.withQueue (rest ++ [m]) gone) hand).Sublist (line cfg s c hand ++ callsOf s [m]) := by
  have hent : (c.withQueue (rest ++ [m]) gone).entered cfg s = c.entered cfg s := rfl
  rw [line, line, hent, ← h]
  -- what was dropped stood at the front of the queue part of the line
  simp only [LogicClient.withQueue, StreamMessageQueue.withQueue_queue, callsOf_append,
    append_assoc]
  refine List.Sublist.append_left (List.Sublist.append_left ?_ _) _
  exact sublist_append_right _ _

/-- A step of a sender that does not find its shard closed, and that overtakes no message of the
session. -/
theorem SendStep.flows {pc pc' : SendPc} {new : List Goroutine}
    (h : SendStep cfg c m pc c' pc' new) (hopen : ∀ sh ∈ c.shards, sh.closed = false)
    (hput : (send m pc).puts s = true → callsOf s hand = [] ∧ callsOf s c.messageQueue.queue = []) :
    Flows cfg s c hand (.send m pc) c' hand (.send m pc') := by
  have hunf {pc pc' : SendPc} (hne : pc ≠ .returned none) :
      (send m pc').unfinished s ≤ (send m pc).unfinished s := by
    simp only [unfinished, ne_eq, hne, not_false_eq_true, and_true]
    split <;> split <;> simp_all
  cases h with
  | hold hpc hpc' =>
    refine (SameMessages.refl c).flows ?_ (hunf ?_)
    · simp only [pending, hpc, hpc']
    · rintro rfl
      cases hpc
  | enqueue hq | enqueueAfter hq =>
    exact ⟨.inr ⟨rfl, line_enqueue_sublist hq⟩, hunf (by simp), rfl, rfl, rfl⟩
  | put hpc hsh =>
    rename_i pc sh
    refine ⟨.inr ⟨rfl, ?_⟩, hunf (by simp), rfl, rfl, map_setShard hsh rfl⟩
    rw [line, line, callsOf_entered_put hsh]
    have hpend : (send m (.shard pc)).pending s = callsOf s [m] :=
      if_pos (ShardPc.owns_of_sends hpc)
    rw [hpend]
    by_cases hm : m.sessionId = s
    · -- nothing of the session waits, so the message goes to the end of the line
      obtain ⟨hh, hq⟩ := hput (by simp [puts, hm, hpc])
      have hq' : callsOf s (c.setShard (getShard cfg c m.sessionId) (sh.put m)).messageQueue.queue
          = [] := hq
      rw [hh, hq, hq']
      simp
    · rw [callsOf_singleton_of_ne hm, append_nil, append_nil]
      exact List.Sublist.refl _
  | ok | spawn => exact (SameMessages.refl c).flows rfl (hunf (by simp))
  | late hsh hclosed =>
    -- without `Close` no shard is ever found closed
    exact absurd hclosed (by simp [hopen _ (mem_of_getElem? hsh)])
  | putBack err => exact ⟨.inr ⟨rfl, sublist_append_left _ _⟩, hunf (by simp), rfl, rfl, rfl⟩

theorem FlushStep.flows {pc pc' : FlushPc} (h : FlushStep cfg c pc c' pc')
    (hclosing : c.closing = false) (hopen : ∀ sh ∈ c.shards, sh.closed = false) :
    Flows cfg s c pc.hand.toList (.flush pc) c' pc'.hand.toList (.flush pc') := by
  have hsame {c'} (hsub : (line cfg s c' pc'.hand.toList).Sublist (line cfg s c pc.hand.toList))
      (h₁ : c'.nextCall = c.nextCall) (h₂ : c'.closing = c.closing)
      (h₃ : c'.shards.map StreamShard.closed = c.shards.map StreamShard.closed) :
      Flows cfg s c pc.hand.toList (.flush pc) c' pc'.hand.toList (.flush pc') :=
    ⟨.inl ⟨rfl, hsub⟩, le_rfl, h₁, h₂, h₃⟩
  cases h with
  | lose | win | empty | giveUp | reset | ok => exact hsame (List.Sublist.refl _) rfl rfl rfl
  | dequeue hf hq =>
    rename_i failures m rest
    refine hsame ?_ rfl rfl rfl
    have hent : (c.withQueue rest []).entered cfg s = c.entered cfg s := rfl
    rw [line, line, hent, hq, callsOf_cons s m rest]
    -- the message moves from the head of the queue into the hand, which keeps the line
    simp [FlushPc.hand, LogicClient.withQueue]
  | discard hc => exact absurd hc (by simp [hclosing])
  | hold hpc hpc' =>
    refine hsame ?_ rfl rfl rfl
    rw [hpc, hpc']
  | put hpc hsh =>
    rename_i failures m pc sh
    refine hsame ?_ rfl rfl (map_setShard hsh rfl)
    rw [line, line, callsOf_entered_put hsh]
    -- the message moves from the hand to the end of the channel, which keeps the line
    simp [FlushPc.hand, ShardPc.owns_of_sends hpc, setShard]
  | late hsh hclosed => exact absurd hclosed (by simp [hopen _ (mem_of_getElem? hsh)])
  | requeue hq =>
    rename_i failures m gone rest
    refine hsame ?_ rfl rfl rfl
    have hent : (c.withQueue (m :: rest) gone).entered cfg s = c.entered cfg s := rfl
    rw [line, line, hent, ← hq]
    simp only [LogicClient.withQueue, StreamMessageQueue.withQueue_queue, FlushPc.hand,
      Option.toList_some, Option.toList_none, callsOf_nil, append_nil, callsOf_append,
      append_assoc]
    rw [callsOf_cons s m rest]
    refine List.Sublist.append_left (List.Sublist.append_left ?_ _) _
    exact sublist_append_right _ _

theorem LoopStep.flows {idx : ℕ} {pc pc' : LoopPc} (h : LoopStep c idx pc c' pc') :
    Flows cfg s c hand (.loop idx pc) c' hand (.loop idx pc') := by
  have hkeep {c'} (hent : c'.shards.map StreamShard.entered = c.shards.map StreamShard.entered)
      (hq : c'.messageQueue = c.messageQueue) (h₁ : c'.nextCall = c.nextCall)
      (h₂ : c'.closing = c.closing)
      (h₃ : c'.shards.map StreamShard.closed = c.shards.map StreamShard.closed) :
      Flows cfg s c hand (.loop idx pc) c' hand (.loop idx pc') := by
    refine ⟨.inl ⟨rfl, ?_⟩, le_rfl, h₁, h₂, h₃⟩
    rw [line, line, entered_of_map hent, hq]
  cases h with
  | first hsh | collect hsh => exact hkeep (map_setShard hsh rfl) rfl rfl rfl (map_setShard hsh rfl)
  | detach h | detached h => exact (sameMessages_detachShard h).1.flows rfl le_rfl
  | exit | collected | noStream | stream | sent | fail | count | put | done =>
    exact hkeep rfl rfl rfl rfl rfl

end

/-! ## Whole runs -/

/-- The condition on a new call: `Close` is not called, and a call for session `s` starts only when
every earlier one returned without an error. -/
def StartsInTurn (s : String) (w : World LogicClient Goroutine) (t : Goroutine) : Prop :=
  t.isClose = false ∧ (0 < t.unfinished s → tally (Goroutine.unfinished s) w.threads = 0)
  deriving Decidable

/-- The condition on a step: a sender that can put a message of session `s` directly into the channel
finds no message of the session in the reconnect queue or in the hand of a flusher. -/
def NoOvertaking (s : String) (w : World LogicClient Goroutine) (t : Goroutine) : Prop :=
  t.puts s = true → callsOf s (hands w.threads) = [] ∧ callsOf s w.shared.messageQueue.queue = []
  deriving Decidable

/-- The invariant: the line of session `s` is sorted, and the only call of the session in progress is
newer than all of it. -/
structure InOrder (cfg : ClientConfig) (s : String) (w : World LogicClient Goroutine) : Prop where
  sorted : (line cfg s w.shared (hands w.threads)).Pairwise (· < ·)
  known : ∀ k ∈ line cfg s w.shared (hands w.threads), k < w.shared.nextCall
  pending : ∀ t ∈ w.threads, ∀ k ∈ t.pending s, k < w.shared.nextCall ∧
    ∀ j ∈ line cfg s w.shared (hands w.threads), j < k
  single : tally (Goroutine.unfinished s) w.threads ≤ 1
  flusher : tally Goroutine.flushes w.threads = w.shared.messageQueue.flushing.toNat
  closing : w.shared.closing = false
  closed : ∀ sh ∈ w.shared.shards, sh.closed = false
  noClose : ∀ t ∈ w.threads, t.isClose = false

section

variable {w w' : World LogicClient Goroutine} {t' : Goroutine} {new : List Goroutine} {i : ℕ}

theorem Step.flusher {n : ℕ} (h : Step cfg c t c' t' new) (hclose : t.isClose = false)
    (hf : n + t.flushes = c.messageQueue.flushing.toNat) :
    n + t'.flushes = c'.messageQueue.flushing.toNat := by
  cases h with
  | send h => cases h <;> exact hf
  | flush h =>
    cases h with
    | win hfree =>
      rw [hfree] at hf
      simp only [Goroutine.flushes, setFlushing, Bool.toNat_false, Bool.toNat_true] at hf ⊢
      omega
    | reset =>
      -- the flag was set, so this was the one flusher that held it
      have := Bool.toNat_le c.messageQueue.flushing
      simp only [Goroutine.flushes, setFlushing, Bool.toNat_false] at hf ⊢
      omega
    | hold hpc hpc' =>
      rename_i pc pc' m
      have hone {pc : FlushPc} (h : pc.hand = some m) : (Goroutine.flush pc).flushes = 1 := by
        cases pc <;> first | rfl | simp [FlushPc.hand] at h
      rw [hone hpc] at hf
      rw [hone hpc']
      exact hf
    | _ => exact hf
  | attach h =>
    rw [(sameMessages_attachShard h).1.messageQueue]
    exact hf
  | detach h =>
    rw [(sameMessages_detachShard h).1.messageQueue]
    exact hf
  | close h => cases hclose
  | loop h =>
    cases h with
    | detach h | detached h =>
      rw [(sameMessages_detachShard h).1.messageQueue]
      exact hf
    | _ => exact hf

theorem Step.new_idle (h : Step cfg c t c' t' new) :
    hands new = [] ∧ tally (Goroutine.unfinished s) new = 0 ∧ tally Goroutine.flushes new = 0 ∧
      ∀ u ∈ new, u.pending s = [] ∧ u.isClose = false := by
  rcases h.new_eq with rfl | rfl
  · exact ⟨rfl, rfl, rfl, by simp⟩
  · exact ⟨rfl, rfl, rfl, by simp [Goroutine.pending, Goroutine.isClose]⟩

variable {hand hand' : List Message}

theorem Flows.line_sublist (h : Flows cfg s c hand t c' hand' t') :
    (Backend.line cfg s c' hand').Sublist (Backend.line cfg s c hand ++ t.pending s) := by
  rcases h.line with ⟨-, h⟩ | ⟨-, h⟩
  · exact h.trans (sublist_append_left _ _)
  · exact h

theorem Flows.closed_eq_false (h : Flows cfg s c hand t c' hand' t')
    (hclosed : ∀ sh ∈ c.shards, sh.closed = false) : ∀ sh ∈ c'.shards, sh.closed = false := by
  intro sh hsh
  have hmem : sh.closed ∈ c.shards.map StreamShard.closed := by
    rw [← h.closed]
    exact mem_map_of_mem hsh
  obtain ⟨sh', hsh', heq⟩ := mem_map.mp hmem
  rw [← heq]
  exact hclosed sh' hsh'

section

variable (hw : InOrder cfg s w) (ht : w.threads[i]? = some t)
include hw ht

theorem InOrder.pending_set (hp : t.pending s ≠ []) (hp' : t'.pending s = []) :
    ∀ u ∈ w.threads.set i t', u.pending s = [] := by
  have hle (u : Goroutine) : (u.pending s).length ≤ u.unfinished s := by
    by_cases h : u.pending s = []
    · simp [h]
    · rw [unfinished_of_pending h]
      exact length_pending_le u s
  have hsum : tally (fun u => (u.pending s).length) w.threads ≤ 1 :=
    (tally_mono fun u _ => hle u).trans hw.single
  have hset := tally_set (fun u => (u.pending s).length) t' ht
  have hpos : 0 < (t.pending s).length := length_pos_iff.mpr hp
  have hzero : tally (fun u => (u.pending s).length) (w.threads.set i t') = 0 := by
    simp only [hp', length_nil] at hset
    omega
  intro u hu
  exact eq_nil_of_length_eq_zero ((tally_eq_zero_iff _ _).mp hzero u hu)

theorem InOrder.pending_step {u : Goroutine} {k : ℕ}
    (hflow : Flows cfg s w.shared (hands w.threads) t c' (hands (w.threads.set i t')) t')
    (hu : u ∈ w.threads.set i t') (hk : k ∈ u.pending s) :
    k < w.shared.nextCall ∧ ∀ j ∈ line cfg s c' (hands (w.threads.set i t')), j < k := by
  have hkeep (hsub : (line cfg s c' (hands (w.threads.set i t'))).Sublist
      (line cfg s w.shared (hands w.threads))) (v : Goroutine) (hv : v ∈ w.threads)
      (hkv : k ∈ v.pending s) : k < w.shared.nextCall ∧
        ∀ j ∈ line cfg s c' (hands (w.threads.set i t')), j < k :=
    ⟨(hw.pending v hv k hkv).1, fun j hj => (hw.pending v hv k hkv).2 j (hsub.subset hj)⟩
  rcases hflow.line with ⟨heq, hsub⟩ | ⟨hnil, hsub⟩
  · rcases mem_or_eq_of_mem_set hu with hu | rfl
    · exact hkeep hsub u hu hk
    · exact hkeep hsub t (mem_of_getElem? ht) (heq ▸ hk)
  · by_cases hp : t.pending s = []
    · rw [hp, append_nil] at hsub
      rcases mem_or_eq_of_mem_set hu with hu | rfl
      · exact hkeep hsub u hu hk
      · rw [hnil] at hk
        cases hk
    · -- the only call of the session has joined the line, and nobody holds another
      rw [hw.pending_set ht hp hnil u hu] at hk
      cases hk

variable (hstep : Step cfg w.shared t c' t' new) (hno : NoOvertaking s w t)
include hstep hno

/-- **One step keeps the line in order**: it flows as seen from session `s`. -/
theorem InOrder.flows :
    Flows cfg s w.shared (hands w.threads) t c' (hands (w.threads.set i t')) t' := by
  have hsame (h : t'.hand = t.hand) : hands (w.threads.set i t') = hands w.threads :=
    flatMap_set_of_eq hand ht h
  cases hstep with
  | send h =>
    rw [hsame rfl]
    exact h.flows hw.closed hno
  | flush h =>
    rename_i pc pc'
    by_cases hf : (flush pc).flushes = 0
    · -- a flusher that does not hold the flag can only ask for it
      cases h with
      | lose =>
        rw [hsame rfl]
        exact (SameMessages.refl _).flows rfl le_rfl
      | win =>
        rw [hsame rfl]
        exact ⟨.inl ⟨rfl, List.Sublist.refl _⟩, le_rfl, rfl, rfl, rfl⟩
      | hold hpc =>
        have := hand_of_flushes hf
        simp [hand, hpc] at this
      | _ => simp [flushes] at hf
    · have hone : tally flushes w.threads ≤ 1 := by
        rw [hw.flusher]
        exact Bool.toNat_le _
      -- there is one flag, so no other flusher has anything in hand
      obtain ⟨h₁, h₂⟩ := flatMap_of_exclusive hand (fun u => hand_of_flushes) ht
        (Nat.pos_of_ne_zero hf) hone
      rw [hands, hands, h₁, h₂]
      exact h.flows hw.closing hw.closed
  | attach h =>
    rw [hsame rfl]
    exact (sameMessages_attachShard h).1.flows rfl le_rfl
  | detach h =>
    rw [hsame rfl]
    exact (sameMessages_detachShard h).1.flows rfl le_rfl
  | close h => exact absurd (hw.noClose _ (mem_of_getElem? ht)) (by simp [isClose])
  | loop h =>
    rw [hsame rfl]
    exact h.flows

theorem InOrder.step : InOrder cfg s ⟨c', w.threads.set i t' ++ new⟩ := by
  have hflow := hw.flows ht hstep hno
  have hmem := mem_of_getElem? ht
  obtain ⟨hnh, hnu, hnf, hnp⟩ := hstep.new_idle (s := s)
  have hhands : hands (w.threads.set i t' ++ new) = hands (w.threads.set i t') := by
    rw [hands, flatMap_append, ← hands, ← hands, hnh, append_nil]
  have hsorted : (line cfg s w.shared (hands w.threads) ++ t.pending s).Pairwise (· < ·) := by
    refine pairwise_append.mpr ⟨hw.sorted, pairwise_pending t s, fun j hj k hk => ?_⟩
    exact (hw.pending t hmem k hk).2 j hj
  refine ⟨?_, ?_, ?_, ?_, ?_, ?_, hflow.closed_eq_false hw.closed, ?_⟩
  · rw [hhands]
    exact hsorted.sublist hflow.line_sublist
  · rw [hhands]
    intro j hj
    rw [hflow.nextCall]
    rcases mem_append.mp (hflow.line_sublist.subset hj) with h | h
    · exact hw.known j h
    · exact (hw.pending t hmem j h).1
  · rw [hhands]
    intro u hu k hk
    rw [hflow.nextCall]
    rcases mem_append.mp hu with hu | hu
    · exact hw.pending_step ht hflow hu hk
    · rw [(hnp u hu).1] at hk
      cases hk
  · have hset := tally_set (unfinished s) t' ht
    have hle := hflow.unfinished
    have hone := hw.single
    rw [tally_append, hnu]
    omega
  · obtain ⟨n, hn, hset⟩ := tally_split flushes ht
    have hflusher := hw.flusher
    rw [hn] at hflusher
    rw [tally_append, hnf, hset]
    exact hstep.flusher (hw.noClose t hmem) hflusher
  · rw [hflow.closing]
    exact hw.closing
  · intro u hu
    rcases of_mem_set_append hu with hu | rfl | hu
    · exact hw.noClose u hu
    · rw [hstep.isClose]
      exact hw.noClose t hmem
    · exact (hnp u hu).2

end

theorem InOrder.start (hw : InOrder cfg s w) (hs : Start w.shared t c')
    (hg : StartsInTurn s w t) : InOrder cfg s ⟨c', w.threads ++ [t]⟩ := by
  have hidle : t.hand = [] ∧ t.flushes = 0 ∧ line cfg s c' (hands w.threads) =
      line cfg s w.shared (hands w.threads) ∧ w.shared.nextCall ≤ c'.nextCall ∧
      (∀ k ∈ t.pending s, w.shared.nextCall ≤ k ∧ k < c'.nextCall) ∧
      c'.messageQueue = w.shared.messageQueue ∧ c'.closing = w.shared.closing ∧
      c'.shards = w.shared.shards := by
    cases hs with
    | send hcall | sendPooled hcall =>
      refine ⟨rfl, rfl, rfl, Nat.le_succ _, ?_, rfl, rfl, rfl⟩
      intro k hk
      have hk' : k ∈ ([_].filter _).map Message.call := hk
      obtain ⟨m', hm', rfl⟩ := mem_map.mp hk'
      rw [mem_singleton.mp (mem_of_mem_filter hm'), hcall]
      exact ⟨le_rfl, Nat.lt_succ_self _⟩
    | attach | detach | close => exact ⟨rfl, rfl, rfl, le_rfl, by simp [Goroutine.pending], rfl, rfl, rfl⟩
  obtain ⟨hhand, hfl, hline, hnext, hpend, hq, hcl, hsh⟩ := hidle
  have hhands : hands (w.threads ++ [t]) = hands w.threads := by
    rw [hands, flatMap_append, ← hands]
    simp [hhand]
  refine ⟨?_, ?_, ?_, ?_, ?_, ?_, ?_, ?_⟩
  · rw [hhands, hline]
    exact hw.sorted
  · rw [hhands, hline]
    exact fun j hj => lt_of_lt_of_le (hw.known j hj) hnext
  · rw [hhands, hline]
    intro u hu k hk
    rcases of_mem_snoc hu with hu | rfl
    · obtain ⟨h₁, h₂⟩ := hw.pending u hu k hk
      exact ⟨lt_of_lt_of_le h₁ hnext, h₂⟩
    · obtain ⟨h₁, h₂⟩ := hpend k hk
      exact ⟨h₂, fun j hj => lt_of_lt_of_le (hw.known j hj) h₁⟩
  · have h₁ := hw.single
    have h₂ := hg.2
    have h₃ := unfinished_le t s
    rw [tally_append, tally_cons, tally_nil]
    omega
  · rw [tally_append, tally_cons, tally_nil, hfl, hq]
    exact hw.flusher
  · rw [hcl]
    exact hw.closing
  · rw [hsh]
    exact hw.closed
  · intro u hu
    rcases of_mem_snoc hu with hu | rfl
    · exact hw.noClose u hu
    · exact hg.1

end

theorem inOrder_initWorld (cfg : ClientConfig) (s : String) : InOrder cfg s (initWorld cfg) := by
  have hhands : hands (initWorld cfg).threads = [] := by
    rw [hands, flatMap_eq_nil_iff]
    intro t ht
    obtain ⟨i, rfl⟩ := loop_of_mem_initWorld ht
    rfl
  have hent : (initWorld cfg).shared.entered cfg s = [] := by
    rw [LogicClient.entered, getElem?_map]
    cases h : (initWorld cfg).shared.shards[getShard cfg (initWorld cfg).shared s]? with
    | none => rfl
    | some sh =>
      rw [eq_of_mem_replicate (mem_of_getElem? h)]
      rfl
  have hline : line cfg s (initWorld cfg).shared (hands (initWorld cfg).threads) = [] := by
    rw [line, hhands, hent]
    rfl
  refine ⟨?_, ?_, ?_, ?_, ?_, rfl, ?_, ?_⟩
  · rw [hline]
    exact List.Pairwise.nil
  · rw [hline]
    intro k hk
    cases hk
  · intro t ht k hk
    obtain ⟨i, rfl⟩ := loop_of_mem_initWorld ht
    cases hk
  · rw [tally_initWorld _ fun _ => rfl]
    exact Nat.zero_le _
  · rw [tally_initWorld _ fun _ => rfl]
    rfl
  · intro sh hsh
    rw [eq_of_mem_replicate hsh]
  · intro t ht
    obtain ⟨i, rfl⟩ := loop_of_mem_initWorld ht
    rfl

/-- **Per-session order.** In every run of an open client in which the calls for session `s` follow
one another and no call overtakes waiting messages of the session, the messages of `s` enter the
channel of its shard in the order of the calls. -/
theorem entered_sorted_of_noOvertaking (cfg : ClientConfig) (s : String)
    (as : List (Action Goroutine Choice)) {w : World LogicClient Goroutine}
    (hg : (logicClient cfg).Guarded (Program.ThreadGuard (StartsInTurn s) (NoOvertaking s))
      (initWorld cfg) as)
    (hrun : (logicClient cfg).run (initWorld cfg) as = some w) :
    (callsOf s (w.shared.entered cfg s)).Pairwise (· < ·) := by
  have hw : InOrder cfg s w := by
    refine Transition.run_invariant ?_ (inOrder_initWorld cfg s) hg hrun
    intro w a w' hw hguard hexec
    rcases Program.exec_cases hexec with
      ⟨t, c', rfl, hs, rfl⟩ | ⟨i, x, t, c', t', new, rfl, ht, hs, rfl⟩
    · exact hw.start (start_of_start hs) hguard
    · exact hw.step ht (step_of_step hs) (hguard t ht)
  have hsub : (callsOf s (w.shared.entered cfg s)).Sublist
      (line cfg s w.shared (hands w.threads)) := by
    rw [line, append_assoc]
    exact sublist_append_left _ _
  exact hw.sorted.sublist hsub

/-- The first call is queued, the client reconnects and flushes, then the second call sends. -/
def flushThenSend : List (Action Goroutine Choice) :=
  .start callOne :: steps 1 3 ++ .start (.attach 0 0 .readClosing) :: steps 2 8 ++ steps 3 9 ++
    .start callTwo :: steps 4 4

/-- Both messages enter the channel, in order. -/
theorem entered_sorted_flushThenSend : ∃ w,
    (logicClient oneShard).run (initWorld oneShard) flushThenSend = some w ∧
      callsOf "s" (w.shared.entered oneShard "s") = [0, 1] ∧
      (callsOf "s" (w.shared.entered oneShard "s")).Pairwise (· < ·) :=
  ⟨_, rfl, rfl, entered_sorted_of_noOvertaking oneShard "s" flushThenSend (by decide) rfl⟩

/-- The first call is queued, the client reconnects, and the second call sends before the flusher
runs. -/
def sendBeforeFlush : List (Action Goroutine Choice) :=
  .start callOne :: steps 1 3 ++ .start (.attach 0 0 .readClosing) :: steps 2 8 ++
    .start callTwo :: steps 4 4 ++ steps 3 6

/-- The second message overtakes the first, although its call started after the first returned. -/
theorem overtaken_unsorted : ∃ w,
    (logicClient oneShard).run (initWorld oneShard) sendBeforeFlush = some w ∧
      (logicClient oneShard).Guarded (Program.ThreadGuard (StartsInTurn "s") fun _ _ => True)
        (initWorld oneShard) sendBeforeFlush ∧
      callsOf "s" (w.shared.entered oneShard "s") = [1, 0] ∧
      ¬ (callsOf "s" (w.shared.entered oneShard "s")).Pairwise (· < ·) :=
  ⟨_, rfl, by decide, rfl, by decide⟩

end Sgate.Backend
