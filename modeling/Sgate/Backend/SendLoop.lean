import Sgate.Backend.Steps
import Sgate.Lib.Transition

/-! # The frames of a send loop

Producers fill the channel of a shard while its send loop sends it in `StreamBatch` frames. -/

namespace Sgate.Backend

open Transition LogicClient

/-- A client, the place of the loop of one shard and the frames it has sent. -/
structure Sending where
  client : LogicClient
  pc : LoopPc := .select
  frames : List (List Message) := []

namespace LoopPc

/-- The loop was not stopped and its write did not fail. -/
def sends : LoopPc → Bool
  | .detach _ _ _ | .countDropped _ | .exited => false
  | _ => true

/-- The batch being built or sent. -/
def building : LoopPc → List Message
  | .collect batch | .readStream batch | .sendMsg batch _ => batch
  | _ => []

/-- The batch in hand is not empty, and there is room in it while messages are collected. -/
def Sized : LoopPc → Prop
  | .collect batch => 1 ≤ batch.length ∧ batch.length < maxBatchCount
  | .readStream batch | .sendMsg batch _ => 1 ≤ batch.length ∧ batch.length ≤ maxBatchCount
  | pc => pc.sends = true

end LoopPc

namespace Sending

/-- A producer puts a message on the channel (`some m`), or the loop goes on. -/
def step (capacity idx : ℕ) (s : Sending) : Option Message → Option Sending
  | some m =>
    match s.client.shards[idx]? with
    | none => none
    | some sh =>
      if sh.sendCh.length < capacity then some { s with client := s.client.setShard idx (sh.put m) }
      else none
  | none =>
    match s.client.sendLoop idx s.pc .proceed with
    | none => none
    | some (c, pc) =>
      if pc.sends then
        some ⟨c, pc, match s.pc with
          | .sendMsg batch _ => s.frames ++ [batch]
          | _ => s.frames⟩
      else none

/-- What entered the channel was sent, is in the batch or is still there. -/
structure Kept (idx : ℕ) (s : Sending) : Prop where
  sized : s.pc.Sized
  frames : ∀ f ∈ s.frames, 1 ≤ f.length ∧ f.length ≤ maxBatchCount
  entered : ∀ sh, s.client.shards[idx]? = some sh →
    s.frames.flatten ++ s.pc.building ++ sh.sendCh = sh.entered

variable {capacity idx : ℕ} {s s' : Sending} {a : Option Message}

theorem of_setShard {c : LogicClient} {sh sh' sh'' : StreamShard} (h : c.shards[idx]? = some sh)
    (h' : (c.setShard idx sh').shards[idx]? = some sh'') : sh'' = sh' := by
  rw [setShard, List.getElem?_set_self (List.getElem?_eq_some_iff.mp h).1] at h'
  exact (Option.some.inj h').symm

theorem Kept.step (h : s.Kept idx) (hs : s.step capacity idx a = some s') : s'.Kept idx := by
  cases a with
  | some m =>
    simp only [Sending.step] at hs
    split at hs
    · cases hs
    · rename_i sh hsh
      obtain ⟨-, ⟨⟩⟩ := Option.ite_none_right_eq_some.mp hs
      refine { h with entered := fun sh' hsh' => ?_ }
      cases of_setShard hsh hsh'
      simp [← h.entered sh hsh]
  | none =>
    obtain ⟨c, pc, frames⟩ := s
    simp only [Sending.step] at hs
    split at hs
    · cases hs
    · rename_i c' pc' hloop
      obtain ⟨hsends, ⟨⟩⟩ := Option.ite_none_right_eq_some.mp hs
      have hsized := h.sized
      have hentered := h.entered
      cases loopStep_of_sendLoop hloop with
      | first hsh hch =>
        refine ⟨by simp [LoopPc.Sized, maxBatchCount], h.frames, fun sh' hsh' => ?_⟩
        cases of_setShard hsh hsh'
        simpa [LoopPc.building, hch] using hentered _ hsh
      | collect hsh hch =>
        obtain ⟨hpos, hlt⟩ := hsized
        refine ⟨?_, h.frames, fun sh' hsh' => ?_⟩
        · dsimp only
          split_ifs with hfull <;> simp [LoopPc.Sized] at hfull ⊢ <;> omega
        · cases of_setShard hsh hsh'
          split_ifs <;> simpa [LoopPc.building, hch] using hentered _ hsh
      | collected => exact ⟨⟨hsized.1, hsized.2.le⟩, h.frames, hentered⟩
      | stream => exact ⟨hsized, h.frames, hentered⟩
      | sent =>
        refine ⟨rfl, ?_, fun sh hsh => by simpa [LoopPc.building] using hentered sh hsh⟩
        exact List.forall_mem_append.mpr ⟨h.frames, List.forall_mem_singleton.mpr hsized⟩
      | put | done => exact ⟨rfl, h.frames, hentered⟩
      | count => cases hsized
      | _ => cases hsends

end Sending

/-- **Batching keeps the stream.** Every frame has 1 to 256 items, and the frames, the batch in hand and
the channel together are the messages that entered the channel, in order. -/
theorem frames_keep_stream (capacity idx : ℕ) (c : LogicClient)
    (hnew : ∀ sh, c.shards[idx]? = some sh → sh.sendCh = sh.entered) (as : List (Option Message))
    (s : Sending) (hrun : run (Sending.step capacity idx) { client := c } as = some s) :
    (∀ f ∈ s.frames, 1 ≤ f.length ∧ f.length ≤ 256) ∧
      ∀ sh, s.client.shards[idx]? = some sh →
        s.frames.flatten ++ s.pc.building ++ sh.sendCh = sh.entered := by
  have hkept : s.Kept idx := invariant_of_run (fun _ _ _ h => h.step)
    ⟨show LoopPc.Sized .select from rfl, by simp, hnew⟩ hrun
  exact ⟨hkept.frames, hkept.entered⟩

def attachedClient : LogicClient := (newLogicClient oneShard).setShard 0 { stream := some 0 }

/-- Two messages go into one frame, and a third comes while they are sent. -/
def threeMessages : List (Option Message) :=
  [some ⟨0, 0, {}⟩, some ⟨1, 1, {}⟩, none, none, none, some ⟨2, 2, {}⟩, none, none]

theorem frames_keep_stream_threeMessages : ∃ s,
    run (Sending.step 4 0) { client := attachedClient } threeMessages = some s ∧
      s.frames = [[⟨0, 0, {}⟩, ⟨1, 1, {}⟩]] ∧ ∀ sh, s.client.shards[0]? = some sh →
        s.frames.flatten ++ s.pc.building ++ sh.sendCh = sh.entered := by
  have hnew : ∀ sh, attachedClient.shards[0]? = some sh → sh.sendCh = sh.entered := by
    rintro sh ⟨⟩
    rfl
  obtain ⟨s, hrun, hframes⟩ : ∃ s, run (Sending.step 4 0) { client := attachedClient } threeMessages =
      some s ∧ s.frames = [[⟨0, 0, {}⟩, ⟨1, 1, {}⟩]] := exists_end (by decide)
  exact ⟨s, hrun, hframes, (frames_keep_stream 4 0 attachedClient hnew threeMessages s hrun).2⟩

end Sgate.Backend
