import Sgate.Gateway.Frames

/-! # Framing of what is sent to a client

A client on TCP gets every message behind a length of four bytes, a client on a WebSocket as a binary
frame. The coalescing buffer is filled in the TCP framing, and `FlushCoalesced` reframes it. -/

namespace Sgate.Output

open Gateway Gateway.LoginPath

/-! ## One message -/

/-- The framing of `Send` and `SendThenClose`. -/
def framed (isWS : Bool) (data : Bytes) : Bytes :=
  if isWS then wsBinaryFrame data else writeFrame data

/-! ## A buffer of messages -/

/-- `reframeCoalescedAsWSFrames`: every unit of length and payload as a binary frame; `none` where
the bytes do not end with a unit. -/
def reframeCoalescedAsWSFrames (data : Bytes) : Option Bytes :=
  if 4 ≤ data.length then
    let n := uintBE (data.take 4)
    if 4 + n ≤ data.length then
      (reframeCoalescedAsWSFrames (data.drop (4 + n))).map
        (wsBinaryFrame ((data.drop 4).take n) ++ ·)
    else none
  else if data = [] then some [] else none
termination_by data.length
decreasing_by
  rw [List.length_drop]
  omega

/-- What `FlushCoalesced` sends of the bytes it took: as they are, or reframed for a WebSocket. Bytes
that cannot be reframed are sent as they are. -/
def outgoing (isWS : Bool) (data : Bytes) : Bytes :=
  if isWS then (reframeCoalescedAsWSFrames data).getD data else data

/-- The coalescing buffer of a connection. The pool its memory comes from is left out. -/
structure Buffer where
  coalescedData : Bytes := []
  coalescedCount : ℕ := 0
  deriving DecidableEq

def Buffer.appendCoalesced (b : Buffer) (payload : Bytes) : Buffer where
  coalescedData := b.coalescedData ++ writeFrame payload
  coalescedCount := b.coalescedCount + 1

structure Buffer.Holds (b : Buffer) (payloads : List Bytes) : Prop where
  data_eq : b.coalescedData = payloads.flatMap writeFrame
  count_eq : b.coalescedCount = payloads.length

theorem Buffer.holds_empty : Buffer.Holds {} [] := ⟨rfl, rfl⟩

variable {payloads : List Bytes} {b : Buffer}

theorem Buffer.Holds.append (h : b.Holds payloads) (payload : Bytes) :
    (b.appendCoalesced payload).Holds (payloads ++ [payload]) where
  data_eq := by simp [Buffer.appendCoalesced, h.data_eq]
  count_eq := by simp [Buffer.appendCoalesced, h.count_eq]

theorem Buffer.Holds.eq_empty (h : b.Holds []) : b = {} := by
  obtain ⟨hdata, hcount⟩ := h
  cases b
  simp only [List.flatMap_nil, List.length_nil] at hdata hcount
  rw [hdata, hcount]

/-! ## Reframing -/

theorem reframe_nil : reframeCoalescedAsWSFrames [] = some [] := by
  rw [reframeCoalescedAsWSFrames]
  rfl

variable {payload : Bytes}

theorem writeFrame_parts (h : payload.length < 256 ^ 4) (rest : Bytes) :
    (writeFrame payload ++ rest).length = 4 + payload.length + rest.length ∧
    uintBE ((writeFrame payload ++ rest).take 4) = payload.length ∧
    ((writeFrame payload ++ rest).drop 4).take payload.length = payload ∧
    (writeFrame payload ++ rest).drop (4 + payload.length) = rest := by
  refine ⟨?_, ?_, ?_, ?_⟩
  · simp [writeFrame]
    omega
  · rw [writeFrame, List.append_assoc, take_bigEndian_append, uintBE_bigEndian h]
  · rw [writeFrame, List.append_assoc, drop_bigEndian_append, List.take_left' rfl]
  · exact drop_writeFrame_append ..

theorem reframe_writeFrame_append (h : payload.length < 256 ^ 4) (rest : Bytes) :
    reframeCoalescedAsWSFrames (writeFrame payload ++ rest) =
      (reframeCoalescedAsWSFrames rest).map (wsBinaryFrame payload ++ ·) := by
  obtain ⟨hlen, hannounced, hbody, hbehind⟩ := writeFrame_parts h rest
  rw [reframeCoalescedAsWSFrames, if_pos (by omega)]
  simp only [hannounced, hbody, hbehind]
  rw [if_pos (by omega)]

theorem reframe_flatMap (h : ∀ p ∈ payloads, p.length < 256 ^ 4) :
    reframeCoalescedAsWSFrames (payloads.flatMap writeFrame) =
      some (payloads.flatMap wsBinaryFrame) := by
  induction payloads with
  | nil => exact reframe_nil
  | cons p payloads ih =>
    have hrest := ih fun q hq => h q (List.mem_cons_of_mem p hq)
    rw [List.flatMap_cons, reframe_writeFrame_append (h p List.mem_cons_self), hrest]
    rfl

/-- Lengths that can be read back where reframing has to read them. -/
def Readable (isWS : Bool) (payloads : List Bytes) : Prop :=
  isWS = true → ∀ p ∈ payloads, p.length < 256 ^ 4

theorem outgoing_flatMap {isWS : Bool} (h : Readable isWS payloads) :
    outgoing isWS (payloads.flatMap writeFrame) = payloads.flatMap (framed isWS) := by
  cases isWS with
  | false => rfl
  | true =>
    rw [outgoing, if_pos rfl, reframe_flatMap (h rfl)]
    rfl

end Sgate.Output
