import Sgate.Gateway.Limits
import Sgate.Gateway.WSOutput

/-! # Encoding and decoding of frames

`EncodeWSFrame` and `parseWebSocketFrame` are inverse to each other, and what `FlushCoalesced` writes
is read back by the decoder of either transport. -/

namespace Sgate.Gateway

open LoginPath Output WSOutput List

section

variable {maxFrameSize : ℕ} {b : Bytes} {h : WSHeader}

/-- A frame is found whatever follows it, and no part of it is taken for a frame. -/
theorem parse_frame (hh : readHeader b = some h) (hsize : b.length = h.frameSize)
    (hle : h.length ≤ maxFrameSize) (hint : maxFrameSize + 14 < 2 ^ 63) :
    (∀ t, parseWebSocketFrame (b ++ t) maxFrameSize = .ok (some (h.frame (b ++ t)))) ∧
      ∀ b', b' <+: b → b' ≠ b → parseWebSocketFrame b' maxFrameSize = .ok none := by
  have hstart := (readHeader_bounds hh).1
  have hsmall : ∀ b, ¬ h.TooLarge true maxFrameSize b := by
    rintro b (hlarge | ⟨-, -, hbig⟩)
    · omega
    · rw [WSHeader.frameSize] at hbig
      omega
  constructor
  · intro t
    rw [parse_of_not_tooLarge (readHeader_append hh t) (hsmall _),
      if_neg (by rw [length_append]; omega)]
  · rintro b' ⟨c, rfl⟩ hne
    cases hh' : readHeader b' with
    | none => exact parseWebSocketFrame_of_short hh'
    | some h' =>
      -- the header of a part is the header of the whole
      cases hh.symm.trans (readHeader_append hh' c)
      have hc : c ≠ [] := by
        rintro rfl
        exact hne (append_nil b').symm
      have hpos := length_pos_iff.mpr hc
      rw [length_append] at hsize
      rw [parse_of_not_tooLarge hh' (hsmall _), if_pos (by omega)]

end

/-! ## Masked frames -/

theorem parse_encodeWSFrame {maxFrameSize : ℕ} (op : UInt8) {payload : Bytes} (hfin : op &&& 0x80 ≠ 0)
    (hle : payload.length ≤ maxFrameSize) (hint : maxFrameSize + 14 < 2 ^ 63) :
    (∀ t, parseWebSocketFrame (encodeWSFrame op payload ++ t) maxFrameSize =
      .ok (some ⟨op &&& 0x0F, payload, (encodeWSFrame op payload).length, true, false,
        encodeWSFrame op payload ++ t⟩)) ∧
    ∀ b, b <+: encodeWSFrame op payload → b ≠ encodeWSFrame op payload →
      parseWebSocketFrame b maxFrameSize = .ok none := by
  have hfin : (op &&& 0x80 != 0) = true := by simpa using hfin
  have hlt : payload.length < 2 ^ 64 := by omega
  obtain ⟨head, hframe, hread⟩ := readHeader_encodeWSFrame op hlt
  rw [hfin] at hread
  have hsize : (encodeWSFrame op payload).length = head.length + payload.length := by
    rw [hframe, length_append]
  obtain ⟨hwhole, hpart⟩ := parse_frame hread hsize hle hint
  refine ⟨fun t => ?_, hpart⟩
  rw [hwhole, hsize, hframe]
  simp [WSHeader.frame, WSHeader.payload, WSHeader.start, WSHeader.frameSize]

/-- The units of a stream as `next` finds them; `none` if the stream does not end with a unit. -/
def readUnits (next : Bytes → Option (Bytes × Bytes)) : ℕ → Bytes → Option (List Bytes)
  | _, [] => some []
  | 0, _ :: _ => none
  | fuel + 1, x :: xs => (next (x :: xs)).bind fun u => (readUnits next fuel u.2).map (u.1 :: ·)

/-- A payload behind its length. -/
def nextUnit (b : Bytes) : Option (Bytes × Bytes) :=
  let n := uintBE (b.take 4)
  if 4 ≤ b.length ∧ 4 + n ≤ b.length then some ((b.drop 4).take n, b.drop (4 + n)) else none

/-- The payload of a binary frame of the server. -/
def nextFrame (b : Bytes) : Option (Bytes × Bytes) :=
  match parseWebSocketFrame b (2 ^ 32) with
  | .ok (some ⟨opCode, payload, frameSize, true, false, _⟩) =>
    if opCode = wsOpBinary then some (payload, b.drop frameSize) else none
  | _ => none

theorem readUnits_flatMap {next : Bytes → Option (Bytes × Bytes)} {enc : Bytes → Bytes}
    {payloads : List Bytes} {fuel : ℕ} (hfuel : (payloads.flatMap enc).length ≤ fuel)
    (hnext : ∀ p ∈ payloads, ∀ t, next (enc p ++ t) = some (p, t)) (henc : ∀ p, enc p ≠ []) :
    readUnits next fuel (payloads.flatMap enc) = some payloads := by
  induction payloads generalizing fuel with
  | nil => cases fuel <;> rfl
  | cons p payloads ih =>
    obtain ⟨hp, hrest⟩ := forall_mem_cons.mp hnext
    obtain ⟨x, xs, hx⟩ := exists_cons_of_ne_nil (henc p)
    have hunit := hp (payloads.flatMap enc)
    rw [flatMap_cons] at hfuel ⊢
    rw [hx, cons_append] at hunit hfuel ⊢
    rw [length_cons, length_append] at hfuel
    cases fuel with
    | zero => omega
    | succ fuel =>
      rw [readUnits, hunit, Option.bind_some, ih (by omega) hrest]
      rfl

theorem nextUnit_writeFrame {payload : Bytes} (h : payload.length < 2 ^ 32) (t : Bytes) :
    nextUnit (writeFrame payload ++ t) = some (payload, t) := by
  obtain ⟨hlen, hannounced, hbody, hbehind⟩ := writeFrame_parts h t
  simp only [nextUnit, hannounced, hbody, hbehind, hlen]
  rw [if_pos (by omega)]

theorem nextFrame_wsBinaryFrame {payload : Bytes} (h : payload.length < 2 ^ 32) (t : Bytes) :
    nextFrame (wsBinaryFrame payload ++ t) = some (payload, t) := by
  have hop : (0x82 : UInt8) &&& 0x0F = wsOpBinary := by decide
  have hparsed := (parse_encodeWSFrame 0x82 (by decide) h.le (by decide)).1 t
  rw [nextFrame, wsBinaryFrame, hparsed]
  simp [hop]

theorem coalescedData_foldl (payloads : List Bytes) :
    (payloads.foldl Buffer.appendCoalesced {}).Holds payloads := by
  induction payloads using reverseRecOn with
  | nil => exact Buffer.holds_empty
  | append_singleton payloads p ih =>
    rw [foldl_append]
    exact ih.append p

/-- **Coalesced messages mean the same on both transports.** What a flush writes of messages shorter
than `2 ^ 32` bytes is each message behind its length on TCP and in a binary frame on a WebSocket, so
that the decoder of either transport finds the messages. Reframing does not fail. -/
theorem coalesced_decoded (payloads : List Bytes) (h : ∀ p ∈ payloads, p.length < 2 ^ 32) :
    let data := (payloads.foldl Buffer.appendCoalesced {}).coalescedData
    outgoing false data = payloads.flatMap writeFrame ∧
    outgoing true data = payloads.flatMap (encodeWSFrame 0x82) ∧
    readUnits nextUnit (outgoing false data).length (outgoing false data) = some payloads ∧
    readUnits nextFrame (outgoing true data).length (outgoing true data) = some payloads ∧
    reframeCoalescedAsWSFrames data ≠ none := by
  intro data
  have hdata : data = payloads.flatMap writeFrame := (coalescedData_foldl payloads).data_eq
  have hws : outgoing true data = payloads.flatMap wsBinaryFrame := by
    rw [hdata, outgoing_flatMap fun _ => h]
    rfl
  refine ⟨hdata, hws, ?_, ?_, ?_⟩
  · refine (congrArg (readUnits nextUnit _) hdata).trans (readUnits_flatMap ?_ ?_ ?_)
    · exact (congrArg length hdata.symm).le
    · exact fun p hp => nextUnit_writeFrame (h p hp)
    · intro p
      simp [writeFrame, bigEndian]
  · rw [hws]
    refine readUnits_flatMap le_rfl (fun p hp => nextFrame_wsBinaryFrame (h p hp)) fun p => ?_
    unfold wsBinaryFrame encodeWSFrame
    dsimp only
    split
    · simp
    · split <;> simp
  · rw [hdata, reframe_flatMap h]
    simp

/-- The statement for an empty message and one of two bytes. -/
theorem coalesced_decoded_two :
    let data := ([[], [1, 2]].foldl Buffer.appendCoalesced {}).coalescedData
    readUnits nextFrame (outgoing true data).length (outgoing true data) = some [[], [1, 2]] :=
  (coalesced_decoded [[], [1, 2]] (by decide)).2.2.2.1

end Sgate.Gateway
