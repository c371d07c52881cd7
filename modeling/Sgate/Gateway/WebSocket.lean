import Sgate.Gateway.Frames

/-! # Frames of a WebSocket connection

`handleWebSocketMessage` adds a read to a buffer that keeps a consumed part in front.
`parseWebSocketFrame` unmasks the payload of a complete frame in place; fragments are put together in
`fragBuf`. The loop is the run of the decoder `wsDecoder` (`wsLoop_eq_run`). The reference decoder
`wsReference` has no largest frame: the two are the same if the limit leaves room for the header
(`wsReference_eq`). -/

namespace Sgate.Gateway

open Decoder List

variable {σ : Type*}

/-! ## Frames on the wire -/

def wsOpText : UInt8 := 0x1
def wsOpBinary : UInt8 := 0x2
def wsOpClose : UInt8 := 0x8
def wsOpPing : UInt8 := 0x9
def wsOpPong : UInt8 := 0xA

/-- `ws.Cipher` from position `i` of the payload on: xor with the key, repeated. -/
def cipherFrom (mask : Bytes) : ℕ → Bytes → Bytes
  | _, [] => []
  | i, x :: xs => (x ^^^ mask.getD (i % 4) 0) :: cipherFrom mask (i + 1) xs

/-- `ws.Cipher` of a whole payload. -/
def cipher (mask payload : Bytes) : Bytes := cipherFrom mask 0 payload

@[simp] theorem length_cipherFrom (mask : Bytes) (i : ℕ) (payload : Bytes) :
    (cipherFrom mask i payload).length = payload.length := by
  induction payload generalizing i with
  | nil => rfl
  | cons x xs ih => rw [cipherFrom, length_cons, ih, length_cons]

@[simp] theorem length_cipher (mask payload : Bytes) : (cipher mask payload).length = payload.length :=
  length_cipherFrom mask 0 payload

/-- A frame found by `parseWebSocketFrame`, with the buffer after its payload was unmasked. -/
structure WSFrame where
  opCode : UInt8
  payload : Bytes
  frameSize : ℕ
  fin : Bool
  masked : Bool
  buffer : Bytes

/-- Addition of two `int`s. -/
def intAdd (a b : Int) : Int := Int.bmod (a + b) (2 ^ 64)

/-- The panic of `buffer[frameSize : frameSize+int(length)]`: `OnTraffic` recovers and closes the
connection, as it does for an error. -/
def slicePanic : String := "slice bounds out of range"

/-- The part of `parseWebSocketFrame` after the length was read, which took `frameSize` bytes. The
answer `none` stands for a frame size of zero: more bytes are needed. -/
def parsePayload (maxFrameSize : ℕ) (buffer : Bytes) (fin : Bool) (opCode : UInt8) (masked : Bool)
    (length frameSize : ℕ) : Except String (Option WSFrame) :=
  if maxFrameSize < length then .error s!"frame too large: {length} bytes"
  else if masked then
    if buffer.length < frameSize + 4 then .ok none
    else
      let mask := (buffer.drop frameSize).take 4
      let frameSize := frameSize + 4
      if buffer.length < intAdd frameSize length then .ok none
      else if intAdd frameSize length < frameSize then .error slicePanic
      else
        let payload := cipher mask ((buffer.drop frameSize).take length)
        .ok (some
          { opCode := opCode, payload := payload, frameSize := frameSize + length, fin := fin
            masked := true
            buffer := buffer.take frameSize ++ payload ++ buffer.drop (frameSize + length) })
  else if buffer.length < intAdd frameSize length then .ok none
  else if intAdd frameSize length < frameSize then .error slicePanic
  else
    .ok (some
      { opCode := opCode, payload := (buffer.drop frameSize).take length
        frameSize := frameSize + length, fin := fin, masked := false, buffer := buffer })

def parseWebSocketFrame (buffer : Bytes) (maxFrameSize : ℕ) : Except String (Option WSFrame) :=
  match buffer with
  | b0 :: b1 :: _ =>
    let fin := (b0 &&& 0x80) != 0
    let opCode := b0 &&& 0x0F
    let masked := (b1 &&& 0x80) != 0
    let length := (b1 &&& 0x7F).toNat
    if length = 126 then
      if buffer.length < 4 then .ok none
      else parsePayload maxFrameSize buffer fin opCode masked (uintBE ((buffer.drop 2).take 2)) 4
    else if length = 127 then
      if buffer.length < 10 then .ok none
      else parsePayload maxFrameSize buffer fin opCode masked (uintBE ((buffer.drop 2).take 8)) 10
    else parsePayload maxFrameSize buffer fin opCode masked length 2
  | _ => .ok none

/-! ## The receive loop -/

/-- States of a WebSocket connection. -/
inductive WSState
  | handshake
  | open
  | closing
  | closed
  deriving DecidableEq

/-- `WebSocketConnection`: the bytes read and not yet handed on are those of `buffer` from `bufOff`
on. The heartbeat's time is left out. -/
structure WebSocketConnection where
  connID : String := ""
  state : WSState := .handshake
  buffer : Bytes := []
  bufOff : ℕ := 0
  fragOp : UInt8 := 0
  fragBuf : Bytes := []
  fragging : Bool := false
  deriving DecidableEq

namespace WebSocketConnection

def pending (ws : WebSocketConnection) : Bytes := ws.buffer.drop ws.bufOff

/-- The bytes from the read offset on are overwritten. -/
def overwrite (ws : WebSocketConnection) (b : Bytes) : WebSocketConnection :=
  { ws with buffer := ws.buffer.take ws.bufOff ++ b }

/-- Move what was not consumed to the front. -/
def shift (ws : WebSocketConnection) : WebSocketConnection :=
  if 0 < ws.bufOff then { ws with buffer := ws.buffer.drop ws.bufOff, bufOff := 0 } else ws

/-- The message under assembly. -/
def frag (ws : WebSocketConnection) : Option (UInt8 × Bytes) :=
  if ws.fragging then some (ws.fragOp, ws.fragBuf) else none

end WebSocketConnection

open WebSocketConnection

/-- The part of the loop that puts fragments together; `fn` stands for `processWebSocketFrame`. The
answer says whether the loop goes on. -/
def onWSFrame (maxFrameSize : ℕ) (fn : σ → UInt8 → Bytes → σ × Bool) (ws : WebSocketConnection) (s : σ)
    (f : WSFrame) : WebSocketConnection × σ × Bool :=
  if f.masked = false then (ws, s, false)
  else if f.opCode = 0 then
    if ws.fragging = false then (ws, s, false)
    else if maxFrameSize < ws.fragBuf.length + f.payload.length then (ws, s, false)
    else
      let ws := { ws with fragBuf := ws.fragBuf ++ f.payload }
      if f.fin then
        let r := fn s ws.fragOp ws.fragBuf
        ({ ws with fragBuf := [], fragging := false }, r.1, r.2)
      else (ws, s, true)
  else if f.fin = false then
    ({ ws with fragging := true, fragOp := f.opCode, fragBuf := f.payload }, s, true)
  else
    let r := fn s f.opCode f.payload
    (ws, r.1, r.2)

/-- The loop of `handleWebSocketMessage`. Every pass consumes a frame, so as many passes as there are
bytes are enough. -/
def wsLoop (maxFrameSize : ℕ) (fn : σ → UInt8 → Bytes → σ × Bool) :
    ℕ → WebSocketConnection → σ → WebSocketConnection × σ × ConnAction
  | 0, ws, s => (ws, s, .none)
  | fuel + 1, ws, s =>
    match parseWebSocketFrame (ws.buffer.drop ws.bufOff) maxFrameSize with
    | .error _ => (ws, s, .close)
    | .ok none => (ws, s, .none)
    | .ok (some f) =>
      match onWSFrame maxFrameSize fn (ws.overwrite f.buffer) s f with
      | (ws', s', false) => (ws', s', .close)
      | (ws', s', true) =>
        let ws' := { ws' with bufOff := ws'.bufOff + f.frameSize }
        if ws'.bufOff = ws'.buffer.length then ({ ws' with buffer := [], bufOff := 0 }, s', .none)
        else wsLoop maxFrameSize fn fuel ws' s'

/-- `bytes.Index`. -/
def indexOf (sep : Bytes) : Bytes → Option ℕ
  | [] => if sep = [] then some 0 else none
  | b :: bs => if sep <+: b :: bs then some 0 else (indexOf sep bs).map (· + 1)

def maxWSHandshakeSize : ℕ := 16 * 1024

/-- The bytes `"\r\n"`. -/
def crlf : Bytes := [13, 10]

/-- `handleWebSocketMessage`. The callback `handshake` stands for `handleWebSocketHandshake`, which
opens the connection unless it answers to close it. -/
def handleWebSocketMessage (maxFrameSize maxBufferSize : ℕ) (handshake : σ → Bytes → σ × ConnAction)
    (fn : σ → UInt8 → Bytes → σ × Bool) (ws : WebSocketConnection) (s : σ) (data : Bytes) :
    WebSocketConnection × σ × ConnAction :=
  if ws.state = .handshake then
    if maxWSHandshakeSize < ws.buffer.length + data.length then (ws, s, .close)
    else
      let ws := { ws with buffer := ws.buffer ++ data }
      match indexOf (crlf ++ crlf) ws.buffer with
      | none => (ws, s, .none)
      | some idx =>
        match handshake s (ws.buffer.take (idx + 4)) with
        | (s', .close) => (ws, s', .close)
        | (s', .none) =>
          let ws := { ws with state := .open, buffer := ws.buffer.drop (idx + 4), bufOff := 0 }
          if ws.buffer = [] then (ws, s', .none)
          else wsLoop maxFrameSize fn (ws.buffer.length + 1) ws s'
  else
    let ws := ws.shift
    if maxBufferSize < ws.buffer.length + data.length then ({ ws with buffer := [] }, s, .close)
    else
      let ws := { ws with buffer := ws.buffer ++ data }
      wsLoop maxFrameSize fn (ws.buffer.length + 1) ws s

/-! ## The reference decoder -/

/-- A frame's header: what it says and how many bytes it takes, the key included. -/
structure WSHeader where
  fin : Bool
  opCode : UInt8
  masked : Bool
  length : ℕ
  /-- Bytes before the key. -/
  size : ℕ
  deriving DecidableEq

namespace WSHeader

/-- Bytes before the payload. -/
def start (h : WSHeader) : ℕ := if h.masked then h.size + 4 else h.size

def frameSize (h : WSHeader) : ℕ := h.start + h.length

/-- The unmasked payload of a frame at the front of `b`. -/
def payload (h : WSHeader) (b : Bytes) : Bytes :=
  let raw := (b.drop h.start).take h.length
  if h.masked then cipher ((b.drop h.size).take 4) raw else raw

end WSHeader

open WSHeader

/-- Bytes of the length after the second byte: two or eight where the short length is 126 or 127. -/
def extLength (b1 : UInt8) : ℕ :=
  if (b1 &&& 0x7F).toNat = 126 then 2 else if (b1 &&& 0x7F).toNat = 127 then 8 else 0

/-- The header of two bytes and what follows them. -/
def headerOf (b0 b1 : UInt8) (b : Bytes) : WSHeader where
  fin := (b0 &&& 0x80) != 0
  opCode := b0 &&& 0x0F
  masked := (b1 &&& 0x80) != 0
  length := if extLength b1 = 0 then (b1 &&& 0x7F).toNat else uintBE (b.take (extLength b1))
  size := 2 + extLength b1

def readHeader : Bytes → Option WSHeader
  | b0 :: b1 :: b => if b.length < extLength b1 then none else some (headerOf b0 b1 b)
  | _ => none

/-- A message under assembly, and the state of the callback. -/
abbrev WSStream (σ : Type*) := Option (UInt8 × Bytes) × σ

/-- What becomes of a frame: a whole message is passed on, a first fragment starts a message, a
continuation is appended to the running message, which is passed on when it is complete. -/
def assemble (maxFrameSize : ℕ) (fn : σ → UInt8 → Bytes → σ × Bool) (t : WSStream σ) (fin : Bool)
    (opCode : UInt8) (payload : Bytes) : WSStream σ × Bool :=
  if opCode = 0 then
    match t.1 with
    | none => (t, false)
    | some (op, message) =>
      if maxFrameSize < message.length + payload.length then (t, false)
      else if fin then
        let r := fn t.2 op (message ++ payload)
        ((none, r.1), r.2)
      else ((some (op, message ++ payload), t.2), true)
  else if fin then
    let r := fn t.2 opCode payload
    ((t.1, r.1), r.2)
  else ((some (opCode, payload), t.2), true)

/-- The frame is above the limit or, where sizes are `int`s, its size is none. That shows behind the
key. -/
def WSHeader.TooLarge (ints : Bool) (maxFrameSize : ℕ) (b : Bytes) (h : WSHeader) : Prop :=
  maxFrameSize < h.length ∨ ints = true ∧ h.start ≤ b.length ∧ 2 ^ 63 ≤ h.frameSize

instance (ints : Bool) (maxFrameSize : ℕ) (b : Bytes) : DecidablePred (TooLarge ints maxFrameSize b) :=
  fun _ => inferInstanceAs (Decidable (_ ∨ _))

/-- One frame. A frame that is too large, not masked, out of place or refused by the callback ends the
stream where the frame starts. -/
def wsStep (ints : Bool) (maxFrameSize : ℕ) (fn : σ → UInt8 → Bytes → σ × Bool) (t : WSStream σ)
    (b : Bytes) : Verdict (WSStream σ) :=
  match readHeader b with
  | none => .more
  | some h =>
    if h.TooLarge ints maxFrameSize b then .stop 0 t
    else if b.length < h.frameSize then .more
    else if h.masked = false then .stop 0 t
    else
      match assemble maxFrameSize fn t h.fin h.opCode (h.payload b) with
      | (t', true) => .take h.frameSize t'
      | (t', false) => .stop 0 t'

section Reference

variable {ints : Bool} {maxFrameSize : ℕ} {fn : σ → UInt8 → Bytes → σ × Bool} {t t' : WSStream σ}
  {b c : Bytes} {h : WSHeader} {n : ℕ}

theorem readHeader_eq_some : readHeader b = some h ↔
    ∃ b0 b1 b', b = b0 :: b1 :: b' ∧ extLength b1 ≤ b'.length ∧ headerOf b0 b1 b' = h := by
  match b with
  | [] | [b0] => simp [readHeader]
  | b0 :: b1 :: b' =>
    simp only [readHeader, cons.injEq]
    constructor
    · intro hh
      split at hh
      · cases hh
      · rename_i hlen
        exact ⟨b0, b1, b', ⟨rfl, rfl, rfl⟩, Nat.le_of_not_lt hlen, Option.some.inj hh⟩
    · rintro ⟨_, _, _, ⟨rfl, rfl, rfl⟩, hlen, rfl⟩
      rw [if_neg (Nat.not_lt.mpr hlen)]

theorem extLength_le (b1 : UInt8) : extLength b1 ≤ 8 := by
  unfold extLength
  split_ifs <;> omega

theorem readHeader_size (hh : readHeader b = some h) : 2 ≤ h.size ∧ h.size ≤ b.length := by
  obtain ⟨b0, b1, b', rfl, hlen, rfl⟩ := readHeader_eq_some.mp hh
  simp only [headerOf, length_cons]
  omega

/-- A header has at most fourteen bytes, and announces a length of 64 bits. -/
theorem readHeader_bounds (hh : readHeader b = some h) : h.start ≤ 14 ∧ h.length < 2 ^ 64 := by
  obtain ⟨b0, b1, b', rfl, -, rfl⟩ := readHeader_eq_some.mp hh
  have hext := extLength_le b1
  constructor
  · have hsize : (headerOf b0 b1 b').size = 2 + extLength b1 := rfl
    unfold start
    split <;> omega
  · have hlong := uintBE_lt (b'.take (extLength b1))
    have hpow : 256 ^ (b'.take (extLength b1)).length ≤ 256 ^ 8 :=
      Nat.pow_le_pow_right (by decide) ((length_take_le ..).trans hext)
    have hshort := (b1 &&& 0x7F).toNat_lt
    simp only [headerOf]
    split_ifs <;> omega

theorem readHeader_append (hh : readHeader b = some h) (c : Bytes) :
    readHeader (b ++ c) = some h := by
  obtain ⟨b0, b1, b', rfl, hlen, rfl⟩ := readHeader_eq_some.mp hh
  refine readHeader_eq_some.mpr ⟨b0, b1, b' ++ c, rfl, ?_, ?_⟩
  · rw [length_append]
    omega
  · rw [headerOf, headerOf, take_append_of_le_length hlen]

/-- The header of a frame whose second byte announces the length field `ext`. -/
theorem readHeader_cons (first : UInt8) {second : UInt8} {ext : Bytes} (hext : extLength second = ext.length)
    (hlen : (if ext.length = 0 then (second &&& 0x7F).toNat else uintBE ext) = n) (rest : Bytes) :
    readHeader (first :: second :: (ext ++ rest)) =
      some ⟨first &&& 0x80 != 0, first &&& 0x0F, second &&& 0x80 != 0, n, 2 + ext.length⟩ := by
  refine readHeader_eq_some.mpr ⟨_, _, _, rfl, by simp [hext], ?_⟩
  rw [headerOf, hext, take_left' rfl, hlen]

theorem size_le_start (h : WSHeader) : h.size ≤ h.start := by
  unfold start
  split <;> omega

theorem take_drop_append {i j : ℕ} (hlen : i + j ≤ b.length) (c : Bytes) :
    ((b ++ c).drop i).take j = (b.drop i).take j := by
  rw [drop_append_of_le_length (by omega), take_append_of_le_length (by
    rw [length_drop]; omega)]

theorem payload_append (hlen : h.frameSize ≤ b.length) (c : Bytes) :
    h.payload (b ++ c) = h.payload b := by
  have hraw : h.start + h.length ≤ b.length := hlen
  unfold payload
  rw [take_drop_append hraw]
  by_cases hmasked : h.masked
  · rw [start, if_pos hmasked] at hraw
    rw [take_drop_append (by omega)]
  · simp [hmasked]

/-- What the reference decoder does with the bytes in front of it. -/
inductive WSStep (ints : Bool) (maxFrameSize : ℕ) (fn : σ → UInt8 → Bytes → σ × Bool) (t : WSStream σ)
    (b : Bytes) : Verdict (WSStream σ) → Prop
  | short : readHeader b = none → WSStep ints maxFrameSize fn t b .more
  | large {h : WSHeader} : readHeader b = some h → h.TooLarge ints maxFrameSize b →
      WSStep ints maxFrameSize fn t b (.stop 0 t)
  | incomplete {h : WSHeader} : readHeader b = some h → ¬ h.TooLarge ints maxFrameSize b →
      b.length < h.frameSize → WSStep ints maxFrameSize fn t b .more
  | unmasked {h : WSHeader} : readHeader b = some h → ¬ h.TooLarge ints maxFrameSize b →
      h.frameSize ≤ b.length → h.masked = false → WSStep ints maxFrameSize fn t b (.stop 0 t)
  | accepted {h : WSHeader} {t' : WSStream σ} : readHeader b = some h →
      ¬ h.TooLarge ints maxFrameSize b → h.frameSize ≤ b.length → h.masked = true →
      assemble maxFrameSize fn t h.fin h.opCode (h.payload b) = (t', true) →
      WSStep ints maxFrameSize fn t b (.take h.frameSize t')
  | rejected {h : WSHeader} {t' : WSStream σ} : readHeader b = some h →
      ¬ h.TooLarge ints maxFrameSize b → h.frameSize ≤ b.length → h.masked = true →
      assemble maxFrameSize fn t h.fin h.opCode (h.payload b) = (t', false) →
      WSStep ints maxFrameSize fn t b (.stop 0 t')

theorem wsStep_spec : WSStep ints maxFrameSize fn t b (wsStep ints maxFrameSize fn t b) := by
  unfold wsStep
  cases hh : readHeader b with
  | none => exact .short hh
  | some h =>
    dsimp only
    split
    · exact .large hh ‹_›
    · split
      · exact .incomplete hh ‹_› ‹_›
      · split
        · exact .unmasked hh ‹_› (by omega) ‹_›
        · rename_i hmasked
          have hmasked : h.masked = true := by simpa using hmasked
          split
          · exact .accepted hh ‹_› (by omega) hmasked ‹_›
          · exact .rejected hh ‹_› (by omega) hmasked ‹_›

theorem wsStep_eq_iff {v : Verdict (WSStream σ)} :
    wsStep ints maxFrameSize fn t b = v ↔ WSStep ints maxFrameSize fn t b v := by
  constructor
  · rintro rfl
    exact wsStep_spec
  · intro hv
    unfold wsStep
    cases hv with
    | short hh => rw [hh]
    | large hh hlarge => simp [hh, hlarge]
    | incomplete hh hle hshort => simp [hh, hle, hshort]
    | unmasked hh hle hlen hmasked => simp [hh, hle, Nat.not_lt.mpr hlen, hmasked]
    | accepted hh hle hlen hmasked ha | rejected hh hle hlen hmasked ha =>
      simp [hh, hle, Nat.not_lt.mpr hlen, hmasked, ha]

theorem size_le_frameSize (h : WSHeader) : h.size ≤ h.frameSize :=
  (size_le_start h).trans (Nat.le_add_right _ _)

theorem WSHeader.TooLarge.append (hh : h.TooLarge ints maxFrameSize b) (c : Bytes) :
    h.TooLarge ints maxFrameSize (b ++ c) :=
  hh.imp_right fun hint => ⟨hint.1, hint.2.1.trans (by simp), hint.2.2⟩

/-- Behind a whole frame no byte makes it too large. -/
theorem not_tooLarge_append (hh : ¬ h.TooLarge ints maxFrameSize b) (hlen : h.frameSize ≤ b.length)
    (c : Bytes) : ¬ h.TooLarge ints maxFrameSize (b ++ c) := by
  rintro (hlarge | ⟨hints, -, hsize⟩)
  · exact hh (.inl hlarge)
  · exact hh (.inr ⟨hints, (Nat.le_add_right _ _).trans hlen, hsize⟩)

end Reference

/-- A decoder of frames, with or without a largest size. -/
def wsDecoderOf (ints : Bool) (maxFrameSize : ℕ) (fn : σ → UInt8 → Bytes → σ × Bool) :
    Decoder UInt8 (WSStream σ) where
  step := wsStep ints maxFrameSize fn
  take_pos h := by
    cases wsStep_eq_iff.mp h with
    | @accepted header _ hh =>
      have hsize := readHeader_size hh
      have hle := size_le_frameSize header
      omega
  take_le h := by
    cases wsStep_eq_iff.mp h with
    | accepted _ _ hlen => exact hlen
  stop_le h := by
    cases wsStep_eq_iff.mp h <;> exact Nat.zero_le _
  step_append := by
    intro t b c h
    rw [wsStep_eq_iff]
    have hb := @wsStep_spec _ ints maxFrameSize fn t b
    generalize wsStep ints maxFrameSize fn t b = v at h hb
    -- the header and a complete payload are the same when more bytes follow
    have hmore : b.length ≤ (b ++ c).length := by simp
    cases hb with
    | short => exact absurd rfl h
    | large hh hlarge => exact .large (readHeader_append hh c) (hlarge.append c)
    | incomplete => exact absurd rfl h
    | unmasked hh hle hlen hmasked =>
      exact .unmasked (readHeader_append hh c) (not_tooLarge_append hle hlen c) (hlen.trans hmore) hmasked
    | accepted hh hle hlen hmasked ha =>
      rw [← payload_append hlen c] at ha
      exact .accepted (readHeader_append hh c) (not_tooLarge_append hle hlen c) (hlen.trans hmore)
        hmasked ha
    | rejected hh hle hlen hmasked ha =>
      rw [← payload_append hlen c] at ha
      exact .rejected (readHeader_append hh c) (not_tooLarge_append hle hlen c) (hlen.trans hmore)
        hmasked ha

/-- The decoder of the receive loop: sizes are `int`s. -/
def wsDecoder (maxFrameSize : ℕ) (fn : σ → UInt8 → Bytes → σ × Bool) : Decoder UInt8 (WSStream σ) :=
  wsDecoderOf true maxFrameSize fn

/-- The frame that `parseWebSocketFrame` finds behind a header. -/
def WSHeader.frame (h : WSHeader) (b : Bytes) : WSFrame where
  opCode := h.opCode
  payload := h.payload b
  frameSize := h.frameSize
  fin := h.fin
  masked := h.masked
  buffer := if h.masked then b.take h.start ++ h.payload b ++ b.drop h.frameSize else b

section Loop

variable {maxFrameSize : ℕ} {fn : σ → UInt8 → Bytes → σ × Bool} {ws : WebSocketConnection} {s : σ}
  {b : Bytes} {h : WSHeader} {fuel : ℕ}

attribute [local simp] WSHeader.frameSize WSHeader.frame WSHeader.payload

/-- The comparison with a sum of `int`s and the slice up to it, by the sum of the numbers. -/
theorem ite_intAdd {α : Type*} {m n k : ℕ} (hm : m < 2 ^ 63) (hn : n < 2 ^ 64) (hk : m ≤ k)
    (more panics found : α) :
    (if k < intAdd m n then more else if intAdd m n < m then panics else found) =
      if 2 ^ 63 ≤ m + n then panics else if k < m + n then more else found := by
  have hsum : intAdd m n = if (m + n : ℤ) % 2 ^ 64 < 2 ^ 63 then (m + n : ℤ) % 2 ^ 64
    else (m + n : ℤ) % 2 ^ 64 - 2 ^ 64 := rfl
  split_ifs at hsum ⊢ <;> first | rfl | omega

/-- What `parsePayload` answers behind a complete header. -/
theorem parsePayload_eq (hsize : h.size ≤ b.length) (hstart : h.start ≤ 14) (hlength : h.length < 2 ^ 64) :
    parsePayload maxFrameSize b h.fin h.opCode h.masked h.length h.size =
      if maxFrameSize < h.length then .error s!"frame too large: {h.length} bytes"
      else if h.start ≤ b.length ∧ 2 ^ 63 ≤ h.frameSize then .error slicePanic
      else if b.length < h.frameSize then .ok none
      else .ok (some (h.frame b)) := by
  obtain ⟨fin, opCode, masked, length, size⟩ := h
  unfold parsePayload
  refine if_congr Iff.rfl rfl ?_
  cases masked with
  | true =>
    have hstart : size + 4 ≤ 14 := hstart
    by_cases hkey : b.length < size + 4
    · have hshort : b.length < size + 4 + length := by omega
      rw [if_pos rfl, if_pos hkey, if_neg fun h => Nat.not_le.mpr hkey h.1]
      exact (if_pos hshort).symm
    · rw [if_pos rfl, if_neg hkey]
      refine (ite_intAdd (by omega) hlength (Nat.not_lt.mp hkey) _ _ _).trans ?_
      exact if_congr (and_iff_right (Nat.not_lt.mp hkey)).symm rfl rfl
  | false =>
    have hstart : size ≤ 14 := hstart
    rw [if_neg Bool.false_ne_true]
    refine (@ite_intAdd _ size _ _ (by omega) hlength hsize _ _ _).trans ?_
    exact if_congr (and_iff_right hsize).symm rfl rfl

theorem parseWebSocketFrame_cons (b0 b1 : UInt8) (b' : Bytes) :
    parseWebSocketFrame (b0 :: b1 :: b') maxFrameSize = if b'.length < extLength b1 then .ok none
      else parsePayload maxFrameSize (b0 :: b1 :: b') (headerOf b0 b1 b').fin (headerOf b0 b1 b').opCode
        (headerOf b0 b1 b').masked (headerOf b0 b1 b').length (headerOf b0 b1 b').size := by
  unfold parseWebSocketFrame headerOf extLength
  by_cases h126 : (b1 &&& 0x7F).toNat = 126
  · simp only [h126, if_true, length_cons, if_false, drop_succ_cons, drop_zero, Nat.reduceAdd,
      OfNat.ofNat_ne_zero]
    exact if_congr (by omega) rfl rfl
  · simp only [h126, if_false]
    by_cases h127 : (b1 &&& 0x7F).toNat = 127
    · simp only [h127, if_true, length_cons, if_false, drop_succ_cons, drop_zero, Nat.reduceAdd,
        OfNat.ofNat_ne_zero]
      exact if_congr (by omega) rfl rfl
    · simp only [h127, if_false, if_true, Nat.not_lt_zero]

theorem parseWebSocketFrame_of_header (hh : readHeader b = some h) :
    parseWebSocketFrame b maxFrameSize =
      if maxFrameSize < h.length then .error s!"frame too large: {h.length} bytes"
      else if h.start ≤ b.length ∧ 2 ^ 63 ≤ h.frameSize then .error slicePanic
      else if b.length < h.frameSize then .ok none
      else .ok (some (h.frame b)) := by
  have hbounds := readHeader_bounds hh
  rw [← parsePayload_eq (readHeader_size hh).2 hbounds.1 hbounds.2]
  obtain ⟨b0, b1, b', rfl, hlen, rfl⟩ := readHeader_eq_some.mp hh
  rw [parseWebSocketFrame_cons, if_neg (Nat.not_lt.mpr hlen)]

theorem parse_of_tooLarge (hh : readHeader b = some h) (hlarge : h.TooLarge true maxFrameSize b) :
    ∃ err, parseWebSocketFrame b maxFrameSize = .error err := by
  rw [parseWebSocketFrame_of_header hh]
  rcases hlarge with hlarge | ⟨-, hint⟩
  · exact ⟨_, if_pos hlarge⟩
  · rw [if_pos hint]
    split <;> exact ⟨_, rfl⟩

theorem parse_of_not_tooLarge (hh : readHeader b = some h) (hle : ¬ h.TooLarge true maxFrameSize b) :
    parseWebSocketFrame b maxFrameSize =
      if b.length < h.frameSize then .ok none else .ok (some (h.frame b)) := by
  obtain ⟨hlength, hint⟩ := not_or.mp hle
  rw [parseWebSocketFrame_of_header hh, if_neg hlength, if_neg fun hbig => hint ⟨rfl, hbig⟩]

theorem parseWebSocketFrame_of_short (hh : readHeader b = none) :
    parseWebSocketFrame b maxFrameSize = .ok none := by
  match b with
  | [] | [b0] => rfl
  | b0 :: b1 :: b' =>
    simp only [readHeader, ite_eq_left_iff, reduceCtorEq, imp_false, not_not] at hh
    rw [parseWebSocketFrame_cons, if_pos hh]

/-- Putting fragments together is the assembly of the reference decoder; the buffer is not touched. -/
theorem onWSFrame_eq {f : WSFrame} {t' : WSStream σ} {ok : Bool} (hmasked : f.masked = true)
    (ha : assemble maxFrameSize fn (ws.frag, s) f.fin f.opCode f.payload = (t', ok)) :
    ∃ ws', onWSFrame maxFrameSize fn ws s f = (ws', t'.2, ok) ∧ ws'.frag = t'.1 ∧
      ws'.buffer = ws.buffer ∧ ws'.bufOff = ws.bufOff ∧ ws'.state = ws.state := by
  suffices h : let r := onWSFrame maxFrameSize fn ws s f
      ((r.1.frag, r.2.1), r.2.2) = (t', ok) ∧
        r.1.buffer = ws.buffer ∧ r.1.bufOff = ws.bufOff ∧ r.1.state = ws.state by
    obtain ⟨hr, hkeep⟩ := h
    cases hr
    exact ⟨_, rfl, rfl, hkeep⟩
  rw [← ha]
  unfold onWSFrame assemble frag
  by_cases hop : f.opCode = 0
  · by_cases hfrag : ws.fragging
    · by_cases hlarge : maxFrameSize < ws.fragBuf.length + f.payload.length
      · simp [hmasked, hop, hfrag, hlarge]
      · cases hfin : f.fin <;> simp [hmasked, hop, hfrag, hlarge]
    · simp [hmasked, hop, hfrag]
  · cases hfin : f.fin <;> simp [hmasked, hop]

/-- The result of a loop over the buffer of `ws` agrees with the outcome of the reference decoder. When
the loop ends with a frame it refuses, the payload of that frame may be unmasked already: the bytes
left over are then as many as those of the decoder. -/
structure WSFollows (ws : WebSocketConnection) (r : WebSocketConnection × σ × ConnAction)
    (o : Decoder.Outcome UInt8 (WSStream σ)) : Prop where
  state : (r.1.frag, r.2.1) = o.state
  action : r.2.2 = if o.stopped then .close else .none
  pending : o.stopped = false → r.1.pending = o.rest
  position : r.1.pending.length = o.rest.length
  valid : r.1.bufOff ≤ r.1.buffer.length
  keeps : r.1.state = ws.state

theorem length_buffer_frame (hlen : h.frameSize ≤ b.length) : (h.frame b).buffer.length = b.length := by
  unfold frameSize at hlen
  by_cases hmasked : h.masked
  · simp [hmasked]
    omega
  · simp [hmasked]

theorem drop_buffer_frame (hlen : h.frameSize ≤ b.length) :
    (h.frame b).buffer.drop h.frameSize = b.drop h.frameSize := by
  unfold frame
  by_cases hmasked : h.masked
  · rw [if_pos hmasked]
    refine drop_left' ?_
    unfold frameSize at hlen ⊢
    simp [hmasked]
    omega
  · rw [if_neg hmasked]

variable {ws' : WebSocketConnection}

section

variable (hvalid : ws.bufOff ≤ ws.buffer.length)
include hvalid

theorem pending_overwrite (b : Bytes) : (ws.overwrite b).pending = b := by
  refine drop_left' ?_
  rw [length_take]
  exact Nat.min_eq_left hvalid

variable (hlen : h.frameSize ≤ ws.pending.length)
include hlen

theorem length_overwrite_frame :
    (ws.overwrite (h.frame ws.pending).buffer).buffer.length = ws.buffer.length := by
  have hpending : ws.pending.length = ws.buffer.length - ws.bufOff := length_drop
  simp only [overwrite, length_append, length_take, length_buffer_frame hlen]
  omega

/-- Behind a frame that was unmasked in place stand the bytes behind it in the stream. -/
theorem drop_behind_frame (hbuf : ws'.buffer = (ws.overwrite (h.frame ws.pending).buffer).buffer)
    (hoff : ws'.bufOff = ws.bufOff) :
    ws'.buffer.drop (ws'.bufOff + h.frameSize) = ws.pending.drop h.frameSize ∧
      ws'.bufOff + h.frameSize ≤ ws'.buffer.length := by
  have hpending : ws.pending.length = ws.buffer.length - ws.bufOff := length_drop
  constructor
  · rw [← drop_buffer_frame hlen, ← pending_overwrite hvalid (h.frame ws.pending).buffer,
      pending, drop_drop, hbuf, hoff]
    rfl
  · rw [hbuf, length_overwrite_frame hvalid hlen, hoff]
    omega

end

theorem wsLoop_of_header (hh : readHeader ws.pending = some h)
    (hle : ¬ h.TooLarge true maxFrameSize ws.pending)
    (hlen : h.frameSize ≤ ws.pending.length) {s' : σ} {ok : Bool}
    (hframe : onWSFrame maxFrameSize fn (ws.overwrite (h.frame ws.pending).buffer) s (h.frame ws.pending) = (ws', s', ok)) :
    wsLoop maxFrameSize fn (fuel + 1) ws s = if ok = false then (ws', s', .close)
      else
        if ws'.bufOff + h.frameSize = ws'.buffer.length then
          ({ ws' with buffer := [], bufOff := 0 }, s', .none)
        else wsLoop maxFrameSize fn fuel { ws' with bufOff := ws'.bufOff + h.frameSize } s' := by
  have hparse : parseWebSocketFrame (ws.buffer.drop ws.bufOff) maxFrameSize =
      .ok (some (h.frame ws.pending)) := by
    rw [show ws.buffer.drop ws.bufOff = ws.pending from rfl, parse_of_not_tooLarge hh hle,
      if_neg (by omega)]
  rw [wsLoop, hparse]
  dsimp only
  rw [hframe]
  cases ok <;> rfl

theorem wsLoop_eq_run (hvalid : ws.bufOff ≤ ws.buffer.length) (hfuel : ws.pending.length < fuel) :
    WSFollows ws (wsLoop maxFrameSize fn fuel ws s)
      ((wsDecoder maxFrameSize fn).run (ws.frag, s) ws.pending) := by
  -- the induction is on the fuel: a pass that goes on leaves fewer bytes
  induction fuel generalizing ws s with
  | zero => omega
  | succ fuel ih =>
    have hpending : ws.pending.length = ws.buffer.length - ws.bufOff := length_drop
    obtain ⟨v, hv⟩ : ∃ v, wsStep true maxFrameSize fn (ws.frag, s) ws.pending = v := ⟨_, rfl⟩
    have hstep := @wsStep_spec _ true maxFrameSize fn (ws.frag, s) ws.pending
    rw [hv] at hstep
    cases hstep with
    | short hh =>
      rw [run_of_more hv, wsLoop, show ws.buffer.drop ws.bufOff = ws.pending from rfl,
        parseWebSocketFrame_of_short hh]
      exact ⟨rfl, rfl, fun _ => rfl, rfl, hvalid, rfl⟩
    | large hh hlarge =>
      obtain ⟨err, hparse⟩ := parse_of_tooLarge hh hlarge
      rw [run_of_stop hv, wsLoop, show ws.buffer.drop ws.bufOff = ws.pending from rfl, hparse]
      exact ⟨rfl, rfl, by simp, rfl, hvalid, rfl⟩
    | incomplete hh hle hshort =>
      rw [run_of_more hv, wsLoop, show ws.buffer.drop ws.bufOff = ws.pending from rfl,
        parse_of_not_tooLarge hh hle, if_pos hshort]
      exact ⟨rfl, rfl, fun _ => rfl, rfl, hvalid, rfl⟩
    | @unmasked h hh hle hlen hmasked =>
      have hbuffer := length_overwrite_frame hvalid hlen
      have hframe : onWSFrame maxFrameSize fn (ws.overwrite (h.frame ws.pending).buffer) s
          (h.frame ws.pending) = (ws.overwrite (h.frame ws.pending).buffer, s, false) :=
        if_pos hmasked
      rw [run_of_stop hv, wsLoop_of_header hh hle hlen hframe, if_pos rfl]
      refine ⟨rfl, rfl, by simp, ?_, ?_, rfl⟩
      · rw [pending_overwrite hvalid, length_buffer_frame hlen, drop_zero]
      · exact hvalid.trans hbuffer.ge
    | @rejected h t' hh hle hlen hmasked ha =>
      have hbuffer := length_overwrite_frame hvalid hlen
      obtain ⟨ws', hframe, hfrag, hbuf, hoff, hstate⟩ := @onWSFrame_eq _ maxFrameSize fn
        (ws.overwrite (h.frame ws.pending).buffer) s (h.frame ws.pending) t' false hmasked ha
      rw [run_of_stop hv, wsLoop_of_header hh hle hlen hframe, if_pos rfl]
      refine ⟨Prod.ext hfrag rfl, rfl, by simp, ?_, ?_, hstate⟩
      · rw [pending, hbuf, hoff, length_drop, hbuffer, drop_zero, hpending]
        rfl
      · rw [hbuf, hoff, hbuffer]
        exact hvalid
    | @accepted h t' hh hle hlen hmasked ha =>
      obtain ⟨ws', hframe, hfrag, hbuf, hoff, hstate⟩ := @onWSFrame_eq _ maxFrameSize fn
        (ws.overwrite (h.frame ws.pending).buffer) s (h.frame ws.pending) t' true hmasked ha
      obtain ⟨hnext, hoff'⟩ := drop_behind_frame hvalid hlen hbuf hoff
      rw [run_of_take hv, wsLoop_of_header hh hle hlen hframe, if_neg (by simp)]
      rw [← hnext]
      by_cases hend : ws'.bufOff + h.frameSize = ws'.buffer.length
      · have hnil : ws'.buffer.drop (ws'.bufOff + h.frameSize) = [] :=
          drop_of_length_le hend.ge
        have hwait : (wsDecoder maxFrameSize fn).step t' [] = .more := rfl
        rw [if_pos hend, hnil, run_of_more hwait]
        exact ⟨Prod.ext hfrag rfl, rfl, fun _ => rfl, rfl, Nat.zero_le _, hstate⟩
      · rw [if_neg hend]
        have hsize := readHeader_size hh
        have hstart := size_le_frameSize h
        have hrec := @ih { ws' with bufOff := ws'.bufOff + h.frameSize } t'.2 hoff' (by
          rw [pending, hnext, length_drop]
          omega)
        have hstream : (({ ws' with bufOff := ws'.bufOff + h.frameSize } : WebSocketConnection).frag,
            t'.2) = t' := Prod.ext hfrag rfl
        rw [hstream] at hrec
        exact { hrec with keeps := hrec.keeps.trans hstate }

end Loop

/-! ## Reads of one connection -/

/-- A connection: its buffers and the state of the callbacks. It goes on until a read is answered by
closing it. -/
def wsReceiver (maxFrameSize maxBufferSize : ℕ) (handshake : σ → Bytes → σ × ConnAction)
    (fn : σ → UInt8 → Bytes → σ × Bool) : Receiver UInt8 (WSStream σ) (WebSocketConnection × σ) where
  read k data :=
    let r := handleWebSocketMessage maxFrameSize maxBufferSize handshake fn k.1 k.2 data
    ((r.1, r.2.1), r.2.2 = .none)
  state k := (k.1.frag, k.2)
  pending k := k.1.pending

section Reads

variable {maxFrameSize maxBufferSize : ℕ} {handshake : σ → Bytes → σ × ConnAction}
  {fn : σ → UInt8 → Bytes → σ × Bool} {ws : WebSocketConnection} {s : σ} {data : Bytes}

theorem shift_eq (ws : WebSocketConnection) :
    ws.shift = { ws with buffer := ws.pending, bufOff := 0 } := by
  unfold shift pending
  by_cases hoff : 0 < ws.bufOff
  · rw [if_pos hoff]
  · have hzero : ws.bufOff = 0 := by omega
    rw [if_neg hoff, hzero, drop_zero, ← hzero]

theorem handleWebSocketMessage_of_exceeds (hopen : ws.state ≠ .handshake)
    (hlimit : maxBufferSize < ws.pending.length + data.length) :
    handleWebSocketMessage maxFrameSize maxBufferSize handshake fn ws s data =
      ({ ws with buffer := [], bufOff := 0 }, s, .close) := by
  rw [handleWebSocketMessage, if_neg hopen, shift_eq]
  rw [if_pos hlimit]

/-- A read of an open connection within the limit is the reference decoder's run on what was pending
and what arrived. -/
theorem handleWebSocketMessage_of_within (hopen : ws.state ≠ .handshake)
    (hlimit : ws.pending.length + data.length ≤ maxBufferSize) :
    WSFollows ws (handleWebSocketMessage maxFrameSize maxBufferSize handshake fn ws s data)
      ((wsDecoder maxFrameSize fn).run (ws.frag, s) (ws.pending ++ data)) := by
  rw [handleWebSocketMessage, if_neg hopen, shift_eq]
  dsimp only
  rw [if_neg (by omega)]
  have hloop := @wsLoop_eq_run _ maxFrameSize fn
    { ws with buffer := ws.pending ++ data, bufOff := 0 } s ((ws.pending ++ data).length + 1)
    (Nat.zero_le _) (Nat.lt_succ_self _)
  exact { hloop with }

theorem wsReceiver_follows (maxFrameSize maxBufferSize : ℕ) (handshake : σ → Bytes → σ × ConnAction)
    (fn : σ → UInt8 → Bytes → σ × Bool) :
    (wsReceiver maxFrameSize maxBufferSize handshake fn).Follows (wsDecoder maxFrameSize fn)
      maxBufferSize (fun k => k.1.state ≠ .handshake) where
  exceeds := by
    intro k data hopen h
    have hread := @handleWebSocketMessage_of_exceeds _ maxFrameSize maxBufferSize handshake fn k.1 k.2
      data hopen (by exact_mod_cast h)
    simp only [wsReceiver, hread]
    exact ⟨rfl, rfl⟩
  fits := by
    intro k data hopen h o
    have hread : WSFollows k.1
        (handleWebSocketMessage maxFrameSize maxBufferSize handshake fn k.1 k.2 data) o :=
      handleWebSocketMessage_of_within hopen (by exact_mod_cast h)
    refine ⟨?_, hread.state, fun hwaits => ⟨hread.pending hwaits, ?_⟩⟩
    · change decide (_ = ConnAction.none) = !o.stopped
      rw [hread.action]
      cases o.stopped <;> rfl
    · rw [show ((wsReceiver maxFrameSize maxBufferSize handshake fn).read k data).1.1.state =
        k.1.state from hread.keeps]
      exact hopen

theorem wsReceiver_synced (hempty : ws.pending = []) :
    Receiver.Synced (wsReceiver maxFrameSize maxBufferSize handshake fn) (wsDecoder maxFrameSize fn)
      (ws.frag, s) [] (ws, s) := by
  have hwait : (wsDecoder maxFrameSize fn).step (ws.frag, s) [] = .more := rfl
  have hrun := run_of_more hwait
  exact ⟨by rw [hrun]; rfl, by rw [hrun]; exact hempty, by rw [hrun]⟩

end Reads

end Sgate.Gateway
