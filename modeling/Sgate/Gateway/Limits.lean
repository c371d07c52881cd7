import Sgate.Gateway.WebSocket

/-! # Limits of the read buffers

Both read paths apply the limit of the buffer to the unfinished frame and the whole read, before the
complete frames in it are consumed: `legal_iff` says which reads of a legal client pass. -/

namespace Sgate.Gateway

open LoginPath

variable {σ : Type*}

/-! ## Configuration -/

structure ProtectionConfig where
  maxFrameSize : Int
  maxFrameBufSize : Int
  maxWSFrameSize : Int
  maxWSBufferSize : Int
  deriving DecidableEq

/-- The part of the configuration file that `Validate` looks at. -/
structure GatewayConfig where
  httpPort : Int
  belong : String
  serverID : String
  serverType : String
  zone : String
  transports : ℕ
  jwtEnabled : Bool
  jwtSecret : String
  trustedProxies : List String
  protection : ProtectionConfig
  deriving DecidableEq

/-- The first trusted proxy that is not an address or a range, with the error of the parser. -/
def invalidProxy (validateIPOrCIDR : String → Option String) : List String → Option String
  | [] => none
  | p :: ps =>
    match validateIPOrCIDR p with
    | some err => some s!"security.trustedProxies \"{p}\": {err}"
    | none => invalidProxy validateIPOrCIDR ps

/-- `Validate`: the first error, if there is one. The errors of the address parser are a parameter. -/
def GatewayConfig.validate (validateIPOrCIDR : String → Option String) (c : GatewayConfig) :
    Option String :=
  if c.httpPort ≤ 0 then some "httpPort is required and must be > 0"
  else if c.belong = "" then some "belong is required"
  else if c.serverID = "" then some "serverId is required"
  else if c.serverType = "" then some "serverType is required"
  else if c.zone = "" then some "zone is required"
  else if c.transports = 0 then some "transports is required"
  else if c.jwtEnabled = true ∧ c.jwtSecret = "" then
    some "jwtAuth.secret is required when jwtAuth.enabled=true"
  else
    match invalidProxy validateIPOrCIDR c.trustedProxies with
    | some err => some err
    | none =>
      let buf := c.protection.maxFrameBufSize
      let frame := c.protection.maxFrameSize
      let wsBuf := c.protection.maxWSBufferSize
      let wsFrame := c.protection.maxWSFrameSize
      if buf < intAdd frame 4 then
        some s!"protection.maxFrameBufSize ({buf}) must be >= maxFrameSize ({frame}) + 4 (frame length prefix)"
      else if wsBuf < intAdd wsFrame 14 then
        some s!"protection.maxWSBufferSize ({wsBuf}) must be >= maxWSFrameSize ({wsFrame}) + 14 (max WS header)"
      else none

def getMaxWSFrameSize (p : ProtectionConfig) : ℕ :=
  if p.maxWSFrameSize ≤ 0 then 4 * 1024 * 1024 else p.maxWSFrameSize.toNat

def getMaxWSBufferSize (p : ProtectionConfig) : ℕ :=
  if p.maxWSBufferSize ≤ 0 then 4 * 1024 * 1024 else p.maxWSBufferSize.toNat

/-! ## Legal streams -/

/-- A TCP frame of a legal client. Its length is written in four bytes. -/
def LegalFrame (p : ProtectionConfig) (f : Bytes) : Prop :=
  1 ≤ f.length ∧ (f.length : Int) ≤ p.maxFrameSize ∧ f.length < 2 ^ 32

/-- How the length of a payload is written. -/
inductive LengthForm
  | short
  | medium
  | long
  deriving DecidableEq

/-- Bytes of the length after the second byte. -/
def LengthForm.size : LengthForm → ℕ
  | .short => 0
  | .medium => 2
  | .long => 8

/-- The second byte of a masked frame with a payload of `n` bytes. -/
def LengthForm.second (form : LengthForm) (n : ℕ) : UInt8 :=
  match form with
  | .short => UInt8.ofNat (128 + n)
  | .medium => 254
  | .long => 255

/-- Payloads a form can stand for; a frame with its header is less than `2 ^ 63` bytes. -/
def LengthForm.bound : LengthForm → ℕ
  | .short => 126
  | .medium => 256 ^ 2
  | .long => 2 ^ 63 - 14

structure ClientFrame where
  /-- First byte: the final bit and the opcode. -/
  first : UInt8
  form : LengthForm
  key : Bytes
  payload : Bytes
  fin : (first &&& 0x80) ≠ 0
  opCode : (first &&& 0x0F) ≠ 0
  key_length : key.length = 4
  length_lt : payload.length < form.bound

namespace ClientFrame

def encode (f : ClientFrame) : Bytes :=
  f.first :: f.form.second f.payload.length ::
    (bigEndian f.form.size f.payload.length ++ (f.key ++ cipher f.key f.payload))

def header (f : ClientFrame) : WSHeader where
  fin := true
  opCode := f.first &&& 0x0F
  masked := true
  length := f.payload.length
  size := 2 + f.form.size

theorem second_short : ∀ n : Fin 126, (UInt8.ofNat (128 + n) &&& 0x7F).toNat = n ∧
    (UInt8.ofNat (128 + n) &&& 0x80 != 0) = true := by
  decide +kernel

variable {form : LengthForm}

theorem second_spec {n : ℕ} (h : n < form.bound) :
    extLength (form.second n) = form.size ∧ (form.second n &&& 0x80 != 0) = true ∧
      (form = .short → (form.second n &&& 0x7F).toNat = n) := by
  cases form with
  | short =>
    have hlt : n < 126 := h
    obtain ⟨hlow, hmask⟩ := second_short ⟨n, hlt⟩
    have hext : extLength (UInt8.ofNat (128 + n)) = 0 := by
      rw [extLength, hlow, if_neg (by omega), if_neg (by omega)]
    exact ⟨hext, hmask, fun _ => hlow⟩
  | medium =>
    have hext : extLength 254 = 2 := by decide
    have hmask : ((254 : UInt8) &&& 0x80 != 0) = true := by decide
    exact ⟨hext, hmask, by simp⟩
  | long =>
    have hext : extLength 255 = 8 := by decide
    have hmask : ((255 : UInt8) &&& 0x80 != 0) = true := by decide
    exact ⟨hext, hmask, by simp⟩

theorem length_encode (f : ClientFrame) : f.encode.length = f.header.frameSize := by
  simp [encode, header, WSHeader.frameSize, WSHeader.start, f.key_length]
  omega

theorem frameSize_lt (f : ClientFrame) : f.header.frameSize < 2 ^ 63 := by
  have hlt := f.length_lt
  show 2 + f.form.size + 4 + f.payload.length < 2 ^ 63
  cases hform : f.form <;> simp only [hform, LengthForm.bound, LengthForm.size] at hlt ⊢ <;> omega

/-- The header of a masked frame, whatever follows it. -/
theorem readHeader_masked (first : UInt8) {n : ℕ} (h : n < form.bound) (rest : Bytes) :
    readHeader (first :: form.second n :: (bigEndian form.size n ++ rest)) =
      some ⟨first &&& 0x80 != 0, first &&& 0x0F, true, n, 2 + form.size⟩ := by
  obtain ⟨hext, hmask, hshort⟩ := second_spec h
  rw [readHeader_cons (n := n) first (by rw [hext, length_bigEndian]), hmask, length_bigEndian]
  cases form with
  | short => exact hshort rfl
  | medium => exact uintBE_bigEndian h
  | long => exact uintBE_bigEndian (Nat.lt_of_lt_of_le h (by decide))

theorem readHeader_encode (f : ClientFrame) (tail : Bytes) :
    readHeader (f.encode ++ tail) = some f.header := by
  have hfin : (f.first &&& 0x80 != 0) = true := by simpa using f.fin
  have hread := readHeader_masked f.first f.length_lt (f.key ++ cipher f.key f.payload)
  rw [hfin] at hread
  exact readHeader_append hread tail

theorem not_tooLarge (f : ClientFrame) {maxFrameSize : ℕ} (hle : f.payload.length ≤ maxFrameSize)
    (b : Bytes) : ¬ f.header.TooLarge true maxFrameSize b := by
  rintro (hlarge | ⟨-, -, hsize⟩)
  · exact Nat.not_lt.mpr hle hlarge
  · exact Nat.not_lt.mpr hsize f.frameSize_lt

end ClientFrame

/-! ## Legal streams and the decoders -/

section Streams

/-- The decoder goes through a stream of legal frames unless one is longer than its limit. -/
theorem frameDecoder_legal {limit : ℕ} {fn : σ → Bytes → σ × Bool}
    (haccept : ∀ s f, (fn s f).2 = true) (s : σ) (frames : List Bytes)
    (hlegal : ∀ f ∈ frames, 1 ≤ f.length ∧ f.length < 2 ^ 32) :
    ((frameDecoder limit fn).run s (frames.flatMap writeFrame)).stopped = false ↔
      ∀ f ∈ frames, f.length ≤ limit := by
  induction frames generalizing s with
  | nil =>
    have hwait : (frameDecoder limit fn).step s [] = .more := rfl
    simp [Decoder.run_of_more hwait]
  | cons f frames ih =>
    obtain ⟨⟨hpos, hlt⟩, hframes⟩ := List.forall_mem_cons.mp hlegal
    rw [List.flatMap_cons, List.forall_mem_cons]
    by_cases hle : f.length ≤ limit
    · have hfn : fn s f = ((fn s f).1, true) := Prod.ext rfl (haccept s f)
      have hstep : (frameDecoder limit fn).step s (writeFrame f ++ frames.flatMap writeFrame) =
          .take (4 + f.length) (fn s f).1 :=
        frameStep_eq_iff.mpr (.accepted (by omega) (by omega) hle hfn)
      rw [Decoder.run_of_take hstep, drop_writeFrame_append, ih _ hframes]
      exact (and_iff_right hle).symm
    · have hstep : (frameDecoder limit fn).step s (writeFrame f ++ frames.flatMap writeFrame) =
          .stop 0 s := by
        exact frameStep_eq_iff.mpr (.invalid (by omega) (by omega))
      rw [Decoder.run_of_stop hstep]
      simp [hle]

variable {fn : σ → UInt8 → Bytes → σ × Bool} {maxFrameSize : ℕ}

theorem assemble_whole {t : WSStream σ} {opCode : UInt8} (hop : opCode ≠ 0) (payload : Bytes) :
    assemble maxFrameSize fn t true opCode payload =
      ((t.1, (fn t.2 opCode payload).1), (fn t.2 opCode payload).2) := by
  rw [assemble, if_neg hop]
  rfl

theorem wsDecoder_legal (haccept : ∀ s op payload, (fn s op payload).2 = true) (t : WSStream σ)
    (frames : List ClientFrame) (hlegal : ∀ f ∈ frames, f.payload.length ≤ maxFrameSize) :
    ((wsDecoder maxFrameSize fn).run t (frames.flatMap ClientFrame.encode)).stopped = false := by
  induction frames generalizing t with
  | nil =>
    have hwait : (wsDecoder maxFrameSize fn).step t [] = .more := rfl
    rw [List.flatMap_nil, Decoder.run_of_more hwait]
  | cons f frames ih =>
    obtain ⟨hle, hframes⟩ := List.forall_mem_cons.mp hlegal
    rw [List.flatMap_cons]
    obtain ⟨t', ha⟩ : ∃ t', assemble maxFrameSize fn t f.header.fin f.header.opCode
        (f.header.payload (f.encode ++ frames.flatMap ClientFrame.encode)) = (t', true) :=
      ⟨_, (assemble_whole f.opCode _).trans (Prod.ext rfl (haccept _ _ _))⟩
    have hlen : f.header.frameSize ≤ (f.encode ++ frames.flatMap ClientFrame.encode).length := by
      rw [List.length_append, f.length_encode]
      omega
    have hstep : (wsDecoder maxFrameSize fn).step t (f.encode ++ frames.flatMap ClientFrame.encode) =
        .take f.header.frameSize t' :=
      wsStep_eq_iff.mpr (.accepted (f.readHeader_encode _) (f.not_tooLarge hle _) hlen rfl ha)
    rw [Decoder.run_of_take hstep, List.drop_left' f.length_encode]
    exact ih t' hframes

end Streams

theorem le_getMaxWSFrameSize {p : ProtectionConfig} {n : ℕ} (h : (n : Int) ≤ p.maxWSFrameSize) :
    n ≤ getMaxWSFrameSize p := by
  unfold getMaxWSFrameSize
  split <;> omega

/-- **Which reads of a legal client pass.** For legal TCP frames and a callback that does not fail,
`feedFrames` fails on no read exactly when every frame is within the limit as an unsigned 32-bit number
and every read fits into the buffer together with the unfinished frame before it; for legal WebSocket
frames, exactly when every read fits into the buffer together with the unfinished frame before it. -/
theorem legal_iff (p : ProtectionConfig) (s : σ) :
    (∀ (fn : σ → Bytes → σ × Bool) (frames reads : List Bytes), (∀ s f, (fn s f).2 = true) →
      (∀ f ∈ frames, LegalFrame p f) → reads.flatten = frames.flatMap writeFrame →
      (((tcpReceiver p.maxFrameBufSize p.maxFrameSize fn).readAll ({}, s) reads).2 = true ↔
        (∀ f ∈ frames, f.length ≤ uint32 p.maxFrameSize) ∧
          (frameDecoder (uint32 p.maxFrameSize) fn).Fits p.maxFrameBufSize s [] reads)) ∧
      (∀ (handshake : σ → Bytes → σ × ConnAction) (fn : σ → UInt8 → Bytes → σ × Bool)
        (ws : WebSocketConnection) (frames : List ClientFrame) (reads : List Bytes),
        ws.state ≠ .handshake → ws.pending = [] → (∀ s op payload, (fn s op payload).2 = true) →
        (∀ f ∈ frames, (f.payload.length : Int) ≤ p.maxWSFrameSize) →
        reads.flatten = frames.flatMap ClientFrame.encode →
        (((wsReceiver (getMaxWSFrameSize p) (getMaxWSBufferSize p) handshake fn).readAll (ws, s)
            reads).2 = true ↔
          (wsDecoder (getMaxWSFrameSize p) fn).Fits (getMaxWSBufferSize p) (ws.frag, s) [] reads)) := by
  constructor
  · intro fn frames reads haccept hlegal hbytes
    have hfollows := tcpReceiver_follows p.maxFrameBufSize p.maxFrameSize fn
    rw [hfollows.readAll_iff trivial (tcpReceiver_synced rfl), List.nil_append, hbytes,
      frameDecoder_legal haccept s frames (fun f hf => ⟨(hlegal f hf).1, (hlegal f hf).2.2⟩)]
    exact and_comm
  · intro handshake fn ws frames reads hopen hempty haccept hlegal hbytes
    have hfollows := wsReceiver_follows (getMaxWSFrameSize p) (getMaxWSBufferSize p) handshake fn
    rw [hfollows.readAll_iff hopen (wsReceiver_synced hempty), List.nil_append, hbytes]
    exact and_iff_left (wsDecoder_legal haccept _ frames
      fun f hf => le_getMaxWSFrameSize (hlegal f hf))

/-- A valid configuration with frames of one byte. -/
def smallConfig : GatewayConfig where
  httpPort := 8080
  belong := "b"
  serverID := "s"
  serverType := "gate"
  zone := "z"
  transports := 1
  jwtEnabled := false
  jwtSecret := ""
  trustedProxies := []
  protection :=
    { maxFrameSize := 1, maxFrameBufSize := 5, maxWSFrameSize := 1, maxWSBufferSize := 15 }

/-- A legal WebSocket frame of one byte. -/
def smallFrame : ClientFrame where
  first := 0x82
  form := .short
  key := [1, 2, 3, 4]
  payload := [7]
  fin := by decide
  opCode := by decide
  key_length := rfl
  length_lt := by decide

/-- Legal frames that arrive in one read disconnect the client: two TCP frames of five bytes at a limit
of five, three WebSocket frames of seven bytes at a limit of fifteen. -/
theorem legal_frames_disconnected :
    let p := smallConfig.protection
    smallConfig.validate (fun _ => none) = none ∧ (∀ f ∈ [[1], [2]], LegalFrame p f) ∧
      ((tcpReceiver p.maxFrameBufSize p.maxFrameSize fun n _ => (n + 1, true)).readAll ({}, 0)
        [[[1], [2]].flatMap writeFrame]).2 = false ∧
      (∀ f ∈ [smallFrame, smallFrame, smallFrame], (f.payload.length : Int) ≤ p.maxWSFrameSize) ∧
      ((wsReceiver (getMaxWSFrameSize p) (getMaxWSBufferSize p) (fun n _ => (n, .none))
        fun n _ _ => (n + 1, true)).readAll ({ state := .open }, 0)
        [[smallFrame, smallFrame, smallFrame].flatMap ClientFrame.encode]).2 = false := by
  refine ⟨by decide +kernel, ?_, by decide +kernel, ?_, by decide +kernel⟩
  · simp [LegalFrame, smallConfig]
  · simp [smallFrame, smallConfig]

end Sgate.Gateway
