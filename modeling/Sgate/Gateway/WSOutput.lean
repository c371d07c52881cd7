import Sgate.Connection.Output
import Sgate.Gateway.WebSocket
import Sgate.Lib.Transition

/-! # What a WebSocket client receives

A connection on a WebSocket port is framed as a TCP connection until the handshake was answered and
`SetWS` was called; a push reads the flag, frames its message and hands it to `AsyncWrite`. An `Endpoint`
is such a connection with everything that can write to it. -/

namespace Sgate.Gateway.WSOutput

open LoginPath Output WSOutput List

/-! ## Texts -/

def ascii (text : String) : Bytes := text.toList.map fun ch => UInt8.ofNat ch.toNat

/-- `strings.Split data "\r\n"`. -/
def splitLines : Bytes → List Bytes
  | [] => [[]]
  | [b] => [[b]]
  | b :: c :: data =>
    if b = 13 ∧ c = 10 then [] :: splitLines data
    else
      match splitLines (c :: data) with
      | [] => [[b]]
      | line :: lines => (b :: line) :: lines

/-- `strings.Cut line ": "`. -/
def cutHeader (line : Bytes) : Option (Bytes × Bytes) :=
  (indexOf (ascii ": ") line).map fun i => (line.take i, line.drop (i + 2))

/-- Functions of the standard library: `strings.Fields`, `strings.ToLower`, and the SHA-1 sum of a
text in Base64. -/
structure TextLib where
  fields : Bytes → List Bytes
  toLower : Bytes → Bytes
  sha1Base64 : Bytes → Bytes

def wsMagicString : Bytes := ascii "258EAFA5-E914-47DA-95CA-C5AB0DC85B11"

/-- The headers up to the first empty line. -/
def headersOf (lib : TextLib) (lines : List Bytes) : List (Bytes × Bytes) :=
  ((lines.takeWhile (· ≠ [])).filterMap cutHeader).map fun h => (lib.toLower h.1, h.2)

/-- The value of a header: the last one given, empty if there is none. -/
def headerValue (headers : List (Bytes × Bytes)) (name : Bytes) : Bytes :=
  ((headers.reverse.find? (·.1 = name)).map (·.2)).getD []

/-- The checks of `handleWebSocketHandshake`: the key of the client, `none` where it answers 400. -/
def handshakeKey (lib : TextLib) (data : Bytes) : Option Bytes :=
  match splitLines data with
  | reqLine :: line :: lines =>
    if (lib.fields reqLine).length ≠ 3 then none
    else
      let headers := headersOf lib (line :: lines)
      if headerValue headers (ascii "upgrade") ≠ ascii "websocket" then none
      else
        let key := headerValue headers (ascii "sec-websocket-key")
        if key = [] then none else some key
  | _ => none

def switchingProtocols (accept : Bytes) : Bytes :=
  ascii "HTTP/1.1 101 Switching Protocols\r\n" ++ ascii "Upgrade: websocket\r\n" ++
    ascii "Connection: Upgrade\r\n" ++ (ascii "Sec-WebSocket-Accept: " ++ accept ++ crlf) ++ crlf

/-- `sendHTTPResponse`, with the headers in the order in which the map gives them. -/
def httpResponse (statusCode : ℕ) (statusText : String) (headers : List (String × String)) : Bytes :=
  ascii "HTTP/1.1 " ++ ascii (toString statusCode) ++ ascii " " ++ ascii statusText ++ crlf ++
    headers.flatMap (fun h => ascii h.1 ++ ascii ": " ++ ascii h.2 ++ crlf) ++ crlf

/-- The answer to a bad handshake, in one of the two orders of its headers. -/
def badRequest (typeFirst : Bool) : Bytes :=
  httpResponse 400 "Bad Request"
    (if typeFirst then [("Content-Type", "text/plain"), ("Connection", "close")]
    else [("Connection", "close"), ("Content-Type", "text/plain")])

/-! ## A connection and its writers -/

/-- Where `OnTraffic` stands. -/
inductive Reading
  | idle
  /-- The handshake was answered, and `rest` was read behind it. -/
  | upgraded (rest : Bytes)
  /-- In the loop over the frames. -/
  | parsing
  deriving DecidableEq

/-- A connection on a WebSocket port. -/
structure Endpoint where
  ws : WebSocketConnection := {}
  reading : Reading := .idle
  /-- The flag of the connection that `Send` and `FlushCoalesced` read. -/
  isWS : Bool := false
  /-- `GetConnection` finds the connection. -/
  registered : Bool := true
  buffer : Buffer := {}
  /-- Buffers that a flush took and has not framed yet. -/
  taken : List Bytes := []
  /-- Framed, and not yet handed to `AsyncWrite`. -/
  framed : List Bytes := []
  /-- Handed to `AsyncWrite`, and not yet written. -/
  queue : List Bytes := []
  /-- The bytes written to the socket. -/
  output : Bytes := []
  closed : Bool := false
  deriving DecidableEq

/-- What the gateway makes of a data frame. -/
inductive Answer
  | invalid (errorFrame : Bytes)
  /-- Handed to a login goroutine or to a worker, or processed without an answer. -/
  | handled
  /-- A refusal of a login or of the pipeline. -/
  | replied (frame : Bytes)
  /-- A logout with its acknowledgement. -/
  | loggedOut (ack : Bytes)
  deriving DecidableEq

def Answer.message : Answer → Bytes
  | .invalid frame | .replied frame | .loggedOut frame => frame
  | .handled => []

namespace Endpoint

/-- The socket is closed, and `OnClose` runs. -/
def close (e : Endpoint) : Endpoint :=
  { e with
    ws := { e.ws with state := .closed }, reading := .idle, registered := false, closed := true }

def setState (e : Endpoint) (state : WSState) : Endpoint := { e with ws := { e.ws with state := state } }

/-- `RemoveConnection`. -/
def remove (e : Endpoint) : Endpoint := { e with registered := false }

def addFramed (e : Endpoint) (data : Bytes) : Endpoint := { e with framed := e.framed ++ [data] }

def asyncWrite (e : Endpoint) (data : Bytes) : Endpoint := { e with queue := e.queue ++ [data] }

def write (e : Endpoint) (data : Bytes) : Endpoint := { e with output := e.output ++ data }

/-- `conn.SetWS true`, for the connection found in the manager. -/
def setWS (e : Endpoint) : Endpoint := if e.registered then { e with isWS := true } else e

/-- `sendWebSocketMessage`; the answer says whether it was sent. -/
def sendWebSocketMessage (e : Endpoint) (opCode : UInt8) (payload : Bytes) : Endpoint × Bool :=
  if e.ws.state = .open then (e.write (encodeWSFrame (opCode ||| 0x80) payload), true) else (e, false)

/-- `handleWebSocketDataFrame`. At a logout `SendThenClose` is called from the event loop. -/
def handleWebSocketDataFrame (e : Endpoint) : Answer → Endpoint × Bool
  | .invalid errorFrame => e.sendWebSocketMessage wsOpBinary errorFrame
  | .handled => (e.setWS, true)
  | .replied frame => e.setWS.sendWebSocketMessage wsOpBinary frame
  | .loggedOut ack =>
    let e := e.setWS.setState .closing
    -- a connection that is gone is closed without an acknowledgement
    if e.registered then (e.asyncWrite (Output.framed e.isWS ack), true) else (e, true)

def handleWebSocketCloseFrame (e : Endpoint) : Endpoint :=
  ((e.write [0x88, 0x02, 0x03, 0xE8]).setState .closed).remove

def processWebSocketFrame (answer : Answer) (e : Endpoint) (opCode : UInt8) (payload : Bytes) :
    Endpoint × Bool :=
  if opCode = wsOpClose then (e.handleWebSocketCloseFrame, true)
  else if opCode = wsOpPing then (e.write (encodeWSFrame 0x8A payload), true)
  else if opCode = wsOpPong then (e, true)
  else if opCode = wsOpText ∨ opCode = wsOpBinary then e.handleWebSocketDataFrame answer
  else (e, true)

/-- One pass of the loop of `handleWebSocketMessage`. The loop has the buffers, the handler of the
frame may have changed the state. -/
def pass (maxFrameSize : ℕ) (answer : Answer) (e : Endpoint) : Endpoint :=
  match parseWebSocketFrame e.ws.pending maxFrameSize with
  | .error _ => e.close
  | .ok none => { e with reading := .idle }
  | .ok (some f) =>
    let r := onWSFrame maxFrameSize (processWebSocketFrame answer) (e.ws.overwrite f.buffer) e f
    let ws : WebSocketConnection := { r.1 with state := r.2.1.ws.state }
    if r.2.2 = false then close { r.2.1 with ws := ws }
    else
      let ws : WebSocketConnection := { ws with bufOff := ws.bufOff + f.frameSize }
      if ws.bufOff = ws.buffer.length then
        { r.2.1 with ws := { ws with buffer := [], bufOff := 0 }, reading := .idle }
      else { r.2.1 with ws := ws }

/-- `handleWebSocketMessage` during the handshake, up to its answer. -/
def readHandshake (lib : TextLib) (e : Endpoint) (data : Bytes) (typeFirst : Bool) : Endpoint :=
  if maxWSHandshakeSize < e.ws.buffer.length + data.length then (e.write (badRequest typeFirst)).close
  else
    let ws := { e.ws with buffer := e.ws.buffer ++ data }
    match indexOf (crlf ++ crlf) ws.buffer with
    | none => { e with ws := ws }
    | some idx =>
      match handshakeKey lib (ws.buffer.take (idx + 4)) with
      | none => (write { e with ws := ws } (badRequest typeFirst)).close
      | some key =>
        { e.write (switchingProtocols (lib.sha1Base64 (key ++ wsMagicString))) with
          ws := { ws with state := .open }
          reading := .upgraded (ws.buffer.drop (idx + 4)) }

/-- `handleWebSocketMessage` behind the handshake, up to its loop. -/
def readFrames (maxBufferSize : ℕ) (e : Endpoint) (data : Bytes) : Endpoint :=
  let ws := e.ws.shift
  if maxBufferSize < ws.buffer.length + data.length then
    close { e with ws := { ws with buffer := [] } }
  else { e with ws := { ws with buffer := ws.buffer ++ data }, reading := .parsing }

end Endpoint

inductive Action
  | read (data : Bytes) (typeFirst : Bool)
  /-- The handshake goes on behind its answer. -/
  | setWS
  /-- A pass of the loop over the frames. -/
  | pass (answer : Answer)
  /-- `Send` or `SendThenClose` reads the flag and frames its message. -/
  | send (data : Bytes)
  /-- `sendWebSocketMessageAsync` finds the connection open and frames its message. -/
  | sendAsync (payload : Bytes)
  | appendCoalesced (payload : Bytes)
  /-- `FlushCoalesced` takes the buffer. -/
  | take
  /-- `FlushCoalesced` reads the flag and frames a buffer it took. -/
  | reframe (i : ℕ)
  /-- A message that was framed is handed to `AsyncWrite`. -/
  | asyncWrite (i : ℕ)
  /-- The event loop writes the first message of its queue. -/
  | flushQueue
  | remove
  /-- `applyAsyncResult` gives up an open connection. -/
  | giveUp
  /-- The socket is closed, by the peer or after a call of `Close` (of `SendThenClose`, say). -/
  | close
  deriving DecidableEq

/-- The library functions and the limits in force. A limit is a positive `int`. -/
structure Env where
  lib : TextLib
  maxFrameSize : ℕ
  maxBufferSize : ℕ
  maxFrameSize_lt : maxFrameSize < 2 ^ 63

/-- One step. The event loop reads, writes its queue and closes one after the other. -/
def step (env : Env) (e : Endpoint) : Action → Option Endpoint
  | .read data typeFirst =>
    if e.closed = true ∨ e.reading ≠ .idle then none
    else if e.ws.state = .handshake then some (e.readHandshake env.lib data typeFirst)
    else some (e.readFrames env.maxBufferSize data)
  | .setWS =>
    match e.reading with
    | .upgraded rest =>
      some { e.setWS with
        ws := { e.ws with buffer := rest, bufOff := 0 }
        reading := if rest = [] then .idle else .parsing }
    | _ => none
  | .pass answer => if e.reading = .parsing then some (e.pass env.maxFrameSize answer) else none
  | .send data => some (e.addFramed (Output.framed e.isWS data))
  | .sendAsync payload =>
    if e.ws.state = .open then some (e.addFramed (encodeWSFrame (wsOpBinary ||| 0x80) payload))
    else none
  | .appendCoalesced payload => some { e with buffer := e.buffer.appendCoalesced payload }
  | .take =>
    if e.buffer.coalescedCount = 0 then none
    else some { e with buffer := {}, taken := e.taken ++ [e.buffer.coalescedData] }
  | .reframe i =>
    match e.taken[i]? with
    | none => none
    | some data =>
      some (Endpoint.addFramed { e with taken := e.taken.eraseIdx i } (outgoing e.isWS data))
  | .asyncWrite i =>
    match e.framed[i]? with
    | none => none
    | some data => some (Endpoint.asyncWrite { e with framed := e.framed.eraseIdx i } data)
  | .flushQueue =>
    if e.closed = true ∨ e.reading ≠ .idle then none
    else
      match e.queue with
      | [] => none
      | data :: queue => some (Endpoint.write { e with queue := queue } data)
  | .remove => some e.remove
  | .giveUp => if e.ws.state = .open then some (e.setState .closing) else none
  | .close => if e.reading = .idle then some e.close else none
/-! ## Well-formed output -/

/-- An unmasked, unfragmented frame of a known kind, and nothing behind it. -/
def IsFrame (b : Bytes) : Prop :=
  ∃ h, readHeader b = some h ∧ h.fin = true ∧ h.masked = false ∧
    h.opCode ∈ [wsOpText, wsOpBinary, wsOpClose, wsOpPing, wsOpPong] ∧ b.length = h.frameSize

def Frames (b : Bytes) : Prop := ∃ fs : List Bytes, (∀ f ∈ fs, IsFrame f) ∧ b = fs.flatten

def HTTPError (b : Bytes) : Prop :=
  ∃ code text headers, 400 ≤ code ∧ code < 600 ∧ b = httpResponse code text headers

/-- What a WebSocket client may receive: nothing, an HTTP error, or one 101 response and frames. -/
def WellFormed (b : Bytes) : Prop :=
  b = [] ∨ HTTPError b ∨ ∃ accept fs, Frames fs ∧ b = switchingProtocols accept ++ fs

variable {b : Bytes}

theorem IsFrame.frames (h : IsFrame b) : Frames b := ⟨[b], by simpa using h, by simp⟩

theorem frames_nil : Frames [] := ⟨[], by simp, rfl⟩

theorem Frames.append {b c : Bytes} (hb : Frames b) (hc : Frames c) : Frames (b ++ c) := by
  obtain ⟨fs, hfs, rfl⟩ := hb
  obtain ⟨gs, hgs, rfl⟩ := hc
  refine ⟨fs ++ gs, fun f hf => ?_, by rw [flatten_append]⟩
  rcases mem_append.mp hf with hf | hf
  · exact hfs f hf
  · exact hgs f hf

theorem short_length : ∀ n : Fin 126, (UInt8.ofNat n &&& 0x7F).toNat = n ∧
    (UInt8.ofNat n &&& 0x80 != 0) = false := by
  decide +kernel

variable {payload : Bytes}

/-- The header that `EncodeWSFrame` writes. -/
theorem readHeader_encodeWSFrame (first : UInt8) (hlen : payload.length < 2 ^ 64) :
    ∃ head : Bytes, encodeWSFrame first payload = head ++ payload ∧
      readHeader (encodeWSFrame first payload) =
        some ⟨first &&& 0x80 != 0, first &&& 0x0F, false, payload.length, head.length⟩ := by
  unfold encodeWSFrame
  by_cases hshort : payload.length < 126
  · obtain ⟨hlow, hmask⟩ := short_length ⟨payload.length, hshort⟩
    have hext : extLength (UInt8.ofNat payload.length) = ([] : Bytes).length := by
      rw [extLength, hlow, if_neg (by omega), if_neg (by omega)]
      rfl
    have hread := readHeader_cons first hext hlow payload
    rw [hmask] at hread
    rw [if_pos hshort]
    exact ⟨[first, UInt8.ofNat payload.length], rfl, hread⟩
  · rw [if_neg hshort]
    by_cases hmedium : payload.length ≤ 65535
    · rw [if_pos hmedium,
        readHeader_cons (n := payload.length) first (by rw [length_bigEndian]; decide)]
      · exact ⟨first :: 126 :: bigEndian 2 payload.length, rfl, rfl⟩
      · rw [length_bigEndian, if_neg (by omega), uintBE_bigEndian (by omega)]
    · rw [if_neg hmedium,
        readHeader_cons (n := payload.length) first (by rw [length_bigEndian]; decide)]
      · exact ⟨first :: 127 :: bigEndian 8 payload.length, rfl, rfl⟩
      · rw [length_bigEndian, if_neg (by omega), uintBE_bigEndian (by simpa using hlen)]

/-- **`EncodeWSFrame` writes a frame.** -/
theorem isFrame_encodeWSFrame {first : UInt8} {payload : Bytes} (hfin : first &&& 0x80 ≠ 0)
    (hop : first &&& 0x0F ∈ [wsOpText, wsOpBinary, wsOpClose, wsOpPing, wsOpPong])
    (hlen : payload.length < 2 ^ 64) : IsFrame (encodeWSFrame first payload) := by
  obtain ⟨head, hframe, hread⟩ := readHeader_encodeWSFrame first hlen
  refine ⟨_, hread, by simpa using hfin, rfl, hop, ?_⟩
  rw [hframe, length_append]
  rfl

theorem isFrame_wsBinaryFrame (hlen : payload.length < 2 ^ 64) : IsFrame (wsBinaryFrame payload) :=
  isFrame_encodeWSFrame (by decide) (by decide) hlen

/-! ## The invariant -/

/-- Messages in the framing of TCP, with lengths that four bytes hold. -/
def Coalesced (data : Bytes) : Prop :=
  ∃ ps : List Bytes, (∀ p ∈ ps, p.length < 256 ^ 4) ∧ data = ps.flatMap writeFrame

/-- A flag that is read was set before, and messages have lengths that Go allows: below `2 ^ 63`, and
below `2 ^ 32` where four bytes hold the length. -/
def FramedInTime (e : Endpoint) : Action → Prop
  | .send data => e.isWS = true ∧ data.length < 2 ^ 63
  | .reframe _ => e.isWS = true
  | .appendCoalesced payload => payload.length < 2 ^ 32
  | .sendAsync payload => payload.length < 2 ^ 63
  | .pass answer => answer.message.length < 2 ^ 63
  | _ => True

instance (e : Endpoint) : DecidablePred (FramedInTime e) := fun a => by
  unfold FramedInTime
  split <;> infer_instance

/-- The handshake was answered, and then frames were written. -/
structure Speaking (e : Endpoint) : Prop where
  output : ∃ accept fs, Frames fs ∧ e.output = switchingProtocols accept ++ fs
  state : e.ws.state ≠ .handshake

/-- What is on its way to the socket will be frames. -/
structure OnTheWay (e : Endpoint) : Prop where
  framed : ∀ data ∈ e.framed, Frames data
  queue : ∀ data ∈ e.queue, Frames data
  buffer : Coalesced e.buffer.coalescedData
  taken : ∀ data ∈ e.taken, Coalesced data

/-- Before the handshake: nothing was written and nothing is on its way. -/
structure Waiting (e : Endpoint) : Prop where
  output : e.output = []
  isWS : e.isWS = false
  framed : e.framed = []
  queue : e.queue = []
  reading : e.reading = .idle
  state : e.ws.state = .handshake ∨ e.closed = true ∧ e.ws.state = .closed

structure Refused (e : Endpoint) : Prop where
  output : HTTPError e.output
  reading : e.reading = .idle
  closed : e.closed = true

/-- The invariant of a connection whose pushes are framed in time. -/
structure Sound (maxFrameSize : ℕ) (e : Endpoint) : Prop where
  phase : Waiting e ∨ Refused e ∨ Speaking e
  onTheWay : OnTheWay e
  frag : e.ws.fragBuf.length ≤ maxFrameSize

section Invariant

variable {env : Env} {e e' : Endpoint} {a : Action}

theorem coalesced_nil : Coalesced [] := ⟨[], by simp, rfl⟩

theorem Coalesced.append {data payload : Bytes} (h : Coalesced data)
    (hlen : payload.length < 256 ^ 4) : Coalesced (data ++ writeFrame payload) := by
  obtain ⟨ps, hps, rfl⟩ := h
  exact ⟨ps ++ [payload], forall_mem_append.mpr ⟨hps, forall_mem_singleton.mpr hlen⟩, by simp⟩

variable {data : Bytes}

theorem Coalesced.frames_outgoing (h : Coalesced data) : Frames (outgoing true data) := by
  obtain ⟨ps, hps, rfl⟩ := h
  rw [outgoing_flatMap fun _ => hps]
  refine ⟨ps.map wsBinaryFrame, fun f hf => ?_, rfl⟩
  obtain ⟨p, hp, rfl⟩ := mem_map.mp hf
  exact isFrame_wsBinaryFrame ((hps p hp).trans_le (by decide))

theorem Speaking.write (h : Speaking e) {data : Bytes} (hdata : Frames data) :
    Speaking (e.write data) := by
  obtain ⟨⟨accept, fs, hfs, hout⟩, hstate⟩ := h
  refine ⟨⟨accept, fs ++ data, hfs.append hdata, ?_⟩, hstate⟩
  rw [Endpoint.write, hout, append_assoc]

theorem Speaking.setWS (h : Speaking e) : Speaking e.setWS := by
  unfold Endpoint.setWS
  split
  · exact ⟨h.output, h.state⟩
  · exact h

theorem OnTheWay.setWS (h : OnTheWay e) : OnTheWay e.setWS := by
  unfold Endpoint.setWS
  split
  · exact { h with }
  · exact h

theorem isWS_setWS (h : e.setWS.registered = true) : e.setWS.isWS = true := by
  unfold Endpoint.setWS at h ⊢
  by_cases hreg : e.registered = true
  · rw [if_pos hreg]
  · rw [if_neg hreg] at h
    exact absurd h hreg

theorem OnTheWay.asyncWrite (h : OnTheWay e) (hdata : Frames data) :
    OnTheWay (e.asyncWrite data) :=
  { h with queue := forall_mem_append.mpr ⟨h.queue, forall_mem_singleton.mpr hdata⟩ }

theorem OnTheWay.addFramed (h : OnTheWay e) (hdata : Frames data) :
    OnTheWay (e.addFramed data) :=
  { h with framed := forall_mem_append.mpr ⟨h.framed, forall_mem_singleton.mpr hdata⟩ }

/-! ### Reads behind the handshake -/

/-- After the handshake, with frames on the way. -/
def Talks (e : Endpoint) : Prop := Speaking e ∧ OnTheWay e

variable {payload : Bytes}

theorem Talks.sendWebSocketMessage (h : Talks e) (hlen : payload.length < 2 ^ 63) :
    Talks (e.sendWebSocketMessage wsOpBinary payload).1 := by
  unfold Endpoint.sendWebSocketMessage
  split
  · have hframe := @isFrame_encodeWSFrame (wsOpBinary ||| 0x80) payload (by decide) (by decide)
      (hlen.trans (by decide))
    exact ⟨h.1.write hframe.frames, ⟨h.2.framed, h.2.queue, h.2.buffer, h.2.taken⟩⟩
  · exact h

theorem Talks.handleWebSocketDataFrame (h : Talks e) {answer : Answer}
    (hlen : answer.message.length < 2 ^ 63) : Talks (e.handleWebSocketDataFrame answer).1 := by
  have hset : Talks e.setWS := ⟨h.1.setWS, h.2.setWS⟩
  cases answer with
  | invalid frame => exact h.sendWebSocketMessage hlen
  | handled => exact hset
  | replied frame => exact hset.sendWebSocketMessage hlen
  | loggedOut ack =>
    -- the connection was found registered, so its flag was set
    have hclosing : Talks (e.setWS.setState .closing) :=
      ⟨⟨hset.1.output, by simp [Endpoint.setState]⟩,
        ⟨hset.2.framed, hset.2.queue, hset.2.buffer, hset.2.taken⟩⟩
    simp only [Endpoint.handleWebSocketDataFrame]
    split
    · rename_i hreg
      have hflag : (e.setWS.setState .closing).isWS = true := isWS_setWS hreg
      rw [hflag]
      refine ⟨⟨hclosing.1.output, hclosing.1.state⟩, hclosing.2.asyncWrite ?_⟩
      exact (isFrame_wsBinaryFrame (hlen.trans (by decide))).frames
    · exact hclosing

theorem Talks.processWebSocketFrame (h : Talks e) {answer : Answer}
    (hlen : answer.message.length < 2 ^ 63) (opCode : UInt8) (hpayload : payload.length < 2 ^ 63) :
    Talks (Endpoint.processWebSocketFrame answer e opCode payload).1 := by
  have hway : ∀ data, OnTheWay (e.write data) := fun data =>
    ⟨h.2.framed, h.2.queue, h.2.buffer, h.2.taken⟩
  unfold Endpoint.processWebSocketFrame
  split
  · -- the close frame is written out in the source
    have hclose : IsFrame (encodeWSFrame 0x88 [0x03, 0xE8]) :=
      isFrame_encodeWSFrame (by decide) (by decide) (by decide)
    have hwritten := h.1.write hclose.frames
    exact ⟨⟨hwritten.output, WSState.noConfusion⟩, ⟨h.2.framed, h.2.queue, h.2.buffer, h.2.taken⟩⟩
  · split
    · have hpong : IsFrame (encodeWSFrame 0x8A payload) :=
        isFrame_encodeWSFrame (by decide) (by decide) (hpayload.trans (by decide))
      exact ⟨h.1.write hpong.frames, hway _⟩
    · split
      · exact h
      · split
        · exact h.handleWebSocketDataFrame hlen
        · exact h

variable {maxFrameSize : ℕ}

theorem length_payload_of_parse {b : Bytes} {f : WSFrame}
    (h : parseWebSocketFrame b maxFrameSize = .ok (some f)) : f.payload.length ≤ maxFrameSize := by
  cases hh : readHeader b with
  | none =>
    rw [parseWebSocketFrame_of_short hh] at h
    cases h
  | some header =>
    rw [parseWebSocketFrame_of_header hh] at h
    split_ifs at h with hle
    · cases h
    · cases h
      refine le_trans ?_ (Nat.le_of_not_lt hle)
      show (header.payload b).length ≤ header.length
      unfold WSHeader.payload
      split
      · rw [length_cipher]
        exact length_take_le _ _
      · exact length_take_le _ _

/-- A property of the callback's state that it keeps on payloads within the limit is kept by the
assembly of fragments, which stay within the limit. -/
theorem onWSFrame_rule {σ : Type*} {P : σ → Prop} {maxFrameSize : ℕ}
    {fn : σ → UInt8 → Bytes → σ × Bool}
    (hfn : ∀ s op payload, P s → payload.length ≤ maxFrameSize → P (fn s op payload).1)
    {ws : WebSocketConnection} {s : σ} {f : WSFrame} (hs : P s)
    (hfrag : ws.fragBuf.length ≤ maxFrameSize) (hf : f.payload.length ≤ maxFrameSize) :
    P (onWSFrame maxFrameSize fn ws s f).2.1 ∧
      (onWSFrame maxFrameSize fn ws s f).1.fragBuf.length ≤ maxFrameSize := by
  unfold onWSFrame
  split
  · exact ⟨hs, hfrag⟩
  · split
    · split
      · exact ⟨hs, hfrag⟩
      · split
        · exact ⟨hs, hfrag⟩
        · rename_i hfits
          have hlen : (ws.fragBuf ++ f.payload).length ≤ maxFrameSize := by
            rw [length_append]
            omega
          split
          · exact ⟨hfn _ _ _ hs hlen, Nat.zero_le _⟩
          · exact ⟨hs, hlen⟩
    · split
      · exact ⟨hs, hf⟩
      · exact ⟨hfn _ _ _ hs hf, hfrag⟩

theorem Talks.congr (h : Talks e) (hstate : e'.ws.state ≠ .handshake)
    (hout : e'.output = e.output := by rfl) (hframed : e'.framed = e.framed := by rfl)
    (hqueue : e'.queue = e.queue := by rfl) (hbuffer : e'.buffer = e.buffer := by rfl)
    (htaken : e'.taken = e.taken := by rfl) : Talks e' := by
  refine ⟨⟨hout ▸ h.1.output, hstate⟩, ⟨?_, ?_, ?_, ?_⟩⟩
  · rw [hframed]
    exact h.2.framed
  · rw [hqueue]
    exact h.2.queue
  · rw [hbuffer]
    exact h.2.buffer
  · rw [htaken]
    exact h.2.taken

theorem Talks.sound (h : Talks e) (hfrag : e.ws.fragBuf.length ≤ maxFrameSize) :
    Sound maxFrameSize e := ⟨.inr (.inr h.1), h.2, hfrag⟩

/-- **A pass.** -/
theorem Talks.pass (h : Talks e) (hfrag : e.ws.fragBuf.length ≤ env.maxFrameSize) {answer : Answer}
    (hlen : answer.message.length < 2 ^ 63) :
    Sound env.maxFrameSize (e.pass env.maxFrameSize answer) := by
  have hlimit := env.maxFrameSize_lt
  unfold Endpoint.pass
  split
  · exact Talks.sound (h.congr WSState.noConfusion) hfrag
  · exact Talks.sound (h.congr h.1.state) hfrag
  · rename_i f hparse
    have hpayload := length_payload_of_parse hparse
    obtain ⟨htalks, hfrag'⟩ := @onWSFrame_rule _ Talks env.maxFrameSize
      (Endpoint.processWebSocketFrame answer)
      (fun s op payload hs hle => hs.processWebSocketFrame hlen op (by omega))
      (e.ws.overwrite f.buffer) e f h hfrag hpayload
    generalize onWSFrame env.maxFrameSize (Endpoint.processWebSocketFrame answer)
      (e.ws.overwrite f.buffer) e f = r at htalks hfrag'
    dsimp only
    split
    · exact Talks.sound (htalks.congr WSState.noConfusion) hfrag'
    · split <;> exact Talks.sound (htalks.congr htalks.1.state) hfrag'

/-! ### All steps -/

theorem httpError_badRequest (typeFirst : Bool) : HTTPError (badRequest typeFirst) :=
  ⟨400, _, _, by decide, by decide, rfl⟩

theorem Waiting.answer (h : Waiting e) (accept : Bytes) : ∃ accept' fs, Frames fs ∧
    (e.write (switchingProtocols accept)).output = switchingProtocols accept' ++ fs := by
  refine ⟨accept, [], frames_nil, ?_⟩
  rw [Endpoint.write, h.output, nil_append, append_nil]

theorem settled_congr (h : Refused e ∨ Speaking e) (hout : e'.output = e.output := by rfl)
    (hreading : e'.reading = e.reading := by rfl) (hclosed : e'.closed = e.closed := by rfl)
    (hstate : e'.ws.state = e.ws.state := by rfl) : Waiting e' ∨ Refused e' ∨ Speaking e' := by
  rcases h with h | h
  · exact .inr (.inl ⟨hout ▸ h.output, hreading ▸ h.reading, hclosed ▸ h.closed⟩)
  · exact .inr (.inr ⟨hout ▸ h.output, hstate ▸ h.state⟩)

/-- **The handshake.** -/
theorem Sound.readHandshake (h : Sound env.maxFrameSize e) (hwaiting : Waiting e) (data : Bytes)
    (typeFirst : Bool) : Sound env.maxFrameSize (e.readHandshake env.lib data typeFirst) := by
  have hway := h.onTheWay
  have hrefused (e' : Endpoint) (hout : e'.output = e.output) :
      HTTPError (e'.write (badRequest typeFirst)).output := by
    rw [Endpoint.write, hout, hwaiting.output]
    exact httpError_badRequest typeFirst
  unfold Endpoint.readHandshake
  split
  · exact ⟨.inr (.inl ⟨hrefused e rfl, rfl, rfl⟩), { hway with }, h.frag⟩
  · dsimp only
    split
    · exact ⟨.inl { hwaiting with }, { hway with }, h.frag⟩
    · split
      · exact ⟨.inr (.inl ⟨hrefused _ rfl, rfl, rfl⟩), { hway with }, h.frag⟩
      · exact ⟨.inr (.inr ⟨hwaiting.answer _, WSState.noConfusion⟩), { hway with }, h.frag⟩

theorem fragBuf_shift (ws : WebSocketConnection) : ws.shift.fragBuf = ws.fragBuf := by
  unfold WebSocketConnection.shift
  split <;> rfl

theorem state_shift (ws : WebSocketConnection) : ws.shift.state = ws.state := by
  unfold WebSocketConnection.shift
  split <;> rfl

theorem Talks.readFrames (h : Talks e) (hfrag : e.ws.fragBuf.length ≤ env.maxFrameSize)
    (data : Bytes) : Sound env.maxFrameSize (e.readFrames env.maxBufferSize data) := by
  rw [← fragBuf_shift] at hfrag
  unfold Endpoint.readFrames
  dsimp only
  split
  · exact Talks.sound (h.congr WSState.noConfusion) hfrag
  · refine Talks.sound (h.congr ?_) hfrag
    rw [state_shift]
    exact h.1.state

theorem phase_congr (h : Waiting e ∨ Refused e ∨ Speaking e)
    (hout : e'.output = e.output := by rfl) (hws : e'.isWS = e.isWS := by rfl)
    (hframed : e'.framed = e.framed := by rfl) (hqueue : e'.queue = e.queue := by rfl)
    (hreading : e'.reading = e.reading := by rfl) (hclosed : e'.closed = e.closed := by rfl)
    (hstate : e'.ws.state = e.ws.state := by rfl) : Waiting e' ∨ Refused e' ∨ Speaking e' := by
  rcases h with hw | hsettled
  · refine .inl ⟨hout.trans hw.output, hws.trans hw.isWS, hframed.trans hw.framed,
      hqueue.trans hw.queue, hreading.trans hw.reading, ?_⟩
    rw [hstate, hclosed]
    exact hw.state
  · exact settled_congr hsettled hout hreading hclosed hstate

section

variable (h : Sound env.maxFrameSize e)
include h

/-- **A read**, of the handshake or of frames. -/
theorem Sound.read {typeFirst : Bool} (hstep : step env e (.read data typeFirst) = some e') :
    Sound env.maxFrameSize e' := by
  simp only [step] at hstep
  split at hstep
  · cases hstep
  · rename_i hopen
    obtain ⟨hclosed, hidle⟩ := not_or.mp hopen
    split at hstep <;> cases hstep
    · rename_i hstate
      rcases h.phase with hwaiting | hrefused | hspeaking
      · exact h.readHandshake hwaiting data typeFirst
      · exact absurd hrefused.closed hclosed
      · exact absurd hstate hspeaking.state
    · rename_i hstate
      rcases h.phase with hwaiting | hrefused | hspeaking
      · exact absurd hwaiting.state (by simp [hstate, hclosed])
      · exact absurd hrefused.closed hclosed
      · exact Talks.readFrames ⟨hspeaking, h.onTheWay⟩ h.frag data

theorem Sound.take :
    Sound env.maxFrameSize { e with buffer := {}, taken := e.taken ++ [e.buffer.coalescedData] } := by
  have hway := h.onTheWay
  have htaken := forall_mem_append.mpr ⟨hway.taken, forall_mem_singleton.mpr hway.buffer⟩
  exact ⟨phase_congr h.phase, ⟨hway.framed, hway.queue, coalesced_nil, htaken⟩, h.frag⟩

theorem Sound.reframe (hflag : e.isWS = true) {i : ℕ} (hdata : e.taken[i]? = some data) :
    Sound env.maxFrameSize
      (Endpoint.addFramed { e with taken := e.taken.eraseIdx i } (outgoing e.isWS data)) := by
  have hway := h.onTheWay
  have hsettled := h.phase.resolve_left fun hw => by simp [hw.isWS] at hflag
  have hleft : OnTheWay { e with taken := e.taken.eraseIdx i } :=
    { hway with taken := fun d hd => hway.taken d (mem_of_mem_eraseIdx hd) }
  refine ⟨settled_congr hsettled, hleft.addFramed ?_, h.frag⟩
  rw [hflag]
  exact (hway.taken data (mem_of_getElem? hdata)).frames_outgoing

theorem Sound.asyncWrite {i : ℕ} (hdata : e.framed[i]? = some data) :
    Sound env.maxFrameSize (Endpoint.asyncWrite { e with framed := e.framed.eraseIdx i } data) := by
  have hway := h.onTheWay
  have hmem := mem_of_getElem? hdata
  have hsettled := h.phase.resolve_left fun hw => by simp [hw.framed] at hmem
  have hleft : OnTheWay { e with framed := e.framed.eraseIdx i } :=
    { hway with framed := fun d hd => hway.framed d (mem_of_mem_eraseIdx hd) }
  exact ⟨settled_congr hsettled, hleft.asyncWrite (hway.framed data hmem), h.frag⟩

theorem Sound.flushQueue (hstep : step env e .flushQueue = some e') :
    Sound env.maxFrameSize e' := by
  have hway := h.onTheWay
  simp only [step] at hstep
  split at hstep
  · cases hstep
  · rename_i hopen
    split at hstep <;> cases hstep
    rename_i data queue hqueue
    have hframes : ∀ d ∈ data :: queue, Frames d := hqueue ▸ hway.queue
    rcases h.phase with hw | hrefused | hspeaking
    · simp [hw.queue] at hqueue
    · exact absurd (Or.inl hrefused.closed) hopen
    · have hleft : Speaking { e with queue := queue } := ⟨hspeaking.output, hspeaking.state⟩
      refine ⟨.inr (.inr (hleft.write (hframes data mem_cons_self))), ?_, h.frag⟩
      exact { hway with queue := fun d hd => hframes d (mem_cons_of_mem data hd) }

end

theorem Sound.speaking_of_reading (h : Sound maxFrameSize e) (hreading : e.reading ≠ .idle) :
    Speaking e := by
  rcases h.phase with hwaiting | hrefused | hspeaking
  · exact absurd hwaiting.reading hreading
  · exact absurd hrefused.reading hreading
  · exact hspeaking

section

variable (h : Sound env.maxFrameSize e)
include h

theorem Sound.giveUp (hstep : step env e .giveUp = some e') :
    Sound env.maxFrameSize e' := by
  have ⟨hphase, hway, hfrag⟩ := h
  simp only [step] at hstep
  split at hstep <;> cases hstep
  rename_i hopen
  refine ⟨?_, { hway with }, hfrag⟩
  rcases hphase with hw | hrefused | hspeaking
  · exact absurd hw.state (by simp [hopen])
  · exact .inr (.inl { hrefused with })
  · exact .inr (.inr ⟨hspeaking.output, WSState.noConfusion⟩)

theorem Sound.close (hstep : step env e .close = some e') : Sound env.maxFrameSize e' := by
  have ⟨hphase, hway, hfrag⟩ := h
  simp only [step] at hstep
  split at hstep <;> cases hstep
  refine ⟨?_, { hway with }, hfrag⟩
  rcases hphase with hw | hrefused | hspeaking
  · exact .inl { hw with reading := rfl, state := .inr ⟨rfl, rfl⟩ }
  · exact .inr (.inl ⟨hrefused.output, rfl, rfl⟩)
  · exact .inr (.inr ⟨hspeaking.output, WSState.noConfusion⟩)

/-- **One step.** A step that frames in time keeps the invariant. -/
theorem Sound.step (hintime : FramedInTime e a) (hstep : step env e a = some e') :
    Sound env.maxFrameSize e' := by
  have ⟨hphase, hway, hfrag⟩ := h
  cases a with
  | read data typeFirst => exact h.read hstep
  | setWS =>
    simp only [step] at hstep
    split at hstep <;> cases hstep
    rename_i rest hreading
    have hspeaking := h.speaking_of_reading (by simp [hreading])
    have hset : Talks e.setWS := ⟨hspeaking.setWS, hway.setWS⟩
    exact Talks.sound (hset.congr hspeaking.state) hfrag
  | pass answer =>
    simp only [step] at hstep
    split at hstep <;> cases hstep
    rename_i hreading
    exact Talks.pass ⟨h.speaking_of_reading (by simp [hreading]), hway⟩ hfrag hintime
  | send data =>
    cases hstep
    obtain ⟨hflag, hlen⟩ := hintime
    have hframe : Frames (Output.framed e.isWS data) := by
      rw [hflag]
      exact (isFrame_wsBinaryFrame (hlen.trans (by decide))).frames
    have hsettled := hphase.resolve_left fun hw => by simp [hw.isWS] at hflag
    exact ⟨settled_congr hsettled, hway.addFramed hframe, hfrag⟩
  | sendAsync payload =>
    simp only [step] at hstep
    split at hstep <;> cases hstep
    rename_i hopen
    have hsettled := hphase.resolve_left fun hw => by simpa [hopen] using hw.state
    have hframe := @isFrame_encodeWSFrame (wsOpBinary ||| 0x80) payload (by decide) (by decide)
      (lt_trans hintime (by decide))
    exact ⟨settled_congr hsettled, hway.addFramed hframe.frames, hfrag⟩
  | appendCoalesced payload =>
    cases hstep
    exact ⟨phase_congr hphase,
      { hway with buffer := hway.buffer.append hintime }, hfrag⟩
  | take =>
    simp only [step] at hstep
    split at hstep <;> cases hstep
    exact h.take
  | reframe i =>
    simp only [step] at hstep
    split at hstep <;> cases hstep
    rename_i data hdata
    exact h.reframe hintime hdata
  | asyncWrite i =>
    simp only [step] at hstep
    split at hstep <;> cases hstep
    rename_i data hdata
    exact h.asyncWrite hdata
  | flushQueue => exact h.flushQueue hstep
  | remove =>
    cases hstep
    exact ⟨phase_congr hphase, { hway with }, hfrag⟩
  | giveUp => exact h.giveUp hstep
  | close => exact h.close hstep

end

theorem Sound.wellFormed (h : Sound maxFrameSize e) : WellFormed e.output := by
  rcases h.phase with hwaiting | hrefused | hspeaking
  · exact .inl hwaiting.output
  · exact .inr (.inl hrefused.output)
  · exact .inr (.inr hspeaking.output)

theorem sound_opened (maxFrameSize : ℕ) : Sound maxFrameSize {} where
  phase := .inl ⟨rfl, rfl, rfl, rfl, rfl, .inl rfl⟩
  onTheWay := ⟨by simp, by simp, coalesced_nil, by simp⟩
  frag := Nat.zero_le _

/-- **A WebSocket client receives well-formed output.** In every interleaving in which no push reads
the flag before `SetWS`, the bytes written are nothing, an HTTP error, or one 101 response followed by
unmasked frames. -/
theorem wellFormed_of_framedInTime (env : Env) {as : List Action}
    (hintime : Transition.Guarded (step env) FramedInTime {} as)
    (hrun : Transition.run (step env) {} as = some e) : WellFormed e.output :=
  (Transition.run_invariant (fun _ _ _ hs ha hstep => Sound.step hs ha hstep)
    (sound_opened env.maxFrameSize) hintime hrun).wellFormed

end Invariant

/-- Fields are separated by blanks, letters have a lower case, and keys are accepted as they are. -/
def plainText : TextLib where
  fields line := (line.splitOn 32).filter (· ≠ [])
  toLower name := name.map fun b => if 65 ≤ b ∧ b ≤ 90 then b + 32 else b
  sha1Base64 key := key

def smallFrames : Env := ⟨plainText, 100, 1000, by decide⟩

def upgradeRequest : Bytes :=
  ascii "GET / HTTP/1.1\r\nUpgrade: websocket\r\nSec-WebSocket-Key: k\r\n\r\n"

/-- A broadcast is buffered before the handshake; a push is sent, and the buffer is flushed, behind
it. -/
def bufferedUntilUpgrade : List Action :=
  [.appendCoalesced [7], .read upgradeRequest true, .setWS, .send [1], .asyncWrite 0, .flushQueue,
    .take, .reframe 0, .asyncWrite 0, .flushQueue]

theorem wellFormed_of_framedInTime_upgrade :
    ∃ e, Transition.run (step smallFrames) {} bufferedUntilUpgrade = some e ∧ e.isWS = true ∧
      WellFormed e.output := by
  have hintime : Transition.Guarded (step smallFrames) FramedInTime {} bufferedUntilUpgrade := by
    decide +kernel
  obtain ⟨e, hrun, hflag⟩ : ∃ e,
      Transition.run (step smallFrames) {} bufferedUntilUpgrade = some e ∧ e.isWS = true :=
    ⟨_, rfl, rfl⟩
  exact ⟨e, hrun, hflag, wellFormed_of_framedInTime smallFrames hintime hrun⟩

theorem WellFormed.head (h : WellFormed b) : b = [] ∨ b.head? = some 72 := by
  rcases h with h | ⟨code, text, headers, -, -, rfl⟩ | ⟨accept, fs, -, rfl⟩
  · exact .inl h
  · exact .inr rfl
  · exact .inr rfl

/-- A broadcast reaches a connection that was accepted and has not sent its handshake: the client
receives the length prefix of TCP and the message. -/
theorem pushed_before_handshake :
    ∃ e, Transition.run (step smallFrames) {} [.send [7], .asyncWrite 0, .flushQueue] = some e ∧
      e.ws.state = .handshake ∧ e.output = [0, 0, 0, 1, 7] ∧ ¬ WellFormed e.output := by
  refine ⟨_, rfl, rfl, by decide, fun h => ?_⟩
  rcases h.head with h | h <;> revert h <;> decide

end Sgate.Gateway.WSOutput
