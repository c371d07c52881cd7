import Sgate.Config.Components
import Sgate.Gateway.Fragments

/-! # Idle connections

`checkIdleConnections` closes a connection when its stamp `LastActive` is older than the timeout. The
stamp is written for a new connection, for a message of the client that decodes, and for every 64th
message that is sent to it. Handling, sending and checking read the clock first, and write or read the
stamp later. -/

namespace Sgate.IdleCheck

open Gateway Transition Routes
open HotUpdate (millisecond)

inductive Fate
  | open
  /-- Closed by the client or by a handler. -/
  | left
  /-- Closed by the pass that began at the given time, with its timeout. -/
  | reaped (t timeout : ℤ)
  deriving DecidableEq

inductive InHand
  | nothing
  | tcp (data : Bytes)
  | ws (f : MaskedFrame)
  /-- `TouchActive` has read the clock. -/
  | stamp (s : ℤ)
  deriving DecidableEq

/-- A connection, as far as the checker is concerned. -/
structure Idle where
  /-- The last reading of the clock. -/
  clock : ℤ
  isWS : Bool
  ws : WebSocketConnection
  /-- `LastActive`, in milliseconds. -/
  lastActive : ℤ
  activitySeq : ℕ
  inHand : InHand
  /-- What calls of `touch` have read and not written yet. -/
  touching : List ℤ
  /-- The pass of the checker that has not come to this connection yet: when it began, and its
  timeout. -/
  pass : Option (ℤ × ℤ)
  fate : Fate
  /-- When frames were received. -/
  frames : List ℤ

/-- `newConnection`, by TCP or WebSocket. -/
def Idle.newConnection (isWS : Bool) (now : ℤ) : Idle where
  clock := now
  isWS := isWS
  ws := { state := .open }
  lastActive := now / millisecond
  activitySeq := 0
  inHand := .nothing
  touching := []
  pass := none
  fate := .open
  frames := []

/-- What happens to a connection; `d` is the time since the last reading of the clock. -/
inductive IdleAction
  | tcpFrame (data : Bytes) (d : ℕ)
  /-- A frame of a WebSocket is received. -/
  | wsFrame (f : MaskedFrame) (d : ℕ)
  /-- The frame in hand is handled, up to the clock of `TouchActive`. -/
  | handle (d : ℕ)
  /-- `TouchActive` writes the stamp. -/
  | touchActive
  /-- `touch` of a message that is sent. -/
  | touch (d : ℕ)
  /-- A call of `touch` that read `s` writes it. -/
  | touched (s : ℤ)
  /-- A pass of the checker begins. -/
  | beginCheck (timeout : ℤ) (d : ℕ)
  /-- The pass comes to the connection. -/
  | inspect
  /-- The connection is closed otherwise, as by a handler that fails. -/
  | leave
  deriving DecidableEq

/-- What the handler of a frame comes to. -/
inductive Settled
  | passes
  | touches
  | closes
  deriving DecidableEq

namespace Idle

/-- `handleTCPRequest` up to `TouchActive`. -/
def handleTCPRequest (pw : Protowire) (data : Bytes) : Settled :=
  match decodeClientMessage pw data with
  | none => .closes
  | some _ => .touches

/-- `handleWebSocketDataFrame` up to `TouchActive`. -/
def handleWebSocketDataFrame (pw : Protowire) (payload : Bytes) : Settled :=
  match decodeClientMessage pw payload with
  -- the client gets an error frame, and the connection stays open
  | none => .passes
  | some message => if message.cmd = 0 then .passes else .touches

def processWebSocketFrame (pw : Protowire) (_ : Settled) (opCode : UInt8) (payload : Bytes) :
    Settled × Bool :=
  if opCode = wsOpClose then (.closes, true)
  -- ping and pong set `LastPingTime`, which the checker does not read
  else if opCode = wsOpPing then (.passes, true)
  else if opCode = wsOpPong then (.passes, true)
  else if isData opCode then (handleWebSocketDataFrame pw payload, true)
  else (.passes, true)

/-- A frame is received, if the one before was handled. -/
def receive (w : Idle) (h : InHand) (now : ℤ) : Option Idle :=
  if w.inHand = .nothing then some { w with clock := now, inHand := h, frames := now :: w.frames }
  else none

/-- The handler came to `h`. -/
def settle (w : Idle) (h : Settled) (now : ℤ) : Idle :=
  match h with
  | .passes => { w with clock := now, inHand := .nothing }
  | .touches => { w with clock := now, inHand := .stamp (now / millisecond) }
  | .closes => { w with clock := now, inHand := .nothing, fate := .left }

/-- A WebSocket frame goes through the loop of `handleWebSocketMessage`. -/
def handleWSFrame (pw : Protowire) (maxFrameSize : ℕ) (w : Idle) (f : MaskedFrame) (now : ℤ) : Idle :=
  let r := onWSFrame maxFrameSize (processWebSocketFrame pw) w.ws .passes f.toWSFrame
  settle { w with ws := r.1 } (if r.2.2 then r.2.1 else .closes) now

def handle (pw : Protowire) (maxFrameSize : ℕ) (w : Idle) (now : ℤ) : Option Idle :=
  match w.inHand with
  | .tcp data => some (w.settle (handleTCPRequest pw data) now)
  | .ws f => some (w.handleWSFrame pw maxFrameSize f now)
  | _ => none

def touchActive (w : Idle) : Option Idle :=
  match w.inHand with
  | .stamp s => some { w with lastActive := s, inHand := .nothing }
  | _ => none

/-- `touch` up to the clock: only every 64th call goes on to write the stamp. -/
def touch (w : Idle) (now : ℤ) : Idle :=
  let seq := (w.activitySeq + 1) % 2 ^ 32
  -- a stamp of zero stands for none
  if seq % 64 ≠ 0 ∧ w.lastActive ≠ 0 then { w with activitySeq := seq }
  else { w with clock := now, activitySeq := seq, touching := now / millisecond :: w.touching }

/-- `touch` writes the stamp. -/
def touched (w : Idle) (s : ℤ) : Option Idle :=
  if s ∈ w.touching then some { w with lastActive := s, touching := w.touching.erase s } else none

/-- `checkIdleConnections` for this connection; the pass began at `t`. -/
def checkIdle (w : Idle) (t timeout : ℤ) : Idle :=
  -- `timeout.Milliseconds()` drops the fraction of a millisecond
  if timeout.tdiv millisecond < t / millisecond - w.lastActive then
    { w with pass := none, fate := .reaped t timeout }
  else { w with pass := none }

end Idle

/-- One step; nothing happens to a connection that was closed. -/
def stepIdle (pw : Protowire) (maxFrameSize : ℕ) (w : Idle) (a : IdleAction) : Option Idle :=
  if w.fate ≠ .open then none
  else
    match a with
    | .tcpFrame data d => if w.isWS then none else w.receive (.tcp data) (w.clock + d)
    | .wsFrame f d => if w.isWS then w.receive (.ws f) (w.clock + d) else none
    | .handle d => w.handle pw maxFrameSize (w.clock + d)
    | .touchActive => w.touchActive
    | .touch d => some (w.touch (w.clock + d))
    | .touched s => w.touched s
    | .beginCheck timeout d => some { w with clock := w.clock + d, pass := some (w.clock + d, timeout) }
    | .inspect => w.pass.map fun p => w.checkIdle p.1 p.2
    | .leave => some { w with fate := .left }

/-- A frame of a WebSocket that comes to `TouchActive` or ends the connection: a complete text or binary
frame with a message that decodes, a close frame, or a continuation of nothing. -/
def Refreshing (pw : Protowire) (f : MaskedFrame) : Prop :=
  f.opCode = 0 ∨ f.fin = true ∧ (f.opCode = wsOpClose ∨
    isData f.opCode = true ∧ (decodeClientMessage pw f.payload).isSome = true)
  deriving Decidable

/-- Frames are refreshing, no stamp is replaced by an older one, timeouts are whole milliseconds, and
the checker does not come while a frame is in hand. -/
def Idle.Fair (pw : Protowire) (w : Idle) : IdleAction → Prop
  | .wsFrame f _ => Refreshing pw f
  | .touched s => w.lastActive ≤ s
  | .beginCheck timeout _ => millisecond ∣ timeout
  | .inspect => w.inHand = .nothing
  | _ => True

instance (pw : Protowire) (w : Idle) : DecidablePred (w.Fair pw) := fun a => by
  unfold Idle.Fair
  split <;> infer_instance

/-- No frame was received within the timeout before a pass that closed the connection. -/
def Idle.ReapedRightly (w : Idle) : Prop :=
  ∀ t timeout, w.fate = .reaped t timeout → ∀ r ∈ w.frames, ¬ (t - timeout < r ∧ r ≤ t)

variable {pw : Protowire} {maxFrameSize : ℕ} {w w' : Idle}

/-! ## The stamp -/

/-- The stamp is not older than any frame, or will not be when the frame in hand was handled. -/
structure Stamped (pw : Protowire) (w : Idle) : Prop where
  past : ∀ r ∈ w.frames, r ≤ w.clock
  stamped : w.inHand = .nothing → ∀ r ∈ w.frames, r / millisecond ≤ w.lastActive
  stamping : ∀ s, w.inHand = .stamp s → ∀ r ∈ w.frames, r / millisecond ≤ s
  refreshing : ∀ f, w.inHand = .ws f → Refreshing pw f
  unfragmented : w.ws.fragging = false
  whole : ∀ p ∈ w.pass, millisecond ∣ p.2

theorem div_le_div_of_le {r t : ℤ} (h : r ≤ t) : r / millisecond ≤ t / millisecond :=
  Int.ediv_le_ediv (by decide) h

theorem le_sub_of_tdiv_lt {t timeout r stamp : ℤ} (hwhole : millisecond ∣ timeout)
    (hr : r / millisecond ≤ stamp) (h : timeout.tdiv millisecond < t / millisecond - stamp) :
    r ≤ t - timeout := by
  -- the timeout is `k` milliseconds, and the stamp more than `k` older than the pass
  obtain ⟨k, rfl⟩ := hwhole
  rw [Int.mul_tdiv_cancel_left k (by decide)] at h
  simp only [millisecond] at *
  omega

theorem stamped_newConnection (isWS : Bool) (now : ℤ) : Stamped pw (.newConnection isWS now) := by
  refine ⟨?_, ?_, ?_, ?_, rfl, ?_⟩
  · intro r hr
    exact absurd hr List.not_mem_nil
  · intro _ r hr
    exact absurd hr List.not_mem_nil
  · intro s hs
    cases hs
  · intro f hf
    cases hf
  · intro p hp
    cases hp

section

variable (h : Stamped pw w)
include h

theorem Stamped.past_add (d : ℕ) : ∀ r ∈ w.frames, r ≤ w.clock + d := by
  intro r hr
  have hle := h.past r hr
  omega

theorem Stamped.receive {x : InHand} {d : ℕ} (hfresh : x ≠ .nothing ∧ ∀ s, x ≠ .stamp s)
    (hx : ∀ f, x = .ws f → Refreshing pw f) (hw : w.receive x (w.clock + d) = some w') :
    Stamped pw w' ∧ w'.fate = w.fate := by
  unfold Idle.receive at hw
  split at hw <;> cases hw
  refine ⟨⟨?_, ?_, ?_, hx, h.unfragmented, h.whole⟩, rfl⟩
  · intro r hr
    rcases List.mem_cons.mp hr with rfl | hr
    · exact le_refl _
    · exact h.past_add d r hr
  · intro hnothing
    exact absurd hnothing hfresh.1
  · intro s hs
    exact absurd hs (hfresh.2 s)

theorem Stamped.touches (d : ℕ) : Stamped pw (w.settle .touches (w.clock + d)) := by
  refine ⟨h.past_add d, ?_, ?_, ?_, h.unfragmented, h.whole⟩
  · intro hnothing
    cases hnothing
  · intro s hs r hr
    obtain rfl := InHand.stamp.inj hs
    exact div_le_div_of_le (h.past_add d r hr)
  · intro f hf
    cases hf

theorem Stamped.touchActive (hw : w.touchActive = some w') : Stamped pw w' ∧ w'.fate = w.fate := by
  unfold Idle.touchActive at hw
  split at hw <;> cases hw
  rename_i s hs
  refine ⟨⟨h.past, fun _ => h.stamping s hs, ?_, ?_, h.unfragmented, h.whole⟩, rfl⟩
  · intro s hs
    cases hs
  · intro f hf
    cases hf

theorem Stamped.touch (d : ℕ) :
    Stamped pw (w.touch (w.clock + d)) ∧ (w.touch (w.clock + d)).fate = w.fate := by
  unfold Idle.touch
  dsimp only
  split
  · exact ⟨{ h with }, rfl⟩
  · exact ⟨{ h with past := h.past_add d }, rfl⟩

theorem Stamped.touched {s : ℤ} (hs : w.lastActive ≤ s) (hw : w.touched s = some w') :
    Stamped pw w' ∧ w'.fate = w.fate := by
  unfold Idle.touched at hw
  split at hw <;> cases hw
  refine ⟨{ h with stamped := ?_ }, rfl⟩
  intro hnothing r hr
  exact (h.stamped hnothing r hr).trans hs

end

/-! ## Frames -/

/-- On a connection without an open fragmented message a continuation ends the connection, as a close
frame does; the other refreshing frames come to `TouchActive`. -/
theorem handleWSFrame_of_refreshing {f : MaskedFrame} (hf : Refreshing pw f)
    (hfrag : w.ws.fragging = false) (now : ℤ) :
    w.handleWSFrame pw maxFrameSize f now = w.settle .touches now ∨
      (w.handleWSFrame pw maxFrameSize f now).fate = .left := by
  rcases hf with hop | ⟨hfin, hclose | ⟨hdata, hdecodes⟩⟩
  · right
    simp [Idle.handleWSFrame, onWSFrame, MaskedFrame.toWSFrame, hop, hfrag, Idle.settle]
  · right
    simp [Idle.handleWSFrame, onWSFrame, MaskedFrame.toWSFrame, hfin, hclose,
      Idle.processWebSocketFrame, wsOpClose, Idle.settle]
  · left
    obtain ⟨message, hdecode⟩ := Option.isSome_iff_exists.mp hdecodes
    have hcmd := decodeClientMessage_cmd_ne hdecode
    have hop : f.opCode = wsOpText ∨ f.opCode = wsOpBinary := by simpa [isData] using hdata
    have hne : f.opCode ≠ 0 ∧ f.opCode ≠ wsOpClose ∧ f.opCode ≠ wsOpPing ∧ f.opCode ≠ wsOpPong := by
      rcases hop with hop | hop <;> rw [hop] <;> decide
    have hframe : onWSFrame maxFrameSize (Idle.processWebSocketFrame pw) w.ws .passes f.toWSFrame =
        (w.ws, .touches, true) := by
      simp [onWSFrame, MaskedFrame.toWSFrame, hfin, hne, hdata, Idle.processWebSocketFrame,
        Idle.handleWebSocketDataFrame, hdecode, hcmd]
    unfold Idle.handleWSFrame
    rw [hframe]
    rfl

theorem handle_of_stamped (h : Stamped pw w) {now : ℤ} (hw : w.handle pw maxFrameSize now = some w') :
    w' = w.settle .touches now ∨ w'.fate = .left := by
  unfold Idle.handle at hw
  split at hw
  · rename_i data _
    cases hw
    unfold Idle.handleTCPRequest
    cases decodeClientMessage pw data with
    | none => exact .inr rfl
    | some message => exact .inl rfl
  · rename_i f hf
    cases hw
    exact handleWSFrame_of_refreshing (h.refreshing f hf) h.unfragmented now
  · cases hw

/-! ## The checker -/

/-- A connection that is open has a good stamp, and one that was closed by the checker was silent. -/
structure Attended (pw : Protowire) (w : Idle) : Prop where
  stamped : w.fate = .open → Stamped pw w
  rightly : w.ReapedRightly

theorem Stamped.attended (h : Stamped pw w) (hopen : w.fate = .open) : Attended pw w := by
  refine ⟨fun _ => h, ?_⟩
  intro t timeout hreaped
  cases hopen.symm.trans hreaped

theorem attended_of_left (hleft : w.fate = .left) : Attended pw w := by
  refine ⟨?_, ?_⟩
  · intro hopen
    cases hleft.symm.trans hopen
  · intro t timeout hreaped
    cases hleft.symm.trans hreaped

theorem Stamped.checkIdle (h : Stamped pw w) (hopen : w.fate = .open) (hnothing : w.inHand = .nothing)
    {p : ℤ × ℤ} (hpass : w.pass = some p) : Attended pw (w.checkIdle p.1 p.2) := by
  unfold Idle.checkIdle
  split
  · rename_i hold
    refine ⟨?_, ?_⟩
    · intro hfate
      cases hfate
    · intro t timeout hreaped r hr hwithin
      obtain ⟨rfl, rfl⟩ := Fate.reaped.inj hreaped
      have hle := le_sub_of_tdiv_lt (h.whole p hpass) (h.stamped hnothing r hr) hold
      omega
  · refine Stamped.attended { h with whole := ?_ } hopen
    intro q hq
    cases hq

variable {a : IdleAction}

theorem Stamped.step (h : Stamped pw w) (hopen : w.fate = .open) (hfair : w.Fair pw a)
    (hstep : stepIdle pw maxFrameSize w a = some w') : Attended pw w' := by
  unfold stepIdle at hstep
  rw [if_neg (not_not.mpr hopen)] at hstep
  have hkeep : Stamped pw w' ∧ w'.fate = w.fate → Attended pw w' := fun ⟨hw', hfate⟩ =>
    hw'.attended (hfate.trans hopen)
  cases a with
  | tcpFrame data d =>
    dsimp only at hstep
    split at hstep
    · cases hstep
    · refine hkeep (h.receive ⟨?_, ?_⟩ ?_ hstep)
      · exact nofun
      · exact nofun
      · exact nofun
  | wsFrame f d =>
    dsimp only at hstep
    split at hstep
    · refine hkeep (h.receive ⟨?_, ?_⟩ ?_ hstep)
      · exact nofun
      · exact nofun
      · intro g hg
        obtain rfl := InHand.ws.inj hg
        exact hfair
    · cases hstep
  | handle d =>
    -- there is no frame that is handled without a new stamp
    rcases handle_of_stamped h hstep with rfl | hleft
    · exact (h.touches d).attended hopen
    · exact attended_of_left hleft
  | touchActive => exact hkeep (h.touchActive hstep)
  | touch d =>
    cases hstep
    exact hkeep (h.touch d)
  | touched s => exact hkeep (h.touched hfair hstep)
  | beginCheck timeout d =>
    cases hstep
    refine Stamped.attended { h with past := h.past_add d, whole := ?_ } hopen
    intro p hp
    cases hp
    exact hfair
  | inspect =>
    obtain ⟨p, hpass, rfl⟩ := Option.map_eq_some_iff.mp hstep
    exact h.checkIdle hopen hfair hpass
  | leave =>
    cases hstep
    exact attended_of_left rfl

theorem Attended.step (h : Attended pw w) (hfair : w.Fair pw a)
    (hstep : stepIdle pw maxFrameSize w a = some w') : Attended pw w' := by
  -- only an open connection takes steps
  have hopen : w.fate = .open := by
    by_contra hclosed
    unfold stepIdle at hstep
    rw [if_pos hclosed] at hstep
    cases hstep
  exact (h.stamped hopen).step hopen hfair hstep

/-- **Active clients are not reaped**, in a run of fair steps: where the checker closed the connection,
no frame was received within the timeout before its pass. -/
theorem active_not_reaped (pw : Protowire) (maxFrameSize : ℕ) (isWS : Bool) (now : ℤ)
    (as : List IdleAction) (w : Idle)
    (hfair : Guarded (stepIdle pw maxFrameSize) (Idle.Fair pw) (.newConnection isWS now) as)
    (hrun : run (stepIdle pw maxFrameSize) (.newConnection isWS now) as = some w) :
    w.ReapedRightly :=
  (run_invariant (fun _ _ _ h hG hstep => h.step hG hstep)
    ((stamped_newConnection isWS now).attended rfl) hfair hrun).rightly

/-- What became of the connection, and when its frames were received. -/
def Idle.outcome (w : Idle) : Fate × List ℤ := (w.fate, w.frames)

/-- A client that sends a message at 10 ms and is closed by the pass at 21 ms, with a timeout of 10 ms. -/
def silentClient : List IdleAction :=
  [.wsFrame ⟨true, wsOpBinary, [8, 1]⟩ 9000000, .handle 0, .touchActive, .beginCheck 10000000 11000000,
    .inspect]

theorem active_not_reaped_silent :
    ∃ w, run (stepIdle .standard 100) (.newConnection true 1000000) silentClient = some w ∧
      w.outcome = (.reaped 21000000 10000000, [10000000]) ∧ w.ReapedRightly :=
  ⟨_, rfl, by decide, active_not_reaped .standard 100 true 1000000 silentClient _ (by decide) rfl⟩

/-- Clients of which a frame was received within the timeout before the pass that closed them: a ping, a
pong, a fragment or a message that does not decode, 2 ms before the pass with a timeout of 10 ms; a message
1.3 ms before the pass with a timeout of 1.5 ms; a message that is still in hand; and a message that came
between the clock and the stamp of a `touch`. -/
theorem active_reaped :
    (∀ f ∈ [⟨true, wsOpPing, []⟩, ⟨true, wsOpPong, []⟩, ⟨false, wsOpText, [8]⟩, ⟨true, wsOpText, [8]⟩],
      (run (stepIdle .standard 100) (.newConnection true 1000000)
        [.wsFrame f 9000000, .handle 0, .beginCheck 10000000 2000000, .inspect]).map Idle.outcome =
          some (.reaped 12000000 10000000, [10000000])) ∧
    (run (stepIdle .standard 100) (.newConnection false 1000000)
      [.tcpFrame [8, 1] 900000, .handle 0, .touchActive, .beginCheck 1500000 1300000,
        .inspect]).map Idle.outcome = some (.reaped 3200000 1500000, [1900000]) ∧
    (run (stepIdle .standard 100) (.newConnection false 1000000)
      [.tcpFrame [8, 1] 11000000, .beginCheck 10000000 0, .inspect]).map Idle.outcome =
        some (.reaped 12000000 10000000, [12000000]) ∧
    (run (stepIdle .standard 100) (.newConnection false 1000000)
      (List.replicate 64 (.touch 0) ++ [.tcpFrame [8, 1] 7000000, .handle 0, .touchActive, .touched 1,
        .beginCheck 10000000 4000000, .inspect])).map Idle.outcome =
          some (.reaped 12000000 10000000, [8000000]) :=
  ⟨by decide, by decide, by decide, by decide⟩

end Sgate.IdleCheck
