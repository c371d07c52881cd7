import Sgate.Gateway.WebSocket
import Sgate.Lib.Transition

/-! # Fragmented messages of a WebSocket connection

Beside the state of the connection a run keeps the fragmented message that is open by the frames alone,
and for every frame what the loop did with it. `FrameEvent.Conforms` is what the protocol asks of a
frame. -/

namespace Sgate.Gateway

open Transition WebSocketConnection

variable {σ : Type}

structure MaskedFrame where
  fin : Bool
  opCode : UInt8
  payload : Bytes
  deriving DecidableEq

def MaskedFrame.toWSFrame (f : MaskedFrame) : WSFrame where
  opCode := f.opCode
  payload := f.payload
  frameSize := 0
  fin := f.fin
  masked := true
  buffer := []

def isData (opCode : UInt8) : Bool := opCode = wsOpText || opCode = wsOpBinary

/-- Close, ping, pong and the reserved codes above them. -/
def isControl (opCode : UInt8) : Bool := 8 ≤ opCode

/-- A fragmented message that is open: its opcode and its fragments so far. -/
abbrev OpenMessage : Type := Option (UInt8 × List Bytes)

/-- The message that is open after a frame: the first fragment opens it and the last one completes it.
Frames that stand for themselves leave it open. -/
def fragmentsAfter (opened : OpenMessage) (f : MaskedFrame) : OpenMessage :=
  if f.opCode = 0 then
    if f.fin then none else opened.map fun m => (m.1, m.2 ++ [f.payload])
  else if f.fin = false ∧ isControl f.opCode = false ∧ opened = none then some (f.opCode, [f.payload])
  else opened

/-- An open message in one piece. -/
def joined (m : UInt8 × List Bytes) : UInt8 × Bytes := (m.1, m.2.flatten)

structure FrameEvent where
  frame : MaskedFrame
  opened : OpenMessage
  /-- The calls of `processWebSocketFrame`. -/
  dispatched : List (UInt8 × Bytes)
  /-- What the loop has in its buffer afterwards. -/
  held : Option (UInt8 × Bytes)
  closed : Bool

namespace FrameEvent

/-- A data message that is passed on is a frame that stands for itself, while no message is open, or
all fragments of the open message. -/
def Whole (e : FrameEvent) : Prop :=
  ∀ m ∈ e.dispatched, isData m.1 = true →
    (e.frame.fin = true ∧ m = (e.frame.opCode, e.frame.payload) ∧ e.opened = none) ∨
      (e.frame.fin = true ∧ e.frame.opCode = 0 ∧
        ∃ parts, e.opened = some (m.1, parts) ∧ m.2 = (parts ++ [e.frame.payload]).flatten)

/-- An open message is continued, or completed and passed on, or left as it is by a frame that stands
for itself, unless the connection is closed. -/
def Kept (e : FrameEvent) : Prop :=
  ∀ op parts, e.opened = some (op, parts) → e.closed = true ∨
    (e.frame.opCode = 0 ∧ e.frame.fin = false ∧
      e.held = some (op, (parts ++ [e.frame.payload]).flatten)) ∨
    (e.frame.opCode = 0 ∧ e.frame.fin = true ∧
      e.dispatched = [(op, (parts ++ [e.frame.payload]).flatten)]) ∨
    (e.frame.opCode ≠ 0 ∧ e.frame.fin = true ∧ e.held = some (op, parts.flatten))

/-- Another text or binary frame closes the connection. -/
def Exclusive (e : FrameEvent) : Prop :=
  isData e.frame.opCode = true → e.opened.isSome = true → e.closed = true

def Unfragmented (e : FrameEvent) : Prop :=
  isControl e.frame.opCode = true → e.frame.fin = false →
    e.closed = true ∧ e.held = e.opened.map joined

structure Conforms (e : FrameEvent) : Prop where
  whole : e.Whole
  kept : e.Kept
  exclusive : e.Exclusive
  unfragmented : e.Unfragmented

end FrameEvent

/-- A connection that gets frames; the events are newest first. -/
structure Assembly (σ : Type) where
  ws : WebSocketConnection
  s : σ
  opened : OpenMessage
  closed : Bool
  events : List FrameEvent

/-- `processWebSocketFrame` with a record of its calls. -/
def recordingOp (fn : σ → UInt8 → Bytes → σ × Bool) (t : σ × List (UInt8 × Bytes)) (opCode : UInt8)
    (payload : Bytes) : (σ × List (UInt8 × Bytes)) × Bool :=
  (((fn t.1 opCode payload).1, t.2 ++ [(opCode, payload)]), (fn t.1 opCode payload).2)

def Assembly.receive (maxFrameSize : ℕ) (fn : σ → UInt8 → Bytes → σ × Bool) (w : Assembly σ)
    (f : MaskedFrame) : WebSocketConnection × (σ × List (UInt8 × Bytes)) × Bool :=
  onWSFrame maxFrameSize (recordingOp fn) w.ws (w.s, []) f.toWSFrame

def Assembly.event (maxFrameSize : ℕ) (fn : σ → UInt8 → Bytes → σ × Bool) (w : Assembly σ)
    (f : MaskedFrame) : FrameEvent where
  frame := f
  opened := w.opened
  dispatched := (w.receive maxFrameSize fn f).2.1.2
  held := (w.receive maxFrameSize fn f).1.frag
  closed := !(w.receive maxFrameSize fn f).2.2

/-- One frame; a connection that was closed gets none. -/
def stepFrame (maxFrameSize : ℕ) (fn : σ → UInt8 → Bytes → σ × Bool) (w : Assembly σ)
    (f : MaskedFrame) : Option (Assembly σ) :=
  if w.closed then none
  else
    some
      { ws := (w.receive maxFrameSize fn f).1
        s := (w.receive maxFrameSize fn f).2.1.1
        opened := fragmentsAfter w.opened f
        closed := (w.event maxFrameSize fn f).closed
        events := w.event maxFrameSize fn f :: w.events }

/-! ## The cases of a frame -/

variable {maxFrameSize : ℕ} {fn : σ → UInt8 → Bytes → σ × Bool} {w w' : Assembly σ} {f : MaskedFrame}

/-- The loop holds the message that is open. -/
def Assembly.Holds (w : Assembly σ) : Prop := w.ws.frag = w.opened.map joined

attribute [local simp] Assembly.receive onWSFrame MaskedFrame.toWSFrame

theorem receive_of_single (hop : f.opCode ≠ 0) (hfin : f.fin = true) :
    w.receive maxFrameSize fn f = (w.ws, ((fn w.s f.opCode f.payload).1, [(f.opCode, f.payload)]),
        (fn w.s f.opCode f.payload).2) := by
  simp [hop, hfin, recordingOp]

theorem receive_of_first (hop : f.opCode ≠ 0) (hfin : f.fin = false) :
    w.receive maxFrameSize fn f =
      ({ w.ws with fragging := true, fragOp := f.opCode, fragBuf := f.payload }, (w.s, []), true) := by
  simp [hop, hfin]

theorem receive_of_stray (hop : f.opCode = 0) (hholds : w.Holds) (hopened : w.opened = none) :
    w.receive maxFrameSize fn f = (w.ws, (w.s, []), false) := by
  have hfragging : w.ws.fragging = false := by
    have hnone : w.ws.frag = none := by rw [hholds, hopened]; rfl
    unfold frag at hnone
    split at hnone
    · cases hnone
    · rename_i h
      exact Bool.eq_false_iff.mpr h
  simp [hop, hfragging]

variable {parts : List Bytes} {op : UInt8}

theorem receive_of_continuation (hop : f.opCode = 0) (hholds : w.Holds)
    (hopened : w.opened = some (op, parts)) :
    (w.receive maxFrameSize fn f).2.2 = false ∧ (w.receive maxFrameSize fn f).2.1.2 = [] ∨
    (f.fin = true ∧ (w.receive maxFrameSize fn f).1.frag = none ∧
      (w.receive maxFrameSize fn f).2.1.2 = [(op, (parts ++ [f.payload]).flatten)]) ∨
    (f.fin = false ∧ (w.receive maxFrameSize fn f).2 = ((w.s, []), true) ∧
      (w.receive maxFrameSize fn f).1.frag = some (op, (parts ++ [f.payload]).flatten)) := by
  have hsome : w.ws.frag = some (op, parts.flatten) := by rw [hholds, hopened]; rfl
  unfold frag at hsome
  split at hsome
  · rename_i hfragging
    obtain ⟨rfl, hbuf⟩ := Prod.mk.inj (Option.some.inj hsome)
    have hjoined : (parts ++ [f.payload]).flatten = w.ws.fragBuf ++ f.payload := by simp [hbuf]
    have hrun : w.receive maxFrameSize fn f =
        if maxFrameSize < w.ws.fragBuf.length + f.payload.length then (w.ws, (w.s, []), false)
        else if f.fin then
          ({ w.ws with fragBuf := [], fragging := false },
            ((fn w.s w.ws.fragOp (w.ws.fragBuf ++ f.payload)).1,
              [(w.ws.fragOp, w.ws.fragBuf ++ f.payload)]),
            (fn w.s w.ws.fragOp (w.ws.fragBuf ++ f.payload)).2)
        else ({ w.ws with fragBuf := w.ws.fragBuf ++ f.payload }, (w.s, []), true) := by
      simp [hop, hfragging, recordingOp]
    rw [hrun, hjoined]
    split
    · exact .inl ⟨rfl, rfl⟩
    · split
      · rename_i hfin
        exact .inr (Or.inl ⟨hfin, rfl, rfl⟩)
      · rename_i hfin
        refine .inr (Or.inr ⟨Bool.eq_false_iff.mpr hfin, rfl, ?_⟩)
        simp [frag, hfragging]
  · cases hsome

/-! ## What the protocol asks, and what the loop does -/

/-- A frame that the loop handles as the protocol asks: a control frame is not a fragment, and while a
message is open the others are its continuations, except for complete frames with a reserved
opcode. -/
def InPlace (w : Assembly σ) (f : MaskedFrame) : Prop :=
  w.closed = false → (isControl f.opCode = true → f.fin = true) ∧
      (w.opened.isSome = true → f.opCode ≠ 0 → isControl f.opCode = false →
        f.fin = true ∧ isData f.opCode = false)

theorem isControl_of_isData {opCode : UInt8} (h : isData opCode = true) : isControl opCode = false := by
  simp only [isData, Bool.or_eq_true, decide_eq_true_eq] at h
  rcases h with rfl | rfl <;> decide

section Event

variable {e : FrameEvent}

theorem FrameEvent.Whole.of_nil (h : e.dispatched = []) : e.Whole := by
  intro m hm
  rw [h] at hm
  exact absurd hm List.not_mem_nil

theorem FrameEvent.Kept.of_none (h : e.opened = none) : e.Kept := by
  intro op parts hopened
  rw [h] at hopened
  cases hopened

theorem FrameEvent.Exclusive.of_none (h : isData e.frame.opCode = true → e.opened = none) :
    e.Exclusive := by
  intro hdata hopened
  rw [h hdata] at hopened
  cases hopened

end Event

/-- A frame is handled as the protocol asks, and then the loop holds the message that is open. -/
structure Assembly.Obeys (maxFrameSize : ℕ) (fn : σ → UInt8 → Bytes → σ × Bool) (w : Assembly σ)
    (f : MaskedFrame) : Prop where
  conforms : (w.event maxFrameSize fn f).Conforms
  holds : (w.event maxFrameSize fn f).closed = false →
    (w.event maxFrameSize fn f).held = (fragmentsAfter w.opened f).map joined

theorem obeys_of_stray (hop : f.opCode = 0) (hholds : w.Holds) (hopened : w.opened = none) :
    w.Obeys maxFrameSize fn f := by
  have hrun : w.receive maxFrameSize fn f = _ := receive_of_stray hop hholds hopened
  have hclosed : (w.event maxFrameSize fn f).closed = true := by
    show (!(w.receive maxFrameSize fn f).2.2) = true
    rw [hrun]
    rfl
  refine ⟨⟨.of_nil ?_, .of_none hopened, .of_none fun _ => hopened, ?_⟩, ?_⟩
  · show (w.receive maxFrameSize fn f).2.1.2 = []
    rw [hrun]
  · intro hcontrol
    rw [show (w.event maxFrameSize fn f).frame.opCode = 0 from hop] at hcontrol
    exact absurd hcontrol (by decide)
  · intro hopen
    cases hclosed.symm.trans hopen

theorem obeys_of_continuation (hop : f.opCode = 0) (hholds : w.Holds)
    (hopened : w.opened = some (op, parts)) : w.Obeys maxFrameSize fn f := by
  have hexclusive : (w.event maxFrameSize fn f).Exclusive := by
    intro hdata
    rw [show (w.event maxFrameSize fn f).frame.opCode = 0 from hop] at hdata
    exact absurd hdata (by decide)
  have hunfragmented : (w.event maxFrameSize fn f).Unfragmented := by
    intro hcontrol
    rw [show (w.event maxFrameSize fn f).frame.opCode = 0 from hop] at hcontrol
    exact absurd hcontrol (by decide)
  have hkept : ∀ {P : UInt8 → List Bytes → Prop}, P op parts →
      ∀ op' parts', (w.event maxFrameSize fn f).opened = some (op', parts') → P op' parts' := by
    intro P hP op' parts' h
    cases hopened.symm.trans h
    exact hP
  -- what the event says about the loop
  have hdispatched : (w.event maxFrameSize fn f).dispatched = (w.receive maxFrameSize fn f).2.1.2 := rfl
  have hheld : (w.event maxFrameSize fn f).held = (w.receive maxFrameSize fn f).1.frag := rfl
  have hclosed : (w.event maxFrameSize fn f).closed = !(w.receive maxFrameSize fn f).2.2 := rfl
  rcases receive_of_continuation hop hholds hopened with ⟨hstop, hnone⟩ | ⟨hfin, hfrag, hcall⟩ |
    ⟨hfin, hgoes, hfrag⟩
  · -- too large
    rw [hnone] at hdispatched
    rw [hstop] at hclosed
    refine ⟨⟨.of_nil hdispatched, hkept (Or.inl hclosed), hexclusive, hunfragmented⟩, ?_⟩
    intro hopen
    cases hclosed.symm.trans hopen
  · -- the last fragment
    rw [hcall] at hdispatched
    refine ⟨⟨?_, hkept (Or.inr (Or.inr (Or.inl ⟨hop, hfin, hdispatched⟩))), hexclusive,
      hunfragmented⟩, fun _ => ?_⟩
    · intro m hm _
      rw [hdispatched] at hm
      obtain rfl := List.mem_singleton.mp hm
      exact .inr ⟨hfin, hop, parts, hopened, rfl⟩
    · rw [hheld, hfrag, fragmentsAfter, if_pos hop, if_pos hfin]
      rfl
  · -- a fragment in the middle
    rw [hgoes] at hdispatched
    rw [hfrag] at hheld
    refine ⟨⟨.of_nil hdispatched, hkept (Or.inr (Or.inl ⟨hop, hfin, hheld⟩)), hexclusive,
      hunfragmented⟩, fun _ => ?_⟩
    rw [hheld, fragmentsAfter, if_pos hop, if_neg (by simp [hfin]), hopened]
    rfl

theorem obeys_of_single (hop : f.opCode ≠ 0) (hfin : f.fin = true) (hholds : w.Holds)
    (hdata : isData f.opCode = true → w.opened = none) : w.Obeys maxFrameSize fn f := by
  have hdispatched : (w.event maxFrameSize fn f).dispatched = (w.receive maxFrameSize fn f).2.1.2 := rfl
  have hheld : (w.event maxFrameSize fn f).held = (w.receive maxFrameSize fn f).1.frag := rfl
  rw [receive_of_single hop hfin] at hdispatched hheld
  refine ⟨⟨?_, ?_, .of_none hdata, ?_⟩, fun _ => ?_⟩
  · intro m hm hd
    rw [hdispatched] at hm
    obtain rfl := List.mem_singleton.mp hm
    exact .inl ⟨hfin, rfl, hdata hd⟩
  · intro op parts h
    refine .inr (Or.inr (Or.inr ⟨hop, hfin, ?_⟩))
    rw [hheld, hholds, show w.opened = some (op, parts) from h]
    rfl
  · intro _ h
    cases hfin.symm.trans h
  · rw [hheld, hholds, fragmentsAfter, if_neg hop, if_neg (by simp [hfin])]

theorem obeys_of_first (hop : f.opCode ≠ 0) (hfin : f.fin = false)
    (hcontrol : isControl f.opCode = false) (hnone : w.opened = none) : w.Obeys maxFrameSize fn f := by
  have hdispatched : (w.event maxFrameSize fn f).dispatched = (w.receive maxFrameSize fn f).2.1.2 := rfl
  have hheld : (w.event maxFrameSize fn f).held = (w.receive maxFrameSize fn f).1.frag := rfl
  rw [receive_of_first hop hfin] at hdispatched hheld
  refine ⟨⟨.of_nil hdispatched, .of_none hnone, .of_none fun _ => hnone, ?_⟩, fun _ => ?_⟩
  · intro h
    cases hcontrol.symm.trans h
  · rw [hheld, fragmentsAfter, if_neg hop, if_pos ⟨hfin, hcontrol, hnone⟩]
    simp [frag, joined]

theorem obeys_of_inPlace (hholds : w.Holds) (hclosed : w.closed = false) (hf : InPlace w f) :
    w.Obeys maxFrameSize fn f := by
  obtain ⟨hcontrol, hother⟩ := hf hclosed
  by_cases hop : f.opCode = 0
  · cases hopened : w.opened with
    | none => exact obeys_of_stray hop hholds hopened
    | some m => exact obeys_of_continuation hop hholds hopened
  · cases hfin : f.fin with
    | true =>
      refine obeys_of_single hop hfin hholds ?_
      intro hdata
      by_contra hsome
      have hreserved := hother (Option.isSome_iff_ne_none.mpr hsome) hop (isControl_of_isData hdata)
      cases hdata.symm.trans hreserved.2
    | false =>
      have hdata : isControl f.opCode = false := by
        by_contra hc
        cases hfin.symm.trans (hcontrol (Bool.eq_true_of_not_eq_false hc))
      refine obeys_of_first hop hfin hdata ?_
      by_contra hsome
      cases hfin.symm.trans (hother (Option.isSome_iff_ne_none.mpr hsome) hop hdata).1

theorem inPlace_of_conforms (h : (w.event maxFrameSize fn f).Conforms) : InPlace w f := by
  intro _
  -- the loop closes no connection for a frame without FIN that is not a continuation
  have hfirst : f.opCode ≠ 0 → f.fin = false → (w.event maxFrameSize fn f).closed = false := by
    intro hop hfin
    show (!(w.receive maxFrameSize fn f).2.2) = false
    rw [receive_of_first hop hfin]
    rfl
  constructor
  · intro hcontrol
    by_contra hfin
    have hop : f.opCode ≠ 0 := by
      intro hop
      rw [hop] at hcontrol
      exact absurd hcontrol (by decide)
    rw [Bool.not_eq_true] at hfin
    exact nomatch (hfirst hop hfin).symm.trans (h.unfragmented hcontrol hfin).1
  · intro hsome hop hcontrol
    obtain ⟨⟨op, parts⟩, hopened⟩ := Option.isSome_iff_exists.mp hsome
    have hfin : f.fin = true := by
      by_contra hfin
      rw [Bool.not_eq_true] at hfin
      rcases h.kept op parts hopened with hc | ⟨h0, -⟩ | ⟨h0, -⟩ | ⟨-, ht, -⟩
      · exact nomatch (hfirst hop hfin).symm.trans hc
      · exact hop h0
      · exact hop h0
      · exact nomatch hfin.symm.trans ht
    refine ⟨hfin, ?_⟩
    by_contra hd
    rw [Bool.not_eq_false] at hd
    have hmem : (f.opCode, f.payload) ∈ (w.event maxFrameSize fn f).dispatched := by
      show _ ∈ (w.receive maxFrameSize fn f).2.1.2
      rw [receive_of_single hop hfin]
      exact List.mem_singleton_self _
    rcases h.whole _ hmem hd with ⟨-, -, hnone⟩ | ⟨-, h0, -⟩
    · exact nomatch hopened.symm.trans hnone
    · exact hop h0

/-- A connection that was just opened. -/
def Assembly.start (connID : String) (s : σ) : Assembly σ :=
  ⟨{ connID := connID, state := .open }, s, none, false, []⟩

/-- **Fragmented messages.** For every sequence of masked frames: the loop handles all of them as the
protocol asks exactly if, as long as the connection is not closed, no control frame is a fragment, and
while a fragmented message is open no text or binary frame and no first fragment of another message
arrives. -/
theorem fragments_conform_iff (maxFrameSize : ℕ) (fn : σ → UInt8 → Bytes → σ × Bool) (connID : String)
    (s : σ) (frames : List MaskedFrame) :
    Throughout (stepFrame maxFrameSize fn) (fun w => ∀ e ∈ w.events, e.Conforms) (.start connID s)
        frames ↔
      Guarded (stepFrame maxFrameSize fn) InPlace (.start connID s) frames := by
  refine throughout_iff_guarded
    (J := fun w => (∀ e ∈ w.events, e.Conforms) ∧ (w.closed = false → w.Holds)) (fun _ h => h.1) ?_ ?_
    ⟨fun e he => absurd he List.not_mem_nil, fun _ => rfl⟩
  · rintro w f w' ⟨hevents, hholds⟩ hf hs
    unfold stepFrame at hs
    split at hs
    · cases hs
    · rename_i hclosed
      rw [Bool.not_eq_true] at hclosed
      cases hs
      obtain ⟨hconforms, hheld⟩ := obeys_of_inPlace (hholds hclosed) hclosed hf
      refine ⟨?_, hheld⟩
      intro e he
      rcases List.mem_cons.mp he with rfl | he
      · exact hconforms
      · exact hevents e he
  · rintro w f ⟨hevents, hholds⟩ hf
    have hclosed : w.closed = false := by
      by_contra hc
      exact hf fun h => absurd h hc
    refine ⟨_, if_neg (by simp [hclosed]), fun hall => hf ?_⟩
    exact inPlace_of_conforms (hall _ List.mem_cons_self)

/-- What was passed on, oldest first, what is held, and whether the connection was closed. -/
def Assembly.summary (w : Assembly σ) : List (UInt8 × Bytes) × Option (UInt8 × Bytes) × Bool :=
  (w.events.reverse.flatMap (·.dispatched), w.ws.frag, w.closed)

/-- A text frame in a fragmented message is passed on before it, a first fragment replaces the open
message, and a ping without FIN is kept as a fragment. -/
theorem fragments_mixed :
    (run (stepFrame 100 fun (_ : Unit) _ _ => ((), true)) (.start "conn_1" ())
      [⟨false, 1, [1]⟩, ⟨true, 1, [2]⟩, ⟨true, 0, [3]⟩]).map Assembly.summary =
        some ([(1, [2]), (1, [1, 3])], none, false) ∧
    (run (stepFrame 100 fun (_ : Unit) _ _ => ((), true)) (.start "conn_1" ())
      [⟨false, 1, [1]⟩, ⟨false, 2, [2]⟩, ⟨true, 0, [3]⟩]).map Assembly.summary =
        some ([(2, [2, 3])], none, false) ∧
    (run (stepFrame 100 fun (_ : Unit) _ _ => ((), true)) (.start "conn_1" ())
      [⟨false, 9, [1]⟩]).map Assembly.summary = some ([], some (9, [1]), false) :=
  ⟨by decide, by decide, by decide⟩

end Sgate.Gateway
