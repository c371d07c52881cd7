import Mathlib.Tactic.Ring
import Sgate.Lib.Decoder
import Sgate.Gateway.LoginPaths

/-! # Frames of a TCP connection

`feedFrames` adds a read to the buffer of the connection, which keeps a consumed part in front
(`frameOff`), and passes every complete frame on. The loop is the run of a decoder (`frameLoop_eq_run`),
so it does not matter where the reads cut the stream. `Parses` states the format alone. -/

namespace Sgate.Gateway

open LoginPath List

variable {σ : Type*}

/-! ## Numbers -/

/-- A number in big-endian bytes. -/
def uintBE (b : Bytes) : ℕ := b.foldl (fun n x => n * 256 + x.toNat) 0

/-- Conversion of an `int` to `uint32`. -/
def uint32 (n : Int) : ℕ := (n % 2 ^ 32).toNat

theorem foldl_uintBE (b : Bytes) (n : ℕ) :
    b.foldl (fun n x => n * 256 + x.toNat) n = n * 256 ^ b.length + uintBE b := by
  induction b generalizing n with
  | nil => simp [uintBE]
  | cons x b ih =>
    have hx : uintBE (x :: b) = x.toNat * 256 ^ b.length + uintBE b := by
      rw [uintBE, foldl_cons, ih, Nat.zero_mul, Nat.zero_add]
    rw [foldl_cons, ih, hx, length_cons]
    ring

theorem uintBE_cons (x : UInt8) (b : Bytes) : uintBE (x :: b) = x.toNat * 256 ^ b.length + uintBE b := by
  rw [uintBE, foldl_cons, foldl_uintBE, Nat.zero_mul, Nat.zero_add]

theorem uintBE_lt (b : Bytes) : uintBE b < 256 ^ b.length := by
  induction b with
  | nil => simp [uintBE]
  | cons x b ih =>
    have hx : x.toNat < 256 := x.toNat_lt
    rw [uintBE_cons, length_cons, Nat.pow_succ]
    calc x.toNat * 256 ^ b.length + uintBE b
        < x.toNat * 256 ^ b.length + 256 ^ b.length := by omega
      _ = (x.toNat + 1) * 256 ^ b.length := by ring
      _ ≤ 256 * 256 ^ b.length := Nat.mul_le_mul_right _ hx
      _ = 256 ^ b.length * 256 := Nat.mul_comm _ _

@[simp] theorem length_bigEndian (k n : ℕ) : (bigEndian k n).length = k := by
  induction k with
  | zero => rfl
  | succ k ih => rw [bigEndian, length_cons, ih]

theorem bigEndian_add_mul (k n m : ℕ) : bigEndian k (m * 256 ^ k + n) = bigEndian k n := by
  induction k generalizing m with
  | zero => rfl
  | succ k ih =>
    have hpos : 0 < 256 ^ k := Nat.pow_pos (by decide)
    have hsplit : m * 256 ^ (k + 1) + n = (m * 256) * 256 ^ k + n := by ring
    have hdiv : (m * 256 ^ (k + 1) + n) / 256 ^ k = m * 256 + n / 256 ^ k := by
      rw [hsplit, Nat.add_comm, Nat.add_mul_div_right _ _ hpos, Nat.add_comm]
    have hhead : UInt8.ofNat (m * 256 + n / 256 ^ k) = UInt8.ofNat (n / 256 ^ k) := by
      apply UInt8.toNat_inj.mp
      simp [UInt8.toNat_ofNat']
    rw [bigEndian, bigEndian, hdiv, hhead, hsplit, ih]

theorem bigEndian_uintBE (b : Bytes) : bigEndian b.length (uintBE b) = b := by
  induction b with
  | nil => rfl
  | cons x b ih =>
    have hlt := uintBE_lt b
    have hpos : 0 < 256 ^ b.length := Nat.pow_pos (by decide)
    rw [length_cons, uintBE_cons, bigEndian, bigEndian_add_mul, ih]
    congr 1
    rw [Nat.add_comm, Nat.add_mul_div_right _ _ hpos, Nat.div_eq_of_lt hlt, Nat.zero_add]
    exact UInt8.ofNat_toNat

theorem uintBE_bigEndian {k n : ℕ} (h : n < 256 ^ k) : uintBE (bigEndian k n) = n := by
  induction k generalizing n with
  | zero =>
    obtain rfl : n = 0 := by simpa using h
    rfl
  | succ k ih =>
    have hpos : 0 < 256 ^ k := Nat.pow_pos (by decide)
    have hq : n / 256 ^ k < 256 := Nat.div_lt_of_lt_mul (by rwa [Nat.pow_succ] at h)
    have hn : n = n / 256 ^ k * 256 ^ k + n % 256 ^ k := by
      rw [Nat.mul_comm]
      exact (Nat.div_add_mod n _).symm
    have htail : uintBE (bigEndian k n) = n % 256 ^ k := by
      conv_lhs => rw [hn]
      rw [bigEndian_add_mul]
      exact ih (Nat.mod_lt _ hpos)
    rw [bigEndian, uintBE_cons, length_bigEndian, htail, UInt8.toNat_ofNat_of_lt' hq]
    exact hn.symm

/-! ## The context of a connection -/

theorem zero_le_length_nil : 0 ≤ ([] : Bytes).length := Nat.zero_le _

/-- `ConnContext`: the bytes read and not yet handed on are those of `frameBuf` from `frameOff` on.
The context for log lines is left out. -/
structure ConnContext where
  connectionID : String := ""
  frameBuf : Bytes := []
  frameOff : ℕ := 0
  proxyHeaderParsed : Bool := false
  frameOff_le : frameOff ≤ frameBuf.length := by exact zero_le_length_nil
  deriving DecidableEq

namespace ConnContext

def pending (ctx : ConnContext) : Bytes := ctx.frameBuf.drop ctx.frameOff

/-- An empty buffer, as `nil` or as a slice of length zero. -/
def clear (ctx : ConnContext) : ConnContext :=
  { ctx with frameBuf := [], frameOff := 0, frameOff_le := zero_le_length_nil }

/-- Move what was not consumed to the front. -/
def shift (ctx : ConnContext) : ConnContext :=
  if 0 < ctx.frameOff then
    { ctx with frameBuf := ctx.frameBuf.drop ctx.frameOff, frameOff := 0, frameOff_le := Nat.zero_le _ }
  else ctx

def append (ctx : ConnContext) (data : Bytes) : ConnContext :=
  { ctx with
    frameBuf := ctx.frameBuf ++ data
    frameOff_le := by
      rw [List.length_append]
      exact Nat.le_add_right_of_le ctx.frameOff_le }

/-- Step over `n` bytes; not beyond the end of the buffer. -/
def advance (ctx : ConnContext) (n : ℕ) (h : ctx.frameOff + n ≤ ctx.frameBuf.length) : ConnContext :=
  { ctx with frameOff := ctx.frameOff + n, frameOff_le := h }

theorem length_pending (ctx : ConnContext) :
    ctx.pending.length = ctx.frameBuf.length - ctx.frameOff := length_drop

theorem pending_advance (ctx : ConnContext) (n : ℕ) (h : ctx.frameOff + n ≤ ctx.frameBuf.length) :
    (ctx.advance n h).pending = ctx.pending.drop n := by
  simp [pending, advance, drop_drop]

theorem pending_shift_append (ctx : ConnContext) (data : Bytes) :
    (ctx.shift.append data).pending = ctx.pending ++ data := by
  by_cases h : 0 < ctx.frameOff
  · simp [pending, append, shift, h]
  · have hzero : ctx.frameOff = 0 := by omega
    simp [pending, append, shift, hzero]

end ConnContext

/-! ## `feedFrames` -/

/-- The loop of `feedFrames`. Every pass consumes a frame, so as many passes as there are bytes are
enough. -/
def frameLoop (limit : ℕ) (fn : σ → Bytes → σ × Bool) :
    ℕ → ConnContext → σ → ConnContext × σ × Bool
  | 0, ctx, s => (ctx, s, true)
  | fuel + 1, ctx, s =>
    if hmore : 4 ≤ ctx.frameBuf.length - ctx.frameOff then
      let frameLen := uintBE ((ctx.frameBuf.drop ctx.frameOff).take 4)
      if frameLen = 0 ∨ limit < frameLen then (ctx.clear, s, false)
      else
        let totalLen := 4 + frameLen
        if hshort : ctx.frameBuf.length - ctx.frameOff < totalLen then (ctx, s, true)
        else
          let frameData := (ctx.frameBuf.drop (ctx.frameOff + 4)).take frameLen
          let ctx' := ctx.advance totalLen (by have := ctx.frameOff_le; omega)
          match fn s frameData with
          | (s', true) => frameLoop limit fn fuel ctx' s'
          | (s', false) => (ctx', s', false)
    -- everything was consumed: start again at the front of the buffer
    else if ctx.frameOff = ctx.frameBuf.length then (ctx.clear, s, true)
    else (ctx, s, true)

/-- `feedFrames`: the callback `fn` works on the state `σ` and answers whether to go on. -/
def feedFrames (ctx : ConnContext) (data : Bytes) (maxFrameBuf maxFrame : Int)
    (fn : σ → Bytes → σ × Bool) (s : σ) : ConnContext × σ × Bool :=
  if maxFrameBuf < (ctx.frameBuf.length : Int) - ctx.frameOff + data.length then
    (ctx.clear, s, false)
  else
    let ctx := ctx.shift.append data
    frameLoop (uint32 maxFrame) fn (ctx.frameBuf.length + 1) ctx s

/-- A connection: the context and the state of the callback. After a failure the connection is closed
and no more is read. -/
def tcpReceiver (maxFrameBuf maxFrame : Int) (fn : σ → Bytes → σ × Bool) :
    Receiver UInt8 σ (ConnContext × σ) where
  read k data :=
    let r := feedFrames k.1 data maxFrameBuf maxFrame fn k.2
    ((r.1, r.2.1), r.2.2)
  state k := k.2
  pending k := k.1.pending

/-! ## The loop as a decoder -/

/-- One pass of the loop on the bytes from the offset on. -/
def frameStep (limit : ℕ) (fn : σ → Bytes → σ × Bool) (s : σ) (b : Bytes) : Verdict σ :=
  if b.length < 4 then .more
  else
    let frameLen := uintBE (b.take 4)
    if frameLen = 0 ∨ limit < frameLen then .stop 0 s
    else if b.length < 4 + frameLen then .more
    else
      match fn s ((b.drop 4).take frameLen) with
      | (s', true) => .take (4 + frameLen) s'
      | (s', false) => .stop (4 + frameLen) s'

/-- What a pass does, by the bytes it finds. -/
inductive FrameStep (limit : ℕ) (fn : σ → Bytes → σ × Bool) (s : σ) : Bytes → Verdict σ → Prop
  | short {b : Bytes} : b.length < 4 → FrameStep limit fn s b .more
  | incomplete {n : ℕ} {tail : Bytes} : n < 256 ^ 4 → n ≠ 0 → n ≤ limit → tail.length < n →
      FrameStep limit fn s (bigEndian 4 n ++ tail) .more
  | invalid {n : ℕ} {tail : Bytes} : n < 256 ^ 4 → n = 0 ∨ limit < n →
      FrameStep limit fn s (bigEndian 4 n ++ tail) (.stop 0 s)
  | accepted {f tail : Bytes} {s' : σ} : f.length < 256 ^ 4 → f.length ≠ 0 → f.length ≤ limit →
      fn s f = (s', true) → FrameStep limit fn s (writeFrame f ++ tail) (.take (4 + f.length) s')
  | rejected {f tail : Bytes} {s' : σ} : f.length < 256 ^ 4 → f.length ≠ 0 → f.length ≤ limit →
      fn s f = (s', false) → FrameStep limit fn s (writeFrame f ++ tail) (.stop (4 + f.length) s')

section Steps

variable {limit : ℕ} {fn : σ → Bytes → σ × Bool} {s s' : σ} {b : Bytes} {v : Verdict σ}

theorem exists_bigEndian_append (h : 4 ≤ b.length) :
    ∃ n tail, n < 256 ^ 4 ∧ b = bigEndian 4 n ++ tail := by
  have hlen : (b.take 4).length = 4 := by simpa using h
  refine ⟨uintBE (b.take 4), b.drop 4, ?_, ?_⟩
  · simpa [hlen] using uintBE_lt (b.take 4)
  · have hback := bigEndian_uintBE (b.take 4)
    rw [hlen] at hback
    rw [hback, take_append_drop]

theorem take_bigEndian_append (k n : ℕ) (tail : Bytes) :
    (bigEndian k n ++ tail).take k = bigEndian k n := by
  rw [take_append_of_le_length (by simp), take_of_length_le (by simp)]

theorem drop_bigEndian_append (k n : ℕ) (tail : Bytes) : (bigEndian k n ++ tail).drop k = tail := by
  rw [drop_append_of_le_length (by simp), drop_of_length_le (by simp), nil_append]

theorem frameStep_bigEndian {n : ℕ} {tail : Bytes} (hn : n < 256 ^ 4) :
    frameStep limit fn s (bigEndian 4 n ++ tail) = if n = 0 ∨ limit < n then .stop 0 s
      else if tail.length < n then .more
      else
        match fn s (tail.take n) with
        | (s', true) => .take (4 + n) s'
        | (s', false) => .stop (4 + n) s' := by
  have hlen : ¬ (bigEndian 4 n ++ tail).length < 4 := by simp
  have hcount : (bigEndian 4 n ++ tail).length < 4 + n ↔ tail.length < n := by simp
  simp only [frameStep, if_neg hlen, take_bigEndian_append, drop_bigEndian_append,
    uintBE_bigEndian hn, hcount]

theorem frameStep_spec : FrameStep limit fn s b (frameStep limit fn s b) := by
  by_cases hshort : b.length < 4
  · rw [frameStep, if_pos hshort]
    exact .short hshort
  · obtain ⟨n, tail, hn, rfl⟩ := exists_bigEndian_append (Nat.le_of_not_lt hshort)
    rw [frameStep_bigEndian hn]
    by_cases hbad : n = 0 ∨ limit < n
    · rw [if_pos hbad]
      exact .invalid hn hbad
    · rw [if_neg hbad]
      obtain ⟨hpos, hle⟩ : n ≠ 0 ∧ n ≤ limit := by omega
      by_cases hmore : tail.length < n
      · rw [if_pos hmore]
        exact .incomplete hn hpos hle hmore
      · -- the frame is complete: name its bytes
        rw [if_neg hmore]
        obtain ⟨f, rest, rfl, rfl⟩ : ∃ f rest, tail = f ++ rest ∧ f.length = n :=
          ⟨tail.take n, tail.drop n, (take_append_drop n tail).symm, by
            rw [length_take]; omega⟩
        rw [take_left' rfl, ← append_assoc]
        rcases hfn : fn s f with ⟨s', _ | _⟩
        · exact .rejected hn hpos hle hfn
        · exact .accepted hn hpos hle hfn

theorem frameStep_eq_iff : frameStep limit fn s b = v ↔ FrameStep limit fn s b v := by
  constructor
  · rintro rfl
    exact frameStep_spec
  · intro h
    cases h with
    | short h => rw [frameStep, if_pos h]
    | incomplete hn hpos hle hmore => rw [frameStep_bigEndian hn, if_neg (by omega), if_pos hmore]
    | invalid hn hbad => rw [frameStep_bigEndian hn, if_pos hbad]
    | accepted hn hpos hle hfn | rejected hn hpos hle hfn =>
      rw [writeFrame, append_assoc, frameStep_bigEndian hn, if_neg (by omega),
        if_neg (by simp), take_left' rfl, hfn]

end Steps

/-- The loop of `feedFrames` as a decoder of bytes. -/
def frameDecoder (limit : ℕ) (fn : σ → Bytes → σ × Bool) : Decoder UInt8 σ where
  step := frameStep limit fn
  take_pos h := by
    cases frameStep_eq_iff.mp h
    omega
  take_le h := by
    cases frameStep_eq_iff.mp h
    simp [writeFrame]
  stop_le h := by
    cases frameStep_eq_iff.mp h with
    | invalid => exact Nat.zero_le _
    | rejected => simp [writeFrame]
  step_append := by
    intro s b c h
    rw [frameStep_eq_iff]
    have hb := @frameStep_spec _ limit fn s b
    generalize frameStep limit fn s b = v at h hb
    cases hb with
    | short => exact absurd rfl h
    | incomplete => exact absurd rfl h
    | invalid hn hbad =>
      rw [List.append_assoc]
      exact .invalid hn hbad
    | accepted hn hpos hle hfn =>
      rw [List.append_assoc]
      exact .accepted hn hpos hle hfn
    | rejected hn hpos hle hfn =>
      rw [List.append_assoc]
      exact .rejected hn hpos hle hfn

section Loop

variable {limit : ℕ} {fn : σ → Bytes → σ × Bool} {ctx : ConnContext} {s s' : σ} {n fuel : ℕ}

/-- The result of a loop over the buffer of `ctx` agrees with the outcome of the decoder. -/
structure Follows (ctx : ConnContext) (r : ConnContext × σ × Bool) (o : Decoder.Outcome UInt8 σ) :
    Prop where
  state : r.2.1 = o.state
  ok : r.2.2 = !o.stopped
  pending : o.stopped = false → r.1.pending = o.rest
  connectionID : r.1.connectionID = ctx.connectionID
  proxyHeaderParsed : r.1.proxyHeaderParsed = ctx.proxyHeaderParsed

theorem frameLoop_bigEndian {tail : Bytes} (hn : n < 256 ^ 4)
    (hp : ctx.pending = bigEndian 4 n ++ tail) :
    frameLoop limit fn (fuel + 1) ctx s = if n = 0 ∨ limit < n then (ctx.clear, s, false)
      else if h : ctx.frameOff + (4 + n) ≤ ctx.frameBuf.length then
        match fn s (tail.take n) with
        | (s', true) => frameLoop limit fn fuel (ctx.advance (4 + n) h) s'
        | (s', false) => (ctx.advance (4 + n) h, s', false)
      else (ctx, s, true) := by
  have hlen : 4 ≤ ctx.frameBuf.length - ctx.frameOff := by
    rw [← ctx.length_pending, hp]
    simp
  have hhead : uintBE ((ctx.frameBuf.drop ctx.frameOff).take 4) = n := by
    rw [show ctx.frameBuf.drop ctx.frameOff = ctx.pending from rfl, hp, take_bigEndian_append,
      uintBE_bigEndian hn]
  have hbody : ctx.frameBuf.drop (ctx.frameOff + 4) = tail := by
    rw [← drop_drop, show ctx.frameBuf.drop ctx.frameOff = ctx.pending from rfl, hp,
      drop_bigEndian_append]
  simp only [frameLoop, dif_pos hlen, hhead, hbody]
  by_cases hbad : n = 0 ∨ limit < n
  · rw [if_pos hbad, if_pos hbad]
  · rw [if_neg hbad, if_neg hbad]
    by_cases hfit : ctx.frameOff + (4 + n) ≤ ctx.frameBuf.length
    · rw [dif_neg (by omega), dif_pos hfit]
    · rw [dif_pos (by omega), dif_neg hfit]

theorem frameLoop_eq_run (hfuel : ctx.pending.length < fuel) :
    Follows ctx (frameLoop limit fn fuel ctx s) ((frameDecoder limit fn).run s ctx.pending) := by
  -- the induction is on the fuel: a pass that goes on leaves fewer bytes
  induction fuel generalizing ctx s with
  | zero => omega
  | succ fuel ih =>
    have hlen := ctx.length_pending
    have hstep := @frameStep_spec _ limit fn s ctx.pending
    obtain ⟨v, hv⟩ : ∃ v, frameStep limit fn s ctx.pending = v := ⟨_, rfl⟩
    obtain ⟨b, hp⟩ : ∃ b, ctx.pending = b := ⟨_, rfl⟩
    rw [hv, hp] at hstep
    cases hstep with
    | short hshort =>
      rw [← hp] at hshort
      rw [Decoder.run_of_more hv, frameLoop, dif_neg (by omega)]
      by_cases hend : ctx.frameOff = ctx.frameBuf.length
      · have hnil : ctx.pending = [] := eq_nil_of_length_eq_zero (by omega)
        rw [if_pos hend]
        exact ⟨rfl, rfl, fun _ => hnil.symm, rfl, rfl⟩
      · rw [if_neg hend]
        exact ⟨rfl, rfl, fun _ => rfl, rfl, rfl⟩
    | incomplete hn hpos hle hmore =>
      have hcount := congrArg length hp
      rw [length_append, length_bigEndian] at hcount
      rw [Decoder.run_of_more hv, frameLoop_bigEndian hn hp, if_neg (by omega), dif_neg (by omega)]
      exact ⟨rfl, rfl, fun _ => rfl, rfl, rfl⟩
    | invalid hn hbad =>
      rw [Decoder.run_of_stop hv, frameLoop_bigEndian hn hp, if_pos hbad]
      exact ⟨rfl, rfl, by simp, rfl, rfl⟩
    | @accepted f tail s' hn hpos hle hfn =>
      rw [writeFrame, append_assoc] at hp
      have hcount := congrArg length hp
      rw [length_append, length_bigEndian, length_append] at hcount
      have hfit : ctx.frameOff + (4 + f.length) ≤ ctx.frameBuf.length := by omega
      rw [Decoder.run_of_take hv, frameLoop_bigEndian hn hp, if_neg (by omega), dif_pos hfit,
        take_left' rfl, hfn, ← ctx.pending_advance _ hfit]
      have hnext := @ih (ctx.advance _ hfit) s' (by
        rw [ctx.pending_advance, length_drop]
        omega)
      exact { hnext with }
    | @rejected f tail s' hn hpos hle hfn =>
      rw [writeFrame, append_assoc] at hp
      have hcount := congrArg length hp
      rw [length_append, length_bigEndian, length_append] at hcount
      have hfit : ctx.frameOff + (4 + f.length) ≤ ctx.frameBuf.length := by omega
      rw [Decoder.run_of_stop hv, frameLoop_bigEndian hn hp, if_neg (by omega), dif_pos hfit,
        take_left' rfl, hfn]
      exact ⟨rfl, rfl, by simp, rfl, rfl⟩

end Loop

section Reads

variable {maxFrameBuf maxFrame : Int} {fn : σ → Bytes → σ × Bool} {ctx : ConnContext} {s : σ}
  {data : Bytes}

theorem feedFrames_of_exceeds
    (h : ¬ ((ctx.pending.length + data.length : ℕ) : Int) ≤ maxFrameBuf) :
    feedFrames ctx data maxFrameBuf maxFrame fn s = (ctx.clear, s, false) := by
  have hoff := ctx.frameOff_le
  rw [ctx.length_pending] at h
  rw [feedFrames, if_pos (by omega)]

theorem feedFrames_of_within (h : ((ctx.pending.length + data.length : ℕ) : Int) ≤ maxFrameBuf) :
    Follows ctx (feedFrames ctx data maxFrameBuf maxFrame fn s)
      ((frameDecoder (uint32 maxFrame) fn).run s (ctx.pending ++ data)) := by
  rw [ctx.length_pending] at h
  rw [feedFrames, if_neg (by omega), ← ctx.pending_shift_append]
  have hloop := @frameLoop_eq_run _ (uint32 maxFrame) fn (ctx.shift.append data) s
    ((ctx.shift.append data).frameBuf.length + 1) (by
      rw [ConnContext.length_pending]
      omega)
  have hshift : ctx.shift.connectionID = ctx.connectionID ∧
      ctx.shift.proxyHeaderParsed = ctx.proxyHeaderParsed := by
    unfold ConnContext.shift
    split <;> exact ⟨rfl, rfl⟩
  exact { hloop with
    connectionID := hloop.connectionID.trans hshift.1
    proxyHeaderParsed := hloop.proxyHeaderParsed.trans hshift.2 }

theorem tcpReceiver_follows (maxFrameBuf maxFrame : Int) (fn : σ → Bytes → σ × Bool) :
    (tcpReceiver maxFrameBuf maxFrame fn).Follows (frameDecoder (uint32 maxFrame) fn) maxFrameBuf
      (fun _ => True) where
  exceeds := by
    intro k data _ h
    have hread := @feedFrames_of_exceeds _ maxFrameBuf maxFrame fn k.1 k.2 data (Int.not_le.mpr h)
    simp only [tcpReceiver, hread]
    exact ⟨trivial, trivial⟩
  fits := by
    intro k data _ h
    have hread := @feedFrames_of_within _ maxFrameBuf maxFrame fn k.1 k.2 data h
    exact ⟨hread.ok, hread.state, fun hopen => ⟨hread.pending hopen, trivial⟩⟩

theorem tcpReceiver_synced (hempty : ctx.pending = []) :
    Receiver.Synced (tcpReceiver maxFrameBuf maxFrame fn) (frameDecoder (uint32 maxFrame) fn) s []
      (ctx, s) := by
  have hwait : (frameDecoder (uint32 maxFrame) fn).step s [] = .more := rfl
  have hrun := Decoder.run_of_more hwait
  exact ⟨by rw [hrun]; rfl, by rw [hrun]; exact hempty, by rw [hrun]⟩

end Reads

/-! ## The format -/

/-- The reference parse: `b` is the frames `frames`, each a length of four bytes and as many bytes,
followed by `rest`, which does not start with a frame. -/
structure Parses (maxFrame : ℕ) (b : Bytes) (frames : List Bytes) (rest : Bytes) : Prop where
  bytes : b = frames.flatMap writeFrame ++ rest
  legal : ∀ f ∈ frames, 1 ≤ f.length ∧ f.length ≤ maxFrame
  maximal : ∀ f tail, 1 ≤ f.length → f.length ≤ maxFrame → rest ≠ writeFrame f ++ tail

/-- The bytes start with a length that is not allowed. -/
def Invalid (maxFrame : ℕ) (b : Bytes) : Prop :=
  ∃ n tail, n < 256 ^ 4 ∧ (n = 0 ∨ maxFrame < n) ∧ b = bigEndian 4 n ++ tail

section Format

variable {maxFrame : ℕ} {b rest rest' : Bytes} {frames frames' : List Bytes} {f g x y : Bytes}

theorem drop_writeFrame_append (f tail : Bytes) : (writeFrame f ++ tail).drop (4 + f.length) = tail :=
  drop_left' (by simp [writeFrame])

theorem bigEndian_append_inj {n m : ℕ} (hn : n < 256 ^ 4) (hm : m < 256 ^ 4)
    (h : bigEndian 4 n ++ x = bigEndian 4 m ++ y) : n = m ∧ x = y := by
  have hparts := append_inj h (by simp)
  refine ⟨?_, hparts.2⟩
  rw [← uintBE_bigEndian hn, ← uintBE_bigEndian hm, hparts.1]

theorem writeFrame_append_inj (hf : f.length < 256 ^ 4) (hg : g.length < 256 ^ 4)
    (h : writeFrame f ++ x = writeFrame g ++ y) : f = g ∧ x = y := by
  obtain ⟨hlen, htail⟩ := bigEndian_append_inj hf hg h
  exact append_inj htail hlen

theorem Invalid.ne_writeFrame (hmax : maxFrame < 256 ^ 4) (h : Invalid maxFrame b) (tail : Bytes)
    (hpos : 1 ≤ f.length) (hle : f.length ≤ maxFrame) : b ≠ writeFrame f ++ tail := by
  obtain ⟨n, tail', hn, hbad, rfl⟩ := h
  intro heq
  have hlen := (bigEndian_append_inj hn (by omega) heq).1
  omega

theorem Parses.of_append (hmax : maxFrame < 256 ^ 4) {passed : List Bytes}
    (h : Parses maxFrame (passed.flatMap writeFrame ++ rest') frames rest)
    (hlegal : ∀ f ∈ passed, 1 ≤ f.length ∧ f.length ≤ maxFrame) :
    ∃ more, frames = passed ++ more ∧ Parses maxFrame rest' more rest := by
  induction passed generalizing frames with
  | nil => exact ⟨frames, rfl, h⟩
  | cons p passed ih =>
    obtain ⟨hp, hpassed⟩ := forall_mem_cons.mp hlegal
    have hbytes := h.bytes
    rw [flatMap_cons, append_assoc] at hbytes
    cases frames with
    | nil => exact absurd hbytes.symm (h.maximal p _ hp.1 hp.2)
    | cons f frames =>
      obtain ⟨hf, hframes⟩ := forall_mem_cons.mp h.legal
      rw [flatMap_cons, append_assoc] at hbytes
      obtain ⟨rfl, htail⟩ := writeFrame_append_inj (by omega) (by omega) hbytes
      obtain ⟨more, rfl, hmore⟩ := ih ⟨htail, hframes, h.maximal⟩ hpassed
      exact ⟨more, rfl, hmore⟩

theorem Parses.unique (hmax : maxFrame < 256 ^ 4) (h : Parses maxFrame b frames rest)
    (h' : Parses maxFrame b frames' rest') : frames = frames' ∧ rest = rest' := by
  rw [h'.bytes] at h
  obtain ⟨more, rfl, hmore⟩ := h.of_append hmax h'.legal
  cases more with
  | nil =>
    refine ⟨append_nil _, ?_⟩
    simpa using hmore.bytes.symm
  | cons f more =>
    obtain ⟨hf, -⟩ := forall_mem_cons.mp hmore.legal
    have hbytes := hmore.bytes
    rw [flatMap_cons, append_assoc] at hbytes
    exact absurd hbytes (h'.maximal f _ hf.1 hf.2)

end Format

/-! ## Frames passed to the callback -/

/-- The callback with a record of the frames passed to it. -/
def recording (fn : σ → Bytes → σ × Bool) (t : List Bytes × σ) (f : Bytes) :
    (List Bytes × σ) × Bool :=
  ((t.1 ++ [f], (fn t.2 f).1), (fn t.2 f).2)

/-- The state after the callback was given some frames. -/
def afterFrames (fn : σ → Bytes → σ × Bool) (s : σ) (frames : List Bytes) : σ :=
  frames.foldl (fun s f => (fn s f).1) s

/-- The callback answers to go on at every one of these frames. -/
def Accepts (fn : σ → Bytes → σ × Bool) : σ → List Bytes → Prop
  | _, [] => True
  | s, f :: frames => (fn s f).2 = true ∧ Accepts fn (fn s f).1 frames

/-- The callback answers to go on at every one of these frames but the last. -/
def Rejects (fn : σ → Bytes → σ × Bool) (s : σ) (frames : List Bytes) : Prop :=
  ∃ before f, frames = before ++ [f] ∧ Accepts fn s before ∧
    (fn (afterFrames fn s before) f).2 = false

section Passed

variable {maxFrame : ℕ} {fn : σ → Bytes → σ × Bool} {s : σ} {b rest : Bytes}
  {frames more : List Bytes} {f : Bytes} {t : List Bytes × σ}

theorem afterFrames_append : afterFrames fn s (frames ++ more) = afterFrames fn (afterFrames fn s frames) more :=
  foldl_append

theorem accepts_append :
    Accepts fn s (frames ++ more) ↔ Accepts fn s frames ∧ Accepts fn (afterFrames fn s frames) more := by
  induction frames generalizing s with
  | nil => simp [Accepts, afterFrames]
  | cons f frames ih => simp [Accepts, afterFrames, ih, and_assoc]

theorem rejects_append (h : Accepts fn s frames) (hmore : Rejects fn (afterFrames fn s frames) more) :
    Rejects fn s (frames ++ more) := by
  obtain ⟨before, f, rfl, hbefore, hf⟩ := hmore
  exact ⟨frames ++ before, f, (append_assoc _ _ _).symm, accepts_append.mpr ⟨h, hbefore⟩, by
    rwa [afterFrames_append]⟩

/-- What was passed to the callback, with what record and to what end, when the bytes `b` were
decoded from the record `t`. -/
structure Passes (maxFrame : ℕ) (fn : σ → Bytes → σ × Bool) (t : List Bytes × σ) (b : Bytes)
    (o : Decoder.Outcome UInt8 (List Bytes × σ)) (passed : List Bytes) : Prop where
  state : o.state = (t.1 ++ passed, afterFrames fn t.2 passed)
  bytes : b = passed.flatMap writeFrame ++ o.rest
  legal : ∀ f ∈ passed, 1 ≤ f.length ∧ f.length ≤ maxFrame
  waiting : o.stopped = false → Accepts fn t.2 passed ∧
    ∀ f tail, 1 ≤ f.length → f.length ≤ maxFrame → o.rest ≠ writeFrame f ++ tail
  ended : o.stopped = true → Accepts fn t.2 passed ∧ Invalid maxFrame o.rest ∨ Rejects fn t.2 passed

theorem ne_writeFrame_of_more (hmax : maxFrame < 256 ^ 4) (h : frameStep maxFrame fn s b = .more)
    (tail : Bytes) (hpos : 1 ≤ f.length) (hle : f.length ≤ maxFrame) : b ≠ writeFrame f ++ tail := by
  rintro rfl
  rcases hfn : fn s f with ⟨s', _ | _⟩
  · rw [frameStep_eq_iff.mpr (.rejected (by omega) (by omega) hle hfn)] at h
    cases h
  · rw [frameStep_eq_iff.mpr (.accepted (by omega) (by omega) hle hfn)] at h
    cases h

theorem exists_passes (hmax : maxFrame < 256 ^ 4) (t : List Bytes × σ) (b : Bytes) :
    ∃ passed, Passes maxFrame fn t b ((frameDecoder maxFrame (recording fn)).run t b) passed := by
  induction t, b using (frameDecoder maxFrame (recording fn)).run_induction with
  | more t b h =>
    rw [Decoder.run_of_more h]
    refine ⟨[], by simp [afterFrames], rfl, by simp, fun _ => ⟨trivial, ?_⟩, by simp⟩
    intro f tail hpos hle
    exact ne_writeFrame_of_more hmax h tail hpos hle
  | stop t b n t' h =>
    rw [Decoder.run_of_stop h]
    cases frameStep_eq_iff.mp h with
    | invalid hn hbad =>
      exact ⟨[], by simp [afterFrames], rfl, by simp, by simp, fun _ =>
        .inl ⟨trivial, _, _, hn, hbad, rfl⟩⟩
    | @rejected f tail _ hn hpos hle hfn =>
      obtain ⟨rfl, hno⟩ := Prod.mk.inj hfn
      refine ⟨[f], rfl, ?_, ?_, by simp, fun _ => .inr ⟨[], f, rfl, trivial, hno⟩⟩
      · rw [drop_writeFrame_append]
        simp
      · simpa using ⟨by omega, hle⟩
  | take t b n t' h ih =>
    rw [Decoder.run_of_take h]
    obtain ⟨passed, hp⟩ := ih
    cases frameStep_eq_iff.mp h with
    | @accepted f tail _ hn hpos hle hfn =>
      obtain ⟨rfl, hyes⟩ := Prod.mk.inj hfn
      rw [drop_writeFrame_append] at hp ⊢
      refine ⟨f :: passed, ?_, ?_, ?_, ?_, ?_⟩
      · rw [hp.state]
        simp [afterFrames]
      · rw [flatMap_cons, append_assoc, ← hp.bytes]
      · exact forall_mem_cons.mpr ⟨⟨by omega, hle⟩, hp.legal⟩
      · intro hopen
        exact ⟨⟨hyes, (hp.waiting hopen).1⟩, (hp.waiting hopen).2⟩
      · intro hstop
        rcases hp.ended hstop with ⟨hacc, hinv⟩ | hrej
        · exact .inl ⟨⟨hyes, hacc⟩, hinv⟩
        · exact .inr (@rejects_append _ fn t.2 [f] passed ⟨hyes, trivial⟩ hrej)

end Passed

/-! ## Reads of one connection -/

section Refinement

variable {maxFrame : ℕ} {fn : σ → Bytes → σ × Bool} {s : σ}

/-- What a connection that started with an empty context has done with the bytes `b`: the record of
the callback and the bytes retained. -/
structure Consumed (maxFrame : ℕ) (fn : σ → Bytes → σ × Bool) (s : σ) (b : Bytes)
    (ctx : ConnContext) (t : List Bytes × σ) : Prop where
  parses : Parses maxFrame b t.1 ctx.pending
  accepts : Accepts fn s t.1
  state : t.2 = afterFrames fn s t.1

/-- How the reads of a connection ended in a failure: the callback refused the last frame, a length
was not allowed, or the buffer had no room for the last read. -/
inductive Failed (maxFrameBuf : Int) (maxFrame : ℕ) (fn : σ → Bytes → σ × Bool) (s : σ) (b : Bytes) :
    List Bytes → Prop
  | refused {frames : List Bytes} : Rejects fn s frames → Failed maxFrameBuf maxFrame fn s b frames
  | invalid {frames : List Bytes} {rest : Bytes} : Accepts fn s frames → Parses maxFrame b frames rest →
      Invalid maxFrame rest → Failed maxFrameBuf maxFrame fn s b frames
  | overflow {frames : List Bytes} {before data rest : Bytes} : Accepts fn s frames →
      b = before ++ data → Parses maxFrame before frames rest →
      maxFrameBuf < ((rest.length + data.length : ℕ) : Int) → Failed maxFrameBuf maxFrame fn s b frames

theorem uint32_natCast {n : ℕ} (h : n < 256 ^ 4) : uint32 n = n := by
  unfold uint32
  omega

theorem exists_parses (hmax : maxFrame < 256 ^ 4) (b : Bytes) :
    ∃ frames rest, Parses maxFrame b frames rest := by
  -- decode with a callback that accepts everything
  let fn : Unit → Bytes → Unit × Bool := fun _ _ => ((), true)
  obtain ⟨passed, hp⟩ := @exists_passes _ maxFrame fn hmax ([], ()) b
  refine ⟨passed, _, hp.bytes, hp.legal, ?_⟩
  cases hstop : ((frameDecoder maxFrame (recording fn)).run ([], ()) b).stopped with
  | false => exact (hp.waiting hstop).2
  | true =>
    rcases hp.ended hstop with ⟨-, hinvalid⟩ | ⟨before, f, -, -, hno⟩
    · intro f tail hpos hle
      exact hinvalid.ne_writeFrame hmax tail hpos hle
    · cases hno

theorem exists_parses_of_bytes (hmax : maxFrame < 256 ^ 4) {b rest : Bytes} {passed : List Bytes}
    (hbytes : b = passed.flatMap writeFrame ++ rest)
    (hlegal : ∀ f ∈ passed, 1 ≤ f.length ∧ f.length ≤ maxFrame) :
    ∃ frames rest, Parses maxFrame b frames rest ∧ passed <+: frames := by
  obtain ⟨frames, rest', hparses⟩ := exists_parses hmax b
  rw [hbytes] at hparses
  obtain ⟨more, rfl, -⟩ := hparses.of_append hmax hlegal
  exact ⟨_, _, hbytes ▸ hparses, prefix_append _ _⟩

/-- What a failed read leaves behind. -/
def FailedWith (maxFrameBuf : Int) (maxFrame : ℕ) (fn : σ → Bytes → σ × Bool) (s : σ) (b : Bytes)
    (passed : List Bytes) : Prop :=
  Failed maxFrameBuf maxFrame fn s b passed ∧
    ∃ frames rest, Parses maxFrame b frames rest ∧ passed <+: frames

section Step

variable {b : Bytes} {ctx : ConnContext} {t : List Bytes × σ}

theorem Consumed.feedFrames (hmax : maxFrame < 256 ^ 4) (h : Consumed maxFrame fn s b ctx t)
    (maxFrameBuf : Int) (data : Bytes) :
    let r := feedFrames ctx data maxFrameBuf maxFrame (recording fn) t
    (r.2.2 = true → Consumed maxFrame fn s (b ++ data) r.1 r.2.1) ∧
      (r.2.2 = false → FailedWith maxFrameBuf maxFrame fn s (b ++ data) r.2.1.1) := by
  intro r
  by_cases hfits : ((ctx.pending.length + data.length : ℕ) : Int) ≤ maxFrameBuf
  · have hread := @feedFrames_of_within _ maxFrameBuf maxFrame (recording fn) ctx t data hfits
    rw [uint32_natCast hmax] at hread
    obtain ⟨passed, hp⟩ := @exists_passes _ maxFrame fn hmax t (ctx.pending ++ data)
    -- name what the decoder did with the bytes pending and the bytes of this read
    generalize (frameDecoder maxFrame (recording fn)).run t (ctx.pending ++ data) = o at hread hp
    have hstate : r.2.1 = (t.1 ++ passed, afterFrames fn t.2 passed) := hread.state.trans hp.state
    have hanswer : r.2.2 = !o.stopped := hread.ok
    have hbytes : b ++ data = (t.1 ++ passed).flatMap writeFrame ++ o.rest := by
      rw [h.parses.bytes, append_assoc, hp.bytes, flatMap_append, append_assoc]
    have hlegal : ∀ f ∈ t.1 ++ passed, 1 ≤ f.length ∧ f.length ≤ maxFrame :=
      forall_mem_append.mpr ⟨h.parses.legal, hp.legal⟩
    have hwaiting := hp.waiting
    have hended := hp.ended
    rw [h.state] at hwaiting hended
    constructor
    · intro hok
      have hopen : o.stopped = false := by simpa [hok] using hanswer
      obtain ⟨haccepts, hmaximal⟩ := hwaiting hopen
      refine ⟨?_, ?_, ?_⟩
      · rw [hread.pending hopen, hstate]
        exact ⟨hbytes, hlegal, hmaximal⟩
      · rw [hstate]
        exact accepts_append.mpr ⟨h.accepts, haccepts⟩
      · rw [hstate, afterFrames_append, h.state]
    · intro hfail
      have hstop : o.stopped = true := by simpa [hfail] using hanswer
      obtain ⟨frames, rest, hparses, hprefix⟩ := exists_parses_of_bytes hmax hbytes hlegal
      rw [FailedWith, hstate]
      refine ⟨?_, frames, rest, hparses, hprefix⟩
      rcases hended hstop with ⟨haccepts, hinvalid⟩ | hrej
      · refine .invalid (accepts_append.mpr ⟨h.accepts, haccepts⟩) ⟨hbytes, hlegal, ?_⟩ hinvalid
        intro f tail hpos hle
        exact hinvalid.ne_writeFrame hmax tail hpos hle
      · exact .refused (rejects_append h.accepts hrej)
  · have hread := @feedFrames_of_exceeds _ maxFrameBuf maxFrame (recording fn) ctx t data hfits
    have hr : r = (ctx.clear, t, false) := hread
    rw [hr]
    refine ⟨by simp, fun _ => ⟨.overflow h.accepts rfl h.parses (by omega), ?_⟩⟩
    have hbytes : b ++ data = t.1.flatMap writeFrame ++ (ctx.pending ++ data) := by
      rw [← append_assoc, ← h.parses.bytes]
    exact exists_parses_of_bytes hmax hbytes h.parses.legal

end Step

end Refinement

/-- **TCP framing refines the length-prefix format.** For reads fed to an empty context, up to the
first failure: the frames passed to the callback are the first frames of the parse of the bytes fed;
without a failure they are all its frames and the bytes retained are its rest; a failure is one of the
callback, of a length or of the buffer's limit. A string has one parse, and without a read that meets
the limit the reads' boundaries make no difference. -/
theorem feedFrames_refines (maxFrameBuf : Int) (maxFrame : ℕ) (hmax : maxFrame < 2 ^ 32)
    (fn : σ → Bytes → σ × Bool) (s : σ) :
    let tcp := tcpReceiver maxFrameBuf maxFrame (recording fn)
    let start : ConnContext × List Bytes × σ := ({}, [], s)
    (∀ reads : List Bytes, let r := tcp.readAll start reads
      let b := (tcp.fed start reads).flatten
      ∃ frames rest, Parses maxFrame b frames rest ∧ r.1.2.1 <+: frames ∧
        (r.2 = true → r.1.2.1 = frames ∧ r.1.1.pending = rest ∧ Accepts fn s frames) ∧
        (r.2 = false → Failed maxFrameBuf maxFrame fn s b r.1.2.1)) ∧
      (∀ b frames rest frames' rest', Parses maxFrame b frames rest →
        Parses maxFrame b frames' rest' → frames = frames' ∧ rest = rest') ∧
      (∀ reads reads' : List Bytes, reads.flatten = reads'.flatten →
        (frameDecoder maxFrame (recording fn)).Fits maxFrameBuf ([], s) [] reads →
        (frameDecoder maxFrame (recording fn)).Fits maxFrameBuf ([], s) [] reads' →
        (tcp.readAll start reads).2 = (tcp.readAll start reads').2 ∧
          (tcp.readAll start reads).1.2 = (tcp.readAll start reads').1.2 ∧
          ((tcp.readAll start reads).2 = true →
            (tcp.readAll start reads).1.1.pending = (tcp.readAll start reads').1.1.pending)) := by
  intro tcp start
  have hmax' : maxFrame < 256 ^ 4 := by omega
  refine ⟨?_, fun b frames rest frames' rest' h h' => h.unique hmax' h', ?_⟩
  · intro reads r b
    have hempty : Consumed maxFrame fn s [] {} ([], s) :=
      ⟨⟨rfl, by simp, by simp [ConnContext.pending, writeFrame, bigEndian]⟩, trivial, rfl⟩
    obtain ⟨hok, hfail⟩ := @Receiver.readAll_rule _ _ _ tcp start []
      (fun b k => Consumed maxFrame fn s b k.1 k.2)
      (fun b k => FailedWith maxFrameBuf maxFrame fn s b k.2.1)
      (fun b k data h => (h.feedFrames hmax' maxFrameBuf data).1)
      (fun b k data h => (h.feedFrames hmax' maxFrameBuf data).2) hempty reads
    cases hr : r.2 with
    | true =>
      have hc := hok hr
      exact ⟨_, _, hc.parses, prefix_rfl, fun _ => ⟨rfl, rfl, hc.accepts⟩, by simp⟩
    | false =>
      obtain ⟨hfailed, frames, rest, hparses, hprefix⟩ := hfail hr
      exact ⟨frames, rest, hparses, hprefix, by simp, fun _ => hfailed⟩
  · intro reads reads' hflat hfits hfits'
    have hfollows := tcpReceiver_follows maxFrameBuf maxFrame (recording fn)
    rw [uint32_natCast hmax'] at hfollows
    have hsynced := @tcpReceiver_synced _ maxFrameBuf maxFrame (recording fn) {} ([], s) rfl
    rw [uint32_natCast hmax'] at hsynced
    exact hfollows.readAll_eq_of_flatten trivial hsynced hflat hfits hfits'

/-- A frame of one byte that is cut by a read boundary, and the beginning of a second one. -/
theorem feedFrames_refines_cut :
    let tcp := tcpReceiver 16 (8 : ℕ) (recording fun n f => (n + f.length, true))
    (tcp.readAll ({}, [], 0) [[0, 0, 0], [1, 7, 0]]).1.2 = ([[7]], 1) ∧
      Parses 8 [0, 0, 0, 1, 7, 0] [[7]] [0] := by
  obtain ⟨frames, rest, hparses, -, hok, -⟩ :=
    (feedFrames_refines 16 8 (by decide) (fun n f => (n + f.length, true)) 0).1 [[0, 0, 0], [1, 7, 0]]
  obtain ⟨rfl, rfl, -⟩ := hok (by decide)
  exact ⟨by decide, hparses⟩

end Sgate.Gateway
