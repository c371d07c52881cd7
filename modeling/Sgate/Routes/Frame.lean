import Mathlib.Algebra.Ring.Nat
import Mathlib.Data.Int.Basic
import Mathlib.Tactic.Common

/-! # Stream messages and client frames

The envelope exchanged with the logic servers (`StreamData`), the command numbers and the decoder of
client frames. The readers of the protobuf runtime are a parameter (`Protowire`), with an instance that
follows the published wire format. -/

namespace Sgate

abbrev Bytes : Type := List UInt8

namespace Routes

/-! ## Command numbers -/

def cmdLoginGate : Int := 1000001
def cmdLogoutGate : Int := 1000003
/-- Login request to the logic server, the built-in command allowed before authentication. -/
def cmdLogicLoginReq : Int := 1100001
def cmdHeartbeatReq : Int := 1100010
def cmdUserOffline : Int := 1100012
/-- Several messages to a client in one frame. -/
def cmdPushBatch : Int := 9000002

/-- The message envelope between gateway and logic server. -/
structure StreamData where
  sessionId : String := ""
  userKey : String := ""
  cmd : Int := 0
  seqId : Int := 0
  data : Bytes := []
  clientIp : String := ""
  deriving DecidableEq

/-! ## Reading the wire -/

/-- The primitive readers of the protobuf runtime: each consumes a prefix of the input and returns
its value with the rest, or fails. -/
structure Protowire where
  /-- Field number and wire type. -/
  consumeTag : Bytes → Option ((ℕ × ℕ) × Bytes)
  /-- A base-128 varint, as an unsigned 64-bit value. -/
  consumeVarint : Bytes → Option (ℕ × Bytes)
  /-- A length-prefixed byte string. -/
  consumeBytes : Bytes → Option (Bytes × Bytes)
  /-- Skip the value of a field with the given number and wire type. -/
  consumeFieldValue : ℕ → ℕ → Bytes → Option Bytes

def varintType : ℕ := 0
/-- Wire type of length-prefixed values. -/
def bytesType : ℕ := 2

def int32 (v : ℕ) : Int := Int.bmod v (2 ^ 32)
/-- Reinterpret an unsigned 64-bit value as `int64`. -/
def int64 (v : ℕ) : Int := Int.bmod v (2 ^ 64)

/-- The fields of a frame read so far. -/
structure FrameFields where
  cmd : Int := 0
  seqID : Int := 0
  body : Bytes := []
  deriving DecidableEq

/-- One pass of the loop of `extractMessageFrame`: read one field. -/
def consumeFrameField (pw : Protowire) (f : FrameFields) (data : Bytes) :
    Option (FrameFields × Bytes) :=
  match pw.consumeTag data with
  | none => none
  | some ((num, typ), data) =>
    match num with
    | 1 =>
      if typ ≠ varintType then none
      else (pw.consumeVarint data).map fun r => ({ f with cmd := int32 r.1 }, r.2)
    | 2 =>
      if typ ≠ varintType then none
      else (pw.consumeVarint data).map fun r => ({ f with seqID := int64 r.1 }, r.2)
    | 99 =>
      if typ ≠ bytesType then none
      else (pw.consumeBytes data).map fun r => ({ f with body := r.1 }, r.2)
    | num => (pw.consumeFieldValue num typ data).map fun rest => (f, rest)

/-- The loop of `extractMessageFrame`. Every pass consumes at least the tag, so as many passes as
there are bytes are enough. -/
def consumeFrameFields (pw : Protowire) : ℕ → FrameFields → Bytes → Option FrameFields
  | _, f, [] => some f
  | 0, _, _ :: _ => none
  | fuel + 1, f, b :: bs =>
    match consumeFrameField pw f (b :: bs) with
    | none => none
    | some (f', rest) => consumeFrameFields pw fuel f' rest

/-- Read command, sequence number and body of a frame. A frame without a command is refused; the
body may be empty. -/
def extractMessageFrame (pw : Protowire) (data : Bytes) : Option FrameFields :=
  match consumeFrameFields pw data.length {} data with
  | none => none
  | some f => if f.cmd ≠ 0 then some f else none

/-- Decode a client frame into an envelope. Session, user key and client address stay empty: they
are never taken from the client. -/
def decodeClientMessage (pw : Protowire) (data : Bytes) : Option StreamData :=
  (extractMessageFrame pw data).map fun f => { cmd := f.cmd, seqId := f.seqID, data := f.body }

variable {pw : Protowire} {m : StreamData} {data : Bytes}

theorem decodeClientMessage_userKey (h : decodeClientMessage pw data = some m) :
    m.userKey = "" := by
  obtain ⟨f, -, rfl⟩ := Option.map_eq_some_iff.mp h
  rfl

theorem decodeClientMessage_cmd_ne (h : decodeClientMessage pw data = some m) : m.cmd ≠ 0 := by
  obtain ⟨f, hf, rfl⟩ := Option.map_eq_some_iff.mp h
  unfold extractMessageFrame at hf
  split at hf
  · cases hf
  · split at hf
    · cases hf; assumption
    · cases hf

/-! ## The published wire format -/

/-- Base-128 varint of at most `fuel` further bytes, least significant group first. -/
def readVarint : ℕ → ℕ → Bytes → Option (ℕ × Bytes)
  | 0, _, _ => none
  | _, _, [] => none
  | fuel + 1, shift, b :: bs =>
    if b.toNat < 128 then some (b.toNat * 2 ^ shift, bs)
    else (readVarint fuel (shift + 7) bs).map fun r => ((b.toNat - 128) * 2 ^ shift + r.1, r.2)

/-- A varint has at most ten bytes and fits into 64 bits. -/
def standardVarint (data : Bytes) : Option (ℕ × Bytes) :=
  match readVarint 10 0 data with
  | none => none
  | some (v, rest) => if v < 2 ^ 64 then some (v, rest) else none

def standardBytes (data : Bytes) : Option (Bytes × Bytes) :=
  match standardVarint data with
  | none => none
  | some (n, rest) => if n ≤ rest.length then some (rest.take n, rest.drop n) else none

/-- Field number and wire type share one varint; field numbers are positive 31-bit values. -/
def standardTag (data : Bytes) : Option ((ℕ × ℕ) × Bytes) :=
  match standardVarint data with
  | none => none
  | some (v, rest) => if 1 ≤ v / 8 ∧ v / 8 < 2 ^ 31 then some ((v / 8, v % 8), rest) else none

/-- Skip a field. Groups nest; the fuel bounds the number of fields read. -/
def standardFieldValue : ℕ → ℕ → ℕ → Bytes → Option Bytes
  | 0, _, _, _ => none
  | fuel + 1, num, typ, data =>
    match typ with
    | 0 => (standardVarint data).map Prod.snd
    | 1 => if 8 ≤ data.length then some (data.drop 8) else none
    | 2 => (standardBytes data).map Prod.snd
    | 3 => skipGroup fuel num data
    | 5 => if 4 ≤ data.length then some (data.drop 4) else none
    | _ => none
where
  /-- Skip the fields of a group up to its end tag. -/
  skipGroup : ℕ → ℕ → Bytes → Option Bytes
    | 0, _, _ => none
    | fuel + 1, num, data =>
      match standardTag data with
      | none => none
      | some ((num', typ'), rest) =>
        if typ' = 4 then (if num' = num then some rest else none)
        else
          match standardFieldValue fuel num' typ' rest with
          | none => none
          | some rest' => skipGroup fuel num rest'

/-- Readers that follow the published wire format. -/
def Protowire.standard : Protowire where
  consumeTag := standardTag
  consumeVarint := standardVarint
  consumeBytes := standardBytes
  consumeFieldValue := fun num typ data => standardFieldValue (2 * data.length + 2) num typ data

end Routes

end Sgate
