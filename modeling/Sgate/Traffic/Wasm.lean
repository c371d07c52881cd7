import Sgate.Gateway.Frames

/-! # Messages to and from a plugin

`buildWasmInput` and `applyWasmOutput` speak to a WASM plugin in records of a tag, a length and a value.
Strings are the bytes they are made of. -/

namespace Sgate.Traffic.Wasm

open Gateway LoginPath List

/-- `FilterContext`, with its strings as bytes. -/
structure WasmContext where
  connectionID : Bytes := []
  remoteIP : Bytes := []
  route : Bytes := []
  cmd : ℤ := 0
  data : Bytes := []
  userUUID : Bytes := []
  metadata : KeyMap String Bytes := .empty
  abort : Bool := false
  dropReason : Bytes := []
  mirrored : Bool := false

/-! ## Records -/

abbrev WasmField : Type := UInt8 × Bytes

/-- `writeWasmField`, with a length of `k` bytes. -/
def writeWasmField (k : ℕ) (r : WasmField) : Bytes := r.1 :: (bigEndian k r.2.length ++ r.2)

/-- The value of a record with the given tag at the front, and what follows it. -/
def readWasmField (k : ℕ) (tag : UInt8) : Bytes → Option (Bytes × Bytes)
  | [] => none
  | t :: b =>
    let l := uintBE (b.take k)
    if t = tag ∧ k + l ≤ b.length then some ((b.drop k).take l, b.drop (k + l)) else none

variable {k : ℕ} {tag : UInt8} {b v rest : Bytes}

/-- A field is read as it was written, whatever follows it. -/
theorem readWasmField_append (h : v.length < 256 ^ k) (rest : Bytes) :
    readWasmField k tag (writeWasmField k (tag, v) ++ rest) = some (v, rest) := by
  simp [writeWasmField, readWasmField, uintBE_bigEndian h, drop_append]

/-- Only what was written as a field is read as one. -/
theorem readWasmField_eq_some_iff : readWasmField k tag b = some (v, rest) ↔
    v.length < 256 ^ k ∧ b = writeWasmField k (tag, v) ++ rest := by
  constructor
  · intro h
    cases b with
    | nil => cases h
    | cons t b =>
      obtain ⟨⟨rfl, hle⟩, heq⟩ := Option.ite_none_right_eq_some.mp h
      cases heq
      have htake : (b.take k).length = k := by simp; omega
      have hlt := uintBE_lt (b.take k)
      have hback := bigEndian_uintBE (b.take k)
      rw [htake] at hlt hback
      have hlen : ((b.drop k).take (uintBE (b.take k))).length = uintBE (b.take k) := by simp; omega
      refine ⟨hlen.trans_lt hlt, ?_⟩
      rw [writeWasmField, hlen, hback, ← drop_drop]
      simp
  · rintro ⟨h, rfl⟩
    exact readWasmField_append h rest

/-! ## Input -/

def buildWasmInput (fc : WasmContext) : Bytes :=
  writeWasmField 2 (114, fc.route) ++ writeWasmField 2 (99, fc.connectionID) ++
    writeWasmField 2 (117, fc.userUUID) ++ writeWasmField 2 (105, fc.remoteIP) ++
      writeWasmField 4 (100, fc.data)

/-- What a plugin is told. -/
structure WasmInput where
  route : Bytes
  connectionID : Bytes
  userUUID : Bytes
  remoteIP : Bytes
  data : Bytes

/-- A plugin that follows the layout: the fields `r`, `c`, `u`, `i`, then `d`. -/
def parseWasmInput (b : Bytes) : Option WasmInput := do
  let (route, b) ← readWasmField 2 114 b
  let (connectionID, b) ← readWasmField 2 99 b
  let (userUUID, b) ← readWasmField 2 117 b
  let (remoteIP, b) ← readWasmField 2 105 b
  let (data, b) ← readWasmField 4 100 b
  if b = [] then some ⟨route, connectionID, userUUID, remoteIP, data⟩ else none

def WasmContext.input (fc : WasmContext) : WasmInput :=
  ⟨fc.route, fc.connectionID, fc.userUUID, fc.remoteIP, fc.data⟩

/-- The strings fit their length fields. -/
def WasmContext.Short (fc : WasmContext) : Prop :=
  ∀ s ∈ [fc.route, fc.connectionID, fc.userUUID, fc.remoteIP], s.length < 2 ^ 16

theorem parseWasmInput_eq_some_iff {fc : WasmContext} : parseWasmInput b = some fc.input ↔
    fc.Short ∧ fc.data.length < 2 ^ 32 ∧ b = buildWasmInput fc := by
  simp only [WasmContext.Short, forall_mem_cons, parseWasmInput, Option.bind_eq_bind,
    Option.bind_eq_some_iff, Prod.exists, readWasmField_eq_some_iff, Option.ite_none_right_eq_some,
    buildWasmInput, append_assoc]
  constructor
  · rintro ⟨_, _, ⟨hr, rfl⟩, _, _, ⟨hc, rfl⟩, _, _, ⟨hu, rfl⟩, _, _, ⟨hi, rfl⟩, _, _, ⟨hd, rfl⟩, rfl, h⟩
    cases h
    exact ⟨⟨hr, hc, hu, hi, by simp⟩, hd, by simp⟩
  · rintro ⟨⟨hr, hc, hu, hi, -⟩, hd, rfl⟩
    exact ⟨_, _, ⟨hr, rfl⟩, _, _, ⟨hc, rfl⟩, _, _, ⟨hu, rfl⟩, _, _, ⟨hi, rfl⟩, _, [],
      ⟨hd, (append_nil _).symm⟩, rfl, rfl⟩

/-- **The input of a plugin.** A plugin recovers the fields of a context exactly if its strings fit their
length fields, and two such contexts with the same input have the same fields. -/
theorem wasmInput_iff (fc fc' : WasmContext) (hdata : fc.data.length < 2 ^ 32)
    (hdata' : fc'.data.length < 2 ^ 32) :
    (parseWasmInput (buildWasmInput fc) = some fc.input ↔ fc.Short) ∧
    (fc.Short → fc'.Short → buildWasmInput fc = buildWasmInput fc' → fc.input = fc'.input) := by
  constructor
  · rw [parseWasmInput_eq_some_iff]
    exact ⟨fun h => h.1, fun h => ⟨h, hdata, rfl⟩⟩
  · intro h h' heq
    have hparse := parseWasmInput_eq_some_iff.mpr ⟨h, hdata, rfl⟩
    have hparse' := parseWasmInput_eq_some_iff.mpr ⟨h', hdata', heq⟩
    exact Option.some.inj (hparse.symm.trans hparse')

theorem wasmInput_iff_login :
    parseWasmInput (buildWasmInput { route := [49], userUUID := [117, 49] }) =
      some ⟨[49], [], [117, 49], [], []⟩ :=
  (wasmInput_iff { route := [49], userUUID := [117, 49] } {} (by decide) (by decide)).1.mpr
    (by simp [WasmContext.Short])

/-- A user identifier of 65536 bytes that holds an address and the start of a payload. -/
def forgingUser : Bytes :=
  writeWasmField 2 (105, [57]) ++ (100 :: bigEndian 4 65536) ++ List.replicate 65527 0

/-- With it, the input is that of an anonymous user from another address. -/
theorem wasmInput_forged :
    buildWasmInput { userUUID := forgingUser, remoteIP := [49] } =
      buildWasmInput { remoteIP := [57], data := replicate 65527 0 ++
        (writeWasmField 2 (105, [49]) ++ writeWasmField 4 (100, [])) } := by
  -- of the zeros only the number matters
  have hforged (z : Bytes) (hz : z.length = 65527) :
      buildWasmInput { userUUID := writeWasmField 2 (105, [57]) ++ (100 :: bigEndian 4 65536) ++ z
                       remoteIP := [49] } =
        buildWasmInput { remoteIP := [57], data := z ++
          (writeWasmField 2 (105, [49]) ++ writeWasmField 4 (100, [])) } := by
    simp [buildWasmInput, writeWasmField, bigEndian, hz]
  exact hforged _ length_replicate

/-! ## Output -/

/-- What a record of the output sets. -/
def WasmContext.apply (fc : WasmContext) (r : WasmField) : WasmContext :=
  if r.1 = 114 then { fc with route := r.2 }
  else if r.1 = 117 then { fc with userUUID := r.2 }
  else if r.1 = 109 then { fc with metadata := fc.metadata.store "wasm.note" r.2 }
  else fc

/-- The loop of `applyWasmOutput` from a position on; `none` if it reads out of bounds. -/
def wasmLoop (out : Bytes) (pos : ℕ) (fc : WasmContext) : Option WasmContext :=
  if pos < out.length then
    match out[pos]?, out[pos + 1]?, out[pos + 2]? with
    | some tag, hi, lo =>
      if out.length < pos + 1 + 2 then some fc
      else
        match hi, lo with
        | some hi, some lo =>
          let l := hi.toNat * 256 + lo.toNat
          if out.length < pos + 3 + l then some fc
          else wasmLoop out (pos + 3 + l) (fc.apply (tag, (out.drop (pos + 3)).take l))
        | _, _ => none
    | none, _, _ => none
  else some fc
termination_by out.length - pos

def applyWasmOutput (fc : WasmContext) (out : Bytes) : Option WasmContext :=
  if out.length < 3 then some fc else wasmLoop out 0 fc

def writeWasmFields (rs : List WasmField) : Bytes := rs.flatMap (writeWasmField 2)

/-- Complete records at the front, as many as there are. -/
def LongestPrefix (out : Bytes) (rs : List WasmField) : Prop :=
  (∀ r ∈ rs, r.2.length < 2 ^ 16) ∧ writeWasmFields rs <+: out ∧
    ∀ rs', (∀ r ∈ rs', r.2.length < 2 ^ 16) → writeWasmFields rs' <+: out → rs' <+: rs

theorem longestPrefix_nil (h : ∀ tag ∈ b.head?, readWasmField 2 tag b = none) : LongestPrefix b [] := by
  refine ⟨by simp, by simp [writeWasmFields], fun rs' hshort hprefix => ?_⟩
  cases rs' with
  | nil => exact prefix_rfl
  | cons r rs' =>
    obtain ⟨rest, rfl⟩ := hprefix
    have hread := h r.1 rfl
    rw [writeWasmFields, flatMap_cons, append_assoc,
      readWasmField_append (hshort r mem_cons_self)] at hread
    cases hread

theorem longestPrefix_cons {rs : List WasmField} (h : v.length < 2 ^ 16) (hrs : LongestPrefix rest rs) :
    LongestPrefix (writeWasmField 2 (tag, v) ++ rest) ((tag, v) :: rs) := by
  obtain ⟨hshort, hpre, hmax⟩ := hrs
  refine ⟨forall_mem_cons.mpr ⟨h, hshort⟩, ?_, fun rs' hshort' hpre' => ?_⟩
  · rw [writeWasmFields, flatMap_cons]
    exact prefix_append_right_inj _ |>.mpr hpre
  · cases rs' with
    | nil => exact nil_prefix
    | cons r' rs' =>
      obtain ⟨hr', hshort'⟩ := forall_mem_cons.mp hshort'
      obtain ⟨tail, htail⟩ := hpre'
      rw [writeWasmFields, flatMap_cons, append_assoc] at htail
      obtain rfl : r'.1 = tag := (cons.inj htail).1
      have hread := congrArg (readWasmField 2 r'.1) htail
      rw [readWasmField_append hr', readWasmField_append h] at hread
      cases hread
      exact cons_prefix_cons.mpr ⟨rfl, hmax rs' hshort' (prefix_append _ _)⟩

/-- The loop applies the records that are complete, in order, and stops at the first that is not. -/
theorem exists_longestPrefix (pre b : Bytes) (fc : WasmContext) :
    ∃ rs, LongestPrefix b rs ∧
      wasmLoop (pre ++ b) pre.length fc = some (rs.foldl WasmContext.apply fc) := by
  induction hn : b.length using Nat.strong_induction_on generalizing pre b fc with
  | _ n ih =>
    rw [wasmLoop]
    cases b with
    | nil => exact ⟨[], longestPrefix_nil (by simp), by simp⟩
    | cons tag b =>
      cases hread : readWasmField 2 tag (tag :: b) with
      | none =>
        refine ⟨[], longestPrefix_nil (by simpa using hread), ?_⟩
        match b, hread with
        | [], _ | [_], _ => simp
        | x :: y :: b, hread =>
          have hlong : (x :: y :: b).length < 2 + (x.toNat * 256 + y.toNat) := by
            simpa [readWasmField, uintBE] using hread
          simp at hlong ⊢
          omega
      | some p =>
        obtain ⟨v, rest⟩ := p
        obtain ⟨hshort, heq⟩ := readWasmField_eq_some_iff.mp hread
        obtain ⟨x, y, hxy⟩ : ∃ x y, bigEndian 2 v.length = [x, y] := ⟨_, _, rfl⟩
        have hl : x.toNat * 256 + y.toNat = v.length := by
          simpa [hxy, uintBE] using uintBE_bigEndian hshort
        have hfield : writeWasmField 2 (tag, v) = tag :: x :: y :: v := by simp [writeWasmField, hxy]
        rw [heq, hfield] at hn ⊢
        obtain ⟨rs, hrs, hloop⟩ := ih rest.length (by simp [← hn]; omega)
          (pre ++ tag :: x :: y :: v) rest (fc.apply (tag, v)) rfl
        refine ⟨(tag, v) :: rs, hfield ▸ longestPrefix_cons hshort hrs, ?_⟩
        have hat (i : ℕ) : (pre ++ (tag :: x :: y :: v ++ rest))[pre.length + i]? =
            (tag :: x :: y :: v ++ rest)[i]? := by simp [getElem?_append_right]
        have hzero := hat 0
        rw [Nat.add_zero] at hzero
        have hlong : ¬ v.length + (rest.length + 3) < 3 := by omega
        rw [hzero, hat, hat, drop_length_add_append]
        simpa [hl, hlong, Nat.add_assoc, Nat.add_comm 3] using hloop

/-- Nothing but the route, the user and the note changes. -/
theorem foldl_apply (rs : List WasmField) (fc : WasmContext) :
    let fc' := rs.foldl .apply fc
    fc' = { fc with route := fc'.route, userUUID := fc'.userUUID, metadata := fc'.metadata } := by
  induction rs generalizing fc with
  | nil => rfl
  | cons r rs ih =>
    rw [foldl_cons, WasmContext.apply]
    split_ifs <;> exact ih _

/-- **The output of a plugin.** The loop never reads out of bounds, and it applies the complete records at
the front of the output, in order; they set the route, the user and the note alone. -/
theorem applyWasmOutput_eq (fc : WasmContext) (out : Bytes) :
    ∃ rs fc', LongestPrefix out rs ∧ applyWasmOutput fc out = some fc' ∧
      fc' = rs.foldl WasmContext.apply fc ∧
      fc' = { fc with route := fc'.route, userUUID := fc'.userUUID, metadata := fc'.metadata } := by
  suffices h : ∃ rs, LongestPrefix out rs ∧
      applyWasmOutput fc out = some (rs.foldl WasmContext.apply fc) by
    obtain ⟨rs, hrs, hout⟩ := h
    exact ⟨rs, _, hrs, hout, rfl, foldl_apply rs fc⟩
  unfold applyWasmOutput
  split
  · rename_i hshort
    refine ⟨[], longestPrefix_nil ?_, rfl⟩
    match out, hshort with
    | [], _ | [_], _ | [_, _], _ =>
      simp [readWasmField]
      try omega
  · exact exists_longestPrefix [] out fc

end Sgate.Traffic.Wasm
