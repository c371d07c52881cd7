import Sgate.Gateway.Traffic
import Sgate.Gateway.WSOutput

/-! # The headers of the PROXY protocol

`parseProxyProtocolV1` against version 1 of the protocol. The reader takes `UNKNOWN` only when no field
follows, compares the position of the line end with 107 and not the length of the header, and takes a
source address of either family after both `TCP4` and `TCP6`. -/

namespace Sgate.Gateway

open List

inductive AddrFamily where
  | tcp4
  | tcp6

def AddrFamily.word : AddrFamily → Bytes
  | .tcp4 => tcp4Word
  | .tcp6 => tcp6Word

theorem AddrFamily.word_injective : Function.Injective AddrFamily.word
  | .tcp4, .tcp4, _ | .tcp6, .tcp6, _ => rfl
  | .tcp4, .tcp6, h | .tcp6, .tcp4, h => absurd h (by decide)

/-- A field of a header line: visible ASCII characters. -/
def IsWord (w : Bytes) : Prop := w ≠ [] ∧ ∀ b ∈ w, 32 < b ∧ b < 127

instance (w : Bytes) : Decidable (IsWord w) :=
  have := List.decidableBAll (fun b : UInt8 => 32 < b ∧ b < 127) w
  inferInstanceAs (Decidable (_ ∧ _))

def IsDecimal (w : Bytes) : Prop := w ≠ [] ∧ ∀ b ∈ w, 48 ≤ b ∧ b ≤ 57

instance (w : Bytes) : Decidable (IsDecimal w) :=
  have := List.decidableBAll (fun b : UInt8 => 48 ≤ b ∧ b ≤ 57) w
  inferInstanceAs (Decidable (_ ∧ _))

inductive ProxyHeader where
  | tcp (family : AddrFamily) (srcIP dstIP srcPort dstPort : Bytes)
  | unknown (further : List Bytes)

namespace ProxyHeader

def words : ProxyHeader → List Bytes
  | tcp family srcIP dstIP srcPort dstPort =>
    [proxyWord, family.word, srcIP, dstIP, srcPort, dstPort]
  | unknown further => proxyWord :: unknownWord :: further

def line (h : ProxyHeader) : Bytes := [32].intercalate h.words

def bytes (h : ProxyHeader) : Bytes := h.line ++ crlf

/-- The source address, empty for `UNKNOWN`. -/
def source : ProxyHeader → Bytes
  | tcp _ srcIP _ _ _ => srcIP
  | unknown _ => []

def Allowed (isAddr : AddrFamily → Bytes → Prop) (h : ProxyHeader) : Prop :=
  h.bytes.length ≤ 107 ∧ match h with
    | tcp family srcIP dstIP srcPort dstPort =>
      isAddr family srcIP ∧ isAddr family dstIP ∧ IsDecimal srcPort ∧ IsDecimal dstPort
    | unknown further => ∀ w ∈ further, IsWord w

/-- No field follows `UNKNOWN`. -/
def Bare : ProxyHeader → Prop
  | tcp .. => True
  | unknown further => further = []

end ProxyHeader

open ProxyHeader

variable {σ : Type*} {env : Traffic σ} {isAddr : AddrFamily → Bytes → Prop}

/-- `strings.Fields` and `netip.ParseAddr` as documented, on header lines: the fields of a line with
single spaces are its words, the addresses of both families are words and are parsed, and the empty
text is not. -/
structure Documented (env : Traffic σ) (isAddr : AddrFamily → Bytes → Prop) : Prop where
  fields_line : ∀ ws, (∀ w ∈ ws, IsWord w) → env.fields ([32].intercalate ws) = ws
  isWord : ∀ {family w}, isAddr family w → IsWord w
  parseAddr_of_isAddr : ∀ {family w}, isAddr family w → env.parseAddr w = true
  parseAddr_nil : env.parseAddr [] = false

/-- What is asked of a header of `n` bytes read from `data` with the address `ip`: its length, that it
ends in the first `"\r\n"`, and that an address is one of the family it names. -/
def WellRead (env : Traffic σ) (isAddr : AddrFamily → Bytes → Prop) (data ip : Bytes) (n : ℕ) :
    Prop :=
  ∃ line, line ++ crlf <+: data ∧ n = (line ++ crlf).length ∧ n ≤ 107 ∧ ¬crlf <:+: line ∧
    (ip ≠ [] → ∃ family, (env.fields line)[1]? = some family.word ∧ isAddr family ip)

/-- The first line is short enough, and its third field is an address of the family it names. -/
def Fitting (env : Traffic σ) (isAddr : AddrFamily → Bytes → Prop) (data : Bytes) : Prop :=
  ∀ idx, indexOf crlf data = some idx → idx + 2 ≤ 107 ∧
    ∀ family src, (env.fields (data.take idx))[1]? = some (AddrFamily.word family) →
      (env.fields (data.take idx))[2]? = some src → isAddr family src

/-! ## Allowed headers -/

variable {w : Bytes}

theorem IsDecimal.isWord (h : IsDecimal w) : IsWord w := by
  refine ⟨h.1, fun b hb => ?_⟩
  have hdigit := h.2 b hb
  simp only [UInt8.lt_iff_toNat_lt, UInt8.le_iff_toNat_le] at hdigit ⊢
  exact ⟨lt_of_lt_of_le (by decide) hdigit.1, lt_of_le_of_lt hdigit.2 (by decide)⟩

theorem isWord_word (family : AddrFamily) : IsWord family.word := by
  cases family <;> decide

variable {h : ProxyHeader}

theorem ProxyHeader.Allowed.isWord (hdoc : Documented env isAddr) (hallowed : h.Allowed isAddr) :
    ∀ w ∈ h.words, IsWord w := by
  obtain ⟨-, hfields⟩ := hallowed
  intro w hw
  cases h with
  | tcp family srcIP dstIP srcPort dstPort =>
    obtain ⟨hsrc, hdst, hsrcPort, hdstPort⟩ := hfields
    simp only [words, mem_cons, not_mem_nil, or_false] at hw
    obtain rfl | rfl | rfl | rfl | rfl | rfl := hw
    · decide
    · exact isWord_word family
    · exact hdoc.isWord hsrc
    · exact hdoc.isWord hdst
    · exact hsrcPort.isWord
    · exact hdstPort.isWord
  | unknown further =>
    obtain rfl | hw := mem_cons.mp hw
    · decide
    · obtain rfl | hw := mem_cons.mp hw
      · decide
      · exact hfields w hw

theorem ProxyHeader.proxyTag_prefix (h : ProxyHeader) : proxyTag <+: h.line := by
  cases h with
  | tcp family srcIP dstIP srcPort dstPort | unknown further => exact prefix_append ..

theorem IsWord.not_mem (h : IsWord w) : 13 ∉ w := fun hmem => absurd (h.2 13 hmem).1 (by decide)

theorem not_mem_intercalate : ∀ {ws : List Bytes}, (∀ w ∈ ws, IsWord w) → 13 ∉ [32].intercalate ws
  | [], _ => not_mem_nil
  | [w], hws => by
    rw [intercalate_singleton]
    exact (hws w mem_cons_self).not_mem
  | w :: w' :: ws, hws => by
    rw [intercalate_cons_cons, mem_append, mem_append, not_or, not_or]
    exact ⟨⟨(hws w mem_cons_self).not_mem, by decide⟩,
      not_mem_intercalate fun v hv => hws v (mem_cons_of_mem w hv)⟩

theorem indexOf_line {line : Bytes} (hline : 13 ∉ line) (tail : Bytes) :
    indexOf crlf (line ++ crlf ++ tail) = some line.length := by
  induction line with
  | nil => exact if_pos (prefix_append crlf tail)
  | cons b line ih =>
    obtain ⟨hb, hline⟩ := not_or.mp (mem_cons.not.mp hline)
    have hno : ¬crlf <+: b :: (line ++ crlf ++ tail) := fun hpre =>
      hb (cons_prefix_cons.mp hpre).1
    rw [cons_append, cons_append, indexOf, if_neg hno, ih hline]
    rfl

theorem sourceAddr_words (hdoc : Documented env isAddr) (hallowed : h.Allowed isAddr) :
    sourceAddr env.parseAddr h.words = some h.source ↔ h.Bare := by
  obtain ⟨-, hfields⟩ := hallowed
  cases h with
  | tcp family srcIP dstIP srcPort dstPort =>
    have hparse := hdoc.parseAddr_of_isAddr hfields.1
    refine iff_of_true ?_ trivial
    cases family <;> simp [sourceAddr, words, source, AddrFamily.word, hparse]
  | unknown further =>
    have hproto : unknownWord ≠ tcp4Word ∧ unknownWord ≠ tcp6Word := by decide
    match further with
    | [] => exact iff_of_true rfl rfl
    | [_] | [_, _] | [_, _, _] | _ :: _ :: _ :: _ :: _ :: _ =>
      refine iff_of_false ?_ (cons_ne_nil _ _)
      simp [sourceAddr, words]
    | [_, _, _, _] =>
      refine iff_of_false ?_ (cons_ne_nil _ _)
      simp [sourceAddr, words, hproto]

theorem parseProxyProtocolV1_bytes (hdoc : Documented env isAddr) (hallowed : h.Allowed isAddr)
    (tail : Bytes) :
    parseProxyProtocolV1 env (h.bytes ++ tail) = some (h.source, h.bytes.length) ↔ h.Bare := by
  have hwords := hallowed.isWord hdoc
  have htag : proxyTag <+: h.bytes ++ tail := h.proxyTag_prefix.trans ⟨crlf ++ tail, by
    rw [bytes, append_assoc]⟩
  have hidx : indexOf crlf (h.bytes ++ tail) = some h.line.length :=
    indexOf_line (not_mem_intercalate hwords) tail
  have hfields : env.fields ((h.bytes ++ tail).take h.line.length) = h.words := by
    rw [bytes, append_assoc, take_left]
    exact hdoc.fields_line h.words hwords
  have hlen : h.bytes.length = h.line.length + 2 := length_append
  have hshort := hallowed.1
  unfold parseProxyProtocolV1
  rw [if_pos htag, hidx]
  dsimp only
  rw [if_neg (by omega), hfields, ← hlen, ← sourceAddr_words hdoc hallowed]
  constructor
  · intro hsome
    obtain ⟨ip, hip, heq⟩ := Option.map_eq_some_iff.mp hsome
    rw [hip, (Prod.mk.inj heq).1]
  · intro hip
    rw [hip]
    rfl

/-! ## What is read -/

theorem line_of_indexOf {sep b : Bytes} {i : ℕ} (hsep : sep ≠ []) (h : indexOf sep b = some i) :
    b.take i ++ sep <+: b ∧ ¬sep <:+: b.take i := by
  induction b generalizing i with
  | nil =>
    rw [indexOf, if_neg hsep] at h
    cases h
  | cons x b ih =>
    rw [indexOf] at h
    split at h
    · rename_i hfront
      cases h
      exact ⟨hfront, fun hin => hsep (infix_nil.mp hin)⟩
    · rename_i hno
      obtain ⟨j, hj, rfl⟩ := Option.map_eq_some_iff.mp h
      obtain ⟨hline, hfirst⟩ := ih hj
      refine ⟨(prefix_cons_inj x).mpr hline, fun hin => ?_⟩
      obtain hpre | hin := infix_cons_iff.mp hin
      · exact hno (hpre.trans ((prefix_cons_inj x).mpr (List.take_prefix j b)))
      · exact hfirst hin

theorem sourceAddr_eq_some {fields : List Bytes} {ip : Bytes}
    (h : sourceAddr env.parseAddr fields = some ip) :
    fields[2]? = none ∧ ip = [] ∨ fields[2]? = some ip ∧ env.parseAddr ip = true ∧
        ∃ family, fields[1]? = some (AddrFamily.word family) := by
  unfold sourceAddr at h
  split at h
  · rename_i htwo
    exact .inl ⟨getElem?_eq_none (by omega), (Option.some.inj h).symm⟩
  · split at h
    · rename_i word proto srcIP dstIP srcPort dstPort _
      split at h
      · cases h
      · split at h
        · cases h
        · rename_i hproto
          obtain ⟨hparse, hip⟩ := Option.ite_none_right_eq_some.mp h
          cases hip
          refine .inr ⟨rfl, hparse, ?_⟩
          by_cases htcp4 : proto = tcp4Word
          · exact ⟨.tcp4, congrArg some htcp4⟩
          · exact ⟨.tcp6, congrArg some (not_not.mp fun htcp6 => hproto ⟨htcp4, htcp6⟩)⟩
    · cases h

theorem wellRead_iff (hdoc : Documented env isAddr) {data ip : Bytes} {n : ℕ}
    (hread : parseProxyProtocolV1 env data = some (ip, n)) :
    WellRead env isAddr data ip n ↔ Fitting env isAddr data := by
  obtain ⟨idx, -, hidx, -, rfl, hip⟩ := parseProxyProtocolV1_eq_some hread
  obtain ⟨hline, hfirst⟩ := line_of_indexOf (by decide) hidx
  have hlen : (data.take idx).length = idx :=
    length_take_of_le (le_trans (Nat.le_add_right idx _) (indexOf_add_le hidx))
  constructor
  · rintro ⟨line, hfront, hn, hshort, -, hfamily⟩ idx' hidx'
    obtain rfl : idx = idx' := Option.some.inj (hidx.symm.trans hidx')
    -- the line that was read is the one before the line end
    have hsame : line = data.take idx := by
      have hlong : line.length = idx := by simpa [crlf] using hn.symm
      rw [prefix_iff_eq_take.mp ((prefix_append line crlf).trans hfront), hlong]
    subst hsame
    refine ⟨hshort, fun family src hword hsrc => ?_⟩
    obtain ⟨hnone, -⟩ | ⟨hthird, hparse, -⟩ := sourceAddr_eq_some hip
    · rw [hsrc] at hnone
      cases hnone
    · obtain rfl : ip = src := Option.some.inj (hthird.symm.trans hsrc)
      have hne : ip ≠ [] := by
        rintro rfl
        rw [hdoc.parseAddr_nil] at hparse
        cases hparse
      obtain ⟨family', hword', haddr⟩ := hfamily hne
      obtain rfl : family = family' :=
        AddrFamily.word_injective (Option.some.inj (hword.symm.trans hword'))
      exact haddr
  · intro hfit
    obtain ⟨hshort, haddr⟩ := hfit idx hidx
    refine ⟨data.take idx, hline, ?_, hshort, hfirst, fun hne => ?_⟩
    · rw [length_append, hlen]
      rfl
    · obtain ⟨-, rfl⟩ | ⟨hthird, -, family, hword⟩ := sourceAddr_eq_some hip
      · exact absurd rfl hne
      · exact ⟨family, hword, haddr family ip hword hthird⟩

/-- **PROXY headers.** Every header the protocol allows is read, whatever follows it, exactly if it is
not `UNKNOWN` with further fields, and what is read is a header of the protocol's length with an address
of the family it names exactly if the first line is short enough and has such an address. -/
theorem proxyHeaders_read_iff (env : Traffic σ) (isAddr : AddrFamily → Bytes → Prop)
    (hdoc : Documented env isAddr) :
    (∀ h : ProxyHeader, h.Allowed isAddr → ∀ tail,
      (parseProxyProtocolV1 env (h.bytes ++ tail) = some (h.source, h.bytes.length) ↔ h.Bare)) ∧
    ∀ data ip n, parseProxyProtocolV1 env data = some (ip, n) →
      (WellRead env isAddr data ip n ↔ Fitting env isAddr data) :=
  ⟨fun _ hallowed tail => parseProxyProtocolV1_bytes hdoc hallowed tail,
    fun _ _ _ hread => wellRead_iff hdoc hread⟩

/-! ## A reader of ASCII lines -/

open WSOutput (ascii)

theorem asciiFields_word (hw : ∀ b ∈ w, 32 < b) (rest cur : Bytes) :
    asciiFields (w ++ rest) cur = asciiFields rest (cur ++ w) := by
  induction w generalizing cur with
  | nil => rw [nil_append, append_nil]
  | cons b w ih =>
    have hb : 32 < b := hw b mem_cons_self
    have hspace : b ∉ ([9, 10, 11, 12, 13, 32] : Bytes) := fun hmem =>
      absurd hb ((by simp : ∀ x ∈ ([9, 10, 11, 12, 13, 32] : Bytes), ¬32 < x) b hmem)
    rw [cons_append, asciiFields, if_neg hspace, ih fun x hx => hw x (mem_cons_of_mem b hx),
      append_assoc]
    rfl

theorem asciiFields_intercalate :
    ∀ {ws : List Bytes}, (∀ w ∈ ws, IsWord w) → asciiFields ([32].intercalate ws) [] = ws
  | [], _ => rfl
  | [w], hws => by
    obtain ⟨hne, hw⟩ := hws w mem_cons_self
    rw [intercalate_singleton, ← append_nil w, asciiFields_word fun b hb => (hw b hb).1]
    simp [asciiFields, hne]
  | w :: w' :: ws, hws => by
    obtain ⟨hne, hw⟩ := hws w mem_cons_self
    rw [intercalate_cons_cons, append_assoc, asciiFields_word fun b hb => (hw b hb).1,
      nil_append, singleton_append, asciiFields, if_pos (by decide), if_neg hne,
      asciiFields_intercalate fun v hv => hws v (mem_cons_of_mem w hv)]

def listedAddrs : AddrFamily → List Bytes
  | .tcp4 => [ascii "192.168.0.1", ascii "192.168.0.11"]
  | .tcp6 => [ascii "2001:db8::1", ascii "2001:db8::2"]

def Listed (family : AddrFamily) (w : Bytes) : Prop := w ∈ listedAddrs family
  deriving Decidable

/-- The PROXY protocol with the listed addresses. -/
def listedTraffic : Traffic Unit where
  __ := proxyTraffic (fun s _ _ => (s, .none)) fun s _ _ => s
  parseAddr w := Listed .tcp4 w ∨ Listed .tcp6 w

theorem documented_listedTraffic : Documented listedTraffic Listed where
  fields_line _ hws := asciiFields_intercalate hws
  isWord {family w} hw := by
    have hall : ∀ family, ∀ w ∈ listedAddrs family, IsWord w := by
      intro family
      cases family <;> decide
    exact hall family w hw
  parseAddr_of_isAddr {family w} hw := by
    apply decide_eq_true
    cases family with
    | tcp4 => exact .inl hw
    | tcp6 => exact .inr hw
  parseAddr_nil := by decide

def headerFrom (family : AddrFamily) (srcIP : Bytes) : ProxyHeader :=
  .tcp family srcIP (ascii "192.168.0.11") (ascii "56324") (ascii "443")

theorem headerFrom_read :
    (∀ tail, parseProxyProtocolV1 listedTraffic
        ((headerFrom .tcp4 (ascii "192.168.0.1")).bytes ++ tail) = some (ascii "192.168.0.1", 47)) ∧
      WellRead listedTraffic Listed (headerFrom .tcp4 (ascii "192.168.0.1")).bytes
        (ascii "192.168.0.1") 47 := by
  obtain ⟨hallowed, hread⟩ := proxyHeaders_read_iff listedTraffic _ documented_listedTraffic
  refine ⟨fun tail => (hallowed (headerFrom .tcp4 (ascii "192.168.0.1")) ?_ tail).mpr trivial,
    (hread _ _ _ (by decide)).mpr ?_⟩
  · exact ⟨by decide, by decide, by decide, by decide, by decide⟩
  · intro idx hidx
    obtain rfl : 45 = idx := Option.some.inj hidx
    refine ⟨by decide, fun family src hword hsrc => ?_⟩
    obtain rfl : ascii "192.168.0.1" = src := Option.some.inj hsrc
    cases family with
    | tcp4 => decide
    | tcp6 => exact absurd hword (by decide)

/-- The header `"PROXY UNKNOWN a\r\n"` is refused, an address of one family is taken after the word of
the other, and a header with spaces after its last field is taken although it is 109 bytes long. -/
theorem headers_misread :
    Documented listedTraffic Listed ∧ ((ProxyHeader.unknown [ascii "a"]).Allowed Listed ∧
        parseProxyProtocolV1 listedTraffic (ProxyHeader.unknown [ascii "a"]).bytes = none) ∧
      (¬Listed .tcp4 (ascii "2001:db8::1") ∧
        parseProxyProtocolV1 listedTraffic (headerFrom .tcp4 (ascii "2001:db8::1")).bytes =
          some (ascii "2001:db8::1", 47)) ∧
      parseProxyProtocolV1 listedTraffic
          ((headerFrom .tcp4 (ascii "192.168.0.1")).line ++ List.replicate 62 32 ++ crlf) =
        some (ascii "192.168.0.1", 109) := by
  refine ⟨documented_listedTraffic, ⟨⟨by decide, by decide⟩, by decide⟩, ⟨by decide, by decide⟩, ?_⟩
  decide +kernel

end Sgate.Gateway
