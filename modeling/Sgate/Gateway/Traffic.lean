import Sgate.Gateway.Limits
import Sgate.Lib.KeyMap
import Sgate.Lib.Transition

/-! # Traffic of a TCP connection

`handleNormalTraffic` looks for a PROXY header in the first read of a connection only. Neither
`GetConnContext` nor `PutConnContext` resets `proxyHeaderParsed`, so a context from the pool may remember
a header. -/

namespace Sgate.Gateway

open LoginPath List

variable {σ : Type*}

/-! ## PROXY headers -/

/-- What `handleNormalTraffic` depends on besides the context of the connection. -/
structure Traffic (σ : Type*) where
  proxyProtocol : Bool
  maxFrameBufSize : Int
  maxFrameSize : Int
  /-- `AddrHost` of the socket's remote address. -/
  remoteHost : Bytes
  fields : Bytes → List Bytes
  /-- `netip.ParseAddr` succeeds. -/
  parseAddr : Bytes → Bool
  updateConnectionIP : σ → String → Bytes → σ
  handleTCPRequest : σ → String → Bytes → σ × ConnAction

/-- The bytes `"PROXY "`. -/
def proxyTag : Bytes := [80, 82, 79, 88, 89, 32]
/-- The bytes `"PROXY"`. -/
def proxyWord : Bytes := [80, 82, 79, 88, 89]
/-- The bytes `"UNKNOWN"`. -/
def unknownWord : Bytes := [85, 78, 75, 78, 79, 87, 78]
/-- The bytes `"TCP4"`. -/
def tcp4Word : Bytes := [84, 67, 80, 52]
/-- The bytes `"TCP6"`. -/
def tcp6Word : Bytes := [84, 67, 80, 54]

/-- The source address in the fields of a header line, empty for `UNKNOWN`. -/
def sourceAddr (parseAddr : Bytes → Bool) (fields : List Bytes) : Option Bytes :=
  if fields.length = 2 ∧ fields[1]? = some unknownWord then some []
  else
    match fields with
    | [word, proto, srcIP, _, _, _] =>
      if word ≠ proxyWord then none
      else if proto ≠ tcp4Word ∧ proto ≠ tcp6Word then none
      else if parseAddr srcIP then some srcIP else none
    | _ => none

/-- `parseProxyProtocolV1`: the client's address and the length of the header. -/
def parseProxyProtocolV1 (env : Traffic σ) (data : Bytes) : Option (Bytes × ℕ) :=
  if proxyTag <+: data then
    match indexOf crlf data with
    | none => none
    | some idx =>
      if 107 < idx then none
      else (sourceAddr env.parseAddr (env.fields (data.take idx))).map fun ip => (ip, idx + 2)
  else none

/-- The callback of `feedFrames`. -/
def Traffic.onFrame (env : Traffic σ) (id : String) (s : σ) (frame : Bytes) : σ × Bool :=
  let r := env.handleTCPRequest s id frame
  (r.1, r.2 ≠ .close)

/-- The end of `handleNormalTraffic`: pass the data to `feedFrames`. -/
def feedTraffic (env : Traffic σ) (ctx : ConnContext) (s : σ) (data : Bytes) :
    ConnContext × σ × ConnAction :=
  let r := feedFrames ctx data env.maxFrameBufSize env.maxFrameSize (env.onFrame ctx.connectionID) s
  (r.1, r.2.1, if r.2.2 then .none else .close)

/-- `handleNormalTraffic` of a TCP connection. -/
def handleNormalTraffic (env : Traffic σ) (ctx : ConnContext) (s : σ) (data : Bytes) :
    ConnContext × σ × ConnAction :=
  if env.proxyProtocol = true ∧ ctx.proxyHeaderParsed = false then
    let ctx := { ctx with proxyHeaderParsed := true }
    match parseProxyProtocolV1 env data with
    | none => feedTraffic env ctx s data
    | some (clientIP, headerLen) =>
      let s :=
        if clientIP ≠ [] ∧ clientIP ≠ env.remoteHost then
          env.updateConnectionIP s ctx.connectionID clientIP
        else s
      let data := data.drop headerLen
      if data = [] then (ctx, s, .none) else feedTraffic env ctx s data
  else feedTraffic env ctx s data

/-! ## Contexts from the pool -/

/-- `GetConnContext` of a context that the pool returns. -/
def getConnContext (ctx : ConnContext) : ConnContext :=
  { ctx with connectionID := "", frameBuf := [], frameOff := 0, frameOff_le := zero_le_length_nil }

/-- `PutConnContext`: what the pool keeps. -/
def putConnContext (ctx : ConnContext) : ConnContext :=
  { ctx with connectionID := "", frameBuf := [], frameOff := 0, frameOff_le := zero_le_length_nil }

/-- The part of `OnOpen` that prepares the context of a TCP connection. -/
def openContext (ctx : ConnContext) (id : String) : ConnContext :=
  { getConnContext ctx with connectionID := id }

/-- What is seen of a connection: what every read does and whether it closes the connection. -/
def observe : ConnContext → σ → List (Traffic σ × Bytes) → List (σ × ConnAction)
  | _, _, [] => []
  | ctx, s, (env, data) :: reads =>
    let r := handleNormalTraffic env ctx s data
    (r.2.1, r.2.2) :: match r.2.2 with
      | .none => observe r.1 r.2.1 reads
      | .close => []

/-- A connection with this context from the pool is seen to behave like one with a new context. -/
def Isolated (σ : Type*) (ctx : ConnContext) : Prop :=
  ∀ (id : String) (s : σ) (reads : List (Traffic σ × Bytes)),
    observe (openContext ctx id) s reads = observe (openContext {} id) s reads

/-- A context and whether a read was handled with it while the PROXY protocol was on. -/
structure Slot where
  ctx : ConnContext
  proxied : Bool := false
  deriving DecidableEq

/-- The contexts of the gateway: those in the pool and those of open connections. -/
structure Contexts (σ : Type*) where
  pool : List Slot := []
  live : KeyMap String Slot := KeyMap.empty
  app : σ

inductive ContextOp (σ : Type*)
  /-- `OnOpen` with the context at this place of the pool, or with a new one. -/
  | opened (id : String) (reuse : Option ℕ)
  | traffic (id : String) (env : Traffic σ) (data : Bytes)
  | closed (id : String)

def contextStep (st : Contexts σ) : ContextOp σ → Option (Contexts σ)
  | .opened id none => some { st with live := st.live.store id ⟨openContext {} id, false⟩ }
  | .opened id (some i) =>
    match st.pool[i]? with
    | none => none
    | some slot =>
      some { st with
        pool := st.pool.eraseIdx i
        live := st.live.store id ⟨openContext slot.ctx id, slot.proxied⟩ }
  | .traffic id env data =>
    match st.live id with
    | none => none
    | some slot =>
      let r := handleNormalTraffic env slot.ctx st.app data
      some { st with
        live := st.live.store id ⟨r.1, slot.proxied || env.proxyProtocol⟩
        app := r.2.1 }
  | .closed id =>
    match st.live id with
    | none => none
    | some slot =>
      some { st with
        pool := ⟨putConnContext slot.ctx, slot.proxied⟩ :: st.pool
        live := st.live.delete id }

section Flag

variable {env : Traffic σ} {ctx : ConnContext} {s : σ} {data : Bytes}

theorem feedTraffic_keeps : (feedTraffic env ctx s data).1.connectionID = ctx.connectionID ∧
    (feedTraffic env ctx s data).1.proxyHeaderParsed = ctx.proxyHeaderParsed := by
  by_cases hfits : ((ctx.pending.length + data.length : ℕ) : Int) ≤ env.maxFrameBufSize
  · have hread := @feedFrames_of_within _ env.maxFrameBufSize env.maxFrameSize
      (env.onFrame ctx.connectionID) ctx s data hfits
    exact ⟨hread.connectionID, hread.proxyHeaderParsed⟩
  · rw [feedTraffic, feedFrames_of_exceeds hfits]
    exact ⟨rfl, rfl⟩

theorem handleNormalTraffic_flag : (handleNormalTraffic env ctx s data).1.proxyHeaderParsed =
    (ctx.proxyHeaderParsed || env.proxyProtocol) := by
  unfold handleNormalTraffic
  by_cases hlook : env.proxyProtocol = true ∧ ctx.proxyHeaderParsed = false
  · rw [if_pos hlook, hlook.1, hlook.2]
    dsimp only
    split
    · exact feedTraffic_keeps.2
    · split
      · rfl
      · exact feedTraffic_keeps.2
  · rw [if_neg hlook, feedTraffic_keeps.2]
    cases hflag : ctx.proxyHeaderParsed with
    | true => rfl
    | false =>
      have hoff : env.proxyProtocol = false := by simpa [hflag] using hlook
      rw [hoff]
      rfl

end Flag

/-- The flag of every context says whether a read was handled with the PROXY protocol on. -/
structure Tracked (st : Contexts σ) : Prop where
  pool : ∀ slot ∈ st.pool, slot.ctx.proxyHeaderParsed = slot.proxied
  live : ∀ id slot, st.live id = some slot → slot.ctx.proxyHeaderParsed = slot.proxied

theorem Tracked.step {st st' : Contexts σ} {op : ContextOp σ} (h : Tracked st)
    (hstep : contextStep st op = some st') : Tracked st' := by
  cases op with
  | opened id reuse =>
    cases reuse with
    | none =>
      cases hstep
      exact ⟨h.pool, KeyMap.forall_store rfl fun j u _ hu => h.live j u hu⟩
    | some i =>
      rw [contextStep] at hstep
      cases hslot : st.pool[i]? with
      | none => rw [hslot] at hstep; cases hstep
      | some slot =>
        rw [hslot] at hstep
        cases hstep
        refine ⟨fun u hu => h.pool u (mem_of_mem_eraseIdx hu), ?_⟩
        exact KeyMap.forall_store (h.pool slot (mem_of_getElem? hslot))
          fun j u _ hu => h.live j u hu
  | traffic id env data =>
    rw [contextStep] at hstep
    cases hslot : st.live id with
    | none => rw [hslot] at hstep; cases hstep
    | some slot =>
      rw [hslot] at hstep
      cases hstep
      refine ⟨h.pool, KeyMap.forall_store ?_ fun j u _ hu => h.live j u hu⟩
      rw [handleNormalTraffic_flag, h.live id slot hslot]
  | closed id =>
    rw [contextStep] at hstep
    cases hslot : st.live id with
    | none => rw [hslot] at hstep; cases hstep
    | some slot =>
      rw [hslot] at hstep
      cases hstep
      refine ⟨forall_mem_cons.mpr ⟨h.live id slot hslot, h.pool⟩, fun j u hu => ?_⟩
      by_cases hj : j = id
      · subst hj
        simp at hu
      · exact h.live j u (by simpa [hj] using hu)

/-! ### Telling two contexts apart -/

/-- `strings.Fields` of a line of ASCII characters, with the field read so far. -/
def asciiFields : Bytes → Bytes → List Bytes
  | [], cur => if cur = [] then [] else [cur]
  | x :: xs, cur =>
    if x ∈ ([9, 10, 11, 12, 13, 32] : Bytes) then
      if cur = [] then asciiFields xs [] else cur :: asciiFields xs []
    else asciiFields xs (cur ++ [x])

/-- The PROXY protocol with frames of at most a hundred bytes. -/
def proxyTraffic (handleTCPRequest : σ → String → Bytes → σ × ConnAction)
    (updateConnectionIP : σ → String → Bytes → σ) : Traffic σ where
  proxyProtocol := true
  maxFrameBufSize := 200
  maxFrameSize := 100
  remoteHost := []
  fields := fun line => asciiFields line []
  parseAddr := fun _ => true
  updateConnectionIP := updateConnectionIP
  handleTCPRequest := handleTCPRequest

/-- The header `"PROXY UNKNOWN\r\n"`. -/
def unknownHeader : Bytes := proxyTag ++ unknownWord ++ crlf

theorem openContext_eq (ctx : ConnContext) (id : String) :
    openContext ctx id = { connectionID := id, proxyHeaderParsed := ctx.proxyHeaderParsed } := rfl

/-- A read that a new context takes for a header and a context with the flag for a frame. -/
theorem observe_unknownHeader (ctx : ConnContext) (id : String) (s : σ)
    (f : σ → String → Bytes → σ × ConnAction) (g : σ → String → Bytes → σ) :
    observe (openContext ctx id) s [(proxyTraffic f g, unknownHeader)] =
      [(s, if ctx.proxyHeaderParsed then .close else .none)] := by
  rw [openContext_eq]
  cases ctx.proxyHeaderParsed <;> rfl

/-- **Contexts from the pool.** After every history of connections, each context in the pool serves a
new connection like a new context exactly if none of them handled a read while the PROXY protocol was
on. -/
theorem isolated_iff (s : σ) (ops : List (ContextOp σ)) (st : Contexts σ)
    (hrun : Transition.run contextStep { app := s } ops = some st) :
    (∀ slot ∈ st.pool, Isolated σ slot.ctx) ↔ ∀ slot ∈ st.pool, slot.proxied = false := by
  have hinit : Tracked ({ app := s } : Contexts σ) := ⟨by simp, fun id slot h => by simp at h⟩
  have htracked : Tracked st :=
    Transition.invariant_of_run (fun _ _ _ h hstep => h.step hstep) hinit hrun
  constructor
  · intro hisolated slot hslot
    have hsame := hisolated slot hslot "" s
      [(proxyTraffic (fun s _ _ => (s, .none)) (fun s _ _ => s), unknownHeader)]
    rw [observe_unknownHeader, observe_unknownHeader] at hsame
    rw [← htracked.pool slot hslot]
    cases hflag : slot.ctx.proxyHeaderParsed with
    | false => rfl
    | true => simp [hflag] at hsame
  · intro hclean slot hslot id s' reads
    rw [openContext_eq, htracked.pool slot hslot, hclean slot hslot]
    rfl

/-- The PROXY protocol with a count of the frames. -/
def countingTraffic : Traffic ℕ := proxyTraffic (fun n _ _ => (n + 1, .none)) fun n _ _ => n

/-- A connection that ends within a frame, and another one with its context that does the same. -/
def reusedUnproxied : List (ContextOp ℕ) :=
  let env := { countingTraffic with proxyProtocol := false }
  [.opened "a" none, .traffic "a" env [0, 0, 0, 1, 7, 0, 0], .closed "a", .opened "b" (some 0),
    .traffic "b" env [0, 0, 0, 1], .traffic "b" env [8, 0, 0, 0], .closed "b"]

/-- Without the PROXY protocol the context is as good as new after both connections. -/
theorem isolated_after_close : ∃ st, Transition.run contextStep { app := 0 } reusedUnproxied = some st ∧
    st.app = 2 ∧ st.pool.length = 1 ∧ ∀ slot ∈ st.pool, Isolated ℕ slot.ctx :=
  ⟨_, rfl, rfl, rfl, (isolated_iff 0 reusedUnproxied _ rfl).mpr (by decide)⟩

/-- A connection behind a proxy leaves a context with which the next connection takes its PROXY header
for a frame and is closed; with a new context it is not. -/
theorem reused_context_skips_header :
    (∃ st, Transition.run contextStep { app := 0 } [.opened "a" none,
        .traffic "a" countingTraffic unknownHeader, .closed "a"] = some st ∧
      st.pool.map (fun slot => observe (openContext slot.ctx "b") 0 [(countingTraffic, unknownHeader)]) =
        [[(0, .close)]]) ∧
      observe (openContext {} "b") 0 [(countingTraffic, unknownHeader)] = [(0, .none)] := by
  refine ⟨⟨_, rfl, ?_⟩, ?_⟩
  · rfl
  · rfl

/-! ## Headers and chunks -/

/-- A TCP connection: its context and the state of the callbacks. -/
def trafficReceiver (env : Traffic σ) : Receiver UInt8 σ (ConnContext × σ) where
  read k data :=
    let r := handleNormalTraffic env k.1 k.2 data
    ((r.1, r.2.1), r.2.2 = .none)
  state k := k.2
  pending k := k.1.pending

section Index

variable {sep b c : Bytes} {i : ℕ}

theorem indexOf_add_le (h : indexOf sep b = some i) : i + sep.length ≤ b.length := by
  induction b generalizing i with
  | nil =>
    rw [indexOf] at h
    split at h <;> cases h
    rename_i hsep
    simp [hsep]
  | cons x b ih =>
    rw [indexOf] at h
    split at h
    · rename_i hprefix
      cases h
      simpa using hprefix.length_le
    · obtain ⟨j, hj, rfl⟩ := Option.map_eq_some_iff.mp h
      have := ih hj
      simp only [length_cons]
      omega

theorem indexOf_append (h : indexOf sep b = some i) (c : Bytes) : indexOf sep (b ++ c) = some i := by
  induction b generalizing i with
  | nil =>
    rw [indexOf] at h
    split at h <;> cases h
    rename_i hsep
    subst hsep
    cases c <;> simp [indexOf]
  | cons x b ih =>
    rw [indexOf] at h
    rw [cons_append, indexOf]
    split at h
    · rename_i hprefix
      have hlonger : sep <+: x :: (b ++ c) := hprefix.trans (prefix_append (x :: b) c)
      rw [if_pos hlonger]
      exact h
    · rename_i hno
      obtain ⟨j, hj, rfl⟩ := Option.map_eq_some_iff.mp h
      have hlen := indexOf_add_le hj
      rw [if_neg, ih hj]
      · rfl
      · -- a prefix of the longer string that is this short is one of `x :: b`
        intro hprefix
        refine hno (prefix_of_prefix_length_le hprefix (prefix_append (x :: b) c) ?_)
        simp only [length_cons]
        omega

theorem indexOf_eq_none_of_append (h : indexOf sep (b ++ c) = some i)
    (hend : i + sep.length = (b ++ c).length) (hne : c ≠ []) : indexOf sep b = none := by
  cases hb : indexOf sep b with
  | none => rfl
  | some j =>
    have hlen := indexOf_add_le hb
    rw [indexOf_append hb c] at h
    cases h
    have hpos : 0 < c.length := length_pos_iff.mpr hne
    rw [length_append] at hend
    omega

end Index

section Header

variable {env : Traffic σ} {h b c : Bytes} {ip : Bytes} {n : ℕ}

theorem parseProxyProtocolV1_eq_some (hh : parseProxyProtocolV1 env h = some (ip, n)) :
    ∃ idx, proxyTag <+: h ∧ indexOf crlf h = some idx ∧ idx ≤ 107 ∧ n = idx + 2 ∧
      sourceAddr env.parseAddr (env.fields (h.take idx)) = some ip := by
  unfold parseProxyProtocolV1 at hh
  split at hh
  · rename_i htag
    cases hidx : indexOf crlf h with
    | none => rw [hidx] at hh; cases hh
    | some idx =>
      rw [hidx] at hh
      dsimp only at hh
      split at hh
      · cases hh
      · rename_i hlong
        obtain ⟨ip', hip, heq⟩ := Option.map_eq_some_iff.mp hh
        cases heq
        exact ⟨idx, htag, rfl, by omega, rfl, hip⟩
  · cases hh

theorem parseProxyProtocolV1_append (hh : parseProxyProtocolV1 env h = some (ip, n)) (c : Bytes) :
    parseProxyProtocolV1 env (h ++ c) = some (ip, n) := by
  obtain ⟨idx, htag, hidx, hlong, rfl, hip⟩ := parseProxyProtocolV1_eq_some hh
  have hlen := indexOf_add_le hidx
  unfold parseProxyProtocolV1
  rw [if_pos (htag.trans (prefix_append h c)), indexOf_append hidx c]
  dsimp only
  rw [if_neg (by omega), take_append_of_le_length (by omega), hip]
  rfl

theorem parseProxyProtocolV1_part (hh : parseProxyProtocolV1 env (b ++ c) = some (ip, (b ++ c).length))
    (hne : c ≠ []) : parseProxyProtocolV1 env b = none := by
  obtain ⟨idx, -, hidx, -, hlen, -⟩ := parseProxyProtocolV1_eq_some hh
  have hnone : indexOf crlf b = none := indexOf_eq_none_of_append hidx hlen.symm hne
  unfold parseProxyProtocolV1
  rw [hnone]
  split <;> rfl

theorem frameStep_header {limit : ℕ} {fn : σ → Bytes → σ × Bool} {s : σ} (htag : proxyTag <+: h)
    (hlimit : limit < 0x50524F58) (c : Bytes) : frameStep limit fn s (h ++ c) = .stop 0 s := by
  obtain ⟨tail, rfl⟩ := htag
  refine frameStep_eq_iff.mpr ?_
  have hprox : proxyTag ++ tail ++ c = bigEndian 4 0x50524F58 ++ ([89, 32] ++ tail ++ c) := by
    rw [append_assoc, show proxyTag = bigEndian 4 0x50524F58 ++ [89, 32] by decide]
    simp
  exact .invalid (by omega) (.inr hlimit)

end Header

section Reads

variable {env : Traffic σ} {ctx : ConnContext} {s : σ}

theorem readAll_of_parsed (hflag : ctx.proxyHeaderParsed = true) (reads : List Bytes) :
    (trafficReceiver env).readAll (ctx, s) reads =
      (tcpReceiver env.maxFrameBufSize env.maxFrameSize (env.onFrame ctx.connectionID)).readAll (ctx, s)
        reads := by
  refine @Receiver.readAll_congr _ _ _ _ _ (fun k => k.1.proxyHeaderParsed = true ∧
    k.1.connectionID = ctx.connectionID) ?_ (ctx, s) ⟨hflag, rfl⟩ reads
  rintro ⟨ctx', s'⟩ data ⟨(hflag' : ctx'.proxyHeaderParsed = true),
    (hid : ctx'.connectionID = ctx.connectionID)⟩
  have hpass : handleNormalTraffic env ctx' s' data = feedTraffic env ctx' s' data := by
    rw [handleNormalTraffic, if_neg (by simp [hflag'])]
  obtain ⟨hkeepsID, hkeepsFlag⟩ := @feedTraffic_keeps _ env ctx' s' data
  rw [← hid]
  refine ⟨?_, hkeepsFlag.trans hflag', hkeepsID⟩
  simp only [trafficReceiver, tcpReceiver, hpass, feedTraffic]
  generalize feedFrames ctx' data env.maxFrameBufSize env.maxFrameSize
    (env.onFrame ctx'.connectionID) s' = r
  obtain ⟨ctx'', s'', _ | _⟩ := r <;> rfl

/-- What the address in a header does. -/
def rewriteIP (env : Traffic σ) (id : String) (s : σ) (ip : Bytes) : σ :=
  if ip ≠ [] ∧ ip ≠ env.remoteHost then env.updateConnectionIP s id ip else s

/-- The context of a new connection after its header was looked for. -/
def parsedContext (id : String) : ConnContext := { connectionID := id, proxyHeaderParsed := true }

variable {h ip : Bytes} {id : String}

section

variable (hproxy : env.proxyProtocol = true)
include hproxy

theorem readAll_of_no_header {data : Bytes} (hdata : parseProxyProtocolV1 env data = none)
    (reads : List Bytes) :
    (trafficReceiver env).readAll (openContext {} id, s) (data :: reads) =
      (trafficReceiver env).readAll (parsedContext id, s) (data :: reads) := by
  have hlook : env.proxyProtocol = true ∧ (openContext {} id).proxyHeaderParsed = false :=
    ⟨hproxy, rfl⟩
  have hread : handleNormalTraffic env (openContext {} id) s data =
      feedTraffic env (parsedContext id) s data := by
    rw [handleNormalTraffic, if_pos hlook, hdata]
    rfl
  have hnext : handleNormalTraffic env (parsedContext id) s data =
      feedTraffic env (parsedContext id) s data := by
    rw [handleNormalTraffic, if_neg (by simp [parsedContext])]
  simp only [Receiver.readAll, trafficReceiver, hread, hnext]

variable (hh : parseProxyProtocolV1 env h = some (ip, h.length))
include hh

/-- A first read with a whole header: the address is rewritten, and the rest is framed. -/
theorem readAll_of_header (data : Bytes) (reads : List Bytes) :
    (trafficReceiver env).readAll (openContext {} id, s) ((h ++ data) :: reads) =
      (trafficReceiver env).readAll (parsedContext id, rewriteIP env id s ip)
        (if data = [] then reads else data :: reads) := by
  have hlook : env.proxyProtocol = true ∧ (openContext {} id).proxyHeaderParsed = false :=
    ⟨hproxy, rfl⟩
  have hread : handleNormalTraffic env (openContext {} id) s (h ++ data) =
      if data = [] then (parsedContext id, rewriteIP env id s ip, .none)
      else feedTraffic env (parsedContext id) (rewriteIP env id s ip) data := by
    rw [handleNormalTraffic, if_pos hlook, parseProxyProtocolV1_append hh]
    dsimp only
    rw [drop_left]
    rfl
  by_cases hdata : data = []
  · rw [if_pos hdata] at hread ⊢
    rw [Receiver.readAll]
    simp only [trafficReceiver, hread]
    rfl
  · rw [if_neg hdata] at hread ⊢
    have hnext : handleNormalTraffic env (parsedContext id) (rewriteIP env id s ip) data =
        feedTraffic env (parsedContext id) (rewriteIP env id s ip) data := by
      rw [handleNormalTraffic, if_neg (by simp [parsedContext])]
    simp only [Receiver.readAll, trafficReceiver, hread, hnext]

/-- A connection whose first read ends within the header is closed: the header goes to the frame
parser, which takes its first bytes for a length. -/
theorem closed_of_cut_header (hlimit : uint32 env.maxFrameSize < 0x50524F58) {first rest : Bytes}
    {later : List Bytes} (hbytes : (first :: later).flatten = h ++ rest)
    (hshort : first.length < h.length) :
    ((trafficReceiver env).readAll (openContext {} id, s) (first :: later)).2 = false := by
  obtain ⟨-, htag, -⟩ := parseProxyProtocolV1_eq_some hh
  obtain ⟨tail, rfl⟩ : first <+: h := by
    refine prefix_of_prefix_length_le ?_ (prefix_append h rest) (by omega)
    rw [← hbytes, flatten_cons]
    exact prefix_append _ _
  have htail : tail ≠ [] := by
    rintro rfl
    simp at hshort
  rw [readAll_of_no_header hproxy (parseProxyProtocolV1_part hh htail), readAll_of_parsed rfl]
  have hfollows := tcpReceiver_follows env.maxFrameBufSize env.maxFrameSize (env.onFrame id)
  have hstop : (frameDecoder (uint32 env.maxFrameSize) (env.onFrame id)).step s
      (first ++ tail ++ rest) = .stop 0 s := frameStep_header htag hlimit _
  by_contra hok
  rw [Bool.not_eq_false] at hok
  have hwaits := ((hfollows.readAll_iff trivial
    (tcpReceiver_synced (rfl : (parsedContext id).pending = []))).mp hok).2
  rw [nil_append, hbytes, Decoder.run_of_stop hstop] at hwaits
  cases hwaits

variable (haccept : ∀ s id f, (env.handleTCPRequest s id f).2 = .none) {frames : List Bytes}
  (hlegal : ∀ f ∈ frames, 1 ≤ f.length ∧ f.length ≤ uint32 env.maxFrameSize)
  (hbuf : ((frames.flatMap writeFrame).length : Int) ≤ env.maxFrameBufSize)
include haccept hlegal hbuf

omit hproxy hh in
/-- Legal frames within the limit of the buffer are passed on however they are cut. -/
theorem readAll_frames {reads : List Bytes}
    (hbytes : reads.flatten = frames.flatMap writeFrame) :
    ((trafficReceiver env).readAll (parsedContext id, s) reads).2 = true ∧
      ((trafficReceiver env).readAll (parsedContext id, s) reads).1.2 =
        ((frameDecoder (uint32 env.maxFrameSize) (env.onFrame id)).run s
          (frames.flatMap writeFrame)).state := by
  have hfollows := tcpReceiver_follows env.maxFrameBufSize env.maxFrameSize (env.onFrame id)
  have hfits : (frameDecoder (uint32 env.maxFrameSize) (env.onFrame id)).Fits env.maxFrameBufSize s []
      reads := Decoder.fits_of_length_le (by rwa [nil_append, hbytes])
  have hgoes : ∀ (s : σ) (f : Bytes), (env.onFrame id s f).2 = true := by
    intro s f
    simp [Traffic.onFrame, haccept]
  have hlt : uint32 env.maxFrameSize < 2 ^ 32 := by
    unfold uint32
    omega
  have hopen := (frameDecoder_legal hgoes s frames fun f hf =>
    ⟨(hlegal f hf).1, by have := (hlegal f hf).2; omega⟩).mpr fun f hf => (hlegal f hf).2
  rw [readAll_of_parsed rfl]
  obtain ⟨hok, hstate, -⟩ := hfollows.readAll_fits trivial
    (tcpReceiver_synced (rfl : (parsedContext id).pending = [])) hfits
  rw [nil_append, hbytes] at hok hstate
  rw [hopen] at hok
  exact ⟨hok, hstate⟩

/-- A connection whose first read has the whole header: the address is rewritten, and the frames are
passed on. -/
theorem readAll_of_whole_header {first : Bytes} {later : List Bytes}
    (hbytes : (first :: later).flatten = h ++ frames.flatMap writeFrame)
    (hlong : h.length ≤ first.length) :
    ((trafficReceiver env).readAll (openContext {} id, s) (first :: later)).2 = true ∧
      ((trafficReceiver env).readAll (openContext {} id, s) (first :: later)).1.2 =
        ((frameDecoder (uint32 env.maxFrameSize) (env.onFrame id)).run (rewriteIP env id s ip)
          (frames.flatMap writeFrame)).state := by
  obtain ⟨data, rfl⟩ : h <+: first := by
    refine prefix_of_prefix_length_le (prefix_append h (frames.flatMap writeFrame)) ?_ hlong
    rw [← hbytes, flatten_cons]
    exact prefix_append _ _
  rw [flatten_cons, append_assoc, append_cancel_left_eq] at hbytes
  rw [readAll_of_header hproxy hh]
  refine readAll_frames haccept hlegal hbuf ?_
  split
  · rename_i hdata
    rwa [hdata, nil_append] at hbytes
  · exact hbytes

end

end Reads

/-- **PROXY headers and chunks.** Take a header that is accepted, legal frames that fit into the buffer
all together and callbacks that do not close the connection. A split of header and frames into reads has
the same effect as a single read and does not close the connection if its first read has the whole
header, and only then if the limit for frames is below the number that `"PROX"` stands for. -/
theorem header_chunking_iff (env : Traffic σ) (hproxy : env.proxyProtocol = true)
    (haccept : ∀ s id f, (env.handleTCPRequest s id f).2 = .none) (id : String) (s : σ) (h ip : Bytes)
    (hh : parseProxyProtocolV1 env h = some (ip, h.length)) (frames : List Bytes)
    (hlegal : ∀ f ∈ frames, 1 ≤ f.length ∧ f.length ≤ uint32 env.maxFrameSize)
    (hbuf : ((frames.flatMap writeFrame).length : Int) ≤ env.maxFrameBufSize) (reads : List Bytes)
    (hbytes : reads.flatten = h ++ frames.flatMap writeFrame) :
    let same := ((trafficReceiver env).readAll (openContext {} id, s) reads).2 = true ∧
      ((trafficReceiver env).readAll (openContext {} id, s) reads).1.2 =
        ((trafficReceiver env).readAll (openContext {} id, s) [h ++ frames.flatMap writeFrame]).1.2
    let whole := ∃ first later, reads = first :: later ∧ h.length ≤ first.length
    (whole → same) ∧ (uint32 env.maxFrameSize < 0x50524F58 → same → whole) := by
  constructor
  · rintro ⟨first, later, rfl, hlong⟩
    obtain ⟨hok, hstate⟩ := @readAll_of_whole_header _ env s h ip id hproxy hh haccept frames hlegal
      hbuf first later hbytes hlong
    obtain ⟨-, hsingle⟩ := @readAll_of_whole_header _ env s h ip id hproxy hh haccept frames hlegal
      hbuf (h ++ frames.flatMap writeFrame) [] (by simp) (by simp)
    exact ⟨hok, hstate.trans hsingle.symm⟩
  · rintro hlimit ⟨hok, -⟩
    cases reads with
    | nil =>
      obtain ⟨idx, -, -, -, hlen, -⟩ := parseProxyProtocolV1_eq_some hh
      have hnil := congrArg length hbytes
      simp only [flatten_nil, length_nil, length_append] at hnil
      omega
    | cons first later =>
      refine ⟨first, later, rfl, ?_⟩
      by_contra hshort
      rw [closed_of_cut_header hproxy hh hlimit hbytes (by omega)] at hok
      cases hok

/-- The PROXY protocol with a record of the addresses rewritten and of the frames passed on. -/
def loggingTraffic : Traffic (List Bytes × List Bytes) :=
  proxyTraffic (fun t _ f => ((t.1, t.2 ++ [f]), .none)) fun t _ ip => (t.1 ++ [ip], t.2)

/-- The address `"1.2.3.4"`. -/
def sourceIP : Bytes := [49, 46, 50, 46, 51, 46, 52]

/-- The header `"PROXY TCP4 1.2.3.4 5.6.7.8 1 2\r\n"`. -/
def tcp4Header : Bytes :=
  proxyTag ++ tcp4Word ++ [32] ++ sourceIP ++ [32, 53, 46, 54, 46, 55, 46, 56, 32, 49, 32, 50] ++ crlf

/-- A frame cut in the middle, with the header in the first read. -/
theorem header_chunking_in_first_read :
    let reads := [tcp4Header ++ [0, 0, 0], [1, 7]]
    let start := (openContext {} "a", ([], []))
    ((trafficReceiver loggingTraffic).readAll start reads).2 = true ∧
      ((trafficReceiver loggingTraffic).readAll start reads).1.2 =
        ((trafficReceiver loggingTraffic).readAll start [tcp4Header ++ [[7]].flatMap writeFrame]).1.2 :=
  (header_chunking_iff loggingTraffic rfl (fun _ _ _ => rfl) "a" ([], []) tcp4Header sourceIP
    (by decide +kernel) [[7]] (by decide) (by decide) [tcp4Header ++ [0, 0, 0], [1, 7]]
    (by decide)).1 ⟨_, _, rfl, by decide⟩

/-- A header that is cut in the middle closes the connection; in a single read it gives the client's
address and its frame. -/
theorem split_header_closes :
    let start := (openContext {} "a", ([], []))
    ((trafficReceiver loggingTraffic).readAll start
        [tcp4Header.take 10, tcp4Header.drop 10 ++ [[7]].flatMap writeFrame]).2 = false ∧
      ((trafficReceiver loggingTraffic).readAll start [tcp4Header ++ [[7]].flatMap writeFrame]).2 =
        true ∧
      ((trafficReceiver loggingTraffic).readAll start [tcp4Header ++ [[7]].flatMap writeFrame]).1.2 =
        ([sourceIP], [[7]]) := by
  decide +kernel

end Sgate.Gateway
