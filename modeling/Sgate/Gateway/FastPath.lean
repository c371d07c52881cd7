import Sgate.Gateway.Pipeline

/-! # The two paths of the pipeline

A gateway without security components, tracer and degradation takes the fast path, which builds the
message in another way. Gateways that differ in some components are compared stage by stage
(`Unnoticed`). -/

namespace Sgate.Pipeline

open Routes Filters Traffic EarlyExit MessagePipeline Stage
open Security (RateLimiter WAF CircuitBreaker)

variable {σ γ : Type} {env : Env} {connectionID : String} {message : StreamData}
  {g g₁ : MessagePipeline σ γ} {c : Client} {client : Option ℕ}

/-! ## Authorization -/

theorem checkMsgRate_eq_ok (h : checkMsgRate env connectionID c g = (.ok (), g₁)) :
    ∃ c', c'.userUUID = c.userUUID ∧
      g₁ = g.withConnections (g.connections.store connectionID c') := by
  have hsame : ∀ maxPerConn now, (c.checkAndIncrementMsgRate maxPerConn now).1.userUUID =
      c.userUUID := by
    intro maxPerConn now
    unfold Client.checkAndIncrementMsgRate
    grind
  unfold checkMsgRate at h
  dsimp only at h
  split at h <;> cases h
  exact ⟨_, hsame _ _, rfl⟩

theorem findLogicClient_eq_ok (h : findLogicClient connectionID c g = (.ok client, g₁)) :
    g₁ = g ∨ ∃ k, g₁ = g.withConnections
      (g.connections.modify connectionID fun c => { c with logicClient := some k }) := by
  unfold findLogicClient at h
  split at h
  · exact .inl (Prod.mk.inj h).2.symm
  · split at h
    · exact .inl (Prod.mk.inj h).2.symm
    · split at h <;> cases h
      exact .inr ⟨_, rfl⟩

/-- A message that is authorized has a command, and nothing but the connections was changed; the
connection is still registered, with the same user. -/
theorem authorize_eq_ok (h : authorize env connectionID message g = (.ok (c, client), g₁)) :
    message.cmd ≠ 0 ∧ ∃ connections, g₁ = g.withConnections connections ∧
      ∃ c', connections connectionID = some c' ∧ c'.userUUID = c.userUUID := by
  obtain ⟨hcmd, -, v, hrate, hclient⟩ := authorize_stages h
  obtain ⟨c', hc', rfl⟩ := checkMsgRate_eq_ok hrate
  refine ⟨hcmd, ?_⟩
  rcases findLogicClient_eq_ok hclient with rfl | ⟨k', rfl⟩
  · exact ⟨_, rfl, c', KeyMap.store_self .., hc'⟩
  · refine ⟨_, rfl, { c' with logicClient := some k' }, ?_, hc'⟩
    rw [KeyMap.modify_apply, if_pos rfl]
    simp only [withConnections, KeyMap.store_self, Option.map_some]

/-- A change of the gateway that authorization does not notice. -/
structure Unnoticed (hide : MessagePipeline σ γ → MessagePipeline σ γ) : Prop where
  overloaded : ∀ g, (hide g).overloaded = g.overloaded
  connections : ∀ g, (hide g).connections = g.connections
  protection : ∀ g, (hide g).protection = g.protection
  clients : ∀ g, (hide g).clients = g.clients
  isConnected : ∀ g, (hide g).isConnected = g.isConnected
  recordDrop : ∀ g, hide g.recordDrop = (hide g).recordDrop
  withConnections : ∀ g connections,
    hide (g.withConnections connections) = (hide g).withConnections connections
  count : ∀ g o, o ≠ .waf → hide (g.count o) = (hide g).count o

section

variable {hide : MessagePipeline σ γ → MessagePipeline σ γ} (h : Unnoticed hide)

include h

theorem Unnoticed.isPreAuthCommand (g : MessagePipeline σ γ) (cmd : Int) :
    (hide g).isPreAuthCommand cmd = g.isPreAuthCommand cmd := by
  simp only [MessagePipeline.isPreAuthCommand, h.protection]

theorem Unnoticed.getLogicClient (g : MessagePipeline σ γ) (serverID : String) :
    (hide g).getLogicClient serverID = g.getLogicClient serverID := by
  simp only [MessagePipeline.getLogicClient, h.clients, h.isConnected]

theorem Unnoticed.blind_checkOverload : Blind hide (checkOverload : PipelineStage σ γ Unit) := by
  intro g
  unfold checkOverload
  rw [h.overloaded]
  split
  · rw [h.count _ _ (by decide), h.recordDrop]
  · rfl

theorem Unnoticed.blind_findConnection :
    Blind hide (findConnection connectionID : PipelineStage σ γ Client) := by
  intro g
  unfold findConnection
  rw [h.connections]
  cases g.connections connectionID with
  | none => exact Prod.ext rfl (h.count g .auth (by decide)).symm
  | some c => rfl

theorem Unnoticed.blind_notAllowed (err : String) :
    Blind hide (notAllowed env c err : PipelineStage σ γ Unit) :=
  fun g => Prod.ext rfl (h.count g .auth (by decide)).symm

theorem Unnoticed.blind_checkAuth :
    Blind hide (checkAuth env message c : PipelineStage σ γ Unit) := by
  intro g
  unfold checkAuth
  rw [h.isPreAuthCommand]
  split
  · exact h.blind_notAllowed _ g
  · split
    · exact h.blind_notAllowed _ g
    · rfl

theorem Unnoticed.blind_checkMsgRate :
    Blind hide (checkMsgRate env connectionID c : PipelineStage σ γ Unit) := by
  intro g
  unfold checkMsgRate
  rw [h.protection, h.connections]
  dsimp only
  split
  · exact Prod.ext rfl (h.withConnections ..).symm
  · exact Prod.ext rfl (h.count g .rateLimit (by decide)).symm

theorem Unnoticed.blind_findLogicClient :
    Blind hide (findLogicClient connectionID c : PipelineStage σ γ (Option ℕ)) := by
  intro g
  unfold findLogicClient
  rw [h.isConnected, h.getLogicClient, h.connections]
  split
  · rfl
  · split
    · rfl
    · split
      · exact Prod.ext rfl (h.count g .noLogic (by decide)).symm
      · exact Prod.ext rfl (h.withConnections ..).symm

theorem Unnoticed.blind_authorize :
    Blind hide (authorize env connectionID message : PipelineStage σ γ (Client × Option ℕ)) := by
  refine .bind h.blind_checkOverload fun _ => .bind ?_ fun _ => .bind h.blind_findConnection fun _ =>
    .bind h.blind_checkAuth fun _ => .bind h.blind_checkMsgRate fun _ =>
      .bind h.blind_findLogicClient fun _ => .pure _ _
  intro g
  unfold checkCommand
  split <;> rfl

end

/-! ## Gateways with nothing to check -/

/-- No lists, no limiter, no breakers, no replay protection and no filters. -/
structure Bare (g : MessagePipeline σ γ) : Prop where
  lists : g.whitelistBlacklist = none
  limiter : g.rateLimiter = none
  breakers : g.circuitBreakerMgr = none
  verifyInbound : g.protection.verifyInbound = false
  chain : g.chainEmpty = true

theorem fastPath_iff (g : MessagePipeline σ γ) :
    g.fastPath = true ↔ Bare g ∧ g.waf = none ∧ g.tracer = none ∧ g.degradation = none := by
  simp only [fastPath, securityDisabled, Bool.and_eq_true,
    Option.isNone_iff_eq_none, Bool.not_eq_true']
  constructor
  · rintro ⟨⟨⟨⟨⟨⟨⟨h₁, h₂⟩, h₃⟩, h₄⟩, h₅⟩, h₆⟩, h₇⟩, h₈⟩
    exact ⟨⟨h₁, h₂, h₄, h₅, h₆⟩, h₃, h₇, h₈⟩
  · rintro ⟨⟨h₁, h₂, h₄, h₅, h₆⟩, h₃, h₇, h₈⟩
    exact ⟨⟨⟨⟨⟨⟨⟨h₁, h₂⟩, h₃⟩, h₄⟩, h₅⟩, h₆⟩, h₇⟩, h₈⟩

/-- The message the full path builds for a gateway with nothing to check. -/
def bareMessage (connectionID : String) (message : StreamData) (c : Client) (hasChain : Bool) :
    StreamData where
  sessionId := connectionID
  userKey := c.userUUID
  clientIp := c.remoteHostOf
  data := message.data
  seqId := message.seqId
  cmd := if hasChain ∨ 0 < message.cmd then message.cmd else 0

/-- It is the message of the fast path only for a client without an address and, if there is no chain
object, for a positive command. -/
theorem bareMessage_eq_fastMessage_iff (hcmd : message.cmd ≠ 0) (hasChain : Bool) :
    bareMessage connectionID message c hasChain = fastMessage connectionID message c ↔
      c.remoteHostOf = "" ∧ (hasChain = true ∨ 0 < message.cmd) := by
  rw [bareMessage, fastMessage, StreamData.mk.injEq]
  by_cases h : hasChain = true ∨ 0 < message.cmd
  · simp [h]
  · simp [h, hcmd.symm]

theorem screenAddress_of_bare (hg : Bare g) : screenAddress env message c g = (.ok (), g) := by
  have hlists : checkLists c.remoteHostOf g = (.ok (), g) := by rw [checkLists, hg.lists]
  have hlimiter : ∀ ask, askLimiter ask g = (.ok (), g) := by
    intro ask
    rw [askLimiter, hg.limiter]
  exact (bind_of_ok hlists).trans ((bind_of_ok (hlimiter _)).trans
    ((bind_of_ok (hlimiter _)).trans (hlimiter _)))

theorem runPhases_of_empty {τ : Type} {chain : FilterChain τ γ} (h : chain.len = 0)
    (phases : List FilterPhase) (fcx : FilterContext) (habort : fcx.abort = false) (s : τ) :
    chain.runPhases phases fcx s = ⟨true, fcx, s, []⟩ := by
  have hphase : ∀ phase, chain.runByPhase phase fcx s = ⟨true, fcx, s, []⟩ := by
    intro phase
    rw [FilterChain.runByPhase, List.eq_nil_of_length_eq_zero h]
    split <;> rfl
  induction phases with
  | nil => rfl
  | cons phase phases ih =>
    rw [FilterChain.runPhases, hphase, ih]
    simp [habort]

theorem runFilters_of_bare (hg : Bare g) :
    runFilters env connectionID message g = (.ok (g.filterChain.map fun _ =>
      filteredMessage connectionID (buildFilterContext env g connectionID message.data message.cmd)
        message.data message.cmd message.seqId), g) := by
  have hchain := hg.chain
  unfold chainEmpty at hchain
  unfold runFilters applyForwardFilters
  cases h : g.filterChain with
  | none => rfl
  | some chain =>
    rw [h] at hchain
    simp only [runPhases_of_empty (of_decide_eq_true hchain) forwardPhases
      (buildFilterContext env g connectionID message.data message.cmd) rfl]
    rfl

variable {c' : Client}

theorem userUUID_buildFilterContext (hc' : g.connections connectionID = some c') (data : Bytes)
    (cmd : Int) : (buildFilterContext env g connectionID data cmd).userUUID =
      if c'.isAuthenticated then c'.userUUID else "" := by
  unfold buildFilterContext
  cases h : c'.isAuthenticated <;> simp [hc', h, Option.filter]

theorem fullMessage_filteredMessage (hc' : g.connections connectionID = some c')
    (huser : c'.userUUID = c.userUUID) :
    fullMessage connectionID message c c.remoteHostOf (some (filteredMessage connectionID
      (buildFilterContext env g connectionID message.data message.cmd) message.data message.cmd
      message.seqId)) = bareMessage connectionID message c true := by
  have hkey : (if (buildFilterContext env g connectionID message.data message.cmd).userUUID = "" then
      c.userUUID else (buildFilterContext env g connectionID message.data message.cmd).userUUID) =
      c.userUUID := by
    rw [userUUID_buildFilterContext hc', huser]
    grind
  have hdata : (buildFilterContext env g connectionID message.data message.cmd).data = message.data :=
    rfl
  simp only [fullMessage, filteredMessage, bareMessage, hkey, hdata, StreamData.mk.injEq]
  grind

theorem screenMessage_of_bare (hg : Bare g) (hc' : g.connections connectionID = some c')
    (huser : c'.userUUID = c.userUUID) :
    screenMessage env connectionID message c g =
      (.ok (bareMessage connectionID message c g.filterChain.isSome),
        g.startSpan (routeKeyFor message.cmd) connectionID) := by
  have hbreaker : checkBreaker env (routeKeyFor message.cmd) g = (.ok (), g) := by
    rw [checkBreaker, hg.breakers]
  have hintegrity : checkIntegrity env connectionID message g = (.ok (), g) := by
    rw [checkIntegrity, hg.verifyInbound]
    rfl
  have htrace : beginTrace connectionID (routeKeyFor message.cmd) g =
      (.ok (), g.startSpan (routeKeyFor message.cmd) connectionID) := rfl
  have hbare : Bare (g.startSpan (routeKeyFor message.cmd) connectionID) := { hg with }
  refine (bind_of_ok hbreaker).trans ((bind_of_ok hintegrity).trans
    ((bind_of_ok htrace).trans ((bind_of_ok (runFilters_of_bare hbare)).trans ?_)))
  rw [pure_apply]
  congr 2
  show fullMessage connectionID message c c.remoteHostOf (g.filterChain.map fun _ => _) = _
  cases g.filterChain with
  | none => simp [fullMessage, bareMessage]
  | some chain => exact fullMessage_filteredMessage hc' huser

/-! ## What a call sends -/

variable {r : PipelineResult}

theorem process_of_unauthorized (data : Bytes)
    (h : authorize env connectionID message g = (.error r, g₁)) :
    process env connectionID data message g = (r, g₁) := by
  have hall : stages env connectionID data message g = (.error r, g₁) := bind_of_error h
  rw [process, hall]

variable {data : Bytes} {g₂ : MessagePipeline σ γ}

/-- What `forward` returns. -/
def forwardResult (env : Env) (client : Option ℕ) (msg : StreamData) : PipelineResult where
  action := .none
  error := (sendErr env client msg).map ("forward to logic failed: " ++ ·)
  protoMsg := some msg

/-- What `forward` leaves. -/
def forwarded (env : Env) (message : StreamData) (client : Option ℕ) (msg : StreamData)
    (g : MessagePipeline σ γ) : MessagePipeline σ γ :=
  (if (sendErr env client msg).isSome then
    (g.send client msg).recordFailed (routeKeyFor message.cmd) (env.now .record)
  else (g.send client msg).recordForwarded (routeKeyFor message.cmd) (env.now .record)).endSpan

section

variable (env : Env) (message : StreamData) (client : Option ℕ) (msg : StreamData)
  (g : MessagePipeline σ γ)

theorem forward_apply : forward env message client msg g =
      (.ok (forwardResult env client msg), forwarded env message client msg g) := by
  unfold forward forwardResult forwarded
  cases sendErr env client msg <;> rfl

theorem sent_forwarded : (forwarded env message client msg g).sent =
      (client.map fun k => (k, msg)).toList ++ g.sent := by
  unfold forwarded
  split
  · exact (counters_recordFailed (g.send client msg) _ _).2
  · exact (counters_recordForwarded (g.send client msg) _ _).2

end

theorem buildMessage_of_fast (data : Bytes) (h : g.fastPath = true) :
    buildMessage env connectionID data message c g = (.ok (fastMessage connectionID message c), g) := by
  rw [buildMessage, if_pos h]

theorem buildMessage_of_bare (data : Bytes) (hfast : g.fastPath = false) (hg : Bare g)
    (hwaf : checkWAF data g = (.ok (), g)) (hc' : g.connections connectionID = some c')
    (huser : c'.userUUID = c.userUUID) :
    buildMessage env connectionID data message c g =
      (.ok (bareMessage connectionID message c g.filterChain.isSome),
        g.startSpan (routeKeyFor message.cmd) connectionID) := by
  rw [buildMessage, if_neg (by simp [hfast])]
  exact (bind_of_ok (screenAddress_of_bare hg)).trans ((bind_of_ok hwaf).trans
    (screenMessage_of_bare hg hc' huser))

section

variable (h : authorize env connectionID message g = (.ok (c, client), g₁))
include h

theorem process_of_refused
    (hbuild : buildMessage env connectionID data message c g₁ = (.error r, g₂)) :
    process env connectionID data message g = (r, g₂) := by
  have hall : stages env connectionID data message g = (.error r, g₂) :=
    (bind_of_ok h).trans (bind_of_error hbuild)
  rw [process, hall]

theorem process_of_built {msg : StreamData}
    (hbuild : buildMessage env connectionID data message c g₁ = (.ok msg, g₂)) :
    process env connectionID data message g =
      (forwardResult env client msg, forwarded env message client msg g₂) := by
  have hall : stages env connectionID data message g =
      (.ok (forwardResult env client msg), forwarded env message client msg g₂) :=
    (bind_of_ok h).trans ((bind_of_ok hbuild).trans (forward_apply ..))
  rw [process, hall]

theorem sent_of_fast (data : Bytes) (hfast : g.fastPath = true) :
    (process env connectionID data message g).2.sent =
      (client.map fun k => (k, fastMessage connectionID message c)).toList ++ g.sent := by
  obtain ⟨-, connections, rfl, -⟩ := authorize_eq_ok h
  rw [process_of_built h (buildMessage_of_fast data hfast)]
  exact sent_forwarded ..

theorem sent_of_bare (data : Bytes) (hslow : g.fastPath = false) (hg : Bare g) (hwaf : g.waf = none)
    :
    (process env connectionID data message g).2.sent =
      (client.map fun k => (k, bareMessage connectionID message c g.filterChain.isSome)).toList ++
        g.sent := by
  obtain ⟨-, connections, rfl, c', hc', huser⟩ := authorize_eq_ok h
  have hg₁ : Bare (g.withConnections connections) := { hg with }
  have hwaf₁ : checkWAF data (g.withConnections connections) = (.ok (), g.withConnections connections) := by
    rw [checkWAF, show (g.withConnections connections).waf = none from hwaf]
  rw [process_of_built h (buildMessage_of_bare data hslow hg₁ hwaf₁ hc' huser)]
  exact sent_forwarded ..

end

/-! ## The fast path against the full path -/

def equip (tracer : Option Tracer) (degradation : Option DegradationManager)
    (chain : Option (FilterChain (FilterState σ) γ)) (g : MessagePipeline σ γ) : MessagePipeline σ γ :=
  { g with tracer := tracer, degradation := degradation, filterChain := chain }

theorem unnoticed_equip (tracer : Option Tracer) (degradation : Option DegradationManager)
    (chain : Option (FilterChain (FilterState σ) γ)) : Unnoticed (equip tracer degradation chain) := by
  constructor <;> intros <;> rfl

theorem fastPath_equip {tracer : Option Tracer} {degradation : Option DegradationManager}
    {chain : Option (FilterChain (FilterState σ) γ)} (g : MessagePipeline σ γ)
    (hfull : tracer.isSome = true ∨ degradation.isSome = true) :
    (equip tracer degradation chain g).fastPath = false := by
  rw [Bool.eq_false_iff, Ne, fastPath_iff]
  rintro ⟨-, -, htracer, hdegradation⟩
  change tracer = none at htracer
  change degradation = none at hdegradation
  rw [htracer, hdegradation] at hfull
  rcases hfull with hfull | hfull <;> cases hfull

/-- **Fast path and full path.** A gateway without security components, tracer and degradation sends
the same message as with a tracer or a degradation manager, and a chain without filters or none,
exactly if the message is not authorized for a logic server, or the client has no address and there is
a chain or the command is positive. -/
theorem fastPath_sends_same_iff (env : Env) (connectionID : String) (data : Bytes)
    (message : StreamData) (g : MessagePipeline σ γ) (hfast : g.fastPath = true)
    (tracer : Option Tracer) (degradation : Option DegradationManager)
    (chain : Option (FilterChain (FilterState σ) γ))
    (hfull : tracer.isSome = true ∨ degradation.isSome = true)
    (hchain : (equip tracer degradation chain g).chainEmpty = true) :
    (process env connectionID data message (equip tracer degradation chain g)).2.sent =
        (process env connectionID data message g).2.sent ↔
      ∀ c k g₁, authorize env connectionID message g = (.ok (c, some k), g₁) →
        c.remoteHostOf = "" ∧ (chain.isSome = true ∨ 0 < message.cmd) := by
  have hblind : authorize env connectionID message (equip tracer degradation chain g) = _ :=
    (unnoticed_equip tracer degradation chain).blind_authorize g
  rcases h : authorize env connectionID message g with ⟨r | ⟨c, client⟩, g₁⟩
  · rw [h] at hblind
    rw [process_of_unauthorized data h, process_of_unauthorized data hblind]
    simp [equip]
  · rw [h] at hblind
    obtain ⟨hbare, hwaf, -, -⟩ := (fastPath_iff g).mp hfast
    -- the other gateway has nothing to check either, but takes the full path
    have hbare' : Bare (equip tracer degradation chain g) := { hbare with chain := hchain }
    have hmessages : bareMessage connectionID message c chain.isSome =
        fastMessage connectionID message c ↔ _ :=
      bareMessage_eq_fastMessage_iff (authorize_eq_ok h).1 chain.isSome
    rw [sent_of_fast h data hfast, sent_of_bare hblind data (fastPath_equip g hfull) hbare' hwaf]
    show _ ++ g.sent = _ ++ g.sent ↔ _
    rw [List.append_cancel_right_eq]
    cases client with
    | none => simp
    | some k =>
      constructor
      · intro hsent c₂ k₂ g₂ h₂
        obtain ⟨rfl, -⟩ := Prod.mk.inj (Except.ok.inj (Prod.mk.inj h₂).1)
        exact hmessages.mp (Prod.mk.inj (List.cons.inj hsent).1).2
      · intro hall
        have hmsg := hmessages.mpr (hall c k g₁ rfl)
        exact congrArg (fun msg => [(k, msg)]) hmsg

/-- The sample client without an address. -/
def noAddress : Client := { sampleClient with remoteAddr := "" }

/-- A tracer changes nothing about the message of a client without address, and something about the
message of one that has an address. -/
theorem fastPath_sends_same_iff_addresses :
    (process (sampleEnv 0) "conn_1" [7] (sampleMessage 5 [7])
        (equip (some {}) none none (plainGateway noAddress))).2.sent =
      (process (sampleEnv 0) "conn_1" [7] (sampleMessage 5 [7]) (plainGateway noAddress)).2.sent ∧
    (process (sampleEnv 0) "conn_1" [7] (sampleMessage 5 [7])
        (equip (some {}) none none (plainGateway sampleClient))).2.sent ≠
      (process (sampleEnv 0) "conn_1" [7] (sampleMessage 5 [7]) (plainGateway sampleClient)).2.sent := by
  constructor
  · refine (fastPath_sends_same_iff (sampleEnv 0) "conn_1" [7] (sampleMessage 5 [7])
      (plainGateway noAddress) (by decide) (some {}) none none (Or.inl rfl) (by decide)).mpr ?_
    intro c k g₁ h
    have hhost : Except.ok "" = Except.ok (ε := PipelineResult) c.remoteHostOf :=
      congrArg (fun x => x.1.map fun p => p.1.remoteHostOf) h
    exact ⟨(Except.ok.inj hhost).symm, Or.inr (by decide)⟩
  · intro hsame
    have hhost := (fastPath_sends_same_iff (sampleEnv 0) "conn_1" [7] (sampleMessage 5 [7])
      (plainGateway sampleClient) (by decide) (some {}) none none (Or.inl rfl) (by decide)).mp
      hsame sampleClient 0 _ rfl
    exact absurd hhost.1 (by decide)

/-- The fast path sends no address, and a negative command that the full path without a chain
replaces by zero. -/
theorem fastPath_sends_other :
    (process (sampleEnv 0) "conn_1" [7] (sampleMessage (-5) [7])
        (plainGateway sampleClient)).2.sent.map (fun m => (m.2.clientIp, m.2.cmd)) = [("", -5)] ∧
    (process (sampleEnv 0) "conn_1" [7] (sampleMessage (-5) [7])
        (equip (some {}) none none (plainGateway sampleClient))).2.sent.map
          (fun m => (m.2.clientIp, m.2.cmd)) = [("10.0.0.1", 0)] := by
  decide

/-! ## With a firewall and without it -/

/-- The gateway with another firewall and another count of what it found. -/
def setWAF (w : Option WAF) (n : ℕ) (g : MessagePipeline σ γ) : MessagePipeline σ γ :=
  { g with waf := w, counters := Function.update g.counters .waf n }

section

variable (w : Option WAF) (n : ℕ)

theorem setWAF_setWAF (w' : Option WAF) (n' : ℕ) (g : MessagePipeline σ γ) :
    setWAF w n (setWAF w' n' g) = setWAF w n g := by
  simp [setWAF]

theorem setWAF_count (g : MessagePipeline σ γ) {o : Outcome} (ho : o ≠ .waf) :
    setWAF w n (g.count o) = (setWAF w n g).count o := by
  simp only [setWAF, count, Function.update_of_ne ho]
  rw [Function.update_comm ho.symm]

theorem setWAF_same (g : MessagePipeline σ γ) :
    (setWAF w n g).whitelistBlacklist = g.whitelistBlacklist ∧
    (setWAF w n g).rateLimiter = g.rateLimiter ∧ (setWAF w n g).breakerParams = g.breakerParams ∧
    (setWAF w n g).circuitBreakerMgr = g.circuitBreakerMgr ∧ (setWAF w n g).protection = g.protection ∧
    (setWAF w n g).messageIntegrity = g.messageIntegrity :=
  ⟨rfl, rfl, rfl, rfl, rfl, rfl⟩

theorem unnoticed_setWAF : Unnoticed (setWAF w n : MessagePipeline σ γ → _) := by
  constructor
  case count => exact fun g _ ho => setWAF_count w n g ho
  all_goals intros; rfl

theorem blind_screenAddress :
    Blind (setWAF w n) (screenAddress env message c : PipelineStage σ γ Unit) := by
  have hlists : Blind (setWAF w n) (checkLists c.remoteHostOf : PipelineStage σ γ Unit) := by
    intro g
    simp only [checkLists, setWAF_same]
    cases g.whitelistBlacklist with
    | none => rfl
    | some lists =>
      dsimp only
      split
      · exact Prod.ext rfl (setWAF_count w n g (by decide)).symm
      · rfl
  have hlimiter : ∀ ask, Blind (setWAF w n) (askLimiter ask : PipelineStage σ γ Unit) := by
    intro ask g
    simp only [askLimiter, setWAF_same]
    cases g.rateLimiter with
    | none => rfl
    | some rl =>
      dsimp only
      split
      · rfl
      · exact Prod.ext rfl (setWAF_count w n (g.withLimiter (ask rl).1) (by decide)).symm
  exact .bind hlists fun _ => .bind (hlimiter _) fun _ => .bind (hlimiter _) fun _ => hlimiter _

theorem blind_checkBreaker (routeKey : String) :
    Blind (setWAF w n) (checkBreaker env routeKey : PipelineStage σ γ Unit) := by
  intro g
  simp only [checkBreaker, setWAF_same]
  cases g.circuitBreakerMgr with
  | none => rfl
  | some cbm =>
    cases g.breakerParams with
    | none => rfl
    | some p =>
      dsimp only
      split
      · rfl
      · exact Prod.ext rfl (setWAF_count w n (g.withBreakers _) (by decide)).symm

theorem blind_checkIntegrity :
    Blind (setWAF w n) (checkIntegrity env connectionID message : PipelineStage σ γ Unit) := by
  intro g
  simp only [checkIntegrity, setWAF_same]
  split
  · split
    · rfl
    · exact Prod.ext rfl (setWAF_count w n (g.withIntegrity _) (by decide)).symm
  · rfl

theorem mirrorMarked_setWAF (g : MessagePipeline σ γ) (fcx : FilterContext) :
    mirrorMarked env (setWAF w n g) fcx = setWAF w n (mirrorMarked env g fcx) := by
  unfold mirrorMarked
  split <;> rfl

theorem persistJWT_setWAF (g : MessagePipeline σ γ) (fcx : FilterContext) :
    persistJWT env (setWAF w n g) connectionID fcx = setWAF w n (persistJWT env g connectionID fcx) :=
  rfl

theorem blind_runFilters :
    Blind (setWAF w n) (runFilters env connectionID message :
      PipelineStage σ γ (Option StreamData)) := by
  intro g
  have hchain : (setWAF w n g).filterChain = g.filterChain := rfl
  have hcontext : buildFilterContext env (setWAF w n g) connectionID message.data message.cmd =
    buildFilterContext env g connectionID message.data message.cmd := rfl
  have hstate : (⟨env.now .filters, (setWAF w n g).degradation, (setWAF w n g).other⟩ : FilterState σ) =
    ⟨env.now .filters, g.degradation, g.other⟩ := rfl
  have htake : ∀ s, (setWAF w n g).withFilterState s = setWAF w n (g.withFilterState s) := fun _ => rfl
  unfold runFilters applyForwardFilters
  rw [hchain]
  cases g.filterChain with
  | none => rfl
  | some chain =>
    simp only [hcontext, hstate, htake]
    split
    · rw [mirrorMarked_setWAF, persistJWT_setWAF]
      rfl
    · rw [← setWAF_count w n _ (by decide)]
      rfl

theorem blind_screenMessage :
    Blind (setWAF w n) (screenMessage env connectionID message c : PipelineStage σ γ StreamData) :=
  .bind (blind_checkBreaker w n _) fun _ => .bind (blind_checkIntegrity w n) fun _ =>
    .bind (fun _ => rfl) fun _ => .bind (blind_runFilters w n) fun _ => .pure _ _

theorem onBreaker_setWAF (g : MessagePipeline σ γ) (route : String) (now : ℤ)
    (f : CircuitBreaker → CircuitBreaker) :
    (setWAF w n g).onBreaker route now f = setWAF w n (g.onBreaker route now f) := by
  simp only [onBreaker, setWAF_same]
  cases g.circuitBreakerMgr with
  | none => rfl
  | some cbm => cases g.breakerParams <;> rfl

theorem forwarded_setWAF (msg : StreamData) (g : MessagePipeline σ γ) :
    forwarded env message client msg (setWAF w n g) = setWAF w n (forwarded env message client msg g) := by
  have hsend : (setWAF w n g).send client msg = setWAF w n (g.send client msg) := rfl
  have hfailed := setWAF_count w n (g.send client msg) (o := .failed) (by decide)
  have hforwarded := setWAF_count w n (g.send client msg) (o := .forwarded) (by decide)
  unfold forwarded recordFailed recordForwarded
  rw [hsend, ← hfailed, ← hforwarded]
  split
  · rw [onBreaker_setWAF]
    rfl
  · show ((setWAF w n (g.send client msg |>.count .forwarded).countProcessed).onBreaker _ _ _
      |>.recordResult _ _ _).endSpan = _
    rw [onBreaker_setWAF]
    rfl

end

/-- Apart from the firewall and what it counted, two calls end alike. -/
def SameButWAF (p q : PipelineResult × MessagePipeline σ γ) : Prop :=
  p.1.action = q.1.action ∧ p.1.error = q.1.error ∧ setWAF none 0 p.2 = setWAF none 0 q.2

def withoutWAF (g : MessagePipeline σ γ) : MessagePipeline σ γ := { g with waf := none }

theorem withoutWAF_eq (g : MessagePipeline σ γ) :
    withoutWAF g = setWAF none (g.counters .waf) g := by
  simp [withoutWAF, setWAF]

/-- A gateway without a firewall keeps having none, and the count of what firewalls found. -/
abbrev KeepsUnarmed (n : ℕ) {α : Type} (x : PipelineStage σ γ α) : Prop :=
  Effects (fun g g' => setWAF none n g = g → setWAF none n g' = g')
    (fun g _ g' => setWAF none n g = g → setWAF none n g' = g') x

theorem keepsUnarmed_checkWAF (n : ℕ) (data : Bytes) :
    KeepsUnarmed n (checkWAF data : PipelineStage σ γ Unit) := by
  have hnone : ∀ g : MessagePipeline σ γ, setWAF none n g = g → checkWAF data g = (.ok (), g) := by
    intro g hg
    have hwaf : g.waf = none := by
      rw [← hg]
      rfl
    rw [checkWAF, hwaf]
  constructor
  · intro g a g' h hg
    rw [hnone g hg] at h
    cases h
    exact hg
  · intro g r g' h hg
    rw [hnone g hg] at h
    cases h

theorem keepsUnarmed_stages (n : ℕ) (env : Env) (connectionID : String) (data : Bytes)
    (message : StreamData) :
    KeepsUnarmed n (stages env connectionID data message : PipelineStage σ γ PipelineResult) := by
  have hfull : ∀ c, KeepsUnarmed n
      (fullPath env connectionID data message c : PipelineStage σ γ StreamData) := by
    intro c
    refine .bind (blind_screenAddress none n).effects (fun _ => .bind (keepsUnarmed_checkWAF n data)
      (fun _ => (blind_screenMessage none n).effects) ?_ ?_) ?_ ?_
    all_goals exact fun h h' hg => h' (h hg)
  have hbuild : ∀ c, KeepsUnarmed n
      (buildMessage env connectionID data message c : PipelineStage σ γ StreamData) := by
    intro c
    exact .ite (.pure (fun _ hg => hg) (fastMessage connectionID message c)) (hfull c)
  have hforward : ∀ client msg, KeepsUnarmed n
      (forward env message client msg : PipelineStage σ γ PipelineResult) := by
    intro client msg
    refine Blind.effects fun g => ?_
    rw [forward_apply, forward_apply, forwarded_setWAF]
  refine .bind (unnoticed_setWAF none n).blind_authorize.effects (fun p => .bind (hbuild p.1)
    (fun msg => hforward p.2 msg) ?_ ?_) ?_ ?_
  all_goals exact fun h h' hg => h' (h hg)

theorem counters_waf_process (env : Env) (connectionID : String) (data : Bytes)
    (message : StreamData) (g : MessagePipeline σ γ) (hwaf : g.waf = none) :
    (process env connectionID data message g).2.counters .waf = g.counters .waf := by
  have hg : setWAF none (g.counters .waf) g = g := by
    rw [← withoutWAF_eq, withoutWAF, ← hwaf]
  have hkeeps := keepsUnarmed_stages (σ := σ) (γ := γ) (g.counters .waf) env connectionID data message
  have hkept : setWAF none (g.counters .waf) (process env connectionID data message g).2 =
      (process env connectionID data message g).2 := by
    unfold process
    rcases h : stages env connectionID data message g with ⟨r | r, g'⟩
    · exact hkeeps.ends h hg
    · exact hkeeps.goes h hg
  rw [← hkept]
  simp [setWAF]

theorem counters_setWAF_of_ne (w : Option WAF) (n : ℕ) (g : MessagePipeline σ γ) {o : Outcome}
    (ho : o ≠ .waf) : (setWAF w n g).counters o = g.counters o :=
  Function.update_of_ne ho ..

variable {w : WAF}

theorem not_sameButWAF_of_found (hcmd : message.cmd ≠ 0) (hquiet : Quiet g g₂) :
    ¬ SameButWAF (r, (g₂.withWAF w).count .waf)
      (process env connectionID data message (withoutWAF g)) := by
  rintro ⟨-, -, hstate⟩
  obtain ⟨o, hcounters, -⟩ := outcome_process env connectionID data hcmd (withoutWAF g)
  have hwaf := counters_waf_process env connectionID data message (withoutWAF g) rfl
  have ho : o ≠ .waf := by
    rintro rfl
    rw [hcounters] at hwaf
    simp [bump] at hwaf
  -- the outcome without the firewall is counted in one of the two states only
  have hcount := congrArg (fun g : MessagePipeline σ γ => g.counters o) hstate
  have hfound : ((g₂.withWAF w).count .waf).counters o = g.counters o := by
    rw [← hquiet.1]
    exact Function.update_of_ne ho ..
  have hother : (process env connectionID data message (withoutWAF g)).2.counters o =
      g.counters o + 1 := by
    rw [hcounters]
    exact Function.update_self ..
  simp only [counters_setWAF_of_ne _ _ _ ho, hfound, hother] at hcount
  omega

theorem SameButWAF.of_setWAF (r : PipelineResult) (n : ℕ) (g : MessagePipeline σ γ) :
    SameButWAF (r, g) (r, setWAF none n g) :=
  ⟨rfl, rfl, (setWAF_setWAF ..).symm⟩

theorem sameButWAF_of_buildMessage {n : ℕ} {g' : MessagePipeline σ γ}
    (h : authorize env connectionID message g = (.ok (c, client), g₁))
    (h' : authorize env connectionID message g' = (.ok (c, client), setWAF none n g₁))
    (hbuild : buildMessage env connectionID data message c (setWAF none n g₁) = ((buildMessage env connectionID data message c g₁).1, setWAF none n (buildMessage env connectionID data message c g₁).2)) :
    SameButWAF (process env connectionID data message g)
      (process env connectionID data message g') := by
  rcases hg : buildMessage env connectionID data message c g₁ with ⟨r | msg, g₂⟩
  · rw [hg] at hbuild
    rw [process_of_refused h hg, process_of_refused h' hbuild]
    exact .of_setWAF r n g₂
  · rw [hg] at hbuild
    rw [process_of_built h hg, process_of_built h' hbuild, forwarded_setWAF]
    exact .of_setWAF _ n _

/-- Two messages are forwarded alike exactly if there is no client to send to, or they are the same. -/
theorem sameButWAF_forwarded_iff (n : ℕ) (g : MessagePipeline σ γ) (msg msg' : StreamData) :
    SameButWAF (forwardResult env client msg, forwarded env message client msg g)
        (forwardResult env client msg', setWAF none n (forwarded env message client msg' g)) ↔
      client = none ∨ msg = msg' := by
  constructor
  · rintro ⟨-, -, hstate⟩
    have hsent := congrArg sent hstate
    change (forwarded env message client msg g).sent =
      (forwarded env message client msg' g).sent at hsent
    rw [sent_forwarded, sent_forwarded] at hsent
    cases client with
    | none => exact .inl rfl
    | some k => exact .inr (Prod.mk.inj (List.cons.inj hsent).1).2
  · rintro (rfl | rfl)
    · exact ⟨rfl, rfl, (setWAF_setWAF ..).symm⟩
    · exact .of_setWAF _ n _

theorem waf_of_screenAddress (hwaf : g₁.waf = some w)
    (h : screenAddress env message c g₁ = (.ok (), g₂)) : g₂.waf = some w := by
  have hblind : Blind (setWAF (some w) (g₁.counters .waf))
      (screenAddress env message c : PipelineStage σ γ Unit) := blind_screenAddress _ _
  have hg₁ : setWAF (some w) (g₁.counters .waf) g₁ = g₁ := by
    simp [setWAF, ← hwaf]
  rw [← hblind.effects.goes h hg₁]
  rfl

theorem checkWAF_of_passes (hwaf : g.waf = some w) (hpass : w.passes data = true) :
    checkWAF data g = (.ok (), g) := by
  rw [checkWAF, hwaf]
  simp [WAF.inspect, hpass, withWAF, ← hwaf]

theorem fullPath_setWAF (n : ℕ) (hwaf : g₁.waf = some w)
    (hpass : ∀ g₂, screenAddress env message c g₁ = (.ok (), g₂) → w.passes data = true) :
    fullPath env connectionID data message c (setWAF none n g₁) =
      ((fullPath env connectionID data message c g₁).1,
        setWAF none n (fullPath env connectionID data message c g₁).2) := by
  have hblind : screenAddress env message c (setWAF none n g₁) = _ := blind_screenAddress none n g₁
  unfold fullPath
  rcases h : screenAddress env message c g₁ with ⟨r | ⟨⟩, g₂⟩
  · rw [h] at hblind
    rw [bind_of_error h, bind_of_error hblind]
  · rw [h] at hblind
    have hfound := checkWAF_of_passes (waf_of_screenAddress hwaf h) (hpass g₂ h)
    have hnone : checkWAF data (setWAF none n g₂) = (.ok (), setWAF none n g₂) := rfl
    rw [bind_of_ok h, bind_of_ok hblind, bind_of_ok hfound, bind_of_ok hnone]
    exact blind_screenMessage none n g₂

theorem not_sameButWAF_of_fails (hwaf : g₁.waf = some w)
    (h : authorize env connectionID message g = (.ok (c, client), g₁))
    (h₂ : screenAddress env message c g₁ = (.ok (), g₂)) (hfails : w.passes data ≠ true)
    (hslow : g₁.fastPath ≠ true) :
    ¬ SameButWAF (process env connectionID data message g)
      (process env connectionID data message (withoutWAF g)) := by
  have hcmd := (authorize_eq_ok h).1
  have hfound : checkWAF data g₂ = (.error { action := if w.shouldBlock then .close else .none },
      (g₂.withWAF { w with blockedCount := w.blockedCount + 1 }).count .waf) := by
    rw [checkWAF, waf_of_screenAddress hwaf h₂]
    simp [WAF.inspect, hfails]
  have hbuild : buildMessage env connectionID data message c g₁ = _ :=
    (if_neg hslow).trans ((bind_of_ok h₂).trans (bind_of_error hfound))
  rw [process_of_refused h hbuild]
  exact not_sameButWAF_of_found hcmd
    (((tallies_authorize env connectionID hcmd).goes h).trans ((tallies_screenAddress ..).goes h₂))

theorem startSpan_of_none (h : g.tracer = none) (routeKey connectionID : String) :
    g.startSpan routeKey connectionID = g := by
  cases g
  cases h
  rfl

theorem authorize_withoutWAF {r : Except PipelineResult (Client × Option ℕ)}
    (h : authorize env connectionID message g = (r, g₁)) :
    authorize env connectionID message (withoutWAF g) = (r, setWAF none (g.counters .waf) g₁) := by
  have hblind : authorize env connectionID message (setWAF none (g.counters .waf) g) = _ :=
    (unnoticed_setWAF none _).blind_authorize g
  rw [← withoutWAF_eq, h] at hblind
  exact hblind

theorem bare_of_fastPath (hfast : (withoutWAF g).fastPath = true) (connections : KeyMap String Client) :
    Bare (g.withConnections connections) := by
  obtain ⟨hbare, -⟩ := (fastPath_iff _).mp hfast
  exact { hbare with }

theorem not_fastPath_of_waf (hwaf : g.waf = some w) : g.fastPath ≠ true := by
  rw [Ne, fastPath_iff, hwaf]
  simp

section

variable (hwaf : g.waf = some w) (h : authorize env connectionID message g = (.ok (c, client), g₁))
include hwaf h

/-- Without the firewall the gateway takes the fast path, and the two paths build messages of their
own. -/
theorem sameButWAF_iff_of_fast (hfast : (withoutWAF g).fastPath = true)
    (hpass : w.passes data = true) :
    SameButWAF (process env connectionID data message g)
        (process env connectionID data message (withoutWAF g)) ↔
      client = none ∨ c.remoteHostOf = "" ∧ (g.filterChain.isSome = true ∨ 0 < message.cmd) := by
  obtain ⟨hcmd, connections, rfl, c', hc', huser⟩ := authorize_eq_ok h
  obtain ⟨-, -, htracer, -⟩ := (fastPath_iff _).mp hfast
  have hwaf₁ : (g.withConnections connections).waf = some w := hwaf
  have htracer₁ : (g.withConnections connections).tracer = none := htracer
  have hbuild : buildMessage env connectionID data message c (g.withConnections connections) = _ :=
    buildMessage_of_bare data (Bool.eq_false_iff.mpr (not_fastPath_of_waf hwaf₁))
      (bare_of_fastPath hfast connections) (checkWAF_of_passes hwaf₁ hpass) hc' huser
  rw [startSpan_of_none htracer₁] at hbuild
  rw [process_of_built h hbuild, process_of_built (authorize_withoutWAF h)
    (buildMessage_of_fast data hfast), forwarded_setWAF, sameButWAF_forwarded_iff,
    bareMessage_eq_fastMessage_iff hcmd]
  rfl

theorem sameButWAF_of_slow (hslow : (withoutWAF g).fastPath ≠ true)
    (hpass : ∀ g₂, screenAddress env message c g₁ = (.ok (), g₂) → w.passes data = true) :
    SameButWAF (process env connectionID data message g)
      (process env connectionID data message (withoutWAF g)) := by
  obtain ⟨-, connections, rfl, -⟩ := authorize_eq_ok h
  have hwaf₁ : (g.withConnections connections).waf = some w := hwaf
  have hfull : buildMessage env connectionID data message c (g.withConnections connections) = _ :=
    if_neg (not_fastPath_of_waf hwaf₁)
  have hbuild : buildMessage env connectionID data message c
      (setWAF none (g.counters .waf) (g.withConnections connections)) = _ := if_neg hslow
  rw [fullPath_setWAF _ hwaf₁ hpass, ← hfull] at hbuild
  exact sameButWAF_of_buildMessage h (authorize_withoutWAF h) hbuild

/-- What the payload and the two paths must be like for an authorized message. -/
theorem sameButWAF_iff_of_authorized :
    SameButWAF (process env connectionID data message g)
        (process env connectionID data message (withoutWAF g)) ↔
      ∀ g₂, screenAddress env message c g₁ = (.ok (), g₂) →
        w.passes data = true ∧ ((withoutWAF g).fastPath = true →
          client = none ∨ c.remoteHostOf = "" ∧ (g.filterChain.isSome = true ∨ 0 < message.cmd)) := by
  obtain ⟨-, connections, hg₁, -⟩ := authorize_eq_ok h
  have hwaf₁ : g₁.waf = some w := by
    rw [hg₁]
    exact hwaf
  by_cases hpass : ∀ g₂, screenAddress env message c g₁ = (.ok (), g₂) → w.passes data = true
  · by_cases hfast : (withoutWAF g).fastPath = true
    · have hscreen : screenAddress env message c g₁ = (.ok (), g₁) := by
        rw [hg₁]
        exact screenAddress_of_bare (bare_of_fastPath hfast connections)
      rw [sameButWAF_iff_of_fast hwaf h hfast (hpass g₁ hscreen)]
      constructor
      · exact fun hsame g₂ h₂ => ⟨hpass g₂ h₂, fun _ => hsame⟩
      · exact fun hall => (hall g₁ hscreen).2 hfast
    · refine iff_of_true (sameButWAF_of_slow hwaf h hfast hpass) ?_
      exact fun g₂ h₂ => ⟨hpass g₂ h₂, fun hf => absurd hf hfast⟩
  · obtain ⟨g₂, hg₂⟩ := not_forall.mp hpass
    obtain ⟨h₂, hfails⟩ := Classical.not_imp.mp hg₂
    constructor
    · intro hsame
      exact absurd hsame (not_sameButWAF_of_fails hwaf₁ h h₂ hfails (not_fastPath_of_waf hwaf₁))
    · exact fun hall => absurd (hall g₂ h₂).1 hfails

end

/-- **A firewall, whether it blocks or only logs.** A call ends as without the firewall, up to what
the firewall counts, exactly if a message that gets to the firewall passes it and, where the gateway
without it takes the fast path, there is no client to send to or the two paths build the same
message. -/
theorem waf_unnoticed_iff (env : Env) (connectionID : String) (data : Bytes) (message : StreamData)
    (g : MessagePipeline σ γ) (w : WAF) (hwaf : g.waf = some w) :
    SameButWAF (process env connectionID data message g)
        (process env connectionID data message (withoutWAF g)) ↔
      ∀ c client g₁ g₂, authorize env connectionID message g = (.ok (c, client), g₁) →
        screenAddress env message c g₁ = (.ok (), g₂) →
          w.passes data = true ∧ ((withoutWAF g).fastPath = true →
            client = none ∨ c.remoteHostOf = "" ∧ (g.filterChain.isSome = true ∨ 0 < message.cmd)) := by
  rcases h : authorize env connectionID message g with ⟨r | ⟨c, client⟩, g₁⟩
  · -- both calls end before the paths part
    rw [process_of_unauthorized data h, process_of_unauthorized data (authorize_withoutWAF h)]
    simpa using SameButWAF.of_setWAF r _ g₁
  · rw [sameButWAF_iff_of_authorized hwaf h]
    constructor
    · intro hall c₀ client₀ g₀ g₂ h₀
      obtain ⟨hok, rfl⟩ := Prod.mk.inj h₀
      cases hok
      exact hall g₂
    · exact fun hall g₂ => hall c client g₁ g₂ rfl

/-- A firewall for payloads of one byte that only logs what it finds. -/
def loggingWAF : WAF where
  enabled := true
  sqlPatterns := []
  xssPatterns := []
  maxPayloadSize := 1
  blockAction := "log"
  blockedCount := 0

/-- The plain gateway behind that firewall. -/
def loggingGateway (c : Client) : MessagePipeline Unit Unit :=
  { plainGateway c with waf := some loggingWAF }

/-- The firewall is not noticed by a client without address, and noticed by one that has an address. -/
theorem waf_unnoticed_iff_addresses :
    SameButWAF (process (sampleEnv 0) "conn_1" [7] (sampleMessage 5 [7]) (loggingGateway noAddress))
      (process (sampleEnv 0) "conn_1" [7] (sampleMessage 5 [7])
        (withoutWAF (loggingGateway noAddress))) ∧
    ¬ SameButWAF
      (process (sampleEnv 0) "conn_1" [7] (sampleMessage 5 [7]) (loggingGateway sampleClient))
      (process (sampleEnv 0) "conn_1" [7] (sampleMessage 5 [7])
        (withoutWAF (loggingGateway sampleClient))) := by
  constructor
  · refine (waf_unnoticed_iff (sampleEnv 0) "conn_1" [7] (sampleMessage 5 [7])
      (loggingGateway noAddress) loggingWAF rfl).mpr ?_
    intro c client g₁ g₂ h _
    have hhost : Except.ok "" = Except.ok (ε := PipelineResult) c.remoteHostOf :=
      congrArg (fun x => x.1.map fun p => p.1.remoteHostOf) h
    exact ⟨by decide, fun _ => Or.inr ⟨(Except.ok.inj hhost).symm, Or.inr (by decide)⟩⟩
  · intro hsame
    have hpaths := (waf_unnoticed_iff (sampleEnv 0) "conn_1" [7] (sampleMessage 5 [7])
      (loggingGateway sampleClient) loggingWAF rfl).mp hsame sampleClient (some 0) _ _ rfl rfl
    exact absurd (hpaths.2 rfl) (by decide)

/-- A firewall that is to log only drops what it finds; what it does not object to is sent with the
address of the client, which the gateway without it leaves out. -/
theorem logged_dropped :
    loggingWAF.shouldBlock = false ∧
    (process (sampleEnv 0) "conn_1" [7, 7] (sampleMessage 5 [7, 7])
      (loggingGateway sampleClient)).2.sent = [] ∧
    (process (sampleEnv 0) "conn_1" [7, 7] (sampleMessage 5 [7, 7])
      (withoutWAF (loggingGateway sampleClient))).2.sent.length = 1 ∧
    (process (sampleEnv 0) "conn_1" [7] (sampleMessage 5 [7])
      (loggingGateway sampleClient)).2.sent.map (·.2.clientIp) = ["10.0.0.1"] ∧
    (process (sampleEnv 0) "conn_1" [7] (sampleMessage 5 [7])
      (withoutWAF (loggingGateway sampleClient))).2.sent.map (·.2.clientIp) = [""] := by
  decide

end Sgate.Pipeline
