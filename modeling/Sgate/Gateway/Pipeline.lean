import Sgate.Gateway.Integrity
import Sgate.Gateway.Program
import Sgate.Lib.EarlyExit
import Sgate.Lib.Transition
import Sgate.Security.Screening
import Sgate.Traffic.Filters

/-! # The message pipeline

`Process` as one call on a gateway with all its components; `Gateway.Program` has the same function cut
into steps, with the verdicts of the components left open. Each of the returns of the source is the end
of a stage, and what a call counts and sends is derived stage by stage (`Tallies`). Third-party
functions, the clock and the answers of the logic servers are in `Env`. -/

namespace Sgate.Pipeline

open Routes Filters Traffic EarlyExit Transition
open Security (RateLimiter WAF CircuitBreaker CircuitBreakerManager second)
open HotUpdate (BreakerParams millisecond)
open Gateway (ConnAction WhitelistBlacklist MessageIntegrity)

/-! ## The gateway as the pipeline uses it -/

/-- A connection with the fields the pipeline needs besides those of `Connection`. -/
structure Client extends Connection where
  /-- In milliseconds. -/
  createdAt : ℤ := 0
  /-- In milliseconds. -/
  msgWindowStart : ℤ := 0
  msgCount : ℤ := 0
  jwtJti : String := ""
  jwtExp : ℤ := 0

/-- `CheckAndIncrementMsgRate`; `now` is in milliseconds. -/
def Client.checkAndIncrementMsgRate (c : Client) (maxPerConn now : ℤ) : Client × Bool :=
  if maxPerConn ≤ 0 then (c, true)
  else if 1000 ≤ now - c.msgWindowStart then ({ c with msgWindowStart := now, msgCount := 1 }, true)
  else if maxPerConn ≤ c.msgCount then (c, false)
  else ({ c with msgCount := c.msgCount + 1 }, true)

/-- What becomes of a message, one constructor for each of the counters of the gateway. -/
inductive Outcome
  | forwarded
  | failed
  /-- `messagesDroppedOverload`. -/
  | overload
  /-- `messagesDroppedAuth`. -/
  | auth
  /-- `messagesDroppedRateLimit`. -/
  | rateLimit
  /-- `messagesDroppedNoLogicNotConnected`. -/
  | noLogic
  /-- `messagesDroppedBlacklist`. -/
  | blacklist
  /-- `messagesDroppedWAF`. -/
  | waf
  /-- `messagesDroppedCircuit`. -/
  | circuit
  /-- `messagesDroppedIntegrity`. -/
  | integrity
  /-- `messagesDroppedFilterChain`. -/
  | filterChain
  deriving DecidableEq

def Outcome.all : List Outcome :=
  [.forwarded, .failed, .overload, .auth, .rateLimit, .noLogic, .blacklist, .waf, .circuit, .integrity,
    .filterChain]

/-- The tracer: what the spans of the pipeline say, and how many of them ended. -/
structure Tracer where
  /-- Command and connection. -/
  spans : List (String × String) := []
  ended : ℕ := 0
  deriving DecidableEq

/-- The gateway, as far as the pipeline is concerned. -/
structure MessagePipeline (σ γ : Type) where
  connections : KeyMap String Client
  protection : Settings.ProtectionConfig
  overloaded : Bool
  /-- `RecordDrop` of the overload protector. -/
  totalDropped : ℤ
  whitelistBlacklist : Option WhitelistBlacklist
  rateLimiter : Option RateLimiter
  waf : Option WAF
  circuitBreakerMgr : Option CircuitBreakerManager
  breakerParams : Option BreakerParams
  messageIntegrity : MessageIntegrity
  tracer : Option Tracer
  filterChain : Option (FilterChain (FilterState σ) γ)
  trafficMirror : Option TrafficMirror
  degradation : Option DegradationManager
  /-- What filters other than degradation keep. -/
  other : σ
  /-- Clients by logic server. -/
  clients : KeyMap String ℕ
  isConnected : ℕ → Bool
  counters : Outcome → ℕ
  messagesProcessed : ℕ
  /-- The calls of `SendMessage`, newest first. -/
  sent : List (ℕ × StreamData)

/-- The readings of the clock in a call. -/
inductive Moment
  | auth
  | msgRate
  | rateGlobal
  | rateIP
  | rateRoute
  | breaker
  | integrity
  | filters
  | record
  deriving DecidableEq

/-- What a call takes from outside the gateway. -/
structure Env where
  fnv1a32 : String → ℕ
  parseInt : String → Option ℤ
  /-- The clock, in nanoseconds. -/
  now : Moment → ℤ
  /-- `SendMessage` of a logic client, with its error. -/
  sendMessage : ℕ → StreamData → Option String
  peerHost : String

structure PipelineResult where
  action : ConnAction
  error : Option String := none
  protoMsg : Option StreamData := none
  deriving DecidableEq

def errPipelineMissingCmd : String := "missing cmd"
def errPipelineNoConn : String := "unknown connection"
def errPipelineUnbound : String := "connection not bound (login pending)"
def errPipelineUnauthed : String := "connection not authenticated"
def errPipelineRateLimit : String := "connection rate limit exceeded"
def errNotConnected : String := "未连接到逻辑服"

def loginBindGrace : ℤ := 5 * second

def routeKeyFor (cmd : Int) : String := cmd.repr

namespace MessagePipeline

variable {σ γ : Type}

def count (g : MessagePipeline σ γ) (o : Outcome) : MessagePipeline σ γ :=
  { g with counters := Function.update g.counters o (g.counters o + 1) }

/-- `RecordDrop` of the overload protector. -/
def recordDrop (g : MessagePipeline σ γ) : MessagePipeline σ γ :=
  { g with totalDropped := g.totalDropped + 1 }

def withConnections (g : MessagePipeline σ γ) (connections : KeyMap String Client) :
    MessagePipeline σ γ :=
  { g with connections := connections }

def withLimiter (g : MessagePipeline σ γ) (rl : RateLimiter) : MessagePipeline σ γ :=
  { g with rateLimiter := some rl }

def withWAF (g : MessagePipeline σ γ) (w : WAF) : MessagePipeline σ γ := { g with waf := some w }

def withBreakers (g : MessagePipeline σ γ) (cbm : CircuitBreakerManager) : MessagePipeline σ γ :=
  { g with circuitBreakerMgr := some cbm }

/-- Change the replay protection. -/
def withIntegrity (g : MessagePipeline σ γ) (mi : MessageIntegrity) : MessagePipeline σ γ :=
  { g with messageIntegrity := mi }

/-- Take over what the filters left. -/
def withFilterState (g : MessagePipeline σ γ) (s : FilterState σ) : MessagePipeline σ γ :=
  { g with degradation := s.degradation, other := s.other }

/-- A call of `SendMessage`, if there is a client. -/
def send (g : MessagePipeline σ γ) (client : Option ℕ) (msg : StreamData) : MessagePipeline σ γ :=
  { g with sent := (client.map fun k => (k, msg)).toList ++ g.sent }

def isPreAuthCommand (g : MessagePipeline σ γ) (cmd : Int) : Bool :=
  cmd = cmdLogicLoginReq || g.protection.preAuthCommands.contains cmd

def getLogicClient (g : MessagePipeline σ γ) (serverID : String) : Option ℕ :=
  (g.clients serverID).filter g.isConnected

/-- Change a breaker of `circuitBreakerMgr`; `getOrCreateBreaker` gives none without a manager or
without parameters. -/
def onBreaker (g : MessagePipeline σ γ) (route : String) (now : ℤ)
    (f : CircuitBreaker → CircuitBreaker) : MessagePipeline σ γ :=
  match g.circuitBreakerMgr, g.breakerParams with
  | some cbm, some p => g.withBreakers (cbm.store route (f (cbm.getCircuitBreaker route p now)))
  | _, _ => g

def recordResult (g : MessagePipeline σ γ) (route : String) (isError : Bool) (now : ℤ) :
    MessagePipeline σ γ :=
  { g with degradation := g.degradation.map fun m : DegradationManager => m.recordResult route isError now }

def recordFailed (g : MessagePipeline σ γ) (route : String) (now : ℤ) : MessagePipeline σ γ :=
  ((g.count .failed).onBreaker route now (·.recordFailure now)).recordResult route true now

/-- Add one to `messagesProcessed`. -/
def countProcessed (g : MessagePipeline σ γ) : MessagePipeline σ γ :=
  { g with messagesProcessed := g.messagesProcessed + 1 }

def recordForwarded (g : MessagePipeline σ γ) (route : String) (now : ℤ) : MessagePipeline σ γ :=
  ((g.count .forwarded).countProcessed.onBreaker route now (·.recordSuccess)).recordResult route false
    now

def chainEmpty (g : MessagePipeline σ γ) : Bool :=
  match g.filterChain with
  | none => true
  | some chain => chain.len = 0

def securityDisabled (g : MessagePipeline σ γ) : Bool :=
  g.whitelistBlacklist.isNone && g.rateLimiter.isNone && g.waf.isNone && g.circuitBreakerMgr.isNone &&
    !g.protection.verifyInbound && g.chainEmpty

def fastPath (g : MessagePipeline σ γ) : Bool :=
  g.securityDisabled && g.tracer.isNone && g.degradation.isNone

def startSpan (g : MessagePipeline σ γ) (routeKey connectionID : String) : MessagePipeline σ γ :=
  { g with tracer := g.tracer.map fun t => { t with spans := (routeKey, connectionID) :: t.spans } }

def endSpan (g : MessagePipeline σ γ) : MessagePipeline σ γ :=
  { g with tracer := g.tracer.map fun t => { t with ended := t.ended + 1 } }

end MessagePipeline

/-! ## The filters -/

section Filters

variable {σ γ : Type} (env : Env) (g : MessagePipeline σ γ) (connectionID : String)

def buildFilterContext (data : Bytes) (cmd : Int) : FilterContext :=
  let conn := g.connections connectionID
  { connectionID := connectionID
    remoteIP := (conn.map fun c => c.remoteHostOf).getD env.peerHost
    cmd := cmd
    data := data
    route := routeKeyFor cmd
    userUUID := ((conn.filter fun c => c.isAuthenticated).map fun c => c.userUUID).getD "" }

/-- `TrafficMirror.Mirror` for a message that a filter marked. -/
def mirrorMarked (fcx : FilterContext) : MessagePipeline σ γ :=
  if fcx.mirrored then { g with trafficMirror := g.trafficMirror.map (·.mirror env.fnv1a32 fcx) } else g

/-- `SetJWTJti` and `SetJWTExp`, from what the JWT filter left in the context. -/
def Client.setJWT (c : Client) (parseInt : String → Option ℤ) (jti exp : String) : Client :=
  { c with jwtJti := jti, jwtExp := if exp = "" then c.jwtExp else (parseInt exp).getD c.jwtExp }

/-- The token identifier and its expiry are kept on the connection, if the filters left one. -/
def keepJWT (parseInt : String → Option ℤ) (connections : KeyMap String Client) (connectionID : String)
    (fcx : FilterContext) : KeyMap String Client :=
  if fcx.meta "jwt.jti" = "" then connections
  else
    connections.modify connectionID fun c =>
      c.setJWT parseInt (fcx.meta "jwt.jti") (fcx.meta "jwt.exp")

/-- `keepJWT` on the gateway. -/
def persistJWT (fcx : FilterContext) : MessagePipeline σ γ :=
  g.withConnections (keepJWT env.parseInt g.connections connectionID fcx)

/-- The message of `applyForwardFilters`, from what the filters left of the context. -/
def filteredMessage (fcx : FilterContext) (data : Bytes) (cmd seqID : Int) : StreamData where
  sessionId := connectionID
  data := if fcx.data = [] then data else fcx.data
  cmd := cmd
  seqId := seqID
  userKey := fcx.userUUID

/-- How `applyForwardFilters` ends, with the calls it made. -/
structure Filtered (σ γ : Type) where
  gateway : MessagePipeline σ γ
  msg : Option StreamData
  ok : Bool
  invoked : List (Invocation (FilterState σ))

def applyForwardFilters (data : Bytes) (cmd seqID : Int) : Filtered σ γ :=
  match g.filterChain with
  | none => ⟨g, none, true, []⟩
  | some chain =>
    let r := chain.runPhases forwardPhases (buildFilterContext env g connectionID data cmd)
      ⟨env.now .filters, g.degradation, g.other⟩
    if r.ok then
      ⟨persistJWT env (mirrorMarked env (g.withFilterState r.state) r.fcx) connectionID r.fcx,
        some (filteredMessage connectionID r.fcx data cmd seqID), true, r.invoked⟩
    else ⟨(g.withFilterState r.state).count .filterChain, none, false, r.invoked⟩

end Filters

/-! ## The stages -/

section Stages

variable {σ γ : Type} (env : Env) (connectionID : String) (data : Bytes) (message : StreamData)

/-- A stage of `Process`. -/
abbrev PipelineStage (σ γ α : Type) : Type := Stage (MessagePipeline σ γ) PipelineResult α

def silent : PipelineResult := { action := .none }

def checkOverload : PipelineStage σ γ Unit := fun g =>
  if g.overloaded then (.error silent, g.recordDrop.count .overload)
  else (.ok (), g)

def checkCommand : PipelineStage σ γ Unit := fun g =>
  if message.cmd = 0 then (.error { action := .none, error := some errPipelineMissingCmd }, g)
  else (.ok (), g)

def findConnection : PipelineStage σ γ Client := fun g =>
  match g.connections connectionID with
  | none => (.error { action := .close, error := some errPipelineNoConn }, g.count .auth)
  | some c => (.ok c, g)

/-- A message before the login is complete is dropped; after the grace period the connection is
closed. -/
def notAllowed (c : Client) (err : String) : PipelineStage σ γ Unit := fun g =>
  (.error (if env.now .auth - c.createdAt * millisecond < loginBindGrace then silent
    else { action := .close, error := some err }), g.count .auth)

/-- Stage 2: the connection is bound to a logic server and its user is known. -/
def checkAuth (c : Client) : PipelineStage σ γ Unit := fun g =>
  if c.serverID = "" ∧ g.isPreAuthCommand message.cmd = false then
    notAllowed env c errPipelineUnbound g
  else if c.serverID ≠ "" ∧ c.isAuthenticated = false ∧ g.isPreAuthCommand message.cmd = false then
    notAllowed env c errPipelineUnauthed g
  else (.ok (), g)

def checkMsgRate (c : Client) : PipelineStage σ γ Unit := fun g =>
  let r := c.checkAndIncrementMsgRate g.protection.maxMessagesPerConn (env.now .msgRate / millisecond)
  if r.2 then (.ok (), g.withConnections (g.connections.store connectionID r.1))
  else (.error { action := .none, error := some errPipelineRateLimit }, g.count .rateLimit)

/-- The client of the logic server: the cached one while it is connected. A connection that is not
bound has none. -/
def findLogicClient (c : Client) : PipelineStage σ γ (Option ℕ) := fun g =>
  if c.serverID = "" then (.ok none, g)
  else
    match c.logicClient.filter g.isConnected with
    | some client => (.ok (some client), g)
    | none =>
      match g.getLogicClient c.serverID with
      | none => (.error silent, g.count .noLogic)
      | some client =>
        (.ok (some client), g.withConnections
          (g.connections.modify connectionID fun c => { c with logicClient := some client }))

def checkLists (remoteIP : String) : PipelineStage σ γ Unit := fun g =>
  match g.whitelistBlacklist with
  | none => (.ok (), g)
  | some lists =>
    if lists.isInBlacklist remoteIP || (!lists.whitelistEmpty && !lists.isInWhitelist remoteIP) then
      (.error silent, g.count .blacklist)
    else (.ok (), g)

def askLimiter (ask : RateLimiter → RateLimiter × Bool) : PipelineStage σ γ Unit := fun g =>
  match g.rateLimiter with
  | none => (.ok (), g)
  | some rl =>
    if (ask rl).2 then (.ok (), g.withLimiter (ask rl).1)
    else (.error silent, (g.withLimiter (ask rl).1).count .rateLimit)

/-- Stage 3: the rate limiter, first for all messages, then by address and by route. -/
def checkLimiter (remoteIP routeKey : String) : PipelineStage σ γ Unit := do
  askLimiter fun rl => rl.allowGlobal (env.now .rateGlobal)
  askLimiter fun rl => rl.allow "ip" remoteIP (env.now .rateIP)
  askLimiter fun rl => rl.allow "route" routeKey (env.now .rateRoute)

/-- Stage 3: the firewall. What it finds is dropped in any case; the action decides whether the
connection is closed. -/
def checkWAF : PipelineStage σ γ Unit := fun g =>
  match g.waf with
  | none => (.ok (), g)
  | some w =>
    if (w.inspect data).2 then (.ok (), g.withWAF (w.inspect data).1)
    else (.error { action := if w.shouldBlock then .close else .none },
      (g.withWAF (w.inspect data).1).count .waf)

def checkBreaker (routeKey : String) : PipelineStage σ γ Unit := fun g =>
  match g.circuitBreakerMgr, g.breakerParams with
  | some cbm, some p =>
    let r := (cbm.getCircuitBreaker routeKey p (env.now .breaker)).allow (env.now .breaker)
    if r.2 then (.ok (), g.withBreakers (cbm.store routeKey r.1))
    else (.error silent, (g.withBreakers (cbm.store routeKey r.1)).count .circuit)
  | _, _ => (.ok (), g)

def checkIntegrity : PipelineStage σ γ Unit := fun g =>
  if g.protection.verifyInbound then
    let r := g.messageIntegrity.processMessage env.fnv1a32 connectionID message
      (env.now .integrity / millisecond)
    match r.2 with
    | none => (.ok (), g.withIntegrity r.1)
    | some err =>
      (.error { action := .none, error := some ("message integrity check failed: " ++ err) },
        (g.withIntegrity r.1).count .integrity)
  else (.ok (), g)

def beginTrace (routeKey : String) : PipelineStage σ γ Unit := fun g =>
  (.ok (), g.startSpan routeKey connectionID)

def runFilters : PipelineStage σ γ (Option StreamData) := fun g =>
  let r := applyForwardFilters env g connectionID message.data message.cmd message.seqId
  if r.ok then (.ok r.msg, r.gateway) else (.error silent, r.gateway.endSpan)

def fastMessage (c : Client) : StreamData where
  sessionId := connectionID
  userKey := c.userUUID
  data := message.data
  seqId := message.seqId
  cmd := message.cmd

/-- The message of the full path: without a chain it is built here, otherwise what the filters left
open is filled in. -/
def fullMessage (c : Client) (remoteIP : String) : Option StreamData → StreamData
  | none =>
    { sessionId := connectionID
      userKey := c.userUUID
      clientIp := remoteIP
      data := message.data
      seqId := message.seqId
      cmd := if 0 < message.cmd then message.cmd else 0 }
  | some msg =>
    { msg with
      userKey := if msg.userKey = "" then c.userUUID else msg.userKey
      clientIp := if msg.clientIp = "" then remoteIP else msg.clientIp
      cmd := if 0 < message.cmd ∧ msg.cmd = 0 then message.cmd else msg.cmd
      seqId := if msg.seqId = 0 ∧ message.seqId ≠ 0 then message.seqId else msg.seqId }

/-- The stages before the paths part: the connection and the client of its logic server. -/
def authorize : PipelineStage σ γ (Client × Option ℕ) := do
  checkOverload
  checkCommand message
  let c ← findConnection connectionID
  checkAuth env message c
  checkMsgRate env connectionID c
  let client ← findLogicClient connectionID c
  return (c, client)

/-- The security chain before the firewall. -/
def screenAddress (c : Client) : PipelineStage σ γ Unit := do
  checkLists c.remoteHostOf
  checkLimiter env c.remoteHostOf (routeKeyFor message.cmd)

/-- The full path after the firewall. -/
def screenMessage (c : Client) : PipelineStage σ γ StreamData := do
  checkBreaker env (routeKeyFor message.cmd)
  checkIntegrity env connectionID message
  beginTrace connectionID (routeKeyFor message.cmd)
  let msg ← runFilters env connectionID message
  return fullMessage connectionID message c c.remoteHostOf msg

def fullPath (c : Client) : PipelineStage σ γ StreamData := do
  screenAddress env message c
  checkWAF data
  screenMessage env connectionID message c

def buildMessage (c : Client) : PipelineStage σ γ StreamData := fun g =>
  if g.fastPath then (.ok (fastMessage connectionID message c), g)
  else fullPath env connectionID data message c g

/-- Stage 6: what `SendMessage` answers; without a client the message cannot be sent. -/
def sendErr (client : Option ℕ) (msg : StreamData) : Option String :=
  match client with
  | none => some errNotConnected
  | some k => env.sendMessage k msg

/-- Stages 6 and 7: the message is sent, and the result is counted and reported. On the fast path there
is neither a breaker nor a degradation manager to report to. -/
def forward (client : Option ℕ) (msg : StreamData) : PipelineStage σ γ PipelineResult := fun g =>
  let routeKey := routeKeyFor message.cmd
  match sendErr env client msg with
  | some err =>
    (.ok { action := .none, error := some ("forward to logic failed: " ++ err), protoMsg := some msg },
      ((g.send client msg).recordFailed routeKey (env.now .record)).endSpan)
  | none =>
    (.ok { action := .none, protoMsg := some msg },
      ((g.send client msg).recordForwarded routeKey (env.now .record)).endSpan)

/-- The stages of `Process`. -/
def stages : PipelineStage σ γ PipelineResult := do
  let (c, client) ← authorize env connectionID message
  let msg ← buildMessage env connectionID data message c
  forward env message client msg

end Stages

variable {σ γ : Type}

def process (env : Env) (connectionID : String) (data : Bytes) (message : StreamData)
    (g : MessagePipeline σ γ) : PipelineResult × MessagePipeline σ γ :=
  match stages env connectionID data message g with
  | (.ok r, g') => (r, g')
  | (.error r, g') => (r, g')

/-! ## Concrete gateways -/

/-- A connected client of the logic server `s1`. -/
def sampleClient : Client := { remoteAddr := "10.0.0.1:5000", userUUID := "s1:u", serverID := "s1" }

def plainGateway (c : Client) : MessagePipeline Unit Unit where
  connections := KeyMap.empty.store "conn_1" c
  protection := {}
  overloaded := false
  totalDropped := 0
  whitelistBlacklist := none
  rateLimiter := none
  waf := none
  circuitBreakerMgr := none
  breakerParams := none
  messageIntegrity := .newMessageIntegrity 30000
  tracer := none
  filterChain := none
  trafficMirror := none
  degradation := none
  other := ()
  clients := KeyMap.empty.store "s1" 0
  isConnected := fun _ => true
  counters := fun _ => 0
  messagesProcessed := 0
  sent := []

/-- An environment at a fixed time, in which every message can be sent. -/
def sampleEnv (now : ℤ) : Env where
  fnv1a32 := String.length
  parseInt := fun _ => none
  now := fun _ => now
  sendMessage := fun _ _ => none
  peerHost := ""

def sampleMessage (cmd : Int) (data : Bytes) : StreamData := { cmd := cmd, seqId := 1, data := data }

/-! ## The order of the filters -/

section

variable {env : Env} {connectionID : String} {message : StreamData} {g g₁ : MessagePipeline σ γ}
  {c : Client} {client : Option ℕ}

theorem checkOverload_eq_ok (h : checkOverload g = (.ok (), g₁)) : g₁ = g := by
  unfold checkOverload at h
  split at h <;> cases h
  rfl

theorem checkCommand_eq_ok (h : checkCommand message g = (.ok (), g₁)) :
    message.cmd ≠ 0 ∧ g₁ = g := by
  unfold checkCommand at h
  split at h <;> cases h
  rename_i hcmd
  exact ⟨hcmd, rfl⟩

theorem findConnection_eq_ok (h : findConnection connectionID g = (.ok c, g₁)) :
    g.connections connectionID = some c ∧ g₁ = g := by
  unfold findConnection at h
  split at h <;> cases h
  rename_i hc
  exact ⟨hc, rfl⟩

theorem checkAuth_eq_ok (h : checkAuth env message c g = (.ok (), g₁)) : g₁ = g := by
  unfold checkAuth notAllowed at h
  split at h
  · cases h
  · split at h <;> cases h
    rfl

/-- A message that is authorized has a command and a registered connection, and the gateway is changed
only by the check of the connection's rate and the search for a client. -/
theorem authorize_stages (h : authorize env connectionID message g = (.ok (c, client), g₁)) :
    message.cmd ≠ 0 ∧ g.connections connectionID = some c ∧
      ∃ g₀, checkMsgRate env connectionID c g = (.ok (), g₀) ∧
        findLogicClient connectionID c g₀ = (.ok client, g₁) := by
  obtain ⟨⟨⟩, v₁, h₁, h⟩ := Stage.bind_eq_ok.mp h
  obtain ⟨⟨⟩, v₂, h₂, h⟩ := Stage.bind_eq_ok.mp h
  obtain ⟨c₀, v₃, h₃, h⟩ := Stage.bind_eq_ok.mp h
  obtain ⟨⟨⟩, v₄, h₄, h⟩ := Stage.bind_eq_ok.mp h
  obtain ⟨⟨⟩, v₅, h₅, h⟩ := Stage.bind_eq_ok.mp h
  obtain ⟨k, v₆, h₆, h⟩ := Stage.bind_eq_ok.mp h
  obtain ⟨hpair, rfl⟩ := Prod.mk.inj h
  cases hpair
  obtain rfl := checkOverload_eq_ok h₁
  obtain ⟨hcmd, rfl⟩ := checkCommand_eq_ok h₂
  obtain ⟨hc, rfl⟩ := findConnection_eq_ok h₃
  obtain rfl := checkAuth_eq_ok h₄
  exact ⟨hcmd, hc, v₅, h₅, h₆⟩

/-- Only a connection without a server passes without a client. -/
theorem unbound_of_findLogicClient (h : findLogicClient connectionID c g = (.ok none, g₁)) :
    c.serverID = "" := by
  unfold findLogicClient at h
  split at h
  case isTrue hserver => exact hserver
  case isFalse =>
    split at h
    · cases h
    · split at h <;> cases h

end

/-! ## What a call counts and sends -/

/-- Nothing was counted or sent. -/
def Quiet (g g' : MessagePipeline σ γ) : Prop := g'.counters = g.counters ∧ g'.sent = g.sent

def bump (counters : Outcome → ℕ) (o : Outcome) : Outcome → ℕ :=
  Function.update counters o (counters o + 1)

/-- The message was dropped and counted once, and nothing was sent. -/
def Drops (g : MessagePipeline σ γ) (_ : PipelineResult) (g' : MessagePipeline σ γ) : Prop :=
  ∃ o, o ≠ .forwarded ∧ o ≠ .failed ∧ g'.counters = bump g.counters o ∧ g'.sent = g.sent

/-- A stage counts and sends nothing if it goes on, and counts one drop if it ends. -/
abbrev Tallies {α : Type} (x : PipelineStage σ γ α) : Prop := Effects Quiet Drops x

theorem Quiet.refl (g : MessagePipeline σ γ) : Quiet g g := ⟨rfl, rfl⟩

variable {g g' g'' : MessagePipeline σ γ}

theorem Quiet.trans (h : Quiet g g') (h' : Quiet g' g'') : Quiet g g'' :=
  ⟨h'.1.trans h.1, h'.2.trans h.2⟩

variable {r : PipelineResult}

theorem Drops.after (h : Quiet g g') (h' : Drops g' r g'') : Drops g r g'' := by
  obtain ⟨o, hforwarded, hfailed, hcounters, hsent⟩ := h'
  rw [h.1] at hcounters
  exact ⟨o, hforwarded, hfailed, hcounters, hsent.trans h.2⟩

theorem Tallies.bind {α β : Type} {x : PipelineStage σ γ α} {k : α → PipelineStage σ γ β}
    (hx : Tallies x) (hk : ∀ a, Tallies (k a)) : Tallies (x >>= k) :=
  Effects.bind hx hk Quiet.trans Drops.after

section

variable (env : Env) (connectionID : String) (data : Bytes) (message : StreamData) (c : Client)

theorem tallies_checkOverload : Tallies (checkOverload : PipelineStage σ γ Unit) := by
  refine .of_cases fun g => ?_
  unfold checkOverload
  split
  · exact .inr ⟨_, _, rfl, .overload, by decide, by decide, rfl, rfl⟩
  · exact .inl ⟨_, _, rfl, .refl g⟩

variable {message} in
theorem tallies_checkCommand (hcmd : message.cmd ≠ 0) :
    Tallies (checkCommand message : PipelineStage σ γ Unit) := by
  refine .of_cases fun g => ?_
  rw [checkCommand, if_neg hcmd]
  exact .inl ⟨_, _, rfl, .refl g⟩

theorem tallies_findConnection : Tallies (findConnection connectionID : PipelineStage σ γ Client) := by
  refine .of_cases fun g => ?_
  unfold findConnection
  split
  · exact .inr ⟨_, _, rfl, .auth, by decide, by decide, rfl, rfl⟩
  · exact .inl ⟨_, _, rfl, .refl g⟩

theorem tallies_notAllowed (err : String) :
    Tallies (notAllowed env c err : PipelineStage σ γ Unit) :=
  .of_cases fun _ => Or.inr ⟨_, _, rfl, .auth, by decide, by decide, rfl, rfl⟩

theorem tallies_checkAuth : Tallies (checkAuth env message c : PipelineStage σ γ Unit) :=
  .ite (tallies_notAllowed env c _) (.ite (tallies_notAllowed env c _) (.pure Quiet.refl ()))

theorem tallies_checkMsgRate : Tallies (checkMsgRate env connectionID c : PipelineStage σ γ Unit) := by
  refine .of_cases fun g => ?_
  unfold checkMsgRate
  dsimp only
  split
  · exact .inl ⟨_, _, rfl, rfl, rfl⟩
  · exact .inr ⟨_, _, rfl, .rateLimit, by decide, by decide, rfl, rfl⟩

theorem tallies_findLogicClient :
    Tallies (findLogicClient connectionID c : PipelineStage σ γ (Option ℕ)) := by
  refine .of_cases fun g => ?_
  unfold findLogicClient
  split
  · exact .inl ⟨_, _, rfl, .refl g⟩
  · split
    · exact .inl ⟨_, _, rfl, .refl g⟩
    · split
      · exact .inr ⟨_, _, rfl, .noLogic, by decide, by decide, rfl, rfl⟩
      · exact .inl ⟨_, _, rfl, rfl, rfl⟩

theorem tallies_checkLists (remoteIP : String) :
    Tallies (checkLists remoteIP : PipelineStage σ γ Unit) := by
  refine .of_cases fun g => ?_
  unfold checkLists
  split
  · exact .inl ⟨_, _, rfl, .refl g⟩
  · split
    · exact .inr ⟨_, _, rfl, .blacklist, by decide, by decide, rfl, rfl⟩
    · exact .inl ⟨_, _, rfl, .refl g⟩

theorem tallies_askLimiter (ask : RateLimiter → RateLimiter × Bool) :
    Tallies (askLimiter ask : PipelineStage σ γ Unit) := by
  refine .of_cases fun g => ?_
  unfold askLimiter
  split
  · exact .inl ⟨_, _, rfl, .refl g⟩
  · split
    · exact .inl ⟨_, _, rfl, rfl, rfl⟩
    · exact .inr ⟨_, _, rfl, .rateLimit, by decide, by decide, rfl, rfl⟩

theorem tallies_checkLimiter (remoteIP routeKey : String) :
    Tallies (checkLimiter env remoteIP routeKey : PipelineStage σ γ Unit) :=
  .bind (tallies_askLimiter _) fun _ => .bind (tallies_askLimiter _) fun _ => tallies_askLimiter _

theorem tallies_checkWAF : Tallies (checkWAF data : PipelineStage σ γ Unit) := by
  refine .of_cases fun g => ?_
  unfold checkWAF
  split
  · exact .inl ⟨_, _, rfl, .refl g⟩
  · split
    · exact .inl ⟨_, _, rfl, rfl, rfl⟩
    · exact .inr ⟨_, _, rfl, .waf, by decide, by decide, rfl, rfl⟩

theorem tallies_checkBreaker (routeKey : String) :
    Tallies (checkBreaker env routeKey : PipelineStage σ γ Unit) := by
  refine .of_cases fun g => ?_
  unfold checkBreaker
  split
  · dsimp only
    split
    · exact .inl ⟨_, _, rfl, rfl, rfl⟩
    · exact .inr ⟨_, _, rfl, .circuit, by decide, by decide, rfl, rfl⟩
  · exact .inl ⟨_, _, rfl, .refl g⟩

theorem tallies_checkIntegrity :
    Tallies (checkIntegrity env connectionID message : PipelineStage σ γ Unit) := by
  refine .of_cases fun g => ?_
  unfold checkIntegrity
  split
  · dsimp only
    split
    · exact .inl ⟨_, _, rfl, rfl, rfl⟩
    · exact .inr ⟨_, _, rfl, .integrity, by decide, by decide, rfl, rfl⟩
  · exact .inl ⟨_, _, rfl, .refl g⟩

section

variable (g : MessagePipeline σ γ)

theorem quiet_withFilterState (s : FilterState σ) : Quiet g (g.withFilterState s) := ⟨rfl, rfl⟩

theorem quiet_persistJWT (fcx : FilterContext) : Quiet g (persistJWT env g connectionID fcx) :=
  ⟨rfl, rfl⟩

theorem quiet_mirrorMarked (fcx : FilterContext) : Quiet g (mirrorMarked env g fcx) := by
  unfold mirrorMarked
  split
  · exact ⟨rfl, rfl⟩
  · exact .refl g

end

theorem tallies_runFilters :
    Tallies (runFilters env connectionID message : PipelineStage σ γ (Option StreamData)) := by
  refine .of_cases fun g => ?_
  unfold runFilters applyForwardFilters
  split
  · exact .inl ⟨_, _, rfl, .refl g⟩
  · dsimp only
    split
    · refine .inl ⟨_, _, rfl, ?_⟩
      exact ((quiet_withFilterState g _).trans (quiet_mirrorMarked env _ _)).trans
        (quiet_persistJWT env connectionID _ _)
    · exact .inr ⟨_, _, rfl, .filterChain, by decide, by decide, rfl, rfl⟩

theorem tallies_screenAddress : Tallies (screenAddress env message c : PipelineStage σ γ Unit) :=
  .bind (tallies_checkLists _) fun _ => tallies_checkLimiter ..

theorem tallies_screenMessage :
    Tallies (screenMessage env connectionID message c : PipelineStage σ γ StreamData) := by
  refine .bind (tallies_checkBreaker ..) fun _ => .bind (tallies_checkIntegrity ..) fun _ => ?_
  refine .bind (.of_cases fun _ => Or.inl ⟨_, _, rfl, rfl, rfl⟩) fun _ => ?_
  exact .bind (tallies_runFilters ..) fun _ => .pure Quiet.refl _

theorem tallies_fullPath :
    Tallies (fullPath env connectionID data message c : PipelineStage σ γ StreamData) :=
  .bind (tallies_screenAddress ..) fun _ => .bind (tallies_checkWAF _) fun _ =>
    tallies_screenMessage ..

theorem tallies_buildMessage :
    Tallies (buildMessage env connectionID data message c : PipelineStage σ γ StreamData) :=
  .ite (.pure Quiet.refl (fastMessage connectionID message c)) (tallies_fullPath ..)

variable {message} in
theorem tallies_authorize (hcmd : message.cmd ≠ 0) :
    Tallies (authorize env connectionID message : PipelineStage σ γ (Client × Option ℕ)) :=
  .bind tallies_checkOverload fun _ => .bind (tallies_checkCommand hcmd) fun _ =>
    .bind (tallies_findConnection _) fun _ => .bind (tallies_checkAuth ..) fun _ =>
      .bind (tallies_checkMsgRate ..) fun _ => .bind (tallies_findLogicClient ..) fun _ =>
        .pure Quiet.refl _

end

/-- The connection is registered and bound to no server. -/
def MessagePipeline.Unbound (g : MessagePipeline σ γ) (connectionID : String) : Prop :=
  ∃ c, g.connections connectionID = some c ∧ c.serverID = ""

/-- What was handed to `SendMessage`, by outcome: one message if it was forwarded, one if it failed,
unless the connection has no server to send to, none if it was dropped. -/
def Sends (env : Env) (unbound : Prop) (g g' : MessagePipeline σ γ) : Outcome → Prop
  | .forwarded => ∃ client msg, g'.sent = (client, msg) :: g.sent ∧ env.sendMessage client msg = none
  | .failed => (∃ client msg err, g'.sent = (client, msg) :: g.sent ∧
      env.sendMessage client msg = some err) ∨ unbound ∧ g'.sent = g.sent
  | _ => g'.sent = g.sent

variable {g g' : MessagePipeline σ γ} {env : Env} {unbound : Prop}

theorem Drops.sends (h : Drops g r g') :
    ∃ o, g'.counters = bump g.counters o ∧ Sends env unbound g g' o := by
  obtain ⟨o, hforwarded, hfailed, hcounters, hsent⟩ := h
  refine ⟨o, hcounters, ?_⟩
  cases o with
  | forwarded => exact absurd rfl hforwarded
  | failed => exact absurd rfl hfailed
  | overload | auth | rateLimit | noLogic | blacklist | waf | circuit | integrity | filterChain =>
    exact hsent

section

variable (g : MessagePipeline σ γ) (route : String) (now : ℤ)

theorem quiet_onBreaker (f : CircuitBreaker → CircuitBreaker) :
    Quiet g (g.onBreaker route now f) := by
  unfold MessagePipeline.onBreaker
  split
  · exact ⟨rfl, rfl⟩
  · exact .refl g

theorem counters_recordFailed :
    (g.recordFailed route now).counters = bump g.counters .failed ∧
      (g.recordFailed route now).sent = g.sent :=
  quiet_onBreaker (g.count .failed) route now _

theorem counters_recordForwarded :
    (g.recordForwarded route now).counters = bump g.counters .forwarded ∧
      (g.recordForwarded route now).sent = g.sent :=
  quiet_onBreaker (g.count .forwarded).countProcessed route now _

end

theorem exists_forward (env : Env) (message : StreamData) (client : Option ℕ) (msg : StreamData)
    (g : MessagePipeline σ γ) (hclient : client = none → unbound) :
    ∃ r g', forward env message client msg g = (.ok r, g') ∧
      ∃ o, g'.counters = bump g.counters o ∧ Sends env unbound g g' o := by
  unfold forward
  cases hsend : sendErr env client msg with
  | none =>
    obtain ⟨hcounters, hsent⟩ := counters_recordForwarded (g.send client msg)
      (routeKeyFor message.cmd) (env.now .record)
    refine ⟨_, _, rfl, .forwarded, hcounters, ?_⟩
    cases client with
    | none => cases hsend
    | some k => exact ⟨k, msg, hsent, hsend⟩
  | some err =>
    obtain ⟨hcounters, hsent⟩ := counters_recordFailed (g.send client msg)
      (routeKeyFor message.cmd) (env.now .record)
    refine ⟨_, _, rfl, .failed, hcounters, ?_⟩
    cases client with
    | none => exact .inr ⟨hclient rfl, hsent⟩
    | some k => exact .inl ⟨k, msg, err, hsent, hsend⟩

theorem Sends.after {o : Outcome} (h : Quiet g g') (h' : Sends env unbound g' g'' o) :
    Sends env unbound g g'' o := by
  cases o <;> simpa only [Sends, h.2] using h'

theorem outcome_process (env : Env) (connectionID : String) (data : Bytes) {message : StreamData}
    (hcmd : message.cmd ≠ 0) (g : MessagePipeline σ γ) :
    ∃ o, (process env connectionID data message g).2.counters = bump g.counters o ∧
      Sends env (g.Unbound connectionID) g (process env connectionID data message g).2 o := by
  have hauth := tallies_authorize (σ := σ) (γ := γ) env connectionID hcmd
  rcases h₁ : authorize env connectionID message g with ⟨r | ⟨c, client⟩, g₁⟩
  · -- not authorized
    have hall : stages env connectionID data message g = (.error r, g₁) := Stage.bind_of_error h₁
    rw [process, hall]
    exact (hauth.ends h₁).sends
  · have hquiet := hauth.goes h₁
    have hbuild := tallies_buildMessage (σ := σ) (γ := γ) env connectionID data message c
    rcases h₂ : buildMessage env connectionID data message c g₁ with ⟨r | msg, g₂⟩
    · -- screened out
      have hall : stages env connectionID data message g = (.error r, g₂) :=
        (Stage.bind_of_ok h₁).trans (Stage.bind_of_error h₂)
      rw [process, hall]
      exact ((hbuild.ends h₂).after hquiet).sends
    · have hquiet' := hquiet.trans (hbuild.goes h₂)
      have hunbound : client = none → g.Unbound connectionID := by
        rintro rfl
        obtain ⟨-, hc, g₀, -, hclient⟩ := authorize_stages h₁
        exact ⟨c, hc, unbound_of_findLogicClient hclient⟩
      obtain ⟨r, g₃, h₃, o, hcounters, hsends⟩ := exists_forward env message client msg g₂ hunbound
      have hall : stages env connectionID data message g = (.ok r, g₃) :=
        (Stage.bind_of_ok h₁).trans ((Stage.bind_of_ok h₂).trans h₃)
      rw [process, hall]
      refine ⟨o, ?_, hsends.after hquiet'⟩
      rw [hcounters, hquiet'.1]

/-! ## Runs -/

/-- What happens to the pipeline: a call of `Process`, or anything that leaves its counters. -/
inductive Happening (σ γ : Type)
  | call (env : Env) (connectionID : String) (data : Bytes) (message : StreamData)
  | change (g : MessagePipeline σ γ)

def stepPipeline (g : MessagePipeline σ γ) : Happening σ γ → Option (MessagePipeline σ γ)
  | .call env connectionID data message => some (process env connectionID data message g).2
  | .change g' => if Outcome.all.map g'.counters = Outcome.all.map g.counters then some g' else none

def total (counters : Outcome → ℕ) : ℕ := (Outcome.all.map counters).sum

/-- A call of `Process`, of a message with a command. -/
def Happening.commanded : Happening σ γ → Bool
  | .call _ _ _ message => message.cmd ≠ 0
  | .change _ => true

/-- A call of `Process`. -/
def Happening.isCall : Happening σ γ → Bool
  | .call _ _ _ _ => true
  | .change _ => false

theorem total_bump (counters : Outcome → ℕ) (o : Outcome) :
    total (bump counters o) = total counters + 1 := by
  cases o <;> simp [total, Outcome.all, bump] <;> omega

theorem total_step {a : Happening σ γ} (ha : a.commanded = true) (hs : stepPipeline g a = some g') :
    total g'.counters = total g.counters + if a.isCall then 1 else 0 := by
  cases a with
  | call env connectionID data message =>
    cases hs
    obtain ⟨o, hcounters, -⟩ := outcome_process env connectionID data (of_decide_eq_true ha) g
    rw [hcounters, total_bump]
    rfl
  | change g'' =>
    simp only [stepPipeline] at hs
    split at hs <;> cases hs
    rename_i hsame
    rw [total, hsame]
    rfl

/-- **One outcome for each message.** A call for a message with a command adds one to exactly one
counter and hands over one message if the outcome is forwarded, or failed with a server to send to, and
none otherwise; over a run the counters grow by the number of calls. -/
theorem one_outcome :
    (∀ (env : Env) (connectionID : String) (data : Bytes) (message : StreamData)
      (g : MessagePipeline σ γ), message.cmd ≠ 0 →
        ∃ o, (process env connectionID data message g).2.counters = bump g.counters o ∧
          Sends env (g.Unbound connectionID) g (process env connectionID data message g).2 o) ∧
    (∀ (as : List (Happening σ γ)) (g g' : MessagePipeline σ γ), (∀ a ∈ as, a.commanded = true) →
      run stepPipeline g as = some g' →
        total g'.counters = total g.counters + as.countP (·.isCall)) := by
  refine ⟨fun env connectionID data message g hcmd => outcome_process env connectionID data hcmd g, ?_⟩
  intro as
  induction as with
  | nil =>
    intro g g' _ hrun
    cases hrun
    rfl
  | cons a as ih =>
    intro g g' hall hrun
    obtain ⟨v, hv, hrest⟩ := run_cons_iff.mp hrun
    rw [ih v g' (fun b hb => hall b (List.mem_cons_of_mem a hb)) hrest,
      total_step (hall a List.mem_cons_self) hv, List.countP_cons]
    omega

/-- A message that is forwarded, and one of a connection that is not registered. -/
def twoMessages : List (Happening Unit Unit) :=
  [.call (sampleEnv 0) "conn_1" [7] (sampleMessage 5 [7]),
    .call (sampleEnv 0) "conn_2" [7] (sampleMessage 5 [7])]

theorem one_outcome_twoMessages :
    ∃ g', run stepPipeline (plainGateway sampleClient) twoMessages = some g' ∧
      g'.counters .forwarded = 1 ∧ g'.counters .auth = 1 ∧ g'.sent.length = 1 ∧
        total g'.counters = 2 :=
  ⟨_, rfl, by decide, by decide, by decide,
    one_outcome.2 twoMessages (plainGateway sampleClient) _ (by decide) rfl⟩

end Sgate.Pipeline
