import Sgate.Gateway.State
import Sgate.Lib.Interleaving

/-! # The goroutines of the gateway

`Task` lists the goroutines that touch connections. Every access to the shared state is an atomic step
of its own, and the steps of different goroutines interleave freely (`gateway`). The verdicts of
components outside this part and the outcome of a send are the scheduler's choice. TCP and WebSocket
frames differ in the framing of the answers and in `wsUpdate`. -/

namespace Sgate.Gateway

open Routes Interleaving

/-- What the caller of the pipeline does with the connection. -/
inductive ConnAction
  | none
  | close
  deriving DecidableEq

inductive PipelineErr
  | missingCmd
  | noConn
  | unbound
  | unauthed
  | rateLimit
  | integrity
  | forward
  deriving DecidableEq

structure PipelineResult where
  action : ConnAction := .none
  error : Option PipelineErr := .none
  deriving DecidableEq

/-- Places in `Process`, with the logic client chosen so far. -/
inductive ProcessPc
  | overload
  | getConnection
  | bound
  | authenticated
  | msgRate
  | logicClient
  | security (client : Option ℕ)
  | build (client : Option ℕ) (remoteIP : String)
  | send (client : Option ℕ) (msg : StreamData)
  deriving DecidableEq

/-- Places in `finishLoginGate` and `finishWSLoginGate`. -/
inductive LoginPc
  | validate
  | maintenance
  | bind
  | lookup
  | closeOld (old : String)
  | register
  | account
  | key
  | ack
  | forward
  deriving DecidableEq

inductive Task
  /-- A client frame arrived. -/
  | frame (ws : Bool) (conn : String) (data : Bytes)
  /-- `handleLoginGate`, and the login branch of the WebSocket handler. -/
  | handleLogin (ws : Bool) (conn : String) (msg : StreamData)
  | login (conn : String) (msg : StreamData) (req : LoginGateReq) (pc : LoginPc)
  | logout (conn : String)
  /-- `ProcessForWS` before it calls `Process`. -/
  | wsUpdate (conn : String) (msg : StreamData)
  | process (conn : String) (msg : StreamData) (pc : ProcessPc)
  | processed (result : PipelineResult)
  /-- `forwardLoginAsync` with the attempts left. -/
  | forwardLogin (serverID : String) (msg : StreamData) (attempts : ℕ)
  /-- The goroutine of `notifyLogicOffline`. -/
  | notifyOffline (conn : String) (client : ℕ) (msg : StreamData)
  | markOffline (conn : String)
  | onOpen (conn tempUUID addr : String)
  | onClose (conn : String)
  | removeConn (conn : String)
  /-- A push from a logic server that names a user. -/
  | push (conn userKey : String)
  /-- A proxy header that names another address. -/
  | updateIP (conn ip : String)
  | enable (serverID zone reason : String)
  | snapshot (serverID zone : String)
  | enabled (serverID zone : String) (matched : List String)
  | disable (serverID zone : String)
  | kick (conn : String)
  /-- A logic server gets a client. -/
  | setClient (serverID : String) (client : ℕ)
  | setConnected (client : ℕ) (up : Bool)
  | finished
  deriving DecidableEq

/-- What the environment decides at a step. -/
inductive Choice
  /-- The component consulted lets the task pass, the send succeeds. -/
  | proceed
  /-- The component consulted refuses, the send fails. -/
  | refuse
  | overloaded
  /-- All login slots are taken. -/
  | busy
  /-- A component of the security stage ends `Process` with this result. -/
  | drop (result : PipelineResult)
  /-- The filter chain lets the message pass with another payload and user. -/
  | filtered (payload : Bytes) (userUUID : String)
  deriving DecidableEq

/-- What the other components of the security stage decide: nothing, if they are all off. -/
def Config.verdict (cfg : Config) (x : Choice) : Choice := if cfg.restDisabled then .proceed else x

variable (cfg : Config) (g : Gateway)

/-! ## Answers -/

/-- Answer a login and end the handler. -/
def refuseLogin (conn : String) (code : ℕ) (message serverID : String) :
    Gateway × Task × List Task :=
  (g.record (.loginAck conn code message serverID), .finished, [])

/-- `notifyLogicOffline`: the goroutine it starts, if any. -/
def notifyLogicOffline (conn : String) : List Task :=
  match g.connectionManager.objects conn with
  | none => []
  | some c =>
    if c.offlineSent ∨ c.serverID = "" then []
    else
      match g.getLogicClient c.serverID with
      | none => []
      | some client =>
        [.notifyOffline conn client
          { sessionId := conn, userKey := c.userUUID, cmd := cmdUserOffline
            data := cfg.marshalUserOfflineNtf conn c.userUUID c.serverID }]

/-! ## Client frames -/

/-- Decode a frame and dispatch it by command. A frame that does not decode ends here: TCP closes the
connection, WebSocket answers with an error. -/
def handleFrame (ws : Bool) (conn : String) (data : Bytes) : Gateway × Task × List Task :=
  match decodeClientMessage cfg.pw data with
  | none => (g, .finished, [])
  | some msg =>
    let g' := if ws then g.withManager (·.setWS conn) else g
    if msg.cmd = cmdLoginGate then (g', .handleLogin ws conn msg, [])
    else if msg.cmd = cmdLogoutGate then (g', .logout conn, [])
    else if ws ∧ msg.userKey ≠ "" then (g', .wsUpdate conn msg, [])
    else (g', .process conn msg .overload, [])

/-- `handleLoginGate` and the login branch of the WebSocket handler: everything before the login
worker starts. -/
def handleLoginGate (ws : Bool) (conn : String) (msg : StreamData) :
    Choice → Gateway × Task × List Task
  | .overloaded => refuseLogin g conn 503 "server overload" ""
  | .refuse => refuseLogin g conn 429 "rate limited" ""
  | x =>
    let r := cfg.unmarshalLoginGateReq msg.data
    if r.2 = false ∨ r.1.serverID = "" then
      refuseLogin g conn 400 "invalid login gate request" r.1.serverID
    else if g.isMaintenanceTarget cfg r.1.serverID then
      -- only the TCP handler also closes the connection
      refuseLogin (if ws then g else g.tellToClose conn) conn 503 "server in maintenance"
        r.1.serverID
    else
      match x with
      | .busy => refuseLogin g conn 429 "too many concurrent logins" r.1.serverID
      | _ => (g, .login conn msg r.1 .validate, [])

/-- `handleLogoutGate` and `handleWSLogoutGate`. -/
def handleLogoutGate (conn : String) : Gateway × Task × List Task :=
  match g.connectionManager.getConnection conn with
  | none => (g.tellToClose conn, .finished, [])
  | some _ => (g.tellToClose conn, .finished, notifyLogicOffline cfg g conn)

/-! ## Login workers -/

/-- A step of `finishLoginGate` and of `finishWSLoginGate`, which make the same calls. -/
def finishLoginGate (conn : String) (msg : StreamData) (req : LoginGateReq) :
    LoginPc → Choice → Gateway × Task × List Task
  -- the login server is asked; its answer is the choice
  | .validate, .refuse => refuseLogin g conn 401 "invalid login key" req.serverID
  | .validate, _ => (g.record (.validated conn req), .login conn msg req .maintenance, [])
  | .maintenance, _ =>
    if g.isMaintenanceTarget cfg req.serverID then
      refuseLogin g conn 503 "server in maintenance" req.serverID
    else (g.record (.admitted conn req), .login conn msg req .bind, [])
  -- the check above and this write are separate steps
  | .bind, _ =>
    (g.withManager (·.setConnectionServerID conn req.serverID), .login conn msg req .lookup, [])
  -- duplicate login: look up, close, register, each a step of its own
  | .lookup, _ =>
    match g.connectionManager.getUserConnection (req.fullUUID conn) with
    | none => (g, .login conn msg req .register, [])
    | some old => (g, .login conn msg req (if old ≠ conn then .closeOld old else .register), [])
  | .closeOld old, _ =>
    match g.connectionManager.getConnection old with
    | none => (g, .login conn msg req .register, [])
    | some _ =>
      ((g.tellToClose old).record (.closedOld conn req old), .login conn msg req .register,
        notifyLogicOffline cfg g old)
  | .register, _ =>
    (g.withManager (·.updateConnectionUserUUID conn (req.fullUUID conn)),
      .login conn msg req .account, [])
  | .account, _ =>
    (g.withManager (·.setConnectionAccountID conn req.userID), .login conn msg req .key, [])
  | .key, _ =>
    (g.withManager (·.setConnectionLoginKey conn req.loginKey), .login conn msg req .ack, [])
  | .ack, _ => (g.record (.loginAck conn 0 "ok" req.serverID), .login conn msg req .forward, [])
  -- a connection that was removed meanwhile is not forwarded
  | .forward, _ =>
    let g' := g.record
      (.completed conn req (g.connectionManager.getUserConnection (req.fullUUID conn)))
    match g.connectionManager.getConnection conn with
    | none => (g', .finished, [])
    | some c =>
      (g', .finished, [.forwardLogin req.serverID
          { sessionId := conn, userKey := c.userUUID, data := msg.data, cmd := msg.cmd
            seqId := msg.seqId } 20])

/-- One attempt of `forwardLoginAsync`. -/
def forwardLoginAsync (serverID : String) (msg : StreamData) :
    ℕ → Choice → Option (Gateway × Task × List Task)
  | 0, _ => none
  | attempts + 1, x =>
    match g.getLogicClient serverID with
    | none => some (g, .forwardLogin serverID msg attempts, [])
    | some client =>
      some (g.record (.handed .login client msg),
        if x = .refuse then .forwardLogin serverID msg attempts else .finished, [])

/-! ## The message pipeline -/

/-- `Process` ends. -/
def endProcess (action : ConnAction) (error : Option PipelineErr) : Gateway × Task × List Task :=
  (g, .processed ⟨action, error⟩, [])

/-- A message that is not allowed yet: dropped within the grace period after the connection was
opened, which the scheduler decides, and otherwise an error that closes the connection. -/
def notAllowed (error : PipelineErr) : Choice → Gateway × Task × List Task
  | .refuse => endProcess g .close (some error)
  | _ => endProcess g .none none

/-- The message for the logic server. Without filters the command is copied only if it is positive;
a filter chain may replace payload and user. -/
def forwardMessage (conn : String) (c : Connection) (remoteIP : String) (msg : StreamData) :
    Choice → StreamData
  | .filtered payload userUUID =>
    { sessionId := conn
      userKey := if userUUID = "" then c.userUUID else userUUID
      cmd := msg.cmd
      seqId := msg.seqId
      data := if payload = [] then msg.data else payload
      clientIp := remoteIP }
  | _ =>
    { sessionId := conn, userKey := c.userUUID, cmd := if 0 < msg.cmd then msg.cmd else 0
      seqId := msg.seqId, data := msg.data, clientIp := remoteIP }

/-- A step of `Process`. The connection object found in the second step is used until the end, also
after the connection was removed. -/
def processMessage (conn : String) (msg : StreamData) :
    ProcessPc → Choice → Option (Gateway × Task × List Task)
  | .overload, .overloaded => some (endProcess g .none none)
  | .overload, _ =>
    if msg.cmd = 0 then some (endProcess g .none (some .missingCmd))
    else some (g, .process conn msg .getConnection, [])
  | .getConnection, _ =>
    match g.connectionManager.getConnection conn with
    | none => some (endProcess g .close (some .noConn))
    | some _ => some (g, .process conn msg .bound, [])
  | .bound, x =>
    match g.connectionManager.objects conn with
    | none => none
    | some c =>
      if c.serverID = "" then
        if cfg.isPreAuthCommand msg.cmd then some (g, .process conn msg .msgRate, [])
        else some (notAllowed g .unbound x)
      else some (g, .process conn msg .authenticated, [])
  | .authenticated, x =>
    match g.connectionManager.objects conn with
    | none => none
    | some c =>
      if c.isAuthenticated ∨ cfg.isPreAuthCommand msg.cmd then
        some (g, .process conn msg .msgRate, [])
      else some (notAllowed g .unauthed x)
  | .msgRate, .refuse => some (endProcess g .none (some .rateLimit))
  | .msgRate, _ => some (g, .process conn msg .logicClient, [])
  | .logicClient, _ =>
    match g.connectionManager.objects conn with
    | none => none
    | some c =>
      -- an unbound connection gets no client
      if c.serverID = "" then some (g, .process conn msg (.security none), [])
      else
        -- the cached client is used as long as it is connected
        match c.logicClient.filter g.isConnected with
        | some client => some (g, .process conn msg (.security (some client)), [])
        | none =>
          match g.getLogicClient c.serverID with
          | none => some (endProcess g .none none)
          | some client =>
            some (g.withManager (·.modifyObject conn fun c =>
                { c with logicClient := some client }),
              .process conn msg (.security (some client)), [])
  | .security client, x =>
    match g.connectionManager.objects conn with
    | none => none
    | some c =>
      if cfg.whitelistBlacklist.isNone ∧ cfg.restDisabled then
        -- the fast path sends the message without an address
        some (g, .process conn msg (.send client
          { sessionId := conn, userKey := c.userUUID, cmd := msg.cmd, seqId := msg.seqId
            data := msg.data }), [])
      else if cfg.blocks c.remoteHostOf then some (endProcess g .none none)
      else
        match cfg.verdict x with
        | .drop result => some (g, .processed result, [])
        | _ => some (g, .process conn msg (.build client c.remoteHostOf), [])
  | .build client remoteIP, x =>
    match g.connectionManager.objects conn with
    | none => none
    | some c =>
      some (g, .process conn msg
        (.send client (forwardMessage conn c remoteIP msg (cfg.verdict x))), [])
  | .send none _, _ => some (endProcess g .none (some .forward))
  | .send (some client) out, x =>
    some (g.record (.handed .pipeline client out),
      .processed ⟨.none, if x = .refuse then some .forward else none⟩, [])

/-! ## The program -/

def stepTask : Task → Choice → Option (Gateway × Task × List Task)
  | .frame ws conn data, _ => some (handleFrame cfg g ws conn data)
  | .handleLogin ws conn msg, x => some (handleLoginGate cfg g ws conn msg x)
  | .login conn msg req pc, x => some (finishLoginGate cfg g conn msg req pc x)
  | .logout conn, _ => some (handleLogoutGate cfg g conn)
  | .wsUpdate conn msg, _ =>
    some (g.withManager (·.updateConnectionUserUUID conn msg.userKey),
      .process conn msg .overload, [])
  | .process conn msg pc, x => processMessage cfg g conn msg pc x
  | .forwardLogin serverID msg attempts, x => forwardLoginAsync g serverID msg attempts x
  | .notifyOffline conn client msg, x =>
    some (g.record (.handed .offline client msg),
      if x = .refuse then .finished else .markOffline conn, [])
  | .markOffline conn, _ =>
    some (g.withManager (·.modifyObject conn fun c => { c with offlineSent := true }),
      .finished, [])
  -- a connection beyond the limits is refused
  | .onOpen _ _ _, .refuse => some (g, .finished, [])
  | .onOpen conn tempUUID addr, _ =>
    -- identifiers are never used twice
    if (g.connectionManager.objects conn).isSome ∨ ¬ isConnectionID tempUUID then none
    else
      some (g.withManager (·.addConnection cfg.host conn addr ("temp_" ++ tempUUID)), .finished, [])
  | .onClose conn, _ =>
    match g.connectionManager.getConnection conn with
    | none => some (g, .removeConn conn, [])
    | some _ => some (g, .removeConn conn, notifyLogicOffline cfg g conn)
  | .removeConn conn, _ =>
    let g' := g.withManager (·.removeConnection cfg.host conn)
    some (if conn ∈ g.connectionManager.connections then g'.record (.removed conn) else g',
      .finished, [])
  | .push conn userKey, _ =>
    some (if userKey = "" then g else g.withManager (·.updateConnectionUserUUID conn userKey),
      .finished, [])
  | .updateIP conn ip, _ => some (g.withManager (·.updateConnectionIP conn ip), .finished, [])
  | .enable serverID zone reason, _ =>
    if (serverID = "") = (zone = "") then some (g, .finished, [])
    else
      some ({ g with maintenance := g.maintenance.enable serverID zone reason },
        .snapshot serverID zone, [])
  | .snapshot serverID zone, _ =>
    let matched := g.snapshotMaintenanceTargets cfg serverID zone
    some (g, .enabled serverID zone matched, matched.map .kick)
  | .disable serverID zone, _ =>
    some ({ g with maintenance := g.maintenance.disable serverID zone }, .finished, [])
  | .kick conn, _ => some (g.tellToClose conn, .finished, notifyLogicOffline cfg g conn)
  | .setClient serverID client, _ =>
    some ({ g with clients := g.clients.store serverID client }, .finished, [])
  | .setConnected client up, _ =>
    some ({ g with isConnected := Function.update g.isConnected client up }, .finished, [])
  | .processed _, _ | .enabled _ _ _, _ | .finished, _ => none

def startTask : Task → Option Gateway
  | .frame _ conn _ => if (g.connectionManager.objects conn).isSome then some g else none
  | .onOpen _ _ _ | .onClose _ | .push _ _ | .updateIP _ _ | .enable _ _ _ | .disable _ _ | .kick _
  | .setClient _ _ | .setConnected _ _ => some g
  | _ => none

def gateway : Program Gateway Task Choice where
  start := startTask
  step := stepTask cfg

def initWorld : World Gateway Task := ⟨.new, []⟩

/-! ## Concrete runs -/

/-- A configuration for concrete runs: frames in the published wire format, with the position of the
login request in a list as their body, and no protection other than the given address lists. -/
def sampleConfig (requests : List LoginGateReq) (lists : Option WhitelistBlacklist) : Config where
  pw := .standard
  unmarshalLoginGateReq data :=
    match (data.head?).bind fun b => requests[b.toNat]? with
    | some req => (req, true)
    | none => (⟨"", "", ""⟩, false)
  marshalUserOfflineNtf _ _ _ := []
  host := id
  preAuthCommands := [cmdLoginGate]
  whitelistBlacklist := lists
  restDisabled := true
  zone := "z"
  zoneOf _ := ""

/-- The frame of the login request at a position of the list. -/
def loginFrame (i : UInt8) : Bytes := [0x08, 0xC1, 0x84, 0x3D, 0x9A, 0x06, 1, i]

/-- Let a task make a number of steps. -/
def steps (i n : ℕ) : List (Action Task Choice) := List.replicate n (.step i .proceed)

/-- Start a task and let it make a number of steps; `i` is its position. -/
def starts (t : Task) (i n : ℕ) : List (Action Task Choice) := .start t :: steps i n

/-- Two connections. -/
def twoOpen : List (Action Task Choice) :=
  starts (.onOpen "c" "t1" "10.0.0.1:5000") 0 1 ++ starts (.onOpen "d" "t2" "10.0.0.2:5000") 1 1

/-- They log in one after the other. -/
def loginsInTurn : List (Action Task Choice) :=
  twoOpen ++ starts (.frame false "c" (loginFrame 0)) 2 11 ++
  starts (.frame false "d" (loginFrame 0)) 4 12

end Sgate.Gateway
