import Sgate.Gateway.Delivery
import Sgate.Lib.Simulation

/-! # Logins over TCP and over WebSocket

`handleLoginGate` with its worker on TCP, and the login branch of `handleWebSocketDataFrame` with its
worker on a WebSocket, are written separately in the source and translated separately here, as programs
over the gateway, the bytes written and the goroutines started (`Trace`). The workers run in step
(`related_finish`), the handlers up to refusals. `follows_finishLoginGate` relates the workers to the
steps of the gateway. -/

namespace Sgate.Gateway.LoginPath

open Routes Simulation Interleaving

/-! ## Framing -/

/-- The low `k` bytes of a number, most significant first. -/
def bigEndian : ℕ → ℕ → Bytes
  | 0, _ => []
  | k + 1, n => UInt8.ofNat (n / 256 ^ k) :: bigEndian k n

/-- `writeFrame` and `writeFrameAsync`: a length of four bytes in front. -/
def writeFrame (data : Bytes) : Bytes := bigEndian 4 data.length ++ data

/-- `EncodeWSFrame`: an unmasked frame with a length of one, two or eight bytes. -/
def encodeWSFrame (opCode : UInt8) (payload : Bytes) : Bytes :=
  let n := payload.length
  if n < 126 then opCode :: UInt8.ofNat n :: payload
  else if n ≤ 65535 then opCode :: 126 :: (bigEndian 2 n ++ payload)
  else opCode :: 127 :: (bigEndian 8 n ++ payload)

def wsBinaryFrame (payload : Bytes) : Bytes := encodeWSFrame 0x82 payload

/-! ## Login programs -/

def cmdLoginGateAck : Int := 1000002

structure LoginGateAck where
  code : ℕ
  message : String
  sessionId : String
  serverID : String
  deriving DecidableEq

/-- What a login is decided by outside the gateway's own state. -/
structure Env where
  /-- `proto.Marshal` of an answer. -/
  marshalLoginGateAck : LoginGateAck → Bytes
  /-- `proto.Marshal` of a `MessageFrame` with command, sequence number and body. -/
  marshalMessageFrame : Int → Int → Bytes → Bytes
  /-- `RemoteAddr` of the socket. -/
  addr : String
  /-- `IsOverloaded` of the overload protector, false without one. -/
  overloaded : Bool
  /-- `AllowGlobal` of the rate limiter, true without one. -/
  allowGlobal : Bool
  /-- `Allow "ip"` of the rate limiter, true without one. -/
  allowIP : String → Bool
  acquireLoginSlot : Bool
  /-- `validateLoginKey` with user, key, connection, client address and server. -/
  validateLoginKey : String → String → String → String → String → Bool

namespace Env

def marshalClientMessage (env : Env) (msg : StreamData) : Bytes :=
  env.marshalMessageFrame msg.cmd msg.seqId msg.data

def ackMessage (env : Env) (seqId : Int) (ack : LoginGateAck) : Bytes :=
  env.marshalClientMessage
    { cmd := cmdLoginGateAck, data := env.marshalLoginGateAck ack, seqId := seqId }

end Env

/-- What a login works on: the gateway, what was written to the socket and what was started. -/
structure Trace where
  gateway : Gateway
  written : List Bytes := []
  started : List Task := []

abbrev LoginM : Type → Type := StateM Trace

def ask {α : Type} (f : Gateway → α) : LoginM α := read fun t => f t.gateway

def call (f : ConnectionManager → ConnectionManager) : LoginM Unit :=
  modify fun t => { t with gateway := t.gateway.withManager f }

/-- `Conn.Close` of another connection. -/
def closeConn (c : String) : LoginM Unit :=
  modify fun t => { t with gateway := t.gateway.tellToClose c }

def go (tasks : Gateway → List Task) : LoginM Unit :=
  modify fun t => { t with started := t.started ++ tasks t.gateway }

def write (frame : Bytes) : LoginM Unit := modify fun t => { t with written := t.written ++ [frame] }

/-- A goroutine finds the gateway in a later state. -/
def resume (later : Gateway) : LoginM Unit := modify fun t => { t with gateway := later }

variable (cfg : Config) (env : Env)

/-! ## TCP -/

/-- `writeMsgFrame` with an answer, and `writeAck` of the worker. -/
def writeAck (seqId : Int) (ack : LoginGateAck) : LoginM Unit :=
  write (writeFrame (env.ackMessage seqId ack))

/-- `handleLoginGate`: the action for the connection, and the request if a worker is started. -/
def handleLoginGate (c : String) (m : StreamData) : LoginM (ConnAction × Option LoginGateReq) :=
  if env.overloaded then do
    writeAck env m.seqId ⟨503, "server overload", c, ""⟩
    return (.none, none)
  else if env.allowGlobal = false ∨ env.allowIP (cfg.host env.addr) = false then do
    writeAck env m.seqId ⟨429, "rate limited", c, ""⟩
    return (.none, none)
  else
    let req := (cfg.unmarshalLoginGateReq m.data).1
    if (cfg.unmarshalLoginGateReq m.data).2 = false ∨ req.serverID = "" then do
      writeAck env m.seqId ⟨400, "invalid login gate request", c, req.serverID⟩
      return (.none, none)
    else do
      if ← ask fun g => g.isMaintenanceTarget cfg req.serverID then
        writeAck env m.seqId ⟨503, "server in maintenance", c, req.serverID⟩
        return (.close, none)
      else if env.acquireLoginSlot = false then
        writeAck env m.seqId ⟨429, "too many concurrent logins", c, req.serverID⟩
        return (.none, none)
      else
        return (.none, some req)

def finishLoginGate (c : String) (m : StreamData) (req : LoginGateReq) : LoginM Unit := do
  if env.validateLoginKey req.userID req.loginKey c (cfg.host env.addr) req.serverID = false then
    writeAck env m.seqId ⟨401, "invalid login key", c, req.serverID⟩
  else if ← ask fun g => g.isMaintenanceTarget cfg req.serverID then
    writeAck env m.seqId ⟨503, "server in maintenance", c, req.serverID⟩
  else
    call (·.setConnectionServerID c req.serverID)
    let userUUID := if req.userID = "" then c else req.userID
    let fullUUID := req.serverID ++ ":" ++ userUUID
    -- the user's other connection is closed
    whenSome (← ask (·.connectionManager.getUserConnection fullUUID)) fun old =>
      whenever (old ≠ c) do
        whenSome (← ask (·.connectionManager.getConnection old)) fun _ => do
          go fun g => notifyLogicOffline cfg g old
          closeConn old
    call (·.updateConnectionUserUUID c fullUUID)
    whenever (req.userID ≠ "") (call (·.setConnectionAccountID c req.userID))
    whenever (req.loginKey ≠ "") (call (·.setConnectionLoginKey c req.loginKey))
    writeAck env m.seqId ⟨0, "ok", c, req.serverID⟩
    whenSome (← ask (·.connectionManager.getConnection c)) fun conn =>
      go fun _ => [.forwardLogin req.serverID
        { sessionId := c, userKey := conn.userUUID, data := m.data, cmd := m.cmd
          seqId := m.seqId } 20]

/-- A login over TCP; the worker finds the gateway in the state `later`. -/
def tcpLogin (later : Gateway) (c : String) (m : StreamData) : LoginM ConnAction := do
  let (action, worker) ← handleLoginGate cfg env c m
  whenSome worker fun req => do
    resume later
    finishLoginGate cfg env c m req
  return action

/-! ## WebSocket -/

/-- `sendWebSocketLoginAck`: whether it returns no error. -/
def sendWebSocketLoginAck (l : Link) (c : String) (seqId : Int) (code : ℕ) (text serverID : String) :
    LoginM Bool :=
  if l.wsOpen then do
    write (wsBinaryFrame (env.ackMessage seqId ⟨code, text, c, serverID⟩))
    return l.written
  else return false

/-- The login branch of `handleWebSocketDataFrame`: whether it returns no error, and the request if a
worker is started. -/
def handleWebSocketDataFrame (l : Link) (c : String) (m : StreamData) :
    LoginM (Bool × Option LoginGateReq) :=
  if env.overloaded then do
    let sent ← sendWebSocketLoginAck env l c m.seqId 503 "server overload" ""
    return (sent, none)
  else if env.allowGlobal = false ∨ env.allowIP (cfg.host env.addr) = false then do
    let sent ← sendWebSocketLoginAck env l c m.seqId 429 "rate limited" ""
    return (sent, none)
  else
    let req := (cfg.unmarshalLoginGateReq m.data).1
    if (cfg.unmarshalLoginGateReq m.data).2 = false ∨ req.serverID = "" then do
      let sent ← sendWebSocketLoginAck env l c m.seqId 400 "invalid login gate request" req.serverID
      return (sent, none)
    else do
      if ← ask fun g => g.isMaintenanceTarget cfg req.serverID then
        let sent ← sendWebSocketLoginAck env l c m.seqId 503 "server in maintenance" req.serverID
        return (sent, none)
      else if env.acquireLoginSlot = false then
        let sent ← sendWebSocketLoginAck env l c m.seqId 429 "too many concurrent logins" req.serverID
        return (sent, none)
      else
        return (true, some req)

/-- `ack` of `finishWSLoginGate`: `sendWebSocketMessageAsync`, whose error is dropped. -/
def ackAsync (l : Link) (seqId : Int) (ack : LoginGateAck) : LoginM Unit :=
  whenever (l.wsOpen = true) (write (wsBinaryFrame (env.ackMessage seqId ack)))

def finishWSLoginGate (l : Link) (c : String) (m : StreamData) (req : LoginGateReq) :
    LoginM Unit := do
  if env.validateLoginKey req.userID req.loginKey c (cfg.host env.addr) req.serverID = false then
    ackAsync env l m.seqId ⟨401, "invalid login key", c, req.serverID⟩
  else if ← ask fun g => g.isMaintenanceTarget cfg req.serverID then
    ackAsync env l m.seqId ⟨503, "server in maintenance", c, req.serverID⟩
  else
    call (·.setConnectionServerID c req.serverID)
    let userUUID := if req.userID = "" then c else req.userID
    let fullUUID := req.serverID ++ ":" ++ userUUID
    whenSome (← ask (·.connectionManager.getUserConnection fullUUID)) fun old =>
      whenever (old ≠ c) do
        whenSome (← ask (·.connectionManager.getConnection old)) fun _ => do
          go fun g => notifyLogicOffline cfg g old
          closeConn old
    call (·.updateConnectionUserUUID c fullUUID)
    whenever (req.userID ≠ "") (call (·.setConnectionAccountID c req.userID))
    whenever (req.loginKey ≠ "") (call (·.setConnectionLoginKey c req.loginKey))
    ackAsync env l m.seqId ⟨0, "ok", c, req.serverID⟩
    whenSome (← ask (·.connectionManager.getConnection c)) fun conn =>
      go fun _ => [.forwardLogin req.serverID
        { sessionId := c, userKey := conn.userUUID, data := m.data, cmd := m.cmd
          seqId := m.seqId } 20]

/-- A login over a WebSocket. The worker has a copy of the message, and an error of the handler closes
the connection. -/
def wsLogin (l : Link) (later : Gateway) (c : String) (m : StreamData) : LoginM ConnAction := do
  let (sent, worker) ← handleWebSocketDataFrame cfg env l c m
  whenSome worker fun req => do
    resume later
    finishWSLoginGate cfg env l c
      { cmd := m.cmd, seqId := m.seqId, data := m.data, userKey := m.userKey } req
  return if sent then .none else .close

/-! ## Agreement -/

/-- The same messages, in the framings of the two transports. -/
def SameAnswers (tcp ws : List Bytes) : Prop :=
  ∃ messages : List Bytes, tcp = messages.map writeFrame ∧ ws = messages.map wsBinaryFrame

/-- What the paths have in common: the gateway with its connections and those told to close, the
goroutines started, and the answers up to their framing. -/
structure Same (tcp ws : Trace) : Prop where
  gateway : tcp.gateway = ws.gateway
  started : tcp.started = ws.started
  answers : SameAnswers tcp.written ws.written

/-- Two logins agree: the same decision about the connection, and the same effects. -/
def Agree (tcp ws : ConnAction × Trace) : Prop := tcp.1 = ws.1 ∧ Same tcp.2 ws.2

/-! ## The workers run in step -/

section

variable {cfg : Config} {env : Env} {l : Link} {c : String} {m m' : StreamData} {req : LoginGateReq}
  {tcp ws : List Bytes}

theorem SameAnswers.append (h : SameAnswers tcp ws) (message : Bytes) :
    SameAnswers (tcp ++ [writeFrame message]) (ws ++ [wsBinaryFrame message]) := by
  obtain ⟨messages, rfl, rfl⟩ := h
  exact ⟨messages ++ [message], by simp, by simp⟩

theorem SameAnswers.length_eq (h : SameAnswers tcp ws) : tcp.length = ws.length := by
  obtain ⟨messages, rfl, rfl⟩ := h
  rw [List.length_map, List.length_map]

theorem related_ask {α : Type} (f : Gateway → α) : Related Same (ask f) (ask f) :=
  .read fun _ _ h => by rw [h.gateway]

theorem related_call (f : ConnectionManager → ConnectionManager) : Related Same (call f) (call f) :=
  .modify fun _ _ h => ⟨by rw [h.gateway], h.started, h.answers⟩

theorem related_closeConn (c : String) : Related Same (closeConn c) (closeConn c) :=
  .modify fun _ _ h => ⟨by rw [h.gateway], h.started, h.answers⟩

theorem related_go (tasks : Gateway → List Task) : Related Same (go tasks) (go tasks) :=
  .modify fun _ _ h => ⟨h.gateway, by rw [h.gateway, h.started], h.answers⟩

theorem related_ack (hopen : l.wsOpen = true) (seqId : Int) (ack : LoginGateAck) :
    Related Same (writeAck env seqId ack) (ackAsync env l seqId ack) := by
  rw [ackAsync, whenever, if_pos hopen]
  exact .modify fun _ _ h => ⟨h.gateway, h.started, h.answers.append _⟩

/-- **The workers run in step**, as long as the WebSocket is open: they make the same calls in the
same order and give the same answers. -/
theorem related_finish (hopen : l.wsOpen = true) (hdata : m'.data = m.data) (hcmd : m'.cmd = m.cmd)
    (hseq : m'.seqId = m.seqId) :
    Related Same (finishLoginGate cfg env c m req) (finishWSLoginGate cfg env l c m' req) := by
  unfold finishLoginGate finishWSLoginGate
  rw [hdata, hcmd, hseq]
  refine .ite (fun _ => related_ack hopen _ _) fun _ => ?_
  refine (related_ask _).bind fun marked => .ite (fun _ => related_ack hopen _ _) fun _ => ?_
  refine (related_call _).bind fun _ => ?_
  refine (related_ask _).bind fun o => ?_
  refine .bind (.whenSome fun old => .whenever fun _ => ?_) fun _ => ?_
  · refine (related_ask _).bind fun o => .whenSome fun _ => ?_
    exact (related_go _).bind fun _ => related_closeConn old
  refine (related_call _).bind fun _ => ?_
  refine .bind (.whenever fun _ => related_call _) fun _ => ?_
  refine .bind (.whenever fun _ => related_call _) fun _ => ?_
  refine (related_ack hopen _ _).bind fun _ => ?_
  exact (related_ask _).bind fun o => .whenSome fun conn => related_go _

/-! ## Answers of the workers -/

/-- A program that writes nothing. -/
def Quiet {α : Type} (p : LoginM α) : Prop := ∀ t, (p t).2.written = t.written

/-- A program after which something was written. -/
def Answers {α : Type} (p : LoginM α) : Prop := ∀ t, (p t).2.written ≠ []

section

variable {α β : Type} {p : LoginM α} {k : α → LoginM β}

theorem Quiet.bind (hp : Quiet p) (hk : ∀ a, Quiet (k a)) : Quiet (p >>= k) :=
  fun t => (hk _ _).trans (hp t)

variable {q : Prop} {p p' : LoginM α}

theorem Quiet.ite [Decidable q] (hp : Quiet p) (hp' : Quiet p') : Quiet (if q then p else p') := by
  split
  · exact hp
  · exact hp'

theorem Quiet.whenever [Decidable q] {p : LoginM Unit} (hp : q → Quiet p) :
    Quiet (whenever q p) := by
  unfold Simulation.whenever
  split
  · rename_i hq
    exact hp hq
  · exact fun _ => rfl

theorem Quiet.whenSome {o : Option α} {p : α → LoginM Unit} (hp : ∀ a, Quiet (p a)) :
    Quiet (whenSome o p) := by
  cases o with
  | none => exact fun _ => rfl
  | some a => exact hp a

theorem quiet_ask (f : Gateway → α) : Quiet (ask f) := fun _ => rfl
theorem quiet_call (f : ConnectionManager → ConnectionManager) : Quiet (call f) := fun _ => rfl
theorem quiet_closeConn (c : String) : Quiet (closeConn c) := fun _ => rfl
theorem quiet_go (tasks : Gateway → List Task) : Quiet (go tasks) := fun _ => rfl

theorem Answers.last (hk : ∀ a, Answers (k a)) : Answers (p >>= k) := fun _ => hk _ _

theorem Answers.quiet (hp : Answers p) (hk : ∀ a, Quiet (k a)) : Answers (p >>= k) := by
  intro t
  show (k (p t).1 (p t).2).2.written ≠ []
  rw [hk]
  exact hp t

theorem Answers.ite [Decidable q] (hp : Answers p) (hp' : Answers p') :
    Answers (if q then p else p') := by
  split
  · exact hp
  · exact hp'

theorem answers_writeAck (seqId : Int) (ack : LoginGateAck) : Answers (writeAck env seqId ack) := by
  intro t
  show t.written ++ [_] ≠ []
  simp

end

theorem answers_finishLoginGate : Answers (finishLoginGate cfg env c m req) := by
  refine .ite (answers_writeAck _ _) (.last fun marked => .ite (answers_writeAck _ _) ?_)
  refine .last fun _ => .last fun o => .last fun _ => .last fun _ => .last fun _ => .last fun _ => ?_
  exact (answers_writeAck _ _).quiet fun _ =>
    (quiet_ask _).bind fun o => .whenSome fun conn => quiet_go _

theorem quiet_finishWSLoginGate (hclosed : l.wsOpen = false) :
    Quiet (finishWSLoginGate cfg env l c m req) := by
  have hack (seqId : Int) (ack : LoginGateAck) : Quiet (ackAsync env l seqId ack) := by
    refine .whenever fun hopen => ?_
    rw [hclosed] at hopen
    cases hopen
  refine .ite (hack _ _) ((quiet_ask _).bind fun marked => .ite (hack _ _) ?_)
  refine (quiet_call _).bind fun _ => (quiet_ask _).bind fun o => .bind ?_ fun _ => ?_
  · refine .whenSome fun old => .whenever fun _ => (quiet_ask _).bind fun o => .whenSome fun _ => ?_
    exact (quiet_go _).bind fun _ => quiet_closeConn old
  refine (quiet_call _).bind fun _ => .bind (.whenever fun _ => quiet_call _) fun _ => ?_
  refine .bind (.whenever fun _ => quiet_call _) fun _ => (hack _ _).bind fun _ => ?_
  exact (quiet_ask _).bind fun o => .whenSome fun conn => quiet_go _

end

/-! ## The handlers -/

/-- The reasons to refuse a login at once. -/
inductive Refusal
  | overloaded
  | rateLimited
  | invalid
  | maintenance
  | busy
  deriving DecidableEq

def Refusal.ack (c serverID : String) : Refusal → LoginGateAck
  | .overloaded => ⟨503, "server overload", c, ""⟩
  | .rateLimited => ⟨429, "rate limited", c, ""⟩
  | .invalid => ⟨400, "invalid login gate request", c, serverID⟩
  | .maintenance => ⟨503, "server in maintenance", c, serverID⟩
  | .busy => ⟨429, "too many concurrent logins", c, serverID⟩

/-- Why a login is refused at once, if it is: the checks that both handlers make. -/
def refusal (g : Gateway) (m : StreamData) : Option Refusal :=
  let req := (cfg.unmarshalLoginGateReq m.data).1
  if env.overloaded then some .overloaded
  else if env.allowGlobal = false ∨ env.allowIP (cfg.host env.addr) = false then some .rateLimited
  else if (cfg.unmarshalLoginGateReq m.data).2 = false ∨ req.serverID = "" then some .invalid
  else if g.isMaintenanceTarget cfg req.serverID then some .maintenance
  else if env.acquireLoginSlot = false then some .busy
  else none

/-- The message of the answer to a refused login. -/
def refusalMessage (c : String) (m : StreamData) (r : Refusal) : Bytes :=
  env.ackMessage m.seqId (r.ack c (cfg.unmarshalLoginGateReq m.data).1.serverID)

section

variable {cfg : Config} {env : Env} {l : Link} {c : String} {m : StreamData} {g later : Gateway}

/-- **The TCP handler** answers a refused login and closes the connection if it is for maintenance. -/
theorem handleLoginGate_eq (t : Trace) : handleLoginGate cfg env c m t =
    match refusal cfg env t.gateway m with
    | some r => ((if r = .maintenance then .close else .none, none),
        { t with written := t.written ++ [writeFrame (refusalMessage cfg env c m r)] })
    | none => ((.none, some (cfg.unmarshalLoginGateReq m.data).1), t) := by
  unfold handleLoginGate refusal
  dsimp only
  split
  · rfl
  split
  · rfl
  split
  · rfl
  show (if t.gateway.isMaintenanceTarget cfg _ = true then _ else _ : LoginM _) t = _
  split
  · rfl
  split <;> rfl

/-- **The WebSocket handler** answers a refused login if the WebSocket is open, and reports an error
if the answer could not be sent. -/
theorem handleWebSocketDataFrame_eq (t : Trace) : handleWebSocketDataFrame cfg env l c m t =
    match refusal cfg env t.gateway m with
    | some r => ((l.sendWebSocketMessage, none), if l.wsOpen then
          { t with written := t.written ++ [wsBinaryFrame (refusalMessage cfg env c m r)] }
        else t)
    | none => ((true, some (cfg.unmarshalLoginGateReq m.data).1), t) := by
  have hsend (code : ℕ) (text serverID : String) :
      (do let sent ← sendWebSocketLoginAck env l c m.seqId code text serverID
          return (sent, (none : Option LoginGateReq)) : LoginM _) t =
        ((l.sendWebSocketMessage, none), if l.wsOpen then
            { t with written := t.written ++
              [wsBinaryFrame (env.ackMessage m.seqId ⟨code, text, c, serverID⟩)] }
          else t) := by
    obtain ⟨wsOpen, written⟩ := l
    cases wsOpen with
    | true => cases written <;> rfl
    | false => rfl
  unfold handleWebSocketDataFrame refusal
  dsimp only
  split
  · exact hsend _ _ _
  split
  · exact hsend _ _ _
  split
  · exact hsend _ _ _
  show (if t.gateway.isMaintenanceTarget cfg _ = true then _ else _ : LoginM _) t = _
  split
  · exact hsend _ _ _
  split
  · exact hsend _ _ _
  · rfl

theorem tcpLogin_eq (t : Trace) : tcpLogin cfg env later c m t =
    match refusal cfg env t.gateway m with
    | some r => (if r = .maintenance then .close else .none,
        { t with written := t.written ++ [writeFrame (refusalMessage cfg env c m r)] })
    | none => (.none, (finishLoginGate cfg env c m (cfg.unmarshalLoginGateReq m.data).1
        { t with gateway := later }).2) := by
  show (let r := handleLoginGate cfg env c m t
    (r.1.1, (whenSome r.1.2 (fun req => resume later >>= fun _ => finishLoginGate cfg env c m req)
      r.2).2)) = _
  rw [handleLoginGate_eq]
  cases refusal cfg env t.gateway m <;> rfl

theorem wsLogin_eq (t : Trace) : wsLogin cfg env l later c m t =
    match refusal cfg env t.gateway m with
    | some r => (if l.sendWebSocketMessage then .none else .close, if l.wsOpen then
          { t with written := t.written ++ [wsBinaryFrame (refusalMessage cfg env c m r)] }
        else t)
    | none => (.none, (finishWSLoginGate cfg env l c
        { cmd := m.cmd, seqId := m.seqId, data := m.data, userKey := m.userKey }
        (cfg.unmarshalLoginGateReq m.data).1 { t with gateway := later }).2) := by
  show (let r := handleWebSocketDataFrame cfg env l c m t
    (if r.1.1 then ConnAction.none else .close,
      (whenSome r.1.2 (fun req => resume later >>= fun _ => finishWSLoginGate cfg env l c
        { cmd := m.cmd, seqId := m.seqId, data := m.data, userKey := m.userKey } req) r.2).2)) = _
  rw [handleWebSocketDataFrame_eq]
  cases refusal cfg env t.gateway m <;> rfl

/-! ## The steps of the gateway follow the workers -/

/-- Started with the task `t`, the gateway does what the program does, apart from its history, and has
the task `t'` then. -/
def Follows {α : Type} (cfg : Config) (t t' : Task) (p : LoginM α) (tr : Trace) : Prop :=
  ∀ past, ∃ (choices : List Choice) (past' : List Event), (gateway cfg).run
    ⟨{ tr.gateway with history := past }, t :: tr.started⟩ (choices.map (.step 0)) = some
      ⟨{ (p tr).2.gateway with history := past' }, t' :: (p tr).2.started⟩

section

variable {α β : Type} {t t' t'' : Task} {p : LoginM α} {k : α → LoginM β} {tr : Trace}

theorem Follows.step (x : Choice) {new : List Task}
    (h : ∀ past, ∃ past', stepTask cfg { tr.gateway with history := past } t x = some
      ({ (p tr).2.gateway with history := past' }, t', new))
    (hstarted : (p tr).2.started = tr.started ++ new := by exact (List.append_nil _).symm) :
    Follows cfg t t' p tr := by
  intro past
  obtain ⟨past', hstep⟩ := h past
  refine ⟨[x], past', ?_⟩
  rw [hstarted]
  simp [Transition.run, Program.exec, gateway, hstep]

theorem Follows.bind (hp : Follows cfg t t' p tr)
    (hk : Follows cfg t' t'' (k (p tr).1) (p tr).2) : Follows cfg t t'' (p >>= k) tr := by
  intro past
  obtain ⟨choices, past', hrun⟩ := hp past
  obtain ⟨choices', past'', hrun'⟩ := hk past'
  refine ⟨choices ++ choices', past'', ?_⟩
  rw [List.map_append]
  exact (Transition.run_append hrun).trans hrun'

theorem Follows.skip (t' : Task) (x : Choice)
    (h : ∀ past, ∃ past', stepTask cfg { tr.gateway with history := past } t x = some
      ({ tr.gateway with history := past' }, t', []))
    (hp : Follows cfg t' t'' p tr) : Follows cfg t t'' p tr := by
  have hstep : Follows cfg t t' (pure () : LoginM Unit) tr := .step x h
  exact hstep.bind (k := fun _ => p) hp

theorem Follows.ask {f : Gateway → α} {k : α → LoginM β} (h : Follows cfg t t' (k (f tr.gateway)) tr) :
    Follows cfg t t' (LoginPath.ask f >>= k) tr := h

end

variable {req : LoginGateReq}

theorem follows_closeOld (tr : Trace) :
    Follows cfg (.login c m req .lookup) (.login c m req .register)
      (whenSome (tr.gateway.connectionManager.getUserConnection (req.fullUUID c)) fun old =>
        whenever (old ≠ c) (ask (·.connectionManager.getConnection old) >>= fun o =>
          whenSome o fun _ => go (fun g => notifyLogicOffline cfg g old) >>= fun _ =>
            closeConn old)) tr := by
  cases hold : tr.gateway.connectionManager.getUserConnection (req.fullUUID c) with
  | none =>
    refine .step .proceed fun past => ⟨past, ?_⟩
    simp only [stepTask, Gateway.finishLoginGate, hold]
    rfl
  | some old =>
    by_cases hne : old ≠ c
    · refine .skip (.login c m req (.closeOld old)) .proceed (fun past => ⟨past, ?_⟩) ?_
      · simp only [stepTask, Gateway.finishLoginGate, hold, if_pos hne]
      rw [whenSome, whenever, if_pos hne]
      refine .ask ?_
      cases hconn : tr.gateway.connectionManager.getConnection old with
      | none =>
        refine .step .proceed fun past => ⟨past, ?_⟩
        simp only [stepTask, Gateway.finishLoginGate, hconn]
        rfl
      | some conn =>
        refine .step .proceed (fun past => ⟨.closedOld c req old :: past, ?_⟩) rfl
        simp only [stepTask, Gateway.finishLoginGate, hconn]
        rfl
    · rw [whenSome, whenever, if_neg hne]
      refine .step .proceed fun past => ⟨past, ?_⟩
      simp only [stepTask, Gateway.finishLoginGate, hold, if_neg hne]
      rfl

theorem follows_whenever {q : Prop} [Decidable q] {f : ConnectionManager → ConnectionManager}
    {t t' : Task} (hstep : ∀ g : Gateway, stepTask cfg g t .proceed = some (g.withManager f, t', []))
    (hskip : ¬ q → ∀ cm, f cm = cm) (tr : Trace) : Follows cfg t t' (whenever q (call f)) tr := by
  by_cases hq : q
  · rw [whenever, if_pos hq]
    exact .step .proceed fun past => ⟨past, hstep _⟩
  · rw [whenever, if_neg hq]
    refine .step .proceed fun past => ⟨past, ?_⟩
    rw [hstep, withManager, hskip hq]
    rfl

theorem follows_forward (tr : Trace) :
    Follows cfg (.login c m req .forward) .finished
      (whenSome (tr.gateway.connectionManager.getConnection c) fun conn =>
        go fun _ => [.forwardLogin req.serverID
          { sessionId := c, userKey := conn.userUUID, data := m.data, cmd := m.cmd
            seqId := m.seqId } 20]) tr := by
  cases hconn : tr.gateway.connectionManager.getConnection c with
  | none =>
    refine .step .proceed fun past => ⟨.completed c req
      (tr.gateway.connectionManager.getUserConnection (req.fullUUID c)) :: past, ?_⟩
    simp only [stepTask, Gateway.finishLoginGate, hconn]
    rfl
  | some conn =>
    refine .step .proceed (fun past => ⟨.completed c req
      (tr.gateway.connectionManager.getUserConnection (req.fullUUID c)) :: past, ?_⟩) rfl
    simp only [stepTask, Gateway.finishLoginGate, hconn]
    rfl

/-- **The steps of a worker** follow `finishLoginGate`. -/
theorem follows_finishLoginGate (tr : Trace) :
    Follows cfg (.login c m req .validate) .finished (finishLoginGate cfg env c m req) tr := by
  unfold finishLoginGate
  split
  · exact .step .refuse fun past => ⟨_, rfl⟩
  refine .skip (.login c m req .maintenance) .proceed
    (fun past => ⟨.validated c req :: past, rfl⟩) (.ask ?_)
  split
  · rename_i hmarked
    refine .step .proceed fun past => ⟨.loginAck c 503 "server in maintenance" req.serverID :: past, ?_⟩
    show some (if tr.gateway.isMaintenanceTarget cfg req.serverID then _ else _) = _
    rw [if_pos hmarked]
    rfl
  rename_i hmarked
  refine .skip (.login c m req .bind) .proceed (fun past => ⟨.admitted c req :: past, ?_⟩) ?_
  · show some (if tr.gateway.isMaintenanceTarget cfg req.serverID then _ else _) = _
    rw [if_neg hmarked]
    rfl
  refine .bind (.step .proceed fun past => ⟨past, rfl⟩) (.ask ?_)
  refine (follows_closeOld _).bind ?_
  -- register, account and key
  refine .bind (.step .proceed fun past => ⟨past, rfl⟩) ?_
  refine (follows_whenever (fun _ => rfl) (fun h cm => ?_) _).bind ?_
  · rw [not_not.mp h]
    rfl
  refine (follows_whenever (fun _ => rfl) (fun h cm => ?_) _).bind ?_
  · rw [not_not.mp h]
    rfl
  refine .bind (.step .proceed fun past => ⟨_, rfl⟩) (.ask ?_)
  exact follows_forward _

theorem follows_finishWSLoginGate {m' : StreamData} (hopen : l.wsOpen = true)
    (hdata : m'.data = m.data) (hcmd : m'.cmd = m.cmd) (hseq : m'.seqId = m.seqId) :
    Follows cfg (.login c m req .validate) .finished (finishWSLoginGate cfg env l c m' req)
      ⟨g, [], []⟩ := by
  have hfollows : Follows cfg (.login c m req .validate) .finished
      (finishLoginGate cfg env c m req) ⟨g, [], []⟩ := follows_finishLoginGate _
  have hsame : Same (finishLoginGate cfg env c m req ⟨g, [], []⟩).2
      (finishWSLoginGate cfg env l c m' req ⟨g, [], []⟩).2 :=
    (related_finish hopen hdata hcmd hseq _ _ ⟨rfl, rfl, [], rfl, rfl⟩).2
  intro past
  obtain ⟨choices, past', hrun⟩ := hfollows past
  rw [hsame.gateway, hsame.started] at hrun
  exact ⟨choices, past', hrun⟩

/-! ## When the paths agree -/

/-- **Logins over TCP and over WebSocket.** In every state of the gateway, and whatever the checks and
the login server say, the two paths give the same answer, the same decision about the connection, the
same connections closed, the same connection manager and the same messages to the logic servers, if
and only if the WebSocket is open and, in case the login is refused at once, the answer can be written
exactly if the refusal is not for maintenance. -/
theorem agree_iff :
    Agree (tcpLogin cfg env later c m ⟨g, [], []⟩) (wsLogin cfg env l later c m ⟨g, [], []⟩) ↔
    l.wsOpen = true ∧
      ∀ r, refusal cfg env g m = some r → (l.written = true ↔ r ≠ .maintenance) := by
  rw [tcpLogin_eq, wsLogin_eq]
  cases hr : refusal cfg env g m with
  | none =>
    constructor
    · rintro ⟨-, hsame⟩
      refine ⟨?_, fun r h => by cases h⟩
      by_contra hclosed
      rw [Bool.not_eq_true] at hclosed
      -- the TCP worker answers, the other one does not
      have hlength := hsame.answers.length_eq
      rw [quiet_finishWSLoginGate hclosed, List.length_nil, List.length_eq_zero_iff] at hlength
      exact answers_finishLoginGate _ hlength
    · rintro ⟨hopen, -⟩
      refine ⟨rfl, (related_finish hopen rfl rfl rfl _ _ ?_).2⟩
      exact ⟨rfl, rfl, [], rfl, rfl⟩
  | some r =>
    cases hopen : l.wsOpen with
    | false =>
      -- the TCP handler answers, the other one does not
      refine ⟨fun h => ?_, fun h => by cases h.1⟩
      have hlength := h.2.answers.length_eq
      simp at hlength
    | true =>
      have haction : ((if r = .maintenance then ConnAction.close else .none) =
          if l.sendWebSocketMessage then .none else .close) ↔
            (l.written = true ↔ r ≠ .maintenance) := by
        rw [Link.sendWebSocketMessage, hopen, Bool.true_and]
        by_cases hmaint : r = .maintenance <;> cases l.written <;> simp [hmaint]
      constructor
      · rintro ⟨h, -⟩
        refine ⟨rfl, fun r' hr' => ?_⟩
        cases hr'
        exact haction.mp h
      · rintro ⟨-, h⟩
        refine ⟨haction.mpr (h r rfl), rfl, rfl, ?_⟩
        exact ⟨[refusalMessage cfg env c m r], rfl, rfl⟩

end

/-! ### A login to a server in maintenance -/

/-- A gateway with a mark on the server `s`. -/
def marked : Gateway := { Gateway.new with maintenance := ⟨KeyMap.empty.store "s" "update", .empty⟩ }

/-- An environment that lets every login pass. -/
def permissive : Env where
  marshalLoginGateAck _ := []
  marshalMessageFrame _ _ body := body
  addr := "10.0.0.1:5000"
  overloaded := false
  allowGlobal := true
  allowIP _ := true
  acquireLoginSlot := true
  validateLoginKey _ _ _ _ _ := true

/-- `"c"` logs in as the user `"u"`, when the server has a client, and `"d"` is open. -/
def oneLoggedIn : List (Action Task Choice) :=
  twoOpen ++ starts (.setClient "s" 0) 2 1 ++ starts (.setConnected 0 true) 3 1 ++
    starts (.frame false "c" (loginFrame 0)) 4 11

/-- The same login by `"d"` over a WebSocket closes `"c"`, notifies the server, takes the user over and
is forwarded; the gateway makes the same changes in its own steps. -/
theorem follows_finishWSLoginGate_takeover : let cfg := sampleConfig [⟨"u", "k", "s"⟩] none
    let m : StreamData := { cmd := cmdLoginGate, data := [0] }
    let finish := finishWSLoginGate cfg permissive ⟨true, true⟩ "d" m ⟨"u", "k", "s"⟩
    ∃ w, (gateway cfg).run initWorld oneLoggedIn = some w ∧
      (w.shared.connectionManager.getUserConnection "s:u" = some "c" ∧
        (finish ⟨w.shared, [], []⟩).2.gateway.closing = ["c"] ∧
        (finish ⟨w.shared, [], []⟩).2.gateway.connectionManager.getUserConnection "s:u" = some "d" ∧
        (finish ⟨w.shared, [], []⟩).2.started =
          [.notifyOffline "c" 0 { sessionId := "c", userKey := "s:u", cmd := cmdUserOffline },
            .forwardLogin "s" { m with sessionId := "d", userKey := "s:u" } 20]) ∧
      Follows cfg (.login "d" m ⟨"u", "k", "s"⟩ .validate) .finished finish ⟨w.shared, [], []⟩ := by
  intro cfg m finish
  exact (Transition.exists_end (by decide +kernel)).imp fun w hw =>
    ⟨hw.1, hw.2, follows_finishWSLoginGate rfl rfl rfl rfl⟩

/-- **The paths differ for a server in maintenance.** The same login closes a TCP connection and keeps
an open WebSocket. -/
theorem maintenance_disagrees :
    ¬ Agree
      (tcpLogin (sampleConfig [⟨"u", "k", "s"⟩] none) permissive marked "c"
        { cmd := cmdLoginGate, data := [0] } ⟨marked, [], []⟩)
      (wsLogin (sampleConfig [⟨"u", "k", "s"⟩] none) permissive ⟨true, true⟩ marked "c"
        { cmd := cmdLoginGate, data := [0] } ⟨marked, [], []⟩) := by
  rintro ⟨haction, -⟩
  revert haction
  decide +kernel

end Sgate.Gateway.LoginPath
