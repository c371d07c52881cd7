import Sgate.Connection.Sessions
import Sgate.Routes.Frame

/-! # The state of the gateway

What the goroutines of the gateway share, beside a history of events (`Event`), newest first, which no
step reads. Functions outside the modelled source are fields of `Config`. -/

namespace Sgate

open Routes

namespace Gateway

structure LoginGateReq where
  userID : String
  loginKey : String
  serverID : String
  deriving DecidableEq

/-- The user of a login: without a user identifier the connection stands in for it. The logic server
is part of the identity. -/
def LoginGateReq.fullUUID (req : LoginGateReq) (conn : String) : String :=
  req.serverID ++ ":" ++ if req.userID = "" then conn else req.userID

/-! ## Configuration -/

structure WhitelistBlacklist where
  whitelist : Finset String
  blacklist : Finset String

namespace WhitelistBlacklist

def isInWhitelist (l : WhitelistBlacklist) (key : String) : Bool := key ∈ l.whitelist

def isInBlacklist (l : WhitelistBlacklist) (key : String) : Bool := key ∈ l.blacklist

def whitelistEmpty (l : WhitelistBlacklist) : Bool := l.whitelist = ∅

end WhitelistBlacklist

/-- What does not change during a run. -/
structure Config where
  /-- Readers of the protobuf runtime. -/
  pw : Protowire
  /-- `proto.Unmarshal` of a login request: the request as far as it was read, and whether all of it
  was. -/
  unmarshalLoginGateReq : Bytes → LoginGateReq × Bool
  /-- `proto.Marshal` of the offline notice for a session, a user and a server. -/
  marshalUserOfflineNtf : String → String → String → Bytes
  host : String → String
  /-- Commands let through before a login. -/
  preAuthCommands : List Int
  /-- The address lists, if they are enabled. -/
  whitelistBlacklist : Option WhitelistBlacklist
  /-- Rate limiter, WAF, circuit breakers, inbound verification, filters, tracing and degradation are
  all off. -/
  restDisabled : Bool
  zone : String
  /-- `ZoneOf`: the zone a logic server announced, empty if it announced none. -/
  zoneOf : String → String

namespace Config

def isPreAuthCommand (cfg : Config) (cmd : Int) : Bool :=
  cmd = cmdLogicLoginReq || cfg.preAuthCommands.contains cmd

/-- `zoneOfServer`: a server that announced no zone is in the gateway's. -/
def zoneOfServer (cfg : Config) (serverID : String) : String :=
  if cfg.zoneOf serverID ≠ "" then cfg.zoneOf serverID else cfg.zone

/-- The security stage drops the messages of an address. -/
def blocks (cfg : Config) (remoteIP : String) : Bool :=
  match cfg.whitelistBlacklist with
  | none => false
  | some l => l.isInBlacklist remoteIP || (!l.whitelistEmpty && !l.isInWhitelist remoteIP)

end Config

/-! ## Maintenance marks -/

/-- The maintenance marks, with their reasons. -/
structure MaintenanceState where
  servers : KeyMap String String
  zones : KeyMap String String

namespace MaintenanceState

/-- `enable`: of server and zone exactly one is given. -/
def enable (s : MaintenanceState) (serverID zone reason : String) : MaintenanceState :=
  if serverID ≠ "" then { s with servers := s.servers.store serverID reason }
  else { s with zones := s.zones.store zone reason }

def disable (s : MaintenanceState) (serverID zone : String) : MaintenanceState :=
  if serverID ≠ "" then { s with servers := s.servers.delete serverID }
  else { s with zones := s.zones.delete zone }

def serverMarked (s : MaintenanceState) (serverID : String) : Bool := (s.servers serverID).isSome

def zoneMarked (s : MaintenanceState) (zone : String) : Bool := (s.zones zone).isSome

def targets (cfg : Config) (s : MaintenanceState) (serverID : String) : Bool :=
  serverID ≠ "" && (s.serverMarked serverID || s.zoneMarked (cfg.zoneOfServer serverID))

end MaintenanceState

/-! ## Events -/

/-- The ways a message of a connection gets to a logic server. -/
inductive Path
  | pipeline
  | login
  | offline
  deriving DecidableEq

inductive Event
  /-- `validateLoginKey` accepted a request. -/
  | validated (conn : String) (req : LoginGateReq)
  /-- The login worker found the server of a request not in maintenance. -/
  | admitted (conn : String) (req : LoginGateReq)
  | loginAck (conn : String) (code : ℕ) (message serverID : String)
  /-- A message was handed to the client of a logic server. -/
  | handed (path : Path) (client : ℕ) (msg : StreamData)
  /-- A login worker closed another connection of its user. -/
  | closedOld (conn : String) (req : LoginGateReq) (old : String)
  /-- A login worker finished; `holder` is what the user index holds for its user then. -/
  | completed (conn : String) (req : LoginGateReq) (holder : Option String)
  /-- A registered connection was removed. -/
  | removed (conn : String)
  deriving DecidableEq

end Gateway

/-! ## Shared state -/

structure Gateway where
  connectionManager : ConnectionManager
  maintenance : Gateway.MaintenanceState
  /-- Clients by logic server. -/
  clients : KeyMap String ℕ
  isConnected : ℕ → Bool
  /-- Connections whose socket was told to close. -/
  closing : List String
  /-- The history, newest first. -/
  history : List Gateway.Event

namespace Gateway

def new : Gateway where
  connectionManager := .newConnectionManager
  maintenance := ⟨.empty, .empty⟩
  clients := .empty
  isConnected := fun _ => false
  closing := []
  history := []

def record (g : Gateway) (e : Event) : Gateway := { g with history := e :: g.history }

def withManager (g : Gateway) (f : ConnectionManager → ConnectionManager) : Gateway :=
  { g with connectionManager := f g.connectionManager }

def tellToClose (g : Gateway) (conn : String) : Gateway := { g with closing := conn :: g.closing }

def getLogicClient (g : Gateway) (serverID : String) : Option ℕ :=
  match g.clients serverID with
  | none => none
  | some client => if g.isConnected client then some client else none

def isMaintenanceTarget (cfg : Config) (g : Gateway) (serverID : String) : Bool :=
  g.maintenance.targets cfg serverID

/-- A maintenance mark for a server, or else for a zone, covers a logic server. -/
def covers (cfg : Config) (serverID zone target : String) : Bool :=
  target ≠ "" && if serverID ≠ "" then target = serverID else cfg.zoneOfServer target = zone

def snapshotMaintenanceTargets (cfg : Config) (g : Gateway) (serverID zone : String) : List String :=
  g.connectionManager.connections.filter fun id =>
    match g.connectionManager.objects id with
    | none => false
    | some conn => covers cfg serverID zone conn.serverID

end Gateway

end Sgate
