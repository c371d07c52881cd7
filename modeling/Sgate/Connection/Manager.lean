import Sgate.Lib.KeyMap
import Mathlib.Data.Finset.Basic

/-! # Client connections and their indexes

The `ConnectionManager` owns the connections and the indexes over them. A goroutine that looked a
connection up keeps reading and writing it after `removeConnection`, so the manager keeps every object it
ever created (`objects`) beside the identifiers that are registered now (`connections`). -/

namespace Sgate

/-! ## Addresses -/

/-- `net.SplitHostPort`: host and port of `host:port` or `[host]:port`; `none` where it reports an
error. -/
def splitHostPort (hostport : String) : Option (String × String) :=
  let s := hostport.toList
  let port := (s.reverse.takeWhile (· ≠ ':')).reverse
  let before := s.take (s.length - port.length - 1)
  if ':' ∉ s then none
  else if s.head? = some '[' then
    let host := s.tail.takeWhile (· ≠ ']')
    -- the bracket must be closed right before the last colon, and stand nowhere else
    if ']' ∉ s ∨ host.length + 2 ≠ before.length ∨ '[' ∈ s.tail ∨ ']' ∈ s.drop (host.length + 2)
    then none
    else some (String.ofList host, String.ofList port)
  else if ':' ∈ before ∨ '[' ∈ s ∨ ']' ∈ s then none
  else some (String.ofList before, String.ofList port)

example : splitHostPort "10.0.0.1:5000" = some ("10.0.0.1", "5000") := by decide
example : splitHostPort "[::1]:5000" = some ("::1", "5000") := by decide
example : splitHostPort "::1" = none := by decide

/-- `strings.Cut addr ":"`: what follows the first colon. -/
def cutPort (addr : String) : Option String :=
  match addr.toList.dropWhile (· ≠ ':') with
  | [] => none
  | _ :: port => some (String.ofList port)

/-! ## Connections -/

/-- The alphabet of `GenerateConnectionID`, whose identifiers read `conn_<time>_<count>`. -/
def isConnectionID (id : String) : Bool := id.toList.all fun ch => ch.isAlphanum || ch = '_'

structure Connection where
  /-- Address of the peer. -/
  remoteAddr : String
  /-- Address without port, once it was computed or overridden. -/
  remoteHost : Option String := none
  /-- Identity of the user; `temp_…` until a login gives a real one. -/
  userUUID : String
  /-- The logic server the connection is bound to. -/
  serverID : String := ""
  accountID : String := ""
  loginKey : String := ""
  isWS : Bool := false
  /-- The cached client of the logic server. -/
  logicClient : Option ℕ := none
  /-- The offline notice was delivered. -/
  offlineSent : Bool := false

namespace Connection

/-- `IsAuthenticated`: the user is neither empty nor temporary. -/
def isAuthenticated (c : Connection) : Bool :=
  c.userUUID ≠ "" && !"temp_".toList.isPrefixOf c.userUUID.toList

/-- `RemoteHost`. The source caches the result; as the address only changes together with the cache
(`setRemoteHost`), the cache is never stale. -/
def remoteHostOf (c : Connection) : String :=
  match c.remoteHost with
  | some host => host
  | none =>
    match splitHostPort c.remoteAddr with
    | some (host, _) => host
    | none => c.remoteAddr

/-- `SetRemoteHost`: override the cached host and rewrite the address. -/
def setRemoteHost (c : Connection) (host : String) : Connection :=
  { c with
    remoteHost := some host
    remoteAddr :=
      if c.remoteAddr = "" then ""
      else
        match cutPort c.remoteAddr with
        | some port => host ++ ":" ++ port
        | none => host }

end Connection

/-! ## The manager -/

/-- A push group member: logic server and user. -/
abbrev ServerUserKey : Type := String × String

/-- The connections of the gateway and the indexes over them. -/
structure ConnectionManager where
  objects : KeyMap String Connection
  /-- Identifiers of the registered connections. -/
  connections : List String
  userConnections : KeyMap String String
  accountConnections : KeyMap String (Finset String)
  serverUserConnections : KeyMap ServerUserKey String
  serverConnections : KeyMap String String
  /-- Members of the push groups. -/
  groups : KeyMap String (Finset ServerUserKey)
  /-- Connections per address. -/
  ipConnections : String → ℕ
  count : ℤ
  totalConnections : ℤ
  activeConnections : ℤ
  closedConnections : ℤ
  registered : ∀ id ∈ connections, (objects id).isSome

namespace ConnectionManager

def newConnectionManager : ConnectionManager where
  objects := .empty
  connections := []
  userConnections := .empty
  accountConnections := .empty
  serverUserConnections := .empty
  serverConnections := .empty
  groups := .empty
  ipConnections := fun _ => 0
  count := 0
  totalConnections := 0
  activeConnections := 0
  closedConnections := 0
  registered := by simp

def modifyObject (cm : ConnectionManager) (id : String) (f : Connection → Connection) :
    ConnectionManager :=
  { cm with
    objects := Function.update cm.objects id ((cm.objects id).map f)
    registered := by
      intro j hj
      by_cases h : j = id
      · subst h
        simpa using cm.registered j hj
      · simpa [h] using cm.registered j hj }

theorem registered_store (cm : ConnectionManager) (id addr userUUID : String) :
    ∀ j ∈ id :: cm.connections,
      (cm.objects.store id { remoteAddr := addr, userUUID := userUUID } j).isSome := by
  intro j hj
  by_cases h : j = id
  · simp [h]
  · simpa [h] using cm.registered j (by simpa [h] using hj)

theorem registered_filter (cm : ConnectionManager) (id : String) :
    ∀ j ∈ cm.connections.filter (· ≠ id), (cm.objects j).isSome :=
  fun j hj => cm.registered j (List.mem_of_mem_filter hj)

/-- `GetConnection`: the registered connection with the given identifier. -/
def getConnection (cm : ConnectionManager) (id : String) : Option Connection :=
  if id ∈ cm.connections then cm.objects id else none

def getUserConnection (cm : ConnectionManager) (userUUID : String) : Option String :=
  cm.userConnections userUUID

def incrementIP (cm : ConnectionManager) (ip : String) : ConnectionManager :=
  if ip = "" then cm
  else { cm with ipConnections := Function.update cm.ipConnections ip (cm.ipConnections ip + 1) }

/-- `decrementIP`: an absent address counts zero. -/
def decrementIP (cm : ConnectionManager) (ip : String) : ConnectionManager :=
  if ip = "" then cm
  else { cm with ipConnections := Function.update cm.ipConnections ip (cm.ipConnections ip - 1) }

/-- `AddConnection` with the identifier it generates; `host` is the host part of an address. -/
def addConnection (host : String → String) (cm : ConnectionManager) (id addr userUUID : String) :
    ConnectionManager :=
  { cm with
    objects := cm.objects.store id { remoteAddr := addr, userUUID := userUUID }
    connections := id :: cm.connections
    userConnections := cm.userConnections.store userUUID id
    count := cm.count + 1
    totalConnections := cm.totalConnections + 1
    activeConnections := cm.activeConnections + 1
    registered := cm.registered_store id addr userUUID }.incrementIP (host addr)

/-- `removeAccountConnection`: drop a connection from its account, and the account with its last
connection. -/
def removeAccountConnection (cm : ConnectionManager) (accountID id : String) : ConnectionManager :=
  match cm.accountConnections accountID with
  | none => cm
  | some set =>
    { cm with
      accountConnections :=
        if set.erase id = ∅ then cm.accountConnections.delete accountID
        else cm.accountConnections.store accountID (set.erase id) }

/-- `removeMemberFromAllGroups`: drop a member everywhere, and the groups that are empty then. -/
def removeMemberFromAllGroups (cm : ConnectionManager) (key : ServerUserKey) : ConnectionManager :=
  { cm with
    groups := fun g =>
      match cm.groups g with
      | none => none
      | some members => if members.erase key = ∅ then none else some (members.erase key) }

/-- The indexes a removed connection leaves, with the identity its object has at that moment. -/
def dropIndexes (host : String → String) (cm : ConnectionManager) (id : String) (conn : Connection) :
    ConnectionManager :=
  let cm := if conn.accountID ≠ "" then cm.removeAccountConnection conn.accountID id else cm
  let cm := { cm with
    serverUserConnections := cm.serverUserConnections.delete (conn.serverID, conn.userUUID)
    serverConnections :=
      if conn.serverID ≠ "" then cm.serverConnections.delete conn.serverID
      else cm.serverConnections }
  let cm := (cm.removeMemberFromAllGroups (conn.serverID, conn.userUUID)).decrementIP
    (host conn.remoteAddr)
  { cm with
    count := cm.count - 1
    activeConnections := cm.activeConnections - 1
    closedConnections := cm.closedConnections + 1 }

def removeConnection (host : String → String) (cm : ConnectionManager) (id : String) :
    ConnectionManager :=
  match cm.getConnection id with
  | none => cm
  | some conn =>
    dropIndexes host { cm with
      connections := cm.connections.filter (· ≠ id)
      userConnections := cm.userConnections.deleteIf conn.userUUID id
      registered := cm.registered_filter id } id conn

/-- `SetConnectionServerID`: bind a connection to a logic server. -/
def setConnectionServerID (cm : ConnectionManager) (id serverID : String) : ConnectionManager :=
  match cm.getConnection id with
  | none => cm
  | some _ =>
    { cm.modifyObject id fun c => { c with serverID := serverID } with
      serverConnections := cm.serverConnections.store serverID id }

/-- `SetConnectionAccountID`: index a connection under its account. -/
def setConnectionAccountID (cm : ConnectionManager) (id accountID : String) : ConnectionManager :=
  if accountID = "" then cm
  else
    match cm.getConnection id with
    | none => cm
    | some _ =>
      { cm.modifyObject id fun c => { c with accountID := accountID } with
        accountConnections := cm.accountConnections.store accountID
          (insert id ((cm.accountConnections accountID).getD ∅)) }

def setConnectionLoginKey (cm : ConnectionManager) (id loginKey : String) : ConnectionManager :=
  if loginKey = "" then cm
  else
    match cm.getConnection id with
    | none => cm
    | some _ => cm.modifyObject id fun c => { c with loginKey := loginKey }

def setWS (cm : ConnectionManager) (id : String) : ConnectionManager :=
  match cm.getConnection id with
  | none => cm
  | some _ => cm.modifyObject id fun c => { c with isWS := true }

/-- `UpdateConnectionUserUUID`: give a connection a new user. The old entry of the user index is
dropped only while it still points to this connection. -/
def updateConnectionUserUUID (cm : ConnectionManager) (id userUUID : String) : ConnectionManager :=
  match cm.getConnection id with
  | none => cm
  | some conn =>
    let old : ServerUserKey := (conn.serverID, conn.userUUID)
    let cleared :=
      if conn.userUUID ≠ "" ∧ conn.userUUID ≠ userUUID then
        cm.serverUserConnections.deleteIf old id
      else cm.serverUserConnections
    { cm.modifyObject id fun c => { c with userUUID := userUUID } with
      userConnections := (cm.userConnections.deleteIf conn.userUUID id).store userUUID id
      serverUserConnections := cleared.store (conn.serverID, userUUID) id }

def getAccountConnections (cm : ConnectionManager) (accountID : String) : Finset String :=
  (cm.accountConnections accountID).getD ∅

/-- `UpdateConnectionIP`: replace the address of a connection behind a proxy. -/
def updateConnectionIP (cm : ConnectionManager) (id newIP : String) : ConnectionManager :=
  match cm.getConnection id with
  | none => cm
  | some conn =>
    if newIP = "" ∨ conn.remoteHostOf = newIP then cm
    else
      ((cm.decrementIP conn.remoteHostOf).incrementIP newIP).modifyObject id
        (·.setRemoteHost newIP)

/-! ### Push groups -/

/-- `CreateGroup`: an empty group, unless the group exists. -/
def createGroup (cm : ConnectionManager) (groupID : String) : ConnectionManager :=
  match cm.groups groupID with
  | some _ => cm
  | none => { cm with groups := cm.groups.store groupID ∅ }

/-- `AddUserToGroup`: a group that does not exist is created. -/
def addUserToGroup (cm : ConnectionManager) (groupID serverID userUUID : String) :
    ConnectionManager :=
  { cm with
    groups := cm.groups.store groupID
      (insert (serverID, userUUID) ((cm.groups groupID).getD ∅)) }

/-- `RemoveUserFromGroup`: drop a member, and the group if it is empty then. -/
def removeUserFromGroup (cm : ConnectionManager) (groupID serverID userUUID : String) :
    ConnectionManager :=
  match cm.groups groupID with
  | none => cm
  | some members =>
    { cm with
      groups :=
        if members.erase (serverID, userUUID) = ∅ then cm.groups.delete groupID
        else cm.groups.store groupID (members.erase (serverID, userUUID)) }

/-- `GetGroupSessions`: the connections a push to the group goes to, in the order in which the
members happen to be listed. -/
def getGroupSessions (cm : ConnectionManager) (groupID : String) : Multiset String :=
  match cm.groups groupID with
  | none => 0
  | some members => members.val.filterMap cm.serverUserConnections

end ConnectionManager

end Sgate
