import Sgate.Connection.Manager
import Sgate.Lib.Transition

/-! # Sequences of manager operations

The operations of the connection manager as data (`Op`) and what one of them does to a manager. An index
is written from what its operation finds in the table of connections and from its own old contents:
`tables_exec` refines the manager to its `Tables`. -/

namespace Sgate

open KeyMap

def Connection.identity (c : Connection) : ServerUserKey := (c.serverID, c.userUUID)

inductive Op
  | addConnection (id addr userUUID : String)
  | removeConnection (id : String)
  | setConnectionServerID (id serverID : String)
  | setConnectionAccountID (id accountID : String)
  | setConnectionLoginKey (id loginKey : String)
  | updateConnectionUserUUID (id userUUID : String)
  | updateConnectionIP (id newIP : String)
  | createGroup (groupID : String)
  | addUserToGroup (groupID serverID userUUID : String)
  | removeUserFromGroup (groupID serverID userUUID : String)
  deriving DecidableEq

namespace ConnectionManager

/-- Perform an operation. A new connection gets an identifier that was never used before. -/
def exec (host : String → String) (cm : ConnectionManager) : Op → Option ConnectionManager
  | .addConnection id addr userUUID =>
    if (cm.objects id).isSome then none else some (cm.addConnection host id addr userUUID)
  | .removeConnection id => some (cm.removeConnection host id)
  | .setConnectionServerID id serverID => some (cm.setConnectionServerID id serverID)
  | .setConnectionAccountID id accountID => some (cm.setConnectionAccountID id accountID)
  | .setConnectionLoginKey id loginKey => some (cm.setConnectionLoginKey id loginKey)
  | .updateConnectionUserUUID id userUUID => some (cm.updateConnectionUserUUID id userUUID)
  | .updateConnectionIP id newIP => some (cm.updateConnectionIP id newIP)
  | .createGroup groupID => some (cm.createGroup groupID)
  | .addUserToGroup groupID serverID userUUID => some (cm.addUserToGroup groupID serverID userUUID)
  | .removeUserFromGroup groupID serverID userUUID =>
    some (cm.removeUserFromGroup groupID serverID userUUID)

end ConnectionManager

/-! ## What the operations write

The counters, the account index and the groups are written by helpers that change one field. Below
are the same writes as functions of that field alone (`countUp`, `countDown`, `dropAccount`,
`dropMember`), and the result of every helper as a record update with them. -/

/-- One connection more at an address; the empty address is not counted. -/
def countUp (m : String → ℕ) (ip : String) : String → ℕ :=
  if ip = "" then m else Function.update m ip (m ip + 1)

/-- One connection less at an address. -/
def countDown (m : String → ℕ) (ip : String) : String → ℕ :=
  if ip = "" then m else Function.update m ip (m ip - 1)

def dropAccount (m : KeyMap String (Finset String)) (accountID id : String) :
    KeyMap String (Finset String) :=
  match m accountID with
  | none => m
  | some set => if set.erase id = ∅ then m.delete accountID else m.store accountID (set.erase id)

def dropMember (m : KeyMap String (Finset ServerUserKey)) (key : ServerUserKey) :
    KeyMap String (Finset ServerUserKey) := fun g =>
  match m g with
  | none => none
  | some members => if members.erase key = ∅ then none else some (members.erase key)

namespace Op

def target : Op → String
  | .addConnection id _ _ | .removeConnection id | .setConnectionServerID id _
  | .setConnectionAccountID id _ | .setConnectionLoginKey id _ | .updateConnectionUserUUID id _
  | .updateConnectionIP id _ => id
  | .createGroup groupID | .addUserToGroup groupID _ _ | .removeUserFromGroup groupID _ _ => groupID

/-- What an operation writes to a registered connection. -/
def rewrite (op : Op) (x : Connection) : Connection :=
  match op with
  | .setConnectionServerID _ serverID => { x with serverID := serverID }
  | .setConnectionAccountID _ accountID =>
    if accountID = "" then x else { x with accountID := accountID }
  | .setConnectionLoginKey _ loginKey => if loginKey = "" then x else { x with loginKey := loginKey }
  | .updateConnectionUserUUID _ userUUID => { x with userUUID := userUUID }
  | .updateConnectionIP _ newIP =>
    if newIP = "" ∨ x.remoteHostOf = newIP then x else x.setRemoteHost newIP
  | _ => x

end Op

attribute [ext] ConnectionManager

namespace ConnectionManager

variable {cm cm' : ConnectionManager} {host : String → String} {id j : String} {conn : Connection}

theorem incrementIP_eq (ip : String) :
    cm.incrementIP ip = { cm with ipConnections := countUp cm.ipConnections ip } := by
  unfold incrementIP countUp
  split <;> rfl

theorem decrementIP_eq (ip : String) :
    cm.decrementIP ip = { cm with ipConnections := countDown cm.ipConnections ip } := by
  unfold decrementIP countDown
  split <;> rfl

theorem removeAccountConnection_eq (accountID : String) :
    cm.removeAccountConnection accountID id =
      { cm with accountConnections := dropAccount cm.accountConnections accountID id } := by
  unfold removeAccountConnection dropAccount
  cases cm.accountConnections accountID <;> rfl

theorem removeConnection_eq (h : cm.getConnection id = some conn) :
    cm.removeConnection host id = { cm with
      connections := cm.connections.filter (· ≠ id)
      userConnections := cm.userConnections.deleteIf conn.userUUID id
      accountConnections := if conn.accountID ≠ "" then
          dropAccount cm.accountConnections conn.accountID id
        else cm.accountConnections
      serverUserConnections := cm.serverUserConnections.delete (conn.serverID, conn.userUUID)
      serverConnections := if conn.serverID ≠ "" then cm.serverConnections.delete conn.serverID
        else cm.serverConnections
      groups := dropMember cm.groups (conn.serverID, conn.userUUID)
      ipConnections := countDown cm.ipConnections (host conn.remoteAddr)
      count := cm.count - 1
      activeConnections := cm.activeConnections - 1
      closedConnections := cm.closedConnections + 1
      registered := cm.registered_filter id } := by
  have haccount (b : ConnectionManager) :
      (if conn.accountID ≠ "" then b.removeAccountConnection conn.accountID id else b) = { b with
        accountConnections := if conn.accountID ≠ "" then
          dropAccount b.accountConnections conn.accountID id else b.accountConnections } := by
    split
    · exact removeAccountConnection_eq conn.accountID
    · rfl
  rw [removeConnection, h]
  -- field by field: a rewrite inside the whole record would have to carry `registered` along
  apply ConnectionManager.ext
  all_goals
    simp only [dropIndexes]
    rw [decrementIP_eq, haccount]
    rfl

theorem removeConnection_of_none (h : cm.getConnection id = none) :
    cm.removeConnection host id = cm := by
  rw [removeConnection, h]

/-! ## The table of registered connections -/

theorem getConnection_of_mem (h : j ∈ cm.connections) : cm.getConnection j = cm.objects j := by
  rw [getConnection, if_pos h]

theorem getConnection_of_not_mem (h : j ∉ cm.connections) : cm.getConnection j = none := by
  rw [getConnection, if_neg h]

theorem mem_connections_iff : j ∈ cm.connections ↔ ∃ conn, cm.getConnection j = some conn := by
  constructor
  · intro h
    obtain ⟨conn, hconn⟩ := Option.isSome_iff_exists.mp (cm.registered j h)
    exact ⟨conn, by rw [getConnection_of_mem h, hconn]⟩
  · rintro ⟨conn, hconn⟩
    by_contra h
    rw [getConnection_of_not_mem h] at hconn
    cases hconn

theorem getConnection_of_objects_none (h : cm.objects j = none) : cm.getConnection j = none := by
  unfold getConnection
  split
  · exact h
  · rfl

theorem not_mem_of_getConnection_none (h : cm.getConnection id = none) : id ∉ cm.connections := by
  intro hmem
  obtain ⟨conn, hconn⟩ := mem_connections_iff.mp hmem
  rw [h] at hconn
  cases hconn

/-! ### Opening and removing -/

variable {addr userUUID : String}

theorem objects_addConnection :
    (cm.addConnection host id addr userUUID).objects =
      cm.objects.store id { remoteAddr := addr, userUUID := userUUID } := by
  rw [addConnection, incrementIP_eq]

theorem getConnection_addConnection :
    (cm.addConnection host id addr userUUID).getConnection =
      store cm.getConnection id { remoteAddr := addr, userUUID := userUUID } := by
  funext j
  rw [addConnection, incrementIP_eq, store_apply]
  simp only [getConnection, List.mem_cons, store_apply]
  by_cases hj : j = id
  · rw [if_pos hj, if_pos (.inl hj), if_pos hj]
  · simp only [hj, false_or, if_false]

theorem objects_removeConnection : (cm.removeConnection host id).objects = cm.objects := by
  cases h : cm.getConnection id with
  | none => rw [removeConnection_of_none h]
  | some conn => rw [removeConnection_eq h]

theorem getConnection_removeConnection :
    (cm.removeConnection host id).getConnection = delete cm.getConnection id := by
  funext j
  rw [delete_apply]
  cases h : cm.getConnection id with
  | none =>
    rw [removeConnection_of_none h]
    split
    · subst j
      exact h
    · rfl
  | some conn =>
    rw [removeConnection_eq h]
    by_cases hj : j = id <;> simp [getConnection, hj]

/-! ### Writing to a connection -/

/-- A call that writes to the object of a registered connection, and to nothing if the connection is
not registered. -/
def WritesObject (cm cm' : ConnectionManager) (id : String) (f : Connection → Connection) : Prop :=
  cm'.objects = if id ∈ cm.connections then KeyMap.modify cm.objects id f else cm.objects

/-- Such a call registers and removes no connection. -/
structure Rewrites (cm cm' : ConnectionManager) (id : String) (f : Connection → Connection) :
    Prop where
  objects : cm.WritesObject cm' id f
  connections : cm'.connections = cm.connections
  count : cm'.count = cm.count

section

variable {f : Connection → Connection}

section

variable (h : cm.WritesObject cm' id f)
include h

theorem WritesObject.objects_eq (j : String) :
    cm'.objects j = (cm.objects j).map fun x => if j = id ∧ j ∈ cm.connections then f x else x := by
  rw [h]
  by_cases hwrites : j = id ∧ j ∈ cm.connections
  · obtain ⟨rfl, hmem⟩ := hwrites
    simp only [if_pos hmem, modify_apply, if_true, true_and]
  · simp only [if_neg hwrites, Option.map_id']
    split
    · rename_i hmem
      have hne : j ≠ id := by
        rintro rfl
        exact hwrites ⟨rfl, hmem⟩
      rw [modify_apply, if_neg hne]
    · rfl

theorem WritesObject.objects (hj : cm.objects j = some conn) :
    cm'.objects j = some (if j = id ∧ j ∈ cm.connections then f conn else conn) := by
  rw [h.objects_eq, hj]
  rfl

theorem WritesObject.objects_none (hj : cm.objects j = none) : cm'.objects j = none := by
  rw [h.objects_eq, hj]
  rfl

end

theorem Rewrites.getConnection (h : cm.Rewrites cm' id f) :
    cm'.getConnection = modify cm.getConnection id f := by
  funext j
  rw [modify_apply]
  by_cases hmem : j ∈ cm.connections
  · obtain ⟨conn, hconn⟩ := Option.isSome_iff_exists.mp (cm.registered j hmem)
    rw [getConnection_of_mem (h.connections ▸ hmem), getConnection_of_mem hmem,
      h.objects.objects hconn, hconn]
    by_cases hid : j = id
    · rw [if_pos ⟨hid, hmem⟩, if_pos hid]
      rfl
    · rw [if_neg (fun h => hid h.1), if_neg hid]
  · rw [getConnection_of_not_mem (h.connections ▸ hmem), getConnection_of_not_mem hmem]
    split <;> rfl

theorem rewrites_match {g : Connection → ConnectionManager}
    (hg : ∀ conn, cm.getConnection id = some conn →
      (g conn).objects = modify cm.objects id f ∧ (g conn).connections = cm.connections ∧
        (g conn).count = cm.count) :
    cm.Rewrites (match cm.getConnection id with | none => cm | some conn => g conn) id f := by
  cases h : cm.getConnection id with
  | none =>
    refine ⟨?_, rfl, rfl⟩
    rw [WritesObject, if_neg (not_mem_of_getConnection_none h)]
  | some conn =>
    obtain ⟨hobjects, hconnections, hcount⟩ := hg conn h
    refine ⟨?_, hconnections, hcount⟩
    rw [WritesObject, if_pos (mem_connections_iff.mpr ⟨conn, h⟩), hobjects]

theorem rewrites_same (id : String) (hobjects : cm'.objects = cm.objects)
    (hconnections : cm'.connections = cm.connections) (hcount : cm'.count = cm.count) :
    cm.Rewrites cm' id fun x => x := by
  refine ⟨?_, hconnections, hcount⟩
  have hid : modify cm.objects id (fun x => x) = cm.objects := by
    funext j
    rw [modify_apply]
    split
    · exact Option.map_id'
    · rfl
  rw [WritesObject, hid, ite_self, hobjects]

theorem Rewrites.ite (h : cm.Rewrites cm' id f) (p : Prop) [Decidable p] :
    cm.Rewrites (if p then cm else cm') id fun x => if p then x else f x := by
  by_cases hp : p
  · simp only [if_pos hp]
    exact rewrites_same id rfl rfl rfl
  · simpa only [if_neg hp] using h

end

theorem rewrites_setConnectionServerID (serverID : String) :
    cm.Rewrites (cm.setConnectionServerID id serverID) id
      fun x => { x with serverID := serverID } :=
  rewrites_match fun _ _ => ⟨rfl, rfl, rfl⟩

theorem rewrites_setConnectionAccountID (accountID : String) :
    cm.Rewrites (cm.setConnectionAccountID id accountID) id
      fun x => if accountID = "" then x else { x with accountID := accountID } := by
  refine .ite ?_ _
  exact rewrites_match fun _ _ => ⟨rfl, rfl, rfl⟩

theorem rewrites_setConnectionLoginKey (loginKey : String) :
    cm.Rewrites (cm.setConnectionLoginKey id loginKey) id
      fun x => if loginKey = "" then x else { x with loginKey := loginKey } := by
  refine .ite ?_ _
  exact rewrites_match fun _ _ => ⟨rfl, rfl, rfl⟩

theorem rewrites_setWS : cm.Rewrites (cm.setWS id) id fun x => { x with isWS := true } :=
  rewrites_match fun _ _ => ⟨rfl, rfl, rfl⟩

theorem rewrites_updateConnectionUserUUID (userUUID : String) :
    cm.Rewrites (cm.updateConnectionUserUUID id userUUID) id
      fun x => { x with userUUID := userUUID } :=
  rewrites_match fun _ _ => ⟨rfl, rfl, rfl⟩

theorem rewrites_updateConnectionIP (newIP : String) :
    cm.Rewrites (cm.updateConnectionIP id newIP) id fun x =>
      if newIP = "" ∨ x.remoteHostOf = newIP then x else x.setRemoteHost newIP := by
  refine rewrites_match fun conn h => ?_
  have hconn : cm.objects id = some conn := by
    rw [← getConnection_of_mem (mem_connections_iff.mpr ⟨conn, h⟩), h]
  by_cases hstays : newIP = "" ∨ conn.remoteHostOf = newIP
  · simp only [if_pos hstays]
    refine ⟨?_, trivial, trivial⟩
    funext j
    rw [modify_apply]
    split
    · subst j
      rw [hconn, Option.map_some, if_pos hstays]
    · rfl
  · simp only [if_neg hstays]
    rw [incrementIP_eq, decrementIP_eq]
    refine ⟨?_, rfl, rfl⟩
    funext j
    show modify cm.objects id (·.setRemoteHost newIP) j = _
    rw [modify_apply, modify_apply]
    split
    · subst j
      rw [hconn, Option.map_some, Option.map_some, if_neg hstays]
    · rfl

variable {op : Op}

section

variable (hs : cm.exec host op = some cm')
  (hadd : ∀ id addr userUUID, op ≠ .addConnection id addr userUUID)
  (hremove : ∀ id, op ≠ .removeConnection id)
include hs hadd hremove

/-- **The other operations** write to one connection at most, and neither register nor remove one. -/
theorem exec_rewrites : cm.Rewrites cm' op.target op.rewrite := by
  cases op <;> try cases hs
  case addConnection id addr userUUID => exact absurd rfl (hadd id addr userUUID)
  case removeConnection id => exact absurd rfl (hremove id)
  case setConnectionServerID => exact rewrites_setConnectionServerID _
  case setConnectionAccountID => exact rewrites_setConnectionAccountID _
  case setConnectionLoginKey => exact rewrites_setConnectionLoginKey _
  case updateConnectionUserUUID => exact rewrites_updateConnectionUserUUID _
  case updateConnectionIP => exact rewrites_updateConnectionIP _
  case createGroup =>
    refine rewrites_same _ ?_ ?_ ?_ <;> unfold createGroup <;> split <;> rfl
  case addUserToGroup => exact rewrites_same _ rfl rfl rfl
  case removeUserFromGroup =>
    refine rewrites_same _ ?_ ?_ ?_ <;> unfold removeUserFromGroup <;> split <;> rfl

/-- What they do not write to a connection stays as it is in the whole table. -/
theorem map_getConnection_exec {μ : Type} {p : Connection → μ} (hp : ∀ x, p (op.rewrite x) = p x) :
    map p cm'.getConnection = map p cm.getConnection := by
  rw [(exec_rewrites hs hadd hremove).getConnection]
  exact map_modify_same hp _ _

end

theorem exec_addConnection (hs : cm.exec host (.addConnection id addr userUUID) = some cm') :
    cm.objects id = none ∧ cm' = cm.addConnection host id addr userUUID := by
  simp only [exec] at hs
  split at hs
  · cases hs
  · rename_i hfresh
    exact ⟨Option.not_isSome_iff_eq_none.mp hfresh, (Option.some.inj hs).symm⟩

theorem isSome_objects_exec (hs : cm.exec host op = some cm') (hj : (cm.objects j).isSome) :
    (cm'.objects j).isSome := by
  cases op with
  | addConnection id addr userUUID =>
    rw [(exec_addConnection hs).2, objects_addConnection, store_apply]
    split
    · rfl
    · exact hj
  | removeConnection id =>
    cases hs
    rwa [objects_removeConnection]
  | _ =>
    obtain ⟨conn, hconn⟩ := Option.isSome_iff_exists.mp hj
    rw [(exec_rewrites hs (by simp) (by simp)).objects.objects hconn]
    rfl

end ConnectionManager

/-! ## The tables -/

/-- The registered connections, and the indexes whose agreement with them is in question. -/
structure Tables where
  live : KeyMap String Connection
  serverUsers : KeyMap ServerUserKey String
  accounts : KeyMap String (Finset String)
  groups : KeyMap String (Finset ServerUserKey)
  counts : String → ℕ

namespace Op

/-- The registered connections after an operation. -/
def live (m : KeyMap String Connection) : Op → KeyMap String Connection
  | .addConnection id addr userUUID => m.store id { remoteAddr := addr, userUUID := userUUID }
  | .removeConnection id => m.delete id
  | .setConnectionServerID id serverID => m.modify id fun c => { c with serverID := serverID }
  | .setConnectionAccountID id accountID =>
    if accountID = "" then m else m.modify id fun c => { c with accountID := accountID }
  | .setConnectionLoginKey id loginKey =>
    if loginKey = "" then m else m.modify id fun c => { c with loginKey := loginKey }
  | .updateConnectionUserUUID id userUUID => m.modify id fun c => { c with userUUID := userUUID }
  | .updateConnectionIP id newIP => m.modify id fun c =>
    if newIP = "" ∨ c.remoteHostOf = newIP then c else c.setRemoteHost newIP
  | _ => m

/-- The index of servers and users after an operation. -/
def serverUsers (live : KeyMap String Connection) (m : KeyMap ServerUserKey String) :
    Op → KeyMap ServerUserKey String
  | .removeConnection id =>
    match live id with
    | none => m
    | some c => m.delete c.identity
  | .updateConnectionUserUUID id userUUID =>
    match live id with
    | none => m
    | some c =>
      (if c.userUUID ≠ "" ∧ c.userUUID ≠ userUUID then m.deleteIf c.identity id else m).store
        (c.serverID, userUUID) id
  | _ => m

/-- The account index after an operation. -/
def accounts (live : KeyMap String Connection) (m : KeyMap String (Finset String)) :
    Op → KeyMap String (Finset String)
  | .removeConnection id =>
    match live id with
    | none => m
    | some c => if c.accountID ≠ "" then dropAccount m c.accountID id else m
  | .setConnectionAccountID id accountID =>
    if accountID = "" ∨ live id = none then m
    else m.store accountID (insert id ((m accountID).getD ∅))
  | _ => m

def groups (live : KeyMap String Connection) (m : KeyMap String (Finset ServerUserKey)) :
    Op → KeyMap String (Finset ServerUserKey)
  | .removeConnection id =>
    match live id with
    | none => m
    | some c => dropMember m c.identity
  | .createGroup groupID =>
    match m groupID with
    | none => m.store groupID ∅
    | some _ => m
  | .addUserToGroup groupID serverID userUUID =>
    m.store groupID (insert (serverID, userUUID) ((m groupID).getD ∅))
  | .removeUserFromGroup groupID serverID userUUID =>
    match m groupID with
    | none => m
    | some members =>
      if members.erase (serverID, userUUID) = ∅ then m.delete groupID
      else m.store groupID (members.erase (serverID, userUUID))
  | _ => m

/-- The connections per address after an operation. -/
def counts (host : String → String) (live : KeyMap String Connection) (m : String → ℕ) :
    Op → String → ℕ
  | .addConnection _ addr _ => countUp m (host addr)
  | .removeConnection id =>
    match live id with
    | none => m
    | some c => countDown m (host c.remoteAddr)
  | .updateConnectionIP id newIP =>
    match live id with
    | none => m
    | some c =>
      if newIP = "" ∨ c.remoteHostOf = newIP then m
      else countUp (countDown m c.remoteHostOf) newIP
  | _ => m

def apply (host : String → String) (t : Tables) (op : Op) : Tables where
  live := op.live t.live
  serverUsers := op.serverUsers t.live t.serverUsers
  accounts := op.accounts t.live t.accounts
  groups := op.groups t.live t.groups
  counts := op.counts host t.live t.counts

end Op

namespace ConnectionManager

variable {cm cm' : ConnectionManager} {host : String → String}

def tables (cm : ConnectionManager) : Tables where
  live := cm.getConnection
  serverUsers := cm.serverUserConnections
  accounts := cm.accountConnections
  groups := cm.groups
  counts := cm.ipConnections

theorem tables_removeConnection (id : String) :
    (cm.removeConnection host id).tables = (Op.removeConnection id).apply host cm.tables := by
  unfold tables Op.apply
  rw [getConnection_removeConnection]
  simp only [Op.live, Op.serverUsers, Op.accounts, Op.groups, Op.counts]
  cases h : cm.getConnection id with
  | none => rw [removeConnection_of_none h]
  | some conn =>
    rw [removeConnection_eq h]
    rfl

theorem tables_setConnectionServerID (id serverID : String) :
    (cm.setConnectionServerID id serverID).tables =
      (Op.setConnectionServerID id serverID).apply host cm.tables := by
  unfold tables Op.apply
  rw [(rewrites_setConnectionServerID serverID).getConnection]
  unfold setConnectionServerID
  split <;> rfl

theorem tables_setConnectionAccountID (id accountID : String) :
    (cm.setConnectionAccountID id accountID).tables =
      (Op.setConnectionAccountID id accountID).apply host cm.tables := by
  unfold tables Op.apply
  by_cases ha : accountID = ""
  · rw [setConnectionAccountID, if_pos ha]
    simp [Op.live, Op.serverUsers, Op.accounts, Op.groups, Op.counts, ha]
  · rw [(rewrites_setConnectionAccountID accountID).getConnection, setConnectionAccountID, if_neg ha]
    simp only [Op.live, Op.accounts, if_neg ha]
    cases h : cm.getConnection id with
    | none =>
      rw [if_pos (.inr rfl)]
      rfl
    | some conn =>
      rw [if_neg (by simp [ha])]
      rfl

theorem tables_setConnectionLoginKey (id loginKey : String) :
    (cm.setConnectionLoginKey id loginKey).tables =
      (Op.setConnectionLoginKey id loginKey).apply host cm.tables := by
  unfold tables Op.apply
  by_cases hk : loginKey = ""
  · rw [setConnectionLoginKey, if_pos hk]
    simp [Op.live, Op.serverUsers, Op.accounts, Op.groups, Op.counts, hk]
  · rw [(rewrites_setConnectionLoginKey loginKey).getConnection, setConnectionLoginKey, if_neg hk]
    simp only [Op.live, if_neg hk]
    split <;> rfl

theorem tables_updateConnectionUserUUID (id userUUID : String) :
    (cm.updateConnectionUserUUID id userUUID).tables =
      (Op.updateConnectionUserUUID id userUUID).apply host cm.tables := by
  unfold tables Op.apply
  rw [(rewrites_updateConnectionUserUUID userUUID).getConnection]
  simp only [Op.live, Op.serverUsers]
  unfold updateConnectionUserUUID
  cases h : cm.getConnection id <;> rfl

theorem tables_updateConnectionIP (id newIP : String) :
    (cm.updateConnectionIP id newIP).tables =
      (Op.updateConnectionIP id newIP).apply host cm.tables := by
  unfold tables Op.apply
  rw [(rewrites_updateConnectionIP newIP).getConnection]
  simp only [Op.live, Op.counts]
  unfold updateConnectionIP
  cases h : cm.getConnection id with
  | none => rfl
  | some conn =>
    simp only
    split
    · rfl
    · rw [incrementIP_eq, decrementIP_eq]
      rfl

/-- **The manager refines the tables.** -/
theorem tables_exec {op : Op} (h : cm.exec host op = some cm') :
    cm'.tables = op.apply host cm.tables := by
  cases op <;> try cases h
  case addConnection =>
    rw [(exec_addConnection h).2]
    unfold tables Op.apply
    rw [getConnection_addConnection, addConnection, incrementIP_eq]
    rfl
  case removeConnection => exact tables_removeConnection _
  case setConnectionServerID => exact tables_setConnectionServerID _ _
  case setConnectionAccountID => exact tables_setConnectionAccountID _ _
  case setConnectionLoginKey => exact tables_setConnectionLoginKey _ _
  case updateConnectionUserUUID => exact tables_updateConnectionUserUUID _ _
  case updateConnectionIP => exact tables_updateConnectionIP _ _
  case createGroup groupID =>
    unfold createGroup tables Op.apply
    simp only [Op.groups]
    cases cm.groups groupID <;> rfl
  case addUserToGroup => rfl
  case removeUserFromGroup groupID serverID userUUID =>
    unfold removeUserFromGroup tables Op.apply
    simp only [Op.groups]
    cases cm.groups groupID <;> rfl

end ConnectionManager

end Sgate
