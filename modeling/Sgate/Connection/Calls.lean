import Sgate.Connection.Operations
import Sgate.Lib.Interleaving

/-! # Calls of the manager, step by step

The calls of the connection manager as threads: every operation on a map, every counter and every
attribute of a connection is a step of its own. `removeMemberFromAllGroups` stays one step, as it holds
the lock of the groups. A call that runs alone does what the operation does: `alone_of_exec`. -/

namespace Sgate.ConnectionManager

open Interleaving

/-! ## Single writes -/

/-- `connections.Store` of a new connection object. -/
def storeConnection (cm : ConnectionManager) (id addr userUUID : String) : ConnectionManager :=
  { cm with
    objects := cm.objects.store id { remoteAddr := addr, userUUID := userUUID }
    connections := id :: cm.connections
    registered := cm.registered_store id addr userUUID }

/-- `connections.DeleteIf` of a registered connection. -/
def takeConnection (cm : ConnectionManager) (id : String) : ConnectionManager :=
  { cm with
    connections := cm.connections.filter (· ≠ id)
    registered := cm.registered_filter id }

/-! ## Calls -/

/-- The next step of `AddConnection`. -/
inductive AddPc
  | connections
  | users
  | count
  | total
  | active
  | ip
  | returned
  deriving DecidableEq

/-- The next step of `RemoveConnection`. -/
inductive RemovePc
  | load
  | take
  | users
  | account
  | accounts (accountID : String)
  | server
  | user (serverID : String)
  | serverUsers (key : ServerUserKey)
  | servers (key : ServerUserKey)
  | groups (key : ServerUserKey)
  | ip
  | count
  | active
  | closed
  | returned
  /-- The connection was not there, or another call had removed it. -/
  | missed
  deriving DecidableEq

/-- The next step of `SetConnectionServerID`. -/
inductive ServerPc
  | lookup
  | write
  | servers
  | returned
  deriving DecidableEq

/-- The next step of `SetConnectionAccountID`. -/
inductive AccountPc
  | lookup
  | write
  | accounts
  | returned
  deriving DecidableEq

/-- The next step of `UpdateConnectionUserUUID`. -/
inductive UserPc
  | lookup
  | old
  | write (oldUUID : String)
  | dropUser (oldUUID : String)
  | storeUser (oldUUID : String)
  | findOld (oldUUID : String)
  | dropOld (key : ServerUserKey)
  | storeServerUser
  | returned
  deriving DecidableEq

inductive Call
  | addConnection (id addr userUUID : String) (pc : AddPc)
  | removeConnection (id : String) (pc : RemovePc)
  | setConnectionServerID (id serverID : String) (pc : ServerPc)
  | setConnectionAccountID (id accountID : String) (pc : AccountPc)
  | updateConnectionUserUUID (id userUUID : String) (pc : UserPc)
  deriving DecidableEq

namespace Call

def isNew : Call → Bool
  | .addConnection _ _ _ pc => pc = .connections
  | .removeConnection _ pc => pc = .load
  | .setConnectionServerID _ _ pc => pc = .lookup
  | .setConnectionAccountID _ _ pc => pc = .lookup
  | .updateConnectionUserUUID _ _ pc => pc = .lookup

def isReturned : Call → Bool
  | .addConnection _ _ _ pc => pc = .returned
  | .removeConnection _ pc => pc = .returned || pc = .missed
  | .setConnectionServerID _ _ pc => pc = .returned
  | .setConnectionAccountID _ _ pc => pc = .returned
  | .updateConnectionUserUUID _ _ pc => pc = .returned

end Call

/-! ## Steps -/

section

variable (host : String → String) (cm : ConnectionManager)

/-- One step of `AddConnection`. The identifier it generates was never used before. -/
def stepAdd (id addr userUUID : String) : AddPc → Option (ConnectionManager × AddPc)
  | .connections =>
    if (cm.objects id).isSome then none else some (cm.storeConnection id addr userUUID, .users)
  | .users => some ({ cm with userConnections := cm.userConnections.store userUUID id }, .count)
  | .count => some ({ cm with count := cm.count + 1 }, .total)
  | .total => some ({ cm with totalConnections := cm.totalConnections + 1 }, .active)
  | .active => some ({ cm with activeConnections := cm.activeConnections + 1 }, .ip)
  | .ip => some (cm.incrementIP (host addr), .returned)
  | .returned => none

/-- One step of `RemoveConnection`. -/
def stepRemove (id : String) : RemovePc → Option (ConnectionManager × RemovePc)
  | .load => some (cm, if id ∈ cm.connections then .take else .missed)
  | .take => if id ∈ cm.connections then some (cm.takeConnection id, .users) else some (cm, .missed)
  | .users => (cm.objects id).map fun conn =>
    ({ cm with userConnections := cm.userConnections.deleteIf conn.userUUID id }, .account)
  | .account => (cm.objects id).map fun conn =>
    (cm, if conn.accountID ≠ "" then .accounts conn.accountID else .server)
  | .accounts accountID => some (cm.removeAccountConnection accountID id, .server)
  | .server => (cm.objects id).map fun conn => (cm, .user conn.serverID)
  | .user serverID => (cm.objects id).map fun conn => (cm, .serverUsers (serverID, conn.userUUID))
  | .serverUsers key => some ({ cm with
      serverUserConnections := cm.serverUserConnections.delete key },
      if key.1 ≠ "" then .servers key else .groups key)
  | .servers key => some ({ cm with serverConnections := cm.serverConnections.delete key.1 },
      .groups key)
  | .groups key => some (cm.removeMemberFromAllGroups key, .ip)
  | .ip => (cm.objects id).map fun conn => (cm.decrementIP (host conn.remoteAddr), .count)
  | .count => some ({ cm with count := cm.count - 1 }, .active)
  | .active => some ({ cm with activeConnections := cm.activeConnections - 1 }, .closed)
  | .closed => some ({ cm with closedConnections := cm.closedConnections + 1 }, .returned)
  | .returned | .missed => none

/-- One step of `SetConnectionServerID`. -/
def stepServer (id serverID : String) : ServerPc → Option (ConnectionManager × ServerPc)
  | .lookup => some (cm, if id ∈ cm.connections then .write else .returned)
  | .write => some (cm.modifyObject id fun c => { c with serverID := serverID }, .servers)
  | .servers => some ({ cm with serverConnections := cm.serverConnections.store serverID id },
      .returned)
  | .returned => none

/-- One step of `SetConnectionAccountID`. -/
def stepAccount (id accountID : String) : AccountPc → Option (ConnectionManager × AccountPc)
  | .lookup => some (cm, if accountID ≠ "" ∧ id ∈ cm.connections then .write else .returned)
  | .write => some (cm.modifyObject id fun c => { c with accountID := accountID }, .accounts)
  | .accounts => some ({ cm with
      accountConnections := cm.accountConnections.store accountID
        (insert id ((cm.accountConnections accountID).getD ∅)) }, .returned)
  | .returned => none

/-- One step of `UpdateConnectionUserUUID`. The entry of the old user is looked up and deleted in two
steps. -/
def stepUser (id userUUID : String) : UserPc → Option (ConnectionManager × UserPc)
  | .lookup => some (cm, if id ∈ cm.connections then .old else .returned)
  | .old => (cm.objects id).map fun conn => (cm, .write conn.userUUID)
  | .write oldUUID =>
    some (cm.modifyObject id fun c => { c with userUUID := userUUID }, .dropUser oldUUID)
  | .dropUser oldUUID => some ({ cm with
      userConnections := cm.userConnections.deleteIf oldUUID id }, .storeUser oldUUID)
  | .storeUser oldUUID => some ({ cm with
      userConnections := cm.userConnections.store userUUID id },
      if oldUUID ≠ "" ∧ oldUUID ≠ userUUID then .findOld oldUUID else .storeServerUser)
  | .findOld oldUUID => (cm.objects id).map fun conn =>
    (cm, if cm.serverUserConnections (conn.serverID, oldUUID) = some id then
      .dropOld (conn.serverID, oldUUID) else .storeServerUser)
  | .dropOld key => some ({ cm with
      serverUserConnections := cm.serverUserConnections.delete key }, .storeServerUser)
  | .storeServerUser => (cm.objects id).map fun conn => ({ cm with
      serverUserConnections := cm.serverUserConnections.store (conn.serverID, userUUID) id },
      .returned)
  | .returned => none

def stepCall : Call → Option (ConnectionManager × Call)
  | .addConnection id addr userUUID pc =>
    (cm.stepAdd host id addr userUUID pc).map fun r => (r.1, .addConnection id addr userUUID r.2)
  | .removeConnection id pc => (cm.stepRemove host id pc).map fun r => (r.1, .removeConnection id r.2)
  | .setConnectionServerID id serverID pc =>
    (cm.stepServer id serverID pc).map fun r => (r.1, .setConnectionServerID id serverID r.2)
  | .setConnectionAccountID id accountID pc =>
    (cm.stepAccount id accountID pc).map fun r => (r.1, .setConnectionAccountID id accountID r.2)
  | .updateConnectionUserUUID id userUUID pc =>
    (cm.stepUser id userUUID pc).map fun r => (r.1, .updateConnectionUserUUID id userUUID r.2)

end

def calls (host : String → String) : Program ConnectionManager Call Unit where
  start cm t := if t.isNew then some cm else none
  step cm t _ := (cm.stepCall host t).map fun r => (r.1, r.2, [])

def noCalls : World ConnectionManager Call := ⟨newConnectionManager, []⟩

def Quiet (w : World ConnectionManager Call) : Prop := ∀ t ∈ w.threads, t.isReturned
  deriving Decidable

theorem calls_exec_cases {host : String → String} {w w' : World ConnectionManager Call}
    {a : Action Call Unit} (h : (calls host).exec w a = some w') :
    (∃ t, a = .start t ∧ t.isNew ∧ w' = ⟨w.shared, w.threads ++ [t]⟩) ∨
    (∃ i t cm t', a = .step i () ∧ w.threads[i]? = some t ∧ w.shared.stepCall host t = some (cm, t') ∧
      w' = ⟨cm, w.threads.set i t'⟩) := by
  obtain ⟨t, cm, rfl, hs, rfl⟩ | ⟨i, x, t, cm, t', new, rfl, ht, hs, rfl⟩ := Program.exec_cases h
  · obtain ⟨hnew, hs⟩ := Option.ite_none_right_eq_some.mp hs
    cases hs
    exact .inl ⟨t, rfl, hnew, rfl⟩
  · obtain ⟨r, hr, heq⟩ := Option.map_eq_some_iff.mp hs
    cases heq
    exact .inr ⟨i, t, r.1, r.2, rfl, ht, hr, by rw [List.append_nil]⟩

/-! ## A call that runs alone -/

/-- Let a call make at most `n` steps. -/
def alone (host : String → String) (cm : ConnectionManager) : ℕ → Call → ConnectionManager
  | 0, _ => cm
  | n + 1, t =>
    match cm.stepCall host t with
    | none => cm
    | some (cm', t') => alone host cm' n t'

/-- The call of an operation, for the operations that are split into steps. -/
def Call.ofOp : Op → Option Call
  | .addConnection id addr userUUID => some (.addConnection id addr userUUID .connections)
  | .removeConnection id => some (.removeConnection id .load)
  | .setConnectionServerID id serverID => some (.setConnectionServerID id serverID .lookup)
  | .setConnectionAccountID id accountID => some (.setConnectionAccountID id accountID .lookup)
  | .updateConnectionUserUUID id userUUID => some (.updateConnectionUserUUID id userUUID .lookup)
  | _ => none

section

variable {host : String → String} {cm cm' : ConnectionManager} {id : String} {conn : Connection}

theorem alone_removeConnection (hmem : id ∈ cm.connections) (hobject : cm.objects id = some conn) :
    cm.alone host 15 (.removeConnection id .load) = cm.removeConnection host id := by
  have hconn : cm.getConnection id = some conn := by rw [getConnection_of_mem hmem, hobject]
  rw [removeConnection_eq hconn]
  -- the entries of the account and of the logic server are skipped if there are none
  by_cases haccount : conn.accountID = "" <;> by_cases hserver : conn.serverID = "" <;>
    simp only [alone, stepCall, stepRemove, hmem, hobject, haccount, hserver, takeConnection,
      removeAccountConnection_eq, removeMemberFromAllGroups, decrementIP_eq, Option.map_some, ne_eq,
      not_true_eq_false, not_false_eq_true, if_true, if_false] <;>
    rfl

theorem alone_updateConnectionUserUUID {userUUID : String} (hmem : id ∈ cm.connections)
    (hobject : cm.objects id = some conn) :
    cm.alone host 15 (.updateConnectionUserUUID id userUUID .lookup) =
      cm.updateConnectionUserUUID id userUUID := by
  have hwritten (f : Connection → Connection) :
      (cm.modifyObject id f).objects id = some (f conn) := by
    simp [modifyObject, hobject]
  have hindex (f : Connection → Connection) :
      (cm.modifyObject id f).serverUserConnections = cm.serverUserConnections := rfl
  rw [updateConnectionUserUUID, getConnection_of_mem hmem, hobject]
  by_cases hclears : conn.userUUID ≠ "" ∧ conn.userUUID ≠ userUUID
  · -- the old entry is deleted only if it is found to be the connection's
    by_cases hentry : cm.serverUserConnections (conn.serverID, conn.userUUID) = some id <;>
      simp only [alone, stepCall, stepUser, hmem, hobject, hwritten, if_pos hclears, KeyMap.deleteIf,
        hindex, hentry, Option.map_some, if_true, if_false] <;>
      rfl
  · simp only [alone, stepCall, stepUser, hmem, hobject, hwritten, if_neg hclears, Option.map_some,
      if_true]
    rfl

/-- **A call that runs alone** does what the operation does. -/
theorem alone_of_exec {op : Op} {t : Call} (ht : Call.ofOp op = some t)
    (hs : cm.exec host op = some cm') : cm.alone host 15 t = cm' := by
  cases op with
  | addConnection id addr userUUID =>
    cases ht
    obtain ⟨hfresh, rfl⟩ := exec_addConnection hs
    simp only [alone, stepCall, stepAdd, hfresh]
    rfl
  | removeConnection id =>
    cases ht
    cases hs
    by_cases hmem : id ∈ cm.connections
    · obtain ⟨conn, hobject⟩ := Option.isSome_iff_exists.mp (cm.registered id hmem)
      exact alone_removeConnection hmem hobject
    · rw [removeConnection_of_none (getConnection_of_not_mem hmem)]
      simp [alone, stepCall, stepRemove, hmem]
  | setConnectionServerID id serverID =>
    cases ht
    cases hs
    unfold setConnectionServerID
    by_cases hmem : id ∈ cm.connections
    · obtain ⟨conn, hobject⟩ := Option.isSome_iff_exists.mp (cm.registered id hmem)
      rw [getConnection_of_mem hmem, hobject]
      simp only [alone, stepCall, stepServer, hmem, Option.map_some, if_true]
      rfl
    · rw [getConnection_of_not_mem hmem]
      simp [alone, stepCall, stepServer, hmem]
  | setConnectionAccountID id accountID =>
    cases ht
    cases hs
    unfold setConnectionAccountID
    by_cases haccount : accountID = ""
    · simp [alone, stepCall, stepAccount, haccount]
    · by_cases hmem : id ∈ cm.connections
      · obtain ⟨conn, hobject⟩ := Option.isSome_iff_exists.mp (cm.registered id hmem)
        rw [if_neg haccount, getConnection_of_mem hmem, hobject]
        simp only [alone, stepCall, stepAccount, haccount, hmem, Option.map_some, ne_eq,
          not_false_eq_true, and_self, if_true]
        rfl
      · rw [if_neg haccount, getConnection_of_not_mem hmem]
        simp [alone, stepCall, stepAccount, hmem]
  | updateConnectionUserUUID id userUUID =>
    cases ht
    cases hs
    by_cases hmem : id ∈ cm.connections
    · obtain ⟨conn, hobject⟩ := Option.isSome_iff_exists.mp (cm.registered id hmem)
      exact alone_updateConnectionUserUUID hmem hobject
    · rw [updateConnectionUserUUID, getConnection_of_not_mem hmem]
      simp [alone, stepCall, stepUser, hmem]
  | _ => cases ht

end

theorem alone_of_exec_removed :
    let cm := newConnectionManager.addConnection id "c" "10.0.0.1" "u"
    cm.alone id 15 (.removeConnection "c" .load) = cm.removeConnection id "c" :=
  @alone_of_exec id _ _ (.removeConnection "c") _ rfl rfl

end Sgate.ConnectionManager
