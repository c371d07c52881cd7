import Sgate.Connection.Operations
import Sgate.Lib.OwnerIndex

/-! # The user index

`userConnections` names one connection for a user, who may have several. A `UserLedger` carries beside
the manager the connection that was given each user last; no operation reads it. -/

namespace Sgate

open Transition ConnectionManager KeyMap

namespace Op

/-- The user index after an operation. -/
def users (live : KeyMap String Connection) (m : KeyMap String String) : Op → KeyMap String String
  | .addConnection id _ userUUID => m.store userUUID id
  | .removeConnection id =>
    match live id with
    | none => m
    | some c => m.deleteIf c.userUUID id
  | .updateConnectionUserUUID id userUUID =>
    match live id with
    | none => m
    | some c => (m.deleteIf c.userUUID id).store userUUID id
  | _ => m

def userUUIDs (m : KeyMap String String) : Op → KeyMap String String
  | .addConnection id _ userUUID => m.store id userUUID
  | .removeConnection id => m.delete id
  | .updateConnectionUserUUID id userUUID => m.modify id fun _ => userUUID
  | _ => m

end Op

namespace ConnectionManager

variable {cm cm' : ConnectionManager} {host : String → String} {op : Op}

def userUUIDs (cm : ConnectionManager) : KeyMap String String :=
  KeyMap.map Connection.userUUID cm.getConnection

theorem userUUIDs_eq_some {c u : String} :
    cm.userUUIDs c = some u ↔ ∃ conn, cm.getConnection c = some conn ∧ conn.userUUID = u :=
  map_eq_some

theorem userUUIDs_of_none {c : String} (h : cm.getConnection c = none) : cm.userUUIDs c = none := by
  rw [userUUIDs, map, h]
  rfl

theorem userConnections_exec (hs : cm.exec host op = some cm') :
    cm'.userConnections = op.users cm.getConnection cm.userConnections := by
  cases op with
  | addConnection id addr userUUID =>
    rw [(exec_addConnection hs).2, addConnection, incrementIP_eq]
    rfl
  | removeConnection id =>
    cases hs
    simp only [Op.users]
    cases hconn : cm.getConnection id with
    | none => rw [removeConnection_of_none hconn]
    | some conn => rw [removeConnection_eq hconn]
  | updateConnectionUserUUID id userUUID =>
    cases hs
    simp only [Op.users]
    unfold updateConnectionUserUUID
    cases hconn : cm.getConnection id <;> rfl
  | updateConnectionIP id newIP =>
    cases hs
    unfold updateConnectionIP
    split
    · rfl
    · split
      · rfl
      · rw [incrementIP_eq, decrementIP_eq]
        rfl
  | _ =>
    cases hs
    simp only [setConnectionServerID, setConnectionAccountID, setConnectionLoginKey, createGroup,
      addUserToGroup, removeUserFromGroup]
    repeat' split
    all_goals rfl

theorem userUUIDs_exec (hs : cm.exec host op = some cm') :
    cm'.userUUIDs = op.userUUIDs cm.userUUIDs := by
  have hlive : cm'.getConnection = op.live cm.getConnection := congrArg Tables.live (tables_exec hs)
  unfold userUUIDs
  cases op with
  | addConnection id addr userUUID =>
    rw [hlive]
    exact map_store ..
  | removeConnection id =>
    rw [hlive]
    exact map_delete ..
  | updateConnectionUserUUID id userUUID =>
    rw [hlive]
    apply map_modify
    intro conn
    rfl
  | updateConnectionIP id newIP =>
    refine map_getConnection_exec hs (by simp) (by simp) fun x => ?_
    simp only [Op.rewrite]
    split <;> rfl
  | _ =>
    refine map_getConnection_exec hs (by simp) (by simp) fun x => ?_
    simp only [Op.rewrite] <;> (try split) <;> rfl

/-- Another user for a registered connection: the old entry goes if it is the connection's own. -/
theorem userConnections_updateConnectionUserUUID {c u : String} {conn : Connection}
    (hconn : cm.getConnection c = some conn) :
    (cm.updateConnectionUserUUID c u).userConnections =
      (cm.userConnections.deleteIf conn.userUUID c).store u c := by
  rw [updateConnectionUserUUID, hconn]

end ConnectionManager

/-! ## The ledger -/

structure UserLedger where
  manager : ConnectionManager
  lastGiven : KeyMap String String

namespace UserLedger

def new : UserLedger := ⟨.newConnectionManager, .empty⟩

/-- The last given connections after an operation: a new connection is given its first user, a
registered one another user. -/
def give (l : UserLedger) : Op → KeyMap String String
  | .addConnection id _ userUUID => l.lastGiven.store userUUID id
  | .updateConnectionUserUUID id userUUID =>
    match l.manager.getConnection id with
    | none => l.lastGiven
    | some _ => l.lastGiven.store userUUID id
  | _ => l.lastGiven

def exec (host : String → String) (l : UserLedger) (op : Op) : Option UserLedger :=
  (l.manager.exec host op).map fun cm => ⟨cm, l.give op⟩

/-- A registered connection has a user that was given to another connection after it. -/
def Superseded (l : UserLedger) (c u : String) : Prop :=
  (∃ conn, l.manager.getConnection c = some conn ∧ conn.userUUID = u) ∧
    ∃ d, l.lastGiven u = some d ∧ d ≠ c

/-- **The user index is right.** -/
structure UserIndexed (host : String → String) (l : UserLedger) : Prop where
  /-- An entry names a registered connection that has the user. -/
  holder : ∀ u c, l.manager.userConnections u = some c →
    ∃ conn, l.manager.getConnection c = some conn ∧ conn.userUUID = u
  /-- The connection that was given a user last is found as long as it is registered and has the
  user. -/
  found : ∀ u c conn, l.lastGiven u = some c → l.manager.getConnection c = some conn →
    conn.userUUID = u → l.manager.userConnections u = some c
  /-- A new connection is found under its user at once. -/
  added : ∀ c addr u cm, l.manager.exec host (.addConnection c addr u) = some cm →
    cm.userConnections u = some c
  /-- So is a registered connection under the user it is given. -/
  given : ∀ c conn u, l.manager.getConnection c = some conn →
    (l.manager.updateConnectionUserUUID c u).userConnections u = some c
  /-- The removal of a superseded connection leaves the entry of the user alone. -/
  removed : ∀ c u, l.Superseded c u →
    (l.manager.removeConnection host c).userConnections u = l.manager.userConnections u
  /-- So does another user for a superseded connection. -/
  renamed : ∀ c u v, l.Superseded c u → v ≠ u →
    (l.manager.updateConnectionUserUUID c v).userConnections u = l.manager.userConnections u

section

variable {host : String → String} {l l' : UserLedger} {op : Op}

/-- The user index of the ledger is an index that names owners. -/
def Right (l : UserLedger) : Prop :=
  KeyMap.Owned l.manager.userUUIDs l.manager.userConnections l.lastGiven

theorem Right.deleteIf_superseded (h : l.Right) {c u : String} (hsup : l.Superseded c u)
    (w : String) : l.manager.userConnections.deleteIf w c u = l.manager.userConnections u := by
  obtain ⟨-, d, hlast, hne⟩ := hsup
  rw [deleteIf_apply, if_neg]
  rintro ⟨rfl, hentry⟩
  exact h.ne_of_superseded hlast hne hentry

theorem Right.userIndexed (h : l.Right) : l.UserIndexed host where
  holder u c hu := userUUIDs_eq_some.mp (h.holder u c hu)
  found u c conn hlast hconn hu := h.found u c (userUUIDs_eq_some.mpr ⟨conn, hconn, hu⟩) hlast
  added c addr u cm hs := by
    rw [userConnections_exec hs]
    exact store_self ..
  given c conn u hconn := by
    rw [userConnections_updateConnectionUserUUID hconn, store_self]
  removed c u hsup := by
    obtain ⟨conn, hconn, -⟩ := hsup.1
    rw [removeConnection_eq hconn]
    exact h.deleteIf_superseded hsup conn.userUUID
  renamed c u v hsup hv := by
    obtain ⟨conn, hconn, -⟩ := hsup.1
    rw [userConnections_updateConnectionUserUUID hconn, store_of_ne _ _ (Ne.symm hv)]
    exact h.deleteIf_superseded hsup conn.userUUID

/-- **One operation** keeps the index right. -/
theorem Right.exec (h : l.Right) (hs : l.exec host op = some l') : l'.Right := by
  obtain ⟨cm, hcm, rfl⟩ := Option.map_eq_some_iff.mp hs
  have husers := userConnections_exec hcm
  have huuids := userUUIDs_exec hcm
  unfold Right
  rw [husers, huuids]
  cases op with
  | addConnection id addr userUUID =>
    have hnone : l.manager.userUUIDs id = none :=
      userUUIDs_of_none
        (getConnection_of_objects_none (exec_addConnection hcm).1)
    have hgive := KeyMap.Owned.give h id userUUID
    rwa [KeyMap.Owned.disown_of_none h hnone] at hgive
  | removeConnection id =>
    simp only [Op.users, Op.userUUIDs, give]
    have hdrop := KeyMap.Owned.drop h id
    cases hconn : l.manager.getConnection id with
    | none => rwa [KeyMap.Owned.disown_of_none h (userUUIDs_of_none hconn)] at hdrop
    | some conn =>
      have huser := userUUIDs_eq_some.mpr ⟨conn, hconn, rfl⟩
      rwa [KeyMap.Owned.disown_eq h huser] at hdrop
  | updateConnectionUserUUID id userUUID =>
    simp only [Op.users, Op.userUUIDs, give]
    cases hconn : l.manager.getConnection id with
    | none =>
      rw [KeyMap.modify_of_none _ (userUUIDs_of_none hconn)]
      exact h
    | some conn =>
      have huser := userUUIDs_eq_some.mpr ⟨conn, hconn, rfl⟩
      have hgive := KeyMap.Owned.give h id userUUID
      rw [KeyMap.Owned.disown_eq h huser] at hgive
      have hstore : l.manager.userUUIDs.modify id (fun _ => userUUID) =
          l.manager.userUUIDs.store id userUUID := by
        rw [KeyMap.modify, KeyMap.store, huser]
        rfl
      rwa [hstore]
  | _ => exact h

/-- **The user index is right** after every operation of a sequence. -/
theorem userIndexed_throughout (host : String → String) (ops : List Op) :
    Throughout (UserLedger.exec host) (UserIndexed host) new ops :=
  throughout_of_guarded (G := fun _ _ => True) (fun _ => Right.userIndexed)
    (fun _ _ _ h _ hs => Right.exec h hs) KeyMap.owned_empty
    (guarded_of_forall_mem fun _ _ _ => trivial)

end

end UserLedger

end Sgate
