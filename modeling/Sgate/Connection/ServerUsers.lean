import Sgate.Connection.Operations
import Sgate.Lib.OwnerIndex

/-! # The index of logic servers and users

Group pushes find their connections through `serverUserConnections`. A `Ledger` carries beside the
manager the connection that was bound to each pair last; no operation reads it.
`SetConnectionServerID` does not touch the index, and `RemoveConnection` does not look whose entry it is. -/

namespace Sgate

open Transition ConnectionManager KeyMap

/-! ## The ledger -/

/-- A manager, and for every pair the connection that `UpdateConnectionUserUUID` bound to it last. -/
structure Ledger where
  manager : ConnectionManager
  lastBound : KeyMap ServerUserKey String

namespace Ledger

def new : Ledger := ⟨.newConnectionManager, .empty⟩

def bind (l : Ledger) : Op → KeyMap ServerUserKey String
  | .updateConnectionUserUUID id userUUID =>
    match l.manager.getConnection id with
    | none => l.lastBound
    | some c => l.lastBound.store (c.serverID, userUUID) id
  | _ => l.lastBound

def exec (host : String → String) (l : Ledger) (op : Op) : Option Ledger :=
  (l.manager.exec host op).map fun cm => ⟨cm, l.bind op⟩

/-- **The index is right.** -/
structure ServerUserIndexed (l : Ledger) : Prop where
  /-- An entry names a registered connection that has the pair. -/
  holder : ∀ k c, l.manager.serverUserConnections k = some c →
    ∃ conn, l.manager.getConnection c = some conn ∧ conn.serverID = k.1 ∧ conn.userUUID = k.2
  /-- A registered connection that was bound to its pair last is found under it. -/
  found : ∀ c conn, l.manager.getConnection c = some conn →
    l.lastBound (conn.serverID, conn.userUUID) = some c →
    l.manager.serverUserConnections (conn.serverID, conn.userUUID) = some c
  /-- A push to a group goes exactly to the connections that hold the identity of a member. -/
  pushed : ∀ g members, l.manager.groups g = some members → ∀ c,
    c ∈ l.manager.getGroupSessions g ↔ ∃ conn, l.manager.getConnection c = some conn ∧
      (conn.serverID, conn.userUUID) ∈ members ∧
      l.lastBound (conn.serverID, conn.userUUID) = some c

/-- The condition under which an operation keeps the index right. -/
def IndexGuard (l : Ledger) : Op → Prop
  -- another server only while the index does not hold the old pair for the connection, and the
  -- connection is not the last one bound to the pair it gets
  | .setConnectionServerID c serverID => ∀ conn, l.manager.getConnection c = some conn →
      conn.serverID ≠ serverID → l.manager.serverUserConnections conn.identity ≠ some c ∧
          l.lastBound (serverID, conn.userUUID) ≠ some c
  -- an empty user is replaced only while the index does not hold it for the connection
  | .updateConnectionUserUUID c userUUID => ∀ conn, l.manager.getConnection c = some conn →
      conn.userUUID = "" → userUUID ≠ "" → l.manager.serverUserConnections conn.identity ≠ some c
  -- a connection is removed only while the entry of its pair is not another connection's
  | .removeConnection c => ∀ conn, l.manager.getConnection c = some conn →
      ∀ d, l.manager.serverUserConnections conn.identity = some d → d = c
  | _ => True

/-! ## The invariant -/

/-- The pairs of the registered connections. -/
def identity (l : Ledger) : KeyMap String ServerUserKey :=
  KeyMap.map Connection.identity l.manager.getConnection

/-- What holds of the tables; besides what the index promises, an entry is always the last bound
connection of its pair, and only opened connections were ever bound. -/
structure Right (l : Ledger) : Prop where
  holder : ∀ k c, l.manager.serverUserConnections k = some c → l.identity c = some k
  found : ∀ k c, l.identity c = some k → l.lastBound k = some c →
    l.manager.serverUserConnections k = some c
  latest : ∀ k c, l.manager.serverUserConnections k = some c → l.lastBound k = some c
  opened : ∀ k c, l.lastBound k = some c → (l.manager.objects c).isSome

section

variable {host : String → String} {l l' : Ledger} {op : Op} {c d : String} {conn : Connection}
  {k : ServerUserKey}

theorem identity_eq_some : l.identity c = some k ↔
    ∃ conn, l.manager.getConnection c = some conn ∧ conn.identity = k := map_eq_some

theorem identity_of_getConnection (h : l.manager.getConnection c = some conn) :
    l.identity c = some conn.identity := identity_eq_some.mpr ⟨conn, h, rfl⟩

theorem identity_of_none (h : l.manager.getConnection c = none) : l.identity c = none := by
  rw [identity, map, h]
  rfl

theorem Right.indexed (h : l.Right) : l.ServerUserIndexed where
  holder k c hk := by
    obtain ⟨conn, hconn, rfl⟩ := identity_eq_some.mp (h.holder k c hk)
    exact ⟨conn, hconn, rfl, rfl⟩
  found c conn hconn hlast := h.found _ c (identity_of_getConnection hconn) hlast
  pushed g members hg c := by
    rw [getGroupSessions, hg, Multiset.mem_filterMap]
    constructor
    · rintro ⟨k, hk, hindex⟩
      obtain ⟨conn, hconn, rfl⟩ := identity_eq_some.mp (h.holder k c hindex)
      exact ⟨conn, hconn, hk, h.latest _ c hindex⟩
    · rintro ⟨conn, hconn, hmember, hlast⟩
      exact ⟨_, hmember, h.found _ c (identity_of_getConnection hconn) hlast⟩

section

variable (h : l.exec host op = some l')
include h

theorem exec_eq_some :
    l.manager.exec host op = some l'.manager ∧ l'.lastBound = l.bind op ∧
      l'.manager.tables = op.apply host l.manager.tables := by
  obtain ⟨cm, hcm, rfl⟩ := Option.map_eq_some_iff.mp h
  exact ⟨hcm, rfl, tables_exec hcm⟩

theorem identity_exec :
    l'.identity = map Connection.identity (op.live l.manager.getConnection) := by
  have hlive := congrArg Tables.live (exec_eq_some h).2.2
  exact congrArg (map Connection.identity) hlive

theorem serverUserConnections_exec :
    l'.manager.serverUserConnections =
      op.serverUsers l.manager.getConnection l.manager.serverUserConnections :=
  congrArg Tables.serverUsers (exec_eq_some h).2.2

end

/-! ## One operation -/

variable {id serverID userUUID : String}

section

variable (h : l.Right)
include h

theorem Right.opened_exec (hs : l.exec host op = some l') (hk : l.lastBound k = some c) :
    (l'.manager.objects c).isSome :=
  isSome_objects_exec (exec_eq_some hs).1 (h.opened k c hk)

theorem Right.owned : KeyMap.Owned l.identity l.manager.serverUserConnections l.lastBound :=
  { h with }

theorem Right.of_owned (hs : l.exec host op = some l') (hlast : l'.lastBound = l.lastBound)
    (ho : KeyMap.Owned l'.identity l'.manager.serverUserConnections l.lastBound) : l'.Right := by
  rw [← hlast] at ho
  exact { ho with opened := fun k c hk => h.opened_exec hs (hlast ▸ hk) }

theorem Right.same (hs : l.exec host op = some l') (hid : l'.identity = l.identity)
    (hindex : l'.manager.serverUserConnections = l.manager.serverUserConnections)
    (hlast : l'.lastBound = l.lastBound) : l'.Right := by
  refine h.of_owned hs hlast ?_
  rw [hid, hindex]
  exact h.owned

theorem Right.addConnection {id addr userUUID : String}
    (hs : l.exec host (.addConnection id addr userUUID) = some l') : l'.Right := by
  have hnew (k : ServerUserKey) : l.lastBound k ≠ some id := by
    intro hl
    have hopened := h.opened k id hl
    rw [(exec_addConnection (exec_eq_some hs).1).1] at hopened
    cases hopened
  have hid : l'.identity = l.identity.store id ("", userUUID) := by
    rw [identity_exec hs]
    exact map_store ..
  refine h.of_owned hs (exec_eq_some hs).2.1 ?_
  rw [hid, serverUserConnections_exec hs]
  exact h.owned.rekey (fun d hd => store_of_ne _ _ hd) (fun k hk => hnew k (h.latest k id hk))
    fun k _ => hnew k

theorem Right.removeConnection (hg : l.IndexGuard (.removeConnection id))
    (hs : l.exec host (.removeConnection id) = some l') : l'.Right := by
  have hid : l'.identity = l.identity.delete id := by
    rw [identity_exec hs]
    exact map_delete ..
  have hindex := serverUserConnections_exec hs
  refine h.of_owned hs (exec_eq_some hs).2.1 ?_
  rw [hid, hindex]
  have hdrop := h.owned.drop id
  simp only [Op.serverUsers]
  cases hconn : l.manager.getConnection id with
  | none => rwa [h.owned.disown_of_none (identity_of_none hconn)] at hdrop
  | some conn =>
    -- the entry of the removed pair was the connection's own
    rwa [h.owned.disown_eq (identity_of_getConnection hconn),
      ← delete_eq_deleteIf (hg conn hconn)] at hdrop

theorem Right.setConnectionServerID (hg : l.IndexGuard (.setConnectionServerID id serverID))
    (hs : l.exec host (.setConnectionServerID id serverID) = some l') : l'.Right := by
  have hid : l'.identity = l.identity.modify id fun k => (serverID, k.2) := by
    rw [identity_exec hs]
    apply map_modify
    intro conn
    rfl
  have hindex := serverUserConnections_exec hs
  have hlast : l'.lastBound = l.lastBound := (exec_eq_some hs).2.1
  cases hconn : l.manager.getConnection id with
  | none => exact h.same hs (by rw [hid, modify_of_none _ (identity_of_none hconn)]) hindex hlast
  | some conn =>
    have hidentity := identity_of_getConnection hconn
    have hnew : l'.identity id = some (serverID, conn.userUUID) := by
      rw [hid, modify_apply, if_pos rfl, hidentity]
      rfl
    have hother (d : String) (hd : d ≠ id) : l'.identity d = l.identity d := by
      rw [hid, modify_apply, if_neg hd]
    by_cases hserver : conn.serverID = serverID
    · refine h.same hs (funext fun d => ?_) hindex hlast
      by_cases hd : d = id
      · rw [hd, hnew, hidentity, Connection.identity, hserver]
      · exact hother d hd
    · obtain ⟨hindexNe, hlastNe⟩ := hg conn hconn hserver
      refine h.of_owned hs hlast ?_
      rw [hindex]
      refine h.owned.rekey hother (fun k hk => ?_) fun k hk hl => ?_
      · have hheld := h.holder k id hk
        rw [hidentity] at hheld
        exact hindexNe (Option.some.inj hheld ▸ hk)
      · rw [hnew] at hk
        exact hlastNe (Option.some.inj hk ▸ hl)

/-- What `UpdateConnectionUserUUID` clears, up to the entry it writes: the connection's own entry. -/
theorem Right.cleared_eq (hg : l.IndexGuard (.updateConnectionUserUUID id userUUID))
    (hconn : l.manager.getConnection id = some conn) :
    (if conn.userUUID ≠ "" ∧ conn.userUUID ≠ userUUID then
        l.manager.serverUserConnections.deleteIf conn.identity id
      else l.manager.serverUserConnections).store (conn.serverID, userUUID) id =
    (l.manager.serverUserConnections.disown id).store (conn.serverID, userUUID) id := by
  rw [h.owned.disown_eq (identity_of_getConnection hconn)]
  split
  · rfl
  · rename_i hkept
    funext k
    rw [store_apply, store_apply, deleteIf_apply]
    split
    · rfl
    · rename_i hne
      rw [if_neg]
      rintro ⟨rfl, hheld⟩
      -- an entry that is not cleared is that of an empty user, or is written again
      have hother : conn.userUUID ≠ userUUID := by
        rintro rfl
        exact hne rfl
      have hempty : conn.userUUID = "" := by
        by_contra hn
        exact hkept ⟨hn, hother⟩
      exact hg conn hconn hempty (fun h' => hother (hempty.trans h'.symm)) hheld

theorem Right.updateConnectionUserUUID (hg : l.IndexGuard (.updateConnectionUserUUID id userUUID))
    (hs : l.exec host (.updateConnectionUserUUID id userUUID) = some l') : l'.Right := by
  have hid : l'.identity = l.identity.modify id fun k => (k.1, userUUID) := by
    rw [identity_exec hs]
    apply KeyMap.map_modify
    intro conn
    rfl
  have hindex := serverUserConnections_exec hs
  have hlast : l'.lastBound = l.bind (.updateConnectionUserUUID id userUUID) :=
    (exec_eq_some hs).2.1
  simp only [Op.serverUsers] at hindex
  simp only [bind] at hlast
  cases hconn : l.manager.getConnection id with
  | none =>
    rw [hconn] at hindex hlast
    exact h.same hs (by rw [hid, KeyMap.modify_of_none _ (identity_of_none hconn)]) hindex hlast
  | some conn =>
    rw [hconn] at hindex hlast
    have hstore : l'.identity = l.identity.store id (conn.serverID, userUUID) := by
      rw [hid, KeyMap.modify, KeyMap.store, identity_of_getConnection hconn]
      rfl
    have ho := h.owned.give id (conn.serverID, userUUID)
    rw [← h.cleared_eq hg hconn, ← hstore] at ho
    have ho' : KeyMap.Owned l'.identity l'.manager.serverUserConnections l'.lastBound := by
      rw [hindex, hlast]
      exact ho
    refine { ho' with opened := ?_ }
    rw [hlast]
    refine KeyMap.forall_store ?_ fun k c _ hk => h.opened_exec hs hk
    refine isSome_objects_exec (exec_eq_some hs).1 ?_
    exact l.manager.registered _ (mem_connections_iff.mpr ⟨conn, hconn⟩)

theorem Right.others (hs : l.exec host op = some l')
    (hadd : ∀ id addr userUUID, op ≠ .addConnection id addr userUUID)
    (hremove : ∀ id, op ≠ .removeConnection id) (hop : ∀ x, (op.rewrite x).identity = x.identity)
    (hindex : op.serverUsers l.manager.getConnection l.manager.serverUserConnections = l.manager.serverUserConnections)
    (hlast : l.bind op = l.lastBound) : l'.Right := by
  refine h.same hs ?_ ((serverUserConnections_exec hs).trans hindex)
    ((exec_eq_some hs).2.1.trans hlast)
  exact map_getConnection_exec (exec_eq_some hs).1 hadd hremove hop

/-- **One operation.** -/
theorem Right.exec (hg : l.IndexGuard op) (hs : l.exec host op = some l') : l'.Right := by
  cases op with
  | addConnection id addr userUUID => exact h.addConnection hs
  | removeConnection id => exact h.removeConnection hg hs
  | setConnectionServerID id serverID => exact h.setConnectionServerID hg hs
  | updateConnectionUserUUID id userUUID => exact h.updateConnectionUserUUID hg hs
  | setConnectionAccountID _ _ | setConnectionLoginKey _ _ | updateConnectionIP _ _ =>
    refine h.others hs (by simp) (by simp) (fun x => ?_) rfl rfl
    simp only [Op.rewrite]
    split <;> rfl
  | _ => exact h.others hs (by simp) (by simp) (fun _ => rfl) rfl rfl

end

theorem right_new : new.Right := by
  constructor <;> intro k c h <;> cases h

/-! ## The calls that break the index -/

theorem Right.not_indexed_setConnectionServerID (h : l.Right)
    (hg : ¬ l.IndexGuard (.setConnectionServerID id serverID)) :
    ∃ l', l.exec host (.setConnectionServerID id serverID) = some l' ∧ ¬ l'.ServerUserIndexed := by
  simp only [IndexGuard, not_forall] at hg
  obtain ⟨conn, hconn, hserver, hheld⟩ := hg
  refine ⟨_, rfl, fun hi => ?_⟩
  have hlive : (l.manager.setConnectionServerID id serverID).getConnection id =
      some { conn with serverID := serverID } := by
    rw [(ConnectionManager.rewrites_setConnectionServerID serverID).getConnection,
      modify_apply, if_pos rfl, hconn, Option.map_some]
  have hindex : (l.manager.setConnectionServerID id serverID).serverUserConnections =
      l.manager.serverUserConnections := by
    rw [ConnectionManager.setConnectionServerID, hconn]
    rfl
  by_cases hold : l.manager.serverUserConnections conn.identity = some id
  · -- the entry of the old pair is left behind
    obtain ⟨conn', hconn', hs', -⟩ := hi.holder conn.identity id (by
      rw [← hold]
      exact congrFun hindex conn.identity)
    rw [hlive] at hconn'
    cases hconn'
    exact hserver hs'.symm
  · -- the connection comes back to a pair it was bound to, and is not found there
    have hbound : l.lastBound (serverID, conn.userUUID) = some id := by
      by_contra hne
      exact hheld ⟨hold, hne⟩
    have hfound := hi.found id _ hlive hbound
    have hkc : l.manager.serverUserConnections (serverID, conn.userUUID) = some id := by
      rw [← hfound]
      exact (congrFun hindex (serverID, conn.userUUID)).symm
    have hc := h.holder _ _ hkc
    rw [identity_of_getConnection hconn] at hc
    exact hserver (congrArg Prod.fst (Option.some.inj hc))

theorem not_indexed_updateConnectionUserUUID
    (hg : ¬ l.IndexGuard (.updateConnectionUserUUID id userUUID)) :
    ∃ l', l.exec host (.updateConnectionUserUUID id userUUID) = some l' ∧ ¬ l'.ServerUserIndexed := by
  simp only [IndexGuard, not_forall, not_not] at hg
  obtain ⟨conn, hconn, hempty, huser, hheld⟩ := hg
  refine ⟨_, rfl, fun hi => ?_⟩
  have hlive : (l.manager.updateConnectionUserUUID id userUUID).getConnection id =
      some { conn with userUUID := userUUID } := by
    rw [(rewrites_updateConnectionUserUUID userUUID).getConnection,
      modify_apply, if_pos rfl, hconn, Option.map_some]
  have htables : (l.manager.updateConnectionUserUUID id userUUID).tables =
      (Op.updateConnectionUserUUID id userUUID).apply host l.manager.tables :=
    tables_updateConnectionUserUUID id userUUID
  have hkept : (l.manager.updateConnectionUserUUID id userUUID).serverUserConnections
      conn.identity = some id := by
    refine (congrFun (congrArg Tables.serverUsers htables) _).trans ?_
    simp only [Op.apply, tables, Op.serverUsers, hconn]
    rw [if_neg (by simp [hempty]), store_of_ne, hheld]
    intro hk
    have hu : conn.userUUID = userUUID := congrArg Prod.snd hk
    exact huser (hu ▸ hempty)
  obtain ⟨conn', hconn', -, hu'⟩ := hi.holder _ _ hkept
  rw [hlive] at hconn'
  cases hconn'
  exact huser (hu'.trans hempty)

theorem Right.not_indexed_removeConnection (h : l.Right)
    (hg : ¬ l.IndexGuard (.removeConnection id)) :
    ∃ l', l.exec host (.removeConnection id) = some l' ∧ ¬ l'.ServerUserIndexed := by
  simp only [IndexGuard, not_forall] at hg
  obtain ⟨conn, hconn, d, hheld, hne⟩ := hg
  refine ⟨_, rfl, fun hi => ?_⟩
  -- the other connection stays, without its entry
  obtain ⟨other, hother, hidentity⟩ := identity_eq_some.mp (h.holder _ _ hheld)
  have hlive : (l.manager.removeConnection host id).getConnection d = some other := by
    rw [getConnection_removeConnection, delete_of_ne _ hne, hother]
  have hfound := hi.found d other hlive (by
    have hlast := h.latest _ _ hheld
    rw [← hidentity] at hlast
    exact hlast)
  have hnone : (l.manager.removeConnection host id).serverUserConnections other.identity =
      none := by
    rw [removeConnection_eq hconn, hidentity]
    exact delete_self ..
  cases hnone.symm.trans hfound

theorem Right.not_indexed (h : l.Right) (hg : ¬ l.IndexGuard op) :
    ∃ l', l.exec host op = some l' ∧ ¬ l'.ServerUserIndexed := by
  cases op with
  | setConnectionServerID id serverID => exact h.not_indexed_setConnectionServerID hg
  | updateConnectionUserUUID id userUUID => exact not_indexed_updateConnectionUserUUID hg
  | removeConnection id => exact h.not_indexed_removeConnection hg
  | _ => exact absurd trivial hg

end

/-- **The index of servers and users, exactly.** For every sequence of operations, the index is right
after each of them iff every operation meets `IndexGuard`. -/
theorem serverUserIndexed_iff (host : String → String) (ops : List Op) :
    Throughout (Ledger.exec host) ServerUserIndexed new ops ↔
      Guarded (Ledger.exec host) IndexGuard new ops :=
  throughout_iff_guarded (J := Right) (fun _ h => h.indexed) (fun _ _ _ h hg hs => h.exec hg hs)
    (fun _ _ h hg => h.not_indexed hg) right_new

/-- Two connections of one user, of which the older one is removed after the newer one took over. -/
def takeover : List Op :=
  [.addConnection "c" "10.0.0.1:1" "temp_1", .setConnectionServerID "c" "s",
    .updateConnectionUserUUID "c" "u", .addConnection "d" "10.0.0.1:2" "temp_2",
    .setConnectionServerID "d" "s", .updateConnectionUserUUID "d" "u", .removeConnection "c"]

/-- The removal of the replaced connection takes the entry of the live one: it is registered, was
bound to its pair last, and is not found. -/
theorem takeover_loses_entry : ¬ Throughout (Ledger.exec id) ServerUserIndexed new takeover := by
  intro h
  obtain ⟨l, hrun, hconn, hlast, hnone⟩ : ∃ l, run (Ledger.exec id) new takeover = some l ∧
      (l.manager.getConnection "d").map Connection.identity = some ("s", "u") ∧
      l.lastBound ("s", "u") = some "d" ∧ l.manager.serverUserConnections ("s", "u") = none :=
    exists_end (by decide)
  obtain ⟨conn, hconn, hidentity⟩ := Option.map_eq_some_iff.mp hconn
  have hfound := (h.finish hrun).found "d" conn hconn (by
    rw [← hlast, ← hidentity]
    rfl)
  have hkey : (conn.serverID, conn.userUUID) = ("s", "u") := hidentity
  rw [hkey, hnone] at hfound
  cases hfound

end Ledger

end Sgate
