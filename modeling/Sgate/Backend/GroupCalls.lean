import Sgate.Connection.Groups
import Mathlib.Data.Finset.Card

/-! # Joining and leaving groups

`JoinGroup` and `LeaveGroup` of the gRPC service are called with a session, but the members of a group
are pairs of logic server and user. When the pair of a session changes, the groups keep the old one. A
`Membership` records what one session has joined; no call reads the record. -/

namespace Sgate

open Transition ConnectionManager KeyMap

namespace ConnectionManager

/-! ## The calls -/

/-- Why a session is refused: `session_id is required`, or `session … not found`. -/
inductive SessionError
  | required
  | notFound (sessionID : String)

/-- `connection`: look a session up. -/
def sessionConnection (cm : ConnectionManager) (sessionID : String) : Except SessionError Connection :=
  if sessionID = "" then .error .required
  else
    match cm.getConnection sessionID with
    | none => .error (.notFound sessionID)
    | some conn => .ok conn

def getGroupMemberCount (cm : ConnectionManager) (groupID : String) : ℕ :=
  ((cm.groups groupID).getD ∅).card

/-- Change groups one after the other and count the members after each change. -/
def changeGroups (change : ConnectionManager → String → ConnectionManager) :
    List String → ConnectionManager → ConnectionManager × List ℕ
  | [], cm => (cm, [])
  | groupID :: groupIDs, cm =>
    let cm := change cm groupID
    let r := changeGroups change groupIDs cm
    (r.1, cm.getGroupMemberCount groupID :: r.2)

/-- `JoinGroup`: the manager afterwards, and the counts of members or an error. -/
def joinGroup (cm : ConnectionManager) (sessionID : String) (groupIDs : List String) :
    ConnectionManager × Except SessionError (List ℕ) :=
  match cm.sessionConnection sessionID with
  | .error e => (cm, .error e)
  | .ok conn =>
    (changeGroups (fun cm g => cm.addUserToGroup g conn.serverID conn.userUUID) groupIDs cm).map id .ok

def leaveGroup (cm : ConnectionManager) (sessionID : String) (groupIDs : List String) :
    ConnectionManager × Except SessionError (List ℕ) :=
  match cm.sessionConnection sessionID with
  | .error e => (cm, .error e)
  | .ok conn =>
    (changeGroups (fun cm g => cm.removeUserFromGroup g conn.serverID conn.userUUID) groupIDs cm).map
      id .ok

def pairOf (cm : ConnectionManager) (c : String) : Option ServerUserKey :=
  (cm.getConnection c).map Connection.identity

end ConnectionManager

inductive SessionCall
  | joinGroup (groupIDs : List String)
  | leaveGroup (groupIDs : List String)
  | setConnectionServerID (serverID : String)
  | updateConnectionUserUUID (userUUID : String)
  | removeConnection (id : String)

/-- A manager, with the groups the session has joined and those it has left since. -/
structure Membership where
  manager : ConnectionManager
  joined : Finset String
  left : Finset String

namespace Membership

/-- Perform a call for the session `s`. A call that fails is not recorded. -/
def exec (host : String → String) (s : String) (m : Membership) : SessionCall → Option Membership
  | .joinGroup groupIDs =>
    match m.manager.joinGroup s groupIDs with
    | (cm, .ok _) => some ⟨cm, m.joined ∪ groupIDs.toFinset, m.left \ groupIDs.toFinset⟩
    | (cm, .error _) => some { m with manager := cm }
  | .leaveGroup groupIDs =>
    match m.manager.leaveGroup s groupIDs with
    | (cm, .ok _) => some ⟨cm, m.joined \ groupIDs.toFinset, m.left ∪ groupIDs.toFinset⟩
    | (cm, .error _) => some { m with manager := cm }
  | .setConnectionServerID serverID =>
    some { m with manager := m.manager.setConnectionServerID s serverID }
  | .updateConnectionUserUUID userUUID =>
    some { m with manager := m.manager.updateConnectionUserUUID s userUUID }
  | .removeConnection id => some { m with manager := m.manager.removeConnection host id }

/-- **The groups follow the session.** -/
structure GroupsFollow (s : String) (m : Membership) : Prop where
  joined : ∀ g ∈ m.joined, s ∈ m.manager.connections → s ∈ m.manager.getGroupSessions g
  left : ∀ g ∈ m.left, s ∉ m.manager.getGroupSessions g

/-- **The condition on a call.** -/
def InStep (s : String) (m : Membership) : SessionCall → Prop
  -- a session joins once the index names it
  | .joinGroup _ => ∀ k ∈ m.manager.pairOf s, m.manager.serverUserConnections k = some s
  | .leaveGroup _ => True
  -- another server only while the index does not name the session under its pair
  | .setConnectionServerID serverID => ∀ conn ∈ m.manager.getConnection s,
      conn.serverID = serverID ∨ m.manager.serverUserConnections conn.identity ≠ some s
  -- another user only if the new pair is in the groups that were joined and in none that was left
  | .updateConnectionUserUUID userUUID => ∀ conn ∈ m.manager.getConnection s,
      (conn.userUUID ≠ "" ∨ userUUID = "" ∨
        m.manager.serverUserConnections conn.identity ≠ some s) ∧
      (∀ g ∈ m.joined, (conn.serverID, userUUID) ∈ (m.manager.groups g).getD ∅) ∧
      ∀ g ∈ m.left, (conn.serverID, userUUID) ∉ (m.manager.groups g).getD ∅
  -- other connections have other pairs
  | .removeConnection id => id ≠ s → ∀ k ∈ m.manager.pairOf id, m.manager.pairOf s ≠ some k

instance (s : String) (m : Membership) : DecidablePred (InStep s m) := fun a => by
  unfold InStep
  split <;> infer_instance

/-! ## The invariant -/

/-- The index names the session under its pair only. -/
def Named (s : String) (cm : ConnectionManager) : Prop :=
  ∀ k, cm.serverUserConnections k = some s → cm.pairOf s = some k

structure Follows (s : String) (m : Membership) : Prop where
  named : Named s m.manager
  joined : ∀ g ∈ m.joined, ∀ k ∈ m.manager.pairOf s,
    m.manager.serverUserConnections k = some s ∧ k ∈ (m.manager.groups g).getD ∅
  left : ∀ g ∈ m.left, ∀ k ∈ m.manager.pairOf s,
    m.manager.serverUserConnections k = some s → k ∉ (m.manager.groups g).getD ∅

section

variable {host : String → String} {s g : String} {m m' : Membership} {cm cm' : ConnectionManager}
  {conn : Connection} {k : ServerUserKey}

theorem mem_getGroupSessions : s ∈ cm.getGroupSessions g ↔
    ∃ k ∈ (cm.groups g).getD ∅, cm.serverUserConnections k = some s := by
  unfold getGroupSessions
  cases cm.groups g <;> simp [Multiset.mem_filterMap]

theorem pairOf_of_getConnection (h : cm.getConnection s = some conn) :
    cm.pairOf s = some conn.identity := congrArg (Option.map Connection.identity) h

theorem Follows.groupsFollow (h : Follows s m) : GroupsFollow s m where
  joined g hg hs := by
    obtain ⟨conn, hconn⟩ := mem_connections_iff.mp hs
    obtain ⟨hindex, hmember⟩ := h.joined g hg _ (pairOf_of_getConnection hconn)
    exact mem_getGroupSessions.mpr ⟨_, hmember, hindex⟩
  left g hg hmem := by
    obtain ⟨k, hmember, hindex⟩ := mem_getGroupSessions.mp hmem
    exact h.left g hg k (h.named k hindex) hindex hmember

theorem Follows.of_unnamed (h : ∀ k, cm.serverUserConnections k ≠ some s)
    (hjoined : m.joined = ∅ ∨ cm.pairOf s = none) : Follows s { m with manager := cm } where
  named k hk := absurd hk (h k)
  joined g hg k hk := by
    rcases hjoined with hnone | hnone
    · exact absurd (hnone ▸ hg) (Finset.notMem_empty g)
    · cases hnone.symm.trans hk
  left g _ k _ hk := absurd hk (h k)

/-! ### Servers and users -/

theorem Follows.setConnectionServerID (h : Follows s m) {serverID : String}
    (hg : InStep s m (.setConnectionServerID serverID)) :
    Follows s { m with manager := m.manager.setConnectionServerID s serverID } := by
  unfold ConnectionManager.setConnectionServerID
  cases hconn : m.manager.getConnection s with
  | none => exact h
  | some conn =>
    have hold := pairOf_of_getConnection hconn
    have hnew : (m.manager.setConnectionServerID s serverID).pairOf s =
        some (serverID, conn.userUUID) := by
      rw [ConnectionManager.pairOf, (ConnectionManager.rewrites_setConnectionServerID _).getConnection,
        modify_apply, if_pos rfl, hconn]
      rfl
    rw [ConnectionManager.setConnectionServerID, hconn] at hnew
    by_cases hsame : conn.serverID = serverID
    · subst hsame
      have hpair := hnew.trans hold.symm
      exact ⟨fun k hk => hpair.trans (h.named k hk), fun g hg k hk => h.joined g hg k (hpair ▸ hk),
        fun g hg k hk => h.left g hg k (hpair ▸ hk)⟩
    · have hunnamed (k : ServerUserKey) : m.manager.serverUserConnections k ≠ some s := by
        intro hk
        cases hold.symm.trans (h.named k hk)
        exact (hg conn hconn).elim hsame fun hc => hc hk
      exact .of_unnamed hunnamed (.inl (Finset.eq_empty_of_forall_notMem fun g hg =>
        hunnamed _ (h.joined g hg _ hold).1))

theorem Follows.updateConnectionUserUUID (h : Follows s m) {userUUID : String}
    (hg : InStep s m (.updateConnectionUserUUID userUUID)) :
    Follows s { m with manager := m.manager.updateConnectionUserUUID s userUUID } := by
  cases hconn : m.manager.getConnection s with
  | none =>
    rw [ConnectionManager.updateConnectionUserUUID, hconn]
    exact h
  | some conn =>
    obtain ⟨hempty, hjoined, hleft⟩ := hg conn hconn
    have hold := pairOf_of_getConnection hconn
    have hnew : (m.manager.updateConnectionUserUUID s userUUID).pairOf s =
        some (conn.serverID, userUUID) := by
      rw [ConnectionManager.pairOf,
        (ConnectionManager.rewrites_updateConnectionUserUUID _).getConnection, modify_apply,
        if_pos rfl, hconn]
      rfl
    rw [ConnectionManager.updateConnectionUserUUID, hconn] at hnew ⊢
    refine ⟨fun k hk => ?_, fun g hg k hk => ?_, fun g hg k hk _ => ?_⟩
    · -- another pair would be the old one, whose entry is deleted
      have hkey : k = (conn.serverID, userUUID) := by
        by_contra hne
        dsimp only at hk
        rw [store_of_ne _ _ hne] at hk
        have hentry : m.manager.serverUserConnections k = some s := by
          split at hk
          · exact (deleteIf_eq_some.mp hk).1
          · exact hk
        cases hold.symm.trans (h.named k hentry)
        grind [Connection.identity, deleteIf_eq_some]
      rw [hkey]
      exact hnew
    · cases hnew.symm.trans hk
      exact ⟨store_self .., hjoined g hg⟩
    · cases hnew.symm.trans hk
      exact hleft g hg

/-! ### Removals -/

variable {p : ServerUserKey}

theorem mem_members_dropMember {G : KeyMap String (Finset ServerUserKey)} :
    k ∈ (dropMember G p g).getD ∅ ↔ k ∈ (G g).getD ∅ ∧ k ≠ p := by
  have hmem (G : KeyMap String (Finset ServerUserKey)) :
      k ∈ (G g).getD ∅ ↔ ∃ members, G g = some members ∧ k ∈ members := by
    cases G g <;> simp
  rw [hmem, hmem]
  exact mem_dropMember

theorem Follows.removeConnection (h : Follows s m) {id : String}
    (hg : InStep s m (.removeConnection id)) :
    Follows s { m with manager := m.manager.removeConnection host id } := by
  cases hconn : m.manager.getConnection id with
  | none =>
    rw [removeConnection_of_none hconn]
    exact h
  | some conn =>
    have hid := pairOf_of_getConnection hconn
    have hpair : (m.manager.removeConnection host id).pairOf s =
        if s = id then none else m.manager.pairOf s := by
      rw [pairOf, getConnection_removeConnection, delete_apply]
      split <;> rfl
    have hindex : (m.manager.removeConnection host id).serverUserConnections =
        m.manager.serverUserConnections.delete conn.identity := by
      rw [removeConnection_eq hconn]
      rfl
    have hgroups : (m.manager.removeConnection host id).groups =
        dropMember m.manager.groups conn.identity := groups_removeConnection hconn
    by_cases hs : s = id
    · subst hs
      refine .of_unnamed (fun k hk => ?_) (.inr (hpair.trans (if_pos rfl)))
      rw [hindex, delete_apply] at hk
      obtain ⟨hne, hk⟩ := Option.ite_none_left_eq_some.mp hk
      exact hne (Option.some.inj ((h.named k hk).symm.trans hid))
    · rw [if_neg hs] at hpair
      have hoff (k : ServerUserKey) (hk : m.manager.pairOf s = some k) : k ≠ conn.identity := by
        rintro rfl
        exact hg (Ne.symm hs) _ hid hk
      refine ⟨fun k hk => ?_, fun g hg k hk => ?_, fun g hg k hk hentry => ?_⟩
      · rw [hindex, delete_apply] at hk
        exact hpair.trans (h.named k (Option.ite_none_left_eq_some.mp hk).2)
      · rw [hindex, delete_of_ne _ (hoff k (hpair ▸ hk)), hgroups, mem_members_dropMember]
        obtain ⟨hentry, hmember⟩ := h.joined g hg k (hpair ▸ hk)
        exact ⟨hentry, hmember, hoff k (hpair ▸ hk)⟩
      · rw [hindex, delete_apply] at hentry
        rw [hgroups, mem_members_dropMember, not_and_or]
        exact .inl (h.left g hg k (hpair ▸ hk) (Option.ite_none_left_eq_some.mp hentry).2)

/-! ### Joining and leaving -/

/-- Only the membership of one pair changes, in some groups: it is a member of all of them if `b`, and
of none otherwise. -/
structure Regroups (p : ServerUserKey) (b : Prop) (groupIDs : List String)
    (cm cm' : ConnectionManager) : Prop where
  pairs : cm'.pairOf = cm.pairOf
  index : cm'.serverUserConnections = cm.serverUserConnections
  member : ∀ g k, k ∈ (cm'.groups g).getD ∅ ↔
    (g ∈ groupIDs ∧ k = p) ∧ b ∨ ¬ (g ∈ groupIDs ∧ k = p) ∧ k ∈ (cm.groups g).getD ∅

theorem regroups_addUserToGroup (p : ServerUserKey) (groupID : String) :
    Regroups p True [groupID] cm (cm.addUserToGroup groupID p.1 p.2) := by
  refine ⟨rfl, rfl, fun g k => ?_⟩
  unfold addUserToGroup
  grind [store_apply]

theorem regroups_removeUserFromGroup (p : ServerUserKey) (groupID : String) :
    Regroups p False [groupID] cm (cm.removeUserFromGroup groupID p.1 p.2) := by
  unfold removeUserFromGroup
  split
  · refine ⟨rfl, rfl, fun g k => ?_⟩
    grind
  · refine ⟨rfl, rfl, fun g k => ?_⟩
    grind [store_apply, delete_apply]

variable {b : Prop}

theorem regroups_changeGroups {change : ConnectionManager → String → ConnectionManager}
    (hchange : ∀ cm g, Regroups p b [g] cm (change cm g)) (groupIDs : List String) :
    Regroups p b groupIDs cm (changeGroups change groupIDs cm).1 := by
  induction groupIDs generalizing cm with
  | nil => exact ⟨rfl, rfl, fun g k => by simp [changeGroups]⟩
  | cons groupID groupIDs ih =>
    have hfirst := hchange cm groupID
    have hrest : Regroups p b groupIDs (change cm groupID) _ := ih
    refine ⟨hrest.pairs.trans hfirst.pairs, hrest.index.trans hfirst.index, fun g k => ?_⟩
    rw [changeGroups, hrest.member, hfirst.member]
    grind

theorem sessionConnection_eq_ok (h : cm.sessionConnection s = .ok conn) :
    cm.pairOf s = some conn.identity := by
  unfold sessionConnection at h
  grind [pairOf_of_getConnection]

variable {groupIDs : List String}

theorem Follows.regroups (h : Follows s m) (hr : Regroups p b groupIDs m.manager cm')
    (hpair : m.manager.pairOf s = some p) {J L : Finset String}
    (hjoined : ∀ g ∈ J, m.manager.serverUserConnections p = some s ∧ (g ∈ groupIDs ∧ b ∨ g ∉ groupIDs ∧ g ∈ m.joined))
    (hleft : ∀ g ∈ L, g ∈ groupIDs ∧ ¬ b ∨ g ∉ groupIDs ∧ g ∈ m.left) : Follows s ⟨cm', J, L⟩ := by
  refine ⟨fun k hk => ?_, fun g hg k hk => ?_, fun g hg k hk hentry => ?_⟩
  · rw [hr.index] at hk
    rw [hr.pairs]
    exact h.named k hk
  · rw [hr.pairs] at hk
    cases hpair.symm.trans hk
    have hold := h.joined g
    rw [hr.index, hr.member]
    grind
  · rw [hr.pairs] at hk
    cases hpair.symm.trans hk
    rw [hr.index] at hentry
    have hold := h.left g
    rw [hr.member]
    grind

theorem Follows.joinGroup (h : Follows s m) (hg : InStep s m (.joinGroup groupIDs))
    (hs : m.exec host s (.joinGroup groupIDs) = some m') : Follows s m' := by
  unfold exec ConnectionManager.joinGroup at hs
  cases hconn : m.manager.sessionConnection s with
  | error e =>
    rw [hconn] at hs
    cases hs
    exact h
  | ok conn =>
    rw [hconn] at hs
    cases hs
    have hpair := sessionConnection_eq_ok hconn
    refine h.regroups (regroups_changeGroups (fun _ => regroups_addUserToGroup _) groupIDs) hpair
      (fun g hmem => ⟨hg _ hpair, ?_⟩) fun g hmem => ?_
    · simp only [Finset.mem_union, List.mem_toFinset] at hmem
      tauto
    · simp only [Finset.mem_sdiff, List.mem_toFinset] at hmem
      tauto

theorem Follows.leaveGroup (h : Follows s m) (hs : m.exec host s (.leaveGroup groupIDs) = some m') :
    Follows s m' := by
  unfold exec ConnectionManager.leaveGroup at hs
  cases hconn : m.manager.sessionConnection s with
  | error e =>
    rw [hconn] at hs
    cases hs
    exact h
  | ok conn =>
    rw [hconn] at hs
    cases hs
    have hpair := sessionConnection_eq_ok hconn
    refine h.regroups (regroups_changeGroups (fun _ => regroups_removeUserFromGroup _) groupIDs) hpair
      (fun g hmem => ?_) fun g hmem => ?_
    · simp only [Finset.mem_sdiff, List.mem_toFinset] at hmem
      exact ⟨(h.joined g hmem.1 _ hpair).1, .inr ⟨hmem.2, hmem.1⟩⟩
    · simp only [Finset.mem_union, List.mem_toFinset] at hmem
      tauto

theorem Follows.exec (h : Follows s m) {a : SessionCall} (hg : InStep s m a)
    (hs : m.exec host s a = some m') : Follows s m' := by
  cases a with
  | joinGroup groupIDs => exact h.joinGroup hg hs
  | leaveGroup groupIDs => exact h.leaveGroup hs
  | setConnectionServerID serverID =>
    cases hs
    exact h.setConnectionServerID hg
  | updateConnectionUserUUID userUUID =>
    cases hs
    exact h.updateConnectionUserUUID hg
  | removeConnection id =>
    cases hs
    exact h.removeConnection hg

end

/-- **Groups follow the session.** From any manager whose index names the session under its pair only,
and in every state of a run whose calls are in step: a session that is registered is in the groups it
joined last, and it is in none that it left last. -/
theorem groupsFollow_of_inStep (host : String → String) (s : String) (cm : ConnectionManager)
    (hnamed : Named s cm) (as : List SessionCall)
    (hguard : Guarded (exec host s) (InStep s) ⟨cm, ∅, ∅⟩ as) :
    Throughout (exec host s) (GroupsFollow s) ⟨cm, ∅, ∅⟩ as :=
  throughout_of_guarded (J := Follows s) (fun _ h => h.groupsFollow) (fun _ _ _ h hg hs => h.exec hg hs)
    ⟨hnamed, fun g hg => absurd hg (Finset.notMem_empty g),
      fun g hg => absurd hg (Finset.notMem_empty g)⟩ hguard

def opened : ConnectionManager :=
  (ConnectionManager.newConnectionManager.addConnection id "d" "10.0.0.2" "").addConnection id "c"
    "10.0.0.1" ""

theorem named_opened : Named "c" opened := by
  have hindex : opened.serverUserConnections = .empty := by
    rfl
  intro k hk
  cases hk

/-- One of them logs in, joins two groups and leaves one; the other is removed. -/
def joinsAfterLogin : List SessionCall :=
  [.setConnectionServerID "s", .updateConnectionUserUUID "u", .joinGroup ["g", "h"], .leaveGroup ["h"],
    .removeConnection "d"]

theorem joinsAfterLogin_groupsFollow :
    ((run (exec id "c") ⟨opened, ∅, ∅⟩ joinsAfterLogin).any fun m =>
        "c" ∈ m.manager.getGroupSessions "g" ∧ "c" ∉ m.manager.getGroupSessions "h") ∧
      Throughout (exec id "c") (GroupsFollow "c") ⟨opened, ∅, ∅⟩ joinsAfterLogin :=
  ⟨by decide +kernel,
    groupsFollow_of_inStep id "c" opened named_opened joinsAfterLogin (by decide +kernel)⟩

/-- The logic server changes the user of a session that has joined a group. -/
def renamedInGroup : List SessionCall :=
  [.setConnectionServerID "s", .updateConnectionUserUUID "u", .joinGroup ["g"],
    .updateConnectionUserUUID "v"]

/-- **The session falls out of its group.** If it leaves the group then and gets its old user back, it
is in the group it has left. -/
theorem renamedInGroup_lost :
    (run (exec id "c") ⟨opened, ∅, ∅⟩ (renamedInGroup ++
        [.leaveGroup ["g"], .updateConnectionUserUUID "u"])).map (fun m =>
          (decide ("g" ∈ m.left), m.manager.getGroupSessions "g")) = some (true, {"c"}) ∧
      ¬ Throughout (exec id "c") (GroupsFollow "c") ⟨opened, ∅, ∅⟩ renamedInGroup := by
  refine ⟨by decide +kernel, fun h => ?_⟩
  obtain ⟨m, hm, hjoined, hlive, hlost⟩ : ∃ m, run (exec id "c") ⟨opened, ∅, ∅⟩ renamedInGroup =
      some m ∧ "g" ∈ m.joined ∧ "c" ∈ m.manager.connections ∧
        "c" ∉ m.manager.getGroupSessions "g" := exists_end (by decide +kernel)
  exact hlost ((h.finish hm).joined "g" hjoined hlive)

end Membership

end Sgate
