import Sgate.Connection.Accounts
import Sgate.Connection.Calls
import Mathlib.Data.List.Perm.Basic

/-! # Index entries of removed connections

A removal deletes the index entries that belong to the attributes of the connection. A call that has
looked the connection up before writes its entry all the same, and an attribute that is overwritten can
leave the entry of its old value behind. -/

namespace Sgate.ConnectionManager

open Interleaving KeyMap

/-! ## Entries -/

/-- An entry of an index that names connections. -/
inductive Entry
  | user (userUUID : String)
  | serverUser (key : ServerUserKey)
  | account (accountID : String)
  | server (serverID : String)

def Mentions (cm : ConnectionManager) (c : String) : Entry → Prop
  | .user userUUID => cm.userConnections userUUID = some c
  | .serverUser key => cm.serverUserConnections key = some c
  | .account accountID => c ∈ (cm.accountConnections accountID).getD ∅
  | .server serverID => cm.serverConnections serverID = some c

namespace Call

def target : Call → String
  | .addConnection id _ _ _ | .removeConnection id _ | .setConnectionServerID id _ _
  | .setConnectionAccountID id _ _ | .updateConnectionUserUUID id _ _ => id

def busy (t : Call) : Bool := !t.isNew && !t.isReturned

/-- The entry the next step of the call gives to its connection. -/
def stores (cm : ConnectionManager) : Call → Option Entry
  | .addConnection _ _ userUUID .users => some (.user userUUID)
  | .setConnectionServerID _ serverID .servers => some (.server serverID)
  | .setConnectionAccountID _ accountID .accounts => some (.account accountID)
  | .updateConnectionUserUUID _ userUUID (.storeUser _) => some (.user userUUID)
  | .updateConnectionUserUUID id userUUID .storeServerUser =>
    (cm.objects id).map fun conn => .serverUser (conn.serverID, userUUID)
  | _ => none

/-- The entry the next step of the call takes from its connection. -/
def drops (cm : ConnectionManager) : Call → Option Entry
  | .removeConnection id .users => (cm.objects id).map fun conn => .user conn.userUUID
  | .removeConnection _ (.accounts accountID) => some (.account accountID)
  | .removeConnection _ (.serverUsers key) => some (.serverUser key)
  | .removeConnection _ (.servers key) => some (.server key.1)
  | .updateConnectionUserUUID _ _ (.dropUser oldUUID) => some (.user oldUUID)
  | .updateConnectionUserUUID _ _ (.dropOld key) => some (.serverUser key)
  | _ => none

end Call

open Call

/-- **No dangling entries**: a connection that is not registered, and for which no call is in
progress, is in no index. -/
def NoneDangling (w : World ConnectionManager Call) : Prop :=
  ∀ c, c ∉ w.shared.connections → (∀ t ∈ w.threads, t.target = c → t.busy = false) →
    ∀ e, ¬ w.shared.Mentions c e

/-! ## The condition -/

/-- The next step of the call leaves no entry of an old attribute behind. -/
def Replaces (cm : ConnectionManager) : Call → Prop
  | .setConnectionServerID id serverID pc => pc = .write → serverID ≠ "" ∧ ∀ conn ∈ cm.objects id,
      conn.serverID = serverID ∨
        conn.serverID = "" ∧ cm.serverUserConnections ("", conn.userUUID) ≠ some id
  | .setConnectionAccountID id accountID pc => pc = .write → ∀ conn ∈ cm.objects id,
      conn.accountID = accountID ∨ conn.accountID = ""
  | .updateConnectionUserUUID id userUUID pc => pc = .storeUser "" → userUUID ≠ "" →
      ∀ conn ∈ cm.objects id, cm.serverUserConnections (conn.serverID, "") ≠ some id
  | .addConnection .. | .removeConnection .. => True

instance (cm : ConnectionManager) : DecidablePred cm.Replaces := fun t => by
  unfold Replaces
  split <;> infer_instance

/-- **The condition on a step**: no other call on the connection is in progress, and no entry of an
old attribute is left behind. -/
def Apart (w : World ConnectionManager Call) : Action Call Unit → Prop
  | .start _ => True
  | .step i _ => ∀ t ∈ w.threads[i]?, w.shared.Replaces t ∧
    ∀ u ∈ w.threads.eraseIdx i, u.target = t.target → u.busy = false

instance (w : World ConnectionManager Call) : (a : Action Call Unit) → Decidable (Apart w a)
  | .start _ => isTrue trivial
  | .step i _ => inferInstanceAs (Decidable (∀ t ∈ w.threads[i]?, _))

/-! ## One step -/

section

variable {host : String → String} {cm cm' : ConnectionManager} {t t' : Call} {c : String}
  {conn : Connection}

/-- What a step does to a connection: its entries get fewer, unless the call is made for it and stores
one; calls for other connections leave the connection alone. -/
structure Touches (c : String) (cm : ConnectionManager) (t : Call) (cm' : ConnectionManager) :
    Prop where
  entry : ∀ e, cm'.Mentions c e → cm.Mentions c e ∧ (t.target = c → t.drops cm ≠ some e) ∨
    t.target = c ∧ t.stores cm = some e
  other : t.target ≠ c → cm'.objects c = cm.objects c ∧ (c ∈ cm'.connections ↔ c ∈ cm.connections)

theorem Touches.of_same (hsame : ∀ e, cm'.Mentions c e → cm.Mentions c e) (hdrops : t.drops cm = none)
    (hother : t.target ≠ c → cm'.objects c = cm.objects c ∧
      (c ∈ cm'.connections ↔ c ∈ cm.connections)) : Touches c cm t cm' :=
  ⟨fun e he => .inl ⟨hsame e he, fun _ hc => by cases hdrops.symm.trans hc⟩, hother⟩

theorem Touches.of_write (f : Connection → Connection) (hdrops : t.drops cm = none) :
    Touches c cm t (cm.modifyObject t.target f) :=
  .of_same (fun _ he => he) hdrops fun hne =>
    ⟨(modify_apply ..).trans (if_neg (Ne.symm hne)), Iff.rfl⟩

theorem touches_of_stepCall (hs : cm.stepCall host t = some (cm', t')) : Touches c cm t cm' := by
  have hrest : cm.objects c = cm.objects c ∧ (c ∈ cm.connections ↔ c ∈ cm.connections) :=
    ⟨rfl, Iff.rfl⟩
  cases t <;> obtain ⟨⟨cm₁, pc'⟩, hpc, heq⟩ := Option.map_eq_some_iff.mp hs <;> cases heq
  case addConnection pc =>
    cases pc with
    | connections =>
      obtain ⟨-, hpc⟩ := Option.ite_none_left_eq_some.mp hpc
      cases hpc
      refine .of_same (fun _ he => he) rfl fun hne => ⟨store_of_ne _ _ (Ne.symm hne), ?_⟩
      exact List.mem_cons.trans (or_iff_right (Ne.symm hne))
    | users =>
      cases hpc
      refine ⟨fun e he => ?_, fun _ => hrest⟩
      cases e <;> grind [Mentions, target, stores, drops, store_apply]
    | ip =>
      cases hpc
      rw [incrementIP_eq]
      exact .of_same (fun _ he => he) rfl fun _ => hrest
    | count | total | active =>
      cases hpc
      exact .of_same (fun _ he => he) rfl fun _ => hrest
    | returned => cases hpc
  case removeConnection pc =>
    cases pc with
    | take =>
      simp only [stepRemove] at hpc
      split at hpc <;> cases hpc
      · refine .of_same (fun _ he => he) rfl fun hne => ⟨rfl, List.mem_filter.trans ?_⟩
        exact and_iff_left (decide_eq_true (Ne.symm hne))
      · exact .of_same (fun _ he => he) rfl fun _ => hrest
    | users =>
      obtain ⟨conn, hconn, heq⟩ := Option.map_eq_some_iff.mp hpc
      cases heq
      refine ⟨fun e he => ?_, fun _ => hrest⟩
      cases e <;> grind [Mentions, target, drops, deleteIf_eq_some]
    | account | server | user | ip =>
      obtain ⟨conn, -, heq⟩ := Option.map_eq_some_iff.mp hpc
      cases heq
      try rw [decrementIP_eq]
      exact .of_same (fun _ he => he) rfl fun _ => hrest
    | accounts | serverUsers | servers =>
      cases hpc
      try rw [removeAccountConnection_eq]
      refine ⟨fun e he => ?_, fun _ => hrest⟩
      cases e <;> grind [Mentions, target, drops, delete_apply, mem_dropAccount]
    | load | groups | count | active | closed =>
      cases hpc
      exact .of_same (fun _ he => he) rfl fun _ => hrest
    | returned | missed => cases hpc
  case setConnectionServerID pc | setConnectionAccountID pc =>
    cases pc <;> cases hpc
    · exact .of_same (fun _ he => he) rfl fun _ => hrest
    · exact .of_write _ rfl
    · refine ⟨fun e he => ?_, fun _ => hrest⟩
      cases e <;> grind [Mentions, target, stores, drops, store_apply]
  case updateConnectionUserUUID pc =>
    cases pc with
    | write =>
      cases hpc
      exact .of_write _ rfl
    | old | findOld | storeServerUser =>
      obtain ⟨conn, hconn, heq⟩ := Option.map_eq_some_iff.mp hpc
      cases heq
      refine ⟨fun e he => ?_, fun _ => hrest⟩
      cases e <;> grind [Mentions, target, stores, drops, store_apply]
    | lookup | dropUser | storeUser | dropOld =>
      cases hpc
      refine ⟨fun e he => ?_, fun _ => hrest⟩
      cases e <;> grind [Mentions, target, stores, drops, store_apply,
        delete_apply, deleteIf_eq_some]
    | returned => cases hpc

/-! ## The entries a connection may have -/

def Entry.Of (conn : Connection) : Entry → Prop
  | .user userUUID => userUUID = conn.userUUID
  | .serverUser key => key = (conn.serverID, conn.userUUID)
  | .account accountID => accountID = conn.accountID ∧ accountID ≠ ""
  | .server serverID => serverID = conn.serverID ∧ serverID ≠ ""

/-- Between calls a connection has entries of its attributes, and none once it is removed. -/
def Settled (cm : ConnectionManager) (c : String) : Prop :=
  ∀ e, cm.Mentions c e → c ∈ cm.connections ∧ ∃ conn ∈ cm.objects c, e.Of conn

def RemovePc.cleared : RemovePc → Entry → Prop
  | .load, _ | .take, _ | .users, _ => False
  | _, .user _ => True
  | .account, _ | .accounts _, _ => False
  | _, .account _ => True
  | .server, _ | .user _, _ | .serverUsers _, _ => False
  | _, .serverUser _ => True
  | .servers _, _ => False
  | _, .server _ => True

/-- The entries an update of the user leaves for the time being. -/
def UserPc.Allows (conn : Connection) : UserPc → Entry → Prop
  | .dropUser oldUUID, .user u => u = oldUUID
  | .storeUser _, .user _ => False
  | .dropUser oldUUID, .serverUser key | .storeUser oldUUID, .serverUser key
  | .findOld oldUUID, .serverUser key => key = (conn.serverID, oldUUID)
  | .dropOld stale, .serverUser key => key = stale
  | _, e => e.Of conn

def Call.Allows (conn : Connection) : Call → Entry → Prop
  | .removeConnection _ pc, e => e.Of conn ∧ ¬ pc.cleared e
  | .updateConnectionUserUUID _ _ pc, e => pc.Allows conn e
  | _, e => e.Of conn

/-- What a call in progress has read and written. -/
def Call.Facts (conn : Connection) (registered : Prop) : Call → Prop
  | .addConnection _ _ userUUID _ => registered ∧ conn.userUUID = userUUID
  | .removeConnection _ .take => registered
  | .removeConnection _ (.accounts accountID) => accountID = conn.accountID
  | .removeConnection _ (.user serverID) => serverID = conn.serverID
  | .removeConnection _ (.serverUsers key) | .removeConnection _ (.servers key) =>
    key = (conn.serverID, conn.userUUID)
  | .removeConnection _ _ => True
  | .setConnectionServerID _ serverID pc =>
    registered ∧ (pc = .servers → conn.serverID = serverID ∧ serverID ≠ "")
  | .setConnectionAccountID _ accountID pc =>
    registered ∧ accountID ≠ "" ∧ (pc = .accounts → conn.accountID = accountID)
  | .updateConnectionUserUUID _ _ .old => registered
  | .updateConnectionUserUUID _ _ (.write oldUUID) => registered ∧ conn.userUUID = oldUUID
  | .updateConnectionUserUUID _ userUUID _ => registered ∧ conn.userUUID = userUUID

def Call.Sound (cm : ConnectionManager) (c : String) (t : Call) : Prop :=
  ∃ conn, cm.objects c = some conn ∧ t.Facts conn (c ∈ cm.connections) ∧
    ∀ e, cm.Mentions c e → t.Allows conn e

/-- The connection while no other call on it is in progress. -/
def Call.Fits (cm : ConnectionManager) (c : String) (t : Call) : Prop :=
  if t.busy then t.Sound cm c else cm.Settled c

theorem Settled.lookup (h : cm.Settled c) (hmem : c ∈ cm.connections) :
    ∃ conn, cm.objects c = some conn ∧ ∀ e, cm.Mentions c e → e.Of conn := by
  obtain ⟨conn, hconn⟩ := Option.isSome_iff_exists.mp (cm.registered c hmem)
  refine ⟨conn, hconn, fun e he => ?_⟩
  obtain ⟨-, conn', hconn', hof⟩ := h e he
  cases hconn.symm.trans hconn'
  exact hof

theorem objects_modifyObject_self (hconn : cm.objects c = some conn) (f : Connection → Connection) :
    (cm.modifyObject c f).objects c = some (f conn) :=
  modify_eq_some.mpr ⟨conn, hconn, (if_pos rfl).symm⟩

theorem settled_of_entries (hreg : c ∈ cm.connections) (hconn : cm.objects c = some conn)
    (hof : ∀ e, cm.Mentions c e → e.Of conn) : cm.Settled c :=
  fun e he => ⟨hreg, conn, hconn, hof e he⟩

theorem Call.Fits.removeConnection {pc pc' : RemovePc}
    (h : Call.Fits cm c (.removeConnection c pc)) (ht : Touches c cm (.removeConnection c pc) cm')
    (hs : cm.stepRemove host c pc = some (cm', pc')) : Call.Fits cm' c (.removeConnection c pc') := by
  have hleft (e : Entry) (he : cm'.Mentions c e) :
      cm.Mentions c e ∧ (Call.removeConnection c pc).drops cm ≠ some e := by
    obtain ⟨hold, hdrops⟩ | ⟨-, hstores⟩ := ht.entry e he
    · exact ⟨hold, hdrops rfl⟩
    · cases hstores
  cases pc with
  | load =>
    cases hs
    by_cases hmem : c ∈ cm.connections
    · obtain ⟨conn, hconn, hof⟩ := h.lookup hmem
      rw [if_pos hmem]
      exact ⟨conn, hconn, hmem, fun e he => ⟨hof e he, id⟩⟩
    · rw [if_neg hmem]
      exact h
  | take =>
    obtain ⟨conn, hconn, hmem, hall⟩ := h
    have hmem : c ∈ cm.connections := hmem
    rw [stepRemove, if_pos hmem] at hs
    cases hs
    exact ⟨conn, hconn, trivial, fun e he => hall e (hleft e he).1⟩
  | closed =>
    obtain ⟨conn, hconn, -, hall⟩ := h
    cases hs
    intro e he
    cases e <;> exact absurd trivial (hall _ (hleft _ he).1).2
  | returned | missed => cases hs
  | _ =>
    obtain ⟨conn, hconn, hfacts, hall⟩ := h
    simp only [stepRemove, hconn, Option.map_some, Option.some.injEq, Prod.mk.injEq] at hs
    obtain ⟨rfl, rfl⟩ := hs
    -- the removal goes on
    rw [Call.Fits, if_pos (by first | rfl | split <;> rfl)]
    refine ⟨conn, ?_, ?_, fun e he => ⟨(hall e (hleft e he).1).1, ?_⟩⟩
    · simp only [removeAccountConnection_eq, decrementIP_eq, removeMemberFromAllGroups, hconn]
    · grind [Call.Facts]
    · have hclear := hall e (hleft e he).1
      cases e <;> grind [Call.Facts, Call.Allows, Entry.Of, RemovePc.cleared, Call.drops]

theorem Call.Fits.addConnection {addr userUUID : String} {pc pc' : AddPc}
    (h : Call.Fits cm c (.addConnection c addr userUUID pc))
    (ht : Touches c cm (.addConnection c addr userUUID pc) cm')
    (hs : cm.stepAdd host c addr userUUID pc = some (cm', pc')) :
    Call.Fits cm' c (.addConnection c addr userUUID pc') := by
  have hentry (conn : Connection) (hconn : conn.userUUID = userUUID)
      (hall : ∀ e, cm.Mentions c e → e.Of conn) (e : Entry) (he : cm'.Mentions c e) : e.Of conn := by
    obtain ⟨hold, -⟩ | ⟨-, hstores⟩ := ht.entry e he
    · exact hall e hold
    · cases pc <;> cases hstores
      exact hconn.symm
  cases pc with
  | connections =>
    obtain ⟨hfresh, hs⟩ := Option.ite_none_left_eq_some.mp hs
    cases hs
    refine ⟨_, store_self .., ⟨List.mem_cons_self, rfl⟩, hentry _ rfl fun e he => ?_⟩
    obtain ⟨-, conn, hconn, -⟩ := h e he
    exact absurd (Option.isSome_iff_exists.mpr ⟨conn, hconn⟩) hfresh
  | returned => cases hs
  | _ =>
    obtain ⟨conn, hconn, ⟨hmem, huser⟩, hall⟩ := h
    cases hs
    try rw [incrementIP_eq] at hentry ⊢
    first
      | exact ⟨conn, hconn, ⟨hmem, huser⟩, hentry conn huser hall⟩
      | exact settled_of_entries hmem hconn (hentry conn huser hall)

theorem Call.Fits.setConnectionServerID {serverID : String} {pc pc' : ServerPc}
    (h : Call.Fits cm c (.setConnectionServerID c serverID pc))
    (hg : cm.Replaces (.setConnectionServerID c serverID pc))
    (ht : Touches c cm (.setConnectionServerID c serverID pc) cm')
    (hs : cm.stepServer c serverID pc = some (cm', pc')) :
    Call.Fits cm' c (.setConnectionServerID c serverID pc') := by
  cases pc with
  | lookup =>
    cases hs
    by_cases hmem : c ∈ cm.connections
    · obtain ⟨conn, hconn, hof⟩ := h.lookup hmem
      rw [if_pos hmem]
      exact ⟨conn, hconn, ⟨hmem, nofun⟩, hof⟩
    · rw [if_neg hmem]
      exact h
  | write =>
    obtain ⟨conn, hconn, ⟨hmem, -⟩, hall⟩ := h
    obtain ⟨hserver, hold⟩ := hg rfl
    cases hs
    refine ⟨_, objects_modifyObject_self hconn _, ⟨hmem, fun _ => ⟨rfl, hserver⟩⟩, fun e he => ?_⟩
    have he : cm.Mentions c e := he
    cases e <;> grind [Call.Allows, Entry.Of, Mentions]
  | servers =>
    obtain ⟨conn, hconn, ⟨hmem, hwritten⟩, hall⟩ := h
    cases hs
    refine settled_of_entries hmem hconn fun e he => ?_
    obtain ⟨hold, -⟩ | ⟨-, hstores⟩ := ht.entry e he
    · exact hall e hold
    · cases hstores
      exact ⟨(hwritten rfl).1.symm, (hwritten rfl).2⟩
  | returned => cases hs

theorem Call.Fits.setConnectionAccountID {accountID : String} {pc pc' : AccountPc}
    (h : Call.Fits cm c (.setConnectionAccountID c accountID pc))
    (hg : cm.Replaces (.setConnectionAccountID c accountID pc))
    (ht : Touches c cm (.setConnectionAccountID c accountID pc) cm')
    (hs : cm.stepAccount c accountID pc = some (cm', pc')) :
    Call.Fits cm' c (.setConnectionAccountID c accountID pc') := by
  cases pc with
  | lookup =>
    cases hs
    by_cases hmem : accountID ≠ "" ∧ c ∈ cm.connections
    · obtain ⟨conn, hconn, hof⟩ := h.lookup hmem.2
      rw [if_pos hmem]
      exact ⟨conn, hconn, ⟨hmem.2, hmem.1, nofun⟩, hof⟩
    · rw [if_neg hmem]
      exact h
  | write =>
    obtain ⟨conn, hconn, ⟨hmem, haccount, -⟩, hall⟩ := h
    cases hs
    refine ⟨_, objects_modifyObject_self hconn _, ⟨hmem, haccount, fun _ => rfl⟩, fun e he => ?_⟩
    have hof := hall e he
    have hold := hg rfl conn hconn
    cases e <;> grind [Call.Allows, Entry.Of]
  | accounts =>
    obtain ⟨conn, hconn, ⟨hmem, haccount, hwritten⟩, hall⟩ := h
    cases hs
    refine settled_of_entries hmem hconn fun e he => ?_
    obtain ⟨hold, -⟩ | ⟨-, hstores⟩ := ht.entry e he
    · exact hall e hold
    · cases hstores
      exact ⟨(hwritten rfl).symm, haccount⟩
  | returned => cases hs

theorem Call.Fits.updateConnectionUserUUID {userUUID : String} {pc pc' : UserPc}
    (h : Call.Fits cm c (.updateConnectionUserUUID c userUUID pc))
    (hg : cm.Replaces (.updateConnectionUserUUID c userUUID pc))
    (ht : Touches c cm (.updateConnectionUserUUID c userUUID pc) cm')
    (hs : cm.stepUser c userUUID pc = some (cm', pc')) :
    Call.Fits cm' c (.updateConnectionUserUUID c userUUID pc') := by
  cases pc with
  | lookup =>
    cases hs
    by_cases hmem : c ∈ cm.connections
    · obtain ⟨conn, hconn, hof⟩ := h.lookup hmem
      rw [if_pos hmem]
      exact ⟨conn, hconn, hmem, hof⟩
    · rw [if_neg hmem]
      exact h
  | write oldUUID =>
    obtain ⟨conn, hconn, ⟨hmem, hold⟩, hall⟩ := h
    cases hs
    refine ⟨_, objects_modifyObject_self hconn _, ⟨hmem, rfl⟩, fun e he => ?_⟩
    have hof := hall e he
    cases e <;> grind [Call.Allows, UserPc.Allows, Entry.Of]
  | storeUser oldUUID =>
    obtain ⟨conn, hconn, hfacts, hall⟩ := h
    have hnone : oldUUID = "" → userUUID ≠ "" →
        cm.serverUserConnections (conn.serverID, "") ≠ some c := by
      rintro rfl huser
      exact hg rfl huser conn hconn
    cases hs
    rw [Call.Fits, if_pos (by split <;> rfl)]
    refine ⟨conn, hconn, by grind [Call.Facts], fun e he => ?_⟩
    have hold := ht.entry e he
    cases e <;> grind [Call.Facts, Call.Allows, UserPc.Allows, Entry.Of, stores, Mentions]
  | storeServerUser =>
    obtain ⟨conn, hconn, ⟨hmem, hwritten⟩, hall⟩ := h
    simp only [stepUser, hconn, Option.map_some, Option.some.injEq, Prod.mk.injEq] at hs
    obtain ⟨rfl, rfl⟩ := hs
    refine settled_of_entries hmem hconn fun e he => ?_
    obtain ⟨hold, -⟩ | ⟨-, hstores⟩ := ht.entry e he
    · exact hall e hold
    · rw [stores, hconn] at hstores
      cases hstores
      exact congrArg _ hwritten.symm
  | returned => cases hs
  | _ =>
    obtain ⟨conn, hconn, hfacts, hall⟩ := h
    simp only [stepUser, hconn, Option.map_some, Option.some.injEq, Prod.mk.injEq] at hs
    obtain ⟨rfl, rfl⟩ := hs
    rw [Call.Fits, if_pos (by first | rfl | split <;> rfl)]
    refine ⟨conn, hconn, ?_, fun e he => ?_⟩
    · grind [Call.Facts]
    · have hold := ht.entry e he
      cases e <;> grind [Call.Facts, Call.Allows, UserPc.Allows, Entry.Of, drops, stores,
        target, Mentions]

theorem Call.Fits.step (h : t.Fits cm c) (htarget : t.target = c) (hg : cm.Replaces t)
    (hs : cm.stepCall host t = some (cm', t')) : t'.Fits cm' c := by
  have ht := touches_of_stepCall (c := c) hs
  subst htarget
  cases t <;> obtain ⟨⟨cm₁, pc'⟩, hpc, heq⟩ := Option.map_eq_some_iff.mp hs <;> cases heq
  · exact h.addConnection ht hpc
  · exact h.removeConnection ht hpc
  · exact h.setConnectionServerID hg ht hpc
  · exact h.setConnectionAccountID hg ht hpc
  · exact h.updateConnectionUserUUID hg ht hpc

/-! ### Steps of calls for other connections -/

theorem target_of_stepCall (hs : cm.stepCall host t = some (cm', t')) : t'.target = t.target := by
  cases t <;> obtain ⟨r, -, heq⟩ := Option.map_eq_some_iff.mp hs <;> cases heq <;> rfl

section

variable (ht : Touches c cm t cm') (hne : t.target ≠ c)
include ht hne

theorem Touches.mentions {e : Entry} (he : cm'.Mentions c e) : cm.Mentions c e :=
  (ht.entry e he).elim And.left fun h => absurd h.1 hne

theorem Touches.settled (h : cm.Settled c) : cm'.Settled c := by
  obtain ⟨hobj, hmem⟩ := ht.other hne
  intro e he
  rw [hobj, hmem]
  exact h e (ht.mentions hne he)

theorem Touches.sound {u : Call} (h : u.Sound cm c) : u.Sound cm' c := by
  obtain ⟨hobj, hmem⟩ := ht.other hne
  obtain ⟨conn, hconn, hfacts, hall⟩ := h
  exact ⟨conn, hobj.trans hconn, propext hmem ▸ hfacts, fun e he => hall e (ht.mentions hne he)⟩

end

end

/-! ## Every run -/

/-- The entries of every connection, in terms of the call in progress on it. -/
def Tidy (w : World ConnectionManager Call) : Prop :=
  ∀ c, (∀ t ∈ w.threads, t.target = c → t.busy = true → t.Sound w.shared c) ∧
    ((∀ t ∈ w.threads, t.target = c → t.busy = false) → w.shared.Settled c)

theorem Tidy.noneDangling {w : World ConnectionManager Call} (h : Tidy w) : NoneDangling w :=
  fun c hgone hquiet e he => hgone (((h c).2 hquiet) e he).1

theorem Tidy.exec {host : String → String} {w w' : World ConnectionManager Call} {a : Action Call Unit}
    (hw : Tidy w) (hg : Apart w a) (h : (calls host).exec w a = some w') : Tidy w' := by
  intro c
  obtain ⟨hsound, hsettled⟩ := hw c
  obtain ⟨t, -, hnew, rfl⟩ | ⟨i, t, cm, t', rfl, hti, hs, rfl⟩ := calls_exec_cases h
  · refine ⟨fun u hu htarget hbusy => ?_, fun hquiet => ?_⟩
    · rcases of_mem_snoc hu with hu | rfl
      · exact hsound u hu htarget hbusy
      · rw [busy, hnew] at hbusy
        cases hbusy
    · exact hsettled fun u hu => hquiet u (List.mem_append_left _ hu)
  · obtain ⟨hreplaces, halone⟩ := hg t hti
    have htouches := touches_of_stepCall (c := c) hs
    obtain ⟨hi, hget⟩ := List.getElem?_eq_some_iff.mp hti
    -- the thread that steps, and the others
    have hbefore (u : Call) : u ∈ w.threads ↔ u = t ∨ u ∈ w.threads.eraseIdx i := by
      rw [← (List.getElem_cons_eraseIdx_perm hi).mem_iff, List.mem_cons, hget]
    have hafter (u : Call) : u ∈ w.threads.set i t' ↔ u = t' ∨ u ∈ w.threads.eraseIdx i := by
      rw [(List.set_perm_cons_eraseIdx hi t').mem_iff, List.mem_cons]
    have htarget' := target_of_stepCall hs
    by_cases htarget : t.target = c
    · have hfits : t.Fits w.shared c := by
        rw [Call.Fits]
        split
        · exact hsound t ((hbefore t).mpr (.inl rfl)) htarget ‹_›
        · refine hsettled fun u hu hutarget => ?_
          rcases (hbefore u).mp hu with rfl | hother
          · exact Bool.eq_false_iff.mpr ‹_›
          · exact halone u hother (hutarget.trans htarget.symm)
      have hfits' := hfits.step htarget hreplaces hs
      rw [Call.Fits] at hfits'
      refine ⟨fun u hu hutarget hbusy => ?_, fun hquiet => ?_⟩
      · rcases (hafter u).mp hu with rfl | hother
        · rwa [if_pos hbusy] at hfits'
        · cases hbusy.symm.trans (halone u hother (hutarget.trans htarget.symm))
      · rwa [if_neg (Bool.eq_false_iff.mp (hquiet t' ((hafter t').mpr (.inl rfl)) (htarget'.trans htarget)))]
          at hfits'
    · refine ⟨fun u hu hutarget hbusy => ?_, fun hquiet => ?_⟩
      · rcases (hafter u).mp hu with rfl | hother
        · exact absurd (htarget'.symm.trans hutarget) htarget
        · exact htouches.sound htarget (hsound u ((hbefore u).mpr (.inr hother)) hutarget hbusy)
      · refine htouches.settled htarget (hsettled fun u hu hutarget => ?_)
        rcases (hbefore u).mp hu with rfl | hother
        · exact absurd hutarget htarget
        · exact hquiet u ((hafter u).mpr (.inr hother)) hutarget

/-- **No dangling entries** in any state of a run in which calls on one connection do not overlap and
no write leaves an entry of an old attribute behind, however the calls on different connections
interleave. -/
theorem noneDangling_of_apart (host : String → String) (as : List (Action Call Unit))
    (hguard : (calls host).Guarded Apart noCalls as) :
    (calls host).Throughout NoneDangling noCalls as := by
  refine Transition.throughout_of_guarded (J := Tidy) (fun w hw => hw.noneDangling)
    (fun w a w' hw hg h => hw.exec hg h) (fun c => ?_) hguard
  exact ⟨fun t ht => absurd ht List.not_mem_nil, fun _ e he => by cases e <;> cases he⟩

/-- A connection is opened, logs in as a user of a server with an account, and is removed. -/
def loginThenRemoval : List (Action Call Unit) :=
  .start (.addConnection "c" "10.0.0.1" "" .connections) :: List.replicate 6 (.step 0 ()) ++
    .start (.setConnectionServerID "c" "s" .lookup) :: List.replicate 3 (.step 1 ()) ++
    .start (.updateConnectionUserUUID "c" "u" .lookup) :: List.replicate 6 (.step 2 ()) ++
    .start (.setConnectionAccountID "c" "a" .lookup) :: List.replicate 3 (.step 3 ()) ++
    .start (.removeConnection "c" .load) :: List.replicate 14 (.step 4 ())

theorem loginThenRemoval_noneDangling :
    (((calls id).run noCalls loginThenRemoval).any fun w => Quiet w ∧ "c" ∉ w.shared.connections) ∧
      (calls id).Throughout NoneDangling noCalls loginThenRemoval :=
  ⟨by decide +kernel, noneDangling_of_apart id loginThenRemoval (by decide +kernel)⟩

/-- A worker has looked a connection up; the connection is removed; the worker goes on. -/
def removalWithinLogin : List (Action Call Unit) :=
  .start (.addConnection "c" "10.0.0.1" "" .connections) :: List.replicate 6 (.step 0 ()) ++
    [.start (.setConnectionServerID "c" "s" .lookup), .step 1 (),
      .start (.removeConnection "c" .load)] ++ List.replicate 12 (.step 2 ()) ++ [.step 1 (), .step 1 ()]

/-- **A dangling entry**: all calls have returned, the connection is gone, and the index by server names
it. -/
theorem removalWithinLogin_dangles :
    ((calls id).run noCalls removalWithinLogin).map (fun w =>
      (decide (Quiet w), w.shared.connections, w.shared.serverConnections "s")) =
        some (true, [], some "c") ∧
      ¬ (calls id).Throughout NoneDangling noCalls removalWithinLogin := by
  refine ⟨by decide +kernel, fun h => ?_⟩
  obtain ⟨w, hw, hquiet, hgone, hentry⟩ : ∃ w, (calls id).run noCalls removalWithinLogin = some w ∧
      Quiet w ∧ w.shared.connections = [] ∧ w.shared.serverConnections "s" = some "c" :=
    Transition.exists_end (by decide +kernel)
  refine h.finish hw "c" (by simp [hgone]) (fun t ht _ => ?_)
    (.server "s") hentry
  simp [busy, hquiet t ht]

end Sgate.ConnectionManager
