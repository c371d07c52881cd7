import Sgate.Connection.Addresses
import Mathlib.Data.Finset.Card

/-! # Connections per address

`ipConnections` counts connections by address. `RemoveConnection` counts down the host it reads from
the textual address, which `SetRemoteHost` has rewritten by then. `guarded_of_plainAddresses` says that
the counters stay exact as long as no IPv6 address is replaced or put in place of another one. -/

namespace Sgate

open Transition KeyMap

namespace ConnectionManager

/-! ## Exact counters -/

def hosts (cm : ConnectionManager) : KeyMap String String :=
  KeyMap.map Connection.remoteHostOf cm.getConnection

def connectionsFrom (cm : ConnectionManager) (ip : String) : Finset String :=
  cm.connections.toFinset.filter fun c => cm.hosts c = some ip

/-- **The counters are exact.** -/
def IPCounted (cm : ConnectionManager) : Prop :=
  ∀ ip, cm.ipConnections ip = (cm.connectionsFrom ip).card

/-- A connection is opened from an address with a host, and removed while the host is found again in
its address. -/
def CountGuard (cm : ConnectionManager) : Op → Prop
  | .addConnection c addr _ => cm.objects c = none → hostOf addr ≠ ""
  | .removeConnection c => ∀ conn, cm.getConnection c = some conn →
      hostOf conn.remoteAddr = conn.remoteHostOf
  | _ => True

/-- The counters of all addresses but the empty one are exact. The counter of the empty address is
never used. -/
def Counted (cm : ConnectionManager) : Prop :=
  ∀ ip, ip ≠ "" → cm.ipConnections ip = (cm.connectionsFrom ip).card

/-- Every registered connection has an address, and the empty one counts nothing. -/
structure Named (cm : ConnectionManager) : Prop where
  named : ∀ c, cm.hosts c ≠ some ""
  unused : cm.ipConnections "" = 0

section

variable {cm cm' : ConnectionManager} {host : String → String} {op : Op} {conn : Connection}
  {c id h v w : String} (ip : String)

theorem hosts_of_getConnection (hconn : cm.getConnection c = some conn) :
    cm.hosts c = some conn.remoteHostOf := map_eq_some.mpr ⟨conn, hconn, rfl⟩

theorem hosts_of_none (hnone : cm.getConnection c = none) : cm.hosts c = none := by
  rw [hosts, map, hnone]
  rfl

variable {ip} in
theorem mem_connectionsFrom : c ∈ cm.connectionsFrom ip ↔ cm.hosts c = some ip := by
  rw [connectionsFrom, Finset.mem_filter, List.mem_toFinset, and_iff_right_iff_imp]
  intro hc
  obtain ⟨conn, hconn, -⟩ := map_eq_some.mp hc
  exact mem_connections_iff.mpr ⟨conn, hconn⟩

/-! ### The number of connections from an address -/

theorem connectionsFrom_congr (hs : cm'.hosts = cm.hosts) :
    cm'.connectionsFrom ip = cm.connectionsFrom ip := by
  ext c
  rw [mem_connectionsFrom, mem_connectionsFrom, hs]

theorem card_erase_add (s : Finset String) (id : String) :
    (s.erase id).card + (if id ∈ s then 1 else 0) = s.card := by
  split
  · exact Finset.card_erase_add_one ‹_›
  · rw [Finset.erase_eq_of_notMem ‹_›, Nat.add_zero]

/-- With one connection left out, two managers that agree about the others count the same. -/
theorem card_connectionsFrom (hsame : ∀ c, c ≠ id → cm'.hosts c = cm.hosts c) :
    (cm'.connectionsFrom ip).card + (if cm.hosts id = some ip then 1 else 0) =
      (cm.connectionsFrom ip).card + if cm'.hosts id = some ip then 1 else 0 := by
  have hothers : (cm'.connectionsFrom ip).erase id = (cm.connectionsFrom ip).erase id := by
    ext c
    rw [Finset.mem_erase, Finset.mem_erase, mem_connectionsFrom, mem_connectionsFrom]
    exact and_congr_right fun hc => by rw [hsame c hc]
  have hold := card_erase_add (cm.connectionsFrom ip) id
  have hnew := card_erase_add (cm'.connectionsFrom ip) id
  simp only [mem_connectionsFrom, hothers] at hold hnew
  omega

theorem card_connectionsFrom_store (hs : cm'.hosts = cm.hosts.store id h) :
    (cm'.connectionsFrom ip).card + (if cm.hosts id = some ip then 1 else 0) =
      (cm.connectionsFrom ip).card + if ip = h then 1 else 0 := by
  have hsame (c : String) (hc : c ≠ id) : cm'.hosts c = cm.hosts c := by
    rw [hs, store_of_ne _ _ hc]
  simpa [hs, eq_comm] using card_connectionsFrom ip hsame

theorem card_connectionsFrom_delete (hs : cm'.hosts = cm.hosts.delete id) :
    (cm'.connectionsFrom ip).card + (if cm.hosts id = some ip then 1 else 0) =
      (cm.connectionsFrom ip).card := by
  have hsame (c : String) (hc : c ≠ id) : cm'.hosts c = cm.hosts c := by
    rw [hs, delete_of_ne _ hc]
  simpa [hs] using card_connectionsFrom ip hsame

/-! ### The counters -/

variable {ip}

section

variable (m : String → ℕ)

theorem countUp_apply (hip : ip ≠ "") : countUp m h ip = m ip + if ip = h then 1 else 0 := by
  unfold countUp
  by_cases hh : h = ""
  · rw [if_pos hh, if_neg (hh ▸ hip), Nat.add_zero]
  · rw [if_neg hh, Function.update_apply]
    split
    · subst ip
      rfl
    · rfl

theorem countDown_apply (hip : ip ≠ "") : countDown m h ip = m ip - if ip = h then 1 else 0 := by
  unfold countDown
  by_cases hh : h = ""
  · rw [if_pos hh, if_neg (hh ▸ hip), Nat.sub_zero]
  · rw [if_neg hh, Function.update_apply]
    split
    · subst ip
      rfl
    · rfl

theorem countUp_empty : countUp m h "" = m "" := by
  unfold countUp
  split
  · rfl
  · rename_i hh
    exact Function.update_of_ne (Ne.symm hh) ..

theorem countDown_empty : countDown m h "" = m "" := by
  unfold countDown
  split
  · rfl
  · rename_i hh
    exact Function.update_of_ne (Ne.symm hh) ..

end

theorem hosts_exec (hs : cm.exec host op = some cm') :
    cm'.hosts = map Connection.remoteHostOf (op.live cm.getConnection) :=
  congrArg (fun t : Tables => map Connection.remoteHostOf t.live) (tables_exec hs)

theorem ipConnections_exec (hs : cm.exec host op = some cm') :
    cm'.ipConnections = op.counts host cm.getConnection cm.ipConnections :=
  congrArg Tables.counts (tables_exec hs)

/-! ## What an operation does to the addresses -/

variable {addr userUUID : String}

theorem hosts_addConnection (hs : cm.exec hostOf (.addConnection id addr userUUID) = some cm') :
    cm.objects id = none ∧ cm'.hosts = cm.hosts.store id (hostOf addr) ∧
      ∀ ip, (cm'.connectionsFrom ip).card =
        (cm.connectionsFrom ip).card + if ip = hostOf addr then 1 else 0 := by
  have hfresh : cm.objects id = none := (exec_addConnection hs).1
  have hhosts : cm'.hosts = cm.hosts.store id (hostOf addr) := by
    rw [hosts_exec hs, Op.live, map_store]
    rfl
  refine ⟨hfresh, hhosts, fun ip => ?_⟩
  have hcard := card_connectionsFrom_store ip hhosts
  rwa [hosts_of_none (getConnection_of_objects_none hfresh), if_neg (by simp), Nat.add_zero] at hcard

theorem hosts_removeConnection (hs : cm.exec host (.removeConnection id) = some cm') :
    cm'.hosts = cm.hosts.delete id := by
  rw [hosts_exec hs]
  exact map_delete ..

theorem hosts_updateConnectionIP (hs : cm.exec host (.updateConnectionIP id w) = some cm')
    (hconn : cm.getConnection id = some conn) (hmoves : ¬ (w = "" ∨ conn.remoteHostOf = w)) :
    cm'.hosts = cm.hosts.store id w ∧
      cm'.ipConnections = countUp (countDown cm.ipConnections conn.remoteHostOf) w := by
  constructor
  · rw [hosts_exec hs]
    funext c
    rw [store_apply, Op.live, map, modify_apply]
    split
    · subst c
      rw [hconn, Option.map_some, if_neg hmoves]
      rfl
    · rfl
  · rw [ipConnections_exec hs]
    simp only [Op.counts, hconn, if_neg hmoves]

theorem hosts_updateConnectionIP_stays (hs : cm.exec host (.updateConnectionIP id w) = some cm')
    (hstay : ∀ conn, cm.getConnection id = some conn → w = "" ∨ conn.remoteHostOf = w) :
    cm'.hosts = cm.hosts ∧ cm'.ipConnections = cm.ipConnections := by
  cases hconn : cm.getConnection id with
  | none =>
    rw [hosts_exec hs, ipConnections_exec hs, Op.live, modify_of_none _ hconn]
    refine ⟨rfl, ?_⟩
    simp only [Op.counts, hconn]
  | some conn =>
    have hsame := hstay conn hconn
    constructor
    · rw [hosts_exec hs, Op.live]
      funext c
      rw [map, modify_apply]
      split
      · subst c
        rw [hosts_of_getConnection hconn, hconn, Option.map_some, if_pos hsame]
        rfl
      · rfl
    · rw [ipConnections_exec hs]
      simp only [Op.counts, hconn, if_pos hsame]

theorem hosts_others (hs : cm.exec host op = some cm')
    (hadd : ∀ id addr userUUID, op ≠ .addConnection id addr userUUID)
    (hremove : ∀ id, op ≠ .removeConnection id)
    (hmove : ∀ id newIP, op ≠ .updateConnectionIP id newIP) :
    cm'.hosts = cm.hosts ∧ cm'.ipConnections = cm.ipConnections := by
  constructor
  · refine map_getConnection_exec hs hadd hremove fun x => ?_
    cases op with
    | updateConnectionIP id newIP => exact absurd rfl (hmove id newIP)
    | setConnectionAccountID _ _ | setConnectionLoginKey _ _ =>
      simp only [Op.rewrite]
      split <;> rfl
    | _ => rfl
  · rw [ipConnections_exec hs]
    cases op with
    | addConnection id addr userUUID => exact absurd rfl (hadd id addr userUUID)
    | removeConnection id => exact absurd rfl (hremove id)
    | updateConnectionIP id newIP => exact absurd rfl (hmove id newIP)
    | _ => rfl

/-! ## One operation -/

section

variable (hc : cm.Counted)
include hc

theorem Counted.congr (hhosts : cm'.hosts = cm.hosts)
    (hcounts : cm'.ipConnections = cm.ipConnections) : cm'.Counted := by
  intro ip hip
  rw [hcounts, connectionsFrom_congr ip hhosts]
  exact hc ip hip

theorem Counted.addConnection (hs : cm.exec hostOf (.addConnection id addr userUUID) = some cm') :
    cm'.Counted := by
  intro ip hip
  rw [ipConnections_exec hs, (hosts_addConnection hs).2.2, ← hc ip hip]
  exact countUp_apply _ hip

theorem Counted.removeConnection (hg : cm.CountGuard (.removeConnection id))
    (hs : cm.exec hostOf (.removeConnection id) = some cm') : cm'.Counted := by
  intro ip hip
  have hhosts := hosts_removeConnection hs
  have hcounts := ipConnections_exec hs
  cases hconn : cm.getConnection id with
  | none =>
    have hsame : cm' = cm := by
      cases hs
      exact removeConnection_of_none hconn
    rw [hsame]
    exact hc ip hip
  | some conn =>
    simp only [Op.counts, hconn] at hcounts
    have hcard := card_connectionsFrom_delete ip hhosts
    simp only [hosts_of_getConnection hconn, Option.some.injEq, eq_comm] at hcard
    rw [hcounts, hg conn hconn, countDown_apply _ hip, hc ip hip]
    omega

theorem Counted.updateConnectionIP (hs : cm.exec hostOf (.updateConnectionIP id w) = some cm') :
    cm'.Counted := by
  by_cases hstay : ∀ conn, cm.getConnection id = some conn → w = "" ∨ conn.remoteHostOf = w
  · obtain ⟨hhosts, hcounts⟩ := hosts_updateConnectionIP_stays hs hstay
    exact hc.congr hhosts hcounts
  · simp only [not_forall] at hstay
    obtain ⟨conn, hconn, hmoves⟩ := hstay
    obtain ⟨hhosts, hcounts⟩ := hosts_updateConnectionIP hs hconn hmoves
    have hid := hosts_of_getConnection hconn
    intro ip hip
    have hcard := card_connectionsFrom_store ip hhosts
    rw [hcounts, countUp_apply _ hip, countDown_apply _ hip, hc ip hip]
    by_cases hold : conn.remoteHostOf = ip
    · have hpos : 0 < (cm.connectionsFrom ip).card := by
        rw [← hold]
        exact Finset.card_pos.mpr ⟨id, mem_connectionsFrom.mpr hid⟩
      rw [hid, if_pos (congrArg some hold)] at hcard
      rw [if_pos hold.symm]
      omega
    · rw [hid, if_neg (fun h => hold (Option.some.inj h))] at hcard
      rw [if_neg (Ne.symm hold)]
      omega

/-- **One operation.** Only a removal can make a counter wrong. -/
theorem Counted.exec (hg : ∀ id, op = .removeConnection id → cm.CountGuard (.removeConnection id))
    (hs : cm.exec hostOf op = some cm') : cm'.Counted := by
  cases op with
  | addConnection id addr userUUID => exact hc.addConnection hs
  | removeConnection id => exact hc.removeConnection (hg id rfl) hs
  | updateConnectionIP id newIP => exact hc.updateConnectionIP hs
  | _ =>
    obtain ⟨hhosts, hcounts⟩ := hosts_others hs (by simp) (by simp) (by simp)
    exact hc.congr hhosts hcounts

end

theorem Named.exec (hn : cm.Named) (hg : cm.CountGuard op) (hs : cm.exec hostOf op = some cm') :
    cm'.Named := by
  cases op with
  | addConnection id addr userUUID =>
    obtain ⟨hfresh, hhosts, -⟩ := hosts_addConnection hs
    refine ⟨fun c => ?_, ?_⟩
    · rw [hhosts, store_apply]
      split
      · simpa using hg hfresh
      · exact hn.named c
    · rw [ipConnections_exec hs, Op.counts, countUp_empty]
      exact hn.unused
  | removeConnection id =>
    refine ⟨fun c => ?_, ?_⟩
    · rw [hosts_removeConnection hs, delete_apply]
      split
      · simp
      · exact hn.named c
    · rw [ipConnections_exec hs, Op.counts]
      cases cm.getConnection id with
      | none => exact hn.unused
      | some conn => exact (countDown_empty _).trans hn.unused
  | updateConnectionIP id newIP =>
    by_cases hstay : ∀ conn, cm.getConnection id = some conn →
        newIP = "" ∨ conn.remoteHostOf = newIP
    · obtain ⟨hhosts, hcounts⟩ := hosts_updateConnectionIP_stays hs hstay
      exact ⟨hhosts ▸ hn.named, hcounts ▸ hn.unused⟩
    · simp only [not_forall] at hstay
      obtain ⟨conn, hconn, hmoves⟩ := hstay
      obtain ⟨hhosts, hcounts⟩ := hosts_updateConnectionIP hs hconn hmoves
      refine ⟨fun c => ?_, ?_⟩
      · rw [hhosts, store_apply]
        split
        · simpa using (not_or.mp hmoves).1
        · exact hn.named c
      · rw [hcounts, countUp_empty, countDown_empty]
        exact hn.unused
  | _ =>
    obtain ⟨hhosts, hcounts⟩ := hosts_others hs (by simp) (by simp) (by simp)
    exact ⟨hhosts ▸ hn.named, hcounts ▸ hn.unused⟩

theorem ipCounted_of_counted (hc : cm.Counted) (hn : cm.Named) : cm.IPCounted := by
  intro ip
  by_cases hip : ip = ""
  · rw [hip, hn.unused]
    symm
    rw [Finset.card_eq_zero, Finset.eq_empty_iff_forall_notMem]
    intro c hmem
    exact hn.named c (mem_connectionsFrom.mp hmem)
  · exact hc ip hip

theorem counted_new : newConnectionManager.Counted := fun _ _ => rfl

theorem named_new : newConnectionManager.Named := by
  refine ⟨fun c h => ?_, rfl⟩
  cases h

/-! ## The operations that leave a counter wrong -/

theorem not_ipCounted_addConnection (hn : cm.Named) (hh : hostOf addr = "")
    (hs : cm.exec hostOf (.addConnection id addr userUUID) = some cm') : ¬ cm'.IPCounted := by
  intro hi
  have hcount := hi ""
  rw [ipConnections_exec hs, (hosts_addConnection hs).2.2, Op.counts, countUp_empty, hn.unused, hh,
    if_pos rfl] at hcount
  omega

theorem not_ipCounted_removeConnection (hi : cm.IPCounted) (hconn : cm.getConnection id = some conn)
    (hne : hostOf conn.remoteAddr ≠ conn.remoteHostOf)
    (hs : cm.exec hostOf (.removeConnection id) = some cm') : ¬ cm'.IPCounted := by
  intro hi'
  have hcount := hi' conn.remoteHostOf
  have hkept : cm'.ipConnections conn.remoteHostOf = cm.ipConnections conn.remoteHostOf := by
    rw [ipConnections_exec hs]
    simp only [Op.counts, hconn, countDown]
    split
    · rfl
    · exact Function.update_of_ne (Ne.symm hne) ..
  have hcard := card_connectionsFrom_delete conn.remoteHostOf (hosts_removeConnection hs)
  rw [if_pos (hosts_of_getConnection hconn)] at hcard
  rw [hkept, hi] at hcount
  omega

theorem not_ipCounted (hc : cm.Counted) (hn : cm.Named) (hg : ¬ cm.CountGuard op) :
    ∃ cm', cm.exec hostOf op = some cm' ∧ ¬ cm'.IPCounted := by
  cases op with
  | addConnection id addr userUUID =>
    simp only [CountGuard, Classical.not_imp, ne_eq, not_not] at hg
    obtain ⟨hfresh, hh⟩ := hg
    have hs : cm.exec hostOf (.addConnection id addr userUUID) =
        some (cm.addConnection hostOf id addr userUUID) := by
      rw [ConnectionManager.exec, hfresh]
      rfl
    exact ⟨_, hs, not_ipCounted_addConnection hn hh hs⟩
  | removeConnection id =>
    simp only [CountGuard, not_forall] at hg
    obtain ⟨conn, hconn, hne⟩ := hg
    exact ⟨_, rfl, not_ipCounted_removeConnection (ipCounted_of_counted hc hn) hconn hne rfl⟩
  | _ => exact absurd trivial hg

end

/-- **The counters per address, exactly.** For every sequence of operations, with any addresses, the
counters are exact after each of them iff every operation meets `CountGuard`. -/
theorem ipCounted_iff (ops : List Op) :
    Throughout (exec hostOf) IPCounted newConnectionManager ops ↔
      Guarded (exec hostOf) CountGuard newConnectionManager ops := by
  refine throughout_iff_guarded (J := fun cm => cm.Counted ∧ cm.Named) ?_ ?_ ?_
    ⟨counted_new, named_new⟩
  · rintro cm ⟨hc, hn⟩
    exact ipCounted_of_counted hc hn
  · rintro cm op cm' ⟨hc, hn⟩ hg hs
    exact ⟨hc.exec (fun id hop => hop ▸ hg) hs, hn.exec hg hs⟩
  · rintro cm op ⟨hc, hn⟩ hg
    exact not_ipCounted hc hn hg

def movedToIPv6 : List Op :=
  [.addConnection "c" "10.0.0.1:5000" "temp_1", .updateConnectionIP "c" "2001:db8::1",
    .removeConnection "c"]

/-- The counter of the IPv6 address stays at one when no connection is left. -/
theorem movedToIPv6_leaves_count :
    ¬ Throughout (exec hostOf) IPCounted newConnectionManager movedToIPv6 := by
  intro h
  obtain ⟨cm, hrun, hwrong⟩ : ∃ cm, run (exec hostOf) newConnectionManager movedToIPv6 = some cm ∧
      ¬ cm.ipConnections "2001:db8::1" = (cm.connectionsFrom "2001:db8::1").card :=
    exists_end (by decide +kernel)
  exact hwrong (h.finish hrun "2001:db8::1")

/-! ## Plain addresses -/

/-- The addresses of a call have no IPv6 form: a plain host and port, or a plain new host. -/
def PlainAddresses : Op → Prop
  | .addConnection _ addr _ =>
    ∃ host port, addr = host ++ ":" ++ port ∧ host ≠ "" ∧ PlainText host ∧ PlainText port
  | .updateConnectionIP _ newIP => PlainText newIP
  | _ => True

/-- The address of a connection is its host and a port, both plain. -/
def PlainlyAddressed (conn : Connection) : Prop :=
  ∃ port, conn.remoteAddr = conn.remoteHostOf ++ ":" ++ port ∧ PlainText conn.remoteHostOf ∧
    PlainText port

section

variable {cm cm' : ConnectionManager} {op : Op} {conn : Connection} {newIP : String}

theorem PlainlyAddressed.setRemoteHost (h : PlainlyAddressed conn) (hip : PlainText newIP) :
    PlainlyAddressed (conn.setRemoteHost newIP) := by
  obtain ⟨port, haddr, hhost, hport⟩ := h
  refine ⟨port, ?_, hip, hport⟩
  apply Connection.remoteAddr_setRemoteHost
  rw [haddr]
  exact cutPort_append hhost.1

theorem plainlyAddressed_exec (h : ∀ c conn, cm.getConnection c = some conn → PlainlyAddressed conn)
    (hg : PlainAddresses op) (hs : cm.exec hostOf op = some cm') :
    ∀ c conn, cm'.getConnection c = some conn → PlainlyAddressed conn := by
  cases op with
  | addConnection id addr userUUID =>
    obtain ⟨host, port, rfl, -, hhost, hport⟩ := hg
    rw [(exec_addConnection hs).2, getConnection_addConnection]
    refine forall_store ?_ fun c conn _ hconn => h c conn hconn
    have hfound : hostOf (host ++ ":" ++ port) = host := hostOf_append_iff.mpr ⟨hhost, hport⟩
    rw [PlainlyAddressed, Connection.remoteHostOf_of_none rfl, hfound]
    exact ⟨port, rfl, hhost, hport⟩
  | removeConnection id =>
    cases hs
    intro c conn hconn
    rw [getConnection_removeConnection, delete_apply] at hconn
    split at hconn
    · cases hconn
    · exact h c conn hconn
  | updateConnectionIP id newIP =>
    rw [(exec_rewrites hs (by simp) (by simp)).getConnection]
    refine forall_modify h fun _ conn hconn => ?_
    simp only [Op.rewrite]
    split
    · exact hconn
    · exact hconn.setRemoteHost hg
  | setConnectionAccountID _ _ | setConnectionLoginKey _ _ =>
    rw [(exec_rewrites hs (by simp) (by simp)).getConnection]
    refine forall_modify h fun _ conn hconn => ?_
    simp only [Op.rewrite]
    split <;> exact hconn
  | _ =>
    rw [(exec_rewrites hs (by simp) (by simp)).getConnection]
    exact forall_modify h fun _ _ hconn => hconn

end

theorem guarded_of_plainAddresses (ops : List Op) (h : ∀ op ∈ ops, PlainAddresses op) :
    Guarded (exec hostOf) CountGuard newConnectionManager ops := by
  have hplain : Guarded (exec hostOf) (fun _ op => PlainAddresses op) newConnectionManager ops :=
    guarded_of_forall_mem fun op hop _ => h op hop
  refine hplain.exchange
    (J := fun cm => ∀ c conn, cm.getConnection c = some conn → PlainlyAddressed conn)
    (fun _ _ _ hc hg hs => plainlyAddressed_exec hc hg hs) (fun cm op hc hg => ?_)
    (fun c conn hconn => by cases hconn)
  cases op with
  | addConnection id addr userUUID =>
    obtain ⟨host, port, rfl, hne, hhost, hport⟩ := hg
    intro _
    rw [hostOf_append_iff.mpr ⟨hhost, hport⟩]
    exact hne
  | removeConnection id =>
    intro conn hconn
    obtain ⟨port, haddr, hhost, hport⟩ := hc id conn hconn
    rw [haddr]
    exact hostOf_append_iff.mpr ⟨hhost, hport⟩
  | _ => trivial

/-- **Plain addresses keep the counters exact**: after each of any number of calls about IPv4 sockets,
moved to IPv4 addresses. -/
theorem ipCounted_of_plainAddresses (ops : List Op) (h : ∀ op ∈ ops, PlainAddresses op) :
    Throughout (exec hostOf) IPCounted newConnectionManager ops := by
  refine throughout_of_guarded (J := fun cm => cm.Counted ∧ cm.Named)
    (fun cm h => ipCounted_of_counted h.1 h.2) ?_ ⟨counted_new, named_new⟩ (guarded_of_plainAddresses ops h)
  rintro cm op cm' ⟨hc, hn⟩ hg hs
  exact ⟨hc.exec (fun id hop => hop ▸ hg) hs, hn.exec hg hs⟩

theorem ipCounted_of_plainAddresses_moved : Throughout (exec hostOf) IPCounted newConnectionManager
    [.addConnection "c" "10.0.0.1:5000" "u", .updateConnectionIP "c" "10.0.0.2", .removeConnection "c"] :=
  ipCounted_of_plainAddresses _ (by simp [PlainAddresses]; exact ⟨⟨"10.0.0.1", "5000", by decide⟩, by decide⟩)

end ConnectionManager

end Sgate
