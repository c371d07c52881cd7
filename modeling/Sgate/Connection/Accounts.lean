import Sgate.Connection.Operations
import Mathlib.Data.Multiset.Bind

/-! # The account index

`accountConnections` keeps for every account the set of its connections. A connection that logs in
under another account stays in the set of the old one, and `RemoveConnection` only knows the latest. The
argument is about an attribute of keys and a map of sets (`Fibres`). -/

namespace Sgate

open Transition KeyMap

/-! ## Fibres of an attribute -/

section Fibres

variable {m : KeyMap String (Finset String)} {attr : KeyMap String String} {a b c id : String}

/-- The sets of `m` are the fibres of the attribute over the values other than the empty one, and
none of them is stored empty. -/
structure Fibres (attr : KeyMap String String) (m : KeyMap String (Finset String)) : Prop where
  member : ∀ a c, a ≠ "" → (c ∈ (m a).getD ∅ ↔ attr c = some a)
  nonempty : ∀ a, m a ≠ some ∅

theorem fibres_empty : Fibres .empty .empty := by
  constructor
  · intro a c _
    simp
  · intro a h
    cases h

theorem mem_dropAccount : c ∈ (dropAccount m b id a).getD ∅ ↔
    c ∈ (m a).getD ∅ ∧ ¬ (a = b ∧ c = id) := by
  unfold dropAccount
  cases hb : m b with
  | none =>
    refine ⟨fun h => ⟨h, ?_⟩, And.left⟩
    rintro ⟨rfl, -⟩
    have hempty : c ∈ (m a).getD ∅ := h
    rw [hb] at hempty
    exact absurd hempty (Finset.notMem_empty c)
  | some set =>
    by_cases hab : a = b
    · subst a
      have hset : (if set.erase id = ∅ then m.delete b else m.store b (set.erase id)) b =
          if set.erase id = ∅ then none else some (set.erase id) := by
        split
        · exact delete_self ..
        · exact store_self ..
      simp only [hset, hb, Option.getD_some, true_and]
      rw [and_comm, ← Finset.mem_erase]
      split
      · rename_i hempty
        rw [hempty]
        rfl
      · rfl
    · have hset : (if set.erase id = ∅ then m.delete b else m.store b (set.erase id)) a = m a := by
        split
        · exact delete_of_ne _ hab
        · exact store_of_ne _ _ hab
      simp [hset, hab]

theorem dropAccount_ne_empty (h : ∀ a, m a ≠ some ∅) : dropAccount m b id a ≠ some ∅ := by
  unfold dropAccount
  cases m b with
  | none => exact h a
  | some set =>
    simp only
    split
    · rw [delete_apply]
      split
      · simp
      · exact h a
    · rename_i hne
      rw [store_apply]
      split
      · intro hempty
        exact hne (Option.some.inj hempty)
      · exact h a

theorem Fibres.opened (h : Fibres attr m) (hnew : attr id = none) : Fibres (attr.store id "") m := by
  refine ⟨fun a c ha => ?_, h.nonempty⟩
  rw [h.member a c ha, store_apply]
  by_cases hc : c = id
  · subst c
    rw [if_pos rfl, hnew]
    simp [ha.symm]
  · rw [if_neg hc]

theorem Fibres.removed (h : Fibres attr m) (hid : attr id = some b) :
    Fibres (attr.delete id) (if b ≠ "" then dropAccount m b id else m) := by
  constructor
  · intro a c ha
    -- the key is in the set of its value only
    have hmem : c ∈ ((if b ≠ "" then dropAccount m b id else m) a).getD ∅ ↔
        c ∈ (m a).getD ∅ ∧ ¬ (a = b ∧ c = id) := by
      split
      · exact mem_dropAccount
      · rename_i hb
        refine ⟨fun hc => ⟨hc, ?_⟩, And.left⟩
        rintro ⟨rfl, -⟩
        exact hb ha
    rw [hmem, h.member a c ha, delete_apply]
    by_cases hc : c = id
    · subst c
      rw [if_pos rfl, hid]
      simp [eq_comm]
    · simp [hc]
  · intro a
    split
    · exact dropAccount_ne_empty h.nonempty
    · exact h.nonempty a

theorem Fibres.assigned (h : Fibres attr m) {old : String} (hid : attr id = some old) (hb : b ≠ "")
    (hold : old = "" ∨ old = b) :
    Fibres (attr.modify id fun _ => b) (m.store b (insert id ((m b).getD ∅))) := by
  constructor
  · intro a c ha
    rw [store_apply, modify_apply]
    by_cases hab : a = b
    · subst a
      rw [if_pos rfl, Option.getD_some, Finset.mem_insert, h.member b c hb]
      by_cases hc : c = id
      · subst c
        simp [hid]
      · simp [hc]
    · rw [if_neg hab, h.member a c ha]
      by_cases hc : c = id
      · -- the old value was none or `b`, so the key was not in the set of `a`
        subst c
        rw [if_pos rfl, hid, Option.map_some, Option.some.injEq, Option.some.injEq]
        constructor
        · rintro rfl
          exact absurd hold (not_or.mpr ⟨ha, hab⟩)
        · intro hba
          exact absurd hba.symm hab
      · rw [if_neg hc]
  · intro a
    rw [store_apply]
    split
    · intro hempty
      exact Finset.insert_ne_empty _ _ (Option.some.inj hempty)
    · exact h.nonempty a

end Fibres

namespace ConnectionManager

/-! ## The index -/

/-- `KickByAccounts`: the connections that are kicked, once for every account that finds them; the
source returns their number. -/
def kickByAccounts (cm : ConnectionManager) (accountIDs : List String) : Multiset String :=
  Multiset.bind accountIDs fun accountID =>
    (cm.getAccountConnections accountID).val.filter fun c => (cm.getConnection c).isSome

def LoggedInAs (cm : ConnectionManager) (c accountID : String) : Prop :=
  ∃ conn, cm.getConnection c = some conn ∧ conn.accountID = accountID

/-- **The account index is right.** -/
structure AccountIndexed (cm : ConnectionManager) : Prop where
  member : ∀ a c, a ≠ "" → (c ∈ cm.getAccountConnections a ↔ cm.LoggedInAs c a)
  nonempty : ∀ a, cm.accountConnections a ≠ some ∅
  /-- The kicked connections are those that are logged in. -/
  kicked : ∀ accountIDs, "" ∉ accountIDs → ∀ c,
    c ∈ cm.kickByAccounts accountIDs ↔ ∃ a ∈ accountIDs, cm.LoggedInAs c a

/-- A registered connection gets an account only if it has none, or has it already. -/
def AccountGuard (cm : ConnectionManager) : Op → Prop
  | .setConnectionAccountID c accountID => ∀ conn, cm.getConnection c = some conn →
      accountID ≠ "" → conn.accountID = "" ∨ conn.accountID = accountID
  | _ => True

def account (cm : ConnectionManager) : KeyMap String String :=
  KeyMap.map Connection.accountID cm.getConnection

section

variable {cm cm' : ConnectionManager} {host : String → String} {op : Op} {conn : Connection}
  {a c id : String}

theorem loggedInAs_iff : cm.LoggedInAs c a ↔ cm.account c = some a := map_eq_some.symm

theorem account_of_getConnection (h : cm.getConnection c = some conn) :
    cm.account c = some conn.accountID := map_eq_some.mpr ⟨conn, h, rfl⟩

theorem account_of_none (h : cm.getConnection c = none) : cm.account c = none := by
  rw [account, map, h]
  rfl

theorem accountIndexed_of_fibres (h : Fibres cm.account cm.accountConnections) :
    cm.AccountIndexed where
  member a c ha := by
    rw [loggedInAs_iff]
    exact h.member a c ha
  nonempty := h.nonempty
  kicked accountIDs hempty c := by
    rw [kickByAccounts, Multiset.mem_bind]
    refine exists_congr fun a => and_congr_right fun ha => ?_
    have hne : a ≠ "" := by
      rintro rfl
      exact hempty ha
    have hmem : c ∈ cm.getAccountConnections a ↔ cm.LoggedInAs c a := by
      rw [loggedInAs_iff]
      exact h.member a c hne
    rw [Multiset.mem_filter, Finset.mem_val, hmem, and_iff_left_iff_imp]
    rintro ⟨conn, hconn, -⟩
    rw [hconn]
    rfl

theorem account_exec (h : cm.exec host op = some cm') :
    cm'.account = map Connection.accountID (op.live cm.getConnection) :=
  congrArg (fun t : Tables => map Connection.accountID t.live) (tables_exec h)

theorem accountConnections_exec (h : cm.exec host op = some cm') :
    cm'.accountConnections = op.accounts cm.getConnection cm.accountConnections :=
  congrArg Tables.accounts (tables_exec h)

/-! ## One operation -/

section

variable (h : Fibres cm.account cm.accountConnections)
include h

theorem fibres_same (hs : cm.exec host op = some cm') (haccount : cm'.account = cm.account)
    (hindex : op.accounts cm.getConnection cm.accountConnections = cm.accountConnections) :
    Fibres cm'.account cm'.accountConnections := by
  rw [accountConnections_exec hs, haccount, hindex]
  exact h

theorem fibres_addConnection {addr userUUID : String}
    (hs : cm.exec host (.addConnection id addr userUUID) = some cm') :
    Fibres cm'.account cm'.accountConnections := by
  have hfresh : cm.objects id = none := (exec_addConnection hs).1
  have haccount : cm'.account = cm.account.store id "" := by
    rw [account_exec hs]
    exact map_store ..
  rw [haccount, accountConnections_exec hs]
  exact h.opened (account_of_none (getConnection_of_objects_none hfresh))

theorem fibres_removeConnection (hs : cm.exec host (.removeConnection id) = some cm') :
    Fibres cm'.account cm'.accountConnections := by
  cases hconn : cm.getConnection id with
  | none =>
    have hsame : cm' = cm := by
      cases hs
      exact removeConnection_of_none hconn
    rw [hsame]
    exact h
  | some conn =>
    have haccount : cm'.account = cm.account.delete id := by
      rw [account_exec hs]
      exact map_delete ..
    have hindex := accountConnections_exec hs
    simp only [Op.accounts, hconn] at hindex
    rw [haccount, hindex]
    exact h.removed (account_of_getConnection hconn)

theorem fibres_setConnectionAccountID (hg : cm.AccountGuard (.setConnectionAccountID id a))
    (hs : cm.exec host (.setConnectionAccountID id a) = some cm') :
    Fibres cm'.account cm'.accountConnections := by
  by_cases ha : a = ""
  · refine fibres_same h hs ?_ ?_
    · rw [account_exec hs, Op.live, if_pos ha]
      rfl
    · rw [Op.accounts, if_pos (.inl ha)]
  have haccount : cm'.account = cm.account.modify id fun _ => a := by
    rw [account_exec hs, Op.live, if_neg ha]
    apply map_modify
    intro conn
    rfl
  have hindex := accountConnections_exec hs
  cases hconn : cm.getConnection id with
  | none =>
    refine fibres_same h hs ?_ ?_
    · rw [haccount, modify_of_none _ (account_of_none hconn)]
    · rw [Op.accounts, if_pos (.inr hconn)]
  | some conn =>
    rw [Op.accounts, if_neg (by simp [ha, hconn])] at hindex
    rw [haccount, hindex]
    exact h.assigned (account_of_getConnection hconn) ha (hg conn hconn ha)

/-- **One operation.** -/
theorem fibres_exec (hg : cm.AccountGuard op) (hs : cm.exec host op = some cm') :
    Fibres cm'.account cm'.accountConnections := by
  cases op with
  | addConnection id addr userUUID => exact fibres_addConnection h hs
  | removeConnection id => exact fibres_removeConnection h hs
  | setConnectionAccountID id accountID => exact fibres_setConnectionAccountID h hg hs
  | setConnectionLoginKey _ _ | updateConnectionIP _ _ =>
    refine fibres_same h hs (map_getConnection_exec hs (by simp) (by simp) fun x => ?_) rfl
    simp only [Op.rewrite]
    split <;> rfl
  | _ => exact fibres_same h hs (map_getConnection_exec hs (by simp) (by simp) fun _ => rfl) rfl

theorem not_accountIndexed (hg : ¬ cm.AccountGuard op) :
    ∃ cm', cm.exec host op = some cm' ∧ ¬ cm'.AccountIndexed := by
  cases op with
  | setConnectionAccountID id accountID =>
    simp only [AccountGuard, not_forall, not_or] at hg
    obtain ⟨conn, hconn, hne, hold, hother⟩ := hg
    refine ⟨_, rfl, fun hi => ?_⟩
    have hbefore : id ∈ cm.getAccountConnections conn.accountID :=
      (h.member _ _ hold).mpr (account_of_getConnection hconn)
    have hsame : (cm.setConnectionAccountID id accountID).getAccountConnections conn.accountID =
        cm.getAccountConnections conn.accountID := by
      rw [setConnectionAccountID, if_neg hne, hconn]
      simp only [getAccountConnections]
      rw [store_of_ne _ _ hother]
    have hafter := hbefore
    rw [← hsame, hi.member _ _ hold, loggedInAs_iff, account,
      (rewrites_setConnectionAccountID accountID).getConnection] at hafter
    simp only [map, modify_apply, if_pos, if_neg hne, hconn, Option.map_some,
      Option.some.injEq] at hafter
    exact hother hafter.symm
  | _ => exact absurd trivial hg

end

end

/-- **The account index, exactly.** For every sequence of operations, the index is right after each of
them iff no registered connection is moved from one account to another. -/
theorem accountIndexed_iff (host : String → String) (ops : List Op) :
    Throughout (exec host) AccountIndexed newConnectionManager ops ↔
      Guarded (exec host) AccountGuard newConnectionManager ops :=
  throughout_iff_guarded (J := fun cm => Fibres cm.account cm.accountConnections)
    (fun _ h => accountIndexed_of_fibres h) (fun _ _ _ h hg hs => fibres_exec h hg hs)
    (fun _ _ h hg => not_accountIndexed h hg) fibres_empty

/-- A connection that logs in under one account and then under another. -/
def secondAccount : List Op :=
  [.addConnection "c" "10.0.0.1:1" "temp_1", .setConnectionAccountID "c" "a",
    .setConnectionAccountID "c" "b"]

/-- The connection is still listed, and kicked, under its first account. -/
theorem secondAccount_leaves_entry :
    ¬ Throughout (exec id) AccountIndexed newConnectionManager secondAccount := by
  intro h
  obtain ⟨cm, hrun, hkicked, haccount⟩ : ∃ cm,
      run (exec id) newConnectionManager secondAccount = some cm ∧ "c" ∈ cm.kickByAccounts ["a"] ∧
        (cm.getConnection "c").map Connection.accountID = some "b" := exists_end (by decide)
  rw [(h.finish hrun).kicked ["a"] (by decide)] at hkicked
  obtain ⟨a, ha, hlogged⟩ := hkicked
  obtain rfl := List.mem_singleton.mp ha
  rw [loggedInAs_iff] at hlogged
  have hboth : some "a" = some "b" := hlogged.symm.trans haccount
  exact absurd hboth (by decide)

end ConnectionManager

end Sgate
