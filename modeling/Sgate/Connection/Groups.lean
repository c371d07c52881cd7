import Sgate.Connection.Operations

/-! # Push groups and removed connections

`RemoveConnection` sweeps the pair of the connection out of all groups and deletes the groups it finds
empty. It leaves alone what it should (`RemovalFramed`) exactly if no group is empty before and no other
registered connection needs the membership. -/

namespace Sgate

open Transition

namespace ConnectionManager

/-! ## What a removal may do -/

def IsMember (cm : ConnectionManager) (g : String) (k : ServerUserKey) : Prop :=
  ∃ members, cm.groups g = some members ∧ k ∈ members

/-- **What the removal of a connection may do to the groups.** -/
structure RemovalFramed (host : String → String) (cm : ConnectionManager) (o : String) : Prop where
  /-- A member disappears only if it is the pair of the removed connection, and of no other. -/
  member : ∀ g k, cm.IsMember g k → ¬ (cm.removeConnection host o).IsMember g k →
    (∃ conn, cm.getConnection o = some conn ∧ conn.identity = k) ∧
      ∀ c conn, cm.getConnection c = some conn → c ≠ o → conn.identity ≠ k
  /-- A group disappears only if its last member was the removed connection's. -/
  group : ∀ g members, cm.groups g = some members → (cm.removeConnection host o).groups g = none →
    ∃ conn, cm.getConnection o = some conn ∧ members = {conn.identity}
  /-- No member and no group comes into being. -/
  noMember : ∀ g k, (cm.removeConnection host o).IsMember g k → cm.IsMember g k
  noGroup : ∀ g, cm.groups g = none → (cm.removeConnection host o).groups g = none

/-- The condition on the state before the removal of a registered connection: no group is empty, and
if the pair of the connection is a member of a group, then no other registered connection has the
pair. -/
def RemovalClear (cm : ConnectionManager) (o : String) : Prop :=
  ∀ conn, cm.getConnection o = some conn → (∀ g, cm.groups g ≠ some ∅) ∧
    ((∃ g, cm.IsMember g conn.identity) →
      ∀ c conn', cm.getConnection c = some conn' → c ≠ o → conn'.identity ≠ conn.identity)

/-! ## The sweep -/

section

variable {cm : ConnectionManager} {host : String → String} {o g : String} {conn : Connection}
  {m : KeyMap String (Finset ServerUserKey)} {k key : ServerUserKey} {members : Finset ServerUserKey}

theorem mem_dropMember : (∃ members, dropMember m key g = some members ∧ k ∈ members) ↔
    (∃ members, m g = some members ∧ k ∈ members) ∧ k ≠ key := by
  unfold dropMember
  cases m g with
  | none => simp
  | some members =>
    simp only [Option.some.injEq, exists_eq_left']
    by_cases hempty : members.erase key = ∅
    · -- the group is deleted, so it had no other member
      simp only [if_pos hempty, reduceCtorEq, false_and, exists_false, false_iff, not_and, not_not]
      intro hk
      by_contra hne
      have hmem : k ∈ members.erase key := Finset.mem_erase.mpr ⟨hne, hk⟩
      rw [hempty] at hmem
      exact absurd hmem (Finset.notMem_empty k)
    · simp only [if_neg hempty, Option.some.injEq, exists_eq_left', Finset.mem_erase]
      exact And.comm

theorem dropMember_eq_none (hg : m g = some members) :
    dropMember m key g = none ↔ members = ∅ ∨ members = {key} := by
  unfold dropMember
  rw [hg]
  simp only [ite_eq_left_iff, reduceCtorEq, imp_false, not_not]
  exact Finset.erase_eq_empty_iff members key

theorem groups_removeConnection (h : cm.getConnection o = some conn) :
    (cm.removeConnection host o).groups = dropMember cm.groups conn.identity := by
  rw [removeConnection_eq h]
  rfl

theorem isMember_removeConnection (h : cm.getConnection o = some conn) :
    (cm.removeConnection host o).IsMember g k ↔ cm.IsMember g k ∧ k ≠ conn.identity := by
  unfold IsMember
  rw [groups_removeConnection h]
  exact mem_dropMember

/-! ## One removal -/

theorem removalFramed_of_none (h : cm.getConnection o = none) : cm.RemovalFramed host o := by
  have hsame : cm.removeConnection host o = cm := removeConnection_of_none h
  constructor
  · intro g k hk hgone
    rw [hsame] at hgone
    exact absurd hk hgone
  · intro g members hg hgone
    rw [hsame, hg] at hgone
    cases hgone
  · intro g k hk
    rwa [hsame] at hk
  · intro g hg
    rwa [hsame]

theorem RemovalClear.framed (h : cm.RemovalClear o) (hconn : cm.getConnection o = some conn) :
    cm.RemovalFramed host o := by
  obtain ⟨hnonempty, halone⟩ := h conn hconn
  constructor
  · intro g k hk hgone
    rw [isMember_removeConnection hconn] at hgone
    obtain rfl : k = conn.identity := by
      by_contra hne
      exact hgone ⟨hk, hne⟩
    exact ⟨⟨conn, hconn, rfl⟩, halone ⟨g, hk⟩⟩
  · intro g members hg hgone
    rw [groups_removeConnection hconn, dropMember_eq_none hg] at hgone
    rcases hgone with rfl | hlast
    · exact absurd hg (hnonempty g)
    · exact ⟨conn, hconn, hlast⟩
  · intro g k hk
    exact ((isMember_removeConnection hconn).mp hk).1
  · intro g hg
    rw [groups_removeConnection hconn, dropMember, hg]

theorem RemovalFramed.clear (h : cm.RemovalFramed host o) : cm.RemovalClear o := by
  intro conn hconn
  refine ⟨fun g hg => ?_, ?_⟩
  · obtain ⟨conn', -, hlast⟩ := h.group g ∅ hg (by
      rw [groups_removeConnection hconn, dropMember_eq_none hg]
      exact .inl rfl)
    exact absurd hlast (Finset.singleton_ne_empty _).symm
  · rintro ⟨g, hmember⟩
    refine (h.member g conn.identity hmember ?_).2
    rw [isMember_removeConnection hconn]
    exact fun hgone => hgone.2 rfl

theorem removalFramed_iff : cm.RemovalFramed host o ↔ cm.RemovalClear o := by
  refine ⟨RemovalFramed.clear, fun h => ?_⟩
  cases hconn : cm.getConnection o with
  | none => exact removalFramed_of_none hconn
  | some conn => exact h.framed hconn

end

/-! ## Sequences of operations -/

/-- **Removals and groups, exactly.** In every sequence of operations, every removal of a connection
leaves the groups alone as far as it should iff no group is empty before it and no other registered
connection needs the membership of the removed one. -/
theorem removals_framed_iff (host : String → String) (ops : List Op) :
    Guarded (exec host) (fun cm op => ∀ o, op = .removeConnection o → cm.RemovalFramed host o)
        newConnectionManager ops ↔
      Guarded (exec host) (fun cm op => ∀ o, op = .removeConnection o → cm.RemovalClear o)
        newConnectionManager ops := by
  refine guarded_congr (J := fun _ => True) (fun _ _ _ _ _ _ => trivial) (fun cm op _ => ?_) trivial
  exact forall₂_congr fun o _ => removalFramed_iff

/-- Two connections with one pair, which is a member of a group. -/
def takeoverInGroup : List Op :=
  [.addConnection "c" "10.0.0.1:1" "temp_1", .setConnectionServerID "c" "s",
    .updateConnectionUserUUID "c" "u", .addConnection "d" "10.0.0.1:2" "temp_2",
    .setConnectionServerID "d" "s", .updateConnectionUserUUID "d" "u", .addUserToGroup "g" "s" "u"]

/-- The removal of the replaced connection takes the membership of the live one. -/
theorem takeoverInGroup_loses_member : ¬ Guarded (exec id)
    (fun cm op => ∀ o, op = .removeConnection o → cm.RemovalFramed id o) newConnectionManager
    (takeoverInGroup ++ [.removeConnection "c"]) := by
  intro h
  obtain ⟨cm, hrun, hbefore, hafter, hconn⟩ :
      ∃ cm, run (exec id) newConnectionManager takeoverInGroup = some cm ∧
        cm.groups "g" = some {("s", "u")} ∧ (cm.removeConnection id "c").groups "g" = none ∧
        (cm.getConnection "d").map Connection.identity = some ("s", "u") := exists_end (by decide)
  obtain ⟨conn, hconn, hidentity⟩ := Option.map_eq_some_iff.mp hconn
  have hframed := h.at hrun "c" rfl
  have halone := (hframed.member "g" ("s", "u") ⟨_, hbefore, by simp⟩ (by
    rintro ⟨members, hmembers, -⟩
    rw [hafter] at hmembers
    cases hmembers)).2
  exact halone "d" conn hconn (by decide) hidentity

end ConnectionManager

end Sgate
