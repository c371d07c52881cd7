import Sgate.Logic.Streams

/-! # The two tables of the groups

The group methods on their own, called with arbitrary strings. `leaveAllGroups` uses the stored group
of every listed membership unchecked, so its loop is written out here (`sweepGroups`) with a missing
group as its failure. -/

namespace Sgate.Logic

open KeyMap List

/-- A call of a method that changes the groups. -/
inductive GroupCall
  | joinGroup (groupID sessionID : String)
  | leaveGroup (groupID sessionID : String)
  | leaveAllGroups (sessionID : String)
  | offline (sessionID userUUID : String)

namespace Server

def execGroup (s : Server) : GroupCall → Server
  | .joinGroup groupID sessionID => (s.joinGroup groupID sessionID).1
  | .leaveGroup groupID sessionID => (s.leaveGroup groupID sessionID).1
  | .leaveAllGroups sessionID => s.leaveAllGroups sessionID
  | .offline sessionID userUUID => s.offline sessionID userUUID

/-- The loop of `leaveAllGroups` over the memberships as the map lists them; it fails where it would
dereference a group that is not stored. -/
def sweepGroups (sessionID : String) :
    KeyMap String (Finset String) → List String → Option (KeyMap String (Finset String))
  | groups, [] => some groups
  | groups, groupID :: listed =>
    match groups groupID with
    | none => none
    | some _ => sweepGroups sessionID (groups.eraseAt groupID sessionID) listed

variable {s : Server} {x : String} {listed : List String}

theorem sweepGroups_eq {groups : KeyMap String (Finset String)} (hnodup : listed.Nodup)
    (hstored : ∀ g ∈ listed, groups g ≠ none) :
    sweepGroups x groups listed =
      some fun g => if g ∈ listed then groups.eraseAt g x g else groups g := by
  induction listed generalizing groups with
  | nil => simp [sweepGroups]
  | cons k listed ih =>
    obtain ⟨hk, hnodup⟩ := nodup_cons.mp hnodup
    obtain ⟨members, hmembers⟩ := Option.ne_none_iff_exists'.mp (hstored k mem_cons_self)
    -- the groups still to come are not the one just left
    have hother : ∀ g ∈ listed, groups.eraseAt k x g = groups g := by
      intro g hg
      have hgk : g ≠ k := by
        rintro rfl
        exact hk hg
      rw [eraseAt_apply, if_neg hgk]
    simp only [sweepGroups, hmembers]
    rw [ih hnodup fun g hg => by rw [hother g hg]; exact hstored g (mem_cons_of_mem k hg)]
    congr 1
    funext g
    by_cases hg : g ∈ listed
    · rw [if_pos hg, if_pos (mem_cons_of_mem k hg), eraseAt_apply, if_pos rfl, hother g hg,
        eraseAt_apply, if_pos rfl]
    · by_cases hgk : g = k
      · simp [hgk, hk]
      · simp [hg, hgk, eraseAt_apply]

theorem WellFormed.sweepGroups (h : s.WellFormed) (hnodup : listed.Nodup)
    (hlisted : listed.toFinset = s.sessionGroups.values x) :
    sweepGroups x s.groups listed = some (s.leaveAllGroups x).groups := by
  have hmem : ∀ g, g ∈ listed ↔ g ∈ s.sessionGroups.values x := by
    intro g
    rw [← hlisted, mem_toFinset]
  rw [sweepGroups_eq hnodup]
  · congr 1
    funext g
    simp only [leaveAllGroups_groups, hmem]
  · -- a listed group has the session as a member, so it is stored
    intro g hg
    rw [hmem, ← h.groups g x] at hg
    obtain ⟨members, hmembers, -⟩ := mem_values_iff.mp hg
    simp [hmembers]

theorem WellFormed.execGroups (h : s.WellFormed) (calls : List GroupCall) :
    (calls.foldl execGroup s).WellFormed := by
  induction calls generalizing s with
  | nil => exact h
  | cons c calls ih =>
    apply ih
    cases c with
    | joinGroup g x => exact h.joinGroup
    | leaveGroup g x => exact h.leaveGroup
    | leaveAllGroups x => exact h.leaveAllGroups
    | offline x u => exact h.offline

theorem leaveGroup_count (s : Server) (g x : String) :
    (s.leaveGroup g x).2 = ((s.leaveGroup g x).1.getGroupMembers g).card := by
  unfold leaveGroup getGroupMembers
  cases hg : s.groups g with
  | none => simp [values, hg]
  | some members =>
    rw [values_eraseAt, if_pos rfl]
    simp [values, hg]

/-- **The tables of the groups are consistent** after any calls with any strings. Both list the same
memberships, neither stores an empty set, and the counts returned are the numbers of members after
the call, except that joining with an empty group or session changes nothing and returns zero. The
loop of `leaveAllGroups` finds every group it reads, in whatever order they are listed, and takes the
session out of the groups it was in and no other. -/
theorem groupTables_consistent (calls : List GroupCall) :
    let s := calls.foldl execGroup newServer
    (∀ g x, x ∈ s.groups.values g ↔ g ∈ s.sessionGroups.values x) ∧
    (∀ g, s.groups g ≠ some ∅) ∧ (∀ x, s.sessionGroups x ≠ some ∅) ∧
    (∀ g x, if g = "" ∨ x = "" then s.joinGroup g x = (s, 0)
      else (s.joinGroup g x).2 = ((s.joinGroup g x).1.getGroupMembers g).card) ∧
    (∀ g x, (s.leaveGroup g x).2 = ((s.leaveGroup g x).1.getGroupMembers g).card) ∧
    (∀ x listed, listed.Nodup → listed.toFinset = s.sessionGroups.values x →
      sweepGroups x s.groups listed = some (s.leaveAllGroups x).groups) ∧
    ∀ x g, (s.leaveAllGroups x).getGroupMembers g = (s.getGroupMembers g).erase x := by
  intro s
  have h : s.WellFormed := wellFormed_newServer.execGroups calls
  refine ⟨h.groups, h.groups_proper, h.sessionGroups_proper, ?_, leaveGroup_count s, ?_, ?_⟩
  · intro g x
    unfold joinGroup
    split <;> rfl
  · intro x listed hnodup hlisted
    exact h.sweepGroups hnodup hlisted
  · intro x g
    ext y
    unfold getGroupMembers
    rw [mem_leaveAllGroups h.groups, Finset.mem_erase, and_comm]

/-- Joining a group without naming a session returns zero, whatever the group has. -/
theorem joinGroup_uncounted :
    let s := [GroupCall.joinGroup "g" "s"].foldl execGroup newServer
    (s.joinGroup "g" "").2 ≠ ((s.joinGroup "g" "").1.getGroupMembers "g").card := by
  decide

/-! ## Pushing with retries -/

/-- The pushes, with their rounds, of at most `n` rounds from `r` on, and the members left; `ok` says
which push of which round succeeds. -/
def retryFailed (ok : ℕ → String → Bool) : ℕ → ℕ → List String → List (ℕ × String) × List String
  | 0, _, failed => ([], failed)
  | n + 1, r, failed =>
    if failed.length = 0 then ([], failed)
    else
      let rest := retryFailed ok n (r + 1) (failed.filter fun x => !ok r x)
      (failed.map (r, ·) ++ rest.1, rest.2)

/-- `SendToGroupWithRetry`: the pushes it makes, the count and the failed members it returns. -/
def sendToGroupWithRetry (ok : ℕ → String → Bool) (members : List String) (maxRetries : ℕ) :
    List (ℕ × String) × ℕ × List String :=
  let rest := retryFailed ok maxRetries 1 (members.filter fun x => !ok 0 x)
  (members.map (0, ·) ++ rest.1, members.length - rest.2.length, rest.2)

variable {ok : ℕ → String → Bool} {n r : ℕ} {l : List String}

/-- What holds of the pushes of `n` rounds to the members `l` and of the members left. -/
structure Retried (ok : ℕ → String → Bool) (n : ℕ) (l : List String) (pushes : List (ℕ × String))
    (failed : List String) : Prop where
  mem : ∀ a ∈ pushes, a.2 ∈ l
  once : pushes.Pairwise fun a b => a.2 = b.2 → ok a.1 a.2 = false
  count : ∀ x, pushes.countP (·.2 == x) ≤ n
  left : ∀ x, x ∈ failed ↔ x ∈ l ∧ ∀ a ∈ pushes, a.2 = x → ok a.1 a.2 = false
  all : ∀ x ∈ failed, pushes.countP (·.2 == x) = n
  sublist : failed.Sublist l

/-- A round before the others. -/
theorem Retried.cons {pushes : List (ℕ × String)} {failed : List String} (hl : l.Nodup)
    (h : Retried ok n (l.filter fun x => !ok r x) pushes failed) :
    Retried ok (n + 1) l (l.map (r, ·) ++ pushes) failed where
  mem := by
    refine forall_mem_append.mpr ⟨by simp, fun a ha => ?_⟩
    exact mem_of_mem_filter (h.mem a ha)
  once := by
    refine pairwise_append.mpr ⟨pairwise_map.mpr ?_, h.once, ?_⟩
    · exact hl.imp fun hne heq => absurd heq hne
    · intro a ha b hb heq
      obtain ⟨x, -, rfl⟩ := mem_map.mp ha
      have hb := of_mem_filter (h.mem b hb)
      rw [← heq] at hb
      simpa using hb
  count x := by
    rw [countP_append, countP_map, Nat.add_comm n]
    exact Nat.add_le_add (nodup_iff_count_le_one.mp hl x) (h.count x)
  left x := by
    rw [h.left, mem_filter]
    simp only [forall_mem_append, forall_mem_map, Bool.not_eq_true']
    grind
  all x hx := by
    have hmem : x ∈ l := mem_of_mem_filter (h.sublist.subset hx)
    rw [countP_append, countP_map, h.all x hx, Nat.add_comm n]
    exact congrArg (· + n) (count_eq_one_of_mem hl hmem)
  sublist := h.sublist.trans filter_sublist

theorem retried_retryFailed (ok : ℕ → String → Bool) (n r : ℕ) (hl : l.Nodup) :
    Retried ok n l (retryFailed ok n r l).1 (retryFailed ok n r l).2 := by
  induction n generalizing r l with
  | zero =>
    exact ⟨by simp [retryFailed], .nil, by simp [retryFailed], by simp [retryFailed],
      by simp [retryFailed], .refl _⟩
  | succ n ih =>
    rw [retryFailed]
    split_ifs with hlength
    · obtain rfl := length_eq_zero_iff.mp hlength
      exact ⟨by simp, .nil, by simp, by simp, by simp, .refl _⟩
    · exact (ih (r + 1) (hl.filter _)).cons hl

/-- **A group push with retries delivers once.** Every member is tried, and no one else. After a
successful push to a member there is no other one; each member is tried at most `maxRetries + 1` times,
and as often if it fails; the failed members are those without a successful push, and with the count
they make up the members at the start. -/
theorem retry_delivers_once (s : Server) (groupID : String) (members : List String)
    (hmembers : members.Nodup ∧ members.toFinset = s.getGroupMembers groupID) (maxRetries : ℕ)
    (ok : ℕ → String → Bool) :
    let (pushes, sent, failed) := sendToGroupWithRetry ok members maxRetries
    (∀ x, x ∈ s.getGroupMembers groupID ↔ ∃ r, (r, x) ∈ pushes) ∧
      (pushes.Pairwise fun a b => a.2 = b.2 → ok a.1 a.2 = false) ∧
      (∀ x, pushes.countP (·.2 == x) ≤ maxRetries + 1) ∧
      (∀ x ∈ failed, pushes.countP (·.2 == x) = maxRetries + 1) ∧
      (∀ x, x ∈ failed ↔ x ∈ s.getGroupMembers groupID ∧ ∀ r, (r, x) ∈ pushes → ok r x = false) ∧
      sent + failed.length = (s.getGroupMembers groupID).card := by
  have h := (retried_retryFailed ok maxRetries 1 (hmembers.1.filter _)).cons (r := 0) hmembers.1
  refine ⟨fun x => ?_, h.once, h.count, h.all, fun x => ?_, ?_⟩
  · rw [← hmembers.2, mem_toFinset]
    refine ⟨fun hx => ⟨0, mem_append_left _ (mem_map_of_mem hx)⟩, ?_⟩
    rintro ⟨r, hr⟩
    exact h.mem _ hr
  · rw [← hmembers.2, mem_toFinset, h.left]
    exact and_congr_right fun _ => ⟨fun hx r hr => hx _ hr rfl, fun hx a ha heq => by
      subst heq
      exact hx a.1 ha⟩
  · rw [← hmembers.2, toFinset_card_of_nodup hmembers.1]
    exact Nat.sub_add_cancel h.sublist.length_le

/-- The results of pushes: `a` gets the first one, `b` the second one and `c` none. -/
def flaky (r : ℕ) (x : String) : Bool := x = "a" || x = "b" && r = 1

/-- Three members, with at most two retries. -/
theorem retry_delivers_once_flaky :
    let s := [.joinGroup "g" "a", .joinGroup "g" "b", .joinGroup "g" "c"].foldl execGroup newServer
    sendToGroupWithRetry flaky ["a", "b", "c"] 2 =
        ([(0, "a"), (0, "b"), (0, "c"), (1, "b"), (1, "c"), (2, "c")], 2, ["c"]) ∧
      (sendToGroupWithRetry flaky ["a", "b", "c"] 2).1.countP (·.2 == "c") = 2 + 1 ∧
      "b" ∈ s.getGroupMembers "g" :=
  have h := retry_delivers_once ([.joinGroup "g" "a", .joinGroup "g" "b",
    .joinGroup "g" "c"].foldl execGroup newServer) "g" ["a", "b", "c"] (by decide) 2 flaky
  ⟨by decide, h.2.2.2.1 "c" (by decide), (h.1 "b").mpr ⟨1, by decide⟩⟩

end Server

end Sgate.Logic
