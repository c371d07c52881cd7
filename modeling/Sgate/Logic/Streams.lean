import Sgate.Lib.SetMap
import Sgate.Lib.Transition
import Sgate.Logic.Server
import Mathlib.Data.Finset.Card

/-! # Push groups and the end of a stream

Joining and leaving push groups, and the clean-up when a stream ends: it goes through the sessions ever
seen on the stream, in any order, and drops the stream if it is still this one, the user and the groups.
`WellFormed` holds in every reachable state. -/

namespace Sgate.Logic

open Routes Transition KeyMap Server

namespace Server

/-! ## Groups and pushes -/

/-- Put a session into a group, with the size of the group. -/
def joinGroup (s : Server) (groupID sessionID : String) : Server × ℕ :=
  if groupID = "" ∨ sessionID = "" then (s, 0)
  else
    ({ s with
        groups := s.groups.insertAt groupID sessionID
        sessionGroups := s.sessionGroups.insertAt sessionID groupID },
      ((s.groups.insertAt groupID sessionID).values groupID).card)

/-- Take a session out of a group, with the size that is left. -/
def leaveGroup (s : Server) (groupID sessionID : String) : Server × ℕ :=
  match s.groups groupID with
  | none => (s, 0)
  | some members =>
    ({ s with
        groups := s.groups.eraseAt groupID sessionID
        sessionGroups := s.sessionGroups.eraseAt sessionID groupID },
      (members.erase sessionID).card)

def getGroupMembers (s : Server) (groupID : String) : Finset String := s.groups.values groupID

def pushToConnection (s : Server) (sessionID : String) : Option ℕ := s.sessions sessionID

/-- The session and the stream a push to a user is handed to. -/
def sendToUser (s : Server) (userUUID : String) : Option (String × ℕ) :=
  match s.getConnectionIDByUser userUUID with
  | some sessionID => (s.pushToConnection sessionID).map (Prod.mk sessionID)
  | none => none

/-- The stream a member's copy of a push to a group is handed to. -/
def sendToGroup (s : Server) (groupID sessionID : String) : Option ℕ :=
  if sessionID ∈ s.getGroupMembers groupID then s.pushToConnection sessionID else none

/-! ## The end of a stream -/

def dropSessionUser (s : Server) (sessionID : String) : Server :=
  match s.sessionUsers sessionID with
  | some user =>
    { s with
      sessionUsers := s.sessionUsers.delete sessionID
      userSessions := s.userSessions.deleteIf user sessionID }
  | none => s

/-- What the end of stream `conn` does to one session seen on it: the stream is dropped only if it is
still the session's, the user and the groups are dropped in any case. -/
def cleanSession (s : Server) (conn : ℕ) (sessionID : String) : Server :=
  ({ s with sessions := s.sessions.deleteIf sessionID conn }.dropSessionUser sessionID).leaveAllGroups
    sessionID

/-- The clean-up of stream `conn`, for its sessions in the order `sessionIDs`. -/
def endStream (s : Server) (conn : ℕ) (sessionIDs : List String) : Server :=
  sessionIDs.foldl (fun s sessionID => s.cleanSession conn sessionID) s

end Server

/-! ## Runs -/

/-- A call of a method that the server offers to the application. -/
inductive Call
  | registerUser (userUUID sessionID : String)
  | unregisterUser (userUUID : String)
  | offline (sessionID userUUID : String)
  | joinGroup (groupID sessionID : String)
  | leaveGroup (groupID sessionID : String)

inductive Event
  /-- The application calls a method. -/
  | call (c : Call)
  /-- A message arrives on stream `conn`. -/
  | process (conn : ℕ) (msg : StreamData)
  /-- A message arrives by a unary call. -/
  | sendMessage (msg : StreamData)
  /-- Stream `conn` ends; its sessions are listed in the given order. -/
  | endStream (conn : ℕ) (sessionIDs : List String)

namespace Server

def exec (s : Server) : Call → Server
  | .registerUser userUUID sessionID => s.registerUser userUUID sessionID
  | .unregisterUser userUUID => s.unregisterUser userUUID
  | .offline sessionID userUUID => s.offline sessionID userUUID
  | .joinGroup groupID sessionID => (s.joinGroup groupID sessionID).1
  | .leaveGroup groupID sessionID => (s.leaveGroup groupID sessionID).1

/-- The tables after an event; the end of a stream lists each session seen on it once. -/
def step (handlers : Handlers) (s : Server) : Event → Option Server
  | .call c => some (s.exec c)
  | .process conn msg => some (process handlers s conn msg).1
  | .sendMessage msg => some (dispatchMessage handlers s msg).1
  | .endStream conn sessionIDs =>
    if sessionIDs.Nodup ∧ sessionIDs.toFinset = s.sessionIDs conn then
      some (s.endStream conn sessionIDs)
    else none

/-- Application code that changes the tables only by the methods of the server. -/
def ByCalls (handlers : Handlers) : Prop :=
  ∀ cmd entry, handlers cmd = some entry → ∀ s msg,
    ∃ calls : List Call, (entry.handler s msg).1 = calls.foldl exec s

/-! ## What every operation keeps -/

/-- The tables of a server agree with each other, and the empty session is in none of them. -/
structure WellFormed (s : Server) : Prop where
  users : s.UsersInverse
  groups : Incident s.groups s.sessionGroups
  groups_proper : s.groups.Proper
  sessionGroups_proper : s.sessionGroups.Proper
  no_session : s.sessions "" = none
  no_user : s.sessionUsers "" = none
  no_group : s.sessionGroups "" = none

/-- Only the user tables may differ. -/
def SameButUsers (s s' : Server) : Prop :=
  s'.sessions = s.sessions ∧ s'.groups = s.groups ∧ s'.sessionGroups = s.sessionGroups

def Mentions (s : Server) (x : String) : Prop :=
  s.sessions x ≠ none ∨ (∃ u, s.userSessions u = some x) ∨ s.sessionUsers x ≠ none ∨
    (∃ g, x ∈ s.groups.values g) ∨ s.sessionGroups x ≠ none

theorem wellFormed_newServer : newServer.WellFormed where
  users := usersInverse_newServer
  groups := incident_empty
  groups_proper := proper_empty
  sessionGroups_proper := proper_empty
  no_session := rfl
  no_user := rfl
  no_group := rfl

section

variable {s s' : Server} {u v x y g : String} {conn : ℕ} {handlers : Handlers} {msg : StreamData}

/-! ### Users -/

theorem sameButUsers_swapUserSession : SameButUsers s (s.swapUserSession u x) := by
  unfold swapUserSession
  cases s.userSessions u with
  | none => exact ⟨rfl, rfl, rfl⟩
  | some old => dsimp only; split <;> exact ⟨rfl, rfl, rfl⟩

theorem sameButUsers_swapSessionUser : SameButUsers s (s.swapSessionUser u x) := by
  unfold swapSessionUser
  cases s.sessionUsers x with
  | none => exact ⟨rfl, rfl, rfl⟩
  | some old => dsimp only; split <;> exact ⟨rfl, rfl, rfl⟩

theorem sameButUsers_registerUser : SameButUsers s (s.registerUser u x) := by
  unfold registerUser
  split
  · exact ⟨rfl, rfl, rfl⟩
  · obtain ⟨h₁, h₂, h₃⟩ := sameButUsers_swapUserSession (s := s) (u := u) (x := x)
    obtain ⟨h₄, h₅, h₆⟩ := sameButUsers_swapSessionUser (s := s.swapUserSession u x) (u := u) (x := x)
    exact ⟨h₄.trans h₁, h₅.trans h₂, h₆.trans h₃⟩

theorem sameButUsers_unregisterUser : SameButUsers s (s.unregisterUser u) := by
  unfold unregisterUser
  cases s.userSessions u <;> exact ⟨rfl, rfl, rfl⟩

theorem sameButUsers_offlineUser : SameButUsers s (s.offlineUser x u) := by
  unfold offlineUser
  split
  · exact sameButUsers_unregisterUser
  · cases s.sessionUsers x <;> exact ⟨rfl, rfl, rfl⟩

theorem dropSessionUser_eq : s.dropSessionUser x = s.offlineUser x "" := by
  unfold dropSessionUser offlineUser
  rfl

theorem leaveAllGroups_sessionGroups : (s.leaveAllGroups x).sessionGroups y =
    if y = x then none else s.sessionGroups y := delete_apply ..

theorem leaveAllGroups_groups : (s.leaveAllGroups x).groups g =
    if g ∈ s.sessionGroups.values x then s.groups.eraseAt g x g else s.groups g := by
  rw [eraseAt_apply, if_pos rfl]
  unfold leaveAllGroups values
  dsimp only
  cases s.groups g <;> rfl

theorem mem_leaveAllGroups (h : Incident s.groups s.sessionGroups) :
    y ∈ (s.leaveAllGroups x).groups.values g ↔ y ∈ s.groups.values g ∧ y ≠ x := by
  have hval : (s.leaveAllGroups x).groups.values g =
      if g ∈ s.sessionGroups.values x then (s.groups.eraseAt g x).values g else s.groups.values g := by
    rw [values, leaveAllGroups_groups]
    split <;> rfl
  rw [hval]
  split
  · rw [mem_values_eraseAt]
    simp
  · rename_i hg
    -- a group that is not swept does not have the session
    rw [← h g x] at hg
    refine ⟨fun hy => ⟨hy, ?_⟩, And.left⟩
    rintro rfl
    exact hg hy

section

variable (h : s.WellFormed)
include h

theorem WellFormed.of_users (hsame : SameButUsers s s') (hu : s'.UsersInverse)
    (hn : s'.sessionUsers "" = none) : s'.WellFormed := by
  obtain ⟨h₁, h₂, h₃⟩ := hsame
  exact ⟨hu, by rw [h₂, h₃]; exact h.groups, by rw [h₂]; exact h.groups_proper,
    by rw [h₃]; exact h.sessionGroups_proper, by rw [h₁]; exact h.no_session, hn,
    by rw [h₃]; exact h.no_group⟩

theorem WellFormed.registerUser : (s.registerUser u x).WellFormed := by
  refine h.of_users sameButUsers_registerUser (h.users.registerUser u x) ?_
  by_cases hempty : u = "" ∨ x = ""
  · rw [Server.registerUser, if_pos hempty]
    exact h.no_user
  · obtain ⟨hu, hx⟩ := not_or.mp hempty
    rw [(registerUser_tables h.users hu hx).2, if_neg (Ne.symm hx), h.no_user]
    simp

theorem WellFormed.unregisterUser : (s.unregisterUser u).WellFormed := by
  refine h.of_users sameButUsers_unregisterUser (h.users.unregisterUser u) ?_
  rw [(unregisterUser_tables h.users u).2, h.no_user]
  simp

theorem WellFormed.offlineUser : (s.offlineUser x u).WellFormed := by
  refine h.of_users sameButUsers_offlineUser (h.users.offlineUser x u) ?_
  rw [(offlineUser_tables h.users x u).2, h.no_user]
  simp

theorem WellFormed.leaveAllGroups : (s.leaveAllGroups x).WellFormed where
  __ := h
  groups := h.groups.sweep fun _ _ => mem_leaveAllGroups h.groups
  groups_proper := by
    intro g
    rw [leaveAllGroups_groups]
    split
    · exact h.groups_proper.eraseAt g
    · exact h.groups_proper g
  sessionGroups_proper := by
    intro y
    rw [leaveAllGroups_sessionGroups]
    split
    · simp
    · exact h.sessionGroups_proper y
  no_group := by rw [leaveAllGroups_sessionGroups, h.no_group, ite_self]

theorem WellFormed.joinGroup : (s.joinGroup g x).1.WellFormed := by
  unfold Server.joinGroup
  split
  · exact h
  · rename_i hempty
    have hproper : (s.sessionGroups.insertAt x g).Proper := h.sessionGroups_proper.insertAt
    refine ⟨h.users, h.groups.insertAt g x, h.groups_proper.insertAt, hproper, h.no_session,
      h.no_user, hproper.eq_none_iff.mpr fun g' hg' => ?_⟩
    rcases mem_values_insertAt.mp hg' with ⟨hx, -⟩ | hg'
    · exact hempty (.inr hx.symm)
    · exact h.sessionGroups_proper.eq_none_iff.mp h.no_group g' hg'

theorem WellFormed.leaveGroup : (s.leaveGroup g x).1.WellFormed := by
  unfold Server.leaveGroup
  cases s.groups g with
  | none => exact h
  | some members =>
    have hproper : (s.sessionGroups.eraseAt x g).Proper := h.sessionGroups_proper.eraseAt
    refine ⟨h.users, h.groups.eraseAt g x, h.groups_proper.eraseAt, hproper, h.no_session,
      h.no_user, hproper.eq_none_iff.mpr fun g' hg' => ?_⟩
    exact h.sessionGroups_proper.eq_none_iff.mp h.no_group g' (mem_values_eraseAt.mp hg').1

theorem WellFormed.of_sessions {m : KeyMap String ℕ} {ids : ℕ → Finset String} (hm : m "" = none) :
    { s with sessions := m, sessionIDs := ids }.WellFormed :=
  { h with no_session := hm }

theorem WellFormed.offline : (s.offline x u).WellFormed := by
  have hsessions : s.sessions.delete x "" = none := by
    rw [delete_apply, h.no_session, ite_self]
  exact (h.of_sessions hsessions).leaveAllGroups.offlineUser

theorem WellFormed.cleanSession : (s.cleanSession conn x).WellFormed := by
  have hsessions : s.sessions.deleteIf x conn "" = none := by
    rw [deleteIf_apply, h.no_session, ite_self]
  unfold Server.cleanSession
  rw [dropSessionUser_eq]
  exact (h.of_sessions hsessions).offlineUser.leaveAllGroups

theorem WellFormed.bind : (s.bind conn msg).WellFormed := by
  unfold Server.bind
  split
  · exact h
  · rename_i hx
    have hstored : (s.storeSession conn msg.sessionId).WellFormed := by
      have hsessions : s.sessions.store msg.sessionId conn "" = none := by
        rw [store_of_ne _ _ (Ne.symm hx)]
        exact h.no_session
      exact h.of_sessions hsessions
    split
    · exact hstored
    · exact hstored.registerUser

theorem WellFormed.exec (c : Call) : (s.exec c).WellFormed := by
  cases c with
  | registerUser u x => exact h.registerUser
  | unregisterUser u => exact h.unregisterUser
  | offline x u => exact h.offline
  | joinGroup g x => exact h.joinGroup
  | leaveGroup g x => exact h.leaveGroup

theorem WellFormed.calls (calls : List Call) : (calls.foldl Server.exec s).WellFormed := by
  induction calls generalizing s with
  | nil => exact h
  | cons c calls ih => exact ih (h.exec c)

end

/-! ### Runs -/

theorem WellFormed.dispatchMessage (hcalls : ByCalls handlers) (h : s.WellFormed) :
    (dispatchMessage handlers s msg).1.WellFormed := by
  cases he : handlers msg.cmd with
  | none =>
    simp only [Server.dispatchMessage, he, builtinCommand]
    split
    · exact h
    · split
      · exact h.offline
      · exact h
  | some entry =>
    obtain ⟨calls, hc⟩ := hcalls _ _ he s msg
    have hhandler : (entry.handler s msg).1.WellFormed := by
      rw [hc]
      exact h.calls calls
    simp only [Server.dispatchMessage, he]
    -- the response does not touch the tables
    split
    · exact h
    · split
      · exact hhandler
      · split
        · exact hhandler
        · split <;> exact hhandler

theorem WellFormed.endStream (h : s.WellFormed) (xs : List String) :
    (s.endStream conn xs).WellFormed := by
  induction xs generalizing s with
  | nil => exact h
  | cons x xs ih => exact ih h.cleanSession

theorem WellFormed.step (hcalls : ByCalls handlers) (h : s.WellFormed) {e : Event}
    (hs : step handlers s e = some s') : s'.WellFormed := by
  cases e with
  | call c =>
    cases hs
    exact h.exec c
  | process conn msg =>
    cases hs
    exact h.bind.dispatchMessage hcalls
  | sendMessage msg =>
    cases hs
    exact h.dispatchMessage hcalls
  | endStream conn xs =>
    obtain ⟨-, hs⟩ := Option.ite_none_right_eq_some.mp hs
    cases hs
    exact h.endStream xs

/-- **The tables of every reachable state agree.** -/
theorem wellFormed_run (hcalls : ByCalls handlers) {es : List Event}
    (hrun : run (step handlers) newServer es = some s) : s.WellFormed :=
  invariant_of_run (fun _ _ _ h hs => h.step hcalls hs) wellFormed_newServer hrun

/-! ## Offline notices -/

theorem not_mentions_offline (h : s.WellFormed) (hu : u = "" ∨ ∀ v, s.sessionUsers x = some v → v = u) :
    ¬ (s.offline x u).Mentions x := by
  have hoff := h.offline (x := x) (u := u)
  obtain ⟨hsessions, hgroups, hmemberships⟩ := sameButUsers_offlineUser
    (s := { s with sessions := s.sessions.delete x }.leaveAllGroups x) (u := u) (x := x)
  have hsession : (s.offline x u).sessions x = none := by
    rw [offline, hsessions]
    exact delete_self ..
  have hmembership : (s.offline x u).sessionGroups x = none := by
    rw [offline, hmemberships]
    exact delete_self ..
  have huser : (s.offline x u).sessionUsers x = none := by
    rw [(offline_tables h.users x u).2]
    by_cases hempty : u = ""
    · simp [hempty]
    · simp only [ne_eq, hempty, not_false_eq_true, if_true, ite_eq_left_iff]
      intro hother
      cases hx : s.sessionUsers x with
      | none => rfl
      | some v =>
        obtain rfl := (hu.resolve_left hempty) v hx
        exact absurd hx hother
  rintro (hc | ⟨v, hc⟩ | hc | ⟨g, hc⟩ | hc)
  · exact hc hsession
  · rw [hoff.users v x, huser] at hc
    cases hc
  · exact hc huser
  · rw [hoff.groups g x] at hc
    exact hoff.sessionGroups_proper.eq_none_iff.mp hmembership g hc
  · exact hc hmembership

theorem bind_sessionUsers (h : s.WellFormed) :
    msg.userKey = "" ∨ ∀ v, (s.bind conn msg).sessionUsers msg.sessionId = some v → v = msg.userKey := by
  by_cases hu : msg.userKey = ""
  · exact .inl hu
  · right
    intro v hv
    rw [(bind_tables h.users conn msg).2] at hv
    by_cases hx : msg.sessionId = ""
    · rw [if_pos (.inl hx), hx, h.no_user] at hv
      cases hv
    · rw [if_neg (by simp [hx, hu]), if_pos rfl] at hv
      exact (Option.some.inj hv).symm

/-- The user and the session are a pair in one of the two tables. -/
def Paired (s : Server) (u x : String) : Prop := s.userSessions u = some x ∨ s.sessionUsers x = some u

/-- **The user tables are inverse to each other and an offline notice cleans all tables.** In every
state reached by calls of the server's methods, messages and ends of streams, a user has at most one
session and a session at most one user, with the same pairs in both tables; and once the server has
processed an offline notice itself, no table mentions its session. -/
theorem inverse_and_forgotten (handlers : Handlers) (hcalls : ByCalls handlers) (es : List Event)
    (s : Server) (hrun : run (Server.step handlers) newServer es = some s) :
    (∀ u x, s.userSessions u = some x ↔ s.sessionUsers x = some u) ∧
    (∀ u x x', s.Paired u x → s.Paired u x' → x = x') ∧
    (∀ u u' x, s.Paired u x → s.Paired u' x → u = u') ∧
    (handlers cmdUserOffline = none → ∀ conn msg, msg.cmd = cmdUserOffline →
      ¬ (process handlers s conn msg).1.Mentions msg.sessionId) := by
  have h := wellFormed_run hcalls hrun
  refine ⟨h.users, ?_, ?_, ?_⟩
  · intro u x x' hx hx'
    have hu : s.userSessions u = some x := hx.elim id (h.users u x).mpr
    have hu' : s.userSessions u = some x' := hx'.elim id (h.users u x').mpr
    exact Option.some.inj (hu.symm.trans hu')
  · intro u u' x hx hx'
    have hu : s.sessionUsers x = some u := hx.elim (h.users u x).mp id
    have hu' : s.sessionUsers x = some u' := hx'.elim (h.users u' x).mp id
    exact Option.some.inj (hu.symm.trans hu')
  · intro hbuiltin conn msg hcmd
    have hne : cmdUserOffline ≠ cmdHeartbeatReq := by decide
    have hprocess : (process handlers s conn msg).1 =
        (s.bind conn msg).offline msg.sessionId msg.userKey := by
      simp only [process, dispatchMessage, hcmd, hbuiltin, builtinCommand, if_neg hne, if_true]
    rw [hprocess]
    exact not_mentions_offline h.bind (bind_sessionUsers h)

/-- A message of a session with a user and a group, and the end of another stream. -/
def speaks : List Event :=
  [.process 1 { sessionId := "s", userKey := "u", cmd := 7 }, .call (.joinGroup "g" "s"),
    .endStream 2 []]

/-- The statement at a server without handlers, for an offline notice without user key. -/
theorem inverse_and_forgotten_speaks : ∃ s, run (Server.step .empty) newServer speaks = some s ∧
    s.Mentions "s" ∧
    ¬ (process .empty s 1 { sessionId := "s", cmd := cmdUserOffline }).1.Mentions "s" := by
  obtain ⟨s, hrun⟩ : ∃ s, run (step .empty) newServer speaks = some s := ⟨_, rfl⟩
  have hmap : (run (step .empty) newServer speaks).map (fun s => s.sessions "s") =
      some (some 1) := by decide
  refine ⟨s, hrun, ?_, ?_⟩
  · rw [hrun, Option.map_some] at hmap
    exact .inl (by rw [Option.some.inj hmap]; simp)
  · exact (inverse_and_forgotten .empty (fun _ _ h => nomatch h) speaks s hrun).2.2.2 rfl 1
      { sessionId := "s", cmd := cmdUserOffline } rfl

/-! ## Sessions that moved -/

/-- What the tables are after the sessions `xs` were cleaned by the end of stream `conn`. -/
structure Cleaned (conn : ℕ) (xs : List String) (s s' : Server) : Prop where
  sessions : ∀ y, s'.sessions y = if y ∈ xs ∧ s.sessions y = some conn then none else s.sessions y
  userSessions : ∀ v y, s'.userSessions v = some y ↔ s.userSessions v = some y ∧ y ∉ xs
  sessionUsers : ∀ y, s'.sessionUsers y = if y ∈ xs then none else s.sessionUsers y
  members : ∀ g y, y ∈ s'.groups.values g ↔ y ∈ s.groups.values g ∧ y ∉ xs
  sessionGroups : ∀ y, s'.sessionGroups y = if y ∈ xs then none else s.sessionGroups y

theorem cleaned_nil : Cleaned conn [] s s := by
  constructor <;> simp

theorem cleaned_cleanSession (h : s.WellFormed) : Cleaned conn [x] s (s.cleanSession conn x) := by
  -- the user is dropped after the stream, the groups last
  have husers := offlineUser_tables (s := { s with sessions := s.sessions.deleteIf x conn }) h.users x ""
  obtain ⟨hsessions, hgroups, hmemberships⟩ := sameButUsers_offlineUser
    (s := { s with sessions := s.sessions.deleteIf x conn }) (u := "") (x := x)
  unfold cleanSession
  rw [dropSessionUser_eq]
  generalize { s with sessions := s.sessions.deleteIf x conn }.offlineUser x "" = t at *
  dsimp only at hsessions hgroups hmemberships husers
  have hincident : Incident t.groups t.sessionGroups := by
    rw [hgroups, hmemberships]
    exact h.groups
  refine ⟨fun y => ?_, fun v y => ?_, fun y => ?_, fun g y => ?_, fun y => ?_⟩
  · have hsame : (t.leaveAllGroups x).sessions = t.sessions := rfl
    rw [hsame, hsessions, deleteIf_apply]
    grind
  · have hsame : (t.leaveAllGroups x).userSessions = t.userSessions := rfl
    grind
  · have hsame : (t.leaveAllGroups x).sessionUsers = t.sessionUsers := rfl
    rw [hsame, husers.2]
    simp
  · rw [mem_leaveAllGroups hincident, hgroups]
    simp
  · rw [leaveAllGroups_sessionGroups, hmemberships]
    simp

theorem Cleaned.trans {t : Server} {xs ys : List String} (h : Cleaned conn xs s t)
    (h' : Cleaned conn ys t s') : Cleaned conn (xs ++ ys) s s' := by
  constructor
  · intro y
    rw [h'.sessions, h.sessions]
    grind
  · intro v y
    rw [h'.userSessions, h.userSessions, List.mem_append, not_or, and_assoc]
  · intro y
    rw [h'.sessionUsers, h.sessionUsers]
    grind
  · intro g y
    rw [h'.members, h.members, List.mem_append, not_or, and_assoc]
  · intro y
    rw [h'.sessionGroups, h.sessionGroups]
    grind

/-- **The clean-up of a stream**, whatever the order. -/
theorem cleaned_endStream (h : s.WellFormed) (xs : List String) :
    Cleaned conn xs s (s.endStream conn xs) := by
  induction xs generalizing s with
  | nil => exact cleaned_nil
  | cons x xs ih => exact (cleaned_cleanSession h).trans (ih h.cleanSession)

/-- **A session on stream `b` is left alone**: its stream, its user and its groups are as they were,
so the pushes that reached it on `b` still do. -/
structure LeftAlone (b : ℕ) (x : String) (s s' : Server) : Prop where
  stream : s'.sessions x = s.sessions x
  sessionUser : s'.sessionUsers x = s.sessionUsers x
  user : ∀ u, s'.userSessions u = some x ↔ s.userSessions u = some x
  memberships : s'.sessionGroups x = s.sessionGroups x
  group : ∀ g, x ∈ s'.getGroupMembers g ↔ x ∈ s.getGroupMembers g
  push : s'.pushToConnection x = some b
  userPush : ∀ u, s.sendToUser u = some (x, b) → s'.sendToUser u = some (x, b)
  groupPush : ∀ g, s.sendToGroup g x = some b → s'.sendToGroup g x = some b

variable {b : ℕ}

theorem sendToUser_eq_some : s.sendToUser u = some (x, b) ↔
    s.userSessions u = some x ∧ s.sessions x = some b := by
  unfold sendToUser getConnectionIDByUser pushToConnection
  cases hu : s.userSessions u with
  | none => simp
  | some y =>
    simp only [Option.map_eq_some_iff, Prod.mk.injEq, Option.some.injEq]
    constructor
    · rintro ⟨c, hc, rfl, rfl⟩
      exact ⟨rfl, hc⟩
    · rintro ⟨rfl, hc⟩
      exact ⟨b, hc, rfl, rfl⟩

theorem sendToGroup_eq_some : s.sendToGroup g x = some b ↔
    x ∈ s.getGroupMembers g ∧ s.sessions x = some b :=
  Option.ite_none_right_eq_some

theorem LeftAlone.of_tables (hb : s.sessions x = some b) (hstream : s'.sessions x = s.sessions x)
    (hsession : s'.sessionUsers x = s.sessionUsers x)
    (huser : ∀ u, s'.userSessions u = some x ↔ s.userSessions u = some x)
    (hmemberships : s'.sessionGroups x = s.sessionGroups x)
    (hgroup : ∀ g, x ∈ s'.getGroupMembers g ↔ x ∈ s.getGroupMembers g) : LeftAlone b x s s' where
  stream := hstream
  sessionUser := hsession
  user := huser
  memberships := hmemberships
  group := hgroup
  push := hstream.trans hb
  userPush := by
    intro u hu
    rw [sendToUser_eq_some] at hu ⊢
    exact ⟨(huser u).mpr hu.1, hstream.trans hb⟩
  groupPush := by
    intro g hg
    rw [sendToGroup_eq_some] at hg ⊢
    exact ⟨(hgroup g).mpr hg.1, hstream.trans hb⟩

/-- **When the end of a stream leaves a session alone that moved to another one.** In every reachable
state in which session `x` was seen on stream `a` and is now on stream `b`, the clean-up of `a`, in
any order, leaves `x` alone iff `x` has no user and no group at that time. -/
theorem moved_kept_iff (handlers : Handlers) (hcalls : ByCalls handlers) (es : List Event)
    (s s' : Server) (hrun : run (Server.step handlers) newServer es = some s) (a b : ℕ) (x : String)
    (hseen : x ∈ s.sessionIDs a) (hmoved : s.sessions x = some b) (hab : a ≠ b) (xs : List String)
    (hend : Server.step handlers s (.endStream a xs) = some s') :
    LeftAlone b x s s' ↔ s.sessionUsers x = none ∧ s.sessionGroups x = none := by
  have h := wellFormed_run hcalls hrun
  obtain ⟨⟨-, hlisted⟩, hend⟩ := Option.ite_none_right_eq_some.mp hend
  cases hend
  have hx : x ∈ xs := by rwa [← hlisted, List.mem_toFinset] at hseen
  have hclean : Cleaned a xs s (s.endStream a xs) := cleaned_endStream h xs
  constructor
  · intro hleft
    have huser := hleft.sessionUser
    have hgroups := hleft.memberships
    rw [hclean.sessionUsers, if_pos hx] at huser
    rw [hclean.sessionGroups, if_pos hx] at hgroups
    exact ⟨huser.symm, hgroups.symm⟩
  · rintro ⟨huser, hgroups⟩
    apply LeftAlone.of_tables hmoved
    · rw [hclean.sessions, if_neg]
      rintro ⟨-, ha⟩
      exact hab (Option.some.inj (ha.symm.trans hmoved))
    · rw [hclean.sessionUsers, if_pos hx, huser]
    · intro u
      have hnone : s.userSessions u ≠ some x := by
        rw [Ne, h.users u x, huser]
        simp
      rw [hclean.userSessions]
      simp [hnone]
    · rw [hclean.sessionGroups, if_pos hx, hgroups]
    · intro g
      have hnone : x ∉ s.groups.values g := by
        rw [h.groups g x]
        exact h.sessionGroups_proper.eq_none_iff.mp hgroups g
      unfold getGroupMembers
      rw [hclean.members]
      simp [hnone]

end

/-- A session without user moves from stream 1 to stream 2. -/
def movesUnnamed : List Event :=
  [.process 1 { sessionId := "s", cmd := 7 }, .process 2 { sessionId := "s", cmd := 7 }]

/-- Without user and group the moved session stays on its stream. -/
theorem moved_kept_iff_movesUnnamed : ∃ s s',
    run (Server.step .empty) newServer movesUnnamed = some s ∧
      Server.step .empty s (.endStream 1 ["s"]) = some s' ∧ LeftAlone 2 "s" s s' := by
  obtain ⟨s, hrun, hstream, huser, hgroups, hseen⟩ :
      ∃ s, run (step .empty) newServer movesUnnamed = some s ∧ s.sessions "s" = some 2 ∧
        s.sessionUsers "s" = none ∧ s.sessionGroups "s" = none ∧ s.sessionIDs 1 = {"s"} :=
    exists_end (by decide)
  have hend : step .empty s (.endStream 1 ["s"]) = some (s.endStream 1 ["s"]) :=
    if_pos ⟨by decide, by rw [hseen]; rfl⟩
  refine ⟨s, _, hrun, hend, ?_⟩
  exact (moved_kept_iff .empty (fun _ _ h => nomatch h) movesUnnamed s _ hrun 1 2 "s"
    (by rw [hseen]; decide) hstream (by decide) ["s"] hend).mpr ⟨huser, hgroups⟩

def movesNamed : List Event :=
  [.process 1 { sessionId := "s", userKey := "u", cmd := 7 },
    .process 2 { sessionId := "s", userKey := "u", cmd := 7 }]

/-- The end of stream 1 takes the user of the session on stream 2: a push to the user, which reached
the session on stream 2 before, reaches nobody afterwards. -/
theorem movesNamed_loses_user :
    (run (Server.step .empty) newServer movesNamed).map (fun s =>
      (s.sessionIDs 1, s.sessions "s", s.sendToUser "u")) = some ({"s"}, some 2, some ("s", 2)) ∧
    (run (Server.step .empty) newServer (movesNamed ++ [.endStream 1 ["s"]])).map (fun s =>
      (s.sessions "s", s.sessionUsers "s", s.sendToUser "u")) = some (some 2, none, none) := by
  constructor <;> decide

end Server

end Sgate.Logic
