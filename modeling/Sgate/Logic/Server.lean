import Sgate.Lib.KeyMap
import Sgate.Routes.Frame
import Mathlib.Data.Finset.Basic

/-! # The logic server's session tables

Which stream carries a session, which session a user is on and back, and the push groups.
`Server.process` is what the receive loop does with one upstream message. The handlers of an application
are a parameter (`Handlers`). The two user tables are a partial bijection (`Server.UsersInverse`). -/

namespace Sgate.Logic

open Routes KeyMap

structure Server where
  /-- Session to the stream that carries it. -/
  sessions : KeyMap String ℕ
  userSessions : KeyMap String String
  sessionUsers : KeyMap String String
  /-- Members of each push group. -/
  groups : KeyMap String (Finset String)
  sessionGroups : KeyMap String (Finset String)
  /-- Sessions seen on each stream. -/
  sessionIDs : ℕ → Finset String

namespace Server

def newServer : Server where
  sessions := .empty
  userSessions := .empty
  sessionUsers := .empty
  groups := .empty
  sessionGroups := .empty
  sessionIDs := fun _ => ∅

/-- Remember that a session was seen on a stream. -/
def bindSession (s : Server) (conn : ℕ) (sessionID : String) : Server :=
  { s with sessionIDs := Function.update s.sessionIDs conn (insert sessionID (s.sessionIDs conn)) }

/-- First half of `registerUser`: swap the user's session and drop the user of the session that is
replaced. -/
def swapUserSession (s : Server) (userUUID sessionID : String) : Server :=
  let s' := { s with userSessions := s.userSessions.store userUUID sessionID }
  match s.userSessions userUUID with
  | some old => if old ≠ sessionID then { s' with sessionUsers := s.sessionUsers.delete old } else s'
  | none => s'

/-- Second half of `registerUser`: swap the session's user and drop the session of the user that is
replaced. -/
def swapSessionUser (s : Server) (userUUID sessionID : String) : Server :=
  let s' := { s with sessionUsers := s.sessionUsers.store sessionID userUUID }
  match s.sessionUsers sessionID with
  | some old => if old ≠ userUUID then { s' with userSessions := s.userSessions.delete old } else s'
  | none => s'

/-- Register the pair of a user and a session in both tables. -/
def registerUser (s : Server) (userUUID sessionID : String) : Server :=
  if userUUID = "" ∨ sessionID = "" then s
  else (s.swapUserSession userUUID sessionID).swapSessionUser userUUID sessionID

/-- Remove a user, and its session if that session still belongs to it. -/
def unregisterUser (s : Server) (userUUID : String) : Server :=
  match s.userSessions userUUID with
  | some sessionID =>
    { s with
      userSessions := s.userSessions.delete userUUID
      sessionUsers := s.sessionUsers.deleteIf sessionID userUUID }
  | none => s

def getConnectionIDByUser (s : Server) (userUUID : String) : Option String :=
  s.userSessions userUUID

/-- Take a session out of all its groups; a group that becomes empty is dropped. -/
def leaveAllGroups (s : Server) (sessionID : String) : Server :=
  let joined := (s.sessionGroups sessionID).getD ∅
  { s with
    groups := fun g =>
      if g ∈ joined then
        match s.groups g with
        | some members =>
          if members.erase sessionID = ∅ then none else some (members.erase sessionID)
        | none => none
      else s.groups g
    sessionGroups := s.sessionGroups.delete sessionID }

/-- The part of `offline` about users: by user key when the notice names one, else by session. -/
def offlineUser (s : Server) (sessionID userUUID : String) : Server :=
  if userUUID ≠ "" then s.unregisterUser userUUID
  else
    match s.sessionUsers sessionID with
    | some user =>
      { s with
        sessionUsers := s.sessionUsers.delete sessionID
        userSessions := s.userSessions.deleteIf user sessionID }
    | none => s

/-- Forget a client that went offline: its stream, its groups and its user. -/
def offline (s : Server) (sessionID userUUID : String) : Server :=
  ({ s with sessions := s.sessions.delete sessionID }.leaveAllGroups sessionID).offlineUser
    sessionID userUUID

/-- Commands the server handles itself; the flag says whether the command was one of them. -/
def builtinCommand (s : Server) (msg : StreamData) : Server × Bool :=
  if msg.cmd = cmdHeartbeatReq then (s, true)
  else if msg.cmd = cmdUserOffline then (s.offline msg.sessionId msg.userKey, true)
  else (s, false)

end Server

/-! ## Dispatch -/

/-- What a handler answers: the encoded response (`none` if it cannot be encoded) and the user key
the response carries, if its type has one. -/
structure Reply where
  encoded : Option Bytes
  userKey : String := ""

/-- A registered handler: the request decoder, the application code and the response command. -/
structure ProtoEntry where
  unmarshal : Bytes → Bool
  handler : Server → StreamData → Server × Option Reply
  respCmd : Int

/-- The handlers an application registered, by command. -/
abbrev Handlers : Type := KeyMap Int ProtoEntry

namespace Server

/-- Hand a message to the handler of its command and build the response. -/
def dispatchMessage (handlers : Handlers) (s : Server) (msg : StreamData) :
    Server × Option StreamData :=
  match handlers msg.cmd with
  | none => ((s.builtinCommand msg).1, none)
  | some entry =>
    -- an empty body is not decoded
    if msg.data ≠ [] ∧ entry.unmarshal msg.data = false then (s, none)
    else
      let (s', resp) := entry.handler s msg
      match resp with
      | none => (s', none)
      | some reply =>
        if entry.respCmd = 0 then (s', none)
        else
          match reply.encoded with
          | none => (s', none)
          | some data =>
            (s', some
              { sessionId := msg.sessionId
                userKey := if reply.userKey ≠ "" then reply.userKey else msg.userKey
                cmd := entry.respCmd
                seqId := msg.seqId
                data := data
                clientIp := msg.clientIp })

def storeSession (s : Server) (conn : ℕ) (sessionID : String) : Server :=
  { s with sessions := s.sessions.store sessionID conn }.bindSession conn sessionID

/-- What the receive loop of stream `conn` does before it dispatches a message: store the session's
stream, bind the session to the stream and register its user. -/
def bind (s : Server) (conn : ℕ) (msg : StreamData) : Server :=
  if msg.sessionId = "" then s
  else if msg.userKey = "" then s.storeSession conn msg.sessionId
  else (s.storeSession conn msg.sessionId).registerUser msg.userKey msg.sessionId

/-- One upstream message of stream `conn`, with the response to queue on it. -/
def process (handlers : Handlers) (s : Server) (conn : ℕ) (msg : StreamData) :
    Server × Option StreamData :=
  dispatchMessage handlers (s.bind conn msg) msg

/-- The tables after a sequence of upstream messages, each with the stream it arrived on. -/
def processAll (handlers : Handlers) (s : Server) (ms : List (ℕ × StreamData)) : Server :=
  ms.foldl (fun s m => (process handlers s m.1 m.2).1) s

theorem processAll_cons (handlers : Handlers) (s : Server) (m : ℕ × StreamData)
    (ms : List (ℕ × StreamData)) :
    processAll handlers s (m :: ms) = processAll handlers (process handlers s m.1 m.2).1 ms := rfl

theorem processAll_append (handlers : Handlers) (s : Server) (ms ns : List (ℕ × StreamData)) :
    processAll handlers s (ms ++ ns) = processAll handlers (processAll handlers s ms) ns := by
  simp [processAll]

/-! ## The user tables -/

/-- The two user tables hold the same pairs. -/
def UsersInverse (s : Server) : Prop := KeyMap.Inverse s.userSessions s.sessionUsers

/-- Application code that leaves the user tables alone. -/
def KeepUsers (handlers : Handlers) : Prop :=
  ∀ cmd entry, handlers cmd = some entry → ∀ s msg,
    (entry.handler s msg).1.userSessions = s.userSessions ∧
      (entry.handler s msg).1.sessionUsers = s.sessionUsers

theorem usersInverse_newServer : newServer.UsersInverse := inverse_empty

theorem swapUserSession_tables (s : Server) (u x : String) :
    (s.swapUserSession u x).userSessions = s.userSessions.store u x ∧
      ∀ y, (s.swapUserSession u x).sessionUsers y =
        if s.userSessions u = some y ∧ y ≠ x then none else s.sessionUsers y := by
  unfold swapUserSession
  cases h : s.userSessions u with
  | none => simp
  | some old =>
    by_cases hold : old = x
    · simp [hold, eq_comm]
    · refine ⟨by simp [hold], fun y => ?_⟩
      simp only [ne_eq, hold, not_false_eq_true, if_true, delete_apply, Option.some.injEq]
      grind

theorem swapSessionUser_tables (s : Server) (u x : String) :
    (s.swapSessionUser u x).sessionUsers = s.sessionUsers.store x u ∧
      ∀ v, (s.swapSessionUser u x).userSessions v =
        if s.sessionUsers x = some v ∧ v ≠ u then none else s.userSessions v := by
  unfold swapSessionUser
  cases h : s.sessionUsers x with
  | none => simp
  | some old =>
    by_cases hold : old = u
    · simp [hold, eq_comm]
    · refine ⟨by simp [hold], fun y => ?_⟩
      simp only [ne_eq, hold, not_false_eq_true, if_true, delete_apply, Option.some.injEq]
      grind

variable {s : Server}

section

variable (hs : s.UsersInverse)
include hs

/-- The two tables after `registerUser`, entry by entry: the new pair is stored and the old partners
of its two ends are gone. -/
theorem registerUser_tables {u x : String} (hu : u ≠ "") (hx : x ≠ "") :
    (∀ v, (s.registerUser u x).userSessions v =
      if v = u then some x else if s.userSessions v = some x then none else s.userSessions v) ∧
    (∀ y, (s.registerUser u x).sessionUsers y =
      if y = x then some u else if s.sessionUsers y = some u then none else s.sessionUsers y) := by
  -- the second half works on the tables the first half left
  obtain ⟨h₁, h₂⟩ := swapUserSession_tables s u x
  obtain ⟨h₃, h₄⟩ := swapSessionUser_tables (s.swapUserSession u x) u x
  have hreg : s.registerUser u x = (s.swapUserSession u x).swapSessionUser u x := by
    simp [registerUser, hu, hx]
  constructor
  · intro v
    have hv := hs v x
    rw [hreg, h₄, h₁, h₂, store_apply]
    grind
  · intro y
    have hy := hs u y
    rw [hreg, h₃, store_apply, h₂]
    grind

theorem UsersInverse.registerUser (u x : String) : (s.registerUser u x).UsersInverse := by
  by_cases h : u = "" ∨ x = ""
  · rw [Server.registerUser, if_pos h]; exact hs
  · obtain ⟨hu, hx⟩ := not_or.mp h
    obtain ⟨h₁, h₂⟩ := registerUser_tables hs hu hx
    exact KeyMap.Inverse.link hs u x h₁ h₂

theorem unregisterUser_tables (u : String) :
    (s.unregisterUser u).userSessions = s.userSessions.delete u ∧
      (∀ y, (s.unregisterUser u).sessionUsers y =
        if s.sessionUsers y = some u then none else s.sessionUsers y) := by
  unfold unregisterUser
  cases h : s.userSessions u with
  | none =>
    refine ⟨?_, fun y => ?_⟩
    · funext v
      by_cases hv : v = u
      · subst hv; simp [h]
      · simp [hv]
    · have : s.sessionUsers y ≠ some u := fun hc => by
        rw [(hs u y).mpr hc] at h; cases h
      simp [this]
  | some x =>
    refine ⟨rfl, fun y => ?_⟩
    have hx := (hs u x).mp h
    have hy := hs u y
    simp only [deleteIf_apply, hx]
    grind

theorem UsersInverse.unregisterUser (u : String) : (s.unregisterUser u).UsersInverse := by
  unfold Server.unregisterUser
  cases h : s.userSessions u with
  | none => exact hs
  | some x =>
    have hx := (hs u x).mp h
    have := KeyMap.Inverse.cut hs h
    simpa [UsersInverse, deleteIf, hx] using this

theorem UsersInverse.offlineUser (x u : String) : (s.offlineUser x u).UsersInverse := by
  unfold Server.offlineUser
  split
  · exact hs.unregisterUser u
  · cases h : s.sessionUsers x with
    | none => exact hs
    | some v =>
      have hv := (hs v x).mpr h
      have := KeyMap.Inverse.cut hs hv
      simpa [UsersInverse, deleteIf, hv] using this

/-- The two tables after the user part of going offline: by user key the user's pair is cut, without
one the session's pair. -/
theorem offlineUser_tables (x u : String) :
    (∀ v, (s.offlineUser x u).userSessions v =
      if (if u ≠ "" then v = u else s.userSessions v = some x) then none else s.userSessions v) ∧
    (∀ y, (s.offlineUser x u).sessionUsers y =
      if (if u ≠ "" then s.sessionUsers y = some u else y = x) then none else s.sessionUsers y) := by
  unfold offlineUser
  by_cases hu : u = ""
  · simp only [hu, ne_eq, not_true_eq_false, if_false]
    cases h : s.sessionUsers x with
    | none =>
      refine ⟨fun v => ?_, fun y => ?_⟩
      · have := hs v x; grind
      · grind
    | some w =>
      refine ⟨fun v => ?_, fun y => ?_⟩
      · have hv := hs v x
        simp only [deleteIf_apply]
        grind
      · simp only [delete_apply]
  · obtain ⟨h₁, h₂⟩ := unregisterUser_tables hs u
    simp only [ne_eq, hu, not_false_eq_true, if_true]
    exact ⟨fun v => by rw [h₁, delete_apply], h₂⟩

theorem offline_tables (x u : String) :
    (∀ v, (s.offline x u).userSessions v =
      if (if u ≠ "" then v = u else s.userSessions v = some x) then none else s.userSessions v) ∧
    (∀ y, (s.offline x u).sessionUsers y =
      if (if u ≠ "" then s.sessionUsers y = some u else y = x) then none else s.sessionUsers y) := by
  -- the session's stream and groups are forgotten first, which no user table sees
  have hs' : ({ s with sessions := s.sessions.delete x }.leaveAllGroups x).UsersInverse := hs
  exact offlineUser_tables hs' x u

theorem UsersInverse.offline (x u : String) : (s.offline x u).UsersInverse := by
  apply UsersInverse.offlineUser
  exact hs

theorem UsersInverse.bind (conn : ℕ) (msg : StreamData) : (s.bind conn msg).UsersInverse := by
  unfold Server.bind
  split
  · exact hs
  · split
    · exact hs
    · exact UsersInverse.registerUser (s := s.storeSession conn msg.sessionId) hs _ _

/-- The two tables after a message's session was bound: a message with session and user key
registers the pair. -/
theorem bind_tables (conn : ℕ) (msg : StreamData) :
    (∀ v, (s.bind conn msg).userSessions v =
      if msg.sessionId = "" ∨ msg.userKey = "" then s.userSessions v
      else if v = msg.userKey then some msg.sessionId
      else if s.userSessions v = some msg.sessionId then none else s.userSessions v) ∧
    (∀ y, (s.bind conn msg).sessionUsers y =
      if msg.sessionId = "" ∨ msg.userKey = "" then s.sessionUsers y
      else if y = msg.sessionId then some msg.userKey
      else if s.sessionUsers y = some msg.userKey then none else s.sessionUsers y) := by
  unfold bind
  by_cases hx : msg.sessionId = ""
  · simp [hx]
  by_cases hu : msg.userKey = ""
  · simp only [hx, hu, if_true, if_false, or_true]
    exact ⟨fun _ => rfl, fun _ => rfl⟩
  · simp only [hx, hu, or_self, if_false]
    exact registerUser_tables (s := s.storeSession conn msg.sessionId) hs hu hx

end

variable {handlers : Handlers}

section

variable (hk : KeepUsers handlers)
include hk

theorem dispatchMessage_of_handler {msg : StreamData} {entry : ProtoEntry}
    (he : handlers msg.cmd = some entry) :
    (dispatchMessage handlers s msg).1.userSessions = s.userSessions ∧
      (dispatchMessage handlers s msg).1.sessionUsers = s.sessionUsers := by
  have hkeep := hk _ _ he s msg
  simp only [dispatchMessage, he]
  split
  · exact ⟨rfl, rfl⟩
  · split
    · exact hkeep
    · split
      · exact hkeep
      · split <;> exact hkeep

/-- **Dispatch, seen from the user tables**: the built-in offline notice runs `offlineUser`, every
other message leaves the tables alone. -/
theorem dispatchMessage_users (s : Server) (msg : StreamData) :
    (handlers msg.cmd = none ∧ msg.cmd = cmdUserOffline ∧
      (dispatchMessage handlers s msg).1 = s.offline msg.sessionId msg.userKey) ∨
    ((dispatchMessage handlers s msg).1.userSessions = s.userSessions ∧
      (dispatchMessage handlers s msg).1.sessionUsers = s.sessionUsers ∧
      (msg.cmd = cmdUserOffline → handlers msg.cmd ≠ none)) := by
  cases he : handlers msg.cmd with
  | some entry =>
    obtain ⟨h₁, h₂⟩ := dispatchMessage_of_handler hk he (s := s)
    exact .inr ⟨h₁, h₂, fun _ => by simp⟩
  | none =>
    by_cases hoff : msg.cmd = cmdUserOffline
    · refine .inl ⟨rfl, hoff, ?_⟩
      -- the heartbeat is tested first
      have hne : msg.cmd ≠ cmdHeartbeatReq := by rw [hoff]; decide
      simp only [dispatchMessage, he, builtinCommand, if_neg hne, if_pos hoff]
    · refine .inr ⟨?_, ?_, fun h => absurd h hoff⟩ <;>
        simp only [dispatchMessage, he, builtinCommand, hoff, if_false] <;> split <;> rfl

theorem UsersInverse.process (hs : s.UsersInverse) (conn : ℕ) (msg : StreamData) :
    (process handlers s conn msg).1.UsersInverse := by
  -- bind, then dispatch
  have hb := hs.bind conn msg
  rcases dispatchMessage_users hk (s.bind conn msg) msg with ⟨-, -, h⟩ | ⟨h₁, h₂, -⟩
  · rw [Server.process, h]; exact hb.offline _ _
  · rw [UsersInverse, Server.process, h₁, h₂]; exact hb

theorem UsersInverse.processAll (hs : s.UsersInverse) (ms : List (ℕ × StreamData)) :
    (processAll handlers s ms).UsersInverse := by
  induction ms generalizing s with
  | nil => exact hs
  | cons m ms ih => rw [processAll_cons]; exact ih (hs.process hk m.1 m.2)

end

end Server

end Sgate.Logic
