import Sgate.Connection.Manager

/-! # The session view of the connection manager

Which connections are registered, what the user index holds, and the logic server, user and address of
every connection. Every manager call is one of five operations on the view, or does not change it. -/

namespace Sgate

open KeyMap

/-- What a connection says about itself. -/
structure Session where
  serverID : String
  userUUID : String
  remoteHost : String
  deriving DecidableEq

/-- Registered connections, user index and the session of every connection object. -/
@[ext]
structure Sessions where
  registered : List String
  users : KeyMap String String
  session : KeyMap String Session
  known : ∀ id ∈ registered, (session id).isSome

namespace Sessions

def find (s : Sessions) (id : String) : Option Session :=
  if id ∈ s.registered then s.session id else none

/-- The logic server of a connection object, empty if it has none. -/
def serverID (s : Sessions) (id : String) : String :=
  match s.session id with
  | some x => x.serverID
  | none => ""

def put (s : Sessions) (id : String) (x : Session) : Sessions :=
  { s with
    session := s.session.store id x
    known := by
      intro j hj
      by_cases h : j = id
      · simp [h]
      · simpa [h] using s.known j hj }

def opened (s : Sessions) (id userUUID host : String) : Sessions :=
  { s.put id ⟨"", userUUID, host⟩ with
    registered := id :: s.registered
    users := s.users.store userUUID id
    known := by
      intro j hj
      by_cases h : j = id
      · simp [put, h]
      · simpa [put, h] using s.known j (by simpa [h] using hj) }

/-- A connection is removed; its object stays. -/
def removed (s : Sessions) (id : String) : Sessions :=
  match s.find id with
  | none => s
  | some x =>
    { s with
      registered := s.registered.filter (· ≠ id)
      users := s.users.deleteIf x.userUUID id
      known := fun j hj => s.known j (List.mem_of_mem_filter hj) }

def bound (s : Sessions) (id serverID : String) : Sessions :=
  match s.find id with
  | none => s
  | some x => s.put id { x with serverID := serverID }

def identified (s : Sessions) (id userUUID : String) : Sessions :=
  match s.find id with
  | none => s
  | some x =>
    { s.put id { x with userUUID := userUUID } with
      users := (s.users.deleteIf x.userUUID id).store userUUID id }

/-- A connection gets another address. -/
def relocated (s : Sessions) (id host : String) : Sessions :=
  match s.find id with
  | none => s
  | some x => if host = "" then s else s.put id { x with remoteHost := host }

/-! ### What the operations do to logic servers -/

variable {s : Sessions} {id : String} {x : Session}

theorem find_eq_some_iff : s.find id = some x ↔ id ∈ s.registered ∧ s.session id = some x := by
  unfold find
  split <;> simp_all

variable {y : Session}

/-- What an operation does not write to a session stays as it is. -/
theorem map_session_put {α : Type} {p : Session → α} (h : s.find id = some x) (hy : p y = p x)
    (j : String) : ((s.put id y).session j).map p = (s.session j).map p := by
  simp only [put, store_apply]
  split
  · subst j
    rw [(find_eq_some_iff.mp h).2, Option.map_some, Option.map_some, hy]
  · rfl

variable {α : Type} {p : Session → α} {serverID u host : String}

theorem map_session_bound (hp : ∀ x, p { x with serverID := serverID } = p x) (j : String) :
    ((s.bound id serverID).session j).map p = (s.session j).map p := by
  unfold bound
  split
  · rfl
  · exact map_session_put ‹_› (hp _) j

theorem map_session_identified (hp : ∀ x, p { x with userUUID := u } = p x) (j : String) :
    ((s.identified id u).session j).map p = (s.session j).map p := by
  unfold identified
  split
  · rfl
  · exact map_session_put ‹_› (hp _) j

theorem map_session_relocated (hp : ∀ x, p { x with remoteHost := host } = p x) (j : String) :
    ((s.relocated id host).session j).map p = (s.session j).map p := by
  unfold relocated
  split
  · rfl
  split
  · rfl
  · exact map_session_put ‹_› (hp _) j

theorem serverID_congr {s' : Sessions} {j : String}
    (h : (s'.session j).map Session.serverID = (s.session j).map Session.serverID) :
    s'.serverID j = s.serverID j := by
  unfold serverID
  cases hs' : s'.session j <;> cases hs : s.session j <;> simp_all

theorem serverID_opened (h : s.session id = none) (j : String) :
    (s.opened id u host).serverID j = s.serverID j := by
  unfold serverID opened put
  by_cases hj : j = id
  · subst hj
    simp [h]
  · simp [hj]

theorem serverID_removed (j : String) : (s.removed id).serverID j = s.serverID j := by
  unfold removed
  split <;> rfl

theorem serverID_identified (j : String) : (s.identified id u).serverID j = s.serverID j :=
  serverID_congr (map_session_identified (fun _ => rfl) j)

theorem serverID_relocated (j : String) : (s.relocated id host).serverID j = s.serverID j :=
  serverID_congr (map_session_relocated (fun _ => rfl) j)

variable {j : String}

theorem serverID_bound_of_ne (hj : j ≠ id) : (s.bound id serverID).serverID j = s.serverID j := by
  unfold bound
  split
  · rfl
  · simp [Sessions.serverID, put, hj]

theorem serverID_bound_self (h : id ∈ s.registered) :
    (s.bound id serverID).serverID id = serverID := by
  obtain ⟨x, hx⟩ := Option.isSome_iff_exists.mp (s.known id h)
  unfold bound
  rw [find_eq_some_iff.mpr ⟨h, hx⟩]
  simp [Sessions.serverID, put]

/-! ### What the operations do to registration -/

theorem registered_bound : (s.bound id serverID).registered = s.registered := by
  unfold bound
  split <;> rfl

theorem registered_identified : (s.identified id u).registered = s.registered := by
  unfold identified
  split <;> rfl

theorem registered_relocated : (s.relocated id host).registered = s.registered := by
  unfold relocated
  split
  · rfl
  · split <;> rfl

theorem mem_registered_removed (h : id ∈ s.registered) :
    j ∈ (s.removed id).registered ↔ j ∈ s.registered ∧ j ≠ id := by
  obtain ⟨x, hx⟩ := Option.isSome_iff_exists.mp (s.known id h)
  unfold removed
  rw [find_eq_some_iff.mpr ⟨h, hx⟩]
  simp

/-! ### What the operations do to addresses -/

variable {z : Session}

theorem exists_session {s' : Sessions} (hz : s'.session j = some z)
    (h : (s'.session j).map Session.remoteHost = (s.session j).map Session.remoteHost) :
    ∃ z', s.session j = some z' ∧ z'.remoteHost = z.remoteHost := by
  rw [hz] at h
  exact Option.map_eq_some_iff.mp h.symm

theorem session_opened (j : String) :
    (s.opened id u host).session j = if j = id then some ⟨"", u, host⟩ else s.session j :=
  store_apply ..

theorem session_removed (j : String) : (s.removed id).session j = s.session j := by
  unfold removed
  split <;> rfl

theorem remoteHost_relocated (hz : (s.relocated id host).session j = some z) :
    s.session j = some z ∨ (j = id ∧ host ≠ "" ∧ z.remoteHost = host) := by
  unfold relocated at hz
  split at hz
  · exact .inl hz
  split at hz
  · exact .inl hz
  rename_i hhost
  by_cases hj : j = id
  · subst hj
    obtain rfl := by simpa [put] using hz
    exact .inr ⟨rfl, hhost, rfl⟩
  · exact .inl (by simpa [put, hj] using hz)

/-! ### What the operations do to users -/

def userUUID (s : Sessions) (id : String) : Option String := (s.session id).map (·.userUUID)

variable {k c : String}

theorem userUUID_put (y : Session) (j : String) :
    (s.put id y).userUUID j = if j = id then some y.userUUID else s.userUUID j := by
  unfold userUUID put
  simp only [store_apply]
  split <;> rfl

theorem userUUID_opened (j : String) :
    (s.opened id u host).userUUID j = if j = id then some u else s.userUUID j :=
  userUUID_put ⟨"", u, host⟩ j

theorem userUUID_removed (j : String) : (s.removed id).userUUID j = s.userUUID j := by
  unfold userUUID
  rw [session_removed]

theorem userUUID_bound (j : String) : (s.bound id serverID).userUUID j = s.userUUID j :=
  map_session_bound (fun _ => rfl) j

theorem userUUID_relocated (j : String) : (s.relocated id host).userUUID j = s.userUUID j :=
  map_session_relocated (fun _ => rfl) j

theorem users_bound : (s.bound id serverID).users = s.users := by
  unfold bound
  split <;> rfl

theorem users_relocated : (s.relocated id host).users = s.users := by
  unfold relocated
  split
  · rfl
  · split <;> rfl

theorem identified_of_not_mem (h : id ∉ s.registered) : s.identified id u = s := by
  unfold identified find
  rw [if_neg h]

theorem exists_find (h : id ∈ s.registered) :
    ∃ x, s.find id = some x ∧ s.userUUID id = some x.userUUID := by
  obtain ⟨x, hx⟩ := Option.isSome_iff_exists.mp (s.known id h)
  exact ⟨x, find_eq_some_iff.mpr ⟨h, hx⟩, by rw [userUUID, hx]; rfl⟩

theorem userUUID_identified (h : id ∈ s.registered) (j : String) :
    (s.identified id u).userUUID j = if j = id then some u else s.userUUID j := by
  obtain ⟨x, hx, -⟩ := exists_find h
  unfold identified
  rw [hx]
  exact userUUID_put { x with userUUID := u } j

theorem users_identified (h : id ∈ s.registered) :
    (s.identified id u).users k = some c ↔
      (k = u ∧ c = id) ∨ (k ≠ u ∧ s.users k = some c ∧ ¬ (s.userUUID id = some k ∧ c = id)) := by
  obtain ⟨x, hx, huser⟩ := exists_find h
  unfold identified
  rw [hx, huser, Option.some.injEq, eq_comm (a := x.userUUID)]
  simp only [store_apply]
  split
  · simp_all [eq_comm]
  · rw [deleteIf_eq_some]
    simp_all

theorem users_removed (h : id ∈ s.registered) :
    (s.removed id).users k = some c ↔ s.users k = some c ∧ ¬ (s.userUUID id = some k ∧ c = id) := by
  obtain ⟨x, hx, huser⟩ := exists_find h
  unfold removed
  rw [hx, huser, Option.some.injEq, eq_comm (a := x.userUUID)]
  exact deleteIf_eq_some

theorem users_opened :
    (s.opened id u host).users k = some c ↔ (k = u ∧ c = id) ∨ (k ≠ u ∧ s.users k = some c) := by
  unfold opened
  simp only [store_apply]
  split <;> simp_all [eq_comm]

end Sessions

/-! ## Refinement -/

/-- What a connection object says about itself. -/
def Connection.session (c : Connection) : Session := ⟨c.serverID, c.userUUID, c.remoteHostOf⟩

namespace ConnectionManager

variable (cm : ConnectionManager)

def sessions : Sessions where
  registered := cm.connections
  users := cm.userConnections
  session id := (cm.objects id).map Connection.session
  known id h := by simpa using cm.registered id h

theorem find_sessions (id : String) :
    cm.sessions.find id = (cm.getConnection id).map Connection.session := by
  unfold Sessions.find getConnection sessions
  split <;> simp

@[simp] theorem sessions_incrementIP (ip : String) :
    (cm.incrementIP ip).sessions = cm.sessions := by
  unfold incrementIP
  split <;> rfl

@[simp] theorem sessions_decrementIP (ip : String) :
    (cm.decrementIP ip).sessions = cm.sessions := by
  unfold decrementIP
  split <;> rfl

variable {c : Connection} {id : String}

theorem sessions_modifyObject (f : Connection → Connection) (hc : cm.objects id = some c) :
    (cm.modifyObject id f).sessions = cm.sessions.put id (f c).session := by
  have : (fun j => ((cm.modifyObject id f).objects j).map Connection.session) =
      cm.sessions.session.store id (f c).session := by
    funext j
    by_cases hj : j = id
    · subst hj
      simp [modifyObject, hc]
    · simp [modifyObject, hj, sessions]
  simp only [sessions, this]
  rfl

theorem sessions_modifyObject_same (id : String) {f : Connection → Connection}
    (hf : ∀ c, (f c).session = c.session) : (cm.modifyObject id f).sessions = cm.sessions := by
  have : (fun j => ((cm.modifyObject id f).objects j).map Connection.session) =
      cm.sessions.session := by
    funext j
    by_cases hj : j = id
    · subst hj
      cases hc : cm.objects j <;> simp [modifyObject, hc, sessions, hf]
    · simp [modifyObject, hj, sessions]
  simp only [sessions, this]
  rfl

variable {cm} in
theorem objects_of_getConnection (h : cm.getConnection id = some c) :
    id ∈ cm.connections ∧ cm.objects id = some c := by
  unfold getConnection at h
  split at h
  · exact ⟨‹_›, h⟩
  · cases h

theorem sessions_addConnection (host : String → String) (id addr userUUID : String) :
    (cm.addConnection host id addr userUUID).sessions =
      cm.sessions.opened id userUUID ({ remoteAddr := addr, userUUID := userUUID } :
        Connection).remoteHostOf := by
  have : (fun j => (cm.objects.store id { remoteAddr := addr, userUUID := userUUID } j).map
      Connection.session) = cm.sessions.session.store id ⟨"", userUUID,
        ({ remoteAddr := addr, userUUID := userUUID } : Connection).remoteHostOf⟩ := by
    funext j
    by_cases hj : j = id
    · subst hj
      simp [Connection.session]
    · simp [hj, sessions]
  rw [addConnection, sessions_incrementIP]
  simp only [sessions, this]
  rfl

theorem sessions_dropIndexes (host : String → String) (id : String) (c : Connection) :
    (cm.dropIndexes host id c).sessions = cm.sessions := by
  have haccount (b : ConnectionManager) :
      (if c.accountID ≠ "" then b.removeAccountConnection c.accountID id else b).sessions =
        b.sessions := by
    unfold removeAccountConnection
    split
    · split <;> rfl
    · rfl
  rw [← haccount cm]
  exact sessions_decrementIP _ _

theorem sessions_removeConnection (host : String → String) (id : String) :
    (cm.removeConnection host id).sessions = cm.sessions.removed id := by
  rw [Sessions.removed, find_sessions, removeConnection]
  cases h : cm.getConnection id with
  | none => rfl
  | some c =>
    simp only [Option.map_some, sessions_dropIndexes]
    rfl

theorem sessions_setConnectionServerID (id serverID : String) :
    (cm.setConnectionServerID id serverID).sessions = cm.sessions.bound id serverID := by
  rw [Sessions.bound, find_sessions, setConnectionServerID]
  cases h : cm.getConnection id with
  | none => rfl
  | some c =>
    have hc := (objects_of_getConnection h).2
    exact cm.sessions_modifyObject (fun c => { c with serverID := serverID }) hc

theorem sessions_updateConnectionUserUUID (id userUUID : String) :
    (cm.updateConnectionUserUUID id userUUID).sessions = cm.sessions.identified id userUUID := by
  rw [Sessions.identified, find_sessions, updateConnectionUserUUID]
  cases h : cm.getConnection id with
  | none => rfl
  | some c =>
    have hc := (objects_of_getConnection h).2
    have hmod := cm.sessions_modifyObject (fun c => { c with userUUID := userUUID }) hc
    have hsession := congrArg Sessions.session hmod
    exact Sessions.ext rfl rfl hsession

theorem sessions_updateConnectionIP (id newIP : String) :
    (cm.updateConnectionIP id newIP).sessions = cm.sessions.relocated id newIP := by
  rw [Sessions.relocated, find_sessions, updateConnectionIP]
  cases h : cm.getConnection id with
  | none => rfl
  | some c =>
    have hc := (objects_of_getConnection h).2
    simp only [Option.map_some]
    by_cases hip : newIP = ""
    · simp [hip]
    by_cases hsame : c.remoteHostOf = newIP
    · -- the address stays, and so does the view
      rw [if_pos (.inr hsame), if_neg hip]
      have : cm.sessions.session.store id { c.session with remoteHost := newIP } =
          cm.sessions.session := by
        funext j
        by_cases hj : j = id
        · subst hj
          simp [sessions, hc, Connection.session, hsame]
        · simp [hj]
      exact Sessions.ext rfl rfl this.symm
    · rw [if_neg (by simp [hip, hsame]), if_neg hip]
      have hobj : ((cm.decrementIP c.remoteHostOf).incrementIP newIP).objects id = some c := by
        unfold incrementIP decrementIP
        split_ifs <;> exact hc
      rw [sessions_modifyObject _ _ hobj, sessions_incrementIP, sessions_decrementIP]
      rfl

@[simp] theorem sessions_setConnectionAccountID (id accountID : String) :
    (cm.setConnectionAccountID id accountID).sessions = cm.sessions := by
  unfold setConnectionAccountID
  split
  · rfl
  · split
    · rfl
    · exact cm.sessions_modifyObject_same id fun _ => rfl

@[simp] theorem sessions_setConnectionLoginKey (id loginKey : String) :
    (cm.setConnectionLoginKey id loginKey).sessions = cm.sessions := by
  unfold setConnectionLoginKey
  split
  · rfl
  · split
    · rfl
    · exact cm.sessions_modifyObject_same id fun _ => rfl

@[simp] theorem sessions_setWS (id : String) : (cm.setWS id).sessions = cm.sessions := by
  unfold setWS
  split
  · rfl
  · exact cm.sessions_modifyObject_same id fun _ => rfl

end ConnectionManager

end Sgate
