import Sgate.Logic.Server

/-! # Takeover of a user by a new session

Session `s₂` takes over a user from `s₁`, and the offline notice of `s₁` travels on another stream.
Before it is dispatched the notice registers `s₁` for the user again, and then unregisters the user by
key. -/

namespace Sgate.Logic

open Routes Server

/-- A message that can arrive while `s₂` takes user `u` over from `s₁`: the two sessions send on
streams `c₁` and `c₂` and only for `u`, nobody else sends for `u`, and `s₂` does not go offline. -/
structure TakeoverMessage (u s₁ s₂ : String) (c₁ c₂ : ℕ) (m : ℕ × StreamData) : Prop where
  old_stream : m.2.sessionId = s₁ → m.1 = c₁
  new_stream : m.2.sessionId = s₂ → m.1 = c₂
  key : m.2.sessionId = s₁ ∨ m.2.sessionId = s₂ → m.2.userKey = u ∨ m.2.userKey = ""
  other_key : m.2.sessionId ≠ s₁ → m.2.sessionId ≠ s₂ → m.2.userKey ≠ u
  new_online : m.2.sessionId = s₂ → m.2.cmd ≠ cmdUserOffline

/-- A run in which the offline notice `off` of the old session is processed after the messages
`before` and in front of the messages `after`, among which the old session has none. -/
structure TakeoverRun (u s₁ s₂ : String) (c₁ c₂ : ℕ) (before : List (ℕ × StreamData))
    (off : ℕ × StreamData) (after : List (ℕ × StreamData)) : Prop where
  user_ne : u ≠ ""
  old_ne : s₁ ≠ ""
  new_ne : s₂ ≠ ""
  sessions_ne : s₁ ≠ s₂
  streams_ne : c₁ ≠ c₂
  messages : ∀ m ∈ before ++ off :: after, TakeoverMessage u s₁ s₂ c₁ c₂ m
  notice : off.2.sessionId = s₁ ∧ off.2.userKey = u ∧ off.2.cmd = cmdUserOffline
  old_done : ∀ m ∈ after, m.2.sessionId ≠ s₁
  new_sent : ∃ m ∈ before ++ after, m.2.sessionId = s₂ ∧ m.2.userKey = u

/-- The user is found on session `x`, in both tables. -/
def LiveBound (u x : String) (s : Server) : Prop :=
  s.getConnectionIDByUser u = some x ∧ s.sessionUsers x = some u

section

variable {handlers : Handlers} {u s₁ s₂ : String} {c₁ c₂ : ℕ} {s : Server} {m : ℕ × StreamData}

section

variable (hk : KeepUsers handlers) (hs : s.UsersInverse)
include hk hs

theorem liveBound_process_of_new (hu : u ≠ "") (hne : s₂ ≠ "")
    (hm : TakeoverMessage u s₁ s₂ c₁ c₂ m) (hsess : m.2.sessionId = s₂) (hkey : m.2.userKey = u) :
    LiveBound u s₂ (process handlers s m.1 m.2).1 := by
  obtain ⟨hb₁, hb₂⟩ := bind_tables hs m.1 m.2
  rcases dispatchMessage_users hk (s.bind m.1 m.2) m.2 with ⟨-, hoff, -⟩ | ⟨h₁, h₂, -⟩
  · exact absurd hoff (hm.new_online hsess)
  · refine ⟨?_, ?_⟩
    · rw [getConnectionIDByUser, process, h₁, hb₁]; simp [hsess, hkey, hu, hne]
    · rw [process, h₂, hb₂]; simp [hsess, hkey, hu, hne]

theorem liveBound_process (hm : TakeoverMessage u s₁ s₂ c₁ c₂ m) (hold : m.2.sessionId ≠ s₁)
    (hb : LiveBound u s₂ s) : LiveBound u s₂ (process handlers s m.1 m.2).1 := by
  obtain ⟨hb₁, hb₂⟩ := bind_tables hs m.1 m.2
  obtain ⟨hu, hx⟩ := hb
  have hkey := hm.key
  have hother := hm.other_key hold
  have honline := hm.new_online
  rw [getConnectionIDByUser] at hu
  have hbind : LiveBound u s₂ (s.bind m.1 m.2) := by
    refine ⟨?_, ?_⟩
    · rw [getConnectionIDByUser, hb₁]; grind
    · rw [hb₂]; grind
  rcases dispatchMessage_users hk (s.bind m.1 m.2) m.2 with ⟨-, hoff, h⟩ | ⟨h₁, h₂, -⟩
  · -- an offline notice of a third session: neither its key nor its session is ours
    have hx₂ : m.2.sessionId ≠ s₂ := fun hc => honline hc hoff
    obtain ⟨ho₁, ho₂⟩ := offline_tables (hs.bind m.1 m.2) m.2.sessionId m.2.userKey
    obtain ⟨hbu, hbx⟩ := hbind
    refine ⟨?_, ?_⟩
    · rw [getConnectionIDByUser, process, h, ho₁]; grind
    · rw [process, h, ho₂]; grind
  · exact ⟨by rw [getConnectionIDByUser, process, h₁]; exact hbind.1,
      by rw [process, h₂]; exact hbind.2⟩

/-- A message that neither is of the old session nor names the user on the new one does not bind the
user to the new session. -/
theorem unbound_process (hm : TakeoverMessage u s₁ s₂ c₁ c₂ m) (hold : m.2.sessionId ≠ s₁)
    (hnew : ¬ (m.2.sessionId = s₂ ∧ m.2.userKey = u)) (hb : s.userSessions u ≠ some s₂) :
    (process handlers s m.1 m.2).1.userSessions u ≠ some s₂ := by
  obtain ⟨hb₁, -⟩ := bind_tables hs m.1 m.2
  have hother := hm.other_key hold
  have hbind : (s.bind m.1 m.2).userSessions u ≠ some s₂ := by rw [hb₁]; grind
  rcases dispatchMessage_users hk (s.bind m.1 m.2) m.2 with ⟨-, -, h⟩ | ⟨h₁, -, -⟩
  · obtain ⟨ho₁, -⟩ := offline_tables (hs.bind m.1 m.2) m.2.sessionId m.2.userKey
    rw [process, h, ho₁]; grind
  · rw [process, h₁]; exact hbind

/-- **The offline notice of the old session takes the user away**, from whichever session it was
on. -/
theorem unbound_process_notice (hu : u ≠ "") (hne : s₁ ≠ "") (h12 : s₁ ≠ s₂)
    (hm : m.2.sessionId = s₁ ∧ m.2.userKey = u ∧ m.2.cmd = cmdUserOffline) :
    (process handlers s m.1 m.2).1.userSessions u ≠ some s₂ := by
  obtain ⟨hb₁, -⟩ := bind_tables hs m.1 m.2
  obtain ⟨hx, hkey, -⟩ := hm
  -- first the notice registers the old session for the user again
  have hbind : (s.bind m.1 m.2).userSessions u = some s₁ := by rw [hb₁]; simp [hx, hkey, hu, hne]
  rcases dispatchMessage_users hk (s.bind m.1 m.2) m.2 with ⟨-, -, h⟩ | ⟨h₁, -, -⟩
  · obtain ⟨ho₁, -⟩ := offline_tables (hs.bind m.1 m.2) m.2.sessionId m.2.userKey
    rw [process, h, ho₁]; simp [hkey, hu]
  · rw [process, h₁, hbind]
    simpa using h12

end

variable {ms : List (ℕ × StreamData)}

/-- While the new session does not name the user, the user stays away from it. -/
theorem unbound_processAll (hk : KeepUsers handlers)
    (hms : ∀ m ∈ ms, TakeoverMessage u s₁ s₂ c₁ c₂ m ∧ m.2.sessionId ≠ s₁ ∧ ¬ (m.2.sessionId = s₂ ∧ m.2.userKey = u))
    (hs : s.UsersInverse) (hb : s.userSessions u ≠ some s₂) :
    (processAll handlers s ms).userSessions u ≠ some s₂ := by
  induction ms generalizing s with
  | nil => exact hb
  | cons m ms ih =>
    obtain ⟨hm, hold, hnew⟩ := hms m (by simp)
    exact ih (fun m' h => hms m' (by simp [h])) (hs.process hk m.1 m.2)
      (unbound_process hk hs hm hold hnew hb)

theorem liveBound_processAll (hk : KeepUsers handlers)
    (hms : ∀ m ∈ ms, TakeoverMessage u s₁ s₂ c₁ c₂ m ∧ m.2.sessionId ≠ s₁) (hs : s.UsersInverse)
    (hb : LiveBound u s₂ s) : LiveBound u s₂ (processAll handlers s ms) := by
  induction ms generalizing s with
  | nil => exact hb
  | cons m ms ih =>
    obtain ⟨hm, hold⟩ := hms m (by simp)
    exact ih (fun m' h => hms m' (by simp [h])) (hs.process hk m.1 m.2)
      (liveBound_process hk hs hm hold hb)

end

/-- A server on which no application handler is registered. -/
def noHandlers : Handlers := .empty

theorem keepUsers_noHandlers : KeepUsers noHandlers := by
  intro cmd entry h
  simp [noHandlers] at h

/-- A message of the new session that names the user. -/
def newSpeaks : ℕ × StreamData := (2, { sessionId := "s2", userKey := "u", cmd := 7 })

def oldOffline : ℕ × StreamData := (1, { sessionId := "s1", userKey := "u", cmd := cmdUserOffline })

/-- The new session speaks, then the offline notice of the old one arrives, and what follows are
further messages of the new session. -/
theorem takeoverRun_late {after : List (ℕ × StreamData)} (h : ∀ m ∈ after, m = newSpeaks) :
    TakeoverRun "u" "s1" "s2" 1 2 [newSpeaks] oldOffline after where
  user_ne := by decide
  old_ne := by decide
  new_ne := by decide
  sessions_ne := by decide
  streams_ne := by decide
  messages := by
    intro m hm
    have hm' : m = newSpeaks ∨ m = oldOffline := by
      rcases List.mem_append.1 hm with hm | hm
      · exact .inl (List.mem_singleton.1 hm)
      · rcases List.mem_cons.1 hm with hm | hm
        · exact .inr hm
        · exact .inl (h m hm)
    rcases hm' with rfl | rfl <;> constructor <;> decide
  notice := by decide
  old_done := by
    intro m hm
    rw [h m hm]
    decide
  new_sent := ⟨newSpeaks, by simp, rfl, rfl⟩

/-- **Takeover, exactly.** For every order in which the messages of a takeover are processed, the
user ends on the live session iff that session has named the user again after the offline notice of
the old one. -/
theorem liveBound_iff {handlers : Handlers} (hk : KeepUsers handlers) {u s₁ s₂ : String} {c₁ c₂ : ℕ}
    {before after : List (ℕ × StreamData)} {off : ℕ × StreamData}
    (h : TakeoverRun u s₁ s₂ c₁ c₂ before off after) :
    LiveBound u s₂ (processAll handlers newServer (before ++ off :: after)) ↔
      ∃ m ∈ after, m.2.sessionId = s₂ ∧ m.2.userKey = u := by
  have hmsg : ∀ m ∈ after, TakeoverMessage u s₁ s₂ c₁ c₂ m := fun m hm =>
    h.messages m (by simp [hm])
  have hs := usersInverse_newServer.processAll hk before
  have hs' := hs.process hk off.1 off.2
  rw [processAll_append, processAll_cons]
  constructor
  · intro hb
    by_contra hnone
    have hun := unbound_process_notice hk hs h.user_ne h.old_ne h.sessions_ne h.notice
    refine unbound_processAll hk (fun m hm => ⟨hmsg m hm, h.old_done m hm, ?_⟩) hs' hun
      hb.1
    exact fun hc => hnone ⟨m, hm, hc⟩
  · rintro ⟨m, hm, hsess, hkey⟩
    obtain ⟨pre, post, rfl⟩ := List.append_of_mem hm
    rw [processAll_append, processAll_cons]
    have hs'' := hs'.processAll hk pre
    refine liveBound_processAll hk (fun m' h' => ⟨hmsg m' (by simp [h']), h.old_done m' (by simp [h'])⟩)
      (hs''.process hk m.1 m.2) ?_
    exact liveBound_process_of_new hk hs'' h.user_ne h.new_ne (hmsg m hm) hsess hkey

/-- A further message of the new session repairs the tables. -/
theorem liveBound_of_speaks_again :
    LiveBound "u" "s2" (processAll noHandlers newServer ([newSpeaks] ++ oldOffline :: [newSpeaks])) :=
  (liveBound_iff keepUsers_noHandlers (takeoverRun_late (by simp))).2
    ⟨newSpeaks, by simp, rfl, rfl⟩

/-- Without one the user is lost: the late notice of the replaced session removes the mapping of the
live one. -/
theorem lateOffline_unbinds_live :
    TakeoverRun "u" "s1" "s2" 1 2 [newSpeaks] oldOffline [] ∧
    ¬ LiveBound "u" "s2" (processAll noHandlers newServer ([newSpeaks] ++ oldOffline :: [])) :=
  ⟨takeoverRun_late (by simp), fun h => absurd h.1 (by decide)⟩

end Sgate.Logic
