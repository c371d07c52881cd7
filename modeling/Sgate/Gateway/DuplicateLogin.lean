import Sgate.Gateway.Users

/-! # One connection per user

A login worker looks the user up, closes the connection it finds and registers its own, so two workers
of one user can both find nobody. The invariant of `RegistersAlone`: a registered connection of the user
that was not told to close is the one the index holds (`HeldByIndex`). -/

namespace Sgate.Gateway

open Routes Interleaving Sessions

/-! ## Logins of one user -/

def LoginGateReq.isFor (r : LoginGateReq) (serverID userID : String) : Bool :=
  r.serverID = serverID && r.userID = userID

/-- Nothing but logins of the given user gives connections a user. -/
def Task.onlyLogsIn (cfg : Config) (serverID userID : String) : Task → Bool
  | .frame _ _ data =>
    match decodeClientMessage cfg.pw data with
    | none => true
    | some m => m.cmd ≠ cmdLoginGate ||
        (cfg.unmarshalLoginGateReq m.data).1.isFor serverID userID
  | .handleLogin _ _ m => (cfg.unmarshalLoginGateReq m.data).1.isFor serverID userID
  | .login _ _ r _ => r.isFor serverID userID
  | .push _ _ | .wsUpdate _ _ => false
  | _ => true

/-- A login worker of the user finished on the connection. -/
def LoggedIn (serverID userID : String) (h : List Event) (c : String) : Prop :=
  ∃ r holder, Event.completed c r holder ∈ h ∧ r.isFor serverID userID = true

/-- The connection a worker is about to register, and the user it registers it for. -/
def Task.registering : Task → Option (String × String)
  | .login c _ r .register => some (c, r.fullUUID c)
  | _ => none

/-- A worker is about to register its connection only while the connection the index holds for its
user is its own or was told to close. -/
def RegistersAlone (w : World Gateway Task) (t : Task) : Prop :=
  ∀ p ∈ t.registering, ∀ o ∈ w.shared.view.sessions.users p.2, o = p.1 ∨ o ∈ w.shared.closing
  deriving Decidable

/-! ## The invariant -/

/-- The connection was opened, and if it is registered it has the user. -/
def HasUser (s : Sessions) (u c : String) : Prop :=
  (s.userUUID c).isSome ∧ (c ∈ s.registered → s.userUUID c = some u)

def Task.loggedIn : Task → Option String
  | .login c _ _ pc => if pc.registered then some c else none
  | _ => none

/-- The registered connections of the user `u` that were not told to close are those the index
holds, and connections on which a login has finished have the user. -/
structure HeldByIndex (serverID userID u : String) (v : View) : Prop where
  held : ∀ c ∈ v.sessions.registered, v.sessions.userUUID c = some u → c ∉ v.closing →
    v.sessions.users u = some c
  done : ∀ c, LoggedIn serverID userID v.history c → HasUser v.sessions u c

/-- What is known of a task: it only logs the user in, its client was opened, and the connection it
registered has the user. -/
structure Logs (cfg : Config) (serverID userID u : String) (s : Sessions) (t : Task) : Prop where
  only : t.onlyLogsIn cfg serverID userID = true
  opened : ∀ c ∈ t.client, (s.userUUID c).isSome
  registered : ∀ c ∈ t.loggedIn, HasUser s u c

section

variable {cfg : Config} {v v' : View} {s s' : Sessions} {t t' : Task} {new : List Task}
  {c u serverID userID : String}

/-! ## Steps -/

theorem fullUUID_of_isFor {r : LoginGateReq} (hu : userID ≠ "")
    (hr : r.isFor serverID userID = true) (c : String) :
    r.fullUUID c = serverID ++ ":" ++ userID := by
  obtain ⟨rfl, rfl⟩ : r.serverID = serverID ∧ r.userID = userID := by
    simpa [LoginGateReq.isFor] using hr
  rw [LoginGateReq.fullUUID, if_neg hu]

theorem renames_of_onlyLogsIn (ht : t.onlyLogsIn cfg serverID userID = true) :
    t.renames = false := by
  cases t with
  | push _ _ | wsUpdate _ _ => cases ht
  | _ => rfl

theorem UsersStep.hasUser (hu : userID ≠ "") (hs : UsersStep s t s')
    (ht : t.onlyLogsIn cfg serverID userID = true)
    (h : HasUser s (serverID ++ ":" ++ userID) c) :
    HasUser s' (serverID ++ ":" ++ userID) c := by
  -- the user of a registered connection changes only by a login, and all logins are of this user
  refine ⟨hs.isSome_mono h.1, fun hc => ?_⟩
  cases hs with
  | same hregistered _ huuid _ =>
    rw [huuid]
    exact h.2 (hregistered ▸ hc)
  | opened hfresh _ =>
    rw [userUUID_opened]
    split
    · -- the identifier of the new connection was not in use
      subst c
      rw [HasUser, hfresh] at h
      cases h.1
    · rename_i hne
      exact h.2 ((List.mem_cons.mp hc).resolve_left hne)
  | removed hid =>
    rw [userUUID_removed]
    exact h.2 ((mem_registered_removed hid).mp hc).1
  | register =>
    rename_i d m r
    rw [registered_identified] at hc
    by_cases hd : d ∈ s.registered
    · rw [userUUID_identified hd]
      split
      · rw [fullUUID_of_isFor hu ht]
      · exact h.2 hc
    · rw [identified_of_not_mem hd]
      exact h.2 hc
  | named hnames => exact absurd hnames (not_names_of_renames (renames_of_onlyLogsIn ht))

theorem TaskStep.closing_subset (hs : TaskStep cfg v t v' t' new) : v.closing ⊆ v'.closing := by
  cases hs with
  | login hs | process hs => cases hs <;> simp
  | _ => simp

theorem UsersStep.held (hu : userID ≠ "") (hs : UsersStep s t s')
    (ht : t.onlyLogsIn cfg serverID userID = true) {closing : List String}
    (halone : ∀ p ∈ t.registering, ∀ o ∈ s.users p.2, o = p.1 ∨ o ∈ closing)
    (h : ∀ c ∈ s.registered, s.userUUID c = some (serverID ++ ":" ++ userID) → c ∉ closing →
      s.users (serverID ++ ":" ++ userID) = some c)
    (hc : c ∈ s'.registered) (huuid : s'.userUUID c = some (serverID ++ ":" ++ userID))
    (hopen : c ∉ closing) : s'.users (serverID ++ ":" ++ userID) = some c := by
  cases hs with
  | same hregistered husers huuid' _ =>
    rw [husers]
    exact h c (hregistered ▸ hc) (huuid' c ▸ huuid) hopen
  | opened hfresh htemp =>
    rename_i id tempUUID addr host
    -- a new connection has a temporary user
    have htempUUID : serverID ++ ":" ++ userID ≠ "temp_" ++ tempUUID := by
      have hne := fullUUID_ne_temp ⟨userID, "", serverID⟩ "" htemp
      rwa [LoginGateReq.fullUUID, if_neg hu] at hne
    rw [userUUID_opened] at huuid
    split at huuid
    · exact absurd (Option.some.inj huuid).symm htempUUID
    · rename_i hne
      have hc' := (List.mem_cons.mp hc).resolve_left hne
      exact users_opened.mpr (.inr ⟨htempUUID, h c hc' huuid hopen⟩)
  | removed hid =>
    rw [userUUID_removed] at huuid
    obtain ⟨hc', hne⟩ := (mem_registered_removed hid).mp hc
    exact (users_removed hid).mpr ⟨h c hc' huuid hopen, fun hown => hne hown.2⟩
  | register =>
    rename_i d m r
    have hr : r.fullUUID d = serverID ++ ":" ++ userID := fullUUID_of_isFor hu ht d
    rw [registered_identified] at hc
    by_cases hd : d ∈ s.registered
    · rw [hr, users_identified hd]
      by_cases hcd : c = d
      · exact .inl ⟨rfl, hcd⟩
      · -- another connection that is left would be the one the index holds
        rw [userUUID_identified hd, if_neg hcd] at huuid
        have hheld := h c hc huuid hopen
        rw [← hr] at hheld
        rcases halone _ rfl c hheld with heq | hclosing
        · exact absurd heq hcd
        · exact absurd hclosing hopen
    · rw [identified_of_not_mem hd] at huuid ⊢
      exact h c hc huuid hopen
  | named hnames => exact absurd hnames (not_names_of_renames (renames_of_onlyLogsIn ht))

theorem TaskStep.onlyLogsIn (hs : TaskStep cfg v t v' t' new)
    (ht : t.onlyLogsIn cfg serverID userID = true) :
    t'.onlyLogsIn cfg serverID userID = true := by
  cases hs with
  | login hs => cases hs <;> first | rfl | exact ht
  | process hs => cases hs <;> rfl
  | toLogin hdecode hcmd => simpa [Task.onlyLogsIn, hdecode, hcmd] using ht
  | started _ => exact ht
  | forward h | notify h => rcases h with rfl | rfl <;> rfl
  | _ => rfl

theorem TaskStep.loggedIn_cases (hs : TaskStep cfg v t v' t' new) (hc : c ∈ t'.loggedIn) :
    c ∈ t.loggedIn ∨ ∃ m r, t = .login c m r .register ∧
      v'.sessions = v.sessions.identified c (r.fullUUID c) := by
  cases hs with
  | login hs =>
    cases hs with
    | register =>
      obtain rfl := by simpa [Task.loggedIn, LoginPc.registered] using hc
      exact .inr ⟨_, _, rfl, rfl⟩
    | account | key | ack => exact .inl hc
    | _ => simp [Task.loggedIn, LoginPc.registered] at hc
  | process hs => cases hs <;> cases hc
  | forward h | notify h => rcases h with rfl | rfl <;> cases hc
  | _ => cases hc

theorem TaskStep.logs (hu : userID ≠ "") (hs : TaskStep cfg v t v' t' new)
    (ht : t.onlyLogsIn cfg serverID userID = true) {o : Task}
    (ho : Logs cfg serverID userID (serverID ++ ":" ++ userID) v.sessions o) :
    Logs cfg serverID userID (serverID ++ ":" ++ userID) v'.sessions o where
  only := ho.only
  opened c hc := hs.users.isSome_mono (ho.opened c hc)
  registered c hc := hs.users.hasUser hu ht (ho.registered c hc)

section

variable (hu : userID ≠ "") (hs : TaskStep cfg v t v' t' new)
  (ht : Logs cfg serverID userID (serverID ++ ":" ++ userID) v.sessions t)
include hu hs ht

theorem TaskStep.logs_self :
    Logs cfg serverID userID (serverID ++ ":" ++ userID) v'.sessions t' where
  only := hs.onlyLogsIn ht.only
  opened c hc := hs.users.isSome_mono (ht.opened c (hs.client_eq hc))
  registered c hc := by
    rcases hs.loggedIn_cases hc with hc | ⟨m, r, rfl, hsessions⟩
    · exact hs.users.hasUser hu ht.only (ht.registered c hc)
    · refine ⟨hs.users.isSome_mono (ht.opened c rfl), fun hreg => ?_⟩
      rw [hsessions] at hreg ⊢
      rw [registered_identified] at hreg
      rw [userUUID_identified hreg, if_pos rfl, fullUUID_of_isFor hu ht.only]

/-- A step of the logins of the user, registering alone, keeps the index in charge. -/
theorem TaskStep.heldByIndex
    (halone : ∀ p ∈ t.registering, ∀ o ∈ v.sessions.users p.2, o = p.1 ∨ o ∈ v.closing)
    (h : HeldByIndex serverID userID (serverID ++ ":" ++ userID) v) :
    HeldByIndex serverID userID (serverID ++ ":" ++ userID) v' where
  held c hc huuid hopen :=
    hs.users.held hu ht.only halone h.held hc huuid fun hclosing =>
      hopen (hs.closing_subset hclosing)
  done c hc := by
    obtain ⟨r, holder, hmem, hr⟩ := hc
    refine hs.users.hasUser hu ht.only ?_
    rcases hs.completed_mem hmem with hold | ⟨m, rfl, -⟩
    · exact h.done c ⟨r, holder, hold, hr⟩
    · exact ht.registered c rfl

end

end

/-! ## Runs -/

/-- A run of logins of one user in which workers register alone. -/
abbrev LoginsAlone (cfg : Config) (serverID userID : String) :
    World Gateway Task → Action Task Choice → Prop :=
  Program.ThreadGuard (fun _ t => t.onlyLogsIn cfg serverID userID = true) RegistersAlone

theorem heldByIndex_of_run {cfg : Config} {serverID userID : String}
    {as : List (Action Task Choice)} {w : World Gateway Task} (hu : userID ≠ "")
    (hguard : (gateway cfg).Guarded (LoginsAlone cfg serverID userID) initWorld as)
    (hrun : (gateway cfg).run initWorld as = some w) :
    HeldByIndex serverID userID (serverID ++ ":" ++ userID) w.shared.view := by
  refine (Program.run_local
    (S := fun g => HeldByIndex serverID userID (serverID ++ ":" ++ userID) g.view)
    (L := fun g t => Logs cfg serverID userID (serverID ++ ":" ++ userID) g.view.sessions t)
    ?_ ?_ ?_ hguard hrun).1
  · intro w t g hw honly hs
    obtain ⟨rfl, hentry⟩ := entry_of_startTask hs
    refine ⟨⟨hw.1, honly, fun c hc => opened_of_startTask hs hc, fun c hc => ?_⟩, fun _ ho => ho⟩
    cases t with
    | login _ _ _ _ => cases hentry
    | _ => cases hc
  · intro w i x t g t' new hw halone ht hs
    have hstep := taskStep_of_stepTask hs
    have hlogs := hw.2 t (List.mem_of_getElem? ht)
    refine ⟨⟨hstep.heldByIndex hu hlogs (halone t ht) hw.1, hstep.logs_self hu hlogs, ?_⟩,
      fun _ ho => hstep.logs hu hlogs.only ho⟩
    exact hstep.forall_new (fun _ _ _ => ⟨rfl, nofun, nofun⟩) (fun _ _ _ => ⟨rfl, nofun, nofun⟩)
      fun _ => ⟨rfl, nofun, nofun⟩
  · refine ⟨⟨fun c hc => ?_, fun c hc => ?_⟩, fun t ht => ?_⟩
    · cases hc
    · obtain ⟨_, _, hmem, -⟩ := hc
      cases hmem
    · cases ht

/-- **At most one connection per user.** In every run of logins of one user, with any number of
workers, in which each worker registers its connection while the index holds no other connection of
the user that still has to be closed: of the connections on which a login has finished, at most one
is neither closed nor told to close. -/
theorem atMostOne_of_registersAlone {cfg : Config} {serverID userID : String}
    {as : List (Action Task Choice)} {w : World Gateway Task} (hu : userID ≠ "")
    (hguard : (gateway cfg).Guarded (LoginsAlone cfg serverID userID) initWorld as)
    (hrun : (gateway cfg).run initWorld as = some w) {c d : String}
    (hc : LoggedIn serverID userID w.shared.history c)
    (hd : LoggedIn serverID userID w.shared.history d)
    (hcopen : c ∈ w.shared.view.sessions.registered ∧ c ∉ w.shared.closing)
    (hdopen : d ∈ w.shared.view.sessions.registered ∧ d ∉ w.shared.closing) : c = d := by
  have hindex := heldByIndex_of_run hu hguard hrun
  -- a connection that is left is the one the index holds, and the index holds one
  have hleft {c : String} (hc : LoggedIn serverID userID w.shared.history c)
      (hopen : c ∈ w.shared.view.sessions.registered ∧ c ∉ w.shared.closing) :
      w.shared.view.sessions.users (serverID ++ ":" ++ userID) = some c :=
    hindex.held c hopen.1 ((hindex.done c hc).2 hopen.1) hopen.2
  exact Option.some.inj ((hleft hc hcopen).symm.trans (hleft hd hdopen))

/-! ## Two clients of one user -/

/-- After two logins in turn, at most one of the connections is left. -/
theorem atMostOne_loginsInTurn :
    ∃ w, (gateway (sampleConfig [⟨"u", "k", "s"⟩] none)).run initWorld loginsInTurn = some w ∧
      ∀ c d, LoggedIn "s" "u" w.shared.history c → LoggedIn "s" "u" w.shared.history d →
        c ∈ w.shared.view.sessions.registered ∧ c ∉ w.shared.closing →
        d ∈ w.shared.view.sessions.registered ∧ d ∉ w.shared.closing → c = d := by
  obtain ⟨w, hrun⟩ := Option.isSome_iff_exists.mp (show ((gateway (sampleConfig [⟨"u", "k", "s"⟩]
    none)).run initWorld loginsInTurn).isSome by decide +kernel)
  refine ⟨w, hrun, fun c d hc hd hcopen hdopen => ?_⟩
  exact atMostOne_of_registersAlone (by decide) (by decide +kernel) hrun hc hd hcopen hdopen

/-- Both look the user up before either registers. -/
def racingLogins : List (Action Task Choice) :=
  twoOpen ++ starts (.frame false "c" (loginFrame 0)) 2 6 ++
  starts (.frame false "d" (loginFrame 0)) 3 6 ++ steps 2 5 ++ steps 3 5

/-- **Racing logins both stay.** The workers of two connections of one user have finished, and
neither connection is closed or told to close. -/
theorem racingLogins_both_stay :
    ∃ w, (gateway (sampleConfig [⟨"u", "k", "s"⟩] none)).run initWorld racingLogins = some w ∧
      (∀ t ∈ w.threads, t.client = none) ∧
      LoggedIn "s" "u" w.shared.history "c" ∧ LoggedIn "s" "u" w.shared.history "d" ∧
      w.shared.view.sessions.registered = ["d", "c"] ∧ w.shared.closing = [] := by
  obtain ⟨w, hrun, hthreads, hc, hd, hend⟩ :
      ∃ w, (gateway (sampleConfig [⟨"u", "k", "s"⟩] none)).run initWorld racingLogins = some w ∧
        (∀ t ∈ w.threads, t.client = none) ∧
        Event.completed "c" ⟨"u", "k", "s"⟩ (some "c") ∈ w.shared.history ∧
        Event.completed "d" ⟨"u", "k", "s"⟩ (some "d") ∈ w.shared.history ∧
        w.shared.view.sessions.registered = ["d", "c"] ∧ w.shared.closing = [] :=
    Transition.exists_end (by decide +kernel)
  exact ⟨w, hrun, hthreads, ⟨_, _, hc, by decide⟩, ⟨_, _, hd, by decide⟩, hend⟩

end Sgate.Gateway
