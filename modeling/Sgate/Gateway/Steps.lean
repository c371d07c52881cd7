import Sgate.Gateway.Program

/-! # The gateway as a transition system on sessions

What a step of each task can do to the sessions, the maintenance marks, the connections told to close and
the history (`View`), stated once: `LoginStep`, `PipelineStep` and `TaskStep`. `taskStep_of_stepTask` is
the refinement. -/

namespace Sgate.Gateway

open Routes Interleaving ConnectionManager Sessions

/-! ## The view -/

/-- The part of the state that is reasoned about. -/
structure View where
  sessions : Sessions
  maintenance : MaintenanceState
  closing : List String
  history : List Event

namespace View

@[simps] def record (v : View) (e : Event) : View := { v with history := e :: v.history }

@[simps] def tellToClose (v : View) (c : String) : View := { v with closing := c :: v.closing }

@[simps] def withSessions (v : View) (s : Sessions) : View := { v with sessions := s }

end View

def view (g : Gateway) : View := ⟨g.connectionManager.sessions, g.maintenance, g.closing, g.history⟩

@[simp] theorem view_record (g : Gateway) (e : Event) : (g.record e).view = g.view.record e := rfl

theorem view_withManager (g : Gateway) (f : ConnectionManager → ConnectionManager) :
    (g.withManager f).view = g.view.withSessions (f g.connectionManager).sessions := rfl

theorem view_withManager_same {g : Gateway} {f : ConnectionManager → ConnectionManager}
    (h : (f g.connectionManager).sessions = g.connectionManager.sessions) :
    (g.withManager f).view = g.view := by
  rw [view_withManager, h]
  rfl

attribute [local simp] ConnectionManager.sessions view

theorem serverID_of_objects {cm : ConnectionManager} {c : String} {x : Connection}
    (h : cm.objects c = some x) : cm.sessions.serverID c = x.serverID := by
  simp [serverID, h, Connection.session]

/-! ## Login workers -/

/-- A notice that the connection `c`, which is bound, went offline. -/
def Notice (v : View) (c : String) (u : Task) : Prop :=
  ∃ client msg, u = .notifyOffline c client msg ∧ msg.sessionId = c ∧ v.sessions.serverID c ≠ ""

/-- A task that forwards the login of the connection `c`. -/
def Forwards (c : String) (u : Task) : Prop :=
  ∃ serverID msg n, u = .forwardLogin serverID msg n ∧ msg.sessionId = c

inductive LoginStep (cfg : Config) (v : View) (c : String) (m : StreamData) (r : LoginGateReq) :
    LoginPc → View → Task → List Task → Prop
  | invalid : LoginStep cfg v c m r .validate
      (v.record (.loginAck c 401 "invalid login key" r.serverID)) .finished []
  | valid : LoginStep cfg v c m r .validate (v.record (.validated c r))
      (.login c m r .maintenance) []
  | marked (h : v.maintenance.targets cfg r.serverID = true) : LoginStep cfg v c m r .maintenance
      (v.record (.loginAck c 503 "server in maintenance" r.serverID)) .finished []
  | admitted (h : v.maintenance.targets cfg r.serverID = false) :
      LoginStep cfg v c m r .maintenance (v.record (.admitted c r)) (.login c m r .bind) []
  | bind : LoginStep cfg v c m r .bind (v.withSessions (v.sessions.bound c r.serverID))
      (.login c m r .lookup) []
  /-- The user has no other connection. -/
  | alone (h : v.sessions.users (r.fullUUID c) = none ∨ v.sessions.users (r.fullUUID c) = some c) :
      LoginStep cfg v c m r .lookup v (.login c m r .register) []
  /-- The user has another connection. -/
  | found {old : String} (h : v.sessions.users (r.fullUUID c) = some old) (hne : old ≠ c) :
      LoginStep cfg v c m r .lookup v (.login c m r (.closeOld old)) []
  /-- The other connection is already removed. -/
  | gone {old : String} (h : v.sessions.find old = none) :
      LoginStep cfg v c m r (.closeOld old) v (.login c m r .register) []
  | closeOld {old : String} {new : List Task} (h : (v.sessions.find old).isSome)
      (hnew : ∀ u ∈ new, Notice v old u) : LoginStep cfg v c m r (.closeOld old)
      ((v.tellToClose old).record (.closedOld c r old)) (.login c m r .register) new
  | register : LoginStep cfg v c m r .register
      (v.withSessions (v.sessions.identified c (r.fullUUID c))) (.login c m r .account) []
  | account : LoginStep cfg v c m r .account v (.login c m r .key) []
  | key : LoginStep cfg v c m r .key v (.login c m r .ack) []
  | ack : LoginStep cfg v c m r .ack (v.record (.loginAck c 0 "ok" r.serverID))
      (.login c m r .forward) []
  | complete {new : List Task} (hnew : ∀ u ∈ new, Forwards c u) : LoginStep cfg v c m r .forward
      (v.record (.completed c r (v.sessions.users (r.fullUUID c)))) .finished new

variable {cfg : Config} {g g' : Gateway} {c : String} {m : StreamData} {t t' : Task}
  {new : List Task}

theorem notice_of_notifyLogicOffline {u : Task} (h : u ∈ notifyLogicOffline cfg g c) :
    Notice g.view c u := by
  unfold notifyLogicOffline at h
  split at h
  · cases h
  rename_i x hx
  split at h
  · cases h
  rename_i hbound
  split at h
  · cases h
  rename_i client _
  obtain rfl := List.mem_singleton.mp h
  refine ⟨client, _, rfl, rfl, ?_⟩
  have hs : g.view.sessions.serverID c = x.serverID := serverID_of_objects hx
  rw [hs]
  exact fun h => hbound (.inr h)

variable {x : Choice} {r : LoginGateReq}

/-- **Every step of a login worker is one of these.** -/
theorem loginStep_of_finishLoginGate {pc : LoginPc}
    (h : finishLoginGate cfg g c m r pc x = (g', t', new)) :
    LoginStep cfg g.view c m r pc g'.view t' new := by
  cases pc with
  | validate =>
    cases x <;> cases h <;> first | exact .valid | exact .invalid
  | maintenance =>
    simp only [finishLoginGate] at h
    split at h <;> cases h
    · exact .marked ‹_›
    · exact .admitted (Bool.eq_false_iff.mpr ‹_›)
  | bind =>
    cases h
    rw [view_withManager, sessions_setConnectionServerID]
    exact .bind
  | lookup =>
    simp only [finishLoginGate] at h
    split at h
    · cases h
      exact .alone (.inl ‹_›)
    · rename_i old hold
      split at h <;> cases h
      · exact .found hold ‹_›
      · rename_i hsame
        exact .alone (.inr (not_not.mp hsame ▸ hold))
  | closeOld old =>
    have hfind : g.view.sessions.find old =
        (g.connectionManager.getConnection old).map Connection.session :=
      g.connectionManager.find_sessions old
    simp only [finishLoginGate] at h
    split at h <;> cases h <;> rename_i hget <;> rw [hget] at hfind
    · exact .gone hfind
    · exact .closeOld (by rw [hfind]; rfl) fun _ => notice_of_notifyLogicOffline
  | register =>
    cases h
    rw [view_withManager, sessions_updateConnectionUserUUID]
    exact .register
  | account =>
    cases h
    rw [view_withManager_same (sessions_setConnectionAccountID ..)]
    exact .account
  | key =>
    cases h
    rw [view_withManager_same (sessions_setConnectionLoginKey ..)]
    exact .key
  | ack =>
    cases h
    exact .ack
  | forward =>
    simp only [finishLoginGate] at h
    split at h <;> cases h
    · exact .complete (by simp)
    · refine .complete fun u hu => ?_
      obtain rfl := List.mem_singleton.mp hu
      exact ⟨_, _, _, rfl, rfl⟩

/-! ## The pipeline -/

/-- The logic client `Process` has chosen. -/
def ProcessPc.client : ProcessPc → Option ℕ
  | .security client | .build client _ | .send client _ => client
  | _ => none

/-- `Process` is past the security stage. -/
def ProcessPc.checked : ProcessPc → Bool
  | .build _ _ | .send _ _ => true
  | _ => false

/-- The message `Process` is about to hand over. -/
def ProcessPc.out : ProcessPc → Option StreamData
  | .send _ out => some out
  | _ => none

/-- The effects of a step of `Process`. -/
inductive PipelineStep (cfg : Config) (v : View) (c : String) (m : StreamData) :
    ProcessPc → View → Task → Prop
  /-- The message is not handed over. -/
  | quit {pc : ProcessPc} (result : PipelineResult) : PipelineStep cfg v c m pc v (.processed result)
  /-- A check before the security stage is passed. -/
  | early {pc pc' : ProcessPc} (hclient : pc'.client = none) (hchecked : pc'.checked = false) :
      PipelineStep cfg v c m pc v (.process c m pc')
  /-- A bound connection gets the client of its server. -/
  | logicClient {client : ℕ} (h : v.sessions.serverID c ≠ "") :
      PipelineStep cfg v c m .logicClient v (.process c m (.security (some client)))
  /-- Without any protection the security stage is skipped. -/
  | fast {client : Option ℕ} {out : StreamData} (h : cfg.whitelistBlacklist = none)
      (hout : out.sessionId = c) :
      PipelineStep cfg v c m (.security client) v (.process c m (.send client out))
  /-- The address of the connection is not blocked. -/
  | secure {client : Option ℕ} {x : Session} (hx : v.sessions.session c = some x)
      (h : cfg.blocks x.remoteHost = false) :
      PipelineStep cfg v c m (.security client) v (.process c m (.build client x.remoteHost))
  | build {client : Option ℕ} {ip : String} {out : StreamData} (hout : out.sessionId = c) :
      PipelineStep cfg v c m (.build client ip) v (.process c m (.send client out))
  | send {client : ℕ} {out : StreamData} (result : PipelineResult) :
      PipelineStep cfg v c m (.send (some client) out) (v.record (.handed .pipeline client out))
        (.processed result)

/-- **Every step of `Process` is one of these.** It starts no goroutine, and all it writes is its
history and the client that it caches. -/
theorem pipelineStep_of_processMessage {pc : ProcessPc}
    (h : processMessage cfg g c m pc x = some (g', t', new)) :
    PipelineStep cfg g.view c m pc g'.view t' ∧ new = [] ∧ (g' = g ∨ (∃ e, g' = g.record e) ∨
      ∃ conn client, pc = .logicClient ∧ g.connectionManager.objects c = some conn ∧
        conn.serverID ≠ "" ∧ g.getLogicClient conn.serverID = some client ∧
        g' = g.withManager (·.modifyObject c fun conn => { conn with logicClient := some client })) := by
  cases pc with
  | overload | getConnection | bound | authenticated | msgRate =>
    cases x <;> simp only [processMessage] at h <;> (repeat' split at h) <;> cases h <;>
      first
        | exact ⟨.quit _, rfl, .inl rfl⟩
        | exact ⟨.early rfl rfl, rfl, .inl rfl⟩
  | logicClient =>
    simp only [processMessage] at h
    split at h
    · cases h
    rename_i conn hconn
    have hserver : g.view.sessions.serverID c = conn.serverID := serverID_of_objects hconn
    split at h
    · cases h
      exact ⟨.early rfl rfl, rfl, .inl rfl⟩
    rename_i hbound
    split at h
    · -- the cached client is connected
      cases h
      exact ⟨.logicClient (hserver ▸ hbound), rfl, .inl rfl⟩
    split at h
    · cases h
      exact ⟨.quit _, rfl, .inl rfl⟩
    · cases h
      rename_i client hclient
      have hview : (g.withManager (·.modifyObject c fun conn =>
          { conn with logicClient := some client })).view = g.view :=
        view_withManager_same (g.connectionManager.sessions_modifyObject_same c fun _ => rfl)
      rw [hview]
      exact ⟨.logicClient (hserver ▸ hbound), rfl,
        .inr (.inr ⟨conn, client, rfl, hconn, hbound, hclient, rfl⟩)⟩
  | security client =>
    simp only [processMessage] at h
    split at h
    · cases h
    rename_i conn hconn
    split at h
    · cases h
      rename_i hoff
      exact ⟨.fast (by simpa using hoff.1) rfl, rfl, .inl rfl⟩
    split at h
    · cases h
      exact ⟨.quit _, rfl, .inl rfl⟩
    rename_i hblocks
    split at h
    · cases h
      exact ⟨.quit _, rfl, .inl rfl⟩
    · cases h
      have hsession : g.view.sessions.session c = some conn.session := by
        simp [hconn]
      exact ⟨.secure hsession (Bool.eq_false_iff.mpr hblocks), rfl, .inl rfl⟩
  | build client ip =>
    simp only [processMessage] at h
    split at h <;> cases h
    refine ⟨.build ?_, rfl, .inl rfl⟩
    cases cfg.verdict x <;> rfl
  | send client out =>
    cases client <;> cases h
    · exact ⟨.quit _, rfl, .inl rfl⟩
    · exact ⟨.send _, rfl, .inr (.inl ⟨_, rfl⟩)⟩

/-! ## All tasks -/

/-- The tasks that can end without being seen. -/
def Task.slight : Task → Bool
  | .markOffline _ | .onOpen _ _ _ | .push _ _ | .enable _ _ _ | .setClient _ _
  | .setConnected _ _ => true
  | _ => false

inductive TaskStep (cfg : Config) (v : View) : Task → View → Task → List Task → Prop
  | quiet {t : Task} (ht : t.slight = true) : TaskStep cfg v t v .finished []
  -- a frame is dispatched
  | undecoded {ws : Bool} {c : String} {data : Bytes} (h : decodeClientMessage cfg.pw data = none) :
      TaskStep cfg v (.frame ws c data) v .finished []
  | toLogin {ws : Bool} {c : String} {data : Bytes} {m : StreamData}
      (h : decodeClientMessage cfg.pw data = some m) (hcmd : m.cmd = cmdLoginGate) :
      TaskStep cfg v (.frame ws c data) v (.handleLogin ws c m) []
  | toLogout {ws : Bool} {c : String} {data : Bytes} :
      TaskStep cfg v (.frame ws c data) v (.logout c) []
  | toProcess {ws : Bool} {c : String} {data : Bytes} {m : StreamData} :
      TaskStep cfg v (.frame ws c data) v (.process c m .overload) []
  -- a login is refused at once or gets a worker
  | refused {ws : Bool} {c message serverID : String} {m : StreamData} {code : ℕ} (h : code ≠ 0) :
      TaskStep cfg v (.handleLogin ws c m) (v.record (.loginAck c code message serverID)) .finished []
  | refusedClosing {ws : Bool} {c message serverID : String} {m : StreamData} {code : ℕ}
      (h : code ≠ 0) : TaskStep cfg v (.handleLogin ws c m)
      ((v.tellToClose c).record (.loginAck c code message serverID)) .finished []
  | started {ws : Bool} {c : String} {m : StreamData}
      (h : (cfg.unmarshalLoginGateReq m.data).1.serverID ≠ "") :
      TaskStep cfg v (.handleLogin ws c m) v
        (.login c m (cfg.unmarshalLoginGateReq m.data).1 .validate) []
  | login {c : String} {m : StreamData} {r : LoginGateReq} {pc : LoginPc} {v' : View} {t' : Task}
      {new : List Task} (h : LoginStep cfg v c m r pc v' t' new) :
      TaskStep cfg v (.login c m r pc) v' t' new
  | logout {c : String} {new : List Task} (hnew : ∀ u ∈ new, Notice v c u) :
      TaskStep cfg v (.logout c) (v.tellToClose c) .finished new
  | process {c : String} {m : StreamData} {pc : ProcessPc} {v' : View} {t' : Task}
      (h : PipelineStep cfg v c m pc v' t') : TaskStep cfg v (.process c m pc) v' t' []
  | wsUpdate {c : String} {m : StreamData} : TaskStep cfg v (.wsUpdate c m)
      (v.withSessions (v.sessions.identified c m.userKey)) (.process c m .overload) []
  -- the tasks of a login and of an offline notice
  | retry {serverID : String} {m : StreamData} {n : ℕ} :
      TaskStep cfg v (.forwardLogin serverID m (n + 1)) v (.forwardLogin serverID m n) []
  | forward {serverID : String} {m : StreamData} {n client : ℕ} {t' : Task}
      (ht' : t' = .finished ∨ t' = .forwardLogin serverID m n) :
      TaskStep cfg v (.forwardLogin serverID m (n + 1)) (v.record (.handed .login client m)) t' []
  | notify {c : String} {client : ℕ} {m : StreamData} {t' : Task}
      (ht' : t' = .finished ∨ t' = .markOffline c) :
      TaskStep cfg v (.notifyOffline c client m) (v.record (.handed .offline client m)) t' []
  -- connections come, change and go
  | opened {c tempUUID addr host : String} (h : v.sessions.session c = none)
      (htemp : isConnectionID tempUUID = true)
      (hhost : host = ({ remoteAddr := addr, userUUID := "temp_" ++ tempUUID } :
        Connection).remoteHostOf) : TaskStep cfg v (.onOpen c tempUUID addr)
      (v.withSessions (v.sessions.opened c ("temp_" ++ tempUUID) host)) .finished []
  | onClose {c : String} {new : List Task} (hnew : ∀ u ∈ new, Notice v c u) :
      TaskStep cfg v (.onClose c) v (.removeConn c) new
  | removed {c : String} (h : c ∈ v.sessions.registered) : TaskStep cfg v (.removeConn c)
      ((v.withSessions (v.sessions.removed c)).record (.removed c)) .finished []
  | removedBefore {c : String} (h : c ∉ v.sessions.registered) :
      TaskStep cfg v (.removeConn c) v .finished []
  | push {c userKey : String} : TaskStep cfg v (.push c userKey)
      (v.withSessions (v.sessions.identified c userKey)) .finished []
  | relocated {c ip : String} : TaskStep cfg v (.updateIP c ip)
      (v.withSessions (v.sessions.relocated c ip)) .finished []
  | kick {c : String} {new : List Task} (hnew : ∀ u ∈ new, Notice v c u) :
      TaskStep cfg v (.kick c) (v.tellToClose c) .finished new
  -- maintenance
  | enable {serverID zone reason : String} (h : ¬ (serverID = "") = (zone = "")) :
      TaskStep cfg v (.enable serverID zone reason)
        { v with maintenance := v.maintenance.enable serverID zone reason } (.snapshot serverID zone)
        []
  | snapshot {serverID zone : String} {matched : List String}
      (h : ∀ c, c ∈ matched ↔ c ∈ v.sessions.registered ∧
        covers cfg serverID zone (v.sessions.serverID c) = true) :
      TaskStep cfg v (.snapshot serverID zone) v (.enabled serverID zone matched)
        (matched.map .kick)
  | disable {serverID zone : String} : TaskStep cfg v (.disable serverID zone)
      { v with maintenance := v.maintenance.disable serverID zone } .finished []

variable {ws : Bool}

theorem taskStep_of_handleFrame {data : Bytes} (h : handleFrame cfg g ws c data = (g', t', new)) :
    TaskStep cfg g.view (.frame ws c data) g'.view t' new := by
  unfold handleFrame at h
  split at h
  · cases h
    exact .undecoded ‹_›
  rename_i msg hmsg
  have hview : (if ws then g.withManager (·.setWS c) else g).view = g.view := by
    split
    · exact view_withManager_same (sessions_setWS _ _)
    · rfl
  simp only [decodeClientMessage_userKey hmsg, ne_eq, not_true_eq_false, and_false, if_false] at h
  split at h
  · cases h
    rw [hview]
    exact .toLogin hmsg ‹_›
  split at h
  · cases h
    rw [hview]
    exact .toLogout
  · cases h
    rw [hview]
    exact .toProcess

theorem taskStep_of_handleLoginGate (h : handleLoginGate cfg g ws c m x = (g', t', new)) :
    TaskStep cfg g.view (.handleLogin ws c m) g'.view t' new := by
  have hlate : ∀ busy : Bool, (let r := cfg.unmarshalLoginGateReq m.data
        if r.2 = false ∨ r.1.serverID = "" then
          refuseLogin g c 400 "invalid login gate request" r.1.serverID
        else if g.isMaintenanceTarget cfg r.1.serverID then
          refuseLogin (if ws then g else g.tellToClose c) c 503 "server in maintenance" r.1.serverID
        else if busy then refuseLogin g c 429 "too many concurrent logins" r.1.serverID
        else (g, .login c m r.1 .validate, [])) = (g', t', new) →
      TaskStep cfg g.view (.handleLogin ws c m) g'.view t' new := by
    intro busy h
    dsimp only at h
    split at h
    · cases h
      exact .refused (by decide)
    rename_i hreq
    split at h
    · cases ws <;> cases h
      · exact .refusedClosing (by decide)
      · exact .refused (by decide)
    split at h
    · cases h
      exact .refused (by decide)
    · cases h
      exact .started fun hs => hreq (.inr hs)
  cases x with
  | overloaded | refuse => cases h; exact .refused (by decide)
  | busy => exact hlate true h
  | proceed | drop result | filtered payload userUUID => exact hlate false h

theorem mem_snapshotMaintenanceTargets {serverID zone id : String} :
    id ∈ g.snapshotMaintenanceTargets cfg serverID zone ↔ id ∈ g.view.sessions.registered ∧
      covers cfg serverID zone (g.view.sessions.serverID id) = true := by
  rw [snapshotMaintenanceTargets, List.mem_filter]
  refine and_congr Iff.rfl ?_
  cases hid : g.connectionManager.objects id with
  | none => simp [Sessions.serverID, hid, covers]
  | some conn =>
    have hs : g.view.sessions.serverID id = conn.serverID := serverID_of_objects hid
    rw [hs]

theorem onOpen_accepted {tempUUID addr : String} (hx : x ≠ .refuse)
    (h : stepTask cfg g (.onOpen c tempUUID addr) x = some (g', t', new)) :
    g.connectionManager.objects c = none ∧ isConnectionID tempUUID = true ∧
      (g.withManager (·.addConnection cfg.host c addr ("temp_" ++ tempUUID)), .finished, []) =
        (g', t', new) := by
  have h : (if (g.connectionManager.objects c).isSome ∨ ¬ isConnectionID tempUUID then none
      else some (g.withManager (·.addConnection cfg.host c addr ("temp_" ++ tempUUID)),
        .finished, [])) = some (g', t', new) := by
    cases x <;> first | exact h | exact absurd rfl hx
  obtain ⟨hfresh, h⟩ := Option.ite_none_left_eq_some.mp h
  rw [not_or, not_not, Option.not_isSome_iff_eq_none] at hfresh
  exact ⟨hfresh.1, hfresh.2, Option.some.inj h⟩

/-- **Every step of the gateway is one of these.** -/
theorem taskStep_of_stepTask (h : stepTask cfg g t x = some (g', t', new)) :
    TaskStep cfg g.view t g'.view t' new := by
  cases t with
  | frame ws c data => exact taskStep_of_handleFrame (Option.some.inj h)
  | handleLogin ws c m => exact taskStep_of_handleLoginGate (Option.some.inj h)
  | login c m r pc => exact .login (loginStep_of_finishLoginGate (Option.some.inj h))
  | logout c =>
    have h := Option.some.inj h
    unfold handleLogoutGate at h
    split at h <;> cases h
    · exact .logout (by simp)
    · exact .logout fun _ => notice_of_notifyLogicOffline
  | wsUpdate c m =>
    cases h
    rw [view_withManager, sessions_updateConnectionUserUUID]
    exact .wsUpdate
  | process c m pc =>
    obtain ⟨hstep, rfl, -⟩ := pipelineStep_of_processMessage h
    exact .process hstep
  | forwardLogin serverID m n =>
    cases n with
    | zero => cases h
    | succ n =>
      simp only [stepTask, forwardLoginAsync] at h
      split at h <;> cases h
      · exact .retry
      · exact .forward (by split <;> simp)
  | notifyOffline c client m =>
    cases h
    exact .notify (by split <;> simp)
  | markOffline c =>
    cases h
    have hview : (g.withManager (·.modifyObject c fun conn =>
        { conn with offlineSent := true })).view = g.view :=
      view_withManager_same (g.connectionManager.sessions_modifyObject_same c fun _ => rfl)
    rw [hview]
    exact .quiet rfl
  | onOpen c tempUUID addr =>
    by_cases hx : x = .refuse
    · subst hx
      cases h
      exact .quiet rfl
    · obtain ⟨hfresh, htemp, ⟨⟩⟩ := onOpen_accepted hx h
      rw [view_withManager, sessions_addConnection]
      exact .opened (by simpa using hfresh) htemp rfl
  | onClose c =>
    simp only [stepTask] at h
    split at h <;> cases h
    · exact .onClose (by simp)
    · exact .onClose fun _ => notice_of_notifyLogicOffline
  | removeConn c =>
    cases h
    by_cases hc : c ∈ g.connectionManager.connections
    · rw [if_pos hc, view_record, view_withManager, sessions_removeConnection]
      exact .removed hc
    · have hview : (g.withManager (·.removeConnection cfg.host c)).view = g.view := by
        refine view_withManager_same ?_
        rw [removeConnection, getConnection, if_neg hc]
      rw [if_neg hc, hview]
      exact .removedBefore hc
  | push c userKey =>
    cases h
    split
    · exact .quiet rfl
    · rw [view_withManager, sessions_updateConnectionUserUUID]
      exact .push
  | updateIP c ip =>
    cases h
    rw [view_withManager, sessions_updateConnectionIP]
    exact .relocated
  | enable serverID zone reason =>
    simp only [stepTask] at h
    split at h <;> cases h
    · exact .quiet rfl
    · exact .enable ‹_›
  | snapshot serverID zone =>
    cases h
    exact .snapshot fun _ => mem_snapshotMaintenanceTargets
  | disable serverID zone =>
    cases h
    exact .disable
  | kick c =>
    cases h
    exact .kick fun _ => notice_of_notifyLogicOffline
  | setClient serverID client | setConnected client up =>
    cases h
    exact .quiet rfl
  | processed _ | enabled _ _ _ | finished => cases h

variable {v v' : View}

theorem TaskStep.history_suffix (hs : TaskStep cfg v t v' t' new) : v.history <:+ v'.history := by
  cases hs with
  | login hs | process hs => cases hs <;> simp
  | _ => simp

variable {n : Task}

section

variable (hs : TaskStep cfg v t v' t' new)
include hs

/-- **The tasks a step starts**: notices, the task that forwards a login, and kicks. -/
theorem TaskStep.new_cases (hn : n ∈ new) :
    (∃ d, Notice v d n) ∨ (∃ d m r, t = .login d m r .forward ∧ Forwards d n) ∨ ∃ d, n = .kick d := by
  cases hs with
  | login hs =>
    cases hs with
    | closeOld _ hnew => exact .inl ⟨_, hnew n hn⟩
    | complete hnew => exact .inr (.inl ⟨_, _, _, rfl, hnew n hn⟩)
    | _ => cases hn
  | logout hnew | kick hnew | onClose hnew => exact .inl ⟨_, hnew n hn⟩
  | snapshot _ =>
    obtain ⟨d, -, rfl⟩ := List.mem_map.mp hn
    exact .inr (.inr ⟨d, rfl⟩)
  | _ => cases hn

theorem TaskStep.forall_new {P : Task → Prop}
    (hnotice : ∀ d client msg, P (.notifyOffline d client msg) := by intros; first | trivial | simp)
    (hforward : ∀ serverID msg n, P (.forwardLogin serverID msg n) := by
      intros; first | trivial | simp)
    (hkick : ∀ d, P (.kick d) := by intros; first | trivial | simp) : ∀ n ∈ new, P n := by
  intro n hn
  rcases hs.new_cases hn with ⟨d, client, msg, rfl, -⟩ | ⟨-, -, -, -, serverID, msg, k, rfl, -⟩ | ⟨d, rfl⟩
  · exact hnotice d client msg
  · exact hforward serverID msg k
  · exact hkick d

theorem TaskStep.new_ne_login (hn : n ∈ new) (d : String) (m : StreamData) (r : LoginGateReq)
    (pc : LoginPc) : n ≠ .login d m r pc :=
  (hs.forall_new (P := fun n => n ≠ .login d m r pc)) n hn

end

/-- Where a worker comes from: a login request that names a server, or the worker itself. -/
theorem TaskStep.login_cases {pc' : LoginPc} (hs : TaskStep cfg v t v' (.login c m r pc') new) :
    (∃ ws, t = .handleLogin ws c m) ∧ pc' = .validate ∧ r.serverID ≠ "" ∨
      ∃ pc, t = .login c m r pc ∧ LoginStep cfg v c m r pc v' (.login c m r pc') new := by
  generalize ht' : Task.login c m r pc' = t' at hs
  cases hs with
  | started h =>
    cases ht'
    exact .inl ⟨⟨_, rfl⟩, rfl, h⟩
  | login hs =>
    cases hs <;> cases ht'
    all_goals exact .inr ⟨_, rfl, by constructor <;> assumption⟩
  | process hs => cases hs <;> cases ht'
  | forward h | notify h => rcases h with rfl | rfl <;> cases ht'
  | _ => cases ht'

/-- **Where the address of a connection comes from**: it is as before, the connection was just opened
from it, or a header named it. -/
theorem TaskStep.remoteHost (hs : TaskStep cfg v t v' t' new) {x : Session}
    (hx : v'.sessions.session c = some x) :
    (∃ y, v.sessions.session c = some y ∧ y.remoteHost = x.remoteHost) ∨
    (∃ tempUUID addr, t = .onOpen c tempUUID addr ∧ v.sessions.session c = none ∧
      x.remoteHost = ({ remoteAddr := addr, userUUID := "temp_" ++ tempUUID } :
        Connection).remoteHostOf) ∨
    (t = .updateIP c x.remoteHost ∧ x.remoteHost ≠ "") := by
  cases hs with
  | login hs =>
    cases hs with
    | bind => exact .inl (exists_session hx (map_session_bound (fun _ => rfl) c))
    | register => exact .inl (exists_session hx (map_session_identified (fun _ => rfl) c))
    | _ => exact .inl ⟨x, hx, rfl⟩
  | process hs => cases hs <;> exact .inl ⟨x, hx, rfl⟩
  | wsUpdate | push => exact .inl (exists_session hx (map_session_identified (fun _ => rfl) c))
  | opened hfresh htemp hhost =>
    rw [View.withSessions_sessions, session_opened] at hx
    split at hx
    · rename_i hc
      subst hc
      cases hx
      exact .inr (.inl ⟨_, _, rfl, hfresh, hhost⟩)
    · exact .inl ⟨x, hx, rfl⟩
  | removed _ =>
    rw [View.record_sessions, View.withSessions_sessions, session_removed] at hx
    exact .inl ⟨x, hx, rfl⟩
  | relocated =>
    rcases remoteHost_relocated hx with hx | ⟨rfl, hip, rfl⟩
    · exact .inl ⟨x, hx, rfl⟩
    · exact .inr (.inr ⟨rfl, hip⟩)
  | _ => exact .inl ⟨x, hx, rfl⟩

def Task.entry : Task → Bool
  | .frame _ _ _ | .onOpen _ _ _ | .onClose _ | .push _ _ | .updateIP _ _ | .enable _ _ _
  | .disable _ _ | .kick _ | .setClient _ _ | .setConnected _ _ => true
  | _ => false

theorem entry_of_startTask (h : startTask g t = some g') : g' = g ∧ t.entry = true := by
  unfold startTask at h
  split at h
  · split at h <;> cases h
    exact ⟨rfl, rfl⟩
  all_goals first | (cases h; exact ⟨rfl, rfl⟩) | cases h

def Task.client : Task → Option String
  | .frame _ c _ | .handleLogin _ c _ | .login c _ _ _ => some c
  | _ => none

theorem opened_of_startTask (h : startTask g t = some g') (hc : c ∈ t.client) :
    (g.view.sessions.userUUID c).isSome := by
  cases t with
  | frame ws d data =>
    obtain rfl : d = c := by simpa [Task.client] using hc
    simp only [startTask] at h
    split at h
    · rename_i hsome
      simpa [userUUID] using hsome
    · cases h
  | handleLogin _ _ _ | login _ _ _ _ => cases h
  | _ => cases hc

end Sgate.Gateway
