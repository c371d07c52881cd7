import Sgate.Gateway.Users
import Sgate.Connection.Operations

/-! # What the goroutines write to a connection

What a step of each task does to the connections and to the pool of logic clients, stated once
(`Effect`), with `Task.writes` for the fields of a login (`Credentials`). -/

namespace Sgate

open ConnectionManager KeyMap

/-- The fields of a connection that a login sets. -/
@[ext]
structure Credentials where
  serverID : String
  userUUID : String
  accountID : String
  loginKey : String
  deriving DecidableEq

def Connection.credentials (c : Connection) : Credentials :=
  ⟨c.serverID, c.userUUID, c.accountID, c.loginKey⟩

namespace Gateway

open Routes

/-! ## Credentials -/

/-- What a login worker of the connection `c` writes in a step. -/
def LoginPc.writes (r : LoginGateReq) (c : String) (k : Credentials) : LoginPc → Credentials
  | .bind => { k with serverID := r.serverID }
  | .register => { k with userUUID := r.fullUUID c }
  -- an empty account and an empty key are not written
  | .account => if r.userID = "" then k else { k with accountID := r.userID }
  | .key => if r.loginKey = "" then k else { k with loginKey := r.loginKey }
  | _ => k

/-- What a step of a task writes to the credentials of the registered connection `c`. -/
def Task.writes (c : String) (k : Credentials) : Task → Credentials
  | .login d _ r pc => if c = d then pc.writes r c k else k
  | .wsUpdate d m => if c = d then { k with userUUID := m.userKey } else k
  | .push d userKey => if c = d ∧ userKey ≠ "" then { k with userUUID := userKey } else k
  | _ => k

/-- The logic servers have the same clients, in the same states. -/
def SamePool (g g' : Gateway) : Prop := g'.clients = g.clients ∧ g'.isConnected = g.isConnected

/-- **What a step of a task does to the connections and to the pool**: at most one call of the
manager, or one change of the pool. -/
inductive Effect (cfg : Config) (g : Gateway) : Task → Gateway → Prop
  | same {t : Task} {g' : Gateway} (hpool : SamePool g g')
      (hmanager : g'.connectionManager = g.connectionManager) (ht : ∀ c k, t.writes c k = k) :
      Effect cfg g t g'
  /-- The object of a registered connection is written. -/
  | rewrites {t : Task} {g' : Gateway} {d : String} {f : Connection → Connection}
      (hpool : SamePool g g') (h : g.connectionManager.Rewrites g'.connectionManager d f)
      (hself : ∀ x, (f x).credentials = t.writes d x.credentials)
      (hother : ∀ c k, c ≠ d → t.writes c k = k)
      (hclient : ∀ x, (f x).logicClient = x.logicClient) : Effect cfg g t g'
  /-- `Process` caches the client of the connection's server. -/
  | cached {d : String} {m : StreamData} {x : Connection} {client : ℕ}
      (hx : g.connectionManager.objects d = some x) (hbound : x.serverID ≠ "")
      (hclient : g.getLogicClient x.serverID = some client) :
      Effect cfg g (.process d m .logicClient)
        (g.withManager (·.modifyObject d fun c => { c with logicClient := some client }))
  | offline {d : String} : Effect cfg g (.markOffline d)
      (g.withManager (·.modifyObject d fun c => { c with offlineSent := true }))
  | opened {d tempUUID addr : String} (hfresh : g.connectionManager.objects d = none) :
      Effect cfg g (.onOpen d tempUUID addr)
        (g.withManager (·.addConnection cfg.host d addr ("temp_" ++ tempUUID)))
  | removed {d : String} {g' : Gateway} (hpool : SamePool g g')
      (hmanager : g'.connectionManager = g.connectionManager.removeConnection cfg.host d) :
      Effect cfg g (.removeConn d) g'
  | setClient {serverID : String} {client : ℕ} : Effect cfg g (.setClient serverID client)
      { g with clients := g.clients.store serverID client }
  | setConnected {client : ℕ} {up : Bool} : Effect cfg g (.setConnected client up)
      { g with isConnected := Function.update g.isConnected client up }

/-- No connection loses the flag that its offline notice was accepted. -/
def KeepsSent (g g' : Gateway) : Prop :=
  ∀ c x, g.connectionManager.objects c = some x → x.offlineSent = true →
    (g'.connectionManager.objects c).any (·.offlineSent) = true

/-- **What a step of a task does to the connection `c`.** -/
structure Wrote (g : Gateway) (t : Task) (c : String) (x x' : Connection) : Prop where
  /-- The credentials are those the task writes. -/
  credentials : x'.credentials =
    if c ∈ g.connectionManager.connections then t.writes c x.credentials else x.credentials
  /-- The cached client is replaced only by `Process`, by the client of the connection's server. -/
  client : x'.logicClient = x.logicClient ∨ ∃ m client, t = .process c m .logicClient ∧
    x'.logicClient = some client ∧ x.serverID ≠ "" ∧ g.getLogicClient x.serverID = some client

section

variable {cfg : Config} {g g' : Gateway} {t t' : Task} {new : List Task} {c d : String}
  {x x' : Connection} {choice : Choice} {m : StreamData}

variable {f : Connection → Connection} {cm : ConnectionManager}

theorem objects_modifyObject (hx : cm.objects c = some x) :
    (cm.modifyObject d f).objects c = some (if c = d then f x else x) := by
  have hmodify : modify cm.objects d f c = some (if c = d then f x else x) :=
    modify_eq_some.mpr ⟨x, hx, rfl⟩
  exact hmodify

theorem keepsSent_modifyObject (hf : ∀ x, x.offlineSent = true → (f x).offlineSent = true) :
    KeepsSent g (g.withManager (·.modifyObject d f)) := by
  intro c x hx hsent
  rw [withManager, objects_modifyObject hx]
  split
  · exact hf x hsent
  · exact hsent

theorem effect_same (ht : ∀ c k, t.writes c k = k := by exact fun _ _ => rfl)
    (hpool : SamePool g g' := by exact ⟨rfl, rfl⟩)
    (hmanager : g'.connectionManager = g.connectionManager := by rfl) : Effect cfg g t g' ∧ KeepsSent g g' := by
  refine ⟨.same hpool hmanager ht, fun c x hx hsent => ?_⟩
  rw [hmanager, hx]
  exact hsent

theorem effect_rewrites (hpool : SamePool g g')
    (h : g.connectionManager.Rewrites g'.connectionManager d f)
    (hself : ∀ x, (f x).credentials = t.writes d x.credentials)
    (hother : ∀ c k, c ≠ d → t.writes c k = k)
    (hkept : ∀ x, (f x).logicClient = x.logicClient ∧ (f x).offlineSent = x.offlineSent) :
    Effect cfg g t g' ∧ KeepsSent g g' := by
  refine ⟨.rewrites hpool h hself hother fun x => (hkept x).1, fun c x hx hsent => ?_⟩
  rw [h.objects.objects hx]
  split
  · exact (hkept x).2.trans hsent
  · exact hsent

theorem effect_of_finishLoginGate {r : LoginGateReq} {pc : LoginPc}
    (h : finishLoginGate cfg g d m r pc choice = (g', t', new)) :
    Effect cfg g (.login d m r pc) g' ∧ KeepsSent g g' := by
  have hself (k : Credentials) : (Task.login d m r pc).writes d k = pc.writes r d k := if_pos rfl
  have hother (c : String) (k : Credentials) (hne : c ≠ d) :
      (Task.login d m r pc).writes c k = k := if_neg hne
  have hreads (hpc : ∀ c k, pc.writes r c k = k) (c : String) (k : Credentials) :
      (Task.login d m r pc).writes c k = k := by
    rw [Task.writes, hpc, ite_self]
  cases pc with
  | bind =>
    cases h
    exact effect_rewrites ⟨rfl, rfl⟩ (rewrites_setConnectionServerID _)
      (fun x => (hself x.credentials).symm) hother fun _ => ⟨rfl, rfl⟩
  | register =>
    cases h
    exact effect_rewrites ⟨rfl, rfl⟩ (rewrites_updateConnectionUserUUID _)
      (fun x => (hself x.credentials).symm) hother fun _ => ⟨rfl, rfl⟩
  | account =>
    cases h
    refine effect_rewrites ⟨rfl, rfl⟩ (rewrites_setConnectionAccountID _)
      (fun x => ?_) hother fun x => ?_
    · rw [hself, LoginPc.writes]
      split <;> rfl
    · split <;> exact ⟨rfl, rfl⟩
  | key =>
    cases h
    refine effect_rewrites ⟨rfl, rfl⟩ (rewrites_setConnectionLoginKey _)
      (fun x => ?_) hother fun x => ?_
    · rw [hself, LoginPc.writes]
      split <;> rfl
    · split <;> exact ⟨rfl, rfl⟩
  | validate =>
    cases choice <;> cases h <;> exact effect_same (hreads fun _ _ => rfl)
  | maintenance | lookup | closeOld _ | forward =>
    simp only [finishLoginGate] at h
    split at h <;> cases h <;> exact effect_same (hreads fun _ _ => rfl)
  | ack =>
    cases h
    exact effect_same (hreads fun _ _ => rfl)

variable {pc : ProcessPc}

/-- How `Process` gets the logic client of a bound connection: the cached one while it is connected,
and otherwise the connected client of the connection's server, which it caches. -/
theorem logicClient_cases (h : processMessage cfg g d m .logicClient choice = some (g', t', new))
    (hx : g.connectionManager.objects d = some x) :
    (g' = g ∧ (t' = .process d m (.security none) ∧ x.serverID = "" ∨ t' = .processed ⟨.none, none⟩)) ∨
    (∃ client, g' = g ∧ t' = .process d m (.security (some client)) ∧ x.serverID ≠ "" ∧
      x.logicClient = some client ∧ g.isConnected client) ∨
    (∃ client, t' = .process d m (.security (some client)) ∧ x.serverID ≠ "" ∧
      g.getLogicClient x.serverID = some client ∧
      g' = g.withManager (·.modifyObject d fun c => { c with logicClient := some client })) := by
  simp only [processMessage, hx] at h
  split at h
  · rename_i hempty
    cases h
    exact .inl ⟨rfl, .inl ⟨rfl, hempty⟩⟩
  rename_i hbound
  split at h
  · rename_i client hcached
    cases h
    obtain ⟨hclient, hup⟩ := Option.filter_eq_some_iff.mp hcached
    exact .inr (.inl ⟨client, rfl, rfl, hbound, hclient, hup⟩)
  split at h
  · cases h
    exact .inl ⟨rfl, .inr rfl⟩
  · rename_i client hclient
    cases h
    exact .inr (.inr ⟨client, rfl, hbound, hclient, rfl⟩)

theorem effect_of_processMessage (h : processMessage cfg g d m pc choice = some (g', t', new)) :
    Effect cfg g (.process d m pc) g' ∧ KeepsSent g g' := by
  obtain ⟨-, -, rfl | ⟨e, rfl⟩ | ⟨conn, client, rfl, hconn, hbound, hclient, rfl⟩⟩ :=
    pipelineStep_of_processMessage h
  · exact effect_same
  · exact effect_same
  · exact ⟨.cached hconn hbound hclient, keepsSent_modifyObject fun _ hsent => hsent⟩

variable {ws : Bool}

theorem effect_of_handleFrame {data : Bytes} (h : handleFrame cfg g ws d data = (g', t', new)) :
    Effect cfg g (.frame ws d data) g' ∧ KeepsSent g g' := by
  have hws : Effect cfg g (.frame ws d data) (if ws then g.withManager (·.setWS d) else g) ∧
      KeepsSent g (if ws then g.withManager (·.setWS d) else g) := by
    split
    · exact effect_rewrites ⟨rfl, rfl⟩ rewrites_setWS (fun _ => rfl)
        (fun _ _ _ => rfl) fun _ => ⟨rfl, rfl⟩
    · exact effect_same
  unfold handleFrame at h
  split at h
  · cases h
    exact effect_same
  simp only at h
  split at h
  · cases h
    exact hws
  split at h
  · cases h
    exact hws
  split at h <;> cases h <;> exact hws

theorem effect_of_handleLoginGate (h : handleLoginGate cfg g ws d m choice = (g', t', new)) :
    Effect cfg g (.handleLogin ws d m) g' ∧ KeepsSent g g' := by
  cases choice <;> simp only [handleLoginGate, refuseLogin] at h <;> (repeat' split at h) <;>
    cases h <;> exact effect_same

/-- **Every step is one of these.** -/
theorem effect_of_stepTask (h : stepTask cfg g t choice = some (g', t', new)) :
    Effect cfg g t g' ∧ KeepsSent g g' := by
  cases t with
  | frame ws d data => exact effect_of_handleFrame (Option.some.inj h)
  | handleLogin ws d m => exact effect_of_handleLoginGate (Option.some.inj h)
  | login d m r pc => exact effect_of_finishLoginGate (Option.some.inj h)
  | logout d =>
    have h := Option.some.inj h
    unfold handleLogoutGate at h
    split at h <;> cases h <;> exact effect_same
  | wsUpdate d m =>
    cases h
    refine effect_rewrites ⟨rfl, rfl⟩ (rewrites_updateConnectionUserUUID _)
      (fun x => ?_) (fun c k hne => ?_) fun _ => ⟨rfl, rfl⟩
    · rw [Task.writes, if_pos rfl]
      rfl
    · rw [Task.writes, if_neg hne]
  | process d m pc => exact effect_of_processMessage h
  | forwardLogin serverID m n =>
    cases n with
    | zero => cases h
    | succ n =>
      simp only [stepTask, forwardLoginAsync] at h
      split at h <;> cases h <;> exact effect_same
  | markOffline d =>
    cases h
    exact ⟨.offline, keepsSent_modifyObject fun _ _ => rfl⟩
  | onOpen d tempUUID addr =>
    by_cases hrefused : choice = .refuse
    · subst hrefused
      cases h
      exact effect_same
    · obtain ⟨hfresh, -, ⟨⟩⟩ := onOpen_accepted hrefused h
      refine ⟨.opened hfresh, fun c x hx hsent => ?_⟩
      have hne : c ≠ d := by
        rintro rfl
        rw [hfresh] at hx
        cases hx
      rw [withManager, objects_addConnection, store_of_ne _ _ hne, hx]
      exact hsent
  | onClose d | enable _ _ _ =>
    simp only [stepTask] at h
    split at h <;> cases h <;> exact effect_same
  | removeConn d =>
    have hmanager : SamePool g g' ∧
        g'.connectionManager = g.connectionManager.removeConnection cfg.host d := by
      cases h
      split <;> exact ⟨⟨rfl, rfl⟩, rfl⟩
    refine ⟨.removed hmanager.1 hmanager.2, fun c x hx hsent => ?_⟩
    rw [hmanager.2, objects_removeConnection, hx]
    exact hsent
  | push d userKey =>
    cases h
    by_cases hkey : userKey = ""
    · rw [if_pos hkey]
      refine effect_same fun c k => ?_
      rw [Task.writes, if_neg (fun h => h.2 hkey)]
    · rw [if_neg hkey]
      refine effect_rewrites ⟨rfl, rfl⟩ (rewrites_updateConnectionUserUUID _)
        (fun x => ?_) (fun c k hne => ?_) fun _ => ⟨rfl, rfl⟩
      · rw [Task.writes, if_pos ⟨rfl, hkey⟩]
        rfl
      · rw [Task.writes, if_neg (fun h => hne h.1)]
  | updateIP d ip =>
    cases h
    refine effect_rewrites ⟨rfl, rfl⟩ (rewrites_updateConnectionIP ip)
      (fun x => ?_) (fun _ _ _ => rfl) fun x => ?_
    · split <;> rfl
    · split <;> exact ⟨rfl, rfl⟩
  | setClient serverID client =>
    cases h
    exact ⟨.setClient, fun _ _ hx hsent => by rwa [hx]⟩
  | setConnected client up =>
    cases h
    exact ⟨.setConnected, fun _ _ hx hsent => by rwa [hx]⟩
  | processed _ | enabled _ _ _ | finished => cases h
  | _ =>
    cases h
    exact effect_same

/-! ## What follows for a connection and for the pool -/

theorem Wrote.kept (hc : x'.credentials = x.credentials) (hl : x'.logicClient = x.logicClient)
    (ht : t.writes c x.credentials = x.credentials) : Wrote g t c x x' := by
  refine ⟨?_, .inl hl⟩
  rw [hc, ht, ite_self]

theorem wrote_of_writesObject {cm' : ConnectionManager}
    (h : g.connectionManager.WritesObject cm' d f) (hx : g.connectionManager.objects c = some x)
    (hself : c = d → (f x).credentials = t.writes c x.credentials)
    (hother : c ≠ d → t.writes c x.credentials = x.credentials)
    (hl : (f x).logicClient = x.logicClient) :
    ∃ x', cm'.objects c = some x' ∧ Wrote g t c x x' := by
  refine ⟨_, h.objects hx, ?_⟩
  by_cases hd : c = d
  · by_cases hmem : c ∈ g.connectionManager.connections
    · rw [if_pos ⟨hd, hmem⟩]
      refine ⟨?_, .inl hl⟩
      rw [if_pos hmem, hself hd]
    · rw [if_neg (fun h => hmem h.2)]
      refine ⟨?_, .inl rfl⟩
      rw [if_neg hmem]
  · rw [if_neg (fun h => hd h.1)]
    exact .kept rfl rfl (hother hd)

section

variable (h : stepTask cfg g t choice = some (g', t', new))
include h

/-- **What every step writes to a connection.** -/
theorem wrote_of_stepTask (hx : g.connectionManager.objects c = some x) :
    ∃ x', g'.connectionManager.objects c = some x' ∧ Wrote g t c x x' := by
  cases (effect_of_stepTask h).1 with
  | same _ hmanager ht =>
    rw [hmanager]
    exact ⟨x, hx, .kept rfl rfl (ht c _)⟩
  | rewrites _ hwrites hself hother hclient =>
    refine wrote_of_writesObject hwrites.objects hx ?_ (hother c _) (hclient x)
    rintro rfl
    exact hself x
  | cached hd hbound hclient =>
    rename_i d m y client
    refine ⟨_, objects_modifyObject hx, ?_⟩
    by_cases heq : c = d
    · subst d
      obtain rfl := Option.mem_unique hx hd
      rw [if_pos rfl]
      refine ⟨?_, .inr ⟨m, client, rfl, rfl, hbound, hclient⟩⟩
      rw [show (Task.process c m .logicClient).writes c x.credentials = x.credentials from rfl,
        ite_self]
      rfl
    · rw [if_neg heq]
      exact .kept rfl rfl rfl
  | offline => refine ⟨_, objects_modifyObject hx, .kept ?_ ?_ rfl⟩ <;> split <;> rfl
  | opened hfresh =>
    rename_i d tempUUID addr
    refine ⟨x, ?_, .kept rfl rfl rfl⟩
    have hne : c ≠ d := by
      rintro rfl
      rw [hfresh] at hx
      cases hx
    rw [withManager]
    rw [objects_addConnection, store_of_ne _ _ hne, hx]
  | removed _ hmanager =>
    rw [hmanager, objects_removeConnection]
    exact ⟨x, hx, .kept rfl rfl rfl⟩
  | setClient | setConnected => exact ⟨x, hx, .kept rfl rfl rfl⟩

theorem opened_mono (hopened : (g.connectionManager.objects c).isSome) :
    (g'.connectionManager.objects c).isSome := by
  obtain ⟨x, hx⟩ := Option.isSome_iff_exists.mp hopened
  obtain ⟨x', hx', -⟩ := wrote_of_stepTask h hx
  rw [hx']
  rfl

theorem pool_of_stepTask :
    g'.clients = g.clients ∧ g'.isConnected = g.isConnected ∨
    (∃ serverID client, t = .setClient serverID client ∧
      g' = { g with clients := g.clients.store serverID client }) ∨
    ∃ client up, t = .setConnected client up ∧
      g' = { g with isConnected := Function.update g.isConnected client up } := by
  cases (effect_of_stepTask h).1 with
  | same hpool | rewrites hpool | removed hpool => exact .inl hpool
  | cached | offline | opened => exact .inl ⟨rfl, rfl⟩
  | setClient => exact .inr (.inl ⟨_, _, rfl, rfl⟩)
  | setConnected => exact .inr (.inr ⟨_, _, rfl, rfl⟩)

end

theorem userUUID_view (c : String) : g.view.sessions.userUUID c =
    (g.connectionManager.objects c).map Connection.userUUID := by
  simp [view, sessions, Sessions.userUUID, Option.map_map, Function.comp_def, Connection.session]

theorem objects_modifyObject_none (hnone : cm.objects c = none) :
    (cm.modifyObject d f).objects c = none := by
  have hmodify : modify cm.objects d f c = none := by
    rw [modify_apply, hnone, Option.map_none, ite_self]
  exact hmodify

/-- **A connection object comes into being** when the connection is opened, without a login. -/
theorem opened_of_stepTask (h : stepTask cfg g t choice = some (g', t', new))
    (hnone : g.connectionManager.objects c = none)
    (hx : g'.connectionManager.objects c = some x) :
    ∃ tempUUID addr, t = .onOpen c tempUUID addr ∧
      x = { remoteAddr := addr, userUUID := "temp_" ++ tempUUID } := by
  cases (effect_of_stepTask h).1 with
  | same _ hmanager _ =>
    rw [hmanager, hnone] at hx
    cases hx
  | rewrites _ hwrites =>
    rw [hwrites.objects.objects_none hnone] at hx
    cases hx
  | cached | offline =>
    rw [withManager, objects_modifyObject_none hnone] at hx
    cases hx
  | opened hfresh =>
    rename_i d tempUUID addr
    have hadded : (g.connectionManager.addConnection cfg.host d addr
      ("temp_" ++ tempUUID)).objects c = some x := hx
    rw [objects_addConnection, store_apply] at hadded
    split at hadded
    · subst c
      exact ⟨tempUUID, addr, rfl, (Option.some.inj hadded).symm⟩
    · rw [hnone] at hadded
      cases hadded
  | removed _ hmanager =>
    rw [hmanager, objects_removeConnection, hnone] at hx
    cases hx
  | setClient | setConnected =>
    rw [hnone] at hx
    cases hx

end

end Gateway

end Sgate
