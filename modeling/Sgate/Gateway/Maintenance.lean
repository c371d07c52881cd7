import Sgate.Gateway.Steps

/-! # Maintenance

Enabling maintenance writes the mark and then takes a snapshot of the connections on the covered
servers, all of which are kicked. A login worker checks the mark in one step and binds its connection in
another. `inTime_of_quietRun` says when writing the mark first is enough. -/

namespace Sgate.Gateway

open Interleaving Sessions MaintenanceState

/-- Every registered connection on a covered server is in the snapshot. -/
def CoveredKicked (cfg : Config) (w : World Gateway Task) : Prop :=
  ∀ serverID zone matched, Task.enabled serverID zone matched ∈ w.threads →
    ∀ c ∈ w.shared.view.sessions.registered,
      covers cfg serverID zone (w.shared.view.sessions.serverID c) = true → c ∈ matched

/-- A snapshot for a target that covers the server was taken without the connection. -/
def Task.misses (cfg : Config) (c server : String) : Task → Bool
  | .enabled serverID zone matched => covers cfg serverID zone server && c ∉ matched
  | _ => false

/-- A registered connection is about to be bound only to a server for which no snapshot misses it. -/
def BindsInTime (cfg : Config) (w : World Gateway Task) : Task → Prop
  | .login c _ r .bind =>
    c ∈ w.shared.view.sessions.registered → ∀ u ∈ w.threads, u.misses cfg c r.serverID = false
  | _ => True

def Task.target : Task → Option (String × String)
  | .snapshot serverID zone | .enabled serverID zone _ => some (serverID, zone)
  | _ => none

/-- A login worker of a covered server between its check of the mark and its binding. -/
def Task.aboutToBind (cfg : Config) (serverID zone : String) : Task → Bool
  | .login _ _ r .bind => covers cfg serverID zone r.serverID
  | _ => false

section

variable {cfg : Config} {v v' : View} {t t' : Task} {new : List Task} {w w' : World Gateway Task}

/-! ## Steps -/

/-- Nothing but the binding step of a login worker puts a connection on a logic server. -/
theorem TaskStep.bindings (hs : TaskStep cfg v t v' t' new) :
    (∃ c m r, t = .login c m r .bind ∧ v'.sessions = v.sessions.bound c r.serverID) ∨
    ∀ c ∈ v'.sessions.registered, v'.sessions.serverID c ≠ "" →
      c ∈ v.sessions.registered ∧ v'.sessions.serverID c = v.sessions.serverID c := by
  cases hs with
  | login hs =>
    cases hs with
    | bind => exact .inl ⟨_, _, _, rfl, rfl⟩
    | register =>
      refine .inr fun c hc _ => ?_
      rw [View.withSessions_sessions, registered_identified] at hc
      exact ⟨hc, serverID_identified _⟩
    | _ => exact .inr fun c hc _ => ⟨hc, rfl⟩
  | process hs => cases hs <;> exact .inr fun c hc _ => ⟨hc, rfl⟩
  | wsUpdate | push =>
    refine .inr fun c hc _ => ?_
    rw [View.withSessions_sessions, registered_identified] at hc
    exact ⟨hc, serverID_identified _⟩
  | opened hfresh _ _ =>
    refine .inr fun c hc hserver => ?_
    rw [View.withSessions_sessions, serverID_opened hfresh] at hserver
    rcases List.mem_cons.mp hc with rfl | hc
    · -- a new connection is on no server
      rw [serverID, hfresh] at hserver
      exact absurd rfl hserver
    · exact ⟨hc, serverID_opened hfresh c⟩
  | removed hreg =>
    refine .inr fun c hc _ => ⟨?_, serverID_removed _⟩
    exact ((mem_registered_removed hreg).mp hc).1
  | relocated =>
    refine .inr fun c hc _ => ?_
    rw [View.withSessions_sessions, registered_relocated] at hc
    exact ⟨hc, serverID_relocated _⟩
  | _ => exact .inr fun c hc _ => ⟨hc, rfl⟩

variable {serverID zone : String}

theorem TaskStep.snapshot_taken {matched : List String}
    (hs : TaskStep cfg v t v' (.enabled serverID zone matched) new) :
    t = .snapshot serverID zone ∧ v' = v ∧ ∀ c, c ∈ matched ↔ c ∈ v.sessions.registered ∧
      covers cfg serverID zone (v.sessions.serverID c) = true := by
  cases hs with
  | login hs | process hs => cases hs
  | forward ht' | notify ht' => rcases ht' with h | h <;> cases h
  | snapshot h => exact ⟨rfl, rfl, h⟩

theorem TaskStep.new_harmless (hs : TaskStep cfg v t v' t' new) :
    ∀ u ∈ new, u.target = none ∧ ∀ serverID zone, u.aboutToBind cfg serverID zone = false :=
  hs.forall_new (fun _ _ _ => ⟨rfl, fun _ _ => rfl⟩) (fun _ _ _ => ⟨rfl, fun _ _ => rfl⟩)
    fun _ => ⟨rfl, fun _ _ => rfl⟩

/-! ## Runs -/

/-- The condition on the steps of a run. -/
abbrev InTime (cfg : Config) : World Gateway Task → Action Task Choice → Prop :=
  Program.ThreadGuard (fun _ _ => True) (BindsInTime cfg)

theorem covers_empty (serverID zone : String) : covers cfg serverID zone "" = false := by
  simp [covers]

variable {a : Action Task Choice}

theorem CoveredKicked.exec (hw : CoveredKicked cfg w) (hg : InTime cfg w a)
    (h : (gateway cfg).exec w a = some w') : CoveredKicked cfg w' := by
  obtain ⟨t, g, rfl, hs, rfl⟩ | ⟨i, x, t, g, t', new, rfl, ht, hs, rfl⟩ := Program.exec_cases h
  · obtain ⟨rfl, hentry⟩ := entry_of_startTask hs
    intro serverID zone matched hmem
    rcases of_mem_snoc hmem with hmem | rfl
    · exact hw serverID zone matched hmem
    · cases hentry
  · have hstep := taskStep_of_stepTask hs
    intro serverID zone matched hmem c hc hcovers
    -- who took the snapshot: an earlier step, this one, or nobody
    rcases of_mem_set_append hmem with hold | rfl | hnew
    · rcases hstep.bindings with ⟨d, m, r, rfl, hbound⟩ | hsame
      · rw [hbound, registered_bound] at hc
        rw [hbound] at hcovers
        by_cases hcd : c = d
        · subst hcd
          -- the connection that is bound right now: the guard says the snapshot has it
          have hmiss := hg _ ht hc _ hold
          rw [serverID_bound_self hc] at hcovers
          simpa [Task.misses, hcovers] using hmiss
        · rw [serverID_bound_of_ne hcd] at hcovers
          exact hw serverID zone matched hold c hc hcovers
      · have hserver : g.view.sessions.serverID c ≠ "" := by
          intro hempty
          rw [hempty, covers_empty] at hcovers
          cases hcovers
        -- everybody else is where it was
        obtain ⟨hc', heq⟩ := hsame c hc hserver
        exact hw serverID zone matched hold c hc' (heq ▸ hcovers)
    · obtain ⟨-, hv, hmatched⟩ := hstep.snapshot_taken
      rw [hv] at hc hcovers
      exact (hmatched c).mpr ⟨hc, hcovers⟩
    · cases (hstep.new_harmless _ hnew).1

theorem exec_of_not_inTime (hg : ¬ InTime cfg w a) :
    ∃ w', (gateway cfg).exec w a = some w' ∧ ¬ CoveredKicked cfg w' := by
  cases a with
  | start t => exact absurd trivial hg
  | step i x =>
    simp only [Program.ThreadGuard, not_forall] at hg
    obtain ⟨t, ht, hlate⟩ := hg
    unfold BindsInTime at hlate
    split at hlate
    · rename_i c m r
      simp only [not_forall, Bool.not_eq_false] at hlate
      obtain ⟨hc, u, hu, hmiss⟩ := hlate
      have hexec : (gateway cfg).exec w (.step i x) =
          some ⟨w.shared.withManager (·.setConnectionServerID c r.serverID),
            w.threads.set i (.login c m r .lookup) ++ []⟩ := by
        have ht' : w.threads[i]? = some (.login c m r .bind) := ht
        simp only [Program.exec, ht']
        rfl
      refine ⟨_, hexec, fun hall => ?_⟩
      cases u with
      | enabled serverID zone matched =>
        obtain ⟨hcovers, hnot⟩ : covers cfg serverID zone r.serverID = true ∧ c ∉ matched := by
          simpa [Task.misses] using hmiss
        -- the snapshot stays as it was taken, and the connection is now on a server it covers
        refine hnot (hall serverID zone matched ?_ c ?_ ?_)
        · exact mem_set_append_of_ne ht hu (by simp)
        · rw [view_withManager, View.withSessions_sessions,
            ConnectionManager.sessions_setConnectionServerID, registered_bound]
          exact hc
        · rw [view_withManager, View.withSessions_sessions,
            ConnectionManager.sessions_setConnectionServerID]
          exact (serverID_bound_self hc).symm ▸ hcovers
      | _ => cases hmiss
    · exact absurd trivial hlate

/-! ## What the mark achieves -/

def Task.keepsMarks : Task → Bool
  | .disable _ _ => false
  | _ => true

/-- A snapshot is taken only when no login worker of a covered server is about to bind. -/
def SnapshotQuiet (cfg : Config) (w : World Gateway Task) : Task → Prop
  | .snapshot serverID zone => ∀ u ∈ w.threads, u.aboutToBind cfg serverID zone = false
  | _ => True

/-- Every mark that was written is in force, and no worker of a server whose snapshot was taken is
about to bind. -/
structure DoorShut (cfg : Config) (w : World Gateway Task) : Prop where
  marked : ∀ t ∈ w.threads, ∀ target ∈ t.target, ∀ server,
    covers cfg target.1 target.2 server = true → w.shared.maintenance.targets cfg server = true
  shut : ∀ serverID zone matched, Task.enabled serverID zone matched ∈ w.threads →
    ∀ u ∈ w.threads, u.aboutToBind cfg serverID zone = false

variable {server : String}

theorem targets_enable {m : MaintenanceState} (serverID zone reason : String)
    (h : m.targets cfg server = true) :
    (m.enable serverID zone reason).targets cfg server = true := by
  unfold targets enable serverMarked
    zoneMarked at *
  simp only [ne_eq, decide_not, Bool.and_eq_true, Bool.or_eq_true] at h ⊢
  refine ⟨h.1, ?_⟩
  split <;> simp only [KeyMap.store_apply] <;> split <;> simp_all

theorem targets_enable_of_covers (m : MaintenanceState) {serverID zone server : String}
    (reason : String) (h : covers cfg serverID zone server = true) :
    (m.enable serverID zone reason).targets cfg server = true := by
  simp only [covers, ne_eq, decide_not, Bool.and_eq_true] at h
  obtain ⟨hserver, hcovers⟩ := h
  simp only [targets, ne_eq, decide_not, Bool.and_eq_true, Bool.or_eq_true]
  refine ⟨hserver, ?_⟩
  unfold enable
  by_cases hs : serverID = ""
  · -- a zone is marked, and the server is in it
    have hzone : cfg.zoneOfServer server = zone := by simpa [hs] using hcovers
    exact .inr (by simp [hs, zoneMarked, hzone])
  · have hself : server = serverID := by simpa [hs] using hcovers
    exact .inl (by simp [hs, serverMarked, hself])

section

variable (hs : TaskStep cfg v t v' t' new)
include hs

theorem TaskStep.targets_mono (ht : t.keepsMarks = true)
    (h : v.maintenance.targets cfg server = true) : v'.maintenance.targets cfg server = true := by
  cases hs with
  | login hs | process hs => cases hs <;> exact h
  | enable _ => exact targets_enable _ _ _ h
  | disable => cases ht
  | _ => exact h

theorem TaskStep.target_marked {target : String × String} (ht' : t'.target = some target) :
    t.target = some target ∨ ∀ server,
      covers cfg target.1 target.2 server = true → v'.maintenance.targets cfg server = true := by
  cases hs with
  | login hs | process hs => cases hs <;> cases ht'
  | forward h | notify h => rcases h with rfl | rfl <;> cases ht'
  | snapshot _ => exact .inl ht'
  | enable _ =>
    obtain rfl := by simpa [Task.target] using ht'
    exact .inr fun _ hcovers => targets_enable_of_covers _ _ hcovers
  | _ => cases ht'

theorem TaskStep.not_targets_of_aboutToBind (ht' : t'.aboutToBind cfg serverID zone = true) :
    ∃ server, covers cfg serverID zone server = true ∧
      v'.maintenance.targets cfg server = false := by
  cases hs with
  | login hs =>
    cases hs with
    | admitted h => exact ⟨_, ht', h⟩
    | _ => cases ht'
  | process hs => cases hs <;> cases ht'
  | forward h | notify h => rcases h with rfl | rfl <;> cases ht'
  | _ => cases ht'

end

/-- The condition on the steps of a run under which the mark is enough. -/
abbrev QuietRun (cfg : Config) : World Gateway Task → Action Task Choice → Prop :=
  Program.ThreadGuard (fun _ _ => True) fun w t => t.keepsMarks = true ∧ SnapshotQuiet cfg w t

theorem DoorShut.exec (hw : DoorShut cfg w) (hg : QuietRun cfg w a)
    (h : (gateway cfg).exec w a = some w') : DoorShut cfg w' := by
  obtain ⟨t, g, rfl, hs, rfl⟩ | ⟨i, x, t, g, t', new, rfl, ht, hs, rfl⟩ := Program.exec_cases h
  · obtain ⟨rfl, hentry⟩ := entry_of_startTask hs
    have hidle : t.target = none ∧ ∀ serverID zone, t.aboutToBind cfg serverID zone = false := by
      cases t <;> first | exact ⟨rfl, fun _ _ => rfl⟩ | cases hentry
    constructor
    · intro u hu target htarget
      rcases of_mem_snoc hu with hu | rfl
      · exact hw.marked u hu target htarget
      · rw [hidle.1] at htarget
        cases htarget
    · intro serverID zone matched hmem u hu
      have hold : Task.enabled serverID zone matched ∈ w.threads := by
        rcases of_mem_snoc hmem with hmem | rfl
        · exact hmem
        · cases hidle.1
      rcases of_mem_snoc hu with hu | rfl
      · exact hw.shut serverID zone matched hold u hu
      · exact hidle.2 serverID zone
  · have hstep := taskStep_of_stepTask hs
    obtain ⟨hkeeps, hquiet⟩ := hg t ht
    have hmarked : ∀ u ∈ w.threads, ∀ target ∈ u.target, ∀ server,
        covers cfg target.1 target.2 server = true → g.maintenance.targets cfg server = true :=
      fun u hu target htarget server hcovers =>
        hstep.targets_mono hkeeps (hw.marked u hu target htarget server hcovers)
    constructor
    · intro u hu target htarget
      rcases of_mem_set_append hu with hu | rfl | hu
      · exact hmarked u hu target htarget
      · rcases hstep.target_marked htarget with hold | hnow
        · exact hmarked t (List.mem_of_getElem? ht) target hold
        · exact hnow
      · rw [(hstep.new_harmless u hu).1] at htarget
        cases htarget
    · intro serverID zone matched hmem u hu
      rcases of_mem_set_append hmem with hold | rfl | hnew
      · rcases of_mem_set_append hu with hu | rfl | hu
        · exact hw.shut serverID zone matched hold u hu
        · -- the worker found its server unmarked, so no written mark covers it
          rw [Bool.eq_false_iff]
          intro hbind
          obtain ⟨server, hcovers, hfree⟩ := hstep.not_targets_of_aboutToBind hbind
          have htaken : g.view.maintenance.targets cfg server = true :=
            hmarked _ hold (serverID, zone) rfl server hcovers
          rw [htaken] at hfree
          cases hfree
        · exact (hstep.new_harmless u hu).2 serverID zone
      · -- this step takes the snapshot
        obtain ⟨rfl, -, -⟩ := hstep.snapshot_taken
        rcases of_mem_set_append hu with hu | rfl | hu
        · exact hquiet u hu
        · rfl
        · exact (hstep.new_harmless u hu).2 serverID zone
      · cases (hstep.new_harmless _ hnew).1

end

theorem inTime_of_quietRun {cfg : Config} {as : List (Action Task Choice)}
    (h : (gateway cfg).Guarded (QuietRun cfg) initWorld as) :
    (gateway cfg).Guarded (InTime cfg) initWorld as := by
  refine h.exchange (J := DoorShut cfg) (fun w a w' hw hg => hw.exec hg) ?_ ?_
  · intro w a hw _
    cases a with
    | start t => trivial
    | step i x =>
      intro t ht
      unfold BindsInTime
      split
      · intro _ u hu
        cases u with
        | enabled serverID zone matched =>
          -- no worker of a covered server is about to bind once a snapshot is taken
          have hshut := hw.shut serverID zone matched hu _ (List.mem_of_getElem? ht)
          simp only [Task.aboutToBind] at hshut
          simp [Task.misses, hshut]
        | _ => rfl
      · trivial
  · constructor
    · intro t ht
      cases ht
    · intro _ _ _ hmem
      cases hmem

/-- **Mark, then kick.** In a run that takes no mark back and takes each snapshot when no login worker
of a covered server stands between check and binding, nobody is left behind a snapshot. -/
theorem coveredKicked_of_quietRun {cfg : Config} {as : List (Action Task Choice)}
    {w : World Gateway Task} (h : (gateway cfg).Guarded (QuietRun cfg) initWorld as)
    (hrun : (gateway cfg).run initWorld as = some w) : CoveredKicked cfg w := by
  refine Transition.run_invariant (fun _ _ _ hw hg => hw.exec hg) ?_ (inTime_of_quietRun h) hrun
  intro _ _ _ hmem
  cases hmem

instance (cfg : Config) (w : World Gateway Task) : DecidablePred (SnapshotQuiet cfg w) := fun _ => by
  unfold SnapshotQuiet
  split <;> infer_instance

/-- A login, an enable with its kick, and a login that comes too late. -/
def enabledInTime : List (Action Task Choice) :=
  starts (.onOpen "c" "t1" "10.0.0.1:5000") 0 1 ++ starts (.frame false "c" (loginFrame 0)) 1 11 ++
  starts (.enable "s" "" "r") 3 2 ++ steps 4 1 ++
  starts (.onOpen "d" "t2" "10.0.0.2:5000") 5 1 ++ starts (.frame false "d" (loginFrame 0)) 6 2

/-- The connection on the server is in the snapshot and told to close, and no other one gets there. -/
theorem coveredKicked_of_quietRun_kicked : let cfg := sampleConfig [⟨"u", "k", "s"⟩] none
    ∃ w, (gateway cfg).run initWorld enabledInTime = some w ∧ Task.enabled "s" "" ["c"] ∈ w.threads ∧
      w.shared.view.sessions.serverID "c" = "s" ∧ "c" ∈ w.shared.closing ∧ CoveredKicked cfg w := by
  intro cfg
  obtain ⟨w, hrun, hkicked⟩ : ∃ w, (gateway cfg).run initWorld enabledInTime = some w ∧
      Task.enabled "s" "" ["c"] ∈ w.threads ∧ w.shared.view.sessions.serverID "c" = "s" ∧
      "c" ∈ w.shared.closing := Transition.exists_end (by decide +kernel)
  exact ⟨w, hrun, hkicked.1, hkicked.2.1, hkicked.2.2, coveredKicked_of_quietRun (by decide +kernel) hrun⟩

/-- **Maintenance closes the door exactly if logins bind in time.** In every run, for every number of
login workers and whatever server or zone is put under maintenance: the snapshots hold every
registered connection on a covered server at all times iff no step binds a connection to a covered
server behind a snapshot that misses it. -/
theorem coveredKicked_iff (cfg : Config) (as : List (Action Task Choice)) :
    (gateway cfg).Throughout (CoveredKicked cfg) initWorld as ↔
      (gateway cfg).Guarded (InTime cfg) initWorld as := by
  refine Transition.throughout_iff_guarded (J := CoveredKicked cfg) (fun _ hw => hw) ?_ ?_ ?_
  · intro w a w' hw hg h
    exact hw.exec hg h
  · intro w a _ hg
    exact exec_of_not_inTime hg
  · intro serverID zone matched hmem
    cases hmem

/-- A login that passes the second check, an enable from mark to snapshot, and the rest of the
login. -/
def lateBind : List (Action Task Choice) :=
  starts (.onOpen "c" "t" "10.0.0.1:5000") 0 1 ++
  starts (.frame false "c" (loginFrame 0)) 1 4 ++
  starts (.enable "s" "" "r") 2 2 ++ steps 1 7

/-- **A late login stays.** With login worker and enable finished, a registered connection that nobody
told to close is on the server under maintenance and not in the snapshot. -/
theorem lateBind_stays :
    ∃ w, (gateway (sampleConfig [⟨"u", "k", "s"⟩] none)).run initWorld lateBind = some w ∧
      (∀ t ∈ w.threads, ∀ c m r pc, t ≠ .login c m r pc) ∧
      Task.enabled "s" "" [] ∈ w.threads ∧ w.shared.view.sessions.serverID "c" = "s" ∧
      w.shared.closing = [] ∧ ¬ CoveredKicked (sampleConfig [⟨"u", "k", "s"⟩] none) w := by
  obtain ⟨w, hrun, hregistered, hserver, hclosing, hthreads⟩ :
      ∃ w, (gateway (sampleConfig [⟨"u", "k", "s"⟩] none)).run initWorld lateBind = some w ∧
        w.shared.view.sessions.registered = ["c"] ∧ w.shared.view.sessions.serverID "c" = "s" ∧
        w.shared.closing = [] ∧ w.threads = [.finished, .finished, .enabled "s" "" [],
          .forwardLogin "s"
            { sessionId := "c", userKey := "s:u", cmd := Routes.cmdLoginGate, data := [0] } 20] :=
    Transition.exists_end (by decide +kernel)
  have henabled : Task.enabled "s" "" [] ∈ w.threads := by simp [hthreads]
  refine ⟨w, hrun, by simp [hthreads], henabled, hserver, hclosing, fun hall => ?_⟩
  have hmem := hall "s" "" [] henabled "c" (by simp [hregistered]) (by rw [hserver]; decide)
  cases hmem

end Sgate.Gateway
