import Sgate.Gateway.DuplicateLogin
import Sgate.Lib.History

/-! # Whose connection a login closes

A login worker closes the connection the user index holds for its identity. Two pairs of server and user
can share an identity, and other workers and disconnects can intervene after the lookup. `ByTurns` rules
both out. -/

namespace Sgate.Gateway

open Routes Interleaving Sessions

/-! ## Taking over -/

def LoginGateReq.pair (r : LoginGateReq) : String × String := (r.serverID, r.userID)

def lastLogin : List Event → String → Option LoginGateReq
  | [], _ => none
  | .completed d r _ :: past, c => if d = c then some r else lastLogin past c
  | _ :: past, c => lastLogin past c

/-- A login closes only a connection that logged in last as the same pair, and not when its own
connection was removed; at its end the index holds its connection unless that was removed. -/
def TakesOver (past : List Event) : Event → Prop
  | .closedOld c r old => (lastLogin past old).map LoginGateReq.pair = some r.pair ∧
      Event.removed c ∉ past
  | .completed c _ holder => Event.removed c ∉ past → holder = some c
  | _ => True

instance decidableTakesOver (past : List Event) : DecidablePred (TakesOver past) := fun e => by
  unfold TakesOver
  split <;> infer_instance

/-! ## Logins by turns -/

/-- The step that closes the old connection is still to come. -/
def LoginPc.beforeClose : LoginPc → Bool
  | .validate | .maintenance | .bind | .lookup | .closeOld _ => true
  | _ => false

/-- The task is not a worker on the connection `c` or of the identity `k`, nor about to close `c`. -/
def Task.clearOf (c k : String) : Task → Bool
  | .login d _ r pc => d ≠ c && r.fullUUID d ≠ k && pc ≠ .closeOld c
  | _ => true

/-- A login completed under the identity of `r` was for its pair. -/
def Event.agrees (c : String) (r : LoginGateReq) : Event → Bool
  | .completed d r' _ => r'.fullUUID d ≠ r.fullUUID c || r'.pair = r.pair
  | _ => true

def Task.worksOn (c : String) : Task → Bool
  | .login d _ _ _ => d = c
  | _ => false

/-- The task is a worker on the connection that has not yet closed the old one. -/
def Task.mayClose (c : String) : Task → Bool
  | .login d _ _ pc => d = c && pc.beforeClose
  | _ => false

/-- The connection and the request of a login that may get a worker. -/
def Task.starting (cfg : Config) : Task → Option (String × LoginGateReq)
  | .handleLogin _ c m => some (c, (cfg.unmarshalLoginGateReq m.data).1)
  | _ => none

/-- The connection and the identity of a worker about to look its user up. -/
def Task.lookingUp : Task → Option (String × String)
  | .login c _ r .lookup => some (c, r.fullUUID c)
  | _ => none

def Task.removing : Task → Option String
  | .removeConn c => some c
  | _ => none

/-- A login gets its worker on a registered connection, while no worker is on the same connection, has
the same identity or is about to close the connection, and after no completed login of another pair
with its identity. -/
def StartsAlone (w : World Gateway Task) (c : String) (r : LoginGateReq) : Prop :=
  c ∈ w.shared.view.sessions.registered ∧
  (∀ u ∈ w.threads, u.clearOf c (r.fullUUID c) = true) ∧
  ∀ e ∈ w.shared.history, e.agrees c r = true
  deriving Decidable

/-- The condition on the steps of a run. -/
def ByTurns (cfg : Config) (w : World Gateway Task) (t : Task) : Prop :=
  (∀ p ∈ t.starting cfg, StartsAlone w p.1 p.2) ∧
  -- no worker is on the connection a lookup finds
  (∀ p ∈ t.lookingUp, ∀ o ∈ w.shared.view.sessions.users p.2, o = p.1 ∨
    ∀ u ∈ w.threads, u.worksOn o = false) ∧
  -- a connection outlives the part of its worker that can close another one
  ∀ c ∈ t.removing, ∀ u ∈ w.threads, u.mayClose c = false
  deriving Decidable

/-! ## The invariant -/

/-- Two workers do not meddle with one another. -/
def Task.Apart : Task → Task → Prop
  | .login c _ r pc, .login d _ r' pc' =>
    c ≠ d ∧ r.fullUUID c ≠ r'.fullUUID d ∧ pc ≠ .closeOld d ∧ pc' ≠ .closeOld c
  | _, _ => True

/-- What is known of the worker of the request `r` on the connection `c`. -/
structure WorkerOk (v : View) (c : String) (r : LoginGateReq) (pc : LoginPc) : Prop where
  agrees : ∀ e ∈ v.history, e.agrees c r = true
  registered : pc.beforeClose = true → c ∈ v.sessions.registered
  found : ∀ o, pc = .closeOld o → (lastLogin v.history o).map LoginGateReq.pair = some r.pair
  holds : pc.registered = true → Event.removed c ∉ v.history →
    v.sessions.users (r.fullUUID c) = some c

structure TaskOk (v : View) (t : Task) : Prop where
  unnamed : t.renames = false
  opened : ∀ c ∈ t.client, (v.sessions.userUUID c).isSome
  worker : ∀ c m r pc, t = .login c m r pc → WorkerOk v c r pc

/-- Where the user `k` of the connection `c` comes from: it is temporary, a worker that is not done
has registered it, or the last completed login did. -/
def Origin (ts : List Task) (h : List Event) (c k : String) : Prop :=
  (∃ tempUUID, isConnectionID tempUUID = true ∧ k = "temp_" ++ tempUUID) ∨
  (∃ m r pc, Task.login c m r pc ∈ ts ∧ pc.registered = true ∧ r.fullUUID c = k) ∨
  ∃ r, lastLogin h c = some r ∧ r.fullUUID c = k

structure Turns (w : World Gateway Task) : Prop where
  indexed : Indexed w.shared.view.sessions
  retired : Retired w.shared.view
  takesOver : History.Each TakesOver w.shared.view.history
  apart : w.threads.Pairwise Task.Apart
  origin : ∀ c ∈ w.shared.view.sessions.registered, ∀ k,
    w.shared.view.sessions.userUUID c = some k → Origin w.threads w.shared.view.history c k
  tasks : ∀ t ∈ w.threads, TaskOk w.shared.view t

section

variable {cfg : Config} {v v' : View} {s s' : Sessions} {t t' : Task} {new : List Task}
  {c d k : String} {m : StreamData} {r : LoginGateReq} {pc : LoginPc}

/-! ## Steps -/

theorem Task.Apart.symm {t u : Task} (h : t.Apart u) : u.Apart t := by
  cases t with
  | login c m r pc =>
    cases u with
    | login d m' r' pc' =>
      obtain ⟨hconn, huser, hclose, hclose'⟩ := h
      exact ⟨hconn.symm, huser.symm, hclose', hclose⟩
    | _ => trivial
  | _ => cases u <;> trivial

attribute [local simp] lastLogin LoginPc.registered Task.client

theorem TaskStep.lastLogin_cases (hs : TaskStep cfg v t v' t' new) (c : String) :
    lastLogin v'.history c = lastLogin v.history c ∨
      ∃ m r, t = .login c m r .forward ∧ lastLogin v'.history c = some r := by
  cases hs with
  | login hs =>
    cases hs with
    | complete _ =>
      rename_i d _ _ _
      by_cases hd : d = c
      · subst hd
        exact .inr ⟨_, _, rfl, by simp⟩
      · exact .inl (by simp [hd])
    | _ => exact .inl rfl
  | process hs => cases hs <;> exact .inl rfl
  | _ => exact .inl rfl

theorem completed_of_lastLogin {h : List Event} (hlast : lastLogin h c = some r) :
    ∃ holder, Event.completed c r holder ∈ h := by
  induction h with
  | nil => cases hlast
  | cons e past ih =>
    cases e with
    | completed d r' holder =>
      rw [lastLogin] at hlast
      split at hlast
      · subst d
        cases hlast
        exact ⟨holder, List.mem_cons_self⟩
      · obtain ⟨holder', hmem⟩ := ih hlast
        exact ⟨holder', List.mem_cons_of_mem _ hmem⟩
    | _ =>
      obtain ⟨holder, hmem⟩ := ih hlast
      exact ⟨holder, List.mem_cons_of_mem _ hmem⟩

/-- The index keeps holding the connection `c` of a login unless `c` is removed or a worker registers
a connection for that user or registers `c` anew. -/
theorem UsersStep.users_kept (hs : UsersStep s t s') (ht : t.renames = false)
    (hremove : t ≠ .removeConn c)
    (hregister : ∀ d m r', t = .login d m r' .register → d ≠ c ∧ r'.fullUUID d ≠ r.fullUUID c)
    (h : s.users (r.fullUUID c) = some c) : s'.users (r.fullUUID c) = some c := by
  cases hs with
  | same _ husers _ _ => rwa [husers]
  | opened _ htemp => exact users_opened.mpr (.inr ⟨fullUUID_ne_temp r c htemp, h⟩)
  | removed hid =>
    refine (users_removed hid).mpr ⟨h, ?_⟩
    rintro ⟨-, rfl⟩
    exact hremove rfl
  | register =>
    rename_i d m r'
    obtain ⟨hconn, huser⟩ := hregister d m r' rfl
    by_cases hd : d ∈ s.registered
    · exact (users_identified hd).mpr
        (.inr ⟨huser.symm, h, fun hown => hconn hown.2.symm⟩)
    · rwa [identified_of_not_mem hd]
  | named hnames => exact absurd hnames (not_names_of_renames ht)

/-! ## Workers -/

theorem agrees_of_step (hs : TaskStep cfg v t v' t' new)
    (hcomplete : ∀ d m r', t = .login d m r' .forward → r'.fullUUID d ≠ r.fullUUID c)
    (h : ∀ e ∈ v.history, e.agrees c r = true) : ∀ e ∈ v'.history, e.agrees c r = true := by
  intro e he
  cases e with
  | completed d r' holder =>
    rcases hs.completed_mem he with hold | ⟨m, ht, -⟩
    · exact h _ hold
    · have hne := hcomplete d m r' ht
      simp [Event.agrees, hne]
  | _ => rfl

/-- A step of another task keeps what is known of a worker: the tasks are apart, and a connection is
not removed while its worker may still close another one. -/
theorem WorkerOk.of_step (hs : TaskStep cfg v t v' t' new) (hindexed : Indexed v.sessions)
    (ht : t.renames = false) (hapart : t.Apart (.login c m r pc))
    (hremove : pc.beforeClose = true → t ≠ .removeConn c) (h : WorkerOk v c r pc) :
    WorkerOk v' c r pc where
  agrees := by
    refine agrees_of_step hs ?_ h.agrees
    rintro d m' r' rfl
    exact hapart.2.1
  registered hpc := hs.users.mem_registered (h.registered hpc) (hremove hpc)
  found o ho := by
    rcases hs.lastLogin_cases o with heq | ⟨m', r', rfl, -⟩
    · rw [heq]
      exact h.found o ho
    · exact absurd ho hapart.2.2.2
  holds hpc hlive := by
    -- the connection was not removed, by this step or before
    rw [hs.removed_mem_iff, not_or] at hlive
    have hholds := h.holds hpc hlive.1
    refine hs.users.users_kept ht ?_ ?_ hholds
    · intro hremoving
      exact hlive.2 ⟨hremoving, (hindexed _ _ hholds).1⟩
    · rintro d m' r' rfl
      exact ⟨hapart.1, hapart.2.1⟩

variable {ts : List Task}

theorem pair_of_lookup (hindexed : Indexed v.sessions)
    (horigin : ∀ c ∈ v.sessions.registered, ∀ k, v.sessions.userUUID c = some k → Origin ts v.history c k)
    (hagrees : ∀ e ∈ v.history, e.agrees c r = true)
    (hfound : v.sessions.users (r.fullUUID c) = some d) (hfree : ∀ u ∈ ts, u.worksOn d = false) :
    (lastLogin v.history d).map LoginGateReq.pair = some r.pair := by
  obtain ⟨hreg, huuid⟩ := hindexed _ _ hfound
  rcases horigin d hreg _ huuid with ⟨tempUUID, htemp, heq⟩ | ⟨m, r', pc, hmem, -, -⟩ |
    ⟨r', hlast, hidentity⟩
  · exact absurd heq (fullUUID_ne_temp r c htemp)
  · have hbusy := hfree _ hmem
    simp [Task.worksOn] at hbusy
  · -- the pair is recovered from the identity
    obtain ⟨holder, hmem⟩ := completed_of_lastLogin hlast
    have hpair := hagrees _ hmem
    simp only [Event.agrees, hidentity, ne_eq, not_true_eq_false, decide_false, Bool.false_or,
      decide_eq_true_eq] at hpair
    rw [hlast, Option.map_some, hpair]

theorem WorkerOk.of_loginStep {m' : StreamData} {r' : LoginGateReq} {pc' : LoginPc}
    (hindexed : Indexed v.sessions) (hretired : Retired v)
    (horigin : ∀ c ∈ v.sessions.registered, ∀ k, v.sessions.userUUID c = some k → Origin ts v.history c k)
    (hopened : (v.sessions.userUUID c).isSome)
    (hlookup : ∀ p ∈ (Task.login c m r pc).lookingUp, ∀ o ∈ v.sessions.users p.2, o = p.1 ∨ ∀ u ∈ ts, u.worksOn o = false)
    (hs : LoginStep cfg v c m r pc v' (.login d m' r' pc') new) (h : WorkerOk v c r pc) :
    WorkerOk v' d r' pc' := by
  have hagrees : ∀ e ∈ v'.history, e.agrees c r = true := by
    refine agrees_of_step (.login hs) ?_ h.agrees
    rintro d' m'' r'' ⟨⟩
    cases hs
  cases hs with
  | valid | admitted _ => exact ⟨hagrees, fun _ => h.registered rfl, by simp, by simp⟩
  | bind =>
    refine ⟨hagrees, fun _ => ?_, by simp, by simp⟩
    rw [View.withSessions_sessions, registered_bound]
    exact h.registered rfl
  | alone _ | gone _ | closeOld _ _ =>
    exact ⟨hagrees, by simp [LoginPc.beforeClose], by simp, by simp⟩
  | found hfound hne =>
    rename_i old
    refine ⟨hagrees, fun _ => h.registered rfl, fun o ho => ?_, by simp⟩
    obtain rfl : old = o := by simpa using ho
    exact pair_of_lookup hindexed horigin h.agrees hfound
      ((hlookup _ rfl old hfound).resolve_left hne)
  | register =>
    refine ⟨hagrees, by simp [LoginPc.beforeClose], by simp, fun _ hlive => ?_⟩
    -- a connection that was not removed is registered, and so gets the user
    have hreg : c ∈ v.sessions.registered := by
      by_contra hnot
      exact hlive ((hretired c).mp ⟨hopened, hnot⟩)
    exact (users_identified hreg).mpr (.inl ⟨rfl, rfl⟩)
  | account | key => exact ⟨hagrees, by simp [LoginPc.beforeClose], by simp, fun _ => h.holds rfl⟩
  | ack =>
    refine ⟨hagrees, by simp [LoginPc.beforeClose], by simp, fun _ hlive => ?_⟩
    refine h.holds rfl fun hremoved => hlive ?_
    exact List.mem_cons_of_mem _ hremoved

theorem taskOk_new (hs : TaskStep cfg v t v' t' new) : ∀ n ∈ new, TaskOk v' n :=
  hs.forall_new (fun _ _ _ => ⟨rfl, nofun, nofun⟩) (fun _ _ _ => ⟨rfl, nofun, nofun⟩)
    fun _ => ⟨rfl, nofun, nofun⟩

variable {w : World Gateway Task} {u : Task} {i : ℕ}

/-! ## Workers stay apart -/

theorem apart_of_not_login (ht : ∀ c m r pc, t ≠ .login c m r pc) (u : Task) : t.Apart u := by
  cases t with
  | login c m r pc => exact absurd rfl (ht c m r pc)
  | _ => trivial

section

variable (hs : TaskStep cfg w.shared.view t v' t' new)
include hs

theorem TaskStep.apart (hturn : ByTurns cfg w t) (hu : u ∈ w.threads) (h : t.Apart u) : t'.Apart u := by
  cases u with
  | login d m' r' pc' =>
    cases hs with
    | started _ =>
      have hclear := (hturn.1 _ rfl).2.1 _ hu
      simp only [Task.clearOf, ne_eq, Bool.and_eq_true, decide_eq_true_eq] at hclear
      obtain ⟨⟨hconn, huser⟩, hclose⟩ := hclear
      exact ⟨Ne.symm hconn, Ne.symm huser, by simp, hclose⟩
    | login hs =>
      obtain ⟨hconn, huser, -, hclose⟩ := h
      cases hs with
      | found hfound hne =>
        rename_i old
        refine ⟨hconn, huser, ?_, hclose⟩
        -- the connection that was found has no worker
        rintro ⟨⟩
        have hbusy := (hturn.2.1 _ rfl _ hfound).resolve_left hne _ hu
        simp [Task.worksOn] at hbusy
      | invalid | marked _ | complete _ => trivial
      | _ => exact ⟨hconn, huser, by simp, hclose⟩
    | process hs => cases hs <;> trivial
    | forward ht' | notify ht' => rcases ht' with rfl | rfl <;> trivial
    | _ => trivial
  | _ => cases t' <;> trivial

variable (hw : Turns w)
include hw

theorem TaskOk.self (hturn : ByTurns cfg w t) (h : TaskOk w.shared.view t) : TaskOk v' t' where
  unnamed := hs.renames_eq
  opened c hc := hs.users.isSome_mono (h.opened c (hs.client_eq hc))
  worker c m r pc hworker := by
    subst hworker
    cases hs with
    | started _ =>
      obtain ⟨hreg, -, hagrees⟩ := hturn.1 _ rfl
      exact ⟨hagrees, fun _ => hreg, by simp, by simp⟩
    | login hs =>
      exact (h.worker _ _ _ _ rfl).of_loginStep hw.indexed hw.retired hw.origin
        (h.opened _ rfl) hturn.2.1 hs
    | process hs => cases hs
    | forward h | notify h => rcases h with h | h <;> cases h

theorem TaskOk.other (ht : t.renames = false) (hturn : ByTurns cfg w t) (hu : u ∈ w.threads)
    (hapart : t.Apart u) (h : TaskOk w.shared.view u) : TaskOk v' u where
  unnamed := h.unnamed
  opened c hc := hs.users.isSome_mono (h.opened c hc)
  worker c m r pc hworker := by
    subst hworker
    refine (h.worker c m r pc rfl).of_step hs hw.indexed ht hapart ?_
    rintro hpc rfl
    have hmay := hturn.2.2 c rfl _ hu
    simp [Task.mayClose, hpc] at hmay

/-! ## Where users come from -/

variable (hi : w.threads[i]? = some t)
include hi

theorem Origin.of_step (hc : c ∈ w.shared.view.sessions.registered)
    (huuid : w.shared.view.sessions.userUUID c = some k) :
    Origin (w.threads.set i t' ++ new) v'.history c k := by
  rcases hw.origin c hc k huuid with htemp | ⟨m, r, pc, hmem, hpc, hk⟩ | ⟨r, hlast, hk⟩
  · exact .inl htemp
  · by_cases ht : Task.login c m r pc = t
    · -- the worker itself moves on, or completes the login
      subst ht
      have hgoes {pc' : LoginPc} (hpc' : pc'.registered = true) :
          Origin (w.threads.set i (.login c m r pc') ++ new) v'.history c k :=
        .inr (.inl ⟨m, r, pc', mem_set_append_self hi, hpc', hk⟩)
      cases hs with
      | login hs =>
        cases hs with
        | account | key | ack => exact hgoes rfl
        | complete _ => exact .inr (.inr ⟨r, by simp, hk⟩)
        | _ => cases hpc
      | quiet ht => cases ht
    · exact .inr (.inl ⟨m, r, pc, mem_set_append_of_ne hi hmem ht, hpc, hk⟩)
  · rcases hs.lastLogin_cases c with heq | ⟨m, r', rfl, hlast'⟩
    · exact .inr (.inr ⟨r, heq.trans hlast, hk⟩)
    · -- the login that is completed has registered the user
      have hworker := (hw.tasks _ (List.mem_of_getElem? hi)).worker c m r' .forward rfl
      have hholds := hworker.holds rfl (hw.retired.not_removed hc)
      have huuid' := (hw.indexed _ _ hholds).2
      rw [huuid] at huuid'
      exact .inr (.inr ⟨r', hlast', (Option.some.inj huuid').symm⟩)

theorem TaskStep.origin (hc : c ∈ v'.sessions.registered)
    (huuid : v'.sessions.userUUID c = some k) :
    Origin (w.threads.set i t' ++ new) v'.history c k := by
  have ht := (hw.tasks t (List.mem_of_getElem? hi)).unnamed
  have husers := hs.users
  generalize hsessions : v'.sessions = s' at husers hc huuid
  cases husers with
  | same hregistered _ huuid' _ => exact .of_step hs hw hi (hregistered ▸ hc) (huuid' c ▸ huuid)
  | opened _ htemp =>
    rw [userUUID_opened] at huuid
    split at huuid
    · exact .inl ⟨_, htemp, (Option.some.inj huuid).symm⟩
    · rename_i hne
      exact .of_step hs hw hi ((List.mem_cons.mp hc).resolve_left hne) huuid
  | removed hid =>
    rw [userUUID_removed] at huuid
    exact .of_step hs hw hi ((mem_registered_removed hid).mp hc).1 huuid
  | register =>
    rename_i d m r
    by_cases hd : d ∈ w.shared.view.sessions.registered
    · rw [registered_identified] at hc
      rw [userUUID_identified hd] at huuid
      split at huuid
      · -- the worker has just registered the user
        subst c
        have ht' : t' = .login d m r .account := by
          cases hs with
          | login hs => cases hs; rfl
          | quiet ht => cases ht
        subst ht'
        exact .inr (.inl ⟨m, r, .account, mem_set_append_self hi, rfl, Option.some.inj huuid⟩)
      · exact .of_step hs hw hi hc huuid
    · rw [identified_of_not_mem hd] at hc huuid
      exact .of_step hs hw hi hc huuid
  | named hnames => exact absurd hnames (not_names_of_renames ht)

end

/-! ## What is recorded -/

theorem TaskStep.takesOver (hs : TaskStep cfg v t v' t' new) (hretired : Retired v)
    (ht : TaskOk v t) (h : History.Each TakesOver v.history) :
    History.Each TakesOver v'.history := by
  cases hs with
  | login hs =>
    have hworker := ht.worker _ _ _ _ rfl
    cases hs with
    | closeOld _ _ =>
      exact ⟨⟨hworker.found _ rfl, hretired.not_removed (hworker.registered rfl)⟩, h⟩
    | complete _ => exact ⟨hworker.holds rfl, h⟩
    | invalid | valid | marked _ | admitted _ | ack => exact ⟨trivial, h⟩
    | _ => exact h
  | process hs =>
    cases hs with
    | send _ => exact ⟨trivial, h⟩
    | _ => exact h
  | refused _ | refusedClosing _ | forward _ | notify _ | removed _ => exact ⟨trivial, h⟩
  | _ => exact h

end

/-! ## Runs -/

/-- A run in which only logins give connections a user, and logins take turns. -/
abbrev LoginsByTurns (cfg : Config) : World Gateway Task → Action Task Choice → Prop :=
  Program.ThreadGuard (fun _ t => t.renames = false) (ByTurns cfg)

theorem Turns.start {w : World Gateway Task} {g : Gateway} {t : Task} (hw : Turns w)
    (ht : t.renames = false) (hs : startTask w.shared t = some g) :
    Turns ⟨g, w.threads ++ [t]⟩ := by
  obtain ⟨rfl, hentry⟩ := entry_of_startTask hs
  have hlogin : ∀ c m r pc, t ≠ .login c m r pc := by
    rintro c m r pc rfl
    cases hentry
  refine ⟨hw.indexed, hw.retired, hw.takesOver, ?_, fun c hc k hk => ?_, fun u hu => ?_⟩
  · rw [List.pairwise_append]
    refine ⟨hw.apart, List.pairwise_singleton _ _, fun u _ n hn => ?_⟩
    obtain rfl := List.mem_singleton.mp hn
    exact (apart_of_not_login hlogin u).symm
  · rcases hw.origin c hc k hk with htemp | ⟨m, r, pc, hmem, hworker⟩ | hlast
    · exact .inl htemp
    · exact .inr (.inl ⟨m, r, pc, List.mem_append_left _ hmem, hworker⟩)
    · exact .inr (.inr hlast)
  · rcases of_mem_snoc hu with hu | rfl
    · exact hw.tasks u hu
    · exact ⟨ht, fun c hc => opened_of_startTask hs hc,
        fun c m r pc heq => absurd heq (hlogin c m r pc)⟩

theorem Turns.step {cfg : Config} {w : World Gateway Task} {i : ℕ} {x : Choice} {g : Gateway}
    {t t' : Task} {new : List Task} (hw : Turns w) (hturn : ByTurns cfg w t)
    (hi : w.threads[i]? = some t) (hs : stepTask cfg w.shared t x = some (g, t', new)) :
    Turns ⟨g, w.threads.set i t' ++ new⟩ := by
  have hstep := taskStep_of_stepTask hs
  have ht := hw.tasks t (List.mem_of_getElem? hi)
  refine ⟨hstep.users.indexed hw.indexed, hstep.retired hw.retired,
    hstep.takesOver hw.retired ht hw.takesOver, ?_,
    fun c hc k hk => hstep.origin hw hi hc hk, fun u hu => ?_⟩
  · refine pairwise_set_append (fun _ _ => Task.Apart.symm) hw.apart hi
      (fun u hu => hstep.apart hturn hu) ?_
    exact hstep.forall_new
  · rcases position_of_mem_set_append hu with ⟨j, hij, hj⟩ | rfl | hnew
    · -- a task at another position is apart from the one that steps
      have hmem := List.mem_of_getElem? hj
      have hapart := rel_of_pairwise (fun _ _ => Task.Apart.symm) hw.apart hij hi hj
      exact (hw.tasks u hmem).other hstep hw ht.unnamed hturn hmem hapart
    · exact ht.self hstep hw hturn
    · exact taskOk_new hstep u hnew

/-- **A login only takes over.** In every run in which logins take turns, with any number of
connections, pairs of server and user and disconnects: whenever a worker closes another connection,
the last login completed there was for the same pair and the worker's own connection was not removed;
and whenever a login is completed on a connection that was not removed, the index holds that
connection for its user. -/
theorem takesOver_of_byTurns {cfg : Config} {as : List (Action Task Choice)}
    {w : World Gateway Task} (hguard : (gateway cfg).Guarded (LoginsByTurns cfg) initWorld as)
    (hrun : (gateway cfg).run initWorld as = some w) :
    History.Each TakesOver w.shared.history := by
  have hinit : Turns initWorld := by
    refine ⟨users_init.1, users_init.2, trivial, List.Pairwise.nil, fun c hc => ?_, fun t ht => ?_⟩
    · cases hc
    · cases ht
  refine (Transition.run_invariant (J := Turns) ?_ hinit hguard hrun).takesOver
  intro w a w' hw hg h
  obtain ⟨t, g, rfl, hs, rfl⟩ | ⟨i, x, t, g, t', new, rfl, hi, hs, rfl⟩ := Program.exec_cases h
  · exact hw.start hg hs
  · exact hw.step (hg t hi) hi hs

/-- The second login of a user takes the connection over from the first. -/
theorem takesOver_loginsInTurn :
    ∃ w, (gateway (sampleConfig [⟨"u", "k", "s"⟩] none)).run initWorld loginsInTurn = some w ∧
      Event.closedOld "d" ⟨"u", "k", "s"⟩ "c" ∈ w.shared.history ∧
      History.Each TakesOver w.shared.history := by
  obtain ⟨w, hrun, hclosed⟩ : ∃ w, (gateway (sampleConfig [⟨"u", "k", "s"⟩] none)).run initWorld
      loginsInTurn = some w ∧ Event.closedOld "d" ⟨"u", "k", "s"⟩ "c" ∈ w.shared.history :=
    Transition.exists_end (by decide +kernel)
  exact ⟨w, hrun, hclosed, takesOver_of_byTurns (by decide +kernel) hrun⟩

/-! ## Two pairs with one identity -/

/-- One client logs in as the user `b:c` of the server `a`, and after it another one as the user `c`
of the server `a:b`. -/
def collidingLogins : List (Action Task Choice) :=
  twoOpen ++ starts (.frame false "c" (loginFrame 0)) 2 11 ++
  starts (.frame false "d" (loginFrame 1)) 4 12

/-- **A login closes the connection of another user.** The second login closes the connection of the
first one, which is of another user on another server. -/
theorem collidingLogin_closes_other :
    ∃ w, (gateway (sampleConfig [⟨"b:c", "k", "a"⟩, ⟨"c", "k", "a:b"⟩] none)).run initWorld
        collidingLogins = some w ∧
      Event.closedOld "d" ⟨"c", "k", "a:b"⟩ "c" ∈ w.shared.history ∧
      lastLogin w.shared.history "c" = some ⟨"b:c", "k", "a"⟩ ∧
      ¬ History.Each TakesOver w.shared.history :=
  Transition.exists_end (by decide +kernel)

end Sgate.Gateway
