import Sgate.Gateway.LoginGate

/-! # Address lists

The security stage of `Process` drops every message of a connection whose address is blacklisted or
missing from a non-empty whitelist. The login handlers repeat the overload and rate checks of the
pipeline but not this one. -/

namespace Sgate.Gateway

open Routes Interleaving History Event

/-! ## Blocked connections -/

/-- The tasks that give the connection an address give it a blocked one. -/
def Task.keepsBlocked (cfg : Config) (c : String) : Task → Bool
  | .onOpen d tempUUID addr =>
    d ≠ c || cfg.blocks ({ remoteAddr := addr, userUUID := tempUUID } : Connection).remoteHostOf
  | .updateIP d ip => d ≠ c || ip = "" || cfg.blocks ip
  | _ => true

open Task

/-- The connection has a blocked address throughout the run. -/
def StaysBlocked (cfg : Config) (c : String) : World Gateway Task → Action Task Choice → Prop :=
  Program.ThreadGuard (fun _ t => t.keepsBlocked cfg c = true) fun _ _ => True

instance (cfg : Config) (c : String) (w : World Gateway Task) (a : Action Task Choice) :
    Decidable (StaysBlocked cfg c w a) :=
  inferInstanceAs (Decidable (Program.ThreadGuard _ _ w a))

/-- Nothing of the connection got through: none of its messages was handed to a logic server and none
of its logins was acknowledged. -/
def Silent (c : String) (h : List Event) : Prop :=
  (∀ path client msg, Event.handed path client msg ∈ h → msg.sessionId ≠ c) ∧
  ∀ message serverID, Event.loginAck c 0 message serverID ∉ h

/-! ## The pipeline -/

/-- The address of the connection is blocked, and the pipeline handed over none of its messages. -/
structure Dropped (cfg : Config) (c : String) (v : View) : Prop where
  host : ∀ x, v.sessions.session c = some x → cfg.blocks x.remoteHost = true
  handed : ∀ client msg, Event.handed .pipeline client msg ∈ v.history → msg.sessionId ≠ c

/-- A pass through the pipeline builds messages of its own connection; for the blocked one it does
not get past the security stage. -/
def Task.heldBack (cfg : Config) (c : String) : Task → Prop
  | .process d _ pc => (∀ out ∈ pc.out, out.sessionId = d) ∧ (d = c → pc.checked = false)
  | t => t.keepsBlocked cfg c = true

section

variable {cfg : Config} {v v' : View} {t t' : Task} {new : List Task} {c d : String}

theorem TaskStep.blocked (hhost : ∀ x, v.sessions.session c = some x → cfg.blocks x.remoteHost = true)
    (ht : t.heldBack cfg c) (hs : TaskStep cfg v t v' t' new) :
    ∀ x, v'.sessions.session c = some x → cfg.blocks x.remoteHost = true := by
  intro x hx
  rcases hs.remoteHost hx with ⟨y, hy, heq⟩ | ⟨tempUUID, addr, rfl, -, heq⟩ | ⟨rfl, hip⟩
  · rw [← heq]
    exact hhost y hy
  · have hblocks := by simpa [heldBack, keepsBlocked] using ht
    rw [heq]
    exact hblocks
  · simpa [heldBack, keepsBlocked, hip] using ht

theorem TaskStep.handed_pipeline (hs : TaskStep cfg v t v' t' new) {client : ℕ} {msg : StreamData}
    (hmem : handed .pipeline client msg ∈ v'.history) :
    handed .pipeline client msg ∈ v.history ∨
      ∃ d m, t = .process d m (.send (some client) msg) := by
  cases hs with
  | login hs => exact .inl (by cases hs <;> simpa using hmem)
  | process hs =>
    cases hs with
    | send result =>
      rcases List.mem_cons.mp hmem with heq | hmem
      · cases heq
        exact .inr ⟨_, _, rfl⟩
      · exact .inl hmem
    | _ => exact .inl hmem
  | _ => exact .inl (by simpa using hmem)

variable {m : StreamData}

attribute [local simp] ProcessPc.out

section

variable (hlists : cfg.whitelistBlacklist ≠ none) (hd : Dropped cfg c v)
include hlists hd

theorem PipelineStep.heldBack {pc : ProcessPc} (ht : (process d m pc).heldBack cfg c)
    (hs : PipelineStep cfg v d m pc v' t') : t'.heldBack cfg c := by
  cases hs with
  | quit _ | send _ => rfl
  | early hclient hchecked =>
    rename_i pc'
    refine ⟨?_, fun _ => hchecked⟩
    cases pc' with
    | send _ _ => cases hchecked
    | _ => simp
  | logicClient _ => exact ⟨by simp, fun _ => rfl⟩
  -- the security stage is skipped only without lists
  | fast hnone _ => exact absurd hnone hlists
  | secure hx hok =>
    -- the check just passed, so this is not the blocked connection
    refine ⟨by simp, ?_⟩
    rintro rfl
    rw [hd.host _ hx] at hok
    cases hok
  | build hout =>
    refine ⟨by simpa using hout, fun hdc => ?_⟩
    exact absurd (ht.2 hdc) (by simp [ProcessPc.checked])

theorem TaskStep.heldBack (ht : t.heldBack cfg c) (hs : TaskStep cfg v t v' t' new) :
    t'.heldBack cfg c := by
  cases hs with
  | login hs => cases hs <;> rfl
  | process hs => exact hs.heldBack hlists hd ht
  | toProcess | wsUpdate => exact ⟨by simp, fun _ => rfl⟩
  | forward ht' | notify ht' => rcases ht' with rfl | rfl <;> rfl
  | _ => rfl

/-- **A step keeps the blocked connection out of the pipeline.** -/
theorem TaskStep.dropped (ht : t.heldBack cfg c) (hs : TaskStep cfg v t v' t' new) :
    Dropped cfg c v' ∧ t'.heldBack cfg c := by
  refine ⟨⟨hs.blocked hd.host ht, fun client msg hmem => ?_⟩, hs.heldBack hlists hd ht⟩
  rcases hs.handed_pipeline hmem with hmem | ⟨d, m, rfl⟩
  · exact hd.handed client msg hmem
  · -- what is sent was built for the connection of the pass, and that one was checked
    intro hc
    have hdc : d = c := by rw [← ht.1 msg rfl, hc]
    exact absurd (ht.2 hdc) (by simp [ProcessPc.checked])

end

/-! ## Admitted logins are acknowledged -/

def Event.admits (c : String) : Event → Bool
  | .admitted d _ => d = c
  | _ => false

def Event.acks (c : String) : Event → Bool
  | .loginAck d code _ _ => d = c ∧ code = 0
  | _ => false

/-- The login is admitted and not yet acknowledged. -/
def LoginPc.unanswered : LoginPc → Bool
  | .validate | .maintenance | .forward => false
  | _ => true

/-- The logins of the connection a task has admitted and not yet acknowledged. -/
def Task.unanswered (c : String) : Task → ℕ
  | .login d _ _ pc => if d = c ∧ pc.unanswered then 1 else 0
  | _ => 0

/-- Admitted logins less acknowledged ones, before and after a step of one task. -/
def Balances (c : String) (v : View) (t : Task) (v' : View) (t' : Task) : Prop :=
  v'.history.countP (Event.admits c) + t.unanswered c + v.history.countP (Event.acks c) =
    v.history.countP (Event.admits c) + t'.unanswered c + v'.history.countP (Event.acks c)

theorem LoginStep.balances {r : LoginGateReq} {pc : LoginPc}
    (hs : LoginStep cfg v d m r pc v' t' new) : Balances c v (.login d m r pc) v' t' := by
  unfold Balances
  cases hs <;>
    simp [List.countP_cons, admits, acks, unanswered, LoginPc.unanswered]
  all_goals omega

theorem TaskStep.unanswered_new (hs : TaskStep cfg v t v' t' new) :
    tally (unanswered c) new = 0 := by
  rw [tally_eq_zero_iff]
  exact hs.forall_new

theorem TaskStep.balances (hs : TaskStep cfg v t v' t' new) : Balances c v t v' t' := by
  cases hs with
  | login hs => exact hs.balances
  | process hs => cases hs <;> simp [Balances, admits, acks, unanswered]
  | refused h | refusedClosing h => simp [Balances, admits, acks, unanswered, h]
  | quiet ht => cases t <;> first | rfl | cases ht
  | forward ht' | notify ht' =>
    rcases ht' with rfl | rfl <;> simp [Balances, admits, acks, unanswered]
  | _ => simp [Balances, admits, acks, unanswered, LoginPc.unanswered]

end

/-! ## Runs -/

section

variable {cfg : Config} {c : String} {as : List (Action Task Choice)} {w : World Gateway Task}

/-- In every run the admitted logins of a connection are the acknowledged ones and those whose
workers have not come to the answer yet. -/
theorem admitted_eq_of_run (c : String) (hrun : (gateway cfg).run initWorld as = some w) :
    w.shared.history.countP (admits c) =
      w.shared.history.countP (acks c) + tally (unanswered c) w.threads := by
  refine Transition.invariant_of_run (J := fun w : World Gateway Task =>
    w.shared.history.countP (admits c) =
      w.shared.history.countP (acks c) + tally (unanswered c) w.threads) ?_ rfl hrun
  intro w a w' hw h
  obtain ⟨t, g, rfl, hs, rfl⟩ | ⟨i, x, t, g, t', new, rfl, ht, hs, rfl⟩ := Program.exec_cases h
  · obtain ⟨rfl, hentry⟩ := entry_of_startTask hs
    have hzero : t.unanswered c = 0 := by cases t <;> first | rfl | cases hentry
    simp only [tally_append, tally_cons, tally_nil, hzero, Nat.add_zero]
    exact hw
  · have hstep := taskStep_of_stepTask hs
    have hbalance : Balances c w.shared.view t g.view t' := hstep.balances
    have hset := tally_set (unanswered c) t' ht
    have hnew : tally (unanswered c) new = 0 := hstep.unanswered_new
    simp only [Balances, view] at hbalance
    simp only [tally_append, hnew]
    omega

theorem dropped_of_run (hlists : cfg.whitelistBlacklist ≠ none)
    (hguard : (gateway cfg).Guarded (StaysBlocked cfg c) initWorld as)
    (hrun : (gateway cfg).run initWorld as = some w) : Dropped cfg c w.shared.view := by
  refine (Program.run_local (S := fun g => Dropped cfg c g.view) (L := fun _ t => t.heldBack cfg c)
    ?_ ?_ ?_ hguard hrun).1
  · intro w t g hw hblocked hs
    obtain ⟨rfl, hentry⟩ := entry_of_startTask hs
    refine ⟨⟨hw.1, ?_⟩, fun _ hu => hu⟩
    cases t with
    | process d m pc => cases hentry
    | _ => exact hblocked
  · intro w i x t g t' new hw _ ht hs
    have hstep := taskStep_of_stepTask hs
    obtain ⟨hd, ht'⟩ := hstep.dropped hlists hw.1 (hw.2 t (List.mem_of_getElem? ht))
    refine ⟨⟨hd, ht', ?_⟩, fun _ hu => hu⟩
    exact hstep.forall_new
  · refine ⟨⟨fun x hx => ?_, fun client msg hmem => ?_⟩, fun t ht => ?_⟩
    · cases hx
    · cases hmem
    · cases ht

theorem silent_of_not_admitted (hrun : (gateway cfg).run initWorld as = some w)
    (h : ∀ r, admitted c r ∉ w.shared.history) : Silent c w.shared.history := by
  constructor
  · rintro path client msg hmem rfl
    -- whatever is handed over lies behind an admitted login
    obtain ⟨post, past, hsplit⟩ := List.append_of_mem hmem
    have hall : Each HandedVouched w.shared.history := (gated_of_run hrun).1.handed
    rw [hsplit] at hall
    obtain ⟨r, rest, hadmitted, -⟩ : Vouched past msg.sessionId := hall.at
    refine h r ?_
    rw [hsplit]
    exact List.mem_append_right _ (List.mem_cons_of_mem _ (hadmitted.mem List.mem_cons_self))
  · intro message serverID hmem
    -- an acknowledged login was admitted before
    have hcount := admitted_eq_of_run c hrun
    have hacks : 0 < w.shared.history.countP (acks c) :=
      List.countP_pos_iff.mpr ⟨_, hmem, by simp [acks]⟩
    obtain ⟨e, he, hadmits⟩ := List.countP_pos_iff.mp (show
      0 < w.shared.history.countP (admits c) by omega)
    cases e with
    | admitted d r =>
      obtain rfl : d = c := by simpa [admits] using hadmits
      exact h r he
    | _ => cases hadmits

/-- **Blocked connections.** With the lists enabled, of a connection whose address stays blocked the
pipeline never hands a message over. Nothing of it gets through at all as long as none of its logins
is admitted; and once its login workers have answered, nothing got through only if none was. -/
theorem blocked_silent_iff (hlists : cfg.whitelistBlacklist ≠ none)
    (hguard : (gateway cfg).Guarded (StaysBlocked cfg c) initWorld as)
    (hrun : (gateway cfg).run initWorld as = some w) :
    (∀ client msg, Event.handed .pipeline client msg ∈ w.shared.history → msg.sessionId ≠ c) ∧
    ((∀ r, Event.admitted c r ∉ w.shared.history) → Silent c w.shared.history) ∧
    ((∀ t ∈ w.threads, t.unanswered c = 0) → Silent c w.shared.history →
      ∀ r, Event.admitted c r ∉ w.shared.history) := by
  refine ⟨(dropped_of_run hlists hguard hrun).handed, silent_of_not_admitted hrun, ?_⟩
  intro hrest hsilent r hmem
  have hcount := admitted_eq_of_run c hrun
  rw [(tally_eq_zero_iff _ _).mpr hrest] at hcount
  have hadmits : 0 < w.shared.history.countP (admits c) :=
    List.countP_pos_iff.mpr ⟨_, hmem, by simp [admits]⟩
  obtain ⟨e, he, hacks⟩ := List.countP_pos_iff.mp (show
    0 < w.shared.history.countP (acks c) by omega)
  -- the login was admitted and answered, so it was acknowledged
  cases e with
  | loginAck d code message serverID =>
    obtain ⟨rfl, rfl⟩ : d = c ∧ code = 0 := by simpa [acks] using hacks
    exact hsilent.2 message serverID he
  | _ => cases hacks

end

/-! ## A blacklisted client -/

/-- A gateway that blacklists the address `10.0.0.1`. -/
def blacklisting : Config := sampleConfig [⟨"u", "k", "s"⟩] (some ⟨∅, {"10.0.0.1"}⟩)

/-- A client connects from that address to a gateway with a logic server. -/
def blockedOpen : List (Action Task Choice) :=
  starts (.onOpen "c" "t" "10.0.0.1:5000") 0 1 ++ starts (.setClient "s" 1) 1 1 ++
  starts (.setConnected 1 true) 2 1

/-- It tries to log in and the login server refuses; its business message is dropped. -/
def blockedRefused : List (Action Task Choice) :=
  blockedOpen ++ starts (.frame false "c" (loginFrame 0)) 3 2 ++ [.step 3 .refuse] ++
  starts (.frame false "c" [0x08, 0x05]) 4 4

/-- Nothing of the refused client gets through. -/
theorem blocked_silent_refused :
    ∃ w, (gateway blacklisting).Guarded (StaysBlocked blacklisting "c") initWorld blockedRefused ∧
      (gateway blacklisting).run initWorld blockedRefused = some w ∧ Silent "c" w.shared.history := by
  obtain ⟨w, hrun, hhistory⟩ : ∃ w, (gateway blacklisting).run initWorld blockedRefused = some w ∧
      w.shared.history = [.loginAck "c" 401 "invalid login key" "s"] := Transition.exists_end (by decide +kernel)
  have hguard : (gateway blacklisting).Guarded (StaysBlocked blacklisting "c") initWorld
      blockedRefused := by decide +kernel
  refine ⟨w, hguard, hrun, (blocked_silent_iff (by decide) hguard hrun).2.1 fun r => ?_⟩
  simp [hhistory]

/-- It logs in with a valid key. -/
def blockedLogin : List (Action Task Choice) :=
  blockedOpen ++ starts (.frame false "c" (loginFrame 0)) 3 11 ++ steps 4 1

/-- **The lists do not cover logins.** The login of a blacklisted connection is acknowledged with
code 0, and its message is handed to the logic server. -/
theorem blockedLogin_served :
    (gateway blacklisting).Guarded (StaysBlocked blacklisting "c") initWorld blockedLogin ∧
    ∃ w, (gateway blacklisting).run initWorld blockedLogin = some w ∧
      Event.loginAck "c" 0 "ok" "s" ∈ w.shared.history ∧
      Event.handed .login 1 { sessionId := "c", userKey := "s:u", cmd := cmdLoginGate, data := [0] } ∈
        w.shared.history :=
  ⟨by decide +kernel, Transition.exists_end (by decide +kernel)⟩

end Sgate.Gateway
