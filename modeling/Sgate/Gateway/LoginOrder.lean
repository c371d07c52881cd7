import Sgate.Gateway.Offline
import Sgate.Lib.History

/-! # Logins and the messages after them

A login worker acknowledges the login and only then starts a goroutine that forwards it to the logic
server. In a recorded run the number of a task is the time at which its frame was received, and the time
of an acknowledgement is its position in the record (`ackTime`). -/

namespace Sgate.Gateway

open Routes Interleaving Program List

/-! ## What is recorded -/

/-- The mark records the acknowledgement of the login with number `n`. -/
def acknowledges (n : ℕ) : Mark Task → Bool
  | .stepped m (.login _ _ _ .ack) _ => m = n
  | _ => false

/-- When the login with number `n` was acknowledged. -/
def ackTime (n : ℕ) : List (Mark Task) → Option ℕ
  | [] => none
  | e :: past => if acknowledges n e then some past.length else ackTime n past

/-- The number and the session of a login that was accepted by a logic client. -/
def acceptedLogin : Mark Task → Option (ℕ × String)
  | .stepped n (.forwardLogin _ m _) .finished => some (n, m.sessionId)
  | _ => none

/-- The number and the session of a business message that was accepted by a logic client. -/
def acceptedBusiness : Mark Task → Option (ℕ × String)
  | .stepped n (.process _ _ (.send (some _) out)) (.processed ⟨.none, none⟩) =>
    some (n, out.sessionId)
  | _ => none

/-- No message of the session `c` that was received after the acknowledgement of the login with number
`n` has been accepted. -/
def NotOvertaken (n : ℕ) (c : String) (marks : List (Mark Task)) : Prop :=
  ∀ e ∈ marks, ∀ b ∈ acceptedBusiness e, b.2 = c → ∀ a ∈ ackTime n marks, ¬ a < b.1
  deriving Decidable

def LoginFirst (past : List (Mark Task)) (e : Mark Task) : Prop :=
  ∀ l ∈ acceptedLogin e, NotOvertaken l.1 l.2 past
  deriving Decidable

/-- The session of a login that was acknowledged and has not been accepted yet. -/
def Task.waits : Task → Option String
  | .login c _ _ .forward => some c
  | .forwardLogin _ m (_ + 1) => some m.sessionId
  | _ => none

/-- The session of the message the task is about to hand over. -/
def Task.hands : Task → Option String
  | .process _ _ (.send (some _) out) => some out.sessionId
  | _ => none

/-- A business message is handed over only while no login of its session waits that was acknowledged
before the message was received. -/
def HandsOverInTime :
    World (Recorded Gateway Task) (ℕ × Task) → Action (ℕ × Task) Choice → Prop :=
  Program.ThreadGuard (fun _ _ => True) fun w u =>
    ∀ c ∈ u.2.hands, ∀ v ∈ w.threads, v.2.waits = some c →
      ∀ a ∈ ackTime v.1 w.shared.marks, ¬ a < u.1

instance (w : World (Recorded Gateway Task) (ℕ × Task)) (a : Action (ℕ × Task) Choice) :
    Decidable (HandsOverInTime w a) :=
  Program.decidableThreadGuard _ _ w a

/-! ## Marks and tasks -/

section Marks

variable {cfg : Config} {v v' : View} {t t' u : Task} {new : List Task} {m n : ℕ} {c : String}
  {b l : ℕ × String} {e : Mark Task} {past : List (Mark Task)}

theorem hands_of_acceptedBusiness (h : acceptedBusiness (.stepped n t t') = some b) :
    b.1 = n ∧ t.hands = some b.2 := by
  unfold acceptedBusiness at h
  split at h
  · rename_i heq
    cases heq
    cases h
    exact ⟨rfl, rfl⟩
  · cases h

theorem waits_of_entry (h : t.entry = true) : t.waits = none := by
  cases t with
  | login | forwardLogin => cases h
  | _ => rfl

theorem waits_of_acceptedLogin {choice : Choice} {g g' : Gateway}
    (h : acceptedLogin (.stepped n t t') = some l)
    (hstep : stepTask cfg g t choice = some (g', t', new)) : l.1 = n ∧ t.waits = some l.2 := by
  unfold acceptedLogin at h
  split at h
  · rename_i m serverID msg attempts heq
    cases heq
    cases h
    cases attempts with
    | zero => cases hstep
    | succ attempts => exact ⟨rfl, rfl⟩
  · cases h

theorem acceptedBusiness_of_acknowledges (h : acknowledges n e = true) :
    acceptedBusiness e = none := by
  unfold acknowledges at h
  split at h
  · rfl
  · cases h

/-- **A login waits from its acknowledgement on**, in its worker and in the goroutine that forwards
it. -/
theorem waits_of_taskStep (h : TaskStep cfg v t v' t' new) (hu : u ∈ t' :: new)
    (hwaits : u.waits = some c) : t.waits = some c ∨ ∃ m r, t = .login c m r .ack := by
  rcases mem_cons.mp hu with rfl | hu
  · cases h with
    | login hlogin =>
      cases hlogin with
      | ack => exact .inr ⟨_, _, by cases hwaits; rfl⟩
      | _ => cases hwaits
    | @retry _ _ n =>
      cases n with
      | zero => cases hwaits
      | succ n => exact .inl hwaits
    | @forward _ _ n _ _ ht' =>
      rcases ht' with rfl | rfl
      · cases hwaits
      · cases n with
        | zero => cases hwaits
        | succ n => exact .inl hwaits
    | process hprocess => cases hprocess <;> cases hwaits
    | notify ht' => rcases ht' with rfl | rfl <;> cases hwaits
    | _ => cases hwaits
  · rcases h.new_cases hu with ⟨d, client, msg, rfl, -⟩ | ⟨d, m, r, rfl, _, msg, n, rfl, rfl⟩ | ⟨d, rfl⟩
    · cases hwaits
    · cases n with
      | zero => cases hwaits
      | succ n => exact .inl hwaits
    · cases hwaits

theorem notOvertaken_of_acknowledges (h : acknowledges n e = true)
    (hreceived : ∀ f ∈ past, ∀ b ∈ acceptedBusiness f, b.1 < past.length) :
    NotOvertaken n c (e :: past) := by
  intro f hf b hb _ a ha
  rw [ackTime, if_pos h, Option.mem_some_iff] at ha
  subst ha
  rcases mem_cons.mp hf with rfl | hf
  · rw [acceptedBusiness_of_acknowledges h] at hb
    cases hb
  · exact Nat.lt_asymm (hreceived f hf b hb)

/-- **A login stays ahead** as long as no message overtakes it. -/
theorem NotOvertaken.cons (hpast : NotOvertaken n c past)
    (hreceived : ∀ f ∈ past, ∀ b ∈ acceptedBusiness f, b.1 < past.length)
    (he : ∀ b ∈ acceptedBusiness e, b.2 = c → ∀ a ∈ ackTime n past, ¬ a < b.1) :
    NotOvertaken n c (e :: past) := by
  by_cases h : acknowledges n e = true
  · exact notOvertaken_of_acknowledges h hreceived
  · intro f hf b hb hc a ha
    rw [ackTime, if_neg h] at ha
    rcases mem_cons.mp hf with rfl | hf
    · exact he b hb hc a ha
    · exact hpast f hf b hb hc a ha

end Marks

/-! ## The invariant -/

/-- **The invariant.** No waiting login is overtaken; everything was received in the past. -/
structure Ordered (w : World (Recorded Gateway Task) (ℕ × Task)) : Prop where
  first : History.Each LoginFirst w.shared.marks
  waiting : ∀ u ∈ w.threads, ∀ c ∈ u.2.waits, NotOvertaken u.1 c w.shared.marks
  started : ∀ u ∈ w.threads, u.1 < w.shared.marks.length
  received : ∀ e ∈ w.shared.marks, ∀ b ∈ acceptedBusiness e, b.1 < w.shared.marks.length

section Invariant

variable {cfg : Config} {w w' : World (Recorded Gateway Task) (ℕ × Task)}

theorem Ordered.start {u : ℕ × Task} {s : Recorded Gateway Task} (hw : Ordered w)
    (h : (gateway cfg).recorded.start w.shared u = some s) : Ordered ⟨s, w.threads ++ [u]⟩ := by
  obtain ⟨hnumber, hstart, hmarks⟩ := recorded_start h
  have hentry := (entry_of_startTask hstart).2
  have hlonger : w.shared.marks.length < s.marks.length := by rw [hmarks]; exact Nat.lt_succ_self _
  have hnone : acceptedBusiness (.started u.2) = none := rfl
  refine ⟨?_, fun v hv c hc => ?_, fun v hv => ?_, fun e he b hb => ?_⟩
  · rw [hmarks]
    exact ⟨fun l hl => absurd hl (by simp [acceptedLogin]), hw.first⟩
  · rcases of_mem_snoc hv with hv | rfl
    · rw [hmarks]
      exact (hw.waiting v hv c hc).cons hw.received (by simp [hnone])
    · rw [waits_of_entry hentry] at hc
      cases hc
  · rcases of_mem_snoc hv with hv | rfl
    · exact (hw.started v hv).trans hlonger
    · rwa [hnumber]
  · rw [hmarks] at he
    rcases mem_cons.mp he with rfl | he
    · rw [hnone] at hb
      cases hb
    · exact (hw.received e he b hb).trans hlonger

/-- **What a step keeps.** -/
theorem Ordered.step {i : ℕ} {u u' : ℕ × Task} {choice : Choice} {s : Recorded Gateway Task}
    {new : List (ℕ × Task)} (hw : Ordered w) (hu : w.threads[i]? = some u)
    (hguard : ∀ c ∈ u.2.hands, ∀ v ∈ w.threads, v.2.waits = some c →
      ∀ a ∈ ackTime v.1 w.shared.marks, ¬ a < u.1)
    (h : (gateway cfg).recorded.step w.shared u choice = some (s, u', new)) :
    Ordered ⟨s, w.threads.set i u' ++ new⟩ := by
  obtain ⟨ts, hstep, hsame, rfl, hmarks⟩ := recorded_step h
  have hmem := mem_of_getElem? hu
  have hlonger : w.shared.marks.length < s.marks.length := by rw [hmarks]; exact Nat.lt_succ_self _
  -- a waiting login is not overtaken by this step
  have hkept (v : ℕ × Task) (hv : v ∈ w.threads) (c : String) (hc : v.2.waits = some c) :
      NotOvertaken v.1 c s.marks := by
    rw [hmarks]
    refine (hw.waiting v hv c hc).cons hw.received fun b hb hbc a ha => ?_
    obtain ⟨hnumber, hhands⟩ := hands_of_acceptedBusiness hb
    rw [hnumber]
    exact hguard b.2 hhands v hv (by rw [hc, hbc]) a ha
  -- the threads of this step wait if they waited before or have just been acknowledged
  have hnew (t : Task) (ht : t ∈ u'.2 :: ts) (c : String) (hc : t.waits = some c) :
      NotOvertaken u.1 c s.marks := by
    rcases waits_of_taskStep (taskStep_of_stepTask hstep) ht hc with hbefore | ⟨m, r, hack⟩
    · exact hkept u hmem c hbefore
    · rw [hmarks, hack]
      exact notOvertaken_of_acknowledges (decide_eq_true rfl) hw.received
  refine ⟨?_, fun v hv c hc => ?_, fun v hv => ?_, fun e he b hb => ?_⟩
  · rw [hmarks]
    refine ⟨fun l hl => ?_, hw.first⟩
    obtain ⟨hnumber, hwaits⟩ := waits_of_acceptedLogin hl hstep
    rw [hnumber]
    exact hw.waiting u hmem l.2 hwaits
  · rcases of_mem_set_append hv with hv | rfl | hv
    · exact hkept v hv c hc
    · rw [hsame]
      exact hnew v.2 (by simp) c hc
    · obtain ⟨t, ht, rfl⟩ := mem_map.mp hv
      exact hnew t (by simp [ht]) c hc
  · have hself := (hw.started u hmem).trans hlonger
    rcases of_mem_set_append hv with hv | rfl | hv
    · exact (hw.started v hv).trans hlonger
    · rwa [hsame]
    · obtain ⟨t, -, rfl⟩ := mem_map.mp hv
      exact hself
  · rw [hmarks] at he
    rcases mem_cons.mp he with rfl | he
    · rw [(hands_of_acceptedBusiness hb).1]
      exact (hw.started u hmem).trans hlonger
    · exact (hw.received e he b hb).trans hlonger

theorem Ordered.exec {a : Action (ℕ × Task) Choice} (hw : Ordered w) (hguard : HandsOverInTime w a)
    (h : (gateway cfg).recorded.exec w a = some w') : Ordered w' := by
  obtain ⟨u, s, rfl, hs, rfl⟩ | ⟨i, x, u, s, u', new, rfl, hu, hs, rfl⟩ := exec_cases h
  · exact hw.start hs
  · exact hw.step hu (hguard u hu) hs

theorem ordered_initRecorded : Ordered initRecorded :=
  ⟨trivial, fun _ hu => absurd hu not_mem_nil, fun _ hu => absurd hu not_mem_nil,
    fun _ he => absurd he not_mem_nil⟩

end Invariant

/-- **The login comes first.** In every run in which a business message is handed over only while no
login of its session waits that was acknowledged before the message was received: whenever the login
of a session is accepted by a logic client, no business message of the session that was received after
its acknowledgement was accepted before. -/
theorem loginFirst_of_handsOverInTime (cfg : Config) (as : List (Action Task Choice))
    (w : World Gateway Task)
    (hguard : (gateway cfg).recorded.Guarded HandsOverInTime initRecorded (Program.numbered 0 as))
    (hrun : (gateway cfg).run initWorld as = some w) :
    ∃ r, (gateway cfg).recorded.run initRecorded (Program.numbered 0 as) = some r ∧
      r.shared.state = w.shared ∧ History.Each LoginFirst r.shared.marks := by
  obtain ⟨r, hrecorded, hstate, -⟩ := run_numbered hrun
  have hr : Ordered r :=
    Transition.run_invariant (fun _ _ _ hw hg h => hw.exec hg h) ordered_initRecorded hguard hrecorded
  exact ⟨r, hrecorded, hstate, hr.first⟩

/-- The login is forwarded, and then the client sends a message. -/
def sentAfterLogin : List (Action Task Choice) :=
  loggedIn ++ steps 4 1 ++ starts (.frame false "c" [0x08, 0x05]) 5 9

theorem loginFirst_sentAfterLogin :
    ∃ r, (gateway (sampleConfig [⟨"u", "k", "s"⟩] none)).recorded.run initRecorded
        (Program.numbered 0 sentAfterLogin) = some r ∧
      (r.shared.marks.filterMap acceptedLogin, r.shared.marks.filterMap acceptedBusiness) =
        ([(6, "c")], [(19, "c")]) ∧
      History.Each LoginFirst r.shared.marks := by
  obtain ⟨w, hrun⟩ := Option.isSome_iff_exists.mp (show ((gateway (sampleConfig [⟨"u", "k", "s"⟩]
    none)).run initWorld sentAfterLogin).isSome by decide +kernel)
  obtain ⟨r, hrecorded, haccepted⟩ : ∃ r, (gateway (sampleConfig [⟨"u", "k", "s"⟩]
      none)).recorded.run initRecorded (numbered 0 sentAfterLogin) = some r ∧
        (r.shared.marks.filterMap acceptedLogin, r.shared.marks.filterMap acceptedBusiness) =
          ([(6, "c")], [(19, "c")]) := Transition.exists_end (by decide +kernel)
  obtain ⟨r', hr', -, hfirst⟩ := loginFirst_of_handsOverInTime _ _ w (by decide +kernel) hrun
  cases hrecorded.symm.trans hr'
  exact ⟨r, hrecorded, haccepted, hfirst⟩

/-- The login is acknowledged, and the client sends a message before the login is forwarded. -/
def sentBeforeLogin : List (Action Task Choice) :=
  starts (.onOpen "c" "t" "10.0.0.1:5000") 0 1 ++ starts (.setClient "s" 1) 1 1 ++
  starts (.setConnected 1 true) 2 1 ++ starts (.frame false "c" (loginFrame 0)) 3 10 ++
  starts (.frame false "c" [0x08, 0x05]) 4 9 ++ steps 3 1 ++ steps 5 1

/-- **A message overtakes the login.** The logic client accepts the message first and the login after
it, although the client sent the message after the acknowledgement. -/
theorem sentBeforeLogin_overtakes :
    ∃ w r, (gateway (sampleConfig [⟨"u", "k", "s"⟩] none)).run initWorld sentBeforeLogin = some w ∧
      w.shared.history.take 4 =
        [.handed .login 1 { sessionId := "c", userKey := "s:u", cmd := cmdLoginGate, data := [0] },
          .completed "c" ⟨"u", "k", "s"⟩ (some "c"),
          .handed .pipeline 1 { sessionId := "c", userKey := "s:u", cmd := 5 },
          .loginAck "c" 0 "ok" "s"] ∧
      (gateway (sampleConfig [⟨"u", "k", "s"⟩] none)).recorded.run initRecorded
        (Program.numbered 0 sentBeforeLogin) = some r ∧
      ¬ History.Each LoginFirst r.shared.marks := by
  obtain ⟨r, hrecorded, hlate⟩ : ∃ r, (gateway (sampleConfig [⟨"u", "k", "s"⟩]
      none)).recorded.run initRecorded (numbered 0 sentBeforeLogin) = some r ∧
        ¬ History.Each LoginFirst r.shared.marks := Transition.exists_end (by decide +kernel)
  refine Exists.imp (fun w h => ⟨r, h.1, h.2, hrecorded, hlate⟩) (Transition.exists_end ?_)
  decide +kernel

end Sgate.Gateway
