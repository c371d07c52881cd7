import Sgate.Gateway.Objects
import Sgate.Lib.Recorded

/-! # Offline notices

All closers call `notifyLogicOffline`. It tests a flag of the connection and starts a goroutine that
sends the notice and sets the flag after the send succeeded; in between another closer can pass the
test. -/

namespace Sgate.Gateway

open Routes Interleaving Program

/-! ## Closers and notices -/

/-- The goroutine that a step of a closer starts by `notifyLogicOffline`, if any. A kick has the
connection in hand, the others look it up. -/
def Task.notices (cfg : Config) (g : Gateway) : Task → List Task
  | .logout c | .onClose c | .login _ _ _ (.closeOld c) =>
    match g.connectionManager.getConnection c with
    | none => []
    | some _ => notifyLogicOffline cfg g c
  | .kick c => notifyLogicOffline cfg g c
  | _ => []

def Task.closes : Task → Option String
  | .logout c | .onClose c | .kick c | .login _ _ _ (.closeOld c) => some c
  | _ => none

/-- A notice of the connection is on its way to the logic client. -/
def Task.notifies (c : String) : Task → Bool
  | .notifyOffline d _ _ => d = c
  | _ => false

/-- A notice of the connection was accepted, and the flag is about to be set. -/
def Task.marks (c : String) : Task → Bool
  | .markOffline d => d = c
  | _ => false

/-- The mark records that a logic client accepted a notice of the connection. -/
def acceptsOffline (c : String) : Mark Task → Bool
  | .stepped _ (.notifyOffline d _ _) (.markOffline _) => d = c
  | _ => false

def acceptedOffline (c : String) (marks : List (Mark Task)) : ℕ := marks.countP (acceptsOffline c)

/-- The flag of a connection that its notice was accepted. -/
def offlineNotified (g : Gateway) (c : String) : Bool :=
  (g.connectionManager.objects c).any (·.offlineSent)

/-- A closer passes the test of the flag only while no notice of its connection is under way. -/
def OneAtATime (cfg : Config) :
    World (Recorded Gateway Task) (ℕ × Task) → Action (ℕ × Task) Choice → Prop :=
  Program.ThreadGuard (fun _ _ => True) fun w u =>
    ∀ c ∈ u.2.closes, u.2.notices cfg w.shared.state ≠ [] →
      ∀ v ∈ w.threads, v.2.notifies c = false ∧ v.2.marks c = false

instance (cfg : Config) (w : World (Recorded Gateway Task) (ℕ × Task))
    (a : Action (ℕ × Task) Choice) : Decidable (OneAtATime cfg w a) :=
  Program.decidableThreadGuard _ _ w a

/-- Nobody has connected and nothing happened. -/
def initRecorded : World (Recorded Gateway Task) (ℕ × Task) := Program.unrecorded initWorld

/-! ## The flag -/

section Flag

variable {cfg : Config} {g g' : Gateway} {t t' : Task} {new : List Task} {c : String}
  {choice : Choice}

theorem offlineNotified_eq_true :
    offlineNotified g c = true ↔
      ∃ x, g.connectionManager.objects c = some x ∧ x.offlineSent = true := by
  rw [offlineNotified, Option.any_eq_true]

/-- **The flag is never reset.** -/
theorem offlineNotified_mono (h : stepTask cfg g t choice = some (g', t', new))
    (hn : offlineNotified g c = true) : offlineNotified g' c = true := by
  obtain ⟨x, hx, hsent⟩ := offlineNotified_eq_true.mp hn
  exact (effect_of_stepTask h).2 c x hx hsent

end Flag

/-! ## What a step does to the notices of a connection -/

/-- The task has nothing to do with a notice of the connection. -/
def Task.Quiet (c : String) (t : Task) : Prop := t.notifies c = false ∧ t.marks c = false

/-- The effects of a step on the notices of the connection `c`. -/
inductive NoticeStep (cfg : Config) (g : Gateway) (c : String) :
    Task → Gateway → Task → List Task → Prop
  /-- A closer passes the test of the flag. -/
  | begun {t t' u : Task} {g' : Gateway} (hcloses : t.closes = some c)
      (hnotices : t.notices cfg g = [u]) (hu : u.notifies c = true)
      (hflag : offlineNotified g c = false) (hopened : (g.connectionManager.objects c).isSome)
      (ht : t.Quiet c) (ht' : t'.Quiet c) : NoticeStep cfg g c t g' t' [u]
  | accepted {client : ℕ} {m : StreamData} {g' : Gateway} :
      NoticeStep cfg g c (.notifyOffline c client m) g' (.markOffline c) []
  | failed {client : ℕ} {m : StreamData} {g' : Gateway} :
      NoticeStep cfg g c (.notifyOffline c client m) g' .finished []
  | marked {g' : Gateway}
      (h : (g.connectionManager.objects c).isSome → offlineNotified g' c = true) :
      NoticeStep cfg g c (.markOffline c) g' .finished []
  | other {t t' : Task} {g' : Gateway} {new : List Task} (ht : t.Quiet c) (ht' : t'.Quiet c)
      (hnew : ∀ u ∈ new, u.Quiet c) : NoticeStep cfg g c t g' t' new

section Steps

variable {cfg : Config} {g g' : Gateway} {t t' : Task} {new : List Task} {c d : String}
  {choice : Choice}

/-- **The test of `notifyLogicOffline`**: whoever passes it has found the flag unset. -/
theorem notifyLogicOffline_cases (cfg : Config) (g : Gateway) (d : String) :
    notifyLogicOffline cfg g d = [] ∨ ∃ client m,
      notifyLogicOffline cfg g d = [.notifyOffline d client m] ∧ offlineNotified g d = false ∧
        (g.connectionManager.objects d).isSome := by
  unfold notifyLogicOffline offlineNotified
  split
  · exact .inl rfl
  rename_i x hx
  split
  · exact .inl rfl
  rename_i hopen
  split
  · exact .inl rfl
  · refine .inr ⟨_, _, rfl, ?_, ?_⟩
    · rw [hx, Option.any_some]
      exact Bool.eq_false_iff.mpr fun hsent => hopen (.inl hsent)
    · rw [hx]
      rfl

theorem notices_cases (cfg : Config) (g : Gateway) (hcloses : t.closes = some d) :
    t.notices cfg g = [] ∨ ∃ client m, t.notices cfg g = [.notifyOffline d client m] ∧
      offlineNotified g d = false ∧ (g.connectionManager.objects d).isSome := by
  unfold Task.closes at hcloses
  split at hcloses <;> cases hcloses
  case h_3 => exact notifyLogicOffline_cases cfg g d
  all_goals
    unfold Task.notices
    simp only
    split
    · exact .inl rfl
    · exact notifyLogicOffline_cases cfg g d

theorem closes_step (hcloses : t.closes = some d)
    (h : stepTask cfg g t choice = some (g', t', new)) :
    new = t.notices cfg g ∧ ∀ c, t.Quiet c ∧ t'.Quiet c := by
  unfold Task.closes at hcloses
  split at hcloses <;> cases hcloses
  · simp only [stepTask, handleLogoutGate] at h
    split at h <;> rename_i hget <;> cases h <;>
      exact ⟨by simp only [Task.notices, hget], fun _ => ⟨⟨rfl, rfl⟩, rfl, rfl⟩⟩
  · simp only [stepTask] at h
    split at h <;> rename_i hget <;> cases h <;>
      exact ⟨by simp only [Task.notices, hget], fun _ => ⟨⟨rfl, rfl⟩, rfl, rfl⟩⟩
  · cases h
    exact ⟨rfl, fun _ => ⟨⟨rfl, rfl⟩, rfl, rfl⟩⟩
  · simp only [stepTask, finishLoginGate, Option.some.injEq] at h
    split at h <;> rename_i hget <;> cases h <;>
      exact ⟨by simp only [Task.notices, hget], fun _ => ⟨⟨rfl, rfl⟩, rfl, rfl⟩⟩

variable {v v' : View}

theorem loginStep_quiet {m : StreamData} {r : LoginGateReq} {pc : LoginPc}
    (hcloses : (Task.login d m r pc).closes = none) (h : LoginStep cfg v d m r pc v' t' new) :
    t'.Quiet c ∧ ∀ u ∈ new, u.Quiet c := by
  cases h with
  | closeOld | gone => cases hcloses
  | complete hnew =>
    refine ⟨⟨rfl, rfl⟩, fun u hu => ?_⟩
    obtain ⟨serverID, msg, n, rfl, -⟩ := hnew u hu
    exact ⟨rfl, rfl⟩
  | _ => exact ⟨⟨rfl, rfl⟩, by simp⟩

theorem entry_quiet (h : t.entry = true) : t.Quiet c := by
  cases t with
  | notifyOffline | markOffline => cases h
  | _ => exact ⟨rfl, rfl⟩

theorem taskStep_quiet (hcloses : t.closes = none) (ht : t.Quiet c) (h : TaskStep cfg v t v' t' new) :
    t'.Quiet c ∧ ∀ u ∈ new, u.Quiet c := by
  cases h with
  | logout | onClose | kick => cases hcloses
  | login hlogin => exact loginStep_quiet hcloses hlogin
  | process hprocess => exact ⟨by cases hprocess <;> exact ⟨rfl, rfl⟩, by simp⟩
  | forward ht' => exact ⟨by rcases ht' with rfl | rfl <;> exact ⟨rfl, rfl⟩, by simp⟩
  | notify ht' =>
    refine ⟨?_, by simp⟩
    rcases ht' with rfl | rfl
    · exact ⟨rfl, rfl⟩
    · exact ⟨rfl, ht.1⟩
  | snapshot =>
    refine ⟨⟨rfl, rfl⟩, fun u hu => ?_⟩
    obtain ⟨d, -, rfl⟩ := List.mem_map.mp hu
    exact ⟨rfl, rfl⟩
  | _ => exact ⟨⟨rfl, rfl⟩, by simp⟩

/-- **Every step is one of these.** -/
theorem noticeStep_of_stepTask (h : stepTask cfg g t choice = some (g', t', new)) (c : String) :
    NoticeStep cfg g c t g' t' new := by
  cases hcloses : t.closes with
  | some d =>
    obtain ⟨rfl, hquiet⟩ := closes_step hcloses h
    obtain ⟨ht, ht'⟩ := hquiet c
    rcases notices_cases cfg g hcloses with hnil | ⟨client, m, hone, hflag, hopened⟩
    · rw [hnil]
      exact .other ht ht' (by simp)
    · rw [hone]
      by_cases hc : d = c
      · subst hc
        exact .begun hcloses hone (decide_eq_true rfl) hflag hopened ht ht'
      · refine .other ht ht' fun u hu => ?_
        obtain rfl := List.mem_singleton.mp hu
        exact ⟨decide_eq_false hc, rfl⟩
  | none =>
    by_cases ht : t.Quiet c
    · obtain ⟨ht', hnew⟩ := taskStep_quiet hcloses ht (taskStep_of_stepTask h)
      exact .other ht ht' hnew
    · cases t with
      | notifyOffline d client m =>
        obtain rfl : d = c := by
          by_contra hne
          exact ht ⟨decide_eq_false hne, rfl⟩
        simp only [stepTask] at h
        split at h <;> cases h
        · exact .failed
        · exact .accepted
      | markOffline d =>
        obtain rfl : d = c := by
          by_contra hne
          exact ht ⟨rfl, decide_eq_false hne⟩
        cases h
        refine .marked fun hopened => ?_
        obtain ⟨x, hx⟩ := Option.isSome_iff_exists.mp hopened
        refine offlineNotified_eq_true.mpr ⟨_, objects_modifyObject hx, ?_⟩
        rw [if_pos rfl]
      | _ => exact absurd ⟨rfl, rfl⟩ ht

theorem acceptsOffline_of_quiet (ht : t.Quiet c) (n : ℕ) (t' : Task) :
    acceptsOffline c (.stepped n t t') = false := by
  unfold acceptsOffline
  split
  · rename_i heq
    cases heq
    exact ht.1
  · rfl

section

variable (h : NoticeStep cfg g c t g' t' new)
include h

theorem NoticeStep.opened (ht : ¬ t.Quiet c → (g.connectionManager.objects c).isSome) :
    ∀ u ∈ t' :: new, ¬ u.Quiet c → (g.connectionManager.objects c).isSome := by
  intro u hu hnot
  cases h with
  | begun _ _ _ _ hopened => exact hopened
  | accepted | failed => exact ht fun hquiet => absurd hquiet.1 (by simp [Task.notifies])
  | marked => exact ht fun hquiet => absurd hquiet.2 (by simp [Task.marks])
  | other _ ht' hnew =>
    rcases List.mem_cons.mp hu with rfl | hu
    · exact absurd ht' hnot
    · exact absurd (hnew u hu) hnot

theorem NoticeStep.notifies (n : ℕ) :
    (acceptsOffline c (.stepped n t t')).toNat + (t'.notifies c).toNat +
        tally (fun u => (u.notifies c).toNat) new ≤ (t.notifies c).toNat ∨
      t.closes = some c ∧ t.notices cfg g ≠ [] ∧ offlineNotified g c = false ∧
        (acceptsOffline c (.stepped n t t')).toNat + (t'.notifies c).toNat +
          tally (fun u => (u.notifies c).toNat) new = 1 := by
  cases h with
  | begun hcloses hnotices hu hflag _ ht ht' =>
    refine .inr ⟨hcloses, by simp [hnotices], hflag, ?_⟩
    simp [acceptsOffline_of_quiet ht, ht'.1, hu]
  | accepted | failed | marked => exact .inl (by simp [acceptsOffline, Task.notifies])
  | other ht ht' hnew =>
    have hnone : tally (fun u => (u.notifies c).toNat) new = 0 :=
      (tally_eq_zero_iff _ _).mpr fun u hu => by rw [(hnew u hu).1]; rfl
    exact .inl (by simp [acceptsOffline_of_quiet ht, ht.1, ht'.1, hnone])

theorem NoticeStep.accepts (n : ℕ) :
    (acceptsOffline c (.stepped n t t')).toNat ≤ (t'.marks c).toNat := by
  cases h with
  | begun _ _ _ _ _ ht | other ht => simp [acceptsOffline_of_quiet ht]
  | accepted | failed | marked => simp [acceptsOffline, Task.marks]

theorem NoticeStep.marks (hopened : ¬ t.Quiet c → (g.connectionManager.objects c).isSome) :
    (t.marks c).toNat = 0 ∨ offlineNotified g' c = true := by
  cases h with
  | begun _ _ _ _ _ ht | other ht => exact .inl (by simp [ht.2])
  | accepted | failed => exact .inl rfl
  | marked hset => exact .inr (hset (hopened fun hquiet => absurd hquiet.2 (by simp [Task.marks])))

end

end Steps

/-! ## At most one notice -/

/-- **The invariant.** A notice that is under way is the only one, accepted or not; once it is
accepted, the flag is set or about to be set. -/
structure Notified (c : String) (w : World (Recorded Gateway Task) (ℕ × Task)) : Prop where
  once : acceptedOffline c w.shared.marks + tally (fun u => (u.2.notifies c).toNat) w.threads ≤ 1
  marked : acceptedOffline c w.shared.marks = 0 ∨ offlineNotified w.shared.state c = true ∨
    0 < tally (fun u => (u.2.marks c).toNat) w.threads
  /-- Notices are about connections that were opened. -/
  opened : ∀ u ∈ w.threads, ¬ u.2.Quiet c → (w.shared.state.connectionManager.objects c).isSome

section Invariant

variable {cfg : Config} {w : World (Recorded Gateway Task) (ℕ × Task)} {c : String}

theorem Notified.start {u : ℕ × Task} {s : Recorded Gateway Task} (hw : Notified c w)
    (h : (gateway cfg).recorded.start w.shared u = some s) : Notified c ⟨s, w.threads ++ [u]⟩ := by
  obtain ⟨-, hstart, hmarks⟩ := recorded_start h
  obtain ⟨hstate, hentry⟩ := entry_of_startTask hstart
  have hquiet : u.2.Quiet c := entry_quiet hentry
  have haccepted : acceptedOffline c s.marks = acceptedOffline c w.shared.marks := by
    rw [acceptedOffline, hmarks]
    exact List.countP_cons_of_neg Bool.false_ne_true
  refine ⟨?_, ?_, fun v hv hnot => ?_⟩
  · rw [tally_append, haccepted]
    simpa [hquiet.1] using hw.once
  · rw [tally_append, haccepted, hstate]
    simpa [hquiet.2] using hw.marked
  · rw [hstate]
    rcases of_mem_snoc hv with hv | rfl
    · exact hw.opened v hv hnot
    · exact absurd hquiet hnot

/-- **What a step keeps.** The only way to a second notice is to pass the test while the first one is
under way. -/
theorem Notified.step {i : ℕ} {u u' : ℕ × Task} {choice : Choice} {s : Recorded Gateway Task}
    {new : List (ℕ × Task)} (hw : Notified c w) (hu : w.threads[i]? = some u)
    (hguard : ∀ d ∈ u.2.closes, u.2.notices cfg w.shared.state ≠ [] →
      ∀ v ∈ w.threads, v.2.notifies d = false ∧ v.2.marks d = false)
    (h : (gateway cfg).recorded.step w.shared u choice = some (s, u', new)) :
    Notified c ⟨s, w.threads.set i u' ++ new⟩ := by
  obtain ⟨ts, hstep, -, rfl, hmarks⟩ := recorded_step h
  have hnotice := noticeStep_of_stepTask hstep c
  have hmem := List.mem_of_getElem? hu
  have hopened := hw.opened u hmem
  have honce := hw.once
  have hnotifies := tally_set (fun v : ℕ × Task => (v.2.notifies c).toNat) u' hu
  have hmarking := tally_set (fun v : ℕ × Task => (v.2.marks c).toNat) u' hu
  have haccepts := hnotice.accepts u.1
  have haccepted : acceptedOffline c s.marks = acceptedOffline c w.shared.marks +
      (acceptsOffline c (.stepped u.1 u.2 u'.2)).toNat := by
    rw [acceptedOffline, hmarks, List.countP_cons, acceptedOffline]
    cases acceptsOffline c (.stepped u.1 u.2 u'.2) <;> rfl
  refine ⟨?_, ?_, fun v hv hnot => ?_⟩
  · simp only [tally_append, tally_map, haccepted]
    rcases hnotice.notifies u.1 with hle | ⟨hcloses, hnotices, hflag, hone⟩
    · omega
    · -- the test was passed while no notice was under way, so none was accepted
      have hfree := hguard c hcloses hnotices
      have hno : tally (fun v : ℕ × Task => (v.2.notifies c).toNat) w.threads = 0 :=
        (tally_eq_zero_iff _ _).mpr fun v hv => by rw [(hfree v hv).1]; rfl
      have hnone : tally (fun v : ℕ × Task => (v.2.marks c).toNat) w.threads = 0 :=
        (tally_eq_zero_iff _ _).mpr fun v hv => by rw [(hfree v hv).2]; rfl
      have hzero : acceptedOffline c w.shared.marks = 0 := by
        rcases hw.marked with hzero | hset | hpos
        · exact hzero
        · rw [hflag] at hset
          cases hset
        · omega
      omega
  · simp only [tally_append, haccepted]
    have hle := le_tally (fun v : ℕ × Task => (v.2.marks c).toNat) hmem
    rcases hw.marked with hzero | hset | hpos
    · omega
    · exact .inr (.inl (offlineNotified_mono hstep hset))
    · rcases hnotice.marks hopened with hmark | hset
      · exact .inr (.inr (by omega))
      · exact .inr (.inl hset)
  · -- an opened connection keeps its object
    refine opened_mono hstep ?_
    rcases of_mem_set_append hv with hv | rfl | hv
    · exact hw.opened v hv hnot
    · exact hnotice.opened hopened v.2 (by simp) hnot
    · obtain ⟨t, ht, rfl⟩ := List.mem_map.mp hv
      exact hnotice.opened hopened t (by simp [ht]) hnot

theorem Notified.exec {a : Action (ℕ × Task) Choice}
    {w' : World (Recorded Gateway Task) (ℕ × Task)} (hw : Notified c w)
    (hguard : OneAtATime cfg w a) (h : (gateway cfg).recorded.exec w a = some w') :
    Notified c w' := by
  obtain ⟨u, s, rfl, hs, rfl⟩ | ⟨i, x, u, s, u', new, rfl, hu, hs, rfl⟩ := exec_cases h
  · exact hw.start hs
  · exact hw.step hu (hguard u hu) hs

theorem notified_initRecorded (c : String) : Notified c initRecorded :=
  ⟨Nat.zero_le _, .inl rfl, fun _ hu _ => absurd hu List.not_mem_nil⟩

end Invariant

/-- **At most one offline notice.** In every run in which a closer passes the test of the flag only
while no notice of its connection is under way, at most one offline notice of each connection is
accepted by a logic client. -/
theorem accepted_le_one (cfg : Config) (as : List (Action Task Choice)) (w : World Gateway Task)
    (c : String)
    (hguard : (gateway cfg).recorded.Guarded (OneAtATime cfg) initRecorded (Program.numbered 0 as))
    (hrun : (gateway cfg).run initWorld as = some w) :
    ∃ r, (gateway cfg).recorded.run initRecorded (Program.numbered 0 as) = some r ∧
      r.shared.state = w.shared ∧ acceptedOffline c r.shared.marks ≤ 1 := by
  obtain ⟨r, hrecorded, hstate, -⟩ := run_numbered hrun
  have hr : Notified c r :=
    Transition.run_invariant (fun _ _ _ hw hg h => hw.exec hg h) (notified_initRecorded c) hguard
      hrecorded
  exact ⟨r, hrecorded, hstate, Nat.le_of_add_right_le hr.once⟩

/-- A client logs in to a server with a connected logic client. -/
def loggedIn : List (Action Task Choice) :=
  starts (.onOpen "c" "t" "10.0.0.1:5000") 0 1 ++ starts (.setClient "s" 1) 1 1 ++
  starts (.setConnected 1 true) 2 1 ++ starts (.frame false "c" (loginFrame 0)) 3 11

/-- The client is kicked, and its socket closes after the notice. -/
def kickedInTime : List (Action Task Choice) :=
  loggedIn ++ starts (.kick "c") 5 1 ++ steps 6 2 ++ starts (.onClose "c") 7 2

theorem accepted_kickedInTime :
    ∃ r, (gateway (sampleConfig [⟨"u", "k", "s"⟩] none)).recorded.run initRecorded
        (Program.numbered 0 kickedInTime) = some r ∧
      acceptedOffline "c" r.shared.marks = 1 ∧ acceptedOffline "c" r.shared.marks ≤ 1 := by
  obtain ⟨w, hrun⟩ := Option.isSome_iff_exists.mp (show ((gateway (sampleConfig [⟨"u", "k", "s"⟩]
    none)).run initWorld kickedInTime).isSome by decide +kernel)
  obtain ⟨r, hrecorded, -, hle⟩ := accepted_le_one _ _ w "c" (by decide +kernel) hrun
  obtain ⟨r', hr', hone⟩ : ∃ r, (gateway (sampleConfig [⟨"u", "k", "s"⟩] none)).recorded.run
      initRecorded (numbered 0 kickedInTime) = some r ∧ acceptedOffline "c" r.shared.marks = 1 :=
    Transition.exists_end (by decide +kernel)
  cases hrecorded.symm.trans hr'
  exact ⟨r, hrecorded, hone, hle⟩

/-- The client is kicked, and its socket closes before the notice is accepted. -/
def kickedTwice : List (Action Task Choice) :=
  loggedIn ++ starts (.kick "c") 5 1 ++ starts (.onClose "c") 7 2 ++ steps 6 2 ++ steps 8 2

/-- **Two notices of one connection.** Both the kick and the close find the flag unset, and both
notices are accepted. -/
theorem kickedTwice_accepts_two :
    ∃ w r, (gateway (sampleConfig [⟨"u", "k", "s"⟩] none)).run initWorld kickedTwice = some w ∧
      (gateway (sampleConfig [⟨"u", "k", "s"⟩] none)).recorded.run initRecorded
        (Program.numbered 0 kickedTwice) = some r ∧
      acceptedOffline "c" r.shared.marks = 2 := by
  obtain ⟨w, hrun⟩ := Option.isSome_iff_exists.mp (show ((gateway (sampleConfig [⟨"u", "k", "s"⟩]
    none)).run initWorld kickedTwice).isSome by decide +kernel)
  exact ⟨w, Exists.imp (fun _ h => ⟨hrun, h⟩) (Transition.exists_end (by decide +kernel))⟩

end Sgate.Gateway
