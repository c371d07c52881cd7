import Sgate.Gateway.Steps
import Sgate.Lib.History

/-! # Only validated connections reach a logic server

A connection gets a logic server from the login worker after its two checks. Of connections, `Gated` says
that a bound one is vouched for; of tasks, `Assured` says what each knows about its connection. Both only
ask for events that have happened. -/

namespace Sgate.Gateway

open Routes Interleaving History Sessions

/-! ## The invariant -/

/-- Some login of the connection was validated and then admitted. -/
def Vouched (h : List Event) (c : String) : Prop :=
  ∃ r rest, (Event.admitted c r :: rest) <:+ h ∧ Event.validated c r ∈ rest

/-- A message that is handed over belongs to a connection that is vouched for. -/
def HandedVouched (past : List Event) : Event → Prop
  | .handed _ _ msg => Vouched past msg.sessionId
  | _ => True

/-- What a task knows of the connection it works for. -/
def Assured (h : List Event) : Task → Prop
  | .login _ _ _ .validate => True
  | .login c _ r .maintenance => .validated c r ∈ h
  | .login c _ _ _ => Vouched h c
  | .process c _ pc => (pc.client ≠ none → Vouched h c) ∧ ∀ out ∈ pc.out, out.sessionId = c
  | .forwardLogin _ m _ => Vouched h m.sessionId
  | .notifyOffline _ _ m => Vouched h m.sessionId
  | _ => True

/-- Bound connections are vouched for, and so were those whose messages were handed over. -/
structure Gated (v : View) : Prop where
  bound : ∀ c, v.sessions.serverID c ≠ "" → Vouched v.history c
  handed : Each HandedVouched v.history

section

variable {cfg : Config} {v v' : View} {t t' : Task} {new : List Task} {h h' : List Event}
  {c : String}

theorem Vouched.mono (hsub : h <:+ h') (hv : Vouched h c) : Vouched h' c := by
  obtain ⟨r, rest, hadmitted, hvalid⟩ := hv
  exact ⟨r, rest, hadmitted.trans hsub, hvalid⟩

theorem Assured.mono (hsub : h <:+ h') (ha : Assured h t) : Assured h' t := by
  cases t with
  | login c m r pc =>
    cases pc with
    | validate => trivial
    | maintenance => exact hsub.mem ha
    | _ => exact Vouched.mono hsub ha
  | process c m pc => exact ⟨fun hpc => (ha.1 hpc).mono hsub, ha.2⟩
  | forwardLogin serverID m n | notifyOffline c client m => exact Vouched.mono hsub ha
  | _ => trivial

variable {m : StreamData}

attribute [local simp] ProcessPc.out ProcessPc.client

section

variable (hg : Gated v)
include hg

theorem Gated.notice {u : Task} (hu : Notice v c u) : Assured v.history u := by
  obtain ⟨client, msg, rfl, rfl, hbound⟩ := hu
  exact hg.bound _ hbound

theorem Gated.record {e : Event} (he : HandedVouched v.history e) : Gated (v.record e) where
  bound c hc := (hg.bound c hc).mono (by simp)
  handed := ⟨he, hg.handed⟩

theorem Gated.tellToClose : Gated (v.tellToClose c) := ⟨hg.bound, hg.handed⟩

theorem Gated.withSessions {s : Sessions} (hs : ∀ c, s.serverID c = v.sessions.serverID c) :
    Gated (v.withSessions s) where
  bound c hc := hg.bound c (by rwa [← hs])
  handed := hg.handed

theorem Gated.bind (hc : Vouched v.history c) (serverID : String) :
    Gated (v.withSessions (v.sessions.bound c serverID)) where
  bound j hj := by
    by_cases hjc : j = c
    · subst hjc
      exact hc
    · rw [View.withSessions_sessions, serverID_bound_of_ne hjc] at hj
      exact hg.bound j hj
  handed := hg.handed

theorem LoginStep.gated {r : LoginGateReq} {pc : LoginPc} (ha : Assured v.history (.login c m r pc))
    (hs : LoginStep cfg v c m r pc v' t' new) :
    Gated v' ∧ Assured v'.history t' ∧ ∀ u ∈ new, Assured v'.history u := by
  cases hs with
  | invalid | marked _ => exact ⟨hg.record trivial, trivial, by simp⟩
  | valid => exact ⟨hg.record trivial, List.mem_cons_self, by simp⟩
  | admitted _ =>
    -- the worker was validated before, and this step admits it
    have hvouched : Vouched (v.record (.admitted c r)).history c :=
      ⟨r, v.history, List.suffix_refl _, ha⟩
    exact ⟨hg.record trivial, hvouched, by simp⟩
  -- the one step that binds: the worker is past both checks
  | bind => exact ⟨hg.bind ha _, ha, by simp⟩
  | alone _ | found _ _ | gone _ | account | key => exact ⟨hg, ha, by simp⟩
  | closeOld _ hnew =>
    -- the notice is about the old connection, which is bound and so vouched for
    refine ⟨hg.tellToClose.record trivial, ha.mono (by simp), fun u hu => ?_⟩
    exact (hg.notice (hnew u hu)).mono (by simp)
  | register => exact ⟨hg.withSessions fun _ => serverID_identified _, ha, by simp⟩
  | ack => exact ⟨hg.record trivial, ha.mono (by simp), by simp⟩
  | complete hnew =>
    refine ⟨hg.record trivial, trivial, fun u hu => ?_⟩
    obtain ⟨_, msg, _, rfl, rfl⟩ := hnew u hu
    exact Vouched.mono (by simp) ha

/-- A step of `Process` keeps the invariant: it hands a message over only with a client, and it has a
client only for a connection that was bound. -/
theorem PipelineStep.gated {pc : ProcessPc} (ha : Assured v.history (.process c m pc))
    (hs : PipelineStep cfg v c m pc v' t') : Gated v' ∧ Assured v'.history t' := by
  cases hs with
  | quit _ => exact ⟨hg, trivial⟩
  | early hclient hchecked =>
    refine ⟨hg, fun h => absurd hclient h, ?_⟩
    rename_i pc'
    cases pc' with
    | send _ _ => cases hchecked
    | _ => simp
  -- a client is chosen by the server the connection is bound to
  | logicClient hbound => exact ⟨hg, fun _ => hg.bound c hbound, by simp⟩
  | fast _ hout | build hout => exact ⟨hg, ha.1, by simpa using hout⟩
  | secure _ _ => exact ⟨hg, ha.1, by simp⟩
  | send result =>
    rename_i client out
    have hout : out.sessionId = c := ha.2 out rfl
    have hvouched : Vouched v.history out.sessionId := hout ▸ ha.1 (by simp)
    exact ⟨hg.record hvouched, trivial⟩

/-- **Every step keeps the invariant.** -/
theorem TaskStep.gated (ha : Assured v.history t) (hs : TaskStep cfg v t v' t' new) :
    Gated v' ∧ Assured v'.history t' ∧ ∀ u ∈ new, Assured v'.history u := by
  cases hs with
  | login hs => exact hs.gated hg ha
  | process hs =>
    obtain ⟨hg', ha'⟩ := hs.gated hg ha
    exact ⟨hg', ha', by simp⟩
  | refused _ => exact ⟨hg.record trivial, trivial, by simp⟩
  | refusedClosing _ => exact ⟨hg.tellToClose.record trivial, trivial, by simp⟩
  | logout hnew | kick hnew => exact ⟨hg.tellToClose, trivial, fun u hu => hg.notice (hnew u hu)⟩
  | onClose hnew => exact ⟨hg, trivial, fun u hu => hg.notice (hnew u hu)⟩
  | retry => exact ⟨hg, ha, by simp⟩
  | forward ht' =>
    refine ⟨hg.record ha, ?_, by simp⟩
    rcases ht' with rfl | rfl
    · trivial
    · exact Vouched.mono (by simp) ha
  | notify ht' =>
    refine ⟨hg.record ha, ?_, by simp⟩
    rcases ht' with rfl | rfl <;> trivial
  | toProcess => exact ⟨hg, ⟨by simp, by simp⟩, by simp⟩
  | wsUpdate =>
    exact ⟨hg.withSessions fun _ => serverID_identified _, ⟨by simp, by simp⟩, by simp⟩
  | opened hfresh _ _ => exact ⟨hg.withSessions fun _ => serverID_opened hfresh _, trivial, by simp⟩
  | removed _ =>
    exact ⟨(hg.withSessions fun _ => serverID_removed _).record trivial, trivial, by simp⟩
  -- a push renames the user of a connection but binds nothing
  | push => exact ⟨hg.withSessions fun _ => serverID_identified _, trivial, by simp⟩
  | relocated => exact ⟨hg.withSessions fun _ => serverID_relocated _, trivial, by simp⟩
  | enable _ | disable => exact ⟨⟨hg.bound, hg.handed⟩, trivial, by simp⟩
  | snapshot _ =>
    refine ⟨hg, trivial, fun u hu => ?_⟩
    obtain ⟨c, -, rfl⟩ := List.mem_map.mp hu
    trivial
  | _ => exact ⟨hg, trivial, by simp⟩

end

/-! ## Steps -/

theorem assured_of_entry (ht : t.entry = true) : Assured h t := by
  cases t <;> trivial

end

/-! ## Runs -/

theorem gated_of_run {cfg : Config} {as : List (Action Task Choice)} {w : World Gateway Task}
    (hrun : (gateway cfg).run initWorld as = some w) :
    Gated w.shared.view ∧ ∀ t ∈ w.threads, Assured w.shared.history t := by
  refine Program.run_local (S := fun g => Gated g.view) (L := fun g t => Assured g.history t)
    (G := fun _ _ => True) ?_ ?_ ?_ (Transition.guarded_of_forall_mem fun _ _ _ => trivial) hrun
  · intro w t g hw _ hs
    obtain ⟨rfl, ht⟩ := entry_of_startTask hs
    exact ⟨⟨hw.1, assured_of_entry ht⟩, fun _ hu => hu⟩
  · intro w i x t g t' new hw _ ht hs
    -- other tasks only know of past events, and the history only grows
    have hstep := taskStep_of_stepTask hs
    have ha := hw.2 t (List.mem_of_getElem? ht)
    exact ⟨hstep.gated hw.1 ha, fun u hu => hu.mono hstep.history_suffix⟩
  · refine ⟨⟨fun c hc => absurd rfl hc, trivial⟩, ?_⟩
    intro t ht
    cases ht

/-- **Login gate.** Whenever a message is handed to the client of a logic server, by the pipeline or
in any other way, a login of the connection it belongs to was validated and then admitted before. -/
theorem handed_vouched {cfg : Config} {as : List (Action Task Choice)} {w : World Gateway Task}
    (hrun : (gateway cfg).run initWorld as = some w) {post past : List Event} {path : Path}
    {client : ℕ} {msg : StreamData}
    (hhanded : w.shared.history = post ++ .handed path client msg :: past) :
    ∃ req rest, (Event.admitted msg.sessionId req :: rest) <:+ past ∧
      Event.validated msg.sessionId req ∈ rest := by
  have hall : Each HandedVouched w.shared.history := (gated_of_run hrun).1.handed
  rw [hhanded] at hall
  exact hall.at

/-- A client logs in and sends a business message, which is handed over. -/
def loginThenSend : List (Action Task Choice) :=
  starts (.onOpen "c" "t" "10.0.0.1:5000") 0 1 ++ starts (.setClient "s" 1) 1 1 ++
  starts (.setConnected 1 true) 2 1 ++ starts (.frame false "c" (loginFrame 0)) 3 11 ++
  starts (.frame false "c" [0x08, 0x05]) 5 9

theorem history_loginThenSend :
    ((gateway (sampleConfig [⟨"u", "k", "s"⟩] none)).run initWorld loginThenSend).map
        (·.shared.history) =
      some [.handed .pipeline 1 { sessionId := "c", userKey := "s:u", cmd := 5 },
        .completed "c" ⟨"u", "k", "s"⟩ (some "c"), .loginAck "c" 0 "ok" "s",
        .admitted "c" ⟨"u", "k", "s"⟩, .validated "c" ⟨"u", "k", "s"⟩] := by
  decide +kernel

/-- The business message is handed over behind the login of its connection. -/
theorem handed_vouched_loginThenSend :
    ∃ w past, (gateway (sampleConfig [⟨"u", "k", "s"⟩] none)).run initWorld loginThenSend = some w ∧
      w.shared.history =
        [] ++ .handed .pipeline 1 { sessionId := "c", userKey := "s:u", cmd := 5 } :: past ∧
      ∃ req rest, (Event.admitted "c" req :: rest) <:+ past ∧ Event.validated "c" req ∈ rest := by
  obtain ⟨w, hrun, hhistory⟩ := Option.map_eq_some_iff.mp history_loginThenSend
  have hhanded : w.shared.history =
      [] ++ .handed .pipeline 1 { sessionId := "c", userKey := "s:u", cmd := 5 } :: _ := hhistory
  have hvouched := handed_vouched hrun hhanded
  exact ⟨w, _, hrun, hhanded, hvouched⟩

end Sgate.Gateway
