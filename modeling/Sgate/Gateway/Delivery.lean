import Sgate.Gateway.DuplicateLogin
import Sgate.Gateway.Objects

/-! # Close decisions and the four routes

`Process` ends with an action for the connection and possibly an error. The TCP and WebSocket handlers,
in the event loop or in a worker, act on it. The WebSocket handler without a pool looks at the error
only. -/

namespace Sgate.Gateway

open Interleaving Routes

/-! ## The callers of the pipeline -/

/-- The WebSocket a handler answers on. -/
structure Link where
  wsOpen : Bool
  /-- The write succeeds. -/
  written : Bool
  deriving DecidableEq

/-- `sendWebSocketMessage` returns no error. -/
def Link.sendWebSocketMessage (l : Link) : Bool := l.wsOpen && l.written

/-- The end of `handleTCPRequest`: whether there is an error or not, the action is returned, and the
event loop performs it. -/
def handleTCPRequest (result : PipelineResult) : ConnAction := result.action

/-- `applyAsyncResult`, with which a worker ends a TCP and a WebSocket task. -/
def applyAsyncResult (result : PipelineResult) : ConnAction :=
  if result.action ≠ .close then .none else .close

/-- The end of `handleWebSocketDataFrame`: the error is sent. If that fails, `handleWebSocketMessage`
closes the connection. -/
def handleWebSocketDataFrame (l : Link) (result : PipelineResult) : ConnAction :=
  match result.error with
  | some _ => if l.sendWebSocketMessage then .none else .close
  | none => .none

/-- What the caller does with the connection, with or without a worker pool. -/
def handleResult (pool ws : Bool) (l : Link) (result : PipelineResult) : ConnAction :=
  if pool then applyAsyncResult result
  else if ws then handleWebSocketDataFrame l result
  else handleTCPRequest result

/-- A result of the pipeline and what its caller did. -/
structure Handled where
  conn : String
  result : PipelineResult
  done : ConnAction
  deriving DecidableEq

/-- The gateway, and the results that were handled, newest first. -/
structure Delivery where
  gateway : Gateway
  handled : List Handled

/-- A goroutine, and whether it serves a WebSocket frame. -/
structure Job where
  ws : Bool
  task : Task

namespace Delivery

variable (cfg : Config) (pool : Bool)

/-- The end of a step: the result of the pipeline is handled by its caller at once. -/
def deliver (s : Delivery) (j : Job) (l : Link) (g : Gateway) : Task → Delivery
  | .processed result =>
    match j.task with
    | .process c _ _ =>
      let done := handleResult pool j.ws l result
      ⟨if done = .close then g.tellToClose c else g, ⟨c, result, done⟩ :: s.handled⟩
    | _ => { s with gateway := g }
  | _ => { s with gateway := g }

/-- A frame is served by the handler of its transport. -/
def startJob (s : Delivery) (j : Job) : Option Delivery :=
  match j.task with
  | .frame ws c data =>
    if j.ws = ws then (startTask s.gateway (.frame ws c data)).map fun g => { s with gateway := g }
    else none
  | t => (startTask s.gateway t).map fun g => { s with gateway := g }

def stepJob (s : Delivery) (j : Job) (x : Choice × Link) : Option (Delivery × Job × List Job) :=
  match stepTask cfg s.gateway j.task x.1 with
  | none => none
  | some (g, t, new) => some (deliver pool s j x.2 g t, ⟨j.ws, t⟩, new.map (Job.mk false))

/-- The gateway with the callers of its pipeline. -/
def delivery : Program Delivery Job (Choice × Link) where
  start := startJob
  step := stepJob cfg pool

def initDelivery : World Delivery Job := ⟨⟨.new, []⟩, []⟩

/-- Every close decision was enforced by the caller, and the connection was told to close. -/
def Enforced (w : World Delivery Job) : Prop :=
  ∀ h ∈ w.shared.handled, h.result.action = .close →
    h.done = .close ∧ h.conn ∈ w.shared.gateway.closing

/-! ## The exits that close -/

/-- The error with which `Process` closes the connection in this step, if it does: the connection is
not registered, it is not bound or not authenticated after its grace period, or the security stage
drops the message, which is the WAF. -/
def closingExit (g : Gateway) (c : String) (m : StreamData) :
    ProcessPc → Choice → Option (Option PipelineErr)
  | .getConnection, _ =>
    match g.connectionManager.getConnection c with
    | none => some (some .noConn)
    | some _ => none
  | .bound, x =>
    match g.connectionManager.objects c with
    | none => none
    | some conn =>
      if conn.serverID = "" ∧ cfg.isPreAuthCommand m.cmd = false ∧ x = .refuse then
        some (some .unbound)
      else none
  | .authenticated, x =>
    match g.connectionManager.objects c with
    | none => none
    | some conn =>
      if conn.isAuthenticated = false ∧ cfg.isPreAuthCommand m.cmd = false ∧ x = .refuse then
        some (some .unauthed)
      else none
  | .security _, x =>
    match g.connectionManager.objects c with
    | none => none
    | some conn =>
      if cfg.whitelistBlacklist.isNone ∧ cfg.restDisabled ∨ cfg.blocks conn.remoteHostOf then none
      else
        match cfg.verdict x with
        | .drop ⟨.close, error⟩ => some error
        | _ => none
  | _, _ => none

/-- Called directly for a WebSocket frame, `Process` closes only with an error that cannot be sent. -/
def ClosesUnanswered (w : World Delivery Job) : Action Job (Choice × Link) → Prop
  | .start _ => True
  | .step i (x, l) => pool = false → ∀ c m pc, w.threads[i]? = some ⟨true, .process c m pc⟩ →
      ∀ error, closingExit cfg w.shared.gateway c m pc x = some error →
        error.isSome = true ∧ l.sendWebSocketMessage = false

section

variable {cfg : Config} {pool ws : Bool} {g g' : Gateway} {c : String} {m : StreamData}
  {pc : ProcessPc} {x : Choice} {l : Link} {result : PipelineResult}

theorem notAllowed_eq (error : PipelineErr) :
    notAllowed g error x =
      (g, .processed (if x = .refuse then ⟨.close, some error⟩ else ⟨.none, none⟩), []) := by
  cases x <;> rfl

variable {error : Option PipelineErr}

attribute [local simp] endProcess processMessage

/-- **The exits that close.** A step of `Process` ends it with a close decision exactly in the states
that `closingExit` lists. -/
theorem closingExit_iff :
    closingExit cfg g c m pc x = some error ↔
      ∃ g' new, processMessage cfg g c m pc x = some (g', .processed ⟨.close, error⟩, new) := by
  cases pc with
  | overload => cases x <;> simp only [closingExit, processMessage] <;> (try split) <;> simp
  | getConnection =>
    simp only [closingExit, processMessage]
    cases g.connectionManager.getConnection c with
    | none | some conn => simp
  | bound =>
    simp only [closingExit, processMessage]
    cases g.connectionManager.objects c with
    | none => simp
    | some conn =>
      by_cases hbound : conn.serverID = ""
      · by_cases hpre : cfg.isPreAuthCommand m.cmd = true
        · simp [hbound, hpre]
        · by_cases hx : x = .refuse <;> simp [hbound, hpre, hx, notAllowed_eq]
      · simp [hbound]
  | authenticated =>
    simp only [closingExit, processMessage]
    cases g.connectionManager.objects c with
    | none => simp
    | some conn =>
      dsimp only
      by_cases hauth : conn.isAuthenticated = true ∨ cfg.isPreAuthCommand m.cmd = true
      · rw [if_pos hauth]
        rcases hauth with h | h <;> simp [h]
      · rw [if_neg hauth, notAllowed_eq]
        rw [not_or, Bool.not_eq_true, Bool.not_eq_true] at hauth
        by_cases hx : x = .refuse <;> simp [hauth, hx]
  | msgRate => cases x <;> simp [closingExit]
  | logicClient =>
    -- with a client or without, the connection stays open
    refine ⟨fun h => (by cases h), ?_⟩
    rintro ⟨g', new, h⟩
    cases hconn : g.connectionManager.objects c with
    | none => simp [hconn] at h
    | some conn =>
      obtain ⟨-, ⟨heq, -⟩ | heq⟩ | ⟨_, -, heq, -⟩ | ⟨_, heq, -⟩ := logicClient_cases h hconn <;>
        cases heq
  | security client =>
    simp only [closingExit, processMessage]
    cases g.connectionManager.objects c with
    | none => simp
    | some conn =>
      dsimp only
      by_cases hfast : cfg.whitelistBlacklist.isNone ∧ cfg.restDisabled
      · simp [hfast]
      by_cases hblocks : cfg.blocks conn.remoteHostOf = true
      · rw [if_pos (.inr hblocks), if_neg hfast, if_pos hblocks]
        simp
      · rw [if_neg (not_or_intro hfast hblocks), if_neg hfast, if_neg hblocks]
        cases cfg.verdict x with
        | drop result =>
          obtain ⟨action, error'⟩ := result
          cases action <;> simp
        | _ => simp
  | build client ip =>
    simp only [closingExit, processMessage]
    cases g.connectionManager.objects c <;> simp
  | send client out => cases client <;> simp [closingExit]

/-- **What the callers make of a close decision.** -/
theorem handleResult_eq_close_iff :
    handleResult pool ws l ⟨.close, error⟩ = .close ↔
      (pool = false → ws = true → error.isSome = true ∧ l.sendWebSocketMessage = false) := by
  cases pool with
  | true => simp [handleResult, applyAsyncResult]
  | false =>
    cases ws with
    | false => simp [handleResult, handleTCPRequest]
    | true =>
      cases error with
      | none | some err => simp [handleResult, handleWebSocketDataFrame]

end

/-! ## Steps and runs -/

section

variable {cfg : Config} {pool : Bool} {s s' : Delivery} {j j' : Job} {new : List Job}
  {x : Choice × Link} {w w' : World Delivery Job} {a : Action Job (Choice × Link)}
  {as : List (Action Job (Choice × Link))}

theorem stepJob_cases (h : stepJob cfg pool s j x = some (s', j', new)) :
    s.gateway.closing ⊆ s'.gateway.closing ∧
    (s'.handled = s.handled ∨ ∃ c m pc g' result new', j.task = .process c m pc ∧
        processMessage cfg s.gateway c m pc x.1 = some (g', .processed result, new') ∧
        s'.handled = ⟨c, result, handleResult pool j.ws x.2 result⟩ :: s.handled ∧
        (handleResult pool j.ws x.2 result = .close → c ∈ s'.gateway.closing)) := by
  unfold stepJob at h
  split at h
  · cases h
  rename_i g t new' hstep
  cases h
  have hclosing : s.gateway.closing ⊆ g.closing := (taskStep_of_stepTask hstep).closing_subset
  unfold deliver
  split
  · rename_i result
    split
    · rename_i c m pc htask
      rw [htask] at hstep
      refine ⟨?_, .inr ⟨c, m, pc, g, result, new', htask, hstep, rfl, fun hclose => ?_⟩⟩
      · dsimp only
        split
        · exact List.subset_cons_of_subset c hclosing
        · exact hclosing
      · dsimp only
        rw [if_pos hclose]
        exact List.mem_cons_self
    · exact ⟨hclosing, .inl rfl⟩
  · exact ⟨hclosing, .inl rfl⟩

theorem startJob_eq (h : s.startJob j = some s') : s' = s := by
  unfold startJob at h
  split at h
  · split at h
    · obtain ⟨g, hg, rfl⟩ := Option.map_eq_some_iff.mp h
      rw [(entry_of_startTask hg).1]
    · cases h
  · obtain ⟨g, hg, rfl⟩ := Option.map_eq_some_iff.mp h
    rw [(entry_of_startTask hg).1]

theorem enforced_of_exec (hw : Enforced w) (hg : ClosesUnanswered cfg pool w a)
    (h : (delivery cfg pool).exec w a = some w') : Enforced w' := by
  obtain ⟨j, s', rfl, hs, rfl⟩ | ⟨i, ⟨x, l⟩, ⟨ws, t⟩, s', j', new, rfl, hj, hs, rfl⟩ :=
    Program.exec_cases h
  · obtain rfl := startJob_eq hs
    exact hw
  obtain ⟨hclosing, hsame | ⟨c, m, pc, g', ⟨action, error⟩, new', rfl, hstep, hhandled, htold⟩⟩ :=
    stepJob_cases hs
  · intro r hr hclose
    rw [hsame] at hr
    obtain ⟨hdone, hmem⟩ := hw r hr hclose
    exact ⟨hdone, hclosing hmem⟩
  · intro r hr hclose
    rw [hhandled] at hr
    rcases List.mem_cons.mp hr with rfl | hr
    · obtain rfl : action = .close := hclose
      have hdone : handleResult pool ws l ⟨.close, error⟩ = .close := by
        rw [handleResult_eq_close_iff]
        rintro hpool rfl
        exact hg hpool c m pc hj error (closingExit_iff.mpr ⟨g', new', hstep⟩)
      exact ⟨hdone, htold hdone⟩
    · obtain ⟨hdone, hmem⟩ := hw r hr hclose
      exact ⟨hdone, hclosing hmem⟩

theorem not_enforced_of_exec (hg : ¬ ClosesUnanswered cfg pool w a) :
    ∃ w', (delivery cfg pool).exec w a = some w' ∧ ¬ Enforced w' := by
  cases a with
  | start j => exact absurd trivial hg
  | step i x =>
    obtain ⟨x, l⟩ := x
    simp only [ClosesUnanswered, not_forall] at hg
    obtain ⟨hpool, c, m, pc, hj, error, hexit, hsent⟩ := hg
    obtain ⟨g', new, hstep⟩ := closingExit_iff.mp hexit
    have hstep : stepTask cfg w.shared.gateway (.process c m pc) x =
      some (g', .processed ⟨.close, error⟩, new) := hstep
    have hexec : (delivery cfg pool).exec w (.step i (x, l)) = some
        ⟨deliver pool w.shared ⟨true, .process c m pc⟩ l g' (.processed ⟨.close, error⟩),
          w.threads.set i ⟨true, .processed ⟨.close, error⟩⟩ ++ new.map (Job.mk false)⟩ := by
      simp only [Program.exec, hj, delivery, stepJob, hstep, Option.map_some]
    refine ⟨_, hexec, fun henforced => hsent ?_⟩
    have hdone := (henforced ⟨c, ⟨.close, error⟩, handleResult pool true l ⟨.close, error⟩⟩
      List.mem_cons_self rfl).1
    exact handleResult_eq_close_iff.mp hdone hpool rfl

/-- **Close decisions.** In a run of the gateway, with or without a worker pool, every close decision
of the pipeline is enforced if and only if `Process`, wherever the WebSocket handler calls it
directly, takes a closing exit only with an error that cannot be sent. -/
theorem enforced_iff : (delivery cfg pool).Throughout Enforced initDelivery as ↔
    (delivery cfg pool).Guarded (ClosesUnanswered cfg pool) initDelivery as := by
  refine Transition.throughout_iff_guarded (J := Enforced) (fun w hw => hw) ?_ ?_
    (fun h hh => by cases hh)
  · intro w a w' hw hg h
    exact enforced_of_exec hw hg h
  · intro w a _ hg
    exact not_enforced_of_exec hg

end

/-! ## A client that never logs in -/

/-- A WebSocket client connects, sends a message of a logic server without a login, and its grace
period is over. -/
def lateClient : List (Action Job (Choice × Link)) :=
  [.start ⟨false, .onOpen "c" "t" "10.0.0.1:5000"⟩, .step 0 (.proceed, ⟨true, true⟩),
    .start ⟨true, .frame true "c" [0x08, 0x05]⟩, .step 1 (.proceed, ⟨true, true⟩),
    .step 1 (.proceed, ⟨true, true⟩), .step 1 (.proceed, ⟨true, true⟩),
    .step 1 (.refuse, ⟨true, true⟩)]

/-- **A close decision without effect.** The pipeline decides to close the connection, and the
handler answers with an error frame and keeps it. -/
theorem lateClient_stays : ¬ (delivery (sampleConfig [] none) false).Throughout Enforced initDelivery
    lateClient := by
  obtain ⟨w, hrun, hhandled⟩ : ∃ w, (delivery (sampleConfig [] none) false).run initDelivery
      lateClient = some w ∧ ⟨"c", ⟨.close, some .unbound⟩, .none⟩ ∈ w.shared.handled :=
    Transition.exists_end (by decide +kernel)
  intro h
  have hlast := h.finish hrun _ hhandled rfl
  exact absurd hlast.1 (by decide)

end Delivery

end Sgate.Gateway
