import Sgate.Gateway.FastPath

/-! # Degraded routes

While the rule of a route is degraded and cooling down, its fallback replaces the payload of messages.
The message goes on to the logic server; the client is only written to when a call ends with an
error. -/

namespace Sgate.Pipeline

open Routes Filters Traffic EarlyExit Transition MessagePipeline Stage

variable {σ γ : Type} {env : Env} {connectionID : String} {data : Bytes} {message : StreamData}
  {g g' g₁ : MessagePipeline σ γ} {c : Client} {client : Option ℕ} {msg : StreamData}

/-! ## A message on its way -/

/-- The stages before the message is sent: the client of the logic server, and what it is to get. -/
def prepare (env : Env) (connectionID : String) (data : Bytes) (message : StreamData) :
    PipelineStage σ γ (Option ℕ × StreamData) := do
  let (c, client) ← authorize env connectionID message
  let msg ← buildMessage env connectionID data message c
  return (client, msg)

section

variable (h : prepare env connectionID data message g = (.ok (client, msg), g'))
include h

theorem prepare_eq_ok :
    ∃ c g₁, authorize env connectionID message g = (.ok (c, client), g₁) ∧
      buildMessage env connectionID data message c g₁ = (.ok msg, g') := by
  obtain ⟨⟨c, client'⟩, g₁, hauth, h⟩ := bind_eq_ok.mp h
  obtain ⟨msg', g₂, hbuild, h⟩ := bind_eq_ok.mp h
  obtain ⟨hpair, rfl⟩ := Prod.mk.inj h
  cases hpair
  exact ⟨c, g₁, hauth, hbuild⟩

theorem process_of_prepared :
    process env connectionID data message g =
      (forwardResult env client msg, forwarded env message client msg g') := by
  obtain ⟨c, g₁, hauth, hbuild⟩ := prepare_eq_ok h
  exact process_of_built hauth hbuild

end

variable {r : PipelineResult}

theorem sent_of_unauthorized (h : authorize env connectionID message g = (.error r, g₁)) :
    g₁.sent = g.sent := by
  by_cases hcmd : message.cmd = 0
  · unfold authorize at h
    rcases hover : checkOverload g with ⟨r' | ⟨⟩, g₂⟩
    · rw [bind_of_error hover] at h
      cases h
      obtain ⟨o, -, -, -, hsent⟩ := tallies_checkOverload.ends hover
      exact hsent
    · have hmissing : checkCommand message g₂ =
          (.error { action := .none, error := some errPipelineMissingCmd }, g₂) := if_pos hcmd
      rw [bind_of_ok hover, bind_of_error hmissing] at h
      cases h
      exact (tallies_checkOverload.goes hover).2
  · obtain ⟨o, -, -, -, hsent⟩ := (tallies_authorize env connectionID hcmd).ends h
    exact hsent

theorem sent_of_authorized (h : authorize env connectionID message g = (.ok (c, client), g₁)) :
    g₁.sent = g.sent :=
  ((tallies_authorize env connectionID (authorize_eq_ok h).1).goes h).2

theorem sent_of_refused (h : prepare env connectionID data message g = (.error r, g')) :
    (process env connectionID data message g).2.sent = g.sent := by
  unfold prepare at h
  rcases hauth : authorize env connectionID message g with ⟨r' | ⟨c, client⟩, g₁⟩
  · rw [process_of_unauthorized data hauth]
    exact sent_of_unauthorized hauth
  · rw [bind_of_ok hauth] at h
    rcases hbuild : buildMessage env connectionID data message c g₁ with ⟨r' | msg, g₂⟩
    · obtain ⟨o, -, -, -, hsent⟩ := (tallies_buildMessage env connectionID data message c).ends hbuild
      rw [process_of_refused hauth hbuild]
      exact hsent.trans (sent_of_authorized hauth)
    · exact absurd ((bind_of_ok hbuild).symm.trans h) (by simp [pure_apply])

/-- What a call hands to a logic client. -/
def handed (env : Env) (connectionID : String) (data : Bytes) (message : StreamData)
    (g : MessagePipeline σ γ) : Option (ℕ × StreamData) :=
  match (prepare env connectionID data message g).1 with
  | .ok (client, msg) => client.map fun k => (k, msg)
  | .error _ => none

theorem handed_eq_none_iff : handed env connectionID data message g = none ↔
    (∃ r, (prepare env connectionID data message g).1 = .error r) ∨
      ∃ msg, (prepare env connectionID data message g).1 = .ok (none, msg) := by
  unfold handed
  rcases (prepare env connectionID data message g).1 with r | ⟨client, msg⟩
  · simp
  · cases client <;> simp

theorem sent_process (env : Env) (connectionID : String) (data : Bytes) (message : StreamData)
    (g : MessagePipeline σ γ) : (process env connectionID data message g).2.sent =
      (handed env connectionID data message g).toList ++ g.sent := by
  unfold handed
  rcases h : prepare env connectionID data message g with ⟨r | ⟨client, msg⟩, g'⟩
  · exact sent_of_refused h
  · obtain ⟨c, g₁, hauth, hbuild⟩ := prepare_eq_ok h
    rw [process_of_prepared h, sent_forwarded,
      ((tallies_buildMessage env connectionID data message c).goes hbuild).2, sent_of_authorized hauth]

/-! ## The fallback of a route -/

/-- The fallback of a route, while its rule is degraded and cooling down. -/
def fallbackFor (degradation : Option DegradationManager) (route : String) (now : ℤ) : Option Bytes :=
  degradation.bind fun m =>
    if m.degrades route now then (m.rules route).map fun r => r.fallbackData else none

/-! ## What the client gets -/

structure MessageFrame where
  cmd : Int
  seqId : Int
  body : Bytes
  deriving DecidableEq

def cmdError : Int := 3

/-- `NewErrorFrame` for an error of the pipeline; `marshal` is the encoding of the `ErrorResponse`. -/
def newErrorFrame (marshal : String → Bytes) (err : String) : MessageFrame where
  cmd := cmdError
  seqId := 0
  body := marshal err

/-- What the callers of `Process` write to the client, on the event loop or in a worker. -/
def writeResult (marshal : String → Bytes) (r : PipelineResult) : List MessageFrame :=
  (r.error.map (newErrorFrame marshal)).toList

structure Exchange where
  /-- The fallback of the route, while it was degraded and cooling down. -/
  fallback : Option Bytes
  /-- What was given to a logic client. -/
  handed : List (ℕ × StreamData)
  written : List MessageFrame

/-- Nothing went to a logic client while the route was degraded. -/
def Exchange.Held (e : Exchange) : Prop := e.fallback.isSome = true → e.handed = []

/-- While the route was degraded, nothing went to a logic client and the client got the fallback. -/
def Exchange.Answered (e : Exchange) : Prop :=
  ∀ fallback, e.fallback = some fallback →
    e.handed = [] ∧ ∃ frame ∈ e.written, frame.cmd ≠ cmdError ∧ frame.body = fallback

/-- The gateway with what happened so far, newest first. -/
structure Service (σ γ : Type) where
  gateway : MessagePipeline σ γ
  exchanges : List Exchange

/-- A message of a client, or any other change of the gateway. -/
inductive ServiceAction (σ γ : Type)
  | message (env : Env) (marshal : String → Bytes) (connectionID : String) (data : Bytes)
    (message : StreamData)
  | change (g : MessagePipeline σ γ)

def ServiceAction.fallback (a : ServiceAction σ γ) (g : MessagePipeline σ γ) : Option Bytes :=
  match a with
  | .message env _ _ _ message =>
    fallbackFor g.degradation (routeKeyFor message.cmd) (env.now .filters)
  | .change _ => none

/-- The message is refused by one of the stages before it is sent, or its connection has no logic
client. -/
def ServiceAction.Refused (a : ServiceAction σ γ) (g : MessagePipeline σ γ) : Prop :=
  match a with
  | .message env _ connectionID data message =>
    (∃ r, (prepare env connectionID data message g).1 = .error r) ∨
      ∃ msg, (prepare env connectionID data message g).1 = .ok (none, msg)
  | .change _ => True

def exchange (env : Env) (marshal : String → Bytes) (connectionID : String) (data : Bytes)
    (message : StreamData) (g : MessagePipeline σ γ) : Exchange :=
  let r := process env connectionID data message g
  { fallback := fallbackFor g.degradation (routeKeyFor message.cmd) (env.now .filters)
    handed := r.2.sent.take (r.2.sent.length - g.sent.length)
    written := writeResult marshal r.1 }

def stepService (w : Service σ γ) : ServiceAction σ γ → Option (Service σ γ)
  | .message env marshal connectionID data message =>
    some ⟨(process env connectionID data message w.gateway).2,
      exchange env marshal connectionID data message w.gateway :: w.exchanges⟩
  | .change g => some { w with gateway := g }

theorem handed_exchange (env : Env) (marshal : String → Bytes) (connectionID : String) (data : Bytes)
    (message : StreamData) (g : MessagePipeline σ γ) :
    (exchange env marshal connectionID data message g).handed =
      (handed env connectionID data message g).toList := by
  show List.take _ _ = _
  rw [sent_process, List.length_append, Nat.add_sub_cancel, List.take_left]

theorem cmd_of_mem_written {marshal : String → Bytes} {frame : MessageFrame}
    (h : frame ∈ (exchange env marshal connectionID data message g).written) :
    frame.cmd = cmdError := by
  obtain ⟨err, -, rfl⟩ := by simpa [exchange, writeResult] using h
  rfl

/-- A property of single exchanges holds throughout a run exactly if each message meets the guard that
says so in advance. -/
theorem throughout_exchanges_iff {P : Exchange → Prop} {G : Service σ γ → ServiceAction σ γ → Prop}
    (hmessage : ∀ w env marshal connectionID data message,
      G w (.message env marshal connectionID data message) ↔
        P (exchange env marshal connectionID data message w.gateway))
    (hchange : ∀ w g, G w (.change g)) (g : MessagePipeline σ γ) (as : List (ServiceAction σ γ)) :
    Throughout stepService (fun w => ∀ e ∈ w.exchanges, P e) ⟨g, []⟩ as ↔
      Guarded stepService G ⟨g, []⟩ as := by
  refine throughout_iff_guarded (fun _ h => h) ?_ ?_ (fun e he => absurd he List.not_mem_nil)
  · intro w a w' hw hguard hs
    cases a with
    | message env marshal connectionID data message =>
      cases hs
      intro e he
      rcases List.mem_cons.mp he with rfl | he
      · exact (hmessage ..).mp hguard
      · exact hw e he
    | change g' =>
      cases hs
      exact hw
  · intro w a hw hguard
    cases a with
    | message env marshal connectionID data message =>
      exact ⟨_, rfl, fun hall => hguard ((hmessage ..).mpr (hall _ List.mem_cons_self))⟩
    | change g' => exact absurd (hchange w g') hguard

/-- **Degraded routes.** Clients of degraded routes get the fallback throughout a run exactly if no
message of a route arrives while it is degraded and cooling down. Nothing of a degraded route goes to a
logic client throughout a run exactly if each of its messages is refused before it is sent, or its
connection has no logic client. -/
theorem degraded_answered_iff (g : MessagePipeline σ γ) (as : List (ServiceAction σ γ)) :
    (Throughout stepService (fun w => ∀ e ∈ w.exchanges, e.Answered) ⟨g, []⟩ as ↔
      Guarded stepService (fun w a => a.fallback w.gateway = none) ⟨g, []⟩ as) ∧
    (Throughout stepService (fun w => ∀ e ∈ w.exchanges, e.Held) ⟨g, []⟩ as ↔
      Guarded stepService (fun w a => (a.fallback w.gateway).isSome = true →
        a.Refused w.gateway) ⟨g, []⟩ as) := by
  constructor
  · refine throughout_exchanges_iff ?_ (fun _ _ => rfl) g as
    intro w env marshal connectionID data message
    constructor
    · intro hnone fallback hfallback
      cases hnone.symm.trans hfallback
    · intro hanswered
      -- the client could get the fallback in a frame that is no error, but there is none
      by_contra hdegraded
      obtain ⟨fallback, hfallback⟩ := Option.ne_none_iff_exists'.mp hdegraded
      obtain ⟨-, frame, hframe, hcmd, -⟩ := hanswered fallback hfallback
      exact hcmd (cmd_of_mem_written hframe)
  · refine throughout_exchanges_iff ?_ (fun _ _ _ => trivial) g as
    intro w env marshal connectionID data message
    show _ ↔ (_ → _)
    rw [handed_exchange, Option.toList_eq_nil_iff, handed_eq_none_iff]
    rfl

/-- A gateway that degrades the route of command 5 after one error, for a minute. -/
def degradingGateway (fallback : Bytes) : MessagePipeline Unit Unit :=
  { plainGateway sampleClient with
    filterChain := some (FilterChain.load .empty [.addFilter (degradationFilter Unit)])
    degradation := some
      { rules := KeyMap.empty.store "5"
          { route := "5", errorThreshold := 1, windowSize := 1, recentErrors := [false], pos := 0
            count := 0, errorCount := 0, fallbackData := fallback, degraded := false
            coolDown := 60 * Security.second, lastDegrade := 0, windowSize_pos := Nat.one_pos
            length_recentErrors := rfl }
        enabled := true
        triggeredCount := 0 } }

/-- A message that cannot be sent, and one that could be. -/
def failingFirst : List (ServiceAction Unit Unit) :=
  [.message { sampleEnv 0 with sendMessage := fun _ _ => some "down" } (fun _ => []) "conn_1" [7]
      (sampleMessage 5 [7]),
    .message (sampleEnv 1) (fun _ => []) "conn_1" [7] (sampleMessage 5 [7])]

/-- Fallback, payloads handed over, and number of frames written. -/
def Exchange.summary (e : Exchange) : Option Bytes × List Bytes × ℕ :=
  (e.fallback, e.handed.map (·.2.data), e.written.length)

/-- The second message goes to the logic server, with the fallback as a request or, if the fallback is
empty, as it is; the client gets nothing. -/
theorem fallback_sent :
    (run stepService ⟨degradingGateway [9], []⟩ failingFirst).map (·.exchanges.map Exchange.summary) =
      some [(some [9], [[9]], 0), (none, [[7]], 1)] ∧
    (run stepService ⟨degradingGateway [], []⟩ failingFirst).map (·.exchanges.map Exchange.summary) =
      some [(some [], [[7]], 0), (none, [[7]], 1)] :=
  ⟨by decide +kernel, by decide +kernel⟩

end Sgate.Pipeline
