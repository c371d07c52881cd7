import Sgate.Gateway.CachedClient
import Sgate.Gateway.EventLoop
import Sgate.Lib.History

/-! # Frames after a logout

A logout leaves the connection registered until its socket is closed, and the frame loop goes on. An
offline notice is sent by a goroutine of its own while passes through the pipeline may be under way. -/

namespace Sgate.Gateway

open Routes Interleaving List

/-! ## Silence -/

/-- Nothing but offline notices comes from frames that were taken after a logout. -/
def SilentAfterLogout (handed : List Handover) : Prop :=
  ∀ h ∈ handed, h.late = true → h.path = .offline
  deriving Decidable

def wentOffline (handed : List Handover) (c : String) : Bool :=
  handed.any fun h => h.path = .offline ∧ h.accepted ∧ h.msg.sessionId = c

/-- A business message that is accepted comes before the offline notice of its session. -/
def SilentAfterOffline (past : List Handover) (h : Handover) : Prop :=
  h.path = .pipeline → h.accepted = true → wentOffline past h.msg.sessionId = false
  deriving Decidable

/-- The session whose offline notice the task sends in its next step. -/
def Task.sendsOffline : Task → Option String
  | .notifyOffline _ _ m => some m.sessionId
  | _ => none

/-- The actor takes no frame between a logout and the removal of the connection. -/
def TakesInTime (l : EventLoop) (f : Front) (a : Actor) : Prop :=
  ∀ c ∈ a.takes l, c ∈ f.ended → c ∉ f.gateway.connectionManager.connections
  deriving Decidable

/-- No pass through the pipeline is under way when the task sends the offline notice of its session. -/
def NotifiesInTime (w : World Front Actor) (t : Task) : Prop :=
  ∀ c ∈ t.sendsOffline, ∀ b ∈ w.threads, ∀ q ∈ b.running, q.2.underWay ≠ some c
  deriving Decidable

/-- No pass through the pipeline finds its connection after the offline notice was accepted. -/
def LooksUpInTime (f : Front) (t : Task) : Prop :=
  ∀ c ∈ t.looksUp, wentOffline f.handed c = true → c ∉ f.gateway.connectionManager.connections
  deriving Decidable

/-- Frames are taken, connections looked up and notices sent in time. -/
def Orderly (l : EventLoop) : World Front Actor → Action Actor Input → Prop :=
  Program.ThreadGuard (fun _ _ => True) fun w a =>
    TakesInTime l w.shared a ∧ ∀ p ∈ a.running, NotifiesInTime w p.2 ∧ LooksUpInTime w.shared p.2

instance (l : EventLoop) (w : World Front Actor) (a : Action Actor Input) :
    Decidable (Orderly l w a) :=
  Program.decidableThreadGuard _ _ w a

/-! ## What a task hands over -/

/-- The connection was opened and is not registered any more. -/
def Gone (g : Gateway) (c : String) : Prop :=
  (g.connectionManager.objects c).isSome ∧ c ∉ g.connectionManager.connections

/-- The task comes from a frame of a connection that is gone: it will not get to a logic client. -/
def Barred (g : Gateway) : Task → Prop
  | .frame _ c _ | .handleLogin _ c _ | .login c _ _ _ | .wsUpdate c _ => Gone g c
  | .process c _ pc => Gone g c ∧ pc.entered = false
  | .forwardLogin _ _ _ => False
  | _ => True

/-- A message that `Process` is about to send is a message of its connection. -/
def Addressed : Task → Prop
  | .process c _ (.send _ out) => out.sessionId = c
  | _ => True

section Tasks

variable {cfg : Config} {g g' : Gateway} {t t' u : Task} {new : List Task} {c : String}
  {choice : Choice} {m : StreamData}

theorem Gone.step (h : stepTask cfg g t choice = some (g', t', new)) (hc : Gone g c) : Gone g' c := by
  have hsome (g : Gateway) : (g.view.sessions.userUUID c).isSome =
      (g.connectionManager.objects c).isSome := by
    simp [view, ConnectionManager.sessions, Sessions.userUUID]
  have hretired : IsRetired g.view.sessions c := ⟨by rw [hsome]; exact hc.1, hc.2⟩
  have hkept := ((taskStep_of_stepTask h).users.isRetired_iff).mpr (.inl hretired)
  exact ⟨opened_mono h hc.1, hkept.2⟩

theorem Barred.other (h : stepTask cfg g t choice = some (g', t', new)) (hu : Barred g u) :
    Barred g' u := by
  cases u with
  | frame | handleLogin | login | wsUpdate => exact hu.step h
  | process => exact ⟨hu.1.step h, hu.2⟩
  | forwardLogin => exact hu
  | _ => trivial

theorem getConnection_of_gone (hc : Gone g c) : g.connectionManager.getConnection c = none :=
  if_neg hc.2

theorem barred_of_finishLoginGate {r : LoginGateReq} {pc : LoginPc} (hc : Gone g c)
    (h : finishLoginGate cfg g c m r pc choice = (g', t', new)) (hu : u ∈ t' :: new) : Barred g u := by
  have hstep := loginStep_of_finishLoginGate h
  generalize g.view = v at hstep
  generalize g'.view = v' at hstep
  cases hstep with
  | invalid | marked =>
    obtain rfl := mem_singleton.mp hu
    trivial
  | closeOld _ hnew =>
    rcases mem_cons.mp hu with rfl | hu
    · exact hc
    · obtain ⟨client, msg, rfl, -⟩ := hnew u hu
      trivial
  | complete =>
    simp only [finishLoginGate, getConnection_of_gone hc] at h
    cases h
    obtain rfl := mem_singleton.mp hu
    trivial
  | _ =>
    obtain rfl := mem_singleton.mp hu
    exact hc

theorem barred_of_processMessage {pc : ProcessPc} (hc : Gone g c) (hpc : pc.entered = false)
    (h : stepTask cfg g (.process c m pc) choice = some (g', t', new)) (hu : u ∈ t' :: new) :
    Barred g u := by
  obtain ⟨hstep, rfl, -⟩ := pipelineStep_of_processMessage h
  obtain rfl := mem_singleton.mp hu
  have hnot : u.underWay ≠ some c := by
    intro hentered
    rcases underWay_of_stepTask h hentered with hbefore | ⟨-, hmem⟩
    · rw [Task.underWay, hpc] at hbefore
      cases hbefore
    · exact hc.2 hmem
  generalize g.view = v at hstep
  generalize g'.view = v' at hstep
  cases hstep with
  | quit | send => trivial
  | early => exact ⟨hc, Bool.eq_false_iff.mpr fun hentered => hnot (if_pos hentered)⟩
  | logicClient | fast | secure | build => cases hpc

variable {v v' : View}

theorem barred_of_taskStep (hs : TaskStep cfg v t v' t' new) (ht : Barred g t)
    (hlogin : ∀ c m r pc, t ≠ .login c m r pc) (hprocess : ∀ c m pc, t ≠ .process c m pc)
    (hu : u ∈ t' :: new) : Barred g u := by
  rcases mem_cons.mp hu with rfl | hu
  · cases hs with
    | login => exact (hlogin _ _ _ _ rfl).elim
    | process => exact (hprocess _ _ _ rfl).elim
    | retry | forward => exact absurd ht id
    | toLogin | started => exact ht
    | toProcess | wsUpdate => exact ⟨ht, rfl⟩
    | notify ht' => rcases ht' with rfl | rfl <;> trivial
    | _ => trivial
  · rcases hs.new_cases hu with ⟨d, client, msg, rfl, -⟩ | ⟨d, m, r, rfl, -⟩ | ⟨d, rfl⟩
    · trivial
    · exact (hlogin _ _ _ _ rfl).elim
    · trivial

/-- **Barred tasks stay barred**, with everything they start. -/
theorem Barred.step (h : stepTask cfg g t choice = some (g', t', new)) (ht : Barred g t)
    (hu : u ∈ t' :: new) : Barred g' u := by
  refine Barred.other h ?_
  cases t with
  | login d m r pc => exact barred_of_finishLoginGate ht (Option.some.inj h) hu
  | process d m pc => exact barred_of_processMessage ht.1 ht.2 h hu
  | _ => exact barred_of_taskStep (taskStep_of_stepTask h) ht (by simp) (by simp) hu

variable {late : Bool} {o : Handover}

theorem Barred.handover (ht : Barred g t) (ho : o ∈ handover g late t t') : o.path = .offline := by
  unfold Gateway.handover at ho
  split at ho
  · cases ht.2
  · exact absurd ht id
  · obtain rfl := mem_singleton.mp ho
    rfl
  · cases ho

theorem addressed_of_taskStep (hs : TaskStep cfg v t v' t' new) (hu : u ∈ t' :: new) :
    Addressed u := by
  rcases mem_cons.mp hu with rfl | hu
  · cases hs with
    | process hs =>
      cases hs with
      | @early pc pc' _ hchecked =>
        cases pc' with
        | send => cases hchecked
        | _ => trivial
      | fast _ hout | build hout => exact hout
      | _ => trivial
    | login hs => cases hs <;> trivial
    | forward ht' | notify ht' => rcases ht' with rfl | rfl <;> trivial
    | _ => trivial
  · exact (hs.forall_new (P := Addressed)) u hu

theorem handover_origin (ho : o ∈ handover g late t t') :
    (o.path = .pipeline → Addressed t → t.underWay = some o.msg.sessionId) ∧
      (o.path = .offline → t.sendsOffline = some o.msg.sessionId) := by
  unfold handover at ho
  split at ho
  · obtain rfl := mem_singleton.mp ho
    exact ⟨fun _ ht => congrArg some ht.symm, nofun⟩
  · split at ho
    · obtain rfl := mem_singleton.mp ho
      exact ⟨nofun, nofun⟩
    · cases ho
  · obtain rfl := mem_singleton.mp ho
    exact ⟨nofun, fun _ => rfl⟩
  · cases ho

theorem handover_cases (g : Gateway) (late : Bool) (t t' : Task) :
    handover g late t t' = [] ∨ ∃ o, handover g late t t' = [o] ∧ o.late = late := by
  unfold handover
  split
  · exact .inr ⟨_, rfl, rfl⟩
  · split
    · exact .inr ⟨_, rfl, rfl⟩
    · exact .inl rfl
  · exact .inr ⟨_, rfl, rfl⟩
  · exact .inl rfl

theorem wentOffline_handover {handed : List Handover}
    (h : wentOffline (handover g late t t' ++ handed) c = true) :
    wentOffline handed c = true ∨ t.sendsOffline = some c := by
  rw [wentOffline, any_append, Bool.or_eq_true] at h
  rcases h with h | h
  · obtain ⟨o, ho, hoffline⟩ := any_eq_true.mp h
    simp only [decide_eq_true_eq] at hoffline
    obtain ⟨hpath, -, rfl⟩ := hoffline
    exact .inr ((handover_origin ho).2 hpath)
  · exact .inl h

theorem sendsOffline_of_pass (h : t.underWay = some c ∨ t.looksUp = some c) :
    t.sendsOffline = none := by
  cases t with
  | notifyOffline => rcases h with h | h <;> cases h
  | _ => rfl

end Tasks

/-! ## The invariant -/

structure ActorOk (f : Front) (a : Actor) : Prop where
  barred : ∀ t, a.running = some (true, t) → Barred f.gateway t
  addressed : ∀ p ∈ a.running, Addressed p.2
  online : ∀ p ∈ a.running, ∀ c ∈ p.2.underWay, wentOffline f.handed c = false
  opened : ∀ c ∈ a.serves, (f.gateway.connectionManager.objects c).isSome

/-- **The invariant.** -/
structure Silenced (w : World Front Actor) : Prop where
  afterLogout : SilentAfterLogout w.shared.handed
  afterOffline : History.Each SilentAfterOffline w.shared.handed
  actors : ∀ a ∈ w.threads, ActorOk w.shared a

section Invariant

variable {l : EventLoop} {f f' : Front} {a a' : Actor} {new : List Actor} {w : World Front Actor}

theorem actorOk_of_harmless (hrunning : ∀ p ∈ a.running, p.1 = false ∧ Addressed p.2 ∧
      p.2.underWay = none)
    (hopened : ∀ c ∈ a.serves, (f.gateway.connectionManager.objects c).isSome) : ActorOk f a := by
  refine ⟨fun t ht => ?_, fun p hp => (hrunning p hp).2.1, fun p hp c hc => ?_, hopened⟩
  · cases (hrunning _ ht).1
  · rw [(hrunning p hp).2.2] at hc
    cases hc

variable {ts : List Task} {x : Choice} {t t' : Task}

theorem ActorOk.other (ha : ActorOk f a)
    (h : stepTask l.cfg f.gateway t x = some (f'.gateway, t', ts))
    (honline : ∀ p ∈ a.running, ∀ c ∈ p.2.underWay, wentOffline f'.handed c = false) :
    ActorOk f' a :=
  ⟨fun u hu => (ha.barred u hu).other h, ha.addressed, honline,
    fun c hc => opened_mono h (ha.opened c hc)⟩

variable {t : Task}

theorem harmless_of_entry (h : t.entry = true) : Addressed t ∧ t.underWay = none := by
  cases t with
  | process => cases h
  | _ => exact ⟨trivial, rfl⟩

theorem Silenced.start (hw : Silenced w) (h : startActor w.shared a = some f) :
    Silenced ⟨f, w.threads ++ [a]⟩ := by
  obtain ⟨rfl, hserves, hrunning⟩ := startActor_spec h
  refine ⟨hw.afterLogout, hw.afterOffline, fun b hb => ?_⟩
  rcases of_mem_snoc hb with hb | rfl
  · exact hw.actors b hb
  · refine actorOk_of_harmless (fun p hp => ?_) (by simp [hserves])
    obtain ⟨hlate, hentry⟩ := hrunning p hp
    exact ⟨hlate, harmless_of_entry hentry⟩

theorem ActorOk.taken {k k' : Socket} (ha : ActorOk f (.scanning k)) (hconn : k'.conn = k.conn)
    (htime : k.conn ∈ f.ended → k.conn ∉ f.gateway.connectionManager.connections)
    (ht : t.ServesFrame k.conn) : ActorOk f (.handling k' (k.conn ∈ f.ended) t) := by
  have hopened : (f.gateway.connectionManager.objects k.conn).isSome := ha.opened k.conn rfl
  refine ⟨fun u hu => ?_, fun p hp => ?_, fun p hp c hc => ?_, fun c hc => ?_⟩
  · simp only [Actor.running, Option.some.injEq, Prod.mk.injEq, decide_eq_true_eq] at hu
    obtain ⟨hended, rfl⟩ := hu
    rcases ht with ⟨ws, data, rfl⟩ | rfl
    · exact ⟨hopened, htime hended⟩
    · trivial
  · cases hp
    rcases ht with ⟨ws, data, rfl⟩ | rfl <;> trivial
  · cases hp
    rcases ht with ⟨ws, data, rfl⟩ | rfl <;> cases hc
  · cases hc
    rw [hconn]
    exact hopened

variable {late : Bool}

theorem Silenced.handed (hw : Silenced w) (ha : ActorOk w.shared a)
    (hrunning : a.running = some (late, t)) (t' : Task) :
    SilentAfterLogout (handover w.shared.gateway late t t' ++ w.shared.handed) ∧
      History.Each SilentAfterOffline (handover w.shared.gateway late t t' ++ w.shared.handed) := by
  rcases handover_cases w.shared.gateway late t t' with hnil | ⟨o, hone, hlate⟩
  · rw [hnil]
    exact ⟨hw.afterLogout, hw.afterOffline⟩
  · have ho : o ∈ handover w.shared.gateway late t t' := by rw [hone]; exact mem_singleton_self o
    rw [hone]
    refine ⟨fun h hh hl => ?_, fun hpath _ => ?_, hw.afterOffline⟩
    · rcases mem_cons.mp hh with rfl | hh
      · rw [hlate] at hl
        subst hl
        exact (ha.barred t hrunning).handover ho
      · exact hw.afterLogout h hh hl
    · exact ha.online (late, t) hrunning _
        ((handover_origin ho).1 hpath (ha.addressed (late, t) hrunning))

theorem opened_of_onOpen {g g' : Gateway} {t' : Task} {c tempUUID addr : String} (hx : x ≠ .refuse)
    (h : stepTask l.cfg g (.onOpen c tempUUID addr) x = some (g', t', ts)) :
    (g'.connectionManager.objects c).isSome := by
  obtain ⟨-, -, ⟨⟩⟩ := onOpen_accepted hx h
  rw [withManager, ConnectionManager.objects_addConnection, KeyMap.store_self]
  rfl

variable {b : Actor}

section

variable (ha : ActorOk f a) (hrunning : a.running = some (late, t)) (htime : LooksUpInTime f t)
  (h : stepTask l.cfg f.gateway t x = some (f'.gateway, t', ts))
  (hhanded : f'.handed = handover f.gateway late t t' ++ f.handed)
include ha hrunning htime h hhanded

/-- A task that a step leaves under way is one of a session that did not go offline. -/
theorem online_of_step {u : Task} {c : String} (hu : u ∈ t' :: ts) (hc : u.underWay = some c) :
    wentOffline f'.handed c = false := by
  rw [Bool.eq_false_iff, hhanded]
  intro hoffline
  -- new tasks are no passes through the pipeline
  have hgoes : t.underWay = some c ∨ t.looksUp = some c ∧
      c ∈ f.gateway.connectionManager.connections := by
    rcases mem_cons.mp hu with rfl | hu
    · exact underWay_of_stepTask h hc
    · have hnone := ((taskStep_of_stepTask h).forall_new (P := fun u => u.underWay = none)) u hu
      rw [hnone] at hc
      cases hc
  rcases wentOffline_handover hoffline with hbefore | hsends
  · rcases hgoes with hunder | ⟨hlooks, hmem⟩
    · rw [ha.online _ hrunning c hunder] at hbefore
      cases hbefore
    · exact htime c hlooks hbefore hmem
  · rw [sendsOffline_of_pass (hgoes.imp_right And.left)] at hsends
    cases hsends

theorem ActorOk.next
    (hnext : ∀ p ∈ b.running, p.1 = late ∧ p.2 ∈ t' :: ts ∨ ∃ c, p = (false, .onClose c))
    (hserves : ∀ c ∈ b.serves, a.serves = some c) : ActorOk f' b := by
  refine ⟨fun u hu => ?_, fun p hp => ?_, fun p hp c hc => ?_, fun c hc => ?_⟩
  · rcases hnext _ hu with ⟨rfl, hmem⟩ | ⟨c, heq⟩
    · exact (ha.barred t hrunning).step h hmem
    · cases heq
  · rcases hnext p hp with ⟨-, hmem⟩ | ⟨c, rfl⟩
    · exact addressed_of_taskStep (taskStep_of_stepTask h) hmem
    · trivial
  · rcases hnext p hp with ⟨-, hmem⟩ | ⟨c, rfl⟩
    · exact online_of_step ha hrunning htime h hhanded hmem hc
    · cases hc
  · exact opened_mono h (ha.opened c (hserves c hc))

end

/-- A notice that is sent in time does not overtake the passes of other actors. -/
theorem ActorOk.online_of_notifiesInTime (hb : ActorOk w.shared b) (hmem : b ∈ w.threads)
    (htime : NotifiesInTime w t) :
    ∀ p ∈ b.running, ∀ c ∈ p.2.underWay,
      wentOffline (handover w.shared.gateway late t t' ++ w.shared.handed) c = false := by
  intro p hp c hc
  rw [Bool.eq_false_iff]
  intro hwent
  rcases wentOffline_handover hwent with hbefore | hsends
  · rw [hb.online p hp c hc] at hbefore
    cases hbefore
  · exact htime c hsends b hmem p hp hc

/-- **What a step keeps.** -/
theorem Silenced.step {i : ℕ} (hw : Silenced w) (ha : w.threads[i]? = some a)
    (htime : TakesInTime l w.shared a)
    (hguard : ∀ p ∈ a.running, NotifiesInTime w p.2 ∧ LooksUpInTime w.shared p.2)
    (h : ActorStep l w.shared a f' a' new) : Silenced ⟨f', w.threads.set i a' ++ new⟩ := by
  have hmem := mem_of_getElem? ha
  have hok := hw.actors a hmem
  -- steps of the loop itself change nothing
  have hsame (b : Actor) (hb : ActorOk w.shared b) :
      Silenced ⟨w.shared, w.threads.set i b ++ []⟩ := by
    refine ⟨hw.afterLogout, hw.afterOffline, fun d hd => ?_⟩
    rcases of_mem_set_append hd with hd | rfl | hd
    · exact hw.actors d hd
    · exact hb
    · cases hd
  cases h with
  | scanned hconn =>
    refine hsame _ (actorOk_of_harmless (fun p hp => by cases hp) fun c hc => ?_)
    cases hc
    rw [hconn]
    exact hok.opened _ rfl
  | taken hconn htakes ht => exact hsame _ (hok.taken hconn (htime _ htakes) ht)
  | closed =>
    refine hsame _ (actorOk_of_harmless (fun p hp => ?_) fun c hc => by cases hc)
    cases hp
    exact ⟨rfl, trivial, rfl⟩
  | opened hstep hserves hrunning =>
    refine ⟨hw.afterLogout, hw.afterOffline, fun d hd => ?_⟩
    rcases of_mem_set_append hd with hd | rfl | hd
    · exact (hw.actors d hd).other hstep (hw.actors d hd).online
    · refine actorOk_of_harmless (fun p hp => ?_) fun c hc => ?_
      · rw [hrunning p hp]
        exact ⟨rfl, trivial, rfl⟩
      · obtain ⟨rfl, hx⟩ := hserves c hc
        exact opened_of_onOpen hx hstep
    · cases hd
  | performed hrunning hstep hgateway hhanded hnext hserves =>
    rename_i late t t' x g ts
    subst hgateway
    obtain ⟨hnotifies, hlooks⟩ := hguard _ hrunning
    obtain ⟨hlogout, hoffline⟩ := hw.handed hok hrunning t'
    have hself (b : Actor) (hb : b ∈ a' :: new) : ActorOk f' b :=
      hok.next hrunning hlooks hstep hhanded (hnext b hb) (hserves b hb)
    refine ⟨by rwa [hhanded], by rwa [hhanded], fun b hb => ?_⟩
    rcases of_mem_set_append hb with hb | rfl | hb
    · refine (hw.actors b hb).other hstep ?_
      rw [hhanded]
      exact (hw.actors b hb).online_of_notifiesInTime hb hnotifies
    · exact hself b mem_cons_self
    · exact hself b (mem_cons_of_mem _ hb)

theorem silenced_initFront : Silenced initFront :=
  ⟨fun _ h => absurd h not_mem_nil, trivial, fun _ h => absurd h not_mem_nil⟩

end Invariant

/-- **Silence after a logout and after an offline notice.** For all connections, byte streams, reads
and interleavings, with and without a worker pool, in every run in which frames are taken,
connections looked up and offline notices sent in time: no frame that is taken after a logout or a
close frame of its connection leads to a business message or a login for a logic client, and no
business message is accepted after the offline notice of its session. -/
theorem silent_of_orderly (l : EventLoop) (as : List (Action Actor Input)) (w : World Front Actor)
    (hguard : (front l).Guarded (Orderly l) initFront as)
    (hrun : (front l).run initFront as = some w) :
    SilentAfterLogout w.shared.handed ∧ History.Each SilentAfterOffline w.shared.handed := by
  have hw : Silenced w := by
    refine Transition.run_invariant (fun w a w' hw hg h => ?_) silenced_initFront hguard hrun
    obtain ⟨b, f, rfl, hs, rfl⟩ | ⟨i, x, b, f, b', new, rfl, hb, hs, rfl⟩ := Program.exec_cases h
    · exact hw.start hs
    · obtain ⟨htakes, hrunning⟩ := hg b hb
      exact hw.step hb htakes hrunning (actorStep_of_stepActor hs)
  exact ⟨hw.afterLogout, hw.afterOffline⟩

/-! ### Concrete runs -/

def sampleLoop : EventLoop where
  cfg := sampleConfig [⟨"u", "k", "s"⟩] none
  pool := false
  protection := ⟨1024, 2048, 1024, 2048⟩

def logoutFrame : Bytes := [0x08, 0xC3, 0x84, 0x3D]

def businessFrame : Bytes := [0x08, 0x05]

/-- A WebSocket frame with a short payload and a key of zeros. -/
def maskedFrame (opCode : UInt8) (payload : Bytes) : Bytes :=
  [0x80 ||| opCode, 0x80 ||| UInt8.ofNat payload.length, 0, 0, 0, 0] ++ payload

/-- Let an actor make a number of steps. -/
def acts (i n : ℕ) : List (Action Actor Input) := List.replicate n (.step i (.choose .proceed true))

/-- A client connects and logs in; `login` are the bytes of its login. -/
def connects (ws : Bool) (login : Bytes) : List (Action Actor Input) :=
  [.start (.opening "c" ws "t" "10.0.0.1:5000")] ++ acts 0 1 ++
  [.start (.task false (.setClient "s" 1))] ++ acts 1 1 ++
  [.start (.task false (.setConnected 1 true))] ++ acts 2 1 ++
  [.step 0 (.read login)] ++ acts 0 3 ++ acts 3 9 ++ acts 4 1

/-- A WebSocket client sends a message, a close frame and another message in one read. -/
def closeFrameInBuffer : List (Action Actor Input) :=
  connects true (maskedFrame wsOpBinary (loginFrame 0)) ++
  [.step 0 (.read (maskedFrame wsOpBinary businessFrame ++ maskedFrame wsOpClose [] ++
    maskedFrame wsOpBinary businessFrame))] ++
  acts 0 10 ++ acts 0 3 ++ acts 0 4 ++ acts 5 2

theorem silent_closeFrameInBuffer :
    ∃ w, (front sampleLoop).run initFront closeFrameInBuffer = some w ∧
      w.shared.handed.map (fun o => (o.late, o.path, o.accepted)) =
        [(false, .offline, true), (false, .pipeline, true), (false, .login, true)] ∧
      SilentAfterLogout w.shared.handed ∧ History.Each SilentAfterOffline w.shared.handed := by
  obtain ⟨w, hrun, hhanded⟩ : ∃ w, (front sampleLoop).run initFront closeFrameInBuffer = some w ∧
      w.shared.handed.map (fun o => (o.late, o.path, o.accepted)) =
        [(false, .offline, true), (false, .pipeline, true), (false, .login, true)] :=
    Transition.exists_end (by decide +kernel)
  exact ⟨w, hrun, hhanded, silent_of_orderly sampleLoop _ w (by decide +kernel) hrun⟩

/-- A TCP client sends a logout and a message in one read. -/
def logoutInBuffer : List (Action Actor Input) :=
  connects false (LoginPath.writeFrame (loginFrame 0)) ++
  [.step 0 (.read (LoginPath.writeFrame logoutFrame ++ LoginPath.writeFrame businessFrame))] ++
  acts 0 3 ++ acts 5 2 ++ acts 0 10

/-- **A message after the logout.** The message that stands behind the logout in the buffer is handed
to the logic client, which has accepted the offline notice of the session before. -/
theorem logoutInBuffer_forwards :
    ∃ w, (front sampleLoop).run initFront logoutInBuffer = some w ∧
      w.shared.handed.map (fun o => (o.late, o.path, o.accepted, o.msg.sessionId)) =
        [(true, .pipeline, true, "c"), (false, .offline, true, "c"), (false, .login, true, "c")] ∧
      ¬ SilentAfterLogout w.shared.handed ∧ ¬ History.Each SilentAfterOffline w.shared.handed :=
  Transition.exists_end (by decide +kernel)

end Sgate.Gateway
