import Sgate.Gateway.Delivery
import Sgate.Gateway.Limits

/-! # The event loop

The event loop takes the frames of a connection from its buffer one by one; logins, and with a worker
pool also passes through the pipeline, go on in goroutines. After a logout or a close frame it goes on
with the next frame.

`front` is the gateway with the frame loops of its connections. A pass of a loop (`Socket.pass`) is a step
of the decoder it follows with a callback that keeps the frame. The steps of its handler interleave with
those of all other goroutines. The messages handed to logic clients are recorded with their frames. -/

namespace Sgate.Gateway

open Routes Interleaving List

/-! ## The frame loop of a connection -/

structure EventLoop where
  cfg : Config
  /-- There is a worker pool for the pipeline. -/
  pool : Bool
  protection : ProtectionConfig

/-- A connection in the event loop: the bytes that were read and not consumed, and the WebSocket
message under assembly. -/
structure Socket where
  conn : String
  ws : Bool
  pending : Bytes := []
  frag : Option (UInt8 × Bytes) := none
  deriving DecidableEq

/-- What the loop does with a frame. -/
inductive Dispatch
  | nothing
  /-- A ping is answered. -/
  | pong
  | handle (t : Task)
  deriving DecidableEq

inductive Pass
  /-- No complete frame. -/
  | more
  /-- The connection is to be closed. -/
  | invalid
  | passed (k : Socket) (d : Dispatch)
  deriving DecidableEq

/-- `processWebSocketFrame`. A close frame is handled like the close of the socket: the logic server is
notified and the connection removed. -/
def processWebSocketFrame (conn : String) (opCode : UInt8) (payload : Bytes) : Dispatch :=
  if opCode = wsOpClose then .handle (.onClose conn)
  else if opCode = wsOpPing then .pong
  else if opCode = wsOpPong then .nothing
  else if opCode = wsOpText ∨ opCode = wsOpBinary then .handle (.frame true conn payload)
  else .nothing

/-- The callback of a TCP loop that keeps the frame. -/
def keepFrame (_ : Option Bytes) (frame : Bytes) : Option Bytes × Bool := (some frame, true)

/-- The callback of a WebSocket loop that keeps the message. -/
def keepMessage (_ : Option (UInt8 × Bytes)) (opCode : UInt8) (payload : Bytes) :
    Option (UInt8 × Bytes) × Bool :=
  (some (opCode, payload), true)

namespace Socket

variable (l : EventLoop)

/-- A pass of the loop, up to the handler. -/
def pass (k : Socket) : Pass :=
  if k.ws then
    match wsStep true (getMaxWSFrameSize l.protection) keepMessage (k.frag, none) k.pending with
    | .more => .more
    | .stop _ _ => .invalid
    | .take n (frag, message) =>
      .passed { k with pending := k.pending.drop n, frag := frag }
        (match message with
        | none => .nothing
        | some (opCode, payload) => processWebSocketFrame k.conn opCode payload)
  else
    match frameStep (uint32 l.protection.maxFrameSize) keepFrame none k.pending with
    | .more => .more
    | .stop _ _ => .invalid
    | .take n frame =>
      .passed { k with pending := k.pending.drop n }
        (match frame with
        | none => .nothing
        | some data => .handle (.frame false k.conn data))

def fits (k : Socket) (data : Bytes) : Bool :=
  if k.ws then k.pending.length + data.length ≤ getMaxWSBufferSize l.protection
  else ((k.pending.length + data.length : ℕ) : Int) ≤ l.protection.maxFrameBufSize

end Socket

/-! ## Actors -/

inductive Actor
  | opening (conn : String) (ws : Bool) (tempUUID addr : String)
  /-- The loop looks for the next frame, or waits for a read. -/
  | scanning (k : Socket)
  /-- The loop is in the handler of a frame, which was taken `late`: after a logout. -/
  | handling (k : Socket) (late : Bool) (t : Task)
  /-- A goroutine, and whether it comes from a frame that was taken late. -/
  | task (late : Bool) (t : Task)
  deriving DecidableEq

/-- What the environment decides at a step. -/
inductive Input
  /-- For a task; and whether a write to the WebSocket succeeds. -/
  | choose (x : Choice) (written : Bool)
  | read (data : Bytes)
  /-- The socket is closed, by the client or because the gateway asked for it. -/
  | hangUp
  deriving DecidableEq

/-- A message that was handed to a logic client. -/
structure Handover where
  /-- It comes from a frame that was taken after a logout. -/
  late : Bool
  path : Path
  msg : StreamData
  accepted : Bool
  deriving DecidableEq

/-- The gateway, and what is observed of a run. -/
structure Front where
  gateway : Gateway
  /-- WebSocket connections whose state is not open any more. -/
  shut : List String
  /-- Connections whose logout or WebSocket close frame was handled. -/
  ended : List String
  /-- What was handed to logic clients, newest first. -/
  handed : List Handover

/-- What a step from `t` to `t'` hands to a logic client. -/
def handover (g : Gateway) (late : Bool) (t t' : Task) : List Handover :=
  match t with
  | .process _ _ (.send (some _) out) => [⟨late, .pipeline, out, t' = .processed ⟨.none, none⟩⟩]
  | .forwardLogin serverID m (_ + 1) =>
    if (g.getLogicClient serverID).isSome then [⟨late, .login, m, t' = .finished⟩] else []
  | .notifyOffline _ _ m => [⟨late, .offline, m, t' ≠ .finished⟩]
  | _ => []

/-- Go on with the next frame, or close the connection. -/
def Socket.next (k : Socket) : ConnAction → Actor
  | .none => .scanning k
  | .close => .task false (.onClose k.conn)

/-- A handler that answers on a WebSocket closes it if the answer cannot be sent. -/
def Link.answered (link : Link) : ConnAction := if link.sendWebSocketMessage then .none else .close

namespace EventLoop

variable (l : EventLoop)

def handlerEnd (g g' : Gateway) (k : Socket) (link : Link) : Task → ConnAction
  -- the frame does not decode
  | .frame _ _ _ => if k.ws then link.answered else .close
  -- the login is refused; only the TCP handler closes the connection, for maintenance
  | .handleLogin _ _ _ =>
    if k.ws then link.answered else if g'.closing = g.closing then .none else .close
  -- a logout of a TCP connection that is not registered any more
  | .logout c => if k.ws ∨ (g.connectionManager.getConnection c).isSome then .none else .close
  | _ => .none

/-- How the loop goes on after a step of a handler from `t` to `t'`: the handler takes its next step,
it ends, or a goroutine takes over. -/
def goOn (g g' : Gateway) (k : Socket) (late : Bool) (x : Choice) (link : Link) (t : Task) :
    Task → Actor × List Actor
  | .processed result =>
    (k.next (if k.ws then handleWebSocketDataFrame link result else handleTCPRequest result), [])
  | .finished => (k.next (handlerEnd g g' k link t), [])
  | .login c m r .validate => (.scanning k, [.task late (.login c m r .validate)])
  | t' =>
    match l.pool, t with
    -- the worker pool takes the message, unless its queue is full
    | true, .frame _ _ _ =>
      match t' with
      | .process _ _ _ | .wsUpdate _ _ => (.scanning k, if x = .busy then [] else [.task late t'])
      | _ => (.handling k late t', [])
    | _, _ => (.handling k late t', [])

/-- Note what a handler did: a logout, or the end of a close frame. -/
def noteEnd (f : Front) (k : Socket) : Task → Front
  | .logout _ | .removeConn _ => { f with ended := k.conn :: f.ended, shut := k.conn :: f.shut }
  | _ => f

/-- Note what a worker did: `applyAsyncResult` gives up the WebSocket of a connection it closes. -/
def noteResult (f : Front) (t t' : Task) : Front :=
  match t, t' with
  | .process c _ _, .processed result =>
    if applyAsyncResult result = .close then { f with shut := c :: f.shut } else f
  | _, _ => f

def after (f : Front) (late : Bool) (t t' : Task) (g : Gateway) : Front :=
  { f with gateway := g, handed := handover f.gateway late t t' ++ f.handed }

/-- A step of the frame loop between two frames. -/
def scan (f : Front) (k : Socket) (input : Input) : Option (Front × Actor × List Actor) :=
  match k.pass l with
  | .more =>
    match input with
    | .read data =>
      some (f, if k.fits l data then .scanning { k with pending := k.pending ++ data }
        else .task false (.onClose k.conn), [])
    | .hangUp => some (f, .task false (.onClose k.conn), [])
    | .choose _ _ => none
  | .invalid => some (f, .task false (.onClose k.conn), [])
  | .passed k' .nothing => some (f, .scanning k', [])
  | .passed k' .pong =>
    match input with
    | .choose _ written => some (f, k'.next (if written then .none else .close), [])
    | _ => none
  | .passed k' (.handle t) => some (f, .handling k' (k.conn ∈ f.ended) t, [])

def stepActor (f : Front) : Actor → Input → Option (Front × Actor × List Actor)
  | .opening c ws tempUUID addr, .choose x _ =>
    match stepTask l.cfg f.gateway (.onOpen c tempUUID addr) x with
    | none => none
    | some (g, _, _) =>
      some ({ f with gateway := g },
        if x = .refuse then .task false .finished else .scanning { conn := c, ws := ws }, [])
  | .scanning k, input => l.scan f k input
  | .handling k late t, .choose x written =>
    match stepTask l.cfg f.gateway t x with
    | none => none
    | some (g, t', new) =>
      let r := l.goOn f.gateway g k late x ⟨k.conn ∉ f.shut, written⟩ t t'
      some (noteEnd (after f late t t' g) k t, r.1, r.2 ++ new.map (.task late))
  | .task late t, .choose x _ =>
    match stepTask l.cfg f.gateway t x with
    | none => none
    | some (g, t', new) =>
      some (noteResult (after f late t t' g) t t', .task late t', new.map (.task late))
  | _, _ => none

end EventLoop

open EventLoop

/-- Connections are opened; frames come from the event loop, everything else from the environment. -/
def startActor (f : Front) : Actor → Option Front
  | .opening _ _ _ _ => some f
  | .task false (.frame _ _ _) | .task false (.onOpen _ _ _) => none
  | .task false t => (startTask f.gateway t).map fun g => { f with gateway := g }
  | _ => none

/-- The gateway with the frame loops of its connections. -/
def front (l : EventLoop) : Program Front Actor Input where
  start := startActor
  step := l.stepActor

def initFront : World Front Actor := ⟨⟨.new, [], [], []⟩, []⟩

/-! ## What an actor does -/

namespace Actor

/-- The task that makes the next step, and whether it comes from a frame that was taken late. -/
def running : Actor → Option (Bool × Task)
  | .handling _ late t | .task late t => some (late, t)
  | _ => none

/-- The connection that the frame loop serves. -/
def serves : Actor → Option String
  | .scanning k | .handling k _ _ => some k.conn
  | _ => none

/-- The connection of the frame that is taken in the next step. -/
def takes (l : EventLoop) : Actor → Option String
  | .scanning k =>
    match k.pass l with
    | .passed _ (.handle _) => some k.conn
    | _ => none
  | _ => none

end Actor

def Task.ServesFrame (c : String) (t : Task) : Prop :=
  (∃ ws data, t = .frame ws c data) ∨ t = .onClose c

inductive ActorStep (l : EventLoop) (f : Front) : Actor → Front → Actor → List Actor → Prop
  | opened {c tempUUID addr : String} {ws : Bool} {x : Choice} {g : Gateway} {t' : Task}
      {a : Actor} {new : List Task}
      (h : stepTask l.cfg f.gateway (.onOpen c tempUUID addr) x = some (g, t', new))
      (hserves : ∀ d ∈ a.serves, d = c ∧ x ≠ .refuse)
      (hrunning : ∀ p ∈ a.running, p = (false, .finished)) :
      ActorStep l f (.opening c ws tempUUID addr) { f with gateway := g } a []
  | scanned {k k' : Socket} (hconn : k'.conn = k.conn) :
      ActorStep l f (.scanning k) f (.scanning k') []
  /-- A frame is taken from the buffer. -/
  | taken {k k' : Socket} {t : Task} (hconn : k'.conn = k.conn)
      (htakes : (Actor.scanning k).takes l = some k.conn) (ht : t.ServesFrame k.conn) :
      ActorStep l f (.scanning k) f (.handling k' (k.conn ∈ f.ended) t) []
  | closed {k : Socket} : ActorStep l f (.scanning k) f (.task false (.onClose k.conn)) []
  /-- A task makes a step; it goes on, or a goroutine goes on with it, or its connection is closed. -/
  | performed {a a' : Actor} {late : Bool} {t t' : Task} {x : Choice} {g : Gateway} {f' : Front}
      {new : List Task} {more : List Actor} (ha : a.running = some (late, t))
      (h : stepTask l.cfg f.gateway t x = some (g, t', new)) (hgateway : f'.gateway = g)
      (hhanded : f'.handed = handover f.gateway late t t' ++ f.handed)
      (hrunning : ∀ b ∈ a' :: more, ∀ p ∈ b.running,
        p.1 = late ∧ p.2 ∈ t' :: new ∨ ∃ c, p = (false, .onClose c))
      (hserves : ∀ b ∈ a' :: more, ∀ c ∈ b.serves, a.serves = some c) :
      ActorStep l f a f' a' more

section Steps

variable {l : EventLoop} {f f' : Front} {a a' : Actor} {k k' : Socket} {new : List Actor}
  {input : Input}

theorem processWebSocketFrame_serves {c : String} {opCode : UInt8} {payload : Bytes} {t : Task}
    (h : processWebSocketFrame c opCode payload = .handle t) : t.ServesFrame c := by
  unfold processWebSocketFrame at h
  split at h
  · cases h
    exact .inr rfl
  split at h
  · cases h
  split at h
  · cases h
  split at h <;> cases h
  exact .inl ⟨_, _, rfl⟩

theorem pass_spec {d : Dispatch} (h : k.pass l = .passed k' d) :
    k'.conn = k.conn ∧ ∀ t, d = .handle t → t.ServesFrame k.conn := by
  unfold Socket.pass at h
  split at h
  · split at h
    · cases h
    · cases h
    · cases h
      refine ⟨rfl, fun t ht => ?_⟩
      split at ht
      · cases ht
      · exact processWebSocketFrame_serves ht
  · split at h
    · cases h
    · cases h
    · cases h
      refine ⟨rfl, fun t ht => ?_⟩
      split at ht <;> cases ht
      exact .inl ⟨_, _, rfl⟩

theorem actorStep_of_scan (h : l.scan f k input = some (f', a', new)) :
    ActorStep l f (.scanning k) f' a' new := by
  unfold scan at h
  split at h
  · split at h
    · cases h
      split
      · exact .scanned rfl
      · exact .closed
    · cases h
      exact .closed
    · cases h
  · cases h
    exact .closed
  · rename_i k' hpass
    cases h
    exact .scanned (pass_spec hpass).1
  · rename_i k' hpass
    split at h <;> cases h
    rename_i x written
    obtain ⟨hconn, -⟩ := pass_spec hpass
    cases written
    · have hnext : k'.next .close = .task false (.onClose k.conn) := by rw [← hconn]; rfl
      exact hnext ▸ .closed
    · exact .scanned hconn
  · rename_i k' t hpass
    cases h
    obtain ⟨hconn, hserves⟩ := pass_spec hpass
    refine .taken hconn ?_ (hserves t rfl)
    simp only [Actor.takes, hpass]

/-- The actor goes on with the task `t'` of a handler on the socket `k`, or after it. -/
structure Actor.FollowsUp (k : Socket) (late : Bool) (t' : Task) (b : Actor) : Prop where
  running : ∀ p ∈ b.running, p = (late, t') ∨ p = (false, .onClose k.conn)
  serves : ∀ c ∈ b.serves, c = k.conn

attribute [local simp] Actor.running Actor.serves

section

variable (late : Bool) (t' : Task)

theorem followsUp_scanning : (Actor.scanning k).FollowsUp k late t' := ⟨by simp, by simp⟩

theorem followsUp_handling : (Actor.handling k late t').FollowsUp k late t' := ⟨by simp, by simp⟩

theorem followsUp_task : (Actor.task late t').FollowsUp k late t' := ⟨by simp, by simp⟩

theorem followsUp_next (action : ConnAction) : (k.next action).FollowsUp k late t' := by
  cases action with
  | none => exact followsUp_scanning late t'
  | close => exact ⟨by simp [Socket.next], by simp [Socket.next]⟩

end

variable {late : Bool} {b : Actor}

theorem goOn_followsUp {g g' : Gateway} {x : Choice} {link : Link} {t t' : Task}
    (hb : b ∈ (l.goOn g g' k late x link t t').1 :: (l.goOn g g' k late x link t t').2) :
    b.FollowsUp k late t' := by
  unfold goOn at hb
  split at hb
  · obtain rfl := mem_singleton.mp hb
    exact followsUp_next ..
  · obtain rfl := mem_singleton.mp hb
    exact followsUp_next ..
  · simp only [mem_cons, not_mem_nil, or_false] at hb
    rcases hb with rfl | rfl
    · exact followsUp_scanning ..
    · exact followsUp_task ..
  · -- the worker pool takes the task over, or the handler goes on
    have hpooled {x : Choice} (hb : b ∈ Actor.scanning k :: if x = .busy then [] else [.task late t']) :
        b.FollowsUp k late t' := by
      rcases mem_cons.mp hb with rfl | hb
      · exact followsUp_scanning ..
      · split at hb
        · cases hb
        · obtain rfl := mem_singleton.mp hb
          exact followsUp_task ..
    split at hb
    · split at hb
      · exact hpooled hb
      · exact hpooled hb
      · obtain rfl := mem_singleton.mp hb
        exact followsUp_handling ..
    · obtain rfl := mem_singleton.mp hb
      exact followsUp_handling ..

theorem gateway_noteEnd (f : Front) (k : Socket) (t : Task) :
    (noteEnd f k t).gateway = f.gateway ∧ (noteEnd f k t).handed = f.handed := by
  unfold noteEnd
  split <;> exact ⟨rfl, rfl⟩

theorem gateway_noteResult (f : Front) (t t' : Task) :
    (noteResult f t t').gateway = f.gateway ∧ (noteResult f t t').handed = f.handed := by
  unfold noteResult
  split
  · split <;> exact ⟨rfl, rfl⟩
  · exact ⟨rfl, rfl⟩

theorem started_spec {ts : List Task} (hb : b ∈ ts.map (Actor.task late)) :
    (∀ p ∈ b.running, p.1 = late ∧ p.2 ∈ ts) ∧ b.serves = none := by
  obtain ⟨u, hu, rfl⟩ := mem_map.mp hb
  refine ⟨fun p hp => ?_, rfl⟩
  cases hp
  exact ⟨rfl, hu⟩

/-- **Every step of an actor is one of these.** -/
theorem actorStep_of_stepActor (h : l.stepActor f a input = some (f', a', new)) :
    ActorStep l f a f' a' new := by
  cases a with
  | opening c ws tempUUID addr =>
    cases input with
    | choose x written =>
      simp only [stepActor] at h
      split at h
      · cases h
      rename_i g t' ts hstep
      cases h
      refine .opened hstep (fun d hd => ?_) fun p hp => ?_
      · split at hd <;> cases hd
        rename_i hx
        exact ⟨rfl, hx⟩
      · split at hp <;> cases hp
        rfl
    | read | hangUp => cases h
  | scanning k => exact actorStep_of_scan h
  | handling k late t =>
    cases input with
    | choose x written =>
      simp only [stepActor] at h
      split at h
      · cases h
      rename_i g t' ts hstep
      cases h
      obtain ⟨hgateway, hhanded⟩ := gateway_noteEnd (after f late t t' g) k t
      refine .performed rfl hstep hgateway hhanded (fun b hb p hp => ?_) fun b hb c hc => ?_
      · rw [← cons_append] at hb
        rcases mem_append.mp hb with hb | hb
        · rcases (goOn_followsUp hb).running p hp with rfl | rfl
          · exact .inl ⟨rfl, mem_cons_self⟩
          · exact .inr ⟨_, rfl⟩
        · obtain ⟨hlate, hmem⟩ := (started_spec hb).1 p hp
          exact .inl ⟨hlate, mem_cons_of_mem _ hmem⟩
      · rw [← cons_append] at hb
        rcases mem_append.mp hb with hb | hb
        · rw [(goOn_followsUp hb).serves c hc]
          rfl
        · rw [(started_spec hb).2] at hc
          cases hc
    | read | hangUp => cases h
  | task late t =>
    cases input with
    | choose x written =>
      simp only [stepActor] at h
      split at h
      · cases h
      rename_i g t' ts hstep
      cases h
      obtain ⟨hgateway, hhanded⟩ := gateway_noteResult (after f late t t' g) t t'
      refine .performed rfl hstep hgateway hhanded (fun b hb p hp => ?_) fun b hb c hc => ?_
      · rcases mem_cons.mp hb with rfl | hb
        · cases hp
          exact .inl ⟨rfl, mem_cons_self⟩
        · obtain ⟨hlate, hmem⟩ := (started_spec hb).1 p hp
          exact .inl ⟨hlate, mem_cons_of_mem _ hmem⟩
      · rcases mem_cons.mp hb with rfl | hb
        · cases hc
        · rw [(started_spec hb).2] at hc
          cases hc
    | read | hangUp => cases h

theorem startActor_spec (h : startActor f a = some f') :
    f' = f ∧ a.serves = none ∧ ∀ p ∈ a.running, p.1 = false ∧ p.2.entry = true := by
  unfold startActor at h
  split at h
  · cases h
    exact ⟨rfl, rfl, fun p hp => by cases hp⟩
  · cases h
  · cases h
  · obtain ⟨g, hg, rfl⟩ := Option.map_eq_some_iff.mp h
    obtain ⟨rfl, hentry⟩ := entry_of_startTask hg
    refine ⟨rfl, rfl, fun p hp => ?_⟩
    cases hp
    exact ⟨rfl, hentry⟩
  · cases h

end Steps

end Sgate.Gateway
