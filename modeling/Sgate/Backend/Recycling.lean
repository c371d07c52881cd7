import Sgate.Backend.Ownership

/-! # Recycled messages and the content that is written

`Process` fills a message object from the pool field by field and hands it to `SendMessage`.
`ProcessForWS` comes back to the object afterwards, when a send loop may have written and reset it and
another session may be filling it. The memory behind the objects (`heap`) is put under the client of
`Backend.Client`. -/

namespace Sgate.Backend

open Interleaving Routes LogicClient List

/-! ## Building a message -/

/-- An assignment to a field of a message, or to a field that is still empty. -/
inductive Assign
  | sessionId (v : String)
  | userKey (v : String)
  | clientIp (v : String)
  | data (v : Bytes)
  | seqId (v : Int)
  | cmd (v : Int)
  | userKeyIfEmpty (v : String)
  | clientIpIfEmpty (v : String)
  | seqIdIfZero (v : Int)
  | cmdIfZero (v : Int)
deriving DecidableEq

/-- What an assignment does to the object. -/
def Assign.apply : Assign → StreamData → StreamData
  | .sessionId v, d => { d with sessionId := v }
  | .userKey v, d => { d with userKey := v }
  | .clientIp v, d => { d with clientIp := v }
  | .data v, d => { d with data := v }
  | .seqId v, d => { d with seqId := v }
  | .cmd v, d => { d with cmd := v }
  | .userKeyIfEmpty v, d => if d.userKey = "" then { d with userKey := v } else d
  | .clientIpIfEmpty v, d => if d.clientIp = "" then { d with clientIp := v } else d
  | .seqIdIfZero v, d => if d.seqId = 0 ∧ v ≠ 0 then { d with seqId := v } else d
  | .cmdIfZero v, d => if d.cmd = 0 then { d with cmd := v } else d

/-- The three ways in which `Process` builds its message. -/
inductive Build
  /-- No security component, no tracer, no degradation. -/
  | fast
  /-- Security components but no filter chain. -/
  | full
  /-- `applyForwardFilters`: the payload and the user that the filter chain leaves behind. -/
  | filtered (payload : Bytes) (userUUID : String)
deriving DecidableEq

/-- What a pass through the pipeline works on: the client message and what it reads of the
connection. -/
structure Request where
  connectionID : String
  message : StreamData
  userUUID : String
  remoteIP : String
  build : Build
deriving DecidableEq

namespace Request

/-- The payload of the message: a filter may replace it, but not by nothing. -/
def payload (r : Request) : Bytes :=
  match r.build with
  | .fast | .full => r.message.data
  | .filtered payload _ => if payload = [] then r.message.data else payload

/-- The assignments of `Process` to the message it took from the pool, in order. -/
def assignments (r : Request) : List Assign :=
  match r.build with
  | .fast =>
    [.sessionId r.connectionID, .userKey r.userUUID, .data r.payload, .seqId r.message.seqId,
      .cmd r.message.cmd]
  | .full =>
    [.sessionId r.connectionID, .userKey r.userUUID, .clientIp r.remoteIP, .data r.payload,
      .seqId r.message.seqId] ++ (if 0 < r.message.cmd then [.cmd r.message.cmd] else [])
  | .filtered _ userUUID =>
    [.sessionId r.connectionID, .data r.payload, .cmd r.message.cmd, .seqId r.message.seqId] ++
      (if userUUID ≠ "" then [.userKey userUUID] else []) ++
      [.userKeyIfEmpty r.userUUID, .clientIpIfEmpty r.remoteIP] ++
      (if 0 < r.message.cmd then [.cmdIfZero r.message.cmd] else []) ++
      [.seqIdIfZero r.message.seqId]

/-- The user key of the message: the filter chain's user, else the one of the connection. -/
def userKey (r : Request) : String :=
  match r.build with
  | .fast | .full => r.userUUID
  | .filtered _ userUUID => if userUUID ≠ "" then userUUID else r.userUUID

/-- **What the message of a request is to carry.** -/
def content (r : Request) : StreamData where
  sessionId := r.connectionID
  userKey := r.userKey
  cmd := if r.build = .full ∧ r.message.cmd ≤ 0 then 0 else r.message.cmd
  seqId := r.message.seqId
  data := r.payload
  clientIp := if r.build = .fast then "" else r.remoteIP

end Request

/-- Make the assignments one after the other. -/
def assignAll (d : StreamData) (as : List Assign) : StreamData := as.foldl (fun d a => a.apply d) d

attribute [local simp] assignAll Request.assignments Request.content Request.userKey Request.payload
  Assign.apply Goroutine.held

theorem assignAll_assignments (r : Request) : assignAll {} r.assignments = r.content := by
  obtain ⟨conn, msg, user, ip, build⟩ := r
  cases build with
  | fast => rfl
  | full =>
    by_cases hcmd : 0 < msg.cmd
    · have hle : ¬ msg.cmd ≤ 0 := by omega
      simp [hcmd, hle]
    · have hle : msg.cmd ≤ 0 := by omega
      simp [hcmd, hle]
  | filtered payload filterUser =>
    by_cases hcmd : 0 < msg.cmd <;> by_cases huser : filterUser = "" <;>
      simp [hcmd, huser]

/-! ## Passes through the pipeline -/

/-- A pass through the pipeline, by `ProcessForWS` or by `Process` alone, with the object it took
from the pool and the number of its `SendMessage` call. -/
structure Job where
  ws : Bool
  request : Request
  obj : ℕ
  call : ℕ
deriving DecidableEq

def Job.msg (job : Job) : Message := ⟨job.obj, job.call, job.request.content⟩

/-- Where a job is: filling its object with assignments to go (with none left, in `SendMessage`), or
behind the call. -/
inductive Stage
  | fill (rest : List Assign)
  | testUserKey
  | writeUserKey
  | testSeqId
  | writeSeqId
  | done
deriving DecidableEq

/-- The goroutines: jobs, with their place in `SendMessage` and its caller, and the other goroutines
of the client. -/
inductive Worker
  | client (t : Goroutine)
  | process (job : Job) (stage : Stage) (pc : SendPc)
deriving DecidableEq

def Worker.goroutine : Worker → Goroutine
  | .client t => t
  | .process job _ pc => .send job.msg pc

/-- The client, what its message objects hold, the jobs ever started and everything written to a
stream, each message with what its object held then. -/
structure Forwarding where
  client : LogicClient
  heap : ℕ → StreamData
  jobs : List Job
  written : List (Message × StreamData)

namespace Forwarding

/-- Change what an object holds. -/
def write (s : Forwarding) (o : ℕ) (f : StreamData → StreamData) : Forwarding :=
  { s with heap := Function.update s.heap o (f (s.heap o)) }

/-- After a step of the client: `PutStreamData` has reset the objects that went to the pool, and what
was delivered is what the objects held. -/
def after (s : Forwarding) (c : LogicClient) : Forwarding :=
  { s with
    client := c
    heap := fun o => if o ∈ c.pool.take (c.pool.length - s.client.pool.length) then {} else s.heap o
    written := s.written ++
      (c.delivered.drop s.client.delivered.length).map fun m => (m, s.heap m.obj) }

variable (cfg : ClientConfig)

def step (s : Forwarding) : Worker → Choice → Option (Forwarding × Worker × List Worker)
  | .client t, x =>
    (LogicClient.step cfg s.client t x).map fun r => (s.after r.1, .client r.2.1, r.2.2.map .client)
  | .process job (.fill (a :: rest)) pc, _ =>
    some (s.write job.obj a.apply, .process job (.fill rest) pc, [])
  | .process job (.fill []) (.returned none), _ =>
    some (s, .process job (if job.ws then .testUserKey else .done) (.returned none), [])
  | .process job (.fill []) (.failed err), _ =>
    some (s, .process job (if job.ws then .testUserKey else .done) (.failed err), [])
  | .process job (.fill []) pc, x =>
    (sendMessage cfg s.client job.msg pc x).map fun r =>
      (s.after r.1, .process job (.fill []) r.2.1, r.2.2.map .client)
  -- behind the call, whether it succeeded or not
  | .process job .testUserKey pc, _ =>
    some (s, .process job
      (if (s.heap job.obj).userKey = "" ∧ job.request.message.userKey ≠ "" then .writeUserKey
        else .testSeqId) pc, [])
  | .process job .writeUserKey pc, _ =>
    some (s.write job.obj fun d => { d with userKey := job.request.message.userKey },
      .process job .testSeqId pc, [])
  | .process job .testSeqId pc, _ =>
    some (s, .process job
      (if (s.heap job.obj).seqId = 0 ∧ job.request.message.seqId ≠ 0 then .writeSeqId
        else .done) pc, [])
  | .process job .writeSeqId pc, _ =>
    some (s.write job.obj fun d => { d with seqId := job.request.message.seqId },
      .process job .done pc, [])
  -- the caller returns a refused message to the pool
  | .process job .done (.failed err), _ =>
    some (s.after (s.client.putStreamData job.msg), .process job .done (.returned (some err)), [])
  | .process _ .done _, _ => none

/-- The calls of the environment: a job takes its object from the pool or a new one. -/
def start (s : Forwarding) : Worker → Option Forwarding
  | .process job (.fill as) .readState =>
    if as = job.request.assignments then
      (LogicClient.start s.client (.send job.msg .readState)).map fun c =>
        { s with client := c, jobs := job :: s.jobs }
    else none
  | .client (.send _ _) => none
  | .client t => (LogicClient.start s.client t).map fun c => { s with client := c }
  | _ => none

end Forwarding

def forwarding (cfg : ClientConfig) : Program Forwarding Worker Choice where
  start := Forwarding.start
  step := Forwarding.step cfg

/-- A new client with its send loops and no objects. -/
def initForwarding (cfg : ClientConfig) : World Forwarding Worker :=
  ⟨⟨.newLogicClient cfg, fun _ => {}, [], []⟩, (initWorld cfg).threads.map .client⟩

/-! ## The property and its condition -/

/-- The job is about to write into the message of a successful call. -/
def Worker.modifies : Worker → Bool
  | .process _ .writeUserKey (.returned none) | .process _ .writeSeqId (.returned none) => true
  | _ => false

/-- **Forwarded content is the client's own.** Whatever was written to a stream is the content
computed for one job, and no job is going to touch a message it has handed over. -/
structure OwnContent (w : World Forwarding Worker) : Prop where
  written : ∀ e ∈ w.shared.written, ∃ job ∈ w.shared.jobs, e = (job.msg, job.request.content)
  untouched : ∀ t ∈ w.threads, t.modifies = false

/-- The test of the stage finds its field of the object empty and the one of the client message not. -/
def Forwarding.Emptied (s : Forwarding) (job : Job) : Stage → Prop
  | .testUserKey => (s.heap job.obj).userKey = "" ∧ job.request.message.userKey ≠ ""
  | .testSeqId => (s.heap job.obj).seqId = 0 ∧ job.request.message.seqId ≠ 0
  | _ => False

/-- The next step of the worker is a test behind a successful call that finds its field emptied. -/
def Forwarding.FindsEmptied (s : Forwarding) : Worker → Prop
  | .process job stage (.returned none) => s.Emptied job stage
  | _ => False

/-- The condition on an action: a test behind a successful call does not find its field emptied. -/
def Intact : World Forwarding Worker → Action Worker Choice → Prop :=
  Program.ThreadGuard (fun _ _ => True) fun w t => ¬ w.shared.FindsEmptied t

/-- The assumption on an action: the goroutine that moves does not find its shard closed behind its
message. -/
def InTime (cfg : ClientConfig) : World Forwarding Worker → Action Worker Choice → Prop :=
  Program.ThreadGuard (fun _ _ => True) fun w t => ¬ ReadsClosed cfg w.shared.client t.goroutine

section Decidable

instance (s : Forwarding) (job : Job) : DecidablePred (s.Emptied job) := fun stage => by
  unfold Forwarding.Emptied
  split <;> infer_instance

instance (s : Forwarding) : DecidablePred s.FindsEmptied := fun t => by
  unfold Forwarding.FindsEmptied
  split <;> infer_instance

instance (cfg : ClientConfig) (c : LogicClient) (t : Goroutine) : Decidable (ReadsClosed cfg c t) :=
  decidable_of_iff (∃ m ∈ t.rechecks, ∃ sh ∈ c.shards[getShard cfg c m.sessionId]?, sh.closed = true)
    (by simp only [ReadsClosed, Option.mem_def, exists_and_left])

instance (w : World Forwarding Worker) (a : Action Worker Choice) : Decidable (Intact w a) :=
  inferInstanceAs (Decidable (Program.ThreadGuard _ _ w a))

instance (cfg : ClientConfig) (w : World Forwarding Worker) (a : Action Worker Choice) :
    Decidable (InTime cfg w a) :=
  inferInstanceAs (Decidable (Program.ThreadGuard _ _ w a))

end Decidable

/-! ## What a worker can do -/

/-- The job is about to test a field behind its call. -/
def Stage.tests : Stage → Bool
  | .testUserKey | .testSeqId => true
  | _ => false

/-- The job is about to write a field behind its call. -/
def Stage.writes : Stage → Bool
  | .writeUserKey | .writeSeqId => true
  | _ => false

inductive WorkerStep (cfg : ClientConfig) (s : Forwarding) :
    Worker → Forwarding → Worker → List Worker → Prop
  | client {t t' : Goroutine} {c' : LogicClient} {new : List Goroutine}
      (h : Step cfg s.client t c' t' new) :
      WorkerStep cfg s (.client t) (s.after c') (.client t') (new.map .client)
  | send {job : Job} {pc pc' : SendPc} {c' : LogicClient} {new : List Goroutine}
      (h : SendStep cfg s.client job.msg pc c' pc' new) :
      WorkerStep cfg s (.process job (.fill []) pc) (s.after c') (.process job (.fill []) pc')
        (new.map .client)
  /-- The caller returns a refused message. -/
  | putBack {job : Job} {err : Err} :
      WorkerStep cfg s (.process job .done (.failed err)) (s.after (s.client.putStreamData job.msg))
        (.process job .done (.returned (some err))) []
  /-- A job fills a field of its object. -/
  | assign {job : Job} {a : Assign} {rest : List Assign} {pc : SendPc} :
      WorkerStep cfg s (.process job (.fill (a :: rest)) pc) (s.write job.obj a.apply)
        (.process job (.fill rest) pc) []
  | ended {job : Job} {stage : Stage} {pc : SendPc}
      (hpc : pc = .returned none ∨ ∃ err, pc = .failed err)
      (hstage : stage.tests = true ∨ stage = .done) :
      WorkerStep cfg s (.process job (.fill []) pc) s (.process job stage pc) []
  /-- A test that finds its field filled. -/
  | filled {job : Job} {stage stage' : Stage} {pc : SendPc} (hstage : stage.tests = true)
      (hstage' : stage'.tests = true ∨ stage' = .done) :
      WorkerStep cfg s (.process job stage pc) s (.process job stage' pc) []
  /-- A test that finds its field empty. -/
  | emptied {job : Job} {stage stage' : Stage} {pc : SendPc} (hstage : stage.tests = true)
      (hstage' : stage'.writes = true) (h : s.Emptied job stage) :
      WorkerStep cfg s (.process job stage pc) s (.process job stage' pc) []
  /-- A write behind the call. -/
  | write {job : Job} {stage stage' : Stage} {pc : SendPc} (f : StreamData → StreamData)
      (hstage : stage.writes = true) (hstage' : stage'.tests = true ∨ stage' = .done) :
      WorkerStep cfg s (.process job stage pc) (s.write job.obj f) (.process job stage' pc) []

/-- **Every step of a worker is one of these.** -/
theorem workerStep_of_step {cfg : ClientConfig} {s s' : Forwarding} {t t' : Worker} {x : Choice}
    {new : List Worker} (h : (forwarding cfg).step s t x = some (s', t', new)) :
    WorkerStep cfg s t s' t' new := by
  have hnext (b : Bool) : (if b then Stage.testUserKey else .done).tests = true ∨
      (if b then Stage.testUserKey else .done) = .done := by
    cases b
    · exact .inr rfl
    · exact .inl rfl
  change Forwarding.step cfg s t x = some (s', t', new) at h
  unfold Forwarding.step at h
  split at h
  · obtain ⟨⟨c', g', gnew⟩, hs, heq⟩ := Option.map_eq_some_iff.mp h
    cases heq
    exact .client (step_of_step hs)
  · cases h
    exact .assign
  · cases h
    exact .ended (.inl rfl) (hnext _)
  · cases h
    exact .ended (.inr ⟨_, rfl⟩) (hnext _)
  · obtain ⟨⟨c', pc', gnew⟩, hs, heq⟩ := Option.map_eq_some_iff.mp h
    cases heq
    exact .send (sendStep_of_sendMessage hs)
  · cases h
    split
    · rename_i hempty
      exact .emptied rfl rfl hempty
    · exact .filled rfl (.inl rfl)
  · cases h
    exact .write _ rfl (.inl rfl)
  · cases h
    split
    · rename_i hempty
      exact .emptied rfl rfl hempty
    · exact .filled rfl (.inr rfl)
  · cases h
    exact .write _ rfl (.inr rfl)
  · cases h
    exact .putBack
  · cases h

/-! ## Places of messages -/

/-- The client stores the message: in a channel or in the reconnect queue. -/
def LogicClient.Stores (c : LogicClient) (m : Message) : Prop :=
  (∃ sh ∈ c.shards, m ∈ sh.sendCh) ∨ m ∈ c.messageQueue.queue

variable {c : LogicClient} {m : Message}

theorem LogicClient.Stores.le (h : c.Stores m) (f : Message → ℕ) : f m ≤ c.stored f := by
  rcases h with ⟨sh, hsh, hm⟩ | hm
  · have h₁ := le_tally f hm
    have h₂ := le_tally (fun sh : StreamShard => tally f sh.sendCh) hsh
    simp only [stored] at h₂ ⊢
    omega
  · have h₁ := le_tally f hm
    simp only [stored]
    omega

theorem exists_of_stored_pos {f : Message → ℕ} (h : 0 < c.stored f) :
    ∃ m, c.Stores m ∧ 0 < f m := by
  by_cases hch : 0 < tally (fun sh : StreamShard => tally f sh.sendCh) c.shards
  · obtain ⟨sh, hsh, hpos⟩ := exists_of_tally_pos _ hch
    obtain ⟨m, hm, hpos⟩ := exists_of_tally_pos _ hpos
    exact ⟨m, .inl ⟨sh, hsh, hm⟩, hpos⟩
  · have hq : 0 < tally f c.messageQueue.queue := by
      unfold stored at h
      omega
    obtain ⟨m, hm, hpos⟩ := exists_of_tally_pos _ hq
    exact ⟨m, .inr hm, hpos⟩

/-- **Where messages come from**: what the client stores or the goroutine holds after a step, the
client stored or the goroutine held before. -/
theorem Transfers.mem {c c' : LogicClient} {t t' : Goroutine} {gone : List Message}
    (h : Transfers c t c' t' gone) (hm : c'.Stores m ∨ m ∈ t'.held) : c.Stores m ∨ m ∈ t.held := by
  let isMsg (x : Message) : ℕ := if x = m then 1 else 0
  have hself : isMsg m = 1 := if_pos rfl
  have hof {x : Message} (hx : 0 < isMsg x) : x = m := by
    by_contra hne
    simp [isMsg, hne] at hx
  have hw := h.weight isMsg
  have hpos : 0 < c'.stored isMsg + tally isMsg t'.held := by
    rcases hm with hm | hm
    · have := hm.le isMsg
      omega
    · have := le_tally isMsg hm
      omega
  by_cases hc : 0 < c.stored isMsg
  · obtain ⟨x, hx, hpos⟩ := exists_of_stored_pos hc
    obtain rfl := hof hpos
    exact .inl hx
  · have ht : 0 < tally isMsg t.held := by omega
    obtain ⟨x, hx, hpos⟩ := exists_of_tally_pos isMsg ht
    obtain rfl := hof hpos
    exact .inr hx

section Exclusive

variable {w : World LogicClient Goroutine} {m : Message}

theorem Owned.in_use (hw : Owned w) (hm : w.shared.Stores m ∨ ∃ t ∈ w.threads, m ∈ t.held) :
    m.obj ∉ w.shared.pool ∧ m.obj < w.shared.nextObj := by
  have hobj := hw.obj m.obj
  have hself : isObj m.obj m = 1 := if_pos rfl
  have hpos : 0 < tally (fun t => tally (isObj m.obj) t.held) w.threads +
      w.shared.stored (isObj m.obj) := by
    rcases hm with hm | ⟨t, ht, hm⟩
    · have := hm.le (isObj m.obj)
      omega
    · have h₁ := le_tally (isObj m.obj) hm
      have h₂ := le_tally (fun t : Goroutine => tally (isObj m.obj) t.held) ht
      omega
  split at hobj
  · rename_i hlt
    exact ⟨count_eq_zero.mp (by omega), hlt⟩
  · omega

/-- **The object of a message that a goroutine holds is nowhere else.** -/
theorem Owned.alone (hw : Owned w) {i : ℕ} {t : Goroutine} (ht : w.threads[i]? = some t)
    (hm : m ∈ t.held) :
    (∀ m', w.shared.Stores m' → m'.obj ≠ m.obj) ∧
      ∀ j u, j ≠ i → w.threads[j]? = some u → ∀ m' ∈ u.held, m'.obj ≠ m.obj := by
  have hobj := hw.obj m.obj
  have hle : tally (fun t => tally (isObj m.obj) t.held) w.threads +
      w.shared.stored (isObj m.obj) ≤ 1 := by
    split at hobj <;> omega
  have hself : isObj m.obj m = 1 := if_pos rfl
  have hheld := le_tally (isObj m.obj) hm
  -- the other goroutines: put one that holds nothing in the place of this one
  have hset := tally_set (fun t => tally (isObj m.obj) t.held) (.close .lock) ht
  have hnone : tally (isObj m.obj) (Goroutine.held (.close .lock)) = 0 := rfl
  refine ⟨fun m' hm' heq => ?_, fun j u hji hu m' hm' heq => ?_⟩
  · have h₁ := hm'.le (isObj m.obj)
    have h₂ : isObj m.obj m' = 1 := if_pos heq
    omega
  · have hu' : u ∈ w.threads.set i (.close .lock) :=
      mem_of_getElem? (by rw [getElem?_set_ne (Ne.symm hji)]; exact hu)
    have h₁ := le_tally (fun t : Goroutine => tally (isObj m.obj) t.held) hu'
    have h₂ := le_tally (isObj m.obj) hm'
    have h₃ : isObj m.obj m' = 1 := if_pos heq
    omega

end Exclusive

/-! ## The invariant -/

/-- The message is the one of a job, and its object holds it. -/
def Forwarding.Own (s : Forwarding) (m : Message) : Prop :=
  s.heap m.obj = m.data ∧ ∃ job ∈ s.jobs, m = job.msg

/-- What a worker has written and will not write again: the messages in the hands of the client's
goroutines and of the jobs in `SendMessage` are as they should be, an object that is being filled
will be, and behind its call a job writes only a message it still owns. -/
def Forwarding.Right (s : Forwarding) : Worker → Prop
  | .client t => ∀ m ∈ t.held, s.Own m
  | .process job (.fill rest) pc =>
    job ∈ s.jobs ∧ (rest ≠ [] → pc = .readState) ∧
      (pc.owns = true → assignAll (s.heap job.obj) rest = job.request.content)
  | .process _ stage pc =>
    (stage.writes = true → ∃ err, pc = .failed err) ∧
      (pc = .returned none ∨ (∃ err, pc = .failed err) ∨ stage = .done)

def clientWorld (w : World Forwarding Worker) : World LogicClient Goroutine :=
  ⟨w.shared.client, w.threads.map Worker.goroutine⟩

/-- The invariant: every object is in one place, and holds what it should there. -/
structure Traced (w : World Forwarding Worker) : Prop where
  owned : Owned (clientWorld w)
  workers : ∀ t ∈ w.threads, w.shared.Right t
  stored : ∀ m, w.shared.client.Stores m → w.shared.Own m
  pool : ∀ o ∈ w.shared.client.pool, w.shared.heap o = {}
  fresh : ∀ o, w.shared.client.nextObj ≤ o → w.shared.heap o = {}
  written : ∀ e ∈ w.shared.written, ∃ job ∈ w.shared.jobs, e = (job.msg, job.request.content)

section Invariant

variable {cfg : ClientConfig} {w w' : World Forwarding Worker} {s s' : Forwarding} {t t' u : Worker}
  {m : Message} {c' : LogicClient} {i : ℕ} {job : Job}

theorem mem_held_msg {stage : Stage} {pc : SendPc} (h : pc.owns = true) :
    job.msg ∈ (Worker.process job stage pc).goroutine.held := by
  simp [Worker.goroutine, h]

theorem Forwarding.Right.of_heap (h : s.Right t) (hjobs : ∀ job ∈ s.jobs, job ∈ s'.jobs)
    (hheap : ∀ m ∈ t.goroutine.held, s'.heap m.obj = s.heap m.obj) : s'.Right t := by
  cases t with
  | client t =>
    intro m hm
    obtain ⟨hdata, job, hjob, hmsg⟩ := h m hm
    exact ⟨(hheap m hm).trans hdata, job, hjobs job hjob, hmsg⟩
  | process job stage pc =>
    cases stage with
    | fill rest =>
      obtain ⟨hjob, hrest, hfill⟩ := h
      refine ⟨hjobs job hjob, hrest, fun hpc => ?_⟩
      have hobj : s'.heap job.obj = s.heap job.obj := hheap job.msg (mem_held_msg hpc)
      rw [hobj]
      exact hfill hpc
    | _ => exact h

theorem Forwarding.Own.of_heap (h : s.Own m) (hjobs : ∀ job ∈ s.jobs, job ∈ s'.jobs)
    (hheap : s'.heap m.obj = s.heap m.obj) : s'.Own m := by
  obtain ⟨hdata, job, hjob, hmsg⟩ := h
  exact ⟨hheap.trans hdata, job, hjobs job hjob, hmsg⟩

theorem Forwarding.Right.own (h : s.Right t)
    (ht : (∃ g, t = .client g) ∨ ∃ job pc, t = .process job (.fill []) pc) :
    ∀ m ∈ t.goroutine.held, s.Own m := by
  rcases ht with ⟨g, rfl⟩ | ⟨job, pc, rfl⟩
  · exact h
  · obtain ⟨hjob, -, hfill⟩ := h
    intro m hm
    have hpc : pc.owns = true := by
      by_contra hn
      simp [Worker.goroutine, hn] at hm
    obtain rfl : m = job.msg := by
      simpa [Worker.goroutine, hpc] using hm
    exact ⟨hfill hpc, job, hjob, rfl⟩

section Behind

variable {job : Job} {stage : Stage} {pc : SendPc}

theorem right_of_behind (hstage : stage.tests = true ∨ stage = .done)
    (hpc : pc = .returned none ∨ ∃ err, pc = .failed err) : s.Right (.process job stage pc) := by
  rcases hstage with hstage | rfl
  · cases stage with
    | testUserKey | testSeqId => exact ⟨nofun, hpc.imp_right .inl⟩
    | _ => cases hstage
  · exact ⟨nofun, .inr (.inr rfl)⟩

theorem right_of_writes {err : Err} (hstage : stage.writes = true) :
    s.Right (.process job stage (.failed err)) := by
  cases stage with
  | writeUserKey | writeSeqId => exact ⟨fun _ => ⟨err, rfl⟩, .inr (.inl ⟨err, rfl⟩)⟩
  | _ => cases hstage

theorem Forwarding.Right.of_tests (h : s.Right (.process job stage pc)) (hstage : stage.tests = true) :
    pc = .returned none ∨ ∃ err, pc = .failed err := by
  cases stage with
  | testUserKey | testSeqId =>
    rcases h.2 with hpc | hpc | hdone
    · exact .inl hpc
    · exact .inr hpc
    · cases hdone
  | _ => cases hstage

theorem Forwarding.Right.of_writes (h : s.Right (.process job stage pc))
    (hstage : stage.writes = true) : ∃ err, pc = .failed err := by
  cases stage with
  | writeUserKey | writeSeqId => exact h.1 rfl
  | _ => cases hstage

end Behind

theorem heap_after_of_not_mem {o : ℕ} (h : o ∉ c'.pool) : (s.after c').heap o = s.heap o :=
  if_neg fun hmem => h (mem_of_mem_take hmem)

/-- **A worker moves on by itself**: it writes at most to the objects it holds, and its place in the
client stays. -/
theorem Traced.alone (hw : Traced w) (ht : w.threads[i]? = some t) (t' : Worker)
    (hg : t'.goroutine = t.goroutine) (heap : ℕ → StreamData)
    (hheap : ∀ o, (∀ m ∈ t.goroutine.held, m.obj ≠ o) → heap o = w.shared.heap o)
    (hright : Forwarding.Right { w.shared with heap := heap } t') :
    Traced ⟨{ w.shared with heap := heap }, w.threads.set i t' ++ []⟩ := by
  have hget : (clientWorld w).threads[i]? = some t.goroutine := by
    simp only [clientWorld, getElem?_map, ht, Option.map_some]
  have hsame : clientWorld ⟨{ w.shared with heap := heap }, w.threads.set i t' ++ []⟩ =
      clientWorld w := by
    obtain ⟨hi, hi'⟩ := List.getElem?_eq_some_iff.mp hget
    simp only [clientWorld, append_nil, map_set, hg] at hi' ⊢
    rw [← hi', set_getElem_self]
  refine ⟨by rw [hsame]; exact hw.owned, fun u hu => ?_, fun m hm => ?_, fun o ho => ?_,
    fun o ho => ?_, hw.written⟩
  · rcases position_of_mem_set_append hu with ⟨j, hji, hj⟩ | rfl | hnew
    · have hj' : (clientWorld w).threads[j]? = some u.goroutine := by
        simp only [clientWorld, getElem?_map, hj, Option.map_some]
      refine (hw.workers u (mem_of_getElem? hj)).of_heap (fun _ h => h) fun m' hm' => ?_
      exact hheap m'.obj fun m hm heq => (hw.owned.alone hget hm).2 j _ hji hj' m' hm' heq.symm
    · exact hright
    · cases hnew
  · refine (hw.stored m hm).of_heap (fun _ h => h) ?_
    exact hheap m.obj fun m' hm' heq => (hw.owned.alone hget hm').1 m hm heq.symm
  · refine (hheap o fun m hm heq => ?_).trans (hw.pool o ho)
    exact (hw.owned.in_use (.inr ⟨_, mem_of_getElem? hget, hm⟩)).1 (heq ▸ ho)
  · refine (hheap o fun m hm heq => ?_).trans (hw.fresh o ho)
    have hlt := (hw.owned.in_use (.inr ⟨_, mem_of_getElem? hget, hm⟩)).2
    have hge : (clientWorld w).shared.nextObj ≤ o := ho
    omega

theorem Transfers.take_pool {c : LogicClient} {g g' : Goroutine} {gone : List Message}
    (h : Transfers c g c' g' gone) :
    c'.pool.take (c'.pool.length - c.pool.length) = (gone.map Message.obj).reverse := by
  rw [h.pool, length_append, Nat.add_sub_cancel, take_left]

variable {gnew : List Goroutine}

section

variable (hw : Traced w) (ht : w.threads[i]? = some t) (t' : Worker)
  (hstep : Step cfg w.shared.client t.goroutine c' t'.goroutine gnew)
  (hopen : ¬ ReadsClosed cfg w.shared.client t.goroutine)
include hw ht hstep hopen

/-- **A worker makes a step of the client.** -/
theorem Traced.clientStep (hown : ∀ m, c'.Stores m ∨ m ∈ t'.goroutine.held → w.shared.Own m)
    (hbatch : ∀ idx batch stream, t.goroutine = .loop idx (.sendMsg batch stream) → ∀ m ∈ batch, w.shared.Own m)
    (hright : (∀ m ∈ t'.goroutine.held, (w.shared.after c').Own m) → (w.shared.after c').Right t') :
    Traced ⟨w.shared.after c', w.threads.set i t' ++ gnew.map .client⟩ := by
  obtain ⟨gone, htr⟩ := hstep.transfers hopen
  have hget : (clientWorld w).threads[i]? = some t.goroutine := by
    simp only [clientWorld, getElem?_map, ht, Option.map_some]
  have howned : Owned (clientWorld ⟨w.shared.after c', w.threads.set i t' ++ gnew.map .client⟩) := by
    have hthreads : (w.threads.set i t' ++ gnew.map Worker.client).map Worker.goroutine =
        (w.threads.map Worker.goroutine).set i t'.goroutine ++ gnew := by
      rw [map_append, map_set, map_map]
      exact congrArg _ (map_id'' (fun _ => rfl) gnew)
    rw [clientWorld, hthreads]
    exact hw.owned.step hget (hstep.moves hopen) hstep.held_new
  -- what is in use after the step was not reset by it
  have hkept : ∀ m, (c'.Stores m ∨ ∃ u ∈ w.threads.set i t' ++ gnew.map .client,
      m ∈ u.goroutine.held) → (w.shared.after c').heap m.obj = w.shared.heap m.obj := by
    intro m hm
    refine heap_after_of_not_mem (howned.in_use ?_).1
    rcases hm with hm | ⟨u, hu, hm⟩
    · exact .inl hm
    · exact .inr ⟨u.goroutine, mem_map_of_mem hu, hm⟩
  refine ⟨howned, fun u hu => ?_, fun m hm => ?_, fun o ho => ?_, fun o ho => ?_, fun e he => ?_⟩
  · rcases position_of_mem_set_append hu with ⟨j, -, hj⟩ | rfl | hnew
    · exact (hw.workers u (mem_of_getElem? hj)).of_heap (fun _ h => h)
        fun m hm => hkept m (.inr ⟨u, hu, hm⟩)
    · exact hright fun m hm =>
        (hown m (.inr hm)).of_heap (fun _ h => h) (hkept m (.inr ⟨u, hu, hm⟩))
    · obtain ⟨g, hg, rfl⟩ := mem_map.mp hnew
      intro m hm
      rw [(hstep.held_new g hg).1] at hm
      cases hm
  · exact (hown m (.inl hm)).of_heap (fun _ h => h) (hkept m (.inl hm))
  · change (if o ∈ c'.pool.take _ then _ else _) = _
    split
    · rfl
    · rename_i hnot
      rw [htr.take_pool] at hnot
      have ho' : o ∈ (gone.map Message.obj).reverse ++ w.shared.client.pool := htr.pool ▸ ho
      exact hw.pool o ((mem_append.mp ho').resolve_left hnot)
  · change (if o ∈ c'.pool.take _ then _ else _) = _
    split
    · rfl
    · exact hw.fresh o (htr.nextObj ▸ ho)
  · change e ∈ w.shared.written ++ (c'.delivered.drop _).map _ at he
    rcases hstep.delivered_cases with hdel | ⟨idx, batch, stream, hloop, -, hc'⟩
    · rw [hdel, drop_length] at he
      exact hw.written e (by simpa using he)
    · rw [hc', drop_left] at he
      rcases mem_append.mp he with he | he
      · exact hw.written e he
      · obtain ⟨m, hm, rfl⟩ := mem_map.mp he
        obtain ⟨hdata, job, hjob, rfl⟩ := hbatch idx batch stream hloop m hm
        exact ⟨job, hjob, by rw [hdata]; rfl⟩

theorem Traced.ownStep (hheld : ∀ m ∈ t.goroutine.held, w.shared.Own m)
    (hright : (∀ m ∈ t'.goroutine.held, (w.shared.after c').Own m) → (w.shared.after c').Right t') :
    Traced ⟨w.shared.after c', w.threads.set i t' ++ gnew.map .client⟩ := by
  obtain ⟨gone, htr⟩ := hstep.transfers hopen
  refine hw.clientStep ht t' hstep hopen (fun m hm => ?_) (fun idx batch stream hloop m hm => ?_) hright
  · rcases htr.mem hm with hm | hm
    · exact hw.stored m hm
    · exact hheld m hm
  · exact hheld m (by rw [hloop]; exact hm)

end

/-- **Every step keeps the invariant**, if a test behind a successful call does not find its field
emptied and no shard is found closed behind a message. -/
theorem Traced.step {new : List Worker} (hw : Traced w) (ht : w.threads[i]? = some t)
    (hs : WorkerStep cfg w.shared t s' t' new)
    (hopen : ¬ ReadsClosed cfg w.shared.client t.goroutine)
    (hintact : ¬ w.shared.FindsEmptied t) :
    Traced ⟨s', w.threads.set i t' ++ new⟩ := by
  have hright := hw.workers t (mem_of_getElem? ht)
  cases hs with
  | client h => exact hw.ownStep ht (.client _) h hopen (hright.own (.inl ⟨_, rfl⟩)) fun h => h
  | send h =>
    rename_i job pc pc' c' gnew
    refine hw.ownStep ht (.process job (.fill []) pc') (.send h) hopen (hright.own (.inr ⟨job, pc, rfl⟩)) fun hown => ?_
    exact ⟨hright.1, fun hne => absurd rfl hne, fun hpc' => (hown _ (mem_held_msg hpc')).1⟩
  | putBack =>
    rename_i job err
    refine hw.clientStep ht (.process job .done (.returned (some err))) (.send (.putBack err)) hopen
      (fun m hm => ?_) nofun fun _ => ⟨nofun, .inr (.inr rfl)⟩
    rcases hm with hm | hm
    · exact hw.stored m hm
    · cases hm
  | assign =>
    rename_i job a rest pc
    obtain ⟨hjob, hpc, hfill⟩ := hright
    obtain rfl := hpc nofun
    refine hw.alone ht (.process job (.fill rest) .readState) rfl (Function.update _ job.obj _)
      (fun o ho => ?_) ⟨hjob, fun _ => rfl, fun _ => ?_⟩
    · exact Function.update_of_ne (ho job.msg (mem_held_msg rfl)).symm _ _
    · simpa using hfill rfl
  | ended hpc hstage =>
    rename_i job stage pc
    exact hw.alone ht (.process job stage pc) rfl w.shared.heap (fun _ _ => rfl)
      (right_of_behind hstage hpc)
  | filled hstage hstage' =>
    rename_i job stage stage' pc
    exact hw.alone ht (.process job stage' pc) rfl w.shared.heap (fun _ _ => rfl)
      (right_of_behind hstage' (hright.of_tests hstage))
  | emptied hstage hstage' hempty =>
    rename_i job stage stage' pc
    -- a job whose call succeeded does not get here
    rcases hright.of_tests hstage with rfl | ⟨err, rfl⟩
    · exact absurd hempty hintact
    · exact hw.alone ht (.process job stage' (.failed err)) rfl w.shared.heap (fun _ _ => rfl)
        (right_of_writes hstage')
  | write f hstage hstage' =>
    rename_i job stage stage' pc
    obtain ⟨err, rfl⟩ := hright.of_writes hstage
    refine hw.alone ht (.process job stage' (.failed err)) rfl (Function.update _ job.obj _)
      (fun o ho => ?_) (right_of_behind hstage' (.inr ⟨err, rfl⟩))
    exact Function.update_of_ne (ho job.msg (mem_held_msg rfl)).symm _ _

theorem Start.frame {c : LogicClient} {g : Goroutine} (h : Start c g c') :
    (∀ m, c'.Stores m → c.Stores m) ∧ (∀ o ∈ c'.pool, o ∈ c.pool) ∧ c.nextObj ≤ c'.nextObj := by
  cases h with
  | send => exact ⟨fun _ h => h, fun _ h => h, Nat.le_succ _⟩
  | sendPooled => exact ⟨fun _ h => h, fun _ h => mem_of_mem_erase h, le_rfl⟩
  | attach | detach | close => exact ⟨fun _ h => h, fun _ h => h, le_rfl⟩

theorem start_cases (h : (forwarding cfg).start s t = some s') :
    (∃ job c, t = .process job (.fill job.request.assignments) .readState ∧
      Start s.client (.send job.msg .readState) c ∧
      s' = { s with client := c, jobs := job :: s.jobs }) ∨
    ∃ g c, t = .client g ∧ g.held = [] ∧ Start s.client g c ∧ s' = { s with client := c } := by
  change Forwarding.start s t = some s' at h
  unfold Forwarding.start at h
  split at h
  · rename_i job as
    split at h
    · rename_i has
      obtain ⟨c, hs, rfl⟩ := Option.map_eq_some_iff.mp h
      subst has
      exact .inl ⟨job, c, rfl, start_of_start (show (logicClient cfg).start _ _ = some c from hs), rfl⟩
    · cases h
  · cases h
  · rename_i g hne
    obtain ⟨c, hs, rfl⟩ := Option.map_eq_some_iff.mp h
    have hstart := start_of_start (show (logicClient cfg).start _ _ = some c from hs)
    refine .inr ⟨g, c, rfl, ?_, hstart, rfl⟩
    cases hstart with
    | send | sendPooled => exact absurd rfl (hne _ _)
    | attach | detach | close => rfl
  · cases h

theorem Traced.start (hw : Traced w) (t : Worker) (hstart : Start w.shared.client t.goroutine c')
    (jobs : List Job) (hjobs : ∀ job ∈ w.shared.jobs, job ∈ jobs)
    (hright : Forwarding.Right { w.shared with client := c', jobs := jobs } t) :
    Traced ⟨{ w.shared with client := c', jobs := jobs }, w.threads ++ [t]⟩ := by
  obtain ⟨hstores, hpool, hnext⟩ := hstart.frame
  refine ⟨?_, fun u hu => ?_, fun m hm => ?_, fun o ho => ?_, fun o ho => ?_, fun e he => ?_⟩
  · rw [clientWorld, map_append]
    exact hw.owned.start hstart
  · rcases of_mem_snoc hu with hu | rfl
    · exact (hw.workers u hu).of_heap hjobs fun _ _ => rfl
    · exact hright
  · exact (hw.stored m (hstores m hm)).of_heap hjobs rfl
  · exact hw.pool o (hpool o ho)
  · exact hw.fresh o (hnext.trans ho)
  · obtain ⟨job, hjob, hmsg⟩ := hw.written e he
    exact ⟨job, hjobs job hjob, hmsg⟩

theorem Traced.heap_of_start (hw : Traced w)
    (hstart : Start w.shared.client (.send job.msg .readState) c') :
    w.shared.heap job.obj = {} := by
  cases hstart with
  | send _ hobj => exact hw.fresh job.obj hobj.ge
  | sendPooled _ hobj => exact hw.pool job.obj hobj

variable {a : Action Worker Choice}

/-- **The invariant is kept** by every action that meets the condition and the assumption. -/
theorem Traced.exec (hw : Traced w) (htime : InTime cfg w a) (hg : Intact w a)
    (h : (forwarding cfg).exec w a = some w') : Traced w' := by
  rcases Program.exec_cases h with ⟨t, s', rfl, hs, rfl⟩ | ⟨i, x, t, s', t', new, rfl, ht, hs, rfl⟩
  · rcases start_cases hs with ⟨job, c, rfl, hstart, rfl⟩ | ⟨g, c, rfl, hheld, hstart, rfl⟩
    · refine hw.start (.process job _ .readState) hstart (job :: w.shared.jobs) (fun _ h => mem_cons_of_mem _ h) ?_
      refine ⟨mem_cons_self, fun _ => rfl, fun _ => ?_⟩
      rw [hw.heap_of_start hstart, assignAll_assignments]
    · refine hw.start (.client g) hstart w.shared.jobs (fun _ h => h) fun m hm => ?_
      rw [hheld] at hm
      cases hm
  · exact hw.step ht (workerStep_of_step hs) (htime t ht) (hg t ht)

theorem traced_initForwarding (cfg : ClientConfig) : Traced (initForwarding cfg) := by
  have hclient : clientWorld (initForwarding cfg) = initWorld cfg := by
    have hthreads : ((initWorld cfg).threads.map Worker.client).map Worker.goroutine =
        (initWorld cfg).threads := by
      rw [map_map]
      exact map_id'' (fun _ => rfl) _
    rw [clientWorld, initForwarding, hthreads]
    rfl
  refine ⟨hclient ▸ owned_initWorld cfg, fun t ht => ?_, fun m hm => ?_, nofun, fun _ _ => rfl, nofun⟩
  · obtain ⟨g, hg, rfl⟩ := mem_map.mp ht
    obtain ⟨i, rfl⟩ := loop_of_mem_initWorld hg
    exact nofun
  · have hpos := hm.le fun _ => 1
    have hnone := stored_initWorld cfg fun _ => 1
    exact absurd (hpos.trans_eq hnone) (by decide)

theorem Traced.ownContent (hw : Traced w) : OwnContent w where
  written := hw.written
  untouched := by
    intro t ht
    have hright := hw.workers t ht
    cases t with
    | client t => rfl
    | process job stage pc =>
      by_cases hstage : stage.writes = true
      · obtain ⟨err, rfl⟩ := hright.of_writes hstage
        cases stage <;> rfl
      · cases stage with
        | writeUserKey | writeSeqId => exact absurd rfl hstage
        | _ => rfl

theorem step_of_findsEmptied (cfg : ClientConfig) (x : Choice) (h : s.FindsEmptied t) :
    ∃ t', (forwarding cfg).step s t x = some (s, t', []) ∧ t'.modifies = true := by
  unfold Forwarding.FindsEmptied at h
  split at h
  · rename_i job stage
    cases stage with
    | testUserKey | testSeqId =>
      exact ⟨_, congrArg (fun stage => some (s, Worker.process job stage _, [])) (if_pos h), rfl⟩
    | fill | writeUserKey | writeSeqId | done => exact absurd h id
  · exact absurd h id

/-- **A test that finds its field emptied** behind a successful call makes the job write. -/
theorem exec_of_emptied (cfg : ClientConfig) (hg : ¬ Intact w a) :
    ∃ w', (forwarding cfg).exec w a = some w' ∧ ¬ OwnContent w' := by
  cases a with
  | start t => exact absurd trivial hg
  | step i x =>
    simp only [Intact, Program.ThreadGuard, not_forall, not_not] at hg
    obtain ⟨t, ht, hempty⟩ := hg
    obtain ⟨t', hstep, hmod⟩ := step_of_findsEmptied cfg x hempty
    refine ⟨⟨w.shared, w.threads.set i t' ++ []⟩, ?_, fun h => ?_⟩
    · rw [Option.mem_def] at ht
      simp only [Program.exec, ht, hstep]
      rfl
    · have hnot := h.untouched t' (mem_set_append_self ht)
      rw [hmod] at hnot
      cases hnot

end Invariant

/-- **Own content, exactly.** In every run of jobs and of the client in which no shard is found closed
behind a message: everything written to a stream is the content computed for one client message and
no message is touched after its successful hand-over, iff no test behind a successful call finds its
field of the object emptied. -/
theorem ownContent_iff (cfg : ClientConfig) (as : List (Action Worker Choice))
    (htime : (forwarding cfg).Guarded (InTime cfg) (initForwarding cfg) as) :
    (forwarding cfg).Throughout OwnContent (initForwarding cfg) as ↔
      (forwarding cfg).Guarded Intact (initForwarding cfg) as :=
  Transition.throughout_iff_guarded_assuming (fun _ h => h.ownContent)
    (fun _ _ _ hw ha hg h => hw.exec ha hg h) (fun _ _ _ _ hg => exec_of_emptied cfg hg)
    (traced_initForwarding cfg) htime

/-! ## Two sessions -/

/-- A WebSocket client message with a sequence number, of a session that is bound to user `u`. -/
def firstJob : Job where
  ws := true
  request := ⟨"a", { cmd := 7, seqId := 9, data := [1] }, "u", "", .fast⟩
  obj := 0
  call := 0

/-- A client message of another session, without a sequence number. -/
def otherJob : Job where
  ws := true
  request := ⟨"b", { cmd := 7, data := [2] }, "v", "", .fast⟩
  obj := 0
  call := 1

/-- The worker at position `i` makes `n` steps. -/
def moves (i n : ℕ) : List (Action Worker Choice) := List.replicate n (.step i .proceed)

def startOf (job : Job) : Action Worker Choice :=
  .start (.process job (.fill job.request.assignments) .readState)

/-- A stream is attached, the first session's message is filled and handed over, and the job looks at
the object before the send loop takes it. -/
def testedInTime : List (Action Worker Choice) :=
  .start (.client (.attach 0 0 .readClosing)) :: moves 1 8 ++ startOf firstJob :: moves 3 9 ++
    moves 3 3 ++ moves 0 6

/-- In that run the message is written as it was computed and is not touched after its hand-over. -/
theorem ownContent_testedInTime :
    (forwarding oneShard).Throughout OwnContent (initForwarding oneShard) testedInTime :=
  (ownContent_iff oneShard testedInTime (by decide)).mpr (by decide)

/-- The send loop writes the first message and returns its object, the other session fills it, and
only then the first job looks at it. -/
def testedLate : List (Action Worker Choice) :=
  .start (.client (.attach 0 0 .readClosing)) :: moves 1 8 ++ startOf firstJob :: moves 3 9 ++
    moves 0 6 ++ startOf otherJob :: moves 4 9 ++ moves 3 4 ++ moves 0 6

/-- In that run the message of the other session is written with the sequence number of the first. -/
theorem testedLate_mixes_sessions : ∃ w,
    (forwarding oneShard).run (initForwarding oneShard) testedLate = some w ∧
      w.shared.written = [(firstJob.msg, firstJob.request.content),
        (otherJob.msg, { otherJob.request.content with seqId := 9 })] ∧ ¬ OwnContent w := by
  refine ⟨_, rfl, by decide, fun h => ?_⟩
  have hjob := h.written (otherJob.msg, { otherJob.request.content with seqId := 9 }) (by decide)
  revert hjob
  decide

end Sgate.Backend
