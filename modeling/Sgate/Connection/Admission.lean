import Sgate.Connection.AddressCounts
import Sgate.Lib.Interleaving

/-! # Admission limits

`OnOpen` asks `CanAccept` whether a new connection is within the limits, and registers it with
`AddConnection` in a later step; several event loops do so at the same time. The limits hold exactly if
no check is stale (`FreshCheck`), in runs in which no removal makes a counter wrong. -/

namespace Sgate

open Interleaving

/-! ## The callers -/

structure Limits where
  maxConnections : ℤ
  maxConnectionsPerIP : ℤ

/-- A thread that uses the manager. -/
inductive Caller
  /-- `OnOpen` of a new socket, before `CanAccept`. -/
  | onOpen (id addr userUUID : String)
  /-- `CanAccept` said yes. -/
  | accepted (id addr userUUID : String)
  /-- Another operation. -/
  | call (op : Op)
  | done
  deriving DecidableEq

namespace ConnectionManager

def canAccept (limits : Limits) (cm : ConnectionManager) (remoteIP : String) : Bool :=
  if limits.maxConnections > 0 ∧ cm.count ≥ limits.maxConnections then false
  else if limits.maxConnectionsPerIP > 0 ∧ remoteIP ≠ "" ∧
      (cm.ipConnections remoteIP : ℤ) ≥ limits.maxConnectionsPerIP then false
  else true

def stepCaller (limits : Limits) (cm : ConnectionManager) :
    Caller → Option (ConnectionManager × Caller)
  | .onOpen id addr userUUID =>
    if cm.canAccept limits (hostOf addr) then some (cm, .accepted id addr userUUID)
    else some (cm, .done)
  | .accepted id addr userUUID =>
    (cm.exec hostOf (.addConnection id addr userUUID)).map fun cm => (cm, .done)
  | .call op => (cm.exec hostOf op).map fun cm => (cm, .done)
  | .done => none

/-- A caller starts at its beginning; connections are only registered by `OnOpen`. -/
def mayStart : Caller → Bool
  | .onOpen _ _ _ => true
  | .call (.addConnection _ _ _) => false
  | .call _ => true
  | _ => false

def admission (limits : Limits) : Program ConnectionManager Caller Unit where
  start cm t := if mayStart t then some cm else none
  step cm t _ := (cm.stepCaller limits t).map fun r => (r.1, r.2, [])

def idle : World ConnectionManager Caller := ⟨newConnectionManager, []⟩

/-! ## The limits -/

def liveCount (cm : ConnectionManager) : ℕ := cm.connections.toFinset.card

/-- **The limits hold.** -/
structure WithinLimits (limits : Limits) (cm : ConnectionManager) : Prop where
  total : 0 < limits.maxConnections → (cm.liveCount : ℤ) ≤ limits.maxConnections
  perIP : 0 < limits.maxConnectionsPerIP → ∀ ip, ip ≠ "" →
    ((cm.connectionsFrom ip).card : ℤ) ≤ limits.maxConnectionsPerIP

/-- The check that was made, or should have been made, holds when the caller acts on it. -/
def FreshCheck (limits : Limits) (cm : ConnectionManager) : Caller → Prop
  | .accepted id addr _ => (cm.objects id).isNone → cm.canAccept limits (hostOf addr)
  | .call (.updateConnectionIP c newIP) => ∀ conn ∈ cm.getConnection c,
      ¬ (newIP = "" ∨ conn.remoteHostOf = newIP) → 0 < limits.maxConnectionsPerIP →
        (cm.ipConnections newIP : ℤ) < limits.maxConnectionsPerIP
  | _ => True

/-- A removed connection is counted down where it was counted. -/
def RecoversHost (cm : ConnectionManager) : Caller → Prop
  | .call (.removeConnection c) => ∀ conn ∈ cm.getConnection c,
      hostOf conn.remoteAddr = conn.remoteHostOf
  | _ => True

instance (limits : Limits) (cm : ConnectionManager) (t : Caller) :
    Decidable (cm.FreshCheck limits t) := by
  unfold FreshCheck
  split <;> infer_instance

instance (cm : ConnectionManager) (t : Caller) : Decidable (cm.RecoversHost t) := by
  unfold RecoversHost
  split <;> infer_instance

/-! ## The number of connections -/

section

variable {limits : Limits} {cm cm' : ConnectionManager} {host : String → String} {op : Op}
  {conn : Connection} {id addr userUUID : String}

theorem liveCount_addConnection (h : cm.objects id = none) :
    (cm.addConnection host id addr userUUID).liveCount = cm.liveCount + 1 := by
  have hnew : id ∉ cm.connections.toFinset := by
    rw [List.mem_toFinset]
    intro hmem
    have hsome := cm.registered id hmem
    rw [h] at hsome
    cases hsome
  rw [addConnection, incrementIP_eq, liveCount, List.toFinset_cons,
    Finset.card_insert_of_notMem hnew]
  rfl

theorem liveCount_removeConnection (h : cm.getConnection id = some conn) :
    (cm.removeConnection host id).liveCount + 1 = cm.liveCount := by
  have hmem : id ∈ cm.connections.toFinset :=
    List.mem_toFinset.mpr (mem_connections_iff.mpr ⟨conn, h⟩)
  have hset : (cm.connections.filter (· ≠ id)).toFinset = cm.connections.toFinset.erase id := by
    ext c
    simp [and_comm]
  rw [removeConnection_eq h, liveCount, hset, Finset.card_erase_add_one hmem]
  rfl

theorem count_exec (h : cm.count = cm.liveCount) (hs : cm.exec host op = some cm') :
    cm'.count = cm'.liveCount := by
  cases op with
  | addConnection id addr userUUID =>
    simp only [exec] at hs
    split at hs <;> cases hs
    rename_i hfresh
    rw [liveCount_addConnection (Option.not_isSome_iff_eq_none.mp hfresh), addConnection,
      incrementIP_eq]
    push_cast
    rw [← h]
  | removeConnection id =>
    cases hs
    cases hconn : cm.getConnection id with
    | none =>
      rw [removeConnection_of_none hconn]
      exact h
    | some conn =>
      have hcount : (cm.removeConnection host id).count = cm.count - 1 := by
        rw [removeConnection_eq hconn]
      have hlive : (cm.removeConnection host id).liveCount + 1 = cm.liveCount :=
        liveCount_removeConnection hconn
      omega
  | _ =>
    have hwrites := exec_rewrites hs (by simp) (by simp)
    rw [hwrites.count, h, liveCount, liveCount, hwrites.connections]

/-! ## One step -/

/-- What holds of the manager in every state: the limits, and exact counters. -/
structure Admitted (limits : Limits) (cm : ConnectionManager) : Prop where
  within : cm.WithinLimits limits
  counted : cm.Counted
  count : cm.count = cm.liveCount

theorem canAccept_iff (hc : cm.Counted) (hcount : cm.count = cm.liveCount) {ip : String} :
    cm.canAccept limits ip ↔
      (0 < limits.maxConnections → (cm.liveCount : ℤ) < limits.maxConnections) ∧
      (0 < limits.maxConnectionsPerIP → ip ≠ "" →
        ((cm.connectionsFrom ip).card : ℤ) < limits.maxConnectionsPerIP) := by
  unfold canAccept
  by_cases hip : ip = ""
  · subst ip
    simp only [ne_eq, not_true_eq_false, false_and, and_false, if_false, false_imp_iff, imp_true_iff,
      and_true]
    split
    · rename_i hfull
      simp only [Bool.false_eq_true, false_iff]
      omega
    · rename_i hroom
      simp only [true_iff]
      omega
  · rw [hc ip hip]
    split
    · rename_i hfull
      simp only [Bool.false_eq_true, false_iff]
      omega
    · split
      · rename_i hfull
        simp only [Bool.false_eq_true, false_iff]
        intro hroom
        have := hroom.2 hfull.1 hip
        omega
      · rename_i hroom hroomIP
        simp only [true_iff]
        refine ⟨fun h => by omega, fun hpos _ => ?_⟩
        by_contra hfull
        exact hroomIP ⟨hpos, hip, by omega⟩

/-- **Registering a connection** stays within the limits iff `CanAccept` says yes. -/
theorem Admitted.register_iff (h : cm.Admitted limits)
    (hs : cm.exec hostOf (.addConnection id addr userUUID) = some cm') :
    cm'.WithinLimits limits ↔ cm.canAccept limits (hostOf addr) := by
  rw [canAccept_iff h.counted h.count]
  obtain ⟨hfresh, -, hcard⟩ := hosts_addConnection hs
  have hlive : cm'.liveCount = cm.liveCount + 1 := by
    rw [exec, hfresh] at hs
    cases hs
    exact liveCount_addConnection hfresh
  constructor
  · intro hw
    refine ⟨fun hpos => ?_, fun hpos hip => ?_⟩
    · have := hw.total hpos
      omega
    · have := hw.perIP hpos (hostOf addr) hip
      rw [hcard, if_pos rfl] at this
      push_cast at this
      omega
  · rintro ⟨hroom, hroomIP⟩
    refine ⟨fun hpos => ?_, fun hpos ip hip => ?_⟩
    · have := hroom hpos
      omega
    · rw [hcard]
      split
      · subst ip
        have := hroomIP hpos hip
        push_cast
        omega
      · exact h.within.perIP hpos ip hip

/-- **Moving a connection** stays within the limits iff the new address has room. -/
theorem Admitted.move_iff {newIP : String} (h : cm.Admitted limits)
    (hs : cm.exec hostOf (.updateConnectionIP id newIP) = some cm')
    (hconn : cm.getConnection id = some conn)
    (hmoves : ¬ (newIP = "" ∨ conn.remoteHostOf = newIP)) :
    cm'.WithinLimits limits ↔ (0 < limits.maxConnectionsPerIP →
      (cm.ipConnections newIP : ℤ) < limits.maxConnectionsPerIP) := by
  obtain ⟨hne, hother⟩ := not_or.mp hmoves
  obtain ⟨hhosts, -⟩ := hosts_updateConnectionIP hs hconn hmoves
  have hcard (ip : String) := card_connectionsFrom_store ip hhosts
  have hid : ¬ cm.hosts id = some newIP := by simpa [hosts_of_getConnection hconn] using hother
  rw [h.counted newIP hne]
  constructor
  · intro hw hpos
    have hwithin := hw.perIP hpos newIP hne
    have hnew := hcard newIP
    rw [if_neg hid, if_pos rfl] at hnew
    omega
  · intro hroom
    refine ⟨fun hpos => ?_, fun hpos ip hip => ?_⟩
    · have hwrites := exec_rewrites hs (by simp) (by simp)
      rw [liveCount, hwrites.connections]
      exact h.within.total hpos
    · have hold := h.within.perIP hpos ip hip
      have hnew := hcard ip
      by_cases heq : ip = newIP
      · rw [heq] at hnew ⊢
        rw [if_neg hid, if_pos rfl] at hnew
        omega
      · rw [if_neg heq] at hnew
        omega

theorem WithinLimits.exec (h : cm.WithinLimits limits) (hs : cm.exec hostOf op = some cm')
    (hadd : ∀ id addr userUUID, op ≠ .addConnection id addr userUUID)
    (hmove : ∀ id newIP, op = .updateConnectionIP id newIP → ∀ conn, cm.getConnection id = some conn →
      newIP = "" ∨ conn.remoteHostOf = newIP) : cm'.WithinLimits limits := by
  cases op with
  | addConnection id addr userUUID => exact absurd rfl (hadd id addr userUUID)
  | removeConnection id =>
    cases hconn : cm.getConnection id with
    | none =>
      cases hs
      rwa [removeConnection_of_none hconn]
    | some conn =>
      have hlive : cm'.liveCount + 1 = cm.liveCount := by
        cases hs
        exact liveCount_removeConnection hconn
      refine ⟨fun hpos => ?_, fun hpos ip hip => ?_⟩
      · have := h.total hpos
        omega
      · have hcard := card_connectionsFrom_delete ip (hosts_removeConnection hs)
        have := h.perIP hpos ip hip
        omega
  | updateConnectionIP id newIP =>
    obtain ⟨hhosts, -⟩ := hosts_updateConnectionIP_stays hs (hmove id newIP rfl)
    have hwrites := exec_rewrites hs (by simp) (by simp)
    refine ⟨fun hpos => ?_, fun hpos ip hip => ?_⟩
    · rw [liveCount, hwrites.connections]
      exact h.total hpos
    · rw [connectionsFrom_congr ip hhosts]
      exact h.perIP hpos ip hip
  | _ =>
    obtain ⟨hhosts, -⟩ := hosts_others hs (by simp) (by simp) (by simp)
    have hwrites := exec_rewrites hs (by simp) (by simp)
    refine ⟨fun hpos => ?_, fun hpos ip hip => ?_⟩
    · rw [liveCount, hwrites.connections]
      exact h.total hpos
    · rw [connectionsFrom_congr ip hhosts]
      exact h.perIP hpos ip hip

/-- Threads that register a connection do so through `OnOpen`. -/
def RegistersByOnOpen (t : Caller) : Prop :=
  ∀ id addr userUUID, t ≠ .call (.addConnection id addr userUUID)

variable {t t' : Caller}

theorem stepCaller_cases (hs : cm.stepCaller limits t = some (cm', t')) :
    (cm' = cm ∧ (∃ id addr userUUID, t = .onOpen id addr userUUID)) ∨
    (∃ id addr userUUID, t = .accepted id addr userUUID ∧
      cm.exec hostOf (.addConnection id addr userUUID) = some cm') ∨
    (∃ op, t = .call op ∧ cm.exec hostOf op = some cm') := by
  cases t with
  | onOpen id addr userUUID =>
    simp only [stepCaller] at hs
    split at hs <;> cases hs <;> exact .inl ⟨rfl, id, addr, userUUID, rfl⟩
  | accepted id addr userUUID =>
    obtain ⟨cm₁, hexec, heq⟩ := Option.map_eq_some_iff.mp hs
    cases heq
    exact .inr (.inl ⟨id, addr, userUUID, rfl, hexec⟩)
  | call op =>
    obtain ⟨cm₁, hexec, heq⟩ := Option.map_eq_some_iff.mp hs
    cases heq
    exact .inr (.inr ⟨op, rfl, hexec⟩)
  | done => cases hs

theorem registersByOnOpen_step (hs : cm.stepCaller limits t = some (cm', t')) :
    RegistersByOnOpen t' := by
  intro id addr userUUID heq
  subst t'
  cases t with
  | onOpen id addr userUUID =>
    simp only [stepCaller] at hs
    split at hs <;> cases hs
  | accepted id addr userUUID | call op =>
    obtain ⟨cm₁, -, heq⟩ := Option.map_eq_some_iff.mp hs
    cases heq
  | done => cases hs

/-- **One step** keeps the limits iff the check behind it is fresh. -/
theorem Admitted.step_iff (h : cm.Admitted limits) (ht : RegistersByOnOpen t)
    (hs : cm.stepCaller limits t = some (cm', t')) :
    cm'.WithinLimits limits ↔ cm.FreshCheck limits t := by
  obtain ⟨rfl, id, addr, userUUID, rfl⟩ | ⟨id, addr, userUUID, rfl, hexec⟩ | ⟨op, rfl, hexec⟩ :=
    stepCaller_cases hs
  · exact iff_of_true h.within trivial
  · rw [h.register_iff hexec]
    have hfresh := (hosts_addConnection hexec).1
    simp [FreshCheck, hfresh]
  · by_cases hmove : ∀ id newIP, op = .updateConnectionIP id newIP →
        ∀ conn, cm.getConnection id = some conn → newIP = "" ∨ conn.remoteHostOf = newIP
    · refine iff_of_true (h.within.exec hexec ?_ hmove) ?_
      · rintro id addr userUUID rfl
        exact ht id addr userUUID rfl
      · cases op with
        | updateConnectionIP id newIP =>
          intro conn hconn hmoves
          exact absurd (hmove id newIP rfl conn hconn) hmoves
        | _ => trivial
    · simp only [not_forall] at hmove
      obtain ⟨id, newIP, rfl, conn, hconn, hmoves⟩ := hmove
      rw [h.move_iff hexec hconn hmoves]
      exact ⟨fun hroom _ _ _ => hroom, fun hfresh => hfresh conn hconn hmoves⟩

theorem Admitted.step (h : cm.Admitted limits) (ht : RegistersByOnOpen t) (hr : cm.RecoversHost t)
    (hf : cm.FreshCheck limits t) (hs : cm.stepCaller limits t = some (cm', t')) :
    cm'.Admitted limits := by
  have hwithin := (h.step_iff ht hs).mpr hf
  obtain ⟨rfl, -⟩ | ⟨id, addr, userUUID, rfl, hexec⟩ | ⟨op, rfl, hexec⟩ := stepCaller_cases hs
  · exact h
  · exact ⟨hwithin, h.counted.exec (fun _ hop => by cases hop) hexec, count_exec h.count hexec⟩
  · refine ⟨hwithin, h.counted.exec (fun id hop => ?_) hexec, count_exec h.count hexec⟩
    subst hop
    exact hr

theorem exists_step_of_not_freshCheck (hf : ¬ cm.FreshCheck limits t) :
    ∃ cm' t', cm.stepCaller limits t = some (cm', t') := by
  cases t with
  | accepted id addr userUUID =>
    simp only [FreshCheck, Classical.not_imp, Option.isNone_iff_eq_none] at hf
    refine ⟨cm.addConnection hostOf id addr userUUID, .done, ?_⟩
    rw [stepCaller, exec, hf.1]
    rfl
  | call op =>
    cases op with
    | updateConnectionIP id newIP => exact ⟨_, _, rfl⟩
    | _ => exact absurd trivial hf
  | _ => exact absurd trivial hf

end

/-! ## Runs -/

def Sound (limits : Limits) (w : World ConnectionManager Caller) : Prop :=
  w.shared.Admitted limits ∧ ∀ t ∈ w.threads, RegistersByOnOpen t

section

variable {limits : Limits} {w w' : World ConnectionManager Caller} {a : Action Caller Unit}

theorem registersByOnOpen_of_mayStart {t : Caller} (h : mayStart t) : RegistersByOnOpen t := by
  rintro id addr userUUID rfl
  cases h

theorem Sound.exec (h : Sound limits w)
    (hr : Program.ThreadGuard (fun _ _ => True) (fun w t => w.shared.RecoversHost t) w a)
    (hf : Program.ThreadGuard (fun _ _ => True) (fun w t => w.shared.FreshCheck limits t) w a)
    (hs : (admission limits).exec w a = some w') : Sound limits w' := by
  obtain ⟨t, s, rfl, hstart, rfl⟩ | ⟨i, x, t, s, t', new, rfl, ht, hstep, rfl⟩ :=
    Program.exec_cases hs
  · simp only [admission] at hstart
    split at hstart <;> cases hstart
    rename_i hmay
    refine ⟨h.1, fun u hu => ?_⟩
    rcases of_mem_snoc hu with hu | rfl
    · exact h.2 u hu
    · exact registersByOnOpen_of_mayStart hmay
  · obtain ⟨⟨cm', t''⟩, hcaller, heq⟩ := Option.map_eq_some_iff.mp hstep
    cases heq
    have hmem := h.2 t (List.mem_of_getElem? ht)
    refine ⟨h.1.step hmem (hr t ht) (hf t ht) hcaller, fun u hu => ?_⟩
    rcases of_mem_set_append hu with hu | rfl | hu
    · exact h.2 u hu
    · exact registersByOnOpen_step hcaller
    · cases hu

theorem Sound.not_within (h : Sound limits w)
    (hf : ¬ Program.ThreadGuard (fun _ _ => True) (fun w t => w.shared.FreshCheck limits t) w a) :
    ∃ w', (admission limits).exec w a = some w' ∧ ¬ w'.shared.WithinLimits limits := by
  cases a with
  | start t => exact absurd trivial hf
  | step i x =>
    simp only [Program.ThreadGuard, not_forall] at hf
    obtain ⟨t, ht, hstale⟩ := hf
    obtain ⟨cm', t', hs⟩ := exists_step_of_not_freshCheck hstale
    have ht' : w.threads[i]? = some t := ht
    refine ⟨⟨cm', w.threads.set i t' ++ []⟩, ?_, ?_⟩
    · simp only [Program.exec, ht', admission, hs, Option.map_some]
    · intro hwithin
      exact hstale ((h.1.step_iff (h.2 t (List.mem_of_getElem? ht')) hs).mp hwithin)

theorem sound_idle : Sound limits idle := by
  refine ⟨⟨⟨fun hpos => ?_, fun hpos ip _ => ?_⟩, counted_new, rfl⟩, fun t ht => ?_⟩
  · exact hpos.le
  · exact hpos.le
  · cases ht

end

/-- **The admission limits, exactly.** For all limits and every interleaving of calls of `OnOpen`,
`UpdateConnectionIP`, `RemoveConnection` and the other operations in which removals count down where
the connection was counted: the limits hold in every state iff every check is still right when it is
acted on. -/
theorem withinLimits_iff_freshChecks (limits : Limits) (as : List (Action Caller Unit))
    (hrecovers : (admission limits).Guarded
      (Program.ThreadGuard (fun _ _ => True) (fun w t => w.shared.RecoversHost t)) idle as) :
    (admission limits).Throughout (fun w => w.shared.WithinLimits limits) idle as ↔
      (admission limits).Guarded
        (Program.ThreadGuard (fun _ _ => True) (fun w t => w.shared.FreshCheck limits t)) idle as :=
  Transition.throughout_iff_guarded_assuming (J := Sound limits) (fun _ h => h.1.within)
    (fun _ _ _ h hr hf hs => h.exec hr hf hs) (fun _ _ h _ hf => h.not_within hf) sound_idle hrecovers

/-- Two connections, one after the other, each within the limits of one connection. -/
def openInTurn : List (Action Caller Unit) :=
  [.start (.onOpen "c" "10.0.0.1:1" "temp_1"), .step 0 (), .step 0 (),
    .start (.call (.updateConnectionIP "c" "10.0.0.9")), .step 1 (),
    .start (.call (.removeConnection "c")), .step 2 (),
    .start (.onOpen "d" "10.0.0.1:2" "temp_2"), .step 3 (), .step 3 ()]

theorem openInTurn_withinLimits :
    (admission ⟨1, 1⟩).Throughout (fun w => w.shared.WithinLimits ⟨1, 1⟩) idle openInTurn :=
  (withinLimits_iff_freshChecks ⟨1, 1⟩ openInTurn (by decide +kernel)).mpr (by decide +kernel)

/-- Two calls of `OnOpen` that are checked before either of them registers its connection. -/
def openTogether : List (Action Caller Unit) :=
  [.start (.onOpen "c" "10.0.0.1:1" "temp_1"), .start (.onOpen "d" "10.0.0.1:2" "temp_2"),
    .step 0 (), .step 1 (), .step 0 (), .step 1 ()]

/-- Both connections are registered, although the limit is one connection. -/
theorem openTogether_exceeds_limit :
    ¬ (admission ⟨1, 1⟩).Throughout (fun w => w.shared.WithinLimits ⟨1, 1⟩) idle openTogether := by
  intro h
  obtain ⟨w, hrun, hlive⟩ : ∃ w, (admission ⟨1, 1⟩).run idle openTogether = some w ∧
      ¬ (w.shared.liveCount : ℤ) ≤ 1 := Transition.exists_end (by decide +kernel)
  exact hlive ((h.finish hrun).total (by decide))

end ConnectionManager

end Sgate
