import Sgate.Lib.Channel
import Sgate.Lib.Transition

/-! # Configurations on their way to the update loop

`configUpdateChan` holds one configuration. The file watcher never waits: if the channel is full it
drops what is there and tries once more (`tryEnqueueConfig`, `stepFile_alone`). The watcher of the
configuration centre waits for room. -/

namespace Sgate.UpdateChannel

open Channel Transition List

/-- A configuration, with its place in the order in which the producers started with them. -/
structure Update (α : Type*) where
  stamp : ℕ
  cfg : α
  deriving DecidableEq

variable {α : Type*}

/-- The send of the file watcher, which does not wait for room. -/
def tryEnqueueConfig (c : Channel α 1) (newCfg : α) : Channel α 1 :=
  match c.trySend newCfg with
  | some c' => c'
  | none =>
    -- drop the oldest pending one
    let c := match c.tryRecv with
      | some (_, c') => c'
      | none => c
    match c.trySend newCfg with
    | some c' => c'
    | none => c

/-- Where the file watcher is in `tryEnqueueConfig`. -/
inductive FilePc (α : Type*)
  /-- It waits for a change of the file. -/
  | idle
  | send (m : Update α)
  | drop (m : Update α)
  | retry (m : Update α)
  /-- `stopChan` is closed. -/
  | ended

/-- Where the watcher of the configuration centre is. -/
inductive CentrePc (α : Type*)
  | idle
  | send (m : Update α)
  | ended

/-- The configuration that the file watcher has not enqueued yet. -/
def FilePc.holding : FilePc α → Option (Update α)
  | .idle | .ended => none
  | .send m | .drop m | .retry m => some m

/-- The configuration that the centre has not enqueued yet. -/
def CentrePc.holding : CentrePc α → Option (Update α)
  | .idle | .ended => none
  | .send m => some m

/-- The producers, the channel and the update loop, with a record of what has happened. -/
structure State (α : Type*) where
  configUpdateChan : Channel (Update α) 1 := .empty
  file : FilePc α := .idle
  centre : CentrePc α := .idle
  /-- The update loop has not returned. -/
  looping : Bool := true
  /-- `stopChan` is closed. -/
  stopped : Bool := false
  /-- The configurations that the producers have started with. -/
  started : List (Update α) := []
  /-- The configurations that the update loop has taken. -/
  handed : List (Update α) := []
  /-- The configurations that are lost, each with the number handed over before. -/
  lost : List (Update α × ℕ) := []

inductive Action (α : Type*)
  /-- The file has changed, and the file watcher starts with the new configuration. -/
  | fileChanged (cfg : α)
  /-- The next step of `tryEnqueueConfig`. -/
  | file
  /-- The centre starts with a new configuration. -/
  | centreChanged (cfg : α)
  | centre
  /-- The centre finds `stopChan` closed while it waits. -/
  | centreStop
  | fileStop
  /-- The update loop takes a configuration. -/
  | take
  | loopStop
  /-- `stopChan` is closed. -/
  | stop

namespace State

def start (s : State α) (cfg : α) : Update α := ⟨s.started.length, cfg⟩

def lose (s : State α) (m : Update α) : State α := { s with lost := s.lost ++ [(m, s.handed.length)] }

def stepFile (s : State α) : Option (State α) :=
  match s.file with
  | .idle | .ended => none
  | .send m =>
    match s.configUpdateChan.trySend m with
    | some c => some { s with configUpdateChan := c, file := .idle }
    | none => some { s with file := .drop m }
  | .drop m =>
    match s.configUpdateChan.tryRecv with
    | some (x, c) => some { s.lose x with configUpdateChan := c, file := .retry m }
    | none => some { s with file := .retry m }
  | .retry m =>
    match s.configUpdateChan.trySend m with
    | some c => some { s with configUpdateChan := c, file := .idle }
    -- the empty `default`: nobody learns that the configuration is lost
    | none => some { s.lose m with file := .idle }

def step (s : State α) : Action α → Option (State α)
  | .fileChanged cfg =>
    match s.file with
    | .idle => some { s with file := .send (s.start cfg), started := s.started ++ [s.start cfg] }
    | _ => none
  | .file => s.stepFile
  | .centreChanged cfg =>
    match s.centre with
    | .idle => some { s with centre := .send (s.start cfg), started := s.started ++ [s.start cfg] }
    | _ => none
  | .centre =>
    -- not possible while the channel is full
    match s.centre with
    | .send m => (s.configUpdateChan.trySend m).map fun c =>
      { s with configUpdateChan := c, centre := .idle }
    | _ => none
  | .centreStop =>
    match s.stopped, s.centre with
    | true, .send m => some { s.lose m with centre := .ended }
    | _, _ => none
  | .fileStop =>
    match s.stopped, s.file with
    | true, .idle => some { s with file := .ended }
    | _, _ => none
  | .take =>
    -- then it calls `handleConfigUpdate`
    if s.looping then
      s.configUpdateChan.tryRecv.map fun (m, c) =>
        { s with configUpdateChan := c, handed := s.handed ++ [m] }
    else none
  | .loopStop => if s.stopped then some { s with looping := false } else none
  | .stop => some { s with stopped := true }

def Settled (s : State α) : Prop :=
  s.file.holding = none ∧ s.centre.holding = none ∧ s.configUpdateChan.buffer = []

/-- The last configuration handed over is the newest, and one is lost only if a newer one is handed
over later. -/
def NewestHanded (s : State α) : Prop :=
  s.handed.getLast? = s.started.getLast? ∧
    ∀ d ∈ s.lost, ∃ x ∈ s.handed.drop d.2, d.1.stamp < x.stamp

/-- The configurations that have been in the channel, without those that were dropped. -/
def sent (s : State α) : List (Update α) := s.handed ++ s.configUpdateChan.buffer

end State

open State

/-- The centre sends only if what is handed over or in the channel is older, or, while the file watcher
is enqueuing, if that is a newer configuration for which it has not made room yet. The centre does not
give up a configuration when the gateway stops. -/
def Orderly (s : State α) : Action α → Prop
  | .centre => ∀ m, s.centre = .send m → match s.file with
      | .idle | .ended => ∀ x ∈ s.sent, x.stamp < m.stamp
      | .send x | .drop x => m.stamp < x.stamp
      | .retry _ => False
  | .centreStop => False
  | _ => True

instance decidableOrderly (s : State α) : (action : Action α) → Decidable (Orderly s action)
  | .centre =>
    match hcentre : s.centre with
    | .idle | .ended => isTrue (by simp [Orderly, hcentre])
    | .send m =>
      match hfile : s.file with
      | .idle | .ended =>
        decidable_of_iff (∀ x ∈ s.sent, x.stamp < m.stamp) (by simp [Orderly, hcentre, hfile])
      | .send x | .drop x => decidable_of_iff (m.stamp < x.stamp) (by simp [Orderly, hcentre, hfile])
      | .retry _ => isFalse (by simp [Orderly, hcentre, hfile])
  | .centreStop => isFalse id
  | .fileChanged _ | .file | .centreChanged _ | .fileStop | .take | .loopStop | .stop => isTrue trivial

/-! ## The file watcher on its own -/

section File

variable {s : State α} {m : Update α}

/-- **The steps of the file watcher** make up `tryEnqueueConfig`. -/
theorem stepFile_alone (hfile : s.file = .send m) : ∃ n,
    (run step s (replicate n .file)).map (fun s' => (s'.configUpdateChan, s'.file)) =
      some (tryEnqueueConfig s.configUpdateChan m, .idle) := by
  unfold tryEnqueueConfig
  cases hsend : s.configUpdateChan.trySend m with
  | some c => exact ⟨1, by simp [run, step, stepFile, hfile, hsend]⟩
  | none =>
    cases hrecv : s.configUpdateChan.tryRecv with
    | none => exact ⟨3, by simp [run, step, stepFile, hfile, hsend, hrecv, lose]⟩
    | some p =>
      cases hretry : p.2.trySend m with
      | none | some c => exact ⟨3, by simp [run, step, stepFile, hfile, hsend, hrecv, lose, hretry]⟩

end File

/-! ## Orderly runs -/

/-- What holds in every state of an orderly run. -/
structure Tidy (s : State α) : Prop where
  newest : ∀ n, s.started.getLast? = some n → n.stamp + 1 = s.started.length
  sent_lt : ∀ x ∈ s.sent, x.stamp < s.started.length
  file_lt : ∀ m, s.file.holding = some m → m.stamp < s.started.length
  centre_lt : ∀ m, s.centre.holding = some m → m.stamp < s.started.length
  /-- What the file watcher is enqueuing is newer than everything sent. -/
  older : ∀ m, s.file.holding = some m → ∀ x ∈ s.sent, x.stamp < m.stamp
  /-- The second try has room. -/
  room : ∀ m, s.file = .retry m → s.configUpdateChan.buffer = []
  /-- The newest configuration is with a producer or was the last to be sent. -/
  last : ∀ n, s.started.getLast? = some n →
    s.file.holding = some n ∨ s.centre.holding = some n ∨ s.sent.getLast? = some n
  /-- A newer one than a lost one is sent later or about to be sent. -/
  superseded : ∀ d ∈ s.lost, d.2 ≤ s.handed.length ∧
    ∃ x, d.1.stamp < x.stamp ∧ (x ∈ s.sent.drop d.2 ∨ s.file.holding = some x)

section Run

variable {s s' : State α} {m : Update α} {c : Channel (Update α) 1}

theorem tidy_init : Tidy ({} : State α) where
  newest := by simp
  sent_lt := by simp [sent, empty]
  file_lt := by simp [FilePc.holding]
  centre_lt := by simp [CentrePc.holding]
  older := by simp [FilePc.holding]
  room := by simp
  last := by simp
  superseded := by simp

theorem sent_of_trySend (h : s.configUpdateChan.trySend m = some c) :
    s.handed ++ c.buffer = s.sent ++ [m] := by
  rw [buffer_of_trySend h, sent, append_assoc]

variable {n : Update α}

theorem Tidy.getLast?_ne (h : Tidy s) {stamp : ℕ} (hn : s.started.getLast? = some n)
    (hstamp : stamp < s.started.length) (holder : ∀ x ∈ s.sent, x.stamp < stamp) :
    s.sent.getLast? ≠ some n := by
  intro hlast
  have hlt := holder n (mem_of_getLast? hlast)
  have hnewest := h.newest n hn
  omega

theorem Tidy.setFile (h : Tidy s) {pc : FilePc α} (hholding : pc.holding = s.file.holding)
    (hroom : ∀ m, pc = .retry m → s.configUpdateChan.buffer = []) : Tidy { s with file := pc } where
  __ := h
  file_lt := by
    rw [hholding]
    exact h.file_lt
  older := by
    rw [hholding]
    exact h.older
  room := hroom
  last := by
    rw [hholding]
    exact h.last
  superseded := by
    rw [hholding]
    exact h.superseded

theorem eq_start_of_getLast? {cfg : α} (hn : (s.started ++ [s.start cfg]).getLast? = some n) :
    n = s.start cfg ∧ n.stamp + 1 = (s.started ++ [s.start cfg]).length := by
  rw [getLast?_concat] at hn
  cases hn
  exact ⟨rfl, by rw [length_append]; rfl⟩

theorem lt_length_started {k : ℕ} (m : Update α) (hk : k < s.started.length) :
    k < (s.started ++ [m]).length := by
  rw [length_append]
  exact Nat.lt_add_right _ hk

section

variable (h : Tidy s)
include h

theorem Tidy.fileChanged (cfg : α) (hfile : s.file = .idle) :
    Tidy { s with file := .send (s.start cfg), started := s.started ++ [s.start cfg] } where
  newest := fun n hn => (eq_start_of_getLast? hn).2
  sent_lt := fun x hx => lt_length_started _ (h.sent_lt x hx)
  file_lt := by
    rintro m ⟨⟩
    rw [length_append]
    exact Nat.lt_succ_self _
  centre_lt := fun m hm => lt_length_started _ (h.centre_lt m hm)
  older := by
    rintro m ⟨⟩
    exact h.sent_lt
  room := by rintro m ⟨⟩
  last := fun n hn => .inl (congrArg some (eq_start_of_getLast? hn).1.symm)
  superseded := by
    intro d hd
    obtain ⟨hle, x, hnewer, hsent | hheld⟩ := h.superseded d hd
    · exact ⟨hle, x, hnewer, .inl hsent⟩
    · rw [hfile] at hheld
      cases hheld

theorem Tidy.centreChanged (cfg : α) :
    Tidy { s with centre := .send (s.start cfg), started := s.started ++ [s.start cfg] } where
  newest := fun n hn => (eq_start_of_getLast? hn).2
  sent_lt := fun x hx => lt_length_started _ (h.sent_lt x hx)
  file_lt := fun m hm => lt_length_started _ (h.file_lt m hm)
  centre_lt := by
    rintro m ⟨⟩
    rw [length_append]
    exact Nat.lt_succ_self _
  __ := h
  last := fun n hn => .inr (.inl (congrArg some (eq_start_of_getLast? hn).1.symm))

/-- **A send** by one of the producers. Afterwards the file watcher holds nothing but a newer
configuration that it held before, and the newest is still with a producer or is the one sent. -/
theorem Tidy.send (hsend : s.configUpdateChan.trySend m = some c) (hm : m.stamp < s.started.length)
    {file : FilePc α} {centre : CentrePc α}
    (hfile : ∀ x, file.holding = some x → s.file.holding = some x ∧ m.stamp < x.stamp)
    (hkept : ∀ x, s.file.holding = some x → file.holding = some x ∨ x = m)
    (hcentre : ∀ x, centre.holding = some x → s.centre.holding = some x)
    (hroom : ∀ x, file ≠ .retry x)
    (hlast : ∀ n, s.started.getLast? = some n →
      file.holding = some n ∨ centre.holding = some n ∨ m = n) :
    Tidy { s with configUpdateChan := c, file := file, centre := centre } := by
  refine
    { newest := h.newest
      sent_lt := ?_
      file_lt := fun x hx => h.file_lt x (hfile x hx).1
      centre_lt := fun x hx => h.centre_lt x (hcentre x hx)
      older := fun x hx => ?_
      room := fun x hx => absurd hx (hroom x)
      last := fun n hn => ?_
      superseded := fun d hd => ?_ }
  · show ∀ x ∈ s.handed ++ c.buffer, _
    rw [sent_of_trySend hsend, forall_mem_append, forall_mem_singleton]
    exact ⟨h.sent_lt, hm⟩
  · show ∀ y ∈ s.handed ++ c.buffer, _
    rw [sent_of_trySend hsend, forall_mem_append, forall_mem_singleton]
    exact ⟨h.older x (hfile x hx).1, (hfile x hx).2⟩
  · show _ ∨ _ ∨ (s.handed ++ c.buffer).getLast? = some n
    rw [sent_of_trySend hsend, getLast?_concat, Option.some.injEq]
    exact hlast n hn
  · -- what was handed over or in the channel since the loss still is
    obtain ⟨hle, x, hnewer, hx⟩ := h.superseded d hd
    have hlength : d.2 ≤ s.sent.length := by
      rw [sent, length_append]
      exact Nat.le_add_right_of_le hle
    show _ ∧ ∃ y, _ ∧ (y ∈ (s.handed ++ c.buffer).drop d.2 ∨ _)
    rw [sent_of_trySend hsend, drop_append_of_le_length hlength]
    refine ⟨hle, x, hnewer, ?_⟩
    rcases hx with hx | hx
    · exact .inl (mem_append_left _ hx)
    · rcases hkept x hx with hheld | rfl
      · exact .inr hheld
      · exact .inl (mem_append_right _ (mem_singleton_self x))

theorem Tidy.last_of_file (hholding : s.file.holding = some m) (hn : s.started.getLast? = some n) :
    m = n ∨ s.centre.holding = some n := by
  rcases h.last n hn with hheld | hheld | hlast
  · exact .inl (Option.some.inj (hholding.symm.trans hheld))
  · exact .inr hheld
  · exact absurd hlast (h.getLast?_ne hn (h.file_lt m hholding) (h.older m hholding))

theorem Tidy.file_send (hholding : s.file.holding = some m)
    (hsend : s.configUpdateChan.trySend m = some c) :
    Tidy { s with configUpdateChan := c, file := .idle } := by
  refine h.send hsend (h.file_lt m hholding) (by rintro x ⟨⟩) (fun x hx => ?_) (fun x hx => hx)
    (by rintro x ⟨⟩) (fun n hn => .inr (h.last_of_file hholding hn).symm)
  exact .inr (Option.some.inj (hx.symm.trans hholding))

theorem Tidy.file_drop (hfile : s.file = .drop m) {x : Update α}
    (hrecv : s.configUpdateChan.tryRecv = some (x, c)) :
    Tidy { s.lose x with configUpdateChan := c, file := .retry m } := by
  have hholding : s.file.holding = some m := by rw [hfile]; rfl
  have hempty : c.buffer = [] := buffer_eq_nil_of_tryRecv hrecv
  have hsent : s.sent = s.handed ++ [x] := by
    rw [sent, buffer_of_tryRecv hrecv, hempty]
  have hrest : s.handed ++ c.buffer = s.handed := by rw [hempty, append_nil]
  have hsub : ∀ y ∈ s.handed, y ∈ s.sent := fun y hy => hsent ▸ mem_append_left _ hy
  have hx : x.stamp < m.stamp :=
    h.older m hholding x (hsent ▸ mem_append_right _ (mem_singleton_self x))
  refine
    { newest := h.newest
      sent_lt := fun y hy => h.sent_lt y (hsub y (hrest ▸ hy))
      file_lt := fun m' hm' => h.file_lt m' (hholding.trans hm')
      centre_lt := h.centre_lt
      older := fun m' hm' y hy => h.older m' (hholding.trans hm') y (hsub y (hrest ▸ hy))
      room := fun _ _ => hempty
      last := fun n hn => (h.last_of_file hholding hn).imp (congrArg some) .inl
      superseded := fun d hd => ?_ }
  · -- the configuration of the file watcher takes the place of the one dropped
    show d.2 ≤ s.handed.length ∧ ∃ y, _ ∧ (y ∈ (s.handed ++ c.buffer).drop d.2 ∨ some m = some y)
    rw [hrest]
    rcases mem_append.mp hd with hd | hd
    · obtain ⟨hle, y, hnewer, hy | hheld⟩ := h.superseded d hd
      · rw [hsent, drop_append_of_le_length hle] at hy
        rcases mem_append.mp hy with hy | hy
        · exact ⟨hle, y, hnewer, .inl hy⟩
        · obtain rfl := mem_singleton.mp hy
          exact ⟨hle, m, Nat.lt_trans hnewer hx, .inr rfl⟩
      · exact ⟨hle, y, hnewer, .inr (hholding.symm.trans hheld)⟩
    · obtain rfl := mem_singleton.mp hd
      exact ⟨Nat.le_refl _, m, hx, .inr rfl⟩

theorem Tidy.centre_send (hcentre : s.centre = .send m) (horder : Orderly s .centre)
    (hsend : s.configUpdateChan.trySend m = some c) :
    Tidy { s with configUpdateChan := c, centre := .idle } := by
  have hholding : s.centre.holding = some m := by rw [hcentre]; rfl
  have hguard := horder m hcentre
  have hfile : ∀ x, s.file.holding = some x → m.stamp < x.stamp := by
    intro x hx
    cases hpc : s.file with
    | idle | ended => rw [hpc] at hx; cases hx
    | send y | drop y =>
      rw [hpc] at hguard hx
      cases hx
      exact hguard
    | retry y => rw [hpc] at hguard; exact hguard.elim
  -- so the newest is still with one of the two
  have hlast : ∀ n, s.started.getLast? = some n → s.sent.getLast? ≠ some n := by
    intro n hn
    cases hheld : s.file.holding with
    | some x => exact h.getLast?_ne hn (h.file_lt x hheld) (h.older x hheld)
    | none =>
      refine h.getLast?_ne hn (h.centre_lt m hholding) ?_
      cases hpc : s.file with
      | idle | ended => rw [hpc] at hguard; exact hguard
      | send y | drop y | retry y => rw [hpc] at hheld; cases hheld
  refine h.send hsend (h.centre_lt m hholding) (fun x hx => ⟨hx, hfile x hx⟩) (fun x hx => .inl hx)
    (by rintro x ⟨⟩) (fun x hx => ?_) (fun n hn => ?_)
  · rw [hx] at hguard
    exact hguard
  · rcases h.last n hn with hheld | hheld | hsent
    · exact .inl hheld
    · exact .inr (.inr (Option.some.inj (hholding.symm.trans hheld)))
    · exact absurd hsent (hlast n hn)

theorem Tidy.take (hrecv : s.configUpdateChan.tryRecv = some (m, c)) :
    Tidy { s with configUpdateChan := c, handed := s.handed ++ [m] } := by
  have hsent : s.handed ++ [m] ++ c.buffer = s.sent := by
    rw [sent, buffer_of_tryRecv hrecv, append_assoc, singleton_append]
  refine
    { newest := h.newest
      sent_lt := fun x hx => h.sent_lt x (hsent ▸ hx)
      file_lt := h.file_lt
      centre_lt := h.centre_lt
      older := fun x hx y hy => h.older x hx y (hsent ▸ hy)
      room := fun x hx => buffer_eq_nil_of_tryRecv hrecv
      last := fun n hn => ?_
      superseded := fun d hd => ?_ }
  · show _ ∨ _ ∨ (s.handed ++ [m] ++ c.buffer).getLast? = some n
    rw [hsent]
    exact h.last n hn
  · show d.2 ≤ (s.handed ++ [m]).length ∧ ∃ x, _ ∧ (x ∈ (s.handed ++ [m] ++ c.buffer).drop d.2 ∨ _)
    rw [hsent, length_append]
    obtain ⟨hle, hnewer⟩ := h.superseded d hd
    exact ⟨Nat.le_add_right_of_le hle, hnewer⟩

theorem Tidy.stepFile (hstep : s.stepFile = some s') : Tidy s' := by
  unfold State.stepFile at hstep
  cases hfile : s.file with
  | idle | ended => simp only [hfile, reduceCtorEq] at hstep
  | send m =>
    have hholding : s.file.holding = some m := by rw [hfile]; rfl
    simp only [hfile] at hstep
    split at hstep
    · rename_i c hsend
      cases hstep
      exact h.file_send hholding hsend
    · cases hstep
      exact h.setFile hholding.symm (by rintro m ⟨⟩)
  | drop m =>
    have hholding : s.file.holding = some m := by rw [hfile]; rfl
    simp only [hfile] at hstep
    split at hstep
    · rename_i x c hrecv
      cases hstep
      exact h.file_drop hfile hrecv
    · rename_i hrecv
      cases hstep
      exact h.setFile hholding.symm fun _ _ => tryRecv_eq_none_iff.mp hrecv
  | retry m =>
    have hholding : s.file.holding = some m := by rw [hfile]; rfl
    simp only [hfile] at hstep
    split at hstep
    · rename_i c hsend
      cases hstep
      exact h.file_send hholding hsend
    · -- the centre does not send between the drop and the second try
      rename_i hsend
      exact absurd (h.room m hfile) (trySend_eq_none_iff.mp hsend)

theorem Tidy.step {action : Action α} (horder : Orderly s action) (hstep : s.step action = some s') :
    Tidy s' := by
  cases action <;> simp only [State.step] at hstep
  case fileChanged cfg =>
    split at hstep <;> cases hstep
    rename_i hfile
    exact h.fileChanged cfg hfile
  case file => exact h.stepFile hstep
  case centreChanged cfg =>
    split at hstep <;> cases hstep
    exact h.centreChanged cfg
  case centre =>
    split at hstep
    · rename_i m hcentre
      obtain ⟨c, hsend, rfl⟩ := Option.map_eq_some_iff.mp hstep
      exact h.centre_send hcentre horder hsend
    · cases hstep
  case centreStop => exact horder.elim
  case fileStop =>
    split at hstep <;> cases hstep
    rename_i _ hfile
    refine h.setFile ?_ (by rintro m ⟨⟩)
    rw [hfile]
    rfl
  case take =>
    split at hstep
    · obtain ⟨⟨m, c⟩, hrecv, rfl⟩ := Option.map_eq_some_iff.mp hstep
      exact h.take hrecv
    · cases hstep
  case loopStop =>
    split at hstep <;> cases hstep
    exact { h with }
  case stop =>
    cases hstep
    exact { h with }

theorem Tidy.newestHanded (hsettled : s.Settled) : s.NewestHanded := by
  obtain ⟨hfile, hcentre, hbuffer⟩ := hsettled
  have hsent : s.sent = s.handed := by rw [sent, hbuffer, append_nil]
  constructor
  · cases hn : s.started.getLast? with
    | none =>
      have hnone : s.started = [] := getLast?_eq_none_iff.mp hn
      rw [getLast?_eq_none_iff, eq_nil_iff_forall_not_mem]
      intro x hx
      have hlt := h.sent_lt x (hsent ▸ hx)
      rw [hnone] at hlt
      exact Nat.not_lt_zero _ hlt
    | some n =>
      rcases h.last n hn with hheld | hheld | hlast
      · cases hfile.symm.trans hheld
      · cases hcentre.symm.trans hheld
      · rw [← hsent, hlast]
  · intro d hd
    obtain ⟨-, x, hnewer, hx | hheld⟩ := h.superseded d hd
    · exact ⟨x, hsent ▸ hx, hnewer⟩
    · cases hfile.symm.trans hheld

end

/-- **The newest configuration wins the channel** in every orderly run: once nothing is on its way, the
last configuration handed over is the newest, and a newer one was handed over after each lost one. -/
theorem newest_of_orderly {actions : List (Action α)} {s : State α}
    (horder : Transition.Guarded State.step Orderly {} actions)
    (hrun : Transition.run State.step {} actions = some s) (hsettled : s.Settled) : s.NewestHanded := by
  have htidy : Tidy s :=
    run_invariant (fun _ _ _ h hmeets hstep => h.step hmeets hstep) tidy_init horder hrun
  exact htidy.newestHanded hsettled

end Run

/-- The centre sends while the file watcher is about to make room for a newer configuration. -/
def sentBeforeDrop : List (Action String) :=
  [.fileChanged "x", .file, .centreChanged "A", .fileChanged "B", .file, .take, .centre, .file, .file,
    .take]

/-- The configuration of the centre is dropped, and the newer one is handed over. -/
theorem newest_of_orderly_sentBeforeDrop :
    ∃ s, Transition.run State.step {} sentBeforeDrop = some s ∧ s.lost = [(⟨1, "A"⟩, 1)] ∧
      s.handed = [⟨0, "x"⟩, ⟨2, "B"⟩] ∧ s.NewestHanded := by
  refine ⟨_, rfl, rfl, rfl, ?_⟩
  exact @newest_of_orderly String sentBeforeDrop _ (by decide) rfl ⟨rfl, rfl, rfl⟩

/-- The centre waits, and takes the room that the file watcher has made for a newer configuration. -/
def roomTaken : List (Action String) :=
  [.fileChanged "x", .file, .centreChanged "A", .fileChanged "B", .file, .file, .centre, .file, .take]

/-- The centre sends after the file watcher has enqueued a newer configuration. -/
def overtaken : List (Action String) :=
  [.centreChanged "A", .fileChanged "B", .file, .take, .centre, .take]

/-- The file watcher makes room by dropping a newer configuration of the centre. -/
def newerDropped : List (Action String) :=
  [.fileChanged "A", .centreChanged "B", .centre, .file, .file, .file, .take]

/-- In each of the three runs an older configuration is the last, in two of them the newest is lost. -/
theorem newest_lost :
    (∃ s, Transition.run State.step {} roomTaken = some s ∧ s.Settled ∧
      s.started.getLast? = some ⟨2, "B"⟩ ∧ s.handed = [⟨1, "A"⟩] ∧ (⟨2, "B"⟩, 0) ∈ s.lost ∧
      ¬ s.NewestHanded) ∧
    (∃ s, Transition.run State.step {} overtaken = some s ∧ s.Settled ∧
      s.started.getLast? = some ⟨1, "B"⟩ ∧ s.handed = [⟨1, "B"⟩, ⟨0, "A"⟩] ∧ ¬ s.NewestHanded) ∧
    ∃ s, Transition.run State.step {} newerDropped = some s ∧ s.Settled ∧
      s.started.getLast? = some ⟨1, "B"⟩ ∧ s.handed = [⟨0, "A"⟩] ∧ (⟨1, "B"⟩, 0) ∈ s.lost ∧
      ¬ s.NewestHanded := by
  refine ⟨⟨_, rfl, ⟨rfl, rfl, rfl⟩, rfl, rfl, by decide, fun h => ?_⟩,
    ⟨_, rfl, ⟨rfl, rfl, rfl⟩, rfl, rfl, fun h => ?_⟩, _, rfl, ⟨rfl, rfl, rfl⟩, rfl, rfl, by decide,
    fun h => ?_⟩
  · exact absurd h.1 (by decide)
  · exact absurd h.1 (by decide)
  · exact absurd h.1 (by decide)

end Sgate.UpdateChannel
