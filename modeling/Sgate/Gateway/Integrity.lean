import Sgate.Lib.KeyMap
import Sgate.Lib.Text
import Sgate.Lib.Transition
import Sgate.Routes.Frame
import Mathlib.Data.Int.Order.Basic
import Mathlib.Order.Basic

/-! # Replay protection

`MessageIntegrity` remembers the messages it has accepted, in a shard chosen by the connection. The
cleanup takes the time once and then goes over the shards, so messages are processed between two shards
of one pass. The verdicts of a run are kept in a log, newest first. -/

namespace Sgate.Gateway

open Routes Transition

/-! ## The cache -/

def integrityShardCount : ℕ := 16

structure MessageIntegrity where
  /-- In milliseconds. -/
  timeWindow : ℤ
  shards : ℕ → KeyMap String ℤ

namespace MessageIntegrity

def newMessageIntegrity (timeWindow : ℤ) : MessageIntegrity := ⟨timeWindow, fun _ => .empty⟩

def key (connectionID : String) (msg : StreamData) : String :=
  connectionID ++ "\x00" ++ msg.userKey ++ "\x00" ++ msg.cmd.repr ++ "\x00" ++ msg.seqId.repr

/-- `shardFor`; `fnv1a32` is the hash of the source. -/
def shardFor (fnv1a32 : String → ℕ) (connectionID : String) : ℕ :=
  fnv1a32 connectionID % integrityShardCount

def errIntegrityReplay : String := "replay attack detected"

def setShard (mi : MessageIntegrity) (i : ℕ) (cache : KeyMap String ℤ) : MessageIntegrity :=
  { mi with shards := Function.update mi.shards i cache }

/-- `ProcessMessage`, with its error. -/
def processMessage (fnv1a32 : String → ℕ) (mi : MessageIntegrity) (connectionID : String)
    (msg : StreamData) (now : ℤ) : MessageIntegrity × Option String :=
  if msg.seqId = 0 then
    (mi, some ("seq_id required when verifyInbound enabled cmd=" ++ msg.cmd.repr))
  else
    let i := shardFor fnv1a32 connectionID
    if (mi.shards i (key connectionID msg)).isSome then (mi, some errIntegrityReplay)
    else (mi.setShard i ((mi.shards i).store (key connectionID msg) now), none)

/-- The cleanup of one shard, with the time the pass started at. -/
def cleanupShard (mi : MessageIntegrity) (now : ℤ) (i : ℕ) : MessageIntegrity :=
  mi.setShard i ((mi.shards i).deleteFunc fun _ ts => now - ts > mi.timeWindow)

def remembered (fnv1a32 : String → ℕ) (mi : MessageIntegrity) (connectionID : String)
    (msg : StreamData) : Option ℤ :=
  mi.shards (shardFor fnv1a32 connectionID) (key connectionID msg)

end MessageIntegrity

open MessageIntegrity

/-! ## Runs -/

structure Judgement where
  connectionID : String
  cmd : Int
  seqId : Int
  /-- The error of `ProcessMessage`; none if the message was accepted. -/
  err : Option String
  time : ℤ
  deriving DecidableEq

/-- Two verdicts are on the same connection, command and sequence number. -/
def Judgement.Same (v : Judgement) (connectionID : String) (cmd seqId : Int) : Prop :=
  v.connectionID = connectionID ∧ v.cmd = cmd ∧ v.seqId = seqId

/-- The cache with its cleanup goroutine. -/
structure IntegrityState where
  integrity : MessageIntegrity
  clock : ℤ
  /-- A cleanup pass under way: the time it took and the next shard. -/
  pass : Option (ℤ × ℕ)
  /-- The verdicts, newest first. -/
  log : List Judgement

inductive IntegrityAction
  /-- A connection's message is processed. -/
  | message (connectionID : String) (msg : StreamData) (now : ℤ)
  /-- A cleanup pass starts. -/
  | tick (now : ℤ)
  /-- The pass cleans up the next shard. -/
  | cleanup
  deriving DecidableEq

/-- The state before the first message. -/
def IntegrityState.start (timeWindow clock : ℤ) : IntegrityState :=
  ⟨.newMessageIntegrity timeWindow, clock, none, []⟩

/-- One step. The clock does not go back, and a pass ends before the next one starts. -/
def stepIntegrity (fnv1a32 : String → ℕ) (s : IntegrityState) : IntegrityAction → Option IntegrityState
  | .message connectionID msg now =>
    if now < s.clock then none
    else
      let r := s.integrity.processMessage fnv1a32 connectionID msg now
      some { s with
        integrity := r.1
        clock := now
        log := ⟨connectionID, msg.cmd, msg.seqId, r.2, now⟩ :: s.log }
  | .tick now =>
    if now < s.clock ∨ s.pass.isSome then none
    else some { s with clock := now, pass := some (now, 0) }
  | .cleanup =>
    match s.pass with
    | none => none
    | some (now, i) =>
      some { s with
        integrity := s.integrity.cleanupShard now i
        pass := if i + 1 < integrityShardCount then some (now, i + 1) else none }

def NulFree (connectionID : String) : Prop := '\x00' ∉ connectionID.toList
  deriving Decidable

/-- A message as the decoder gives it, on a connection whose identifier has no NUL. -/
structure FromClient (connectionID : String) (msg : StreamData) : Prop where
  nulFree : NulFree connectionID
  noUser : msg.userKey = ""

def IntegrityAction.OfClient : IntegrityAction → Prop
  | .message connectionID msg _ => FromClient connectionID msg
  | .tick _ | .cleanup => True

/-- Everything but the messages of other connections. -/
def IntegrityAction.concerns (connectionID : String) : IntegrityAction → Bool
  | .message c _ _ => c = connectionID
  | .tick _ | .cleanup => true

/-! ## Keys -/

namespace MessageIntegrity

variable {fnv1a32 : String → ℕ} {mi : MessageIntegrity} {c c' : String} {m m' : StreamData}

theorem nul_not_mem_repr (n : ℤ) : '\x00' ∉ n.repr.toList := by
  intro h
  rcases Text.isDigit_or_eq_of_mem_repr h with hdigit | heq
  · exact absurd hdigit (by decide)
  · exact absurd heq (by decide)

theorem toList_key (hm : m.userKey = "") : (key c m).toList =
    c.toList ++ '\x00' :: '\x00' :: (m.cmd.repr.toList ++ '\x00' :: m.seqId.repr.toList) := by
  simp [key, hm]

/-- **The key of a client's message determines connection, command and sequence number.** -/
theorem key_inj (h : FromClient c m) (h' : FromClient c' m') (hkey : key c m = key c' m') :
    c = c' ∧ m.cmd = m'.cmd ∧ m.seqId = m'.seqId := by
  have hlist : (key c m).toList = (key c' m').toList := congrArg String.toList hkey
  rw [toList_key h.noUser, toList_key h'.noUser] at hlist
  obtain ⟨hc, hrest⟩ := Text.append_cons_inj h.nulFree h'.nulFree hlist
  obtain ⟨hcmd, hseq⟩ := Text.append_cons_inj (nul_not_mem_repr _) (nul_not_mem_repr _)
    (List.cons.inj hrest).2
  exact ⟨String.toList_inj.mp hc, Text.repr_injective (String.toList_inj.mp hcmd),
    Text.repr_injective (String.toList_inj.mp hseq)⟩

/-! ## What is remembered -/

variable (fnv1a32 mi c m) in
/-- A message is accepted if it has a number and its key is not remembered. -/
theorem processMessage_accepts_iff (now : ℤ) : (mi.processMessage fnv1a32 c m now).2 = none ↔
      m.seqId ≠ 0 ∧ mi.remembered fnv1a32 c m = none := by
  unfold processMessage remembered
  by_cases hseq : m.seqId = 0
  · simp [hseq]
  · cases h : mi.shards (shardFor fnv1a32 c) (key c m) <;> simp [hseq, h]

theorem processMessage_congr {mi' : MessageIntegrity}
    (h : mi.remembered fnv1a32 c m = mi'.remembered fnv1a32 c m) (now : ℤ) :
    (mi.processMessage fnv1a32 c m now).2 = (mi'.processMessage fnv1a32 c m now).2 := by
  unfold remembered at h
  unfold processMessage
  by_cases hseq : m.seqId = 0
  · simp [hseq]
  · simp only [hseq, if_false, h]
    split <;> rfl

variable {now : ℤ}

theorem processMessage_of_refused (h : (mi.processMessage fnv1a32 c m now).2 ≠ none) :
    (mi.processMessage fnv1a32 c m now).1 = mi := by
  unfold processMessage at h ⊢
  grind

variable (fnv1a32 mi c m) in
theorem timeWindow_processMessage (now : ℤ) :
    (mi.processMessage fnv1a32 c m now).1.timeWindow = mi.timeWindow := by
  unfold processMessage
  grind [setShard]

variable (fnv1a32 mi c m) in
/-- Another cache in a shard matters to the connections of that shard only. -/
theorem remembered_setShard (i : ℕ) (cache : KeyMap String ℤ) :
    (mi.setShard i cache).remembered fnv1a32 c m =
      if shardFor fnv1a32 c = i then cache (key c m) else mi.remembered fnv1a32 c m := by
  unfold remembered setShard
  by_cases h : shardFor fnv1a32 c = i
  · subst h
    simp
  · simp [h]

/-- An accepted message is remembered with its time, and no other one is touched. -/
theorem remembered_of_accepted (h : (mi.processMessage fnv1a32 c m now).2 = none)
    (hc : FromClient c m) (hc' : FromClient c' m') :
    ((mi.processMessage fnv1a32 c m now).1).remembered fnv1a32 c' m' =
      if c = c' ∧ m.cmd = m'.cmd ∧ m.seqId = m'.seqId then some now
      else mi.remembered fnv1a32 c' m' := by
  obtain ⟨hseq, hnone⟩ := (processMessage_accepts_iff ..).mp h
  have hnone' : (mi.shards (shardFor fnv1a32 c) (key c m)).isSome = false := by
    rw [Option.isSome_eq_false_iff, Option.isNone_iff_eq_none]
    exact hnone
  simp only [processMessage, hseq, if_false, hnone', Bool.false_eq_true]
  rw [remembered_setShard]
  by_cases hsame : c = c' ∧ m.cmd = m'.cmd ∧ m.seqId = m'.seqId
  · obtain ⟨rfl, hcmd, hseq'⟩ := hsame
    have hkey : key c m' = key c m := by simp only [key, hc.noUser, hc'.noUser, hcmd, hseq']
    rw [if_pos rfl, if_pos ⟨rfl, hcmd, hseq'⟩, hkey, KeyMap.store_self]
  · have hkey : key c' m' ≠ key c m := fun heq => hsame (key_inj hc hc' heq.symm)
    rw [if_neg hsame, KeyMap.store_of_ne _ _ hkey]
    split
    · rename_i hshard
      rw [remembered, hshard]
    · rfl

theorem remembered_processMessage (hc : FromClient c m) (hc' : FromClient c' m') :
    ((mi.processMessage fnv1a32 c m now).1).remembered fnv1a32 c' m' =
      if (mi.processMessage fnv1a32 c m now).2 = none ∧ c = c' ∧ m.cmd = m'.cmd ∧ m.seqId = m'.seqId then
        some now
      else mi.remembered fnv1a32 c' m' := by
  by_cases h : (mi.processMessage fnv1a32 c m now).2 = none
  · rw [remembered_of_accepted h hc hc']
    simp only [h, true_and]
  · rw [processMessage_of_refused h, if_neg fun hboth => h hboth.1]

variable (fnv1a32 mi c m) in
theorem remembered_cleanupShard (now : ℤ) (i : ℕ) :
    (mi.cleanupShard now i).remembered fnv1a32 c m = if shardFor fnv1a32 c = i then
        (mi.remembered fnv1a32 c m).filter fun ts => !decide (now - ts > mi.timeWindow)
      else mi.remembered fnv1a32 c m := by
  rw [cleanupShard, remembered_setShard]
  split
  · rename_i h
    subst h
    rfl
  · rfl

end MessageIntegrity

/-! ## Every run -/

section Run

variable {fnv1a32 : String → ℕ} {timeWindow : ℤ} {s s' : IntegrityState}

/-- What the cache knows of the past: an accepted message is remembered with a time that is not
before its own, or is older than the window; and only accepted messages are remembered. -/
structure Remembers (fnv1a32 : String → ℕ) (timeWindow : ℤ) (s : IntegrityState) : Prop where
  window : s.integrity.timeWindow = timeWindow
  pass_le : ∀ now i, s.pass = some (now, i) → now ≤ s.clock
  past : ∀ v ∈ s.log, v.time ≤ s.clock
  kept : ∀ v ∈ s.log, v.err = none → ∀ m, FromClient v.connectionID m →
    v.Same v.connectionID m.cmd m.seqId →
      (∃ t, s.integrity.remembered fnv1a32 v.connectionID m = some t ∧ v.time ≤ t) ∨
        timeWindow < s.clock - v.time
  known : ∀ c m, FromClient c m → s.integrity.remembered fnv1a32 c m ≠ none →
    ∃ v ∈ s.log, v.err = none ∧ v.Same c m.cmd m.seqId
  apart : s.log.Pairwise fun v u => v.err = none → u.err = none →
    u.Same v.connectionID v.cmd v.seqId → timeWindow < v.time - u.time

theorem remembers_start (fnv1a32 : String → ℕ) (timeWindow clock : ℤ) :
    Remembers fnv1a32 timeWindow (.start timeWindow clock) where
  window := rfl
  pass_le := nofun
  past := nofun
  kept := nofun
  known _ _ _ h := absurd rfl h
  apart := List.Pairwise.nil

variable {now : ℤ} {v : Judgement} {m : StreamData}

section

variable (h : Remembers fnv1a32 timeWindow s)
include h

theorem Remembers.kept_until (htime : s.clock ≤ now) (hv : v ∈ s.log) (hverr : v.err = none)
    (hm : FromClient v.connectionID m) (hsame : v.Same v.connectionID m.cmd m.seqId) :
    (∃ t, s.integrity.remembered fnv1a32 v.connectionID m = some t ∧ v.time ≤ t) ∨
      timeWindow < now - v.time := by
  refine (h.kept v hv hverr m hm hsame).imp_right ?_
  intro hold
  omega

theorem Remembers.past_cons (htime : s.clock ≤ v.time) : ∀ u ∈ v :: s.log, u.time ≤ v.time := by
  intro u hu
  rcases List.mem_cons.mp hu with rfl | hu
  · exact le_rfl
  · exact (h.past u hu).trans htime

theorem Remembers.refused (herr : v.err ≠ none) (htime : s.clock ≤ v.time) :
    Remembers fnv1a32 timeWindow { s with clock := v.time, log := v :: s.log } where
  window := h.window
  pass_le now i hpass := (h.pass_le now i hpass).trans htime
  past := h.past_cons htime
  kept u hu huerr m hm hsame := by
    rcases List.mem_cons.mp hu with rfl | hu
    · exact absurd huerr herr
    · exact h.kept_until htime hu huerr hm hsame
  known c m hm hne := by
    obtain ⟨u, hu, hrest⟩ := h.known c m hm hne
    exact ⟨u, List.mem_cons_of_mem v hu, hrest⟩
  apart := by
    refine List.pairwise_cons.mpr ⟨?_, h.apart⟩
    intro u _ hverr
    exact absurd hverr herr

theorem Remembers.accepted {c : String} {m : StreamData} {now : ℤ} (hm : FromClient c m)
    (htime : s.clock ≤ now) (hok : (s.integrity.processMessage fnv1a32 c m now).2 = none) :
    Remembers fnv1a32 timeWindow { s with
      integrity := (s.integrity.processMessage fnv1a32 c m now).1
      clock := now
      log := ⟨c, m.cmd, m.seqId, none, now⟩ :: s.log } where
  window := (timeWindow_processMessage ..).trans h.window
  pass_le now' i hpass := (h.pass_le now' i hpass).trans htime
  past := h.past_cons (v := ⟨c, m.cmd, m.seqId, none, now⟩) htime
  kept u hu huerr m' hm' hsame := by
    rw [remembered_of_accepted hok hm hm']
    split
    · -- the entry now has the time of this message
      exact .inl ⟨now, rfl, h.past_cons (v := ⟨c, m.cmd, m.seqId, none, now⟩) htime u hu⟩
    · rename_i hother
      rcases List.mem_cons.mp hu with rfl | hu
      · exact absurd ⟨rfl, hsame.2.1, hsame.2.2⟩ hother
      · exact h.kept_until htime hu huerr hm' hsame
  known c' m' hm' hne := by
    have hne' : ((s.integrity.processMessage fnv1a32 c m now).1).remembered fnv1a32 c' m' ≠ none := hne
    rw [remembered_of_accepted hok hm hm'] at hne'
    split at hne'
    · rename_i hsame
      exact ⟨_, List.mem_cons_self, rfl, hsame⟩
    · obtain ⟨u, hu, hrest⟩ := h.known c' m' hm' hne'
      exact ⟨u, List.mem_cons_of_mem _ hu, hrest⟩
  apart := by
    refine List.pairwise_cons.mpr ⟨?_, h.apart⟩
    intro u hu _ huerr hsame
    obtain ⟨hc, hcmd, hseq⟩ := hsame
    have hnone := ((processMessage_accepts_iff ..).mp hok).2
    -- if the earlier message were remembered, this one would have been refused
    rcases h.kept_until htime hu huerr (m := m) (by rw [hc]; exact hm) ⟨rfl, hcmd, hseq⟩ with
      ⟨t, ht, -⟩ | hold
    · rw [hc, hnone] at ht
      cases ht
    · exact hold

theorem Remembers.tick (htime : s.clock ≤ now) :
    Remembers fnv1a32 timeWindow { s with clock := now, pass := some (now, 0) } where
  __ := h
  pass_le now' i hpass := by
    obtain ⟨rfl, -⟩ := Prod.mk.inj (Option.some.inj hpass)
    exact le_rfl
  past v hv := (h.past v hv).trans htime
  kept v hv hverr m hm hsame := h.kept_until htime hv hverr hm hsame

theorem Remembers.cleanup {i : ℕ} {pass : Option (ℤ × ℕ)} (hnow : now ≤ s.clock)
    (hpass : ∀ t j, pass = some (t, j) → t ≤ s.clock) :
    Remembers fnv1a32 timeWindow
      { s with integrity := s.integrity.cleanupShard now i, pass := pass } where
  __ := h
  pass_le := hpass
  kept v hv hverr m hm hsame := by
    rcases h.kept v hv hverr m hm hsame with ⟨t, ht, hle⟩ | hold
    · by_cases hexpired : now - t > timeWindow
      · exact .inr (by show timeWindow < s.clock - v.time; omega)
      · refine .inl ⟨t, ?_, hle⟩
        rw [remembered_cleanupShard, ht, h.window]
        simp [hexpired]
    · exact .inr hold
  known c m hm hne := by
    refine h.known c m hm fun hnone => hne ?_
    rw [remembered_cleanupShard, hnone]
    simp

end

variable {a : IntegrityAction}

theorem Remembers.step (h : Remembers fnv1a32 timeWindow s) (ha : a.OfClient)
    (hs : stepIntegrity fnv1a32 s a = some s') : Remembers fnv1a32 timeWindow s' := by
  cases a with
  | message c m now =>
    simp only [stepIntegrity] at hs
    split at hs <;> cases hs
    rename_i htime
    have htime' : s.clock ≤ now := not_lt.mp htime
    cases herr : (s.integrity.processMessage fnv1a32 c m now).2 with
    | none => exact h.accepted ha htime' herr
    | some err =>
      rw [processMessage_of_refused (by simp [herr])]
      exact h.refused (v := ⟨c, m.cmd, m.seqId, some err, now⟩) (by simp) htime'
  | tick now =>
    simp only [stepIntegrity] at hs
    split at hs <;> cases hs
    rename_i hguard
    exact h.tick (not_lt.mp fun hlt => hguard (Or.inl hlt))
  | cleanup =>
    simp only [stepIntegrity] at hs
    split at hs <;> cases hs
    rename_i now i hpass
    refine h.cleanup (h.pass_le now i hpass) ?_
    intro t j hj
    split at hj
    · obtain ⟨rfl, -⟩ := Prod.mk.inj (Option.some.inj hj)
      exact h.pass_le now i hpass
    · cases hj

/-! ## Two connections -/

/-- Two states look alike to a connection: the same messages of it are remembered, its verdicts are
the same, and the cleanup goroutine is at the same place. -/
structure Alike (fnv1a32 : String → ℕ) (c : String) (s t : IntegrityState) : Prop where
  window : s.integrity.timeWindow = t.integrity.timeWindow
  clock_le : t.clock ≤ s.clock
  pass : s.pass = t.pass
  remembered : ∀ m, FromClient c m →
    s.integrity.remembered fnv1a32 c m = t.integrity.remembered fnv1a32 c m
  log : s.log.filter (fun v => v.connectionID = c) = t.log.filter (fun v => v.connectionID = c)

variable {s t : IntegrityState} {c : String}

section

variable (h : Alike fnv1a32 c s t)
include h

theorem Alike.message (hm : FromClient c m)
    (hs : stepIntegrity fnv1a32 s (.message c m now) = some s') :
    ∃ t', stepIntegrity fnv1a32 t (.message c m now) = some t' ∧ Alike fnv1a32 c s' t' := by
  simp only [stepIntegrity] at hs ⊢
  split at hs <;> cases hs
  rename_i htime
  have htime' : ¬ now < t.clock := fun hlt => htime (lt_of_lt_of_le hlt h.clock_le)
  have hverdict := processMessage_congr (h.remembered m hm) now
  rw [if_neg htime', ← hverdict]
  refine ⟨_, rfl, ?_, le_rfl, h.pass, ?_, ?_⟩
  · rw [timeWindow_processMessage, timeWindow_processMessage]
    exact h.window
  · intro m' hm'
    rw [remembered_processMessage hm hm',
      remembered_processMessage hm hm', hverdict, h.remembered m' hm']
  · simp [h.log]

variable (ha : a.OfClient) (hs : stepIntegrity fnv1a32 s a = some s')
include ha hs

theorem Alike.concerned (hc : a.concerns c = true) :
    ∃ t', stepIntegrity fnv1a32 t a = some t' ∧ Alike fnv1a32 c s' t' := by
  cases a with
  | message c' m now =>
    obtain rfl : c' = c := by simpa [IntegrityAction.concerns] using hc
    exact h.message ha hs
  | tick now =>
    simp only [stepIntegrity] at hs ⊢
    split at hs <;> cases hs
    rename_i hguard
    have hguard' : ¬ (now < t.clock ∨ t.pass.isSome = true) := by
      rw [← h.pass]
      rintro (hlt | hpass)
      · exact hguard (Or.inl (lt_of_lt_of_le hlt h.clock_le))
      · exact hguard (Or.inr hpass)
    rw [if_neg hguard']
    exact ⟨_, rfl, h.window, le_rfl, rfl, h.remembered, h.log⟩
  | cleanup =>
    simp only [stepIntegrity] at hs ⊢
    rw [← h.pass]
    split at hs <;> cases hs
    refine ⟨_, rfl, h.window, h.clock_le, rfl, ?_, h.log⟩
    intro m hm
    rw [remembered_cleanupShard, remembered_cleanupShard, h.remembered m hm, h.window]

theorem Alike.other (hc : a.concerns c = false) : Alike fnv1a32 c s' t := by
  cases a with
  | message c' m now =>
    have hne : c' ≠ c := by simpa [IntegrityAction.concerns] using hc
    simp only [stepIntegrity] at hs
    split at hs <;> cases hs
    rename_i htime
    refine ⟨?_, h.clock_le.trans (not_lt.mp htime), h.pass, ?_, ?_⟩
    · rw [timeWindow_processMessage]
      exact h.window
    · intro m' hm'
      rw [remembered_processMessage ha hm', if_neg fun hsame => hne hsame.2.1,
        h.remembered m' hm']
    · rw [List.filter_cons_of_neg (by simpa using hne)]
      exact h.log
  | tick now | cleanup => cases hc

end

end Run

/-- **Replay protection.** In every run in which the messages come from clients: two acceptances of
one connection, command and sequence number are more than the window apart; a message with a sequence
number that was never accepted is accepted; and without the messages of the other connections the
verdicts on a connection are the same. -/
theorem replay_protection (fnv1a32 : String → ℕ) (timeWindow clock : ℤ) {as : List IntegrityAction}
    (has : ∀ a ∈ as, a.OfClient) {s : IntegrityState}
    (hrun : run (stepIntegrity fnv1a32) (.start timeWindow clock) as = some s) :
    (s.log.Pairwise fun later earlier => later.err = none → earlier.err = none →
      earlier.Same later.connectionID later.cmd later.seqId →
        timeWindow < later.time - earlier.time) ∧
    (∀ connectionID msg now, FromClient connectionID msg → msg.seqId ≠ 0 →
      (∀ v ∈ s.log, v.err = none → ¬ v.Same connectionID msg.cmd msg.seqId) →
        (s.integrity.processMessage fnv1a32 connectionID msg now).2 = none) ∧
    (∀ connectionID, ∃ s', run (stepIntegrity fnv1a32) (.start timeWindow clock)
        (as.filter (·.concerns connectionID)) = some s' ∧
      s.log.filter (fun v => v.connectionID = connectionID) =
        s'.log.filter (fun v => v.connectionID = connectionID)) := by
  have hremembers : Remembers fnv1a32 timeWindow s :=
    run_invariant (G := fun _ a => a.OfClient) (fun _ _ _ h ha hs => h.step ha hs)
      (remembers_start fnv1a32 timeWindow clock) (guarded_of_forall_mem fun a ha _ => has a ha) hrun
  refine ⟨hremembers.apart, ?_, ?_⟩
  · intro c m now hm hseq hnever
    refine (processMessage_accepts_iff ..).mpr ⟨hseq, ?_⟩
    by_contra hne
    obtain ⟨v, hv, hverr, hsame⟩ := hremembers.known c m hm hne
    exact hnever v hv hverr hsame
  · intro c
    have halike : Alike fnv1a32 c (.start timeWindow clock) (.start timeWindow clock) :=
      ⟨rfl, le_rfl, rfl, fun _ _ => rfl, rfl⟩
    obtain ⟨t, ht, h⟩ := run_filter (·.concerns c) halike
      (fun a ha hkeep s t s' h hs => h.concerned (has a ha) hs hkeep)
      (fun a ha hdrop s t s' h hs => h.other (has a ha) hs hdrop) hrun
    exact ⟨t, ht, h.log⟩

/-- A message is replayed within the window and again after a cleanup pass; another connection uses
the same numbers. -/
def replayedTwice : List IntegrityAction :=
  [.message "conn_1" ⟨"", "", 5, 7, [], ""⟩ 0, .message "conn_2" ⟨"", "", 5, 7, [], ""⟩ 1,
    .message "conn_1" ⟨"", "", 5, 7, [], ""⟩ 30000, .tick 30001] ++
  List.replicate integrityShardCount .cleanup ++ [.message "conn_1" ⟨"", "", 5, 7, [], ""⟩ 30001]

theorem replay_protection_replayedTwice :
    (run (stepIntegrity String.length) (.start 30000 0) replayedTwice).map
        (fun s => s.log.map fun v => (v.connectionID, v.err)) =
      some [("conn_1", none), ("conn_1", some MessageIntegrity.errIntegrityReplay), ("conn_2", none),
        ("conn_1", none)] ∧
    ∀ s, run (stepIntegrity String.length) (.start 30000 0) replayedTwice = some s →
      (s.log.Pairwise fun later earlier => later.err = none → earlier.err = none →
        earlier.Same later.connectionID later.cmd later.seqId → 30000 < later.time - earlier.time) :=
  ⟨by decide +kernel, fun _ hs => (replay_protection String.length 30000 0 (by
    intro a ha
    simp only [replayedTwice, List.cons_append, List.nil_append, List.mem_cons, List.mem_append,
      List.mem_replicate, List.not_mem_nil, or_false] at ha
    rcases ha with rfl | rfl | rfl | rfl | ⟨-, rfl⟩ | rfl
    all_goals first
      | trivial
      | exact ⟨by decide, rfl⟩) hs).1⟩

end Sgate.Gateway
