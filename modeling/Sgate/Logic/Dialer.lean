import Sgate.Lib.KeyMap
import Sgate.Lib.Transition
import Mathlib.Data.Finset.Filter
import Mathlib.Data.Finset.Range

/-! # The dialer of a logic server

A registration makes sure that there is a dial loop for an address (`Dialer.ensureGate`), a
deregistration marks the link of the address stale in two steps, and the loop looks at the flag only
between two sessions. `Dialer.Stop` cancels the sessions of all links by the functions their loops have
stored. One action is one critical section, one access to a flag or one step of a loop. -/

namespace Sgate.Logic

open Transition KeyMap

/-! ## Links and their loops -/

/-- The next step of a dial loop. The flag of the last part of a session says whether the session
saw `stopCh` closed. -/
inductive DialPhase
  /-- `runGate` tests `stopCh`. -/
  | checkStop
  /-- `runGate` tests the stale flag. -/
  | checkStale
  /-- `runSession` creates the context of the session. -/
  | newContext
  /-- `runSession` stores the cancel function in the link. -/
  | setCancel
  /-- The connections are created. -/
  | newClients
  | establish
  /-- The streams run until one of them exits; then the context is cancelled. -/
  | serve
  /-- `runSession` tests `stopCh`. -/
  | checkSession
  /-- Deferred: the context is cancelled. -/
  | cancelContext (stopped : Bool)
  /-- Deferred: the cancel function is removed from the link. -/
  | clearCancel (stopped : Bool)
  /-- `runGate` looks at the result of the session and tests `stopCh`. -/
  | sessionEnded (stopped : Bool)
  /-- `runGate` waits for `stopCh` or the end of the interval. -/
  | backoff
  /-- Deferred: the link is removed from the map. -/
  | removeGate
  | exited
  deriving DecidableEq

/-- A link to a gateway, with the state of its dial loop. -/
structure GateLink where
  addr : String
  stale : Bool := false
  /-- The context whose cancel function is stored. -/
  cancel : Option ℕ := none
  phase : DialPhase := .checkStop
  /-- Contexts created so far; the last one is that of the current session. -/
  contexts : ℕ := 0
  cancelled : Finset ℕ := ∅

namespace GateLink

def markStale (g : GateLink) : GateLink := { g with stale := true }

def clearStale (g : GateLink) : GateLink := { g with stale := false }

def isStale (g : GateLink) : Bool := g.stale

def setCancel (g : GateLink) (cancel : Option ℕ) : GateLink := { g with cancel := cancel }

/-- What the cancellation pass does to a link: take the cancel function and call it. -/
def takeCancel (g : GateLink) : GateLink :=
  match g.cancel with
  | some c => { g with cancel := none, cancelled := insert c g.cancelled }
  | none => g

/-- One step of the dial loop of a link, up to the removal from the map. The parameter `ok` says
whether the connections or streams could be set up, or which of two ready cases a `select` takes. -/
def next (g : GateLink) (stopped ok : Bool) : GateLink :=
  match g.phase with
  | .checkStop => { g with phase := if stopped then .removeGate else .checkStale }
  | .checkStale => { g with phase := if g.isStale then .removeGate else .newContext }
  | .newContext => { g with contexts := g.contexts + 1, phase := .setCancel }
  | .setCancel => { g.setCancel (some g.contexts) with phase := .newClients }
  | .newClients => { g with phase := if ok then .establish else .cancelContext false }
  | .establish => { g with phase := if ok then .serve else .cancelContext false }
  | .serve => { g with cancelled := insert g.contexts g.cancelled, phase := .checkSession }
  | .checkSession => { g with phase := .cancelContext stopped }
  | .cancelContext b => { g with cancelled := insert g.contexts g.cancelled, phase := .clearCancel b }
  | .clearCancel b => { g.setCancel none with phase := .sessionEnded b }
  | .sessionEnded b => { g with phase := if b || stopped then .removeGate else .backoff }
  | .backoff => { g with phase := if stopped && ok then .removeGate else .checkStop }
  | .removeGate => g
  | .exited => g

def Running (g : GateLink) : Prop := g.phase ≠ .exited

/-- The loop is not on its way out and will not be sent there by the flag. -/
def Stays (g : GateLink) : Prop := g.stale = false ∧ g.phase ≠ .removeGate

/-- The loop uses the context of a session: the cancel function has been stored. -/
def InSession (g : GateLink) : Prop := g.phase = .newClients ∨ g.phase = .establish ∨ g.phase = .serve

/-- The loop is between its stop test and the store of the cancel function. -/
def InWindow (g : GateLink) : Prop :=
  g.phase = .checkStale ∨ g.phase = .newContext ∨ g.phase = .setCancel

/-- The context of the current session is cancelled. -/
def Cancelled (g : GateLink) : Prop := g.contexts ∈ g.cancelled

instance (g : GateLink) : Decidable g.InWindow := inferInstanceAs (Decidable (_ ∨ _))

instance (g : GateLink) : Decidable g.Cancelled := inferInstanceAs (Decidable (_ ∈ _))

section

variable {g : GateLink} {stopped ok : Bool}

@[simp] theorem next_addr : (g.next stopped ok).addr = g.addr := by
  unfold next
  split <;> rfl

@[simp] theorem next_stale : (g.next stopped ok).stale = g.stale := by
  unfold next
  split <;> rfl

@[simp] theorem takeCancel_addr : g.takeCancel.addr = g.addr := by
  unfold takeCancel
  split <;> rfl

@[simp] theorem takeCancel_stale : g.takeCancel.stale = g.stale := by
  unfold takeCancel
  split <;> rfl

@[simp] theorem takeCancel_phase : g.takeCancel.phase = g.phase := by
  unfold takeCancel
  split <;> rfl

theorem next_running (h : g.Running) : (g.next stopped ok).Running := by
  unfold Running next at *
  split <;> (try split) <;> simp_all

/-- The session has seen `stopCh` closed. -/
def SawStop (g : GateLink) : Prop :=
  g.phase = .cancelContext true ∨ g.phase = .clearCancel true ∨ g.phase = .sessionEnded true

theorem next_sawStop (h : (g.next stopped ok).SawStop) : g.SawStop ∨ stopped = true := by
  unfold SawStop next at *
  split at h <;> (try split at h) <;> simp_all

theorem next_removeGate (h : (g.next stopped ok).phase = .removeGate) :
    g.phase = .removeGate ∨ stopped = true ∨ g.stale = true ∨ g.SawStop := by
  unfold SawStop next isStale at *
  split at h <;> (try split at h) <;> grind

end

end GateLink

open GateLink

/-! ## The dialer -/

inductive GateEvent
  | register
  | deregister
  deriving DecidableEq

/-- Where `Stop` is. -/
inductive StopPhase
  | notCalled
  /-- It holds the lock; the sessions of the links in the list are still to be cancelled. -/
  | cancelling (rest : List ℕ)
  | waiting
  deriving DecidableEq

structure Dialer where
  /-- Address to link. -/
  gates : KeyMap String ℕ
  links : KeyMap ℕ GateLink
  nextLink : ℕ
  /-- Whether `stopCh` is closed. -/
  stopCh : Bool
  stop : StopPhase
  /-- Links that a deregistration has looked up and not yet marked. -/
  marking : List ℕ
  lastEvent : KeyMap String GateEvent

/-- A step of an event handler, of a dial loop or of `Stop`. -/
inductive DialAction
  /-- A registration: `ensureGate`. -/
  | register (addr : String)
  /-- A deregistration looks the link up. -/
  | deregister (addr : String)
  /-- A deregistration marks the link it found. -/
  | markStale (g : ℕ)
  /-- One step of the loop of link `g`. -/
  | loop (g : ℕ) (ok : Bool)
  /-- `Stop` takes the lock and closes `stopCh`; it goes through the links in the given order. -/
  | stop (order : List ℕ)
  /-- `Stop` cancels the session of the next link. -/
  | cancelNext
  /-- `Stop` gives the lock back. -/
  | unlock

namespace Dialer

def newDialer : Dialer where
  gates := .empty
  links := .empty
  nextLink := 0
  stopCh := false
  stop := .notCalled
  marking := []
  lastEvent := .empty

/-- `Stop` holds the lock. -/
def locked (d : Dialer) : Bool :=
  match d.stop with
  | .cancelling _ => true
  | _ => false

/-- Make sure that there is a dial loop for the address. -/
def ensureGate (d : Dialer) (addr : String) : Dialer :=
  if d.stopCh then d
  else
    match d.gates addr with
    | some g => { d with links := d.links.modify g GateLink.clearStale }
    | none =>
      { d with
        gates := d.gates.store addr d.nextLink
        links := d.links.store d.nextLink { addr := addr }
        nextLink := d.nextLink + 1 }

/-- First half of `markGateStale`: look the link of the address up. -/
def lookupGate (d : Dialer) (addr : String) : Dialer :=
  match d.gates addr with
  | some g => { d with marking := g :: d.marking }
  | none => d

/-- The loop of link `g` removes its link from the map, if it is still there, and returns. -/
def removeGate (d : Dialer) (g : ℕ) (link : GateLink) : Dialer :=
  { d with
    gates := d.gates.deleteIf link.addr g
    links := d.links.store g { link with phase := .exited } }

/-- One step of the loop of link `g`. -/
def stepLoop (d : Dialer) (g : ℕ) (ok : Bool) : Option Dialer :=
  match d.links g with
  | none => none
  | some link =>
    if link.phase = .exited then none
    else if link.phase = .removeGate then if d.locked then none else some (d.removeGate g link)
    else some { d with links := d.links.store g (link.next d.stopCh ok) }

/-- The link is the one the map has for its address. -/
def registered (d : Dialer) (g : ℕ) : Bool :=
  match d.links g with
  | some link => d.gates link.addr = some g
  | none => false

def step (d : Dialer) : DialAction → Option Dialer
  | .register addr =>
    if d.locked then none
    else some { d.ensureGate addr with lastEvent := d.lastEvent.store addr .register }
  | .deregister addr =>
    if d.locked then none
    else some { d.lookupGate addr with lastEvent := d.lastEvent.store addr .deregister }
  | .markStale g =>
    if g ∈ d.marking then
      some { d with marking := d.marking.erase g, links := d.links.modify g GateLink.markStale }
    else none
  | .loop g ok => d.stepLoop g ok
  | .stop order =>
    if d.stop = .notCalled ∧ order.Nodup ∧
        order.toFinset = (Finset.range d.nextLink).filter (d.registered ·) then
      some { d with stopCh := true, stop := .cancelling order }
    else none
  | .cancelNext =>
    match d.stop with
    | .cancelling (g :: rest) =>
      some { d with stop := .cancelling rest, links := d.links.modify g GateLink.takeCancel }
    | _ => none
  | .unlock => if d.stop = .cancelling [] then some { d with stop := .waiting } else none

/-! ## What a step does -/

section

variable {d d' : Dialer} {addr : String} {g : ℕ} {link : GateLink} {ok : Bool} {a : DialAction}
  {as : List DialAction}

/-- **A registration** finds the dialer stopped, finds a link or starts a loop. -/
theorem ensureGate_cases (d : Dialer) (addr : String) :
    (d.stopCh = true ∧ d.ensureGate addr = d) ∨
    (d.stopCh = false ∧ ∃ g, d.gates addr = some g ∧
      d.ensureGate addr = { d with links := d.links.modify g clearStale }) ∨
    (d.stopCh = false ∧ d.gates addr = none ∧ d.ensureGate addr = { d with
          gates := d.gates.store addr d.nextLink
          links := d.links.store d.nextLink { addr := addr }
          nextLink := d.nextLink + 1 }) := by
  unfold ensureGate
  cases hstop : d.stopCh with
  | true => exact .inl ⟨rfl, rfl⟩
  | false =>
    right
    cases hg : d.gates addr with
    | some g => exact .inl ⟨rfl, g, rfl, rfl⟩
    | none => exact .inr ⟨rfl, rfl, rfl⟩

theorem lookupGate_eq (d : Dialer) (addr : String) :
    d.lookupGate addr = { d with marking := (d.gates addr).toList ++ d.marking } := by
  unfold lookupGate
  cases d.gates addr <;> rfl

/-- **A step of a loop** removes the link or goes on to the next phase. -/
theorem stepLoop_cases (h : d.stepLoop g ok = some d') : ∃ link, d.links g = some link ∧ link.Running ∧
    ((link.phase = .removeGate ∧ d.locked = false ∧ d' = d.removeGate g link) ∨
      (link.phase ≠ .removeGate ∧ d' = { d with links := d.links.store g (link.next d.stopCh ok) })) := by
  unfold stepLoop at h
  cases hlink : d.links g with
  | none => rw [hlink] at h; cases h
  | some link =>
    rw [hlink] at h
    dsimp only at h
    split at h
    · cases h
    · rename_i hrunning
      refine ⟨link, rfl, hrunning, ?_⟩
      split at h
      · rename_i hremove
        split at h
        · cases h
        · rename_i hlocked
          exact .inl ⟨hremove, by simpa using hlocked, (Option.some.inj h).symm⟩
      · rename_i hremove
        exact .inr ⟨hremove, (Option.some.inj h).symm⟩

/-- **What a step can do.** -/
inductive DialStep (d : Dialer) : DialAction → Dialer → Prop
  | register (addr : String) : DialStep d (.register addr)
      { d.ensureGate addr with lastEvent := d.lastEvent.store addr .register }
  | deregister (addr : String) : DialStep d (.deregister addr)
      { d.lookupGate addr with lastEvent := d.lastEvent.store addr .deregister }
  | markStale {g : ℕ} (hg : g ∈ d.marking) : DialStep d (.markStale g)
      { d with marking := d.marking.erase g, links := d.links.modify g .markStale }
  | loop {g : ℕ} {ok : Bool} {d' : Dialer} (hs : d.stepLoop g ok = some d') : DialStep d (.loop g ok) d'
  | stop {order : List ℕ}
      (horder : order.toFinset = (Finset.range d.nextLink).filter (d.registered ·)) :
      DialStep d (.stop order) { d with stopCh := true, stop := .cancelling order }
  | cancelNext {g : ℕ} {rest : List ℕ} (hstop : d.stop = .cancelling (g :: rest)) :
      DialStep d .cancelNext { d with stop := .cancelling rest, links := d.links.modify g takeCancel }
  | unlock (hstop : d.stop = .cancelling []) : DialStep d .unlock { d with stop := .waiting }

theorem dialStep_of_step (hs : d.step a = some d') : DialStep d a d' := by
  cases a with
  | register addr =>
    obtain ⟨-, ⟨⟩⟩ := Option.ite_none_left_eq_some.mp hs
    exact .register addr
  | deregister addr =>
    obtain ⟨-, ⟨⟩⟩ := Option.ite_none_left_eq_some.mp hs
    exact .deregister addr
  | markStale g =>
    obtain ⟨hg, ⟨⟩⟩ := Option.ite_none_right_eq_some.mp hs
    exact .markStale hg
  | loop g ok => exact .loop hs
  | stop order =>
    obtain ⟨⟨-, -, horder⟩, ⟨⟩⟩ := Option.ite_none_right_eq_some.mp hs
    exact .stop horder
  | cancelNext =>
    unfold step at hs
    dsimp only at hs
    split at hs <;> cases hs
    rename_i hstop
    exact .cancelNext hstop
  | unlock =>
    obtain ⟨hstop, ⟨⟩⟩ := Option.ite_none_right_eq_some.mp hs
    exact .unlock hstop

/-! ## One loop for an address -/

/-- **The map and the loops.** The map has exactly the links whose loops have not returned, and a
session has seen `stopCh` closed only if it is. -/
structure Coherent (d : Dialer) : Prop where
  gate : ∀ addr g, d.gates addr = some g → ∃ link, d.links g = some link ∧ link.addr = addr ∧ link.Running
  loop : ∀ g link, d.links g = some link → link.Running → d.gates link.addr = some g
  fresh : ∀ g link, d.links g = some link → g < d.nextLink
  sawStop : ∀ g link, d.links g = some link → link.SawStop → d.stopCh = true

theorem coherent_newDialer : newDialer.Coherent := ⟨nofun, nofun, nofun, nofun⟩

variable {f : GateLink → GateLink}

section

variable (h : d.Coherent)
include h

theorem Coherent.modify (g : ℕ) (haddr : ∀ link, (f link).addr = link.addr)
    (hphase : ∀ link, (f link).phase = link.phase) :
    { d with links := d.links.modify g f }.Coherent := by
  constructor
  · intro addr g' hg'
    obtain ⟨link, hlink, hladdr, hrunning⟩ := h.gate addr g' hg'
    refine ⟨_, modify_eq_some.mpr ⟨link, hlink, rfl⟩, ?_⟩
    split
    · exact ⟨(haddr link).trans hladdr, by unfold GateLink.Running; rwa [hphase link]⟩
    · exact ⟨hladdr, hrunning⟩
  · refine forall_modify h.loop fun g' link hl hrunning => ?_
    unfold GateLink.Running at hrunning
    rw [hphase link] at hrunning
    exact (congrArg d.gates (haddr link)).trans (hl hrunning)
  · exact forall_modify h.fresh fun _ _ hl => hl
  · refine forall_modify h.sawStop fun g' link hl hsaw => ?_
    unfold GateLink.SawStop at hsaw
    rw [hphase link] at hsaw
    exact hl hsaw

theorem Coherent.newLink (hnone : d.gates addr = none) :
    { d with
      gates := d.gates.store addr d.nextLink
      links := d.links.store d.nextLink { addr := addr }
      nextLink := d.nextLink + 1 }.Coherent := by
  have hnew : ∀ g link, d.links g = some link → g ≠ d.nextLink := by
    intro g link hlink
    exact Nat.ne_of_lt (h.fresh g link hlink)
  constructor
  · refine forall_store ?_ fun addr' g' _ hg' => ?_
    · exact ⟨{ addr := addr }, store_self .., rfl, nofun⟩
    · obtain ⟨link, hlink, hrest⟩ := h.gate addr' g' hg'
      exact ⟨link, (store_of_ne _ _ (hnew g' link hlink)).trans hlink, hrest⟩
  · refine forall_store ?_ fun g' link' _ hlink' hrunning => ?_
    · intro _
      exact store_self ..
    · have hgate := h.loop g' link' hlink' hrunning
      have hne : link'.addr ≠ addr := by
        intro heq
        rw [heq, hnone] at hgate
        cases hgate
      exact (store_of_ne _ _ hne).trans hgate
  · refine forall_store (Nat.lt_succ_self _) fun g' link' _ hlink' => ?_
    exact Nat.lt_succ_of_lt (h.fresh g' link' hlink')
  · refine forall_store ?_ fun g' link' _ hlink' => h.sawStop g' link' hlink'
    rintro (hc | hc | hc) <;> cases hc

theorem Coherent.nextPhase (hlink : d.links g = some link) (hrunning : link.Running) :
    { d with links := d.links.store g (link.next d.stopCh ok) }.Coherent := by
  constructor
  · intro addr g' hg'
    obtain ⟨link', hlink', haddr, hrunning'⟩ := h.gate addr g' hg'
    by_cases hgg : g' = g
    · subst hgg
      cases hlink.symm.trans hlink'
      exact ⟨_, store_self .., next_addr.trans haddr, next_running hrunning⟩
    · exact ⟨link', (store_of_ne _ _ hgg).trans hlink', haddr, hrunning'⟩
  · refine forall_store (fun _ => ?_) fun g' link' _ => h.loop g' link'
    rw [next_addr]
    exact h.loop g link hlink hrunning
  · exact forall_store (h.fresh g link hlink) fun g' link' _ => h.fresh g' link'
  · refine forall_store (fun hsaw => ?_) fun g' link' _ => h.sawStop g' link'
    exact (next_sawStop hsaw).elim (h.sawStop g link hlink) id

theorem Coherent.removeGate (hlink : d.links g = some link) : (d.removeGate g link).Coherent := by
  constructor
  · intro addr g' hg'
    obtain ⟨hgate, hother⟩ := deleteIf_eq_some.mp hg'
    obtain ⟨link', hlink', haddr, hrunning'⟩ := h.gate addr g' hgate
    have hne : g' ≠ g := by
      rintro rfl
      cases hlink.symm.trans hlink'
      exact hother ⟨haddr.symm, rfl⟩
    exact ⟨link', (store_of_ne _ _ hne).trans hlink', haddr, hrunning'⟩
  · refine forall_store (fun hc => absurd rfl hc) fun g' link' hne hlink' hrunning' => ?_
    exact deleteIf_eq_some.mpr ⟨h.loop g' link' hlink' hrunning', fun hc => hne hc.2⟩
  · exact forall_store (h.fresh g link hlink) fun g' link' _ => h.fresh g' link'
  · refine forall_store ?_ fun g' link' _ => h.sawStop g' link'
    rintro (hc | hc | hc) <;> cases hc

theorem Coherent.of_same (hstop : d.stopCh = true → d'.stopCh = true := by exact id)
    (hgates : d'.gates = d.gates := by rfl) (hlinks : d'.links = d.links := by rfl)
    (hnext : d'.nextLink = d.nextLink := by rfl) : d'.Coherent := by
  constructor
  · rw [hgates, hlinks]
    exact h.gate
  · rw [hgates, hlinks]
    exact h.loop
  · rw [hlinks, hnext]
    exact h.fresh
  · rw [hlinks]
    exact fun g link hlink hsaw => hstop (h.sawStop g link hlink hsaw)

theorem Coherent.ensureGate : (d.ensureGate addr).Coherent := by
  obtain ⟨-, heq⟩ | ⟨-, g, -, heq⟩ | ⟨-, hnone, heq⟩ := ensureGate_cases d addr
  · rw [heq]
    exact h
  · rw [heq]
    exact h.modify g (fun _ => rfl) fun _ => rfl
  · rw [heq]
    exact h.newLink hnone

theorem Coherent.stepLoop (hs : d.stepLoop g ok = some d') : d'.Coherent := by
  obtain ⟨link, hlink, hrunning, ⟨-, -, rfl⟩ | ⟨-, rfl⟩⟩ := stepLoop_cases hs
  · exact h.removeGate hlink
  · exact h.nextPhase hlink hrunning

theorem Coherent.step (hs : d.step a = some d') : d'.Coherent := by
  cases dialStep_of_step hs with
  | register => exact h.ensureGate.of_same
  | deregister =>
    rw [lookupGate_eq]
    exact h.of_same
  | @markStale g =>
    exact (h.modify g (f := .markStale) (fun _ => rfl) fun _ => rfl).of_same
  | loop hs => exact h.stepLoop hs
  | stop => exact h.of_same fun _ => rfl
  | @cancelNext g =>
    exact (h.modify g (fun _ => takeCancel_addr) fun _ => takeCancel_phase).of_same
  | unlock => exact h.of_same

end

/-- **At most one loop for an address.** -/
theorem coherent_run (hrun : run step newDialer as = some d) : d.Coherent :=
  invariant_of_run (fun _ _ _ h hs => h.step hs) coherent_newDialer hrun

/-! ## Registrations -/

/-- The map has a link for the address whose loop stays, and nobody is about to mark it. -/
def Dialled (d : Dialer) (addr : String) : Prop :=
  ∃ g link, d.gates addr = some g ∧ d.links g = some link ∧ link.Stays ∧ g ∉ d.marking

/-- **Registrations are kept**: while the dialer is not stopped, an address is dialled as long as its
last event is a registration. -/
structure Kept (d : Dialer) : Prop where
  coherent : d.Coherent
  marks : ∀ g ∈ d.marking, g < d.nextLink
  dialled : d.stopCh = false → ∀ addr, d.lastEvent addr = some .register → d.Dialled addr

/-- **The condition on a registration**: the link it finds, if any, has a loop that is not on its way
out, and no deregistration has looked the link up and not yet marked it. -/
def RegisterClear (d : Dialer) : DialAction → Prop
  | .register addr =>
    ∀ g ∈ d.gates addr, g ∉ d.marking ∧ ∀ link ∈ d.links g, link.phase ≠ .removeGate
  | _ => True

instance (d : Dialer) : (a : DialAction) → Decidable (d.RegisterClear a)
  | .register addr => inferInstanceAs (Decidable (∀ g ∈ d.gates addr, _))
  | .deregister _ | .markStale _ | .loop _ _ | .stop _ | .cancelNext | .unlock => isTrue trivial

theorem Dialled.modify (h : d.Dialled addr) (hf : ∀ link, link.Stays → (f link).Stays) (g : ℕ) :
    { d with links := d.links.modify g f }.Dialled addr := by
  obtain ⟨g', link, hgate, hlink, hstays, hmarking⟩ := h
  refine ⟨g', _, hgate, modify_eq_some.mpr ⟨link, hlink, rfl⟩, ?_, hmarking⟩
  split
  · exact hf link hstays
  · exact hstays

theorem dialled_ensureGate (h : d.Coherent) (hstop : d.stopCh = false)
    (hclear : d.RegisterClear (.register addr)) (hmarks : ∀ g ∈ d.marking, g < d.nextLink) :
    (d.ensureGate addr).Dialled addr := by
  obtain ⟨hstopped, -⟩ | ⟨-, g, hgate, heq⟩ | ⟨-, -, heq⟩ := ensureGate_cases d addr
  · cases hstop.symm.trans hstopped
  · obtain ⟨link, hlink, -, -⟩ := h.gate addr g hgate
    obtain ⟨hmarking, hphase⟩ := hclear g hgate
    have hphase : link.phase ≠ .removeGate := hphase link hlink
    rw [heq]
    exact ⟨g, link.clearStale, hgate, modify_eq_some.mpr ⟨link, hlink, by rw [if_pos rfl]⟩,
      ⟨rfl, hphase⟩, hmarking⟩
  · rw [heq]
    refine ⟨d.nextLink, { addr := addr }, store_self .., store_self .., ⟨rfl, nofun⟩, ?_⟩
    exact fun hc => absurd (hmarks _ hc) (Nat.lt_irrefl _)

variable {addr' : String}

section

variable (hd : d.Dialled addr)
include hd

theorem Dialled.ensureGate (h : d.Coherent) (hne : addr ≠ addr') :
    (d.ensureGate addr').Dialled addr := by
  obtain ⟨-, heq⟩ | ⟨-, g, -, heq⟩ | ⟨-, -, heq⟩ := ensureGate_cases d addr'
  · rwa [heq]
  · rw [heq]
    exact hd.modify (f := clearStale) (fun link hstays => ⟨rfl, hstays.2⟩) g
  · obtain ⟨g, link, hgate, hlink, hstays, hmarking⟩ := hd
    have hold : g ≠ d.nextLink := Nat.ne_of_lt (h.fresh g link hlink)
    rw [heq]
    exact ⟨g, link, (store_of_ne _ _ hne).trans hgate,
      (store_of_ne _ _ hold).trans hlink, hstays, hmarking⟩

theorem Dialled.lookupGate (h : d.Coherent) (hne : addr ≠ addr') :
    { d with marking := (d.gates addr').toList ++ d.marking }.Dialled addr := by
  obtain ⟨g, link, hgate, hlink, hstays, hmarking⟩ := hd
  refine ⟨g, link, hgate, hlink, hstays, fun hg => ?_⟩
  refine (List.mem_append.mp hg).elim (fun hg => ?_) hmarking
  -- one link has one address
  obtain ⟨link₁, hlink₁, haddr₁, -⟩ := h.gate addr g hgate
  obtain ⟨link₂, hlink₂, haddr₂, -⟩ := h.gate addr' g (Option.mem_toList.mp hg)
  cases hlink₁.symm.trans hlink₂
  exact hne (haddr₁.symm.trans haddr₂)

theorem Dialled.markStale (hg : g ∈ d.marking) :
    { d with marking := d.marking.erase g, links := d.links.modify g markStale }.Dialled addr := by
  obtain ⟨g', link, hgate, hlink, hstays, hmarking⟩ := hd
  have hne : g' ≠ g := by
    rintro rfl
    exact hmarking hg
  refine ⟨g', link, hgate, ?_, hstays, fun hc => hmarking (List.mem_of_mem_erase hc)⟩
  exact modify_eq_some.mpr ⟨link, hlink, by rw [if_neg hne]⟩

theorem Dialled.stepLoop (h : d.Coherent) (hstop : d.stopCh = false)
    (hs : d.stepLoop g ok = some d') : d'.Dialled addr := by
  obtain ⟨g', link', hgate, hlink', hstays, hmarking⟩ := hd
  obtain ⟨link, hlink, -, hcase⟩ := stepLoop_cases hs
  by_cases hgg : g' = g
  · subst hgg
    cases hlink.symm.trans hlink'
    obtain ⟨hremove, -⟩ | ⟨hphase, rfl⟩ := hcase
    · exact absurd hremove hstays.2
    · refine ⟨g', _, hgate, store_self .., ⟨next_stale.trans hstays.1, ?_⟩, hmarking⟩
      intro hleaves
      rcases next_removeGate hleaves with hc | hc | hc | hc
      · exact hphase hc
      · cases hstop.symm.trans hc
      · cases hstays.1.symm.trans hc
      · cases hstop.symm.trans (h.sawStop g' _ hlink hc)
  · obtain ⟨-, -, rfl⟩ | ⟨-, rfl⟩ := hcase
    · exact ⟨g', link', deleteIf_eq_some.mpr ⟨hgate, fun hc => hgg hc.2⟩,
        (store_of_ne _ _ hgg).trans hlink', hstays, hmarking⟩
    · exact ⟨g', link', hgate, (store_of_ne _ _ hgg).trans hlink', hstays, hmarking⟩

end

theorem ensureGate_rest (d : Dialer) (addr : String) : (d.ensureGate addr).marking = d.marking ∧
    (d.ensureGate addr).stopCh = d.stopCh ∧ d.nextLink ≤ (d.ensureGate addr).nextLink := by
  obtain ⟨-, heq⟩ | ⟨-, g, -, heq⟩ | ⟨-, -, heq⟩ := ensureGate_cases d addr <;> simp [heq]

theorem stepLoop_rest (hs : d.stepLoop g ok = some d') : d'.marking = d.marking ∧
    d'.nextLink = d.nextLink ∧ d'.stopCh = d.stopCh ∧ d'.stop = d.stop ∧ d'.lastEvent = d.lastEvent := by
  obtain ⟨link, -, -, ⟨-, -, rfl⟩ | ⟨-, rfl⟩⟩ := stepLoop_cases hs <;> exact ⟨rfl, rfl, rfl, rfl, rfl⟩

theorem Kept.register (h : d.Kept) (hclear : d.RegisterClear (.register addr)) :
    { d.ensureGate addr with lastEvent := d.lastEvent.store addr .register }.Kept := by
  obtain ⟨hmarking, hopen, hnext⟩ := ensureGate_rest d addr
  refine ⟨h.coherent.ensureGate.of_same, fun g hg => ?_, fun hstop addr' hlast => ?_⟩
  · exact Nat.lt_of_lt_of_le (h.marks g (hmarking ▸ hg)) hnext
  · have hrunning : d.stopCh = false := hopen.symm.trans hstop
    by_cases haddr : addr' = addr
    · subst haddr
      exact dialled_ensureGate h.coherent hrunning hclear h.marks
    · have hlast' : d.lastEvent addr' = some .register := (store_of_ne _ _ haddr).symm.trans hlast
      exact (h.dialled hrunning addr' hlast').ensureGate h.coherent haddr

theorem Kept.deregister (h : d.Kept) :
    { d.lookupGate addr with lastEvent := d.lastEvent.store addr .deregister }.Kept := by
  rw [lookupGate_eq]
  refine ⟨h.coherent.of_same, fun g hg => ?_, fun hstop addr' hlast => ?_⟩
  · refine (List.mem_append.mp hg).elim (fun hg => ?_) (h.marks g)
    obtain ⟨link, hlink, -⟩ := h.coherent.gate addr g (Option.mem_toList.mp hg)
    exact h.coherent.fresh g link hlink
  · have hlast' : d.lastEvent.store addr .deregister addr' = some .register := hlast
    have haddr : addr' ≠ addr := by
      rintro rfl
      rw [store_self] at hlast'
      cases hlast'
    rw [store_of_ne _ _ haddr] at hlast'
    exact (h.dialled hstop addr' hlast').lookupGate h.coherent haddr

theorem Kept.step (h : d.Kept) (hclear : d.RegisterClear a) (hs : d.step a = some d') : d'.Kept := by
  have hcoherent := h.coherent.step hs
  cases dialStep_of_step hs with
  | register => exact h.register hclear
  | deregister => exact h.deregister
  | markStale hg =>
    exact ⟨hcoherent, fun g' hg' => h.marks g' (List.mem_of_mem_erase hg'),
      fun hstop addr hlast => (h.dialled hstop addr hlast).markStale hg⟩
  | loop hs =>
    obtain ⟨hmarking, hnext, hstop, -, hevents⟩ := stepLoop_rest hs
    refine ⟨hcoherent, by rw [hmarking, hnext]; exact h.marks, fun hopen addr hlast => ?_⟩
    rw [hstop] at hopen
    rw [hevents] at hlast
    exact (h.dialled hopen addr hlast).stepLoop h.coherent hopen hs
  | stop => exact ⟨hcoherent, h.marks, fun hopen => nomatch hopen⟩
  | @cancelNext g =>
    refine ⟨hcoherent, h.marks, fun hstop addr hlast => ?_⟩
    refine (h.dialled hstop addr hlast).modify (f := takeCancel) (fun link hstays => ?_) g
    exact ⟨takeCancel_stale.trans hstays.1, by rw [takeCancel_phase]; exact hstays.2⟩
  | unlock => exact ⟨hcoherent, h.marks, h.dialled⟩

/-- **One dial loop for every registered gateway.** In every run two loops never run for one address.
If moreover each registration is clear, then in every state reached before the dialer is stopped an
address whose last event is a registration has a running loop that the flag does not make return. -/
theorem one_loop_per_gate (as : List DialAction) (d : Dialer) (hrun : run step newDialer as = some d) :
    (∀ g g' link link', d.links g = some link → d.links g' = some link' → link.addr = link'.addr →
      link.Running → link'.Running → g = g') ∧
    (Guarded step RegisterClear newDialer as → d.stopCh = false →
      ∀ addr, d.lastEvent addr = some .register →
        ∃ g link, d.links g = some link ∧ link.addr = addr ∧ link.Running ∧ link.Stays) := by
  have hcoherent := coherent_run hrun
  constructor
  · intro g g' link link' hlink hlink' haddr hrunning hrunning'
    have hgate := hcoherent.loop g link hlink hrunning
    have hgate' := hcoherent.loop g' link' hlink' hrunning'
    rw [haddr] at hgate
    exact Option.some.inj (hgate.symm.trans hgate')
  · intro hguard hstop addr hlast
    have hkept : d.Kept := run_invariant (fun _ _ _ h hclear hs => h.step hclear hs)
      ⟨coherent_newDialer, nofun, fun _ _ => nofun⟩ hguard hrun
    obtain ⟨g, link, hgate, hlink, hstays, -⟩ := hkept.dialled hstop addr hlast
    obtain ⟨link', hlink', haddr, hrunning⟩ := hcoherent.gate addr g hgate
    cases hlink.symm.trans hlink'
    exact ⟨g, link, hlink, haddr, hrunning, hstays⟩

end

/-- A gateway is deregistered and registered again before its loop looks at the flag. -/
def registeredAgain : List DialAction :=
  [.register "a", .loop 0 true, .deregister "a", .markStale 0, .register "a", .loop 0 true]

/-- The loop goes on. -/
theorem one_loop_per_gate_registeredAgain : Guarded step RegisterClear newDialer registeredAgain ∧
    ∃ d, run step newDialer registeredAgain = some d ∧ d.lastEvent "a" = some .register ∧
      ∃ g link, d.links g = some link ∧ link.addr = "a" ∧ link.Running ∧ link.Stays := by
  have hguard : Guarded step RegisterClear newDialer registeredAgain := by decide
  obtain ⟨d, hrun, hstop, hlast⟩ : ∃ d, run step newDialer registeredAgain = some d ∧
      d.stopCh = false ∧ d.lastEvent "a" = some .register := exists_end (by decide)
  exact ⟨hguard, d, hrun, hlast,
    (one_loop_per_gate registeredAgain d hrun).2 hguard hstop "a" hlast⟩

/-- A gateway is deregistered, its loop sees the flag, and the gateway is registered again before the
loop has removed its link. -/
def registeredTooEarly : List DialAction :=
  [.register "a", .loop 0 true, .deregister "a", .markStale 0, .loop 0 true, .register "a", .loop 0 true]

/-- The gateway is registered, no handler is in progress, and no loop runs. -/
theorem registeredTooEarly_not_dialled : ∃ d, run step newDialer registeredTooEarly = some d ∧
    d.stopCh = false ∧ d.marking = [] ∧ d.lastEvent "a" = some .register ∧
    ∀ g link, d.links g = some link → ¬ link.Running := by
  obtain ⟨d, hrun, hstop, hmarking, hlast, hnext, hphase⟩ :
      ∃ d, run step newDialer registeredTooEarly = some d ∧ d.stopCh = false ∧ d.marking = [] ∧
        d.lastEvent "a" = some .register ∧ d.nextLink = 1 ∧ (d.links 0).map phase = some .exited :=
    exists_end (by decide)
  refine ⟨d, hrun, hstop, hmarking, hlast, fun g link hlink hrunning => ?_⟩
  -- there was only one link
  have hlt := (coherent_run hrun).fresh g link hlink
  obtain rfl : g = 0 := by omega
  rw [hlink, Option.map_some] at hphase
  exact hrunning (Option.some.inj hphase)

end Dialer

/-! ## Stopping -/

namespace GateLink

/-- The loop establishes no stream before it has tested `stopCh`, if it establishes one at all. -/
def testsStop : DialPhase → Bool
  | .checkStop | .checkSession | .cancelContext _ | .clearCancel _ | .sessionEnded _ | .backoff
  | .removeGate => true
  | .checkStale | .newContext | .setCancel | .newClients | .establish | .serve | .exited => false

/-- **`Stop` has reached the loop**: it has returned, or the context of its session is cancelled, or
it tests `stopCh` before it establishes a stream. -/
def Reached (g : GateLink) : Prop :=
  g.phase = .exited ∨ (g.InSession ∧ g.Cancelled) ∨ testsStop g.phase = true

/-- The loop runs a session whose context is not cancelled. -/
def Live (g : GateLink) : Prop := (g.phase = .establish ∨ g.phase = .serve) ∧ ¬ g.Cancelled

/-- A session can be cancelled: its cancel function is stored, or it has been cancelled. -/
def Stored (g : GateLink) : Prop := g.InSession → g.cancel = some g.contexts ∨ g.Cancelled

/-- How many steps a loop still takes once `stopCh` is closed, at most. -/
def remaining : DialPhase → ℕ
  | .checkStale => 11
  | .newContext => 10
  | .setCancel => 9
  | .newClients => 8
  | .establish => 7
  | .serve => 6
  | .checkSession => 5
  | .cancelContext _ => 4
  | .clearCancel _ => 3
  | .sessionEnded _ => 2
  | .backoff => 3
  | .checkStop => 2
  | .removeGate => 1
  | .exited => 0

section

variable {g : GateLink} {stopped ok : Bool}

theorem reached_of_same {g' : GateLink} (h : g.Reached) (hphase : g'.phase = g.phase)
    (hcontexts : g'.contexts = g.contexts) (hcancelled : g.cancelled ⊆ g'.cancelled) : g'.Reached := by
  unfold Reached InSession Cancelled
  rw [hphase, hcontexts]
  exact h.imp_right (Or.imp_left (And.imp_right fun hc => hcancelled hc))

theorem not_live_of_reached (h : g.Reached) : ¬ g.Live := by
  rintro ⟨hphase | hphase, hnot⟩ <;> simp_all [Reached, testsStop]

theorem reached_next (h : g.Reached) : (g.next true ok).Reached := by
  unfold Reached InSession Cancelled next testsStop at *
  cases hphase : g.phase <;> rw [hphase] at h <;> (try cases ok) <;> simp_all

theorem stored_next (h : g.Stored) : (g.next stopped ok).Stored := by
  unfold Stored InSession Cancelled next setCancel at *
  intro hin
  split at hin <;> (try split at hin) <;> simp_all

theorem cancelled_takeCancel (hstored : g.Stored) (hin : g.InSession) : g.takeCancel.Cancelled := by
  unfold takeCancel Cancelled
  rcases hstored hin with hcancel | hcancelled
  · rw [hcancel]
    exact Finset.mem_insert_self ..
  · split
    · exact Finset.mem_insert_of_mem hcancelled
    · exact hcancelled

theorem reached_takeCancel (hstored : g.Stored) (hout : ¬ g.InWindow) : g.takeCancel.Reached := by
  unfold Reached InSession
  rw [takeCancel_phase]
  by_cases hin : g.InSession
  · exact .inr (.inl ⟨hin, cancelled_takeCancel hstored hin⟩)
  · unfold InSession InWindow at *
    cases hphase : g.phase <;> simp_all [testsStop]

theorem remaining_next (hrunning : g.Running) (hphase : g.phase ≠ .removeGate) :
    remaining (g.next true ok).phase < remaining g.phase := by
  unfold Running next at *
  cases hp : g.phase <;> rw [hp] at hrunning hphase <;> dsimp only <;> (try split) <;>
    simp_all [remaining]

end

end GateLink

namespace StopPhase

/-- The cancellation pass has still to come to link `g`. -/
def Pending (g : ℕ) : StopPhase → Prop
  | .notCalled => True
  | .cancelling rest => g ∈ rest
  | .waiting => False

def next : StopPhase → Option ℕ
  | .cancelling (g :: _) => some g
  | _ => none

end StopPhase

namespace Dialer

/-- **The condition on the cancellation pass**: the loop of the link whose session is cancelled is not
between its stop test and the store of its cancel function. -/
def CancelClear (d : Dialer) : DialAction → Prop
  | .cancelNext => ∀ g ∈ d.stop.next, ∀ link ∈ d.links g, ¬ link.InWindow
  | _ => True

instance (d : Dialer) : (a : DialAction) → Decidable (d.CancelClear a)
  | .cancelNext => inferInstanceAs (Decidable (∀ g ∈ d.stop.next, _))
  | .register _ | .deregister _ | .markStale _ | .loop _ _ | .stop _ | .unlock => isTrue trivial

/-- **Every loop is reached** by `Stop`, or the cancellation pass has still to come to its link. -/
structure Stopping (d : Dialer) : Prop where
  coherent : d.Coherent
  closed : d.stopCh = true ↔ d.stop ≠ .notCalled
  stored : ∀ g link, d.links g = some link → link.Stored
  reached : ∀ g link, d.links g = some link → d.stop.Pending g ∨ link.Reached

section

variable {d d' : Dialer} {addr : String} {g : ℕ} {link : GateLink} {ok : Bool} {a : DialAction}
  {as : List DialAction}

theorem stopping_newDialer : newDialer.Stopping := ⟨coherent_newDialer, by decide, nofun, nofun⟩

variable {f : GateLink → GateLink}

section

variable (h : d.Stopping)
include h

theorem Stopping.modify (g : ℕ) (hcoherent : { d with links := d.links.modify g f }.Coherent)
    (hstored : ∀ link, link.Stored → (f link).Stored)
    (hreached : ∀ link, link.Reached → (f link).Reached) :
    { d with links := d.links.modify g f }.Stopping := by
  refine ⟨hcoherent, h.closed, forall_modify h.stored fun _ => hstored, fun g' link' hlink' => ?_⟩
  obtain ⟨link, hlink, rfl⟩ := modify_eq_some.mp hlink'
  refine (h.reached g' link hlink).imp_right fun hr => ?_
  split
  · exact hreached link hr
  · exact hr

theorem Stopping.of_same (hcoherent : d'.Coherent) (hlinks : d'.links = d.links)
    (hstopCh : d'.stopCh = d.stopCh) (hstop : d'.stop = d.stop) : d'.Stopping := by
  refine ⟨hcoherent, ?_, ?_, ?_⟩
  · rw [hstopCh, hstop]
    exact h.closed
  · rw [hlinks]
    exact h.stored
  · rw [hlinks, hstop]
    exact h.reached

theorem Stopping.ensureGate : (d.ensureGate addr).Stopping := by
  have hcoherent : (d.ensureGate addr).Coherent := h.coherent.ensureGate
  obtain ⟨-, heq⟩ | ⟨-, g, -, heq⟩ | ⟨hopen, -, heq⟩ := ensureGate_cases d addr
  · rwa [heq]
  · rw [heq] at hcoherent ⊢
    exact h.modify g hcoherent (fun _ hl => hl) fun link hl =>
      reached_of_same hl rfl rfl fun _ hc => hc
  · -- a loop is started only before `Stop` is called
    have hstop : d.stop = .notCalled := by
      by_contra hne
      cases hopen.symm.trans (h.closed.mpr hne)
    rw [heq] at hcoherent ⊢
    refine ⟨hcoherent, h.closed, ?_, fun g link _ => .inl ?_⟩
    · refine forall_store ?_ fun g link _ => h.stored g link
      rintro (hc | hc | hc) <;> cases hc
    · show StopPhase.Pending g d.stop
      rw [hstop]
      trivial

theorem Stopping.stepLoop (hs : d.stepLoop g ok = some d') : d'.Stopping := by
  have hcoherent := h.coherent.stepLoop hs
  obtain ⟨link, hlink, -, ⟨-, -, rfl⟩ | ⟨-, rfl⟩⟩ := stepLoop_cases hs
  · refine ⟨hcoherent, h.closed, ?_, ?_⟩
    · refine forall_store ?_ fun g link _ => h.stored g link
      rintro (hc | hc | hc) <;> cases hc
    · exact forall_store (.inr (.inl rfl)) fun g link _ => h.reached g link
  · refine ⟨hcoherent, h.closed, ?_, ?_⟩
    · exact forall_store (stored_next (h.stored g link hlink))
        fun g link _ => h.stored g link
    · refine forall_store ?_ fun g link _ => h.reached g link
      cases hstop : d.stop with
      | notCalled => exact .inl trivial
      | cancelling rest | waiting =>
        have hclosed : d.stopCh = true := h.closed.mpr (by simp [hstop])
        rw [hclosed, ← hstop]
        exact (h.reached g link hlink).imp_right reached_next

theorem Stopping.stop {order : List ℕ}
    (horder : order.toFinset = (Finset.range d.nextLink).filter (d.registered ·)) :
    { d with stopCh := true, stop := .cancelling order }.Stopping := by
  refine ⟨h.coherent.of_same fun _ => rfl, by simp, h.stored, fun g link hlink => ?_⟩
  dsimp only at hlink
  by_cases hrunning : link.Running
  · left
    have hgate := h.coherent.loop g link hlink hrunning
    have hmem : g ∈ order.toFinset := by
      rw [horder, Finset.mem_filter, Finset.mem_range]
      exact ⟨h.coherent.fresh g link hlink, by simp [registered, hlink, hgate]⟩
    exact List.mem_toFinset.mp hmem
  · exact .inr (.inl (not_not.mp hrunning))

theorem Stopping.cancelNext {rest : List ℕ} (hstop : d.stop = .cancelling (g :: rest))
    (hclear : ∀ link, d.links g = some link → ¬ link.InWindow) :
    { d with stop := .cancelling rest, links := d.links.modify g takeCancel }.Stopping := by
  have hclosed : d.stopCh = true := h.closed.mpr (by simp [hstop])
  refine ⟨?_, by simp [hclosed], ?_, fun g' link' hlink' => ?_⟩
  · exact (h.coherent.modify g (fun _ => takeCancel_addr) fun _ =>
      takeCancel_phase).of_same
  · refine forall_modify h.stored fun _ link hl hin => .inr ?_
    unfold GateLink.InSession at hin
    rw [takeCancel_phase] at hin
    exact cancelled_takeCancel hl hin
  · obtain ⟨link, hlink, rfl⟩ := modify_eq_some.mp hlink'
    split
    · subst g'
      exact .inr (reached_takeCancel (h.stored g link hlink) (hclear link hlink))
    · rename_i hne
      refine (h.reached g' link hlink).imp_left fun hpending => ?_
      rw [hstop] at hpending
      exact (List.mem_cons.mp hpending).resolve_left hne

theorem Stopping.step (hclear : d.CancelClear a) (hs : d.step a = some d') : d'.Stopping := by
  have hcoherent := h.coherent.step hs
  cases dialStep_of_step hs with
  | register => exact h.ensureGate.of_same hcoherent rfl rfl rfl
  | deregister => refine h.of_same hcoherent ?_ ?_ ?_ <;> rw [lookupGate_eq]
  | @markStale g =>
    refine (h.modify g (f := .markStale) ?_ (fun _ hl => hl) fun link hl => ?_).of_same
      hcoherent rfl rfl rfl
    · exact h.coherent.modify g (fun _ => rfl) fun _ => rfl
    · exact reached_of_same hl rfl rfl fun _ hc => hc
  | loop hs => exact h.stepLoop hs
  | stop horder => exact h.stop horder
  | cancelNext hstop => exact h.cancelNext hstop (hclear _ (by rw [hstop]; rfl))
  | unlock hstop =>
    have hclosed : d.stopCh = true := h.closed.mpr (by simp [hstop])
    refine ⟨hcoherent, by simp [hclosed], h.stored, fun g link hlink => .inr ?_⟩
    refine (h.reached g link hlink).resolve_left fun hpending => ?_
    rw [hstop] at hpending
    cases hpending

end

/-! ### How long the loops still run -/

/-- The steps the loop of a link still takes once `stopCh` is closed, at most. -/
def left (d : Dialer) (g : ℕ) : ℕ := ((d.links g).map fun link => GateLink.remaining link.phase).getD 0

/-- The action is a step of the loop of link `g`. -/
def isLoop (g : ℕ) : DialAction → Bool
  | .loop g' _ => g' = g
  | _ => false

theorem left_modify (hphase : ∀ link, (f link).phase = link.phase) (g' : ℕ) :
    { d with links := d.links.modify g f }.left g' = d.left g' := by
  unfold left
  dsimp only
  rw [modify_apply]
  split
  · cases d.links g' with
    | none => rfl
    | some link => simp [hphase]
  · rfl

theorem left_stepLoop {g' : ℕ} (hclosed : d.stopCh = true) (hs : d.stepLoop g' ok = some d') :
    d'.stopCh = true ∧ d'.left g + (if isLoop g (.loop g' ok) then 1 else 0) ≤ d.left g := by
  obtain ⟨-, -, hstop, -, -⟩ := stepLoop_rest hs
  refine ⟨hstop.trans hclosed, ?_⟩
  obtain ⟨link, hlink, hrunning, hcase⟩ := stepLoop_cases hs
  by_cases hgg : g' = g
  · subst hgg
    have hleft : d.left g' = remaining link.phase := by simp [left, hlink]
    obtain ⟨hremove, -, rfl⟩ | ⟨hphase, rfl⟩ := hcase
    · have hgone : (d.removeGate g' link).left g' = 0 := by
        simp [left, removeGate, remaining]
      rw [hleft, hgone, hremove]
      simp [isLoop, remaining]
    · have hnext : { d with links := d.links.store g' (link.next d.stopCh ok) }.left g' =
          remaining (link.next true ok).phase := by
        simp [left, hclosed]
      have hlt : remaining (link.next true ok).phase < remaining link.phase :=
        remaining_next hrunning hphase
      simp only [isLoop, decide_true, if_true]
      omega
  · have hlinks : d'.links g = d.links g := by
      obtain ⟨-, -, rfl⟩ | ⟨-, rfl⟩ := hcase <;> exact store_of_ne _ _ (Ne.symm hgg)
    have hother : d'.left g = d.left g := by
      unfold left
      rw [hlinks]
    simpa [isLoop, hgg] using Nat.le_of_eq hother

theorem left_step (hclosed : d.stopCh = true) (hs : d.step a = some d') :
    d'.stopCh = true ∧ d'.left g + (if isLoop g a then 1 else 0) ≤ d.left g := by
  cases dialStep_of_step hs with
  | register addr =>
    have hsame : d.ensureGate addr = d := by
      unfold ensureGate
      rw [if_pos hclosed]
    rw [hsame]
    exact ⟨hclosed, Nat.le_refl _⟩
  | deregister =>
    rw [lookupGate_eq]
    exact ⟨hclosed, Nat.le_refl _⟩
  | markStale => exact ⟨hclosed, Nat.le_of_eq (left_modify (f := .markStale) (fun _ => rfl) g)⟩
  | loop hs => exact left_stepLoop hclosed hs
  | stop => exact ⟨rfl, Nat.le_refl _⟩
  | cancelNext => exact ⟨hclosed, Nat.le_of_eq (left_modify (fun _ => takeCancel_phase) g)⟩
  | unlock => exact ⟨hclosed, Nat.le_refl _⟩

theorem countP_isLoop_le (hclosed : d.stopCh = true) (hrun : run Dialer.step d as = some d') :
    as.countP (isLoop g) ≤ d.left g := by
  induction as generalizing d with
  | nil => exact Nat.zero_le _
  | cons a as ih =>
    obtain ⟨v, hv, hrest⟩ := run_cons_iff.mp hrun
    obtain ⟨hclosed', hleft⟩ := left_step (g := g) hclosed hv
    have hrec := ih hclosed' hrest
    rw [List.countP_cons]
    omega

/-- **Stop reaches every session.** In every run in which the cancellation pass comes to no loop
between its stop test and the store of its cancel function, and in every state after the pass: each
dial loop has returned, or the context of its session is cancelled, or it tests `stopCh` before it
establishes another stream. So no session is live, and however the run goes on, no loop takes more
than eleven further steps before it has returned. -/
theorem stop_reaches_sessions (as : List DialAction) (d : Dialer)
    (hrun : run Dialer.step newDialer as = some d) (hguard : Guarded Dialer.step CancelClear newDialer as)
    (hpassed : d.stop = .waiting) :
    (∀ g link, d.links g = some link → link.Reached ∧ ¬ link.Live) ∧
      ∀ bs d', run Dialer.step d bs = some d' → ∀ g, bs.countP (isLoop g) ≤ 11 := by
  have h : d.Stopping := run_invariant (fun _ _ _ h hclear hs => h.step hclear hs)
    stopping_newDialer hguard hrun
  constructor
  · intro g link hlink
    have hreached : link.Reached := (h.reached g link hlink).resolve_left fun hpending => by
      rw [hpassed] at hpending
      exact hpending
    exact ⟨hreached, not_live_of_reached hreached⟩
  · intro bs d' hrun' g
    have hclosed : d.stopCh = true := h.closed.mpr (by simp [hpassed])
    refine Nat.le_trans (countP_isLoop_le hclosed hrun') ?_
    unfold left
    cases d.links g with
    | none => simp
    | some link =>
      show remaining link.phase ≤ 11
      cases link.phase <;> simp [remaining]

end

/-- `Stop` finds a session with its cancel function stored. -/
def stopInSession : List DialAction :=
  [.register "a", .loop 0 true, .loop 0 true, .loop 0 true, .loop 0 true, .loop 0 true, .loop 0 true,
    .stop [0], .cancelNext, .unlock]

/-- The session is cancelled. -/
theorem stop_reaches_sessions_stopInSession : Guarded Dialer.step CancelClear newDialer stopInSession ∧
    ∃ d, run Dialer.step newDialer stopInSession = some d ∧ d.stop = .waiting ∧
      (d.links 0).map GateLink.phase = some .serve ∧
      ∀ g link, d.links g = some link → link.Reached ∧ ¬ link.Live := by
  have hguard : Guarded Dialer.step CancelClear newDialer stopInSession := by decide
  obtain ⟨d, hrun, hpassed, hphase⟩ : ∃ d, run Dialer.step newDialer stopInSession = some d ∧
      d.stop = .waiting ∧ (d.links 0).map phase = some .serve := exists_end (by decide)
  exact ⟨hguard, d, hrun, hpassed, hphase,
    (stop_reaches_sessions stopInSession d hrun hguard hpassed).1⟩

/-- `Stop` closes `stopCh` and makes its pass after the loop has tested `stopCh`. -/
def stopInWindow : List DialAction := [.register "a", .loop 0 true, .stop [0], .cancelNext, .unlock]

/-- After the pass the loop is about to dial without another test, and then its session is live. -/
theorem stopInWindow_stays_live :
    (run Dialer.step newDialer stopInWindow).map (fun d =>
      (d.stop, (d.links 0).map fun link => (link.phase, GateLink.testsStop link.phase))) =
        some (.waiting, some (.checkStale, false)) ∧
    (run Dialer.step newDialer (stopInWindow ++ List.replicate 5 (.loop 0 true))).map (fun d =>
      (d.stop, (d.links 0).map fun link => (link.phase, decide link.Cancelled))) =
        some (.waiting, some (.serve, false)) := by
  constructor <;> decide

end Dialer

end Sgate.Logic
