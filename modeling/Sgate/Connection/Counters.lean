import Sgate.Connection.Admission
import Sgate.Connection.Calls

/-! # Counters of connections

`AddConnection` and `RemoveConnection` change the table of connections and five counters in separate
steps; they agree whenever no call is in progress (`Balanced.quiet`). A removal can find a connection
that is not counted yet. -/

namespace Sgate.ConnectionManager

open Interleaving

/-! ## What a call has changed -/

inductive Counter
  | count
  | total
  | active
  | closed

/-- A quantity that calls change by one: the table, a counter, the count of an address. -/
inductive Quantity
  | connections
  | counter (k : Counter)
  | address

/-- The order in which `AddConnection` changes them; it never changes `closedConnections`. -/
def Quantity.addRank : Quantity → ℕ
  | .connections => 1
  | .counter .count => 2
  | .counter .total => 3
  | .counter .active => 4
  | .address => 5
  | .counter .closed => 6

/-- The number of quantities `AddConnection` has changed. -/
def AddPc.rank : AddPc → ℕ
  | .connections => 0
  | .users | .count => 1
  | .total => 2
  | .active => 3
  | .ip => 4
  | .returned => 5

/-- The order in which `RemoveConnection` changes them; it never changes `totalConnections`. -/
def Quantity.removeRank : Quantity → ℕ
  | .connections => 1
  | .address => 2
  | .counter .count => 3
  | .counter .active => 4
  | .counter .closed => 5
  | .counter .total => 6

/-- The number of quantities `RemoveConnection` has changed. -/
def RemovePc.rank : RemovePc → ℕ
  | .load | .take | .missed => 0
  | .users | .account | .accounts _ | .server | .user _ | .serverUsers _ | .servers _ | .groups _
  | .ip => 1
  | .count => 2
  | .active => 3
  | .closed => 4
  | .returned => 5

namespace Call

/-- One if the call has added a connection in `q` to a quantity. -/
def added (κ : Quantity) (q : String → Bool) : Call → ℕ
  | .addConnection id _ _ pc => if κ.addRank ≤ pc.rank ∧ q id then 1 else 0
  | _ => 0

/-- One if the call has removed a connection in `q` from a quantity. -/
def removed (κ : Quantity) (q : String → Bool) : Call → ℕ
  | .removeConnection id pc => if κ.removeRank ≤ pc.rank ∧ q id then 1 else 0
  | _ => 0

/-- The connection the call is about to take out of the table. -/
def takes : Call → Option String
  | .removeConnection id .take => some id
  | _ => none

/-- The call is an `AddConnection` that has stored its connection and has not returned. -/
def adding (c : String) : Call → Bool
  | .addConnection id _ _ pc => id = c && 0 < pc.rank && pc.rank < 5
  | _ => false

end Call

open Call

/-- The value of a counter. Removals add to `closedConnections`, so it stands with a minus sign. -/
def counter (cm : ConnectionManager) : Counter → ℤ
  | .count => cm.count
  | .total => cm.totalConnections
  | .active => cm.activeConnections
  | .closed => -cm.closedConnections

/-- The registered connections in `q`. -/
def registeredIn (cm : ConnectionManager) (q : String → Bool) : Finset String :=
  cm.connections.toFinset.filter fun c => q c

def addrOf (cm : ConnectionManager) (c : String) : Option String :=
  (cm.objects c).map Connection.remoteAddr

/-! ## The property -/

/-- **Between calls** the counters agree with the table, and every connection was counted once at its
address and at most once less. -/
structure QuietCounters (w : World ConnectionManager Call) : Prop where
  count : w.shared.count = w.shared.liveCount
  active : w.shared.activeConnections = w.shared.liveCount
  total : w.shared.totalConnections = w.shared.activeConnections + w.shared.closedConnections
  once : ∀ c, (w.shared.objects c).isSome → tally (Call.added .address (· = c)) w.threads = 1 ∧
      tally (Call.removed .address (· = c)) w.threads ≤ 1

/-- **The counters are right.** The counts per address are natural numbers. -/
structure CountersRight (host : String → String) (w : World ConnectionManager Call) : Prop where
  nonneg : 0 ≤ w.shared.count ∧ 0 ≤ w.shared.totalConnections ∧ 0 ≤ w.shared.activeConnections ∧
    0 ≤ w.shared.closedConnections
  quiet : Quiet w → QuietCounters w
  /-- Between calls the count of an address is the number of registered connections from there. -/
  perAddress : Quiet w → ∀ ip, ip ≠ "" → w.shared.ipConnections ip =
    (w.shared.registeredIn fun c => (w.shared.addrOf c).any fun addr => host addr = ip).card

/-- A removal takes a registered connection only after its `AddConnection` has returned. -/
def TakesAdded (w : World ConnectionManager Call) (t : Call) : Prop :=
  ∀ c ∈ t.takes, c ∈ w.shared.connections → ∀ u ∈ w.threads, u.adding c = false
  deriving Decidable

/-! ## One step -/

attribute [local simp] Call.added Call.removed Call.adding AddPc.rank RemovePc.rank
  Quantity.addRank Quantity.removeRank

section

variable {host : String → String} {cm cm' : ConnectionManager} {t t' : Call} {q : String → Bool}
  {κ : Quantity} {c id ip : String}

/-- A step that leaves table and addresses alone, and changes a counter by what its call then has
added or removed. -/
structure LeavesTable (cm : ConnectionManager) (t : Call) (cm' : ConnectionManager) (t' : Call) :
    Prop where
  connections : cm'.connections = cm.connections
  ip : cm'.ipConnections = cm.ipConnections
  addr : ∀ c, cm'.addrOf c = cm.addrOf c
  counter : ∀ k, cm'.counter k + t'.removed (.counter k) (fun _ => true) +
      t.added (.counter k) (fun _ => true) =
    cm.counter k + t.removed (.counter k) (fun _ => true) + t'.added (.counter k) fun _ => true
  added : ∀ q, t'.added .connections q = t.added .connections q ∧
    t'.added .address q = t.added .address q
  removed : ∀ q, t'.removed .connections q = t.removed .connections q ∧
    t'.removed .address q = t.removed .address q
  adding : ∀ c, t'.adding c = t.adding c

inductive CounterStep (host : String → String) (cm : ConnectionManager) :
    Call → ConnectionManager → Call → Prop
  | other {t : Call} {cm' : ConnectionManager} {t' : Call} (h : LeavesTable cm t cm' t') :
      CounterStep host cm t cm' t'
  | store {id addr userUUID : String} (hfresh : cm.objects id = none) :
      CounterStep host cm (.addConnection id addr userUUID .connections)
        (cm.storeConnection id addr userUUID) (.addConnection id addr userUUID .users)
  | take {id : String} (hmem : id ∈ cm.connections) :
      CounterStep host cm (.removeConnection id .take) (cm.takeConnection id)
        (.removeConnection id .users)
  | addAddress {id addr userUUID : String} :
      CounterStep host cm (.addConnection id addr userUUID .ip) (cm.incrementIP (host addr))
        (.addConnection id addr userUUID .returned)
  | removeAddress {id : String} {conn : Connection} (hconn : cm.objects id = some conn) :
      CounterStep host cm (.removeConnection id .ip) (cm.decrementIP (host conn.remoteAddr))
        (.removeConnection id .count)

theorem CounterStep.quiet (hconnections : cm'.connections = cm.connections)
    (hip : cm'.ipConnections = cm.ipConnections) (haddr : cm'.addrOf = cm.addrOf)
    (hcounter : cm'.counter = cm.counter) (hadded : ∀ κ q, t'.added κ q = t.added κ q)
    (hremoved : ∀ κ q, t'.removed κ q = t.removed κ q) (hadding : ∀ c, t'.adding c = t.adding c) :
    CounterStep host cm t cm' t' :=
  .other ⟨hconnections, hip, congrFun haddr, fun k => by rw [hcounter, hadded, hremoved],
    fun q => ⟨hadded _ q, hadded _ q⟩, fun q => ⟨hremoved _ q, hremoved _ q⟩, hadding⟩

attribute [local simp] counter incrementIP_eq decrementIP_eq

theorem counterStep_add {addr userUUID : String} {pc pc' : AddPc}
    (hs : cm.stepAdd host id addr userUUID pc = some (cm', pc')) :
    CounterStep host cm (.addConnection id addr userUUID pc) cm'
      (.addConnection id addr userUUID pc') := by
  cases pc with
  | connections =>
    obtain ⟨hfresh, hs⟩ := Option.ite_none_left_eq_some.mp hs
    cases hs
    exact .store (Option.not_isSome_iff_eq_none.mp hfresh)
  | users | count | total | active =>
    cases hs
    refine .other ⟨rfl, rfl, fun _ => rfl, fun k => ?_, fun q => ?_, fun _ => ⟨rfl, rfl⟩, fun c => ?_⟩
    · cases k <;> simp
    · simp
    · simp
  | ip =>
    cases hs
    exact .addAddress
  | returned => cases hs

theorem counterStep_remove {pc pc' : RemovePc} (hs : cm.stepRemove host id pc = some (cm', pc')) :
    CounterStep host cm (.removeConnection id pc) cm' (.removeConnection id pc') := by
  have hquiet (hrank : pc'.rank = pc.rank) (hconnections : cm'.connections = cm.connections)
      (hip : cm'.ipConnections = cm.ipConnections) (haddr : cm'.addrOf = cm.addrOf)
      (hcounter : cm'.counter = cm.counter) :
      CounterStep host cm (.removeConnection id pc) cm' (.removeConnection id pc') :=
    .quiet hconnections hip haddr hcounter (fun _ _ => rfl)
      (fun κ q => by simp only [removed, hrank]) fun _ => rfl
  cases pc with
  | load =>
    cases hs
    refine hquiet ?_ rfl rfl rfl rfl
    split <;> rfl
  | take =>
    simp only [stepRemove] at hs
    split at hs
    · rename_i hmem
      cases hs
      exact .take hmem
    · cases hs
      exact hquiet rfl rfl rfl rfl rfl
  | users | account | server | user =>
    obtain ⟨conn, -, heq⟩ := Option.map_eq_some_iff.mp hs
    cases heq
    refine hquiet ?_ rfl rfl rfl rfl
    first | rfl | split <;> rfl
  | accounts accountID =>
    cases hs
    rw [removeAccountConnection_eq] at hquiet ⊢
    exact hquiet rfl rfl rfl rfl rfl
  | serverUsers | servers | groups =>
    cases hs
    refine hquiet ?_ rfl rfl rfl rfl
    first | rfl | split <;> rfl
  | ip =>
    obtain ⟨conn, hconn, heq⟩ := Option.map_eq_some_iff.mp hs
    cases heq
    exact .removeAddress hconn
  | count | active | closed =>
    cases hs
    refine .other ⟨rfl, rfl, fun _ => rfl, fun k => ?_, fun _ => ⟨rfl, rfl⟩, fun q => ?_, fun _ => rfl⟩
    · cases k <;> simp
    · simp
  | returned | missed => cases hs

theorem addrOf_modifyObject {f : Connection → Connection} (hf : ∀ x, (f x).remoteAddr = x.remoteAddr) :
    (cm.modifyObject id f).addrOf = cm.addrOf := KeyMap.map_modify_same hf cm.objects id

/-- **What a step does to the counters.** The calls that update a connection change attributes and
indexes only. -/
theorem counterStep_of_stepCall (hs : cm.stepCall host t = some (cm', t')) :
    CounterStep host cm t cm' t' := by
  cases t <;> obtain ⟨⟨cm₁, pc'⟩, hpc, heq⟩ := Option.map_eq_some_iff.mp hs <;> cases heq
  case addConnection => exact counterStep_add hpc
  case removeConnection => exact counterStep_remove hpc
  case setConnectionServerID pc | setConnectionAccountID pc =>
    cases pc <;> cases hpc <;> refine .quiet rfl rfl ?_ rfl (fun _ _ => rfl) (fun _ _ => rfl) fun _ => rfl
    all_goals first | rfl | exact addrOf_modifyObject fun _ => rfl
  case updateConnectionUserUUID pc =>
    cases pc with
    | lookup | write | dropUser | storeUser | dropOld =>
      cases hpc
      refine .quiet rfl rfl ?_ rfl (fun _ _ => rfl) (fun _ _ => rfl) fun _ => rfl
      first | rfl | exact addrOf_modifyObject fun _ => rfl
    | old | findOld | storeServerUser =>
      obtain ⟨conn, -, heq⟩ := Option.map_eq_some_iff.mp hpc
      cases heq
      exact .quiet rfl rfl rfl rfl (fun _ _ => rfl) (fun _ _ => rfl) fun _ => rfl
    | returned => cases hpc

/-! ### What follows for each quantity -/

section

variable (h : CounterStep host cm t cm' t')
include h

theorem CounterStep.counter_eq (k : Counter) :
    cm'.counter k + t'.removed (.counter k) (fun _ => true) + t.added (.counter k) (fun _ => true) =
      cm.counter k + t.removed (.counter k) (fun _ => true) +
        t'.added (.counter k) fun _ => true := by
  cases h with
  | other h => exact h.counter k
  | _ => cases k <;> simp [storeConnection, takeConnection]

theorem CounterStep.registered_eq (q : String → Bool) :
    (cm'.registeredIn q).card + t'.removed .connections q + t.added .connections q =
      (cm.registeredIn q).card + t.removed .connections q + t'.added .connections q := by
  cases h with
  | other h => rw [(h.added q).1, (h.removed q).1, registeredIn, registeredIn, h.connections]
  | @store id addr userUUID hfresh =>
    have hnew : id ∉ cm.connections := by
      intro hmem
      have hsome := cm.registered id hmem
      rw [hfresh] at hsome
      cases hsome
    have hset : (cm.storeConnection id addr userUUID).connections.toFinset =
        insert id cm.connections.toFinset := List.toFinset_cons
    rw [registeredIn, registeredIn, hset, Finset.filter_insert]
    cases hq : q id with
    | false => simp [hq]
    | true =>
      rw [if_pos rfl, Finset.card_insert_of_notMem (by simp [hnew])]
      simp [hq]
  | @take id hmem =>
    have hset : (cm.takeConnection id).connections.toFinset = cm.connections.toFinset.erase id := by
      ext c
      simp [takeConnection, and_comm]
    rw [registeredIn, registeredIn, hset, Finset.filter_erase]
    cases hq : q id with
    | false => simp [hq]
    | true =>
      have hcard := Finset.card_erase_add_one (s := cm.connections.toFinset.filter fun c => q c)
        (a := id) (by simp [hmem, hq])
      simp only [added, removed, RemovePc.rank, Quantity.removeRank, hq]
      simpa using hcard
  | addAddress | removeAddress => simp [registeredIn]

theorem CounterStep.addrOf_eq {addr : String} (hc : cm.addrOf c = some addr) :
    cm'.addrOf c = some addr := by
  cases h with
  | other h => exact (h.addr c).trans hc
  | @store id addr userUUID hfresh =>
    have hne : c ≠ id := by
      rintro rfl
      rw [addrOf, hfresh] at hc
      cases hc
    exact (congrArg (Option.map _) (KeyMap.store_of_ne _ _ hne)).trans hc
  | take => exact hc
  | addAddress => rwa [incrementIP_eq]
  | removeAddress => rwa [decrementIP_eq]

theorem CounterStep.opened_eq (c : String) :
    (if (cm'.addrOf c).isSome then 1 else 0) + t.added .connections (· = c) =
      (if (cm.addrOf c).isSome then 1 else 0) + t'.added .connections (· = c) := by
  cases h with
  | other h => rw [h.addr, (h.added _).1]
  | @store id addr userUUID hfresh =>
    by_cases hc : c = id
    · subst hc
      simp [addrOf, storeConnection, hfresh]
    · simp [addrOf, storeConnection, hc, Ne.symm hc]
  | _ => simp [addrOf, takeConnection]

end

end

/-! ## Whatever the interleaving -/

section

variable {host : String → String} {w w' : World ConnectionManager Call} {a : Action Call Unit}
  {κ : Quantity} {q : String → Bool} {t : Call} {ip : String}

theorem new_call (h : t.isNew) (κ : Quantity) (q : String → Bool) (c : String) :
    t.added κ q = 0 ∧ t.removed κ q = 0 ∧ t.adding c = false := by
  cases t with
  | addConnection id addr userUUID pc =>
    obtain rfl : pc = .connections := by simpa [isNew] using h
    rcases κ with _ | (_ | _ | _ | _) | _ <;>
      simp
  | removeConnection id pc =>
    obtain rfl : pc = .load := by simpa [isNew] using h
    rcases κ with _ | (_ | _ | _ | _) | _ <;>
      simp
  | _ => exact ⟨rfl, rfl, rfl⟩

/-- A quantity that every step changes by what its call then has added or removed. -/
theorem quantity_exec {v : ConnectionManager → ℤ}
    (hstep : ∀ (i : ℕ) t cm t', w.threads[i]? = some t → CounterStep host w.shared t cm t' →
      v cm + t'.removed κ q + t.added κ q = v w.shared + t.removed κ q + t'.added κ q)
    (hw : v w.shared + tally (removed κ q) w.threads = tally (added κ q) w.threads)
    (h : (calls host).exec w a = some w') :
    v w'.shared + tally (removed κ q) w'.threads = tally (added κ q) w'.threads := by
  obtain ⟨t, -, hnew, rfl⟩ | ⟨i, t, cm, t', -, ht, hs, rfl⟩ := calls_exec_cases h
  · obtain ⟨hadded, hremoved, -⟩ := new_call hnew κ q ""
    simpa [hadded, hremoved, -added, -removed] using hw
  · have hchange := hstep i t cm t' ht (counterStep_of_stepCall hs)
    have hadded := tally_set (added κ q) t' ht
    have hremoved := tally_set (removed κ q) t' ht
    dsimp only
    omega

/-- The table and the counters are what the calls have made of them. -/
structure Balanced (w : World ConnectionManager Call) : Prop where
  counter : ∀ k, w.shared.counter k + tally (Call.removed (.counter k) fun _ => true) w.threads =
    tally (Call.added (.counter k) fun _ => true) w.threads
  registered : ∀ q, ((w.shared.registeredIn q).card : ℤ) +
    tally (Call.removed .connections q) w.threads = tally (Call.added .connections q) w.threads
  opened : ∀ c, tally (Call.added .connections (· = c)) w.threads =
    if (w.shared.addrOf c).isSome then 1 else 0

theorem Balanced.exec (hb : Balanced w) (h : (calls host).exec w a = some w') : Balanced w' where
  counter k := quantity_exec (fun _ _ _ _ _ hs => hs.counter_eq k) (hb.counter k) h
  registered q := by
    refine quantity_exec (v := fun cm => ((cm.registeredIn q).card : ℤ)) ?_ (hb.registered q) h
    intro i t cm t' _ hs
    exact_mod_cast hs.registered_eq q
  opened c := by
    have hopened := hb.opened c
    obtain ⟨t, -, hnew, rfl⟩ | ⟨i, t, cm, t', -, ht, hs, rfl⟩ := calls_exec_cases h
    · simpa [(new_call hnew .connections (· = c) c).1, -added] using hopened
    · have hchange := (counterStep_of_stepCall hs).opened_eq c
      have hset := tally_set (added .connections (· = c)) t' ht
      dsimp only at hopened ⊢
      omega

theorem returned_call (h : t.isReturned) (q : String → Bool) :
    (κ ≠ .counter .closed → t.added κ q = t.added .connections q) ∧
      (κ ≠ .counter .total → t.removed κ q = t.removed .connections q) := by
  cases t with
  | addConnection id addr userUUID pc =>
    obtain rfl : pc = .returned := by simpa [isReturned] using h
    rcases κ with _ | (_ | _ | _ | _) | _ <;>
      simp
  | removeConnection id pc =>
    obtain rfl | rfl : pc = .returned ∨ pc = .missed := by simpa [isReturned] using h
    all_goals
      rcases κ with _ | (_ | _ | _ | _) | _ <;>
        simp
  | _ => exact ⟨fun _ => rfl, fun _ => rfl⟩

theorem added_of_quiet (hq : Quiet w) (hκ : κ ≠ .counter .closed) (q : String → Bool) :
    tally (added κ q) w.threads = tally (added .connections q) w.threads :=
  tally_congr fun t ht => (returned_call (hq t ht) q).1 hκ

theorem removed_of_quiet (hq : Quiet w) (hκ : κ ≠ .counter .total) (q : String → Bool) :
    tally (removed κ q) w.threads = tally (removed .connections q) w.threads :=
  tally_congr fun t ht => (returned_call (hq t ht) q).2 hκ

theorem tally_never : tally (added (.counter .closed) q) w.threads = 0 ∧
    tally (removed (.counter .total) q) w.threads = 0 := by
  rw [tally_eq_zero_iff, tally_eq_zero_iff]
  constructor
  · rintro (⟨id, addr, userUUID, pc⟩ | _ | _ | _ | _) - <;> try rfl
    cases pc <;> simp
  · rintro (_ | ⟨id, pc⟩ | _ | _ | _) - <;> try rfl
    cases pc <;> simp

/-- **Between calls** the counters are right in every run. -/
theorem Balanced.quiet (hb : Balanced w) (hq : Quiet w) : QuietCounters w := by
  have hall : (w.shared.registeredIn fun _ => true).card = w.shared.liveCount := by
    simp [registeredIn, liveCount]
  have hregistered := hb.registered fun _ => true
  have hcount := hb.counter .count
  have htotal := hb.counter .total
  have hactive := hb.counter .active
  have hclosed := hb.counter .closed
  rw [added_of_quiet hq (by simp), removed_of_quiet hq (by simp)] at hcount hactive
  rw [added_of_quiet hq (by simp), tally_never.2] at htotal
  rw [removed_of_quiet hq (by simp), tally_never.1] at hclosed
  simp only [ConnectionManager.counter] at hcount htotal hactive hclosed
  refine ⟨by omega, by omega, by omega, fun c hc => ?_⟩
  have hopened := hb.opened c
  have hone := hb.registered (· = c)
  rw [added_of_quiet hq (by simp), removed_of_quiet hq (by simp)]
  rw [if_pos (by simpa [addrOf] using hc)] at hopened
  omega

/-! ## Removals of counted connections -/

def Taken (w : World ConnectionManager Call) : Prop :=
  ∀ t ∈ w.threads, ∀ c, 0 < t.removed .connections (· = c) → ∀ u ∈ w.threads, u.adding c = false

/-- **What was taken was counted**: as many connections were added to each quantity as removals have
taken. -/
theorem removed_le_added (hb : Balanced w) (ht : Taken w) (q : String → Bool)
    (hκ : κ ≠ .counter .closed) :
    tally (Call.removed .connections q) w.threads ≤ tally (Call.added κ q) w.threads := by
  -- the connections of `q` that no call is adding
  let q' (c : String) : Bool := q c && w.threads.all fun u => !u.adding c
  have hremoved : tally (Call.removed .connections q) w.threads ≤
      tally (Call.removed .connections q') w.threads := by
    refine tally_mono fun t htmem => ?_
    cases t with
    | removeConnection id pc =>
      by_cases htaken : 0 < (Call.removeConnection id pc).removed .connections (· = id)
      · have hnone := ht _ htmem id htaken
        have hq' : q' id = q id := by
          have hall : (w.threads.all fun u => !u.adding id) = true := by simpa using hnone
          simp only [q', hall, Bool.and_true]
        simp only [Call.removed, hq']
        exact le_rfl
      · simp only [Call.removed] at htaken ⊢
        grind
    | _ => exact le_rfl
  have hadded : tally (Call.added .connections q') w.threads ≤ tally (Call.added κ q) w.threads := by
    refine tally_mono fun t htmem => ?_
    cases t with
    | addConnection id addr userUUID pc =>
      by_cases hq' : q' id
      · obtain ⟨hq, hnone⟩ := Bool.and_eq_true_iff.mp hq'
        have hnot := List.all_eq_true.mp hnone _ htmem
        rcases κ with _ | (_ | _ | _ | _) | _ <;> cases pc <;>
          simp_all
      · simp [hq']
    | _ => exact le_rfl
  have hbalance := hb.registered q'
  omega

theorem removed_le_taken (κ : Quantity) (q : String → Bool) (ts : List Call) :
    tally (removed κ q) ts ≤ tally (removed .connections q) ts := by
  refine tally_mono fun t _ => ?_
  cases t with
  | removeConnection id pc =>
    rcases κ with _ | (_ | _ | _ | _) | _ <;> cases pc <;>
      simp
  | _ => exact le_rfl

theorem nonneg_of_taken (hb : Balanced w) (ht : Taken w) : 0 ≤ w.shared.count ∧
    0 ≤ w.shared.totalConnections ∧ 0 ≤ w.shared.activeConnections ∧
    0 ≤ w.shared.closedConnections := by
  have hremoved (k : Counter) := removed_le_taken (.counter k) (fun _ => true) w.threads
  have hadded (k : Counter) (hk : k ≠ .closed) :=
    removed_le_added (κ := .counter k) hb ht (fun _ => true) (by simpa using hk)
  have hcount := hb.counter .count
  have htotal := hb.counter .total
  have hactive := hb.counter .active
  have hclosed := hb.counter .closed
  have h₁ := hremoved .count
  have h₂ := hremoved .active
  have h₃ := hadded .count (by simp)
  have h₄ := hadded .active (by simp)
  rw [tally_never.2] at htotal
  rw [tally_never.1] at hclosed
  simp only [counter] at hcount htotal hactive hclosed
  omega

variable {cm cm' : ConnectionManager} {c : String} {t' : Call}

theorem CounterStep.removed_pos (h : CounterStep host cm t cm' t')
    (hpos : 0 < t'.removed .connections (· = c)) :
    0 < t.removed .connections (· = c) ∨ c ∈ t.takes ∧ c ∈ cm.connections := by
  cases h with
  | other h => exact .inl ((h.removed _).1 ▸ hpos)
  | @take id hmem =>
    obtain rfl : id = c := by
      by_contra hne
      simp [hne] at hpos
    exact .inr ⟨rfl, hmem⟩
  | @removeAddress id conn =>
    refine .inl ?_
    simpa using hpos
  | _ => cases hpos

theorem CounterStep.adding_true (h : CounterStep host cm t cm' t') (hadding : t'.adding c = true) :
    t.adding c = true ∨ cm.addrOf c = none := by
  cases h with
  | other h => exact .inl (h.adding c ▸ hadding)
  | @store id addr userUUID hfresh =>
    obtain rfl : id = c := by simpa using hadding
    exact .inr (by rw [addrOf, hfresh, Option.map_none])
  | addAddress => simp at hadding
  | _ => cases hadding

theorem addrOf_of_removed (hb : Balanced w) (htmem : t ∈ w.threads)
    (hpos : 0 < t.removed .connections (· = c)) : w.shared.addrOf c ≠ none := by
  intro hnone
  have hopened := hb.opened c
  have hregistered := hb.registered (· = c)
  have hle := le_tally (removed .connections (· = c)) htmem
  rw [hnone, Option.isSome_none, if_neg Bool.false_ne_true] at hopened
  omega

/-- The guard of a run: removals take connections that are added. -/
abbrev TakesGuard : World ConnectionManager Call → Action Call Unit → Prop :=
  Program.ThreadGuard (fun _ _ => True) TakesAdded

theorem Taken.exec (hb : Balanced w) (ht : Taken w) (hg : TakesGuard w a)
    (h : (calls host).exec w a = some w') : Taken w' := by
  obtain ⟨t, -, hnew, rfl⟩ | ⟨i, t, cm, t', rfl, hti, hs, rfl⟩ := calls_exec_cases h
  · intro u hu c hpos v hv
    obtain ⟨-, hremoved, hadding⟩ := new_call hnew .connections (· = c) c
    rcases of_mem_snoc hu with hu | rfl
    · rcases of_mem_snoc hv with hv | rfl
      · exact ht u hu c hpos v hv
      · assumption
    · omega
  · have hstep := counterStep_of_stepCall hs
    have htmem := List.mem_of_getElem? hti
    intro u hu c hpos v hv
    by_contra hadding
    rw [Bool.not_eq_false] at hadding
    -- who was adding the connection before the step, and who had taken it
    have hadds : (∃ v ∈ w.threads, v.adding c = true) ∨ w.shared.addrOf c = none := by
      rcases List.mem_or_eq_of_mem_set hv with hv | rfl
      · exact .inl ⟨v, hv, hadding⟩
      · exact (hstep.adding_true hadding).imp_left fun h => ⟨t, htmem, h⟩
    have htakes : (∃ u ∈ w.threads, 0 < u.removed .connections (· = c)) ∨
        c ∈ t.takes ∧ c ∈ w.shared.connections := by
      rcases List.mem_or_eq_of_mem_set hu with hu | rfl
      · exact .inl ⟨u, hu, hpos⟩
      · exact (hstep.removed_pos hpos).imp_left fun h => ⟨t, htmem, h⟩
    rcases htakes with ⟨u, hu, hpos⟩ | ⟨htake, hmem⟩
    · rcases hadds with ⟨v, hv, hadding⟩ | hnone
      · exact Bool.false_ne_true ((ht u hu c hpos v hv).symm.trans hadding)
      · exact addrOf_of_removed hb hu hpos hnone
    · rcases hadds with ⟨v, hv, hadding⟩ | hnone
      · exact Bool.false_ne_true ((hg t hti c htake hmem v hv).symm.trans hadding)
      · have hsome := w.shared.registered c hmem
        rw [Option.map_eq_none_iff.mp hnone] at hsome
        cases hsome

/-! ### Counts per address -/

def Call.Knows (cm : ConnectionManager) : Call → Prop
  | .addConnection id addr _ pc => 0 < pc.rank → cm.addrOf id = some addr
  | _ => True

theorem Call.Knows.step (h : t.Knows cm) (hs : cm.stepCall host t = some (cm', t')) :
    t'.Knows cm' := by
  have hstep := counterStep_of_stepCall hs
  cases t with
  | addConnection id addr userUUID pc =>
    obtain ⟨⟨cm₁, pc'⟩, hpc, heq⟩ := Option.map_eq_some_iff.mp hs
    cases heq
    intro _
    cases pc with
    | connections =>
      obtain ⟨-, hs⟩ := Option.ite_none_left_eq_some.mp hpc
      cases hs
      simp [addrOf, storeConnection]
    | _ => exact hstep.addrOf_eq (h (by decide))
  | _ =>
    obtain ⟨r, -, heq⟩ := Option.map_eq_some_iff.mp hs
    cases heq
    trivial

theorem Call.Knows.other {t' u : Call} (h : u.Knows cm) (hs : CounterStep host cm t cm' t') :
    u.Knows cm' := by
  cases u with
  | addConnection id addr userUUID pc => exact fun hpos => hs.addrOf_eq (h hpos)
  | _ => trivial

/-- `q` holds the connections opened from an address, among those that are open. -/
def Agrees (host : String → String) (cm : ConnectionManager) (ip : String) (q : String → Bool) : Prop :=
  ∀ c addr, cm.addrOf c = some addr → q c = decide (host addr = ip)

/-- The counts, when removals take connections that are added. -/
structure AddressesCounted (host : String → String) (w : World ConnectionManager Call) : Prop where
  balanced : Balanced w
  taken : Taken w
  knows : ∀ t ∈ w.threads, t.Knows w.shared
  address : ∀ ip, ip ≠ "" → ∀ q, Agrees host w.shared ip q →
    (w.shared.ipConnections ip : ℤ) + tally (Call.removed .address q) w.threads =
      tally (Call.added .address q) w.threads

/-- **The decrement is never lost**: the address of a connection that a removal has taken counts it. -/
theorem AddressesCounted.address_pos (hw : AddressesCounted host w) (hip : ip ≠ "") (hq : Agrees host w.shared ip q)
    {id : String} {i : ℕ} (hti : w.threads[i]? = some (.removeConnection id .ip)) (hid : q id = true) :
    0 < w.shared.ipConnections ip := by
  have hbalance := hw.address ip hip q hq
  have hadded := removed_le_added (κ := .address) hw.balanced hw.taken q (by simp)
  -- all other removals are as far in the table, and this one is further
  have hothers := removed_le_taken .address q (w.threads.set i (.removeConnection id .take))
  have haddress := tally_set (removed .address q) (.removeConnection id .take) hti
  have htaken := tally_set (removed .connections q) (.removeConnection id .take) hti
  simp [hid] at haddress htaken hothers
  omega

theorem AddressesCounted.exec (hw : AddressesCounted host w) (hg : TakesGuard w a)
    (h : (calls host).exec w a = some w') : AddressesCounted host w' where
  balanced := hw.balanced.exec h
  taken := hw.taken.exec hw.balanced hg h
  knows := by
    obtain ⟨t, -, hnew, rfl⟩ | ⟨i, t, cm, t', -, hti, hs, rfl⟩ := calls_exec_cases h
    · intro u hu
      rcases of_mem_snoc hu with hu | rfl
      · exact hw.knows u hu
      · cases u with
        | addConnection id addr userUUID pc =>
          obtain rfl : pc = .connections := by simpa [isNew] using hnew
          exact fun hpos => absurd hpos (by decide)
        | _ => trivial
    · intro u hu
      rcases List.mem_or_eq_of_mem_set hu with hu | rfl
      · exact (hw.knows u hu).other (counterStep_of_stepCall hs)
      · exact (hw.knows t (List.mem_of_getElem? hti)).step hs
  address ip hip q hq' := by
    have hq : Agrees host w.shared ip q := by
      intro c addr hc
      obtain ⟨t, -, -, rfl⟩ | ⟨i, t, cm, t', -, -, hs, rfl⟩ := calls_exec_cases h
      · exact hq' c addr hc
      · exact hq' c addr ((counterStep_of_stepCall hs).addrOf_eq hc)
    refine quantity_exec (v := fun cm => (cm.ipConnections ip : ℤ)) ?_ (hw.address ip hip q hq) h
    intro i t cm t' hti hs
    cases hs with
    | other h => rw [h.ip, (h.added q).2, (h.removed q).2]
    | store | take => simp [storeConnection, takeConnection]
    | @addAddress id addr userUUID =>
      have hid := hq id addr (hw.knows _ (List.mem_of_getElem? hti) (by decide))
      simp only [incrementIP_eq, countUp_apply _ hip, added, removed, AddPc.rank,
        Quantity.addRank, hid]
      grind
    | @removeAddress id conn hconn =>
      have hid := hq id conn.remoteAddr (by rw [addrOf, hconn, Option.map_some])
      have hpos := hw.address_pos hip hq hti
      simp only [decrementIP_eq, countDown_apply _ hip, added, removed, RemovePc.rank,
        Quantity.removeRank, hid]
      grind

theorem AddressesCounted.perAddress (hw : AddressesCounted host w) (hquiet : Quiet w) (hip : ip ≠ "") :
    w.shared.ipConnections ip =
      (w.shared.registeredIn fun c => (w.shared.addrOf c).any fun addr => host addr = ip).card := by
  have hbalance := hw.address ip hip
    (fun c => (w.shared.addrOf c).any fun addr => host addr = ip) fun c addr hc => by simp [hc]
  have hregistered := hw.balanced.registered fun c => (w.shared.addrOf c).any fun addr => host addr = ip
  rw [added_of_quiet hquiet (by simp), removed_of_quiet hquiet (by simp)] at hbalance
  omega

theorem addressesCounted_noCalls (host : String → String) : AddressesCounted host noCalls where
  balanced :=
    { counter := fun k => by cases k <;> rfl
      registered := fun _ => rfl
      opened := fun _ => rfl }
  taken := fun _ h => absurd h List.not_mem_nil
  knows := fun _ h => absurd h List.not_mem_nil
  address := fun _ _ _ _ => rfl

end

/-! ## The counters of every run -/

/-- **The counters are right** in every state of a run in which removals take only connections whose
`AddConnection` has returned, however the calls interleave. -/
theorem countersRight_of_takesAdded (host : String → String) (as : List (Action Call Unit))
    (hguard : (calls host).Guarded TakesGuard noCalls as) :
    (calls host).Throughout (CountersRight host) noCalls as := by
  refine Transition.throughout_of_guarded (J := AddressesCounted host) (fun w hw => ?_)
    (fun w a w' hw hg h => hw.exec hg h) (addressesCounted_noCalls host) hguard
  exact ⟨nonneg_of_taken hw.balanced hw.taken, hw.balanced.quiet,
    fun hquiet ip hip => hw.perAddress hquiet hip⟩

/-- A connection is opened and then removed by two calls at the same time. -/
def removedTwice : List (Action Call Unit) :=
  .start (.addConnection "c" "10.0.0.1" "" .connections) :: List.replicate 6 (.step 0 ()) ++
    [.start (.removeConnection "c" .load), .start (.removeConnection "c" .load), .step 1 (), .step 2 (),
      .step 2 (), .step 1 ()] ++ List.replicate 10 (.step 2 ())

theorem removedTwice_countersRight :
    (((calls id).run noCalls removedTwice).any fun w =>
        Quiet w ∧ w.shared.totalConnections = 1 ∧ w.shared.connections = []) ∧
      (calls id).Throughout (CountersRight id) noCalls removedTwice :=
  ⟨by decide +kernel, countersRight_of_takesAdded id removedTwice (by decide +kernel)⟩

/-- `AddConnection` has stored its connection, and a removal runs before the connection is counted. -/
def removedEarly : List (Action Call Unit) :=
  [.start (.addConnection "c" "10.0.0.1" "" .connections), .step 0 (),
    .start (.removeConnection "c" .load)] ++ List.replicate 12 (.step 1 ())

/-- **The counters are wrong**: the count of connections is negative, and once both calls have returned
the address counts a connection that is gone. -/
theorem removedEarly_counts :
    ¬ (calls id).Throughout (CountersRight id) noCalls removedEarly ∧
      ((calls id).run noCalls removedEarly).map (fun w => w.shared.count) = some (-1) ∧
      ((calls id).run noCalls (removedEarly ++ List.replicate 5 (.step 0 ()))).map
        (fun w => (decide (Quiet w), w.shared.connections, w.shared.ipConnections "10.0.0.1")) =
        some (true, [], 1) := by
  refine ⟨fun h => ?_, by decide +kernel, by decide +kernel⟩
  obtain ⟨w, hrun, hneg⟩ : ∃ w, (calls id).run noCalls removedEarly = some w ∧
      ¬ 0 ≤ w.shared.count := Transition.exists_end (by decide +kernel)
  exact hneg (h.finish hrun).nonneg.1

end Sgate.ConnectionManager
