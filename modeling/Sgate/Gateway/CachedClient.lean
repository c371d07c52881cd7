import Sgate.Gateway.Objects

/-! # The cached logic client

`Process` keeps the logic client of a connection in the connection and uses it as long as it is
connected. Nothing clears this cache: not the login that binds the connection to another server, and
not the pool when it replaces the client of a server. -/

namespace Sgate.Gateway

open Routes Interleaving

/-! ## The property and the condition -/

/-- The client `Process` hands a message to is the one the pool has for the connection's server. -/
def SendsToBound (w : World Gateway Task) : Task → Prop
  | .process c _ (.send (some client) _) => ∀ x ∈ w.shared.connectionManager.objects c,
      w.shared.clients x.serverID = some client
  | _ => True

/-- `Process` has found the connection. -/
def ProcessPc.entered : ProcessPc → Bool
  | .overload | .getConnection => false
  | _ => true

def Task.underWay : Task → Option String
  | .process c _ pc => if pc.entered then some c else none
  | _ => none

/-- The connection that a pass through the pipeline looks up in its next step. -/
def Task.looksUp : Task → Option String
  | .process c _ .getConnection => some c
  | _ => none

def cachedClient (g : Gateway) (x : Connection) : Option ℕ := x.logicClient.filter g.isConnected

/-- The connections that are registered, and those with a message under way. -/
def inUse (w : World Gateway Task) : List String :=
  w.shared.connectionManager.connections ++ w.threads.filterMap Task.underWay

/-- A step leaves no connection with a client of the wrong server. -/
def KeepsCaches (w : World Gateway Task) : Task → Prop
  -- to another server only without a message under way, and with no cache but the right one
  | .login c _ r .bind => ∀ x ∈ w.shared.connectionManager.objects c,
      x.serverID ≠ "" → x.serverID ≠ r.serverID → c ∉ w.threads.filterMap Task.underWay ∧
        ∀ client ∈ w.shared.cachedClient x, w.shared.clients r.serverID = some client
  -- another client only while no connection of the server has cached one or has a message under way
  | .setClient serverID client => ∀ old ∈ w.shared.clients serverID, old ≠ client →
      ∀ c ∈ inUse w, ∀ x ∈ w.shared.connectionManager.objects c, x.serverID = serverID →
        w.shared.cachedClient x = none ∧ c ∉ w.threads.filterMap Task.underWay
  -- a client that was replaced does not come back
  | .setConnected client up => up = true → ∀ c ∈ inUse w,
      ∀ x ∈ w.shared.connectionManager.objects c, x.logicClient = some client →
        w.shared.clients x.serverID = some client
  | _ => True

instance (w : World Gateway Task) (t : Task) : Decidable (SendsToBound w t) := by
  unfold SendsToBound
  split <;> infer_instance

instance (w : World Gateway Task) (t : Task) : Decidable (KeepsCaches w t) := by
  unfold KeepsCaches
  split <;> infer_instance

/-! ## The invariant -/

/-- Caches and messages under way have the client of the connection's server. -/
structure CachesRight (w : World Gateway Task) : Prop where
  cached : ∀ c ∈ inUse w, ∀ x client, w.shared.connectionManager.objects c = some x →
    w.shared.cachedClient x = some client → w.shared.clients x.serverID = some client
  unbound : ∀ c x, w.shared.connectionManager.objects c = some x → x.serverID = "" →
    x.logicClient = none
  held : ∀ c m pc client, .process c m pc ∈ w.threads → pc.client = some client →
    ∃ x, w.shared.connectionManager.objects c = some x ∧ x.serverID ≠ "" ∧
      w.shared.clients x.serverID = some client
  workers : ∀ c m r pc, .login c m r pc ∈ w.threads → r.serverID ≠ ""

section

variable {cfg : Config} {w : World Gateway Task} {i : ℕ} {choice : Choice} {g g' : Gateway}
  {t t' : Task} {new : List Task} {c : String} {x x' : Connection} {m : StreamData} {client : ℕ}
  {pc pc' : ProcessPc}

theorem cachedClient_eq_some :
    g.cachedClient x = some client ↔ x.logicClient = some client ∧ g.isConnected client = true :=
  Option.filter_eq_some_iff

theorem entered_of_client (h : pc.client = some client) : pc.entered = true := by
  cases pc <;> first | rfl | cases h

theorem mem_inUse : c ∈ inUse w ↔ c ∈ w.shared.connectionManager.connections ∨
    c ∈ w.threads.filterMap Task.underWay := List.mem_append

/-! ## What a step does to a connection -/

theorem serverID_writes {k : Credentials} (hbind : ¬ ∃ m r, t = .login c m r .bind) :
    (t.writes c k).serverID = k.serverID := by
  cases t with
  | login d m r pc =>
    rw [Task.writes]
    split
    · subst d
      cases pc with
      | bind => exact absurd ⟨m, r, rfl⟩ hbind
      | account | key =>
        rw [LoginPc.writes]
        split <;> rfl
      | _ => rfl
    · rfl
  | wsUpdate d m | push d userKey =>
    rw [Task.writes]
    split <;> rfl
  | _ => rfl

/-- **The server and the cached client of a connection after a step.** -/
theorem object_cases (hs : stepTask cfg g t choice = some (g', t', new))
    (hx' : g'.connectionManager.objects c = some x') :
    (g.connectionManager.objects c = none ∧ x'.serverID = "" ∧ x'.logicClient = none) ∨
    ∃ x, g.connectionManager.objects c = some x ∧
      ((x'.serverID = x.serverID ∧ x'.logicClient = x.logicClient) ∨
      (∃ m r, t = .login c m r .bind ∧ x'.serverID = r.serverID ∧ x'.logicClient = x.logicClient) ∨
      (∃ m client, t = .process c m .logicClient ∧ x.serverID ≠ "" ∧ x'.serverID = x.serverID ∧
        x'.logicClient = some client ∧ g.getLogicClient x.serverID = some client)) := by
  cases hx : g.connectionManager.objects c with
  | none =>
    obtain ⟨tempUUID, addr, -, rfl⟩ := opened_of_stepTask hs hx hx'
    exact .inl ⟨rfl, rfl, rfl⟩
  | some x =>
    refine .inr ⟨x, rfl, ?_⟩
    obtain ⟨y, hy, hcredentials, hclient⟩ := wrote_of_stepTask hs hx
    obtain rfl := Option.mem_unique hx' hy
    by_cases hbind : ∃ m r, t = .login c m r .bind
    · obtain ⟨m, r, rfl⟩ := hbind
      have hkept : x'.logicClient = x.logicClient := by
        rcases hclient with hkept | ⟨_, _, heq, -⟩
        · exact hkept
        · cases heq
      by_cases hmem : c ∈ g.connectionManager.connections
      · rw [if_pos hmem, Task.writes, if_pos rfl] at hcredentials
        exact .inr (.inl ⟨m, r, rfl, congrArg Credentials.serverID hcredentials, hkept⟩)
      · rw [if_neg hmem] at hcredentials
        exact .inl ⟨congrArg Credentials.serverID hcredentials, hkept⟩
    · have hserver : x'.serverID = x.serverID := by
        split at hcredentials
        · exact (congrArg Credentials.serverID hcredentials).trans (serverID_writes hbind)
        · exact congrArg Credentials.serverID hcredentials
      rcases hclient with hkept | ⟨m, client, rfl, hcached, hbound, hpool⟩
      · exact .inl ⟨hserver, hkept⟩
      · exact .inr (.inr ⟨m, client, rfl, hbound, hserver, hcached, hpool⟩)

/-! ## What a step does to a message under way -/

theorem process_cases (hs : stepTask cfg g t choice = some (g', .process c m pc', new)) :
    pc' = .overload ∨ ∃ pc, t = .process c m pc ∧
      processMessage cfg g c m pc choice = some (g', .process c m pc', new) := by
  have hstep := taskStep_of_stepTask hs
  generalize ht' : Task.process c m pc' = t' at hstep
  generalize g'.view = v' at hstep
  cases hstep with
  | toProcess | wsUpdate =>
    cases ht'
    exact .inl rfl
  | process hp => cases hp <;> cases ht' <;> exact .inr ⟨_, rfl, hs⟩
  | login hl => cases hl <;> cases ht'
  | forward h | notify h => rcases h with rfl | rfl <;> cases ht'
  | _ => cases ht'

theorem underWay_of_stepTask (hs : stepTask cfg g t choice = some (g', t', new))
    (hc : t'.underWay = some c) :
    t.underWay = some c ∨ t.looksUp = some c ∧ c ∈ g.connectionManager.connections := by
  cases t' with
  | process d m pc' =>
    rw [Task.underWay] at hc
    split at hc <;> cases hc
    rename_i hentered
    obtain rfl | ⟨pc, rfl, hp⟩ := process_cases hs
    · cases hentered
    · by_cases hpc : pc.entered = true
      · exact .inl (if_pos hpc)
      · cases pc with
        | overload =>
          cases choice <;> simp only [processMessage] at hp <;> (try split at hp) <;> cases hp <;>
            cases hentered
        | getConnection =>
          simp only [processMessage] at hp
          split at hp
          · cases hp
          · rename_i y hy
            exact .inr ⟨rfl, ConnectionManager.mem_connections_iff.mpr ⟨y, hy⟩⟩
        | _ => exact absurd rfl hpc
  | _ => cases hc

theorem underWay_cases (hs : stepTask cfg g t choice = some (g', t', new))
    (hc : t'.underWay = some c) :
    t.underWay = some c ∨ c ∈ g.connectionManager.connections :=
  (underWay_of_stepTask hs hc).imp_right And.right

theorem client_cases (hp : processMessage cfg g c m pc choice = some (g', .process c m pc', new))
    (hclient : pc'.client = some client) : pc = .logicClient ∨ pc.client = some client := by
  have hstep := (pipelineStep_of_processMessage hp).1
  generalize ht' : Task.process c m pc' = t' at hstep
  generalize g'.view = v' at hstep
  cases hstep with
  | early hnone _ =>
    cases ht'
    rw [hnone] at hclient
    cases hclient
  | logicClient _ => exact .inl rfl
  | fast _ _ | secure _ _ | build _ =>
    cases ht'
    exact .inr hclient
  | _ => cases ht'

theorem client_of_logicClient
    (hp : processMessage cfg g c m .logicClient choice = some (g', .process c m pc', new))
    (hclient : pc'.client = some client) :
    ∃ x, g.connectionManager.objects c = some x ∧ x.serverID ≠ "" ∧
      (g.cachedClient x = some client ∨ g.getLogicClient x.serverID = some client) := by
  cases hx : g.connectionManager.objects c with
  | none => simp [processMessage, hx] at hp
  | some x =>
    obtain ⟨-, ⟨heq, -⟩ | heq⟩ | ⟨k, -, heq, hbound, hcached, hup⟩ | ⟨k, heq, hbound, hpool, -⟩ :=
      logicClient_cases hp hx
    · cases heq
      cases hclient
    · cases heq
    · cases heq
      cases hclient
      exact ⟨x, rfl, hbound, .inl (cachedClient_eq_some.mpr ⟨hcached, hup⟩)⟩
    · cases heq
      cases hclient
      exact ⟨x, rfl, hbound, .inr hpool⟩

theorem clients_of_getLogicClient {serverID : String}
    (h : g.getLogicClient serverID = some client) : g.clients serverID = some client := by
  unfold getLogicClient at h
  split at h
  · cases h
  · split at h
    · rename_i hclient _
      rw [hclient, ← h]
    · cases h

theorem pool_same (hs : stepTask cfg g t choice = some (g', t', new))
    (hset : ∀ serverID k, t ≠ .setClient serverID k) (hup : ∀ k up, t ≠ .setConnected k up) :
    g'.clients = g.clients ∧ g'.isConnected = g.isConnected := by
  obtain hsame | ⟨serverID, k, rfl, -⟩ | ⟨k, up, rfl, -⟩ := pool_of_stepTask hs
  · exact hsame
  · exact absurd rfl (hset serverID k)
  · exact absurd rfl (hup k up)

theorem mem_underWay (ht : .process c m pc ∈ w.threads) (hpc : pc.entered = true) :
    c ∈ w.threads.filterMap Task.underWay :=
  List.mem_filterMap.mpr ⟨_, ht, if_pos hpc⟩

/-! ## One step -/

section

variable (hs : stepTask cfg w.shared t choice = some (g', t', new))
include hs

theorem inUse_step (ht : w.threads[i]? = some t)
    (hc : c ∈ inUse ⟨g', w.threads.set i t' ++ new⟩) :
    c ∈ inUse w ∨ w.shared.connectionManager.objects c = none := by
  have hstep := taskStep_of_stepTask hs
  rcases mem_inUse.mp hc with hreg | hway
  · by_cases hnone : w.shared.connectionManager.objects c = none
    · exact .inr hnone
    · refine .inl (mem_inUse.mpr (.inl ?_))
      by_contra hnot
      -- an opened connection that is not registered stays so
      have hretired : IsRetired w.shared.view.sessions c := by
        refine ⟨?_, hnot⟩
        rw [userUUID_view, Option.isSome_map, Option.isSome_iff_ne_none]
        exact hnone
      exact ((hstep.users.isRetired_iff).mpr (.inl hretired)).2 hreg
  · refine .inl ?_
    obtain ⟨u, hu, huc⟩ := List.mem_filterMap.mp hway
    rcases of_mem_set_append hu with hu | rfl | hu
    · exact mem_inUse.mpr (.inr (List.mem_filterMap.mpr ⟨u, hu, huc⟩))
    · rcases underWay_cases hs huc with htc | hreg
      · exact mem_inUse.mpr (.inr (List.mem_filterMap.mpr ⟨t, List.mem_of_getElem? ht, htc⟩))
      · exact mem_inUse.mpr (.inl hreg)
    · have hnone := (hstep.forall_new (P := fun n => n.underWay = none)) u hu
      rw [hnone] at huc
      cases huc

variable (hg : KeepsCaches w t)
include hg

theorem KeepsCaches.clients_step (hc : c ∈ inUse w)
    (hx : w.shared.connectionManager.objects c = some x)
    (hrelies : w.shared.cachedClient x = some client ∨ c ∈ w.threads.filterMap Task.underWay)
    (hclient : w.shared.clients x.serverID = some client) : g'.clients x.serverID = some client := by
  obtain ⟨hclients, -⟩ | ⟨serverID, k, rfl, rfl⟩ | ⟨k, up, rfl, rfl⟩ := pool_of_stepTask hs
  · rw [hclients]
    exact hclient
  · simp only [KeyMap.store_apply]
    split
    · rename_i hserver
      -- the client is replaced by itself, or nobody of this server relies on it
      by_cases hk : client = k
      · rw [hk]
      · obtain ⟨hcached, hway⟩ := hg client (hserver ▸ hclient) hk c hc x hx hserver
        rcases hrelies with hrelies | hrelies
        · rw [hcached] at hrelies
          cases hrelies
        · exact absurd hrelies hway
    · exact hclient
  · exact hclient

theorem KeepsCaches.connected (hc : c ∈ inUse w)
    (hx : w.shared.connectionManager.objects c = some x) (hclient : x.logicClient = some client)
    (hbefore : w.shared.isConnected client = false) (hup : g'.isConnected client = true) :
    g'.clients x.serverID = some client := by
  obtain ⟨-, hsame⟩ | ⟨serverID, k, rfl, rfl⟩ | ⟨k, up, rfl, rfl⟩ := pool_of_stepTask hs
  · rw [hsame, hbefore] at hup
    cases hup
  · have hup : w.shared.isConnected client = true := hup
    rw [hbefore] at hup
    cases hup
  · simp only [Function.update_apply] at hup
    split at hup
    · rename_i heq
      subst k
      exact hg hup c hc x hx hclient
    · rw [hbefore] at hup
      cases hup

theorem KeepsCaches.held_step (hway : c ∈ w.threads.filterMap Task.underWay)
    (hx : w.shared.connectionManager.objects c = some x) (hbound : x.serverID ≠ "")
    (hclient : w.shared.clients x.serverID = some client) :
    ∃ x', g'.connectionManager.objects c = some x' ∧ x'.serverID ≠ "" ∧
      g'.clients x'.serverID = some client := by
  have hc : c ∈ inUse w := mem_inUse.mpr (.inr hway)
  have hclients := hg.clients_step hs hc hx (.inr hway) hclient
  obtain ⟨x', hx', -⟩ := wrote_of_stepTask hs hx
  refine ⟨x', hx', ?_⟩
  obtain ⟨hnone, -⟩ | ⟨y, hy, hcase⟩ := object_cases hs hx'
  · rw [hx] at hnone
    cases hnone
  obtain rfl := Option.mem_unique hx hy
  obtain ⟨hserver, -⟩ | ⟨m, r, rfl, hserver, -⟩ | ⟨m, k, rfl, -, hserver, -⟩ := hcase
  · rw [hserver]
    exact ⟨hbound, hclients⟩
  · by_cases hsame : x.serverID = r.serverID
    · rw [hserver, ← hsame]
      exact ⟨hbound, hclients⟩
    · exact absurd hway (hg x hx hbound hsame).1
  · rw [hserver]
    exact ⟨hbound, hclients⟩

variable (hw : CachesRight w) (ht : w.threads[i]? = some t)
include hw ht

theorem CachesRight.cached_step
    (hc : c ∈ inUse ⟨g', w.threads.set i t' ++ new⟩)
    (hx' : g'.connectionManager.objects c = some x') (hcached : g'.cachedClient x' = some client) :
    g'.clients x'.serverID = some client := by
  obtain ⟨hclient, hup⟩ := cachedClient_eq_some.mp hcached
  obtain ⟨-, -, hnone⟩ | ⟨x, hx, hcase⟩ := object_cases hs hx'
  · rw [hnone] at hclient
    cases hclient
  have hc₀ : c ∈ inUse w := by
    rcases inUse_step hs ht hc with hc₀ | hnone
    · exact hc₀
    · rw [hx] at hnone
      cases hnone
  obtain ⟨hserver, hkept⟩ | ⟨m, r, rfl, hserver, hkept⟩ | ⟨m, k, rfl, -, hserver, hnew, hpool⟩ := hcase
  · rw [hkept] at hclient
    rw [hserver]
    cases hbefore : w.shared.isConnected client with
    | true =>
      have hcached₀ := cachedClient_eq_some.mpr ⟨hclient, hbefore⟩
      exact hg.clients_step hs hc₀ hx (.inl hcached₀) (hw.cached c hc₀ x client hx hcached₀)
    | false => exact hg.connected hs hc₀ hx hclient hbefore hup
  · -- the connection is bound to another server
    obtain ⟨hclients, hconnected⟩ := pool_same hs (by simp) (by simp)
    rw [hkept] at hclient
    rw [hconnected] at hup
    have hcached₀ := cachedClient_eq_some.mpr ⟨hclient, hup⟩
    rw [hserver, hclients]
    by_cases hempty : x.serverID = ""
    · rw [hw.unbound c x hx hempty] at hclient
      cases hclient
    · by_cases hsame : x.serverID = r.serverID
      · rw [← hsame]
        exact hw.cached c hc₀ x client hx hcached₀
      · exact (hg x hx hempty hsame).2 client hcached₀
  · -- the client was looked up in the pool
    obtain ⟨hclients, -⟩ := pool_same hs (by simp) (by simp)
    rw [hnew] at hclient
    cases hclient
    rw [hserver, hclients]
    exact clients_of_getLogicClient hpool

/-- **One step.** -/
theorem CachesRight.step : CachesRight ⟨g', w.threads.set i t' ++ new⟩ where
  cached c hc x client hx hcached := hw.cached_step hs hg ht hc hx hcached
  unbound c x' hx' hempty := by
    obtain ⟨-, -, hnone⟩ | ⟨x, hx, ⟨hserver, hkept⟩ | ⟨m, r, rfl, hserver, hkept⟩ |
      ⟨m, k, rfl, hbound, hserver, -⟩⟩ := object_cases hs hx'
    · exact hnone
    · rw [hkept]
      exact hw.unbound c x hx (hserver ▸ hempty)
    · exact absurd (hserver ▸ hempty) (hw.workers c m r .bind (List.mem_of_getElem? ht))
    · exact absurd (hserver ▸ hempty) hbound
  held c m pc client hu hclient := by
    have hmem := List.mem_of_getElem? ht
    rcases of_mem_set_append hu with hu | rfl | hu
    · obtain ⟨x, hx, hbound, hclients⟩ := hw.held c m pc client hu hclient
      exact hg.held_step hs (mem_underWay hu (entered_of_client hclient)) hx hbound hclients
    · obtain rfl | ⟨pc₀, rfl, hp⟩ := process_cases hs
      · cases hclient
      rcases client_cases hp hclient with rfl | hclient₀
      · have hway := mem_underWay hmem rfl
        obtain ⟨x, hx, hbound, hcached | hpool⟩ := client_of_logicClient hp hclient
        · refine hg.held_step hs hway hx hbound ?_
          exact hw.cached c (mem_inUse.mpr (.inr hway)) x client hx hcached
        · exact hg.held_step hs hway hx hbound (clients_of_getLogicClient hpool)
      · obtain ⟨x, hx, hbound, hclients⟩ := hw.held c m pc₀ client hmem hclient₀
        exact hg.held_step hs (mem_underWay hmem (entered_of_client hclient₀)) hx hbound hclients
    · exact absurd rfl
        (((taskStep_of_stepTask hs).forall_new (P := fun n => n ≠ .process c m pc)) _ hu)
  workers c m r pc hu := by
    have hstep := taskStep_of_stepTask hs
    rcases of_mem_set_append hu with hu | rfl | hu
    · exact hw.workers c m r pc hu
    · obtain ⟨-, -, hne⟩ | ⟨pc₀, rfl, -⟩ := hstep.login_cases
      · exact hne
      · exact hw.workers c m r pc₀ (List.mem_of_getElem? ht)
    · exact absurd rfl (hstep.new_ne_login hu c m r pc)

end

theorem CachesRight.start (hw : CachesRight w) (hs : startTask w.shared t = some g') :
    CachesRight ⟨g', w.threads ++ [t]⟩ := by
  obtain ⟨rfl, hentry⟩ := entry_of_startTask hs
  have hold {u : Task} (hu : u ∈ w.threads ++ [t]) (hu' : u.entry = false) : u ∈ w.threads := by
    rcases of_mem_snoc hu with hu | rfl
    · exact hu
    · cases hentry.symm.trans hu'
  have hway : t.underWay = none := by
    cases t with
    | process _ _ _ => cases hentry
    | _ => rfl
  constructor
  · intro c hc
    refine hw.cached c ?_
    simpa [inUse, List.filterMap_append, hway] using hc
  · exact hw.unbound
  · intro c m pc client hu
    exact hw.held c m pc client (hold hu rfl)
  · intro c m r pc hu
    exact hw.workers c m r pc (hold hu rfl)

theorem cachesRight_init : CachesRight initWorld := by
  constructor
  · intro c hc
    cases hc
  · intro c x hx
    cases hx
  · intro c m pc client ht
    cases ht
  · intro c m r pc ht
    cases ht

end

/-! ## Runs -/

/-- **Messages go to the bound server.** In every run of logins, messages, clients that connect,
disconnect and are replaced, and whatever else happens, in which every step keeps the caches right:
whenever `Process` hands a message of a connection to a logic client, that client is the one the pool
has for the connection's server at that moment. -/
theorem sendsToBound_of_keepsCaches (cfg : Config) (as : List (Action Task Choice))
    (h : (gateway cfg).Guarded (Program.ThreadGuard (fun _ _ => True) KeepsCaches) initWorld as) :
    (gateway cfg).Guarded (Program.ThreadGuard (fun _ _ => True) SendsToBound) initWorld as := by
  refine h.exchange (J := CachesRight) ?_ ?_ cachesRight_init
  · intro w a w' hw hg hexec
    obtain ⟨t, g, rfl, hs, rfl⟩ | ⟨i, x, t, g, t', new, rfl, ht, hs, rfl⟩ := Program.exec_cases hexec
    · exact hw.start hs
    · exact hw.step hs (hg t ht) ht
  · intro w a hw _
    cases a with
    | start t => trivial
    | step i x =>
      intro t ht
      cases t with
      | process c m pc =>
        cases pc with
        | send client out =>
          cases client with
          | none => trivial
          | some client =>
            intro x hx
            obtain ⟨y, hy, -, hclients⟩ := hw.held c m _ client (List.mem_of_getElem? ht) rfl
            rw [Option.mem_def.mp hx] at hy
            rw [Option.some.inj hy]
            exact hclients
        | _ => trivial
      | _ => trivial

/-- A client logs in and sends a message. -/
def boundMessage : List (Action Task Choice) :=
  starts (.onOpen "c" "t" "10.0.0.1:5000") 0 1 ++ starts (.setClient "s" 1) 1 1 ++
  starts (.setConnected 1 true) 2 1 ++ starts (.setClient "t" 2) 3 1 ++
  starts (.setConnected 2 true) 4 1 ++ starts (.frame false "c" (loginFrame 0)) 5 11 ++
  starts (.frame false "c" [0x08, 0x05]) 7 9

theorem sendsToBound_boundMessage :
    (gateway (sampleConfig [⟨"u", "k", "s"⟩, ⟨"u", "k", "t"⟩] none)).Guarded
      (Program.ThreadGuard (fun _ _ => True) SendsToBound) initWorld boundMessage :=
  sendsToBound_of_keepsCaches _ _ (by decide +kernel)

/-- The client logs in to another server and sends a second message. -/
def reboundMessage : List (Action Task Choice) :=
  boundMessage ++ starts (.frame false "c" (loginFrame 1)) 8 11 ++
  starts (.frame false "c" [0x08, 0x05]) 10 9

/-- The second message goes to the first server. -/
theorem rebound_sends_to_old_server :
    ¬ (gateway (sampleConfig [⟨"u", "k", "s"⟩, ⟨"u", "k", "t"⟩] none)).Guarded
      (Program.ThreadGuard (fun _ _ => True) SendsToBound) initWorld reboundMessage := by
  decide +kernel

end Sgate.Gateway
