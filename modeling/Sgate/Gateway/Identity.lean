import Sgate.Gateway.Objects

/-! # The identity of a connection

A login writes four fields of its connection, each in a step of its own, and leaves account and key as
they are if the request has none; several logins of one connection run at the same time. The invariant
speaks about the fields at every place of the worker that is writing (`LoginPc.Holds`). -/

namespace Sgate.Gateway

open Routes Interleaving Event Credentials List

/-! ## The condition -/

/-- What a login should give its connection. -/
def LoginGateReq.credentials (r : LoginGateReq) (c : String) : Credentials :=
  ⟨r.serverID, r.fullUUID c, r.userID, r.loginKey⟩

/-- A request that has no account, or no key, replaces none. -/
def LoginGateReq.Replaces (r : LoginGateReq) (k : Credentials) : Prop :=
  (r.userID = "" → k.accountID = "") ∧ (r.loginKey = "" → k.loginKey = "")
  deriving Decidable

/-- The identity of the request does not look like a temporary one. -/
def LoginGateReq.isReal (r : LoginGateReq) : Bool := !"temp_".toList.isPrefixOf r.serverID.toList

/-- The worker has begun to write and is not done with it. -/
def LoginPc.writing : LoginPc → Bool
  | .lookup | .closeOld _ | .register | .account | .key => true
  | _ => false

def Task.writing (c : String) : Task → Bool
  | .login d _ _ pc => d = c && pc.writing
  | _ => false

open Task

/-- Nothing but login workers writes to the connection, one after the other, and each of them
replaces what its predecessors wrote. -/
def WritesAlone (c : String) (w : World Gateway Task) : Task → Prop
  | .login d _ r .bind => d = c → (∀ u ∈ w.threads, u.writing c = false) ∧ r.isReal ∧
      ∀ x ∈ w.shared.connectionManager.objects c, r.Replaces x.credentials
  | .push d userKey => d = c → userKey = ""
  | .wsUpdate d _ | .removeConn d => d ≠ c
  | _ => True

instance decidableWritesAlone (c : String) (w : World Gateway Task) :
    (t : Task) → Decidable (WritesAlone c w t)
  | .login _ _ _ pc => match pc with
    | .bind => inferInstanceAs (Decidable (_ → _))
    | .validate | .maintenance | .lookup | .closeOld _ | .register | .account | .key | .ack
    | .forward => isTrue trivial
  | .push .. => inferInstanceAs (Decidable (_ → _))
  | .wsUpdate .. | .removeConn .. => inferInstanceAs (Decidable (_ ≠ _))
  | .frame .. | .handleLogin .. | .logout .. | .process .. | .processed .. | .forwardLogin ..
  | .notifyOffline .. | .markOffline .. | .onOpen .. | .onClose .. | .updateIP .. | .enable ..
  | .snapshot .. | .enabled .. | .disable .. | .kick .. | .setClient .. | .setConnected ..
  | .finished => isTrue trivial

/-! ## The fields at every place of a worker -/

/-- What the connection has while the worker is at a place where it is writing. -/
def LoginPc.Holds (r : LoginGateReq) (c : String) (k : Credentials) : LoginPc → Prop
  | .account => k.serverID = r.serverID ∧ k.userUUID = r.fullUUID c ∧ r.Replaces k
  | .key => k.serverID = r.serverID ∧ k.userUUID = r.fullUUID c ∧ k.accountID = r.userID ∧
      (r.loginKey = "" → k.loginKey = "")
  | _ => k.serverID = r.serverID ∧ r.Replaces k

/-- The worker is done with writing, but not with its request. -/
def LoginPc.answering : LoginPc → Bool
  | .ack | .forward => true
  | _ => false

variable {cfg : Config} {v v' : View} {t t' : Task} {new : List Task} {c : String} {m : StreamData}
  {r : LoginGateReq} {pc pc' : LoginPc} {k : Credentials}

theorem LoginStep.writing_cases (hs : LoginStep cfg v c m r pc v' (.login c m r pc') new)
    (hw : pc'.writing = true) : pc = .bind ∨ pc.writing = true := by
  cases hs <;> first | exact .inl rfl | exact .inr rfl | cases hw

theorem LoginStep.bind_next (hs : LoginStep cfg v c m r .bind v' (.login c m r pc') new) :
    pc' = .lookup := by
  cases hs
  rfl

/-- **What a step of a worker does to the fields**: the next place holds of what it wrote. -/
theorem LoginStep.holds (hs : LoginStep cfg v c m r pc v' (.login c m r pc') new)
    (hw : pc.writing = true) (hw' : pc'.writing = true) (h : pc.Holds r c k) :
    pc'.Holds r c (pc.writes r c k) := by
  cases hs with
  | alone _ | found _ _ | gone _ | closeOld _ _ => exact h
  | register => exact ⟨h.1, rfl, h.2⟩
  | account =>
    obtain ⟨hserver, huser, haccount, hkey⟩ := h
    rw [LoginPc.writes]
    split
    · rename_i hempty
      exact ⟨hserver, huser, (haccount hempty).trans hempty.symm, hkey⟩
    · exact ⟨hserver, huser, rfl, hkey⟩
  | _ => first | exact absurd hw (by decide) | exact absurd hw' (by decide)

theorem LoginStep.wrote (hs : LoginStep cfg v c m r pc v' t' new) (hw : pc.writing = true)
    (hdone : t'.writing c = false) (h : pc.Holds r c k) :
    t' = .login c m r .ack ∧ pc.writes r c k = r.credentials c := by
  cases hs with
  | key =>
    refine ⟨rfl, ?_⟩
    obtain ⟨hserver, huser, haccount, hkey⟩ := h
    rw [LoginPc.writes, LoginGateReq.credentials]
    split
    · rename_i hempty
      exact Credentials.ext hserver huser haccount ((hkey hempty).trans hempty.symm)
    · exact Credentials.ext hserver huser haccount rfl
  | _ => first | exact absurd hw (by decide) | simp [writing, LoginPc.writing] at hdone

theorem TaskStep.loginAck_mem (hs : TaskStep cfg v t v' t' new) {message serverID : String}
    (h : loginAck c 0 message serverID ∈ v'.history) :
    loginAck c 0 message serverID ∈ v.history ∨ ∃ m r, t = .login c m r .ack := by
  cases hs with
  | login hs =>
    cases hs with
    | ack =>
      rcases mem_cons.mp h with heq | h
      · cases heq
        exact .inr ⟨_, _, rfl⟩
      · exact .inl h
    | _ => exact .inl (by simpa using h)
  | process hs => cases hs <;> exact .inl (by simpa using h)
  | refused hcode | refusedClosing hcode =>
    refine .inl ?_
    rcases mem_cons.mp h with heq | h
    · cases heq
      exact absurd rfl hcode
    · exact h
  | _ => exact .inl (by simpa using h)

theorem LoginStep.answering_cases (hs : LoginStep cfg v c m r pc v' (.login c m r pc') new)
    (ha : pc'.answering = true) : pc.writing = true ∨ pc.answering = true := by
  cases hs <;> first | exact .inl rfl | exact .inr rfl | cases ha

theorem LoginStep.answering_next (hs : LoginStep cfg v c m r pc v' t' new)
    (ha : pc.answering = true) : t' = .login c m r .forward ∨
      ∃ holder, completed c r holder ∈ v'.history := by
  cases hs with
  | ack => exact .inl rfl
  | complete _ => exact .inr ⟨_, mem_cons_self⟩
  | _ => cases ha

theorem LoginStep.loginAck_of_forward (hs : LoginStep cfg v c m r pc v' (.login c m r .forward) new) :
    loginAck c 0 "ok" r.serverID ∈ v'.history := by
  cases hs
  exact mem_cons_self

theorem isPrefixOf_fullUUID (h : r.isReal = true) :
    "temp_".toList.isPrefixOf (r.fullUUID c).toList = false := by
  rw [Bool.eq_false_iff]
  intro hprefix
  have hlist : (r.fullUUID c).toList =
      r.serverID.toList ++ ':' :: (if r.userID = "" then c else r.userID).toList := by
    simp [LoginGateReq.fullUUID]
  rw [List.isPrefixOf_iff_prefix, hlist] at hprefix
  -- the colon after the server is not part of the prefix
  by_cases hlength : "temp_".toList.length ≤ r.serverID.toList.length
  · have hserver : "temp_".toList <+: r.serverID.toList :=
      prefix_of_prefix_length_le hprefix (prefix_append _ _) hlength
    rw [LoginGateReq.isReal, isPrefixOf_iff_prefix.mpr hserver] at h
    cases h
  · have hcolon : r.serverID.toList ++ [':'] <+: "temp_".toList := by
      apply prefix_of_prefix_length_le _ hprefix
      · rw [length_append, length_singleton]
        omega
      · exact ⟨(if r.userID = "" then c else r.userID).toList, by simp⟩
    have hmem : ':' ∈ "temp_".toList := hcolon.subset (by simp)
    exact absurd hmem (by decide)

/-! ## The invariant -/

/-- No login of the connection was successful, or is about to be. -/
structure Untouched (c : String) (w : World Gateway Task) : Prop where
  ack : ∀ message serverID, Event.loginAck c 0 message serverID ∉ w.shared.history
  answering : ∀ m r pc, .login c m r pc ∈ w.threads → pc.answering = false

/-- The connection has the fields of a request that is successful, or about to be. -/
structure Settled (c : String) (r : LoginGateReq) (w : World Gateway Task) : Prop where
  real : r.isReal = true
  fields : ∃ x, w.shared.connectionManager.objects c = some x ∧ x.credentials = r.credentials c
  successful : (∃ holder, Event.completed c r holder ∈ w.shared.history) ∨
    ∃ m pc, .login c m r pc ∈ w.threads ∧ pc.answering = true

/-- The invariant for the connection `c`. -/
structure Identified (c : String) (w : World Gateway Task) : Prop where
  known : ∀ t ∈ w.threads, c ∈ t.client → (w.shared.view.sessions.userUUID c).isSome
  registered : ¬ IsRetired w.shared.view.sessions c
  alone : w.threads.Pairwise fun t u => ¬ (t.writing c = true ∧ u.writing c = true)
  /-- The fields are as far as the worker that is writing has got. -/
  current : ∀ m r pc, .login c m r pc ∈ w.threads → pc.writing = true → r.isReal = true ∧
    ∀ x, w.shared.connectionManager.objects c = some x → pc.Holds r c x.credentials
  /-- Between two writing workers the fields are those of the last one. -/
  settled : (∀ t ∈ w.threads, t.writing c = false) → Untouched c w ∨ ∃ r, Settled c r w

section

variable {w : World Gateway Task} {i : ℕ} {choice : Choice} {g' : Gateway} {u : Task}
  {x x' : Connection}

theorem Identified.mem_connections (hw : Identified c w)
    (hx : w.shared.connectionManager.objects c = some x) :
    c ∈ w.shared.connectionManager.connections := by
  by_contra hc
  apply hw.registered
  refine ⟨?_, hc⟩
  rw [userUUID_view, hx]
  rfl

theorem Identified.credentials (hw : Identified c w)
    (hs : stepTask cfg w.shared t choice = some (g', t', new))
    (hx : w.shared.connectionManager.objects c = some x) :
    ∃ x', g'.connectionManager.objects c = some x' ∧ x'.credentials = t.writes c x.credentials := by
  obtain ⟨x', hx', hwrote⟩ := wrote_of_stepTask hs hx
  refine ⟨x', hx', ?_⟩
  rw [hwrote.credentials, if_pos (hw.mem_connections hx)]

section

variable (hg : WritesAlone c w t) (hwriting : t.writing c = false)
  (hbind : ∀ m r, t ≠ .login c m r .bind)
include hg hwriting hbind

theorem writes_eq_of_writesAlone (k : Credentials) : t.writes c k = k := by
  cases t with
  | login d m r pc =>
    rw [writes]
    split
    · subst d
      cases pc with
      | bind => exact absurd rfl (hbind m r)
      | validate | maintenance | ack | forward => rfl
      | _ => simp [writing, LoginPc.writing] at hwriting
    · rfl
  | wsUpdate d m =>
    rw [writes, if_neg]
    exact fun h => hg h.symm
  | push d userKey =>
    rw [writes, if_neg]
    rintro ⟨rfl, hkey⟩
    exact hkey (hg rfl)
  | _ => rfl

theorem Identified.credentials_kept (hw : Identified c w)
    (hs : stepTask cfg w.shared t choice = some (g', t', new))
    (hx' : g'.connectionManager.objects c = some x') :
    w.shared.connectionManager.objects c = none ∨
      ∃ x, w.shared.connectionManager.objects c = some x ∧ x'.credentials = x.credentials := by
  cases hx : w.shared.connectionManager.objects c with
  | none => exact .inl rfl
  | some x =>
    obtain ⟨y, hy, hcredentials⟩ := hw.credentials hs hx
    obtain rfl := Option.mem_unique hx' hy
    rw [writes_eq_of_writesAlone hg hwriting hbind] at hcredentials
    exact .inr ⟨x, rfl, hcredentials⟩

end

theorem Identified.exists_object (hw : Identified c w) (ht : .login c m r pc ∈ w.threads) :
    ∃ x, w.shared.connectionManager.objects c = some x := by
  have hknown := hw.known _ ht rfl
  rw [userUUID_view, Option.isSome_map] at hknown
  exact Option.isSome_iff_exists.mp hknown

/-! ### A step -/

theorem writing_eq_false_of_ne_login (h : ∀ m r pc, t ≠ .login c m r pc) :
    t.writing c = false := by
  cases t with
  | login d m r pc =>
    simp only [writing, Bool.and_eq_false_imp, decide_eq_true_eq]
    rintro rfl
    exact absurd rfl (h m r pc)
  | _ => rfl

theorem TaskStep.writing_cases (hs : TaskStep cfg v t v' t' new) (hw : t'.writing c = true) :
    ∃ m r pc pc', t = .login c m r pc ∧ t' = .login c m r pc' ∧
      pc'.writing = true ∧ (pc = .bind ∨ pc.writing = true) ∧
      LoginStep cfg v c m r pc v' (.login c m r pc') new := by
  cases t' with
  | login d m r pc' =>
    simp only [writing, Bool.and_eq_true, decide_eq_true_eq] at hw
    obtain ⟨rfl, hpc'⟩ := hw
    obtain ⟨-, rfl, -⟩ | ⟨pc, rfl, hstep⟩ := hs.login_cases
    · cases hpc'
    · exact ⟨m, r, pc, pc', rfl, rfl, hpc', hstep.writing_cases hpc', hstep⟩
  | _ => cases hw

theorem Identified.not_writing (hw : Identified c w) (ht : w.threads[i]? = some t)
    (hwriting : t.writing c = true) {j : ℕ} (hj : j ≠ i) (hu : w.threads[j]? = some u) :
    u.writing c = false := by
  have hpair := rel_of_pairwise (R := fun t u : Task => ¬ (t.writing c = true ∧ u.writing c = true))
    (fun t u h => by rwa [and_comm]) hw.alone hj ht hu
  by_contra hwu
  exact hpair ⟨hwriting, by simpa using hwu⟩

theorem TaskStep.answering_cases (hs : TaskStep cfg v t v' t' new) (hwriting : t.writing c = false)
    {pc' : LoginPc} (ht' : t' = .login c m r pc') (ha : pc'.answering = true) :
    ∃ pc, t = .login c m r pc ∧ pc.answering = true := by
  subst t'
  obtain ⟨-, rfl, -⟩ | ⟨pc, rfl, hstep⟩ := hs.login_cases
  · cases ha
  · rcases hstep.answering_cases ha with hw | ha
    · simp [writing, hw] at hwriting
    · exact ⟨pc, rfl, ha⟩

section

variable (ht : w.threads[i]? = some t) (hs : stepTask cfg w.shared t choice = some (g', t', new))
include ht hs

theorem Untouched.step (h : Untouched c w) (hwriting : t.writing c = false) :
    Untouched c ⟨g', w.threads.set i t' ++ new⟩ := by
  have hstep := taskStep_of_stepTask hs
  have hmem := mem_of_getElem? ht
  constructor
  · intro message serverID hack
    rcases hstep.loginAck_mem hack with hold | ⟨m, r, rfl⟩
    · exact h.ack message serverID hold
    · cases h.answering m r .ack hmem
  · intro m r pc hu
    by_contra ha
    rw [Bool.not_eq_false] at ha
    rcases of_mem_set_append hu with hu | hu | hu
    · have hfalse := h.answering m r pc hu
      rw [ha] at hfalse
      cases hfalse
    · obtain ⟨pc₀, rfl, ha₀⟩ := hstep.answering_cases hwriting hu.symm ha
      have hfalse := h.answering m r pc₀ hmem
      rw [ha₀] at hfalse
      cases hfalse
    · exact hstep.new_ne_login hu c m r pc rfl

variable (hw : Identified c w) (hg : WritesAlone c w t)
include hw hg

theorem Identified.alone_step :
    (w.threads.set i t' ++ new).Pairwise
      fun t u => ¬ (t.writing c = true ∧ u.writing c = true) := by
  have hstep := taskStep_of_stepTask hs
  refine pairwise_set_append (fun t u h => by rwa [and_comm]) hw.alone ht ?_ ?_
  · rintro u hu hpair ⟨hwriting', hwu⟩
    obtain ⟨m, r, pc, pc', rfl, rfl, -, rfl | hpc, -⟩ := hstep.writing_cases hwriting'
    · -- a worker begins to write only while no other one is writing
      have hfalse := (hg rfl).1 u hu
      rw [hwu] at hfalse
      cases hfalse
    · exact hpair ⟨by simp [writing, hpc], hwu⟩
  · rintro n hn u ⟨hwn, -⟩
    have hfalse := writing_eq_false_of_ne_login (c := c)
      fun m r pc => hstep.new_ne_login hn c m r pc
    rw [hwn] at hfalse
    cases hfalse

theorem Identified.current_step (hu : .login c m r pc ∈ w.threads.set i t' ++ new)
    (hpc : pc.writing = true) :
    r.isReal = true ∧
      ∀ x, g'.connectionManager.objects c = some x → pc.Holds r c x.credentials := by
  have hstep := taskStep_of_stepTask hs
  have hmem := mem_of_getElem? ht
  rcases position_of_mem_set_append hu with ⟨j, hj, hu⟩ | rfl | hu
  · -- another worker is writing, so this step writes nothing
    obtain ⟨hreal, hholds⟩ := hw.current m r pc (mem_of_getElem? hu) hpc
    have hwriting : writing c (.login c m r pc) = true := by simp [writing, hpc]
    have htw : t.writing c = false := hw.not_writing hu hwriting (Ne.symm hj) ht
    have hbind (m' : StreamData) (r' : LoginGateReq) : t ≠ .login c m' r' .bind := by
      rintro rfl
      have hfalse := (hg rfl).1 _ (mem_of_getElem? hu)
      rw [hwriting] at hfalse
      cases hfalse
    refine ⟨hreal, fun x' hx' => ?_⟩
    obtain ⟨x, hx⟩ := hw.exists_object (mem_of_getElem? hu)
    rcases hw.credentials_kept hg htw hbind hs hx' with hnone | ⟨y, hy, hsame⟩
    · rw [hnone] at hx
      cases hx
    · rw [hsame]
      exact hholds y hy
  · -- the worker itself goes on
    have hwriting : writing c (.login c m r pc) = true := by simp [writing, hpc]
    obtain ⟨m', r', pc₀, pc', rfl, heq, -, hbefore, hlogin⟩ := hstep.writing_cases hwriting
    cases heq
    obtain ⟨x, hx⟩ := hw.exists_object hmem
    obtain ⟨x', hx', hcredentials⟩ := hw.credentials hs hx
    rw [writes, if_pos rfl] at hcredentials
    rcases hbefore with rfl | hpc₀
    · obtain ⟨-, hreal, hreplaces⟩ := hg rfl
      refine ⟨hreal, fun y hy => ?_⟩
      obtain rfl := Option.mem_unique hx' hy
      rw [hcredentials, hlogin.bind_next]
      exact ⟨rfl, hreplaces x hx⟩
    · obtain ⟨hreal, hholds⟩ := hw.current m r pc₀ hmem hpc₀
      refine ⟨hreal, fun y hy => ?_⟩
      obtain rfl := Option.mem_unique hx' hy
      rw [hcredentials]
      exact hlogin.holds hpc₀ hpc (hholds x hx)
  · exact absurd rfl (hstep.new_ne_login hu c m r pc)

theorem Settled.step (h : Settled c r w) (hwriting : t.writing c = false)
    (hbind : ∀ m r, t ≠ .login c m r .bind) :
    Settled c r ⟨g', w.threads.set i t' ++ new⟩ := by
  have hstep := taskStep_of_stepTask hs
  refine ⟨h.real, ?_, ?_⟩
  · obtain ⟨x, hx, hfields⟩ := h.fields
    obtain ⟨x', hx', hcredentials⟩ := hw.credentials hs hx
    rw [writes_eq_of_writesAlone hg hwriting hbind, hfields] at hcredentials
    exact ⟨x', hx', hcredentials⟩
  · rcases h.successful with ⟨holder, hcompleted⟩ | ⟨m, pc, hu, ha⟩
    · exact .inl ⟨holder, hstep.history_suffix.mem hcompleted⟩
    · by_cases hself : .login c m r pc = t
      · subst t
        obtain ⟨v', hv'⟩ : ∃ v', v' = g'.view := ⟨_, rfl⟩
        rw [← hv'] at hstep
        cases hstep with
        | login hlogin =>
          rcases hlogin.answering_next ha with rfl | ⟨holder, hcompleted⟩
          · exact .inr ⟨m, .forward, mem_set_append_self ht, rfl⟩
          · rw [hv'] at hcompleted
            exact .inl ⟨holder, hcompleted⟩
        | quiet hslight => cases hslight
      · exact .inr ⟨m, pc, mem_set_append_of_ne ht hu hself, ha⟩

theorem Identified.settled_step
    (hnone : ∀ u ∈ w.threads.set i t' ++ new, u.writing c = false) :
    Untouched c ⟨g', w.threads.set i t' ++ new⟩ ∨
      ∃ r, Settled c r ⟨g', w.threads.set i t' ++ new⟩ := by
  have hmem := mem_of_getElem? ht
  have hdone : t'.writing c = false := hnone t' (mem_set_append_self ht)
  by_cases hwriting : t.writing c = true
  · -- the worker has written its last field
    cases t with
    | login d m r pc =>
      simp only [writing, Bool.and_eq_true, decide_eq_true_eq] at hwriting
      obtain ⟨rfl, hpc⟩ := hwriting
      obtain ⟨hreal, hholds⟩ := hw.current m r pc hmem hpc
      obtain ⟨x, hx⟩ := hw.exists_object hmem
      obtain ⟨x', hx', hcredentials⟩ := hw.credentials hs hx
      rw [writes, if_pos rfl] at hcredentials
      obtain ⟨rfl, hwrote⟩ :=
        (loginStep_of_finishLoginGate (Option.some.inj hs)).wrote hpc hdone (hholds x hx)
      refine .inr ⟨r, hreal, ⟨x', hx', hcredentials.trans hwrote⟩, .inr ?_⟩
      exact ⟨m, .ack, mem_set_append_self ht, rfl⟩
    | _ => cases hwriting
  · rw [Bool.not_eq_true] at hwriting
    have hbefore : ∀ u ∈ w.threads, u.writing c = false := by
      intro u hu
      by_cases hself : u = t
      · rw [hself]
        exact hwriting
      · exact hnone u (mem_set_append_of_ne ht hu hself)
    have hbind (m : StreamData) (r : LoginGateReq) : t ≠ .login c m r .bind := by
      rintro rfl
      cases (Option.some.inj hs : finishLoginGate cfg w.shared c m r .bind choice = (g', t', new))
      simp [writing, LoginPc.writing] at hdone
    rcases hw.settled hbefore with huntouched | ⟨r, hsettled⟩
    · exact .inl (huntouched.step ht hs hwriting)
    · exact .inr ⟨r, hsettled.step ht hs hw hg hwriting hbind⟩

/-- **One step.** -/
theorem Identified.step : Identified c ⟨g', w.threads.set i t' ++ new⟩ where
  known u hu hc := by
    have hstep := taskStep_of_stepTask hs
    rcases of_mem_set_append hu with hu | rfl | hu
    · exact hstep.users.isSome_mono (hw.known u hu hc)
    · exact hstep.users.isSome_mono (hw.known t (mem_of_getElem? ht) (hstep.client_eq hc))
    · exact absurd hc (hstep.forall_new (P := fun n => c ∉ n.client) nofun nofun nofun u hu)
  registered hretired := by
    rw [(taskStep_of_stepTask hs).users.isRetired_iff] at hretired
    rcases hretired with hretired | ⟨rfl, -⟩
    · exact hw.registered hretired
    · exact hg rfl
  alone := hw.alone_step ht hs hg
  current _ _ _ hu hpc := hw.current_step ht hs hg hu hpc
  settled hnone := hw.settled_step ht hs hg hnone

end

theorem Identified.start (hw : Identified c w) (hs : startTask w.shared t = some g') :
    Identified c ⟨g', w.threads ++ [t]⟩ := by
  have hopened (hc : c ∈ t.client) := opened_of_startTask hs hc
  obtain ⟨rfl, hentry⟩ := entry_of_startTask hs
  have hlogin (d : String) (m : StreamData) (r : LoginGateReq) (pc : LoginPc) :
      t ≠ .login d m r pc := by
    rintro rfl
    cases hentry
  have hwriting : t.writing c = false := writing_eq_false_of_ne_login (hlogin c)
  have hold {m : StreamData} {r : LoginGateReq} {pc : LoginPc}
      (hu : .login c m r pc ∈ w.threads ++ [t]) : .login c m r pc ∈ w.threads :=
    (of_mem_snoc hu).resolve_right (hlogin c m r pc).symm
  constructor
  · intro u hu hc
    rcases of_mem_snoc hu with hu | rfl
    · exact hw.known u hu hc
    · exact hopened hc
  · exact hw.registered
  · rw [pairwise_append]
    refine ⟨hw.alone, pairwise_singleton _ _, ?_⟩
    rintro u - n hn ⟨-, hwn⟩
    rw [mem_singleton.mp hn, hwriting] at hwn
    cases hwn
  · intro m r pc hu hpc
    exact hw.current m r pc (hold hu) hpc
  · intro hnone
    rcases hw.settled fun u hu => hnone u (mem_append_left _ hu) with h | ⟨r, h⟩
    · exact .inl ⟨h.ack, fun m r pc hu => h.answering m r pc (hold hu)⟩
    · refine .inr ⟨r, h.real, h.fields, ?_⟩
      rcases h.successful with hcompleted | ⟨m, pc, hu, ha⟩
      · exact .inl hcompleted
      · exact .inr ⟨m, pc, mem_append_left _ hu, ha⟩

theorem identified_init : Identified c initWorld := by
  constructor
  · intro t ht
    cases ht
  · rintro ⟨hsome, -⟩
    cases hsome
  · exact List.Pairwise.nil
  · intro m r pc ht
    cases ht
  · intro _
    refine .inl ⟨fun _ _ h => ?_, fun _ _ _ h => ?_⟩ <;> cases h

end

/-! ## Runs -/

/-- Nothing but logins writes to the connection, one after the other. -/
abbrev LoginsApart (c : String) : World Gateway Task → Action Task Choice → Prop :=
  Program.ThreadGuard (fun _ _ => True) (WritesAlone c)

variable {as : List (Action Task Choice)} {w : World Gateway Task}

theorem identified_of_run (hguard : (gateway cfg).Guarded (LoginsApart c) initWorld as)
    (hrun : (gateway cfg).run initWorld as = some w) : Identified c w := by
  refine Transition.run_invariant (J := Identified c) ?_ identified_init hguard hrun
  intro w a w' hw hg h
  obtain ⟨t, g, rfl, hs, rfl⟩ | ⟨i, x, t, g, t', new, rfl, ht, hs, rfl⟩ := Program.exec_cases h
  · exact hw.start hs
  · exact hw.step ht hs (hg t ht)

/-- A worker that forwards a login, and one that has completed it, answered with success. -/
theorem loginAck_of_completed (hrun : (gateway cfg).run initWorld as = some w) {r : LoginGateReq}
    {holder : Option String} (h : completed c r holder ∈ w.shared.history) :
    loginAck c 0 "ok" r.serverID ∈ w.shared.history := by
  refine (Program.run_local (G := fun _ _ => True)
    (S := fun g : Gateway => ∀ r holder, completed c r holder ∈ g.history →
      loginAck c 0 "ok" r.serverID ∈ g.history)
    (L := fun g t => ∀ m r, t = login c m r .forward → loginAck c 0 "ok" r.serverID ∈ g.history)
    ?_ ?_ ?_ (Transition.guarded_of_forall_mem fun _ _ _ => trivial) hrun).1 r holder h
  · intro w t g hw _ hs
    obtain ⟨rfl, hentry⟩ := entry_of_startTask hs
    refine ⟨⟨hw.1, fun m r ht => ?_⟩, fun _ hu => hu⟩
    rw [ht] at hentry
    cases hentry
  · intro w i x t g t' new hw _ ht hs
    have hstep := taskStep_of_stepTask hs
    have hmem := mem_of_getElem? ht
    refine ⟨⟨fun r holder hcompleted => ?_, fun m r ht' => ?_, fun u hu m r heq => ?_⟩,
      fun u hu m r heq => hstep.history_suffix.mem (hu m r heq)⟩
    · rcases hstep.completed_mem hcompleted with hold | ⟨m, rfl, -⟩
      · exact hstep.history_suffix.mem (hw.1 r holder hold)
      · exact hstep.history_suffix.mem (hw.2 _ hmem m r rfl)
    · subst t'
      obtain ⟨-, hpc, -⟩ | ⟨pc, -, hlogin⟩ := hstep.login_cases
      · cases hpc
      · exact hlogin.loginAck_of_forward
    · exact absurd heq (hstep.new_ne_login hu c m r .forward)
  · refine ⟨fun r holder hcompleted => ?_, fun t ht => ?_⟩
    · cases hcompleted
    · cases ht

/-- **The identity of a connection is that of one login.** In every run, with any number of login
requests on the connection `c` and whatever else happens, in which workers write to `c` one after the
other and replace what was written before: when no worker of `c` is left and a login of `c` was
successful, the connection is registered and has exactly the fields of one successful request, and
counts as logged in. -/
theorem identity_of_writesAlone {cfg : Config} {c : String} {as : List (Action Task Choice)}
    {w : World Gateway Task} (hguard : (gateway cfg).Guarded (LoginsApart c) initWorld as)
    (hrun : (gateway cfg).run initWorld as = some w)
    (hdone : ∀ m r pc, Task.login c m r pc ∉ w.threads)
    (hack : ∃ message serverID, Event.loginAck c 0 message serverID ∈ w.shared.history) :
    ∃ r, (∃ holder, Event.completed c r holder ∈ w.shared.history) ∧
      Event.loginAck c 0 "ok" r.serverID ∈ w.shared.history ∧
      ∃ x, w.shared.connectionManager.getConnection c = some x ∧ x.serverID = r.serverID ∧
        x.userUUID = r.fullUUID c ∧ x.accountID = r.userID ∧ x.loginKey = r.loginKey ∧
        x.isAuthenticated = true := by
  have hw := identified_of_run hguard hrun
  have hnone : ∀ t ∈ w.threads, t.writing c = false := by
    intro t ht
    apply writing_eq_false_of_ne_login
    rintro m r pc rfl
    exact hdone m r pc ht
  rcases hw.settled hnone with huntouched | ⟨r, hsettled⟩
  · obtain ⟨message, serverID, hack⟩ := hack
    exact absurd hack (huntouched.ack message serverID)
  · rcases hsettled.successful with ⟨holder, hcompleted⟩ | ⟨m, pc, ht, -⟩
    · refine ⟨r, ⟨holder, hcompleted⟩, loginAck_of_completed hrun hcompleted, ?_⟩
      obtain ⟨x, hx, hfields⟩ := hsettled.fields
      have hget : w.shared.connectionManager.getConnection c = some x := by
        rw [ConnectionManager.getConnection_of_mem (hw.mem_connections hx), hx]
      have huser : x.userUUID = r.fullUUID c := congrArg userUUID hfields
      refine ⟨x, hget, congrArg serverID hfields, huser,
        congrArg accountID hfields, congrArg loginKey hfields, ?_⟩
      have hne : r.fullUUID c ≠ "" := by
        simp [LoginGateReq.fullUUID]
      rw [Connection.isAuthenticated, huser, isPrefixOf_fullUUID hsettled.real]
      simp [hne]
    · exact absurd ht (hdone m r pc)

/-! ## Two logins on one connection -/

/-- A client logs in, and then logs in again as another user. -/
def secondLogin : List (Action Task Choice) :=
  starts (.onOpen "c" "t1" "10.0.0.1:5000") 0 1 ++ starts (.frame false "c" (loginFrame 0)) 1 11 ++
  starts (.frame false "c" (loginFrame 1)) 3 11

/-- After the second login the connection has one identity. -/
theorem identity_secondLogin :
    ∃ w, (gateway (sampleConfig [⟨"u", "k", "s"⟩, ⟨"v", "l", "t"⟩] none)).run initWorld secondLogin =
        some w ∧
      ∃ r, (∃ holder, Event.completed "c" r holder ∈ w.shared.history) ∧
        Event.loginAck "c" 0 "ok" r.serverID ∈ w.shared.history ∧
        ∃ x, w.shared.connectionManager.getConnection "c" = some x ∧ x.serverID = r.serverID ∧
          x.userUUID = r.fullUUID "c" ∧ x.accountID = r.userID ∧ x.loginKey = r.loginKey ∧
          x.isAuthenticated = true := by
  obtain ⟨w, hrun, hthreads, hack⟩ : ∃ w, (gateway (sampleConfig [⟨"u", "k", "s"⟩, ⟨"v", "l", "t"⟩]
      none)).run initWorld secondLogin = some w ∧ (∀ t ∈ w.threads, client t = none) ∧
        loginAck "c" 0 "ok" "t" ∈ w.shared.history := Transition.exists_end (by decide +kernel)
  exact ⟨w, hrun, identity_of_writesAlone (by decide +kernel) hrun
    (fun m r pc ht => nomatch hthreads _ ht) ⟨"ok", "t", hack⟩⟩

/-- Two login requests on one connection: both workers bind the connection to their server before
either of them registers its user. -/
def mixedLogins : List (Action Task Choice) :=
  starts (.onOpen "c" "t1" "10.0.0.1:5000") 0 1 ++ starts (.frame false "c" (loginFrame 0)) 1 5 ++
  starts (.frame false "c" (loginFrame 1)) 2 11 ++ steps 1 6

/-- **Overlapping logins mix identities.** The workers are done, a login was successful, and the
connection has the identity of no request at all. -/
theorem mixedLogins_mix_identity :
    ∃ w, (gateway (sampleConfig [⟨"u", "k", "s"⟩, ⟨"v", "l", "t"⟩] none)).run initWorld mixedLogins =
        some w ∧ (∀ m r pc, Task.login "c" m r pc ∉ w.threads) ∧
      Event.loginAck "c" 0 "ok" "s" ∈ w.shared.history ∧
      ¬ ∃ r x, w.shared.connectionManager.getConnection "c" = some x ∧ x.serverID = r.serverID ∧
        x.userUUID = LoginGateReq.fullUUID r "c" := by
  obtain ⟨w, hrun, hthreads, hack, hfields⟩ : ∃ w, (gateway (sampleConfig
      [⟨"u", "k", "s"⟩, ⟨"v", "l", "t"⟩] none)).run initWorld mixedLogins = some w ∧
        (∀ t ∈ w.threads, client t = none) ∧ loginAck "c" 0 "ok" "s" ∈ w.shared.history ∧
        (w.shared.connectionManager.getConnection "c").map Connection.credentials =
          some ⟨"t", "s:u", "u", "k"⟩ := Transition.exists_end (by decide +kernel)
  refine ⟨w, hrun, fun m r pc ht => (nomatch hthreads _ ht), hack, ?_⟩
  rintro ⟨r, x, hx, hserver, huser⟩
  rw [hx, Option.map_some, Option.some.injEq] at hfields
  have hs : x.serverID = "t" := congrArg serverID hfields
  have hu : x.userUUID = "s:u" := congrArg userUUID hfields
  -- the identity of a request begins with its server
  have hhead := congrArg (fun s => s.toList.head?) (hu.symm.trans huser)
  rw [LoginGateReq.fullUUID, ← hserver, hs] at hhead
  simp at hhead

end Sgate.Gateway
