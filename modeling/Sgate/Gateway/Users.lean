import Sgate.Gateway.Steps

/-! # Users and their connections

The user index points only to registered connections that have the user themselves (`Indexed`), and a
connection that was opened is registered exactly until it is removed (`Retired`). -/

namespace Sgate.Gateway

open Interleaving Sessions

/-! ## Steps that change users -/

/-- Tasks other than login workers that give a connection a user. -/
def Task.names (c u : String) : Task → Prop
  | .push d key => d = c ∧ key = u
  | .wsUpdate d m => d = c ∧ m.userKey = u
  | _ => False

/-- The task gives a connection a user without a login. -/
def Task.renames : Task → Bool
  | .push _ _ | .wsUpdate _ _ => true
  | _ => false

def LoginPc.registered : LoginPc → Bool
  | .account | .key | .ack | .forward => true
  | _ => false

inductive UsersStep (s : Sessions) : Task → Sessions → Prop
  | same {t : Task} {s' : Sessions} (hregistered : s'.registered = s.registered)
      (husers : s'.users = s.users) (huuid : ∀ c, s'.userUUID c = s.userUUID c)
      (hremove : ∀ c, t = .removeConn c → c ∉ s.registered) : UsersStep s t s'
  | opened {c tempUUID addr host : String} (h : s.userUUID c = none)
      (htemp : isConnectionID tempUUID = true) :
      UsersStep s (.onOpen c tempUUID addr) (s.opened c ("temp_" ++ tempUUID) host)
  | removed {c : String} (h : c ∈ s.registered) : UsersStep s (.removeConn c) (s.removed c)
  | register {c : String} {m : Routes.StreamData} {r : LoginGateReq} :
      UsersStep s (.login c m r .register) (s.identified c (r.fullUUID c))
  | named {t : Task} {c u : String} (h : t.names c u) : UsersStep s t (s.identified c u)

section

variable {cfg : Config} {v v' : View} {s s' : Sessions} {t t' : Task} {new : List Task}
  {c k u : String}

theorem UsersStep.refl (h : ∀ c, t ≠ .removeConn c) : UsersStep s t s :=
  .same rfl rfl (fun _ => rfl) fun c ht => absurd ht (h c)

/-- **Every step changes users in one of these ways.** -/
theorem TaskStep.users (hs : TaskStep cfg v t v' t' new) : UsersStep v.sessions t v'.sessions := by
  cases hs with
  | login hs =>
    cases hs with
    | bind =>
      exact .same registered_bound users_bound userUUID_bound
        (by simp)
    | register => exact .register
    | _ => exact .refl (by simp)
  | process hs => cases hs <;> exact .refl (by simp)
  | wsUpdate | push => exact .named ⟨rfl, rfl⟩
  | opened h htemp _ => exact .opened (by simp [userUUID, h]) htemp
  | removed h => exact .removed h
  | removedBefore h =>
    refine .same rfl rfl (fun _ => rfl) ?_
    rintro c ⟨⟩
    exact h
  | relocated =>
    exact .same registered_relocated users_relocated
      userUUID_relocated (by simp)
  | quiet ht => exact .refl fun c hc => by simp [hc, Task.slight] at ht
  | _ => exact .refl (by simp)

theorem not_names_of_renames (ht : t.renames = false) : ¬ t.names c k := by
  cases t with
  | push _ _ | wsUpdate _ _ => cases ht
  | _ => exact id

theorem TaskStep.renames_eq (hs : TaskStep cfg v t v' t' new) : t'.renames = false := by
  cases hs with
  | login hs | process hs => cases hs <;> rfl
  | forward h | notify h => rcases h with rfl | rfl <;> rfl
  | _ => rfl

/-! ## The user index -/

/-- The user index points to registered connections that have the user. -/
def Indexed (s : Sessions) : Prop :=
  ∀ k c, s.users k = some c → c ∈ s.registered ∧ s.userUUID c = some k

theorem Indexed.identified (h : Indexed s) : Indexed (s.identified c u) := by
  by_cases hc : c ∈ s.registered
  · intro k d hd
    rw [registered_identified, userUUID_identified hc]
    rcases (users_identified hc).mp hd with ⟨rfl, rfl⟩ | ⟨-, hold, hother⟩
    · exact ⟨hc, by simp⟩
    · obtain ⟨hreg, huuid⟩ := h k d hold
      -- an entry of the connection itself is the one that was dropped
      have hne : d ≠ c := by
        rintro rfl
        exact hother ⟨huuid, rfl⟩
      exact ⟨hreg, by rwa [if_neg hne]⟩
  · rwa [identified_of_not_mem hc]

theorem UsersStep.indexed (h : Indexed s) (hs : UsersStep s t s') : Indexed s' := by
  cases hs with
  | same hregistered husers huuid _ =>
    intro k c hc
    rw [hregistered, huuid]
    exact h k c (husers ▸ hc)
  | opened hfresh htemp =>
    rename_i id tempUUID addr host
    intro k c hc
    rw [userUUID_opened]
    rcases users_opened.mp hc with ⟨rfl, rfl⟩ | ⟨-, hold⟩
    · exact ⟨List.mem_cons_self, by simp⟩
    · obtain ⟨hreg, huuid⟩ := h k c hold
      have hne : c ≠ id := by
        rintro rfl
        rw [hfresh] at huuid
        cases huuid
      exact ⟨List.mem_cons_of_mem _ hreg, by rwa [if_neg hne]⟩
  | removed hid =>
    intro k c hc
    obtain ⟨hold, hother⟩ := (users_removed hid).mp hc
    obtain ⟨hreg, huuid⟩ := h k c hold
    rw [userUUID_removed, mem_registered_removed hid]
    refine ⟨⟨hreg, ?_⟩, huuid⟩
    rintro rfl
    exact hother ⟨huuid, rfl⟩
  | register | named _ => exact h.identified

/-! ## Registration -/

/-- The connection was opened and is not registered any more. -/
def IsRetired (s : Sessions) (c : String) : Prop := (s.userUUID c).isSome ∧ c ∉ s.registered

/-- The connections that are not registered any more are those that were removed. -/
def Retired (v : View) : Prop := ∀ c, IsRetired v.sessions c ↔ Event.removed c ∈ v.history

theorem isRetired_identified : IsRetired (s.identified c u) k ↔ IsRetired s k := by
  unfold IsRetired
  rw [registered_identified]
  by_cases hc : c ∈ s.registered
  · rw [userUUID_identified hc]
    by_cases hk : k = c
    · subst hk
      simp [hc]
    · rw [if_neg hk]
  · rw [identified_of_not_mem hc]

theorem UsersStep.isRetired_iff (hs : UsersStep s t s') :
    IsRetired s' c ↔ IsRetired s c ∨ (t = .removeConn c ∧ c ∈ s.registered) := by
  cases hs with
  | same hregistered _ huuid hremove =>
    unfold IsRetired
    rw [hregistered, huuid, or_iff_left]
    rintro ⟨ht, hc⟩
    exact hremove c ht hc
  | opened hfresh htemp =>
    rename_i id _ _ _
    unfold IsRetired
    rw [Sessions.userUUID_opened]
    by_cases hc : c = id
    · subst hc
      simp [Sessions.opened, hfresh]
    · simp [Sessions.opened, hc]
  | removed hid =>
    rename_i id
    unfold IsRetired
    rw [Sessions.userUUID_removed, Sessions.mem_registered_removed hid]
    by_cases hc : c = id
    · subst hc
      obtain ⟨x, -, huuid⟩ := Sessions.exists_find hid
      simp [hid, huuid]
    · simp [hc, Ne.symm hc]
  | register => simp [isRetired_identified]
  | named h =>
    rw [isRetired_identified, or_iff_left]
    rintro ⟨rfl, -⟩
    exact h

theorem UsersStep.isSome_mono (hs : UsersStep s t s') (h : (s.userUUID c).isSome) :
    (s'.userUUID c).isSome := by
  have hidentified (d k : String) : ((s.identified d k).userUUID c).isSome := by
    by_cases hd : d ∈ s.registered
    · rw [userUUID_identified hd]
      split
      · rfl
      · exact h
    · rwa [identified_of_not_mem hd]
  cases hs with
  | same _ _ huuid _ => rwa [huuid]
  | opened _ _ =>
    rw [userUUID_opened]
    split
    · rfl
    · exact h
  | removed _ => rwa [userUUID_removed]
  | register | named _ => exact hidentified _ _

theorem UsersStep.mem_registered (hs : UsersStep s t s') (hc : c ∈ s.registered)
    (hremove : t ≠ .removeConn c) : c ∈ s'.registered := by
  cases hs with
  | same hregistered _ _ _ => rwa [hregistered]
  | opened _ _ => exact List.mem_cons_of_mem _ hc
  | removed hid =>
    rw [mem_registered_removed hid]
    refine ⟨hc, ?_⟩
    rintro rfl
    exact hremove rfl
  | register | named _ => rwa [registered_identified]

theorem TaskStep.removed_mem_iff (hs : TaskStep cfg v t v' t' new) :
    Event.removed c ∈ v'.history ↔
      Event.removed c ∈ v.history ∨ (t = .removeConn c ∧ c ∈ v.sessions.registered) := by
  cases hs with
  | login hs | process hs => cases hs <;> simp
  | removed hid =>
    rename_i id
    by_cases hc : c = id
    · subst hc
      simp [hid]
    · simp [hc, Ne.symm hc]
  | removedBefore hid =>
    -- a second removal finds nothing and records nothing
    rw [or_iff_left]
    rintro ⟨⟨⟩, hc⟩
    exact hid hc
  | quiet ht =>
    rw [or_iff_left]
    rintro ⟨rfl, -⟩
    cases ht
  | _ => simp

theorem TaskStep.retired (h : Retired v) (hs : TaskStep cfg v t v' t' new) : Retired v' := by
  intro c
  rw [hs.users.isRetired_iff, hs.removed_mem_iff, h c]

theorem Retired.not_removed (h : Retired v) (hc : c ∈ v.sessions.registered) :
    Event.removed c ∉ v.history := by
  intro hremoved
  exact ((h c).mpr hremoved).2 hc

/-! ## Workers -/

theorem TaskStep.completed_mem (hs : TaskStep cfg v t v' t' new) {r : LoginGateReq}
    {holder : Option String} (h : Event.completed c r holder ∈ v'.history) :
    Event.completed c r holder ∈ v.history ∨
      ∃ m, t = .login c m r .forward ∧ holder = v.sessions.users (r.fullUUID c) := by
  cases hs with
  | login hs =>
    cases hs with
    | complete _ =>
      rcases List.mem_cons.mp h with heq | h
      · cases heq
        exact .inr ⟨_, rfl, rfl⟩
      · exact .inl h
    | _ => exact .inl (by simpa using h)
  | process hs => cases hs <;> exact .inl (by simpa using h)
  | _ => exact .inl (by simpa using h)

theorem TaskStep.client_eq (hs : TaskStep cfg v t v' t' new) (hc : c ∈ t'.client) :
    c ∈ t.client := by
  cases hs with
  | login hs => cases hs <;> first | exact hc | cases hc
  | process hs => cases hs <;> cases hc
  | toLogin _ _ | started _ => exact hc
  | forward h | notify h => rcases h with rfl | rfl <;> cases hc
  | _ => cases hc

end

theorem users_init : Indexed initWorld.shared.view.sessions ∧ Retired initWorld.shared.view := by
  refine ⟨fun k c hc => ?_, fun c => ⟨fun hc => ?_, fun hc => ?_⟩⟩
  · cases hc
  · cases hc.1
  · cases hc

theorem fullUUID_ne_temp (r : LoginGateReq) (c : String) {tempUUID : String}
    (h : isConnectionID tempUUID = true) : r.fullUUID c ≠ "temp_" ++ tempUUID := by
  intro heq
  -- the identity has the colon that joins its parts, a temporary user has none
  have hcolon : ':' ∈ (r.fullUUID c).toList := by
    unfold LoginGateReq.fullUUID
    simp [String.toList_append]
  rw [heq, String.toList_append, List.mem_append] at hcolon
  rcases hcolon with hcolon | hcolon
  · revert hcolon
    decide
  · have := List.all_eq_true.mp h ':' hcolon
    revert this
    decide

end Sgate.Gateway
