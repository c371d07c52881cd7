import Sgate.Gateway.Pipeline
import Sgate.Security.JWT

/-! # Revoked tokens

Tokens are revoked by `Revoke` and by the logout of a connection, for which the pipeline keeps the token
it presented last. A run is about one token, and records where it was accepted and what was revoked. The
clock is given by the time since its last reading, so it does not go back. -/

namespace Sgate.Pipeline

open Filters Transition
open Security (JWTLib JWTClaims JWTAuthFilter Revocations)

/-- The expiry that `revokeConnJWT` gives to the entry. -/
def revocationExp (c : Client) (now : ℤ) : ℤ := if c.jwtExp ≤ 0 then now + 3600 else c.jwtExp

/-- `revokeConnJWT`, with the readings of the clock for the expiry and in `Revoke`. -/
def revokeConnJWT (f : JWTAuthFilter) (c : Client) (now now' : ℤ) : JWTAuthFilter :=
  if c.jwtJti = "" then f else f.revoke c.jwtJti (revocationExp c now) now'

/-! ## Runs -/

/-- The gateway and what is recorded about one token. -/
structure TokenWorld where
  /-- The last reading of the clock. -/
  clock : ℤ
  jwtAuth : JWTAuthFilter
  clients : KeyMap String Client
  /-- The connections on which the token was accepted. -/
  presenters : List String
  /-- What `Revoke` wrote last, by identifier. -/
  last : KeyMap String ℤ
  isRevoked : Bool
  /-- It was accepted after that. -/
  reaccepted : Bool

/-- A world in which nothing was recorded yet. -/
def TokenWorld.start (clock : ℤ) (jwtAuth : JWTAuthFilter) (clients : KeyMap String Client) :
    TokenWorld :=
  ⟨clock, jwtAuth, clients, [], jwtAuth.revoked.entries, false, false⟩

/-- What happens to the tokens. Each reading of the clock is given by the seconds since the one
before. -/
inductive TokenAction
  | validate (token : String) (d d' : ℕ)
  /-- A message in the filters; `rest` is what the filters after this one make of the context. -/
  | message (fcx : FilterContext) (rest : FilterContext → Option FilterContext) (d d' : ℕ)
  | revoke (jti : String) (exp : ℤ) (d : ℕ)
  /-- A connection logs out. -/
  | logout (connectionID : String) (d d' : ℕ)
  | connect (connectionID : String) (c : Client)

section

variable (lib : JWTLib) (parseInt : String → Option ℤ) (tok : String) (c : JWTClaims)

/-- Validating a token is recorded if it is the one of the run and accepted. -/
def TokenWorld.hear (w : TokenWorld) (connections : List String) (token : Option String) (d d' : ℕ) :
    TokenWorld :=
  if token = some tok ∧ (w.jwtAuth.validate lib tok (w.clock + d) (w.clock + d + d')).isOk = true then
    { w with presenters := connections ++ w.presenters, reaccepted := w.reaccepted || w.isRevoked }
  else w

/-- `Revoke` with what is recorded about it. -/
def TokenWorld.doRevoke (w : TokenWorld) (jti : String) (exp now : ℤ) : TokenWorld :=
  { w with clock := now, jwtAuth := w.jwtAuth.revoke jti exp now, last := w.last.store jti exp }

/-- `revokeConnJWT` with what is recorded about it. -/
def TokenWorld.doLogout (w : TokenWorld) (client : Client) (now now' : ℤ) : TokenWorld :=
  { w with
    clock := now'
    jwtAuth := revokeConnJWT w.jwtAuth client now now'
    last :=
      if client.jwtJti = "" then w.last
      else w.last.store client.jwtJti (revocationExp client now) }

def stepToken (w : TokenWorld) : TokenAction → Option TokenWorld
  | .validate token d d' => some { w.hear lib tok [] (some token) d d' with clock := w.clock + d + d' }
  | .message fcx rest d d' =>
    let r := w.jwtAuth.process lib fcx (w.clock + d) (w.clock + d + d')
    let kept := if r.1 then rest r.2 else none
    some { w.hear lib tok [fcx.connectionID] (w.jwtAuth.presented fcx) d d' with
      clock := w.clock + d + d'
      clients := kept.elim w.clients fun fcx' => keepJWT parseInt w.clients fcx.connectionID fcx' }
  | .revoke jti exp d =>
    some { w.doRevoke jti exp (w.clock + d) with
      isRevoked := w.isRevoked || (jti = c.jti && exp = c.exp) }
  | .logout connectionID d d' =>
    match w.clients connectionID with
    | none => some { w with clock := w.clock + d + d' }
    | some client =>
      some { w.doLogout client (w.clock + d) (w.clock + d + d') with
        isRevoked := w.isRevoked || w.presenters.contains connectionID }
  | .connect connectionID client => some { w with clients := w.clients.store connectionID client }

end

def TokenAction.tries (a : TokenAction) (tok : String) (w : TokenWorld) : Option (ℤ × ℤ) :=
  match a with
  | .validate token d d' => if token = tok then some (w.clock + d, w.clock + d + d') else none
  | .message fcx _ d d' =>
    if w.jwtAuth.presented fcx = some tok then some (w.clock + d, w.clock + d + d') else none
  | _ => none

/-- The token is past its own expiry, or what the last revocation of its identifier wrote has not been
reached. -/
def TokenWorld.Barred (w : TokenWorld) (c : JWTClaims) (now now' : ℤ) : Prop :=
  (0 < c.exp ∧ c.exp < now) ∨ ∃ e ∈ w.last c.jti, now' < e
  deriving Decidable

/-! ## What is known of the token in a run -/

variable {lib : JWTLib} {parseInt : String → Option ℤ} {tok : String} {c : JWTClaims} {w w' : TokenWorld}

/-- The token is authentic and was not accepted again. The entries are those that were written last,
except for entries whose time is over. -/
structure Tracked (lib : JWTLib) (tok : String) (c : JWTClaims) (w : TokenWorld) : Prop where
  parsed : w.jwtAuth.parse lib tok = .ok c
  issued : w.jwtAuth.issuer = "" ∨ c.iss = w.jwtAuth.issuer
  unaccepted : w.reaccepted = false
  written : ∀ {jti e}, w.jwtAuth.revoked.entries jti = some e → w.last jti = some e
  live : ∀ {jti e}, w.last jti = some e → e ≤ w.clock ∨ w.jwtAuth.revoked.entries jti = some e

variable {now now' : ℤ} {a : TokenAction}

theorem forall_mem_ite_iff {P : Prop} [Decidable P] {r : ℤ × ℤ} {Q : ℤ × ℤ → Prop} :
    (∀ r' ∈ (if P then some r else none), Q r') ↔ (P → Q r) := by
  split <;> simp_all

/-- A validation of the token after its revocation is barred. -/
def ValidatesBarred (tok : String) (c : JWTClaims) (w : TokenWorld) (a : TokenAction) : Prop :=
  w.isRevoked = true → ∀ r ∈ a.tries tok w, w.Barred c r.1 r.2
  deriving Decidable

attribute [local simp] ValidatesBarred TokenAction.tries

section

variable (h : Tracked lib tok c w)
include h

theorem isOk_validate_iff (hnow : w.clock ≤ now') :
    (w.jwtAuth.validate lib tok now now').isOk = true ↔ ¬ w.Barred c now now' := by
  have hlast : (∃ e ∈ w.jwtAuth.revoked.entries c.jti, now' < e) ↔ ∃ e ∈ w.last c.jti, now' < e := by
    constructor
    · rintro ⟨e, he, hlt⟩
      exact ⟨e, h.written he, hlt⟩
    · rintro ⟨e, he, hlt⟩
      -- an entry that was purged is over, and bars no validation
      rcases h.live he with hover | hentry
      · omega
      · exact ⟨e, hentry, hlt⟩
  have hok : (w.jwtAuth.validate lib tok now now').isOk = true ↔
      w.jwtAuth.validate lib tok now now' = .ok c := by
    constructor
    · intro hsome
      cases hv : w.jwtAuth.validate lib tok now now' with
      | error err =>
        rw [hv] at hsome
        cases hsome
      | ok c' =>
        have hparsed := (JWTAuthFilter.validate_eq_ok_iff.mp hv).1.1
        rw [Except.ok.inj (hparsed.symm.trans h.parsed)]
    · intro hv
      rw [hv]
      rfl
  rw [hok, JWTAuthFilter.validate_eq_ok_iff, hlast, TokenWorld.Barred, not_or]
  exact and_iff_right ⟨h.parsed, h.issued⟩

theorem Tracked.of_same (hjwt : w'.jwtAuth = w.jwtAuth) (hlast : w'.last = w.last)
    (hclock : w.clock ≤ w'.clock) (hunaccepted : w'.reaccepted = false) : Tracked lib tok c w' where
  parsed := hjwt ▸ h.parsed
  issued := hjwt ▸ h.issued
  unaccepted := hunaccepted
  written he := by
    rw [hjwt] at he
    rw [hlast]
    exact h.written he
  live he := by
    rw [hlast] at he
    rw [hjwt]
    exact (h.live he).imp_left fun hover => hover.trans hclock

variable (connections : List String) (token : Option String) (d d' : ℕ)

omit h in
theorem jwtAuth_hear : (w.hear lib tok connections token d d').jwtAuth = w.jwtAuth := by
  unfold TokenWorld.hear
  split <;> rfl

omit h in
theorem last_hear : (w.hear lib tok connections token d d').last = w.last := by
  unfold TokenWorld.hear
  split <;> rfl

theorem reaccepted_hear_iff :
    (w.hear lib tok connections token d d').reaccepted = false ↔
      (w.isRevoked = true → token = some tok → w.Barred c (w.clock + d) (w.clock + d + d')) := by
  have hok : (w.jwtAuth.validate lib tok (w.clock + d) (w.clock + d + d')).isOk = true ↔ _ :=
    isOk_validate_iff h (by omega)
  unfold TokenWorld.hear
  split
  · rename_i haccepted
    show (w.reaccepted || w.isRevoked) = false ↔ _
    rw [h.unaccepted, Bool.false_or]
    constructor
    · intro hfalse htrue
      rw [hfalse] at htrue
      cases htrue
    · intro himp
      by_contra hrevoked
      exact hok.mp haccepted.2 (himp (Bool.eq_true_of_not_eq_false hrevoked) haccepted.1)
  · rename_i hnot
    refine iff_of_true h.unaccepted fun _ htoken => ?_
    by_contra hbarred
    exact hnot ⟨htoken, hok.mpr hbarred⟩

theorem Tracked.doRevoke (jti : String) (exp : ℤ) {now : ℤ} (hnow : w.clock ≤ now) :
    Tracked lib tok c (w.doRevoke jti exp now) where
  __ := h
  written {j e} he := by
    have hentry := JWTAuthFilter.entries_of_revoke he
    show w.last.store jti exp j = some e
    rw [KeyMap.store_apply] at hentry ⊢
    split at hentry
    · rename_i hj
      rw [if_pos hj]
      exact hentry
    · rename_i hj
      rw [if_neg hj]
      exact h.written hentry
  live {j e} he := by
    change w.last.store jti exp j = some e at he
    rw [KeyMap.store_apply] at he
    split at he
    · rename_i hj
      refine JWTAuthFilter.entries_revoke ?_
      rw [KeyMap.store_apply, if_pos hj]
      exact he
    · rename_i hj
      rcases h.live he with hover | hentry
      · exact .inl (hover.trans hnow)
      · refine JWTAuthFilter.entries_revoke ?_
        rw [KeyMap.store_apply, if_neg hj]
        exact hentry

theorem Tracked.doLogout (client : Client) (hnow : w.clock ≤ now') :
    Tracked lib tok c (w.doLogout client now now') := by
  unfold TokenWorld.doLogout revokeConnJWT
  split
  · exact h.of_same rfl rfl hnow h.unaccepted
  · exact h.doRevoke _ _ hnow

variable (hs : stepToken lib parseInt tok c w a = some w')
include hs

theorem reaccepted_stepToken_iff : w'.reaccepted = false ↔ ValidatesBarred tok c w a := by
  cases a with
  | validate token d d' =>
    cases hs
    refine (reaccepted_hear_iff h ..).trans ?_
    rw [ValidatesBarred, TokenAction.tries, forall_mem_ite_iff, Option.some.injEq]
  | message fcx rest d d' =>
    cases hs
    refine (reaccepted_hear_iff h ..).trans ?_
    rw [ValidatesBarred, TokenAction.tries, forall_mem_ite_iff]
  | revoke jti exp d | connect connectionID client =>
    cases hs
    exact iff_of_true h.unaccepted (by simp)
  | logout connectionID d d' =>
    refine iff_of_true ?_ (by simp)
    simp only [stepToken] at hs
    split at hs <;> cases hs <;> exact h.unaccepted

theorem Tracked.step (hunaccepted : w'.reaccepted = false) : Tracked lib tok c w' := by
  cases a with
  | validate token d d' | message fcx rest d d' =>
    cases hs
    exact h.of_same (jwtAuth_hear ..) (last_hear ..) (show w.clock ≤ w.clock + d + d' by omega)
      hunaccepted
  | revoke jti exp d =>
    cases hs
    exact (h.doRevoke jti exp (show w.clock ≤ w.clock + d by omega)).of_same rfl rfl (le_refl _)
      hunaccepted
  | logout connectionID d d' =>
    simp only [stepToken] at hs
    split at hs
    · cases hs
      exact h.of_same rfl rfl (show w.clock ≤ w.clock + d + d' by omega) hunaccepted
    · cases hs
      exact (h.doLogout _ (show w.clock ≤ w.clock + d + d' by omega)).of_same rfl rfl (le_refl _)
        hunaccepted
  | connect connectionID client =>
    cases hs
    exact h.of_same rfl rfl (le_refl _) hunaccepted

end

theorem exists_stepToken (w : TokenWorld) (a : TokenAction) :
    ∃ w', stepToken lib parseInt tok c w a = some w' := by
  cases a with
  | logout connectionID d d' =>
    simp only [stepToken]
    split <;> exact ⟨_, rfl⟩
  | validate | message | revoke | connect => exact ⟨_, rfl⟩

/-- **Revoked tokens.** From any state in which a token can be accepted, and over every run: the token
is not accepted again after its revocation, by a call or by the logout of a connection on which it was
accepted, exactly if it is validated only past its own expiry or before the time that the last
revocation of its identifier wrote. -/
theorem revoked_rejected_iff (lib : JWTLib) (parseInt : String → Option ℤ) (tok : String)
    (c : JWTClaims) (clock : ℤ) (f : JWTAuthFilter) (clients : KeyMap String Client)
    (haccepted : ∃ now now', f.validate lib tok now now' = .ok c) (as : List TokenAction) :
    Throughout (stepToken lib parseInt tok c) (fun w => w.reaccepted = false)
        (.start clock f clients) as ↔
      Guarded (stepToken lib parseInt tok c) (ValidatesBarred tok c) (.start clock f clients) as := by
  obtain ⟨now, now', hv⟩ := haccepted
  obtain ⟨⟨hparsed, hissued⟩, -⟩ := JWTAuthFilter.validate_eq_ok_iff.mp hv
  have hinit : Tracked lib tok c (.start clock f clients) := ⟨hparsed, hissued, rfl, id, Or.inr⟩
  refine throughout_iff_guarded (fun _ h => h.unaccepted) ?_ ?_ hinit
  · intro w a w' h hguard hs
    exact h.step hs ((reaccepted_stepToken_iff h hs).mpr hguard)
  · intro w a h hguard
    obtain ⟨w', hs⟩ := exists_stepToken w a
    exact ⟨w', hs, fun hfalse => hguard ((reaccepted_stepToken_iff h hs).mp hfalse)⟩

/-- Libraries for which every token of three parts is signed and has the given expiry. -/
def sampleJWTLib (exp : ℤ) : JWTLib where
  decodeString _ := .ok []
  unmarshalHeader _ := .ok "HS256"
  unmarshalClaims _ := .ok ⟨"s1:u", "", exp, "j"⟩
  validSignature _ _ _ := true

def sampleJWTAuth : JWTAuthFilter := .newJWTAuthFilter [1] "" "" []

theorem revoked_rejected_iff_untilExpiry :
    Throughout (stepToken (sampleJWTLib 100) (fun _ => none) "h.p.s" ⟨"s1:u", "", 100, "j"⟩)
      (fun w => w.reaccepted = false) (.start 0 sampleJWTAuth .empty)
      [.revoke "j" 100 10, .validate "h.p.s" 5 0, .validate "h.p.s" 86 0] :=
  (revoked_rejected_iff (sampleJWTLib 100) (fun _ => none) "h.p.s" ⟨"s1:u", "", 100, "j"⟩ 0
    sampleJWTAuth .empty ⟨0, 0, by decide⟩ _).mpr (by decide)

def tokenMessage : FilterContext :=
  { connectionID := "conn_1", metadata := KeyMap.empty.store "X-Auth-Token" "h.p.s" }

/-- A revoked token is accepted again in the second of its expiry, at once if it has no expiry, and an
hour after the logout if it has none. -/
theorem revoked_accepted :
    (run (stepToken (sampleJWTLib 100) (fun _ => none) "h.p.s" ⟨"s1:u", "", 100, "j"⟩)
      (.start 0 sampleJWTAuth .empty) [.revoke "j" 100 10, .validate "h.p.s" 90 0]).map
        (fun w => (w.clock, w.isRevoked, w.reaccepted)) = some (100, true, true) ∧
    (run (stepToken (sampleJWTLib 0) (fun _ => none) "h.p.s" ⟨"s1:u", "", 0, "j"⟩)
      (.start 0 sampleJWTAuth .empty) [.revoke "j" 0 10, .validate "h.p.s" 0 0]).map
        (fun w => (w.clock, w.isRevoked, w.reaccepted)) = some (10, true, true) ∧
    (run (stepToken (sampleJWTLib 0) (fun _ => some 0) "h.p.s" ⟨"s1:u", "", 0, "j"⟩)
      (.start 0 sampleJWTAuth .empty) [.connect "conn_1" sampleClient, .message tokenMessage some 0 0,
        .logout "conn_1" 10 0, .validate "h.p.s" 3600 0]).map
        (fun w => (w.clock, w.isRevoked, w.reaccepted)) = some (3610, true, true) := by
  decide

end Sgate.Pipeline
