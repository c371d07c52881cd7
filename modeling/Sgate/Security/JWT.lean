import Mathlib.Data.Finset.Card
import Mathlib.Data.Int.Order.Basic
import Sgate.Types.FilterChain

/-! # JSON web tokens

The filter that authenticates messages by a token, with its list of revoked tokens. A token is split
at its dots; decoding, parsing and the signature are third-party functions. `Validate` reads the clock
twice: for the expiry of the token and for the revocation. Times are in seconds. -/

namespace Sgate.Security

open Filters

/-- `JWTClaims`, as far as the filter looks at them. -/
structure JWTClaims where
  sub : String
  iss : String
  /-- Zero if the token has none. -/
  exp : ℤ
  jti : String
  deriving DecidableEq

/-- What `Validate` takes from libraries. -/
structure JWTLib where
  decodeString : List Char → Except String Bytes
  /-- `json.Unmarshal` of the header, which gives the algorithm. -/
  unmarshalHeader : Bytes → Except String String
  unmarshalClaims : Bytes → Except String JWTClaims
  /-- `hmac.Equal` of the signature and that of `sign`, by secret, input and signature. -/
  validSignature : Bytes → List Char → Bytes → Bool

/-- The revoked tokens: identifier to expiry of the entry. -/
structure Revocations where
  entries : KeyMap String ℤ
  keys : Finset String
  mem_keys : ∀ jti, jti ∈ keys ↔ (entries jti).isSome

namespace Revocations

theorem mem_keys_empty (jti : String) :
    jti ∈ (∅ : Finset String) ↔ ((KeyMap.empty : KeyMap String ℤ) jti).isSome := by
  simp

def empty : Revocations := ⟨.empty, ∅, mem_keys_empty⟩

theorem mem_keys_purge (rs : Revocations) (now : ℤ) (jti : String) :
    jti ∈ rs.keys.filter (fun jti => (rs.entries.deleteFunc (fun _ e => e ≤ now) jti).isSome) ↔
      (rs.entries.deleteFunc (fun _ e => e ≤ now) jti).isSome := by
  rw [Finset.mem_filter, rs.mem_keys, KeyMap.deleteFunc]
  cases rs.entries jti <;> simp

/-- Entries that have expired are removed. -/
def purge (rs : Revocations) (now : ℤ) : Revocations where
  entries := rs.entries.deleteFunc fun _ e => e ≤ now
  keys := rs.keys.filter fun jti => (rs.entries.deleteFunc (fun _ e => e ≤ now) jti).isSome
  mem_keys := rs.mem_keys_purge now

theorem entries_purge_eq_some {rs : Revocations} {now e : ℤ} {jti : String} :
    (rs.purge now).entries jti = some e ↔ rs.entries jti = some e ∧ now < e := by
  rw [purge, KeyMap.deleteFunc_eq_some, decide_eq_false_iff_not, not_le]

theorem mem_keys_put (rs : Revocations) (jti : String) (exp : ℤ) (j : String) :
    j ∈ insert jti rs.keys ↔ (rs.entries.store jti exp j).isSome := by
  by_cases h : j = jti
  · simp [h]
  · simp [h, rs.mem_keys]

def put (rs : Revocations) (jti : String) (exp : ℤ) : Revocations where
  entries := rs.entries.store jti exp
  keys := insert jti rs.keys
  mem_keys := rs.mem_keys_put jti exp

end Revocations

structure JWTAuthFilter where
  secret : Bytes
  issuer : String
  skipRoutes : List String
  headerName : String
  revoked : Revocations

namespace JWTAuthFilter

variable (lib : JWTLib) (f : JWTAuthFilter)

def newJWTAuthFilter (secret : Bytes) (issuer headerField : String) (skipRoutes : List String) :
    JWTAuthFilter where
  secret := secret
  issuer := issuer
  skipRoutes := skipRoutes
  headerName := if headerField = "" then "X-Auth-Token" else headerField
  revoked := .empty

/-- The part of `Validate` that does not depend on the time: format, algorithm, signature and claims. -/
def parse (token : String) : Except String JWTClaims :=
  match token.toList.splitOn '.' with
  | [first, second, third] => do
      let header ← lib.decodeString first
      let alg ← lib.unmarshalHeader header
      if alg ≠ "HS256" then throw ("unsupported alg: " ++ alg)
      let sig ← lib.decodeString third
      if lib.validSignature f.secret (first ++ '.' :: second) sig = false then throw "signature mismatch"
      let payload ← lib.decodeString second
      lib.unmarshalClaims payload
  | _ => throw "invalid token format"

/-- `Validate`, with the two readings of the clock. -/
def validate (token : String) (now now' : ℤ) : Except String JWTClaims :=
  match f.parse lib token with
  | .error err => .error err
  | .ok claims =>
    -- a token without expiry has zero
    if 0 < claims.exp ∧ claims.exp < now then .error "token expired"
    else if f.issuer ≠ "" ∧ claims.iss ≠ f.issuer then .error "issuer mismatch"
    else if ∃ e ∈ f.revoked.entries claims.jti, now' < e then .error "token revoked"
    else .ok claims

/-- `Revoke`: a large list is purged before the entry is written. -/
def revoke (jti : String) (exp now : ℤ) : JWTAuthFilter :=
  { f with revoked := (if 1024 < f.revoked.keys.card then f.revoked.purge now else f.revoked).put jti exp }

/-- The token that `Process` validates; none on a skipped route and for a message without one. -/
def presented (fcx : FilterContext) : Option String :=
  if f.skipRoutes.contains fcx.route then none
  else if fcx.meta f.headerName = "" then none
  else some (fcx.meta f.headerName)

/-- `Process`, without the error, which is always nil. -/
def process (fcx : FilterContext) (now now' : ℤ) : Bool × FilterContext :=
  if f.skipRoutes.contains fcx.route then (true, fcx)
  else if fcx.meta f.headerName = "" then
    if fcx.userUUID = "" then (true, fcx) else (false, { fcx with dropReason := "missing jwt token" })
  else
    match f.validate lib (fcx.meta f.headerName) now now' with
    | .error err => (false, { fcx with dropReason := "invalid jwt: " ++ err })
    | .ok claims =>
      (true, ({ fcx with userUUID := claims.sub }.setMeta "jwt.jti" claims.jti).setMeta "jwt.exp"
        claims.exp.repr)

variable {lib f} {token : String} {c : JWTClaims} {now now' : ℤ}

theorem validate_eq_ok_iff : f.validate lib token now now' = .ok c ↔
    (f.parse lib token = .ok c ∧ (f.issuer = "" ∨ c.iss = f.issuer)) ∧
      ¬ (0 < c.exp ∧ c.exp < now) ∧ ¬ ∃ e ∈ f.revoked.entries c.jti, now' < e := by
  unfold validate
  cases h : f.parse lib token with
  | error err => simp
  | ok claims =>
    dsimp only
    constructor
    · intro hok
      split at hok
      · cases hok
      · split at hok
        · cases hok
        · split at hok
          · cases hok
          · rename_i hexp hiss hrevoked
            cases hok
            refine ⟨⟨rfl, ?_⟩, hexp, hrevoked⟩
            by_contra hn
            exact hiss (not_or.mp hn)
    · rintro ⟨⟨hok, hiss⟩, hexp, hrevoked⟩
      cases hok
      rw [if_neg hexp, if_neg (by tauto), if_neg hrevoked]

variable {jti j : String} {exp e : ℤ}

theorem entries_of_revoke (h : (f.revoke jti exp now).revoked.entries j = some e) :
    (f.revoked.entries.store jti exp) j = some e := by
  unfold revoke at h
  split at h
  · change ((f.revoked.purge now).entries.store jti exp) j = some e at h
    rw [KeyMap.store_apply] at h ⊢
    split at h
    · rename_i hj
      rw [if_pos hj]
      exact h
    · rename_i hj
      rw [if_neg hj]
      exact (Revocations.entries_purge_eq_some.mp h).1
  · exact h

theorem entries_revoke (h : (f.revoked.entries.store jti exp) j = some e) :
    e ≤ now ∨ (f.revoke jti exp now).revoked.entries j = some e := by
  unfold revoke
  split
  · show _ ∨ ((f.revoked.purge now).entries.store jti exp) j = some e
    rw [KeyMap.store_apply] at h ⊢
    split at h
    · rename_i hj
      rw [if_pos hj]
      exact .inr h
    · rename_i hj
      rw [if_neg hj]
      exact (le_or_gt e now).imp_right fun he => Revocations.entries_purge_eq_some.mpr ⟨h, he⟩
  · exact .inr h

end JWTAuthFilter

end Sgate.Security
