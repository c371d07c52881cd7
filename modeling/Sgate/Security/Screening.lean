import Sgate.Config.Components

/-! # Firewall and circuit breakers

The firewall looks at payloads, the circuit breakers at the results of forwarding. Compiled patterns are
functions from payloads. -/

namespace Sgate.Security

open HotUpdate Settings

/-! ## The firewall -/

structure WAF where
  enabled : Bool
  sqlPatterns : List (Bytes → Bool)
  xssPatterns : List (Bytes → Bool)
  maxPayloadSize : ℤ
  blockAction : String
  blockedCount : ℕ

namespace WAF

/-- A byte that `isLikelyText` takes for text. -/
def printable (b : UInt8) : Bool :=
  (0x20 ≤ b && b ≤ 0x7E) || b = 0x0A || b = 0x0D || b = 0x09 || 0x80 ≤ b

/-- `isLikelyText`: more than 80 percent of the first 100 bytes are printable. -/
def isLikelyText (data : Bytes) : Bool :=
  let head := data.take 100
  data ≠ [] && 80 < head.countP printable * 100 / head.length

/-- `Inspect` found nothing. -/
def passes (w : WAF) (data : Bytes) : Bool :=
  !w.enabled || data = [] ||
    !(0 < w.maxPayloadSize && w.maxPayloadSize < data.length) &&
      (!isLikelyText data || !(w.sqlPatterns.any (· data) || w.xssPatterns.any (· data)))

/-- `Inspect`: whether the payload is harmless. What is not is counted. -/
def inspect (w : WAF) (data : Bytes) : WAF × Bool :=
  if w.passes data then (w, true) else ({ w with blockedCount := w.blockedCount + 1 }, false)

def shouldBlock (w : WAF) : Bool := w.blockAction = "drop"

end WAF

/-! ## Circuit breakers -/

inductive CircuitBreakerState
  | stateClosed
  | stateOpen
  | stateHalfOpen
  deriving DecidableEq

/-- `CircuitBreaker`; times are in nanoseconds. -/
structure CircuitBreaker where
  state : CircuitBreakerState
  failureThreshold : ℤ
  successThreshold : ℤ
  timeout : ℤ
  failureCount : ℤ
  successCount : ℤ
  lastFailureTime : ℤ
  trippedCount : ℤ
  deriving DecidableEq

namespace CircuitBreaker

def newCircuitBreaker (p : BreakerParams) (now : ℤ) : CircuitBreaker where
  state := .stateClosed
  failureThreshold := if p.failureThreshold ≤ 0 then 5 else p.failureThreshold
  successThreshold := if p.successThreshold ≤ 0 then 3 else p.successThreshold
  timeout := if p.timeout ≤ 0 then 30 * second else p.timeout
  failureCount := 0
  successCount := 0
  lastFailureTime := now
  trippedCount := 0

/-- `Allow`: an open breaker lets through after its timeout and is half open from then on. -/
def allow (cb : CircuitBreaker) (now : ℤ) : CircuitBreaker × Bool :=
  match cb.state with
  | .stateClosed => (cb, true)
  | .stateOpen =>
    if cb.timeout < now - cb.lastFailureTime then
      ({ cb with state := .stateHalfOpen, successCount := 0 }, true)
    else (cb, false)
  | .stateHalfOpen => (cb, true)

def recordSuccess (cb : CircuitBreaker) : CircuitBreaker :=
  match cb.state with
  | .stateClosed => { cb with failureCount := 0 }
  | .stateHalfOpen =>
    if int32 cb.successThreshold ≤ int32 (cb.successCount + 1) then
      { cb with state := .stateClosed, failureCount := 0, successCount := 0 }
    else { cb with successCount := int32 (cb.successCount + 1) }
  | .stateOpen => cb

def recordFailure (cb : CircuitBreaker) (now : ℤ) : CircuitBreaker :=
  match cb.state with
  | .stateClosed =>
    let cb := { cb with failureCount := int32 (cb.failureCount + 1), lastFailureTime := now }
    if int32 cb.failureThreshold ≤ cb.failureCount then
      { cb with state := .stateOpen, trippedCount := cb.trippedCount + 1 }
    else cb
  | .stateHalfOpen =>
    { cb with state := .stateOpen, lastFailureTime := now, trippedCount := cb.trippedCount + 1 }
  | .stateOpen => { cb with lastFailureTime := now }

end CircuitBreaker

abbrev CircuitBreakerManager : Type := KeyMap String CircuitBreaker

/-- `GetCircuitBreaker`: the breaker of a name, which is created if there is none. -/
def CircuitBreakerManager.getCircuitBreaker (cbm : CircuitBreakerManager) (name : String)
    (p : BreakerParams) (now : ℤ) : CircuitBreaker :=
  (cbm name).getD (.newCircuitBreaker p now)

end Sgate.Security
