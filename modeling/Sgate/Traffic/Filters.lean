import Sgate.Config.Components
import Sgate.Types.FilterChain

/-! # Degradation and mirroring

The degradation manager watches the results of forwarding in a sliding window, and as a filter it
replaces the payload of a degraded route by a fallback. Error rates are exact fractions; times are in
nanoseconds unless said otherwise. -/

namespace Sgate.Traffic

open Filters
open Security (second)

/-! ## Degradation -/

structure DegradeRule where
  route : String
  errorThreshold : ℚ
  windowSize : ℕ
  /-- The last results, in a ring. -/
  recentErrors : List Bool
  pos : ℕ
  count : ℕ
  errorCount : ℤ
  fallbackData : Bytes
  degraded : Bool
  coolDown : ℤ
  /-- In seconds. -/
  lastDegrade : ℤ
  windowSize_pos : 0 < windowSize
  length_recentErrors : recentErrors.length = windowSize

namespace DegradeRule

/-- The rule that `newDegradationRule` makes from its parameters. -/
def ofParams (r : HotUpdate.DegradeRule) (h : 0 < r.windowSize) : DegradeRule where
  route := r.route
  errorThreshold := r.errorThreshold
  windowSize := r.windowSize.toNat
  recentErrors := List.replicate r.windowSize.toNat false
  pos := 0
  count := 0
  errorCount := 0
  fallbackData := r.fallbackData.toUTF8.data.toList
  degraded := false
  coolDown := r.coolDown
  lastDegrade := 0
  windowSize_pos := Int.lt_toNat.mpr h
  length_recentErrors := List.length_replicate

/-- Less than the cool-down has passed since the route was degraded. -/
def inCoolDown (r : DegradeRule) (now : ℤ) : Bool := now - r.lastDegrade * second < r.coolDown

/-- The route is degraded and cooling down: its messages get the fallback. -/
def cooling (r : DegradeRule) (now : ℤ) : Bool := r.degraded && r.inCoolDown now

theorem length_set (r : DegradeRule) (i : ℕ) (b : Bool) :
    (r.recentErrors.set i b).length = r.windowSize :=
  (List.length_set ..).trans r.length_recentErrors

/-- The window of `recordResult` takes in a result. -/
def slide (r : DegradeRule) (isError : Bool) : DegradeRule :=
  let pos := r.pos % r.windowSize
  let leaves := r.windowSize ≤ r.count && r.recentErrors.getD pos false
  { r with
    errorCount := r.errorCount - (if leaves then 1 else 0) + (if isError then 1 else 0)
    recentErrors := r.recentErrors.set pos isError
    pos := r.pos + 1
    count := r.count + 1
    length_recentErrors := r.length_set pos isError }

/-- The window is full of results and too many of them are errors. -/
def exceeds (r : DegradeRule) : Bool :=
  r.windowSize ≤ r.count && r.errorThreshold ≤ (r.errorCount : ℚ) / (r.windowSize : ℚ)

/-- `recordResult`; the flag says that the route was degraded by it. -/
def recordResult (r : DegradeRule) (isError : Bool) (now : ℤ) : DegradeRule × Bool :=
  let r := r.slide isError
  if r.exceeds && !r.degraded then
    ({ r with degraded := true, lastDegrade := now / second }, true)
  else (r, false)

end DegradeRule

theorem windowSize_pos_of_newDegradationRule {lib : Settings.Lib}
    {rc : Settings.DegradationRuleConfig} {r : HotUpdate.DegradeRule}
    (h : HotUpdate.newDegradationRule lib rc = some r) : 0 < r.windowSize := by
  unfold HotUpdate.newDegradationRule at h
  split at h <;> cases h
  rename_i hsize
  show 0 < if rc.windowSize ≤ 0 then 100 else rc.windowSize
  split <;> omega

structure DegradationManager where
  rules : KeyMap String DegradeRule
  enabled : Bool
  triggeredCount : ℕ

namespace DegradationManager

def recordResult (m : DegradationManager) (route : String) (isError : Bool) (now : ℤ) :
    DegradationManager :=
  match m.rules route with
  | none => m
  | some r =>
    let next := r.recordResult isError now
    { m with
      rules := m.rules.store route next.1
      triggeredCount := if next.2 then m.triggeredCount + 1 else m.triggeredCount }

/-- `Process`: the payload of a route that is cooling down is replaced, and one that has cooled down
is no longer degraded. The filter never stops a message. -/
def process (m : DegradationManager) (now : ℤ) (fcx : FilterContext) :
    DegradationManager × FilterContext :=
  if m.enabled then
    match m.rules fcx.route with
    | none => (m, fcx)
    | some r =>
      if r.degraded then
        if r.inCoolDown now then
          (m, { fcx.setMeta "degraded" "true" with data := r.fallbackData })
        else ({ m with rules := m.rules.store fcx.route { r with degraded := false } }, fcx)
      else (m, fcx)
  else (m, fcx)

/-- The messages of a route get the fallback. -/
def degrades (m : DegradationManager) (route : String) (now : ℤ) : Bool :=
  m.enabled && (m.rules route).any fun r => r.cooling now

end DegradationManager

/-! ## What the filters share -/

/-- What filters read and write besides the context: the time, the degradation manager that the
gateway also reports results to, and a state `σ` for everything else. -/
structure FilterState (σ : Type) where
  now : ℤ
  degradation : Option DegradationManager
  other : σ

def degradationFilter (σ : Type) : Filters.Filter (FilterState σ) where
  name := "degradation"
  phase := phaseForward
  priority := 500
  process fcx s :=
    match s.degradation with
    | none => ⟨true, none, fcx, s⟩
    | some m =>
      let r := m.process s.now fcx
      ⟨true, none, r.2, { s with degradation := some r.1 }⟩

/-! ## Mirroring -/

/-- `TrafficMirror`, as far as `Mirror` uses it. -/
structure TrafficMirror where
  percent : ℤ
  queueSize : ℕ
  queue : List FilterContext
  forwarded : ℕ
  dropped : ℕ

/-- `Mirror`: a copy of a sampled message is queued if there is room. -/
def TrafficMirror.mirror (fnv1a32 : String → ℕ) (tm : TrafficMirror) (fcx : FilterContext) :
    TrafficMirror :=
  if tm.percent ≤ 0 ∨ tm.percent ≤ (fnv1a32 fcx.connectionID % 100 : ℕ) then tm
  else
    let clone := { fcx with abort := false, dropReason := "", mirrored := true }
    if tm.queue.length < tm.queueSize then
      { tm with queue := tm.queue ++ [clone], forwarded := tm.forwarded + 1 }
    else { tm with dropped := tm.dropped + 1 }

end Sgate.Traffic
