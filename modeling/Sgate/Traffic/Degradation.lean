import Sgate.Config.HotUpdate
import Sgate.Lib.Transition
import Sgate.Traffic.Filters

/-! # Degradation rules that panic

`newDegradationRule` allocates the window of a rule before it replaces a size that is not positive by the
default. Whether a call of the manager panics depends on the rules it is given alone. -/

namespace Sgate.Traffic

open HotUpdate (newDegradationRule)

inductive DegradationCall
  | addRule (rc : Settings.DegradationRuleConfig)
  | recordResult (route : String) (isError : Bool) (now : ℤ)
  | process (now : ℤ) (fcx : Filters.FilterContext)

/-- A call of the manager; `none` if it panics. -/
def DegradationManager.call (lib : Settings.Lib) (m : DegradationManager) :
    DegradationCall → Option DegradationManager
  | .addRule rc =>
    match h : newDegradationRule lib rc with
    | none => none
    | some r =>
      some { m with rules := m.rules.store rc.route (.ofParams r (windowSize_pos_of_newDegradationRule h)) }
  | .recordResult route isError now => some (m.recordResult route isError now)
  | .process now fcx => some (m.process now fcx).1

end Sgate.Traffic
