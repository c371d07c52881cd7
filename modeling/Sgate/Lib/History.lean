import Mathlib.Data.List.Basic

/-! # Histories

A history is a list of events, newest first. `Each P` says that every event of a history stands in
the relation `P` to the events before it; this is how "whenever … happened, … had happened before"
is stated and carried along a run. -/

namespace History

variable {ε : Type*} {P : List ε → ε → Prop}

/-- Every event is related by `P` to the events before it. -/
def Each (P : List ε → ε → Prop) : List ε → Prop
  | [] => True
  | e :: past => P past e ∧ Each P past

/-- What `Each` says about one event. -/
theorem Each.at {post past : List ε} {e : ε} (h : Each P (post ++ e :: past)) : P past e := by
  induction post with
  | nil => exact h.1
  | cons _ post ih => exact ih h.2

instance decidableEach [∀ past e, Decidable (P past e)] : (h : List ε) → Decidable (Each P h)
  | [] => isTrue trivial
  | e :: past =>
    have := decidableEach past
    inferInstanceAs (Decidable (P past e ∧ _))

end History
