import Mathlib.Data.Int.Basic
import Mathlib.Data.List.Basic
import Mathlib.Tactic.Common

/-! # Texts made of parts

The decimal text of an integer determines it and has no other characters than digits and a sign. Parts
that are joined by a character they do not contain can be told apart again. -/

namespace Text

/-! ## Decimal texts -/

theorem toList_repr (n : ℤ) : n.repr.toList =
    if n < 0 then '-' :: Nat.toDigits 10 n.natAbs else Nat.toDigits 10 n.natAbs := by
  cases n with
  | ofNat m | negSucc m => simp [Int.repr, Nat.repr_eq_ofList_toDigits]

theorem isDigit_or_eq_of_mem_repr {n : ℤ} {c : Char} (h : c ∈ n.repr.toList) :
    c.isDigit = true ∨ c = '-' := by
  have hdigit : c ∈ Nat.toDigits 10 n.natAbs → c.isDigit = true :=
    Nat.isDigit_of_mem_toDigits (by decide) (by decide)
  rw [toList_repr] at h
  split at h
  · rcases List.mem_cons.mp h with rfl | h
    · exact .inr rfl
    · exact .inl (hdigit h)
  · exact .inl (hdigit h)

theorem toDigits_injective : Function.Injective (Nat.toDigits 10) := by
  intro m n h
  have hm : Nat.ofDigitChars 10 (Nat.toDigits 10 m) 0 = m :=
    Nat.ofDigitChars_toDigits (by decide) (by decide)
  rw [h] at hm
  exact hm.symm.trans (Nat.ofDigitChars_toDigits (by decide) (by decide))

theorem minus_ne_toDigits (l : List Char) (n : ℕ) : '-' :: l ≠ Nat.toDigits 10 n := by
  intro h
  have hmem : '-' ∈ Nat.toDigits 10 n := h ▸ List.mem_cons_self
  have hdigit := Nat.isDigit_of_mem_toDigits (by decide) (by decide) hmem
  exact absurd hdigit (by decide)

/-- **A decimal text determines its integer.** -/
theorem repr_injective : Function.Injective Int.repr := by
  intro m n h
  have hlist : m.repr.toList = n.repr.toList := congrArg String.toList h
  rw [toList_repr, toList_repr] at hlist
  split at hlist
  · split at hlist
    · have := toDigits_injective (List.cons.inj hlist).2
      omega
    · exact absurd hlist (minus_ne_toDigits _ _)
  · split at hlist
    · exact absurd hlist.symm (minus_ne_toDigits _ _)
    · have := toDigits_injective hlist
      omega

/-! ## Separators -/

/-- **A separator that the first part does not contain.** -/
theorem append_cons_inj {α : Type*} {sep : α} {x₁ x₂ z₁ z₂ : List α} (h₁ : sep ∉ x₁) (h₂ : sep ∉ x₂)
    (h : x₁ ++ sep :: z₁ = x₂ ++ sep :: z₂) : x₁ = x₂ ∧ z₁ = z₂ := by
  induction x₁ generalizing x₂ with
  | nil =>
    cases x₂ with
    | nil => exact ⟨rfl, (List.cons.inj h).2⟩
    | cons a x₂ => exact absurd ((List.cons.inj h).1 ▸ List.mem_cons_self) h₂
  | cons a x₁ ih =>
    cases x₂ with
    | nil => exact absurd ((List.cons.inj h).1 ▸ List.mem_cons_self) h₁
    | cons b x₂ =>
      obtain ⟨rfl, htail⟩ := List.cons.inj h
      obtain ⟨rfl, hz⟩ := ih (fun hmem => h₁ (List.mem_cons_of_mem a hmem))
        (fun hmem => h₂ (List.mem_cons_of_mem a hmem)) htail
      exact ⟨rfl, hz⟩

end Text
