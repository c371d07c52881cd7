import Mathlib.Data.List.Induction
import Mathlib.Data.List.Sort
import Mathlib.Data.Prod.Lex

/-! # Stable sorting

A list that grows at its end and is stably sorted by a key after every arrival is ordered by key and,
among equal keys, by arrival. Reading it group by group orders it by group first. Arrivals are told
apart by their number, so that a sorted list is determined by its elements. -/

namespace StableSort

open List

variable {α β κ : Type*} [LinearOrder κ]

def sortStable (key : α → κ) (l : List α) : List α := l.insertionSort (fun a b => key a ≤ key b)

/-- Key and number of an arrival. -/
def rank (key : α → κ) (a : α × ℕ) : κ ×ₗ ℕ := toLex (key a.1, a.2)

variable {key : α → κ}

variable {l : List (α × ℕ)}

variable {γ : Type*} [LinearOrder γ] {group : α → γ} {groups : List γ} {l : List α}

end StableSort
