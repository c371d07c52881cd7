import Sgate.Lib.KeyMap

/-! # Indexes that name an owner

Owners have at most one key each, and an index names one owner for a key. It is right (`KeyMap.Owned`) if
an entry names an owner that has the key and got it last, and an owner that got its key last and still
has it is the one named. -/

namespace KeyMap

variable {ι κ : Type*} {attr : KeyMap ι κ} {index last : KeyMap κ ι}

/-- **The index is right** for the keys the owners have and for who got each key last. -/
structure Owned (attr : KeyMap ι κ) (index last : KeyMap κ ι) : Prop where
  holder : ∀ k c, index k = some c → attr c = some k
  found : ∀ k c, attr c = some k → last k = some c → index k = some c
  latest : ∀ k c, index k = some c → last k = some c

theorem owned_empty : Owned (empty : KeyMap ι κ) (empty : KeyMap κ ι) empty where
  holder _ _ h := nomatch h
  found _ _ h := nomatch h
  latest _ _ h := nomatch h

variable {k : κ} {c d : ι}

/-- An owner that was followed by another under a key is not named for it. -/
theorem Owned.ne_of_superseded (h : Owned attr index last) (hlast : last k = some d) (hne : d ≠ c) :
    index k ≠ some c := by
  intro hindex
  rw [h.latest k c hindex] at hlast
  exact hne (Option.some.inj hlast).symm

variable {c : ι}

/-- **An owner gets a key unnoticed**: the index does not name it, and it was not the last to get the
key. -/
theorem Owned.rekey {attr' : KeyMap ι κ} (h : Owned attr index last)
    (hattr : ∀ d, d ≠ c → attr' d = attr d) (hindex : ∀ k, index k ≠ some c)
    (hlast : ∀ k, attr' c = some k → last k ≠ some c) : Owned attr' index last where
  holder k d hk := by
    have hne : d ≠ c := by
      rintro rfl
      exact hindex k hk
    rw [hattr d hne]
    exact h.holder k d hk
  found k d hd hl := by
    have hne : d ≠ c := by
      rintro rfl
      exact hlast k hd hl
    exact h.found k d (hattr d hne ▸ hd) hl
  latest := h.latest

variable [DecidableEq ι]

/-- The index without the entries of an owner. -/
def disown (index : KeyMap κ ι) (c : ι) : KeyMap κ ι := fun k =>
  if index k = some c then none else index k

theorem disown_eq_some : index.disown c k = some d ↔ index k = some d ∧ d ≠ c := by
  unfold disown
  split
  · rename_i hk
    rw [hk]
    simp only [reduceCtorEq, Option.some.injEq, false_iff, not_and, not_not]
    exact fun hd => hd.symm
  · rename_i hk
    refine ⟨fun hd => ⟨hd, ?_⟩, fun hd => hd.1⟩
    rintro rfl
    exact hk hd

/-- An owner without a key has no entry. -/
theorem Owned.disown_of_none (h : Owned attr index last) (hc : attr c = none) :
    index.disown c = index := by
  funext j
  unfold disown
  split
  · rename_i hj
    have hattr := h.holder j c hj
    rw [hc] at hattr
    cases hattr
  · rfl

/-- **An owner goes** together with its entry. -/
theorem Owned.drop (h : Owned attr index last) (c : ι) :
    Owned (attr.delete c) (index.disown c) last where
  holder k d hk := by
    obtain ⟨hk, hne⟩ := disown_eq_some.mp hk
    rw [delete_of_ne _ hne]
    exact h.holder k d hk
  found k d hd hlast := by
    rw [delete_apply] at hd
    split at hd
    · cases hd
    · rename_i hne
      exact disown_eq_some.mpr ⟨h.found k d hd hlast, hne⟩
  latest k d hk := h.latest k d (disown_eq_some.mp hk).1

variable [DecidableEq κ]

/-- **An owner gets a key**, and loses its entry under another one. -/
theorem Owned.give (h : Owned attr index last) (c : ι) (k : κ) :
    Owned (attr.store c k) ((index.disown c).store k c) (last.store k c) where
  holder := by
    apply forall_store
    · exact store_self attr c k
    · intro j d _ hj
      obtain ⟨hj, hne⟩ := disown_eq_some.mp hj
      rw [store_of_ne _ _ hne]
      exact h.holder j d hj
  found j d hd hlast := by
    rw [store_apply] at hlast ⊢
    split
    · rename_i hjk
      rwa [if_pos hjk] at hlast
    · rename_i hjk
      rw [if_neg hjk] at hlast
      rw [store_apply] at hd
      split at hd
      · -- the owner of the new key got its other keys before
        exact absurd (Option.some.inj hd).symm hjk
      · rename_i hne
        exact disown_eq_some.mpr ⟨h.found j d hd hlast, hne⟩
  latest := by
    apply forall_store
    · exact store_self last k c
    · intro j d hjk hj
      rw [store_of_ne _ _ hjk]
      exact h.latest j d (disown_eq_some.mp hj).1

/-- The only entry an owner can have is that of its key. -/
theorem Owned.disown_eq (h : Owned attr index last) (hc : attr c = some k) :
    index.disown c = index.deleteIf k c := by
  funext j
  unfold disown
  rw [deleteIf_apply]
  by_cases hj : index j = some c
  · have hjk : j = k := by
      have hattr := h.holder j c hj
      rw [hc] at hattr
      exact (Option.some.inj hattr).symm
    rw [if_pos hj, if_pos ⟨hjk, hjk ▸ hj⟩]
  · rw [if_neg hj, if_neg]
    rintro ⟨rfl, hk⟩
    exact hj hk

end KeyMap
