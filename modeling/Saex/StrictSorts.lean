import Mathlib.Data.List.Sort
import Mathlib.Tactic.Common

/-! Sorting by a strict weak order, as the C++ library promises it, and the lists it
sorts without ties: comparing neighbours is enough to see that there are none, and then
the order is the only one. -/
namespace StrictSorts

variable {A : Type*}

structure StrictWeak (less : A → A → Prop) : Prop where
  irrefl : ∀ a, ¬less a a
  trans : ∀ a b c, less a b → less b c → less a c
  gap : ∀ a b c, ¬less a b → ¬less b c → ¬less a c

theorem StrictWeak.asymm {less : A → A → Prop} (h : StrictWeak less) {a b : A} (hab : less a b) :
    ¬less b a :=
  fun hba => h.irrefl a (h.trans a b a hab hba)

/-- Nothing stands after what is greater. -/
def Sorted (less : A → A → Prop) (xs : List A) : Prop := xs.Pairwise fun a b => ¬less b a

/-- A sort that does what it promises, for every strict weak order. -/
structure Sorts (sort : (A → A → Bool) → List A → List A) : Prop where
  perm : ∀ less xs, StrictWeak (less · ·) → (sort less xs).Perm xs
  sorted : ∀ less xs, StrictWeak (less · ·) → Sorted (less · ·) (sort less xs)

/-- The stable sort is one. -/
theorem sorts_mergeSort : Sorts fun (less : A → A → Bool) xs => xs.mergeSort fun a b => !less b a where
  perm _ xs _ := List.mergeSort_perm xs _
  sorted less xs h := by
    refine (List.pairwise_mergeSort (fun a b c hab hbc => ?_) (fun a b => ?_) xs).imp ?_
    · have hgap := h.gap c b a
      simp_all
    · by_cases hab : less a b
      · simp [h.asymm hab]
      · simp [hab]
    · intro a b hab
      simpa using hab

variable {less : A → A → Prop} (h : StrictWeak less)
include h

theorem isChain_iff_pairwise {xs : List A} : xs.IsChain less ↔ xs.Pairwise less := by
  have htrans : Trans less less less := ⟨fun {a b c} hab hbc => h.trans a b c hab hbc⟩
  exact List.isChain_iff_pairwise

/-- A sorted list whose neighbours are strictly ordered has no ties at all. -/
theorem isChain_iff_no_ties {xs : List A} (hs : Sorted less xs) :
    xs.IsChain less ↔ xs.Pairwise fun a b => less a b ∨ less b a := by
  rw [isChain_iff_pairwise h]
  constructor
  · exact List.Pairwise.imp .inl
  · intro hties
    exact (hties.and hs).imp fun ⟨hor,hnot⟩ => hor.resolve_right hnot

/-- Two orders of the same elements without ties are one. -/
theorem eq_of_perm {xs ys : List A} (hx : xs.Pairwise less) (hy : ys.Pairwise less)
    (hp : xs.Perm ys) : xs = ys :=
  hp.eq_of_pairwise (fun _ _ _ _ hab hba => absurd hba (h.asymm hab)) hx hy

end StrictSorts
