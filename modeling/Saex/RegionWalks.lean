import Mathlib.Data.List.Range
import Mathlib.Tactic.Common

/-! A walk over a stretch of addresses by queries, each of which answers how far the region
that it is in reaches. An answer that makes no progress ends the walk. -/
namespace RegionWalks

/-- Nonempty stretches that follow on each other from the first address to the last. -/
inductive Consecutive : ℕ → ℕ → List (ℕ × ℕ) → Prop
  | nil (a : ℕ) : Consecutive a a []
  | cons {a b c : ℕ} {xs : List (ℕ × ℕ)} : a < b → Consecutive b c xs → Consecutive a c ((a,b) :: xs)

/-- The `i`-th query is at `low`, and the walk is to reach `high`. -/
def walk (next : ℕ → ℕ → Option ℕ) (high i low : ℕ) : Option (List (ℕ × ℕ)) :=
  if low < high then
    match next i low with
    | none => none
    | some reached =>
      if low < reached then
        (walk next high (i+1) (min high reached)).map ((low,min high reached) :: ·)
      else none
  else some []
termination_by high-low

variable {a b c : ℕ} {xs : List (ℕ × ℕ)}

namespace Consecutive

theorem le (h : Consecutive a c xs) : a ≤ c := by
  induction h with
  | nil => exact le_rfl
  | cons hlt _ ih => exact hlt.le.trans ih

/-- The stretches lie between the two ends, and none is empty. -/
theorem le_fst (h : Consecutive a c xs) : ∀ s ∈ xs, a ≤ s.1 := by
  induction h with
  | nil =>
    intro s hs
    cases hs
  | cons hlt htail ih =>
    intro s hs
    rcases List.mem_cons.mp hs with rfl | hs
    · exact le_rfl
    · exact hlt.le.trans (ih s hs)

theorem ne_nil (h : Consecutive a c xs) (hlt : a < c) : xs ≠ [] := by
  rintro rfl
  cases h
  exact lt_irrefl _ hlt

theorem length_le (h : Consecutive a c xs) : xs.length ≤ c-a := by
  induction h with
  | nil => exact Nat.zero_le _
  | cons hlt htail ih =>
    have hle := htail.le
    rw [List.length_cons]
    omega

/-- The stretches leave no gap. -/
theorem cover (h : Consecutive a c xs) {x : ℕ} (hlow : a ≤ x) (hhigh : x < c) :
    ∃ s ∈ xs, s.1 ≤ x ∧ x < s.2 := by
  induction h with
  | nil => omega
  | @cons a b c xs hlt htail ih =>
    by_cases hx : x < b
    · exact ⟨(a,b),List.mem_cons_self,hlow,hx⟩
    · obtain ⟨s,hs,hin⟩ := ih (not_lt.mp hx) hhigh
      exact ⟨s,List.mem_cons_of_mem _ hs,hin⟩

/-- No address is in two of the stretches. -/
theorem countP_eq_one (h : Consecutive a c xs) {x : ℕ} (hlow : a ≤ x) (hhigh : x < c) :
    xs.countP (fun s => decide (s.1 ≤ x ∧ x < s.2)) = 1 := by
  induction h with
  | nil => omega
  | @cons a b c xs hlt htail ih =>
    rw [List.countP_cons]
    by_cases hx : x < b
    · have hrest : ∀ s ∈ xs, b ≤ s.1 := htail.le_fst
      have hnone : xs.countP (fun s => decide (s.1 ≤ x ∧ x < s.2)) = 0 := by
        rw [List.countP_eq_zero]
        intro s hs
        have hle := hrest s hs
        simp only [decide_eq_true_eq]
        omega
      rw [hnone, if_pos (by simpa using ⟨hlow,hx⟩)]
    · rw [ih (not_lt.mp hx) hhigh, if_neg (by simp [hx])]

theorem isChain (h : Consecutive a c xs) : xs.IsChain fun s t => t.1 = s.2 := by
  induction h with
  | nil => exact .nil
  | cons hlt htail ih =>
    cases htail with
    | nil => exact .singleton _
    | cons hlt' htail' => exact .cons_cons rfl ih

theorem head_fst (h : Consecutive a c xs) {s : ℕ × ℕ} (hs : s ∈ xs.head?) : s.1 = a := by
  cases h with
  | nil => cases hs
  | cons hlt htail =>
    cases hs
    rfl

theorem getLast_snd (h : Consecutive a c xs) {s : ℕ × ℕ} (hs : s ∈ xs.getLast?) : s.2 = c := by
  induction h with
  | nil => cases hs
  | @cons a b c xs hlt htail ih =>
    cases htail with
    | nil =>
      cases hs
      rfl
    | cons hlt' htail' =>
      rw [List.getLast?_cons_cons] at hs
      exact ih hs

/-- Reading stretch by stretch is reading the whole. -/
theorem flatMap_range' {A : Type*} (h : Consecutive a c xs) (f : ℕ → A) :
    xs.flatMap (fun s => (List.range' s.1 (s.2-s.1)).map f) = (List.range' a (c-a)).map f := by
  induction h with
  | nil a => rw [Nat.sub_self]; rfl
  | @cons a b c xs hlt htail ih =>
    have hsplit : c-a = (b-a)+(c-b) := by
      have hle := htail.le
      omega
    rw [List.flatMap_cons, ih, ← List.map_append, hsplit]
    have hrange := @List.range'_append a (b-a) (c-b) 1
    rw [Nat.one_mul, Nat.add_sub_cancel' hlt.le] at hrange
    rw [hrange]

end Consecutive

variable {next : ℕ → ℕ → Option ℕ} {high i low : ℕ}

theorem walk_of_le (h : high ≤ low) : walk next high i low = some [] := by
  rw [walk, if_neg (not_lt.mpr h)]

theorem walk_of_lt (h : low < high) : walk next high i low =
    (next i low).bind fun reached => if low < reached then
      (walk next high (i+1) (min high reached)).map ((low,min high reached) :: ·) else none := by
  rw [walk, if_pos h]
  cases next i low <;> rfl

/-- Induction along the walk. -/
theorem walk_induction {P : ℕ → ℕ → List (ℕ × ℕ) → Prop} (hnil : ∀ i low, high ≤ low → P i low [])
    (hcons : ∀ i low reached xs, low < high → next i low = some reached → low < reached →
      P (i+1) (min high reached) xs → P i low ((low,min high reached) :: xs))
    (h : walk next high i low = some xs) : P i low xs := by
  induction hn : high-low using Nat.strong_induction_on generalizing i low xs with
  | _ n ih =>
    obtain hlt | hle := Nat.lt_or_ge low high
    · rw [walk_of_lt hlt] at h
      obtain ⟨reached,hnext,hrest⟩ := Option.bind_eq_some_iff.mp h
      by_cases hprogress : low < reached
      · rw [if_pos hprogress] at hrest
        obtain ⟨ys,hys,rfl⟩ := Option.map_eq_some_iff.mp hrest
        exact hcons i low reached ys hlt hnext hprogress (ih _ (by omega) hys rfl)
      · rw [if_neg hprogress] at hrest
        cases hrest
    · rw [walk_of_le hle] at h
      cases h
      exact hnil i low hle

theorem walk_consecutive (h : walk next high i low = some xs) (hle : low ≤ high) :
    Consecutive low high xs := by
  refine walk_induction (P := fun _ low xs => low ≤ high → Consecutive low high xs) ?_ ?_ h hle
  · intro _ low hge hle
    rw [le_antisymm hle hge]
    exact .nil high
  · intro _ low reached xs hlt _ hprogress ih _
    exact .cons (by omega) (ih (min_le_left _ _))

/-- Every stretch is part of what one of the queries has answered. -/
theorem walk_answered (h : walk next high i low = some xs) : ∀ s ∈ xs, ∃ j reached,
    i ≤ j ∧ j < i+xs.length ∧ next j s.1 = some reached ∧ s.2 ≤ reached := by
  refine walk_induction (P := fun i _ xs => ∀ s ∈ xs, ∃ j reached,
    i ≤ j ∧ j < i+xs.length ∧ next j s.1 = some reached ∧ s.2 ≤ reached) ?_ ?_ h
  · intro _ _ _ s hs
    cases hs
  · intro i low reached xs _ hnext _ ih s hs
    rw [List.length_cons]
    obtain rfl | hs := List.mem_cons.mp hs
    · exact ⟨i,reached,le_rfl,by omega,hnext,min_le_right _ _⟩
    · obtain ⟨j,reached',hle,hlt,hanswer⟩ := ih s hs
      exact ⟨j,reached',by omega,by omega,hanswer⟩

/-- Where every query is answered with progress, the walk gets through. -/
theorem walk_isSome (h : ∀ j a, low ≤ a → a < high → ∃ reached, next j a = some reached ∧ a < reached) :
    (walk next high i low).isSome := by
  induction hn : high-low using Nat.strong_induction_on generalizing i low with
  | _ n ih =>
    obtain hlt | hle := Nat.lt_or_ge low high
    · obtain ⟨reached,hnext,hprogress⟩ := h i low le_rfl hlt
      rw [walk_of_lt hlt, hnext, Option.bind_some, if_pos hprogress, Option.isSome_map]
      exact ih _ (by omega) (fun j a ha => h j a (by omega)) rfl
    · rw [walk_of_le hle]
      rfl

end RegionWalks
