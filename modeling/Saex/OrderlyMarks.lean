import Mathlib.Data.List.Basic
import Mathlib.Order.Cover
import Mathlib.Order.UpperLower.Basic

/-! Marks set one after the other along a linear order, each one closed before
the next is set. -/
namespace OrderlyMarks

variable {P : Type*} [LinearOrder P]

/-- The marked places are an initial segment, and only the last may be open. -/
structure Orderly (marked closed : Set P) : Prop where
  initial : IsLowerSet marked
  behind : ∀ p ∈ marked, ∀ q ∈ marked, p < q → p ∈ closed

theorem orderly_empty (closed : Set P) : Orderly (∅ : Set P) closed :=
  ⟨isLowerSet_empty,fun _ hp => hp.elim⟩

/-- The first mark goes to the bottom of the order. -/
theorem orderly_first {b : P} (hb : IsBot b) (closed : Set P) : Orderly {b} closed := by
  refine ⟨?_,?_⟩
  · rintro p q hqp rfl
    exact le_antisymm hqp (hb q)
  · rintro p rfl q rfl hlt
    exact absurd hlt (lt_irrefl _)

theorem Orderly.mono {marked closed closed' : Set P} (h : Orderly marked closed)
    (hc : closed ⊆ closed') : Orderly marked closed' :=
  ⟨h.initial,fun p hp q hq hlt => hc (h.behind p hp q hq hlt)⟩

/-- The mark after the last one is set once the last one is closed. -/
theorem Orderly.advance {marked closed : Set P} {p q : P} (h : Orderly marked closed)
    (hp : IsGreatest marked p) (hc : p ∈ closed) (hpq : p ⋖ q) :
    Orderly (insert q marked) closed := by
  refine ⟨?_,?_⟩
  · rintro r r' hle (rfl | hr)
    · rcases hle.eq_or_lt with rfl | hlt
      · exact Set.mem_insert _ _
      · exact Set.mem_insert_of_mem _ (h.initial (hpq.le_of_lt hlt) hp.1)
    · exact Set.mem_insert_of_mem _ (h.initial hle hr)
  · rintro r (rfl | hr) r' (rfl | hr') hlt
    · exact absurd hlt (lt_irrefl _)
    · exact absurd ((hpq.lt.trans hlt).trans_le (hp.2 hr')) (lt_irrefl _)
    · rcases (hp.2 hr).eq_or_lt with rfl | hrp
      · exact hc
      · exact h.behind r hr p hp.1 hrp
    · exact h.behind r hr r' hr' hlt

/-- A search from the top of the order down finds the last mark. -/
theorem find?_eq_some_iff_isGreatest {places : List P} (hall : ∀ p, p ∈ places)
    (hdown : places.Pairwise (fun p q => q < p)) {f : P → Bool} {p : P} :
    places.find? f = some p ↔ IsGreatest {q | f q = true} p := by
  rw [List.find?_eq_some_iff_append]
  constructor
  · rintro ⟨hp,above,below,rfl,habove⟩
    rw [List.pairwise_append, List.pairwise_cons] at hdown
    refine ⟨hp,?_⟩
    intro r hr
    have hmem := hall r
    rw [List.mem_append, List.mem_cons] at hmem
    rcases hmem with hmem | rfl | hmem
    · have hfree := habove r hmem
      rw [show f r = true from hr] at hfree
      cases hfree
    · exact le_rfl
    · exact (hdown.2.1.1 r hmem).le
  · intro hp
    obtain ⟨above,below,rfl⟩ := List.append_of_mem (hall p)
    rw [List.pairwise_append] at hdown
    refine ⟨hp.1,above,below,rfl,?_⟩
    intro r hr
    have hlt : p < r := hdown.2.2 r hr p List.mem_cons_self
    rw [Bool.not_eq_true']
    by_contra hne
    exact absurd (hp.2 (Bool.eq_true_of_not_eq_false hne)) (not_le_of_gt hlt)

omit [LinearOrder P] in
theorem find?_eq_none_iff_empty {places : List P} (hall : ∀ p, p ∈ places) {f : P → Bool} :
    places.find? f = none ↔ {q | f q = true} = ∅ := by
  rw [List.find?_eq_none, Set.eq_empty_iff_forall_notMem]
  constructor
  · intro h p
    exact h p (hall p)
  · intro h p _
    exact h p

end OrderlyMarks
