import Mathlib.Data.List.Forall2
import Mathlib.Data.List.Perm.Basic
import Mathlib.Data.List.ReduceOption
import Mathlib.Tactic.Common

/-! Lists that are the same up to their order and a relation of their elements, and lists of
elements that may be missing. -/
namespace Reorderings

variable {A B C : Type*}

section Related
variable {R : A → B → Prop} {xs : List A} {ys : List B} (h : xs.Forall₂ R ys)
include h

theorem exists_of_forall₂ {x : A} (hx : x ∈ xs) : ∃ y ∈ ys, R x y := by
  induction h with
  | nil => cases hx
  | cons hR _ ih =>
    rcases List.mem_cons.mp hx with rfl | hx
    · exact ⟨_,List.mem_cons_self,hR⟩
    · obtain ⟨y,hy,hR⟩ := ih hx
      exact ⟨y,List.mem_cons_of_mem _ hy,hR⟩

theorem map_eq_of_forall₂ {f : A → C} {g : B → C} (hfg : ∀ x y, R x y → f x = g y) :
    xs.map f = ys.map g := by
  induction h with
  | nil => rfl
  | cons hR _ ih => exact congrArg₂ List.cons (hfg _ _ hR) ih

end Related

/-- The same list up to a permutation and a relation of the elements. -/
def Reordered (R : A → A → Prop) (xs ys : List A) : Prop :=
  ∃ zs, xs.Perm zs ∧ zs.Forall₂ R ys

section Reordered
variable {R : A → A → Prop} {xs ys : List A}

theorem Reordered.symm (hR : ∀ x y, R x y → R y x) (h : Reordered R xs ys) : Reordered R ys xs := by
  obtain ⟨zs,hperm,hall⟩ := h
  have hback : List.Forall₂ R ys zs := hall.flip.imp fun _ _ h => hR _ _ h
  have hcomp : Relation.Comp (List.Forall₂ R) List.Perm ys xs := ⟨zs,hback,hperm.symm⟩
  rw [List.forall₂_comp_perm_eq_perm_comp_forall₂] at hcomp
  exact hcomp

theorem Reordered.exists_of_mem (h : Reordered R xs ys) {x : A} (hx : x ∈ xs) : ∃ y ∈ ys, R x y := by
  obtain ⟨zs,hperm,hall⟩ := h
  exact exists_of_forall₂ hall (hperm.mem_iff.mp hx)

theorem Reordered.map_perm (h : Reordered R xs ys) {f : A → B}
    (hf : ∀ x y, R x y → f x = f y) : (xs.map f).Perm (ys.map f) := by
  obtain ⟨zs,hperm,hall⟩ := h
  exact map_eq_of_forall₂ hall hf ▸ hperm.map f

theorem Reordered.length_eq (h : Reordered R xs ys) : xs.length = ys.length := by
  obtain ⟨zs,hperm,hall⟩ := h
  exact hperm.length_eq.trans hall.length_eq

/-- A list without nulls is made of its definitions. -/
theorem eq_map_some_iff {xs : List (Option A)} {ys : List A} :
    xs = ys.map some ↔ ¬xs.any Option.isNone ∧ ys = xs.reduceOption := by
  induction xs generalizing ys with
  | nil =>
    rw [eq_comm, List.map_eq_nil_iff]
    simp
  | cons x xs ih =>
    cases x with
    | none => cases ys <;> simp
    | some a =>
      cases ys with
      | nil => simp [List.reduceOption_cons_of_some]
      | cons y ys =>
        rw [List.map_cons, List.cons.injEq, Option.some.injEq, ih, List.reduceOption_cons_of_some,
          List.cons.injEq, List.any_cons, Option.isNone_some, Bool.false_or, eq_comm (a := a)]
        tauto

theorem exists_of_forall₂_some {xs : List A} {ys : List (Option A)}
    (h : List.Forall₂ (Option.Rel R) (xs.map some) ys) :
    ∃ ys', ys = ys'.map some ∧ List.Forall₂ R xs ys' := by
  induction xs generalizing ys with
  | nil =>
    cases h
    exact ⟨[],rfl,.nil⟩
  | cons x xs ih =>
    rw [List.map_cons] at h
    cases h with
    | cons hR hrest =>
      cases hR with
      | some hR =>
        obtain ⟨ys',rfl,hall⟩ := ih hrest
        exact ⟨_ :: ys',rfl,.cons hR hall⟩

/-- Without nulls on one side there are none on the other. -/
theorem Reordered.of_some {ys : List (Option A)} (h : Reordered (Option.Rel R) (xs.map some) ys) :
    ∃ ys', ys = ys'.map some ∧ Reordered R xs ys' := by
  obtain ⟨zs,hperm,hall⟩ := h
  have hnone : ¬zs.any Option.isNone := by
    rw [List.any_eq_true]
    rintro ⟨o,ho,hnull⟩
    obtain ⟨a,_,rfl⟩ := List.mem_map.mp (hperm.mem_iff.mpr ho)
    cases hnull
  have hzs : zs = zs.reduceOption.map some := eq_map_some_iff.mpr ⟨hnone,rfl⟩
  rw [hzs] at hperm hall
  obtain ⟨ys',hys,hall⟩ := exists_of_forall₂_some hall
  exact ⟨ys',hys,_,(List.map_perm_map_iff (fun _ _ => Option.some.inj)).mp hperm,hall⟩

theorem optionRel_symm (hR : ∀ x y, R x y → R y x) (x y : Option A)
    (h : Option.Rel R x y) : Option.Rel R y x := by
  cases h with
  | some h => exact .some (hR _ _ h)
  | none => exact .none

end Reordered
end Reorderings
