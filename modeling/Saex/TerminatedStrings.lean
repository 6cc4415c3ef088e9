import Mathlib.Data.List.Basic
import Mathlib.Algebra.GroupWithZero.Nat
import Mathlib.Tactic.Common

/-! Strings put one after the other, each with a terminator behind it. -/
namespace TerminatedStrings

variable {A : Type*} [DecidableEq A] (stop : A)

def join (xs : List (List A)) : List A := xs.flatMap (·++[stop])

/-- The strings up to the first empty one, with what has been read of the next. -/
def split (current : List A) : List A → List (List A)
  | [] => []
  | a :: rest =>
    if a = stop then if current.isEmpty then [] else current :: split [] rest
    else split (current++[a]) rest

/-- A string that can be told apart from the end of the block. -/
def Plain (x : List A) : Prop := x ≠ [] ∧ stop ∉ x

variable {stop}

theorem split_append {current x : List A} (hx : stop ∉ x) (rest : List A) :
    split stop current (x++rest) = split stop (current++x) rest := by
  induction x generalizing current with
  | nil => rw [List.nil_append, List.append_nil]
  | cons a x ih =>
    rw [List.mem_cons, not_or] at hx
    obtain ⟨ha,hx⟩ := hx
    rw [List.cons_append, split, if_neg (Ne.symm ha), ih hx, List.append_assoc,
      List.singleton_append]

/-- Splitting undoes joining, and stops at the terminator that follows. -/
theorem split_join {xs : List (List A)} (h : ∀ x ∈ xs, Plain stop x) (rest : List A) :
    split stop [] (join stop xs++stop :: rest) = xs := by
  induction xs with
  | nil => simp [join, split]
  | cons x xs ih =>
    obtain ⟨⟨hne,hstop⟩,hxs⟩ := List.forall_mem_cons.mp h
    have hx : x.isEmpty = false := by simpa using hne
    have hih := ih hxs
    rw [join] at hih ⊢
    rw [List.flatMap_cons, List.append_assoc, List.append_assoc, split_append hstop,
      List.nil_append, List.singleton_append, split, if_pos rfl, hx, if_neg Bool.false_ne_true, hih]

omit [DecidableEq A] in
theorem length_join (xs : List (List A)) :
    (join stop xs).length = (xs.map fun x => x.length+1).sum := by
  rw [join, List.length_flatMap]
  simp only [List.length_append, List.length_singleton]

end TerminatedStrings
