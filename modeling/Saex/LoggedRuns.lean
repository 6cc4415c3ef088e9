import Mathlib.Data.List.Forall2
import Mathlib.Tactic.Common

/-! Fallible computations that keep a log of what they do: what a run that returns consists
of, and what it leaves in the log. -/
namespace LoggedRuns

universe u
variable {L E : Type} {A B : Type}

abbrev Logged (L E : Type) := StateT (List L) (Except E)

def require (c : Bool) (e : E) : Logged L E Unit := if c then pure () else throw e

def record (l : L) : Logged L E Unit := modify (·++[l])

/-! Runs that return. -/
section Returns
variable {x : Logged L E A} {f : A → Logged L E B} {s : List L}

theorem bind_ok_iff {r : B × List L} :
    (x >>= f) s = .ok r ↔ ∃ a s', x s = .ok (a,s') ∧ f a s' = .ok r := by
  change (x s >>= fun p => f p.1 p.2) = .ok r ↔ _
  cases hx : x s with
  | error e =>
    refine iff_of_false (fun h => by cases h) ?_
    rintro ⟨_,_,h,-⟩
    cases h
  | ok p =>
    constructor
    · exact fun h => ⟨p.1,p.2,rfl,h⟩
    · rintro ⟨a,s',h,hf⟩
      cases h
      exact hf

theorem pure_ok_iff {a : A} {r : A × List L} : (pure a : Logged L E A) s = .ok r ↔ r = (a,s) :=
  ⟨fun h => (Except.ok.inj h).symm,fun h => congrArg Except.ok h.symm⟩

theorem throw_ne_ok {e : E} {r : A × List L} : (throw e : Logged L E A) s ≠ .ok r :=
  fun h => by cases h

theorem require_ok_iff {c : Bool} {e : E} {r : Unit × List L} :
    (require c e : Logged L E Unit) s = .ok r ↔ c = true ∧ r = ((),s) := by
  unfold require
  split
  · rename_i hc
    rw [pure_ok_iff, and_iff_right hc]
  · rename_i hc
    exact iff_of_false throw_ne_ok fun h => hc h.1

theorem record_ok_iff {l : L} {r : Unit × List L} :
    (record l : Logged L E Unit) s = .ok r ↔ r = ((),s++[l]) :=
  ⟨fun h => (Except.ok.inj h).symm,fun h => congrArg Except.ok h.symm⟩

theorem liftM_ok_iff {y : Except E A} {r : A × List L} :
    (liftM y : Logged L E A) s = .ok r ↔ y = .ok r.1 ∧ r.2 = s := by
  obtain ⟨a,s'⟩ := r
  cases y with
  | error e => exact iff_of_false (fun h => by cases h) fun h => by cases h.1
  | ok b =>
    constructor
    · intro h
      cases h
      exact ⟨rfl,rfl⟩
    · rintro ⟨h,rfl⟩
      cases h
      rfl

theorem bind_liftM_ok_iff {y : Except E A} {r : B × List L} :
    ((liftM y : Logged L E A) >>= f) s = .ok r ↔ ∃ a, y = .ok a ∧ f a s = .ok r := by
  rw [bind_ok_iff]
  simp only [liftM_ok_iff]
  constructor
  · rintro ⟨a,_,⟨hy,rfl⟩,hf⟩
    exact ⟨a,hy,hf⟩
  · rintro ⟨a,hy,hf⟩
    exact ⟨a,s,⟨hy,rfl⟩,hf⟩

theorem bind_require_ok_iff {c : Bool} {e : E} {g : Unit → Logged L E B} {r : B × List L} :
    (require c e >>= g) s = .ok r ↔ c = true ∧ g () s = .ok r := by
  rw [bind_ok_iff]
  simp only [require_ok_iff]
  constructor
  · rintro ⟨_,_,⟨hc,heq⟩,hg⟩
    cases heq
    exact ⟨hc,hg⟩
  · rintro ⟨hc,hg⟩
    exact ⟨(),s,⟨hc,rfl⟩,hg⟩

theorem bind_record_ok_iff {l : L} {g : Unit → Logged L E B} {r : B × List L} :
    (record l >>= g) s = .ok r ↔ g () (s++[l]) = .ok r := by
  rw [bind_ok_iff]
  simp only [record_ok_iff]
  constructor
  · rintro ⟨_,_,heq,hg⟩
    cases heq
    exact hg
  · exact fun hg => ⟨(),_,rfl,hg⟩

/-- Each value of a list of computations is what its computation returned. -/
theorem mapM_ok {f : A → Logged L E B} {xs : List A} {ys : List B} {s' : List L}
    (h : xs.mapM f s = .ok (ys,s')) :
    xs.Forall₂ (fun x y => ∃ s s', f x s = .ok (y,s')) ys := by
  induction xs generalizing s ys with
  | nil =>
    cases pure_ok_iff.mp h
    exact .nil
  | cons x xs ih =>
    rw [List.mapM_cons] at h
    obtain ⟨y,s₁,hy,h⟩ := bind_ok_iff.mp h
    obtain ⟨zs,s₂,hzs,h⟩ := bind_ok_iff.mp h
    cases pure_ok_iff.mp h
    exact .cons ⟨s,s₁,hy⟩ (ih hzs)

end Returns

/-! What all entries of a log have in common. -/

/-- A run that returns only logs what satisfies the predicate. -/
def Logs (P : L → Prop) (x : Logged L E A) : Prop :=
  ∀ s a s', x s = .ok (a,s') → (∀ l ∈ s, P l) → ∀ l ∈ s', P l

namespace Logs
variable {P : L → Prop}

theorem bind {x : Logged L E A} {f : A → Logged L E B} (hx : Logs P x) (hf : ∀ a, Logs P (f a)) :
    Logs P (x >>= f) := by
  intro s b s' h hs
  obtain ⟨a,s₁,hxs,hfs⟩ := bind_ok_iff.mp h
  exact hf a s₁ b s' hfs (hx s a s₁ hxs hs)

theorem pure (a : A) : Logs P (pure a : Logged L E A) := by
  intro s b s' h hs
  cases pure_ok_iff.mp h
  exact hs

theorem throw (e : E) : Logs P (throw e : Logged L E A) := fun _ _ _ h => absurd h throw_ne_ok

theorem require (c : Bool) (e : E) : Logs P (LoggedRuns.require c e : Logged L E Unit) := by
  intro s b s' h hs
  cases (require_ok_iff.mp h).2
  exact hs

theorem liftM (y : Except E A) : Logs P (liftM y : Logged L E A) := by
  intro s b s' h hs
  obtain ⟨_,rfl⟩ := liftM_ok_iff.mp h
  exact hs

theorem mapM {f : A → Logged L E B} (hf : ∀ a, Logs P (f a)) (xs : List A) :
    Logs P (xs.mapM f) := by
  induction xs with
  | nil => exact pure []
  | cons x xs ih =>
    rw [List.mapM_cons]
    exact bind (hf x) fun y => bind ih fun ys => pure (y :: ys)

end Logs
end LoggedRuns
