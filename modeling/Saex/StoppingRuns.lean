import Mathlib.Data.List.Induction
import Mathlib.Tactic.Common

/-! Runs of a machine each step of which goes on with a new state or stops the
run with a reason. -/
namespace StoppingRuns

universe u
variable {S E I : Type*} {A B : Type u}

/-- A sequence of two computations succeeds when both do. -/
theorem bind_ok_iff {x : Except E A} {f : A → Except E B} {b : B} :
    (x >>= f) = .ok b ↔ ∃ a, x = .ok a ∧ f a = .ok b := by
  constructor
  · intro h
    cases x with
    | error e => cases h
    | ok a => exact ⟨a,rfl,h⟩
  · rintro ⟨a,rfl,h⟩
    exact h

/-- It stops where the first stops, or where the second does. -/
theorem bind_error_iff {x : Except E A} {f : A → Except E B} {e : E} :
    (x >>= f) = .error e ↔ x = .error e ∨ ∃ a, x = .ok a ∧ f a = .error e := by
  constructor
  · intro h
    cases x with
    | error e' =>
      cases h
      exact .inl rfl
    | ok a => exact .inr ⟨a,rfl,h⟩
  · rintro (rfl | ⟨a,rfl,h⟩)
    · rfl
    · exact h

def run (step : S → I → Except E S) (s : S) (inputs : List I) : Except E S :=
  inputs.foldlM step s

variable (step : S → I → Except E S)

@[simp] theorem run_nil (s : S) : run step s [] = .ok s := rfl

theorem run_cons (s : S) (i : I) (inputs : List I) :
    run step s (i :: inputs) = step s i >>= fun s' => run step s' inputs := rfl

theorem run_append (s : S) (past rest : List I) :
    run step s (past ++ rest) = run step s past >>= fun s' => run step s' rest :=
  List.foldlM_append

theorem run_concat (s : S) (past : List I) (i : I) :
    run step s (past ++ [i]) = run step s past >>= fun s' => step s' i := by
  rw [run_append]
  congr
  funext s'
  exact bind_pure (step s' i)

/-- A law between the inputs taken and the state reached needs only be kept by
a step that goes on. -/
theorem run_ok_invariant {step : S → I → Except E S} (P : List I → S → Prop)
    (hstep : ∀ past s i s', P past s → step s i = .ok s' → P (past ++ [i]) s')
    {s : S} (hs : P [] s) (inputs : List I) {s' : S} (h : run step s inputs = .ok s') :
    P inputs s' := by
  induction inputs using List.reverseRecOn generalizing s' with
  | nil =>
    cases h
    exact hs
  | append_singleton past i ih =>
    rw [run_concat, bind_ok_iff] at h
    obtain ⟨m,hm,hi⟩ := h
    exact hstep past m i s' (ih hm) hi

/-- A run that stops does so in one step, from a state it reached. -/
theorem run_error {s : S} {inputs : List I} {e : E} (h : run step s inputs = .error e) :
    ∃ past i rest m, inputs = past ++ i :: rest ∧ run step s past = .ok m ∧
      step m i = .error e := by
  induction inputs generalizing s with
  | nil => cases h
  | cons i rest ih =>
    rw [run_cons, bind_error_iff] at h
    rcases h with h | ⟨m,hm,h⟩
    · exact ⟨[],i,rest,s,rfl,rfl,h⟩
    · obtain ⟨past,j,tail,m',rfl,hr,hj⟩ := ih h
      refine ⟨i :: past,j,tail,m',rfl,?_,hj⟩
      rw [run_cons, hm]
      exact hr

/-- A reason no step gives from a state under the invariant is never given. -/
theorem run_never {step : S → I → Except E S} (P : List I → S → Prop) (e : E)
    (hstep : ∀ past s i s', P past s → step s i = .ok s' → P (past ++ [i]) s')
    (hnot : ∀ past s i, P past s → step s i ≠ .error e)
    {s : S} (hs : P [] s) (inputs : List I) : run step s inputs ≠ .error e := by
  intro h
  obtain ⟨past,i,rest,m,_,hm,hi⟩ := run_error step h
  exact hnot past m i (run_ok_invariant P hstep hs past hm) hi

end StoppingRuns
