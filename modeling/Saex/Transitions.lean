import Mathlib.Data.List.Induction
import Mathlib.Tactic.Common

/-! Runs of a deterministic machine that answers every call it receives, and
the rules that lift a fact about one step to a fact about a whole run. -/
namespace Transitions

variable {S T C D R Q : Type*}

/-- One call of a run: the state it found, the call itself and its answer. -/
structure Visit (S C R : Type*) where
  before : S
  call : C
  answer : R

def run (step : S → C → S × R) (s : S) (calls : List C) : S :=
  calls.foldl (fun s c => (step s c).1) s

def history (step : S → C → S × R) : S → List C → List (Visit S C R)
  | _, [] => []
  | s, c :: cs => ⟨s,c,(step s c).2⟩ :: history step (step s c).1 cs

def answers (step : S → C → S × R) (s : S) (calls : List C) : List R :=
  (history step s calls).map Visit.answer

section Runs
variable (step : S → C → S × R)

@[simp] theorem run_nil (s : S) : run step s [] = s := rfl

@[simp] theorem run_cons (s : S) (c : C) (cs : List C) :
    run step s (c :: cs) = run step (step s c).1 cs := rfl

theorem run_append (s : S) (cs ds : List C) :
    run step s (cs ++ ds) = run step (run step s cs) ds :=
  List.foldl_append

@[simp] theorem history_nil (s : S) : history step s [] = [] := rfl

@[simp] theorem history_cons (s : S) (c : C) (cs : List C) :
    history step s (c :: cs) = ⟨s,c,(step s c).2⟩ :: history step (step s c).1 cs := rfl

theorem history_append (s : S) (cs ds : List C) :
    history step s (cs ++ ds) = history step s cs ++ history step (run step s cs) ds := by
  induction cs generalizing s with
  | nil => rfl
  | cons c cs ih => simp only [List.cons_append, history_cons, run_cons, ih]

theorem history_concat (s : S) (cs : List C) (c : C) :
    history step s (cs ++ [c]) =
      history step s cs ++ [⟨run step s cs,c,(step (run step s cs) c).2⟩] :=
  history_append step s cs [c]

/-- A history split at a visit is the history of a split run. -/
theorem history_split (s : S) (cs : List C) (older newer : List (Visit S C R)) (v : Visit S C R)
    (h : history step s cs = older ++ v :: newer) :
    ∃ pre post, cs = pre ++ v.call :: post ∧ history step s pre = older ∧
      v = ⟨run step s pre,v.call,(step (run step s pre) v.call).2⟩ ∧
      newer = history step (step (run step s pre) v.call).1 post := by
  induction older generalizing s cs with
  | nil =>
    cases cs with
    | nil => cases h
    | cons c cs =>
      obtain ⟨rfl,rfl⟩ := List.cons.inj h
      exact ⟨[],cs,rfl,rfl,rfl,rfl⟩
  | cons w older ih =>
    cases cs with
    | nil => cases h
    | cons c cs =>
      obtain ⟨rfl,ht⟩ := List.cons.inj h
      obtain ⟨pre,post,hc,ho,hv,hn⟩ := ih _ _ ht
      refine ⟨c :: pre,post,?_,?_,hv,hn⟩
      · rw [hc, List.cons_append]
      · rw [history_cons, ho]

/-- What holds at the start and survives one step holds after every run. -/
theorem run_invariant (I : S → Prop) (hstep : ∀ s c, I s → I (step s c).1)
    (s : S) (hs : I s) (cs : List C) : I (run step s cs) := by
  induction cs generalizing s with
  | nil => exact hs
  | cons c cs ih => exact ih _ (hstep s c hs)

/-- A law between the past and the present state needs only be kept by one
call added at the end of the past. -/
theorem history_invariant (P : List (Visit S C R) → S → Prop)
    (hstep : ∀ h s c, P h s → P (h ++ [⟨s,c,(step s c).2⟩]) (step s c).1)
    (s : S) (hs : P [] s) (cs : List C) : P (history step s cs) (run step s cs) := by
  induction cs using List.reverseRecOn with
  | nil => exact hs
  | append_singleton cs c ih =>
    rw [history_concat, run_append]
    exact hstep _ _ _ ih

end Runs

/-- A relation between the states of two machines under which corresponding
calls get corresponding answers, and which they keep, makes all answers of two
corresponding runs correspond. -/
theorem simulation {step : S → C → S × R} {step' : T → D → T × Q} (call : C → D) (answer : Q → R)
    (Rel : S → T → Prop) (hstep : ∀ s t c, Rel s t →
      (step s c).2 = answer (step' t (call c)).2 ∧ Rel (step s c).1 (step' t (call c)).1)
    (s : S) (t : T) (h : Rel s t) (cs : List C) :
    answers step s cs = (answers step' t (cs.map call)).map answer ∧
      Rel (run step s cs) (run step' t (cs.map call)) := by
  induction cs generalizing s t with
  | nil => exact ⟨rfl,h⟩
  | cons c cs ih =>
    obtain ⟨ha,hr⟩ := hstep s t c h
    obtain ⟨hi,hj⟩ := ih _ _ hr
    refine ⟨?_,hj⟩
    simp only [answers, history_cons, List.map_cons] at hi ⊢
    rw [ha, hi]

/-- Observations that read alike off corresponding visits read alike off the
histories of two corresponding runs. -/
theorem simulation_observe {O : Type*} {step : S → C → S × R} {step' : T → D → T × Q}
    (call : C → D) (answer : Q → R) (Rel : S → T → Prop) (hstep : ∀ s t c, Rel s t →
      (step s c).2 = answer (step' t (call c)).2 ∧ Rel (step s c).1 (step' t (call c)).1)
    (f : Visit S C R → Option O) (g : Visit T D Q → Option O)
    (hfg : ∀ v v', v'.call = call v.call → v.answer = answer v'.answer → f v = g v')
    (s : S) (t : T) (h : Rel s t) (cs : List C) :
    (history step s cs).filterMap f = (history step' t (cs.map call)).filterMap g := by
  induction cs generalizing s t with
  | nil => rfl
  | cons c cs ih =>
    obtain ⟨ha,hr⟩ := hstep s t c h
    simp only [history_cons, List.map_cons, List.filterMap_cons, ih _ _ hr]
    rw [hfg ⟨s,c,(step s c).2⟩ ⟨t,call c,(step' t (call c)).2⟩ rfl ha]

/-- A history with some of the visits that `drop` allows to drop taken out. -/
inductive Thinned (drop : Visit S C R → Prop) : List (Visit S C R) → List (Visit S C R) → Prop
  | nil : Thinned drop [] []
  | keep (v : Visit S C R) {h kept : List (Visit S C R)} (ht : Thinned drop h kept) :
      Thinned drop (v :: h) (v :: kept)
  | drop (v : Visit S C R) {h kept : List (Visit S C R)} (hv : drop v) (ht : Thinned drop h kept) :
      Thinned drop (v :: h) kept

/-- Unwinding: a relation between the full run, with what is still to come of
it, and the thinned one. Kept calls answer alike on both sides and keep it;
dropped calls move the full run only, and keep it too. -/
theorem unwinding {step : S → C → S × R} {drop : Visit S C R → Prop}
    (Rel : List (Visit S C R) → S → S → Prop)
    (hkeep : ∀ s t c rest, Rel (⟨s,c,(step s c).2⟩ :: rest) s t →
      (step s c).2 = (step t c).2 ∧ Rel rest (step s c).1 (step t c).1)
    (hdrop : ∀ s t c rest, drop ⟨s,c,(step s c).2⟩ → Rel (⟨s,c,(step s c).2⟩ :: rest) s t →
      Rel rest (step s c).1 t)
    (s t : S) (cs : List C) (h : Rel (history step s cs) s t) (kept : List (Visit S C R))
    (hk : Thinned drop (history step s cs) kept) :
    answers step t (kept.map Visit.call) = kept.map Visit.answer := by
  induction cs generalizing s t kept with
  | nil =>
    cases hk
    rfl
  | cons c cs ih =>
    rw [history_cons] at h hk
    cases hk with
    | keep _ hk =>
      obtain ⟨ha,hr⟩ := hkeep s t c _ h
      have hi := ih _ _ hr _ hk
      simp only [answers] at hi
      simp only [List.map_cons, answers, history_cons, ha, hi]
    | drop _ hv hk => exact ih _ _ (hdrop s t c _ hv h) kept hk

end Transitions
