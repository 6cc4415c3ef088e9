import Mathlib.Algebra.Ring.Nat
import Saex.Transitions

/-! An ideal bounded queue: items with natural weights, taken out in the order
they were let in. Nothing here knows about machine words. -/
namespace BoundedFifo
open Transitions

variable {α : Type*}

structure Fifo (α : Type*) where
  queue : List α := []
  shut : Bool := false

structure Limits (α : Type*) where
  fit : α → Bool
  weight : α → ℕ
  maxItems : ℕ
  maxWeight : ℕ

inductive Verdict
  | admitted | shut | unfit | full | heavy
deriving DecidableEq

inductive Call (α : Type*)
  | offer (x : α)
  | take
  | shut

inductive Answer (α : Type*)
  | offered (v : Verdict)
  | taken (x : Option α)
  | done

abbrev FifoVisit (α : Type*) := Visit (Fifo α) (Call α) (Answer α)

def load (l : Limits α) (queue : List α) : ℕ := (queue.map l.weight).sum

/-- The first reason to turn an item away, in a fixed order. -/
def verdict (l : Limits α) (f : Fifo α) (x : α) : Verdict :=
  if f.shut then .shut
  else if !l.fit x then .unfit
  else if l.maxItems ≤ f.queue.length then .full
  else if l.maxWeight < load l f.queue+l.weight x then .heavy
  else .admitted

def step (l : Limits α) (f : Fifo α) : Call α → Fifo α × Answer α
  | .offer x =>
    (if verdict l f x = .admitted then { f with queue := f.queue ++ [x] } else f,
      .offered (verdict l f x))
  | .take => match f.queue with
    | [] => (f,.taken none)
    | x :: rest => ({ f with queue := rest },.taken (some x))
  | .shut => ({ f with shut := true },.done)

theorem verdict_admitted_iff (l : Limits α) (f : Fifo α) (x : α) : verdict l f x = .admitted ↔
    f.shut = false ∧ l.fit x = true ∧ f.queue.length < l.maxItems ∧
      load l f.queue+l.weight x ≤ l.maxWeight := by
  unfold verdict
  split_ifs with hs hf hi hw
  · simp [hs]
  · simp_all
  · simp [Nat.not_lt.mpr hi]
  · simp [Nat.not_le.mpr hw]
  · simp_all

theorem load_concat (l : Limits α) (queue : List α) (x : α) :
    load l (queue ++ [x]) = load l queue+l.weight x := by
  simp only [load, List.map_append, List.sum_append, List.map_cons, List.map_nil, List.sum_cons,
    List.sum_nil, Nat.add_zero]

theorem load_cons (l : Limits α) (x : α) (queue : List α) :
    load l (x :: queue) = l.weight x+load l queue := by
  simp only [load, List.map_cons, List.sum_cons]

def admittedItem (v : FifoVisit α) : Option α :=
  match v.call, v.answer with
  | .offer x, .offered .admitted => some x
  | _, _ => none

def takenItem (v : FifoVisit α) : Option α :=
  match v.answer with
  | .taken x => x
  | _ => none

theorem conservation_step (l : Limits α) (h : List (FifoVisit α))
    (f : Fifo α) (c : Call α) (hc : h.filterMap takenItem ++ f.queue = h.filterMap admittedItem) :
    (h ++ [(⟨f,c,(step l f c).2⟩ : FifoVisit α)]).filterMap takenItem ++ (step l f c).1.queue =
      (h ++ [(⟨f,c,(step l f c).2⟩ : FifoVisit α)]).filterMap admittedItem := by
  rw [List.filterMap_append, List.filterMap_append, ← hc]
  cases c with
  | offer x =>
    by_cases hv : verdict l f x = .admitted
    · simp [step, hv, takenItem, admittedItem]
    · simp [step, hv, takenItem, admittedItem]
  | take =>
    cases hq : f.queue with
    | nil =>
      simp only [step, hq, List.append_nil]
      rfl
    | cons x rest => simp [step, hq, takenItem, admittedItem]
  | shut =>
    simp only [step, List.append_assoc, List.append_right_inj]
    exact (List.append_nil f.queue).symm

/-- What was taken, followed by what is queued, is what was admitted. -/
theorem conservation (l : Limits α) (calls : List (Call α)) :
    (history (step l) {} calls).filterMap takenItem ++ (run (step l) {} calls).queue =
      (history (step l) {} calls).filterMap admittedItem :=
  history_invariant (step l)
    (fun h f => h.filterMap takenItem ++ f.queue = h.filterMap admittedItem)
    (conservation_step l) {} rfl calls

end BoundedFifo
