import Mathlib.Logic.Function.Basic
import Saex.LoaderPhases
import Saex.OrderlyMarks

/-! What the fifteen checkpoints are for, apart from the debug loop: a linear
automaton that walks through the stages of one checkpoint after the other. -/
namespace Saex
open OrderlyMarks

/-- What is known of one checkpoint. -/
structure Mark where
  armed : Bool := false
  stage : ℕ := 0
  stopAddress : BitVec 32 := 0
  verified : Bool := false

abbrev Marks := Phase → Mark

namespace Marks
variable {supplied : Spec → Bool} {skips : Bool} {m m' : Marks} {p q : Phase}

def armed (m : Marks) : Set Phase := {p | (m p).armed = true}

def verified (m : Marks) : Set Phase := {p | (m p).verified = true}

def arm (m : Marks) (p : Phase) (stage : ℕ) (address : BitVec 32) : Marks :=
  Function.update m p { m p with armed := true, stage, stopAddress := address }

def verify (m : Marks) (p : Phase) : Marks :=
  Function.update m p { m p with verified := true }

/-- The stage after `stage`. Only the allocation can leave one out, its fourth. -/
def afterStage (skips : Bool) (p : Phase) (stage : ℕ) : ℕ :=
  if p = .cdStreamAllocation ∧ stage = 3 ∧ skips = true then 5 else stage+1

/-- One step from the checkpoint `p`: to its own next stage, or to the first stage of
the checkpoint after it. -/
inductive Advance (supplied : Spec → Bool) (skips : Bool) (p : Phase) (m : Marks) : Marks → Prop
  | stage (address : BitVec 32) (hstage : (m p).stage < p.stages) :
      Advance supplied skips p m (m.arm p (afterStage skips p (m p).stage) address)
  | phase {q : Phase} (address : BitVec 32) (hlast : (m p).stage = p.stages) (hpq : p ⋖ q)
      (hsupplied : supplied q.spec = true) :
      Advance supplied skips p m ((m.verify p).arm q 1 address)

/-- The moves of the automaton: it waits, it begins, or it advances from the last
armed checkpoint. -/
inductive Moves (supplied : Spec → Bool) (skips : Bool) (m : Marks) : Marks → Prop
  | stays : Moves supplied skips m m
  | begins (address : BitVec 32) (hempty : m.armed = ∅) (hsupplied : supplied .dispatch = true) :
      Moves supplied skips m (m.arm .eventDispatch 1 address)
  | advances {p : Phase} {m' : Marks} (hp : IsGreatest m.armed p)
      (h : Advance supplied skips p m m') : Moves supplied skips m m'

/-- The law of the automaton. -/
structure Linear (supplied : Spec → Bool) (m : Marks) : Prop where
  orderly : Orderly m.armed m.verified
  supplied : ∀ p ∈ m.armed, supplied p.spec = true
  staged : ∀ p ∈ m.armed, 1 ≤ (m p).stage ∧ (m p).stage ≤ p.stages

theorem armed_arm (m : Marks) (p : Phase) (stage : ℕ) (address : BitVec 32) :
    (m.arm p stage address).armed = insert p m.armed := by
  ext q
  by_cases hqp : q = p
  · subst hqp
    simp [armed, arm]
  · simp [armed, arm, hqp]

theorem verified_arm (m : Marks) (p : Phase) (stage : ℕ) (address : BitVec 32) :
    (m.arm p stage address).verified = m.verified := by
  ext q
  by_cases hqp : q = p
  · subst hqp
    simp [verified, arm]
  · simp [verified, arm, hqp]

theorem armed_verify (m : Marks) (p : Phase) : (m.verify p).armed = m.armed := by
  ext q
  by_cases hqp : q = p
  · subst hqp
    simp [armed, verify]
  · simp [armed, verify, hqp]

theorem verified_verify (m : Marks) (p : Phase) :
    (m.verify p).verified = insert p m.verified := by
  ext q
  by_cases hqp : q = p
  · subst hqp
    simp [verified, verify]
  · simp [verified, verify, hqp]

theorem stage_verify (m : Marks) (p q : Phase) : (m.verify p q).stage = (m q).stage := by
  by_cases hqp : q = p
  · subst hqp
    simp [verify]
  · simp [verify, hqp]

theorem afterStage_le {stage : ℕ} (h : stage < p.stages) :
    1 ≤ afterStage skips p stage ∧ afterStage skips p stage ≤ p.stages := by
  rw [afterStage]
  split
  · rename_i hskip
    rw [hskip.1]
    decide
  · exact ⟨Nat.le_add_left 1 stage,h⟩

/-- Arming a checkpoint at one of its stages keeps the stages in range. -/
theorem staged_arm {stage : ℕ} (address : BitVec 32)
    (h : ∀ r ∈ m.armed, 1 ≤ (m r).stage ∧ (m r).stage ≤ r.stages)
    (hp : 1 ≤ stage ∧ stage ≤ p.stages) :
    ∀ r ∈ (m.arm p stage address).armed,
      1 ≤ (m.arm p stage address r).stage ∧ (m.arm p stage address r).stage ≤ r.stages := by
  intro r hr
  by_cases hrp : r = p
  · subst hrp
    simpa [arm] using hp
  · rw [armed_arm, Set.mem_insert_iff] at hr
    simpa [arm, hrp] using h r (hr.resolve_left hrp)

theorem linear_empty (h : m.armed = ∅) : Linear supplied m := by
  refine ⟨?_,?_,?_⟩
  · rw [h]
    exact orderly_empty _
  all_goals
    intro p hp
    rw [h] at hp
    exact hp.elim

theorem Linear.begin (h : Linear supplied m) (hempty : m.armed = ∅)
    (hs : supplied .dispatch = true) (address : BitVec 32) :
    Linear supplied (m.arm .eventDispatch 1 address) := by
  refine ⟨?_,?_,staged_arm address h.staged ⟨le_rfl,by decide⟩⟩
  · rw [armed_arm, hempty, insert_empty_eq]
    exact orderly_first Phase.isBot_eventDispatch _
  · rw [armed_arm, hempty, insert_empty_eq]
    rintro p rfl
    exact hs

theorem Linear.advance (h : Linear supplied m) (hp : IsGreatest m.armed p)
    (ha : Advance supplied skips p m m') : Linear supplied m' := by
  cases ha with
  | stage address hstage =>
    refine ⟨?_,?_,staged_arm address h.staged (afterStage_le hstage)⟩
    · rw [armed_arm, verified_arm, Set.insert_eq_of_mem hp.1]
      exact h.orderly
    · rw [armed_arm, Set.insert_eq_of_mem hp.1]
      exact h.supplied
  | @phase q address hlast hpq hs =>
    have hstaged : ∀ r ∈ (m.verify p).armed,
        1 ≤ (m.verify p r).stage ∧ (m.verify p r).stage ≤ r.stages := by
      intro r hr
      rw [armed_verify] at hr
      rw [stage_verify]
      exact h.staged r hr
    refine ⟨?_,?_,staged_arm address hstaged ⟨le_rfl,q.one_le_stages⟩⟩
    · -- The last armed checkpoint is verified before the next one is armed.
      rw [armed_arm, armed_verify, verified_arm, verified_verify]
      exact (h.orderly.mono (Set.subset_insert p _)).advance hp (Set.mem_insert p _) hpq
    · rw [armed_arm, armed_verify]
      rintro r (rfl | hr)
      · exact hs
      · exact h.supplied r hr

/-- Every move keeps the law. -/
theorem Linear.moves (h : Linear supplied m) (hm : Moves supplied skips m m') :
    Linear supplied m' := by
  cases hm with
  | stays => exact h
  | begins address hempty hs => exact h.begin hempty hs address
  | advances hp ha => exact h.advance hp ha

theorem Advance.verified_subset (h : Advance supplied skips p m m') :
    m.verified ⊆ m'.verified := by
  cases h with
  | stage address hstage => rw [verified_arm]
  | phase address hlast hpq hs =>
    rw [verified_arm, verified_verify]
    exact Set.subset_insert p _

/-- No move takes a verified checkpoint back. -/
theorem Moves.verified_subset (h : Moves supplied skips m m') : m.verified ⊆ m'.verified := by
  cases h with
  | stays => exact subset_rfl
  | begins address hempty hs => rw [verified_arm]
  | advances hp ha => exact ha.verified_subset

end Marks
end Saex
