import Saex.CheckpointAutomaton
import Saex.LoaderHandling
import Saex.LoaderLoop

/-! The chain of checkpoints of the debug loop as the automaton of
CheckpointAutomaton: which place an exception belongs to, and what its handler
does to the marks. -/
namespace Saex
open StoppingRuns OrderlyMarks

/-- The marks of the checkpoints in the trace. -/
def Chain.marks (chain : Chain) : Marks := fun p =>
  let s := chain.phase p
  ⟨s.armed,s.stage,s.stopAddress,s.verified⟩

namespace Chain
variable {chain : Chain}

theorem armed_arm (chain : Chain) (q r : Place) (stage : ℕ) (address : Address) :
    ((chain.arm q stage address).places r).armed = true ↔
      r = q ∨ (chain.places r).armed = true := by
  by_cases hrq : r = q
  · subst hrq
    simp [arm]
  · simp [arm, hrq]

theorem continued_arm (chain : Chain) (q r : Place) (stage : ℕ) (address : Address) :
    ((chain.arm q stage address).places r).continued = (chain.places r).continued := by
  by_cases hrq : r = q
  · subst hrq
    simp [arm]
  · simp [arm, hrq]

theorem armed_verify (chain : Chain) (q r : Place) :
    ((chain.verify q).places r).armed = (chain.places r).armed := by
  by_cases hrq : r = q
  · subst hrq
    simp [verify]
  · simp [verify, hrq]

theorem continued_verify (chain : Chain) (q r : Place) :
    ((chain.verify q).places r).continued = (chain.places r).continued := by
  by_cases hrq : r = q
  · subst hrq
    simp [verify]
  · simp [verify, hrq]

theorem phase_ne_approach (p : Phase) (a : Approach) : Place.phase p ≠ .approach a := by
  rintro ⟨⟩

theorem marks_arm_approach (chain : Chain) (a : Approach) (stage : ℕ) (address : Address) :
    (chain.arm (.approach a) stage address).marks = chain.marks := by
  funext p
  simp only [marks, phase, arm, set_of_ne _ (phase_ne_approach p a)]

theorem marks_verify_approach (chain : Chain) (a : Approach) :
    (chain.verify (.approach a)).marks = chain.marks := by
  funext p
  simp only [marks, phase, verify, set_of_ne _ (phase_ne_approach p a)]

theorem marks_arm_phase (chain : Chain) (p : Phase) (stage : ℕ) (address : Address) :
    (chain.arm (.phase p) stage address).marks = chain.marks.arm p stage address := by
  funext r
  by_cases hrp : r = p
  · subst hrp
    simp [marks, phase, arm, Marks.arm]
  · have hne : Place.phase r ≠ .phase p := fun h => hrp (Place.phase.inj h)
    simp [marks, phase, arm, Marks.arm, hrp, hne]

theorem keepsVerified_phase (p : Phase) : (Place.phase p).handler.keepsVerified = true := by
  cases p <;> rfl

theorem marks_verify_phase (chain : Chain) (p : Phase) :
    (chain.verify (.phase p)).marks = chain.marks.verify p := by
  funext r
  by_cases hrp : r = p
  · subst hrp
    simp [marks, phase, verify, Marks.verify, keepsVerified_phase]
  · have hne : Place.phase r ≠ .phase p := fun h => hrp (Place.phase.inj h)
    simp [marks, phase, verify, Marks.verify, hrp, hne]

/-- An exception belongs to the last armed checkpoint. -/
theorem lastArmed_eq_some {p : Phase} :
    chain.lastArmed = some p ↔ IsGreatest chain.marks.armed p :=
  find?_eq_some_iff_isGreatest Phase.mem_priority Phase.priority_decreasing

theorem lastArmed_eq_none : chain.lastArmed = none ↔ chain.marks.armed = ∅ :=
  find?_eq_none_iff_empty Phase.mem_priority

theorem handled_of_lastArmed {p : Phase} (h : chain.lastArmed = some p) :
    chain.handled = .phase p ∧ chain.awaited = .phase p := by
  rw [handled, awaited, h]
  exact ⟨rfl,rfl⟩

theorem handled_approach (h : chain.lastArmed = none) : ∃ a, chain.handled = .approach a := by
  rw [handled, h]
  exact ⟨_,rfl⟩

end Chain

theorem LoaderSetup.following_supplied {c : LoaderSetup} {q r : Place} (h : c.following q = some r)
    (hq : c.supplied q.spec = true) : c.supplied r.spec = true := by
  rcases q with a | p
  · cases a with
    | asiCall =>
      cases h
      exact hq
    | bootstrap => cases h
    | asiReturn =>
      rw [following] at h
      split_ifs at h with htail hbootstrap
      · cases h
        exact htail
      · cases h
        exact hbootstrap
    | _ =>
      rw [following] at h
      split_ifs at h with hs
      cases h
      exact hs
  · rw [following] at h
    split at h
    · split_ifs at h with hs
      cases h
      exact hs
    · cases h

/-- The first checkpoint is armed by the last place before them. -/
theorem LoaderSetup.following_approach {c : LoaderSetup} {a : Approach} {p : Phase}
    (h : c.following (.approach a) = some (.phase p)) :
    p = .eventDispatch ∧ c.supplied .dispatch = true := by
  cases a with
  | instanceStartup =>
    rw [following] at h
    split_ifs at h with hs
    cases h
    exact ⟨rfl,hs⟩
  | asiReturn =>
    rw [following] at h
    split_ifs at h <;> cases h
  | asiCall => cases h
  | bootstrap => cases h
  | _ =>
    rw [following] at h
    split_ifs at h
    cases h

theorem LoaderSetup.following_phase {c : LoaderSetup} {p : Phase} {r : Place}
    (h : c.following (.phase p) = some r) :
    ∃ q, r = .phase q ∧ p ⋖ q ∧ c.supplied q.spec = true := by
  rw [following] at h
  split at h
  · rename_i q hnext
    split_ifs at h with hs
    cases h
    exact ⟨q,rfl,Phase.covBy_of_next hnext,hs⟩
  · cases h

/-- The stage that a checkpoint arms next is the automaton's. -/
theorem nextStage_phase {w : Scene} {p : Phase} {memo : Memo}
    (h : (Place.phase p).handler.examine w = .ok memo) (stage : ℕ) :
    nextStage memo (.phase p) stage =
      Marks.afterStage (decide (w.memo.allocationGlobals.heapMode = 1)) p stage := by
  cases p with
  | cdStreamAllocation =>
    cases h
    simp [nextStage, Marks.afterStage]
  | _ => simp [nextStage, Marks.afterStage]

namespace Handled
variable {w : Scene} {chain chain' : Chain}

/-- A handler of a checkpoint advances the automaton by one step. -/
theorem advance {p : Phase} (h : Handled w chain (.phase p) chain')
    (hstage : w.stage = (chain.marks p).stage) (hstaged : w.stage ≤ p.stages) :
    Marks.Advance w.setup.supplied (decide (w.memo.allocationGlobals.heapMode = 1)) p
      chain.marks chain'.marks := by
  cases h with
  | @entered memo memo' r address hexamine hfinal hnext henter hentering =>
    obtain ⟨q,rfl,hpq,hs⟩ := LoaderSetup.following_phase hnext
    have hlast : (chain.marks p).stage = p.stages := by
      rw [← hstage]
      exact beq_iff_eq.mp hfinal
    have hmarks : Chain.marks { chain.verify (.phase p) with memo := memo' } =
        chain.marks.verify p := chain.marks_verify_phase p
    rw [Chain.marks_arm_phase, hmarks]
    exact .phase address hlast hpq hs
  | @staged memo address hexamine hfinal =>
    have hne : w.stage ≠ p.stages := beq_eq_false_iff_ne.mp hfinal
    have hlt : (chain.marks p).stage < p.stages := by
      rw [← hstage]
      exact lt_of_le_of_ne hstaged hne
    have hmarks : Chain.marks { chain with memo } = chain.marks := rfl
    rw [Chain.marks_arm_phase, nextStage_phase hexamine, hstage, hmarks]
    exact .stage address hlt

/-- A handler of the approach leaves the automaton alone, or begins it. -/
theorem approach {a : Approach} (h : Handled w chain (.approach a) chain')
    (hempty : chain.marks.armed = ∅) (skips : Bool) :
    Marks.Moves w.setup.supplied skips chain.marks chain'.marks := by
  cases h with
  | @entered memo memo' r address hexamine hfinal hnext henter hentering =>
    have hmarks : Chain.marks { chain.verify (.approach a) with memo := memo' } = chain.marks :=
      chain.marks_verify_approach a
    rcases r with b | p
    · rw [Chain.marks_arm_approach, hmarks]
      exact .stays
    · obtain ⟨rfl,hs⟩ := LoaderSetup.following_approach hnext
      rw [Chain.marks_arm_phase, hmarks]
      exact .begins address hempty hs
  | @staged memo address hexamine hfinal =>
    have hmarks : Chain.marks { chain with memo } = chain.marks := rfl
    rw [Chain.marks_arm_approach, hmarks]
    exact .stays

end Handled

/-- The invariant of the chain: the law of the automaton, and what the approach
to it owes. -/
structure Chained (c : LoaderSetup) (chain : Chain) : Prop where
  linear : Marks.Linear c.supplied chain.marks
  supplied : ∀ q, (chain.places q).armed = true → c.supplied q.spec = true
  continued : ∀ q, (chain.places q).continued = true → (chain.places q).armed = true
  entered : chain.marks.armed.Nonempty → (chain.approach .entry).continued = true
  cells : chain.memo.codecMappingIds.length = 3

namespace Chained
variable {c : LoaderSetup} {chain chain' : Chain}

theorem start (c : LoaderSetup) : Chained c c.start.chain := by
  have hempty : c.start.chain.marks.armed = ∅ := by
    rw [LoaderSetup.start]
    split_ifs
    · rw [Chain.marks_arm_approach]
      exact Set.eq_empty_of_forall_notMem fun p => Bool.false_ne_true
    · exact Set.eq_empty_of_forall_notMem fun p => Bool.false_ne_true
  refine ⟨Marks.linear_empty hempty,?_,?_,?_,?_⟩
  · intro q hq
    rw [LoaderSetup.start] at hq
    split_ifs at hq with hentry
    rcases (Chain.armed_arm _ _ _ _ _).mp hq with rfl | hq
    · exact hentry
    · cases hq
  · intro q hq
    rw [LoaderSetup.start] at hq
    split_ifs at hq
    rw [Chain.continued_arm] at hq
    cases hq
  · rw [hempty]
    exact fun h => absurd h Set.not_nonempty_empty
  · rw [LoaderSetup.start]
    split_ifs <;> rfl

theorem resume (h : Chained c chain) : Chained c chain.resume := by
  refine ⟨h.linear,h.supplied,?_,?_,h.cells⟩
  · intro q hq
    rw [Chain.resume, Bool.or_eq_true, Bool.and_eq_true] at hq
    rcases hq with hq | hq
    · exact h.continued q hq
    · exact hq.1
  · intro hne
    exact (Bool.or_eq_true _ _).mpr (.inl (h.entered hne))

/-- The place of an exception is armed. -/
theorem handled_armed (h : Chained c chain) (he : (chain.approach .entry).continued = true) :
    (chain.places chain.handled).armed = true := by
  rw [Chain.handled]
  split
  · rename_i p hp
    exact (Chain.lastArmed_eq_some.mp hp).1
  · -- The place is looked for under the armed flags, then under the continued ones.
    let P : Approach → Prop := fun a => (chain.places (.approach a)).armed = true
    change P _
    iterate 7 refine iteInduction (motive := P) id fun _ => ?_
    refine iteInduction (motive := P) (fun hcall => ?_) fun _ => ?_
    · exact iteInduction (motive := P) (h.continued _) fun _ => h.continued _ hcall
    iterate 4 refine iteInduction (motive := P) (h.continued _) fun _ => ?_
    exact h.continued _ he

/-- A handler keeps the invariant if it moves the automaton. -/
theorem handle (h : Chained c chain) (he : (chain.approach .entry).continued = true)
    {w : Scene} (hc : w.setup = c) (hmemo : w.memo = chain.memo) {skips : Bool}
    (hmoves : Marks.Moves c.supplied skips chain.marks chain'.marks)
    (hh : Handled w chain chain.handled chain') : Chained c chain' := by
  have hq := h.supplied _ (h.handled_armed he)
  have hlinear := h.linear.moves hmoves
  subst hc
  -- Only `r`, or the place itself, is armed, and no `continued` flag is touched.
  cases hh with
  | @entered memo memo' r address hexamine hfinal hnext henter hentering =>
    refine ⟨hlinear,?_,?_,?_,?_⟩
    · intro q harmed
      rcases (Chain.armed_arm _ _ _ _ _).mp harmed with rfl | harmed
      · exact LoaderSetup.following_supplied hnext hq
      · exact h.supplied q ((Chain.armed_verify _ _ _).symm.trans harmed)
    · intro q hcontinued
      rw [Chain.continued_arm] at hcontinued
      have harmed := h.continued q ((Chain.continued_verify _ _ _).symm.trans hcontinued)
      exact (Chain.armed_arm _ _ _ _ _).mpr (.inr ((Chain.armed_verify _ _ _).trans harmed))
    · intro _
      rw [Chain.approach, Chain.continued_arm]
      exact (Chain.continued_verify _ _ _).trans he
    · calc memo'.codecMappingIds.length
          = memo.codecMappingIds.length := enter_cells henter
        _ = w.memo.codecMappingIds.length := examine_cells hexamine
        _ = 3 := by rw [hmemo, h.cells]
  | @staged memo address hexamine hfinal =>
    refine ⟨hlinear,?_,?_,?_,?_⟩
    · intro q harmed
      rcases (Chain.armed_arm _ _ _ _ _).mp harmed with rfl | harmed
      · exact hq
      · exact h.supplied q harmed
    · intro q hcontinued
      rw [Chain.continued_arm] at hcontinued
      exact (Chain.armed_arm _ _ _ _ _).mpr (.inr (h.continued q hcontinued))
    · intro _
      rw [Chain.approach, Chain.continued_arm]
      exact he
    · calc memo.codecMappingIds.length
          = w.memo.codecMappingIds.length := examine_cells hexamine
        _ = 3 := by rw [hmemo, h.cells]

end Chained
end Saex
