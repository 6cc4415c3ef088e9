import Saex.LeaseAuthority

/-! Everything one call of the lease gate can do, said once. The laws over whole
runs are proved from these outcomes, without the bodies of the operations. -/
namespace Saex

abbrev LeaseVisit := Transitions.Visit LeaseAuthority LeaseCall LeaseAnswer

/-- The reading of a call that goes through `sample`. -/
def LeaseCall.sampled : LeaseCall → Option ControlStamp
  | .issue now .. | .accept now _ | .renew now .. => some now
  | .revoke | .suspendOrResume | .recoverAfterReadiness _ => none

def LeaseCall.whenFenced : LeaseCall → LeaseAnswer
  | .issue .. => .issued none
  | _ => .result .recoveryRequired

def LeaseCall.whenDiscontinuous : LeaseCall → LeaseAnswer
  | .issue .. => .issued none
  | _ => .result .clockDiscontinuity

/-- The results that leave the gate as it was, up to the sampled stamp. -/
def LeaseResult.rejection : LeaseResult → Bool
  | .noGrant | .staleEntity | .staleOwner | .staleRevision | .staleSequence | .fieldDenied => true
  | _ => false

def LeaseAnswer.refusal : LeaseAnswer → Bool
  | .issued none => true
  | .result r => r.rejection
  | _ => false

namespace LeaseAuthority

def stamped (a : LeaseAuthority) (now : ControlStamp) : LeaseAuthority := { a with lastStamp := now }

/-- The clock moved on inside its domain, and the gate is open to look at it. -/
structure Samples (a : LeaseAuthority) (now : ControlStamp) : Prop where
  open_ : a.fenced = false
  domain : now.domain = a.lastStamp.domain
  monotone : a.lastStamp.microseconds.toNat ≤ now.microseconds.toNat

theorem samples_of (a : LeaseAuthority) (now : ControlStamp) (hf : a.fenced = false)
    (hd : a.discontinuous now = false) : a.Samples now := by
  simp only [discontinuous, Bool.or_eq_false_iff, decide_eq_false_iff_not, not_not,
    UInt64.not_lt, UInt64.le_iff_toNat_le] at hd
  exact ⟨hf,hd.1,hd.2⟩

theorem Samples.continuous {a : LeaseAuthority} {now : ControlStamp} (h : a.Samples now) :
    a.discontinuous now = false := by
  simp only [discontinuous, Bool.or_eq_false_iff, decide_eq_false_iff_not, not_not,
    UInt64.not_lt, UInt64.le_iff_toNat_le]
  exact ⟨h.domain,h.monotone⟩

theorem sample_of_samples {a : LeaseAuthority} {now : ControlStamp} (h : a.Samples now) :
    a.sample now = (a.stamped now,some now) := by
  simp [sample, h.open_, h.continuous, stamped]

theorem deadlineOverflows_iff (now : ControlStamp) :
    deadlineOverflows now = true ↔ 2^64-1 < now.microseconds.toNat+2000000 := by
  have hm : (uint64Max-leaseMicroseconds).toNat = 2^64-1-2000000 := rfl
  simp only [deadlineOverflows, gt_iff_lt, decide_eq_true_eq, UInt64.lt_iff_toNat_lt, hm]
  omega

/-- An otherwise admissible issue or renewal that meets the end of a counter. -/
inductive Exhausts (a : LeaseAuthority) : LeaseCall → Prop
  | owner {now : ControlStamp} {session : SessionId} {catalog : CatalogRevision}
      {state : StateRevision} {fieldMask : UInt64} {applied : Bool}
      (hi : issuable session catalog state fieldMask applied = true)
      (ho : a.lastOwner.value.toNat = 2^64-1) :
      Exhausts a (.issue now session catalog state fieldMask applied)
  | deadline {now : ControlStamp} {session : SessionId} {catalog : CatalogRevision}
      {state : StateRevision} {fieldMask : UInt64} {applied : Bool}
      (hi : issuable session catalog state fieldMask applied = true)
      (hd : 2^64-1 < now.microseconds.toNat+2000000) :
      Exhausts a (.issue now session catalog state fieldMask applied)
  | renewal {now : ControlStamp} {g : LeaseGrant} {renewal : Sequence} (hg : a.grant = some g)
      (ht : now.microseconds.toNat < g.deadline.microseconds.toNat)
      (hr : a.lastRenewal.value.toNat < renewal.value.toNat)
      (hd : 2^64-1 < now.microseconds.toNat+2000000) :
      Exhausts a (.renew now g.session g.owner renewal)

inductive Outcome (a : LeaseAuthority) : LeaseCall → LeaseAuthority → LeaseAnswer → Prop
  | fenced {c : LeaseCall} {now : ControlStamp} (hc : c.sampled = some now) (hf : a.fenced = true) :
      Outcome a c a c.whenFenced
  | discontinuous {c : LeaseCall} {now : ControlStamp} (hc : c.sampled = some now)
      (hf : a.fenced = false) (hd : a.discontinuous now = true) :
      Outcome a c a.suspendOrResume c.whenDiscontinuous
  | refused {c : LeaseCall} {now : ControlStamp} {r : LeaseAnswer} (hc : c.sampled = some now)
      (hs : a.Samples now) (hr : r.refusal = true) : Outcome a c (a.stamped now) r
  | expired {c : LeaseCall} {now : ControlStamp} (hc : c.sampled = some now) (hs : a.Samples now) :
      Outcome a c (a.stamped now).revoke (.result .expired)
  | exhausted {c : LeaseCall} {now : ControlStamp} (hc : c.sampled = some now) (hs : a.Samples now)
      (hx : a.Exhausts c) : Outcome a c (a.stamped now).suspendOrResume c.whenFenced
  | issued {now : ControlStamp} {session : SessionId} {catalog : CatalogRevision}
      {state : StateRevision} {fieldMask : UInt64} {applied : Bool} {owner : OwnerEpoch}
      (hs : a.Samples now) (ho : next a.lastOwner = some owner)
      (hd : deadlineOverflows now = false) :
      Outcome a (.issue now session catalog state fieldMask applied)
        { a with
          lastStamp := now, lastOwner := owner, lastMotion := {}, lastRenewal := {}
          grant := some { entity := a.entity, session, owner, catalog, state, fieldMask,
                          deadline := deadlineFrom now } }
        (.issued (some { entity := a.entity, session, owner, catalog, state, fieldMask,
                         deadline := deadlineFrom now }))
  | accepted {now : ControlStamp} {p : OwnerProposal} {g : LeaseGrant} (hs : a.Samples now)
      (hg : a.grant = some g) (ht : now.microseconds.toNat < g.deadline.microseconds.toNat)
      (hj : a.judge g p = .accepted) :
      Outcome a (.accept now p) { a with lastStamp := now, lastMotion := p.sequence }
        (.result .accepted)
  | renewed {now : ControlStamp} {g : LeaseGrant} {renewal : Sequence} (hs : a.Samples now)
      (hg : a.grant = some g) (ht : now.microseconds.toNat < g.deadline.microseconds.toNat)
      (hr : a.lastRenewal.value.toNat < renewal.value.toNat) (hd : deadlineOverflows now = false) :
      Outcome a (.renew now g.session g.owner renewal)
        { a with
          lastStamp := now, lastRenewal := renewal
          grant := some { g with deadline :=
            { g.deadline with microseconds := now.microseconds+leaseMicroseconds } } }
        (.result .accepted)
  | revoked : Outcome a .revoke a.revoke .done
  | suspended : Outcome a .suspendOrResume a.suspendOrResume .done
  | recovered {now : ControlStamp} (hn : now.domain.value ≠ 0) :
      Outcome a (.recoverAfterReadiness now)
        { a with lastStamp := now, grant := none, fenced := false } (.recovered true)
  | notRecovered {now : ControlStamp} (hn : now.domain.value = 0) :
      Outcome a (.recoverAfterReadiness now) a (.recovered false)

/-- A call through `sample` on a fenced gate, or over a clock discontinuity. -/
theorem sample_cases (a : LeaseAuthority) (now : ControlStamp) :
    (a.fenced = true ∧ a.sample now = (a,none)) ∨
    (a.fenced = false ∧ a.discontinuous now = true ∧ a.sample now = (a.suspendOrResume,none)) ∨
    (a.Samples now ∧ a.sample now = (a.stamped now,some now)) := by
  cases hf : a.fenced with
  | true => exact .inl ⟨rfl,by simp [sample, hf]⟩
  | false =>
    cases hd : a.discontinuous now with
    | true => exact .inr (.inl ⟨rfl,rfl,by simp [sample, hf, hd]⟩)
    | false =>
      have hs := samples_of a now hf hd
      exact .inr (.inr ⟨hs,sample_of_samples hs⟩)

theorem issue_outcome (a : LeaseAuthority) (now : ControlStamp) (session : SessionId)
    (catalog : CatalogRevision) (state : StateRevision) (fieldMask : UInt64) (applied : Bool) :
    a.Outcome (.issue now session catalog state fieldMask applied)
      (a.step (.issue now session catalog state fieldMask applied)).1
      (a.step (.issue now session catalog state fieldMask applied)).2 := by
  rcases a.sample_cases now with ⟨hf,he⟩ | ⟨hf,hd,he⟩ | ⟨hs,he⟩
  · simp only [step, issue, he]
    exact .fenced rfl hf
  · simp only [step, issue, he]
    exact .discontinuous rfl hf hd
  · simp only [step, issue, he]
    split
    · exact .refused rfl hs rfl
    rename_i hi
    have hi : issuable session catalog state fieldMask applied = true := by simpa using hi
    split
    · rename_i ho
      exact .exhausted rfl hs (.owner hi ((next_eq_none_iff _).mp ho))
    · rename_i owner ho
      split
      · rename_i hd
        exact .exhausted rfl hs (.deadline hi ((deadlineOverflows_iff now).mp hd))
      · rename_i hd
        exact .issued hs ho (by simpa using hd)

theorem judge_rejects (a : LeaseAuthority) (g : LeaseGrant) (p : OwnerProposal)
    (h : a.judge g p ≠ .accepted) : (a.judge g p).rejection = true := by
  revert h
  simp only [judge]
  split_ifs <;> simp [LeaseResult.rejection]

theorem accept_outcome (a : LeaseAuthority) (now : ControlStamp) (p : OwnerProposal) :
    a.Outcome (.accept now p) (a.step (.accept now p)).1 (a.step (.accept now p)).2 := by
  rcases a.sample_cases now with ⟨hf,he⟩ | ⟨hf,hd,he⟩ | ⟨hs,he⟩
  · simp only [step, accept, hf, if_true]
    exact .fenced rfl hf
  · simp only [step, accept, hf, he, Bool.false_eq_true, if_false]
    exact .discontinuous rfl hf hd
  · simp only [step, accept, hs.open_, he, Bool.false_eq_true, if_false]
    cases hg : (a.stamped now).grant with
    | none => exact .refused rfl hs rfl
    | some g =>
      dsimp only
      split
      · exact .expired rfl hs
      · rename_i ht
        have ht : now.microseconds.toNat < g.deadline.microseconds.toNat :=
          UInt64.lt_iff_toNat_lt.mp (UInt64.not_le.mp ht)
        split
        · rename_i hj
          have hg : a.grant = some g := hg
          simpa only [stamped, hg] using Outcome.accepted hs hg ht hj
        · rename_i r hr
          exact .refused rfl hs (judge_rejects (a.stamped now) g p hr)

theorem renew_outcome (a : LeaseAuthority) (now : ControlStamp) (session : SessionId)
    (owner : OwnerEpoch) (renewal : Sequence) :
    a.Outcome (.renew now session owner renewal) (a.step (.renew now session owner renewal)).1
      (a.step (.renew now session owner renewal)).2 := by
  rcases a.sample_cases now with ⟨hf,he⟩ | ⟨hf,hd,he⟩ | ⟨hs,he⟩
  · simp only [step, renew, hf, if_true]
    exact .fenced rfl hf
  · simp only [step, renew, hf, he, Bool.false_eq_true, if_false]
    exact .discontinuous rfl hf hd
  · simp only [step, renew, hs.open_, he, Bool.false_eq_true, if_false]
    cases hg : (a.stamped now).grant with
    | none => exact .refused rfl hs rfl
    | some g =>
      dsimp only
      split
      · exact .expired rfl hs
      rename_i ht
      split
      · exact .refused rfl hs rfl
      rename_i hm
      split
      · exact .refused rfl hs rfl
      rename_i hr
      simp only [ne_eq, Bool.or_eq_true, decide_eq_true_eq, not_or, not_not] at hm
      obtain ⟨rfl,rfl⟩ := hm
      have ht := UInt64.lt_iff_toNat_lt.mp (UInt64.not_le.mp ht)
      have hr := UInt64.lt_iff_toNat_lt.mp (UInt64.not_le.mp hr)
      split
      · rename_i hd
        exact .exhausted rfl hs (.renewal hg ht hr ((deadlineOverflows_iff now).mp hd))
      · rename_i hd
        exact .renewed hs hg ht hr (by simpa using hd)

/-- Every step of the gate is one of the outcomes. -/
theorem step_outcome (a : LeaseAuthority) (c : LeaseCall) :
    a.Outcome c (a.step c).1 (a.step c).2 := by
  cases c with
  | issue now session catalog state fieldMask applied => exact a.issue_outcome ..
  | accept now p => exact a.accept_outcome ..
  | renew now session owner renewal => exact a.renew_outcome ..
  | revoke => exact .revoked
  | suspendOrResume => exact .suspended
  | recoverAfterReadiness now =>
    by_cases hn : now.domain.value = 0
    · simpa only [step, recoverAfterReadiness, if_pos hn] using Outcome.notRecovered hn
    · simpa only [step, recoverAfterReadiness, if_neg hn] using Outcome.recovered hn

end LeaseAuthority
end Saex
