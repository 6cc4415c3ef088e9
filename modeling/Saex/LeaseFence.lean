import Saex.LeaseHistory

/-! The fence of the lease gate: the ways in, the one way out, and what the
recovery barrier leaves behind. -/
namespace Saex
open Transitions

/-- The last reading an open gate took over: a fenced call samples nothing. -/
def lastReading (first : ControlStamp) (h : List LeaseVisit) : ControlStamp :=
  h.foldl (fun t v => match v.call with
    | .issue now .. | .accept now _ | .renew now .. => if v.before.fenced then t else now
    | .recoverAfterReadiness now => if v.answer = .recovered true then now else t
    | .revoke | .suspendOrResume => t) first

/-- What a fenced gate answers as long as no recovery succeeds. -/
def LeaseCall.behindFence : LeaseCall → LeaseAnswer
  | .issue .. => .issued none
  | .accept .. | .renew .. => .result .recoveryRequired
  | .revoke | .suspendOrResume => .done
  | .recoverAfterReadiness _ => .recovered false

namespace LeaseAuthority

/-- The five ways into the fence. -/
inductive EntersFence (a : LeaseAuthority) : LeaseCall → Prop
  | suspended : EntersFence a .suspendOrResume
  | domain {c : LeaseCall} {now : ControlStamp} (hc : c.sampled = some now)
      (hd : now.domain ≠ a.lastStamp.domain) : EntersFence a c
  | regression {c : LeaseCall} {now : ControlStamp} (hc : c.sampled = some now)
      (ht : now.microseconds.toNat < a.lastStamp.microseconds.toNat) : EntersFence a c
  | exhausted {c : LeaseCall} {now : ControlStamp} (hc : c.sampled = some now) (hs : a.Samples now)
      (hx : a.Exhausts c) : EntersFence a c

theorem discontinuous_iff (a : LeaseAuthority) (now : ControlStamp) : a.discontinuous now = true ↔
    now.domain ≠ a.lastStamp.domain ∨ now.microseconds.toNat < a.lastStamp.microseconds.toNat := by
  simp only [discontinuous, ne_eq, Bool.or_eq_true, decide_eq_true_eq, UInt64.lt_iff_toNat_lt]

theorem entersFence_of_fenced {a : LeaseAuthority} {c : LeaseCall} (ha : a.fenced = false)
    (hf : (a.step c).1.fenced = true) : a.EntersFence c := by
  have ho := a.step_outcome c
  generalize (a.step c).1 = b at ho hf
  generalize (a.step c).2 = r at ho
  cases ho with
  | discontinuous hc _ hd =>
    rcases (discontinuous_iff _ _).mp hd with hd | hd
    · exact .domain hc hd
    · exact .regression hc hd
  | exhausted hc hs hx => exact .exhausted hc hs hx
  | suspended => exact .suspended
  | recovered => cases hf
  | _ => simp_all [stamped, revoke]

theorem fenced_of_discontinuous {a : LeaseAuthority} {c : LeaseCall} {now : ControlStamp}
    (ha : a.fenced = false) (hc : c.sampled = some now) (hd : a.discontinuous now = true) :
    (a.step c).1.fenced = true := by
  have hs : a.sample now = (a.suspendOrResume,none) := by simp [sample, ha, hd]
  cases c with
  | issue | accept | renew =>
    cases hc
    simp only [step, issue, accept, renew, ha, hs, Bool.false_eq_true, if_false]
    rfl
  | _ => cases hc

theorem fenced_of_exhausts {a : LeaseAuthority} {c : LeaseCall} {now : ControlStamp}
    (hc : c.sampled = some now) (hs : a.Samples now) (hx : a.Exhausts c) :
    (a.step c).1.fenced = true := by
  cases hx with
  | owner hi ho =>
    cases hc
    simp [step, issue, sample_of_samples hs, hi, stamped, (next_eq_none_iff _).mpr ho,
      suspendOrResume, revoke]
  | deadline hi hd =>
    cases hc
    have hd := (deadlineOverflows_iff now).mpr hd
    simp only [step, issue, sample_of_samples hs, hi, hd, Bool.not_true, Bool.false_eq_true,
      if_false, if_true]
    split <;> rfl
  | renewal hg ht hr hd =>
    cases hc
    have hg : (a.stamped now).grant = some _ := hg
    have hr : ¬ _ ≤ (a.stamped now).lastRenewal.value :=
      UInt64.not_le.mpr (UInt64.lt_iff_toNat_lt.mpr hr)
    have ht := UInt64.not_le.mpr (UInt64.lt_iff_toNat_lt.mpr ht)
    have hd := (deadlineOverflows_iff now).mpr hd
    simp only [step, renew, hs.open_, sample_of_samples hs, hg, ge_iff_le, ht, hr, hd, ne_eq,
      not_true, decide_false, Bool.or_self, Bool.false_eq_true, if_false, if_true]
    rfl

/-- An open gate is fenced by a call exactly when the call is one of the five. -/
theorem fenced_iff_entersFence {a : LeaseAuthority} (ha : a.fenced = false) (c : LeaseCall) :
    (a.step c).1.fenced = true ↔ a.EntersFence c := by
  refine ⟨entersFence_of_fenced ha,fun h => ?_⟩
  cases h with
  | suspended => rfl
  | domain hc hd => exact fenced_of_discontinuous ha hc ((discontinuous_iff _ _).mpr (.inl hd))
  | regression hc ht => exact fenced_of_discontinuous ha hc ((discontinuous_iff _ _).mpr (.inr ht))
  | exhausted hc hs hx => exact fenced_of_exhausts hc hs hx

/-- A fenced gate holds no grant. -/
def FencedEmpty (a : LeaseAuthority) : Prop := a.fenced = true → a.grant = none

theorem step_fencedEmpty (a : LeaseAuthority) (c : LeaseCall) (h : a.FencedEmpty) :
    (a.step c).1.FencedEmpty := by
  have ho := a.step_outcome c
  generalize (a.step c).1 = b at ho ⊢
  generalize (a.step c).2 = r at ho
  cases ho with
  | fenced | notRecovered | refused | accepted => exact h
  | issued hs | renewed hs =>
    intro hf
    exact absurd (hs.open_.symm.trans hf) (by decide)
  | discontinuous | expired | exhausted | revoked | suspended | recovered => exact fun _ => rfl

/-- Closed: fenced, with no grant to move under. -/
def Closed (a : LeaseAuthority) : Prop := a.fenced = true ∧ a.grant = none

theorem step_closed {a : LeaseAuthority} (h : a.Closed) (c : LeaseCall)
    (hr : (a.step c).2 ≠ .recovered true) :
    (a.step c).1.Closed ∧ (a.step c).2 = c.behindFence := by
  have ho := a.step_outcome c
  generalize (a.step c).1 = b at ho ⊢
  generalize (a.step c).2 = r at ho hr ⊢
  have hopen {now : ControlStamp} (hs : a.Samples now) : False :=
    absurd (hs.open_.symm.trans h.1) (by decide)
  cases ho with
  | fenced hc =>
    refine ⟨h,?_⟩
    cases c <;> first | rfl | cases hc
  | discontinuous hc hf => exact absurd (hf.symm.trans h.1) (by decide)
  | refused _ hs | expired _ hs | exhausted _ hs | issued hs | accepted hs | renewed hs =>
    exact (hopen hs).elim
  | revoked => exact ⟨⟨h.1,rfl⟩,rfl⟩
  | suspended => exact ⟨⟨rfl,rfl⟩,rfl⟩
  | recovered => exact absurd rfl hr
  | notRecovered => exact ⟨h,rfl⟩

theorem closed_run (a : LeaseAuthority) (h : a.Closed) (calls : List LeaseCall)
    (hr : ∀ v ∈ history step a calls, v.answer ≠ .recovered true) :
    (run step a calls).Closed ∧
      ∀ v ∈ history step a calls, v.before.Closed ∧ v.answer = v.call.behindFence := by
  induction calls generalizing a with
  | nil => exact ⟨h,by simp⟩
  | cons c cs ih =>
    rw [history_cons, List.forall_mem_cons] at hr
    obtain ⟨hc,ha⟩ := step_closed h c hr.1
    obtain ⟨hrun,hvisits⟩ := ih _ hc hr.2
    exact ⟨hrun,List.forall_mem_cons.mpr ⟨⟨h,ha⟩,hvisits⟩⟩

theorem step_no_grant {a : LeaseAuthority} (h : a.grant = none) (c : LeaseCall)
    (hi : ∀ g, (a.step c).2 ≠ .issued (some g)) :
    (a.step c).1.grant = none ∧ (a.step c).2 ≠ .result .accepted := by
  have ho := a.step_outcome c
  generalize (a.step c).1 = b at ho ⊢
  generalize (a.step c).2 = r at ho hi ⊢
  cases ho with
  | fenced => exact ⟨h,(whenFenced_not_accepted c).1⟩
  | discontinuous => exact ⟨rfl,by cases c <;> nofun⟩
  | refused hc hs hr => exact ⟨h,(refusal_not_accepted hr).1⟩
  | exhausted => exact ⟨rfl,(whenFenced_not_accepted c).1⟩
  | issued => exact absurd rfl (hi _)
  | accepted hs hg | renewed hs hg => cases h.symm.trans hg
  | expired | revoked | suspended | recovered => exact ⟨rfl,nofun⟩
  | notRecovered => exact ⟨h,nofun⟩

/-- Without a grant nothing is accepted before the next successful issue. -/
theorem no_grant_run (a : LeaseAuthority) (h : a.grant = none) (calls : List LeaseCall)
    (hi : ∀ v ∈ history step a calls, ¬ Issues v) :
    ∀ v ∈ history step a calls, v.answer ≠ .result .accepted := by
  induction calls generalizing a with
  | nil => simp
  | cons c cs ih =>
    rw [history_cons, List.forall_mem_cons] at hi
    obtain ⟨hg,ha⟩ := step_no_grant h c (fun g hg => hi.1 ⟨g,hg⟩)
    exact List.forall_mem_cons.mpr ⟨ha,ih _ hg hi.2⟩

theorem lastReading_concat (first : ControlStamp) (h : List LeaseVisit) (v : LeaseVisit) :
    lastReading first (h ++ [v]) = lastReading (lastReading first h) [v] := by
  simp only [lastReading, List.foldl_append]

/-- An open gate compares with the last reading it took over. -/
def StampLaw (first : ControlStamp) (h : List LeaseVisit) (a : LeaseAuthority) : Prop :=
  a.fenced = false → a.lastStamp = lastReading first h

theorem lastReading_sampled {t now : ControlStamp} {a : LeaseAuthority} {c : LeaseCall}
    {r : LeaseAnswer} (hc : c.sampled = some now) (ha : a.fenced = false) :
    lastReading t [⟨a,c,r⟩] = now := by
  cases c <;> simp_all [lastReading, LeaseCall.sampled]

theorem stampLaw_step (first : ControlStamp) (h : List LeaseVisit) (a : LeaseAuthority)
    (c : LeaseCall) (hl : StampLaw first h a) :
    StampLaw first (h ++ [⟨a,c,(a.step c).2⟩]) (a.step c).1 := by
  unfold StampLaw
  rw [lastReading_concat]
  have ho := a.step_outcome c
  generalize (a.step c).1 = b at ho ⊢
  generalize (a.step c).2 = r at ho ⊢
  intro hb
  cases ho with
  | fenced hc hf => exact absurd (hb.symm.trans hf) (by decide)
  | discontinuous | suspended | exhausted => cases hb
  | refused hc hs | expired hc hs => exact (lastReading_sampled hc hs.open_).symm
  | issued hs | accepted hs | renewed hs => exact (lastReading_sampled rfl hs.open_).symm
  | revoked => exact hl hb
  | recovered => simp [lastReading]
  | notRecovered => simpa [lastReading] using hl hb

theorem stampLaw_run {now : ControlStamp} {entity : EntityRef} {a : LeaseAuthority}
    (ha : create now entity = some a) (calls : List LeaseCall) :
    StampLaw now (history step a calls) (run step a calls) :=
  history_invariant step (StampLaw now) (stampLaw_step now) a
    (fun _ => by rw [create_eq ha]; rfl) calls

/-- An open gate is fenced by exactly the five ways in, judged against its last
reading. From then on only a successful recovery opens it: until that recovery
every issue and every accept or renew is refused and no grant is held, and
after it nothing is accepted before a new successful issue. -/
theorem fence_until_recovery (now : ControlStamp) (entity : EntityRef) (a : LeaseAuthority)
    (ha : create now entity = some a) (calls : List LeaseCall) :
    let b := run step a calls
    (b.fenced = false → b.lastStamp = lastReading now (history step a calls) ∧
      ∀ c, (b.step c).1.fenced = true ↔ b.EntersFence c) ∧
    (b.fenced = true → b.grant = none ∧ ∀ more,
      (∀ v ∈ history step b more, v.answer ≠ .recovered true) →
        (run step b more).Closed ∧
        ∀ v ∈ history step b more, v.before.Closed ∧ v.answer = v.call.behindFence) ∧
    ∀ t, (b.step (.recoverAfterReadiness t)).2 = .recovered true → ∀ more,
      (∀ v ∈ history step (b.step (.recoverAfterReadiness t)).1 more, ¬ Issues v) →
        ∀ v ∈ history step (b.step (.recoverAfterReadiness t)).1 more,
          v.answer ≠ .result .accepted := by
  intro b
  have hempty : b.FencedEmpty :=
    run_invariant step FencedEmpty step_fencedEmpty a (by rw [create_eq ha]; exact fun _ => rfl) calls
  refine ⟨fun hf => ⟨stampLaw_run ha calls hf,fenced_iff_entersFence hf⟩,?_,?_⟩
  · intro hf
    exact ⟨hempty hf,closed_run b ⟨hf,hempty hf⟩⟩
  · intro t hr
    have hg : (b.step (.recoverAfterReadiness t)).1.grant = none := by
      have ho := b.step_outcome (.recoverAfterReadiness t)
      rw [hr] at ho
      generalize (b.step (.recoverAfterReadiness t)).1 = b' at ho ⊢
      generalize hrec : LeaseAnswer.recovered true = r at ho
      cases ho with
      | recovered => rfl
      | refused hc | expired hc => cases hc
      | _ => cases hrec
    exact no_grant_run _ hg

/-- A clock that fell back to reading 5 fences the gate; the renewal after it is refused. -/
theorem fence_until_recovery_regression :
    let entity : EntityRef := ⟨⟨1⟩,⟨1⟩,⟨1⟩,⟨1⟩⟩
    let a : LeaseAuthority := { entity, lastStamp := ⟨⟨1⟩,0⟩ }
    let calls : List LeaseCall :=
      [.issue ⟨⟨1⟩,10⟩ ⟨5⟩ ⟨6⟩ ⟨7⟩ 3 true,.renew ⟨⟨1⟩,5⟩ ⟨5⟩ ⟨1⟩ ⟨1⟩]
    let more : List LeaseCall := [.revoke,.renew ⟨⟨1⟩,20⟩ ⟨5⟩ ⟨1⟩ ⟨1⟩]
    create ⟨⟨1⟩,0⟩ entity = some a ∧ (run step a calls).fenced = true ∧
      (run step (run step a calls) more).Closed := by
  intro entity a calls more
  have ha : create ⟨⟨1⟩,0⟩ entity = some a := by decide
  have hf : (run step a calls).fenced = true := by decide
  exact ⟨ha,hf,(((fence_until_recovery _ _ _ ha calls).2.1 hf).2 more (by decide)).1⟩

end LeaseAuthority
end Saex
