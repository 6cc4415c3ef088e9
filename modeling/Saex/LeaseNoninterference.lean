import Saex.LeaseHistory

/-! Rejected traffic does not interfere: on a clock that only moves on, a call
turned down for what it proposes can be left out without a trace. The rejected
call still moves the last stamp, so the two runs meet again at the next reading. -/
namespace Saex
open Transitions

/-- The reading a call samples; a fenced gate leaves the clock alone. -/
def reading (v : LeaseVisit) : Option ControlStamp :=
  match v.call with
  | .issue now .. | .accept now _ | .renew now .. => if v.before.fenced then none else some now
  | .recoverAfterReadiness now => some now
  | .revoke | .suspendOrResume => none

def readings (h : List LeaseVisit) : List ControlStamp := h.filterMap reading

/-- The same domain, and no earlier. -/
def NotAfter (s t : ControlStamp) : Prop :=
  s.domain = t.domain ∧ s.microseconds.toNat ≤ t.microseconds.toNat

instance : DecidableRel NotAfter := fun _ _ => inferInstanceAs (Decidable (_ ∧ _))

/-- Rejected for the identity, the revision, the counter or the fields proposed. -/
def turnedDown (v : LeaseVisit) : Bool :=
  match v.call, v.answer with
  | .accept .., .result r =>
    r ∈ [.staleEntity,.staleOwner,.staleRevision,.staleSequence,.fieldDenied]
  | .renew .., .result r => r ∈ [.staleOwner,.staleSequence]
  | _, _ => false

theorem NotAfter.trans {s t u : ControlStamp} (h : NotAfter s t) (h' : NotAfter t u) :
    NotAfter s u := ⟨h.1.trans h'.1,h.2.trans h'.2⟩

namespace LeaseAuthority

/-- The same gate, whose last stamp may lie behind. -/
structure Lags (b a : LeaseAuthority) : Prop where
  behind : NotAfter b.lastStamp a.lastStamp
  same : a = b.stamped a.lastStamp

theorem Lags.fenced {b a : LeaseAuthority} (h : b.Lags a) : a.fenced = b.fenced := by
  rw [h.same, stamped]

theorem Lags.stamped {b a : LeaseAuthority} (h : b.Lags a) (now : ControlStamp) :
    a.stamped now = b.stamped now := by
  rw [h.same, LeaseAuthority.stamped]
  rfl

theorem lags_refl (a : LeaseAuthority) : a.Lags a := ⟨⟨rfl,le_rfl⟩,rfl⟩

theorem step_of_fenced {a : LeaseAuthority} {c : LeaseCall} {now : ControlStamp}
    (hf : a.fenced = true) (hc : c.sampled = some now) : a.step c = (a,c.whenFenced) := by
  cases c with
  | issue => simp [step, issue, sample, hf, LeaseCall.whenFenced]
  | accept => simp [step, accept, hf, LeaseCall.whenFenced]
  | renew => simp [step, renew, hf, LeaseCall.whenFenced]
  | _ => cases hc

/-- Two open gates that take the reading over are the same gate from then on. -/
theorem step_of_stamped {a b : LeaseAuthority} {c : LeaseCall} {now : ControlStamp}
    (ha : a.Samples now) (hb : b.Samples now) (h : a.stamped now = b.stamped now)
    (hc : c.sampled = some now) : a.step c = b.step c := by
  cases c with
  | issue =>
    cases hc
    simp only [step, issue, sample_of_samples ha, sample_of_samples hb, h]
  | accept =>
    cases hc
    simp only [step, accept, ha.open_, hb.open_, sample_of_samples ha, sample_of_samples hb, h,
      Bool.false_eq_true, if_false]
  | renew =>
    cases hc
    simp only [step, renew, ha.open_, hb.open_, sample_of_samples ha, sample_of_samples hb, h,
      Bool.false_eq_true, if_false]
  | _ => cases hc

theorem samples_of_notAfter {a : LeaseAuthority} {now : ControlStamp} (hf : a.fenced = false)
    (h : NotAfter a.lastStamp now) : a.Samples now := ⟨hf,h.1.symm,h.2⟩

theorem step_turnedDown {a : LeaseAuthority} {c : LeaseCall}
    (h : turnedDown ⟨a,c,(a.step c).2⟩ = true) :
    ∃ now, c.sampled = some now ∧ a.Samples now ∧ (a.step c).1 = a.stamped now := by
  have ho := a.step_outcome c
  generalize (a.step c).1 = b at ho ⊢
  generalize (a.step c).2 = r at ho h
  cases ho with
  | refused hc hs => exact ⟨_,hc,hs,rfl⟩
  | fenced | discontinuous | exhausted =>
    cases c <;> simp [turnedDown, LeaseCall.whenFenced, LeaseCall.whenDiscontinuous] at h
  | expired => cases c <;> simp [turnedDown] at h
  | _ => simp [turnedDown] at h

theorem reading_of_sampled {a : LeaseAuthority} {c : LeaseCall} {r : LeaseAnswer}
    {now : ControlStamp} (hf : a.fenced = false) (hc : c.sampled = some now) :
    reading ⟨a,c,r⟩ = some now := by
  cases c <;> simp_all [reading, LeaseCall.sampled]

/-- On a reading no earlier than the leading gate's stamp, both gates answer
alike and the lag is kept. -/
theorem step_lags {a b : LeaseAuthority} {c : LeaseCall} (h : b.Lags a)
    (hr : ∀ now, reading ⟨a,c,(a.step c).2⟩ = some now → NotAfter a.lastStamp now) :
    (a.step c).2 = (b.step c).2 ∧ (b.step c).1.Lags (a.step c).1 := by
  have sampled {now : ControlStamp} (hc : c.sampled = some now) :
      (a.step c).2 = (b.step c).2 ∧ (b.step c).1.Lags (a.step c).1 := by
    cases hf : a.fenced with
    | true =>
      rw [step_of_fenced hf hc, step_of_fenced (h.fenced ▸ hf) hc]
      exact ⟨rfl,h⟩
    | false =>
      have ht := hr now (reading_of_sampled hf hc)
      have ha := samples_of_notAfter hf ht
      have hb := samples_of_notAfter (h.fenced ▸ hf) (h.behind.trans ht)
      rw [step_of_stamped ha hb (h.stamped now) hc]
      exact ⟨rfl,lags_refl _⟩
  cases c with
  | issue | accept | renew => exact sampled rfl
  | revoke | suspendOrResume =>
    refine ⟨rfl,h.behind,?_⟩
    simp only [step, suspendOrResume, revoke]
    rw [h.same]
    rfl
  | recoverAfterReadiness now =>
    simp only [step, recoverAfterReadiness]
    split
    · exact ⟨rfl,h⟩
    · refine ⟨rfl,⟨rfl,le_rfl⟩,?_⟩
      simp only
      rw [h.same]
      rfl

/-- What is still to come samples in the domain of the gate and no earlier. -/
def Steady (a : LeaseAuthority) (rest : List LeaseVisit) : Prop :=
  (a.lastStamp :: readings rest).Pairwise NotAfter

theorem Steady.notAfter {a : LeaseAuthority} {v : LeaseVisit} {rest : List LeaseVisit}
    (h : a.Steady (v :: rest)) (now : ControlStamp) (hv : reading v = some now) :
    NotAfter a.lastStamp now := by
  refine (List.pairwise_cons.mp h).1 now ?_
  rw [readings, List.filterMap_cons_some hv]
  exact List.mem_cons_self

/-- A call leaves the last stamp alone or moves it to its own reading. -/
theorem step_lastStamp (a : LeaseAuthority) (c : LeaseCall) :
    (a.step c).1.lastStamp = a.lastStamp ∨
      reading ⟨a,c,(a.step c).2⟩ = some (a.step c).1.lastStamp := by
  have ho := a.step_outcome c
  generalize (a.step c).1 = b at ho ⊢
  generalize (a.step c).2 = r at ho ⊢
  cases ho with
  | fenced | discontinuous | revoked | suspended | notRecovered => exact .inl rfl
  | refused hc hs | expired hc hs | exhausted hc hs => exact .inr (reading_of_sampled hs.open_ hc)
  | issued hs | accepted hs | renewed hs => exact .inr (reading_of_sampled hs.open_ rfl)
  | recovered => exact .inr rfl

theorem steady_step {a : LeaseAuthority} {c : LeaseCall} {rest : List LeaseVisit}
    (h : a.Steady (⟨a,c,(a.step c).2⟩ :: rest)) : (a.step c).1.Steady rest := by
  unfold Steady readings at h ⊢
  rcases a.step_lastStamp c with he | he
  · rw [he]
    refine h.sublist (List.Sublist.cons_cons _ ?_)
    rw [List.filterMap_cons]
    split
    · exact List.Sublist.refl _
    · exact List.sublist_cons_self _ _
  · rw [List.filterMap_cons_some he] at h
    exact (List.pairwise_cons.mp h).2

/-- On a clock that stays in its domain and never goes back, leaving out any
calls turned down for what they propose changes no other answer of the run. -/
theorem rejected_traffic_invisible (now : ControlStamp) (entity : EntityRef) (a : LeaseAuthority)
    (ha : create now entity = some a) (calls : List LeaseCall)
    (hclock : (now :: readings (history step a calls)).Pairwise NotAfter) (kept : List LeaseVisit)
    (hk : Thinned (fun v => turnedDown v = true) (history step a calls) kept) :
    answers step a (kept.map Visit.call) = kept.map Visit.answer := by
  refine unwinding (fun rest a b => b.Lags a ∧ a.Steady rest) ?_ ?_ a a calls
    ⟨lags_refl a,?_⟩ kept hk
  · rintro a b c rest ⟨hl,hs⟩
    obtain ⟨he,hl⟩ := step_lags hl hs.notAfter
    exact ⟨he,hl,steady_step hs⟩
  · rintro a b c rest hv ⟨hl,hs⟩
    refine ⟨?_,steady_step hs⟩
    obtain ⟨t,hc,hsam,he⟩ := step_turnedDown hv
    have ht := hs.notAfter t (reading_of_sampled hsam.open_ hc)
    rw [he]
    exact ⟨hl.behind.trans ht,hl.stamped t⟩
  · rw [create_eq ha] at hclock ⊢
    exact hclock

/-- Leaving the stale proposal at reading 20 out of the run. -/
theorem rejected_traffic_invisible_stale :
    let entity : EntityRef := ⟨⟨1⟩,⟨1⟩,⟨1⟩,⟨1⟩⟩
    let a : LeaseAuthority := { entity, lastStamp := ⟨⟨1⟩,0⟩ }
    let issue : LeaseCall := .issue ⟨⟨1⟩,10⟩ ⟨5⟩ ⟨6⟩ ⟨7⟩ 3 true
    let stale : LeaseCall := .accept ⟨⟨1⟩,20⟩ ⟨entity,⟨5⟩,⟨9⟩,⟨6⟩,⟨7⟩,⟨1⟩,2⟩
    let renew : LeaseCall := .renew ⟨⟨1⟩,30⟩ ⟨5⟩ ⟨1⟩ ⟨1⟩
    create ⟨⟨1⟩,0⟩ entity = some a ∧
      answers step a [issue,stale,renew] =
        (answers step a [issue]) ++ [.result .staleOwner,.result .accepted] ∧
      answers step a [issue,renew] = answers step a [issue] ++ [.result .accepted] := by
  intro entity a issue stale renew
  have ha : create ⟨⟨1⟩,0⟩ entity = some a := by decide
  refine ⟨ha,by decide,?_⟩
  exact rejected_traffic_invisible _ _ _ ha [issue,stale,renew] (by decide) _
    (.keep _ (.drop _ (by decide) (.keep _ .nil)))

end LeaseAuthority
end Saex
