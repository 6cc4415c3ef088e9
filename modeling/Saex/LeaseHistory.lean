import Saex.LeaseOutcomes

/-! What an accepted proposal says about the past of its gate: the grant it
moves under, and that nothing ended that grant in between. -/
namespace Saex
open Transitions

/-- Every field bit of `m` is a field bit of `n`. -/
def FieldsWithin (m n : UInt64) : Prop :=
  ∀ i, m.toBitVec.getLsbD i = true → n.toBitVec.getLsbD i = true

theorem fieldsWithin_of_and_not (m n : UInt64) (h : m &&& ~~~n = 0) : FieldsWithin m n := by
  intro i hm
  have hb := congrArg (fun w : UInt64 => w.toBitVec.getLsbD i) h
  simp only [UInt64.toBitVec_and, UInt64.toBitVec_not, BitVec.getLsbD_and, BitVec.getLsbD_not,
    UInt64.toBitVec_zero, BitVec.getLsbD_zero, hm, Bool.true_and] at hb
  have hi : i < 64 := BitVec.lt_of_getLsbD hm
  simpa [hi] using hb

/-- A successful issue. -/
def Issues (v : LeaseVisit) : Prop := ∃ g, v.answer = .issued (some g)

/-- An open gate that sampled another domain or an earlier stamp. -/
def ClockBreak (v : LeaseVisit) : Prop :=
  ∃ now, v.call.sampled = some now ∧ v.before.fenced = false ∧ v.before.discontinuous now = true

/-- What ends a grant between its issue and an accept. -/
def Interrupts (v : LeaseVisit) : Prop :=
  v.call = .revoke ∨ v.call = .suspendOrResume ∨ v.answer = .recovered true ∨
    v.answer = .result .expired ∨ ClockBreak v

/-- The stamp of the last accepted renew of `g`, or of its issue. -/
def leaseStart (g : LeaseGrant) (issuedAt : ControlStamp) (newer : List LeaseVisit) : ControlStamp :=
  newer.foldl (fun t v => match v.call, v.answer with
    | .renew now _ owner _, .result .accepted => if owner = g.owner then now else t
    | _, _ => t) issuedAt

/-- The past split at the issue of `g`, with nothing after it that ends a grant. -/
structure LeaseSpan (h older newer : List LeaseVisit) (v : LeaseVisit) (g : LeaseGrant)
    (issuedAt : ControlStamp) : Prop where
  split : h = older ++ v :: newer
  issues : v.answer = .issued (some g)
  sampled : v.call.sampled = some issuedAt
  quiet : ∀ w ∈ newer, ¬ Issues w ∧ ¬ Interrupts w

/-- The held grant is the issued one, up to a deadline counted from `start`. -/
structure HeldFrom (a : LeaseAuthority) (held issued : LeaseGrant) (start : ControlStamp) : Prop where
  session : held.session = issued.session
  owner : held.owner = issued.owner
  catalog : held.catalog = issued.catalog
  state : held.state = issued.state
  fieldMask : held.fieldMask = issued.fieldMask
  domain : start.domain = a.lastStamp.domain
  past : start.microseconds.toNat ≤ a.lastStamp.microseconds.toNat
  deadline : held.deadline.microseconds.toNat = start.microseconds.toNat+2000000

/-- Every held grant has its span in the past. -/
def LeaseLaw (h : List LeaseVisit) (a : LeaseAuthority) : Prop :=
  ∀ held, a.grant = some held → ∃ older v newer g issuedAt,
    LeaseSpan h older newer v g issuedAt ∧ HeldFrom a held g (leaseStart g issuedAt newer)

theorem leaseStart_concat_renew (g : LeaseGrant) (t now : ControlStamp) (newer : List LeaseVisit)
    (a : LeaseAuthority) (session : SessionId) (renewal : Sequence) :
    leaseStart g t (newer ++ [⟨a,.renew now session g.owner renewal,.result .accepted⟩]) = now := by
  simp only [leaseStart, List.foldl_append, List.foldl_cons, List.foldl_nil, if_true]

theorem leaseStart_concat_other (g : LeaseGrant) (t : ControlStamp) (newer : List LeaseVisit)
    (v : LeaseVisit)
    (hv : ∀ now session owner renewal, v.call = .renew now session owner renewal →
      v.answer ≠ .result .accepted) :
    leaseStart g t (newer ++ [v]) = leaseStart g t newer := by
  -- `hv` rules the renewal branch of the fold out
  simp only [leaseStart, List.foldl_append, List.foldl_cons, List.foldl_nil]

theorem LeaseSpan.concat {h older newer : List LeaseVisit} {v w : LeaseVisit} {g : LeaseGrant}
    {t : ControlStamp} (hs : LeaseSpan h older newer v g t) (hi : ¬ Issues w) (hb : ¬ Interrupts w) :
    LeaseSpan (h ++ [w]) older (newer ++ [w]) v g t where
  split := by rw [hs.split, List.append_assoc, List.cons_append]
  issues := hs.issues
  sampled := hs.sampled
  quiet := by
    intro u hu
    rcases List.mem_append.mp hu with hu | hu
    · exact hs.quiet u hu
    · rw [List.mem_singleton.mp hu]
      exact ⟨hi,hb⟩

theorem HeldFrom.stamp {a b : LeaseAuthority} {held issued : LeaseGrant} {start : ControlStamp}
    (hh : HeldFrom a held issued start) (hd : b.lastStamp.domain = a.lastStamp.domain)
    (ht : a.lastStamp.microseconds.toNat ≤ b.lastStamp.microseconds.toNat) :
    HeldFrom b held issued start :=
  { hh with domain := hh.domain.trans hd.symm, past := hh.past.trans ht }

/-- A visit that keeps the grant and is neither an issue, a renewal nor an
interruption extends every span. -/
theorem LeaseLaw.extend {h : List LeaseVisit} {a b : LeaseAuthority} {w : LeaseVisit}
    (hl : LeaseLaw h a) (hg : b.grant = a.grant) (hd : b.lastStamp.domain = a.lastStamp.domain)
    (ht : a.lastStamp.microseconds.toNat ≤ b.lastStamp.microseconds.toNat)
    (hi : ¬ Issues w) (hb : ¬ Interrupts w)
    (hr : ∀ now session owner renewal, w.call = .renew now session owner renewal →
      w.answer ≠ .result .accepted) : LeaseLaw (h ++ [w]) b := by
  intro held hheld
  obtain ⟨older,v,newer,g,t,hs,hf⟩ := hl held (hg ▸ hheld)
  refine ⟨older,v,newer ++ [w],g,t,hs.concat hi hb,?_⟩
  rw [leaseStart_concat_other g t newer w hr]
  exact hf.stamp hd ht

theorem leaseLaw_of_no_grant (h : List LeaseVisit) {a : LeaseAuthority} (ha : a.grant = none) :
    LeaseLaw h a := by
  intro held hheld
  rw [ha] at hheld
  cases hheld

theorem deadline_exact (now : ControlStamp) (h : LeaseAuthority.deadlineOverflows now = false) :
    (now.microseconds+leaseMicroseconds).toNat = now.microseconds.toNat+2000000 := by
  have hfits : ¬ 2^64-1 < now.microseconds.toNat+2000000 := by
    rw [← LeaseAuthority.deadlineOverflows_iff, h]
    exact Bool.false_ne_true
  rw [UInt64.toNat_add, leaseMicroseconds_toNat]
  omega

/-- A refused visit is no renewal. -/
theorem refusal_not_accepted {r : LeaseAnswer} (hr : r.refusal = true) :
    r ≠ .result .accepted ∧ r ≠ .result .expired ∧ r ≠ .recovered true ∧
      ∀ g, r ≠ .issued (some g) := by
  refine ⟨?_,?_,?_,fun g => ?_⟩ <;> rintro rfl <;>
    simp [LeaseAnswer.refusal, LeaseResult.rejection] at hr

theorem whenFenced_not_accepted (c : LeaseCall) :
    c.whenFenced ≠ .result .accepted ∧ c.whenFenced ≠ .result .expired ∧
      c.whenFenced ≠ .recovered true ∧ ∀ g, c.whenFenced ≠ .issued (some g) := by
  cases c <;> simp [LeaseCall.whenFenced]

theorem not_interrupts_of_sampled {v : LeaseVisit} {now : ControlStamp}
    (hc : v.call.sampled = some now) (he : v.answer ≠ .result .expired)
    (hn : v.answer ≠ .recovered true)
    (hb : v.before.fenced = true ∨ v.before.discontinuous now = false) : ¬ Interrupts v := by
  rintro (h | h | h | h | ⟨now',hc',hf,hd⟩)
  · rw [h] at hc; cases hc
  · rw [h] at hc; cases hc
  · exact hn h
  · exact he h
  · rw [hc] at hc'
    cases hc'
    rcases hb with hb | hb
    · rw [hb] at hf; cases hf
    · rw [hb] at hd; cases hd

/-- One more call keeps the law: it ends the grant, keeps it or starts it anew. -/
theorem leaseLaw_step (h : List LeaseVisit) (a : LeaseAuthority) (c : LeaseCall)
    (hl : LeaseLaw h a) : LeaseLaw (h ++ [⟨a,c,(a.step c).2⟩]) (a.step c).1 := by
  have ho := a.step_outcome c
  generalize (a.step c).1 = b at ho ⊢
  generalize (a.step c).2 = r at ho ⊢
  cases ho with
  | fenced hc hf =>
    obtain ⟨hacc,hexp,hrec,hiss⟩ := whenFenced_not_accepted c
    exact hl.extend rfl rfl le_rfl (fun ⟨g,hg⟩ => hiss g hg)
      (not_interrupts_of_sampled hc hexp hrec (.inl hf)) (fun _ _ _ _ _ => hacc)
  | discontinuous => exact leaseLaw_of_no_grant _ rfl
  | refused hc hs hr =>
    obtain ⟨hacc,hexp,hrec,hiss⟩ := refusal_not_accepted hr
    exact hl.extend rfl hs.domain hs.monotone (fun ⟨g,hg⟩ => hiss g hg)
      (not_interrupts_of_sampled hc hexp hrec (.inr hs.continuous)) (fun _ _ _ _ _ => hacc)
  | expired => exact leaseLaw_of_no_grant _ rfl
  | exhausted => exact leaseLaw_of_no_grant _ rfl
  | @issued now session catalog state fieldMask applied owner hs hn hd =>
    -- A new grant starts a span with nothing newer in it.
    intro held hheld
    cases hheld
    refine ⟨h,_,[],_,now,⟨rfl,rfl,rfl,by simp⟩,?_⟩
    exact ⟨rfl,rfl,rfl,rfl,rfl,rfl,le_rfl,deadline_exact now hd⟩
  | accepted hs hg ht hj =>
    refine hl.extend rfl hs.domain hs.monotone ?_
      (not_interrupts_of_sampled rfl nofun nofun (.inr hs.continuous)) nofun
    rintro ⟨g',hg'⟩
    cases hg'
  | @renewed now g renewal hs hg ht hr hd =>
    intro held hheld
    cases hheld
    -- The span of the grant goes on, but its two seconds are counted from here.
    obtain ⟨older,v,newer,g0,t,hspan,hf⟩ := hl g hg
    have hi : ¬ Issues ⟨a,.renew now g.session g.owner renewal,.result .accepted⟩ := by
      rintro ⟨g',hg'⟩
      cases hg'
    refine ⟨older,v,_,g0,t,hspan.concat hi
      (not_interrupts_of_sampled rfl nofun nofun (.inr hs.continuous)),?_⟩
    have hstart : leaseStart g0 t
        (newer ++ [⟨a,.renew now g.session g.owner renewal,.result .accepted⟩]) = now := by
      rw [hf.owner, leaseStart_concat_renew]
    rw [hstart]
    exact ⟨hf.session,hf.owner,hf.catalog,hf.state,hf.fieldMask,rfl,le_rfl,deadline_exact now hd⟩
  | revoked => exact leaseLaw_of_no_grant _ rfl
  | suspended => exact leaseLaw_of_no_grant _ rfl
  | recovered => exact leaseLaw_of_no_grant _ rfl
  | notRecovered hn =>
    refine hl.extend rfl rfl le_rfl ?_ ?_ nofun
    · rintro ⟨g',hg'⟩
      cases hg'
    · rintro (hi | hi | hi | hi | ⟨_,hi,_⟩) <;> cases hi

theorem leaseLaw_run (a : LeaseAuthority) (ha : a.grant = none) (calls : List LeaseCall) :
    LeaseLaw (history LeaseAuthority.step a calls) (run LeaseAuthority.step a calls) :=
  history_invariant LeaseAuthority.step LeaseLaw leaseLaw_step a (leaseLaw_of_no_grant _ ha) calls

namespace LeaseAuthority

@[simp] theorem step_entity (a : LeaseAuthority) (c : LeaseCall) : (a.step c).1.entity = a.entity := by
  have ho := a.step_outcome c
  generalize (a.step c).1 = b at ho ⊢
  generalize (a.step c).2 = r at ho
  cases ho <;> rfl

theorem run_entity (a : LeaseAuthority) (calls : List LeaseCall) :
    (run step a calls).entity = a.entity :=
  run_invariant step (fun b => b.entity = a.entity)
    (fun b c hb => (b.step_entity c).trans hb) a rfl calls

theorem create_eq {now : ControlStamp} {entity : EntityRef} {a : LeaseAuthority}
    (h : create now entity = some a) : a = { entity, lastStamp := now } := by
  unfold create at h
  split at h
  · cases h
  · exact (Option.some.inj h).symm

/-- What the checks of `accept` establish about an accepted proposal. -/
structure Admits (a : LeaseAuthority) (g : LeaseGrant) (p : OwnerProposal) : Prop where
  entity : p.entity = a.entity
  session : p.session = g.session
  owner : p.owner = g.owner
  catalog : p.catalog = g.catalog
  state : p.state = g.state
  sequence : a.lastMotion.value.toNat < p.sequence.value.toNat
  nonempty : p.fieldMask ≠ 0
  within : FieldsWithin p.fieldMask g.fieldMask

theorem admits_of_judge {a : LeaseAuthority} {g : LeaseGrant} {p : OwnerProposal}
    (h : a.judge g p = .accepted) : a.Admits g p := by
  simp only [judge, ne_eq, Bool.or_eq_true, decide_eq_true_eq] at h
  split_ifs at h with h1 h2 h3 h4 h5
  simp only [not_or, not_not] at h1 h2 h3 h4 h5
  exact ⟨h1,h2.1,h2.2,h3.1,h3.2,UInt64.lt_iff_toNat_lt.mp (UInt64.not_le.mp h4),h5.1,
    fieldsWithin_of_and_not _ _ h5.2⟩

/-- The two calls that can be answered as accepted, and the state after each. -/
inductive Accepting (a : LeaseAuthority) : LeaseCall → LeaseAuthority → Prop
  | proposal {now : ControlStamp} {p : OwnerProposal} {g : LeaseGrant} (hs : a.Samples now)
      (hg : a.grant = some g) (ht : now.microseconds.toNat < g.deadline.microseconds.toNat)
      (hadm : a.Admits g p) :
      Accepting a (.accept now p) { a with lastStamp := now, lastMotion := p.sequence }
  | renewal {now : ControlStamp} {g : LeaseGrant} {renewal : Sequence} (hg : a.grant = some g)
      (hr : a.lastRenewal.value.toNat < renewal.value.toNat) :
      Accepting a (.renew now g.session g.owner renewal)
        { a with
          lastStamp := now, lastRenewal := renewal
          grant := some { g with deadline :=
            { g.deadline with microseconds := now.microseconds+leaseMicroseconds } } }

theorem step_accepted {a : LeaseAuthority} {c : LeaseCall}
    (h : (a.step c).2 = .result .accepted) : a.Accepting c (a.step c).1 := by
  have ho := a.step_outcome c
  rw [h] at ho
  generalize (a.step c).1 = b at ho ⊢
  generalize hacc : LeaseAnswer.result LeaseResult.accepted = r at ho
  cases ho with
  | accepted hs hg ht hj => exact .proposal hs hg ht (admits_of_judge hj)
  | renewed hs hg ht hr hd => exact .renewal hg hr
  | refused hc hs hrf => exact absurd hacc.symm (refusal_not_accepted hrf).1
  | fenced => exact absurd hacc.symm (whenFenced_not_accepted c).1
  | exhausted => exact absurd hacc.symm (whenFenced_not_accepted c).1
  | discontinuous => cases c <;> cases hacc
  | _ => cases hacc

/-- An accepted proposal: the grant it met and the reading it was judged at. -/
theorem accepted_inv {a : LeaseAuthority} {t : ControlStamp} {p : OwnerProposal}
    (h : (a.step (.accept t p)).2 = .result .accepted) :
    ∃ g, a.grant = some g ∧ a.Samples t ∧ a.Admits g p ∧
      t.microseconds.toNat < g.deadline.microseconds.toNat := by
  have ha := step_accepted h
  generalize (a.step (.accept t p)).1 = b at ha
  cases ha with
  | proposal hs hg ht hadm => exact ⟨_,hg,hs,hadm,ht⟩

/-- An accepted proposal moves under the last issued grant: its session, owner
and revisions are that grant's, its fields lie within the granted ones, nothing
ended the grant in between, and the sampled stamp is less than two seconds
after the issue or the last accepted renewal, counted without wrapping. -/
theorem accept_within_lease (now : ControlStamp) (entity : EntityRef) (a : LeaseAuthority)
    (ha : create now entity = some a) (calls : List LeaseCall) (t : ControlStamp)
    (p : OwnerProposal) (h : ((run step a calls).step (.accept t p)).2 = .result .accepted) :
    ∃ older v newer g issuedAt,
      history step a calls = older ++ v :: newer ∧
      v.answer = .issued (some g) ∧ v.call.sampled = some issuedAt ∧
      (∀ w ∈ newer, ¬ Issues w ∧ ¬ Interrupts w) ∧
      g.session = p.session ∧ g.owner = p.owner ∧ g.catalog = p.catalog ∧ g.state = p.state ∧
      p.entity = entity ∧ p.fieldMask ≠ 0 ∧ FieldsWithin p.fieldMask g.fieldMask ∧
      (leaseStart g issuedAt newer).domain = t.domain ∧
      (leaseStart g issuedAt newer).microseconds.toNat ≤ t.microseconds.toNat ∧
      t.microseconds.toNat < (leaseStart g issuedAt newer).microseconds.toNat+2000000 := by
  have hc := create_eq ha
  obtain ⟨held,hheld,hs,hadm,ht⟩ := accepted_inv h
  obtain ⟨older,v,newer,g,issuedAt,hspan,hf⟩ :=
    leaseLaw_run a (by rw [hc]) calls held hheld
  refine ⟨older,v,newer,g,issuedAt,hspan.split,hspan.issues,hspan.sampled,hspan.quiet,
    (hadm.session.trans hf.session).symm,(hadm.owner.trans hf.owner).symm,
    (hadm.catalog.trans hf.catalog).symm,(hadm.state.trans hf.state).symm,?_,hadm.nonempty,
    hf.fieldMask ▸ hadm.within,hf.domain.trans hs.domain.symm,hf.past.trans hs.monotone,
    hf.deadline ▸ ht⟩
  rw [hadm.entity, run_entity, hc]

/-- A proposal at reading 20 under a grant issued at reading 10. -/
theorem accept_within_lease_at_twenty :
    let entity : EntityRef := ⟨⟨1⟩,⟨1⟩,⟨1⟩,⟨1⟩⟩
    let a : LeaseAuthority := { entity, lastStamp := ⟨⟨1⟩,0⟩ }
    let calls : List LeaseCall := [.issue ⟨⟨1⟩,10⟩ ⟨5⟩ ⟨6⟩ ⟨7⟩ 3 true]
    let p : OwnerProposal := ⟨entity,⟨5⟩,⟨1⟩,⟨6⟩,⟨7⟩,⟨1⟩,2⟩
    create ⟨⟨1⟩,0⟩ entity = some a ∧
    ((run step a calls).step (.accept ⟨⟨1⟩,20⟩ p)).2 = .result .accepted ∧
    ∃ older v newer g issuedAt, history step a calls = older ++ v :: newer ∧
      v.answer = .issued (some g) ∧ g.owner = p.owner ∧ FieldsWithin p.fieldMask g.fieldMask ∧
      20 < (leaseStart g issuedAt newer).microseconds.toNat+2000000 := by
  intro entity a calls p
  have ha : create ⟨⟨1⟩,0⟩ entity = some a := by decide
  have hp : ((run step a calls).step (.accept ⟨⟨1⟩,20⟩ p)).2 = .result .accepted := by decide
  obtain ⟨older,v,newer,g,issuedAt,hh,hv,_,_,_,ho,_,_,_,_,hf,_,_,ht⟩ :=
    accept_within_lease _ _ _ ha calls _ _ hp
  exact ⟨ha,hp,older,v,newer,g,issuedAt,hh,hv,ho,hf,ht⟩

end LeaseAuthority
end Saex
