import Saex.LeaseHistory
import Mathlib.Data.Prod.Lex
import Mathlib.Order.Basic

/-! Owner epochs only grow, and within an epoch so do the accepted sequences and
renewals. The counters restart at every issue; the epoch in front of them does not. -/
namespace Saex
open Transitions

/-- Epoch first, then counter, in exact natural arithmetic. -/
def epochKey (x : OwnerEpoch × Sequence) : ℕ ×ₗ ℕ := toLex (x.1.value.toNat,x.2.value.toNat)

def proposalPair : LeaseCall → Option (OwnerEpoch × Sequence)
  | .accept _ p => some (p.owner,p.sequence)
  | _ => none

def renewalPair : LeaseCall → Option (OwnerEpoch × Sequence)
  | .renew _ _ owner renewal => some (owner,renewal)
  | _ => none

def acceptedPair (f : LeaseCall → Option (OwnerEpoch × Sequence)) (v : LeaseVisit) :
    Option (OwnerEpoch × Sequence) :=
  if v.answer = .result .accepted then f v.call else none

def acceptedPairs (f : LeaseCall → Option (OwnerEpoch × Sequence)) (h : List LeaseVisit) :
    List (OwnerEpoch × Sequence) := h.filterMap (acceptedPair f)

def issuedOwner (v : LeaseVisit) : Option OwnerEpoch :=
  match v.answer with
  | .issued (some g) => some g.owner
  | _ => none

def issuedOwners (h : List LeaseVisit) : List OwnerEpoch := h.filterMap issuedOwner

theorem epochKey_lt_iff (x y : OwnerEpoch × Sequence) : epochKey x < epochKey y ↔
    x.1.value.toNat < y.1.value.toNat ∨
      x.1.value.toNat = y.1.value.toNat ∧ x.2.value.toNat < y.2.value.toNat :=
  Prod.Lex.lt_iff

/-- A held grant carries the last issued epoch. -/
def HeldOwner (a : LeaseAuthority) : Prop := ∀ g, a.grant = some g → g.owner = a.lastOwner

namespace LeaseAuthority

theorem heldOwner_of_no_grant {a : LeaseAuthority} (h : a.grant = none) : HeldOwner a := by
  intro g hg
  rw [h] at hg
  cases hg

theorem step_heldOwner (a : LeaseAuthority) (c : LeaseCall) (h : HeldOwner a) :
    HeldOwner (a.step c).1 := by
  have ho := a.step_outcome c
  generalize (a.step c).1 = b at ho ⊢
  generalize (a.step c).2 = r at ho
  cases ho with
  | fenced | notRecovered | refused | accepted => exact h
  | issued =>
    intro g hg
    cases hg
    rfl
  | @renewed now g renewal hs hg =>
    intro g' hg'
    cases hg'
    exact h g hg
  | discontinuous | expired | exhausted | revoked | suspended | recovered =>
    exact heldOwner_of_no_grant rfl

/-- The counter `k` guards the pairs `f` reads off accepted calls: an accepted
pair lies above it and becomes it, and no call moves it back. -/
structure Guards (f : LeaseCall → Option (OwnerEpoch × Sequence)) (k : LeaseAuthority → Sequence) :
    Prop where
  above : ∀ a c x, HeldOwner a → (a.step c).2 = .result .accepted → f c = some x →
    epochKey (a.lastOwner,k a) < epochKey x ∧ x = ((a.step c).1.lastOwner,k (a.step c).1)
  mono : ∀ a c, HeldOwner a →
    epochKey (a.lastOwner,k a) ≤ epochKey ((a.step c).1.lastOwner,k (a.step c).1)

theorem epochKey_issue {current owner : OwnerEpoch} (h : next current = some owner)
    (m n : Sequence) : epochKey (current,m) < epochKey (owner,n) := by
  rw [epochKey_lt_iff]
  have := next_toNat current owner h
  simp only
  omega

theorem motion_guards : Guards proposalPair LeaseAuthority.lastMotion where
  above a c x hh hr hx := by
    have ha := step_accepted hr
    generalize (a.step c).1 = b at ha ⊢
    cases ha with
    | proposal hs hg ht hadm =>
      cases hx
      have howner := hadm.owner.trans (hh _ hg)
      refine ⟨?_,by simp only [howner]⟩
      rw [epochKey_lt_iff]
      exact .inr ⟨by simp only [howner],hadm.sequence⟩
    | renewal => cases hx
  mono a c hh := by
    have ho := a.step_outcome c
    generalize (a.step c).1 = b at ho ⊢
    generalize (a.step c).2 = r at ho
    cases ho with
    | issued hs hn hd => exact (epochKey_issue hn _ _).le
    | accepted hs hg ht hj =>
      apply le_of_lt
      rw [epochKey_lt_iff]
      exact .inr ⟨rfl,(admits_of_judge hj).sequence⟩
    | _ => exact le_rfl

theorem renewal_guards : Guards renewalPair LeaseAuthority.lastRenewal where
  above a c x hh hr hx := by
    have ha := step_accepted hr
    generalize (a.step c).1 = b at ha ⊢
    cases ha with
    | renewal hg hlt =>
      cases hx
      have howner := hh _ hg
      refine ⟨?_,by simp only [howner]⟩
      rw [epochKey_lt_iff]
      exact .inr ⟨by simp only [howner],hlt⟩
    | proposal => cases hx
  mono a c hh := by
    have ho := a.step_outcome c
    generalize (a.step c).1 = b at ho ⊢
    generalize (a.step c).2 = r at ho
    cases ho with
    | issued hs hn hd => exact (epochKey_issue hn _ _).le
    | renewed hs hg ht hlt hd =>
      apply le_of_lt
      rw [epochKey_lt_iff]
      exact .inr ⟨rfl,hlt⟩
    | _ => exact le_rfl

end LeaseAuthority

/-- The accepted pairs grow strictly and stay at or below the guarding counter. -/
structure CounterLaw (f : LeaseCall → Option (OwnerEpoch × Sequence)) (k : LeaseAuthority → Sequence)
    (h : List LeaseVisit) (a : LeaseAuthority) : Prop where
  held : HeldOwner a
  sorted : (acceptedPairs f h).Pairwise (fun x y => epochKey x < epochKey y)
  below : ∀ x ∈ acceptedPairs f h, epochKey x ≤ epochKey (a.lastOwner,k a)

theorem counterLaw_step {f : LeaseCall → Option (OwnerEpoch × Sequence)}
    {k : LeaseAuthority → Sequence} (hg : LeaseAuthority.Guards f k) (h : List LeaseVisit)
    (a : LeaseAuthority) (c : LeaseCall) (hl : CounterLaw f k h a) :
    CounterLaw f k (h ++ [⟨a,c,(a.step c).2⟩]) (a.step c).1 := by
  have hm := hg.mono a c hl.held
  have happ : acceptedPairs f (h ++ [⟨a,c,(a.step c).2⟩]) =
      acceptedPairs f h ++ (acceptedPair f ⟨a,c,(a.step c).2⟩).toList := by
    simp only [acceptedPairs, List.filterMap_append]
    congr 1
  cases hp : acceptedPair f ⟨a,c,(a.step c).2⟩ with
  | none =>
    rw [hp, Option.toList_none, List.append_nil] at happ
    refine ⟨a.step_heldOwner c hl.held,?_,?_⟩ <;> rw [happ]
    · exact hl.sorted
    · exact fun x hx => (hl.below x hx).trans hm
  | some x =>
    rw [hp, Option.toList_some] at happ
    simp only [acceptedPair, Option.ite_none_right_eq_some] at hp
    obtain ⟨habove,hx⟩ := hg.above a c x hl.held hp.1 hp.2
    refine ⟨a.step_heldOwner c hl.held,?_,?_⟩ <;> rw [happ]
    · refine List.pairwise_append.mpr ⟨hl.sorted,List.pairwise_singleton _ _,?_⟩
      intro y hy z hz
      rw [List.mem_singleton.mp hz]
      exact (hl.below y hy).trans_lt habove
    · intro y hy
      rcases List.mem_append.mp hy with hy | hy
      · exact (hl.below y hy).trans hm
      · rw [List.mem_singleton.mp hy, ← hx]

theorem counterLaw_run {f : LeaseCall → Option (OwnerEpoch × Sequence)}
    {k : LeaseAuthority → Sequence} (hg : LeaseAuthority.Guards f k) (a : LeaseAuthority)
    (ha : HeldOwner a) (calls : List LeaseCall) :
    CounterLaw f k (history LeaseAuthority.step a calls) (run LeaseAuthority.step a calls) :=
  history_invariant LeaseAuthority.step (CounterLaw f k) (counterLaw_step hg) a
    ⟨ha,List.Pairwise.nil,by simp [acceptedPairs]⟩ calls

/-- Strictly growing pairs are never accepted twice. -/
theorem CounterLaw.nodup {f : LeaseCall → Option (OwnerEpoch × Sequence)}
    {k : LeaseAuthority → Sequence} {h : List LeaseVisit} {a : LeaseAuthority}
    (hl : CounterLaw f k h a) : (acceptedPairs f h).Nodup :=
  hl.sorted.imp (fun hlt he => hlt.ne (congrArg epochKey he))

/-- A run never accepts a pair at or below the counter it starts from. -/
theorem accepted_above_start {f : LeaseCall → Option (OwnerEpoch × Sequence)}
    {k : LeaseAuthority → Sequence} (hg : LeaseAuthority.Guards f k) (a : LeaseAuthority)
    (ha : HeldOwner a) (calls : List LeaseCall) :
    ∀ x ∈ acceptedPairs f (history LeaseAuthority.step a calls),
      epochKey (a.lastOwner,k a) < epochKey x := by
  -- From the front: the state after the first call is the start of the rest.
  induction calls generalizing a with
  | nil => simp [acceptedPairs]
  | cons c cs ih =>
    intro x hx
    rw [acceptedPairs, history_cons, List.filterMap_cons] at hx
    split at hx
    · exact (hg.mono a c ha).trans_lt (ih _ (a.step_heldOwner c ha) x hx)
    · rename_i y hy
      simp only [acceptedPair, Option.ite_none_right_eq_some] at hy
      obtain ⟨habove,he⟩ := hg.above a c y ha hy.1 hy.2
      rcases List.mem_cons.mp hx with rfl | hx
      · exact habove
      · exact (hg.mono a c ha).trans_lt (ih _ (a.step_heldOwner c ha) x hx)

/-- The successful issues so far number the epochs 1, 2, … up to the last one. -/
def IssueLaw (h : List LeaseVisit) (a : LeaseAuthority) : Prop :=
  (issuedOwners h).map (fun o => o.value.toNat) = List.range' 1 a.lastOwner.value.toNat

namespace LeaseAuthority

/-- A successful issue takes the exact next epoch; nothing else changes it. -/
theorem step_lastOwner (a : LeaseAuthority) (c : LeaseCall) :
    (∃ g, (a.step c).2 = .issued (some g) ∧ g.owner = (a.step c).1.lastOwner ∧
      (a.step c).1.lastOwner.value.toNat = a.lastOwner.value.toNat+1) ∨
    ((∀ g, (a.step c).2 ≠ .issued (some g)) ∧ (a.step c).1.lastOwner = a.lastOwner) := by
  have ho := a.step_outcome c
  generalize (a.step c).1 = b at ho ⊢
  generalize (a.step c).2 = r at ho ⊢
  cases ho with
  | issued hs hn hd => exact .inl ⟨_,rfl,rfl,next_toNat _ _ hn⟩
  | refused hc hs hr => exact .inr ⟨(refusal_not_accepted hr).2.2.2,rfl⟩
  | fenced => exact .inr ⟨(whenFenced_not_accepted c).2.2.2,rfl⟩
  | exhausted => exact .inr ⟨(whenFenced_not_accepted c).2.2.2,rfl⟩
  | discontinuous => exact .inr ⟨by cases c <;> nofun,rfl⟩
  | _ => exact .inr ⟨nofun,rfl⟩

theorem issuedOwner_of_issued {v : LeaseVisit} {g : LeaseGrant} (h : v.answer = .issued (some g)) :
    issuedOwner v = some g.owner := by
  simp only [issuedOwner, h]

theorem issuedOwner_eq_none {v : LeaseVisit} (h : ∀ g, v.answer ≠ .issued (some g)) :
    issuedOwner v = none := by
  unfold issuedOwner
  split
  · rename_i g hg
    exact absurd hg (h g)
  · rfl

theorem issueLaw_step (h : List LeaseVisit) (a : LeaseAuthority) (c : LeaseCall)
    (hl : IssueLaw h a) : IssueLaw (h ++ [⟨a,c,(a.step c).2⟩]) (a.step c).1 := by
  unfold IssueLaw issuedOwners at hl ⊢
  rw [List.filterMap_append, List.map_append, hl]
  rcases a.step_lastOwner c with ⟨g,hr,hg,hn⟩ | ⟨hr,hn⟩
  · rw [hn, List.range'_concat, List.filterMap_cons_some (issuedOwner_of_issued hr), hg]
    simp only [List.filterMap_nil, List.map_cons, List.map_nil, hn]
    rw [Nat.one_mul, Nat.add_comm]
  · rw [List.filterMap_cons_none (issuedOwner_eq_none hr), hn]
    simp only [List.filterMap_nil, List.map_nil, List.append_nil]

theorem issueLaw_run (a : LeaseAuthority) (ha : a.lastOwner.value = 0) (calls : List LeaseCall) :
    IssueLaw (history step a calls) (run step a calls) := by
  refine history_invariant step IssueLaw issueLaw_step a ?_ calls
  simp only [IssueLaw, ha]
  rfl

/-- An issue that meets the last epoch 2^64-1 returns none. -/
theorem issue_at_limit (a : LeaseAuthority) (h : a.lastOwner.value.toNat = 2^64-1) (c : LeaseCall)
    (g : LeaseGrant) : (a.step c).2 ≠ .issued (some g) := by
  intro hr
  rcases a.step_lastOwner c with ⟨g',_,_,hn⟩ | ⟨hne,_⟩
  · have := (a.step c).1.lastOwner.value.toNat_lt
    omega
  · exact hne g hr

/-- After a successful issue no pair of an older epoch is accepted. -/
theorem accepted_after_issue {f : LeaseCall → Option (OwnerEpoch × Sequence)}
    {k : LeaseAuthority → Sequence} (hg : Guards f k) (a : LeaseAuthority) (ha : HeldOwner a)
    (calls : List LeaseCall) (older newer : List LeaseVisit) (v : LeaseVisit) (g : LeaseGrant)
    (h : history step a calls = older ++ v :: newer) (hv : v.answer = .issued (some g)) :
    ∀ x ∈ acceptedPairs f newer, g.owner.value.toNat ≤ x.1.value.toNat := by
  obtain ⟨pre,post,_,_,hve,hn⟩ := history_split step a calls older newer v h
  have hheld := run_invariant step HeldOwner step_heldOwner a ha pre
  intro x hx
  rw [hn] at hx
  have hlt := accepted_above_start hg _ (step_heldOwner _ v.call hheld) post x hx
  have hans : (step (run step a pre) v.call).2 = .issued (some g) := by
    rw [← hv, hve]
  rcases step_lastOwner (run step a pre) v.call with ⟨g',hr,hown,_⟩ | ⟨hne,_⟩
  · rw [hans] at hr
    cases hr
    rw [hown]
    rw [epochKey_lt_iff] at hlt
    simp only at hlt
    omega
  · exact absurd hans (hne g)

/-- Over a whole run the issued epochs grow strictly and never wrap, and so do
the accepted (owner, sequence) and (owner, renewal) pairs: nothing is accepted
twice, and nothing of an older grant after a newer issue. -/
theorem epochs_and_counters_increase (now : ControlStamp) (entity : EntityRef) (a : LeaseAuthority)
    (ha : create now entity = some a) (calls : List LeaseCall) :
    let h := history step a calls
    (issuedOwners h).Pairwise (fun o o' => o.value.toNat < o'.value.toNat) ∧
    (∀ n, (issuedOwners h).getLast? = some n → n.value.toNat = 2^64-1 →
      ∀ t session catalog state fieldMask applied,
        ((run step a calls).issue t session catalog state fieldMask applied).2 = none) ∧
    (acceptedPairs proposalPair h).Pairwise (fun x y => epochKey x < epochKey y) ∧
    (acceptedPairs renewalPair h).Pairwise (fun x y => epochKey x < epochKey y) ∧
    (acceptedPairs proposalPair h).Nodup ∧ (acceptedPairs renewalPair h).Nodup ∧
    ∀ older v newer g, h = older ++ v :: newer → v.answer = .issued (some g) →
      ∀ x ∈ acceptedPairs proposalPair newer ++ acceptedPairs renewalPair newer,
        g.owner.value.toNat ≤ x.1.value.toNat := by
  have hc := create_eq ha
  have hh : HeldOwner a := heldOwner_of_no_grant (by rw [hc])
  have hi := issueLaw_run a (by rw [hc]) calls
  have hm := counterLaw_run motion_guards a hh calls
  have hr := counterLaw_run renewal_guards a hh calls
  refine ⟨?_,?_,hm.sorted,hr.sorted,hm.nodup,hr.nodup,?_⟩
  · have hp := List.pairwise_lt_range' (s := 1) (n := (run step a calls).lastOwner.value.toNat)
    rw [← hi] at hp
    exact List.pairwise_map.mp hp
  · -- The last issued owner is the counter itself, which is at its end.
    intro n hn hlim t session catalog state fieldMask applied
    have hlast : (run step a calls).lastOwner.value.toNat = n.value.toNat := by
      have hg := congrArg List.getLast? hi
      rw [List.getLast?_map, hn, List.getLast?_range'] at hg
      split at hg
      · cases hg
      · simp only [Option.map_some, Option.some.injEq] at hg
        omega
    have hne := issue_at_limit (run step a calls) (hlast.trans hlim)
      (.issue t session catalog state fieldMask applied)
    rw [Option.eq_none_iff_forall_ne_some]
    intro g hg
    exact hne g (congrArg LeaseAnswer.issued hg)
  · intro older v newer g hsplit hv x hx
    rcases List.mem_append.mp hx with hx | hx
    · exact accepted_after_issue motion_guards a hh calls older newer v g hsplit hv x hx
    · exact accepted_after_issue renewal_guards a hh calls older newer v g hsplit hv x hx

/-- Two issues with an accepted proposal under each: the sequence starts over at
one, the pairs still grow. -/
theorem epochs_and_counters_increase_twice :
    let entity : EntityRef := ⟨⟨1⟩,⟨1⟩,⟨1⟩,⟨1⟩⟩
    let a : LeaseAuthority := { entity, lastStamp := ⟨⟨1⟩,0⟩ }
    let calls : List LeaseCall :=
      [.issue ⟨⟨1⟩,10⟩ ⟨5⟩ ⟨6⟩ ⟨7⟩ 3 true,.accept ⟨⟨1⟩,20⟩ ⟨entity,⟨5⟩,⟨1⟩,⟨6⟩,⟨7⟩,⟨1⟩,2⟩,
        .issue ⟨⟨1⟩,30⟩ ⟨5⟩ ⟨6⟩ ⟨7⟩ 3 true,.accept ⟨⟨1⟩,40⟩ ⟨entity,⟨5⟩,⟨2⟩,⟨6⟩,⟨7⟩,⟨1⟩,2⟩]
    create ⟨⟨1⟩,0⟩ entity = some a ∧
    acceptedPairs proposalPair (history step a calls) = [(⟨1⟩,⟨1⟩),(⟨2⟩,⟨1⟩)] ∧
    (acceptedPairs proposalPair (history step a calls)).Pairwise
      (fun x y => epochKey x < epochKey y) := by
  intro entity a calls
  have ha : create ⟨⟨1⟩,0⟩ entity = some a := by decide
  exact ⟨ha,by decide,(epochs_and_counters_increase _ _ _ ha calls).2.2.1⟩

end LeaseAuthority
end Saex
