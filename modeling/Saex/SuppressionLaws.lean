import Saex.Suppression

/-! What a suppression transaction writes over a whole run of calls, whatever
its port answers, and the context it leaves behind on a port that stores. -/
namespace Saex
open Transitions

/-- A register file: a write is stored, a read changes nothing, and a read that
succeeds tells the contents. Reads may fail. -/
structure FaithfulPort {σ : Type*} (port : SuppressionContextPort σ)
    (context : σ → SuppressionRegisters) : Prop where
  read_context : ∀ s old, context (port.read s old).1 = context s
  read_truthful : ∀ s old, (port.read s old).2.1 = true → (port.read s old).2.2 = context s
  write_context : ∀ s registers, context (port.write s registers).1 = registers

theorem writes_append (a b : List PortEvent) : writes (a ++ b) = writes a ++ writes b :=
  List.filterMap_append

theorem writes_read_cons (ok : Bool) (registers : SuppressionRegisters) (events : List PortEvent) :
    writes (.read ok registers :: events) = writes events := rfl

/-- A call that passes the checks cannot wrap its return address or stack pointer. -/
theorem suppressible_exact {expected : SuppressionRegisters} {callAddress : UInt32}
    (h : suppressible expected callAddress = true) :
    (callAddress+6).toNat = callAddress.toNat+6 ∧
      (expected.esp+16).toNat = expected.esp.toNat+16 := by
  simp only [suppressible, Bool.not_eq_true', Bool.or_eq_false_iff, decide_eq_false_iff_not,
    gt_iff_lt, UInt32.not_lt, UInt32.le_iff_toNat_le] at h
  have hcall := h.1.1.1.1.1.1.1.1.2
  have hesp := h.1.1.1.1.2
  have h6 : (uint32Max-6).toNat = 2^32-1-6 := rfl
  have h16 : (uint32Max-16).toNat = 2^32-1-16 := rfl
  rw [h6] at hcall
  rw [h16] at hesp
  rw [UInt32.toNat_add, UInt32.toNat_add]
  simp only [UInt32.reduceToNat]
  omega

namespace SuppressionTransaction
variable {σ : Type*} (port : SuppressionContextPort σ)

theorem Restores.writes {target : SuppressionRegisters} {events : List PortEvent} {ok : Bool}
    (h : Restores target events ok) : Saex.writes events = [target] := by
  cases h <;> rfl

theorem Fails.writes {replacement : SuppressionRegisters} {events : List PortEvent}
    {failure : String} (h : Fails replacement events failure) :
    Saex.writes events = [replacement] := by
  cases h <;> rfl

theorem Fails.head {replacement : SuppressionRegisters} {events : List PortEvent}
    {failure : String} (h : Fails replacement events failure) :
    ∃ ok rest, events = .write replacement ok :: rest := by
  cases h with
  | write => exact ⟨false,[],rfl⟩
  | readback back => exact ⟨true,[.read false back],rfl⟩
  | mismatch back => exact ⟨true,[.read true back],rfl⟩

/-- Where a transaction stands, by what was written so far. -/
inductive Phase (t : SuppressionTransaction) : List SuppressionRegisters → Prop
  | untouched (hw : t.writeAttempted = false) (hn : t.restoreAttempted = false) : Phase t []
  | standing (hw : t.writeAttempted = true) (hn : t.restoreAttempted = false)
      (ha : t.applied = true) : Phase t [t.replacement]
  | retired (hw : t.writeAttempted = true) (hr : t.restoreAttempted = true) :
      Phase t [t.replacement,restoreTarget t.original]

theorem Phase.untouched_of {t : SuppressionTransaction} {ws : List SuppressionRegisters}
    (h : Phase t ws) (ha : t.attempted = false) : ws = [] := by
  have hw := (attempted_eq_false ha).1
  cases h with
  | untouched => rfl
  | standing hw' | retired hw' => cases hw.symm.trans hw'

theorem Phase.next {t t' : SuppressionTransaction} {c : SuppressionCall} {ok : Bool}
    {events : List PortEvent} {ws : List SuppressionRegisters} (h : Phase t ws)
    (ho : Outcome t c t' ok events) : Phase t' (ws ++ writes events) := by
  cases ho with
  | refused | idle =>
    rw [show Saex.writes [] = [] from rfl, List.append_nil]
    exact h
  | unfit ha | unread ha | stale ha =>
    rw [h.untouched_of ha]
    exact .untouched (attempted_eq_false ha).1 (attempted_eq_false ha).2.1
  | applied ha =>
    rw [h.untouched_of ha]
    exact .standing rfl (attempted_eq_false ha).2.1 rfl
  | rolledBack ha hp hf hr =>
    rw [h.untouched_of ha, writes_read_cons, writes_append, hf.writes, hr.writes]
    exact .retired rfl rfl
  | restored hw hn hr =>
    rw [hr.writes]
    cases h with
    | untouched hw' => cases hw'.symm.trans hw
    | retired _ hr' => cases hn.symm.trans hr'
    | standing => exact .retired hw rfl

theorem phase_run (s : σ) (calls : List SuppressionCall) :
    let x := run (step (recording port)) ((s,[]),{}) calls
    Phase x.2 (writes x.1.2) := by
  refine run_invariant (step (recording port)) (fun x => Phase x.2 (writes x.1.2)) ?_ _
    (.untouched rfl rfl) calls
  rintro ⟨⟨s,log⟩,t⟩ c h
  obtain ⟨s',events,t',ok,he,ho⟩ := step_outcome port s log t c
  rw [he]
  simp only [writes_append]
  exact h.next ho

section Ports
variable {port} {J : σ → Prop}
  (hread : ∀ s old, J s → J (port.read s old).1)
  (hwrite : ∀ s registers, J s → J (port.write s registers).1)
include hread hwrite

theorem restore_port {s : σ} (t : SuppressionTransaction) (h : J s) :
    J (restore port s t).1.1 := by
  unfold restore
  split
  · exact h
  · dsimp only
    split
    · exact hread _ _ (hwrite _ _ h)
    · exact hwrite _ _ h

theorem exchange_port {s : σ} (t : SuppressionTransaction) (h : J s) : J (exchange port s t).1 := by
  have hw := hwrite s t.replacement h
  have hr := hread _ t.readback hw
  unfold exchange
  dsimp only
  split_ifs
  · exact hr
  · exact hr
  · exact hr
  · exact hw

/-- What every read and write of the port keeps, every call keeps. -/
theorem step_port (x : σ × SuppressionTransaction) (c : SuppressionCall) (h : J x.1) :
    J (step port x c).1.1 := by
  cases c with
  | restore => exact restore_port hread hwrite x.2 h
  | apply expected callAddress =>
    have hr := hread x.1 {} h
    simp only [step, apply]
    split_ifs
    · exact h
    · exact h
    · exact hr
    · exact hr
    · exact restore_port hread hwrite _ (exchange_port hread hwrite _ hr)
    · exact exchange_port hread hwrite _ hr

end Ports

/-- The context a register file holds after these events. -/
def contextAfter (initial : SuppressionRegisters) (log : List PortEvent) : SuppressionRegisters :=
  (writes log).getLastD initial

/-- Every successful read told the context of its time. -/
def Truthful (initial : SuppressionRegisters) (log : List PortEvent) : Prop :=
  ∀ older registers newer, log = older ++ .read true registers :: newer →
    registers = contextAfter initial older

theorem Truthful.concat {initial : SuppressionRegisters} {log : List PortEvent} {e : PortEvent}
    (h : Truthful initial log)
    (he : ∀ registers, e = .read true registers → registers = contextAfter initial log) :
    Truthful initial (log ++ [e]) := by
  intro older registers newer hl
  rcases List.eq_nil_or_concat newer with rfl | ⟨newer,e',rfl⟩
  · obtain ⟨rfl,hr⟩ := List.append_inj' hl rfl
    exact he registers (List.cons.inj hr).1
  · rw [List.concat_eq_append, ← List.cons_append, ← List.append_assoc] at hl
    exact h older registers newer (List.append_inj' hl rfl).1

/-- What a recorded register file keeps: its context is the last one written,
and its reads told the truth. -/
def Stores (context : σ → SuppressionRegisters) (initial : SuppressionRegisters)
    (p : σ × List PortEvent) : Prop :=
  context p.1 = contextAfter initial p.2 ∧ Truthful initial p.2

theorem stores_read {context : σ → SuppressionRegisters} (hf : FaithfulPort port context)
    (initial : SuppressionRegisters) (p : σ × List PortEvent) (old : SuppressionRegisters)
    (h : Stores context initial p) : Stores context initial ((recording port).read p old).1 := by
  obtain ⟨hc,ht⟩ := h
  refine ⟨?_,ht.concat ?_⟩
  · have hw : contextAfter initial ((recording port).read p old).1.2 = contextAfter initial p.2 := by
      simp only [recording, contextAfter, writes_append]
      rw [show writes [PortEvent.read (port.read p.1 old).2.1 (port.read p.1 old).2.2] = [] from rfl,
        List.append_nil]
    rw [hw, ← hc]
    exact hf.read_context p.1 old
  · intro registers he
    obtain ⟨hok,rfl⟩ := PortEvent.read.inj he
    rw [← hc]
    exact hf.read_truthful p.1 old hok

theorem stores_write {context : σ → SuppressionRegisters} (hf : FaithfulPort port context)
    (initial : SuppressionRegisters) (p : σ × List PortEvent) (registers : SuppressionRegisters)
    (h : Stores context initial p) :
    Stores context initial ((recording port).write p registers).1 := by
  refine ⟨?_,h.2.concat nofun⟩
  simp only [recording, contextAfter, writes_append]
  rw [show ∀ ok, writes [PortEvent.write registers ok] = [registers] from fun _ => rfl,
    List.getLastD_concat]
  exact hf.write_context p.1 registers

/-- On a register file the transaction keeps the context it found as its original. -/
structure FaithfulLaw (context : σ → SuppressionRegisters) (initial : SuppressionRegisters)
    (x : (σ × List PortEvent) × SuppressionTransaction) : Prop where
  phase : Phase x.2 (writes x.1.2)
  stores : Stores context initial x.1
  original : x.2.writeAttempted = true → x.2.original = initial

theorem faithfulLaw_step {context : σ → SuppressionRegisters} (hf : FaithfulPort port context)
    (initial : SuppressionRegisters) (x : (σ × List PortEvent) × SuppressionTransaction)
    (c : SuppressionCall) (h : FaithfulLaw context initial x) :
    FaithfulLaw context initial (step (recording port) x c).1 := by
  have hs := step_port (stores_read port hf initial) (stores_write port hf initial) x c h.stores
  obtain ⟨⟨s,log⟩,t⟩ := x
  obtain ⟨s',events,t',ok,he,ho⟩ := step_outcome port s log t c
  have hphase := h.phase.next ho
  rw [he] at hs ⊢
  refine ⟨by simpa only [writes_append] using hphase,hs,?_⟩
  -- Before the first attempt nothing was written, so the first read tells the start.
  have hread {expected : SuppressionRegisters} {rest : List PortEvent} (ha : t.attempted = false)
      (hev : events = .read true expected :: rest) : expected = initial := by
    have hx := hs.2 log expected rest (by rw [hev])
    rw [hx, contextAfter, h.phase.untouched_of ha]
    rfl
  cases ho with
  | refused | idle | restored => exact h.original
  | unfit ha | unread ha | stale ha => exact fun hw => absurd hw (by simp [attempted_eq_false ha])
  | applied ha => exact fun _ => hread ha rfl
  | rolledBack ha => exact fun _ => hread ha rfl

/-- The three contexts a register file can be left in. -/
theorem FaithfulLaw.context_eq {context : σ → SuppressionRegisters}
    {initial : SuppressionRegisters} {x : (σ × List PortEvent) × SuppressionTransaction}
    (h : FaithfulLaw context initial x) :
    (x.2.writeAttempted = false ∧ writes x.1.2 = [] ∧ context x.1.1 = initial) ∨
    (x.2.applied = true ∧ x.2.restoreAttempted = false) ∨
    (x.2.restoreAttempted = true ∧ context x.1.1 = restoreTarget initial) := by
  have hc := h.stores.1
  have ho := h.original
  have hp := h.phase
  rw [contextAfter] at hc
  generalize writes x.1.2 = ws at hc hp ⊢
  cases hp with
  | untouched hw => exact .inl ⟨hw,rfl,hc⟩
  | standing hw hn ha => exact .inr (.inl ⟨ha,hn⟩)
  | retired hw hr =>
    refine .inr (.inr ⟨hr,?_⟩)
    rw [hc, ← ho hw]
    rfl

/-- What a failed apply leaves behind on a register file, unless it was refused
because the replacement of an earlier one stands. -/
theorem faithful_apply {context : σ → SuppressionRegisters} (hf : FaithfulPort port context)
    {initial : SuppressionRegisters} {x : (σ × List PortEvent) × SuppressionTransaction}
    (h : FaithfulLaw context initial x) (expected : SuppressionRegisters) (callAddress : UInt32)
    (hok : (step (recording port) x (.apply expected callAddress)).2 = false)
    (hn : ¬ (x.2.applied = true ∧ x.2.restoreAttempted = false)) :
    (writes (step (recording port) x (.apply expected callAddress)).1.1.2 = [] ∧
        context (step (recording port) x (.apply expected callAddress)).1.1.1 = initial) ∨
      context (step (recording port) x (.apply expected callAddress)).1.1.1 =
        restoreTarget initial := by
  have hl := (faithfulLaw_step port hf initial x (.apply expected callAddress) h).context_eq
  obtain ⟨⟨s,log⟩,t⟩ := x
  obtain ⟨s',events,t',ok,he,ho⟩ := step_outcome port s log t (.apply expected callAddress)
  rw [he] at hl hok ⊢
  rcases hl with ⟨-,hl⟩ | ⟨ha,hr⟩ | ⟨-,hl⟩
  · exact .inl hl
  · exfalso
    cases ho with
    | refused | unfit | unread | stale => exact hn ⟨ha,hr⟩
    | applied => cases hok
    | rolledBack => cases hr
  · exact .inr hl

theorem faithful_restore {context : σ → SuppressionRegisters} (hf : FaithfulPort port context)
    {initial : SuppressionRegisters} {x : (σ × List PortEvent) × SuppressionTransaction}
    (h : FaithfulLaw context initial x) (hok : (step (recording port) x .restore).2 = true) :
    context (step (recording port) x .restore).1.1.1 = restoreTarget initial := by
  have hl := (faithfulLaw_step port hf initial x .restore h).context_eq
  obtain ⟨⟨s,log⟩,t⟩ := x
  obtain ⟨s',events,t',ok,he,ho⟩ := step_outcome port s log t .restore
  rw [he] at hl hok ⊢
  cases ho with
  | idle => cases hok
  | restored hw =>
    rcases hl with ⟨hw',-⟩ | ⟨-,hr⟩ | ⟨-,hl⟩
    · exact absurd (hw'.symm.trans hw) (by decide)
    · cases hr
    · exact hl

/-- What a call of the transaction writes and answers, whatever the port does. -/
structure CallLaw (log : List PortEvent) (t : SuppressionTransaction) (c : SuppressionCall)
    (t' : SuppressionTransaction) (ok : Bool) (events : List PortEvent) : Prop where
  guarded : ∀ expected callAddress, c = .apply expected callAddress → writes events ≠ [] →
    suppressible expected callAddress = true ∧ ∃ written rest,
      events = .read true expected :: .write (suppressed expected callAddress) written :: rest
  restoring : c = .restore → writes events ≠ [] →
    writes log = [t.replacement] ∧ writes events = [restoreTarget t.original]
  applied : ∀ expected callAddress, c = .apply expected callAddress → ok = true →
    events = [.read true expected,.write (suppressed expected callAddress) true,
      .read true (suppressed expected callAddress)] ∧
      t'.readback = t'.replacement ∧ t'.original = expected ∧
      t'.replacement = suppressed expected callAddress ∧
      (callAddress+6).toNat = callAddress.toNat+6 ∧
      (expected.esp+16).toNat = expected.esp.toNat+16
  rolledBack : ∀ expected callAddress, c = .apply expected callAddress → ok = false →
    writes events ≠ [] → t'.restoreAttempted = true ∧
      writes events = [suppressed expected callAddress,restoreTarget expected]

theorem callLaw_of_outcome {log : List PortEvent} {t t' : SuppressionTransaction}
    {c : SuppressionCall} {ok : Bool} {events : List PortEvent} (hp : Phase t (writes log))
    (ho : Outcome t c t' ok events) : CallLaw log t c t' ok events := by
  cases ho with
  | refused | unfit | unread | stale | idle =>
    exact ⟨fun _ _ _ hne => absurd rfl hne,fun _ hne => absurd rfl hne,nofun,
      fun _ _ _ _ hne => absurd rfl hne⟩
  | applied ha hs =>
    refine ⟨?_,nofun,?_,nofun⟩
    · rintro expected callAddress ⟨⟩ _
      exact ⟨hs,true,_,rfl⟩
    · rintro expected callAddress ⟨⟩ _
      exact ⟨rfl,rfl,rfl,rfl,suppressible_exact hs⟩
  | rolledBack ha hs hf hr =>
    obtain ⟨written,rest,hhead⟩ := hf.head
    refine ⟨?_,nofun,nofun,?_⟩
    · rintro expected callAddress ⟨⟩ _
      exact ⟨hs,written,_,by rw [hhead]; rfl⟩
    · rintro expected callAddress ⟨⟩ _ _
      refine ⟨rfl,?_⟩
      rw [writes_read_cons, writes_append, hf.writes, hr.writes]
      rfl
  | restored hw hn hr =>
    refine ⟨nofun,fun _ _ => ⟨?_,hr.writes⟩,nofun,nofun⟩
    generalize writes log = ws at hp
    cases hp with
    | untouched hw' => cases hw'.symm.trans hw
    | standing => rfl
    | retired _ hr' => cases hn.symm.trans hr'

/-- Over any run of calls on any port, the replacement is written at most once and
the restoring context at most once after it; every further call keeps its law;
and a port that is a register file is left with the context it had, the debug
event retired, after every restore that succeeds and every apply that fails,
unless that apply was refused because the replacement of an earlier one stands. -/
theorem suppression_transaction_laws (s : σ) (calls : List SuppressionCall) :
    let x := run (step (recording port)) ((s,[]),{}) calls
    (writes x.1.2 = [] ∨ writes x.1.2 = [x.2.replacement] ∨
      writes x.1.2 = [x.2.replacement,restoreTarget x.2.original]) ∧
    (∀ c, ∃ events, (step (recording port) x c).1.1.2 = x.1.2 ++ events ∧
      CallLaw x.1.2 x.2 c (step (recording port) x c).1.2 (step (recording port) x c).2 events) ∧
    ∀ context, FaithfulPort port context →
      (∀ expected callAddress,
        (step (recording port) x (.apply expected callAddress)).2 = false →
        ¬ (x.2.applied = true ∧ x.2.restoreAttempted = false) →
          (writes (step (recording port) x (.apply expected callAddress)).1.1.2 = [] ∧
            context (step (recording port) x (.apply expected callAddress)).1.1.1 = context s) ∨
          context (step (recording port) x (.apply expected callAddress)).1.1.1 =
            restoreTarget (context s)) ∧
      ((step (recording port) x .restore).2 = true →
        context (step (recording port) x .restore).1.1.1 = restoreTarget (context s)) := by
  intro x
  have hp : Phase x.2 (writes x.1.2) := phase_run port s calls
  refine ⟨?_,?_,?_⟩
  · generalize writes x.1.2 = ws at hp ⊢
    cases hp with
    | untouched => exact .inl rfl
    | standing => exact .inr (.inl rfl)
    | retired => exact .inr (.inr rfl)
  · intro c
    obtain ⟨s',events,t',ok,he,ho⟩ := step_outcome port x.1.1 x.1.2 x.2 c
    have hx : step (recording port) x c = (((s',x.1.2 ++ events),t'),ok) := he
    rw [hx]
    exact ⟨events,rfl,callLaw_of_outcome hp ho⟩
  · intro context hf
    have hl : FaithfulLaw context (context s) x :=
      run_invariant (step (recording port)) (FaithfulLaw context (context s))
        (faithfulLaw_step port hf (context s)) _
        ⟨.untouched rfl rfl,⟨rfl,fun older _ _ he => by cases older <;> cases he⟩,
          fun hw => absurd hw Bool.false_ne_true⟩ calls
    exact ⟨faithful_apply port hf hl,faithful_restore port hf hl⟩

/-- A register file whose reads always succeed. -/
def registerFile : SuppressionContextPort SuppressionRegisters where
  read s _ := (s,true,s)
  write _ registers := (registers,true)

theorem registerFile_faithful : FaithfulPort registerFile id := ⟨fun _ _ => rfl,fun _ _ _ => rfl,
  fun _ _ => rfl⟩

/-- The main thread stopped at a call at 0x401000. -/
def stoppedAtCall : SuppressionRegisters where
  eip := 0x401000
  esp := 0x10000
  debug := #v[0x401000,0,0,0,1,0x00d00015]

/-- A second apply fails, refused, and the context is still the replacement. -/
theorem refused_apply_keeps_replacement : FaithfulPort registerFile id ∧
    let first := step registerFile (stoppedAtCall,{}) (.apply stoppedAtCall 0x401000)
    let second := step registerFile first.1 (.apply stoppedAtCall 0x401000)
    first.2 = true ∧ second.2 = false ∧ second.1.1 = suppressed stoppedAtCall 0x401000 ∧
      second.1.1 ≠ restoreTarget stoppedAtCall ∧ second.1.1 ≠ stoppedAtCall :=
  ⟨registerFile_faithful,by decide⟩

/-- Suppressing and restoring on a register file leaves the stopped context without its event. -/
theorem suppression_transaction_laws_restored :
    let x := run (step (recording registerFile)) ((stoppedAtCall,[]),{})
      [.apply stoppedAtCall 0x401000]
    FaithfulPort registerFile id ∧ (step (recording registerFile) x .restore).2 = true ∧
      (step (recording registerFile) x .restore).1.1.1 = restoreTarget stoppedAtCall := by
  intro x
  have hr : (step (recording registerFile) x .restore).2 = true := by decide
  exact ⟨registerFile_faithful,hr,((suppression_transaction_laws registerFile stoppedAtCall
    [.apply stoppedAtCall 0x401000]).2.2 id registerFile_faithful).2 hr⟩

end SuppressionTransaction
end Saex
