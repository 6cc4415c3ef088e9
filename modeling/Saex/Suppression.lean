import Mathlib.Data.UInt
import Saex.Transitions

/-! The suppression transaction of engine/loader/platform_suppression.cpp, over a port
that may answer anything. A read gets the old contents of its out-parameter,
which a failing port may leave there. -/
namespace Saex

structure SuppressionRegisters where
  eip : UInt32 := 0
  esp : UInt32 := 0
  eax : UInt32 := 0
  ebx : UInt32 := 0
  ecx : UInt32 := 0
  edx : UInt32 := 0
  esi : UInt32 := 0
  edi : UInt32 := 0
  ebp : UInt32 := 0
  flags : UInt32 := 0
  segments : Vector UInt32 6 := Vector.replicate 6 0
  debug : Vector UInt32 6 := Vector.replicate 6 0
deriving DecidableEq

structure SuppressionContextPort (σ : Type*) where
  read : σ → SuppressionRegisters → σ × Bool × SuppressionRegisters
  write : σ → SuppressionRegisters → σ × Bool

structure SuppressionTransaction where
  original : SuppressionRegisters := {}
  replacement : SuppressionRegisters := {}
  readback : SuppressionRegisters := {}
  restoreReadback : SuppressionRegisters := {}
  failure : String := "none"
  writeAttempted : Bool := false
  applied : Bool := false
  restoreAttempted : Bool := false
  restored : Bool := false
deriving DecidableEq

/-- `UINT32_MAX`. -/
def uint32Max : UInt32 := 4294967295

/-- The negation of the checks `apply` makes before it touches the port. -/
def suppressible (expected : SuppressionRegisters) (callAddress : UInt32) : Bool :=
  !(callAddress = 0 || callAddress > uint32Max-6 || expected.eip ≠ callAddress ||
    expected.esp < 4096 || expected.esp % 4 ≠ 0 || expected.esp > uint32Max-16 ||
    expected.flags &&& 0x500 ≠ 0 || expected.debug[0] ≠ callAddress || expected.debug[4] ≠ 1 ||
    expected.debug[5] &&& 0xffff20ff ≠ 0x00d00015)

/-- The context in which the call was skipped and its result is zero. -/
def suppressed (current : SuppressionRegisters) (callAddress : UInt32) : SuppressionRegisters :=
  { current with
    eip := callAddress+6, esp := current.esp+16, eax := 0
    flags := current.flags &&& ~~~0x10000
    debug := (current.debug.set 0 (callAddress+6)).set 4 0 }

/-- The original context with the debug event retired. -/
def restoreTarget (original : SuppressionRegisters) : SuppressionRegisters :=
  { original with debug := original.debug.set 4 0 }

namespace SuppressionTransaction
variable {σ : Type*} (port : SuppressionContextPort σ)

def restore (s : σ) (t : SuppressionTransaction) : (σ × SuppressionTransaction) × Bool :=
  if !t.writeAttempted || t.restoreAttempted then ((s,t),false)
  else
    let target := restoreTarget t.original
    let written := port.write s target
    if written.2 then
      let back := port.read written.1 t.restoreReadback
      let restored := back.2.1 && back.2.2 = target
      ((back.1,{ t with
        restoreAttempted := true, restoreReadback := back.2.2, restored }),restored)
    else ((written.1,{ t with restoreAttempted := true, restored := false }),false)

/-- The write of `apply` and its read-back, with the failure they leave behind. -/
def exchange (s : σ) (t : SuppressionTransaction) : σ × SuppressionTransaction :=
  let written := port.write s t.replacement
  if written.2 then
    let back := port.read written.1 t.readback
    if back.2.1 then
      if back.2.2 = t.replacement then (back.1,{ t with readback := back.2.2 })
      else (back.1,{ t with readback := back.2.2, failure := "readback_mismatch" })
    else (back.1,{ t with readback := back.2.2, failure := "readback" })
  else (written.1,{ t with failure := "write" })

/-- The transaction once the write is under way. -/
def begun (t : SuppressionTransaction) (current : SuppressionRegisters) (callAddress : UInt32) :
    SuppressionTransaction :=
  { t with
    original := current, replacement := suppressed current callAddress, writeAttempted := true }

def apply (s : σ) (t : SuppressionTransaction) (expected : SuppressionRegisters)
    (callAddress : UInt32) : (σ × SuppressionTransaction) × Bool :=
  if t.writeAttempted || t.restoreAttempted || t.failure ≠ "none" then ((s,t),false)
  else if !suppressible expected callAddress then ((s,{ t with failure := "precondition" }),false)
  else
    let current := port.read s {}
    if !current.2.1 then ((current.1,{ t with failure := "initial_read" }),false)
    else if current.2.2 ≠ expected then
      ((current.1,{ t with failure := "stale_context" }),false)
    else
      let r := exchange port current.1 (begun t current.2.2 callAddress)
      if r.2.failure ≠ "none" then ((restore port r.1 r.2).1,false)
      else ((r.1,{ r.2 with applied := true }),true)

end SuppressionTransaction

inductive SuppressionCall
  | apply (expected : SuppressionRegisters) (callAddress : UInt32)
  | restore
deriving DecidableEq

namespace SuppressionTransaction
variable {σ : Type*} (port : SuppressionContextPort σ)

def step (x : σ × SuppressionTransaction) :
    SuppressionCall → (σ × SuppressionTransaction) × Bool
  | .apply expected callAddress => apply port x.1 x.2 expected callAddress
  | .restore => restore port x.1 x.2

end SuppressionTransaction

/-- What a port was asked and how it answered. -/
inductive PortEvent
  | read (ok : Bool) (registers : SuppressionRegisters)
  | write (registers : SuppressionRegisters) (ok : Bool)
deriving DecidableEq

/-- Any port, with everything it did written down behind it. -/
def recording {σ : Type*} (port : SuppressionContextPort σ) :
    SuppressionContextPort (σ × List PortEvent) where
  read s old :=
    let r := port.read s.1 old
    ((r.1,s.2 ++ [.read r.2.1 r.2.2]),r.2)
  write s registers :=
    let r := port.write s.1 registers
    ((r.1,s.2 ++ [.write registers r.2]),r.2)

/-- The registers of the write events, in order. -/
def writes (events : List PortEvent) : List SuppressionRegisters :=
  events.filterMap fun
    | .write registers _ => some registers
    | .read _ _ => none

namespace SuppressionTransaction
variable {σ : Type*} (port : SuppressionContextPort σ)

/-- One attempt to restore `target`, and whether it was seen to succeed. -/
inductive Restores (target : SuppressionRegisters) : List PortEvent → Bool → Prop
  | unwritten : Restores target [.write target false] false
  | reread (ok : Bool) (back : SuppressionRegisters) :
      Restores target [.write target true,.read ok back] (ok && back = target)

/-- A write of `replacement` that was refused, not read back or not read back equal. -/
inductive Fails (replacement : SuppressionRegisters) : List PortEvent → String → Prop
  | write : Fails replacement [.write replacement false] "write"
  | readback (back : SuppressionRegisters) :
      Fails replacement [.write replacement true,.read false back] "readback"
  | mismatch (back : SuppressionRegisters) (h : back ≠ replacement) :
      Fails replacement [.write replacement true,.read true back] "readback_mismatch"

def attempted (t : SuppressionTransaction) : Bool :=
  t.writeAttempted || t.restoreAttempted || t.failure ≠ "none"

/-- Everything a call of the transaction can do, with the port events it causes. -/
inductive Outcome (t : SuppressionTransaction) :
    SuppressionCall → SuppressionTransaction → Bool → List PortEvent → Prop
  | refused {expected : SuppressionRegisters} {callAddress : UInt32} (h : t.attempted = true) :
      Outcome t (.apply expected callAddress) t false []
  | unfit {expected : SuppressionRegisters} {callAddress : UInt32} (h : t.attempted = false)
      (hp : suppressible expected callAddress = false) :
      Outcome t (.apply expected callAddress) { t with failure := "precondition" } false []
  | unread {expected current : SuppressionRegisters} {callAddress : UInt32}
      (h : t.attempted = false) :
      Outcome t (.apply expected callAddress) { t with failure := "initial_read" } false
        [.read false current]
  | stale {expected current : SuppressionRegisters} {callAddress : UInt32}
      (h : t.attempted = false) (hc : current ≠ expected) :
      Outcome t (.apply expected callAddress) { t with failure := "stale_context" } false
        [.read true current]
  | applied {expected : SuppressionRegisters} {callAddress : UInt32} (h : t.attempted = false)
      (hp : suppressible expected callAddress = true) :
      Outcome t (.apply expected callAddress)
        { t with
          original := expected, replacement := suppressed expected callAddress
          readback := suppressed expected callAddress, writeAttempted := true, applied := true }
        true [.read true expected,.write (suppressed expected callAddress) true,
          .read true (suppressed expected callAddress)]
  | rolledBack {expected readback restoreReadback : SuppressionRegisters} {callAddress : UInt32}
      {failing restoring : List PortEvent} {failure : String} {restored : Bool}
      (h : t.attempted = false) (hp : suppressible expected callAddress = true)
      (hf : Fails (suppressed expected callAddress) failing failure)
      (hr : Restores (restoreTarget expected) restoring restored) :
      Outcome t (.apply expected callAddress)
        { t with
          original := expected, replacement := suppressed expected callAddress, readback, failure
          writeAttempted := true, restoreAttempted := true, restoreReadback, restored }
        false (.read true expected :: (failing ++ restoring))
  | idle (h : t.writeAttempted = false ∨ t.restoreAttempted = true) :
      Outcome t .restore t false []
  | restored {restoreReadback : SuppressionRegisters} {restoring : List PortEvent} {restored : Bool}
      (hw : t.writeAttempted = true) (hn : t.restoreAttempted = false)
      (hr : Restores (restoreTarget t.original) restoring restored) :
      Outcome t .restore { t with restoreAttempted := true, restoreReadback, restored } restored
        restoring

theorem restore_idle {s : σ} {t : SuppressionTransaction}
    (h : t.writeAttempted = false ∨ t.restoreAttempted = true) :
    restore port s t = ((s,t),false) := by
  rcases h with h | h <;> simp [restore, h]

theorem restore_outcome (s : σ) (log : List PortEvent) (t : SuppressionTransaction)
    (hw : t.writeAttempted = true) (hn : t.restoreAttempted = false) :
    ∃ s' restoring restoreReadback restored,
      restore (recording port) (s,log) t =
        (((s',log ++ restoring),{ t with restoreAttempted := true, restoreReadback, restored }),
          restored) ∧
      Restores (restoreTarget t.original) restoring restored := by
  have hgo : ¬ (!t.writeAttempted || t.restoreAttempted) = true := by simp [hw, hn]
  unfold restore
  rw [if_neg hgo]
  cases hwr : (port.write s (restoreTarget t.original)).2 with
  | false =>
    refine ⟨(port.write s (restoreTarget t.original)).1,_,t.restoreReadback,_,?_,.unwritten⟩
    simp only [recording, hwr, Bool.false_eq_true, if_false]
  | true =>
    let back := port.read (port.write s (restoreTarget t.original)).1 t.restoreReadback
    refine ⟨back.1,_,back.2.2,_,?_,.reread back.2.1 back.2.2⟩
    simp only [recording, hwr, if_true, List.append_assoc, List.cons_append, List.nil_append, back]

theorem exchange_outcome (s : σ) (log : List PortEvent) (t : SuppressionTransaction) : ∃ s' events readback,
      (exchange (recording port) (s,log) t = ((s',log ++ events),{ t with readback }) ∧
        readback = t.replacement ∧
        events = [.write t.replacement true,.read true t.replacement]) ∨
      ∃ failure, exchange (recording port) (s,log) t =
        ((s',log ++ events),{ t with readback, failure }) ∧ failure ≠ "none" ∧
        Fails t.replacement events failure := by
  unfold exchange
  cases hwr : (port.write s t.replacement).2 with
  | false =>
    refine ⟨(port.write s t.replacement).1,_,t.readback,.inr ⟨_,?_,by decide,.write⟩⟩
    simp only [recording, hwr, Bool.false_eq_true, if_false]
  | true =>
    let back := port.read (port.write s t.replacement).1 t.readback
    cases hrd : back.2.1 with
    | false =>
      refine ⟨back.1,_,back.2.2,.inr ⟨_,?_,by decide,.readback back.2.2⟩⟩
      simp only [recording, hwr, hrd, if_true, Bool.false_eq_true, if_false, List.append_assoc,
        List.cons_append, List.nil_append, back]
    | true =>
      by_cases he : back.2.2 = t.replacement
      · refine ⟨back.1,_,back.2.2,.inl ⟨?_,he,rfl⟩⟩
        simp only [recording, hwr, hrd, he, if_true, List.append_assoc, List.cons_append,
          List.nil_append, back]
      · refine ⟨back.1,_,back.2.2,.inr ⟨_,?_,by decide,.mismatch back.2.2 he⟩⟩
        simp only [recording, hwr, hrd, he, if_true, if_false, List.append_assoc, List.cons_append,
          List.nil_append, back]

theorem attempted_eq_false {t : SuppressionTransaction} (h : t.attempted = false) :
    t.writeAttempted = false ∧ t.restoreAttempted = false ∧ t.failure = "none" := by
  simpa [attempted, and_assoc] using h

theorem not_guarded {t : SuppressionTransaction} (h : t.attempted = false) :
    ¬ (t.writeAttempted || t.restoreAttempted || t.failure ≠ "none") = true := by
  rw [attempted] at h
  rw [h]
  decide

/-- `apply` past its checks, on the context it expects. -/
theorem apply_ready (s : σ) {t : SuppressionTransaction} {expected : SuppressionRegisters}
    {callAddress : UInt32} (ha : t.attempted = false)
    (hp : suppressible expected callAddress = true) (hok : (port.read s {}).2.1 = true)
    (hc : (port.read s {}).2.2 = expected) :
    apply port s t expected callAddress =
      let r := exchange port (port.read s {}).1 (begun t expected callAddress)
      if r.2.failure ≠ "none" then ((restore port r.1 r.2).1,false)
      else ((r.1,{ r.2 with applied := true }),true) := by
  unfold apply
  rw [if_neg (not_guarded ha)]
  simp only [hp, hok, hc, Bool.not_true, Bool.false_eq_true, if_false, ne_eq, not_true]

theorem ready_outcome {s : σ} {log : List PortEvent} {t : SuppressionTransaction}
    {expected : SuppressionRegisters} {callAddress : UInt32} (ha : t.attempted = false)
    (hp : suppressible expected callAddress = true) (hok : (port.read s {}).2.1 = true)
    (hc : (port.read s {}).2.2 = expected) : ∃ s' events t' ok,
      apply (recording port) (s,log) t expected callAddress = (((s',log ++ events),t'),ok) ∧
      Outcome t (.apply expected callAddress) t' ok events := by
  have hread : ((recording port).read (s,log) {}).1 =
      ((port.read s {}).1,log ++ [.read true expected]) := by
    simp only [recording, hok, hc]
  obtain ⟨s',events,readback,hx⟩ := exchange_outcome port (port.read s {}).1
    (log ++ [.read true expected]) (begun t expected callAddress)
  rw [apply_ready (recording port) (s,log) ha hp hok hc, hread]
  rcases hx with ⟨hx,rfl,rfl⟩ | ⟨failure,hx,hf,hfails⟩
  · refine ⟨s',_,_,true,?_,.applied ha hp⟩
    have hf : (begun t expected callAddress).failure = "none" := (attempted_eq_false ha).2.2
    simp only [hx, List.append_assoc, List.cons_append, List.nil_append]
    rw [if_neg (fun hne => hne hf)]
    rfl
  · obtain ⟨s'',restoring,back,restored,hr,hrestores⟩ := restore_outcome port s'
      (log ++ [.read true expected] ++ events)
      { begun t expected callAddress with readback, failure } rfl (attempted_eq_false ha).2.1
    refine ⟨s'',.read true expected :: (events ++ restoring),
      { begun t expected callAddress with
        readback, failure, restoreAttempted := true, restoreReadback := back, restored },false,?_,
      .rolledBack ha hp hfails hrestores⟩
    dsimp only at hr
    simp only [hx]
    rw [if_pos hf, hr]
    simp only [List.append_assoc, List.cons_append, List.nil_append]

theorem apply_outcome (s : σ) (log : List PortEvent) (t : SuppressionTransaction)
    (expected : SuppressionRegisters) (callAddress : UInt32) : ∃ s' events t' ok,
      apply (recording port) (s,log) t expected callAddress = (((s',log ++ events),t'),ok) ∧
      Outcome t (.apply expected callAddress) t' ok events := by
  by_cases ha : t.attempted = true
  · refine ⟨s,[],t,false,?_,.refused ha⟩
    rw [attempted] at ha
    rw [apply, if_pos ha, List.append_nil]
  have ha : t.attempted = false := by simpa using ha
  cases hp : suppressible expected callAddress with
  | false =>
    refine ⟨s,[],_,false,?_,.unfit ha hp⟩
    rw [apply, if_neg (not_guarded ha), List.append_nil]
    simp only [hp, Bool.not_false, if_true]
  | true =>
    cases hok : (port.read s {}).2.1 with
    | false =>
      refine ⟨(port.read s {}).1,[.read false (port.read s {}).2.2],_,false,?_,.unread ha⟩
      rw [apply, if_neg (not_guarded ha)]
      simp only [recording, hp, hok, Bool.not_true, Bool.not_false, Bool.false_eq_true, if_false,
        if_true]
    | true =>
      by_cases hc : (port.read s {}).2.2 = expected
      · exact ready_outcome port ha hp hok hc
      · refine ⟨(port.read s {}).1,[.read true (port.read s {}).2.2],_,false,?_,.stale ha hc⟩
        rw [apply, if_neg (not_guarded ha)]
        simp only [recording, hp, hok, hc, Bool.not_true, Bool.false_eq_true, if_false, if_true,
          ne_eq, not_false_eq_true]

/-- Every call of the transaction, over any recorded port, is one of the outcomes. -/
theorem step_outcome (s : σ) (log : List PortEvent) (t : SuppressionTransaction)
    (c : SuppressionCall) : ∃ s' events t' ok,
      step (recording port) ((s,log),t) c = (((s',log ++ events),t'),ok) ∧
      Outcome t c t' ok events := by
  cases c with
  | apply expected callAddress => exact apply_outcome port s log t expected callAddress
  | restore =>
    by_cases hi : t.writeAttempted = false ∨ t.restoreAttempted = true
    · refine ⟨s,[],t,false,?_,.idle hi⟩
      rw [List.append_nil]
      exact restore_idle (recording port) hi
    · simp only [not_or, Bool.not_eq_false, Bool.not_eq_true] at hi
      obtain ⟨s',restoring,back,restored,hr,hrestores⟩ := restore_outcome port s log t hi.1 hi.2
      exact ⟨s',restoring,_,restored,hr,.restored hi.1 hi.2 hrestores⟩

end SuppressionTransaction
end Saex
