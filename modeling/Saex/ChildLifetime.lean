import Saex.ChildCopies
import Saex.ObservationRecords
import Mathlib.Algebra.Order.BigOperators.Group.List

/-! Whole lives of a `SuspendedImage`: the constructor, any calls of its functions and the
destructor, under whatever the system answers. -/
namespace Saex
open CallPrograms ChildSystem

inductive ChildOperation (extra : ℕ)
  | sameFile (verified : Option Handle)
  | copy (rva : BitVec 32) (length : BitVec (32+extra))
  | stop
  | observe (c : LoaderSetup) (executable : Option Handle)

inductive ChildResult
  | same (found : Bool)
  | copied (bytes : Option (List UInt8))
  | stopped (confirmed : Bool)
  | observed (ending : Ending)
deriving DecidableEq

section Lifetimes
variable {extra : ℕ} {Locals : Type} {rule : ChildSystem → Prop} {x : Examination extra Locals}

namespace ChildOperation

/-- The file that the caller keeps open. -/
def file : ChildOperation extra → Option Handle
  | .sameFile file | .observe _ file => file
  | _ => none

def observes : ChildOperation extra → Bool
  | .observe .. => true
  | _ => false

/-- What the exchanges of a `copy` or of an observation tell of its result. -/
def Gives (x : Examination extra Locals) (rounds : ℕ) (o : SuspendedChild extra)
    (t : List (Exchange (windows extra))) : ChildOperation extra → ChildResult → Prop
  | .copy rva length, .copied bytes => CopyGives o rva length t bytes
  | .observe c executable, .observed ending =>
    SuspendedChild.ObservationGives x rounds c executable o t ending
  | .sameFile _, .same _ | .stop, .stopped _ => True
  | _, _ => False

end ChildOperation

/-- The results that tell that the child has ended. -/
def ChildResult.Confirms : ChildResult → Prop
  | .stopped confirmed => confirmed = true
  | .observed (.finish reason) =>
    reason ≠ "loader_exit_unconfirmed" ∧ reason ≠ "loader_owner_thread"
  | _ => False

namespace SuspendedChild

/-- One function of the object. The numbers say how far its loops are followed. -/
def perform (x : Examination extra Locals) (rounds turns : ℕ) (o : SuspendedChild extra) :
    ChildOperation extra → System extra (ChildResult × SuspendedChild extra)
  | .sameFile verified => do
    let found ← o.sameFile verified
    return (.same found,o)
  | .copy rva length => do
    let bytes ← o.copy rva length
    return (.copied bytes,o)
  | .stop => do
    let (confirmed,o) ← o.stop rounds
    return (.stopped confirmed,o)
  | .observe c executable => do
    let (ending,o) ← o.observation x rounds turns c executable
    return (.observed ending,o)

/-- The functions one after the other. -/
def serve (x : Examination extra Locals) (rounds turns : ℕ) : SuspendedChild extra →
    List (ChildOperation extra) → System extra (List ChildResult × SuspendedChild extra)
  | o, [] => return ([],o)
  | o, op :: ops => do
    let (result,o) ← o.perform x rounds turns op
    let (results,o) ← serve x rounds turns o ops
    return (result :: results,o)

/-- From the constructor to the destructor. -/
def lifetime (x : Examination extra Locals) (rounds turns : ℕ) (executable : List UInt16)
    (size : BitVec (32+extra)) (context : Option LaunchInput) (ops : List (ChildOperation extra)) :
    System extra (List ChildResult) := do
  let o ← construct executable size context
  let (results,o) ← serve x rounds turns o ops
  o.destroy rounds
  return results

/-! What the record of a life tells of its results. -/

/-- The operations one after the other, each on the object that the one before it has left and
with its own exchanges. -/
inductive Served (x : Examination extra Locals) (rounds turns : ℕ) :
    SuspendedChild extra → List (ChildOperation extra) → List (Exchange (windows extra)) →
      List ChildResult → SuspendedChild extra → Prop
  | nil (o : SuspendedChild extra) : Served x rounds turns o [] [] [] o
  | cons {o o' o'' : SuspendedChild extra} {op : ChildOperation extra}
      {ops : List (ChildOperation extra)} {t t' : List (Exchange (windows extra))}
      {result : ChildResult} {results : List ChildResult}
      (performed : Returns (o.perform x rounds turns op) t (result,o'))
      (given : op.Gives x rounds o t result) (rest : Served x rounds turns o' ops t' results o'') :
      Served x rounds turns o (op :: ops) (t++t') (result :: results) o''

/-- The record of a life: the constructor, the operations and the destructor. -/
def Recorded (x : Examination extra Locals) (rounds turns : ℕ) (executable : List UInt16)
    (size : BitVec (32+extra)) (context : Option LaunchInput) (ops : List (ChildOperation extra))
    (t : List (Exchange (windows extra))) (results : List ChildResult) : Prop :=
  ∃ first middle last o o', t = first++(middle++last) ∧
    Returns (construct executable size context) first o ∧
    Served x rounds turns o ops middle results o' ∧ Returns (o'.destroy rounds) last ()

theorem returns_perform {rounds turns : ℕ} {o o' : SuspendedChild extra} {op : ChildOperation extra}
    {t : List (Exchange (windows extra))} {result : ChildResult}
    (h : Returns (o.perform x rounds turns op) t (result,o')) : op.Gives x rounds o t result := by
  cases op with
  | sameFile verified =>
    obtain ⟨_,found,_,rfl,-,hdone⟩ := returns_bind.mp h
    cases (returns_done.mp hdone).2
    trivial
  | copy rva length =>
    obtain ⟨t₁,bytes,_,rfl,hcopy,hdone⟩ := returns_bind.mp h
    obtain ⟨rfl,heq⟩ := returns_done.mp hdone
    cases heq
    rw [List.append_nil]
    exact returns_copy hcopy
  | stop =>
    obtain ⟨_,⟨confirmed,_⟩,_,rfl,-,hdone⟩ := returns_bind.mp h
    cases (returns_done.mp hdone).2
    trivial
  | observe c executable =>
    obtain ⟨t₁,⟨ending,_⟩,_,rfl,hobservation,hdone⟩ := returns_bind.mp h
    obtain ⟨rfl,heq⟩ := returns_done.mp hdone
    cases heq
    rw [List.append_nil]
    exact returns_observation hobservation

theorem returns_serve {rounds turns : ℕ} {o o' : SuspendedChild extra}
    {ops : List (ChildOperation extra)} {t : List (Exchange (windows extra))}
    {results : List ChildResult} (h : Returns (serve x rounds turns o ops) t (results,o')) :
    Served x rounds turns o ops t results o' := by
  induction ops generalizing o t results with
  | nil =>
    obtain ⟨rfl,heq⟩ := returns_done.mp h
    cases heq
    exact .nil _
  | cons op ops ih =>
    obtain ⟨t₁,⟨result,o₁⟩,t₂,rfl,hperform,hrest⟩ := returns_bind.mp h
    obtain ⟨t₃,⟨results',o₂⟩,_,rfl,hserve,hdone⟩ := returns_bind.mp hrest
    obtain ⟨rfl,heq⟩ := returns_done.mp hdone
    cases heq
    rw [List.append_nil]
    exact .cons hperform (returns_perform hperform) (ih hserve)

theorem returns_lifetime {rounds turns : ℕ} {executable : List UInt16} {size : BitVec (32+extra)}
    {context : Option LaunchInput} {ops : List (ChildOperation extra)}
    {t : List (Exchange (windows extra))} {results : List ChildResult}
    (h : Returns (lifetime x rounds turns executable size context ops) t results) :
    Recorded x rounds turns executable size context ops t results := by
  obtain ⟨t₁,o,t₂,rfl,hconstruct,hrest⟩ := returns_bind.mp h
  obtain ⟨t₃,⟨results',o'⟩,t₄,rfl,hserve,hlast⟩ := returns_bind.mp hrest
  obtain ⟨t₅,⟨⟩,t₆,rfl,hdestroy,hdone⟩ := returns_bind.mp hlast
  obtain ⟨rfl,rfl⟩ := returns_done.mp hdone
  rw [List.append_nil]
  exact ⟨t₁,t₃,t₅,o,o',rfl,hconstruct,returns_serve hserve,hdestroy⟩

end SuspendedChild

/-! What no call takes back. -/

namespace ChildSystem

theorem after_lent (w : ChildSystem) (c : SystemCall extra) (r : c.Answer) :
    (w.after c r).lent = w.lent := by
  cases c <;> try rfl
  · cases r <;> rfl
  · cases r <;> rfl

theorem after_signalled {w : ChildSystem} (c : SystemCall extra) (r : c.Answer)
    (h : w.signalled = true) : (w.after c r).signalled = true := by
  cases c <;> try exact h
  · cases r <;> exact h
  · cases r <;> exact h
  · exact Bool.or_eq_true_iff.mpr (.inl h)

end ChildSystem

namespace SuspendedChild
variable {o : SuspendedChild extra} {w : ChildSystem} {rounds turns : ℕ}

/-- Between two functions the object owns the system, and what the results so far tell of the child
is so. -/
structure Serving (lent : List Handle) (process : Option Handle)
    (x : List ChildResult × SuspendedChild extra) (w : ChildSystem) : Prop where
  owns : x.2.Owns w
  lent : w.lent = lent
  kept : x.2.process = process
  confirmed : ∀ r ∈ x.1, r.Confirms → process = none ∨ w.signalled = true

theorem safe_perform (hrule : ∀ w : ChildSystem, w.held → rule w) {op : ChildOperation extra}
    (hloose : op.observes = true → rule = released) (h : o.Owns w)
    (hfile : ∀ x, op.file = some x → x ∈ w.lent) :
    Safe (world extra rule) (fun r w' => r.2.Owns w' ∧ r.2.process = o.process ∧
      (r.1.Confirms → o.process = none ∨ w'.signalled = true)) (o.perform x rounds turns op) w := by
  cases op with
  | sameFile verified =>
    refine Safe.bind ((safe_sameFile h hfile).mono ?_)
    rintro found w' ⟨rfl,-⟩
    exact ⟨h,rfl,False.elim⟩
  | copy rva length =>
    refine Safe.bind ((safe_copy h).mono ?_)
    rintro bytes w' rfl
    exact ⟨h,rfl,False.elim⟩
  | stop =>
    refine Safe.bind ((safe_stop hrule rounds h).mono ?_)
    rintro ⟨confirmed,o'⟩ w' ⟨h',hkept,hconfirmed⟩
    exact ⟨h',hkept,hconfirmed⟩
  | observe c executable =>
    obtain rfl := hloose rfl
    refine Safe.bind ((safe_observation turns h hfile).mono ?_)
    rintro ⟨ending,o'⟩ w' hconcluded
    refine ⟨hconcluded.owns,hconcluded.kept,fun hconfirms => ?_⟩
    cases ending with
    | outOfRange => exact hconfirms.elim
    | finish reason => exact hconcluded.ended reason rfl hconfirms.1 hconfirms.2

theorem safe_serve {lent : List Handle} (hrule : ∀ w : ChildSystem, w.held → rule w)
    (ops : List (ChildOperation extra)) (hloose : ∀ op ∈ ops, op.observes = true → rule = released)
    (hfile : ∀ op ∈ ops, ∀ x, op.file = some x → x ∈ lent) (h : o.Owns w) (hlent : w.lent = lent) :
    Safe (world extra rule) (Serving lent o.process) (serve x rounds turns o ops) w := by
  induction ops generalizing o w with
  | nil => exact ⟨h,hlent,rfl,fun r hr => absurd hr List.not_mem_nil⟩
  | cons op ops ih =>
    have hop (a : Handle) (ha : op.file = some a) : a ∈ w.lent := by
      rw [hlent]
      exact hfile op List.mem_cons_self a ha
    have hperform := (@safe_perform _ _ _ x _ _ rounds turns hrule _
      (hloose op List.mem_cons_self) h hop).keep (fun v => v.lent = lent)
        (fun v c r _ hv => (after_lent v c r).trans hv) hlent
    refine Safe.bind (hperform.mono ?_)
    rintro ⟨result,o'⟩ w' ⟨⟨howns,hkept,hconfirms⟩,hlent'⟩
    dsimp only at howns hkept hconfirms
    have hserve := (ih (fun x hx => hloose x (List.mem_cons_of_mem op hx))
      (fun x hx => hfile x (List.mem_cons_of_mem op hx)) howns hlent').keep
        (fun v => w'.signalled = true → v.signalled = true)
        (fun v c r _ hv hw => after_signalled c r (hv hw)) id
    refine Safe.bind (hserve.mono ?_)
    rintro ⟨results,o''⟩ w'' ⟨hserving,hsignalled⟩
    refine ⟨hserving.owns,hserving.lent,hserving.kept.trans hkept,fun r hr hr' => ?_⟩
    rcases List.mem_cons.mp hr with rfl | hr
    · exact (hconfirms hr').imp_right hsignalled
    · rw [← hkept]
      exact hserving.confirmed r hr hr'

/-- Nothing is left open, a child that was assigned to its job ends, and what the results say of it
is so. -/
structure Settled (results : List ChildResult) (w : ChildSystem) : Prop where
  opened : w.opened = []
  doomed : w.assigned = true → w.doomed = true
  confirmed : ∀ r ∈ results, r.Confirms → w.process = none ∨ w.signalled = true

theorem safe_lifetime {lent : List Handle} (hrule : ∀ w : ChildSystem, w.held → rule w)
    (executable : List UInt16) (size : BitVec (32+extra)) (context : Option LaunchInput)
    (ops : List (ChildOperation extra)) (hloose : ∀ op ∈ ops, op.observes = true → rule = released)
    (hfile : ∀ op ∈ ops, ∀ x, op.file = some x → x ∈ lent) :
    Safe (world extra rule) Settled (lifetime x rounds turns executable size context ops)
      { lent } := by
  have hconstruct := (@safe_construct _ rule lent executable size context).keep
    (fun v => v.lent = lent) (fun v c r _ hv => (after_lent v c r).trans hv) rfl
  refine Safe.bind (hconstruct.mono fun o w ⟨howns,hlent⟩ =>
    Safe.bind ((safe_serve hrule ops hloose hfile howns hlent).mono ?_))
  rintro ⟨results,o'⟩ w' ⟨howns',_,hkept,hconfirmed⟩
  have hdestroy := (safe_destroy hrule rounds howns').keep
    (fun v => w'.signalled = true → v.signalled = true)
    (fun v c r _ hv hw => after_signalled c r (hv hw)) id
  refine Safe.bind (hdestroy.mono fun _ v ⟨⟨hopened,hdoomed,hborn⟩,hsignalled⟩ => ?_)
  exact ⟨hopened,hdoomed,fun r hr hrconfirms =>
    (hconfirmed r hr hrconfirms).imp (fun hnone => hborn (hkept.trans hnone)) hsignalled⟩

end SuspendedChild

/-! The record of a life. -/

/-- The system says that it ends the process or the job. -/
def Terminates : Exchange (windows extra) → Prop
  | ⟨.terminateProcess ..,accepted⟩ | ⟨.terminateJobObject ..,accepted⟩ => accepted = true
  | _ => False

/-- What is left of the system after the calls of a record. -/
def remembered (lent : List Handle) (t : List (Exchange (windows extra))) : ChildSystem :=
  t.foldl (fun w x => w.after x.1 x.2) { lent }

/-- Every call of a life, and the one it makes next, is in order after those before it. -/
structure Orderly {A : Type} (rule : ChildSystem → Prop) (lent : List Handle)
    (t : List (Exchange (windows extra))) (p : System extra A) (w : ChildSystem) : Prop where
  recorded : ∀ past x rest, t = past++x :: rest → (remembered lent past).admits rule x.1
  next : ∀ c next, p = .ask c next → w.admits rule c

theorem orderly_of_safe {A : Type} {Q : A → ChildSystem → Prop} {lent : List Handle}
    {t : List (Exchange (windows extra))} {p p' : System extra A} {w : ChildSystem}
    (h : Safe (world extra rule) Q p { lent }) (hp : Reaches (world extra rule) p { lent } t p' w) :
    Orderly rule lent t p' w := by
  refine ⟨fun past x rest ht => h.recorded hp ht,fun c next hc => ?_⟩
  subst hc
  exact h.admits hp

theorem after_condemned {w : ChildSystem} {x : Exchange (windows extra)}
    (h : (w.after x.1 x.2).condemned = true) : w.condemned = true ∨ Terminates x := by
  obtain ⟨c,r⟩ := x
  cases c <;> try exact .inl h
  · cases r <;> exact .inl h
  · cases r <;> exact .inl h
  · exact Bool.or_eq_true_iff.mp h
  · exact Bool.or_eq_true_iff.mp h

/-- Nothing is condemned unless the system has agreed to end it. -/
theorem terminated_of_condemned {lent : List Handle} {t : List (Exchange (windows extra))}
    (h : (remembered lent t).condemned = true) : ∃ x ∈ t, Terminates x := by
  induction t using List.reverseRecOn with
  | nil => cases h
  | append_singleton t x ih =>
    rw [remembered, List.foldl_append] at h
    rcases after_condemned h with hold | hnew
    · obtain ⟨y,hy,hterminates⟩ := ih hold
      exact ⟨y,List.mem_append_left _ hy,hterminates⟩
    · exact ⟨x,List.mem_append_right _ (List.mem_singleton_self x),hnew⟩

/-- Without an observation the child is never let go: from the constructor to the destructor every
call is in order, an event is continued only after the system has agreed to end the child, in the
end nothing is open and the child ends, and every copy has returned what its exchanges tell. -/
theorem suspended_child_stays_held (x : Examination extra Locals) (rounds turns : ℕ)
    (lent : List Handle) (executable : List UInt16) (size : BitVec (32+extra))
    (context : Option LaunchInput) (ops : List (ChildOperation extra))
    (hops : ∀ op ∈ ops, op.observes = false)
    (hfile : ∀ op ∈ ops, ∀ x, op.file = some x → x ∈ lent) {t : List (Exchange (windows extra))}
    {p : System extra (List ChildResult)} {w : ChildSystem}
    (hp : Reaches (world extra held)
      (SuspendedChild.lifetime x rounds turns executable size context ops) { lent } t p w) :
    Orderly held lent t p w ∧
      (∀ past id thread status resumed rest,
        t = past++⟨.continueDebugEvent id thread status,resumed⟩ :: rest →
          ∃ x ∈ past, Terminates x) ∧
      ∀ results, p = .done results → SuspendedChild.Settled results w ∧
        SuspendedChild.Recorded x rounds turns executable size context ops t results := by
  have hsafe := @SuspendedChild.safe_lifetime _ _ held x rounds turns lent (fun _ h => h) executable
    size context ops (fun op hop h => absurd ((hops op hop).symm.trans h) Bool.false_ne_true) hfile
  have horderly := orderly_of_safe hsafe hp
  refine ⟨horderly,fun past id thread status resumed rest ht => ?_,fun results hresults => ?_⟩
  · obtain ⟨-,-,hheld⟩ := horderly.recorded past _ rest ht
    exact terminated_of_condemned hheld.1
  · subst hresults
    exact ⟨hsafe.returned hp,SuspendedChild.returns_lifetime hp.goes⟩

/-- A handle that is new. -/
def freshHandle (w : ChildSystem) : Handle := (w.opened++w.lent).sum+1

/-- A page of the image of the child. -/
def imagePage : MemoryBasicInformation (32+extra) where
  baseAddress := 0x400000
  allocationBase := 0x400000
  regionSize := 0x1000
  state := 0x1000
  protect := 0x02
  type := 0x1000000

/-- The events of a child: it is created, raises an exception when it has been continued, and exits
once it is condemned. -/
def childEvent (w : ChildSystem) (milliseconds : UInt64) : ReportedEvent extra :=
  if w.condemned then .exitProcess
  else if milliseconds = timeoutMs then .createProcess (some (freshHandle w)) 0x400000
  else .exception exceptionBreakpoint 0x401000 true

/-- A system in which everything works. -/
def obliging (w : ChildSystem) : (c : SystemCall extra) → c.Answer
  | .getCurrentThreadId => (1 : BitVec 32)
  | .getLastError => (0 : BitVec 32)
  | .getTickCount64 => (0 : UInt64)
  | .directoryMatches => true
  | .getFullPathName path => (path.length,path)
  | .createJobObject => some (freshHandle w)
  | .setKillOnJobClose _ => true
  | .createProcess .. => some (freshHandle w,freshHandle w+1,7)
  | .assignProcessToJobObject .. => true
  | .waitForDebugEvent milliseconds => some ⟨7,9,childEvent w milliseconds⟩
  | .continueDebugEvent .. => true
  | .terminateProcess .. => true
  | .terminateJobObject .. => true
  | .waitForSingleObject .. => (0 : BitVec 32)
  | .closeHandle _ => ()
  | .fileIdInfo _ => some ⟨1,0⟩
  | .virtualQueryEx .. => some imagePage
  | .readProcessMemory _ _ size => some (List.replicate size.toNat 0x90)
  | .writeProcessMemory _ _ bytes => (true,.ofNat _ bytes.length)
  | .getThreadId _ => (9 : UInt32)
  | .getThreadContext .. => some {}
  | .setThreadContext .. => true
  | .getThreadSelectorEntry .. => some 0
  | .getModuleHandle _ => some 1
  | .getProcAddress .. => some 1
  | .duplicateHandle .. => some (freshHandle w)
  | .openEvent .. => some (freshHandle w)
  | .compareObjectHandles .. => true
  | .getFileSize _ => some 1
  | .getFinalPathName _ => (0,[])
  | .setFilePointer .. => true
  | .readFile _ size => some (List.replicate size 0)
  | .bcryptCreateHash => true
  | .bcryptHashData _ => true
  | .bcryptFinishHash => some 0
  | .bcryptDestroyHash => ()

theorem fresh_of_le {w : ChildSystem} {h : Handle} (hh : freshHandle w ≤ h) : w.Fresh h := by
  have hnot : h ∉ w.opened++w.lent := fun hmem => by
    have hle : h ≤ (w.opened++w.lent).sum := List.le_sum_of_mem hmem
    exact absurd hh (Nat.not_le.mpr (Nat.lt_succ_of_le hle))
  exact ⟨fun hmem => hnot (List.mem_append_left _ hmem),fun hmem => hnot (List.mem_append_right _ hmem)⟩

theorem childEvent_file {w : ChildSystem} {milliseconds : UInt64} {h : Handle}
    (hh : (childEvent w milliseconds : ReportedEvent extra).file = some h) : w.Fresh h := by
  unfold childEvent at hh
  split_ifs at hh <;> cases hh
  exact fresh_of_le le_rfl

theorem obliging_answers (w : ChildSystem) (c : SystemCall extra) : w.answers c (obliging w c) := by
  have hfresh (h : Handle) (hh : some (freshHandle w) = some h) : w.Fresh h := by
    cases hh
    exact fresh_of_le le_rfl
  cases c with
  | createJobObject | duplicateHandle | openEvent => exact hfresh
  | createProcess path command flags environment directory =>
    intro created hcreated
    cases hcreated
    exact ⟨fresh_of_le le_rfl,fresh_of_le (Nat.le_succ _),(Nat.succ_ne_self _).symm⟩
  | waitForDebugEvent milliseconds =>
    intro report hreport h hh
    cases hreport
    exact childEvent_file hh
  | _ => trivial

/-- An examination that asks for the main thread, its context, one of its handles and the image. -/
def sampleExamination : Examination 0 Unit where
  opening _ _ := .done (fun _ => true,())
  exception _ _ _ _ _ _ _ := do
    let thread : UInt32 ← childCall .threadId
    let context : Option ThreadContext ← childCall (.context 0x10011)
    let same : Bool ← childCall (.sameNamedEvent 0x44 [0x61])
    let bytes : Option (List UInt8) ← childCall (.copy 0x10 16)
    return ({ passes := fun _ => same && bytes.isSome, mainThread := thread
              context := context.map (·.toContext) },())
  opening_ends _ _ := trivial
  exception_ends _ _ _ _ _ _ _ := fun _ _ _ _ => trivial

/-- A life in the system in which everything works, as far as eighty calls go. -/
def sampleRun (rule : ChildSystem → Prop) (ops : List (ChildOperation 0)) :
    System 0 (List ChildResult) × ChildSystem × List (Exchange (windows 0)) :=
  chosen (world 0 rule).after obliging 80
    (SuspendedChild.lifetime sampleExamination 4 4 [0x61] 4096 none ops) { lent := [5] }

theorem reaches_sampleRun (rule : ChildSystem → Prop) (ops : List (ChildOperation 0)) :
    Reaches (world 0 rule) (SuspendedChild.lifetime sampleExamination 4 4 [0x61] 4096 none ops)
      { lent := [5] } (sampleRun rule ops).2.2 (sampleRun rule ops).1 (sampleRun rule ops).2.1 :=
  reaches_chosen obliging_answers 80 _ _

/-- A life in which the child is compared, read and stopped. -/
def comparedLife : List (ChildOperation 0) := [.sameFile (some 5),.copy 0x10 4,.stop]

theorem suspended_child_stays_held_compared :
    let results : List ChildResult := [.same true,.copied (some [0x90,0x90,0x90,0x90]),.stopped true]
    let run := sampleRun held comparedLife
    SuspendedChild.Settled results run.2.1 ∧
      SuspendedChild.Recorded sampleExamination 4 4 [0x61] 4096 none comparedLife run.2.2 results := by
  refine (suspended_child_stays_held sampleExamination 4 4 [5] [0x61] 4096 none comparedLife ?_ ?_
    (reaches_sampleRun held comparedLife)).2.2 _ ?_
  · simp [comparedLife, ChildOperation.observes]
  · simp [comparedLife, ChildOperation.file]
  · exact Program.eq_done_of_outcome (by decide +kernel)

/-- With observations too every call is in order, nothing is left open and the child ends: each
observation has returned what its exchanges tell, and one that does not say otherwise has seen the
child end. -/
theorem observed_child_is_ended (x : Examination extra Locals) (rounds turns : ℕ)
    (lent : List Handle) (executable : List UInt16) (size : BitVec (32+extra))
    (context : Option LaunchInput) (ops : List (ChildOperation extra))
    (hfile : ∀ op ∈ ops, ∀ x, op.file = some x → x ∈ lent) {t : List (Exchange (windows extra))}
    {p : System extra (List ChildResult)} {w : ChildSystem}
    (hp : Reaches (world extra released)
      (SuspendedChild.lifetime x rounds turns executable size context ops) { lent } t p w) :
    Orderly released lent t p w ∧
      ∀ results, p = .done results → SuspendedChild.Settled results w ∧
        SuspendedChild.Recorded x rounds turns executable size context ops t results := by
  have hsafe := @SuspendedChild.safe_lifetime _ _ released x rounds turns lent (fun _ _ => trivial)
    executable size context ops (fun _ _ _ => rfl) hfile
  refine ⟨orderly_of_safe hsafe hp,fun results hresults => ?_⟩
  subst hresults
  exact ⟨hsafe.returned hp,SuspendedChild.returns_lifetime hp.goes⟩

/-- A life in which the child is observed until an exception, which is examined. -/
def observedLife : List (ChildOperation 0) :=
  [.observe { limits := { milliseconds := 4000 }, supplied := fun _ => false, verdict := fun _ => true }
    (some 5)]

theorem observed_child_is_ended_exception :
    let results : List ChildResult := [.observed (.finish "loader_exception")]
    let run := sampleRun released observedLife
    SuspendedChild.Settled results run.2.1 ∧
      SuspendedChild.Recorded sampleExamination 4 4 [0x61] 4096 none observedLife run.2.2 results := by
  refine (observed_child_is_ended sampleExamination 4 4 [5] [0x61] 4096 none observedLife ?_
    (reaches_sampleRun released observedLife)).2 _ ?_
  · simp [observedLife, ChildOperation.file]
  · exact Program.eq_done_of_outcome (by decide +kernel)

end Lifetimes
end Saex
