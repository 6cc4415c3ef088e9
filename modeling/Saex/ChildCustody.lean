import Saex.SuspendedChild

/-! What a `SuspendedImage` may do to the system, and that it does nothing else from its
constructor to its destructor: every handle is closed once, the child alone is terminated and
continued, and it is not continued before it is condemned. -/
namespace Saex
open CallPrograms

/-- What the calls of one object have made of the system: its open handles, its job and its child,
the event of the child that waits to be continued, and whether the child will end whatever is
continued. -/
structure ChildSystem where
  lent : List Handle := []
  opened : List Handle := []
  job : Option Handle := none
  process : Option (Handle × UInt32) := none
  thread : Option Handle := none
  limited : Bool := false
  assigned : Bool := false
  outstanding : Option UInt32 := none
  condemned : Bool := false
  doomed : Bool := false
  signalled : Bool := false
deriving DecidableEq

namespace ChildSystem
variable {extra : ℕ}

/-- A handle that is neither open here nor lent. -/
def Fresh (w : ChildSystem) (h : Handle) : Prop := h ∉ w.opened ∧ h ∉ w.lent

/-- An event of the child is held and nothing has ended it: it may be read and written. -/
def Paused (w : ChildSystem) (process : Option Handle) : Prop :=
  process ≠ none ∧ w.process.map (·.1) = process ∧ w.outstanding ≠ none ∧ w.condemned = false

/-- The same, for its main thread. -/
def PausedThread (w : ChildSystem) (thread : Option Handle) : Prop :=
  thread ≠ none ∧ w.thread = thread ∧ w.outstanding ≠ none ∧ w.condemned = false

/-- A handle is closed where it is open, and used while it is open or lent; of the processes only
the child is terminated, waited for and continued, and its memory, its thread and its handles are
used only while it is paused. `rule` is what has to hold for it to be continued. -/
def admits (rule : ChildSystem → Prop) (w : ChildSystem) : SystemCall extra → Prop
  | .setKillOnJobClose job => w.job = some job
  | .createJobObject => w.job = none
  | .createProcess .. => w.process = none ∧ w.limited = true
  | .assignProcessToJobObject job process => w.job = some job ∧ w.process.map (·.1) = some process
  | .waitForDebugEvent _ => w.process ≠ none ∧ w.outstanding = none
  | .continueDebugEvent process thread _ =>
    w.process.map (·.2) = some process ∧ w.outstanding = some thread ∧ rule w
  | .terminateProcess process _ => w.process.map (·.1) = some process ∧ process ∈ w.opened
  | .terminateJobObject job _ => job ≠ none ∧ w.job = job
  | .waitForSingleObject object _ => w.process.map (·.1) = some object ∧ object ∈ w.opened
  | .closeHandle object => object ∈ w.opened ∧ object ∉ w.lent
  | .fileIdInfo file => ∃ h, file = some h ∧ (h ∈ w.opened ∨ h ∈ w.lent)
  | .getFileSize file | .getFinalPathName file | .setFilePointer file _ | .readFile file _ =>
    file ∈ w.opened ∨ file ∈ w.lent
  | .virtualQueryEx process _ | .readProcessMemory process .. | .writeProcessMemory process .. |
    .duplicateHandle process .. => w.Paused process
  | .getThreadId thread | .getThreadContext thread _ | .setThreadContext thread .. |
    .getThreadSelectorEntry thread _ => w.PausedThread thread
  | .compareObjectHandles first second => first ∈ w.opened ∧ second ∈ w.opened
  | _ => True

/-- A handle that a call returns is a new one; nothing else is asked of the answers. -/
def answers (w : ChildSystem) : (c : SystemCall extra) → c.Answer → Prop
  | .createJobObject, r | .duplicateHandle .., r | .openEvent .., r =>
    ∀ h : Handle, r = some h → w.Fresh h
  | .createProcess .., r => ∀ x : Handle × Handle × UInt32, r = some x →
    w.Fresh x.1 ∧ w.Fresh x.2.1 ∧ x.1 ≠ x.2.1
  | .waitForDebugEvent _, r => ∀ x : DebugReport extra, r = some x →
    ∀ h, x.event.file = some h → w.Fresh h
  | _, _ => True

def jobCreated (w : ChildSystem) (job : Option Handle) : ChildSystem :=
  { w with opened := job.toList++w.opened, job }

def created (w : ChildSystem) : Option (Handle × Handle × UInt32) → ChildSystem
  | none => w
  | some (process,thread,id) =>
    { w with
      opened := process :: thread :: w.opened, process := some (process,id), thread := some thread }

/-- A handle to an object of the child, or to a named one. -/
def acquired (w : ChildSystem) (h : Option Handle) : ChildSystem :=
  { w with opened := h.toList++w.opened }

/-- An event with its file; it waits to be continued if it is one of the child. -/
def reported (w : ChildSystem) : Option (DebugReport extra) → ChildSystem
  | none => w
  | some report => { w with
    opened := report.event.file.toList++w.opened
    outstanding := if w.process.map (·.2) = some report.processId then some report.threadId
      else w.outstanding }

def continued (w : ChildSystem) (accepted : Bool) : ChildSystem :=
  { w with outstanding := if accepted then none else w.outstanding }

def processTerminated (w : ChildSystem) (accepted : Bool) : ChildSystem :=
  { w with condemned := w.condemned || accepted, doomed := w.doomed || accepted }

/-- To terminate the job ends what was assigned to it. -/
def jobTerminated (w : ChildSystem) (accepted : Bool) : ChildSystem :=
  { w with condemned := w.condemned || accepted, doomed := w.doomed || w.assigned && accepted }

def awaited (w : ChildSystem) (code : BitVec 32) : ChildSystem :=
  { w with signalled := w.signalled || code = 0 }

/-- So does to close it, if it has the limit. -/
def closed (w : ChildSystem) (h : Handle) : ChildSystem :=
  { w with
    opened := w.opened.erase h
    doomed := w.doomed || w.job = some h && w.limited && w.assigned }

def after (w : ChildSystem) : (c : SystemCall extra) → c.Answer → ChildSystem
  | .createJobObject, r => w.jobCreated r
  | .setKillOnJobClose _, r => { w with limited := r }
  | .createProcess .., r => w.created r
  | .assignProcessToJobObject .., r => { w with assigned := r }
  | .waitForDebugEvent _, r => w.reported r
  | .continueDebugEvent .., r => w.continued r
  | .terminateProcess .., r => w.processTerminated r
  | .terminateJobObject .., r => w.jobTerminated r
  | .waitForSingleObject .., r => w.awaited r
  | .closeHandle h, _ => w.closed h
  | .duplicateHandle .., r | .openEvent .., r => w.acquired r
  | _, _ => w

/-- The child is continued only to let it end: it is condemned, and if it was assigned to the job
nothing keeps it from ending. -/
def held (w : ChildSystem) : Prop := w.condemned = true ∧ (w.assigned = true → w.doomed = true)

/-- The child may run: the rule of an explicit experiment. -/
def released (_ : ChildSystem) : Prop := True

/-- The system under a rule for continuing the child. -/
abbrev world (extra : ℕ) (rule : ChildSystem → Prop) : Environment (windows extra) ChildSystem :=
  ⟨admits rule,answers,after⟩

end ChildSystem

section Custody
variable {extra : ℕ} {rule : ChildSystem → Prop}

namespace ChildSystem

/-- The system after `close` on a handle that may be null. -/
def closing (w : ChildSystem) : Option Handle → ChildSystem
  | none => w
  | some h => w.closed h

theorem closing_opened {w : ChildSystem} {x : Option Handle} {rest : List Handle}
    (h : w.opened.Perm (x.toList++rest)) : (w.closing x).opened.Perm rest := by
  cases x with
  | none => exact h
  | some a =>
    have herase := h.erase a
    rwa [Option.toList_some, List.singleton_append, List.erase_cons_head] at herase

/-- An event leaves nothing behind once its file is closed but that it waits to be continued. -/
theorem closing_reported {w : ChildSystem} {report : DebugReport extra}
    (h : ∀ x, w.job = some x → x ∈ w.opened) (hr : w.answers (.waitForDebugEvent 0) (some report)) :
    (w.reported (some report)).closing report.event.file = { w with
      outstanding := if w.process.map (·.2) = some report.processId then some report.threadId
        else w.outstanding } := by
  have hfresh := hr report rfl
  cases hfile : report.event.file with
  | none => simp only [reported, closing, hfile, Option.toList_none, List.nil_append]
  | some a =>
    have hjob : w.job ≠ some a := fun hjob => (hfresh a hfile).1 (h a hjob)
    simp only [reported, closing, closed, hfile, Option.toList_some, List.singleton_append,
      List.erase_cons_head, hjob, decide_false, Bool.false_and, Bool.or_false]

/-- What is left can be closed too. -/
theorem closing_closable {w : ChildSystem} {x : Option Handle} {rest : List Handle}
    (h : w.opened.Perm (x.toList++rest)) (hlent : ∀ h ∈ w.opened, h ∉ w.lent) :
    (∀ h, x = some h → h ∈ w.opened ∧ h ∉ w.lent) ∧
      ∀ h ∈ (w.closing x).opened, h ∉ (w.closing x).lent := by
  refine ⟨fun a ha => ?_,?_⟩
  · have hmem : a ∈ w.opened := h.mem_iff.mpr (List.mem_append_left _ (Option.mem_toList.mpr ha))
    exact ⟨hmem,hlent a hmem⟩
  · cases x with
    | none => exact hlent
    | some a => exact fun y hy => hlent y (List.mem_of_mem_erase hy)

/-- To close a handle changes nothing but what is open and what will end. -/
theorem closing_kept (w : ChildSystem) (x : Option Handle) :
    (w.closing x).job = w.job ∧ (w.closing x).process = w.process ∧
      (w.closing x).limited = w.limited ∧ (w.closing x).assigned = w.assigned ∧
      (w.doomed = true → (w.closing x).doomed = true) := by
  cases x with
  | none => exact ⟨rfl,rfl,rfl,rfl,id⟩
  | some a => exact ⟨rfl,rfl,rfl,rfl,fun h => Bool.or_eq_true_iff.mpr (.inl h)⟩

/-- To close the job ends what was assigned to it. -/
theorem closing_job {w : ChildSystem} {x : Option Handle} (hjob : w.job = x) (hx : x ≠ none)
    (hlimited : w.limited = true) (hassigned : w.assigned = true) : (w.closing x).doomed = true := by
  obtain ⟨a,rfl⟩ := Option.ne_none_iff_exists'.mp hx
  simp only [closing, closed, hjob, hlimited, hassigned, decide_true, Bool.and_self, Bool.or_true]

theorem safe_closeIfOpen {Q : Unit → ChildSystem → Prop} {w : ChildSystem} {x : Option Handle}
    (hx : ∀ h, x = some h → h ∈ w.opened ∧ h ∉ w.lent) (h : Q () (w.closing x)) :
    Safe (world extra rule) Q (closeIfOpen x) w := by
  cases x with
  | none => exact h
  | some a => exact ⟨hx a rfl,fun _ _ => h⟩

end ChildSystem

namespace SuspendedChild
open ChildSystem

def handles (o : SuspendedChild extra) : List Handle :=
  o.imageFile.toList++(o.job.toList++(o.thread.toList++o.process.toList))

/-- The object knows how the system stands: this holds whenever none of its functions runs. -/
structure Owns (o : SuspendedChild extra) (w : ChildSystem) : Prop where
  opened : w.opened.Perm o.handles
  lent : ∀ h ∈ w.opened, h ∉ w.lent
  job : w.job = o.job
  process : w.process = o.process.map (·,o.processId)
  thread : w.thread = o.thread
  outstanding : w.outstanding = if o.pending then some o.pendingThread else none
  condemned : w.condemned = o.killRequested
  doomed : w.condemned = true → w.assigned = true → w.doomed = true
  stopped : o.stopped = true → w.signalled = true
  limited : o.process ≠ none → w.limited = true ∧ o.job ≠ none ∧ o.thread ≠ none
  unborn : o.process = none → o.pending = false ∧ w.assigned = false
  whole : o.error = none → w.assigned = true ∧ (o.killRequested = false → o.imageFile ≠ none)

namespace Owns
variable {o : SuspendedChild extra} {w : ChildSystem}

theorem mem_opened (h : o.Owns w) {x : Handle} : x ∈ w.opened ↔
    o.imageFile = some x ∨ o.job = some x ∨ o.thread = some x ∨ o.process = some x := by
  rw [h.opened.mem_iff, handles]
  simp only [List.mem_append, Option.mem_toList]

theorem jobOpened (h : o.Owns w) {x : Handle} (hx : w.job = some x) : x ∈ w.opened :=
  h.mem_opened.mpr (.inr (.inl (h.job ▸ hx)))

theorem closable (h : o.Owns w) {x : Handle} (hx : o.imageFile = some x) :
    x ∈ w.opened ∧ x ∉ w.lent := by
  have hmem : x ∈ w.opened := h.mem_opened.mpr (.inl hx)
  exact ⟨hmem,h.lent x hmem⟩

theorem terminable (h : o.Owns w) {p : Handle} (hp : o.process = some p) :
    w.process.map (·.1) = some p ∧ p ∈ w.opened := by
  refine ⟨?_,h.mem_opened.mpr (.inr (.inr (.inr hp)))⟩
  rw [h.process, hp]
  rfl

theorem childId (h : o.Owns w) {p : Handle} (hp : o.process = some p) :
    w.process.map (·.2) = some o.processId := by
  rw [h.process, hp]
  rfl

/-- A reported event, its file closed, waits to be continued if it is one of the child. -/
theorem reported (h : o.Owns w) {p : Handle} (hp : o.process = some p) {report : DebugReport extra}
    (hr : w.answers (.waitForDebugEvent 0) (some report)) :
    (w.reported (some report)).closing report.event.file = if report.processId = o.processId then
      { w with outstanding := some report.threadId } else w := by
  rw [closing_reported (fun _ => h.jobOpened) hr, h.childId hp]
  by_cases hid : report.processId = o.processId
  · rw [if_pos hid, if_pos (congrArg some hid.symm)]
  · rw [if_neg hid, if_neg fun he => hid (Option.some.inj he).symm]

/-- A condemned child may be continued. -/
theorem held (h : o.Owns w) (hk : o.killRequested = true) : w.held := by
  have hcondemned : w.condemned = true := h.condemned.trans hk
  exact ⟨hcondemned,h.doomed hcondemned⟩

theorem reject (h : o.Owns w) (reason : String) : (o.reject reason).Owns w :=
  { h with whole := fun hnone => absurd hnone (Option.some_ne_none _) }

theorem rejected (h : o.Owns w) (reason : String) (systemError : BitVec 32) :
    ({ o.reject reason with systemError } : SuspendedChild extra).Owns w :=
  { h with whole := fun hnone => absurd hnone (Option.some_ne_none _) }

/-- An event of the child. -/
theorem report (h : o.Owns w) {p : Handle} (hp : o.process = some p) (exits : Bool)
    (thread : UInt32) :
    ({ o with exitSeen := exits, pending := true, pendingThread := thread } :
      SuspendedChild extra).Owns { w with outstanding := some thread } :=
  { h with
    outstanding := rfl
    unborn := fun hnone => absurd (hp.symm.trans hnone) (Option.some_ne_none _) }

theorem resume (h : o.Owns w) : ({ o with pending := false } : SuspendedChild extra).Owns
    { w with outstanding := none } :=
  { h with
    outstanding := rfl
    unborn := fun hnone => ⟨rfl,(h.unborn hnone).2⟩ }

theorem closeImageFile (h : o.Owns w) (hk : o.killRequested = true) :
    ({ o with imageFile := none } : SuspendedChild extra).Owns (w.closing o.imageFile) := by
  have hopened : (w.closing o.imageFile).opened.Perm
      ({ o with imageFile := none } : SuspendedChild extra).handles := closing_opened h.opened
  cases hfile : o.imageFile with
  | none =>
    rw [hfile] at hopened
    exact { h with
      opened := hopened
      whole := fun hnone => ⟨(h.whole hnone).1,fun hk' => by rw [hk] at hk'; cases hk'⟩ }
  | some a =>
    rw [hfile] at hopened
    refine { h with opened := hopened, lent := ?_, doomed := ?_, whole := ?_ }
    · exact fun x hx => h.lent x (List.mem_of_mem_erase hx)
    · intro hcondemned hassigned
      change (w.doomed || _) = true
      rw [h.doomed hcondemned hassigned, Bool.true_or]
    · exact fun hnone => ⟨(h.whole hnone).1,fun hk' => by rw [hk] at hk'; cases hk'⟩

end Owns

/-! What the functions keep. -/
section Functions
variable {o : SuspendedChild extra} {w : ChildSystem} {p : Handle}

theorem safe_kill (h : o.Owns w) (hp : o.process = some p) :
    Safe (world extra rule) (fun o' w' => o'.Owns w' ∧ o'.process = some p) (o.kill p) w := by
  unfold kill
  by_cases hk : o.killRequested = true
  · rw [if_pos hk]
    exact ⟨h,hp⟩
  rw [if_neg hk]
  have hcondemned : w.condemned = false := h.condemned.trans (Bool.eq_false_of_not_eq_true hk)
  refine Safe.call (h.terminable hp) fun killed _ => ?_
  cases killed with
  | true =>
    refine ⟨{ h with condemned := ?_, doomed := fun _ _ => ?_, whole := fun hnone => ?_ },hp⟩
    · exact Bool.or_true _
    · exact Bool.or_true _
    · exact ⟨(h.whole hnone).1,fun hk' => by cases hk'⟩
  | false =>
    have hjob := (h.limited (hp ▸ Option.some_ne_none p)).2.1
    refine Safe.call ⟨hjob,h.job⟩ fun killed _ => ?_
    cases killed with
    | true =>
      refine ⟨{ h with condemned := ?_, doomed := fun _ hassigned => ?_, whole := fun hnone => ?_ },hp⟩
      · exact Bool.or_true _
      · change (_ || w.assigned && true) = true
        rw [show w.assigned = true from hassigned, Bool.and_self, Bool.or_true]
      · exact ⟨(h.whole hnone).1,fun hk' => by cases hk'⟩
    | false =>
      refine ⟨{ h with condemned := ?_, doomed := fun hc _ => ?_, whole := fun hnone => ?_ },hp⟩
      · change ((w.condemned || false) || false) = false
        rw [hcondemned, Bool.or_self, Bool.or_self]
      · change ((w.condemned || false) || false) = true at hc
        rw [hcondemned] at hc
        cases hc
      · exact ⟨(h.whole hnone).1,fun _ => (h.whole hnone).2 (Bool.eq_false_of_not_eq_true hk)⟩

theorem safe_release (hrule : w.held → rule w) (h : o.Owns w) (hp : o.process = some p)
    (hk : o.killRequested = true) :
    Safe (world extra rule) (fun r w' => r.2.Owns w' ∧ r.2.process = some p ∧
      r.2.killRequested = true ∧ (r.1 = true → r.2.pending = false)) o.release w := by
  unfold release
  by_cases hpending : o.pending = true
  · rw [if_pos hpending]
    have houtstanding : w.outstanding = some o.pendingThread := by
      rw [h.outstanding, if_pos hpending]
    refine Safe.call ⟨h.childId hp,houtstanding,hrule (h.held hk)⟩ fun resumed _ => ?_
    cases resumed with
    | true => exact ⟨h.resume,hp,hk,fun _ => rfl⟩
    | false =>
      refine ⟨{ h with outstanding := ?_, unborn := fun hnone => ?_ },hp,hk,fun hr => by cases hr⟩
      · exact houtstanding
      · exact absurd (hp.symm.trans hnone) (Option.some_ne_none p)
  · rw [if_neg hpending]
    exact ⟨h,hp,hk,fun _ => Bool.eq_false_of_not_eq_true hpending⟩

/-- A round of the loop keeps the object in charge: the events of the child are continued, with
their files closed, those of others are only reported. -/
theorem safe_drain {deadline : UInt64} (hrule : ∀ w : ChildSystem, w.held → rule w) (rounds : ℕ) :
    ∀ (events : ℕ) {o : SuspendedChild extra} {w : ChildSystem}, o.Owns w → o.process = some p →
      o.killRequested = true → o.pending = false →
      Safe (world extra rule) (fun r w' => r.2.Owns w' ∧ r.2.process = some p)
        (drain deadline rounds events o) w := by
  induction rounds with
  | zero => exact fun _ _ _ _ _ _ _ => trivial
  | succ rounds ih =>
    intro events o w h hp hk hpending
    unfold drain
    split
    · exact ⟨h,hp⟩
    refine Safe.call trivial fun now _ => ?_
    split
    · exact ⟨h,hp⟩
    have hbefore : w.process ≠ none ∧ w.outstanding = none := by
      rw [h.process, h.outstanding, hp, hpending]
      exact ⟨Option.some_ne_none _,rfl⟩
    refine Safe.call hbefore fun report hreport => ?_
    cases report with
    | none =>
      refine Safe.call trivial fun error _ => ?_
      split
      · exact ih events h hp hk hpending
      · exact ⟨h,hp⟩
    | some report =>
      refine Safe.bind (safe_closeIfOpen (fun x hx => ?_) ?_)
      · refine ⟨List.mem_append_left _ (Option.mem_toList.mpr hx),?_⟩
        exact (hreport report rfl x hx).2
      have hclosed := h.reported hp hreport
      change Safe _ _ _ ((w.reported (some report)).closing report.event.file)
      by_cases hid : report.processId = o.processId
      · rw [if_neg (not_not.mpr hid)]
        rw [if_pos hid] at hclosed
        rw [hclosed]
        have howns := h.report hp report.event.exits report.threadId
        refine Safe.call ⟨h.childId hp,rfl,hrule _ (howns.held hk)⟩ fun resumed _ => ?_
        cases resumed with
        | true => exact ih (events+1) howns.resume hp hk rfl
        | false => exact ⟨howns,hp⟩
      · rw [if_pos hid]
        rw [if_neg hid] at hclosed
        rw [hclosed]
        exact ⟨h,hp⟩

theorem safe_confirm {deadline : UInt64} (h : o.Owns w) (hp : o.process = some p) :
    Safe (world extra rule) (fun r w' => r.2.Owns w' ∧ r.2.process = some p ∧
      (r.1 = true → w'.signalled = true)) (o.confirm p deadline) w := by
  unfold confirm
  split
  · refine Safe.call trivial fun now _ => Safe.call (h.terminable hp) fun (code : BitVec 32) _ => ?_
    have hsignalled (hcode : decide (code = 0) = true) :
        (w.awaited code).signalled = true := Bool.or_eq_true_iff.mpr (.inr hcode)
    exact ⟨{ h with stopped := hsignalled },hp,hsignalled⟩
  · exact ⟨h,hp,fun hr => by cases hr⟩

/-- `stop` says that there is no child, or that the child has ended. -/
theorem safe_stop (hrule : ∀ w : ChildSystem, w.held → rule w) (rounds : ℕ) (h : o.Owns w) :
    Safe (world extra rule) (fun r w' => r.2.Owns w' ∧ r.2.process = o.process ∧
      (r.1 = true → o.process = none ∨ w'.signalled = true)) (o.stop rounds) w := by
  unfold stop
  cases hp : o.process with
  | none => exact ⟨h,hp,fun _ => .inl rfl⟩
  | some p =>
    have hrefused {o' : SuspendedChild extra} {w' : ChildSystem} (h' : o'.Owns w')
        (hp' : o'.process = some p) : o'.Owns w' ∧ o'.process = some p ∧
          (false = true → some p = none ∨ w'.signalled = true) := ⟨h',hp',fun hr => by cases hr⟩
    by_cases hstopped : o.stopped = true
    · simp only [hstopped, if_true]
      exact ⟨h,hp,fun _ => .inr (h.stopped hstopped)⟩
    simp only [hstopped]
    refine Safe.call trivial fun thread _ => ?_
    split
    · exact hrefused h hp
    refine Safe.call trivial fun started _ => Safe.bind ((safe_kill h hp).mono ?_)
    intro o₁ w₁ ⟨h₁,hp₁⟩
    by_cases hk : o₁.killRequested = true
    · rw [if_pos hk]
      refine Safe.bind (safe_closeIfOpen (fun x => h₁.closable) (Safe.bind ((safe_release (hrule _)
        (h₁.closeImageFile hk) hp₁ hk).mono ?_)))
      rintro ⟨goes,o₂⟩ w₂ ⟨h₂,hp₂,hk₂,hpending⟩
      cases goes with
      | false => exact hrefused h₂ hp₂
      | true =>
        refine Safe.bind ((safe_drain hrule rounds 0 h₂ hp₂ hk₂ (hpending rfl)).mono ?_)
        rintro ⟨left,o₃⟩ w₃ ⟨h₃,hp₃⟩
        cases left with
        | false => exact hrefused h₃ hp₃
        | true => exact (safe_confirm h₃ hp₃).mono fun r w' hr => ⟨hr.1,hr.2.1,fun ht => .inr (hr.2.2 ht)⟩
    · rw [if_neg hk]
      exact hrefused h₁ hp₁

/-- Nothing is open any more, and a child that was assigned to its job will end. -/
theorem safe_destroy (hrule : ∀ w : ChildSystem, w.held → rule w) (rounds : ℕ) (h : o.Owns w) :
    Safe (world extra rule) (fun _ w' => w'.opened = [] ∧
      (w'.assigned = true → w'.doomed = true) ∧ (o.process = none → w'.process = none))
      (o.destroy rounds) w := by
  refine Safe.bind ((safe_stop hrule rounds h).mono ?_)
  rintro ⟨_,o'⟩ w ⟨h',hkept,-⟩
  have hfile := closing_closable h'.opened h'.lent
  have hjob := closing_closable (closing_opened h'.opened) hfile.2
  have hthread := closing_closable (closing_opened (closing_opened h'.opened)) hjob.2
  have hlast : (((w.closing o'.imageFile).closing o'.job).closing o'.thread).opened.Perm
      (o'.process.toList++[]) := by
    rw [List.append_nil]
    exact closing_opened (closing_opened (closing_opened h'.opened))
  have hprocess := closing_closable hlast hthread.2
  obtain ⟨hjob₁,hprocess₁,hlimited₁,hassigned₁,-⟩ := closing_kept w o'.imageFile
  obtain ⟨-,hprocess₂,-,hassigned₂,-⟩ := closing_kept (w.closing o'.imageFile) o'.job
  obtain ⟨-,hprocess₃,-,hassigned₃,hdoomed₃⟩ :=
    closing_kept ((w.closing o'.imageFile).closing o'.job) o'.thread
  obtain ⟨-,hprocess₄,-,hassigned₄,hdoomed₄⟩ :=
    closing_kept (((w.closing o'.imageFile).closing o'.job).closing o'.thread) o'.process
  refine Safe.bind (safe_closeIfOpen hfile.1 (Safe.bind (safe_closeIfOpen hjob.1 (Safe.bind
    (safe_closeIfOpen hthread.1 (safe_closeIfOpen hprocess.1 ⟨?_,fun hassigned => ?_,fun hnone => ?_⟩))))))
  · exact List.Perm.eq_nil (closing_opened hlast)
  · -- The job is closed after the file, and what is closed after the job takes nothing back.
    have hbefore : (w.closing o'.imageFile).assigned = true := by
      rw [← hassigned₂, ← hassigned₃, ← hassigned₄]
      exact hassigned
    have hborn : o'.process ≠ none := fun hnone => by
      rw [hassigned₁, (h'.unborn hnone).2] at hbefore
      cases hbefore
    have hlimited := h'.limited hborn
    exact hdoomed₄ (hdoomed₃ (closing_job (hjob₁.trans h'.job) hlimited.2.1
      (hlimited₁.trans hlimited.1) hbefore))
  · rw [hprocess₄, hprocess₃, hprocess₂, hprocess₁, h'.process, hkept, hnone]
    rfl

/-! Functions that only look. -/

theorem safe_sameFile {verified : Option Handle} (h : o.Owns w)
    (hverified : ∀ x, verified = some x → x ∈ w.lent) :
    Safe (world extra rule)
      (fun r w' => w' = w ∧ (r = true → o.pending = true ∧ o.killRequested = false))
      (o.sameFile verified) w := by
  unfold sameFile
  have hrefused : w = w ∧ (false = true → o.pending = true ∧ o.killRequested = false) :=
    ⟨rfl,fun hr => by cases hr⟩
  split
  · exact hrefused
  rename_i hguard
  simp only [Bool.or_eq_true, decide_eq_true_eq, Bool.not_eq_true', not_or, not_not,
    Bool.not_eq_false, Bool.not_eq_true] at hguard
  obtain ⟨⟨herror,hpending⟩,hk⟩ := hguard
  refine Safe.call trivial fun thread _ => ?_
  split
  · exact hrefused
  rename_i hthread
  obtain ⟨x,hx⟩ : ∃ x, verified = some x := by
    refine Option.ne_none_iff_exists'.mp fun hnone => hthread ?_
    rw [hnone]
    exact Bool.or_true _
  refine Safe.call ⟨x,hx,.inr (hverified x hx)⟩ fun expected _ => ?_
  cases expected with
  | none => exact hrefused
  | some expected =>
    obtain ⟨file,hfile⟩ := Option.ne_none_iff_exists'.mp ((h.whole herror).2 hk)
    refine Safe.call ⟨file,hfile,.inl (h.closable hfile).1⟩ fun actual _ => ?_
    cases actual with
    | none => exact hrefused
    | some actual => exact ⟨rfl,fun _ => ⟨hpending,hk⟩⟩

/-- What the child is read under. -/
theorem paused (h : o.Owns w) (hpending : o.pending = true) (hk : o.killRequested = false) :
    w.Paused o.process := by
  have hprocess : o.process ≠ none := fun hnone => by
    rw [(h.unborn hnone).1] at hpending
    cases hpending
  refine ⟨hprocess,?_,?_,h.condemned.trans hk⟩
  · obtain ⟨p,hp⟩ := Option.ne_none_iff_exists'.mp hprocess
    rw [(h.terminable hp).1, hp]
  · rw [h.outstanding, if_pos hpending]
    exact Option.some_ne_none _

theorem pausedThread (h : o.Owns w) (hpending : o.pending = true) (hk : o.killRequested = false) :
    w.PausedThread o.thread := by
  obtain ⟨hprocess,-,houtstanding,hcondemned⟩ := paused h hpending hk
  exact ⟨(h.limited hprocess).2.2,h.thread,houtstanding,hcondemned⟩

/-- The walk over the pages only asks for regions of the paused child. -/
theorem safe_walkPages {fin : BitVec (32+extra)} (h : w.Paused o.process)
    (cursor : BitVec (32+extra)) :
    Safe (world extra rule) (fun _ w' => w' = w) (o.walkPages fin cursor) w := by
  induction hn : fin.toNat-cursor.toNat using Nat.strong_induction_on generalizing cursor with
  | _ n ih =>
    unfold walkPages
    split
    · rename_i hcursor
      refine ⟨h,fun region _ => ?_⟩
      cases region with
      | none => rfl
      | some region =>
        dsimp only
        split
        · rename_i hcovered
          exact ih _ (hn ▸ sub_earlier_lt hcovered hcursor) _ rfl
        · rfl
    · rfl

theorem safe_copy {rva : BitVec 32} {length : BitVec (32+extra)} (h : o.Owns w) :
    Safe (world extra rule) (fun _ w' => w' = w) (o.copy rva length) w := by
  unfold copy
  split
  · rfl
  rename_i hguard
  simp only [Bool.or_eq_true, decide_eq_true_eq, Bool.not_eq_true', not_or, not_not,
    Bool.not_eq_false, Bool.not_eq_true] at hguard
  obtain ⟨⟨-,hpending⟩,hk⟩ := hguard
  have hpaused := paused h hpending hk
  refine Safe.call trivial fun (thread : BitVec 32) _ => ?_
  split
  · rfl
  refine Safe.bind ((safe_walkPages hpaused _).mono ?_)
  rintro verified w' rfl
  cases verified with
  | true => exact Safe.call hpaused fun _ _ => rfl
  | false => rfl

/-! The constructor. What it builds owns the system but for the error that it may still find. -/

theorem safe_fail {reason : String} (h : (o.reject reason).Owns w) :
    Safe (world extra rule) (fun o' w' => o'.Owns w') (o.fail reason) w :=
  ⟨trivial,fun systemError _ => h.rejected reason systemError⟩

/-- The first event of the child brings its image file. -/
theorem receiveImage {reason : String} (h : (o.reject reason).Owns w) (hp : o.process = some p)
    (hfile : o.imageFile = none) {report : DebugReport extra}
    (hr : w.answers (.waitForDebugEvent 0) (some report)) (hid : report.processId = o.processId) :
    ({ o with
        pending := true, pendingThread := report.threadId, exitSeen := report.event.exits
        imageFile := report.event.file } : SuspendedChild extra).reject reason |>.Owns
      (w.reported (some report)) := by
  have hchild : w.process.map (·.2) = some o.processId := h.childId hp
  refine { h with opened := ?_, lent := ?_, outstanding := ?_, unborn := ?_, whole := ?_ }
  · have hopened : w.opened.Perm (o.imageFile.toList++_) := h.opened
    rw [hfile] at hopened
    exact hopened.append_left report.event.file.toList
  · intro x hx
    rcases List.mem_append.mp hx with hnew | hold
    · exact (hr report rfl x (Option.mem_toList.mp hnew)).2
    · exact h.lent x hold
  · change (if w.process.map (·.2) = some report.processId then _ else _) = some report.threadId
    rw [hid, if_pos hchild]
  · exact fun hnone => absurd (hp.symm.trans hnone) (Option.some_ne_none _)
  · exact fun hnone => absurd hnone (Option.some_ne_none _)

theorem safe_receive (size : o.imageBytes.toNat ≤ maxImageBytes)
    (h : ∀ reason, (o.reject reason).Owns w) (hp : o.process = some p) (hpending : o.pending = false)
    (hfile : o.imageFile = none) (hassigned : w.assigned = true) :
    Safe (world extra rule) (fun o' w' => o'.Owns w') (o.receive size) w := by
  have howns := h ""
  have hbefore : w.process ≠ none ∧ w.outstanding = none := by
    rw [howns.process, howns.outstanding]
    change o.process.map _ ≠ none ∧ (if o.pending then _ else none) = none
    rw [hp, hpending]
    exact ⟨Option.some_ne_none _,rfl⟩
  refine Safe.call hbefore fun report hreport => ?_
  cases report with
  | none => exact safe_fail (h _)
  | some report =>
    have hclosed : (w.reported (some report)).closing report.event.file =
        if report.processId = o.processId then { w with outstanding := some report.threadId } else w :=
      howns.reported hp hreport
    have hfresh (x : Handle) (hx : report.event.file = some x) :
        x ∈ (w.reported (some report)).opened ∧ x ∉ w.lent :=
      ⟨List.mem_append_left _ (Option.mem_toList.mpr hx),(hreport report rfl x hx).2⟩
    dsimp only
    by_cases hid : report.processId = o.processId
    · rw [if_neg (not_not.mpr hid)]
      rw [if_pos hid] at hclosed
      split
      · rename_i file image hevent
        have himage := receiveImage howns hp hfile hreport hid
        rw [hevent] at himage
        split
        · exact { himage with whole := fun hnone => absurd hnone (Option.some_ne_none _) }
        · rename_i hmetadata
          have hsome : file ≠ none := fun hnone => hmetadata (.inl (by rw [hnone]; rfl))
          split
          · exact { himage with whole := fun hnone => absurd hnone (Option.some_ne_none _) }
          · exact { himage with whole := fun _ => ⟨hassigned,fun _ => hsome⟩ }
      · refine Safe.bind (safe_closeIfOpen hfresh ?_)
        change Safe _ _ _ ((w.reported (some report)).closing report.event.file)
        rw [hclosed]
        exact (howns.report hp _ _).reject _
    · rw [if_pos hid]
      rw [if_neg hid] at hclosed
      refine Safe.bind (safe_closeIfOpen hfresh ?_)
      change Safe _ _ _ ((w.reported (some report)).closing report.event.file)
      rw [hclosed]
      exact h _

/-- Nothing has been opened yet. -/
structure Untouched (o : SuspendedChild extra) : Prop where
  handles : o.handles = []
  pending : o.pending = false
  killRequested : o.killRequested = false
  stopped : o.stopped = false

theorem Untouched.none (h : o.Untouched) :
    o.imageFile = none ∧ o.job = none ∧ o.thread = none ∧ o.process = none := by
  have hempty := h.handles
  simp only [SuspendedChild.handles, List.append_eq_nil_iff, Option.toList_eq_nil_iff] at hempty
  exact hempty

/-- The constructor before its first handle, whatever error it finds. -/
theorem Untouched.owns (h : o.Untouched) (lent : List Handle) (reason : String) :
    (o.reject reason).Owns { lent } := by
  obtain ⟨hfile,hjob,hthread,hprocess⟩ := h.none
  refine ⟨?_,?_,hjob.symm,?_,hthread.symm,?_,?_,?_,?_,?_,?_,?_⟩
  · exact h.handles ▸ List.Perm.refl _
  · exact fun x hx => absurd hx List.not_mem_nil
  · simp [reject, hprocess]
  · simp [reject, h.pending]
  · simp [reject, h.killRequested]
  · exact fun hcondemned => absurd hcondemned Bool.false_ne_true
  · exact fun hstopped => absurd (h.stopped.symm.trans hstopped) Bool.false_ne_true
  · exact fun hsome => absurd hprocess hsome
  · exact fun _ => ⟨h.pending,rfl⟩
  · exact fun hnone => absurd hnone (Option.some_ne_none _)

/-- The constructor with a job and nothing else. -/
theorem Untouched.owns_job (h : o.Untouched) {lent : List Handle} {job : Handle}
    (hjob : job ∉ lent) (limited : Bool) (reason : String) :
    (({ o with job := some job } : SuspendedChild extra).reject reason).Owns
      { lent, opened := [job], job := some job, limited } := by
  obtain ⟨hfile,-,hthread,hprocess⟩ := h.none
  refine ⟨?_,?_,rfl,?_,hthread.symm,?_,?_,?_,?_,?_,?_,?_⟩
  · simp [SuspendedChild.handles, reject, hfile, hthread, hprocess]
  · simpa using hjob
  · simp [reject, hprocess]
  · simp [reject, h.pending]
  · simp [reject, h.killRequested]
  · exact fun hcondemned => absurd hcondemned Bool.false_ne_true
  · exact fun hstopped => absurd (h.stopped.symm.trans hstopped) Bool.false_ne_true
  · exact fun hsome => absurd hprocess hsome
  · exact fun _ => ⟨h.pending,rfl⟩
  · exact fun hnone => absurd hnone (Option.some_ne_none _)

/-- The constructor with a child, before its first event. -/
theorem Untouched.owns_child (h : o.Untouched) {lent : List Handle} {job process thread : Handle}
    (hjob : job ∉ lent) (hprocess : process ∉ lent) (hthread : thread ∉ lent) (processId : UInt32)
    (assigned : Bool) (reason : String) :
    (({ o with job := some job, process := some process, thread := some thread, processId } :
      SuspendedChild extra).reject reason).Owns
      { lent, opened := [process,thread,job], job := some job, process := some (process,processId)
        thread := some thread, limited := true, assigned } := by
  obtain ⟨hfile,-,-,-⟩ := h.none
  refine ⟨?_,?_,rfl,rfl,rfl,?_,?_,?_,?_,?_,?_,?_⟩
  · simp only [SuspendedChild.handles, reject, hfile, Option.toList_none, Option.toList_some,
      List.nil_append]
    exact List.reverse_perm [job,thread,process] |>.symm.symm
  · simp [hjob, hprocess, hthread]
  · simp [reject, h.pending]
  · simp [reject, h.killRequested]
  · exact fun hcondemned => absurd hcondemned Bool.false_ne_true
  · exact fun hstopped => absurd (h.stopped.symm.trans hstopped) Bool.false_ne_true
  · exact fun _ => ⟨rfl,Option.some_ne_none _,Option.some_ne_none _⟩
  · exact fun hnone => absurd hnone (Option.some_ne_none _)
  · exact fun hnone => absurd hnone (Option.some_ne_none _)

theorem safe_launch {lent : List Handle} (size : o.imageBytes.toNat ≤ maxImageBytes)
    (h : o.Untouched) (path : List UInt16) (context : Option LaunchInput) :
    Safe (world extra rule) (fun o' w' => o'.Owns w') (o.launch size path context) { lent } := by
  refine Safe.call rfl fun job hfresh => ?_
  cases job with
  | none => exact safe_fail (h.owns lent _)
  | some job =>
    have hjob : job ∉ lent := (hfresh job rfl).2
    refine Safe.call rfl fun limited _ => ?_
    cases limited with
    | false => exact safe_fail (h.owns_job hjob false _)
    | true =>
      refine Safe.call ⟨rfl,rfl⟩ fun created hcreated => ?_
      cases created with
      | none => exact safe_fail (h.owns_job hjob true _)
      | some created =>
        obtain ⟨process,thread,processId⟩ := created
        obtain ⟨hprocess,hthread,-⟩ := hcreated _ rfl
        refine Safe.call ⟨rfl,rfl⟩ fun assigned _ => ?_
        cases assigned with
        | false => exact safe_fail (h.owns_child hjob hprocess.2 hthread.2 processId false _)
        | true =>
          have howns := h.owns_child hjob hprocess.2 hthread.2 processId true
          exact @safe_receive _ _ { o with
            job := some job, process := some process, thread := some thread, processId } _ process
            size howns rfl h.pending h.none.1 rfl

theorem safe_resolve {lent : List Handle} (size : o.imageBytes.toNat ≤ maxImageBytes)
    (h : o.Untouched) (executable : List UInt16) (context : Option LaunchInput) :
    Safe (world extra rule) (fun o' w' => o'.Owns w') (o.resolve size executable context)
      { lent } := by
  refine Safe.call trivial fun path _ => ?_
  obtain ⟨count,path⟩ := path
  dsimp only
  split
  · exact safe_fail (h.owns lent _)
  · exact safe_launch size h path context

/-- Whatever becomes of the constructor, the object owns what it has opened. -/
theorem safe_construct (lent : List Handle) (executable : List UInt16) (size : BitVec (32+extra))
    (context : Option LaunchInput) :
    Safe (world extra rule) (fun o w => o.Owns w) (construct executable size context) { lent } := by
  refine Safe.call trivial fun ownerThread _ => ?_
  split
  · rename_i hsize
    have hopening : (opening ownerThread size hsize).Untouched := ⟨rfl,rfl,rfl,rfl⟩
    unfold prepare
    split
    · exact hopening.owns lent _
    cases context with
    | none => exact safe_resolve hsize hopening executable none
    | some input =>
      dsimp only
      split
      · refine Safe.call trivial fun unchanged _ => ?_
        cases unchanged with
        | true => exact safe_resolve hsize hopening executable (some input)
        | false => exact hopening.owns lent _
      · exact hopening.owns lent _
  · have hrefused : (oversized ownerThread size).Untouched := ⟨rfl,rfl,rfl,rfl⟩
    exact hrefused.owns lent "invalid_observer_input"

end Functions
end SuspendedChild
end Custody
end Saex
