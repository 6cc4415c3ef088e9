import Saex.ChildProbing
import Saex.LoaderAutomaton

/-! `LoaderObservation` with the calls it makes: the tests before the debug loop and the loop as
programs, and that they do nothing to the system that is out of order. -/
namespace Saex
open CallPrograms ChildSystem

namespace LoaderSetup
variable {extra : ℕ}

/-- The setup once it is known what a test finds. -/
def told (c : LoaderSetup) (reason : String) (found : Bool) : LoaderSetup :=
  { c with verdict := Function.update c.verdict reason found }

theorem told_self (c : LoaderSetup) (reason : String) (found : Bool) :
    (c.told reason found).verdict reason = found := Function.update_self ..

theorem told_of_ne (c : LoaderSetup) {reason other : String} (h : other ≠ reason) (found : Bool) :
    (c.told reason found).verdict other = c.verdict other := Function.update_of_ne h ..

/-- The tests before the loop that look at the child. -/
def probingTests : List String :=
  ["startup_sample_precondition","entry_precondition_bytes","entry_precondition_region",
    "entry_context_read_failed","entry_debug_registers_busy","entry_preinitialization_drift",
    "entry_context_write_failed","entry_breakpoint_arm_failed","frame_create_sample_rejected"]

/-- The setup once it is known what these find. -/
def probed (c : LoaderSetup) (found : String → Bool) : LoaderSetup :=
  { c with verdict := fun reason => if reason ∈ probingTests then found reason else c.verdict reason }

theorem probed_of_not_mem (c : LoaderSetup) {reason : String} (h : reason ∉ probingTests)
    (found : String → Bool) : (c.probed found).verdict reason = c.verdict reason := if_neg h

/-- The setup for this child. What `finish` finds is no part of it. -/
def driving (c : LoaderSetup) (o : SuspendedChild extra) : LoaderSetup :=
  { c.told "loader_exit_unconfirmed" true with
    processId := o.processId, base := o.base.setWidth 32, imageBytes := o.imageBytes.setWidth 32 }

def started (c : LoaderSetup) (now : UInt64) : LoaderSetup :=
  { c with deadline := now+c.limits.milliseconds.toUInt64 }

end LoaderSetup

/-- What `run_impl` calls on the child in its tests before the loop and when it handles an
exception, and what it makes of the answers. `Locals` is what it keeps from one time to the next
beside the state of the loop. -/
structure Examination (extra : ℕ) (Locals : Type) where
  opening : LoaderSetup → SuspendedChild extra → Program (childCalls extra) ((String → Bool) × Locals)
  exception : LoaderSetup → LoopState → Locals → UInt32 → BitVec 32 → Address → Bool →
    Program (childCalls extra) (Probe × Locals)
  opening_ends : ∀ c o, (opening c o).Ends
  exception_ends : ∀ c s l thread code address firstChance,
    (exception c s l thread code address firstChance).Ends

namespace SuspendedChild
variable {extra : ℕ} {Locals : Type}

/-- The lambda `finish` of `run_impl`. -/
def finish (rounds : ℕ) (o : SuspendedChild extra) :
    Ending → System extra (Ending × SuspendedChild extra)
  | .outOfRange => return (.outOfRange,o)
  | .finish reason => do
    match o.process with
    | none => return (.finish reason,o)
    | some _ =>
      let (confirmed,o) ← o.stop rounds
      return ((Ending.finish reason).close confirmed,o)

/-- The file of a loaded module: its size, and its identity where the size is within the budget.
In any case it is closed. -/
def moduleFile (c : LoaderSetup) (t : ModuleTable) :
    Option Handle → System extra (Option Int64 × Option LoaderFileIdentity)
  | none => return (none,none)
  | some file => do
    if c.limits.modules ≤ t.moduleCount then
      sysCall (.closeHandle file)
      return (none,none)
    else
      let size : Option Int64 ← sysCall (.getFileSize file)
      if size.any fun bytes => 0 < bytes && bytes.toUInt64 ≤ c.limits.bytes-t.chargedBytes then
        let inspected ← inspectLoaderFile file maxLoaderFileBytes
        sysCall (.closeHandle file)
        return (size,inspected)
      else
        sysCall (.closeHandle file)
        return (size,none)

/-- What is called on the child before the loop dispatches an event, and what it is told then. -/
def examine (x : Examination extra Locals) (c : LoaderSetup) (s : LoopState) (l : Locals)
    (o : SuspendedChild extra) (report : DebugReport extra) :
    System extra (DebugEventKind × Locals) := do
  if report.processId ≠ o.processId then
    closeIfOpen report.event.file
    return (.other,l)
  else
    match report.event with
    | .loadDll file base =>
      let (size,inspected) ← moduleFile c s.table file
      return (.loadDll base size inspected,l)
    | .exception code address firstChance =>
      let (probe,l) ← (x.exception c s l report.threadId code address firstChance).via o.probing
      return (.exception code address firstChance probe,l)
    | .createProcess file _ =>
      closeIfOpen file
      return (.other,l)
    | .unloadDll base => return (.unloadDll base,l)
    | .createThread => return (.createThread,l)
    | .exitProcess => return (.exitProcess,l)
    | .other => return (.other,l)

/-- The debug loop, followed for some turns. -/
def observing (x : Examination extra Locals) (rounds : ℕ) (c : LoaderSetup) :
    ℕ → LoopState → Locals → SuspendedChild extra → System extra (Ending × SuspendedChild extra)
  | 0, _, _, _ => .cut
  | turns+1, s, l, o => do
    if c.limits.events ≤ s.eventCount then o.finish rounds (.finish "loader_event_limit")
    else
      let now : UInt64 ← sysCall .getTickCount64
      if c.deadline ≤ now then o.finish rounds (.finish "loader_timeout")
      else
        let resumed : Bool ← sysCall (.continueDebugEvent o.processId o.pendingThread 0x00010002)
        if resumed then
          let o := o.resumed
          let later : UInt64 ← sysCall .getTickCount64
          if c.deadline ≤ later then o.finish rounds (.finish "loader_timeout")
          else
            match ← sysCall (.waitForDebugEvent (c.deadline-later)) with
            | none =>
              let _ ← sysCall .getLastError
              o.finish rounds (.finish "loader_wait_failed")
            | some report =>
              let held := o.reported (o.exitSeen || report.event.exits) report.threadId
              let (kind,l) ← held.examine x c s.resume l report
              if report.processId ≠ o.processId then
                o.finish rounds (.finish "loader_event_identity")
              else
                match dispatch c s.resume report.threadId kind with
                | .ok s' => observing x rounds c turns s' l held
                | .error e => held.finish rounds e
        else
          let _ ← sysCall .getLastError
          o.finish rounds (.finish "loader_continue_failed")

/-- Whether the child is the one to observe, and is not observed already. -/
def identify (o : SuspendedChild extra) (executable : Option Handle) : System extra Bool :=
  if o.error ≠ none || o.loaderStarted then return false else o.sameFile executable

/-- `LoaderObservation::run_impl`. Which of the tests behind the third look at the child before
another one fails is left to `x`. -/
def observation (x : Examination extra Locals) (rounds turns : ℕ) (c : LoaderSetup)
    (executable : Option Handle) (o : SuspendedChild extra) :
    System extra (Ending × SuspendedChild extra) := do
  let thread : BitVec 32 ← sysCall .getCurrentThreadId
  let c := (c.driving o).told "loader_owner_thread" (thread = o.ownerThread)
  if thread ≠ o.ownerThread then return (.finish "loader_owner_thread",o)
  else
    match (c.opening.take 3).find? (fun r => !r.1) with
    | some r => o.finish rounds (.finish r.2)
    | none =>
      let identical : Bool ← o.identify executable
      let c := c.told "loader_child_identity_or_state" identical
      if identical then
        let (found,l) ← (x.opening c o).via o.probing
        let c := c.probed found
        match c.opening.find? (fun r => !r.1) with
        | some r => o.finish rounds (.finish r.2)
        | none =>
          let now : UInt64 ← sysCall .getTickCount64
          let c := c.started now
          observing x rounds c turns c.start l { o with loaderStarted := true }
      else o.finish rounds (.finish "loader_child_identity_or_state")

/-! Custody. -/

/-- How an observation leaves the child: ended, unless it says that it could not confirm it. -/
structure Concluded (process : Option Handle) (r : Ending × SuspendedChild extra)
    (w : ChildSystem) : Prop where
  owns : r.2.Owns w
  kept : r.2.process = process
  ended : ∀ reason, r.1 = .finish reason → reason ≠ "loader_exit_unconfirmed" →
    reason ≠ "loader_owner_thread" → process = none ∨ w.signalled = true

variable {x : Examination extra Locals} {o : SuspendedChild extra} {w : ChildSystem}
  {c : LoaderSetup} {rounds : ℕ} {p : Handle}

theorem safe_finish (h : o.Owns w) (e : Ending) :
    Safe (world extra released) (Concluded o.process) (o.finish rounds e) w := by
  cases e with
  | outOfRange => exact ⟨h,rfl,fun reason hr => by cases hr⟩
  | finish reason =>
    unfold finish
    dsimp only
    split
    · rename_i hp
      exact ⟨h,rfl,fun _ _ _ _ => .inl hp⟩
    · refine Safe.bind ((safe_stop (fun _ _ => trivial) rounds h).mono ?_)
      rintro ⟨confirmed,o'⟩ w' ⟨h',hp',hconfirmed⟩
      refine ⟨h',hp',fun reason' hr hne _ => ?_⟩
      cases confirmed with
      | true => exact hconfirmed rfl
      | false =>
        cases hr
        exact absurd rfl hne

theorem safe_moduleFile {t : ModuleTable} {file : Option Handle}
    (hfile : ∀ h, file = some h → h ∈ w.opened ∧ h ∉ w.lent) :
    Safe (world extra released) (fun _ w' => w' = w.closing file) (moduleFile c t file) w := by
  cases file with
  | none => rfl
  | some file =>
    have hclose := hfile file rfl
    unfold moduleFile
    dsimp only
    split
    · exact Safe.call hclose fun _ _ => rfl
    refine Safe.call (.inl hclose.1) fun (size : Option Int64) _ => ?_
    dsimp only
    split
    · refine Safe.bind ((safe_inspectLoaderFile hclose.1 _).mono ?_)
      rintro inspected w' rfl
      exact Safe.call hclose fun _ _ => rfl
    · exact Safe.call hclose fun _ _ => rfl

/-- What is called while an event is examined closes its file and leaves all else as it is. -/
theorem safe_examine {s : LoopState} {l : Locals} (h : o.Owns w) (hp : o.process = some p)
    (hk : o.killRequested = false) {report : DebugReport extra}
    (hreport : w.answers (.waitForDebugEvent 0) (some report)) (exits : Bool) :
    Safe (world extra released)
      (fun _ w' => w' = (w.reported (some report)).closing report.event.file)
      ((o.reported exits report.threadId).examine x c s l report) (w.reported (some report)) := by
  have hfresh (a : Handle) (ha : report.event.file = some a) :
      a ∈ (w.reported (some report)).opened ∧ a ∉ w.lent :=
    ⟨List.mem_append_left _ (Option.mem_toList.mpr ha),(hreport report rfl a ha).2⟩
  have hclosed := h.reported hp hreport
  unfold examine
  split
  · exact Safe.bind (safe_closeIfOpen hfresh rfl)
  rename_i hown
  have hid : report.processId = o.processId := not_not.mp hown
  rw [if_pos hid] at hclosed
  split
  · rename_i file base hevent
    rw [hevent] at hfresh ⊢
    refine Safe.bind ((safe_moduleFile hfresh).mono ?_)
    rintro found w' rfl
    rfl
  · rename_i code address firstChance hevent
    rw [hevent] at hclosed ⊢
    have howns : (o.reported exits report.threadId).Owns (w.reported (some report)) := by
      rw [show w.reported (some report) = _ from hclosed]
      exact h.report hp exits report.threadId
    refine Safe.bind ((Safe.via (K := fun w' => w' = w.reported (some report))
      (fun call w' hw' => ?_) rfl).mono ?_)
    · subst hw'
      exact safe_probing howns rfl hk call
    · rintro found w' rfl
      rfl
  · rename_i file image hevent
    rw [hevent] at hfresh ⊢
    exact Safe.bind (safe_closeIfOpen hfresh rfl)
  all_goals
    rename_i hevent
    rw [hevent]
    rfl

theorem safe_observing (turns : ℕ) {s : LoopState} {l : Locals} (h : o.Owns w)
    (hp : o.process = some p) (hpending : o.pending = true) (hk : o.killRequested = false) :
    Safe (world extra released) (Concluded (some p)) (observing x rounds c turns s l o) w := by
  induction turns generalizing o w s l with
  | zero => trivial
  | succ turns ih =>
    have hend {o' : SuspendedChild extra} {w' : ChildSystem} (h' : o'.Owns w')
        (hp' : o'.process = some p) (e : Ending) :
        Safe (world extra released) (Concluded (some p)) (o'.finish rounds e) w' :=
      hp' ▸ safe_finish h' e
    unfold observing
    split
    · exact hend h hp _
    refine Safe.call trivial fun (now : UInt64) _ => ?_
    split
    · exact hend h hp _
    have houtstanding : w.outstanding = some o.pendingThread := by
      rw [h.outstanding, if_pos hpending]
    refine Safe.call ⟨h.childId hp,houtstanding,trivial⟩ fun (resumed : Bool) _ => ?_
    cases resumed with
    | false => exact Safe.call trivial fun _ _ => hend h hp _
    | true =>
      refine Safe.call trivial fun (later : UInt64) _ => ?_
      split
      · exact hend h.resume hp _
      have hbefore : w.process ≠ none := by
        rw [h.process, hp]
        exact Option.some_ne_none _
      refine Safe.call ⟨hbefore,rfl⟩ fun (report : Option (DebugReport extra)) hreport => ?_
      cases report with
      | none => exact Safe.call trivial fun _ _ => hend h.resume hp _
      | some report =>
        have hclosed := h.resume.reported hp hreport
        refine Safe.bind ((safe_examine h.resume hp hk hreport _).mono ?_)
        rintro ⟨kind,l'⟩ w' rfl
        dsimp only
        by_cases hown : report.processId = o.processId
        · rw [if_neg (show ¬report.processId ≠ o.resumed.processId from not_not.mpr hown)]
          rw [if_pos hown] at hclosed
          rw [hclosed]
          have howns := h.resume.report hp (o.exitSeen || report.event.exits) report.threadId
          split
          · exact ih howns hp rfl hk
          · exact hend howns hp _
        · rw [if_pos (show report.processId ≠ o.resumed.processId from hown)]
          rw [if_neg hown] at hclosed
          rw [hclosed]
          exact hend h.resume hp _

theorem safe_identify {executable : Option Handle} (h : o.Owns w)
    (hexecutable : ∀ x, executable = some x → x ∈ w.lent) :
    Safe (world extra released)
      (fun r w' => w' = w ∧ (r = true → o.pending = true ∧ o.killRequested = false))
      (o.identify executable) w := by
  unfold identify
  split
  · exact ⟨rfl,fun hr => by cases hr⟩
  · exact safe_sameFile h hexecutable

/-- An observation makes no call that is out of order, and leaves the child ended unless it tells
otherwise. -/
theorem safe_observation {executable : Option Handle} (turns : ℕ) (h : o.Owns w)
    (hexecutable : ∀ x, executable = some x → x ∈ w.lent) :
    Safe (world extra released) (Concluded o.process)
      (o.observation x rounds turns c executable) w := by
  refine Safe.call trivial fun (thread : BitVec 32) _ => ?_
  dsimp only
  split
  · refine ⟨h,rfl,fun reason hr _ hne => ?_⟩
    cases hr
    exact absurd rfl hne
  split
  · exact safe_finish h _
  refine Safe.bind ((safe_identify h hexecutable).mono ?_)
  rintro identical w' ⟨rfl,hidentical⟩
  cases identical with
  | false =>
    rw [if_neg Bool.false_ne_true]
    exact safe_finish h _
  | true =>
    rw [if_pos rfl]
    obtain ⟨hpending,hk⟩ := hidentical rfl
    obtain ⟨p,hp⟩ : ∃ p, o.process = some p := by
      refine Option.ne_none_iff_exists'.mp fun hnone => ?_
      rw [(h.unborn hnone).1] at hpending
      cases hpending
    refine Safe.bind ((Safe.via (K := fun w'' => w'' = w') (fun call w'' hw => ?_) rfl).mono ?_)
    · subst hw
      exact safe_probing h hpending hk call
    rintro ⟨found,l⟩ w'' rfl
    dsimp only
    split
    · exact safe_finish h _
    · refine Safe.call trivial fun (now : UInt64) _ => ?_
      refine (safe_observing (o := { o with loaderStarted := true }) turns { h with } hp hpending
        hk).mono fun r v hr => ?_
      rwa [hp]

end SuspendedChild
end Saex
