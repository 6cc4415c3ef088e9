import Saex.CallPrograms
import Saex.ImageCopies
import Saex.LoaderInputs

/-! `SuspendedImage` with the calls it makes: the constructor, `same_file`, `copy`, `stop` and the
destructor as programs, and the part of the system that they act on. -/
namespace Saex
open CallPrograms

/-- A handle that is not null. -/
abbrev Handle := ℕ

/-- What `FileIdInfo` tells of a file. -/
structure FileIdInfo where
  volumeSerialNumber : UInt64
  fileId : BitVec 128
deriving DecidableEq

/-- A CONTEXT with its six segment registers. -/
structure ThreadContext extends Context where
  segments : List (BitVec 32) := []

/-- A debug event with its file handle, where it has one. -/
inductive ReportedEvent (extra : ℕ)
  | createProcess (file : Option Handle) (image : BitVec (32+extra))
  | loadDll (file : Option Handle) (base : Address)
  | unloadDll (base : Address)
  | createThread
  | exception (code : BitVec 32) (address : Address) (firstChance : Bool)
  | exitProcess
  | other

namespace ReportedEvent
variable {extra : ℕ}

def file : ReportedEvent extra → Option Handle
  | .createProcess file _ | .loadDll file _ => file
  | _ => none

def exits : ReportedEvent extra → Bool
  | .exitProcess => true
  | _ => false

/-- DBG_EXCEPTION_NOT_HANDLED for exceptions, DBG_CONTINUE for everything else. -/
def status : ReportedEvent extra → BitVec 32
  | .exception .. => 0x80010001
  | _ => 0x00010002

end ReportedEvent

structure DebugReport (extra : ℕ) where
  processId : UInt32
  threadId : UInt32
  event : ReportedEvent extra

/-- The calls of the operating system, and `LaunchContext::directory_matches`. -/
inductive SystemCall (extra : ℕ)
  | getCurrentThreadId
  | getLastError
  | getTickCount64
  | directoryMatches
  | getFullPathName (path : List UInt16)
  | createJobObject
  | setKillOnJobClose (job : Handle)
  | createProcess (path command : List UInt16) (flags : BitVec 32)
    (environment directory : Option (List UInt16))
  | assignProcessToJobObject (job process : Handle)
  | waitForDebugEvent (milliseconds : UInt64)
  | continueDebugEvent (process thread : UInt32) (status : BitVec 32)
  | terminateProcess (process : Handle) (code : BitVec 32)
  | terminateJobObject (job : Option Handle) (code : BitVec 32)
  | waitForSingleObject (object : Handle) (milliseconds : UInt64)
  | closeHandle (object : Handle)
  | fileIdInfo (file : Option Handle)
  | virtualQueryEx (process : Option Handle) (address : BitVec (32+extra))
  | readProcessMemory (process : Option Handle) (address size : BitVec (32+extra))
  | writeProcessMemory (process : Option Handle) (address : BitVec (32+extra)) (bytes : List UInt8)
  | getThreadId (thread : Option Handle)
  | getThreadContext (thread : Option Handle) (flags : BitVec 32)
  | setThreadContext (thread : Option Handle) (flags : BitVec 32) (context : ThreadContext)
  | getThreadSelectorEntry (thread : Option Handle) (selector : BitVec 32)
  | getModuleHandle (name : String)
  | getProcAddress (module : ℕ) (name : String)
  | duplicateHandle (process : Option Handle) (value access : BitVec 32)
  | openEvent (access : BitVec 32) (name : List UInt8)
  | compareObjectHandles (first second : Handle)
  | getFileSize (file : Handle)
  | getFinalPathName (file : Handle)
  | setFilePointer (file : Handle) (position : Int64)
  | readFile (file : Handle) (size : ℕ)
  | bcryptCreateHash
  | bcryptHashData (bytes : List UInt8)
  | bcryptFinishHash
  | bcryptDestroyHash

def SystemCall.Answer {extra : ℕ} : SystemCall extra → Type
  | getCurrentThreadId | getLastError | waitForSingleObject .. => BitVec 32
  | getTickCount64 => UInt64
  | getThreadId _ => UInt32
  | getFullPathName _ | getFinalPathName _ => ℕ × List UInt16
  | createJobObject | duplicateHandle .. | openEvent .. => Option Handle
  | createProcess .. => Option (Handle × Handle × UInt32)
  | waitForDebugEvent _ => Option (DebugReport extra)
  | closeHandle _ | bcryptDestroyHash => Unit
  | fileIdInfo _ => Option FileIdInfo
  | virtualQueryEx .. => Option (MemoryBasicInformation (32+extra))
  | readProcessMemory .. | readFile .. => Option (List UInt8)
  | writeProcessMemory .. => Bool × BitVec (32+extra)
  | getThreadContext .. => Option ThreadContext
  | getThreadSelectorEntry .. => Option (BitVec 64)
  | getModuleHandle _ | getProcAddress .. => Option ℕ
  | getFileSize _ => Option Int64
  | bcryptFinishHash => Option (BitVec 256)
  | directoryMatches | setKillOnJobClose _ | assignProcessToJobObject .. | continueDebugEvent .. |
    terminateProcess .. | terminateJobObject .. | setThreadContext .. | compareObjectHandles .. |
    setFilePointer .. | bcryptCreateHash | bcryptHashData _ => Bool

abbrev windows (extra : ℕ) : Interface := ⟨SystemCall extra,SystemCall.Answer⟩

/-- A launch context, as the constructor reads it. -/
structure LaunchInput where
  valid : Bool
  environment : List UInt16
  directory : List UInt16

/-- All fields of `SuspendedImage`. -/
structure SuspendedChild (extra : ℕ) extends SuspendedImage extra where
  job : Option Handle := none
  process : Option Handle := none
  thread : Option Handle := none
  imageFile : Option Handle := none
  processId : UInt32 := 0
  pendingThread : UInt32 := 0
  systemError : BitVec 32 := 0
  exitSeen : Bool := false
  stopped : Bool := false
  loaderStarted : Bool := false

abbrev System (extra : ℕ) (A : Type) := Program (windows extra) A

abbrev sysCall {extra : ℕ} (c : SystemCall extra) : System extra c.Answer :=
  @Program.call (windows extra) c

def observerExitCode : BitVec 32 := 0x53414558

def timeoutMs : UInt64 := 5000

def errorSemTimeout : BitVec 32 := 121

section Methods
variable {extra : ℕ}

/-- `close` on a handle that may be null. -/
def closeIfOpen : Option Handle → System extra Unit
  | none => pure ()
  | some h => sysCall (.closeHandle h)

namespace SuspendedChild

/-- `error_ = reason`. -/
def reject (o : SuspendedChild extra) (reason : String) : SuspendedChild extra :=
  { o with error := some reason, placed := fun h => absurd h (Option.some_ne_none _) }

/-- The lambda `fail` of the constructor. -/
def fail (o : SuspendedChild extra) (reason : String) : System extra (SuspendedChild extra) := do
  let systemError ← sysCall .getLastError
  return { o.reject reason with systemError }

/-- Nothing of an admitted size ends behind the addresses. -/
theorem placed_opening {size : BitVec (32+extra)} (h : size.toNat ≤ maxImageBytes) :
    size.toNat ≤ maxImageBytes ∧ (0 : BitVec (32+extra)).toNat+size.toNat < 2^(32+extra) := by
  have hlt : maxImageBytes < 2^32 := by decide
  have hle : 2^32 ≤ 2^(32+extra) := Nat.pow_le_pow_right (by decide) (Nat.le_add_right 32 extra)
  refine ⟨h,?_⟩
  rw [show (0 : BitVec (32+extra)).toNat = 0 from BitVec.toNat_ofNat .. |>.trans (Nat.zero_mod _)]
  omega

theorem placed_of_metadata {base size : BitVec (32+extra)} (h : size.toNat ≤ maxImageBytes)
    (hbase : ¬size.toNat > 2^(32+extra)-1-base.toNat) :
    size.toNat ≤ maxImageBytes ∧ base.toNat+size.toNat < 2^(32+extra) := by
  have hlt := base.isLt
  exact ⟨h,by omega⟩

/-- The members with their initial values. -/
def opening (ownerThread : BitVec 32) (size : BitVec (32+extra)) (h : size.toNat ≤ maxImageBytes) :
    SuspendedChild extra :=
  { error := none, pending := false, killRequested := false, ownerThread, base := 0
    imageBytes := size, placed := fun _ => placed_opening h }

/-- `pending_ = false`, behind a `ContinueDebugEvent`. -/
def resumed (o : SuspendedChild extra) : SuspendedChild extra := { o with pending := false }

/-- A debug event of the child is there. -/
def reported (o : SuspendedChild extra) (exits : Bool) (thread : UInt32) : SuspendedChild extra :=
  { o with exitSeen := exits, pending := true, pendingThread := thread }

/-- The image of the first event does not fit the addresses, or is not told. -/
def refuseImage (o : SuspendedChild extra) (file : Option Handle) (base : BitVec (32+extra)) :
    SuspendedChild extra :=
  { o with
    error := some "observer_image_metadata", imageFile := file, base
    placed := fun h => absurd h (Option.some_ne_none _) }

/-- The first debug event: the constructor from its `WaitForDebugEvent` on. -/
def receive (o : SuspendedChild extra) (h : o.imageBytes.toNat ≤ maxImageBytes) :
    System extra (SuspendedChild extra) := do
  match ← sysCall (.waitForDebugEvent timeoutMs) with
  | none => o.fail "observer_create_event_timeout"
  | some report =>
    if report.processId ≠ o.processId then
      closeIfOpen report.event.file
      return o.reject "observer_event_identity"
    else
      let o' := o.reported report.event.exits report.threadId
      match report.event with
      | .createProcess file image =>
        if file.isNone ∨ image = 0 then
          return o'.refuseImage file image
        else if hplaced : o.imageBytes.toNat > 2^(32+extra)-1-image.toNat then
          return o'.refuseImage file image
        else
          return { o' with
            imageFile := file, base := image, placed := fun _ => placed_of_metadata h hplaced }
      | event =>
        closeIfOpen event.file
        return o'.reject "observer_first_event"

def commandLine (path : List UInt16) : List UInt16 := 0x22 :: path++[0x22]

/-- DEBUG_ONLY_THIS_PROCESS, CREATE_NO_WINDOW and, with a context, CREATE_UNICODE_ENVIRONMENT. -/
def creationFlags (context : Option LaunchInput) : BitVec 32 :=
  0x00000002 ||| 0x08000000 ||| if context.isSome then 0x00000400 else (0 : BitVec 32)

/-- The job and the child in it: the constructor from `CreateJobObjectW` on. -/
def launch (o : SuspendedChild extra) (h : o.imageBytes.toNat ≤ maxImageBytes) (path : List UInt16)
    (context : Option LaunchInput) : System extra (SuspendedChild extra) := do
  match ← sysCall .createJobObject with
  | none => o.fail "observer_job_failed"
  | some job =>
    let o := { o with job := some job }
    let limited : Bool ← sysCall (.setKillOnJobClose job)
    if limited then
      match ← sysCall (.createProcess path (commandLine path) (creationFlags context)
          (context.map (·.environment)) (context.map (·.directory))) with
      | none => o.fail "observer_create_failed"
      | some (process,thread,processId) =>
        let o := { o with process := some process, thread := some thread, processId }
        let assigned : Bool ← sysCall (.assignProcessToJobObject job process)
        if assigned then o.receive h else o.fail "observer_job_assign_failed"
    else o.fail "observer_job_limits_failed"

/-- The path of the executable: the constructor from `GetFullPathNameW` on. -/
def resolve (o : SuspendedChild extra) (h : o.imageBytes.toNat ≤ maxImageBytes)
    (executable : List UInt16) (context : Option LaunchInput) :
    System extra (SuspendedChild extra) := do
  let (count,path) : ℕ × List UInt16 ← sysCall (.getFullPathName executable)
  if count = 0 ∨ 32764 < count then o.fail "observer_path_failed" else o.launch h path context

/-- The tests on the other arguments, once the size is admitted. -/
def prepare (o : SuspendedChild extra) (h : o.imageBytes.toNat ≤ maxImageBytes)
    (executable : List UInt16) (context : Option LaunchInput) :
    System extra (SuspendedChild extra) := do
  if executable = [] ∨ o.imageBytes = 0 then return o.reject "invalid_observer_input"
  else
    match context with
    | none => o.resolve h executable none
    | some input =>
      if input.valid then
        let unchanged : Bool ← sysCall .directoryMatches
        if unchanged then o.resolve h executable context
        else return o.reject "observer_context_directory_changed"
      else return o.reject "observer_invalid_context"

/-- An object with an error is not placed. -/
theorem placed_oversized (size : BitVec (32+extra)) :
    some "invalid_observer_input" = none → size.toNat ≤ maxImageBytes ∧
      (0 : BitVec (32+extra)).toNat+size.toNat < 2^(32+extra) :=
  fun h => absurd h (Option.some_ne_none _)

/-- The object for a size that is not admitted. -/
def oversized (ownerThread : BitVec 32) (size : BitVec (32+extra)) : SuspendedChild extra :=
  { error := some "invalid_observer_input", pending := false, killRequested := false, ownerThread
    base := 0, imageBytes := size, placed := placed_oversized size }

/-- The constructor. -/
def construct (executable : List UInt16) (size : BitVec (32+extra)) (context : Option LaunchInput) :
    System extra (SuspendedChild extra) := do
  let ownerThread : BitVec 32 ← sysCall .getCurrentThreadId
  if h : size.toNat ≤ maxImageBytes then (opening ownerThread size h).prepare h executable context
  else return oversized ownerThread size

/-- `same_file`. -/
def sameFile (o : SuspendedChild extra) (verified : Option Handle) : System extra Bool := do
  if o.error ≠ none || !o.pending || o.killRequested then return false
  else
    let thread : BitVec 32 ← sysCall .getCurrentThreadId
    if thread ≠ o.ownerThread || verified.isNone then return false
    else
      match ← sysCall (.fileIdInfo verified) with
      | none => return false
      | some expected =>
        match ← sysCall (.fileIdInfo o.imageFile) with
        | none => return false
        | some actual => return expected = actual

/-- A region that is found to hold the byte at the cursor brings it forward. -/
theorem sub_earlier_lt {base cursor fin : BitVec (32+extra)}
    {region : MemoryBasicInformation (32+extra)} (hcovered : coveredRegion base cursor region = true)
    (hcursor : cursor < fin) :
    fin.toNat-(earlier fin (region.baseAddress+region.regionSize)).toNat <
      fin.toNat-cursor.toNat := by
  obtain ⟨-,-,hsum,hhigh⟩ := coveredRegion_iff.mp hcovered
  have hreached : (region.baseAddress+region.regionSize).toNat =
      region.baseAddress.toNat+region.regionSize.toNat := by
    rw [BitVec.toNat_add, Nat.mod_eq_of_lt hsum]
  have hless : cursor.toNat < fin.toNat := hcursor
  rw [toNat_earlier, hreached]
  omega

/-- The loop of `copy` over the regions. -/
def walkPages (o : SuspendedChild extra) (fin cursor : BitVec (32+extra)) : System extra Bool :=
  if cursor < fin then
    .ask (.virtualQueryEx o.process cursor) fun
      | none => .done false
      | some region =>
        if _h : coveredRegion o.base cursor region then
          walkPages o fin (earlier fin (region.baseAddress+region.regionSize))
        else .done false
  else .done true
termination_by fin.toNat-cursor.toNat
decreasing_by exact sub_earlier_lt ‹_› ‹_›

/-- `copy`. -/
def copy (o : SuspendedChild extra) (rva : BitVec 32) (length : BitVec (32+extra)) :
    System extra (Option (List UInt8)) := do
  if o.error ≠ none || !o.pending || o.killRequested then return none
  else
    let thread : BitVec 32 ← sysCall .getCurrentThreadId
    if thread ≠ o.ownerThread || length = 0 || length > 1024 || rva.setWidth _ > o.imageBytes ||
        length > o.imageBytes-rva.setWidth _ then return none
    else
      let cursor := o.base+rva.setWidth _
      let verified ← o.walkPages (cursor+length) cursor
      if verified then
        let bytes : Option (List UInt8) ← sysCall (.readProcessMemory o.process cursor length)
        return bytes.filter fun bytes => bytes.length = length.toNat
      else return none

/-- `stop` where it asks for the end of the child. -/
def kill (o : SuspendedChild extra) (process : Handle) : System extra (SuspendedChild extra) := do
  if o.killRequested then return o
  else
    let killed : Bool ← sysCall (.terminateProcess process observerExitCode)
    if killed then return { o with killRequested := true }
    else
      let killed : Bool ← sysCall (.terminateJobObject o.job observerExitCode)
      return { o with killRequested := killed }

/-- `stop` where it continues the event it still holds: whether it goes on. -/
def release (o : SuspendedChild extra) : System extra (Bool × SuspendedChild extra) := do
  if o.pending then
    let resumed : Bool ← sysCall (.continueDebugEvent o.processId o.pendingThread 0x00010002)
    return (resumed,{ o with pending := !resumed })
  else return (true,o)

/-- The loop of `stop`, followed for some rounds: whether `stop` goes on behind it. -/
def drain (deadline : UInt64) : ℕ → ℕ → SuspendedChild extra →
    System extra (Bool × SuspendedChild extra)
  | 0, _, _ => .cut
  | rounds+1, events, o => do
    if o.exitSeen || 64 ≤ events then return (true,o)
    else
      let now : UInt64 ← sysCall .getTickCount64
      if now ≥ deadline then return (true,o)
      else
        match ← sysCall (.waitForDebugEvent (min 250 (deadline-now))) with
        | none =>
          let error : BitVec 32 ← sysCall .getLastError
          if error = errorSemTimeout then drain deadline rounds events o else return (false,o)
        | some report =>
          closeIfOpen report.event.file
          if report.processId ≠ o.processId then return (false,o)
          else
            let o := o.reported report.event.exits report.threadId
            let resumed : Bool ←
              sysCall (.continueDebugEvent o.processId o.pendingThread report.event.status)
            if resumed then drain deadline rounds (events+1) o.resumed
            else return (false,o)

/-- `stop` where it looks for the end of the child. -/
def confirm (o : SuspendedChild extra) (process : Handle) (deadline : UInt64) :
    System extra (Bool × SuspendedChild extra) := do
  if o.exitSeen then
    let now : UInt64 ← sysCall .getTickCount64
    let code : BitVec 32 ← sysCall
      (.waitForSingleObject process (if now < deadline then deadline-now else 0))
    return (code = 0,{ o with stopped := code = 0 })
  else return (false,o)

/-- `stop`. -/
def stop (rounds : ℕ) (o : SuspendedChild extra) : System extra (Bool × SuspendedChild extra) := do
  match o.process with
  | none => return (true,o)
  | some process =>
    if o.stopped then return (true,o)
    else
      let thread : BitVec 32 ← sysCall .getCurrentThreadId
      if thread ≠ o.ownerThread then return (false,o)
      else
        let started : UInt64 ← sysCall .getTickCount64
        let deadline := started+timeoutMs
        let o ← o.kill process
        if o.killRequested then
          closeIfOpen o.imageFile
          let (released,o) ← { o with imageFile := none }.release
          if released then
            let (left,o) ← drain deadline rounds 0 o
            if left then o.confirm process deadline else return (false,o)
          else return (false,o)
        else return (false,o)

/-- The destructor. -/
def destroy (rounds : ℕ) (o : SuspendedChild extra) : System extra Unit := do
  let (_,o) ← o.stop rounds
  closeIfOpen o.imageFile
  closeIfOpen o.job
  closeIfOpen o.thread
  closeIfOpen o.process

end SuspendedChild
end Methods
end Saex
