import Mathlib.Data.UInt
import Mathlib.Logic.Function.Basic
import Saex.Transitions

/-! `BootstrapSession::invoke` of engine/bootstrap/bootstrap_session.cpp, cut at the points
where calls can overlap: the busy flag is taken, the operation starts, `inspect`
returns, the status is handed out and the flag is cleared. -/
namespace Saex

inductive BootstrapOperation
  | initializeSession | query | stop
deriving DecidableEq

namespace Bootstrap

def abiMajor : UInt32 := 1

-- `SaexBootstrapResult`
def ok : UInt32 := 0
def invalidArgument : UInt32 := 1
def abiMismatch : UInt32 := 2
def busy : UInt32 := 3

-- `SaexBootstrapState`
def discovered : UInt32 := 0
def rejected : UInt32 := 1
def observedUnverified : UInt32 := 2
def stopped : UInt32 := 3

-- `SaexBootstrapReason`, from the first to the last one `inspect` may give
def noReason : UInt32 := 0
def hostPath : UInt32 := 1
def runtimeUnverified : UInt32 := 5
def internalError : UInt32 := 6

/-- `sizeof(SaexBootstrapStatus)`. -/
def statusBytes : UInt32 := 192

end Bootstrap

def asciiBytes (s : String) : List UInt8 := s.toList.map fun c => c.toNat.toUInt8

/-- `observed_profile.id`. -/
def observedProfileId : List UInt8 := asciiBytes "gta-sa.observed.f01a00ce950fa40c"

def observedProfileSourceDigest : List UInt8 :=
  asciiBytes "0653426a913c3fdef809ea9e6a614fca7d26498e66cb63148d7073fe8d965436"

/-- `std::copy` to the front of an array. -/
@[irreducible] def copyInto {n : ℕ} (source : List UInt8) (target : Vector UInt8 n) : Vector UInt8 n :=
  Vector.ofFn fun i => source.getD i target[i]

structure BootstrapStatus where
  abiMajor : UInt32 := Bootstrap.abiMajor
  structBytes : UInt32 := Bootstrap.statusBytes
  state : UInt32 := Bootstrap.discovered
  reason : UInt32 := Bootstrap.noReason
  observationAttempts : UInt32 := 0
  canAttach : UInt32 := 0
  bindingsLoaded : UInt32 := 0
  reserved : UInt32 := 0
  observedProfileId : Vector UInt8 96 := Vector.replicate 96 0
  profileSourceDigest : Vector UInt8 64 := Vector.replicate 64 0
deriving DecidableEq

/-- What the status becomes once `inspect` has returned `reason`. -/
def BootstrapStatus.observe (s : BootstrapStatus) (reason : UInt32) : BootstrapStatus :=
  let reason := if reason ≥ Bootstrap.hostPath ∧ reason ≤ Bootstrap.internalError then reason
    else Bootstrap.internalError
  if reason = Bootstrap.runtimeUnverified then
    { s with
      reason, state := Bootstrap.observedUnverified
      observedProfileId := copyInto Saex.observedProfileId s.observedProfileId }
  else { s with reason, state := Bootstrap.rejected }

def BootstrapStatus.withDigest (s : BootstrapStatus) : BootstrapStatus :=
  { s with profileSourceDigest := copyInto observedProfileSourceDigest s.profileSourceDigest }

@[simp] theorem BootstrapStatus.withDigest_state (s : BootstrapStatus) :
    s.withDigest.state = s.state := rfl

@[simp] theorem BootstrapStatus.withDigest_reason (s : BootstrapStatus) :
    s.withDigest.reason = s.reason := rfl

@[simp] theorem BootstrapStatus.withDigest_profile (s : BootstrapStatus) :
    s.withDigest.observedProfileId = s.observedProfileId := rfl

/-- How far a call got: not in flight, past the flag, inside `inspect`, or
about to hand the status out. -/
inductive BootstrapFrame (β : Type*)
  | idle
  | entered (operation : BootstrapOperation) (output : β)
  | inspecting (output : β)
  | leaving (output : β)
deriving DecidableEq

/-- The session, the calls in flight on it and the callers' output buffers. -/
structure BootstrapSession (ι β : Type*) where
  busy : Bool := false
  status : BootstrapStatus := {}
  frames : ι → BootstrapFrame β := fun _ => .idle
  outputs : β → BootstrapStatus

inductive BootstrapEvent (ι β : Type*)
  | invoke (call : ι) (operation : BootstrapOperation) (abi : UInt32) (output : Option β)
      (bytes : UInt32)
  | proceed (call : ι)
  | inspected (call : ι) (reason : UInt32)

inductive BootstrapAnswer
  | blocked | pending | inspect
  | returned (result : UInt32)
deriving DecidableEq

namespace BootstrapSession
variable {ι β : Type*} [DecidableEq ι] [DecidableEq β]

def setFrame (s : BootstrapSession ι β) (call : ι) (frame : BootstrapFrame β) :
    BootstrapSession ι β := { s with frames := Function.update s.frames call frame }

omit [DecidableEq β] in
@[simp] theorem setFrame_status (s : BootstrapSession ι β) (call : ι) (frame : BootstrapFrame β) :
    (s.setFrame call frame).status = s.status := rfl

omit [DecidableEq β] in
@[simp] theorem setFrame_self (s : BootstrapSession ι β) (call : ι) (frame : BootstrapFrame β) :
    (s.setFrame call frame).frames call = frame := Function.update_self ..

/-- The checks of `invoke` and its `test_and_set`. -/
def invoke (s : BootstrapSession ι β) (call : ι) (operation : BootstrapOperation) (abi : UInt32)
    (output : Option β) (bytes : UInt32) : BootstrapSession ι β × BootstrapAnswer :=
  match s.frames call, output with
  | .idle, none => (s,.returned Bootstrap.invalidArgument)
  | .idle, some output =>
    if bytes ≠ Bootstrap.statusBytes then (s,.returned Bootstrap.invalidArgument)
    else if abi ≠ Bootstrap.abiMajor then (s,.returned Bootstrap.abiMismatch)
    else if s.busy then (s,.returned Bootstrap.busy)
    else ({ s with busy := true }.setFrame call (.entered operation output),.pending)
  | _, _ => (s,.blocked)

/-- The next step of a call that holds the flag and is not inside `inspect`. -/
def proceed (s : BootstrapSession ι β) (call : ι) : BootstrapSession ι β × BootstrapAnswer :=
  match s.frames call with
  | .entered operation output =>
    if operation = .initializeSession ∧ s.status.state = Bootstrap.discovered then
      ({ s with status := { s.status with observationAttempts := 1 } }.setFrame call
        (.inspecting output),.inspect)
    else if operation = .stop then
      ({ s with status := { s.status with state := Bootstrap.stopped } }.setFrame call
        (.leaving output),.pending)
    else (s.setFrame call (.leaving output),.pending)
  | .leaving output =>
    let status := s.status.withDigest
    ({ s with
      status, busy := false, outputs := Function.update s.outputs output status }.setFrame call
        .idle,.returned Bootstrap.ok)
  | _ => (s,.blocked)

def inspected (s : BootstrapSession ι β) (call : ι) (reason : UInt32) :
    BootstrapSession ι β × BootstrapAnswer :=
  match s.frames call with
  | .inspecting output =>
    ({ s with status := s.status.observe reason }.setFrame call (.leaving output),.pending)
  | _ => (s,.blocked)

def step (s : BootstrapSession ι β) : BootstrapEvent ι β → BootstrapSession ι β × BootstrapAnswer
  | .invoke call operation abi output bytes => s.invoke call operation abi output bytes
  | .proceed call => s.proceed call
  | .inspected call reason => s.inspected call reason

/-- Everything that can happen to the session in one step. -/
inductive Outcome (s : BootstrapSession ι β) :
    BootstrapEvent ι β → BootstrapSession ι β → BootstrapAnswer → Prop
  | blocked {e : BootstrapEvent ι β} : Outcome s e s .blocked
  | refused {e : BootstrapEvent ι β} {result : UInt32} (hr : result ≠ Bootstrap.ok)
      (hk : result = Bootstrap.invalidArgument ∨ result = Bootstrap.abiMismatch ∨
        result = Bootstrap.busy) : Outcome s e s (.returned result)
  | entered {call : ι} {operation : BootstrapOperation} {abi : UInt32} {output : β} {bytes : UInt32}
      (hb : s.busy = false) :
      Outcome s (.invoke call operation abi (some output) bytes)
        ({ s with busy := true }.setFrame call (.entered operation output)) .pending
  | inspecting {call : ι} {output : β} (hf : s.frames call = .entered .initializeSession output)
      (hs : s.status.state = Bootstrap.discovered) :
      Outcome s (.proceed call)
        ({ s with status := { s.status with observationAttempts := 1 } }.setFrame call
          (.inspecting output)) .inspect
  | stopping {call : ι} {output : β} (hf : s.frames call = .entered .stop output) :
      Outcome s (.proceed call)
        ({ s with status := { s.status with state := Bootstrap.stopped } }.setFrame call
          (.leaving output)) .pending
  | reading {call : ι} {operation : BootstrapOperation} {output : β}
      (hf : s.frames call = .entered operation output) :
      Outcome s (.proceed call) (s.setFrame call (.leaving output)) .pending
  | observed {call : ι} {output : β} {reason : UInt32} (hf : s.frames call = .inspecting output) :
      Outcome s (.inspected call reason)
        ({ s with status := s.status.observe reason }.setFrame call (.leaving output)) .pending
  | left {call : ι} {output : β} (hf : s.frames call = .leaving output) :
      Outcome s (.proceed call)
        ({ s with
          status := s.status.withDigest, busy := false
          outputs := Function.update s.outputs output s.status.withDigest }.setFrame call .idle)
        (.returned Bootstrap.ok)

theorem step_outcome (s : BootstrapSession ι β) (e : BootstrapEvent ι β) :
    s.Outcome e (s.step e).1 (s.step e).2 := by
  cases e with
  | invoke call operation abi output bytes =>
    simp only [step, invoke]
    split
    · exact .refused (by decide) (.inl rfl)
    · split
      · exact .refused (by decide) (.inl rfl)
      split
      · exact .refused (by decide) (.inr (.inl rfl))
      split
      · exact .refused (by decide) (.inr (.inr rfl))
      · rename_i hb
        exact .entered (by simpa using hb)
    · exact .blocked
  | proceed call =>
    simp only [step, proceed]
    split
    · rename_i operation output hf
      split
      · rename_i hi
        obtain ⟨rfl,hs⟩ := hi
        exact .inspecting hf hs
      split
      · rename_i hi
        subst hi
        exact .stopping hf
      · exact .reading hf
    · rename_i output hf
      exact .left hf
    · exact .blocked
  | inspected call reason =>
    simp only [step, inspected]
    split
    · rename_i output hf
      exact .observed hf
    · exact .blocked

end BootstrapSession
end Saex
