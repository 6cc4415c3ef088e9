import Mathlib.Logic.Function.Basic
import Saex.LoaderInputs

/-! The state of the breakpoint chain of `LoaderObservation::run_impl`, the
address of every stop and the read-back that has to confirm it. -/
namespace Saex

/-- What the trace keeps for one place. `verified` stands for the source's flag
where it has one. -/
structure PlaceState where
  stage : ℕ := 0
  stopAddress : Address := 0
  armed : Bool := false
  continued : Bool := false
  verified : Bool := false

/-- The rest of the trace and of the local variables that a handler leaves for
a later event. -/
structure Memo where
  breakpointCandidate : Bool := false
  proxyValidated : Bool := false
  proxyMappingId : UInt32 := 0
  proxyBase : Address := 0
  startupReturnAddress : Address := 0
  codecArmEvent : UInt32 := 0
  codecModuleCount : ℕ := 0
  codecMappingIds : List UInt32 := [0,0,0]
  asiArmEvent : UInt32 := 0
  asiMappingId : UInt32 := 0
  dispatchSaved : DispatchRegisters := {}
  bytesPerSector : UInt32 := 0
  allocationGlobals : AllocationGlobals := {}

structure Chain where
  places : Place → PlaceState := fun _ => {}
  memo : Memo := {}

/-- The module table of the trace with the ledger beside it. `modules` is the
first `moduleCount` cells of the array. -/
structure ModuleTable where
  modules : List LoaderModule := []
  moduleCount : UInt32 := 0
  activeModuleCount : UInt32 := 0
  unloadCount : UInt32 := 0
  chargedBytes : UInt64 := 0
  mappings : MappingLedger 32

/-- What a handler sees of one exception. -/
structure Scene where
  setup : LoaderSetup
  table : ModuleTable
  eventCount : UInt32
  probe : Probe
  context : Context
  stage : ℕ
  memo : Memo

/-- A module that is admitted and still mapped, as the handlers look for one. -/
def ModuleTable.mapped (t : ModuleTable) (m : LoaderModule) : Bool :=
  m.admitted && t.mappings.isActive m.mappingId m.base

namespace Scene

/-- The stop of an approach. `proxyIatTarget` is where the proxy's IAT slot has
been found to point before `startup` is armed. -/
def approachStop (w : Scene) : Approach → ℕ → Address
  | .entry, _ => w.setup.base+w.setup.rvas.entryRva
  | .proxy, _ => w.memo.proxyBase+w.setup.rvas.proxyThunk+5
  | .startup, _ => w.memo.proxyBase+w.setup.rvas.proxyIatTarget
  | .codec, _ => w.memo.proxyBase+w.setup.rvas.codecSequence+11
  | .binding, _ => w.memo.proxyBase+w.setup.rvas.bindingStop
  | .asiCall, _ => w.memo.proxyBase+w.setup.rvas.asiCall
  | .asiReturn, _ => w.memo.proxyBase+w.setup.rvas.asiCall+6
  | .bootstrap, _ => w.memo.proxyBase+w.setup.rvas.asiCall+6
  | .startupReturn, 1 => w.memo.proxyBase+w.setup.rvas.tailProtectCall
  | .startupReturn, 2 => w.memo.proxyBase+w.setup.rvas.tailProtectCall+6
  | .startupReturn, _ => w.memo.startupReturnAddress
  | .crtStartup, 1 => w.setup.base+w.setup.rvas.crtIo.callRva+5
  | .crtStartup, _ => w.setup.base+w.setup.rvas.crtInitialize.callRva
  | .applicationEntry, 1 => w.setup.base+w.setup.rvas.crtInitialize.callRva+5
  | .applicationEntry, 2 => w.setup.base+w.setup.rvas.applicationSecondCall
  | .applicationEntry, 3 => w.setup.base+w.setup.rvas.applicationSecondCall+6
  | .applicationEntry, 4 => w.setup.base+w.setup.rvas.crtApplication.callRva
  | .applicationEntry, _ => w.setup.base+w.setup.rvas.crtApplication.targetRva
  | .platformStartup, _ => w.setup.base+w.setup.rvas.platformCall
  | .platformSuppression, _ => w.setup.base+w.setup.rvas.platformCall+6
  | .instanceStartup, 1 => w.setup.base+w.setup.rvas.instanceCaller.targetRva+12
  | .instanceStartup, 2 => w.setup.base+w.setup.rvas.instanceCaller.targetRva+18
  | .instanceStartup, 3 => w.setup.base+w.setup.rvas.instanceCaller.targetRva+24
  | .instanceStartup, _ => w.setup.base+w.setup.rvas.instanceCaller.callRva+5

/-- The array `rvas` of `arm_allocation`. -/
def allocationRvas (r : SpecRvas) : List Address :=
  [0,r.diskAllocator,r.allocationHeap,r.allocationHeap+22,r.allocationHeap+30,
    r.allocationHeap+99,0,r.allocationHeap+105,r.diskAllocator+17,r.diskAllocator+30,
    r.tablesTarget+137]

/-- The array `addresses` of `arm_channels`. -/
def channelsAddresses (w : Scene) : List Address :=
  let start := w.setup.base+w.setup.rvas.tablesTarget+137
  let f := w.probe.functions
  [0,start+7,f.function,f.implementation,start+13,start+41,f.third,f.fourth,start+47,start+59]

/-- The array `next` of the `file_manager_ready` handler. -/
def readyNext (w : Scene) : List Address :=
  let base := w.setup.base
  let r := w.setup.rvas
  [w.probe.functions.function,base+r.readyUnlock+19,base+r.readyEpilogue,
    base+r.lockSelector.callRva+46,base+r.manager.targetRva+16,base+r.manager.targetRva+40,
    base+r.manager.targetRva+49,base+r.manager.callRva+5]

/-- The stop of a checkpoint at the stage it is armed for; `none` is an array
index outside its array. -/
def phaseStop (w : Scene) (p : Phase) (stage : ℕ) : Option Address :=
  let base := w.setup.base
  let r := w.setup.rvas
  let f := w.probe.functions
  match p with
  | .eventDispatch => some (base+match stage with
      | 1 => r.dispatchDispatcher.callRva
      | 2 => r.dispatchDispatcher.targetRva
      | _ => r.dispatchApplication.callRva)
  | .applicationRouting => some (base+match stage with
      | 1 => r.dispatchApplication.targetRva
      | 2 => r.routingDetour
      | 3 => r.dispatchApplication.targetRva+20
      | _ => r.routingInitializer.callRva)
  | .gamePrelude => some (base+match stage with
      | 1 => r.routingInitializer.targetRva
      | 2 => r.preludeEmpty.targetRva
      | 3 => r.preludeLocalisation.callRva
      | 4 => r.preludeLocalisation.targetRva
      | _ => r.preludeLocalisation.callRva+5)
  | .fileManagerEntry => some (base+match stage with
      | 1 => r.manager.targetRva
      | _ => r.manager.targetRva+11)
  | .cwdSeh => some (base+match stage with
      | 1 => r.sehWrapper.targetRva
      | 2 => r.sehPrologue.targetRva
      | _ => r.sehPrologue.callRva+5)
  | .cwdLock => some (base+match stage with
      | 1 => r.lockSelector.targetRva
      | _ => r.lockSelector.targetRva+17)
  | .cwdAcquire => some (match stage with
      | 1 => base+r.lockSelector.targetRva+38
      | 2 => base+r.lockSelector.targetRva+40
      | 3 => f.function
      | 4 => base+r.lockSelector.targetRva+46
      | _ => base+r.lockSelector.callRva+5)
  | .cwdQuery => some (match stage with
      | 1 => base+r.lockSelector.callRva+18
      | 2 => base+r.queryHelper
      | 3 => base+r.queryHelper+26
      | 4 => base+r.queryHelper+123
      | 5 => base+r.queryHelper+135
      | 6 => f.function
      | _ => base+r.queryHelper+141)
  | .cwdCopy => some (base+match stage with
      | 1 => r.queryHelper+158
      | 2 => r.queryHelper+200
      | 3 => r.queryHelper+226
      | 4 => r.copyCopier
      | _ => r.queryHelper+231)
  | .cwdReturn => some (base+match stage with
      | 1 => r.queryHelper+63
      | 2 => r.queryHelper+70
      | 3 => r.completionChecker
      | 4 => r.completionChecker+6
      | 5 => r.queryHelper+75
      | _ => r.lockSelector.callRva+23)
  -- Stage 1 is armed with an address of its own, a later stage from `next[stage-2]`.
  | .fileManagerReady => match stage with
      | 0 => none
      | 1 => some (base+r.readyUnlock+13)
      | n+2 => w.readyNext[n]?
  | .cdStreamTables => some (base+r.tablesTarget+if stage = 2 then 68 else 0)
  | .cdStreamDisk => some (match stage with
      | 1 => f.function
      | 2 => f.implementation
      | 3 => base+r.tablesTarget+74
      | _ => base+r.tablesTarget+132)
  -- Stage 6 stops at the resolved import; the array is not read for it.
  | .cdStreamAllocation =>
      if stage = 6 then some f.function
      else (allocationRvas r)[stage]?.map (base+·)
  | .cdStreamChannels => w.channelsAddresses[stage]?

def stop (w : Scene) : Place → ℕ → Option Address
  | .approach a, stage => some (w.approachStop a stage)
  | .phase p, stage => w.phaseStop p stage

/-- The debug registers that a place must read back after it was armed. The
proxy has no watchpoint yet, the next places watch the IAT slot, then the end of
the ASI scan or its second call, and from the instance on the forbidden branch. The
bootstrap calls and the suppression write more than a breakpoint; `passes` tells
of the rest of what they read back. -/
def guarded (w : Scene) (q : Place) (address : Address) (r : Context) : Bool :=
  let rvas := w.setup.rvas
  let iat := decide (r.dr1 = w.setup.base+rvas.proxyIat)
  let call := decide (r.dr2 = w.memo.proxyBase+rvas.asiCall)
  let scanEnd := decide (r.dr2 = w.memo.proxyBase+rvas.asiEnd)
  let branch := decide (r.dr3 = w.setup.base+rvas.instanceCaller.targetRva+31)
  let control := r.dr7 &&& 0xffff20ff
  r.dr0 = address && match q with
  | .approach .entry => control = 1
  | .approach .proxy => control = 1
  | .approach .startup => iat && control = 0x00d00005
  | .approach .codec => iat && control = 0x00d00005
  | .approach .binding => iat && control = 0x00d00005
  | .approach .asiCall => iat && scanEnd && control = 0x00d00015
  | .approach .asiReturn => iat && scanEnd && control = 0x00d00015
  | .approach .bootstrap => iat && scanEnd && control = 0x00d00015 &&
      w.probe.passes "bootstrap_call_arm_failed"
  | .approach .startupReturn => iat && call && control = 0x00d00015
  | .approach .crtStartup => iat && call && control = 0x00d00015
  | .approach .applicationEntry => iat && call && control = 0x00d00015
  | .approach .platformStartup => iat && call && control = 0x00d00015
  | .approach .platformSuppression => w.probe.passes "suppression_context_failed"
  | .approach .instanceStartup => iat && call && branch && control = 0x00d00055
  | .phase _ => iat && call && branch && control = 0x00d00055

end Scene

namespace Chain

def phase (c : Chain) (p : Phase) : PlaceState := c.places (.phase p)

def set (c : Chain) (q : Place) (s : PlaceState) : Chain :=
  { c with places := Function.update c.places q s }

@[simp] theorem set_self (c : Chain) (q : Place) (s : PlaceState) : (c.set q s).places q = s := by
  simp only [set, Function.update_self]

@[simp] theorem set_of_ne (c : Chain) {q r : Place} (h : r ≠ q) (s : PlaceState) :
    (c.set q s).places r = c.places r := by
  simp only [set, Function.update_of_ne h]

end Chain
end Saex
