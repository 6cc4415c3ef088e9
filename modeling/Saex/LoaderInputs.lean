import Mathlib.Data.BitVec
import Mathlib.Data.UInt
import Saex.LoaderPhases
import Saex.MappingLedger

/-! What `LoaderObservation::run_impl` is given and what it asks the system:
limits, specs, debug events, thread contexts and the answers to its reads of
the child. Addresses and registers are 32-bit, as its `static_assert` demands. -/
namespace Saex

abbrev Address := BitVec 32

structure LoaderFileIdentity where
  volume : UInt64 := 0
  bytes : UInt64 := 0
  fileId : BitVec 128 := 0
  sha256 : BitVec 256 := 0
  name : String := ""
deriving DecidableEq

/-- `matches_file`: the name is no part of the identity. -/
def LoaderFileIdentity.matchesFile (a b : LoaderFileIdentity) : Bool :=
  a.volume = b.volume && a.fileId = b.fileId && a.bytes = b.bytes && a.sha256 = b.sha256

structure LoaderLimits where
  events : UInt32 := 128
  modules : UInt32 := 64
  threads : UInt32 := 16
  milliseconds : UInt32 := 5000
  bytes : UInt64 := 256*1024*1024

structure LoaderModule where
  file : LoaderFileIdentity
  base : Address
  eventIndex : UInt32
  mappingId : UInt32 := 0
  unloadEventIndex : UInt32 := 0
  identityRead : Bool := false
  admitted : Bool := false
deriving DecidableEq

/-- `FrameTargetSpec`: a reviewed CALL and its target. -/
structure CallSite where
  callRva : Address := 0
  targetRva : Address := 0

/-- The RVAs of the specs that enter a breakpoint address. -/
structure SpecRvas where
  entryRva : Address := 0
  proxyThunk : Address := 0
  proxyIat : Address := 0
  proxyIatTarget : Address := 0
  codecSequence : Address := 0
  bindingStop : Address := 0
  asiCall : Address := 0
  asiEnd : Address := 0
  tailProtectCall : Address := 0
  crtIo : CallSite := {}
  crtInitialize : CallSite := {}
  crtApplication : CallSite := {}
  applicationSecondCall : Address := 0
  platformCall : Address := 0
  instanceCaller : CallSite := {}
  dispatchDispatcher : CallSite := {}
  dispatchApplication : CallSite := {}
  dispatchImageBase : Address := 0
  routingDetour : Address := 0
  routingInitializer : CallSite := {}
  routingTargets : Vector Address 11 := .replicate 11 0
  preludeEmpty : CallSite := {}
  preludeLocalisation : CallSite := {}
  manager : CallSite := {}
  sehWrapper : CallSite := {}
  sehPrologue : CallSite := {}
  lockSelector : CallSite := {}
  queryHelper : Address := 0
  copyCopier : Address := 0
  completionChecker : Address := 0
  readyUnlock : Address := 0
  readyEpilogue : Address := 0
  tablesTarget : Address := 0
  diskAllocator : Address := 0
  allocationHeap : Address := 0

/-- The arguments of `run_impl` and of the child it drives. `verdict` is what the
pure validators and the reads before the loop find, by the reason they finish
with; `deadline` is the tick count at the start plus the limit. -/
structure LoaderSetup where
  limits : LoaderLimits := {}
  supplied : Spec → Bool
  verdict : String → Bool
  pins : List LoaderFileIdentity := []
  processId : UInt32 := 0
  base : Address := 0
  imageBytes : Address := 0
  deadline : UInt64 := 0
  rvas : SpecRvas := {}
  proxyModule : LoaderFileIdentity := {}
  codecModules : List LoaderFileIdentity := []
  asiModule : LoaderFileIdentity := {}

/-- The part of a Windows CONTEXT that the loop reads. -/
structure Context where
  eip : Address := 0
  esp : Address := 0
  eax : Address := 0
  ebx : Address := 0
  ecx : Address := 0
  edx : Address := 0
  esi : Address := 0
  edi : Address := 0
  ebp : Address := 0
  eflags : Address := 0
  dr0 : Address := 0
  dr1 : Address := 0
  dr2 : Address := 0
  dr3 : Address := 0
  dr6 : Address := 0
  dr7 : Address := 0

/-- `EventDispatchRegisters`. -/
structure DispatchRegisters where
  esp : Address := 0
  eax : Address := 0
  ebx : Address := 0
  ecx : Address := 0
  edx : Address := 0
  esi : Address := 0
  edi : Address := 0
  ebp : Address := 0
  flags : Address := 0

def dispatchRegisters (c : Context) : DispatchRegisters :=
  ⟨c.esp,c.eax,c.ebx,c.ecx,c.edx,c.esi,c.edi,c.ebp,c.eflags⟩

/-- The import targets that the shape check of a checkpoint resolves. -/
structure Functions where
  function : Address := 0
  implementation : Address := 0
  third : Address := 0
  fourth : Address := 0

/-- `allocation_globals`, in the order of the array. -/
structure AllocationGlobals where
  newMode : UInt32 := 0
  threshold : UInt32 := 0
  heapHandle : UInt32 := 0
  heapMode : UInt32 := 0
deriving DecidableEq

/-- Everything the system may answer while one exception is handled. `passes`
tells of each comparison of child memory, regions or registers whether it
succeeds, by the reason the handler finishes with where it does not. -/
structure Probe where
  passes : String → Bool
  mainThread : UInt32
  context : Option Context
  contextWritten : Bool := true
  readback : Option Context := none
  imageAllocation : Option Address := none
  functions : Functions := {}
  stackWord : Address := 0
  routingStack : List Address := []
  bytesPerSector : UInt32 := 0
  allocationGlobals : Option AllocationGlobals := none
  entryBytesMatch : Bool := false
  observedUnverified : Bool := false

inductive DebugEventKind
  | loadDll (base : Address) (size : Option Int64) (inspected : Option LoaderFileIdentity)
  | unloadDll (base : Address)
  | createThread
  | exception (code : BitVec 32) (address : Address) (firstChance : Bool) (probe : Probe)
  | exitProcess
  | other

structure DebugEvent where
  processId : UInt32
  threadId : UInt32
  kind : DebugEventKind

/-- The answers of the system in one turn of the loop: the tick counts before
`ContinueDebugEvent` and before `WaitForDebugEvent`, whether the first succeeds,
the event the second delivers, and what `finish` finds should the turn end the
run. -/
structure Turn where
  now : UInt64 := 0
  resumed : Bool := true
  later : UInt64 := 0
  event : Option DebugEvent
  exitConfirmed : Bool := true

/-- How a run ends: with a reason, or outside the bounds of an array. -/
inductive Ending
  | finish (reason : String)
  | outOfRange
deriving DecidableEq

end Saex
