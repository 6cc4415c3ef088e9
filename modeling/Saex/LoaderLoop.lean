import Saex.LoaderCheckpoints
import Saex.StoppingRuns

/-! The debug loop of `LoaderObservation::run_impl`: the conditions on its
arguments, one turn of the loop, and its runs. -/
namespace Saex

def exceptionBreakpoint : BitVec 32 := 0x80000003

def exceptionSingleStep : BitVec 32 := 0x80000004

/-- The size of the array `LoaderTrace::modules`. -/
def maxTraceModules : ℕ := 64

structure LoopState where
  eventCount : UInt32 := 1
  threadCount : UInt32 := 1
  table : ModuleTable
  chain : Chain := {}

namespace LoaderSetup

/-- The first test of `run_impl`; an allocation spec raises the event limit. -/
def limitsAdmitted (c : LoaderSetup) : Bool :=
  let l := c.limits
  l.events ≠ 0 && l.events ≤ (if c.supplied .allocation then 160 else 128) &&
    l.modules ≠ 0 && l.modules ≤ 64 && l.threads ≠ 0 && l.threads ≤ 16 &&
    l.milliseconds ≠ 0 && l.milliseconds ≤ 5000 && l.bytes ≠ 0 &&
    l.bytes ≤ 256*1024*1024 && c.pins.length ≤ 64

/-- A supplied spec needs others beside it and has to pass its own validator. -/
def rule (c : LoaderSetup) (spec : Spec) (needs : List Spec) (reason : String) : Bool × String :=
  (!c.supplied spec || needs.all c.supplied && c.verdict reason,reason)

/-- The tests before the loop, in the order of the source. -/
def opening (c : LoaderSetup) : List (Bool × String) := [
  (c.limitsAdmitted,"loader_invalid_limits"),
  c.rule .channels [.allocation,.tables,.manager] "cd_stream_channels_invalid_spec",
  (c.verdict "loader_invalid_pin","loader_invalid_pin"),
  (c.verdict "loader_child_identity_or_state","loader_child_identity_or_state"),
  c.rule .platform [.application,.crt] "platform_invalid_spec",
  c.rule .suppression [.platform,.crt] "suppression_invalid_spec",
  c.rule .instanceStartup [.suppression,.platform,.crt] "instance_invalid_spec",
  c.rule .dispatch [.instanceStartup] "event_dispatch_invalid_spec",
  c.rule .routing [.dispatch] "application_routing_invalid_spec",
  c.rule .prelude [.routing] "game_prelude_invalid_spec",
  c.rule .manager [.prelude] "file_manager_invalid_spec",
  c.rule .seh [.manager] "cwd_seh_invalid_spec",
  c.rule .lock [.seh] "cwd_lock_invalid_spec",
  c.rule .acquire [.lock] "cwd_acquire_invalid_spec",
  c.rule .query [.acquire] "cwd_query_invalid_spec",
  c.rule .copy [.query] "cwd_copy_invalid_spec",
  c.rule .ready [.completion,.manager,.seh,.lock] "file_manager_ready_invalid_spec",
  c.rule .tables [.ready,.manager] "cd_stream_tables_invalid_spec",
  c.rule .disk [.tables] "cd_stream_disk_invalid_spec",
  c.rule .allocation [.disk] "cd_stream_allocation_invalid_spec",
  c.rule .completion [.copy] "cwd_return_invalid_spec",
  c.rule .application [.crt,.proxy] "application_invalid_spec",
  c.rule .crt [.tail] "crt_invalid_spec",
  (!c.supplied .tail || c.supplied .asi && !c.supplied .bootstrap && !c.supplied .frame &&
    c.verdict "startup_return_invalid_spec","startup_return_invalid_spec"),
  c.rule .frame [.bootstrap] "frame_invalid_spec",
  c.rule .bootstrap [.asi] "bootstrap_invalid_spec",
  c.rule .asi [.binding] "asi_invalid_spec",
  c.rule .asi [] "asi_invalid_path",
  c.rule .binding [.codec] "binding_invalid_spec",
  c.rule .binding [] "binding_invalid_slot",
  c.rule .binding [] "binding_duplicate_slot",
  (!c.supplied .codec || c.supplied .startup && c.supplied .proxy && c.codecModules.length ≤ 3 &&
    c.verdict "codec_invalid_spec","codec_invalid_spec"),
  c.rule .codec [] "codec_invalid_pin",
  c.rule .codec [] "codec_duplicate_pin",
  c.rule .proxy [.entry] "proxy_invalid_spec",
  c.rule .startup [.proxy] "startup_invalid_spec",
  c.rule .startup [] "startup_invalid_sample",
  c.rule .startup [] "startup_sample_overlap",
  c.rule .startup [] "startup_sample_precondition",
  c.rule .entry [] "entry_precondition_bytes",
  c.rule .entry [] "entry_precondition_region",
  c.rule .entry [] "entry_context_read_failed",
  c.rule .entry [] "entry_debug_registers_busy",
  c.rule .entry [] "entry_preinitialization_drift",
  c.rule .entry [] "entry_context_write_failed",
  c.rule .entry [] "entry_breakpoint_arm_failed",
  c.rule .frame [] "frame_create_sample_rejected"]

/-- The state in which the loop is entered: the entry breakpoint is armed. -/
def start (c : LoaderSetup) : LoopState where
  table := { mappings := { limit := c.limits.modules } }
  chain := if c.supplied .entry then
      ({} : Chain).arm (.approach .entry) 1 (c.base+c.rvas.entryRva)
    else {}

end LoaderSetup

namespace Chain

/-- After `ContinueDebugEvent` every armed place counts as continued; the entry
only once the loader's own breakpoint was seen. -/
def resume (chain : Chain) : Chain :=
  { chain with places := fun q =>
      let s := chain.places q
      let reached := s.armed && (q ≠ .approach .entry || chain.memo.breakpointCandidate)
      { s with continued := s.continued || reached } }

def approach (chain : Chain) (a : Approach) : PlaceState := chain.places (.approach a)

/-- The armed checkpoint that an exception belongs to. -/
def lastArmed (chain : Chain) : Option Phase :=
  Phase.priority.find? fun p => (chain.phase p).armed

/-- The place whose stop is the expected address of an exception. -/
def awaited (chain : Chain) : Place :=
  match chain.lastArmed with
  | some p => .phase p
  | none => .approach <|
    if (chain.approach .instanceStartup).armed then .instanceStartup
    else if (chain.approach .platformSuppression).armed then .platformSuppression
    else if (chain.approach .platformStartup).armed then .platformStartup
    else if (chain.approach .applicationEntry).armed then .applicationEntry
    else if (chain.approach .crtStartup).armed then .crtStartup
    else if (chain.approach .startupReturn).armed then .startupReturn
    else if (chain.approach .asiReturn).continued then .asiReturn
    else if (chain.approach .asiCall).continued then .asiCall
    else if (chain.approach .binding).continued then .binding
    else if (chain.approach .codec).continued then .codec
    else if (chain.approach .startup).continued then .startup
    else if (chain.approach .proxy).continued then .proxy
    else .entry

/-- The place whose handler an exception is given to. -/
def handled (chain : Chain) : Place :=
  match chain.lastArmed with
  | some p => .phase p
  | none => .approach <|
    if (chain.approach .instanceStartup).armed then .instanceStartup
    else if (chain.approach .platformSuppression).armed then .platformSuppression
    else if (chain.approach .platformStartup).armed then .platformStartup
    else if (chain.approach .applicationEntry).armed then .applicationEntry
    else if (chain.approach .crtStartup).armed then .crtStartup
    else if (chain.approach .startupReturn).armed then .startupReturn
    else if (chain.approach .bootstrap).armed then .bootstrap
    else if (chain.approach .asiCall).continued then
      if (chain.approach .asiReturn).continued then .asiReturn else .asiCall
    else if (chain.approach .binding).continued then .binding
    else if (chain.approach .codec).continued then .codec
    else if (chain.approach .startup).continued then .startup
    else if (chain.approach .proxy).continued then .proxy
    else .entry

end Chain

/-- The reason for a stop at the guarded ASI call. -/
def asiGuardReason (chain : Chain) (address : Address) (r : Context) : String :=
  if r.dr6 &&& 0xe00f ≠ 4 || r.eip ≠ r.dr2 || address ≠ r.dr2 then "entry_breakpoint_identity"
  else if (chain.approach .startupReturn).armed then "startup_return_extra_asi_call"
  else if (chain.approach .asiReturn).continued then "asi_return_skipped"
  else "asi_candidate_missing"

/-- The reason for a stop after a write to the IAT slot. -/
def iatWriteReason (r : Context) : String :=
  if r.dr6 &&& 0xe00f ≠ 2 then "entry_breakpoint_identity" else "startup_iat_written"

/-- What can be wrong with the thread context of a single step, in the order of
the tests. DR6 says which breakpoint was hit: 1 the stop, 2 the IAT write, 4 the
guarded ASI call, 8 the forbidden branch. -/
def registerTests (c : LoaderSetup) (chain : Chain) (address : Address) (r : Context) :
    List (Bool × String) :=
  let expected := (chain.places chain.awaited).stopAddress
  let guardsInstance := (chain.approach .instanceStartup).armed
  let scanning := (chain.approach .asiCall).continued
  let returning := (chain.approach .startupReturn).armed
  let started := (chain.approach .startup).continued
  let iat := c.base+c.rvas.proxyIat
  let guarded := chain.memo.proxyBase+if returning then c.rvas.asiCall else c.rvas.asiEnd
  let watched : BitVec 32 :=
    if guardsInstance then 0x00d00055 else if scanning then 0x00d00015 else 0x00d00005
  let control := r.dr7 &&& 0xffff20ff
  [(started && (r.dr0 ≠ expected || r.dr1 ≠ iat || control ≠ watched ||
      scanning && r.dr2 ≠ guarded),"entry_breakpoint_identity"),
    (guardsInstance && r.dr3 ≠ c.base+c.rvas.instanceCaller.targetRva+31,
      "instance_guard_identity"),
    (guardsInstance && r.dr6 &&& 8 ≠ 0,"instance_forbidden_branch"),
    (scanning && r.dr6 &&& 4 ≠ 0,asiGuardReason chain address r),
    (started && r.dr6 &&& 2 ≠ 0,iatWriteReason r),
    (address ≠ expected,"entry_unexpected_exception"),
    (r.eip ≠ expected || r.dr0 ≠ expected || r.dr6 &&& 0xe00f ≠ 1 ||
      (if started then control ≠ watched else r.dr7 &&& 0xffff00ff ≠ 1) ||
      started && r.dr1 ≠ iat,"entry_breakpoint_identity")]

/-- Only a first-chance single step of the main thread with the expected
registers gets to a handler. -/
def vet (c : LoaderSetup) (chain : Chain) (thread : UInt32) (code : BitVec 32)
    (address : Address) (firstChance : Bool) (probe : Probe) : Except Ending Context :=
  if code ≠ exceptionSingleStep || !firstChance || thread ≠ probe.mainThread then
    .error (.finish "entry_unexpected_exception")
  else match probe.context with
    | none => .error (.finish "entry_context_read_failed")
    | some r => match (registerTests c chain address r).find? (·.1) with
      | some (_,reason) => .error (.finish reason)
      | none => .ok r

/-- An exception before the entry breakpoint counts: the loader's own breakpoint
in ntdll is passed over, with the entry still armed; all else ends the run. -/
def firstBreakpoint (c : LoaderSetup) (table : ModuleTable) (chain : Chain) (thread : UInt32)
    (code : BitVec 32) (firstChance : Bool) (probe : Probe) : Except Ending Chain :=
  let inLoader := table.modules.any fun m =>
    table.mapped m && m.file.name = "ntdll.dll" && probe.imageAllocation = some m.base
  let candidate := chain.memo.breakpointCandidate || code = exceptionBreakpoint && firstChance &&
    thread = probe.mainThread && inLoader
  if c.supplied .entry && candidate then
    if !probe.passes "entry_preinitialization_drift" then
      .error (.finish "entry_preinitialization_drift")
    else
      let kept := match probe.readback with
        | some r => r.dr0 = c.base+c.rvas.entryRva && r.dr7 &&& 0xffff20ff = 1
        | none => false
      if kept then .ok { chain with memo := { chain.memo with breakpointCandidate := true } }
      else .error (.finish "entry_breakpoint_lost_before_initialization")
  else if candidate then .error (.finish "loader_breakpoint_candidate")
  else .error (.finish "loader_exception")

/-- The EXCEPTION branch. -/
def exception (c : LoaderSetup) (s : LoopState) (thread : UInt32) (code : BitVec 32)
    (address : Address) (firstChance : Bool) (probe : Probe) : Except Ending Chain :=
  if c.supplied .entry && (s.chain.approach .entry).continued then do
    let context ← vet c s.chain thread code address firstChance probe
    let q := s.chain.handled
    let w : Scene := ⟨c,s.table,s.eventCount,probe,context,(s.chain.places q).stage,s.chain.memo⟩
    w.handle s.chain q
  else firstBreakpoint c s.table s.chain thread code firstChance probe

/-- The LOAD branch. The size is what `GetFileSizeEx` gives, if it gives one, and
is charged; the identity is read apart from it. -/
def loadModule (c : LoaderSetup) (s : LoopState) (base : Address) (size : Option Int64)
    (inspected : Option LoaderFileIdentity) : Except Ending ModuleTable :=
  let t := s.table
  if c.limits.modules ≤ t.moduleCount then .error (.finish "loader_module_limit")
  else if maxTraceModules ≤ t.moduleCount.toNat then .error .outOfRange
  else match size with
    | none => .error (.finish "loader_file_or_byte_limit")
    | some bytes =>
      if !(0 < bytes && bytes.toUInt64 ≤ c.limits.bytes-t.chargedBytes) then
        .error (.finish "loader_file_or_byte_limit")
      else match inspected with
        | none => .error (.finish "loader_module_metadata")
        | some file =>
          if base = 0 then .error (.finish "loader_module_metadata")
          else if !c.pins.any (·.matchesFile file) then .error (.finish "loader_module_not_pinned")
          else match t.mappings.admitMapping base s.eventCount with
            | (_,.error error) => .error (.finish error)
            | (mappings,.ok id) =>
              if (s.chain.approach .binding).continued &&
                  !(s.chain.approach .asiReturn).continued then
                .error (.finish "binding_unexpected_load")
              else .ok { t with
                modules := t.modules ++ [⟨file,base,s.eventCount,id,0,true,true⟩]
                moduleCount := t.moduleCount+1
                activeModuleCount := mappings.active
                chargedBytes := t.chargedBytes+bytes.toUInt64
                mappings }

/-- The first module under this mapping id gets the unload event. -/
def retireModule (id event : UInt32) :
    List LoaderModule → Option (List LoaderModule × LoaderModule)
  | [] => none
  | m :: rest =>
    if m.mappingId = id then
      let m := { m with unloadEventIndex := event }
      some (m :: rest,m)
    else (retireModule id event rest).map fun r => (m :: r.1,r.2)

/-- The UNLOAD branch. It refunds nothing. -/
def unloadModule (c : LoaderSetup) (s : LoopState) (base : Address) : Except Ending ModuleTable :=
  let t := s.table
  match t.mappings.retire base s.eventCount with
  | (_,.error error) => .error (.finish error)
  | (mappings,.ok id) => match retireModule id s.eventCount t.modules with
    | none => .error (.finish "loader_mapping_history_mismatch")
    | some (modules,retired) =>
      if s.chain.memo.proxyValidated && id = s.chain.memo.proxyMappingId then
        .error (.finish "proxy_mapping_retired")
      else if (s.chain.approach .binding).continued && s.chain.memo.codecMappingIds.elem id then
        .error (.finish "binding_mapping_retired")
      else if c.supplied .asi && retired.file.matchesFile c.asiModule then
        .error (.finish "asi_mapping_retired")
      else .ok { t with
        modules, mappings
        activeModuleCount := mappings.active
        unloadCount := mappings.unloadCount }

/-- What the loop does with an event of its own child. -/
def dispatch (c : LoaderSetup) (s : LoopState) (thread : UInt32) :
    DebugEventKind → Except Ending LoopState
  | .loadDll base size inspected => do
    let table ← loadModule c s base size inspected
    return { s with table }
  | .unloadDll base => do
    let table ← unloadModule c s base
    return { s with table }
  | .createThread =>
    if c.limits.threads < s.threadCount+1 then .error (.finish "loader_thread_limit")
    else .ok { s with threadCount := s.threadCount+1 }
  | .exception code address firstChance probe => do
    let chain ← exception c s thread code address firstChance probe
    return { s with chain }
  | .exitProcess => .error (.finish "loader_early_exit")
  | .other => .error (.finish "loader_unexpected_event")

/-- The state in which a turn gets its event. -/
def LoopState.resume (s : LoopState) : LoopState :=
  { s with eventCount := s.eventCount+1, chain := s.chain.resume }

def advance (c : LoaderSetup) (s : LoopState) (t : Turn) : Except Ending LoopState :=
  if c.limits.events ≤ s.eventCount then .error (.finish "loader_event_limit")
  else if c.deadline ≤ t.now then .error (.finish "loader_timeout")
  else if !t.resumed then .error (.finish "loader_continue_failed")
  else if c.deadline ≤ t.later then .error (.finish "loader_timeout")
  else match t.event with
    | none => .error (.finish "loader_wait_failed")
    | some event =>
      if event.processId ≠ c.processId then .error (.finish "loader_event_identity")
      else dispatch c s.resume event.threadId event.kind

/-- `finish`: a child that could not be stopped takes the place of the reason. -/
def Ending.close (exitConfirmed : Bool) : Ending → Ending
  | .finish reason => .finish (if exitConfirmed then reason else "loader_exit_unconfirmed")
  | .outOfRange => .outOfRange

/-- One turn of the loop. -/
def turn (c : LoaderSetup) (s : LoopState) (t : Turn) : Except Ending LoopState :=
  (advance c s t).mapError (Ending.close t.exitConfirmed)

/-- `run_impl`, as far as the given turns carry it. -/
def observe (c : LoaderSetup) (turns : List Turn) : Except Ending LoopState :=
  if !c.verdict "loader_owner_thread" then .error (.finish "loader_owner_thread")
  else match c.opening.find? (fun r => !r.1) with
    | some r => .error (.finish (if c.verdict "loader_exit_unconfirmed" then r.2
        else "loader_exit_unconfirmed"))
    | none => StoppingRuns.run (turn c) c.start turns

/-- What a handler is given of an exception that passed `vet`. -/
def LoopState.scene (c : LoaderSetup) (s : LoopState) (probe : Probe) (context : Context) : Scene :=
  ⟨c,s.table,s.eventCount,probe,context,(s.chain.places s.chain.handled).stage,s.chain.memo⟩

/-- The reasons of the EXCEPTION branch outside its handlers. -/
def exceptionReasons : List String :=
  ["entry_unexpected_exception","entry_context_read_failed","entry_breakpoint_identity",
    "instance_guard_identity","instance_forbidden_branch","startup_return_extra_asi_call",
    "asi_return_skipped","asi_candidate_missing","startup_iat_written",
    "entry_preinitialization_drift","entry_breakpoint_lost_before_initialization",
    "loader_breakpoint_candidate","loader_exception"]

theorem registerTests_reason {c : LoaderSetup} {chain : Chain} {address : Address} {r : Context}
    {b : Bool} {reason : String} (h : (b,reason) ∈ registerTests c chain address r) :
    reason ∈ exceptionReasons := by
  have hasi : asiGuardReason chain address r ∈ exceptionReasons := by
    rw [asiGuardReason]
    split_ifs <;> decide
  have hiat : iatWriteReason r ∈ exceptionReasons := by
    rw [iatWriteReason]
    split_ifs <;> decide
  simp only [registerTests, List.mem_cons, Prod.mk.injEq, List.not_mem_nil, or_false] at h
  rcases h with ⟨_,rfl⟩ | ⟨_,rfl⟩ | ⟨_,rfl⟩ | ⟨_,rfl⟩ | ⟨_,rfl⟩ | ⟨_,rfl⟩ | ⟨_,rfl⟩
  · decide
  · decide
  · decide
  · exact hasi
  · exact hiat
  · decide
  · decide

theorem vet_error {c : LoaderSetup} {chain : Chain} {thread : UInt32} {code : BitVec 32}
    {address : Address} {firstChance : Bool} {probe : Probe} {e : Ending}
    (h : vet c chain thread code address firstChance probe = .error e) :
    ∃ r ∈ exceptionReasons, e = .finish r := by
  rw [vet] at h
  split at h
  · cases h
    exact ⟨_,by decide,rfl⟩
  split at h
  · cases h
    exact ⟨_,by decide,rfl⟩
  split at h
  · rename_i hreason
    cases h
    exact ⟨_,registerTests_reason (List.mem_of_find?_eq_some hreason),rfl⟩
  · cases h

/-- What `vet` lets through: a first-chance single step of the main thread at
the expected address. -/
theorem vet_ok {c : LoaderSetup} {chain : Chain} {thread : UInt32} {code : BitVec 32}
    {address : Address} {firstChance : Bool} {probe : Probe} {context : Context}
    (h : vet c chain thread code address firstChance probe = .ok context) :
    code = exceptionSingleStep ∧ firstChance = true ∧ thread = probe.mainThread ∧
      address = (chain.places chain.awaited).stopAddress := by
  rw [vet] at h
  split at h
  · cases h
  rename_i hkind
  simp only [Bool.or_eq_true, decide_eq_true_eq, Bool.not_eq_true', not_or, not_not,
    Bool.not_eq_false] at hkind
  split at h
  · cases h
  split at h
  · cases h
  rename_i hregisters
  refine ⟨hkind.1.1,hkind.1.2,hkind.2,?_⟩
  have haddress := List.find?_eq_none.mp hregisters
    (decide (address ≠ (chain.places chain.awaited).stopAddress),"entry_unexpected_exception")
    (by simp only [registerTests, List.mem_cons, true_or, or_true])
  simpa using haddress

theorem firstBreakpoint_error {c : LoaderSetup} {table : ModuleTable} {chain : Chain}
    {thread : UInt32} {code : BitVec 32} {firstChance : Bool} {probe : Probe} {e : Ending}
    (h : firstBreakpoint c table chain thread code firstChance probe = .error e) :
    ∃ r ∈ exceptionReasons, e = .finish r := by
  simp only [firstBreakpoint] at h
  split_ifs at h <;> cases h <;> exact ⟨_,by decide,rfl⟩

/-- Before the entry breakpoint counts, an exception can at most be noted. -/
theorem firstBreakpoint_ok {c : LoaderSetup} {table : ModuleTable} {chain chain' : Chain}
    {thread : UInt32} {code : BitVec 32} {firstChance : Bool} {probe : Probe}
    (h : firstBreakpoint c table chain thread code firstChance probe = .ok chain') :
    chain' = { chain with memo := { chain.memo with breakpointCandidate := true } } := by
  simp only [firstBreakpoint] at h
  split_ifs at h
  cases h
  rfl

/-- An exception is handled by the place it belongs to, or it comes before the
entry breakpoint counts. -/
theorem exception_cases (c : LoaderSetup) (s : LoopState) (thread : UInt32) (code : BitVec 32)
    (address : Address) (firstChance : Bool) (probe : Probe) :
    ((s.chain.approach .entry).continued = true ∧
      exception c s thread code address firstChance probe =
        (vet c s.chain thread code address firstChance probe >>= fun context =>
          (s.scene c probe context).handle s.chain s.chain.handled)) ∨
    ((c.supplied .entry && (s.chain.approach .entry).continued) = false ∧
      exception c s thread code address firstChance probe =
        firstBreakpoint c s.table s.chain thread code firstChance probe) := by
  cases hentry : c.supplied .entry && (s.chain.approach .entry).continued with
  | true =>
    refine .inl ⟨(Bool.and_eq_true_iff.mp hentry).2,?_⟩
    rw [exception, hentry]
    rfl
  | false =>
    refine .inr ⟨rfl,?_⟩
    rw [exception, hentry]
    rfl

/-- What the LOAD branch goes on with. -/
theorem loadModule_ok {c : LoaderSetup} {s : LoopState} {base : Address} {size : Option Int64}
    {inspected : Option LoaderFileIdentity} {table : ModuleTable}
    (h : loadModule c s base size inspected = .ok table) :
    ∃ bytes file mappings id, size = some bytes ∧ s.table.moduleCount < c.limits.modules ∧
      0 < bytes ∧ bytes.toUInt64 ≤ c.limits.bytes-s.table.chargedBytes ∧
      s.table.mappings.admitMapping base s.eventCount = (mappings,.ok id) ∧
      table = { s.table with
        modules := s.table.modules ++ [⟨file,base,s.eventCount,id,0,true,true⟩]
        moduleCount := s.table.moduleCount+1
        activeModuleCount := mappings.active
        chargedBytes := s.table.chargedBytes+bytes.toUInt64
        mappings } := by
  simp only [loadModule] at h
  split at h
  · cases h
  rename_i hmodules
  split at h
  · cases h
  cases size with
  | none => cases h
  | some bytes =>
    dsimp only at h
    split at h
    · cases h
    rename_i hbytes
    simp only [Bool.not_eq_true', Bool.not_eq_false, Bool.and_eq_true, decide_eq_true_eq] at hbytes
    cases inspected with
    | none => cases h
    | some file =>
      dsimp only at h
      split at h
      · cases h
      split at h
      · cases h
      split at h
      · cases h
      rename_i mappings id hledger
      split at h
      · cases h
      cases h
      exact ⟨bytes,file,mappings,id,rfl,UInt32.not_le.mp hmodules,hbytes.1,hbytes.2,hledger,rfl⟩

/-- The reasons of the LOAD branch itself. -/
def loadReasons : List String :=
  ["loader_module_limit","loader_file_or_byte_limit","loader_module_metadata",
    "loader_module_not_pinned","binding_unexpected_load"]

/-- The LOAD branch ends a run for a reason of its own, at the end of the module
array, or for the reason of the ledger. -/
theorem loadModule_error {c : LoaderSetup} {s : LoopState} {base : Address} {size : Option Int64}
    {inspected : Option LoaderFileIdentity} {e : Ending}
    (h : loadModule c s base size inspected = .error e) :
    (∃ r ∈ loadReasons, e = .finish r) ∨ s.table.moduleCount < c.limits.modules ∧
      (maxTraceModules ≤ s.table.moduleCount.toNat ∨
        ∃ mappings error, base ≠ 0 ∧
          s.table.mappings.admitMapping base s.eventCount = (mappings,.error error) ∧
          e = .finish error) := by
  have own {r : String} (hr : r ∈ loadReasons) (he : Except.error (.finish r) =
      (.error e : Except Ending ModuleTable)) : ∃ r ∈ loadReasons, e = .finish r :=
    ⟨r,hr,(Except.error.inj he).symm⟩
  simp only [loadModule] at h
  split at h
  · exact .inl (own (by decide) h)
  rename_i hmodules
  have hroom : s.table.moduleCount < c.limits.modules := UInt32.not_le.mp hmodules
  split at h
  · rename_i hfull
    exact .inr ⟨hroom,.inl hfull⟩
  cases size with
  | none => exact .inl (own (by decide) h)
  | some bytes =>
    dsimp only at h
    split at h
    · exact .inl (own (by decide) h)
    cases inspected with
    | none => exact .inl (own (by decide) h)
    | some file =>
      dsimp only at h
      split at h
      · exact .inl (own (by decide) h)
      rename_i hbase
      split at h
      · exact .inl (own (by decide) h)
      split at h
      · rename_i mappings error hledger
        exact .inr ⟨hroom,.inr ⟨mappings,error,hbase,hledger,(Except.error.inj h).symm⟩⟩
      · split at h
        · exact .inl (own (by decide) h)
        · cases h

/-- What the UNLOAD branch goes on with. -/
theorem unloadModule_ok {c : LoaderSetup} {s : LoopState} {base : Address} {table : ModuleTable}
    (h : unloadModule c s base = .ok table) :
    ∃ mappings id modules retired,
      s.table.mappings.retire base s.eventCount = (mappings,.ok id) ∧
      retireModule id s.eventCount s.table.modules = some (modules,retired) ∧
      table = { s.table with
        modules, mappings
        activeModuleCount := mappings.active
        unloadCount := mappings.unloadCount } := by
  simp only [unloadModule] at h
  split at h
  · cases h
  rename_i mappings id hretire
  split at h
  · cases h
  rename_i modules retired hfound
  split_ifs at h
  cases h
  exact ⟨mappings,id,modules,retired,hretire,hfound,rfl⟩

/-- The reasons of the UNLOAD branch itself. -/
def unloadReasons : List String :=
  ["proxy_mapping_retired","binding_mapping_retired","asi_mapping_retired"]

/-- The UNLOAD branch ends a run for a reason of its own, for the reason of the
ledger, or because it does not find the row of the mapping the ledger has ended. -/
theorem unloadModule_error {c : LoaderSetup} {s : LoopState} {base : Address} {e : Ending}
    (h : unloadModule c s base = .error e) :
    (∃ r ∈ unloadReasons, e = .finish r) ∨
      (∃ mappings error, s.table.mappings.retire base s.eventCount = (mappings,.error error) ∧
        e = .finish error) ∨
      ∃ mappings id, s.table.mappings.retire base s.eventCount = (mappings,.ok id) ∧
        retireModule id s.eventCount s.table.modules = none ∧
        e = .finish "loader_mapping_history_mismatch" := by
  simp only [unloadModule] at h
  split at h
  · rename_i mappings error hretire
    exact .inr (.inl ⟨mappings,error,hretire,(Except.error.inj h).symm⟩)
  rename_i mappings id hretire
  split at h
  · rename_i hnone
    exact .inr (.inr ⟨mappings,id,hretire,hnone,(Except.error.inj h).symm⟩)
  split_ifs at h <;> exact .inl ⟨_,by decide,(Except.error.inj h).symm⟩

/-- What an event does where the loop goes on from it. -/
inductive Dispatched (c : LoaderSetup) (s : LoopState) (thread : UInt32) :
    DebugEventKind → LoopState → Prop
  | load {base : Address} {size : Option Int64} {inspected : Option LoaderFileIdentity}
      {table : ModuleTable} (h : loadModule c s base size inspected = .ok table) :
      Dispatched c s thread (.loadDll base size inspected) { s with table }
  | unload {base : Address} {table : ModuleTable} (h : unloadModule c s base = .ok table) :
      Dispatched c s thread (.unloadDll base) { s with table }
  | created : Dispatched c s thread .createThread { s with threadCount := s.threadCount+1 }
  | exception {code : BitVec 32} {address : Address} {firstChance : Bool} {probe : Probe}
      {chain : Chain} (h : exception c s thread code address firstChance probe = .ok chain) :
      Dispatched c s thread (.exception code address firstChance probe) { s with chain }

/-- The reasons of the events without a branch of their own to fail in. -/
def dispatchReasons : List String :=
  ["loader_thread_limit","loader_early_exit","loader_unexpected_event"]

/-- What an event does where it ends the run. -/
inductive Undispatched (c : LoaderSetup) (s : LoopState) (thread : UInt32) (e : Ending) : Prop
  | load {base : Address} {size : Option Int64} {inspected : Option LoaderFileIdentity}
      (h : loadModule c s base size inspected = .error e)
  | unload {base : Address} (h : unloadModule c s base = .error e)
  | exception {code : BitVec 32} {address : Address} {firstChance : Bool} {probe : Probe}
      (h : exception c s thread code address firstChance probe = .error e)
  | other {r : String} (hr : r ∈ dispatchReasons) (he : e = .finish r)

theorem dispatch_ok {c : LoaderSetup} {s s' : LoopState} {thread : UInt32} {kind : DebugEventKind}
    (h : dispatch c s thread kind = .ok s') : Dispatched c s thread kind s' := by
  cases kind with
  | loadDll base size inspected =>
    rw [dispatch, StoppingRuns.bind_ok_iff] at h
    obtain ⟨table,hl,h⟩ := h
    cases h
    exact .load hl
  | unloadDll base =>
    rw [dispatch, StoppingRuns.bind_ok_iff] at h
    obtain ⟨table,hu,h⟩ := h
    cases h
    exact .unload hu
  | createThread =>
    rw [dispatch] at h
    split at h
    · cases h
    · cases h
      exact .created
  | exception code address firstChance probe =>
    rw [dispatch, StoppingRuns.bind_ok_iff] at h
    obtain ⟨chain,he,h⟩ := h
    cases h
    exact .exception he
  | exitProcess => cases h
  | other => cases h

theorem dispatch_error {c : LoaderSetup} {s : LoopState} {thread : UInt32}
    {kind : DebugEventKind} {e : Ending} (h : dispatch c s thread kind = .error e) :
    Undispatched c s thread e := by
  cases kind with
  | loadDll base size inspected =>
    rw [dispatch, StoppingRuns.bind_error_iff] at h
    rcases h with hl | ⟨_,_,h⟩
    · exact .load hl
    · cases h
  | unloadDll base =>
    rw [dispatch, StoppingRuns.bind_error_iff] at h
    rcases h with hu | ⟨_,_,h⟩
    · exact .unload hu
    · cases h
  | createThread =>
    rw [dispatch] at h
    split at h
    · cases h
      exact .other (by decide) rfl
    · cases h
  | exception code address firstChance probe =>
    rw [dispatch, StoppingRuns.bind_error_iff] at h
    rcases h with he | ⟨_,_,h⟩
    · exact .exception he
    · cases h
  | exitProcess =>
    cases h
    exact .other (by decide) rfl
  | other =>
    cases h
    exact .other (by decide) rfl

/-- The reasons of the loop itself. -/
def turnReasons : List String :=
  ["loader_event_limit","loader_timeout","loader_continue_failed","loader_wait_failed",
    "loader_event_identity","loader_exit_unconfirmed"]

/-- A turn either ends with a reason of the loop itself or gives an event of its
child, got below the event limit, to the branch it belongs to. -/
theorem advance_cases (c : LoaderSetup) (s : LoopState) (t : Turn) :
    (∃ r ∈ turnReasons, advance c s t = .error (.finish r)) ∨
      ∃ event, t.event = some event ∧ s.eventCount < c.limits.events ∧
        advance c s t = dispatch c s.resume event.threadId event.kind := by
  have own {x : Except Ending LoopState} {r : String} (hx : x = .error (.finish r))
      (hr : r ∈ turnReasons) : ∃ r ∈ turnReasons, x = .error (.finish r) := ⟨r,hr,hx⟩
  by_cases hevents : c.limits.events ≤ s.eventCount
  · exact .inl (own (by rw [advance, if_pos hevents]) (by decide))
  by_cases hnow : c.deadline ≤ t.now
  · exact .inl (own (by rw [advance, if_neg hevents, if_pos hnow]) (by decide))
  cases hres : t.resumed with
  | false =>
    refine .inl (own (r := "loader_continue_failed") ?_ (by decide))
    simp [advance, hevents, hnow, hres]
  | true =>
    by_cases hlater : c.deadline ≤ t.later
    · refine .inl (own (r := "loader_timeout") ?_ (by decide))
      simp [advance, hevents, hnow, hres, hlater]
    cases hevent : t.event with
    | none =>
      refine .inl (own (r := "loader_wait_failed") ?_ (by decide))
      simp [advance, hevents, hnow, hres, hlater, hevent]
    | some event =>
      by_cases hid : event.processId = c.processId
      · refine .inr ⟨event,rfl,UInt32.not_le.mp hevents,?_⟩
        simp [advance, hevents, hnow, hres, hlater, hevent, hid]
      · refine .inl (own (r := "loader_event_identity") ?_ (by decide))
        simp [advance, hevents, hnow, hres, hlater, hevent, hid]

/-- A turn that goes on got an event of its child below the event limit. -/
theorem turn_ok {c : LoaderSetup} {s s' : LoopState} {t : Turn} (h : turn c s t = .ok s') :
    ∃ event, t.event = some event ∧ s.eventCount < c.limits.events ∧
      dispatch c s.resume event.threadId event.kind = .ok s' := by
  rcases advance_cases c s t with ⟨r,_,ha⟩ | ⟨event,he,hlt,ha⟩
  · rw [turn, ha] at h
    cases h
  · refine ⟨event,he,hlt,?_⟩
    rw [turn, ha] at h
    cases hd : dispatch c s.resume event.threadId event.kind with
    | error e =>
      rw [hd] at h
      cases h
    | ok s'' =>
      rw [hd] at h
      exact h

/-- A turn that ends the run for no reason of the loop itself ends it in the
branch of its event. -/
theorem turn_error {c : LoaderSetup} {s : LoopState} {t : Turn} {e : Ending}
    (h : turn c s t = .error e) : (∃ r ∈ turnReasons, e = .finish r) ∨
      ∃ event, t.event = some event ∧ s.eventCount < c.limits.events ∧
        dispatch c s.resume event.threadId event.kind = .error e := by
  have closed {e' : Ending} (hc : e'.close t.exitConfirmed = e) :
      (∃ r ∈ turnReasons, e = .finish r) ∨ e' = e := by
    cases e' with
    | outOfRange => exact .inr hc
    | finish r =>
      cases ht : t.exitConfirmed with
      | true => exact .inr (by rw [← hc, ht]; rfl)
      | false =>
        rw [ht] at hc
        exact .inl ⟨"loader_exit_unconfirmed",by decide,hc.symm⟩
  rcases advance_cases c s t with ⟨r,hr,ha⟩ | ⟨event,he,hlt,ha⟩
  · rw [turn, ha] at h
    rcases closed (Except.error.inj h) with hown | rfl
    · exact .inl hown
    · exact .inl ⟨r,hr,rfl⟩
  · rw [turn, ha] at h
    cases hd : dispatch c s.resume event.threadId event.kind with
    | ok s'' =>
      rw [hd] at h
      cases h
    | error e' =>
      rw [hd] at h
      rcases closed (Except.error.inj h) with hown | rfl
      · exact .inl hown
      · exact .inr ⟨event,he,hlt,hd⟩

/-- The reasons of the tests before the loop. -/
def LoaderSetup.openingReasons (c : LoaderSetup) : List String :=
  "loader_owner_thread" :: "loader_exit_unconfirmed" :: c.opening.map (·.2)

/-- `run_impl` ends before the loop, or its arguments pass every test and it runs. -/
theorem observe_cases (c : LoaderSetup) (turns : List Turn) :
    (∃ r ∈ c.openingReasons, observe c turns = .error (.finish r)) ∨
      (∀ x ∈ c.opening, x.1 = true) ∧
        observe c turns = StoppingRuns.run (turn c) c.start turns := by
  cases howner : c.verdict "loader_owner_thread" with
  | false =>
    refine .inl ⟨"loader_owner_thread",List.mem_cons_self,?_⟩
    simp [observe, howner]
  | true =>
    cases hopen : c.opening.find? (fun r => !r.1) with
    | some x =>
      left
      have hx : x.2 ∈ c.opening.map (·.2) := List.mem_map_of_mem (List.mem_of_find?_eq_some hopen)
      have hreason (b : Bool) : (if b then x.2 else "loader_exit_unconfirmed") ∈
          c.openingReasons := by
        cases b with
        | true => exact List.mem_cons_of_mem _ (List.mem_cons_of_mem _ hx)
        | false => exact List.mem_cons_of_mem _ List.mem_cons_self
      refine ⟨_,hreason (c.verdict "loader_exit_unconfirmed"),?_⟩
      simp [observe, howner, hopen]
    | none =>
      refine .inr ⟨?_,?_⟩
      · intro x hx
        simpa using List.find?_eq_none.mp hopen x hx
      · simp [observe, howner, hopen]

end Saex
