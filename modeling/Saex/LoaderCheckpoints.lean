import Saex.LoaderChecks

/-! The handlers of the fifteen checkpoints of `LoaderObservation::run_impl`. -/
namespace Saex

/-- `application_routing_frame`. The RVA table is indexed by EAX only after this
test. -/
def applicationRoutingFrame (c : LoaderSetup) (stage : ℕ) (saved r : DispatchRegisters)
    (stack : List Address) : Bool :=
  1 ≤ stage && stage ≤ 4 && c.verdict "application_routing_invalid_spec" &&
    4096 ≤ saved.esp && saved.esp.toNat % 4 = 0 && saved.eax = 0 && saved.ebx = 0 &&
    saved.flags &&& 0x500 = 0 && r.flags &&& 0x500 = 0 && r.esp = saved.esp-32 && r.ebx = 0 &&
    r.ecx = saved.ecx && r.edx = saved.edx && r.ebp = saved.ebp && r.esi = 0 && r.edi = 24 &&
    r.eax = (if stage = 1 then 0 else if stage = 2 then 24 else 5) &&
    stack = [c.rvas.dispatchImageBase+c.rvas.dispatchApplication.callRva+5,24,0,saved.edi,
      saved.esi,c.rvas.dispatchImageBase+c.rvas.dispatchDispatcher.callRva+5,24,0]

/-- `alignment_valid` of engine/loader/cd_stream_allocation.cpp. -/
def alignmentValid (a : UInt32) : Bool :=
  512 ≤ a && a ≤ 65536 && a &&& (a-1) = 0

/-- `cd_stream_allocation_request`. -/
def cdStreamAllocationRequest (a : UInt32) (g : AllocationGlobals) : Bool :=
  alignmentValid a && g.newMode = 0 && 65536 ≤ g.heapHandle && g.heapHandle < 0xffff0000 &&
    g.heapHandle % 8 = 0 && (g.heapMode = 1 || g.heapMode = 3 && g.threshold < 2048+a)

namespace Handlers

/-- The branch of a checkpoint for a stage that it does not know. -/
def knownStage (p : Phase) (reason : String) : Check :=
  { reason, holds := fun w => 1 ≤ w.stage && w.stage ≤ p.stages }

def eventDispatch : Handler where
  checks := [
    knownStage .eventDispatch "event_dispatch_stage",
    { reason := "event_dispatch_shape_drift" },
    { reason := "event_dispatch_frame" },
    { reason := "event_dispatch_caller_drift" },
    { reason := "event_dispatch_instance_identity" }]
  ended _ := "event_dispatch_boundary_verified"
  enter w := .ok { w.memo with dispatchSaved := dispatchRegisters w.context }
  entering := [{ reason := "event_dispatch_precondition_shape" }]
  writeFailed := "event_dispatch_arm_failed"

def applicationRouting : Handler where
  checks := [
    knownStage .applicationRouting "application_routing_stage",
    { reason := "application_routing_shape_drift" },
    { reason := "application_routing_frame"
      holds := fun w => w.probe.passes "application_routing_frame" &&
        applicationRoutingFrame w.setup w.stage w.memo.dispatchSaved
          (dispatchRegisters w.context) w.probe.routingStack },
    { reason := "application_routing_caller_drift" },
    { reason := "application_routing_instance_identity" }]
  -- `selected_target` is kept as evidence only; what matters is that EAX indexes the array.
  examine w :=
    if 3 ≤ w.stage then
      match w.setup.rvas.routingTargets[w.context.eax.toNat]? with
      | some _ => .ok w.memo
      | none => .error .outOfRange
    else .ok w.memo
  ended _ := "application_routing_boundary_verified"
  entering := [{ reason := "application_routing_precondition_shape" }]
  writeFailed := "application_routing_arm_failed"

def gamePrelude : Handler where
  checks := [
    knownStage .gamePrelude "game_prelude_stage",
    { reason := "game_prelude_shape_drift" },
    { reason := "game_prelude_frame" },
    { reason := "game_prelude_caller_drift" },
    { reason := "game_prelude_flags_drift" },
    { reason := "game_prelude_instance_identity" }]
  ended _ := "game_prelude_verified"
  entering := [
    { reason := "game_prelude_precondition_shape" },
    { reason := "game_prelude_precondition_stack" },
    { reason := "game_prelude_precondition_flags" }]
  writeFailed := "game_prelude_arm_failed"

def fileManagerEntry : Handler where
  checks := [
    knownStage .fileManagerEntry "file_manager_stage",
    { reason := "file_manager_shape_drift" },
    { reason := "file_manager_frame" },
    { reason := "file_manager_caller_drift" },
    { reason := "file_manager_buffer_drift" },
    { reason := "file_manager_localisation_drift" },
    { reason := "file_manager_instance_identity" }]
  ended _ := "file_manager_entry_verified"
  entering := [
    { reason := "file_manager_precondition_shape" },
    { reason := "file_manager_precondition_buffer" }]
  writeFailed := "file_manager_arm_failed"

def cwdSeh : Handler where
  checks := [
    knownStage .cwdSeh "cwd_seh_stage",
    { reason := "cwd_seh_shape_drift" },
    { reason := "cwd_seh_frame" },
    { reason := "cwd_seh_memory_drift" },
    { reason := "cwd_seh_prior_record_drift" },
    { reason := "cwd_seh_caller_drift" },
    { reason := "cwd_seh_buffer_drift" },
    { reason := "cwd_seh_localisation_drift" },
    { reason := "cwd_seh_instance_identity" }]
  ended _ := "cwd_seh_verified"
  entering := [
    { reason := "cwd_seh_precondition_shape" },
    { reason := "cwd_seh_precondition_tib" },
    { reason := "cwd_seh_precondition_stack" }]
  writeFailed := "cwd_seh_arm_failed"

def cwdLock : Handler where
  checks := [
    knownStage .cwdLock "cwd_lock_stage",
    { reason := "cwd_lock_shape_drift" },
    { reason := "cwd_lock_slot_drift" },
    { reason := "cwd_lock_frame" },
    { reason := "cwd_lock_stack_drift" },
    { reason := "cwd_lock_seh_drift" },
    { reason := "cwd_lock_prior_record_drift" },
    { reason := "cwd_lock_caller_drift" },
    { reason := "cwd_lock_buffer_drift" },
    { reason := "cwd_lock_localisation_drift" },
    { reason := "cwd_lock_instance_identity" }]
  ended _ := "cwd_lock_verified"
  entering := [
    { reason := "cwd_lock_precondition_shape" },
    { reason := "cwd_lock_precondition_tib" },
    { reason := "cwd_lock_precondition_stack" },
    { reason := "cwd_lock_precondition_slot" }]
  writeFailed := "cwd_lock_arm_failed"

def cwdAcquire : Handler where
  checks := [
    knownStage .cwdAcquire "cwd_acquire_stage",
    { reason := "cwd_acquire_shape_drift" },
    { reason := "cwd_acquire_slot_drift" },
    { reason := "cwd_acquire_frame" },
    { reason := "cwd_acquire_arguments", stages := fun s => s == 2 || s == 3 },
    { reason := "cwd_acquire_object_drift" },
    { reason := "cwd_acquire_stack_drift" },
    { reason := "cwd_acquire_seh_drift" },
    { reason := "cwd_acquire_prior_record_drift" },
    { reason := "cwd_acquire_caller_drift" },
    { reason := "cwd_acquire_buffer_drift" },
    { reason := "cwd_acquire_localisation_drift" },
    { reason := "cwd_acquire_instance_identity" }]
  ended _ := "cwd_acquire_verified"
  entering := [
    { reason := "cwd_acquire_missing_slot" },
    { reason := "cwd_acquire_precondition_shape" },
    { reason := "cwd_acquire_precondition_object" },
    { reason := "cwd_acquire_precondition_stack" }]
  writeFailed := "cwd_acquire_arm_failed"

/-- The last stage finishes with whatever reason `cwd_query_result` gives. -/
def cwdQuery : Handler where
  checks := [
    knownStage .cwdQuery "cwd_query_stage",
    { reason := "cwd_query_shape_drift" },
    { reason := "cwd_query_frame" },
    { reason := "cwd_query_stack_drift" },
    { reason := "cwd_query_seh_drift" },
    { reason := "cwd_query_lock_drift" },
    { reason := "cwd_query_helper_stack", stages := (3 ≤ ·) },
    { reason := "cwd_query_cookie_drift" },
    { reason := "cwd_query_caller_drift" },
    { reason := "cwd_query_last_error_drift", stages := (· < 7) },
    { reason := "cwd_query_outer_buffer_drift" },
    { reason := "cwd_query_instance_identity" },
    { reason := "cwd_query_buffer_bounds", stages := fun s => s == 5 || s == 6 },
    { reason := "cwd_query_arguments", stages := fun s => s == 5 || s == 6 },
    { reason := "cwd_query_guard_read", stages := fun s => s == 5 || s == 6 },
    { reason := "cwd_query_guard_drift", stages := fun s => s == 6 || s == 7 },
    { reason := "cwd_query_buffer_read", stages := (· == 7) },
    { reason := "cwd_query_expected_directory", stages := (· == 7) },
    { reason := "cwd_query_directory_failed", stages := (· == 7)
      holds := fun w => w.context.eax ≠ 0 },
    { reason := "cwd_query_directory_truncated", stages := (· == 7)
      holds := fun w => w.context.eax < 260 },
    { reason := "cwd_query_directory_termination", stages := (· == 7) },
    { reason := "cwd_query_directory_encoding", stages := (· == 7) },
    { reason := "cwd_query_directory_mismatch", stages := (· == 7) },
    { reason := "cwd_query_suffix_capacity", stages := (· == 7)
      holds := fun w => w.context.eax ≤ 126 }]
  ended _ := "cwd_query_verified"
  entering := [
    { reason := "cwd_query_precondition_shape" },
    { reason := "cwd_query_precondition_memory" }]
  writeFailed := "cwd_query_arm_failed"

def cwdCopy : Handler where
  checks := [
    knownStage .cwdCopy "cwd_copy_stage",
    { reason := "cwd_copy_shape_drift" },
    { reason := "cwd_copy_frame" },
    { reason := "cwd_copy_arguments", stages := (3 ≤ ·) },
    { reason := "cwd_copy_stack_drift" },
    { reason := "cwd_copy_seh_drift" },
    { reason := "cwd_copy_lock_drift" },
    { reason := "cwd_copy_cookie_drift" },
    { reason := "cwd_copy_caller_drift" },
    { reason := "cwd_copy_last_error_drift" },
    { reason := "cwd_copy_source_drift" },
    { reason := "cwd_copy_guard_drift" },
    { reason := "cwd_copy_destination_drift" },
    { reason := "cwd_copy_localisation_drift" },
    { reason := "cwd_copy_instance_identity" }]
  ended _ := "cwd_copy_verified"
  entering := [{ reason := "cwd_copy_precondition_shape" }]
  writeFailed := "cwd_copy_arm_failed"

def cwdReturn : Handler where
  checks := [
    { reason := "cwd_return_shape_drift" },
    { reason := "cwd_return_frame" },
    { reason := "cwd_return_stack_drift" },
    { reason := "cwd_return_seh_drift" },
    { reason := "cwd_return_lock_drift" },
    { reason := "cwd_return_cookie_drift" },
    { reason := "cwd_return_caller_drift" },
    { reason := "cwd_return_last_error_drift" },
    { reason := "cwd_return_source_drift" },
    { reason := "cwd_return_guard_drift" },
    { reason := "cwd_return_destination_drift" },
    { reason := "cwd_return_localisation_drift" },
    { reason := "cwd_return_instance_identity" },
    { reason := "cwd_return_helper_arguments" }]
  ended _ := "cwd_return_verified"
  entering := [{ reason := "cwd_return_precondition_shape" }]
  writeFailed := "cwd_return_arm_failed"

def fileManagerReady : Handler where
  checks := [
    { reason := "file_manager_ready_shape_drift" },
    { reason := "file_manager_ready_frame" },
    { reason := "file_manager_ready_lock_drift" },
    { reason := "file_manager_ready_seh_drift" },
    { reason := "file_manager_ready_prior_record_drift" },
    { reason := "file_manager_ready_wrapper_state", stages := (· < 5) },
    { reason := "file_manager_ready_arguments", stages := (· ≤ 8) },
    { reason := "file_manager_ready_caller_drift" },
    { reason := "file_manager_ready_buffer_drift" },
    { reason := "file_manager_ready_last_error_drift" },
    { reason := "file_manager_ready_localisation_drift" },
    { reason := "file_manager_ready_instance_identity" }]
  ended _ := "file_manager_ready_verified"
  entering := [{ reason := "file_manager_ready_precondition_shape" }]
  writeFailed := "file_manager_ready_arm_failed"

def cdStreamTables : Handler where
  checks := [
    { reason := "cd_stream_tables_shape_drift" },
    { reason := "cd_stream_tables_frame" },
    { reason := "cd_stream_tables_memory_drift" },
    { reason := "cd_stream_tables_arguments" },
    { reason := "cd_stream_tables_caller_drift" },
    { reason := "cd_stream_tables_parent_drift" }]
  ended _ := "cd_stream_tables_verified"
  entering := [
    { reason := "cd_stream_tables_precondition_shape" },
    { reason := "cd_stream_tables_precondition_memory" },
    { reason := "cd_stream_tables_precondition_frame"
      holds := fun w => 65600 ≤ w.context.esp && w.context.eflags &&& 0x500 = 0 }]
  writeFailed := "cd_stream_tables_arm_failed"

def cdStreamDisk : Handler where
  checks := [
    { reason := "cd_stream_disk_shape_drift" },
    { reason := "cd_stream_disk_frame" },
    { reason := "cd_stream_disk_arguments" },
    { reason := "cd_stream_disk_globals_drift" },
    { reason := "cd_stream_disk_parent_drift" },
    { reason := "cd_stream_disk_query_failed", stages := (· == 3)
      holds := fun w => w.context.eax ≠ 0 },
    { reason := "cd_stream_disk_geometry_rejected", stages := (· == 3) }]
  examine w := .ok (if w.stage = 3 then { w.memo with bytesPerSector := w.probe.bytesPerSector }
    else w.memo)
  ended _ := "cd_stream_disk_verified"
  entering := [
    { reason := "cd_stream_disk_precondition_shape" },
    { reason := "cd_stream_disk_precondition_memory" }]
  writeFailed := "cd_stream_disk_arm_failed"

def cdStreamAllocation : Handler where
  checks := [
    { reason := "cd_stream_allocation_shape_drift" },
    { reason := "cd_stream_allocation_globals_drift"
      holds := fun w => w.probe.allocationGlobals = some w.memo.allocationGlobals },
    { reason := "cd_stream_allocation_frame" },
    { reason := "cd_stream_allocation_arguments" },
    { reason := "cd_stream_allocation_heap_branch", stages := (· == 3)
      holds := fun w => decide (w.context.eflags &&& 0x40 ≠ 0) =
        decide (w.memo.allocationGlobals.heapMode = 3) },
    { reason := "cd_stream_allocation_threshold_branch", stages := (· == 4)
      holds := fun w => w.memo.allocationGlobals.heapMode = 3 && w.context.eflags &&& 0x41 = 0 },
    { reason := "cd_stream_allocation_seh_drift" },
    { reason := "cd_stream_allocation_parent_drift" },
    { reason := "cd_stream_allocation_failed", stages := (· == 7)
      holds := fun w => w.context.eax ≠ 0 },
    { reason := "cd_stream_allocation_block_rejected", stages := (· == 7) },
    { reason := "cd_stream_allocation_block_unreadable", stages := (· == 7) },
    { reason := "cd_stream_allocation_error_read", stages := (· == 7) },
    { reason := "cd_stream_allocation_content_drift", stages := (8 ≤ ·) }]
  ended _ := "cd_stream_allocation_verified"
  enter w := .ok { w.memo with allocationGlobals := w.probe.allocationGlobals.getD {} }
  entering := [
    { reason := "cd_stream_allocation_precondition_shape" },
    { reason := "cd_stream_allocation_request_rejected"
      holds := fun w => w.probe.allocationGlobals.isSome &&
        cdStreamAllocationRequest w.memo.bytesPerSector w.memo.allocationGlobals },
    { reason := "cd_stream_allocation_precondition_stack" }]
  writeFailed := "cd_stream_allocation_arm_failed"

def cdStreamChannels : Handler where
  checks := [
    { reason := "cd_stream_channels_shape_drift" },
    { reason := "cd_stream_channels_frame" },
    { reason := "cd_stream_channels_arguments" },
    { reason := "cd_stream_channels_tables_drift" },
    { reason := "cd_stream_channels_pointer_unreadable" },
    { reason := "cd_stream_channels_pointer_drift" },
    { reason := "cd_stream_channels_seh_drift" },
    { reason := "cd_stream_channels_parent_drift" },
    { reason := "cd_stream_channels_allocation_drift" },
    { reason := "cd_stream_channels_error_not_reset", stages := (· == 4) },
    { reason := "cd_stream_channels_error_unreadable", stages := (· == 8) },
    { reason := "cd_stream_channels_allocation_failed", stages := (· == 8)
      holds := fun w => w.context.eax ≠ 0 },
    { reason := "cd_stream_channels_block_rejected", stages := (· == 8) },
    { reason := "cd_stream_channels_block_unreadable", stages := (8 ≤ ·) },
    { reason := "cd_stream_channels_nonzero_block", stages := (8 ≤ ·) }]
  ended _ := "cd_stream_channels_verified"
  entering := [
    { reason := "cd_stream_channels_precondition_shape" },
    { reason := "cd_stream_channels_precondition_state" }]
  writeFailed := "cd_stream_channels_arm_failed"

end Handlers

def Phase.handler : Phase → Handler
  | .eventDispatch => Handlers.eventDispatch
  | .applicationRouting => Handlers.applicationRouting
  | .gamePrelude => Handlers.gamePrelude
  | .fileManagerEntry => Handlers.fileManagerEntry
  | .cwdSeh => Handlers.cwdSeh
  | .cwdLock => Handlers.cwdLock
  | .cwdAcquire => Handlers.cwdAcquire
  | .cwdQuery => Handlers.cwdQuery
  | .cwdCopy => Handlers.cwdCopy
  | .cwdReturn => Handlers.cwdReturn
  | .fileManagerReady => Handlers.fileManagerReady
  | .cdStreamTables => Handlers.cdStreamTables
  | .cdStreamDisk => Handlers.cdStreamDisk
  | .cdStreamAllocation => Handlers.cdStreamAllocation
  | .cdStreamChannels => Handlers.cdStreamChannels

def Place.handler : Place → Handler
  | .approach a => a.handler
  | .phase p => p.handler

/-- The place that is armed once a place is verified. Every place but the return
of the ASI call has one successor, armed if its spec was supplied; that return
goes on to the startup return or to the bootstrap calls. -/
def LoaderSetup.following (c : LoaderSetup) : Place → Option Place
  | .approach .entry => if c.supplied .proxy then some (.approach .proxy) else none
  | .approach .proxy => if c.supplied .startup then some (.approach .startup) else none
  | .approach .startup => if c.supplied .codec then some (.approach .codec) else none
  | .approach .codec => if c.supplied .binding then some (.approach .binding) else none
  | .approach .binding => if c.supplied .asi then some (.approach .asiCall) else none
  | .approach .asiCall => some (.approach .asiReturn)
  | .approach .asiReturn =>
    if c.supplied .tail then some (.approach .startupReturn)
    else if c.supplied .bootstrap then some (.approach .bootstrap)
    else none
  | .approach .bootstrap => none
  | .approach .startupReturn => if c.supplied .crt then some (.approach .crtStartup) else none
  | .approach .crtStartup =>
    if c.supplied .application then some (.approach .applicationEntry) else none
  | .approach .applicationEntry =>
    if c.supplied .platform then some (.approach .platformStartup) else none
  | .approach .platformStartup =>
    if c.supplied .suppression then some (.approach .platformSuppression) else none
  | .approach .platformSuppression =>
    if c.supplied .instanceStartup then some (.approach .instanceStartup) else none
  | .approach .instanceStartup =>
    if c.supplied .dispatch then some (.phase .eventDispatch) else none
  | .phase p => match p.next with
    | some q => if c.supplied q.spec then some (.phase q) else none
    | none => none

/-- The stage after a stop that is not the last of its place. The allocation
goes past its threshold comparison when the heap mode does not take it. -/
def nextStage (memo : Memo) : Place → ℕ → ℕ
  | .phase .cdStreamAllocation, stage =>
    if stage = 3 && memo.allocationGlobals.heapMode = 1 then 5 else stage+1
  | _, stage => stage+1

namespace Chain

def arm (chain : Chain) (q : Place) (stage : ℕ) (address : Address) : Chain :=
  chain.set q { chain.places q with stage, stopAddress := address, armed := true }

def verify (chain : Chain) (q : Place) : Chain :=
  chain.set q { chain.places q with verified := q.handler.keepsVerified }

end Chain

/-- The `arm_*` functions: write the breakpoint, read it back, and only then
note it. -/
def Scene.arm (w : Scene) (chain : Chain) (q : Place) (stage : ℕ) : Except Ending Chain :=
  match w.stop q stage with
  | none => .error .outOfRange
  | some address =>
    if !w.probe.contextWritten then .error (.finish q.handler.writeFailed)
    else match w.probe.readback with
      | some r =>
        if w.guarded q address r then .ok (chain.arm q stage address)
        else .error (.finish q.handler.armFailed)
      | none => .error (.finish q.handler.armFailed)

/-- One handler: its tests, then the next stage or the next place. -/
def Scene.handle (w : Scene) (chain : Chain) (q : Place) : Except Ending Chain := do
  checkAll w q.handler.checks
  let memo ← q.handler.examine w
  if q.final w.stage then
    match w.setup.following q with
    | none => .error (.finish (q.handler.ended { w with memo }))
    | some r =>
      let memo ← r.handler.enter { w with memo }
      checkAll { w with memo } r.handler.entering
      Scene.arm { w with memo } { chain.verify q with memo } r 1
  else Scene.arm { w with memo } { chain with memo } q (nextStage memo q w.stage)

end Saex
