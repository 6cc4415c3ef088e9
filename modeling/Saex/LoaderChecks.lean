import Saex.LoaderStops
import Saex.StoppingRuns

/-! The handlers of `LoaderObservation::run_impl` as data, and those of the
approach: what a stop checks, in which order and under which reasons, and what
has to hold before the next place is armed. -/
namespace Saex
open StoppingRuns

/-- One test of a handler: the reason it finishes with where the test fails,
the stages it is made at and the test. -/
structure Check where
  reason : String
  stages : ℕ → Bool := fun _ => true
  holds : Scene → Bool := fun w => w.probe.passes reason

/-- A handler is the tests of its stops, what it then works out, and the reason
a verified place ends the run with when no further one was asked for; `entering`
to `armFailed` are passed before the place itself is armed at its first stage. -/
structure Handler where
  checks : List Check
  examine : Scene → Except Ending Memo := fun w => .ok w.memo
  ended : Scene → String
  enter : Scene → Except Ending Memo := fun w => .ok w.memo
  entering : List Check := []
  writeFailed : String
  armFailed : String := writeFailed
  keepsVerified : Bool := true

/-- The first test of a stop that fails. -/
def firstFailed (w : Scene) (checks : List Check) : Option Check :=
  checks.find? fun c => c.stages w.stage && !c.holds w

def checkAll (w : Scene) (checks : List Check) : Except Ending Unit :=
  match firstFailed w checks with
  | some c => .error (.finish c.reason)
  | none => .ok ()

theorem checkAll_ok {w : Scene} {checks : List Check} (h : checkAll w checks = .ok ()) :
    ∀ c ∈ checks, c.stages w.stage = true → c.holds w = true := by
  intro c hc hs
  rw [checkAll] at h
  split at h
  · cases h
  · rename_i hnone
    have hf := List.find?_eq_none.mp hnone c hc
    simpa [hs] using hf

theorem checkAll_error {w : Scene} {checks : List Check} {e : Ending}
    (h : checkAll w checks = .error e) : ∃ c ∈ checks, e = .finish c.reason := by
  rw [checkAll] at h
  split at h
  · rename_i c hsome
    cases h
    exact ⟨c,List.mem_of_find?_eq_some hsome,rfl⟩
  · cases h

namespace Handlers

/-- No admitted module that is still mapped is one of these files. -/
def notMapped (files : LoaderSetup → List LoaderFileIdentity) (w : Scene) : Bool :=
  w.table.modules.all fun m =>
    !(w.table.mapped m && (files w.setup).any fun f => m.file.matchesFile f)

/-- The search of the `entry` handler for the one mapping of the proxy. -/
def findProxy (w : Scene) : List LoaderModule → Memo → Except Ending Memo
  | [], memo => .ok memo
  | m :: rest, memo =>
    if w.table.mapped m && m.file.matchesFile w.setup.proxyModule then
      if memo.proxyMappingId ≠ 0 then .error (.finish "proxy_mapping_ambiguous")
      else findProxy w rest { memo with proxyMappingId := m.mappingId, proxyBase := m.base }
    else findProxy w rest memo

/-- The cell of `codec_mapping_ids` for the `n`-th file. -/
def codecCell (n : ℕ) (memo : Memo) : Except Ending UInt32 :=
  match memo.codecMappingIds[n]? with
  | some id => .ok id
  | none => .error .outOfRange

/-- The inner loop of the `codec` handler, for the `n`-th file. -/
def findCodec (w : Scene) (n : ℕ) (file : LoaderFileIdentity) :
    List LoaderModule → Memo → Except Ending Memo
  | [], memo => .ok memo
  | m :: rest, memo =>
    if w.table.mapped m && m.file.matchesFile file then
      match codecCell n memo with
      | .error e => .error e
      | .ok id =>
        if id ≠ 0 then .error (.finish "codec_mapping_ambiguous")
        else if m.eventIndex ≤ memo.codecArmEvent then .error (.finish "codec_mapping_not_fresh")
        else if n = 0 && m.base ≠ w.context.eax then .error (.finish "codec_handle_mismatch")
        else findCodec w n file rest
          { memo with codecMappingIds := memo.codecMappingIds.set n m.mappingId }
    else findCodec w n file rest memo

def findCodecs (w : Scene) : ℕ → List LoaderFileIdentity → Memo → Except Ending Memo
  | _, [], memo => .ok memo
  | n, file :: rest, memo => do
    let memo ← findCodec w n file w.table.modules memo
    let id ← codecCell n memo
    if id = 0 then .error (.finish "codec_mapping_missing")
    else findCodecs w (n+1) rest { memo with codecModuleCount := memo.codecModuleCount+1 }

/-- The search of the `asi` handler for the fresh mapping behind its handle. -/
def findAsi (w : Scene) : List LoaderModule → Memo → Except Ending Memo
  | [], memo => .ok memo
  | m :: rest, memo =>
    if w.table.mapped m && m.file.matchesFile w.setup.asiModule then
      if memo.asiMappingId ≠ 0 then .error (.finish "asi_mapping_ambiguous")
      else if m.eventIndex ≤ memo.asiArmEvent then .error (.finish "asi_mapping_not_fresh")
      else if m.base ≠ w.context.eax then .error (.finish "asi_handle_mismatch")
      else findAsi w rest { memo with asiMappingId := m.mappingId }
    else findAsi w rest memo

/-- The reasons of the searches. -/
def searchReasons : List String :=
  ["proxy_mapping_ambiguous","proxy_mapping_missing","codec_mapping_ambiguous",
    "codec_mapping_not_fresh","codec_handle_mismatch","codec_mapping_missing",
    "asi_mapping_ambiguous","asi_mapping_not_fresh","asi_handle_mismatch","asi_mapping_missing"]

theorem findProxy_error {w : Scene} {modules : List LoaderModule} {memo : Memo} {e : Ending}
    (h : findProxy w modules memo = .error e) : ∃ r ∈ searchReasons, e = .finish r := by
  induction modules generalizing memo with
  | nil => cases h
  | cons m rest ih =>
    rw [findProxy] at h
    split at h
    · split at h
      · cases h
        exact ⟨_,by decide,rfl⟩
      · exact ih h
    · exact ih h

theorem findAsi_error {w : Scene} {modules : List LoaderModule} {memo : Memo} {e : Ending}
    (h : findAsi w modules memo = .error e) : ∃ r ∈ searchReasons, e = .finish r := by
  induction modules generalizing memo with
  | nil => cases h
  | cons m rest ih =>
    rw [findAsi] at h
    split at h
    · split at h
      · cases h
        exact ⟨_,by decide,rfl⟩
      split at h
      · cases h
        exact ⟨_,by decide,rfl⟩
      split at h
      · cases h
        exact ⟨_,by decide,rfl⟩
      · exact ih h
    · exact ih h

theorem findProxy_codecs {w : Scene} {modules : List LoaderModule} {memo memo' : Memo}
    (h : findProxy w modules memo = .ok memo') :
    memo'.codecMappingIds = memo.codecMappingIds := by
  induction modules generalizing memo with
  | nil =>
    cases h
    rfl
  | cons m rest ih =>
    rw [findProxy] at h
    split at h
    · split at h
      · cases h
      · have hids := ih h
        exact hids
    · exact ih h

theorem findAsi_codecs {w : Scene} {modules : List LoaderModule} {memo memo' : Memo}
    (h : findAsi w modules memo = .ok memo') :
    memo'.codecMappingIds = memo.codecMappingIds := by
  induction modules generalizing memo with
  | nil =>
    cases h
    rfl
  | cons m rest ih =>
    rw [findAsi] at h
    split at h
    · split_ifs at h
      have hids := ih h
      exact hids
    · exact ih h

theorem codecCell_error {n : ℕ} {memo : Memo} {e : Ending} (h : codecCell n memo = .error e) :
    e = .outOfRange ∧ memo.codecMappingIds.length ≤ n := by
  rw [codecCell] at h
  split at h
  · cases h
  · rename_i hnone
    cases h
    exact ⟨rfl,List.getElem?_eq_none_iff.mp hnone⟩

theorem findCodec_error {w : Scene} {n : ℕ} {file : LoaderFileIdentity}
    {modules : List LoaderModule} {memo : Memo} {e : Ending}
    (h : findCodec w n file modules memo = .error e) :
    (∃ r ∈ searchReasons, e = .finish r) ∨
      e = .outOfRange ∧ memo.codecMappingIds.length ≤ n := by
  induction modules generalizing memo with
  | nil => cases h
  | cons m rest ih =>
    rw [findCodec] at h
    split at h
    · split at h
      · rename_i hcell
        cases h
        exact .inr (codecCell_error hcell)
      split at h
      · cases h
        exact .inl ⟨_,by decide,rfl⟩
      split at h
      · cases h
        exact .inl ⟨_,by decide,rfl⟩
      split at h
      · cases h
        exact .inl ⟨_,by decide,rfl⟩
      · simpa only [List.length_set] using ih h
    · exact ih h

theorem findCodec_length {w : Scene} {n : ℕ} {file : LoaderFileIdentity}
    {modules : List LoaderModule} {memo memo' : Memo}
    (h : findCodec w n file modules memo = .ok memo') :
    memo'.codecMappingIds.length = memo.codecMappingIds.length := by
  induction modules generalizing memo with
  | nil =>
    cases h
    rfl
  | cons m rest ih =>
    rw [findCodec] at h
    split at h
    · split at h
      · cases h
      · split_ifs at h
        simpa only [List.length_set] using ih h
    · exact ih h

/-- The codec search stays within `codec_mapping_ids` if there are no more files
than cells. -/
theorem findCodecs_error {w : Scene} {n : ℕ} {files : List LoaderFileIdentity} {memo : Memo}
    {e : Ending} (h : findCodecs w n files memo = .error e) :
    (∃ r ∈ searchReasons, e = .finish r) ∨
      e = .outOfRange ∧ memo.codecMappingIds.length < n+files.length := by
  induction files generalizing n memo with
  | nil => cases h
  | cons file rest ih =>
    rw [findCodecs, bind_error_iff] at h
    rw [List.length_cons]
    rcases h with h | ⟨memo',hm,h⟩
    · rcases findCodec_error h with hr | ⟨rfl,hlen⟩
      · exact .inl hr
      · exact .inr ⟨rfl,by omega⟩
    have hlen := findCodec_length hm
    rw [bind_error_iff] at h
    rcases h with h | ⟨id,_,h⟩
    · obtain ⟨rfl,hcell⟩ := codecCell_error h
      exact .inr ⟨rfl,by omega⟩
    split at h
    · cases h
      exact .inl ⟨_,by decide,rfl⟩
    · rcases ih h with hr | ⟨rfl,hlt⟩
      · exact .inl hr
      · exact .inr ⟨rfl,by dsimp only at hlt; omega⟩

theorem findCodecs_length {w : Scene} {n : ℕ} {files : List LoaderFileIdentity}
    {memo memo' : Memo} (h : findCodecs w n files memo = .ok memo') :
    memo'.codecMappingIds.length = memo.codecMappingIds.length := by
  induction files generalizing n memo with
  | nil =>
    cases h
    rfl
  | cons file rest ih =>
    rw [findCodecs, bind_ok_iff] at h
    obtain ⟨memo₁,hm,h⟩ := h
    rw [bind_ok_iff] at h
    obtain ⟨id,_,h⟩ := h
    split at h
    · cases h
    · have hlen := findCodec_length hm
      exact (ih h).trans hlen

/-- The codec mappings found at the codec's return are all still active. -/
def codecsMapped (w : Scene) : Bool :=
  (w.memo.codecMappingIds.take w.memo.codecModuleCount).all fun id =>
    match w.table.modules.find? (fun m => m.mappingId = id) with
    | some m => w.table.mappings.isActive id m.base
    | none => false

def entry : Handler where
  checks := [{ reason := "entry_bytes_unreadable" }]
  ended w := if w.probe.entryBytesMatch then "entry_boundary_reached"
    else "entry_boundary_modified"
  writeFailed := "entry_context_write_failed"
  armFailed := "entry_breakpoint_arm_failed"
  keepsVerified := false

def proxy : Handler where
  checks := [
    { reason := "proxy_return_shape" },
    { reason := "proxy_return_entry_unreadable" },
    { reason := "proxy_entry_not_restored" },
    { reason := "proxy_iat_unreadable" },
    { reason := "proxy_iat_mismatch" }]
  ended _ := "proxy_return_verified"
  enter w := do
    let memo ← findProxy w w.table.modules w.memo
    if memo.proxyMappingId = 0 then .error (.finish "proxy_mapping_missing")
    else .ok { memo with proxyValidated := true }
  entering := [
    { reason := "proxy_entry_shape" },
    { reason := "proxy_entry_redirect" },
    { reason := "proxy_iat_unreadable" },
    { reason := "proxy_iat_before_not_system" }]
  writeFailed := "proxy_breakpoint_write_failed"
  armFailed := "proxy_breakpoint_arm_failed"
  keepsVerified := false

def startup : Handler where
  checks := [
    { reason := "startup_proxy_shape" },
    { reason := "startup_iat_drift" },
    { reason := "startup_target_unreadable" },
    { reason := "startup_target_drift" },
    { reason := "startup_stack_region" },
    { reason := "startup_stack_read" },
    { reason := "startup_callsite_range"
      holds := fun w =>
        w.setup.base ≤ w.probe.stackWord && 6 ≤ w.probe.stackWord-w.setup.base &&
          w.probe.stackWord-w.setup.base < w.setup.imageBytes },
    { reason := "startup_callsite_read" },
    { reason := "startup_callsite_shape" },
    { reason := "startup_argument_region" },
    { reason := "startup_sample_unreadable" }]
  examine w := .ok { w.memo with startupReturnAddress := w.probe.stackWord }
  ended _ := "startup_call_verified"
  entering := [{ reason := "startup_target_unreadable" }]
  writeFailed := "startup_breakpoint_write_failed"
  armFailed := "startup_breakpoint_arm_failed"
  keepsVerified := false

def codec : Handler where
  checks := [
    { reason := "codec_return_shape" },
    { reason := "startup_iat_drift" },
    { reason := "codec_load_failed", holds := fun w => w.context.eax ≠ 0 }]
  examine w := findCodecs w 0 w.setup.codecModules w.memo
  ended _ := "codec_return_verified"
  enter w := .ok { w.memo with codecArmEvent := w.eventCount }
  entering := [
    { reason := "codec_module_preloaded", holds := notMapped (·.codecModules) },
    { reason := "codec_call_shape" }]
  writeFailed := "codec_breakpoint_write_failed"
  armFailed := "codec_breakpoint_arm_failed"

def binding : Handler where
  checks := [
    { reason := "binding_return_shape" },
    { reason := "binding_mapping_retired", holds := codecsMapped },
    { reason := "binding_slot_unreadable" },
    { reason := "binding_slot_mismatch" }]
  ended _ := "codec_bindings_verified"
  entering := [
    { reason := "binding_precondition_shape" },
    { reason := "binding_precondition_read" },
    { reason := "binding_preexisting_slot" }]
  writeFailed := "binding_breakpoint_write_failed"
  armFailed := "binding_breakpoint_arm_failed"

def asiCall : Handler where
  checks := [
    { reason := "asi_call_shape" },
    { reason := "asi_module_preloaded", holds := notMapped fun c => [c.asiModule] },
    { reason := "asi_path_unreadable" },
    { reason := "asi_path_mismatch" }]
  ended _ := "asi_breakpoint_arm_failed"
  entering := [
    { reason := "asi_precondition_shape" },
    { reason := "asi_module_preloaded", holds := notMapped fun c => [c.asiModule] }]
  writeFailed := "asi_breakpoint_arm_failed"
  keepsVerified := false

def asiReturn : Handler where
  checks := [
    { reason := "asi_return_shape" },
    { reason := "asi_stack_mismatch" },
    { reason := "asi_load_failed", holds := fun w => w.context.eax ≠ 0 }]
  examine w := do
    let memo ← findAsi w w.table.modules w.memo
    if memo.asiMappingId = 0 then .error (.finish "asi_mapping_missing")
    else .ok memo
  ended _ := "asi_return_verified"
  enter w := .ok { w.memo with asiArmEvent := w.eventCount }
  writeFailed := "asi_breakpoint_arm_failed"

def bootstrap : Handler where
  checks := [
    { reason := "bootstrap_return_shape" },
    { reason := "bootstrap_calling_convention" },
    { reason := "bootstrap_output_unreadable" },
    { reason := "bootstrap_output_overrun" },
    { reason := "bootstrap_call_failed" },
    { reason := "bootstrap_status_mismatch" },
    { reason := "frame_terminal_sample_rejected"
      stages := (· == 8)
      holds := fun w => !w.setup.supplied .frame ||
        w.probe.passes "frame_terminal_sample_rejected" }]
  ended w :=
    if !w.probe.observedUnverified then "bootstrap_lifecycle_host_rejected"
    else if w.setup.supplied .frame then "frame_target_samples_verified"
    else "bootstrap_lifecycle_verified"
  entering := [
    { reason := "frame_asi_sample_rejected"
      holds := fun w => !w.setup.supplied .frame || w.probe.passes "frame_asi_sample_rejected" },
    { reason := "bootstrap_export_shape" }]
  writeFailed := "bootstrap_call_arm_failed"

def startupReturn : Handler where
  checks := [
    { reason := "startup_return_shape" },
    { reason := "startup_return_arguments_read", stages := (· == 1) },
    { reason := "startup_return_arguments", stages := (· == 1) },
    { reason := "startup_return_image_precondition", stages := (· == 1) },
    { reason := "startup_return_protect_failed", stages := (· == 2)
      holds := fun w => w.context.eax ≠ 0 },
    { reason := "startup_return_protect_result", stages := (· == 2) },
    { reason := "startup_return_protection_mismatch", stages := (· == 2) },
    { reason := "startup_return_calling_convention", stages := Approach.startupReturn.final },
    { reason := "startup_return_callsite_read", stages := Approach.startupReturn.final },
    { reason := "startup_return_callsite", stages := Approach.startupReturn.final },
    { reason := "startup_return_info", stages := Approach.startupReturn.final },
    { reason := "startup_return_frame_drift", stages := Approach.startupReturn.final }]
  ended _ := "startup_return_verified"
  entering := [
    { reason := "startup_return_precondition_shape" },
    { reason := "startup_return_frame_precondition" }]
  writeFailed := "startup_return_arm_failed"

def crtStartup : Handler where
  checks := [
    { reason := "crt_loader_shape" },
    { reason := "crt_shape_drift" },
    { reason := "crt_io_calling_convention", stages := (· == 1) },
    { reason := "crt_io_failed", stages := (· == 1), holds := fun w => w.context.eax = 0 },
    { reason := "crt_initializer_stack", stages := Approach.crtStartup.final },
    { reason := "crt_frame_drift", stages := Approach.crtStartup.final }]
  ended _ := "crt_initializer_boundary_verified"
  entering := [
    { reason := "crt_precondition_shape" },
    { reason := "crt_stack_precondition" }]
  writeFailed := "crt_arm_failed"

def applicationEntry : Handler where
  checks := [
    { reason := "application_shape_drift" },
    { reason := "application_initializer_abi", stages := (· == 1) },
    { reason := "application_initializer_failed", stages := (· == 1)
      holds := fun w => w.context.eax = 0 },
    { reason := "application_second_argument", stages := (· == 2) },
    { reason := "application_second_abi", stages := (· == 3) },
    { reason := "application_second_info", stages := (· == 3) },
    { reason := "application_arguments", stages := (· == 4) },
    { reason := "application_command_line", stages := (· == 4) },
    { reason := "application_entry_stack", stages := (· == 5) },
    { reason := "application_stage", holds := fun w => 1 ≤ w.stage && w.stage ≤ 5 }]
  ended _ := "application_entry_verified"
  entering := [{ reason := "application_precondition_shape" }]
  writeFailed := "application_arm_failed"

def platformStartup : Handler where
  checks := [
    { reason := "platform_shape_drift" },
    { reason := "platform_stack_or_registers" },
    { reason := "platform_argument_read" },
    { reason := "platform_arguments" }]
  ended _ := "platform_startup_boundary_verified"
  entering := [{ reason := "platform_precondition_shape" }]
  writeFailed := "platform_arm_failed"

/-- `restore` of the suppression is only tried when no instance was asked for. -/
def platformSuppression : Handler where
  checks := [
    { reason := "suppression_return_read_failed" },
    { reason := "suppression_return_drift" },
    { reason := "suppression_state_drift" }]
  ended w := if w.probe.passes "suppression_restore_failed" then "platform_suppression_verified"
    else "suppression_restore_failed"
  entering := [
    { reason := "suppression_snapshot_failed" },
    { reason := "suppression_last_error_identity" }]
  writeFailed := "suppression_context_failed"
  keepsVerified := false

def instanceStartup : Handler where
  checks := [
    { reason := "instance_shape_drift" },
    { reason := "instance_registers" },
    { reason := "instance_arguments", stages := (· == 1) },
    { reason := "instance_create_abi", stages := (· == 2) },
    { reason := "instance_create_failed", stages := (· == 2)
      holds := fun w => w.context.eax ≠ 0 },
    { reason := "instance_event_identity", stages := (· == 2) },
    { reason := "instance_getter_abi", stages := (· == 3) },
    { reason := "instance_existing_detected", stages := (· == 3) },
    { reason := "instance_ambiguous_last_error", stages := (· == 3) },
    { reason := "instance_return_abi", stages := (· == 4) },
    { reason := "instance_stack_drift", stages := (· == 4) },
    { reason := "instance_event_identity", stages := (· == 4) },
    { reason := "instance_stage", holds := fun w => 1 ≤ w.stage && w.stage ≤ 4 }]
  ended _ := "instance_startup_verified"
  entering := [{ reason := "instance_precondition_shape" }]
  writeFailed := "instance_arm_failed"

end Handlers

def Approach.handler : Approach → Handler
  | .entry => Handlers.entry
  | .proxy => Handlers.proxy
  | .startup => Handlers.startup
  | .codec => Handlers.codec
  | .binding => Handlers.binding
  | .asiCall => Handlers.asiCall
  | .asiReturn => Handlers.asiReturn
  | .bootstrap => Handlers.bootstrap
  | .startupReturn => Handlers.startupReturn
  | .crtStartup => Handlers.crtStartup
  | .applicationEntry => Handlers.applicationEntry
  | .platformStartup => Handlers.platformStartup
  | .platformSuppression => Handlers.platformSuppression
  | .instanceStartup => Handlers.instanceStartup

end Saex
