import Mathlib.Data.Fin.VecNotation
import Saex.BootstrapSession
import Saex.LittleEndian

/-! engine/loader/bootstrap_lifecycle.cpp: the offline recipe of the eight bootstrap
calls, the export bytes it expects at the real load base and the status it
accepts after each call. -/
namespace Saex
open LittleEndian

structure BootstrapExportSpec where
  rva : BitVec 32 := 0
  /-- Audited bytes at the preferred base. -/
  prefixBytes : Vector UInt8 20 := .replicate 20 0
  preferredBase : BitVec 32 := 0
  /-- One bit for each offset 0..16 at which a four-byte fixup starts. -/
  highlowMask : BitVec 32 := 0
deriving DecidableEq

structure BootstrapLifecycleSpec where
  /-- Initialize, Query, Stop. -/
  exports : Vector BootstrapExportSpec 3 := .replicate 3 {}
  profileId : List UInt8
  profileSourceDigest : List UInt8
deriving DecidableEq

/-- The exports called, by their index in the spec. -/
def bootstrapCallSequence : Vector (Fin 3) 8 := #v[1,0,1,0,2,1,0,2]

def exportOperation : Fin 3 → BootstrapOperation
  | 0 => .initializeSession
  | 1 => .query
  | 2 => .stop

/-- One round of the loop over the mask: the bytes so far and those already covered. -/
def exportFixup (spec : BootstrapExportSpec) (actualBase : BitVec 32)
    (state : Vector UInt8 20 × BitVec 32) (offset : ℕ) : Option (Vector UInt8 20 × BitVec 32) :=
  if spec.highlowMask &&& (1 <<< offset) = 0 then some state
  else if state.2 &&& (15 <<< offset) ≠ 0 then none
  else
    let value := read 32 ((state.1.toList.drop offset).take 4)
    let value := value+(actualBase-spec.preferredBase)
    some (splice offset (write 4 value) state.1,state.2 ||| (15 <<< offset))

def bootstrapExportPrefix (spec : BootstrapExportSpec) (actualBase : BitVec 32) :
    Option (Vector UInt8 20) :=
  if spec.highlowMask &&& ~~~0x1ffff ≠ 0 ∨ (spec.highlowMask ≠ 0 ∧
      (spec.preferredBase = 0 ∨ spec.preferredBase.toNat%65536 ≠ 0)) then none
  else ((List.range 17).foldlM (exportFixup spec actualBase) (spec.prefixBytes,0)).map Prod.fst

def profileIdBytes : List UInt8 :=
  asciiBytes "abcdefghijklmnopqrstuvwxyzABCDEFGHIJKLMNOPQRSTUVWXYZ0123456789._-"

def digestBytes : List UInt8 := asciiBytes "0123456789abcdef"

/-- The checks of one export of the spec, against itself and the exports before it. -/
def validExport (spec : BootstrapLifecycleSpec) (i : Fin 3) : Bool :=
  let e := spec.exports[i]
  (bootstrapExportPrefix e e.preferredBase).isSome &&
    e.rva ≠ 0 && e.rva ≤ BitVec.ofNat 32 (16*1024*1024-20) &&
    (List.finRange 3).all fun j => !(decide (j < i) &&
      e.rva < spec.exports[j].rva+20 && spec.exports[j].rva < e.rva+20)

def validBootstrapLifecycleSpec (spec : BootstrapLifecycleSpec) : Bool :=
  !spec.profileId.isEmpty && spec.profileId.length < 96 && spec.profileSourceDigest.length = 64 &&
    spec.profileId.all (profileIdBytes.contains ·) &&
    spec.profileSourceDigest.all (digestBytes.contains ·) &&
    (List.finRange 3).all (validExport spec)

/-- The object representation of a status, that `memcmp` looks at. -/
def BootstrapStatus.bytes (s : BootstrapStatus) : List UInt8 :=
  write 4 s.abiMajor.toBitVec++write 4 s.structBytes.toBitVec++write 4 s.state.toBitVec++
    write 4 s.reason.toBitVec++write 4 s.observationAttempts.toBitVec++
    write 4 s.canAttach.toBitVec++write 4 s.bindingsLoaded.toBitVec++
    write 4 s.reserved.toBitVec++s.observedProfileId.toList++s.profileSourceDigest.toList

/-- What the status after the call `index` has to be, when there is such a status. -/
def expectedBootstrapStatus (spec : BootstrapLifecycleSpec) (index : ℕ) (status : BootstrapStatus)
    (initialized : Option BootstrapStatus) : Option BootstrapStatus :=
  let zeroed : BootstrapStatus := {
    abiMajor := 0, structBytes := 0, state := 0, reason := 0, observationAttempts := 0
    canAttach := 0, bindingsLoaded := 0, reserved := 0
    observedProfileId := .replicate 96 0, profileSourceDigest := .replicate 64 0 }
  let expected := { zeroed with
    abiMajor := Bootstrap.abiMajor, structBytes := Bootstrap.statusBytes
    profileSourceDigest := copyInto spec.profileSourceDigest zeroed.profileSourceDigest }
  if index = 1 then
    let expected := { expected with observationAttempts := 1 }
    if status.state = Bootstrap.observedUnverified ∧
        status.reason = Bootstrap.runtimeUnverified then
      some { expected with
        state := status.state, reason := status.reason
        observedProfileId := copyInto spec.profileId expected.observedProfileId }
    else if status.state = Bootstrap.rejected ∧ status.reason ≥ Bootstrap.hostPath ∧
        status.reason ≤ Bootstrap.internalError ∧
        status.reason ≠ Bootstrap.runtimeUnverified then
      some { expected with state := status.state, reason := status.reason }
    else none
  else if index > 1 then
    match initialized with
    | none => none
    | some initialized =>
      some (if index ≥ 4 then { initialized with state := Bootstrap.stopped } else initialized)
  else some expected

def validBootstrapStatus (spec : BootstrapLifecycleSpec) (index : UInt32)
    (status : BootstrapStatus) (initialized : Option BootstrapStatus) : Bool :=
  if index.toNat ≥ bootstrapCallSequence.size ∨ status.abiMajor ≠ Bootstrap.abiMajor ∨
      status.structBytes ≠ Bootstrap.statusBytes ∨ status.canAttach ≠ 0 ∨
      status.bindingsLoaded ≠ 0 ∨ status.reserved ≠ 0 ∨
      status.profileSourceDigest.toList ≠ spec.profileSourceDigest then false
  else
    match expectedBootstrapStatus spec index.toNat status initialized with
    | none => false
    | some expected => expected.bytes = status.bytes

theorem write_injective {a b : UInt32} (h : write 4 a.toBitVec = write 4 b.toBitVec) : a = b := by
  apply UInt32.toBitVec_inj.mp
  have hw (v : UInt32) : read 32 (write 4 v.toBitVec) = v.toBitVec := read_write _ rfl
  rw [← hw a, h, hw]

/-- `memcmp` tells two statuses apart exactly when they differ: there is no padding. -/
theorem BootstrapStatus.bytes_injective {s t : BootstrapStatus} (h : s.bytes = t.bytes) : s = t := by
  have hl (v w : UInt32) : (write 4 v.toBitVec).length = (write 4 w.toBitVec).length := by
    rw [length_write, length_write]
  simp only [BootstrapStatus.bytes, List.append_assoc] at h
  obtain ⟨h1,h⟩ := List.append_inj h (hl ..)
  obtain ⟨h2,h⟩ := List.append_inj h (hl ..)
  obtain ⟨h3,h⟩ := List.append_inj h (hl ..)
  obtain ⟨h4,h⟩ := List.append_inj h (hl ..)
  obtain ⟨h5,h⟩ := List.append_inj h (hl ..)
  obtain ⟨h6,h⟩ := List.append_inj h (hl ..)
  obtain ⟨h7,h⟩ := List.append_inj h (hl ..)
  obtain ⟨h8,h⟩ := List.append_inj h (hl ..)
  obtain ⟨h9,h10⟩ := List.append_inj h (by rw [Vector.length_toList, Vector.length_toList])
  cases s
  cases t
  simp only [BootstrapStatus.mk.injEq]
  exact ⟨write_injective h1,write_injective h2,write_injective h3,write_injective h4,
    write_injective h5,write_injective h6,write_injective h7,write_injective h8,
    Vector.toList_inj.mp h9,Vector.toList_inj.mp h10⟩

end Saex
