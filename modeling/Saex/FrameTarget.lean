import Saex.Ia32Listing

/-! engine/loader/frame_target.cpp: a reviewed CALL in the image and the code it leads to. -/
namespace Saex
open LittleEndian WrappedMemory Ia32

structure FrameTargetSpec where
  imageBase : BitVec 32
  imageSize : BitVec 32
  callRva : BitVec 32
  targetRva : BitVec 32
  call : Vector UInt8 5
  targetPrefix : Vector UInt8 16
deriving DecidableEq

def validFrameTargetSpec (s : FrameTargetSpec) : Bool :=
  !(s.imageBase = 0 || s.imageBase.toNat%65536 ≠ 0 || s.imageSize < 4096 ||
    s.imageSize > 256*1024*1024 || s.imageBase > 0xffffffff-s.imageSize ||
    s.callRva < 4096 || s.targetRva < 4096 ||
    -- The sizes of the arrays are `std::size_t`; with an image of this size nothing wraps.
    s.callRva.toNat > s.imageSize.toNat-5 || s.targetRva.toNat > s.imageSize.toNat-16 ||
    (s.callRva.toNat < s.targetRva.toNat+16 && s.targetRva.toNat < s.callRva.toNat+5) ||
    s.call[0] ≠ 0xe8) &&
  (s.callRva.toNat : ℤ)+5+(read 32 (s.call.toList.drop 1)).toInt = s.targetRva.toNat

/-- No two spans of the image overlap. -/
def disjointSpans (spans : List (BitVec 32 × BitVec 32)) : Bool :=
  spans.Pairwise fun y x => !(x.1 < y.1+y.2 && y.1 < x.1+x.2)

namespace FrameTargetSpec

/-- Where the CALL is, what follows it and where it leads. -/
def callAddress (s : FrameTargetSpec) : BitVec 32 := s.imageBase+s.callRva
def returnAddress (s : FrameTargetSpec) : BitVec 32 := s.imageBase+s.callRva+5
def targetAddress (s : FrameTargetSpec) : BitVec 32 := s.imageBase+s.targetRva

/-- The distance in the CALL. -/
def distance (s : FrameTargetSpec) : BitVec 32 := read 32 (s.call.toList.drop 1)

variable {s : FrameTargetSpec} (h : validFrameTargetSpec s)
include h

/-- A valid CALL is one. -/
theorem encodes_call : Encodes s.call.toList (.call s.distance) := by
  have hopcode : s.call[0] = 0xe8 := by
    simp only [validFrameTargetSpec, Bool.and_eq_true, Bool.not_eq_true', Bool.or_eq_false_iff,
      decide_eq_false_iff_not, not_not] at h
    exact h.1.2
  obtain ⟨a,b,c,d,e,hbytes⟩ : ∃ a b c d e, s.call.toList = [a,b,c,d,e] := by
    match s.call.toList, (Vector.length_toList : s.call.toList.length = 5) with
    | [a,b,c,d,e], _ => exact ⟨a,b,c,d,e,rfl⟩
  have hfirst : a = 0xe8 := by
    have hget : s.call.toList[0]? = some s.call[0] := by simp
    rw [hbytes, hopcode] at hget
    exact Option.some.inj hget
  rw [distance, hbytes, hfirst]
  exact ⟨by simp,fun rest => rfl⟩

/-- The image ends before the addresses do, and the CALL and the target are in it. -/
theorem inside : s.imageBase.toNat+s.imageSize.toNat < 2^32 ∧ 4096 ≤ s.imageSize.toNat ∧
    s.imageSize.toNat ≤ 2^28 ∧ 4096 ≤ s.callRva.toNat ∧ s.callRva.toNat+5 ≤ s.imageSize.toNat ∧
    4096 ≤ s.targetRva.toNat ∧ s.targetRva.toNat+16 ≤ s.imageSize.toNat := by
  simp only [validFrameTargetSpec, Bool.and_eq_true, Bool.not_eq_true', Bool.or_eq_false_iff,
    decide_eq_false_iff_not] at h
  obtain ⟨⟨⟨⟨⟨⟨⟨⟨⟨⟨_,hleast⟩,hmost⟩,hbase⟩,hcall⟩,htarget⟩,hcall'⟩,htarget'⟩,_⟩,_⟩,_⟩ := h
  bv_omega

/-- It leads to the target. -/
theorem returnAddress_distance : s.returnAddress+s.distance = s.targetAddress := by
  have hsum : (s.callRva.toNat : ℤ)+5+s.distance.toInt = s.targetRva.toNat := by
    simp only [validFrameTargetSpec, Bool.and_eq_true, decide_eq_true_eq] at h
    exact h.2
  have htarget : s.callRva+5+s.distance = s.targetRva := by
    apply BitVec.eq_of_toNat_eq
    have hlow := s.callRva.isLt
    have htop := s.targetRva.isLt
    rw [BitVec.toInt_eq_toNat_cond] at hsum
    rw [BitVec.toNat_add, BitVec.toNat_add]
    simp only [BitVec.ofNat_eq_ofNat, BitVec.toNat_ofNat]
    split at hsum <;> omega
  rw [returnAddress, targetAddress, ← htarget]
  ring

/-- What the CALL does. -/
theorem step_call {code : Memory} {m : Machine} (heip : m.eip = s.callAddress)
    (hcode : HasBytes code s.callAddress s.call.toList) :
    step code m = some
      { m with
        regs := { m.regs with esp := m.regs.esp-4 }
        flags := blend m.flags resumeFlag 0
        eip := s.targetAddress
        mem := setWord m.mem (m.regs.esp-4) s.returnAddress } := by
  rw [step_of_encodes (encodes_call h) (by rwa [heip]), Vector.length_toList]
  have hreturn : m.eip+5 = s.returnAddress := by rw [heip, callAddress, returnAddress]
  simp only [Machine.after, Machine.execute, Machine.push, Machine.setReg, Registers.set,
    ← returnAddress_distance h, ← hreturn, BitVec.ofNat_eq_ofNat]

end FrameTargetSpec
end Saex
