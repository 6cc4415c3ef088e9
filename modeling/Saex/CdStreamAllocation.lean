import Saex.Alignment
import Saex.CdStreamDisk
import Saex.FileManagerReady
import Saex.LoaderCheckpoints

/-! engine/loader/cd_stream_allocation.cpp: the checkpoint where the CD streams allocate an
aligned buffer, and where in the allocated block the buffer has to be. -/
namespace Saex
open LittleEndian

structure CdStreamAllocationSpec where
  mallocRva : BitVec 32
  nhRva : BitVec 32
  heapRva : BitVec 32
  scopeRva : BitVec 32
  newModeRva : BitVec 32
  thresholdRva : BitVec 32
  heapHandleRva : BitVec 32
  heapModeRva : BitVec 32
  iatRva : BitVec 32
  scopeCleanupRva : BitVec 32
  function : BootstrapExportSpec
deriving DecidableEq

structure CdStreamAllocationCode where
  aligned : Vector UInt8 35
  malloc : Vector UInt8 18
  nh : Vector UInt8 21
  heapEntry : Vector UInt8 32
  heapTail : Vector UInt8 41
deriving DecidableEq

/-- The four bytes before the aligned buffer hold the address of the block. -/
structure CdStreamAllocationLayout where
  raw : BitVec 32 := 0
  aligned : BitVec 32 := 0
  metadata : BitVec 32 := 0
  bytes : BitVec 32 := 0
deriving DecidableEq

/-- The layout is cleared before the tests. -/
def cdStreamAllocationLayout (raw a : BitVec 32) : Bool × CdStreamAllocationLayout :=
  if !alignmentValid ⟨a⟩ || raw < 65536 || raw.toNat%8 ≠ 0 || raw > 0xffffffff-2048-a then (false,{})
  else
    let aligned := (raw+a) &&& ~~~(a-1)
    if aligned < raw+4 || aligned > raw+a then (false,{})
    else (true,⟨raw,aligned,aligned-4,2048+a⟩)

def alignedAllocatorRaw : Vector UInt8 35 :=
  #v[0x8b,0x44,0x24,0x04,0x56,0x8b,0x74,0x24,0x0c,0x03,0xc6,0x50,0xe8,0,0,0,0,
    0x8b,0xc8,0x8d,0x04,0x31,0x83,0xc4,0x04,0x4e,0xf7,0xd6,0x23,0xc6,0x89,0x48,0xfc,0x5e,0xc3]

def mallocRaw : Vector UInt8 18 :=
  #v[0xff,0x35,0,0,0,0,0xff,0x74,0x24,0x08,0xe8,0,0,0,0,0x59,0x59,0xc3]

def newHandlerMallocRaw : Vector UInt8 21 :=
  #v[0x83,0x7c,0x24,0x04,0xe0,0x77,0x22,0xff,0x74,0x24,0x04,0xe8,0,0,0,0,0x85,0xc0,0x59,0x75,0x16]

def heapEntryRaw : Vector UInt8 32 :=
  #v[0x6a,0x0c,0x68,0,0,0,0,0xe8,0,0,0,0,0x8b,0x75,0x08,0x83,0x3d,0,0,0,0,0x03,0x75,0x2e,
    0x3b,0x35,0,0,0,0,0x77,0x26]

def heapTailRaw : Vector UInt8 41 :=
  #v[0x85,0xf6,0x75,0x01,0x46,0x83,0x3d,0,0,0,0,0x01,0x74,0x06,0x83,0xc6,0x0f,0x83,0xe6,0xf0,
    0x56,0x6a,0,0xff,0x35,0,0,0,0,0xff,0x15,0,0,0,0,0xe8,0,0,0,0,0xc3]

def cdStreamAllocationCode (s : CdStreamAllocationSpec) (disk : CdStreamDiskSpec)
    (m : FileManagerEntrySpec) (seh : CwdSehSpec) (ready : FileManagerReadySpec) :
    Option CdStreamAllocationCode :=
  let base := m.manager.imageBase
  let size := m.manager.imageSize
  if size < 4096 || base > 0xffffffff-size || s.function.rva < 4096 ||
      s.function.rva > 16*1024*1024-20 ||
      (bootstrapExportPrefix s.function s.function.preferredBase).isNone ||
      !validSpans size [(disk.allocatorRva,35),(s.mallocRva,18),(s.nhRva,44),(s.heapRva,111),
        (s.scopeRva,12),(s.newModeRva,4),(s.thresholdRva,4),(s.heapHandleRva,4),(s.heapModeRva,4),
        (s.iatRva,4),(seh.prologue.targetRva,59),(ready.epilogueRva,17),(m.bufferRva-4,136),
        (disk.flagsRva-4,20),(s.scopeCleanupRva,1)] ||
      [s.scopeRva,s.newModeRva,s.thresholdRva,s.heapHandleRva,s.heapModeRva,s.iatRva].any
        (·.toNat%4 ≠ 0) then none
  else some {
    aligned := writeDword 13 (s.mallocRva-disk.allocatorRva-17) alignedAllocatorRaw
    malloc := writeDword 11 (s.nhRva-s.mallocRva-15) (writeDword 2 (base+s.newModeRva) mallocRaw)
    nh := writeDword 12 (s.heapRva-s.nhRva-16) newHandlerMallocRaw
    heapEntry := writeDword 26 (base+s.thresholdRva) (writeDword 17 (base+s.heapModeRva)
      (writeDword 8 (seh.prologue.targetRva-s.heapRva-12) (writeDword 3 (base+s.scopeRva)
        heapEntryRaw)))
    heapTail := writeDword 36 (ready.epilogueRva-(s.heapRva+70)-40)
      (writeDword 31 (base+s.iatRva) (writeDword 25 (base+s.heapHandleRva)
        (writeDword 7 (base+s.heapModeRva) heapTailRaw))) }

/-- `test_flags` -/
def testFlags (v : BitVec 32) : BitVec 32 :=
  (if popcount (v &&& 255)%2 = 0 then 4 else 0 : BitVec 32) ||| (if v = 0 then 64 else 0 : BitVec 32) |||
    ((v >>> 24) &&& 128 : BitVec 32)

/-- `returned` are the registers at the return of HeapAlloc. -/
def cdStreamAllocationFrame (stage : ℕ) (c r : DispatchRegisters) (a : BitVec 32)
    (b : CdStreamAllocationLayout) (returned : DispatchRegisters) : Bool :=
  if stage < 1 || stage > 10 || c.esp < 65700 || c.esp.toNat%4 ≠ 0 || !alignmentValid ⟨a⟩ ||
      c.flags &&& 0x500 ≠ 0 || r.flags &&& 0x500 ≠ 0 || r.ebx ≠ c.ebx || r.edi ≠ c.edi then false
  else
    let active := stage ≥ 3 && stage ≤ 7
    if r.ebp ≠ (if active then c.esp-40 else c.ebp) ||
        r.esi ≠ (if active then 2048+a else if stage = 9 then ~~~(a-1)
          else if stage ≥ 2 && stage ≤ 8 then a else c.esi) then false
    else if r.esp ≠ c.esp-[0,4,36,80,80,92,96,80,12,8,0].getD stage 0 then false
    else if stage = 1 then r.eax = c.eax && r.ecx = c.ecx && r.edx = c.edx &&
      (r.flags ^^^ c.flags) &&& ~~~0x10000 = 0
    else if stage = 2 then r.eax = 2048+a && r.ecx = c.ecx && r.edx = c.edx
    else if stage ≥ 3 && stage ≤ 6 then r.eax = c.esp-56 && r.ecx = c.ecx && r.edx = c.edx
    -- The Windows ABI permits volatile registers and flags to change.
    else if stage = 7 then true
    else if b.raw = 0 then false
    else if stage = 8 then r.eax = b.raw && r.ecx = 0 && r.edx = returned.edx &&
      r.flags &&& 0x8c5 = testFlags b.raw
    else r.eax = b.aligned && r.ecx = b.raw && r.edx = returned.edx &&
      r.flags &&& 0x8c5 = testFlags b.aligned && (r.flags ^^^ returned.flags) &&& ~~~0x108d5 = 0

/-! The layout in the naturals. -/

/-- What the first test of the layout asks for. -/
structure Allocatable (raw a : BitVec 32) : Prop where
  alignment : ∃ k, a.toNat = 2^k
  least : 512 ≤ a.toNat
  most : a.toNat ≤ 65536
  raw_least : 65536 ≤ raw.toNat
  raw_dvd : 8 ∣ raw.toNat
  fits : raw.toNat+2048+a.toNat ≤ 2^32-1

theorem alignmentValid_iff (a : BitVec 32) :
    alignmentValid ⟨a⟩ = true ↔ (∃ k, a.toNat = 2^k) ∧ 512 ≤ a.toNat ∧ a.toNat ≤ 65536 := by
  have hle (x y : BitVec 32) : (⟨x⟩ : UInt32) ≤ ⟨y⟩ ↔ x.toNat ≤ y.toNat := Iff.rfl
  have hmask : (⟨a⟩ : UInt32) &&& (⟨a⟩-1) = 0 ↔ a &&& (a-1) = 0 := UInt32.toBitVec_inj.symm
  have hbounds : 512 ≤ a.toNat ∧ a.toNat ≤ 65536 → (a &&& (a-1) = 0 ↔ ∃ k, a.toNat = 2^k) :=
    fun h => Alignment.and_pred_eq_zero_iff (by omega)
  unfold alignmentValid
  simp only [Bool.and_eq_true, decide_eq_true_eq, hmask]
  constructor
  · intro ⟨⟨h512,h65536⟩,hpow⟩
    exact ⟨(hbounds ⟨h512,h65536⟩).mp hpow,h512,h65536⟩
  · intro ⟨hpow,h512,h65536⟩
    exact ⟨⟨h512,h65536⟩,(hbounds ⟨h512,h65536⟩).mpr hpow⟩

/-- What the layout says in the naturals, where nothing wraps. -/
structure PlacedLayout (raw a : BitVec 32) (b : CdStreamAllocationLayout) : Prop where
  raw_eq : b.raw = raw
  aligned : b.aligned.toNat = (raw.toNat+a.toNat)/a.toNat*a.toNat
  metadata : b.metadata.toNat+4 = b.aligned.toNat
  bytes : b.bytes.toNat = 2048+a.toNat
  above : raw.toNat+8 ≤ b.aligned.toNat
  below : b.aligned.toNat ≤ raw.toNat+a.toNat

theorem layout_of_allocatable {raw a : BitVec 32} (h : Allocatable raw a) :
    ∃ b, cdStreamAllocationLayout raw a = (true,b) ∧ PlacedLayout raw a b := by
  obtain ⟨⟨k,hk⟩,hleast,hmost,hraw,hdvd,hfits⟩ := h
  have hsum : (raw+a).toNat = raw.toNat+a.toNat := by
    rw [BitVec.toNat_add, Nat.mod_eq_of_lt (by omega)]
  have haligned : ((raw+a) &&& ~~~(a-1)).toNat = (raw.toNat+a.toNat)/a.toNat*a.toNat := by
    rw [Alignment.toNat_and_not_pred hk, hsum, ← hk]
  have hnext := Alignment.isLeast_next (show 0 < a.toNat by omega) raw.toNat
  have hbelow : (raw.toNat+a.toNat)/a.toNat*a.toNat ≤ raw.toNat+a.toNat := Nat.div_mul_le_self ..
  -- Both addresses are multiples of eight, so between them there is room for the metadata.
  have height : 8 ∣ a.toNat := by
    have hk3 : 3 ≤ k := by
      by_contra hsmall
      have hlt : 2^k < 2^3 := Nat.pow_lt_pow_right (by decide) (not_le.mp hsmall)
      omega
    rw [hk]
    exact Nat.pow_dvd_pow 2 hk3
  have hmultiple : 8 ∣ (raw.toNat+a.toNat)/a.toNat*a.toNat := height.trans hnext.1.1
  have habove : raw.toNat+8 ≤ (raw.toNat+a.toNat)/a.toNat*a.toNat := by
    have hlt : raw.toNat < (raw.toNat+a.toNat)/a.toNat*a.toNat := hnext.1.2
    omega
  have hfirst : ¬(!alignmentValid ⟨a⟩ || decide (raw < 65536) || decide (raw.toNat%8 ≠ 0) ||
      decide (raw > 0xffffffff-2048-a)) = true := by
    have hvalid := (alignmentValid_iff a).mpr ⟨⟨k,hk⟩,hleast,hmost⟩
    simp only [hvalid, Bool.not_true, Bool.false_or, Bool.or_eq_true, decide_eq_true_eq]
    bv_omega
  have hsecond : ¬(decide ((raw+a) &&& ~~~(a-1) < raw+4) ||
      decide ((raw+a) &&& ~~~(a-1) > raw+a)) = true := by
    simp only [Bool.or_eq_true, decide_eq_true_eq, BitVec.lt_def, GT.gt, haligned, hsum]
    bv_omega
  refine ⟨_,by rw [cdStreamAllocationLayout, if_neg hfirst, if_neg hsecond],?_⟩
  refine ⟨rfl,haligned,?_,?_,?_,?_⟩
  · change (((raw+a) &&& ~~~(a-1))-4).toNat+4 = ((raw+a) &&& ~~~(a-1)).toNat
    bv_omega
  · change (2048+a).toNat = _
    bv_omega
  · exact habove.trans_eq haligned.symm
  · exact haligned.trans_le hbelow

theorem allocatable_of_layout {raw a : BitVec 32} (h : (cdStreamAllocationLayout raw a).1 = true) :
    Allocatable raw a := by
  unfold cdStreamAllocationLayout at h
  split at h
  · cases h
  · next hfirst =>
    simp only [Bool.or_eq_true, Bool.not_eq_true', decide_eq_true_eq, not_or, Bool.not_eq_false,
      not_not, alignmentValid_iff] at hfirst
    obtain ⟨⟨⟨⟨hpow,hleast,hmost⟩,hraw⟩,hdvd⟩,hfits⟩ := hfirst
    exact ⟨hpow,hleast,hmost,not_lt.mp hraw,Nat.dvd_of_mod_eq_zero hdvd,by bv_omega⟩

end Saex
