import Saex.CdStreamAllocation
import Saex.CdStreamDiskRun
import Saex.FileManagerReadyRun
import Saex.Ia32Paths

/-! The code that the checkpoint pins, executed from the CALL of the allocator until it returns: the
size is passed down to the heap, which installs a handler and calls HeapAlloc; the address of the
block is passed up, aligned, and kept before the buffer. -/
namespace Saex
open LittleEndian WrappedMemory Ia32

/-! What the bytes of `cdStreamAllocationCode` stand for. -/

def pushBytesListing (malloc : BitVec 32) : Listing :=
  [([0x8b,0x44,0x24,4],.mov (.reg .eax) (.mem { base := some .esp, displacement := 4 })),
   ([0x56],.push (.reg .esi)),
   ([0x8b,0x74,0x24,0x0c],.mov (.reg .esi) (.mem { base := some .esp, displacement := 12 })),
   ([3,0xc6],.alu .add (.reg .eax) (.reg .esi)),
   ([0x50],.push (.reg .eax)),
   (0xe8 :: write 4 malloc,.call (dword malloc))]

def alignListing : Listing :=
  [([0x8b,0xc8],.mov (.reg .ecx) (.reg .eax)),
   ([0x8d,4,0x31],.lea .eax { base := some .ecx, index := some (.esi,0) }),
   ([0x83,0xc4,4],.alu .add (.reg .esp) (.imm 4)),
   ([0x4e],.dec .esi),
   ([0xf7,0xd6],.not .esi),
   ([0x23,0xc6],.alu .and (.reg .eax) (.reg .esi))]

def keepBlockListing : Listing :=
  [([0x89,0x48,0xfc],.mov (.mem { base := some .eax, displacement := -4 }) (.reg .ecx)),
   ([0x5e],.pop .esi),
   ([0xc3],.ret)]

def mallocListing (mode nh : BitVec 32) : Listing :=
  [([0xff,0x35]++write 4 mode,.push (.mem { displacement := dword mode })),
   ([0xff,0x74,0x24,8],.push (.mem { base := some .esp, displacement := 8 })),
   (0xe8 :: write 4 nh,.call (dword nh))]

def popTwoListing : Listing :=
  [([0x59],.pop .ecx),
   ([0x59],.pop .ecx),
   ([0xc3],.ret)]

/-- Sizes near the end of memory are refused. -/
def limitListing : Listing :=
  [([0x83,0x7c,0x24,4,0xe0],
    .alu .cmp (.mem { base := some .esp, displacement := 4 }) (.imm (-32))),
   ([0x77,0x22],.jcc .carryOrZero false 0x22)]

def heapCallListing (heap : BitVec 32) : Listing :=
  [([0xff,0x74,0x24,4],.push (.mem { base := some .esp, displacement := 4 })),
   (0xe8 :: write 4 heap,.call (dword heap))]

def testBlockListing : Listing :=
  [([0x85,0xc0],.test (.reg .eax) (.reg .eax)),
   ([0x59],.pop .ecx),
   ([0x75,0x16],.jcc .zero false 0x16)]

def heapPrologueListing (scope prologue : BitVec 32) : Listing :=
  [([0x6a,0x0c],.push (.imm 12)),
   (0x68 :: write 4 scope,.push (.imm (dword scope))),
   (0xe8 :: write 4 prologue,.call (dword prologue))]

def compareModeListing (mode : BitVec 32) : Listing :=
  [([0x8b,0x75,8],.mov (.reg .esi) (.mem { base := some .ebp, displacement := 8 })),
   ([0x83,0x3d]++(write 4 mode++[3]),.alu .cmp (.mem { displacement := dword mode }) (.imm 3))]

def modeBranchListing : Listing := [([0x75,0x2e],.jcc .zero false 0x2e)]

def compareThresholdListing (threshold : BitVec 32) : Listing :=
  [([0x3b,0x35]++write 4 threshold,.alu .cmp (.reg .esi) (.mem { displacement := dword threshold }))]

def thresholdBranchListing : Listing := [([0x77,0x26],.jcc .carryOrZero false 0x26)]

def testBytesListing : Listing :=
  [([0x85,0xf6],.test (.reg .esi) (.reg .esi)),
   ([0x75,1],.jcc .zero false 1)]

def plainModeListing (mode : BitVec 32) : Listing :=
  [([0x83,0x3d]++(write 4 mode++[1]),.alu .cmp (.mem { displacement := dword mode }) (.imm 1)),
   ([0x74,6],.jcc .zero true 6)]

/-- To a multiple of sixteen. -/
def roundBytesListing : Listing :=
  [([0x83,0xc6,0x0f],.alu .add (.reg .esi) (.imm 15)),
   ([0x83,0xe6,0xf0],.alu .and (.reg .esi) (.imm (-16)))]

def heapArgumentsListing (handle : BitVec 32) : Listing :=
  [([0x56],.push (.reg .esi)),
   ([0x6a,0],.push (.imm 0)),
   ([0xff,0x35]++write 4 handle,.push (.mem { displacement := dword handle }))]

def callListing (distance : BitVec 32) : Listing := [(0xe8 :: write 4 distance,.call (dword distance))]

theorem straight_pushBytesListing (malloc : BitVec 32) : Straight (pushBytesListing malloc) := by
  iterate 5 refine straight_cons ⟨by simp,fun _ => rfl⟩ trivial ?_
  exact straight_singleton ⟨by simp,fun _ => rfl⟩

theorem straight_alignListing : Straight alignListing := by
  iterate 5 refine straight_cons ⟨by simp,fun _ => rfl⟩ trivial ?_
  exact straight_singleton ⟨by simp,fun _ => rfl⟩

theorem straight_keepBlockListing : Straight keepBlockListing := by
  iterate 2 refine straight_cons ⟨by simp,fun _ => rfl⟩ trivial ?_
  exact straight_singleton ⟨by simp,fun _ => rfl⟩

theorem straight_mallocListing (mode nh : BitVec 32) : Straight (mallocListing mode nh) := by
  iterate 2 refine straight_cons ⟨by simp,fun _ => rfl⟩ trivial ?_
  exact straight_singleton ⟨by simp,fun _ => rfl⟩

theorem straight_popTwoListing : Straight popTwoListing := by
  iterate 2 refine straight_cons ⟨by simp,fun _ => rfl⟩ trivial ?_
  exact straight_singleton ⟨by simp,fun _ => rfl⟩

theorem straight_limitListing : Straight limitListing := by
  refine straight_cons ⟨by simp,fun _ => rfl⟩ trivial ?_
  exact straight_singleton ⟨by simp,fun _ => rfl⟩

theorem straight_heapCallListing (heap : BitVec 32) : Straight (heapCallListing heap) := by
  refine straight_cons ⟨by simp,fun _ => rfl⟩ trivial ?_
  exact straight_singleton ⟨by simp,fun _ => rfl⟩

theorem straight_testBlockListing : Straight testBlockListing := by
  iterate 2 refine straight_cons ⟨by simp,fun _ => rfl⟩ trivial ?_
  exact straight_singleton ⟨by simp,fun _ => rfl⟩

theorem straight_heapPrologueListing (scope prologue : BitVec 32) :
    Straight (heapPrologueListing scope prologue) := by
  iterate 2 refine straight_cons ⟨by simp,fun _ => rfl⟩ trivial ?_
  exact straight_singleton ⟨by simp,fun _ => rfl⟩

theorem straight_compareModeListing (mode : BitVec 32) : Straight (compareModeListing mode) := by
  refine straight_cons ⟨by simp,fun _ => rfl⟩ trivial ?_
  exact straight_singleton ⟨by simp,fun _ => rfl⟩

theorem straight_modeBranchListing : Straight modeBranchListing :=
  straight_singleton ⟨by simp,fun _ => rfl⟩

theorem straight_compareThresholdListing (threshold : BitVec 32) :
    Straight (compareThresholdListing threshold) := straight_singleton ⟨by simp,fun _ => rfl⟩

theorem straight_thresholdBranchListing : Straight thresholdBranchListing :=
  straight_singleton ⟨by simp,fun _ => rfl⟩

theorem straight_testBytesListing : Straight testBytesListing := by
  refine straight_cons ⟨by simp,fun _ => rfl⟩ trivial ?_
  exact straight_singleton ⟨by simp,fun _ => rfl⟩

theorem straight_plainModeListing (mode : BitVec 32) : Straight (plainModeListing mode) := by
  refine straight_cons ⟨by simp,fun _ => rfl⟩ trivial ?_
  exact straight_singleton ⟨by simp,fun _ => rfl⟩

theorem straight_roundBytesListing : Straight roundBytesListing := by
  refine straight_cons ⟨by simp,fun _ => rfl⟩ trivial ?_
  exact straight_singleton ⟨by simp,fun _ => rfl⟩

theorem straight_heapArgumentsListing (handle : BitVec 32) :
    Straight (heapArgumentsListing handle) := by
  iterate 2 refine straight_cons ⟨by simp,fun _ => rfl⟩ trivial ?_
  exact straight_singleton ⟨by simp,fun _ => rfl⟩

theorem straight_callListing (distance : BitVec 32) : Straight (callListing distance) :=
  straight_singleton ⟨by simp,fun _ => rfl⟩

variable {s : CdStreamAllocationSpec} {disk : CdStreamDiskSpec} {t : CdStreamTablesSpec}
  {p : FileManagerEntrySpec} {seh : CwdSehSpec} {ready : FileManagerReadySpec}
  {c : CdStreamAllocationCode} {a : BitVec 32} {code : Memory} {m : Machine}

/-! Where the code and the globals are. -/

def CdStreamDiskSpec.allocator (disk : CdStreamDiskSpec) (p : FileManagerEntrySpec) : Address :=
  p.manager.imageBase+disk.allocatorRva

namespace CdStreamAllocationSpec

def malloc (s : CdStreamAllocationSpec) (p : FileManagerEntrySpec) : Address :=
  p.manager.imageBase+s.mallocRva
def nh (s : CdStreamAllocationSpec) (p : FileManagerEntrySpec) : Address :=
  p.manager.imageBase+s.nhRva
def heap (s : CdStreamAllocationSpec) (p : FileManagerEntrySpec) : Address :=
  p.manager.imageBase+s.heapRva
def scope (s : CdStreamAllocationSpec) (p : FileManagerEntrySpec) : Address :=
  p.manager.imageBase+s.scopeRva
def newMode (s : CdStreamAllocationSpec) (p : FileManagerEntrySpec) : Address :=
  p.manager.imageBase+s.newModeRva
def threshold (s : CdStreamAllocationSpec) (p : FileManagerEntrySpec) : Address :=
  p.manager.imageBase+s.thresholdRva
def heapHandle (s : CdStreamAllocationSpec) (p : FileManagerEntrySpec) : Address :=
  p.manager.imageBase+s.heapHandleRva
def heapMode (s : CdStreamAllocationSpec) (p : FileManagerEntrySpec) : Address :=
  p.manager.imageBase+s.heapModeRva
def iat (s : CdStreamAllocationSpec) (p : FileManagerEntrySpec) : Address :=
  p.manager.imageBase+s.iatRva

/-- The four globals. -/
def globals (s : CdStreamAllocationSpec) (p : FileManagerEntrySpec) (mem : Memory) :
    AllocationGlobals :=
  ⟨⟨word mem (s.newMode p)⟩,⟨word mem (s.threshold p)⟩,⟨word mem (s.heapHandle p)⟩,
    ⟨word mem (s.heapMode p)⟩⟩

end CdStreamAllocationSpec

def CwdSehSpec.prologueAddress (seh : CwdSehSpec) (p : FileManagerEntrySpec) : Address :=
  p.manager.imageBase+seh.prologue.targetRva

def FileManagerReadySpec.epilogueAddress (ready : FileManagerReadySpec) (p : FileManagerEntrySpec) :
    Address :=
  p.manager.imageBase+ready.epilogueRva

theorem cdStreamAllocationCode_eq (h : cdStreamAllocationCode s disk p seh ready = some c) :
    c.aligned.toList = encoding (pushBytesListing (s.mallocRva-disk.allocatorRva-17))++
        (encoding alignListing++encoding keepBlockListing) ∧
      c.malloc.toList = encoding (mallocListing (s.newMode p) (s.nhRva-s.mallocRva-15))++
        encoding popTwoListing ∧
      c.nh.toList = encoding limitListing++(encoding (heapCallListing (s.heapRva-s.nhRva-16))++
        encoding testBlockListing) ∧
      c.heapEntry.toList = encoding (heapPrologueListing (s.scope p)
          (seh.prologue.targetRva-s.heapRva-12))++(encoding (compareModeListing (s.heapMode p))++
        (encoding modeBranchListing++(encoding (compareThresholdListing (s.threshold p))++
          encoding thresholdBranchListing))) ∧
      c.heapTail.toList = encoding testBytesListing++([0x46]++
        (encoding (plainModeListing (s.heapMode p))++(encoding roundBytesListing++
          (encoding (heapArgumentsListing (s.heapHandle p))++(([0xff,0x15]++write 4 (s.iat p))++
            (encoding (callListing (ready.epilogueRva-(s.heapRva+70)-40))++
              encoding returnListing)))))) := by
  dsimp only [cdStreamAllocationCode] at h
  split at h
  · contradiction
  rw [← Option.some.inj h]
  refine ⟨?_,?_,?_,?_,?_⟩
  · rw [toList_writeDword (by decide)]
    rfl
  · rw [toList_writeDword (by decide), toList_writeDword (by decide)]
    rfl
  · rw [toList_writeDword (by decide)]
    rfl
  · rw [toList_writeDword (by decide), toList_writeDword (by decide), toList_writeDword (by decide),
      toList_writeDword (by decide)]
    rfl
  · rw [toList_writeDword (by decide), toList_writeDword (by decide), toList_writeDword (by decide),
      toList_writeDword (by decide)]
    rfl

/-- The code in memory: the CALL, the four routines, the prologue and the epilogue. -/
structure CdStreamAllocationLoaded (s : CdStreamAllocationSpec) (disk : CdStreamDiskSpec)
    (t : CdStreamTablesSpec) (p : FileManagerEntrySpec) (seh : CwdSehSpec)
    (ready : FileManagerReadySpec) (c : CdStreamAllocationCode) (code : Memory) : Prop where
  emits : cdStreamAllocationCode s disk p seh ready = some c
  caller : ∃ d, CdStreamDiskLoaded disk t p d code
  aligned : HasBytes code (disk.allocator p) c.aligned.toList
  malloc : HasBytes code (s.malloc p) c.malloc.toList
  nh : HasBytes code (s.nh p) c.nh.toList
  /-- Where the branch behind the test goes. -/
  nhReturn : HasBytes code (s.nh p+43) [0xc3]
  heapEntry : HasBytes code (s.heap p) c.heapEntry.toList
  heapTail : HasBytes code (s.heap p+70) c.heapTail.toList
  prologue : ∃ k, cwdSehCode seh = some k ∧ HasBytes code (seh.prologueAddress p) k.prologue.toList
  epilogue : ∃ q l k, fileManagerReadyCode ready q l seh p = some k ∧
    HasBytes code (ready.epilogueAddress p) k.epilogue.toList

namespace CdStreamAllocationLoaded
variable (h : CdStreamAllocationLoaded s disk t p seh ready c code)
include h

theorem call_bytes : HasBytes code (t.target p+132)
    (encoding (callListing (disk.allocatorRva-t.targetRva-137))) := by
  obtain ⟨d,hdisk⟩ := h.caller
  have hbytes := hdisk.body
  rw [cdStreamDiskCode_eq hdisk.emits, hasBytes_append, hasBytes_append, hasBytes_append,
    hasBytes_append, hasBytes_append] at hbytes
  have hplace : t.target p+132 = t.target p+68+2+4+14+5+39 := by ring
  rw [hplace]
  exact hbytes.2.2.2.2.2

theorem aligned_bytes :
    HasBytes code (disk.allocator p) (encoding (pushBytesListing (s.mallocRva-disk.allocatorRva-17))) ∧
      HasBytes code (disk.allocator p+17) (encoding alignListing) ∧
      HasBytes code (disk.allocator p+30) (encoding keepBlockListing) := by
  have hbytes := h.aligned
  rw [(cdStreamAllocationCode_eq h.emits).1, hasBytes_append, hasBytes_append] at hbytes
  have hkeep : disk.allocator p+30 = disk.allocator p+17+13 := by ring
  rw [hkeep]
  exact hbytes

theorem malloc_bytes :
    HasBytes code (s.malloc p) (encoding (mallocListing (s.newMode p) (s.nhRva-s.mallocRva-15))) ∧
      HasBytes code (s.malloc p+15) (encoding popTwoListing) := by
  have hbytes := h.malloc
  rw [(cdStreamAllocationCode_eq h.emits).2.1, hasBytes_append] at hbytes
  exact hbytes

theorem nh_bytes : HasBytes code (s.nh p) (encoding limitListing) ∧
      HasBytes code (s.nh p+7) (encoding (heapCallListing (s.heapRva-s.nhRva-16))) ∧
      HasBytes code (s.nh p+16) (encoding testBlockListing) := by
  have hbytes := h.nh
  rw [(cdStreamAllocationCode_eq h.emits).2.2.1, hasBytes_append, hasBytes_append] at hbytes
  have htest : s.nh p+16 = s.nh p+7+9 := by ring
  rw [htest]
  exact hbytes

theorem heapEntry_bytes : HasBytes code (s.heap p)
        (encoding (heapPrologueListing (s.scope p) (seh.prologue.targetRva-s.heapRva-12))) ∧
      HasBytes code (s.heap p+12) (encoding (compareModeListing (s.heapMode p))) ∧
      HasBytes code (s.heap p+22) (encoding modeBranchListing) ∧
      HasBytes code (s.heap p+24) (encoding (compareThresholdListing (s.threshold p))) ∧
      HasBytes code (s.heap p+30) (encoding thresholdBranchListing) := by
  have hbytes := h.heapEntry
  rw [(cdStreamAllocationCode_eq h.emits).2.2.2.1, hasBytes_append, hasBytes_append,
    hasBytes_append, hasBytes_append] at hbytes
  have hmode : s.heap p+22 = s.heap p+12+10 := by ring
  have hcompare : s.heap p+24 = s.heap p+12+10+2 := by ring
  have hthreshold : s.heap p+30 = s.heap p+12+10+2+6 := by ring
  rw [hthreshold, hcompare, hmode]
  exact hbytes

theorem heapTail_bytes : HasBytes code (s.heap p+70) (encoding testBytesListing) ∧
      HasBytes code (s.heap p+75) (encoding (plainModeListing (s.heapMode p))) ∧
      HasBytes code (s.heap p+84) (encoding roundBytesListing) ∧
      HasBytes code (s.heap p+90) (encoding (heapArgumentsListing (s.heapHandle p))) ∧
      HasBytes code (s.heap p+99) ([0xff,0x15]++write 4 (s.iat p)) ∧
      HasBytes code (s.heap p+105) (encoding (callListing (ready.epilogueRva-(s.heapRva+70)-40))) ∧
      HasBytes code (s.heap p+110) (encoding returnListing) := by
  have hbytes := h.heapTail
  rw [(cdStreamAllocationCode_eq h.emits).2.2.2.2, hasBytes_append, hasBytes_append,
    hasBytes_append, hasBytes_append, hasBytes_append, @hasBytes_append _ _ ([0xff,0x15]++_),
    @hasBytes_append _ _ (encoding (callListing _))] at hbytes
  have hplain : s.heap p+75 = s.heap p+70+4+1 := by ring
  have hround : s.heap p+84 = s.heap p+70+4+1+9 := by ring
  have hpush : s.heap p+90 = s.heap p+70+4+1+9+6 := by ring
  have hcall : s.heap p+99 = s.heap p+70+4+1+9+6+9 := by ring
  have hback : s.heap p+105 = s.heap p+70+4+1+9+6+9+6 := by ring
  have hreturn : s.heap p+110 = s.heap p+70+4+1+9+6+9+6+5 := by ring
  rw [hreturn, hback, hcall, hpush, hround, hplain]
  obtain ⟨htest,_,hrest⟩ := hbytes
  exact ⟨htest,hrest⟩

end CdStreamAllocationLoaded

/-! The machine up to HeapAlloc. What is written of the stack begins 96 bytes below the stack pointer
of the caller. -/

/-- What the routines push until the heap is entered. -/
def allocationPushes (s : CdStreamAllocationSpec) (disk : CdStreamDiskSpec) (t : CdStreamTablesSpec)
    (p : FileManagerEntrySpec) (a : BitVec 32) (m : Machine) : List (BitVec 32 × BitVec 32) :=
  [(92,t.target p+137),(88,m.regs.esi),(84,2048+a),(80,disk.allocator p+17),
    (76,0),(72,2048+a),(68,s.malloc p+15),(64,2048+a),(60,s.nh p+16)]

def allocatorEntered (disk : CdStreamDiskSpec) (t : CdStreamTablesSpec) (p : FileManagerEntrySpec)
    (m : Machine) : Machine :=
  { m with
    regs := { m.regs with esp := m.regs.esp-4 }
    flags := blend m.flags resumeFlag 0
    eip := disk.allocator p
    mem := setWords m.mem (m.regs.esp-96) [(92,t.target p+137)] }

/-- Below the allocator, with the number of bytes in EAX. -/
def passed (a : BitVec 32) (m : Machine) (depth : BitVec 32) (eip : Address)
    (ws : List (BitVec 32 × BitVec 32)) : Machine :=
  { m with
    regs := { m.regs with eax := 2048+a, esi := a, esp := m.regs.esp-depth }
    eip
    mem := setWords m.mem (m.regs.esp-96) ws }

def mallocEntered (s : CdStreamAllocationSpec) (disk : CdStreamDiskSpec) (t : CdStreamTablesSpec)
    (p : FileManagerEntrySpec) (a : BitVec 32) (m : Machine) : Machine :=
  passed a m 16 (s.malloc p) ((allocationPushes s disk t p a m).take 4)

def nhEntered (s : CdStreamAllocationSpec) (disk : CdStreamDiskSpec) (t : CdStreamTablesSpec)
    (p : FileManagerEntrySpec) (a : BitVec 32) (m : Machine) : Machine :=
  passed a m 28 (s.nh p) ((allocationPushes s disk t p a m).take 7)

def heapEntered (s : CdStreamAllocationSpec) (disk : CdStreamDiskSpec) (t : CdStreamTablesSpec)
    (p : FileManagerEntrySpec) (a : BitVec 32) (m : Machine) : Machine :=
  passed a m 36 (s.heap p) (allocationPushes s disk t p a m)

def heapPrologueEntered (s : CdStreamAllocationSpec) (disk : CdStreamDiskSpec)
    (t : CdStreamTablesSpec) (p : FileManagerEntrySpec) (seh : CwdSehSpec) (a : BitVec 32)
    (m : Machine) : Machine :=
  passed a m 48 (seh.prologueAddress p)
    (allocationPushes s disk t p a m++[(56,12),(52,s.scope p),(48,s.heap p+12)])

/-- The frame and the handler of the heap are in place. -/
def handlerInstalled (s : CdStreamAllocationSpec) (disk : CdStreamDiskSpec)
    (t : CdStreamTablesSpec) (p : FileManagerEntrySpec) (seh : CwdSehSpec) (a : BitVec 32)
    (m : Machine) : Machine :=
  { m with
    regs := { m.regs with
      eax := m.regs.esp-56, esi := a, esp := m.regs.esp-80, ebp := m.regs.esp-40 }
    eip := s.heap p+12
    mem := setWord (setWords (heapPrologueEntered s disk t p seh a m).mem (m.regs.esp-92)
      [(40,seh.wrapper.imageBase+seh.handlerRva),(36,word m.mem m.fs),(52,m.regs.ebp),
        (20,m.regs.ebx),(16,a),(12,m.regs.edi),(28,m.regs.esp-80),(8,s.heap p+12),(48,-1),
        (44,s.scope p)]) m.fs (m.regs.esp-56) }

/-- In the heap, with the number of bytes in ESI. -/
def inHeap (s : CdStreamAllocationSpec) (disk : CdStreamDiskSpec) (t : CdStreamTablesSpec)
    (p : FileManagerEntrySpec) (seh : CwdSehSpec) (a : BitVec 32) (m : Machine) (eip : Address)
    (flags : BitVec 32) (undefined : ℕ → BitVec 32) : Machine :=
  { handlerInstalled s disk t p seh a m with
    regs := { (handlerInstalled s disk t p seh a m).regs with esi := 2048+a }
    eip, flags, undefined }

def argumentsPushed (s : CdStreamAllocationSpec) (disk : CdStreamDiskSpec) (t : CdStreamTablesSpec)
    (p : FileManagerEntrySpec) (seh : CwdSehSpec) (a : BitVec 32) (m : Machine) : Machine :=
  { inHeap s disk t p seh a m (s.heap p+99) m.flags m.undefined with
    regs := { (handlerInstalled s disk t p seh a m).regs with
      esi := 2048+a, esp := m.regs.esp-92 }
    mem := setWords (handlerInstalled s disk t p seh a m).mem (m.regs.esp-96)
      [(12,2048+a),(8,0),(4,word m.mem (s.heapHandle p))] }

/-- In HeapAlloc. -/
def heapAllocEntered (s : CdStreamAllocationSpec) (disk : CdStreamDiskSpec)
    (t : CdStreamTablesSpec) (p : FileManagerEntrySpec) (seh : CwdSehSpec) (a : BitVec 32)
    (m : Machine) : Machine :=
  { argumentsPushed s disk t p seh a m with
    regs := { (argumentsPushed s disk t p seh a m).regs with esp := m.regs.esp-96 }
    eip := word m.mem (s.iat p)
    mem := setWords (handlerInstalled s disk t p seh a m).mem (m.regs.esp-96)
      [(12,2048+a),(8,0),(4,word m.mem (s.heapHandle p)),(0,s.heap p+105)] }

/-- The CALL of the allocator with its two arguments. The globals, the import and the head of the
chain of handlers are not in what is written of the stack, nor the others at the head. -/
structure CdStreamAllocationCaller (s : CdStreamAllocationSpec) (t : CdStreamTablesSpec)
    (p : FileManagerEntrySpec) (a : BitVec 32) (m : Machine) : Prop where
  eip : m.eip = t.target p+132
  low : 65700 ≤ m.regs.esp
  aligned : m.regs.esp.toNat%4 = 0
  flags : m.flags &&& 0x500 = 0
  bytes : word m.mem m.regs.esp = 2048
  alignment : word m.mem (m.regs.esp+4) = a
  request : cdStreamAllocationRequest ⟨a⟩ (s.globals p m.mem) = true
  /-- The stack reaches from its limit to its base, as the thread information block has them. -/
  bounds : word m.mem (m.fs+8) ≤ m.regs.esp-96 ∧ m.regs.esp ≤ word m.mem (m.fs+4)
  stack : ∀ x ∈ [m.fs,s.newMode p,s.threshold p,s.heapHandle p,s.heapMode p,s.iat p],
    Apart (m.regs.esp-96) 96 x 4
  head : ∀ x ∈ [s.threshold p,s.heapHandle p,s.heapMode p,s.iat p], Apart m.fs 4 x 4

/-- What the request has been checked for. -/
structure HeapRequest (a newMode threshold mode : BitVec 32) : Prop where
  alignment : alignmentValid ⟨a⟩ = true
  newMode : newMode = 0
  mode : mode = 1 ∨ mode = 3 ∧ threshold < 2048+a

theorem CdStreamAllocationCaller.heapRequest (h : CdStreamAllocationCaller s t p a m) :
    HeapRequest a (word m.mem (s.newMode p)) (word m.mem (s.threshold p))
      (word m.mem (s.heapMode p)) := by
  have hrequest := h.request
  rw [cdStreamAllocationRequest] at hrequest
  simp only [Bool.and_eq_true, Bool.or_eq_true, decide_eq_true_eq] at hrequest
  obtain ⟨⟨⟨⟨⟨halign,hnew⟩,_⟩,_⟩,_⟩,hmode⟩ := hrequest
  refine ⟨halign,congrArg UInt32.toBitVec hnew,?_⟩
  obtain hmode | ⟨hmode,hthreshold⟩ := hmode
  · exact .inl (congrArg UInt32.toBitVec hmode)
  · exact .inr ⟨congrArg UInt32.toBitVec hmode,hthreshold⟩

/-- The number of bytes does not wrap, and is a multiple of sixteen. -/
theorem allocationBytes_of_valid (h : alignmentValid ⟨a⟩ = true) :
    (2048+a).toNat = 2048+a.toNat ∧ 512 ≤ a.toNat ∧ a.toNat ≤ 65536 ∧ 16 ∣ a.toNat := by
  obtain ⟨⟨k,hk⟩,hleast,hmost⟩ := (alignmentValid_iff a).mp h
  refine ⟨by bv_omega,hleast,hmost,?_⟩
  rw [hk]
  refine Nat.pow_dvd_pow 2 (show 4 ≤ k from ?_)
  by_contra hsmall
  have hlt : 2^k < 2^4 := Nat.pow_lt_pow_right (by decide) (not_le.mp hsmall)
  omega

/-! From the CALL of the allocator into the heap. -/

section Entry
variable (hcode : CdStreamAllocationLoaded s disk t p seh ready c code)
include hcode

theorem reaches_allocatorEntered (heip : m.eip = t.target p+132) :
    Reaches code m (allocatorEntered disk t p m) := by
  have htarget : t.target p+137+(disk.allocatorRva-t.targetRva-137) = disk.allocator p := by
    rw [CdStreamTablesSpec.target, CdStreamDiskSpec.allocator]
    ring
  refine reaches_listing (straight_callListing _) hcode.call_bytes heip ?_
  rw [allocatorEntered, ← htarget]
  obtain ⟨⟨eax,ecx,edx,ebx,esp,ebp,esi,edi⟩,flags,eip,mem,fs,undefined⟩ := m
  simp only at heip
  obtain ⟨b,rfl⟩ : ∃ b, esp = b+96 := ⟨esp-96,by ring⟩
  simp [callListing, heip, setWords, BitVec.sub_eq_add_neg, BitVec.add_assoc]

variable (hcaller : CdStreamAllocationCaller s t p a m)
include hcaller

theorem reaches_mallocEntered :
    ReachesUpToFlags code (allocatorEntered disk t p m) (mallocEntered s disk t p a m) := by
  have htarget : disk.allocator p+17+(s.mallocRva-disk.allocatorRva-17) = s.malloc p := by
    rw [CdStreamDiskSpec.allocator, CdStreamAllocationSpec.malloc]
    ring
  refine reachesUpToFlags_listing (straight_pushBytesListing _) hcode.aligned_bytes.1 rfl ?_
  have hbytes := hcaller.bytes
  have halign := hcaller.alignment
  rw [mallocEntered, passed, allocatorEntered]
  obtain ⟨⟨eax,ecx,edx,ebx,esp,ebp,esi,edi⟩,flags,eip,mem,fs,undefined⟩ := m
  obtain ⟨b,rfl⟩ : ∃ b, esp = b+96 := ⟨esp-96,by ring⟩
  simp [BitVec.add_assoc] at hbytes halign
  simp (disch := decide) [pushBytesListing, allocationPushes, hbytes, halign, setWords,
    BitVec.sub_eq_add_neg, BitVec.add_assoc, word_setWord_add] at htarget ⊢
  simp [htarget]

theorem reaches_nhEntered (flags : BitVec 32) (undefined : ℕ → BitVec 32) :
    ReachesUpToFlags code { mallocEntered s disk t p a m with flags, undefined }
      (nhEntered s disk t p a m) := by
  have htarget : s.malloc p+15+(s.nhRva-s.mallocRva-15) = s.nh p := by
    rw [CdStreamAllocationSpec.malloc, CdStreamAllocationSpec.nh]
    ring
  have hmode : word (mallocEntered s disk t p a m).mem (s.newMode p) = 0 :=
    (word_setWords_of_stretch (hcaller.stack (s.newMode p) (by simp)) (by simp [allocationPushes])).trans
      hcaller.heapRequest.newMode
  refine reachesUpToFlags_listing (straight_mallocListing _ _) hcode.malloc_bytes.1 rfl ?_
  rw [mallocEntered, passed] at hmode ⊢
  rw [nhEntered, passed]
  obtain ⟨⟨eax,ecx,edx,ebx,esp,ebp,esi,edi⟩,flags,eip,mem,fs,undefined⟩ := m
  obtain ⟨b,rfl⟩ : ∃ b, esp = b+96 := ⟨esp-96,by ring⟩
  simp (disch := decide) [mallocListing, allocationPushes, setWords, BitVec.sub_eq_add_neg,
    BitVec.add_assoc, word_setWord_add] at htarget hmode ⊢
  simp [htarget, hmode]

theorem reaches_heapEntered (flags : BitVec 32) (undefined : ℕ → BitVec 32) :
    ReachesUpToFlags code { nhEntered s disk t p a m with flags, undefined }
      (heapEntered s disk t p a m) := by
  have htarget : s.nh p+16+(s.heapRva-s.nhRva-16) = s.heap p := by
    rw [CdStreamAllocationSpec.nh, CdStreamAllocationSpec.heap]
    ring
  obtain ⟨hsum,_,hmost,_⟩ := allocationBytes_of_valid hcaller.heapRequest.alignment
  have hsmall : 2048#32+a ≤ 4294967264#32 := by bv_omega
  have hlimit : ReachesUpToFlags code { nhEntered s disk t p a m with flags, undefined }
      { nhEntered s disk t p a m with eip := s.nh p+7 } := by
    refine reachesUpToFlags_listing straight_limitListing hcode.nh_bytes.1 rfl ?_
    rw [nhEntered, passed]
    obtain ⟨⟨eax,ecx,edx,ebx,esp,ebp,esi,edi⟩,flags,eip,mem,fs,undefined⟩ := m
    obtain ⟨b,rfl⟩ : ∃ b, esp = b+96 := ⟨esp-96,by ring⟩
    simp (disch := decide) [limitListing, allocationPushes, setWords, BitVec.sub_eq_add_neg,
      BitVec.add_assoc, word_setWord_add, blend_resumeFlag, holds_carryOrZero, hsmall]
  refine hlimit.trans fun flags undefined =>
    reachesUpToFlags_listing (straight_heapCallListing _) hcode.nh_bytes.2.1 rfl ?_
  rw [nhEntered, heapEntered, passed, passed]
  obtain ⟨⟨eax,ecx,edx,ebx,esp,ebp,esi,edi⟩,flags,eip,mem,fs,undefined⟩ := m
  obtain ⟨b,rfl⟩ : ∃ b, esp = b+96 := ⟨esp-96,by ring⟩
  simp (disch := decide) [heapCallListing, allocationPushes, setWords, BitVec.sub_eq_add_neg,
    BitVec.add_assoc, word_setWord_add] at htarget ⊢
  simp [htarget]

theorem reaches_heapPrologueEntered (flags : BitVec 32) (undefined : ℕ → BitVec 32) :
    ReachesUpToFlags code { heapEntered s disk t p a m with flags, undefined }
      (heapPrologueEntered s disk t p seh a m) := by
  have htarget : s.heap p+12+(seh.prologue.targetRva-s.heapRva-12) = seh.prologueAddress p := by
    rw [CdStreamAllocationSpec.heap, CwdSehSpec.prologueAddress]
    ring
  refine reachesUpToFlags_listing (straight_heapPrologueListing _ _) hcode.heapEntry_bytes.1 rfl ?_
  rw [heapEntered, heapPrologueEntered, passed, passed]
  obtain ⟨⟨eax,ecx,edx,ebx,esp,ebp,esi,edi⟩,flags,eip,mem,fs,undefined⟩ := m
  obtain ⟨b,rfl⟩ : ∃ b, esp = b+96 := ⟨esp-96,by ring⟩
  simp (disch := decide) [heapPrologueListing, allocationPushes, setWords, BitVec.sub_eq_add_neg,
    BitVec.add_assoc] at htarget ⊢
  simp [htarget]

omit hcode in
/-- The words that the prologue reads, and the head of the chain. -/
theorem heapPrologueEntered_words : let mem := (heapPrologueEntered s disk t p seh a m).mem
    word mem (m.regs.esp-92+52) = 12 ∧ word mem (m.regs.esp-92+48) = s.scope p ∧
      word mem (m.regs.esp-92+44) = s.heap p+12 ∧ word mem m.fs = word m.mem m.fs := by
  have hhead : word (heapPrologueEntered s disk t p seh a m).mem m.fs = word m.mem m.fs :=
    word_setWords_of_stretch (hcaller.stack m.fs (by simp)) (by simp [allocationPushes])
  refine ⟨?_,?_,?_,hhead⟩
  all_goals
    rw [heapPrologueEntered, passed]
    obtain ⟨b,hb⟩ : ∃ b, m.regs.esp = b+96 := ⟨m.regs.esp-96,by ring⟩
    simp (disch := decide) [hb, allocationPushes, setWords, BitVec.sub_eq_add_neg, BitVec.add_assoc,
      word_setWord_add]

theorem reaches_handlerInstalled (flags : BitVec 32) (undefined : ℕ → BitVec 32) :
    ReachesUpToFlags code { heapPrologueEntered s disk t p seh a m with flags, undefined }
      (handlerInstalled s disk t p seh a m) := by
  obtain ⟨k,hk,hbytes⟩ := hcode.prologue
  rw [(cwdSehCode_eq hk).2] at hbytes
  obtain ⟨h12,hscope,hreturn,hhead⟩ := @heapPrologueEntered_words s disk t p seh a m hcaller
  have hfs (d : BitVec 32) (hd : d.toNat+4 ≤ 80) : Apart (m.regs.esp-92+d) 4 m.fs 4 := by
    have hplace : m.regs.esp-92+d = m.regs.esp-96+(4+d) := by ring
    rw [hplace]
    exact (hcaller.stack m.fs (by simp)).left (by decide) (by decide) (by bv_omega)
  refine reachesUpToFlags_listing (straight_prologueListing _) hbytes rfl ?_
  have hafter := @afterAll_prologueListing (2048+a) m.regs.ecx m.regs.edx m.regs.ebx m.regs.ebp a
    m.regs.edi flags (seh.prologueAddress p) m.fs (m.regs.esp-92) (s.heap p+12) (s.scope p)
    (heapPrologueEntered s disk t p seh a m).mem undefined (seh.wrapper.imageBase+seh.handlerRva)
    hfs h12 hscope hreturn
  have hentered : { heapPrologueEntered s disk t p seh a m with flags, undefined } =
      ⟨⟨2048+a,m.regs.ecx,m.regs.edx,m.regs.ebx,m.regs.esp-92+44,m.regs.ebp,a,m.regs.edi⟩,flags,
        seh.prologueAddress p,(heapPrologueEntered s disk t p seh a m).mem,m.fs,undefined⟩ := by
    rw [show m.regs.esp-92+44 = m.regs.esp-48 by ring]
    rfl
  have h36 : m.regs.esp-92+36 = m.regs.esp-56 := by ring
  have h52 : m.regs.esp-92+52 = m.regs.esp-40 := by ring
  have h12' : m.regs.esp-92+12 = m.regs.esp-80 := by ring
  rw [hentered, hafter, hhead, h36, h52, h12']
  rfl

end Entry

/-! In the heap. -/

section Heap
variable (hcode : CdStreamAllocationLoaded s disk t p seh ready c code)
  (hcaller : CdStreamAllocationCaller s t p a m)

include hcaller in
/-- Neither the stack nor the head of the chain is where the globals are. -/
theorem word_handlerInstalled {x : Address}
    (hx : x ∈ [s.threshold p,s.heapHandle p,s.heapMode p,s.iat p]) :
    word (handlerInstalled s disk t p seh a m).mem x = word m.mem x := by
  have hstack : Apart (m.regs.esp-96) 96 x 4 :=
    hcaller.stack x (List.mem_cons_of_mem _ (List.mem_cons_of_mem _ hx))
  have hinner : Apart (m.regs.esp-92) 56 x 4 := by
    rw [show m.regs.esp-92 = m.regs.esp-96+4 by ring]
    exact hstack.left (by decide) (by decide) (by decide)
  rw [handlerInstalled, word_setWord_of_apart (hcaller.head x hx),
    word_setWords_of_stretch hinner (by simp), heapPrologueEntered, passed,
    word_setWords_of_stretch hstack (by simp [allocationPushes])]

include hcode hcaller in
theorem reaches_modeCompared (flags : BitVec 32) (undefined : ℕ → BitVec 32) :
    Reaches code { handlerInstalled s disk t p seh a m with flags, undefined }
      (inHeap s disk t p seh a m (s.heap p+22) (blend (blend flags resumeFlag 0) arithmeticFlags
        (subFlags (word m.mem (s.heapMode p)) 3)) undefined) := by
  have hmode := @word_handlerInstalled s disk t p seh a m hcaller (s.heapMode p) (by simp)
  have hbytes : word (handlerInstalled s disk t p seh a m).mem (m.regs.esp-32) = 2048+a := by
    have hhead : Apart m.fs 4 (m.regs.esp-32) 4 := by
      rw [show m.regs.esp-32 = m.regs.esp-96+64 by ring]
      exact ((hcaller.stack m.fs (by simp)).left (by decide) (by decide) (by decide)).symm
    rw [handlerInstalled, word_setWord_of_apart hhead, heapPrologueEntered, passed]
    obtain ⟨b,hb⟩ : ∃ b, m.regs.esp = b+96 := ⟨m.regs.esp-96,by ring⟩
    simp (disch := decide) [hb, allocationPushes, setWords, BitVec.sub_eq_add_neg, BitVec.add_assoc,
      word_setWord_add]
  refine reaches_listing (straight_compareModeListing _) hcode.heapEntry_bytes.2.1 rfl ?_
  rw [inHeap]
  generalize hmem : (handlerInstalled s disk t p seh a m).mem = mem at *
  simp only [handlerInstalled] at hmem ⊢
  rw [hmem]
  obtain ⟨⟨eax,ecx,edx,ebx,esp,ebp,esi,edi⟩,flags,eip,mem',fs,undefined⟩ := m
  obtain ⟨b,rfl⟩ : ∃ b, esp = b+96 := ⟨esp-96,by ring⟩
  simp [BitVec.sub_eq_add_neg, BitVec.add_assoc] at hbytes hmode
  simp (disch := decide) [compareModeListing, hbytes, hmode, BitVec.sub_eq_add_neg, BitVec.add_assoc,
    blend_resumeFlag]

include hcode

/-- In mode 3 the number of bytes is compared with the threshold. -/
theorem reaches_thresholdCompared (hcaller : CdStreamAllocationCaller s t p a m)
    (hmode : word m.mem (s.heapMode p) = 3) (flags : BitVec 32) (undefined : ℕ → BitVec 32) :
    Reaches code (inHeap s disk t p seh a m (s.heap p+22) (blend flags arithmeticFlags
        (subFlags (word m.mem (s.heapMode p)) 3)) undefined)
      (inHeap s disk t p seh a m (s.heap p+30) (blend (blend flags resumeFlag 0) arithmeticFlags
        (subFlags (2048+a) (word m.mem (s.threshold p)))) undefined) := by
  have hthreshold := @word_handlerInstalled s disk t p seh a m hcaller (s.threshold p) (by simp)
  have hbranch : Reaches code (inHeap s disk t p seh a m (s.heap p+22) (blend flags arithmeticFlags
        (subFlags (word m.mem (s.heapMode p)) 3)) undefined)
      (inHeap s disk t p seh a m (s.heap p+24) (blend (blend flags arithmeticFlags
        (subFlags (word m.mem (s.heapMode p)) 3)) resumeFlag 0) undefined) := by
    refine reaches_listing straight_modeBranchListing hcode.heapEntry_bytes.2.2.1 rfl ?_
    simp [modeBranchListing, inHeap, holds_zero, hmode, BitVec.add_assoc]
  refine hbranch.trans (reaches_listing (straight_compareThresholdListing _)
    hcode.heapEntry_bytes.2.2.2.1 rfl ?_)
  simp (disch := decide) [compareThresholdListing, inHeap, hthreshold, BitVec.add_assoc,
    blend_resumeFlag]

/-- Below the threshold mode 3 goes on as mode 1 does. -/
theorem reaches_thresholdPassed (hlow : word m.mem (s.threshold p) < 2048+a) (flags : BitVec 32)
    (undefined : ℕ → BitVec 32) :
    ReachesUpToFlags code (inHeap s disk t p seh a m (s.heap p+30) (blend flags arithmeticFlags
        (subFlags (2048+a) (word m.mem (s.threshold p)))) undefined)
      (inHeap s disk t p seh a m (s.heap p+70) m.flags m.undefined) := by
  refine reachesUpToFlags_listing straight_thresholdBranchListing hcode.heapEntry_bytes.2.2.2.2 rfl ?_
  have hnot : ¬2048#32+a ≤ word m.mem (s.threshold p) := BitVec.not_le.mpr hlow
  simp [thresholdBranchListing, inHeap, holds_carryOrZero, hnot, BitVec.add_assoc]

theorem avoids_modePassed (hmode : word m.mem (s.heapMode p) = 1) (flags : BitVec 32)
    (undefined : ℕ → BitVec 32) :
    AvoidsUpToFlags code (s.heap p+30)
      (inHeap s disk t p seh a m (s.heap p+22) (blend flags arithmeticFlags
        (subFlags (word m.mem (s.heapMode p)) 3)) undefined)
      (inHeap s disk t p seh a m (s.heap p+70) m.flags m.undefined) := by
  refine avoidsUpToFlags_listing straight_modeBranchListing hcode.heapEntry_bytes.2.2.1 rfl ?_ ?_
  · simp [modeBranchListing, inHeap, holds_zero, hmode, BitVec.add_assoc]
  · simp [modeBranchListing, starts, BitVec.add_assoc]

/-- Whatever the mode is, the number of bytes stays, and the arguments are pushed. -/
theorem avoids_argumentsPushed (hcaller : CdStreamAllocationCaller s t p a m) (flags : BitVec 32)
    (undefined : ℕ → BitVec 32) :
    AvoidsUpToFlags code (s.heap p+30) (inHeap s disk t p seh a m (s.heap p+70) flags undefined)
      (argumentsPushed s disk t p seh a m) := by
  obtain ⟨hsum,hleast,hmost,hsixteen⟩ := allocationBytes_of_valid hcaller.heapRequest.alignment
  have hmode := @word_handlerInstalled s disk t p seh a m hcaller (s.heapMode p) (by simp)
  have hhandle := @word_handlerInstalled s disk t p seh a m hcaller (s.heapHandle p) (by simp)
  have hnonzero : ¬2048#32+a = 0#32 := by bv_omega
  have htested : AvoidsUpToFlags code (s.heap p+30)
      (inHeap s disk t p seh a m (s.heap p+70) flags undefined)
      (inHeap s disk t p seh a m (s.heap p+75) m.flags m.undefined) := by
    refine avoidsUpToFlags_listing straight_testBytesListing hcode.heapTail_bytes.1 rfl ?_ ?_
    · simp (disch := decide) [testBytesListing, inHeap, blend_resumeFlag, holds_zero_logic, hnonzero,
        BitVec.add_assoc]
    · simp [testBytesListing, starts, BitVec.add_assoc]
  have hplain (flags undefined) : AvoidsUpToFlags code (s.heap p+30)
      (inHeap s disk t p seh a m (s.heap p+75) flags undefined)
      (inHeap s disk t p seh a m (if word m.mem (s.heapMode p) = 1 then s.heap p+90 else s.heap p+84)
        m.flags m.undefined) := by
    refine avoidsUpToFlags_listing (straight_plainModeListing _) hcode.heapTail_bytes.2.1 rfl ?_ ?_
    · simp (disch := decide) [plainModeListing, inHeap, blend_resumeFlag, holds_zero, hmode,
        BitVec.add_assoc]
    · simp [plainModeListing, starts, BitVec.add_assoc]
  have hround (flags undefined) : AvoidsUpToFlags code (s.heap p+30)
      (inHeap s disk t p seh a m (s.heap p+84) flags undefined)
      (inHeap s disk t p seh a m (s.heap p+90) m.flags m.undefined) := by
    have hkept : 2048#32+(a+15#32) &&& 4294967280#32 = 2048#32+a := by
      apply BitVec.eq_of_toNat_eq
      have hmask : (2048#32+(a+15#32) &&& 4294967280#32).toNat = (2048#32+(a+15#32)).toNat/2^4*2^4 :=
        Alignment.toNat_and_not_pred (a := 16) (k := 4) rfl _
      have hround : (2048#32+(a+15#32)).toNat = 2048+a.toNat+15 := by bv_omega
      rw [hmask, hround]
      change (2048+a.toNat+15)/2^4*2^4 = (2048+a).toNat
      omega
    refine avoidsUpToFlags_listing straight_roundBytesListing hcode.heapTail_bytes.2.2.1 rfl ?_ ?_
    · simp [roundBytesListing, inHeap, hkept, BitVec.add_assoc]
    · simp [roundBytesListing, starts, BitVec.add_assoc]
  have hpushed (flags undefined) : AvoidsUpToFlags code (s.heap p+30)
      (inHeap s disk t p seh a m (s.heap p+90) flags undefined) (argumentsPushed s disk t p seh a m) := by
    refine avoidsUpToFlags_listing (straight_heapArgumentsListing _) hcode.heapTail_bytes.2.2.2.1 rfl ?_ ?_
    · have hread : word (setWords (handlerInstalled s disk t p seh a m).mem (m.regs.esp-96)
          [(12,2048+a),(8,0)]) (s.heapHandle p) = word m.mem (s.heapHandle p) :=
        (word_setWords_of_stretch (hcaller.stack (s.heapHandle p) (by simp)) (by simp)).trans hhandle
      simp only [inHeap, argumentsPushed]
      generalize (handlerInstalled s disk t p seh a m).mem = mem at *
      simp only [handlerInstalled]
      obtain ⟨b,hb⟩ : ∃ b, m.regs.esp = b+96 := ⟨m.regs.esp-96,by ring⟩
      simp [hb, setWords] at hread
      simp [heapArgumentsListing, hb, setWords, BitVec.sub_eq_add_neg, BitVec.add_assoc, hread]
    · simp [heapArgumentsListing, starts, BitVec.add_assoc]
  refine (htested.trans hplain).trans fun flags undefined => ?_
  by_cases hone : word m.mem (s.heapMode p) = 1
  · rw [if_pos hone]
    exact hpushed flags undefined
  · rw [if_neg hone]
    exact (hround flags undefined).trans hpushed

/-- The CALL by the import. -/
theorem reaches_heapAllocEntered (hcaller : CdStreamAllocationCaller s t p a m) (flags : BitVec 32)
    (undefined : ℕ → BitVec 32) :
    Reaches code { argumentsPushed s disk t p seh a m with flags, undefined }
      { heapAllocEntered s disk t p seh a m with flags := blend flags resumeFlag 0, undefined } := by
  have hslot : word (argumentsPushed s disk t p seh a m).mem (s.iat p) = word m.mem (s.iat p) :=
    (word_setWords_of_stretch (hcaller.stack (s.iat p) (by simp)) (by simp)).trans
      (word_handlerInstalled hcaller (by simp))
  have hcall := reaches_callByWord (m := { argumentsPushed s disk t p seh a m with flags, undefined })
    hcode.heapTail_bytes.2.2.2.2.1
  simp only [hslot] at hcall
  simpa [heapAllocEntered, argumentsPushed, inHeap, setWords, BitVec.sub_eq_add_neg,
    BitVec.add_assoc] using hcall

end Heap

end Saex
