import Saex.CdStreamAllocationRun

/-! The code that the checkpoint pins, executed from the return of HeapAlloc to the return of the
allocator, and what the checkpoint makes of the stops. Addresses count from the word below the stack
pointer that HeapAlloc returns with. -/
namespace Saex
open LittleEndian WrappedMemory Ia32

variable {s : CdStreamAllocationSpec} {disk : CdStreamDiskSpec} {t : CdStreamTablesSpec}
  {p : FileManagerEntrySpec} {seh : CwdSehSpec} {ready : FileManagerReadySpec}
  {c : CdStreamAllocationCode} {a : BitVec 32} {code : Memory} {m : Machine}

/-- What the way out finds on the stack. -/
def heapStack (s : CdStreamAllocationSpec) (disk : CdStreamDiskSpec) (t : CdStreamTablesSpec)
    (p : FileManagerEntrySpec) (a : BitVec 32) (m : Machine) : List (BitVec 32 × BitVec 32) :=
  [(4,m.regs.edi),(8,a),(12,m.regs.ebx),(28,word m.mem m.fs),(44,m.regs.ebp),(48,s.nh p+16),
    (52,2048+a),(56,s.malloc p+15),(60,2048+a),(64,0),(68,disk.allocator p+17),(76,m.regs.esi),
    (80,t.target p+137)]

theorem heapStack_bounds {x : BitVec 32 × BitVec 32} (hx : x ∈ heapStack s disk t p a m) :
    4 ≤ x.1.toNat ∧ x.1.toNat+4 ≤ 84 := by
  revert x
  simp [heapStack]

/-- HeapAlloc is back; `m` is the caller of the allocator. -/
structure HeapReturned (s : CdStreamAllocationSpec) (disk : CdStreamDiskSpec)
    (t : CdStreamTablesSpec) (p : FileManagerEntrySpec) (a : BitVec 32) (m m' : Machine) : Prop where
  eip : m'.eip = s.heap p+105
  esp : m'.regs.esp = m.regs.esp-80
  ebp : m'.regs.ebp = m.regs.esp-40
  ebx : m'.regs.ebx = m.regs.ebx
  esi : m'.regs.esi = 2048+a
  edi : m'.regs.edi = m.regs.edi
  fs : m'.fs = m.fs
  flags : m'.flags &&& 0x500 = 0
  stack : ∀ x ∈ heapStack s disk t p a m, word m'.mem (m.regs.esp-84+x.1) = x.2

/-- HeapAlloc takes three arguments off the stack. -/
theorem heapReturned_of_returned {m' : Machine} {flags : BitVec 32} {undefined : ℕ → BitVec 32}
    (hcaller : CdStreamAllocationCaller s t p a m) (hflags : flags &&& 0x500 = 0)
    (h : Returned 12 0x500 [(m.regs.esp-80,80)]
      { heapAllocEntered s disk t p seh a m with flags, undefined } m') :
    HeapReturned s disk t p a m m' := by
  have hword (d : BitVec 32) (hd : d.toNat+4 ≤ 80) : word m'.mem (m.regs.esp-80+d) =
      word (heapAllocEntered s disk t p seh a m).mem (m.regs.esp-80+d) :=
    word_of_load (h.memory _ (List.mem_singleton_self _)) hd
  refine ⟨?_,?_,h.ebp,h.ebx,h.esi,h.edi,h.fs,h.flags.trans hflags,?_⟩
  · rw [h.eip, heapAllocEntered]
    simp [setWords]
  · rw [h.esp, heapAllocEntered]
    simp only
    ring
  · have hplace (d : BitVec 32) (hd : 4 ≤ d.toNat) (hd' : d.toNat+4 ≤ 84) :
        word m'.mem (m.regs.esp-84+d) = word (heapAllocEntered s disk t p seh a m).mem (m.regs.esp-84+d) := by
      have hback : m.regs.esp-84+d = m.regs.esp-80+(d-4) := by ring
      rw [hback]
      exact hword (d-4) (by bv_omega)
    intro x hx
    rw [hplace x.1 (heapStack_bounds hx).1 (heapStack_bounds hx).2]
    obtain ⟨b,hb⟩ : ∃ b, m.regs.esp = b+100 := ⟨m.regs.esp-100,by ring⟩
    have hfs (d : BitVec 32) (hd : 4 ≤ d.toNat) (hd' : d.toNat+4 ≤ 100) : Apart m.fs 4 (b+d) 4 := by
      have hback : b+d = m.regs.esp-96+(d-4) := by
        rw [hb]
        ring
      rw [hback]
      exact ((hcaller.stack m.fs (by simp)).left (by decide) (by decide) (by bv_omega)).symm
    revert x
    rw [heapAllocEntered, handlerInstalled, heapPrologueEntered, passed]
    simp (disch := first | decide | (apply hfs <;> decide)) [heapStack, allocationPushes, setWords,
      hb, BitVec.sub_eq_add_neg, BitVec.add_assoc, word_setWord_add, word_setWord_of_apart]

/-- The epilogue leaves its return address where the caller's frame pointer has been. -/
def unwoundMemory (s : CdStreamAllocationSpec) (p : FileManagerEntrySpec) (m m' : Machine) : Memory :=
  setWord (setWord (setWord m'.mem (m.regs.esp-84) (s.heap p+110)) m.fs (word m.mem m.fs))
    (m.regs.esp-84+44) (s.heap p+110)

/-- Above the frame of the heap, which is taken down. -/
def unwound (s : CdStreamAllocationSpec) (p : FileManagerEntrySpec) (a : BitVec 32) (m m' : Machine)
    (height ecx : BitVec 32) (eip : Address) : Machine :=
  { m' with
    regs := { m'.regs with
      ecx, ebx := m.regs.ebx, esp := m.regs.esp-84+height, ebp := m.regs.ebp, esi := a
      edi := m.regs.edi }
    flags := blend m'.flags resumeFlag 0
    eip
    mem := unwoundMemory s p m m' }

/-- In the allocator, with the block in EAX. -/
def blockPassed (s : CdStreamAllocationSpec) (disk : CdStreamDiskSpec) (p : FileManagerEntrySpec)
    (a : BitVec 32) (m m' : Machine) : Machine :=
  { unwound s p a m m' 72 0 (disk.allocator p+17) with
    flags := blend (blend m'.flags resumeFlag 0) arithmeticFlags
      (resultFlags m'.regs.eax ||| m'.undefined 0 &&& 0x10)
    undefined := fun n => m'.undefined (n+1) }

/-- The buffer that the layout has in the block. -/
def alignedBlock (raw a : BitVec 32) : BitVec 32 := (raw+a) &&& ~~~(a-1)

def blockAligned (s : CdStreamAllocationSpec) (disk : CdStreamDiskSpec) (p : FileManagerEntrySpec)
    (a : BitVec 32) (m m' : Machine) : Machine :=
  { blockPassed s disk p a m m' with
    regs := { (blockPassed s disk p a m m').regs with
      eax := alignedBlock m'.regs.eax a, ecx := m'.regs.eax, esp := m.regs.esp-8, esi := ~~~(a-1) }
    flags := blend (blend m'.flags resumeFlag 0) arithmeticFlags
      (resultFlags (alignedBlock m'.regs.eax a) ||| m'.undefined 1 &&& 0x10)
    eip := disk.allocator p+30
    undefined := fun n => m'.undefined (n+2) }

/-- Back at the caller. -/
def blockKept (s : CdStreamAllocationSpec) (disk : CdStreamDiskSpec) (t : CdStreamTablesSpec)
    (p : FileManagerEntrySpec) (a : BitVec 32) (m m' : Machine) : Machine :=
  { blockAligned s disk p a m m' with
    regs := { (blockAligned s disk p a m m').regs with esp := m.regs.esp, esi := m.regs.esi }
    eip := t.target p+137
    mem := setWord (blockAligned s disk p a m m').mem (alignedBlock m'.regs.eax a-4) m'.regs.eax }

section Exit

variable (hcode : CdStreamAllocationLoaded s disk t p seh ready c code)
  (hcaller : CdStreamAllocationCaller s t p a m) {m' : Machine}
  (hreturned : HeapReturned s disk t p a m m')

include hreturned in
/-- The CALL of the epilogue pushes below what the way out finds. -/
theorem word_epilogueCalled {d v ret : BitVec 32} (hx : (d,v) ∈ heapStack s disk t p a m) :
    word (setWord m'.mem (m.regs.esp-84) ret) (m.regs.esp-84+d) = v := by
  have hbound : 4 ≤ d.toNat ∧ d.toNat+4 ≤ 84 := heapStack_bounds hx
  have hbelow : Apart (m.regs.esp-84+0#32) 4 (m.regs.esp-84+d) 4 := by
    apply Apart.add
    rw [Apart]
    bv_omega
  rw [BitVec.add_zero] at hbelow
  rw [word_setWord_of_apart hbelow]
  exact hreturned.stack (d,v) hx

include hcaller hreturned in
/-- What has been pushed above the frame of the heap is still there. -/
theorem word_unwoundMemory {d v : BitVec 32} (hx : (d,v) ∈ heapStack s disk t p a m)
    (hheight : 48 ≤ d) : word (unwoundMemory s p m m') (m.regs.esp-84+d) = v := by
  have hbound : 4 ≤ d.toNat ∧ d.toNat+4 ≤ 84 := heapStack_bounds hx
  have hhead : Apart m.fs 4 (m.regs.esp-84+d) 4 := by
    rw [show m.regs.esp-84+d = m.regs.esp-96+(12+d) by ring]
    exact ((hcaller.stack m.fs (by simp)).left (by decide) (by decide) (by bv_omega)).symm
  have hframe : Apart (m.regs.esp-84+44) 4 (m.regs.esp-84+d) 4 := by
    apply Apart.add
    rw [Apart]
    bv_omega
  rw [unwoundMemory, word_setWord_of_apart hframe, word_setWord_of_apart hhead]
  exact word_epilogueCalled hreturned hx

include hcode hcaller hreturned

/-- The CALL of the epilogue, and the epilogue. -/
theorem reaches_unwound : Reaches code m' (unwound s p a m m' 48 (s.heap p+110) (s.heap p+110)) := by
  obtain ⟨q,l,k,hk,hbytes⟩ := hcode.epilogue
  rw [(fileManagerReadyCode_eq hk).2.2.2] at hbytes
  have htarget : s.heap p+110+(ready.epilogueRva-(s.heapRva+70)-40) = ready.epilogueAddress p := by
    rw [CdStreamAllocationSpec.heap, FileManagerReadySpec.epilogueAddress]
    ring
  have hfs (d : BitVec 32) (hd : d.toNat+4 ≤ 48) : Apart m.fs 4 (m.regs.esp-84+d) 4 := by
    rw [show m.regs.esp-84+d = m.regs.esp-96+(12+d) by ring]
    exact ((hcaller.stack m.fs (by simp)).left (by decide) (by decide) (by bv_omega)).symm
  have hcalled : Reaches code m' ⟨{ m'.regs with esp := m.regs.esp-84, ebp := m.regs.esp-84+44 },
      blend m'.flags resumeFlag 0,ready.epilogueAddress p,
      setWord m'.mem (m.regs.esp-84) (s.heap p+110),m.fs,m'.undefined⟩ := by
    refine reaches_listing (straight_callListing _) hcode.heapTail_bytes.2.2.2.2.2.1 hreturned.eip ?_
    rw [← htarget]
    simp [callListing, hreturned.eip, hreturned.esp, hreturned.ebp, hreturned.fs, BitVec.sub_eq_add_neg,
      BitVec.add_assoc]
  have hafter := @afterAll_epilogueListing m'.regs.eax m'.regs.ecx m'.regs.edx m'.regs.ebx m'.regs.esi
    m'.regs.edi (blend m'.flags resumeFlag 0) (ready.epilogueAddress p) m.fs (m.regs.esp-84)
    (s.heap p+110) (word m.mem m.fs) m.regs.ebx m.regs.ebp a m.regs.edi
    (setWord m'.mem (m.regs.esp-84) (s.heap p+110)) m'.undefined hfs (word_setWord_self _ _ _)
    (word_epilogueCalled hreturned (by simp [heapStack]))
    (word_epilogueCalled hreturned (by simp [heapStack]))
    (word_epilogueCalled hreturned (by simp [heapStack]))
    (word_epilogueCalled hreturned (by simp [heapStack]))
    (word_epilogueCalled hreturned (by simp [heapStack]))
  refine hcalled.trans (reaches_listing straight_epilogueListing hbytes rfl (hafter.trans ?_))
  rw [unwound, unwoundMemory, blend_blend_self, hreturned.fs]

/-- The block is not empty, and the two functions above the heap pass it on. -/
theorem reaches_blockPassed (hblock : m'.regs.eax ≠ 0) :
    Reaches code m' (blockPassed s disk p a m m') := by
  have hstack {d v : BitVec 32} (hx : (d,v) ∈ heapStack s disk t p a m) (hd : 48 ≤ d) :
      word (unwoundMemory s p m m') (m.regs.esp-84+d) = v := word_unwoundMemory hcaller hreturned hx hd
  have hnh := @hstack 48 (s.nh p+16) (by simp [heapStack]) (by decide)
  have hbytes := @hstack 52 (2048+a) (by simp [heapStack]) (by decide)
  have hmalloc := @hstack 56 (s.malloc p+15) (by simp [heapStack]) (by decide)
  have hbytes' := @hstack 60 (2048+a) (by simp [heapStack]) (by decide)
  have hmode := @hstack 64 0 (by simp [heapStack]) (by decide)
  have hallocator := @hstack 68 (disk.allocator p+17) (by simp [heapStack]) (by decide)
  simp only [BitVec.ofNat_eq_ofNat] at hnh hbytes hmalloc hbytes' hmode hallocator hblock
  have hback : Reaches code (unwound s p a m m' 48 (s.heap p+110) (s.heap p+110))
      (unwound s p a m m' 52 (s.heap p+110) (s.nh p+16)) := by
    refine reaches_listing straight_returnListing hcode.heapTail_bytes.2.2.2.2.2.2 rfl ?_
    simp [returnListing, unwound, BitVec.add_assoc, hnh]
  have htested : Reaches code (unwound s p a m m' 52 (s.heap p+110) (s.nh p+16))
      { blockPassed s disk p a m m' with
        regs := (unwound s p a m m' 56 (2048+a) 0).regs
        eip := s.nh p+43 } := by
    refine reaches_listing straight_testBlockListing hcode.nh_bytes.2.2 rfl ?_
    simp (disch := decide) [testBlockListing, unwound, blockPassed, BitVec.add_assoc, hbytes,
      blend_resumeFlag, holds_zero_logic, hblock]
  have hmallocEntered : Reaches code
      { blockPassed s disk p a m m' with
        regs := (unwound s p a m m' 56 (2048+a) 0).regs
        eip := s.nh p+43 }
      { blockPassed s disk p a m m' with
        regs := (unwound s p a m m' 60 (2048+a) 0).regs
        eip := s.malloc p+15 } := by
    refine reaches_listing straight_returnListing hcode.nhReturn rfl ?_
    simp (disch := decide) [returnListing, unwound, blockPassed, BitVec.add_assoc, hmalloc,
      blend_resumeFlag]
  refine (((reaches_unwound hcode hcaller hreturned).trans hback).trans htested).trans
    (hmallocEntered.trans (reaches_listing straight_popTwoListing hcode.malloc_bytes.2 rfl ?_))
  simp (disch := decide) [popTwoListing, unwound, blockPassed, BitVec.add_assoc, hbytes', hmode,
    hallocator, blend_resumeFlag]

omit hcaller hreturned in
theorem reaches_blockAligned :
    Reaches code (blockPassed s disk p a m m') (blockAligned s disk p a m m') := by
  have hesp : m.regs.esp-84+72+4 = m.regs.esp-8 := by ring
  refine reaches_listing straight_alignListing hcode.aligned_bytes.2.1 rfl ?_
  simp [BitVec.add_assoc] at hesp
  simp (disch := decide) [alignListing, unwound, blockPassed, blockAligned, alignedBlock,
    BitVec.add_assoc, blend_resumeFlag, blend_blend_of_within, hesp]

/-- The address of the block is written before the buffer, and not over what is left to be popped. -/
theorem reaches_blockKept (hstack : Apart (alignedBlock m'.regs.eax a-4) 4 (m.regs.esp-8) 8) :
    Reaches code (blockAligned s disk p a m m') (blockKept s disk t p a m m') := by
  have hesi : word (setWord (unwoundMemory s p m m') (alignedBlock m'.regs.eax a-4) m'.regs.eax)
      (m.regs.esp-8) = m.regs.esi := by
    rw [word_setWord_of_apart (hstack.mono le_rfl (by decide)),
      show m.regs.esp-8 = m.regs.esp-84+76 by ring]
    exact word_unwoundMemory hcaller hreturned (by simp [heapStack]) (by decide)
  have htarget : word (setWord (unwoundMemory s p m m') (alignedBlock m'.regs.eax a-4) m'.regs.eax)
      (m.regs.esp-8+4) = t.target p+137 := by
    rw [word_setWord_of_apart (hstack.symm.left (by decide) (by decide) (by decide)).symm,
      show m.regs.esp-8+4 = m.regs.esp-84+80 by ring]
    exact word_unwoundMemory hcaller hreturned (by simp [heapStack]) (by decide)
  refine reaches_listing straight_keepBlockListing hcode.aligned_bytes.2.2 rfl ?_
  simp [BitVec.sub_eq_add_neg, BitVec.add_assoc] at hesi htarget
  simp (disch := decide) [keepBlockListing, unwound, blockPassed, blockAligned, blockKept,
    BitVec.sub_eq_add_neg, BitVec.add_assoc, blend_resumeFlag, hesi, htarget]

end Exit

/-! What the checkpoint makes of the stops. -/

/-- The checkpoint computes the flags of TEST. -/
theorem logicFlags_and (f v u : BitVec 32) :
    blend f arithmeticFlags (resultFlags v ||| u &&& 0x10) &&& 0x8c5 = testFlags v := by
  have htest : testFlags v = resultFlags v := resultFlags_eq_popcount v
  rw [htest, blend_and_of_within (by decide), or_and, BitVec.and_assoc, ← resultFlags_within,
    BitVec.and_assoc]
  simp

section Frames
variable (hcaller : CdStreamAllocationCaller s t p a m) {b : CdStreamAllocationLayout}
  {returned : DispatchRegisters} {flags : BitVec 32}
include hcaller

/-- What the check of every stop starts from. -/
theorem CdStreamAllocationCaller.origin : ¬m.regs.esp < 65700#32 ∧ m.regs.esp.toNat%4 = 0 ∧
    alignmentValid ⟨a⟩ = true ∧ m.flags &&& 0x500#32 = 0#32 :=
  ⟨BitVec.not_lt.mpr hcaller.low,hcaller.aligned,hcaller.heapRequest.alignment,hcaller.flags⟩

theorem cdStreamAllocationFrame_allocatorEntered : cdStreamAllocationFrame 1 (registers m)
    (registers (allocatorEntered disk t p m)) a b returned = true := by
  obtain ⟨hlow,haligned,hvalid,hflags⟩ := hcaller.origin
  have hflags' : blend m.flags resumeFlag 0 &&& 0x500#32 = 0#32 :=
    (blend_and_of_disjoint (by decide)).trans hflags
  have hkept : (blend m.flags resumeFlag 0 ^^^ m.flags) &&& 0xfffeffff#32 = 0#32 :=
    xor_and_eq_zero.mpr (blend_and_of_disjoint (by decide))
  simp only [BitVec.ofNat_eq_ofNat] at hflags' hkept
  simp [cdStreamAllocationFrame, registers, allocatorEntered, hlow, haligned, hvalid, hflags, hflags', hkept]

theorem cdStreamAllocationFrame_heapEntered {undefined : ℕ → BitVec 32} (hflags : flags &&& 0x500#32 = 0#32) :
    cdStreamAllocationFrame 2 (registers m)
      (registers { heapEntered s disk t p a m with flags, undefined }) a b returned = true := by
  obtain ⟨hlow,haligned,hvalid,hcall⟩ := hcaller.origin
  simp [cdStreamAllocationFrame, registers, heapEntered, passed, hlow, haligned, hvalid, hcall, hflags]

/-- The stops in the heap differ in what is on the stack. -/
theorem cdStreamAllocationFrame_inHeap {m' : Machine} (stage : ℕ) (depth : BitVec 32)
    (hstage : (stage,depth) ∈ [(3,80),(4,80),(5,92),(6,96)]) (hflags : m'.flags &&& 0x500#32 = 0#32)
    (hregs : m'.regs = { m.regs with
      eax := m.regs.esp-56, esi := 2048+a, esp := m.regs.esp-depth, ebp := m.regs.esp-40 }) :
    cdStreamAllocationFrame stage (registers m) (registers m') a b returned = true := by
  obtain ⟨hlow,haligned,hvalid,hcall⟩ := hcaller.origin
  simp only [List.mem_cons, Prod.mk.injEq, List.not_mem_nil, or_false] at hstage
  obtain ⟨rfl,rfl⟩ | ⟨rfl,rfl⟩ | ⟨rfl,rfl⟩ | ⟨rfl,rfl⟩ := hstage
  all_goals
    simp [cdStreamAllocationFrame, registers, hregs, hlow, haligned, hvalid, hcall, hflags]

variable {m' : Machine} (hreturned : HeapReturned s disk t p a m m')
include hreturned

theorem cdStreamAllocationFrame_returned :
    cdStreamAllocationFrame 7 (registers m) (registers m') a b returned = true := by
  obtain ⟨hlow,haligned,hvalid,hcall⟩ := hcaller.origin
  obtain ⟨_,hesp,hebp,hebx,hesi,hedi,_,hflags,_⟩ := hreturned
  simp at hflags
  simp [cdStreamAllocationFrame, registers, hlow, haligned, hvalid, hcall, hflags, hesp, hebp, hebx, hesi, hedi]

theorem cdStreamAllocationFrame_blockPassed (hraw : b.raw = m'.regs.eax) (hblock : b.raw ≠ 0) :
    cdStreamAllocationFrame 8 (registers m) (registers (blockPassed s disk p a m m')) a b
      (registers m') = true := by
  obtain ⟨hlow,haligned,hvalid,hcall⟩ := hcaller.origin
  have hflags : (blockPassed s disk p a m m').flags &&& 0x500#32 = 0#32 := by
    rw [blockPassed, blend_and_of_disjoint (by decide), blend_and_of_disjoint (by decide)]
    exact hreturned.flags
  have htested : (blockPassed s disk p a m m').flags &&& 0x8c5#32 = testFlags b.raw := by
    rw [hraw]
    exact logicFlags_and _ _ _
  have hesp : m.regs.esp-84+72 = m.regs.esp-12 := by ring
  simp only [BitVec.ofNat_eq_ofNat] at hesp hblock
  have hregs : (blockPassed s disk p a m m').regs = (unwound s p a m m' 72 0 0).regs := rfl
  simp [cdStreamAllocationFrame, registers, hregs, unwound, hlow, haligned, hvalid, hcall, hflags, htested, hesp,
    ← hraw, hblock]

/-- Behind the alignment, and back at the caller. -/
theorem cdStreamAllocationFrame_blockAligned (hraw : b.raw = m'.regs.eax) (hblock : b.raw ≠ 0)
    (haligned : b.aligned = alignedBlock m'.regs.eax a) :
    cdStreamAllocationFrame 9 (registers m) (registers (blockAligned s disk p a m m')) a b
        (registers m') = true ∧
      cdStreamAllocationFrame 10 (registers m) (registers (blockKept s disk t p a m m')) a b
        (registers m') = true := by
  obtain ⟨hlow,haligned',hvalid,hcall⟩ := hcaller.origin
  have hflags : (blockAligned s disk p a m m').flags &&& 0x500#32 = 0#32 := by
    rw [blockAligned, blend_and_of_disjoint (by decide), blend_and_of_disjoint (by decide)]
    exact hreturned.flags
  have htested : (blockAligned s disk p a m m').flags &&& 0x8c5#32 = testFlags b.aligned := by
    rw [haligned]
    exact logicFlags_and _ _ _
  have hkept : ((blockAligned s disk p a m m').flags ^^^ m'.flags) &&& 0xfffef72a#32 = 0#32 := by
    refine xor_and_eq_zero.mpr ?_
    rw [blockAligned, blend_and_of_disjoint (by decide), blend_and_of_disjoint (by decide)]
  have hregs : (blockAligned s disk p a m m').regs = { (unwound s p a m m' 72 0 0).regs with
      eax := alignedBlock m'.regs.eax a, ecx := m'.regs.eax, esp := m.regs.esp-8, esi := ~~~(a-1) } := rfl
  have hkeptFlags : (blockKept s disk t p a m m').flags = (blockAligned s disk p a m m').flags := rfl
  have hkeptRegs : (blockKept s disk t p a m m').regs =
    { (blockAligned s disk p a m m').regs with esp := m.regs.esp, esi := m.regs.esi } := rfl
  simp only [BitVec.ofNat_eq_ofNat] at hblock
  constructor
  all_goals
    simp [cdStreamAllocationFrame, registers, hregs, hkeptRegs, hkeptFlags, unwound, hlow, haligned', hvalid, hcall,
      hflags, htested, hkept, haligned, ← hraw, hblock]

end Frames

/-! The block. -/

/-- A block that reaches into the stack or the thread information block is rejected. -/
def blockRejected (m : Machine) (b : CdStreamAllocationLayout) : Bool :=
  b.raw < word m.mem (m.fs+4) && word m.mem (m.fs+8) < b.raw+b.bytes ||
    b.raw < m.fs+56 && m.fs < b.raw+b.bytes

theorem eq_of_cdStreamAllocationLayout {raw : BitVec 32} {b : CdStreamAllocationLayout}
    (h : cdStreamAllocationLayout raw a = (true,b)) :
    b = ⟨raw,alignedBlock raw a,alignedBlock raw a-4,2048+a⟩ := by
  simp only [cdStreamAllocationLayout] at h
  split at h
  · simp at h
  · split at h
    · simp at h
    · exact (congrArg Prod.snd h).symm

/-- Where the address of the block is kept the stack has nothing. -/
theorem apart_metadata {raw : BitVec 32} {b : CdStreamAllocationLayout}
    (hcaller : CdStreamAllocationCaller s t p a m) (h : cdStreamAllocationLayout raw a = (true,b))
    (haccepted : blockRejected m b = false) : Apart b.metadata 4 (m.regs.esp-8) 8 := by
  have hallocatable := allocatable_of_layout (congrArg Prod.fst h)
  obtain ⟨b',hb',hplaced⟩ := layout_of_allocatable hallocatable
  obtain rfl : b' = b := (Prod.mk.inj (hb'.symm.trans h)).2
  obtain ⟨hraw,_,hmetadata,hbytes,habove,hbelow⟩ := hplaced
  obtain ⟨hlimit,hbase⟩ := hcaller.bounds
  have hlow := hcaller.low
  have hfits := hallocatable.fits
  rw [blockRejected, Bool.or_eq_false_iff] at haccepted
  have hstack := haccepted.1
  rw [Bool.and_eq_false_iff, decide_eq_false_iff_not, decide_eq_false_iff_not, hraw] at hstack
  rw [Apart]
  obtain hbeyond | hbefore := hstack <;> bv_omega

/-! What the checkpoint says of the code, from its end to its start. -/

/-- From the return of HeapAlloc on. -/
def BlockDescribed (s : CdStreamAllocationSpec) (disk : CdStreamDiskSpec) (t : CdStreamTablesSpec)
    (p : FileManagerEntrySpec) (a : BitVec 32) (code : Memory) (m m₇ : Machine) : Prop :=
  m₇.eip = s.heap p+105 ∧
    (∀ b returned, cdStreamAllocationFrame 7 (registers m) (registers m₇) a b returned = true) ∧
    ∀ b, cdStreamAllocationLayout m₇.regs.eax a = (true,b) → blockRejected m b = false →
      ∃ m₈ m₉ m₁₀, Reaches code m₇ m₈ ∧ Reaches code m₈ m₉ ∧ Reaches code m₉ m₁₀ ∧
        m₈.eip = disk.allocator p+17 ∧ m₉.eip = disk.allocator p+30 ∧ m₁₀.eip = t.target p+137 ∧
        (∀ x ∈ [(8,m₈),(9,m₉),(10,m₁₀)],
          cdStreamAllocationFrame x.1 (registers m) (registers x.2) a b (registers m₇) = true) ∧
        m₁₀.regs = { m₇.regs with
          eax := b.aligned, ecx := b.raw, ebx := m.regs.ebx, esp := m.regs.esp, ebp := m.regs.ebp
          esi := m.regs.esi, edi := m.regs.edi } ∧
        word m₁₀.mem b.metadata = b.raw

/-- From the comparison of the mode to the CALL of HeapAlloc. Only mode 3 looks at the threshold. -/
def HeapModeDescribed (s : CdStreamAllocationSpec) (p : FileManagerEntrySpec) (a : BitVec 32)
    (code : Memory) (m m₃ m₅ : Machine) : Prop :=
  if word m.mem (s.heapMode p) = 3 then
    ∃ m₄, Reaches code m₃ m₄ ∧ Reaches code m₄ m₅ ∧ m₄.eip = s.heap p+30 ∧
      ∀ b returned, cdStreamAllocationFrame 4 (registers m) (registers m₄) a b returned = true
  else ReachesAvoiding code (s.heap p+30) m₃ m₅

/-- From the caller on the execution comes to all stops, whatever block HeapAlloc returns, and the
checkpoint describes them. -/
def CdStreamAllocationDescribed (s : CdStreamAllocationSpec) (disk : CdStreamDiskSpec)
    (t : CdStreamTablesSpec) (p : FileManagerEntrySpec) (a : BitVec 32) (code : Memory)
    (m : Machine) : Prop :=
  ∃ m₁ m₂ m₃ m₅ m₆, Reaches code m m₁ ∧ Reaches code m₁ m₂ ∧ Reaches code m₂ m₃ ∧
    HeapModeDescribed s p a code m m₃ m₅ ∧ Reaches code m₅ m₆ ∧
    m₁.eip = disk.allocator p ∧ m₂.eip = s.heap p ∧ m₃.eip = s.heap p+22 ∧
    m₅.eip = s.heap p+99 ∧ m₆.eip = word m.mem (s.iat p) ∧
    (∀ x ∈ [(1,m₁),(2,m₂),(3,m₃),(5,m₅),(6,m₆)], ∀ b returned,
      cdStreamAllocationFrame x.1 (registers m) (registers x.2) a b returned = true) ∧
    ∀ m₇, Returned 12 0x500 [(m.regs.esp-80,80)] m₆ m₇ → BlockDescribed s disk t p a code m m₇

/-- Neither the trap flag nor the direction flag is ever set. -/
theorem flags_of_reaches {m' : Machine} (h : Reaches code m m') (hflags : m.flags &&& 0x500 = 0) :
    m'.flags &&& 0x500#32 = 0#32 :=
  (and_eq_of_agree h.kept.1 (by decide)).trans hflags

theorem blockDescribed {m₇ : Machine} (hcode : CdStreamAllocationLoaded s disk t p seh ready c code)
    (hcaller : CdStreamAllocationCaller s t p a m) (hreturned : HeapReturned s disk t p a m m₇) :
    BlockDescribed s disk t p a code m m₇ := by
  refine ⟨hreturned.eip,fun b returned => cdStreamAllocationFrame_returned hcaller hreturned,?_⟩
  intro b hlayout haccepted
  have hb := eq_of_cdStreamAllocationLayout hlayout
  have hraw : b.raw = m₇.regs.eax := congrArg CdStreamAllocationLayout.raw hb
  have haligned : b.aligned = alignedBlock m₇.regs.eax a := congrArg CdStreamAllocationLayout.aligned hb
  have hmetadata : b.metadata = alignedBlock m₇.regs.eax a-4 :=
    congrArg CdStreamAllocationLayout.metadata hb
  have hblock : b.raw ≠ 0 := by
    have hleast := (allocatable_of_layout (congrArg Prod.fst hlayout)).raw_least
    rw [hraw]
    bv_omega
  have hstack := apart_metadata hcaller hlayout haccepted
  rw [hmetadata] at hstack
  obtain ⟨hninth,htenth⟩ :=
    @cdStreamAllocationFrame_blockAligned s disk t p a m hcaller b m₇ hreturned hraw hblock haligned
  refine ⟨blockPassed s disk p a m m₇,blockAligned s disk p a m m₇,blockKept s disk t p a m m₇,
    reaches_blockPassed hcode hcaller hreturned (hraw ▸ hblock),reaches_blockAligned hcode,
    reaches_blockKept hcode hcaller hreturned hstack,rfl,rfl,rfl,?_,?_,?_⟩
  · simp only [List.forall_mem_cons]
    exact ⟨cdStreamAllocationFrame_blockPassed hcaller hreturned hraw hblock,hninth,htenth,by simp⟩
  · rw [haligned, hraw]
    rfl
  · rw [hmetadata, hraw]
    exact word_setWord_self _ _ _

/-- One of the two ways through the heap. -/
theorem heapModeDescribed (hcode : CdStreamAllocationLoaded s disk t p seh ready c code)
    (hcaller : CdStreamAllocationCaller s t p a m) {f : BitVec 32} {u : ℕ → BitVec 32}
    (hflags : f &&& 0x500 = 0) :
    let m₃ := inHeap s disk t p seh a m (s.heap p+22) (blend f arithmeticFlags
      (subFlags (word m.mem (s.heapMode p)) 3)) u
    ∃ flags undefined, Reaches code m₃ { argumentsPushed s disk t p seh a m with flags, undefined } ∧
      HeapModeDescribed s p a code m m₃ { argumentsPushed s disk t p seh a m with flags, undefined } := by
  intro m₃
  obtain hone | ⟨hthree,hlow⟩ := hcaller.heapRequest.mode
  · obtain ⟨flags,undefined,havoids⟩ := (avoids_modePassed hcode hone f u).trans
      (avoids_argumentsPushed hcode hcaller)
    refine ⟨flags,undefined,havoids.reaches,?_⟩
    rw [HeapModeDescribed, if_neg (by rw [hone]; decide)]
    exact havoids
  · have hfourth := reaches_thresholdCompared hcode hcaller hthree f u
    obtain ⟨flags,undefined,hpushed⟩ := (reaches_thresholdPassed hcode hlow (blend f resumeFlag 0) u).trans
      fun flags undefined => (avoids_argumentsPushed hcode hcaller flags undefined).upToFlags
    refine ⟨flags,undefined,hfourth.trans hpushed,?_⟩
    rw [HeapModeDescribed, if_pos hthree]
    refine ⟨_,hfourth,hpushed,rfl,fun b returned => ?_⟩
    refine cdStreamAllocationFrame_inHeap hcaller 4 80 (by simp) (flags_of_reaches hfourth ?_) rfl
    rw [inHeap, blend_and_of_disjoint (by decide)]
    exact hflags

theorem cd_stream_allocation_describes_code
    (hcode : CdStreamAllocationLoaded s disk t p seh ready c code)
    (hcaller : CdStreamAllocationCaller s t p a m) :
    CdStreamAllocationDescribed s disk t p a code m := by
  have hfirst : Reaches code m (allocatorEntered disk t p m) := reaches_allocatorEntered hcode hcaller.eip
  obtain ⟨f₂,u₂,hsecond⟩ := ((reaches_mallocEntered hcode hcaller).trans
    (reaches_nhEntered hcode hcaller)).trans (reaches_heapEntered hcode hcaller)
  obtain ⟨f₃,u₃,hinstalled⟩ := (reaches_heapPrologueEntered hcode hcaller f₂ u₂).trans
    (reaches_handlerInstalled hcode hcaller)
  have hthird := hinstalled.trans (reaches_modeCompared hcode hcaller f₃ u₃)
  have hflags₂ := flags_of_reaches (hfirst.trans hsecond) hcaller.flags
  have hflags₃ := flags_of_reaches hthird hflags₂
  have hflags₃' : blend f₃ resumeFlag 0 &&& 0x500 = 0 := by
    rw [blend_and_of_disjoint (by decide)]
    exact flags_of_reaches hinstalled hflags₂
  obtain ⟨f₅,u₅,hfifth,hmode⟩ := @heapModeDescribed _ _ _ _ _ _ _ _ _ _ hcode hcaller _ u₃ hflags₃'
  have hsixth := reaches_heapAllocEntered hcode hcaller f₅ u₅
  have hflags₅ := flags_of_reaches hfifth hflags₃
  have hflags₆ := flags_of_reaches hsixth hflags₅
  refine ⟨_,_,_,_,_,hfirst,hsecond,hthird,hmode,hsixth,rfl,rfl,rfl,rfl,rfl,?_,?_⟩
  · simp only [List.forall_mem_cons]
    exact ⟨fun _ _ => cdStreamAllocationFrame_allocatorEntered hcaller,
      fun _ _ => cdStreamAllocationFrame_heapEntered hcaller hflags₂,
      fun _ _ => cdStreamAllocationFrame_inHeap hcaller 3 80 (by simp) hflags₃ rfl,
      fun _ _ => cdStreamAllocationFrame_inHeap hcaller 5 92 (by simp) hflags₅ rfl,
      fun _ _ => cdStreamAllocationFrame_inHeap hcaller 6 96 (by simp) hflags₆ rfl,by simp⟩
  · intro m₇ hreturned
    exact blockDescribed hcode hcaller (heapReturned_of_returned hcaller hflags₆ hreturned)

/-! The reviewed image, and a thread in it whose heap is in mode 3. -/

def reviewedCdStreamAllocationSpec : CdStreamAllocationSpec where
  mallocRva := 4342359
  nhRva := 4342315
  heapRva := 4342192
  scopeRva := 4751432
  newModeRva := 9022924
  thresholdRva := 9028324
  heapHandleRva := 9028340
  heapModeRva := 9028344
  iatRva := 4555256
  scopeCleanupRva := 4342303
  function :=
    { rva := 260224
      prefixBytes := #v[0x8b,0xff,0x55,0x8b,0xec,0x6a,0xfe,0x68,0xe5,0x39,0x4b,0x68,0x80,0x25,0x30,0x4b,
        0x64,0xa1,0,0]
      preferredBase := 1260912640
      highlowMask := 8448 }

def reviewedCdStreamAllocationCode : CdStreamAllocationCode where
  aligned := writeDword 13 0xf4d86 alignedAllocatorRaw
  malloc := writeDword 11 0xffffffc5 (writeDword 2 0xc9adcc mallocRaw)
  nh := writeDword 12 0xffffff75 newHandlerMallocRaw
  heapEntry := writeDword 26 0xc9c2e4 (writeDword 17 0xc9c2f8 (writeDword 8 0x4524
    (writeDword 3 0x888048 heapEntryRaw)))
  heapTail := writeDword 36 0x44fd (writeDword 31 0x8581f8 (writeDword 25 0xc9c2f4
    (writeDword 7 0xc9c2f8 heapTailRaw)))

def reviewedCdStreamAllocationSections : List (Address × List UInt8) :=
  [(0x406bb4,reviewedCdStreamDiskCode.toList),(0x72f4c0,reviewedCdStreamAllocationCode.aligned.toList),
    (0x824257,reviewedCdStreamAllocationCode.malloc.toList),
    (0x82422b,reviewedCdStreamAllocationCode.nh.toList),(0x824256,[0xc3]),
    (0x8241b0,reviewedCdStreamAllocationCode.heapEntry.toList),
    (0x8241f6,reviewedCdStreamAllocationCode.heapTail.toList),
    (0x8286e0,reviewedCwdSehCode.prologue.toList),(0x82871b,reviewedFileManagerReadyCode.epilogue.toList)]

def reviewedCdStreamAllocationMemory : Memory := stores (fun _ => 0) reviewedCdStreamAllocationSections

def reviewedCdStreamAllocationThread : Machine where
  regs := ⟨0x60000000,512,3,0,0x19ff14,0x19ff74,0,0x8e4090⟩
  flags := 0x206
  eip := 0x406bf4
  mem := setWords (setWords (setWords (fun _ => 0) 0x19ff14 [(0,2048),(4,512)]) 0xc9c2e4
    [(0,1016),(16,0x2a0000),(20,3)]) 0 [(0x8581f8,0x4b2bf880),(0x7ffde000,-1),(0x7ffde004,0x1a0000),
      (0x7ffde008,0x100000)]
  fs := 0x7ffde000
  undefined := fun _ => 0

theorem cdStreamAllocationLoaded_reviewed : CdStreamAllocationLoaded reviewedCdStreamAllocationSpec
    reviewedCdStreamDiskSpec reviewedCdStreamTablesSpec reviewedFileManagerSpec reviewedCwdSehSpec
    reviewedFileManagerReadySpec reviewedCdStreamAllocationCode reviewedCdStreamAllocationMemory := by
  have hsections : ∀ x ∈ reviewedCdStreamAllocationSections,
      HasBytes reviewedCdStreamAllocationMemory x.1 x.2 :=
    hasBytes_stores (by decide) (by decide)
  simp only [reviewedCdStreamAllocationSections, List.forall_mem_cons] at hsections
  obtain ⟨hdisk,haligned,hmalloc,hnh,hreturn,hentry,htail,hprologue,hepilogue,_⟩ := hsections
  constructor
  · dsimp only [cdStreamAllocationCode]
    rw [if_neg (by decide)]
    rfl
  · exact ⟨reviewedCdStreamDiskCode,cdStreamDiskLoaded_reviewed.emits,hdisk⟩
  · exact haligned
  · exact hmalloc
  · exact hnh
  · exact hreturn
  · exact hentry
  · exact htail
  · exact ⟨reviewedCwdSehCode,by decide,hprologue⟩
  · exact ⟨reviewedCwdReturnSpec,reviewedCwdLockSpec,reviewedFileManagerReadyCode,
      fileManagerReadyLoaded_reviewed.emits,hepilogue⟩

theorem cdStreamAllocationCaller_reviewed : CdStreamAllocationCaller reviewedCdStreamAllocationSpec
    reviewedCdStreamTablesSpec reviewedFileManagerSpec 512 reviewedCdStreamAllocationThread := by
  constructor
  case stack | head =>
    simp only [List.forall_mem_cons, List.not_mem_nil, false_imp_iff, implies_true, and_true]
    decide
  all_goals decide

/-- HeapAlloc answers with a block at 0x200000. -/
theorem cd_stream_allocation_describes_reviewed_code :
    CdStreamAllocationDescribed reviewedCdStreamAllocationSpec reviewedCdStreamDiskSpec
      reviewedCdStreamTablesSpec reviewedFileManagerSpec 512 reviewedCdStreamAllocationMemory
      reviewedCdStreamAllocationThread ∧
    ∃ m₆ m₁₀, Reaches reviewedCdStreamAllocationMemory reviewedCdStreamAllocationThread m₆ ∧
      m₆.eip = 0x4b2bf880 ∧ Reaches reviewedCdStreamAllocationMemory (backFrom 12 0x200000 m₆.mem m₆) m₁₀ ∧
      m₁₀.eip = reviewedCdStreamTablesSpec.target reviewedFileManagerSpec+137 ∧
      m₁₀.regs.esp = 0x19ff14 ∧ m₁₀.regs.eax = 0x200200 ∧ word m₁₀.mem 0x2001fc = 0x200000 := by
  have hdescribed := cd_stream_allocation_describes_code cdStreamAllocationLoaded_reviewed
    cdStreamAllocationCaller_reviewed
  refine ⟨hdescribed,?_⟩
  obtain ⟨m₁,m₂,m₃,m₅,m₆,hfirst,hsecond,hthird,hmode,hsixth,_,_,_,_,hiat,_,hback⟩ := hdescribed
  rw [HeapModeDescribed, if_pos (by decide)] at hmode
  obtain ⟨m₄,hfourth,hfifth,_⟩ := hmode
  have hreturned := @returned_backFrom 12 0x200000 0x500 m₆.mem
    [(reviewedCdStreamAllocationThread.regs.esp-80,80)] m₆ fun _ _ => rfl
  obtain ⟨_,_,hblock⟩ := hback _ hreturned
  have hlayout : cdStreamAllocationLayout 0x200000 512 = (true,(cdStreamAllocationLayout 0x200000 512).2) := by
    decide
  have haligned : (cdStreamAllocationLayout 0x200000 512).2.aligned = 0x200200 := by decide
  obtain ⟨m₈,m₉,m₁₀,heighth,hninth,htenth,_,_,heip,_,hregs,hword⟩ := hblock _ hlayout (by decide)
  have hentered : m₆.eip = 0x4b2bf880 := hiat.trans (by decide)
  refine ⟨m₆,m₁₀,((((hfirst.trans hsecond).trans hthird).trans hfourth).trans hfifth).trans hsixth,hentered,
    (heighth.trans hninth).trans htenth,heip,?_,?_,hword⟩
  · rw [hregs]
    rfl
  · rw [hregs]
    exact haligned

end Saex
