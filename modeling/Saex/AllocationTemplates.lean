import Saex.CdStreamAllocation
import Saex.PythonValues
import Saex.Recognizers

/-! tools/cd_stream_allocation_policy.py: the code of the allocator as the policy compiler
makes it up from templates, before it is compared with the reviewed code. The parents of the
policy and its other fields are left out: they only refuse. -/
namespace Saex
open LittleEndian Recognizers

/-- The keys of `values`. -/
inductive AllocationRva
  | allocatorRva | mallocRva | nhRva | heapRva | scopeRva | newModeRva | thresholdRva
  | heapHandleRva | heapModeRva | iatRva | scopeCleanupRva | prologueRva | epilogueRva
deriving DecidableEq

inductive AllocationBlock
  | aligned | malloc | nh | heapEntry | heapTail
deriving DecidableEq

/-- Where the block starts, its bytes, and the operands: their offsets, what they lead to,
and whether they are relative. -/
structure AllocationTemplate where
  field : AllocationRva
  delta : ℤ
  hex : String
  patches : List (ℕ × AllocationRva × Bool)

open AllocationRva in
/-- `TEMPLATES` -/
def allocationTemplate : AllocationBlock → AllocationTemplate
  | .aligned => ⟨allocatorRva,0,
    "8b442404568b74240c03c650e8000000008bc88d043183c4044ef7d623c68948fc5ec3",[(13,mallocRva,true)]⟩
  | .malloc => ⟨mallocRva,0,"ff3500000000ff742408e8000000005959c3",
    [(2,newModeRva,false),(11,nhRva,true)]⟩
  | .nh => ⟨nhRva,0,"837c2404e07722ff742404e80000000085c0597516",[(12,heapRva,true)]⟩
  | .heapEntry => ⟨heapRva,0,"6a0c6800000000e8000000008b7508833d0000000003752e3b35000000007726",
    [(3,scopeRva,false),(8,prologueRva,true),(17,heapModeRva,false),(26,thresholdRva,false)]⟩
  | .heapTail => ⟨heapRva,70,
    "85f6750146833d0000000001740683c60f83e6f0566a00ff3500000000ff1500000000e800000000c3",
    [(7,heapModeRva,false),(25,heapHandleRva,false),(31,iatRva,false),(36,epilogueRva,true)]⟩

/-- `struct.pack_into('<I', body, offset, value & 0xffffffff)` -/
def packInto (body : List UInt8) (offset : ℕ) (value : ℤ) : List UInt8 :=
  body.take offset++(bytes 4 (value%2^32).toNat++body.drop (offset+4))

variable (base : ℤ) (values : AllocationRva → ℤ)

/-- A template with its operands. -/
def templateBody (t : AllocationTemplate) : List UInt8 :=
  let start := values t.field+t.delta
  t.patches.foldl (fun body x => packInto body x.1
    (if x.2.2 then values x.2.1-start-x.1-4 else base+values x.2.1)) (pyText t.hex).fromHex

open AllocationRva in
/-- The spans of the policy, with the flags that a section holding each must have. -/
def allocationSpans : List (ℤ × ℤ × ℕ) :=
  [(values allocatorRva,35,0x20000000),(values mallocRva,18,0x20000000),
    (values nhRva,44,0x20000000),(values heapRva,111,0x20000000),(values scopeRva,12,0x40000000),
    (values scopeCleanupRva,1,0x20000000),(values iatRva,4,0x40000000)]++
  [newModeRva,thresholdRva,heapHandleRva,heapModeRva].map fun k => (values k,4,0xc0000000)

def ProfileSection.holdsSpan (s : ProfileSection) (span : ℤ × ℤ × ℕ) : Bool :=
  s.rva ≤ span.1 &&
    span.1+span.2.1 ≤ s.rva+(if span.2.2 = 0xc0000000 then s.virtualSize else s.rawSize) &&
    s.characteristics &&& span.2.2 = span.2.2

/-- The loop over the spans, with those done. -/
def checkSpans (sections : List ProfileSection) : List (ℤ × ℤ × ℕ) → List (ℤ × ℤ × ℕ) →
    Except String Unit
  | _, [] => .ok ()
  | done, span :: rest => do
    refuseIf (¬sections.any (·.holdsSpan span)) "allocation_section"
    refuseIf (done.any fun o => span.1 < o.1+o.2.1 && o.1 < span.1+span.2.1) "allocation_overlap"
    checkSpans sections (done++[span]) rest

open AllocationRva in
/-- The part of `compile_source` that is about the code; it returns the five blocks. -/
def compileAllocation (layout : ProfileLayout) (reviewed : AllocationBlock → PyText)
    (values : AllocationRva → ℤ) : Except String (AllocationBlock → List UInt8) := do
  refuseIf (¬([allocatorRva,mallocRva,nhRva,heapRva,scopeRva,newModeRva,thresholdRva,heapHandleRva,
      heapModeRva,iatRva,scopeCleanupRva,prologueRva,epilogueRva].all fun k =>
        4096 ≤ values k && values k < layout.imageSize) ∨
    [scopeRva,newModeRva,thresholdRva,heapHandleRva,heapModeRva,iatRva].any fun k =>
      values k%4 ≠ 0) "allocation_range"
  checkSpans layout.sections [] (allocationSpans values)
  let body := fun name => templateBody layout.imageBase values (allocationTemplate name)
  refuseIf ([.aligned,.malloc,.nh,.heapEntry,.heapTail].any fun name =>
    reviewed name ≠ PyText.hexOf (body name)) "allocation_code"
  return body

def CdStreamAllocationCode.block (code : CdStreamAllocationCode) : AllocationBlock → List UInt8
  | .aligned => code.aligned.toList
  | .malloc => code.malloc.toList
  | .nh => code.nh.toList
  | .heapEntry => code.heapEntry.toList
  | .heapTail => code.heapTail.toList

/-- The numbers of the policy as the structures of the loader hold them. -/
structure AllocationAssigned (base : ℤ) (values : AllocationRva → ℤ) (s : CdStreamAllocationSpec)
    (disk : CdStreamDiskSpec) (m : FileManagerEntrySpec) (seh : CwdSehSpec)
    (ready : FileManagerReadySpec) : Prop where
  imageBase : m.manager.imageBase = .ofInt 32 base
  allocatorRva : disk.allocatorRva = .ofInt 32 (values .allocatorRva)
  mallocRva : s.mallocRva = .ofInt 32 (values .mallocRva)
  nhRva : s.nhRva = .ofInt 32 (values .nhRva)
  heapRva : s.heapRva = .ofInt 32 (values .heapRva)
  scopeRva : s.scopeRva = .ofInt 32 (values .scopeRva)
  newModeRva : s.newModeRva = .ofInt 32 (values .newModeRva)
  thresholdRva : s.thresholdRva = .ofInt 32 (values .thresholdRva)
  heapHandleRva : s.heapHandleRva = .ofInt 32 (values .heapHandleRva)
  heapModeRva : s.heapModeRva = .ofInt 32 (values .heapModeRva)
  iatRva : s.iatRva = .ofInt 32 (values .iatRva)
  scopeCleanupRva : s.scopeCleanupRva = .ofInt 32 (values .scopeCleanupRva)
  prologueRva : seh.prologue.targetRva = .ofInt 32 (values .prologueRva)
  epilogueRva : ready.epilogueRva = .ofInt 32 (values .epilogueRva)

variable {base : ℤ} {values : AllocationRva → ℤ}

theorem ofInt_sub (x y : ℤ) : BitVec.ofInt 32 (x-y) = .ofInt 32 x-.ofInt 32 y := by
  rw [Int.sub_eq_add_neg, BitVec.ofInt_add, BitVec.ofInt_neg, BitVec.sub_eq_add_neg]

theorem packInto_toList {n k : ℕ} {code : Vector UInt8 n} {v : ℤ} (h : k+4 ≤ n) :
    packInto code.toList k v = (writeDword k (.ofInt 32 v) code).toList := by
  rw [toList_writeDword h, packInto, write_eq, BitVec.toNat_ofInt]
  rfl

/-- The operand of a patch as the loader computes it. -/
def templateOperand (base : ℤ) (values : AllocationRva → ℤ) (start : ℤ)
    (x : ℕ × AllocationRva × Bool) : BitVec 32 :=
  if x.2.2 then .ofInt 32 (values x.2.1)-.ofInt 32 start-.ofInt 32 (x.1+4)
  else .ofInt 32 base+.ofInt 32 (values x.2.1)

theorem templateOperand_eq {start : ℤ} {x : ℕ × AllocationRva × Bool} :
    .ofInt 32 (if x.2.2 then values x.2.1-start-x.1-4 else base+values x.2.1) =
      templateOperand base values start x := by
  unfold templateOperand
  split
  · rw [Int.sub_sub, ofInt_sub, ofInt_sub]
  · rw [BitVec.ofInt_add]

/-- The operands of a template are written one after another into its bytes. -/
theorem templateBody_eq {t : AllocationTemplate} {n : ℕ} {raw : Vector UInt8 n}
    (hraw : (pyText t.hex).fromHex = raw.toList) (hfit : ∀ x ∈ t.patches, x.1+4 ≤ n) :
    templateBody base values t = (t.patches.foldl (fun code x =>
      writeDword x.1 (templateOperand base values (values t.field+t.delta) x) code) raw).toList := by
  unfold templateBody
  rw [hraw]
  clear hraw
  generalize t.patches = patches at hfit
  induction patches generalizing raw with
  | nil => rfl
  | cons x patches ih =>
    obtain ⟨hx,hrest⟩ := List.forall_mem_cons.mp hfit
    simp only [List.foldl_cons]
    rw [packInto_toList hx, templateOperand_eq]
    exact ih hrest

/-- The bytes of the templates are those of the loader's blocks. -/
theorem allocationTemplate_raw :
    (pyText (allocationTemplate .aligned).hex).fromHex = alignedAllocatorRaw.toList ∧
    (pyText (allocationTemplate .malloc).hex).fromHex = mallocRaw.toList ∧
    (pyText (allocationTemplate .nh).hex).fromHex = newHandlerMallocRaw.toList ∧
    (pyText (allocationTemplate .heapEntry).hex).fromHex = heapEntryRaw.toList ∧
    (pyText (allocationTemplate .heapTail).hex).fromHex = heapTailRaw.toList := by
  decide

section Blocks
variable {s : CdStreamAllocationSpec} {disk : CdStreamDiskSpec} {m : FileManagerEntrySpec}
  {seh : CwdSehSpec} {ready : FileManagerReadySpec} {code : CdStreamAllocationCode}

/-- The operands of both agree: where a block starts, a relative operand ends, and the base. -/
theorem templateBody_eq_code (ha : AllocationAssigned base values s disk m seh ready)
    (hcode : cdStreamAllocationCode s disk m seh ready = some code) :
    templateBody base values (allocationTemplate .aligned) = code.aligned.toList ∧
    templateBody base values (allocationTemplate .malloc) = code.malloc.toList ∧
    templateBody base values (allocationTemplate .nh) = code.nh.toList ∧
    templateBody base values (allocationTemplate .heapEntry) = code.heapEntry.toList ∧
    templateBody base values (allocationTemplate .heapTail) = code.heapTail.toList := by
  obtain ⟨haligned,hmalloc,hnh,hentry,htail⟩ := allocationTemplate_raw
  obtain ⟨-,hcode⟩ := Option.ite_none_left_eq_some.mp hcode
  have hstart (k : AllocationRva) : BitVec.ofInt 32 (values k+0) = .ofInt 32 (values k) := by
    rw [Int.add_zero]
  have hentered : BitVec.ofInt 32 (values .heapRva+70) = .ofInt 32 (values .heapRva)+70 :=
    BitVec.ofInt_add _ _
  rw [templateBody_eq haligned (by decide), templateBody_eq hmalloc (by decide),
    templateBody_eq hnh (by decide), templateBody_eq hentry (by decide),
    templateBody_eq htail (by decide), ← Option.some.inj hcode]
  simp only [allocationTemplate, List.foldl_cons, List.foldl_nil, templateOperand, if_true,
    Bool.false_eq_true, if_false, hstart, hentered, Nat.cast_ofNat, Int.reduceAdd,
    BitVec.reduceOfInt, BitVec.ofNat_eq_ofNat, ha.imageBase, ha.allocatorRva, ha.mallocRva, ha.nhRva, ha.heapRva,
    ha.scopeRva, ha.newModeRva, ha.thresholdRva, ha.heapHandleRva, ha.heapModeRva, ha.iatRva,
    ha.prologueRva, ha.epilogueRva, and_self]

theorem compileAllocation_body {layout : ProfileLayout} {reviewed : AllocationBlock → PyText}
    {body : AllocationBlock → List UInt8} (h : compileAllocation layout reviewed values = .ok body) :
    body = fun name => templateBody layout.imageBase values (allocationTemplate name) := by
  simp only [compileAllocation, StoppingRuns.bind_ok_iff] at h
  obtain ⟨_,_,_,_,_,_,h⟩ := h
  exact (Except.ok.inj h).symm

/-- Where the compiler accepts the numbers and the loader builds the code, they have made up
the same bytes. -/
theorem compileAllocation_eq_code {layout : ProfileLayout} {reviewed : AllocationBlock → PyText}
    {body : AllocationBlock → List UInt8}
    (ha : AllocationAssigned layout.imageBase values s disk m seh ready)
    (hbody : compileAllocation layout reviewed values = .ok body)
    (hcode : cdStreamAllocationCode s disk m seh ready = some code) : body = code.block := by
  rw [compileAllocation_body hbody]
  obtain ⟨haligned,hmalloc,hnh,hentry,htail⟩ := templateBody_eq_code ha hcode
  funext name
  cases name with
  | aligned => exact haligned
  | malloc => exact hmalloc
  | nh => exact hnh
  | heapEntry => exact hentry
  | heapTail => exact htail

end Blocks

def smallAllocationLayout : ProfileLayout :=
  ⟨0x400000,0x100000,[⟨0x1000,0x10000,0x10000,0x60000020⟩,⟨0x20000,0x1000,0x1000,0x40000040⟩,
    ⟨0x30000,0x1000,0x200,0xc0000040⟩]⟩

def smallAllocationValues : AllocationRva → ℤ
  | .allocatorRva => 0x1000
  | .mallocRva => 0x1100
  | .nhRva => 0x1200
  | .heapRva => 0x1300
  | .scopeRva => 0x20000
  | .newModeRva => 0x30000
  | .thresholdRva => 0x30010
  | .heapHandleRva => 0x30020
  | .heapModeRva => 0x30400
  | .iatRva => 0x20100
  | .scopeCleanupRva => 0x1400
  | .prologueRva => 0x1500
  | .epilogueRva => 0x1600

/-- The hex of the blocks that go with the numbers. -/
def smallReviewed (name : AllocationBlock) : PyText :=
  .hexOf (templateBody 0x400000 smallAllocationValues (allocationTemplate name))

def smallAllocation : CdStreamAllocationSpec × CdStreamDiskSpec × FileManagerEntrySpec ×
    CwdSehSpec × FileManagerReadySpec :=
  let frame := fun r => ⟨0x400000,0x100000,0,r,.replicate 5 0,.replicate 16 0⟩
  ⟨⟨0x1100,0x1200,0x1300,0x20000,0x30000,0x30010,0x30020,0x30400,0x20100,0x1400,{rva := 0x1000}⟩,
    ⟨0x30204,0x1000,0,0,{}⟩,⟨frame 0,0,0x30104,0,.replicate 16 0⟩,
    ⟨frame 0,frame 0x1500,0,0,0,.replicate 16 0⟩,⟨0,0,0x1600,{}⟩⟩

theorem compileAllocation_eq_code_small :
    ∃ body code, compileAllocation smallAllocationLayout smallReviewed smallAllocationValues =
        .ok body ∧
      cdStreamAllocationCode smallAllocation.1 smallAllocation.2.1 smallAllocation.2.2.1
        smallAllocation.2.2.2.1 smallAllocation.2.2.2.2 = some code ∧ body = code.block := by
  obtain ⟨code,hcode⟩ := Option.isSome_iff_exists.mp (show (cdStreamAllocationCode smallAllocation.1
    smallAllocation.2.1 smallAllocation.2.2.1 smallAllocation.2.2.2.1
    smallAllocation.2.2.2.2).isSome by decide)
  have hbody : compileAllocation smallAllocationLayout smallReviewed smallAllocationValues = .ok
      (fun name => templateBody 0x400000 smallAllocationValues (allocationTemplate name)) := by
    simp only [compileAllocation, StoppingRuns.bind_ok_iff, refuseIf_ok_iff]
    exact ⟨⟨⟩,by decide,⟨⟩,rfl,⟨⟩,by decide,rfl⟩
  exact ⟨_,code,hbody,hcode,compileAllocation_eq_code
    ⟨rfl,rfl,rfl,rfl,rfl,rfl,rfl,rfl,rfl,rfl,rfl,rfl,rfl,rfl⟩ hbody hcode⟩

end Saex
