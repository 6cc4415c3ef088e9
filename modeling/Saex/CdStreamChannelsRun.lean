import Saex.CdStreamChannels
import Saex.CdStreamDiskRun

/-! The code that the checkpoint pins, executed: the error code is reset, five channels of 48 bytes
are allocated, and the pointer to them is published. -/
namespace Saex
open LittleEndian WrappedMemory Ia32

/-! What the bytes of `cdStreamChannelsCode` and of the thunks stand for. -/

def resetErrorListing : Listing :=
  [([0x83,0xc4,0x0c],.alu .add (.reg .esp) (.imm 12)),
   ([0x6a,0],.push (.imm 0)),
   ([0x8b,0xf8],.mov (.reg .edi) (.reg .eax))]

def countChannelsListing (names : BitVec 32) : Listing :=
  [([0x8b,0x44,0x24,0x1c],.mov (.reg .eax) (.mem { base := some .esp, displacement := 28 })),
   ([0x8d,0x0c,0x40],.lea .ecx { base := some .eax, index := some (.eax,1) }),
   ([0xc1,0xe1,4],.shl .ecx 4),
   ([0x51],.push (.reg .ecx)),
   ([0x6a,0x40],.push (.imm 0x40)),
   ([0xc7,5]++(write 4 (names-4)++write 4 (0 : BitVec 32)),
     .mov (.mem { displacement := dword (names-4) }) (.imm (dword 0))),
   (0xa3 :: write 4 (names-8),.mov (.mem { displacement := dword (names-8) }) (.reg .eax))]

def publishListing (filename pointer : BitVec 32) : Listing :=
  [([0x6a,0],.push (.imm 0)),
   (0x68 :: write 4 filename,.push (.imm (dword filename))),
   (0xa3 :: write 4 pointer,.mov (.mem { displacement := dword pointer }) (.reg .eax))]

def jumpListing (slot : BitVec 32) : Listing :=
  [([0xff,0x25]++write 4 slot,.jmpTo (.mem { displacement := dword slot }))]

/-- The frame is set up and taken down again. -/
def localThunkListing (slot : BitVec 32) : Listing :=
  [([0x8b,0xff],.mov (.reg .edi) (.reg .edi)),
   ([0x55],.push (.reg .ebp)),
   ([0x8b,0xec],.mov (.reg .ebp) (.reg .esp)),
   ([0x5d],.pop .ebp)]++jumpListing slot

theorem straight_resetErrorListing : Straight resetErrorListing := by
  iterate 2 refine straight_cons ⟨by simp,fun _ => rfl⟩ trivial ?_
  exact straight_singleton ⟨by simp,fun _ => rfl⟩

theorem straight_countChannelsListing (names : BitVec 32) : Straight (countChannelsListing names) := by
  iterate 6 refine straight_cons ⟨by simp,fun _ => rfl⟩ trivial ?_
  exact straight_singleton ⟨by simp,fun _ => rfl⟩

theorem straight_publishListing (filename pointer : BitVec 32) :
    Straight (publishListing filename pointer) := by
  iterate 2 refine straight_cons ⟨by simp,fun _ => rfl⟩ trivial ?_
  exact straight_singleton ⟨by simp,fun _ => rfl⟩

theorem straight_localThunkListing (slot : BitVec 32) : Straight (localThunkListing slot) := by
  iterate 4 refine straight_cons ⟨by simp,fun _ => rfl⟩ trivial ?_
  exact straight_singleton ⟨by simp,fun _ => rfl⟩

variable {s : CdStreamChannelsSpec} {t : CdStreamTablesSpec} {p : FileManagerEntrySpec}
  {c : Vector UInt8 64} {kernel : Address} {code : Memory} {m : Machine}

namespace CdStreamChannelsSpec

/-- Where the code and the data are. -/
def start (t : CdStreamTablesSpec) (p : FileManagerEntrySpec) : Address :=
  p.manager.imageBase+(t.targetRva+137)
def errorImport (s : CdStreamChannelsSpec) (p : FileManagerEntrySpec) : Address :=
  p.manager.imageBase+s.errorIatRva
def localImport (s : CdStreamChannelsSpec) (p : FileManagerEntrySpec) : Address :=
  p.manager.imageBase+s.localIatRva
def pointer (s : CdStreamChannelsSpec) (p : FileManagerEntrySpec) : Address :=
  p.manager.imageBase+s.pointerRva
def filename (s : CdStreamChannelsSpec) (p : FileManagerEntrySpec) : Address :=
  p.manager.imageBase+s.filenameRva

end CdStreamChannelsSpec

theorem cdStreamChannelsCode_eq (h : cdStreamChannelsCode s t p = some c) :
    c.toList = encoding resetErrorListing++(([0xff,0x15]++write 4 (s.errorImport p))++
      (encoding (countChannelsListing (t.names p))++(([0xff,0x15]++write 4 (s.localImport p))++
        (encoding (publishListing (s.filename p) (s.pointer p))++
          (0xe8 :: write 4 (s.openRva-(t.targetRva+137)-64)))))) := by
  dsimp only [cdStreamChannelsCode] at h
  split at h
  · contradiction
  rw [← Option.some.inj h, toList_writeDword (by decide), toList_writeDword (by decide),
    toList_writeDword (by decide), toList_writeDword (by decide), toList_writeDword (by decide),
    toList_writeDword (by decide), toList_writeDword (by decide)]
  rfl

/-- One operand of the prefix is relocated. -/
theorem bootstrapExportPrefix_of_one {f : BootstrapExportSpec} {n : ℕ} {b : Vector UInt8 20}
    (hn : n ∈ [2,8]) (hmask : f.highlowMask = 1 <<< n) (hb : bootstrapExportPrefix f kernel = some b) :
    b = splice n (write 4 (read 32 ((f.prefixBytes.toList.drop n).take 4)+(kernel-f.preferredBase)))
      f.prefixBytes := by
  rw [bootstrapExportPrefix] at hb
  split at hb
  · contradiction
  simp only [List.mem_cons, List.not_mem_nil, or_false] at hn
  obtain rfl | rfl := hn
  all_goals
    simp [exportFixup, hmask, List.range, List.range.loop] at hb
    exact hb.symm

/-- A thunk jumps by way of its slot in kernel32, wherever that is loaded. -/
theorem channelsThunk_eq {f : BootstrapExportSpec} {slot : BitVec 32} {isLocal : Bool}
    {b : Vector UInt8 20} (hthunk : validChannelsThunk f slot isLocal)
    (hb : bootstrapExportPrefix f kernel = some b) : ∃ rest, b.toList =
      encoding (if isLocal then localThunkListing (kernel+slot) else jumpListing (kernel+slot))++rest := by
  simp only [validChannelsThunk, Bool.and_eq_true, decide_eq_true_eq] at hthunk
  obtain ⟨⟨⟨hprologue,_⟩,hoperand⟩,hmask⟩ := hthunk
  have hn : (if isLocal then 8 else 2) ∈ [2,8] := by cases isLocal <;> decide
  have hfits : (if isLocal then 8 else 2)+4 ≤ 20 := by cases isLocal <;> decide
  have hvalue : f.preferredBase+slot+(kernel-f.preferredBase) = kernel+slot := by ring
  have hbytes := congrArg Vector.toList (bootstrapExportPrefix_of_one hn hmask hb)
  rw [toList_spliced (by rwa [length_write]), hprologue, hoperand, hvalue] at hbytes
  rw [hbytes]
  cases isLocal with
  | true => exact ⟨_,by simp [localThunkListing, jumpListing]; rfl⟩
  | false => exact ⟨_,by simp [jumpListing]; rfl⟩

/-! The machine at the stops. All stores on the stack count from the lower end of what is written of
it: four bytes below the stack pointer of the caller. -/

def errorPushed (t : CdStreamTablesSpec) (p : FileManagerEntrySpec) (m : Machine) : Machine :=
  { m with
    regs := { m.regs with edi := m.regs.eax, esp := m.regs.esp+8 }
    flags := blend (blend m.flags resumeFlag 0) arithmeticFlags (addFlags m.regs.esp 12)
    eip := CdStreamChannelsSpec.start t p+7
    mem := setWords m.mem (m.regs.esp-4) [(12,0)] }

/-- In the thunk of SetLastError. -/
def errorCalled (s : CdStreamChannelsSpec) (t : CdStreamTablesSpec) (p : FileManagerEntrySpec)
    (m : Machine) : Machine :=
  { errorPushed t p m with
    regs := { (errorPushed t p m).regs with esp := m.regs.esp+4 }
    eip := word m.mem (s.errorImport p)
    mem := setWords m.mem (m.regs.esp-4) [(12,0),(8,CdStreamChannelsSpec.start t p+13)] }

def errorEntered (s : CdStreamChannelsSpec) (t : CdStreamTablesSpec) (p : FileManagerEntrySpec)
    (kernel : Address) (m : Machine) : Machine :=
  { errorCalled s t p m with eip := word m.mem (kernel+s.errorThunkSlotRva) }

/-- From the return of SetLastError on, `m` is the machine there. -/
def localPushed (t : CdStreamTablesSpec) (p : FileManagerEntrySpec) (m : Machine) : Machine :=
  { m with
    regs := { m.regs with eax := 5, ecx := 240, esp := m.regs.esp-8 }
    flags := blend (blend m.flags resumeFlag 0) arithmeticFlags (4 ||| m.undefined 0 &&& 0x810)
    eip := CdStreamChannelsSpec.start t p+41
    mem := setWords (setWords m.mem (m.regs.esp-16) [(12,240),(8,0x40)]) (t.names p-8) [(4,0),(0,5)]
    undefined := fun n => m.undefined (n+1) }

def localCalled (s : CdStreamChannelsSpec) (t : CdStreamTablesSpec) (p : FileManagerEntrySpec)
    (m : Machine) : Machine :=
  { localPushed t p m with
    regs := { (localPushed t p m).regs with esp := m.regs.esp-12 }
    eip := word m.mem (s.localImport p)
    mem := setWords (localPushed t p m).mem (m.regs.esp-16) [(4,CdStreamChannelsSpec.start t p+47)] }

def localEntered (s : CdStreamChannelsSpec) (t : CdStreamTablesSpec) (p : FileManagerEntrySpec)
    (kernel : Address) (m : Machine) : Machine :=
  { localCalled s t p m with
    eip := word m.mem (kernel+s.localThunkSlotRva)
    mem := setWords (localPushed t p m).mem (m.regs.esp-16)
      [(4,CdStreamChannelsSpec.start t p+47),(0,m.regs.ebp)] }

/-- From the return of LocalAlloc on, `m` is the machine there. -/
def pointerPublished (s : CdStreamChannelsSpec) (t : CdStreamTablesSpec) (p : FileManagerEntrySpec)
    (m : Machine) : Machine :=
  { m with
    regs := { m.regs with esp := m.regs.esp-8 }
    flags := blend m.flags resumeFlag 0
    eip := CdStreamChannelsSpec.start t p+59
    mem := setWord (setWords m.mem (m.regs.esp-8) [(4,0),(0,s.filename p)]) (s.pointer p) m.regs.eax }

/-- The code in memory: that of the checkpoint, and the two thunks in kernel32. -/
structure CdStreamChannelsLoaded (s : CdStreamChannelsSpec) (t : CdStreamTablesSpec)
    (p : FileManagerEntrySpec) (kernel : Address) (c : Vector UInt8 64) (code : Memory) : Prop where
  emits : cdStreamChannelsCode s t p = some c
  tables : (cdStreamTablesCode t p).isSome
  body : HasBytes code (CdStreamChannelsSpec.start t p) c.toList
  errorThunk : ∃ b, bootstrapExportPrefix s.errorThunk kernel = some b ∧
    HasBytes code (kernel+s.errorThunk.rva) b.toList
  localThunk : ∃ b, bootstrapExportPrefix s.localThunk kernel = some b ∧
    HasBytes code (kernel+s.localThunk.rva) b.toList

/-- The imports and the slots of the thunks, which are not in what is written of the stack or, where
they are used later, of the tables. -/
structure CdStreamChannelsCaller (s : CdStreamChannelsSpec) (t : CdStreamTablesSpec)
    (p : FileManagerEntrySpec) (kernel : Address) (m : Machine) : Prop where
  eip : m.eip = CdStreamChannelsSpec.start t p
  low : 65536 ≤ m.regs.esp
  high : m.regs.esp ≤ 0xffffffff-44
  aligned : m.regs.esp.toNat%4 = 0
  flags : m.flags &&& 0x500 = 0
  count : word m.mem (m.regs.esp+40) = 5
  errorImport : word m.mem (s.errorImport p) = kernel+s.errorThunk.rva
  localImport : word m.mem (s.localImport p) = kernel+s.localThunk.rva
  stack : ∀ x ∈ [(s.errorImport p,4),(s.localImport p,4),(kernel+s.errorThunkSlotRva,4),
    (kernel+s.localThunkSlotRva,4),(t.handles p-4,2192)], Apart (m.regs.esp-4) 16 x.1 x.2
  tables : Apart (t.handles p-4) 2192 (kernel+s.localThunkSlotRva) 4

/-- The parts of the code, between them the two CALLs. -/
theorem CdStreamChannelsLoaded.parts (h : CdStreamChannelsLoaded s t p kernel c code) :
    HasBytes code (CdStreamChannelsSpec.start t p) (encoding resetErrorListing) ∧
      HasBytes code (CdStreamChannelsSpec.start t p+7) ([0xff,0x15]++write 4 (s.errorImport p)) ∧
      HasBytes code (CdStreamChannelsSpec.start t p+13) (encoding (countChannelsListing (t.names p))) ∧
      HasBytes code (CdStreamChannelsSpec.start t p+41) ([0xff,0x15]++write 4 (s.localImport p)) ∧
      HasBytes code (CdStreamChannelsSpec.start t p+47)
        (encoding (publishListing (s.filename p) (s.pointer p))) := by
  have hbody := h.body
  have hsecond : CdStreamChannelsSpec.start t p+13 = CdStreamChannelsSpec.start t p+7+6 := by ring
  have hthird : CdStreamChannelsSpec.start t p+41 = CdStreamChannelsSpec.start t p+7+6+28 := by ring
  have hfourth : CdStreamChannelsSpec.start t p+47 = CdStreamChannelsSpec.start t p+7+6+28+6 := by ring
  rw [cdStreamChannelsCode_eq h.emits, hasBytes_append, @hasBytes_append _ _ (_++write 4 (s.errorImport p)),
    @hasBytes_append _ _ (encoding (countChannelsListing _)),
    @hasBytes_append _ _ (_++write 4 (s.localImport p)),
    @hasBytes_append _ _ (encoding (publishListing _ _))] at hbody
  rw [hfourth, hthird, hsecond]
  exact ⟨hbody.1,hbody.2.1,hbody.2.2.1,hbody.2.2.2.1,hbody.2.2.2.2.1⟩

/-- The names follow the handles and what is between. -/
theorem names_eq (h : (cdStreamTablesCode t p).isSome) : t.names p = t.handles p+136 := by
  obtain ⟨tables,htables⟩ := Option.isSome_iff_exists.mp h
  exact (handles_lt htables).2

/-! From the caller into SetLastError. -/

theorem validChannelsThunk_of_code (h : cdStreamChannelsCode s t p = some c) :
    validChannelsThunk s.errorThunk s.errorThunkSlotRva false ∧
      validChannelsThunk s.localThunk s.localThunkSlotRva true := by
  dsimp only [cdStreamChannelsCode] at h
  split at h
  · contradiction
  rename_i hguard
  simp only [Bool.or_eq_true, not_or, Bool.not_eq_true', Bool.not_eq_false] at hguard
  exact ⟨hguard.1.2,hguard.2⟩

section Error
variable (hcode : CdStreamChannelsLoaded s t p kernel c code)
  (hcaller : CdStreamChannelsCaller s t p kernel m)
include hcode hcaller

theorem reaches_errorPushed : Reaches code m (errorPushed t p m) := by
  refine reaches_listing straight_resetErrorListing hcode.parts.1 hcaller.eip ?_
  have heip := hcaller.eip
  obtain ⟨⟨eax,ecx,edx,ebx,esp,ebp,esi,edi⟩,flags,eip,mem,fs,undefined⟩ := m
  simp only at heip
  simp (disch := decide) [resetErrorListing, errorPushed, heip, setWords, BitVec.sub_eq_add_neg,
    BitVec.add_assoc, blend_resumeFlag]

theorem reaches_errorCalled : Reaches code (errorPushed t p m) (errorCalled s t p m) := by
  have hcall := @reaches_callByWord code (errorPushed t p m) _ hcode.parts.2.1
  have hword : word (errorPushed t p m).mem (s.errorImport p) = word m.mem (s.errorImport p) :=
    word_setWords_of_stretch (hcaller.stack (s.errorImport p,4) (by simp)) (by simp)
  rw [hword] at hcall
  convert hcall using 1
  obtain ⟨⟨eax,ecx,edx,ebx,esp,ebp,esi,edi⟩,flags,eip,mem,fs,undefined⟩ := m
  simp (disch := decide) [errorCalled, errorPushed, setWords, BitVec.sub_eq_add_neg,
    BitVec.add_assoc, blend_resumeFlag]

theorem reaches_errorEntered :
    Reaches code (errorCalled s t p m) (errorEntered s t p kernel m) := by
  obtain ⟨b,hb,hbytes⟩ := hcode.errorThunk
  obtain ⟨rest,hrest⟩ := channelsThunk_eq (validChannelsThunk_of_code hcode.emits).1 hb
  rw [hrest, hasBytes_append, ← hcaller.errorImport] at hbytes
  have hthunk : HasBytes code (word m.mem (s.errorImport p))
      ([0xff,0x25]++write 4 (kernel+s.errorThunkSlotRva)) := by simpa [jumpListing] using hbytes.1
  have hword : word (errorCalled s t p m).mem (kernel+s.errorThunkSlotRva) =
      word m.mem (kernel+s.errorThunkSlotRva) :=
    word_setWords_of_stretch (hcaller.stack (kernel+s.errorThunkSlotRva,4) (by simp)) (by simp)
  have hjump := @reaches_jumpByWord code (errorCalled s t p m) _ hthunk
  rw [hword] at hjump
  convert hjump using 1
  simp (disch := decide) [errorEntered, errorCalled, errorPushed, blend_resumeFlag]

end Error

/-! From the return of SetLastError into LocalAlloc. -/

/-- The thread behind SetLastError. -/
structure ErrorReset (s : CdStreamChannelsSpec) (t : CdStreamTablesSpec) (p : FileManagerEntrySpec)
    (kernel : Address) (m : Machine) : Prop where
  eip : m.eip = CdStreamChannelsSpec.start t p+13
  flags : m.flags &&& 0x500 = 0
  count : word m.mem (m.regs.esp+28) = 5
  localImport : word m.mem (s.localImport p) = kernel+s.localThunk.rva
  stack : ∀ x ∈ [(s.localImport p,4),(kernel+s.localThunkSlotRva,4),(t.handles p-4,2192)],
    Apart (m.regs.esp-16) 16 x.1 x.2
  tables : ∀ a ∈ [s.localImport p,kernel+s.localThunkSlotRva], Apart (t.names p-8) 8 a 4

section Local
variable (hcode : CdStreamChannelsLoaded s t p kernel c code) (hreset : ErrorReset s t p kernel m)
include hcode hreset

theorem reaches_localPushed : Reaches code m (localPushed t p m) := by
  refine reaches_listing (straight_countChannelsListing _) hcode.parts.2.2.1 hreset.eip ?_
  have hcount := hreset.count
  have heip := hreset.eip
  have hshl : resultFlags 240#32 = 4 := by decide
  obtain ⟨⟨eax,ecx,edx,ebx,esp,ebp,esi,edi⟩,flags,eip,mem,fs,undefined⟩ := m
  obtain ⟨b,rfl⟩ : ∃ b, esp = b+16 := ⟨esp-16,by ring⟩
  simp [BitVec.add_assoc] at hcount heip hshl
  simp (disch := decide) [countChannelsListing, localPushed, heip, hcount, hshl, setWords, flag,
    BitVec.sub_eq_add_neg, BitVec.add_assoc, blend_resumeFlag]

omit hcode in
theorem word_localPushed {a : Address} (ha : a ∈ [s.localImport p,kernel+s.localThunkSlotRva]) :
    word (localPushed t p m).mem a = word m.mem a := by
  have hstack : Apart (m.regs.esp-16) 16 a 4 := hreset.stack (a,4) (by
    simp only [List.mem_cons, List.not_mem_nil, or_false] at ha
    obtain rfl | rfl := ha <;> simp)
  rw [localPushed, word_setWords_of_stretch (hreset.tables a ha) (by simp),
    word_setWords_of_stretch hstack (by simp)]

theorem reaches_localCalled : Reaches code (localPushed t p m) (localCalled s t p m) := by
  have hcall := @reaches_callByWord code (localPushed t p m) _ hcode.parts.2.2.2.1
  rw [word_localPushed hreset (by simp)] at hcall
  convert hcall using 1
  obtain ⟨⟨eax,ecx,edx,ebx,esp,ebp,esi,edi⟩,flags,eip,mem,fs,undefined⟩ := m
  simp (disch := decide) [localCalled, localPushed, setWords, BitVec.sub_eq_add_neg, BitVec.add_assoc,
    blend_resumeFlag]

theorem reaches_localEntered : Reaches code (localCalled s t p m) (localEntered s t p kernel m) := by
  obtain ⟨b,hb,hbytes⟩ := hcode.localThunk
  obtain ⟨rest,hrest⟩ := channelsThunk_eq (validChannelsThunk_of_code hcode.emits).2 hb
  rw [hrest, hasBytes_append, ← hreset.localImport] at hbytes
  refine @reaches_listing code (localCalled s t p m) _ _ _ (straight_localThunkListing _) hbytes.1 rfl ?_
  have hword : word (localEntered s t p kernel m).mem (kernel+s.localThunkSlotRva) =
      word m.mem (kernel+s.localThunkSlotRva) := by
    have hstack := hreset.stack (kernel+s.localThunkSlotRva,4) (by simp)
    rw [← word_localPushed hreset (by simp)]
    exact word_setWords_of_stretch hstack (by simp)
  rw [localEntered] at hword
  obtain ⟨⟨eax,ecx,edx,ebx,esp,ebp,esi,edi⟩,flags,eip,mem,fs,undefined⟩ := m
  obtain ⟨b,rfl⟩ : ∃ b, esp = b+16 := ⟨esp-16,by ring⟩
  simp (disch := decide) [localThunkListing, jumpListing, localEntered, localCalled, localPushed, setWords,
    BitVec.sub_eq_add_neg, BitVec.add_assoc, blend_resumeFlag] at hword ⊢
  simp [hword]

end Local

/-! From the return of LocalAlloc to the CALL that opens the file. -/

theorem reaches_pointerPublished (hcode : CdStreamChannelsLoaded s t p kernel c code)
    (heip : m.eip = CdStreamChannelsSpec.start t p+47) : Reaches code m (pointerPublished s t p m) := by
  refine reaches_listing (straight_publishListing _ _) hcode.parts.2.2.2.2 heip ?_
  obtain ⟨⟨eax,ecx,edx,ebx,esp,ebp,esi,edi⟩,flags,eip,mem,fs,undefined⟩ := m
  simp only at heip
  simp (disch := decide) [publishListing, pointerPublished, heip, setWords, BitVec.sub_eq_add_neg,
    BitVec.add_assoc]

/-! What the two functions leave alone. -/

/-- Neither SetLastError nor LocalAlloc writes these. -/
def channelsKept (s : CdStreamChannelsSpec) (t : CdStreamTablesSpec) (p : FileManagerEntrySpec)
    (kernel esp : Address) : List (Address × ℕ) :=
  [(esp+40,4),(s.localImport p,4),(kernel+s.localThunkSlotRva,4),(t.handles p-4,2192)]

/-- The spans that the spec has checked, as stretches of memory. -/
theorem apart_of_cdStreamChannelsCode (h : cdStreamChannelsCode s t p = some c) :
    Apart (s.localImport p) 4 (t.names p-8) 8 ∧ Apart (s.pointer p-4) 12 (t.names p-8) 8 := by
  dsimp only [cdStreamChannelsCode] at h
  split at h
  · contradiction
  rename_i hguard
  simp only [Bool.or_eq_true, not_or, Bool.not_eq_true', Bool.not_eq_false, decide_eq_true_eq] at hguard
  obtain ⟨⟨⟨⟨⟨⟨⟨⟨⟨⟨hsize,_⟩,_⟩,_⟩,_⟩,hspans⟩,_⟩,_⟩,_⟩,_⟩,_⟩ := hguard
  have hpairs := List.pairwise_iff_getElem.mp (@apart_of_validSpans p.manager.imageBase _ _
    (BitVec.not_lt.mp hsize) hspans (by simp))
  have hlocal := hpairs 2 6 (by simp) (by simp) (by decide)
  have hpointer := hpairs 3 6 (by simp) (by simp) (by decide)
  simp only [List.getElem_cons_succ, List.getElem_cons_zero, ← add_sub_assoc] at hlocal hpointer
  exact ⟨hlocal,hpointer⟩

theorem errorReset_of_returned {m' : Machine} (hcode : CdStreamChannelsLoaded s t p kernel c code)
    (hcaller : CdStreamChannelsCaller s t p kernel m)
    (hreturned : Returned 4 0x500 (channelsKept s t p kernel m.regs.esp) (errorEntered s t p kernel m) m') :
    ErrorReset s t p kernel m' := by
  have hesp : m'.regs.esp = m.regs.esp+12 := by
    rw [hreturned.esp, errorEntered, errorCalled]
    simp only
    ring
  have hword (a : Address) (ha : (a,4) ∈ channelsKept s t p kernel m.regs.esp) :
      word m'.mem a = word (errorEntered s t p kernel m).mem a := by
    rw [word, word, hreturned.memory _ ha]
  constructor
  · rw [hreturned.eip, errorEntered, errorCalled]
    simp [setWords, BitVec.sub_eq_add_neg, BitVec.add_assoc]
  · rw [hreturned.flags]
    simp (disch := decide) only [errorEntered, errorCalled, errorPushed, blend_and_of_disjoint, hcaller.flags]
  · have hapart : Apart (m.regs.esp-4) 16 (m.regs.esp+40) 4 := by
      rw [BitVec.sub_eq_add_neg]
      exact Apart.add (by decide)
    rw [hesp, show m.regs.esp+12+28 = m.regs.esp+40 by ring, hword _ (by simp [channelsKept]),
      ← hcaller.count]
    exact word_setWords_of_stretch hapart (by simp)
  · rw [hword _ (by simp [channelsKept]), ← hcaller.localImport]
    exact word_setWords_of_stretch (hcaller.stack (s.localImport p,4) (by simp)) (by simp)
  · rw [hesp, show m.regs.esp+12-16 = m.regs.esp-4 by ring]
    intro x hx
    exact hcaller.stack x (by simp only [List.mem_cons] at hx ⊢; tauto)
  · intro a ha
    simp only [List.mem_cons, List.not_mem_nil, or_false] at ha
    obtain rfl | rfl := ha
    · exact (apart_of_cdStreamChannelsCode hcode.emits).1.symm
    · have hplace : t.names p-8 = t.handles p-4+132 := by
        rw [names_eq hcode.tables]
        ring
      rw [hplace]
      exact hcaller.tables.left (by decide) (by decide) (by decide)

/-! What the checkpoint makes of the stops. -/

/-- The checkpoint computes the flags of ADD; below the end of memory nothing is carried out of it. -/
theorem channelsFlags_eq {a : BitVec 32} (h : a ≤ 0xffffffff-44) :
    (if popcount (a+12 &&& 255)%2 = 0 then 4 else 0 : BitVec 32) |||
      ((a ^^^ 12 ^^^ a+12) &&& 16 : BitVec 32) |||
      (if (a+12) &&& 0x80000000 ≠ 0 then 0x80 else 0 : BitVec 32) |||
      (if (~~~(a ^^^ 12) &&& (a ^^^ a+12)) &&& 0x80000000 ≠ 0 then 0x800 else 0 : BitVec 32) =
    addFlags a 12 := by
  have hcarry : ¬2^32 ≤ a.toNat+(12 : BitVec 32).toNat := by bv_omega
  have hzero : ¬a+12 = 0 := by bv_omega
  have hor (x : BitVec 32) : x ||| 0 = x := BitVec.or_zero
  have hor' (x : BitVec 32) : 0 ||| x = x := BitVec.zero_or
  have hresult : resultFlags (a+12) = (if popcount (a+12 &&& 255)%2 = 0 then 4 else 0 : BitVec 32) |||
      (if (a+12) &&& 0x80000000 ≠ 0 then 0x80 else 0 : BitVec 32) := by
    have hsign : (if (a+12) &&& 0x80000000 ≠ 0 then 0x80 else 0 : BitVec 32) = flag 7 (a+12).msb := by
      simp only [and_top_ne_zero]
      rfl
    rw [hsign, resultFlags, evenParity_eq, flag_decide, flag_decide, if_neg hzero, hor]
    rfl
  have hshuffle (c x s o : BitVec 32) : c ||| x ||| s ||| o = x ||| o ||| (c ||| s) := by ac_rfl
  rw [addFlags_eq_masks, hresult, if_neg hcarry, hor']
  exact hshuffle _ _ _ _

/-- What the checks of the registers start from. -/
structure ChannelsOrigin (c : DispatchRegisters) : Prop where
  low : 65536#32 ≤ c.esp
  high : c.esp ≤ 4294967251#32
  aligned : c.esp.toNat%4 = 0
  flags : c.flags &&& 1280#32 = 0#32

theorem channelsOrigin (h : CdStreamChannelsCaller s t p kernel m) : ChannelsOrigin (registers m) :=
  ⟨h.low,h.high,h.aligned,h.flags⟩

/-- Up to the entry of SetLastError the check accepts one state, but for the resume flag. -/
theorem cdStreamChannelsFrame_iff_of_early {stage : ℕ} {r e l now : DispatchRegisters}
    (h : ChannelsOrigin (registers m)) (hstage : stage ∈ [1,2,3])
    (hnow : now = { registers (errorPushed t p m) with
      esp := m.regs.esp+[0,8,4,4,12,4,0,0,12,4].getD stage 0 }) :
    cdStreamChannelsFrame stage (registers m) r e l ↔ AgreeBut resumeFlag r now := by
  have hiff := @flags_iff r.flags now.flags (registers m).flags 0x8d5 0xfffef72a resumeFlag
    (addFlags m.regs.esp 12) h.flags ?_ ?_ (by decide) (by decide)
  · have hflags := channelsFlags_eq (a := (registers m).esp) h.high
    dsimp only [cdStreamChannelsFrame]
    rw [hflags, agreeBut_iff, ← hiff, hnow]
    obtain ⟨hlow,hhigh,haligned,hflags⟩ := h
    have hle : stage ≤ 3 ∧ 1 ≤ stage ∧ stage ≤ 9 := by
      simp only [List.mem_cons, List.not_mem_nil, or_false] at hstage
      omega
    simp [hlow, hhigh, haligned, hflags, hle]
    simp only [registers, errorPushed]
    clear hiff
    grind
  · rw [hnow]
    exact (blend_and_of_within (by decide)).trans (addFlags_within _ _)
  · rw [hnow]
    exact (blend_and_of_disjoint (by decide)).trans (blend_and_of_disjoint (by decide))

/-- At the CALL of LocalAlloc and in it, where the shift leaves two flags undefined; `m` is the machine
at the return of SetLastError. -/
theorem cdStreamChannelsFrame_iff_of_local {stage : ℕ} {c r l now : DispatchRegisters}
    (h : ChannelsOrigin c) (hstage : stage ∈ [5,6,7]) (hflags : m.flags &&& 0x500#32 = 0#32)
    (hkept : m.regs.ebx = c.ebx ∧ m.regs.ebp = c.ebp ∧ m.regs.esi = c.esi ∧ m.regs.edi = c.eax)
    (hnow : now = { registers (localPushed t p m) with
      esp := c.esp+[0,8,4,4,12,4,0,0,12,4].getD stage 0 }) :
    cdStreamChannelsFrame stage c r (registers m) l ↔ AgreeBut (resumeFlag ||| 0x810) r now := by
  have hiff := @flags_iff r.flags now.flags m.flags 0xc5 0xfffef72a (resumeFlag ||| 0x810) 4 hflags ?_ ?_
    (by decide) (by decide)
  · dsimp only [cdStreamChannelsFrame]
    rw [agreeBut_iff, ← hiff, hnow]
    obtain ⟨hlow,hhigh,haligned,hflags⟩ := h
    obtain ⟨hebx,hebp,hesi,hedi⟩ := hkept
    have hle : ¬stage ≤ 3 ∧ 1 ≤ stage ∧ stage ≤ 9 ∧ stage ≤ 7 ∧ stage ≠ 4 ∧ stage ≠ 8 := by
      simp only [List.mem_cons, List.not_mem_nil, or_false] at hstage
      omega
    simp [hlow, hhigh, haligned, hflags, hle]
    simp only [registers, localPushed]
    clear hiff
    grind
  · rw [hnow]
    have hnot : blend (blend m.flags resumeFlag 0) arithmeticFlags (4 ||| m.undefined 0 &&& 0x810) &&& 0xc5 =
        4 := by
      rw [blend_and_of_within (by decide), or_and, BitVec.and_assoc]
      simp
    exact hnot
  · rw [hnow]
    exact (blend_and_of_disjoint (by decide)).trans (blend_and_of_disjoint (by decide))

/-- At the return of a function nothing is asked of the volatile registers. -/
theorem cdStreamChannelsFrame_of_returned {stage : ℕ} {c r e l : DispatchRegisters}
    (h : ChannelsOrigin c) (hstage : stage ∈ [4,8]) (hflags : r.flags &&& 0x500#32 = 0#32)
    (hkept : r.ebx = c.ebx ∧ r.ebp = c.ebp ∧ r.esi = c.esi ∧ r.edi = c.eax) (hesp : r.esp = c.esp+12) :
    cdStreamChannelsFrame stage c r e l := by
  obtain ⟨hlow,hhigh,haligned,hflags'⟩ := h
  simp only [List.mem_cons, List.not_mem_nil, or_false] at hstage
  obtain rfl | rfl := hstage
  all_goals simp [cdStreamChannelsFrame, hlow, hhigh, haligned, hflags, hflags', hkept, hesp]

/-- At the last stop `m` is the machine at the return of LocalAlloc. -/
theorem cdStreamChannelsFrame_iff_of_published {c r e : DispatchRegisters} (h : ChannelsOrigin c)
    (hflags : m.flags &&& 0x500#32 = 0#32)
    (hkept : m.regs.ebx = c.ebx ∧ m.regs.ebp = c.ebp ∧ m.regs.esi = c.esi ∧ m.regs.edi = c.eax)
    (hesp : m.regs.esp = c.esp+12) : cdStreamChannelsFrame 9 c r e (registers m) ↔
      AgreeBut resumeFlag r (registers (pointerPublished s t p m)) := by
  have hiff := @flags_unchanged_iff r.flags (registers (pointerPublished s t p m)).flags m.flags
    0xfffeffff resumeFlag hflags (blend_and_of_disjoint (by decide)) (by decide) (by decide)
  rw [agreeBut_iff, ← hiff]
  obtain ⟨hlow,hhigh,haligned,hflags⟩ := h
  obtain ⟨hebx,hebp,hesi,hedi⟩ := hkept
  have hsub : c.esp+12-8 = c.esp+4 := by ring
  simp [cdStreamChannelsFrame, hlow, hhigh, haligned, hflags]
  simp only [registers, pointerPublished, hesp, hsub]
  clear hiff
  grind

/-! The tables. -/

theorem cdStreamChannelsTables_iff (before after : CdStreamTableWindow) (prepared : Bool) :
    cdStreamChannelsTables before after prepared ↔ ∀ i (hi : i < 2192), after[i] =
      (if prepared ∧ 132 ≤ i ∧ i < 140 then if i = 132 then 5 else 0 else before[i] : UInt8) := by
  rw [cdStreamChannelsTables, List.all_eq_true]
  simp only [List.mem_finRange, true_implies, decide_eq_true_eq, Bool.and_eq_true, and_assoc]
  exact ⟨fun h i hi => h ⟨i,hi⟩,fun h i => h i i.isLt⟩

theorem getElem_tablesWindow (handles : Address) (m : Machine) {i : ℕ} (hi : i < 2192) :
    (tablesWindow handles m)[i] = m.mem (handles-4+BitVec.ofNat 32 i) :=
  get_tablesWindow handles m ⟨i,hi⟩

theorem tablesWindow_congr {handles : Address} {m m' : Machine}
    (h : load m'.mem (handles-4) 2192 = load m.mem (handles-4) 2192) :
    tablesWindow handles m' = tablesWindow handles m := by
  refine Vector.ext fun i hi => ?_
  have hget := congrArg (fun bs => bs[i]?) h
  simp only [load, List.getElem?_map, List.getElem?_range hi, Option.map_some] at hget
  rw [getElem_tablesWindow, getElem_tablesWindow]
  exact Option.some.inj hget

/-- The stores at the tables. -/
theorem localPushed_prepares (hcode : CdStreamChannelsLoaded s t p kernel c code)
    (hreset : ErrorReset s t p kernel m) :
    cdStreamChannelsTables (tablesWindow (t.handles p) m) (tablesWindow (t.handles p) (localPushed t p m))
      true := by
  refine (cdStreamChannelsTables_iff _ _ _).mpr fun i hi => ?_
  have hstack := hreset.stack (t.handles p-4,2192) (by simp)
  have hkept : setWords m.mem (m.regs.esp-16) [(12,240),(8,0x40)] (t.handles p-4+BitVec.ofNat 32 i) =
      m.mem (t.handles p-4+BitVec.ofNat 32 i) := setWords_apply_of_stretch hstack (by simp) hi
  have hfive : t.names p-8+0 = t.handles p-4+BitVec.ofNat 32 132 := by
    rw [names_eq hcode.tables]
    simp [BitVec.sub_eq_add_neg, BitVec.add_assoc]
  have hzero : t.names p-8+4 = t.handles p-4+BitVec.ofNat 32 136 := by
    rw [names_eq hcode.tables]
    simp [BitVec.sub_eq_add_neg, BitVec.add_assoc]
  rw [getElem_tablesWindow, getElem_tablesWindow, localPushed]
  simp only [setWords, List.foldl_cons, List.foldl_nil] at hkept ⊢
  rw [hfive, hzero, setWord_apply (by omega) (by decide), setWord_apply (by omega) (by decide), hkept]
  by_cases hin : 132 ≤ i ∧ i < 140
  · obtain ⟨hlow,hhigh⟩ := hin
    interval_cases i <;> rfl
  · rw [if_neg (by omega), if_neg (by omega), if_neg (by omega)]

/-- The stores on the stack are not in the window. -/
theorem tablesWindow_setWords {handles esp : Address} {mem : Memory} {ws : List (BitVec 32 × BitVec 32)}
    {n : ℕ} (h : Apart esp n (handles-4) 2192) (hws : ∀ w ∈ ws, w.1.toNat+4 ≤ n) {m' : Machine}
    (hm : m.mem = mem) (hm' : m'.mem = setWords mem esp ws) :
    tablesWindow handles m' = tablesWindow handles m := by
  apply tablesWindow_congr
  rw [hm, hm']
  exact load_setWords_of_stretch h (by decide) hws

/-- Published outside of the tables, the pointer leaves them alone. -/
theorem tablesWindow_pointerPublished (hpointer : Apart (s.pointer p) 4 (t.handles p-4) 2192)
    (hstack : Apart (m.regs.esp-8) 8 (t.handles p-4) 2192) :
    tablesWindow (t.handles p) (pointerPublished s t p m) = tablesWindow (t.handles p) m := by
  apply tablesWindow_congr
  rw [pointerPublished]
  simp only
  rw [load_setWord_of_apart hpointer, load_setWords_of_stretch hstack (by decide) (by simp)]

/-! What the checkpoint says of the code, from its end to its start. -/

/-- From the return of LocalAlloc on. -/
def PointerDescribed (s : CdStreamChannelsSpec) (t : CdStreamTablesSpec) (p : FileManagerEntrySpec)
    (code : Memory) (m m₈ : Machine) : Prop :=
  m₈.eip = CdStreamChannelsSpec.start t p+47 ∧
    (∀ e l, cdStreamChannelsFrame 8 (registers m) (registers m₈) e l) ∧
    cdStreamChannelsTables (tablesWindow (t.handles p) m) (tablesWindow (t.handles p) m₈) true ∧
    ∃ m₉, Reaches code m₈ m₉ ∧ m₉.eip = CdStreamChannelsSpec.start t p+59 ∧
      (∀ r e, cdStreamChannelsFrame 9 (registers m) r e (registers m₈) ↔
        AgreeBut resumeFlag r (registers m₉)) ∧
      word m₉.mem (s.pointer p) = m₈.regs.eax ∧
      cdStreamChannelsTables (tablesWindow (t.handles p) m) (tablesWindow (t.handles p) m₉) true

/-- From the return of SetLastError on. -/
def LocalDescribed (s : CdStreamChannelsSpec) (t : CdStreamTablesSpec) (p : FileManagerEntrySpec)
    (kernel : Address) (code : Memory) (m m₄ : Machine) : Prop :=
  m₄.eip = CdStreamChannelsSpec.start t p+13 ∧
    (∀ e l, cdStreamChannelsFrame 4 (registers m) (registers m₄) e l) ∧
    ∃ m₅ m₆ m₇, Reaches code m₄ m₅ ∧ Reaches code m₅ m₆ ∧ Reaches code m₆ m₇ ∧
      m₅.eip = CdStreamChannelsSpec.start t p+41 ∧ m₆.eip = kernel+s.localThunk.rva ∧
      m₇.eip = word m.mem (kernel+s.localThunkSlotRva) ∧
      (∀ x ∈ [(5,m₅),(6,m₆),(7,m₇)],
        (∀ r l, cdStreamChannelsFrame x.1 (registers m) r (registers m₄) l ↔
          AgreeBut (resumeFlag ||| 0x810) r (registers x.2)) ∧
        words x.2.mem (m.regs.esp+4) 2 = #v[0x40,240] ∧
        cdStreamChannelsTables (tablesWindow (t.handles p) m) (tablesWindow (t.handles p) x.2) true) ∧
      ∀ m₈, Returned 8 0x500 (channelsKept s t p kernel m.regs.esp) m₇ m₈ →
        PointerDescribed s t p code m m₈

/-- From the caller on the execution comes to all stops, whatever the two functions return, and the
checkpoint describes them. -/
def CdStreamChannelsDescribed (s : CdStreamChannelsSpec) (t : CdStreamTablesSpec)
    (p : FileManagerEntrySpec) (kernel : Address) (code : Memory) (m : Machine) : Prop :=
  ∃ m₁ m₂ m₃, Reaches code m m₁ ∧ Reaches code m₁ m₂ ∧ Reaches code m₂ m₃ ∧
    m₁.eip = CdStreamChannelsSpec.start t p+7 ∧ m₂.eip = kernel+s.errorThunk.rva ∧
    m₃.eip = word m.mem (kernel+s.errorThunkSlotRva) ∧
    (∀ x ∈ [(1,m₁),(2,m₂),(3,m₃)],
      (∀ r e l, cdStreamChannelsFrame x.1 (registers m) r e l ↔ AgreeBut resumeFlag r (registers x.2)) ∧
      cdStreamChannelsTables (tablesWindow (t.handles p) m) (tablesWindow (t.handles p) x.2) false) ∧
    ∀ m₄, Returned 4 0x500 (channelsKept s t p kernel m.regs.esp) m₃ m₄ →
      LocalDescribed s t p kernel code m m₄

/-- The pointer is not in the window of the tables. -/
def PointerOutsideTables (s : CdStreamChannelsSpec) (t : CdStreamTablesSpec) : Prop :=
  s.pointerRva+4 ≤ t.handlesRva-4 ∨ t.handlesRva-4+2192 ≤ s.pointerRva

instance : Decidable (PointerOutsideTables s t) := inferInstanceAs (Decidable (_ ∨ _))

theorem pointerDescribed {m₈ : Machine} (hcode : CdStreamChannelsLoaded s t p kernel c code)
    (houtside : Apart (s.pointer p) 4 (t.handles p-4) 2192) (horigin : ChannelsOrigin (registers m))
    (heip : m₈.eip = CdStreamChannelsSpec.start t p+47) (hflags : m₈.flags &&& 0x500#32 = 0#32)
    (hkept : m₈.regs.ebx = m.regs.ebx ∧ m₈.regs.ebp = m.regs.ebp ∧ m₈.regs.esi = m.regs.esi ∧
      m₈.regs.edi = m.regs.eax) (hesp : m₈.regs.esp = m.regs.esp+12)
    (hstack : Apart (m.regs.esp-4) 16 (t.handles p-4) 2192)
    (htables : cdStreamChannelsTables (tablesWindow (t.handles p) m) (tablesWindow (t.handles p) m₈) true) :
    PointerDescribed s t p code m m₈ := by
  have hstack' : Apart (m₈.regs.esp-8) 8 (t.handles p-4) 2192 := by
    rw [hesp, show m.regs.esp+12-8 = m.regs.esp-4+8 by ring]
    exact hstack.left (by decide) (by decide) (by decide)
  refine ⟨heip,fun e l => cdStreamChannelsFrame_of_returned horigin (by simp) hflags hkept hesp,htables,
    pointerPublished s t p m₈,reaches_pointerPublished hcode heip,rfl,
    fun r e => cdStreamChannelsFrame_iff_of_published horigin hflags hkept hesp,word_setWord_self _ _ _,?_⟩
  rwa [tablesWindow_pointerPublished houtside hstack']

/-- What LocalAlloc is given, whatever is pushed below it. -/
theorem localArguments (hcode : CdStreamChannelsLoaded s t p kernel c code)
    (hreset : ErrorReset s t p kernel m) {ws : List (BitVec 32 × BitVec 32)}
    (hws : ∀ w ∈ ws, w.1.toNat+4 ≤ 8) :
    words (setWords (localPushed t p m).mem (m.regs.esp-16) ws) (m.regs.esp-8) 2 = #v[0x40,240] := by
  have hbelow : Apart (m.regs.esp-16) 8 (m.regs.esp-8) 8 := by
    rw [BitVec.sub_eq_add_neg, BitVec.sub_eq_add_neg]
    exact Apart.add (by decide)
  have htables : Apart (t.names p-8) 8 (m.regs.esp-8) 8 := by
    have hstack : Apart (m.regs.esp-16) 16 (t.handles p-4) 2192 :=
      hreset.stack (t.handles p-4,2192) (by simp)
    rw [show t.names p-8 = t.handles p-4+132 by rw [names_eq hcode.tables]; ring,
      show m.regs.esp-8 = m.regs.esp-16+8 by ring]
    exact hstack.symm.sub (by decide) (by decide) (by decide) (by decide)
  rw [words_congr (load_setWords_of_stretch hbelow (by decide) hws), localPushed,
    words_congr (load_setWords_of_stretch htables (by decide) (by simp))]
  obtain ⟨b,hb⟩ : ∃ b, m.regs.esp = b+16 := ⟨m.regs.esp-16,by ring⟩
  refine Vector.ext fun i hi => ?_
  interval_cases i
  all_goals
    rw [hb, BitVec.sub_eq_add_neg, BitVec.sub_eq_add_neg]
    simp (disch := decide) [setWords, BitVec.add_assoc, word_setWord_add]

/-- The stops from the CALL of LocalAlloc into it; `ws` is pushed since. -/
theorem localStop {m₄ m' : Machine} {n : ℕ} {ws : List (BitVec 32 × BitVec 32)}
    (hcode : CdStreamChannelsLoaded s t p kernel c code) (horigin : ChannelsOrigin (registers m))
    (hreset : ErrorReset s t p kernel m₄)
    (hkept : m₄.regs.ebx = m.regs.ebx ∧ m₄.regs.ebp = m.regs.ebp ∧ m₄.regs.esi = m.regs.esi ∧
      m₄.regs.edi = m.regs.eax) (hesp : m₄.regs.esp = m.regs.esp+12)
    (hwindow : tablesWindow (t.handles p) m₄ = tablesWindow (t.handles p) m) (hn : n ∈ [5,6,7])
    (hws : ∀ w ∈ ws, w.1.toNat+4 ≤ 8)
    (hmem : m'.mem = setWords (localPushed t p m₄).mem (m₄.regs.esp-16) ws)
    (hregisters : registers m' = { registers (localPushed t p m₄) with
      esp := m.regs.esp+[0,8,4,4,12,4,0,0,12,4].getD n 0 }) :
    (∀ r l, cdStreamChannelsFrame n (registers m) r (registers m₄) l ↔
        AgreeBut (resumeFlag ||| 0x810) r (registers m')) ∧
      words m'.mem (m.regs.esp+4) 2 = #v[0x40,240] ∧
      cdStreamChannelsTables (tablesWindow (t.handles p) m) (tablesWindow (t.handles p) m') true := by
  have hstack : Apart (m₄.regs.esp-16) 16 (t.handles p-4) 2192 :=
    hreset.stack (t.handles p-4,2192) (by simp)
  have hbelow : Apart (m₄.regs.esp-16) 8 (t.handles p-4) 2192 := hstack.mono (by decide) le_rfl
  have hprepared := localPushed_prepares hcode hreset
  have hargs : m.regs.esp+4 = m₄.regs.esp-8 := by
    rw [hesp]
    ring
  refine ⟨fun r l => cdStreamChannelsFrame_iff_of_local horigin hn hreset.flags hkept hregisters,?_,?_⟩
  · rw [hmem, hargs]
    exact localArguments hcode hreset hws
  · rw [tablesWindow_setWords hbelow hws rfl hmem, ← hwindow]
    exact hprepared

theorem localDescribed {m₄ : Machine} (hcode : CdStreamChannelsLoaded s t p kernel c code)
    (houtside : Apart (s.pointer p) 4 (t.handles p-4) 2192) (horigin : ChannelsOrigin (registers m))
    (hreset : ErrorReset s t p kernel m₄)
    (hkept : m₄.regs.ebx = m.regs.ebx ∧ m₄.regs.ebp = m.regs.ebp ∧ m₄.regs.esi = m.regs.esi ∧
      m₄.regs.edi = m.regs.eax) (hesp : m₄.regs.esp = m.regs.esp+12)
    (hslot : word m₄.mem (kernel+s.localThunkSlotRva) = word m.mem (kernel+s.localThunkSlotRva))
    (hwindow : tablesWindow (t.handles p) m₄ = tablesWindow (t.handles p) m) :
    LocalDescribed s t p kernel code m m₄ := by
  have hfifth := @localStop _ _ _ _ _ _ m m₄ (localPushed t p m₄) 5 [] hcode horigin hreset hkept hesp hwindow
    (by decide) (by simp) rfl (by simp [registers, localPushed, hesp, BitVec.sub_eq_add_neg, BitVec.add_assoc])
  have hsixth := @localStop _ _ _ _ _ _ m m₄ (localCalled s t p m₄) 6 _ hcode horigin hreset hkept hesp hwindow
    (by decide) (by simp) rfl
    (by simp [registers, localCalled, localPushed, hesp, BitVec.sub_eq_add_neg, BitVec.add_assoc])
  have hseventh := @localStop _ _ _ _ _ _ m m₄ (localEntered s t p kernel m₄) 7 _ hcode horigin hreset hkept
    hesp hwindow (by decide) (by simp) rfl
    (by simp [registers, localEntered, localCalled, localPushed, hesp, BitVec.sub_eq_add_neg, BitVec.add_assoc])
  refine ⟨hreset.eip,fun e l => cdStreamChannelsFrame_of_returned horigin (by simp) hreset.flags hkept hesp,
    localPushed t p m₄,localCalled s t p m₄,localEntered s t p kernel m₄,reaches_localPushed hcode hreset,
    reaches_localCalled hcode hreset,reaches_localEntered hcode hreset,rfl,hreset.localImport,hslot,?_,?_⟩
  · simp only [List.forall_mem_cons]
    exact ⟨hfifth,hsixth,hseventh,by simp⟩
  · intro m₈ hreturned
    have hkept' : m₈.regs.ebx = m.regs.ebx ∧ m₈.regs.ebp = m.regs.ebp ∧ m₈.regs.esi = m.regs.esi ∧
        m₈.regs.edi = m.regs.eax := by
      rw [hreturned.ebx, hreturned.ebp, hreturned.esi, hreturned.edi]
      exact hkept
    have hesp' : m₈.regs.esp = m.regs.esp+12 := by
      rw [hreturned.esp, localEntered, localCalled]
      simp only
      rw [hesp]
      ring
    have hstack : Apart (m.regs.esp-4) 16 (t.handles p-4) 2192 := by
      rw [show m.regs.esp-4 = m₄.regs.esp-16 by rw [hesp]; ring]
      exact hreset.stack (t.handles p-4,2192) (by simp)
    refine pointerDescribed hcode houtside horigin ?_ ?_ hkept' hesp' hstack ?_
    · rw [hreturned.eip, localEntered, localCalled]
      obtain ⟨b,hb⟩ : ∃ b, m₄.regs.esp = b+20 := ⟨m₄.regs.esp-20,by ring⟩
      simp (disch := decide) [setWords, hb, BitVec.sub_eq_add_neg, BitVec.add_assoc, word_setWord_add]
    · rw [← BitVec.ofNat_eq_ofNat, hreturned.flags]
      simp (disch := decide) only [localEntered, localCalled, localPushed, blend_and_of_disjoint]
      exact hreset.flags
    · rw [tablesWindow_congr (hreturned.memory (t.handles p-4,2192) (by simp [channelsKept]))]
      exact hseventh.2.2

/-- The stops up to the entry of SetLastError; `ws` is pushed. -/
theorem errorStop {m' : Machine} {n : ℕ} {ws : List (BitVec 32 × BitVec 32)}
    (hcaller : CdStreamChannelsCaller s t p kernel m) (hn : n ∈ [1,2,3]) (hws : ∀ w ∈ ws, w.1.toNat+4 ≤ 16)
    (hmem : m'.mem = setWords m.mem (m.regs.esp-4) ws)
    (hregisters : registers m' = { registers (errorPushed t p m) with
      esp := m.regs.esp+[0,8,4,4,12,4,0,0,12,4].getD n 0 }) :
    (∀ r e l, cdStreamChannelsFrame n (registers m) r e l ↔ AgreeBut resumeFlag r (registers m')) ∧
      cdStreamChannelsTables (tablesWindow (t.handles p) m) (tablesWindow (t.handles p) m') false := by
  have hstack := hcaller.stack (t.handles p-4,2192) (by simp)
  refine ⟨fun r e l => cdStreamChannelsFrame_iff_of_early (channelsOrigin hcaller) hn hregisters,?_⟩
  rw [cdStreamChannelsTables_iff, tablesWindow_setWords hstack hws rfl hmem]
  simp

/-- Where the pointer is not in the tables, the checkpoint describes the code. -/
theorem channelsDescribed_of_apart (hcode : CdStreamChannelsLoaded s t p kernel c code)
    (hcaller : CdStreamChannelsCaller s t p kernel m)
    (houtside : Apart (s.pointer p) 4 (t.handles p-4) 2192) :
    CdStreamChannelsDescribed s t p kernel code m := by
  have hfirst := @errorStop s t p kernel m (errorPushed t p m) 1 _ hcaller (by simp) (by simp) rfl rfl
  have hsecond := @errorStop s t p kernel m (errorCalled s t p m) 2 _ hcaller (by simp) (by simp) rfl rfl
  have hthird := @errorStop s t p kernel m (errorEntered s t p kernel m) 3 _ hcaller (by simp) (by simp) rfl rfl
  refine ⟨errorPushed t p m,errorCalled s t p m,errorEntered s t p kernel m,reaches_errorPushed hcode hcaller,
    reaches_errorCalled hcode hcaller,reaches_errorEntered hcode hcaller,rfl,hcaller.errorImport,rfl,?_,?_⟩
  · simp only [List.forall_mem_cons]
    exact ⟨hfirst,hsecond,hthird,by simp⟩
  · intro m₄ hreturned
    have hreset := errorReset_of_returned hcode hcaller hreturned
    have hesp : m₄.regs.esp = m.regs.esp+12 := by
      rw [hreturned.esp, errorEntered, errorCalled]
      simp only
      ring
    refine localDescribed hcode houtside (channelsOrigin hcaller) hreset ?_ hesp ?_ ?_
    · rw [hreturned.ebx, hreturned.ebp, hreturned.esi, hreturned.edi]
      exact ⟨rfl,rfl,rfl,rfl⟩
    · rw [word, hreturned.memory (kernel+s.localThunkSlotRva,4) (by simp [channelsKept])]
      exact word_setWords_of_stretch (hcaller.stack (kernel+s.localThunkSlotRva,4) (by simp)) (by simp)
    · rw [tablesWindow_congr (hreturned.memory (t.handles p-4,2192) (by simp [channelsKept]))]
      exact tablesWindow_setWords (hcaller.stack (t.handles p-4,2192) (by simp)) (by simp) rfl rfl

/-- A function that does nothing but return, with a value in EAX. -/
def returning (arguments v : BitVec 32) (m : Machine) : Machine :=
  { m with
    regs := { m.regs with eax := v, esp := m.regs.esp+4+arguments }
    eip := word m.mem m.regs.esp }

theorem returned_returning (arguments kept v : BitVec 32) (memory : List (Address × ℕ)) (m : Machine) :
    Returned arguments kept memory m (returning arguments v m) :=
  ⟨rfl,rfl,rfl,rfl,rfl,rfl,rfl,rfl,fun _ _ => rfl⟩

/-- In the tables the pointer spoils the window. -/
theorem not_channelsDescribed {d : ℕ} (hd : d < 2192) (hbetween : ¬(132 ≤ d ∧ d < 140))
    (hpointer : s.pointer p = t.handles p-4+BitVec.ofNat 32 d) :
    ¬CdStreamChannelsDescribed s t p kernel code m := by
  intro hdescribed
  obtain ⟨m₁,m₂,m₃,_,_,_,_,_,_,_,hlocal⟩ := hdescribed
  obtain ⟨_,_,m₅,m₆,m₇,_,_,_,_,_,_,_,hpublished⟩ := hlocal _ (returned_returning 4 _ 0 _ m₃)
  -- A pointer whose low byte is not what the table has there.
  let v : BitVec 32 := if m.mem (s.pointer p) = 0 then 0x300008 else 0x300000
  obtain ⟨_,_,_,m₉,_,_,_,hword,htables⟩ := hpublished _ (returned_returning 8 _ v _ m₇)
  have hbyte := (cdStreamChannelsTables_iff _ _ _).mp htables d hd
  rw [getElem_tablesWindow, getElem_tablesWindow, if_neg (fun h => hbetween h.2), ← hpointer,
    apply_of_word m₉.mem, hword] at hbyte
  change (write 4 v).getD 0 0 = m.mem (s.pointer p) at hbyte
  by_cases hzero : m.mem (s.pointer p) = 0
  · rw [hzero, show v = 0x300008 from if_pos hzero] at hbyte
    exact absurd hbyte (by decide)
  · rw [show v = 0x300000 from if_neg hzero] at hbyte
    exact hzero (hbyte.symm.trans (by decide))

/-- The places of the pointer and of the tables in the image, as the specs have been checked. -/
structure ChannelsPlaces (imageSize pointer handles : BitVec 32) : Prop where
  inMemory : 4096 ≤ imageSize
  pointerInImage : 4096 ≤ pointer-4 ∧ pointer-4 ≤ imageSize-12
  handlesInImage : 4100 ≤ handles ∧ handles ≤ imageSize-2192
  aligned : pointer.toNat%4 = 0 ∧ handles.toNat%4 = 0
  apart : pointer-4+12 ≤ handles+136-8 ∨ handles+136 ≤ pointer-4

theorem channelsPlaces (hcode : CdStreamChannelsLoaded s t p kernel c code) :
    ChannelsPlaces p.manager.imageSize s.pointerRva t.handlesRva := by
  obtain ⟨tables,htables⟩ := Option.isSome_iff_exists.mp hcode.tables
  have hemits := hcode.emits
  dsimp only [cdStreamChannelsCode] at hemits
  split at hemits
  · contradiction
  rename_i hguard
  dsimp only [cdStreamTablesCode] at htables
  split at htables
  · contradiction
  rename_i hguard'
  simp only [Bool.or_eq_true, not_or, Bool.not_eq_true', Bool.not_eq_false, decide_eq_true_eq,
    not_not] at hguard hguard'
  obtain ⟨⟨⟨⟨⟨⟨⟨⟨⟨⟨hsize,_⟩,_⟩,_⟩,_⟩,hspans⟩,haligned⟩,_⟩,_⟩,_⟩,_⟩ := hguard
  obtain ⟨⟨⟨⟨⟨⟨⟨_,_⟩,hlow⟩,haligned'⟩,hhigh⟩,hnames⟩,_⟩,_⟩ := hguard'
  simp [validSpans, hnames] at hspans
  simp at haligned
  obtain ⟨⟨_,_,_,hpointer,_⟩,_,_,_,⟨_,_,hapart⟩,_⟩ := hspans
  exact ⟨BitVec.not_lt.mp hsize,hpointer,⟨BitVec.not_lt.mp hlow,BitVec.not_lt.mp hhigh⟩,
    ⟨by omega,haligned'⟩,hapart⟩

/-- Both are aligned, so that the pointer is in the window as a whole or not at all. -/
theorem pointer_place (hcode : CdStreamChannelsLoaded s t p kernel c code) :
    (PointerOutsideTables s t → Apart (s.pointer p) 4 (t.handles p-4) 2192) ∧
      (¬PointerOutsideTables s t → ∃ d < 2192, ¬(132 ≤ d ∧ d < 140) ∧
        s.pointer p = t.handles p-4+BitVec.ofNat 32 d) := by
  obtain ⟨hsize,⟨hpointer,hpointer'⟩,⟨hhandles,hhandles'⟩,⟨haligned,haligned'⟩,hapart⟩ := channelsPlaces hcode
  rw [PointerOutsideTables, CdStreamChannelsSpec.pointer, CdStreamTablesSpec.handles]
  generalize p.manager.imageBase = base, p.manager.imageSize = size, s.pointerRva = pointer,
    t.handlesRva = handles at *
  constructor
  · intro h
    have hforth : base+handles-4-(base+pointer) = handles-4-pointer := by ring
    have hback : base+pointer-(base+handles-4) = pointer-(handles-4) := by ring
    rw [Apart, hforth, hback]
    clear hapart haligned haligned' hforth hback
    constructor <;> bv_omega
  · intro h
    refine ⟨(pointer-(handles-4)).toNat,?_,?_,?_⟩
    · bv_omega
    · bv_omega
    · rw [BitVec.ofNat_toNat, BitVec.setWidth_eq]
      ring

theorem cd_stream_channels_describe_code_iff (hcode : CdStreamChannelsLoaded s t p kernel c code)
    (hcaller : CdStreamChannelsCaller s t p kernel m) :
    CdStreamChannelsDescribed s t p kernel code m ↔ PointerOutsideTables s t := by
  obtain ⟨houtside,hinside⟩ := pointer_place hcode
  constructor
  · intro hdescribed
    by_contra hnot
    obtain ⟨d,hd,hbetween,hpointer⟩ := hinside hnot
    exact not_channelsDescribed hd hbetween hpointer hdescribed
  · intro h
    exact channelsDescribed_of_apart hcode hcaller (houtside h)

/-! The reviewed image, a thread in it, and the image with the pointer in its tables. -/

def reviewedCdStreamChannelsSpec : CdStreamChannelsSpec where
  errorIatRva := 4554908
  localIatRva := 4554936
  pointerRva := 5128188
  filenameRva := 4557556
  openRva := 26544
  errorThunkSlotRva := 532500
  localThunkSlotRva := 528056
  errorThunk :=
    { rva := 85760
      prefixBytes := #v[0xff,0x25,0x14,0x20,8,0x10,0xcc,0xcc,0xcc,0xcc,0xcc,0xcc,0xcc,0xcc,0xcc,0xcc,
        0x8b,0xff,0x55,0x8b]
      preferredBase := 268435456
      highlowMask := 4 }
  errorImplementation :=
    { rva := 401456
      prefixBytes := #v[0x8b,0xff,0x55,0x8b,0xec,0x64,0xa1,0x18,0,0,0,0x8b,0x15,0x20,0x9d,0x3b,0x4b,
        0x8b,0x4d,8]
      preferredBase := 1260912640
      highlowMask := 8192 }
  localThunk :=
    { rva := 116736
      prefixBytes := #v[0x8b,0xff,0x55,0x8b,0xec,0x5d,0xff,0x25,0xb8,0x0e,8,0x10,0xcc,0xcc,0xcc,0xcc,
        0xcc,0xcc,0xcc,0xcc]
      preferredBase := 268435456
      highlowMask := 256 }
  localImplementation :=
    { rva := 1325408
      prefixBytes := #v[0x8b,0xff,0x55,0x8b,0xec,0x6a,0xfe,0x68,0xd8,0x22,0x26,0x10,0x68,0x60,0x24,
        0x17,0x10,0x64,0xa1,0]
      preferredBase := 268435456
      highlowMask := 8448 }

/-- The pointer is published at the first handle. -/
def overlappingCdStreamChannelsSpec : CdStreamChannelsSpec :=
  { reviewedCdStreamChannelsSpec with pointerRva := 5128208 }

def reviewedCdStreamChannelsCode (pointer : BitVec 32) : Vector UInt8 64 :=
  writeDword 60 (26544-(27504+137)-64) (writeDword 55 pointer (writeDword 50 0x858af4
    (writeDword 43 0x8580b8 (writeDword 37 0x8e4090 (writeDword 28 0x8e4094
      (writeDword 9 0x85809c cdStreamChannelsRaw))))))

/-- The thunks in a kernel32 at 0x76000000. -/
def loadedErrorThunk : Vector UInt8 20 :=
  #v[0xff,0x25,0x14,0x20,8,0x76,0xcc,0xcc,0xcc,0xcc,0xcc,0xcc,0xcc,0xcc,0xcc,0xcc,0x8b,0xff,0x55,0x8b]

def loadedLocalThunk : Vector UInt8 20 :=
  #v[0x8b,0xff,0x55,0x8b,0xec,0x5d,0xff,0x25,0xb8,0x0e,8,0x76,0xcc,0xcc,0xcc,0xcc,0xcc,0xcc,0xcc,0xcc]

def reviewedCdStreamChannelsMemory (pointer : BitVec 32) : Memory :=
  store (store (store (fun _ => 0) 0x406bf9 (reviewedCdStreamChannelsCode pointer).toList)
    0x76014f00 loadedErrorThunk.toList) 0x7601c800 loadedLocalThunk.toList

def reviewedCdStreamChannelsThread : Machine where
  regs := ⟨0x200200,2,3,0,0x19ff00,0x19ff74,0,0x8e4090⟩
  flags := 0x246
  eip := 0x406bf9
  mem := setWords (setWords (fun _ => 0) 0x858000 [(0x9c,0x76014f00),(0xb8,0x7601c800)]) 0
    [(0x76082014,0x77062030),(0x76080eb8,0x76343960),(0x19ff28,5)]
  fs := 0x7ffde000
  undefined := fun _ => 0

theorem cdStreamChannelsLoaded_reviewed : CdStreamChannelsLoaded reviewedCdStreamChannelsSpec
    reviewedCdStreamTablesSpec reviewedFileManagerSpec 0x76000000 (reviewedCdStreamChannelsCode 0x8e3ffc)
    (reviewedCdStreamChannelsMemory 0x8e3ffc) where
  emits := by
    rw [cdStreamChannelsCode, if_neg (by decide)]
    rfl
  tables := by rw [cdStreamTablesLoaded_reviewed.emits]; rfl
  body := ((hasBytes_store (by decide)).store ⟨by decide,by decide⟩).store ⟨by decide,by decide⟩
  errorThunk := ⟨loadedErrorThunk,by decide,
    (hasBytes_store (by decide)).store ⟨by decide,by decide⟩⟩
  localThunk := ⟨loadedLocalThunk,by decide,hasBytes_store (by decide)⟩

theorem cdStreamChannelsCaller_reviewed : CdStreamChannelsCaller reviewedCdStreamChannelsSpec
    reviewedCdStreamTablesSpec reviewedFileManagerSpec 0x76000000 reviewedCdStreamChannelsThread := by
  constructor <;> decide

/-- LocalAlloc answers with a block at 0x2b0000. -/
theorem cd_stream_channels_describe_reviewed_code : CdStreamChannelsDescribed
    reviewedCdStreamChannelsSpec reviewedCdStreamTablesSpec reviewedFileManagerSpec 0x76000000
    (reviewedCdStreamChannelsMemory 0x8e3ffc) reviewedCdStreamChannelsThread ∧
    ∃ m₃ m₇ m₉, Reaches (reviewedCdStreamChannelsMemory 0x8e3ffc) reviewedCdStreamChannelsThread m₃ ∧
      m₃.eip = 0x77062030 ∧
      Reaches (reviewedCdStreamChannelsMemory 0x8e3ffc) (backFrom 4 0 m₃.mem m₃) m₇ ∧ m₇.eip = 0x76343960 ∧
      Reaches (reviewedCdStreamChannelsMemory 0x8e3ffc) (backFrom 8 0x2b0000 m₇.mem m₇) m₉ ∧
      m₉.eip = CdStreamChannelsSpec.start reviewedCdStreamTablesSpec reviewedFileManagerSpec+59 ∧
      word m₉.mem (reviewedCdStreamChannelsSpec.pointer reviewedFileManagerSpec) = 0x2b0000 := by
  have hdescribed := (cd_stream_channels_describe_code_iff cdStreamChannelsLoaded_reviewed
    cdStreamChannelsCaller_reviewed).mpr (by decide)
  refine ⟨hdescribed,?_⟩
  obtain ⟨m₁,m₂,m₃,hfirst,hsecond,hthird,_,_,herror,_,hback⟩ := hdescribed
  have hreset := @returned_backFrom 4 0 0x500 m₃.mem (channelsKept reviewedCdStreamChannelsSpec
    reviewedCdStreamTablesSpec reviewedFileManagerSpec 0x76000000
    reviewedCdStreamChannelsThread.regs.esp) m₃ fun _ _ => rfl
  obtain ⟨_,_,m₅,m₆,m₇,hfifth,hsixth,hseventh,_,_,hlocal,_,hback⟩ := hback _ hreset
  have hallocated := @returned_backFrom 8 0x2b0000 0x500 m₇.mem (channelsKept reviewedCdStreamChannelsSpec
    reviewedCdStreamTablesSpec reviewedFileManagerSpec 0x76000000
    reviewedCdStreamChannelsThread.regs.esp) m₇ fun _ _ => rfl
  obtain ⟨_,_,_,m₉,hninth,heip,_,hpointer,_⟩ := hback _ hallocated
  have hentered : m₃.eip = 0x77062030 := herror.trans (by decide)
  have hentered' : m₇.eip = 0x76343960 := hlocal.trans (by decide)
  exact ⟨m₃,m₇,m₉,(hfirst.trans hsecond).trans hthird,hentered,(hfifth.trans hsixth).trans hseventh,hentered',
    hninth,heip,hpointer⟩

/-- The spec with the pointer in the tables is accepted. -/
theorem cdStreamChannelsLoaded_overlapping : CdStreamChannelsLoaded overlappingCdStreamChannelsSpec
    reviewedCdStreamTablesSpec reviewedFileManagerSpec 0x76000000 (reviewedCdStreamChannelsCode 0x8e4010)
    (reviewedCdStreamChannelsMemory 0x8e4010) where
  emits := by
    rw [cdStreamChannelsCode, if_neg (by decide)]
    rfl
  tables := by rw [cdStreamTablesLoaded_reviewed.emits]; rfl
  body := ((hasBytes_store (by decide)).store ⟨by decide,by decide⟩).store ⟨by decide,by decide⟩
  errorThunk := ⟨loadedErrorThunk,by decide,
    (hasBytes_store (by decide)).store ⟨by decide,by decide⟩⟩
  localThunk := ⟨loadedLocalThunk,by decide,hasBytes_store (by decide)⟩

theorem cd_stream_channels_misses_code : ∃ s c code m, CdStreamChannelsLoaded s
    reviewedCdStreamTablesSpec reviewedFileManagerSpec 0x76000000 c code ∧
    CdStreamChannelsCaller s reviewedCdStreamTablesSpec reviewedFileManagerSpec 0x76000000 m ∧
    ¬CdStreamChannelsDescribed s reviewedCdStreamTablesSpec reviewedFileManagerSpec 0x76000000 code m :=
  ⟨overlappingCdStreamChannelsSpec,_,_,reviewedCdStreamChannelsThread,cdStreamChannelsLoaded_overlapping,
    by constructor <;> decide,not_channelsDescribed (d := 4) (by decide) (by decide) (by decide)⟩

end Saex
