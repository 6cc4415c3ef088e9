import Saex.CdStreamDisk
import Saex.CdStreamTablesRun

/-! The code that the checkpoint pins, executed from the return of the disk function to the CALL of
the allocator. -/
namespace Saex
open LittleEndian WrappedMemory Ia32

/-! What the bytes of `cdStreamDiskCode` stand for. -/

def sectorListing : Listing :=
  [([0x8b,0x4c,0x24,4],.mov (.reg .ecx) (.mem { base := some .esp, displacement := 4 })),
   ([0x33,0xc0],.alu .xor (.reg .eax) (.reg .eax)),
   ([0x81,0xf9]++write 4 (2048 : BitVec 32),.alu .cmp (.reg .ecx) (.imm (dword 2048))),
   ([0x77,5],.jcc .carryOrZero false 5)]

/-- For sectors that are not too long. -/
def overlapListing : Listing :=
  [(0xb8 :: write 4 (0x20000000 : BitVec 32),.mov (.reg .eax) (.imm (dword 0x20000000)))]

def allocatorArgumentsListing (flags : BitVec 32) : Listing :=
  [([0x56],.push (.reg .esi)),
   ([0x6a,0],.push (.imm 0)),
   ([0x51],.push (.reg .ecx)),
   (0x0d :: write 4 (0x40000000 : BitVec 32),.alu .or (.reg .eax) (.imm (dword 0x40000000))),
   (0x68 :: write 4 (2048 : BitVec 32),.push (.imm (dword 2048))),
   ([0xc7,5]++(write 4 (flags+8)++write 4 (1 : BitVec 32)),
     .mov (.mem { displacement := dword (flags+8) }) (.imm (dword 1))),
   (0xa3 :: write 4 flags,.mov (.mem { displacement := dword flags }) (.reg .eax)),
   ([0xc7,5]++(write 4 (flags+4)++write 4 (0 : BitVec 32)),
     .mov (.mem { displacement := dword (flags+4) }) (.imm (dword 0)))]

theorem straight_sectorListing : Straight sectorListing := by
  iterate 3 refine straight_cons ⟨by simp,fun _ => rfl⟩ trivial ?_
  exact straight_singleton ⟨by simp,fun _ => rfl⟩

theorem straight_overlapListing : Straight overlapListing :=
  straight_singleton ⟨by simp,fun _ => rfl⟩

theorem straight_allocatorArgumentsListing (flags : BitVec 32) :
    Straight (allocatorArgumentsListing flags) := by
  iterate 7 refine straight_cons ⟨by simp,fun _ => rfl⟩ trivial ?_
  exact straight_singleton ⟨by simp,fun _ => rfl⟩

variable {s : CdStreamDiskSpec} {t : CdStreamTablesSpec} {p : FileManagerEntrySpec}
  {c : Vector UInt8 69} {code : Memory} {m : Machine}

def CdStreamDiskSpec.flagsAddress (s : CdStreamDiskSpec) (p : FileManagerEntrySpec) : Address :=
  p.manager.imageBase+s.flagsRva

theorem cdStreamDiskCode_eq (h : cdStreamDiskCode s t p = some c) :
    c.toList = [0xff,0x15]++(write 4 (p.manager.imageBase+t.diskIatRva)++(encoding sectorListing++
      (encoding overlapListing++(encoding (allocatorArgumentsListing (s.flagsAddress p))++
        (0xe8 :: write 4 (s.allocatorRva-t.targetRva-137)))))) := by
  dsimp only [cdStreamDiskCode] at h
  split at h
  · contradiction
  rw [← Option.some.inj h, toList_writeDword (by decide), toList_writeDword (by decide),
    toList_writeDword (by decide), toList_writeDword (by decide), toList_writeDword (by decide)]
  rfl

/-! The machine before the CALL of the allocator. -/

/-- The first of the locals that the disk function has filled. -/
def sector (m : Machine) : BitVec 32 := word m.mem (m.regs.esp+4)

/-- Behind the branch on the length of a sector. -/
def sectorTested (t : CdStreamTablesSpec) (p : FileManagerEntrySpec) (m : Machine) : Machine :=
  { m with
    regs := { m.regs with eax := if 2048 < sector m then 0 else 0x20000000, ecx := sector m }
    flags := blend (blend m.flags resumeFlag 0) arithmeticFlags (subFlags (sector m) 2048)
    eip := t.target p+93
    undefined := fun n => m.undefined (n+1) }

def allocatorPushed (s : CdStreamDiskSpec) (t : CdStreamTablesSpec) (p : FileManagerEntrySpec)
    (m : Machine) : Machine :=
  { m with
    regs := { m.regs with
      eax := cdStreamDiskFlags (sector m), ecx := sector m, esp := m.regs.esp-16 }
    flags := blend (blend m.flags resumeFlag 0) arithmeticFlags
      (resultFlags (cdStreamDiskFlags (sector m)) ||| m.undefined 1 &&& 0x10)
    eip := t.target p+132
    mem := setWords (setWords m.mem (m.regs.esp-16) [(12,m.regs.esi),(8,0),(4,sector m),(0,2048)])
      (s.flagsAddress p-4) [(12,1),(4,cdStreamDiskFlags (sector m)),(8,0)]
    undefined := fun n => m.undefined (n+2) }

/-- The code in memory, behind the CALL of the disk function. -/
structure CdStreamDiskLoaded (s : CdStreamDiskSpec) (t : CdStreamTablesSpec)
    (p : FileManagerEntrySpec) (c : Vector UInt8 69) (code : Memory) : Prop where
  emits : cdStreamDiskCode s t p = some c
  body : HasBytes code (t.target p+68) c.toList

theorem reaches_sectorTested (hcode : CdStreamDiskLoaded s t p c code) (heip : m.eip = t.target p+74) :
    Reaches code m (sectorTested t p m) := by
  have hbytes := hcode.body
  rw [cdStreamDiskCode_eq hcode.emits, hasBytes_append, hasBytes_append, hasBytes_append,
    hasBytes_append] at hbytes
  have heip' : m.eip = t.target p+68+2+4 := heip.trans (by ring)
  have hsector (m' : Machine) (h : m.afterAll sectorListing = m') : Reaches code m m' :=
    reaches_listing straight_sectorListing hbytes.2.2.1 heip' h
  have hafter : m.afterAll sectorListing =
      { sectorTested t p m with
        regs := { m.regs with eax := 0, ecx := sector m }
        eip := if 2048 < sector m then t.target p+93 else t.target p+88 } := by
    obtain ⟨⟨eax,ecx,edx,ebx,esp,ebp,esi,edi⟩,flags,eip,mem,fs,undefined⟩ := m
    simp only at heip
    simp (disch := decide) [sectorListing, sectorTested, sector, heip, holds_carryOrZero, BitVec.add_assoc,
      blend_resumeFlag]
    congr
  by_cases hlong : 2048 < sector m
  · rw [if_pos hlong] at hafter
    exact hsector _ (hafter.trans (by simp only [sectorTested, hlong, if_true]))
  · rw [if_neg hlong] at hafter
    have heip'' : t.target p+88 = t.target p+68+2+4+14 := by ring
    refine (hsector _ hafter).trans (reaches_listing straight_overlapListing hbytes.2.2.2.1 heip'' ?_)
    simp (disch := decide) [overlapListing, sectorTested, BitVec.add_assoc, blend_resumeFlag]
    simpa using hlong

theorem reaches_allocatorPushed (hcode : CdStreamDiskLoaded s t p c code) :
    Reaches code (sectorTested t p m) (allocatorPushed s t p m) := by
  have hbytes := hcode.body
  rw [cdStreamDiskCode_eq hcode.emits, hasBytes_append, hasBytes_append, hasBytes_append,
    hasBytes_append, hasBytes_append] at hbytes
  have heip : t.target p+93 = t.target p+68+2+4+14+5 := by ring
  refine reaches_listing (straight_allocatorArgumentsListing _) hbytes.2.2.2.2.1 heip ?_
  have hor : (if 2048 < sector m then (0 : BitVec 32) else 0x20000000) ||| 0x40000000 =
      cdStreamDiskFlags (sector m) := by
    rw [cdStreamDiskFlags]
    by_cases hlong : 2048 < sector m
    · rw [if_pos hlong, if_neg (BitVec.not_le.mpr hlong)]
      rfl
    · rw [if_neg hlong, if_pos (BitVec.not_lt.mp hlong)]
      rfl
  rw [allocatorPushed, sectorTested]
  generalize sector m = bytes at *
  generalize cdStreamDiskFlags bytes = chosen at *
  generalize (if 2048 < bytes then (0 : BitVec 32) else 0x20000000) = eax' at *
  obtain ⟨⟨eax,ecx,edx,ebx,esp,ebp,esi,edi⟩,flags,eip,mem,fs,undefined⟩ := m
  simp only [BitVec.ofNat_eq_ofNat] at hor
  simp (disch := decide) [allocatorArgumentsListing, hor, setWords, BitVec.sub_eq_add_neg,
    BitVec.add_assoc, blend_resumeFlag]

/-! What the checkpoint makes of the stop. -/

/-- Flags, and guard words on each side. -/
def flagsWindow (flags : Address) (m : Machine) : Vector (BitVec 32) 5 := words m.mem (flags-4) 5

/-- The thread behind the disk function; `c` is the caller of the body. -/
structure CdStreamDiskReturn (s : CdStreamDiskSpec) (t : CdStreamTablesSpec) (p : FileManagerEntrySpec)
    (c : DispatchRegisters) (g : CdStreamDiskGeometry) (m : Machine) : Prop where
  eip : m.eip = t.target p+74
  frame : cdStreamDiskFrame 3 c (registers m) (t.handles p) {} none
  /-- The function has succeeded and filled the locals. -/
  result : ∃ result, cdStreamDiskQueryResult result (words m.mem (c.esp-24) 4) = (.accepted,g)
  /-- The stack that is written is not in the window of the flags. -/
  disjoint : Apart (m.regs.esp-16) 16 (s.flagsAddress p-4) 20

/-- What the checks of the registers start from. -/
structure DiskOrigin (c r : DispatchRegisters) (handles : BitVec 32) : Prop where
  low : 65600#32 ≤ c.esp
  aligned : c.esp.toNat%4 = 0
  inMemory : handles ≤ 4294967167#32
  flags : c.flags &&& 1280#32 = 0#32
  flags' : r.flags &&& 1280#32 = 0#32
  ebx : r.ebx = c.ebx
  esi : r.esi = c.esi
  ebp : r.ebp = c.ebp
  edi : r.edi = handles+128#32
  esp : r.esp = c.esp-28#32

theorem diskOrigin_of_frame {c r : DispatchRegisters} {handles : BitVec 32} {g : CdStreamDiskGeometry}
    (h : cdStreamDiskFrame 3 c r handles g none) : DiskOrigin c r handles := by
  simp [cdStreamDiskFrame] at h
  obtain ⟨⟨⟨⟨⟨⟨⟨⟨⟨hlow,haligned⟩,hhandles⟩,hflags⟩,hflags'⟩,hebx⟩,hesi⟩,hebp⟩,hedi⟩,hesp⟩ := h
  exact ⟨hlow,haligned,hhandles,hflags,hflags',hebx,hesi,hebp,hedi,hesp⟩

/-- An accepted geometry has the sector that the code reads. -/
theorem sector_of_accepted {c : DispatchRegisters} {g : CdStreamDiskGeometry} {result : BitVec 32}
    (hesp : m.regs.esp = c.esp-28)
    (h : cdStreamDiskQueryResult result (words m.mem (c.esp-24) 4) = (.accepted,g)) :
    g.bytesPerSector = sector m ∧ cdStreamDiskGeometry g := by
  rw [cdStreamDiskQueryResult] at h
  split at h
  · simp at h
  · rw [Prod.mk.injEq] at h
    obtain ⟨haccepted,hg⟩ := h
    rw [hg] at haccepted
    constructor
    · rw [← hg, sector, hesp, show c.esp-28+4 = c.esp-24 by ring]
      simp
    · by_contra hnot
      simp [hnot] at haccepted

theorem cdStreamDiskFlags_result (v : BitVec 32) : resultFlags (cdStreamDiskFlags v) = 4 := by
  rw [cdStreamDiskFlags]
  split <;> decide

theorem cdStreamDiskFrame_iff {c r : DispatchRegisters} {g : CdStreamDiskGeometry}
    (h : DiskOrigin c (registers m) (t.handles p)) (hsector : g.bytesPerSector = sector m)
    (hgeometry : cdStreamDiskGeometry g) :
    cdStreamDiskFrame 4 c r (t.handles p) g (some (registers m)) ↔
      AgreeBut (resumeFlag ||| 0x10) r (registers (allocatorPushed s t p m)) := by
  have hnow : (registers (allocatorPushed s t p m)).flags =
      blend (blend m.flags resumeFlag 0) arithmeticFlags (4 ||| m.undefined 1 &&& 0x10) := by
    rw [← cdStreamDiskFlags_result (sector m)]
    rfl
  have hiff := @flags_iff r.flags (registers (allocatorPushed s t p m)).flags (registers m).flags
    0x8c5 0xfffef72a (resumeFlag ||| 0x10) 4 h.flags' ?_ ?_ (by decide) (by decide)
  · rw [agreeBut_iff, ← hiff]
    obtain ⟨hlow,haligned,hhandles,hflags,hflags',hebx,hesi,hebp,hedi,hesp⟩ := h
    simp [cdStreamDiskFrame, hlow, haligned, hhandles, hflags, hgeometry, hsector]
    simp only [registers, allocatorPushed] at *
    clear hiff
    grind
  · rw [hnow, blend_and_of_within (by decide), or_and, BitVec.and_assoc]
    simp
  · rw [hnow, blend_and_of_disjoint (by decide), blend_and_of_disjoint (by decide)]
    rfl

/-- The memory check accepts one window. -/
theorem cdStreamDiskMemory_iff (h : Apart (m.regs.esp-16) 16 (s.flagsAddress p-4) 20)
    (w : Vector (BitVec 32) 5) :
    cdStreamDiskMemory (flagsWindow (s.flagsAddress p) m) w (cdStreamDiskFlags (sector m)) true ↔
      w = flagsWindow (s.flagsAddress p) (allocatorPushed s t p m) := by
  have hpushes : words (setWords m.mem (m.regs.esp-16)
      [(12,m.regs.esi),(8,0),(4,sector m),(0,2048)]) (s.flagsAddress p-4) 5 =
        flagsWindow (s.flagsAddress p) m := by
    refine words_congr (load_setWords_of_apart fun w hw => h.left (by decide) (by decide) ?_)
    simp only [List.mem_cons, List.not_mem_nil, or_false] at hw
    obtain rfl | rfl | rfl | rfl := hw <;> simp
  have hwindow : flagsWindow (s.flagsAddress p) (allocatorPushed s t p m) =
      (((flagsWindow (s.flagsAddress p) m).set 3 1).set 1 (cdStreamDiskFlags (sector m))).set 2 0 := by
    rw [← hpushes, flagsWindow, allocatorPushed]
    generalize setWords m.mem (m.regs.esp-16) [(12,m.regs.esi),(8,0),(4,sector m),(0,2048)] = mem
    simp (disch := decide) only [setWords, List.foldl_cons, List.foldl_nil, words_setWord]
    rfl
  rw [hwindow, cdStreamDiskMemory]
  generalize flagsWindow (s.flagsAddress p) m = before
  simp only [Bool.not_true, Bool.false_eq_true, if_false, decide_eq_true_eq]
  refine Eq.congr_right (Vector.ext fun i hi => ?_)
  interval_cases i
  all_goals simp
  all_goals rfl

/-- What the allocator is given. -/
theorem allocatorArguments (h : Apart (m.regs.esp-16) 16 (s.flagsAddress p-4) 20) :
    words (allocatorPushed s t p m).mem (m.regs.esp-16) 4 = #v[2048,sector m,0,m.regs.esi] := by
  have hkept : words (allocatorPushed s t p m).mem (m.regs.esp-16) 4 = words (setWords m.mem
      (m.regs.esp-16) [(12,m.regs.esi),(8,0),(4,sector m),(0,2048)]) (m.regs.esp-16) 4 := by
    refine words_congr (load_setWords_of_apart fun w hw => h.symm.left (by decide) (by decide) ?_)
    simp only [List.mem_cons, List.not_mem_nil, or_false] at hw
    obtain rfl | rfl | rfl := hw <;> simp
  rw [hkept]
  refine Vector.ext fun i hi => ?_
  simp (disch := decide) only [setWords, List.foldl_cons, List.foldl_nil, words_setWord]
  interval_cases i <;> simp

/-- From the return of the disk function on the execution comes to the CALL of the allocator, and
the checkpoint describes it. -/
def CdStreamDiskDescribed (s : CdStreamDiskSpec) (t : CdStreamTablesSpec) (p : FileManagerEntrySpec)
    (c : DispatchRegisters) (g : CdStreamDiskGeometry) (code : Memory) (m : Machine) : Prop :=
  ∃ m', Reaches code m m' ∧ m'.eip = t.target p+132 ∧
    (∀ r, cdStreamDiskFrame 4 c r (t.handles p) g (some (registers m)) ↔
      AgreeBut (resumeFlag ||| 0x10) r (registers m')) ∧
    words m'.mem m'.regs.esp 4 = #v[2048,g.bytesPerSector,0,c.esi] ∧
    ∀ w, cdStreamDiskMemory (flagsWindow (s.flagsAddress p) m) w (cdStreamDiskFlags g.bytesPerSector) true ↔
      w = flagsWindow (s.flagsAddress p) m'

theorem cd_stream_disk_describes_code {c' : DispatchRegisters} {g : CdStreamDiskGeometry}
    (hcode : CdStreamDiskLoaded s t p c code) (hreturn : CdStreamDiskReturn s t p c' g m) :
    CdStreamDiskDescribed s t p c' g code m := by
  have horigin := diskOrigin_of_frame hreturn.frame
  obtain ⟨result,haccepted⟩ := hreturn.result
  obtain ⟨hsector,hgeometry⟩ := sector_of_accepted horigin.esp haccepted
  have hesi : c'.esi = m.regs.esi := horigin.esi.symm
  refine ⟨allocatorPushed s t p m,(reaches_sectorTested hcode hreturn.eip).trans
    (reaches_allocatorPushed hcode),rfl,fun r => cdStreamDiskFrame_iff horigin hsector hgeometry,?_,?_⟩
  · rw [hsector, hesi]
    exact allocatorArguments hreturn.disjoint
  · rw [hsector]
    exact cdStreamDiskMemory_iff hreturn.disjoint

/-! The reviewed image, and a thread in it. -/

def reviewedCdStreamDiskSpec : CdStreamDiskSpec where
  flagsRva := 5128160
  allocatorRva := 3339456
  thunkRva := 125856
  thunkSlotRva := 529236
  implementation :=
    { rva := 2366448
      prefixBytes := #v[0x8b,0xff,0x55,0x8b,0xec,0x51,0x51,0x83,0x7d,8,0,0x8d,0x4d,0xf8,0xba,0xb4,
        0x23,0x0c,0x10,0x0f]
      preferredBase := 268435456
      highlowMask := 32768 }

def reviewedCdStreamDiskCode : Vector UInt8 69 :=
  writeDword 65 (3339456-27504-137) (writeDword 56 0x8e3fe4 (writeDword 50 0x8e3fe0
    (writeDword 41 0x8e3fe8 (writeDword 2 0x8580c0 cdStreamDiskRaw))))

def reviewedCdStreamDiskMemory : Memory :=
  store (fun _ => 0) 0x406bb4 reviewedCdStreamDiskCode.toList

def reviewedTablesCaller : DispatchRegisters := ⟨0x19ff40,1,0,2,3,0,24,0x19ff74,0x246⟩

def reviewedGeometry : CdStreamDiskGeometry := ⟨8,512,1000,2000⟩

def reviewedCdStreamDiskThread : Machine where
  regs := ⟨1,2,3,0,0x19ff24,0x19ff74,0,0x8e4090⟩
  flags := 0x246
  eip := 0x406bba
  mem := setWords (fun _ => 0) 0x19ff28 [(0,512),(4,2000),(8,1000),(12,8)]
  fs := 0x7ffde000
  undefined := fun _ => 0

theorem cdStreamDiskLoaded_reviewed : CdStreamDiskLoaded reviewedCdStreamDiskSpec
    reviewedCdStreamTablesSpec reviewedFileManagerSpec reviewedCdStreamDiskCode
    reviewedCdStreamDiskMemory where
  emits := by
    rw [cdStreamDiskCode, if_neg (by decide)]
    rfl
  body := hasBytes_store (by decide)

theorem cd_stream_disk_describes_reviewed_code : CdStreamDiskDescribed reviewedCdStreamDiskSpec
    reviewedCdStreamTablesSpec reviewedFileManagerSpec reviewedTablesCaller reviewedGeometry
    reviewedCdStreamDiskMemory reviewedCdStreamDiskThread :=
  cd_stream_disk_describes_code cdStreamDiskLoaded_reviewed
    ⟨by decide,by decide,⟨1,by decide⟩,by decide⟩

end Saex
