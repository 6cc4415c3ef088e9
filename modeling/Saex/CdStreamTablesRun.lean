import Saex.CdStreamTables
import Saex.CwdSehRun

/-! The code that the checkpoint pins, executed: the CALL, the filling of the table of handles,
the loop over the names, which ends by a signed comparison, and the arguments of the disk function. -/
namespace Saex
open LittleEndian WrappedMemory Ia32

/-! What the bytes of `cdStreamTablesCode` stand for. -/

def callTablesListing (distance : BitVec 32) : Listing :=
  [([0x6a,5],.push (.imm 5)),
   (0xe8 :: write 4 distance,.call (dword distance))]

def prepareFillListing (handles names : BitVec 32) : Listing :=
  [([0x83,0xec,0x10],.alu .sub (.reg .esp) (.imm 16)),
   ([0x57],.push (.reg .edi)),
   (0xb9 :: write 4 (32 : BitVec 32),.mov (.reg .ecx) (.imm (dword 32))),
   ([0x33,0xc0],.alu .xor (.reg .eax) (.reg .eax)),
   (0xbf :: write 4 handles,.mov (.reg .edi) (.imm (dword handles))),
   (0xba :: write 4 names,.mov (.reg .edx) (.imm (dword names)))]

/-- Up to the jump over the padding. -/
def fillHandlesListing (handles names : BitVec 32) : Listing :=
  prepareFillListing handles names++[([0xf3,0xab],.repStosd),([0xeb,7],.jmp 7)]

def clearNameListing (last : BitVec 32) : Listing :=
  [([0xc6,2,0],.mov (.mem { base := some .edx }) (.imm 0) .byte),
   ([0x83,0xc2,0x40],.alu .add (.reg .edx) (.imm 64)),
   ([0x81,0xfa]++write 4 last,.alu .cmp (.reg .edx) (.imm (dword last))),
   ([0x7c,0xf2],.jcc .less true (-14))]

def diskArgumentsListing : Listing :=
  [([0x8d,0x44,0x24,8],.lea .eax { base := some .esp, displacement := 8 }),
   ([0x50],.push (.reg .eax)),
   ([0x8d,0x4c,0x24,0x10],.lea .ecx { base := some .esp, displacement := 16 }),
   ([0x51],.push (.reg .ecx)),
   ([0x8d,0x54,0x24,0x0c],.lea .edx { base := some .esp, displacement := 12 }),
   ([0x52],.push (.reg .edx)),
   ([0x8d,0x44,0x24,0x1c],.lea .eax { base := some .esp, displacement := 28 }),
   ([0x50],.push (.reg .eax)),
   ([0x6a,0],.push (.imm 0))]

theorem straight_callTablesListing (distance : BitVec 32) : Straight (callTablesListing distance) := by
  refine straight_cons ⟨by simp,fun _ => rfl⟩ trivial ?_
  exact straight_singleton ⟨by simp,fun _ => rfl⟩

theorem straight_fillHandlesListing (handles names : BitVec 32) :
    Straight (fillHandlesListing handles names) := by
  iterate 7 refine straight_cons ⟨by simp,fun _ => rfl⟩ trivial ?_
  exact straight_singleton ⟨by simp,fun _ => rfl⟩

theorem straight_clearNameListing (last : BitVec 32) : Straight (clearNameListing last) := by
  iterate 3 refine straight_cons ⟨by simp,fun _ => rfl⟩ trivial ?_
  exact straight_singleton ⟨by simp,fun _ => rfl⟩

theorem straight_diskArgumentsListing : Straight diskArgumentsListing := by
  iterate 8 refine straight_cons ⟨by simp,fun _ => rfl⟩ trivial ?_
  exact straight_singleton ⟨by simp,fun _ => rfl⟩

variable {s : CdStreamTablesSpec} {p : FileManagerEntrySpec} {c : CdStreamTablesCode} {code : Memory}
  {m : Machine}

namespace CdStreamTablesSpec

/-- Where the parts of the code and of the data are. -/
def callerAddress (p : FileManagerEntrySpec) : Address := p.manager.imageBase+(p.manager.callRva+5)
def target (s : CdStreamTablesSpec) (p : FileManagerEntrySpec) : Address := p.manager.imageBase+s.targetRva
def handles (s : CdStreamTablesSpec) (p : FileManagerEntrySpec) : Address := p.manager.imageBase+s.handlesRva
def names (s : CdStreamTablesSpec) (p : FileManagerEntrySpec) : Address := p.manager.imageBase+s.namesRva

end CdStreamTablesSpec

theorem cdStreamTablesCode_eq (h : cdStreamTablesCode s p = some c) :
    c.caller.toList = encoding (callTablesListing (s.targetRva-(p.manager.callRva+5)-7)) ∧
      c.body.toList = encoding (fillHandlesListing (s.handles p) (s.names p))++
        ([0x8d,0xa4,0x24,0,0,0,0]++(encoding (clearNameListing (s.names p+2048))++
          (encoding diskArgumentsListing++([0xff,0x15]++write 4 (p.manager.imageBase+s.diskIatRva))))) := by
  dsimp only [cdStreamTablesCode] at h
  split at h
  · contradiction
  split at h
  · rw [← Option.some.inj h]
    constructor
    · rw [toList_writeDword (by decide)]
      rfl
    · rw [toList_writeDword (by decide), toList_writeDword (by decide), toList_writeDword (by decide),
        toList_writeDword (by decide)]
      rfl
  · contradiction

/-! The machine at the stops and in the loop. All stores on the stack count from the lower end of
what is written of it, 48 bytes below the stack pointer of the caller. -/

def tablesEntered (s : CdStreamTablesSpec) (p : FileManagerEntrySpec) (m : Machine) : Machine :=
  { m with
    regs := { m.regs with esp := m.regs.esp-8 }
    flags := blend m.flags resumeFlag 0
    eip := s.target p
    mem := setWords m.mem (m.regs.esp-48) [(44,5),(40,CdStreamTablesSpec.callerAddress p+7)] }

/-- The first byte of each of the first `n` names is zeroed. -/
def clearNames (names : Address) (n : ℕ) (m : Memory) : Memory :=
  (List.range n).foldl (fun m i => store m (names+64*BitVec.ofNat 32 i) [0]) m

/-- Before name `i` the flags are those of some comparison or of XOR. -/
def namesCleared (s : CdStreamTablesSpec) (p : FileManagerEntrySpec) (m : Machine) (i : ℕ)
    (flags : BitVec 32) : Machine :=
  { m with
    regs := { m.regs with
      eax := 0, ecx := 0, edx := s.names p+64*BitVec.ofNat 32 i, edi := s.handles p+128
      esp := m.regs.esp-28 }
    flags := blend (blend m.flags resumeFlag 0) arithmeticFlags flags
    eip := s.target p+32
    mem := clearNames (s.names p) i (store (setWord (tablesEntered s p m).mem (m.regs.esp-28) m.regs.edi)
      (s.handles p) (List.replicate 128 0))
    undefined := fun n => m.undefined (n+1) }

def diskArgumentsPushed (s : CdStreamTablesSpec) (p : FileManagerEntrySpec) (m : Machine) : Machine :=
  let cleared := namesCleared s p m 32 (subFlags (s.names p+2048) (s.names p+2048))
  { cleared with
    regs := { cleared.regs with
      eax := m.regs.esp-12, ecx := m.regs.esp-16, edx := m.regs.esp-24, esp := m.regs.esp-48 }
    eip := s.target p+68
    mem := setWords cleared.mem (m.regs.esp-48)
      [(16,m.regs.esp-20),(12,m.regs.esp-16),(8,m.regs.esp-24),(4,m.regs.esp-12),(0,0)] }

/-- The code in memory: the CALL and the body. -/
structure CdStreamTablesLoaded (s : CdStreamTablesSpec) (p : FileManagerEntrySpec)
    (c : CdStreamTablesCode) (code : Memory) : Prop where
  emits : cdStreamTablesCode s p = some c
  caller : HasBytes code (CdStreamTablesSpec.callerAddress p) c.caller.toList
  body : HasBytes code (s.target p) c.body.toList

theorem reaches_tablesEntered (hcode : CdStreamTablesLoaded s p c code)
    (heip : m.eip = CdStreamTablesSpec.callerAddress p) : Reaches code m (tablesEntered s p m) := by
  have hbytes := hcode.caller
  rw [(cdStreamTablesCode_eq hcode.emits).1] at hbytes
  refine reaches_listing (straight_callTablesListing _) hbytes heip ?_
  have hreturn : m.eip+7 = CdStreamTablesSpec.callerAddress p+7 := by rw [heip]
  have htarget : CdStreamTablesSpec.callerAddress p+7+(s.targetRva-(p.manager.callRva+5)-7) =
      s.target p := by
    rw [CdStreamTablesSpec.callerAddress, CdStreamTablesSpec.target]
    ring
  obtain ⟨⟨eax,ecx,edx,ebx,esp,ebp,esi,edi⟩,flags,eip,mem,fs,undefined⟩ := m
  obtain ⟨b,rfl⟩ : ∃ b, esp = b+48 := ⟨esp-48,by ring⟩
  simp only [BitVec.ofNat_eq_ofNat] at hreturn htarget
  simp [callTablesListing, tablesEntered, setWords, BitVec.sub_eq_add_neg, BitVec.add_assoc] at hreturn htarget ⊢
  simp [hreturn, htarget]

/-- Up to the filling of the table. -/
theorem afterAll_prepareFillListing (heip : m.eip = s.target p) :
    m.afterAll (prepareFillListing (s.handles p) (s.names p)) =
      { m with
        regs := { m.regs with
          eax := 0, ecx := 32, edx := s.names p, edi := s.handles p, esp := m.regs.esp-20 }
        flags := blend (blend m.flags resumeFlag 0) arithmeticFlags
          (resultFlags 0 ||| m.undefined 0 &&& 0x10)
        eip := s.target p+21
        mem := setWord m.mem (m.regs.esp-20) m.regs.edi
        undefined := fun n => m.undefined (n+1) } := by
  obtain ⟨⟨eax,ecx,edx,ebx,esp,ebp,esi,edi⟩,flags,eip,mem,fs,undefined⟩ := m
  simp only at heip
  simp (disch := decide) [prepareFillListing, heip, BitVec.sub_eq_add_neg, BitVec.add_assoc,
    blend_resumeFlag]

theorem reaches_namesCleared_zero (hcode : CdStreamTablesLoaded s p c code)
    (hflags : m.flags &&& 0x500 = 0) : ∃ flags, Reaches code (tablesEntered s p m)
      (namesCleared s p m 0 flags) := by
  have hbytes := hcode.body
  rw [(cdStreamTablesCode_eq hcode.emits).2, hasBytes_append] at hbytes
  refine ⟨resultFlags 0 ||| m.undefined 0 &&& 0x10,
    reaches_listing (straight_fillHandlesListing _ _) hbytes.1 rfl ?_⟩
  have hdirection : (blend (blend (tablesEntered s p m).flags resumeFlag 0) arithmeticFlags
      (resultFlags 0 ||| (tablesEntered s p m).undefined 0 &&& 0x10)).getLsbD 10 = false := by
    apply direction_clear
    simp (disch := decide) only [tablesEntered, blend_and_of_disjoint, hflags]
  have hzeros : (List.replicate (32 : BitVec 32).toNat (write 4 (0 : BitVec 32))).flatten =
      List.replicate 128 0 := by
    rw [show write 4 (0 : BitVec 32) = List.replicate 4 0 by decide, List.flatten_replicate_replicate]
    rfl
  have hprepare := @afterAll_prepareFillListing s p (tablesEntered s p m) rfl
  rw [fillHandlesListing, afterAll_append, hprepare, afterAll_cons, afterAll_cons, afterAll_nil]
  rw [after_repStosd]
  · simp only [hzeros]
    simp (disch := decide) [tablesEntered, namesCleared, clearNames, BitVec.sub_eq_add_neg,
      BitVec.add_assoc, blend_resumeFlag, -List.reduceReplicate]
  · exact hdirection
  · change 4*(32#32).toNat ≤ 2^32
    decide

/-! The loop over the names. -/

theorem afterAll_clearNameListing (last : BitVec 32) : m.afterAll (clearNameListing last) =
    { m with
      regs := { m.regs with edx := m.regs.edx+64 }
      flags := blend (blend m.flags resumeFlag 0) arithmeticFlags (subFlags (m.regs.edx+64) last)
      eip := if (m.regs.edx+64).slt last then m.eip else m.eip+14
      mem := store m.mem m.regs.edx [0] } := by
  obtain ⟨⟨eax,ecx,edx,ebx,esp,ebp,esi,edi⟩,flags,eip,mem,fs,undefined⟩ := m
  have hzero : write 1 0#32 = [0] := by decide
  simp (disch := decide) [clearNameListing, hzero, holds_less, BitVec.add_assoc, blend_resumeFlag]

/-- While the table of names does not cross the middle of memory, the signed comparison counts. -/
theorem slt_last {names : BitVec 32} {i : ℕ} (hi : i ≤ 32) (hend : names.toNat+2048 < 2^32)
    (hsign : names.msb = (names+2048).msb) :
    (names+64*BitVec.ofNat 32 i).slt (names+2048) = decide (i < 32) := by
  have hplace : (names+64*BitVec.ofNat 32 i).toNat = names.toNat+64*i := by
    rw [BitVec.toNat_add, BitVec.toNat_mul, BitVec.toNat_ofNat]
    simp
    omega
  have hlast : (names+2048).toNat = names.toNat+2048 := by
    rw [BitVec.toNat_add]
    exact Nat.mod_eq_of_lt hend
  rw [BitVec.msb_eq_decide, BitVec.msb_eq_decide, hlast, decide_eq_decide] at hsign
  rw [BitVec.slt, decide_eq_decide, BitVec.toInt_eq_toNat_cond, BitVec.toInt_eq_toNat_cond, hplace, hlast]
  split <;> split <;> omega

/-- One name. -/
theorem reaches_nameCleared (hcode : CdStreamTablesLoaded s p c code) (i : ℕ) (flags : BitVec 32) :
    Reaches code (namesCleared s p m i flags)
      { namesCleared s p m (i+1)
          (subFlags (s.names p+64*BitVec.ofNat 32 (i+1)) (s.names p+2048)) with
        eip := if (s.names p+64*BitVec.ofNat 32 (i+1)).slt (s.names p+2048) then s.target p+32
          else s.target p+46 } := by
  have hbytes := hcode.body
  rw [(cdStreamTablesCode_eq hcode.emits).2, hasBytes_append, hasBytes_append, hasBytes_append] at hbytes
  have heip : (namesCleared s p m i flags).eip = s.target p+25+7 := by
    rw [add_assoc]
    rfl
  refine reaches_listing (straight_clearNameListing _) hbytes.2.2.1 heip ?_
  have hnext : s.names p+64*BitVec.ofNat 32 i+64 = s.names p+64*BitVec.ofNat 32 (i+1) := by
    rw [BitVec.ofNat_add, show BitVec.ofNat 32 1 = 1 from rfl]
    ring
  have hstore : store (clearNames (s.names p) i (store (setWord (tablesEntered s p m).mem
      (m.regs.esp-28) m.regs.edi) (s.handles p) (List.replicate 128 0)))
      (s.names p+64*BitVec.ofNat 32 i) [0] = (namesCleared s p m (i+1) flags).mem := by
    rw [namesCleared, clearNames, clearNames, List.range_succ, List.foldl_append]
    rfl
  rw [afterAll_clearNameListing]
  simp only [namesCleared, hnext, hstore]
  simp (disch := decide) [BitVec.add_assoc, blend_resumeFlag]

/-- All names, and out of the loop. -/
theorem reaches_namesCleared (hcode : CdStreamTablesLoaded s p c code)
    (hend : (s.names p).toNat+2048 < 2^32) (hsign : (s.names p).msb = (s.names p+2048).msb)
    (flags : BitVec 32) : Reaches code (namesCleared s p m 0 flags)
      { namesCleared s p m 32 (subFlags (s.names p+2048) (s.names p+2048)) with
        eip := s.target p+46 } := by
  have hloop (i : ℕ) (hi : i < 32) : ∃ flags', Reaches code (namesCleared s p m 0 flags)
      (namesCleared s p m i flags') := by
    induction i with
    | zero => exact ⟨flags,0,rfl⟩
    | succ i ih =>
      obtain ⟨flags',hreaches⟩ := ih (by omega)
      have hnext := reaches_nameCleared hcode i flags' (m := m)
      rw [slt_last (by omega) hend hsign, decide_eq_true hi] at hnext
      exact ⟨_,hreaches.trans hnext⟩
  obtain ⟨flags',hreaches⟩ := hloop 31 (by decide)
  have hlast := reaches_nameCleared hcode 31 flags' (m := m)
  rw [slt_last (by decide) hend hsign] at hlast
  exact hreaches.trans hlast

theorem reaches_diskArgumentsPushed (hcode : CdStreamTablesLoaded s p c code) :
    Reaches code { namesCleared s p m 32 (subFlags (s.names p+2048) (s.names p+2048)) with
        eip := s.target p+46 } (diskArgumentsPushed s p m) := by
  have hbytes := hcode.body
  rw [(cdStreamTablesCode_eq hcode.emits).2, hasBytes_append, hasBytes_append, hasBytes_append,
    hasBytes_append] at hbytes
  have heip : s.target p+46 = s.target p+25+7+14 := by ring
  refine reaches_listing straight_diskArgumentsListing hbytes.2.2.2.1 heip ?_
  rw [diskArgumentsPushed]
  generalize hcleared : namesCleared s p m 32 (subFlags (s.names p+2048) (s.names p+2048)) = cleared
  have hesp : cleared.regs.esp = m.regs.esp-28 := by rw [← hcleared, namesCleared]
  have hflags : blend cleared.flags resumeFlag 0 = cleared.flags := by
    rw [← hcleared, namesCleared]
    simp (disch := decide) [blend_resumeFlag]
  clear hcleared
  obtain ⟨⟨eax,ecx,edx,ebx,esp,ebp,esi,edi⟩,flags,eip,mem,fs,undefined⟩ := cleared
  simp only [BitVec.ofNat_eq_ofNat, BitVec.sub_eq_add_neg] at hesp hflags
  subst hesp
  simp [diskArgumentsListing, setWords, BitVec.sub_eq_add_neg, BitVec.add_assoc, hflags]

/-! What the checkpoint makes of the stops. -/

/-- The tables and four guard bytes on each side. -/
def tablesWindow (handles : Address) (m : Machine) : CdStreamTableWindow :=
  .ofFn fun i => m.mem (handles-4+BitVec.ofNat 32 i)

theorem get_tablesWindow (handles : Address) (m : Machine) (i : Fin 2192) :
    (tablesWindow handles m).get i = m.mem (handles-4+BitVec.ofNat 32 i) :=
  Vector.getElem_ofFn i.isLt

/-- The caller of the body. -/
structure CdStreamTablesCaller (s : CdStreamTablesSpec) (p : FileManagerEntrySpec) (m : Machine) :
    Prop where
  eip : m.eip = CdStreamTablesSpec.callerAddress p
  low : 65600#32 ≤ m.regs.esp
  aligned : m.regs.esp.toNat%4 = 0
  flags : m.flags &&& 0x500 = 0
  /-- The stack that is written is not in the window of the tables. -/
  disjoint : Apart (m.regs.esp-48) 48 (s.handles p-4) 2192

/-- The tables are in the image, so that they end below the end of memory. -/
theorem handles_lt (h : cdStreamTablesCode s p = some c) :
    (s.handles p).toNat+2192 < 2^32 ∧ s.names p = s.handles p+136 := by
  dsimp only [cdStreamTablesCode] at h
  split at h
  · contradiction
  rename_i hguard
  simp only [Bool.or_eq_true, not_or, decide_eq_true_eq, not_not] at hguard
  obtain ⟨⟨⟨⟨⟨⟨⟨hsize,hbase⟩,_⟩,_⟩,hhandles⟩,hnames⟩,_⟩,_⟩ := hguard
  have hb := p.manager.imageBase.isLt
  have hs := p.manager.imageSize.isLt
  constructor
  · rw [CdStreamTablesSpec.handles]
    bv_omega
  · rw [CdStreamTablesSpec.names, CdStreamTablesSpec.handles, hnames]
    ring

theorem clearNames_apply (names : Address) (n : ℕ) (m : Memory) (a : Address) :
    clearNames names n m a = if ∃ i < n, a = names+64*BitVec.ofNat 32 i then 0 else m a := by
  induction n with
  | zero => simp [clearNames]
  | succ n ih =>
    have hstep : clearNames names (n+1) m = store (clearNames names n m)
        (names+64*BitVec.ofNat 32 n) (List.replicate 1 0) := by
      rw [clearNames, List.range_succ, List.foldl_append]
      rfl
    have hself : (a-(names+64*BitVec.ofNat 32 n)).toNat < 1 ↔ a = names+64*BitVec.ofNat 32 n := by
      rw [Nat.lt_one_iff, ← sub_eq_zero (a := a), ← BitVec.toNat_inj]
      rfl
    rw [hstep, store_zeros, ih]
    simp only [hself]
    by_cases hn : a = names+64*BitVec.ofNat 32 n
    · rw [if_pos hn, if_pos ⟨n,Nat.lt_succ_self n,hn⟩]
    · rw [if_neg hn]
      refine if_congr ⟨?_,?_⟩ rfl rfl
      · intro h
        obtain ⟨i,hi,ha⟩ := h
        exact ⟨i,hi.trans (Nat.lt_succ_self n),ha⟩
      · intro h
        obtain ⟨i,hi,ha⟩ := h
        exact ⟨i,Nat.lt_of_le_of_ne (Nat.le_of_lt_succ hi) fun heq => hn (heq ▸ ha),ha⟩

/-- What is zeroed of the window. -/
theorem diskArgumentsPushed_apply (h : CdStreamTablesCaller s p m) (hnames : s.names p = s.handles p+136)
    {i : ℕ} (hi : i < 2192) : (diskArgumentsPushed s p m).mem (s.handles p-4+BitVec.ofNat 32 i) =
      if (4 ≤ i ∧ i < 132) ∨ (140 ≤ i ∧ i < 2188 ∧ (i-140)%64 = 0) then 0
      else m.mem (s.handles p-4+BitVec.ofNat 32 i) := by
  have hkept (mem : Memory) (ws : List (BitVec 32 × BitVec 32)) (hws : ∀ w ∈ ws, w.1.toNat+4 ≤ 48) :
      setWords mem (m.regs.esp-48) ws (s.handles p-4+BitVec.ofNat 32 i) =
        mem (s.handles p-4+BitVec.ofNat 32 i) := by
    have hload := load_setWords_of_apart (m := mem) fun w hw =>
      h.disjoint.left (by decide) (by decide) (hws w hw)
    have hget := congrArg (fun bs => bs[i]?) hload
    simp only [load, List.getElem?_map, List.getElem?_range hi, Option.map_some] at hget
    exact Option.some.inj hget
  have hpush : setWord (tablesEntered s p m).mem (m.regs.esp-28) m.regs.edi =
      setWords m.mem (m.regs.esp-48)
        [(44,5),(40,CdStreamTablesSpec.callerAddress p+7),(20,m.regs.edi)] := by
    rw [show m.regs.esp-28 = m.regs.esp-48+20 by ring]
    rfl
  have hhandle : (s.handles p-4+BitVec.ofNat 32 i-s.handles p).toNat < 128 ↔ 4 ≤ i ∧ i < 132 := by
    rw [show s.handles p-4+BitVec.ofNat 32 i-s.handles p = BitVec.ofNat 32 i-4 by ring,
      BitVec.toNat_sub, BitVec.toNat_ofNat]
    simp
    omega
  have hname (j : ℕ) (hj : j < 32) : s.handles p-4+BitVec.ofNat 32 i =
      s.handles p+136+64*BitVec.ofNat 32 j ↔ i = 140+64*j := by
    rw [show s.handles p-4+BitVec.ofNat 32 i = s.handles p+(BitVec.ofNat 32 i-4) by ring,
      add_assoc, add_right_inj, ← BitVec.toNat_inj, BitVec.toNat_sub, BitVec.toNat_add, BitVec.toNat_mul,
      BitVec.toNat_ofNat, BitVec.toNat_ofNat]
    simp
    omega
  rw [diskArgumentsPushed]
  simp only
  rw [hkept _ _ (by simp), namesCleared]
  simp only
  rw [clearNames_apply, store_zeros, hpush, hkept _ _ (by simp), hnames, ← ite_or]
  refine if_congr ?_ rfl rfl
  rw [hhandle]
  constructor
  · intro h
    obtain ⟨j,hj,hat⟩ | hat := h
    · rw [hname j hj] at hat
      omega
    · exact Or.inl hat
  · intro h
    obtain hat | hat := h
    · exact Or.inr hat
    · refine Or.inl ⟨(i-140)/64,by omega,(hname _ (by omega)).mpr (by omega)⟩

/-- The memory check accepts one window. -/
theorem cdStreamTablesMemory_iff (h : CdStreamTablesCaller s p m) (hnames : s.names p = s.handles p+136)
    (w : CdStreamTableWindow) : cdStreamTablesMemory (tablesWindow (s.handles p) m) w true ↔
      w = tablesWindow (s.handles p) (diskArgumentsPushed s p m) := by
  have hbyte (i : Fin 2192) : (tablesWindow (s.handles p) (diskArgumentsPushed s p m)).get i =
      if (4 ≤ i.val ∧ i.val < 132) ∨ (140 ≤ i.val ∧ i.val < 2188 ∧ (i.val-140)%64 = 0) then 0
      else (tablesWindow (s.handles p) m).get i := by
    rw [get_tablesWindow, get_tablesWindow]
    exact diskArgumentsPushed_apply h hnames i.isLt
  have hcheck : cdStreamTablesMemory (tablesWindow (s.handles p) m) w true ↔
      ∀ i : Fin 2192, w.get i = (tablesWindow (s.handles p) (diskArgumentsPushed s p m)).get i := by
    rw [cdStreamTablesMemory, List.all_eq_true]
    simp only [List.mem_finRange, true_implies, decide_eq_true_eq, Bool.true_and, Bool.or_eq_true,
      Bool.and_eq_true, hbyte, and_assoc]
  rw [hcheck]
  constructor
  · intro hall
    exact Vector.ext fun i hi => hall ⟨i,hi⟩
  · intro heq i
    rw [heq]

theorem cdStreamTablesFrame_iff (h : CdStreamTablesCaller s p m)
    (hhandles : (s.handles p).toNat+2192 < 2^32) (r : DispatchRegisters) :
    (cdStreamTablesFrame 1 (registers m) r (s.handles p) ↔
        AgreeBut resumeFlag r (registers (tablesEntered s p m))) ∧
      (cdStreamTablesFrame 2 (registers m) r (s.handles p) ↔
        AgreeBut (resumeFlag ||| 0x10) r (registers (diskArgumentsPushed s p m))) := by
  have hlow : 65600#32 ≤ (registers m).esp := h.low
  have haligned : (registers m).esp.toNat%4 = 0 := h.aligned
  have hflags : (registers m).flags &&& 1280#32 = 0#32 := h.flags
  have hhigh : s.handles p ≤ 4294967167#32 := by bv_omega
  constructor
  · have hiff := @flags_unchanged_iff r.flags (registers (tablesEntered s p m)).flags (registers m).flags
      0xfffeffff resumeFlag hflags (blend_and_of_disjoint (by decide)) (by decide) (by decide)
    rw [agreeBut_iff, ← hiff]
    simp [cdStreamTablesFrame, hlow, haligned, hflags, hhigh]
    simp only [registers, tablesEntered]
    clear hiff
    grind
  · have hequal : (registers (diskArgumentsPushed s p m)).flags =
        blend (blend m.flags resumeFlag 0) arithmeticFlags 0x44 := by
      rw [← subFlags_self (s.names p+2048)]
      rfl
    have hiff := @flags_iff r.flags (registers (diskArgumentsPushed s p m)).flags (registers m).flags
      0x8c5 0xfffef72a (resumeFlag ||| 0x10) 0x44 hflags
      (by rw [hequal, blend_and_of_within (by decide)]; decide)
      (by rw [hequal, blend_and_of_disjoint (by decide), blend_and_of_disjoint (by decide)]; rfl)
      (by decide) (by decide)
    rw [agreeBut_iff, ← hiff]
    simp [cdStreamTablesFrame, hlow, haligned, hflags, hhigh]
    simp only [registers, diskArgumentsPushed, namesCleared]
    clear hiff
    grind

/-- From the CALL on the execution comes to both stops, and the checkpoint describes them. -/
def CdStreamTablesDescribed (s : CdStreamTablesSpec) (p : FileManagerEntrySpec) (code : Memory)
    (m : Machine) : Prop :=
  ∃ m₁ m₂, Reaches code m m₁ ∧ Reaches code m₁ m₂ ∧ m₁.eip = s.target p ∧ m₂.eip = s.target p+68 ∧
    (∀ r, cdStreamTablesFrame 1 (registers m) r (s.handles p) ↔ AgreeBut resumeFlag r (registers m₁)) ∧
    (∀ r, cdStreamTablesFrame 2 (registers m) r (s.handles p) ↔
      AgreeBut (resumeFlag ||| 0x10) r (registers m₂)) ∧
    ∀ w, cdStreamTablesMemory (tablesWindow (s.handles p) m) w true ↔
      w = tablesWindow (s.handles p) m₂

theorem cd_stream_tables_describe_code (hcode : CdStreamTablesLoaded s p c code)
    (hsign : (s.names p).msb = (s.names p+2048).msb) (hcaller : CdStreamTablesCaller s p m) :
    CdStreamTablesDescribed s p code m := by
  obtain ⟨hhandles,hnames⟩ := handles_lt hcode.emits
  have hend : (s.names p).toNat+2048 < 2^32 := by
    rw [hnames]
    bv_omega
  obtain ⟨flags,hfill⟩ := reaches_namesCleared_zero hcode hcaller.flags
  have hbody := (hfill.trans (reaches_namesCleared hcode hend hsign flags)).trans
    (reaches_diskArgumentsPushed hcode)
  exact ⟨tablesEntered s p m,diskArgumentsPushed s p m,reaches_tablesEntered hcode hcaller.eip,hbody,rfl,rfl,
    fun r => (cdStreamTablesFrame_iff hcaller hhandles r).1,
    fun r => (cdStreamTablesFrame_iff hcaller hhandles r).2,cdStreamTablesMemory_iff hcaller hnames⟩

/-! The reviewed image, and a thread in it. -/

def reviewedCdStreamTablesSpec : CdStreamTablesSpec := ⟨27504,5128208,5128344,4554944⟩

def reviewedCdStreamTablesCode : CdStreamTablesCode where
  caller := writeDword 3 (27504-1293151-7) cdStreamTablesCallerRaw
  body := writeDword 70 0x8580c0 (writeDword 40 0x8e4898 (writeDword 17 0x8e4098
    (writeDword 12 0x8e4010 cdStreamTablesRaw)))

def reviewedCdStreamTablesMemory : Memory :=
  store (store (fun _ => 0) 0x53bb5f reviewedCdStreamTablesCode.caller.toList) 0x406b70
    reviewedCdStreamTablesCode.body.toList

def reviewedCdStreamTablesThread : Machine where
  regs := ⟨1,2,3,0,0x19ff40,0x19ff74,0,24⟩
  flags := 0x246
  eip := 0x53bb5f
  mem := fun _ => 7
  fs := 0x7ffde000
  undefined := fun _ => 0

theorem cdStreamTablesLoaded_reviewed : CdStreamTablesLoaded reviewedCdStreamTablesSpec
    reviewedFileManagerSpec reviewedCdStreamTablesCode reviewedCdStreamTablesMemory where
  emits := by
    rw [cdStreamTablesCode, if_neg (by decide)]
    exact if_pos (by decide)
  caller := (hasBytes_store (by decide)).store ⟨by decide,by decide⟩
  body := hasBytes_store (by decide)

theorem cd_stream_tables_describe_reviewed_code : CdStreamTablesDescribed reviewedCdStreamTablesSpec
    reviewedFileManagerSpec reviewedCdStreamTablesMemory reviewedCdStreamTablesThread :=
  cd_stream_tables_describe_code cdStreamTablesLoaded_reviewed (by decide)
    ⟨by decide,by decide,by decide,by decide,by decide⟩

end Saex
