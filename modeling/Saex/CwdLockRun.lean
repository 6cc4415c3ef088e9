import Saex.CwdLock
import Saex.CwdSehRun

/-! The code that the checkpoints pin, executed: the wrapper's CALL of the selector, the selector
up to its branch on the slot of the lock and, for a lock that is there, the rest of it around the
call of EnterCriticalSection. -/
namespace Saex
open LittleEndian WrappedMemory Ia32

/-- The wrapper's CALL of the selector. -/
def selectListing (f : FrameTargetSpec) : Listing :=
  [([0x6a,7],.push (.imm 7)),
   (f.call.toList,.call f.distance)]

def lockListing (table : BitVec 32) : Listing :=
  [([0x55],.push (.reg .ebp)),
   ([0x8b,0xec],.mov (.reg .ebp) (.reg .esp)),
   ([0x8b,0x45,0x08],.mov (.reg .eax) (.mem { base := some .ebp, displacement := 8 })),
   ([0x56],.push (.reg .esi)),
   ([0x8d,0x34,0xc5]++write 4 table,.lea .esi { index := some (.eax,3), displacement := dword table }),
   ([0x83,0x3e,0],.alu .cmp (.mem { base := some .esi }) (.imm 0))]

/-- Over the code for an empty slot. -/
def skipListing : Listing := [([0x75,0x13],.jcc .zero false 0x13)]

def pushLockListing : Listing := [([0xff,0x36],.push (.mem { base := some .esi }))]

def enterListing (iat : BitVec 32) : Listing :=
  [([0xff,0x15]++write 4 iat,.callTo (.mem { displacement := dword iat }))]

def leaveListing : Listing :=
  [([0x5e],.pop .esi),
   ([0x5d],.pop .ebp),
   ([0xc3],.ret)]

theorem straight_lockListing (table : BitVec 32) : Straight (lockListing table) := by
  repeat refine straight_cons ⟨by simp,fun _ => rfl⟩ trivial ?_
  exact straight_singleton ⟨by simp,fun _ => rfl⟩

theorem straight_selectListing {f : FrameTargetSpec} (h : validFrameTargetSpec f) :
    Straight (selectListing f) :=
  ⟨⟨⟨by simp,fun _ => rfl⟩,trivial⟩,FrameTargetSpec.encodes_call h⟩

theorem straight_skipListing : Straight skipListing :=
  straight_singleton ⟨by simp,fun _ => rfl⟩

theorem straight_pushLockListing : Straight pushLockListing :=
  straight_singleton ⟨by simp,fun _ => rfl⟩

theorem straight_enterListing (iat : BitVec 32) : Straight (enterListing iat) :=
  straight_singleton ⟨by simp,fun _ => rfl⟩

theorem straight_leaveListing : Straight leaveListing := by
  repeat refine straight_cons ⟨by simp,fun _ => rfl⟩ trivial ?_
  exact straight_singleton ⟨by simp,fun _ => rfl⟩

variable {s : CwdLockSpec} {p : CwdSehSpec} {a : CwdAcquireSpec} {lock : Vector UInt8 17}
  {acquire : Vector UInt8 11} {code : Memory} {m : Machine}

/-! What the bytes of the checkpoints stand for. -/

theorem cwdLockCode_eq (h : cwdLockCode s = some lock) :
    lock.toList = encoding (lockListing (s.selector.imageBase+s.tableRva)) := by
  dsimp only [cwdLockCode] at h
  split at h
  · contradiction
  rw [← Option.some.inj h, toList_writeDword (by decide)]
  rfl

theorem cwdAcquireCode_eq (h : cwdAcquireCode a s = some acquire) :
    acquire.toList = encoding pushLockListing++(encoding (enterListing (s.selector.imageBase+a.iatRva))++
      encoding leaveListing) := by
  dsimp only [cwdAcquireCode] at h
  split at h
  · contradiction
  rw [← Option.some.inj h, toList_writeDword (by decide)]
  rfl

theorem toList_take_two {A : Type} {n : ℕ} (v : Vector A (n+2)) : v.toList.take 2 = [v[0],v[1]] := by
  refine List.ext_getElem (by simp) fun i h1 h2 => ?_
  rw [List.length_cons, List.length_cons, List.length_nil] at h2
  interval_cases i <;> simp

theorem stopPrefix_eq (h : validCwdLockSpec s p) :
    p.stopPrefix.toList = encoding (selectListing s.selector)++p.stopPrefix.toList.drop 7 := by
  unfold validCwdLockSpec at h
  split at h
  · simp only [Bool.and_eq_true, Bool.not_eq_true', Bool.or_eq_false_iff,
      decide_eq_false_iff_not, not_not] at h
    obtain ⟨⟨⟨⟨⟨⟨⟨_,hfirst⟩,hsecond⟩,hcall⟩,_⟩,_⟩,_⟩,_⟩ := h
    have htwo := toList_take_two p.stopPrefix
    rw [hfirst, hsecond] at htwo
    have hsplit : p.stopPrefix.toList = p.stopPrefix.toList.take 2++
        ((p.stopPrefix.toList.drop 2).take 5++p.stopPrefix.toList.drop 7) := by
      rw [show 7 = 2+5 from rfl, ← List.drop_drop, List.take_append_drop, List.take_append_drop]
    rw [hsplit, htwo, ← hcall]
    simp [selectListing]
  · contradiction

/-! The machine at the stops. All stores count from the lower end of the stack window, 32 bytes
below the stack pointer behind the prologue. -/

namespace CwdLockSpec

/-- The slot of the lock, and the instruction behind the comparison with it. -/
def slotAddress (s : CwdLockSpec) : Address := s.selector.imageBase+s.tableRva+56
def branchAddress (s : CwdLockSpec) : Address := s.selector.targetAddress+17

end CwdLockSpec

def CwdAcquireSpec.iatAddress (a : CwdAcquireSpec) (s : CwdLockSpec) : Address :=
  s.selector.imageBase+a.iatRva

def selectorEntered (s : CwdLockSpec) (m : Machine) : Machine :=
  { m with
    regs := { m.regs with esp := m.regs.esp-8 }
    flags := blend m.flags resumeFlag 0
    eip := s.selector.targetAddress
    mem := setWords m.mem (m.regs.esp-32) [(28,7),(24,s.selector.returnAddress)] }

def slotCompared (s : CwdLockSpec) (m : Machine) : Machine :=
  { m with
    regs := { m.regs with
      eax := 7, esp := m.regs.esp-16, ebp := m.regs.esp-12, esi := s.slotAddress }
    flags := blend (blend m.flags resumeFlag 0) arithmeticFlags (resultFlags (word m.mem s.slotAddress))
    eip := s.branchAddress
    mem := setWords m.mem (m.regs.esp-32)
      [(28,7),(24,s.selector.returnAddress),(20,m.regs.ebp),(16,m.regs.esi)] }

def slotBranched (s : CwdLockSpec) (m : Machine) : Machine :=
  { slotCompared s m with
    eip := if word m.mem s.slotAddress = 0 then s.selector.targetAddress+19
      else s.selector.targetAddress+38 }

def lockPushed (s : CwdLockSpec) (m : Machine) : Machine :=
  { slotCompared s m with
    regs := { (slotCompared s m).regs with esp := m.regs.esp-20 }
    eip := s.selector.targetAddress+40
    mem := setWord (slotCompared s m).mem (m.regs.esp-32+12) (word m.mem s.slotAddress) }

def enterEntered (a : CwdAcquireSpec) (s : CwdLockSpec) (m : Machine) : Machine :=
  { lockPushed s m with
    regs := { (lockPushed s m).regs with esp := m.regs.esp-24 }
    eip := word m.mem (a.iatAddress s)
    mem := setWord (lockPushed s m).mem (m.regs.esp-32+8) (s.selector.targetAddress+46) }

/-- The code in memory: the wrapper behind its prologue, the selector up to the branch and from
where that goes on. -/
structure CwdLockLoaded (s : CwdLockSpec) (p : CwdSehSpec) (a : CwdAcquireSpec)
    (lock : Vector UInt8 17) (acquire : Vector UInt8 11) (code : Memory) : Prop where
  emitsLock : cwdLockCode s = some lock
  emitsAcquire : cwdAcquireCode a s = some acquire
  wrapper : HasBytes code (s.selector.callAddress-2) p.stopPrefix.toList
  selector : HasBytes code s.selector.targetAddress (lock.toList++s.stopPrefix.toList)
  tail : HasBytes code (s.selector.targetAddress+38) acquire.toList

/-- The wrapper behind its prologue. -/
structure CwdLockCaller (s : CwdLockSpec) (a : CwdAcquireSpec) (m : Machine) : Prop where
  eip : m.eip = s.selector.callAddress-2
  origin : validCwdLockOrigin (registers m) (tibWords m)
  /-- Neither the slot nor the import is in the stack that is written. -/
  slot : Apart (m.regs.esp-32) 32 s.slotAddress 4
  iat : Apart (m.regs.esp-32) 32 (a.iatAddress s) 4

theorem validFrameTargetSpec_of_cwdLockCode (h : cwdLockCode s = some lock) :
    validFrameTargetSpec s.selector := by
  dsimp only [cwdLockCode] at h
  split at h
  · contradiction
  rename_i hguard
  simp only [Bool.or_eq_true, not_or, Bool.not_eq_true', Bool.not_eq_false] at hguard
  exact hguard.1.1.1.1

theorem reaches_selectorEntered (hspec : validCwdLockSpec s p)
    (hcode : CwdLockLoaded s p a lock acquire code) (hcaller : CwdLockCaller s a m) :
    Reaches code m (selectorEntered s m) := by
  have hvalid := validFrameTargetSpec_of_cwdLockCode hcode.emitsLock
  have hbytes := hcode.wrapper
  rw [stopPrefix_eq hspec, hasBytes_append] at hbytes
  refine reaches_listing (straight_selectListing hvalid) hbytes.1 hcaller.eip ?_
  have hreturn : m.eip+7 = s.selector.returnAddress := by
    rw [hcaller.eip, FrameTargetSpec.callAddress, FrameTargetSpec.returnAddress]
    ring
  have htarget := FrameTargetSpec.returnAddress_distance hvalid
  rw [← hreturn] at htarget
  obtain ⟨⟨eax,ecx,edx,ebx,esp,ebp,esi,edi⟩,flags,eip,mem,fs,undefined⟩ := m
  obtain ⟨b,rfl⟩ : ∃ b, esp = b+32 := ⟨esp-32,by ring⟩
  simp only [BitVec.ofNat_eq_ofNat] at htarget hreturn
  simp [selectListing, selectorEntered, setWords, BitVec.sub_eq_add_neg, BitVec.add_assoc,
    ← htarget, ← hreturn]

theorem reaches_slotCompared (hcode : CwdLockLoaded s p a lock acquire code)
    (hcaller : CwdLockCaller s a m) : Reaches code (selectorEntered s m) (slotCompared s m) := by
  have hbytes := hcode.selector
  rw [cwdLockCode_eq hcode.emitsLock, hasBytes_append] at hbytes
  refine reaches_listing (straight_lockListing _) hbytes.1 rfl ?_
  have hslot (d : BitVec 32) (hd : d.toNat+4 ≤ 32) : Apart (m.regs.esp-32+d) 4 s.slotAddress 4 :=
    hcaller.slot.left (by decide) (by decide) hd
  have haddress : 56+(s.selector.imageBase+s.tableRva) = s.slotAddress := by
    rw [CwdLockSpec.slotAddress]
    ring
  obtain ⟨⟨eax,ecx,edx,ebx,esp,ebp,esi,edi⟩,flags,eip,mem,fs,undefined⟩ := m
  obtain ⟨b,rfl⟩ : ∃ b, esp = b+32 := ⟨esp-32,by ring⟩
  simp only [BitVec.ofNat_eq_ofNat, BitVec.add_sub_cancel] at hslot haddress
  simp (disch := first | decide | (apply hslot; decide)) [lockListing, selectorEntered, slotCompared,
    CwdLockSpec.branchAddress, setWords, BitVec.sub_eq_add_neg, BitVec.add_assoc, haddress,
    word_setWord_add, word_setWord_of_apart, blend_resumeFlag]

theorem stopPrefix_jump (h : validCwdLockSpec s p) :
    s.stopPrefix.toList = encoding skipListing++s.stopPrefix.toList.drop 2 := by
  unfold validCwdLockSpec at h
  split at h
  · simp only [Bool.and_eq_true, Bool.not_eq_true', Bool.or_eq_false_iff,
      decide_eq_false_iff_not, not_not] at h
    obtain ⟨⟨⟨_,hfirst⟩,hsecond⟩,_⟩ := h
    have htwo := toList_take_two s.stopPrefix
    rw [hfirst, hsecond] at htwo
    rw [← List.take_append_drop 2 s.stopPrefix.toList, htwo]
    rfl
  · contradiction

/-- The branch is taken when there is something in the slot. -/
theorem step_slotCompared (hspec : validCwdLockSpec s p)
    (hcode : CwdLockLoaded s p a lock acquire code) :
    step code (slotCompared s m) = some (slotBranched s m) := by
  have hbytes := hcode.selector
  rw [hasBytes_append, stopPrefix_jump hspec, hasBytes_append] at hbytes
  obtain ⟨_,hjump,_⟩ := hbytes
  rw [Vector.length_toList] at hjump
  have hzero : Condition.zero.holds (slotCompared s m).flags = decide (word m.mem s.slotAddress = 0) := by
    rw [Condition.holds, slotCompared, getLsbD_blend, getLsbD_resultFlags]
    simp [arithmeticFlags]
  have hflags : blend (slotCompared s m).flags resumeFlag 0 = (slotCompared s m).flags := by
    simp (disch := decide) [slotCompared, blend_resumeFlag]
  have heip : (slotCompared s m).eip = s.selector.targetAddress+17 := rfl
  have hbranch : HasBytes code (slotCompared s m).eip [0x75,0x13] := by rwa [heip]
  rw [step_of_encodes (i := .jcc .zero false 0x13) straight_skipListing hbranch]
  by_cases hslot : word m.mem s.slotAddress = 0
  · simp only [Machine.after, Machine.execute, hzero, hflags, hslot, slotBranched, heip]
    simp [BitVec.add_assoc]
  · simp only [Machine.after, Machine.execute, hzero, hflags, hslot, slotBranched, heip]
    simp [BitVec.add_assoc]

section Acquired
variable (hslot : word m.mem s.slotAddress ≠ 0)
include hslot

theorem reaches_lockPushed (hcode : CwdLockLoaded s p a lock acquire code)
    (hcaller : CwdLockCaller s a m) : Reaches code (slotBranched s m) (lockPushed s m) := by
  have hbytes := hcode.tail
  rw [cwdAcquireCode_eq hcode.emitsAcquire, hasBytes_append] at hbytes
  have heip : (slotBranched s m).eip = s.selector.targetAddress+38 := if_neg hslot
  refine reaches_listing straight_pushLockListing hbytes.1 heip ?_
  have hkept (d : BitVec 32) (hd : d.toNat+4 ≤ 32) : Apart (m.regs.esp-32+d) 4 s.slotAddress 4 :=
    hcaller.slot.left (by decide) (by decide) hd
  obtain ⟨⟨eax,ecx,edx,ebx,esp,ebp,esi,edi⟩,flags,eip,mem,fs,undefined⟩ := m
  obtain ⟨b,rfl⟩ : ∃ b, esp = b+32 := ⟨esp-32,by ring⟩
  simp only [BitVec.ofNat_eq_ofNat, BitVec.add_sub_cancel] at hkept
  simp only [BitVec.ofNat_eq_ofNat] at hslot
  simp (disch := first | decide | (apply hkept; decide)) [pushLockListing, slotBranched, slotCompared,
    lockPushed, hslot, setWords, BitVec.sub_eq_add_neg, BitVec.add_assoc, word_setWord_of_apart,
    blend_resumeFlag]

theorem reaches_enterEntered (hcode : CwdLockLoaded s p a lock acquire code)
    (hcaller : CwdLockCaller s a m) : Reaches code (lockPushed s m) (enterEntered a s m) := by
  have hbytes := hcode.tail
  rw [cwdAcquireCode_eq hcode.emitsAcquire, hasBytes_append, hasBytes_append] at hbytes
  have heip : (lockPushed s m).eip = s.selector.targetAddress+38+2 := by
    rw [add_assoc]
    rfl
  refine reaches_listing (straight_enterListing _) hbytes.2.1 heip ?_
  have hkept (d : BitVec 32) (hd : d.toNat+4 ≤ 32) : Apart (m.regs.esp-32+d) 4 (a.iatAddress s) 4 :=
    hcaller.iat.left (by decide) (by decide) hd
  have haddress : s.selector.imageBase+a.iatRva = a.iatAddress s := rfl
  obtain ⟨⟨eax,ecx,edx,ebx,esp,ebp,esi,edi⟩,flags,eip,mem,fs,undefined⟩ := m
  obtain ⟨b,rfl⟩ : ∃ b, esp = b+32 := ⟨esp-32,by ring⟩
  simp only [BitVec.ofNat_eq_ofNat, BitVec.add_sub_cancel] at hkept
  simp (disch := first | decide | (apply hkept; decide)) [enterListing, enterEntered, slotCompared,
    lockPushed, setWords, BitVec.sub_eq_add_neg, BitVec.add_assoc, haddress, word_setWord_of_apart,
    blend_resumeFlag]

end Acquired

/-! What the checkpoints make of the stops. -/

/-- The stack around the stack pointer behind the prologue. -/
def lockWindow (esp : Address) (m : Machine) : LockWindow := words m.mem (esp-32) 25

/-- At a stage the checkpoint accepts exactly what it finds of `now`, but for the resume flag. -/
structure CwdLockDescribes (s : CwdLockSpec) (stage : ℕ) (m now : Machine) : Prop where
  frame : ∀ r, cwdLockFrame s stage (registers m) r (word m.mem s.slotAddress) ↔
    AgreeBut resumeFlag r (registers now)
  memory : ∀ stack, cwdLockMemory s stage (registers m) (lockWindow m.regs.esp m) stack ↔
    stack = lockWindow m.regs.esp now

/-- What the checks of the registers start from. -/
structure LockOrigin (saved : DispatchRegisters) : Prop where
  low : 65568#32 ≤ saved.esp
  high : saved.esp ≤ 4294967227#32
  aligned : saved.esp.toNat%4 = 0
  eax : saved.eax = saved.esp+24#32
  ebp : saved.ebp = saved.esp+40#32
  ebx : saved.ebx = 0#32
  esi : saved.esi = 0#32
  edi : saved.edi = 24#32
  flags : saved.flags &&& 1280#32 = 0#32

theorem lockOrigin_of_valid {saved : DispatchRegisters} {tib : TibWords}
    (h : validCwdLockOrigin saved tib) : LockOrigin saved := by
  simp [validCwdLockOrigin] at h
  obtain ⟨⟨⟨⟨⟨⟨⟨⟨⟨⟨⟨⟨⟨⟨hlow,hhigh⟩,haligned⟩,heax⟩,hebp⟩,hebx⟩,hesi⟩,hedi⟩,hflags⟩,_⟩,_⟩,_⟩,_⟩,_⟩,_⟩ := h
  exact ⟨hlow,hhigh,haligned,heax,hebp,hebx,hesi,hedi,hflags⟩

theorem describes_selectorEntered (hemits : cwdLockCode s = some lock) (h : LockOrigin (registers m)) :
    CwdLockDescribes s 1 m (selectorEntered s m) := by
  constructor
  · intro r
    have hflags := @flags_unchanged_iff r.flags (registers (selectorEntered s m)).flags
      (registers m).flags 0xfffeffff resumeFlag h.flags (blend_and_of_disjoint (by decide))
      (by decide) (by decide)
    rw [agreeBut_iff, ← hflags]
    simp [cwdLockFrame, hemits, h.low, h.high, h.aligned, h.eax, h.ebp, h.ebx, h.esi, h.edi, h.flags]
    obtain ⟨_,_,_,heax,hebp,hebx,hesi,hedi,_⟩ := h
    dsimp only [registers, selectorEntered] at *
    grind
  · intro stack
    simp [cwdLockMemory, hemits, h.low, h.high, h.aligned]
    simp (disch := decide) [lockWindow, selectorEntered, setWords, words_setWord]
    exact eq_comm

theorem describes_slotCompared (hemits : cwdLockCode s = some lock) (h : LockOrigin (registers m)) :
    CwdLockDescribes s 2 m (slotCompared s m) := by
  constructor
  · intro r
    have hflags := @flags_iff r.flags (registers (slotCompared s m)).flags (registers m).flags
      0x8d5 0xfffef72a resumeFlag (resultFlags (word m.mem s.slotAddress)) h.flags ?_ ?_
      (by decide) (by decide)
    · dsimp only [cwdLockFrame]
      rw [agreeBut_iff, ← hflags, resultFlags_eq_popcount]
      simp [hemits, h.low, h.high, h.aligned, h.eax, h.ebp, h.ebx, h.esi, h.edi, h.flags]
      obtain ⟨_,_,_,heax,hebp,hebx,hesi,hedi,_⟩ := h
      dsimp only [registers, slotCompared, CwdLockSpec.slotAddress] at *
      clear hflags
      grind
    · exact (blend_and_of_within (by decide)).trans (resultFlags_arithmetic _)
    · simp (disch := decide) [registers, slotCompared, blend_and_of_disjoint]
  · intro stack
    simp [cwdLockMemory, hemits, h.low, h.high, h.aligned]
    simp (disch := decide) [registers, lockWindow, slotCompared, setWords, words_setWord]
    exact eq_comm

/-- What the checks of the registers behind the branch start from. -/
structure AcquireOrigin (saved : DispatchRegisters) : Prop where
  low : 65544#32 ≤ saved.esp
  high : saved.esp ≤ 4294967211#32
  aligned : saved.esp.toNat%4 = 0
  eax : saved.eax = 7#32
  ebx : saved.ebx = 0#32
  edi : saved.edi = 24#32
  ebp : saved.ebp = saved.esp+4#32
  flags : saved.flags &&& 1344#32 = 0#32

theorem acquireOrigin_slotCompared (h : LockOrigin (registers m))
    (hslot : word m.mem s.slotAddress ≠ 0) : AcquireOrigin (registers (slotCompared s m)) := by
  have hlow := h.low
  have hhigh := h.high
  have haligned := h.aligned
  dsimp only [registers] at hlow hhigh haligned
  have hkept : (slotCompared s m).flags &&& 0x500 = 0 := by
    simp (disch := decide) only [slotCompared, blend_and_of_disjoint]
    exact h.flags
  have hzero : (slotCompared s m).flags &&& 0x40 = 0 := by
    simp (disch := decide) only [slotCompared, blend_and_of_within]
    rw [show (0x40 : BitVec 32) = BitVec.twoPow 32 6 from rfl, and_twoPow_eq_flag, getLsbD_resultFlags]
    simpa [flag] using hslot
  refine ⟨?_,?_,?_,rfl,h.ebx,h.edi,?_,?_⟩
  · simp only [registers, slotCompared]
    bv_omega
  · simp only [registers, slotCompared]
    bv_omega
  · simp only [registers, slotCompared]
    bv_omega
  · simp only [registers, slotCompared]
    bv_omega
  · have hsplit : (slotCompared s m).flags &&& 0x540 =
        (slotCompared s m).flags &&& 0x500 ||| (slotCompared s m).flags &&& 0x40 := by
      rw [BitVec.and_comm, BitVec.and_comm _ 0x500, BitVec.and_comm _ 0x40, ← or_and]
      rfl
    rw [hkept, hzero] at hsplit
    exact hsplit

/-- Up to the entry of EnterCriticalSection only the stack pointer moves. -/
theorem cwdAcquireFrame_iff {stage : ℕ} {saved r now : DispatchRegisters} {ebp : BitVec 32}
    (h : AcquireOrigin saved) (hstage : 1 ≤ stage ∧ stage ≤ 3)
    (hnow : now = { saved with esp := saved.esp-4*BitVec.ofNat 32 (stage-1), flags := now.flags })
    (hflags : now.flags &&& ~~~resumeFlag = saved.flags &&& ~~~resumeFlag) :
    cwdAcquireFrame stage saved r ebp ↔ AgreeBut resumeFlag r now := by
  have htrap : saved.flags &&& 0x500 = 0 :=
    and_eq_of_agree (y := 0) (h.flags.trans (by decide)) (by decide)
  have hiff := @flags_unchanged_iff r.flags now.flags saved.flags 0xfffeffff resumeFlag htrap hflags
    (by decide) (by decide)
  rw [agreeBut_iff, ← hiff]
  obtain ⟨hlow,hhigh,haligned,heax,hebx,hedi,hebp,hzero⟩ := h
  obtain ⟨esp,eax,ebx,ecx,edx,esi,edi,ebp',flags⟩ := now
  rw [DispatchRegisters.mk.injEq] at hnow
  obtain ⟨h1,h2⟩ := hstage
  interval_cases stage <;> simp [cwdAcquireFrame, hlow, hhigh, haligned, heax, hebx, hedi, hebp, hzero]
  all_goals
    clear hiff hflags
    grind

/-! Behind EnterCriticalSection. -/

/-- What the selector finds on the stack when the function is back. -/
theorem stack_of_returned {m' : Machine}
    (h : Returned 4 (~~~arithmeticFlags) [((enterEntered a s m).regs.esp+4,20)] (enterEntered a s m) m') :
    word m'.mem (m.regs.esp-16) = m.regs.esi ∧ word m'.mem (m.regs.esp-12) = m.regs.ebp ∧
      word m'.mem (m.regs.esp-8) = s.selector.returnAddress ∧ word m'.mem (m.regs.esp-4) = 7 := by
  have hkept : load m'.mem ((enterEntered a s m).regs.esp+4) 20 =
      load (enterEntered a s m).mem ((enterEntered a s m).regs.esp+4) 20 :=
    h.memory _ (List.mem_singleton.mpr rfl)
  have h16 := word_of_load (d := 4) hkept (by decide)
  have h12 := word_of_load (d := 8) hkept (by decide)
  have h8 := word_of_load (d := 12) hkept (by decide)
  have h4 := word_of_load (d := 16) hkept (by decide)
  clear hkept h
  obtain ⟨⟨eax,ecx,edx,ebx,esp,ebp,esi,edi⟩,flags,eip,mem,fs,undefined⟩ := m
  obtain ⟨b,rfl⟩ : ∃ b, esp = b+32 := ⟨esp-32,by ring⟩
  simp (disch := decide) [enterEntered, lockPushed, slotCompared, setWords, BitVec.sub_eq_add_neg,
    BitVec.add_assoc, word_setWord_add] at h16 h12 h8 h4 ⊢
  exact ⟨h16,h12,h8,h4⟩

/-- The selector, back in the wrapper. -/
def selectorReturned (s : CwdLockSpec) (m m' : Machine) : Machine :=
  { m' with
    regs := { m'.regs with esp := m.regs.esp-4, ebp := m.regs.ebp, esi := m.regs.esi }
    flags := blend m'.flags resumeFlag 0
    eip := s.selector.returnAddress }

theorem reaches_selectorReturned {m' : Machine} (hcode : CwdLockLoaded s p a lock acquire code)
    (h : Returned 4 (~~~arithmeticFlags) [((enterEntered a s m).regs.esp+4,20)] (enterEntered a s m) m') :
    m'.eip = s.selector.targetAddress+46 ∧ Reaches code m' (selectorReturned s m m') := by
  have hbytes := hcode.tail
  rw [cwdAcquireCode_eq hcode.emitsAcquire, hasBytes_append, hasBytes_append] at hbytes
  have heip : m'.eip = s.selector.targetAddress+46 := by
    have htop : (enterEntered a s m).regs.esp = m.regs.esp-32+8 := by
      rw [show m.regs.esp-32+8 = m.regs.esp-24 by ring]
      rfl
    rw [h.eip, htop]
    exact word_setWord_self _ _ _
  refine ⟨heip,reaches_listing straight_leaveListing hbytes.2.2 ?_ ?_⟩
  · rw [heip, add_assoc, add_assoc]
    rfl
  · obtain ⟨hesi,hebp,hreturn,_⟩ := stack_of_returned h
    have hesp : m'.regs.esp = m.regs.esp-16 := by
      rw [h.esp, enterEntered]
      ring
    obtain ⟨⟨eax,ecx,edx,ebx,esp,ebp,esi,edi⟩,flags,eip,mem,fs,undefined⟩ := m'
    dsimp only at hesp
    subst hesp
    simp only [BitVec.ofNat_eq_ofNat, BitVec.sub_eq_add_neg] at hesi hebp hreturn
    simp [leaveListing, selectorReturned, BitVec.sub_eq_add_neg, BitVec.add_assoc] at hesi hebp hreturn ⊢
    simp [hesi, hebp, hreturn]

/-- Behind the function the frame is the selector's, and at the end the wrapper's. -/
theorem cwdAcquireFrame_kept_iff {stage : ℕ} {saved r now : DispatchRegisters} {ebp : BitVec 32}
    (h : AcquireOrigin saved) (hstage : 4 ≤ stage ∧ stage ≤ 5)
    (hesp : now.esp = if stage = 5 then saved.esp+12 else saved.esp)
    (hesi : now.esi = if stage = 5 then 0 else saved.esi)
    (hebp : now.ebp = if stage = 5 then ebp else saved.ebp)
    (hkept : now.ebx = saved.ebx ∧ now.edi = saved.edi)
    (hflags : now.flags &&& 0xfffef72a = saved.flags &&& 0xfffef72a) :
    cwdAcquireFrame stage saved r ebp ↔ AgreeKept r now := by
  have htrap : saved.flags &&& 0x500 = 0 :=
    and_eq_of_agree (y := 0) (h.flags.trans (by decide)) (by decide)
  have hiff := @flags_unchanged_iff r.flags now.flags saved.flags 0xfffef72a
    (arithmeticFlags ||| resumeFlag) htrap hflags (by decide) (by decide)
  rw [AgreeKept, ← hiff]
  obtain ⟨hlow,hhigh,haligned,heax,hebx,hedi,hebp',hzero⟩ := h
  obtain ⟨h1,h2⟩ := hstage
  interval_cases stage <;> simp [cwdAcquireFrame, hlow, hhigh, haligned, heax, hebx, hedi, hebp', hzero]
  all_goals
    clear hiff hflags
    grind

theorem cwdAcquireFrame_returned {m' : Machine} {r : DispatchRegisters}
    (horigin : LockOrigin (registers m)) (hslot : word m.mem s.slotAddress ≠ 0)
    (h : Returned 4 (~~~arithmeticFlags) [((enterEntered a s m).regs.esp+4,20)] (enterEntered a s m) m') :
    (cwdAcquireFrame 4 (registers (slotCompared s m)) r m.regs.ebp ↔ AgreeKept r (registers m')) ∧
      (cwdAcquireFrame 5 (registers (slotCompared s m)) r m.regs.ebp ↔
        AgreeKept r (registers (selectorReturned s m m'))) := by
  have hacquire := acquireOrigin_slotCompared horigin hslot
  have hrest : m'.flags &&& 0xfffef72a = (slotCompared s m).flags &&& 0xfffef72a :=
    and_eq_of_agree h.flags (by decide)
  have hesp : m'.regs.esp = (slotCompared s m).regs.esp := by
    rw [h.esp, enterEntered, slotCompared]
    ring
  have hesp' : m.regs.esp-4 = (slotCompared s m).regs.esp+12 := by
    rw [slotCompared]
    ring
  constructor
  · exact cwdAcquireFrame_kept_iff hacquire (by decide) hesp h.esi h.ebp ⟨h.ebx,h.edi⟩ hrest
  · exact cwdAcquireFrame_kept_iff hacquire (by decide) hesp' horigin.esi rfl ⟨h.ebx,h.edi⟩
      ((blend_and_of_disjoint (by decide)).trans hrest)

/-- The execution from behind the prologue on: it comes to the stops of both checkpoints, and these
describe it. An empty slot goes another way. -/
def CwdLockDescribed (s : CwdLockSpec) (a : CwdAcquireSpec) (code : Memory) (m : Machine) : Prop :=
  ∃ m₁ m₂ m₃, Reaches code m m₁ ∧ Reaches code m₁ m₂ ∧ step code m₂ = some m₃ ∧
    m₁.eip = s.selector.targetAddress ∧ CwdLockDescribes s 1 m m₁ ∧
    m₂.eip = s.selector.targetAddress+17 ∧ CwdLockDescribes s 2 m m₂ ∧
    (word m.mem s.slotAddress = 0 → m₃.eip = s.selector.targetAddress+19) ∧
    (word m.mem s.slotAddress ≠ 0 → m₃.eip = s.selector.targetAddress+38 ∧
      ∃ m₄ m₅, Reaches code m₃ m₄ ∧ Reaches code m₄ m₅ ∧
        m₄.eip = s.selector.targetAddress+40 ∧ m₅.eip = word m.mem (a.iatAddress s) ∧
        (∀ r, cwdAcquireFrame 1 (registers m₂) r m.regs.ebp ↔ AgreeBut resumeFlag r (registers m₃)) ∧
        (∀ r, cwdAcquireFrame 2 (registers m₂) r m.regs.ebp ↔ AgreeBut resumeFlag r (registers m₄)) ∧
        (∀ r, cwdAcquireFrame 3 (registers m₂) r m.regs.ebp ↔ AgreeBut resumeFlag r (registers m₅)) ∧
        -- What EnterCriticalSection is given, and what it comes back to.
        word m₅.mem (m₅.regs.esp+4) = word m.mem s.slotAddress ∧
        ∀ m₆, Returned 4 (~~~arithmeticFlags) [(m₅.regs.esp+4,20)] m₅ m₆ →
          m₆.eip = s.selector.targetAddress+46 ∧
          (∀ r, cwdAcquireFrame 4 (registers m₂) r m.regs.ebp ↔ AgreeKept r (registers m₆)) ∧
          ∃ m₇, Reaches code m₆ m₇ ∧ m₇.eip = s.selector.returnAddress ∧
            (∀ r, cwdAcquireFrame 5 (registers m₂) r m.regs.ebp ↔ AgreeKept r (registers m₇)) ∧
            m₇.regs.esi = 0 ∧ m₇.regs.ebp = m.regs.ebp ∧ m₇.regs.esp = m.regs.esp-4 ∧
            word m₇.mem m₇.regs.esp = 7)

theorem cwd_lock_describes_code (hspec : validCwdLockSpec s p)
    (hcode : CwdLockLoaded s p a lock acquire code) (hcaller : CwdLockCaller s a m) :
    CwdLockDescribed s a code m := by
  have horigin := lockOrigin_of_valid hcaller.origin
  have hstep := step_slotCompared hspec hcode (m := m)
  refine ⟨selectorEntered s m,slotCompared s m,slotBranched s m,reaches_selectorEntered hspec hcode hcaller,
    reaches_slotCompared hcode hcaller,hstep,rfl,describes_selectorEntered hcode.emitsLock horigin,rfl,
    describes_slotCompared hcode.emitsLock horigin,fun hslot => if_pos hslot,fun hslot => ?_⟩
  have hacquire := acquireOrigin_slotCompared horigin hslot
  refine ⟨if_neg hslot,lockPushed s m,enterEntered a s m,reaches_lockPushed hslot hcode hcaller,
    reaches_enterEntered hslot hcode hcaller,rfl,rfl,?_,?_,?_,?_,?_⟩
  · intro r
    exact cwdAcquireFrame_iff hacquire (by decide) (by simp [registers, slotBranched]) rfl
  · intro r
    refine cwdAcquireFrame_iff hacquire (by decide) ?_ rfl
    simp [registers, lockPushed, slotCompared, BitVec.sub_eq_add_neg, BitVec.add_assoc]
  · intro r
    refine cwdAcquireFrame_iff hacquire (by decide) ?_ rfl
    simp [registers, enterEntered, lockPushed, slotCompared, BitVec.sub_eq_add_neg, BitVec.add_assoc]
  · have hargument : (enterEntered a s m).regs.esp+4 = m.regs.esp-32+12 := by
      rw [enterEntered]
      ring
    rw [hargument, enterEntered, word_setWord_add (by decide), lockPushed, word_setWord_self]
  · intro m' h
    obtain ⟨heip,hreaches⟩ := reaches_selectorReturned hcode h
    obtain ⟨_,_,_,hseven⟩ := stack_of_returned h
    exact ⟨heip,fun _ => (cwdAcquireFrame_returned horigin hslot h).1,selectorReturned s m m',hreaches,rfl,
      fun _ => (cwdAcquireFrame_returned horigin hslot h).2,horigin.esi,rfl,rfl,hseven⟩

/-! The reviewed image, and a thread in it. -/

def reviewedCwdLockSpec : CwdLockSpec where
  selector := ⟨4194304,18313216,4419231,4369854,#v[0xe8,0x1a,0x3f,0xff,0xff],
    #v[0x55,0x8b,0xec,0x8b,0x45,0x08,0x56,0x8d,0x34,0xc5,0xc0,0x31,0x8e,0,0x83,0x3e]⟩
  tableRva := 5124544
  stopPrefix := #v[0x75,0x13,0x50,0xe8,0x68,0xff,0xff,0xff,0x85,0xc0,0x59,0x75,8,0x6a,0x11,0xe8]

def reviewedCwdAcquireSpec : CwdAcquireSpec where
  iatRva := 4554988
  function :=
    { rva := 345056
      prefixBytes := #v[0x8b,0xff,0x55,0x8b,0xec,0x51,0x56,0x8b,0x75,8,0x33,0xd2,0x57,0x64,0x8b,0x3d,
        0x18,0,0,0]
      preferredBase := 1260912640 }
  returnPrefix := #v[0x59,0x83,0x65,0xfc,0,0xff,0x75,0x0c,0xff,0x75,8,0x6a,0,0xe8,0xed,0xfe]

def reviewedCwdLockMemory : Memory :=
  let s := reviewedCwdLockSpec
  let memory := store (fun _ => 0) (s.selector.callAddress-2) reviewedCwdSehSpec.stopPrefix.toList
  let memory := store memory s.selector.targetAddress
    ((writeDword 10 0x8e31c0 cwdLockRaw).toList++s.stopPrefix.toList)
  store memory (s.selector.targetAddress+38) (writeDword 4 0x8580ec cwdAcquireRaw).toList

/-- The slot holds a lock. -/
def reviewedCwdLockThread : Machine where
  regs := ⟨0x19fee8,7,9,0,0x19fed0,0x19fef8,0,24⟩
  flags := 0x216
  eip := reviewedCwdLockSpec.selector.callAddress-2
  mem := setWords (fun _ => 0) 0 [(0x7ffde000,0x19fee8),(0x7ffde004,0x1a0000),(0x7ffde008,0x100000),
    (0x7ffde018,0x7ffde000),(0x8e31f8,0x2a1000),(0x8580ec,0x77a4e000)]
  fs := 0x7ffde000
  undefined := fun _ => 0

theorem cwdLockLoaded_reviewed : CwdLockLoaded reviewedCwdLockSpec reviewedCwdSehSpec
    reviewedCwdAcquireSpec (writeDword 10 0x8e31c0 cwdLockRaw) (writeDword 4 0x8580ec cwdAcquireRaw)
    reviewedCwdLockMemory where
  emitsLock := by
    rw [cwdLockCode, if_neg (by decide)]
    rfl
  emitsAcquire := by
    rw [cwdAcquireCode, if_neg (by decide)]
    rfl
  wrapper := by decide
  selector := by decide
  tail := by decide

theorem cwd_lock_describes_reviewed_code : CwdLockDescribed reviewedCwdLockSpec
    reviewedCwdAcquireSpec reviewedCwdLockMemory reviewedCwdLockThread ∧
    ∃ m₅ m₇, Reaches reviewedCwdLockMemory reviewedCwdLockThread m₅ ∧ m₅.eip = 0x77a4e000 ∧
      Reaches reviewedCwdLockMemory (backFrom 4 0 m₅.mem m₅) m₇ ∧
      m₇.eip = reviewedCwdLockSpec.selector.returnAddress ∧ m₇.regs.esp = 0x19fecc ∧
      word m₇.mem 0x19fecc = 7 := by
  have hdescribed := cwd_lock_describes_code (p := reviewedCwdSehSpec) (m := reviewedCwdLockThread)
    (by decide) cwdLockLoaded_reviewed ⟨rfl,by decide,by decide,by decide⟩
  refine ⟨hdescribed,?_⟩
  obtain ⟨m₁,m₂,m₃,hfirst,hsecond,hthird,_,_,_,_,_,hlocked⟩ := hdescribed
  obtain ⟨_,m₄,m₅,hfourth,hfifth,_,hiat,_,_,_,_,hback⟩ := hlocked (by decide)
  -- EnterCriticalSection changes nothing but its answer.
  have hreturned := @returned_backFrom 4 0 (~~~arithmeticFlags) m₅.mem [((m₅.regs.esp+4),20)] m₅ fun _ _ => rfl
  obtain ⟨_,_,m₇,hseventh,heip,_,_,_,hesp,hword⟩ := hback _ hreturned
  have hesp' : m₇.regs.esp = 0x19fecc := hesp
  have henter : m₅.eip = 0x77a4e000 := hiat.trans (by decide)
  exact ⟨m₅,m₇,(((hfirst.trans hsecond).trans (reaches_of_step hthird)).trans hfourth).trans hfifth,henter,
    hseventh,heip,hesp',hesp' ▸ hword⟩

end Saex
