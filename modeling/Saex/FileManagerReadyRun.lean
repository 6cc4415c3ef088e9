import Saex.CwdLockRun
import Saex.DirectoryBuffer
import Saex.Ia32Kept

/-! The code that the checkpoint pins, executed from the return of the helper on: the wrapper
releases the lock by way of its cleanup, removes its exception handler and returns; the file
manager looks for the end of the directory and appends its suffix. -/
namespace Saex
open LittleEndian WrappedMemory Ia32

/-! What the bytes of `fileManagerReadyCode` and of `fileManagerBody` stand for. -/

def keepResultListing (cleanup : BitVec 32) : Listing :=
  [([0x83,0xc4,0x0c],.alu .add (.reg .esp) (.imm 12)),
   ([0x89,0x45,0xe4],.mov (.mem { base := some .ebp, displacement := -28 }) (.reg .eax)),
   ([0x83,0x4d,0xfc,0xff],.alu .or (.mem { base := some .ebp, displacement := -4 }) (.imm (-1))),
   (0xe8 :: write 4 cleanup,.call (dword cleanup))]

def restoreResultListing (epilogue : BitVec 32) : Listing :=
  [([0x8b,0x45,0xe4],.mov (.reg .eax) (.mem { base := some .ebp, displacement := -28 })),
   (0xe8 :: write 4 epilogue,.call (dword epilogue))]

def returnListing : Listing := [([0xc3],.ret)]

def selectUnlockListing (unlock : BitVec 32) : Listing :=
  [([0x6a,7],.push (.imm 7)),
   (0xe8 :: write 4 unlock,.call (dword unlock))]

def popArgumentListing : Listing :=
  [([0x59],.pop .ecx),
   ([0xc3],.ret)]

def unlockListing : Listing :=
  [([0x55],.push (.reg .ebp)),
   ([0x8b,0xec],.mov (.reg .ebp) (.reg .esp)),
   ([0x8b,0x45,8],.mov (.reg .eax) (.mem { base := some .ebp, displacement := 8 }))]

def pushObjectListing (table : BitVec 32) : Listing :=
  [([0xff,0x34,0xc5]++write 4 table,
    .push (.mem { index := some (.eax,3), displacement := dword table }))]

def unlockedListing : Listing :=
  [([0x5d],.pop .ebp),
   ([0xc3],.ret)]

def epilogueListing : Listing :=
  [([0x8b,0x4d,0xf0],.mov (.reg .ecx) (.mem { base := some .ebp, displacement := -16 })),
   ([0x64,0x89,0x0d,0,0,0,0],.mov (.mem { inFs := true }) (.reg .ecx)),
   ([0x59],.pop .ecx),
   ([0x5f],.pop .edi),
   ([0x5e],.pop .esi),
   ([0x5b],.pop .ebx),
   ([0xc9],.leave),
   ([0x51],.push (.reg .ecx)),
   ([0xc3],.ret)]

/-- Up to the loop; the directory begins behind the byte that `edi` is at. -/
def scanListing (buffer : BitVec 32) : Listing :=
  [(0xbf :: write 4 buffer,.mov (.reg .edi) (.imm (dword buffer))),
   ([0x83,0xc4,8],.alu .add (.reg .esp) (.imm 8)),
   ([0x4f],.dec .edi),
   ([0x8d,0xa4,0x24,0,0,0,0],.lea .esp { base := some .esp })]

/-- One round of the loop. -/
def roundListing : Listing :=
  [([0x8a,0x47,1],.mov (.reg .eax) (.mem { base := some .edi, displacement := 1 }) .byte),
   ([0x47],.inc .edi),
   ([0x84,0xc0],.test (.reg .eax) (.reg .eax) .byte),
   ([0x75,0xf8],.jcc .zero false (-8))]

def appendListing (suffix : BitVec 32) : Listing :=
  [([0x66,0xa1]++write 4 suffix,.mov (.reg .eax) (.mem { displacement := dword suffix }) .word),
   ([0x66,0x89,7],.mov (.mem { base := some .edi }) (.reg .eax) .word)]

def managerReturnListing : Listing :=
  [([0x5f],.pop .edi),
   ([0xc3],.ret)]

theorem straight_keepResultListing (cleanup : BitVec 32) : Straight (keepResultListing cleanup) := by
  iterate 3 refine straight_cons ⟨by simp,fun _ => rfl⟩ trivial ?_
  exact straight_singleton ⟨by simp,fun _ => rfl⟩

theorem straight_restoreResultListing (epilogue : BitVec 32) : Straight (restoreResultListing epilogue) := by
  refine straight_cons ⟨by simp,fun _ => rfl⟩ trivial ?_
  exact straight_singleton ⟨by simp,fun _ => rfl⟩

theorem straight_returnListing : Straight returnListing := straight_singleton ⟨by simp,fun _ => rfl⟩

theorem straight_selectUnlockListing (unlock : BitVec 32) : Straight (selectUnlockListing unlock) := by
  refine straight_cons ⟨by simp,fun _ => rfl⟩ trivial ?_
  exact straight_singleton ⟨by simp,fun _ => rfl⟩

theorem straight_popArgumentListing : Straight popArgumentListing := by
  refine straight_cons ⟨by simp,fun _ => rfl⟩ trivial ?_
  exact straight_singleton ⟨by simp,fun _ => rfl⟩

theorem straight_unlockListing : Straight unlockListing := by
  iterate 2 refine straight_cons ⟨by simp,fun _ => rfl⟩ trivial ?_
  exact straight_singleton ⟨by simp,fun _ => rfl⟩

theorem straight_pushObjectListing (table : BitVec 32) : Straight (pushObjectListing table) :=
  straight_singleton ⟨by simp,fun _ => rfl⟩

theorem straight_unlockedListing : Straight unlockedListing := by
  refine straight_cons ⟨by simp,fun _ => rfl⟩ trivial ?_
  exact straight_singleton ⟨by simp,fun _ => rfl⟩

theorem straight_epilogueListing : Straight epilogueListing := by
  iterate 8 refine straight_cons ⟨by simp,fun _ => rfl⟩ trivial ?_
  exact straight_singleton ⟨by simp,fun _ => rfl⟩

theorem straight_scanListing (buffer : BitVec 32) : Straight (scanListing buffer) := by
  iterate 3 refine straight_cons ⟨by simp,fun _ => rfl⟩ trivial ?_
  exact straight_singleton ⟨by simp,fun _ => rfl⟩

theorem straight_roundListing : Straight roundListing := by
  iterate 3 refine straight_cons ⟨by simp,fun _ => rfl⟩ trivial ?_
  exact straight_singleton ⟨by simp,fun _ => rfl⟩

theorem straight_appendListing (suffix : BitVec 32) : Straight (appendListing suffix) := by
  refine straight_cons ⟨by simp,fun _ => rfl⟩ trivial ?_
  exact straight_singleton ⟨by simp,fun _ => rfl⟩

theorem straight_managerReturnListing : Straight managerReturnListing := by
  refine straight_cons ⟨by simp,fun _ => rfl⟩ trivial ?_
  exact straight_singleton ⟨by simp,fun _ => rfl⟩

/-- What the epilogue does. All addresses count from its return address `b`; the frame pointer is
where the prologue has left it. -/
theorem afterAll_epilogueListing {eax ecx edx ebx esi edi flags eip fs b ret head ebx' ebp' esi' edi' :
    BitVec 32} {mem : Memory} {undefined : ℕ → BitVec 32}
    (hfs : ∀ d : BitVec 32, d.toNat+4 ≤ 48 → Apart fs 4 (b+d) 4) (hret : word mem b = ret)
    (hedi : word mem (b+4) = edi') (hesi : word mem (b+8) = esi') (hebx : word mem (b+12) = ebx')
    (hhead : word mem (b+28) = head) (hebp : word mem (b+44) = ebp') :
    (Machine.mk ⟨eax,ecx,edx,ebx,b,b+44,esi,edi⟩ flags eip mem fs undefined).afterAll epilogueListing =
      Machine.mk ⟨eax,ret,edx,ebx',b+48,ebp',esi',edi'⟩ (blend flags resumeFlag 0) ret
        (setWord (setWord mem fs head) (b+44) ret) fs undefined := by
  have hfs' := hfs 0 (by decide)
  simp only [BitVec.ofNat_eq_ofNat, BitVec.add_zero] at *
  simp (disch := first | decide | assumption | (apply hfs; decide)) [epilogueListing, hret, hedi, hesi,
    hebx, hhead, hebp, BitVec.sub_eq_add_neg, BitVec.add_assoc, word_setWord_of_apart]

variable {s : FileManagerReadySpec} {q : CwdReturnSpec} {l : CwdLockSpec} {seh : CwdSehSpec}
  {f : FileManagerEntrySpec} {c : FileManagerReadyCode} {body : Vector UInt8 51} {code : Memory}
  {m : Machine}

theorem fileManagerReadyCode_eq (h : fileManagerReadyCode s q l seh f = some c) :
    c.wrapper.toList = encoding (keepResultListing (seh.cleanupRva-(l.selector.callRva+38)))++
        (encoding (restoreResultListing (s.epilogueRva-(l.selector.callRva+46)))++encoding returnListing) ∧
      c.cleanup.toList = encoding (selectUnlockListing (s.unlockRva-(seh.cleanupRva+7)))++
        encoding popArgumentListing ∧
      c.unlock.toList = encoding unlockListing++
        (encoding (pushObjectListing (l.selector.imageBase+l.tableRva))++
          (([0xff,0x15]++write 4 (l.selector.imageBase+s.iatRva))++encoding unlockedListing)) ∧
      c.epilogue.toList = encoding epilogueListing := by
  dsimp only [fileManagerReadyCode] at h
  split at h
  · contradiction
  split at h
  · rw [← Option.some.inj h]
    refine ⟨?_,?_,?_,rfl⟩
    · rw [toList_writeDword (by decide), toList_writeDword (by decide)]
      rfl
    · rw [toList_writeDword (by decide)]
      rfl
    · rw [toList_writeDword (by decide), toList_writeDword (by decide)]
      rfl
  · cases h

/-- Up to its CALL the body is executed before. -/
theorem fileManagerBody_eq (h : fileManagerBody f = some body) : ∃ called : List UInt8,
    called.length = 16 ∧
    body.toList = called++(encoding (scanListing (f.manager.imageBase+f.bufferRva))++(encoding roundListing++
          (encoding (appendListing (f.manager.imageBase+f.suffixRva))++encoding managerReturnListing))) := by
  dsimp only [fileManagerBody] at h
  split at h
  · contradiction
  split at h
  · contradiction
  · rw [← Option.some.inj h]
    rw [toList_writeDword (by decide), toList_writeDword (by decide), toList_writeDword (by decide),
      toList_writeDword (by decide)]
    exact ⟨[0x57,0x68,0x80,0,0,0,0x68]++write 4 (f.manager.imageBase+f.bufferRva)++(0xe8 :: write 4 _),by simp,rfl⟩

/-! The machine up to the function that releases the lock. What is written of the stack begins twelve
bytes below the stack pointer that the helper leaves. -/

namespace FileManagerReadySpec

def cleanup (l : CwdLockSpec) (seh : CwdSehSpec) : Address := l.selector.imageBase+seh.cleanupRva
def unlock (s : FileManagerReadySpec) (l : CwdLockSpec) : Address := l.selector.imageBase+s.unlockRva
def epilogue (s : FileManagerReadySpec) (l : CwdLockSpec) : Address := l.selector.imageBase+s.epilogueRva
def iat (s : FileManagerReadySpec) (l : CwdLockSpec) : Address := l.selector.imageBase+s.iatRva

end FileManagerReadySpec
open FileManagerReadySpec

/-- The slot of the wrapper's lock. -/
def lockSlot (l : CwdLockSpec) : Address := l.selector.imageBase+l.tableRva+56

def cleanupEntered (l : CwdLockSpec) (seh : CwdSehSpec) (m : Machine) : Machine :=
  { m with
    regs := { m.regs with esp := m.regs.esp+8 }
    eip := cleanup l seh
    mem := setWords m.mem (m.regs.esp-12) [(36,m.regs.eax),(60,-1),(20,l.selector.callAddress+38)] }

def unlockEntered (s : FileManagerReadySpec) (l : CwdLockSpec) (seh : CwdSehSpec) (m : Machine) : Machine :=
  { m with
    eip := s.unlock l
    mem := setWords m.mem (m.regs.esp-12) [(36,m.regs.eax),(60,-1),(20,l.selector.callAddress+38),(16,7),
      (12,cleanup l seh+7)] }

def unlockFramed (s : FileManagerReadySpec) (l : CwdLockSpec) (seh : CwdSehSpec) (m : Machine) : Machine :=
  { m with
    regs := { m.regs with eax := 7, esp := m.regs.esp-4, ebp := m.regs.esp-4 }
    eip := s.unlock l+6
    mem := setWords m.mem (m.regs.esp-12) [(36,m.regs.eax),(60,-1),(20,l.selector.callAddress+38),(16,7),
      (12,cleanup l seh+7),(8,m.regs.ebp)] }

/-- At the CALL of the function. -/
def objectPushed (s : FileManagerReadySpec) (l : CwdLockSpec) (seh : CwdSehSpec) (m : Machine) : Machine :=
  { m with
    regs := { m.regs with eax := 7, esp := m.regs.esp-8, ebp := m.regs.esp-4 }
    eip := s.unlock l+13
    mem := setWords m.mem (m.regs.esp-12) [(36,m.regs.eax),(60,-1),(20,l.selector.callAddress+38),(16,7),
      (12,cleanup l seh+7),(8,m.regs.ebp),(4,word m.mem (lockSlot l))] }

/-- The function is entered. -/
def leaveEntered (s : FileManagerReadySpec) (l : CwdLockSpec) (seh : CwdSehSpec) (m : Machine) : Machine :=
  { m with
    regs := { m.regs with eax := 7, esp := m.regs.esp-12, ebp := m.regs.esp-4 }
    eip := word m.mem (s.iat l)
    mem := setWords m.mem (m.regs.esp-12) [(36,m.regs.eax),(60,-1),(20,l.selector.callAddress+38),(16,7),
      (12,cleanup l seh+7),(8,m.regs.ebp),(4,word m.mem (lockSlot l)),(0,s.unlock l+19)] }

/-- The code in memory. -/
structure FileManagerReadyLoaded (s : FileManagerReadySpec) (q : CwdReturnSpec) (l : CwdLockSpec)
    (seh : CwdSehSpec) (f : FileManagerEntrySpec) (c : FileManagerReadyCode) (body : Vector UInt8 51)
    (code : Memory) : Prop where
  emits : fileManagerReadyCode s q l seh f = some c
  manager : fileManagerBody f = some body
  wrapper : HasBytes code (l.selector.callAddress+23) c.wrapper.toList
  cleanup : HasBytes code (cleanup l seh) c.cleanup.toList
  unlock : HasBytes code (s.unlock l) c.unlock.toList
  epilogue : HasBytes code (s.epilogue l) c.epilogue.toList
  body : HasBytes code f.manager.targetAddress body.toList

/-- The parts of the function that releases the lock. -/
theorem FileManagerReadyLoaded.unlock_parts (h : FileManagerReadyLoaded s q l seh f c body code) :
    HasBytes code (s.unlock l) (encoding unlockListing) ∧
      HasBytes code (s.unlock l+6) (encoding (pushObjectListing (l.selector.imageBase+l.tableRva))) ∧
      HasBytes code (s.unlock l+13) ([0xff,0x15]++write 4 (s.iat l)) ∧
      HasBytes code (s.unlock l+19) (encoding unlockedListing) := by
  have hbytes := h.unlock
  rw [(fileManagerReadyCode_eq h.emits).2.2.1, hasBytes_append, hasBytes_append, hasBytes_append] at hbytes
  have hcall : s.unlock l+13 = s.unlock l+6+7 := by ring
  have hback : s.unlock l+19 = s.unlock l+6+7+6 := by ring
  rw [hcall, hback]
  exact hbytes

theorem reaches_cleanupEntered (hcode : FileManagerReadyLoaded s q l seh f c body code)
    (heip : m.eip = l.selector.callAddress+23) (hebp : m.regs.ebp = m.regs.esp+52) :
    ReachesUpToFlags code m (cleanupEntered l seh m) := by
  have hbytes := hcode.wrapper
  rw [(fileManagerReadyCode_eq hcode.emits).1, hasBytes_append] at hbytes
  have htarget : l.selector.callAddress+38+(seh.cleanupRva-(l.selector.callRva+38)) = cleanup l seh := by
    rw [FrameTargetSpec.callAddress, cleanup]
    ring
  refine reachesUpToFlags_listing (straight_keepResultListing _) hbytes.1 heip ?_
  rw [cleanupEntered]
  obtain ⟨⟨eax,ecx,edx,ebx,esp,ebp,esi,edi⟩,flags,eip,mem,fs,undefined⟩ := m
  obtain ⟨b,rfl⟩ : ∃ b, esp = b+12 := ⟨esp-12,by ring⟩
  simp only at heip hebp
  have hones (v : BitVec 32) : v ||| 4294967295#32 = 4294967295#32 := BitVec.or_allOnes
  simp (disch := decide) [keepResultListing, hebp, heip, setWords, BitVec.sub_eq_add_neg, BitVec.add_assoc,
    word_setWord_add] at htarget ⊢
  simp [htarget, hones]

theorem reaches_unlockEntered (hcode : FileManagerReadyLoaded s q l seh f c body code)
    (flags : BitVec 32) (undefined : ℕ → BitVec 32) :
    ReachesUpToFlags code { cleanupEntered l seh m with flags, undefined } (unlockEntered s l seh m) := by
  have hbytes := hcode.cleanup
  rw [(fileManagerReadyCode_eq hcode.emits).2.1, hasBytes_append] at hbytes
  have htarget : cleanup l seh+7+(s.unlockRva-(seh.cleanupRva+7)) = s.unlock l := by
    rw [cleanup, unlock]
    ring
  refine reachesUpToFlags_listing (straight_selectUnlockListing _) hbytes.1 rfl ?_
  rw [unlockEntered, cleanupEntered]
  obtain ⟨⟨eax,ecx,edx,ebx,esp,ebp,esi,edi⟩,flags,eip,mem,fs,undefined⟩ := m
  obtain ⟨b,rfl⟩ : ∃ b, esp = b+12 := ⟨esp-12,by ring⟩
  simp (disch := decide) [selectUnlockListing, setWords, BitVec.sub_eq_add_neg, BitVec.add_assoc] at htarget ⊢
  simp [htarget]

theorem reaches_unlockFramed (hcode : FileManagerReadyLoaded s q l seh f c body code)
    (flags : BitVec 32) (undefined : ℕ → BitVec 32) :
    ReachesUpToFlags code { unlockEntered s l seh m with flags, undefined } (unlockFramed s l seh m) := by
  refine reachesUpToFlags_listing straight_unlockListing hcode.unlock_parts.1 rfl ?_
  rw [unlockFramed, unlockEntered]
  obtain ⟨⟨eax,ecx,edx,ebx,esp,ebp,esi,edi⟩,flags,eip,mem,fs,undefined⟩ := m
  obtain ⟨b,rfl⟩ : ∃ b, esp = b+12 := ⟨esp-12,by ring⟩
  simp (disch := decide) [unlockListing, setWords, BitVec.sub_eq_add_neg, BitVec.add_assoc, word_setWord_add]

theorem reaches_objectPushed (hcode : FileManagerReadyLoaded s q l seh f c body code)
    (hslot : Apart (m.regs.esp-12) 92 (lockSlot l) 4) (flags : BitVec 32) (undefined : ℕ → BitVec 32) :
    ReachesUpToFlags code { unlockFramed s l seh m with flags, undefined } (objectPushed s l seh m) := by
  refine reachesUpToFlags_listing (straight_pushObjectListing _) hcode.unlock_parts.2.1 rfl ?_
  have hobject : word (unlockFramed s l seh m).mem (lockSlot l) = word m.mem (lockSlot l) :=
    word_setWords_of_stretch hslot (by simp)
  have hplace : 7#32 <<< 3+(l.selector.imageBase+l.tableRva) = lockSlot l := by
    rw [lockSlot, show 7#32 <<< 3 = 56 by decide]
    ring
  rw [objectPushed, ← hobject, unlockFramed]
  obtain ⟨⟨eax,ecx,edx,ebx,esp,ebp,esi,edi⟩,flags,eip,mem,fs,undefined⟩ := m
  obtain ⟨b,rfl⟩ : ∃ b, esp = b+12 := ⟨esp-12,by ring⟩
  simp at hplace
  simp (disch := decide) [pushObjectListing, hplace, setWords, BitVec.sub_eq_add_neg, BitVec.add_assoc]

theorem reaches_leaveEntered (hcode : FileManagerReadyLoaded s q l seh f c body code)
    (hiat : Apart (m.regs.esp-12) 92 (s.iat l) 4) (flags : BitVec 32) (undefined : ℕ → BitVec 32) :
    ReachesUpToFlags code { objectPushed s l seh m with flags, undefined } (leaveEntered s l seh m) := by
  have hcall := (@reaches_callByWord code { objectPushed s l seh m with flags, undefined } _
    hcode.unlock_parts.2.2.1).upToFlags
  have hfunction : word (objectPushed s l seh m).mem (s.iat l) = word m.mem (s.iat l) :=
    word_setWords_of_stretch hiat (by simp)
  rw [leaveEntered, ← hfunction]
  rw [objectPushed] at *
  obtain ⟨⟨eax,ecx,edx,ebx,esp,ebp,esi,edi⟩,flags,eip,mem,fs,undefined⟩ := m
  obtain ⟨b,rfl⟩ : ∃ b, esp = b+12 := ⟨esp-12,by ring⟩
  simp (disch := decide) [setWords, BitVec.sub_eq_add_neg, BitVec.add_assoc, ReachesUpToFlags] at hcall ⊢
  exact hcall

/-! The machine `m` is back from the function. -/

/-- The stack there; `e` is its top. -/
structure ReadyStack (l : CwdLockSpec) (seh : CwdSehSpec) (f : FileManagerEntrySpec)
    (caller : DispatchRegisters) (head : BitVec 32) (mem : Memory) (e : Address) : Prop where
  wrapperEbp : word mem e = e+56
  cleanup : word mem (e+4) = cleanup l seh+7
  wrapper : word mem (e+12) = l.selector.callAddress+38
  savedEdi : word mem (e+16) = caller.edi
  savedEsi : word mem (e+20) = caller.esi
  savedEbx : word mem (e+24) = caller.ebx
  result : word mem (e+28) = f.manager.imageBase+f.bufferRva
  head : word mem (e+40) = head
  savedEbp : word mem (e+56) = caller.ebp
  manager : word mem (e+60) = f.manager.targetAddress+16
  managerEdi : word mem (e+72) = caller.edi
  managerReturn : word mem (e+76) = f.manager.returnAddress

def unlockReturned (l : CwdLockSpec) (seh : CwdSehSpec) (m : Machine) : Machine :=
  { m with
    regs := { m.regs with esp := m.regs.esp+8, ebp := m.regs.esp+56 }
    eip := cleanup l seh+7 }

def cleanupReturned (l : CwdLockSpec) (m : Machine) : Machine :=
  { m with
    regs := { m.regs with ecx := word m.mem (m.regs.esp+8), esp := m.regs.esp+16, ebp := m.regs.esp+56 }
    eip := l.selector.callAddress+38 }

def epilogueEntered (s : FileManagerReadySpec) (l : CwdLockSpec) (m : Machine) : Machine :=
  { m with
    regs := { m.regs with
      eax := word m.mem (m.regs.esp+28), ecx := word m.mem (m.regs.esp+8), esp := m.regs.esp+12,
      ebp := m.regs.esp+56 }
    eip := s.epilogue l
    mem := setWord m.mem (m.regs.esp+12) (l.selector.callAddress+46) }

/-- Back in the wrapper, without its handler. -/
def epilogueReturned (l : CwdLockSpec) (caller : DispatchRegisters) (head : BitVec 32) (m : Machine) : Machine :=
  { m with
    regs := { m.regs with
      eax := word m.mem (m.regs.esp+28), ecx := l.selector.callAddress+46, esp := m.regs.esp+60
      ebp := caller.ebp, edi := caller.edi, esi := caller.esi, ebx := caller.ebx }
    eip := l.selector.callAddress+46
    mem := setWord (setWord (setWord m.mem (m.regs.esp+12) (l.selector.callAddress+46)) m.fs head)
      (m.regs.esp+56) (l.selector.callAddress+46) }

variable {caller : DispatchRegisters} {head : BitVec 32}

theorem reaches_unlockReturned (hcode : FileManagerReadyLoaded s q l seh f c body code)
    (heip : m.eip = s.unlock l+19) (hstack : ReadyStack l seh f caller head m.mem m.regs.esp) :
    ReachesUpToFlags code m (unlockReturned l seh m) := by
  refine reachesUpToFlags_listing straight_unlockedListing hcode.unlock_parts.2.2.2 heip ?_
  have hebp := hstack.wrapperEbp
  have hret := hstack.cleanup
  rw [unlockReturned]
  obtain ⟨⟨eax,ecx,edx,ebx,esp,ebp,esi,edi⟩,flags,eip,mem,fs,undefined⟩ := m
  simp at hebp hret
  simp [unlockedListing, hebp, hret, BitVec.add_assoc]

theorem reaches_cleanupReturned (hcode : FileManagerReadyLoaded s q l seh f c body code)
    (hstack : ReadyStack l seh f caller head m.mem m.regs.esp) (flags : BitVec 32) (undefined : ℕ → BitVec 32) :
    ReachesUpToFlags code { unlockReturned l seh m with flags, undefined } (cleanupReturned l m) := by
  have hbytes := hcode.cleanup
  rw [(fileManagerReadyCode_eq hcode.emits).2.1, hasBytes_append] at hbytes
  refine reachesUpToFlags_listing straight_popArgumentListing hbytes.2 rfl ?_
  have hret := hstack.wrapper
  rw [unlockReturned, cleanupReturned]
  obtain ⟨⟨eax,ecx,edx,ebx,esp,ebp,esi,edi⟩,flags,eip,mem,fs,undefined⟩ := m
  simp at hret
  simp [popArgumentListing, hret, BitVec.add_assoc]

theorem reaches_epilogueEntered (hcode : FileManagerReadyLoaded s q l seh f c body code)
    (flags : BitVec 32) (undefined : ℕ → BitVec 32) :
    ReachesUpToFlags code { cleanupReturned l m with flags, undefined } (epilogueEntered s l m) := by
  have hbytes := hcode.wrapper
  rw [(fileManagerReadyCode_eq hcode.emits).1, hasBytes_append, hasBytes_append] at hbytes
  have htarget : l.selector.callAddress+46+(s.epilogueRva-(l.selector.callRva+46)) = s.epilogue l := by
    rw [FrameTargetSpec.callAddress, epilogue]
    ring
  have heip : l.selector.callAddress+38 = l.selector.callAddress+23+15 := by ring
  refine reachesUpToFlags_listing (straight_restoreResultListing _) hbytes.2.1 heip ?_
  rw [cleanupReturned, epilogueEntered]
  obtain ⟨⟨eax,ecx,edx,ebx,esp,ebp,esi,edi⟩,flags,eip,mem,fs,undefined⟩ := m
  simp (disch := decide) [restoreResultListing, BitVec.sub_eq_add_neg, BitVec.add_assoc] at htarget ⊢
  exact htarget

theorem reaches_epilogueReturned (hcode : FileManagerReadyLoaded s q l seh f c body code)
    (hstack : ReadyStack l seh f caller head m.mem m.regs.esp) (hfs : Apart m.regs.esp 80 m.fs 4)
    (flags : BitVec 32) (undefined : ℕ → BitVec 32) :
    ReachesUpToFlags code { epilogueEntered s l m with flags, undefined }
      (epilogueReturned l caller head m) := by
  have hbytes := hcode.epilogue
  rw [(fileManagerReadyCode_eq hcode.emits).2.2.2] at hbytes
  refine reachesUpToFlags_listing straight_epilogueListing hbytes rfl ?_
  obtain ⟨_,_,_,hedi,hesi,hebx,_,hhead,hebp,_,_,_⟩ := hstack
  -- The CALL of the epilogue has overwritten the one word at its return address.
  have hword (d : BitVec 32) {v : BitVec 32} (hd : Apart 12 4 (12+d) 4)
      (h : word m.mem (m.regs.esp+(12+d)) = v) :
      word (epilogueEntered s l m).mem (m.regs.esp+12+d) = v := by
    rw [BitVec.add_assoc, epilogueEntered, word_setWord_add hd, h]
  have hfs' (d : BitVec 32) (hd : d.toNat+4 ≤ 48) : Apart m.fs 4 (m.regs.esp+12+d) 4 := by
    rw [BitVec.add_assoc]
    exact (hfs.left (by decide) (by decide) (by bv_omega)).symm
  have hafter := @afterAll_epilogueListing (word m.mem (m.regs.esp+28)) (word m.mem (m.regs.esp+8))
    m.regs.edx m.regs.ebx m.regs.esi m.regs.edi flags (s.epilogue l) m.fs (m.regs.esp+12) _ _ _ _ _ _
    (epilogueEntered s l m).mem undefined hfs' (word_setWord_self _ _ _)
    (hword 4 (by decide) hedi) (hword 8 (by decide) hesi) (hword 12 (by decide) hebx)
    (hword 28 (by decide) hhead) (hword 44 (by decide) hebp)
  have hframe : m.regs.esp+12+44 = m.regs.esp+56 := by ring
  have htop : m.regs.esp+12+48 = m.regs.esp+60 := by ring
  rw [hframe, htop] at hafter
  have hentered : { epilogueEntered s l m with flags, undefined } =
      ⟨⟨word m.mem (m.regs.esp+28),word m.mem (m.regs.esp+8),m.regs.edx,m.regs.ebx,m.regs.esp+12,
        m.regs.esp+56,m.regs.esi,m.regs.edi⟩,flags,s.epilogue l,(epilogueEntered s l m).mem,m.fs,
        undefined⟩ := rfl
  rw [hentered, hafter]
  rfl

theorem epilogueReturned_words (hstack : ReadyStack l seh f caller head m.mem m.regs.esp)
    (hfs : Apart m.regs.esp 80 m.fs 4) {mem : Memory} (hmem : mem = (epilogueReturned l caller head m).mem) :
    word mem (m.regs.esp+60) = f.manager.targetAddress+16 ∧ word mem (m.regs.esp+72) = caller.edi ∧
      word mem (m.regs.esp+76) = f.manager.returnAddress ∧ word mem m.fs = head := by
  obtain ⟨_,_,_,_,_,_,_,_,_,hmanager,hedi,hreturn⟩ := hstack
  have hfs' (d : BitVec 32) (hd : d.toNat+4 ≤ 80) : Apart m.fs 4 (m.regs.esp+d) 4 :=
    (hfs.left (by decide) (by decide) hd).symm
  have hkept (d : BitVec 32) (hd : d.toNat+4 ≤ 80) (hfirst : Apart 12 4 d 4) (hlast : Apart 56 4 d 4) :
      word mem (m.regs.esp+d) = word m.mem (m.regs.esp+d) := by
    rw [hmem, epilogueReturned, word_setWord_add hlast, word_setWord_of_apart (hfs' d hd), word_setWord_add hfirst]
  refine ⟨(hkept 60 (by decide) (by decide) (by decide)).trans hmanager,
    (hkept 72 (by decide) (by decide) (by decide)).trans hedi,
    (hkept 76 (by decide) (by decide) (by decide)).trans hreturn,?_⟩
  rw [hmem, epilogueReturned, word_setWord_of_apart (hfs.left (by decide) (by decide) (by decide)),
    word_setWord_self]

theorem epilogueReturned_load {a : Address} {k : ℕ} (hk : 0 < k) (happart : Apart m.regs.esp 80 a k)
    (hfs : Apart m.fs 4 a k) : load (epilogueReturned l caller head m).mem a k = load m.mem a k := by
  rw [epilogueReturned, load_setWord_of_apart (happart.left (by decide) hk (by decide)),
    load_setWord_of_apart hfs, load_setWord_of_apart (happart.left (by decide) hk (by decide))]

def wrapperReturned (f : FileManagerEntrySpec) (m : Machine) : Machine :=
  { m with
    regs := { m.regs with esp := m.regs.esp+4 }
    eip := f.manager.targetAddress+16 }

theorem reaches_wrapperReturned (hcode : FileManagerReadyLoaded s q l seh f c body code)
    (heip : m.eip = l.selector.callAddress+46)
    (hreturn : word m.mem m.regs.esp = f.manager.targetAddress+16) :
    ReachesUpToFlags code m (wrapperReturned f m) := by
  have hbytes := hcode.wrapper
  rw [(fileManagerReadyCode_eq hcode.emits).1, hasBytes_append, hasBytes_append] at hbytes
  have hplace : l.selector.callAddress+46 = l.selector.callAddress+23+15+8 := by ring
  refine reachesUpToFlags_listing straight_returnListing hbytes.2.2 (heip.trans hplace) ?_
  rw [wrapperReturned]
  obtain ⟨⟨eax,ecx,edx,ebx,esp,ebp,esi,edi⟩,flags,eip,mem,fs,undefined⟩ := m
  simp at hreturn
  simp [returnListing, hreturn]

/-! The file manager. The machine `m` has the directory in the buffer. -/

def FileManagerEntrySpec.buffer (f : FileManagerEntrySpec) : Address := f.manager.imageBase+f.bufferRva
def FileManagerEntrySpec.suffix (f : FileManagerEntrySpec) : Address := f.manager.imageBase+f.suffixRva

/-- In the loop, `i` bytes further. -/
def scanned (f : FileManagerEntrySpec) (m : Machine) (i : ℕ) (eax eip : BitVec 32) : Machine :=
  { m with
    regs := { m.regs with eax, esp := m.regs.esp+8, edi := f.buffer-1+BitVec.ofNat 32 i }
    eip }

theorem FileManagerReadyLoaded.body_parts (h : FileManagerReadyLoaded s q l seh f c body code) :
    HasBytes code (f.manager.targetAddress+16) (encoding (scanListing f.buffer)) ∧
      HasBytes code (f.manager.targetAddress+32) (encoding roundListing) ∧
      HasBytes code (f.manager.targetAddress+40) (encoding (appendListing f.suffix)) ∧
      HasBytes code (f.manager.targetAddress+49) (encoding managerReturnListing) := by
  have hbytes := h.body
  obtain ⟨called,hlength,hbody⟩ := fileManagerBody_eq h.manager
  rw [hbody, hasBytes_append, hasBytes_append, hasBytes_append, hasBytes_append, hlength] at hbytes
  have hround : f.manager.targetAddress+32 = f.manager.targetAddress+16+16 := by ring
  have happend : f.manager.targetAddress+40 = f.manager.targetAddress+16+16+8 := by ring
  have hreturn : f.manager.targetAddress+49 = f.manager.targetAddress+16+16+8+9 := by ring
  rw [hround, happend, hreturn]
  exact hbytes.2

theorem reaches_scanned_zero (hcode : FileManagerReadyLoaded s q l seh f c body code)
    (heip : m.eip = f.manager.targetAddress+16) :
    ReachesUpToFlags code m (scanned f m 0 m.regs.eax (f.manager.targetAddress+32)) := by
  refine reachesUpToFlags_listing (straight_scanListing _) hcode.body_parts.1 heip ?_
  rw [scanned]
  obtain ⟨⟨eax,ecx,edx,ebx,esp,ebp,esi,edi⟩,flags,eip,mem,fs,undefined⟩ := m
  simp only at heip
  simp [scanListing, heip, BitVec.add_assoc, BitVec.sub_eq_add_neg]

/-- The byte in the low part of a register is zero or not. -/
theorem byte_tested (v : BitVec 32) (b : UInt8) :
    ((blend v 255#32 (b.toBitVec.setWidth 32)).setWidth 8).signExtend 32 &&& 4294967295#32 = 0#32 ↔ b = 0 := by
  have hbyte : (blend v 255#32 (b.toBitVec.setWidth 32)).setWidth 8 = b.toBitVec := by
    apply BitVec.eq_of_getLsbD_eq
    intro i hi
    have hmask : ∀ i < 8, (255#32).getLsbD i = true := by decide
    have hi' : i < 32 := by omega
    rw [BitVec.getLsbD_setWidth, getLsbD_blend, hmask i hi, BitVec.getLsbD_setWidth]
    simp [hi, hi']
  have hones (x : BitVec 32) : x &&& 4294967295#32 = x := BitVec.and_allOnes
  rw [hbyte, hones]
  constructor
  · intro h
    apply UInt8.toBitVec_inj.mp
    apply BitVec.eq_of_getLsbD_eq
    intro i hi
    have hbit := congrArg (fun x => x.getLsbD i) h
    rw [BitVec.getLsbD_signExtend, if_pos hi] at hbit
    have hi' : i < 32 := by omega
    simpa [hi'] using hbit
  · intro h
    rw [h]
    rfl

/-- One round. -/
theorem reaches_scanned_succ (hcode : FileManagerReadyLoaded s q l seh f c body code) (i : ℕ)
    (eax flags : BitVec 32) (undefined : ℕ → BitVec 32) :
    ReachesUpToFlags code { scanned f m i eax (f.manager.targetAddress+32) with flags, undefined }
      (scanned f m (i+1) (blend eax 0xff ((m.mem (f.buffer+BitVec.ofNat 32 i)).toBitVec.setWidth 32))
        (if m.mem (f.buffer+BitVec.ofNat 32 i) = 0 then f.manager.targetAddress+40
          else f.manager.targetAddress+32)) := by
  refine reachesUpToFlags_listing straight_roundListing hcode.body_parts.2.1 rfl ?_
  have hplace : f.buffer-1+BitVec.ofNat 32 i+1 = f.buffer+BitVec.ofNat 32 i := by ring
  have hnext : f.buffer-1+BitVec.ofNat 32 (i+1) = f.buffer+BitVec.ofNat 32 i := by
    rw [BitVec.ofNat_add, show BitVec.ofNat 32 1 = 1 from rfl]
    ring
  rw [scanned, scanned, hnext]
  generalize f.buffer-1+BitVec.ofNat 32 i = edi' at *
  obtain ⟨⟨eax,ecx,edx,ebx,esp,ebp,esi,edi⟩,flags,eip,mem,fs,undefined⟩ := m
  simp at hplace
  simp (disch := decide) [roundListing, hplace, BitVec.add_assoc, blend_resumeFlag, holds_zero_logic, byte_tested]

/-- The loop runs on over bytes that are not zero. -/
theorem reaches_scanned (hcode : FileManagerReadyLoaded s q l seh f c body code)
    (heip : m.eip = f.manager.targetAddress+16) {n : ℕ}
    (hpath : ∀ i < n, m.mem (f.buffer+BitVec.ofNat 32 i) ≠ 0) : ∃ eax,
    eax &&& 0xffffff00 = m.regs.eax &&& 0xffffff00 ∧
      ReachesUpToFlags code m (scanned f m n eax (f.manager.targetAddress+32)) := by
  induction n with
  | zero => exact ⟨m.regs.eax,rfl,reaches_scanned_zero hcode heip⟩
  | succ n ih =>
    obtain ⟨eax,heax,hreaches⟩ := ih fun i hi => hpath i (Nat.lt_succ_of_lt hi)
    have hround := @reaches_scanned_succ _ _ _ _ _ _ _ _ m hcode n eax
    rw [if_neg (hpath n (Nat.lt_succ_self n))] at hround
    exact ⟨_,(blend_and_of_disjoint (by decide)).trans heax,hreaches.trans hround⟩

/-- At the first zero the loop ends. -/
theorem reaches_scanned_end (hcode : FileManagerReadyLoaded s q l seh f c body code)
    (heip : m.eip = f.manager.targetAddress+16) {n : ℕ}
    (hpath : ∀ i < n, m.mem (f.buffer+BitVec.ofNat 32 i) ≠ 0) (hend : m.mem (f.buffer+BitVec.ofNat 32 n) = 0) :
    ReachesUpToFlags code m
      (scanned f m (n+1) (m.regs.eax &&& 0xffffff00) (f.manager.targetAddress+40)) := by
  obtain ⟨eax,heax,hreaches⟩ := reaches_scanned hcode heip hpath
  have hround := @reaches_scanned_succ _ _ _ _ _ _ _ _ m hcode n eax
  have hlow : blend eax 0xff 0 = m.regs.eax &&& 0xffffff00 := by
    rw [← heax, blend]
    simp
  rw [if_pos hend, hend, show (0 : UInt8).toBitVec.setWidth 32 = 0 from rfl, hlow] at hround
  exact hreaches.trans hround

/-- The suffix is in place. -/
def suffixAppended (f : FileManagerEntrySpec) (m : Machine) (n : ℕ) : Machine :=
  { m with
    regs := { m.regs with
      eax := (m.regs.eax &&& 0xffff0000) ||| 0x5c, esp := m.regs.esp+8, edi := f.buffer+BitVec.ofNat 32 n }
    eip := f.manager.targetAddress+49
    mem := store m.mem (f.buffer+BitVec.ofNat 32 n) [0x5c,0] }

def managerReturned (f : FileManagerEntrySpec) (m : Machine) (n : ℕ) : Machine :=
  { m with
    regs := { m.regs with
      eax := (m.regs.eax &&& 0xffff0000) ||| 0x5c, esp := m.regs.esp+16, edi := word m.mem (m.regs.esp+8) }
    eip := word m.mem (m.regs.esp+12)
    mem := store m.mem (f.buffer+BitVec.ofNat 32 n) [0x5c,0] }

theorem reaches_suffixAppended (hcode : FileManagerReadyLoaded s q l seh f c body code) {n : ℕ}
    (hsuffix : load m.mem f.suffix 2 = [0x5c,0]) (flags : BitVec 32) (undefined : ℕ → BitVec 32) :
    ReachesUpToFlags code
      { scanned f m (n+1) (m.regs.eax &&& 0xffffff00) (f.manager.targetAddress+40) with flags, undefined }
      (suffixAppended f m n) := by
  refine reachesUpToFlags_listing (straight_appendListing _) hcode.body_parts.2.2.1 rfl ?_
  have hedi : f.buffer-1+BitVec.ofNat 32 (n+1) = f.buffer+BitVec.ofNat 32 n := by
    rw [BitVec.ofNat_add, show BitVec.ofNat 32 1 = 1 from rfl]
    ring
  rw [scanned, suffixAppended, hedi]
  obtain ⟨⟨eax,ecx,edx,ebx,esp,ebp,esi,edi⟩,flags,eip,mem,fs,undefined⟩ := m
  have hread : LittleEndian.read 32 [0x5c,0] = 92#32 := by decide
  have heax : blend (eax &&& 4294967040#32) 65535#32 92#32 = eax &&& 4294901760#32 ||| 92#32 := by
    rw [blend, BitVec.and_assoc]
    rfl
  have hlow : write 2 ((eax &&& 4294901760#32 ||| 92#32) &&& 65535#32) = [0x5c,0] := by
    rw [← heax, blend_and_of_within (by decide)]
    decide
  simp at hsuffix
  simp [appendListing, hsuffix, hread, heax, hlow, BitVec.add_assoc]

theorem reaches_managerReturned (hcode : FileManagerReadyLoaded s q l seh f c body code) {n : ℕ}
    (happart : Apart m.regs.esp 16 (f.buffer+BitVec.ofNat 32 n) 2) (flags : BitVec 32) (undefined : ℕ → BitVec 32) :
    ReachesUpToFlags code { suffixAppended f m n with flags, undefined } (managerReturned f m n) := by
  refine reachesUpToFlags_listing straight_managerReturnListing hcode.body_parts.2.2.2 rfl ?_
  have hkept (d : BitVec 32) (hd : d.toNat+4 ≤ 16) :
      word (store m.mem (f.buffer+BitVec.ofNat 32 n) [0x5c,0]) (m.regs.esp+d) = word m.mem (m.regs.esp+d) :=
    word_store_of_apart (happart.left (by decide) (by decide) hd).symm
  have hedi := hkept 8 (by decide)
  have hret := hkept 12 (by decide)
  rw [suffixAppended, managerReturned]
  obtain ⟨⟨eax,ecx,edx,ebx,esp,ebp,esi,edi⟩,flags,eip,mem,fs,undefined⟩ := m
  simp at hedi hret
  simp [managerReturnListing, hedi, hret, BitVec.add_assoc]

/-! What the checkpoint makes of the nine stops. -/

/-- The thread as the helper returns to the wrapper: `h` are the registers at the CALL of the helper,
`caller` those at the return of the file manager. The stack is as the prologue of the wrapper has left
it, apart from the words that the query uses. -/
structure FileManagerReadyCaller (s : FileManagerReadySpec) (l : CwdLockSpec) (seh : CwdSehSpec)
    (f : FileManagerEntrySpec) (saved : DispatchRegisters) (tib : TibWords) (before : StackWindow)
    (h caller : DispatchRegisters) (length : BitVec 32) (m : Machine) : Prop where
  eip : m.eip = l.selector.callAddress+23
  esp : m.regs.esp = h.esp-8
  ebp : m.regs.ebp = h.ebp
  eax : m.regs.eax = f.buffer
  ebx : m.regs.ebx = 0
  esi : m.regs.esi = 0
  edi : m.regs.edi = 24
  clear : m.flags &&& 0x500 = 0
  flags : (m.flags ^^^ h.flags) &&& ~~~0x108d5 = 0
  low : 65556 ≤ h.esp
  high : h.esp ≤ 0xffffffff-68
  aligned : h.esp.toNat%4 = 0
  frame : h.ebp = h.esp+44
  callerEsp : caller.esp = h.esp+68
  callerEbx : caller.ebx = 0
  callerEsi : caller.esi = 0
  callerEdi : caller.edi = 24
  savedRegisters : saved.ebp = caller.ebp ∧ saved.ebx = caller.ebx ∧ saved.esi = caller.esi ∧ saved.edi = caller.edi
  stack : ∀ i (hi : i < 20), 3 ≤ i → i ≠ 12 →
    (words m.mem m.regs.esp 20)[i] = (cwdSehStack seh 3 saved tib before)[i]
  /-- The file manager has saved `edi` over its return address. -/
  managerEdi : before[17] = caller.edi
  managerReturn : before[18] = f.manager.returnAddress
  short : 3 ≤ length ∧ length ≤ 126
  path : ∀ i < length.toNat, m.mem (f.buffer+BitVec.ofNat 32 i) ≠ 0
  ends : m.mem (f.buffer+BitVec.ofNat 32 length.toNat) = 0
  suffix : load m.mem f.suffix 2 = [0x5c,0]
  /-- The stack is apart from what is read and written elsewhere. -/
  slot : Apart (m.regs.esp-12) 92 (lockSlot l) 4
  iat : Apart (m.regs.esp-12) 92 (s.iat l) 4
  head : Apart (m.regs.esp-12) 92 m.fs 4
  buffer : Apart (m.regs.esp-12) 92 (f.buffer-4) 136
  suffixPlace : Apart (m.regs.esp-12) 92 f.suffix 2
  headBuffer : Apart m.fs 4 (f.buffer-4) 136
  headSuffix : Apart m.fs 4 f.suffix 2

/-- What LeaveCriticalSection leaves alone. -/
def readyKept (f : FileManagerEntrySpec) (m : Machine) : List (Address × ℕ) :=
  [(m.regs.esp-4,80),(f.buffer-4,136),(f.suffix,2)]

variable {saved h : DispatchRegisters} {tib : TibWords} {before : StackWindow} {length : BitVec 32}
  {m' : Machine}

/-- The wrapper returns behind the CALL in the file manager. -/
theorem wrapper_return (hspec : validCwdSehSpec seh f) :
    seh.wrapper.imageBase+seh.wrapper.callRva+5 = f.manager.targetAddress+16 := by
  unfold validCwdSehSpec at hspec
  split at hspec
  · simp only [Bool.and_eq_true, Bool.not_eq_true', Bool.or_eq_false_iff, decide_eq_false_iff_not,
      not_not] at hspec
    obtain ⟨⟨⟨⟨⟨⟨⟨⟨⟨⟨hbase,_⟩,_⟩,_⟩,hcall⟩,_⟩,_⟩,_⟩,_⟩,_⟩,_⟩ := hspec
    rw [hbase, hcall, FrameTargetSpec.targetAddress]
    ring
  · contradiction

theorem readyStack_of_returned (hspec : validCwdSehSpec seh f)
    (hcaller : FileManagerReadyCaller s l seh f saved tib before h caller length m)
    (hkept : load m'.mem (m.regs.esp-4) 80 = load (leaveEntered s l seh m).mem (m.regs.esp-4) 80) :
    ReadyStack l seh f caller (tib.get 0) m'.mem (m.regs.esp-4) := by
  obtain ⟨b,hb⟩ : ∃ b, m.regs.esp = b+16 := ⟨m.regs.esp-16,by ring⟩
  have hword (d v : BitVec 32) (hd : d.toNat+4 ≤ 80)
      (h : word (leaveEntered s l seh m).mem (b+(12+d)) = v) : word m'.mem (m.regs.esp-4+d) = v := by
    rw [word_of_load hkept hd, ← h, hb]
    congr 1
    ring
  have hstack (i : ℕ) (hi : i < 20) (hplace : 3 ≤ i ∧ i ≠ 12) :
      word m.mem (b+(16+BitVec.ofNat 32 (4*i))) = (cwdSehStack seh 3 saved tib before)[i] := by
    rw [← hcaller.stack i hi hplace.1 hplace.2, getElem_words, hb, BitVec.add_assoc]
  have hpushes : (leaveEntered s l seh m).mem = setWords m.mem (b+4) [(36,m.regs.eax),(60,-1),
      (20,l.selector.callAddress+38),(16,7),(12,cleanup l seh+7),(8,m.regs.ebp),
      (4,word m.mem (lockSlot l)),(0,s.unlock l+19)] := by
    rw [leaveEntered, hb, show b+16-12 = b+4 by ring]
  obtain ⟨hebp,hebx,hesi,hedi⟩ := hcaller.savedRegisters
  have hreturn := wrapper_return hspec
  rw [hpushes] at hword
  simp only [setWords, List.foldl_cons, List.foldl_nil, BitVec.add_assoc] at hword
  constructor
  · have hzero := hword 0 m.regs.ebp (by decide) (by simp (disch := decide) [word_setWord_add])
    rw [hcaller.ebp, hcaller.frame] at hzero
    rw [show m.regs.esp-4+56 = h.esp+44 by rw [hcaller.esp]; ring, ← hzero]
    simp
  · exact hword 4 _ (by decide) (by simp (disch := decide) [word_setWord_add])
  · exact hword 12 _ (by decide) (by simp (disch := decide) [word_setWord_add])
  · have hsaved := hstack 3 (by decide) (by decide)
    refine hword 16 _ (by decide) ?_
    simp (disch := decide) [word_setWord_add, cwdSehStack, hedi] at hsaved ⊢
    exact hsaved
  · have hsaved := hstack 4 (by decide) (by decide)
    refine hword 20 _ (by decide) ?_
    simp (disch := decide) [word_setWord_add, cwdSehStack, hesi] at hsaved ⊢
    exact hsaved
  · have hsaved := hstack 5 (by decide) (by decide)
    refine hword 24 _ (by decide) ?_
    simp (disch := decide) [word_setWord_add, cwdSehStack, hebx] at hsaved ⊢
    exact hsaved
  · exact hword 28 _ (by decide)
      (by simp (disch := decide) [word_setWord_add, hcaller.eax, FileManagerEntrySpec.buffer])
  · have hsaved := hstack 9 (by decide) (by decide)
    refine hword 40 _ (by decide) ?_
    simp (disch := decide) [word_setWord_add, cwdSehStack] at hsaved ⊢
    exact hsaved
  · have hsaved := hstack 13 (by decide) (by decide)
    refine hword 56 _ (by decide) ?_
    simp (disch := decide) [word_setWord_add, cwdSehStack, hebp] at hsaved ⊢
    exact hsaved
  · have hsaved := hstack 14 (by decide) (by decide)
    refine hword 60 _ (by decide) ?_
    rw [← hreturn]
    simp (disch := decide) [word_setWord_add, cwdSehStack] at hsaved ⊢
    exact hsaved
  · have hsaved := hstack 17 (by decide) (by decide)
    refine hword 72 _ (by decide) ?_
    simp (disch := decide) [word_setWord_add, cwdSehStack, hcaller.managerEdi] at hsaved ⊢
    exact hsaved
  · have hsaved := hstack 18 (by decide) (by decide)
    refine hword 76 _ (by decide) ?_
    simp (disch := decide) [word_setWord_add, cwdSehStack, hcaller.managerReturn] at hsaved ⊢
    exact hsaved

/-- The buffer is neither at the lower nor at the upper end of memory. -/
theorem buffer_bounds (h : fileManagerBody f = some body) : f.buffer ≠ 0 ∧ f.buffer ≤ 0xffffffff-128 := by
  dsimp only [fileManagerBody] at h
  split at h
  · cases h
  rename_i hguard
  simp only [Bool.or_eq_true, decide_eq_true_eq, not_or, Bool.not_eq_true', Bool.not_eq_false] at hguard
  obtain ⟨⟨⟨⟨⟨⟨⟨hvalid,hlow⟩,hhigh⟩,_⟩,_⟩,_⟩,_⟩,_⟩ := hguard
  simp only [validFrameTargetSpec, Bool.and_eq_true, Bool.not_eq_true', Bool.or_eq_false_iff,
    decide_eq_false_iff_not] at hvalid
  obtain ⟨⟨⟨⟨⟨⟨⟨⟨⟨⟨⟨_,_⟩,hsmall⟩,hlarge⟩,hend⟩,_⟩,_⟩,_⟩,_⟩,_⟩,_⟩,_⟩ := hvalid
  rw [FileManagerEntrySpec.buffer]
  constructor <;> bv_omega

/-- A stop is accepted when these registers are as the frame has them. -/
theorem readyFrame_of {stage : ℕ} {r : DispatchRegisters} (hbody : fileManagerBody f = some body)
    (hcaller : FileManagerReadyCaller s l seh f saved tib before h caller length m)
    (hstage : 1 ≤ stage ∧ stage ≤ 9) (hebx : r.ebx = 0) (hesi : r.esi = 0)
    (hflags : r.flags &&& otherFlags = m.flags &&& otherFlags)
    (hesp : r.esp = [h.esp-16,h.esp-20,h.esp-12,h.esp,h.esp+48,h.esp+52,h.esp+60,h.esp+60,h.esp+68].getD (stage-1) 0)
    (hebp : r.ebp = if stage ≤ 3 then h.esp-12 else if stage = 4 then h.ebp else caller.ebp)
    (hedi : r.edi = if stage = 7 || stage = 8 then f.buffer+length else caller.edi)
    (heax : if stage ≤ 2 then r.eax = 7 else if stage = 3 then True else if stage ≤ 6 then r.eax = f.buffer
      else r.eax = if stage = 7 then f.buffer &&& 0xffffff00 else (f.buffer &&& 0xffff0000) ||| 0x5c) :
    fileManagerReadyFrame stage h caller r f.buffer length := by
  obtain ⟨hzero,htop⟩ := buffer_bounds hbody
  have hclear : r.flags &&& 0x500 = 0 :=
    (and_eq_of_agree hflags (by decide)).trans hcaller.clear
  have hsame : (r.flags ^^^ h.flags) &&& ~~~0x108d5 = 0 :=
    xor_and_eq_zero.mpr (hflags.trans (xor_and_eq_zero.mp hcaller.flags))
  have hlow := hcaller.low
  have hhigh := hcaller.high
  obtain ⟨hshort,hlong⟩ := hcaller.short
  have hguard : ¬(stage < 1 || stage > 9 || h.esp < 65556 || h.esp > 0xffffffff-68 || h.esp.toNat%4 ≠ 0 ||
      h.ebp ≠ h.esp+44 || caller.esp ≠ h.esp+68 || f.buffer = 0 || f.buffer > 0xffffffff-128 ||
      length < 3 || length > 126 || caller.ebx ≠ 0 || caller.esi ≠ 0 || caller.edi ≠ 24 || r.ebx ≠ 0 ||
      r.esi ≠ 0 || r.flags &&& 0x500 ≠ 0 || (r.flags ^^^ h.flags) &&& ~~~0x108d5 ≠ 0) = true := by
    simp only [Bool.or_eq_true, decide_eq_true_eq, not_or, not_not, ne_eq]
    simp only [hzero, hcaller.aligned, hcaller.frame, hcaller.callerEsp, hcaller.callerEbx,
      hcaller.callerEsi, hcaller.callerEdi, hebx, hesi, hclear, hsame, not_false_eq_true, and_true]
    refine ⟨⟨⟨⟨⟨⟨by omega,by omega⟩,?_⟩,?_⟩,?_⟩,?_⟩,?_⟩
    all_goals bv_omega
  rw [fileManagerReadyFrame, if_neg hguard]
  simp only [hesp, hebp, hedi]
  simp
  split_ifs at heax ⊢ <;> simp_all

/-- The guarded buffer. -/
def directoryWindow (f : FileManagerEntrySpec) (m : Machine) : DirectoryWindow :=
  loadArray m.mem (f.buffer-4) 136

/-- The two checks of a stop: the registers, and the buffer with the suffix or without it. -/
structure ReadyAccepts (f : FileManagerEntrySpec) (h caller : DispatchRegisters) (length : BitVec 32)
    (start : Machine) (stage : ℕ) (now : Machine) : Prop where
  frame : fileManagerReadyFrame stage h caller (registers now) f.buffer length
  buffer : fileManagerReadyBuffer (directoryWindow f start) (directoryWindow f now) length (8 ≤ stage) = some true

theorem readyBuffer_of (hcaller : FileManagerReadyCaller s l seh f saved tib before h caller length m)
    {stage : ℕ} (hwindow : directoryWindow f m' =
      if 8 ≤ stage then suffixedWindow (directoryWindow f m) length else directoryWindow f m) :
    fileManagerReadyBuffer (directoryWindow f m) (directoryWindow f m') length (8 ≤ stage) = some true := by
  obtain ⟨hshort,hlong⟩ := hcaller.short
  have hn : length.toNat ≤ 126 := by bv_omega
  have hbyte (i : ℕ) (hi : i < 132) :
      (directoryWindow f m).toList.getD (i+4) 0 = m.mem (f.buffer+BitVec.ofNat 32 i) := by
    rw [List.getD_eq_getElem _ _ (by simp; omega), Vector.getElem_toList, directoryWindow, getElem_loadArray,
      BitVec.ofNat_add, show BitVec.ofNat 32 4 = 4 from rfl]
    congr 1
    ring
  have hends : ((directoryWindow f m).toList.drop 4).take length.toNat =
      (List.range length.toNat).map fun i => m.mem (f.buffer+BitVec.ofNat 32 i) := by
    refine List.ext_getElem (by simp; omega) fun i h1 h2 => ?_
    have hi : i < length.toNat := by simpa using h2
    rw [List.getElem_take, List.getElem_drop, List.getElem_map, List.getElem_range, ← hbyte i (by omega),
      List.getD_eq_getElem _ _ (by simp; omega)]
    simp only [add_comm 4 i]
  rw [fileManagerReadyBuffer_eq hshort hlong, hbyte _ (by omega), hcaller.ends, hends, hwindow]
  have hnone : ((List.range length.toNat).map fun i => m.mem (f.buffer+BitVec.ofNat 32 i)).contains 0 = false := by
    rw [← Bool.not_eq_true, List.contains_iff_mem, List.mem_map]
    intro h
    obtain ⟨i,hi,hzero⟩ := h
    exact hcaller.path i (List.mem_range.mp hi) hzero
  simp only [hnone, decide_true, Bool.not_false, Bool.true_and, decide_eq_true_eq]

/-- From the return of the helper on, the execution comes to the nine stops, and the checkpoint accepts
each of them; `m₃` is back from LeaveCriticalSection. -/
def FileManagerReadyDescribed (s : FileManagerReadySpec) (l : CwdLockSpec) (f : FileManagerEntrySpec)
    (head : BitVec 32) (h caller : DispatchRegisters) (length : BitVec 32)
    (code : Memory) (m : Machine) : Prop :=
  ∃ m₁ m₂, Reaches code m m₁ ∧ m₁.eip = s.unlock l+13 ∧ ReadyAccepts f h caller length m 1 m₁ ∧
    Reaches code m₁ m₂ ∧ m₂.eip = word m.mem (s.iat l) ∧ ReadyAccepts f h caller length m 2 m₂ ∧
    ∀ m₃, Returned 4 otherFlags (readyKept f m) m₂ m₃ →
      m₃.eip = s.unlock l+19 ∧ ReadyAccepts f h caller length m 3 m₃ ∧ ∃ m₄ m₅ m₆ m₇ m₈ m₉,
      (Reaches code m₃ m₄ ∧ m₄.eip = s.epilogue l ∧ ReadyAccepts f h caller length m 4 m₄) ∧
      (Reaches code m₄ m₅ ∧ m₅.eip = l.selector.callAddress+46 ∧ ReadyAccepts f h caller length m 5 m₅) ∧
      (Reaches code m₅ m₆ ∧ m₆.eip = f.manager.targetAddress+16 ∧ ReadyAccepts f h caller length m 6 m₆) ∧
      (Reaches code m₆ m₇ ∧ m₇.eip = f.manager.targetAddress+40 ∧ ReadyAccepts f h caller length m 7 m₇) ∧
      (Reaches code m₇ m₈ ∧ m₈.eip = f.manager.targetAddress+49 ∧ ReadyAccepts f h caller length m 8 m₈) ∧
      (Reaches code m₈ m₉ ∧ m₉.eip = f.manager.returnAddress ∧ ReadyAccepts f h caller length m 9 m₉) ∧
      -- The scan stops at the first zero.
      m₇.regs.edi = f.buffer+length ∧
      -- All is as the caller of the file manager has left it.
      m₉.regs.esp = caller.esp ∧ m₉.regs.ebp = caller.ebp ∧ m₉.regs.ebx = caller.ebx ∧
      m₉.regs.esi = caller.esi ∧ m₉.regs.edi = caller.edi ∧ m₉.fs = m.fs ∧ word m₉.mem m₉.fs = head

/-- A stop of the execution and what it has of the flags. -/
theorem stop_of_upToFlags {stop : Machine} (hreach : ReachesUpToFlags code m stop)
    (hkept : m.flags &&& otherFlags = m'.flags &&& otherFlags) : ∃ flags undefined,
    Reaches code m { stop with flags, undefined } ∧ flags &&& otherFlags = m'.flags &&& otherFlags := by
  obtain ⟨flags,undefined,hreach⟩ := hreach
  exact ⟨flags,undefined,hreach,hreach.kept.1.trans hkept⟩

/-- What has not been written since the start. -/
theorem directoryWindow_congr {stop : Machine} (hload : load stop.mem (f.buffer-4) 136 = load m.mem (f.buffer-4) 136) :
    directoryWindow f stop = directoryWindow f m := loadArray_congr hload

variable {m₃ m₅ : Machine}

/-- The wrapper's handler is gone, and the file manager's frame is `below` bytes up the stack; `m` is
the machine at the start. -/
structure HandlerRemoved (f : FileManagerEntrySpec) (h caller : DispatchRegisters) (head below : BitVec 32)
    (m m₅ : Machine) : Prop where
  esp : m₅.regs.esp+below = h.esp+60
  eax : m₅.regs.eax = f.buffer
  ebx : m₅.regs.ebx = caller.ebx
  ebp : m₅.regs.ebp = caller.ebp
  esi : m₅.regs.esi = caller.esi
  edi : m₅.regs.edi = caller.edi
  fs : m₅.fs = m.fs
  flags : m₅.flags &&& otherFlags = m.flags &&& otherFlags
  managerEdi : word m₅.mem (m₅.regs.esp+below) = caller.edi
  managerReturn : word m₅.mem (m₅.regs.esp+below+4) = f.manager.returnAddress
  chain : word m₅.mem m.fs = head
  window : load m₅.mem (f.buffer-4) 136 = load m.mem (f.buffer-4) 136
  suffix : load m₅.mem f.suffix 2 = [0x5c,0]

/-- From the return of the function on. -/
theorem handlerRemoved (hcode : FileManagerReadyLoaded s q l seh f c body code)
    (hcaller : FileManagerReadyCaller s l seh f saved tib before h caller length m)
    (heip : m₃.eip = s.unlock l+19) (hesp : m₃.regs.esp = m.regs.esp-4)
    (hstack : ReadyStack l seh f caller head m₃.mem m₃.regs.esp)
    (hflags : m₃.flags &&& otherFlags = m.flags &&& otherFlags) (hfs : m₃.fs = m.fs)
    (hwindow : load m₃.mem (f.buffer-4) 136 = load m.mem (f.buffer-4) 136)
    (hsuffix : load m₃.mem f.suffix 2 = [0x5c,0])
    (hregs : m₃.regs.ebx = 0 ∧ m₃.regs.esi = 0 ∧ m₃.regs.edi = caller.edi) : ∃ m₄ m₅,
      (Reaches code m₃ m₄ ∧ m₄.eip = s.epilogue l ∧ ReadyAccepts f h caller length m 4 m₄) ∧
      (Reaches code m₄ m₅ ∧ m₅.eip = l.selector.callAddress+46 ∧ ReadyAccepts f h caller length m 5 m₅) ∧
      HandlerRemoved f h caller head 12 m m₅ ∧ word m₅.mem m₅.regs.esp = f.manager.targetAddress+16 := by
  have hplace : m₃.regs.esp = m.regs.esp-12+8 := hesp.trans (by ring)
  have hhead : Apart m₃.regs.esp 80 m₃.fs 4 := by
    rw [hplace, hfs]
    exact hcaller.head.left (by decide) (by decide) (by decide)
  have hbuffer : Apart m₃.regs.esp 80 (f.buffer-4) 136 := by
    rw [hplace]
    exact hcaller.buffer.left (by decide) (by decide) (by decide)
  have hsuffixPlace : Apart m₃.regs.esp 80 f.suffix 2 := by
    rw [hplace]
    exact hcaller.suffixPlace.left (by decide) (by decide) (by decide)
  have hunlocked := ((reaches_unlockReturned hcode heip hstack).trans
    (reaches_cleanupReturned hcode hstack)).trans (reaches_epilogueEntered hcode)
  obtain ⟨flags₄,undefined₄,hreach₄,hflags₄⟩ := @stop_of_upToFlags code m₃ m _ hunlocked hflags
  obtain ⟨flags₅,undefined₅,hreach₅,hflags₅⟩ := @stop_of_upToFlags code _ m _
    (reaches_epilogueReturned hcode hstack hhead flags₄ undefined₄) hflags₄
  -- Behind it the memory of the process is the same but for the stack and the chain of handlers.
  obtain ⟨hmanager,hedi,hreturn,hchain⟩ := epilogueReturned_words hstack hhead
    (rfl : (epilogueReturned l caller head m₃).mem = _)
  have hwindow₅ : load (epilogueReturned l caller head m₃).mem (f.buffer-4) 136 = load m.mem (f.buffer-4) 136 :=
    (epilogueReturned_load (by decide) hbuffer (by rw [hfs]; exact hcaller.headBuffer)).trans hwindow
  have hsuffix₅ : load (epilogueReturned l caller head m₃).mem f.suffix 2 = [0x5c,0] :=
    (epilogueReturned_load (by decide) hsuffixPlace (by rw [hfs]; exact hcaller.headSuffix)).trans hsuffix
  have hesp' : m₃.regs.esp = h.esp-12 := by
    rw [hesp, hcaller.esp]
    ring
  have hresult : word m₃.mem (m₃.regs.esp+28) = f.buffer := hstack.result
  have hfive : m₃.regs.esp+60 = h.esp+48 := by
    rw [hesp']
    ring
  refine ⟨_,_,⟨hreach₄,rfl,?_,?_⟩,⟨hreach₅,rfl,?_,?_⟩,⟨?_,hresult,rfl,rfl,rfl,rfl,hfs,hflags₅,?_,?_,?_,
    hwindow₅,hsuffix₅⟩,hmanager⟩
  · refine readyFrame_of hcode.manager hcaller (by decide) hregs.1 hregs.2.1 hflags₄ ?_ ?_ hregs.2.2 hresult
    · change m₃.regs.esp+12 = h.esp
      rw [hesp']
      ring
    · change m₃.regs.esp+56 = h.ebp
      rw [hesp', hcaller.frame]
      ring
  · apply readyBuffer_of hcaller
    apply directoryWindow_congr
    exact (load_setWord_of_apart (hbuffer.left (by decide) (by decide) (by decide))).trans hwindow
  · exact readyFrame_of hcode.manager hcaller (by decide) hcaller.callerEbx hcaller.callerEsi hflags₅ hfive rfl rfl
      hresult
  · exact readyBuffer_of hcaller (directoryWindow_congr hwindow₅)
  · change m₃.regs.esp+60+12 = h.esp+60
    rw [hesp']
    ring
  · have htop : m₃.regs.esp+60+12 = m₃.regs.esp+72 := by ring
    exact (congrArg (word (epilogueReturned l caller head m₃).mem) htop).trans hedi
  · have htop : m₃.regs.esp+60+12+4 = m₃.regs.esp+76 := by ring
    exact (congrArg (word (epilogueReturned l caller head m₃).mem) htop).trans hreturn
  · rw [← hfs]
    exact hchain

/-- The wrapper returns. -/
theorem managerEntered (hcode : FileManagerReadyLoaded s q l seh f c body code)
    (hcaller : FileManagerReadyCaller s l seh f saved tib before h caller length m)
    (hdone : HandlerRemoved f h caller head 12 m m₅) (heip : m₅.eip = l.selector.callAddress+46)
    (hreturn : word m₅.mem m₅.regs.esp = f.manager.targetAddress+16) : ∃ m₆,
      (Reaches code m₅ m₆ ∧ m₆.eip = f.manager.targetAddress+16 ∧ ReadyAccepts f h caller length m 6 m₆) ∧
      HandlerRemoved f h caller head 8 m m₆ := by
  obtain ⟨hesp,heax,hebx,hebp,hesi,hedi,hfs,hflags,hmanagerEdi,hmanagerReturn,hchain,hwindow,hsuffix⟩ := hdone
  obtain ⟨flags₆,undefined₆,hreach₆,hflags₆⟩ := @stop_of_upToFlags code _ m _
    (reaches_wrapperReturned hcode heip hreturn) hflags
  have htop : m₅.regs.esp+4+8 = m₅.regs.esp+12 := by ring
  refine ⟨_,⟨hreach₆,rfl,?_,?_⟩,⟨htop.trans hesp,heax,hebx,hebp,hesi,hedi,hfs,hflags₆,?_,?_,hchain,hwindow,hsuffix⟩⟩
  · refine readyFrame_of hcode.manager hcaller (by decide) (hebx.trans hcaller.callerEbx)
      (hesi.trans hcaller.callerEsi) hflags₆ ?_ hebp hedi heax
    change m₅.regs.esp+4 = h.esp+52
    rw [show m₅.regs.esp = m₅.regs.esp+12-12 by ring, hesp]
    ring
  · exact readyBuffer_of hcaller (directoryWindow_congr hwindow)
  · exact (congrArg (word m₅.mem) htop).trans hmanagerEdi
  · exact (congrArg (fun a => word m₅.mem (a+4)) htop).trans hmanagerReturn

/-- The file manager scans the directory and appends its suffix. -/
theorem managerReady {m₆ : Machine} (hcode : FileManagerReadyLoaded s q l seh f c body code)
    (hcaller : FileManagerReadyCaller s l seh f saved tib before h caller length m)
    (hdone : HandlerRemoved f h caller head 8 m m₆) (heip : m₆.eip = f.manager.targetAddress+16) : ∃ m₇ m₈ m₉,
      (Reaches code m₆ m₇ ∧ m₇.eip = f.manager.targetAddress+40 ∧ ReadyAccepts f h caller length m 7 m₇) ∧
      (Reaches code m₇ m₈ ∧ m₈.eip = f.manager.targetAddress+49 ∧ ReadyAccepts f h caller length m 8 m₈) ∧
      (Reaches code m₈ m₉ ∧ m₉.eip = f.manager.returnAddress ∧ ReadyAccepts f h caller length m 9 m₉) ∧
      m₇.regs.edi = f.buffer+length ∧
      m₉.regs.esp = caller.esp ∧ m₉.regs.ebp = caller.ebp ∧ m₉.regs.ebx = caller.ebx ∧
      m₉.regs.esi = caller.esi ∧ m₉.regs.edi = caller.edi ∧ m₉.fs = m.fs ∧ word m₉.mem m₉.fs = head := by
  obtain ⟨hesp,heax,hebx,hebp,hesi,hedi,hfs,hflags,hmanagerEdi,hmanagerReturn,hchain,hwindow,hsuffix⟩ := hdone
  obtain ⟨hshort,hlong⟩ := hcaller.short
  have hn : length.toNat ≤ 126 := by bv_omega
  have hn' : (BitVec.ofNat 32 (length.toNat+4)).toNat = length.toNat+4 := Nat.mod_eq_of_lt (by omega)
  have hplace (i : ℕ) : f.buffer+BitVec.ofNat 32 i = f.buffer-4+BitVec.ofNat 32 (i+4) := by
    rw [BitVec.ofNat_add, show BitVec.ofNat 32 4 = 4 from rfl]
    ring
  have hbyte (i : ℕ) (hi : i ≤ 126) : m₆.mem (f.buffer+BitVec.ofNat 32 i) = m.mem (f.buffer+BitVec.ofNat 32 i) := by
    rw [hplace]
    exact apply_of_load hwindow (by omega)
  have hpath (i : ℕ) (hi : i < length.toNat) : m₆.mem (f.buffer+BitVec.ofNat 32 i) ≠ 0 := by
    rw [hbyte i (by omega)]
    exact hcaller.path i hi
  have hend : f.buffer-1+BitVec.ofNat 32 (length.toNat+1) = f.buffer+length := by
    rw [BitVec.ofNat_add, BitVec.ofNat_toNat, BitVec.setWidth_eq, show BitVec.ofNat 32 1 = 1 from rfl]
    ring
  have hsuffixed : loadArray (store m₆.mem (f.buffer+BitVec.ofNat 32 length.toNat) [0x5c,0]) (f.buffer-4) 136 =
      suffixedWindow (directoryWindow f m) length := by
    have hsame : loadArray m₆.mem (f.buffer-4) 136 = directoryWindow f m := loadArray_congr hwindow
    rw [hplace, loadArray_store (by decide) (by simp; omega), hsame]
    rfl
  have hstart : m₆.regs.esp = m.regs.esp-12+72 := by
    rw [show m₆.regs.esp = m₆.regs.esp+8-8 by ring, hesp, hcaller.esp]
    ring
  have htail : Apart m₆.regs.esp 16 (f.buffer+BitVec.ofNat 32 length.toNat) 2 := by
    rw [hplace, hstart]
    exact hcaller.buffer.sub (by decide) (by decide) (by decide) (by rw [hn']; omega)
  have hchain₉ : word (store m₆.mem (f.buffer+BitVec.ofNat 32 length.toNat) [0x5c,0]) m.fs = head := by
    rw [hplace, word_store_of_apart, hchain]
    exact hcaller.headBuffer.symm.left (by decide) (by decide) (by rw [hn']; simp; omega)
  have hebx₀ := hebx.trans hcaller.callerEbx
  have hesi₀ := hesi.trans hcaller.callerEsi
  have hreturn : m₆.regs.esp+12 = m₆.regs.esp+8+4 := by ring
  have htop : m₆.regs.esp+16 = h.esp+68 := by
    rw [show m₆.regs.esp+16 = m₆.regs.esp+8+8 by ring, hesp]
    ring
  obtain ⟨flags₇,undefined₇,hreach₇,hflags₇⟩ := @stop_of_upToFlags code m₆ m _
    (reaches_scanned_end hcode heip hpath ((hbyte _ hn).trans hcaller.ends)) hflags
  obtain ⟨flags₈,undefined₈,hreach₈,hflags₈⟩ := @stop_of_upToFlags code _ m _
    (reaches_suffixAppended hcode hsuffix flags₇ undefined₇) hflags₇
  obtain ⟨flags₉,undefined₉,hreach₉,hflags₉⟩ := @stop_of_upToFlags code _ m _
    (reaches_managerReturned hcode htail flags₈ undefined₈) hflags₈
  refine ⟨_,_,_,⟨hreach₇,rfl,?_,?_⟩,⟨hreach₈,rfl,?_,?_⟩,⟨hreach₉,?_,?_,?_⟩,hend,htop.trans hcaller.callerEsp.symm,
    hebp,hebx,hesi,hmanagerEdi,hfs,?_⟩
  · exact readyFrame_of hcode.manager hcaller (by decide) hebx₀ hesi₀ hflags₇ hesp hebp hend
      (congrArg (· &&& 0xffffff00) heax)
  · exact readyBuffer_of hcaller (directoryWindow_congr hwindow)
  · refine readyFrame_of hcode.manager hcaller (by decide) hebx₀ hesi₀ hflags₈ hesp hebp ?_
      (congrArg (fun v => (v &&& 0xffff0000) ||| 0x5c) heax)
    change f.buffer+BitVec.ofNat 32 length.toNat = f.buffer+length
    rw [BitVec.ofNat_toNat, BitVec.setWidth_eq]
  · exact readyBuffer_of hcaller hsuffixed
  · exact (congrArg (word m₆.mem) hreturn).trans hmanagerReturn
  · exact readyFrame_of hcode.manager hcaller (by decide) hebx₀ hesi₀ hflags₉ htop hebp hmanagerEdi
      (congrArg (fun v => (v &&& 0xffff0000) ||| 0x5c) heax)
  · exact readyBuffer_of hcaller hsuffixed
  · exact (congrArg (word (managerReturned f m₆ length.toNat).mem) hfs).trans hchain₉

theorem file_manager_ready_describes_code (hspec : validCwdSehSpec seh f)
    (hcode : FileManagerReadyLoaded s q l seh f c body code)
    (hcaller : FileManagerReadyCaller s l seh f saved tib before h caller length m) :
    FileManagerReadyDescribed s l f (tib.get 0) h caller length code m := by
  have hebp : m.regs.ebp = m.regs.esp+52 := by
    rw [hcaller.ebp, hcaller.frame, hcaller.esp]
    ring
  have hpush := (((reaches_cleanupEntered hcode hcaller.eip hebp).trans
    (reaches_unlockEntered hcode)).trans (reaches_unlockFramed hcode)).trans
    (reaches_objectPushed hcode hcaller.slot)
  obtain ⟨flags₁,undefined₁,hreach₁,hflags₁⟩ := @stop_of_upToFlags code m m _ hpush rfl
  obtain ⟨flags₂,undefined₂,hreach₂,hflags₂⟩ :=
    @stop_of_upToFlags code _ m _ (reaches_leaveEntered hcode hcaller.iat flags₁ undefined₁) hflags₁
  have hedge : (24 : BitVec 32) = caller.edi := hcaller.callerEdi.symm
  have hfirst (stage : ℕ) (hstage : stage < 8) (stop : Machine) (ws : List (BitVec 32 × BitVec 32))
      (hws : ∀ w ∈ ws, w.1.toNat+4 ≤ 92) (hmem : stop.mem = setWords m.mem (m.regs.esp-12) ws) :
      fileManagerReadyBuffer (directoryWindow f m) (directoryWindow f stop) length (8 ≤ stage) = some true := by
    apply readyBuffer_of hcaller
    rw [if_neg (not_le.mpr hstage)]
    apply directoryWindow_congr
    rw [hmem, load_setWords_of_stretch hcaller.buffer (by decide) hws]
  refine ⟨_,_,hreach₁,rfl,⟨?_,hfirst 1 (by decide) _ _ (by simp) rfl⟩,hreach₂,rfl,
    ⟨?_,hfirst 2 (by decide) _ _ (by simp) rfl⟩,fun m₃ hreturned => ?_⟩
  · refine readyFrame_of hcode.manager hcaller (by decide) hcaller.ebx hcaller.esi hflags₁ ?_ ?_ ?_ rfl
    · change m.regs.esp-8 = h.esp-16
      rw [hcaller.esp]
      ring
    · change m.regs.esp-4 = h.esp-12
      rw [hcaller.esp]
      ring
    · exact hcaller.edi.trans hedge
  · refine readyFrame_of hcode.manager hcaller (by decide) hcaller.ebx hcaller.esi hflags₂ ?_ ?_ ?_ rfl
    · change m.regs.esp-12 = h.esp-20
      rw [hcaller.esp]
      ring
    · change m.regs.esp-4 = h.esp-12
      rw [hcaller.esp]
      ring
    · exact hcaller.edi.trans hedge
  · obtain ⟨hret,hesp₃,hebx₃,hebp₃,hesi₃,hedi₃,hfs₃,hflags₃,hmemory⟩ := hreturned
    simp only [readyKept, List.forall_mem_cons] at hmemory
    obtain ⟨hstack,hbuffer,hsuffix,_⟩ := hmemory
    have hready := readyStack_of_returned hspec hcaller hstack
    have hesp : m₃.regs.esp = m.regs.esp-4 := by
      rw [hesp₃]
      change m.regs.esp-12+4+4 = m.regs.esp-4
      ring
    have hwindow : load m₃.mem (f.buffer-4) 136 = load m.mem (f.buffer-4) 136 :=
      hbuffer.trans (load_setWords_of_stretch hcaller.buffer (by decide) (by simp))
    have hload : load m₃.mem f.suffix 2 = [0x5c,0] :=
      (hsuffix.trans (load_setWords_of_stretch hcaller.suffixPlace (by decide) (by simp))).trans hcaller.suffix
    have heip : m₃.eip = s.unlock l+19 := by
      rw [hret]
      have htop := @word_setWord_self (setWords m.mem (m.regs.esp-12) [(36,m.regs.eax),(60,-1),
        (20,l.selector.callAddress+38),(16,7),(12,cleanup l seh+7),(8,m.regs.ebp),
        (4,word m.mem (lockSlot l))]) (m.regs.esp-12+0) (s.unlock l+19)
      have hzero : m.regs.esp-12 = m.regs.esp-12+0 := by ring
      exact (congrArg (word (leaveEntered s l seh m).mem) hzero).trans htop
    refine ⟨heip,⟨?_,?_⟩,?_⟩
    · refine readyFrame_of hcode.manager hcaller (by decide) (hebx₃.trans hcaller.ebx) (hesi₃.trans hcaller.esi)
        (hflags₃.trans hflags₂) ?_ ?_ (hedi₃.trans (hcaller.edi.trans hedge)) trivial
      · change m₃.regs.esp = h.esp-12
        rw [hesp, hcaller.esp]
        ring
      · change m₃.regs.ebp = h.esp-12
        rw [hebp₃]
        change m.regs.esp-4 = h.esp-12
        rw [hcaller.esp]
        ring
    · exact readyBuffer_of hcaller (directoryWindow_congr hwindow)
    · rw [← hesp] at hready
      obtain ⟨m₄,m₅,hstop₄,hstop₅,hdone₅,hmanager⟩ := handlerRemoved hcode hcaller heip hesp hready
        (hflags₃.trans hflags₂) hfs₃ hwindow hload
        ⟨hebx₃.trans hcaller.ebx,hesi₃.trans hcaller.esi,hedi₃.trans (hcaller.edi.trans hedge)⟩
      obtain ⟨m₆,hstop₆,hdone₆⟩ := managerEntered hcode hcaller hdone₅ hstop₅.2.1 hmanager
      obtain ⟨m₇,m₈,m₉,hrest⟩ := managerReady hcode hcaller hdone₆ hstop₆.2.1
      exact ⟨m₄,m₅,m₆,m₇,m₈,m₉,hstop₄,hstop₅,hstop₆,hrest⟩

/-! The reviewed image, and a thread in it whose current directory is `C:\`. -/

def reviewedCwdReturnSpec : CwdReturnSpec where
  checkerRva := 4369108
  returnPrefix := #v[0x83,0xc4,0x0c,0x89,0x45,0xe4,0x83,0x4d,0xfc,0xff,0xe8,9,0,0,0,0x8b]

def reviewedFileManagerReadySpec : FileManagerReadySpec where
  unlockRva := 4369682
  iatRva := 4554984
  epilogueRva := 4359963
  function :=
    { rva := 341088
      prefixBytes := #v[0x8b,0xff,0x55,0x8b,0xec,0x83,0xec,8,0x53,0x56,0x8b,0x75,8,0x57,0x83,0x46,8,0xff,
        0x0f,0x85]
      preferredBase := 1260912640 }

def reviewedFileManagerReadyCode : FileManagerReadyCode where
  wrapper := #v[0x83,0xc4,0x0c,0x89,0x45,0xe4,0x83,0x4d,0xfc,0xff,0xe8,9,0,0,0,0x8b,0x45,0xe4,
    0xe8,0x4e,0x18,0xff,0xff,0xc3]
  cleanup := #v[0x6a,7,0xe8,0x3d,0x3e,0xff,0xff,0x59,0xc3]
  unlock := #v[0x55,0x8b,0xec,0x8b,0x45,8,0xff,0x34,0xc5,0xc0,0x31,0x8e,0,0xff,0x15,0xe8,0x80,0x85,0,0x5d,0xc3]
  epilogue := sehEpilogueRaw

def reviewedFileManagerBody : Vector UInt8 51 :=
  #v[0x57,0x68,0x80,0,0,0,0x68,0xe0,0x1a,0xb7,0,0xe8,0x91,0xe7,0x2f,0,
    0xbf,0xe0,0x1a,0xb7,0,0x83,0xc4,8,0x4f,0x8d,0xa4,0x24,0,0,0,0,
    0x8a,0x47,1,0x47,0x84,0xc0,0x75,0xf8,0x66,0xa1,0x7c,0x9f,0x85,0,0x66,0x89,7,0x5f,0xc3]

def reviewedFileManagerReadyMemory : Memory :=
  let memory := store (fun _ => 0) (reviewedCwdLockSpec.selector.callAddress+23)
    reviewedFileManagerReadyCode.wrapper.toList
  let memory := store memory (cleanup reviewedCwdLockSpec reviewedCwdSehSpec)
    reviewedFileManagerReadyCode.cleanup.toList
  let memory := store memory (reviewedFileManagerReadySpec.unlock reviewedCwdLockSpec)
    reviewedFileManagerReadyCode.unlock.toList
  let memory := store memory (reviewedFileManagerReadySpec.epilogue reviewedCwdLockSpec)
    reviewedFileManagerReadyCode.epilogue.toList
  store memory reviewedFileManagerSpec.manager.targetAddress reviewedFileManagerBody.toList

/-- At the CALL of the helper, and when the file manager returns. -/
def reviewedHelperRegisters : DispatchRegisters where
  esp := 0x19fec0
  eax := 7
  ebx := 0
  ecx := 1
  edx := 2
  esi := 0
  edi := 24
  ebp := 0x19feec
  flags := 0x246

def reviewedManagerRegisters : DispatchRegisters :=
  { reviewedHelperRegisters with esp := 0x19ff04, ebp := 0x19ff74 }

/-- The stack before the prologue of the wrapper has run. -/
def reviewedWrapperStack : StackWindow :=
  ((Vector.replicate 20 (0 : BitVec 32)).set 17 24).set 18 reviewedFileManagerSpec.manager.returnAddress

def reviewedTib : TibWords := #v[0xffffffff,0x1a0000,0x100000,0,0,0,0x7ffde000]

def reviewedHelperThread : Machine where
  regs := ⟨0xb71ae0,1,2,0,0x19feb8,0x19feec,0,24⟩
  flags := 0x246
  eip := reviewedCwdLockSpec.selector.callAddress+23
  mem := store (store (setWords (setWord (fun _ => 0) 0x8580e8 0x77a4d000) 0x19feb8
      ((cwdSehStack reviewedCwdSehSpec 3 { reviewedManagerRegisters with esp := 0x19fef4 } reviewedTib
        reviewedWrapperStack).toList.zipIdx.map fun x => (BitVec.ofNat 32 (4*x.2),x.1)))
    0xb71ae0 [0x43,0x3a,0x5c,0]) 0x859f7c [0x5c,0]
  fs := 0x7ffde000
  undefined := fun _ => 0

theorem fileManagerReadyLoaded_reviewed : FileManagerReadyLoaded reviewedFileManagerReadySpec
    reviewedCwdReturnSpec reviewedCwdLockSpec reviewedCwdSehSpec reviewedFileManagerSpec
    reviewedFileManagerReadyCode reviewedFileManagerBody reviewedFileManagerReadyMemory := by
  constructor <;> decide

theorem fileManagerReadyCaller_reviewed : FileManagerReadyCaller reviewedFileManagerReadySpec
    reviewedCwdLockSpec reviewedCwdSehSpec reviewedFileManagerSpec
    { reviewedManagerRegisters with esp := 0x19fef4 } reviewedTib reviewedWrapperStack
    reviewedHelperRegisters reviewedManagerRegisters 3 reviewedHelperThread := by
  constructor <;> decide

theorem file_manager_ready_describes_reviewed_code : FileManagerReadyDescribed reviewedFileManagerReadySpec
    reviewedCwdLockSpec reviewedFileManagerSpec (reviewedTib.get 0) reviewedHelperRegisters
    reviewedManagerRegisters 3 reviewedFileManagerReadyMemory reviewedHelperThread ∧
    ∃ m₂ m₉, Reaches reviewedFileManagerReadyMemory reviewedHelperThread m₂ ∧
      m₂.eip = 0x77a4d000 ∧ Reaches reviewedFileManagerReadyMemory (backFrom 4 1 m₂.mem m₂) m₉ ∧
      m₉.eip = reviewedFileManagerSpec.manager.returnAddress ∧ m₉.regs.esp = 0x19ff04 ∧ m₉.regs.edi = 24 ∧
      word m₉.mem 0x7ffde000 = 0xffffffff := by
  have hdescribed := file_manager_ready_describes_code (by decide) fileManagerReadyLoaded_reviewed
    fileManagerReadyCaller_reviewed
  refine ⟨hdescribed,?_⟩
  obtain ⟨m₁,m₂,hfirst,_,_,hsecond,hiat,_,hback⟩ := hdescribed
  -- LeaveCriticalSection changes nothing but its answer.
  have hreturned := @returned_backFrom 4 1 otherFlags m₂.mem
    (readyKept reviewedFileManagerSpec reviewedHelperThread) m₂ fun _ _ => rfl
  obtain ⟨_,_,m₄,m₅,m₆,m₇,m₈,m₉,hfourth,hfifth,hsixth,hseventh,heighth,hninth,hends⟩ := hback _ hreturned
  obtain ⟨_,hesp,_,_,_,hedi,hfs,hhead⟩ := hends
  have hleft := (((((hfourth.1.trans hfifth.1).trans hsixth.1).trans hseventh.1).trans heighth.1).trans hninth.1)
  have hentered : m₂.eip = 0x77a4d000 := hiat.trans (by decide)
  rw [hfs] at hhead
  exact ⟨m₂,m₉,hfirst.trans hsecond,hentered,hleft,hninth.2.1,hesp,hedi,hhead⟩

end Saex
