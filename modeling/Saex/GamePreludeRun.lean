import Saex.GamePrelude
import Saex.ApplicationRoutingRun
import Saex.FileManagerReadyRun
import Saex.Ia32Bytes
import Mathlib.Tactic.IntervalCases

/-! The initializer's first calls, executed: the empty helper, the one that sets the three flags,
and the file manager up to its CALL for the current directory. The frames of the two checkpoints
accept just the registers and the stack that the execution has at their stops. -/
namespace Saex
open LittleEndian WrappedMemory Ia32

/-! What the bytes of the two bodies stand for. -/

def localisationListing (a : BitVec 32) : ByteListing :=
  [([0x32,0xc0],.xor .al .al),
   ([0xc6,0x05]++write 4 a++[1],.other (.mov (.mem { displacement := dword a }) (.imm 1) .byte)),
   (0xa2 :: write 4 (a+1),.store { displacement := dword (a+1) } .al),
   (0xa2 :: write 4 (a+2),.store { displacement := dword (a+2) } .al),
   ([0xc3],.other .ret)]

/-- Up to the CALL for the current directory. -/
def directoryArgumentsListing (buffer : BitVec 32) : Listing :=
  [([0x57],.push (.reg .edi)),
   ([0x68,0x80,0,0,0],.push (.imm 0x80)),
   (0x68 :: write 4 buffer,.push (.imm (dword buffer)))]

def emptyListing : Listing := [([0xc3],.ret)]

theorem straight_localisationListing (a : BitVec 32) : StraightByte (localisationListing a) := by
  repeat refine straightByte_cons ⟨by simp,fun _ => rfl⟩ trivial ?_
  exact straightByte_singleton ⟨by simp,fun _ => rfl⟩

theorem straight_directoryArgumentsListing (buffer : BitVec 32) :
    Straight (directoryArgumentsListing buffer) := by
  repeat refine straight_cons ⟨by simp,fun _ => rfl⟩ trivial ?_
  exact straight_singleton ⟨by simp,fun _ => rfl⟩

theorem straight_emptyListing : Straight emptyListing := straight_singleton ⟨by simp,fun _ => rfl⟩

variable {s : GamePreludeSpec} {p : ApplicationRoutingSpec} {f : FileManagerEntrySpec}
  {body : Vector UInt8 20} {managerBody : Vector UInt8 51} {code : Memory} {m : Machine}

def GamePreludeSpec.flagsAddress (s : GamePreludeSpec) : Address :=
  s.localisation.imageBase+s.flagsRva

theorem gamePreludeBody_eq (h : gamePreludeBody s = some body) :
    body.toList = byteEncoding (localisationListing s.flagsAddress) := by
  dsimp only [gamePreludeBody] at h
  split at h
  · contradiction
  rw [← Option.some.inj h, toList_writeDword (by decide), toList_writeDword (by decide),
    toList_writeDword (by decide)]
  rfl

theorem fileManagerBody_arguments (h : fileManagerBody f = some managerBody) : ∃ rest,
    managerBody.toList =
      encoding (directoryArgumentsListing (f.manager.imageBase+f.bufferRva))++rest := by
  dsimp only [fileManagerBody] at h
  split at h
  · contradiction
  split at h
  · contradiction
  rw [← Option.some.inj h]
  rw [toList_writeDword (by decide), toList_writeDword (by decide), toList_writeDword (by decide),
    toList_writeDword (by decide)]
  exact ⟨_,rfl⟩

/-! Where the calls are. -/

/-- How the calls of the initializer follow one another. -/
structure PreludeLayout (s : GamePreludeSpec) (p : ApplicationRoutingSpec) : Prop where
  initializer : validFrameTargetSpec p.initializer
  empty : validFrameTargetSpec s.empty
  localisation : validFrameTargetSpec s.localisation
  emptyBase : s.empty.imageBase = p.initializer.imageBase
  localisationBase : s.localisation.imageBase = p.initializer.imageBase
  emptyCall : s.empty.callAddress = p.initializer.targetAddress
  localisationCall : s.localisation.callAddress = s.empty.returnAddress
  calls : p.initializer.targetPrefix.toList =
    s.empty.call.toList++(s.localisation.call.toList++s.stopPrefix.toList.take 6)
  ret : s.empty.targetPrefix.toList = 0xc3 :: List.replicate 15 0x90

theorem preludeLayout_of_valid (h : validGamePreludeSpec s p) : PreludeLayout s p := by
  unfold validGamePreludeSpec at h
  split at h
  swap
  · contradiction
  rw [Bool.and_eq_true] at h
  replace h := h.1
  simp only [Bool.not_eq_true', Bool.or_eq_false_iff, decide_eq_false_iff_not, not_not,
    Bool.not_eq_false'] at h
  obtain ⟨⟨⟨⟨⟨⟨⟨⟨⟨⟨⟨⟨⟨hf,ha⟩,hb⟩,habase⟩,hbbase⟩,_⟩,_⟩,hacall⟩,hbcall⟩,hret⟩,hfirst⟩,hsecond⟩,hstop⟩,_⟩ := h
  refine ⟨hf,ha,hb,habase,hbbase,?_,?_,?_,hret⟩
  · rw [FrameTargetSpec.callAddress, FrameTargetSpec.targetAddress, habase, hacall]
  · rw [FrameTargetSpec.callAddress, FrameTargetSpec.returnAddress, hbbase, habase, hbcall]
    ring
  · rw [hfirst, hsecond, hstop]
    conv_lhs => rw [← List.take_append_drop 5 p.initializer.targetPrefix.toList,
      ← List.take_append_drop 5 (p.initializer.targetPrefix.toList.drop 5), List.drop_drop]

/-- The call that follows is that of the file manager. -/
structure ManagerLayout (f : FileManagerEntrySpec) (s : GamePreludeSpec) (p : ApplicationRoutingSpec) :
    Prop where
  prelude : validGamePreludeSpec s p
  base : f.manager.imageBase = p.initializer.imageBase
  call : f.manager.callAddress = s.localisation.returnAddress
  bytes : f.manager.call.toList = s.stopPrefix.toList.take 5

theorem managerLayout_of_valid (h : validFileManagerEntrySpec f s p) : ManagerLayout f s p := by
  unfold validFileManagerEntrySpec at h
  split at h
  swap
  · contradiction
  rw [Bool.and_eq_true] at h
  replace h := h.1
  simp only [Bool.not_eq_true', Bool.or_eq_false_iff, decide_eq_false_iff_not, not_not,
    Bool.not_eq_false'] at h
  obtain ⟨⟨⟨⟨⟨⟨hprelude,hbase⟩,_⟩,hcall⟩,hbytes⟩,_⟩,_⟩ := h
  refine ⟨hprelude,hbase,?_,hbytes⟩
  rw [FrameTargetSpec.callAddress, FrameTargetSpec.returnAddress, hbase, hcall,
    (preludeLayout_of_valid hprelude).localisationBase]
  ring

theorem validFrameTargetSpec_of_fileManagerBody (h : fileManagerBody f = some managerBody) :
    validFrameTargetSpec f.manager := by
  dsimp only [fileManagerBody] at h
  split at h
  · contradiction
  rename_i hguard
  simp only [Bool.or_eq_true, not_or, Bool.not_eq_true', Bool.not_eq_false] at hguard
  exact hguard.1.1.1.1.1.1.1

/-- The code in memory: the initializer's first calls, the two helpers and the file manager. -/
structure GamePreludeLoaded (s : GamePreludeSpec) (p : ApplicationRoutingSpec) (f : FileManagerEntrySpec)
    (body : Vector UInt8 20) (managerBody : Vector UInt8 51) (code : Memory) : Prop where
  valid : validFileManagerEntrySpec f s p
  emitted : gamePreludeBody s = some body
  emittedManager : fileManagerBody f = some managerBody
  call : HasBytes code p.initializer.callAddress p.initializer.call.toList
  initializer : HasBytes code p.initializer.targetAddress p.initializer.targetPrefix.toList
  empty : HasBytes code s.empty.targetAddress s.empty.targetPrefix.toList
  localisation : HasBytes code s.localisation.targetAddress body.toList
  manager : HasBytes code f.manager.targetAddress managerBody.toList

namespace GamePreludeLoaded
variable (h : GamePreludeLoaded s p f body managerBody code)
include h

theorem managerLayout : ManagerLayout f s p := managerLayout_of_valid h.valid

theorem layout : PreludeLayout s p := preludeLayout_of_valid h.managerLayout.prelude

theorem emptyCall : HasBytes code s.empty.callAddress s.empty.call.toList := by
  have hcalls := h.initializer
  rw [h.layout.calls, hasBytes_append] at hcalls
  rw [h.layout.emptyCall]
  exact hcalls.1

theorem localisationCall : HasBytes code s.localisation.callAddress s.localisation.call.toList := by
  have hcalls := h.initializer
  rw [h.layout.calls, hasBytes_append, hasBytes_append, Vector.length_toList, ← h.layout.emptyCall] at hcalls
  rw [h.layout.localisationCall]
  exact hcalls.2.1

theorem managerCall : HasBytes code f.manager.callAddress f.manager.call.toList := by
  have hcalls := h.initializer
  have hsecond : s.localisation.returnAddress = s.empty.callAddress+5+5 := by
    rw [FrameTargetSpec.returnAddress, ← FrameTargetSpec.callAddress, h.layout.localisationCall]
    rfl
  rw [h.layout.calls, hasBytes_append, hasBytes_append, Vector.length_toList, Vector.length_toList,
    ← h.layout.emptyCall] at hcalls
  have hstop : s.stopPrefix.toList.take 6 = f.manager.call.toList++(s.stopPrefix.toList.take 6).drop 5 := by
    rw [h.managerLayout.bytes]
    conv_lhs => rw [← List.take_append_drop 5 (s.stopPrefix.toList.take 6), List.take_take]
    rfl
  have hafter : HasBytes code (s.empty.callAddress+5+5) (s.stopPrefix.toList.take 6) := hcalls.2.2
  rw [← hsecond, hstop, hasBytes_append] at hafter
  rw [h.managerLayout.call]
  exact hafter.1

end GamePreludeLoaded

/-! The machine at the stops. The stores on the stack count from 20 bytes below the stack pointer
that the CALL of the initializer finds. -/

/-- The CALL of the initializer, with what the checkpoints ask of the registers. -/
structure GamePreludeCaller (s : GamePreludeSpec) (p : ApplicationRoutingSpec) (m : Machine) : Prop where
  eip : m.eip = p.initializer.callAddress
  eax : m.regs.eax = 5
  ebx : m.regs.ebx = 0
  esi : m.regs.esi = 0
  edi : m.regs.edi = 24
  flags : m.flags &&& 0x500 = 0
  low : 4100 ≤ m.regs.esp
  aligned : m.regs.esp.toNat%4 = 0
  /-- The flags with their guards are not on the stack. -/
  apart : Apart (m.regs.esp-20) 20 (s.flagsAddress-4) 16

def initializerEntered (p : ApplicationRoutingSpec) (m : Machine) : Machine :=
  { m with
    regs := { m.regs with esp := m.regs.esp-4 }
    flags := blend m.flags resumeFlag 0
    eip := p.initializer.targetAddress
    mem := setWords m.mem (m.regs.esp-20) [(16,p.initializer.returnAddress)] }

def emptyEntered (s : GamePreludeSpec) (p : ApplicationRoutingSpec) (m : Machine) : Machine :=
  { initializerEntered p m with
    regs := { m.regs with esp := m.regs.esp-8 }
    eip := s.empty.targetAddress
    mem := setWords m.mem (m.regs.esp-20)
      [(16,p.initializer.returnAddress),(12,s.empty.returnAddress)] }

def emptyReturned (s : GamePreludeSpec) (p : ApplicationRoutingSpec) (m : Machine) : Machine :=
  { emptyEntered s p m with
    regs := { m.regs with esp := m.regs.esp-4 }
    eip := s.localisation.callAddress }

def localisationEntered (s : GamePreludeSpec) (p : ApplicationRoutingSpec) (m : Machine) : Machine :=
  { emptyEntered s p m with
    eip := s.localisation.targetAddress
    mem := setWords m.mem (m.regs.esp-20) [(16,p.initializer.returnAddress),
      (12,s.empty.returnAddress),(12,s.localisation.returnAddress)] }

/-- AL is zero, and the three flags are set. -/
def localisationReturned (s : GamePreludeSpec) (p : ApplicationRoutingSpec) (m : Machine) : Machine :=
  { localisationEntered s p m with
    regs := { m.regs with eax := 0, esp := m.regs.esp-4 }
    flags := blend (blend m.flags resumeFlag 0) arithmeticFlags (resultFlags 0 ||| m.undefined 0 &&& 0x10)
    eip := s.localisation.returnAddress
    mem := store (localisationEntered s p m).mem s.flagsAddress [1,0,0]
    undefined := fun n => m.undefined (n+1) }

def fileManagerEntered (f : FileManagerEntrySpec) (s : GamePreludeSpec) (p : ApplicationRoutingSpec)
    (m : Machine) : Machine :=
  { localisationReturned s p m with
    regs := { m.regs with eax := 0, esp := m.regs.esp-8 }
    eip := f.manager.targetAddress
    mem := setWords (localisationReturned s p m).mem (m.regs.esp-20) [(12,f.manager.returnAddress)] }

/-- The file manager at its CALL for the current directory. -/
def directoryCalled (f : FileManagerEntrySpec) (s : GamePreludeSpec) (p : ApplicationRoutingSpec)
    (m : Machine) : Machine :=
  { fileManagerEntered f s p m with
    regs := { m.regs with eax := 0, esp := m.regs.esp-20 }
    eip := f.manager.targetAddress+11
    mem := setWords (localisationReturned s p m).mem (m.regs.esp-20)
      [(12,f.manager.returnAddress),(8,m.regs.edi),(4,128),(0,f.manager.imageBase+f.bufferRva)] }

theorem FrameTargetSpec.reaches_call {t : FrameTargetSpec} {m' : Machine} (hvalid : validFrameTargetSpec t)
    (hcode : HasBytes code t.callAddress t.call.toList) (heip : m.eip = t.callAddress)
    (h : { m with
      regs := { m.regs with esp := m.regs.esp-4 }
      flags := blend m.flags resumeFlag 0
      eip := t.targetAddress
      mem := setWord m.mem (m.regs.esp-4) t.returnAddress } = m') : Reaches code m m' := by
  refine ⟨1,?_⟩
  rw [run, FrameTargetSpec.step_call hvalid heip hcode, Option.bind_some, run, h]

section Execution
variable (hcode : GamePreludeLoaded s p f body managerBody code)
include hcode

theorem reaches_initializerEntered (heip : m.eip = p.initializer.callAddress) :
    Reaches code m (initializerEntered p m) := by
  refine FrameTargetSpec.reaches_call hcode.layout.initializer hcode.call heip ?_
  rw [initializerEntered, setWords, List.foldl_cons, List.foldl_nil,
    show m.regs.esp-20+16 = m.regs.esp-4 by ring]

theorem reaches_emptyEntered : Reaches code (initializerEntered p m) (emptyEntered s p m) := by
  refine FrameTargetSpec.reaches_call hcode.layout.empty hcode.emptyCall hcode.layout.emptyCall.symm ?_
  obtain ⟨⟨eax,ecx,edx,ebx,esp,ebp,esi,edi⟩,flags,eip,mem,fs,undefined⟩ := m
  obtain ⟨b,rfl⟩ : ∃ b, esp = b+20 := ⟨esp-20,by ring⟩
  simp [initializerEntered, emptyEntered, setWords, BitVec.sub_eq_add_neg, BitVec.add_assoc]

theorem reaches_emptyReturned : Reaches code (emptyEntered s p m) (emptyReturned s p m) := by
  have hbytes := hcode.empty
  rw [hcode.layout.ret, show 0xc3 :: List.replicate 15 0x90 =
    encoding emptyListing++List.replicate 15 0x90 from rfl, hasBytes_append] at hbytes
  refine reaches_listing straight_emptyListing hbytes.1 rfl ?_
  have hreturn := hcode.layout.localisationCall
  obtain ⟨⟨eax,ecx,edx,ebx,esp,ebp,esi,edi⟩,flags,eip,mem,fs,undefined⟩ := m
  obtain ⟨b,rfl⟩ : ∃ b, esp = b+20 := ⟨esp-20,by ring⟩
  simp (disch := decide) [emptyListing, initializerEntered, emptyEntered, emptyReturned, setWords, hreturn,
    BitVec.sub_eq_add_neg, BitVec.add_assoc]

theorem reaches_localisationEntered :
    Reaches code (emptyReturned s p m) (localisationEntered s p m) := by
  refine FrameTargetSpec.reaches_call hcode.layout.localisation hcode.localisationCall rfl ?_
  obtain ⟨⟨eax,ecx,edx,ebx,esp,ebp,esi,edi⟩,flags,eip,mem,fs,undefined⟩ := m
  obtain ⟨b,rfl⟩ : ∃ b, esp = b+20 := ⟨esp-20,by ring⟩
  simp [initializerEntered, emptyEntered, emptyReturned, localisationEntered, setWords,
    BitVec.sub_eq_add_neg, BitVec.add_assoc]

omit hcode in
/-- The flags are not on the stack. -/
theorem word_localisationReturned (hcaller : GamePreludeCaller s p m) {d : BitVec 32} (hd : d.toNat+4 ≤ 20) :
    word (localisationReturned s p m).mem (m.regs.esp-20+d) =
      word (localisationEntered s p m).mem (m.regs.esp-20+d) := by
  have happart := hcaller.apart.symm.sub (x := 4) (y := d) (by decide : 0 < 3) (by decide : 0 < 4)
    (by decide) hd
  rw [show s.flagsAddress-4+4 = s.flagsAddress by ring] at happart
  exact word_store_of_apart happart

omit hcode in
theorem word_localisationReturned_caller (hcaller : GamePreludeCaller s p m) :
    word (localisationReturned s p m).mem (m.regs.esp-20+16) = p.initializer.returnAddress := by
  rw [word_localisationReturned hcaller (by decide)]
  rw [localisationEntered]
  generalize m.regs.esp-20 = b
  simp (disch := decide) [setWords, word_setWord_add]

theorem reaches_localisationReturned (hcaller : GamePreludeCaller s p m) :
    ByteReaches code (localisationEntered s p m) (localisationReturned s p m) := by
  have hbytes := hcode.localisation
  rw [gamePreludeBody_eq hcode.emitted] at hbytes
  refine byteReaches_listing (straight_localisationListing _) hbytes rfl ?_
  have hreturn := @word_localisationReturned s p m hcaller 12 (by decide)
  have heax := hcaller.eax
  -- The three stores are one.
  have hstore (mem : Memory) : store (store (store mem s.flagsAddress [1]) (s.flagsAddress+1) [0])
      (s.flagsAddress+2) [0] = store mem s.flagsAddress [1,0,0] := by
    have hrest := @store_append (store mem s.flagsAddress [1]) (s.flagsAddress+1) [0] [0] (by decide)
    rw [List.length_singleton, BitVec.add_assoc] at hrest
    exact hrest.symm.trans (@store_append mem s.flagsAddress [1] [0,0] (by decide)).symm
  obtain ⟨⟨eax,ecx,edx,ebx,esp,ebp,esi,edi⟩,flags,eip,mem,fs,undefined⟩ := m
  obtain ⟨b,rfl⟩ : ∃ b, esp = b+20 := ⟨esp-20,by ring⟩
  simp only [localisationReturned, localisationEntered, emptyEntered, initializerEntered] at hreturn heax ⊢
  subst heax
  simp (disch := decide) [localisationListing, setWords, BitVec.sub_eq_add_neg, BitVec.add_assoc] at hreturn hstore ⊢
  have hzero : blend 5#32 255#32 0#32 = 0#32 := by decide
  have hone : write 1 1#32 = [1] := by decide
  have hbyte : ({ toBitVec := BitVec.setWidth 8 0#32 } : UInt8) = 0 := by decide
  rw [hzero, hone, hbyte, hstore, hreturn, blend_resumeFlag (by decide)]
  simp

theorem reaches_fileManagerEntered (hcaller : GamePreludeCaller s p m) :
    Reaches code (localisationReturned s p m) (fileManagerEntered f s p m) := by
  refine FrameTargetSpec.reaches_call (validFrameTargetSpec_of_fileManagerBody hcode.emittedManager)
    hcode.managerCall hcode.managerLayout.call.symm ?_
  obtain ⟨⟨eax,ecx,edx,ebx,esp,ebp,esi,edi⟩,flags,eip,mem,fs,undefined⟩ := m
  obtain ⟨b,rfl⟩ : ∃ b, esp = b+20 := ⟨esp-20,by ring⟩
  simp [initializerEntered, emptyEntered, localisationEntered, localisationReturned, fileManagerEntered,
    setWords, BitVec.sub_eq_add_neg, BitVec.add_assoc]
  rw [blend_resumeFlag (by decide)]
  simp

theorem reaches_directoryCalled (hcaller : GamePreludeCaller s p m) :
    Reaches code (fileManagerEntered f s p m) (directoryCalled f s p m) := by
  obtain ⟨rest,hbody⟩ := fileManagerBody_arguments hcode.emittedManager
  have hbytes := hcode.manager
  rw [hbody, hasBytes_append] at hbytes
  refine reaches_listing (straight_directoryArgumentsListing _) hbytes.1 rfl ?_
  have hflags : blend (localisationReturned s p m).flags resumeFlag 0 = (localisationReturned s p m).flags := by
    rw [localisationReturned]
    exact (blend_resumeFlag (by decide)).trans (by simp)
  rw [directoryCalled, fileManagerEntered]
  generalize localisationReturned s p m = now at hflags ⊢
  obtain ⟨⟨eax,ecx,edx,ebx,esp,ebp,esi,edi⟩,flags,eip,mem,fs,undefined⟩ := m
  obtain ⟨b,rfl⟩ : ∃ b, esp = b+20 := ⟨esp-20,by ring⟩
  simp only [BitVec.ofNat_eq_ofNat] at hflags
  simp [directoryArgumentsListing, setWords, hflags, BitVec.sub_eq_add_neg, BitVec.add_assoc]

end Execution

/-! What the checkpoints compare, at their stops. -/

/-- The flags that the first checkpoint does not look at. -/
def preludeFree (stage : ℕ) : BitVec 32 := if stage = 5 then resumeFlag ||| 0x10 else resumeFlag

/-- Words that the debugger reads from the stack. -/
def stackWords (n : ℕ) (m : Machine) : List (BitVec 32) :=
  (List.range n).map fun i => word m.mem (m.regs.esp+BitVec.ofNat 32 (4*i))

/-- The flags with their guards. -/
def localisationFlags (s : GamePreludeSpec) (m : Machine) : Vector UInt8 16 :=
  loadArray m.mem (s.flagsAddress-4) 16

/-- Exactly these registers, but for some flags of the processor, exactly this stack and exactly this
window are accepted. -/
structure GamePreludeDescribes (stage : ℕ) (s : GamePreludeSpec) (p : ApplicationRoutingSpec)
    (m m' : Machine) : Prop where
  frame : ∀ r stack, gamePreludeFrame s p stage (registers m) r stack ↔
    AgreeBut (preludeFree stage) r (registers m') ∧
      stack = stackWords (if stage = 2 ∨ stage = 4 then 2 else 1) m'
  flags : ∀ current, gamePreludeFlags stage (localisationFlags s m) current ↔ current = localisationFlags s m'

/-- The same of the second checkpoint, which looks at no window; `m` is the machine at the CALL. -/
def ManagerDescribes (stage : ℕ) (f : FileManagerEntrySpec) (s : GamePreludeSpec) (p : ApplicationRoutingSpec)
    (m m' : Machine) : Prop :=
  ∀ r stack, fileManagerEntryFrame f s p stage (registers m) r stack ↔
    AgreeBut resumeFlag r (registers m') ∧ stack = stackWords (if stage = 1 then 2 else 5) m'

def preludeStack (s : GamePreludeSpec) (p : ApplicationRoutingSpec) (stage : ℕ) : List (BitVec 32) :=
  match stage with
  | 2 => [s.empty.returnAddress,p.initializer.returnAddress]
  | 4 => [s.localisation.returnAddress,p.initializer.returnAddress]
  | _ => [p.initializer.returnAddress]

theorem gamePreludeFrame_iff {stage : ℕ} {r now : DispatchRegisters} {stack : List (BitVec 32)}
    (hvalid : validGamePreludeSpec s p) (hcaller : GamePreludeCaller s p m) (hstage : 1 ≤ stage ∧ stage ≤ 5)
    (hnow : now = { registers m with
      esp := m.regs.esp-(if stage = 2 ∨ stage = 4 then 8 else 4)
      eax := if stage = 5 then 0 else 5
      flags := now.flags })
    (hrest : now.flags &&& (if stage = 5 then 0xfffef72a else ~~~0x10000) =
      m.flags &&& (if stage = 5 then 0xfffef72a else ~~~0x10000))
    (hresult : stage = 5 → now.flags &&& 0x8c5 = 0x44) :
    gamePreludeFrame s p stage (registers m) r stack ↔
      AgreeBut (preludeFree stage) r now ∧ stack = preludeStack s p stage := by
  have hlayout := preludeLayout_of_valid hvalid
  have hlast := fun hfive : stage = 5 => @flags_iff r.flags now.flags m.flags 0x8c5 0xfffef72a
    (resumeFlag ||| 0x10) 0x44 hcaller.flags (hresult hfive) (by simpa [hfive] using hrest)
    (by decide) (by decide)
  have hbefore := fun hfive : stage ≠ 5 => @flags_unchanged_iff r.flags now.flags m.flags (~~~0x10000)
    resumeFlag hcaller.flags (by simpa [hfive] using hrest) (by decide) (by decide)
  rw [agreeBut_iff]
  obtain ⟨_,heax,hebx,hesi,hedi,hflags,hlow,haligned,_⟩ := hcaller
  have hroom : ¬m.regs.esp < 4096#32 := by bv_omega
  obtain ⟨esp,eax,ebx,ecx,edx,esi,edi,ebp,flags⟩ := now
  rw [DispatchRegisters.mk.injEq] at hnow
  obtain ⟨h1,h5⟩ := hstage
  rw [gamePreludeFrame]
  simp only [registers] at hnow ⊢
  interval_cases stage <;>
    simp [hvalid, preludeFree, preludeStack, hroom, haligned, heax, hebx, hesi, hedi,
      hlayout.emptyBase, hlayout.localisationBase, FrameTargetSpec.returnAddress] at hnow hlast hbefore ⊢
  all_goals grind

/-- Up to the stores the flags are as before. -/
theorem gamePreludeFlags_before {stage : ℕ} {m' : Machine} {ws : List (BitVec 32 × BitVec 32)}
    {current : Vector UInt8 16} (hcaller : GamePreludeCaller s p m) (hstage : 1 ≤ stage ∧ stage < 5)
    (hws : ∀ w ∈ ws, w.1.toNat+4 ≤ 20) (hmem : m'.mem = setWords m.mem (m.regs.esp-20) ws) :
    gamePreludeFlags stage (localisationFlags s m) current ↔ current = localisationFlags s m' := by
  have hsame : localisationFlags s m' = localisationFlags s m := by
    rw [localisationFlags, localisationFlags, hmem]
    exact loadArray_congr (load_setWords_of_stretch hcaller.apart (by decide) hws)
  obtain ⟨h1,h5⟩ := hstage
  rw [hsame, gamePreludeFlags]
  interval_cases stage <;> simp

theorem gamePreludeFlags_stored {current : Vector UInt8 16} (hcaller : GamePreludeCaller s p m) :
    gamePreludeFlags 5 (localisationFlags s m) current ↔
      current = localisationFlags s (localisationReturned s p m) := by
  have hwindow : localisationFlags s (localisationReturned s p m) =
      (((localisationFlags s m).set 4 1).set 5 0).set 6 0 := by
    have hplace : s.flagsAddress-4+BitVec.ofNat 32 4 = s.flagsAddress := by
      simp
    have hsame : loadArray (localisationEntered s p m).mem (s.flagsAddress-4) 16 = localisationFlags s m :=
      loadArray_congr (load_setWords_of_stretch hcaller.apart (by decide) (by simp))
    have hstore : loadArray (store (localisationEntered s p m).mem (s.flagsAddress-4+BitVec.ofNat 32 4) [1,0,0])
        (s.flagsAddress-4) 16 = splice 4 [1,0,0] (localisationFlags s m) := by
      rw [loadArray_store (by decide) (by decide), hsame]
    rw [hplace] at hstore
    refine hstore.trans ?_
    apply Vector.ext
    intro i hi
    rw [getElem_splice]
    interval_cases i <;> simp
  rw [hwindow, gamePreludeFlags]
  simp

theorem fileManagerEntryFrame_iff {stage : ℕ} {m' : Machine} {r : DispatchRegisters}
    {stack : List (BitVec 32)} (hvalid : validFileManagerEntrySpec f s p) (hcaller : GamePreludeCaller s p m)
    (hstage : 1 ≤ stage ∧ stage ≤ 2)
    (hnow : registers m' = { registers (localisationReturned s p m) with
      esp := m.regs.esp-(if stage = 1 then 8 else 20) }) :
    fileManagerEntryFrame f s p stage (registers (localisationReturned s p m)) r stack ↔
      AgreeBut resumeFlag r (registers m') ∧
        stack = if stage = 1 then [f.manager.returnAddress,p.initializer.returnAddress] else
          [f.manager.imageBase+f.bufferRva,128,24,f.manager.returnAddress,p.initializer.returnAddress] := by
  have hbase := (managerLayout_of_valid hvalid).base
  have hclear : (localisationReturned s p m).flags &&& 0x500 = 0 := by
    rw [localisationReturned]
    exact ((blend_and_of_disjoint (by decide)).trans (blend_and_of_disjoint (by decide))).trans hcaller.flags
  have hflags := @flags_unchanged_iff r.flags (localisationReturned s p m).flags
    (localisationReturned s p m).flags (~~~0x10000) resumeFlag hclear rfl (by decide) (by decide)
  rw [hnow, agreeBut_iff]
  generalize hf : (localisationReturned s p m).flags = flags at hclear hflags
  have hregisters : registers (localisationReturned s p m) =
      ⟨m.regs.esp-4,0,0,m.regs.ecx,m.regs.edx,0,24,m.regs.ebp,flags⟩ := by
    change DispatchRegisters.mk (m.regs.esp-4) 0 m.regs.ebx m.regs.ecx m.regs.edx m.regs.esi m.regs.edi
      m.regs.ebp (localisationReturned s p m).flags = _
    rw [hcaller.ebx, hcaller.esi, hcaller.edi, hf]
  rw [hregisters]
  have hroom : ¬m.regs.esp-4 < 4096#32 := by
    have hlow := hcaller.low
    bv_omega
  have haligned : (m.regs.esp-4).toNat%4 = 0 := by
    have h := hcaller.aligned
    have hlow := hcaller.low
    bv_omega
  obtain ⟨h1,h2⟩ := hstage
  rw [fileManagerEntryFrame]
  interval_cases stage <;>
    simp [hvalid, hbase, FrameTargetSpec.returnAddress] at hclear hflags hroom haligned ⊢
  all_goals grind

/-- One of the five stops. -/
theorem gamePreludeDescribes_of {stage : ℕ} {m' : Machine} (hvalid : validGamePreludeSpec s p)
    (hcaller : GamePreludeCaller s p m) (hstage : 1 ≤ stage ∧ stage ≤ 5)
    (hnow : registers m' = { registers m with
      esp := m.regs.esp-(if stage = 2 ∨ stage = 4 then 8 else 4)
      eax := if stage = 5 then 0 else 5
      flags := m'.flags })
    (hrest : m'.flags &&& (if stage = 5 then 0xfffef72a else ~~~0x10000) =
      m.flags &&& (if stage = 5 then 0xfffef72a else ~~~0x10000))
    (hresult : stage = 5 → m'.flags &&& 0x8c5 = 0x44)
    (hstack : stackWords (if stage = 2 ∨ stage = 4 then 2 else 1) m' = preludeStack s p stage)
    (hflags : ∀ current, gamePreludeFlags stage (localisationFlags s m) current ↔ current = localisationFlags s m') :
    GamePreludeDescribes stage s p m m' where
  frame _ _ := by
    rw [hstack]
    exact gamePreludeFrame_iff hvalid hcaller hstage hnow hrest hresult
  flags := hflags

section Stops
variable (hvalid : validGamePreludeSpec s p) (hcaller : GamePreludeCaller s p m)
include hvalid hcaller

theorem describes_initializerEntered : GamePreludeDescribes 1 s p m (initializerEntered p m) := by
  refine gamePreludeDescribes_of hvalid hcaller (by decide) ?_ ?_ (absurd · (by decide)) ?_
    fun _ => gamePreludeFlags_before hcaller (by decide) (by simp) rfl
  · rw [← hcaller.eax]
    rfl
  · exact blend_and_of_disjoint (by decide)
  · obtain ⟨b,hb⟩ : ∃ b, m.regs.esp = b+20 := ⟨m.regs.esp-20,by ring⟩
    simp [stackWords, initializerEntered, setWords, preludeStack, hb, BitVec.sub_eq_add_neg, BitVec.add_assoc]

theorem describes_emptyEntered : GamePreludeDescribes 2 s p m (emptyEntered s p m) := by
  refine gamePreludeDescribes_of hvalid hcaller (by decide) ?_ ?_ (absurd · (by decide)) ?_
    fun _ => gamePreludeFlags_before hcaller (by decide) (by simp) rfl
  · rw [← hcaller.eax]
    rfl
  · exact blend_and_of_disjoint (by decide)
  · obtain ⟨b,hb⟩ : ∃ b, m.regs.esp = b+20 := ⟨m.regs.esp-20,by ring⟩
    simp (disch := decide) [stackWords, emptyEntered, setWords, preludeStack, List.range_succ, hb,
      BitVec.sub_eq_add_neg, BitVec.add_assoc, word_setWord_add]

theorem describes_emptyReturned : GamePreludeDescribes 3 s p m (emptyReturned s p m) := by
  refine gamePreludeDescribes_of hvalid hcaller (by decide) ?_ ?_ (absurd · (by decide)) ?_
    fun _ => gamePreludeFlags_before hcaller (by decide) (by simp) rfl
  · rw [← hcaller.eax]
    rfl
  · exact blend_and_of_disjoint (by decide)
  · obtain ⟨b,hb⟩ : ∃ b, m.regs.esp = b+20 := ⟨m.regs.esp-20,by ring⟩
    simp (disch := decide) [stackWords, emptyReturned, emptyEntered, setWords, preludeStack, hb,
      BitVec.sub_eq_add_neg, BitVec.add_assoc, word_setWord_add]

theorem describes_localisationEntered : GamePreludeDescribes 4 s p m (localisationEntered s p m) := by
  refine gamePreludeDescribes_of hvalid hcaller (by decide) ?_ ?_ (absurd · (by decide)) ?_
    fun _ => gamePreludeFlags_before hcaller (by decide) (by simp) rfl
  · rw [← hcaller.eax]
    rfl
  · exact blend_and_of_disjoint (by decide)
  · obtain ⟨b,hb⟩ : ∃ b, m.regs.esp = b+20 := ⟨m.regs.esp-20,by ring⟩
    simp (disch := decide) [stackWords, localisationEntered, emptyEntered, setWords, preludeStack,
      List.range_succ, hb, BitVec.sub_eq_add_neg, BitVec.add_assoc, word_setWord_add]

theorem describes_localisationReturned : GamePreludeDescribes 5 s p m (localisationReturned s p m) := by
  refine gamePreludeDescribes_of hvalid hcaller (by decide) rfl ?_ (fun _ => ?_) ?_
    fun _ => gamePreludeFlags_stored hcaller
  · exact (blend_and_of_disjoint (by decide)).trans (blend_and_of_disjoint (by decide))
  · -- The flags of a zero, whatever the adjust flag is.
    have hadjust (v : BitVec 32) : (resultFlags 0 ||| v &&& 0x10) &&& 0x8c5 = 0x44 := by
      rw [or_and, BitVec.and_assoc]
      simp
      decide
    exact (blend_and_of_within (by decide)).trans (hadjust _)
  · obtain ⟨b,hb⟩ : ∃ b, m.regs.esp = b+20 := ⟨m.regs.esp-20,by ring⟩
    have hword := word_localisationReturned_caller hcaller
    have hesp : (localisationReturned s p m).regs.esp = m.regs.esp-20+16 := by
      rw [hb]
      change m.regs.esp-4 = b+20-20+16
      rw [hb]
      ring
    simp only [stackWords, hesp, preludeStack]
    simpa using hword

end Stops

/-! The second checkpoint. -/

section Manager
variable (hvalid : validFileManagerEntrySpec f s p) (hcaller : GamePreludeCaller s p m)
include hvalid hcaller

/-- The return addresses on the stack as the file manager begins. -/
theorem managerDescribes_fileManagerEntered :
    ManagerDescribes 1 f s p (localisationReturned s p m) (fileManagerEntered f s p m) := by
  intro r stack
  have hstack : stackWords 2 (fileManagerEntered f s p m) =
      [f.manager.returnAddress,p.initializer.returnAddress] := by
    have hword := word_localisationReturned_caller hcaller
    rw [stackWords, fileManagerEntered]
    generalize (localisationReturned s p m).mem = mem at hword ⊢
    obtain ⟨b,hb⟩ : ∃ b, m.regs.esp = b+24 := ⟨m.regs.esp-24,by ring⟩
    simp [hb, BitVec.sub_eq_add_neg, BitVec.add_assoc] at hword
    simp (disch := decide) [setWords, hb, List.range_succ, BitVec.sub_eq_add_neg, BitVec.add_assoc,
      word_setWord_add, hword]
  rw [@fileManagerEntryFrame_iff s p f m 1 (fileManagerEntered f s p m) _ _ hvalid hcaller (by decide) rfl]
  simp [hstack]

theorem managerDescribes_directoryCalled :
    ManagerDescribes 2 f s p (localisationReturned s p m) (directoryCalled f s p m) := by
  intro r stack
  have hstack : stackWords 5 (directoryCalled f s p m) =
      [f.manager.imageBase+f.bufferRva,128,24,f.manager.returnAddress,p.initializer.returnAddress] := by
    have hword := word_localisationReturned_caller hcaller
    rw [stackWords, directoryCalled, ← hcaller.edi]
    generalize (localisationReturned s p m).mem = mem at hword ⊢
    obtain ⟨b,hb⟩ : ∃ b, m.regs.esp = b+24 := ⟨m.regs.esp-24,by ring⟩
    simp [hb, BitVec.sub_eq_add_neg, BitVec.add_assoc] at hword
    simp (disch := decide) [setWords, hb, List.range_succ, BitVec.sub_eq_add_neg, BitVec.add_assoc,
      word_setWord_add, hword]
  rw [@fileManagerEntryFrame_iff s p f m 2 (directoryCalled f s p m) _ _ hvalid hcaller (by decide) rfl]
  simp [hstack]

end Manager

/-- Nothing else in memory has changed. -/
theorem load_directoryCalled {a : Address} {k : ℕ} (hk : 0 < k) (hstack : Apart (m.regs.esp-20) 20 a k)
    (hflags : Apart s.flagsAddress 3 a k) : load (directoryCalled f s p m).mem a k = load m.mem a k := by
  have hcalled : load (directoryCalled f s p m).mem a k = load (localisationReturned s p m).mem a k :=
    load_setWords_of_stretch hstack hk (by simp)
  have hstored : load (localisationReturned s p m).mem a k = load (localisationEntered s p m).mem a k :=
    load_store_of_apart hflags
  rw [hcalled, hstored]
  exact load_setWords_of_stretch hstack hk (by simp)

theorem load_directoryCalled_flags (hcaller : GamePreludeCaller s p m) :
    load (directoryCalled f s p m).mem s.flagsAddress 3 = [1,0,0] := by
  have happart := hcaller.apart.sub (x := 0) (y := 4) (by decide : 0 < 20) (by decide : 0 < 3)
    (by decide) (by decide)
  rw [show m.regs.esp-20+0 = m.regs.esp-20 by ring, show s.flagsAddress-4+4 = s.flagsAddress by ring] at happart
  have hcalled : load (directoryCalled f s p m).mem s.flagsAddress 3 =
      load (localisationReturned s p m).mem s.flagsAddress 3 :=
    load_setWords_of_stretch happart (by decide) (by simp)
  rw [hcalled]
  exact load_store_self (by decide)

/-- From the CALL of the initializer to the file manager's CALL for the current directory the execution
comes to seven stops, and there the checkpoints accept just what there is. -/
def GamePreludeDescribed (s : GamePreludeSpec) (p : ApplicationRoutingSpec) (f : FileManagerEntrySpec)
    (code : Memory) (m : Machine) : Prop :=
  ∃ m₁ m₂ m₃ m₄ m₅ m₆ m₇,
    (Executes code m m₁ ∧ m₁.eip = p.initializer.targetAddress ∧ GamePreludeDescribes 1 s p m m₁) ∧
    (Executes code m₁ m₂ ∧ m₂.eip = s.empty.targetAddress ∧ GamePreludeDescribes 2 s p m m₂) ∧
    (Executes code m₂ m₃ ∧ m₃.eip = s.localisation.callAddress ∧ GamePreludeDescribes 3 s p m m₃) ∧
    (Executes code m₃ m₄ ∧ m₄.eip = s.localisation.targetAddress ∧ GamePreludeDescribes 4 s p m m₄) ∧
    (Executes code m₄ m₅ ∧ m₅.eip = f.manager.callAddress ∧ GamePreludeDescribes 5 s p m m₅) ∧
    (Executes code m₅ m₆ ∧ m₆.eip = f.manager.targetAddress ∧ ManagerDescribes 1 f s p m₅ m₆) ∧
    (Executes code m₆ m₇ ∧ m₇.eip = f.manager.targetAddress+11 ∧ ManagerDescribes 2 f s p m₅ m₇) ∧
    -- Nothing has changed but EAX, the flags of the processor, the stack and the three flags.
    m₇.regs = { m.regs with eax := 0, esp := m.regs.esp-20 } ∧ m₇.fs = m.fs ∧
    m₇.flags &&& otherFlags = m.flags &&& otherFlags ∧ load m₇.mem s.flagsAddress 3 = [1,0,0] ∧
    ∀ a k, 0 < k → Apart (m.regs.esp-20) 20 a k → Apart s.flagsAddress 3 a k →
      load m₇.mem a k = load m.mem a k

theorem game_prelude_describes_code (hcode : GamePreludeLoaded s p f body managerBody code)
    (hcaller : GamePreludeCaller s p m) : GamePreludeDescribed s p f code m := by
  have hvalid := hcode.managerLayout.prelude
  refine ⟨_,_,_,_,_,_,_,
    ⟨(reaches_initializerEntered hcode hcaller.eip).executes,rfl,describes_initializerEntered hvalid hcaller⟩,
    ⟨(reaches_emptyEntered hcode).executes,rfl,describes_emptyEntered hvalid hcaller⟩,
    ⟨(reaches_emptyReturned hcode).executes,rfl,describes_emptyReturned hvalid hcaller⟩,
    ⟨(reaches_localisationEntered hcode).executes,rfl,describes_localisationEntered hvalid hcaller⟩,
    ⟨(reaches_localisationReturned hcode hcaller).executes,hcode.managerLayout.call.symm,
      describes_localisationReturned hvalid hcaller⟩,
    ⟨(reaches_fileManagerEntered hcode hcaller).executes,rfl,
      managerDescribes_fileManagerEntered hcode.valid hcaller⟩,
    ⟨(reaches_directoryCalled hcode hcaller).executes,rfl,
      managerDescribes_directoryCalled hcode.valid hcaller⟩,
    rfl,rfl,?_,load_directoryCalled_flags hcaller,fun _ _ hk => load_directoryCalled hk⟩
  exact (blend_otherFlags (by decide)).trans (blend_otherFlags (by decide))

/-! The reviewed image, and the handler in it at its CALL of the initializer. -/

def reviewedGamePreludeSpec : GamePreludeSpec where
  empty := ⟨4194304,18313216,1293136,3339184,#v[0xe8,0x5b,0x38,0x1f,0],
    #v[0xc3,0x90,0x90,0x90,0x90,0x90,0x90,0x90,0x90,0x90,0x90,0x90,0x90,0x90,0x90,0x90]⟩
  localisation := ⟨4194304,18313216,1293141,1495424,#v[0xe8,0x26,0x16,3,0],
    #v[0x32,0xc0,0xc6,5,0xec,0xb7,0xb9,0,1,0xa2,0xed,0xb7,0xb9,0,0xa2,0xee]⟩
  flagsRva := 7976940
  stopPrefix := #v[0xe8,0x91,0xcb,0xff,0xff,0x6a,5,0xe8,0x0a,0xb0,0xec,0xff,0x83,0xc4,4,0xe8]

def reviewedGamePreludeBody : Vector UInt8 20 :=
  (gamePreludeBody reviewedGamePreludeSpec).get (by decide +kernel)

def reviewedGamePreludeMemory : Memory :=
  let p := reviewedApplicationRoutingSpec
  let s := reviewedGamePreludeSpec
  let memory := store (fun _ => 0) p.initializer.callAddress p.initializer.call.toList
  let memory := store memory p.initializer.targetAddress p.initializer.targetPrefix.toList
  let memory := store memory s.empty.targetAddress s.empty.targetPrefix.toList
  let memory := store memory s.localisation.targetAddress reviewedGamePreludeBody.toList
  store memory reviewedFileManagerSpec.manager.targetAddress reviewedFileManagerBody.toList

def reviewedInitializerThread : Machine where
  regs := ⟨5,1,2,0,0x19ff08,0x19ff74,0,24⟩
  flags := 0x246
  eip := reviewedApplicationRoutingSpec.initializer.callAddress
  mem := fun _ => 0
  fs := 0x7ffde000
  undefined := fun _ => 0

theorem gamePreludeLoaded_reviewed : GamePreludeLoaded reviewedGamePreludeSpec
    reviewedApplicationRoutingSpec reviewedFileManagerSpec reviewedGamePreludeBody reviewedFileManagerBody
    reviewedGamePreludeMemory := by
  constructor <;> decide

theorem gamePreludeCaller_reviewed : GamePreludeCaller reviewedGamePreludeSpec
    reviewedApplicationRoutingSpec reviewedInitializerThread := by
  constructor <;> decide

theorem game_prelude_describes_reviewed_code : GamePreludeDescribed reviewedGamePreludeSpec
    reviewedApplicationRoutingSpec reviewedFileManagerSpec reviewedGamePreludeMemory
    reviewedInitializerThread :=
  game_prelude_describes_code gamePreludeLoaded_reviewed gamePreludeCaller_reviewed

end Saex
