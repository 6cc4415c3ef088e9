import Saex.CwdSeh
import Mathlib.Tactic.IntervalCases

/-! The code that the checkpoint pins, executed: the CALL of the wrapper, the wrapper's own
instructions and the prologue. At its three stops `cwdSehFrame` and `cwdSehMemory` accept
what the execution has left, and nothing else but for the resume flag. -/
namespace Saex
open LittleEndian WrappedMemory Ia32

/-! What the bytes of `cwdSehCode` stand for. -/

/-- The wrapper, up to its CALL. -/
def wrapperListing (scope : BitVec 32) (f : FrameTargetSpec) : Listing :=
  [([0x6a,12],.push (.imm 12)),
   (0x68 :: write 4 scope,.push (.imm (dword scope))),
   (f.call.toList,.call f.distance)]

def prologueListing (handler : BitVec 32) : Listing :=
  [(0x68 :: write 4 handler,.push (.imm (dword handler))),
   ([0x64,0xa1,0,0,0,0],.mov (.reg .eax) (.mem { inFs := true })),
   ([0x50],.push (.reg .eax)),
   ([0x8b,0x44,0x24,0x10],.mov (.reg .eax) (.mem { base := some .esp, displacement := 16 })),
   ([0x89,0x6c,0x24,0x10],.mov (.mem { base := some .esp, displacement := 16 }) (.reg .ebp)),
   ([0x8d,0x6c,0x24,0x10],.lea .ebp { base := some .esp, displacement := 16 }),
   ([0x2b,0xe0],.alu .sub (.reg .esp) (.reg .eax)),
   ([0x53],.push (.reg .ebx)),
   ([0x56],.push (.reg .esi)),
   ([0x57],.push (.reg .edi)),
   ([0x8b,0x45,0xf8],.mov (.reg .eax) (.mem { base := some .ebp, displacement := -8 })),
   ([0x89,0x65,0xe8],.mov (.mem { base := some .ebp, displacement := -24 }) (.reg .esp)),
   ([0x50],.push (.reg .eax)),
   ([0x8b,0x45,0xfc],.mov (.reg .eax) (.mem { base := some .ebp, displacement := -4 })),
   ([0xc7,0x45,0xfc,0xff,0xff,0xff,0xff],
    .mov (.mem { base := some .ebp, displacement := -4 }) (.imm (-1))),
   ([0x89,0x45,0xf8],.mov (.mem { base := some .ebp, displacement := -8 }) (.reg .eax)),
   ([0x8d,0x45,0xf0],.lea .eax { base := some .ebp, displacement := -16 }),
   ([0x64,0xa3,0,0,0,0],.mov (.mem { inFs := true }) (.reg .eax)),
   ([0xc3],.ret)]

theorem straight_prologueListing (handler : BitVec 32) : Straight (prologueListing handler) := by
  repeat refine straight_cons ⟨by simp,fun _ => rfl⟩ trivial ?_
  exact straight_singleton ⟨by simp,fun _ => rfl⟩

theorem straight_wrapperListing (scope : BitVec 32) {f : FrameTargetSpec}
    (h : validFrameTargetSpec f) : Straight (wrapperListing scope f) := by
  refine ⟨⟨⟨by simp,fun _ => rfl⟩,trivial⟩,⟨⟨by simp,fun _ => rfl⟩,trivial⟩,?_⟩
  exact FrameTargetSpec.encodes_call h

variable {s : CwdSehSpec} {c : CwdSehCode}

theorem cwdSehCode_eq (h : cwdSehCode s = some c) :
    c.wrapper.toList = encoding (wrapperListing (s.wrapper.imageBase+s.scopeRva) s.prologue)++
        s.stopPrefix.toList.take 4 ∧
      c.prologue.toList = encoding (prologueListing (s.wrapper.imageBase+s.handlerRva)) := by
  dsimp only [cwdSehCode] at h
  split at h
  · contradiction
  rw [← Option.some.inj h]
  have hcall : s.prologue.call.toList.length = 5 := by simp
  have hstop : (s.stopPrefix.toList.take 4).length = 4 := by simp
  constructor
  · rw [toList_spliced (by simp), toList_spliced (by simp), toList_writeDword (by decide), hstop, hcall]
    simp [wrapperListing, List.take_append, List.drop_append, List.take_of_length_le]
  · rw [toList_writeDword (by decide)]
    rfl

/-! What the prologue does. All addresses count from the lower end `b` of the stack window, 60
bytes below the stack pointer that the CALL finds. -/

section Effects
variable {eax ecx edx ebx ebp esi edi flags eip fs b ret scope : BitVec 32} {mem : Memory}
  {undefined : ℕ → BitVec 32}

theorem afterAll_prologueListing (handler : BitVec 32) (hfs : ∀ d : BitVec 32, d.toNat+4 ≤ 80 → Apart (b+d) 4 fs 4)
    (h12 : word mem (b+52) = 12) (hscope : word mem (b+48) = scope) (hret : word mem (b+44) = ret) :
    (Machine.mk ⟨eax,ecx,edx,ebx,b+44,ebp,esi,edi⟩ flags eip mem fs undefined).afterAll
        (prologueListing handler) =
      Machine.mk ⟨b+36,ecx,edx,ebx,b+12,b+52,esi,edi⟩
        (blend (blend flags resumeFlag 0) arithmeticFlags (subFlags (b+36) 12))
        ret (setWord (setWords mem b [(40,handler),(36,word mem fs),(52,ebp),
          (20,ebx),(16,esi),(12,edi),(28,b+12),(8,ret),(48,-1),(44,scope)]) fs (b+36)) fs undefined := by
  simp only [BitVec.ofNat_eq_ofNat] at h12 hscope hret hfs
  have hfs' : ∀ d : BitVec 32, d.toNat+4 ≤ 80 → Apart fs 4 (b+d) 4 := fun d hd => (hfs d hd).symm
  simp (disch := first | decide | (first | apply hfs | apply hfs') <;> decide) [prologueListing, setWords, BitVec.sub_eq_add_neg,
    BitVec.add_assoc, h12, hscope, hret, word_setWord_add, word_setWord_of_apart, blend_resumeFlag]
end Effects

/-! The machine at the three stops. -/

def wrapperEntered (s : CwdSehSpec) (m : Machine) : Machine :=
  { m with
    regs := { m.regs with esp := m.regs.esp-4 }
    flags := blend m.flags resumeFlag 0
    eip := s.wrapper.targetAddress
    mem := setWords m.mem (m.regs.esp-60) [(56,s.wrapper.returnAddress)] }

def prologueEntered (s : CwdSehSpec) (m : Machine) : Machine :=
  { m with
    regs := { m.regs with esp := m.regs.esp-16 }
    flags := blend m.flags resumeFlag 0
    eip := s.prologue.targetAddress
    mem := setWords m.mem (m.regs.esp-60) [(56,s.wrapper.returnAddress),(52,12),
      (48,s.wrapper.imageBase+s.scopeRva),(44,s.prologue.returnAddress)] }

def prologueReturned (s : CwdSehSpec) (m : Machine) : Machine :=
  { m with
    regs := { m.regs with eax := m.regs.esp-24, ebp := m.regs.esp-8, esp := m.regs.esp-48 }
    flags := blend (blend m.flags resumeFlag 0) arithmeticFlags (subFlags (m.regs.esp-24) 12)
    eip := s.prologue.returnAddress
    mem := setWord (setWords (prologueEntered s m).mem (m.regs.esp-60)
      [(40,s.wrapper.imageBase+s.handlerRva),(36,word m.mem m.fs),(52,m.regs.ebp),
        (20,m.regs.ebx),(16,m.regs.esi),(12,m.regs.edi),(28,m.regs.esp-48),
        (8,s.prologue.returnAddress),(48,-1),(44,s.wrapper.imageBase+s.scopeRva)])
      m.fs (m.regs.esp-24) }

/-- The code in memory: the CALL of the wrapper, the wrapper and the prologue. -/
structure CwdSehLoaded (s : CwdSehSpec) (c : CwdSehCode) (code : Memory) : Prop where
  emitted : cwdSehCode s = some c
  call : HasBytes code s.wrapper.callAddress s.wrapper.call.toList
  wrapper : HasBytes code s.wrapper.targetAddress c.wrapper.toList
  prologue : HasBytes code s.prologue.targetAddress c.prologue.toList

variable {p : FileManagerEntrySpec} {code : Memory} {m : Machine}

theorem validFrameTargetSpec_of_cwdSehCode (h : cwdSehCode s = some c) :
    validFrameTargetSpec s.wrapper ∧ validFrameTargetSpec s.prologue := by
  dsimp only [cwdSehCode] at h
  split at h
  · contradiction
  rename_i hguard
  simp only [Bool.or_eq_true, not_or, Bool.not_eq_true', Bool.not_eq_false] at hguard
  exact ⟨hguard.1.1.1.1.1.1.1.1.1,hguard.1.1.1.1.1.1.1.1.2⟩

/-- The wrapper goes on to the prologue with its CALL. -/
theorem prologue_call (h : validCwdSehSpec s p) :
    s.prologue.imageBase = s.wrapper.imageBase ∧
      s.wrapper.targetAddress+12 = s.prologue.returnAddress := by
  unfold validCwdSehSpec at h
  split at h
  · simp only [Bool.and_eq_true, Bool.not_eq_true', Bool.or_eq_false_iff,
      decide_eq_false_iff_not, not_not] at h
    obtain ⟨⟨⟨⟨⟨⟨⟨⟨⟨⟨hw,hp⟩,_⟩,_⟩,_⟩,_⟩,hcall⟩,_⟩,_⟩,_⟩,_⟩ := h
    refine ⟨hp.trans hw.symm,?_⟩
    rw [FrameTargetSpec.returnAddress, FrameTargetSpec.targetAddress, hp, hw, hcall]
    ring
  · contradiction

theorem run_call (hcode : CwdSehLoaded s c code) (heip : m.eip = s.wrapper.callAddress) :
    run code 1 m = some (wrapperEntered s m) := by
  obtain ⟨hvalid,_⟩ := validFrameTargetSpec_of_cwdSehCode hcode.emitted
  have htop : m.regs.esp-4 = m.regs.esp-60+56 := by ring
  rw [run, FrameTargetSpec.step_call hvalid heip hcode.call, Option.bind_some, run, wrapperEntered,
    setWords, List.foldl_cons, List.foldl_nil, ← htop]

theorem run_wrapper (hspec : validCwdSehSpec s p) (hcode : CwdSehLoaded s c code) :
    run code 3 (wrapperEntered s m) = some (prologueEntered s m) := by
  obtain ⟨_,hvalid⟩ := validFrameTargetSpec_of_cwdSehCode hcode.emitted
  obtain ⟨_,hreturn⟩ := prologue_call hspec
  have hbytes := hcode.wrapper
  rw [(cwdSehCode_eq hcode.emitted).1, hasBytes_append] at hbytes
  have hrun := run_listing (m := wrapperEntered s m)
    (straight_wrapperListing (s.wrapper.imageBase+s.scopeRva) hvalid) hbytes.1
  have htarget := FrameTargetSpec.returnAddress_distance hvalid
  simp only [← hreturn] at htarget
  obtain ⟨⟨eax,ecx,edx,ebx,esp,ebp,esi,edi⟩,flags,eip,mem,fs,undefined⟩ := m
  obtain ⟨b,rfl⟩ : ∃ b, esp = b+60 := ⟨esp-60,by ring⟩
  refine hrun.trans (congrArg some ?_)
  simp only [BitVec.ofNat_eq_ofNat] at htarget hreturn
  simp [wrapperEntered, wrapperListing, prologueEntered, setWords, BitVec.sub_eq_add_neg,
    BitVec.add_assoc, ← htarget, ← hreturn]

theorem run_prologue (hcode : CwdSehLoaded s c code)
    (hfs : ∀ d : BitVec 32, d.toNat+4 ≤ 80 → Apart (m.regs.esp-60+d) 4 m.fs 4) :
    run code 19 (prologueEntered s m) = some (prologueReturned s m) := by
  have hbytes := hcode.prologue
  rw [(cwdSehCode_eq hcode.emitted).2] at hbytes
  have hrun := run_listing (m := prologueEntered s m) (straight_prologueListing _) hbytes
  -- The pushes do not reach the head of the chain of handlers.
  have hhead : word (prologueEntered s m).mem m.fs = word m.mem m.fs := by
    apply word_setWords_of_apart
    simp only [List.forall_mem_cons]
    exact ⟨hfs _ (by decide),hfs _ (by decide),hfs _ (by decide),hfs _ (by decide),
      List.forall_mem_nil _⟩
  have hentered : prologueEntered s m =
      ⟨⟨m.regs.eax,m.regs.ecx,m.regs.edx,m.regs.ebx,m.regs.esp-60+44,m.regs.ebp,m.regs.esi,
        m.regs.edi⟩,blend m.flags resumeFlag 0,s.prologue.targetAddress,(prologueEntered s m).mem,
        m.fs,m.undefined⟩ := by
    rw [show m.regs.esp-60+44 = m.regs.esp-16 by ring]
    rfl
  have h36 : m.regs.esp-60+36 = m.regs.esp-24 := by ring
  have h52 : m.regs.esp-60+52 = m.regs.esp-8 := by ring
  have h12 : m.regs.esp-60+12 = m.regs.esp-48 := by ring
  refine hrun.trans (congrArg some ?_)
  have hafter {mem : Memory} {eip : Address} := @afterAll_prologueListing m.regs.eax m.regs.ecx m.regs.edx
    m.regs.ebx m.regs.ebp m.regs.esi m.regs.edi (blend m.flags resumeFlag 0) eip m.fs (m.regs.esp-60)
    s.prologue.returnAddress (s.wrapper.imageBase+s.scopeRva) mem m.undefined
    (s.wrapper.imageBase+s.handlerRva) hfs
  rw [hentered, hafter, hhead, h36, h52, h12, blend_blend_self]
  · rfl
  all_goals simp (disch := decide) [prologueEntered, setWords, word_setWord_add]

/-! What the checkpoint makes of the three stops. -/

/-- The stack around the stack pointer that the CALL found. -/
def stackWindow (esp : Address) (m : Machine) : StackWindow := words m.mem (esp-60) 20

/-- The caller of the wrapper. -/
structure CwdSehCaller (s : CwdSehSpec) (m : Machine) : Prop where
  eip : m.eip = s.wrapper.callAddress
  eax : m.regs.eax = 0
  ebx : m.regs.ebx = 0
  esi : m.regs.esi = 0
  edi : m.regs.edi = 24
  /-- The trap and direction flags are clear. -/
  flags : m.flags &&& 0x500 = 0
  origin : validCwdSehOrigin (registers m) (tibWords m)
  /-- No byte of the block is in the stack window. -/
  disjoint : ∀ i < 28, ∀ j < 80,
    m.fs+BitVec.ofNat 32 i ≠ m.regs.esp-60+BitVec.ofNat 32 j

/-- At a stage the checkpoint accepts exactly what it finds of `now`, but for the resume flag. -/
structure CwdSehDescribes (s : CwdSehSpec) (stage : ℕ) (m now : Machine) : Prop where
  frame : ∀ r, cwdSehFrame s stage (registers m) r ↔ AgreeBut resumeFlag r (registers now)
  memory : ∀ tib stack,
    cwdSehMemory s stage (registers m) (tibWords m) tib (stackWindow m.regs.esp m) stack ↔
      tib = tibWords now ∧ stack = stackWindow m.regs.esp now

/-- The checkpoint computes the flags of SUB. -/
theorem cwdSehFlags_eq (a : BitVec 32) :
    (if a < 12 then 1 else 0 : Address) ||| (if popcount (a-12 &&& 255)%2 = 0 then 4 else 0 : Address) |||
      ((a ^^^ 12 ^^^ a-12) &&& 16 : Address) ||| (if a-12 = 0 then 64 else 0 : Address) |||
      (((a-12) >>> 24) &&& 128 : Address) |||
      ((((a ^^^ 12) &&& (a ^^^ a-12)) >>> 20) &&& 0x800 : Address) = subFlags a 12 := by
  have hshuffle (c p x z s o : Address) :
      c ||| p ||| x ||| z ||| s ||| o = c ||| x ||| o ||| (p ||| z ||| s) := by ac_rfl
  rw [subFlags_eq_masks, ← resultFlags_eq_popcount]
  exact hshuffle _ _ _ _ _ _

/-- The registers at a stage, the resume flag apart. -/
def cwdSehRegisters (stage : ℕ) (saved : DispatchRegisters) : DispatchRegisters :=
  { saved with
    esp := saved.esp-(if stage = 1 then 4 else if stage = 2 then 16 else 48)
    eax := if stage = 3 then saved.esp-24 else saved.eax
    ebp := if stage = 3 then saved.esp-8 else saved.ebp
    flags := if stage < 3 then saved.flags
      else blend saved.flags arithmeticFlags (subFlags (saved.esp-24) 12) }

theorem cwdSehRegisters_flags (stage : ℕ) {saved : DispatchRegisters}
    (hflags : saved.flags &&& 0x500 = 0) : (cwdSehRegisters stage saved).flags &&& 0x500 = 0 := by
  dsimp only [cwdSehRegisters]
  split
  · exact hflags
  · rw [blend_and_of_disjoint (by decide), hflags]

theorem esp_of_validCwdSehOrigin {saved : DispatchRegisters} {t : TibWords}
    (h : validCwdSehOrigin saved t) :
    ¬saved.esp < 65596 ∧ ¬saved.esp > 0xffffffff-20 ∧ saved.esp.toNat%4 = 0 := by
  unfold validCwdSehOrigin at h
  split at h
  · cases h
  rename_i hguard
  simp only [Bool.or_eq_true, decide_eq_true_eq, not_or, not_not] at hguard
  exact ⟨hguard.1.1.1.1.1.1.1.1,hguard.1.1.1.1.1.1.1.2,hguard.1.1.1.1.1.1.2⟩

/-- The frame check accepts just one state of the registers, but for the resume flag. -/
theorem cwdSehFrame_iff {stage : ℕ} {r : DispatchRegisters} (h : CwdSehCaller s m)
    (hvalid : validFrameTargetSpec s.wrapper) (hstage : ¬stage < 1 ∧ ¬stage > 3) :
    cwdSehFrame s stage (registers m) r ↔
      AgreeBut resumeFlag r (cwdSehRegisters stage (registers m)) := by
  obtain ⟨_,heax,hebx,hesi,hedi,hflags,horigin,_⟩ := h
  replace heax : (registers m).eax = 0 := heax
  replace hebx : (registers m).ebx = 0 := hebx
  replace hesi : (registers m).esi = 0 := hesi
  replace hedi : (registers m).edi = 24 := hedi
  replace hflags : (registers m).flags &&& 0x500 = 0 := hflags
  obtain ⟨hlow,hhigh,haligned⟩ := esp_of_validCwdSehOrigin horigin
  generalize registers m = saved at *
  have hbits : (if stage < 3 then decide ((r.flags ^^^ saved.flags) &&& ~~~0x10000 = 0)
      else decide (r.flags &&& 0x8d5 = subFlags (saved.esp-24) 12) &&
        decide ((r.flags ^^^ saved.flags) &&& ~~~0x108d5 = 0)) = true ↔
      r.flags &&& ~~~resumeFlag = (cwdSehRegisters stage saved).flags &&& ~~~resumeFlag := by
    dsimp only [cwdSehRegisters]
    split
    · rw [decide_eq_true_eq]
      exact xor_and_eq_zero
    · rw [Bool.and_eq_true, decide_eq_true_eq, decide_eq_true_eq]
      apply agree_iff
      · rw [blend_and_of_within (by decide)]
        exact subFlags_within _ _
      · exact blend_and_of_disjoint (by decide)
      · decide
  have hclear (h : r.flags &&& ~~~resumeFlag =
      (cwdSehRegisters stage saved).flags &&& ~~~resumeFlag) : r.flags &&& 0x500 = 0 :=
    (and_eq_of_agree h (by decide)).trans (cwdSehRegisters_flags stage hflags)
  dsimp only [cwdSehFrame]
  rw [cwdSehFlags_eq, hvalid]
  simp only [Bool.if_false_left, Bool.and_eq_true, hbits, hlow, hhigh, haligned, heax, hebx, hesi,
    hedi, hflags, hstage, AgreeBut, DispatchRegisters.mk.injEq, Bool.not_eq_true',
    decide_false, Bool.false_or, ne_eq, not_true, Bool.not_true, Bool.or_false, Bool.or_eq_true,
    decide_eq_false_iff_not, not_or, not_not, decide_not]
  dsimp only [cwdSehRegisters] at hclear ⊢
  constructor
  · grind
  · grind

/-- Stores on the stack do not reach the block, nor the other way round. -/
theorem CwdSehCaller.apart (h : CwdSehCaller s m) : Apart (m.regs.esp-60) 80 m.fs 28 := by
  apply apart_of_disjoint (by decide) (by decide)
  intro i hi j hj heq
  exact h.disjoint j hj i hi heq.symm

theorem CwdSehCaller.apart_head (h : CwdSehCaller s m) {d : BitVec 32} (hd : d.toNat+4 ≤ 80) :
    Apart (m.regs.esp-60+d) 4 m.fs 4 :=
  (h.apart.left (by decide) (by decide) hd).mono le_rfl (by decide)

theorem describes_of {stage : ℕ} {now : Machine} (h : CwdSehCaller s m)
    (hvalid : validFrameTargetSpec s.wrapper) (hstage : ¬stage < 1 ∧ ¬stage > 3)
    (hregisters : AgreeBut resumeFlag (cwdSehRegisters stage (registers m)) (registers now))
    (htib : tibWords now = cwdSehTib stage (registers m) (tibWords m))
    (hstack : stackWindow m.regs.esp now =
      cwdSehStack s stage (registers m) (tibWords m) (stackWindow m.regs.esp m)) :
    CwdSehDescribes s stage m now where
  frame r := by
    rw [cwdSehFrame_iff h hvalid hstage, AgreeBut, AgreeBut, hregisters]
  memory tib stack := by
    rw [cwdSehMemory, h.origin, hvalid, htib, hstack]
    simp only [hstage, decide_false, Bool.not_true, Bool.or_false, Bool.false_eq_true, if_false,
      Bool.and_eq_true, decide_eq_true_eq]
    exact and_congr eq_comm eq_comm

/-- Stores in the window leave the block alone. -/
theorem CwdSehCaller.tib_setWords (h : CwdSehCaller s m) {mem : Memory}
    {ws : List (BitVec 32 × BitVec 32)} (hws : ∀ w ∈ ws, w.1.toNat+4 ≤ 80) :
    words (setWords mem (m.regs.esp-60) ws) m.fs 7 = words mem m.fs 7 := by
  refine words_congr (load_setWords_of_apart fun w hw => ?_)
  exact h.apart.left (by decide) (by decide) (hws w hw)

theorem describes_wrapperEntered (h : CwdSehCaller s m) (hvalid : validFrameTargetSpec s.wrapper) :
    CwdSehDescribes s 1 m (wrapperEntered s m) := by
  refine describes_of h hvalid (by decide) ?_ ?_ ?_
  · simp (disch := decide) [AgreeBut, cwdSehRegisters, registers, wrapperEntered, blend_and_of_disjoint]
  · exact h.tib_setWords (by simp)
  · simp (disch := decide) [stackWindow, wrapperEntered, setWords, words_setWord, cwdSehStack]
    rfl

theorem describes_prologueEntered (h : CwdSehCaller s m) (hvalid : validFrameTargetSpec s.wrapper)
    (hspec : validCwdSehSpec s p) :
    CwdSehDescribes s 2 m (prologueEntered s m) := by
  have hreturn : s.wrapper.imageBase+s.prologue.callRva+5 = s.prologue.returnAddress := by
    rw [FrameTargetSpec.returnAddress, (prologue_call hspec).1]
  refine describes_of h hvalid (by decide) ?_ ?_ ?_
  · simp (disch := decide) [AgreeBut, cwdSehRegisters, registers, prologueEntered, blend_and_of_disjoint]
  · exact h.tib_setWords (by simp)
  · simp only [cwdSehStack, hreturn]
    simp (disch := decide) [stackWindow, prologueEntered, setWords, words_setWord]
    rfl

theorem describes_prologueReturned (h : CwdSehCaller s m) (hvalid : validFrameTargetSpec s.wrapper)
    (hspec : validCwdSehSpec s p) :
    CwdSehDescribes s 3 m (prologueReturned s m) := by
  have hreturn : s.wrapper.imageBase+s.prologue.callRva+5 = s.prologue.returnAddress := by
    rw [FrameTargetSpec.returnAddress, (prologue_call hspec).1]
  refine describes_of h hvalid (by decide) ?_ ?_ ?_
  · simp (disch := decide) [AgreeBut, cwdSehRegisters, registers, prologueReturned,
      ← blend_resumeFlag, blend_and_of_disjoint]
  · have hhead (mem : Memory) : words (setWord mem m.fs (m.regs.esp-24)) m.fs 7 =
        (words mem m.fs 7).set 0 (m.regs.esp-24) := by
      have hset := @words_setWord mem m.fs (m.regs.esp-24) 7 0 (by decide) rfl (by decide)
      rw [add_zero] at hset
      exact hset
    change words (prologueReturned s m).mem m.fs 7 = (words m.mem m.fs 7).set 0 (m.regs.esp-24)
    rw [prologueReturned, hhead, h.tib_setWords (by simp), prologueEntered, h.tib_setWords (by simp)]
  · have hwindow : stackWindow m.regs.esp (prologueReturned s m) = words (setWords
        (prologueEntered s m).mem (m.regs.esp-60)
        [(40,s.wrapper.imageBase+s.handlerRva),(36,word m.mem m.fs),(52,m.regs.ebp),
        (20,m.regs.ebx),(16,m.regs.esi),(12,m.regs.edi),(28,m.regs.esp-48),
        (8,s.prologue.returnAddress),(48,-1),(44,s.wrapper.imageBase+s.scopeRva)])
        (m.regs.esp-60) 20 := by
      have happart : Apart (m.regs.esp-60) 80 m.fs 4 := h.apart.mono le_rfl (by decide)
      exact words_congr (load_setWord_of_apart happart.symm)
    rw [hwindow]
    simp only [cwdSehStack, hreturn]
    simp (disch := decide) [stackWindow, prologueEntered, setWords, words_setWord]
    have hhead : (tibWords m)[0] = word m.mem m.fs := by simp [tibWords]
    rw [hhead]
    generalize words m.mem (m.regs.esp-60#32) 20 = w
    refine Vector.ext fun i hi => ?_
    interval_cases i <;> simp [registers, FrameTargetSpec.returnAddress]

/-- From the CALL of the wrapper on, the execution comes to the three stops, and the checkpoint
describes each of them. -/
theorem cwd_seh_describes_code (hspec : validCwdSehSpec s p) (hcode : CwdSehLoaded s c code)
    (hcaller : CwdSehCaller s m) :
    ∃ m₁ m₂ m₃, run code 1 m = some m₁ ∧ run code 4 m = some m₂ ∧ run code 23 m = some m₃ ∧
      m₁.eip = s.wrapper.targetAddress ∧ m₂.eip = s.prologue.targetAddress ∧
      m₃.eip = s.prologue.returnAddress ∧
      CwdSehDescribes s 1 m m₁ ∧ CwdSehDescribes s 2 m m₂ ∧ CwdSehDescribes s 3 m m₃ := by
  obtain ⟨hvalid,_⟩ := validFrameTargetSpec_of_cwdSehCode hcode.emitted
  have hcall := run_call hcode hcaller.eip
  have hwrapper : run code 4 m = some (prologueEntered s m) :=
    (run_add (k := 3) hcall).trans (run_wrapper hspec hcode)
  have hprologue : run code 23 m = some (prologueReturned s m) :=
    (run_add (k := 19) hwrapper).trans (run_prologue hcode fun _ hd => hcaller.apart_head hd)
  exact ⟨wrapperEntered s m,prologueEntered s m,prologueReturned s m,hcall,hwrapper,hprologue,rfl,rfl,
    rfl,describes_wrapperEntered hcaller hvalid,describes_prologueEntered hcaller hvalid hspec,
    describes_prologueReturned hcaller hvalid hspec⟩

/-! The reviewed image, and a thread in it. -/

def reviewedFileManagerSpec : FileManagerEntrySpec where
  manager := ⟨4194304,18313216,1293146,1279728,#v[0xe8,0x91,0xcb,0xff,0xff],
    #v[0x57,0x68,0x80,0,0,0,0x68,0xe0,0x1a,0xb7,0,0xe8,0x91,0xe7,0x2f,0]⟩
  cwdRva := 4419217
  bufferRva := 7805664
  suffixRva := 4562812
  returnPrefix := #v[0x6a,5,0xe8,0x0a,0xb0,0xec,0xff,0x83,0xc4,4,0xe8,0x22,0x62,0,0,0xb0]

def reviewedCwdSehSpec : CwdSehSpec where
  wrapper := ⟨4194304,18313216,1279739,4419217,#v[0xe8,0x91,0xe7,0x2f,0],
    #v[0x6a,0x0c,0x68,0x18,0xdf,0x88,0,0xe8,0x43,0x18,0xff,0xff,0x6a,7,0xe8,0x1a]⟩
  prologue := ⟨4194304,18313216,4419224,4359904,#v[0xe8,0x43,0x18,0xff,0xff],
    #v[0x68,0xa4,0x5e,0x82,0,0x64,0xa1,0,0,0,0,0x50,0x8b,0x44,0x24,0x10]⟩
  scopeRva := 4775704
  handlerRva := 4349604
  cleanupRva := 4419278
  stopPrefix := #v[0x6a,7,0xe8,0x1a,0x3f,0xff,0xff,0x59,0x83,0x65,0xfc,0,0xff,0x75,0x0c,0xff]

def reviewedCwdSehCode : CwdSehCode where
  wrapper := #v[0x6a,0x0c,0x68,0x18,0xdf,0x88,0,0xe8,0x43,0x18,0xff,0xff,0x6a,7,0xe8,0x1a]
  prologue := writeDword 1 (4194304+4349604) sehPrologueRaw
  scope := writeDword 8 (4194304+4419278) (writeDword 0 0xffffffff (.replicate 12 0))

def reviewedCwdSehMemory : Memory :=
  let s := reviewedCwdSehSpec
  let memory := store (fun _ => 0) s.wrapper.callAddress s.wrapper.call.toList
  let memory := store memory s.wrapper.targetAddress reviewedCwdSehCode.wrapper.toList
  store memory s.prologue.targetAddress reviewedCwdSehCode.prologue.toList

def reviewedCwdSehThread : Machine where
  regs := ⟨0,7,9,0,0x19ff00,0x19ff74,0,24⟩
  flags := 0x246
  eip := reviewedCwdSehSpec.wrapper.callAddress
  mem := setWords (fun _ => 0) 0x7ffde000 [(0,-1),(4,0x1a0000),(8,0x100000),(24,0x7ffde000)]
  fs := 0x7ffde000
  undefined := fun _ => 0

theorem cwd_seh_describes_reviewed_code :
    ∃ m₁ m₂ m₃, run reviewedCwdSehMemory 1 reviewedCwdSehThread = some m₁ ∧
      run reviewedCwdSehMemory 4 reviewedCwdSehThread = some m₂ ∧
      run reviewedCwdSehMemory 23 reviewedCwdSehThread = some m₃ ∧
      m₁.eip = reviewedCwdSehSpec.wrapper.targetAddress ∧
      m₂.eip = reviewedCwdSehSpec.prologue.targetAddress ∧
      m₃.eip = reviewedCwdSehSpec.prologue.returnAddress ∧
      CwdSehDescribes reviewedCwdSehSpec 1 reviewedCwdSehThread m₁ ∧
      CwdSehDescribes reviewedCwdSehSpec 2 reviewedCwdSehThread m₂ ∧
      CwdSehDescribes reviewedCwdSehSpec 3 reviewedCwdSehThread m₃ :=
  cwd_seh_describes_code (p := reviewedFileManagerSpec) (by decide)
    (c := reviewedCwdSehCode)
    ⟨by decide,by decide,by decide,by decide⟩
    ⟨rfl,rfl,rfl,rfl,rfl,by decide,by decide,by decide⟩

end Saex
