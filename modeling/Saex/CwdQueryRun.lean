import Saex.CwdReturn
import Saex.Ia32Kept
import Saex.CdStreamAllocationRun

/-! The code that the checkpoint pins, executed from the return of the selector into the function
that queries the current directory. -/
namespace Saex
open LittleEndian WrappedMemory Ia32

/-! What the bytes of `cwdQueryCode` stand for. -/

def wrapperArgumentsListing : Listing :=
  [([0x59],.pop .ecx),
   ([0x83,0x65,0xfc,0],.alu .and (.mem { base := some .ebp, displacement := -4 }) (.imm 0)),
   ([0xff,0x75,0x0c],.push (.mem { base := some .ebp, displacement := 12 })),
   ([0xff,0x75,8],.push (.mem { base := some .ebp, displacement := 8 })),
   ([0x6a,0],.push (.imm 0))]

def helperListing (cookie : BitVec 32) : Listing :=
  [([0x55],.push (.reg .ebp)),
   ([0x8b,0xec],.mov (.reg .ebp) (.reg .esp)),
   ([0x81,0xec]++write 4 (0x10c : BitVec 32),.alu .sub (.reg .esp) (.imm (dword 0x10c))),
   (0xa1 :: write 4 cookie,.mov (.reg .eax) (.mem { displacement := dword cookie })),
   ([0x33,0x45,4],.alu .xor (.reg .eax) (.mem { base := some .ebp, displacement := 4 })),
   ([0x53],.push (.reg .ebx)),
   ([0x8b,0x5d,8],.mov (.reg .ebx) (.mem { base := some .ebp, displacement := 8 })),
   ([0x85,0xdb],.test (.reg .ebx) (.reg .ebx)),
   ([0x89,0x45,0xfc],.mov (.mem { base := some .ebp, displacement := -4 }) (.reg .eax))]

/-- No drive is given. -/
def driveBranchListing : Listing := [([0x74,0x5f],.jcc .zero true 0x5f)]

def queryArgumentsListing : Listing :=
  [([0x8d,0x85,0xf4,0xfe,0xff,0xff],.lea .eax { base := some .ebp, displacement := -268 }),
   ([0x50],.push (.reg .eax)),
   (0x68 :: write 4 (260 : BitVec 32),.push (.imm (dword 260)))]

theorem straight_wrapperArgumentsListing : Straight wrapperArgumentsListing := by
  iterate 4 refine straight_cons ⟨by simp,fun _ => rfl⟩ trivial ?_
  exact straight_singleton ⟨by simp,fun _ => rfl⟩

theorem straight_helperListing (cookie : BitVec 32) : Straight (helperListing cookie) := by
  iterate 8 refine straight_cons ⟨by simp,fun _ => rfl⟩ trivial ?_
  exact straight_singleton ⟨by simp,fun _ => rfl⟩

theorem straight_driveBranchListing : Straight driveBranchListing :=
  straight_singleton ⟨by simp,fun _ => rfl⟩

theorem straight_queryArgumentsListing : Straight queryArgumentsListing := by
  iterate 2 refine straight_cons ⟨by simp,fun _ => rfl⟩ trivial ?_
  exact straight_singleton ⟨by simp,fun _ => rfl⟩

variable {q : CwdQuerySpec} {l : CwdLockSpec} {c : CwdQueryCode} {code : Memory} {m : Machine}
  {destination : BitVec 32}

/-! Where the code and the words are that the execution reads. -/

namespace CwdQuerySpec

def helper (q : CwdQuerySpec) (l : CwdLockSpec) : Address := l.selector.imageBase+q.helperRva
def cookie (q : CwdQuerySpec) (l : CwdLockSpec) : Address := l.selector.imageBase+q.cookieRva
def iat (q : CwdQuerySpec) (l : CwdLockSpec) : Address := l.selector.imageBase+q.iatRva

end CwdQuerySpec

/-- Where the helper returns to. -/
def CwdLockSpec.helperReturn (l : CwdLockSpec) : Address := l.selector.callAddress+23

theorem cwdQueryCode_encoding (h : cwdQueryCode q l = some c) :
    c.wrapper.toList = encoding wrapperArgumentsListing++
        encoding (callListing (q.helperRva-(l.selector.callRva+23))) ∧
      c.helper.toList = encoding (helperListing (q.cookie l))++encoding driveBranchListing ∧
      c.query.toList = encoding queryArgumentsListing++([0xff,0x15]++write 4 (q.iat l)) := by
  dsimp only [cwdQueryCode] at h
  split at h
  · contradiction
  rw [← Option.some.inj h]
  refine ⟨?_,?_,?_⟩
  all_goals
    rw [toList_writeDword (by decide)]
    rfl

/-- The code in memory, behind the CALL of the selector. -/
structure CwdQueryLoaded (q : CwdQuerySpec) (l : CwdLockSpec) (c : CwdQueryCode) (code : Memory) :
    Prop where
  emits : cwdQueryCode q l = some c
  wrapper : HasBytes code (l.selector.callAddress+5) c.wrapper.toList
  helper : HasBytes code (q.helper l) c.helper.toList
  query : HasBytes code (q.helper l+123) c.query.toList

namespace CwdQueryLoaded
variable (h : CwdQueryLoaded q l c code)
include h

theorem wrapper_bytes : HasBytes code (l.selector.callAddress+5) (encoding wrapperArgumentsListing) ∧
    HasBytes code (l.selector.callAddress+18)
      (encoding (callListing (q.helperRva-(l.selector.callRva+23)))) := by
  have hbytes := h.wrapper
  rw [(cwdQueryCode_encoding h.emits).1, hasBytes_append] at hbytes
  rwa [show l.selector.callAddress+18 = l.selector.callAddress+5+13 by ring]

theorem helper_bytes : HasBytes code (q.helper l) (encoding (helperListing (q.cookie l))) ∧
    HasBytes code (q.helper l+26) (encoding driveBranchListing) := by
  have hbytes := h.helper
  rwa [(cwdQueryCode_encoding h.emits).2.1, hasBytes_append] at hbytes

theorem query_bytes : HasBytes code (q.helper l+123) (encoding queryArgumentsListing) ∧
    HasBytes code (q.helper l+135) ([0xff,0x15]++write 4 (q.iat l)) := by
  have hbytes := h.query
  rw [(cwdQueryCode_encoding h.emits).2.2, hasBytes_append] at hbytes
  rwa [show q.helper l+135 = q.helper l+123+12 by ring]

end CwdQueryLoaded

/-! The machine at the stops. The window that the checkpoints compare begins 12 bytes below the stack
pointer behind the selector, the frame of the helper is below it. -/

/-- The return of the selector in the wrapper. The destination and its size are the wrapper's own
arguments; the words that the code reads are not on the part of the stack that is written. -/
structure CwdQueryCaller (q : CwdQuerySpec) (l : CwdLockSpec) (destination : BitVec 32) (m : Machine) :
    Prop where
  eip : m.eip = l.selector.callAddress+5
  ebp : m.regs.ebp = m.regs.esp+44
  ebx : m.regs.ebx = 0
  esi : m.regs.esi = 0
  edi : m.regs.edi = 24
  flags : m.flags &&& 0x500 = 0
  low : 65840 ≤ m.regs.esp
  high : m.regs.esp ≤ 0xffffffff-72
  aligned : m.regs.esp.toNat%4 = 0
  lock : word m.mem m.regs.esp = 7
  argument : word m.mem (m.regs.ebp+8) = destination
  capacity : word m.mem (m.regs.ebp+12) = 128
  globals : ∀ x ∈ [q.cookie l,q.iat l], Apart (m.regs.esp-304) 376 x 4

/-- The cookie, as the helper keeps it. -/
def encodedCookie (q : CwdQuerySpec) (l : CwdLockSpec) (m : Machine) : BitVec 32 :=
  word m.mem (q.cookie l) ^^^ l.helperReturn

def wrapperMemory (destination : BitVec 32) (m : Machine) : Memory :=
  setWords m.mem (m.regs.esp-12) [(52,0),(12,128),(8,destination),(4,0)]

def calledMemory (l : CwdLockSpec) (destination : BitVec 32) (m : Machine) : Memory :=
  setWord (wrapperMemory destination m) (m.regs.esp-12) l.helperReturn

def helperMemory (q : CwdQuerySpec) (l : CwdLockSpec) (destination : BitVec 32) (m : Machine) : Memory :=
  setWords (calledMemory l destination m) (m.regs.esp-304)
    [(288,m.regs.ebp),(16,m.regs.ebx),(284,encodedCookie q l m)]

def wrapperPushed (l : CwdLockSpec) (destination : BitVec 32) (m : Machine) : Machine :=
  { m with
    regs := { m.regs with ecx := 7, esp := m.regs.esp-8 }
    flags := blend (blend m.flags resumeFlag 0) arithmeticFlags (resultFlags 0 ||| m.undefined 0 &&& 0x10)
    eip := l.selector.callAddress+18
    mem := wrapperMemory destination m
    undefined := fun n => m.undefined (n+1) }

def helperEntered (q : CwdQuerySpec) (l : CwdLockSpec) (destination : BitVec 32) (m : Machine) :
    Machine :=
  { wrapperPushed l destination m with
    regs := { m.regs with ecx := 7, esp := m.regs.esp-12 }
    eip := q.helper l
    mem := calledMemory l destination m }

/-- Behind the test of the drive. -/
def driveTested (q : CwdQuerySpec) (l : CwdLockSpec) (destination : BitVec 32) (m : Machine) : Machine :=
  { m with
    regs := { m.regs with
      eax := encodedCookie q l m, ecx := 7, ebx := 0, esp := m.regs.esp-288, ebp := m.regs.esp-16 }
    flags := blend (blend m.flags resumeFlag 0) arithmeticFlags (resultFlags 0 ||| m.undefined 2 &&& 0x10)
    eip := q.helper l+26
    mem := helperMemory q l destination m
    undefined := fun n => m.undefined (n+3) }

def queryPushed (q : CwdQuerySpec) (l : CwdLockSpec) (destination : BitVec 32) (m : Machine) : Machine :=
  { driveTested q l destination m with
    regs := { (driveTested q l destination m).regs with
      eax := m.regs.esp-284, esp := m.regs.esp-296 }
    eip := q.helper l+135
    mem := setWords (helperMemory q l destination m) (m.regs.esp-304) [(12,m.regs.esp-284),(8,260)] }

/-- In the function. -/
def queryEntered (q : CwdQuerySpec) (l : CwdLockSpec) (destination : BitVec 32) (m : Machine) : Machine :=
  { queryPushed q l destination m with
    regs := { (queryPushed q l destination m).regs with esp := m.regs.esp-300 }
    eip := word m.mem (q.iat l)
    mem := setWords (helperMemory q l destination m) (m.regs.esp-304)
      [(12,m.regs.esp-284),(8,260),(4,q.helper l+141)] }

section Entry
variable (hcode : CwdQueryLoaded q l c code) (hcaller : CwdQueryCaller q l destination m)

include hcode hcaller in
theorem reaches_wrapperPushed : Reaches code m (wrapperPushed l destination m) := by
  refine reaches_listing straight_wrapperArgumentsListing hcode.wrapper_bytes.1 hcaller.eip ?_
  obtain ⟨heip,hebp,_,_,_,_,_,_,_,hlock,hargument,hcapacity,_⟩ := hcaller
  rw [wrapperPushed, wrapperMemory]
  obtain ⟨⟨eax,ecx,edx,ebx,esp,ebp,esi,edi⟩,flags,eip,mem,fs,undefined⟩ := m
  simp only at heip hebp
  obtain ⟨b,rfl⟩ : ∃ b, esp = b+304 := ⟨esp-304,by ring⟩
  subst hebp
  simp [BitVec.add_assoc] at hlock hargument hcapacity
  simp (disch := decide) [wrapperArgumentsListing, heip, hlock, hargument, hcapacity, setWords,
    BitVec.sub_eq_add_neg, BitVec.add_assoc, word_setWord_add, blend_resumeFlag]

include hcode in
theorem reaches_helperEntered :
    Reaches code (wrapperPushed l destination m) (helperEntered q l destination m) := by
  have htarget : l.selector.callAddress+23+(q.helperRva-(l.selector.callRva+23)) = q.helper l := by
    rw [FrameTargetSpec.callAddress, CwdQuerySpec.helper]
    ring
  refine reaches_listing (straight_callListing _) hcode.wrapper_bytes.2 rfl ?_
  rw [helperEntered, wrapperPushed, calledMemory, CwdLockSpec.helperReturn, ← htarget]
  simp (disch := decide) [callListing, BitVec.sub_eq_add_neg, BitVec.add_assoc, blend_resumeFlag]

include hcaller in
/-- What is written of the stack is not where the cookie and the import are. -/
theorem word_setWords_of_globals {x : Address} (hx : x ∈ [q.cookie l,q.iat l]) {mem : Memory}
    {ws : List (BitVec 32 × BitVec 32)} (hws : ∀ w ∈ ws, w.1.toNat+4 ≤ 376) :
    word (setWords mem (m.regs.esp-304) ws) x = word mem x :=
  word_setWords_of_stretch (hcaller.globals x hx) hws

include hcaller in
theorem word_calledMemory {x : Address} (hx : x ∈ [q.cookie l,q.iat l]) :
    word (calledMemory l destination m) x = word m.mem x := by
  have hwindow : Apart (m.regs.esp-12) 84 x 4 := by
    rw [show m.regs.esp-12 = m.regs.esp-304+292 by ring]
    exact (hcaller.globals x hx).left (by decide) (by decide) (by decide)
  rw [calledMemory, wrapperMemory, word_setWord_of_apart (hwindow.mono (by decide) le_rfl),
    word_setWords_of_stretch hwindow (by simp)]

include hcode hcaller in
theorem reaches_driveTested :
    Reaches code (helperEntered q l destination m) (driveTested q l destination m) := by
  have hcookie : word (setWord (calledMemory l destination m) (m.regs.esp-16) m.regs.ebp) (q.cookie l) =
      word m.mem (q.cookie l) := by
    have hframe : Apart (m.regs.esp-16) 4 (q.cookie l) 4 := by
      rw [show m.regs.esp-16 = m.regs.esp-304+288 by ring]
      exact (hcaller.globals _ (by simp)).left (by decide) (by decide) (by decide)
    rw [word_setWord_of_apart hframe, word_calledMemory hcaller (by simp)]
  have hreturn : word (setWord (calledMemory l destination m) (m.regs.esp-16) m.regs.ebp)
      (m.regs.esp-12) = l.helperReturn := by
    rw [word_setWord_of_apart (by rw [BitVec.sub_eq_add_neg, BitVec.sub_eq_add_neg]; exact Apart.add (by decide))]
    exact word_setWord_self _ _ _
  have hdrive : word (setWord (setWord (calledMemory l destination m) (m.regs.esp-16) m.regs.ebp)
      (m.regs.esp-288) m.regs.ebx) (m.regs.esp-8) = 0 := by
    obtain ⟨b,hb⟩ : ∃ b, m.regs.esp = b+304 := ⟨m.regs.esp-304,by ring⟩
    simp (disch := decide) [calledMemory, wrapperMemory, setWords, hb, BitVec.sub_eq_add_neg,
      BitVec.add_assoc, word_setWord_add]
  refine reaches_listing (straight_helperListing _) hcode.helper_bytes.1 rfl ?_
  rw [helperEntered, driveTested, helperMemory, encodedCookie]
  generalize calledMemory l destination m = mem' at *
  obtain ⟨⟨eax,ecx,edx,ebx,esp,ebp,esi,edi⟩,flags,eip,mem,fs,undefined⟩ := m
  obtain ⟨b,rfl⟩ : ∃ b, esp = b+304 := ⟨esp-304,by ring⟩
  simp [BitVec.sub_eq_add_neg, BitVec.add_assoc] at hcookie hreturn hdrive
  simp (disch := decide) [helperListing, wrapperPushed, hcookie, hreturn, hdrive, setWords,
    BitVec.sub_eq_add_neg, BitVec.add_assoc, blend_resumeFlag, blend_blend_self]

/-- Behind the branch. -/
def queryPath (q : CwdQuerySpec) (l : CwdLockSpec) (destination : BitVec 32) (m : Machine) : Machine :=
  { driveTested q l destination m with eip := q.helper l+123 }

include hcode in
theorem reaches_queryPath :
    Reaches code (driveTested q l destination m) (queryPath q l destination m) := by
  refine reaches_listing straight_driveBranchListing hcode.helper_bytes.2 rfl ?_
  rw [queryPath, driveTested]
  simp (disch := decide) [driveBranchListing, holds_zero_logic, blend_resumeFlag, BitVec.add_assoc]

include hcode in
theorem reaches_queryPushed :
    Reaches code (queryPath q l destination m) (queryPushed q l destination m) := by
  refine reaches_listing straight_queryArgumentsListing hcode.query_bytes.1 rfl ?_
  rw [queryPushed, queryPath, driveTested]
  generalize helperMemory q l destination m = mem'
  generalize encodedCookie q l m = cookie
  obtain ⟨⟨eax,ecx,edx,ebx,esp,ebp,esi,edi⟩,flags,eip,mem,fs,undefined⟩ := m
  obtain ⟨b,rfl⟩ : ∃ b, esp = b+304 := ⟨esp-304,by ring⟩
  simp only [queryArgumentsListing, afterAll_cons, afterAll_nil, Machine.after, Machine.execute,
    Machine.setReg, Registers.get, Registers.set, Machine.push, Machine.operand]
  simp (disch := decide) [setWords, BitVec.sub_eq_add_neg, BitVec.add_assoc, blend_resumeFlag]

include hcode hcaller in
theorem reaches_queryEntered :
    Reaches code (queryPushed q l destination m) (queryEntered q l destination m) := by
  have hslot : word (queryPushed q l destination m).mem (q.iat l) = word m.mem (q.iat l) := by
    rw [queryPushed, helperMemory, word_setWords_of_globals hcaller (by simp) (by simp),
      word_setWords_of_globals hcaller (by simp) (by simp), word_calledMemory hcaller (by simp)]
  have hcall := reaches_callByWord (m := queryPushed q l destination m) hcode.query_bytes.2
  rw [hslot] at hcall
  simpa (disch := decide) [queryEntered, queryPushed, driveTested, setWords, blend_resumeFlag,
    BitVec.sub_eq_add_neg, BitVec.add_assoc] using hcall

end Entry

/-! What the checkpoint compares, at its stops. -/

/-- The flags that the checkpoint does not look at. -/
def queryFree (stage : ℕ) : BitVec 32 :=
  if stage = 3 ∨ stage = 4 then resumeFlag ||| 0x810 else arithmeticFlags ||| resumeFlag

def queryWindow (esp : Address) (m : Machine) : QueryWindow := words m.mem (esp-12) 21

/-- Exactly these registers, but for some flags, and exactly this window are accepted. -/
structure CwdQueryDescribes (stage : ℕ) (q : CwdQuerySpec) (l : CwdLockSpec) (destination : BitVec 32)
    (m m' : Machine) : Prop where
  frame : ∀ r, cwdQueryFrame stage (registers m) r (word m.mem (q.cookie l)) l.helperReturn ↔
    AgreeBut (queryFree stage) r (registers m')
  stack : ∀ now, cwdQueryStack stage (queryWindow m.regs.esp m) now destination l.helperReturn ↔
    now = queryWindow m.regs.esp m'

/-- The registers that are expected. -/
def queryRegisters (stage : ℕ) (cookie : BitVec 32) (s : DispatchRegisters) : DispatchRegisters :=
  let s := { s with ecx := 7 }
  match stage with
  | 1 => { s with esp := s.esp-8 }
  | 2 => { s with esp := s.esp-12 }
  | 3 => { s with esp := s.esp-288, ebp := s.esp-16, eax := cookie }
  | 4 => { s with esp := s.esp-288, ebp := s.esp-16, eax := cookie }
  | 5 => { s with esp := s.esp-296, ebp := s.esp-16, eax := s.esp-284 }
  | _ => { s with esp := s.esp-300, ebp := s.esp-16, eax := s.esp-284 }

section Frames
variable (hcaller : CwdQueryCaller q l destination m)
include hcaller

theorem cwdQueryFrame_iff {stage : ℕ} {r now : DispatchRegisters} (hstage : 1 ≤ stage ∧ stage ≤ 6)
    (hnow : now = { queryRegisters stage (encodedCookie q l m) (registers m) with flags := now.flags })
    (hrest : now.flags &&& 0xfffef72a = m.flags &&& 0xfffef72a)
    (hresult : stage = 3 ∨ stage = 4 → now.flags &&& 0xc5 = 0x44) :
    cwdQueryFrame stage (registers m) r (word m.mem (q.cookie l)) l.helperReturn ↔
      AgreeBut (queryFree stage) r now := by
  have hrest' := @flags_unchanged_iff r.flags now.flags m.flags 0xfffef72a (arithmeticFlags ||| resumeFlag)
    hcaller.flags hrest (by decide) (by decide)
  have hresult' := fun h => @flags_iff r.flags now.flags m.flags 0xc5 0xfffef72a (resumeFlag ||| 0x810)
    0x44 hcaller.flags (hresult h) hrest (by decide) (by decide)
  rw [agreeBut_iff]
  obtain ⟨_,hebp,hebx,hesi,hedi,hflags,hlow,hhigh,haligned,_⟩ := hcaller
  obtain ⟨esp,eax,ebx,ecx,edx,esi,edi,ebp',flags⟩ := now
  rw [DispatchRegisters.mk.injEq] at hnow
  rw [encodedCookie] at hnow
  obtain ⟨h1,h2⟩ := hstage
  simp only [registers] at hnow ⊢
  interval_cases stage <;>
    simp [cwdQueryFrame, queryFree, queryRegisters, hebp, hebx, hesi, hedi, haligned]
      at hnow hrest' hresult' ⊢
  all_goals grind

omit hcaller in
/-- The frame of the helper is below the window. -/
theorem queryWindow_setWords {mem : Memory} {ws : List (BitVec 32 × BitVec 32)}
    (hws : ∀ w ∈ ws, w.1.toNat+4 ≤ 292) :
    words (setWords mem (m.regs.esp-304) ws) (m.regs.esp-12) 21 = words mem (m.regs.esp-12) 21 := by
  refine words_congr (load_setWords_of_apart fun w hw => ?_)
  have hbelow : Apart w.1 4 (292 : Address) (4*21) := by
    have hw := hws w hw
    refine ⟨?_,?_⟩ <;> bv_omega
  rw [show m.regs.esp-12 = m.regs.esp-304+292 by ring]
  exact hbelow.add

omit hcaller in
theorem cwdQueryStack_wrapperMemory (now : QueryWindow) :
    cwdQueryStack 1 (queryWindow m.regs.esp m) now destination l.helperReturn ↔
      now = words (wrapperMemory destination m) (m.regs.esp-12) 21 := by
  have hwindow : words (wrapperMemory destination m) (m.regs.esp-12) 21 =
      ((((queryWindow m.regs.esp m).set 1 0).set 2 destination).set 3 128).set 13 0 := by
    rw [wrapperMemory, queryWindow]
    generalize m.regs.esp-12 = base
    rw [setWords, List.foldl_cons, List.foldl_cons, List.foldl_cons, List.foldl_cons, List.foldl_nil]
    apply Vector.ext
    intro i hi
    simp (disch := decide) only [words_setWord, Vector.getElem_set, BitVec.reduceToNat, Nat.reduceDiv]
    grind
  rw [hwindow]
  simp [cwdQueryStack]

omit hcaller in
theorem cwdQueryStack_calledMemory {stage : ℕ} (hstage : 2 ≤ stage ∧ stage ≤ 7) (now : QueryWindow) :
    cwdQueryStack stage (queryWindow m.regs.esp m) now destination l.helperReturn ↔
      now = words (calledMemory l destination m) (m.regs.esp-12) 21 := by
  obtain ⟨h2,h7⟩ := hstage
  have hlow : ¬stage < 1 := by omega
  have hhigh : ¬7 < stage := by omega
  -- The window of the wrapper, with the return address below it.
  have hwrapper := (@cwdQueryStack_wrapperMemory l m destination
    (words (wrapperMemory destination m) (m.regs.esp-12) 21)).mpr rfl
  have hset : words (calledMemory l destination m) (m.regs.esp-12) 21 =
      (words (wrapperMemory destination m) (m.regs.esp-12) 21).set 0 l.helperReturn := by
    have hword := @words_setWord (wrapperMemory destination m) (m.regs.esp-12) l.helperReturn 21 0
      (by decide) rfl (by decide)
    simp only [BitVec.ofNat_eq_ofNat, BitVec.add_zero] at hword
    exact hword
  rw [hset]
  simp [cwdQueryStack] at hwrapper
  simp [cwdQueryStack, hlow, hhigh, h2, hwrapper]

omit hcaller in
/-- The words in the window that the code reads. -/
theorem word_calledMemory_arguments :
    word (calledMemory l destination m) (m.regs.esp-12) = l.helperReturn ∧
      word (calledMemory l destination m) (m.regs.esp-12+8) = destination ∧
      word (calledMemory l destination m) (m.regs.esp-12+12) = 128 := by
  rw [calledMemory, wrapperMemory]
  generalize m.regs.esp-12 = base
  refine ⟨word_setWord_self ..,?_,?_⟩
  · rw [word_setWord_of_apart (by constructor <;> bv_omega)]
    simp (disch := decide) [setWords, word_setWord_add]
  · rw [word_setWord_of_apart (by constructor <;> bv_omega)]
    simp (disch := decide) [setWords, word_setWord_add]

/-- Behind the call the window stays as it is. -/
theorem describes_of_window {stage : ℕ} {m' : Machine} (hstage : 2 ≤ stage ∧ stage ≤ 6)
    (hnow : registers m' = { queryRegisters stage (encodedCookie q l m) (registers m) with flags := m'.flags })
    (hrest : m'.flags &&& 0xfffef72a = m.flags &&& 0xfffef72a)
    (hresult : stage = 3 ∨ stage = 4 → m'.flags &&& 0xc5 = 0x44)
    (hwindow : queryWindow m.regs.esp m' = words (calledMemory l destination m) (m.regs.esp-12) 21) :
    CwdQueryDescribes stage q l destination m m' where
  frame _ := cwdQueryFrame_iff hcaller ⟨Nat.le_of_succ_le hstage.1,hstage.2⟩ hnow hrest hresult
  stack now := by
    rw [hwindow]
    exact cwdQueryStack_calledMemory ⟨hstage.1,Nat.le_succ_of_le hstage.2⟩ now

theorem describes_wrapperPushed : CwdQueryDescribes 1 q l destination m (wrapperPushed l destination m) where
  frame _ := cwdQueryFrame_iff hcaller (by decide) rfl
    (by simp (disch := decide) only [registers, wrapperPushed, blend_and_of_disjoint]) (by simp)
  stack now := cwdQueryStack_wrapperMemory now

theorem describes_helperEntered :
    CwdQueryDescribes 2 q l destination m (helperEntered q l destination m) := by
  apply describes_of_window hcaller (by decide) rfl
  · simp (disch := decide) only [helperEntered, wrapperPushed, blend_and_of_disjoint]
  · simp
  · rfl

omit hcaller in
theorem window_helperMemory : words (helperMemory q l destination m) (m.regs.esp-12) 21 =
    words (calledMemory l destination m) (m.regs.esp-12) 21 := queryWindow_setWords (by simp)

omit hcaller in
theorem flags_driveTested (q : CwdQuerySpec) (l : CwdLockSpec) (destination : BitVec 32) (m : Machine) :
    (driveTested q l destination m).flags &&& 0xfffef72a = m.flags &&& 0xfffef72a := by
  simp (disch := decide) only [driveTested, blend_and_of_disjoint]

omit hcaller in
/-- The result is zero, and zero is not below zero. -/
theorem result_driveTested : (driveTested q l destination m).flags &&& 0xc5 = 0x44 := by
  have hwithin : (0xc5 : BitVec 32) &&& arithmeticFlags = 0xc5 := by decide
  have hfree : (m.undefined 2 &&& 0x10) &&& (0xc5 : BitVec 32) = 0 := by
    rw [BitVec.and_assoc]
    exact BitVec.and_zero
  rw [driveTested, blend_and_of_within hwithin, or_and, hfree]
  decide

theorem describes_driveTested :
    CwdQueryDescribes 3 q l destination m (driveTested q l destination m) := by
  apply describes_of_window hcaller (by decide)
  · rw [registers, driveTested, queryRegisters, registers, hcaller.ebx]
  · exact flags_driveTested q l destination m
  · exact fun _ => result_driveTested
  · exact window_helperMemory

theorem describes_queryPath : CwdQueryDescribes 4 q l destination m (queryPath q l destination m) := by
  apply describes_of_window hcaller (by decide)
  · rw [registers, queryPath, driveTested, queryRegisters, registers, hcaller.ebx]
  · exact flags_driveTested q l destination m
  · exact fun _ => @result_driveTested q l m destination
  · exact window_helperMemory

theorem describes_queryPushed : CwdQueryDescribes 5 q l destination m (queryPushed q l destination m) := by
  apply describes_of_window hcaller (by decide)
  · rw [registers, queryPushed, driveTested, queryRegisters, registers, hcaller.ebx]
  · exact flags_driveTested q l destination m
  · simp
  · rw [queryWindow, queryPushed, queryWindow_setWords (by simp), window_helperMemory]

theorem describes_queryEntered : CwdQueryDescribes 6 q l destination m (queryEntered q l destination m) := by
  apply describes_of_window hcaller (by decide)
  · simp only [registers, queryEntered, queryPushed, driveTested, queryRegisters, hcaller.ebx]
  · exact flags_driveTested q l destination m
  · simp
  · rw [queryWindow, queryEntered, queryWindow_setWords (by simp), window_helperMemory]

end Frames

/-! Inside the helper, behind the function. -/

/-- What the helper relies on until it returns: the registers and the flags that functions keep, the
cookie, its own words on the stack and those of its callers. -/
structure HelperFrame (q : CwdQuerySpec) (l : CwdLockSpec) (destination : BitVec 32) (m m' : Machine) :
    Prop where
  ebp : m'.regs.ebp = m.regs.esp-16
  ebx : m'.regs.ebx = 0
  esi : m'.regs.esi = 0
  edi : m'.regs.edi = 24
  flags : m'.flags &&& otherFlags = m.flags &&& otherFlags
  cookie : word m'.mem (q.cookie l) = word m.mem (q.cookie l)
  savedEbx : word m'.mem (m.regs.esp-288) = 0
  encoded : word m'.mem (m.regs.esp-20) = encodedCookie q l m
  savedEbp : word m'.mem (m.regs.esp-16) = m.regs.ebp
  window : queryWindow m.regs.esp m' = words (calledMemory l destination m) (m.regs.esp-12) 21

/-- The stack from an argument on and behind the buffer, and the cookie. -/
def helperKept (q : CwdQuerySpec) (l : CwdLockSpec) (m : Machine) : List (Address × ℕ) :=
  [(m.regs.esp-296,12),(m.regs.esp-24,96),(q.cookie l,4)]

theorem HelperFrame.mono {before after : Machine} (h : HelperFrame q l destination m before)
    (hebp : after.regs.ebp = before.regs.ebp) (hebx : after.regs.ebx = before.regs.ebx)
    (hesi : after.regs.esi = before.regs.esi) (hedi : after.regs.edi = before.regs.edi)
    (hflags : after.flags &&& otherFlags = before.flags &&& otherFlags)
    (hsaved : word after.mem (m.regs.esp-288) = word before.mem (m.regs.esp-288))
    (hhigh : load after.mem (m.regs.esp-24) 96 = load before.mem (m.regs.esp-24) 96)
    (hcookie : load after.mem (q.cookie l) 4 = load before.mem (q.cookie l) 4) :
    HelperFrame q l destination m after := by
  have hword (d : BitVec 32) (hd : d.toNat+4 ≤ 96) : word after.mem (m.regs.esp-24+d) =
      word before.mem (m.regs.esp-24+d) := word_of_load hhigh hd
  refine ⟨hebp.trans h.ebp,hebx.trans h.ebx,hesi.trans h.esi,hedi.trans h.edi,hflags.trans h.flags,?_,
    hsaved.trans h.savedEbx,?_,?_,?_⟩
  · exact Eq.trans (by rw [word, hcookie, word]) h.cookie
  · rw [← h.encoded, show m.regs.esp-20 = m.regs.esp-24+4 by ring]
    exact hword 4 (by decide)
  · rw [← h.savedEbp, show m.regs.esp-16 = m.regs.esp-24+8 by ring]
    exact hword 8 (by decide)
  · rw [← h.window]
    apply Vector.ext
    intro i hi
    rw [queryWindow, queryWindow, getElem_words, getElem_words,
      show m.regs.esp-12+BitVec.ofNat 32 (4*i) = m.regs.esp-24+(12+BitVec.ofNat 32 (4*i)) by ring]
    exact hword _ (by bv_omega)

/-- Functions that keep all that, and their callers' registers, keep the frame. -/
theorem HelperFrame.returned {before after : Machine} {arguments : BitVec 32}
    (h : HelperFrame q l destination m before)
    (hreturned : Returned arguments (~~~arithmeticFlags) (helperKept q l m) before after) :
    HelperFrame q l destination m after := by
  obtain ⟨_,_,hebx,hebp,hesi,hedi,_,hflags,hmemory⟩ := hreturned
  simp only [helperKept, List.forall_mem_cons] at hmemory
  obtain ⟨hlow,hhigh,hcookie,_⟩ := hmemory
  apply h.mono hebp hebx hesi hedi (and_eq_of_agree hflags (by decide)) _ hhigh hcookie
  rw [show m.regs.esp-288 = m.regs.esp-296+8 by ring]
  exact word_of_load hlow (by decide)

/-- Arguments are pushed below the helper's words. -/
theorem HelperFrame.pushed {before after : Machine} {ws : List (BitVec 32 × BitVec 32)}
    (h : HelperFrame q l destination m before) (hcaller : CwdQueryCaller q l destination m)
    (hebp : after.regs.ebp = before.regs.ebp) (hebx : after.regs.ebx = before.regs.ebx)
    (hesi : after.regs.esi = before.regs.esi) (hedi : after.regs.edi = before.regs.edi)
    (hflags : after.flags &&& otherFlags = before.flags &&& otherFlags)
    (hmem : after.mem = setWords before.mem (m.regs.esp-304) ws) (hws : ∀ w ∈ ws, w.1.toNat+4 ≤ 16) :
    HelperFrame q l destination m after := by
  have hbelow (d : BitVec 32) (k : ℕ) (hd : 16 ≤ d.toNat) (hk : d.toNat+k ≤ 376) :
      load after.mem (m.regs.esp-304+d) k = load before.mem (m.regs.esp-304+d) k := by
    rw [hmem]
    refine load_setWords_of_apart fun w hw => Apart.add ?_
    have hw := hws w hw
    constructor <;> bv_omega
  apply h.mono hebp hebx hesi hedi hflags
  · rw [show m.regs.esp-288 = m.regs.esp-304+16 by ring, word, word, hbelow 16 4 (by decide) (by decide)]
  · rw [show m.regs.esp-24 = m.regs.esp-304+280 by ring]
    exact hbelow 280 96 (by decide) (by decide)
  · rw [hmem]
    exact load_setWords_of_stretch (hcaller.globals _ (by simp)) (by decide) fun w hw =>
      (hws w hw).trans (by decide)

theorem HelperFrame.arguments {now : Machine} (h : HelperFrame q l destination m now) :
    word now.mem (m.regs.esp-12) = l.helperReturn ∧ word now.mem (m.regs.esp-4) = destination ∧
      word now.mem m.regs.esp = 128 := by
  have hplace (i : ℕ) (hi : i < 21) : word now.mem (m.regs.esp-12+BitVec.ofNat 32 (4*i)) =
      word (calledMemory l destination m) (m.regs.esp-12+BitVec.ofNat 32 (4*i)) := by
    have hwindow := Vector.ext_iff.mp h.window i hi
    rwa [queryWindow, getElem_words, getElem_words] at hwindow
  have hfirst : m.regs.esp-12+BitVec.ofNat 32 (4*0) = m.regs.esp-12 := by bv_omega
  have hsecond : m.regs.esp-12+BitVec.ofNat 32 (4*2) = m.regs.esp-4 := by bv_omega
  have hthird : m.regs.esp-12+BitVec.ofNat 32 (4*3) = m.regs.esp := by bv_omega
  obtain ⟨hreturn,hdestination,hcapacity⟩ := @word_calledMemory_arguments l m destination
  rw [show m.regs.esp-12+8 = m.regs.esp-4 by ring, ← hsecond] at hdestination
  rw [show m.regs.esp-12+12 = m.regs.esp by ring, ← hthird] at hcapacity
  refine ⟨?_,?_,?_⟩
  · rw [← hfirst] at hreturn ⊢
    exact (hplace 0 (by decide)).trans hreturn
  · rw [← hsecond]
    exact (hplace 2 (by decide)).trans hdestination
  · rw [← hthird]
    exact (hplace 3 (by decide)).trans hcapacity

section Function
variable (hcaller : CwdQueryCaller q l destination m)
include hcaller

theorem helperFrame_queryEntered :
    HelperFrame q l destination m (queryEntered q l destination m) := by
  have hstack (d : BitVec 32) : word (queryEntered q l destination m).mem (m.regs.esp-304+d) =
      word (setWords (helperMemory q l destination m) (m.regs.esp-304)
        [(12,m.regs.esp-284),(8,260),(4,q.helper l+141)]) (m.regs.esp-304+d) := rfl
  refine ⟨rfl,rfl,hcaller.esi,hcaller.edi,?_,?_,?_,?_,?_,?_⟩
  · exact flags_driveTested q l destination m
  · rw [queryEntered, helperMemory, word_setWords_of_globals hcaller (by simp) (by simp),
      word_setWords_of_globals hcaller (by simp) (by simp), word_calledMemory hcaller (by simp)]
  · rw [show m.regs.esp-288 = m.regs.esp-304+16 by ring, hstack, helperMemory, ← hcaller.ebx]
    simp (disch := decide) [setWords, word_setWord_add]
  · rw [show m.regs.esp-20 = m.regs.esp-304+284 by ring, hstack, helperMemory]
    simp (disch := decide) [setWords, word_setWord_add]
  · rw [show m.regs.esp-16 = m.regs.esp-304+288 by ring, hstack, helperMemory]
    simp (disch := decide) [setWords, word_setWord_add]
  · rw [queryWindow, queryEntered, queryWindow_setWords (by simp), window_helperMemory]

variable {m' : Machine}
  (hreturned : Returned 8 (~~~arithmeticFlags) (helperKept q l m) (queryEntered q l destination m) m')
include hreturned

theorem helperFrame_of_query : HelperFrame q l destination m m' :=
  (helperFrame_queryEntered hcaller).returned hreturned

omit hcaller in
theorem place_of_query : m'.eip = q.helper l+141 ∧ m'.regs.esp = m.regs.esp-288 := by
  constructor
  · rw [hreturned.eip, queryEntered]
    simp (disch := decide) [setWords, BitVec.sub_eq_add_neg, BitVec.add_assoc]
  · rw [hreturned.esp, queryEntered]
    simp only
    ring

theorem cwdQueryFrame_returned (r : DispatchRegisters) :
    cwdQueryFrame 7 (registers m) r (word m.mem (q.cookie l)) l.helperReturn ↔
      AgreeKept r (registers m') := by
  have hframe := helperFrame_of_query hcaller hreturned
  have hflags := @flags_unchanged_iff r.flags m'.flags m.flags 0xfffef72a (arithmeticFlags ||| resumeFlag)
    hcaller.flags hframe.flags (by decide) (by decide)
  obtain ⟨_,hesp⟩ := place_of_query hreturned
  obtain ⟨_,hebp,hebx,hesi,hedi,_,hlow,hhigh,haligned,_⟩ := hcaller
  rw [AgreeKept, show (registers m').flags = m'.flags from rfl, ← hflags]
  simp [cwdQueryFrame, registers, hebp, hebx, hesi, hedi, haligned, hesp, hframe.ebp, hframe.ebx,
    hframe.esi, hframe.edi]
  grind

omit hcaller hreturned in
theorem cwdQueryStack_returned (h : HelperFrame q l destination m m') (now : QueryWindow) :
    cwdQueryStack 7 (queryWindow m.regs.esp m) now destination l.helperReturn ↔
      now = queryWindow m.regs.esp m' := by
  rw [h.window]
  exact cwdQueryStack_calledMemory (by decide) now

end Function

end Saex
