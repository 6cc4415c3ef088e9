import Saex.CwdQueryRun

/-! The code that the checkpoint pins, executed from the return of the directory function to the
entry of the copier. -/
namespace Ia32

theorem holds_lessOrZero (f a b : BitVec 32) :
    Condition.lessOrZero.holds (blend f arithmeticFlags (subFlags a b)) = a.sle b := by
  have hless := holds_less f a b
  have hzero := holds_zero f a b
  simp only [Condition.holds] at hless hzero ⊢
  rw [hless, hzero, BitVec.slt, BitVec.sle, Bool.eq_iff_iff]
  simp only [Bool.or_eq_true, decide_eq_true_eq]
  rw [← BitVec.toInt_inj]
  omega

end Ia32

namespace Saex
open LittleEndian WrappedMemory Ia32

/-! What the bytes of `cwdCopyCode` stand for. -/

def lengthTestListing : Listing :=
  [([0x85,0xc0],.test (.reg .eax) (.reg .eax)),
   ([0x74,0xac],.jcc .zero true (-84))]

def lengthLimitListing : Listing :=
  [([0x40],.inc .eax),
   (0x3d :: write 4 (260 : BitVec 32),.alu .cmp (.reg .eax) (.imm (dword 260))),
   ([0x77,0xa4],.jcc .carryOrZero false (-92))]

def destinationListing : Listing :=
  [([0x8b,0x4d,0x0c],.mov (.reg .ecx) (.mem { base := some .ebp, displacement := 12 })),
   ([0x85,0xc9],.test (.reg .ecx) (.reg .ecx))]

/-- Without a destination one is allocated. -/
def destinationBranchListing : Listing := [([0x75,0x25],.jcc .zero false 0x25)]

def capacityListing : Listing :=
  [([0x3b,0x45,0x10],.alu .cmp (.reg .eax) (.mem { base := some .ebp, displacement := 16 }))]

def capacityBranchListing : Listing := [([0x7e,0x10],.jcc .lessOrZero true 0x10)]

def copyArgumentsListing : Listing :=
  [([0x8d,0x85,0xf4,0xfe,0xff,0xff],.lea .eax { base := some .ebp, displacement := -268 }),
   ([0x50],.push (.reg .eax)),
   ([0x51],.push (.reg .ecx))]

theorem straight_lengthTestListing : Straight lengthTestListing :=
  straight_cons ⟨by simp,fun _ => rfl⟩ trivial (straight_singleton ⟨by simp,fun _ => rfl⟩)

theorem straight_lengthLimitListing : Straight lengthLimitListing := by
  iterate 2 refine straight_cons ⟨by simp,fun _ => rfl⟩ trivial ?_
  exact straight_singleton ⟨by simp,fun _ => rfl⟩

theorem straight_destinationListing : Straight destinationListing :=
  straight_cons ⟨by simp,fun _ => rfl⟩ trivial (straight_singleton ⟨by simp,fun _ => rfl⟩)

theorem straight_destinationBranchListing : Straight destinationBranchListing :=
  straight_singleton ⟨by simp,fun _ => rfl⟩

theorem straight_capacityListing : Straight capacityListing := straight_singleton ⟨by simp,fun _ => rfl⟩

theorem straight_capacityBranchListing : Straight capacityBranchListing :=
  straight_singleton ⟨by simp,fun _ => rfl⟩

theorem straight_copyArgumentsListing : Straight copyArgumentsListing := by
  iterate 2 refine straight_cons ⟨by simp,fun _ => rfl⟩ trivial ?_
  exact straight_singleton ⟨by simp,fun _ => rfl⟩

variable {o : CwdCopySpec} {q : CwdQuerySpec} {l : CwdLockSpec} {c : CwdCopyCode} {code : Memory}
  {m a : Machine} {destination : BitVec 32}

def CwdCopySpec.copier (o : CwdCopySpec) (l : CwdLockSpec) : Address := l.selector.imageBase+o.copierRva

theorem cwdCopyCode_encoding (h : cwdCopyCode o q l = some c) :
    c.checks.toList = encoding lengthTestListing++(encoding lengthLimitListing++
        (encoding destinationListing++encoding destinationBranchListing)) ∧
      c.capacity.toList = encoding capacityListing++encoding capacityBranchListing ∧
      c.call.toList = encoding copyArgumentsListing++
        encoding (callListing (o.copierRva-(q.helperRva+231))) := by
  dsimp only [cwdCopyCode] at h
  split at h
  · contradiction
  split at h
  · rw [← Option.some.inj h]
    refine ⟨rfl,rfl,?_⟩
    rw [toList_writeDword (by decide)]
    rfl
  · contradiction

/-- The code in memory, behind the CALL of the directory function. -/
structure CwdCopyLoaded (o : CwdCopySpec) (q : CwdQuerySpec) (l : CwdLockSpec) (c : CwdCopyCode)
    (code : Memory) : Prop where
  emits : cwdCopyCode o q l = some c
  checks : HasBytes code (q.helper l+141) c.checks.toList
  capacity : HasBytes code (q.helper l+197) c.capacity.toList
  call : HasBytes code (q.helper l+218) c.call.toList

namespace CwdCopyLoaded
variable (h : CwdCopyLoaded o q l c code)
include h

theorem checks_bytes : HasBytes code (q.helper l+141) (encoding lengthTestListing) ∧
    HasBytes code (q.helper l+145) (encoding lengthLimitListing) ∧
    HasBytes code (q.helper l+153) (encoding destinationListing) ∧
    HasBytes code (q.helper l+158) (encoding destinationBranchListing) := by
  have hbytes := h.checks
  rw [(cwdCopyCode_encoding h.emits).1, hasBytes_append, hasBytes_append, hasBytes_append] at hbytes
  rwa [show q.helper l+145 = q.helper l+141+4 by ring, show q.helper l+153 = q.helper l+141+4+8 by ring,
    show q.helper l+158 = q.helper l+141+4+8+5 by ring]

theorem capacity_bytes : HasBytes code (q.helper l+197) (encoding capacityListing) ∧
    HasBytes code (q.helper l+200) (encoding capacityBranchListing) := by
  have hbytes := h.capacity
  rw [(cwdCopyCode_encoding h.emits).2.1, hasBytes_append] at hbytes
  rwa [show q.helper l+200 = q.helper l+197+3 by ring]

theorem call_bytes : HasBytes code (q.helper l+218) (encoding copyArgumentsListing) ∧
    HasBytes code (q.helper l+226) (encoding (callListing (o.copierRva-(q.helperRva+231)))) := by
  have hbytes := h.call
  rw [(cwdCopyCode_encoding h.emits).2.2, hasBytes_append] at hbytes
  rwa [show q.helper l+226 = q.helper l+218+8 by ring]

end CwdCopyLoaded

/-! The machine at the stops. -/

/-- The return of the directory function, with a length that the checkpoint of the query admits. The
destination is away from the stack that the code uses. -/
structure CwdCopyCaller (q : CwdQuerySpec) (l : CwdLockSpec) (destination : BitVec 32) (m a : Machine) :
    Prop where
  query : CwdQueryCaller q l destination m
  frame : HelperFrame q l destination m a
  eip : a.eip = q.helper l+141
  esp : a.regs.esp = m.regs.esp-288
  three : 3 ≤ a.regs.eax
  limit : a.regs.eax ≤ 126
  nonzero : destination ≠ 0
  fits : destination ≤ 0xffffffff-128
  apart : Apart (m.regs.esp-304) 376 destination 128

def lengthTested (q : CwdQuerySpec) (l : CwdLockSpec) (a : Machine) : Machine :=
  { a with
    flags := blend (blend a.flags resumeFlag 0) arithmeticFlags
      (resultFlags a.regs.eax ||| a.undefined 0 &&& 0x10)
    eip := q.helper l+145
    undefined := fun n => a.undefined (n+1) }

def limitCompared (q : CwdQuerySpec) (l : CwdLockSpec) (a : Machine) : Machine :=
  { lengthTested q l a with
    regs := { a.regs with eax := a.regs.eax+1 }
    flags := blend (blend a.flags resumeFlag 0) arithmeticFlags (subFlags (a.regs.eax+1) 260)
    eip := q.helper l+153 }

/-- Behind the test of the destination. -/
def destinationTested (q : CwdQuerySpec) (l : CwdLockSpec) (destination : BitVec 32) (a : Machine) :
    Machine :=
  { a with
    regs := { a.regs with eax := a.regs.eax+1, ecx := destination }
    flags := blend (blend a.flags resumeFlag 0) arithmeticFlags
      (resultFlags destination ||| a.undefined 1 &&& 0x10)
    eip := q.helper l+158
    undefined := fun n => a.undefined (n+2) }

def destinationPresent (q : CwdQuerySpec) (l : CwdLockSpec) (destination : BitVec 32) (a : Machine) :
    Machine :=
  { destinationTested q l destination a with eip := q.helper l+197 }

/-- Behind the comparison with the capacity. -/
def capacityCompared (q : CwdQuerySpec) (l : CwdLockSpec) (destination : BitVec 32) (a : Machine) :
    Machine :=
  { destinationTested q l destination a with
    flags := blend (blend a.flags resumeFlag 0) arithmeticFlags (subFlags (a.regs.eax+1) 128)
    eip := q.helper l+200 }

def capacityEnough (q : CwdQuerySpec) (l : CwdLockSpec) (destination : BitVec 32) (a : Machine) :
    Machine :=
  { capacityCompared q l destination a with eip := q.helper l+218 }

def copyPushed (q : CwdQuerySpec) (l : CwdLockSpec) (destination : BitVec 32) (m a : Machine) : Machine :=
  { capacityCompared q l destination a with
    regs := { a.regs with eax := m.regs.esp-284, ecx := destination, esp := m.regs.esp-296 }
    eip := q.helper l+226
    mem := setWords a.mem (m.regs.esp-304) [(12,m.regs.esp-284),(8,destination)] }

/-- In the copier. -/
def copierEntered (o : CwdCopySpec) (q : CwdQuerySpec) (l : CwdLockSpec) (destination : BitVec 32)
    (m a : Machine) : Machine :=
  { copyPushed q l destination m a with
    regs := { (copyPushed q l destination m a).regs with esp := m.regs.esp-300 }
    eip := o.copier l
    mem := setWords a.mem (m.regs.esp-304)
      [(12,m.regs.esp-284),(8,destination),(4,q.helper l+231)] }

section Execution
variable (hcode : CwdCopyLoaded o q l c code)
include hcode

theorem reaches_lengthTested (ha : CwdCopyCaller q l destination m a) :
    Reaches code a (lengthTested q l a) := by
  have hnonzero : a.regs.eax ≠ 0#32 := by
    have hthree := ha.three
    bv_omega
  refine reaches_listing straight_lengthTestListing hcode.checks_bytes.1 ha.eip ?_
  rw [lengthTested]
  have heip := ha.eip
  obtain ⟨⟨eax,ecx,edx,ebx,esp,ebp,esi,edi⟩,flags,eip,mem,fs,undefined⟩ := a
  simp only at hnonzero heip
  simp (disch := decide) [lengthTestListing, heip, hnonzero, holds_zero_logic, blend_resumeFlag,
    BitVec.add_assoc]

theorem reaches_limitCompared (ha : CwdCopyCaller q l destination m a) :
    Reaches code (lengthTested q l a) (limitCompared q l a) := by
  have hbelow : ¬260#32 < a.regs.eax+1#32 ∧ a.regs.eax+1#32 ≤ 260#32 := by
    have hlimit := ha.limit
    constructor <;> bv_omega
  refine reaches_listing straight_lengthLimitListing hcode.checks_bytes.2.1 rfl ?_
  rw [limitCompared, lengthTested]
  obtain ⟨⟨eax,ecx,edx,ebx,esp,ebp,esi,edi⟩,flags,eip,mem,fs,undefined⟩ := a
  simp only at hbelow
  simp (disch := decide) [lengthLimitListing, hbelow, holds_carryOrZero, blend_resumeFlag,
    blend_blend_of_within, BitVec.add_assoc]

theorem reaches_destinationTested (ha : CwdCopyCaller q l destination m a) :
    Reaches code (limitCompared q l a) (destinationTested q l destination a) := by
  have hargument : word a.mem (a.regs.ebp+12) = destination := by
    rw [ha.frame.ebp, show m.regs.esp-16+12 = m.regs.esp-4 by ring]
    exact ha.frame.arguments.2.1
  refine reaches_listing straight_destinationListing hcode.checks_bytes.2.2.1 rfl ?_
  rw [destinationTested, limitCompared, lengthTested]
  obtain ⟨⟨eax,ecx,edx,ebx,esp,ebp,esi,edi⟩,flags,eip,mem,fs,undefined⟩ := a
  simp only [BitVec.ofNat_eq_ofNat] at hargument
  simp (disch := decide) [destinationListing, hargument, blend_resumeFlag, BitVec.add_assoc]

theorem reaches_destinationPresent (ha : CwdCopyCaller q l destination m a) :
    Reaches code (destinationTested q l destination a) (destinationPresent q l destination a) := by
  have hnonzero : destination ≠ 0#32 := ha.nonzero
  refine reaches_listing straight_destinationBranchListing hcode.checks_bytes.2.2.2 rfl ?_
  rw [destinationPresent, destinationTested]
  obtain ⟨⟨eax,ecx,edx,ebx,esp,ebp,esi,edi⟩,flags,eip,mem,fs,undefined⟩ := a
  simp (disch := decide) [destinationBranchListing, hnonzero, holds_zero_logic, blend_resumeFlag,
    BitVec.add_assoc]

theorem reaches_capacityCompared (ha : CwdCopyCaller q l destination m a) :
    Reaches code (destinationPresent q l destination a) (capacityCompared q l destination a) := by
  have hargument : word a.mem (a.regs.ebp+16) = 128 := by
    rw [ha.frame.ebp, show m.regs.esp-16+16 = m.regs.esp by ring]
    exact ha.frame.arguments.2.2
  refine reaches_listing straight_capacityListing hcode.capacity_bytes.1 rfl ?_
  rw [capacityCompared, destinationPresent, destinationTested]
  obtain ⟨⟨eax,ecx,edx,ebx,esp,ebp,esi,edi⟩,flags,eip,mem,fs,undefined⟩ := a
  simp only [BitVec.ofNat_eq_ofNat] at hargument
  simp (disch := decide) [capacityListing, hargument, blend_resumeFlag, BitVec.add_assoc]

theorem reaches_capacityEnough (ha : CwdCopyCaller q l destination m a) :
    Reaches code (capacityCompared q l destination a) (capacityEnough q l destination a) := by
  have hfits : (a.regs.eax+1#32).sle 128#32 := by
    have hlimit := ha.limit
    rw [BitVec.sle, decide_eq_true_eq, BitVec.toInt_eq_toNat_cond, BitVec.toInt_eq_toNat_cond]
    split <;> split <;> bv_omega
  refine reaches_listing straight_capacityBranchListing hcode.capacity_bytes.2 rfl ?_
  rw [capacityEnough, capacityCompared, destinationTested]
  obtain ⟨⟨eax,ecx,edx,ebx,esp,ebp,esi,edi⟩,flags,eip,mem,fs,undefined⟩ := a
  simp only at hfits
  simp (disch := decide) [capacityBranchListing, hfits, holds_lessOrZero, blend_resumeFlag,
    BitVec.add_assoc]

theorem reaches_copyPushed (ha : CwdCopyCaller q l destination m a) :
    Reaches code (capacityEnough q l destination a) (copyPushed q l destination m a) := by
  refine reaches_listing straight_copyArgumentsListing hcode.call_bytes.1 rfl ?_
  rw [copyPushed, capacityEnough, capacityCompared, destinationTested]
  have hebp := ha.frame.ebp
  have hesp := ha.esp
  obtain ⟨b,hb⟩ : ∃ b, m.regs.esp = b+304 := ⟨m.regs.esp-304,by ring⟩
  rw [hb] at hebp hesp ⊢
  obtain ⟨⟨eax,ecx,edx,ebx,esp,ebp,esi,edi⟩,flags,eip,mem,fs,undefined⟩ := a
  simp only at hebp hesp
  subst hebp hesp
  simp (disch := decide) [copyArgumentsListing, setWords, BitVec.sub_eq_add_neg, BitVec.add_assoc,
    blend_resumeFlag]

theorem reaches_copierEntered :
    Reaches code (copyPushed q l destination m a) (copierEntered o q l destination m a) := by
  have htarget : q.helper l+231+(o.copierRva-(q.helperRva+231)) = o.copier l := by
    rw [CwdQuerySpec.helper, CwdCopySpec.copier]
    ring
  refine reaches_listing (straight_callListing _) hcode.call_bytes.2 rfl ?_
  rw [copierEntered, copyPushed, capacityCompared, destinationTested, ← htarget]
  obtain ⟨b,hb⟩ : ∃ b, m.regs.esp = b+304 := ⟨m.regs.esp-304,by ring⟩
  rw [hb]
  obtain ⟨⟨eax,ecx,edx,ebx,esp,ebp,esi,edi⟩,flags,eip,mem,fs,undefined⟩ := a
  simp (disch := decide) [callListing, setWords, BitVec.sub_eq_add_neg, BitVec.add_assoc, blend_resumeFlag]

end Execution

/-! What the checkpoint compares, at its stops. -/

theorem copyParity_eq (v : BitVec 32) : copyParity v = flag 2 (evenParity v) := by
  rw [copyParity, evenParity_eq, flag_decide]
  rfl

/-- A destination has no zero flag. -/
theorem resultFlags_destination (h : destination ≠ 0) :
    resultFlags destination = copyParity destination ||| (destination >>> 31)*0x80 := by
  have hsign : (destination >>> 31)*0x80 = flag 7 destination.msb := by
    rw [BitVec.msb_eq_decide, flag_decide]
    split <;> bv_omega
  have hzero : flag 6 (decide (destination = 0)) = 0 := by
    rw [decide_eq_false h]
    rfl
  rw [resultFlags, hzero, copyParity_eq, hsign]
  simp

/-- An admitted length with its NUL is below the capacity, and no half borrows. -/
theorem subFlags_capacity {n : BitVec 32} (h4 : 4 ≤ n) (h127 : n ≤ 127) :
    subFlags n 128 = 0x81 ||| copyParity (n-128) := by
  have hcarry : decide (n < 128) = true := decide_eq_true (by bv_omega)
  have hadjust : decide (n.toNat%16 < (128 : BitVec 32).toNat%16) = false := decide_eq_false (by simp)
  have hzero : decide (n-128 = 0) = false := decide_eq_false (by bv_omega)
  have hsign : (n-128).msb = true := by
    rw [BitVec.msb_eq_decide, decide_eq_true_eq]
    bv_omega
  have hoverflow : n.ssubOverflow 128 = false := by
    rw [BitVec.ssubOverflow, BitVec.toInt_eq_toNat_cond, BitVec.toInt_eq_toNat_cond]
    simp
    split <;> bv_omega
  have hall : ∀ p : Bool, flag 0 true ||| flag 4 false ||| flag 11 false ||| (flag 2 p ||| flag 6 false |||
      flag 7 true) = 0x81 ||| flag 2 p := by decide
  rw [subFlags, resultFlags, copyParity_eq, hcarry, hadjust, hoverflow, hzero, hsign, hall]

/-- The flags that the checkpoint does not look at. -/
def copyFree (stage : ℕ) : BitVec 32 := if stage = 1 then resumeFlag ||| 0x10 else resumeFlag

/-- The registers that are expected. -/
def copyRegisters (stage : ℕ) (destination : BitVec 32) (h a : DispatchRegisters) : DispatchRegisters :=
  let a := { a with ecx := destination }
  match stage with
  | 1 => { a with eax := a.eax+1 }
  | 2 => { a with eax := a.eax+1 }
  | 3 => { a with esp := h.esp-296, eax := h.esp-284 }
  | _ => { a with esp := h.esp-300, eax := h.esp-284 }

/-- The arithmetic flags that it does look at, and their values. -/
def copyMask (stage : ℕ) : BitVec 32 := if stage = 1 then 0x8c5 else 0x8d5

def copyFlags (stage : ℕ) (destination length : BitVec 32) : BitVec 32 :=
  if stage = 1 then copyParity destination ||| (destination >>> 31)*0x80
  else 0x81 ||| copyParity (length+1-128)

/-- Exactly these registers are accepted, but for some flags. -/
def CwdCopyDescribes (stage : ℕ) (destination : BitVec 32) (m a m' : Machine) : Prop :=
  ∀ r, cwdCopyFrame stage (registers m) (registers a) r (m.regs.esp-284) destination a.regs.eax ↔
    AgreeBut (copyFree stage) r (registers m')

theorem CwdCopyCaller.disjoint (ha : CwdCopyCaller q l destination m a) :
    ¬(m.regs.esp-284 < destination+128 ∧ destination < m.regs.esp-284+260) := by
  have hlow := ha.query.low
  have hhigh := ha.query.high
  have hfits := ha.fits
  obtain ⟨hbehind,hbefore⟩ := ha.apart
  bv_omega

theorem flags_cwdCopyCaller (ha : CwdCopyCaller q l destination m a) : a.flags &&& 0x500 = 0 :=
  (and_eq_of_agree ha.frame.flags (by decide)).trans ha.query.flags

theorem cwdCopy_describes_of (ha : CwdCopyCaller q l destination m a) {stage : ℕ} {m' : Machine}
    (hstage : 1 ≤ stage ∧ stage ≤ 4)
    (hnow : registers m' = { copyRegisters stage destination (registers m) (registers a) with
      flags := m'.flags })
    (hrest : m'.flags &&& 0xfffef72a = a.flags &&& 0xfffef72a)
    (hresult : m'.flags &&& copyMask stage = copyFlags stage destination a.regs.eax) :
    CwdCopyDescribes stage destination m a m' := by
  intro r
  have htrap := flags_cwdCopyCaller ha
  have hdisjoint := ha.disjoint
  have hiff : (r.flags &&& 0x500#32 = 0#32 ∧ r.flags &&& copyMask stage =
      copyFlags stage destination a.regs.eax ∧ (r.flags ^^^ a.flags) &&& 0xfffef72a = 0#32) ↔
      r.flags &&& ~~~copyFree stage = m'.flags &&& ~~~copyFree stage := by
    refine flags_iff htrap hresult hrest ?_ (by decide)
    obtain ⟨h1,h4⟩ := hstage
    interval_cases stage <;> decide
  rw [agreeBut_iff, show (registers m').flags = m'.flags from rfl, ← hiff]
  have hhelper := ha.frame
  obtain ⟨hquery,_,_,hesp,hthree,hlimit,hnonzero,hfits,_⟩ := ha
  obtain ⟨_,hcebp,_,_,_,_,hlow,hhigh,haligned,_⟩ := hquery
  obtain ⟨hebp,hebx,hesi,hedi,_⟩ := hhelper
  simp only [registers] at hnow ⊢
  obtain ⟨h1,h4⟩ := hstage
  interval_cases stage <;>
    simp [cwdCopyFrame, copyRegisters, copyMask, copyFlags, hcebp, hebp, hebx, hesi, hedi, hesp, haligned]
      at hnow ⊢
  all_goals
    clear hiff hresult hrest
    grind

section Stops
variable (ha : CwdCopyCaller q l destination m a)
include ha

theorem subFlags_of_length : subFlags (a.regs.eax+1) 128 = 0x81 ||| copyParity (a.regs.eax+1-128) := by
  have hthree := ha.three
  have hlimit := ha.limit
  exact subFlags_capacity (by bv_omega) (by bv_omega)

theorem describes_destinationTested :
    CwdCopyDescribes 1 destination m a (destinationTested q l destination a) := by
  apply cwdCopy_describes_of ha (by decide) rfl
  · simp (disch := decide) only [destinationTested, blend_and_of_disjoint]
  · have hwithin : (0x8c5 : BitVec 32) &&& arithmeticFlags = 0x8c5 := by decide
    have hfree : (a.undefined 1 &&& 0x10) &&& (0x8c5 : BitVec 32) = 0 := by
      rw [BitVec.and_assoc]
      exact BitVec.and_zero
    have hpart : resultFlags destination &&& 0x8c5 = resultFlags destination := by
      rw [← resultFlags_within, BitVec.and_assoc]
      rfl
    calc (destinationTested q l destination a).flags &&& 0x8c5
        = (resultFlags destination ||| a.undefined 1 &&& 0x10) &&& 0x8c5 := blend_and_of_within hwithin
      _ = resultFlags destination := by
        rw [or_and, hpart, hfree]
        exact BitVec.or_zero
      _ = copyParity destination ||| (destination >>> 31)*0x80 := resultFlags_destination ha.nonzero

theorem copyFlags_of_compared {m' : Machine}
    (hflags : m'.flags = (capacityCompared q l destination a).flags) :
    m'.flags &&& 0xfffef72a = a.flags &&& 0xfffef72a ∧
      m'.flags &&& 0x8d5 = 0x81 ||| copyParity (a.regs.eax+1-128) := by
  rw [hflags, capacityCompared]
  constructor
  · simp (disch := decide) only [blend_and_of_disjoint]
  · rw [← subFlags_of_length ha]
    exact (blend_and_of_within (by decide)).trans (subFlags_within _ _)

theorem describes_capacityCompared :
    CwdCopyDescribes 2 destination m a (capacityCompared q l destination a) :=
  have hflags := copyFlags_of_compared ha rfl
  cwdCopy_describes_of ha (by decide) rfl hflags.1 hflags.2

theorem describes_copyPushed :
    CwdCopyDescribes 3 destination m a (copyPushed q l destination m a) :=
  have hflags := copyFlags_of_compared ha rfl
  cwdCopy_describes_of ha (by decide) rfl hflags.1 hflags.2

theorem describes_copierEntered :
    CwdCopyDescribes 4 destination m a (copierEntered o q l destination m a) :=
  have hflags := copyFlags_of_compared ha rfl
  cwdCopy_describes_of ha (by decide) rfl hflags.1 hflags.2

/-- The checks only move registers and flags. -/
theorem helperFrame_capacityCompared : HelperFrame q l destination m (capacityCompared q l destination a) :=
  ha.frame.mono rfl rfl rfl rfl (and_eq_of_agree (copyFlags_of_compared ha rfl).1 (by decide)) rfl rfl rfl

theorem helperFrame_destinationTested :
    HelperFrame q l destination m (destinationTested q l destination a) :=
  ha.frame.mono rfl rfl rfl rfl
    (by simp (disch := decide) only [destinationTested, otherFlags, blend_and_of_disjoint]) rfl rfl rfl

theorem helperFrame_copyPushed : HelperFrame q l destination m (copyPushed q l destination m a) :=
  ha.frame.pushed ha.query rfl rfl rfl rfl (and_eq_of_agree (copyFlags_of_compared ha rfl).1 (by decide)) rfl
    (by simp)

theorem helperFrame_copierEntered :
    HelperFrame q l destination m (copierEntered o q l destination m a) :=
  ha.frame.pushed ha.query rfl rfl rfl rfl (and_eq_of_agree (copyFlags_of_compared ha rfl).1 (by decide)) rfl
    (by simp)

/-! The copier is back: its destination and its source are still on the stack. -/

variable {b : Machine}
  (hreturned : Returned 0 (~~~arithmeticFlags) (helperKept q l m) (copierEntered o q l destination m a) b)
include hreturned

theorem helperFrame_of_copier : HelperFrame q l destination m b :=
  (helperFrame_copierEntered ha).returned hreturned

omit ha in
theorem place_of_copier : b.eip = q.helper l+231 ∧ b.regs.esp = m.regs.esp-296 := by
  constructor
  · rw [hreturned.eip, copierEntered]
    simp (disch := decide) [setWords, BitVec.sub_eq_add_neg, BitVec.add_assoc]
  · rw [hreturned.esp, copierEntered]
    simp only
    ring

omit ha in
theorem source_of_copier : word b.mem (m.regs.esp-292) = m.regs.esp-284 := by
  have hlow := hreturned.memory (m.regs.esp-296,12) List.mem_cons_self
  have hread : word b.mem (m.regs.esp-296+4) =
      word (copierEntered o q l destination m a).mem (m.regs.esp-296+4) := word_of_load hlow (by simp)
  rw [show m.regs.esp-292 = m.regs.esp-296+4 by ring, hread, copierEntered,
    show m.regs.esp-296+4 = m.regs.esp-304+12 by ring]
  simp (disch := decide) [setWords, word_setWord_add]

theorem cwdCopyFrame_returned (r : DispatchRegisters) :
    cwdCopyFrame 5 (registers m) (registers a) r (m.regs.esp-284) destination a.regs.eax ↔
      r.eax = destination ∧ AgreeKept r (registers b) := by
  have htrap := flags_cwdCopyCaller ha
  have hdisjoint := ha.disjoint
  have hframe := helperFrame_of_copier ha hreturned
  have hrest : b.flags &&& 0xfffef72a = a.flags &&& 0xfffef72a := hframe.flags.trans ha.frame.flags.symm
  have hflags := @flags_unchanged_iff r.flags b.flags a.flags 0xfffef72a (arithmeticFlags ||| resumeFlag)
    htrap hrest (by decide) (by decide)
  obtain ⟨_,hback⟩ := place_of_copier hreturned
  rw [AgreeKept, show (registers b).flags = b.flags from rfl, ← hflags]
  have hhelper := ha.frame
  obtain ⟨hquery,_,_,hesp,hthree,hlimit,hnonzero,hfits,_⟩ := ha
  obtain ⟨_,hcebp,_,_,_,_,hlow,hhigh,haligned,_⟩ := hquery
  simp [cwdCopyFrame, registers, hcebp, hhelper.ebp, hhelper.ebx, hhelper.esi, hhelper.edi, hesp, haligned,
    hback, hframe.ebp, hframe.ebx, hframe.esi, hframe.edi]
  clear hflags hrest
  grind

end Stops

end Saex
