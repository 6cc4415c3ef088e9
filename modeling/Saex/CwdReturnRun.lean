import Saex.CwdCopyRun

/-! The code that the checkpoint pins, executed from the return of the copier to the return of the
helper, and the three checkpoints of the current directory one after the other. -/
namespace Saex
open LittleEndian WrappedMemory Ia32

/-! What the bytes of `cwdReturnCode` stand for. -/

def cleanupListing : Listing :=
  [([0x59],.pop .ecx),
   ([0x59],.pop .ecx),
   ([0xe9,0x51,0xff,0xff,0xff],.jmp (-175))]

def decodeListing : Listing :=
  [([0x8b,0x4d,0xfc],.mov (.reg .ecx) (.mem { base := some .ebp, displacement := -4 })),
   ([0x33,0x4d,4],.alu .xor (.reg .ecx) (.mem { base := some .ebp, displacement := 4 })),
   ([0x5b],.pop .ebx)]

def helperEpilogueListing : Listing :=
  [([0xc9],.leave),
   ([0xc3],.ret)]

def cookieListing (cookie : BitVec 32) : Listing :=
  [([0x3b,0x0d]++write 4 cookie,.alu .cmp (.reg .ecx) (.mem { displacement := dword cookie }))]

/-- A cookie that does not match stops the program. -/
def cookieBranchListing : Listing := [([0x75,1],.jcc .zero false 1)]

theorem straight_cleanupListing : Straight cleanupListing := by
  iterate 2 refine straight_cons ⟨by simp,fun _ => rfl⟩ trivial ?_
  exact straight_singleton ⟨by simp,fun _ => rfl⟩

theorem straight_decodeListing : Straight decodeListing := by
  iterate 2 refine straight_cons ⟨by simp,fun _ => rfl⟩ trivial ?_
  exact straight_singleton ⟨by simp,fun _ => rfl⟩

theorem straight_helperEpilogueListing : Straight helperEpilogueListing :=
  straight_cons ⟨by simp,fun _ => rfl⟩ trivial (straight_singleton ⟨by simp,fun _ => rfl⟩)

theorem straight_cookieListing (cookie : BitVec 32) : Straight (cookieListing cookie) :=
  straight_singleton ⟨by simp,fun _ => rfl⟩

theorem straight_cookieBranchListing : Straight cookieBranchListing :=
  straight_singleton ⟨by simp,fun _ => rfl⟩

variable {s : CwdReturnSpec} {o : CwdCopySpec} {q : CwdQuerySpec} {l : CwdLockSpec} {c : CwdReturnCode}
  {code : Memory} {m b : Machine} {destination : BitVec 32}

def CwdReturnSpec.checker (s : CwdReturnSpec) (l : CwdLockSpec) : Address :=
  l.selector.imageBase+s.checkerRva

theorem cwdReturnCode_encoding (h : cwdReturnCode s o q l = some c) :
    c.cleanup.toList = encoding cleanupListing ∧
      c.epilogue.toList = encoding decodeListing++
        (encoding (callListing (s.checkerRva-(q.helperRva+75)))++encoding helperEpilogueListing) ∧
      c.checker.toList = encoding (cookieListing (q.cookie l))++
        (encoding cookieBranchListing++encoding returnListing) := by
  dsimp only [cwdReturnCode] at h
  split at h
  · contradiction
  split at h
  · rw [← Option.some.inj h]
    refine ⟨rfl,?_,?_⟩
    all_goals
      rw [toList_writeDword (by decide)]
      rfl
  · contradiction

/-- The code in memory, behind the CALL of the copier. -/
structure CwdReturnLoaded (s : CwdReturnSpec) (o : CwdCopySpec) (q : CwdQuerySpec) (l : CwdLockSpec)
    (c : CwdReturnCode) (code : Memory) : Prop where
  emits : cwdReturnCode s o q l = some c
  cleanup : HasBytes code (q.helper l+231) c.cleanup.toList
  epilogue : HasBytes code (q.helper l+63) c.epilogue.toList
  checker : HasBytes code (s.checker l) c.checker.toList

namespace CwdReturnLoaded
variable (h : CwdReturnLoaded s o q l c code)
include h

theorem cleanup_bytes : HasBytes code (q.helper l+231) (encoding cleanupListing) := by
  have hbytes := h.cleanup
  rwa [(cwdReturnCode_encoding h.emits).1] at hbytes

theorem epilogue_bytes : HasBytes code (q.helper l+63) (encoding decodeListing) ∧
    HasBytes code (q.helper l+70) (encoding (callListing (s.checkerRva-(q.helperRva+75)))) ∧
    HasBytes code (q.helper l+75) (encoding helperEpilogueListing) := by
  have hbytes := h.epilogue
  rw [(cwdReturnCode_encoding h.emits).2.1, hasBytes_append, hasBytes_append] at hbytes
  rwa [show q.helper l+70 = q.helper l+63+7 by ring, show q.helper l+75 = q.helper l+63+7+5 by ring]

theorem checker_bytes : HasBytes code (s.checker l) (encoding (cookieListing (q.cookie l))) ∧
    HasBytes code (s.checker l+6) (encoding cookieBranchListing) ∧
    HasBytes code (s.checker l+8) (encoding returnListing) := by
  have hbytes := h.checker
  rw [(cwdReturnCode_encoding h.emits).2.2, hasBytes_append, hasBytes_append] at hbytes
  rwa [show s.checker l+8 = s.checker l+6+2 by ring]

end CwdReturnLoaded

/-! The machine at the stops. -/

/-- The return of the copier, with its arguments as they were. -/
structure CwdReturnCaller (q : CwdQuerySpec) (l : CwdLockSpec) (destination : BitVec 32) (m b : Machine) :
    Prop where
  query : CwdQueryCaller q l destination m
  frame : HelperFrame q l destination m b
  eip : b.eip = q.helper l+231
  esp : b.regs.esp = m.regs.esp-296
  eax : b.regs.eax = destination
  source : word b.mem (m.regs.esp-292) = m.regs.esp-284
  nonzero : destination ≠ 0
  fits : destination ≤ 0xffffffff-128

/-- The arguments of the copier are off the stack. -/
def cleaned (q : CwdQuerySpec) (l : CwdLockSpec) (m b : Machine) : Machine :=
  { b with
    regs := { b.regs with ecx := m.regs.esp-284, esp := m.regs.esp-288 }
    flags := blend b.flags resumeFlag 0
    eip := q.helper l+63 }

/-- The cookie is what it was before the helper kept it. -/
def cookieDecoded (q : CwdQuerySpec) (l : CwdLockSpec) (m b : Machine) : Machine :=
  let cookie := word m.mem (q.cookie l)
  { b with
    regs := { b.regs with ecx := cookie, ebx := 0, esp := m.regs.esp-284 }
    flags := blend (blend b.flags resumeFlag 0) arithmeticFlags
      (resultFlags cookie ||| b.undefined 0 &&& 0x10)
    eip := q.helper l+70
    undefined := fun n => b.undefined (n+1) }

def checkerEntered (s : CwdReturnSpec) (q : CwdQuerySpec) (l : CwdLockSpec) (m b : Machine) : Machine :=
  { cookieDecoded q l m b with
    regs := { (cookieDecoded q l m b).regs with esp := m.regs.esp-288 }
    eip := s.checker l
    mem := setWord b.mem (m.regs.esp-288) (q.helper l+75) }

/-- Behind the comparison of the cookie with itself. -/
def cookieMatched (s : CwdReturnSpec) (q : CwdQuerySpec) (l : CwdLockSpec) (m b : Machine) : Machine :=
  { checkerEntered s q l m b with
    flags := blend (blend b.flags resumeFlag 0) arithmeticFlags 0x44
    eip := s.checker l+6 }

def cookiePassed (s : CwdReturnSpec) (q : CwdQuerySpec) (l : CwdLockSpec) (m b : Machine) : Machine :=
  { cookieMatched s q l m b with eip := s.checker l+8 }

def checkerReturned (s : CwdReturnSpec) (q : CwdQuerySpec) (l : CwdLockSpec) (m b : Machine) : Machine :=
  { cookieMatched s q l m b with
    regs := { (cookieMatched s q l m b).regs with esp := m.regs.esp-284 }
    eip := q.helper l+75 }

/-- In the wrapper. -/
def helperReturned (s : CwdReturnSpec) (q : CwdQuerySpec) (l : CwdLockSpec) (m b : Machine) : Machine :=
  { cookieMatched s q l m b with
    regs := { (cookieMatched s q l m b).regs with esp := m.regs.esp-8, ebp := m.regs.ebp }
    eip := l.helperReturn }

section Execution
variable (hcode : CwdReturnLoaded s o q l c code)
include hcode

theorem reaches_cleaned (hb : CwdReturnCaller q l destination m b) :
    Reaches code b (cleaned q l m b) := by
  refine reaches_listing straight_cleanupListing hcode.cleanup_bytes hb.eip ?_
  rw [cleaned]
  obtain ⟨_,_,heip,hesp,_,hsource,_⟩ := hb
  obtain ⟨x,hx⟩ : ∃ x, m.regs.esp = x+304 := ⟨m.regs.esp-304,by ring⟩
  rw [hx] at hesp hsource ⊢
  obtain ⟨⟨eax,ecx,edx,ebx,esp,ebp,esi,edi⟩,flags,eip,mem,fs,undefined⟩ := b
  simp only at hesp heip
  subst hesp heip
  simp [BitVec.sub_eq_add_neg, BitVec.add_assoc] at hsource
  simp (disch := decide) [cleanupListing, hsource, BitVec.sub_eq_add_neg, BitVec.add_assoc]

theorem reaches_cookieDecoded (hb : CwdReturnCaller q l destination m b) :
    Reaches code (cleaned q l m b) (cookieDecoded q l m b) := by
  have hencoded := hb.frame.encoded
  have hreturn := hb.frame.arguments.1
  have hsaved := hb.frame.savedEbx
  have hebp := hb.frame.ebp
  have hcookie : word m.mem (q.cookie l) ^^^ l.helperReturn ^^^ l.helperReturn = word m.mem (q.cookie l) := by
    rw [BitVec.xor_assoc, BitVec.xor_self]
    exact BitVec.xor_zero
  refine reaches_listing straight_decodeListing hcode.epilogue_bytes.1 rfl ?_
  rw [encodedCookie] at hencoded
  rw [cleaned, cookieDecoded]
  generalize word m.mem (q.cookie l) = cookie at *
  obtain ⟨x,hx⟩ : ∃ x, m.regs.esp = x+304 := ⟨m.regs.esp-304,by ring⟩
  rw [hx] at hencoded hreturn hsaved hebp ⊢
  obtain ⟨⟨eax,ecx,edx,ebx,esp,ebp,esi,edi⟩,flags,eip,mem,fs,undefined⟩ := b
  simp only at hebp
  subst hebp
  simp [BitVec.sub_eq_add_neg, BitVec.add_assoc] at hencoded hreturn hsaved
  simp (disch := decide) [decodeListing, hencoded, hreturn, hsaved, hcookie, BitVec.sub_eq_add_neg,
    BitVec.add_assoc, blend_resumeFlag]

theorem reaches_checkerEntered :
    Reaches code (cookieDecoded q l m b) (checkerEntered s q l m b) := by
  have htarget : q.helper l+75+(s.checkerRva-(q.helperRva+75)) = s.checker l := by
    rw [CwdQuerySpec.helper, CwdReturnSpec.checker]
    ring
  refine reaches_listing (straight_callListing _) hcode.epilogue_bytes.2.1 rfl ?_
  rw [checkerEntered, cookieDecoded, ← htarget]
  obtain ⟨x,hx⟩ : ∃ x, m.regs.esp = x+304 := ⟨m.regs.esp-304,by ring⟩
  rw [hx]
  obtain ⟨⟨eax,ecx,edx,ebx,esp,ebp,esi,edi⟩,flags,eip,mem,fs,undefined⟩ := b
  simp (disch := decide) [callListing, BitVec.sub_eq_add_neg, BitVec.add_assoc, blend_resumeFlag]

theorem reaches_cookieMatched (hb : CwdReturnCaller q l destination m b) :
    Reaches code (checkerEntered s q l m b) (cookieMatched s q l m b) := by
  have hcookie : word (setWord b.mem (m.regs.esp-288) (q.helper l+75)) (q.cookie l) =
      word m.mem (q.cookie l) := by
    have hapart : Apart (m.regs.esp-288) 4 (q.cookie l) 4 := by
      rw [show m.regs.esp-288 = m.regs.esp-304+16 by ring]
      exact (hb.query.globals _ (by simp)).left (by decide) (by decide) (by decide)
    rw [word_setWord_of_apart hapart, hb.frame.cookie]
  refine reaches_listing (straight_cookieListing _) hcode.checker_bytes.1 rfl ?_
  rw [cookieMatched, checkerEntered, cookieDecoded]
  generalize setWord b.mem (m.regs.esp-288) (q.helper l+75) = mem' at *
  obtain ⟨⟨eax,ecx,edx,ebx,esp,ebp,esi,edi⟩,flags,eip,mem,fs,undefined⟩ := b
  simp (disch := decide) [cookieListing, hcookie, subFlags_self, blend_resumeFlag]

theorem reaches_cookiePassed :
    Reaches code (cookieMatched s q l m b) (cookiePassed s q l m b) := by
  refine reaches_listing straight_cookieBranchListing hcode.checker_bytes.2.1 rfl ?_
  have hholds : Condition.zero.holds (blend (blend b.flags resumeFlag 0) arithmeticFlags 0x44) = true := by
    rw [← subFlags_self 0, holds_zero]
    exact decide_eq_true rfl
  rw [cookiePassed, cookieMatched, checkerEntered, cookieDecoded]
  simp only [BitVec.ofNat_eq_ofNat] at hholds
  simp (disch := decide) [cookieBranchListing, hholds, BitVec.add_assoc, blend_resumeFlag]

theorem reaches_checkerReturned :
    Reaches code (cookiePassed s q l m b) (checkerReturned s q l m b) := by
  refine reaches_listing straight_returnListing hcode.checker_bytes.2.2 rfl ?_
  rw [cookiePassed, checkerReturned, cookieMatched, checkerEntered, cookieDecoded]
  obtain ⟨x,hx⟩ : ∃ x, m.regs.esp = x+304 := ⟨m.regs.esp-304,by ring⟩
  rw [hx]
  obtain ⟨⟨eax,ecx,edx,ebx,esp,ebp,esi,edi⟩,flags,eip,mem,fs,undefined⟩ := b
  simp (disch := decide) [returnListing, BitVec.sub_eq_add_neg, BitVec.add_assoc, blend_resumeFlag]

theorem reaches_helperReturned (hb : CwdReturnCaller q l destination m b) :
    Reaches code (checkerReturned s q l m b) (helperReturned s q l m b) := by
  have hreturn := hb.frame.arguments.1
  have hsaved := hb.frame.savedEbp
  have hebp := hb.frame.ebp
  refine reaches_listing straight_helperEpilogueListing hcode.epilogue_bytes.2.2 rfl ?_
  rw [checkerReturned, helperReturned, cookieMatched, checkerEntered, cookieDecoded]
  generalize m.regs.ebp = old at *
  obtain ⟨x,hx⟩ : ∃ x, m.regs.esp = x+304 := ⟨m.regs.esp-304,by ring⟩
  rw [hx] at hreturn hsaved hebp ⊢
  obtain ⟨⟨eax,ecx,edx,ebx,esp,ebp,esi,edi⟩,flags,eip,mem,fs,undefined⟩ := b
  simp only at hebp
  subst hebp
  simp [BitVec.sub_eq_add_neg, BitVec.add_assoc] at hreturn hsaved
  simp (disch := decide) [helperEpilogueListing, hreturn, hsaved, BitVec.sub_eq_add_neg, BitVec.add_assoc,
    word_setWord_add, blend_resumeFlag]

end Execution

/-! What the checkpoint compares, at its stops. -/

theorem returnLogicFlags_eq (v : BitVec 32) : returnLogicFlags v = resultFlags v := by
  have hsign : (v >>> 31)*0x80 = flag 7 v.msb := by
    rw [BitVec.msb_eq_decide, flag_decide]
    split <;> bv_omega
  have hparity : ((if popcount (v &&& 255)%2 = 0 then 4 else 0 : ℕ) : BitVec 32) = flag 2 (evenParity v) := by
    rw [evenParity_eq, flag_decide]
    split <;> rfl
  have hzero : ((if v = 0 then 0x40 else 0 : ℕ) : BitVec 32) = flag 6 (v = 0) := by
    rw [flag_decide]
    split <;> rfl
  rw [returnLogicFlags, hparity, hzero, hsign, resultFlags]

/-- The flags that the checkpoint does not look at. -/
def returnFree (stage : ℕ) : BitVec 32 :=
  if stage = 2 ∨ stage = 3 then resumeFlag ||| 0x10 else resumeFlag

/-- The registers that are expected. -/
def returnRegisters (stage : ℕ) (cookie destination : BitVec 32) (h b : DispatchRegisters) :
    DispatchRegisters :=
  let b := { b with eax := destination, ecx := cookie, ebx := 0, esi := 0, edi := 24 }
  match stage with
  | 1 => { b with esp := h.esp-288, ecx := h.esp-284 }
  | 2 => { b with esp := h.esp-284 }
  | 3 => { b with esp := h.esp-288 }
  | 4 => { b with esp := h.esp-288 }
  | 5 => { b with esp := h.esp-284 }
  | _ => { b with esp := h.esp-8, ebp := h.ebp }

/-- The arithmetic flags that it does look at, and their values. -/
def returnMask (stage : ℕ) : BitVec 32 :=
  if stage = 1 then 0x8d5 else if stage = 2 ∨ stage = 3 then 0x8c5 else 0x8d5

def returnFlags (stage : ℕ) (cookie : BitVec 32) (b : DispatchRegisters) : BitVec 32 :=
  if stage = 1 then b.flags &&& 0x8d5 else if stage = 2 ∨ stage = 3 then returnLogicFlags cookie else 0x44

/-- Exactly these registers, but for some flags, and exactly this window are accepted. -/
structure CwdReturnDescribes (stage : ℕ) (q : CwdQuerySpec) (l : CwdLockSpec) (destination : BitVec 32)
    (m b m' : Machine) : Prop where
  frame : ∀ r, cwdReturnFrame stage (registers m) (registers b) r (word m.mem (q.cookie l)) destination ↔
    AgreeBut (returnFree stage) r (registers m')
  stack : ∀ now, cwdQueryStack 7 (queryWindow m.regs.esp m) now destination l.helperReturn ↔
    now = queryWindow m.regs.esp m'

/-- All flags but the resume flag are the arithmetic ones and the others. -/
theorem flags_split (x y : BitVec 32) : (x ^^^ y) &&& ~~~(0x10000 : BitVec 32) = 0 ↔
    x &&& 0x8d5 = y &&& 0x8d5 ∧ (x ^^^ y) &&& 0xfffef72a = 0 := by
  have hcover : ~~~(0x10000 : BitVec 32) = 0x8d5 ||| 0xfffef72a := by decide
  rw [agree_iff rfl rfl hcover, xor_and_eq_zero]

theorem cwdReturn_describes_of (hb : CwdReturnCaller q l destination m b) {stage : ℕ} {m' : Machine}
    (hstage : 1 ≤ stage ∧ stage ≤ 6)
    (hnow : registers m' = { returnRegisters stage (word m.mem (q.cookie l)) destination (registers m)
      (registers b) with flags := m'.flags })
    (hrest : m'.flags &&& 0xfffef72a = b.flags &&& 0xfffef72a)
    (hresult : m'.flags &&& returnMask stage =
      returnFlags stage (word m.mem (q.cookie l)) (registers b))
    (hwindow : queryWindow m.regs.esp m' = queryWindow m.regs.esp b) :
    CwdReturnDescribes stage q l destination m b m' where
  frame r := by
    have htrap : b.flags &&& 0x500 = 0 :=
      (and_eq_of_agree hb.frame.flags (by decide)).trans hb.query.flags
    have hiff : (r.flags &&& 0x500#32 = 0#32 ∧ r.flags &&& returnMask stage =
        returnFlags stage (word m.mem (q.cookie l)) (registers b) ∧
        (r.flags ^^^ b.flags) &&& 0xfffef72a = 0#32) ↔
        r.flags &&& ~~~returnFree stage = m'.flags &&& ~~~returnFree stage := by
      refine flags_iff htrap hresult hrest ?_ (by decide)
      obtain ⟨h1,h6⟩ := hstage
      interval_cases stage <;> decide
    have hunchanged := flags_split r.flags b.flags
    rw [agreeBut_iff, show (registers m').flags = m'.flags from rfl, ← hiff]
    have hhelper := hb.frame
    obtain ⟨hquery,_,_,hesp,heax,_,hnonzero,hfits⟩ := hb
    obtain ⟨_,hcebp,_,_,_,_,hlow,hhigh,haligned,_⟩ := hquery
    obtain ⟨hebp,hebx,hesi,hedi,_⟩ := hhelper
    simp only [registers] at hnow ⊢
    obtain ⟨h1,h6⟩ := hstage
    interval_cases stage <;>
      simp [cwdReturnFrame, returnRegisters, returnMask, returnFlags, hcebp, hebp, hebx, hesi, hedi, hesp,
        heax, haligned, BitVec.xor_comm b.flags] at hnow hunchanged ⊢
    all_goals
      clear hiff hresult hrest hwindow
      grind
  stack now := by
    rw [hwindow]
    exact cwdQueryStack_returned hb.frame now

section Stops
variable (hb : CwdReturnCaller q l destination m b)

/-- The call of the checker is below the window. -/
theorem window_checkerEntered : queryWindow m.regs.esp (checkerEntered s q l m b) =
    queryWindow m.regs.esp b := by
  have hset : setWord b.mem (m.regs.esp-288) (q.helper l+75) =
      setWords b.mem (m.regs.esp-304) [(16,q.helper l+75)] := by
    rw [setWords, List.foldl_cons, List.foldl_nil, show m.regs.esp-304+16 = m.regs.esp-288 by ring]
  rw [queryWindow, checkerEntered, hset]
  exact queryWindow_setWords (by simp)

theorem flags_cookieDecoded (q : CwdQuerySpec) (l : CwdLockSpec) (m b : Machine) :
    (cookieDecoded q l m b).flags &&& 0xfffef72a = b.flags &&& 0xfffef72a ∧
    (cookieDecoded q l m b).flags &&& 0x8c5 = returnLogicFlags (word m.mem (q.cookie l)) := by
  have hwithin : (0x8c5 : BitVec 32) &&& arithmeticFlags = 0x8c5 := by decide
  have hfree : (b.undefined 0 &&& 0x10) &&& (0x8c5 : BitVec 32) = 0 := by
    rw [BitVec.and_assoc]
    exact BitVec.and_zero
  rw [cookieDecoded, returnLogicFlags_eq]
  generalize word m.mem (q.cookie l) = cookie
  have hpart : resultFlags cookie &&& 0x8c5 = resultFlags cookie := by
    rw [← resultFlags_within, BitVec.and_assoc]
    rfl
  constructor
  · simp (disch := decide) only [blend_and_of_disjoint]
  · calc _ = (resultFlags cookie ||| b.undefined 0 &&& 0x10) &&& 0x8c5 := blend_and_of_within hwithin
      _ = resultFlags cookie ||| 0 := by rw [or_and, hpart, hfree]
      _ = resultFlags cookie := BitVec.or_zero

theorem flags_cookieMatched (s : CwdReturnSpec) (q : CwdQuerySpec) (l : CwdLockSpec) (m b : Machine) :
    (cookieMatched s q l m b).flags &&& 0xfffef72a = b.flags &&& 0xfffef72a ∧
    (cookieMatched s q l m b).flags &&& 0x8d5 = 0x44 := by
  rw [cookieMatched]
  constructor
  · simp (disch := decide) only [blend_and_of_disjoint]
  · exact (blend_and_of_within (by decide)).trans (by decide)

include hb

theorem describes_cleaned : CwdReturnDescribes 1 q l destination m b (cleaned q l m b) := by
  apply cwdReturn_describes_of hb (by decide)
  · simp only [registers, returnRegisters, cleaned, hb.eax, hb.frame.ebx, hb.frame.esi, hb.frame.edi]
  · simp (disch := decide) only [cleaned, blend_and_of_disjoint]
  · exact blend_and_of_disjoint (by decide)
  · rfl

theorem describes_cookieDecoded : CwdReturnDescribes 2 q l destination m b (cookieDecoded q l m b) := by
  apply cwdReturn_describes_of hb (by decide)
  · simp only [registers, returnRegisters, cookieDecoded, hb.eax, hb.frame.esi, hb.frame.edi]
  · exact (flags_cookieDecoded q l m b).1
  · exact (flags_cookieDecoded q l m b).2
  · rfl

theorem describes_checkerEntered :
    CwdReturnDescribes 3 q l destination m b (checkerEntered s q l m b) := by
  apply cwdReturn_describes_of hb (by decide)
  · simp only [registers, returnRegisters, checkerEntered, cookieDecoded, hb.eax, hb.frame.esi, hb.frame.edi]
  · exact (flags_cookieDecoded q l m b).1
  · exact (flags_cookieDecoded q l m b).2
  · exact window_checkerEntered

/-- From the comparison on the flags stay as they are, and so does the window. -/
theorem describes_of_matched {stage : ℕ} {m' : Machine} (hstage : 4 ≤ stage ∧ stage ≤ 6)
    (hnow : registers m' = { returnRegisters stage (word m.mem (q.cookie l)) destination (registers m)
      (registers b) with flags := m'.flags })
    (hflags : m'.flags = (cookieMatched s q l m b).flags)
    (hmem : m'.mem = (checkerEntered s q l m b).mem) : CwdReturnDescribes stage q l destination m b m' := by
  obtain ⟨h4,h6⟩ := hstage
  have hmask : returnMask stage = 0x8d5 ∧
      returnFlags stage (word m.mem (q.cookie l)) (registers b) = 0x44 := by
    rw [returnMask, returnFlags]
    constructor <;> simp only [show ¬stage = 1 by omega, show ¬(stage = 2 ∨ stage = 3) by omega, if_false]
  apply cwdReturn_describes_of hb ⟨by omega,h6⟩ hnow
  · rw [hflags]
    exact (flags_cookieMatched s q l m b).1
  · rw [hmask.1, hmask.2, hflags]
    exact (flags_cookieMatched s q l m b).2
  · rw [← @window_checkerEntered s q l m b, queryWindow, queryWindow, hmem]

theorem describes_cookieMatched :
    CwdReturnDescribes 4 q l destination m b (cookieMatched s q l m b) := by
  apply describes_of_matched hb (by decide) _ rfl rfl
  simp only [registers, returnRegisters, cookieMatched, checkerEntered, cookieDecoded, hb.eax, hb.frame.esi,
    hb.frame.edi]

theorem describes_checkerReturned :
    CwdReturnDescribes 5 q l destination m b (checkerReturned s q l m b) := by
  apply @describes_of_matched s q l m b destination hb 5 (checkerReturned s q l m b) (by decide)
  · simp only [registers, returnRegisters, checkerReturned, cookieMatched, checkerEntered, cookieDecoded,
      hb.eax, hb.frame.esi, hb.frame.edi]
  · rfl
  · rfl

theorem describes_helperReturned :
    CwdReturnDescribes 6 q l destination m b (helperReturned s q l m b) := by
  apply @describes_of_matched s q l m b destination hb 6 (helperReturned s q l m b) (by decide)
  · simp only [registers, returnRegisters, helperReturned, cookieMatched, checkerEntered, cookieDecoded,
      hb.eax, hb.frame.esi, hb.frame.edi]
  · rfl
  · rfl

end Stops

/-! The checkpoints one after the other. -/

/-- From the return of the copier on: the execution comes to the stops of the checkpoint, which
describes it, and leaves the helper with its caller's frame. -/
def CwdReturnDescribed (s : CwdReturnSpec) (q : CwdQuerySpec) (l : CwdLockSpec) (code : Memory)
    (destination : BitVec 32) (m b : Machine) : Prop :=
  ∃ m₁ m₂ m₃ m₄ m₅ m₆, Reaches code b m₁ ∧ Reaches code m₁ m₂ ∧ Reaches code m₂ m₃ ∧
    Reaches code m₃ m₄ ∧ Reaches code m₄ m₅ ∧ Reaches code m₅ m₆ ∧
    (∀ x ∈ [(1,m₁,q.helper l+63),(2,m₂,q.helper l+70),(3,m₃,s.checker l),(4,m₄,s.checker l+6),
      (5,m₅,q.helper l+75),(6,m₆,l.helperReturn)],
      x.2.1.eip = x.2.2 ∧ CwdReturnDescribes x.1 q l destination m b x.2.1) ∧
    m₆.regs.eax = destination ∧ m₆.regs.ebp = m.regs.ebp ∧ m₆.regs.esp = m.regs.esp-8

/-- From the return of the directory function on. -/
def CwdCopyDescribed (s : CwdReturnSpec) (o : CwdCopySpec) (q : CwdQuerySpec) (l : CwdLockSpec)
    (code : Memory) (destination : BitVec 32) (m a : Machine) : Prop :=
  ∃ m₁ m₂ m₃ m₄, Reaches code a m₁ ∧ Reaches code m₁ m₂ ∧ Reaches code m₂ m₃ ∧ Reaches code m₃ m₄ ∧
    (∀ x ∈ [(1,m₁,q.helper l+158),(2,m₂,q.helper l+200),(3,m₃,q.helper l+226),(4,m₄,o.copier l)],
      x.2.1.eip = x.2.2 ∧ CwdCopyDescribes x.1 destination m a x.2.1 ∧
        ∀ now, cwdQueryStack 7 (queryWindow m.regs.esp m) now destination l.helperReturn ↔
          now = queryWindow m.regs.esp x.2.1) ∧
    -- What the copier is given.
    word m₄.mem (m₄.regs.esp+4) = destination ∧ word m₄.mem (m₄.regs.esp+8) = m.regs.esp-284 ∧
    ∀ b, Returned 0 (~~~arithmeticFlags) (helperKept q l m) m₄ b → b.regs.eax = destination →
      b.eip = q.helper l+231 ∧
      (∀ r, cwdCopyFrame 5 (registers m) (registers a) r (m.regs.esp-284) destination a.regs.eax ↔
        r.eax = destination ∧ AgreeKept r (registers b)) ∧
      (∀ now, cwdQueryStack 7 (queryWindow m.regs.esp m) now destination l.helperReturn ↔
        now = queryWindow m.regs.esp b) ∧
      CwdReturnDescribed s q l code destination m b

/-- From the return of the selector on. -/
def CwdQueryDescribed (s : CwdReturnSpec) (o : CwdCopySpec) (q : CwdQuerySpec) (l : CwdLockSpec)
    (code : Memory) (destination : BitVec 32) (m : Machine) : Prop :=
  ∃ m₁ m₂ m₃ m₄ m₅ m₆, Reaches code m m₁ ∧ Reaches code m₁ m₂ ∧ Reaches code m₂ m₃ ∧
    Reaches code m₃ m₄ ∧ Reaches code m₄ m₅ ∧ Reaches code m₅ m₆ ∧
    (∀ x ∈ [(1,m₁,l.selector.callAddress+18),(2,m₂,q.helper l),(3,m₃,q.helper l+26),
      (4,m₄,q.helper l+123),(5,m₅,q.helper l+135),(6,m₆,word m.mem (q.iat l))],
      x.2.1.eip = x.2.2 ∧ CwdQueryDescribes x.1 q l destination m x.2.1) ∧
    -- What the function is given: the size of the buffer and the buffer.
    word m₆.mem (m₆.regs.esp+4) = 260 ∧ word m₆.mem (m₆.regs.esp+8) = m.regs.esp-284 ∧
    ∀ a, Returned 8 (~~~arithmeticFlags) (helperKept q l m) m₆ a →
      a.eip = q.helper l+141 ∧
      (∀ r, cwdQueryFrame 7 (registers m) r (word m.mem (q.cookie l)) l.helperReturn ↔
        AgreeKept r (registers a)) ∧
      (∀ now, cwdQueryStack 7 (queryWindow m.regs.esp m) now destination l.helperReturn ↔
        now = queryWindow m.regs.esp a) ∧
      (cwdQueryResult a.regs.eax (loadArray a.mem (m.regs.esp-284) 260) q.expectedDirectory = some "" →
        CwdCopyDescribed s o q l code destination m a)

theorem cwdReturnDescribed (hcode : CwdReturnLoaded s o q l c code)
    (hb : CwdReturnCaller q l destination m b) : CwdReturnDescribed s q l code destination m b := by
  refine ⟨_,_,_,_,_,_,reaches_cleaned hcode hb,reaches_cookieDecoded hcode hb,reaches_checkerEntered hcode,
    reaches_cookieMatched hcode hb,(reaches_cookiePassed hcode).trans (reaches_checkerReturned hcode),
    reaches_helperReturned hcode hb,?_,hb.eax,rfl,rfl⟩
  simp only [List.forall_mem_cons]
  refine ⟨⟨rfl,describes_cleaned hb⟩,⟨rfl,describes_cookieDecoded hb⟩,⟨rfl,describes_checkerEntered hb⟩,
    ⟨rfl,describes_cookieMatched hb⟩,⟨rfl,describes_checkerReturned hb⟩,⟨rfl,describes_helperReturned hb⟩,?_⟩
  simp

variable {a : Machine} {copy : CwdCopyCode} {query : CwdQueryCode}

theorem cwdCopyDescribed (hcopy : CwdCopyLoaded o q l copy code) (hcode : CwdReturnLoaded s o q l c code)
    (ha : CwdCopyCaller q l destination m a) : CwdCopyDescribed s o q l code destination m a := by
  have hstack {now : Machine} (h : HelperFrame q l destination m now) (w : QueryWindow) :=
    cwdQueryStack_returned h w
  refine ⟨_,_,_,_,((reaches_lengthTested hcopy ha).trans (reaches_limitCompared hcopy ha)).trans
    (reaches_destinationTested hcopy ha),
    (reaches_destinationPresent hcopy ha).trans (reaches_capacityCompared hcopy ha),
    (reaches_capacityEnough hcopy ha).trans (reaches_copyPushed hcopy ha),reaches_copierEntered hcopy,
    ?_,?_,?_,?_⟩
  · simp only [List.forall_mem_cons]
    refine ⟨⟨rfl,describes_destinationTested ha,hstack (helperFrame_destinationTested ha)⟩,
      ⟨rfl,describes_capacityCompared ha,hstack (helperFrame_capacityCompared ha)⟩,
      ⟨rfl,describes_copyPushed ha,hstack (helperFrame_copyPushed ha)⟩,
      ⟨rfl,describes_copierEntered ha,hstack (helperFrame_copierEntered ha)⟩,?_⟩
    simp
  · rw [copierEntered, show m.regs.esp-300+4 = m.regs.esp-304+8 by ring]
    simp (disch := decide) [setWords, word_setWord_add]
  · rw [copierEntered, show m.regs.esp-300+8 = m.regs.esp-304+12 by ring]
    simp (disch := decide) [setWords, word_setWord_add]
  · intro b hreturned heax
    obtain ⟨heip,hesp⟩ := place_of_copier hreturned
    have hframe := helperFrame_of_copier ha hreturned
    exact ⟨heip,cwdCopyFrame_returned ha hreturned,hstack hframe,cwdReturnDescribed hcode
      ⟨ha.query,hframe,heip,hesp,heax,source_of_copier hreturned,ha.nonzero,ha.fits⟩⟩

/-- Every way through the helper is as the three checkpoints say, for every answer of the directory
function that the first of them admits and every copier that keeps to its calling convention. -/
theorem cwd_directory_describes_code (hquery : CwdQueryLoaded q l query code)
    (hcopy : CwdCopyLoaded o q l copy code) (hcode : CwdReturnLoaded s o q l c code)
    (hcaller : CwdQueryCaller q l destination m) (hnonzero : destination ≠ 0)
    (hfits : destination ≤ 0xffffffff-128) (hapart : Apart (m.regs.esp-304) 376 destination 128) :
    CwdQueryDescribed s o q l code destination m := by
  refine ⟨_,_,_,_,_,_,reaches_wrapperPushed hquery hcaller,reaches_helperEntered hquery,
    reaches_driveTested hquery hcaller,reaches_queryPath hquery,reaches_queryPushed hquery,
    reaches_queryEntered hquery hcaller,?_,?_,?_,?_⟩
  · simp only [List.forall_mem_cons]
    refine ⟨⟨rfl,describes_wrapperPushed hcaller⟩,⟨rfl,describes_helperEntered hcaller⟩,
      ⟨rfl,describes_driveTested hcaller⟩,⟨rfl,describes_queryPath hcaller⟩,
      ⟨rfl,describes_queryPushed hcaller⟩,⟨rfl,describes_queryEntered hcaller⟩,?_⟩
    simp
  · rw [queryEntered, show m.regs.esp-300+4 = m.regs.esp-304+8 by ring]
    simp (disch := decide) [setWords, word_setWord_add]
  · rw [queryEntered, show m.regs.esp-300+8 = m.regs.esp-304+12 by ring]
    simp (disch := decide) [setWords, word_setWord_add]
  · intro a hreturned
    obtain ⟨heip,hesp⟩ := place_of_query hreturned
    have hframe := helperFrame_of_query hcaller hreturned
    refine ⟨heip,cwdQueryFrame_returned hcaller hreturned,cwdQueryStack_returned hframe,fun hresult => ?_⟩
    obtain ⟨hthree,hlimit,_⟩ := of_cwdQueryResult hresult
    exact cwdCopyDescribed hcopy hcode ⟨hcaller,hframe,heip,hesp,hthree,hlimit,hnonzero,hfits,hapart⟩

/-- Back from a directory function that has this directory to answer with. -/
def directoryAnswered (expected : List UInt8) (buffer : Address) (m : Machine) : Machine :=
  backFrom 8 (BitVec.ofNat 32 expected.length)
    (store m.mem buffer (splice 0 expected (.replicate 260 0)).toList) m

theorem returned_directoryAnswered {expected : List UInt8} {buffer kept : BitVec 32}
    {memory : List (Address × ℕ)} {m : Machine} (h : ∀ x ∈ memory, Apart buffer 260 x.1 x.2) :
    Returned 8 kept memory m (directoryAnswered expected buffer m) := by
  refine returned_backFrom fun x hx => load_store_of_apart ?_
  rw [Vector.length_toList]
  exact h x hx

/-- Its answer is the one that the checkpoint waits for. -/
theorem cwdQueryResult_answered {expected : List UInt8} {buffer : Address} {m : Machine}
    (hdirectory : cwdQueryDirectory expected) (hfits : expected.length ≤ 126) :
    cwdQueryResult (directoryAnswered expected buffer m).regs.eax
      (loadArray (directoryAnswered expected buffer m).mem buffer 260) expected = some "" := by
  have hfit : (splice 0 expected (.replicate 260 0)).toList.length ≤ 2^32 := by
    rw [Vector.length_toList]
    omega
  have hself := @load_store_self m.mem buffer _ hfit
  rw [Vector.length_toList, ← toList_loadArray, Vector.toList_inj] at hself
  rw [directoryAnswered, backFrom, hself]
  exact cwdQueryResult_padded hdirectory hfits

/-! The reviewed image, and a thread in it whose current directory is `C:\`. -/

def reviewedCwdQuerySpec : CwdQuerySpec where
  helperRva := 4418979
  cookieRva := 5124540
  iatRva := 4555332
  thunkSlotRva := 530324
  function :=
    { rva := 200800
      prefixBytes := #v[0x8b,0xff,0x55,0x8b,0xec,0x5d,0xff,0x25,0x94,0x17,8,0x10,0xcc,0xcc,0xcc,0xcc,0xcc,
        0xcc,0xcc,0xcc]
      preferredBase := 268435456
      highlowMask := 256 }
  implementation :=
    { rva := 2463152
      prefixBytes := #v[0x8b,0xff,0x55,0x8b,0xec,0x81,0xec,0x1c,1,0,0,0xa1,0xc0,0x3c,0x28,0x10,0x33,0xc5,0x89,
        0x45]
      preferredBase := 268435456
      highlowMask := 4096 }
  returnPrefix := #v[0x85,0xc0,0x74,0xac,0x40,0x3d,4,1,0,0,0x77,0xa4,0x8b,0x4d,0x0c,0x85]
  expectedDirectory := [0x43,0x3a,0x5c]

def reviewedCwdCopySpec : CwdCopySpec where
  copierRva := 4351376
  returnPrefix := #v[0x59,0x59,0xe9,0x51,0xff,0xff,0xff,0x6a,0x0c,0x68,0x18,0xdf,0x88,0,0xe8,0x43]

def reviewedCwdQueryCode : CwdQueryCode where
  wrapper := #v[0x59,0x83,0x65,0xfc,0,0xff,0x75,0x0c,0xff,0x75,8,0x6a,0,0xe8,0xed,0xfe,0xff,0xff]
  helper := #v[0x55,0x8b,0xec,0x81,0xec,0x0c,1,0,0,0xa1,0xbc,0x31,0x8e,0,0x33,0x45,4,0x53,0x8b,0x5d,8,
    0x85,0xdb,0x89,0x45,0xfc,0x74,0x5f]
  query := #v[0x8d,0x85,0xf4,0xfe,0xff,0xff,0x50,0x68,4,1,0,0,0xff,0x15,0x44,0x82,0x85,0]

def reviewedCwdCopyCode : CwdCopyCode :=
  (cwdCopyCode reviewedCwdCopySpec reviewedCwdQuerySpec reviewedCwdLockSpec).get (by decide +kernel)

def reviewedCwdReturnCode : CwdReturnCode :=
  (cwdReturnCode reviewedCwdReturnSpec reviewedCwdCopySpec reviewedCwdQuerySpec
    reviewedCwdLockSpec).get (by decide +kernel)

def reviewedCwdDirectorySections : List (Address × List UInt8) :=
  [(0x836ea4,reviewedCwdQueryCode.wrapper.toList),(0x836da3,reviewedCwdQueryCode.helper.toList),
   (0x836e1e,reviewedCwdQueryCode.query.toList),(0x836e30,reviewedCwdCopyCode.checks.toList),
   (0x836e68,reviewedCwdCopyCode.capacity.toList),(0x836e7d,reviewedCwdCopyCode.call.toList),
   (0x836e8a,reviewedCwdReturnCode.cleanup.toList),(0x836de2,
   reviewedCwdReturnCode.epilogue.toList),(0x82aad4,reviewedCwdReturnCode.checker.toList)]

def reviewedCwdDirectoryMemory : Memory := stores (fun _ => 0) reviewedCwdDirectorySections

/-- The selector is back in the wrapper. -/
def reviewedCwdDirectoryThread : Machine where
  regs := ⟨1,0,9,0,0x19fecc,0x19fef8,0,24⟩
  flags := 0x206
  eip := 0x836ea4
  mem := setWords (fun _ => 0) 0 [(0x19fecc,7),(0x19ff00,0xb71ae0),(0x19ff04,128),
    (0x8e31bc,0xbb40e64e),(0x858244,0x76c31080)]
  fs := 0x7ffde000
  undefined := fun _ => 0

theorem cwdQueryLoaded_reviewed : CwdQueryLoaded reviewedCwdQuerySpec reviewedCwdLockSpec
    reviewedCwdQueryCode reviewedCwdDirectoryMemory ∧
    CwdCopyLoaded reviewedCwdCopySpec reviewedCwdQuerySpec reviewedCwdLockSpec reviewedCwdCopyCode
      reviewedCwdDirectoryMemory ∧
    CwdReturnLoaded reviewedCwdReturnSpec reviewedCwdCopySpec reviewedCwdQuerySpec reviewedCwdLockSpec
      reviewedCwdReturnCode reviewedCwdDirectoryMemory := by
  have hsections : ∀ x ∈ reviewedCwdDirectorySections, HasBytes reviewedCwdDirectoryMemory x.1 x.2 :=
    hasBytes_stores (by decide) (by decide)
  simp only [reviewedCwdDirectorySections, List.forall_mem_cons] at hsections
  obtain ⟨hwrapper,hhelper,hquery,hchecks,hcapacity,hcall,hcleanup,hepilogue,hchecker,_⟩ := hsections
  exact ⟨⟨by decide +kernel,hwrapper,hhelper,hquery⟩,⟨by decide +kernel,hchecks,hcapacity,hcall⟩,
    ⟨by decide,hcleanup,hepilogue,hchecker⟩⟩

theorem cwdQueryCaller_reviewed : CwdQueryCaller reviewedCwdQuerySpec reviewedCwdLockSpec 0xb71ae0
    reviewedCwdDirectoryThread := by
  constructor
  case globals =>
    simp only [List.forall_mem_cons, List.not_mem_nil, false_imp_iff, implies_true, and_true]
    decide
  all_goals decide

theorem cwd_directory_describes_reviewed_code : CwdQueryDescribed reviewedCwdReturnSpec reviewedCwdCopySpec
    reviewedCwdQuerySpec reviewedCwdLockSpec reviewedCwdDirectoryMemory 0xb71ae0
    reviewedCwdDirectoryThread ∧
    ∃ m₆ m₄ m, Reaches reviewedCwdDirectoryMemory reviewedCwdDirectoryThread m₆ ∧ m₆.eip = 0x76c31080 ∧
      Reaches reviewedCwdDirectoryMemory (directoryAnswered [0x43,0x3a,0x5c] 0x19fdb0 m₆) m₄ ∧
      m₄.eip = reviewedCwdCopySpec.copier reviewedCwdLockSpec ∧
      Reaches reviewedCwdDirectoryMemory (backFrom 0 0xb71ae0 m₄.mem m₄) m ∧
      m.eip = reviewedCwdLockSpec.helperReturn ∧ m.regs.eax = 0xb71ae0 ∧ m.regs.esp = 0x19fec4 := by
  have hdescribed := cwd_directory_describes_code cwdQueryLoaded_reviewed.1 cwdQueryLoaded_reviewed.2.1
    cwdQueryLoaded_reviewed.2.2 cwdQueryCaller_reviewed (by decide) (by decide) (by decide)
  refine ⟨hdescribed,?_⟩
  obtain ⟨m₁,m₂,m₃,m₄,m₅,m₆,hfirst,hsecond,hthird,hfourth,hfifth,hsixth,hstops,_,_,hback⟩ := hdescribed
  simp only [List.forall_mem_cons] at hstops
  obtain ⟨_,_,_,_,_,⟨hiat,_⟩,_⟩ := hstops
  have hentered : m₆.eip = 0x76c31080 := hiat.trans (by decide)
  have hreach := ((((hfirst.trans hsecond).trans hthird).trans hfourth).trans hfifth).trans hsixth
  -- The directory function writes its buffer and nothing else.
  have hapart : ∀ x ∈ helperKept reviewedCwdQuerySpec reviewedCwdLockSpec reviewedCwdDirectoryThread,
      Apart 0x19fdb0 260 x.1 x.2 := by decide
  obtain ⟨_,_,_,hpassed⟩ := hback (directoryAnswered [0x43,0x3a,0x5c] 0x19fdb0 m₆)
    (returned_directoryAnswered hapart)
  obtain ⟨c₁,c₂,c₃,c₄,hcopy₁,hcopy₂,hcopy₃,hcopy₄,hcopies,_,_,hcopied⟩ :=
    hpassed (cwdQueryResult_answered (by decide) (by decide))
  obtain ⟨_,_,_,r₁,r₂,r₃,r₄,r₅,r₆,hleft₁,hleft₂,hleft₃,hleft₄,hleft₅,hleft₆,hleaves,heax,_,hesp⟩ :=
    hcopied (backFrom 0 0xb71ae0 c₄.mem c₄) (returned_backFrom fun _ _ => rfl) rfl
  simp only [List.forall_mem_cons] at hcopies hleaves
  obtain ⟨_,_,_,⟨hcalled,_⟩,_⟩ := hcopies
  obtain ⟨_,_,_,_,_,⟨hreturn,_⟩,_⟩ := hleaves
  exact ⟨m₆,c₄,r₆,hreach,hentered,((hcopy₁.trans hcopy₂).trans hcopy₃).trans hcopy₄,hcalled,
    ((((hleft₁.trans hleft₂).trans hleft₃).trans hleft₄).trans hleft₅).trans hleft₆,
    hreturn,heax,hesp⟩

end Saex
