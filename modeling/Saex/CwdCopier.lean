import Saex.CwdReturnRun
import Saex.Ia32Bytes

/-! The copier that the checkpoint pins, executed on any string: it copies the string with its NUL, a
word at a time once its source is aligned. -/
namespace Ia32
open LittleEndian WrappedMemory

/-! Bytes of words and of registers. -/

theorem byte_of_word (mem : Memory) (a : Address) {i : ℕ} (hi : i < 4) :
    ((word mem a) >>> (8*i)).setWidth 8 = (mem (a+BitVec.ofNat 32 i)).toBitVec := by
  have hbytes : write 4 (word mem a) = load mem a 4 := write_read (by simp)
  have hget := congrArg (fun bs => bs[i]?) hbytes
  simp only [load, write, List.getElem?_map, List.getElem?_range hi, Option.map_some] at hget
  rw [← Option.some.inj hget]

/-- The low half of a word. -/
theorem write_two (mem : Memory) (a : Address) : write 2 (word mem a &&& 0xffff) = load mem a 2 := by
  have hbytes : write 4 (word mem a) = load mem a 4 := write_read (by simp)
  have hhalf : (word mem a &&& 0xffff).toNat = (word mem a).toNat%2^16 := by
    rw [BitVec.toNat_and]
    exact Nat.and_two_pow_sub_one_eq_mod _ 16
  have hload : load mem a 2 = (load mem a 4).take 2 := by
    rw [load_add mem a 2 2, List.take_left' (length_load ..)]
  rw [hload, ← hbytes, write_eq, write_eq, hhalf]
  have hlow : (word mem a).toNat%2^16%256 = (word mem a).toNat%256 := by omega
  have hhigh : (word mem a).toNat%2^16/256%256 = (word mem a).toNat/256%256 := by omega
  simp only [bytes, List.take_succ_cons, List.take_zero, hlow, hhigh]

/-- The low byte of a register that a byte has been put into. -/
theorem setWidth_blend (e : BitVec 32) (v : BitVec 8) :
    (blend e 0xff (v.setWidth 32)).setWidth 8 = v := by
  ext i hi
  have hmask : ∀ i < 8, (0xff : BitVec 32).getLsbD i = true := by decide
  have hbit := getLsbD_blend e 0xff (v.setWidth 32) i
  rw [hmask i hi, if_pos rfl] at hbit
  simp only [BitVec.getElem_setWidth, hbit]
  have hin : i < 32 := by omega
  simp [BitVec.getLsbD_eq_getElem hi, hin]

theorem signExtend_eq_zero (v : BitVec 8) : v.signExtend 32 = 0 ↔ v = 0 := by
  revert v
  decide

end Ia32

namespace Saex
open LittleEndian WrappedMemory Ia32

/-! What the bytes stand for. -/

def copierEntryListing : ByteListing :=
  [([0x57],.other (.push (.reg .edi))),
   ([0x8b,0x7c,0x24,8],.other (.mov (.reg .edi) (.mem { base := some .esp, displacement := 8 }))),
   ([0xeb,0x6e],.other (.jmp 0x6e))]

def sourceListing : ByteListing :=
  [([0x8b,0x4c,0x24,0x0c],.other (.mov (.reg .ecx) (.mem { base := some .esp, displacement := 12 }))),
   ([0xf7,0xc1,3,0,0,0],.testConstant .ecx 3),
   ([0x74,0x1d],.other (.jcc .zero true 0x1d))]

def byteReadListing : ByteListing :=
  [([0x8a,0x11],.load .dl { base := some .ecx }),
   ([0x83,0xc1,1],.other (.alu .add (.reg .ecx) (.imm 1))),
   ([0x84,0xd2],.test .dl .dl),
   ([0x74,0x66],.other (.jcc .zero true 0x66))]

def byteWriteListing : ByteListing :=
  [([0x88,0x17],.store { base := some .edi } .dl),
   ([0x83,0xc7,1],.other (.alu .add (.reg .edi) (.imm 1))),
   ([0xf7,0xc1,3,0,0,0],.testConstant .ecx 3),
   ([0x75,0xea],.other (.jcc .zero false (-22)))]

def toWordsListing : ByteListing := [([0xeb,5],.other (.jmp 5))]

def wordWriteListing : ByteListing :=
  [([0x89,0x17],.other (.mov (.mem { base := some .edi }) (.reg .edx))),
   ([0x83,0xc7,4],.other (.alu .add (.reg .edi) (.imm 4)))]

def wordReadListing : ByteListing :=
  [([0xba,0xff,0xfe,0xfe,0x7e],.other (.mov (.reg .edx) (.imm 0x7efefeff))),
   ([0x8b,1],.other (.mov (.reg .eax) (.mem { base := some .ecx }))),
   ([3,0xd0],.other (.alu .add (.reg .edx) (.reg .eax))),
   ([0x83,0xf0,0xff],.other (.alu .xor (.reg .eax) (.imm (-1)))),
   ([0x33,0xc2],.other (.alu .xor (.reg .eax) (.reg .edx))),
   ([0x8b,0x11],.other (.mov (.reg .edx) (.mem { base := some .ecx }))),
   ([0x83,0xc1,4],.other (.alu .add (.reg .ecx) (.imm 4))),
   ([0xa9,0,1,1,0x81],.testConstant .eax 0x81010100),
   ([0x74,0xe1],.other (.jcc .zero true (-31)))]

/-- The four bytes of the word, one test after the other. -/
def firstByteListing : ByteListing :=
  [([0x84,0xd2],.test .dl .dl),
   ([0x74,0x34],.other (.jcc .zero true 0x34))]

def secondByteListing : ByteListing :=
  [([0x84,0xf6],.test .dh .dh),
   ([0x74,0x27],.other (.jcc .zero true 0x27))]

def thirdByteListing : ByteListing :=
  [([0xf7,0xc2,0,0,0xff,0],.testConstant .edx 0xff0000),
   ([0x74,0x12],.other (.jcc .zero true 0x12))]

def fourthByteListing : ByteListing :=
  [([0xf7,0xc2,0,0,0,0xff],.testConstant .edx 0xff000000),
   ([0x74,2],.other (.jcc .zero true 2))]

def backListing : ByteListing := [([0xeb,0xc7],.other (.jmp (-57)))]

def resultListing : ByteListing :=
  [([0x8b,0x44,0x24,8],.other (.mov (.reg .eax) (.mem { base := some .esp, displacement := 8 })))]

def copierReturnListing : ByteListing :=
  [([0x5f],.other (.pop .edi)),
   ([0xc3],.other .ret)]

/-- The NUL is the fourth byte of a word, or the third, the second or the first one. -/
def fourthListing : ByteListing :=
  ([0x89,0x17],.other (.mov (.mem { base := some .edi }) (.reg .edx))) :: resultListing++copierReturnListing

def thirdListing : ByteListing :=
  ([0x66,0x89,0x17],.other (.mov (.mem { base := some .edi }) (.reg .edx) .word)) :: resultListing++
    ([0xc6,0x47,2,0],.other (.mov (.mem { base := some .edi, displacement := 2 }) (.imm 0) .byte)) ::
      copierReturnListing

def secondListing : ByteListing :=
  ([0x66,0x89,0x17],.other (.mov (.mem { base := some .edi }) (.reg .edx) .word)) ::
    resultListing++copierReturnListing

def firstListing : ByteListing :=
  ([0x88,0x17],.store { base := some .edi } .dl) :: resultListing++copierReturnListing

def copierBlocks : List ByteListing :=
  [sourceListing,byteReadListing,byteWriteListing,toWordsListing,wordWriteListing,wordReadListing,
   firstByteListing,secondByteListing,thirdByteListing,fourthByteListing,backListing,
   fourthListing,thirdListing,secondListing,firstListing]

theorem straight_copierEntryListing : StraightByte copierEntryListing := by
  iterate 2 refine straightByte_cons ⟨by simp,fun _ => rfl⟩ trivial ?_
  exact straightByte_singleton ⟨by simp,fun _ => rfl⟩

theorem straight_copierBlocks : ∀ xs ∈ copierBlocks, StraightByte xs := by
  simp only [copierBlocks, List.forall_mem_cons, List.not_mem_nil, false_imp_iff, implies_true, and_true]
  refine ⟨?_,?_,?_,?_,?_,?_,?_,?_,?_,?_,?_,?_,?_,?_,?_⟩
  all_goals
    repeat refine straightByte_cons ⟨by simp,fun _ => rfl⟩ trivial ?_
    exact straightByte_singleton ⟨by simp,fun _ => rfl⟩

variable {o : CwdCopySpec} {q : CwdQuerySpec} {l : CwdLockSpec} {c : CwdCopyCode} {code : Memory}

def CwdCopySpec.copierBody (o : CwdCopySpec) (l : CwdLockSpec) : Address := o.copier l+117

/-- The code in memory, entry and body. -/
structure CopierLoaded (o : CwdCopySpec) (q : CwdQuerySpec) (l : CwdLockSpec) (c : CwdCopyCode)
    (code : Memory) : Prop where
  emits : cwdCopyCode o q l = some c
  entry : HasBytes code (o.copier l) c.entry.toList
  body : HasBytes code (o.copierBody l) c.body.toList

theorem copierCode_encoding (h : cwdCopyCode o q l = some c) :
    c.entry.toList = byteEncoding copierEntryListing ∧
      c.body.toList = copierBlocks.flatMap byteEncoding := by
  dsimp only [cwdCopyCode] at h
  split at h
  · contradiction
  split at h
  · rw [← Option.some.inj h]
    exact ⟨rfl,rfl⟩
  · contradiction

theorem CopierLoaded.entry_bytes (h : CopierLoaded o q l c code) :
    HasBytes code (o.copier l) (byteEncoding copierEntryListing) := by
  rw [← (copierCode_encoding h.emits).1]
  exact h.entry

theorem CopierLoaded.blocks (h : CopierLoaded o q l c code) :
    BlocksAt code (o.copierBody l) 0 copierBlocks := by
  apply blocksAt_of_hasBytes
  rw [← (copierCode_encoding h.emits).2, show BitVec.ofNat 32 0 = 0#32 from rfl, BitVec.add_zero]
  exact h.body

/-! The call, and the memory when `k` bytes are copied. -/

/-- A string of `n` bytes, and the arguments on the stack. The destination has room for the string and
its NUL, away from the string, from the arguments and from where EDI is kept. -/
structure CopierCall (source destination : Address) (n : ℕ) (m : Machine) : Prop where
  first : word m.mem (m.regs.esp+4) = destination
  second : word m.mem (m.regs.esp+8) = source
  nonzero : ∀ i < n, m.mem (source+BitVec.ofNat 32 i) ≠ 0
  ends : m.mem (source+BitVec.ofNat 32 n) = 0
  apart : Apart destination (n+1) source (n+1)
  kept : Apart (m.regs.esp-4) 4 source (n+1)
  frame : Apart (m.regs.esp-4) 16 destination (n+1)

def copiedMemory (source destination : Address) (m : Machine) (k : ℕ) : Memory :=
  store (setWord m.mem (m.regs.esp-4) m.regs.edi) destination (load m.mem source k)

variable {source destination : Address} {n k : ℕ} {m : Machine}

theorem copiedMemory_zero : copiedMemory source destination m 0 = setWord m.mem (m.regs.esp-4) m.regs.edi := rfl

/-- Some more bytes. -/
theorem store_copiedMemory {j : ℕ} (h : k+j ≤ 2^32) :
    store (copiedMemory source destination m k) (destination+BitVec.ofNat 32 k)
      (load m.mem (source+BitVec.ofNat 32 k) j) = copiedMemory source destination m (k+j) := by
  have hlength : (load m.mem source k).length+(load m.mem (source+BitVec.ofNat 32 k) j).length ≤ 2^32 := by
    simpa using h
  have happend := @store_append (setWord m.mem (m.regs.esp-4) m.regs.edi) destination _ _ hlength
  rw [copiedMemory, copiedMemory, load_add, happend, length_load]

namespace CopierCall
variable (h : CopierCall source destination n m)
include h

theorem short : n < 2^32 := by
  have hle := h.apart.1
  have hlt := (source-destination).isLt
  omega

theorem nul_iff {i : ℕ} (hi : i ≤ n) : (m.mem (source+BitVec.ofNat 32 i)).toBitVec = 0 ↔ i = n := by
  constructor
  · intro hzero
    by_contra hne
    exact h.nonzero i (lt_of_le_of_ne hi hne) (UInt8.toBitVec_inj.mp hzero)
  · rintro rfl
    rw [h.ends]
    rfl

/-- The string stays as it is. -/
theorem copied_source (hk : k ≤ n+1) {i : ℕ} (hi : i ≤ n) :
    copiedMemory source destination m k (source+BitVec.ofNat 32 i) = m.mem (source+BitVec.ofNat 32 i) := by
  have hload : load (copiedMemory source destination m k) source (n+1) = load m.mem source (n+1) := by
    rw [copiedMemory, load_store_of_apart (by simpa using h.apart.mono hk le_rfl), load_setWord_of_apart h.kept]
  exact apply_of_load hload (by omega)

/-- The bytes of a word of the string, as far as it goes. -/
theorem copied_byte (hk : k ≤ n+1) {i : ℕ} (hi : i < 4) (hin : k+i ≤ n) :
    ((word (copiedMemory source destination m k) (source+BitVec.ofNat 32 k)) >>> (8*i)).setWidth 8 =
      (m.mem (source+BitVec.ofNat 32 (k+i))).toBitVec := by
  rw [byte_of_word _ _ hi, BitVec.add_assoc, ← BitVec.ofNat_add, h.copied_source hk hin]

theorem copied_load (hk : k ≤ n+1) {j : ℕ} (hj : k+j ≤ n+1) :
    load (copiedMemory source destination m k) (source+BitVec.ofNat 32 k) j =
      load m.mem (source+BitVec.ofNat 32 k) j := by
  refine load_congr fun i hi => ?_
  rw [BitVec.add_assoc, ← BitVec.ofNat_add]
  exact h.copied_source hk (by omega)

/-- So does the stack. -/
theorem copied_stack (hk : k ≤ n+1) {x : BitVec 32} (hx : x.toNat+4 ≤ 16) :
    word (copiedMemory source destination m k) (m.regs.esp-4+x) =
      word (setWord m.mem (m.regs.esp-4) m.regs.edi) (m.regs.esp-4+x) := by
  have hapart : Apart destination (load m.mem source k).length (m.regs.esp-4) 16 := by
    rw [length_load]
    exact h.frame.symm.mono hk le_rfl
  exact word_of_load (load_store_of_apart hapart) hx

/-- What the copier takes from the stack. -/
theorem stack (hk : k ≤ n+1) : word (copiedMemory source destination m k) (m.regs.esp-4) = m.regs.edi ∧
    word (copiedMemory source destination m k) m.regs.esp = word m.mem m.regs.esp ∧
    word (copiedMemory source destination m k) (m.regs.esp-4+8) = destination ∧
    word (copiedMemory source destination m k) (m.regs.esp-4+12) = source := by
  have hword (x : BitVec 32) (hx : x.toNat+4 ≤ 16) := h.copied_stack hk hx
  have hfirst := h.first
  have hsecond := h.second
  obtain ⟨b,hb⟩ : ∃ b, m.regs.esp = b+4 := ⟨m.regs.esp-4,by ring⟩
  rw [hb, show b+4+4 = b+8 by ring] at hfirst
  rw [hb, show b+4+8 = b+12 by ring] at hsecond
  rw [hb, show b+4-4 = b by ring] at hword ⊢
  have hedi := hword 0 (by decide)
  rw [show b+0 = b by ring, word_setWord_self] at hedi
  have hapart (x : BitVec 32) (hx : Apart 0 4 x 4) :
      word (setWord m.mem b m.regs.edi) (b+x) = word m.mem (b+x) := by
    have hadd := @Apart.add b 0 x 4 4 hx
    rw [show b+0 = b by ring] at hadd
    exact word_setWord_of_apart hadd
  refine ⟨hedi,(hword 4 (by decide)).trans (hapart 4 (by decide)),?_,?_⟩
  · rw [hword 8 (by decide), hapart 8 (by decide), hfirst]
  · rw [hword 12 (by decide), hapart 12 (by decide), hsecond]

end CopierCall

/-! The machine on its way through the body: `k` bytes are copied, and `x` is where the body begins. -/

def copying (source destination : Address) (m : Machine) (x : Address) (k : ℕ) (eax ecx edx : BitVec 32) :
    Machine :=
  { m with
    regs := { m.regs with eax, ecx, edx, esp := m.regs.esp-4, edi := destination+BitVec.ofNat 32 k }
    eip := x
    mem := copiedMemory source destination m k }

/-- Back from the copier. -/
def copierDone (source destination : Address) (n : ℕ) (m : Machine) (ecx edx : BitVec 32) : Machine :=
  { m with
    regs := { m.regs with eax := destination, ecx, edx, esp := m.regs.esp+4 }
    eip := word m.mem m.regs.esp
    mem := copiedMemory source destination m (n+1) }

/-- Whatever the flags are, the copier comes back with the string copied. -/
def Copies (code : Memory) (source destination : Address) (n : ℕ) (m s : Machine) : Prop :=
  ∀ flags undefined, ∃ ecx edx, ByteReachesUpToFlags code { s with flags, undefined }
    (copierDone source destination n m ecx edx)

theorem Copies.before {s s' : Machine} (h' : Copies code source destination n m s')
    (h : ∀ flags undefined, ByteReachesUpToFlags code { s with flags, undefined } s') :
    Copies code source destination n m s := by
  intro flags undefined
  obtain ⟨flags',undefined',hreaches⟩ := h flags undefined
  obtain ⟨ecx,edx,flags'',undefined'',hrest⟩ := h' flags' undefined'
  exact ⟨ecx,edx,flags'',undefined'',hreaches.trans hrest⟩

/-- The blocks of the body. -/
structure CopierBytes (code : Memory) (x : Address) : Prop where
  source : HasBytes code x (byteEncoding sourceListing)
  byteRead : HasBytes code (x+12) (byteEncoding byteReadListing)
  byteWrite : HasBytes code (x+21) (byteEncoding byteWriteListing)
  toWords : HasBytes code (x+34) (byteEncoding toWordsListing)
  wordWrite : HasBytes code (x+36) (byteEncoding wordWriteListing)
  wordRead : HasBytes code (x+41) (byteEncoding wordReadListing)
  firstByte : HasBytes code (x+67) (byteEncoding firstByteListing)
  secondByte : HasBytes code (x+71) (byteEncoding secondByteListing)
  thirdByte : HasBytes code (x+75) (byteEncoding thirdByteListing)
  fourthByte : HasBytes code (x+83) (byteEncoding fourthByteListing)
  back : HasBytes code (x+91) (byteEncoding backListing)
  fourth : HasBytes code (x+93) (byteEncoding fourthListing)
  third : HasBytes code (x+101) (byteEncoding thirdListing)
  second : HasBytes code (x+114) (byteEncoding secondListing)
  first : HasBytes code (x+123) (byteEncoding firstListing)

theorem CopierLoaded.bytes (h : CopierLoaded o q l c code) : CopierBytes code (o.copierBody l) := by
  obtain ⟨h0,h1,h2,h3,h4,h5,h6,h7,h8,h9,h10,h11,h12,h13,h14,_⟩ := h.blocks
  rw [show BitVec.ofNat 32 0 = 0#32 from rfl, BitVec.add_zero] at h0
  exact ⟨h0,h1,h2,h3,h4,h5,h6,h7,h8,h9,h10,h11,h12,h13,h14⟩

section Execution
variable {x : Address} (hbytes : CopierBytes code x) (hcall : CopierCall source destination n m)
  {eax ecx edx flags : BitVec 32} {undefined : ℕ → BitVec 32}
include hbytes

include hcall in
theorem reaches_source : ByteReachesUpToFlags code
    { copying source destination m x 0 eax ecx edx with flags, undefined }
    (copying source destination m (if source &&& 3 = 0 then x+41 else x+12) 0 eax source edx) := by
  refine byteUpToFlags_listing (straight_copierBlocks _ (by simp [copierBlocks])) hbytes.source rfl ?_
  have hsource : word (copiedMemory source destination m 0) (m.regs.esp-4+12) = source :=
    (hcall.stack (Nat.zero_le _)).2.2.2
  rw [copying, copying]
  generalize copiedMemory source destination m 0 = mem at *
  simp only [BitVec.ofNat_eq_ofNat] at hsource
  simp (disch := decide) [sourceListing, hsource, holds_zero_logic, blend_resumeFlag, BitVec.add_assoc]

include hcall in
/-- One byte into DL, which shows whether it is the NUL. -/
theorem reaches_byteRead (hk : k ≤ n) : ByteReachesUpToFlags code
    { copying source destination m (x+12) k eax (source+BitVec.ofNat 32 k) edx with flags, undefined }
    (copying source destination m (if k = n then x+123 else x+21) k eax (source+BitVec.ofNat 32 (k+1))
      (blend edx 0xff ((m.mem (source+BitVec.ofNat 32 k)).toBitVec.setWidth 32))) := by
  refine byteUpToFlags_listing (straight_copierBlocks _ (by simp [copierBlocks])) hbytes.byteRead rfl ?_
  have hbyte := hcall.copied_source (Nat.le_succ_of_le hk) hk
  have hends := hcall.nul_iff hk
  rw [copying, copying]
  generalize copiedMemory source destination m k = mem at *
  rw [BitVec.ofNat_add]
  generalize m.mem (source+BitVec.ofNat 32 k) = b at *
  have hzero := signExtend_eq_zero b.toBitVec
  rw [hends] at hzero
  have hdl := setWidth_blend edx b.toBitVec
  simp only [BitVec.ofNat_eq_ofNat] at hdl hzero
  simp (disch := decide) [byteReadListing, hbyte, hdl, hzero, holds_zero_logic, blend_resumeFlag, BitVec.add_assoc]

/-- The byte in DL is stored. -/
theorem reaches_byteWrite (hk : k < 2^32)
    (hedx : edx.setWidth 8 = (m.mem (source+BitVec.ofNat 32 k)).toBitVec) : ByteReachesUpToFlags code
    { copying source destination m (x+21) k eax ecx edx with flags, undefined }
    (copying source destination m (if ecx &&& 3 = 0 then x+34 else x+12) (k+1) eax ecx edx) := by
  refine byteUpToFlags_listing (straight_copierBlocks _ (by simp [copierBlocks])) hbytes.byteWrite rfl ?_
  have hstore := @store_copiedMemory source destination k m 1 (by omega)
  have hload : load m.mem (source+BitVec.ofNat 32 k) 1 = [.ofBitVec (edx.setWidth 8)] := by
    rw [hedx]
    simp [load]
  rw [hload] at hstore
  rw [copying, copying, ← hstore]
  generalize copiedMemory source destination m k = mem at *
  rw [BitVec.ofNat_add]
  simp (disch := decide) [byteWriteListing, holds_zero_logic, blend_resumeFlag, BitVec.add_assoc]

theorem reaches_toWords : ByteReachesUpToFlags code
    { copying source destination m (x+34) k eax ecx edx with flags, undefined }
    (copying source destination m (x+41) k eax ecx edx) := by
  refine byteUpToFlags_listing (straight_copierBlocks _ (by simp [copierBlocks])) hbytes.toWords rfl ?_
  simp [toWordsListing, copying, BitVec.add_assoc]

/-- The word in EDX is stored. -/
theorem reaches_wordWrite (hk : k+4 ≤ 2^32) (hedx : write 4 edx = load m.mem (source+BitVec.ofNat 32 k) 4) :
    ByteReachesUpToFlags code { copying source destination m (x+36) k eax ecx edx with flags, undefined }
      (copying source destination m (x+41) (k+4) eax ecx edx) := by
  refine byteUpToFlags_listing (straight_copierBlocks _ (by simp [copierBlocks])) hbytes.wordWrite rfl ?_
  have hstore := @store_copiedMemory source destination k m 4 hk
  rw [← hedx] at hstore
  rw [copying, copying, ← hstore]
  generalize copiedMemory source destination m k = mem at *
  rw [BitVec.ofNat_add]
  simp [wordWriteListing, setWord, BitVec.add_assoc]

/-- A word into EDX; in most words without a NUL that is all that is looked at. -/
theorem reaches_wordRead {w : BitVec 32}
    (hw : word (copiedMemory source destination m k) (source+BitVec.ofNat 32 k) = w) : ByteReachesUpToFlags code
    { copying source destination m (x+41) k eax (source+BitVec.ofNat 32 k) edx with flags, undefined }
    (copying source destination m (if zeroDetector w = 0 then x+36 else x+67) k
      (w ^^^ 0xffffffff ^^^ (0x7efefeff+w)) (source+BitVec.ofNat 32 (k+4)) w) := by
  refine byteUpToFlags_listing (straight_copierBlocks _ (by simp [copierBlocks])) hbytes.wordRead rfl ?_
  rw [copying, copying, zeroDetector, BitVec.ofNat_add]
  simp (disch := decide) [wordReadListing, hw, holds_zero_logic, blend_resumeFlag, BitVec.add_assoc]

/-! The bytes of a word, one after the other. -/

theorem reaches_firstByte : ByteReachesUpToFlags code
    { copying source destination m (x+67) k eax ecx edx with flags, undefined }
    (copying source destination m (if edx.setWidth 8 = (0 : BitVec 8) then x+123 else x+71)
      k eax ecx edx) := by
  refine byteUpToFlags_listing (straight_copierBlocks _ (by simp [copierBlocks])) hbytes.firstByte rfl ?_
  have hzero := signExtend_eq_zero (edx.setWidth 8)
  simp only [BitVec.ofNat_eq_ofNat] at hzero
  simp (disch := decide) [firstByteListing, copying, hzero, holds_zero_logic, blend_resumeFlag,
    BitVec.add_assoc]

theorem reaches_secondByte : ByteReachesUpToFlags code
    { copying source destination m (x+71) k eax ecx edx with flags, undefined }
    (copying source destination m (if (edx >>> 8).setWidth 8 = (0 : BitVec 8) then x+114 else x+75)
      k eax ecx edx) := by
  refine byteUpToFlags_listing (straight_copierBlocks _ (by simp [copierBlocks])) hbytes.secondByte rfl ?_
  have hzero := signExtend_eq_zero ((edx >>> 8).setWidth 8)
  simp only [BitVec.ofNat_eq_ofNat] at hzero
  simp (disch := decide) [secondByteListing, copying, hzero, holds_zero_logic, blend_resumeFlag,
    BitVec.add_assoc]

theorem reaches_thirdByte : ByteReachesUpToFlags code
    { copying source destination m (x+75) k eax ecx edx with flags, undefined }
    (copying source destination m (if (edx >>> 16).setWidth 8 = (0 : BitVec 8) then x+101 else x+83)
      k eax ecx edx) := by
  refine byteUpToFlags_listing (straight_copierBlocks _ (by simp [copierBlocks])) hbytes.thirdByte rfl ?_
  have hzero := @and_byteMask_eq_zero edx 16 (by decide)
  rw [show (0xff : BitVec 32) <<< 16 = 0xff0000 by decide] at hzero
  simp only [BitVec.ofNat_eq_ofNat] at hzero
  simp (disch := decide) [thirdByteListing, copying, hzero, holds_zero_logic, blend_resumeFlag,
    BitVec.add_assoc]

theorem reaches_fourthByte : ByteReachesUpToFlags code
    { copying source destination m (x+83) k eax ecx edx with flags, undefined }
    (copying source destination m (if (edx >>> 24).setWidth 8 = (0 : BitVec 8) then x+93 else x+91)
      k eax ecx edx) := by
  refine byteUpToFlags_listing (straight_copierBlocks _ (by simp [copierBlocks])) hbytes.fourthByte rfl ?_
  have hzero := @and_byteMask_eq_zero edx 24 (by decide)
  rw [show (0xff : BitVec 32) <<< 24 = 0xff000000 by decide] at hzero
  simp only [BitVec.ofNat_eq_ofNat] at hzero
  simp (disch := decide) [fourthByteListing, copying, hzero, holds_zero_logic, blend_resumeFlag,
    BitVec.add_assoc]

theorem reaches_back : ByteReachesUpToFlags code
    { copying source destination m (x+91) k eax ecx edx with flags, undefined }
    (copying source destination m (x+36) k eax ecx edx) := by
  refine byteUpToFlags_listing (straight_copierBlocks _ (by simp [copierBlocks])) hbytes.back rfl ?_
  simp [backListing, copying, BitVec.add_assoc]

/-! The ways out, by the place of the NUL. -/

include hcall

theorem copies_fourth (hn : n = k+3) (hedx : write 4 edx = load m.mem (source+BitVec.ofNat 32 k) 4) :
    Copies code source destination n m (copying source destination m (x+93) k eax ecx edx) := by
  intro flags undefined
  refine ⟨ecx,edx,
    byteUpToFlags_listing (straight_copierBlocks _ (by simp [copierBlocks])) hbytes.fourth rfl ?_⟩
  have hshort := hcall.short
  have hstore := @store_copiedMemory source destination k m 4 (by omega)
  obtain ⟨hedi,hreturn,hresult,_⟩ := @CopierCall.stack _ _ _ (k+4) _ hcall (by omega)
  rw [← hedx] at hstore
  rw [copying, copierDone, hn]
  generalize copiedMemory source destination m k = mem at *
  generalize copiedMemory source destination m (k+4) = mem' at *
  simp only [BitVec.ofNat_eq_ofNat] at hedi hresult
  simp [fourthListing, resultListing, copierReturnListing, setWord, hstore, hedi, hreturn, hresult]

theorem copies_third (hn : n = k+2)
    (hedx : write 2 (edx &&& 0xffff) = load m.mem (source+BitVec.ofNat 32 k) 2) :
    Copies code source destination n m (copying source destination m (x+101) k eax ecx edx) := by
  intro flags undefined
  refine ⟨ecx,edx,
    byteUpToFlags_listing (straight_copierBlocks _ (by simp [copierBlocks])) hbytes.third rfl ?_⟩
  have hshort := hcall.short
  have hstore := @store_copiedMemory source destination k m 2 (by omega)
  have hstore' := @store_copiedMemory source destination (k+2) m 1 (by omega)
  obtain ⟨_,_,hresult,_⟩ := @CopierCall.stack _ _ _ (k+2) _ hcall (by omega)
  obtain ⟨hedi,hreturn,_⟩ := @CopierCall.stack _ _ _ (k+3) _ hcall (by omega)
  have hlast : load m.mem (source+BitVec.ofNat 32 (k+2)) 1 = write 1 (0 : BitVec 32) := by
    have hends := hcall.ends
    rw [← hn]
    simp [load, hends]
    rfl
  rw [← hedx] at hstore
  rw [hlast, BitVec.ofNat_add, ← BitVec.add_assoc] at hstore'
  rw [copying, copierDone, hn]
  generalize copiedMemory source destination m k = mem at *
  generalize copiedMemory source destination m (k+2) = mem' at *
  generalize copiedMemory source destination m (k+2+1) = mem'' at *
  simp only [BitVec.ofNat_eq_ofNat] at hedi hresult hstore hstore'
  simp [thirdListing, resultListing, copierReturnListing, hstore, hstore', hedi, hreturn, hresult]

theorem copies_second (hn : n = k+1)
    (hedx : write 2 (edx &&& 0xffff) = load m.mem (source+BitVec.ofNat 32 k) 2) :
    Copies code source destination n m (copying source destination m (x+114) k eax ecx edx) := by
  intro flags undefined
  refine ⟨ecx,edx,
    byteUpToFlags_listing (straight_copierBlocks _ (by simp [copierBlocks])) hbytes.second rfl ?_⟩
  have hshort := hcall.short
  have hstore := @store_copiedMemory source destination k m 2 (by omega)
  obtain ⟨hedi,hreturn,hresult,_⟩ := @CopierCall.stack _ _ _ (k+2) _ hcall (by omega)
  rw [← hedx] at hstore
  rw [copying, copierDone, hn]
  generalize copiedMemory source destination m k = mem at *
  generalize copiedMemory source destination m (k+2) = mem' at *
  simp only [BitVec.ofNat_eq_ofNat] at hedi hresult hstore
  simp [secondListing, resultListing, copierReturnListing, hstore, hedi, hreturn, hresult]

theorem copies_first (hedx : edx.setWidth 8 = (0 : BitVec 8)) :
    Copies code source destination n m (copying source destination m (x+123) n eax ecx edx) := by
  intro flags undefined
  refine ⟨ecx,edx,
    byteUpToFlags_listing (straight_copierBlocks _ (by simp [copierBlocks])) hbytes.first rfl ?_⟩
  have hshort := hcall.short
  have hstore := @store_copiedMemory source destination n m 1 (by omega)
  obtain ⟨hedi,hreturn,hresult,_⟩ := @CopierCall.stack _ _ _ (n+1) _ hcall le_rfl
  have hload : load m.mem (source+BitVec.ofNat 32 n) 1 = [.ofBitVec (edx.setWidth 8)] := by
    have hends := hcall.ends
    rw [hedx]
    simp [load, hends]
  rw [hload] at hstore
  rw [copying, copierDone]
  generalize copiedMemory source destination m n = mem at *
  generalize copiedMemory source destination m (n+1) = mem' at *
  simp only [BitVec.ofNat_eq_ofNat] at hedi hresult
  simp [firstListing, resultListing, copierReturnListing, hstore, hedi, hreturn, hresult]

/-! The loops. -/

/-- A word that has the NUL is taken apart. -/
theorem copies_lastWord (hk : k ≤ n) (hn : n < k+4) : Copies code source destination n m
    (copying source destination m (x+67) k eax ecx
      (word (copiedMemory source destination m k) (source+BitVec.ofNat 32 k))) := by
  have hbyte (i : ℕ) (hi : i < 4) (hin : k+i ≤ n) := hcall.copied_byte (Nat.le_succ_of_le hk) hi hin
  have hhalf := write_two (copiedMemory source destination m k) (source+BitVec.ofNat 32 k)
  have hword : write 4 (word (copiedMemory source destination m k) (source+BitVec.ofNat 32 k)) =
      load (copiedMemory source destination m k) (source+BitVec.ofNat 32 k) 4 := write_read (by simp)
  generalize word (copiedMemory source destination m k) (source+BitVec.ofNat 32 k) = w at *
  have hnul (i : ℕ) (hi : i < 4) (hin : k+i ≤ n) :
      (w >>> (8*i)).setWidth 8 = (0 : BitVec 8) ↔ k+i = n := by
    rw [hbyte i hi hin]
    exact hcall.nul_iff hin
  have hload (j : ℕ) (hj : k+j ≤ n+1) := hcall.copied_load (Nat.le_succ_of_le hk) hj
  refine Copies.before ?_ fun _ _ => reaches_firstByte hbytes
  by_cases h0 : k+0 = n
  · rw [if_pos (by simpa using (hnul 0 (by decide) (by omega)).mpr h0)]
    subst h0
    exact copies_first hbytes hcall (by simpa using (hnul 0 (by decide) le_rfl).mpr rfl)
  rw [if_neg (by simpa using mt (hnul 0 (by decide) (by omega)).mp h0)]
  refine Copies.before ?_ fun _ _ => reaches_secondByte hbytes
  by_cases h1 : k+1 = n
  · rw [if_pos ((hnul 1 (by decide) (by omega)).mpr h1)]
    exact copies_second hbytes hcall h1.symm (hhalf.trans (hload 2 (by omega)))
  rw [if_neg (mt (hnul 1 (by decide) (by omega)).mp h1)]
  refine Copies.before ?_ fun _ _ => reaches_thirdByte hbytes
  by_cases h2 : k+2 = n
  · rw [if_pos ((hnul 2 (by decide) (by omega)).mpr h2)]
    exact copies_third hbytes hcall h2.symm (hhalf.trans (hload 2 (by omega)))
  rw [if_neg (mt (hnul 2 (by decide) (by omega)).mp h2)]
  have h3 : k+3 = n := by omega
  refine Copies.before ?_ fun _ _ => reaches_fourthByte hbytes
  rw [if_pos ((hnul 3 (by decide) (by omega)).mpr h3)]
  exact copies_fourth hbytes hcall h3.symm (hword.trans (hload 4 (by omega)))

/-- A word without the NUL is copied. -/
theorem copies_wholeWord (hk : k+4 ≤ n)
    (hrest : ∀ eax edx, Copies code source destination n m
      (copying source destination m (x+41) (k+4) eax (source+BitVec.ofNat 32 (k+4)) edx)) :
    Copies code source destination n m (copying source destination m (x+41) k eax
      (source+BitVec.ofNat 32 k) edx) := by
  have hshort := hcall.short
  have hbyte (i : ℕ) (hi : i < 4) := hcall.copied_byte (by omega : k ≤ n+1) hi (by omega)
  have hword : write 4 (word (copiedMemory source destination m k) (source+BitVec.ofNat 32 k)) =
      load (copiedMemory source destination m k) (source+BitVec.ofNat 32 k) 4 := write_read (by simp)
  rw [hcall.copied_load (by omega) (by omega)] at hword
  refine Copies.before ?_ fun _ _ => reaches_wordRead hbytes rfl
  generalize word (copiedMemory source destination m k) (source+BitVec.ofNat 32 k) = w at *
  have hnonzero (i : ℕ) (hi : i < 4) : (w >>> (8*i)).setWidth 8 ≠ (0 : BitVec 8) := by
    rw [hbyte i hi]
    exact mt (hcall.nul_iff (by omega)).mp (by omega)
  have hwritten (eax : BitVec 32) : Copies code source destination n m
      (copying source destination m (x+36) k eax (source+BitVec.ofNat 32 (k+4)) w) :=
    Copies.before (hrest _ _) fun _ _ => reaches_wordWrite hbytes (by omega) hword
  split
  · exact hwritten _
  refine Copies.before ?_ fun _ _ => reaches_firstByte hbytes
  rw [if_neg (by simpa using hnonzero 0 (by decide))]
  refine Copies.before ?_ fun _ _ => reaches_secondByte hbytes
  rw [if_neg (hnonzero 1 (by decide))]
  refine Copies.before ?_ fun _ _ => reaches_thirdByte hbytes
  rw [if_neg (hnonzero 2 (by decide))]
  refine Copies.before ?_ fun _ _ => reaches_fourthByte hbytes
  rw [if_neg (hnonzero 3 (by decide))]
  exact Copies.before (hwritten _) fun _ _ => reaches_back hbytes

/-- The loop over words, from any byte of the string on. -/
theorem copies_words (hk : k ≤ n) : Copies code source destination n m
    (copying source destination m (x+41) k eax (source+BitVec.ofNat 32 k) edx) := by
  induction hd : n-k using Nat.strong_induction_on generalizing k eax edx with
  | _ d ih =>
    by_cases hwhole : k+4 ≤ n
    · exact copies_wholeWord hbytes hcall hwhole fun _ _ => ih (n-(k+4)) (by omega) hwhole rfl
    · refine Copies.before ?_ fun _ _ => reaches_wordRead hbytes rfl
      have hdetected : zeroDetector (word (copiedMemory source destination m k) (source+BitVec.ofNat 32 k)) ≠ 0 := by
        intro hzero
        have hbyte := hcall.copied_byte (Nat.le_succ_of_le hk) (by omega : n-k < 4) (by omega)
        refine bytes_ne_zero_of_detector hzero (by omega : n-k < 4) (hbyte.trans ?_)
        exact (hcall.nul_iff (by omega)).mpr (by omega)
      rw [if_neg hdetected]
      exact copies_lastWord hbytes hcall hk (by omega)

/-- The loop over bytes, until the source is aligned. -/
theorem copies_bytes (hk : k ≤ n) : Copies code source destination n m
    (copying source destination m (x+12) k eax (source+BitVec.ofNat 32 k) edx) := by
  induction hd : n-k generalizing k eax edx with
  | zero =>
    refine Copies.before ?_ fun _ _ => reaches_byteRead hbytes hcall hk
    have hend : k = n := by omega
    subst hend
    rw [if_pos rfl]
    refine copies_first hbytes hcall ?_
    rw [setWidth_blend]
    exact (hcall.nul_iff le_rfl).mpr rfl
  | succ d ih =>
    refine Copies.before ?_ fun _ _ => reaches_byteRead hbytes hcall hk
    rw [if_neg (by omega)]
    have hshort := hcall.short
    refine Copies.before ?_ fun _ _ => reaches_byteWrite hbytes (by omega) (setWidth_blend _ _)
    split
    · exact Copies.before (copies_words hbytes hcall (by omega)) fun _ _ => reaches_toWords hbytes
    · exact ih (by omega) (by omega)

end Execution

/-- The copier is back. But for the word below its stack pointer, memory is as it was, with the string
and its NUL at the destination. -/
structure StringCopied (source destination : Address) (n : ℕ) (m b : Machine) : Prop where
  returned : Returned 0 otherFlags [] m b
  resume : b.flags &&& resumeFlag = 0
  eax : b.regs.eax = destination
  memory : ∀ p, 4 ≤ (p-(m.regs.esp-4)).toNat → b.mem p = store m.mem destination (load m.mem source (n+1)) p

namespace StringCopied
variable {b : Machine} {y : Address} {j : ℕ} (h : StringCopied source destination n m b)
  (hkept : Apart (m.regs.esp-4) 4 y j)
include h hkept

/-- A stretch away from the word below the stack pointer. -/
theorem load_eq : load b.mem y j = load (store m.mem destination (load m.mem source (n+1))) y j := by
  refine load_congr fun i hi => h.memory _ ?_
  obtain ⟨hbehind,hbefore⟩ := hkept
  rw [show y+BitVec.ofNat 32 i-(m.regs.esp-4) = (y-(m.regs.esp-4))+BitVec.ofNat 32 i by ring]
  have hneg : (m.regs.esp-4-y).toNat = (2^32-(y-(m.regs.esp-4)).toNat)%2^32 := by
    rw [show m.regs.esp-4-y = -(y-(m.regs.esp-4)) by ring, BitVec.toNat_neg]
  rw [BitVec.toNat_add, BitVec.toNat_ofNat]
  omega

theorem load_of_apart (hdestination : Apart destination (n+1) y j) : load b.mem y j = load m.mem y j :=
  (h.load_eq hkept).trans (load_store_of_apart (by simpa using hdestination))

end StringCopied

theorem reaches_copierBody (hcode : CopierLoaded o q l c code)
    (hcall : CopierCall source destination n m) (heip : m.eip = o.copier l) : ByteReaches code m
      { copying source destination m (o.copierBody l) 0 m.regs.eax m.regs.ecx m.regs.edx with
        flags := blend m.flags resumeFlag 0 } := by
  refine byteReaches_listing straight_copierEntryListing hcode.entry_bytes heip ?_
  have hstack := (hcall.stack (Nat.zero_le _)).2.2.1
  rw [CwdCopySpec.copierBody, ← heip, copying]
  rw [copiedMemory_zero] at hstack ⊢
  obtain ⟨⟨eax,ecx,edx,ebx,esp,ebp,esi,edi⟩,flags,eip,mem,fs,undefined⟩ := m
  simp only [BitVec.ofNat_eq_ofNat] at hstack
  simp [copierEntryListing, hstack, BitVec.add_assoc]

/-- `strcpy`, for strings of any length and any alignment. -/
theorem copier_copies_string (hcode : CopierLoaded o q l c code)
    (hcall : CopierCall source destination n m) (heip : m.eip = o.copier l) :
    ∃ b, ByteReaches code m b ∧ StringCopied source destination n m b := by
  have hbody := reaches_copierBody hcode hcall heip
  have hloops : Copies code source destination n m
      (copying source destination m (o.copierBody l) 0 m.regs.eax m.regs.ecx m.regs.edx) := by
    refine Copies.before ?_ fun _ _ => reaches_source hcode.bytes hcall
    have hstart : source = source+BitVec.ofNat 32 0 := by
      rw [show BitVec.ofNat 32 0 = 0 from rfl]
      ring
    split
    · have hwords := @copies_words code source destination n 0 m _ hcode.bytes hcall m.regs.eax m.regs.edx
        (Nat.zero_le n)
      rwa [← hstart] at hwords
    · have hbytes := @copies_bytes code source destination n 0 m _ hcode.bytes hcall m.regs.eax m.regs.edx
        (Nat.zero_le n)
      rwa [← hstart] at hbytes
  obtain ⟨ecx,edx,flags,undefined,hreaches⟩ := hloops (blend m.flags resumeFlag 0) m.undefined
  have hclear : blend m.flags resumeFlag 0 &&& resumeFlag = 0 := (blend_and_of_within rfl).trans rfl
  have hall := hbody.trans hreaches
  refine ⟨_,hall,⟨rfl,?_,rfl,rfl,rfl,rfl,rfl,hall.kept.1,by simp⟩,hreaches.resumeFlag hclear,rfl,?_⟩
  · exact (BitVec.add_zero _).symm
  · intro p hkept
    have hword : setWord m.mem (m.regs.esp-4) m.regs.edi p = m.mem p := store_of_outside (by simpa using hkept)
    exact congrArg (fun b => (load m.mem source (n+1)).getD (p-destination).toNat b) hword

/-! The reviewed copier, and a call of it with a source that is not aligned. -/

def reviewedCopierSections : List (Address × List UInt8) :=
  [(0x826590,reviewedCwdCopyCode.entry.toList),(0x826605,reviewedCwdCopyCode.body.toList)]

def reviewedCopierMemory : Memory := stores (fun _ => 0) reviewedCopierSections

/-- The string is `C:\Games`. -/
def reviewedCopierThread : Machine where
  regs := ⟨0x19fdb1,0xb71ae0,9,0,0x19fda0,0x19febc,0,24⟩
  flags := 0x216
  eip := 0x826590
  mem := store (setWords (fun _ => 0) 0 [(0x19fda0,0x836e8a),(0x19fda4,0xb71ae0),(0x19fda8,0x19fdb1)])
    0x19fdb1 [0x43,0x3a,0x5c,0x47,0x61,0x6d,0x65,0x73,0]
  fs := 0x7ffde000
  undefined := fun _ => 0

theorem copierLoaded_reviewed : CopierLoaded reviewedCwdCopySpec reviewedCwdQuerySpec reviewedCwdLockSpec
    reviewedCwdCopyCode reviewedCopierMemory := by
  have hsections : ∀ x ∈ reviewedCopierSections, HasBytes reviewedCopierMemory x.1 x.2 :=
    hasBytes_stores (by decide +kernel) (by decide +kernel)
  simp only [reviewedCopierSections, List.forall_mem_cons] at hsections
  obtain ⟨hentry,hbody,_⟩ := hsections
  exact ⟨cwdQueryLoaded_reviewed.2.1.emits,hentry,hbody⟩

theorem copierCall_reviewed : CopierCall 0x19fdb1 0xb71ae0 8 reviewedCopierThread := by
  constructor <;> decide +kernel

theorem copier_copies_reviewed_string : ∃ b, ByteReaches reviewedCopierMemory reviewedCopierThread b ∧
    StringCopied 0x19fdb1 0xb71ae0 8 reviewedCopierThread b :=
  copier_copies_string copierLoaded_reviewed copierCall_reviewed (by decide)

end Saex
