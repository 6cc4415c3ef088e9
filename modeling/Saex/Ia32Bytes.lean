import Saex.Ia32Kept
import Mathlib.Logic.Relation
import Mathlib.Tactic.IntervalCases

/-! Instructions on byte registers, high halves among them, and tests against constants, beside
those of the other instructions; listings of both are executed as before. -/
namespace Ia32
open LittleEndian WrappedMemory

inductive ByteReg
  | al | cl | dl | bl | ah | ch | dh | bh
deriving DecidableEq

def ByteReg.ofCode : ℕ → ByteReg
  | 0 => .al
  | 1 => .cl
  | 2 => .dl
  | 3 => .bl
  | 4 => .ah
  | 5 => .ch
  | 6 => .dh
  | _ => .bh

/-- The register that a byte register is a part of, and where it begins there. -/
def ByteReg.whole : ByteReg → Reg × ℕ
  | .al => (.eax,0)
  | .cl => (.ecx,0)
  | .dl => (.edx,0)
  | .bl => (.ebx,0)
  | .ah => (.eax,8)
  | .ch => (.ecx,8)
  | .dh => (.edx,8)
  | .bh => (.ebx,8)

inductive ByteInstruction
  | load (target : ByteReg) (source : Location)
  | store (target : Location) (source : ByteReg)
  | test (left right : ByteReg)
  | xor (target source : ByteReg)
  /-- A register against a constant. -/
  | testConstant (left : Reg) (v : BitVec 32)
  | other (i : Instruction)
deriving DecidableEq

/-! Encodings. -/

/-- A ModRM byte for two byte registers: the register field and the other one. -/
def byteRegisters : List UInt8 → Option (ByteReg × ByteReg)
  | [] => none
  | b :: _ => if b.toNat/64 = 3 then some (.ofCode (b.toNat/8%8),.ofCode (b.toNat%8)) else none

/-- A ModRM byte for a byte register and a memory operand. -/
def byteAndMemory (bs : List UInt8) : Option (ByteReg × Location × ℕ) :=
  (modRm false bs).bind fun (r,o,n) =>
    match o with
    | .mem l => some (.ofCode r,l,n)
    | _ => none

/-- The opcodes that are about byte registers, and the tests against constants. -/
def decodeByteOpcode (op : ℕ) (bs : List UInt8) : Option (ByteInstruction × ℕ) :=
  if op = 0x32 then (byteRegisters bs).map fun (r,o) => (.xor r o,2)
  else if op = 0x84 then (byteRegisters bs).map fun (r,o) => (.test o r,2)
  else if op = 0x88 then (byteAndMemory bs).map fun (r,l,n) => (.store l r,n+1)
  else if op = 0x8a then (byteAndMemory bs).map fun (r,l,n) => (.load r l,n+1)
  else if op = 0xa2 then (immediate32 bs).map fun (displacement,n) => (.store { displacement } .al,n+1)
  else if op = 0xa9 then (immediate32 bs).map fun (v,n) => (.testConstant .eax v,n+1)
  else if op = 0xf7 then (modRm false bs).bind fun (r,o,n) =>
    match r,o with
    | 0,.reg left => (immediate32 (bs.drop n)).map fun (v,k) => (.testConstant left v,n+k+1)
    | _,_ => none
  else none

def decodeWithBytes (bs : List UInt8) : Option (ByteInstruction × ℕ) :=
  (match bs with
    | [] => none
    | op :: bs => decodeByteOpcode op.toNat bs).orElse fun _ =>
  (decode bs).map fun (i,n) => (.other i,n)

/-! Effects. -/

namespace Machine

def byteReg (m : Machine) (r : ByteReg) : BitVec 8 :=
  ((m.regs.get r.whole.1) >>> r.whole.2).setWidth 8

def setByteReg (m : Machine) (r : ByteReg) (v : BitVec 8) : Machine :=
  m.setReg r.whole.1 (blend (m.regs.get r.whole.1) (0xff <<< r.whole.2) (v.setWidth 32 <<< r.whole.2))

def executeByte (m : Machine) : ByteInstruction → Machine
  | .load target source => m.setByteReg target (m.mem (m.address source)).toBitVec
  | .store target source =>
    { m with mem := WrappedMemory.store m.mem (m.address target) [.ofBitVec (m.byteReg source)] }
  -- The sign of a byte is its top bit.
  | .test left right => m.setLogicFlags ((m.byteReg left &&& m.byteReg right).signExtend 32)
  | .xor target source =>
    let v := m.byteReg target ^^^ m.byteReg source
    (m.setByteReg target v).setLogicFlags (v.signExtend 32)
  | .testConstant left v => m.setLogicFlags (m.regs.get left &&& v)
  | .other i => m.execute i

/-- A whole instruction of the given length. -/
def afterByte (m : Machine) (i : ByteInstruction) (length : ℕ) : Machine :=
  let m := { m with eip := m.eip+BitVec.ofNat 32 length }.executeByte i
  { m with flags := blend m.flags resumeFlag 0 }

end Machine

def stepByte (code : Memory) (m : Machine) : Option Machine :=
  (decodeWithBytes (load code m.eip 15)).map fun (i,length) => m.afterByte i length

def runByte (code : Memory) : ℕ → Machine → Option Machine
  | 0, m => some m
  | n+1, m => (stepByte code m).bind (runByte code n)

/-- The execution comes from the one machine to the other. -/
def ByteReaches (code : Memory) (m m' : Machine) : Prop := ∃ n, runByte code n m = some m'

variable {code : Memory} {m m' m'' : Machine}

theorem runByte_add {n k : ℕ} (h : runByte code n m = some m') :
    runByte code (n+k) m = runByte code k m' := by
  induction n generalizing m with
  | zero =>
    cases h
    rw [Nat.zero_add]
  | succ n ih =>
    rw [runByte, Option.bind_eq_some_iff] at h
    obtain ⟨next,hstep,hrun⟩ := h
    rw [Nat.add_right_comm, runByte, hstep, Option.bind_some, ih hrun]

theorem ByteReaches.trans (h : ByteReaches code m m') (h' : ByteReaches code m' m'') :
    ByteReaches code m m'' := by
  obtain ⟨n,hn⟩ := h
  obtain ⟨k,hk⟩ := h'
  exact ⟨n+k,(runByte_add hn).trans hk⟩

/-! What stays as it is. -/

theorem executeByte_kept (i : ByteInstruction) :
    (m.executeByte i).flags &&& otherFlags = m.flags &&& otherFlags ∧ (m.executeByte i).fs = m.fs := by
  cases i with
  | test left right => exact ⟨blend_otherFlags (by decide),rfl⟩
  | xor target source => exact ⟨blend_otherFlags (by decide),rfl⟩
  | testConstant left v => exact ⟨blend_otherFlags (by decide),rfl⟩
  | other i => exact execute_kept i
  | _ => exact ⟨rfl,rfl⟩

theorem afterByte_kept (i : ByteInstruction) (length : ℕ) :
    (m.afterByte i length).flags &&& otherFlags = m.flags &&& otherFlags ∧
      (m.afterByte i length).fs = m.fs := by
  obtain ⟨hflags,hfs⟩ := @executeByte_kept { m with eip := m.eip+BitVec.ofNat 32 length } i
  exact ⟨(blend_otherFlags (by decide)).trans hflags,hfs⟩

theorem runByte_kept {n : ℕ} (h : runByte code n m = some m') :
    m'.flags &&& otherFlags = m.flags &&& otherFlags ∧ m'.fs = m.fs := by
  induction n generalizing m with
  | zero =>
    cases h
    exact ⟨rfl,rfl⟩
  | succ n ih =>
    rw [runByte, Option.bind_eq_some_iff] at h
    obtain ⟨next,hstep,hrun⟩ := h
    rw [stepByte, Option.map_eq_some_iff] at hstep
    obtain ⟨⟨i,length⟩,_,rfl⟩ := hstep
    obtain ⟨hflags,hfs⟩ := ih hrun
    exact ⟨hflags.trans (afterByte_kept i length).1,hfs.trans (afterByte_kept i length).2⟩

theorem ByteReaches.kept (h : ByteReaches code m m') :
    m'.flags &&& otherFlags = m.flags &&& otherFlags ∧ m'.fs = m.fs := by
  obtain ⟨n,hrun⟩ := h
  exact runByte_kept hrun

/-- Once the resume flag is clear nothing sets it. -/
theorem ByteReaches.resumeFlag (h : ByteReaches code m m') (hclear : m.flags &&& resumeFlag = 0) :
    m'.flags &&& resumeFlag = 0 := by
  obtain ⟨n,hrun⟩ := h
  induction n generalizing m with
  | zero =>
    cases hrun
    exact hclear
  | succ n ih =>
    rw [runByte, Option.bind_eq_some_iff] at hrun
    obtain ⟨next,hstep,hrun⟩ := hrun
    rw [stepByte, Option.map_eq_some_iff] at hstep
    obtain ⟨⟨i,length⟩,_,rfl⟩ := hstep
    exact ih ((blend_and_of_within rfl).trans rfl) hrun

/-! Listings. -/

/-- The bytes stand for the instruction, whatever follows them. -/
structure EncodesByte (bs : List UInt8) (i : ByteInstruction) : Prop where
  short : bs.length ≤ 15
  decode : ∀ rest, decodeWithBytes (bs++rest) = some (i,bs.length)

def SequentialByte : ByteInstruction → Prop
  | .other i => Sequential i
  | _ => True

abbrev ByteListing := List (List UInt8 × ByteInstruction)

def byteEncoding (xs : ByteListing) : List UInt8 := xs.flatMap Prod.fst

/-- Each instruction stands for its bytes, and none but the last one branches. -/
def StraightByte : ByteListing → Prop
  | [] => True
  | [x] => EncodesByte x.1 x.2
  | x :: y :: xs => (EncodesByte x.1 x.2 ∧ SequentialByte x.2) ∧ StraightByte (y :: xs)

theorem straightByte_cons {x y : List UInt8 × ByteInstruction} {xs : ByteListing}
    (hx : EncodesByte x.1 x.2) (hseq : SequentialByte x.2) (hxs : StraightByte (y :: xs)) :
    StraightByte (x :: y :: xs) := ⟨⟨hx,hseq⟩,hxs⟩

theorem straightByte_singleton {x : List UInt8 × ByteInstruction} (hx : EncodesByte x.1 x.2) :
    StraightByte [x] := hx

def Machine.afterBytes (m : Machine) (xs : ByteListing) : Machine :=
  xs.foldl (fun m x => m.afterByte x.2 x.1.length) m

@[simp] theorem byteEncoding_nil : byteEncoding [] = [] := rfl

@[simp] theorem byteEncoding_cons (x : List UInt8 × ByteInstruction) (xs : ByteListing) :
    byteEncoding (x :: xs) = x.1++byteEncoding xs := rfl

@[simp] theorem afterBytes_nil (m : Machine) : m.afterBytes [] = m := rfl

@[simp] theorem afterBytes_cons (m : Machine) (x : List UInt8 × ByteInstruction) (xs : ByteListing) :
    m.afterBytes (x :: xs) = (m.afterByte x.2 x.1.length).afterBytes xs := rfl

attribute [simp] ByteReg.whole Machine.byteReg Machine.setByteReg Machine.executeByte Machine.afterByte

theorem stepByte_of_encodes {bs : List UInt8} {i : ByteInstruction} (h : EncodesByte bs i)
    (hcode : HasBytes code m.eip bs) : stepByte code m = some (m.afterByte i bs.length) := by
  obtain ⟨rest,hrest⟩ := Nat.exists_eq_add_of_le h.short
  rw [stepByte, hrest, load_add, hcode, h.decode, Option.map_some]

theorem afterByte_eip {i : ByteInstruction} (h : SequentialByte i) (length : ℕ) :
    (m.afterByte i length).eip = m.eip+BitVec.ofNat 32 length := by
  cases i with
  | other i => exact after_eip h length
  | _ => rfl

/-- A listing is executed one instruction after the other. -/
theorem runByte_listing {xs : ByteListing} (hxs : StraightByte xs)
    (hcode : HasBytes code m.eip (byteEncoding xs)) :
    runByte code xs.length m = some (m.afterBytes xs) := by
  induction xs generalizing m with
  | nil => rfl
  | cons x xs ih =>
    cases xs with
    | nil =>
      rw [byteEncoding_cons, byteEncoding_nil, List.append_nil] at hcode
      rw [List.length_singleton, runByte, stepByte_of_encodes hxs hcode, Option.bind_some, runByte]
      rfl
    | cons y xs =>
      obtain ⟨⟨henc,hseq⟩,hxs⟩ := hxs
      obtain ⟨hcx,hcxs⟩ := hasBytes_append.mp hcode
      have heip : (m.afterByte x.2 x.1.length).eip = m.eip+BitVec.ofNat 32 x.1.length :=
        afterByte_eip hseq _
      have hrun := ih hxs (m := m.afterByte x.2 x.1.length) (by rwa [heip])
      rw [List.length_cons, runByte, stepByte_of_encodes henc hcx, Option.bind_some, hrun]
      rfl

theorem byteReaches_listing {xs : ByteListing} {x : Address} (hxs : StraightByte xs)
    (hcode : HasBytes code x (byteEncoding xs)) (heip : m.eip = x) (h : m.afterBytes xs = m') :
    ByteReaches code m m' :=
  ⟨xs.length,h ▸ runByte_listing hxs (heip ▸ hcode)⟩

/-- Listings one behind the other, the first one `n` bytes behind an address. -/
def BlocksAt (code : Memory) (x : Address) : ℕ → List ByteListing → Prop
  | _, [] => True
  | n, xs :: xss =>
    HasBytes code (x+BitVec.ofNat 32 n) (byteEncoding xs) ∧ BlocksAt code x (n+(byteEncoding xs).length) xss

theorem blocksAt_of_hasBytes {x : Address} {n : ℕ} {xss : List ByteListing}
    (h : HasBytes code (x+BitVec.ofNat 32 n) (xss.flatMap byteEncoding)) : BlocksAt code x n xss := by
  induction xss generalizing n with
  | nil => trivial
  | cons xs xss ih =>
    rw [List.flatMap_cons, hasBytes_append, BitVec.add_assoc, ← BitVec.ofNat_add] at h
    exact ⟨h.1,ih h.2⟩

/-! Executions up to the flags. -/

/-- The execution comes to the machine, but for its flags. -/
def ByteReachesUpToFlags (code : Memory) (m m' : Machine) : Prop :=
  ∃ flags undefined, ByteReaches code m { m' with flags, undefined }

theorem byteUpToFlags_listing {xs : ByteListing} {x : Address} (hxs : StraightByte xs)
    (hcode : HasBytes code x (byteEncoding xs)) (heip : m.eip = x)
    (h : { m.afterBytes xs with flags := m'.flags, undefined := m'.undefined } = m') :
    ByteReachesUpToFlags code m m' := by
  have hreaches := byteReaches_listing hxs hcode heip rfl
  refine ⟨(m.afterBytes xs).flags,(m.afterBytes xs).undefined,?_⟩
  rwa [← h]

/-! Executions of instructions of both kinds. -/

def Executes (code : Memory) : Machine → Machine → Prop :=
  Relation.ReflTransGen fun m m' => step code m = some m' ∨ stepByte code m = some m'

theorem Executes.trans (h : Executes code m m') (h' : Executes code m' m'') : Executes code m m'' :=
  Relation.ReflTransGen.trans h h'

theorem Reaches.executes (h : Reaches code m m') : Executes code m m' := by
  obtain ⟨n,hrun⟩ := h
  induction n generalizing m with
  | zero =>
    cases hrun
    exact Relation.ReflTransGen.refl
  | succ n ih =>
    rw [run, Option.bind_eq_some_iff] at hrun
    obtain ⟨next,hstep,hrest⟩ := hrun
    exact Relation.ReflTransGen.head (Or.inl hstep) (ih hrest)

theorem ByteReaches.executes (h : ByteReaches code m m') : Executes code m m' := by
  obtain ⟨n,hrun⟩ := h
  induction n generalizing m with
  | zero =>
    cases hrun
    exact Relation.ReflTransGen.refl
  | succ n ih =>
    rw [runByte, Option.bind_eq_some_iff] at hrun
    obtain ⟨next,hstep,hrest⟩ := hrun
    exact Relation.ReflTransGen.head (Or.inr hstep) (ih hrest)

/-! Zero bytes in a word, found by carries: added to ones below every byte, a byte that is not zero
carries into the gap above it. -/

def zeroDetector (x : BitVec 32) : BitVec 32 :=
  (x ^^^ 0xffffffff ^^^ (0x7efefeff+x)) &&& 0x81010100

/-- There is a carry into bit `j`. -/
theorem carry_of_zeroDetector {x : BitVec 32} {j : ℕ} (h : zeroDetector x = 0) (hj : j < 32)
    (hmask : (0x81010100 : BitVec 32).getLsbD j = true)
    (hgap : (0x7efefeff : BitVec 32).getLsbD j = false) :
    2^j ≤ 0x7efefeff%2^j+x.toNat%2^j := by
  have hbit := congrArg (fun w => w.getLsbD j) h
  have hones : (0xffffffff : BitVec 32).getLsbD j = true := by
    rw [show (0xffffffff : BitVec 32) = BitVec.allOnes 32 from rfl, BitVec.getLsbD_allOnes]
    exact decide_eq_true hj
  have hzero : (0 : BitVec 32).getLsbD j = false := BitVec.getLsbD_zero
  rw [zeroDetector] at hbit
  simp only [BitVec.getLsbD_and, BitVec.getLsbD_xor, BitVec.getLsbD_add hj, hmask, hgap, hones, hzero,
    Bool.and_true] at hbit
  have hcarry : BitVec.carry j 0x7efefeff x false = true := by
    revert hbit
    cases x.getLsbD j <;> cases BitVec.carry j 0x7efefeff x false <;> simp
  simpa [BitVec.carry] using hcarry

/-- Where nothing is detected, no byte is zero. -/
theorem bytes_ne_zero_of_detector {x : BitVec 32} (h : zeroDetector x = 0) {i : ℕ} (hi : i < 4) :
    (x >>> (8*i)).setWidth 8 ≠ (0 : BitVec 8) := by
  have h8 := @carry_of_zeroDetector x 8 h (by decide) (by decide) (by decide)
  have h16 := @carry_of_zeroDetector x 16 h (by decide) (by decide) (by decide)
  have h24 := @carry_of_zeroDetector x 24 h (by decide) (by decide) (by decide)
  have h31 := @carry_of_zeroDetector x 31 h (by decide) (by decide) (by decide)
  intro hzero
  have hnat := congrArg BitVec.toNat hzero
  rw [BitVec.toNat_setWidth, BitVec.toNat_ushiftRight, Nat.shiftRight_eq_div_pow] at hnat
  change x.toNat/2^(8*i)%2^8 = 0 at hnat
  have hlt := x.isLt
  interval_cases i <;> omega

/-- A byte in place against the same byte on its own. -/
theorem and_byteMask_eq_zero {x : BitVec 32} {k : ℕ} (hk : k ≤ 24) :
    x &&& (0xff : BitVec 32) <<< k = 0 ↔ (x >>> k).setWidth 8 = (0 : BitVec 8) := by
  have hmask (i : ℕ) : (0xff : BitVec 32).getLsbD i = decide (i < 8) := by
    rw [show (0xff : BitVec 32) = (BitVec.allOnes 8).setWidth 32 by decide, BitVec.getLsbD_setWidth,
      BitVec.getLsbD_allOnes]
    by_cases hi : i < 8 <;> simp [hi]
    omega
  constructor
  · intro h
    apply BitVec.eq_of_getLsbD_eq
    intro i hi
    have hbit := congrArg (fun w => w.getLsbD (k+i)) h
    have hlt : k+i < 32 := by omega
    rw [BitVec.getLsbD_and, BitVec.getLsbD_shiftLeft, hmask] at hbit
    rw [BitVec.getLsbD_setWidth, BitVec.getLsbD_ushiftRight]
    simpa [hlt, hi] using hbit
  · intro h
    apply BitVec.eq_of_getLsbD_eq
    intro i hi
    by_cases hin : k ≤ i ∧ i-k < 8
    · have hbit := congrArg (fun w => w.getLsbD (i-k)) h
      rw [BitVec.getLsbD_setWidth, BitVec.getLsbD_ushiftRight, Nat.add_sub_cancel' hin.1] at hbit
      have hfalse : x.getLsbD i = false := by simpa [hin.2] using hbit
      simp [hfalse]
    · rw [BitVec.getLsbD_and, BitVec.getLsbD_shiftLeft, hmask]
      simp
      omega

end Ia32
