import Saex.WrappedMemory

/-! Instructions of IA-32 in 32-bit mode, as far as they are needed: how they are encoded
and what they do. Segments are flat but for FS. Code is fetched from a memory of its own,
which no instruction writes. Accesses do not fault, and with the trap flag clear nothing
interrupts the sequence. -/
namespace Ia32
open LittleEndian WrappedMemory

inductive Reg
  | eax | ecx | edx | ebx | esp | ebp | esi | edi
deriving DecidableEq

def Reg.ofCode : ℕ → Reg
  | 0 => .eax
  | 1 => .ecx
  | 2 => .edx
  | 3 => .ebx
  | 4 => .esp
  | 5 => .ebp
  | 6 => .esi
  | _ => .edi

/-- A memory operand. -/
structure Location where
  inFs : Bool := false
  base : Option Reg := none
  /-- With the binary logarithm of the scale. -/
  index : Option (Reg × ℕ) := none
  displacement : BitVec 32 := 0
deriving DecidableEq

inductive Operand
  | imm (v : BitVec 32)
  | reg (r : Reg)
  | mem (l : Location)
deriving DecidableEq

inductive Width
  | byte | word | dword
deriving DecidableEq

inductive Alu
  | add | or | and | sub | xor | cmp
deriving DecidableEq

/-- What a conditional jump asks of the flags. -/
inductive Condition
  | overflow | carry | zero | carryOrZero | sign | parity | less | lessOrZero
deriving DecidableEq

inductive Instruction
  | nop
  | push (source : Operand)
  | pop (target : Reg)
  | mov (target source : Operand) (w : Width := .dword)
  /-- A byte with zeros before it. -/
  | movzx (target : Reg) (source : Operand)
  | lea (target : Reg) (l : Location)
  | alu (op : Alu) (target source : Operand)
  | test (left right : Operand) (w : Width := .dword)
  | inc (target : Reg)
  | dec (target : Reg)
  | not (target : Reg)
  | shl (target : Reg) (count : ℕ)
  | repStosd
  | jmp (distance : BitVec 32)
  | jmpTo (source : Operand)
  | jcc (c : Condition) (holds : Bool) (distance : BitVec 32)
  | call (distance : BitVec 32)
  | callTo (source : Operand)
  | leave
  | ret
deriving DecidableEq

/-! Encodings. Each reader returns what it has read and how many bytes that took. -/

def immediate8 : List UInt8 → Option (BitVec 32 × ℕ)
  | b :: _ => some (b.toBitVec.signExtend 32,1)
  | [] => none

def immediate32 : List UInt8 → Option (BitVec 32 × ℕ)
  | a :: b :: c :: d :: _ => some (read 32 [a,b,c,d],4)
  | _ => none

/-- The displacement that the addressing mode calls for. -/
def displacement (mode : ℕ) (bs : List UInt8) : Option (BitVec 32 × ℕ) :=
  if mode = 0 then some (0,0) else if mode = 1 then immediate8 bs else immediate32 bs

/-- The operand in memory after a ModRM byte with the given mode and `rm`. -/
def location (inFs : Bool) (mode rm : ℕ) (bs : List UInt8) : Option (Location × ℕ) :=
  if rm = 4 then
    match bs with
    | [] => none
    | sib :: bs =>
      let sib := sib.toNat
      let index := if sib/8%8 = 4 then none else some (Reg.ofCode (sib/8%8),sib/64)
      if mode = 0 ∧ sib%8 = 5 then
        (immediate32 bs).map fun (displacement,n) => ({ inFs, index, displacement },n+1)
      else (displacement mode bs).map fun (displacement,n) =>
        ({ inFs, base := some (Reg.ofCode (sib%8)), index, displacement },n+1)
  else if mode = 0 ∧ rm = 5 then
    (immediate32 bs).map fun (displacement,n) => ({ inFs, displacement },n)
  else (displacement mode bs).map fun (displacement,n) =>
    ({ inFs, base := some (Reg.ofCode rm), displacement },n)

/-- The ModRM byte and what belongs to it: the register field and the other operand. -/
def modRm (inFs : Bool) : List UInt8 → Option (ℕ × Operand × ℕ)
  | [] => none
  | b :: bs =>
    let b := b.toNat
    if b/64 = 3 then some (b/8%8,.reg (Reg.ofCode (b%8)),1)
    else (location inFs (b/64) (b%8) bs).map fun (l,n) => (b/8%8,.mem l,n+1)

/-- The byte registers from 4 on are high halves, which are not needed. -/
def Operand.hasByte : Operand → Bool
  | .reg r => [Reg.eax,.ecx,.edx,.ebx].contains r
  | _ => true

def Alu.ofCode : ℕ → Option Alu
  | 0 => some .add
  | 1 => some .or
  | 4 => some .and
  | 5 => some .sub
  | 6 => some .xor
  | 7 => some .cmp
  | _ => none

def Condition.ofCode : ℕ → Condition
  | 0 => .overflow
  | 1 => .carry
  | 2 => .zero
  | 3 => .carryOrZero
  | 4 => .sign
  | 5 => .parity
  | 6 => .less
  | _ => .lessOrZero

/-- The first eight rows of the opcode table. -/
def decodeAlu (inFs : Bool) (op : ℕ) (bs : List UInt8) : Option (Instruction × ℕ) := do
  let alu ← Alu.ofCode (op/8)
  if op%8 = 1 then (modRm inFs bs).map fun (r,o,n) => (.alu alu o (.reg (Reg.ofCode r)),n+1)
  else if op%8 = 3 then (modRm inFs bs).map fun (r,o,n) => (.alu alu (.reg (Reg.ofCode r)) o,n+1)
  else if op%8 = 5 then (immediate32 bs).map fun (v,n) => (.alu alu (.reg .eax) (.imm v),n+1)
  else none

/-- Operations with an immediate; the register field of the ModRM byte selects one. -/
def decodeImmediate (inFs : Bool) (wide : Bool) (select : ℕ → Option (Operand → Operand → Instruction))
    (bs : List UInt8) : Option (Instruction × ℕ) := do
  let (r,o,n) ← modRm inFs bs
  let (v,k) ← if wide then immediate32 (bs.drop n) else immediate8 (bs.drop n)
  let make ← select r
  return (make o (.imm v),n+k+1)

/-- The rows up to 0x7f: one register or one immediate, and short conditional jumps. -/
def decodeShort (op : ℕ) (bs : List UInt8) : Option (Instruction × ℕ) :=
  if 0x70 ≤ op then (immediate8 bs).map fun (v,n) =>
    (.jcc (Condition.ofCode (op%16/2)) (op%2 = 0) v,n+1)
  else if op < 0x48 then some (.inc (Reg.ofCode (op%8)),1)
  else if op < 0x50 then some (.dec (Reg.ofCode (op%8)),1)
  else if op < 0x58 then some (.push (.reg (Reg.ofCode (op%8))),1)
  else if op < 0x60 then some (.pop (Reg.ofCode (op%8)),1)
  else if op = 0x68 then (immediate32 bs).map fun (v,n) => (.push (.imm v),n+1)
  else if op = 0x6a then (immediate8 bs).map fun (v,n) => (.push (.imm v),n+1)
  else none

/-- The rows up to 0xbf: operations on registers and memory. -/
def decodeMiddle (inFs : Bool) (op : ℕ) (bs : List UInt8) : Option (Instruction × ℕ) :=
  if 0xb8 ≤ op then (immediate32 bs).map fun (v,n) =>
    (.mov (.reg (Reg.ofCode (op%8))) (.imm v),n+1)
  else if op = 0x81 ∨ op = 0x83 then
    decodeImmediate inFs (op = 0x81) (fun r => (Alu.ofCode r).map Instruction.alu) bs
  else if op = 0x84 then do
    let (r,o,n) ← modRm inFs bs
    if r < 4 ∧ o.hasByte then return (.test o (.reg (Reg.ofCode r)) .byte,n+1) else none
  else if op = 0x85 then (modRm inFs bs).map fun (r,o,n) => (.test o (.reg (Reg.ofCode r)),n+1)
  else if op = 0x89 then (modRm inFs bs).map fun (r,o,n) => (.mov o (.reg (Reg.ofCode r)),n+1)
  else if op = 0x8a then do
    let (r,o,n) ← modRm inFs bs
    if r < 4 ∧ o.hasByte then return (.mov (.reg (Reg.ofCode r)) o .byte,n+1) else none
  else if op = 0x8b then (modRm inFs bs).map fun (r,o,n) => (.mov (.reg (Reg.ofCode r)) o,n+1)
  else if op = 0x8d then do
    let (r,o,n) ← modRm inFs bs
    match o with
    | .mem l => return (.lea (Reg.ofCode r) l,n+1)
    | _ => none
  else if op = 0x90 then some (.nop,1)
  else if op = 0xa1 then (immediate32 bs).map fun (displacement,n) =>
    (.mov (.reg .eax) (.mem { inFs, displacement }),n+1)
  else if op = 0xa3 then (immediate32 bs).map fun (displacement,n) =>
    (.mov (.mem { inFs, displacement }) (.reg .eax),n+1)
  else none

/-- The rest of the one-byte opcodes. -/
def decodeHigh (inFs : Bool) (op : ℕ) (bs : List UInt8) : Option (Instruction × ℕ) :=
  if op = 0xe8 then (immediate32 bs).map fun (v,n) => (.call v,n+1)
  else if op = 0xe9 then (immediate32 bs).map fun (v,n) => (.jmp v,n+1)
  else if op = 0xeb then (immediate8 bs).map fun (v,n) => (.jmp v,n+1)
  else if op = 0xc1 then do
    let (r,o,n) ← modRm inFs bs
    let (v,k) ← immediate8 (bs.drop n)
    match r,o with
    | 4,.reg target => return (.shl target (v.toNat%32),n+k+1)
    | _,_ => none
  else if op = 0xc3 then some (.ret,1)
  else if op = 0xc6 then do
    let (r,o,n) ← modRm inFs bs
    let (v,k) ← immediate8 (bs.drop n)
    if r = 0 ∧ o.hasByte then return (.mov o (.imm v) .byte,n+k+1) else none
  else if op = 0xc7 then decodeImmediate inFs true
    (fun r => if r = 0 then some fun o v => .mov o v else none) bs
  else if op = 0xc9 then some (.leave,1)
  else if op = 0xf7 then do
    let (r,o,n) ← modRm inFs bs
    match r,o with
    | 2,.reg r => return (.not r,n+1)
    | _,_ => none
  else if op = 0xff then do
    let (r,o,n) ← modRm inFs bs
    match r with
    | 2 => return (.callTo o,n+1)
    | 4 => return (.jmpTo o,n+1)
    | 6 => return (.push o,n+1)
    | _ => none
  else none

def decodeOpcode (inFs : Bool) (op : ℕ) (bs : List UInt8) : Option (Instruction × ℕ) :=
  if op < 0x40 then decodeAlu inFs op bs
  else if op < 0x80 then decodeShort op bs
  else if op < 0xc0 then decodeMiddle inFs op bs
  else decodeHigh inFs op bs

/-- The opcodes behind 0x0f. -/
def decodeTwoByte : List UInt8 → Option (Instruction × ℕ)
  | [] => none
  | op :: bs =>
    let op := op.toNat
    if 0x80 ≤ op ∧ op < 0x90 then (immediate32 bs).map fun (v,n) =>
      (.jcc (Condition.ofCode (op%16/2)) (op%2 = 0) v,n+2)
    else if op = 0xb6 then (modRm false bs).bind fun (r,o,n) =>
      match o with
      | .mem _ => some (.movzx (Reg.ofCode r) o,n+2)
      | _ => none
    else none

/-- Behind the prefix for 16-bit operands. -/
def decodeHalf : List UInt8 → Option (Instruction × ℕ)
  | [] => none
  | op :: bs =>
    if op = 0x89 then (modRm false bs).map fun (r,o,n) => (.mov o (.reg (Reg.ofCode r)) .word,n+2)
    else if op = 0xa1 then (immediate32 bs).map fun (displacement,n) =>
      (.mov (.reg .eax) (.mem { displacement }) .word,n+2)
    else none

def decode : List UInt8 → Option (Instruction × ℕ)
  | [] => none
  | op :: bs =>
    if op = 0x0f then decodeTwoByte bs
    else if op = 0x66 then decodeHalf bs
    else if op = 0x64 then
      match bs with
      | [] => none
      | op :: bs => (decodeOpcode true op.toNat bs).map fun (i,n) => (i,n+1)
    else if op = 0xf3 then
      match bs with
      | [] => none
      | op :: _ => if op = 0xab then some (.repStosd,2) else none
    else decodeOpcode false op.toNat bs

/-! Flags. -/

def flag (n : ℕ) (b : Bool) : BitVec 32 := if b then BitVec.ofNat 32 (2^n) else 0

/-- The bits of the mask come from `v`, the others from `f`. -/
def blend (f mask v : BitVec 32) : BitVec 32 := f &&& ~~~mask ||| v &&& mask

/-- The carry, parity, adjust, zero, sign and overflow flags. -/
def arithmeticFlags : BitVec 32 := 0x8d5

def resumeFlag : BitVec 32 := 0x10000

/-- Parity looks at the low byte. -/
def evenParity (v : BitVec 32) : Bool := ((List.range 8).countP fun i => v.getLsbD i)%2 = 0

/-- The flags that a result sets on its own: parity, zero and sign. -/
def resultFlags (v : BitVec 32) : BitVec 32 :=
  flag 2 (evenParity v) ||| flag 6 (v = 0) ||| flag 7 v.msb

/-- The arithmetic flags of `a+b`. -/
def addFlags (a b : BitVec 32) : BitVec 32 :=
  flag 0 (2^32 ≤ a.toNat+b.toNat) ||| flag 4 (16 ≤ a.toNat%16+b.toNat%16) |||
    flag 11 (a.saddOverflow b) ||| resultFlags (a+b)

/-- The arithmetic flags of `a-b`. -/
def subFlags (a b : BitVec 32) : BitVec 32 :=
  flag 0 (a < b) ||| flag 4 (a.toNat%16 < b.toNat%16) ||| flag 11 (a.ssubOverflow b) |||
    resultFlags (a-b)

def Condition.holds (f : BitVec 32) : Condition → Bool
  | .overflow => f.getLsbD 11
  | .carry => f.getLsbD 0
  | .zero => f.getLsbD 6
  | .carryOrZero => f.getLsbD 0 || f.getLsbD 6
  | .sign => f.getLsbD 7
  | .parity => f.getLsbD 2
  | .less => f.getLsbD 7 != f.getLsbD 11
  | .lessOrZero => f.getLsbD 6 || f.getLsbD 7 != f.getLsbD 11

/-! What the instructions do. -/

structure Registers where
  eax : BitVec 32
  ecx : BitVec 32
  edx : BitVec 32
  ebx : BitVec 32
  esp : BitVec 32
  ebp : BitVec 32
  esi : BitVec 32
  edi : BitVec 32

def Registers.get (r : Registers) : Reg → BitVec 32
  | .eax => r.eax
  | .ecx => r.ecx
  | .edx => r.edx
  | .ebx => r.ebx
  | .esp => r.esp
  | .ebp => r.ebp
  | .esi => r.esi
  | .edi => r.edi

def Registers.set (r : Registers) (v : BitVec 32) : Reg → Registers
  | .eax => { r with eax := v }
  | .ecx => { r with ecx := v }
  | .edx => { r with edx := v }
  | .ebx => { r with ebx := v }
  | .esp => { r with esp := v }
  | .ebp => { r with ebp := v }
  | .esi => { r with esi := v }
  | .edi => { r with edi := v }

structure Machine where
  regs : Registers
  flags : BitVec 32
  eip : Address
  mem : Memory
  /-- The base of the segment FS. -/
  fs : Address
  /-- What the processor leaves in flags that it does not define, time after time. -/
  undefined : ℕ → BitVec 32

namespace Machine

def setReg (m : Machine) (r : Reg) (v : BitVec 32) : Machine := { m with regs := m.regs.set v r }

/-- The flags in the mask are set; those in `free` are not defined. -/
def setFlags (m : Machine) (mask v free : BitVec 32) : Machine :=
  { m with
    flags := blend m.flags mask (v ||| m.undefined 0 &&& free)
    undefined := fun n => m.undefined (n+1) }

/-- The address in the segment. -/
def offset (m : Machine) (l : Location) : Address :=
  (l.base.map m.regs.get).getD 0+
    (l.index.map fun (r,scale) => m.regs.get r <<< scale).getD 0+l.displacement

def address (m : Machine) (l : Location) : Address :=
  if l.inFs then m.fs+m.offset l else m.offset l

/-- The value of an operand, with zeros before it when it is narrow. -/
def operand (m : Machine) (w : Width) : Operand → BitVec 32
  | .imm v => v
  | .reg r =>
    match w with
    | .byte => m.regs.get r &&& 0xff
    | .word => m.regs.get r &&& 0xffff
    | .dword => m.regs.get r
  | .mem l =>
    match w with
    | .byte => (m.mem (m.address l)).toBitVec.setWidth 32
    | .word => read 32 (load m.mem (m.address l) 2)
    | .dword => word m.mem (m.address l)

def assign (m : Machine) (w : Width) : Operand → BitVec 32 → Machine
  | .imm _, _ => m
  | .reg r, v =>
    match w with
    | .byte => m.setReg r (blend (m.regs.get r) 0xff v)
    | .word => m.setReg r (blend (m.regs.get r) 0xffff v)
    | .dword => m.setReg r v
  | .mem l, v =>
    match w with
    | .byte => { m with mem := store m.mem (m.address l) (write 1 v) }
    | .word => { m with mem := store m.mem (m.address l) (write 2 v) }
    | .dword => { m with mem := setWord m.mem (m.address l) v }

def push (m : Machine) (v : BitVec 32) : Machine :=
  { m.setReg .esp (m.regs.esp-4) with mem := setWord m.mem (m.regs.esp-4) v }

/-- The word on top of the stack is taken off. -/
def drop (m : Machine) : Machine := m.setReg .esp (m.regs.esp+4)

/-- Logic leaves the adjust flag undefined. -/
def setLogicFlags (m : Machine) (v : BitVec 32) : Machine :=
  m.setFlags arithmeticFlags (resultFlags v) 0x10

def alu (m : Machine) (target : Operand) (a b : BitVec 32) : Alu → Machine
  | .add => { m.assign .dword target (a+b) with flags := blend m.flags arithmeticFlags (addFlags a b) }
  | .sub => { m.assign .dword target (a-b) with flags := blend m.flags arithmeticFlags (subFlags a b) }
  | .cmp => { m with flags := blend m.flags arithmeticFlags (subFlags a b) }
  | .or => (m.assign .dword target (a ||| b)).setLogicFlags (a ||| b)
  | .and => (m.assign .dword target (a &&& b)).setLogicFlags (a &&& b)
  | .xor => (m.assign .dword target (a ^^^ b)).setLogicFlags (a ^^^ b)

/-- Shifting by zero changes nothing; the overflow flag is defined for one bit only. -/
def shl (m : Machine) (r : Reg) (count : ℕ) : Machine :=
  let v := m.regs.get r
  let result := v <<< count
  let carry := v.getLsbD (32-count)
  if count = 0 then m
  else (m.setReg r result).setFlags arithmeticFlags
    (flag 0 carry ||| flag 11 (count = 1 && carry != result.msb) ||| resultFlags result)
    (if count = 1 then 0x10 else 0x810)

/-- The direction flag says which way the words are filled. -/
def fill (m : Machine) : Machine :=
  let stride : BitVec 32 := if m.flags.getLsbD 10 then -4 else 4
  { m with
    mem := (List.range m.regs.ecx.toNat).foldl (fun mem i =>
      setWord mem (m.regs.edi+stride*BitVec.ofNat 32 i) m.regs.eax) m.mem
    regs := { m.regs with edi := m.regs.edi+stride*m.regs.ecx, ecx := 0 } }

/-- The effect of an instruction once `eip` stands behind it. -/
def execute (m : Machine) : Instruction → Machine
  | .nop => m
  | .push source => m.push (m.operand .dword source)
  | .pop target => m.drop.setReg target (word m.mem m.regs.esp)
  | .mov target source w => m.assign w target (m.operand w source)
  | .movzx target source => m.setReg target (m.operand .byte source)
  | .lea target l => m.setReg target (m.offset l)
  | .alu op target source => m.alu target (m.operand .dword target) (m.operand .dword source) op
  | .test left right w =>
    let v := m.operand w left &&& m.operand w right
    -- The sign is the top bit of the operands.
    m.setLogicFlags (if w = .byte then (v.setWidth 8).signExtend 32 else v)
  | .inc r =>
    { m.setReg r (m.regs.get r+1) with
      flags := blend m.flags 0x8d4 (addFlags (m.regs.get r) 1) }
  | .dec r =>
    { m.setReg r (m.regs.get r-1) with
      flags := blend m.flags 0x8d4 (subFlags (m.regs.get r) 1) }
  | .not r => m.setReg r (~~~m.regs.get r)
  | .shl r count => m.shl r count
  | .repStosd => m.fill
  | .jmp distance => { m with eip := m.eip+distance }
  | .jmpTo source => { m with eip := m.operand .dword source }
  | .jcc c holds distance =>
    { m with eip := if c.holds m.flags = holds then m.eip+distance else m.eip }
  | .call distance => { m.push m.eip with eip := m.eip+distance }
  | .callTo source => { m.push m.eip with eip := m.operand .dword source }
  | .leave =>
    { m with regs := { m.regs with esp := m.regs.ebp+4, ebp := word m.mem m.regs.ebp } }
  | .ret => { m.drop with eip := word m.mem m.regs.esp }

/-- A whole instruction of the given length. Its completion clears the resume flag. -/
def after (m : Machine) (i : Instruction) (length : ℕ) : Machine :=
  let m := { m with eip := m.eip+BitVec.ofNat 32 length }.execute i
  { m with flags := blend m.flags resumeFlag 0 }

end Machine

/-- The longest instruction has fifteen bytes. -/
def step (code : Memory) (m : Machine) : Option Machine :=
  (decode (load code m.eip 15)).map fun (i,length) => m.after i length

def run (code : Memory) : ℕ → Machine → Option Machine
  | 0, m => some m
  | n+1, m => (step code m).bind (run code n)

end Ia32
