import Mathlib.Data.Int.ModEq
import Saex.Ia32Listing

/-! Linear disassembly, and where the branches of a piece of code lead: near branches hold the
distance from the next instruction as a signed word. -/
namespace Ia32

/-- The instructions one behind the other, each with its offset and its length. -/
def sweep : ℕ → ℕ → List UInt8 → Option (List (ℕ × Instruction × ℕ))
  | _,_,[] => some []
  | 0,_,_ :: _ => none
  | fuel+1,k,b :: bs => do
    let (i,n) ← decode (b :: bs)
    let rest ← sweep fuel (k+n) ((b :: bs).drop n)
    return (k,i,n) :: rest

/-- The distance of a near branch; short branches are told by their length. -/
def relative32 : Instruction → ℕ → Option (BitVec 32)
  | .call d,_ => some d
  | .jmp d,5 => some d
  | .jcc _ _ d,6 => some d
  | _,_ => none

def Operand.words : Operand → List (BitVec 32)
  | .imm v => [v]
  | .reg _ => []
  | .mem l => [l.displacement]

/-- The displacements and immediates of an instruction. -/
def Instruction.words : Instruction → List (BitVec 32)
  | .push source => source.words
  | .mov target source _ => target.words++source.words
  | .movzx _ source => source.words
  | .lea _ l => [l.displacement]
  | .alu _ target source => target.words++source.words
  | .test left right _ => left.words++right.words
  | .jmpTo source => source.words
  | .callTo source => source.words
  | _ => []

/-- Code beside what it is to refer to: the targets of its near branches in their order, and
the offsets of the instructions that name something in the image, with its RVA. -/
structure CheckedBlock where
  rva : ℕ
  bytes : List UInt8
  targets : List ℕ
  addresses : List (ℕ × ℕ)

/-- The near branches: the RVA behind each, and its distance. -/
def nearBranches (rva : ℕ) (xs : List (ℕ × Instruction × ℕ)) : List (ℕ × BitVec 32) :=
  xs.filterMap fun x => (relative32 x.2.1 x.2.2).map (rva+(x.1+x.2.2),·)

/-- The words in the instruction at an offset. -/
def wordsAt (xs : List (ℕ × Instruction × ℕ)) (k : ℕ) : List (BitVec 32) :=
  ((xs.find? fun x => x.1 == k).map fun x => x.2.1.words).getD []

/-- The code can be disassembled; `lands` holds of the RVA that each branch computes and of the
one it is to reach; and each address is that of the RVA in the image, without wrapping. -/
def CheckedBlock.Decodes (lands : ℤ → ℤ → Prop) (base : BitVec 32) (b : CheckedBlock) : Prop :=
  ∃ xs, sweep b.bytes.length 0 b.bytes = some xs ∧
    (nearBranches b.rva xs).Forall₂ (fun x (t : ℕ) => lands (x.1+x.2.toInt) t) b.targets ∧
    ∀ a ∈ b.addresses, ∃ v ∈ wordsAt xs a.1, v.toNat = base.toNat+a.2

/-- Branches with 32-bit addresses. -/
def Modulo (x y : ℤ) : Prop := x ≡ y [ZMOD 2^32]

theorem toInt_sub_ofNat (target next : ℕ) :
    (BitVec.ofNat 32 target-BitVec.ofNat 32 next).toInt = (target-next : ℤ).bmod (2^32) := by
  rw [BitVec.toInt_sub, BitVec.toInt_ofNat', BitVec.toInt_ofNat', Int.sub_bmod_bmod, Int.bmod_sub_bmod]

theorem modulo_of_distance (target next : ℕ) :
    Modulo (next+(BitVec.ofNat 32 target-BitVec.ofNat 32 next).toInt) target := by
  have hcongr : (target-next : ℤ).bmod (2^32) ≡ target-next [ZMOD 2^32] := Int.bmod_emod
  rw [toInt_sub_ofNat]
  calc (next+(target-next : ℤ).bmod (2^32) : ℤ) ≡ next+(target-next) [ZMOD 2^32] :=
        hcongr.add_left _
    _ = target := by ring

/-- Branches over less than half of the addresses are exact. -/
theorem eq_of_distance {target next : ℕ} (hup : target < next+2^31) (hdown : next ≤ target+2^31) :
    (next+(BitVec.ofNat 32 target-BitVec.ofNat 32 next).toInt : ℤ) = target := by
  rw [toInt_sub_ofNat, Int.bmod_eq_of_le_mul_two (by omega) (by omega)]
  ring

end Ia32
