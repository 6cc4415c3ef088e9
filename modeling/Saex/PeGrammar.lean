import Mathlib
import Saex.LittleEndian
import Saex.PeImage

/-! The grammar `parse_pe32` accepts, in exact arithmetic over the little-endian
fields of the file, and the layout it returns. -/
namespace Saex
open LittleEndian Recognizers

/-! The fields of a PE32 file by their offsets. -/
namespace PeFile
variable (b : List UInt8)

def pe : ℕ := field 4 b 60
def optionalHeader : ℕ := pe b+24
def machine : ℕ := field 2 b (pe b+4)
def sectionCount : ℕ := field 2 b (pe b+6)
def timestamp : ℕ := field 4 b (pe b+8)
def optionalSize : ℕ := field 2 b (pe b+20)
def characteristics : ℕ := field 2 b (pe b+22)
def magic : ℕ := field 2 b (optionalHeader b)
def entryRva : ℕ := field 4 b (optionalHeader b+16)
def imageBase : ℕ := field 4 b (optionalHeader b+28)
def sectionAlignment : ℕ := field 4 b (optionalHeader b+32)
def fileAlignment : ℕ := field 4 b (optionalHeader b+36)
def imageSize : ℕ := field 4 b (optionalHeader b+56)
def headersSize : ℕ := field 4 b (optionalHeader b+60)
def dllCharacteristics : ℕ := field 2 b (optionalHeader b+70)
def directories : ℕ := field 4 b (optionalHeader b+92)
def clrRva : ℕ := field 4 b (optionalHeader b+208)
def clrSize : ℕ := field 4 b (optionalHeader b+212)
def table : ℕ := optionalHeader b+optionalSize b

section Sections
variable (i : ℕ)

def header : ℕ := table b+40*i
def name : Vector UInt8 8 := .ofFn fun n => b.getD (header b i+n) 0
def virtualSize : ℕ := field 4 b (header b i+8)
def rva : ℕ := field 4 b (header b i+12)
def rawSize : ℕ := field 4 b (header b i+16)
def rawPointer : ℕ := field 4 b (header b i+20)
def sectionCharacteristics : ℕ := field 4 b (header b i+36)

/-- What the section takes in the image: the larger of its two sizes. -/
def extent : ℕ := max (virtualSize b i) (rawSize b i)

def memory : Set ℕ := Set.Ico (rva b i) (rva b i+extent b i)
def raw : Set ℕ := Set.Ico (rawPointer b i) (rawPointer b i+rawSize b i)

end Sections
end PeFile

open PeFile in
/-- The rules for section `i` on its own. -/
structure PeSectionRules (b : List UInt8) (i : ℕ) : Prop where
  nonempty : 0 < extent b i
  aligned : sectionAlignment b ∣ rva b i
  afterHeaders : headersSize b ≤ rva b i
  inImage : rva b i+extent b i ≤ imageSize b
  inFile : rawPointer b i+rawSize b i ≤ b.length
  rawPlaced : 0 < rawSize b i → headersSize b ≤ rawPointer b i ∧
    fileAlignment b ∣ rawPointer b i ∧ fileAlignment b ∣ rawSize b i

open PeFile in
/-- From the file size to the executable kind. -/
structure PeCoffRules (b : List UInt8) : Prop where
  size : 64 ≤ b.length ∧ b.length ≤ 2^28
  dosSignature : field 2 b 0 = 0x5a4d
  peOffset : 64 ≤ pe b ∧ pe b+24 ≤ b.length
  peSignature : field 4 b (pe b) = 0x4550
  machine : machine b = 0x14c
  sectionCount : 1 ≤ sectionCount b ∧ sectionCount b ≤ 96
  executableImage : (characteristics b).testBit 1
  notDll : ¬(characteristics b).testBit 13

open PeFile in
/-- The optional header and the section table fit where the file says they are. -/
structure PeOptionalRules (b : List UInt8) : Prop where
  size : 96 ≤ optionalSize b ∧ optionalHeader b+optionalSize b ≤ b.length
  magic : magic b = 0x10b
  directories : directories b ≤ 16 ∧ 96+8*directories b ≤ optionalSize b
  noClr : 14 < PeFile.directories b → clrRva b = 0 ∧ clrSize b = 0
  table : table b+40*sectionCount b ≤ b.length

open PeFile in
/-- The rules for the image as a whole. -/
structure PeImageRules (b : List UInt8) : Prop where
  fileAlignment : (fileAlignment b).isPowerOfTwo ∧ 512 ≤ fileAlignment b ∧ fileAlignment b ≤ 65536
  sectionAlignment : (sectionAlignment b).isPowerOfTwo ∧
    PeFile.fileAlignment b ≤ sectionAlignment b
  imageSize : 0 < imageSize b ∧ imageSize b ≤ 2^28 ∧ PeFile.sectionAlignment b ∣ imageSize b
  headersSize : 0 < headersSize b ∧ PeFile.fileAlignment b ∣ headersSize b ∧
    headersSize b ≤ b.length ∧ headersSize b ≤ PeFile.imageSize b ∧
    table b+40*sectionCount b ≤ headersSize b
  imageBase : 0 < imageBase b ∧ 65536 ∣ imageBase b ∧ imageBase b+PeFile.imageSize b ≤ 2^32

open PeFile in
structure PeGrammar (b : List UInt8) : Prop where
  coff : PeCoffRules b
  optional : PeOptionalRules b
  image : PeImageRules b
  sections : ∀ i < sectionCount b, PeSectionRules b i
  disjoint : ∀ i < sectionCount b, ∀ j < i,
    Disjoint (memory b i) (memory b j) ∧ Disjoint (raw b i) (raw b j)
  entry : ∃ i < sectionCount b, rva b i ≤ entryRva b ∧ entryRva b < rva b i+rawSize b i ∧
    (sectionCharacteristics b i).testBit 29

namespace PeImage

/-- The section the layout holds for header `i` of the file. -/
def sectionOf (b : List UInt8) (i : ℕ) : PeSection where
  name := PeFile.name b i
  virtualSize := .ofNat 32 (PeFile.virtualSize b i)
  rva := .ofNat 32 (PeFile.rva b i)
  rawSize := .ofNat 32 (PeFile.rawSize b i)
  rawOffset := .ofNat 32 (PeFile.rawPointer b i)
  characteristics := .ofNat 32 (PeFile.sectionCharacteristics b i)

def coffOf (b : List UInt8) : PeLayout where
  timestamp := .ofNat 32 (PeFile.timestamp b)
  characteristics := .ofNat 16 (PeFile.characteristics b)
  sectionCount := .ofNat 16 (PeFile.sectionCount b)

def headersOf (b : List UInt8) : PeLayout :=
  { coffOf b with
    imageBase := .ofNat 32 (PeFile.imageBase b)
    entryRva := .ofNat 32 (PeFile.entryRva b)
    imageSize := .ofNat 32 (PeFile.imageSize b)
    headersSize := .ofNat 32 (PeFile.headersSize b)
    sectionAlignment := .ofNat 32 (PeFile.sectionAlignment b)
    fileAlignment := .ofNat 32 (PeFile.fileAlignment b)
    dllCharacteristics := .ofNat 16 (PeFile.dllCharacteristics b) }

def sectionsOf (b : List UInt8) (n : ℕ) : List PeSection := (List.range n).map (sectionOf b)

/-- The layout made of the fields of the file. -/
def layoutOf (b : List UInt8) : PeLayout :=
  { headersOf b with sections := sectionArray (sectionsOf b (PeFile.sectionCount b)) }

/-- The only stops the parser may show: its own errors, never a read past the file. -/
def Refusal (s : PeStop) : Prop := ∃ e, e ≠ .none ∧ s = .failed e

theorem refusal {e : PeError} (h : e ≠ .none := by decide) : Refusal (.failed e) := ⟨e,h,rfl⟩

section Reads
variable (t : Target) {b : List UInt8} {p : ℕ}

theorem byte_ok (h : p < b.length) : byte b p = .ok b[p] := dif_pos h

theorem u16_ok (hb : b.length ≤ 2^28) (h : p+2 ≤ b.length) :
    u16 t b p = .ok (.ofNat 16 (field 2 b p)) := by
  have h0 : p < b.length := by omega
  have h1 : p+1 < b.length := by omega
  have hv : ((b[p].toBitVec.setWidth 32 ||| b[p+1].toBitVec.setWidth 32 <<< 8).setWidth 16 :
      BitVec 16) = .ofNat 16 (field 2 b p) := by
    apply BitVec.eq_of_toNat_eq
    rw [field_succ 1 h0, field_succ 0 h1, field_zero]
    have hlow := b[p].toNat_lt
    have hhigh := b[p+1].toNat_lt
    have hshift : b[p+1].toNat <<< 8%2^32 = b[p+1].toNat <<< (8*1) :=
      Nat.mod_eq_of_lt (by rw [Nat.shiftLeft_eq]; omega)
    have hor := or_shifted (v := b[p].toNat) (i := 1) (by omega) b[p+1].toNat
    simp only [BitVec.toNat_setWidth, BitVec.toNat_or, BitVec.toNat_shiftLeft,
      UInt8.toNat_toBitVec, BitVec.toNat_ofNat]
    rw [Nat.mod_eq_of_lt (hlow.trans (by decide)), Nat.mod_eq_of_lt (hhigh.trans (by decide)),
      hshift, hor]
    omega
  rw [u16, byte_ok h0, t.sum_eq (by omega), byte_ok h1, ← hv]
  rfl

theorem u32_ok (hb : b.length ≤ 2^28) (h : p+4 ≤ b.length) :
    u32 t b p = .ok (.ofNat 32 (field 4 b p)) := by
  have hlow := field_lt 2 b p
  have hhigh := field_lt 2 b (p+2)
  have hv : ((BitVec.ofNat 16 (field 2 b p)).setWidth 32 |||
      (BitVec.ofNat 16 (field 2 b (p+2))).setWidth 32 <<< 16) = .ofNat 32 (field 4 b p) := by
    apply BitVec.eq_of_toNat_eq
    have hshift : field 2 b (p+2) <<< 16%2^32 = field 2 b (p+2) <<< (8*2) :=
      Nat.mod_eq_of_lt (by rw [Nat.shiftLeft_eq]; omega)
    have hadd : field (2+2) b p = field 2 b p+256^2*field 2 b (p+2) := field_add (by omega)
    have hor := or_shifted (v := field 2 b p) (i := 2) (by omega) (field 2 b (p+2))
    simp only [BitVec.toNat_setWidth, BitVec.toNat_or, BitVec.toNat_shiftLeft, BitVec.toNat_ofNat]
    rw [Nat.mod_eq_of_lt (hlow.trans_le (by decide)), Nat.mod_eq_of_lt (hlow.trans_le (by decide)),
      Nat.mod_eq_of_lt (hhigh.trans_le (by decide)), Nat.mod_eq_of_lt (hhigh.trans_le (by decide)),
      hshift, hor, show 4 = 2+2 from rfl, hadd]
    omega
  rw [u32, u16_ok t hb (by omega), t.sum_eq (by omega), u16_ok t hb (by omega), ← hv]
  rfl

end Reads

/-! Comparisons of the fields, in the code's words and in exact numbers. -/
section Fields
variable {n : ℕ}

@[simp] theorem toNat_word {w : ℕ} (h : n < 2^w) : (BitVec.ofNat w n).toNat = n :=
  Nat.mod_eq_of_lt h

theorem ofNat_eq_iff {w m : ℕ} (hn : n < 2^w) (hm : m < 2^w) :
    BitVec.ofNat w n = BitVec.ofNat w m ↔ n = m := by
  rw [← BitVec.toNat_inj, toNat_word hn, toNat_word hm]

theorem word16_eq_iff {b : List UInt8} {p m : ℕ} (hm : m < 2^16) :
    BitVec.ofNat 16 (field 2 b p) = BitVec.ofNat 16 m ↔ field 2 b p = m :=
  ofNat_eq_iff (field_lt 2 b p) hm

theorem word32_eq_iff {b : List UInt8} {p m : ℕ} (hm : m < 2^32) :
    BitVec.ofNat 32 (field 4 b p) = BitVec.ofNat 32 m ↔ field 4 b p = m :=
  ofNat_eq_iff (field_lt 4 b p) hm

theorem word16_toNat (b : List UInt8) (p : ℕ) : (BitVec.ofNat 16 (field 2 b p)).toNat = field 2 b p :=
  toNat_word (field_lt 2 b p)

theorem word32_toNat (b : List UInt8) (p : ℕ) : (BitVec.ofNat 32 (field 4 b p)).toNat = field 4 b p :=
  toNat_word (field_lt 4 b p)

theorem fits_iff (offset length limit : ℕ) : fits offset length limit ↔ offset+length ≤ limit := by
  simp only [fits, Bool.and_eq_true, decide_eq_true_eq]
  omega

theorem and_bit_eq_zero_iff {w i : ℕ} (hi : i < w) (v : BitVec w) :
    v &&& BitVec.twoPow w i = 0 ↔ v.toNat.testBit i = false := by
  have hne : BitVec.twoPow w i ≠ 0#w := by
    intro h
    have hh := congrArg BitVec.toNat h
    rw [BitVec.toNat_twoPow_of_lt hi, BitVec.toNat_zero] at hh
    exact (Nat.two_pow_pos i).ne' hh
  rw [BitVec.and_twoPow, ← BitVec.testBit_toNat]
  cases v.toNat.testBit i
  · exact ⟨fun _ => rfl,fun _ => rfl⟩
  · exact ⟨fun h => absurd h hne,nofun⟩

theorem power2_iff (v : BitVec 32) : power2 v ↔ v.toNat.isPowerOfTwo := by
  rw [← Nat.ne_zero_and_sub_one_eq_zero_iff_isPowerOfTwo]
  simp only [power2, Bool.and_eq_true, decide_eq_true_eq, ne_eq, ← BitVec.toNat_inj,
    BitVec.toNat_and, BitVec.ofNat_eq_ofNat, BitVec.toNat_ofNat, Nat.zero_mod]
  refine and_congr_right fun hv => ?_
  have hsub : (v-1#32).toNat = v.toNat-1 := by
    have hlt := v.isLt
    rw [BitVec.toNat_sub, BitVec.toNat_ofNat]
    omega
  rw [hsub]

theorem word_eq_zero_iff {w : ℕ} {x : BitVec w} : x = 0 ↔ x.toNat = 0 := by
  rw [← BitVec.toNat_inj]
  rfl

theorem word_mod_eq_zero_iff {w : ℕ} {x y : BitVec w} : x%y = 0 ↔ y.toNat ∣ x.toNat := by
  rw [word_eq_zero_iff, BitVec.toNat_umod, Nat.dvd_iff_mod_eq_zero]

end Fields

section Headers
variable (t : Target) {b : List UInt8}

theorem coffHeader_recognizes :
    Recognizes Refusal (coffHeader t b) (PeCoffRules b) (PeFile.pe b,coffOf b) := by
  apply Recognizes.congr
  · apply Recognizes.bind (.refuseIf refusal)
    intro hsize
    have hb : 64 ≤ b.length ∧ b.length ≤ 2^28 := by
      rwa [not_or, not_lt, gt_iff_lt, not_lt] at hsize
    apply Recognizes.after (u16_ok t hb.2 (by omega))
    apply Recognizes.bind (.refuseIf refusal)
    intro _
    apply Recognizes.after (u32_ok t hb.2 (by omega))
    rw [toNat_word (field_lt 4 b 60)]
    apply Recognizes.bind (.refuseIf refusal)
    intro hpe
    have hp : 64 ≤ field 4 b 60 ∧ field 4 b 60+24 ≤ b.length := by
      simpa [fits_iff] using hpe
    apply Recognizes.after (u32_ok t hb.2 (by omega))
    apply Recognizes.bind (.refuseIf refusal)
    intro _
    rw [t.sum_eq (by omega), t.sum_eq (by omega), t.sum_eq (by omega), t.sum_eq (by omega)]
    apply Recognizes.after (u16_ok t hb.2 (by omega))
    apply Recognizes.bind (.refuseIf refusal)
    intro _
    apply Recognizes.after (u16_ok t hb.2 (by omega))
    apply Recognizes.bind (.refuseIf refusal)
    intro _
    apply Recognizes.after (u32_ok t hb.2 (by omega))
    apply Recognizes.after (u16_ok t hb.2 (by omega))
    apply Recognizes.bind (.refuseIf refusal)
    intro _
    exact .of_ok rfl
  · have hexecutable : BitVec.ofNat 16 (field 2 b (field 4 b 60+22)) &&& 2#16 = 0#16 ↔
        (PeFile.characteristics b).testBit 1 = false :=
      (and_bit_eq_zero_iff (i := 1) (by decide) _).trans (by rw [word16_toNat]; rfl)
    have hdll : BitVec.ofNat 16 (field 2 b (field 4 b 60+22)) &&& 8192#16 = 0#16 ↔
        (PeFile.characteristics b).testBit 13 = false :=
      (and_bit_eq_zero_iff (i := 13) (by decide) _).trans (by rw [word16_toNat]; rfl)
    simp (disch := decide) only [not_or, not_lt, gt_iff_lt, ne_eq, not_not, BitVec.ofNat_eq_ofNat,
      Bool.not_eq_true', Bool.not_eq_false, fits_iff, word16_eq_iff, word32_eq_iff, word16_toNat,
      maxImageBytes, maxSections, hexecutable, hdll]
    constructor
    · rintro ⟨h1,h2,h3,h4,h5,⟨h6,h7⟩,⟨h8,h9⟩,-⟩
      exact ⟨h1,h2,h3,h4,h5,⟨Nat.pos_of_ne_zero h6,h7⟩,h8,h9⟩
    · rintro ⟨h1,h2,h3,h4,h5,⟨h6,h7⟩,h8,h9⟩
      exact ⟨h1,h2,h3,h4,h5,⟨Nat.ne_of_gt h6,h7⟩,⟨h8,h9⟩,trivial⟩

theorem clrDirectory_recognizes {o : ℕ} (hb : b.length ≤ 2^28)
    (ho : 14 < field 4 b (o+92) → o+216 ≤ b.length) :
    Recognizes Refusal (clrDirectory t b o (.ofNat 32 (field 4 b (o+92))))
      (14 < field 4 b (o+92) → field 4 b (o+208) = 0 ∧ field 4 b (o+212) = 0) () := by
  have hd : BitVec.ofNat 32 (field 4 b (o+92)) > 14 ↔ 14 < field 4 b (o+92) := by
    rw [gt_iff_lt, BitVec.lt_def, word32_toNat]
    rfl
  unfold clrDirectory
  by_cases h14 : 14 < field 4 b (o+92)
  · have hlen := ho h14
    rw [if_pos (hd.mpr h14)]
    apply Recognizes.congr
    · rw [t.sum_eq (by omega), t.sum_eq (by omega)]
      apply Recognizes.after (u32_ok t hb (by omega))
      apply Recognizes.bind (.refuseIf refusal)
      intro _
      apply Recognizes.after (u32_ok t hb (by omega))
      exact .refuseIf refusal
    · simp (disch := decide) only [ne_eq, not_not, BitVec.ofNat_eq_ofNat, word32_eq_iff, h14,
        forall_const]
  · rw [if_neg (mt hd.mp h14)]
    exact (Recognizes.of_ok rfl).congr ⟨fun _ h => absurd h h14,fun _ => trivial⟩

/-- The 32-bit product cannot wrap once there are at most sixteen directories. -/
theorem directories_fit {d size : ℕ} (hd : d < 2^32) (hs : size < 2^16) :
    ¬(BitVec.ofNat 32 d > 16 ∨ 96+BitVec.ofNat 32 d*8 > (BitVec.ofNat 16 size).setWidth 32) ↔
      d ≤ 16 ∧ 96+8*d ≤ size := by
  have hsize : ((BitVec.ofNat 16 size).setWidth 32).toNat = size := by
    rw [BitVec.toNat_setWidth, toNat_word hs, Nat.mod_eq_of_lt (hs.trans (by decide))]
  have h16 : BitVec.ofNat 32 d > 16 ↔ 16 < d := by
    rw [gt_iff_lt, BitVec.lt_def, toNat_word hd]
    rfl
  rw [not_or, h16, not_lt]
  refine and_congr_right fun hle => ?_
  have hsum : (96+BitVec.ofNat 32 d*8 : BitVec 32).toNat = 96+8*d := by
    rw [BitVec.toNat_add, BitVec.toNat_mul, toNat_word hd]
    change (96+d*8%2^32)%2^32 = 96+8*d
    omega
  rw [gt_iff_lt, BitVec.lt_def, hsize, hsum, not_lt]

theorem not_badImageLayout_iff (l : PeLayout) (headersEnd : ℕ) :
    ¬badImageLayout b l headersEnd ↔
      (l.fileAlignment.toNat.isPowerOfTwo ∧ 512 ≤ l.fileAlignment.toNat ∧
        l.fileAlignment.toNat ≤ 65536) ∧
      (l.sectionAlignment.toNat.isPowerOfTwo ∧
        l.fileAlignment.toNat ≤ l.sectionAlignment.toNat) ∧
      (0 < l.imageSize.toNat ∧ l.imageSize.toNat ≤ 2^28 ∧
        l.sectionAlignment.toNat ∣ l.imageSize.toNat) ∧
      (0 < l.headersSize.toNat ∧ l.fileAlignment.toNat ∣ l.headersSize.toNat ∧
        l.headersSize.toNat ≤ b.length ∧ l.headersSize.toNat ≤ l.imageSize.toNat ∧
        headersEnd ≤ l.headersSize.toNat) ∧
      0 < l.imageBase.toNat ∧ 65536 ∣ l.imageBase.toNat ∧
        l.imageBase.toNat+l.imageSize.toNat ≤ 2^32 := by
  have h512 : (512 : BitVec 32).toNat = 512 := rfl
  have h65536 : (65536 : BitVec 32).toNat = 65536 := rfl
  simp only [badImageLayout, not_or, Bool.not_eq_true', Bool.not_eq_false, power2_iff, ne_eq,
    not_not, word_mod_eq_zero_iff]
  simp only [word_eq_zero_iff, gt_iff_lt, BitVec.lt_def, not_lt, h512, h65536, maxImageBytes,
    ← Nat.pos_iff_ne_zero, and_assoc]
  exact Iff.rfl

theorem optionalHeader_recognizes (hc : PeCoffRules b) :
    Recognizes Refusal (optionalHeader t b (PeFile.pe b) (coffOf b))
      (PeOptionalRules b ∧ PeImageRules b) (PeFile.table b,headersOf b) := by
  have hb := hc.size.2
  have hp := hc.peOffset
  rw [optionalHeader, t.sum_eq (by omega), t.sum_eq (by omega)]
  apply Recognizes.congr
  · apply Recognizes.after (u16_ok t hb (by omega))
    rw [word16_toNat]
    apply Recognizes.bind (.refuseIf refusal)
    intro hsize
    have ho : 96 ≤ PeFile.optionalSize b ∧
        PeFile.pe b+24+PeFile.optionalSize b ≤ b.length := by
      simpa [fits_iff, PeFile.optionalSize] using hsize
    apply Recognizes.after (u16_ok t hb (by omega))
    apply Recognizes.bind (.refuseIf refusal)
    intro _
    rw [t.sum_eq (by omega)]
    apply Recognizes.after (u32_ok t hb (by omega))
    apply Recognizes.bind (.refuseIf refusal)
    intro hdirectories
    have hd : PeFile.directories b ≤ 16 ∧ 96+8*PeFile.directories b ≤ PeFile.optionalSize b :=
      (directories_fit (field_lt 4 b _) (field_lt 2 b _)).mp hdirectories
    have hclr (h14 : 14 < PeFile.directories b) : PeFile.pe b+24+216 ≤ b.length := by omega
    apply Recognizes.bind (clrDirectory_recognizes t hb hclr)
    intro _
    have hsections : (coffOf b).sectionCount.toNat = PeFile.sectionCount b :=
      toNat_word (field_lt 2 b _)
    have hcount := hc.sectionCount.2
    have hsizeEq : PeFile.optionalSize b = field 2 b (PeFile.pe b+20) := rfl
    have htable : t.sum (PeFile.pe b+24) (field 2 b (PeFile.pe b+20)) = PeFile.table b :=
      t.sum_eq (by omega)
    rw [hsections, htable, t.product_eq (by omega)]
    dsimp only
    apply Recognizes.bind (.refuseIf refusal)
    intro hfits
    have ht : PeFile.table b+PeFile.sectionCount b*40 ≤ b.length := by
      simpa [fits_iff] using hfits
    have htab : PeFile.table b = PeFile.pe b+24+PeFile.optionalSize b := rfl
    rw [t.sum_eq (by omega), t.sum_eq (by omega), t.sum_eq (by omega), t.sum_eq (by omega),
      t.sum_eq (by omega), t.sum_eq (by omega), t.sum_eq (by omega), t.sum_eq (by omega)]
    apply Recognizes.after (u32_ok t hb (by omega))
    apply Recognizes.after (u32_ok t hb (by omega))
    apply Recognizes.after (u32_ok t hb (by omega))
    apply Recognizes.after (u32_ok t hb (by omega))
    apply Recognizes.after (u32_ok t hb (by omega))
    apply Recognizes.after (u32_ok t hb (by omega))
    apply Recognizes.after (u16_ok t hb (by omega))
    apply Recognizes.bind (.refuseIf refusal)
    intro _
    exact .of_ok rfl
  · have himage : ¬badImageLayout b (headersOf b) (PeFile.table b+PeFile.sectionCount b*40) ↔
        PeImageRules b := by
      rw [not_badImageLayout_iff, mul_comm]
      simp only [headersOf, PeFile.fileAlignment, PeFile.sectionAlignment, PeFile.imageSize,
        PeFile.headersSize, PeFile.imageBase, word32_toNat]
      exact ⟨fun ⟨h1,h2,h3,h4,h5⟩ => ⟨h1,h2,h3,h4,h5⟩,fun ⟨h1,h2,h3,h4,h5⟩ => ⟨h1,h2,h3,h4,h5⟩⟩
    have hdirectories := directories_fit (field_lt 4 b (PeFile.pe b+24+92))
      (field_lt 2 b (PeFile.pe b+20))
    change _ ∧ _ ∧ _ ∧ _ ∧ _ ∧ ¬badImageLayout b (headersOf b) _ ∧ _ ↔ _
    rw [himage, hdirectories]
    simp (disch := decide) only [not_or, not_lt, ne_eq, not_not, BitVec.ofNat_eq_ofNat,
      Bool.not_eq_true', Bool.not_eq_false, fits_iff, word16_eq_iff, mul_comm _ 40]
    constructor
    · rintro ⟨h1,h2,h3,h4,h5,h6,-⟩
      exact ⟨⟨h1,h2,h3,h4,h5⟩,h6⟩
    · rintro ⟨⟨h1,h2,h3,h4,h5⟩,h6⟩
      exact ⟨h1,h2,h3,h4,h5,h6,trivial⟩

end Headers

section Sections
variable (t : Target) {b : List UInt8}

theorem extent_toNat (s : PeSection) :
    s.extent.toNat = max s.virtualSize.toNat s.rawSize.toNat := by
  unfold PeSection.extent
  split
  · rename_i h
    rw [BitVec.lt_def] at h
    omega
  · rename_i h
    rw [BitVec.lt_def] at h
    omega

theorem not_badSection_iff (l : PeLayout) (s : PeSection) :
    ¬badSection b l s ↔ 0 < max s.virtualSize.toNat s.rawSize.toNat ∧
      l.headersSize.toNat ≤ s.rva.toNat ∧ l.sectionAlignment.toNat ∣ s.rva.toNat ∧
      s.rva.toNat+max s.virtualSize.toNat s.rawSize.toNat ≤ l.imageSize.toNat ∧
      s.rawOffset.toNat+s.rawSize.toNat ≤ b.length ∧
      (0 < s.rawSize.toNat → l.headersSize.toNat ≤ s.rawOffset.toNat ∧
        l.fileAlignment.toNat ∣ s.rawOffset.toNat ∧ l.fileAlignment.toNat ∣ s.rawSize.toNat) := by
  simp only [badSection, not_or, not_and, Bool.not_eq_true', Bool.not_eq_false, fits_iff, ne_eq,
    not_not, word_mod_eq_zero_iff]
  simp only [word_eq_zero_iff, BitVec.lt_def, not_lt, extent_toNat, ← Nat.pos_iff_ne_zero]

/-- The overlap test of the code is that of intervals of exact numbers. -/
theorem not_overlaps_iff (a an b bn : BitVec 32) : overlaps a an b bn = false ↔
    Disjoint (Set.Ico a.toNat (a.toNat+an.toNat)) (Set.Ico b.toNat (b.toNat+bn.toNat)) := by
  rw [Set.Ico_disjoint_Ico, ← Bool.not_eq_true]
  simp only [overlaps, Bool.and_eq_true, decide_eq_true_eq, ne_eq, word_eq_zero_iff]
  omega

theorem sectionOf_extent (b : List UInt8) (i : ℕ) :
    (sectionOf b i).extent.toNat = PeFile.extent b i := by
  rw [extent_toNat]
  simp only [sectionOf, PeFile.virtualSize, PeFile.rawSize, word32_toNat]
  rfl

/-- Section `i` is well placed, also with respect to the sections before it. -/
def Placed (b : List UInt8) (i : ℕ) : Prop :=
  PeSectionRules b i ∧ ∀ j < i, Disjoint (PeFile.memory b i) (PeFile.memory b j) ∧
    Disjoint (PeFile.raw b i) (PeFile.raw b j)

theorem not_badSection_sectionOf (i : ℕ) :
    ¬badSection b (headersOf b) (sectionOf b i) ↔ PeSectionRules b i := by
  rw [not_badSection_iff]
  simp only [sectionOf, headersOf, PeFile.virtualSize, PeFile.rva, PeFile.rawSize,
    PeFile.rawPointer, PeFile.headersSize, PeFile.sectionAlignment, PeFile.fileAlignment,
    PeFile.imageSize, word32_toNat]
  exact ⟨fun ⟨h1,h2,h3,h4,h5,h6⟩ => ⟨h1,h3,h2,h4,h5,h6⟩,fun ⟨h1,h2,h3,h4,h5,h6⟩ =>
    ⟨h1,h3,h2,h4,h5,h6⟩⟩

theorem not_collide_iff (i j : ℕ) : sectionsCollide (sectionOf b i) (sectionOf b j) = false ↔
    Disjoint (PeFile.memory b i) (PeFile.memory b j) ∧
      Disjoint (PeFile.raw b i) (PeFile.raw b j) := by
  have hrva (i : ℕ) : (sectionOf b i).rva.toNat = PeFile.rva b i := word32_toNat b _
  have hpointer (i : ℕ) : (sectionOf b i).rawOffset.toNat = PeFile.rawPointer b i := word32_toNat b _
  have hraw (i : ℕ) : (sectionOf b i).rawSize.toNat = PeFile.rawSize b i := word32_toNat b _
  rw [sectionsCollide, Bool.or_eq_false_iff, not_overlaps_iff, not_overlaps_iff]
  simp only [sectionOf_extent, hrva, hpointer, hraw]
  exact Iff.rfl

theorem readSection_ok (hb : b.length ≤ 2^28) {i : ℕ} (h : PeFile.header b i+40 ≤ b.length) :
    readSection t b (PeFile.header b i) = .ok (sectionOf b i) := by
  have hname : ((List.range 8).mapM fun n => byte b (t.sum (PeFile.header b i) n)) =
      .ok ((List.range 8).map fun n => b.getD (PeFile.header b i+n) 0) := by
    refine mapM_ok fun n hn => ?_
    have hn8 := List.mem_range.mp hn
    have hlt : PeFile.header b i+n < b.length := by omega
    rw [t.sum_eq (by omega), byte_ok hlt, List.getD_eq_getElem _ _ hlt]
  rw [readSection, hname, t.sum_eq (by omega), t.sum_eq (by omega), t.sum_eq (by omega),
    t.sum_eq (by omega), t.sum_eq (by omega), u32_ok t hb (by omega), u32_ok t hb (by omega),
    u32_ok t hb (by omega), u32_ok t hb (by omega), u32_ok t hb (by omega)]
  have hvector : (Vector.ofFn fun n : Fin 8 =>
      ((List.range 8).map fun n => b.getD (PeFile.header b i+n) 0).getD n 0) =
      PeFile.name b i := by
    ext n hn
    simp [PeFile.name]
  rw [sectionOf, ← hvector]
  rfl

theorem parseSections_recognizes (hb : b.length ≤ 2^28)
    (htable : PeFile.table b+40*PeFile.sectionCount b ≤ b.length) {n k : ℕ}
    (hk : k+n ≤ PeFile.sectionCount b) (entry : Bool) :
    Recognizes Refusal
      (parseSections t b (headersOf b) (PeFile.table b) n (sectionsOf b k) entry)
      (∀ i, k ≤ i → i < k+n → Placed b i)
      (sectionsOf b (k+n),
        entry || (List.range' k n).any fun i => holdsEntry (headersOf b).entryRva (sectionOf b i)) := by
  induction n generalizing k entry with
  | zero =>
    rw [List.range'_zero, List.any_nil, Bool.or_false]
    refine (Recognizes.of_ok rfl).congr ⟨fun _ i hki hi => ?_,fun _ => trivial⟩
    omega
  | succ n ih =>
    have hlength : (sectionsOf b k).length = k := by
      rw [sectionsOf, List.length_map, List.length_range]
    have hheader : t.sum (PeFile.table b) (t.product k 40) = PeFile.header b k := by
      rw [t.product_eq (by omega), t.sum_eq (by omega), PeFile.header, mul_comm]
    have hinside : PeFile.header b k+40 ≤ b.length := by
      rw [PeFile.header]
      omega
    have hnext : sectionsOf b k++[sectionOf b k] = sectionsOf b (k+1) := by
      rw [sectionsOf, sectionsOf, List.range_succ, List.map_append, List.map_singleton]
    rw [parseSections, hlength, hheader, readSection_ok t hb hinside]
    apply Recognizes.congr
    · apply Recognizes.after rfl
      apply Recognizes.bind (.refuseIf refusal)
      intro _
      apply Recognizes.bind (.refuseIf refusal)
      intro _
      rw [hnext]
      have hrest := ih (k := k+1) (by omega) (entry || holdsEntry (headersOf b).entryRva (sectionOf b k))
      rw [Bool.or_assoc, Nat.add_right_comm, Nat.add_assoc] at hrest
      exact hrest
    · have hplaced : ¬badSection b (headersOf b) (sectionOf b k) ∧
          ¬(sectionsOf b k).any (sectionsCollide (sectionOf b k)) ↔ Placed b k := by
        rw [not_badSection_sectionOf, Placed]
        refine and_congr_right fun _ => ?_
        rw [Bool.not_eq_true, List.any_eq_false]
        simp only [sectionsOf, List.mem_map, List.mem_range, forall_exists_index, and_imp,
          forall_apply_eq_imp_iff₂, Bool.not_eq_true, not_collide_iff]
      rw [← and_assoc, hplaced]
      constructor
      · intro ⟨hhere,hrest⟩ i hki hi
        rcases Nat.eq_or_lt_of_le hki with rfl | hlt
        · exact hhere
        · exact hrest i hlt (by omega)
      · intro hall
        exact ⟨hall k le_rfl (by omega),fun i hki hi => hall i (by omega) (by omega)⟩

theorem holdsEntry_iff (i : ℕ) : holdsEntry (headersOf b).entryRva (sectionOf b i) ↔
    PeFile.rva b i ≤ PeFile.entryRva b ∧ PeFile.entryRva b < PeFile.rva b i+PeFile.rawSize b i ∧
      (PeFile.sectionCharacteristics b i).testBit 29 := by
  have hentry : (headersOf b).entryRva.toNat = PeFile.entryRva b := word32_toNat b _
  have hrva : (sectionOf b i).rva.toNat = PeFile.rva b i := word32_toNat b _
  have hraw : (sectionOf b i).rawSize.toNat = PeFile.rawSize b i := word32_toNat b _
  have hchars : (sectionOf b i).characteristics.toNat = PeFile.sectionCharacteristics b i :=
    word32_toNat b _
  have hbit : (sectionOf b i).characteristics &&& 0x20000000 = 0 ↔
      (PeFile.sectionCharacteristics b i).testBit 29 = false :=
    (and_bit_eq_zero_iff (i := 29) (by decide) _).trans (by rw [hchars])
  simp only [holdsEntry, Bool.and_eq_true, decide_eq_true_eq, ne_eq, hbit, Bool.not_eq_false,
    BitVec.le_def, BitVec.lt_def, hrva, hentry, hraw, and_assoc]
  refine and_congr_right fun hle => ?_
  rw [BitVec.toNat_sub_of_le (by rw [BitVec.le_def, hrva, hentry]; exact hle), hrva, hentry]
  refine and_congr_left fun _ => ?_
  omega

theorem parseLayout_recognizes :
    Recognizes Refusal (parseLayout t b) (PeGrammar b) (layoutOf b) := by
  apply Recognizes.congr
  · apply Recognizes.bind (coffHeader_recognizes t)
    intro hc
    apply Recognizes.bind (optionalHeader_recognizes t hc)
    intro ho
    have hcount : (headersOf b).sectionCount.toNat = PeFile.sectionCount b :=
      word16_toNat b _
    have hsections := parseSections_recognizes t hc.size.2 ho.1.table (n := PeFile.sectionCount b)
      (k := 0) (by omega) false
    dsimp only
    rw [hcount]
    apply Recognizes.bind hsections
    intro _
    apply Recognizes.bind (.refuseIf refusal)
    intro _
    rw [Nat.zero_add]
    exact .of_ok rfl
  · have hentry : (List.range' 0 (PeFile.sectionCount b)).any
        (fun i => holdsEntry (headersOf b).entryRva (sectionOf b i)) ↔
        ∃ i < PeFile.sectionCount b, PeFile.rva b i ≤ PeFile.entryRva b ∧
          PeFile.entryRva b < PeFile.rva b i+PeFile.rawSize b i ∧
          (PeFile.sectionCharacteristics b i).testBit 29 := by
      rw [List.any_eq_true, ← List.range_eq_range']
      simp only [List.mem_range, holdsEntry_iff]
    simp only [Bool.false_or, Bool.not_eq_true', Bool.not_eq_false, hentry, Nat.zero_add,
      Nat.zero_le, forall_const]
    constructor
    · rintro ⟨h1,⟨h2,h3⟩,h4,h5,-⟩
      exact ⟨h1,h2,h3,fun i hi => (h4 i hi).1,fun i hi => (h4 i hi).2,h5⟩
    · rintro ⟨h1,h2,h3,h4,h5,h6⟩
      exact ⟨h1,⟨h2,h3⟩,fun i hi => ⟨h4 i hi,h5 i hi⟩,h6,trivial⟩

end Sections
end PeImage

open PeFile in
/-- Slot `i` of the layout holds section header `i` of the file. -/
structure PeSectionFields (b : List UInt8) (i : ℕ) (s : PeSection) : Prop where
  name : ∀ n : Fin 8, s.name[n] = b.getD (header b i+n) 0
  virtualSize : s.virtualSize.toNat = virtualSize b i
  rva : s.rva.toNat = rva b i
  rawSize : s.rawSize.toNat = rawSize b i
  rawOffset : s.rawOffset.toNat = rawPointer b i
  characteristics : s.characteristics.toNat = sectionCharacteristics b i

open PeFile in
/-- The layout holds the fields of the file, and nothing past its sections. -/
structure PeLayoutFields (b : List UInt8) (l : PeLayout) : Prop where
  timestamp : l.timestamp.toNat = timestamp b
  imageBase : l.imageBase.toNat = imageBase b
  entryRva : l.entryRva.toNat = entryRva b
  imageSize : l.imageSize.toNat = imageSize b
  headersSize : l.headersSize.toNat = headersSize b
  sectionAlignment : l.sectionAlignment.toNat = sectionAlignment b
  fileAlignment : l.fileAlignment.toNat = fileAlignment b
  characteristics : l.characteristics.toNat = characteristics b
  dllCharacteristics : l.dllCharacteristics.toNat = dllCharacteristics b
  sectionCount : l.sectionCount.toNat = sectionCount b
  sections : ∀ i : Fin 96, i < PeFile.sectionCount b → PeSectionFields b i l.sections[i]
  unused : ∀ i : Fin 96, PeFile.sectionCount b ≤ i → l.sections[i] = {}

namespace PeImage

theorem layoutOf_sections (b : List UInt8) (i : Fin 96) : (layoutOf b).sections[i] =
    if i < PeFile.sectionCount b then sectionOf b i else {} := by
  rw [layoutOf, sectionArray, Fin.getElem_fin, Vector.getElem_ofFn, sectionsOf]
  split
  · rename_i h
    rw [List.getD_eq_getElem?_getD, List.getElem?_map, List.getElem?_range h]
    rfl
  · rename_i h
    rw [List.getD_eq_getElem?_getD, List.getElem?_map, List.getElem?_eq_none (by simpa using h)]
    rfl

theorem layoutOf_fields (b : List UInt8) : PeLayoutFields b (layoutOf b) where
  timestamp := word32_toNat b _
  imageBase := word32_toNat b _
  entryRva := word32_toNat b _
  imageSize := word32_toNat b _
  headersSize := word32_toNat b _
  sectionAlignment := word32_toNat b _
  fileAlignment := word32_toNat b _
  characteristics := word16_toNat b _
  dllCharacteristics := word16_toNat b _
  sectionCount := word16_toNat b _
  sections i hi := by
    rw [layoutOf_sections, if_pos hi]
    exact ⟨fun n => by rw [sectionOf, PeFile.name, Fin.getElem_fin, Vector.getElem_ofFn],
      word32_toNat b _,word32_toNat b _,word32_toNat b _,word32_toNat b _,word32_toNat b _⟩
  unused i hi := by rw [layoutOf_sections, if_neg (not_lt.mpr hi)]

end PeImage

open PeImage in
/-- On every byte string the parser stays inside it, accepts exactly the grammar and
returns the fields of the file; when it refuses, the layout it returns is empty. -/
theorem parse_pe32_grammar (t : Target) (b : List UInt8) :
    ∃ r, parsePe32 t b = some r ∧ (r.error = .none ↔ PeGrammar b) ∧
      (r.error = .none → PeLayoutFields b r.layout) ∧ (r.error ≠ .none → r.layout = {}) := by
  have hr := parseLayout_recognizes t (b := b)
  by_cases hg : PeGrammar b
  · refine ⟨⟨.none,layoutOf b⟩,?_,?_,?_,?_⟩
    · rw [parsePe32, hr.accepts hg]
    · exact ⟨fun _ => hg,fun _ => rfl⟩
    · exact fun _ => layoutOf_fields b
    · exact fun hne => absurd rfl hne
  · obtain ⟨stop,hstop,e,he,rfl⟩ := hr.refuses hg
    refine ⟨⟨e,{}⟩,?_,?_,?_,?_⟩
    · rw [parsePe32, hstop]
    · exact ⟨fun h => absurd h he,fun h => absurd h hg⟩
    · exact fun h => absurd h he
    · exact fun _ => rfl

open PeImage in
theorem parsePe32_accepts_iff (t : Target) {b : List UInt8} {l : PeLayout} :
    parsePe32 t b = some ⟨.none,l⟩ ↔ PeGrammar b ∧ l = layoutOf b := by
  rw [← (parseLayout_recognizes t).ok_iff, parsePe32]
  cases hp : parseLayout t b with
  | ok a => simp
  | error stop =>
    cases stop with
    | outside => simp
    | failed e =>
      obtain ⟨e',he',h⟩ := ((parseLayout_recognizes t).error hp).2
      cases h
      simp [he']

/-! A one-section executable: the headers up to the end of the fixed part of the optional
header, and the header of its section. -/

def plainHeaders (optionalSize imageSize headersSize : ℕ) : List UInt8 :=
  bytes 2 0x5a4d++bytes 58 0++bytes 4 64++bytes 4 0x4550++bytes 2 0x14c++bytes 2 1++bytes 12 0++
    bytes 2 optionalSize++bytes 2 0x102++bytes 2 0x10b++bytes 14 0++bytes 12 (imageSize-4096)++
    bytes 4 0x400000++bytes 4 4096++bytes 20 512++bytes 4 imageSize++bytes 32 headersSize++bytes 4 0

def plainSection (rva rawPointer : ℕ) : List UInt8 :=
  bytes 8 0++bytes 4 512++bytes 4 rva++bytes 4 512++bytes 16 rawPointer++bytes 4 0x60000020

/-- The smallest such file. -/
def smallPe : List UInt8 :=
  plainHeaders 224 8192 512++bytes 128 0++plainSection 4096 512++bytes 672 0

theorem length_smallPe : smallPe.length = 1024 := by
  simp only [smallPe, plainHeaders, plainSection, List.length_append, length_bytes]

theorem smallPe_grammar : PeGrammar smallPe := by
  have hok : (PeImage.parseLayout .x86 smallPe).isOk := by decide +kernel
  cases h : PeImage.parseLayout .x86 smallPe with
  | error stop =>
    rw [h] at hok
    cases hok
  | ok l => exact ((PeImage.parseLayout_recognizes .x86).ok_iff.mp h).1

theorem parsePe32_smallPe (t : Target) :
    parsePe32 t smallPe = some ⟨.none,PeImage.layoutOf smallPe⟩ :=
  (parsePe32_accepts_iff t).mpr ⟨smallPe_grammar,rfl⟩

end Saex
