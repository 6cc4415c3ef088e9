import Saex.PeGrammar
import Saex.UniqueMatch

/-! `raw_offset` on a layout that the parser returned: the address lies in the raw part
of one section, and the file offset stays inside the file. -/
namespace Saex
open LittleEndian Recognizers PeImage

/-- The match `raw_offset` looks for in one section. -/
def sectionHolds (rva : BitVec 32) (length : ℕ) (s : PeSection) : Bool :=
  s.rva ≤ rva && fits (rva-s.rva).toNat length s.rawSize.toNat

def sectionOffset (t : Target) (rva : BitVec 32) (s : PeSection) : ℕ :=
  t.sum s.rawOffset.toNat (rva-s.rva).toNat

theorem rawOffsetLoop_eq_scan (t : Target) (rva : BitVec 32) (length : ℕ) (xs : List PeSection)
    (found : Option ℕ) : rawOffsetLoop t rva length xs found =
      UniqueMatch.scan (sectionHolds rva length) (sectionOffset t rva) xs found := by
  induction xs generalizing found with
  | nil => rfl
  | cons s xs ih =>
    simp only [rawOffsetLoop, UniqueMatch.scan, sectionHolds, Bool.and_eq_true, decide_eq_true_eq,
      ih, sectionOffset]

theorem sectionHolds_iff (rva : BitVec 32) (length : ℕ) (s : PeSection) :
    sectionHolds rva length s ↔
      s.rva.toNat ≤ rva.toNat ∧ rva.toNat+length ≤ s.rva.toNat+s.rawSize.toNat := by
  simp only [sectionHolds, Bool.and_eq_true, decide_eq_true_eq, BitVec.le_def, fits_iff]
  refine and_congr_right fun hle => ?_
  rw [BitVec.toNat_sub_of_le (BitVec.le_def.mpr hle)]
  omega

section Layout
variable {b : List UInt8}

theorem layoutOf_sectionCount : (layoutOf b).sectionCount.toNat = PeFile.sectionCount b :=
  word16_toNat b _

theorem layoutOf_table (hcount : PeFile.sectionCount b ≤ 96) :
    (layoutOf b).table = sectionsOf b (PeFile.sectionCount b) := by
  rw [PeLayout.table, layoutOf_sectionCount]
  refine List.ext_getElem ?_ fun i h1 h2 => ?_
  · simp [sectionsOf, hcount]
  · have hi : i < PeFile.sectionCount b := by simpa [sectionsOf] using h2
    have hslot := layoutOf_sections b ⟨i,by omega⟩
    rw [if_pos hi] at hslot
    rw [List.getElem_take, Vector.getElem_toList]
    simpa [sectionsOf] using hslot

variable (hg : PeGrammar b)
include hg

theorem sectionOffset_eq (t : Target) (rva : BitVec 32) {i length : ℕ}
    (hi : i < PeFile.sectionCount b) (hl : 1 ≤ length)
    (hm : sectionHolds rva length (sectionOf b i)) :
    sectionOffset t rva (sectionOf b i) = PeFile.rawPointer b i+(rva.toNat-PeFile.rva b i) := by
  have hrva : (sectionOf b i).rva.toNat = PeFile.rva b i := word32_toNat b _
  have hpointer : (sectionOf b i).rawOffset.toNat = PeFile.rawPointer b i := word32_toNat b _
  have hraw : (sectionOf b i).rawSize.toNat = PeFile.rawSize b i := word32_toNat b _
  have hm' := (sectionHolds_iff rva length _).mp hm
  have hfile := (hg.sections i hi).inFile
  have hlen := hg.coff.size.2
  rw [hrva, hraw] at hm'
  rw [sectionOffset, hpointer, BitVec.toNat_sub_of_le (by rw [BitVec.le_def, hrva]; exact hm'.1),
    hrva, t.sum_eq (by omega)]

/-- No address belongs to the raw parts of two sections. -/
theorem sections_exclusive (rva : BitVec 32) {length : ℕ} (hl : 1 ≤ length) {i j : ℕ}
    (hi : i < PeFile.sectionCount b) (hji : j < i) :
    ¬(sectionHolds rva length (sectionOf b i) ∧ sectionHolds rva length (sectionOf b j)) := by
  rintro ⟨hmi,hmj⟩
  have hrva (i : ℕ) : (sectionOf b i).rva.toNat = PeFile.rva b i := word32_toNat b _
  have hraw (i : ℕ) : (sectionOf b i).rawSize.toNat = PeFile.rawSize b i := word32_toNat b _
  have hextent (i : ℕ) : PeFile.rawSize b i ≤ PeFile.extent b i := le_max_right _ _
  rw [sectionHolds_iff, hrva, hraw] at hmi hmj
  have hxi := hextent i
  have hxj := hextent j
  exact Set.disjoint_left.mp (hg.disjoint i hi j hji).1
    (show rva.toNat ∈ PeFile.memory b i from ⟨hmi.1,by omega⟩) ⟨hmj.1,by omega⟩

theorem rawOffset_layoutOf (t : Target) (rva : BitVec 32) {length : ℕ} (hl : 1 ≤ length) :
    rawOffset t (layoutOf b) rva length = UniqueMatch.only
      (fun i => sectionHolds rva length (sectionOf b i))
      (fun i => PeFile.rawPointer b i+(rva.toNat-PeFile.rva b i))
      (List.range (PeFile.sectionCount b)) := by
  have hcount := hg.coff.sectionCount.2
  have hguard : ¬(length = 0 ∨ (layoutOf b).sectionCount.toNat > maxSections) := by
    rw [layoutOf_sectionCount, maxSections]
    omega
  rw [rawOffset, if_neg hguard, layoutOf_table hcount, rawOffsetLoop_eq_scan,
    UniqueMatch.scan_eq_only, sectionsOf, UniqueMatch.only_map]
  refine UniqueMatch.only_congr (fun _ _ => rfl) fun i hi hm => ?_
  exact sectionOffset_eq hg t rva (List.mem_range.mp hi) hl hm

/-- The whole of `raw_offset` on a parsed layout. -/
theorem rawOffset_eq_some_iff (t : Target) (rva : BitVec 32) {length : ℕ} (hl : 1 ≤ length)
    {v : ℕ} : rawOffset t (layoutOf b) rva length = some v ↔
      ∃ i < PeFile.sectionCount b, PeFile.rva b i ≤ rva.toNat ∧
        rva.toNat+length ≤ PeFile.rva b i+PeFile.rawSize b i ∧
        PeFile.rawPointer b i+(rva.toNat-PeFile.rva b i) = v := by
  have hrva (i : ℕ) : (sectionOf b i).rva.toNat = PeFile.rva b i := word32_toNat b _
  have hraw (i : ℕ) : (sectionOf b i).rawSize.toNat = PeFile.rawSize b i := word32_toNat b _
  rw [rawOffset_layoutOf hg t rva hl, UniqueMatch.only_eq_some_iff]
  · simp only [List.mem_range, sectionHolds_iff, hrva, hraw, and_assoc]
  · rw [List.pairwise_iff_getElem]
    intro j i hj hi hji
    simp only [List.getElem_range, List.length_range] at hi ⊢
    rw [and_comm]
    exact sections_exclusive hg rva hl hi hji

end Layout
end Saex
