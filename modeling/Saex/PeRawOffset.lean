import Saex.PeOffsets

/-! What `raw_offset` promises about every layout that the parser has accepted. -/
namespace Saex
open PeImage

/-- The bytes from `rva` on lie in the raw part of the section. -/
def InRawPart (rva length : ℕ) (s : PeSection) : Prop :=
  s.rva.toNat ≤ rva ∧ rva+length ≤ s.rva.toNat+s.rawSize.toNat

/-- The file offset that the section gives to `rva`. -/
def offsetIn (rva : ℕ) (s : PeSection) : ℕ := s.rawOffset.toNat+(rva-s.rva.toNat)

/-- The laws of `raw_offset` for a layout `l` of a file of `n` bytes. -/
structure RawOffsetLaws (t : Target) (n : ℕ) (l : PeLayout) : Prop where
  found : ∀ rva length, (rawOffset t l rva length).isSome ↔
    1 ≤ length ∧ ∃ s ∈ l.table, InRawPart rva.toNat length s
  /-- At most one section matches, so that the loop returns the match that it finds first. -/
  unambiguous : ∀ (rva : BitVec 32) {length}, 1 ≤ length →
    (l.table.Pairwise fun s u => ¬(sectionHolds rva length s ∧ sectionHolds rva length u)) ∧
      rawOffset t l rva length = (l.table.find? (sectionHolds rva length)).map (sectionOffset t rva)
  contained : ∀ {rva length offset}, rawOffset t l rva length = some offset →
    ∃ s ∈ l.table, InRawPart rva.toNat length s ∧ offset = offsetIn rva.toNat s ∧
      s.rawOffset.toNat ≤ offset ∧ offset+length ≤ s.rawOffset.toNat+s.rawSize.toNat ∧
      l.headersSize.toNat ≤ offset ∧ offset+length ≤ n
  injective : ∀ {rva rva' length length' offset}, rawOffset t l rva length = some offset →
    rawOffset t l rva' length' = some offset → rva = rva'
  advances : ∀ {rva length offset k}, rawOffset t l rva length = some offset → k < length →
    rva.toNat+k < 2^32 ∧ rawOffset t l (rva+BitVec.ofNat 32 k) 1 = some (offset+k)

section Grammar
variable {b : List UInt8} (hg : PeGrammar b) (t : Target)
include hg

/-- Which sections of a parsed file there are, and where their raw parts lie. -/
theorem mem_table {s : PeSection} :
    s ∈ (layoutOf b).table ↔ ∃ i < PeFile.sectionCount b, s = sectionOf b i := by
  rw [layoutOf_table hg.coff.sectionCount.2, sectionsOf, List.mem_map]
  simp only [List.mem_range, eq_comm]

theorem rawOffset_ok_iff {rva : BitVec 32} {length offset : ℕ} :
    rawOffset t (layoutOf b) rva length = some offset ↔
      1 ≤ length ∧ ∃ s ∈ (layoutOf b).table, InRawPart rva.toNat length s ∧
        offset = offsetIn rva.toNat s := by
  have hrva (i : ℕ) : (sectionOf b i).rva.toNat = PeFile.rva b i := word32_toNat b _
  have hraw (i : ℕ) : (sectionOf b i).rawSize.toNat = PeFile.rawSize b i := word32_toNat b _
  have hpointer (i : ℕ) : (sectionOf b i).rawOffset.toNat = PeFile.rawPointer b i := word32_toNat b _
  obtain rfl | hl := Nat.eq_zero_or_pos length
  · simp [rawOffset]
  · rw [rawOffset_eq_some_iff hg t rva hl]
    simp only [mem_table hg, InRawPart, offsetIn]
    constructor
    · intro h
      obtain ⟨i,hi,hlow,hhigh,hv⟩ := h
      refine ⟨hl,sectionOf b i,⟨i,hi,rfl⟩,?_,?_⟩
      · rw [hrva, hraw]
        exact ⟨hlow,hhigh⟩
      · rw [hrva, hpointer, hv]
    · intro h
      obtain ⟨_,_,⟨i,hi,rfl⟩,hin,hv⟩ := h
      rw [hrva, hraw] at hin
      rw [hrva, hpointer] at hv
      exact ⟨i,hi,hin.1,hin.2,hv.symm⟩

theorem table_unambiguous (rva : BitVec 32) {length : ℕ} (hl : 1 ≤ length) :
    (layoutOf b).table.Pairwise fun s u => ¬(sectionHolds rva length s ∧ sectionHolds rva length u) := by
  rw [layoutOf_table hg.coff.sectionCount.2, sectionsOf, List.pairwise_map, List.pairwise_iff_getElem]
  intro j i hj hi hji
  simp only [List.getElem_range, List.length_range] at hi ⊢
  rw [and_comm]
  exact sections_exclusive hg rva hl hi hji

theorem rawOffset_eq_find? (rva : BitVec 32) {length : ℕ} (hl : 1 ≤ length) :
    rawOffset t (layoutOf b) rva length =
      ((layoutOf b).table.find? (sectionHolds rva length)).map (sectionOffset t rva) := by
  have hcount : ¬(length = 0 ∨ (layoutOf b).sectionCount.toNat > maxSections) := by
    have hsections := hg.coff.sectionCount.2
    rw [layoutOf_sectionCount, maxSections]
    omega
  rw [rawOffset, if_neg hcount, rawOffsetLoop_eq_scan, UniqueMatch.scan_eq_only,
    UniqueMatch.only_eq_find? (table_unambiguous hg rva hl)]

/-- The raw parts lie in the file, behind the headers. -/
theorem raw_placed {s : PeSection} (hs : s ∈ (layoutOf b).table) {rva length : ℕ} (hl : 1 ≤ length)
    (hin : InRawPart rva length s) :
    (layoutOf b).headersSize.toNat ≤ s.rawOffset.toNat ∧
      s.rawOffset.toNat+s.rawSize.toNat ≤ b.length := by
  obtain ⟨i,hi,rfl⟩ := (mem_table hg).mp hs
  have hraw : (sectionOf b i).rawSize.toNat = PeFile.rawSize b i := word32_toNat b _
  have hpointer : (sectionOf b i).rawOffset.toNat = PeFile.rawPointer b i := word32_toNat b _
  have hheaders : (layoutOf b).headersSize.toNat = PeFile.headersSize b := word32_toNat b _
  have hrules := hg.sections i hi
  have hpositive : 0 < PeFile.rawSize b i := by
    obtain ⟨hlow,hhigh⟩ := hin
    omega
  rw [hraw, hpointer, hheaders]
  exact ⟨(hrules.rawPlaced hpositive).1,hrules.inFile⟩

/-- Raw parts of two sections share no offset, so that an offset gives its section away. -/
theorem section_of_offset {s u : PeSection} (hs : s ∈ (layoutOf b).table)
    (hu : u ∈ (layoutOf b).table) {offset : ℕ}
    (hso : s.rawOffset.toNat ≤ offset ∧ offset < s.rawOffset.toNat+s.rawSize.toNat)
    (huo : u.rawOffset.toNat ≤ offset ∧ offset < u.rawOffset.toNat+u.rawSize.toNat) : s = u := by
  have hraw (i : ℕ) : (sectionOf b i).rawSize.toNat = PeFile.rawSize b i := word32_toNat b _
  have hpointer (i : ℕ) : (sectionOf b i).rawOffset.toNat = PeFile.rawPointer b i := word32_toNat b _
  obtain ⟨i,hi,rfl⟩ := (mem_table hg).mp hs
  obtain ⟨j,hj,rfl⟩ := (mem_table hg).mp hu
  rw [hraw, hpointer] at hso huo
  obtain h | rfl | h := lt_trichotomy i j
  · exact (Set.disjoint_left.mp (hg.disjoint j hj i h).2 huo hso).elim
  · rfl
  · exact (Set.disjoint_left.mp (hg.disjoint i hi j h).2 hso huo).elim

theorem rawOffsetLaws : RawOffsetLaws t b.length (layoutOf b) where
  found rva length := by
    rw [Option.isSome_iff_exists]
    simp only [rawOffset_ok_iff hg t]
    constructor
    · intro h
      obtain ⟨_,hl,s,hs,hin,_⟩ := h
      exact ⟨hl,s,hs,hin⟩
    · intro h
      obtain ⟨hl,s,hs,hin⟩ := h
      exact ⟨offsetIn rva.toNat s,hl,s,hs,hin,rfl⟩
  unambiguous rva length hl := ⟨table_unambiguous hg rva hl,rawOffset_eq_find? hg t rva hl⟩
  contained h := by
    obtain ⟨hl,s,hs,hin,rfl⟩ := (rawOffset_ok_iff hg t).mp h
    obtain ⟨hheaders,hfile⟩ := raw_placed hg hs hl hin
    obtain ⟨hlow,hhigh⟩ := hin
    refine ⟨s,hs,⟨hlow,hhigh⟩,rfl,?_⟩
    unfold offsetIn
    omega
  injective {rva rva' length length' offset} h h' := by
    obtain ⟨hl,s,hs,hin,heq⟩ := (rawOffset_ok_iff hg t).mp h
    obtain ⟨hl',u,hu,hin',heq'⟩ := (rawOffset_ok_iff hg t).mp h'
    unfold InRawPart at hin hin'
    unfold offsetIn at heq heq'
    have hsame := @section_of_offset _ hg _ _ hs hu offset (by omega) (by omega)
    subst hsame
    exact BitVec.eq_of_toNat_eq (by omega)
  advances {rva length offset k} h hk := by
    obtain ⟨hl,s,hs,hin,rfl⟩ := (rawOffset_ok_iff hg t).mp h
    obtain ⟨i,hi,rfl⟩ := (mem_table hg).mp hs
    have himage : PeFile.rva b i+PeFile.extent b i ≤ 2^28 :=
      (hg.sections i hi).inImage.trans hg.image.imageSize.2.1
    have hextent : PeFile.rawSize b i ≤ PeFile.extent b i := le_max_right _ _
    have hrva : (sectionOf b i).rva.toNat = PeFile.rva b i := word32_toNat b _
    have hraw : (sectionOf b i).rawSize.toNat = PeFile.rawSize b i := word32_toNat b _
    have hbound := hin.2
    rw [hrva, hraw] at hbound
    have hsum : (rva+BitVec.ofNat 32 k).toNat = rva.toNat+k := by
      rw [BitVec.toNat_add, BitVec.toNat_ofNat]
      omega
    refine ⟨by omega,(rawOffset_ok_iff hg t).mpr ⟨le_rfl,_,hs,?_,?_⟩⟩
    · rw [hsum]
      unfold InRawPart at hin ⊢
      omega
    · unfold InRawPart at hin
      rw [hsum]
      unfold offsetIn
      omega

end Grammar

theorem raw_offset_laws (t : Target) {b : List UInt8} {l : PeLayout}
    (h : parsePe32 t b = some ⟨.none,l⟩) : RawOffsetLaws t b.length l := by
  obtain ⟨hg,rfl⟩ := (parsePe32_accepts_iff t).mp h
  exact rawOffsetLaws hg t

theorem raw_offset_laws_smallPe : RawOffsetLaws .x64 smallPe.length (layoutOf smallPe) :=
  raw_offset_laws .x64 (parsePe32_smallPe .x64)

end Saex
