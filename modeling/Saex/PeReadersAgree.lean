import Saex.PeOffsets
import Saex.PeStartupInspector
import Saex.StoppingRuns

/-! The native and the managed reader of PE files accept the same images and map every
address alike, as long as the managed one can represent the optional header's size. -/
namespace Saex
open LittleEndian Recognizers StoppingRuns PeImage PeStartupInspector

/-! A 32-bit field and the signed property made of it. -/
section Properties
variable {n : ℕ}

theorem intProperty_eq (h : n < 2^31) : intProperty n = n := by
  rw [intProperty, BitVec.toInt_eq_toNat_of_lt, toNat_word (by omega)]
  rw [toNat_word (by omega)]
  omega

theorem intProperty_neg (h : 2^31 ≤ n) (hn : n < 2^32) : intProperty n < 0 := by
  rw [intProperty, BitVec.toInt_eq_toNat_cond, toNat_word hn]
  split <;> omega

theorem intProperty_small (h : 0 ≤ intProperty n) (hn : n < 2^32) : n < 2^31 := by
  by_contra hge
  exact absurd h (not_le.mpr (intProperty_neg (not_lt.mp hge) hn))

theorem shortProperty_eq (h : n < 2^15) : shortProperty n = n := by
  rw [shortProperty, BitVec.toInt_eq_toNat_of_lt, toNat_word (by omega)]
  rw [toNat_word (by omega)]
  omega

theorem shortProperty_neg (h : 2^15 ≤ n) (hn : n < 2^16) : shortProperty n < 0 := by
  rw [shortProperty, BitVec.toInt_eq_toNat_cond, toNat_word hn]
  split <;> omega

theorem tmod_eq_zero_iff {m : ℕ} : ((n:ℤ).tmod m = 0) ↔ m ∣ n := by
  rw [← Int.ofNat_tmod, Nat.dvd_iff_mod_eq_zero]
  exact Int.natCast_eq_zero

theorem power_iff : power (n:ℤ) ↔ n.isPowerOfTwo := by
  rw [← Nat.ne_zero_and_sub_one_eq_zero_iff_isPowerOfTwo]
  simp only [power, Bool.and_eq_true, decide_eq_true_eq, Int.toNat_natCast]
  refine and_congr_left fun _ => ?_
  omega

end Properties

/-- The loop over the section headers asks each header for its bounds and each pair for
disjointness. -/
theorem validateSections_recognizes (h : ManagedHeaders) (length : ℤ)
    (done rest : List ManagedSection) (notes : List String) :
    Recognizes (fun _ => True) (validateSections h length done rest notes)
      ((∀ s ∈ rest, sectionBounds h length s) ∧ (∀ s ∈ rest, ∀ x ∈ done, collide s x = false) ∧
        rest.Pairwise fun x s => collide s x = false)
      (notes++(rest.mapIdx fun i s => sectionNote h (done.length+i) s).flatten) := by
  induction rest generalizing done notes with
  | nil => exact (Recognizes.of_ok (by simp [validateSections])).congr (by simp)
  | cons s rest ih =>
    apply Recognizes.congr
    · apply Recognizes.bind (.refuseIf trivial)
      intro _
      apply Recognizes.bind (.refuseIf trivial)
      intro _
      have hrest := ih (done++[s]) (notes++sectionNote h done.length s)
      simp only [List.mapIdx_cons, List.flatten_cons, ← List.append_assoc, Nat.add_zero]
      simp only [List.length_append, List.length_singleton, Nat.add_assoc, Nat.add_comm 1] at hrest
      exact hrest
    · simp only [Bool.not_eq_true', Bool.not_eq_false, Bool.not_eq_true, List.any_eq_false,
        List.forall_mem_cons, List.pairwise_cons, List.mem_append, List.mem_singleton]
      constructor
      · rintro ⟨h1,h2,h3,h4,h5⟩
        exact ⟨⟨h1,h3⟩,⟨h2,fun r hr x hx => h4 r hr x (.inl hx)⟩,fun r hr => h4 r hr s (.inr rfl),h5⟩
      · rintro ⟨⟨h1,h3⟩,⟨h2,h4⟩,h5,h6⟩
        refine ⟨h1,h2,h3,fun r hr x hx => ?_,h6⟩
        rcases hx with hx | rfl
        · exact h4 r hr x hx
        · exact h5 r hr

section Delivered
variable {b : List UInt8} {h : ManagedHeaders} (hd : h.Delivered b)
include hd

theorem headerLayout_iff : headerLayout h ↔
    (1 ≤ PeFile.sectionCount b ∧ PeFile.sectionCount b ≤ 96) ∧
      (PeFile.directories b ≤ 16 ∧ 96+8*PeFile.directories b ≤ PeFile.optionalSize b) ∧
      PeFile.optionalSize b < 2^15 := by
  have hsize : PeFile.optionalSize b < 2^16 := field_lt 2 b _
  have hdirectories : PeFile.directories b < 2^32 := field_lt 4 b _
  simp only [headerLayout, hd.sectionHeaders, hd.numberOfRvaAndSizes, hd.sizeOfOptionalHeader,
    List.length_map, List.length_range, Bool.and_eq_true, decide_eq_true_eq]
  by_cases hshort : PeFile.optionalSize b < 2^15
  · by_cases hint : PeFile.directories b < 2^31
    · rw [shortProperty_eq hshort, intProperty_eq hint]
      omega
    · have hneg := intProperty_neg (not_lt.mp hint) hdirectories
      omega
  · have hneg := shortProperty_neg (not_lt.mp hshort) hsize
    omega

/-- The four sizes of the image that the managed reader sees as they are. -/
structure ImageFits (b : List UInt8) : Prop where
  fileAlignment : PeFile.fileAlignment b < 2^31
  sectionAlignment : PeFile.sectionAlignment b < 2^31
  imageSize : PeFile.imageSize b < 2^31
  headersSize : PeFile.headersSize b < 2^31

omit hd in
theorem PeImageRules.fits {b : List UInt8} (hi : PeImageRules b) : ImageFits b := by
  have hle := Nat.le_of_dvd hi.imageSize.1 hi.imageSize.2.2
  have h1 := hi.fileAlignment.2.2
  have h2 := hi.imageSize.2.1
  have h3 := hi.headersSize.2.2.2.1
  exact ⟨by omega,by omega,by omega,by omega⟩

theorem imageLayout_fits {length : ℤ} (hi : imageLayout h length) : ImageFits b := by
  simp only [imageLayout, power, hd.fileAlignment, hd.sectionAlignment, hd.sizeOfImage,
    hd.sizeOfHeaders, Bool.and_eq_true, decide_eq_true_eq] at hi
  refine ⟨?_,?_,?_,?_⟩
  · exact intProperty_small (n := PeFile.fileAlignment b) (by omega) (field_lt 4 b _)
  · exact intProperty_small (n := PeFile.sectionAlignment b) (by omega) (field_lt 4 b _)
  · exact intProperty_small (n := PeFile.imageSize b) (by omega) (field_lt 4 b _)
  · exact intProperty_small (n := PeFile.headersSize b) (by omega) (field_lt 4 b _)

theorem imageLayout_iff (hshort : PeFile.optionalSize b < 2^15) :
    imageLayout h b.length ↔ PeImageRules b := by
  suffices hfit : ImageFits b → (imageLayout h b.length ↔ PeImageRules b) from
    ⟨fun hi => (hfit (imageLayout_fits hd hi)).mp hi,fun hi => (hfit hi.fits).mpr hi⟩
  intro ⟨hfa,hsa,his,hhs⟩
  have hib : PeFile.imageBase b < 2^32 := field_lt 4 b _
  have hsum : (PeFile.imageBase b+PeFile.imageSize b)%2^64 =
      PeFile.imageBase b+PeFile.imageSize b := Nat.mod_eq_of_lt (by omega)
  have htable : PeFile.table b = PeFile.optionalHeader b+PeFile.optionalSize b := rfl
  simp only [imageLayout, hd.sectionHeaders, hd.fileAlignment, hd.sectionAlignment, hd.sizeOfImage,
    hd.sizeOfHeaders, hd.imageBase, hd.peHeaderStartOffset, hd.sizeOfOptionalHeader,
    intProperty_eq hfa, intProperty_eq hsa, intProperty_eq his, intProperty_eq hhs,
    shortProperty_eq hshort, List.length_map, List.length_range, Bool.and_eq_true,
    decide_eq_true_eq, power_iff, tmod_eq_zero_iff, Int.toNat_natCast, hsum,
    ← Nat.dvd_iff_mod_eq_zero]
  constructor
  · rintro ⟨⟨⟨⟨⟨⟨⟨⟨⟨⟨⟨⟨⟨⟨⟨h1,h2⟩,h3⟩,h4⟩,h5⟩,h6⟩,h7⟩,h8⟩,h9⟩,h10⟩,h11⟩,h12⟩,h13⟩,h14⟩,h15⟩,h16⟩
    exact ⟨⟨h1,by omega,by omega⟩,⟨h4,by omega⟩,⟨by omega,by omega,h8⟩,
      ⟨by omega,h12,by omega,by omega,by omega⟩,h14,h15,h16⟩
  · rintro ⟨⟨h1,h2,h3⟩,⟨h4,h5⟩,⟨h6,h7,h8⟩,⟨h9,h12,h10,h11,h13⟩,h14,h15,h16⟩
    exact ⟨⟨⟨⟨⟨⟨⟨⟨⟨⟨⟨⟨⟨⟨⟨h1,by omega⟩,by omega⟩,h4⟩,by omega⟩,by omega⟩,by omega⟩,h8⟩,by omega⟩,
      by omega⟩,by omega⟩,h12⟩,by omega⟩,h14⟩,h15⟩,h16⟩

/-- The fields of section `i` that the managed reader sees as they are. -/
structure SectionFits (b : List UInt8) (i : ℕ) : Prop where
  virtualSize : PeFile.virtualSize b i < 2^31
  rva : PeFile.rva b i < 2^31
  rawSize : PeFile.rawSize b i < 2^31
  rawPointer : PeFile.rawPointer b i < 2^31

omit hd in
theorem PeSectionRules.fits {i : ℕ} (hs : PeSectionRules b i) (hi : PeImageRules b)
    (hb : b.length ≤ 2^28) : SectionFits b i := by
  have h1 := hs.inImage
  have h2 := hs.inFile
  have h3 := hi.imageSize.2.1
  rw [PeFile.extent] at h1
  exact ⟨by omega,by omega,by omega,by omega⟩

variable (hi : PeImageRules b)
include hi

theorem sectionBounds_fits {length : ℤ} {i : ℕ}
    (hs : sectionBounds h length (deliveredSection b i)) : SectionFits b i := by
  have hhs := intProperty_eq hi.fits.headersSize
  simp only [sectionBounds, deliveredSection, hd.sizeOfHeaders, hhs, Bool.and_eq_true, ge_iff_le,
    decide_eq_true_eq] at hs
  obtain ⟨⟨⟨⟨⟨⟨⟨⟨h1,h2⟩,-⟩,h4⟩,-⟩,-⟩,h7⟩,-⟩,-⟩ := hs
  refine ⟨?_,?_,?_,?_⟩
  · exact intProperty_small (n := PeFile.virtualSize b i) (by omega) (field_lt 4 b _)
  · exact intProperty_small (n := PeFile.rva b i) (by omega) (field_lt 4 b _)
  · exact intProperty_small (n := PeFile.rawSize b i) (by omega) (field_lt 4 b _)
  · exact intProperty_small (n := PeFile.rawPointer b i) (by omega) (field_lt 4 b _)

theorem sectionBounds_iff (hb : b.length ≤ 2^28) (i : ℕ) :
    sectionBounds h b.length (deliveredSection b i) ∧ sectionNote h i (deliveredSection b i) = [] ↔
      PeSectionRules b i := by
  suffices hfit : SectionFits b i → (sectionBounds h b.length (deliveredSection b i) ∧
      sectionNote h i (deliveredSection b i) = [] ↔ PeSectionRules b i) from
    ⟨fun hs => (hfit (sectionBounds_fits hd hi hs.1)).mp hs,fun hs => (hfit (hs.fits hi hb)).mpr hs⟩
  intro ⟨hvs,hva,hrs,hrp⟩
  have hnote : sectionNote h i (deliveredSection b i) = [] ↔
      PeFile.fileAlignment b ∣ PeFile.rawSize b i := by
    simp only [sectionNote, deliveredSection, hd.fileAlignment, intProperty_eq hrs,
      intProperty_eq hi.fits.fileAlignment, ne_eq, tmod_eq_zero_iff]
    split <;> simp_all
  rw [hnote]
  simp only [sectionBounds, deliveredSection, hd.sizeOfHeaders, hd.sectionAlignment, hd.sizeOfImage,
    hd.fileAlignment, intProperty_eq hvs, intProperty_eq hva, intProperty_eq hrs,
    intProperty_eq hrp, intProperty_eq hi.fits.headersSize, intProperty_eq hi.fits.imageSize,
    intProperty_eq hi.fits.sectionAlignment, intProperty_eq hi.fits.fileAlignment,
    Bool.and_eq_true, Bool.or_eq_true, decide_eq_true_eq, tmod_eq_zero_iff]
  constructor
  · rintro ⟨⟨⟨⟨⟨⟨⟨⟨⟨h1,h2⟩,h3⟩,h4⟩,h5⟩,h6⟩,h7⟩,h8⟩,h9⟩,h10⟩
    refine ⟨?_,h5,by omega,?_,by omega,?_⟩
    · rw [PeFile.extent]
      omega
    · rw [PeFile.extent]
      omega
    · intro hpos
      rcases h9 with h9 | ⟨h9,h11⟩
      · omega
      · exact ⟨by omega,h11,h10⟩
  · rintro ⟨h1,h2,h3,h4,h5,h6⟩
    rw [PeFile.extent] at h1 h4
    by_cases hzero : PeFile.rawSize b i = 0
    · rw [hzero]
      exact ⟨⟨⟨⟨⟨⟨⟨⟨⟨by omega,by omega⟩,by omega⟩,by omega⟩,h2⟩,by omega⟩,by omega⟩,by omega⟩,
        .inl rfl⟩,dvd_zero _⟩
    · obtain ⟨h7,h8,h9⟩ := h6 (Nat.pos_of_ne_zero hzero)
      exact ⟨⟨⟨⟨⟨⟨⟨⟨⟨by omega,by omega⟩,by omega⟩,by omega⟩,h2⟩,by omega⟩,by omega⟩,by omega⟩,
        .inr ⟨by omega,h8⟩⟩,h9⟩

omit hd hi in
theorem not_overlap_iff (a an b bn : ℕ) : overlap (a:ℤ) an b bn = false ↔
    Disjoint (Set.Ico a (a+an)) (Set.Ico b (b+bn)) := by
  rw [Set.Ico_disjoint_Ico, ← Bool.not_eq_true]
  simp only [overlap, Bool.and_eq_true, decide_eq_true_eq]
  omega

omit hd hi in
theorem not_collide_delivered_iff {i j : ℕ} (hs : SectionFits b i) (ht : SectionFits b j) :
    collide (deliveredSection b i) (deliveredSection b j) = false ↔
      Disjoint (PeFile.memory b i) (PeFile.memory b j) ∧
        Disjoint (PeFile.raw b i) (PeFile.raw b j) := by
  have hmax (m n : ℕ) : max (m:ℤ) n = (max m n : ℕ) := by omega
  simp only [collide, deliveredSection, intProperty_eq hs.virtualSize, intProperty_eq hs.rva,
    intProperty_eq hs.rawSize, intProperty_eq hs.rawPointer, intProperty_eq ht.virtualSize,
    intProperty_eq ht.rva, intProperty_eq ht.rawSize, intProperty_eq ht.rawPointer,
    Bool.or_eq_false_iff, hmax, not_overlap_iff]
  exact Iff.rfl

/-- The managed reader accepts without notes exactly when the section rules of the grammar hold. -/
theorem sections_iff (hb : b.length ≤ 2^28) :
    validateSections h b.length [] h.sectionHeaders [] = .ok [] ↔
      ∀ i < PeFile.sectionCount b, Placed b i := by
  have hrec := validateSections_recognizes h b.length [] h.sectionHeaders []
  rw [hrec.ok_iff, hd.sectionHeaders, List.pairwise_iff_getElem, eq_comm, List.nil_append,
    List.flatten_eq_nil_iff]
  simp only [List.forall_mem_map, List.mem_range, List.mem_mapIdx, List.length_map,
    List.length_range, List.getElem_map, List.getElem_range, List.length_nil, Nat.zero_add,
    List.not_mem_nil, IsEmpty.forall_iff, implies_true, true_and, forall_exists_index]
  have hrules := sectionBounds_iff hd hi hb
  constructor
  · rintro ⟨⟨hbounds,hpairs⟩,hnotes⟩ i hlt
    have hrule (i : ℕ) (hlt : i < PeFile.sectionCount b) : PeSectionRules b i :=
      (hrules i).mp ⟨hbounds i hlt,hnotes _ i hlt rfl⟩
    refine ⟨hrule i hlt,fun j hji => ?_⟩
    have hj := hrule j (hji.trans hlt)
    exact (not_collide_delivered_iff ((hrule i hlt).fits hi hb) (hj.fits hi hb)).mp
      (hpairs j i (hji.trans hlt) hlt hji)
  · intro hplaced
    refine ⟨⟨fun i hlt => ((hrules i).mpr (hplaced i hlt).1).1,fun j i hj hlt hji => ?_⟩,?_⟩
    · exact (not_collide_delivered_iff ((hplaced i hlt).1.fits hi hb)
        ((hplaced j hj).1.fits hi hb)).mpr ((hplaced i hlt).2 j hji)
    · rintro _ i hlt rfl
      exact ((hrules i).mpr (hplaced i hlt).1).2

end Delivered

/-! `Offset` as a search for the only matching section. -/
section Offset

def managedHolds (rva : BitVec 32) (size : ℤ) (s : ManagedSection) : Bool :=
  s.virtualAddress ≤ rva.toNat && rva.toNat-s.virtualAddress+size ≤ s.sizeOfRawData

def managedOffset (rva : BitVec 32) (s : ManagedSection) : ℤ :=
  s.pointerToRawData+(rva.toNat-s.virtualAddress)

theorem offsetLoop_ok_iff (rva : BitVec 32) (size : ℤ) (xs : List ManagedSection)
    (found : Option ℤ) (v : ℤ) : offsetLoop rva size xs found = .ok (some v) ↔
      UniqueMatch.scan (managedHolds rva size) (managedOffset rva) xs found = some v := by
  induction xs generalizing found with
  | nil => exact ⟨Except.ok.inj,congrArg Except.ok⟩
  | cons s xs ih =>
    rw [offsetLoop, UniqueMatch.scan]
    have hholds : managedHolds rva size s ↔
        ¬(rva.toNat-s.virtualAddress < 0 ∨ rva.toNat-s.virtualAddress+size > s.sizeOfRawData) := by
      simp only [managedHolds, Bool.and_eq_true, decide_eq_true_eq]
      omega
    by_cases hm : managedHolds rva size s
    · rw [if_pos hm, if_neg (hholds.mp hm)]
      cases found with
      | none => exact ih _
      | some r => exact iff_of_false (fun h => by cases h) (fun h => by cases h)
    · rw [if_neg hm, if_pos (not_not.mp (mt hholds.mpr hm))]
      exact ih found

theorem offset_ok_iff (h : ManagedHeaders) (rva : BitVec 32) (size v : ℤ) :
    offset h rva size = .ok v ↔ (size > 0 ∧ rva.toNat+size ≤ h.sizeOfImage%2^64) ∧
      UniqueMatch.only (managedHolds rva size) (managedOffset rva) h.sectionHeaders = some v := by
  rw [← UniqueMatch.scan_eq_only, ← offsetLoop_ok_iff, offset, bind_ok_iff]
  simp only [refuseIf_ok_iff, Bool.not_eq_true', Bool.not_eq_false, Bool.and_eq_true,
    decide_eq_true_eq, bind_ok_iff]
  constructor
  · rintro ⟨-,hguard,found,hfound,hv⟩
    cases found with
    | none => cases hv
    | some w =>
      cases hv
      exact ⟨hguard,hfound⟩
  · rintro ⟨hguard,hfound⟩
    exact ⟨⟨⟩,hguard,some v,hfound,rfl⟩

end Offset

/-- What a native executable has to be besides its layout. -/
structure NativeExecutable (b : List UInt8) : Prop where
  dosSignature : field 2 b 0 = 0x5a4d
  peOffset : 64 ≤ PeFile.pe b
  peSignature : field 4 b (PeFile.pe b) = 0x4550
  machine : PeFile.machine b = 0x14c
  magic : PeFile.magic b = 0x10b
  executableImage : (PeFile.characteristics b).testBit 1
  notDll : ¬(PeFile.characteristics b).testBit 13
  noClr : 14 < PeFile.directories b → PeFile.clrRva b = 0 ∧ PeFile.clrSize b = 0

section Agreement
variable {b : List UInt8} {h : ManagedHeaders} (hd : h.Delivered b)
include hd

theorem validateLayout_ok_iff (hb : b.length ≤ 2^28) : validateLayout h b.length = .ok [] ↔
    ((1 ≤ PeFile.sectionCount b ∧ PeFile.sectionCount b ≤ 96) ∧
      (PeFile.directories b ≤ 16 ∧ 96+8*PeFile.directories b ≤ PeFile.optionalSize b) ∧
      PeFile.optionalSize b < 2^15) ∧
    PeImageRules b ∧ ∀ i < PeFile.sectionCount b, Placed b i := by
  rw [validateLayout, bind_ok_iff]
  simp only [bind_ok_iff, refuseIf_ok_iff, Bool.not_eq_true', Bool.not_eq_false, exists_const_iff,
    headerLayout_iff hd]
  constructor
  · rintro ⟨-,hheader,-,himage,hsections⟩
    have hi := (imageLayout_iff hd hheader.2.2).mp himage
    exact ⟨hheader,hi,(sections_iff hd hi hb).mp hsections⟩
  · rintro ⟨hheader,hi,hplaced⟩
    exact ⟨⟨⟨⟩⟩,hheader,⟨⟨⟩⟩,(imageLayout_iff hd hheader.2.2).mpr hi,(sections_iff hd hi hb).mpr hplaced⟩

omit hd in
theorem delivered_match (hg : PeGrammar b) (rva : BitVec 32) (size : ℕ) {i : ℕ}
    (hi : i < PeFile.sectionCount b) : managedHolds rva size (deliveredSection b i) =
      sectionHolds rva size (sectionOf b i) ∧
    (managedHolds rva size (deliveredSection b i) → managedOffset rva (deliveredSection b i) =
      (PeFile.rawPointer b i+(rva.toNat-PeFile.rva b i) : ℕ)) := by
  have hfit := (hg.sections i hi).fits hg.image hg.coff.size.2
  have hrva : (sectionOf b i).rva.toNat = PeFile.rva b i := word32_toNat b _
  have hraw : (sectionOf b i).rawSize.toNat = PeFile.rawSize b i := word32_toNat b _
  constructor
  · rw [Bool.eq_iff_iff, sectionHolds_iff, hrva, hraw]
    simp only [managedHolds, deliveredSection, intProperty_eq hfit.rva, intProperty_eq hfit.rawSize,
      Bool.and_eq_true, decide_eq_true_eq]
    omega
  · intro hm
    simp only [managedHolds, managedOffset, deliveredSection, intProperty_eq hfit.rva,
      intProperty_eq hfit.rawSize, intProperty_eq hfit.rawPointer, Bool.and_eq_true,
      decide_eq_true_eq] at hm ⊢
    omega

/-- `Offset` and `raw_offset` give the same answer for every range of a parsed image. -/
theorem offset_eq_rawOffset (t : Target) (hg : PeGrammar b) (rva : BitVec 32) {size : ℕ}
    (hs : 1 ≤ size) (v : ℤ) : offset h rva size = .ok v ↔
      ∃ n : ℕ, rawOffset t (layoutOf b) rva size = some n ∧ v = n := by
  have hsearch : UniqueMatch.only (managedHolds rva size) (managedOffset rva) h.sectionHeaders =
      (rawOffset t (layoutOf b) rva size).map Nat.cast := by
    rw [rawOffset_layoutOf hg t rva hs, ← UniqueMatch.only_comp, hd.sectionHeaders,
      UniqueMatch.only_map]
    refine UniqueMatch.only_congr (fun i hi => ?_) fun i hi hm => ?_
    · exact (delivered_match hg rva size (List.mem_range.mp hi)).1
    · exact (delivered_match hg rva size (List.mem_range.mp hi)).2 hm
  rw [offset_ok_iff, hsearch, Option.map_eq_some_iff]
  constructor
  · rintro ⟨-,n,hn,rfl⟩
    exact ⟨n,hn,rfl⟩
  · rintro ⟨n,hn,rfl⟩
    obtain ⟨i,hi,hlow,hhigh,-⟩ := (rawOffset_eq_some_iff hg t rva hs).mp hn
    have hinside := (hg.sections i hi).inImage
    have hextent : PeFile.rawSize b i ≤ PeFile.extent b i := le_max_right _ _
    have hsize : h.sizeOfImage%2^64 = PeFile.imageSize b := by
      have hfit := hg.image.fits.imageSize
      rw [hd.sizeOfImage, intProperty_eq hfit]
      omega
    refine ⟨⟨by omega,?_⟩,n,hn,rfl⟩
    rw [hsize]
    omega

omit hd in
/-- The last test of `Executable`, on a section with fields the reader sees as they are. -/
theorem deliveredExecutable_iff {i : ℕ} (hfit : SectionFits b i) (rva : BitVec 32) :
    ((deliveredSection b i).virtualAddress ≤ rva.toNat &&
      rva.toNat-(deliveredSection b i).virtualAddress < (deliveredSection b i).sizeOfRawData &&
      (deliveredSection b i).sectionCharacteristics &&& 0x20000000 ≠ 0) ↔
    PeFile.rva b i ≤ rva.toNat ∧ rva.toNat < PeFile.rva b i+PeFile.rawSize b i ∧
      (PeFile.sectionCharacteristics b i).testBit 29 := by
  have hchars : (deliveredSection b i).sectionCharacteristics.toNat =
      PeFile.sectionCharacteristics b i := word32_toNat b _
  have hbit : (deliveredSection b i).sectionCharacteristics &&& 0x20000000 = 0 ↔
      (PeFile.sectionCharacteristics b i).testBit 29 = false :=
    (and_bit_eq_zero_iff (i := 29) (by decide) _).trans (by rw [hchars])
  simp only [Bool.and_eq_true, decide_eq_true_eq, ne_eq, hbit, Bool.not_eq_false, and_assoc]
  simp only [deliveredSection, intProperty_eq hfit.rva, intProperty_eq hfit.rawSize]
  refine and_congr (by omega) (and_congr_left fun _ => ?_)
  omega

/-- `Executable` accepts the entry point of every image of the grammar. -/
theorem executable_of_grammar (hg : PeGrammar b) :
    executable h (layoutOf b).entryRva = .ok () := by
  have hentry : (layoutOf b).entryRva.toNat = PeFile.entryRva b := word32_toNat b _
  obtain ⟨i,hi,hlow,hhigh,hbit⟩ := hg.entry
  have hheaders := hg.image.headersSize.1
  have hafter := (hg.sections i hi).afterHeaders
  have hfit := (hg.sections i hi).fits hg.image hg.coff.size.2
  have hzero : ¬(layoutOf b).entryRva = 0 := by
    rw [word_eq_zero_iff, hentry]
    omega
  have hraw := (rawOffset_eq_some_iff hg .x64 (layoutOf b).entryRva le_rfl).mpr
    ⟨i,hi,by omega,by omega,rfl⟩
  have hv := (offset_eq_rawOffset hd .x64 hg (layoutOf b).entryRva le_rfl _).mpr ⟨_,hraw,rfl⟩
  rw [executable, bind_ok_iff]
  refine ⟨⟨⟩,refuseIf_ok_iff.mpr hzero,bind_ok_iff.mpr ⟨_,hv,refuseIf_ok_iff.mpr ?_⟩⟩
  rw [hd.sectionHeaders, Bool.not_eq_true', Bool.not_eq_false, List.any_eq_true]
  refine ⟨deliveredSection b i,List.mem_map_of_mem (List.mem_range.mpr hi),?_⟩
  exact (deliveredExecutable_iff hfit _).mpr ⟨by omega,by omega,hbit⟩

/-- What `Executable` accepts lies in the raw part of an executable section. -/
theorem executable_section {rva : BitVec 32} (hb : b.length ≤ 2^28) (hi : PeImageRules b)
    (hplaced : ∀ i < PeFile.sectionCount b, Placed b i) (he : executable h rva = .ok ()) :
    ∃ i < PeFile.sectionCount b, PeFile.rva b i ≤ rva.toNat ∧
      rva.toNat < PeFile.rva b i+PeFile.rawSize b i ∧
      (PeFile.sectionCharacteristics b i).testBit 29 := by
  rw [executable, bind_ok_iff] at he
  obtain ⟨-,-,he⟩ := he
  rw [bind_ok_iff] at he
  obtain ⟨-,-,he⟩ := he
  rw [refuseIf_ok_iff, hd.sectionHeaders, Bool.not_eq_true', Bool.not_eq_false,
    List.any_eq_true] at he
  obtain ⟨s,hs,hexec⟩ := he
  obtain ⟨i,hmem,rfl⟩ := List.mem_map.mp hs
  have hlt := List.mem_range.mp hmem
  exact ⟨i,hlt,(deliveredExecutable_iff ((hplaced i hlt).1.fits hi hb) rva).mp hexec⟩

end Agreement

/-- The native reader and the managed one accept the same images, when the size of the
optional header fits the managed property, and map every range alike. -/
theorem pe_readers_agree (t : Target) {b : List UInt8} {h : ManagedHeaders}
    (hsize : 64 ≤ b.length ∧ b.length ≤ maxModuleBytes) (hd : h.Delivered b) :
    (∀ l, PeFile.optionalSize b ≤ 32767 → parsePe32 t b = some ⟨.none,l⟩ →
      validateLayout h b.length = .ok [] ∧ executable h l.entryRva = .ok () ∧
      ∀ (rva : BitVec 32) (size : ℕ), 1 ≤ size →
        (∀ v, offset h rva size = .ok v ↔ ∃ n : ℕ, rawOffset t l rva size = some n ∧ v = n) ∧
        ((∃ e, offset h rva size = .error e) ↔ rawOffset t l rva size = none)) ∧
    (NativeExecutable b → validateLayout h b.length = .ok [] →
      executable h (.ofNat 32 (PeFile.entryRva b)) = .ok () →
        ∃ l, parsePe32 t b = some ⟨.none,l⟩) := by
  have hb : b.length ≤ 2^28 := hsize.2.trans (by decide)
  constructor
  · intro l hshort hp
    obtain ⟨hg,rfl⟩ := (parsePe32_accepts_iff t).mp hp
    refine ⟨?_,executable_of_grammar hd hg,fun rva size hs => ?_⟩
    · refine (validateLayout_ok_iff hd hb).mpr ⟨⟨hg.coff.sectionCount,hg.optional.directories,?_⟩,
        hg.image,fun i hi => ⟨hg.sections i hi,hg.disjoint i hi⟩⟩
      omega
    · have hok := offset_eq_rawOffset hd t hg rva hs
      refine ⟨hok,?_⟩
      cases ho : offset h rva size with
      | ok v =>
        obtain ⟨n,hn,-⟩ := (hok v).mp ho
        simp [hn]
      | error e =>
        cases hr : rawOffset t (layoutOf b) rva size with
        | none => simp
        | some n => exact absurd (ho.symm.trans ((hok n).mpr ⟨n,hr,rfl⟩)) nofun
  · intro hn hv he
    obtain ⟨⟨hcount,hdirs,-⟩,hi,hplaced⟩ := (validateLayout_ok_iff hd hb).mp hv
    have hentry := executable_section hd hb hi hplaced he
    rw [show (BitVec.ofNat 32 (PeFile.entryRva b)).toNat = PeFile.entryRva b from
      word32_toNat b _] at hentry
    have htable : PeFile.table b = PeFile.pe b+24+PeFile.optionalSize b := rfl
    have hoptional : PeFile.optionalHeader b = PeFile.pe b+24 := rfl
    obtain ⟨-,-,hinFile,-,htableEnd⟩ := hi.headersSize
    have hcoff : PeCoffRules b := ⟨⟨hsize.1,hb⟩,hn.dosSignature,⟨hn.peOffset,by omega⟩,
      hn.peSignature,hn.machine,hcount,hn.executableImage,hn.notDll⟩
    have hopt : PeOptionalRules b :=
      ⟨⟨by omega,by omega⟩,hn.magic,hdirs,hn.noClr,by omega⟩
    exact ⟨layoutOf b,(parsePe32_accepts_iff t).mpr ⟨⟨hcoff,hopt,hi,fun i hlt => (hplaced i hlt).1,
      fun i hlt => (hplaced i hlt).2,hentry⟩,rfl⟩⟩

theorem pe_readers_agree_small :
    validateLayout (deliveredHeaders smallPe) smallPe.length = .ok [] := by
  have hsize : 64 ≤ smallPe.length ∧ smallPe.length ≤ maxModuleBytes := by
    rw [length_smallPe]
    decide
  exact ((pe_readers_agree .x86 hsize (deliveredHeaders_delivered smallPe)).1 (layoutOf smallPe)
    (by decide) (parsePe32_smallPe .x86)).1

/-- One with an optional header of 32768 bytes, which the managed property shows negative. -/
def wideHeaders : List UInt8 := plainHeaders 32768 40960 33280

def widePe : List UInt8 :=
  wideHeaders++(bytes 32672 0++(plainSection 36864 33280++bytes 896 0))

theorem length_wideHeaders : wideHeaders.length = 184 := by
  simp only [wideHeaders, plainHeaders, List.length_append, length_bytes]

theorem length_widePe : widePe.length = 33792 := by
  simp only [widePe, plainSection, List.length_append, length_bytes, length_wideHeaders]

/-- The fields of the headers are where the headers are. -/
theorem widePe_field {width p : ℕ} (h : p+width ≤ 184) :
    field width widePe p = field width wideHeaders p :=
  field_append_left (by rw [length_wideHeaders]; exact h) _

/-- The section header stands after the optional header. -/
theorem widePe_section_field {width p : ℕ} (h : p+width ≤ 40) :
    field width widePe (32856+p) = field width (plainSection 36864 33280) p := by
  have hlen : (plainSection 36864 33280).length = 40 := by
    simp only [plainSection, List.length_append, length_bytes]
  have hfront : (wideHeaders++bytes 32672 0).length = 32856 := by
    rw [List.length_append, length_wideHeaders, length_bytes]
  rw [widePe, ← List.append_assoc, ← hfront, field_append_right, field_append_left]
  rw [hlen]
  exact h

/-- What the headers hold. -/
theorem wideHeaders_fields :
    field 2 wideHeaders 0 = 0x5a4d ∧ field 4 wideHeaders 60 = 64 ∧ field 4 wideHeaders 64 = 0x4550 ∧
    field 2 wideHeaders 68 = 0x14c ∧ field 2 wideHeaders 70 = 1 ∧ field 2 wideHeaders 84 = 32768 ∧
    field 2 wideHeaders 86 = 0x102 ∧ field 2 wideHeaders 88 = 0x10b ∧
    field 4 wideHeaders 104 = 36864 ∧ field 4 wideHeaders 116 = 0x400000 ∧
    field 4 wideHeaders 120 = 4096 ∧ field 4 wideHeaders 124 = 512 ∧
    field 4 wideHeaders 144 = 40960 ∧ field 4 wideHeaders 148 = 33280 ∧
    field 4 wideHeaders 180 = 0 := by
  decide

theorem wideSection_fields :
    field 4 (plainSection 36864 33280) 8 = 512 ∧ field 4 (plainSection 36864 33280) 12 = 36864 ∧
    field 4 (plainSection 36864 33280) 16 = 512 ∧ field 4 (plainSection 36864 33280) 20 = 33280 ∧
    field 4 (plainSection 36864 33280) 36 = 0x60000020 := by
  decide

theorem widePe_pe : PeFile.pe widePe = 64 :=
  (widePe_field (by decide)).trans wideHeaders_fields.2.1

theorem widePe_optionalHeader : PeFile.optionalHeader widePe = 88 := by
  rw [PeFile.optionalHeader, widePe_pe]

theorem widePe_optionalSize : PeFile.optionalSize widePe = 32768 := by
  rw [PeFile.optionalSize, widePe_pe, widePe_field (by decide)]
  exact wideHeaders_fields.2.2.2.2.2.1

theorem widePe_sectionCount : PeFile.sectionCount widePe = 1 := by
  rw [PeFile.sectionCount, widePe_pe, widePe_field (by decide)]
  exact wideHeaders_fields.2.2.2.2.1

theorem widePe_table : PeFile.table widePe = 32856 := by
  rw [PeFile.table, widePe_optionalHeader, widePe_optionalSize]

theorem widePe_header (p : ℕ) : PeFile.header widePe 0+p = 32856+p := by
  rw [PeFile.header, widePe_table]

theorem widePe_coff : PeCoffRules widePe := by
  constructor
  all_goals
    simp (disch := decide) only [length_widePe, widePe_pe, PeFile.machine, widePe_sectionCount,
      PeFile.characteristics, widePe_field, wideHeaders_fields, Nat.reduceAdd]
    try decide

theorem widePe_optional : PeOptionalRules widePe := by
  constructor
  all_goals
    simp (disch := decide) only [length_widePe, widePe_optionalHeader, widePe_optionalSize,
      widePe_table, widePe_sectionCount, PeFile.magic, PeFile.directories, widePe_field,
      wideHeaders_fields, Nat.reduceAdd]
  · decide
  · decide
  · intro h
    exact absurd h (by decide)
  · decide

theorem widePe_imageFields :
    PeFile.entryRva widePe = 36864 ∧ PeFile.imageBase widePe = 0x400000 ∧
    PeFile.sectionAlignment widePe = 4096 ∧ PeFile.fileAlignment widePe = 512 ∧
    PeFile.imageSize widePe = 40960 ∧ PeFile.headersSize widePe = 33280 := by
  simp (disch := decide) only [PeFile.entryRva, PeFile.imageBase, PeFile.sectionAlignment,
    PeFile.fileAlignment, PeFile.imageSize, PeFile.headersSize, widePe_optionalHeader,
    widePe_field, wideHeaders_fields, Nat.reduceAdd, and_self]

theorem widePe_sectionFields :
    PeFile.virtualSize widePe 0 = 512 ∧ PeFile.rva widePe 0 = 36864 ∧
    PeFile.rawSize widePe 0 = 512 ∧ PeFile.rawPointer widePe 0 = 33280 ∧
    PeFile.sectionCharacteristics widePe 0 = 0x60000020 := by
  simp (disch := decide) only [PeFile.virtualSize, PeFile.rva, PeFile.rawSize, PeFile.rawPointer,
    PeFile.sectionCharacteristics, widePe_header, widePe_section_field, wideSection_fields, and_self]

theorem widePe_image : PeImageRules widePe := by
  constructor
  all_goals
    simp only [length_widePe, widePe_table, widePe_sectionCount, widePe_imageFields]
  · exact ⟨⟨9,rfl⟩,by decide⟩
  · exact ⟨⟨12,rfl⟩,by decide⟩
  all_goals decide

theorem widePe_section : PeSectionRules widePe 0 := by
  constructor
  all_goals
    simp only [PeFile.extent, length_widePe, widePe_imageFields, widePe_sectionFields]
    decide

theorem widePe_grammar : PeGrammar widePe where
  coff := widePe_coff
  optional := widePe_optional
  image := widePe_image
  sections i hi := by
    rw [widePe_sectionCount] at hi
    rw [show i = 0 by omega]
    exact widePe_section
  disjoint i hi j hj := by
    rw [widePe_sectionCount] at hi
    omega
  entry := by
    refine ⟨0,by rw [widePe_sectionCount]; decide,?_⟩
    simp only [widePe_imageFields, widePe_sectionFields]
    decide

/-- The native reader takes it, and the managed one does not. -/
theorem wide_optional_header_disagrees :
    (64 ≤ widePe.length ∧ widePe.length ≤ maxModuleBytes) ∧
    (deliveredHeaders widePe).Delivered widePe ∧
    parsePe32 .x86 widePe = some ⟨.none,layoutOf widePe⟩ ∧
    validateLayout (deliveredHeaders widePe) widePe.length = .error "startup_header_layout" := by
  have hd := deliveredHeaders_delivered widePe
  refine ⟨?_,hd,(parsePe32_accepts_iff .x86).mpr ⟨widePe_grammar,rfl⟩,?_⟩
  · rw [length_widePe]
    decide
  · have hlayout : headerLayout (deliveredHeaders widePe) = false := by
      rw [← Bool.not_eq_true, headerLayout_iff hd, widePe_optionalSize]
      omega
    rw [validateLayout, hlayout]
    rfl

end Saex
