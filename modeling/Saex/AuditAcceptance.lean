import Saex.BootstrapAudit
import Saex.ImageRelocation

/-! What the audit has found out about an image when it accepts: the sections, the three
exports and the fixups are those of the file, as the loader sees them. -/
namespace Saex.BootstrapAudit
open LittleEndian Recognizers StoppingRuns Patches

variable {data : List UInt8}

theorem require_ok_iff {ok : Prop} [Decidable ok] {why : String} {a : Unit} :
    require ok why = .ok a ↔ ok := by
  rw [require, refuseIf_ok_iff, not_not]

theorem number_ok_iff {width p v : ℕ} :
    number data width p = .ok v ↔ p+width ≤ data.length ∧ field width data p = v := by
  unfold number
  rw [bind_ok_iff]
  simp only [require_ok_iff]
  exact ⟨fun ⟨_,hfits,hv⟩ => ⟨hfits,Except.ok.inj hv⟩,fun ⟨hfits,hv⟩ => ⟨⟨⟩,hfits,congrArg _ hv⟩⟩

theorem directory_ok {optional index : ℕ} {found : ℕ × ℕ}
    (h : directory data optional index = .ok found) :
    found = (field 4 data (optional+96+index*8),field 4 data (optional+100+index*8)) := by
  obtain ⟨rva,hrva,h⟩ := bind_ok_iff.mp h
  obtain ⟨size,hsize,h⟩ := bind_ok_iff.mp h
  cases h
  rw [(number_ok_iff.mp hrva).2, (number_ok_iff.mp hsize).2]

theorem headers_ok {found : ℕ × ℕ × ℕ} (h : headers data = .ok found) :
    found = (PeFile.optionalHeader data,PeFile.table data,PeFile.sectionCount data) := by
  unfold headers at h
  obtain ⟨_,_,h⟩ := bind_ok_iff.mp h
  obtain ⟨pe,hpe,h⟩ := bind_ok_iff.mp h
  obtain ⟨_,_,h⟩ := bind_ok_iff.mp h
  obtain ⟨_,_,h⟩ := bind_ok_iff.mp h
  obtain ⟨_,_,h⟩ := bind_ok_iff.mp h
  obtain ⟨_,_,h⟩ := bind_ok_iff.mp h
  obtain ⟨_,_,h⟩ := bind_ok_iff.mp h
  obtain ⟨_,_,h⟩ := bind_ok_iff.mp h
  obtain ⟨count,hcount,h⟩ := bind_ok_iff.mp h
  obtain ⟨_,_,h⟩ := bind_ok_iff.mp h
  obtain ⟨_,_,h⟩ := bind_ok_iff.mp h
  obtain ⟨_,_,h⟩ := bind_ok_iff.mp h
  obtain ⟨optionalSize,hsize,h⟩ := bind_ok_iff.mp h
  obtain ⟨_,_,h⟩ := bind_ok_iff.mp h
  obtain ⟨_,_,h⟩ := bind_ok_iff.mp h
  obtain ⟨_,_,h⟩ := bind_ok_iff.mp h
  cases h
  have hpe := (number_ok_iff.mp hpe).2
  have hcount := (number_ok_iff.mp hcount).2
  have hsize := (number_ok_iff.mp hsize).2
  subst hpe
  subst hcount
  subst hsize
  rfl

/-- What the audit keeps of section `i`. -/
def auditedSection (data : List UInt8) (i : ℕ) : AuditedSection where
  rva := PeFile.rva data i
  rawSize := PeFile.rawSize data i
  raw := PeFile.rawPointer data i
  executable := PeFile.sectionCharacteristics data i &&& 0x20000000 ≠ 0

theorem sectionEntry_ok {i : ℕ} {s : AuditedSection}
    (h : sectionEntry data (PeFile.table data+i*40) = .ok s) :
    s = auditedSection data i ∧
      PeFile.rawPointer data i+PeFile.rawSize data i ≤ data.length := by
  unfold sectionEntry at h
  obtain ⟨_,_,h⟩ := bind_ok_iff.mp h
  obtain ⟨rva,hrva,h⟩ := bind_ok_iff.mp h
  obtain ⟨rawSize,hrawSize,h⟩ := bind_ok_iff.mp h
  obtain ⟨raw,hraw,h⟩ := bind_ok_iff.mp h
  obtain ⟨_,hfits,h⟩ := bind_ok_iff.mp h
  obtain ⟨flags,hflags,h⟩ := bind_ok_iff.mp h
  cases h
  rw [number_ok_iff, mul_comm i 40] at hrva hrawSize hraw hflags
  obtain ⟨_,rfl⟩ := hrva
  obtain ⟨_,rfl⟩ := hrawSize
  obtain ⟨_,rfl⟩ := hraw
  obtain ⟨_,rfl⟩ := hflags
  exact ⟨rfl,require_ok_iff.mp hfits⟩

/-- The table the audit looks addresses up in. -/
def auditedTable (data : List UInt8) : List AuditedSection :=
  (List.range (PeFile.sectionCount data)).map (auditedSection data)

theorem sections_ok {table : List AuditedSection}
    (h : sections data (PeFile.table data) (PeFile.sectionCount data) = .ok table) :
    table = auditedTable data ∧ ∀ i < PeFile.sectionCount data,
      PeFile.rawPointer data i+PeFile.rawSize data i ≤ data.length := by
  obtain ⟨htable,hfits⟩ := of_mapM_ok (fun _ _ => sectionEntry_ok) h
  exact ⟨htable,fun i hi => hfits i (List.mem_range.mpr hi)⟩

theorem offset_ok {table : List AuditedSection} {rva length p : ℕ}
    (h : offset table rva length = .ok p) :
    ∃ s ∈ table, (s.rva ≤ rva ∧ rva+length ≤ s.rva+s.rawSize) ∧ p = s.raw+rva-s.rva := by
  unfold offset at h
  split at h
  · rename_i p' honly
    obtain ⟨s,hs,hholds,hp⟩ := UniqueMatch.only_eq_some honly
    split at h
    · cases h
      simp only [holds, Bool.and_eq_true, decide_eq_true_eq] at hholds
      exact ⟨s,hs,hholds,hp.symm⟩
    · cases h
  · cases h

section Image
variable {image : ℕ → UInt8} (hmapped : Mapped data image)
include hmapped

/-- What the audit reads from the file is what stands in the image. -/
theorem offset_shows {rva length p : ℕ} (h : offset (auditedTable data) rva length = .ok p)
    (hfits : ∀ i < PeFile.sectionCount data,
      PeFile.rawPointer data i+PeFile.rawSize data i ≤ data.length) :
    (data.drop p).take length = cells image rva length := by
  obtain ⟨s,hs,hholds,rfl⟩ := offset_ok h
  obtain ⟨i,hi,rfl⟩ := List.mem_map.mp hs
  have hcount := List.mem_range.mp hi
  have hraw := hfits i hcount
  simp only [auditedSection] at hholds ⊢
  refine List.ext_getElem ?_ fun k h1 h2 => ?_
  · rw [List.length_take, List.length_drop, length_cells]
    omega
  · rw [length_cells] at h2
    simp only [List.getElem_take, List.getElem_drop, cells, List.getElem_map, List.getElem_range]
    have hcell := hmapped i hcount (rva-PeFile.rva data i+k) (by omega)
    rw [show rva+k = PeFile.rva data i+(rva-PeFile.rva data i+k) by omega, hcell,
      List.getD_eq_getElem _ _ (by omega)]
    congr 1
    omega

theorem rnum_shows {width rva v : ℕ} (h : rnum data (auditedTable data) width rva = .ok v)
    (hfits : ∀ i < PeFile.sectionCount data,
      PeFile.rawPointer data i+PeFile.rawSize data i ≤ data.length) :
    v = memoryField image width rva := by
  obtain ⟨p,hp,h⟩ := bind_ok_iff.mp h
  rw [← (number_ok_iff.mp h).2, field, offset_shows hmapped hp hfits, memoryField]

end Image

/-! The exports. -/

/-- An export as it is first recorded. -/
structure Recorded (data : List UInt8) (entry : ExportEntry) : Prop where
  rva : entry.rva < 2^32
  bytes : ∃ p, offset (auditedTable data) entry.rva 20 = .ok p ∧
    entry.prefixHex = hex ((data.drop p).take 20)
  offsets : entry.highlowOffsets = []

theorem exportStep_ok {e : ExportDirectory} {found found' : Exports} {i : ℕ}
    (h : exportStep data (auditedTable data) e found i = .ok found') :
    ∃ name entry, Recorded data entry ∧
      found' = (found.1++[name],found.2.put name entry) := by
  unfold exportStep at h
  obtain ⟨_,_,h⟩ := bind_ok_iff.mp h
  obtain ⟨name,_,h⟩ := bind_ok_iff.mp h
  obtain ⟨_,_,h⟩ := bind_ok_iff.mp h
  obtain ⟨_,_,h⟩ := bind_ok_iff.mp h
  obtain ⟨target,htarget,h⟩ := bind_ok_iff.mp h
  obtain ⟨_,_,h⟩ := bind_ok_iff.mp h
  obtain ⟨_,_,h⟩ := bind_ok_iff.mp h
  obtain ⟨_,_,h⟩ := bind_ok_iff.mp h
  obtain ⟨p,hp,h⟩ := bind_ok_iff.mp h
  cases h
  obtain ⟨_,_,htarget⟩ := bind_ok_iff.mp htarget
  have hlt : target < 2^32 := (number_ok_iff.mp htarget).2 ▸ field_lt 4 data _
  exact ⟨name,_,⟨hlt,⟨p,hp,rfl⟩,rfl⟩,rfl⟩

/-- The three exports of the policy, each recorded once. -/
theorem exports_ok {optional : ℕ} {found : Exports}
    (h : exports data optional (auditedTable data) = .ok found) :
    (∀ x ∈ found.2.entries, Recorded data x.2) ∧ found.2.keys.Perm exportNames := by
  unfold exports at h
  obtain ⟨e,_,h⟩ := bind_ok_iff.mp h
  obtain ⟨found',hrun,h⟩ := bind_ok_iff.mp h
  obtain ⟨_,hnames,h⟩ := bind_ok_iff.mp h
  cases h
  have hnames := require_ok_iff.mp hnames
  have hinvariant : (∀ x ∈ found.2.entries, Recorded data x.2) ∧
      ∀ name, name ∈ found.2.keys ↔ name ∈ found.1 := by
    have hinduction := @run_ok_invariant _ _ _ (exportStep data (auditedTable data) e)
      (fun _ found => (∀ x ∈ found.2.entries, Recorded data x.2) ∧
        ∀ name, name ∈ found.2.keys ↔ name ∈ found.1)
    refine hinduction (fun _ found i found' hfound hstep => ?_) ⟨?_,?_⟩ (List.range 3) hrun
    · obtain ⟨name,entry,hentry,rfl⟩ := exportStep_ok hstep
      refine ⟨fun x hx => ?_,fun other => ?_⟩
      · obtain rfl | hx := Dictionary.mem_entries_put hx
        · exact hentry
        · exact hfound.1 x hx
      · rw [Dictionary.mem_keys_put, hfound.2, List.mem_append, List.mem_singleton, or_comm]
    · intro x hx
      cases hx
    · intro name
      rfl
  refine ⟨hinvariant.1,?_⟩
  rw [List.perm_ext_iff_of_nodup found.2.keys_nodup (by decide)]
  exact fun name => (hinvariant.2 name).trans ⟨hnames.1 name,hnames.2 name⟩

/-! The fixups. -/

/-- The fixups at `targets` that touch the twenty bytes from `rva` on, by their offset. -/
def innerOffsets (targets : List ℕ) (rva : ℕ) : List ℕ :=
  (targets.filter fun t => !(t+4 ≤ rva || t ≥ rva+20)).map (·-rva)

def noteFixups (targets : List ℕ) (entry : ExportEntry) : ExportEntry :=
  { entry with highlowOffsets := entry.highlowOffsets++innerOffsets targets entry.rva }

/-- A fixup that does not cut through the export. -/
def Whole (entry : ExportEntry) (target : ℕ) : Prop :=
  (target+4 ≤ entry.rva ∨ target ≥ entry.rva+20) ∨
    (entry.rva ≤ target ∧ target+4 ≤ entry.rva+20)

/-- What the loops over the directory have found after the fixups at `targets`. -/
structure Noted (before : Dictionary Text ExportEntry) (ts : List ℕ)
    (found : Relocations) : Prop where
  targets : found.1 = ts
  entries : found.2 = before.mapValues fun _ => noteFixups ts
  whole : ∀ x ∈ before.entries, ∀ t ∈ ts, Whole x.2 t

theorem noteFixups_append (ts us : List ℕ) (entry : ExportEntry) :
    noteFixups (ts++us) entry = noteFixups us (noteFixups ts entry) := by
  simp [noteFixups, innerOffsets, List.filter_append, List.map_append, List.append_assoc]

theorem noteFixups_singleton (t : ℕ) (entry : ExportEntry) :
    (if t+4 ≤ entry.rva ∨ t ≥ entry.rva+20 then entry
      else { entry with highlowOffsets := entry.highlowOffsets++[t-entry.rva] }) =
      noteFixups [t] entry := by
  unfold noteFixups innerOffsets
  split
  · rename_i hout
    rw [List.filter_cons_of_neg (by simp; omega)]
    simp
  · rename_i hin
    rw [List.filter_cons_of_pos (by simpa using hin)]
    simp

theorem Noted.start (entries : Dictionary Text ExportEntry) : Noted entries [] ([],entries) where
  targets := rfl
  entries := by simp [Dictionary.mapValues, noteFixups, innerOffsets]
  whole _ _ _ ht := absurd ht List.not_mem_nil

variable {optional : ℕ} {entries : Dictionary Text ExportEntry}

/-- A fixup is noted, and an entry that is only padding is passed over. -/
theorem relocationStep_ok {page v : ℕ} {targets : List ℕ} {found found' : Relocations}
    (hfound : Noted entries targets found)
    (h : relocationStep data optional page found v = .ok found') :
    Noted entries (targets++(highlowTarget page v).toList) found' := by
  have hkind : v >>> 12 = v/4096 := Nat.shiftRight_eq_div_pow v 12
  have hlow : v &&& 4095 = v%4096 := Nat.and_two_pow_sub_one_eq_mod v 12
  simp only [relocationStep, hkind, hlow] at h
  unfold highlowTarget
  by_cases hpadding : v/4096 = 0
  · rw [if_pos hpadding] at h
    cases h
    rw [if_neg (by omega), Option.toList_none, List.append_nil]
    exact hfound
  · rw [if_neg hpadding] at h
    obtain ⟨_,hhighlow,h⟩ := bind_ok_iff.mp h
    obtain ⟨_,_,h⟩ := bind_ok_iff.mp h
    obtain ⟨_,_,h⟩ := bind_ok_iff.mp h
    obtain ⟨_,hwhole,h⟩ := bind_ok_iff.mp h
    cases h
    rw [if_pos (require_ok_iff.mp hhighlow), Option.toList_some]
    have hwhole := require_ok_iff.mp hwhole
    obtain ⟨rfl,hentries,hbefore⟩ := hfound
    rw [hentries] at hwhole ⊢
    refine ⟨rfl,?_,?_⟩
    · rw [Dictionary.mapValues_mapValues]
      dsimp only
      congr 1
      funext _ entry
      rw [noteFixups_append]
      exact noteFixups_singleton _ (noteFixups found.1 entry)
    · intro x hx t ht
      obtain ht | ht := List.mem_append.mp ht
      · exact hbefore x hx t ht
      · rw [List.mem_singleton.mp ht]
        exact hwhole (noteFixups found.1 x.2) (List.mem_map.mpr
          ⟨(x.1,noteFixups found.1 x.2),List.mem_map.mpr ⟨x,hx,rfl⟩,rfl⟩)

/-! The loops over the directory, seen through any reader that the audit agrees with. -/
section Directory
variable {word : ℕ → ℕ → ℕ}
  (hword : ∀ width rva v, rnum data (auditedTable data) width rva = .ok v → v = word width rva)
include hword

theorem relocationBlock_ok {rva page size : ℕ} {targets : List ℕ} {found found' : Relocations}
    (hfound : Noted entries targets found)
    (h : relocationBlock data optional (auditedTable data) rva page size found = .ok found') :
    Noted entries (targets++(blockEntries word rva size).filterMap (highlowTarget page)) found' := by
  unfold blockEntries
  refine run_ok_invariant (fun past found => Noted entries (targets++
    (past.map fun i => word 2 (rva+i)).filterMap (highlowTarget page)) found)
    (fun past found i found' hpast hstep => ?_) (by simpa using hfound) _ h
  obtain ⟨v,hv,hstep⟩ := bind_ok_iff.mp hstep
  have hnext := relocationStep_ok hpast hstep
  rw [hword _ _ _ hv] at hnext
  have hone (v : ℕ) : [v].filterMap (highlowTarget page) = (highlowTarget page v).toList := by
    cases htarget : highlowTarget page v <;> simp [htarget]
  rw [List.map_append, List.filterMap_append, ← List.append_assoc, List.map_singleton, hone]
  exact hnext

/-- The loop over the blocks finds the targets that the blocks name. -/
theorem relocationLoop_ok {rva size rounds consumed : ℕ} {targets : List ℕ}
    {found found' : Relocations} (hfound : Noted entries targets found)
    (h : relocationLoop data optional (auditedTable data) rva size rounds consumed found =
      .ok found') :
    Noted entries (targets++highlowTargets word rounds (rva+consumed) (size-consumed)) found' := by
  induction rounds generalizing consumed targets found with
  | zero =>
    cases h
    simpa [highlowTargets] using hfound
  | succ rounds ih =>
    rw [relocationLoop] at h
    rw [highlowTargets]
    split at h
    · obtain ⟨_,hheader,h⟩ := bind_ok_iff.mp h
      obtain ⟨page,hpage,h⟩ := bind_ok_iff.mp h
      obtain ⟨blockSize,hsize,h⟩ := bind_ok_iff.mp h
      obtain ⟨_,hblock,h⟩ := bind_ok_iff.mp h
      obtain ⟨found'',hstep,h⟩ := bind_ok_iff.mp h
      have hheader := require_ok_iff.mp hheader
      have hblock := require_ok_iff.mp hblock
      have hpage := hword _ _ _ hpage
      have hsize := hword _ _ _ hsize
      have hnext := ih (relocationBlock_ok hword hfound hstep) h
      rw [← hpage, ← hsize, if_neg (by omega), ← List.append_assoc, Nat.sub_sub, Nat.add_assoc rva]
      exact hnext
    · cases h
      rw [if_pos (.inl (by omega)), List.append_nil]
      exact hfound

/-- The audit of the directory: it finds the fixups that the blocks name, and they are apart. -/
theorem relocations_ok {found : Relocations}
    (h : relocations data (PeFile.optionalHeader data) (auditedTable data) entries = .ok found) :
    Noted entries (directoryTargets word data) found ∧
      (directoryTargets word data).Pairwise (Apart 4) := by
  unfold relocations at h
  obtain ⟨⟨rva,size⟩,hdirectory,h⟩ := bind_ok_iff.mp h
  obtain ⟨_,_,h⟩ := bind_ok_iff.mp h
  obtain ⟨found',hloop,h⟩ := bind_ok_iff.mp h
  obtain ⟨_,hordered,h⟩ := bind_ok_iff.mp h
  cases h
  cases directory_ok hdirectory
  have hnoted := relocationLoop_ok hword (Noted.start entries) hloop
  have hordered := require_ok_iff.mp hordered
  refine ⟨hnoted,?_⟩
  have htrans : Trans (fun a b : ℕ => b ≥ a+4) (fun a b => b ≥ a+4) fun a b => b ≥ a+4 :=
    ⟨fun hab hbc => by omega⟩
  have hsorted : (found'.1.insertionSort (· ≤ ·)).Pairwise (Apart 4) :=
    (List.isChain_iff_pairwise.mp hordered).imp .inl
  have hperm := List.perm_insertionSort (· ≤ ·) found'.1
  have hapart : found'.1.Pairwise (Apart 4) := (hperm.pairwise_iff Apart.symm).mp hsorted
  rw [hnoted.targets, List.nil_append] at hapart
  exact hapart

end Directory

end Saex.BootstrapAudit
