import Mathlib.Data.Nat.BitIndices
import Saex.AuditAcceptance

/-! The audit, the loader and the native check agree: the bytes of an audited export in the
relocated image are those that `bootstrap_export_prefix` expects. -/
namespace Saex.BootstrapAudit
open LittleEndian Recognizers StoppingRuns Patches

/-! tools/bootstrap_load_artifact.py: the spec of an export from the report. -/

def hexByte (high low : Char) : UInt8 := (16*hexValue high+hexValue low).toUInt8

def hexBytes : Text → List UInt8
  | high :: low :: rest => hexByte high low :: hexBytes rest
  | _ => []

def exportSpec (preferredBase : ℕ) (entry : ExportEntry) : BootstrapExportSpec where
  rva := BitVec.ofNat 32 entry.rva
  prefixBytes := .ofFn fun i => (hexBytes entry.prefixHex).getD i 0
  preferredBase := BitVec.ofNat 32 preferredBase
  highlowMask := BitVec.ofNat 32 (entry.highlowOffsets.map (1 <<< ·)).sum

theorem hexValue_hexDigit {n : ℕ} (h : n < 16) : hexValue (hexDigit n) = n := by
  revert n
  decide

/-- The digits of the report stand for the bytes. -/
theorem hexBytes_hex (bs : List UInt8) : hexBytes (hex bs) = bs := by
  induction bs with
  | nil => rfl
  | cons b bs ih =>
    have hb := b.toNat_lt
    have hbyte : hexByte (hexDigit (b.toNat/16)) (hexDigit (b.toNat%16)) = b := by
      rw [hexByte, hexValue_hexDigit (by omega), hexValue_hexDigit (by omega), Nat.div_add_mod]
      exact UInt8.ofNat_toNat
    calc hexBytes (hex (b :: bs)) = hexByte (hexDigit (b.toNat/16)) (hexDigit (b.toNat%16)) ::
          hexBytes (hex bs) := rfl
      _ = b :: bs := by rw [hbyte, ih]

/-! What the report says of an export. -/

/-- The export as the report has it. -/
def reported (targets : List ℕ) (entry : ExportEntry) : ExportEntry :=
  { entry with highlowOffsets := (innerOffsets targets entry.rva).insertionSort (· ≤ ·) }

section Offsets
variable {targets : List ℕ} {entry : ExportEntry}

theorem mem_innerOffsets {rva o : ℕ} : o ∈ innerOffsets targets rva ↔
    ∃ t ∈ targets, ¬(t+4 ≤ rva ∨ t ≥ rva+20) ∧ t-rva = o := by
  simp only [innerOffsets, List.mem_map, List.mem_filter, Bool.not_eq_true', Bool.or_eq_false_iff,
    decide_eq_false_iff_not, not_or, and_assoc]

/-- A whole fixup inside the export is found again at its offset. -/
theorem mem_reported_offsets (hwhole : ∀ t ∈ targets, Whole entry t) {o : ℕ} :
    o ∈ (reported targets entry).highlowOffsets ↔ entry.rva+o ∈ targets ∧ o ≤ 16 := by
  rw [reported, List.mem_insertionSort, mem_innerOffsets]
  constructor
  · intro ⟨t,ht,hin,ho⟩
    obtain hout | hinside := hwhole t ht
    · exact absurd hout hin
    · rw [show entry.rva+o = t by omega]
      exact ⟨ht,by omega⟩
  · intro ⟨ht,ho⟩
    exact ⟨entry.rva+o,ht,by omega,by omega⟩

theorem reported_offsets_nodup (hapart : targets.Pairwise (Apart 4))
    (hwhole : ∀ t ∈ targets, Whole entry t) : (reported targets entry).highlowOffsets.Nodup := by
  have hnodup : targets.Nodup := hapart.imp fun h heq => by
    unfold Apart at h
    omega
  rw [reported, (List.perm_insertionSort _ _).nodup_iff, innerOffsets]
  refine (hnodup.filter _).map_on fun t ht u hu htu => ?_
  simp only [List.mem_filter, Bool.not_eq_true', Bool.or_eq_false_iff,
    decide_eq_false_iff_not] at ht hu
  have ht' := hwhole t ht.1
  have hu' := hwhole u hu.1
  unfold Whole at ht' hu'
  omega

/-- The mask of the spec says which offsets there are. -/
theorem reported_records (preferredBase : ℕ) (hapart : targets.Pairwise (Apart 4))
    (hwhole : ∀ t ∈ targets, Whole entry t) :
    Records (exportSpec preferredBase (reported targets entry))
      (reported targets entry).highlowOffsets := by
  have hnodup := reported_offsets_nodup hapart hwhole
  have hmem {o : ℕ} := mem_reported_offsets (o := o) hwhole
  have hsorted : (reported targets entry).highlowOffsets.SortedLT :=
    List.SortedLE.sortedLT_of_nodup (List.pairwise_insertionSort _ _).sortedLE hnodup
  refine ⟨fun i => ?_,fun o ho => (hmem.mp ho).2,hnodup,fun o ho o' ho' hne => ?_⟩
  · have hshift : (reported targets entry).highlowOffsets.map (1 <<< ·) =
        (reported targets entry).highlowOffsets.map (2^·) :=
      List.map_congr_left fun o _ => Nat.one_shiftLeft o
    rw [exportSpec, BitVec.getLsbD_ofNat, hshift, Bool.and_eq_true, ← Nat.mem_bitIndices,
      Nat.bitIndices_sum_map_two_pow hsorted, decide_eq_true_eq]
    exact and_iff_right_of_imp fun ho => (hmem.mp ho).2.trans_lt (by decide)
  · have htargets := hapart.forall (hmem.mp ho).1 (hmem.mp ho').1 (by omega)
    unfold Apart at htargets ⊢
    omega

end Offsets

/-! From the report back to the file. -/

variable {hexdigest : List UInt8 → Text} {alnum : Char → Bool} {data : List UInt8} {linkMap : Text}
  {report : Report}

/-- The parts of an accepted audit that concern the exports. -/
structure Accepted (data : List UInt8) (report : Report) (entries : Dictionary Text ExportEntry)
    (found : Relocations) : Prop where
  inFile : ∀ i < PeFile.sectionCount data,
    PeFile.rawPointer data i+PeFile.rawSize data i ≤ data.length
  recorded : ∀ x ∈ entries.entries, Recorded data x.2
  names : entries.keys.Perm exportNames
  fixups : relocations data (PeFile.optionalHeader data) (auditedTable data) entries = .ok found
  base : report.preferredImageBase = PeFile.imageBase data
  basePlaced : PeFile.imageBase data > 0 ∧ PeFile.imageBase data%65536 = 0
  report : report.exportEntries = found.2.mapValues fun _ entry =>
    { entry with highlowOffsets := entry.highlowOffsets.insertionSort (· ≤ ·) }

theorem audit_ok (h : audit hexdigest alnum data linkMap = .ok report) :
    ∃ entries found, Accepted data report entries found := by
  unfold audit at h
  obtain ⟨headers,hheaders,h⟩ := bind_ok_iff.mp h
  rw [headers_ok hheaders] at h
  obtain ⟨table,htable,h⟩ := bind_ok_iff.mp h
  obtain ⟨htable,hfile⟩ := sections_ok htable
  rw [htable] at h
  obtain ⟨_,_,h⟩ := bind_ok_iff.mp h
  obtain ⟨imports,_,h⟩ := bind_ok_iff.mp h
  obtain ⟨exports,hexports,h⟩ := bind_ok_iff.mp h
  obtain ⟨found,hfound,h⟩ := bind_ok_iff.mp h
  obtain ⟨preferredBase,hbase,h⟩ := bind_ok_iff.mp h
  obtain ⟨_,hplaced,h⟩ := bind_ok_iff.mp h
  obtain ⟨buckets,_,h⟩ := bind_ok_iff.mp h
  cases h
  obtain ⟨hrecorded,hnames⟩ := exports_ok hexports
  have hbase : PeFile.imageBase data = preferredBase := (number_ok_iff.mp hbase).2
  exact ⟨exports.2,found,hfile,hrecorded,hnames,hfound,hbase.symm,
    hbase ▸ require_ok_iff.mp hplaced,rfl⟩

/-- What the audit itself reads at an address. -/
def auditedWord (data : List UInt8) (width rva : ℕ) : ℕ :=
  (rnum data (auditedTable data) width rva).toOption.getD 0

theorem rnum_word (width rva v : ℕ) (h : rnum data (auditedTable data) width rva = .ok v) :
    v = auditedWord data width rva := by
  rw [auditedWord, h]
  rfl

namespace Accepted
variable {entries : Dictionary Text ExportEntry} {found : Relocations}
  (h : Accepted data report entries found)
include h

theorem names_perm : report.exportEntries.keys.Perm exportNames := by
  have hnoted := (relocations_ok rnum_word h.fixups).1
  rw [h.report, Dictionary.keys_mapValues, hnoted.entries, Dictionary.keys_mapValues]
  exact h.names

/-- An export of the report, with the targets that any faithful reader finds. -/
theorem of_mem (word : ℕ → ℕ → ℕ)
    (hword : ∀ width rva v, rnum data (auditedTable data) width rva = .ok v → v = word width rva)
    {x : Text × ExportEntry} (hx : x ∈ report.exportEntries.entries) :
    ∃ entry, Recorded data entry ∧ x.2 = reported (directoryTargets word data) entry ∧
      (∀ t ∈ directoryTargets word data, Whole entry t) ∧
      (directoryTargets word data).Pairwise (Apart 4) := by
  obtain ⟨hnoted,hapart⟩ := relocations_ok hword h.fixups
  rw [h.report, hnoted.entries, Dictionary.mapValues_mapValues] at hx
  obtain ⟨⟨name,entry⟩,hentry,rfl⟩ := List.mem_map.mp hx
  have hrecorded : Recorded data entry := h.recorded _ hentry
  refine ⟨entry,hrecorded,?_,hnoted.whole _ hentry,hapart⟩
  simp only [reported, noteFixups, hrecorded.offsets, List.nil_append]

theorem preferredBase_placed (entry : ExportEntry) :
    (exportSpec report.preferredImageBase entry).preferredBase ≠ 0 ∧
      (exportSpec report.preferredImageBase entry).preferredBase.toNat%65536 = 0 := by
  have hlt : PeFile.imageBase data < 2^32 := field_lt 4 data _
  have hplaced := h.basePlaced
  have hbase : (exportSpec report.preferredImageBase entry).preferredBase.toNat =
      PeFile.imageBase data := by
    rw [exportSpec, h.base]
    exact Nat.mod_eq_of_lt hlt
  refine ⟨fun hzero => ?_,hbase.symm ▸ hplaced.2⟩
  rw [hzero] at hbase
  simp at hbase
  omega

/-- `bootstrap_export_prefix` accepts the spec of every audited export. -/
theorem spec_accepted {x : Text × ExportEntry} (hx : x ∈ report.exportEntries.entries)
    (loadBase : BitVec 32) :
    ∃ output, bootstrapExportPrefix (exportSpec report.preferredImageBase x.2) loadBase =
      some output := by
  obtain ⟨entry,_,heq,hwhole,hapart⟩ := h.of_mem (auditedWord data) rnum_word hx
  have hrecords := reported_records report.preferredImageBase hapart hwhole
  have hplaced := h.preferredBase_placed x.2
  rw [heq] at hplaced ⊢
  -- Any memory that holds the bytes will do.
  have hshows (v : Vector UInt8 20) : Shows 0 v fun a => v.toList.getD a 0 := by
    intro i hi
    rw [Nat.zero_add]
    change v[i] = v.toList.getD i 0
    rw [List.getD_eq_getElem _ _ (by simpa using hi), Vector.getElem_toList]
  obtain ⟨output,houtput,_⟩ := bootstrapExportPrefix_shows hrecords (hshows _) (fun _ => hplaced) loadBase
  exact ⟨output,houtput⟩

/-- What it returns stands at the address of the export, wherever the image is loaded. -/
theorem spec_relocated {image : ℕ → UInt8} (hmapped : Mapped data image)
    {x : Text × ExportEntry} (hx : x ∈ report.exportEntries.entries)
    {loadBase : BitVec 32} {output : Vector UInt8 20}
    (houtput : bootstrapExportPrefix (exportSpec report.preferredImageBase x.2) loadBase =
      some output) : Shows x.2.rva output (relocated data image loadBase) := by
  obtain ⟨entry,⟨_,⟨p,hp,hhex⟩,_⟩,heq,hwhole,hapart⟩ := h.of_mem
    (memoryField image) (fun _ _ _ hv => rnum_shows hmapped hv h.inFile) hx
  have hrecords := reported_records report.preferredImageBase hapart hwhole
  have hplaced := h.preferredBase_placed x.2
  rw [heq] at hplaced houtput ⊢
  have hbytes : hexBytes entry.prefixHex = cells image entry.rva 20 := by
    rw [hhex, hexBytes_hex, offset_shows hmapped hp h.inFile]
  have hshows : Shows entry.rva (exportSpec report.preferredImageBase
      (reported (directoryTargets (memoryField image) data) entry)).prefixBytes image := by
    intro i hi
    simp [exportSpec, reported, hbytes, cells]
  obtain ⟨output',houtput',hshows'⟩ := bootstrapExportPrefix_shows hrecords hshows (fun _ => hplaced) loadBase
  rw [houtput] at houtput'
  cases houtput'
  refine hshows'.congr fun a ha ha' => ?_
  have hmem {o : ℕ} := mem_reported_offsets (o := o) hwhole
  have hinner : ((reported (directoryTargets (memoryField image) data) entry).highlowOffsets.map
      (entry.rva+·)).Pairwise (Apart 4) := by
    rw [List.pairwise_map]
    refine hrecords.nodup.pairwise_of_forall_ne fun o ho o' ho' hne => ?_
    exact hapart.forall (hmem.mp ho).1 (hmem.mp ho').1 (by omega)
  have hsame : Agree entry.rva 20 image image := fun _ _ _ => rfl
  have hagree := patchAll_agree (f := rebase (loadBase-BitVec.ofNat 32 (PeFile.imageBase data)))
    hsame hapart hinner (fun t => ?_) fun t ht => ?_
  · rw [relocated, relocationTargets, hagree a ha ha', exportSpec, h.base]
  · simp only [List.mem_map, hmem]
    constructor
    · intro ho
      obtain ⟨o,⟨ht,ho⟩,heq⟩ := ho
      exact ⟨heq ▸ ht,by omega,by omega⟩
    · intro ht
      obtain ⟨ht,hlow,hhigh⟩ := ht
      exact ⟨t-entry.rva,⟨by rwa [Nat.add_sub_cancel' hlow],by omega⟩,Nat.add_sub_cancel' hlow⟩
  · have hcut := hwhole t ht
    unfold Whole at hcut
    omega

end Accepted

/-- What an accepted audit records of its three exports is what the native check expects of
the image at any load base. -/
theorem audited_exports_relocate (h : audit hexdigest alnum data linkMap = .ok report) :
    report.exportEntries.keys.Perm exportNames ∧
    ∀ x ∈ report.exportEntries.entries, ∀ loadBase : BitVec 32, ∃ output,
      bootstrapExportPrefix (exportSpec report.preferredImageBase x.2) loadBase = some output ∧
      ∀ image, Mapped data image →
        ∀ i (hi : i < 20), relocated data image loadBase (x.2.rva+i) = output[i] := by
  obtain ⟨entries,found,haccepted⟩ := audit_ok h
  refine ⟨haccepted.names_perm,fun x hx loadBase => ?_⟩
  obtain ⟨output,houtput⟩ := haccepted.spec_accepted hx loadBase
  refine ⟨output,houtput,fun image hmapped i hi => ?_⟩
  exact (haccepted.spec_relocated hmapped hx houtput i hi).symm

section
-- A library of one section: imports, exports, code with one fixup, and the sentinels.

def smallDll : List UInt8 := List.flatten [
  [0x4d,0x5a],List.replicate 58 0,bytes 4 64,
  bytes 4 0x4550,bytes 2 0x14c,bytes 2 1,List.replicate 12 0,bytes 2 224,bytes 2 0x2000,
  bytes 2 0x10b,List.replicate 26 0,bytes 4 0x10000000,List.replicate 24 0,bytes 4 0x2000,
  List.replicate 32 0,bytes 4 16,
  -- the directories of exports, imports and relocations
  bytes 4 4180,bytes 4 136,bytes 4 4096,bytes 4 60,List.replicate 24 0,
  bytes 4 4376,bytes 4 12,List.replicate 80 0,
  -- the section table and the section
  List.replicate 8 0,bytes 4 324,bytes 4 4096,bytes 4 324,bytes 4 352,List.replicate 12 0,
  bytes 4 0x20000000,
  List.replicate 12 0,bytes 4 4156,List.replicate 16 0,bytes 4 4169,List.replicate 24 0,
  asciiBytes "kernel32.dll",[0],asciiBytes "bcrypt.dll",[0],
  List.replicate 20 0,bytes 4 3,bytes 4 3,bytes 4 4220,bytes 4 4232,bytes 4 4244,
  bytes 4 4316,bytes 4 4336,bytes 4 4356,bytes 4 4252,bytes 4 4276,bytes 4 4295,
  bytes 2 0,bytes 2 1,bytes 2 2,[0,0],
  asciiBytes "SaexBootstrapInitialize",[0],asciiBytes "SaexBootstrapQuery",[0],
  asciiBytes "SaexBootstrapStop",[0,0,0,0],
  [0x8b,0x0d],bytes 4 0x10001000,List.replicate 54 0xcc,
  bytes 4 4096,bytes 4 12,bytes 2 (3*4096+222),bytes 2 0,
  List.replicate 32 0]

def smallMap : Text :=
  "_DllMain@12 bootstrap_module.obj bootstrap_session.obj\n".toList++
  sentinels.flatMap fun name => " 0001:00000124 00000004H ".toList++name++" DATA\n".toList

/-- The section where it is mapped. -/
def smallImage (a : ℕ) : UInt8 := smallDll.getD (a-4096+352) 0

theorem audit_small : (audit (fun _ => []) asciiAlnum smallDll smallMap).toBool := by
  decide +kernel

theorem mapped_small : Mapped smallDll smallImage := by
  have hcount : PeFile.sectionCount smallDll = 1 := by decide
  have hrva : PeFile.rva smallDll 0 = 4096 := by decide
  have hraw : PeFile.rawPointer smallDll 0 = 352 := by decide
  intro i hi k hk
  obtain rfl : i = 0 := by omega
  rw [hrva, hraw, smallImage, Nat.add_sub_cancel_left, Nat.add_comm]

theorem audited_exports_relocate_small :
    ∃ report, audit (fun _ => []) asciiAlnum smallDll smallMap = .ok report ∧
      report.exportEntries.keys.Perm exportNames ∧
      ∀ x ∈ report.exportEntries.entries, ∃ output,
        bootstrapExportPrefix (exportSpec report.preferredImageBase x.2) 0x20000000 = some output ∧
        ∀ i (hi : i < 20), relocated smallDll smallImage 0x20000000 (x.2.rva+i) = output[i] := by
  cases haudit : audit (fun _ => []) asciiAlnum smallDll smallMap with
  | error stop =>
    have haccepts := audit_small
    rw [haudit] at haccepts
    cases haccepts
  | ok report =>
    obtain ⟨hnames,hexports⟩ := audited_exports_relocate haudit
    refine ⟨report,rfl,hnames,fun x hx => ?_⟩
    obtain ⟨output,houtput,hshows⟩ := hexports x hx 0x20000000
    exact ⟨output,houtput,hshows smallImage mapped_small⟩

end

end Saex.BootstrapAudit
