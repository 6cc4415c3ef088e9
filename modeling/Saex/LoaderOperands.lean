import Saex.ApplicationRoutingRun
import Saex.CdStreamAllocationReturn
import Saex.CdStreamChannelsRun
import Saex.CdStreamDiskRun
import Saex.CwdReturnRun
import Saex.FileManagerReadyRun
import Saex.Ia32Sweeps

/-! The operands in the code that the loader observation compares: which RVA each near branch
reaches from where the code is compared, and which each address stands for. -/
namespace Saex
open LittleEndian Ia32

/-! The blocks of each builder, at the RVAs where the observer reads them. -/

def applicationRoutingBlocks (s : ApplicationRoutingSpec) (p : EventDispatchSpec)
    (c : ApplicationRoutingCode) : List CheckedBlock :=
  -- The last byte of the entry is the first of the indirect jump.
  [⟨p.application.targetRva.toNat,c.entry.toList.take 20,
      [(s.targetRvas.get (Fin.last 10)).toNat,s.detourRva.toNat],[]⟩,
    ⟨s.detourRva.toNat,c.detour.toList,[p.application.targetRva.toNat+20],[(0,s.indexRva.toNat)]⟩,
    ⟨p.application.targetRva.toNat+20,c.indirect.toList,[],[(0,s.tableRva.toNat)]⟩]

def cwdQueryBlocks (s : CwdQuerySpec) (p : CwdLockSpec) (c : CwdQueryCode) : List CheckedBlock :=
  [⟨p.selector.callRva.toNat+5,c.wrapper.toList,[s.helperRva.toNat],[]⟩,
    ⟨s.helperRva.toNat,c.helper.toList,[],[(9,s.cookieRva.toNat)]⟩,
    ⟨s.helperRva.toNat+123,c.query.toList,[],[(12,s.iatRva.toNat)]⟩]

def cwdCopyBlocks (s : CwdCopySpec) (q : CwdQuerySpec) (c : CwdCopyCode) : List CheckedBlock :=
  [⟨q.helperRva.toNat+141,c.checks.toList,[],[]⟩,
    ⟨q.helperRva.toNat+197,c.capacity.toList,[],[]⟩,
    ⟨q.helperRva.toNat+218,c.call.toList,[s.copierRva.toNat],[]⟩,
    ⟨s.copierRva.toNat,c.entry.toList,[],[]⟩]

def cwdReturnBlocks (s : CwdReturnSpec) (q : CwdQuerySpec) (c : CwdReturnCode) : List CheckedBlock :=
  [⟨q.helperRva.toNat+231,c.cleanup.toList,[q.helperRva.toNat+63],[]⟩,
    ⟨q.helperRva.toNat+63,c.epilogue.toList,[s.checkerRva.toNat],[]⟩,
    ⟨s.checkerRva.toNat,c.checker.toList,[],[(0,q.cookieRva.toNat)]⟩]

def fileManagerReadyBlocks (s : FileManagerReadySpec) (l : CwdLockSpec) (seh : CwdSehSpec)
    (c : FileManagerReadyCode) : List CheckedBlock :=
  [⟨l.selector.callRva.toNat+23,c.wrapper.toList,[seh.cleanupRva.toNat,s.epilogueRva.toNat],[]⟩,
    ⟨seh.cleanupRva.toNat,c.cleanup.toList,[s.unlockRva.toNat],[]⟩,
    ⟨s.unlockRva.toNat,c.unlock.toList,[],[(6,l.tableRva.toNat),(13,s.iatRva.toNat)]⟩,
    ⟨s.epilogueRva.toNat,c.epilogue.toList,[],[]⟩]

def cdStreamTablesBlocks (s : CdStreamTablesSpec) (m : FileManagerEntrySpec)
    (c : CdStreamTablesCode) : List CheckedBlock :=
  [⟨m.manager.callRva.toNat+5,c.caller.toList,[s.targetRva.toNat],[]⟩,
    ⟨s.targetRva.toNat,c.body.toList,[],[(11,s.handlesRva.toNat),(16,s.namesRva.toNat),
      (38,s.namesRva.toNat+2048),(68,s.diskIatRva.toNat)]⟩]

def cdStreamDiskBlocks (s : CdStreamDiskSpec) (t : CdStreamTablesSpec) (c : Vector UInt8 69) :
    List CheckedBlock :=
  [⟨t.targetRva.toNat+68,c.toList,[s.allocatorRva.toNat],[(0,t.diskIatRva.toNat),
    (39,s.flagsRva.toNat+8),(49,s.flagsRva.toNat),(54,s.flagsRva.toNat+4)]⟩]

def cdStreamAllocationBlocks (s : CdStreamAllocationSpec) (disk : CdStreamDiskSpec)
    (seh : CwdSehSpec) (ready : FileManagerReadySpec) (c : CdStreamAllocationCode) :
    List CheckedBlock :=
  [⟨disk.allocatorRva.toNat,c.aligned.toList,[s.mallocRva.toNat],[]⟩,
    ⟨s.mallocRva.toNat,c.malloc.toList,[s.nhRva.toNat],[(0,s.newModeRva.toNat)]⟩,
    ⟨s.nhRva.toNat,c.nh.toList,[s.heapRva.toNat],[]⟩,
    ⟨s.heapRva.toNat,c.heapEntry.toList,[seh.prologue.targetRva.toNat],
      [(2,s.scopeRva.toNat),(15,s.heapModeRva.toNat),(24,s.thresholdRva.toNat)]⟩,
    ⟨s.heapRva.toNat+70,c.heapTail.toList,[ready.epilogueRva.toNat],
      [(5,s.heapModeRva.toNat),(23,s.heapHandleRva.toNat),(29,s.iatRva.toNat)]⟩]

def cdStreamChannelsBlocks (s : CdStreamChannelsSpec) (t : CdStreamTablesSpec)
    (c : Vector UInt8 64) : List CheckedBlock :=
  [⟨t.targetRva.toNat+137,c.toList,[s.openRva.toNat],[(7,s.errorIatRva.toNat),
    (26,t.namesRva.toNat-4),(36,t.namesRva.toNat-8),(41,s.localIatRva.toNat),
    (49,s.filenameRva.toNat),(54,s.pointerRva.toNat)]⟩]

/-! A branch of the image, from one RVA to another. -/

/-- The notion of a branch that lands holds of the distances inside an image of this size. -/
def LandsInside (size : ℕ) (lands : ℤ → ℤ → Prop) : Prop :=
  ∀ next target : ℕ, next ≤ size → 4096 ≤ target → target < size →
    lands (next+(BitVec.ofNat 32 target-BitVec.ofNat 32 next).toInt) target

theorem landsInside_modulo (size : ℕ) : LandsInside size Modulo :=
  fun next target _ _ _ => modulo_of_distance target next

theorem landsInside_eq {size : ℕ} (h : size ≤ 2^31) : LandsInside size Eq :=
  fun next target hnext hlow hhigh => eq_of_distance (by omega) (by omega)

theorem LandsInside.branch {size : ℕ} {lands : ℤ → ℤ → Prop} (h : LandsInside size lands)
    {x : ℕ × BitVec 32} {target : ℕ} (next : ℕ) (d : BitVec 32) (hx : x = (next,dword d))
    (hd : d = BitVec.ofNat 32 target-BitVec.ofNat 32 next)
    (hinside : next ≤ size ∧ 4096 ≤ target ∧ target < size) : lands (x.1+x.2.toInt) target := by
  rw [hx, dword_eq, hd]
  exact h next target hinside.1 hinside.2.1 hinside.2.2

theorem exists_word {ws : List (BitVec 32)} {n : ℕ} (v : BitVec 32) (hv : v.toNat = n)
    (hmem : dword v ∈ ws) : ∃ v ∈ ws, v.toNat = n :=
  ⟨dword v,hmem,by rw [dword_eq, hv]⟩

/-- `n` bytes of the image, in the naturals. -/
def InsideImage (imageSize rva : BitVec 32) (n : ℕ) : Prop :=
  4096 ≤ rva.toNat ∧ rva.toNat+n ≤ imageSize.toNat

theorem inside_of_validSpans {imageSize : BitVec 32} {spans : List (BitVec 32 × BitVec 32)}
    (hsize : 4096 ≤ imageSize) (hspans : validSpans imageSize spans) (rva n : BitVec 32)
    (hmem : (rva,n) ∈ spans := by simp) (hn : n ≤ 4096 := by decide) :
    InsideImage imageSize rva n.toNat := by
  simp only [validSpans, Bool.and_eq_true, List.all_eq_true, Bool.not_eq_true',
    Bool.or_eq_false_iff, decide_eq_false_iff_not] at hspans
  have hin := hspans.1 _ hmem
  unfold InsideImage
  bv_omega

/-- The branches reach their RVAs by the addition of 32-bit addresses, and without wrapping
when the image is of 2 GiB at most. -/
def Decoded (imageBase imageSize : BitVec 32) (blocks : List CheckedBlock) : Prop :=
  ∀ b ∈ blocks, b.Decodes Modulo imageBase ∧ (imageSize.toNat ≤ 2^31 → b.Decodes Eq imageBase)

theorem decoded_of_landsInside {imageBase imageSize : BitVec 32} {blocks : List CheckedBlock}
    (h : ∀ lands, LandsInside imageSize.toNat lands → ∀ b ∈ blocks, b.Decodes lands imageBase) :
    Decoded imageBase imageSize blocks :=
  fun b hb => ⟨h Modulo (landsInside_modulo _) b hb,fun hsize => h Eq (landsInside_eq hsize) b hb⟩

section Builders
variable {lands : ℤ → ℤ → Prop}

/-! application_routing_code -/

section ApplicationRouting
variable {s : ApplicationRoutingSpec} {p : EventDispatchSpec} {c : ApplicationRoutingCode}
  (h : applicationRoutingCode s p = some c)
include h

theorem applicationRouting_valid : validFrameTargetSpec p.application = true ∧
    (∀ x ∈ [(p.application.targetRva,27),(s.detourRva,12),(s.indexRva,39),(s.tableRva,44)],
      InsideImage p.application.imageSize x.1 x.2) ∧
    ∀ i (hi : i < 11), InsideImage p.application.imageSize s.targetRvas[i] 1 := by
  have hlayout : applicationRoutingLayout s p = true := by
    by_contra hnot
    rw [applicationRoutingCode, if_pos (by simpa using hnot)] at h
    cases h
  simp only [applicationRoutingLayout, Bool.and_eq_true, Bool.not_eq_true', Bool.or_eq_false_iff,
    Bool.not_eq_false', decide_eq_false_iff_not, not_not, List.all_cons, List.all_nil,
    decide_eq_true_eq, Vector.all_eq_true] at hlayout
  obtain ⟨⟨⟨⟨hspecs,hspans⟩,_⟩,_⟩,htargets⟩ := hlayout
  obtain ⟨⟨⟨⟨⟨⟨⟨⟨⟨_,hvalid⟩,_⟩,_⟩,hsize⟩,_⟩,_⟩,_⟩,_⟩,_⟩ := hspecs
  obtain ⟨hentry,hdetour,hindex,htable,_⟩ := hspans
  rw [hsize] at hentry hdetour hindex htable
  refine ⟨hvalid,?_,fun i hi => ?_⟩
  · simp only [List.forall_mem_cons, List.not_mem_nil, false_imp_iff, implies_true, and_true,
      InsideImage]
    refine ⟨?_,?_,?_,?_⟩ <;> bv_omega
  · have htarget := htargets i hi
    rw [hsize] at htarget
    unfold InsideImage
    bv_omega

theorem applicationRoutingBlocks_decode
    (hlands : LandsInside p.application.imageSize.toNat lands) :
    ∀ b ∈ applicationRoutingBlocks s p c, b.Decodes lands p.application.imageBase := by
  obtain ⟨hvalid,hspans,htargets⟩ := applicationRouting_valid h
  have hbase := (FrameTargetSpec.inside hvalid).1
  have htarget : InsideImage p.application.imageSize (s.targetRvas.get (Fin.last 10)) 1 :=
    htargets 10 (by decide)
  obtain ⟨hentry,hdetour,hindirect⟩ := applicationRoutingCode_eq h
  simp only [List.forall_mem_cons, List.not_mem_nil, false_imp_iff, implies_true, and_true,
    InsideImage] at hspans htarget
  obtain ⟨hr,hd,hindex,htable⟩ := hspans
  clear h hvalid htargets
  simp only [applicationRoutingBlocks, List.forall_mem_cons, List.not_mem_nil, false_imp_iff,
    implies_true, and_true]
  refine ⟨⟨_,by rw [hentry]; rfl,?_,?_⟩,⟨_,by rw [hdetour]; rfl,?_,?_⟩,
    ⟨_,by rw [hindirect]; rfl,?_,?_⟩⟩
  · exact .cons (hlands.branch (p.application.targetRva.toNat+13)
      (s.targetRvas.get (Fin.last 10)-(p.application.targetRva+13)) rfl
      (by bv_omega) (by omega))
      (.cons (hlands.branch (p.application.targetRva.toNat+20)
        (s.detourRva-(p.application.targetRva+20)) rfl (by bv_omega) (by omega)) .nil)
  · exact fun _ h => nomatch h
  · exact .cons (hlands.branch (s.detourRva.toNat+12)
      (p.application.targetRva+20-(s.detourRva+12)) rfl (by bv_omega) (by omega)) .nil
  · exact List.forall_mem_singleton.mpr (exists_word (s.index p)
      (by rw [ApplicationRoutingSpec.index]; bv_omega) List.mem_cons_self)
  · exact .nil
  · exact List.forall_mem_singleton.mpr (exists_word (s.table p)
      (by rw [ApplicationRoutingSpec.table]; bv_omega) List.mem_cons_self)

end ApplicationRouting

/-! cwd_query_code, cwd_copy_code and cwd_return_code -/

section Cwd
variable {s : CwdReturnSpec} {o : CwdCopySpec} {q : CwdQuerySpec} {l : CwdLockSpec}

theorem cwdQuery_valid {c : CwdQueryCode} (h : cwdQueryCode q l = some c) :
    validFrameTargetSpec l.selector = true ∧ l.selector.callRva.toNat+23 ≤ l.selector.imageSize.toNat ∧
      InsideImage l.selector.imageSize q.helperRva 157 ∧
      InsideImage l.selector.imageSize q.cookieRva 4 ∧
      InsideImage l.selector.imageSize q.iatRva 4 := by
  dsimp only [cwdQueryCode] at h
  split at h
  · contradiction
  next hguard =>
  clear h
  simp only [Bool.or_eq_true, decide_eq_true_eq, not_or, Bool.not_eq_true', Bool.not_eq_false]
    at hguard
  obtain ⟨⟨⟨⟨⟨⟨⟨⟨⟨⟨hvalid,_⟩,_⟩,_⟩,_⟩,_⟩,_⟩,_⟩,_⟩,_⟩,_⟩ := hguard
  unfold InsideImage
  refine ⟨hvalid,?_,?_,?_,?_⟩ <;> bv_omega

theorem cwdQueryCode_eq {c : CwdQueryCode} (h : cwdQueryCode q l = some c) :
    c.wrapper.toList = [0x59,0x83,0x65,0xfc,0,0xff,0x75,0x0c,0xff,0x75,8,0x6a,0,0xe8]++
        write 4 (q.helperRva-(l.selector.callRva+23)) ∧
      c.helper.toList = [0x55,0x8b,0xec,0x81,0xec,0x0c,1,0,0,0xa1]++
        (write 4 (l.selector.imageBase+q.cookieRva)++[0x33,0x45,4,0x53,0x8b,0x5d,8,
          0x85,0xdb,0x89,0x45,0xfc,0x74,0x5f]) ∧
      c.query.toList = [0x8d,0x85,0xf4,0xfe,0xff,0xff,0x50,0x68,4,1,0,0,0xff,0x15]++
        write 4 (l.selector.imageBase+q.iatRva) := by
  dsimp only [cwdQueryCode] at h
  split at h
  · contradiction
  rw [← Option.some.inj h]
  refine ⟨?_,?_,?_⟩
  all_goals
    rw [toList_writeDword (by decide)]
    rfl

theorem cwdQueryBlocks_decode {c : CwdQueryCode} (h : cwdQueryCode q l = some c)
    (hlands : LandsInside l.selector.imageSize.toNat lands) :
    ∀ b ∈ cwdQueryBlocks q l c, b.Decodes lands l.selector.imageBase := by
  obtain ⟨hvalid,hcall,hhelper,hcookie,hiat⟩ := cwdQuery_valid h
  obtain ⟨hwrapper,hentry,hquery⟩ := cwdQueryCode_eq h
  have hplaced := FrameTargetSpec.inside hvalid
  unfold InsideImage at hhelper hcookie hiat
  clear h hvalid
  simp only [cwdQueryBlocks, List.forall_mem_cons, List.not_mem_nil, false_imp_iff, implies_true,
    and_true]
  refine ⟨⟨_,by rw [hwrapper]; rfl,?_,?_⟩,⟨_,by rw [hentry]; rfl,?_,?_⟩,
    ⟨_,by rw [hquery]; rfl,?_,?_⟩⟩
  · exact .cons (hlands.branch (l.selector.callRva.toNat+5+18)
      (q.helperRva-(l.selector.callRva+23)) rfl (by bv_omega) (by omega)) .nil
  · exact fun _ h => nomatch h
  · exact .nil
  · exact List.forall_mem_singleton.mpr (exists_word (l.selector.imageBase+q.cookieRva)
      (by bv_omega) List.mem_cons_self)
  · exact .nil
  · exact List.forall_mem_singleton.mpr (exists_word (l.selector.imageBase+q.iatRva)
      (by bv_omega) List.mem_cons_self)

theorem cwdCopy_valid {c : CwdCopyCode} (h : cwdCopyCode o q l = some c) :
    (∃ c', cwdQueryCode q l = some c') ∧ InsideImage l.selector.imageSize q.helperRva 247 ∧
      InsideImage l.selector.imageSize o.copierRva 248 := by
  dsimp only [cwdCopyCode] at h
  split at h
  · contradiction
  next hguard =>
  clear h
  simp only [Bool.or_eq_true, decide_eq_true_eq, not_or, Bool.not_eq_true', Bool.not_eq_false]
    at hguard
  obtain ⟨⟨⟨⟨⟨hquery,_⟩,_⟩,_⟩,_⟩,_⟩ := hguard
  simp only [validCwdQuerySpec, Bool.and_eq_true, Bool.not_eq_true', Bool.or_eq_false_iff] at hquery
  obtain ⟨⟨⟨⟨⟨⟨⟨⟨⟨hcode,_⟩,_⟩,_⟩,_⟩,_⟩,_⟩,_⟩,_⟩,_⟩ := hquery
  obtain ⟨c',hc'⟩ := Option.isSome_iff_exists.mp (Option.isNone_eq_false_iff.mp hcode)
  obtain ⟨_,_,hhelper,_,_⟩ := cwdQuery_valid hc'
  refine ⟨⟨c',hc'⟩,?_,?_⟩
  · unfold InsideImage at hhelper ⊢
    bv_omega
  · unfold InsideImage
    bv_omega

set_option maxRecDepth 4000 in
theorem cwdCopyCode_eq {c : CwdCopyCode} (h : cwdCopyCode o q l = some c) :
    c.checks.toList = [0x85,0xc0,0x74,0xac,0x40,0x3d,4,1,0,0,0x77,0xa4,0x8b,0x4d,0x0c,0x85,0xc9,
        0x75,0x25] ∧
      c.capacity.toList = [0x3b,0x45,0x10,0x7e,0x10] ∧
      c.call.toList = [0x8d,0x85,0xf4,0xfe,0xff,0xff,0x50,0x51,0xe8]++
        write 4 (o.copierRva-(q.helperRva+231)) ∧
      c.entry.toList = [0x57,0x8b,0x7c,0x24,8,0xeb,0x6e] ∧
      ∀ b ∈ c.body.toList, b ≠ 0xe8 ∧ b ≠ 0xe9 ∧ b ≠ 0x0f := by
  dsimp only [cwdCopyCode] at h
  split at h
  · contradiction
  split at h
  · rw [← Option.some.inj h]
    refine ⟨rfl,rfl,?_,rfl,by dsimp only; decide⟩
    rw [toList_writeDword (by decide)]
    rfl
  · cases h

theorem cwdCopyBlocks_decode {c : CwdCopyCode} (h : cwdCopyCode o q l = some c)
    (hlands : LandsInside l.selector.imageSize.toNat lands) :
    ∀ b ∈ cwdCopyBlocks o q c, b.Decodes lands l.selector.imageBase := by
  obtain ⟨_,hhelper,hcopier⟩ := cwdCopy_valid h
  obtain ⟨hchecks,hcapacity,hcall,hentry,_⟩ := cwdCopyCode_eq h
  unfold InsideImage at hhelper hcopier
  clear h
  simp only [cwdCopyBlocks, List.forall_mem_cons, List.not_mem_nil, false_imp_iff, implies_true,
    and_true]
  refine ⟨⟨_,by rw [hchecks]; rfl,?_,?_⟩,⟨_,by rw [hcapacity]; rfl,?_,?_⟩,
    ⟨_,by rw [hcall]; rfl,?_,?_⟩,⟨_,by rw [hentry]; rfl,?_,?_⟩⟩
  · exact .nil
  · exact fun _ h => nomatch h
  · exact .nil
  · exact fun _ h => nomatch h
  · exact .cons (hlands.branch (q.helperRva.toNat+218+13) (o.copierRva-(q.helperRva+231)) rfl
      (by bv_omega) (by omega)) .nil
  · exact fun _ h => nomatch h
  · exact .nil
  · exact fun _ h => nomatch h

theorem cwdReturn_valid {c : CwdReturnCode} (h : cwdReturnCode s o q l = some c) :
    (∃ c', cwdCopyCode o q l = some c') ∧ InsideImage l.selector.imageSize s.checkerRva 9 := by
  dsimp only [cwdReturnCode] at h
  split at h
  · contradiction
  next hguard =>
  clear h
  simp only [Bool.or_eq_true, decide_eq_true_eq, not_or, Bool.not_eq_true', Bool.not_eq_false]
    at hguard
  obtain ⟨⟨⟨⟨⟨hcopy,_⟩,_⟩,_⟩,_⟩,_⟩ := hguard
  obtain ⟨c',hc'⟩ := Option.ne_none_iff_exists'.mp (mt Option.isNone_iff_eq_none.mpr hcopy)
  obtain ⟨_,hhelper,_⟩ := cwdCopy_valid hc'
  refine ⟨⟨c',hc'⟩,?_⟩
  unfold InsideImage at hhelper ⊢
  bv_omega

theorem cwdReturnCode_eq {c : CwdReturnCode} (h : cwdReturnCode s o q l = some c) :
    c.cleanup.toList = [0x59,0x59,0xe9]++write 4 (0xffffff51 : BitVec 32) ∧
      c.epilogue.toList = [0x8b,0x4d,0xfc,0x33,0x4d,4,0x5b,0xe8]++
        (write 4 (s.checkerRva-(q.helperRva+75))++[0xc9,0xc3]) ∧
      c.checker.toList = [0x3b,0x0d]++
        (write 4 (l.selector.imageBase+q.cookieRva)++[0x75,1,0xc3]) := by
  dsimp only [cwdReturnCode] at h
  split at h
  · contradiction
  split at h
  · rw [← Option.some.inj h]
    refine ⟨rfl,?_,?_⟩
    all_goals
      rw [toList_writeDword (by decide)]
      rfl
  · cases h

theorem cwdReturnBlocks_decode {c : CwdReturnCode} (h : cwdReturnCode s o q l = some c)
    (hlands : LandsInside l.selector.imageSize.toNat lands) :
    ∀ b ∈ cwdReturnBlocks s q c, b.Decodes lands l.selector.imageBase := by
  obtain ⟨⟨_,hcopy⟩,hchecker⟩ := cwdReturn_valid h
  obtain ⟨⟨_,hquery⟩,hhelper,_⟩ := cwdCopy_valid hcopy
  obtain ⟨hvalid,_,_,hcookie,_⟩ := cwdQuery_valid hquery
  have hplaced := FrameTargetSpec.inside hvalid
  obtain ⟨hcleanup,hepilogue,hcheckerCode⟩ := cwdReturnCode_eq h
  unfold InsideImage at hhelper hchecker hcookie
  clear h hcopy hquery hvalid
  simp only [cwdReturnBlocks, List.forall_mem_cons, List.not_mem_nil, false_imp_iff, implies_true,
    and_true]
  refine ⟨⟨_,by rw [hcleanup]; rfl,?_,?_⟩,⟨_,by rw [hepilogue]; rfl,?_,?_⟩,
    ⟨_,by rw [hcheckerCode]; rfl,?_,?_⟩⟩
  · exact .cons (hlands.branch (q.helperRva.toNat+231+7) 0xffffff51 rfl (by bv_omega)
      (by omega)) .nil
  · exact fun _ h => nomatch h
  · exact .cons (hlands.branch (q.helperRva.toNat+63+12) (s.checkerRva-(q.helperRva+75)) rfl
      (by bv_omega) (by omega)) .nil
  · exact fun _ h => nomatch h
  · exact .nil
  · exact List.forall_mem_singleton.mpr (exists_word (l.selector.imageBase+q.cookieRva)
      (by bv_omega) List.mem_cons_self)

end Cwd

/-! file_manager_ready_code -/

section Ready
variable {s : FileManagerReadySpec} {q : CwdReturnSpec} {l : CwdLockSpec} {seh : CwdSehSpec}
  {f : FileManagerEntrySpec} {c : FileManagerReadyCode}
  (h : fileManagerReadyCode s q l seh f = some c)
include h

theorem fileManagerReady_valid : validFrameTargetSpec l.selector = true ∧
    InsideImage l.selector.imageSize l.tableRva 68 ∧
    (∀ x ∈ [(seh.cleanupRva,9),(s.unlockRva,21),(s.epilogueRva,17),(s.iatRva,4)],
      InsideImage l.selector.imageSize x.1 x.2) ∧
    l.selector.callRva.toNat+47 ≤ l.selector.imageSize.toNat := by
  dsimp only [fileManagerReadyCode] at h
  split at h
  · contradiction
  next hguard =>
  clear h
  simp only [Bool.or_eq_true, decide_eq_true_eq, not_or, Bool.not_eq_true', Bool.not_eq_false]
    at hguard
  obtain ⟨⟨⟨⟨⟨⟨⟨⟨⟨⟨_,hlock⟩,_⟩,_⟩,_⟩,_⟩,_⟩,_⟩,_⟩,_⟩,hspans⟩ := hguard
  obtain ⟨code,hcode⟩ : ∃ code, cwdLockCode l = some code := by
    rw [← Option.isSome_iff_exists]
    unfold validCwdLockSpec at hlock
    cases hcode : cwdLockCode l with
    | none => simp [hcode] at hlock
    | some code => rfl
  have hvalid := validFrameTargetSpec_of_cwdLockCode hcode
  have hplaced := FrameTargetSpec.inside hvalid
  have hsize : 4096 ≤ l.selector.imageSize := hplaced.2.1
  have hcall := inside_of_validSpans hsize hspans (l.selector.callRva+23) 24
  refine ⟨hvalid,?_,?_,?_⟩
  · dsimp only [cwdLockCode] at hcode
    split at hcode
    · contradiction
    next hguard =>
    clear hcode
    simp only [Bool.or_eq_true, decide_eq_true_eq, not_or] at hguard
    unfold InsideImage
    bv_omega
  · simp only [List.forall_mem_cons, List.not_mem_nil, false_imp_iff, implies_true, and_true]
    exact ⟨inside_of_validSpans hsize hspans seh.cleanupRva 9,
      inside_of_validSpans hsize hspans s.unlockRva 21,
      inside_of_validSpans hsize hspans s.epilogueRva 17,
      inside_of_validSpans hsize hspans s.iatRva 4⟩
  · unfold InsideImage at hcall
    bv_omega

theorem fileManagerReadyBlocks_decode (hlands : LandsInside l.selector.imageSize.toNat lands) :
    ∀ b ∈ fileManagerReadyBlocks s l seh c, b.Decodes lands l.selector.imageBase := by
  obtain ⟨hvalid,htable,hspans,hcall⟩ := fileManagerReady_valid h
  have hplaced := FrameTargetSpec.inside hvalid
  obtain ⟨hwrapper,hcleanup,hunlock,hepilogue⟩ := fileManagerReadyCode_eq h
  simp only [List.forall_mem_cons, List.not_mem_nil, false_imp_iff, implies_true, and_true,
    InsideImage] at hspans
  obtain ⟨hc,hu,he,hi⟩ := hspans
  unfold InsideImage at htable
  clear h hvalid
  simp only [fileManagerReadyBlocks, List.forall_mem_cons, List.not_mem_nil, false_imp_iff,
    implies_true, and_true]
  refine ⟨⟨_,by rw [hwrapper]; rfl,?_,?_⟩,⟨_,by rw [hcleanup]; rfl,?_,?_⟩,
    ⟨_,by rw [hunlock]; rfl,?_,?_⟩,⟨_,by rw [hepilogue]; rfl,?_,?_⟩⟩
  · exact .cons (hlands.branch (l.selector.callRva.toNat+23+15)
      (seh.cleanupRva-(l.selector.callRva+38)) rfl (by bv_omega) (by omega))
      (.cons (hlands.branch (l.selector.callRva.toNat+23+23)
        (s.epilogueRva-(l.selector.callRva+46)) rfl (by bv_omega) (by omega)) .nil)
  · exact fun _ h => nomatch h
  · exact .cons (hlands.branch (seh.cleanupRva.toNat+7) (s.unlockRva-(seh.cleanupRva+7)) rfl
      (by bv_omega) (by omega)) .nil
  · exact fun _ h => nomatch h
  · exact .nil
  · refine List.forall_mem_cons.mpr ⟨exists_word (l.selector.imageBase+l.tableRva) (by bv_omega)
      List.mem_cons_self,List.forall_mem_singleton.mpr ?_⟩
    exact exists_word (l.selector.imageBase+s.iatRva) (by bv_omega) List.mem_cons_self
  · exact .nil
  · exact fun _ h => nomatch h

end Ready

/-! cd_stream_tables_code, cd_stream_disk_code, cd_stream_allocation_code and
cd_stream_channels_code -/

section CdStream
variable {m : FileManagerEntrySpec}

/-- What these builders ask of the image: no more than that it ends before the addresses do. -/
def PlacedImage (m : FileManagerEntrySpec) : Prop :=
  4096 ≤ m.manager.imageSize ∧ m.manager.imageBase.toNat+m.manager.imageSize.toNat < 2^32

theorem cdStreamTables_valid {s : CdStreamTablesSpec} {c : CdStreamTablesCode}
    (h : cdStreamTablesCode s m = some c) : PlacedImage m ∧
      (m.manager.callRva+5).toNat = m.manager.callRva.toNat+5 ∧
      InsideImage m.manager.imageSize (m.manager.callRva+5) 7 ∧
      InsideImage m.manager.imageSize s.targetRva 74 ∧
      InsideImage m.manager.imageSize s.handlesRva 2188 ∧ s.namesRva = s.handlesRva+136 ∧
      InsideImage m.manager.imageSize s.diskIatRva 4 := by
  dsimp only [cdStreamTablesCode] at h
  split at h
  · contradiction
  next hguard =>
  clear h
  simp only [Bool.or_eq_true, decide_eq_true_eq, not_or, Bool.not_eq_true', Bool.not_eq_false,
    not_not] at hguard
  obtain ⟨⟨⟨⟨⟨⟨⟨hsize,hbase⟩,hhandles⟩,_⟩,hend⟩,hnames⟩,_⟩,hspans⟩ := hguard
  have hsize : 4096 ≤ m.manager.imageSize := Nat.not_lt.mp hsize
  have hcaller := inside_of_validSpans hsize hspans (m.manager.callRva+5) 7
  have htarget := inside_of_validSpans hsize hspans s.targetRva 74
  have hiat := inside_of_validSpans hsize hspans s.diskIatRva 4
  have hwindow := inside_of_validSpans hsize hspans (s.handlesRva-4) 2192
  clear hspans
  refine ⟨⟨hsize,by bv_omega⟩,?_,hcaller,htarget,?_,hnames,hiat⟩
  · unfold InsideImage at hcaller
    bv_omega
  · unfold InsideImage at hwindow ⊢
    bv_omega

theorem cdStreamTablesBlocks_decode {s : CdStreamTablesSpec} {c : CdStreamTablesCode}
    (h : cdStreamTablesCode s m = some c) (hlands : LandsInside m.manager.imageSize.toNat lands) :
    ∀ b ∈ cdStreamTablesBlocks s m c, b.Decodes lands m.manager.imageBase := by
  obtain ⟨⟨hsize,hbase⟩,hcaller,hcall,htarget,hhandles,hnames,hiat⟩ := cdStreamTables_valid h
  obtain ⟨hcallerCode,hbody⟩ := cdStreamTablesCode_eq h
  unfold InsideImage at hcall htarget hhandles hiat
  clear h
  simp only [cdStreamTablesBlocks, List.forall_mem_cons, List.not_mem_nil, false_imp_iff,
    implies_true, and_true]
  refine ⟨⟨_,by rw [hcallerCode]; rfl,?_,?_⟩,⟨_,by rw [hbody]; rfl,?_,?_⟩⟩
  · exact .cons (hlands.branch (m.manager.callRva.toNat+5+7)
      (s.targetRva-(m.manager.callRva+5)-7) rfl (by bv_omega) (by omega)) .nil
  · exact fun _ h => nomatch h
  · exact .nil
  · simp only [List.forall_mem_cons, List.not_mem_nil, false_imp_iff, implies_true, and_true]
    have hhandles' : (s.handles m).toNat = m.manager.imageBase.toNat+s.handlesRva.toNat := by
      unfold CdStreamTablesSpec.handles
      bv_omega
    have hnames' : (s.names m).toNat = m.manager.imageBase.toNat+s.namesRva.toNat := by
      unfold CdStreamTablesSpec.names
      bv_omega
    exact ⟨exists_word (s.handles m) hhandles' List.mem_cons_self,
      exists_word (s.names m) hnames' List.mem_cons_self,
      exists_word (s.names m+2048) (by bv_omega) List.mem_cons_self,
      exists_word (m.manager.imageBase+s.diskIatRva) (by bv_omega) List.mem_cons_self⟩

theorem cdStreamDisk_valid {s : CdStreamDiskSpec} {t : CdStreamTablesSpec} {c : Vector UInt8 69}
    (h : cdStreamDiskCode s t m = some c) : PlacedImage m ∧
      InsideImage m.manager.imageSize t.targetRva 137 ∧
      InsideImage m.manager.imageSize s.flagsRva 16 ∧
      InsideImage m.manager.imageSize s.allocatorRva 1 ∧
      InsideImage m.manager.imageSize t.diskIatRva 4 := by
  dsimp only [cdStreamDiskCode] at h
  split at h
  · contradiction
  next hguard =>
  clear h
  simp only [Bool.or_eq_true, decide_eq_true_eq, not_or, Bool.not_eq_true', Bool.not_eq_false]
    at hguard
  obtain ⟨⟨⟨⟨⟨⟨⟨⟨⟨⟨⟨⟨htables,hflags⟩,_⟩,_⟩,_⟩,_⟩,_⟩,_⟩,_⟩,_⟩,_⟩,_⟩,hspans⟩ := hguard
  obtain ⟨c',hc'⟩ := Option.ne_none_iff_exists'.mp (mt Option.isNone_iff_eq_none.mpr htables)
  obtain ⟨hplaced,_,_,_,_,_,hiat⟩ := cdStreamTables_valid hc'
  have htarget := inside_of_validSpans hplaced.1 hspans t.targetRva 137
  have hwindow := inside_of_validSpans hplaced.1 hspans (s.flagsRva-4) 20
  have hallocator := inside_of_validSpans hplaced.1 hspans s.allocatorRva 1
  clear hspans
  refine ⟨hplaced,htarget,?_,hallocator,hiat⟩
  unfold InsideImage at hwindow ⊢
  bv_omega

theorem cdStreamDiskBlocks_decode {s : CdStreamDiskSpec} {t : CdStreamTablesSpec}
    {c : Vector UInt8 69} (h : cdStreamDiskCode s t m = some c)
    (hlands : LandsInside m.manager.imageSize.toNat lands) :
    ∀ b ∈ cdStreamDiskBlocks s t c, b.Decodes lands m.manager.imageBase := by
  obtain ⟨⟨hsize,hbase⟩,htarget,hflags,hallocator,hiat⟩ := cdStreamDisk_valid h
  have hbody := cdStreamDiskCode_eq h
  unfold InsideImage at htarget hflags hallocator hiat
  clear h
  simp only [cdStreamDiskBlocks, List.forall_mem_cons, List.not_mem_nil, false_imp_iff,
    implies_true, and_true]
  refine ⟨_,by rw [hbody]; rfl,?_,?_⟩
  · exact .cons (hlands.branch (t.targetRva.toNat+68+69) (s.allocatorRva-t.targetRva-137) rfl
      (by bv_omega) (by omega)) .nil
  · simp only [List.forall_mem_cons, List.not_mem_nil, false_imp_iff, implies_true, and_true]
    have hflags' : (s.flagsAddress m).toNat = m.manager.imageBase.toNat+s.flagsRva.toNat := by
      unfold CdStreamDiskSpec.flagsAddress
      bv_omega
    exact ⟨exists_word (m.manager.imageBase+t.diskIatRva) (by bv_omega) List.mem_cons_self,
      exists_word (s.flagsAddress m+8) (by bv_omega) List.mem_cons_self,
      exists_word (s.flagsAddress m) hflags' List.mem_cons_self,
      exists_word (s.flagsAddress m+4) (by bv_omega) List.mem_cons_self⟩

section Allocation
variable {s : CdStreamAllocationSpec} {disk : CdStreamDiskSpec} {seh : CwdSehSpec}
  {ready : FileManagerReadySpec} {c : CdStreamAllocationCode}
  (h : cdStreamAllocationCode s disk m seh ready = some c)
include h

theorem cdStreamAllocation_valid : PlacedImage m ∧
    ∀ x ∈ [(disk.allocatorRva,35),(s.mallocRva,18),(s.nhRva,44),(s.heapRva,111),(s.scopeRva,12),
        (s.newModeRva,4),(s.thresholdRva,4),(s.heapHandleRva,4),(s.heapModeRva,4),(s.iatRva,4),
        (seh.prologue.targetRva,59),(ready.epilogueRva,17)],
      InsideImage m.manager.imageSize x.1 x.2 := by
  dsimp only [cdStreamAllocationCode] at h
  split at h
  · contradiction
  next hguard =>
  clear h
  simp only [Bool.or_eq_true, decide_eq_true_eq, not_or, Bool.not_eq_true', Bool.not_eq_false]
    at hguard
  obtain ⟨⟨⟨⟨⟨⟨hsize,hbase⟩,_⟩,_⟩,_⟩,hspans⟩,_⟩ := hguard
  have hsize : 4096 ≤ m.manager.imageSize := Nat.not_lt.mp hsize
  refine ⟨⟨hsize,by bv_omega⟩,?_⟩
  simp only [List.forall_mem_cons, List.not_mem_nil, false_imp_iff, implies_true, and_true]
  exact ⟨inside_of_validSpans hsize hspans disk.allocatorRva 35,
    inside_of_validSpans hsize hspans s.mallocRva 18,
    inside_of_validSpans hsize hspans s.nhRva 44,inside_of_validSpans hsize hspans s.heapRva 111,
    inside_of_validSpans hsize hspans s.scopeRva 12,inside_of_validSpans hsize hspans s.newModeRva 4,
    inside_of_validSpans hsize hspans s.thresholdRva 4,
    inside_of_validSpans hsize hspans s.heapHandleRva 4,
    inside_of_validSpans hsize hspans s.heapModeRva 4,inside_of_validSpans hsize hspans s.iatRva 4,
    inside_of_validSpans hsize hspans seh.prologue.targetRva 59,
    inside_of_validSpans hsize hspans ready.epilogueRva 17⟩

theorem cdStreamAllocationBlocks_decode (hlands : LandsInside m.manager.imageSize.toNat lands) :
    ∀ b ∈ cdStreamAllocationBlocks s disk seh ready c, b.Decodes lands m.manager.imageBase := by
  obtain ⟨⟨hsize,hbase⟩,hspans⟩ := cdStreamAllocation_valid h
  obtain ⟨haligned,hmalloc,hnh,hentry,htail⟩ := cdStreamAllocationCode_eq h
  simp only [List.forall_mem_cons, List.not_mem_nil, false_imp_iff, implies_true, and_true,
    InsideImage] at hspans
  obtain ⟨hs1,hs2,hs3,hs4,hs5,hs6,hs7,hs8,hs9,hs10,hs11,hs12⟩ := hspans
  clear h
  simp only [cdStreamAllocationBlocks, List.forall_mem_cons, List.not_mem_nil, false_imp_iff,
    implies_true, and_true]
  refine ⟨⟨_,by rw [haligned]; rfl,?_,?_⟩,⟨_,by rw [hmalloc]; rfl,?_,?_⟩,
    ⟨_,by rw [hnh]; rfl,?_,?_⟩,⟨_,by rw [hentry]; rfl,?_,?_⟩,⟨_,by rw [htail]; rfl,?_,?_⟩⟩
  · exact .cons (hlands.branch (disk.allocatorRva.toNat+17) (s.mallocRva-disk.allocatorRva-17) rfl
      (by bv_omega) (by omega)) .nil
  · exact fun _ h => nomatch h
  · exact .cons (hlands.branch (s.mallocRva.toNat+15) (s.nhRva-s.mallocRva-15) rfl (by bv_omega)
      (by omega)) .nil
  · exact List.forall_mem_singleton.mpr (exists_word (m.manager.imageBase+s.newModeRva)
      (by bv_omega) List.mem_cons_self)
  · exact .cons (hlands.branch (s.nhRva.toNat+16) (s.heapRva-s.nhRva-16) rfl (by bv_omega)
      (by omega)) .nil
  · exact fun _ h => nomatch h
  · exact .cons (hlands.branch (s.heapRva.toNat+12) (seh.prologue.targetRva-s.heapRva-12) rfl
      (by bv_omega) (by omega)) .nil
  · simp only [List.forall_mem_cons, List.not_mem_nil, false_imp_iff, implies_true, and_true]
    exact ⟨exists_word (m.manager.imageBase+s.scopeRva) (by bv_omega) List.mem_cons_self,
      exists_word (m.manager.imageBase+s.heapModeRva) (by bv_omega) List.mem_cons_self,
      exists_word (m.manager.imageBase+s.thresholdRva) (by bv_omega) List.mem_cons_self⟩
  · exact .cons (hlands.branch (s.heapRva.toNat+70+40) (ready.epilogueRva-(s.heapRva+70)-40) rfl
      (by bv_omega) (by omega)) .nil
  · simp only [List.forall_mem_cons, List.not_mem_nil, false_imp_iff, implies_true, and_true]
    exact ⟨exists_word (m.manager.imageBase+s.heapModeRva) (by bv_omega) List.mem_cons_self,
      exists_word (m.manager.imageBase+s.heapHandleRva) (by bv_omega) List.mem_cons_self,
      exists_word (m.manager.imageBase+s.iatRva) (by bv_omega) List.mem_cons_self⟩

end Allocation

theorem cdStreamChannels_valid {s : CdStreamChannelsSpec} {t : CdStreamTablesSpec}
    {c : Vector UInt8 64} (h : cdStreamChannelsCode s t m = some c) : PlacedImage m ∧
      (t.targetRva+137).toNat = t.targetRva.toNat+137 ∧ 8 ≤ t.namesRva.toNat ∧
      InsideImage m.manager.imageSize (t.targetRva+137) 64 ∧
      InsideImage m.manager.imageSize (t.namesRva-8) 8 ∧
      InsideImage m.manager.imageSize s.pointerRva 8 ∧
      ∀ x ∈ [(s.errorIatRva,4),(s.localIatRva,4),(s.filenameRva,16),(s.openRva,5)],
        InsideImage m.manager.imageSize x.1 x.2 := by
  dsimp only [cdStreamChannelsCode] at h
  split at h
  · contradiction
  next hguard =>
  clear h
  simp only [Bool.or_eq_true, decide_eq_true_eq, not_or, Bool.not_eq_true', Bool.not_eq_false]
    at hguard
  obtain ⟨⟨⟨⟨⟨⟨⟨⟨⟨⟨hsize,hbase⟩,htarget⟩,hnames⟩,hpointer⟩,hspans⟩,_⟩,_⟩,_⟩,_⟩,_⟩ := hguard
  have hsize : 4096 ≤ m.manager.imageSize := Nat.not_lt.mp hsize
  have hcode := inside_of_validSpans hsize hspans (t.targetRva+137) 64
  have hcount := inside_of_validSpans hsize hspans (t.namesRva-8) 8
  have hwindow := inside_of_validSpans hsize hspans (s.pointerRva-4) 12
  refine ⟨⟨hsize,by bv_omega⟩,by bv_omega,by bv_omega,hcode,hcount,?_,?_⟩
  · clear hspans
    unfold InsideImage at hwindow ⊢
    bv_omega
  · simp only [List.forall_mem_cons, List.not_mem_nil, false_imp_iff, implies_true, and_true]
    exact ⟨inside_of_validSpans hsize hspans s.errorIatRva 4,
      inside_of_validSpans hsize hspans s.localIatRva 4,
      inside_of_validSpans hsize hspans s.filenameRva 16,
      inside_of_validSpans hsize hspans s.openRva 5⟩

theorem cdStreamChannelsBlocks_decode {s : CdStreamChannelsSpec} {t : CdStreamTablesSpec}
    {c : Vector UInt8 64} (h : cdStreamChannelsCode s t m = some c)
    (hlands : LandsInside m.manager.imageSize.toNat lands) :
    ∀ b ∈ cdStreamChannelsBlocks s t c, b.Decodes lands m.manager.imageBase := by
  obtain ⟨⟨hsize,hbase⟩,htarget,hnames,hcode,hcount,hpointer,hspans⟩ := cdStreamChannels_valid h
  have hbody := cdStreamChannelsCode_eq h
  simp only [List.forall_mem_cons, List.not_mem_nil, false_imp_iff, implies_true, and_true,
    InsideImage] at hspans
  obtain ⟨herror,hlocal,hfilename,hopen⟩ := hspans
  unfold InsideImage at hcode hcount hpointer
  clear h
  simp only [cdStreamChannelsBlocks, List.forall_mem_cons, List.not_mem_nil, false_imp_iff,
    implies_true, and_true]
  refine ⟨_,by rw [hbody]; rfl,?_,?_⟩
  · exact .cons (hlands.branch (t.targetRva.toNat+137+64) (s.openRva-(t.targetRva+137)-64) rfl
      (by bv_omega) (by omega)) .nil
  · simp only [List.forall_mem_cons, List.not_mem_nil, false_imp_iff, implies_true, and_true]
    refine ⟨exists_word (s.errorImport m) ?_ List.mem_cons_self,
      exists_word (t.names m-4) ?_ List.mem_cons_self,
      exists_word (t.names m-8) ?_ List.mem_cons_self,
      exists_word (s.localImport m) ?_ List.mem_cons_self,
      exists_word (s.filename m) ?_ List.mem_cons_self,
      exists_word (s.pointer m) ?_ List.mem_cons_self⟩
    all_goals simp only [CdStreamTablesSpec.names, CdStreamChannelsSpec.errorImport,
      CdStreamChannelsSpec.localImport, CdStreamChannelsSpec.filename, CdStreamChannelsSpec.pointer]
    all_goals bv_omega

end CdStream

end Builders

/-! An image of more than 2 GiB, which the builders of the cd_stream code accept. -/

def wideManager : FileManagerEntrySpec :=
  ⟨⟨0x10000,0xe0000000,0x2000,0,Vector.replicate 5 0,Vector.replicate 16 0⟩,0,0x30000,0,
    #v[0x6a,5,0xe8,0xf4,0xdf,0xff,0x9f,0,0,0,0,0,0,0,0,0]⟩

def wideTables : CdStreamTablesSpec :=
  { targetRva := 0xa0000000, handlesRva := 0x10000, namesRva := 0x10088, diskIatRva := 0x20000 }

theorem cd_stream_tables_branch_wraps :
    ¬ ∀ (s : CdStreamTablesSpec) (m : FileManagerEntrySpec) (c : CdStreamTablesCode),
      cdStreamTablesCode s m = some c →
        ∀ b ∈ cdStreamTablesBlocks s m c, b.Decodes Eq m.manager.imageBase := by
  intro h
  have hsome : (cdStreamTablesCode wideTables wideManager).isSome = true := by decide
  obtain ⟨c,hc⟩ := Option.isSome_iff_exists.mp hsome
  obtain ⟨xs,hxs,hbranches,_⟩ := h wideTables wideManager c hc _ List.mem_cons_self
  obtain ⟨hcaller,_⟩ := cdStreamTablesCode_eq hc
  have hcaller : c.caller.toList = [0x6a,5,0xe8]++write 4 (0x9fffdff4 : BitVec 32) := hcaller
  rw [hcaller] at hxs
  obtain rfl := Option.some.inj hxs
  -- The distance is more than 2^31 and is read as a negative one.
  have hland := (List.forall₂_cons.mp hbranches).1
  exact absurd (a := (0x200c : ℤ)+(0x9fffdff4 : BitVec 32).toInt = 0xa0000000) hland (by decide)

/-! The operands of the nine builders. -/

/-- None of the bytes that a near branch begins with. -/
def NoNearBranch (bytes : List UInt8) : Prop :=
  ∀ b ∈ bytes, b ≠ 0xe8 ∧ b ≠ 0xe9 ∧ b ≠ 0x0f

theorem applicationRouting_targets {s : ApplicationRoutingSpec} {p : EventDispatchSpec}
    {c : ApplicationRoutingCode} (h : applicationRoutingCode s p = some c) (i : Fin 11) :
    (c.targets.get i).toNat = p.application.imageBase.toNat+(s.targetRvas.get i).toNat := by
  obtain ⟨hvalid,_,htargets⟩ := applicationRouting_valid h
  have hplaced := FrameTargetSpec.inside hvalid
  have htarget : InsideImage p.application.imageSize (s.targetRvas.get i) 1 := htargets i i.isLt
  have heq : c.targets.get i = p.application.imageBase+s.targetRvas.get i := by
    unfold applicationRoutingCode at h
    split at h
    · cases h
    · rw [← Option.some.inj h]
      exact Vector.getElem_map (p.application.imageBase+·) i.isLt
  unfold InsideImage at htarget
  rw [heq]
  bv_omega

theorem emitted_operands_decode :
    (∀ s p c, applicationRoutingCode s p = some c →
      Decoded p.application.imageBase p.application.imageSize (applicationRoutingBlocks s p c) ∧
      p.application.imageSize.toNat ≤ 2^28 ∧ ∀ i,
        (c.targets.get i).toNat = p.application.imageBase.toNat+(s.targetRvas.get i).toNat) ∧
    (∀ q l c, cwdQueryCode q l = some c →
      Decoded l.selector.imageBase l.selector.imageSize (cwdQueryBlocks q l c) ∧
      l.selector.imageSize.toNat ≤ 2^28) ∧
    (∀ o q l c, cwdCopyCode o q l = some c →
      Decoded l.selector.imageBase l.selector.imageSize (cwdCopyBlocks o q c) ∧
      l.selector.imageSize.toNat ≤ 2^28 ∧ NoNearBranch c.body.toList) ∧
    (∀ s o q l c, cwdReturnCode s o q l = some c →
      Decoded l.selector.imageBase l.selector.imageSize (cwdReturnBlocks s q c) ∧
      l.selector.imageSize.toNat ≤ 2^28) ∧
    (∀ s q l seh f c, fileManagerReadyCode s q l seh f = some c →
      Decoded l.selector.imageBase l.selector.imageSize (fileManagerReadyBlocks s l seh c) ∧
      l.selector.imageSize.toNat ≤ 2^28) ∧
    (∀ s m c, cdStreamTablesCode s m = some c →
      Decoded m.manager.imageBase m.manager.imageSize (cdStreamTablesBlocks s m c)) ∧
    (∀ s t m c, cdStreamDiskCode s t m = some c →
      Decoded m.manager.imageBase m.manager.imageSize (cdStreamDiskBlocks s t c)) ∧
    (∀ s disk m seh ready c, cdStreamAllocationCode s disk m seh ready = some c →
      Decoded m.manager.imageBase m.manager.imageSize
        (cdStreamAllocationBlocks s disk seh ready c)) ∧
    ∀ s t m c, cdStreamChannelsCode s t m = some c →
      Decoded m.manager.imageBase m.manager.imageSize (cdStreamChannelsBlocks s t c) := by
  refine ⟨?routing,?query,?copy,?ret,?ready,?tables,?disk,?allocation,?channels⟩
  case routing =>
    intro s p c h
    obtain ⟨_,_,hsize,_⟩ := FrameTargetSpec.inside (applicationRouting_valid h).1
    exact ⟨decoded_of_landsInside fun _ hlands => applicationRoutingBlocks_decode h hlands,
      hsize,applicationRouting_targets h⟩
  case query =>
    intro q l c h
    obtain ⟨_,_,hsize,_⟩ := FrameTargetSpec.inside (cwdQuery_valid h).1
    exact ⟨decoded_of_landsInside fun _ hlands => cwdQueryBlocks_decode h hlands,
      hsize⟩
  case copy =>
    intro o q l c h
    obtain ⟨⟨_,hquery⟩,_⟩ := cwdCopy_valid h
    obtain ⟨_,_,hsize,_⟩ := FrameTargetSpec.inside (cwdQuery_valid hquery).1
    obtain ⟨_,_,_,_,hbody⟩ := cwdCopyCode_eq h
    exact ⟨decoded_of_landsInside fun _ hlands => cwdCopyBlocks_decode h hlands,
      hsize,hbody⟩
  case ret =>
    intro s o q l c h
    obtain ⟨⟨_,hcopy⟩,_⟩ := cwdReturn_valid h
    obtain ⟨⟨_,hquery⟩,_⟩ := cwdCopy_valid hcopy
    obtain ⟨_,_,hsize,_⟩ := FrameTargetSpec.inside (cwdQuery_valid hquery).1
    exact ⟨decoded_of_landsInside fun _ hlands => cwdReturnBlocks_decode h hlands,
      hsize⟩
  case ready =>
    intro s q l seh f c h
    obtain ⟨_,_,hsize,_⟩ := FrameTargetSpec.inside (fileManagerReady_valid h).1
    exact ⟨decoded_of_landsInside fun _ hlands => fileManagerReadyBlocks_decode h hlands,
      hsize⟩
  case tables =>
    intro s m c h
    exact decoded_of_landsInside fun _ hlands => cdStreamTablesBlocks_decode h hlands
  case disk =>
    intro s t m c h
    exact decoded_of_landsInside fun _ hlands => cdStreamDiskBlocks_decode h hlands
  case allocation =>
    intro s disk m seh ready c h
    exact decoded_of_landsInside fun _ hlands => cdStreamAllocationBlocks_decode h hlands
  case channels =>
    intro s t m c h
    exact decoded_of_landsInside fun _ hlands => cdStreamChannelsBlocks_decode h hlands

/-- All nine builders emit code for the specs of the reviewed image. -/
theorem emitted_operands_decode_reviewed :
    (∃ c, applicationRoutingCode reviewedApplicationRoutingSpec reviewedEventDispatchSpec = some c ∧
      Decoded 0x400000 0x1177000
        (applicationRoutingBlocks reviewedApplicationRoutingSpec reviewedEventDispatchSpec c)) ∧
    (∃ c, cwdQueryCode reviewedCwdQuerySpec reviewedCwdLockSpec = some c ∧
      Decoded 0x400000 0x1177000 (cwdQueryBlocks reviewedCwdQuerySpec reviewedCwdLockSpec c)) ∧
    (∃ c, cwdCopyCode reviewedCwdCopySpec reviewedCwdQuerySpec reviewedCwdLockSpec = some c ∧
      Decoded 0x400000 0x1177000 (cwdCopyBlocks reviewedCwdCopySpec reviewedCwdQuerySpec c)) ∧
    (∃ c, cwdReturnCode reviewedCwdReturnSpec reviewedCwdCopySpec reviewedCwdQuerySpec
        reviewedCwdLockSpec = some c ∧
      Decoded 0x400000 0x1177000 (cwdReturnBlocks reviewedCwdReturnSpec reviewedCwdQuerySpec c)) ∧
    (∃ c, fileManagerReadyCode reviewedFileManagerReadySpec reviewedCwdReturnSpec reviewedCwdLockSpec
        reviewedCwdSehSpec reviewedFileManagerSpec = some c ∧
      Decoded 0x400000 0x1177000 (fileManagerReadyBlocks reviewedFileManagerReadySpec
        reviewedCwdLockSpec reviewedCwdSehSpec c)) ∧
    (∃ c, cdStreamTablesCode reviewedCdStreamTablesSpec reviewedFileManagerSpec = some c ∧
      Decoded 0x400000 0x1177000
        (cdStreamTablesBlocks reviewedCdStreamTablesSpec reviewedFileManagerSpec c)) ∧
    (∃ c, cdStreamDiskCode reviewedCdStreamDiskSpec reviewedCdStreamTablesSpec
        reviewedFileManagerSpec = some c ∧
      Decoded 0x400000 0x1177000
        (cdStreamDiskBlocks reviewedCdStreamDiskSpec reviewedCdStreamTablesSpec c)) ∧
    (∃ c, cdStreamAllocationCode reviewedCdStreamAllocationSpec reviewedCdStreamDiskSpec
        reviewedFileManagerSpec reviewedCwdSehSpec reviewedFileManagerReadySpec = some c ∧
      Decoded 0x400000 0x1177000 (cdStreamAllocationBlocks reviewedCdStreamAllocationSpec
        reviewedCdStreamDiskSpec reviewedCwdSehSpec reviewedFileManagerReadySpec c)) ∧
    ∃ c, cdStreamChannelsCode reviewedCdStreamChannelsSpec reviewedCdStreamTablesSpec
        reviewedFileManagerSpec = some c ∧
      Decoded 0x400000 0x1177000
        (cdStreamChannelsBlocks reviewedCdStreamChannelsSpec reviewedCdStreamTablesSpec c) := by
  obtain ⟨hrouting,hquery,hcopy,hreturn,hready,htables,hdisk,hallocation,hchannels⟩ :=
    emitted_operands_decode
  have hemitted := applicationRoutingLoaded_reviewed.emits
  have hloaded := cwdQueryLoaded_reviewed
  have hpresent := fileManagerReadyLoaded_reviewed.emits
  have hstream := cdStreamTablesLoaded_reviewed.emits
  exact ⟨⟨_,hemitted,(hrouting _ _ _ hemitted).1⟩,⟨_,hloaded.1.emits,(hquery _ _ _ hloaded.1.emits).1⟩,
    ⟨_,hloaded.2.1.emits,(hcopy _ _ _ _ hloaded.2.1.emits).1⟩,
    ⟨_,hloaded.2.2.emits,(hreturn _ _ _ _ _ hloaded.2.2.emits).1⟩,
    ⟨_,hpresent,(hready _ _ _ _ _ _ hpresent).1⟩,⟨_,hstream,htables _ _ _ hstream⟩,
    ⟨_,cdStreamDiskLoaded_reviewed.emits,hdisk _ _ _ _ cdStreamDiskLoaded_reviewed.emits⟩,
    ⟨_,cdStreamAllocationLoaded_reviewed.emits,
      hallocation _ _ _ _ _ _ cdStreamAllocationLoaded_reviewed.emits⟩,
    _,cdStreamChannelsLoaded_reviewed.emits,hchannels _ _ _ _ cdStreamChannelsLoaded_reviewed.emits⟩

end Saex
