import Saex.CdStreamChannels
import Saex.RegionWalks

/-! `allocation_hash` of engine/loader/loader_observation.cpp: the bytes of a heap block are
hashed region by region, all but the metadata word. -/
namespace Saex
open RegionWalks

/-- What a query of the virtual memory answers, with pointers of `w` bits. -/
structure MemoryBasicInformation (w : ℕ) where
  baseAddress : BitVec w
  allocationBase : BitVec w
  regionSize : BitVec w
  state : BitVec 32
  protect : BitVec 32
  type : BitVec 32

/-- The process as the observer finds it while it is stopped: the answers to the queries, which
of the reads succeed, and the bytes. -/
structure ProcessView where
  query : ℕ → BitVec 32 → Option (MemoryBasicInformation 32)
  readable : ℕ → Bool
  memory : BitVec 32 → UInt8

def ProcessView.read (v : ProcessView) (i : ℕ) (address : BitVec 32) (length : ℕ) : Option (List UInt8) :=
  if v.readable i then some ((List.range length).map fun j => v.memory (address+BitVec.ofNat 32 j))
  else none

/-- The tests on the block before anything is read. -/
def allocationHashAdmits (block : CdStreamAllocationLayout) : Bool :=
  !(block.bytes = 0 || block.bytes > 67584 || block.raw > 0xffffffff-block.bytes ||
    block.metadata < block.raw || block.metadata > block.raw+block.bytes-4)

/-- Committed private memory that can be read and written, from `address` on or earlier. -/
def hashedRegion (region : MemoryBasicInformation 32) (address : BitVec 32) : Bool :=
  region.state = 0x1000 && region.type = 0x20000 && region.protect = 4 &&
    address ≥ region.baseAddress && address-region.baseAddress < region.regionSize

/-- The metadata bytes of a chunk are taken as zero. -/
def maskMetadata (block : CdStreamAllocationLayout) (address : BitVec 32) (bytes : List UInt8) :
    List UInt8 :=
  bytes.mapIdx fun j b =>
    if address+BitVec.ofNat 32 j ≥ block.metadata ∧ address+BitVec.ofNat 32 j < block.metadata+4
    then 0 else b

/-- As much as fits into the buffer, the block and the region. -/
def hashLength (block : CdStreamAllocationLayout) (region : MemoryBasicInformation 32)
    (address offset : BitVec 32) : ℕ :=
  min 256 (min (block.bytes-offset).toNat (region.regionSize-(address-region.baseAddress)).toNat)

theorem hashLength_pos {block : CdStreamAllocationLayout} {region : MemoryBasicInformation 32}
    {offset address : BitVec 32} (hregion : hashedRegion region address)
    (hoffset : offset < block.bytes) : 0 < hashLength block region address offset ∧
      hashLength block region address offset ≤ block.bytes.toNat-offset.toNat := by
  unfold hashedRegion at hregion
  simp only [Bool.and_eq_true, decide_eq_true_eq] at hregion
  unfold hashLength
  bv_omega

/-- The loop, with the chunks that are hashed one after the other. -/
def allocationHashLoop (v : ProcessView) (block : CdStreamAllocationLayout) (i : ℕ)
    (offset : BitVec 32) : Option (List (List UInt8)) :=
  if _h : offset < block.bytes then
    let address := block.raw+offset
    match v.query i address with
    | none => none
    | some region =>
      if _h : hashedRegion region address then
        let length := hashLength block region address offset
        match v.read i address length with
        | none => none
        | some bytes => (allocationHashLoop v block (i+1) (offset+BitVec.ofNat 32 length)).map
          (maskMetadata block address bytes :: ·)
      else none
  else some []
termination_by block.bytes.toNat-offset.toNat
decreasing_by
  have hlength := @hashLength_pos block region offset (block.raw+offset) ‹_› ‹_›
  bv_omega

/-- `session` is the hash object: the digest of the chunks that were put into it, or a failure. -/
def allocationHash (session : List (List UInt8) → Option (Vector UInt8 32)) (v : ProcessView)
    (block : CdStreamAllocationLayout) : Option (Vector UInt8 32) :=
  if allocationHashAdmits block then (allocationHashLoop v block 0 0).bind session else none

/-! The bytes that reach the hash. -/

/-- A byte of the block as it is hashed. -/
def hashedByte (memory : BitVec 32 → UInt8) (block : CdStreamAllocationLayout) (x : ℕ) : UInt8 :=
  if block.metadata.toNat ≤ x ∧ x < block.metadata.toNat+4 then 0 else memory (BitVec.ofNat 32 x)

/-- The block with a zero metadata word. -/
def hashedBytes (memory : BitVec 32 → UInt8) (block : CdStreamAllocationLayout) : List UInt8 :=
  (List.range' block.raw.toNat block.bytes.toNat).map (hashedByte memory block)

/-- How far the `i`-th round gets from `x` on. -/
def hashReach (v : ProcessView) (i x : ℕ) : Option ℕ :=
  (v.query i (BitVec.ofNat 32 x)).bind fun region =>
    if hashedRegion region (BitVec.ofNat 32 x) && v.readable i then
      some (min (x+256) (region.baseAddress.toNat+region.regionSize.toNat))
    else none

variable {v : ProcessView} {block : CdStreamAllocationLayout}

theorem hashLength_toNat {region : MemoryBasicInformation 32} {offset address : BitVec 32}
    (hregion : hashedRegion region address) (hoffset : offset < block.bytes) :
    address.toNat < region.baseAddress.toNat+region.regionSize.toNat ∧
      hashLength block region address offset = min 256 (min (block.bytes.toNat-offset.toNat)
        (region.baseAddress.toNat+region.regionSize.toNat-address.toNat)) := by
  unfold hashedRegion at hregion
  simp only [Bool.and_eq_true, decide_eq_true_eq] at hregion
  unfold hashLength
  bv_omega

/-- A chunk is masked byte by byte, also where the metadata word crosses its end. -/
theorem maskMetadata_chunk (hadmits : allocationHashAdmits block) {address : BitVec 32} {length : ℕ}
    (hfits : address.toNat+length ≤ block.raw.toNat+block.bytes.toNat) :
    maskMetadata block address
      ((List.range length).map fun j => v.memory (address+BitVec.ofNat 32 j)) =
    (List.range' address.toNat length).map (hashedByte v.memory block) := by
  unfold allocationHashAdmits at hadmits
  simp only [Bool.not_eq_true', Bool.or_eq_false_iff, decide_eq_false_iff_not] at hadmits
  obtain ⟨⟨⟨⟨_,hbytes⟩,hraw⟩,hlow⟩,hhigh⟩ := hadmits
  refine List.ext_getElem (by simp [maskMetadata]) fun j h1 h2 => ?_
  have hj : j < length := by simpa using h2
  have hplace : address+BitVec.ofNat 32 j = BitVec.ofNat 32 (address.toNat+j) := by
    rw [BitVec.ofNat_add, BitVec.ofNat_toNat, BitVec.setWidth_eq]
  have hwindow : (address+BitVec.ofNat 32 j ≥ block.metadata ∧
      address+BitVec.ofNat 32 j < block.metadata+4) ↔
      (block.metadata.toNat ≤ address.toNat+j ∧ address.toNat+j < block.metadata.toNat+4) := by
    bv_omega
  simp only [maskMetadata, List.getElem_mapIdx, List.getElem_map, List.getElem_range,
    List.getElem_range', Nat.one_mul, hashedByte]
  rw [if_congr hwindow rfl rfl, hplace]

/-- One round of the loop, without the reasons for which it stops. -/
theorem allocationHashLoop_of_lt {i : ℕ} {offset : BitVec 32} (hoffset : offset < block.bytes) :
    allocationHashLoop v block i offset = (v.query i (block.raw+offset)).bind fun region =>
      if hashedRegion region (block.raw+offset) && v.readable i then
        let length := hashLength block region (block.raw+offset) offset
        (allocationHashLoop v block (i+1) (offset+BitVec.ofNat 32 length)).map
          (maskMetadata block (block.raw+offset) ((List.range length).map fun j =>
            v.memory (block.raw+offset+BitVec.ofNat 32 j)) :: ·)
      else none := by
  rw [allocationHashLoop, dif_pos hoffset]
  dsimp only
  cases hquery : v.query i (block.raw+offset) with
  | none => rfl
  | some region =>
    cases hregion : hashedRegion region (block.raw+offset) <;>
      cases hreadable : v.readable i <;> simp [hregion, ProcessView.read, hreadable]

theorem allocationHashLoop_of_not_lt {i : ℕ} {offset : BitVec 32} (hoffset : ¬offset < block.bytes) :
    allocationHashLoop v block i offset = some [] := by
  rw [allocationHashLoop, dif_neg hoffset]

/-- The loop is the walk over the block, read stretch by stretch. -/
theorem allocationHashLoop_eq (hadmits : allocationHashAdmits block) (i : ℕ) {offset : BitVec 32}
    (hoffset : offset ≤ block.bytes) : allocationHashLoop v block i offset =
      (walk (hashReach v) (block.raw.toNat+block.bytes.toNat) i (block.raw.toNat+offset.toNat)).map
        fun xs => xs.map fun s => (List.range' s.1 (s.2-s.1)).map (hashedByte v.memory block) := by
  have hraw : block.raw.toNat+block.bytes.toNat < 2^32 := by
    unfold allocationHashAdmits at hadmits
    simp only [Bool.not_eq_true', Bool.or_eq_false_iff, decide_eq_false_iff_not] at hadmits
    bv_omega
  induction hn : block.bytes.toNat-offset.toNat using Nat.strong_induction_on
    generalizing i offset with
  | _ n ih =>
    by_cases hlt : offset < block.bytes
    · have haddress : (block.raw+offset).toNat = block.raw.toNat+offset.toNat := by bv_omega
      have hplace : BitVec.ofNat 32 (block.raw.toNat+offset.toNat) = block.raw+offset := by
        rw [← haddress, BitVec.ofNat_toNat, BitVec.setWidth_eq]
      rw [allocationHashLoop_of_lt hlt, walk_of_lt (by bv_omega), hashReach, hplace,
        Option.bind_assoc, Option.map_bind]
      refine Option.bind_congr fun region _ => ?_
      rw [Function.comp_apply]
      by_cases haccepted : (hashedRegion region (block.raw+offset) && v.readable i) = true
      · have hregion := (Bool.and_eq_true_iff.mp haccepted).1
        obtain ⟨hprogress,hlength⟩ := hashLength_toNat hregion hlt
        have hpos := hashLength_pos hregion hlt
        rw [if_pos haccepted, if_pos haccepted, Option.bind_some]
        generalize hashLength block region (block.raw+offset) offset = length at hlength hpos ⊢
        dsimp only
        rw [haddress] at hprogress hlength
        have hnext : (offset+BitVec.ofNat 32 length).toNat = offset.toNat+length := by bv_omega
        have hstretch : min (block.raw.toNat+block.bytes.toNat) (min (block.raw.toNat+offset.toNat+256)
            (region.baseAddress.toNat+region.regionSize.toNat)) =
            block.raw.toNat+offset.toNat+length := by omega
        have hle : offset+BitVec.ofNat 32 length ≤ block.bytes := by bv_omega
        have hchunk := @maskMetadata_chunk v block hadmits (block.raw+offset) length (by omega)
        rw [if_pos (by omega), hstretch, ih _ (by omega) (i+1) hle rfl, hnext, hchunk, haddress,
          ← Nat.add_assoc, Option.map_map, Option.map_map]
        congr 1
        funext xs
        simp only [Function.comp_apply, List.map_cons, Nat.add_sub_cancel_left]
      · rw [if_neg haccepted, if_neg haccepted]
        rfl
    · rw [allocationHashLoop_of_not_lt hlt, walk_of_le (by bv_omega)]
      rfl

/-- Whatever the regions are: what a finished loop has hashed is the block. -/
theorem flatten_of_allocationHashLoop (hadmits : allocationHashAdmits block)
    {chunks : List (List UInt8)} (h : allocationHashLoop v block 0 0 = some chunks) :
    chunks.flatten = hashedBytes v.memory block := by
  rw [allocationHashLoop_eq hadmits 0 (Nat.zero_le _)] at h
  obtain ⟨xs,hxs,rfl⟩ := Option.map_eq_some_iff.mp h
  have hconsecutive := walk_consecutive hxs (Nat.le_add_right _ _)
  have hflat := hconsecutive.flatMap_range' (hashedByte v.memory block)
  rw [← List.flatMap_def, hflat, hashedBytes]
  simp

/-- Two snapshots give the same bytes exactly when they agree outside the metadata word. -/
theorem hashedBytes_eq_iff (memory memory' : BitVec 32 → UInt8) (block : CdStreamAllocationLayout) :
    hashedBytes memory block = hashedBytes memory' block ↔
      ∀ x, block.raw.toNat ≤ x → x < block.raw.toNat+block.bytes.toNat →
        ¬(block.metadata.toNat ≤ x ∧ x < block.metadata.toNat+4) →
        memory (BitVec.ofNat 32 x) = memory' (BitVec.ofNat 32 x) := by
  rw [hashedBytes, hashedBytes, List.map_inj_left]
  refine forall_congr' fun x => ?_
  rw [List.mem_range'_1, and_imp]
  refine forall_congr' fun _ => forall_congr' fun _ => ?_
  unfold hashedByte
  by_cases hmetadata : block.metadata.toNat ≤ x ∧ x < block.metadata.toNat+4
  · rw [if_pos hmetadata, if_pos hmetadata]
    exact iff_of_true rfl fun hnot => absurd hmetadata hnot
  · rw [if_neg hmetadata, if_neg hmetadata]
    exact ⟨fun h _ => h,fun h => h hmetadata⟩

/-- Every region that is asked for is accepted, and every read succeeds. -/
def AcceptedThroughout (v : ProcessView) (block : CdStreamAllocationLayout) : Prop :=
  ∀ i x, block.raw.toNat ≤ x → x < block.raw.toNat+block.bytes.toNat →
    v.readable i = true ∧ ∃ region, v.query i (BitVec.ofNat 32 x) = some region ∧
      hashedRegion region (BitVec.ofNat 32 x) = true

theorem isSome_allocationHashLoop (hadmits : allocationHashAdmits block)
    (haccepted : AcceptedThroughout v block) : (allocationHashLoop v block 0 0).isSome := by
  have hraw : block.raw.toNat+block.bytes.toNat < 2^32 := by
    unfold allocationHashAdmits at hadmits
    simp only [Bool.not_eq_true', Bool.or_eq_false_iff, decide_eq_false_iff_not] at hadmits
    bv_omega
  rw [allocationHashLoop_eq hadmits 0 (Nat.zero_le _), Option.isSome_map]
  refine walk_isSome fun i x hlow hhigh => ?_
  obtain ⟨hreadable,region,hquery,hregion⟩ := haccepted i x hlow hhigh
  refine ⟨_,by rw [hashReach, hquery, Option.bind_some, hregion, hreadable]; rfl,?_⟩
  unfold hashedRegion at hregion
  simp only [Bool.and_eq_true, decide_eq_true_eq] at hregion
  bv_omega

/-- The stream of the hash does not depend on how the block falls into regions. -/
theorem allocation_hash_stream (block : CdStreamAllocationLayout)
    (hadmits : allocationHashAdmits block = true) (v v' : ProcessView) :
    (AcceptedThroughout v block → (allocationHashLoop v block 0 0).isSome) ∧
    (∀ chunks, allocationHashLoop v block 0 0 = some chunks →
      chunks.length ≤ block.bytes.toNat ∧ chunks.flatten = hashedBytes v.memory block ∧
      ∀ session, allocationHash session v block = session chunks) ∧
    ∀ chunks chunks', allocationHashLoop v block 0 0 = some chunks →
      allocationHashLoop v' block 0 0 = some chunks' →
      (chunks.flatten = chunks'.flatten ↔
        ∀ x, block.raw.toNat ≤ x → x < block.raw.toNat+block.bytes.toNat →
          ¬(block.metadata.toNat ≤ x ∧ x < block.metadata.toNat+4) →
          v.memory (BitVec.ofNat 32 x) = v'.memory (BitVec.ofNat 32 x)) := by
  refine ⟨isSome_allocationHashLoop hadmits,fun chunks h => ⟨?_,?_,fun session => ?_⟩,?_⟩
  · rw [allocationHashLoop_eq hadmits 0 (Nat.zero_le _)] at h
    obtain ⟨xs,hxs,rfl⟩ := Option.map_eq_some_iff.mp h
    have hlength := (walk_consecutive hxs (Nat.le_add_right _ _)).length_le
    rw [List.length_map]
    exact hlength.trans (Nat.add_sub_cancel_left ..).le
  · exact flatten_of_allocationHashLoop hadmits h
  · rw [allocationHash, if_pos hadmits, h, Option.bind_some]
  · intro chunks chunks' h h'
    rw [flatten_of_allocationHashLoop hadmits h, flatten_of_allocationHashLoop hadmits h']
    exact hashedBytes_eq_iff v.memory v'.memory block

/-- The metadata word lies across the end of the first chunk. -/
def straddledBlock : CdStreamAllocationLayout := ⟨65536,65794,65790,2560⟩

def committedView : ProcessView where
  query _ _ := some ⟨65536,65536,4096,0x1000,4,0x20000⟩
  readable _ := true
  memory _ := 1

theorem allocation_hash_stream_straddled :
    ∃ chunks, allocationHashLoop committedView straddledBlock 0 0 = some chunks ∧
      chunks.flatten = hashedBytes (fun _ => 1) straddledBlock := by
  have haccepted : AcceptedThroughout committedView straddledBlock := by
    intro i x hlow hhigh
    have hlow : 65536 ≤ x := hlow
    have hhigh : x < 65536+2560 := hhigh
    refine ⟨rfl,_,rfl,?_⟩
    clear * - hlow hhigh
    have hplace : (BitVec.ofNat 32 x).toNat = x := Nat.mod_eq_of_lt (by omega)
    simp only [hashedRegion, Bool.and_eq_true, decide_eq_true_eq, true_and]
    refine ⟨?_,?_⟩
    · exact hlow.trans_eq hplace.symm
    · bv_omega
  obtain ⟨hsome,hstream,_⟩ := allocation_hash_stream straddledBlock rfl committedView committedView
  obtain ⟨chunks,hchunks⟩ := Option.isSome_iff_exists.mp (hsome haccepted)
  exact ⟨chunks,hchunks,(hstream chunks hchunks).2.1⟩

/-! What `cd_stream_allocation_layout` accepts can be hashed, and stays clear of the channels. -/

theorem PlacedLayout.admitted {raw a : BitVec 32} {b : CdStreamAllocationLayout}
    (h : PlacedLayout raw a b) (hallocatable : Allocatable raw a) : allocationHashAdmits b = true := by
  obtain ⟨rfl,_,hmetadata,hbytes,habove,hbelow⟩ := h
  obtain ⟨_,hleast,hmost,hraw,_,hfits⟩ := hallocatable
  unfold allocationHashAdmits
  simp only [Bool.not_eq_true', Bool.or_eq_false_iff, decide_eq_false_iff_not]
  bv_omega

/-- The layout rounds up in the naturals, and nothing wraps. -/
theorem cd_stream_allocation_layout_places (raw a : BitVec 32) :
    ((cdStreamAllocationLayout raw a).1 = true ↔ Allocatable raw a) ∧
    ((cdStreamAllocationLayout raw a).1 = true → let b := (cdStreamAllocationLayout raw a).2
      b.raw = raw ∧ b.bytes.toNat = 2048+a.toNat ∧ (raw+a).toNat = raw.toNat+a.toNat ∧
      (raw+4).toNat = raw.toNat+4 ∧
      IsLeast {n | a.toNat ∣ n ∧ raw.toNat < n} b.aligned.toNat ∧
      b.metadata.toNat+4 = b.aligned.toNat ∧ raw.toNat ≤ b.metadata.toNat ∧
      b.aligned.toNat+2048 ≤ raw.toNat+b.bytes.toNat ∧ raw.toNat+b.bytes.toNat < 2^32 ∧
      allocationHashAdmits b = true ∧
      ∀ p, cdStreamChannelsRange p b = true →
        p.toNat+240 ≤ raw.toNat ∨ raw.toNat+b.bytes.toNat ≤ p.toNat) := by
  have hiff : (cdStreamAllocationLayout raw a).1 = true ↔ Allocatable raw a := by
    refine ⟨allocatable_of_layout,fun h => ?_⟩
    obtain ⟨b,hb,_⟩ := layout_of_allocatable h
    rw [hb]
  refine ⟨hiff,fun haccepted => ?_⟩
  have hallocatable := hiff.mp haccepted
  obtain ⟨b,hb,hplaced⟩ := layout_of_allocatable hallocatable
  have hadmitted := hplaced.admitted hallocatable
  have hleast := Alignment.isLeast_next
    (Nat.lt_of_lt_of_le (by decide) hallocatable.least) raw.toNat
  rw [hb]
  dsimp only
  obtain ⟨rfl,haligned,hmetadata,hbytes,habove,hbelow⟩ := hplaced
  have hfits := hallocatable.fits
  refine ⟨rfl,hbytes,by bv_omega,by bv_omega,haligned ▸ hleast,hmetadata,by omega,by omega,by omega,
    hadmitted,?_⟩
  intro p hrange
  unfold cdStreamChannelsRange at hrange
  simp only [Bool.and_eq_true, Bool.not_eq_true', Bool.and_eq_false_iff, decide_eq_true_eq,
    decide_eq_false_iff_not] at hrange
  obtain ⟨⟨⟨hp,_⟩,_⟩,hapart⟩ := hrange
  bv_omega

end Saex
