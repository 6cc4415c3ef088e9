import Saex.AllocationHash
import Saex.PeImage

/-! `SuspendedImage::copy` and `WindowsImageReader::copy`: before the bytes of an image are
read, every region that holds one of them is looked at. Pointers have 32 bits or more. -/
namespace Saex
open RegionWalks

/-- PAGE_READONLY, PAGE_READWRITE, PAGE_WRITECOPY and the same with execution. -/
def readableProtections : List (BitVec 32) := [0x02,0x04,0x08,0x20,0x40,0x80]

section Walk
variable {w : ℕ}

/-- Committed image memory of the allocation at `base` that can be read and is not guarded. -/
def verifiedRegion (base : BitVec w) (region : MemoryBasicInformation w) : Bool :=
  region.state = 0x1000 && region.type = 0x1000000 && region.allocationBase = base &&
    region.protect &&& 0x100 = 0 && readableProtections.contains (region.protect &&& 0xff)

/-- The tests on the answer to a query at `cursor`. -/
def coveredRegion (base cursor : BitVec w) (region : MemoryBasicInformation w) : Bool :=
  verifiedRegion base region &&
    !(region.baseAddress > cursor || region.regionSize > BitVec.allOnes w-region.baseAddress ||
      region.baseAddress+region.regionSize ≤ cursor)

theorem coveredRegion_iff {base cursor : BitVec w} {region : MemoryBasicInformation w} :
    coveredRegion base cursor region = true ↔ verifiedRegion base region = true ∧
      region.baseAddress.toNat ≤ cursor.toNat ∧
      region.baseAddress.toNat+region.regionSize.toNat < 2^w ∧
      cursor.toNat < region.baseAddress.toNat+region.regionSize.toNat := by
  have hpos : 0 < 2^w := Nat.two_pow_pos w
  have hle : region.baseAddress ≤ BitVec.allOnes w := by
    rw [BitVec.le_def, BitVec.toNat_allOnes]
    exact Nat.le_sub_one_of_lt region.baseAddress.isLt
  have hroom : (BitVec.allOnes w-region.baseAddress).toNat = 2^w-1-region.baseAddress.toNat := by
    rw [BitVec.toNat_sub_of_le hle, BitVec.toNat_allOnes]
  unfold coveredRegion
  simp only [Bool.and_eq_true, Bool.not_eq_true', Bool.or_eq_false_iff, decide_eq_false_iff_not,
    GT.gt, BitVec.lt_def, BitVec.le_def, hroom, not_lt, not_le]
  refine and_congr_right fun _ => ?_
  constructor
  · intro ⟨⟨hlow,hsize⟩,hhigh⟩
    have hsum : region.baseAddress.toNat+region.regionSize.toNat < 2^w := by omega
    rw [BitVec.toNat_add, Nat.mod_eq_of_lt hsum] at hhigh
    exact ⟨hlow,hsum,hhigh⟩
  · intro ⟨hlow,hsum,hhigh⟩
    rw [BitVec.toNat_add, Nat.mod_eq_of_lt hsum]
    exact ⟨⟨hlow,by omega⟩,hhigh⟩

/-- `std::min` of two addresses. -/
def earlier (x y : BitVec w) : BitVec w := if y < x then y else x

theorem toNat_earlier (x y : BitVec w) : (earlier x y).toNat = min x.toNat y.toNat := by
  unfold earlier
  split
  · next hlt => exact (Nat.min_eq_right (BitVec.lt_def.mp hlt).le).symm
  · next hge => exact (Nat.min_eq_left (not_lt.mp (mt BitVec.lt_def.mpr hge))).symm

/-- The loop, with the `i`-th answer to the queries: whether it gets through. -/
def pageWalk (base fin : BitVec w) (answers : ℕ → Option (MemoryBasicInformation w)) (i : ℕ)
    (cursor : BitVec w) : Bool :=
  if cursor < fin then
    match answers i with
    | none => false
    | some region =>
      if _h : coveredRegion base cursor region then
        pageWalk base fin answers (i+1) (earlier fin (region.baseAddress+region.regionSize))
      else false
  else true
termination_by fin.toNat-cursor.toNat
decreasing_by
  have hcovered := coveredRegion_iff.mp ‹_›
  have hsum : (region.baseAddress+region.regionSize).toNat =
      region.baseAddress.toNat+region.regionSize.toNat := by
    rw [BitVec.toNat_add, Nat.mod_eq_of_lt hcovered.2.2.1]
  have hcursor : cursor.toNat < fin.toNat := ‹_›
  rw [toNat_earlier, hsum]
  omega

/-- How far the `i`-th answer gets from `x` on, in the naturals. -/
def pageReach (base : BitVec w) (answers : ℕ → Option (MemoryBasicInformation w)) (i x : ℕ) :
    Option ℕ :=
  (answers i).bind fun region =>
    if verifiedRegion base region = true ∧ region.baseAddress.toNat ≤ x ∧
        region.baseAddress.toNat+region.regionSize.toNat < 2^w then
      some (region.baseAddress.toNat+region.regionSize.toNat)
    else none

/-- No sum of the loop wraps: it is the walk over the naturals. -/
theorem pageWalk_eq (base fin : BitVec w) (answers : ℕ → Option (MemoryBasicInformation w)) (i : ℕ)
    (cursor : BitVec w) : pageWalk base fin answers i cursor =
      (walk (pageReach base answers) fin.toNat i cursor.toNat).isSome := by
  induction hn : fin.toNat-cursor.toNat using Nat.strong_induction_on generalizing i cursor with
  | _ n ih =>
    rw [pageWalk]
    by_cases hlt : cursor < fin
    · rw [if_pos hlt, walk_of_lt hlt, pageReach]
      cases answers i with
      | none => rfl
      | some region =>
        dsimp only
        rw [Option.bind_some]
        by_cases hcovered : coveredRegion base cursor region = true
        · obtain ⟨hverified,hlow,hsum,hhigh⟩ := coveredRegion_iff.mp hcovered
          have hreached : (region.baseAddress+region.regionSize).toNat =
              region.baseAddress.toNat+region.regionSize.toNat := by
            rw [BitVec.toNat_add, Nat.mod_eq_of_lt hsum]
          have hnext : (earlier fin (region.baseAddress+region.regionSize)).toNat =
              min fin.toNat (region.baseAddress.toNat+region.regionSize.toNat) := by
            rw [toNat_earlier, hreached]
          have hless : cursor.toNat < fin.toNat := hlt
          rw [dif_pos hcovered, if_pos ⟨hverified,hlow,hsum⟩, Option.bind_some, if_pos hhigh,
            Option.isSome_map, ← hnext]
          exact ih _ (by omega) (i+1) _ rfl
        · rw [dif_neg hcovered]
          rw [coveredRegion_iff] at hcovered
          by_cases hin : verifiedRegion base region = true ∧ region.baseAddress.toNat ≤ cursor.toNat ∧
              region.baseAddress.toNat+region.regionSize.toNat < 2^w
          · rw [if_pos hin, Option.bind_some, if_neg fun hhigh => hcovered ⟨hin.1,hin.2.1,hin.2.2,hhigh⟩]
            rfl
          · rw [if_neg hin]
            rfl
    · rw [if_neg hlt, walk_of_le (not_lt.mp hlt)]
      rfl

/-- The last answers do not matter: there is at most one query for each byte. -/
theorem walk_pageReach_congr {base : BitVec w} {high i low : ℕ}
    {answers answers' : ℕ → Option (MemoryBasicInformation w)}
    (h : ∀ j, i ≤ j → j < i+(high-low) → answers j = answers' j) :
    walk (pageReach base answers) high i low = walk (pageReach base answers') high i low := by
  induction hn : high-low using Nat.strong_induction_on generalizing i low with
  | _ n ih =>
    by_cases hlt : low < high
    · rw [walk_of_lt hlt, walk_of_lt hlt, pageReach, pageReach, h i le_rfl (by omega)]
      refine Option.bind_congr fun reached _ => ?_
      by_cases hprogress : low < reached
      · rw [if_pos hprogress, if_pos hprogress,
          ih _ (by omega) (fun j hj hj' => h j (by omega) (by omega)) rfl]
      · rw [if_neg hprogress, if_neg hprogress]
    · rw [walk_of_le (not_lt.mp hlt), walk_of_le (not_lt.mp hlt)]

end Walk

/-! The two readers. -/

section Readers
variable {w extra : ℕ}

/-- The read that is attempted once the arguments are found to be inside the image. -/
def readRequest (base : BitVec w) (rva : BitVec 32) (length : BitVec w)
    (answers : ℕ → Option (MemoryBasicInformation w)) : Option (BitVec w × BitVec w) :=
  let cursor := base+rva.setWidth w
  if pageWalk base (cursor+length) answers 0 cursor then some (cursor,length) else none

/-- What has been read, if all of it was. -/
def copied (request : Option (BitVec w × BitVec w))
    (read : BitVec w → BitVec w → Option (List UInt8)) : Option (List UInt8) :=
  request.bind fun x => (read x.1 x.2).filter fun bytes => bytes.length = x.2.toNat

/-- An image without an error is placed: its bytes end before the addresses do. -/
structure SuspendedImage (extra : ℕ) where
  error : Option String
  pending : Bool
  killRequested : Bool
  ownerThread : BitVec 32
  base : BitVec (32+extra)
  imageBytes : BitVec (32+extra)
  placed : error = none → imageBytes.toNat ≤ maxImageBytes ∧
    base.toNat+imageBytes.toNat < 2^(32+extra)

/-- The constructor. `setup` is what comes of the launch context and the calls of the operating
system up to the first debug event: a reason to give up, or whether there is an image file and
where the image is. -/
def SuspendedImage.construct (executable : List UInt16) (size : BitVec (32+extra))
    (thread : BitVec 32) (setup : Except String (Bool × BitVec (32+extra))) : SuspendedImage extra :=
  if hinput : executable = [] ∨ size = 0 ∨ size.toNat > maxImageBytes then
    ⟨some "invalid_observer_input",false,false,thread,0,size,fun h => absurd h (Option.some_ne_none _)⟩
  else
    match setup with
    | .error reason => ⟨some reason,false,false,thread,0,size,fun h => absurd h (Option.some_ne_none _)⟩
    | .ok (file,base) =>
      if hmetadata : file = false ∨ base = 0 ∨ size.toNat > 2^(32+extra)-1-base.toNat then
        ⟨some "observer_image_metadata",true,false,thread,base,size,
          fun h => absurd h (Option.some_ne_none _)⟩
      else ⟨none,true,false,thread,base,size,fun _ => by
        have hbase := base.isLt
        omega⟩

/-- `SuspendedImage::copy` up to the read. -/
def SuspendedImage.request (s : SuspendedImage extra) (thread rva : BitVec 32)
    (length : BitVec (32+extra)) (answers : ℕ → Option (MemoryBasicInformation (32+extra))) :
    Option (BitVec (32+extra) × BitVec (32+extra)) :=
  if s.error ≠ none || !s.pending || s.killRequested || thread ≠ s.ownerThread || length = 0 ||
      length > 1024 || rva.setWidth _ > s.imageBytes || length > s.imageBytes-rva.setWidth _ then none
  else readRequest s.base rva length answers

def SuspendedImage.copy (s : SuspendedImage extra) (thread rva : BitVec 32)
    (length : BitVec (32+extra)) (answers : ℕ → Option (MemoryBasicInformation (32+extra)))
    (read : BitVec (32+extra) → BitVec (32+extra) → Option (List UInt8)) : Option (List UInt8) :=
  copied (s.request thread rva length answers) read

structure WindowsImageReader (extra : ℕ) where
  base : BitVec (32+extra)
  size : BitVec (32+extra)

/-- `WindowsImageReader::copy` up to the read. -/
def WindowsImageReader.request (s : WindowsImageReader extra) (rva : BitVec 32)
    (length : BitVec (32+extra)) (answers : ℕ → Option (MemoryBasicInformation (32+extra))) :
    Option (BitVec (32+extra) × BitVec (32+extra)) :=
  if s.base = 0 || s.size = 0 || s.size.toNat > maxImageBytes || length = 0 || length > 1024 ||
      rva.setWidth _ > s.size || length > s.size-rva.setWidth _ ||
      s.size > BitVec.allOnes _-s.base then none
  else readRequest s.base rva length answers

def WindowsImageReader.copy (s : WindowsImageReader extra) (rva : BitVec 32)
    (length : BitVec (32+extra)) (answers : ℕ → Option (MemoryBasicInformation (32+extra)))
    (read : BitVec (32+extra) → BitVec (32+extra) → Option (List UInt8)) : Option (List UInt8) :=
  copied (s.request rva length answers) read

/-- The request is for the bytes that were asked for, and every one of them lies in a region
that one of the first answers has told to be readable. -/
structure VerifiedRequest (base : BitVec w) (rva : BitVec 32) (length : BitVec w)
    (answers : ℕ → Option (MemoryBasicInformation w)) (request : BitVec w × BitVec w) : Prop where
  address : request.1.toNat = base.toNat+rva.toNat
  whole : request.2 = length
  fits : base.toNat+rva.toNat+length.toNat < 2^w
  covered : ∀ x, base.toNat+rva.toNat ≤ x → x < base.toNat+rva.toNat+length.toNat →
    ∃ i < length.toNat, ∃ region, answers i = some region ∧ verifiedRegion base region = true ∧
      region.baseAddress.toNat ≤ x ∧ x < region.baseAddress.toNat+region.regionSize.toNat ∧
      region.baseAddress.toNat+region.regionSize.toNat < 2^w

/-- A reader that refuses whatever the answers are, or walks over the bytes in the naturals. -/
structure ReadsVerified (base : BitVec w) (rva : BitVec 32) (length : BitVec w)
    (request : (ℕ → Option (MemoryBasicInformation w)) → Option (BitVec w × BitVec w)) : Prop where
  exact : (∀ answers, request answers = none) ∨ ∀ answers, (request answers).isSome =
    (walk (pageReach base answers) (base.toNat+rva.toNat+length.toNat) 0
      (base.toNat+rva.toNat)).isSome
  verified : ∀ answers r, request answers = some r → VerifiedRequest base rva length answers r
  queries : ∀ answers answers', (∀ i < length.toNat, answers i = answers' i) →
    request answers = request answers'

theorem readsVerified_none (base : BitVec w) (rva : BitVec 32) (length : BitVec w) :
    ReadsVerified base rva length fun _ => none :=
  ⟨.inl fun _ => rfl,fun _ _ h => absurd h.symm (Option.some_ne_none _),fun _ _ _ => rfl⟩

theorem readsVerified_readRequest {base : BitVec (32+extra)} {rva : BitVec 32}
    {length : BitVec (32+extra)} (hfits : base.toNat+rva.toNat+length.toNat < 2^(32+extra)) :
    ReadsVerified base rva length (readRequest base rva length) := by
  have hrva : (rva.setWidth (32+extra)).toNat = rva.toNat :=
    BitVec.toNat_setWidth_of_le (Nat.le_add_right _ _)
  have hcursor : (base+rva.setWidth _).toNat = base.toNat+rva.toNat := by
    rw [BitVec.toNat_add, hrva, Nat.mod_eq_of_lt (by omega)]
  have hfin : (base+rva.setWidth _+length).toNat = base.toNat+rva.toNat+length.toNat := by
    rw [BitVec.toNat_add, hcursor, Nat.mod_eq_of_lt hfits]
  have hrequest (answers : ℕ → Option (MemoryBasicInformation (32+extra))) :
      readRequest base rva length answers = if (walk (pageReach base answers)
        (base.toNat+rva.toNat+length.toNat) 0 (base.toNat+rva.toNat)).isSome = true then
          some (base+rva.setWidth _,length) else none := by
    rw [readRequest, pageWalk_eq, hfin, hcursor]
  refine ⟨.inr fun answers => ?_,fun answers r h => ?_,fun answers answers' h => ?_⟩
  · rw [hrequest]
    split <;> simp_all
  · rw [hrequest] at h
    split at h
    · next hsome =>
      obtain ⟨xs,hxs⟩ := Option.isSome_iff_exists.mp hsome
      cases h
      refine ⟨hcursor,rfl,hfits,fun x hlow hhigh => ?_⟩
      have hconsecutive := walk_consecutive hxs (Nat.le_add_right _ _)
      obtain ⟨s,hs,hsx,hxs'⟩ := hconsecutive.cover hlow hhigh
      obtain ⟨i,reached,_,hi,hreach,hle⟩ := walk_answered hxs s hs
      have hcount := hconsecutive.length_le
      obtain ⟨region,hregion,hguarded⟩ := Option.bind_eq_some_iff.mp hreach
      by_cases hin : verifiedRegion base region = true ∧ region.baseAddress.toNat ≤ s.1 ∧
          region.baseAddress.toNat+region.regionSize.toNat < 2^(32+extra)
      · rw [if_pos hin, Option.some.injEq] at hguarded
        exact ⟨i,by omega,region,hregion,hin.1,by omega,by omega,hin.2.2⟩
      · rw [if_neg hin] at hguarded
        cases hguarded
    · cases h
  · rw [hrequest, hrequest, walk_pageReach_congr fun i _ hi => h i (by omega)]

/-- Either reader asks for a read only of pages that it has verified, and returns what that read
gives if it gives all of it; without a request the copy fails. -/
theorem image_copies_read_verified_pages (rva : BitVec 32) (length : BitVec (32+extra)) :
    (∀ (s : SuspendedImage extra) (thread : BitVec 32),
      ReadsVerified s.base rva length (s.request thread rva length) ∧
      ∀ answers read, s.copy thread rva length answers read =
        (s.request thread rva length answers).bind fun r =>
          (read r.1 r.2).filter fun bytes => bytes.length = r.2.toNat) ∧
    ∀ s : WindowsImageReader extra, ReadsVerified s.base rva length (s.request rva length) ∧
      ∀ answers read, s.copy rva length answers read =
        (s.request rva length answers).bind fun r =>
          (read r.1 r.2).filter fun bytes => bytes.length = r.2.toNat := by
  have hrva : (rva.setWidth (32+extra)).toNat = rva.toNat :=
    BitVec.toNat_setWidth_of_le (Nat.le_add_right _ _)
  -- What the tests on the arguments leave room for.
  have hroom {base size : BitVec (32+extra)} (hsize : base.toNat+size.toNat < 2^(32+extra))
      (hstart : ¬rva.setWidth _ > size) (hlength : ¬length > size-rva.setWidth _) :
      base.toNat+rva.toNat+length.toNat < 2^(32+extra) := by
    have hstart : rva.setWidth (32+extra) ≤ size := Nat.not_lt.mp hstart
    have hlength : length.toNat ≤ (size-rva.setWidth _).toNat := Nat.not_lt.mp hlength
    rw [BitVec.toNat_sub_of_le hstart, hrva] at hlength
    rw [BitVec.le_def, hrva] at hstart
    omega
  refine ⟨fun s thread => ⟨?_,fun answers read => rfl⟩,fun s => ⟨?_,fun answers read => rfl⟩⟩
  · unfold SuspendedImage.request
    split
    · exact readsVerified_none ..
    · next hguard =>
      simp only [Bool.or_eq_true, decide_eq_true_eq, not_or, not_not] at hguard
      obtain ⟨⟨⟨⟨⟨⟨⟨herror,_⟩,_⟩,_⟩,_⟩,_⟩,hstart⟩,hlength⟩ := hguard
      exact readsVerified_readRequest (hroom (s.placed herror).2 hstart hlength)
  · unfold WindowsImageReader.request
    split
    · exact readsVerified_none ..
    · next hguard =>
      simp only [Bool.or_eq_true, decide_eq_true_eq, not_or] at hguard
      obtain ⟨⟨⟨_,hstart⟩,hlength⟩,hplaced⟩ := hguard
      refine readsVerified_readRequest (hroom ?_ hstart hlength)
      have hbase : s.base ≤ BitVec.allOnes (32+extra) := by
        rw [BitVec.le_def, BitVec.toNat_allOnes]
        exact Nat.le_sub_one_of_lt s.base.isLt
      have hplaced : s.size.toNat ≤ (BitVec.allOnes _-s.base).toNat := Nat.not_lt.mp hplaced
      rw [BitVec.toNat_sub_of_le hbase, BitVec.toNat_allOnes] at hplaced
      have hlt := s.base.isLt
      omega

/-- An image at 0x400000 whose child is stopped. -/
def stoppedImage : SuspendedImage 0 :=
  ⟨none,true,false,7,0x400000,0x3000,by decide⟩

/-- Its first two pages, one after the other. -/
def twoPages (i : ℕ) : Option (MemoryBasicInformation (32+0)) :=
  if i < 2 then some ⟨0x400000+0x1000*BitVec.ofNat _ i,0x400000,0x1000,0x1000,0x20,0x1000000⟩
  else none

/-- Thirty-two bytes on both sides of the end of a page. -/
theorem image_copies_read_two_pages :
    VerifiedRequest stoppedImage.base 0xff0 0x20 twoPages (0x400ff0,0x20) ∧
      stoppedImage.copy 7 0xff0 0x20 twoPages (fun _ n => some (List.replicate n.toNat 0xcc)) =
        some (List.replicate 32 0xcc) := by
  obtain ⟨hreads,hcopy⟩ := (image_copies_read_verified_pages 0xff0 0x20).1 stoppedImage 7
  have hrequest : stoppedImage.request 7 0xff0 0x20 twoPages = some (0x400ff0,0x20) := by
    simp [SuspendedImage.request, stoppedImage, readRequest, twoPages, pageWalk, coveredRegion,
      verifiedRegion, readableProtections, earlier]
  refine ⟨hreads.verified _ _ hrequest,?_⟩
  rw [hcopy, hrequest]
  rfl

end Readers
end Saex
