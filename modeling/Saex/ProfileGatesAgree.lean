import Saex.PeOffsets
import Saex.ProfileGate
import Saex.StoppingRuns

/-! The file gate and the mapped gate agree: what the first accepts, the second accepts
through every faithful reader, and the second accepts through no reader that delivers
anything else. -/
namespace Saex
open LittleEndian Recognizers StoppingRuns PeImage ProfileGate

/-- A call of the reader with what it left in the span. -/
structure ReaderRequest where
  rva : BitVec 32
  answered : Bool
  bytes : List UInt8

/-- The same reader, keeping a record of its calls. -/
def ImageReader.recorded {σ : Type*} (image : ImageReader σ) :
    ImageReader (σ × List ReaderRequest) where
  copy s rva output :=
    let (reader,answered,bytes) := image.copy s.1 rva output
    ((reader,s.2++[⟨rva,answered,bytes⟩]),answered,bytes)
  length_copy s rva output := image.length_copy s.1 rva output

/-- The calls that `check_mapped_observation` makes. -/
def requests {σ : Type*} (image : ImageReader σ) (s : σ) (file : List UInt8) (l : PeLayout)
    (p : ObservedProfile) : List ReaderRequest :=
  (checkMappedObservation image.recorded (s,[]) file l p).2.2

/-- What a faithful reader shows at an address. -/
def FileByte (t : Target) (file : List UInt8) (l : PeLayout) (address : BitVec 32)
    (shown : Option UInt8) : Prop :=
  (address < l.headersSize → shown = file[address.toNat]?) ∧
    ∀ v, rawOffset t l address 1 = some v → shown = file[v]?

/-- It answers every request of 1 to 1024 bytes inside the image. -/
def ImageReader.Faithful {σ : Type*} (image : ImageReader σ) (t : Target) (file : List UInt8)
    (l : PeLayout) : Prop :=
  ∀ s rva output, 1 ≤ output.length → output.length ≤ 1024 →
    rva.toNat+output.length ≤ l.imageSize.toNat →
      (image.copy s rva output).2.1 ∧ ∀ i < output.length,
        FileByte t file l (rva+.ofNat 32 i) (image.copy s rva output).2.2[i]?

/-- The requests cover a range from its first to its last address, one after the other. -/
def Tiles : ℕ → List ReaderRequest → ℕ → Prop
  | first, [], last => first = last
  | first, r :: rest, last => r.rva.toNat = first ∧ 0 < r.bytes.length ∧
    Tiles (first+r.bytes.length) rest last

/-- The anchor lies in the raw part of its own section, which is executable. -/
structure AnchorPlaced (l : PeLayout) (a : ImageAnchor) (s : PeSection) : Prop where
  own : l.sections[a.sectionIndex.toNat]? = some s
  inUse : a.sectionIndex < l.sectionCount
  executable : s.characteristics &&& 0x20000000 ≠ 0
  length : 1 ≤ a.length.toNat ∧ a.length.toNat ≤ 16
  raw : s.rva.toNat ≤ a.rva.toNat ∧ a.rva.toNat+a.length.toNat ≤ s.rva.toNat+s.rawSize.toNat

structure AnchorDelivered (l : PeLayout) (a : ImageAnchor) (r : ReaderRequest) : Prop where
  placed : ∃ s, AnchorPlaced l a s
  rva : r.rva = a.rva
  bytes : r.bytes = a.bytes.toList.take a.length.toNat

structure ImageDelivered (file : List UInt8) (l : PeLayout) (p : ObservedProfile)
    (rs : List ReaderRequest) : Prop where
  layout : l = p.layout
  headers : l.headersSize.toNat ≤ file.length
  anchors : 1 ≤ p.anchors.length ∧ p.anchors.length ≤ 32
  answered : ∀ r ∈ rs, r.answered
  delivered : ∃ hs as, rs = hs++as ∧ Tiles 0 hs l.headersSize.toNat ∧
    hs.flatMap (·.bytes) = file.take l.headersSize.toNat ∧
    List.Forall₂ (AnchorDelivered l) p.anchors as

/-- Between 1 and 1024 bytes before `limit`. -/
def ReaderRequest.Within (limit : ℕ) (r : ReaderRequest) : Prop :=
  1 ≤ r.bytes.length ∧ r.bytes.length ≤ 1024 ∧ r.rva.toNat+r.bytes.length ≤ limit

namespace ProfileGate

theorem compareAt_ok_iff {ys xs : List UInt8} {start : ℕ} {mismatch : GateStop} :
    compareAt ys start xs mismatch = .ok () ↔
      start+xs.length ≤ ys.length ∧ (ys.drop start).take xs.length = xs := by
  rw [compareAt]
  by_cases hlen : start+xs.length ≤ ys.length
  · by_cases hxs : (ys.drop start).take xs.length = xs
    · simp [hlen, hxs]
    · simp [hlen, hxs]
  · simp [hlen]

theorem compareAt_inside {ys xs : List UInt8} {start : ℕ} {mismatch : GateStop}
    (h : start+xs.length ≤ ys.length) (hm : mismatch ≠ .outside) :
    compareAt ys start xs mismatch ≠ .error .outside := by
  rw [compareAt, if_pos h]
  split
  · nofun
  · exact fun he => hm (Except.error.inj he)

theorem outcome_matched_iff (x : Except GateStop Unit) :
    outcome x = some .matchedObservation ↔ x = .ok () := by
  rcases x with (_ | ⟨r,early⟩) | _
  · exact iff_of_false nofun nofun
  · exact iff_of_false (fun h => early (Option.some.inj h)) nofun
  · exact iff_of_true rfl rfl

theorem outcome_none_iff (x : Except GateStop Unit) : outcome x = none ↔ x = .error .outside := by
  rcases x with (_ | ⟨r,early⟩) | _
  · exact iff_of_true rfl rfl
  · exact iff_of_false nofun nofun
  · exact iff_of_false nofun nofun

theorem validAnchor_iff {a : ImageAnchor} {l : PeLayout} (hl : l.sectionCount.toNat ≤ 96) :
    validAnchor a l ↔ ∃ s, AnchorPlaced l a s := by
  have hzero (n : BitVec 16) : n = 0 ↔ n.toNat = 0 := BitVec.toNat_inj.symm
  have hinside (s : PeSection) : (a.rva ≥ s.rva ∧
      (a.rva-s.rva).toNat+a.length.toNat ≤ s.rawSize.toNat) ↔ s.rva.toNat ≤ a.rva.toNat ∧
        a.rva.toNat+a.length.toNat ≤ s.rva.toNat+s.rawSize.toNat := by
    rw [ge_iff_le, BitVec.le_def]
    refine and_congr_right fun hle => ?_
    rw [BitVec.toNat_sub_of_le (BitVec.le_def.mpr hle)]
    omega
  rw [validAnchor]
  split
  · rename_i hbad
    refine iff_of_false Bool.false_ne_true ?_
    rintro ⟨s,-,huse,-,hlen,-⟩
    rw [hzero, hzero, maxSections, ge_iff_le, BitVec.le_def] at hbad
    rw [BitVec.lt_def] at huse
    omega
  · rename_i hgood
    rw [hzero, hzero, maxSections, ge_iff_le, BitVec.le_def] at hgood
    have huse : a.sectionIndex < l.sectionCount := BitVec.lt_def.mpr (by omega)
    have hlen : 1 ≤ a.length.toNat ∧ a.length.toNat ≤ 16 := by omega
    split
    · rename_i hnone
      refine iff_of_false Bool.false_ne_true ?_
      rintro ⟨s,hown,-⟩
      rw [hnone] at hown
      cases hown
    · rename_i s hown
      simp only [Bool.and_eq_true, decide_eq_true_eq, and_assoc, hinside]
      constructor
      · rintro ⟨hexec,hraw⟩
        exact ⟨s,hown,huse,hexec,hlen,hraw⟩
      · rintro ⟨s',hown',-,hexec,-,hraw⟩
        cases Option.some.inj (hown.symm.trans hown')
        exact ⟨hexec,hraw⟩

section Recorded
variable {σ : Type*} (image : ImageReader σ)

/-- A call to the recorded reader adds one request, and its result is decided by what the
request shows. -/
theorem ask_recorded (rva : BitVec 32) {count : ℕ} (hcount : count ≤ 1024)
    (compare : List UInt8 → Except GateStop Unit) (run : MappedRun (σ × List ReaderRequest)) :
    ∃ r : ReaderRequest, r.rva = rva ∧ r.bytes.length = count ∧
      (ask image.recorded rva count compare run).2.reader.2 = run.reader.2++[r] ∧
      (ask image.recorded rva count compare run).1 =
        if r.answered then compare r.bytes else .error (.stopped .unreadableImage) := by
  have hlen := image.length_copy run.reader.1 rva (run.buffer.toList.take count)
  rw [List.length_take, Vector.length_toList, Nat.min_eq_left hcount] at hlen
  exact ⟨⟨rva,_,_⟩,rfl,hlen,rfl,rfl⟩

theorem chunk_length {size start : BitVec 32} (h : start < size) :
    min 1024 (size-start).toNat = min 1024 (size.toNat-start.toNat) := by
  rw [BitVec.toNat_sub_of_le (BitVec.le_of_lt h)]

theorem chunk_bounds {size start : BitVec 32} (h : start < size) :
    (1 ≤ min 1024 (size-start).toNat ∧ min 1024 (size-start).toNat ≤ 1024) ∧
      start.toNat+min 1024 (size-start).toNat ≤ size.toNat := by
  have hlt := BitVec.lt_def.mp h
  rw [chunk_length h]
  omega

/-- The header loop: every chunk lies in the headers, it never compares past the end of the
file, and when it gets through the chunks tile the headers and hold what the file holds. -/
theorem compareHeaders_recorded {file : List UInt8} {size start : BitVec 32}
    (hfile : size.toNat ≤ file.length) (hstart : start.toNat ≤ size.toNat)
    (run : MappedRun (σ × List ReaderRequest)) :
    ∃ rs, (compareHeaders image.recorded file size start run).2.reader.2 = run.reader.2++rs ∧
      (∀ r ∈ rs, r.Within size.toNat) ∧
      (compareHeaders image.recorded file size start run).1 ≠ .error .outside ∧
      ((compareHeaders image.recorded file size start run).1 = .ok () →
        (∀ r ∈ rs, r.answered) ∧ Tiles start.toNat rs size.toNat ∧
          rs.flatMap (·.bytes) = (file.drop start.toNat).take (size.toNat-start.toNat)) := by
  fun_induction compareHeaders image.recorded file size start run with
  | case1 start run hlt count stop run' hask =>
    obtain ⟨hcount,hle⟩ := chunk_bounds hlt
    obtain ⟨r,hrva,hlen,hlog,hresult⟩ := ask_recorded image start hcount.2
      (compareAt file start.toNat · (.stopped .layoutMismatch)) run
    rw [hask] at hlog hresult
    refine ⟨[r],hlog,?_,?_,nofun⟩
    · rw [List.forall_mem_singleton, ReaderRequest.Within, hrva, hlen]
      exact ⟨hcount.1,hcount.2,hle⟩
    · rw [hresult]
      split
      · exact compareAt_inside (by rw [hlen]; omega) nofun
      · nofun
  | case2 start run hlt count run' hask ih =>
    obtain ⟨hcount,hle⟩ := chunk_bounds hlt
    obtain ⟨r,hrva,(hlen : r.bytes.length = count),hlog,hresult⟩ := ask_recorded image start
      hcount.2 (compareAt file start.toNat · (.stopped .layoutMismatch)) run
    have hnext : (start+.ofNat 32 count).toNat = start.toNat+count := by
      rw [headers_advance hlt, ← chunk_length hlt]
    rw [hask] at hlog hresult
    obtain ⟨rs,hlogs,hwithin,hinside,hok⟩ := ih (by rw [hnext]; exact hle)
    have hbytes : r.answered ∧ (file.drop start.toNat).take count = r.bytes := by
      split at hresult
      · rename_i hanswered
        rw [← hlen]
        exact ⟨hanswered,(compareAt_ok_iff.mp hresult.symm).2⟩
      · cases hresult
    refine ⟨r :: rs,?_,?_,hinside,fun hrest => ?_⟩
    · rw [hlogs, hlog, List.append_assoc, List.singleton_append]
    · rw [List.forall_mem_cons, ReaderRequest.Within, hrva, hlen]
      exact ⟨⟨hcount.1,hcount.2,hle⟩,hwithin⟩
    · obtain ⟨hall,htiles,hflat⟩ := hok hrest
      rw [hnext] at htiles hflat
      refine ⟨List.forall_mem_cons.mpr ⟨hbytes.1,hall⟩,⟨by rw [hrva],by omega,?_⟩,?_⟩
      · rw [hlen]
        exact htiles
      · rw [List.flatMap_cons, hflat, ← hbytes.2, ← List.drop_drop, ← List.take_add]
        congr 1
        omega
  | case3 start run hge =>
    have heq : start.toNat = size.toNat := by
      rw [BitVec.lt_def] at hge
      omega
    exact ⟨[],(List.append_nil _).symm,nofun,nofun,fun _ => ⟨nofun,heq,by simp [heq]⟩⟩

/-- The anchor loop, with a bound on the sections anchors can lie in. -/
theorem compareAnchors_recorded {l : PeLayout} (hl : l.sectionCount.toNat ≤ 96) {limit : ℕ}
    (hlimit : ∀ a s, AnchorPlaced l a s → s.rva.toNat+s.rawSize.toNat ≤ limit)
    (as : List ImageAnchor) (run : MappedRun (σ × List ReaderRequest)) :
    ∃ rs, (compareAnchors image.recorded l as run).2.reader.2 = run.reader.2++rs ∧
      (∀ r ∈ rs, r.Within limit) ∧
      (compareAnchors image.recorded l as run).1 ≠ .error .outside ∧
      ((compareAnchors image.recorded l as run).1 = .ok () →
        (∀ r ∈ rs, r.answered) ∧ List.Forall₂ (AnchorDelivered l) as rs) := by
  induction as generalizing run with
  | nil => exact ⟨[],(List.append_nil _).symm,nofun,nofun,fun _ => ⟨nofun,.nil⟩⟩
  | cons a as ih =>
    by_cases hvalid : validAnchor a l
    · obtain ⟨s,hs⟩ := (validAnchor_iff hl).mp hvalid
      have hlen := hs.length
      obtain ⟨r,hrva,hcount,hlog,hresult⟩ := ask_recorded image a.rva (hlen.2.trans (by decide))
        (compareAt a.bytes.toList 0 · (.stopped .anchorMismatch)) run
      have hwithin : r.Within limit := by
        have hend := hlimit a s hs
        have hraw := hs.raw
        rw [ReaderRequest.Within, hrva, hcount]
        omega
      have hinside : compareAt a.bytes.toList 0 r.bytes (.stopped .anchorMismatch) ≠ .error .outside :=
        compareAt_inside (by rw [hcount, Vector.length_toList]; omega) nofun
      rw [compareAnchors, hvalid, Bool.not_true, if_neg Bool.false_ne_true]
      cases hask : ask image.recorded a.rva a.length.toNat
          (compareAt a.bytes.toList 0 · (.stopped .anchorMismatch)) run with
      | mk result run' =>
        rw [hask] at hlog hresult
        cases result with
        | error stop =>
          have hstop : (Except.error stop : Except GateStop Unit) ≠ .error .outside := by
            rw [show (Except.error stop : Except GateStop Unit) = _ from hresult]
            split
            · exact hinside
            · nofun
          exact ⟨[r],hlog,List.forall_mem_singleton.mpr hwithin,hstop,nofun⟩
        | ok =>
          obtain ⟨rs,hlogs,hwithins,hinsides,hok⟩ := ih run'
          refine ⟨r :: rs,?_,List.forall_mem_cons.mpr ⟨hwithin,hwithins⟩,hinsides,fun hrest => ?_⟩
          · rw [hlogs, hlog, List.append_assoc, List.singleton_append]
          · obtain ⟨hall,hdelivered⟩ := hok hrest
            split at hresult
            · rename_i hanswered
              have hbytes := (compareAt_ok_iff.mp hresult.symm).2
              rw [List.drop_zero, hcount] at hbytes
              exact ⟨List.forall_mem_cons.mpr ⟨hanswered,hall⟩,
                .cons ⟨⟨s,hs⟩,hrva,hbytes.symm⟩ hdelivered⟩
            · cases hresult
    · rw [Bool.not_eq_true] at hvalid
      rw [compareAnchors, hvalid, Bool.not_false, if_pos rfl]
      exact ⟨[],(List.append_nil _).symm,nofun,nofun,nofun⟩

theorem checkMapped_recorded (file : List UInt8) {l : PeLayout} (p : ObservedProfile)
    (hl : l.sectionCount.toNat ≤ 96) {limit : ℕ} (hheaders : l.headersSize.toNat ≤ limit)
    (hlimit : ∀ a s, AnchorPlaced l a s → s.rva.toNat+s.rawSize.toNat ≤ limit)
    (run : MappedRun (σ × List ReaderRequest)) (hrun : run.reader.2 = []) :
    (∀ r ∈ (checkMapped image.recorded file l p run).2.reader.2, r.Within limit) ∧
      (checkMapped image.recorded file l p run).1 ≠ .error .outside ∧
      ((checkMapped image.recorded file l p run).1 = .ok () →
        ImageDelivered file l p (checkMapped image.recorded file l p run).2.reader.2) := by
  rw [checkMapped]
  split
  · rw [hrun]
    exact ⟨nofun,nofun,nofun⟩
  · rename_i hlayout
    rw [not_or, not_not, not_lt] at hlayout
    obtain ⟨hs,hlog,hwithin,hinside,hok⟩ := compareHeaders_recorded image hlayout.2
      (show (0 : BitVec 32).toNat ≤ _ from Nat.zero_le _) run
    have hwithin (r : ReaderRequest) (hr : r ∈ hs) : r.Within limit := by
      have hr := hwithin r hr
      exact ⟨hr.1,hr.2.1,hr.2.2.trans hheaders⟩
    rw [hrun, List.nil_append] at hlog
    cases hloop : compareHeaders image.recorded file l.headersSize 0 run with
    | mk result run' =>
      rw [hloop] at hlog hinside hok
      cases result with
      | error stop => exact ⟨by rw [hlog]; exact hwithin,hinside,nofun⟩
      | ok =>
        obtain ⟨hanswered,htiles,hbytes⟩ := hok rfl
        rw [show (0 : BitVec 32).toNat = 0 from rfl] at htiles hbytes
        by_cases hcount : badAnchorCount p
        · simp only [if_pos hcount]
          exact ⟨by rw [hlog]; exact hwithin,nofun,nofun⟩
        · simp only [if_neg hcount]
          obtain ⟨as,hlogs,hwithins,hinsides,hoks⟩ :=
            compareAnchors_recorded image hl hlimit p.anchors run'
          rw [hlog] at hlogs
          refine ⟨?_,hinsides,fun hrest => ?_⟩
          · rw [hlogs]
            exact List.forall_mem_append.mpr ⟨hwithin,hwithins⟩
          · obtain ⟨hall,hdelivered⟩ := hoks hrest
            have hsize : 1 ≤ p.anchors.length ∧ p.anchors.length ≤ 32 := by
              rw [badAnchorCount, List.isEmpty_iff_length_eq_zero] at hcount
              omega
            rw [hlogs]
            exact ⟨hlayout.1,hlayout.2,hsize,List.forall_mem_append.mpr ⟨hanswered,hall⟩,
              hs,as,rfl,htiles,by simpa using hbytes,hdelivered⟩

/-- Leaving the record out. -/
def MappedRun.forget (run : MappedRun (σ × List ReaderRequest)) : MappedRun σ :=
  ⟨run.reader.1,run.buffer⟩

def forget (x : Except GateStop Unit × MappedRun (σ × List ReaderRequest)) :
    Except GateStop Unit × MappedRun σ :=
  (x.1,MappedRun.forget x.2)

theorem forget_ask (rva : BitVec 32) (count : ℕ) (compare : List UInt8 → Except GateStop Unit)
    (run : MappedRun (σ × List ReaderRequest)) :
    forget (ask image.recorded rva count compare run) =
      ask image rva count compare (MappedRun.forget run) := rfl

theorem compareHeaders_step {file : List UInt8} {size start : BitVec 32} (h : start < size)
    (run : MappedRun σ) : compareHeaders image file size start run =
      match ask image start (min 1024 (size-start).toNat)
        (compareAt file start.toNat · (.stopped .layoutMismatch)) run with
      | (.error stop,run) => (.error stop,run)
      | (.ok (),run) =>
        compareHeaders image file size (start+.ofNat 32 (min 1024 (size-start).toNat)) run := by
  rw [compareHeaders]
  exact dif_pos h

theorem forget_compareHeaders (file : List UInt8) (size start : BitVec 32)
    (run : MappedRun (σ × List ReaderRequest)) :
    forget (compareHeaders image.recorded file size start run) =
      compareHeaders image file size start (MappedRun.forget run) := by
  fun_induction compareHeaders image.recorded file size start run with
  | case1 start run hlt count stop run' hask =>
    have hforget := forget_ask image start count (compareAt file start.toNat · (.stopped .layoutMismatch)) run
    rw [hask] at hforget
    rw [compareHeaders_step image hlt (MappedRun.forget run), ← hforget]
    rfl
  | case2 start run hlt count run' hask ih =>
    have hforget := forget_ask image start count (compareAt file start.toNat · (.stopped .layoutMismatch)) run
    rw [hask] at hforget
    rw [compareHeaders_step image hlt (MappedRun.forget run), ← hforget]
    exact ih
  | case3 start run hge =>
    rw [compareHeaders, dif_neg hge]
    rfl

theorem forget_compareAnchors (l : PeLayout) (as : List ImageAnchor)
    (run : MappedRun (σ × List ReaderRequest)) :
    forget (compareAnchors image.recorded l as run) =
      compareAnchors image l as (MappedRun.forget run) := by
  induction as generalizing run with
  | nil => rfl
  | cons a as ih =>
    have hforget := forget_ask image a.rva a.length.toNat
      (compareAt a.bytes.toList 0 · (.stopped .anchorMismatch)) run
    rw [compareAnchors, compareAnchors]
    split
    · rfl
    · rw [← hforget]
      cases ask image.recorded a.rva a.length.toNat
          (compareAt a.bytes.toList 0 · (.stopped .anchorMismatch)) run with
      | mk result run' =>
        cases result with
        | error stop => rfl
        | ok => exact ih run'

theorem forget_checkMapped (file : List UInt8) (l : PeLayout) (p : ObservedProfile)
    (run : MappedRun (σ × List ReaderRequest)) :
    forget (checkMapped image.recorded file l p run) =
      checkMapped image file l p (MappedRun.forget run) := by
  have hforget := forget_compareHeaders image file l.headersSize 0 run
  rw [checkMapped, checkMapped]
  split
  · rfl
  · rw [← hforget]
    cases compareHeaders image.recorded file l.headersSize 0 run with
    | mk result run' =>
      cases result with
      | error stop => rfl
      | ok =>
        by_cases hcount : badAnchorCount p
        · simp only [forget, if_pos hcount]
        · simp only [forget, if_neg hcount]
          exact forget_compareAnchors image l p.anchors run'

end Recorded

/-- Without a wrap, a byte of a range stands at its first address plus the index. -/
theorem toNat_address {rva : BitVec 32} {i : ℕ} (h : rva.toNat+i < 2^32) :
    (rva+.ofNat 32 i).toNat = rva.toNat+i := by
  rw [BitVec.toNat_add, BitVec.toNat_ofNat, Nat.mod_eq_of_lt (show i < 2^32 by omega),
    Nat.mod_eq_of_lt h]

/-! A faithful reader gets both loops through. -/
section Faithful
variable {σ : Type*} {image : ImageReader σ} {t : Target} {file : List UInt8} {l : PeLayout}
  (hf : image.Faithful t file l)
include hf

/-- Its answer is the only string of bytes it may show. -/
theorem ask_faithful {rva : BitVec 32} {count : ℕ} {xs : List UInt8} (hcount : 1 ≤ count)
    (hbuffer : count ≤ 1024) (himage : rva.toNat+count ≤ l.imageSize.toNat) (hxs : xs.length = count)
    (hbytes : ∀ i < count, ∀ shown, FileByte t file l (rva+.ofNat 32 i) shown → shown = xs[i]?)
    (compare : List UInt8 → Except GateStop Unit) (run : MappedRun σ) :
    (ask image rva count compare run).1 = compare xs := by
  have hlen : (run.buffer.toList.take count).length = count := by
    rw [List.length_take, Vector.length_toList, Nat.min_eq_left hbuffer]
  obtain ⟨hcopied,hshown⟩ := hf run.reader rva (run.buffer.toList.take count) (by rw [hlen]; exact hcount)
    (by rw [hlen]; exact hbuffer) (by rw [hlen]; exact himage)
  have hchunk : (image.copy run.reader rva (run.buffer.toList.take count)).2.2 = xs := by
    apply List.ext_getElem?
    intro i
    by_cases hi : i < count
    · exact hbytes i hi _ (hshown i (by rw [hlen]; exact hi))
    · rw [List.getElem?_eq_none (by rw [image.length_copy, hlen]; omega),
        List.getElem?_eq_none (by omega)]
  rw [ask]
  simp only [hcopied, hchunk, if_true]

theorem compareHeaders_faithful {size : BitVec 32} (start : BitVec 32) (hfile : size.toNat ≤ file.length)
    (hsize : size = l.headersSize) (himage : size.toNat ≤ l.imageSize.toNat) (run : MappedRun σ) :
    (compareHeaders image file size start run).1 = .ok () := by
  have hask (start : BitVec 32) (hlt : start < size) (run : MappedRun σ) :
      (ask image start (min 1024 (size-start).toNat)
        (compareAt file start.toNat · (.stopped .layoutMismatch)) run).1 = .ok () := by
    obtain ⟨hcount,hle⟩ := chunk_bounds hlt
    have hchunk : ((file.drop start.toNat).take (min 1024 (size-start).toNat)).length =
        min 1024 (size-start).toNat := by
      rw [List.length_take, List.length_drop]
      omega
    rw [ask_faithful hf hcount.1 hcount.2 (by omega) hchunk]
    · rw [compareAt_ok_iff, hchunk]
      exact ⟨by omega,rfl⟩
    · intro i hi shown hshown
      have hbound := size.isLt
      have haddress : (start+.ofNat 32 i).toNat = start.toNat+i := toNat_address (by omega)
      rw [hshown.1 (by rw [← hsize, BitVec.lt_def, haddress]; omega), haddress, List.getElem?_take,
        if_pos hi, List.getElem?_drop]
  fun_induction compareHeaders image file size start run with
  | case1 start run hlt count stop run' hstop =>
    have hok := hask start hlt run
    rw [hstop] at hok
    cases hok
  | case2 start run hlt count run' hok ih => exact ih
  | case3 start run hge => rfl

theorem compareAnchors_faithful (hl : l.sectionCount.toNat ≤ 96)
    (hlimit : ∀ a s, AnchorPlaced l a s → s.rva.toNat+s.rawSize.toNat ≤ l.imageSize.toNat)
    (hraw : ∀ (a : ImageAnchor) v i, rawOffset t l a.rva a.length.toNat = some v →
      i < a.length.toNat → rawOffset t l (a.rva+.ofNat 32 i) 1 = some (v+i))
    {as : List ImageAnchor} (has : matchAnchors t file l as = .ok ()) (run : MappedRun σ) :
    (compareAnchors image l as run).1 = .ok () := by
  induction as generalizing run with
  | nil => rfl
  | cons a as ih =>
    rw [matchAnchors, bind_ok_iff] at has
    obtain ⟨⟨⟩,ha,has⟩ := has
    rw [matchAnchor] at ha
    cases hv : rawOffset t l a.rva a.length.toNat with
    | none =>
      rw [hv] at ha
      cases ha
    | some v =>
      simp only [hv, bind_ok_iff, refuseIf_ok_iff, not_or, Bool.not_eq_true', Bool.not_eq_false,
        not_lt] at ha
      obtain ⟨-,⟨hvalid,hend,hfile⟩,hbytes⟩ := ha
      obtain ⟨s,hs⟩ := (validAnchor_iff hl).mp hvalid
      have hlen : (a.bytes.toList.take a.length.toNat).length = a.length.toNat := by
        rw [List.length_take, Vector.length_toList, Nat.min_eq_left hs.length.2]
      have hequal := (compareAt_ok_iff.mp hbytes).2
      rw [hlen] at hequal
      have hplaced := hlimit a s hs
      have hask : (ask image a.rva a.length.toNat
          (compareAt a.bytes.toList 0 · (.stopped .anchorMismatch)) run).1 = .ok () := by
        rw [ask_faithful hf hs.length.1 (hs.length.2.trans (by decide))
          (hs.raw.2.trans hplaced) hlen]
        · rw [compareAt_ok_iff, hlen, List.drop_zero, Vector.length_toList, Nat.zero_add]
          exact ⟨hs.length.2,rfl⟩
        · intro i hi shown hshown
          rw [hshown.2 (v+i) (hraw a v i hv hi), ← hequal, List.getElem?_take, if_pos hi,
            List.getElem?_drop]
      rw [compareAnchors, hvalid, Bool.not_true, if_neg Bool.false_ne_true]
      cases hrun : ask image a.rva a.length.toNat
          (compareAt a.bytes.toList 0 · (.stopped .anchorMismatch)) run with
      | mk result run' =>
        rw [hrun] at hask
        cases result with
        | error stop => cases hask
        | ok => exact ih has run'

end Faithful
end ProfileGate

section Parsed
variable {b : List UInt8} (hg : PeGrammar b)
include hg

theorem anchorPlaced_inImage (a : ImageAnchor) (s : PeSection) (h : AnchorPlaced (layoutOf b) a s) :
    s.rva.toNat+s.rawSize.toNat ≤ (layoutOf b).imageSize.toNat := by
  have huse : a.sectionIndex.toNat < PeFile.sectionCount b := by
    have huse := BitVec.lt_def.mp h.inUse
    rwa [layoutOf_sectionCount] at huse
  have hlt : a.sectionIndex.toNat < 96 := huse.trans_le hg.coff.sectionCount.2
  have hs : s = sectionOf b a.sectionIndex.toNat := by
    have hslot := layoutOf_sections b ⟨_,hlt⟩
    have hown := h.own
    rw [if_pos huse, Fin.getElem_fin] at hslot
    rw [Vector.getElem?_eq_getElem hlt, hslot] at hown
    exact (Option.some.inj hown).symm
  have himage := (hg.sections _ huse).inImage
  have hextent : PeFile.rawSize b a.sectionIndex.toNat ≤ PeFile.extent b a.sectionIndex.toNat :=
    le_max_right _ _
  have hrva : (sectionOf b a.sectionIndex.toNat).rva.toNat = _ := word32_toNat b _
  have hraw : (sectionOf b a.sectionIndex.toNat).rawSize.toNat = _ := word32_toNat b _
  rw [hs, (layoutOf_fields b).imageSize, hrva, hraw]
  exact (Nat.add_le_add_left hextent _).trans himage

/-- Each byte of a translated range is translated on its own. -/
theorem rawOffset_byte (t : Target) {rva : BitVec 32} {length v i : ℕ}
    (h : rawOffset t (layoutOf b) rva length = some v) (hi : i < length) :
    rawOffset t (layoutOf b) (rva+.ofNat 32 i) 1 = some (v+i) := by
  obtain ⟨k,hk,hle,hend,hv⟩ := (rawOffset_eq_some_iff hg t rva (by omega)).mp h
  have himage := (hg.sections k hk).inImage
  have hextent : PeFile.rawSize b k ≤ PeFile.extent b k := le_max_right _ _
  have hsize := hg.image.imageSize.2.1
  rw [rawOffset_eq_some_iff hg t _ le_rfl, toNat_address (by omega)]
  exact ⟨k,hk,by omega,by omega,by omega⟩

theorem headers_inImage : (layoutOf b).headersSize.toNat ≤ (layoutOf b).imageSize.toNat := by
  rw [(layoutOf_fields b).imageSize, (layoutOf_fields b).headersSize]
  exact hg.image.headersSize.2.2.2.1

end Parsed

universe u in
/-- The two gates agree on every file the parser takes. -/
theorem profile_gates_agree (t : Target) {file : List UInt8} {l : PeLayout}
    (hl : parsePe32 t file = some ⟨.none,l⟩) (hash : Vector UInt8 32) (p : ObservedProfile) :
    (matchFileObservation t file hash l p = some .matchedObservation →
      ∀ {σ : Type u} (image : ImageReader σ) (s : σ), image.Faithful t file l →
        (checkMappedObservation image s file l p).1 = some .matchedObservation) ∧
    ∀ {σ : Type u} (image : ImageReader σ) (s : σ),
      ((checkMappedObservation image s file l p).1 = some .matchedObservation →
        ImageDelivered file l p (requests image s file l p)) ∧
      (checkMappedObservation image s file l p).1 ≠ none ∧
      ∀ r ∈ requests image s file l p, r.Within l.imageSize.toNat := by
  obtain ⟨hg,rfl⟩ := (parsePe32_accepts_iff t).mp hl
  have hcount : (layoutOf file).sectionCount.toNat ≤ 96 := by
    rw [layoutOf_sectionCount]
    exact hg.coff.sectionCount.2
  have hheaders := headers_inImage hg
  have hlimit := anchorPlaced_inImage hg
  constructor
  · intro hmatch σ image s hf
    rw [matchFileObservation, outcome_matched_iff, matchFile] at hmatch
    simp only [bind_ok_iff, refuseIf_ok_iff, not_or, not_not] at hmatch
    obtain ⟨-,-,-,hlayout,-,hanchors,hall⟩ := hmatch
    have hfile : (layoutOf file).headersSize.toNat ≤ file.length := by
      rw [(layoutOf_fields file).headersSize]
      exact hg.image.headersSize.2.2.1
    rw [checkMappedObservation]
    refine (outcome_matched_iff _).mpr ?_
    rw [checkMapped, if_neg (not_or.mpr ⟨not_not.mpr hlayout,not_lt.mpr hfile⟩)]
    have hloop := compareHeaders_faithful hf 0 hfile rfl hheaders ⟨s,.replicate 1024 0⟩
    cases hrun : compareHeaders image file (layoutOf file).headersSize 0 ⟨s,.replicate 1024 0⟩ with
    | mk result run =>
      rw [hrun] at hloop
      cases hloop
      simp only [if_neg hanchors]
      exact compareAnchors_faithful hf hcount hlimit (fun a v i => rawOffset_byte hg t) hall run
  · intro σ image s
    have hforget := forget_checkMapped image file (layoutOf file) p ⟨(s,[]),.replicate 1024 0⟩
    have hresult : (checkMappedObservation image s file (layoutOf file) p).1 =
        outcome (checkMapped image.recorded file (layoutOf file) p ⟨(s,[]),.replicate 1024 0⟩).1 :=
      congrArg (fun x : Except GateStop Unit × MappedRun σ => outcome x.1) hforget.symm
    obtain ⟨hwithin,hinside,hdelivered⟩ := checkMapped_recorded image file p hcount hheaders hlimit
      ⟨(s,[]),.replicate 1024 0⟩ rfl
    rw [hresult, outcome_matched_iff, ne_eq, outcome_none_iff]
    exact ⟨hdelivered,hinside,hwithin⟩

/-- A reader of the file laid out in memory. -/
def fileReader (t : Target) (file : List UInt8) (l : PeLayout) : ImageReader Unit where
  copy _ rva output := ((),true,(List.range output.length).map fun i =>
    if rva+.ofNat 32 i < l.headersSize then file.getD (rva+.ofNat 32 i).toNat 0
    else match rawOffset t l (rva+.ofNat 32 i) 1 with
      | some v => file.getD v 0
      | none => 0)
  length_copy _ _ _ := by simp

theorem fileReader_faithful (t : Target) {b : List UInt8} (hg : PeGrammar b) :
    (fileReader t b (layoutOf b)).Faithful t b (layoutOf b) := by
  intro s rva output h1 h2 h3
  have hgetD {n : ℕ} (hn : n < b.length) : some (b.getD n 0) = b[n]? := by
    rw [List.getD_eq_getElem?_getD, List.getElem?_eq_getElem hn]
    rfl
  have hheaders : (layoutOf b).headersSize.toNat = PeFile.headersSize b := word32_toNat b _
  refine ⟨rfl,fun i hi => ⟨fun hlt => ?_,fun v hv => ?_⟩⟩
  · simp only [fileReader, List.getElem?_map, List.getElem?_range hi, Option.map_some, if_pos hlt]
    refine hgetD ((BitVec.lt_def.mp hlt).trans_le ?_)
    rw [hheaders]
    exact hg.image.headersSize.2.2.1
  · obtain ⟨k,hk,hle,hend,hoffset⟩ := (rawOffset_eq_some_iff hg t _ le_rfl).mp hv
    have hafter := (hg.sections k hk).afterHeaders
    have hfile := (hg.sections k hk).inFile
    have hnot : ¬(rva+.ofNat 32 i < (layoutOf b).headersSize) := by
      rw [BitVec.lt_def, hheaders]
      omega
    simp only [fileReader, List.getElem?_map, List.getElem?_range hi, Option.map_some, if_neg hnot,
      hv]
    exact hgetD (by omega)

def smallProfile : ObservedProfile where
  fileBytes := 1024
  layout := layoutOf smallPe
  anchors := [{ rva := 4096, length := 4 }]

theorem profile_gates_agree_small : (checkMappedObservation
    (fileReader .x86 smallPe (layoutOf smallPe)) () smallPe (layoutOf smallPe) smallProfile).1 =
      some .matchedObservation :=
  (profile_gates_agree.{0} .x86 (parsePe32_smallPe .x86) (.replicate 32 0) smallProfile).1
    (by decide +kernel) _ () (fileReader_faithful .x86 smallPe_grammar)

end Saex
