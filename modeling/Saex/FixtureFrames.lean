import Saex.FixtureCodec

/-! The frames of the fixture codec: both decoders accept the records of valid entities and
nothing else, and both encoders write these records. -/
namespace Saex
open LittleEndian Recognizers

/-- The fields of the frame of an entity, each with its width. -/
def frameFields (e : EntityRef) : List (ℕ × ℕ) :=
  [(4,1480933715),(2,1),(2,0),(4,32),(8,e.worldId.value.toNat),(8,e.worldEpoch.value.toNat),
    (8,e.entityId.value.toNat),(8,e.generation.value.toNat)]

def fixtureFrame (e : EntityRef) : List UInt8 := record (frameFields e)

theorem frameFields_fit (e : EntityRef) : ∀ x ∈ frameFields e, x.2 < 256^x.1 := by
  simp only [frameFields, List.forall_mem_cons, List.not_mem_nil, IsEmpty.forall_iff, implies_true,
    and_true]
  exact ⟨by decide,by decide,by decide,by decide,UInt64.toNat_lt _,UInt64.toNat_lt _,
    UInt64.toNat_lt _,UInt64.toNat_lt _⟩

theorem length_fixtureFrame (e : EntityRef) : (fixtureFrame e).length = 44 :=
  length_record (frameFields e)

/-- What the header of a frame holds. -/
structure FrameHeader (f : List UInt8) : Prop where
  magic : field 4 f 0 = 1480933715
  version : field 2 f 4 = 1
  reserved : field 2 f 6 = 0
  payload : field 4 f 8 = 32

/-- The entity in the payload of a frame. -/
def entityAt (f : List UInt8) : EntityRef where
  worldId := ⟨.ofNat (field 8 f 12)⟩
  worldEpoch := ⟨.ofNat (field 8 f 20)⟩
  entityId := ⟨.ofNat (field 8 f 28)⟩
  generation := ⟨.ofNat (field 8 f 36)⟩

theorem word64_eq_iff (f : List UInt8) (p : ℕ) (v : UInt64) :
    UInt64.ofNat (field 8 f p) = v ↔ field 8 f p = v.toNat := by
  rw [← UInt64.toNat_inj, UInt64.toNat_ofNat_of_lt' (field_lt 8 f p)]

/-- A frame is its header and its entity. -/
theorem eq_fixtureFrame_iff (f : List UInt8) (e : EntityRef) :
    f = fixtureFrame e ↔ f.length = 44 ∧ FrameHeader f ∧ entityAt f = e := by
  by_cases hl : f.length = 44
  · have hholds := holds_iff (frameFields_fit e) (hl.trans (Nat.zero_add 44).symm)
    rw [List.drop_zero] at hholds
    rw [fixtureFrame, ← hholds]
    simp only [frameFields, Holds, Nat.zero_add, Nat.reduceAdd, and_true, hl, true_and,
      ← word64_eq_iff]
    constructor
    · rintro ⟨h1,h2,h3,h4,h5,h6,h7,h8⟩
      exact ⟨⟨h1,h2,h3,h4⟩,by rw [entityAt, h5, h6, h7, h8]⟩
    · rintro ⟨⟨h1,h2,h3,h4⟩,rfl⟩
      exact ⟨h1,h2,h3,h4,rfl,rfl,rfl,rfl⟩
  · refine iff_of_false (fun h => hl ?_) (fun h => hl h.1)
    rw [h, length_fixtureFrame]

namespace FixtureCodec
variable {f : List UInt8}

/-- The decoder never leaves the span: all its stops are errors of its own. -/
def Refusal (s : FixtureStop) : Prop := ∃ e, e ≠ .none ∧ s = .failed e

theorem refusal {e : DecodeError} (h : e ≠ .none := by decide) : Refusal (.failed e) := ⟨e,h,rfl⟩

theorem subspan_ok {offset count : ℕ} (h : offset+count ≤ f.length) :
    subspan f offset count = .ok ((f.drop offset).take count) := if_pos h

theorem readLe_toNat (offset : ℕ) {count : ℕ} (h : count ≤ 8) :
    (readLe ((f.drop offset).take count)).toNat = field count f offset := by
  rw [readLe, read_toNat, field]
  have hlen := List.length_take_le count (f.drop offset)
  omega

theorem readLe_eq_iff (offset : ℕ) {count : ℕ} (h : count ≤ 8) (v : BitVec 64) :
    readLe ((f.drop offset).take count) = v ↔ field count f offset = v.toNat := by
  rw [← BitVec.toNat_inj, readLe_toNat offset h]

theorem ofBitVec_readLe (offset : ℕ) :
    UInt64.ofBitVec (readLe ((f.drop offset).take 8)) = .ofNat (field 8 f offset) := by
  rw [← UInt64.toNat_inj, UInt64.toNat_ofBitVec, readLe_toNat offset le_rfl,
    UInt64.toNat_ofNat_of_lt' (field_lt 8 f offset)]

theorem validateFixtureHeader_recognizes (h : f.length = 12) :
    Recognizes Refusal (validateFixtureHeader f) (FrameHeader f) ⟨⟩ := by
  apply Recognizes.congr
  · apply Recognizes.bind (.refuseIf refusal)
    intro _
    apply Recognizes.after (subspan_ok (by omega))
    apply Recognizes.bind (.refuseIf refusal)
    intro _
    apply Recognizes.after (subspan_ok (by omega))
    apply Recognizes.bind (.refuseIf refusal)
    intro _
    apply Recognizes.after (subspan_ok (by omega))
    apply Recognizes.bind (.refuseIf refusal)
    intro _
    apply Recognizes.after (subspan_ok (by omega))
    exact .refuseIf refusal
  · simp only [not_not, ne_eq, h, fixtureHeaderBytes, true_and]
    rw [readLe_eq_iff 0 (by decide), readLe_eq_iff 4 (by decide), readLe_eq_iff 6 (by decide),
      readLe_eq_iff 8 (by decide)]
    exact ⟨fun ⟨h1,h2,h3,h4⟩ => ⟨h1,h2,h3,h4⟩,fun ⟨h1,h2,h3,h4⟩ => ⟨h1,h2,h3,h4⟩⟩

theorem frameHeader_take : FrameHeader (f.take 12) ↔ FrameHeader f := by
  have htake {width p : ℕ} (h : p+width ≤ 12) : field width (f.take 12) p = field width f p :=
    field_take f h
  constructor
  · rintro ⟨h1,h2,h3,h4⟩
    rw [htake (by decide)] at h1 h2 h3 h4
    exact ⟨h1,h2,h3,h4⟩
  · rintro ⟨h1,h2,h3,h4⟩
    rw [← htake (by decide)] at h1 h2 h3 h4
    exact ⟨h1,h2,h3,h4⟩

theorem readEntity_recognizes :
    Recognizes Refusal (readEntity f) (f.length = 44 ∧ FrameHeader f) (entityAt f) := by
  apply Recognizes.congr
  · apply Recognizes.bind (.refuseIf refusal)
    intro hsize
    have hlen : 12 ≤ f.length := not_lt.mp hsize
    apply Recognizes.after (subspan_ok (by rw [fixtureHeaderBytes]; omega))
    rw [List.drop_zero, fixtureHeaderBytes]
    apply Recognizes.bind (validateFixtureHeader_recognizes (by rw [List.length_take]; omega))
    intro _
    apply Recognizes.bind (.refuseIf refusal)
    intro hframe
    have hframe : f.length = 44 := not_not.mp hframe
    apply Recognizes.after (subspan_ok (by omega))
    apply Recognizes.after (subspan_ok (by omega))
    apply Recognizes.after (subspan_ok (by omega))
    apply Recognizes.after (subspan_ok (by omega))
    refine Recognizes.of_ok ?_
    rw [ofBitVec_readLe, ofBitVec_readLe, ofBitVec_readLe, ofBitVec_readLe]
    rfl
  · rw [frameHeader_take, not_lt, ne_eq, not_not, show fixtureFrameBytes = 44 from rfl,
      show fixtureHeaderBytes = 12 from rfl]
    constructor
    · rintro ⟨-,hheader,hlen,-⟩
      exact ⟨hlen,hheader⟩
    · rintro ⟨hlen,hheader⟩
      exact ⟨by omega,hheader,hlen,trivial⟩

end FixtureCodec

open FixtureCodec in
theorem decodeFixture_ok_iff (f : List UInt8) (e : EntityRef) :
    decodeFixture f = some ⟨.none,e⟩ ↔ e.valid ∧ f = fixtureFrame e := by
  have hread : readEntity f = .ok e ↔ f = fixtureFrame e := by
    rw [readEntity_recognizes.ok_iff, eq_fixtureFrame_iff, and_assoc, eq_comm (a := e)]
  rw [← hread, and_comm, decodeFixture]
  cases hr : readEntity f with
  | ok entity =>
    by_cases hv : entity.valid
    · simp only [hv, if_true, Option.some.injEq, DecodeResult.mk.injEq, true_and, Except.ok.injEq]
      exact ⟨fun h => ⟨h,h ▸ hv⟩,And.left⟩
    · simp only [hv, Bool.false_eq_true, if_false, Option.some.injEq, DecodeResult.mk.injEq,
        reduceCtorEq, false_and, Except.ok.injEq, false_iff, not_and]
      rintro rfl
      exact hv
  | error stop =>
    obtain ⟨error,hne,rfl⟩ := (readEntity_recognizes.error hr).2
    simp [hne]

open FixtureCodec in
/-- No read leaves the frame. -/
theorem decodeFixture_inside (f : List UInt8) : decodeFixture f ≠ none := by
  rw [decodeFixture]
  cases hr : readEntity f with
  | ok entity => nofun
  | error stop =>
    obtain ⟨error,-,rfl⟩ := (readEntity_recognizes.error hr).2
    nofun

/-! The encoders fill a frame of zeros field by field. -/
section Encoders
variable (e : EntityRef)

def filledFrame : Vector UInt8 44 :=
  let frame := splice 0 (bytes 4 1480933715) (.replicate 44 0)
  let frame := splice 4 (bytes 2 1) frame
  let frame := splice 8 (bytes 4 32) frame
  let frame := splice 12 (bytes 8 e.worldId.value.toNat) frame
  let frame := splice 20 (bytes 8 e.worldEpoch.value.toNat) frame
  let frame := splice 28 (bytes 8 e.entityId.value.toNat) frame
  splice 36 (bytes 8 e.generation.value.toNat) frame

theorem toList_filledFrame : (filledFrame e).toList = fixtureFrame e := by
  have h0 : (Vector.replicate 44 (0 : UInt8)).toList =
      record ([]++(4,0) :: [(2,0),(2,0),(4,0),(8,0),(8,0),(8,0),(8,0)]) := by decide
  have h1 := splice_record [] _ 4 0 1480933715 rfl h0
  have h2 := splice_record [(4,1480933715)] [(2,0),(4,0),(8,0),(8,0),(8,0),(8,0)] 2 0 1 rfl h1
  have h3 := splice_record [(4,1480933715),(2,1),(2,0)] [(8,0),(8,0),(8,0),(8,0)] 4 0 32 rfl h2
  have h4 := splice_record [(4,1480933715),(2,1),(2,0),(4,32)] [(8,0),(8,0),(8,0)] 8 0
    e.worldId.value.toNat rfl h3
  have h5 := splice_record [(4,1480933715),(2,1),(2,0),(4,32),(8,e.worldId.value.toNat)]
    [(8,0),(8,0)] 8 0 e.worldEpoch.value.toNat rfl h4
  have h6 := splice_record [(4,1480933715),(2,1),(2,0),(4,32),(8,e.worldId.value.toNat),
    (8,e.worldEpoch.value.toNat)] [(8,0)] 8 0 e.entityId.value.toNat rfl h5
  exact splice_record [(4,1480933715),(2,1),(2,0),(4,32),(8,e.worldId.value.toNat),
    (8,e.worldEpoch.value.toNat),(8,e.entityId.value.toNat)] [] 8 0 e.generation.value.toNat rfl h6

theorem encodeFixture_eq : encodeFixture e = if e.valid then some (filledFrame e) else none := by
  rw [encodeFixture]
  simp only [write_eq, UInt64.toNat_toBitVec]
  cases e.valid <;> rfl

theorem managedEncode_eq : ManagedFixtureCodec.encode e =
    if e.valid then .ok (filledFrame e) else .error "Invalid EntityRef" := by
  rw [ManagedFixtureCodec.encode]
  simp only [ManagedFixtureCodec.writeLittleEndian, UInt64.toNat_toBitVec, Nat.reduceAdd,
    Nat.reduceLeDiff, if_true]
  cases e.valid <;> rfl

end Encoders
namespace ManagedFixtureCodec
variable {f : List UInt8}

theorem readLittleEndian_ok {width offset : ℕ} (h : offset+width ≤ f.length) :
    readLittleEndian width f offset = .ok (.ofNat (8*width) (field width f offset)) := if_pos h

theorem toNat_ofNat_field (width offset : ℕ) :
    (BitVec.ofNat (8*width) (field width f offset)).toNat = field width f offset := by
  have hlt := field_lt width f offset
  rw [show (256:ℕ) = 2^8 from rfl, ← pow_mul] at hlt
  exact Nat.mod_eq_of_lt hlt

theorem ofNat_field_eq_iff {width offset : ℕ} (v : BitVec (8*width)) :
    BitVec.ofNat (8*width) (field width f offset) = v ↔ field width f offset = v.toNat := by
  rw [← BitVec.toNat_inj, toNat_ofNat_field]

theorem ofBitVec_ofNat_field (offset : ℕ) :
    UInt64.ofBitVec (.ofNat (8*8) (field 8 f offset)) = .ofNat (field 8 f offset) := by
  rw [← UInt64.toNat_inj, UInt64.toNat_ofBitVec, UInt64.toNat_ofNat_of_lt' (field_lt 8 f offset)]
  exact toNat_ofNat_field 8 offset

theorem decode_recognizes : Recognizes (fun _ => True) (decode f)
    (f.length = 44 ∧ FrameHeader f ∧ (entityAt f).valid) (entityAt f) := by
  apply Recognizes.congr
  · apply Recognizes.bind (.refuseIf trivial)
    intro hframe
    have hframe : f.length = 44 := not_not.mp hframe
    apply Recognizes.after (readLittleEndian_ok (by omega))
    apply Recognizes.bind (.refuseIf trivial)
    intro _
    apply Recognizes.after (readLittleEndian_ok (by omega))
    apply Recognizes.bind (.refuseIf trivial)
    intro _
    apply Recognizes.after (readLittleEndian_ok (by omega))
    apply Recognizes.bind (.refuseIf trivial)
    intro _
    apply Recognizes.after (readLittleEndian_ok (by omega))
    apply Recognizes.bind (.refuseIf trivial)
    intro _
    apply Recognizes.after (readLittleEndian_ok (by omega))
    apply Recognizes.after (readLittleEndian_ok (by omega))
    apply Recognizes.after (readLittleEndian_ok (by omega))
    apply Recognizes.after (readLittleEndian_ok (by omega))
    rw [ofBitVec_ofNat_field, ofBitVec_ofNat_field, ofBitVec_ofNat_field, ofBitVec_ofNat_field]
    apply Recognizes.bind (.refuseIf trivial)
    intro _
    exact .of_ok rfl
  · rw [not_not, not_not, not_not, not_not, not_not, Bool.not_eq_true', Bool.not_eq_false,
      ofNat_field_eq_iff, ofNat_field_eq_iff, ofNat_field_eq_iff, ofNat_field_eq_iff, and_true]
    constructor
    · rintro ⟨hlen,h1,h2,h3,h4,hvalid⟩
      exact ⟨hlen,⟨h1,h2,h3,h4⟩,hvalid⟩
    · rintro ⟨hlen,⟨h1,h2,h3,h4⟩,hvalid⟩
      exact ⟨hlen,h1,h2,h3,h4,hvalid⟩

theorem decode_ok_iff (e : EntityRef) : decode f = .ok e ↔ e.valid ∧ f = fixtureFrame e := by
  rw [decode_recognizes.ok_iff, eq_fixtureFrame_iff]
  constructor
  · rintro ⟨⟨hlen,hheader,hvalid⟩,rfl⟩
    exact ⟨hvalid,hlen,hheader,rfl⟩
  · rintro ⟨hvalid,hlen,hheader,rfl⟩
    exact ⟨⟨hlen,hheader,hvalid⟩,rfl⟩

end ManagedFixtureCodec

/-- All frames share their header. -/
theorem take_fixtureFrame (e : EntityRef) :
    (fixtureFrame e).take 12 = record [(4,1480933715),(2,1),(2,0),(4,32)] := by
  rw [fixtureFrame, frameFields, ← List.take_append_drop 4 (_ :: _), record_append]
  exact List.take_left' rfl

/-- A valid frame decodes to its entity and nothing else does, and its prefixes, extensions and
copies with another header byte are no frames at all. -/
theorem fixture_round_trip (f : List UInt8) (e : EntityRef) :
    (decodeFixture f = some ⟨.none,e⟩ ↔
      e.valid ∧ ∃ frame, encodeFixture e = some frame ∧ f = frame.toList) ∧
    decodeFixture f ≠ none ∧
    (decodeFixture f = some ⟨.none,e⟩ →
      (∀ g, g <+: f → g ≠ f → ∀ e', decodeFixture g ≠ some ⟨.none,e'⟩) ∧
      (∀ x, x ≠ [] → ∀ e', decodeFixture (f++x) ≠ some ⟨.none,e'⟩) ∧
      ∀ i < 12, ∀ c, f[i]? ≠ some c → ∀ e', decodeFixture (f.set i c) ≠ some ⟨.none,e'⟩) := by
  refine ⟨?_,decodeFixture_inside f,fun h => ?_⟩
  · rw [decodeFixture_ok_iff, encodeFixture_eq]
    refine and_congr_right fun hvalid => ?_
    simp [hvalid, toList_filledFrame]
  · obtain ⟨-,hf⟩ := (decodeFixture_ok_iff f e).mp h
    have hlen : f.length = 44 := by rw [hf, length_fixtureFrame]
    have hany {g : List UInt8} {e' : EntityRef} (hg : decodeFixture g = some ⟨.none,e'⟩) :
        g = fixtureFrame e' := ((decodeFixture_ok_iff g e').mp hg).2
    refine ⟨fun g hpre hne e' hg => ?_,fun x hx e' hg => ?_,fun i hi c hc e' hg => ?_⟩
    · have hl : g.length = f.length := by rw [hany hg, length_fixtureFrame, hlen]
      exact hne (hpre.eq_of_length hl)
    · have hl := congrArg List.length (hany hg)
      rw [List.length_append, length_fixtureFrame, hlen] at hl
      exact hx (List.length_eq_zero_iff.mp (by omega))
    · have hset : (f.set i c)[i]? = some c := List.getElem?_set_self (by omega)
      have htake (e : EntityRef) : (fixtureFrame e)[i]? = ((fixtureFrame e).take 12)[i]? := by
        rw [List.getElem?_take, if_pos hi]
      rw [hany hg, htake, take_fixtureFrame, ← take_fixtureFrame e, ← htake, ← hf] at hset
      exact hc hset

/-- The two implementations decode and encode one format. -/
theorem fixture_codecs_agree :
    (∀ f e, ManagedFixtureCodec.decode f = .ok e ↔ decodeFixture f = some ⟨.none,e⟩) ∧
    (∀ f, (∃ m, ManagedFixtureCodec.decode f = .error m) ↔
      ∃ r, decodeFixture f = some r ∧ r.error ≠ .none) ∧
    ∀ e : EntityRef, if e.valid then
        ∃ frame, encodeFixture e = some frame ∧ ManagedFixtureCodec.encode e = .ok frame
      else encodeFixture e = none ∧ ∃ m, ManagedFixtureCodec.encode e = .error m := by
  have hdecode (f : List UInt8) (e : EntityRef) :
      ManagedFixtureCodec.decode f = .ok e ↔ decodeFixture f = some ⟨.none,e⟩ := by
    rw [ManagedFixtureCodec.decode_ok_iff, decodeFixture_ok_iff]
  refine ⟨hdecode,fun f => ?_,fun e => ?_⟩
  · cases hm : ManagedFixtureCodec.decode f with
    | ok e =>
      have hn := (hdecode f e).mp hm
      refine iff_of_false (fun ⟨m,h⟩ => by cases h) ?_
      rintro ⟨r,hr,hne⟩
      rw [hn] at hr
      cases hr
      exact hne rfl
    | error m =>
      refine iff_of_true ⟨m,rfl⟩ ?_
      cases hn : decodeFixture f with
      | none => exact absurd hn (decodeFixture_inside f)
      | some r =>
        refine ⟨r,rfl,fun hnone => ?_⟩
        have hok := (hdecode f r.entity).mpr (by rw [hn, ← hnone])
        rw [hm] at hok
        cases hok
  · rw [encodeFixture_eq, managedEncode_eq]
    by_cases hvalid : e.valid
    · simp only [hvalid, if_true]
      exact ⟨_,rfl,rfl⟩
    · simp only [hvalid]
      exact ⟨rfl,_,rfl⟩

end Saex
