import Saex.CrtStartup
import Saex.PythonValues
import Saex.Recognizers
import Saex.StoppingRuns

/-! tools/crt_startup_policy.py: the compiler of the review. The layout of the profile comes
parsed, and of the parent policies there is what their compiler raises and the digest. -/
namespace Saex.CrtStartupPolicy
open LittleEndian Recognizers StoppingRuns PyValue

structure Source where
  /-- The size of the largest of the documents. -/
  size : ℕ
  parent : Except String Unit
  parentDigest : PyText
  layout : ProfileLayout
  /-- What `json.loads` makes of the data. -/
  document : Except String PyValue

/-- `hex_bytes` -/
def hexBytes (length : ℕ) (v : PyValue) : Except String (Vector UInt8 length) :=
  match v.str?.filter (PyText.consistsOf PyText.isHexDigit (length*2) (length*2)) with
  | none => .error "crt_policy_hex"
  | some t => .ok (.ofFn fun i => (PyText.fromHex t).getD i 0)

/-- `int.from_bytes(bs, 'little', signed=True)` -/
def signedLittle (bs : List UInt8) : ℤ :=
  if 2*value bs < 256^bs.length then value bs else value bs-256^bs.length

variable (layout : ProfileLayout)

/-- `span`; it returns the number. -/
def span (v : PyValue) (length : ℤ) (code : Bool) : Except String ℤ :=
  match v.int? with
  | none => .error "crt_policy_range"
  | some r => do
    refuseIf (¬(4096 ≤ r ∧ r ≤ layout.imageSize-length)) "crt_policy_range"
    refuseIf (¬layout.sections.any fun s => s.rva ≤ r && r+length ≤ s.rva+s.rawSize &&
      (!code || s.characteristics &&& 0x20000000 ≠ 0)) "crt_policy_section"
    return r

structure Frame where
  callRva : ℤ
  length : ℤ
  targetRva : ℤ
  call : Vector UInt8 5
  targetPrefix : Vector UInt8 16

def Frame.spans (f : Frame) : List (ℤ × ℤ) := [(f.callRva,f.length),(f.targetRva,16)]

/-- The numbers as the compiled text holds them. -/
def Frame.spec (f : Frame) : FrameTargetSpec :=
  ⟨.ofInt 32 layout.imageBase,.ofInt 32 layout.imageSize,.ofInt 32 f.callRva,.ofInt 32 f.targetRva,
    f.call,f.targetPrefix⟩

/-- The body of the loop over the calls. -/
def frame (v : PyValue) (length : ℤ) : Except String Frame :=
  match v.withKeys ["callRva","targetRva","callHex","targetPrefixHex"] with
  | none => .error "crt_policy_call_keys"
  | some f => do
    let call ← hexBytes 5 (item f "callHex")
    let targetPrefix ← hexBytes 16 (item f "targetPrefixHex")
    let callRva ← span layout (item f "callRva") length true
    let targetRva ← span layout (item f "targetRva") 16 true
    refuseIf (call.toList.head? ≠ some 0xe8 ∨ callRva+5+signedLittle (call.toList.drop 1) ≠ targetRva)
      "crt_policy_rel32"
    return ⟨callRva,length,targetRva,call,targetPrefix⟩

def stackOffset (v : PyValue) : Except String ℤ :=
  match v.int? with
  | none => .error "crt_policy_stack"
  | some offset => do
    refuseIf (¬(16 ≤ offset ∧ offset ≤ 4096) ∨ offset%4 ≠ 0) "crt_policy_stack"
    return offset

structure Table where
  rva : ℤ
  targets : List ℤ

def Table.span (t : Table) : ℤ × ℤ := (t.rva,t.targets.length*4)

def Table.spec (t : Table) : CrtInitializerTable := ⟨.ofInt 32 t.rva,t.targets.map (.ofInt 32)⟩

/-- The body of the loop over the targets. -/
def target (v : PyValue) : Except String ℤ :=
  match v.int? with
  | none => .error "crt_policy_target_type"
  | some 0 => .ok 0
  | some _ => span layout v 1 true

/-- The body of the loop over the tables, with the slots before. -/
def table (total : ℕ) (v : PyValue) (name : String) : Except String Table :=
  match v.withKeys ["name","rva","targets"] with
  | none => .error "crt_policy_table_keys"
  | some t => do
    refuseIf (¬(item t "name").isStr name) "crt_policy_table_keys"
    match (item t "targets").list?.filter (!·.isEmpty) with
    | none => .error "crt_policy_targets"
    | some targets => do
      refuseIf (total+targets.length > 2048) "crt_policy_budget"
      let rva ← span layout (item t "rva") (targets.length*4) false
      refuseIf (rva%4 ≠ 0) "crt_policy_alignment"
      let targets ← targets.mapM (target layout)
      return ⟨rva,targets⟩

def tables : ℕ → List (PyValue × String) → Except String (List Table)
  | _, [] => .ok []
  | total, (v,name) :: rest => do
    let t ← table layout total v name
    let ts ← tables (total+t.targets.length) rest
    return t :: ts

/-- The loop over the spans at the end. -/
def apartSpans (spans : List (ℤ × ℤ)) : Bool :=
  spans.Pairwise fun o x => ¬(x.1 < o.1+o.2 ∧ o.1 < x.1+x.2)

/-- What the compiled text says. -/
structure Review where
  io : Frame
  initializeFrame : Frame
  application : Frame
  ioReturn : Vector UInt8 16
  offset : ℤ
  tables : List Table

def Review.spans (r : Review) : List (ℤ × ℤ) :=
  r.io.spans++r.initializeFrame.spans++r.application.spans++r.tables.map (·.span)

def Review.spec (r : Review) : CrtStartupSpec :=
  ⟨r.io.spec layout,r.initializeFrame.spec layout,r.application.spec layout,r.ioReturn,
    .ofInt 32 r.offset,r.tables.map (·.spec)⟩

/-- The part of the compiler behind the checks of the identity. -/
def review (p : List (PyText × PyValue)) : Except String Review := do
  let io ← frame layout (item p "io") 21
  let initializeFrame ← frame layout (item p "initialize") 5
  let application ← frame layout (item p "application") 5
  let ioReturn ← hexBytes 16 (item p "ioReturnHex")
  let offset ← stackOffset (item p "ioReturnStackOffset")
  match (item p "tables").list?.filter (·.length = 3) with
  | none => .error "crt_policy_tables"
  | some ts => do
    let ts ← tables layout 0 (ts.zip ["floating-point-hook","c-initializers","cpp-initializers"])
    let r : Review := ⟨io,initializeFrame,application,ioReturn,offset,ts⟩
    refuseIf (¬apartSpans r.spans) "crt_policy_overlap"
    return r

/-- `compile_source`; it returns the structure in the compiled text. -/
def compileSource (x : Source) : Except String CrtStartupSpec := do
  refuseIf (x.size > 65536) "crt_policy_size"
  x.parent
  let p ← x.document
  match p.withKeys ["schemaVersion","id","stage","startupReturnPolicySha256","reviewDocument","io",
      "initialize","application","ioReturnHex","ioReturnStackOffset","tables"] with
  | none => .error "crt_policy_keys"
  | some p => do
    refuseIf ((item p "schemaVersion").int? ≠ some 1 ∨
      ¬(item p "stage").isStr "before-crt-initializers") "crt_policy_stage"
    refuseIf (¬(item p "id").str?.any PyText.isPolicyId) "crt_policy_id"
    refuseIf ((item p "startupReturnPolicySha256").str? ≠ some x.parentDigest) "crt_policy_parent"
    refuseIf (¬(item p "reviewDocument").isStr "docs/development/d1-crt-startup.md")
      "crt_policy_review"
    let r ← review x.layout p
    return r.spec x.layout

/-! What an accepted review says of its numbers. -/

structure FrameChecked (size length : ℤ) (f : Frame) : Prop where
  length_eq : f.length = length
  call : 4096 ≤ f.callRva ∧ f.callRva+length ≤ size
  target : 4096 ≤ f.targetRva ∧ f.targetRva+16 ≤ size
  opcode : f.call[0] = 0xe8
  reaches : f.callRva+5+signedLittle (f.call.toList.drop 1) = f.targetRva

structure TableChecked (size : ℤ) (t : Table) : Prop where
  nonempty : t.targets ≠ []
  aligned : t.rva%4 = 0
  inside : 4096 ≤ t.rva ∧ t.rva+t.targets.length*4 ≤ size
  target : ∀ x ∈ t.targets, x = 0 ∨ 4096 ≤ x ∧ x+1 ≤ size

structure ReviewChecked (size : ℤ) (r : Review) : Prop where
  io : FrameChecked size 21 r.io
  initializeFrame : FrameChecked size 5 r.initializeFrame
  application : FrameChecked size 5 r.application
  stack : 16 ≤ r.offset ∧ r.offset ≤ 4096 ∧ r.offset%4 = 0
  count : r.tables.length = 3
  table : ∀ t ∈ r.tables, TableChecked size t
  budget : (r.tables.map (·.targets.length)).sum ≤ 2048
  apart : apartSpans r.spans

variable {layout}

theorem span_ok {v : PyValue} {length r : ℤ} {code : Bool}
    (h : span layout v length code = .ok r) :
    v.int? = some r ∧ 4096 ≤ r ∧ r+length ≤ layout.imageSize := by
  unfold span at h
  split at h
  · cases h
  next n hn =>
  simp only [bind_ok_iff, refuseIf_ok_iff, not_not] at h
  obtain ⟨-,hrange,-,-,hr⟩ := h
  cases hr
  exact ⟨hn,hrange.1,by omega⟩

theorem head?_toList {n : ℕ} {bs : Vector UInt8 (n+1)} {b : UInt8}
    (h : bs.toList.head? = some b) : bs[0] = b := by
  rw [List.head?_eq_getElem?, Vector.getElem?_toList, Vector.getElem?_eq_getElem (by omega)] at h
  exact Option.some.inj h

theorem frame_ok {v : PyValue} {length : ℤ} {f : Frame} (h : frame layout v length = .ok f) :
    FrameChecked layout.imageSize length f := by
  unfold frame at h
  split at h
  · cases h
  next members hmembers =>
  simp only [bind_ok_iff, refuseIf_ok_iff, not_or, not_not] at h
  obtain ⟨call,-,targetPrefix,-,callRva,hcall,targetRva,htarget,-,⟨hopcode,hreaches⟩,hf⟩ := h
  cases hf
  exact ⟨rfl,(span_ok hcall).2,(span_ok htarget).2,head?_toList hopcode,hreaches⟩

theorem stackOffset_ok {v : PyValue} {offset : ℤ} (h : stackOffset v = .ok offset) :
    16 ≤ offset ∧ offset ≤ 4096 ∧ offset%4 = 0 := by
  unfold stackOffset at h
  split at h
  · cases h
  next n hn =>
  simp only [bind_ok_iff, refuseIf_ok_iff, not_or, not_not] at h
  obtain ⟨-,⟨hrange,haligned⟩,hoffset⟩ := h
  cases hoffset
  exact ⟨hrange.1,hrange.2,haligned⟩

theorem target_ok {v : PyValue} {x : ℤ} (h : target layout v = .ok x) :
    x = v.int?.getD 0 ∧ (v.int?.getD 0 = 0 ∨
      4096 ≤ v.int?.getD 0 ∧ v.int?.getD 0+1 ≤ layout.imageSize) := by
  unfold target at h
  split at h
  · cases h
  next hzero =>
    cases h
    rw [hzero]
    exact ⟨rfl,.inl rfl⟩
  · obtain ⟨hx,hinside⟩ := span_ok h
    rw [hx]
    exact ⟨rfl,.inr hinside⟩

theorem table_ok {total : ℕ} {v : PyValue} {name : String} {t : Table}
    (h : table layout total v name = .ok t) :
    TableChecked layout.imageSize t ∧ total+t.targets.length ≤ 2048 := by
  unfold table at h
  split at h
  · cases h
  next members hmembers =>
  simp only [bind_ok_iff, refuseIf_ok_iff, not_not] at h
  obtain ⟨-,-,h⟩ := h
  split at h
  · cases h
  next targets htargets =>
  simp only [bind_ok_iff, refuseIf_ok_iff, not_not, not_lt] at h
  obtain ⟨-,hbudget,rva,hrva,-,haligned,xs,hxs,ht⟩ := h
  cases ht
  obtain ⟨rfl,hall⟩ := of_mapM_ok (fun v x => target_ok) hxs
  have hne : targets ≠ [] := by
    intro hnil
    rw [Option.filter_eq_some_iff] at htargets
    rw [hnil] at htargets
    exact absurd htargets.2 (by decide)
  refine ⟨⟨?_,haligned,?_,?_⟩,?_⟩
  · exact List.map_eq_nil_iff.not.mpr hne
  · rw [List.length_map]
    exact (span_ok hrva).2
  · exact List.forall_mem_map.mpr hall
  · rw [List.length_map]
    exact hbudget

theorem tables_ok {vs : List (PyValue × String)} {total : ℕ} {ts : List Table}
    (h : tables layout total vs = .ok ts) (htotal : total ≤ 2048) :
    ts.length = vs.length ∧ (∀ t ∈ ts, TableChecked layout.imageSize t) ∧
      total+(ts.map (·.targets.length)).sum ≤ 2048 := by
  induction vs generalizing total ts with
  | nil =>
    cases h
    exact ⟨rfl,fun _ h => absurd h List.not_mem_nil,htotal⟩
  | cons x vs ih =>
    simp only [tables, bind_ok_iff] at h
    obtain ⟨t,ht,rest,hrest,hts⟩ := h
    cases hts
    obtain ⟨hchecked,hbudget⟩ := table_ok ht
    obtain ⟨hlength,hall,hsum⟩ := ih hrest hbudget
    refine ⟨congrArg (·+1) hlength,List.forall_mem_cons.mpr ⟨hchecked,hall⟩,?_⟩
    rw [List.map_cons, List.sum_cons]
    omega

theorem review_ok {p : List (PyText × PyValue)} {r : Review} (h : review layout p = .ok r) :
    ReviewChecked layout.imageSize r := by
  simp only [review, bind_ok_iff] at h
  obtain ⟨io,hio,init,hinit,application,happlication,ioReturn,-,offset,hoffset,h⟩ := h
  split at h
  · cases h
  next vs hvs =>
  simp only [bind_ok_iff, refuseIf_ok_iff, not_not] at h
  obtain ⟨ts,hts,-,hapart,hr⟩ := h
  cases hr
  obtain ⟨hlength,hall,hsum⟩ := tables_ok hts (Nat.zero_le _)
  have hcount : vs.length = 3 := by simpa using (Option.filter_eq_some_iff.mp hvs).2
  rw [List.length_zip, hcount] at hlength
  rw [Nat.zero_add] at hsum
  exact ⟨frame_ok hio,frame_ok hinit,frame_ok happlication,stackOffset_ok hoffset,hlength,hall,
    hsum,hapart⟩

theorem compileSource_ok {x : Source} {s : CrtStartupSpec} (h : compileSource x = .ok s) :
    ∃ r : Review, ReviewChecked x.layout.imageSize r ∧ s = r.spec x.layout := by
  simp only [compileSource, bind_ok_iff] at h
  obtain ⟨-,-,-,-,p,-,h⟩ := h
  split at h
  · cases h
  simp only [bind_ok_iff] at h
  obtain ⟨-,-,-,-,-,-,-,-,r,hr,hs⟩ := h
  cases hs
  exact ⟨r,review_ok hr,rfl⟩

/-! The compiled structure is what the validator asks for. -/

theorem toNat_ofInt {n : ℤ} (hlow : 0 ≤ n) (hhigh : n < 2^32) :
    ((BitVec.ofInt 32 n).toNat : ℤ) = n := by
  rw [BitVec.toNat_ofInt, Int.toNat_of_nonneg (Int.emod_nonneg _ (by decide))]
  exact Int.emod_eq_of_lt hlow hhigh

theorem signedLittle_eq {bs : List UInt8} (h : bs.length = 4) :
    signedLittle bs = (read 32 bs).toInt := by
  rw [BitVec.toInt_eq_toNat_cond, read_toNat (by omega), signedLittle, h]
  rfl

/-- An image that lies in the addresses, and may end with them. -/
structure LayoutPlaced (layout : ProfileLayout) : Prop where
  base_pos : 0 < layout.imageBase
  base_dvd : layout.imageBase%65536 = 0
  least : 4096 ≤ layout.imageSize
  most : layout.imageSize ≤ 2^28
  fits : layout.imageBase+layout.imageSize ≤ 2^32

def wide (x : ℤ × ℤ) : ℕ × ℕ := (x.1.toNat,x.2.toNat)

section Compiled
variable {r : Review} (hplaced : LayoutPlaced layout) (h : ReviewChecked layout.imageSize r)

theorem apart_wide {x y : ℤ × ℤ} (hx : 0 ≤ x.1 ∧ 0 ≤ x.2) (hy : 0 ≤ y.1 ∧ 0 ≤ y.2)
    (hxy : ¬(y.1 < x.1+x.2 ∧ x.1 < y.1+y.2)) : SpansApart (wide x) (wide y) := by
  unfold SpansApart wide
  omega

include h in
theorem spans_inside : ∀ x ∈ r.spans, 4096 ≤ x.1 ∧ 0 ≤ x.2 ∧ x.1+x.2 ≤ layout.imageSize := by
  simp only [Review.spans, Frame.spans, List.forall_mem_append, List.forall_mem_cons,
    List.forall_mem_map, List.not_mem_nil, false_imp_iff, implies_true, and_true, h.io.length_eq,
    h.initializeFrame.length_eq, h.application.length_eq]
  have hio := h.io
  have hinit := h.initializeFrame
  have happlication := h.application
  refine ⟨⟨⟨⟨⟨hio.call.1,by decide,hio.call.2⟩,hio.target.1,by decide,hio.target.2⟩,
    ⟨hinit.call.1,by decide,hinit.call.2⟩,hinit.target.1,by decide,hinit.target.2⟩,
    ⟨happlication.call.1,by decide,happlication.call.2⟩,happlication.target.1,by decide,
    happlication.target.2⟩,fun t ht => ?_⟩
  have hinside := (h.table t ht).inside
  exact ⟨hinside.1,by unfold Table.span; omega,hinside.2⟩

include hplaced in
/-- A number within the image keeps its value as a word. -/
theorem word_toNat {n : ℤ} (h : 4096 ≤ n ∧ n ≤ layout.imageSize) :
    ((BitVec.ofInt 32 n).toNat : ℤ) = n := by
  have hmost := hplaced.most
  exact toNat_ofInt (by omega) (by omega)

include hplaced h in
/-- The spans of the compiled structure are those that the compiler has compared. -/
theorem spans_spec : (r.spec layout).spans = r.spans.map wide := by
  have hcast {n k : ℤ} (hk : 0 ≤ k) (hn : 4096 ≤ n ∧ n+k ≤ layout.imageSize) :
      (BitVec.ofInt 32 n).toNat = n.toNat := by
    have heq := word_toNat hplaced (n := n) (by omega)
    omega
  have htables : (r.spec layout).tables.map (·.slots) = (r.tables.map (·.span)).map wide := by
    rw [show (r.spec layout).tables = r.tables.map (·.spec) from rfl, List.map_map, List.map_map]
    refine List.map_congr_left fun t ht => ?_
    have hinside := (h.table t ht).inside
    refine Prod.ext (hcast (by omega) hinside) ?_
    change 4*(t.targets.map _).length = ((t.targets.length : ℤ)*4).toNat
    rw [List.length_map]
    omega
  rw [Review.spans, List.map_append, ← htables]
  refine congrArg (·++_) ?_
  simp only [Review.spec, Frame.spec, Frame.spans, List.map_cons, List.map_nil, List.cons_append,
    List.nil_append, wide, h.io.length_eq, h.initializeFrame.length_eq, h.application.length_eq,
    hcast (by decide) h.io.call, hcast (by decide) h.io.target,
    hcast (by decide) h.initializeFrame.call, hcast (by decide) h.initializeFrame.target,
    hcast (by decide) h.application.call, hcast (by decide) h.application.target]
  rfl

include hplaced h in
theorem apart_spec : (r.spec layout).spans.Pairwise SpansApart := by
  have hinside := spans_inside h
  have hapart : r.spans.Pairwise fun o x => ¬(x.1 < o.1+o.2 ∧ o.1 < x.1+x.2) := by
    simpa [apartSpans] using h.apart
  rw [spans_spec hplaced h, List.pairwise_map]
  refine hapart.imp_of_mem fun {o x} ho hx hox => ?_
  have ho := hinside o ho
  have hx := hinside x hx
  exact apart_wide ⟨by omega,ho.2.1⟩ ⟨by omega,hx.2.1⟩ hox

include hplaced h in
theorem inside_spec : ∀ x ∈ (r.spec layout).spans,
    4096 ≤ x.1 ∧ x.1+x.2 ≤ (r.spec layout).io.imageSize.toNat := by
  have hsize : (((r.spec layout).io.imageSize.toNat : ℕ) : ℤ) = layout.imageSize :=
    word_toNat hplaced ⟨hplaced.least,le_rfl⟩
  rw [spans_spec hplaced h]
  refine List.forall_mem_map.mpr fun x hx => ?_
  have hinside := spans_inside h x hx
  unfold wide
  omega

include hplaced in
theorem tableLaws_spec {t : Table} (ht : TableChecked layout.imageSize t) :
    TableLaws (BitVec.ofInt 32 layout.imageSize).toNat t.spec := by
  have hsize := word_toNat hplaced ⟨hplaced.least,le_rfl⟩
  have hinside := ht.inside
  have hrva := word_toNat hplaced (n := t.rva) ⟨hinside.1,by omega⟩
  have haligned := ht.aligned
  refine ⟨List.map_eq_nil_iff.not.mpr ht.nonempty,?_,?_,List.forall_mem_map.mpr fun x hx => ?_⟩
  · change 4 ∣ (BitVec.ofInt 32 t.rva).toNat
    omega
  · change 4096 ≤ (BitVec.ofInt 32 t.rva).toNat ∧
      (BitVec.ofInt 32 t.rva).toNat+4*(t.targets.map _).length ≤ _
    rw [List.length_map]
    omega
  · cases ht.target x hx with
    | inl hzero =>
      rw [hzero]
      exact .inl rfl
    | inr hx =>
      have hword := word_toNat hplaced (n := x) ⟨hx.1,by omega⟩
      exact .inr (by omega)

include hplaced in
/-- A frame of the compiler, where the image ends before the addresses do. -/
theorem frameLaws_spec {f : Frame} {length : ℤ} (hlength : 5 ≤ length)
    (hf : FrameChecked layout.imageSize length f)
    (hfits : layout.imageBase+layout.imageSize < 2^32)
    (hapart : SpansApart (wide (f.callRva,length)) (wide (f.targetRva,16))) :
    FrameLaws (f.spec layout) := by
  have hsize := word_toNat hplaced ⟨hplaced.least,le_rfl⟩
  have hleast := hplaced.least
  have hmost := hplaced.most
  have hbase : ((BitVec.ofInt 32 layout.imageBase).toNat : ℤ) = layout.imageBase :=
    toNat_ofInt hplaced.base_pos.le (by omega)
  have hpos := hplaced.base_pos
  have hdvd := hplaced.base_dvd
  obtain ⟨hcalled,hreturn⟩ := hf.call
  obtain ⟨htargeted,hend⟩ := hf.target
  have hcall := word_toNat hplaced (n := f.callRva) ⟨hcalled,by omega⟩
  have htarget := word_toNat hplaced (n := f.targetRva) ⟨htargeted,by omega⟩
  have hreaches := hf.reaches
  rw [signedLittle_eq (by simp)] at hreaches
  unfold SpansApart wide at hapart
  refine ⟨?_,?_,?_,?_,?_,⟨?_,?_⟩,⟨?_,?_⟩,?_,hf.opcode,?_⟩ <;>
    simp only [Frame.spec, FrameTargetSpec.distance, SpansApart]
  case refine_11 => rw [hcall, htarget]; exact hreaches
  all_goals omega

include hplaced h in
theorem laws_spec (hfits : layout.imageBase+layout.imageSize < 2^32) :
    CrtStartupLaws (r.spec layout) := by
  have happart {f : Frame} {length : ℤ} (hf : FrameChecked layout.imageSize length f)
      (hsub : f.spans.Sublist r.spans) :
      SpansApart (wide (f.callRva,length)) (wide (f.targetRva,16)) := by
    have hall := spans_spec hplaced h ▸ apart_spec hplaced h
    have hpair := hall.sublist (hsub.map wide)
    rw [Frame.spans, hf.length_eq] at hpair
    exact (List.pairwise_cons.mp hpair).1 _ List.mem_cons_self
  have hio : r.io.spans.Sublist r.spans :=
    ((List.sublist_append_left ..).trans (List.sublist_append_left ..)).trans
      (List.sublist_append_left ..)
  have hinit : r.initializeFrame.spans.Sublist r.spans :=
    ((List.sublist_append_right ..).trans (List.sublist_append_left ..)).trans
      (List.sublist_append_left ..)
  have happlication : r.application.spans.Sublist r.spans :=
    (List.sublist_append_right ..).trans (List.sublist_append_left ..)
  have hstack := h.stack
  have hoffset : ((BitVec.ofInt 32 r.offset).toNat : ℤ) = r.offset :=
    toNat_ofInt (by omega) (by omega)
  have hcount := h.count
  have hlengths : (r.spec layout).tables.map (·.targets.length) =
      r.tables.map (·.targets.length) := by
    rw [show (r.spec layout).tables = r.tables.map (·.spec) from rfl, List.map_map]
    exact List.map_congr_left fun t _ => List.length_map ..
  refine ⟨?_,?_,?_,⟨?_,?_⟩,?_,?_,inside_spec hplaced h,apart_spec hplaced h⟩
  · refine List.forall_mem_cons.mpr ⟨?_,List.forall_mem_cons.mpr ⟨?_,List.forall_mem_singleton.mpr ?_⟩⟩
    · exact frameLaws_spec hplaced (by decide) h.io hfits (happart h.io hio)
    · exact frameLaws_spec hplaced (by decide) h.initializeFrame hfits
        (happart h.initializeFrame hinit)
    · exact frameLaws_spec hplaced (by decide) h.application hfits
        (happart h.application happlication)
  · simp [CrtStartupSpec.frames, Review.spec, Frame.spec]
  · change 16 ≤ (BitVec.ofInt 32 r.offset).toNat ∧ (BitVec.ofInt 32 r.offset).toNat ≤ 4096 ∧
      4 ∣ (BitVec.ofInt 32 r.offset).toNat
    omega
  · refine List.map_eq_nil_iff.not.mpr fun hnil => ?_
    rw [hnil] at hcount
    cases hcount
  · exact (List.length_map ..).trans_le hcount.le
  · exact List.forall_mem_map.mpr fun t ht => tableLaws_spec hplaced (h.table t ht)
  · rw [hlengths]
    exact h.budget

end Compiled

/-- For an image that may end with the addresses, the validator accepts what the compiler
emits just where the image ends before; and what it accepts is so in exact arithmetic. -/
theorem compiler_validator_agree :
    (∀ x s, LayoutPlaced x.layout → compileSource x = .ok s →
      (validCrtStartupSpec s = true ↔ x.layout.imageBase+x.layout.imageSize < 2^32)) ∧
    ∀ s, validCrtStartupSpec s = true → CrtStartupLaws s := by
  refine ⟨fun x s hplaced hs => ⟨fun hvalid => ?_,fun hfits => ?_⟩,
    fun s => validCrtStartupSpec_iff.mp⟩
  · obtain ⟨r,hr,rfl⟩ := compileSource_ok hs
    have hframe := (validCrtStartupSpec_iff.mp hvalid).frame _ List.mem_cons_self
    have hfits := hframe.fits
    have hsize := word_toNat hplaced ⟨hplaced.least,le_rfl⟩
    have hbase : ((BitVec.ofInt 32 x.layout.imageBase).toNat : ℤ) = x.layout.imageBase :=
      toNat_ofInt hplaced.base_pos.le (by have := hplaced.fits; have := hplaced.least; omega)
    change (BitVec.ofInt 32 x.layout.imageBase).toNat+(BitVec.ofInt 32 x.layout.imageSize).toNat <
      2^32 at hfits
    omega
  · obtain ⟨r,hr,rfl⟩ := compileSource_ok hs
    exact validCrtStartupSpec_iff.mpr (laws_spec hplaced hr hfits)

/-! A review of three calls and three tables of one slot. -/

def smallFrame (callRva targetRva : ℤ) (call : String) : PyValue :=
  .object [(pyText "callRva",ofInt callRva),(pyText "targetRva",ofInt targetRva),
    (pyText "callHex",ofStr call),
    (pyText "targetPrefixHex",ofStr "00000000000000000000000000000000")]

def smallTable (name : String) (rva target : ℤ) : PyValue :=
  .object [(pyText "name",ofStr name),(pyText "rva",ofInt rva),
    (pyText "targets",.array [ofInt target])]

def smallDocument : PyValue :=
  .object [(pyText "schemaVersion",ofInt 1),(pyText "id",ofStr "small"),
    (pyText "stage",ofStr "before-crt-initializers"),
    (pyText "startupReturnPolicySha256",ofStr "00"),
    (pyText "reviewDocument",ofStr "docs/development/d1-crt-startup.md"),
    (pyText "io",smallFrame 4096 4128 "e81b000000"),
    (pyText "initialize",smallFrame 4160 4176 "e80b000000"),
    (pyText "application",smallFrame 4224 4208 "e8ebffffff"),
    (pyText "ioReturnHex",ofStr "00000000000000000000000000000000"),
    (pyText "ioReturnStackOffset",ofInt 88),
    (pyText "tables",.array [smallTable "floating-point-hook" 4240 4096,
      smallTable "c-initializers" 4244 0,smallTable "cpp-initializers" 4248 0])]

def smallSource (base : ℤ) : Source where
  size := 2048
  parent := .ok ()
  parentDigest := pyText "00"
  layout := ⟨base,65536,[⟨4096,4096,4096,0x60000020⟩]⟩
  document := .ok smallDocument

theorem exists_ok {x : Except String CrtStartupSpec} {p : CrtStartupSpec → Bool}
    (h : x.toOption.any p) : ∃ s, x = .ok s ∧ p s = true := by
  cases x with
  | error e => cases h
  | ok s => exact ⟨s,rfl,h⟩

theorem compiler_validator_agree_small :
    ∃ s, compileSource (smallSource 0x400000) = .ok s ∧ CrtStartupLaws s := by
  obtain ⟨s,hs,-⟩ := exists_ok (x := compileSource (smallSource 0x400000)) (p := fun _ => true)
    (by decide)
  have hplaced : LayoutPlaced (smallSource 0x400000).layout := by
    constructor <;> decide
  exact ⟨s,hs,compiler_validator_agree.2 s
    ((compiler_validator_agree.1 _ s hplaced hs).mpr (by decide))⟩

/-- The compiler lets an image end with the addresses; the validator does not. -/
theorem image_at_the_end_refused :
    ∃ s, LayoutPlaced (smallSource 0xffff0000).layout ∧
      compileSource (smallSource 0xffff0000) = .ok s ∧ validCrtStartupSpec s = false := by
  obtain ⟨s,hs,hrefused⟩ := exists_ok (x := compileSource (smallSource 0xffff0000))
    (p := fun s => !validCrtStartupSpec s) (by decide)
  refine ⟨s,?_,hs,Bool.not_eq_true' _ ▸ hrefused⟩
  constructor <;> decide

end Saex.CrtStartupPolicy
