import Saex.FrameTarget

/-! engine/loader/crt_startup.cpp: the check of the reviewed calls and initializer tables of
the C runtime, and what an accepted review says in exact arithmetic. -/
namespace Saex
open LittleEndian

structure CrtInitializerTable where
  rva : BitVec 32
  /-- Zero or reviewed RVAs. -/
  targets : List (BitVec 32)
deriving DecidableEq

structure CrtStartupSpec where
  io : FrameTargetSpec
  initializeFrame : FrameTargetSpec
  application : FrameTargetSpec
  ioReturnPrefix : Vector UInt8 16
  ioReturnStackOffset : BitVec 32
  tables : List CrtInitializerTable
deriving DecidableEq

/-- `overlap` -/
def spansOverlap (x y : BitVec 32 × BitVec 32) : Bool := x.1 < y.1+y.2 && y.1 < x.1+x.2

/-- Where the table is; its size is cast to 32 bits. -/
def CrtInitializerTable.span (t : CrtInitializerTable) : BitVec 32 × BitVec 32 :=
  (t.rva,.ofNat 32 (t.targets.length*4))

/-- `starts` with `lengths`; behind the first CALL its reviewed return is part of the span. -/
def CrtStartupSpec.starts (s : CrtStartupSpec) : List (BitVec 32 × BitVec 32) :=
  [(s.io.callRva,21),(s.io.targetRva,16),(s.initializeFrame.callRva,5),(s.initializeFrame.targetRva,16),
    (s.application.callRva,5),(s.application.targetRva,16)]

/-- The loop over the tables, with the slots and the tables before. -/
def validCrtTables (size : BitVec 32) (starts : List (BitVec 32 × BitVec 32)) :
    ℕ → List CrtInitializerTable → List CrtInitializerTable → Bool
  | _, _, [] => true
  | total, done, t :: rest =>
    !(t.targets.isEmpty || t.targets.length > 2048-total || t.rva < 4096 || t.rva.toNat%4 ≠ 0 ||
      t.rva > size || t.targets.length > ((size-t.rva)/4).toNat) &&
    t.targets.all (fun target => !(target ≠ 0 && (target < 4096 || target ≥ size))) &&
    starts.all (!spansOverlap t.span ·) && done.all (!spansOverlap t.span ·.span) &&
    validCrtTables size starts (total+t.targets.length) (done++[t]) rest

def validCrtStartupSpec (s : CrtStartupSpec) : Bool :=
  let size := s.io.imageSize
  !(!validFrameTargetSpec s.io || !validFrameTargetSpec s.initializeFrame ||
    !validFrameTargetSpec s.application ||
    s.io.imageBase ≠ s.initializeFrame.imageBase || s.io.imageBase ≠ s.application.imageBase ||
    size ≠ s.initializeFrame.imageSize || size ≠ s.application.imageSize || s.io.callRva > size-21 ||
    s.ioReturnStackOffset < 16 || s.ioReturnStackOffset > 4096 ||
    s.ioReturnStackOffset.toNat%4 ≠ 0 || s.tables.isEmpty || s.tables.length > 3) &&
  disjointSpans s.starts && validCrtTables size s.starts 0 [] s.tables

/-! What is reviewed, in exact arithmetic. -/

/-- Spans of ℕ with nothing in common. -/
def SpansApart (x y : ℕ × ℕ) : Prop := x.1+x.2 ≤ y.1 ∨ y.1+y.2 ≤ x.1

/-- A span of words as one of numbers. -/
def wideSpan (x : BitVec 32 × BitVec 32) : ℕ × ℕ := (x.1.toNat,x.2.toNat)

/-- Where the sums do not wrap, the test of the words is that of the numbers. -/
theorem not_spansOverlap_iff {x y : BitVec 32 × BitVec 32} (hx : x.1.toNat+x.2.toNat < 2^32)
    (hy : y.1.toNat+y.2.toNat < 2^32) :
    (!spansOverlap x y) = true ↔ SpansApart (wideSpan x) (wideSpan y) := by
  have hxsum : (x.1+x.2).toNat = x.1.toNat+x.2.toNat := by
    rw [BitVec.toNat_add, Nat.mod_eq_of_lt hx]
  have hysum : (y.1+y.2).toNat = y.1.toNat+y.2.toNat := by
    rw [BitVec.toNat_add, Nat.mod_eq_of_lt hy]
  simp only [spansOverlap, Bool.not_eq_true', Bool.and_eq_false_iff, decide_eq_false_iff_not,
    BitVec.lt_def, hxsum, hysum, SpansApart, wideSpan]
  omega

/-- A CALL with a sign-extended distance to its target, both in an image in the addresses. -/
structure FrameLaws (f : FrameTargetSpec) : Prop where
  base_pos : 0 < f.imageBase.toNat
  base_dvd : 65536 ∣ f.imageBase.toNat
  least : 4096 ≤ f.imageSize.toNat
  most : f.imageSize.toNat ≤ 2^28
  fits : f.imageBase.toNat+f.imageSize.toNat < 2^32
  call_inside : 4096 ≤ f.callRva.toNat ∧ f.callRva.toNat+5 ≤ f.imageSize.toNat
  target_inside : 4096 ≤ f.targetRva.toNat ∧ f.targetRva.toNat+16 ≤ f.imageSize.toNat
  apart : SpansApart (f.callRva.toNat,5) (f.targetRva.toNat,16)
  opcode : f.call[0] = 0xe8
  reaches : (f.callRva.toNat : ℤ)+5+f.distance.toInt = f.targetRva.toNat

theorem validFrameTargetSpec_iff {f : FrameTargetSpec} :
    validFrameTargetSpec f = true ↔ FrameLaws f := by
  have hbase : f.imageBase = 0 ↔ ¬0 < f.imageBase.toNat := by bv_omega
  simp only [validFrameTargetSpec, Bool.and_eq_true, Bool.not_eq_true', Bool.or_eq_false_iff,
    Bool.and_eq_false_iff, decide_eq_false_iff_not, decide_eq_true_eq, hbase, not_not]
  constructor
  · rintro ⟨⟨⟨⟨⟨⟨⟨⟨⟨⟨⟨hpos,hdvd⟩,hleast⟩,hmost⟩,hfits⟩,hcall⟩,htarget⟩,hcall'⟩,htarget'⟩,hapart⟩,
      hopcode⟩,hreaches⟩
    refine ⟨hpos,Nat.dvd_of_mod_eq_zero hdvd,?_,?_,?_,⟨?_,?_⟩,⟨?_,?_⟩,?_,hopcode,hreaches⟩
    case refine_8 => unfold SpansApart; omega
    all_goals bv_omega
  · rintro ⟨hpos,hdvd,hleast,hmost,hfits,⟨hcall,hcall'⟩,⟨htarget,htarget'⟩,hapart,hopcode,hreaches⟩
    unfold SpansApart at hapart
    refine ⟨⟨⟨⟨⟨⟨⟨⟨⟨⟨⟨hpos,Nat.mod_eq_zero_of_dvd hdvd⟩,?_⟩,?_⟩,?_⟩,?_⟩,?_⟩,?_⟩,?_⟩,?_⟩,hopcode⟩,
      hreaches⟩
    all_goals bv_omega

/-- The slots of a table in the image. -/
def CrtInitializerTable.slots (t : CrtInitializerTable) : ℕ × ℕ :=
  (t.rva.toNat,4*t.targets.length)

structure TableLaws (size : ℕ) (t : CrtInitializerTable) : Prop where
  nonempty : t.targets ≠ []
  aligned : 4 ∣ t.rva.toNat
  inside : 4096 ≤ t.rva.toNat ∧ t.rva.toNat+4*t.targets.length ≤ size
  target : ∀ x ∈ t.targets, x = 0 ∨ 4096 ≤ x.toNat ∧ x.toNat < size

section Tables
variable {size : BitVec 32}

theorem wideSpan_span {t : CrtInitializerTable} (hsize : size.toNat ≤ 2^28)
    (h : TableLaws size.toNat t) : wideSpan t.span = t.slots := by
  have hlength := h.inside.2
  have hmod : t.targets.length*4%2^32 = 4*t.targets.length := by
    rw [Nat.mod_eq_of_lt (by omega), Nat.mul_comm]
  rw [wideSpan, CrtInitializerTable.span, CrtInitializerTable.slots, BitVec.toNat_ofNat, hmod]

/-- The tests of one table that are not about the spans before it. -/
theorem tableLaws_iff {t : CrtInitializerTable} {total : ℕ} :
    ((!(t.targets.isEmpty || t.targets.length > 2048-total || t.rva < 4096 ||
        t.rva.toNat%4 ≠ 0 || t.rva > size || t.targets.length > ((size-t.rva)/4).toNat) &&
      t.targets.all (fun target => !(target ≠ 0 && (target < 4096 || target ≥ size)))) = true) ↔
    TableLaws size.toNat t ∧ total+t.targets.length ≤ 2048 := by
  have hnonempty : t.targets ≠ [] ↔ 0 < t.targets.length := by
    rw [List.length_pos_iff]
  have htarget (x : BitVec 32) : (!(x ≠ 0 && (x < 4096 || x ≥ size))) = true ↔
      x = 0 ∨ 4096 ≤ x.toNat ∧ x.toNat < size.toNat := by
    simp only [Bool.not_eq_true', Bool.and_eq_false_iff, decide_eq_false_iff_not, not_not,
      Bool.or_eq_false_iff]
    bv_omega
  have hroom : ¬t.rva > size → ((size-t.rva)/4).toNat = (size.toNat-t.rva.toNat)/4 := by
    intro hle
    have hsub : (size-t.rva).toNat = size.toNat-t.rva.toNat := by bv_omega
    rw [BitVec.toNat_udiv, hsub]
    rfl
  simp only [Bool.and_eq_true, Bool.not_eq_true', Bool.or_eq_false_iff, decide_eq_false_iff_not,
    not_not, List.isEmpty_eq_false_iff, List.all_eq_true, htarget]
  constructor
  · intro ⟨⟨⟨⟨⟨⟨hne,hbudget⟩,hleast⟩,haligned⟩,hmost⟩,hfit⟩,htargets⟩
    rw [hroom hmost] at hfit
    have hpos := hnonempty.mp hne
    refine ⟨⟨hne,Nat.dvd_of_mod_eq_zero haligned,⟨?_,?_⟩,htargets⟩,by omega⟩
    · bv_omega
    · bv_omega
  · intro ⟨⟨hne,haligned,⟨hleast,hinside⟩,htargets⟩,hbudget⟩
    have hmost : ¬t.rva > size := by bv_omega
    refine ⟨⟨⟨⟨⟨⟨hne,by omega⟩,by bv_omega⟩,Nat.mod_eq_zero_of_dvd haligned⟩,hmost⟩,?_⟩,htargets⟩
    rw [hroom hmost]
    omega

/-- The tests of one table against the spans before it. -/
theorem table_apart_iff {starts : List (BitVec 32 × BitVec 32)} {done : List CrtInitializerTable}
    {t : CrtInitializerTable} (hsize : size.toNat ≤ 2^28)
    (hstarts : ∀ x ∈ starts, x.1.toNat+x.2.toNat < 2^32)
    (hdone : ∀ o ∈ done, TableLaws size.toNat o) (ht : TableLaws size.toNat t) :
    ((starts.all (!spansOverlap t.span ·) && done.all (!spansOverlap t.span ·.span)) = true) ↔
      ∀ x ∈ starts.map wideSpan++done.map (·.slots), SpansApart x t.slots := by
  have hwithin {o : CrtInitializerTable} (ho : TableLaws size.toNat o) :
      o.span.1.toNat+o.span.2.toNat < 2^32 := by
    have hwide := congrArg Prod.snd (wideSpan_span hsize ho)
    have hinside := ho.inside.2
    change o.rva.toNat+o.span.2.toNat < 2^32
    rw [show o.span.2.toNat = 4*o.targets.length from hwide]
    omega
  have hstart : ∀ x ∈ starts, (!spansOverlap t.span x) = true ↔ SpansApart (wideSpan x) t.slots := by
    intro x hx
    rw [not_spansOverlap_iff (hwithin ht) (hstarts x hx), wideSpan_span hsize ht]
    exact Or.comm
  have htable : ∀ o ∈ done, (!spansOverlap t.span o.span) = true ↔ SpansApart o.slots t.slots := by
    intro o ho
    rw [not_spansOverlap_iff (hwithin ht) (hwithin (hdone o ho)), wideSpan_span hsize ht,
      wideSpan_span hsize (hdone o ho)]
    exact Or.comm
  simp only [Bool.and_eq_true, List.all_eq_true, List.forall_mem_append, List.forall_mem_map]
  exact and_congr (forall₂_congr hstart) (forall₂_congr htable)

/-- The loop over the tables: each is as it should be, the slots are within the budget, and
no two spans overlap. -/
theorem validCrtTables_iff {starts : List (BitVec 32 × BitVec 32)}
    {done rest : List CrtInitializerTable} {total : ℕ} (hsize : size.toNat ≤ 2^28)
    (hstarts : ∀ x ∈ starts, x.1.toNat+x.2.toNat < 2^32)
    (hdone : ∀ t ∈ done, TableLaws size.toNat t) (htotal : total ≤ 2048) :
    validCrtTables size starts total done rest = true ↔
      (∀ t ∈ rest, TableLaws size.toNat t) ∧
      total+(rest.map (·.targets.length)).sum ≤ 2048 ∧
      (∀ t ∈ rest, ∀ x ∈ starts.map wideSpan++done.map (·.slots), SpansApart x t.slots) ∧
      rest.Pairwise fun o t => SpansApart o.slots t.slots := by
  induction rest generalizing done total with
  | nil => simpa [validCrtTables] using htotal
  | cons t rest ih =>
    have hstep : validCrtTables size starts total done (t :: rest) = true ↔
        (TableLaws size.toNat t ∧ total+t.targets.length ≤ 2048) ∧
        (starts.all (!spansOverlap t.span ·) && done.all (!spansOverlap t.span ·.span)) = true ∧
        validCrtTables size starts (total+t.targets.length) (done++[t]) rest = true := by
      rw [← tableLaws_iff]
      simp only [validCrtTables, Bool.and_eq_true, and_assoc]
    have hmore (ht : TableLaws size.toNat t) : ∀ o ∈ done++[t], TableLaws size.toNat o :=
      List.forall_mem_append.mpr ⟨hdone,List.forall_mem_singleton.mpr ht⟩
    rw [hstep]
    simp only [List.forall_mem_cons, List.map_cons, List.sum_cons, List.pairwise_cons]
    constructor
    · intro ⟨⟨ht,hbudget⟩,hapart,hrest⟩
      obtain ⟨hlaws,hslots,hearlier,hpairwise⟩ := (ih (hmore ht) hbudget).mp hrest
      simp only [List.map_append, ← List.append_assoc, List.forall_mem_append, List.map_cons,
        List.map_nil, List.forall_mem_singleton] at hearlier
      refine ⟨⟨ht,hlaws⟩,by omega,⟨(table_apart_iff hsize hstarts hdone ht).mp hapart,?_⟩,?_,
        hpairwise⟩
      · exact fun o ho => List.forall_mem_append.mpr (hearlier o ho).1
      · exact fun o ho => (hearlier o ho).2
    · intro ⟨⟨ht,hlaws⟩,hslots,⟨hapart,hearlier⟩,hlater,hpairwise⟩
      refine ⟨⟨ht,by omega⟩,(table_apart_iff hsize hstarts hdone ht).mpr hapart,?_⟩
      refine (ih (hmore ht) (by omega)).mpr ⟨hlaws,by omega,fun o ho => ?_,hpairwise⟩
      simp only [List.map_append, ← List.append_assoc, List.map_cons, List.map_nil]
      exact List.forall_mem_append.mpr ⟨hearlier o ho,List.forall_mem_singleton.mpr (hlater o ho)⟩

end Tables

/-! The whole review. -/

def CrtStartupSpec.frames (s : CrtStartupSpec) : List FrameTargetSpec :=
  [s.io,s.initializeFrame,s.application]

/-- The six spans of the calls and their targets, and the slots of the tables. -/
def CrtStartupSpec.spans (s : CrtStartupSpec) : List (ℕ × ℕ) :=
  [(s.io.callRva.toNat,21),(s.io.targetRva.toNat,16),
    (s.initializeFrame.callRva.toNat,5),(s.initializeFrame.targetRva.toNat,16),
    (s.application.callRva.toNat,5),(s.application.targetRva.toNat,16)]++s.tables.map (·.slots)

structure CrtStartupLaws (s : CrtStartupSpec) : Prop where
  frame : ∀ f ∈ s.frames, FrameLaws f
  image : ∀ f ∈ s.frames, f.imageBase = s.io.imageBase ∧ f.imageSize = s.io.imageSize
  stack : 16 ≤ s.ioReturnStackOffset.toNat ∧ s.ioReturnStackOffset.toNat ≤ 4096 ∧
    4 ∣ s.ioReturnStackOffset.toNat
  some_table : s.tables ≠ [] ∧ s.tables.length ≤ 3
  table : ∀ t ∈ s.tables, TableLaws s.io.imageSize.toNat t
  budget : (s.tables.map (·.targets.length)).sum ≤ 2048
  inside : ∀ x ∈ s.spans, 4096 ≤ x.1 ∧ x.1+x.2 ≤ s.io.imageSize.toNat
  apart : s.spans.Pairwise SpansApart

theorem disjointSpans_iff {spans : List (BitVec 32 × BitVec 32)}
    (h : ∀ x ∈ spans, x.1.toNat+x.2.toNat < 2^32) :
    disjointSpans spans = true ↔ (spans.map wideSpan).Pairwise SpansApart := by
  rw [disjointSpans, decide_eq_true_iff, List.pairwise_map]
  refine List.Pairwise.iff_of_mem fun {y x} hy hx => ?_
  rw [← spansOverlap, not_spansOverlap_iff (h x hx) (h y hy)]
  exact Or.comm

section Review
variable {s : CrtStartupSpec}

theorem starts_within (hframe : ∀ f ∈ s.frames, FrameLaws f)
    (himage : ∀ f ∈ s.frames, f.imageBase = s.io.imageBase ∧ f.imageSize = s.io.imageSize)
    (hreturn : s.io.callRva.toNat+21 ≤ s.io.imageSize.toNat) :
    ∀ x ∈ s.starts, 4096 ≤ x.1.toNat ∧ x.1.toNat+x.2.toNat ≤ s.io.imageSize.toNat := by
  simp only [CrtStartupSpec.frames, List.forall_mem_cons] at hframe himage
  obtain ⟨hio,hinit,happlication,-⟩ := hframe
  obtain ⟨-,⟨-,hsize⟩,⟨-,hsize'⟩,-⟩ := himage
  have hstarted' := hsize ▸ hinit.call_inside
  have hreached := hsize ▸ hinit.target_inside
  have happlication' := hsize' ▸ happlication.call_inside
  have happlied := hsize' ▸ happlication.target_inside
  simp only [CrtStartupSpec.starts, List.forall_mem_cons, List.not_mem_nil, false_imp_iff,
    implies_true, and_true]
  exact ⟨⟨hio.call_inside.1,hreturn⟩,hio.target_inside,hstarted',hreached,happlication',
    happlied⟩

/-- The validator accepts just what is so in exact arithmetic. -/
theorem validCrtStartupSpec_iff : validCrtStartupSpec s = true ↔ CrtStartupLaws s := by
  have hspans : s.spans = s.starts.map wideSpan++s.tables.map (·.slots) := rfl
  simp only [validCrtStartupSpec, Bool.and_eq_true, Bool.not_eq_true', Bool.or_eq_false_iff,
    decide_eq_false_iff_not, Bool.not_eq_false', validFrameTargetSpec_iff, not_not,
    List.isEmpty_eq_false_iff]
  constructor
  · intro ⟨⟨⟨⟨⟨⟨⟨⟨⟨⟨⟨⟨⟨⟨hio,hinit⟩,happlication⟩,hbase⟩,hbase'⟩,hsize⟩,hsize'⟩,hreturn⟩,
      hleast⟩,hmost⟩,haligned⟩,hsome⟩,hcount⟩,hdisjoint⟩,htables⟩
    have hframe : ∀ f ∈ s.frames, FrameLaws f := by
      simp only [CrtStartupSpec.frames, List.forall_mem_cons]
      exact ⟨hio,hinit,happlication,fun _ h => nomatch h⟩
    have himage : ∀ f ∈ s.frames, f.imageBase = s.io.imageBase ∧ f.imageSize = s.io.imageSize := by
      simp only [CrtStartupSpec.frames, List.forall_mem_cons, and_self, true_and]
      exact ⟨⟨hbase.symm,hsize.symm⟩,⟨hbase'.symm,hsize'.symm⟩,fun _ h => nomatch h⟩
    have hlow := hio.least
    have hhigh := hio.most
    have hstarts := starts_within hframe himage (by bv_omega)
    have hwithin : ∀ x ∈ s.starts, x.1.toNat+x.2.toNat < 2^32 := by
      intro x hx
      have := (hstarts x hx).2
      omega
    rw [disjointSpans_iff hwithin] at hdisjoint
    rw [validCrtTables_iff hhigh hwithin (fun _ h => absurd h List.not_mem_nil) (Nat.zero_le _)] at htables
    obtain ⟨hlaws,hbudget,hearlier,hpairwise⟩ := htables
    refine ⟨hframe,himage,⟨by bv_omega,by bv_omega,Nat.dvd_of_mod_eq_zero haligned⟩,
      ⟨hsome,not_lt.mp hcount⟩,hlaws,by omega,?_,?_⟩
    · rw [hspans]
      refine List.forall_mem_append.mpr ⟨List.forall_mem_map.mpr hstarts,?_⟩
      exact List.forall_mem_map.mpr fun t ht => (hlaws t ht).inside
    · rw [hspans, List.pairwise_append]
      refine ⟨hdisjoint,List.pairwise_map.mpr hpairwise,fun x hx => ?_⟩
      refine List.forall_mem_map.mpr fun t ht => hearlier t ht x ?_
      exact List.mem_append_left _ hx
  · intro ⟨hframe,himage,⟨hleast,hmost,haligned⟩,⟨hsome,hcount⟩,hlaws,hbudget,hinside,hapart⟩
    have hreturn := (hinside (s.io.callRva.toNat,21) List.mem_cons_self).2
    have hstarts := starts_within hframe himage hreturn
    simp only [CrtStartupSpec.frames, List.forall_mem_cons] at hframe himage
    obtain ⟨hio,hinit,happlication,-⟩ := hframe
    obtain ⟨-,⟨hbase,hsize⟩,⟨hbase',hsize'⟩,-⟩ := himage
    have hlow := hio.least
    have hhigh := hio.most
    have hwithin : ∀ x ∈ s.starts, x.1.toNat+x.2.toNat < 2^32 := by
      intro x hx
      have := (hstarts x hx).2
      omega
    rw [hspans, List.pairwise_append, List.pairwise_map (l := s.tables)] at hapart
    obtain ⟨hdisjoint,hpairwise,hearlier⟩ := hapart
    refine ⟨⟨⟨⟨⟨⟨⟨⟨⟨⟨⟨⟨⟨⟨hio,hinit⟩,happlication⟩,hbase.symm⟩,hbase'.symm⟩,hsize.symm⟩,
      hsize'.symm⟩,by bv_omega⟩,by bv_omega⟩,by bv_omega⟩,Nat.mod_eq_zero_of_dvd haligned⟩,hsome⟩,
      not_lt.mpr hcount⟩,(disjointSpans_iff hwithin).mpr hdisjoint⟩,?_⟩
    rw [validCrtTables_iff hhigh hwithin (fun _ h => absurd h List.not_mem_nil) (Nat.zero_le _)]
    refine ⟨hlaws,by omega,fun t ht x hx => ?_,hpairwise⟩
    rw [List.map_nil, List.append_nil] at hx
    exact hearlier x hx t.slots (List.mem_map_of_mem ht)

end Review

end Saex
