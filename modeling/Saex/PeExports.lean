import Saex.PeImports
import Saex.Reorderings

/-! The exports of a module: the tables that its directory has, the entries made of them, and
the dictionaries in which the imports of another module are looked up. -/
namespace Saex
open LoggedRuns PeStartupInspector PeLinkageInspector Reorderings

/-- The address table and, for each name, the index of its slot. -/
structure ExportTables where
  ordinalBase : BitVec 32
  slots : List (BitVec 32)
  names : List (Ascii × BitVec 32)

namespace ExportTables

/-- The names of a slot. -/
def aliases (t : ExportTables) (index : BitVec 32) : List Ascii :=
  (t.names.filter (·.2 = index)).map Prod.fst

/-- Strictly ordered names of slots that are there, and ordinals that do not wrap. -/
structure Ordered (t : ExportTables) : Prop where
  names : (t.names.map Prod.fst).Pairwise (· < ·)
  indices : ∀ x ∈ t.names, x.2.toNat < t.slots.length
  bound : t.slots.length ≤ maxSymbols
  ordinals : t.ordinalBase.toNat+t.slots.length ≤ 2^32

end ExportTables

section Directory
variable (pe : PeStream)

/-- The tables of the directory at an RVA; where there are no slots, nothing else is read. -/
structure ExportTables.At (at' : BitVec 32) (t : ExportTables) : Prop where
  ordinalBase : pe.dwordAt (at'+16) = some t.ordinalBase
  count : (pe.dwordAt (at'+20)).map BitVec.toNat = some t.slots.length
  nameCount : (pe.dwordAt (at'+24)).map BitVec.toNat = some t.names.length
  slots : t.slots ≠ [] → ∃ eat, pe.dwordAt (at'+28) = some eat ∧
    ∀ i (hi : i < t.slots.length), pe.dwordAt (eat+.ofNat 32 (4*i)) = some t.slots[i]
  names : t.slots ≠ [] → ∃ names ordinals, pe.dwordAt (at'+32) = some names ∧
    pe.dwordAt (at'+36) = some ordinals ∧ ∀ i (hi : i < t.names.length), ∃ rva index,
      pe.dwordAt (names+.ofNat 32 (4*i)) = some rva ∧
      pe.TextAt rva (fun b => 32 ≤ b && b < 127) t.names[i].1 ∧
      pe.wordAt (ordinals+.ofNat 32 (2*i)) = some index ∧ t.names[i].2 = index.setWidth 32

/-- The entry of a slot. -/
structure ExportEntry (start : BitVec 32) (size : ℤ) (ordinalBase : BitVec 32)
    (aliases : BitVec 32 → List Ascii) (i : ℕ) (slot : BitVec 32) (e : NativeExportSymbol) :
    Prop where
  ordinal : e.ordinal = ordinalBase+.ofNat 32 i
  targetRva : e.targetRva = slot
  names : e.names = aliases (.ofNat 32 i)
  forwarder : e.kind = .forwarder ↔ inDirectory start size slot

/-- The entries from the `i`th slot on, the holes left out. -/
def EntriesOf (start : BitVec 32) (size : ℤ) (ordinalBase : BitVec 32)
    (aliases : BitVec 32 → List Ascii) (i : ℕ) (slots : List (BitVec 32))
    (es : List NativeExportSymbol) : Prop :=
  ((slots.zipIdx i).filter (·.1 ≠ 0)).Forall₂
    (fun x e => ExportEntry start size ordinalBase aliases x.2 x.1 e) es

end Directory

variable {pe : PeStream} {s s' : List StreamRead}

/-! The loops. -/

theorem exportNames_ok {names ordinals count : BitVec 32} {left i : ℕ} {previous : Option Ascii}
    {aliases aliases' : Dictionary (BitVec 32) (List Ascii)}
    (h : exportNames pe names ordinals count left i previous aliases s = .ok (aliases',s')) :
    ∃ table : List (Ascii × BitVec 32), table.length = left ∧
      (previous.toList++table.map Prod.fst).Pairwise (· < ·) ∧
      (∀ x ∈ table, x.2 < count) ∧
      (∀ k (hk : k < table.length), ∃ rva index,
        pe.dwordAt (names+.ofNat 32 (4*(i+k))) = some rva ∧
        pe.TextAt rva (fun b => 32 ≤ b && b < 127) table[k].1 ∧
        pe.wordAt (ordinals+.ofNat 32 (2*(i+k))) = some index ∧
        table[k].2 = index.setWidth 32) ∧
      ∀ index, (aliases'.get? index).getD [] =
        (aliases.get? index).getD []++(table.filter (·.2 = index)).map Prod.fst := by
  induction left generalizing i previous aliases s with
  | zero =>
    cases pure_ok_iff.mp h
    refine ⟨[],rfl,?_,fun x hx => absurd hx List.not_mem_nil,
      fun k hk => absurd hk (Nat.not_lt_zero k),fun index => (List.append_nil _).symm⟩
    cases previous <;> simp
  | succ left ih =>
    obtain ⟨nameAt,hnameAt,h⟩ := bind_liftM_ok_iff.mp h
    obtain ⟨rva,_,hrva,h⟩ := bind_ok_iff.mp h
    obtain ⟨name,_,hname,h⟩ := bind_ok_iff.mp h
    obtain ⟨horder,h⟩ := bind_require_ok_iff.mp h
    obtain ⟨ordinalAt,hordinalAt,h⟩ := bind_liftM_ok_iff.mp h
    obtain ⟨index,_,hindex,h⟩ := bind_ok_iff.mp h
    obtain ⟨hcount,h⟩ := bind_require_ok_iff.mp h
    obtain ⟨table,rfl,hsorted,hindices,htable,haliases⟩ := ih h
    rw [(checkedAdd_ok hnameAt).2] at hrva
    rw [(checkedAdd_ok hordinalAt).2] at hindex
    refine ⟨(name,index.setWidth 32) :: table,rfl,?_,?_,fun k hk => ?_,fun k => ?_⟩
    · cases previous with
      | none => exact hsorted
      | some p =>
        have hp : p < name := of_decide_eq_true horder
        refine List.pairwise_cons.mpr ⟨?_,hsorted⟩
        refine List.forall_mem_cons.mpr ⟨hp,fun q hq => ?_⟩
        exact List.lt_trans hp (List.rel_of_pairwise_cons hsorted hq)
    · exact List.forall_mem_cons.mpr ⟨of_decide_eq_true hcount,hindices⟩
    · cases k with
      | zero => exact ⟨rva,index,number_ok hrva,(symbol_ok hname).1,word_ok hindex,rfl⟩
      | succ k =>
        have hnext : i+1+k = i+(k+1) := by omega
        have hk : k < table.length := Nat.lt_of_succ_lt_succ hk
        have htail := htable k hk
        rw [hnext] at htail
        exact htail
    · rw [haliases, Dictionary.get?_put]
      by_cases heq : k = index.setWidth 32
      · simp [heq]
      · simp [heq, Ne.symm heq]

theorem exportTarget_ok {start : BitVec 32} {size : ℤ} {rva : BitVec 32} {kind : ExportKind}
    {forwarder : Option Ascii}
    (h : exportTarget pe start size rva s = .ok ((kind,forwarder),s')) :
    kind = .forwarder ↔ inDirectory start size rva := by
  unfold exportTarget at h
  split at h
  · rename_i hin
    obtain ⟨_,_,_,h⟩ := bind_ok_iff.mp h
    cases pure_ok_iff.mp h
    exact iff_of_true rfl hin
  · rename_i hout
    refine iff_of_false (fun hkind => ?_) hout
    subst hkind
    obtain ⟨found,_,h⟩ := bind_liftM_ok_iff.mp h
    cases found with
    | none => exact throw_ne_ok h
    | some x =>
      dsimp only at h
      split at h
      · obtain ⟨_,_,h⟩ := bind_liftM_ok_iff.mp h
        cases pure_ok_iff.mp h
      · cases pure_ok_iff.mp h

theorem exportEntries_ok {start : BitVec 32} {size : ℤ} {ordinalBase eat : BitVec 32}
    {aliases : Dictionary (BitVec 32) (List Ascii)} {left i : ℕ}
    {result result' : List NativeExportSymbol}
    (h : exportEntries pe start size ordinalBase eat aliases left i result s = .ok (result',s')) :
    ∃ slots : List (BitVec 32), slots.length = left ∧
      (∀ k (hk : k < slots.length), pe.dwordAt (eat+.ofNat 32 (4*(i+k))) = some slots[k]) ∧
      ∃ es, result' = result++es ∧ EntriesOf start size ordinalBase
        (fun index => (aliases.get? index).getD []) i slots es := by
  induction left generalizing i result s with
  | zero =>
    cases pure_ok_iff.mp h
    exact ⟨[],rfl,fun k hk => absurd hk (Nat.not_lt_zero k),[],(List.append_nil _).symm,.nil⟩
  | succ left ih =>
    obtain ⟨slotAt,hslotAt,h⟩ := bind_liftM_ok_iff.mp h
    obtain ⟨rva,_,hrva,h⟩ := bind_ok_iff.mp h
    rw [(checkedAdd_ok hslotAt).2] at hrva
    have hslots {slots : List (BitVec 32)}
        (hrest : ∀ k (hk : k < slots.length),
          pe.dwordAt (eat+.ofNat 32 (4*(i+1+k))) = some slots[k]) :
        ∀ k (hk : k < (rva :: slots).length),
          pe.dwordAt (eat+.ofNat 32 (4*(i+k))) = some (rva :: slots)[k] := by
      intro k hk
      cases k with
      | zero => exact number_ok hrva
      | succ k =>
        have hnext : i+1+k = i+(k+1) := by omega
        exact hnext ▸ hrest k (Nat.lt_of_succ_lt_succ hk)
    split at h
    · rename_i hzero
      obtain ⟨slots,rfl,hrest,es,rfl,hes⟩ := ih h
      refine ⟨rva :: slots,rfl,hslots hrest,es,rfl,?_⟩
      rw [EntriesOf, List.zipIdx_cons, List.filter_cons_of_neg (by simpa using hzero)]
      exact hes
    · rename_i hnonzero
      obtain ⟨⟨kind,forwarder⟩,_,htarget,h⟩ := bind_ok_iff.mp h
      obtain ⟨ordinal,hordinal,h⟩ := bind_liftM_ok_iff.mp h
      obtain ⟨slots,rfl,hrest,es,rfl,hes⟩ := ih h
      refine ⟨rva :: slots,rfl,hslots hrest,_ :: es,by rw [List.append_assoc, List.singleton_append],
        ?_⟩
      rw [EntriesOf, List.zipIdx_cons, List.filter_cons_of_pos (by simpa using hnonzero)]
      exact .cons ⟨(checkedAdd_ok hordinal).2,rfl,rfl,exportTarget_ok htarget⟩ hes

/-! The directory. -/

/-- What an accepted directory has. -/
theorem exports_ok {d : DirectoryEntry} {es : List NativeExportSymbol}
    (h : exports pe d s = .ok (es,s')) : d = ⟨0,0⟩ ∧ es = [] ∨ ∃ t : ExportTables, t.Ordered ∧
      t.At pe (.ofInt 32 d.relativeVirtualAddress) ∧
      EntriesOf (.ofInt 32 d.relativeVirtualAddress) d.size t.ordinalBase t.aliases 0 t.slots es := by
  obtain ⟨found,hfound,h⟩ := bind_liftM_ok_iff.mp h
  have hfound := directory_ok hfound
  cases found with
  | false =>
    cases pure_ok_iff.mp h
    exact .inl ⟨hfound,rfl⟩
  | true =>
    right
    obtain ⟨start,hstart,h⟩ := bind_liftM_ok_iff.mp h
    obtain rfl := checkedUInt_ok hstart
    obtain ⟨ordinalBase,_,hbase,h⟩ := bind_ok_iff.mp h
    obtain ⟨count,_,hcount,h⟩ := bind_ok_iff.mp h
    obtain ⟨nameCount,_,hnameCount,h⟩ := bind_ok_iff.mp h
    obtain ⟨hlimits,h⟩ := bind_require_ok_iff.mp h
    obtain ⟨htable,h⟩ := bind_require_ok_iff.mp h
    rw [Bool.and_eq_true, decide_eq_true_eq, decide_eq_true_eq] at hlimits
    split at h
    · rename_i hzero
      cases pure_ok_iff.mp h
      have hnone : nameCount = 0 := by simpa [hzero] using htable
      refine ⟨⟨ordinalBase,[],[]⟩,⟨.nil,fun x hx => absurd hx List.not_mem_nil,Nat.zero_le _,
        ordinalBase.isLt.le⟩,⟨number_ok hbase,?_,?_,fun h => absurd rfl h,fun h => absurd rfl h⟩,.nil⟩
      · rw [number_ok hcount, hzero]
        rfl
      · rw [number_ok hnameCount, hnone]
        rfl
    · rename_i hsome
      obtain ⟨hordinals,h⟩ := bind_require_ok_iff.mp h
      obtain ⟨eat,_,heat,h⟩ := bind_ok_iff.mp h
      obtain ⟨names,_,hnames,h⟩ := bind_ok_iff.mp h
      obtain ⟨ordinals,_,hordinalTable,h⟩ := bind_ok_iff.mp h
      obtain ⟨_,_,h⟩ := bind_liftM_ok_iff.mp h
      have hrest : ∃ s, (do
          let aliases ← exportNames pe names ordinals count nameCount.toNat 0 none .empty
          exportEntries pe (.ofInt 32 d.relativeVirtualAddress) d.size ordinalBase eat aliases
            count.toNat 0 []) s = .ok (es,s') := by
        split at h
        · obtain ⟨_,_,h⟩ := bind_liftM_ok_iff.mp h
          obtain ⟨_,_,h⟩ := bind_liftM_ok_iff.mp h
          exact ⟨_,h⟩
        · exact ⟨_,h⟩
      obtain ⟨_,h⟩ := hrest
      obtain ⟨aliases,_,haliases,h⟩ := bind_ok_iff.mp h
      obtain ⟨table,hlength,hsorted,hindices,htable,haliases⟩ := exportNames_ok haliases
      obtain ⟨slots,hslots,hvalues,_,rfl,hes⟩ := exportEntries_ok h
      have hpositive : 0 < count.toNat := by
        have hne : count.toNat ≠ 0 := fun h => hsome (BitVec.eq_of_toNat_eq h)
        omega
      have hordinals := of_decide_eq_true hordinals
      have hempty (index : BitVec 32) :
          ((Dictionary.empty : Dictionary (BitVec 32) (List Ascii)).get? index).getD [] = [] := rfl
      simp only [hempty, List.nil_append] at haliases
      simp only [Nat.zero_add] at htable hvalues
      refine ⟨⟨ordinalBase,slots,table⟩,⟨hsorted,fun x hx => ?_,?_,?_⟩,⟨number_ok hbase,?_,?_,
        fun _ => ⟨eat,number_ok heat,hvalues⟩,
        fun _ => ⟨names,ordinals,number_ok hnames,number_ok hordinalTable,htable⟩⟩,?_⟩
      · rw [hslots]
        exact hindices x hx
      · rw [hslots]
        exact hlimits.1
      · change ordinalBase.toNat+slots.length ≤ 2^32
        omega
      · rw [number_ok hcount, hslots, Option.map_some]
      · rw [number_ok hnameCount, hlength, Option.map_some]
      · have hsame : (fun index => (aliases.get? index).getD []) =
            ExportTables.aliases ⟨ordinalBase,slots,table⟩ := by
          ext1 index
          exact haliases index
        exact hsame ▸ hes

/-! The dictionaries. -/

theorem toDictionary_ok {K V : Type} [DecidableEq K] {xs : List (K × V)}
    (h : (xs.map Prod.fst).Nodup) :
    ∃ d, toDictionary xs = .ok d ∧ ∀ k v, d.get? k = some v ↔ (k,v) ∈ xs := by
  have hrefused : ((Dictionary.empty : Dictionary K V).addAll xs).2 = [] := by
    rw [Dictionary.addAll_refused_iff, Dictionary.keys_empty, List.nil_append]
    exact h
  refine ⟨(Dictionary.empty.addAll xs).1,?_,fun k v => ?_⟩
  · simp [toDictionary, hrefused]
  · rw [Dictionary.get?_eq_some_iff, Dictionary.addAll_entries hrefused]
    simp [Dictionary.empty]

section Entries
variable {start : BitVec 32} {size : ℤ} {t : ExportTables} {es : List NativeExportSymbol}
  (hordered : t.Ordered)
  (hes : EntriesOf start size t.ordinalBase t.aliases 0 t.slots es)

/-- The indices of the slots that are no holes. -/
def ExportTables.used (t : ExportTables) : List ℕ :=
  ((t.slots.zipIdx 0).filter (·.1 ≠ 0)).map Prod.snd

theorem ExportTables.used_nodup (t : ExportTables) : t.used.Nodup := by
  have hsub : t.used.Sublist ((t.slots.zipIdx 0).map Prod.snd) := List.filter_sublist.map Prod.snd
  rw [List.zipIdx_map_snd] at hsub
  exact hsub.nodup List.nodup_range'

theorem ExportTables.mem_used {i : ℕ} : i ∈ t.used ↔ ∃ slot ≠ 0, t.slots[i]? = some slot := by
  simp only [used, List.mem_map, List.mem_filter, decide_eq_true_eq, Prod.exists,
    List.mem_zipIdx_iff_getElem?]
  constructor
  · rintro ⟨slot,_,⟨hslot,hne⟩,rfl⟩
    exact ⟨slot,hne,hslot⟩
  · rintro ⟨slot,hne,hslot⟩
    exact ⟨slot,i,⟨hslot,hne⟩,rfl⟩

include hordered in
theorem ExportTables.used_lt {i : ℕ} (hi : i ∈ t.used) : i < t.slots.length ∧ i < 4096 := by
  obtain ⟨_,_,hslot⟩ := mem_used.mp hi
  obtain ⟨hlt,_⟩ := List.getElem?_eq_some_iff.mp hslot
  exact ⟨hlt,hlt.trans_le hordered.bound⟩

include hes in
theorem entry_of_used {i : ℕ} {slot : BitVec 32} (hne : slot ≠ 0) (hslot : t.slots[i]? = some slot) :
    ∃ e ∈ es, ExportEntry start size t.ordinalBase t.aliases i slot e := by
  have hmem : (slot,i) ∈ (t.slots.zipIdx 0).filter (·.1 ≠ 0) :=
    List.mem_filter.mpr ⟨List.mem_zipIdx_iff_getElem?.mpr hslot,decide_eq_true hne⟩
  exact exists_of_forall₂ hes hmem

include hes in
theorem used_of_entry {e : NativeExportSymbol} (he : e ∈ es) : ∃ i slot, slot ≠ 0 ∧
    t.slots[i]? = some slot ∧ ExportEntry start size t.ordinalBase t.aliases i slot e := by
  obtain ⟨⟨slot,i⟩,hmem,hentry⟩ := exists_of_forall₂ hes.flip he
  obtain ⟨hmem,hne⟩ := List.mem_filter.mp hmem
  exact ⟨i,slot,of_decide_eq_true hne,List.mem_zipIdx_iff_getElem?.mp hmem,hentry⟩

include hordered in
theorem ExportTables.names_nodup : (t.names.map Prod.fst).Nodup := by
  refine hordered.names.imp fun {a b} h => ?_
  rintro rfl
  exact List.lt_irrefl a h

include hordered in
/-- The names of different slots are different. -/
theorem ExportTables.aliases_nodup : (t.used.flatMap fun i => t.aliases (.ofNat 32 i)).Nodup := by
  have hnames := ExportTables.names_nodup hordered
  rw [List.nodup_flatMap]
  constructor
  · intro i hi
    exact (List.filter_sublist.map Prod.fst).nodup hnames
  · refine t.used_nodup.pairwise_of_forall_ne fun i hi j hj hne name hin hjn => ?_
    obtain ⟨x,hx,rfl⟩ := List.mem_map.mp hin
    obtain ⟨y,hy,hxy⟩ := List.mem_map.mp hjn
    obtain ⟨hx,hxi⟩ := List.mem_filter.mp hx
    obtain ⟨hy,hyj⟩ := List.mem_filter.mp hy
    have heq : y = x := List.inj_on_of_nodup_map hnames hy hx hxy
    have hsame : (BitVec.ofNat 32 i) = .ofNat 32 j := by
      rw [← of_decide_eq_true hxi, ← of_decide_eq_true hyj, heq]
    have hi := (used_lt hordered hi).2
    have hj := (used_lt hordered hj).2
    exact hne (by bv_omega)

include hordered hes in
theorem byOrdinal_ok : ∃ d, byOrdinal es = .ok d ∧
    ∀ o e, d.get? o = some e ↔ e ∈ es ∧ e.ordinal = o := by
  have hkeys : (es.map fun e => (e.ordinal,e)).map Prod.fst =
      t.used.map fun i => t.ordinalBase+.ofNat 32 i := by
    rw [List.map_map, ExportTables.used, List.map_map]
    exact (map_eq_of_forall₂ hes fun x e h => h.ordinal.symm).symm
  have hnodup : ((es.map fun e => (e.ordinal,e)).map Prod.fst).Nodup := by
    rw [hkeys]
    refine List.Nodup.map_on (fun i hi j hj h => ?_) t.used_nodup
    have hi := (ExportTables.used_lt hordered hi).2
    have hj := (ExportTables.used_lt hordered hj).2
    bv_omega
  obtain ⟨d,hd,hget⟩ := toDictionary_ok hnodup
  refine ⟨d,hd,fun o e => (hget o e).trans ?_⟩
  simp only [List.mem_map, Prod.mk.injEq]
  constructor
  · rintro ⟨e,he,rfl,rfl⟩
    exact ⟨he,rfl⟩
  · rintro ⟨he,rfl⟩
    exact ⟨e,he,rfl,rfl⟩

include hordered hes in
theorem byName_ok : ∃ d, byName es = .ok d ∧
    ∀ name e, d.get? name = some e ↔ e ∈ es ∧ name ∈ e.names := by
  have hkeys : (es.flatMap fun e => e.names.map (·,e)).map Prod.fst =
      t.used.flatMap fun i => t.aliases (.ofNat 32 i) := by
    have hnames : es.map (·.names) = t.used.map fun i => t.aliases (.ofNat 32 i) := by
      rw [ExportTables.used, List.map_map]
      exact (map_eq_of_forall₂ hes fun x e h => h.names.symm).symm
    rw [List.map_flatMap, List.flatMap_def, List.flatMap_def, ← hnames]
    simp [Function.comp_def]
  obtain ⟨d,hd,hget⟩ := toDictionary_ok (hkeys ▸ ExportTables.aliases_nodup hordered)
  refine ⟨d,hd,fun name e => (hget name e).trans ?_⟩
  simp only [List.mem_flatMap, List.mem_map, Prod.mk.injEq]
  constructor
  · rintro ⟨e,he,_,hname,rfl,rfl⟩
    exact ⟨he,hname⟩
  · rintro ⟨he,hname⟩
    exact ⟨e,he,name,hname,rfl,rfl⟩

end Entries

/-- Each name and each ordinal finds the entry of its slot, where that is no hole. -/
structure Resolves (start : BitVec 32) (size : ℤ) (t : ExportTables)
    (es : List NativeExportSymbol) (names : Dictionary Ascii NativeExportSymbol)
    (ordinals : Dictionary (BitVec 32) NativeExportSymbol) : Prop where
  byName : ∀ name, (names.get? name).isSome ↔ ∃ (i : ℕ) (index : BitVec 32),
    (∀ j : ℕ, (t.names[j]?).map Prod.fst = some name ↔ j = i) ∧
    (t.names[i]?).map Prod.snd = some index ∧ ∃ slot ≠ 0, t.slots[index.toNat]? = some slot
  ofName : ∀ name e, names.get? name = some e → ∀ index, (name,index) ∈ t.names →
    e.ordinal.toNat = t.ordinalBase.toNat+index.toNat ∧ t.slots[index.toNat]? = some e.targetRva
  byOrdinal : ∀ o, (ordinals.get? o).isSome ↔ t.ordinalBase.toNat ≤ o.toNat ∧
    o.toNat < t.ordinalBase.toNat+t.slots.length ∧
    ∃ slot ≠ 0, t.slots[o.toNat-t.ordinalBase.toNat]? = some slot
  ofOrdinal : ∀ o e, ordinals.get? o = some e →
    e.ordinal = o ∧ t.slots[o.toNat-t.ordinalBase.toNat]? = some e.targetRva
  forwarder : ∀ e ∈ es, e.kind = .forwarder ↔
    start.toNat ≤ e.targetRva.toNat ∧ e.targetRva.toNat < start.toNat+size

section Resolution
variable {start : BitVec 32} {size : ℤ} {t : ExportTables} {es : List NativeExportSymbol}
  (hordered : t.Ordered)
  (hes : EntriesOf start size t.ordinalBase t.aliases 0 t.slots es)

theorem ExportTables.mem_aliases {index : BitVec 32} {name : Ascii} :
    name ∈ t.aliases index ↔ (name,index) ∈ t.names := by
  simp only [aliases, List.mem_map, List.mem_filter, decide_eq_true_eq, Prod.exists]
  constructor
  · rintro ⟨_,_,⟨hmem,rfl⟩,rfl⟩
    exact hmem
  · exact fun hmem => ⟨name,index,⟨hmem,rfl⟩,rfl⟩

include hordered in
/-- A name is in the name table once. -/
theorem ExportTables.names_getElem? {i : ℕ} {name : Ascii} {index : BitVec 32}
    (h : t.names[i]? = some (name,index)) (j : ℕ) :
    (t.names[j]?).map Prod.fst = some name ↔ j = i := by
  have hnames := ExportTables.names_nodup hordered
  have hi : (t.names.map Prod.fst)[i]? = some name := by rw [List.getElem?_map, h, Option.map_some]
  rw [← List.getElem?_map]
  constructor
  · intro hj
    obtain ⟨hjlt,_⟩ := List.getElem?_eq_some_iff.mp hj
    exact (List.getElem?_inj hjlt hnames).mp (hj.trans hi.symm)
  · rintro rfl
    exact hi

include hordered in
theorem entry_ordinal {i : ℕ} {slot : BitVec 32} {e : NativeExportSymbol}
    (hslot : t.slots[i]? = some slot)
    (he : ExportEntry start size t.ordinalBase t.aliases i slot e) :
    e.ordinal.toNat = t.ordinalBase.toNat+i := by
  obtain ⟨hlt,_⟩ := List.getElem?_eq_some_iff.mp hslot
  have hbound : t.slots.length ≤ 4096 := hordered.bound
  have hordinals := hordered.ordinals
  rw [he.ordinal]
  bv_omega

include hordered hes

theorem resolves {names : Dictionary Ascii NativeExportSymbol}
    {ordinals : Dictionary (BitVec 32) NativeExportSymbol}
    (hnames : ∀ name e, names.get? name = some e ↔ e ∈ es ∧ name ∈ e.names)
    (hordinals : ∀ o e, ordinals.get? o = some e ↔ e ∈ es ∧ e.ordinal = o) :
    Resolves start size t es names ordinals := by
  have hsmall {i : ℕ} {slot : BitVec 32} (hslot : t.slots[i]? = some slot) :
      (BitVec.ofNat 32 i).toNat = i := by
    obtain ⟨hlt,_⟩ := List.getElem?_eq_some_iff.mp hslot
    have hbound : t.slots.length ≤ 4096 := hordered.bound
    rw [BitVec.toNat_ofNat, Nat.mod_eq_of_lt (by omega)]
  constructor
  case byName =>
    intro name
    rw [Option.isSome_iff_exists]
    simp only [hnames]
    constructor
    · rintro ⟨e,he,hname⟩
      obtain ⟨i,slot,hne,hslot,hentry⟩ := used_of_entry hes he
      rw [hentry.names, ExportTables.mem_aliases] at hname
      obtain ⟨j,hj⟩ := List.mem_iff_getElem?.mp hname
      refine ⟨j,_,ExportTables.names_getElem? hordered hj,by rw [hj, Option.map_some],slot,hne,?_⟩
      rw [hsmall hslot]
      exact hslot
    · rintro ⟨i,index,hi,hindex,slot,hne,hslot⟩
      obtain ⟨⟨name',_⟩,hget,rfl⟩ := Option.map_eq_some_iff.mp hindex
      have hname : name' = name := by
        have hfst := (hi i).mpr rfl
        rw [hget] at hfst
        exact Option.some.inj hfst
      subst hname
      obtain ⟨e,he,hentry⟩ := entry_of_used hes hne hslot
      refine ⟨e,he,?_⟩
      rw [hentry.names, ExportTables.mem_aliases, BitVec.ofNat_toNat, BitVec.setWidth_eq]
      exact List.mem_of_getElem? hget
  case ofName =>
    intro name e hget index hmem
    obtain ⟨he,hname⟩ := (hnames name e).mp hget
    obtain ⟨i,slot,hne,hslot,hentry⟩ := used_of_entry hes he
    rw [hentry.names, ExportTables.mem_aliases] at hname
    have hunique := ExportTables.names_nodup hordered
    have hsame : index = .ofNat 32 i :=
      congrArg Prod.snd (List.inj_on_of_nodup_map hunique hmem hname rfl)
    have hindex : index.toNat = i := by rw [hsame, hsmall hslot]
    rw [hindex, hentry.targetRva]
    exact ⟨entry_ordinal hordered hslot hentry,hslot⟩
  case byOrdinal =>
    intro o
    rw [Option.isSome_iff_exists]
    simp only [hordinals]
    constructor
    · rintro ⟨e,he,rfl⟩
      obtain ⟨i,slot,hne,hslot,hentry⟩ := used_of_entry hes he
      obtain ⟨hlt,_⟩ := List.getElem?_eq_some_iff.mp hslot
      rw [entry_ordinal hordered hslot hentry, Nat.add_sub_cancel_left]
      exact ⟨Nat.le_add_right _ _,Nat.add_lt_add_left hlt _,slot,hne,hslot⟩
    · rintro ⟨hlow,hhigh,slot,hne,hslot⟩
      obtain ⟨e,he,hentry⟩ := entry_of_used hes hne hslot
      refine ⟨e,he,BitVec.eq_of_toNat_eq ?_⟩
      rw [entry_ordinal hordered hslot hentry, Nat.add_sub_cancel' hlow]
  case ofOrdinal =>
    intro o e hget
    obtain ⟨he,rfl⟩ := (hordinals o e).mp hget
    obtain ⟨i,slot,hne,hslot,hentry⟩ := used_of_entry hes he
    rw [entry_ordinal hordered hslot hentry, Nat.add_sub_cancel_left, hentry.targetRva]
    exact ⟨rfl,hslot⟩
  case forwarder =>
    intro e he
    obtain ⟨i,slot,hne,hslot,hentry⟩ := used_of_entry hes he
    rw [hentry.forwarder, hentry.targetRva, inDirectory, Bool.and_eq_true, decide_eq_true_eq,
      decide_eq_true_eq, BitVec.le_def]

end Resolution

/-! The sections. -/

theorem not_collide_of_inMemory {rva : BitVec 32} {x y : ManagedSection}
    (h : collide x y = false) (hx : inMemory rva x = true) : inMemory rva y = false := by
  simp only [collide, overlap, Bool.or_eq_false_iff, Bool.and_eq_false_iff,
    decide_eq_false_iff_not] at h
  simp only [inMemory, Bool.and_eq_true, decide_eq_true_eq] at hx
  rw [← Bool.not_eq_true]
  intro hy
  simp only [inMemory, Bool.and_eq_true, decide_eq_true_eq] at hy
  omega

/-- In a validated layout no RVA is in two sections. -/
theorem singleOrDefault_ok {h : ManagedHeaders} {length : ℤ} {notes : List String}
    (hlayout : validateLayout h length = .ok notes) (rva : BitVec 32) :
    ∃ found, singleOrDefault (inMemory rva) h.sectionHeaders = .ok found := by
  have hapart : h.sectionHeaders.Pairwise fun x y => collide y x = false := by
    obtain ⟨_,_,hlayout⟩ := StoppingRuns.bind_ok_iff.mp hlayout
    obtain ⟨_,_,hlayout⟩ := StoppingRuns.bind_ok_iff.mp hlayout
    exact ((validateSections_recognizes h length [] h.sectionHeaders []).ok_iff.mp hlayout).1.2.2
  have hfilter := hapart.filter (inMemory rva)
  unfold singleOrDefault
  cases hin : h.sectionHeaders.filter (inMemory rva) with
  | nil => exact ⟨none,rfl⟩
  | cons x rest =>
    cases rest with
    | nil => exact ⟨some x,rfl⟩
    | cons y rest =>
      rw [hin] at hfilter
      have hcollide := List.rel_of_pairwise_cons hfilter List.mem_cons_self
      have hmem {z : ManagedSection} (hz : z ∈ x :: y :: rest) : inMemory rva z = true :=
        (List.mem_filter.mp (hin ▸ hz)).2
      have hx := not_collide_of_inMemory hcollide (hmem (.tail _ List.mem_cons_self))
      exact absurd (hmem List.mem_cons_self) (Bool.eq_false_iff.mp hx)

/-- The dictionaries made of the exports of an accepted directory. -/
theorem export_resolution_exact (pe : PeStream) (d : DirectoryEntry) (notes : List String)
    (es : List NativeExportSymbol) (s s' : List StreamRead)
    (hlayout : validateLayout pe.headers pe.file.length = .ok notes)
    (h : exports pe d s = .ok (es,s')) :
    (∀ rva, ∃ found, singleOrDefault (inMemory rva) pe.headers.sectionHeaders = .ok found) ∧
    ∃ t : ExportTables, (d = ⟨0,0⟩ ∧ t.slots = [] ∧ t.names = [] ∨
        t.At pe (.ofInt 32 d.relativeVirtualAddress)) ∧
      ∃ names ordinals, byName es = .ok names ∧ byOrdinal es = .ok ordinals ∧
        Resolves (.ofInt 32 d.relativeVirtualAddress) d.size t es names ordinals := by
  refine ⟨singleOrDefault_ok hlayout,?_⟩
  have htables : ∃ t : ExportTables, (d = ⟨0,0⟩ ∧ t.slots = [] ∧ t.names = [] ∨
      t.At pe (.ofInt 32 d.relativeVirtualAddress)) ∧ t.Ordered ∧
      EntriesOf (.ofInt 32 d.relativeVirtualAddress) d.size t.ordinalBase t.aliases 0 t.slots es := by
    rcases exports_ok h with ⟨hempty,rfl⟩ | ⟨t,hordered,hat,hes⟩
    · refine ⟨⟨0,[],[]⟩,.inl ⟨hempty,rfl,rfl⟩,⟨.nil,fun x hx => absurd hx List.not_mem_nil,
        Nat.zero_le _,by decide⟩,.nil⟩
    · exact ⟨t,.inr hat,hordered,hes⟩
  obtain ⟨t,hat,hordered,hes⟩ := htables
  obtain ⟨names,hnames,hgetName⟩ := byName_ok hordered hes
  obtain ⟨ordinals,hordinals,hgetOrdinal⟩ := byOrdinal_ok hordered hes
  exact ⟨t,hat,names,ordinals,hnames,hordinals,resolves hordered hes hgetName hgetOrdinal⟩

theorem export_resolution_sample : validateLayout sampleHeaders 1024 = .ok [] ∧ ∃ es s',
    exports samplePe ⟨0x1000,0x60⟩ [] = .ok (es,s') ∧
      ∃ names ordinals, byName es = .ok names ∧ byOrdinal es = .ok ordinals := by
  have hlayout : validateLayout sampleHeaders 1024 = .ok [] := by decide
  have hlength : samplePe.file.length = 1024 := by decide +kernel
  have hok : (exports samplePe ⟨0x1000,0x60⟩ []).isOk = true := by decide +kernel
  obtain ⟨es,s',h⟩ : ∃ es s', exports samplePe ⟨0x1000,0x60⟩ [] = .ok (es,s') := by
    cases h : exports samplePe ⟨0x1000,0x60⟩ [] with
    | error e =>
      rw [h] at hok
      cases hok
    | ok r => exact ⟨r.1,r.2,rfl⟩
  have hvalid : validateLayout samplePe.headers samplePe.file.length = .ok [] := by
    rw [hlength]
    exact hlayout
  obtain ⟨_,_,_,names,ordinals,hnames,hordinals,_⟩ :=
    export_resolution_exact samplePe ⟨0x1000,0x60⟩ [] es [] s' hvalid h
  exact ⟨hlayout,es,s',h,names,ordinals,hnames,hordinals⟩

end Saex
