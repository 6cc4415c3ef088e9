import Saex.PeStreamReads

/-! The imports of a module, which two readers go through: one counts the descriptors, and the
other takes as many and walks the thunk tables of each. -/
namespace Saex
open LoggedRuns PeStartupInspector PeLinkageInspector

/-! What the directory holds. -/
section Tables
variable (pe : PeStream) (delay : Bool)

def ZeroDescriptor (at' : BitVec 32) : Prop :=
  ∀ j < stride delay/4, pe.dwordAt (at'+.ofNat 32 (4*j)) = some 0

/-- The first descriptor of zeros from `i` on is the `n`th. -/
structure FirstZero (start : BitVec 32) (i n : ℕ) : Prop where
  le : i ≤ n
  nonzero : ∀ k, i ≤ k → k < n → ∃ j < stride delay/4, ∃ v ≠ 0,
    pe.dwordAt (start+.ofNat 32 (k*stride delay)+.ofNat 32 (4*j)) = some v
  zero : ZeroDescriptor pe delay (start+.ofNat 32 (n*stride delay))

/-- A symbol is what its lookup entry says. -/
structure ImportEntry (module' : Ascii) (value lookupAt iatAt : BitVec 32)
    (s : NativeImportSymbol) : Prop where
  module' : s.module' = module'
  kind : s.kind = if delay then .delay else .normal
  lookupRva : s.lookupRva = lookupAt
  iatRva : s.iatRva = iatAt
  byOrdinal : value &&& 0x80000000 ≠ 0 → value &&& 0x7fff0000 = 0 ∧ value &&& 0xffff ≠ 0 ∧
    s.ordinal = some (value &&& 0xffff) ∧ s.name = none ∧ s.hint = none
  byName : value &&& 0x80000000 = 0 → s.ordinal = none ∧ ∃ hint name,
    pe.wordAt value = some hint ∧ pe.TextAt (value+2) (fun b => 32 ≤ b && b < 127) name ∧
      name ≠ [] ∧ s.hint = some hint ∧ s.name = some name

/-- The symbols are the entries from `j` on, up to the first that is zero in both tables. -/
structure ThunkTable (module' : Ascii) (lookup iat : BitVec 32) (j : ℕ)
    (symbols : List NativeImportSymbol) : Prop where
  entries : ∀ k (hk : k < symbols.length), ∃ value ≠ 0, ∃ iatValue ≠ 0,
    pe.dwordAt (lookup+.ofNat 32 (4*(j+k))) = some value ∧
    pe.dwordAt (iat+.ofNat 32 (4*(j+k))) = some iatValue ∧
    ImportEntry pe delay module' value (lookup+.ofNat 32 (4*(j+k))) (iat+.ofNat 32 (4*(j+k)))
      symbols[k]
  lookupEnd : pe.dwordAt (lookup+.ofNat 32 (4*(j+symbols.length))) = some 0
  iatEnd : pe.dwordAt (iat+.ofNat 32 (4*(j+symbols.length))) = some 0

/-- The tables of a descriptor; one that is not bound may have only the address table. -/
def ThunkTablesAt (at' : BitVec 32) (t : ThunkTables) : Prop :=
  if delay then pe.dwordAt at' = some 1 ∧ pe.dwordAt (at'+4) = some t.nameRva ∧
    pe.dwordAt (at'+12) = some t.iat ∧ pe.dwordAt (at'+16) = some t.lookup
  else pe.dwordAt (at'+12) = some t.nameRva ∧ pe.dwordAt (at'+16) = some t.iat ∧
    (t.lookup ≠ 0 ∧ pe.dwordAt at' = some t.lookup ∨
      pe.dwordAt at' = some 0 ∧ pe.dwordAt (at'+4) = some 0 ∧ t.lookup = t.iat)

/-- The symbols of a descriptor, in the module that it names. -/
def DescriptorSymbols (at' : BitVec 32) (symbols : List NativeImportSymbol) : Prop :=
  ∃ t text, ThunkTablesAt pe delay at' t ∧ t.lookup ≠ 0 ∧ t.iat ≠ 0 ∧
    pe.TextAt t.nameRva (· < 128) text ∧
    ThunkTable pe delay (text.map lowerAscii) t.lookup t.iat 0 symbols

end Tables

variable {pe : PeStream} {delay : Bool} {s s' : List StreamRead}

theorem symbol_ok {rva : BitVec 32} {stop : ℕ} {name : Ascii}
    (h : symbol pe rva stop s = .ok (name,s')) :
    pe.TextAt rva (fun b => 32 ≤ b && b < 127) name ∧ name ≠ [] := by
  obtain ⟨bytes,_,hbytes,h⟩ := bind_ok_iff.mp h
  obtain ⟨hlength,h⟩ := bind_require_ok_iff.mp h
  cases pure_ok_iff.mp h
  refine ⟨textBytes_ok hbytes (fun k hk => absurd hk (Nat.not_lt_zero k))
    fun b hb => absurd hb List.not_mem_nil,?_⟩
  exact List.ne_nil_of_length_pos (of_decide_eq_true hlength)

theorem moduleName_ok {rva : BitVec 32} {name : Ascii} (h : moduleName pe rva s = .ok (name,s')) :
    ∃ text, pe.TextAt rva (· < 128) text ∧ name = text.map lowerAscii := by
  obtain ⟨bytes,_,hbytes,h⟩ := bind_ok_iff.mp h
  obtain ⟨_,h⟩ := bind_require_ok_iff.mp h
  cases pure_ok_iff.mp h
  exact ⟨bytes,textBytes_ok hbytes (fun k hk => absurd hk (Nat.not_lt_zero k))
    fun b hb => absurd hb List.not_mem_nil,rfl⟩

theorem symbol_logs (rva : BitVec 32) (stop : ℕ) :
    Logs (StreamRead.Backed pe) (symbol pe rva stop) :=
  (textBytes_logs _ _).bind fun _ => .bind (.require _ _) fun _ => .pure _

theorem moduleName_logs (rva : BitVec 32) : Logs (StreamRead.Backed pe) (moduleName pe rva) :=
  (textBytes_logs _ _).bind fun _ => .bind (.require _ _) fun _ => .pure _

/-! The inventory of the startup inspector. -/

theorem descriptorFields_ok {at' : BitVec 32} {fields : List (BitVec 32)}
    (h : descriptorFields pe delay at' s = .ok (fields,s')) :
    fields.length = stride delay/4 ∧
      ∀ j (hj : j < fields.length), pe.dwordAt (at'+.ofNat 32 (4*j)) = some fields[j] := by
  have hall := mapM_ok h
  have hlength : fields.length = stride delay/4 := by
    rw [← hall.length_eq, List.length_range]
  refine ⟨hlength,fun j hj => ?_⟩
  have hj' : j < (List.range (stride delay/4)).length := by rw [List.length_range]; omega
  obtain ⟨_,_,hnumber⟩ := hall.get hj' hj
  rw [List.get_eq_getElem, List.getElem_range] at hnumber
  exact number_ok hnumber

theorem descriptorFields_logs (at' : BitVec 32) :
    Logs (StreamRead.Backed pe) (descriptorFields pe delay at') :=
  .mapM (fun _ => number_logs) _

theorem descriptorName_logs (fields : List (BitVec 32)) :
    Logs (StreamRead.Backed pe) (descriptorName pe delay fields) := by
  unfold descriptorName
  split
  · refine .bind (.require _ _) fun _ => ?_
    split
    · exact .pure _
    · exact .liftM _
  · exact .pure _

/-- As many names as descriptors before the first of zeros. -/
theorem descriptorNames_ok {d : DirectoryEntry} {start : BitVec 32} {left i : ℕ}
    {names result : List Ascii} (hnodup : names.Nodup)
    (h : descriptorNames pe d delay start left i names s = .ok (result,s')) :
    (result.Nodup ∧ result.Pairwise (· ≤ ·)) ∧
      ∃ n, FirstZero pe delay start i n ∧ result.length = names.length+(n-i) := by
  induction left generalizing i names s with
  | zero => exact absurd h throw_ne_ok
  | succ left ih =>
    unfold descriptorNames at h
    split at h
    · obtain ⟨at',hat,h⟩ := bind_liftM_ok_iff.mp h
      obtain ⟨fields,_,hfields,h⟩ := bind_ok_iff.mp h
      obtain ⟨hlength,hvalues⟩ := descriptorFields_ok hfields
      rw [(checkedAdd_ok hat).2] at hvalues
      split at h
      · rename_i hzero
        cases pure_ok_iff.mp h
        have hperm : (names.insertionSort (· ≤ ·)).Perm names := List.perm_insertionSort _ names
        refine ⟨⟨hperm.nodup_iff.mpr hnodup,List.pairwise_insertionSort _ names⟩,i,⟨le_refl i,fun k hk hki => ?_,fun j hj => ?_⟩,?_⟩
        · exact absurd hk (Nat.not_le.mpr hki)
        · have hj' : j < fields.length := hlength ▸ hj
          have hvalue := of_decide_eq_true (List.all_eq_true.mp hzero _ (List.getElem_mem hj'))
          rw [hvalues j hj', hvalue]
        · rw [hperm.length_eq, Nat.sub_self, Nat.add_zero]
      · rename_i hzero
        obtain ⟨_,h⟩ := bind_require_ok_iff.mp h
        obtain ⟨_,_,_,h⟩ := bind_ok_iff.mp h
        obtain ⟨name,_,_,h⟩ := bind_ok_iff.mp h
        obtain ⟨hnew,h⟩ := bind_require_ok_iff.mp h
        have hnew : name ∉ names := of_decide_eq_true hnew
        have hnodup' : (names++[name]).Nodup :=
          hnodup.append (List.nodup_singleton name) (List.disjoint_singleton.mpr hnew)
        obtain ⟨hresult,n,hfirst,hcount⟩ := ih hnodup' h
        have hle := hfirst.le
        refine ⟨hresult,n,⟨by omega,fun k hk hkn => ?_,hfirst.zero⟩,?_⟩
        · rcases Nat.eq_or_lt_of_le hk with rfl | hk
          · obtain ⟨v,hv,hne⟩ : ∃ v ∈ fields, v ≠ 0 := by simpa using hzero
            obtain ⟨j,hj,rfl⟩ := List.getElem_of_mem hv
            exact ⟨j,hlength ▸ hj,_,hne,hvalues j hj⟩
          · exact hfirst.nonzero k hk hkn
        · rw [hcount, List.length_append, List.length_singleton]
          omega
    · exact absurd h throw_ne_ok

theorem descriptorNames_logs {d : DirectoryEntry} {start : BitVec 32} (left i : ℕ)
    (names : List Ascii) :
    Logs (StreamRead.Backed pe) (descriptorNames pe d delay start left i names) := by
  induction left generalizing i names with
  | zero => exact .throw _
  | succ left ih =>
    unfold descriptorNames
    split
    · refine .bind (.liftM _) fun at' => .bind (descriptorFields_logs at') fun fields => ?_
      split
      · exact .pure _
      · refine .bind (.require _ _) fun _ => .bind (descriptorName_logs fields) fun nameRva => ?_
        exact .bind (moduleName_logs nameRva) fun name => .bind (.require _ _) fun _ => ih _ _
    · exact .throw _

/-! The thunk tables. -/

theorem thunkTables_ok {at' : BitVec 32} {t : ThunkTables}
    (h : thunkTables pe delay at' s = .ok (t,s')) : ThunkTablesAt pe delay at' t := by
  unfold thunkTables at h
  unfold ThunkTablesAt
  split at h
  · rename_i hdelay
    rw [if_pos hdelay]
    obtain ⟨v,_,hv,h⟩ := bind_ok_iff.mp h
    obtain ⟨hone,h⟩ := bind_require_ok_iff.mp h
    obtain ⟨nameRva,_,hname,h⟩ := bind_ok_iff.mp h
    obtain ⟨iat,_,hiat,h⟩ := bind_ok_iff.mp h
    obtain ⟨lookup,_,hlookup,h⟩ := bind_ok_iff.mp h
    cases pure_ok_iff.mp h
    obtain rfl := of_decide_eq_true hone
    exact ⟨number_ok hv,number_ok hname,number_ok hiat,number_ok hlookup⟩
  · rename_i hdelay
    rw [if_neg hdelay]
    obtain ⟨nameRva,_,hname,h⟩ := bind_ok_iff.mp h
    obtain ⟨iat,_,hiat,h⟩ := bind_ok_iff.mp h
    obtain ⟨lookup,_,hlookup,h⟩ := bind_ok_iff.mp h
    split at h
    · rename_i hzero
      obtain ⟨v,_,hv,h⟩ := bind_ok_iff.mp h
      obtain ⟨hunbound,h⟩ := bind_require_ok_iff.mp h
      cases pure_ok_iff.mp h
      obtain rfl := of_decide_eq_true hunbound
      exact ⟨number_ok hname,number_ok hiat,.inr ⟨hzero ▸ number_ok hlookup,number_ok hv,rfl⟩⟩
    · rename_i hzero
      cases pure_ok_iff.mp h
      exact ⟨number_ok hname,number_ok hiat,.inl ⟨hzero,number_ok hlookup⟩⟩

theorem thunkTables_logs (at' : BitVec 32) :
    Logs (StreamRead.Backed pe) (thunkTables pe delay at') := by
  unfold thunkTables
  split
  · exact number_logs.bind fun _ => .bind (.require _ _) fun _ => number_logs.bind fun _ =>
      number_logs.bind fun _ => number_logs.bind fun _ => .pure _
  · refine number_logs.bind fun _ => number_logs.bind fun _ => number_logs.bind fun lookup => ?_
    split
    · exact number_logs.bind fun _ => .bind (.require _ _) fun _ => .pure _
    · exact .pure _

theorem importSymbol_ok {module' : Ascii} {value lookupAt iatAt : BitVec 32}
    {x : NativeImportSymbol}
    (h : importSymbol pe module' delay value lookupAt iatAt s = .ok (x,s')) :
    ImportEntry pe delay module' value lookupAt iatAt x := by
  unfold importSymbol at h
  dsimp only at h
  split at h
  · rename_i hordinal
    obtain ⟨hreserved,h⟩ := bind_require_ok_iff.mp h
    obtain ⟨hnonzero,h⟩ := bind_require_ok_iff.mp h
    cases pure_ok_iff.mp h
    refine ⟨rfl,rfl,rfl,rfl,fun _ => ?_,fun hname => absurd hname hordinal⟩
    exact ⟨of_decide_eq_true hreserved,of_decide_eq_true hnonzero,rfl,rfl,rfl⟩
  · rename_i hname
    obtain ⟨hint,_,hhint,h⟩ := bind_ok_iff.mp h
    obtain ⟨rva,hrva,h⟩ := bind_liftM_ok_iff.mp h
    obtain ⟨name,_,hsymbol,h⟩ := bind_ok_iff.mp h
    cases pure_ok_iff.mp h
    obtain ⟨htext,hne⟩ := symbol_ok hsymbol
    rw [(checkedAdd_ok hrva).2] at htext
    refine ⟨rfl,rfl,rfl,rfl,fun hordinal => absurd hordinal hname,fun _ => ?_⟩
    exact ⟨rfl,hint,name,word_ok hhint,htext,hne,rfl,rfl⟩

theorem importSymbol_logs (module' : Ascii) (value lookupAt iatAt : BitVec 32) :
    Logs (StreamRead.Backed pe) (importSymbol pe module' delay value lookupAt iatAt) := by
  unfold importSymbol
  dsimp only
  split
  · exact .bind (.require _ _) fun _ => .bind (.require _ _) fun _ => .pure _
  · exact word_logs.bind fun _ => .bind (.liftM _) fun rva => (symbol_logs rva _).bind fun _ =>
      .pure _

theorem thunkPair_ok {lookup iat : BitVec 32} {j : ℕ} {t : ThunkPair}
    (h : thunkPair pe lookup iat j s = .ok (t,s')) :
    t.lookupAt = lookup+.ofNat 32 (4*j) ∧ t.iatAt = iat+.ofNat 32 (4*j) ∧
      pe.dwordAt (lookup+.ofNat 32 (4*j)) = some t.value ∧
      pe.dwordAt (iat+.ofNat 32 (4*j)) = some t.iatValue := by
  obtain ⟨lookupAt,hlookupAt,h⟩ := bind_liftM_ok_iff.mp h
  obtain ⟨iatAt,hiatAt,h⟩ := bind_liftM_ok_iff.mp h
  obtain ⟨value,_,hvalue,h⟩ := bind_ok_iff.mp h
  obtain ⟨iatValue,_,hiatValue,h⟩ := bind_ok_iff.mp h
  cases pure_ok_iff.mp h
  obtain ⟨-,rfl⟩ := checkedAdd_ok hlookupAt
  obtain ⟨-,rfl⟩ := checkedAdd_ok hiatAt
  exact ⟨rfl,rfl,number_ok hvalue,number_ok hiatValue⟩

theorem thunkPair_logs (lookup iat : BitVec 32) (j : ℕ) :
    Logs (StreamRead.Backed pe) (thunkPair pe lookup iat j) :=
  .bind (.liftM _) fun _ => .bind (.liftM _) fun _ => number_logs.bind fun _ =>
    number_logs.bind fun _ => .pure _

/-- Where both tables end, no symbol is left. -/
theorem thunksEnd_ok {module' : Ascii} {lookup iat : BitVec 32} {j : ℕ} {t : ThunkPair}
    {output output' : List NativeImportSymbol}
    (hlookup : pe.dwordAt (lookup+.ofNat 32 (4*j)) = some t.value)
    (hiat : pe.dwordAt (iat+.ofNat 32 (4*j)) = some t.iatValue) (hzero : t.value = 0)
    (h : thunksEnd t.iatValue output s = .ok (output',s')) :
    output' = output ∧ ThunkTable pe delay module' lookup iat j [] := by
  obtain ⟨hend,h⟩ := bind_require_ok_iff.mp h
  cases pure_ok_iff.mp h
  refine ⟨rfl,fun k hk => absurd hk (Nat.not_lt_zero k),?_,?_⟩
  · rw [hzero] at hlookup
    exact hlookup
  · rw [of_decide_eq_true hend] at hiat
    exact hiat

theorem ThunkTable.cons {module' : Ascii} {lookup iat : BitVec 32} {j : ℕ} {t : ThunkPair}
    {x : NativeImportSymbol} {rest : List NativeImportSymbol}
    (hlookup : pe.dwordAt (lookup+.ofNat 32 (4*j)) = some t.value) (hvalue : t.value ≠ 0)
    (hiat : pe.dwordAt (iat+.ofNat 32 (4*j)) = some t.iatValue) (hiatValue : t.iatValue ≠ 0)
    (hx : ImportEntry pe delay module' t.value (lookup+.ofNat 32 (4*j)) (iat+.ofNat 32 (4*j)) x)
    (hrest : ThunkTable pe delay module' lookup iat (j+1) rest) :
    ThunkTable pe delay module' lookup iat j (x :: rest) := by
  have hnext (k : ℕ) : j+1+k = j+(k+1) := by omega
  obtain ⟨hentries,hlookupEnd,hiatEnd⟩ := hrest
  simp only [hnext] at hentries hlookupEnd hiatEnd
  refine ⟨fun k hk => ?_,hlookupEnd,hiatEnd⟩
  cases k with
  | zero => exact ⟨t.value,hvalue,t.iatValue,hiatValue,hlookup,hiat,hx⟩
  | succ k => exact hentries k (Nat.lt_of_succ_lt_succ hk)

/-- The loop appends the entries of the table from where it starts, within the room there is. -/
theorem thunks_ok {module' : Ascii} {lookup iat : BitVec 32} {room j : ℕ}
    {output output' : List NativeImportSymbol}
    (h : thunks pe module' delay lookup iat room j output s = .ok (output',s')) :
    ∃ symbols, output' = output++symbols ∧ symbols.length ≤ room ∧
      ThunkTable pe delay module' lookup iat j symbols := by
  induction room generalizing j output s with
  | zero =>
    obtain ⟨t,_,ht,h⟩ := bind_ok_iff.mp h
    obtain ⟨_,_,hlookup,hiat⟩ := thunkPair_ok ht
    split at h
    · rename_i hzero
      obtain ⟨rfl,hend⟩ := thunksEnd_ok hlookup hiat hzero h
      exact ⟨[],(List.append_nil _).symm,Nat.zero_le _,hend⟩
    · exact absurd h throw_ne_ok
  | succ room ih =>
    obtain ⟨t,_,ht,h⟩ := bind_ok_iff.mp h
    obtain ⟨hlookupAt,hiatAt,hlookup,hiat⟩ := thunkPair_ok ht
    split at h
    · rename_i hzero
      obtain ⟨rfl,hend⟩ := thunksEnd_ok hlookup hiat hzero h
      exact ⟨[],(List.append_nil _).symm,Nat.zero_le _,hend⟩
    · rename_i hvalue
      obtain ⟨hiatValue,h⟩ := bind_require_ok_iff.mp h
      obtain ⟨x,_,hx,h⟩ := bind_ok_iff.mp h
      obtain ⟨rest,rfl,hroom,hrest⟩ := ih h
      have hx := importSymbol_ok hx
      rw [hlookupAt, hiatAt] at hx
      refine ⟨x :: rest,by rw [List.append_assoc, List.singleton_append],
        Nat.succ_le_succ hroom,?_⟩
      exact .cons hlookup hvalue hiat (of_decide_eq_true hiatValue) hx hrest

theorem thunksEnd_logs (iatValue : BitVec 32) (output : List NativeImportSymbol) :
    Logs (StreamRead.Backed pe) (thunksEnd iatValue output) :=
  .bind (.require _ _) fun _ => .pure _

theorem thunks_logs {module' : Ascii} {lookup iat : BitVec 32} (room j : ℕ)
    (output : List NativeImportSymbol) :
    Logs (StreamRead.Backed pe) (thunks pe module' delay lookup iat room j output) := by
  induction room generalizing j output with
  | zero =>
    refine (thunkPair_logs lookup iat j).bind fun t => ?_
    split
    · exact thunksEnd_logs _ _
    · exact .throw _
  | succ room ih =>
    refine (thunkPair_logs lookup iat j).bind fun t => ?_
    split
    · exact thunksEnd_logs _ _
    · exact .bind (.require _ _) fun _ => (importSymbol_logs _ _ _ _).bind fun _ => ih _ _

/-! The descriptors. -/

theorem descriptorImports_ok {start : BitVec 32} {i : ℕ} {output output' : List NativeImportSymbol}
    (h : descriptorImports pe start delay i output s = .ok (output',s')) :
    ∃ symbols, output' = output++symbols ∧ symbols.length ≤ maxSymbols-output.length ∧
      DescriptorSymbols pe delay (start+.ofNat 32 (i*stride delay)) symbols := by
  obtain ⟨at',hat,h⟩ := bind_liftM_ok_iff.mp h
  obtain ⟨t,_,ht,h⟩ := bind_ok_iff.mp h
  obtain ⟨htables,h⟩ := bind_require_ok_iff.mp h
  obtain ⟨module',_,hmodule,h⟩ := bind_ok_iff.mp h
  obtain ⟨text,htext,rfl⟩ := moduleName_ok hmodule
  obtain ⟨symbols,rfl,hroom,hsymbols⟩ := thunks_ok h
  rw [Bool.and_eq_true, decide_eq_true_eq, decide_eq_true_eq] at htables
  obtain ⟨-,rfl⟩ := checkedAdd_ok hat
  exact ⟨symbols,rfl,hroom,t,text,thunkTables_ok ht,htables.1,htables.2,htext,hsymbols⟩

theorem descriptorImports_logs (start : BitVec 32) (i : ℕ) (output : List NativeImportSymbol) :
    Logs (StreamRead.Backed pe) (descriptorImports pe start delay i output) :=
  .bind (.liftM _) fun at' => (thunkTables_logs at').bind fun t => .bind (.require _ _) fun _ =>
    (moduleName_logs t.nameRva).bind fun _ => thunks_logs _ _ _

/-- One block of symbols for each descriptor. -/
theorem descriptors_ok {start : BitVec 32} {left i : ℕ} {output output' : List NativeImportSymbol}
    (h : descriptors pe start delay left i output s = .ok (output',s')) :
    (output.length ≤ maxSymbols → output'.length ≤ maxSymbols) ∧
    ∃ blocks : List (List NativeImportSymbol), blocks.length = left ∧
      output' = output++blocks.flatten ∧ ∀ k (hk : k < blocks.length),
        DescriptorSymbols pe delay (start+.ofNat 32 ((i+k)*stride delay)) blocks[k] := by
  induction left generalizing i output s with
  | zero =>
    cases pure_ok_iff.mp h
    exact ⟨id,[],rfl,(List.append_nil _).symm,fun k hk => absurd hk (Nat.not_lt_zero k)⟩
  | succ left ih =>
    obtain ⟨_,_,hfirst,h⟩ := bind_ok_iff.mp h
    obtain ⟨symbols,rfl,hroom,hsymbols⟩ := descriptorImports_ok hfirst
    obtain ⟨hbound,blocks,rfl,rfl,hblocks⟩ := ih h
    refine ⟨fun hlength => hbound ?_,symbols :: blocks,rfl,?_,fun k hk => ?_⟩
    · rw [List.length_append]
      omega
    · rw [List.flatten_cons, List.append_assoc]
    · cases k with
      | zero => exact hsymbols
      | succ k =>
        have hnext : i+1+k = i+(k+1) := by omega
        exact hnext ▸ hblocks k (Nat.lt_of_succ_lt_succ hk)

theorem descriptors_logs {start : BitVec 32} (left i : ℕ) (output : List NativeImportSymbol) :
    Logs (StreamRead.Backed pe) (descriptors pe start delay left i output) := by
  induction left generalizing i output with
  | zero => exact .pure _
  | succ left ih => exact (descriptorImports_logs start i output).bind fun _ => ih _ _

/-! Both readers. -/

theorem directory_ok {d : DirectoryEntry} {minimum : ℤ} {found : Bool}
    (h : directory pe d minimum = .ok found) :
    if found then 0 < d.relativeVirtualAddress else d = ⟨0,0⟩ := by
  unfold directory at h
  split at h
  · rename_i hempty
    cases h
    obtain ⟨rva,size⟩ := d
    obtain ⟨hrva,hsize⟩ := hempty
    exact congrArg₂ DirectoryEntry.mk hrva hsize
  · split at h
    · cases h
    · rename_i hbounds
      obtain ⟨_,_,h⟩ := StoppingRuns.bind_ok_iff.mp h
      obtain ⟨_,_,h⟩ := StoppingRuns.bind_ok_iff.mp h
      have hfound : found = true := (Except.ok.inj h).symm
      rw [if_pos hfound]
      exact (not_not.mp hbounds).1

theorem checkedUInt_ok {n : ℤ} {x : BitVec 32} (h : checkedUInt n = .ok x) : x = .ofInt 32 n := by
  unfold checkedUInt at h
  split at h
  · exact (Except.ok.inj h).symm
  · cases h

/-- The inventory is empty, or has a name for each descriptor before the first of zeros. -/
theorem startupImports_ok {d : DirectoryEntry} {names : List Ascii}
    (h : PeStartupInspector.imports pe d delay s = .ok (names,s')) :
    (names.Nodup ∧ names.Pairwise (· ≤ ·)) ∧ (d = ⟨0,0⟩ ∧ names = [] ∨
      FirstZero pe delay (.ofInt 32 d.relativeVirtualAddress) 0 names.length) := by
  obtain ⟨found,hfound,h⟩ := bind_liftM_ok_iff.mp h
  have hfound := directory_ok hfound
  cases found with
  | false =>
    cases pure_ok_iff.mp h
    exact ⟨⟨List.nodup_nil,.nil⟩,.inl ⟨hfound,rfl⟩⟩
  | true =>
    obtain ⟨start,hstart,h⟩ := bind_liftM_ok_iff.mp h
    obtain ⟨hresult,n,hfirst,hcount⟩ := descriptorNames_ok List.nodup_nil h
    rw [checkedUInt_ok hstart] at hfirst
    rw [List.length_nil, Nat.zero_add, Nat.sub_zero] at hcount
    exact ⟨hresult,.inr (hcount ▸ hfirst)⟩

theorem startupImports_logs (d : DirectoryEntry) :
    Logs (StreamRead.Backed pe) (PeStartupInspector.imports pe d delay) := by
  refine .bind (.liftM _) fun found => ?_
  split
  · exact .pure _
  · exact .bind (.liftM _) fun start => descriptorNames_logs _ _ _

theorem linkageImports_logs (d : DirectoryEntry) (output : List NativeImportSymbol) :
    Logs (StreamRead.Backed pe) (PeLinkageInspector.imports pe d delay output) := by
  refine (startupImports_logs d).bind fun names => ?_
  split
  · exact .pure _
  · exact .bind (.liftM _) fun start => descriptors_logs _ _ _

/-- What an accepted import directory appends: for each descriptor before the first of zeros,
of which the inventory has one name each, the entries of its thunk tables before the first zero;
4096 symbols at most, and from bytes that a single section has in the file. -/
theorem import_enumeration_exact (pe : PeStream) (d : DirectoryEntry) (delay : Bool)
    (output output' : List NativeImportSymbol) (reads : List StreamRead)
    (h : PeLinkageInspector.imports pe d delay output [] = .ok (output',reads)) :
    (∀ r ∈ reads, r.Backed pe) ∧ (output.length ≤ maxSymbols → output'.length ≤ maxSymbols) ∧
    ∃ names log, PeStartupInspector.imports pe d delay [] = .ok (names,log) ∧
      (names.Nodup ∧ names.Pairwise (· ≤ ·)) ∧
      (d = ⟨0,0⟩ ∧ names = [] ∨
        FirstZero pe delay (.ofInt 32 d.relativeVirtualAddress) 0 names.length) ∧
      ∃ blocks : List (List NativeImportSymbol), blocks.length = names.length ∧
        output' = output++blocks.flatten ∧ ∀ i (hi : i < blocks.length), DescriptorSymbols pe delay
          (.ofInt 32 d.relativeVirtualAddress+.ofNat 32 (i*stride delay)) blocks[i] := by
  have hreads := linkageImports_logs d output [] output' reads h fun r hr => absurd hr List.not_mem_nil
  obtain ⟨names,log,hnames,h⟩ := bind_ok_iff.mp h
  obtain ⟨hresult,hfirst⟩ := startupImports_ok hnames
  split at h
  · rename_i hempty
    cases pure_ok_iff.mp h
    exact ⟨hreads,id,names,_,hnames,hresult,hfirst,[],hempty.symm,(List.append_nil _).symm,
      fun i hi => absurd hi (Nat.not_lt_zero i)⟩
  · obtain ⟨start,hstart,h⟩ := bind_liftM_ok_iff.mp h
    obtain ⟨hbound,blocks,hcount,rfl,hblocks⟩ := descriptors_ok h
    obtain rfl := checkedUInt_ok hstart
    simp only [Nat.zero_add] at hblocks
    exact ⟨hreads,hbound,names,log,hnames,hresult,hfirst,blocks,hcount,rfl,hblocks⟩

/-! A small module. -/

/-- One section of 512 bytes behind the headers. -/
def sampleHeaders : ManagedHeaders where
  sectionHeaders := [⟨0x200,0x1000,0x200,0x200,0x60000020⟩]
  peHeaderStartOffset := 88
  sizeOfOptionalHeader := 224
  numberOfRvaAndSizes := 16
  fileAlignment := 512
  sectionAlignment := 4096
  sizeOfImage := 0x2000
  sizeOfHeaders := 512
  imageBase := 0x400000

def dwords (xs : List ℕ) : List UInt8 := xs.flatMap (LittleEndian.bytes 4)

/-- An export directory with a hole and a forwarder at RVA 0x1000, and at 0x1080 a descriptor
with one symbol by ordinal and one by name. -/
def sampleSection : List UInt8 :=
  dwords [0,0,0,0,1,3,1,0x1028,0x1034,0x1038,0x1100,0,0x1050,0x1040,0,0]++
    ascii "f"++List.replicate 15 0++ascii "K.f"++List.replicate 45 0++
    dwords [0x10c0,0,0,0x10e0,0x10d0,0,0,0,0,0,0,0,0,0,0,0,0x80000005,0x10f0,0,0,1,1,0,0]++
    ascii "m.dll"++List.replicate 11 0++[7,0]++ascii "g"++List.replicate 269 0

def samplePe : PeStream := ⟨sampleHeaders,List.replicate 512 0++sampleSection⟩

theorem import_enumeration_sample : ∃ output reads,
    PeLinkageInspector.imports samplePe ⟨0x1080,40⟩ false [] [] = .ok (output,reads) ∧
      (∀ r ∈ reads, r.Backed samplePe) ∧ output.length ≤ maxSymbols := by
  have hok : (PeLinkageInspector.imports samplePe ⟨0x1080,40⟩ false [] []).isOk = true := by
    decide +kernel
  obtain ⟨output,reads,h⟩ : ∃ output reads,
      PeLinkageInspector.imports samplePe ⟨0x1080,40⟩ false [] [] = .ok (output,reads) := by
    cases h : PeLinkageInspector.imports samplePe ⟨0x1080,40⟩ false [] [] with
    | error e =>
      rw [h] at hok
      cases hok
    | ok r => exact ⟨r.1,r.2,rfl⟩
  obtain ⟨hreads,hbound,_⟩ := import_enumeration_exact samplePe ⟨0x1080,40⟩ false [] output reads h
  exact ⟨output,reads,h,hreads,hbound (Nat.zero_le _)⟩

end Saex
