import Saex.StartupInventory
import Saex.StoppingRuns
import Saex.WorldPlanOrder

/-! The inventory does not depend on the order in which the directory is enumerated, and is
charged for the modules that were read. -/
namespace Saex.StartupInventory
open Recognizers StoppingRuns WorldPlanValidator

variable {Engine : Type} (w : Surroundings Engine)

/-! What the loop over the directory finds. -/

def candidatesOf (entries : List Utf16) : List (Utf16 × Utf16) :=
  (entries.filter (isCandidate w)).map fun entry => (nameOf w entry,entry)

/-- The entries whose name becomes a marker. -/
def isMarked (entry : Utf16) : Bool :=
  isMarker w (nameOf w entry) || isCandidate w entry && getExtension (nameOf w entry) = utf16 ".asi"

/-- The limits of the loop, and names that do not collide. -/
structure Fits (found : Found) (entries : List Utf16) : Prop where
  count : found.entries+entries.length ≤ maxDirectoryEntries
  modules : (found.candidates.entries++candidatesOf w entries).length ≤ maxModules
  names : ((found.candidates.entries++candidatesOf w entries).map Prod.fst).Nodup

structure Gathered (found : Found) (entries : List Utf16) (result : Found) : Prop where
  candidates : result.candidates.entries = found.candidates.entries++candidatesOf w entries
  markers : ∀ name, name ∈ result.markers ↔
    name ∈ found.markers ∨ ∃ entry ∈ entries, isMarked w entry ∧ name = nameOf w entry
  nodup : found.markers.Nodup → result.markers.Nodup

variable {w} {found result : Found} {entry : Utf16} {entries entries' rest : List Utf16}

theorem mem_addMarker {markers : List Utf16} {name other : Utf16} :
    other ∈ addMarker markers name ↔ other ∈ markers ∨ other = name := by
  unfold addMarker
  split
  · rename_i h
    exact ⟨.inl,fun hor => hor.elim id fun heq => heq ▸ List.contains_iff_mem.mp h⟩
  · rw [List.mem_append, List.mem_singleton]

theorem nodup_addMarker {markers : List Utf16} (name : Utf16) (h : markers.Nodup) :
    (addMarker markers name).Nodup := by
  unfold addMarker
  split
  · exact h
  · rename_i hnew
    exact List.Nodup.append h (List.nodup_singleton name)
      (List.disjoint_singleton.mpr (hnew ∘ List.contains_iff_mem.mpr))

theorem candidatesOf_cons (entry : Utf16) (rest : List Utf16) : candidatesOf w (entry :: rest) =
    (if isCandidate w entry then [(nameOf w entry,entry)] else [])++candidatesOf w rest := by
  unfold candidatesOf
  rw [List.filter_cons]
  split <;> rfl

/-- The markers after one entry. -/
def markersWith (w : Surroundings Engine) (markers : List Utf16) (entry : Utf16) : List Utf16 :=
  let name := nameOf w entry
  let markers := if isMarker w name then addMarker markers name else markers
  if isCandidate w entry ∧ getExtension name = utf16 ".asi" then addMarker markers name else markers

theorem mem_markersWith {markers : List Utf16} {name : Utf16} :
    name ∈ markersWith w markers entry ↔
      name ∈ markers ∨ isMarked w entry = true ∧ name = nameOf w entry := by
  unfold markersWith isMarked
  dsimp only
  split_ifs with hasi hmarker hmarker <;> simp_all [mem_addMarker]

theorem nodup_markersWith {markers : List Utf16} (h : markers.Nodup) :
    (markersWith w markers entry).Nodup := by
  unfold markersWith
  dsimp only
  split_ifs <;> first | exact h | skip
  all_goals first
    | exact nodup_addMarker _ (nodup_addMarker _ h)
    | exact nodup_addMarker _ h

/-- What the loop has found after one more entry, and when there is room for it. -/
def advance (w : Surroundings Engine) (found : Found) (entry : Utf16) : Found where
  entries := found.entries+1
  candidates := if isCandidate w entry then (found.candidates.tryAdd (nameOf w entry) entry).1
    else found.candidates
  markers := markersWith w found.markers entry

structure HasRoom (w : Surroundings Engine) (found : Found) (entry : Utf16) : Prop where
  count : found.entries < maxDirectoryEntries
  candidate : isCandidate w entry → found.candidates.entries.length < maxModules ∧
    nameOf w entry ∉ found.candidates.keys

theorem scanEntry_ok_iff : scanEntry w found entry = .ok result ↔
    HasRoom w found entry ∧ result = advance w found entry := by
  have hok {x : Found} : (Except.ok x : Except Exn Found) = .ok result ↔ result = x :=
    ⟨fun h => (Except.ok.inj h).symm,fun h => congrArg Except.ok h.symm⟩
  have hroom : HasRoom w found entry ↔ found.entries < maxDirectoryEntries ∧
      (isCandidate w entry → found.candidates.entries.length < maxModules ∧
        nameOf w entry ∉ found.candidates.keys) := ⟨fun h => ⟨h.1,h.2⟩,fun h => ⟨h.1,h.2⟩⟩
  rw [hroom, and_assoc]
  unfold scanEntry advance markersWith
  simp only [bind_ok_iff, refuseIf_ok_iff, exists_const]
  rw [show ¬found.entries+1 > maxDirectoryEntries ↔ found.entries < maxDirectoryEntries by omega]
  refine and_congr_right fun _ => ?_
  by_cases hcand : isCandidate w entry = true
  · simp only [hcand, if_true, true_and, forall_const, bind_ok_iff, refuseIf_ok_iff, exists_const,
      Bool.not_eq_false, Dictionary.tryAdd_added_iff, not_le, ge_iff_le, and_assoc]
    exact and_congr_right fun _ => and_congr_right fun _ => hok
  · simp only [hcand, Bool.false_eq_true, if_false, false_and, false_imp_iff, true_and]
    exact hok

theorem advance_candidates (h : HasRoom w found entry) (rest : List Utf16) :
    (advance w found entry).candidates.entries++candidatesOf w rest =
      found.candidates.entries++candidatesOf w (entry :: rest) := by
  rw [candidatesOf_cons, advance]
  by_cases hcand : isCandidate w entry = true
  · simp only [hcand, if_true]
    rw [(Dictionary.tryAdd_fresh (h.candidate hcand).2 entry).2, List.append_assoc]
  · simp only [hcand, Bool.false_eq_true, if_false, List.nil_append]

theorem fits_cons : Fits w found (entry :: rest) ↔
    HasRoom w found entry ∧ Fits w (advance w found entry) rest := by
  have hcount : (advance w found entry).entries+rest.length = found.entries+(entry :: rest).length := by
    change found.entries+1+rest.length = found.entries+(rest.length+1)
    omega
  constructor
  · intro hfits
    have hroom : HasRoom w found entry := by
      obtain ⟨hle,hmax,hnames⟩ := hfits
      rw [List.length_cons] at hle
      refine ⟨by omega,fun hcand => ?_⟩
      rw [candidatesOf_cons, if_pos hcand] at hmax hnames
      rw [List.length_append, List.length_append, List.length_singleton] at hmax
      rw [List.map_append] at hnames
      exact ⟨by omega,fun hmem => List.disjoint_of_nodup_append hnames hmem List.mem_cons_self⟩
    have heq := advance_candidates hroom rest
    exact ⟨hroom,hcount.trans_le hfits.count,heq ▸ hfits.modules,heq ▸ hfits.names⟩
  · intro ⟨hroom,hfits⟩
    have heq := advance_candidates hroom rest
    exact ⟨hcount.symm.trans_le hfits.count,heq ▸ hfits.modules,heq ▸ hfits.names⟩

/-- The loop gets to its end exactly within the limits. -/
theorem scan_isOk_iff (hcount : found.entries ≤ maxDirectoryEntries)
    (hmodules : found.candidates.entries.length ≤ maxModules) :
    (∃ result, scan w entries found = .ok result) ↔ Fits w found entries := by
  induction entries generalizing found with
  | nil =>
    refine iff_of_true ⟨found,rfl⟩ ⟨hcount,?_,?_⟩
    · exact (congrArg List.length (List.append_nil _)).trans_le hmodules
    · exact (List.append_nil found.candidates.entries).symm ▸ found.candidates.nodup
  | cons entry rest ih =>
    have hnext (hroom : HasRoom w found entry) :
        (∃ result, scan w rest (advance w found entry) = .ok result) ↔
          Fits w (advance w found entry) rest := by
      have hentries := advance_candidates hroom []
      refine ih hroom.count ?_
      change (advance w found entry).candidates.entries++[] = _ at hentries
      rw [List.append_nil] at hentries
      rw [hentries, candidatesOf_cons, List.length_append]
      by_cases hcand : isCandidate w entry = true
      · rw [if_pos hcand]
        exact (hroom.candidate hcand).1
      · rw [if_neg hcand]
        exact hmodules
    rw [fits_cons]
    constructor
    · rintro ⟨result,h⟩
      obtain ⟨mid,hentry,hrest⟩ := bind_ok_iff.mp h
      obtain ⟨hroom,rfl⟩ := scanEntry_ok_iff.mp hentry
      exact ⟨hroom,(hnext hroom).mp ⟨result,hrest⟩⟩
    · intro ⟨hroom,hfits⟩
      obtain ⟨result,hrest⟩ := (hnext hroom).mpr hfits
      exact ⟨result,bind_ok_iff.mpr ⟨_,scanEntry_ok_iff.mpr ⟨hroom,rfl⟩,hrest⟩⟩

theorem scan_gathered (h : scan w entries found = .ok result) :
    Gathered w found entries result := by
  induction entries generalizing found with
  | nil =>
    cases h
    exact ⟨(List.append_nil _).symm,fun name => by simp,id⟩
  | cons entry rest ih =>
    obtain ⟨mid,hentry,hrest⟩ := bind_ok_iff.mp h
    obtain ⟨hroom,rfl⟩ := scanEntry_ok_iff.mp hentry
    have hgathered := ih hrest
    refine ⟨?_,fun name => ?_,fun hnodup => hgathered.nodup (nodup_markersWith hnodup)⟩
    · rw [hgathered.candidates, advance_candidates hroom]
    · rw [hgathered.markers, advance, mem_markersWith, List.exists_mem_cons_iff, or_assoc]

/-! What is charged for the files. -/

/-- The length of a module file that is read: one that can be opened and is not refused for its size. -/
def moduleLength (w : Surroundings Engine) (file : Utf16) : Option ℤ :=
  match w.rejectReparsePath file >>= fun _ => w.openFile file with
  | .error _ => none
  | .ok opened =>
    if opened.length < 64 ∨ opened.length > maxModuleBytes then none else some opened.length

/-- What a call of `Read` leaves of the budget, unless the budget does not suffice. -/
theorem read_left {file : Utf16} {expectDll : Bool} {remaining left : ℤ}
    {r : Except Exn (StartupModule Engine)} (h : read w file expectDll remaining = (r,left))
    (hlimit : ∀ e, r = .error e → e.message ≠ utf16 "startup_total_byte_limit") (hle : 0 ≤ remaining) :
    left = remaining-((moduleLength w file).getD 0) ∧ 0 ≤ left := by
  unfold read at h
  unfold moduleLength
  cases hopen : w.rejectReparsePath file >>= fun _ => w.openFile file with
  | error e =>
    rw [hopen] at h
    obtain ⟨-,rfl⟩ := Prod.mk.inj h
    exact ⟨(Int.sub_zero _).symm,hle⟩
  | ok opened =>
    rw [hopen] at h
    dsimp only at h ⊢
    by_cases hsize : opened.length < 64 ∨ opened.length > maxModuleBytes
    · rw [if_pos hsize] at h ⊢
      obtain ⟨-,rfl⟩ := Prod.mk.inj h
      exact ⟨(Int.sub_zero _).symm,hle⟩
    · rw [if_neg hsize] at h ⊢
      unfold charge at h
      by_cases hmore : opened.length > remaining
      · rw [if_pos hmore] at h
        obtain ⟨hr,-⟩ := Prod.mk.inj h
        exact absurd rfl (hlimit _ hr.symm)
      · rw [if_neg hmore] at h
        obtain ⟨-,rfl⟩ := Prod.mk.inj h
        exact ⟨rfl,by omega⟩

theorem readCandidate_left {s s' : Progress Engine} {name file : Utf16}
    (h : readCandidate w s name file = .ok s') (hle : 0 ≤ s.remaining) :
    s'.remaining = s.remaining-((moduleLength w file).getD 0) ∧ 0 ≤ s'.remaining := by
  unfold readCandidate at h
  cases hread : read w file true s.remaining with
  | mk r left =>
    rw [hread] at h
    cases r with
    | ok m =>
      cases h
      exact read_left hread (fun e he => by cases he) hle
    | error e =>
      dsimp only at h
      split at h
      · cases h
      · split at h
        · cases h
        · rename_i hmessage
          cases h
          refine read_left hread (fun e' he => ?_) hle
          cases he
          exact hmessage

theorem readCandidates_left {files : List (Utf16 × Utf16)} {s s' : Progress Engine}
    (h : readCandidates w files s = .ok s') (hle : 0 ≤ s.remaining) :
    s'.remaining = s.remaining-((files.map Prod.snd).filterMap (moduleLength w)).sum ∧
      0 ≤ s'.remaining := by
  induction files generalizing s with
  | nil =>
    cases h
    exact ⟨(Int.sub_zero _).symm,hle⟩
  | cons x rest ih =>
    obtain ⟨name,file⟩ := x
    obtain ⟨mid,hfirst,hrest⟩ := bind_ok_iff.mp h
    obtain ⟨hmid,hmidle⟩ := readCandidate_left hfirst hle
    obtain ⟨hleft,hleftle⟩ := ih hrest hmidle
    refine ⟨?_,hleftle⟩
    rw [hleft, hmid, List.map_cons]
    cases hlength : moduleLength w file with
    | none =>
      rw [List.filterMap_cons_none hlength, Option.getD_none]
      omega
    | some n =>
      rw [List.filterMap_cons_some hlength, Option.getD_some, List.sum_cons]
      omega

/-! Two enumerations of one directory. -/

/-- A sorted dictionary is enumerated in the same way however it came about. -/
theorem inKeyOrder_congr {d d' : Dictionary Utf16 Utf16} (h : d.entries.Perm d'.entries) :
    inKeyOrder d = inKeyOrder d' := by
  have hsorted (d : Dictionary Utf16 Utf16) :
      (inKeyOrder d).Pairwise fun a b => decide (a.1 ≤ b.1) = true := by
    refine List.pairwise_mergeSort (fun a b c hab hbc => ?_) (fun a b => ?_) d.entries
    · rw [decide_eq_true_eq] at hab hbc ⊢
      exact List.le_trans hab hbc
    · rw [Bool.or_eq_true, decide_eq_true_eq, decide_eq_true_eq]
      exact List.le_total a.1 b.1
  have hown (d : Dictionary Utf16 Utf16) : (inKeyOrder d).Perm d.entries := List.mergeSort_perm _ _
  have hperm : (inKeyOrder d).Perm (inKeyOrder d') := (hown d).trans (h.trans (hown d').symm)
  refine hperm.eq_of_pairwise (fun a b ha hb hab hba => ?_) (hsorted d) (hsorted d')
  rw [decide_eq_true_eq] at hab hba
  have hb' : b ∈ d.entries := (hown d).mem_iff.mp (hperm.mem_iff.mpr hb)
  exact List.inj_on_of_nodup_map d.nodup ((hown d).mem_iff.mp ha) hb' (List.le_antisymm hab hba)

theorem candidatesOf_perm (h : entries.Perm entries') :
    (candidatesOf w entries).Perm (candidatesOf w entries') := (h.filter _).map _

/-- What both enumerations find is the same up to the order it was found in. -/
theorem scan_congr (h : entries.Perm entries')
    (hscan : scan w entries ⟨0,.empty,[]⟩ = .ok found) :
    ∃ found', scan w entries' ⟨0,.empty,[]⟩ = .ok found' ∧
      found.candidates.entries.Perm found'.candidates.entries ∧
      ordinalOrder found.markers = ordinalOrder found'.markers := by
  have hfits : Fits w ⟨0,.empty,[]⟩ entries :=
    (scan_isOk_iff (by decide) (by decide)).mp ⟨found,hscan⟩
  have hfits' : Fits w ⟨0,.empty,[]⟩ entries' := by
    obtain ⟨hcount,hmodules,hnames⟩ := hfits
    have hperm := (candidatesOf_perm (w := w) h).append_left (Dictionary.empty (K := Utf16)).entries
    exact ⟨h.length_eq ▸ hcount,hperm.length_eq ▸ hmodules,(hperm.map _).nodup_iff.mp hnames⟩
  obtain ⟨found',hscan'⟩ := (scan_isOk_iff (by decide) (by decide)).mpr hfits'
  have hgathered := scan_gathered hscan
  have hgathered' := scan_gathered hscan'
  refine ⟨found',hscan',?_,ordinalOrder_congr ?_⟩
  · rw [hgathered.candidates, hgathered'.candidates]
    exact (candidatesOf_perm h).append_left _
  · rw [List.perm_ext_iff_of_nodup (hgathered.nodup List.nodup_nil) (hgathered'.nodup List.nodup_nil)]
    intro name
    simp only [hgathered.markers, hgathered'.markers, h.mem_iff]

theorem edges_congr {d d' : Dictionary Utf16 Utf16} (h : d.entries.Perm d'.entries)
    (modules : List (StartupModule Engine)) : edges w d modules = edges w d' modules := by
  have hkeys (name : Utf16) : name ∈ d.keys ↔ name ∈ d'.keys := (h.map Prod.fst).mem_iff
  unfold edges
  simp only [List.contains_iff_mem, hkeys]

/-- What `Inspect` returns, for one order of the entries. -/
theorem inspect_ok_iff {s : Inventory Engine} : inspect w entries = .ok s ↔
    w.rejectReparsePath w.path = .ok () ∧
    ∃ engine left, read w w.path false maxTotalBytes = (.ok engine,left) ∧
    ∃ found, scan w entries ⟨0,.empty,[]⟩ = .ok found ∧
    ∃ p, readCandidates w (inKeyOrder found.candidates) ⟨[],[],left⟩ = .ok p ∧
      s.snapshot = ⟨engine,p.modules,edges w found.candidates (engine :: p.modules),
        ordinalOrder found.markers,p.issues,maxTotalBytes-p.remaining⟩ ∧
      s.inventoryDigest = w.digest s.snapshot := by
  unfold inspect
  rw [bind_ok_iff]
  constructor
  · rintro ⟨_,hpath,h⟩
    refine ⟨hpath,?_⟩
    cases hread : read w w.path false maxTotalBytes with
    | mk r left =>
      rw [hread] at h
      cases r with
      | error e => cases h
      | ok engine =>
        obtain ⟨found,hscan,h⟩ := bind_ok_iff.mp h
        obtain ⟨p,hp,h⟩ := bind_ok_iff.mp h
        cases h
        exact ⟨engine,left,rfl,found,hscan,p,hp,rfl,rfl⟩
  · rintro ⟨hpath,engine,left,hread,found,hscan,p,hp,hsnapshot,hdigest⟩
    refine ⟨(),hpath,?_⟩
    rw [hread]
    refine bind_ok_iff.mpr ⟨found,hscan,bind_ok_iff.mpr ⟨p,hp,?_⟩⟩
    obtain ⟨snapshot,inventoryDigest⟩ := s
    dsimp only at hsnapshot hdigest
    rw [hdigest, hsnapshot]
    rfl

theorem inspect_congr (h : entries.Perm entries') {s : Inventory Engine}
    (hs : inspect w entries = .ok s) : inspect w entries' = .ok s := by
  obtain ⟨hpath,engine,left,hread,found,hscan,p,hp,hsnapshot,hdigest⟩ := inspect_ok_iff.mp hs
  obtain ⟨found',hscan',hperm,hmarkers⟩ := scan_congr h hscan
  refine inspect_ok_iff.mpr ⟨hpath,engine,left,hread,found',hscan',p,?_,?_,hdigest⟩
  · rwa [← inKeyOrder_congr hperm]
  · rw [hsnapshot, edges_congr hperm, hmarkers]

theorem inspect_charged {s : Inventory Engine} (hs : inspect w entries = .ok s) :
    s.snapshot.chargedBytes =
      ((w.path :: entries.filter (isCandidate w)).filterMap (moduleLength w)).sum ∧
    s.snapshot.chargedBytes ≤ maxTotalBytes := by
  obtain ⟨_,engine,left,hread,found,hscan,p,hp,hsnapshot,_⟩ := inspect_ok_iff.mp hs
  obtain ⟨hleft,hleftle⟩ := read_left hread (fun e he => by cases he) (by decide)
  obtain ⟨hsum,hple⟩ := readCandidates_left hp hleftle
  dsimp only at hsum
  have hfiles : ((inKeyOrder found.candidates).map Prod.snd).Perm (entries.filter (isCandidate w)) := by
    have hcandidates : found.candidates.entries = candidatesOf w entries :=
      (scan_gathered hscan).candidates
    have hperm : (inKeyOrder found.candidates).Perm found.candidates.entries := List.mergeSort_perm _ _
    rw [hcandidates] at hperm
    have hsnd : (candidatesOf w entries).map Prod.snd = entries.filter (isCandidate w) := by
      rw [candidatesOf, List.map_map]
      exact List.map_id _
    exact hsnd ▸ hperm.map Prod.snd
  have hsame := (hfiles.filterMap (moduleLength w)).sum_eq
  rw [hsnapshot]
  dsimp only
  refine ⟨?_,by omega⟩
  cases hlength : moduleLength w w.path with
  | none =>
    rw [hlength, Option.getD_none] at hleft
    rw [List.filterMap_cons_none hlength]
    omega
  | some n =>
    rw [hlength, Option.getD_some] at hleft
    rw [List.filterMap_cons_some hlength, List.sum_cons]
    omega

/-- Two enumerations of a directory give the same inventory, or none. -/
theorem inspect_order_independent (h : entries.Perm entries') :
    (∀ s, inspect w entries = .ok s ↔ inspect w entries' = .ok s) ∧
    ∀ s, inspect w entries = .ok s →
      s.snapshot.chargedBytes =
        ((w.path :: entries.filter (isCandidate w)).filterMap (moduleLength w)).sum ∧
      s.snapshot.chargedBytes ≤ 256*1024*1024 :=
  ⟨fun _ => ⟨inspect_congr h,inspect_congr h.symm⟩,fun _ hs => inspect_charged hs⟩

/-- A directory with one library that cannot be opened. -/
def sampleSurroundings : Surroundings Unit where
  getFileName := id
  toLowerInvariant := id
  digest _ := []
  path := utf16 "game.exe"
  rejectReparsePath _ := .ok ()
  openFile file :=
    if file = utf16 "b.dll" then .error ⟨.io,[]⟩
    else .ok ⟨4096,fun isDll => .ok ⟨file,4096,[],isDll,0x1000,[utf16 "b.dll"],[],false,⟨false,[],0⟩,[],
      none⟩⟩

theorem inspect_order_independent_sample :
    ∃ s, inspect sampleSurroundings [utf16 "b.dll",utf16 "a.asi"] = .ok s ∧
      inspect sampleSurroundings [utf16 "a.asi",utf16 "b.dll"] = .ok s ∧
      s.snapshot.chargedBytes = 8192 := by
  obtain ⟨found,hfound,hentries⟩ : ∃ found,
      scan sampleSurroundings [utf16 "b.dll",utf16 "a.asi"] ⟨0,.empty,[]⟩ = .ok found ∧
        found.candidates.entries = [(utf16 "b.dll",utf16 "b.dll"),(utf16 "a.asi",utf16 "a.asi")] :=
    ⟨_,rfl,rfl⟩
  have horder : inKeyOrder found.candidates =
      [(utf16 "a.asi",utf16 "a.asi"),(utf16 "b.dll",utf16 "b.dll")] := by
    have hle : (utf16 "b.dll" ≤ utf16 "a.asi") = False := by decide
    simp [inKeyOrder, hentries, List.mergeSort, List.MergeSort.Internal.splitInTwo, hle]
  obtain ⟨s,hs⟩ : ∃ s, inspect sampleSurroundings [utf16 "b.dll",utf16 "a.asi"] = .ok s := by
    rw [inspect, hfound]
    simp only [bind, Except.bind]
    rw [horder]
    exact ⟨_,rfl⟩
  have hlaw := inspect_order_independent (w := sampleSurroundings)
    (List.Perm.swap (utf16 "a.asi") (utf16 "b.dll") [])
  refine ⟨s,hs,(hlaw.1 s).mp hs,?_⟩
  rw [(hlaw.2 s hs).1]
  decide

end Saex.StartupInventory
