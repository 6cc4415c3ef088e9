import Saex.Recognizers
import Saex.RegionWalks
import Saex.StoppingRuns

/-! tools/native/image_protection_probe.py: the scan of the regions of a mapped image.
The query of the system is a parameter: it answers its `i`-th call as it likes. -/
namespace Saex.ImageProtection
open RegionWalks Recognizers StoppingRuns

structure Region where
  base : ℤ
  allocation : ℤ
  bytes : ℤ
  state : ℤ
  type : ℤ
  protect : ℤ

structure RegionRow where
  rva : ℤ
  bytes : ℤ
  protect : ℤ
deriving DecidableEq

def maxImage : ℤ := 16*1024*1024
def maxRegions : ℕ := 128
def memImage : ℤ := 0x1000000
def memCommit : ℤ := 0x1000
def readWrite : ℤ := 0x40
def writeCopy : ℤ := 0x80

def admitted : List ℤ := [2,4,8,0x10,0x20,readWrite,writeCopy]

/-- How a scan ends, and how many queries it has made. -/
structure ScanRun where
  result : Except String (List RegionRow)
  queries : ℕ

/-- The checks of one region, which return its row. -/
def scanRow (base last : ℤ) (writable : Bool) (cursor : ℤ) (region : Region) :
    Except String RegionRow := do
  let start := region.base
  let length := region.bytes
  let protection := region.protect
  refuseIf (region.allocation ≠ base ∨ region.state ≠ memCommit ∨ region.type ≠ memImage ∨
    protection ∉ admitted) "image_region_identity_or_protection"
  refuseIf (writable ∧ protection ∉ [readWrite,writeCopy]) "image_not_execute_writable"
  refuseIf (start < base ∨ start > cursor ∨ length ≤ 0 ∨ start+length ≤ cursor ∨
    start+length > last) "image_region_bounds"
  return ⟨cursor-base,start+length-cursor,protection⟩

variable (query : ℕ → ℤ → Region) (base last : ℤ) (writable : Bool)

/-- The loop, with the number of rows that there is still room for and the rows so far. -/
def scanLoop : ℕ → ℤ → List RegionRow → ScanRun
  | 0, cursor, rows =>
    if cursor < last then ⟨.error "image_region_limit",rows.length⟩ else ⟨.ok rows,rows.length⟩
  | room+1, cursor, rows =>
    if cursor < last then
      match scanRow base last writable cursor (query rows.length cursor) with
      | .error e => ⟨.error e,rows.length+1⟩
      | .ok row => scanLoop room (cursor+row.bytes) (rows++[row])
    else ⟨.ok rows,rows.length⟩

def scanRegions (size : ℤ) : ScanRun :=
  if base = 0 ∨ ¬(4096 ≤ size ∧ size ≤ maxImage) ∨ size%4096 ≠ 0 then
    ⟨.error "image_scan_bounds",0⟩
  else scanLoop query base (base+size) writable maxRegions base []

/-- The addresses of a row, counted from the start of the image. -/
def RegionRow.span (row : RegionRow) : ℕ × ℕ := (row.rva.toNat,(row.rva+row.bytes).toNat)

/-- What the checks of one region ask for. -/
structure RowRules (row : RegionRow) : Prop where
  start : 0 ≤ row.rva
  nonempty : 0 < row.bytes
  protection : row.protect ∈ admitted
  writable : writable = true → row.protect ∈ [readWrite,writeCopy]

variable {query base last writable} {cursor : ℤ} {row : RegionRow} {rows result : List RegionRow}

theorem scanRow_ok {region : Region} (h : scanRow base last writable cursor region = .ok row)
    (hcursor : base ≤ cursor) :
    RowRules writable row ∧ row.rva = cursor-base ∧ cursor+row.bytes ≤ last := by
  simp only [scanRow, bind_ok_iff, refuseIf_ok_iff, exists_const, not_or, not_not, not_and] at h
  obtain ⟨⟨_,_,_,hprotection⟩,hwritable,⟨_,_,_,hprogress,hend⟩,heq⟩ := h
  cases heq
  dsimp only
  exact ⟨⟨by dsimp only; omega,by dsimp only; omega,hprotection,hwritable⟩,rfl,by omega⟩

theorem scanLoop_queries (room : ℕ) (cursor : ℤ) (rows : List RegionRow) :
    (scanLoop query base last writable room cursor rows).queries ≤ rows.length+room := by
  induction room generalizing cursor rows with
  | zero =>
    rw [scanLoop]
    split <;> exact le_rfl
  | succ room ih =>
    rw [scanLoop]
    split
    · cases scanRow base last writable cursor (query rows.length cursor) with
      | error e =>
        dsimp only
        omega
      | ok row =>
        have hrest := ih (cursor+row.bytes) (rows++[row])
        rw [List.length_append, List.length_singleton] at hrest
        dsimp only
        omega
    · dsimp only
      omega

/-- The rows that are added follow on each other from the cursor to the end. -/
theorem scanLoop_ok (room : ℕ) (hcursor : base ≤ cursor) (hlast : cursor ≤ last)
    (h : (scanLoop query base last writable room cursor rows).result = .ok result) :
    ∃ added, result = rows++added ∧ (∀ row ∈ added, RowRules writable row) ∧
      Consecutive (cursor-base).toNat (last-base).toNat (added.map RegionRow.span) := by
  have hdone (cursor : ℤ) (rows : List RegionRow) (hlast : cursor ≤ last) (hnot : ¬cursor < last) :
      ∃ added, rows = rows++added ∧ (∀ row ∈ added, RowRules writable row) ∧
        Consecutive (cursor-base).toNat (last-base).toNat (added.map RegionRow.span) := by
    have heq : cursor = last := by omega
    refine ⟨[],(List.append_nil _).symm,fun _ hrow => (List.not_mem_nil hrow).elim,?_⟩
    rw [heq]
    exact .nil _
  induction room generalizing cursor rows with
  | zero =>
    rw [scanLoop] at h
    split at h
    · cases h
    · rename_i hnot
      cases h
      exact hdone _ _ hlast hnot
  | succ room ih =>
    rw [scanLoop] at h
    split at h
    · rename_i hlt
      cases hrow : scanRow base last writable cursor (query rows.length cursor) with
      | error e =>
        rw [hrow] at h
        cases h
      | ok row =>
        rw [hrow] at h
        obtain ⟨hrules,hrva,hend⟩ := scanRow_ok hrow hcursor
        have hpositive := hrules.nonempty
        obtain ⟨added,rfl,hadded,htail⟩ := ih (by omega) hend h
        refine ⟨row :: added,?_,List.forall_mem_cons.mpr ⟨hrules,hadded⟩,?_⟩
        · rw [List.append_assoc, List.singleton_append]
        · have hspan : row.span = ((cursor-base).toNat,(cursor+row.bytes-base).toNat) := by
            rw [RegionRow.span, hrva]
            congr 2
            omega
          rw [List.map_cons, hspan]
          exact .cons (by omega) htail
    · rename_i hnot
      cases h
      exact hdone _ _ hlast hnot

/-- With `writable` only the two protections that are writable and executable are admitted. -/
theorem scan_regions_tile (query : ℕ → ℤ → Region) (base size : ℤ) (writable : Bool) :
    (scanRegions query base writable size).queries ≤ 128 ∧
    ∀ rows, (scanRegions query base writable size).result = .ok rows →
      (∃ row, rows.head? = some row ∧ row.rva = 0) ∧
      rows.IsChain (fun row next => next.rva = row.rva+row.bytes) ∧
      (∃ row, rows.getLast? = some row ∧ row.rva+row.bytes = size) ∧
      (∀ row ∈ rows, 0 < row.bytes ∧ row.protect ∈ [2,4,8,0x10,0x20,0x40,0x80] ∧
        (writable = true → row.protect ∈ [0x40,0x80])) ∧
      ∀ rva, 0 ≤ rva → rva < size →
        rows.countP (fun row => decide (row.rva ≤ rva ∧ rva < row.rva+row.bytes)) = 1 := by
  constructor
  · rw [scanRegions]
    split
    · exact Nat.zero_le _
    · exact scanLoop_queries _ _ _
  intro rows h
  rw [scanRegions] at h
  split at h
  · cases h
  rename_i hbounds
  have hsize : 4096 ≤ size := by
    by_contra hnot
    exact hbounds (.inr (.inl fun hle => hnot hle.1))
  obtain ⟨_,rfl,hrules,hcover⟩ := scanLoop_ok _ (Int.le_refl base) (by omega) h
  have hends : (base-base).toNat = 0 ∧ (base+size-base).toNat = size.toNat := by omega
  rw [hends.1, hends.2] at hcover
  have hne : rows ≠ [] := fun hnil => hcover.ne_nil (by omega) (by rw [hnil]; rfl)
  -- The addresses of a row as integers and as naturals.
  have hspan (row : RegionRow) (hrow : row ∈ rows) :
      (row.span.1 : ℤ) = row.rva ∧ (row.span.2 : ℤ) = row.rva+row.bytes := by
    obtain ⟨hstart,hpositive,_,_⟩ := hrules row hrow
    exact ⟨Int.toNat_of_nonneg hstart,Int.toNat_of_nonneg (by omega)⟩
  refine ⟨⟨rows.head hne,List.head?_eq_some_head hne,?_⟩,?_,
    ⟨rows.getLast hne,List.getLast?_eq_some_getLast hne,?_⟩,fun row hrow => ?_,fun rva hlow hhigh => ?_⟩
  · have hhead := hcover.head_fst (s := (rows.head hne).span)
      (by rw [List.head?_map, List.head?_eq_some_head hne]; rfl)
    have hstart := (hspan _ (List.head_mem hne)).1
    omega
  · have hchain := (List.isChain_map RegionRow.span).mp hcover.isChain
    refine List.IsChain.imp_of_mem_imp ?_ hchain
    intro row next hrow hnext heq
    have hend := (hspan row hrow).2
    have hstart := (hspan next hnext).1
    omega
  · have hlast := hcover.getLast_snd (s := (rows.getLast hne).span)
      (by rw [List.getLast?_map, List.getLast?_eq_some_getLast hne]; rfl)
    have hend := (hspan _ (List.getLast_mem hne)).2
    omega
  · obtain ⟨_,hpositive,hprotection,hwritable⟩ := hrules row hrow
    exact ⟨hpositive,hprotection,hwritable⟩
  · have hone := hcover.countP_eq_one (x := rva.toNat) (Nat.zero_le _) (by omega)
    rw [List.countP_map] at hone
    rw [← hone]
    refine List.countP_congr fun row hrow => ?_
    obtain ⟨hstart,hend⟩ := hspan row hrow
    simp only [Function.comp_apply, decide_eq_true_eq]
    omega

/-- An image whose first page cannot be written and whose second one can. -/
def twoRegions (_ : ℕ) (cursor : ℤ) : Region :=
  ⟨cursor,0x10000,0x1000,memCommit,memImage,if cursor = 0x10000 then 0x20 else readWrite⟩

theorem scan_regions_tile_two :
    (scanRegions twoRegions 0x10000 false 0x2000).result =
        .ok [⟨0,0x1000,0x20⟩,⟨0x1000,0x1000,0x40⟩] ∧
      ∀ rva, 0 ≤ rva → rva < 0x2000 → [(⟨0,0x1000,0x20⟩ : RegionRow),⟨0x1000,0x1000,0x40⟩].countP
        (fun row => decide (row.rva ≤ rva ∧ rva < row.rva+row.bytes)) = 1 := by
  have hscan : (scanRegions twoRegions 0x10000 false 0x2000).result =
      .ok [⟨0,0x1000,0x20⟩,⟨0x1000,0x1000,0x40⟩] := by decide
  exact ⟨hscan,((scan_regions_tile twoRegions 0x10000 0x2000 false).2 _ hscan).2.2.2.2⟩

/-- Without `writable` a region that is writable and executable is admitted all the same. -/
theorem scan_regions_admits_writable_unasked :
    ¬∀ (query : ℕ → ℤ → Region) (base size : ℤ) (writable : Bool) (rows : List RegionRow),
      (scanRegions query base writable size).result = .ok rows →
        ∀ row ∈ rows, row.protect ∈ [0x40,0x80] → writable = true := by
  intro hall
  have hscan : (scanRegions (fun _ _ => ⟨0x10000,0x10000,0x1000,memCommit,memImage,readWrite⟩)
      0x10000 false 0x1000).result = .ok [⟨0,0x1000,0x40⟩] := by decide
  exact Bool.false_ne_true (hall _ _ _ _ _ hscan _ List.mem_cons_self (by decide))

end Saex.ImageProtection
