import Saex.FileManagerReady
import Mathlib.Tactic.IntervalCases

/-! The path of the current directory in the buffers on its way: what the system returns, what the
helper copies and what the file manager appends. -/
namespace Saex

/-! Loops that read a byte in every round. -/

section Loops
variable {A : Type} {count n : ℕ}

/-- `List.mapM` over the first indices. -/
theorem mapM_range {f : ℕ → Option A} {g : ℕ → A} (h : ∀ i < count, f i = some (g i)) :
    (List.range count).mapM f = some ((List.range count).map g) := by
  induction count with
  | zero => rfl
  | succ count ih =>
    rw [List.range_succ, List.mapM_append, ih fun i hi => h i (Nat.lt_succ_of_lt hi), List.map_append]
    simp [h count (Nat.lt_succ_self count)]

theorem allM_eq_all {xs : List ℕ} {f : ℕ → Option Bool} {g : ℕ → Bool} (h : ∀ i ∈ xs, f i = some (g i)) :
    xs.allM f = some (xs.all g) := by
  induction xs with
  | nil => rfl
  | cons x xs ih =>
    obtain ⟨hx,hxs⟩ := List.forall_mem_cons.mp h
    rw [List.allM_cons, hx, List.all_cons]
    cases g x with
    | true => exact ih hxs
    | false => rfl

theorem anyM_eq_any {xs : List ℕ} {f : ℕ → Option Bool} {g : ℕ → Bool} (h : ∀ i ∈ xs, f i = some (g i)) :
    xs.anyM f = some (xs.any g) := by
  induction xs with
  | nil => rfl
  | cons x xs ih =>
    obtain ⟨hx,hxs⟩ := List.forall_mem_cons.mp h
    rw [List.anyM_cons, hx, List.any_cons]
    cases g x with
    | true => rfl
    | false => exact ih hxs

theorem firstBytes_eq (bytes : Vector UInt8 n) (h : count ≤ n) :
    firstBytes count bytes = some (bytes.toList.take count) := by
  have hread (i : ℕ) (hi : i < count) : bytes[i]? = some (bytes.toList.getD i 0) := by
    rw [List.getD_eq_getElem _ _ (by simp; omega), Vector.getElem_toList]
    exact Vector.getElem?_eq_getElem (by omega)
  rw [firstBytes, mapM_range hread]
  congr 1
  refine List.ext_getElem (by simp; omega) fun i h1 h2 => ?_
  have hi : i < count := by simpa using h1
  rw [List.getElem_map, List.getElem_range, List.getElem_take, List.getD_eq_getElem]

end Loops

variable {length : BitVec 32} {source : Vector UInt8 260} {expected : List UInt8}
  {before mid after : DirectoryWindow}
/-! The three checks in terms of whole buffers. -/

theorem three_le_of_cwdQueryDirectory (h : cwdQueryDirectory expected) : 3 ≤ expected.length := by
  match expected with
  | _ :: _ :: _ :: _ => simp
  | [] => cases h
  | [_] => cases h
  | [_,_] => cases h

theorem cwdQueryResult_isSome (length : BitVec 32) (source : Vector UInt8 260) (expected : List UInt8) :
    (cwdQueryResult length source expected).isSome := by
  rw [cwdQueryResult]
  split
  · rfl
  split
  · rfl
  split
  · rfl
  rename_i hshort
  have hlt : length.toNat < 260 := by bv_omega
  rw [Vector.getElem?_eq_getElem hlt, firstBytes_eq _ (Nat.le_of_lt hlt)]
  simp only [Option.bind_eq_bind, Option.bind_some]
  repeat' split
  all_goals rfl

/-- What no refusal says. -/
theorem of_cwdQueryResult (h : cwdQueryResult length source expected = some "") :
    3 ≤ length ∧ length ≤ 126 ∧ expected.length = length.toNat ∧
      source.toList.take (length.toNat+1) = expected++[0] ∧ 0 ∉ expected := by
  rw [cwdQueryResult] at h
  split at h
  · simp at h
  rename_i hdirectory
  split at h
  · simp at h
  split at h
  · simp at h
  rename_i hshort
  have hlt : length.toNat < 260 := by bv_omega
  rw [Vector.getElem?_eq_getElem hlt, firstBytes_eq _ (Nat.le_of_lt hlt)] at h
  simp only [Option.bind_eq_bind, Option.bind_some] at h
  split at h
  · simp at h
  rename_i hends
  split at h
  · simp at h
  split at h
  · simp at h
  rename_i hequal
  split at h
  · simp at h
  rename_i hfits
  simp only [ne_eq, not_not] at hequal
  simp only [Bool.or_eq_true, decide_eq_true_eq, not_or, not_not, List.contains_iff_mem, hequal] at hends
  have hlength : expected.length = length.toNat := by
    rw [← hequal, List.length_take, Vector.length_toList]
    omega
  have hthree := three_le_of_cwdQueryDirectory (by simpa using hdirectory)
  refine ⟨by bv_omega,BitVec.not_lt.mp hfits,hlength,?_,hends.2⟩
  rw [← List.take_concat_get' _ _ (by simpa using hlt), hequal]
  simpa using hends.1

/-- What the copier leaves in the window. -/
def copiedWindow (before : DirectoryWindow) (source : Vector UInt8 260) (length : BitVec 32) :
    DirectoryWindow :=
  LittleEndian.splice 4 (source.toList.take (length.toNat+1)) before

/-- What the file manager leaves in it. -/
def suffixedWindow (before : DirectoryWindow) (length : BitVec 32) : DirectoryWindow :=
  LittleEndian.splice (length.toNat+4) [0x5c,0] before

theorem copiedByte_eq (hhigh : length ≤ 126) (copied : Bool) {i : ℕ} (hi : i < 136) :
    copiedByte before source length copied i =
      some ((if copied then copiedWindow before source length else before)[i]) := by
  have hn : length.toNat ≤ 126 := by bv_omega
  cases copied with
  | false => exact Vector.getElem?_eq_getElem hi
  | true =>
    simp only [copiedByte, copiedWindow, Bool.true_and, if_true, LittleEndian.getElem_splice]
    by_cases hplace : 4 ≤ i ∧ i-4 ≤ length.toNat
    · rw [if_pos (by simpa using hplace), if_pos hplace.1, List.getD_eq_getElem _ _ (by simp; omega),
        List.getElem_take, Vector.getElem_toList]
      exact Vector.getElem?_eq_getElem (by omega)
    · rw [if_neg (by simpa using hplace), Vector.getElem?_eq_getElem hi]
      split
      · rw [List.getD_eq_default _ _ (by simp; omega)]
      · rfl

theorem vector_eq_iff_all {A : Type} [DecidableEq A] [Inhabited A] {n : ℕ} (v w : Vector A n) :
    ((List.range n).all fun i => v.toList.getD i default = w.toList.getD i default) = decide (v = w) := by
  rw [Bool.eq_iff_iff, List.all_eq_true, decide_eq_true_eq]
  constructor
  · intro h
    refine Vector.ext fun i hi => ?_
    have hget := h i (List.mem_range.mpr hi)
    rw [decide_eq_true_eq, List.getD_eq_getElem _ _ (by simpa using hi),
      List.getD_eq_getElem _ _ (by simpa using hi)] at hget
    simpa using hget
  · intro h i _
    rw [h, decide_eq_true_eq]

theorem cwdCopyBuffer_eq (hlow : 3 ≤ length) (hhigh : length ≤ 126) (copied : Bool) :
    cwdCopyBuffer before after source length copied =
      some (source.toList.getD length.toNat 0 = 0 && !(source.toList.take length.toNat).contains 0 &&
        after = if copied then copiedWindow before source length else before) := by
  have hn : length.toNat ≤ 126 := by bv_omega
  have hguard : ¬(decide (length < 3) || decide (length > 126)) = true := by
    simp only [Bool.or_eq_true, decide_eq_true_eq]
    bv_omega
  have hlast : source[length.toNat]? = some (source.toList.getD length.toNat 0) := by
    rw [List.getD_eq_getElem _ _ (by simp; omega), Vector.getElem_toList]
    exact Vector.getElem?_eq_getElem (by omega)
  have hround (i : ℕ) (hi : i ∈ List.range 136) : (do
      return (← after[i]?) = (← copiedByte before source length copied i) : Option Bool) =
        some (decide (after.toList.getD i default =
          (if copied then copiedWindow before source length else before).toList.getD i default)) := by
    have hi : i < 136 := List.mem_range.mp hi
    rw [Vector.getElem?_eq_getElem hi, copiedByte_eq hhigh copied hi,
      List.getD_eq_getElem _ _ (by simpa using hi), List.getD_eq_getElem _ _ (by simpa using hi)]
    simp
  rw [cwdCopyBuffer, if_neg hguard, hlast, firstBytes_eq _ (by omega), allM_eq_all hround,
    vector_eq_iff_all]
  simp only [Option.bind_eq_bind, Option.bind_some]
  generalize source.toList.getD length.toNat 0 = last, (source.toList.take length.toNat).contains 0 = ends
  by_cases hzero : last = 0 <;> cases ends <;> simp [hzero]

theorem cwdCopyBuffer_isSome (before after : DirectoryWindow) (source : Vector UInt8 260)
    (length : BitVec 32) (copied : Bool) :
    (cwdCopyBuffer before after source length copied).isSome := by
  by_cases h : 3 ≤ length ∧ length ≤ 126
  · rw [cwdCopyBuffer_eq h.1 h.2]
    rfl
  · have hguard : (decide (length < 3) || decide (length > 126)) = true := by
      simp only [Bool.or_eq_true, decide_eq_true_eq]
      bv_omega
    rw [cwdCopyBuffer, if_pos hguard]
    rfl

/-- Two parts, the second behind the first one. -/
theorem splice_splice {n : ℕ} (k : ℕ) (xs ys : List UInt8) (v : Vector UInt8 n) :
    LittleEndian.splice (k+xs.length) ys (LittleEndian.splice k xs v) =
      LittleEndian.splice k (xs++ys) v := by
  refine Vector.ext fun i hi => ?_
  simp only [LittleEndian.getElem_splice]
  by_cases hsecond : k+xs.length ≤ i
  · rw [if_pos hsecond, if_pos (by omega), if_pos (by omega), List.getD_append_right _ _ _ _ (by omega),
      List.getD_eq_default xs _ (by omega), Nat.sub_sub]
  · rw [if_neg hsecond]
    split
    · rw [List.getD_append _ _ _ _ (by omega)]
    · rfl

theorem setAt_eq {n i : ℕ} {values : Vector UInt8 n} {x : UInt8} (h : i < n) :
    setAt values i x = some (LittleEndian.splice i [x] values) := by
  rw [setAt, dif_pos h]
  congr 1
  refine Vector.ext fun j hj => ?_
  rw [Vector.getElem_set, LittleEndian.getElem_splice]
  by_cases hlt : j < i
  · rw [if_neg (by omega), if_neg (by omega)]
  · rw [if_pos (not_lt.mp hlt)]
    by_cases heq : i = j
    · subst heq
      simp
    · rw [if_neg heq, List.getD_eq_default _ _ (by simp; omega)]

theorem fileManagerReadyBuffer_eq (hlow : 3 ≤ length) (hhigh : length ≤ 126) (written : Bool) :
    fileManagerReadyBuffer before after length written =
      some (before.toList.getD (length.toNat+4) 0 = 0 &&
        !((before.toList.drop 4).take length.toNat).contains 0 &&
        after = if written then suffixedWindow before length else before) := by
  have hn : length.toNat ≤ 126 := by bv_omega
  have hfour : (length+4).toNat = length.toNat+4 := by bv_omega
  have hfive : (length+5).toNat = length.toNat+5 := by bv_omega
  have hguard : ¬(decide (length < 3) || decide (length > 126)) = true := by
    simp only [Bool.or_eq_true, decide_eq_true_eq]
    bv_omega
  have hlast : before[length.toNat+4]? = some (before.toList.getD (length.toNat+4) 0) := by
    rw [List.getD_eq_getElem _ _ (by simp; omega), Vector.getElem_toList]
    exact Vector.getElem?_eq_getElem (by omega)
  have hround (i : ℕ) (hi : i ∈ List.range length.toNat) :
      (do return (← before[i+4]?) = 0 : Option Bool) =
        some (decide (before.toList.getD (i+4) 0 = 0)) := by
    have hi : i < length.toNat := List.mem_range.mp hi
    rw [Vector.getElem?_eq_getElem (by omega), List.getD_eq_getElem _ _ (by simp; omega)]
    simp
  have hends : ((List.range length.toNat).any fun i => decide (before.toList.getD (i+4) 0 = 0)) =
      ((before.toList.drop 4).take length.toNat).contains 0 := by
    rw [Bool.eq_iff_iff, List.any_eq_true, List.contains_iff_mem, List.mem_iff_getElem]
    have hget (i : ℕ) (hi : i < ((before.toList.drop 4).take length.toNat).length) :
        ((before.toList.drop 4).take length.toNat)[i] = before.toList.getD (i+4) 0 := by
      simp only [List.length_take, List.length_drop, Vector.length_toList] at hi
      rw [List.getElem_take, List.getElem_drop, List.getD_eq_getElem _ _ (by simp; omega)]
      simp only [add_comm 4 i]
    constructor
    · intro h
      obtain ⟨i,hi,hzero⟩ := h
      have hi : i < length.toNat := List.mem_range.mp hi
      have hbound : i < ((before.toList.drop 4).take length.toNat).length := by
        simp only [List.length_take, List.length_drop, Vector.length_toList]
        omega
      exact ⟨i,hbound,(hget i hbound).trans (of_decide_eq_true hzero)⟩
    · intro h
      obtain ⟨i,hi,hzero⟩ := h
      have hbound : i < length.toNat := by
        simp only [List.length_take] at hi
        omega
      exact ⟨i,List.mem_range.mpr hbound,decide_eq_true ((hget i hi).symm.trans hzero)⟩
  have hsuffix : LittleEndian.splice (length.toNat+5) [0] (LittleEndian.splice (length.toNat+4) [0x5c] before) =
      suffixedWindow before length := splice_splice _ [0x5c] [0] _
  rw [fileManagerReadyBuffer, if_neg hguard, hfour, hfive, hlast, anyM_eq_any hround, hends,
    setAt_eq (by omega)]
  simp only [Option.bind_eq_bind, Option.bind_some, setAt_eq (show length.toNat+5 < 136 by omega), hsuffix]
  generalize before.toList.getD (length.toNat+4) 0 = last,
    ((before.toList.drop 4).take length.toNat).contains 0 = ends
  by_cases hzero : last = 0 <;> cases ends <;> cases written <;> simp [hzero]

theorem fileManagerReadyBuffer_isSome (before after : DirectoryWindow) (length : BitVec 32)
    (written : Bool) : (fileManagerReadyBuffer before after length written).isSome := by
  by_cases h : 3 ≤ length ∧ length ≤ 126
  · rw [fileManagerReadyBuffer_eq h.1 h.2]
    rfl
  · have hguard : (decide (length < 3) || decide (length > 126)) = true := by
      simp only [Bool.or_eq_true, decide_eq_true_eq]
      bv_omega
    rw [fileManagerReadyBuffer, if_pos hguard]
    rfl

/-! The path in the buffer of the file manager. -/

/-- The buffer with the path, a backslash and a NUL from its fifth byte on. -/
def directoryBytes (before : DirectoryWindow) (path : List UInt8) : List UInt8 :=
  before.toList.take 4++(path++[0x5c,0]++before.toList.drop (6+path.length))

/-- What the copier has left is what the file manager asks for. -/
theorem suffixedWindow_copiedWindow (hlength : expected.length = length.toNat) (hfits : expected.length ≤ 126)
    (hsource : source.toList.take (length.toNat+1) = expected++[0]) :
    (suffixedWindow (copiedWindow before source length) length).toList = directoryBytes before expected ∧
      (copiedWindow before source length).toList.getD (length.toNat+4) 0 = 0 ∧
      ((copiedWindow before source length).toList.drop 4).take length.toNat = expected := by
  have hcopied : (copiedWindow before source length).toList =
      before.toList.take 4++(expected++([0]++before.toList.drop (5+expected.length))) := by
    rw [copiedWindow, hsource, LittleEndian.toList_spliced (by simp; omega)]
    simp [add_comm]
  have hfour : (before.toList.take 4).length = 4 := by simp
  rw [← hlength, hcopied]
  refine ⟨?_,?_,?_⟩
  · have htake : (copiedWindow before source length).toList.take (expected.length+4) =
        before.toList.take 4++expected := by
      rw [hcopied, ← List.append_assoc]
      exact List.take_left' (by rw [List.length_append, hfour, add_comm])
    have hdrop : (copiedWindow before source length).toList.drop (expected.length+4+2) =
        before.toList.drop (6+expected.length) := by
      have hfront : (before.toList.take 4++(expected++[0])).length = expected.length+5 := by
        simp only [List.length_append, hfour, List.length_singleton]
        omega
      have hsplit : (copiedWindow before source length).toList =
          before.toList.take 4++(expected++[0])++before.toList.drop (5+expected.length) := by
        rw [hcopied, List.append_assoc, List.append_assoc]
      rw [hsplit, List.drop_append, List.drop_eq_nil_of_le (by omega), List.nil_append, hfront, List.drop_drop,
        show 5+expected.length+(expected.length+4+2-(expected.length+5)) = 6+expected.length by omega]
    rw [suffixedWindow, LittleEndian.toList_spliced (by simp; omega), ← hlength, htake, directoryBytes]
    simp [hdrop]
  · rw [List.getD_append_right _ _ _ _ (by omega), List.getD_append_right _ _ _ _ (by omega),
      show expected.length+4-(before.toList.take 4).length-expected.length = 0 by omega]
    rfl
  · rw [List.drop_append_of_le_length (by omega), List.drop_eq_nil_of_le (by omega), List.nil_append,
      List.take_left]

/-- A path that may be expected has no NUL. -/
theorem not_mem_of_cwdQueryDirectory (h : cwdQueryDirectory expected) : 0 ∉ expected := by
  have hall : ∀ x ∈ expected.zipIdx, cwdQueryCharacter x.2 x.1 := by
    unfold cwdQueryDirectory at h
    split at h
    · simp only [Bool.and_eq_true] at h
      exact List.all_eq_true.mp h.2
    · cases h
  intro hmem
  obtain ⟨i,hi,hzero⟩ := List.mem_iff_getElem.mp hmem
  have hbad := hall (expected[i],i) (by simp [List.mem_zipIdx_iff_getElem?])
  rw [hzero] at hbad
  simp [cwdQueryCharacter] at hbad

/-- The system returns a path with zeros behind it. -/
theorem cwdQueryResult_padded (hdirectory : cwdQueryDirectory expected) (hfits : expected.length ≤ 126) :
    cwdQueryResult (BitVec.ofNat 32 expected.length)
      (LittleEndian.splice 0 expected (.replicate 260 0)) expected = some "" := by
  have hn : (BitVec.ofNat 32 expected.length).toNat = expected.length := by
    rw [BitVec.toNat_ofNat]
    omega
  have hthree := three_le_of_cwdQueryDirectory hdirectory
  have hbytes : (LittleEndian.splice 0 expected (.replicate 260 0)).toList =
      expected++List.replicate (260-expected.length) 0 := by
    rw [LittleEndian.toList_spliced (by omega), List.take_zero, List.nil_append, Vector.toList_replicate,
      List.drop_replicate, Nat.zero_add]
  have hlast : (LittleEndian.splice 0 expected (.replicate 260 0))[expected.length]? = some 0 := by
    rw [Vector.getElem?_eq_getElem (by omega), LittleEndian.getElem_splice, if_pos (Nat.zero_le _),
      List.getD_eq_default _ _ (by omega), Vector.getElem_replicate]
  have hpath : ((LittleEndian.splice 0 expected (.replicate 260 0)).toList.take expected.length) = expected := by
    rw [hbytes, List.take_left]
  rw [cwdQueryResult, if_neg (by simp [hdirectory]), if_neg (by bv_omega), if_neg (by bv_omega), hn, hlast,
    firstBytes_eq _ (by omega), hpath]
  simp only [Option.bind_eq_bind, Option.bind_some]
  rw [if_neg, if_neg, if_neg, if_neg]
  · rfl
  · bv_omega
  · simp
  · simp [hdirectory]
  · simpa using not_mem_of_cwdQueryDirectory hdirectory

theorem directory_fits (length : BitVec 32) (source : Vector UInt8 260) (expected : List UInt8)
    (before : DirectoryWindow) :
    -- No index is out of its array, whatever is checked.
    (cwdQueryResult length source expected).isSome ∧
    (∀ before after copied, (cwdCopyBuffer before after source length copied).isSome) ∧
    (∀ before after written, (fileManagerReadyBuffer before after length written).isSome) ∧
    -- A path that may be expected is accepted from some array.
    (cwdQueryDirectory expected → expected.length ≤ 126 → ∃ length source,
      cwdQueryResult length source expected = some "") ∧
    (cwdQueryResult length source expected = some "" →
      6+expected.length ≤ 132 ∧ expected.length = length.toNat ∧
      (∀ mid after, cwdCopyBuffer before mid source length true = some true →
        fileManagerReadyBuffer mid after length true = some true →
          after.toList = directoryBytes before expected) ∧
      ∃ mid after, cwdCopyBuffer before mid source length true = some true ∧
        fileManagerReadyBuffer mid after length true = some true) := by
  refine ⟨cwdQueryResult_isSome length source expected,fun before after copied =>
    cwdCopyBuffer_isSome before after source length copied,fun before after written =>
    fileManagerReadyBuffer_isSome before after length written,?_,fun haccepted => ?_⟩
  · intro hdirectory hfits
    exact ⟨_,_,cwdQueryResult_padded hdirectory hfits⟩
  obtain ⟨hlow,hhigh,hlength,hsource,hends⟩ := of_cwdQueryResult haccepted
  have hfits : expected.length ≤ 126 := by bv_omega
  obtain ⟨hdirectory,hlast,hpath⟩ := @suffixedWindow_copiedWindow length source expected before hlength hfits hsource
  refine ⟨by omega,hlength,fun mid after hcopy hready => ?_,copiedWindow before source length,
    suffixedWindow (copiedWindow before source length) length,?_,?_⟩
  · rw [cwdCopyBuffer_eq hlow hhigh, Option.some_inj, Bool.and_eq_true, decide_eq_true_eq] at hcopy
    rw [fileManagerReadyBuffer_eq hlow hhigh, Option.some_inj, Bool.and_eq_true, decide_eq_true_eq] at hready
    rw [hready.2, if_pos rfl, hcopy.2, if_pos rfl]
    exact hdirectory
  · have htake : source.toList.take length.toNat = expected := by
      have hfirst := congrArg (List.take length.toNat) hsource
      rwa [List.take_take, min_eq_left (Nat.le_succ _), List.take_left' hlength] at hfirst
    have hnul : source.toList.getD length.toNat 0 = 0 := by
      have hget := congrArg (fun bs => bs.getD length.toNat 0) hsource
      simp only [List.getD_eq_getElem?_getD, List.getElem?_take_of_lt (Nat.lt_succ_self _)] at hget
      rw [List.getD_eq_getElem?_getD, hget, ← hlength]
      simp
    rw [cwdCopyBuffer_eq hlow hhigh, htake, hnul]
    simpa using hends
  · rw [fileManagerReadyBuffer_eq hlow hhigh, hlast, hpath]
    simpa using hends

/-- `C:\GTA`, in a buffer that was full of other bytes. -/
theorem directory_fits_in_buffer : ∃ mid after : DirectoryWindow,
    cwdCopyBuffer (.replicate 136 0xa7) mid
      (LittleEndian.splice 0 [0x43,0x3a,0x5c,0x47,0x54,0x41] (.replicate 260 0)) 6 true = some true ∧
    fileManagerReadyBuffer mid after 6 true = some true ∧
    after.toList = directoryBytes (.replicate 136 0xa7) [0x43,0x3a,0x5c,0x47,0x54,0x41] := by
  have hfits := directory_fits 6
    (LittleEndian.splice 0 [0x43,0x3a,0x5c,0x47,0x54,0x41] (.replicate 260 0))
    [0x43,0x3a,0x5c,0x47,0x54,0x41] (.replicate 136 0xa7)
  obtain ⟨_,_,hunique,mid,after,hcopy,hready⟩ := hfits.2.2.2.2 (by decide +kernel)
  exact ⟨mid,after,hcopy,hready,hunique mid after hcopy hready⟩

end Saex
