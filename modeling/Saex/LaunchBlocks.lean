import Mathlib.Algebra.BigOperators.Group.List.Basic
import Saex.LaunchContext
import Saex.StoppingRuns
import Saex.TerminatedStrings

/-! The environment block of a launch: which entries are taken, what the block holds,
and that it does not depend on the order they come in. -/
namespace Saex.LaunchContext
open Recognizers StoppingRuns StrictSorts TerminatedStrings

/-- `CompareStringOrdinal` orders all strings: 1, 2 and 3 are less, equal and greater. -/
structure OrdinalOrder (compare : Wide → Wide → ℕ) : Prop where
  range : ∀ a b, compare a b = 1 ∨ compare a b = 2 ∨ compare a b = 3
  swap : ∀ a b, compare a b = 1 ↔ compare b a = 3
  trans : ∀ a b c, compare a b ≠ 3 → compare b c ≠ 3 → compare a c ≠ 3

namespace OrdinalOrder
variable {compare : Wide → Wide → ℕ} (h : OrdinalOrder compare)
include h

theorem equal_symm {a b : Wide} (hab : compare a b = 2) : compare b a = 2 := by
  have hrange := h.range b a
  have hless := h.swap b a
  have hgreater := h.swap a b
  omega

theorem ne_equal_iff (a b : Wide) : compare a b ≠ 2 ↔ compare a b = 1 ∨ compare b a = 1 := by
  have hrange := h.range a b
  have hswap := h.swap b a
  omega

/-- `before` as a relation: what a comparator of the C++ library has to be. -/
theorem strictWeak (f : Wide → Wide) : StrictWeak fun a b => compare (f a) (f b) = 1 where
  irrefl a ha := by
    have hswap := h.swap (f a) (f a)
    omega
  trans a b c hab hbc := by
    have hb : compare (f a) (f b) ≠ 3 := by omega
    have hcb : compare (f c) (f b) = 3 := (h.swap _ _).mp hbc
    by_contra hac
    have hca : compare (f c) (f a) ≠ 3 := mt (h.swap _ _).mpr hac
    exact h.trans _ _ _ hca hb hcb
  gap a b c hab hbc hac := by
    have hba : compare (f b) (f a) ≠ 3 := mt (h.swap _ _).mpr hab
    have hcb : compare (f c) (f b) ≠ 3 := mt (h.swap _ _).mpr hbc
    exact h.trans _ _ _ hcb hba ((h.swap _ _).mp hac)

end OrdinalOrder

/-- What the entries take up in the block. -/
def terminatedLength (entries : List Wide) : ℕ := (entries.map fun e => e.length+1).sum

def blockLength (entries : List Wide) : ℕ :=
  if entries.isEmpty then 2 else 1+terminatedLength entries

/-- Where `countUnits` starts. -/
def firstUnits (entries : List Wide) : ℕ := if entries.isEmpty then 2 else 1

structure Acceptable (host : LaunchHost) (entries : List Wide) : Prop where
  count : entries.length ≤ maxEnvironmentEntries
  valid : ∀ e ∈ entries, validEntry e
  length : blockLength entries ≤ maxEnvironmentUnits
  distinct : entries.Pairwise fun a b => host.compareStringOrdinal (key a) (key b) ≠ equal

structure Canonical (host : LaunchHost) (entries : List Wide) (e : EnvironmentBlock) : Prop where
  units : e.units = e.block.length
  length : e.block.length = blockLength entries
  lossless : (split 0 [] e.block).Perm entries
  ordered : (split 0 [] e.block).Pairwise fun a b =>
    host.compareStringOrdinal (key a) (key b) = lessThan

def environmentErrors : List String :=
  ["launch_environment_limit","launch_environment_entry","launch_environment_duplicate"]

theorem blockLength_eq (entries : List Wide) :
    blockLength entries = firstUnits entries+terminatedLength entries := by
  unfold blockLength firstUnits
  cases entries with
  | nil => rfl
  | cons e rest => rfl

theorem blockLength_perm {xs ys : List Wide} (h : xs.Perm ys) : blockLength xs = blockLength ys := by
  unfold blockLength terminatedLength
  rw [h.isEmpty_eq, (h.map _).sum_eq]

theorem length_of_valid {e : Wide} (h : validEntry e) : e.length ≤ 32767 := by
  unfold validEntry at h
  split at h
  · cases h
  · rename_i hshape
    simp only [Bool.or_eq_true, decide_eq_true_eq, not_or] at hshape
    omega

/-- A valid entry is found again in the block. -/
theorem plain_of_valid {e : Wide} (h : validEntry e) : Plain 0 e := by
  unfold validEntry at h
  split at h
  · cases h
  · rename_i hshape
    simp only [Bool.or_eq_true, decide_eq_true_eq, not_or, List.isEmpty_iff,
      List.contains_iff_mem] at hshape
    exact ⟨hshape.1.1,hshape.2⟩

theorem difference_eq (t : Target) {a b : ℕ} (hb : b ≤ a) (ha : a < 2^32) :
    t.difference a b = a-b := by
  have hw := t.le_words
  unfold Target.difference
  rw [Nat.mod_eq_of_lt (by omega : b < t.words), show a+(t.words-b) = (a-b)+t.words by omega,
    Nat.add_mod_right, Nat.mod_eq_of_lt (by omega)]

/-- The budget is never exceeded, so that no sum and no difference wraps. -/
theorem countUnits_recognizes (t : Target) {units : ℕ} (hunits : units ≤ maxEnvironmentUnits)
    (entries : List Wide) :
    Recognizes (· ∈ environmentErrors) (countUnits t units entries)
      ((∀ e ∈ entries, validEntry e) ∧ units+terminatedLength entries ≤ maxEnvironmentUnits)
      (units+terminatedLength entries) := by
  induction entries generalizing units with
  | nil =>
    apply (Recognizes.of_ok (rfl : countUnits t units [] = .ok units)).congr
    simpa [terminatedLength] using hunits
  | cons entry rest ih =>
    have hcons : terminatedLength (entry :: rest) = entry.length+1+terminatedLength rest := by
      simp [terminatedLength]
    rw [countUnits, hcons, ← Nat.add_assoc]
    by_cases hvalid : validEntry entry
    · have hlength : t.sum entry.length 1 = entry.length+1 :=
        t.sum_eq (by have := length_of_valid hvalid; omega)
      have hleft : t.difference maxEnvironmentUnits units = maxEnvironmentUnits-units :=
        difference_eq t hunits (by decide)
      rw [hlength, hleft]
      by_cases hfits : units+(entry.length+1) ≤ maxEnvironmentUnits
      · have hsum : t.sum units (entry.length+1) = units+(entry.length+1) :=
          t.sum_eq (hfits.trans_lt (by decide))
        rw [hsum]
        apply Recognizes.congr
        · apply Recognizes.after (if_neg (by simp [hvalid]))
          exact Recognizes.after (if_neg (by omega)) (ih hfits)
        · simp [hvalid]
      · apply Recognizes.congr
        · apply Recognizes.bind (.refuseIf (by decide))
          intro _
          exact Recognizes.bind (H := False) (.refuseIf (by decide)) fun hbudget => by omega
        · have htail : ¬units+(entry.length+1)+terminatedLength rest ≤ maxEnvironmentUnits := by
            omega
          simp [htail]
    · apply Recognizes.congr
      · exact Recognizes.bind (H := False) (.refuseIf (by decide)) fun hno => by simp_all
      · simp [hvalid]

variable {host : LaunchHost}

/-- Looking at neighbours is looking for a chain. -/
theorem checkDuplicates_recognizes (ordered : List Wide) :
    Recognizes (· ∈ environmentErrors) (checkDuplicates host ordered)
      (ordered.IsChain fun a b => host.compareStringOrdinal (key a) (key b) = lessThan) ⟨⟩ := by
  induction ordered with
  | nil => exact (Recognizes.of_ok rfl).congr (by simp)
  | cons a rest ih =>
    cases rest with
    | nil => exact (Recognizes.of_ok rfl).congr (by simp)
    | cons b rest =>
      apply Recognizes.congr
      · exact Recognizes.bind (.refuseIf (by decide)) fun _ => ih
      · simp

theorem buildBlock_eq (ordered : List Wide) :
    buildBlock ordered = join 0 ordered++0 :: if ordered.isEmpty then [0] else [] := by
  simp [buildBlock, join]

theorem length_buildBlock (ordered : List Wide) :
    (buildBlock ordered).length = blockLength ordered := by
  rw [buildBlock_eq, List.length_append, length_join, List.length_cons]
  unfold blockLength terminatedLength
  cases ordered with
  | nil => rfl
  | cons e rest => simp [Nat.add_comm]

section
variable (hcompare : OrdinalOrder host.compareStringOrdinal) (hsort : Sorts host.sort)
include hcompare

theorem before_strictWeak : StrictWeak (before host · ·) := by
  have hiff (a b : Wide) : before host a b ↔ host.compareStringOrdinal (key a) (key b) = 1 :=
    decide_eq_true_iff
  simp only [hiff]
  exact hcompare.strictWeak key

include hsort

theorem sort_perm (entries : List Wide) : (host.sort (before host) entries).Perm entries :=
  hsort.perm _ _ (before_strictWeak hcompare)

/-- Once sorted, entries with different keys stand in strictly increasing order. -/
theorem sorted_chain_iff (entries : List Wide) :
    (host.sort (before host) entries).IsChain
        (fun a b => host.compareStringOrdinal (key a) (key b) = lessThan) ↔
      entries.Pairwise fun a b => host.compareStringOrdinal (key a) (key b) ≠ equal := by
  have hsorted := hsort.sorted _ entries (before_strictWeak hcompare)
  simp only [before, decide_eq_true_eq] at hsorted
  have hweak := hcompare.strictWeak key
  rw [show lessThan = 1 from rfl, isChain_iff_no_ties hweak hsorted]
  have hties := fun a b => hcompare.ne_equal_iff (key a) (key b)
  simp only [← hties]
  apply (sort_perm hcompare hsort entries).pairwise_iff
  intro a b hab hba
  exact hab (hcompare.equal_symm hba)

/-- The block of the entries in the order of their keys. -/
theorem environmentBlock_recognizes (t : Target) (entries : List Wide) :
    Recognizes (· ∈ environmentErrors) (environmentBlock host t entries)
      (Acceptable host entries)
      (let ordered := host.sort (before host) entries
       ⟨blockLength entries,ordered,buildBlock ordered⟩) := by
  have hfirst : firstUnits entries ≤ maxEnvironmentUnits := by
    unfold firstUnits
    split <;> decide
  rw [blockLength_eq]
  apply Recognizes.congr
  · apply Recognizes.bind (.refuseIf (by decide))
    intro _
    apply Recognizes.bind (countUnits_recognizes t hfirst entries)
    intro _
    apply Recognizes.bind (checkDuplicates_recognizes _)
    intro _
    exact .of_ok rfl
  · rw [sorted_chain_iff hcompare hsort, ← blockLength_eq, Nat.not_lt]
    constructor
    · intro ⟨hcount,⟨hvalid,hlength⟩,hdistinct,_⟩
      exact ⟨hcount,hvalid,hlength,hdistinct⟩
    · intro h
      exact ⟨h.count,⟨h.valid,h.length⟩,h.distinct,trivial⟩

theorem canonical_of_ok {t : Target} {entries : List Wide} {e : EnvironmentBlock}
    (he : environmentBlock host t entries = .ok e) : Canonical host entries e := by
  obtain ⟨hok,rfl⟩ := (environmentBlock_recognizes hcompare hsort t entries).ok_iff.mp he
  have hperm := sort_perm hcompare hsort entries
  have hplain : ∀ x ∈ host.sort (before host) entries, Plain 0 x := fun x hx =>
    plain_of_valid (hok.valid x (hperm.mem_iff.mp hx))
  have hlength := (length_buildBlock (host.sort (before host) entries)).trans
    (blockLength_perm hperm)
  have hsplit : split 0 [] (buildBlock (host.sort (before host) entries)) =
      host.sort (before host) entries := by
    rw [buildBlock_eq]
    exact split_join hplain _
  refine ⟨hlength.symm,hlength,?_,?_⟩
  · rw [hsplit]
    exact hperm
  · rw [hsplit]
    exact (isChain_iff_pairwise (hcompare.strictWeak key)).mp
      ((sorted_chain_iff hcompare hsort entries).mpr hok.distinct)

omit hcompare hsort in
theorem Acceptable.perm {xs ys : List Wide} (hx : Acceptable host xs) (h : ys.Perm xs)
    (hsymm : ∀ {a b}, host.compareStringOrdinal a b = equal →
      host.compareStringOrdinal b a = equal) : Acceptable host ys where
  count := h.length_eq ▸ hx.count
  valid e he := hx.valid e (h.mem_iff.mp he)
  length := blockLength_perm h ▸ hx.length
  distinct := (h.pairwise_iff fun hab hba => hab (hsymm hba)).mpr hx.distinct

/-- The order in which the entries come does not matter. -/
theorem environmentBlock_perm {t : Target} {xs ys : List Wide} {e : EnvironmentBlock}
    (h : ys.Perm xs) (he : environmentBlock host t xs = .ok e) :
    environmentBlock host t ys = .ok e := by
  obtain ⟨hx,rfl⟩ := (environmentBlock_recognizes hcompare hsort t xs).ok_iff.mp he
  have hy : Acceptable host ys := hx.perm h hcompare.equal_symm
  have hweak := hcompare.strictWeak key
  have hxchain := (sorted_chain_iff hcompare hsort xs).mpr hx.distinct
  have hychain := (sorted_chain_iff hcompare hsort ys).mpr hy.distinct
  have hsame : host.sort (before host) ys = host.sort (before host) xs :=
    eq_of_perm hweak ((isChain_iff_pairwise hweak).mp hychain)
      ((isChain_iff_pairwise hweak).mp hxchain)
      ((sort_perm hcompare hsort ys).trans (h.trans (sort_perm hcompare hsort xs).symm))
  rw [(environmentBlock_recognizes hcompare hsort t ys).accepts hy, hsame, blockLength_perm h]

end

/-- With a directory of the right shape, `prepare` is the block and then the system. -/
theorem prepare_eq {t : Target} {directory : Wide} (entries : List Wide)
    (hshape : absoluteDrivePath directory) (hlength : directory.length < maxPath) :
    prepare host t directory entries =
      environmentBlock host t entries >>= finish host directory := by
  have hpass : ¬(!absoluteDrivePath directory ∨ directory.length ≥ maxPath) := by
    simp [hshape, hlength]
  unfold prepare
  rw [show refuseIf _ _ = .ok ⟨⟩ from if_neg hpass]
  rfl

theorem resolveDirectory_error {directory : Wide} {e : String}
    (h : resolveDirectory host directory = .error e) : e ∉ environmentErrors := by
  unfold resolveDirectory at h
  split at h
  · cases h
    decide
  · obtain h | ⟨_,_,h⟩ := bind_error_iff.mp h
    · rw [(refuseIf_error h).2]
      decide
    · obtain h | ⟨_,_,h⟩ := bind_error_iff.mp h
      · rw [(refuseIf_error h).2]
        decide
      · obtain h | ⟨_,_,h⟩ := bind_error_iff.mp h
        · rw [(refuseIf_error h).2]
          decide
        · cases h

/-- The errors past the block are none of its own. -/
theorem finish_error {directory : Wide} {environment : EnvironmentBlock} {e : String}
    (h : finish host directory environment = .error e) : e ∉ environmentErrors := by
  unfold finish at h
  split at h
  · cases h
    decide
  · obtain h | ⟨_,_,h⟩ := bind_error_iff.mp h
    · exact resolveDirectory_error h
    · cases h

/-- `prepare` gets past the block exactly where the block accepts. -/
theorem prepare_environment_error_iff
    (hcompare : OrdinalOrder host.compareStringOrdinal) (hsort : Sorts host.sort)
    {t : Target} {directory : Wide} (entries : List Wide)
    (hshape : absoluteDrivePath directory) (hlength : directory.length < maxPath) :
    (∃ e ∈ environmentErrors, prepare host t directory entries = .error e) ↔
      ¬Acceptable host entries := by
  rw [prepare_eq entries hshape hlength]
  have hblock := environmentBlock_recognizes hcompare hsort t entries
  constructor
  · intro ⟨e,hmem,he⟩ hok
    rw [hblock.accepts hok] at he
    exact finish_error he hmem
  · intro hno
    obtain ⟨e,he,hmem⟩ := hblock.refuses hno
    rw [he]
    exact ⟨e,hmem,rfl⟩

/-- What `prepare` returns is the block of `environmentBlock` and its hash. -/
theorem prepare_ok {t : Target} {directory : Wide} {entries : List Wide} {p : PreparedLaunch}
    (hp : prepare host t directory entries = .ok p) :
    ∃ e, environmentBlock host t entries = .ok e ∧ p.environment = e.block ∧
      host.bcryptHash e.block = some p.environmentHash ∧
      ∀ others, environmentBlock host t others = .ok e →
        prepare host t directory others = .ok p := by
  unfold prepare at hp
  obtain ⟨_,hinput,hp⟩ := bind_ok_iff.mp hp
  obtain ⟨e,he,hp⟩ := bind_ok_iff.mp hp
  have hothers : ∀ others, environmentBlock host t others = .ok e →
      prepare host t directory others = .ok p := by
    intro others ho
    exact bind_ok_iff.mpr ⟨_,hinput,bind_ok_iff.mpr ⟨e,ho,hp⟩⟩
  unfold finish at hp
  split at hp
  · cases hp
  · rename_i environmentHash hhash
    obtain ⟨_,_,hp⟩ := bind_ok_iff.mp hp
    cases hp
    exact ⟨e,he,rfl,hhash,hothers⟩

/-- The count of the units is exact after every entry that has been taken. -/
theorem countUnits_exact {t : Target} {taken rest : List Wide} {units : ℕ}
    (h : countUnits t (firstUnits (taken++rest)) taken = .ok units) :
    units = firstUnits (taken++rest)+terminatedLength taken ∧ units ≤ maxEnvironmentUnits := by
  have hfirst : firstUnits (taken++rest) ≤ maxEnvironmentUnits := by
    unfold firstUnits
    split <;> decide
  obtain ⟨⟨_,hfits⟩,rfl⟩ := (countUnits_recognizes t hfirst taken).ok_iff.mp h
  exact ⟨rfl,hfits⟩

/-- The environment of a launch is a canonical and lossless block of the entries. -/
theorem launch_environment_canonical (host : LaunchHost)
    (hcompare : OrdinalOrder host.compareStringOrdinal) (hsort : Sorts host.sort)
    (t : Target) (entries : List Wide) :
    ((∃ e, environmentBlock host t entries = .ok e) ↔ Acceptable host entries) ∧
    (∀ directory, absoluteDrivePath directory → directory.length < maxPath →
      ((∃ e ∈ environmentErrors, prepare host t directory entries = .error e) ↔
        ¬Acceptable host entries)) ∧
    (∀ e, environmentBlock host t entries = .ok e → Canonical host entries e ∧
      ∀ others : List Wide, others.Perm entries → environmentBlock host t others = .ok e) ∧
    (∀ directory p, prepare host t directory entries = .ok p →
      (∃ e, environmentBlock host t entries = .ok e ∧ p.environment = e.block ∧
        host.bcryptHash e.block = some p.environmentHash) ∧
      ∀ others : List Wide, others.Perm entries → prepare host t directory others = .ok p) ∧
    ∀ taken rest units, entries = taken++rest →
      countUnits t (firstUnits entries) taken = .ok units →
      units = firstUnits entries+terminatedLength taken ∧ units ≤ maxEnvironmentUnits := by
  have hblock := environmentBlock_recognizes hcompare hsort t entries
  refine ⟨⟨?_,?_⟩,?_,?_,?_,?_⟩
  · intro ⟨e,he⟩
    exact (hblock.ok_iff.mp he).1
  · intro hok
    exact ⟨_,hblock.accepts hok⟩
  · intro directory hshape hlength
    exact prepare_environment_error_iff hcompare hsort entries hshape hlength
  · intro e he
    exact ⟨canonical_of_ok hcompare hsort he,
      fun others ho => environmentBlock_perm hcompare hsort ho he⟩
  · intro directory p hp
    obtain ⟨e,he,henvironment,hhash,hothers⟩ := prepare_ok hp
    exact ⟨⟨e,he,henvironment,hhash⟩,
      fun others ho => hothers others (environmentBlock_perm hcompare hsort ho he)⟩
  · intro taken rest units hentries hcount
    subst hentries
    exact countUnits_exact hcount

section
-- A host that folds the case of the Latin letters and sorts with a stable sort.

def upper (c : UInt16) : ℕ := if 97 ≤ c ∧ c ≤ 122 then c.toNat-32 else c.toNat

def compareUpper : Wide → Wide → ℕ
  | [], [] => 2
  | [], _ :: _ => 1
  | _ :: _, [] => 3
  | a :: as, b :: bs =>
    if upper a < upper b then 1 else if upper b < upper a then 3 else compareUpper as bs

theorem ordinalOrder_compareUpper : OrdinalOrder compareUpper where
  range a b := by
    fun_induction compareUpper a b <;> simp_all
  swap a b := by
    fun_induction compareUpper a b with
    | case1 => simp [compareUpper]
    | case2 => simp [compareUpper]
    | case3 => simp [compareUpper]
    | case4 a as b bs h => simp [compareUpper, h, h.not_gt]
    | case5 a as b bs h h' => simp [compareUpper, h']
    | case6 a as b bs h h' ih => simp [compareUpper, h, h', ih]
  trans a b c hab hbc := by
    -- The first position where any two of the three differ decides.
    induction a generalizing b c with
    | nil => cases c <;> simp [compareUpper]
    | cons x as ih =>
      cases b with
      | nil => simp [compareUpper] at hab
      | cons y bs =>
        cases c with
        | nil => simp [compareUpper] at hbc
        | cons z cs =>
          have htail := ih bs cs
          simp only [compareUpper] at hab hbc ⊢
          grind

def plainHost : LaunchHost where
  compareStringOrdinal := compareUpper
  sort less xs := xs.mergeSort fun a b => !less b a
  bcryptHash _ := some (.replicate 32 0)
  createFile _ := some 4
  fileAttributes _ := some 0x10
  finalPathName _ := (7,[92,92,63,92,67,58,92])

/-- The entries `b=2` and `A=1`. -/
def plainEntries : List Wide := [[98,61,50],[65,61,49]]

theorem acceptable_plainEntries : Acceptable plainHost plainEntries where
  count := by decide
  valid := by decide
  length := by decide
  distinct := by decide

theorem launch_environment_canonical_plain :
    ∃ e, environmentBlock plainHost .x86 plainEntries = .ok e ∧
      Canonical plainHost plainEntries e ∧
      environmentBlock plainHost .x86 plainEntries.reverse = .ok e := by
  have h := launch_environment_canonical plainHost ordinalOrder_compareUpper sorts_mergeSort .x86
    plainEntries
  obtain ⟨e,he⟩ := h.1.mpr acceptable_plainEntries
  obtain ⟨hcanonical,hperm⟩ := h.2.2.1 e he
  exact ⟨e,he,hcanonical,hperm _ (List.reverse_perm _)⟩

end

end Saex.LaunchContext
