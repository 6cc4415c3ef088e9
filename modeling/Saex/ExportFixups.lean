import Saex.BootstrapLifecycle
import Saex.Patches
import Saex.StoppingRuns

/-! `bootstrap_export_prefix` relocates exactly the dwords of its mask, whenever these do
not overlap. -/
namespace Saex
open LittleEndian Patches

/-- A dword of an image whose base moves by `delta`. -/
def rebase (delta : BitVec 32) (bs : List UInt8) : List UInt8 := write 4 (read 32 bs+delta)

@[simp] theorem length_rebase (delta : BitVec 32) (bs : List UInt8) :
    (rebase delta bs).length = 4 := length_write ..

/-! The masks of the loop: `n` ones from bit `offset` on. -/

theorem getLsbD_ones (n offset i : ℕ) :
    (BitVec.ofNat 32 ((2^n-1) <<< offset)).getLsbD i =
      (decide (i < 32) && (decide (offset ≤ i) && decide (i < offset+n))) := by
  rw [BitVec.getLsbD_ofNat, Nat.testBit_shiftLeft, Nat.testBit_two_pow_sub_one]
  congr 1
  by_cases h : offset ≤ i
  · simp only [h, decide_true, Bool.true_and, decide_eq_decide]
    omega
  · simp [h]

theorem and_ones_ne_zero_iff (mask : BitVec 32) (n offset : ℕ) :
    mask &&& BitVec.ofNat 32 ((2^n-1) <<< offset) ≠ 0 ↔
      ∃ i < 32, (offset ≤ i ∧ i < offset+n) ∧ mask.getLsbD i := by
  rw [Ne, BitVec.eq_of_getLsbD_eq_iff]
  push Not
  refine exists_congr fun i => and_congr_right fun hi => ?_
  rw [BitVec.getLsbD_and, getLsbD_ones]
  simp [hi, and_comm, and_assoc]

/-- The fixups that a spec records. -/
structure Records (spec : BootstrapExportSpec) (offsets : List ℕ) : Prop where
  mask : ∀ i, spec.highlowMask.getLsbD i ↔ i ∈ offsets
  fits : ∀ o ∈ offsets, o ≤ 16
  nodup : offsets.Nodup
  apart : ∀ o ∈ offsets, ∀ o' ∈ offsets, o ≠ o' → Apart 4 o o'

/-- What the loop has done when it reaches `offset`: the fixups `done` are in the bytes, in
the order in which they were made, and the covered bits are theirs. -/
structure FixedUp (spec : BootstrapExportSpec) (actualBase : BitVec 32) (offsets : List ℕ)
    (base : ℕ) (m : ℕ → UInt8) (offset : ℕ) (state : Vector UInt8 20 × BitVec 32) : Prop where
  shows : ∃ done : List ℕ, (∀ o, o ∈ done ↔ o ∈ offsets ∧ o < offset) ∧ done.Nodup ∧
    Shows base state.1 (patchAll (rebase (actualBase-spec.preferredBase)) 4 (done.map (base+·)) m)
  covered : ∀ i < 32, state.2.getLsbD i ↔ ∃ o ∈ offsets, o < offset ∧ o ≤ i ∧ i < o+4

variable {spec : BootstrapExportSpec} {offsets : List ℕ} (hrecords : Records spec offsets)
  {base : ℕ} {m : ℕ → UInt8}
include hrecords

theorem exportFixup_step (actualBase : BitVec 32) {offset : ℕ} (hoffset : offset < 17)
    {state : Vector UInt8 20 × BitVec 32}
    (h : FixedUp spec actualBase offsets base m offset state) :
    ∃ state', exportFixup spec actualBase state offset = some state' ∧
      FixedUp spec actualBase offsets base m (offset+1) state' := by
  obtain ⟨⟨done,hdone,hnodup,hshows⟩,hcovered⟩ := h
  have hbit : (spec.highlowMask &&& (1 <<< offset) ≠ 0) ↔ offset ∈ offsets := by
    rw [← hrecords.mask]
    refine (and_ones_ne_zero_iff spec.highlowMask 1 offset).trans ⟨?_,?_⟩
    · intro ⟨i,_,hi,hon⟩
      rwa [show offset = i by omega]
    · intro hon
      exact ⟨offset,by omega,⟨le_rfl,Nat.lt_succ_self _⟩,hon⟩
  have hsplit (o : ℕ) : o < offset+1 ↔ o < offset ∨ o = offset := Nat.lt_succ_iff_lt_or_eq
  unfold exportFixup
  by_cases hin : offset ∈ offsets
  · have hfree : state.2 &&& (15 <<< offset) = 0 := by
      by_contra hne
      obtain ⟨i,hi,hwindow,hon⟩ := (and_ones_ne_zero_iff state.2 4 offset).mp hne
      obtain ⟨o,ho,hlt,hwindow'⟩ := (hcovered i hi).mp hon
      have hapart := hrecords.apart o ho offset hin hlt.ne
      unfold Apart at hapart
      omega
    rw [if_neg (hbit.mpr hin), if_neg (not_not.mpr hfree)]
    refine ⟨_,rfl,⟨done++[offset],?_,?_,?_⟩,?_⟩
    · intro o
      rw [List.mem_append, List.mem_singleton, hdone, hsplit]
      exact ⟨fun ho => ho.elim (fun ho => ⟨ho.1,.inl ho.2⟩) fun ho => ⟨ho ▸ hin,.inr ho⟩,
        fun ho => ho.2.imp (⟨ho.1,·⟩) id⟩
    · refine List.Nodup.append hnodup (List.nodup_singleton _) ?_
      rw [List.disjoint_singleton]
      exact fun hmem => absurd ((hdone offset).mp hmem).2 (lt_irrefl offset)
    · have hfits : offset+4 ≤ 20 := by omega
      have hpatched := hshows.splice hfits (f := rebase (actualBase-spec.preferredBase))
        fun xs _ => length_rebase _ xs
      rw [List.map_append, patchAll, List.foldl_append]
      exact hpatched
    · intro i hi
      have hones : BitVec.getLsbD (w := 32) (15 <<< offset : ℕ) i ↔ offset ≤ i ∧ i < offset+4 := by
        rw [show 15 = 2^4-1 from rfl, BitVec.natCast_eq_ofNat, getLsbD_ones]
        simp [hi]
      simp only [BitVec.getLsbD_or, Bool.or_eq_true, hones, hcovered i hi, hsplit]
      constructor
      · intro hor
        obtain ⟨o,ho,hlt,hwindow⟩ | hwindow := hor
        · exact ⟨o,ho,.inl hlt,hwindow⟩
        · exact ⟨offset,hin,.inr rfl,hwindow⟩
      · intro ⟨o,ho,hor,hwindow⟩
        obtain hlt | rfl := hor
        · exact .inl ⟨o,ho,hlt,hwindow⟩
        · exact .inr hwindow
  · rw [if_pos (not_not.mp (mt hbit.mp hin))]
    refine ⟨state,rfl,⟨done,?_,hnodup,hshows⟩,?_⟩
    · intro o
      rw [hdone, hsplit]
      exact and_congr_right fun ho => ⟨.inl,fun h => h.resolve_right fun heq => hin (heq ▸ ho)⟩
    · intro i hi
      rw [hcovered i hi]
      refine exists_congr fun o => and_congr_right fun ho => ?_
      rw [hsplit, or_iff_left fun heq : o = offset => hin (heq ▸ ho)]

/-- From the start of the loop to `offset`. -/
theorem exportFixup_run (hshows : Shows base spec.prefixBytes m) (actualBase : BitVec 32)
    {offset : ℕ} (hoffset : offset ≤ 17) :
    ∃ state, (List.range offset).foldlM (exportFixup spec actualBase) (spec.prefixBytes,0) =
      some state ∧ FixedUp spec actualBase offsets base m offset state := by
  induction offset with
  | zero =>
    refine ⟨_,rfl,⟨[],?_,List.nodup_nil,hshows⟩,?_⟩
    · simp
    · simp
  | succ offset ih =>
    obtain ⟨state,hrun,hfixed⟩ := ih (by omega)
    obtain ⟨state',hstep,hfixed'⟩ := exportFixup_step hrecords actualBase (by omega) hfixed
    refine ⟨state',?_,hfixed'⟩
    rw [List.range_succ, List.foldlM_append, hrun]
    simpa using hstep

/-- The whole function: it does not refuse, and its result is the relocated window. -/
theorem bootstrapExportPrefix_shows (hshows : Shows base spec.prefixBytes m)
    (hbase : spec.highlowMask ≠ 0 →
      spec.preferredBase ≠ 0 ∧ spec.preferredBase.toNat%65536 = 0) (actualBase : BitVec 32) :
    ∃ output, bootstrapExportPrefix spec actualBase = some output ∧
      Shows base output (patchAll (rebase (actualBase-spec.preferredBase)) 4
        (offsets.map (base+·)) m) := by
  have hmask : spec.highlowMask &&& ~~~0x1ffff = 0 := by
    refine BitVec.eq_of_getLsbD_eq fun i hi => ?_
    have hones := getLsbD_ones 17 0 i
    rw [BitVec.getLsbD_and, BitVec.getLsbD_not]
    by_cases hin : i ∈ offsets
    · have hfits := hrecords.fits i hin
      rw [show (0x1ffff : BitVec 32) = BitVec.ofNat 32 ((2^17-1) <<< 0) from rfl, hones]
      simp [hi]
      omega
    · have hoff : spec.highlowMask.getLsbD i = false :=
        Bool.eq_false_iff.mpr (mt (hrecords.mask i).mp hin)
      rw [hoff, Bool.false_and]
      exact BitVec.getLsbD_zero.symm
  have hguard : ¬(spec.highlowMask &&& ~~~0x1ffff ≠ 0 ∨ (spec.highlowMask ≠ 0 ∧
      (spec.preferredBase = 0 ∨ spec.preferredBase.toNat%65536 ≠ 0))) :=
    not_or.mpr ⟨not_not.mpr hmask,fun h => h.2.elim (hbase h.1).1 (absurd (hbase h.1).2)⟩
  obtain ⟨state,hrun,⟨done,hdone,hnodup,hfixed⟩,_⟩ :=
    exportFixup_run hrecords hshows actualBase le_rfl
  refine ⟨state.1,by rw [bootstrapExportPrefix, if_neg hguard, hrun]; rfl,hfixed.congr ?_⟩
  have hall (o : ℕ) : o ∈ done ↔ o ∈ offsets := by
    rw [hdone]
    exact and_iff_left_of_imp fun ho => Nat.lt_succ_of_le (hrecords.fits o ho)
  -- The two lists hold the same windows, in what order does not matter.
  have hwindows {xs : List ℕ} (hxs : xs.Nodup) (hsub : ∀ o ∈ xs, o ∈ offsets) :
      (xs.map (base+·)).Pairwise (Apart 4) := by
    rw [List.pairwise_map]
    refine hxs.pairwise_of_forall_ne fun o ho o' ho' hne => ?_
    have hapart := hrecords.apart o (hsub o ho) o' (hsub o' ho') hne
    unfold Apart at hapart ⊢
    omega
  have hinside (p : ℕ) (hp : p ∈ done.map (base+·)) : base ≤ p ∧ p+4 ≤ base+20 := by
    obtain ⟨o,ho,rfl⟩ := List.mem_map.mp hp
    have hfits := hrecords.fits o ((hall o).mp ho)
    omega
  refine patchAll_agree (fun _ _ _ => rfl) (hwindows hnodup fun o => (hall o).mp)
    (hwindows hrecords.nodup fun o => id) (fun p => ?_) fun p hp => .inr (.inr (hinside p hp))
  have hmem : p ∈ offsets.map (base+·) ↔ p ∈ done.map (base+·) := by
    simp only [List.mem_map, hall]
  rw [hmem]
  exact ⟨fun hp => ⟨hp,hinside p hp⟩,And.left⟩

end Saex
