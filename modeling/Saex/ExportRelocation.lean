import Saex.ExportFixups

/-! `bootstrap_export_prefix` accepts exactly the masks whose windows lie apart, and is then
a relocation: every marked dword moves by the difference of the bases and no other byte
does, and relocations compose. -/
namespace Saex
open LittleEndian Patches

/-- The function with its output parameter, which is assigned on success only. -/
def bootstrapExportPrefixInto (spec : BootstrapExportSpec) (actualBase : BitVec 32)
    (output : Vector UInt8 20) : Bool × Vector UInt8 20 :=
  match bootstrapExportPrefix spec actualBase with
  | some bytes => (true,bytes)
  | none => (false,output)

/-- The four bytes from `offset` on, as a little-endian word. -/
def dwordAt (bytes : Vector UInt8 20) (offset : ℕ) : BitVec 32 :=
  read 32 ((bytes.toList.drop offset).take 4)

/-- Marks at offsets 0..16 that are at least four apart, and a base for them to be about. -/
structure WellMarked (spec : BootstrapExportSpec) : Prop where
  fits : ∀ o, spec.highlowMask.getLsbD o → o ≤ 16
  apart : ∀ o o', spec.highlowMask.getLsbD o → spec.highlowMask.getLsbD o' → o < o' → o+4 ≤ o'
  base : spec.highlowMask = 0 ∨ spec.preferredBase ≠ 0 ∧ spec.preferredBase.toNat%65536 = 0

def markedOffsets (spec : BootstrapExportSpec) : List ℕ :=
  (List.range 17).filter (spec.highlowMask.getLsbD ·)

/-- The memory whose first bytes are the recorded ones. -/
def recorded (spec : BootstrapExportSpec) (a : ℕ) : UInt8 := spec.prefixBytes.toList.getD a 0

theorem shows_recorded (spec : BootstrapExportSpec) : Shows 0 spec.prefixBytes (recorded spec) := by
  intro i hi
  have hlength : i < spec.prefixBytes.toList.length := by rwa [Vector.length_toList]
  rw [recorded, Nat.zero_add, List.getD_eq_getElem _ _ hlength, Vector.getElem_toList]

theorem WellMarked.records {spec : BootstrapExportSpec} (h : WellMarked spec) :
    Records spec (markedOffsets spec) where
  mask o := by
    rw [markedOffsets, List.mem_filter, List.mem_range]
    exact ⟨fun ho => ⟨Nat.lt_succ_of_le (h.fits o ho),ho⟩,And.right⟩
  fits o ho := h.fits o (List.mem_filter.mp ho).2
  nodup := List.nodup_range.filter _
  apart o ho o' ho' hne := by
    have hbit := (List.mem_filter.mp ho).2
    have hbit' := (List.mem_filter.mp ho').2
    obtain hlt | hlt := lt_or_gt_of_ne hne
    · exact .inl (h.apart o o' hbit hbit' hlt)
    · exact .inr (h.apart o' o hbit' hbit hlt)

/-! What an accepted mask looks like. -/

section Accepted
variable {spec : BootstrapExportSpec} {actualBase : BitVec 32}

/-- The loop has passed over marks that are apart, and the covered bits are their windows. -/
structure Covered (spec : BootstrapExportSpec) (offset : ℕ) (covered : BitVec 32) : Prop where
  apart : ∀ o o', spec.highlowMask.getLsbD o → spec.highlowMask.getLsbD o' → o < o' →
    o' < offset → o+4 ≤ o'
  windows : ∀ i < 32, covered.getLsbD i ↔
    ∃ o, spec.highlowMask.getLsbD o ∧ o < offset ∧ o ≤ i ∧ i < o+4

theorem covered_step {offset : ℕ} (hoffset : offset < 17)
    {state state' : Vector UInt8 20 × BitVec 32} (h : Covered spec offset state.2)
    (hstep : exportFixup spec actualBase state offset = some state') :
    Covered spec (offset+1) state'.2 := by
  have hbit : (spec.highlowMask &&& (1 <<< offset) ≠ 0) ↔ spec.highlowMask.getLsbD offset := by
    refine (and_ones_ne_zero_iff spec.highlowMask 1 offset).trans ⟨?_,?_⟩
    · intro ⟨i,_,hi,hon⟩
      rwa [show offset = i by omega]
    · intro hon
      exact ⟨offset,by omega,⟨le_rfl,Nat.lt_succ_self _⟩,hon⟩
  unfold exportFixup at hstep
  by_cases hon : spec.highlowMask.getLsbD offset
  · rw [if_neg (hbit.mpr hon)] at hstep
    by_cases hfree : state.2 &&& (15 <<< offset) = 0
    · rw [if_neg (not_not.mpr hfree), Option.some.injEq] at hstep
      have hstate : state'.2 = state.2 ||| (15 <<< offset) := by rw [← hstep]
      refine ⟨?_,?_⟩
      · intro o o' ho ho' hlt hlt'
        obtain hbefore | rfl := Nat.lt_succ_iff_lt_or_eq.mp hlt'
        · exact h.apart o o' ho ho' hlt hbefore
        · -- An earlier window that reached this mark would have covered its bit.
          by_contra hnear
          have hcovered := (h.windows o' (by omega)).mpr ⟨o,ho,hlt,hlt.le,by omega⟩
          exact (and_ones_ne_zero_iff state.2 4 o').mpr
            ⟨o',by omega,⟨le_rfl,by omega⟩,hcovered⟩ hfree
      · intro i hi
        have hones : BitVec.getLsbD (w := 32) (15 <<< offset : ℕ) i ↔
            offset ≤ i ∧ i < offset+4 := by
          rw [show 15 = 2^4-1 from rfl, BitVec.natCast_eq_ofNat, getLsbD_ones]
          simp [hi]
        simp only [hstate, BitVec.getLsbD_or, Bool.or_eq_true, hones, h.windows i hi]
        constructor
        · intro hor
          obtain ⟨o,ho,hlt,hwindow⟩ | hwindow := hor
          · exact ⟨o,ho,by omega,hwindow⟩
          · exact ⟨offset,hon,by omega,hwindow⟩
        · intro ⟨o,ho,hlt,hwindow⟩
          obtain hbefore | rfl := Nat.lt_succ_iff_lt_or_eq.mp hlt
          · exact .inl ⟨o,ho,hbefore,hwindow⟩
          · exact .inr hwindow
    · rw [if_pos hfree] at hstep
      cases hstep
  · rw [if_pos (not_not.mp (mt hbit.mp hon)), Option.some.injEq] at hstep
    have hother {o : ℕ} (ho : spec.highlowMask.getLsbD o) : o < offset+1 ↔ o < offset := by
      have hne : o ≠ offset := fun heq => hon (heq ▸ ho)
      omega
    rw [← hstep]
    refine ⟨fun o o' ho ho' hlt hlt' => h.apart o o' ho ho' hlt ((hother ho').mp hlt'),?_⟩
    intro i hi
    rw [h.windows i hi]
    exact exists_congr fun o => and_congr_right fun ho => by rw [hother ho]

theorem covered_run {offset : ℕ} (hoffset : offset ≤ 17) {state : Vector UInt8 20 × BitVec 32}
    (hrun : (List.range offset).foldlM (exportFixup spec actualBase) (spec.prefixBytes,0) =
      some state) : Covered spec offset state.2 := by
  induction offset generalizing state with
  | zero =>
    have hstate : (spec.prefixBytes,(0 : BitVec 32)) = state := Option.some.inj hrun
    rw [← hstate]
    exact ⟨fun _ _ _ _ _ h => absurd h (Nat.not_lt_zero _),fun i _ => by simp⟩
  | succ offset ih =>
    rw [List.range_succ, List.foldlM_append] at hrun
    obtain ⟨before,hbefore,hstep⟩ := Option.bind_eq_some_iff.mp hrun
    have hstep : exportFixup spec actualBase before offset = some state := by
      simpa using hstep
    exact covered_step hoffset (ih (by omega) hbefore) hstep

theorem wellMarked_of_some {output : Vector UInt8 20}
    (h : bootstrapExportPrefix spec actualBase = some output) : WellMarked spec := by
  unfold bootstrapExportPrefix at h
  by_cases hguard : spec.highlowMask &&& ~~~0x1ffff ≠ 0 ∨ (spec.highlowMask ≠ 0 ∧
      (spec.preferredBase = 0 ∨ spec.preferredBase.toNat%65536 ≠ 0))
  · rw [if_pos hguard] at h
    cases h
  · rw [if_neg hguard] at h
    obtain ⟨hmask,hbase⟩ := not_or.mp hguard
    obtain ⟨state,hrun,_⟩ := Option.map_eq_some_iff.mp h
    have hcovered := covered_run le_rfl hrun
    have hfits (o : ℕ) (ho : spec.highlowMask.getLsbD o) : o ≤ 16 := by
      by_contra hlarge
      have hlt : o < 32 := BitVec.lt_of_getLsbD ho
      have hzero : (spec.highlowMask &&& ~~~0x1ffff).getLsbD o = false := by
        rw [not_not.mp hmask]
        exact BitVec.getLsbD_zero
      rw [BitVec.getLsbD_and, BitVec.getLsbD_not, ho,
        show (0x1ffff : BitVec 32) = BitVec.ofNat 32 ((2^17-1) <<< 0) from rfl,
        getLsbD_ones 17 0 o] at hzero
      simp [hlt] at hzero
      omega
    refine ⟨hfits,fun o o' ho ho' hlt => hcovered.apart o o' ho ho' hlt ?_,?_⟩
    · exact Nat.lt_succ_of_le (hfits o' ho')
    · rw [not_and_or, not_not, not_or, not_not] at hbase
      exact hbase

end Accepted

/-! The result of an accepted call. -/

theorem rebase_rebase (delta delta' : BitVec 32) :
    rebase delta' ∘ rebase delta = rebase (delta+delta') := by
  funext bs
  have hread := read_write (read 32 bs+delta) (show 32 = 8*4 from rfl)
  rw [Function.comp_apply, rebase, rebase, rebase, hread, BitVec.add_assoc]

theorem rebase_zero {bs : List UInt8} (h : bs.length = 4) : rebase 0 bs = bs := by
  have hwritten : write bs.length (read 32 bs) = bs := write_read (by omega)
  have hsame : read 32 bs+0 = read 32 bs := BitVec.add_zero _
  rw [rebase, hsame, ← h, hwritten]

variable {spec : BootstrapExportSpec} (hmarked : WellMarked spec)
include hmarked

theorem WellMarked.windows : (markedOffsets spec).Pairwise (Apart 4) :=
  hmarked.records.nodup.pairwise_of_forall_ne fun o ho o' ho' hne =>
    hmarked.records.apart o ho o' ho' hne

theorem WellMarked.accepted {m : ℕ → UInt8} (hshows : Shows 0 spec.prefixBytes m)
    (actualBase : BitVec 32) :
    ∃ output, bootstrapExportPrefix spec actualBase = some output ∧
      Shows 0 output (patchAll (rebase (actualBase-spec.preferredBase)) 4 (markedOffsets spec) m) := by
  obtain ⟨output,houtput,hpatched⟩ := bootstrapExportPrefix_shows hmarked.records hshows
    (fun hmask => hmarked.base.resolve_left hmask) actualBase
  have hoffsets : (markedOffsets spec).map (0+·) = markedOffsets spec := by simp
  rw [hoffsets] at hpatched
  exact ⟨output,houtput,hpatched⟩

/-- Only the marked dwords move, and they move by the difference of the bases. -/
theorem WellMarked.relocated (actualBase : BitVec 32) :
    ∃ output, bootstrapExportPrefix spec actualBase = some output ∧
      (∀ o, spec.highlowMask.getLsbD o → dwordAt output o =
        dwordAt spec.prefixBytes o+(actualBase-spec.preferredBase)) ∧
      ∀ i (h : i < 20), (∀ o, spec.highlowMask.getLsbD o → ¬(o ≤ i ∧ i < o+4)) →
        output[i] = spec.prefixBytes[i] := by
  have hshows := shows_recorded spec
  obtain ⟨output,houtput,hpatched⟩ := hmarked.accepted hshows actualBase
  refine ⟨output,houtput,fun o ho => ?_,fun i hi houtside => ?_⟩
  · have hfits : o+4 ≤ 20 := Nat.add_le_add_right (hmarked.fits o ho) 4
    have hmem : o ∈ markedOffsets spec := (hmarked.records.mask o).mp ho
    rw [dwordAt, dwordAt, hpatched.cells_eq hfits, hshows.cells_eq hfits, Nat.zero_add,
      cells_patchAll hmarked.windows hmem (length_rebase _ _)]
    exact read_write _ rfl
  · rw [hpatched i hi, hshows i hi, Nat.zero_add]
    exact patchAll_of_outside fun o ho => houtside o ((hmarked.records.mask o).mpr ho)

theorem WellMarked.relocated_preferred :
    bootstrapExportPrefix spec spec.preferredBase = some spec.prefixBytes := by
  have hshows := shows_recorded spec
  obtain ⟨output,houtput,hpatched⟩ := hmarked.accepted hshows spec.preferredBase
  have hfixed : patchAll (rebase 0) 4 (markedOffsets spec) (recorded spec) = recorded spec :=
    patchAll_of_fixed hmarked.windows fun _ => rebase_zero
  have hpatched : Shows 0 output (recorded spec) := by
    rw [BitVec.sub_self] at hpatched
    exact hfixed ▸ hpatched
  rw [houtput, hpatched.eq hshows]

/-- By way of another base. -/
theorem WellMarked.relocated_twice {a : BitVec 32} (ha : a ≠ 0) (halign : a.toNat%65536 = 0)
    {moved : Vector UInt8 20} (hmoved : bootstrapExportPrefix spec a = some moved)
    (b : BitVec 32) :
    bootstrapExportPrefix { spec with prefixBytes := moved, preferredBase := a } b =
      bootstrapExportPrefix spec b := by
  have hshows := shows_recorded spec
  obtain ⟨first,hfirst,hshows₁⟩ := hmarked.accepted hshows a
  have hsame : moved = first := Option.some.inj (hmoved.symm.trans hfirst)
  obtain ⟨direct,hdirect,hshows₃⟩ := hmarked.accepted hshows b
  have hmarked' : WellMarked { spec with prefixBytes := moved, preferredBase := a } :=
    ⟨hmarked.fits,hmarked.apart,.inr ⟨ha,halign⟩⟩
  obtain ⟨second,hsecond,hshows₂⟩ := hmarked'.accepted (hsame ▸ hshows₁) b
  have hdelta : a-spec.preferredBase+(b-a) = b-spec.preferredBase := by
    bv_omega
  have hlength (delta : BitVec 32) (xs : List UInt8) (_ : xs.length = 4) :
      (rebase delta xs).length = 4 := length_rebase delta xs
  have hwindows : markedOffsets { spec with prefixBytes := moved, preferredBase := a } =
    markedOffsets spec := rfl
  rw [hwindows, patchAll_patchAll hmarked.windows (hlength _) (hlength _), rebase_rebase,
    hdelta] at hshows₂
  rw [hsecond, hdirect, hshows₂.eq hshows₃]

omit hmarked

theorem bootstrapExportPrefixInto_fst (spec : BootstrapExportSpec) (actualBase : BitVec 32)
    (output : Vector UInt8 20) :
    (bootstrapExportPrefixInto spec actualBase output).1 = true ↔ WellMarked spec := by
  unfold bootstrapExportPrefixInto
  cases hresult : bootstrapExportPrefix spec actualBase with
  | some bytes => exact iff_of_true rfl (wellMarked_of_some hresult)
  | none =>
    refine iff_of_false Bool.false_ne_true fun hmarked => ?_
    obtain ⟨bytes,hbytes,_⟩ := hmarked.relocated actualBase
    cases hresult.symm.trans hbytes

/-- The whole contract of the function. -/
theorem bootstrap_export_prefix_relocates (spec : BootstrapExportSpec) (output : Vector UInt8 20) :
    (∀ actualBase, let result := bootstrapExportPrefixInto spec actualBase output
      (result.1 = true ↔ WellMarked spec) ∧
      (result.1 = false → result.2 = output) ∧
      (result.1 = true →
        (∀ o, spec.highlowMask.getLsbD o → dwordAt result.2 o =
          dwordAt spec.prefixBytes o+(actualBase-spec.preferredBase)) ∧
        ∀ i (h : i < 20), (∀ o, spec.highlowMask.getLsbD o → ¬(o ≤ i ∧ i < o+4)) →
          result.2[i] = spec.prefixBytes[i])) ∧
    (WellMarked spec →
      bootstrapExportPrefixInto spec spec.preferredBase output = (true,spec.prefixBytes) ∧
      ∀ a b, a ≠ 0 → a.toNat%65536 = 0 →
        bootstrapExportPrefixInto { spec with
          prefixBytes := (bootstrapExportPrefixInto spec a output).2, preferredBase := a } b output =
        bootstrapExportPrefixInto spec b output) := by
  refine ⟨fun actualBase => ⟨bootstrapExportPrefixInto_fst spec actualBase output,?_,?_⟩,?_⟩
  · intro hrejected
    unfold bootstrapExportPrefixInto at hrejected ⊢
    cases hresult : bootstrapExportPrefix spec actualBase with
    | some bytes => rw [hresult] at hrejected; cases hrejected
    | none => rfl
  · intro haccepted
    have hmarked := (bootstrapExportPrefixInto_fst spec actualBase output).mp haccepted
    obtain ⟨bytes,hbytes,hmoved,hkept⟩ := hmarked.relocated actualBase
    have hresult : bootstrapExportPrefixInto spec actualBase output = (true,bytes) := by
      rw [bootstrapExportPrefixInto, hbytes]
    rw [hresult]
    exact ⟨hmoved,hkept⟩
  · intro hmarked
    refine ⟨by rw [bootstrapExportPrefixInto, hmarked.relocated_preferred],?_⟩
    intro a b ha halign
    obtain ⟨moved,hmoved,_⟩ := hmarked.relocated a
    have hfirst : bootstrapExportPrefixInto spec a output = (true,moved) := by
      rw [bootstrapExportPrefixInto, hmoved]
    rw [hfirst, bootstrapExportPrefixInto, hmarked.relocated_twice ha halign hmoved b]
    rfl

end Saex
