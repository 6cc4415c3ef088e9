import Saex.LittleEndian

/-! Patches of a memory: each rewrites a window of a fixed width from what stands in it.
Patches at windows that are apart can be made in any order, and what they leave in a region
depends on that region only. -/
namespace Patches
open LittleEndian

variable {A : Type*} (f : List A → List A) (width : ℕ)

/-- The `n` cells from `p` on. -/
def cells (m : ℕ → A) (p n : ℕ) : List A := (List.range n).map fun i => m (p+i)

def patch (p : ℕ) (m : ℕ → A) : ℕ → A := fun a =>
  if p ≤ a ∧ a < p+width then (f (cells m p width)).getD (a-p) (m a) else m a

def patchAll (ps : List ℕ) (m : ℕ → A) : ℕ → A := ps.foldl (fun m p => patch f width p m) m

def Apart (p q : ℕ) : Prop := p+width ≤ q ∨ q+width ≤ p

/-- Two memories that look the same from `base` to `base+n`. -/
def Agree (base n : ℕ) (m m' : ℕ → A) : Prop := ∀ a, base ≤ a → a < base+n → m a = m' a

/-- The buffer holds what the memory does from `base` on. -/
def Shows {n : ℕ} (base : ℕ) (v : Vector A n) (m : ℕ → A) : Prop := ∀ i (h : i < n), v[i] = m (base+i)

variable {f width} {m m' : ℕ → A} {p q a base n : ℕ}

@[simp] theorem length_cells (m : ℕ → A) (p n : ℕ) : (cells m p n).length = n := by simp [cells]

theorem cells_congr (h : Agree p n m m') : cells m p n = cells m' p n := by
  refine List.map_congr_left fun i hi => ?_
  have hin := List.mem_range.mp hi
  exact h (p+i) (by omega) (by omega)

theorem patch_of_outside (h : ¬(p ≤ a ∧ a < p+width)) : patch f width p m a = m a := if_neg h

theorem Apart.symm (h : Apart width p q) : Apart width q p := Or.symm h

instance : Std.Symm (Apart width) := ⟨fun _ _ => Apart.symm⟩

/-- A patch looks at its own window only. -/
theorem patch_congr (h : Agree p width m m') (ha : p ≤ a ∧ a < p+width) :
    patch f width p m a = patch f width p m' a := by
  simp only [patch, if_pos ha, cells_congr h, h a ha.1 ha.2]

theorem patch_patch_of_apart (h : Apart width p q) (ha : p ≤ a ∧ a < p+width) :
    patch f width p (patch f width q m) a = patch f width p m a := by
  refine patch_congr (fun b hb hb' => patch_of_outside ?_) ha
  unfold Apart at h
  omega

theorem patchAll_of_outside {ps : List ℕ} (h : ∀ p ∈ ps, ¬(p ≤ a ∧ a < p+width)) :
    patchAll f width ps m a = m a := by
  induction ps generalizing m with
  | nil => rfl
  | cons p ps ih =>
    obtain ⟨hp,hps⟩ := List.forall_mem_cons.mp h
    calc patchAll f width (p :: ps) m a = patchAll f width ps (patch f width p m) a := rfl
      _ = patch f width p m a := ih hps
      _ = m a := patch_of_outside hp

/-- Where one of the patches covers a cell, the others do not matter. -/
theorem patchAll_of_mem {ps : List ℕ} (hps : ps.Pairwise (Apart width)) (hp : p ∈ ps)
    (ha : p ≤ a ∧ a < p+width) : patchAll f width ps m a = patch f width p m a := by
  induction ps generalizing m with
  | nil => cases hp
  | cons q ps ih =>
    obtain ⟨hq,hps⟩ := List.pairwise_cons.mp hps
    change patchAll f width ps (patch f width q m) a = _
    obtain rfl | hp := List.mem_cons.mp hp
    · refine patchAll_of_outside fun r hr => ?_
      have hapart := hq r hr
      unfold Apart at hapart
      omega
    · rw [ih hps hp]
      exact patch_patch_of_apart (hq p hp).symm ha

/-- In a region that contains or misses every window, only the windows inside count. -/
theorem patchAll_agree {ps qs : List ℕ} (hagree : Agree base n m m')
    (hps : ps.Pairwise (Apart width)) (hqs : qs.Pairwise (Apart width))
    (hinside : ∀ p, p ∈ qs ↔ p ∈ ps ∧ base ≤ p ∧ p+width ≤ base+n)
    (hmisses : ∀ p ∈ ps, p+width ≤ base ∨ base+n ≤ p ∨ base ≤ p ∧ p+width ≤ base+n) :
    Agree base n (patchAll f width ps m) (patchAll f width qs m') := by
  intro a ha ha'
  by_cases hcovered : ∃ q ∈ qs, q ≤ a ∧ a < q+width
  · obtain ⟨q,hq,hqa⟩ := hcovered
    obtain ⟨hqp,hlow,hhigh⟩ := (hinside q).mp hq
    have hwindow : Agree q width m m' := fun b hb hb' => hagree b (by omega) (by omega)
    rw [patchAll_of_mem hps hqp hqa, patchAll_of_mem hqs hq hqa, patch_congr hwindow hqa]
  · push Not at hcovered
    rw [patchAll_of_outside fun q hq hqa => absurd hqa.2 (hcovered q hq hqa.1).not_gt,
      patchAll_of_outside, hagree a ha ha']
    intro p hp hpa
    obtain h | h | ⟨hlow,hhigh⟩ := hmisses p hp
    · omega
    · omega
    · exact absurd hpa.2 (hcovered p ((hinside p).mpr ⟨hp,hlow,hhigh⟩) hpa.1).not_gt

/-- What the patches leave in one of their windows. -/
theorem cells_patchAll {ps : List ℕ} (hps : ps.Pairwise (Apart width)) (hp : p ∈ ps)
    (hlength : (f (cells m p width)).length = width) :
    cells (patchAll f width ps m) p width = f (cells m p width) := by
  refine List.ext_getElem (by rw [length_cells, hlength]) fun i h1 h2 => ?_
  have hi : i < width := hlength ▸ h2
  have hwindow : p ≤ p+i ∧ p+i < p+width := by omega
  simp only [cells, List.getElem_map, List.getElem_range] at h2 ⊢
  rw [patchAll_of_mem hps hp hwindow, patch, if_pos hwindow, Nat.add_sub_cancel_left]
  exact List.getD_eq_getElem _ _ h2

/-- Patches of the same windows compose to patches there. -/
theorem patchAll_patchAll {g : List A → List A} {ps : List ℕ} (hps : ps.Pairwise (Apart width))
    (hf : ∀ xs, xs.length = width → (f xs).length = width)
    (hg : ∀ xs, xs.length = width → (g xs).length = width) :
    patchAll f width ps (patchAll g width ps m) = patchAll (f ∘ g) width ps m := by
  funext a
  by_cases hcovered : ∃ p ∈ ps, p ≤ a ∧ a < p+width
  · obtain ⟨p,hp,ha⟩ := hcovered
    have hcells := hg _ (length_cells m p width)
    have hlt : a-p < (f (g (cells m p width))).length := by
      rw [hf _ hcells]
      omega
    rw [patchAll_of_mem hps hp ha, patchAll_of_mem hps hp ha, patch, patch, if_pos ha, if_pos ha,
      cells_patchAll hps hp hcells, Function.comp_apply, List.getD_eq_getElem _ _ hlt,
      List.getD_eq_getElem _ _ hlt]
  · push Not at hcovered
    have houtside (q : ℕ) (hq : q ∈ ps) : ¬(q ≤ a ∧ a < q+width) := fun h =>
      absurd h.2 (hcovered q hq h.1).not_gt
    rw [patchAll_of_outside houtside, patchAll_of_outside houtside, patchAll_of_outside houtside]

/-- Patches that change nothing. -/
theorem patchAll_of_fixed {ps : List ℕ} (hps : ps.Pairwise (Apart width))
    (hf : ∀ xs, xs.length = width → f xs = xs) : patchAll f width ps m = m := by
  funext a
  by_cases hcovered : ∃ p ∈ ps, p ≤ a ∧ a < p+width
  · obtain ⟨p,hp,ha⟩ := hcovered
    have hlt : a-p < (cells m p width).length := by
      rw [length_cells]
      omega
    rw [patchAll_of_mem hps hp ha, patch, if_pos ha, hf _ (length_cells m p width),
      List.getD_eq_getElem _ _ hlt]
    simp only [cells, List.getElem_map, List.getElem_range, Nat.add_sub_cancel' ha.1]
  · push Not at hcovered
    exact patchAll_of_outside fun q hq h => absurd h.2 (hcovered q hq h.1).not_gt

theorem Shows.congr {v : Vector A n} (h : Shows base v m) (hagree : Agree base n m m') :
    Shows base v m' := fun i hi => (h i hi).trans (hagree (base+i) (by omega) (by omega))

theorem Shows.cells_eq {v : Vector A n} (h : Shows base v m) {offset : ℕ}
    (hfits : offset+width ≤ n) :
    (v.toList.drop offset).take width = cells m (base+offset) width := by
  refine List.ext_getElem ?_ fun i h1 h2 => ?_
  · rw [List.length_take, List.length_drop, Vector.length_toList, length_cells]
    omega
  · rw [length_cells] at h2
    have hi : offset+i < n := by omega
    simp only [List.getElem_take, List.getElem_drop, Vector.getElem_toList, cells,
      List.getElem_map, List.getElem_range]
    rw [h _ hi, Nat.add_assoc]

theorem Shows.eq {v v' : Vector A n} (h : Shows base v m) (h' : Shows base v' m) : v = v' :=
  Vector.ext fun i hi => (h i hi).trans (h' i hi).symm

/-- Rewriting a part of the buffer is patching the memory there. -/
theorem Shows.splice {f : List UInt8 → List UInt8} {v : Vector UInt8 n} {m : ℕ → UInt8}
    (h : Shows base v m) {offset : ℕ} (hfits : offset+width ≤ n)
    (hlength : ∀ xs, xs.length = width → (f xs).length = width) :
    Shows base (splice offset (f ((v.toList.drop offset).take width)) v)
      (patch f width (base+offset) m) := by
  intro i hi
  have hpatched := hlength _ (length_cells m (base+offset) width)
  rw [getElem_splice _ _ _ hi, h.cells_eq hfits, h i hi, patch]
  by_cases hlow : offset ≤ i
  · rw [if_pos hlow]
    by_cases hhigh : i < offset+width
    · rw [if_pos ⟨by omega,by omega⟩, Nat.add_sub_add_left]
    · rw [if_neg (by omega), List.getD_eq_default _ _ (by omega)]
  · rw [if_neg hlow, if_neg (by omega)]

end Patches
