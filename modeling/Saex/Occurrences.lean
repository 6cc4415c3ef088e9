import Mathlib.Data.List.Infix
import Mathlib.Data.List.TakeDrop
import Mathlib.Tactic.Common

/-! Where a pattern stands in a list: the count that goes from the left and does not let
occurrences overlap, and the replacement of the first occurrence. -/
namespace Occurrences
variable {A : Type*} [DecidableEq A]

def OccursAt (old data : List A) (p : ℕ) : Prop := old <+: data.drop p

/-- The occurrences counted from the left, where the first `skip` elements are used up. -/
def countFrom (old : List A) : ℕ → List A → ℕ
  | _, [] => 0
  | skip+1, _ :: rest => countFrom old skip rest
  | 0, x :: rest =>
    if old <+: x :: rest then countFrom old (old.length-1) rest+1 else countFrom old 0 rest

def replaceFirst (old new : List A) : List A → List A
  | [] => []
  | x :: rest =>
    if old <+: x :: rest then new++(x :: rest).drop old.length
    else x :: replaceFirst old new rest

/-- The first occurrence. -/
def FirstAt (old data : List A) (p : ℕ) : Prop :=
  OccursAt old data p ∧ ∀ q < p, ¬OccursAt old data q

/-- Moved by `d`, the pattern agrees with itself, and the data goes on behind its first
occurrence as it would have to for the moved one to be there as well. -/
def Echoes (old data : List A) : Prop :=
  ∃ p d, FirstAt old data p ∧ 0 < d ∧ d < old.length ∧ old.drop d <+: old ∧
    old.drop (old.length-d) <+: data.drop (p+old.length)

variable {old new data rest : List A} {x : A} {p q d : ℕ}

omit [DecidableEq A] in
theorem occursAt_zero : OccursAt old data 0 ↔ old <+: data := by
  rw [OccursAt, List.drop_zero]

omit [DecidableEq A] in
theorem occursAt_cons_succ : OccursAt old (x :: rest) (p+1) ↔ OccursAt old rest p := by
  rw [OccursAt, List.drop_succ_cons, OccursAt]

omit [DecidableEq A] in
theorem occursAt_drop (n : ℕ) : OccursAt old (data.drop n) p ↔ OccursAt old data (n+p) := by
  rw [OccursAt, List.drop_drop, OccursAt]

omit [DecidableEq A] in
theorem not_occursAt_nil (hold : old ≠ []) (p : ℕ) : ¬OccursAt old [] p := by
  rw [OccursAt, List.drop_nil]
  exact fun h => hold (List.prefix_nil.mp h)

theorem countFrom_skip (skip : ℕ) (data : List A) :
    countFrom old skip data = countFrom old 0 (data.drop skip) := by
  induction data generalizing skip with
  | nil => cases skip <;> rfl
  | cons x rest ih =>
    cases skip with
    | zero => rfl
    | succ skip =>
      rw [countFrom, List.drop_succ_cons]
      exact ih skip

theorem countFrom_cons_prefixed (hold : old ≠ []) (h : old <+: x :: rest) :
    countFrom old 0 (x :: rest) = countFrom old 0 ((x :: rest).drop old.length)+1 := by
  have hlength : old.length = old.length-1+1 := by
    have hpos := List.length_pos_iff.mpr hold
    omega
  rw [countFrom, if_pos h, countFrom_skip, hlength, List.drop_succ_cons, Nat.add_sub_cancel]

theorem countFrom_eq_zero_iff (hold : old ≠ []) :
    countFrom old 0 data = 0 ↔ ∀ p, ¬OccursAt old data p := by
  induction data with
  | nil => exact iff_of_true rfl (not_occursAt_nil hold)
  | cons x rest ih =>
    by_cases h : old <+: x :: rest
    · rw [countFrom, if_pos h]
      exact iff_of_false (Nat.succ_ne_zero _) fun hnot => hnot 0 (occursAt_zero.mpr h)
    · rw [countFrom, if_neg h, ih]
      constructor
      · intro hnot p
        cases p with
        | zero => exact fun h0 => h (occursAt_zero.mp h0)
        | succ p => exact fun hp => hnot p (occursAt_cons_succ.mp hp)
      · exact fun hnot p hp => hnot (p+1) (occursAt_cons_succ.mpr hp)

/-- One is counted when none begins behind the end of the first. -/
theorem countFrom_eq_one_iff (hold : old ≠ []) : countFrom old 0 data = 1 ↔
    ∃ p, FirstAt old data p ∧ ∀ q, p+old.length ≤ q → ¬OccursAt old data q := by
  induction data with
  | nil =>
    refine iff_of_false (fun h => ?_) ?_
    · rw [countFrom] at h
      exact absurd h (by decide)
    · rintro ⟨p,⟨hp,_⟩,_⟩
      exact not_occursAt_nil hold p hp
  | cons x rest ih =>
    by_cases h : old <+: x :: rest
    · have hzero : FirstAt old (x :: rest) 0 :=
        ⟨occursAt_zero.mpr h,fun q hq => absurd hq (Nat.not_lt_zero q)⟩
      rw [countFrom_cons_prefixed hold h, Nat.add_eq_right, countFrom_eq_zero_iff hold]
      constructor
      · intro hnot
        refine ⟨0,hzero,fun q hq hocc => hnot (q-old.length) ?_⟩
        rwa [occursAt_drop, Nat.add_sub_cancel' (by omega)]
      · rintro ⟨p,⟨hp,hfirst⟩,hnot⟩ q hq
        have hp0 : p = 0 := by
          by_contra hne
          exact hfirst 0 (Nat.pos_of_ne_zero hne) hzero.1
        rw [occursAt_drop] at hq
        exact hnot _ (by omega) hq
    · rw [countFrom, if_neg h, ih]
      constructor
      · rintro ⟨p,⟨hp,hfirst⟩,hnot⟩
        refine ⟨p+1,⟨occursAt_cons_succ.mpr hp,fun q hq => ?_⟩,fun q hq => ?_⟩
        · cases q with
          | zero => exact fun h0 => h (occursAt_zero.mp h0)
          | succ q => exact fun hocc => hfirst q (by omega) (occursAt_cons_succ.mp hocc)
        · obtain ⟨q,rfl⟩ : ∃ n, q = n+1 := ⟨q-1,by omega⟩
          exact fun hocc => hnot q (by omega) (occursAt_cons_succ.mp hocc)
      · rintro ⟨p,⟨hp,hfirst⟩,hnot⟩
        cases p with
        | zero => exact absurd (occursAt_zero.mp hp) h
        | succ p =>
          exact ⟨p,⟨occursAt_cons_succ.mp hp,fun q hq hocc =>
              hfirst (q+1) (by omega) (occursAt_cons_succ.mpr hocc)⟩,
            fun q hq hocc => hnot (q+1) (by omega) (occursAt_cons_succ.mpr hocc)⟩

theorem replaceFirst_eq (hold : old ≠ []) (h : FirstAt old data p) :
    replaceFirst old new data = data.take p++new++data.drop (p+old.length) := by
  induction data generalizing p with
  | nil => exact absurd h.1 (not_occursAt_nil hold p)
  | cons x rest ih =>
    obtain ⟨hp,hfirst⟩ := h
    cases p with
    | zero =>
      rw [replaceFirst, if_pos (occursAt_zero.mp hp), List.take_zero, List.nil_append, Nat.zero_add]
    | succ p =>
      have hnot : ¬old <+: x :: rest := fun h0 => hfirst 0 (by omega) (occursAt_zero.mpr h0)
      have hrest : FirstAt old rest p := ⟨occursAt_cons_succ.mp hp,
        fun q hq hocc => hfirst (q+1) (by omega) (occursAt_cons_succ.mpr hocc)⟩
      rw [replaceFirst, if_neg hnot, ih hrest, List.take_succ_cons, Nat.add_right_comm,
        List.drop_succ_cons, List.cons_append, List.cons_append]

omit [DecidableEq A] in
/-- A prefix of two lists, one after the other, that is at least as long as the first. -/
theorem prefix_append_iff {xs ys zs : List A} (h : xs.length ≤ zs.length) :
    zs <+: xs++ys ↔ xs <+: zs ∧ zs.drop xs.length <+: ys := by
  constructor
  · intro hz
    have hxs : xs <+: zs := List.prefix_of_prefix_length_le (List.prefix_append xs ys) hz h
    obtain ⟨tail,rfl⟩ := hxs
    rw [List.drop_left]
    exact ⟨List.prefix_append _ _,(List.prefix_append_right_inj xs).mp hz⟩
  · rintro ⟨⟨tail,rfl⟩,htail⟩
    rw [List.drop_left] at htail
    exact (List.prefix_append_right_inj xs).mpr htail

omit [DecidableEq A] in
/-- An occurrence that overlaps another one, in terms of what stands behind that one. -/
theorem occursAt_add_iff (h : OccursAt old data p) (hd : d < old.length) :
    OccursAt old data (p+d) ↔
      old.drop d <+: old ∧ old.drop (old.length-d) <+: data.drop (p+old.length) := by
  obtain ⟨tail,htail⟩ := h
  have hbehind : data.drop (p+old.length) = tail := by
    rw [← List.drop_drop, ← htail, List.drop_left]
  have hmoved : data.drop (p+d) = old.drop d++tail := by
    rw [← List.drop_drop, ← htail, List.drop_append_of_le_length hd.le]
  rw [OccursAt, hmoved, hbehind, prefix_append_iff (by simp), List.length_drop]

/-- Where one occurrence is counted, it is the only one unless it is echoed. -/
theorem unique_iff (hold : old ≠ []) (h : countFrom old 0 data = 1) :
    (∃ p, ∀ q, OccursAt old data q ↔ q = p) ↔ ¬Echoes old data := by
  obtain ⟨p,hfirst,hbehind⟩ := (countFrom_eq_one_iff hold).mp h
  constructor
  · rintro ⟨p',hp'⟩ ⟨a,d,⟨ha,_⟩,hpos,hlt,hself,hnext⟩
    have hboth : OccursAt old data (a+d) := (occursAt_add_iff ha hlt).mpr ⟨hself,hnext⟩
    have h1 := (hp' _).mp ha
    have h2 := (hp' _).mp hboth
    omega
  · intro hnot
    refine ⟨p,fun q => ⟨fun hq => ?_,fun heq => heq ▸ hfirst.1⟩⟩
    by_contra hne
    rcases Nat.lt_or_gt_of_ne hne with hlt | hgt
    · exact hfirst.2 q hlt hq
    · obtain ⟨d,rfl⟩ : ∃ d, q = p+d := ⟨q-p,by omega⟩
      have hd : d < old.length := by
        by_contra hge
        exact hbehind _ (by omega) hq
      obtain ⟨hself,hnext⟩ := (occursAt_add_iff hfirst.1 hd).mp hq
      exact hnot ⟨p,d,hfirst,by omega,hd,hself,hnext⟩

end Occurrences
