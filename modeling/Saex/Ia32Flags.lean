import Saex.Ia32

/-! Flags: which bits an instruction leaves alone, what the conditions say about the operands,
and the flags as programs compute them with shifts, exclusive ors and masks. -/
namespace Ia32

variable {a b f mask free v x y : BitVec 32}

/-! Blended words. -/

theorem getLsbD_blend (f mask v : BitVec 32) (i : ℕ) :
    (blend f mask v).getLsbD i = if mask.getLsbD i then v.getLsbD i else f.getLsbD i := by
  rw [blend, BitVec.getLsbD_or, BitVec.getLsbD_and, BitVec.getLsbD_and, BitVec.getLsbD_not]
  by_cases hi : i < 32
  · cases mask.getLsbD i <;> simp [hi]
  · have hmask : mask.getLsbD i = false := BitVec.getLsbD_of_ge _ _ (by omega)
    have hf : f.getLsbD i = false := BitVec.getLsbD_of_ge _ _ (by omega)
    simp [hmask, hf]

/-- Bits outside the mask are left alone. -/
theorem blend_and_of_disjoint (h : mask &&& x = 0) : blend f mask v &&& x = f &&& x := by
  apply BitVec.eq_of_getLsbD_eq
  intro i _
  have hi := congrArg (fun w => w.getLsbD i) h
  simp only [BitVec.getLsbD_and, BitVec.ofNat_eq_ofNat, BitVec.getLsbD_zero] at hi
  rw [BitVec.getLsbD_and, BitVec.getLsbD_and, getLsbD_blend]
  cases hmask : mask.getLsbD i with
  | false => rfl
  | true =>
    rw [hmask, Bool.true_and] at hi
    simp [hi]

/-- Bits in the mask come from the new word. -/
theorem blend_and_of_within (h : x &&& mask = x) : blend f mask v &&& x = v &&& x := by
  apply BitVec.eq_of_getLsbD_eq
  intro i _
  have hi := congrArg (fun w => w.getLsbD i) h
  simp only [BitVec.getLsbD_and] at hi
  rw [BitVec.getLsbD_and, BitVec.getLsbD_and, getLsbD_blend]
  cases hmask : mask.getLsbD i with
  | true => rfl
  | false =>
    rw [hmask, Bool.and_false] at hi
    simp [← hi]

/-- Nothing but bits in the mask has changed. -/
theorem xor_and_eq_zero : (x ^^^ y) &&& mask = 0 ↔ x &&& mask = y &&& mask := by
  have hdistrib : (x ^^^ y) &&& mask = x &&& mask ^^^ y &&& mask := by
    ext i hi
    simp only [BitVec.getElem_and, BitVec.getElem_xor]
    cases mask[i] <;> simp
  rw [hdistrib]
  exact BitVec.xor_eq_zero_iff

theorem or_and (x y mask : BitVec 32) : (x ||| y) &&& mask = x &&& mask ||| y &&& mask := by
  ext i hi
  simp only [BitVec.getElem_and, BitVec.getElem_or]
  cases mask[i] <;> simp

/-- Words that agree on a mask agree on any part of it. -/
theorem and_eq_of_agree (h : x &&& mask = y &&& mask) (hpart : mask &&& v = v) :
    x &&& v = y &&& v := by
  calc x &&& v = x &&& (mask &&& v) := by rw [hpart]
    _ = y &&& (mask &&& v) := by rw [← BitVec.and_assoc, h, BitVec.and_assoc]
    _ = y &&& v := by rw [hpart]

/-- What is overwritten does not matter. -/
theorem blend_blend_of_within {mask' v' : BitVec 32} (h : mask &&& mask' = mask) :
    blend (blend f mask v) mask' v' = blend f mask' v' := by
  apply BitVec.eq_of_getLsbD_eq
  intro i _
  have hi := congrArg (fun w => w.getLsbD i) h
  simp only [BitVec.getLsbD_and] at hi
  rw [getLsbD_blend, getLsbD_blend, getLsbD_blend]
  cases hmask : mask'.getLsbD i with
  | true => rfl
  | false =>
    rw [hmask, Bool.and_false] at hi
    simp [← hi]

@[simp] theorem blend_blend_self (f mask v v' : BitVec 32) :
    blend (blend f mask v) mask v' = blend f mask v' :=
  blend_blend_of_within BitVec.and_self

/-- The resume flag does not depend on the others, so its turn may come first. -/
theorem blend_resumeFlag (h : mask &&& resumeFlag = 0) :
    blend (blend f mask v) resumeFlag 0#32 = blend (blend f resumeFlag 0#32) mask v := by
  apply BitVec.eq_of_getLsbD_eq
  intro i _
  have hi := congrArg (fun w => w.getLsbD i) h
  simp only [BitVec.getLsbD_and, BitVec.ofNat_eq_ofNat, BitVec.getLsbD_zero] at hi
  rw [getLsbD_blend, getLsbD_blend, getLsbD_blend, getLsbD_blend]
  cases hmask : mask.getLsbD i with
  | true =>
    rw [hmask, Bool.true_and] at hi
    simp [hi]
  | false => simp

/-- Flags are known, but for free ones, when those of a mask are and the rest has not changed. -/
theorem agree_iff {free rest result : BitVec 32} (hresult : y &&& mask = result)
    (hrest : y &&& rest = f &&& rest) (hcover : ~~~free = mask ||| rest) :
    x &&& mask = result ∧ (x ^^^ f) &&& rest = 0 ↔ x &&& ~~~free = y &&& ~~~free := by
  rw [xor_and_eq_zero, ← hresult, ← hrest, hcover]
  constructor
  · intro h
    apply BitVec.eq_of_getLsbD_eq
    intro i _
    have hin := congrArg (fun w => w.getLsbD i) h.1
    have hout := congrArg (fun w => w.getLsbD i) h.2
    simp only [BitVec.getLsbD_and, BitVec.getLsbD_or] at hin hout ⊢
    rw [Bool.and_or_distrib_left, Bool.and_or_distrib_left, hin, hout]
  · intro h
    exact ⟨and_eq_of_agree h (by ext i hi; simp +contextual),
      and_eq_of_agree h (by ext i hi; simp +contextual)⟩

/-! Single flags. -/

theorem flag_eq (n : ℕ) (c : Bool) : flag n c = if c then BitVec.twoPow 32 n else 0 := by
  have htwo : BitVec.ofNat 32 (2^n) = BitVec.twoPow 32 n := by
    apply BitVec.eq_of_toNat_eq
    rw [BitVec.toNat_ofNat, BitVec.toNat_twoPow]
  rw [flag, htwo]

theorem getLsbD_flag {n : ℕ} (h : n < 32) (c : Bool) (i : ℕ) :
    (flag n c).getLsbD i = (c && decide (n = i)) := by
  rw [flag_eq]
  cases c with
  | false => simp
  | true => simp [BitVec.getLsbD_twoPow, h]

/-- Masked with a power of two, a shifted word is one of its bits. -/
theorem shiftRight_and_twoPow (v : BitVec 32) (k n : ℕ) :
    (v >>> k) &&& BitVec.twoPow 32 n = flag n (v.getLsbD (k+n)) := by
  rw [BitVec.and_twoPow, BitVec.getLsbD_ushiftRight, flag_eq]
  rfl

theorem and_twoPow_eq_flag (v : BitVec 32) (n : ℕ) :
    v &&& BitVec.twoPow 32 n = flag n (v.getLsbD n) := by
  rw [BitVec.and_twoPow, flag_eq]
  rfl

theorem flag_decide (n : ℕ) (q : Prop) [Decidable q] :
    flag n (decide q) = if q then BitVec.ofNat 32 (2^n) else 0 := by
  simp only [flag, decide_eq_true_eq]

/-! The flags of results. -/

/-- The borrow into bit 4 is where operands and result do not add up. -/
theorem borrow_four (a b : BitVec 32) :
    (a ^^^ b ^^^ (a-b)).getLsbD 4 = decide (a.toNat%16 < b.toNat%16) := by
  have ha := a.isLt
  have hb := b.isLt
  have hbit : (2^32-b.toNat+a.toNat)%2^32/2^4%2 =
      (a.toNat/2^4%2+b.toNat/2^4%2+if a.toNat%16 < b.toNat%16 then 1 else 0)%2 := by
    split <;> omega
  rw [BitVec.getLsbD_xor, BitVec.getLsbD_xor, BitVec.getLsbD, BitVec.getLsbD, BitVec.getLsbD,
    BitVec.toNat_sub, Nat.testBit_eq_decide_div_mod_eq, Nat.testBit_eq_decide_div_mod_eq,
    Nat.testBit_eq_decide_div_mod_eq, hbit]
  obtain hx | hx := Nat.mod_two_eq_zero_or_one (a.toNat/2^4)
  all_goals
    obtain hy | hy := Nat.mod_two_eq_zero_or_one (b.toNat/2^4)
    all_goals
      rw [hx, hy]
      by_cases h : a.toNat%16 < b.toNat%16 <;> simp [h]

/-- The carry into bit 4 is where operands and sum do not add up. -/
theorem carry_four (a b : BitVec 32) :
    (a ^^^ b ^^^ (a+b)).getLsbD 4 = decide (16 ≤ a.toNat%16+b.toNat%16) := by
  have ha := a.isLt
  have hb := b.isLt
  have hbit : (a.toNat+b.toNat)%2^32/2^4%2 =
      (a.toNat/2^4%2+b.toNat/2^4%2+if 16 ≤ a.toNat%16+b.toNat%16 then 1 else 0)%2 := by
    split <;> omega
  rw [BitVec.getLsbD_xor, BitVec.getLsbD_xor, BitVec.getLsbD, BitVec.getLsbD, BitVec.getLsbD,
    BitVec.toNat_add, Nat.testBit_eq_decide_div_mod_eq, Nat.testBit_eq_decide_div_mod_eq,
    Nat.testBit_eq_decide_div_mod_eq, hbit]
  obtain hx | hx := Nat.mod_two_eq_zero_or_one (a.toNat/2^4)
  all_goals
    obtain hy | hy := Nat.mod_two_eq_zero_or_one (b.toNat/2^4)
    all_goals
      rw [hx, hy]
      by_cases h : 16 ≤ a.toNat%16+b.toNat%16 <;> simp [h]

/-- Signed overflow: the operands differ in sign, and so do the first one and the result. -/
theorem ssubOverflow_eq_msb (a b : BitVec 32) :
    a.ssubOverflow b = ((a ^^^ b) &&& (a ^^^ (a-b))).msb := by
  rw [BitVec.ssubOverflow_eq, BitVec.msb_and, BitVec.msb_xor, BitVec.msb_xor]
  cases a.msb <;> cases b.msb <;> cases (a-b).msb <;> rfl

/-- Signed overflow of a sum: the operands have one sign, and the result has the other. -/
theorem saddOverflow_eq_msb (a b : BitVec 32) :
    a.saddOverflow b = (~~~(a ^^^ b) &&& (a ^^^ (a+b))).msb := by
  rw [BitVec.saddOverflow_eq, BitVec.msb_and, BitVec.msb_not, BitVec.msb_xor, BitVec.msb_xor]
  cases a.msb <;> cases b.msb <;> cases (a+b).msb <;> rfl

theorem resultFlags_within (v : BitVec 32) : resultFlags v &&& 0xc4 = resultFlags v := by
  have hall : ∀ p z s : Bool, (flag 2 p ||| flag 6 z ||| flag 7 s) &&& 0xc4 =
      flag 2 p ||| flag 6 z ||| flag 7 s := by decide
  exact hall _ _ _

theorem resultFlags_arithmetic (v : BitVec 32) : resultFlags v &&& arithmeticFlags = resultFlags v := by
  rw [← resultFlags_within, BitVec.and_assoc]
  rfl

/-- Nothing but arithmetic flags. -/
theorem sixFlags_within (c x o p z s : Bool) : (flag 0 c ||| flag 4 x ||| flag 11 o |||
    (flag 2 p ||| flag 6 z ||| flag 7 s)) &&& arithmeticFlags =
      flag 0 c ||| flag 4 x ||| flag 11 o ||| (flag 2 p ||| flag 6 z ||| flag 7 s) := by
  revert c x o p z s
  decide

theorem addFlags_within (a b : BitVec 32) : addFlags a b &&& arithmeticFlags = addFlags a b :=
  sixFlags_within _ _ _ _ _ _

theorem subFlags_within (a b : BitVec 32) : subFlags a b &&& arithmeticFlags = subFlags a b :=
  sixFlags_within _ _ _ _ _ _

theorem getLsbD_resultFlags (v : BitVec 32) (i : ℕ) :
    (resultFlags v).getLsbD i = (evenParity v && decide (2 = i) || decide (v = 0) && decide (6 = i) ||
      v.msb && decide (7 = i)) := by
  rw [resultFlags, BitVec.getLsbD_or, BitVec.getLsbD_or, getLsbD_flag (by decide),
    getLsbD_flag (by decide), getLsbD_flag (by decide)]

/-- Nothing is borrowed for zero. -/
@[simp] theorem subFlags_zero (v : BitVec 32) : subFlags v 0#32 = resultFlags v := by
  have hoverflow : v.ssubOverflow 0#32 = false := by
    rw [ssubOverflow_eq_msb]
    simp
  simp [subFlags, hoverflow, flag]

theorem getLsbD_subFlags (a b : BitVec 32) (i : ℕ) : (subFlags a b).getLsbD i =
    (decide (a < b) && decide (0 = i) || decide (a.toNat%16 < b.toNat%16) && decide (4 = i) ||
      a.ssubOverflow b && decide (11 = i) || (resultFlags (a-b)).getLsbD i) := by
  rw [subFlags, BitVec.getLsbD_or, BitVec.getLsbD_or, BitVec.getLsbD_or, getLsbD_flag (by decide),
    getLsbD_flag (by decide), getLsbD_flag (by decide)]

/-- Sign and overflow together tell the order of signed numbers. -/
theorem msb_sub_ne_ssubOverflow (a b : BitVec 32) : ((a-b).msb != a.ssubOverflow b) = a.slt b := by
  have ha := a.isLt
  have hb := b.isLt
  rw [BitVec.ssubOverflow, BitVec.slt, BitVec.msb_eq_decide, BitVec.toNat_sub, BitVec.toInt_eq_toNat_cond,
    BitVec.toInt_eq_toNat_cond, Bool.eq_iff_iff, bne_iff_ne, Ne, Bool.eq_iff_iff]
  simp only [decide_eq_true_eq, Bool.or_eq_true]
  split <;> split <;> omega

theorem subFlags_self (v : BitVec 32) : subFlags v v = 0x44 := by
  have hoverflow : v.ssubOverflow v = false := by
    rw [ssubOverflow_eq_msb]
    simp
  simp [subFlags, hoverflow, flag]
  decide

/-! The conditions behind a comparison. -/

theorem holds_less (f a b : BitVec 32) :
    Condition.less.holds (blend f arithmeticFlags (subFlags a b)) = a.slt b := by
  rw [← msb_sub_ne_ssubOverflow, Condition.holds, getLsbD_blend, getLsbD_blend, getLsbD_subFlags,
    getLsbD_subFlags, getLsbD_resultFlags, getLsbD_resultFlags]
  simp [arithmeticFlags]

theorem holds_zero (f a b : BitVec 32) :
    Condition.zero.holds (blend f arithmeticFlags (subFlags a b)) = decide (a = b) := by
  have hiff : a-b = 0#32 ↔ a = b := sub_eq_zero
  rw [Condition.holds, getLsbD_blend, getLsbD_subFlags, getLsbD_resultFlags]
  simp [arithmeticFlags, hiff]

theorem holds_zero_logic (f v u : BitVec 32) :
    Condition.zero.holds (blend f arithmeticFlags (resultFlags v ||| u &&& 16#32)) = decide (v = 0) := by
  rw [Condition.holds, getLsbD_blend, BitVec.getLsbD_or, BitVec.getLsbD_and, getLsbD_resultFlags]
  simp [arithmeticFlags]

theorem holds_carryOrZero (f a b : BitVec 32) :
    Condition.carryOrZero.holds (blend f arithmeticFlags (subFlags a b)) = decide (a ≤ b) := by
  have hiff : a-b = 0#32 ↔ a = b := sub_eq_zero
  rw [Condition.holds, getLsbD_blend, getLsbD_blend, getLsbD_subFlags, getLsbD_subFlags,
    getLsbD_resultFlags, getLsbD_resultFlags]
  have hle : a ≤ b ↔ a < b ∨ a = b := by
    constructor <;> intro h <;> bv_omega
  simp [arithmeticFlags, hiff, hle]

/-! The flags by masks. -/

/-- The flags of `v` by masks. -/
theorem resultFlags_eq_masks (v : BitVec 32) :
    resultFlags v = (if evenParity v then 4#32 else 0) ||| (if v = 0 then 64#32 else 0) |||
      ((v >>> 24) &&& 128#32) := by
  have hsign : (v >>> 24) &&& 128#32 = flag 7 v.msb := shiftRight_and_twoPow v 24 7
  rw [hsign, resultFlags, flag_decide]
  rfl

/-- The flags of `a-b` from the operands and the result. -/
theorem subFlags_eq_masks (a b : BitVec 32) :
    subFlags a b = (if a < b then 1#32 else 0) ||| ((a ^^^ b ^^^ (a-b)) &&& 16#32) |||
      ((((a ^^^ b) &&& (a ^^^ (a-b))) >>> 20) &&& 0x800#32) ||| resultFlags (a-b) := by
  have hadjust : (a ^^^ b ^^^ (a-b)) &&& 16#32 = flag 4 (a.toNat%16 < b.toNat%16) := by
    rw [← borrow_four]
    exact and_twoPow_eq_flag _ 4
  have hoverflow : (((a ^^^ b) &&& (a ^^^ (a-b))) >>> 20) &&& 0x800#32 = flag 11 (a.ssubOverflow b) := by
    rw [ssubOverflow_eq_msb]
    exact shiftRight_and_twoPow _ 20 11
  rw [hadjust, hoverflow, subFlags, flag_decide]
  rfl

/-- Masked with the top bit a word tells its sign. -/
theorem and_top_ne_zero (v : BitVec 32) : v &&& 0x80000000 ≠ 0 ↔ v.msb := by
  have htop : v &&& 0x80000000 = flag 31 (v.getLsbD 31) := and_twoPow_eq_flag v 31
  rw [htop, BitVec.msb_eq_getLsbD_last]
  cases v.getLsbD (32-1) <;> decide

/-- The flags of `a+b` from the operands and the sum. -/
theorem addFlags_eq_masks (a b : BitVec 32) :
    addFlags a b = (if 2^32 ≤ a.toNat+b.toNat then 1#32 else 0) ||| ((a ^^^ b ^^^ (a+b)) &&& 16#32) |||
      (if (~~~(a ^^^ b) &&& (a ^^^ (a+b))) &&& 0x80000000 ≠ 0 then 0x800#32 else 0) |||
        resultFlags (a+b) := by
  have hadjust : (a ^^^ b ^^^ (a+b)) &&& 16#32 = flag 4 (16 ≤ a.toNat%16+b.toNat%16) := by
    rw [← carry_four]
    exact and_twoPow_eq_flag _ 4
  simp only [and_top_ne_zero, ← saddOverflow_eq_msb]
  rw [hadjust, addFlags, flag_decide]
  rfl

end Ia32
