import Mathlib.Data.List.GetD
import Mathlib.Data.UInt
import Mathlib.Tactic.Ring

/-! Little-endian numbers in byte strings, and the shift-and-or loops that read
and write them. -/
namespace LittleEndian

/-- The number whose base-256 digits, lowest first, are the bytes. -/
def value : List UInt8 → ℕ
  | [] => 0
  | b :: bs => b.toNat+256*value bs

/-- The low `width` bytes of a number, lowest first. -/
def bytes : ℕ → ℕ → List UInt8
  | 0, _ => []
  | width+1, n => UInt8.ofNat (n%256) :: bytes width (n/256)

@[simp] theorem value_nil : value [] = 0 := rfl

@[simp] theorem value_cons (b : UInt8) (bs : List UInt8) :
    value (b :: bs) = b.toNat+256*value bs := rfl

@[simp] theorem bytes_zero (n : ℕ) : bytes 0 n = [] := rfl

@[simp] theorem length_bytes (width n : ℕ) : (bytes width n).length = width := by
  induction width generalizing n with
  | zero => rfl
  | succ width ih => rw [bytes, List.length_cons, ih]

theorem value_lt (bs : List UInt8) : value bs < 256^bs.length := by
  induction bs with
  | nil => exact Nat.one_pos
  | cons b bs ih =>
    have hb := b.toNat_lt
    rw [value_cons, List.length_cons, pow_succ]
    omega

theorem value_bytes {width n : ℕ} (h : n < 256^width) : value (bytes width n) = n := by
  induction width generalizing n with
  | zero => exact (Nat.lt_one_iff.mp h).symm
  | succ width ih =>
    have hq : n/256 < 256^width := Nat.div_lt_of_lt_mul (by rwa [← pow_succ'])
    have hr : (UInt8.ofNat (n%256)).toNat = n%256 :=
      UInt8.toNat_ofNat_of_lt' (Nat.mod_lt n (by decide))
    rw [bytes, value_cons, ih hq, hr, Nat.mod_add_div]

theorem bytes_value (bs : List UInt8) : bytes bs.length (value bs) = bs := by
  induction bs with
  | nil => rfl
  | cons b bs ih =>
    have hb := b.toNat_lt
    have hlow : (b.toNat+256*value bs)%256 = b.toNat := by omega
    have hhigh : (b.toNat+256*value bs)/256 = value bs := by omega
    rw [List.length_cons, value_cons, bytes, hlow, hhigh, ih, UInt8.ofNat_toNat]

theorem value_eq_iff {bs : List UInt8} {width n : ℕ} (hl : bs.length = width)
    (h : n < 256^width) : value bs = n ↔ bs = bytes width n := by
  subst hl
  constructor
  · intro hv
    rw [← hv, bytes_value]
  · intro hb
    rw [hb, value_bytes h]

theorem value_append (xs ys : List UInt8) :
    value (xs++ys) = value xs+256^xs.length*value ys := by
  induction xs with
  | nil => rw [List.nil_append, value_nil, List.length_nil, pow_zero, one_mul, zero_add]
  | cons x xs ih =>
    rw [List.cons_append, value_cons, value_cons, ih, List.length_cons, pow_succ]
    ring

theorem getElem?_bytes {width n i : ℕ} (h : i < width) :
    (bytes width n)[i]? = some (UInt8.ofNat (n/256^i%256)) := by
  induction width generalizing n i with
  | zero => exact absurd h (Nat.not_lt_zero i)
  | succ width ih =>
    cases i with
    | zero => simp [bytes]
    | succ i =>
      rw [bytes, List.getElem?_cons_succ, ih (Nat.lt_of_succ_lt_succ h), Nat.div_div_eq_div_mul,
        ← pow_succ']

/-! The loops of the code: a reader ors each byte, shifted to its place, into an
accumulator, a writer shifts each byte down and cuts it off. -/
section Words
variable {w : ℕ}

/-- `value |= bytes[i] << 8*i`, from index `i` on. -/
def orLoop (v : BitVec w) : ℕ → List UInt8 → BitVec w
  | _, [] => v
  | i, b :: bs => orLoop (v ||| b.toBitVec.setWidth w <<< (8*i)) (i+1) bs

def read (w : ℕ) (bs : List UInt8) : BitVec w := orLoop 0 0 bs

/-- `bytes[i] = (value >> 8*i) & 0xff`. -/
def write (width : ℕ) (v : BitVec w) : List UInt8 :=
  (List.range width).map fun i => UInt8.ofBitVec ((v >>> (8*i)).setWidth 8)

theorem or_shifted {v i : ℕ} (h : v < 256^i) (b : ℕ) : v ||| b <<< (8*i) = v+256^i*b := by
  have hp : (256:ℕ)^i = 2^(8*i) := (pow_mul 2 8 i).symm
  rw [hp] at h ⊢
  rw [Nat.or_comm, ← Nat.shiftLeft_add_eq_or_of_lt h, Nat.shiftLeft_eq, mul_comm, add_comm]

/-- While the bytes fit in the word, the loop adds them up exactly. -/
theorem orLoop_toNat {v : BitVec w} {i : ℕ} (hv : v.toNat < 256^i) {bs : List UInt8}
    (hw : 8*(i+bs.length) ≤ w) : (orLoop v i bs).toNat = v.toNat+256^i*value bs := by
  induction bs generalizing v i with
  | nil => rw [orLoop, value_nil, mul_zero, add_zero]
  | cons b bs ih =>
    rw [List.length_cons] at hw
    have hb := b.toNat_lt
    have hbound : v.toNat+256^i*b.toNat < 256^(i+1) := by
      calc v.toNat+256^i*b.toNat < 256^i+256^i*b.toNat := Nat.add_lt_add_right hv _
        _ = 256^i*(b.toNat+1) := by ring
        _ ≤ 256^i*256 := Nat.mul_le_mul_left _ hb
        _ = 256^(i+1) := (pow_succ ..).symm
    have hfits : (256:ℕ)^(i+1) ≤ 2^w := by
      rw [show (256:ℕ) = 2^8 from rfl, ← pow_mul]
      exact Nat.pow_le_pow_right (by decide) (by omega)
    have hw8 : (256:ℕ) ≤ 2^w := by
      rw [show (256:ℕ) = 2^8 from rfl]
      exact Nat.pow_le_pow_right (by decide) (by omega)
    have hplace : b.toNat <<< (8*i) = 256^i*b.toNat := by
      rw [Nat.shiftLeft_eq, pow_mul, mul_comm, show (2:ℕ)^8 = 256 from rfl]
    have hlt : b.toNat <<< (8*i) < 2^w :=
      hplace ▸ (Nat.le_add_left _ _).trans_lt (hbound.trans_le hfits)
    have hbyte : (b.toBitVec.setWidth w <<< (8*i)).toNat = b.toNat <<< (8*i) := by
      rw [BitVec.toNat_shiftLeft, BitVec.toNat_setWidth, UInt8.toNat_toBitVec,
        Nat.mod_eq_of_lt (hb.trans_le hw8), Nat.mod_eq_of_lt hlt]
    have hstep : (v ||| b.toBitVec.setWidth w <<< (8*i)).toNat = v.toNat+256^i*b.toNat := by
      rw [BitVec.toNat_or, hbyte, or_shifted hv]
    rw [orLoop, ih (hstep ▸ hbound) (by omega), hstep, value_cons, pow_succ]
    ring

theorem read_toNat {bs : List UInt8} (h : 8*bs.length ≤ w) : (read w bs).toNat = value bs := by
  have hz : (0 : BitVec w).toNat < 256^0 := by rw [BitVec.ofNat_eq_ofNat, BitVec.toNat_ofNat]; simp
  rw [read, orLoop_toNat hz (by omega)]
  simp

theorem write_eq (width : ℕ) (v : BitVec w) : write width v = bytes width v.toNat := by
  refine List.ext_getElem? fun i => ?_
  by_cases hi : i < width
  · rw [getElem?_bytes hi, write, List.getElem?_map, List.getElem?_range hi, Option.map_some]
    congr 1
    apply UInt8.toNat_inj.mp
    simp only [UInt8.toNat_ofBitVec, BitVec.toNat_setWidth, BitVec.toNat_ushiftRight,
      UInt8.toNat_ofNat', Nat.shiftRight_eq_div_pow, pow_mul, Nat.reducePow, Nat.mod_mod]
  · have hw := not_lt.mp hi
    rw [List.getElem?_eq_none (by simpa [write] using hw),
      List.getElem?_eq_none (by simpa using hw)]

@[simp] theorem length_write (width : ℕ) (v : BitVec w) : (write width v).length = width := by
  rw [write_eq, length_bytes]

theorem read_write (v : BitVec w) {width : ℕ} (h : w = 8*width) : read w (write width v) = v := by
  apply BitVec.eq_of_toNat_eq
  have hlt : v.toNat < 256^width := by
    rw [show (256:ℕ) = 2^8 from rfl, ← pow_mul, ← h]
    exact v.isLt
  rw [read_toNat (by rw [length_write, h]), write_eq, value_bytes hlt]

theorem write_read {bs : List UInt8} (h : 8*bs.length ≤ w) :
    write bs.length (read w bs) = bs := by
  rw [write_eq, read_toNat h, bytes_value]

end Words

/-- A buffer with `source` put in at `offset`. -/
def splice {n : ℕ} (offset : ℕ) (source : List UInt8) (target : Vector UInt8 n) : Vector UInt8 n :=
  Vector.ofFn fun i => if offset ≤ i then source.getD (i-offset) (target.get i) else target.get i

theorem getElem_splice {n i : ℕ} (offset : ℕ) (source : List UInt8) (target : Vector UInt8 n)
    (h : i < n) : (splice offset source target)[i] =
      if offset ≤ i then source.getD (i-offset) target[i] else target[i] := by
  rw [splice, Vector.getElem_ofFn]
  rfl

/-- Putting bytes over a part of a buffer as long as they are. -/
theorem toList_splice {n : ℕ} {target : Vector UInt8 n} {before old after new : List UInt8}
    (ht : target.toList = before++(old++after)) (hl : new.length = old.length) :
    (splice before.length new target).toList = before++(new++after) := by
  have hn : n = before.length+(old.length+after.length) := by
    have hlength : target.toList.length = n := Vector.length_toList
    rw [← hlength, ht, List.length_append, List.length_append]
  have hold {i : ℕ} (hi : i < n) : target[i] = (before++(old++after)).getD i 0 := by
    rw [← ht, List.getD_eq_getElem?_getD, List.getElem?_eq_getElem (by simpa using hi),
      Vector.getElem_toList, Option.getD_some]
  refine List.ext_getElem ?_ fun i h1 h2 => ?_
  · rw [Vector.length_toList, List.length_append, List.length_append, hl, hn]
  · rw [Vector.length_toList] at h1
    rw [Vector.getElem_toList, getElem_splice _ _ _ h1, hold h1]
    by_cases hb : before.length ≤ i
    · rw [if_pos hb, List.getElem_append_right hb, List.getD_append_right _ _ _ _ hb]
      by_cases hi : i-before.length < new.length
      · rw [List.getElem_append_left hi, List.getD_eq_getElem _ _ hi]
      · have hi := not_lt.mp hi
        rw [List.getElem_append_right hi, List.getD_eq_default _ _ hi,
          List.getD_append_right _ _ _ _ (hl ▸ hi), List.getD_eq_getElem _ _ (by omega)]
        simp only [hl]
    · rw [if_neg hb, List.getElem_append_left (not_le.mp hb), List.getD_append _ _ _ _ (not_le.mp hb),
        List.getD_eq_getElem]

/-- The same by positions. -/
theorem toList_spliced {n k : ℕ} {target : Vector UInt8 n} {new : List UInt8}
    (h : k+new.length ≤ n) : (splice k new target).toList =
      target.toList.take k++(new++target.toList.drop (k+new.length)) := by
  have hn : target.toList.length = n := Vector.length_toList
  have hbefore : (target.toList.take k).length = k := List.length_take_of_le (by omega)
  have hsplit : target.toList = target.toList.take k++
      ((target.toList.drop k).take new.length++target.toList.drop (k+new.length)) := by
    rw [← List.drop_drop, List.take_append_drop, List.take_append_drop]
  have hold : new.length = ((target.toList.drop k).take new.length).length := by
    rw [List.length_take, List.length_drop]
    omega
  have hnew := toList_splice hsplit hold
  rwa [hbefore] at hnew

/-! Fields of a string at an offset; what lies past the end counts as zero. -/
def field (width : ℕ) (b : List UInt8) (p : ℕ) : ℕ := value ((b.drop p).take width)

theorem field_lt (width : ℕ) (b : List UInt8) (p : ℕ) : field width b p < 256^width :=
  (value_lt _).trans_le (Nat.pow_le_pow_right (by decide) (List.length_take_le ..))

@[simp] theorem field_zero (b : List UInt8) (p : ℕ) : field 0 b p = 0 := by
  rw [field, List.take_zero, value_nil]

theorem field_succ (width : ℕ) {b : List UInt8} {p : ℕ} (h : p < b.length) :
    field (width+1) b p = b[p].toNat+256*field width b (p+1) := by
  rw [field, List.drop_eq_getElem_cons h, List.take_succ_cons, value_cons, field]

theorem field_add {width more p : ℕ} {b : List UInt8} (h : p+width ≤ b.length) :
    field (width+more) b p = field width b p+256^width*field more b (p+width) := by
  have hw : ((b.drop p).take width).length = width := by
    rw [List.length_take, List.length_drop]
    omega
  rw [field, List.take_add, value_append, hw, List.drop_drop, field, field]

theorem field_take {width n p : ℕ} (b : List UInt8) (h : p+width ≤ n) :
    field width (b.take n) p = field width b p := by
  rw [field, List.drop_take, List.take_take, Nat.min_eq_left (by omega), field]

theorem field_append_left {width p : ℕ} {xs : List UInt8} (h : p+width ≤ xs.length)
    (ys : List UInt8) : field width (xs++ys) p = field width xs p := by
  rw [field, List.drop_append_of_le_length (by omega), List.take_append_of_le_length, field]
  rw [List.length_drop]
  omega

theorem field_append_right (width p : ℕ) (xs ys : List UInt8) :
    field width (xs++ys) (xs.length+p) = field width ys p := by
  rw [field, List.drop_length_add_append, field]

/-! Records: fields of fixed widths, one after the other. -/

/-- The string made of the given numbers in the given widths. -/
def record : List (ℕ × ℕ) → List UInt8
  | [] => []
  | (width,n) :: rest => bytes width n++record rest

def recordLength : List (ℕ × ℕ) → ℕ
  | [] => 0
  | (width,_) :: rest => width+recordLength rest

/-- The fields of `b` from `p` on hold these numbers. -/
def Holds (b : List UInt8) : ℕ → List (ℕ × ℕ) → Prop
  | _, [] => True
  | p, (width,n) :: rest => field width b p = n ∧ Holds b (p+width) rest

theorem length_record (fields : List (ℕ × ℕ)) : (record fields).length = recordLength fields := by
  induction fields with
  | nil => rfl
  | cons x rest ih => rw [record, recordLength, List.length_append, length_bytes, ih]

theorem record_append (xs ys : List (ℕ × ℕ)) : record (xs++ys) = record xs++record ys := by
  induction xs with
  | nil => rfl
  | cons x xs ih => rw [List.cons_append, record, record, ih, List.append_assoc]

/-- Writing one field of a record leaves a record with that field changed. -/
theorem splice_record {N offset : ℕ} {target : Vector UInt8 N} (before after : List (ℕ × ℕ))
    (width m n : ℕ) (ho : recordLength before = offset)
    (ht : target.toList = record (before++(width,m) :: after)) :
    (splice offset (bytes width n) target).toList = record (before++(width,n) :: after) := by
  rw [record_append, record] at ht ⊢
  rw [← ho, ← length_record]
  exact toList_splice ht (by rw [length_bytes, length_bytes])

/-- A string of the right length is the record of its fields, and no other string has them. -/
theorem holds_iff {b : List UInt8} {p : ℕ} {fields : List (ℕ × ℕ)}
    (hfit : ∀ x ∈ fields, x.2 < 256^x.1) (hl : b.length = p+recordLength fields) :
    Holds b p fields ↔ b.drop p = record fields := by
  induction fields generalizing p with
  | nil => simp [Holds, record, hl, recordLength]
  | cons x rest ih =>
    obtain ⟨width,n⟩ := x
    rw [recordLength] at hl
    have hrest := ih (fun x hx => hfit x (List.mem_cons_of_mem _ hx)) (hl.trans (add_assoc ..).symm)
    have hhead : ((b.drop p).take width).length = width := by
      rw [List.length_take, List.length_drop]
      omega
    have hfield : field width b p = n ↔ (b.drop p).take width = bytes width n :=
      value_eq_iff hhead (hfit _ List.mem_cons_self)
    rw [Holds, record, hrest, hfield, ← List.drop_drop]
    constructor
    · rintro ⟨htake,hdrop⟩
      rw [← htake, ← hdrop, List.take_append_drop]
    · intro h
      rw [h]
      exact ⟨List.take_left' (length_bytes ..),List.drop_left' (length_bytes ..)⟩

end LittleEndian
