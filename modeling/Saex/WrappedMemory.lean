import Saex.LittleEndian

/-! Byte memories with 32-bit addresses that wrap around, the little-endian words in them,
and stretches of bytes that have none in common. -/
namespace WrappedMemory
open LittleEndian

abbrev Address := BitVec 32
abbrev Memory := Address → UInt8

def load (m : Memory) (a : Address) (n : ℕ) : List UInt8 :=
  (List.range n).map fun i => m (a+BitVec.ofNat 32 i)

def store (m : Memory) (a : Address) (bs : List UInt8) : Memory :=
  fun p => bs.getD (p-a).toNat (m p)

def word (m : Memory) (a : Address) : BitVec 32 := read 32 (load m a 4)

def setWord (m : Memory) (a : Address) (v : BitVec 32) : Memory := store m a (write 4 v)

/-- The `n` bytes from `a` on and the `k` bytes from `b` on have none in common, around the end
of memory either. -/
def Apart (a : Address) (n : ℕ) (b : Address) (k : ℕ) : Prop :=
  n ≤ (b-a).toNat ∧ k ≤ (a-b).toNat

instance (a : Address) (n : ℕ) (b : Address) (k : ℕ) : Decidable (Apart a n b k) :=
  inferInstanceAs (Decidable (_ ∧ _))

/-- The memory has these bytes from `a` on. -/
def HasBytes (m : Memory) (a : Address) (bs : List UInt8) : Prop := load m a bs.length = bs

instance (m : Memory) (a : Address) (bs : List UInt8) : Decidable (HasBytes m a bs) :=
  inferInstanceAs (Decidable (_ = _))

variable {m : Memory} {a b p x y : Address} {v : BitVec 32} {n k : ℕ}

/-! Stretches apart. -/

theorem Apart.symm (h : Apart a n b k) : Apart b k a n := ⟨h.2,h.1⟩

/-- At fixed distances from one address. -/
theorem Apart.add (h : Apart x n y k) : Apart (a+x) n (a+y) k := by
  unfold Apart at h ⊢
  rwa [show a+y-(a+x) = y-x by ring, show a+x-(a+y) = x-y by ring]

/-- Parts of stretches that are apart. -/
theorem Apart.sub (h : Apart a n b k) {n' k' : ℕ} (hn : 0 < n') (hk : 0 < k')
    (hx : x.toNat+n' ≤ n) (hy : y.toNat+k' ≤ k) : Apart (a+x) n' (b+y) k' := by
  obtain ⟨hab,hba⟩ := h
  have hsum : b+y-(a+x) = (b-a)+y-x := by ring
  have hsum' : a+x-(b+y) = (a-b)+x-y := by ring
  rw [BitVec.toNat_sub] at hab hba
  rw [Apart, hsum, hsum', BitVec.toNat_sub, BitVec.toNat_sub, BitVec.toNat_add, BitVec.toNat_add,
    BitVec.toNat_sub, BitVec.toNat_sub]
  omega

theorem Apart.mono (h : Apart a n b k) {n' k' : ℕ} (hn : n' ≤ n) (hk : k' ≤ k) : Apart a n' b k' :=
  ⟨hn.trans h.1,hk.trans h.2⟩

theorem Apart.left (h : Apart a n b k) {n' : ℕ} (hn : 0 < n') (hk : 0 < k) (hx : x.toNat+n' ≤ n) :
    Apart (a+x) n' b k := by
  have hpart := h.sub (y := 0) hn hk hx (by rw [BitVec.ofNat_eq_ofNat, BitVec.toNat_ofNat]; simp)
  rwa [BitVec.ofNat_eq_ofNat, BitVec.add_zero] at hpart

theorem apart_of_disjoint (hn : 0 < n) (hk : 0 < k)
    (h : ∀ i < n, ∀ j < k, a+BitVec.ofNat 32 i ≠ b+BitVec.ofNat 32 j) : Apart a n b k := by
  constructor
  · by_contra hlow
    refine h (b-a).toNat (by omega) 0 hk ?_
    rw [BitVec.ofNat_toNat, BitVec.setWidth_eq, BitVec.add_zero]
    ring
  · by_contra hlow
    refine h 0 hn (a-b).toNat (by omega) ?_
    rw [BitVec.ofNat_toNat, BitVec.setWidth_eq, BitVec.add_zero]
    ring

/-! Bytes. -/

@[simp] theorem length_load (m : Memory) (a : Address) (n : ℕ) : (load m a n).length = n := by
  simp [load]

theorem getElem_load {i : ℕ} (h : i < (load m a n).length) :
    (load m a n)[i] = m (a+BitVec.ofNat 32 i) := by
  simp [load]

theorem load_congr {m' : Memory}
    (h : ∀ i < n, m (a+BitVec.ofNat 32 i) = m' (a+BitVec.ofNat 32 i)) : load m a n = load m' a n :=
  List.map_congr_left fun i hi => h i (List.mem_range.mp hi)

/-- Bytes in a stretch that is the same in two memories. -/
theorem apply_of_load {m' : Memory} (h : load m a n = load m' a n) {i : ℕ} (hi : i < n) :
    m (a+BitVec.ofNat 32 i) = m' (a+BitVec.ofNat 32 i) := by
  have hget := congrArg (fun bs => bs[i]?) h
  simp only [load, List.getElem?_map, List.getElem?_range hi, Option.map_some] at hget
  exact Option.some.inj hget

theorem load_add (m : Memory) (a : Address) (n k : ℕ) :
    load m a (n+k) = load m a n++load m (a+BitVec.ofNat 32 n) k := by
  rw [load, List.range_add, List.map_append, List.map_map, load, load]
  congr 1
  refine List.map_congr_left fun i _ => ?_
  rw [Function.comp_apply, BitVec.ofNat_add, BitVec.add_assoc]

theorem store_of_outside {bs : List UInt8} (h : bs.length ≤ (p-a).toNat) : store m a bs p = m p :=
  List.getD_eq_default _ _ h

theorem load_store_self {bs : List UInt8} (h : bs.length ≤ 2^32) :
    load (store m a bs) a bs.length = bs := by
  refine List.ext_getElem (length_load ..) fun i h1 h2 => ?_
  have hi : (BitVec.ofNat 32 i).toNat = i := Nat.mod_eq_of_lt (by omega)
  rw [getElem_load, store, show a+BitVec.ofNat 32 i-a = BitVec.ofNat 32 i by ring, hi,
    List.getD_eq_getElem _ _ h2]

theorem load_store_of_apart {bs : List UInt8} (h : Apart a bs.length b k) :
    load (store m a bs) b k = load m b k := by
  refine load_congr fun i hi => store_of_outside ?_
  obtain ⟨hab,hba⟩ := h
  have hsum : b+BitVec.ofNat 32 i-a = (b-a)+BitVec.ofNat 32 i := by ring
  have hi' : (BitVec.ofNat 32 i).toNat = i := by
    rw [BitVec.toNat_ofNat]
    have := (a-b).isLt
    omega
  rw [BitVec.toNat_sub] at hab hba
  rw [hsum, BitVec.toNat_add, hi', BitVec.toNat_sub]
  omega

theorem hasBytes_store {bs : List UInt8} (h : bs.length ≤ 2^32) : HasBytes (store m a bs) a bs :=
  load_store_self h

theorem HasBytes.store {bs cs : List UInt8} (hbytes : HasBytes m b cs)
    (h : Apart a bs.length b cs.length) : HasBytes (store m a bs) b cs :=
  (load_store_of_apart h).trans hbytes

/-- Several stretches, written one after the other. -/
def stores (m : Memory) (xs : List (Address × List UInt8)) : Memory :=
  xs.foldl (fun m x => store m x.1 x.2) m

theorem HasBytes.stores {bs : List UInt8} {xs : List (Address × List UInt8)} (hbytes : HasBytes m b bs)
    (h : ∀ x ∈ xs, Apart x.1 x.2.length b bs.length) : HasBytes (stores m xs) b bs := by
  induction xs generalizing m with
  | nil => exact hbytes
  | cons x xs ih =>
    obtain ⟨hx,hxs⟩ := List.forall_mem_cons.mp h
    exact ih (hbytes.store hx) hxs

/-- Stretches that are apart are all there in the end. -/
theorem hasBytes_stores {xs : List (Address × List UInt8)} (hlength : ∀ x ∈ xs, x.2.length ≤ 2^32)
    (h : xs.Pairwise fun x y => Apart y.1 y.2.length x.1 x.2.length) :
    ∀ x ∈ xs, HasBytes (stores m xs) x.1 x.2 := by
  induction xs generalizing m with
  | nil => exact fun x hx => absurd hx List.not_mem_nil
  | cons x xs ih =>
    obtain ⟨hx,hxs⟩ := List.pairwise_cons.mp h
    obtain ⟨hlx,hlxs⟩ := List.forall_mem_cons.mp hlength
    exact List.forall_mem_cons.mpr ⟨(hasBytes_store hlx).stores hx,ih hlxs hxs⟩

theorem hasBytes_append {bs cs : List UInt8} :
    HasBytes m a (bs++cs) ↔ HasBytes m a bs ∧ HasBytes m (a+BitVec.ofNat 32 bs.length) cs := by
  unfold HasBytes
  rw [List.length_append, load_add]
  constructor
  · intro h
    exact List.append_inj h (length_load ..)
  · intro h
    rw [h.1, h.2]

/-- One store after another. -/
theorem store_append {bs cs : List UInt8} (h : bs.length+cs.length ≤ 2^32) :
    store m a (bs++cs) = store (store m a bs) (a+BitVec.ofNat 32 bs.length) cs := by
  funext p
  have hdist : p-(a+BitVec.ofNat 32 bs.length) = p-a-BitVec.ofNat 32 bs.length := by ring
  simp only [store, hdist]
  have hp := (p-a).isLt
  by_cases hin : (p-a).toNat < bs.length
  · have hback : cs.length ≤ (p-a-BitVec.ofNat 32 bs.length).toNat := by
      rw [BitVec.toNat_sub, BitVec.toNat_ofNat]
      omega
    rw [List.getD_append _ _ _ _ hin, List.getD_eq_default cs _ hback]
  · have hrest : (p-a-BitVec.ofNat 32 bs.length).toNat = (p-a).toNat-bs.length := by
      rw [BitVec.toNat_sub, BitVec.toNat_ofNat]
      omega
    rw [List.getD_append_right _ _ _ _ (not_lt.mp hin), hrest,
      List.getD_eq_default bs _ (not_lt.mp hin)]

theorem store_zeros (m : Memory) (a p : Address) (n : ℕ) :
    store m a (List.replicate n 0) p = if (p-a).toNat < n then 0 else m p := by
  rw [store]
  split
  · rename_i h
    rw [List.getD_eq_getElem _ _ (by simpa using h), List.getElem_replicate]
  · rename_i h
    rw [List.getD_eq_default _ _ (by simpa using h)]

/-! Words. -/

@[simp] theorem word_setWord_self (m : Memory) (a : Address) (v : BitVec 32) :
    word (setWord m a v) a = v := by
  have hload : load (store m a (write 4 v)) a (write 4 v).length = write 4 v :=
    load_store_self (by simp)
  rw [length_write] at hload
  rw [word, setWord, hload]
  exact read_write v rfl

theorem load_setWord_of_apart (h : Apart a 4 b k) : load (setWord m a v) b k = load m b k :=
  load_store_of_apart (by rwa [length_write])

theorem word_setWord_of_apart (h : Apart a 4 b 4) : word (setWord m a v) b = word m b := by
  rw [word, word, load_setWord_of_apart h]

theorem word_store_of_apart {bs : List UInt8} (h : Apart a bs.length b 4) :
    word (store m a bs) b = word m b := by
  rw [word, word, load_store_of_apart h]

/-- A byte of a written word, and the bytes around it, counted from one base. -/
theorem setWord_apply {i d : ℕ} (hi : i < 2^31) (hd : d < 2^31) :
    setWord m (a+BitVec.ofNat 32 d) v (a+BitVec.ofNat 32 i) =
      if d ≤ i ∧ i < d+4 then (write 4 v).getD (i-d) 0 else m (a+BitVec.ofNat 32 i) := by
  have hdist : a+BitVec.ofNat 32 i-(a+BitVec.ofNat 32 d) = BitVec.ofNat 32 i-BitVec.ofNat 32 d := by ring
  rw [setWord, store, hdist, BitVec.toNat_sub, BitVec.toNat_ofNat, BitVec.toNat_ofNat,
    Nat.mod_eq_of_lt (by omega : i < 2^32), Nat.mod_eq_of_lt (by omega : d < 2^32)]
  split
  · rename_i h
    rw [show (2^32-d+i)%2^32 = i-d by omega, List.getD_eq_getElem _ _ (by simp; omega),
      List.getD_eq_getElem _ _ (by simp; omega)]
  · rename_i h
    rw [List.getD_eq_default _ _ (by simp; omega)]

/-- The low byte of a word. -/
theorem apply_of_word (m : Memory) (a : Address) : m a = (write 4 (word m a)).getD 0 0 := by
  have hbytes : write 4 (word m a) = load m a 4 := write_read (by simp)
  rw [hbytes, List.getD_eq_getElem _ _ (by simp), getElem_load]
  simp

/-- The same word over and over. -/
theorem store_replicate (m : Memory) (a : Address) (v : BitVec 32) {n : ℕ} (h : 4*n ≤ 2^32) :
    (List.range n).foldl (fun m i => setWord m (a+4*BitVec.ofNat 32 i) v) m =
      store m a (List.replicate n (write 4 v)).flatten := by
  induction n with
  | zero =>
    funext p
    simp [store]
  | succ n ih =>
    have hlength : (List.replicate n (write 4 v)).flatten.length = 4*n := by
      simp [mul_comm]
    have hplace : BitVec.ofNat 32 (4*n) = 4*BitVec.ofNat 32 n := by
      rw [BitVec.ofNat_mul]
      rfl
    rw [List.range_succ, List.foldl_append, ih (by omega), List.replicate_succ', List.flatten_append,
      store_append (by rw [hlength]; simp; omega), hlength, hplace]
    simp [setWord]

/-- Words at fixed distances from one address. -/
theorem word_setWord_add (h : Apart x 4 y 4) : word (setWord m (a+x) v) (a+y) = word m (a+y) :=
  word_setWord_of_apart h.add

/-- Words in a stretch that is the same in two memories. -/
theorem word_of_load {m' : Memory} {d : BitVec 32} (h : load m a n = load m' a n)
    (hd : d.toNat+4 ≤ n) : word m (a+d) = word m' (a+d) := by
  obtain ⟨rest,hrest⟩ := Nat.exists_eq_add_of_le hd
  rw [hrest, load_add, load_add, load_add, load_add] at h
  have hword := (List.append_inj (List.append_inj h (by simp)).1 (by simp)).2
  rw [BitVec.ofNat_toNat, BitVec.setWidth_eq] at hword
  rw [word, word, hword]

/-- A part of a stretch that is the same. -/
theorem load_of_load {m' : Memory} {d : BitVec 32} (h : load m a n = load m' a n) (hd : d.toNat+k ≤ n) :
    load m (a+d) k = load m' (a+d) k := by
  apply load_congr
  intro i hi
  have hbyte := apply_of_load h (show d.toNat+i < n by omega)
  rwa [BitVec.ofNat_add, BitVec.ofNat_toNat, BitVec.setWidth_eq, ← BitVec.add_assoc] at hbyte

/-! Several words, each at a distance from one base. -/

def setWords (m : Memory) (base : Address) (ws : List (BitVec 32 × BitVec 32)) : Memory :=
  ws.foldl (fun m w => setWord m (base+w.1) w.2) m

theorem load_setWords_of_apart {base : Address} {ws : List (BitVec 32 × BitVec 32)}
    (h : ∀ w ∈ ws, Apart (base+w.1) 4 b k) : load (setWords m base ws) b k = load m b k := by
  induction ws generalizing m with
  | nil => rfl
  | cons w ws ih =>
    obtain ⟨hw,hws⟩ := List.forall_mem_cons.mp h
    calc load (setWords m base (w :: ws)) b k
        = load (setWords (setWord m (base+w.1) w.2) base ws) b k := rfl
      _ = load (setWord m (base+w.1) w.2) b k := ih hws
      _ = load m b k := load_setWord_of_apart hw

theorem word_setWords_of_apart {base : Address} {ws : List (BitVec 32 × BitVec 32)}
    (h : ∀ w ∈ ws, Apart (base+w.1) 4 a 4) : word (setWords m base ws) a = word m a := by
  rw [word, word, load_setWords_of_apart h]

/-- Words in one stretch leave another one alone. -/
theorem load_setWords_of_stretch {ws : List (BitVec 32 × BitVec 32)} (h : Apart a n b k) (hk : 0 < k)
    (hws : ∀ w ∈ ws, w.1.toNat+4 ≤ n) : load (setWords m a ws) b k = load m b k :=
  load_setWords_of_apart fun w hw => h.left (by decide) hk (hws w hw)

theorem word_setWords_of_stretch {ws : List (BitVec 32 × BitVec 32)} (h : Apart a n b 4)
    (hws : ∀ w ∈ ws, w.1.toNat+4 ≤ n) : word (setWords m a ws) b = word m b := by
  rw [word, word, load_setWords_of_stretch h (by decide) hws]

theorem setWords_apply_of_stretch {ws : List (BitVec 32 × BitVec 32)} (h : Apart a n b k)
    (hws : ∀ w ∈ ws, w.1.toNat+4 ≤ n) {i : ℕ} (hi : i < k) :
    setWords m a ws (b+BitVec.ofNat 32 i) = m (b+BitVec.ofNat 32 i) :=
  apply_of_load (load_setWords_of_stretch h (Nat.zero_lt_of_lt hi) hws) hi

/-! Several bytes as an array. -/

def loadArray (m : Memory) (a : Address) (n : ℕ) : Vector UInt8 n :=
  .ofFn fun i => m (a+BitVec.ofNat 32 i)

theorem getElem_loadArray {i : ℕ} (h : i < n) : (loadArray m a n)[i] = m (a+BitVec.ofNat 32 i) := by
  simp [loadArray]

theorem toList_loadArray (m : Memory) (a : Address) (n : ℕ) : (loadArray m a n).toList = load m a n := by
  refine List.ext_getElem (by simp) fun i h1 h2 => ?_
  rw [Vector.getElem_toList, getElem_loadArray, getElem_load]

theorem loadArray_congr {m' : Memory} (h : load m a n = load m' a n) :
    loadArray m a n = loadArray m' a n := by
  rw [← Vector.toList_inj, toList_loadArray, toList_loadArray, h]

/-- A store among the bytes. -/
theorem loadArray_store {bs : List UInt8} {d : ℕ} (hn : n ≤ 2^31) (hfit : d+bs.length ≤ n) :
    loadArray (store m (a+BitVec.ofNat 32 d) bs) a n = splice d bs (loadArray m a n) := by
  refine Vector.ext fun i hi => ?_
  have hdist : a+BitVec.ofNat 32 i-(a+BitVec.ofNat 32 d) = BitVec.ofNat 32 i-BitVec.ofNat 32 d := by ring
  rw [getElem_splice, getElem_loadArray, getElem_loadArray, store, hdist, BitVec.toNat_sub,
    BitVec.toNat_ofNat, BitVec.toNat_ofNat, Nat.mod_eq_of_lt (by omega : i < 2^32),
    Nat.mod_eq_of_lt (by omega : d < 2^32)]
  split
  · rename_i h
    rw [show (2^32-d+i)%2^32 = i-d by omega]
  · rename_i h
    rw [List.getD_eq_default _ _ (by omega)]

/-- `n` words, one behind the other. -/
def words (m : Memory) (base : Address) (n : ℕ) : Vector (BitVec 32) n :=
  .ofFn fun i => word m (base+BitVec.ofNat 32 (4*i))

@[simp] theorem getElem_words {i : ℕ} (h : i < n) :
    (words m b n)[i] = word m (b+BitVec.ofNat 32 (4*i)) := by
  simp [words]

/-- An aligned write among the words sets one of them. -/
theorem words_setWord {d : BitVec 32} (hn : n ≤ 2^30) (hd : d.toNat%4 = 0) (hlt : d.toNat/4 < n) :
    words (setWord m (b+d) v) b n = (words m b n).set (d.toNat/4) v := by
  have hword : BitVec.ofNat 32 (4*(d.toNat/4)) = d := by
    rw [Nat.mul_div_cancel' (Nat.dvd_of_mod_eq_zero hd), BitVec.ofNat_toNat, BitVec.setWidth_eq]
  refine Vector.ext fun i hi => ?_
  rw [getElem_words, Vector.getElem_set]
  by_cases h : d.toNat/4 = i
  · rw [if_pos h, ← h, hword]
    exact word_setWord_self _ _ _
  · rw [if_neg h, getElem_words]
    apply word_setWord_add
    have hi' : (BitVec.ofNat 32 (4*i)).toNat = 4*i := Nat.mod_eq_of_lt (by omega)
    rw [Apart, BitVec.toNat_sub, BitVec.toNat_sub, hi']
    omega

/-- A word pushed onto a stack. -/
theorem toList_words_push (m : Memory) (a : Address) (v : BitVec 32) (h : 4*n+4 ≤ 2^32) :
    (words (setWord m (a-4) v) (a-4) (n+1)).toList = v :: (words m a n).toList := by
  refine List.ext_getElem (by simp) fun i h1 h2 => ?_
  rw [Vector.length_toList] at h1
  rw [Vector.getElem_toList, getElem_words]
  cases i with
  | zero => simp
  | succ i =>
    have hplace : a-4+BitVec.ofNat 32 (4*(i+1)) = a+BitVec.ofNat 32 (4*i) := by
      rw [mul_add, BitVec.ofNat_add, show BitVec.ofNat 32 (4*1) = 4 from rfl]
      ring
    have hapart : Apart (a-4) 4 (a+BitVec.ofNat 32 (4*i)) 4 := by
      have hi : (BitVec.ofNat 32 (4*i)).toNat = 4*i := Nat.mod_eq_of_lt (by omega)
      rw [Apart, show a+BitVec.ofNat 32 (4*i)-(a-4) = BitVec.ofNat 32 (4*i)+4 by ring,
        show a-4-(a+BitVec.ofNat 32 (4*i)) = -(BitVec.ofNat 32 (4*i)+4) by ring]
      bv_omega
    rw [hplace, word_setWord_of_apart hapart, List.getElem_cons_succ, Vector.getElem_toList, getElem_words]

theorem words_congr {m' : Memory} (h : load m a (4*n) = load m' a (4*n)) :
    words m a n = words m' a n := by
  refine Vector.ext fun i hi => ?_
  have hsplit : 4*n = 4*i+(4+4*(n-i-1)) := by omega
  rw [hsplit, load_add, load_add, load_add, load_add] at h
  have hword := (List.append_inj (List.append_inj h (by simp)).2 (by simp)).1
  rw [getElem_words, getElem_words, word, word, hword]

end WrappedMemory
