import Mathlib.Data.List.Basic

/-! Looking for the one element of a list that matches: none found and more than one
found are both failures. -/
namespace UniqueMatch

variable {A B C : Type*} (p : A → Bool) (f : A → B)

/-- The value of the only match. -/
def only (xs : List A) : Option B :=
  match xs.filter p with
  | [x] => some (f x)
  | _ => none

/-- The same search as a loop that remembers the match found so far. -/
def scan : List A → Option B → Option B
  | [], found => found
  | x :: xs, found =>
    if p x then if found.isSome then none else scan xs (some (f x)) else scan xs found

@[simp] theorem only_nil : only p f [] = none := rfl

variable {p f}

theorem only_cons_of_neg {x : A} (h : p x = false) (xs : List A) :
    only p f (x :: xs) = only p f xs := by
  rw [only, only, List.filter_cons_of_neg (by rw [h]; exact Bool.false_ne_true)]

theorem only_cons_of_pos {x : A} (h : p x) (xs : List A) :
    only p f (x :: xs) = if xs.any p then none else some (f x) := by
  rw [only, List.filter_cons_of_pos h]
  by_cases hany : xs.any p
  · obtain ⟨y,hy,hpy⟩ := List.any_eq_true.mp hany
    have hmem := List.mem_filter.mpr ⟨hy,hpy⟩
    rw [if_pos hany]
    cases hxs : xs.filter p with
    | nil => exact absurd (hxs ▸ hmem) List.not_mem_nil
    | cons z zs => rfl
  · have hnil : xs.filter p = [] := by
      rw [List.filter_eq_nil_iff]
      exact fun y hy hpy => hany (List.any_eq_true.mpr ⟨y,hy,hpy⟩)
    rw [if_neg hany, hnil]

theorem scan_some (r : B) (xs : List A) :
    scan p f xs (some r) = if xs.any p then none else some r := by
  induction xs with
  | nil => rfl
  | cons x xs ih =>
    rw [scan, List.any_cons]
    cases p x with
    | false => simpa using ih
    | true => rfl

/-- The loop finds what the search for the only match finds. -/
theorem scan_eq_only (xs : List A) : scan p f xs none = only p f xs := by
  induction xs with
  | nil => rfl
  | cons x xs ih =>
    rw [scan]
    by_cases hx : p x
    · rw [if_pos hx, only_cons_of_pos hx]
      exact scan_some (f x) xs
    · rw [if_neg hx, only_cons_of_neg (Bool.eq_false_iff.mpr hx), ih]

theorem only_map (g : C → A) (xs : List C) :
    only p f (xs.map g) = only (fun c => p (g c)) (fun c => f (g c)) xs := by
  have hfilter : (xs.map g).filter p = (xs.filter fun c => p (g c)).map g := List.filter_map
  rw [only, only, hfilter]
  cases hxs : xs.filter fun c => p (g c) with
  | nil => rfl
  | cons x rest => cases rest <;> rfl

theorem only_comp (g : B → C) (xs : List A) :
    only p (fun x => g (f x)) xs = (only p f xs).map g := by
  rw [only, only]
  cases xs.filter p with
  | nil => rfl
  | cons x rest => cases rest <;> rfl

theorem only_congr {q : A → Bool} {g : A → B} {xs : List A} (hp : ∀ x ∈ xs, p x = q x)
    (hf : ∀ x ∈ xs, p x → f x = g x) : only p f xs = only q g xs := by
  rw [only, only, ← List.filter_congr hp]
  cases hxs : xs.filter p with
  | nil => rfl
  | cons x rest =>
    have hx := List.mem_filter.mp (hxs ▸ List.mem_cons_self : x ∈ xs.filter p)
    cases rest with
    | nil => exact congrArg some (hf x hx.1 hx.2)
    | cons y rest => rfl

/-- The match that is found is in the list. -/
theorem only_eq_some {xs : List A} {v : B} (h : only p f xs = some v) :
    ∃ x ∈ xs, p x ∧ f x = v := by
  rw [only] at h
  split at h
  · rename_i x hx
    have hmem := List.mem_filter.mp (hx ▸ List.mem_singleton_self x : x ∈ xs.filter p)
    exact ⟨x,hmem.1,hmem.2,Option.some.inj h⟩
  · cases h

/-- Where no two elements match, any match is the only one. -/
theorem only_eq_some_iff {xs : List A} (hxs : xs.Pairwise fun x y => ¬(p x ∧ p y)) {v : B} :
    only p f xs = some v ↔ ∃ x ∈ xs, p x ∧ f x = v := by
  refine ⟨only_eq_some,?_⟩
  rintro ⟨x,hx,hpx,rfl⟩
  induction xs with
  | nil => cases hx
  | cons y xs ih =>
    obtain ⟨hy,hxs⟩ := List.pairwise_cons.mp hxs
    rcases List.mem_cons.mp hx with rfl | hx
    · have hnone : ¬xs.any p := fun hany => by
        obtain ⟨z,hz,hpz⟩ := List.any_eq_true.mp hany
        exact hy z hz ⟨hpx,hpz⟩
      rw [only_cons_of_pos hpx, if_neg hnone]
    · have hpy : p y = false := Bool.eq_false_iff.mpr fun hpy => hy x hx ⟨hpy,hpx⟩
      rw [only_cons_of_neg hpy, ih hxs hx]

/-- It is then the first one, too. -/
theorem only_eq_find? {xs : List A} (hxs : xs.Pairwise fun x y => ¬(p x ∧ p y)) :
    only p f xs = (xs.find? p).map f := by
  cases hfind : xs.find? p with
  | none =>
    have hfilter : xs.filter p = [] := by
      rw [List.filter_eq_nil_iff]
      exact List.find?_eq_none.mp hfind
    rw [only, hfilter]
    rfl
  | some x =>
    exact (only_eq_some_iff hxs).mpr ⟨x,List.mem_of_find?_eq_some hfind,List.find?_some hfind,rfl⟩

end UniqueMatch
