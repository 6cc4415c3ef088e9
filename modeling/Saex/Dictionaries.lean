import Mathlib.Data.List.Nodup
import Mathlib.Data.List.Perm.Basic
import Mathlib.Tactic.Common

/-! Dictionaries in insertion order, where the first definition of a key stays. -/

/-- Its keys are distinct. -/
structure Dictionary (K V : Type*) where
  entries : List (K × V)
  nodup : (entries.map Prod.fst).Nodup

namespace Dictionary
variable {K V W : Type*}

def empty : Dictionary K V := ⟨[],List.nodup_nil⟩

def keys (d : Dictionary K V) : List K := d.entries.map Prod.fst

theorem keys_nodup (d : Dictionary K V) : d.keys.Nodup := d.nodup

/-- The same keys with other values. -/
def mapValues (f : K → V → W) (d : Dictionary K V) : Dictionary K W :=
  ⟨d.entries.map fun x => (x.1,f x.1 x.2),by rw [List.map_map]; exact d.nodup⟩

@[simp] theorem keys_empty : (empty : Dictionary K V).keys = [] := rfl

@[simp] theorem keys_mapValues (f : K → V → W) (d : Dictionary K V) :
    (d.mapValues f).keys = d.keys := by
  rw [keys, mapValues, List.map_map]
  rfl

@[simp] theorem mapValues_mapValues {U : Type*} (f : K → V → W) (g : K → W → U)
    (d : Dictionary K V) : (d.mapValues f).mapValues g = d.mapValues fun k v => g k (f k v) := by
  simp [mapValues]

variable [DecidableEq K]

def get? (d : Dictionary K V) (k : K) : Option V :=
  (d.entries.find? fun x => x.1 = k).map Prod.snd

/-- Adds a key that is not there yet; the flag says whether it did. -/
def tryAdd (d : Dictionary K V) (k : K) (v : V) : Dictionary K V × Bool :=
  if h : k ∈ d.keys then (d,false)
  else (⟨d.entries++[(k,v)],by
    rw [List.map_append]
    exact List.Nodup.append d.nodup (List.nodup_singleton k)
      (List.disjoint_singleton.mpr h)⟩,true)

/-- Tries all, and returns those whose key was there. -/
def addAll (d : Dictionary K V) : List (K × V) → Dictionary K V × List (K × V)
  | [] => (d,[])
  | (k,v) :: rest =>
    let (d,added) := d.tryAdd k v
    let (d,refused) := d.addAll rest
    (d,if added then refused else (k,v) :: refused)

/-- Defines the key anew: where it stands when it is there, behind the others when not. -/
def put (d : Dictionary K V) (k : K) (v : V) : Dictionary K V :=
  if k ∈ d.keys then d.mapValues fun k' v' => if k' = k then v else v' else (d.tryAdd k v).1

theorem get?_eq_some_iff {d : Dictionary K V} {k : K} {v : V} :
    d.get? k = some v ↔ (k,v) ∈ d.entries := by
  rw [get?, Option.map_eq_some_iff]
  constructor
  · rintro ⟨⟨a,b⟩,hfind,rfl⟩
    have hkey : a = k := by simpa using List.find?_some hfind
    exact hkey ▸ List.mem_of_find?_eq_some hfind
  · intro hmem
    cases hfind : d.entries.find? fun x => x.1 = k with
    | none => exact absurd (decide_eq_true rfl) (List.find?_eq_none.mp hfind _ hmem)
    | some x =>
      have hkey : x.1 = k := by simpa using List.find?_some hfind
      have hx := List.inj_on_of_nodup_map d.nodup (List.mem_of_find?_eq_some hfind) hmem hkey
      exact ⟨x,rfl,by rw [hx]⟩

theorem get?_isSome_iff {d : Dictionary K V} {k : K} : (d.get? k).isSome ↔ k ∈ d.keys := by
  simp only [Option.isSome_iff_exists, get?_eq_some_iff, keys, List.mem_map]
  exact ⟨fun ⟨v,hv⟩ => ⟨(k,v),hv,rfl⟩,fun ⟨⟨a,v⟩,hv,hk⟩ => ⟨v,hk ▸ hv⟩⟩

theorem get?_mapValues {f : K → V → W} {d : Dictionary K V} {k : K} :
    (d.mapValues f).get? k = (d.get? k).map (f k) := by
  ext w
  rw [get?_eq_some_iff, mapValues, List.mem_map, Option.map_eq_some_iff]
  constructor
  · rintro ⟨⟨a,v⟩,hmem,heq⟩
    cases heq
    exact ⟨v,get?_eq_some_iff.mpr hmem,rfl⟩
  · rintro ⟨v,hv,rfl⟩
    exact ⟨(k,v),get?_eq_some_iff.mp hv,rfl⟩

theorem tryAdd_fresh {d : Dictionary K V} {k : K} (h : k ∉ d.keys) (v : V) :
    (d.tryAdd k v).2 = true ∧ (d.tryAdd k v).1.entries = d.entries++[(k,v)] := by
  rw [tryAdd, dif_neg h]
  exact ⟨rfl,rfl⟩

theorem tryAdd_taken {d : Dictionary K V} {k : K} (h : k ∈ d.keys) (v : V) :
    d.tryAdd k v = (d,false) := dif_pos h

@[simp] theorem mem_keys_put {d : Dictionary K V} {k k' : K} {v : V} :
    k' ∈ (d.put k v).keys ↔ k' = k ∨ k' ∈ d.keys := by
  unfold put
  split
  · rename_i hk
    rw [keys_mapValues]
    exact ⟨.inr,fun h => h.elim (fun heq => heq ▸ hk) id⟩
  · rename_i hk
    rw [keys, (tryAdd_fresh hk v).2, List.map_append, List.mem_append]
    simp [keys, or_comm]

/-- What was put in, and what else was there. -/
theorem mem_entries_put {d : Dictionary K V} {k : K} {v : V} {x : K × V}
    (hx : x ∈ (d.put k v).entries) : x = (k,v) ∨ x ∈ d.entries := by
  unfold put at hx
  split at hx
  · obtain ⟨⟨k',v'⟩,hmem,rfl⟩ := List.mem_map.mp hx
    by_cases hk : k' = k
    · subst hk
      simp
    · exact .inr (by simpa [hk] using hmem)
  · rename_i hk
    rw [(tryAdd_fresh hk v).2] at hx
    simpa [or_comm] using hx

theorem get?_put {d : Dictionary K V} {k k' : K} {v : V} :
    (d.put k v).get? k' = if k' = k then some v else d.get? k' := by
  unfold put
  split
  · rename_i hk
    rw [get?_mapValues]
    by_cases heq : k' = k
    · subst heq
      obtain ⟨w,hw⟩ := Option.isSome_iff_exists.mp (get?_isSome_iff.mpr hk)
      simp [hw]
    · simp [heq]
  · rename_i hk
    ext w
    rw [get?_eq_some_iff, (tryAdd_fresh hk v).2, List.mem_append, List.mem_singleton, Prod.mk.injEq]
    by_cases heq : k' = k
    · subst heq
      have hnone : (k',w) ∉ d.entries := fun hmem => hk (List.mem_map_of_mem hmem)
      simp [hnone, eq_comm]
    · simp [heq, get?_eq_some_iff]

theorem tryAdd_added_iff {d : Dictionary K V} {k : K} {v : V} :
    (d.tryAdd k v).2 = true ↔ k ∉ d.keys := by
  by_cases h : k ∈ d.keys
  · simp [tryAdd_taken h, h]
  · simp [(tryAdd_fresh h v).1, h]

/-- Nothing is refused exactly when all keys are new and distinct. -/
theorem addAll_refused_iff (d : Dictionary K V) (xs : List (K × V)) :
    (d.addAll xs).2 = [] ↔ (d.keys++xs.map Prod.fst).Nodup := by
  induction xs generalizing d with
  | nil => simpa [addAll, keys] using d.nodup
  | cons x rest ih =>
    obtain ⟨k,v⟩ := x
    have hswap : (d.keys++k :: rest.map Prod.fst).Nodup ↔
        k ∉ d.keys ∧ ((d.keys++[k])++rest.map Prod.fst).Nodup := by
      rw [List.append_assoc, List.singleton_append]
      refine ⟨fun h => ⟨fun hk => ?_,h⟩,And.right⟩
      exact List.disjoint_of_nodup_append h hk List.mem_cons_self
    rw [addAll, List.map_cons, hswap]
    by_cases hk : k ∈ d.keys
    · simp [tryAdd_taken hk, hk]
    · obtain ⟨hadded,hentries⟩ := tryAdd_fresh hk v
      have hkeys : (d.tryAdd k v).1.keys = d.keys++[k] := by
        rw [keys, hentries, List.map_append]
        rfl
      simp only [hadded, if_true, ih, hkeys, hk, not_false_iff, true_and]

theorem addAll_entries {d : Dictionary K V} {xs : List (K × V)} (h : (d.addAll xs).2 = []) :
    (d.addAll xs).1.entries = d.entries++xs := by
  induction xs generalizing d with
  | nil => exact (List.append_nil _).symm
  | cons x rest ih =>
    obtain ⟨k,v⟩ := x
    have hk : k ∉ d.keys := by
      have hnodup := (addAll_refused_iff d _).mp h
      exact fun hk => List.disjoint_of_nodup_append hnodup hk List.mem_cons_self
    obtain ⟨hadded,hentries⟩ := tryAdd_fresh hk v
    simp only [addAll, hadded, if_true] at h ⊢
    rw [ih h, hentries, List.append_assoc, List.singleton_append]

end Dictionary
