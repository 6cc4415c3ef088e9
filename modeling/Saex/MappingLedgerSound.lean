import Saex.MappingLedger

/-! The invariant of the mapping ledger: its counters count its entries, the
entries are numbered and dated, and no base is mapped twice. -/
namespace Saex
open Transitions

namespace MappingLedger
variable {w : ℕ}

/-- The events of an entry lie in order and not past the last one. -/
structure Dated (l : MappingLedger w) (m : LoaderMapping w) : Prop where
  base : m.base ≠ 0
  positive : 0 < m.loadEvent.toNat
  load : m.loadEvent.toNat ≤ l.lastEvent.toNat
  unload : m.unloadEvent ≠ 0 → m.loadEvent.toNat < m.unloadEvent.toNat ∧
    m.unloadEvent.toNat ≤ l.lastEvent.toNat

/-- Two entries of one base are not both mapped. -/
def Apart (m m' : LoaderMapping w) : Prop :=
  m.base = m'.base → m.unloadEvent ≠ 0 ∨ m'.unloadEvent ≠ 0

structure Sound (l : MappingLedger w) : Prop where
  ids : l.entries.map (fun m => m.id.toNat) = List.range' 1 l.entries.length
  count : l.count.toNat = l.entries.length
  capacity : l.entries.length ≤ l.limit.toNat
  bound : l.entries.length ≤ 64
  active : l.active.toNat = l.entries.countP (fun m => m.unloadEvent = 0)
  bases : l.entries.Pairwise Apart
  dated : ∀ m ∈ l.entries, l.Dated m

theorem Dated.later {l l' : MappingLedger w} {m : LoaderMapping w} (h : l.Dated m)
    (ht : l.lastEvent.toNat ≤ l'.lastEvent.toNat) : l'.Dated m :=
  ⟨h.base,h.positive,h.load.trans ht,fun hu => ⟨(h.unload hu).1,(h.unload hu).2.trans ht⟩⟩

theorem Dated.retired {l l' : MappingLedger w} {m : LoaderMapping w} (h : l.Dated m)
    (ht : l.lastEvent.toNat < l'.lastEvent.toNat) :
    l'.Dated { m with unloadEvent := l'.lastEvent } :=
  ⟨h.base,h.positive,h.load.trans ht.le,fun _ => ⟨h.load.trans_lt ht,le_rfl⟩⟩

theorem ne_zero_of_lt {e last : UInt32} (h : last.toNat < e.toNat) : e ≠ 0 := by
  rintro rfl
  rw [UInt32.toNat_zero] at h
  omega

theorem sound_create (limit : UInt32) : Sound ({ limit } : MappingLedger w) :=
  ⟨rfl,rfl,Nat.zero_le _,Nat.zero_le _,rfl,List.Pairwise.nil,by simp⟩

/-- The counter of a sound ledger below its limit moves on exactly. -/
theorem Sound.count_succ {l : MappingLedger w} (h : l.Sound) {base : BitVec w} {event : UInt32}
    (hv : l.Admissible base event) (hc : l.count ≠ l.limit) :
    (l.count+1).toNat = l.entries.length+1 ∧ l.entries.length+1 ≤ l.limit.toNat := by
  rw [Ne, ← UInt32.toNat_inj, h.count] at hc
  have hcap := h.capacity
  have hlim := hv.limit
  rw [UInt32.toNat_add, h.count, UInt32.toNat_one]
  omega

theorem Sound.admitted {l : MappingLedger w} (h : l.Sound) {base : BitVec w} {event : UInt32}
    (hv : l.Admissible base event) (ha : ∀ m ∈ l.entries, m.holds base = false)
    (hc : l.count ≠ l.limit) :
    Sound { l with
      entries := l.entries ++ [⟨base,l.count+1,event,0⟩]
      count := l.count+1, active := l.active+1, lastEvent := event } := by
  obtain ⟨hn,hroom⟩ := h.count_succ hv hc
  have hlim := hv.limit
  refine ⟨?_,?_,?_,?_,?_,?_,?_⟩
  · rw [List.map_append, h.ids, List.length_append, List.length_singleton, List.range'_concat]
    simp only [List.map_cons, List.map_nil, hn]
    rw [Nat.one_mul, Nat.add_comm]
  · simpa using hn
  · simpa using hroom
  · simp only [List.length_append, List.length_singleton]
    omega
  · have hle : l.entries.countP (fun m => m.unloadEvent = 0) ≤ l.entries.length :=
      List.countP_le_length
    rw [List.countP_append, ← h.active] at *
    have : (l.active+1).toNat = l.active.toNat+1 := by
      rw [UInt32.toNat_add, UInt32.toNat_one]
      omega
    simpa using this
  · -- No open entry holds the new base, so an older one under it has ended.
    refine List.pairwise_append.mpr ⟨h.bases,List.pairwise_singleton _ _,?_⟩
    intro m hm m' hm' hb
    rw [List.mem_singleton] at hm'
    subst hm'
    have hh := ha m hm
    simp only [LoaderMapping.holds, hb, decide_true, Bool.true_and, decide_eq_false_iff_not] at hh
    exact .inl hh
  · intro m hm
    rcases List.mem_append.mp hm with hm | hm
    · exact (h.dated m hm).later hv.event.le
    · rw [List.mem_singleton.mp hm]
      exact ⟨hv.base,(Nat.zero_le _).trans_lt hv.event,le_rfl,fun hu => absurd rfl hu⟩

theorem Sound.retired {l : MappingLedger w} (h : l.Sound) {event : UInt32}
    {pre post : List (LoaderMapping w)} {m : LoaderMapping w} (hv : l.Admissible m.base event)
    (hs : l.entries = pre ++ m :: post) (hm : m.unloadEvent = 0) :
    Sound { l with
      entries := pre ++ { m with unloadEvent := event } :: post
      active := l.active-1, lastEvent := event } := by
  have he := ne_zero_of_lt hv.event
  have hlen : (pre ++ { m with unloadEvent := event } :: post).length = l.entries.length := by
    simp [hs]
  refine ⟨?_,?_,?_,?_,?_,?_,?_⟩
  · rw [hlen, ← h.ids, hs]
    simp
  · simpa only [hlen] using h.count
  · simpa only [hlen] using h.capacity
  · simpa only [hlen] using h.bound
  · -- The entry was counted as active, so the subtraction does not wrap.
    have ha := h.active
    rw [hs, List.countP_append, List.countP_cons] at ha
    simp only [hm, decide_true, if_true] at ha
    rw [List.countP_append, List.countP_cons]
    simp only [he, decide_false, Bool.false_eq_true, if_false]
    rw [UInt32.toNat_sub_of_le _ _ (UInt32.le_iff_toNat_le.mpr (by rw [UInt32.toNat_one]; omega)),
      UInt32.toNat_one]
    omega
  · have hb := h.bases
    rw [hs, List.pairwise_append, List.pairwise_cons] at hb
    obtain ⟨hpre,⟨hhead,hpost⟩,hcross⟩ := hb
    refine List.pairwise_append.mpr ⟨hpre,List.pairwise_cons.mpr ⟨?_,hpost⟩,?_⟩
    · exact fun _ _ _ => .inl he
    · intro x hx y hy
      rcases List.mem_cons.mp hy with rfl | hy
      · exact fun _ => .inr he
      · exact hcross x hx y (List.mem_cons_of_mem _ hy)
  · have hd := h.dated
    rw [hs] at hd
    intro x hx
    rcases List.mem_append.mp hx with hx | hx
    · exact (hd x (List.mem_append_left _ hx)).later hv.event.le
    rcases List.mem_cons.mp hx with rfl | hx
    · exact (hd m (List.mem_append_right _ List.mem_cons_self)).retired hv.event
    · exact (hd x (List.mem_append_right _ (List.mem_cons_of_mem _ hx))).later hv.event.le

theorem step_sound (l : MappingLedger w) (c : MappingCall w) (h : l.Sound) : (l.step c).1.Sound := by
  have ho := l.step_outcome c
  generalize (l.step c).1 = l' at ho ⊢
  generalize (l.step c).2 = r at ho
  cases ho with
  | failed => exact h
  | admitted hv ha hc => exact h.admitted hv ha hc
  | retired hv hs hm => exact h.retired hv hs hm

/-- No entry before another one has its id. -/
theorem Sound.fresh_before {l : MappingLedger w} (h : l.Sound) {pre post : List (LoaderMapping w)}
    {m : LoaderMapping w} (hs : l.entries = pre ++ m :: post) : ∀ m' ∈ pre, m'.id ≠ m.id := by
  have hnodup : (l.entries.map (fun m => m.id.toNat)).Nodup := by
    rw [h.ids]
    exact List.nodup_range'
  rw [hs, List.map_append, List.nodup_append] at hnodup
  intro m' hm' he
  exact hnodup.2.2 _ (List.mem_map_of_mem hm') _ (by simp) (congrArg UInt32.toNat he)

theorem Sound.id_of_getElem? {l : MappingLedger w} (h : l.Sound) {i : ℕ} {m : LoaderMapping w}
    (hi : l.entries[i]? = some m) : m.id.toNat = i+1 := by
  have hg := congrArg (·[i]?) h.ids
  simp only [List.getElem?_map, hi, Option.map_some] at hg
  obtain ⟨hlt,_⟩ := List.getElem?_eq_some_iff.mp hi
  rw [List.getElem?_range' hlt] at hg
  have := Option.some.inj hg
  omega

/-- At most one entry holds a base. -/
theorem Sound.holds_unique {l : MappingLedger w} (h : l.Sound) {i j : ℕ} {m m' : LoaderMapping w}
    {base : BitVec w} (hi : l.entries[i]? = some m) (hj : l.entries[j]? = some m')
    (hm : m.holds base = true) (hm' : m'.holds base = true) : i = j := by
  simp only [LoaderMapping.holds, Bool.and_eq_true, decide_eq_true_eq] at hm hm'
  obtain ⟨hli,rfl⟩ := List.getElem?_eq_some_iff.mp hi
  obtain ⟨hlj,rfl⟩ := List.getElem?_eq_some_iff.mp hj
  have hb := List.pairwise_iff_getElem.mp h.bases
  rcases Nat.lt_trichotomy i j with hlt | heq | hgt
  · rcases hb i j hli hlj hlt (hm.1.trans hm'.1.symm) with hu | hu
    · exact absurd hm.2 hu
    · exact absurd hm'.2 hu
  · exact heq
  · rcases hb j i hlj hli hgt (hm'.1.trans hm.1.symm) with hu | hu
    · exact absurd hm'.2 hu
    · exact absurd hm.2 hu

/-- The unload counter counts the ended entries; its subtraction cannot wrap. -/
theorem Sound.unloadCount_toNat {l : MappingLedger w} (h : l.Sound) :
    l.active.toNat ≤ l.count.toNat ∧
      l.unloadCount.toNat = l.entries.countP (fun m => m.unloadEvent ≠ 0) := by
  have hsum := List.length_eq_countP_add_countP (fun m : LoaderMapping w => m.unloadEvent = 0)
    (l := l.entries)
  have hle : l.active.toNat ≤ l.count.toNat := by
    rw [h.active, h.count]
    exact List.countP_le_length
  refine ⟨hle,?_⟩
  rw [unloadCount, UInt32.toNat_sub_of_le _ _ (UInt32.le_iff_toNat_le.mpr hle), h.active, h.count]
  simp only [decide_eq_true_eq] at hsum
  simp only [ne_eq]
  omega

end MappingLedger
end Saex
