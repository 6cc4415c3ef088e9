import Saex.MappingLedgerSound

/-! The mapping ledger against the whole run behind it: what its entries record
of the transitions that succeeded, and how they change. -/
namespace Saex
open Transitions

abbrev LedgerVisit (w : ℕ) := Visit (MappingLedger w) (MappingCall w) (Except String UInt32)

def MappingCall.event {w : ℕ} : MappingCall w → UInt32
  | .admitMapping _ event | .retire _ event => event

/-- The events an entry records: its load and, once ended, its unload. -/
def LoaderMapping.events {w : ℕ} (m : LoaderMapping w) : List ℕ :=
  if m.unloadEvent = 0 then [m.loadEvent.toNat] else [m.loadEvent.toNat,m.unloadEvent.toNat]

section Observations
variable {w : ℕ}

/-- The event of a successful transition. -/
def transitionEvent (v : LedgerVisit w) : Option ℕ :=
  match v.answer with
  | .ok _ => some v.call.event.toNat
  | .error _ => none

/-- The id and base of a successful admit. -/
def admission (v : LedgerVisit w) : Option (UInt32 × BitVec w) :=
  match v.call, v.answer with
  | .admitMapping base _, .ok id => some (id,base)
  | _, _ => none

/-- The id a successful retire ended. -/
def retirement (v : LedgerVisit w) : Option UInt32 :=
  match v.call, v.answer with
  | .retire _ _, .ok id => some id
  | _, _ => none

end Observations

namespace MappingLedger
variable {w : ℕ}

structure LedgerLaw (h : List (LedgerVisit w)) (l : MappingLedger w) : Prop where
  sound : l.Sound
  increasing : (h.filterMap transitionEvent).Pairwise (· < ·)
  latest : ∀ e ∈ h.filterMap transitionEvent, e ≤ l.lastEvent.toNat
  recorded : (l.entries.flatMap LoaderMapping.events).Perm (h.filterMap transitionEvent)
  admissions : h.filterMap admission = l.entries.map (fun m => (m.id,m.base))
  retirements : ∀ id, id ∈ h.filterMap retirement ↔
    ∃ m ∈ l.entries, m.id = id ∧ m.unloadEvent ≠ 0

theorem increasing_concat {es : List ℕ} {last e : ℕ} (hi : es.Pairwise (· < ·))
    (hl : ∀ x ∈ es, x ≤ last) (he : last < e) :
    (es ++ [e]).Pairwise (· < ·) ∧ ∀ x ∈ es ++ [e], x ≤ e := by
  refine ⟨List.pairwise_append.mpr ⟨hi,List.pairwise_singleton _ _,?_⟩,?_⟩
  · intro x hx y hy
    rw [List.mem_singleton.mp hy]
    exact (hl x hx).trans_lt he
  · intro x hx
    rcases List.mem_append.mp hx with hx | hx
    · exact (hl x hx).trans he.le
    · exact (List.mem_singleton.mp hx).le

theorem Sound.id_inj {l : MappingLedger w} (h : l.Sound) {m m' : LoaderMapping w}
    (hm : m ∈ l.entries) (hm' : m' ∈ l.entries) (he : m.id = m'.id) : m = m' := by
  obtain ⟨i,hi⟩ := List.getElem?_of_mem hm
  obtain ⟨j,hj⟩ := List.getElem?_of_mem hm'
  have h1 := h.id_of_getElem? hi
  have h2 := h.id_of_getElem? hj
  have hij : i = j := by
    rw [he] at h1
    omega
  rw [hij, hj] at hi
  exact (Option.some.inj hi).symm

theorem ledgerLaw_failed {h : List (LedgerVisit w)} {l : MappingLedger w} (hl : LedgerLaw h l)
    (c : MappingCall w) (error : String) : LedgerLaw (h ++ [⟨l,c,.error error⟩]) l := by
  have hadm : admission (⟨l,c,.error error⟩ : LedgerVisit w) = none := by cases c <;> rfl
  have hret : retirement (⟨l,c,.error error⟩ : LedgerVisit w) = none := by cases c <;> rfl
  refine ⟨hl.sound,?_,?_,?_,?_,?_⟩ <;>
    simp only [List.filterMap_append, List.filterMap_cons, List.filterMap_nil, transitionEvent,
      hadm, hret, List.append_nil]
  · exact hl.increasing
  · exact hl.latest
  · exact hl.recorded
  · exact hl.admissions
  · exact hl.retirements

theorem transitionEvent_concat (h : List (LedgerVisit w)) (l : MappingLedger w) (c : MappingCall w)
    (id : UInt32) : (h ++ [(⟨l,c,.ok id⟩ : LedgerVisit w)]).filterMap transitionEvent =
      h.filterMap transitionEvent ++ [c.event.toNat] := by
  rw [List.filterMap_append]
  rfl

theorem ledgerLaw_admitted {h : List (LedgerVisit w)} {l : MappingLedger w} (hl : LedgerLaw h l)
    {base : BitVec w} {event : UInt32} (hv : l.Admissible base event)
    (ha : ∀ m ∈ l.entries, m.holds base = false) (hc : l.count ≠ l.limit) :
    LedgerLaw (h ++ [⟨l,.admitMapping base event,.ok (l.count+1)⟩])
      { l with
        entries := l.entries ++ [⟨base,l.count+1,event,0⟩]
        count := l.count+1, active := l.active+1, lastEvent := event } := by
  obtain ⟨hinc,hlat⟩ := increasing_concat hl.increasing hl.latest hv.event
  refine ⟨hl.sound.admitted hv ha hc,?_,?_,?_,?_,?_⟩
  · rw [transitionEvent_concat]
    exact hinc
  · rw [transitionEvent_concat]
    exact hlat
  · rw [transitionEvent_concat, List.flatMap_append]
    exact hl.recorded.append (List.Perm.refl _)
  · rw [List.filterMap_append, List.map_append, hl.admissions]
    rfl
  · intro id
    rw [List.filterMap_append, List.mem_append, hl.retirements]
    simp only [List.mem_append, or_and_right, exists_or]
    refine or_congr_right ⟨?_,?_⟩
    · intro hr
      cases hr
    · rintro ⟨m,hm,_,hu⟩
      rw [List.mem_singleton.mp hm] at hu
      exact absurd rfl hu

theorem ledgerLaw_retired {h : List (LedgerVisit w)} {l : MappingLedger w} (hl : LedgerLaw h l)
    {event : UInt32} {pre post : List (LoaderMapping w)} {m : LoaderMapping w}
    (hv : l.Admissible m.base event) (hs : l.entries = pre ++ m :: post) (hm : m.unloadEvent = 0) :
    LedgerLaw (h ++ [⟨l,.retire m.base event,.ok m.id⟩])
      { l with
        entries := pre ++ { m with unloadEvent := event } :: post
        active := l.active-1, lastEvent := event } := by
  have he := ne_zero_of_lt hv.event
  obtain ⟨hinc,hlat⟩ := increasing_concat hl.increasing hl.latest hv.event
  refine ⟨hl.sound.retired hv hs hm,?_,?_,?_,?_,?_⟩
  · rw [transitionEvent_concat]
    exact hinc
  · rw [transitionEvent_concat]
    exact hlat
  · -- The new event stands next to the load event of its entry, not at the end.
    have hr := hl.recorded.append_right [event.toNat]
    rw [hs] at hr
    rw [transitionEvent_concat]
    refine List.Perm.trans ?_ hr
    simp only [List.flatMap_append, List.flatMap_cons, LoaderMapping.events, hm, he, if_true,
      if_false, List.append_assoc]
    refine List.Perm.append_left _ ?_
    simp only [List.cons_append, List.nil_append]
    exact List.Perm.cons _ (List.perm_append_singleton _ _).symm
  · rw [List.filterMap_append, hl.admissions, hs]
    simp [admission]
  · intro id
    have hmem : id ∈ [(⟨l,.retire m.base event,.ok m.id⟩ : LedgerVisit w)].filterMap retirement ↔
        m.id = id := by
      rw [show [(⟨l,.retire m.base event,.ok m.id⟩ : LedgerVisit w)].filterMap retirement = [m.id]
        from rfl, List.mem_singleton, eq_comm]
    rw [List.filterMap_append, List.mem_append, hl.retirements, hs, hmem]
    -- The id was retired before, or it is the one of the entry that ends here.
    constructor
    · rintro (⟨x,hx,hid,hu⟩ | hid)
      · rcases List.mem_append.mp hx with hx | hx
        · exact ⟨x,List.mem_append_left _ hx,hid,hu⟩
        rcases List.mem_cons.mp hx with rfl | hx
        · exact absurd hm hu
        · exact ⟨x,List.mem_append_right _ (List.mem_cons_of_mem _ hx),hid,hu⟩
      · exact ⟨_,List.mem_append_right _ List.mem_cons_self,hid,he⟩
    · rintro ⟨x,hx,hid,hu⟩
      rcases List.mem_append.mp hx with hx | hx
      · exact .inl ⟨x,List.mem_append_left _ hx,hid,hu⟩
      rcases List.mem_cons.mp hx with rfl | hx
      · exact .inr hid
      · exact .inl ⟨x,List.mem_append_right _ (List.mem_cons_of_mem _ hx),hid,hu⟩

theorem ledgerLaw_step (h : List (LedgerVisit w)) (l : MappingLedger w) (c : MappingCall w)
    (hl : LedgerLaw h l) : LedgerLaw (h ++ [⟨l,c,(l.step c).2⟩]) (l.step c).1 := by
  have ho := l.step_outcome c
  generalize (l.step c).1 = l' at ho ⊢
  generalize (l.step c).2 = r at ho ⊢
  cases ho with
  | failed error => exact ledgerLaw_failed hl c error
  | admitted hv ha hc => exact ledgerLaw_admitted hl hv ha hc
  | retired hv hs hm => exact ledgerLaw_retired hl hv hs hm

theorem ledgerLaw_run (limit : UInt32) (calls : List (MappingCall w)) :
    LedgerLaw (history step { limit } calls) (run step ({ limit } : MappingLedger w) calls) :=
  history_invariant step LedgerLaw ledgerLaw_step { limit }
    ⟨sound_create limit,List.Pairwise.nil,by simp,List.Perm.refl _,rfl,by simp⟩ calls

/-- Entries are never dropped, and change only by one unload event. -/
def Grows (l l' : MappingLedger w) : Prop :=
  ∀ (i : ℕ) (m : LoaderMapping w), l.entries[i]? = some m →
    ∃ m' : LoaderMapping w, l'.entries[i]? = some m' ∧
      (m' = m ∨ m.unloadEvent = 0 ∧ m'.unloadEvent ≠ 0 ∧
        m' = { m with unloadEvent := m'.unloadEvent })

theorem grows_refl (l : MappingLedger w) : Grows l l := fun _ m hi => ⟨m,hi,.inl rfl⟩

theorem Grows.trans {l l' l'' : MappingLedger w} (h : Grows l l') (h' : Grows l' l'') :
    Grows l l'' := by
  intro i m hi
  obtain ⟨m',hi',hm'⟩ := h i m hi
  obtain ⟨m'',hi'',hm''⟩ := h' i m' hi'
  refine ⟨m'',hi'',?_⟩
  rcases hm' with rfl | ⟨hu,hu',he⟩
  · exact hm''
  · rcases hm'' with rfl | ⟨hz,_⟩
    · exact .inr ⟨hu,hu',he⟩
    · exact absurd hz hu'

theorem step_grows (l : MappingLedger w) (c : MappingCall w) : Grows l (l.step c).1 := by
  have ho := l.step_outcome c
  generalize (l.step c).1 = l' at ho ⊢
  generalize (l.step c).2 = r at ho
  cases ho with
  | failed => exact grows_refl l
  | admitted =>
    intro i m hi
    obtain ⟨hlt,_⟩ := List.getElem?_eq_some_iff.mp hi
    exact ⟨m,by rw [List.getElem?_append_left hlt, hi],.inl rfl⟩
  | @retired event pre post m0 hv hs hm =>
    intro i m hi
    rw [hs] at hi
    rcases Nat.lt_trichotomy i pre.length with hlt | rfl | hgt
    · rw [List.getElem?_append_left hlt] at hi
      exact ⟨m,by rw [List.getElem?_append_left hlt, hi],.inl rfl⟩
    · rw [List.getElem?_append_right le_rfl, Nat.sub_self, List.getElem?_cons_zero] at hi
      cases hi
      refine ⟨{ m0 with unloadEvent := event },?_,.inr ⟨hm,ne_zero_of_lt hv.event,rfl⟩⟩
      rw [List.getElem?_append_right le_rfl, Nat.sub_self, List.getElem?_cons_zero]
    · obtain ⟨k,rfl⟩ := Nat.exists_eq_add_of_lt hgt
      refine ⟨m,?_,.inl rfl⟩
      rw [List.getElem?_append_right (by omega)] at hi ⊢
      rw [show pre.length+k+1-pre.length = k+1 by omega, List.getElem?_cons_succ] at hi ⊢
      exact hi

theorem run_grows (l : MappingLedger w) (calls : List (MappingCall w)) :
    Grows l (run step l calls) :=
  run_invariant step (Grows l) (fun l' c h => h.trans (step_grows l' c)) l (grows_refl l) calls

/-- A successful retire ends the one entry that holds the base. -/
theorem retire_ok {l : MappingLedger w} (h : l.Sound) {base : BitVec w} {event id : UInt32}
    (hr : (l.retire base event).2 = .ok id) : ∃ i m, l.entries[i]? = some m ∧
      m.holds base = true ∧ m.id = id ∧
      (∀ (j : ℕ) m', l.entries[j]? = some m' → m'.holds base = true → j = i) ∧
      (l.retire base event).1.entries = l.entries.set i { m with unloadEvent := event } := by
  have ho := l.step_outcome (.retire base event)
  simp only [step] at ho
  rw [hr] at ho
  generalize (l.retire base event).1 = l' at ho ⊢
  cases ho with
  | @retired _ pre post m hv hs hm =>
    have hi : l.entries[pre.length]? = some m := by
      rw [hs, List.getElem?_append_right le_rfl, Nat.sub_self, List.getElem?_cons_zero]
    have hh : m.holds m.base = true := by simp [LoaderMapping.holds, hm]
    refine ⟨pre.length,m,hi,hh,rfl,fun j m' hj hm' => h.holds_unique hj hi hm' hh,?_⟩
    rw [hs, List.set_append_right _ _ le_rfl, Nat.sub_self, List.set_cons_zero]

theorem retire_frame (l : MappingLedger w) (base : BitVec w) (event : UInt32) :
    (l.retire base event).1.count = l.count ∧ (l.retire base event).1.limit = l.limit := by
  have ho := l.step_outcome (.retire base event)
  simp only [step] at ho
  generalize (l.retire base event).1 = l' at ho ⊢
  generalize (l.retire base event).2 = r at ho
  cases ho <;> exact ⟨rfl,rfl⟩

theorem admitMapping_full {l : MappingLedger w} (hc : l.count = l.limit) (base : BitVec w)
    (event id : UInt32) : (l.admitMapping base event).2 ≠ .ok id := by
  intro hr
  have ho := l.step_outcome (.admitMapping base event)
  simp only [step] at ho
  rw [hr] at ho
  generalize (l.admitMapping base event).1 = l' at ho
  cases ho with
  | admitted _ _ hne => exact hne hc

theorem step_error {l : MappingLedger w} {c : MappingCall w} {error : String}
    (h : (l.step c).2 = .error error) : (l.step c).1 = l := by
  have ho := l.step_outcome c
  rw [h] at ho
  generalize (l.step c).1 = l' at ho ⊢
  cases ho
  rfl

theorem Sound.getElem?_pred {l : MappingLedger w} (h : l.Sound) {m : LoaderMapping w}
    (hm : m ∈ l.entries) : l.entries[(m.id-1).toNat]? = some m ∧ m.id ≠ 0 ∧ m.id ≤ l.count := by
  obtain ⟨i,hi⟩ := List.getElem?_of_mem hm
  have hid := h.id_of_getElem? hi
  obtain ⟨hlt,_⟩ := List.getElem?_eq_some_iff.mp hi
  have hle : (1 : UInt32) ≤ m.id := by
    rw [UInt32.le_iff_toNat_le, UInt32.toNat_one]
    omega
  have hsub : (m.id-1).toNat = i := by
    rw [UInt32.toNat_sub_of_le _ _ hle, UInt32.toNat_one]
    omega
  refine ⟨by rw [hsub, hi],?_,?_⟩
  · rw [Ne, ← UInt32.toNat_inj, hid, UInt32.toNat_zero]
    omega
  · rw [UInt32.le_iff_toNat_le, h.count, hid]
    exact hlt

theorem isActive_iff {l : MappingLedger w} (h : l.Sound) (id : UInt32) (base : BitVec w) :
    l.isActive id base = true ↔ ∃ m ∈ l.entries, m.id = id ∧ m.holds base = true := by
  constructor
  · intro ha
    simp only [isActive, Bool.and_eq_true, decide_eq_true_eq] at ha
    obtain ⟨⟨⟨h0,hle⟩,_⟩,hm⟩ := ha
    split at hm
    · rename_i m he
      refine ⟨m,List.mem_of_getElem? he,?_,hm⟩
      have hid := h.id_of_getElem? he
      have h1 : (1 : UInt32) ≤ id := by
        rw [Ne, ← UInt32.toNat_inj, UInt32.toNat_zero] at h0
        rw [UInt32.le_iff_toNat_le, UInt32.toNat_one]
        omega
      rw [UInt32.toNat_sub_of_le _ _ h1, UInt32.toNat_one] at hid
      rw [UInt32.le_iff_toNat_le, UInt32.toNat_one] at h1
      rw [← UInt32.toNat_inj]
      omega
    · cases hm
  · rintro ⟨m,hm,rfl,hb⟩
    obtain ⟨hi,h0,hle⟩ := h.getElem?_pred hm
    have hbase : base ≠ 0 := by
      have := (h.dated m hm).base
      simp only [LoaderMapping.holds, Bool.and_eq_true, decide_eq_true_eq] at hb
      rwa [hb.1] at this
    simp only [isActive, hi, hb, h0, hle, hbase, ne_eq, not_false_eq_true, decide_true,
      Bool.and_self]

/-- An id is active at a base exactly as long as it was admitted there and no
retire ended it. -/
theorem LedgerLaw.isActive_iff {h : List (LedgerVisit w)} {l : MappingLedger w}
    (hl : LedgerLaw h l) (id : UInt32) (base : BitVec w) : l.isActive id base = true ↔
      (id,base) ∈ h.filterMap admission ∧ id ∉ h.filterMap retirement := by
  rw [MappingLedger.isActive_iff hl.sound, hl.admissions, hl.retirements, List.mem_map]
  constructor
  · rintro ⟨m,hm,rfl,hb⟩
    simp only [LoaderMapping.holds, Bool.and_eq_true, decide_eq_true_eq] at hb
    refine ⟨⟨m,hm,by rw [hb.1]⟩,?_⟩
    rintro ⟨m',hm',he,hu⟩
    rw [hl.sound.id_inj hm' hm he] at hu
    exact hu hb.2
  · rintro ⟨⟨m,hm,he⟩,hn⟩
    cases he
    refine ⟨m,hm,rfl,?_⟩
    by_contra hu
    refine hn ⟨m,hm,rfl,?_⟩
    simpa [LoaderMapping.holds] using hu

/-- The laws of a ledger `l` with the run `h` behind it. -/
structure Laws (limit : UInt32) (h : List (LedgerVisit w)) (l : MappingLedger w) : Prop where
  length_le : l.entries.length ≤ limit.toNat ∧ l.entries.length ≤ 64
  ids : ∀ (i : ℕ) m, l.entries[i]? = some m → m.id.toNat = i+1
  ids_fresh : ((h.filterMap admission).map Prod.fst).Nodup
  events_increase : (h.filterMap transitionEvent).Pairwise (· < ·)
  load_before_unload : ∀ m ∈ l.entries, m.unloadEvent ≠ 0 →
    m.loadEvent.toNat < m.unloadEvent.toNat
  events_once : (l.entries.flatMap LoaderMapping.events).Nodup
  active_count : l.active.toNat = l.entries.countP (fun m => m.unloadEvent = 0)
  unload_count : l.active.toNat ≤ l.count.toNat ∧
    l.unloadCount.toNat = l.entries.countP (fun m => m.unloadEvent ≠ 0)
  one_per_base : ∀ (i j : ℕ) m m' base, l.entries[i]? = some m → l.entries[j]? = some m' →
    m.holds base = true → m'.holds base = true → i = j
  append_only : ∀ more, Grows l (run step l more)
  retire_ends : ∀ base event id, (l.retire base event).2 = .ok id →
    ∃ i m, l.entries[i]? = some m ∧ m.holds base = true ∧ m.id = id ∧
      (∀ (j : ℕ) m', l.entries[j]? = some m' → m'.holds base = true → j = i) ∧
      (l.retire base event).1.entries = l.entries.set i { m with unloadEvent := event }
  active_iff : ∀ id base, l.isActive id base = true ↔
    (id,base) ∈ h.filterMap admission ∧ id ∉ h.filterMap retirement
  no_refund : (h.filterMap admission).length = l.entries.length ∧
    (∀ base event, (l.retire base event).1.count = l.count ∧
      (l.retire base event).1.limit = l.limit) ∧
    (l.entries.length = limit.toNat → ∀ base event id, (l.admitMapping base event).2 ≠ .ok id)
  failed_unchanged : ∀ c error, (l.step c).2 = .error error → (l.step c).1 = l

theorem run_limit (l : MappingLedger w) (calls : List (MappingCall w)) :
    (run step l calls).limit = l.limit := by
  refine run_invariant step (fun l' => l'.limit = l.limit) (fun l' c hl' => ?_) l rfl calls
  have ho := l'.step_outcome c
  generalize (l'.step c).1 = l'' at ho ⊢
  generalize (l'.step c).2 = r at ho
  cases ho <;> exact hl'

/-- Every run of admits and retires, on any limit, keeps the laws of the ledger. -/
theorem mapping_ledger_laws (limit : UInt32) (calls : List (MappingCall w)) :
    Laws limit (history step { limit } calls)
      (run step ({ limit } : MappingLedger w) calls) := by
  have hl := ledgerLaw_run (w := w) limit calls
  have hlim : (run step ({ limit } : MappingLedger w) calls).limit = limit := run_limit _ calls
  generalize run step ({ limit } : MappingLedger w) calls = l at hl hlim ⊢
  generalize history step ({ limit } : MappingLedger w) calls = h at hl ⊢
  have hs := hl.sound
  exact {
    length_le := ⟨hlim ▸ hs.capacity,hs.bound⟩
    ids := fun i m hi => hs.id_of_getElem? hi
    ids_fresh := by
      rw [hl.admissions, List.map_map]
      refine List.Nodup.of_map UInt32.toNat ?_
      rw [List.map_map]
      have := hs.ids ▸ List.nodup_range' (s := 1) (n := l.entries.length)
      exact this
    events_increase := hl.increasing
    load_before_unload := fun m hm hu => ((hs.dated m hm).unload hu).1
    events_once := hl.recorded.nodup_iff.mpr (hl.increasing.imp (fun hlt => hlt.ne))
    active_count := hs.active
    unload_count := hs.unloadCount_toNat
    one_per_base := fun i j m m' base hi hj hm hm' => hs.holds_unique hi hj hm hm'
    append_only := run_grows l
    retire_ends := fun base event id hr => retire_ok hs hr
    active_iff := hl.isActive_iff
    no_refund := by
      refine ⟨by rw [hl.admissions, List.length_map],retire_frame l,fun hfull => ?_⟩
      refine admitMapping_full ?_
      rw [← UInt32.toNat_inj, hs.count, hlim]
      exact hfull
    failed_unchanged := fun c error he => step_error he }

end MappingLedger
end Saex
