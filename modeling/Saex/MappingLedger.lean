import Mathlib.Data.BitVec
import Mathlib.Data.List.Range
import Mathlib.Data.UInt
import Saex.Transitions

/-! The mapping ledger of engine/loader/loader_mapping_ledger.cpp. `entries` is
`history()`, the first `count` cells of its array; bases are `w`-bit. -/
namespace Saex

def maxLoaderMappings : UInt32 := 64

@[simp] theorem maxLoaderMappings_toNat : maxLoaderMappings.toNat = 64 := rfl

structure LoaderMapping (w : ℕ) where
  base : BitVec w := 0
  id : UInt32 := 0
  loadEvent : UInt32 := 0
  unloadEvent : UInt32 := 0
deriving DecidableEq

structure MappingLedger (w : ℕ) where
  entries : List (LoaderMapping w) := []
  limit : UInt32 := maxLoaderMappings
  count : UInt32 := 0
  active : UInt32 := 0
  lastEvent : UInt32 := 0
deriving DecidableEq

/-- The base is mapped by this entry and not unmapped yet. -/
def LoaderMapping.holds {w : ℕ} (m : LoaderMapping w) (base : BitVec w) : Bool :=
  m.base = base && m.unloadEvent = 0

namespace MappingLedger
variable {w : ℕ}

def validate (l : MappingLedger w) (base : BitVec w) (event : UInt32) : Option String :=
  if l.limit = 0 || l.limit > maxLoaderMappings then some "loader_mapping_invalid_limit"
  else if base = 0 then some "loader_mapping_invalid_base"
  else if event = 0 || event ≤ l.lastEvent then some "loader_mapping_event_order"
  else none

def admitMapping (l : MappingLedger w) (base : BitVec w) (event : UInt32) :
    MappingLedger w × Except String UInt32 :=
  match l.validate base event with
  | some error => (l,.error error)
  | none =>
    if l.entries.any (·.holds base) then (l,.error "loader_mapping_base_active")
    else if l.count = l.limit then (l,.error "loader_mapping_limit")
    else
      let id := l.count+1
      ({ l with
        entries := l.entries ++ [⟨base,id,event,0⟩]
        count := l.count+1, active := l.active+1, lastEvent := event },.ok id)

/-- The loop of `retire`: the first entry that holds the base gets the unload event. -/
def endMapping (base : BitVec w) (event : UInt32) :
    List (LoaderMapping w) → Option (List (LoaderMapping w) × UInt32)
  | [] => none
  | m :: rest =>
    if m.holds base then some ({ m with unloadEvent := event } :: rest,m.id)
    else (endMapping base event rest).map fun r => (m :: r.1,r.2)

def retire (l : MappingLedger w) (base : BitVec w) (event : UInt32) :
    MappingLedger w × Except String UInt32 :=
  match l.validate base event with
  | some error => (l,.error error)
  | none => match endMapping base event l.entries with
    | some (entries,id) =>
      ({ l with entries, active := l.active-1, lastEvent := event },.ok id)
    | none => (l,.error "loader_mapping_not_active")

def isActive (l : MappingLedger w) (id : UInt32) (base : BitVec w) : Bool :=
  id ≠ 0 && id ≤ l.count && base ≠ 0 &&
    (match l.entries[(id-1).toNat]? with
      | some m => m.holds base
      | none => false)

def unloadCount (l : MappingLedger w) : UInt32 := l.count-l.active

end MappingLedger

inductive MappingCall (w : ℕ)
  | admitMapping (base : BitVec w) (event : UInt32)
  | retire (base : BitVec w) (event : UInt32)
deriving DecidableEq

namespace MappingLedger
variable {w : ℕ}

def step (l : MappingLedger w) : MappingCall w → MappingLedger w × Except String UInt32
  | .admitMapping base event => l.admitMapping base event
  | .retire base event => l.retire base event

/-- What `validate` lets through. -/
structure Admissible (l : MappingLedger w) (base : BitVec w) (event : UInt32) : Prop where
  positive : 0 < l.limit.toNat
  limit : l.limit.toNat ≤ 64
  base : base ≠ 0
  event : l.lastEvent.toNat < event.toNat

theorem validate_eq_none_iff (l : MappingLedger w) (base : BitVec w) (event : UInt32) :
    l.validate base event = none ↔ l.Admissible base event := by
  unfold validate
  simp only [Bool.or_eq_true, decide_eq_true_eq, gt_iff_lt, UInt32.lt_iff_toNat_lt,
    UInt32.le_iff_toNat_le, ← UInt32.toNat_inj, maxLoaderMappings_toNat, UInt32.toNat_zero]
  constructor
  · intro h
    split_ifs at h with hl hb he
    exact ⟨by omega,by omega,hb,by omega⟩
  · intro h
    rw [if_neg (by have := h.positive; have := h.limit; omega), if_neg h.base,
      if_neg (by have := h.event; omega)]

/-- The loop of `retire` splits the entries at the one it ends. -/
theorem endMapping_eq_some {base : BitVec w} {event id : UInt32}
    {entries entries' : List (LoaderMapping w)}
    (h : endMapping base event entries = some (entries',id)) :
    ∃ pre m post, entries = pre ++ m :: post ∧
      entries' = pre ++ { m with unloadEvent := event } :: post ∧ id = m.id ∧
      m.base = base ∧ m.unloadEvent = 0 := by
  induction entries generalizing entries' with
  | nil => cases h
  | cons m rest ih =>
    rw [endMapping] at h
    split at h
    · rename_i hm
      cases h
      simp only [LoaderMapping.holds, Bool.and_eq_true, decide_eq_true_eq] at hm
      exact ⟨[],m,rest,rfl,rfl,rfl,hm⟩
    · obtain ⟨⟨r,i⟩,hr,he⟩ := Option.map_eq_some_iff.mp h
      cases he
      obtain ⟨pre,m',post,h1,h2,h3⟩ := ih hr
      exact ⟨m :: pre,m',post,by rw [h1, List.cons_append],by rw [h2, List.cons_append],h3⟩

/-- Everything an admit or a retire can do. -/
inductive Outcome (l : MappingLedger w) :
    MappingCall w → MappingLedger w → Except String UInt32 → Prop
  | failed {c : MappingCall w} (error : String) : Outcome l c l (.error error)
  | admitted {base : BitVec w} {event : UInt32} (hv : l.Admissible base event)
      (ha : ∀ m ∈ l.entries, m.holds base = false) (hc : l.count ≠ l.limit) :
      Outcome l (.admitMapping base event)
        { l with
          entries := l.entries ++ [⟨base,l.count+1,event,0⟩]
          count := l.count+1, active := l.active+1, lastEvent := event } (.ok (l.count+1))
  | retired {event : UInt32} {pre post : List (LoaderMapping w)} {m : LoaderMapping w}
      (hv : l.Admissible m.base event) (hs : l.entries = pre ++ m :: post)
      (hm : m.unloadEvent = 0) :
      Outcome l (.retire m.base event)
        { l with
          entries := pre ++ { m with unloadEvent := event } :: post
          active := l.active-1, lastEvent := event } (.ok m.id)

theorem step_outcome (l : MappingLedger w) (c : MappingCall w) :
    l.Outcome c (l.step c).1 (l.step c).2 := by
  cases c with
  | admitMapping base event =>
    simp only [step, admitMapping]
    cases hv : l.validate base event with
    | some error => exact .failed error
    | none =>
      have hv := (validate_eq_none_iff l base event).mp hv
      dsimp only
      split
      · exact .failed _
      rename_i ha
      split
      · exact .failed _
      rename_i hc
      refine .admitted hv ?_ hc
      simpa using ha
  | retire base event =>
    simp only [step, retire]
    cases hv : l.validate base event with
    | some error => exact .failed error
    | none =>
      have hv := (validate_eq_none_iff l base event).mp hv
      dsimp only
      split
      · rename_i entries id he
        obtain ⟨pre,m,post,hs,rfl,rfl,rfl,hm⟩ := endMapping_eq_some he
        exact .retired hv hs hm
      · exact .failed _

/-- What a successful admit found and did. -/
theorem admitMapping_ok {l l' : MappingLedger w} {base : BitVec w} {event id : UInt32}
    (h : l.admitMapping base event = (l',.ok id)) :
    l.Admissible base event ∧ l.count ≠ l.limit ∧ id = l.count+1 ∧
      l' = { l with
        entries := l.entries ++ [⟨base,l.count+1,event,0⟩]
        count := l.count+1, active := l.active+1, lastEvent := event } := by
  have ho := l.step_outcome (.admitMapping base event)
  simp only [step, h] at ho
  cases ho with
  | admitted hv ha hc => exact ⟨hv,hc,rfl,rfl⟩

/-- What a successful retire found and did. -/
theorem retire_split {l l' : MappingLedger w} {base : BitVec w} {event id : UInt32}
    (h : l.retire base event = (l',.ok id)) :
    ∃ pre m post, l.entries = pre ++ m :: post ∧ m.id = id ∧
      l' = { l with
        entries := pre ++ { m with unloadEvent := event } :: post
        active := l.active-1, lastEvent := event } := by
  have ho := l.step_outcome (.retire base event)
  simp only [step, h] at ho
  cases ho with
  | retired hv hs hm => exact ⟨_,_,_,hs,rfl,rfl⟩

/-- An admit that fails on a base and an event it can take finds the base mapped
already or the ledger full. -/
theorem admitMapping_error {l l' : MappingLedger w} {base : BitVec w} {event : UInt32}
    {error : String} (hv : l.Admissible base event)
    (h : l.admitMapping base event = (l',.error error)) :
    error = "loader_mapping_base_active" ∨ l.count = l.limit := by
  rw [admitMapping, (validate_eq_none_iff l base event).mpr hv] at h
  dsimp only at h
  split at h
  · cases h
    exact .inl rfl
  · split at h
    · rename_i hc
      exact .inr hc
    · cases h

/-- A retire that fails at an event it can take had no base to look for, or did
not find it. -/
theorem retire_error {l l' : MappingLedger w} {base : BitVec w} {event : UInt32}
    {error : String} (hpos : 0 < l.limit.toNat) (hlim : l.limit.toNat ≤ 64)
    (he : l.lastEvent.toNat < event.toNat) (h : l.retire base event = (l',.error error)) :
    error = "loader_mapping_invalid_base" ∨ error = "loader_mapping_not_active" := by
  by_cases hb : base = 0
  · left
    have hlimit : ¬(l.limit = 0 ∨ l.limit > maxLoaderMappings) := by
      rw [gt_iff_lt, UInt32.lt_iff_toNat_lt, ← UInt32.toNat_inj, UInt32.toNat_zero,
        maxLoaderMappings_toNat]
      omega
    have hv : l.validate base event = some "loader_mapping_invalid_base" := by
      simp only [validate, Bool.or_eq_true, decide_eq_true_eq, if_neg hlimit, if_pos hb]
    rw [retire, hv] at h
    cases h
    rfl
  · right
    rw [retire, (validate_eq_none_iff l base event).mpr ⟨hpos,hlim,hb,he⟩] at h
    dsimp only at h
    split at h
    · cases h
    · cases h
      rfl

end MappingLedger
end Saex
