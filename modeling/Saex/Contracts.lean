import Mathlib.Data.UInt

/-! The strong identifiers of contracts/: one `uint64` wrapper for each tag, so
that a session cannot be passed where an owner epoch is expected. -/
namespace Saex

inductive IdTag
  | worldId | worldEpoch | entityId | generation | sessionId | resourceEpoch
  | ownerEpoch | clockDomainId | stateRevision | catalogRevision | sequence
deriving DecidableEq

structure StrongId (tag : IdTag) where
  value : UInt64 := 0
deriving DecidableEq

abbrev WorldId := StrongId .worldId
abbrev WorldEpoch := StrongId .worldEpoch
abbrev EntityId := StrongId .entityId
abbrev Generation := StrongId .generation
abbrev SessionId := StrongId .sessionId
abbrev ResourceEpoch := StrongId .resourceEpoch
abbrev OwnerEpoch := StrongId .ownerEpoch
abbrev ClockDomainId := StrongId .clockDomainId
abbrev StateRevision := StrongId .stateRevision
abbrev CatalogRevision := StrongId .catalogRevision
abbrev Sequence := StrongId .sequence

/-- `std::numeric_limits<std::uint64_t>::max()`. -/
def uint64Max : UInt64 := 18446744073709551615

@[simp] theorem uint64Max_toNat : uint64Max.toNat = 2^64-1 := rfl

def next {tag : IdTag} (current : StrongId tag) : Option (StrongId tag) :=
  if current.value = uint64Max then none else some ⟨current.value+1⟩

theorem next_eq_none_iff {tag : IdTag} (current : StrongId tag) :
    next current = none ↔ current.value.toNat = 2^64-1 := by
  simp only [next, ← UInt64.toNat_inj, uint64Max_toNat]
  split <;> simp_all

/-- The successor of an identifier is the exact one: it never wraps. -/
theorem next_toNat {tag : IdTag} (current n : StrongId tag) (h : next current = some n) :
    n.value.toNat = current.value.toNat+1 := by
  unfold next at h
  split at h
  · cases h
  · rename_i hne
    cases h
    rw [← UInt64.toNat_inj] at hne
    have hlt := current.value.toNat_lt
    simp only [uint64Max_toNat] at hne
    rw [UInt64.toNat_add]
    simp only [UInt64.reduceToNat]
    omega

structure EntityRef where
  worldId : WorldId := {}
  worldEpoch : WorldEpoch := {}
  entityId : EntityId := {}
  generation : Generation := {}
deriving DecidableEq

def EntityRef.valid (e : EntityRef) : Bool :=
  e.worldId.value ≠ 0 && e.worldEpoch.value ≠ 0 && e.entityId.value ≠ 0 && e.generation.value ≠ 0

end Saex
