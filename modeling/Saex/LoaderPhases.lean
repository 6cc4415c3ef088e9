import Mathlib.Order.Basic
import Mathlib.Order.Cover
import Mathlib.Tactic.Common

/-! The places where `LoaderObservation::run_impl` of engine/loader/loader_observation.cpp
sets its breakpoint: fourteen on the approach to the game's event dispatch, then
the fifteen checkpoints. -/
namespace Saex

/-- The checkpoints, in the order in which they are armed. -/
inductive Phase
  | eventDispatch | applicationRouting | gamePrelude | fileManagerEntry | cwdSeh | cwdLock
  | cwdAcquire | cwdQuery | cwdCopy | cwdReturn | fileManagerReady | cdStreamTables
  | cdStreamDisk | cdStreamAllocation | cdStreamChannels
deriving DecidableEq

/-- The stops before the first checkpoint. -/
inductive Approach
  | entry | proxy | startup | codec | binding | asiCall | asiReturn | bootstrap
  | startupReturn | crtStartup | applicationEntry | platformStartup | platformSuppression
  | instanceStartup
deriving DecidableEq

inductive Place
  | approach (a : Approach)
  | phase (p : Phase)
deriving DecidableEq

/-- The optional arguments of `run_impl`, under their names there except `instance`. -/
inductive Spec
  | entry | proxy | startup | codec | binding | asi | bootstrap | frame | tail | crt
  | application | platform | suppression | instanceStartup | dispatch | routing | prelude | manager
  | seh | lock | acquire | query | copy | completion | ready | tables | disk | allocation
  | channels
deriving DecidableEq

namespace Phase

instance : LinearOrder Phase :=
  LinearOrder.lift' Phase.ctorIdx (Function.LeftInverse.injective Phase.ofNat_ctorIdx)

theorem lt_iff (p q : Phase) : p < q ↔ p.ctorIdx < q.ctorIdx := Iff.rfl

theorem isBot_eventDispatch : IsBot eventDispatch := fun p => Nat.zero_le p.ctorIdx

def next : Phase → Option Phase
  | eventDispatch => some applicationRouting
  | applicationRouting => some gamePrelude
  | gamePrelude => some fileManagerEntry
  | fileManagerEntry => some cwdSeh
  | cwdSeh => some cwdLock
  | cwdLock => some cwdAcquire
  | cwdAcquire => some cwdQuery
  | cwdQuery => some cwdCopy
  | cwdCopy => some cwdReturn
  | cwdReturn => some fileManagerReady
  | fileManagerReady => some cdStreamTables
  | cdStreamTables => some cdStreamDisk
  | cdStreamDisk => some cdStreamAllocation
  | cdStreamAllocation => some cdStreamChannels
  | cdStreamChannels => none

theorem covBy_of_next {p q : Phase} (h : p.next = some q) : p ⋖ q := by
  have hidx : q.ctorIdx = p.ctorIdx+1 := by
    cases p <;> cases h <;> rfl
  refine ⟨?_,?_⟩
  · rw [lt_iff]
    omega
  · intro r hpr hrq
    rw [lt_iff] at hpr hrq
    omega

/-- The number of stages of a checkpoint; the last one verifies it. -/
def stages : Phase → ℕ
  | eventDispatch => 3
  | applicationRouting => 4
  | gamePrelude => 5
  | fileManagerEntry => 2
  | cwdSeh => 3
  | cwdLock => 2
  | cwdAcquire => 5
  | cwdQuery => 7
  | cwdCopy => 5
  | cwdReturn => 6
  | fileManagerReady => 9
  | cdStreamTables => 2
  | cdStreamDisk => 4
  | cdStreamAllocation => 10
  | cdStreamChannels => 9

theorem one_le_stages (p : Phase) : 1 ≤ p.stages := by
  cases p <;> decide

def spec : Phase → Spec
  | eventDispatch => .dispatch
  | applicationRouting => .routing
  | gamePrelude => .prelude
  | fileManagerEntry => .manager
  | cwdSeh => .seh
  | cwdLock => .lock
  | cwdAcquire => .acquire
  | cwdQuery => .query
  | cwdCopy => .copy
  | cwdReturn => .completion
  | fileManagerReady => .ready
  | cdStreamTables => .tables
  | cdStreamDisk => .disk
  | cdStreamAllocation => .allocation
  | cdStreamChannels => .channels

/-- The order in which an exception looks for the armed checkpoint. -/
def priority : List Phase :=
  [cdStreamChannels,cdStreamAllocation,cdStreamDisk,cdStreamTables,fileManagerReady,cwdReturn,
    cwdCopy,cwdQuery,cwdAcquire,cwdLock,cwdSeh,fileManagerEntry,gamePrelude,applicationRouting,
    eventDispatch]

theorem mem_priority (p : Phase) : p ∈ priority := by
  cases p <;> decide

theorem priority_decreasing : priority.Pairwise (fun p q => q < p) := by
  decide

end Phase

namespace Approach

def spec : Approach → Spec
  | entry => .entry
  | proxy => .proxy
  | startup => .startup
  | codec => .codec
  | binding => .binding
  | asiCall => .asi
  | asiReturn => .asi
  | bootstrap => .bootstrap
  | startupReturn => .tail
  | crtStartup => .crt
  | applicationEntry => .application
  | platformStartup => .platform
  | platformSuppression => .suppression
  | instanceStartup => .instanceStartup

/-- Whether a stop at this stage is the last of its place, as the handler tests
it: a place without stages has one stop only, and the chains of
`startup_return` and `crt_startup` end in an unconditional branch. -/
def final : Approach → ℕ → Bool
  | bootstrap, stage => stage == 8
  | startupReturn, stage => stage != 1 && stage != 2
  | crtStartup, stage => stage != 1
  | applicationEntry, stage => stage == 5
  | instanceStartup, stage => stage == 4
  | _, _ => true

end Approach

def Place.spec : Place → Spec
  | .approach a => a.spec
  | .phase p => p.spec

def Place.final : Place → ℕ → Bool
  | .approach a, stage => a.final stage
  | .phase p, stage => stage == p.stages

end Saex
