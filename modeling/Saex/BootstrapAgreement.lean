import Mathlib.Tactic.FinCases
import Saex.BootstrapLifecycle
import Saex.BootstrapRuns

/-! The session inside the process and the status checker outside it describe one
protocol: the eight calls of the recipe produce the eight statuses it accepts. -/
namespace Saex
open Transitions LittleEndian

/-- What a whole call leaves in the status, when `inspect` would return `r`. -/
def BootstrapStatus.completed (operation : BootstrapOperation) (r : UInt32) (s : BootstrapStatus) :
    BootstrapStatus :=
  (if operation = .initializeSession ∧ s.state = Bootstrap.discovered then
    { s with observationAttempts := 1 }.observe r
  else if operation = .stop then { s with state := Bootstrap.stopped }
  else s).withDigest

namespace BootstrapSession
variable {ι β : Type*} [DecidableEq ι] [DecidableEq β]

/-- The steps of one call that nothing overlaps. The one that hands over what `inspect`
returned finds nobody waiting unless the call is the observing one. -/
def callEvents (call : ι) (operation : BootstrapOperation) (output : β) (r : UInt32) :
    List (BootstrapEvent ι β) :=
  [.invoke call operation Bootstrap.abiMajor (some output) Bootstrap.statusBytes,.proceed call,
    .inspected call r,.proceed call]

/-- A call on a session with nothing in flight runs to its end and leaves nothing in flight. -/
theorem run_callEvents (status : BootstrapStatus) (outputs : β → BootstrapStatus) (call : ι)
    (operation : BootstrapOperation) (output : β) (r : UInt32) :
    run step ({ status, outputs } : BootstrapSession ι β) (callEvents call operation output r) =
      { status := status.completed operation r
        outputs := Function.update outputs output (status.completed operation r) } := by
  by_cases hi : operation = .initializeSession ∧ status.state = Bootstrap.discovered
  · simp [callEvents, step, invoke, proceed, inspected, setFrame, BootstrapStatus.completed, hi,
      Function.update_idem]
  · by_cases hs : operation = .stop
    · subst hs
      simp [callEvents, step, invoke, proceed, inspected, setFrame, BootstrapStatus.completed,
        Function.update_idem]
    · simp [callEvents, step, invoke, proceed, inspected, setFrame, BootstrapStatus.completed, hi,
        hs, Function.update_idem]

/-- The calls of the recipe on a session that has just been made, each with an output of its own. -/
def lifecycleCalls (r : UInt32) : List (BootstrapEvent Unit (Fin 8)) :=
  (List.finRange 8).flatMap fun k => callEvents () (exportOperation (bootstrapCallSequence.get k)) k r

/-- What stands in each call's output after all eight. -/
def lifecycleStatuses (outputs : Fin 8 → BootstrapStatus) (r : UInt32) : Fin 8 → BootstrapStatus :=
  (run step { outputs } (lifecycleCalls r)).outputs

end BootstrapSession

namespace BootstrapStatus

theorem copyInto_self {n : ℕ} (source : List UInt8) (target : Vector UInt8 n) :
    copyInto source (copyInto source target) = copyInto source target := by
  unfold copyInto
  ext i hi
  simp only [Vector.getElem_ofFn, Fin.getElem_fin]
  cases hs : source[i]? <;> simp [List.getD_eq_getElem?_getD, hs]

/-- A copy that fills its target is read back whole. -/
theorem copyInto_toList {n : ℕ} {source : List UInt8} (h : source.length = n)
    (target : Vector UInt8 n) : (copyInto source target).toList = source := by
  unfold copyInto
  subst h
  apply List.ext_getElem (by simp)
  intro i h1 h2
  simp [List.getD_eq_getElem?_getD]

theorem withDigest_withDigest (s : BootstrapStatus) : s.withDigest.withDigest = s.withDigest := by
  simp only [withDigest, copyInto_self]

/-- The reason kept for a value of `inspect`: foreign values count as internal errors. -/
def recordedReason (r : UInt32) : UInt32 :=
  if r ≥ Bootstrap.hostPath ∧ r ≤ Bootstrap.internalError then r else Bootstrap.internalError

theorem observe_eq (s : BootstrapStatus) (r : UInt32) : s.observe r =
    if recordedReason r = Bootstrap.runtimeUnverified then
      { s with
        reason := recordedReason r, state := Bootstrap.observedUnverified
        observedProfileId := copyInto Saex.observedProfileId s.observedProfileId }
    else { s with reason := recordedReason r, state := Bootstrap.rejected } := rfl

theorem recordedReason_range (r : UInt32) :
    recordedReason r ≥ Bootstrap.hostPath ∧ recordedReason r ≤ Bootstrap.internalError := by
  unfold recordedReason
  split
  · assumption
  · decide

theorem recordedReason_of_range {r : UInt32} (h : r ≥ Bootstrap.hostPath)
    (h' : r ≤ Bootstrap.internalError) : recordedReason r = r := if_pos ⟨h,h'⟩

theorem withDigest_observe (s : BootstrapStatus) (r : UInt32) :
    (s.withDigest.observe r).withDigest = (s.observe r).withDigest := by
  rw [observe_eq, observe_eq]
  split <;> simp only [withDigest, copyInto_self]

def discoveredStatus : BootstrapStatus := ({} : BootstrapStatus).withDigest

def observedStatus (r : UInt32) : BootstrapStatus :=
  (({ observationAttempts := 1 } : BootstrapStatus).observe r).withDigest

def stoppedStatus (r : UInt32) : BootstrapStatus :=
  { observedStatus r with state := Bootstrap.stopped }

theorem observedStatus_state (r : UInt32) : (observedStatus r).state ≠ Bootstrap.discovered := by
  rw [observedStatus, withDigest_state, observe_eq]
  split
  · exact (by decide : Bootstrap.observedUnverified ≠ Bootstrap.discovered)
  · exact (by decide : Bootstrap.rejected ≠ Bootstrap.discovered)

theorem completed_fresh (r : UInt32) : completed .query r {} = discoveredStatus := rfl

theorem completed_discovered (r : UInt32) :
    completed .initializeSession r discoveredStatus = observedStatus r := by
  rw [completed, if_pos ⟨rfl,rfl⟩]
  exact withDigest_observe { observationAttempts := 1 } r

theorem completed_observed {operation : BootstrapOperation} (h : operation ≠ .stop) (r : UInt32) :
    completed operation r (observedStatus r) = observedStatus r := by
  rw [completed, if_neg fun hi => observedStatus_state r hi.2, if_neg h]
  exact withDigest_withDigest _

theorem completed_stop (r : UInt32) : completed .stop r (observedStatus r) = stoppedStatus r := by
  rw [completed, if_neg (by simp), if_pos rfl]
  simp only [stoppedStatus, observedStatus, withDigest, copyInto_self]

theorem completed_stopped (operation : BootstrapOperation) (r : UInt32) :
    completed operation r (stoppedStatus r) = stoppedStatus r := by
  have hstate : (stoppedStatus r).state ≠ Bootstrap.discovered :=
    (by decide : Bootstrap.stopped ≠ Bootstrap.discovered)
  rw [completed, if_neg fun hi => hstate hi.2]
  split <;> simp only [stoppedStatus, observedStatus, withDigest, copyInto_self]

end BootstrapStatus

namespace BootstrapSession
open BootstrapStatus

theorem lifecycleStatuses_eq (outputs : Fin 8 → BootstrapStatus) (r : UInt32) (k : Fin 8) :
    lifecycleStatuses outputs r k = if k.val = 0 then discoveredStatus
      else if k.val < 4 then observedStatus r else stoppedStatus r := by
  have hcalls : lifecycleCalls r = callEvents () .query 0 r ++ callEvents () .initializeSession 1 r ++
      callEvents () .query 2 r ++ callEvents () .initializeSession 3 r ++ callEvents () .stop 4 r ++
      callEvents () .query 5 r ++ callEvents () .initializeSession 6 r ++ callEvents () .stop 7 r := rfl
  rw [lifecycleStatuses, hcalls]
  simp only [run_append, run_callEvents, completed_fresh, completed_discovered, completed_stop,
    completed_stopped, completed_observed (show BootstrapOperation.query ≠ .stop by decide),
    completed_observed (show BootstrapOperation.initializeSession ≠ .stop by decide)]
  fin_cases k <;> simp [Function.update]

end BootstrapSession

section Checker
open BootstrapStatus BootstrapSession
variable {spec : BootstrapLifecycleSpec}

/-- The fields every accepted status has to have, at any index. -/
structure Headed (spec : BootstrapLifecycleSpec) (s : BootstrapStatus) : Prop where
  abiMajor : s.abiMajor = Bootstrap.abiMajor
  structBytes : s.structBytes = Bootstrap.statusBytes
  canAttach : s.canAttach = 0
  bindingsLoaded : s.bindingsLoaded = 0
  reserved : s.reserved = 0
  digest : s.profileSourceDigest.toList = spec.profileSourceDigest

theorem validBootstrapStatus_iff (index : UInt32) (s : BootstrapStatus)
    (initialized : Option BootstrapStatus) : validBootstrapStatus spec index s initialized ↔
      index.toNat < 8 ∧ Headed spec s ∧
        expectedBootstrapStatus spec index.toNat s initialized = some s := by
  have hbytes (expected : BootstrapStatus) : expected.bytes = s.bytes ↔ expected = s :=
    ⟨bytes_injective,congrArg _⟩
  unfold validBootstrapStatus
  split
  · rename_i hbad
    refine ⟨nofun,?_⟩
    rintro ⟨hi,⟨h1,h2,h3,h4,h5,h6⟩,-⟩
    rcases hbad with hbad | hbad | hbad | hbad | hbad | hbad | hbad
    · exact absurd hi (not_lt.mpr hbad)
    all_goals exact absurd (by assumption) hbad
  · rename_i hgood
    simp only [not_or, not_le, ge_iff_le, ne_eq, not_not] at hgood
    obtain ⟨hi,h1,h2,h3,h4,h5,h6⟩ := hgood
    have hhead : Headed spec s := ⟨h1,h2,h3,h4,h5,h6⟩
    have hi8 : index.toNat < 8 := hi
    cases expectedBootstrapStatus spec index.toNat s initialized with
    | none => simp
    | some expected => simp [hbytes, hhead, hi8]

theorem expected_later {index : ℕ} (hi : 1 < index) (s i : BootstrapStatus) :
    expectedBootstrapStatus spec index s (some i) =
      some (if index ≥ 4 then { i with state := Bootstrap.stopped } else i) := by
  simp only [expectedBootstrapStatus, if_neg hi.ne', if_pos hi]

variable (hd : spec.profileSourceDigest = observedProfileSourceDigest)
include hd

theorem headed_withDigest {s : BootstrapStatus} (h1 : s.abiMajor = Bootstrap.abiMajor)
    (h2 : s.structBytes = Bootstrap.statusBytes) (h3 : s.canAttach = 0)
    (h4 : s.bindingsLoaded = 0) (h5 : s.reserved = 0) : Headed spec s.withDigest :=
  ⟨h1,h2,h3,h4,h5,by rw [hd]; exact copyInto_toList (by decide) _⟩

theorem headed_observed (r : UInt32) : Headed spec (observedStatus r) := by
  rw [observedStatus, observe_eq]
  split <;> exact headed_withDigest hd rfl rfl rfl rfl rfl

theorem expected_first (s : BootstrapStatus) (initialized : Option BootstrapStatus) :
    expectedBootstrapStatus spec 0 s initialized = some discoveredStatus := by
  simp only [expectedBootstrapStatus, hd]
  rfl

/-- After Initialize exactly the statuses of an observation are accepted. -/
theorem expected_initialized (hid : spec.profileId = observedProfileId) (s : BootstrapStatus)
    (initialized : Option BootstrapStatus) :
    expectedBootstrapStatus spec 1 s initialized = some s ↔ ∃ r, s = observedStatus r := by
  simp only [expectedBootstrapStatus, hd, hid, if_pos]
  constructor
  · intro h
    split at h
    · rename_i hs
      rw [hs.1, hs.2] at h
      exact ⟨Bootstrap.runtimeUnverified,(Option.some.inj h).symm⟩
    split at h
    · rename_i hs
      obtain ⟨hstate,hlow,hhigh,hne⟩ := hs
      refine ⟨s.reason,?_⟩
      rw [observedStatus, observe_eq, recordedReason_of_range hlow hhigh, if_neg hne, ← hstate]
      exact (Option.some.inj h).symm
    · cases h
  · rintro ⟨r,rfl⟩
    rw [observedStatus, observe_eq]
    obtain ⟨hlow,hhigh⟩ := recordedReason_range r
    by_cases hr : recordedReason r = Bootstrap.runtimeUnverified
    · rw [if_pos hr, hr]
      rfl
    · rw [if_neg hr, if_neg (fun hs => hr hs.2), if_pos ⟨rfl,hlow,hhigh,hr⟩]
      rfl

/-- The recipe's calls on a fresh session give statuses the checker accepts, and what it
accepts comes from such a session. -/
theorem lifecycle_statuses_agree (_hv : validBootstrapLifecycleSpec spec)
    (hid : spec.profileId = observedProfileId) :
    (∀ outputs r (k : Fin 8), validBootstrapStatus spec (UInt32.ofNat k)
      (lifecycleStatuses outputs r k) (some (lifecycleStatuses outputs r 1))) ∧
    ∀ s : Fin 8 → BootstrapStatus,
      (∀ k : Fin 8, validBootstrapStatus spec (UInt32.ofNat k) (s k) (some (s 1))) →
        ∃ r, ∀ outputs, lifecycleStatuses outputs r = s := by
  have hindex (k : Fin 8) : (UInt32.ofNat k).toNat = k :=
    UInt32.toNat_ofNat_of_lt' (k.isLt.trans (by decide))
  constructor
  · intro outputs r k
    have hfirst : lifecycleStatuses outputs r 1 = observedStatus r := lifecycleStatuses_eq outputs r 1
    rw [validBootstrapStatus_iff, hindex, hfirst, lifecycleStatuses_eq]
    refine ⟨k.isLt,?_⟩
    by_cases h0 : k.val = 0
    · rw [if_pos h0, h0, expected_first hd]
      exact ⟨headed_withDigest hd rfl rfl rfl rfl rfl,rfl⟩
    by_cases h1 : k.val = 1
    · rw [h1]
      exact ⟨headed_observed hd r,(expected_initialized hd hid _ _).mpr ⟨r,rfl⟩⟩
    rw [if_neg h0, expected_later (by omega)]
    by_cases h4 : k.val < 4
    · rw [if_pos h4, if_neg (by omega)]
      exact ⟨headed_observed hd r,rfl⟩
    · rw [if_neg h4, if_pos (by omega)]
      have hh := headed_observed hd r
      exact ⟨⟨hh.abiMajor,hh.structBytes,hh.canAttach,hh.bindingsLoaded,hh.reserved,hh.digest⟩,rfl⟩
  · intro s hs
    have hexpected (k : Fin 8) := ((validBootstrapStatus_iff _ _ _).mp (hs k)).2.2
    simp only [hindex] at hexpected
    obtain ⟨r,hr⟩ := (expected_initialized hd hid _ _).mp (hexpected 1)
    refine ⟨r,fun outputs => funext fun k => ?_⟩
    have hk := hexpected k
    rw [lifecycleStatuses_eq]
    by_cases h0 : k.val = 0
    · rw [h0, expected_first hd] at hk
      rw [if_pos h0]
      exact Option.some.inj hk
    rw [if_neg h0]
    by_cases h1 : k.val = 1
    · have hk1 : k = 1 := Fin.ext h1
      rw [if_pos (by omega), hk1, hr]
    rw [expected_later (by omega), hr] at hk
    have hsk := Option.some.inj hk
    by_cases h4 : k.val < 4
    · rw [if_neg (by omega)] at hsk
      rw [if_pos h4]
      exact hsk
    · rw [if_pos (by omega)] at hsk
      rw [if_neg h4]
      exact hsk

end Checker

/-- A recipe for the compiled profile with three exports that need no fixup. -/
def plainLifecycleSpec : BootstrapLifecycleSpec where
  exports := #v[{ rva := 4096 },{ rva := 4128 },{ rva := 4160 }]
  profileId := observedProfileId
  profileSourceDigest := observedProfileSourceDigest

theorem plain_statuses_agree : validBootstrapStatus plainLifecycleSpec 3
    (BootstrapSession.lifecycleStatuses (fun _ => {}) Bootstrap.runtimeUnverified 3)
    (some (BootstrapSession.lifecycleStatuses (fun _ => {}) Bootstrap.runtimeUnverified 1)) :=
  (lifecycle_statuses_agree rfl (by decide) rfl).1 _ _ 3

end Saex
