import Mathlib.Algebra.BigOperators.Group.List.Basic
import Saex.LoaderHandling
import Saex.LoaderLoop
import Saex.MappingLedgerSound

/-! The module table of the debug loop and its mapping ledger are kept apart
and fail apart; here they are shown to tell the same story in every state that
the loop goes on from. -/
namespace Saex
open StoppingRuns

/-- A row of the module table and a row of the ledger describe one mapping. -/
structure Matches (m : LoaderModule) (e : LoaderMapping 32) : Prop where
  id : m.mappingId = e.id
  base : m.base = e.base
  load : m.eventIndex = e.loadEvent
  unload : m.unloadEventIndex = e.unloadEvent

/-- The size charged for the file of a LOAD event. -/
def loadedBytes (t : Turn) : ℤ :=
  match t.event with
  | some ⟨_,_,.loadDll _ (some size) _⟩ => size.toInt
  | _ => 0

/-- The invariant of the loop; `charged` is the sum of the sizes loaded so far. -/
structure Lockstep (c : LoaderSetup) (charged : ℤ) (s : LoopState) : Prop where
  sound : s.table.mappings.Sound
  limit : s.table.mappings.limit = c.limits.modules
  last : s.table.mappings.lastEvent.toNat ≤ s.eventCount.toNat
  rows : List.Forall₂ Matches s.table.modules s.table.mappings.entries
  count : s.table.moduleCount = s.table.mappings.count
  active : s.table.activeModuleCount = s.table.mappings.active
  unloads : s.table.unloadCount = s.table.mappings.unloadCount
  charged : (s.table.chargedBytes.toNat : ℤ) = charged
  budget : s.table.chargedBytes ≤ c.limits.bytes
  events : s.eventCount ≤ c.limits.events

/-- The four reasons of the ledger and of its search that the loop can never give. -/
def ledgerReasons : List String :=
  ["loader_mapping_event_order","loader_mapping_limit","loader_mapping_invalid_limit",
    "loader_mapping_history_mismatch"]

/-- The search of the UNLOAD branch finds the row of the mapping that the ledger
has just ended, and keeps the tables alike. -/
theorem retireModule_split {modules : List LoaderModule} {pre post : List (LoaderMapping 32)}
    {e : LoaderMapping 32} (hm : List.Forall₂ Matches modules (pre ++ e :: post))
    (hfresh : ∀ e' ∈ pre, e'.id ≠ e.id) (event : UInt32) :
    ∃ modules' retired, retireModule e.id event modules = some (modules',retired) ∧
      List.Forall₂ Matches modules' (pre ++ { e with unloadEvent := event } :: post) := by
  induction pre generalizing modules with
  | nil =>
    cases hm with
    | @cons m _ rest _ hme hrest =>
      refine ⟨_,_,if_pos hme.id,?_⟩
      exact .cons ⟨hme.id,hme.base,hme.load,rfl⟩ hrest
  | cons e' pre ih =>
    cases hm with
    | @cons m _ rest _ hme hrest =>
      obtain ⟨modules',retired,hr,hm'⟩ :=
        ih hrest (fun x hx => hfresh x (List.mem_cons_of_mem _ hx))
      have hne : m.mappingId ≠ e.id := by
        rw [hme.id]
        exact hfresh e' List.mem_cons_self
      refine ⟨m :: modules',retired,?_,.cons hme hm'⟩
      rw [retireModule, if_neg hne, hr, Option.map_some]

/-- A positive size read as unsigned is itself. -/
theorem toNat_toUInt64_of_pos {bytes : Int64} (h : 0 < bytes) :
    (bytes.toUInt64.toNat : ℤ) = bytes.toInt := by
  have hpos : 0 < bytes.toInt := by
    have hlt := Int64.lt_iff_toInt_lt.mp h
    rwa [Int64.toInt_zero] at hlt
  rw [Int64.toNat_toUInt64_of_le (Int64.le_of_lt h)]
  exact Int.toNat_of_nonneg hpos.le

/-- A charge within what is left of the budget neither wraps nor passes it. -/
theorem charge_exact {charged limit size : UInt64} (hb : charged ≤ limit)
    (hs : size ≤ limit-charged) :
    (charged+size).toNat = charged.toNat+size.toNat ∧ charged+size ≤ limit := by
  rw [UInt64.le_iff_toNat_le, UInt64.toNat_sub_of_le _ _ hb] at hs
  rw [UInt64.le_iff_toNat_le] at hb
  have hlt := limit.toNat_lt
  have hsum : (charged+size).toNat = charged.toNat+size.toNat := by
    rw [UInt64.toNat_add]
    omega
  refine ⟨hsum,?_⟩
  rw [UInt64.le_iff_toNat_le, hsum]
  omega

section Steps
variable {c : LoaderSetup} {charged : ℤ} {s : LoopState}

theorem lockstep_start (hc : c.limitsAdmitted = true) : Lockstep c 0 c.start := by
  have hevents : 1 ≤ c.limits.events := by
    simp only [LoaderSetup.limitsAdmitted, Bool.and_eq_true, decide_eq_true_eq] at hc
    have hne := hc.1.1.1.1.1.1.1.1.1.1
    rw [Ne, ← UInt32.toNat_inj, UInt32.toNat_zero] at hne
    rw [UInt32.le_iff_toNat_le, UInt32.toNat_one]
    omega
  exact ⟨MappingLedger.sound_create _,rfl,Nat.zero_le _,.nil,rfl,rfl,(UInt32.sub_self 0).symm,rfl,
    UInt64.zero_le,hevents⟩

/-- In the state in which a turn gets its event, the event is newer than all
that the ledger has recorded. -/
theorem Lockstep.resume (h : Lockstep c charged s) (hlt : s.eventCount < c.limits.events) :
    Lockstep c charged s.resume ∧
      s.table.mappings.lastEvent.toNat < s.resume.eventCount.toNat := by
  rw [UInt32.lt_iff_toNat_lt] at hlt
  have hlimit := c.limits.events.toNat_lt
  have hnext : s.resume.eventCount.toNat = s.eventCount.toNat+1 := by
    rw [LoopState.resume, UInt32.toNat_add, UInt32.toNat_one]
    omega
  have hlast := h.last
  refine ⟨{ h with last := ?_, events := ?_ },by omega⟩
  · exact hlast.trans (by omega)
  · rw [UInt32.le_iff_toNat_le, hnext]
    exact hlt

theorem Lockstep.load (h : Lockstep c charged s) {base : Address} {size : Option Int64}
    {inspected : Option LoaderFileIdentity} {table : ModuleTable}
    (hl : loadModule c s base size inspected = .ok table) :
    ∃ bytes, size = some bytes ∧ Lockstep c (charged+bytes.toInt) { s with table } := by
  obtain ⟨bytes,file,mappings,id,rfl,_,hpos,hroom,hledger,rfl⟩ := loadModule_ok hl
  have hsound := h.sound
  obtain ⟨hv,hfull,rfl,rfl⟩ := MappingLedger.admitMapping_ok hledger
  have hsound' : MappingLedger.Sound
      (s.table.mappings.step (.admitMapping base s.eventCount)).1 :=
    s.table.mappings.step_sound _ hsound
  rw [MappingLedger.step, hledger] at hsound'
  have hactive : s.table.mappings.active.toNat ≤ s.table.mappings.count.toNat :=
    hsound.unloadCount_toNat.1
  obtain ⟨hcharge,hbudget⟩ := charge_exact h.budget hroom
  refine ⟨bytes,rfl,?_⟩
  refine ⟨hsound',h.limit,le_rfl,?_,?_,rfl,?_,?_,hbudget,h.events⟩
  · exact List.rel_append h.rows (.cons ⟨rfl,rfl,rfl,rfl⟩ .nil)
  · exact congrArg (·+1) h.count
  · -- An admit moves both counters of the ledger by one.
    refine h.unloads.trans ?_
    rw [← UInt32.toNat_inj, (hsound.unloadCount_toNat).2, (hsound'.unloadCount_toNat).2]
    simp
  · calc ((s.table.chargedBytes+bytes.toUInt64).toNat : ℤ)
        = s.table.chargedBytes.toNat+bytes.toUInt64.toNat := by rw [hcharge]; push_cast; rfl
      _ = charged+bytes.toInt := by rw [h.charged, toNat_toUInt64_of_pos hpos]

theorem Lockstep.unload (h : Lockstep c charged s) {base : Address} {table : ModuleTable}
    (hu : unloadModule c s base = .ok table) : Lockstep c charged { s with table } := by
  obtain ⟨mappings,id,modules,retired,hretire,hfound,rfl⟩ := unloadModule_ok hu
  have hsound := h.sound
  have hsound' : MappingLedger.Sound (s.table.mappings.step (.retire base s.eventCount)).1 :=
    s.table.mappings.step_sound _ hsound
  rw [MappingLedger.step, hretire] at hsound'
  obtain ⟨pre,e,post,hs,rfl,rfl⟩ := MappingLedger.retire_split hretire
  have hrows := h.rows
  rw [hs] at hrows
  obtain ⟨modules',retired',hfound',hrows'⟩ :=
    retireModule_split hrows (hsound.fresh_before hs) s.eventCount
  rw [hfound'] at hfound
  cases hfound
  exact ⟨hsound',h.limit,le_rfl,hrows',h.count,rfl,rfl,h.charged,h.budget,h.events⟩

/-- One turn keeps the tables in step and charges what it loaded. -/
theorem Lockstep.turn (h : Lockstep c charged s) {t : Turn} {s' : LoopState}
    (ht : turn c s t = .ok s') : Lockstep c (charged+loadedBytes t) s' := by
  obtain ⟨⟨pid,thread,kind⟩,hevent,hlt,hd⟩ := turn_ok ht
  obtain ⟨hs,_⟩ := h.resume hlt
  -- Only a LOAD is charged.
  have uncharged {s'' : LoopState} (h0 : loadedBytes t = 0) (hl : Lockstep c charged s'') :
      Lockstep c (charged+loadedBytes t) s'' := by
    rw [h0, add_zero]
    exact hl
  cases dispatch_ok hd with
  | load hl =>
    obtain ⟨bytes,rfl,hnext⟩ := hs.load hl
    have hbytes : loadedBytes t = bytes.toInt := by rw [loadedBytes, hevent]
    rw [hbytes]
    exact hnext
  | unload hu => exact uncharged (by rw [loadedBytes, hevent]) (hs.unload hu)
  | created => exact uncharged (by rw [loadedBytes, hevent]) { hs with }
  | exception he => exact uncharged (by rw [loadedBytes, hevent]) { hs with }

theorem Lockstep.limit_bounds (h : Lockstep c charged s) (hc : c.limitsAdmitted = true) :
    0 < s.table.mappings.limit.toNat ∧ s.table.mappings.limit.toNat ≤ 64 := by
  simp only [LoaderSetup.limitsAdmitted, Bool.and_eq_true, decide_eq_true_eq] at hc
  have hne := hc.1.1.1.1.1.1.1.1.2
  have hle := hc.1.1.1.1.1.1.1.2
  rw [Ne, ← UInt32.toNat_inj, UInt32.toNat_zero] at hne
  rw [UInt32.le_iff_toNat_le] at hle
  rw [h.limit]
  exact ⟨Nat.pos_of_ne_zero hne,hle⟩

/-- The LOAD branch never ends with a reason of the ledger that is ruled out: the
base is not zero and the event is new when the ledger is asked, and the table
would have been found full before the ledger. -/
theorem Lockstep.load_reason (h : Lockstep c charged s) (hc : c.limitsAdmitted = true)
    (hnew : s.table.mappings.lastEvent.toNat < s.eventCount.toNat) {base : Address}
    {size : Option Int64} {inspected : Option LoaderFileIdentity} {r : String}
    (hl : loadModule c s base size inspected = .error (.finish r)) : r ∉ ledgerReasons := by
  obtain ⟨hpos,hle⟩ := h.limit_bounds hc
  have hown : ∀ r ∈ loadReasons, r ∉ ledgerReasons := by decide
  rcases loadModule_error hl with ⟨r',hr,heq⟩ | ⟨hroom,hfull | ⟨mappings,error,hbase,hledger,heq⟩⟩
  · cases heq
    exact hown r hr
  · rw [UInt32.lt_iff_toNat_lt, ← h.limit] at hroom
    rw [maxTraceModules] at hfull
    omega
  · cases heq
    rcases MappingLedger.admitMapping_error ⟨hpos,hle,hbase,hnew⟩ hledger with rfl | hfull
    · decide
    · -- A full ledger means a full table, and that was tested first.
      rw [← h.count, h.limit] at hfull
      rw [UInt32.lt_iff_toNat_lt, hfull] at hroom
      exact absurd hroom (lt_irrefl _)

/-- Nor does the UNLOAD branch, whose search finds what the ledger found. -/
theorem Lockstep.unload_reason (h : Lockstep c charged s) (hc : c.limitsAdmitted = true)
    (hnew : s.table.mappings.lastEvent.toNat < s.eventCount.toNat) {base : Address} {r : String}
    (hu : unloadModule c s base = .error (.finish r)) : r ∉ ledgerReasons := by
  obtain ⟨hpos,hle⟩ := h.limit_bounds hc
  have hown : ∀ r ∈ unloadReasons, r ∉ ledgerReasons := by decide
  rcases unloadModule_error hu with ⟨r',hr,heq⟩ | ⟨mappings,error,hretire,heq⟩ |
    ⟨mappings,id,hretire,hnone,_⟩
  · cases heq
    exact hown r hr
  · cases heq
    rcases MappingLedger.retire_error hpos hle hnew hretire with rfl | rfl <;> decide
  · -- The row of the mapping that has ended is in the table too.
    obtain ⟨pre,e,post,hs,rfl,_⟩ := MappingLedger.retire_split hretire
    have hrows := h.rows
    rw [hs] at hrows
    obtain ⟨modules,retired,hfound,_⟩ :=
      retireModule_split hrows (h.sound.fresh_before hs) s.eventCount
    rw [hfound] at hnone
    cases hnone

end Steps

/-- No handler and no place gives a reason of the ledger. -/
theorem gives_not_ledger {q : Place} {r : String} (h : q.handler.Gives r) : r ∉ ledgerReasons := by
  have hchecks : ∀ k ∈ q.handler.checks, k.reason ∉ ledgerReasons := by
    rcases q with a | p
    · cases a <;> decide
    · cases p <;> decide
  have hentering : ∀ k ∈ q.handler.entering, k.reason ∉ ledgerReasons := by
    rcases q with a | p
    · cases a <;> decide
    · cases p <;> decide
  have harm : q.handler.writeFailed ∉ ledgerReasons ∧ q.handler.armFailed ∉ ledgerReasons := by
    rcases q with a | p
    · cases a <;> decide
    · cases p <;> decide
  have hsearch : ∀ r ∈ Handlers.searchReasons, r ∉ ledgerReasons := by decide
  cases h with
  | check hk => exact hchecks _ hk
  | entering hk => exact hentering _ hk
  | ended w =>
    rcases q with a | p
    · cases a with
      | entry =>
        simp only [Place.handler, Approach.handler, Handlers.entry]
        split_ifs <;> decide
      | bootstrap =>
        simp only [Place.handler, Approach.handler, Handlers.bootstrap]
        split_ifs <;> decide
      | platformSuppression =>
        simp only [Place.handler, Approach.handler, Handlers.platformSuppression]
        split_ifs <;> decide
      | _ => exact of_decide_eq_true rfl
    · cases p <;> exact of_decide_eq_true rfl
  | writeFailed => exact harm.1
  | armFailed => exact harm.2
  | search hr => exact hsearch r hr

theorem exception_reason {c : LoaderSetup} {s : LoopState} {thread : UInt32} {code : BitVec 32}
    {address : Address} {firstChance : Bool} {probe : Probe} {r : String}
    (h : exception c s thread code address firstChance probe = .error (.finish r)) :
    r ∉ ledgerReasons := by
  have hown : ∀ r ∈ exceptionReasons, r ∉ ledgerReasons := by decide
  rcases exception_cases c s thread code address firstChance probe with ⟨_,he⟩ | ⟨_,he⟩
  · rw [he, bind_error_iff] at h
    rcases h with h | ⟨context,_,h⟩
    · obtain ⟨r',hr,heq⟩ := vet_error h
      cases heq
      exact hown r hr
    · rcases handle_error h with ⟨q,r',hg,heq⟩ | ⟨heq,_⟩
      · cases heq
        exact gives_not_ledger hg
      · cases heq
  · rw [he] at h
    obtain ⟨r',hr,heq⟩ := firstBreakpoint_error h
    cases heq
    exact hown r hr

/-- No turn from a state in step ends the run with one of the four reasons. -/
theorem Lockstep.turn_reason {c : LoaderSetup} {charged : ℤ} {s : LoopState}
    (h : Lockstep c charged s) (hc : c.limitsAdmitted = true) {t : Turn} {r : String}
    (ht : Saex.turn c s t = .error (.finish r)) : r ∉ ledgerReasons := by
  have hown : ∀ r ∈ turnReasons, r ∉ ledgerReasons := by decide
  rcases turn_error ht with ⟨r',hr,heq⟩ | ⟨⟨pid,thread,kind⟩,_,hlt,hd⟩
  · cases heq
    exact hown r hr
  obtain ⟨hs,hnew⟩ := h.resume hlt
  cases dispatch_error hd with
  | load hl => exact hs.load_reason hc hnew hl
  | unload hu => exact hs.unload_reason hc hnew hu
  | exception he => exact exception_reason he
  | other hr heq =>
    have hother : ∀ r ∈ dispatchReasons, r ∉ ledgerReasons := by decide
    cases heq
    exact hother r hr

/-- A run that reaches the loop keeps the tables in step. -/
theorem lockstep_run {c : LoaderSetup} (hc : c.limitsAdmitted = true) (turns : List Turn)
    {s : LoopState} (h : run (turn c) c.start turns = .ok s) :
    Lockstep c (turns.map loadedBytes).sum s := by
  refine run_ok_invariant (fun past s => Lockstep c (past.map loadedBytes).sum s) ?_ ?_ turns h
  · intro past s t s' hs ht
    rw [List.map_append, List.sum_append, List.map_singleton, List.sum_singleton]
    exact hs.turn ht
  · exact lockstep_start hc

/-- The law between the two tables, the counters and the limits, in the terms of
the trace. -/
structure TableLaw (c : LoaderSetup) (turns : List Turn) (s : LoopState) : Prop where
  modules : s.table.modules.length = s.table.moduleCount.toNat
  entries : s.table.mappings.entries.length = s.table.moduleCount.toNat
  rows : ∀ (i : ℕ) m e, s.table.modules[i]? = some m → s.table.mappings.entries[i]? = some e →
    m.mappingId.toNat = i+1 ∧ m.mappingId = e.id ∧ m.base = e.base ∧
      m.eventIndex = e.loadEvent ∧ m.unloadEventIndex = e.unloadEvent
  active : s.table.activeModuleCount = s.table.mappings.active
  unloads : s.table.unloadCount = s.table.mappings.unloadCount
  charged : (s.table.chargedBytes.toNat : ℤ) = (turns.map loadedBytes).sum
  budget : s.table.chargedBytes ≤ c.limits.bytes
  remainder : (c.limits.bytes-s.table.chargedBytes).toNat =
    c.limits.bytes.toNat-s.table.chargedBytes.toNat
  capacity : s.table.moduleCount ≤ c.limits.modules ∧ c.limits.modules ≤ 64
  events : s.eventCount ≤ c.limits.events

theorem Lockstep.tableLaw {c : LoaderSetup} {turns : List Turn} {s : LoopState}
    (h : Lockstep c (turns.map loadedBytes).sum s) (hc : c.limitsAdmitted = true) :
    TableLaw c turns s := by
  have hsound := h.sound
  have hlength : s.table.mappings.entries.length = s.table.moduleCount.toNat := by
    rw [h.count, hsound.count]
  have hlimit := (h.limit_bounds hc).2
  refine ⟨h.rows.length_eq.trans hlength,hlength,?_,h.active,h.unloads,h.charged,h.budget,
    UInt64.toNat_sub_of_le _ _ h.budget,⟨?_,?_⟩,h.events⟩
  · intro i m e hm he
    obtain ⟨hi,rfl⟩ := List.getElem?_eq_some_iff.mp hm
    obtain ⟨hj,rfl⟩ := List.getElem?_eq_some_iff.mp he
    have hrow := h.rows.get hi hj
    have hid := hsound.id_of_getElem? he
    exact ⟨(congrArg UInt32.toNat hrow.id).trans hid,hrow.id,hrow.base,hrow.load,hrow.unload⟩
  · have hcap := hsound.capacity
    rwa [UInt32.le_iff_toNat_le, ← h.limit, ← hlength]
  · rwa [UInt32.le_iff_toNat_le, ← h.limit]

/-- The module table and the ledger stay in step in every state the loop goes on
from, within the limits of the run, and no run ends with one of the four reasons
that would say otherwise. -/
theorem loader_tables_lockstep (c : LoaderSetup) (turns : List Turn) :
    (∀ s, observe c turns = .ok s → TableLaw c turns s) ∧
      ∀ r ∈ ledgerReasons, observe c turns ≠ .error (.finish r) := by
  rcases observe_cases c turns with ⟨r,hr,ho⟩ | ⟨hopen,ho⟩
  · have hown : ∀ r ∈ c.openingReasons, r ∉ ledgerReasons := of_decide_eq_true rfl
    constructor
    · intro s hs
      rw [ho] at hs
      cases hs
    · intro r' hr' he
      rw [ho] at he
      cases he
      exact hown r hr hr'
  · have hc : c.limitsAdmitted = true := hopen _ List.mem_cons_self
    constructor
    · intro s hs
      rw [ho] at hs
      exact (lockstep_run hc turns hs).tableLaw hc
    · intro r hr he
      rw [ho] at he
      obtain ⟨past,t,rest,m,_,hm,ht⟩ := run_error _ he
      exact (lockstep_run hc past hm).turn_reason hc ht hr

/-- A run on one pinned file: two bases are loaded, the first is unloaded and
loaded again. -/
def reloadSetup : LoaderSetup where
  supplied _ := false
  verdict _ := true
  pins := [{}]
  processId := 7
  deadline := 5000

def reloadTurns : List Turn :=
  [{ event := some ⟨7,1,.loadDll 0x10000 (some 100) (some {})⟩ },
    { event := some ⟨7,1,.loadDll 0x20000 (some 100) (some {})⟩ },
    { event := some ⟨7,1,.unloadDll 0x10000⟩ },
    { event := some ⟨7,1,.loadDll 0x10000 (some 100) (some {})⟩ }]

theorem loader_tables_lockstep_reload :
    ∃ s, observe reloadSetup reloadTurns = .ok s ∧ TableLaw reloadSetup reloadTurns s ∧
      s.table.modules.map (fun m => (m.base,m.mappingId,m.eventIndex,m.unloadEventIndex)) =
        [(0x10000,1,2,4),(0x20000,2,3,0),(0x10000,3,5,0)] ∧
      s.table.activeModuleCount = 2 ∧ s.table.unloadCount = 1 ∧ s.table.chargedBytes = 300 := by
  have hrun : (observe reloadSetup reloadTurns).toOption.map (fun s =>
      (s.table.modules.map (fun m => (m.base,m.mappingId,m.eventIndex,m.unloadEventIndex)),
        s.table.activeModuleCount,s.table.unloadCount,s.table.chargedBytes)) =
      some ([(0x10000,1,2,4),(0x20000,2,3,0),(0x10000,3,5,0)],2,1,300) := by
    decide
  have hlaw := (loader_tables_lockstep reloadSetup reloadTurns).1
  cases ho : observe reloadSetup reloadTurns with
  | error e =>
    rw [ho] at hrun
    cases hrun
  | ok s =>
    rw [ho] at hrun
    simp only [Except.toOption, Option.map_some, Option.some.injEq, Prod.mk.injEq] at hrun
    exact ⟨s,rfl,hlaw s ho,hrun⟩

end Saex
