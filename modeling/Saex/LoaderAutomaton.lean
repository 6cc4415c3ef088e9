import Saex.LoaderChain

/-! The debug loop walks through the fifteen checkpoints as the automaton does,
in every run, and never leaves one of its arrays. -/
namespace Saex
open StoppingRuns

/-- Every stage of a checkpoint has its stop. -/
theorem Scene.phaseStop_ne_none (w : Scene) {p : Phase} {stage : ℕ}
    (h : 1 ≤ stage ∧ stage ≤ p.stages) : w.phaseStop p stage ≠ none := by
  cases p with
  | fileManagerReady =>
    obtain ⟨n,rfl⟩ := Nat.exists_eq_add_of_le' h.1
    have hn : n+1 ≤ 9 := h.2
    rcases n with _ | n
    · rintro ⟨⟩
    · have hlen : w.readyNext.length = 8 := rfl
      rw [phaseStop, Ne, List.getElem?_eq_none_iff, hlen]
      omega
  | cdStreamAllocation =>
    have hle : stage ≤ 10 := h.2
    have hlen : (allocationRvas w.setup.rvas).length = 11 := rfl
    simp only [phaseStop]
    split
    · rintro ⟨⟩
    · rw [Ne, Option.map_eq_none_iff, List.getElem?_eq_none_iff, hlen]
      omega
  | cdStreamChannels =>
    have hle : stage ≤ 9 := h.2
    have hlen : w.channelsAddresses.length = 10 := rfl
    rw [phaseStop, Ne, List.getElem?_eq_none_iff, hlen]
    omega
  | _ => rintro ⟨⟩

/-- The frame that the routing demands from its third stage on has 5 in EAX. -/
theorem routingFrame_eax {c : LoaderSetup} {stage : ℕ} {saved r : DispatchRegisters}
    {stack : List Address} (h : applicationRoutingFrame c stage saved r stack = true)
    (hstage : 3 ≤ stage) : r.eax = 5 := by
  simp only [applicationRoutingFrame, Bool.and_eq_true, decide_eq_true_eq] at h
  have heax := h.1.2
  have h1 : stage ≠ 1 := by omega
  have h2 : stage ≠ 2 := by omega
  rwa [if_neg h1, if_neg h2] at heax

/-- What a stop works out stays within its arrays once its tests have passed. -/
theorem examine_in_range {w : Scene} {q : Place}
    (hchecks : checkAll w q.handler.checks = .ok ())
    (hcells : w.memo.codecMappingIds.length = 3)
    (hcodecs : q = .approach .codec → w.setup.codecModules.length ≤ 3) :
    q.handler.examine w ≠ .error .outOfRange := by
  intro h
  rcases q with a | p
  · cases a with
    | codec =>
      have hle := hcodecs rfl
      rcases Handlers.findCodecs_error h with ⟨r,_,heq⟩ | ⟨_,hlt⟩
      · cases heq
      · omega
    | asiReturn =>
      rcases bind_error_iff.mp h with h | ⟨memo,_,h⟩
      · obtain ⟨r,_,heq⟩ := Handlers.findAsi_error h
        cases heq
      · split at h <;> cases h
    | _ => cases h
  · cases p with
    | applicationRouting =>
      simp only [Place.handler, Phase.handler, Handlers.applicationRouting] at h
      split at h
      · rename_i hstage
        -- The third test of the routing bounds the index.
        have hframe := checkAll_ok hchecks _
          (List.mem_cons_of_mem _ (List.mem_cons_of_mem _ List.mem_cons_self)) rfl
        have heax : w.context.eax = 5 :=
          routingFrame_eax (Bool.and_eq_true_iff.mp hframe).2 hstage
        rw [heax] at h
        cases h
      · cases h
    | _ => cases h

section Steps
variable {c : LoaderSetup} {s : LoopState} {chain' : Chain} {probe : Probe} {context : Context}

/-- Whether the allocation goes past its fourth stage. -/
def LoopState.skips (s : LoopState) : Bool :=
  decide (s.chain.memo.allocationGlobals.heapMode = 1)

/-- A handler moves the automaton: a checkpoint's by one step from that
checkpoint, the approach's at most by beginning it. -/
theorem Chained.handle_moves (h : Chained c s.chain)
    (hh : Handled (s.scene c probe context) s.chain s.chain.handled chain') :
    Marks.Moves c.supplied s.skips s.chain.marks chain'.marks ∧
      ∀ p, IsGreatest s.chain.marks.armed p →
        Marks.Advance c.supplied s.skips p s.chain.marks chain'.marks := by
  have hadvance (p : Phase) (hp : IsGreatest s.chain.marks.armed p) :
      Marks.Advance c.supplied s.skips p s.chain.marks chain'.marks := by
    have hplace := (Chain.handled_of_lastArmed (Chain.lastArmed_eq_some.mpr hp)).1
    have hstage : (s.scene c probe context).stage = (s.chain.marks p).stage := by
      rw [LoopState.scene, hplace]
      rfl
    rw [hplace] at hh
    refine hh.advance hstage ?_
    rw [hstage]
    exact (h.linear.staged p hp.1).2
  refine ⟨?_,hadvance⟩
  cases hlast : s.chain.lastArmed with
  | some p =>
    have hp := Chain.lastArmed_eq_some.mp hlast
    exact .advances hp (hadvance p hp)
  | none =>
    obtain ⟨a,ha⟩ := Chain.handled_approach hlast
    rw [ha] at hh
    exact hh.approach (Chain.lastArmed_eq_none.mp hlast) _

/-- A handler never leaves an array. -/
theorem Chained.handle_in_range (h : Chained c s.chain)
    (he : (s.chain.approach .entry).continued = true)
    (hcodecs : c.supplied .codec = true → c.codecModules.length ≤ 3) :
    (s.scene c probe context).handle s.chain s.chain.handled ≠ .error .outOfRange := by
  intro hh
  have harmed := h.handled_armed he
  rcases handle_error hh with ⟨_,_,_,heq⟩ | ⟨_,hchecks,hexamine | ⟨w',r,hnext,hstop⟩ |
    ⟨w',memo,hexamine,hfinal,hstop⟩⟩
  · cases heq
  · refine examine_in_range hchecks h.cells ?_ hexamine
    intro hq
    have hsupplied := h.supplied _ harmed
    rw [hq] at hsupplied
    exact hcodecs hsupplied
  · rcases r with b | p
    · cases hstop
    · exact w'.phaseStop_ne_none ⟨le_rfl,p.one_le_stages⟩ hstop
  · -- The stage is in range and not the last, so the next one is in range.
    generalize hq : s.chain.handled = q at harmed hexamine hfinal hstop
    rcases q with a | p
    · cases hstop
    · have hstage : (s.scene c probe context).stage = (s.chain.marks p).stage := by
        rw [LoopState.scene, hq]
        rfl
      have hne : (s.scene c probe context).stage ≠ p.stages := beq_eq_false_iff_ne.mp hfinal
      have hle := (h.linear.staged p harmed).2
      refine w'.phaseStop_ne_none ?_ hstop
      rw [nextStage_phase hexamine]
      apply Marks.afterStage_le
      omega

/-- What an exception of a turn that goes on did to the chain. -/
theorem Chained.exception (h : Chained c s.chain) {thread : UInt32} {code : BitVec 32}
    {address : Address} {firstChance : Bool}
    (he : Saex.exception c s thread code address firstChance probe = .ok chain') :
    Chained c chain' ∧ Marks.Moves c.supplied s.skips s.chain.marks chain'.marks := by
  rcases exception_cases c s thread code address firstChance probe with ⟨hentry,hx⟩ | ⟨_,hx⟩
  · rw [hx, bind_ok_iff] at he
    obtain ⟨context,_,he⟩ := he
    have hh := (handle_ok he).2
    have hmoves := (h.handle_moves hh).1
    exact ⟨h.handle hentry rfl rfl hmoves hh,hmoves⟩
  · rw [hx] at he
    rw [firstBreakpoint_ok he]
    exact ⟨⟨h.linear,h.supplied,h.continued,h.entered,h.cells⟩,.stays⟩

/-- Once a checkpoint is armed, an exception is vetted and given to the last one. -/
theorem Chained.exception_armed (h : Chained c s.chain) {p : Phase}
    (hp : IsGreatest s.chain.marks.armed p) (thread : UInt32) (code : BitVec 32)
    (address : Address) (firstChance : Bool) (probe : Probe) :
    Saex.exception c s thread code address firstChance probe =
      (vet c s.chain thread code address firstChance probe >>= fun context =>
        (s.scene c probe context).handle s.chain (.phase p)) := by
  have hentry := h.entered ⟨p,hp.1⟩
  have hplace := (Chain.handled_of_lastArmed (Chain.lastArmed_eq_some.mpr hp)).1
  rcases exception_cases c s thread code address firstChance probe with ⟨_,hx⟩ | ⟨hno,_⟩
  · rw [hx, hplace]
  · have hsupplied : c.supplied .entry = true :=
      h.supplied (.approach .entry) (h.continued _ hentry)
    rw [hentry, hsupplied] at hno
    cases hno

/-- What gets to the handler of the last armed checkpoint. -/
theorem vet_armed {p : Phase} (hp : IsGreatest s.chain.marks.armed p) {thread : UInt32}
    {code : BitVec 32} {address : Address} {firstChance : Bool}
    (h : vet c s.resume.chain thread code address firstChance probe = .ok context) :
    code = exceptionSingleStep ∧ firstChance = true ∧ thread = probe.mainThread ∧
      address = (s.chain.phase p).stopAddress := by
  have hlast : s.resume.chain.lastArmed = some p := Chain.lastArmed_eq_some.mpr hp
  have hvet := vet_ok h
  rw [(Chain.handled_of_lastArmed hlast).2] at hvet
  exact hvet

/-- The module table has a cell for every module within the limit. -/
theorem loadModule_in_range (hmodules : c.limits.modules ≤ 64) {base : Address}
    {size : Option Int64} {inspected : Option LoaderFileIdentity} :
    loadModule c s base size inspected ≠ .error .outOfRange := by
  intro h
  rcases loadModule_error h with ⟨r,_,heq⟩ | ⟨hroom,hfull | ⟨_,_,_,_,heq⟩⟩
  · cases heq
  · rw [UInt32.le_iff_toNat_le] at hmodules
    rw [UInt32.lt_iff_toNat_lt] at hroom
    change c.limits.modules.toNat ≤ 64 at hmodules
    rw [maxTraceModules] at hfull
    omega
  · cases heq

theorem unloadModule_in_range {base : Address} :
    unloadModule c s base ≠ .error .outOfRange := by
  intro h
  rcases unloadModule_error h with ⟨r,_,heq⟩ | ⟨_,_,_,heq⟩ | ⟨_,_,_,_,heq⟩ <;> cases heq

theorem Chained.exception_in_range (h : Chained c s.chain)
    (hcodecs : c.supplied .codec = true → c.codecModules.length ≤ 3) {thread : UInt32}
    {code : BitVec 32} {address : Address} {firstChance : Bool} :
    Saex.exception c s thread code address firstChance probe ≠ .error .outOfRange := by
  intro he
  rcases exception_cases c s thread code address firstChance probe with ⟨hentry,hx⟩ | ⟨_,hx⟩
  · rw [hx, bind_error_iff] at he
    rcases he with he | ⟨context,_,he⟩
    · obtain ⟨r,_,heq⟩ := vet_error he
      cases heq
    · exact h.handle_in_range hentry hcodecs he
  · rw [hx] at he
    obtain ⟨r,_,heq⟩ := firstBreakpoint_error he
    cases heq

/-- No turn leaves an array. -/
theorem Chained.turn_in_range (h : Chained c s.chain) (hmodules : c.limits.modules ≤ 64)
    (hcodecs : c.supplied .codec = true → c.codecModules.length ≤ 3) (t : Turn) :
    turn c s t ≠ .error .outOfRange := by
  intro ht
  rcases turn_error ht with ⟨r,_,heq⟩ | ⟨⟨pid,thread,kind⟩,_,_,hd⟩
  · cases heq
  cases dispatch_error hd with
  | load hl => exact loadModule_in_range hmodules hl
  | unload hu => exact unloadModule_in_range hu
  | exception he =>
    have hs : Chained c s.resume.chain := h.resume
    exact hs.exception_in_range hcodecs he
  | other _ heq => cases heq

/-- Only an exception touches the chain. -/
theorem dispatch_chain {s s' : LoopState} {thread : UInt32} {kind : DebugEventKind}
    (hd : dispatch c s thread kind = .ok s') : s'.chain = s.chain ∨
      ∃ code address firstChance probe, kind = .exception code address firstChance probe ∧
        exception c s thread code address firstChance probe = .ok s'.chain := by
  cases dispatch_ok hd with
  | @exception code address firstChance probe chain he =>
    exact .inr ⟨code,address,firstChance,probe,rfl,he⟩
  | _ => exact .inl rfl

/-- A turn keeps the invariant and moves the automaton at most once. -/
theorem Chained.turn (h : Chained c s.chain) {t : Turn} {s' : LoopState}
    (ht : Saex.turn c s t = .ok s') :
    Chained c s'.chain ∧ Marks.Moves c.supplied s.skips s.chain.marks s'.chain.marks := by
  obtain ⟨event,_,_,hd⟩ := turn_ok ht
  have hs : Chained c s.resume.chain := h.resume
  rcases dispatch_chain hd with hchain | ⟨code,address,firstChance,probe,_,he⟩
  · rw [hchain]
    exact ⟨hs,.stays⟩
  · exact hs.exception he

end Steps

/-- A run that reaches the loop keeps the invariant. -/
theorem chained_run {c : LoaderSetup} (turns : List Turn) {s : LoopState}
    (h : run (turn c) c.start turns = .ok s) : Chained c s.chain := by
  refine run_ok_invariant (fun _ s => Chained c s.chain) ?_ (Chained.start c) turns h
  intro _ s t s' hs ht
  exact (hs.turn ht).1

/-- The law of the checkpoints in a state the loop goes on from. -/
structure ChainLaw (c : LoaderSetup) (s : LoopState) : Prop where
  initial : ∀ p q, q ≤ p → (s.chain.phase p).armed = true → (s.chain.phase q).armed = true
  supplied : ∀ p, (s.chain.phase p).armed = true → c.supplied p.spec = true
  verified : ∀ p q, (s.chain.phase p).armed = true → (s.chain.phase q).armed = true → p < q →
    (s.chain.phase p).verified = true
  staged : ∀ p, (s.chain.phase p).armed = true →
    1 ≤ (s.chain.phase p).stage ∧ (s.chain.phase p).stage ≤ p.stages
  handled : ∀ p, IsGreatest s.chain.marks.armed p → ∀ thread code address firstChance probe,
    exception c s.resume thread code address firstChance probe =
      (vet c s.resume.chain thread code address firstChance probe >>= fun context =>
        (s.resume.scene c probe context).handle s.resume.chain (.phase p)) ∧
    ∀ context, vet c s.resume.chain thread code address firstChance probe = .ok context →
      code = exceptionSingleStep ∧ firstChance = true ∧ thread = probe.mainThread ∧
        address = (s.chain.phase p).stopAddress

theorem Chained.chainLaw {c : LoaderSetup} {s : LoopState} (h : Chained c s.chain) :
    ChainLaw c s := by
  have hs : Chained c s.resume.chain := h.resume
  refine ⟨?_,h.linear.supplied,?_,h.linear.staged,?_⟩
  · intro p q hle hp
    exact h.linear.orderly.initial hle hp
  · intro p q hp hq hlt
    exact h.linear.orderly.behind p hp q hq hlt
  · intro p hp thread code address firstChance probe
    exact ⟨hs.exception_armed hp thread code address firstChance probe,
      fun context hvet => vet_armed hp hvet⟩

/-- The law of a turn that the loop goes on from. -/
structure TurnLaw (c : LoaderSetup) (s : LoopState) (t : Turn) (s' : LoopState) : Prop where
  kept : ∀ p, (s.chain.phase p).verified = true → (s'.chain.phase p).verified = true
  moves : Marks.Moves c.supplied s.skips s.chain.marks s'.chain.marks
  other : (∀ pid thread code address firstChance probe,
    t.event ≠ some ⟨pid,thread,.exception code address firstChance probe⟩) →
      s'.chain.marks = s.chain.marks
  handled : ∀ p, IsGreatest s.chain.marks.armed p →
    ∀ pid thread code address firstChance probe,
      t.event = some ⟨pid,thread,.exception code address firstChance probe⟩ →
        code = exceptionSingleStep ∧ firstChance = true ∧ thread = probe.mainThread ∧
          address = (s.chain.phase p).stopAddress ∧
          Marks.Advance c.supplied s.skips p s.chain.marks s'.chain.marks

theorem Chained.turnLaw {c : LoaderSetup} {s s' : LoopState} {t : Turn} (h : Chained c s.chain)
    (ht : Saex.turn c s t = .ok s') : TurnLaw c s t s' := by
  have hmoves := (h.turn ht).2
  obtain ⟨event,hevent,_,hd⟩ := turn_ok ht
  have hs : Chained c s.resume.chain := h.resume
  refine ⟨fun p hp => hmoves.verified_subset hp,hmoves,?_,?_⟩
  · intro hother
    rcases dispatch_chain hd with hchain | ⟨code,address,firstChance,probe,hkind,_⟩
    · rw [hchain]
      rfl
    · refine absurd ?_ (hother event.processId event.threadId code address firstChance probe)
      rw [hevent, ← hkind]
  · intro p hp pid thread code address firstChance probe hexception
    rw [hevent, Option.some.injEq] at hexception
    subst hexception
    cases dispatch_ok hd with
    | exception he =>
      rw [hs.exception_armed hp, bind_ok_iff] at he
      obtain ⟨context,hvet,he⟩ := he
      obtain ⟨hcode,hfirst,hthread,haddress⟩ := vet_armed hp hvet
      have hlast : s.resume.chain.lastArmed = some p := Chain.lastArmed_eq_some.mpr hp
      rw [← (Chain.handled_of_lastArmed hlast).1] at he
      exact ⟨hcode,hfirst,hthread,haddress,(hs.handle_moves (handle_ok he).2).2 p hp⟩

/-- The checkpoints are a strict linear automaton in every run of the debug
loop: they are armed in their order, each one verified before the next, the last
one gets every exception and goes on by one step, and no index leaves its array. -/
theorem loader_chain_linear (c : LoaderSetup) (turns : List Turn) :
    (∀ s, observe c turns = .ok s →
      ChainLaw c s ∧ ∀ t s', turn c s t = .ok s' → TurnLaw c s t s') ∧
      observe c turns ≠ .error .outOfRange := by
  rcases observe_cases c turns with ⟨r,_,ho⟩ | ⟨hopen,ho⟩
  · rw [ho]
    constructor
    · intro s hs
      cases hs
    · intro h
      cases h
  rw [ho]
  constructor
  · intro s hs
    have h := chained_run turns hs
    exact ⟨h.chainLaw,fun t s' ht => h.turnLaw ht⟩
  · have hmodules : c.limits.modules ≤ 64 := by
      have hc : c.limitsAdmitted = true := hopen _ List.mem_cons_self
      simp only [LoaderSetup.limitsAdmitted, Bool.and_eq_true, decide_eq_true_eq] at hc
      exact hc.1.1.1.1.1.1.1.2
    have hcodecs : c.supplied .codec = true → c.codecModules.length ≤ 3 := by
      intro hs
      have hspec := hopen (!c.supplied .codec || c.supplied .startup && c.supplied .proxy &&
        c.codecModules.length ≤ 3 && c.verdict "codec_invalid_spec","codec_invalid_spec")
        (by simp only [LoaderSetup.opening, List.mem_cons, true_or, or_true])
      simp only [hs, Bool.not_true, Bool.false_or, Bool.and_eq_true, decide_eq_true_eq] at hspec
      exact hspec.1.2
    refine run_never (fun _ s => Chained c s.chain) _ ?_ ?_ (Chained.start c) turns
    · intro _ s t s' hs ht
      exact (hs.turn ht).1
    · intro _ s t hs
      exact hs.turn_in_range hmodules hcodecs t

/-- A run that gets past the event dispatch, with every RVA of the specs at zero.
Each row is the address of a stop with the DR7 control bits and EAX found there. -/
def walkStops : List (Address × Address × Address) :=
  [(0,1,0),(0x10005,1,0),(0x10000,0xd00005,0),(0x1000b,0xd00005,0x20000),
    (0x10000,0xd00005,0),(0x10000,0xd00015,0),(0x10006,0xd00015,0x30000),
    (0x10000,0xd00015,0),(0x10006,0xd00015,1),(0x1006,0xd00015,0),(5,0xd00015,0),
    (0,0xd00015,0),(5,0xd00015,0),(0,0xd00015,0),(6,0xd00015,0),(0,0xd00015,0),
    (0,0xd00015,0),(0,0xd00015,0),(6,0xd00015,0),(12,0xd00055,0),(18,0xd00055,5),
    (24,0xd00055,0),(5,0xd00055,0),(0,0xd00055,0),(0,0xd00055,0),(0,0xd00055,0)]

def walkSetup : LoaderSetup where
  limits := { events := 160 }
  supplied spec := spec ≠ .bootstrap && spec ≠ .frame
  verdict _ := true
  pins := [{ bytes := 1 },{ bytes := 2 },{ bytes := 3 },{ bytes := 4 }]
  processId := 7
  imageBytes := 0x100000
  deadline := 5000
  proxyModule := { bytes := 1 }
  codecModules := [{ bytes := 2 }]
  asiModule := { bytes := 3 }

def walkLoad (base : Address) (bytes : UInt64) (name : String) : Turn where
  event := some ⟨7,3,.loadDll base (some 100) (some { bytes, name })⟩

/-- The single step at one stop, with the read-back of the breakpoint at the next. -/
def walkStep (now next : Address × Address × Address) : Turn where
  event := some ⟨7,3,.exception exceptionSingleStep now.1 true {
    passes := fun _ => true
    mainThread := 3
    context := some { eip := now.1, eax := now.2.2, dr0 := now.1, dr2 := 0x10000, dr3 := 31,
                      dr6 := 1, dr7 := now.2.1 }
    readback := some { dr0 := next.1, dr2 := 0x10000, dr3 := 31, dr7 := next.2.1 }
    stackWord := 0x1006 }⟩

def walkBreakpoint : Turn where
  event := some ⟨7,3,.exception exceptionBreakpoint 0x40000 true {
    passes := fun _ => true
    mainThread := 3
    context := none
    imageAllocation := some 0x40000
    readback := some { dr7 := 1 } }⟩

def walkTurns : List Turn :=
  let steps := walkStops.zipWith walkStep walkStops.tail
  walkLoad 0x40000 4 "ntdll.dll" :: walkLoad 0x10000 1 "" :: walkBreakpoint :: steps.take 3 ++
    walkLoad 0x20000 2 "" :: (steps.drop 3).take 3 ++ walkLoad 0x30000 3 "" :: steps.drop 6

theorem loader_chain_linear_walk :
    ∃ s s', observe walkSetup walkTurns = .ok s ∧
      turn walkSetup s (walkStep (0,0xd00055,0) (0,0xd00055,0)) = .ok s' ∧
      ChainLaw walkSetup s ∧
      TurnLaw walkSetup s (walkStep (0,0xd00055,0) (0,0xd00055,0)) s' ∧
      s.chain.lastArmed = some .eventDispatch ∧ s'.chain.lastArmed = some .applicationRouting ∧
      (s'.chain.phase .eventDispatch).verified = true := by
  have hrun : (observe walkSetup walkTurns >>= fun s =>
      turn walkSetup s (walkStep (0,0xd00055,0) (0,0xd00055,0)) >>= fun s' =>
        .ok (s.chain.lastArmed,s'.chain.lastArmed,
          (s'.chain.phase .eventDispatch).verified)) =
      .ok (some .eventDispatch,some .applicationRouting,true) := by
    decide +kernel
  obtain ⟨s,hs,hrun⟩ := bind_ok_iff.mp hrun
  obtain ⟨s',hs',hrun⟩ := bind_ok_iff.mp hrun
  obtain ⟨hchain,hturn⟩ := (loader_chain_linear walkSetup walkTurns).1 s hs
  simp only [Except.ok.injEq, Prod.mk.injEq] at hrun
  exact ⟨s,s',hs,hs',hchain,hturn _ s' hs',hrun⟩

end Saex
