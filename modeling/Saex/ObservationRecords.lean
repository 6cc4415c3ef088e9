import Saex.ChildObservation

/-! What an observation returns, as its own exchanges with the system tell it: the loop asks as much
of every turn as it needs, and ends as `observe` does for whatever the rest of the turn would be. -/
namespace Saex
open CallPrograms

instance {extra : ℕ} (c : SystemCall extra) : Nonempty c.Answer := by
  cases c <;> dsimp only [SystemCall.Answer] <;> infer_instance

namespace SuspendedChild
variable {extra : ℕ} {Locals : Type}

/-- All that is asked before the loop, and the setup that it makes. -/
def preparing (x : Examination extra Locals) (c : LoaderSetup) (executable : Option Handle)
    (o : SuspendedChild extra) : System extra (LoaderSetup × Locals) := do
  let thread : BitVec 32 ← sysCall .getCurrentThreadId
  let identical : Bool ← o.identify executable
  let c := ((c.driving o).told "loader_owner_thread" (thread = o.ownerThread)).told
    "loader_child_identity_or_state" identical
  let (found,l) ← (x.opening c o).via o.probing
  let now : UInt64 ← sysCall .getTickCount64
  return ((c.probed found).started now,l)

/-- The call after a `ContinueDebugEvent` that has failed. -/
def reportRefusal (resumed : Bool) : System extra Unit := do
  if resumed then return () else
    let _ ← sysCall .getLastError
    return ()

/-- All that a turn asks, the turn that it makes, and the child behind it. -/
def taking (x : Examination extra Locals) (c : LoaderSetup) (s : LoopState) (l : Locals)
    (o : SuspendedChild extra) : System extra (Turn × Locals × SuspendedChild extra) := do
  let now : UInt64 ← sysCall .getTickCount64
  let resumed : Bool ← sysCall (.continueDebugEvent o.processId o.pendingThread 0x00010002)
  reportRefusal resumed
  let later : UInt64 ← sysCall .getTickCount64
  match ← sysCall (.waitForDebugEvent (c.deadline-later)) with
  | none =>
    let _ ← sysCall .getLastError
    return ({ now, resumed, later, event := none },l,o.resumed)
  | some report =>
    let held := o.resumed.reported (o.exitSeen || report.event.exits) report.threadId
    let (kind,l) ← held.examine x c s.resume l report
    return ({ now, resumed, later, event := some ⟨report.processId,report.threadId,kind⟩ },l,held)

/-- The turns that the records of the loop may tell of, each in the state that the one before it
leaves. The record of a turn may break off. -/
def Taken (x : Examination extra Locals) (c : LoaderSetup) : LoopState → Locals →
    SuspendedChild extra → List (List (Exchange (windows extra))) → List Turn → Prop
  | _, _, _, [], [] => True
  | s, l, o, t :: ts, v :: vs => ∃ l' o', Explains (o.taking x c s l) t (v,l',o') ∧
    ∀ s', advance c s v = .ok s' → Taken x c s' l' o' ts vs
  | _, _, _, _, _ => False

/-- The same child, whatever its events have been. -/
structure SameChild (o o' : SuspendedChild extra) : Prop where
  process : o'.process = o.process
  processId : o'.processId = o.processId
  job : o'.job = o.job
  imageFile : o'.imageFile = o.imageFile
  ownerThread : o'.ownerThread = o.ownerThread
  killRequested : o'.killRequested = o.killRequested
  stopped : o'.stopped = o.stopped

theorem SameChild.refl (o : SuspendedChild extra) : SameChild o o := ⟨rfl,rfl,rfl,rfl,rfl,rfl,rfl⟩

theorem SameChild.resumed (o : SuspendedChild extra) : SameChild o o.resumed :=
  ⟨rfl,rfl,rfl,rfl,rfl,rfl,rfl⟩

theorem SameChild.reported (o : SuspendedChild extra) (exits : Bool) (thread : UInt32) :
    SameChild o (o.resumed.reported exits thread) := ⟨rfl,rfl,rfl,rfl,rfl,rfl,rfl⟩

theorem SameChild.trans {o o₁ o₂ : SuspendedChild extra} (h : SameChild o o₁)
    (h' : SameChild o₁ o₂) : SameChild o o₂ :=
  ⟨h'.process.trans h.process,h'.processId.trans h.processId,h'.job.trans h.job,
    h'.imageFile.trans h.imageFile,h'.ownerThread.trans h.ownerThread,
    h'.killRequested.trans h.killRequested,h'.stopped.trans h.stopped⟩

/-- A setup, turns and an answer of `stop` that the parts of a record may tell of. -/
structure Fits (x : Examination extra Locals) (rounds : ℕ) (c : LoaderSetup)
    (executable : Option Handle) (o o' : SuspendedChild extra)
    (first : List (Exchange (windows extra))) (ts : List (List (Exchange (windows extra))))
    (last : List (Exchange (windows extra))) (c' : LoaderSetup) (vs : List Turn)
    (confirmed : Bool) : Prop where
  prepared : ∃ l, Explains (o.preparing x c executable) first (c',l) ∧
    Taken x c' c'.start l { o with loaderStarted := true } ts vs
  stopped : ∃ o'', Explains (o'.stop rounds) last (confirmed,o'')

/-- The record of an observation falls into what is asked before the loop, what is asked in each
turn, and the exchanges of `stop`, and the observation returns what the loop gives for any setup,
turns and answer of `stop` that these may tell of. On another thread `stop` is not called. -/
def ObservationGives (x : Examination extra Locals) (rounds : ℕ) (c : LoaderSetup)
    (executable : Option Handle) (o : SuspendedChild extra) (t : List (Exchange (windows extra)))
    (ending : Ending) : Prop :=
  ∃ first ts last o', t = first++(ts.flatten++last) ∧ SameChild o o' ∧
    (∃ c' vs confirmed, Fits x rounds c executable o o' first ts last c' vs confirmed) ∧
    ∀ c' vs confirmed, Fits x rounds c executable o o' first ts last c' vs confirmed →
      ∃ e, observe c' vs = .error e ∧
        ending = if c'.verdict "loader_owner_thread" then e.close confirmed else e

/-! Everything here comes to its end. -/

theorem ends_sameFile (o : SuspendedChild extra) (verified : Option Handle) :
    (o.sameFile verified).Ends := by
  unfold sameFile
  split
  · trivial
  refine Program.Ends.call fun (thread : BitVec 32) => ?_
  split
  · trivial
  refine Program.Ends.call fun (expected : Option FileIdInfo) => ?_
  cases expected with
  | none => trivial
  | some expected =>
    refine Program.Ends.call fun (actual : Option FileIdInfo) => ?_
    cases actual <;> trivial

theorem ends_identify (o : SuspendedChild extra) (executable : Option Handle) :
    (o.identify executable).Ends := by
  unfold identify
  split
  · trivial
  · exact ends_sameFile o executable

theorem ends_preparing (x : Examination extra Locals) (c : LoaderSetup) (executable : Option Handle)
    (o : SuspendedChild extra) : (o.preparing x c executable).Ends := by
  refine Program.Ends.call fun (thread : BitVec 32) => (ends_identify o executable).bind
    fun identical => ?_
  exact ((x.opening_ends _ o).via (ends_probing o)).bind fun _ => fun _ => trivial

theorem ends_moduleFile (c : LoaderSetup) (t : ModuleTable) (file : Option Handle) :
    (@moduleFile extra c t file).Ends := by
  cases file with
  | none => trivial
  | some file =>
    unfold moduleFile
    dsimp only
    split
    · exact fun _ => trivial
    refine Program.Ends.call fun (size : Option Int64) => ?_
    split
    · exact (ends_inspectLoaderFile file _).bind fun _ => fun _ => trivial
    · exact fun _ => trivial

theorem ends_examine (x : Examination extra Locals) (c : LoaderSetup) (s : LoopState) (l : Locals)
    (o : SuspendedChild extra) (report : DebugReport extra) : (o.examine x c s l report).Ends := by
  unfold examine
  split
  · exact (ends_closeIfOpen _).bind fun _ => trivial
  split
  · exact (ends_moduleFile c _ _).bind fun _ => trivial
  · exact ((x.exception_ends c s l _ _ _ _).via (ends_probing o)).bind fun _ => trivial
  · exact (ends_closeIfOpen _).bind fun _ => trivial
  all_goals trivial

theorem ends_taking (x : Examination extra Locals) (c : LoaderSetup) (s : LoopState) (l : Locals)
    (o : SuspendedChild extra) : (o.taking x c s l).Ends := by
  refine Program.Ends.call fun (now : UInt64) => Program.Ends.call fun (resumed : Bool) => ?_
  refine Program.Ends.bind ?_ fun _ => Program.Ends.call fun (later : UInt64) =>
    Program.Ends.call fun (report : Option (DebugReport extra)) => ?_
  · cases resumed with
    | true => trivial
    | false => exact fun _ => trivial
  · cases report with
    | none => exact fun _ => trivial
    | some report => exact (ends_examine x c _ l _ report).bind fun _ => trivial

/-! What a turn may be, as far as its record goes. -/
section Turns
variable {x : Examination extra Locals} {c : LoaderSetup} {s : LoopState} {l l' : Locals}
  {o o' : SuspendedChild extra} {t : List (Exchange (windows extra))} {v : Turn} {now : UInt64}

/-- The part of `taking` behind the answer of `ContinueDebugEvent`. -/
def takingEvent (x : Examination extra Locals) (c : LoaderSetup) (s : LoopState) (l : Locals)
    (o : SuspendedChild extra) (now : UInt64) (resumed : Bool) (later : UInt64) :
    System extra (Turn × Locals × SuspendedChild extra) := do
  match ← sysCall (.waitForDebugEvent (c.deadline-later)) with
  | none =>
    let _ ← sysCall .getLastError
    return ({ now, resumed, later, event := none },l,o.resumed)
  | some report =>
    let held := o.resumed.reported (o.exitSeen || report.event.exits) report.threadId
    let (kind,l) ← held.examine x c s.resume l report
    return ({ now, resumed, later, event := some ⟨report.processId,report.threadId,kind⟩ },l,held)

/-- Whatever the event is, it has no part in the rest of the turn. -/
theorem returns_takingEvent {resumed : Bool} {later : UInt64}
    (h : Returns (takingEvent x c s l o now resumed later) t (v,l',o')) :
    v.now = now ∧ v.resumed = resumed ∧ v.later = later ∧ v.exitConfirmed = true := by
  obtain ⟨(report : Option (DebugReport extra)),t',rfl,hreport⟩ := returns_call.mp h
  cases report with
  | none =>
    obtain ⟨_,_,rfl,hdone⟩ := returns_call.mp hreport
    cases (returns_done.mp hdone).2
    exact ⟨rfl,rfl,rfl,rfl⟩
  | some report =>
    obtain ⟨_,⟨kind,l''⟩,_,rfl,-,hdone⟩ := returns_bind.mp hreport
    cases (returns_done.mp hdone).2
    exact ⟨rfl,rfl,rfl,rfl⟩

/-- What `finish` finds is not told. -/
theorem explains_confirmed (h : Explains (o.taking x c s l) t (v,l',o')) :
    v.exitConfirmed = true := by
  obtain ⟨rest,hrest⟩ := h
  obtain ⟨(now : UInt64),_,_,hnow⟩ := returns_call.mp hrest
  obtain ⟨(resumed : Bool),_,_,hresumed⟩ := returns_call.mp hnow
  obtain ⟨_,_,_,_,-,hlater⟩ := returns_bind.mp hresumed
  obtain ⟨(later : UInt64),_,_,hevent⟩ := returns_call.mp hlater
  exact (returns_takingEvent hevent).2.2.2

theorem explains_now (h : Explains (o.taking x c s l) (⟨.getTickCount64,now⟩ :: t) (v,l',o')) :
    v.now = now := by
  obtain ⟨rest,hrest⟩ := explains_call.mp h
  obtain ⟨(resumed : Bool),_,_,hresumed⟩ := returns_call.mp hrest
  obtain ⟨_,_,_,_,-,hlater⟩ := returns_bind.mp hresumed
  obtain ⟨(later : UInt64),_,_,hevent⟩ := returns_call.mp hlater
  exact (returns_takingEvent hevent).1

theorem explains_resumed {resumed : Bool} (h : Explains (o.taking x c s l) (⟨.getTickCount64,now⟩ ::
    ⟨.continueDebugEvent o.processId o.pendingThread 0x00010002,resumed⟩ :: t) (v,l',o')) :
    v.resumed = resumed := by
  obtain ⟨rest,hrest⟩ := explains_call.mp (explains_call.mp h)
  obtain ⟨_,_,_,_,-,hlater⟩ := returns_bind.mp hrest
  obtain ⟨(later : UInt64),_,_,hevent⟩ := returns_call.mp hlater
  exact (returns_takingEvent hevent).2.1

/-- Once the child has been continued. -/
theorem explains_continued : Explains (o.taking x c s l) (⟨.getTickCount64,now⟩ ::
    ⟨.continueDebugEvent o.processId o.pendingThread 0x00010002,true⟩ :: t) (v,l',o') ↔
    Explains (do
      let later : UInt64 ← sysCall .getTickCount64
      takingEvent x c s l o now true later) t (v,l',o') := explains_call.trans explains_call

theorem explains_later {later : UInt64} (h : Explains (o.taking x c s l) (⟨.getTickCount64,now⟩ ::
    ⟨.continueDebugEvent o.processId o.pendingThread 0x00010002,true⟩ ::
    ⟨.getTickCount64,later⟩ :: t) (v,l',o')) : v.later = later := by
  obtain ⟨rest,hrest⟩ := explains_call.mp (explains_continued.mp h)
  exact (returns_takingEvent hrest).2.2.1

end Turns

/-- A turn whose end is confirmed ends for its own reason. -/
theorem turn_confirmed {c : LoaderSetup} {s : LoopState} {v : Turn} (h : v.exitConfirmed = true) :
    turn c s v = advance c s v := by
  rw [turn, h]
  cases advance c s v with
  | ok s' => rfl
  | error e => cases e <;> rfl

/-! How a turn goes on once the child has been continued in time. -/
section Waiting
variable {c : LoaderSetup} {s : LoopState} {v : Turn} (hevents : ¬c.limits.events ≤ s.eventCount)
  (hnow : ¬c.deadline ≤ v.now) (hresumed : v.resumed = true)
include hevents hnow hresumed

theorem advance_late (hlater : c.deadline ≤ v.later) : advance c s v = .error (.finish "loader_timeout") := by
  rw [advance, if_neg hevents, if_neg hnow, hresumed, Bool.not_true, if_neg Bool.false_ne_true, if_pos hlater]

theorem advance_none (hlater : ¬c.deadline ≤ v.later) (hevent : v.event = none) :
    advance c s v = .error (.finish "loader_wait_failed") := by
  rw [advance, if_neg hevents, if_neg hnow, hresumed, Bool.not_true, if_neg Bool.false_ne_true, if_neg hlater,
    hevent]

theorem advance_some (hlater : ¬c.deadline ≤ v.later) {event : DebugEvent} (hevent : v.event = some event) :
    advance c s v = if event.processId ≠ c.processId then .error (.finish "loader_event_identity")
      else dispatch c s.resume event.threadId event.kind := by
  rw [advance, if_neg hevents, if_neg hnow, hresumed, Bool.not_true, if_neg Bool.false_ne_true, if_neg hlater,
    hevent]

end Waiting

/-! `stop` and `finish`. -/

/-- Some answer of `stop` fits when nothing is known of it. -/
theorem explains_stop_nil (rounds : ℕ) (o : SuspendedChild extra) :
    ∃ confirmed o', Explains (o.stop rounds) [] (confirmed,o') := by
  unfold stop
  cases o.process with
  | none => exact ⟨true,o,Returns.explains (.here _)⟩
  | some p =>
    by_cases hstopped : o.stopped = true
    · simp only [hstopped, if_true]
      exact ⟨true,o,Returns.explains (.here _)⟩
    simp only [hstopped]
    obtain ⟨other,hother⟩ : ∃ thread : BitVec 32, thread ≠ o.ownerThread :=
      ⟨o.ownerThread+1,fun h => absurd (left_eq_add.mp h.symm) (by decide)⟩
    refine ⟨false,o,[⟨.getCurrentThreadId,other⟩],returns_call.mpr ⟨other,[],rfl,?_⟩⟩
    rw [if_pos hother]
    exact .here _

/-- What `finish` returns is told by the exchanges of `stop`. -/
theorem returns_finish {rounds : ℕ} {o o₂ : SuspendedChild extra} {e ending : Ending}
    {t : List (Exchange (windows extra))} (h : Returns (o.finish rounds e) t (ending,o₂)) :
    (∃ confirmed o', Explains (o.stop rounds) t (confirmed,o')) ∧
      ∀ confirmed o', Explains (o.stop rounds) t (confirmed,o') → ending = e.close confirmed := by
  cases e with
  | outOfRange =>
    obtain ⟨rfl,hending⟩ := returns_done.mp h
    cases hending
    exact ⟨explains_stop_nil rounds o,fun _ _ _ => rfl⟩
  | finish reason =>
    unfold finish at h
    dsimp only at h
    split at h
    · rename_i hp
      obtain ⟨rfl,hending⟩ := returns_done.mp h
      cases hending
      have hstop : Returns (o.stop rounds) [] (true,o) := by
        unfold stop
        rw [hp]
        exact .here _
      refine ⟨⟨true,o,hstop.explains⟩,fun confirmed o' hexplains => ?_⟩
      cases hexplains.eq_of_returns hstop
      rfl
    · obtain ⟨t₁,⟨b,o₁⟩,t₂,rfl,hstop,hdone⟩ := returns_bind.mp h
      obtain ⟨rfl,hending⟩ := returns_done.mp hdone
      cases hending
      rw [List.append_nil]
      refine ⟨⟨b,o₁,hstop.explains⟩,fun confirmed o' hexplains => ?_⟩
      cases hexplains.eq_of_returns hstop
      rfl

/-! The loop, from any of its states. -/
section Loop
variable {x : Examination extra Locals} {rounds : ℕ} {c : LoaderSetup} {s s' : LoopState}
  {l l' : Locals} {o o' o₁ o₂ : SuspendedChild extra} {t last : List (Exchange (windows extra))}
  {e ending : Ending}

/-- What `ObservationGives` says, of the loop alone. -/
def LoopGives (x : Examination extra Locals) (rounds : ℕ) (c : LoaderSetup) (s : LoopState)
    (l : Locals) (o : SuspendedChild extra) (t : List (Exchange (windows extra)))
    (ending : Ending) : Prop :=
  ∃ ts last o', t = ts.flatten++last ∧ SameChild o o' ∧
    (∃ vs confirmed o'', Taken x c s l o ts vs ∧ Explains (o'.stop rounds) last (confirmed,o'')) ∧
    ∀ vs confirmed o'', Taken x c s l o ts vs → Explains (o'.stop rounds) last (confirmed,o'') →
      ∃ e, StoppingRuns.run (turn c) s vs = .error e ∧ ending = e.close confirmed

/-- A turn that ends the loop, however it would have gone on. -/
theorem loopGives_last {q : System extra (Turn × Locals × SuspendedChild extra)}
    (hgoes : Goes (o.taking x c s l) t q) (hsame : SameChild o o')
    (hadvance : ∀ v l' o'', Explains (o.taking x c s l) t (v,l',o'') → advance c s v = .error e)
    (hfinish : Returns (o'.finish rounds e) last (ending,o₂)) :
    LoopGives x rounds c s l o (t++last) ending := by
  obtain ⟨⟨confirmed,o'',hstop⟩,hclose⟩ := returns_finish hfinish
  refine ⟨[t],last,o',by rw [List.flatten_singleton],hsame,?_,?_⟩
  · obtain ⟨⟨v,l',o₁⟩,hv⟩ := hgoes.explains (ends_taking x c s l o)
    refine ⟨[v],confirmed,o'',⟨l',o₁,hv,fun s' hs' => ?_⟩,hstop⟩
    rw [hadvance v l' o₁ hv] at hs'
    cases hs'
  · intro vs confirmed o'' htaken hstop
    cases vs with
    | nil => exact htaken.elim
    | cons v vs =>
      obtain ⟨l',o₁,hv,-⟩ := htaken
      refine ⟨e,?_,hclose confirmed o'' hstop⟩
      rw [StoppingRuns.run_cons, turn_confirmed (explains_confirmed hv), hadvance v l' o₁ hv]
      rfl

/-- A turn that the loop goes on from. -/
theorem loopGives_next {v : Turn} {rest : List (Exchange (windows extra))}
    (hturn : Returns (o.taking x c s l) t (v,l',o₁))
    (hadvance : advance c s v = .ok s') (hsame : SameChild o o₁)
    (hrest : LoopGives x rounds c s' l' o₁ rest ending) :
    LoopGives x rounds c s l o (t++rest) ending := by
  obtain ⟨ts,last,o',rfl,hsame',⟨vs,confirmed,o'',htaken,hstop⟩,hgives⟩ := hrest
  refine ⟨t :: ts,last,o',?_,hsame.trans hsame',⟨v :: vs,confirmed,o'',?_,hstop⟩,?_⟩
  · rw [List.flatten_cons, List.append_assoc]
  · refine ⟨l',o₁,hturn.explains,fun s'' hs'' => ?_⟩
    cases hadvance.symm.trans hs''
    exact htaken
  · intro vs' confirmed' o₃ htaken' hstop'
    cases vs' with
    | nil => exact htaken'.elim
    | cons v' vs' =>
      obtain ⟨l'',o₄,hv',hnext⟩ := htaken'
      cases hv'.eq_of_returns hturn
      obtain ⟨e,hrun,hending⟩ := hgives vs' confirmed' o₃ (hnext s' hadvance) hstop'
      refine ⟨e,?_,hending⟩
      rw [StoppingRuns.run_cons, turn_confirmed (explains_confirmed hturn.explains), hadvance]
      exact hrun

/-- The loop returns what its exchanges tell. -/
theorem returns_observing (turns : ℕ) (hid : c.processId = o.processId)
    (h : Returns (observing x rounds c turns s l o) t (ending,o₂)) :
    LoopGives x rounds c s l o t ending := by
  induction turns generalizing s l o t with
  | zero => exact absurd h not_returns_cut
  | succ turns ih =>
    unfold observing at h
    split at h
    -- In each case that ends the loop, what the turn would still have asked has no part in the reason.
    · rename_i hevents
      exact loopGives_last (t := []) (.here _) (.refl o) (fun v l' o'' _ => if_pos hevents) h
    rename_i hevents
    obtain ⟨(now : UInt64),t₁,rfl,h₁⟩ := returns_call.mp h
    dsimp only at h₁
    split at h₁
    · rename_i hnow
      refine loopGives_last (t := [_]) (.step (.here _)) (.refl o) (fun v l' o'' hv => ?_) h₁
      rw [advance, if_neg hevents, explains_now hv, if_pos hnow]
    rename_i hnow
    obtain ⟨(resumed : Bool),t₂,rfl,h₂⟩ := returns_call.mp h₁
    cases resumed with
    | false =>
      rw [if_neg Bool.false_ne_true] at h₂
      obtain ⟨code,t₃,rfl,h₃⟩ := returns_call.mp h₂
      refine loopGives_last (t := [_,_,_]) (.step (.step (.step (.here _)))) (.refl o)
        (fun v l' o'' hv => ?_) h₃
      rw [advance, if_neg hevents, explains_now hv, if_neg hnow, explains_resumed hv]
      rfl
    | true =>
      rw [if_pos rfl] at h₂
      obtain ⟨(later : UInt64),t₃,rfl,h₃⟩ := returns_call.mp h₂
      split at h₃
      · rename_i hlater
        refine loopGives_last (t := [_,_,_]) (.step (.step (.step (.here _)))) (.resumed o)
          (fun v l' o'' hv => ?_) h₃
        rw [← explains_now hv] at hnow
        rw [← explains_later hv] at hlater
        exact advance_late hevents hnow (explains_resumed hv) hlater
      rename_i hlater
      obtain ⟨(report : Option (DebugReport extra)),t₄,rfl,h₄⟩ := returns_call.mp h₃
      cases report with
      | none =>
        obtain ⟨code,t₅,rfl,h₅⟩ := returns_call.mp h₄
        have hturn : Returns (o.taking x c s l) [⟨.getTickCount64,now⟩,
            ⟨.continueDebugEvent o.processId o.pendingThread 0x00010002,true⟩,
            ⟨.getTickCount64,later⟩,⟨.waitForDebugEvent (c.deadline-later),none⟩,⟨.getLastError,code⟩]
            ({ now, resumed := true, later, event := none },l,o.resumed) :=
          .step (.step (.step (.step (.step (.here _)))))
        refine loopGives_last hturn (.resumed o) (fun v l' o'' hv => ?_) h₅
        cases hv.eq_of_returns hturn
        exact advance_none hevents hnow rfl hlater rfl
      | some report =>
        obtain ⟨t₅,⟨kind,l₁⟩,t₆,rfl,hexamined,h₅⟩ := returns_bind.mp h₄
        have hturn : Returns (o.taking x c s l) (⟨.getTickCount64,now⟩ ::
            ⟨.continueDebugEvent o.processId o.pendingThread 0x00010002,true⟩ ::
            ⟨.getTickCount64,later⟩ :: ⟨.waitForDebugEvent (c.deadline-later),some report⟩ :: t₅)
            ({ now, resumed := true, later,
                event := some ⟨report.processId,report.threadId,kind⟩ },l₁,
              o.resumed.reported (o.exitSeen || report.event.exits) report.threadId) := by
          refine .step (.step (.step (.step ?_)))
          change Returns (examine x c s.resume l _ report >>= _) t₅ _
          exact returns_bind.mpr ⟨t₅,(kind,l₁),[],(List.append_nil t₅).symm,hexamined,.here _⟩
        have hknown : advance c s
            { now, resumed := true, later, event := some ⟨report.processId,report.threadId,kind⟩ } = _ :=
          advance_some hevents hnow rfl hlater rfl
        dsimp only at h₅ hknown
        split at h₅
        · rename_i hother
          refine loopGives_last hturn (.resumed o) (fun v l' o'' hv => ?_) h₅
          cases hv.eq_of_returns hturn
          rw [hknown, if_pos (fun heq => hother (heq.trans hid))]
        rename_i hown
        rw [if_neg (fun hne => hown fun heq => hne (heq.trans hid.symm))] at hknown
        split at h₅
        · rename_i s' hdispatch
          exact loopGives_next hturn (hknown.trans hdispatch) (.reported o _ _) (ih hid h₅)
        · rename_i e hdispatch
          refine loopGives_last hturn (.reported o _ _) (fun v l' o'' hv => ?_) h₅
          cases hv.eq_of_returns hturn
          rw [hknown, hdispatch]

end Loop

/-! The tests before the loop. -/
section Opening
variable {x : Examination extra Locals} {rounds turns : ℕ} {c c' : LoaderSetup} {l : Locals}
  {executable : Option Handle} {o o₂ : SuspendedChild extra} {t : List (Exchange (windows extra))}
  {ending : Ending}

/-- The setup behind the tests before the loop. -/
def completed (c : LoaderSetup) (identical : Bool) (found : String → Bool) (now : UInt64) :
    LoaderSetup :=
  ((c.told "loader_child_identity_or_state" identical).probed found).started now

theorem completed_verdict (identical : Bool) (found : String → Bool) (now : UInt64) {reason : String}
    (hidentity : reason ≠ "loader_child_identity_or_state")
    (hprobing : reason ∉ LoaderSetup.probingTests) :
    (completed c identical found now).verdict reason = c.verdict reason := by
  rw [completed, LoaderSetup.started, LoaderSetup.probed_of_not_mem _ hprobing,
    LoaderSetup.told_of_ne c hidentity]

theorem completed_identical (identical : Bool) (found : String → Bool) (now : UInt64) :
    (completed c identical found now).verdict "loader_child_identity_or_state" = identical := by
  rw [completed, LoaderSetup.started, LoaderSetup.probed_of_not_mem _ (by decide),
    LoaderSetup.told_self]

/-- The first three tests do not depend on the child. -/
theorem completed_take (identical : Bool) (found : String → Bool) (now : UInt64) :
    (completed c identical found now).opening.take 3 = c.opening.take 3 := by
  have hchannels := @completed_verdict c identical found now "cd_stream_channels_invalid_spec"
    (by decide) (by decide)
  have hpin := @completed_verdict c identical found now "loader_invalid_pin" (by decide) (by decide)
  have hrule (spec : Spec) (needs : List Spec) : (completed c identical found now).rule spec needs
      "cd_stream_channels_invalid_spec" = c.rule spec needs "cd_stream_channels_invalid_spec" := by
    rw [LoaderSetup.rule, hchannels]
    rfl
  simp only [LoaderSetup.opening, List.take_succ_cons, List.take_zero, hrule, hpin]
  rfl

/-- The setup on the thread that owns the child, or on another. -/
def owned (c : LoaderSetup) (o : SuspendedChild extra) (thread : BitVec 32) : LoaderSetup :=
  (c.driving o).told "loader_owner_thread" (thread = o.ownerThread)

/-- What `preparing` makes of the answers. -/
theorem returns_preparing (h : Returns (o.preparing x c executable) t (c',l)) :
    ∃ (thread : BitVec 32) (identical : Bool) (found : String → Bool) (now : UInt64)
      (t₁ t₂ : List (Exchange (windows extra))),
      t = ⟨.getCurrentThreadId,thread⟩ :: (t₁++(t₂++[⟨.getTickCount64,now⟩])) ∧
      Returns (o.identify executable) t₁ identical ∧
      Returns ((x.opening ((owned c o thread).told "loader_child_identity_or_state" identical) o).via
        o.probing) t₂ (found,l) ∧ c' = completed (owned c o thread) identical found now := by
  obtain ⟨(thread : BitVec 32),t₀,rfl,h₁⟩ := returns_call.mp h
  obtain ⟨t₁,identical,t₀,rfl,hidentify,h₂⟩ := returns_bind.mp h₁
  obtain ⟨t₂,⟨found,l'⟩,t₀,rfl,hprobing,h₃⟩ := returns_bind.mp h₂
  obtain ⟨(now : UInt64),t₃,rfl,hdone⟩ := returns_call.mp h₃
  obtain ⟨rfl,heq⟩ := returns_done.mp hdone
  cases heq
  exact ⟨thread,identical,found,now,t₁,t₂,rfl,hidentify,hprobing,rfl⟩

/-- What a record that begins with the thread leaves open. -/
theorem explains_thread {thread : BitVec 32}
    (h : Explains (o.preparing x c executable) (⟨.getCurrentThreadId,thread⟩ :: t) (c',l)) :
    ∃ (identical : Bool) (found : String → Bool) (now : UInt64)
      (t₁ t₂ rest : List (Exchange (windows extra))),
      t++rest = t₁++(t₂++[⟨.getTickCount64,now⟩]) ∧ Returns (o.identify executable) t₁ identical ∧
      Returns ((x.opening ((owned c o thread).told "loader_child_identity_or_state" identical) o).via
        o.probing) t₂ (found,l) ∧ c' = completed (owned c o thread) identical found now := by
  obtain ⟨rest,hrest⟩ := h
  obtain ⟨thread',identical,found,now,t₁,t₂,ht,hidentify,hprobing,hc⟩ := returns_preparing hrest
  obtain ⟨hthread,htail⟩ := List.cons.inj ht
  cases hthread
  exact ⟨identical,found,now,t₁,t₂,rest,htail,hidentify,hprobing,hc⟩

theorem completed_owned (c : LoaderSetup) (o : SuspendedChild extra) (thread : BitVec 32)
    (identical : Bool) (found : String → Bool) (now : UInt64) :
    (completed (owned c o thread) identical found now).verdict "loader_owner_thread" =
        decide (thread = o.ownerThread) ∧
      (completed (owned c o thread) identical found now).verdict "loader_exit_unconfirmed" = true := by
  constructor
  · rw [completed_verdict _ _ _ (by decide) (by decide), owned, LoaderSetup.told_self]
  · rw [completed_verdict _ _ _ (by decide) (by decide), owned, LoaderSetup.told_of_ne _ (by decide),
      LoaderSetup.driving, LoaderSetup.told_self]

/-- A test before the loop that fails gives the reason. -/
theorem observe_of_find (howner : c.verdict "loader_owner_thread" = true)
    (hexit : c.verdict "loader_exit_unconfirmed" = true) {r : Bool × String}
    (hr : c.opening.find? (fun r => !r.1) = some r) (vs : List Turn) :
    observe c vs = .error (.finish r.2) := by
  rw [observe, howner, hr, hexit]
  rfl

/-- A test that fails before the loop ends the observation, however it would have gone on. -/
theorem gives_opening {first last : List (Exchange (windows extra))} {e : Ending}
    {q : System extra (LoaderSetup × Locals)} (hgoes : Goes (o.preparing x c executable) first q)
    (hobserve : ∀ c' l, Explains (o.preparing x c executable) first (c',l) →
      c'.verdict "loader_owner_thread" = true ∧ ∀ vs, observe c' vs = .error e)
    (hfinish : Returns (o.finish rounds e) last (ending,o₂)) :
    ObservationGives x rounds c executable o (first++last) ending := by
  obtain ⟨⟨confirmed,o'',hstop⟩,hclose⟩ := returns_finish hfinish
  obtain ⟨⟨c',l⟩,hprepared⟩ := hgoes.explains (ends_preparing x c executable o)
  refine ⟨first,[],last,o,rfl,.refl o,⟨c',[],confirmed,⟨l,hprepared,trivial⟩,o'',hstop⟩,?_⟩
  intro c' vs confirmed hfits
  obtain ⟨l,hprepared,-⟩ := hfits.prepared
  obtain ⟨o'',hstop⟩ := hfits.stopped
  obtain ⟨howner,hobserve⟩ := hobserve c' l hprepared
  refine ⟨e,hobserve vs,?_⟩
  rw [if_pos howner]
  exact hclose confirmed o'' hstop

/-- On another thread than the owner's nothing is asked of the child, and `stop` is not called. -/
theorem gives_elsewhere {thread : BitVec 32} (howner : thread ≠ o.ownerThread) :
    ObservationGives x rounds c executable o [⟨.getCurrentThreadId,thread⟩]
      (.finish "loader_owner_thread") := by
  have hgoes : Goes (o.preparing x c executable) [⟨.getCurrentThreadId,thread⟩] _ := .step (.here _)
  obtain ⟨⟨c',l⟩,hprepared⟩ := hgoes.explains (ends_preparing x c executable o)
  obtain ⟨confirmed,o',hstop⟩ := explains_stop_nil rounds o
  refine ⟨_,[],[],o,rfl,.refl o,⟨c',[],confirmed,⟨l,hprepared,trivial⟩,o',hstop⟩,?_⟩
  intro c' vs confirmed hfits
  obtain ⟨l,hprepared,-⟩ := hfits.prepared
  obtain ⟨identical,found,now,_,_,_,-,-,-,rfl⟩ := explains_thread hprepared
  have hverdict := (completed_owned c o thread identical found now).1
  rw [decide_eq_false howner] at hverdict
  refine ⟨.finish "loader_owner_thread",?_,?_⟩
  · rw [observe, hverdict]
    rfl
  · rw [hverdict]
    rfl

section Owner
variable {thread : BitVec 32} {found : String → Bool} {tᵢ tₚ : List (Exchange (windows extra))}

theorem completed_of_owner (howner : thread = o.ownerThread) (identical : Bool)
    (found : String → Bool) (now : UInt64) :
    (completed (owned c o thread) identical found now).verdict "loader_owner_thread" = true ∧
      (completed (owned c o thread) identical found now).verdict "loader_exit_unconfirmed" = true := by
  obtain ⟨howned,hexit⟩ := completed_owned c o thread identical found now
  exact ⟨howned.trans (decide_eq_true howner),hexit⟩

/-- The setup that the tests of the child leave. -/
def tested (c : LoaderSetup) (o : SuspendedChild extra) (thread : BitVec 32) (found : String → Bool) :
    LoaderSetup :=
  ((owned c o thread).told "loader_child_identity_or_state" true).probed found

/-- The clock has no part in the tests. -/
theorem completed_opening (now : UInt64) :
    (completed (owned c o thread) true found now).opening = (tested c o thread found).opening := rfl

/-- One of the three tests that do not look at the child fails. -/
theorem gives_untested (howner : thread = o.ownerThread) {r : Bool × String}
    (hr : ((owned c o thread).opening.take 3).find? (fun r => !r.1) = some r)
    (h : Returns (o.finish rounds (.finish r.2)) t (ending,o₂)) :
    ObservationGives x rounds c executable o ([⟨.getCurrentThreadId,thread⟩]++t) ending := by
  refine gives_opening (.step (.here _)) (fun c' l hprepared => ?_) h
  obtain ⟨identical,found,now,_,_,_,-,-,-,rfl⟩ := explains_thread hprepared
  obtain ⟨howned,hexit⟩ := completed_of_owner howner identical found now
  refine ⟨howned,observe_of_find howned hexit ?_⟩
  rw [← List.take_append_drop 3 (completed _ _ _ _).opening, completed_take, List.find?_append, hr]
  rfl

/-- It is not the child to observe, whatever the other tests would have found. -/
theorem gives_stranger (howner : thread = o.ownerThread)
    (hnone : ((owned c o thread).opening.take 3).find? (fun r => !r.1) = none)
    (hidentify : Returns (o.identify executable) tᵢ false)
    (h : Returns (o.finish rounds (.finish "loader_child_identity_or_state")) t (ending,o₂)) :
    ObservationGives x rounds c executable o ((⟨.getCurrentThreadId,thread⟩ :: tᵢ)++t) ending := by
  have hgoes : Goes (o.preparing x c executable) (⟨.getCurrentThreadId,thread⟩ :: tᵢ) _ :=
    Goes.call (Goes.bind hidentify)
  refine gives_opening hgoes (fun c' l hprepared => ?_) h
  obtain ⟨identical,found,now,t₁,_,_,ht,hidentify',-,rfl⟩ := explains_thread hprepared
  obtain ⟨-,-,rfl⟩ := hidentify.unique hidentify' ht
  obtain ⟨howned,hexit⟩ := completed_of_owner howner false found now
  refine ⟨howned,observe_of_find howned hexit (r := (false,"loader_child_identity_or_state")) ?_⟩
  rw [← List.take_append_drop 3 (completed _ _ _ _).opening, completed_take, List.find?_append, hnone]
  have hidentical := completed_identical (c := owned c o thread) false found now
  rw [Option.none_or, LoaderSetup.opening, hidentical]
  rfl

/-- A later test fails, and the clock is not asked. -/
theorem gives_tested (howner : thread = o.ownerThread)
    (hidentify : Returns (o.identify executable) tᵢ true)
    (hprobing : Returns ((x.opening ((owned c o thread).told "loader_child_identity_or_state" true)
      o).via o.probing) tₚ (found,l)) {r : Bool × String}
    (hr : (tested c o thread found).opening.find? (fun r => !r.1) = some r)
    (h : Returns (o.finish rounds (.finish r.2)) t (ending,o₂)) :
    ObservationGives x rounds c executable o ((⟨.getCurrentThreadId,thread⟩ :: (tᵢ++tₚ))++t) ending := by
  have hgoes : Goes (o.preparing x c executable) (⟨.getCurrentThreadId,thread⟩ :: (tᵢ++tₚ)) _ :=
    Goes.call (hidentify.goes_bind (Goes.bind hprobing))
  refine gives_opening hgoes (fun c' l' hprepared => ?_) h
  obtain ⟨identical,found',now,t₁,t₂,rest,ht,hidentify',hprobing',rfl⟩ := explains_thread hprepared
  rw [List.append_assoc] at ht
  obtain ⟨-,ht',rfl⟩ := hidentify.unique hidentify' ht
  obtain ⟨-,-,heq⟩ := hprobing.unique hprobing' ht'
  cases heq
  obtain ⟨howned,hexit⟩ := completed_of_owner howner true found now
  exact ⟨howned,observe_of_find howned hexit (by rw [completed_opening, hr])⟩

/-- All is told, and the loop runs. -/
theorem gives_loop {now : UInt64} (howner : thread = o.ownerThread)
    (hidentify : Returns (o.identify executable) tᵢ true)
    (hprobing : Returns ((x.opening ((owned c o thread).told "loader_child_identity_or_state" true)
      o).via o.probing) tₚ (found,l))
    (hopen : (tested c o thread found).opening.find? (fun r => !r.1) = none)
    (h : Returns (observing x rounds (completed (owned c o thread) true found now) turns
      (completed (owned c o thread) true found now).start l { o with loaderStarted := true }) t
      (ending,o₂)) :
    ObservationGives x rounds c executable o
      ((⟨.getCurrentThreadId,thread⟩ :: (tᵢ++(tₚ++[⟨.getTickCount64,now⟩])))++t) ending := by
  have hprepared : Returns (o.preparing x c executable) (⟨.getCurrentThreadId,thread⟩ ::
      (tᵢ++(tₚ++[⟨.getTickCount64,now⟩]))) (completed (owned c o thread) true found now,l) :=
    Goes.call (hidentify.goes_bind (hprobing.goes_bind (Goes.call (.here _))))
  obtain ⟨ts,last,o',rfl,hsame,⟨vs,confirmed,o'',htaken,hstop⟩,hgives⟩ :=
    returns_observing (o := { o with loaderStarted := true }) turns rfl h
  refine ⟨_,ts,last,o',rfl,⟨hsame.process,hsame.processId,hsame.job,hsame.imageFile,
    hsame.ownerThread,hsame.killRequested,hsame.stopped⟩,
    ⟨_,vs,confirmed,⟨l,hprepared.explains,htaken⟩,o'',hstop⟩,?_⟩
  intro c' vs confirmed hfits
  obtain ⟨l',hprepared',htaken⟩ := hfits.prepared
  obtain ⟨o'',hstop⟩ := hfits.stopped
  cases hprepared'.eq_of_returns hprepared
  obtain ⟨e,hrun,hending⟩ := hgives vs confirmed o'' htaken hstop
  obtain ⟨howned,-⟩ := completed_of_owner (c := c) howner true found now
  refine ⟨e,?_,?_⟩
  · rw [observe, howned, completed_opening, hopen]
    exact hrun
  · rw [if_pos howned]
    exact hending

end Owner

/-- What an observation returns is what the loop gives for its exchanges. -/
theorem returns_observation (h : Returns (o.observation x rounds turns c executable) t (ending,o₂)) :
    ObservationGives x rounds c executable o t ending := by
  obtain ⟨(thread : BitVec 32),t₁,rfl,h₁⟩ := returns_call.mp h
  change Returns (if thread ≠ o.ownerThread then _ else _) t₁ _ at h₁
  split at h₁
  · rename_i howner
    obtain ⟨rfl,hending⟩ := returns_done.mp h₁
    cases hending
    exact gives_elsewhere howner
  rename_i hne
  have howner : thread = o.ownerThread := not_not.mp hne
  dsimp only at h₁
  split at h₁
  · rename_i r hr
    exact gives_untested howner hr h₁
  rename_i hnone
  obtain ⟨tᵢ,identical,t₂,rfl,hidentify,h₂⟩ := returns_bind.mp h₁
  cases identical with
  | false =>
    rw [if_neg Bool.false_ne_true] at h₂
    exact gives_stranger howner hnone hidentify h₂
  | true =>
    rw [if_pos rfl] at h₂
    obtain ⟨tₚ,⟨found,l⟩,t₃,rfl,hprobing,h₃⟩ := returns_bind.mp h₂
    dsimp only at h₃
    split at h₃
    · rename_i r hr
      have hgives := gives_tested howner hidentify hprobing hr h₃
      rwa [List.cons_append, List.append_assoc] at hgives
    · rename_i hopen
      obtain ⟨(now : UInt64),t₄,rfl,h₄⟩ := returns_call.mp h₃
      have hgives := gives_loop howner hidentify hprobing hopen h₄
      rwa [List.cons_append, List.append_assoc, List.append_assoc, List.singleton_append] at hgives

end Opening
end SuspendedChild
end Saex
