import Saex.BootstrapSession

/-! The bootstrap session over every interleaving of its calls: one holder at a
time, one observation in a lifetime, and no way back from a terminal state. -/
namespace Saex
open Transitions

abbrev BootstrapVisit (ι β : Type*) := Visit (BootstrapSession ι β) (BootstrapEvent ι β) BootstrapAnswer

section Observations
variable {ι β : Type*}

/-- The visit that goes into `inspect`. -/
def inspects (v : BootstrapVisit ι β) : Bool := v.answer = .inspect

/-- What `inspect` returned, for the visit in which a call took it over. -/
def observation (v : BootstrapVisit ι β) : Option UInt32 :=
  match v.call, v.answer with
  | .inspected _ reason, .pending => some reason
  | _, _ => none

end Observations

namespace BootstrapStatus

theorem observe_cases (s : BootstrapStatus) (r : UInt32) :
    (r = Bootstrap.runtimeUnverified ∧ s.observe r = { s with
      reason := Bootstrap.runtimeUnverified, state := Bootstrap.observedUnverified
      observedProfileId := copyInto Saex.observedProfileId s.observedProfileId }) ∨
    (r ≠ Bootstrap.runtimeUnverified ∧ ∃ reason, s.observe r = { s with
      reason, state := Bootstrap.rejected } ∧
      ((r < Bootstrap.hostPath ∨ Bootstrap.internalError < r) → reason = Bootstrap.internalError)) := by
  by_cases hr : r = Bootstrap.runtimeUnverified
  · subst hr
    exact .inl ⟨rfl,rfl⟩
  refine .inr ⟨hr,?_⟩
  unfold observe
  by_cases hin : r ≥ Bootstrap.hostPath ∧ r ≤ Bootstrap.internalError
  · simp only [if_pos hin, if_neg hr]
    refine ⟨r,rfl,fun hout => ?_⟩
    rcases hout with hout | hout
    · exact absurd hin.1 (UInt32.not_le.mpr hout)
    · exact absurd hin.2 (UInt32.not_le.mpr hout)
  · simp only [if_neg hin]
    rw [if_neg (by decide)]
    exact ⟨_,rfl,fun _ => rfl⟩

end BootstrapStatus

namespace BootstrapSession
variable {ι β : Type*} [DecidableEq ι] [DecidableEq β]

/-- The flag and the frames agree on the one call that may be in flight. -/
structure Exclusive (s : BootstrapSession ι β) : Prop where
  free : s.busy = false → ∀ i, s.frames i = .idle
  clear : (∀ i, s.frames i = .idle) → s.busy = false
  unique : ∀ i j, s.frames i ≠ .idle → s.frames j ≠ .idle → i = j
  inspecting : ∀ i output, s.frames i = .inspecting output → s.status.state = Bootstrap.discovered

omit [DecidableEq β] in
/-- A call in flight moves on and stays in flight. -/
theorem Exclusive.move {s s' : BootstrapSession ι β} (h : s.Exclusive) {call : ι}
    {frame : BootstrapFrame β} (hc : s.frames call ≠ .idle) (hf : frame ≠ .idle)
    (hb : s'.busy = s.busy) (hs : s'.frames = Function.update s.frames call frame)
    (hi : ∀ output, frame = .inspecting output → s'.status.state = Bootstrap.discovered) :
    s'.Exclusive := by
  have hself : s'.frames call = frame := by rw [hs, Function.update_self]
  have hother (i : ι) (hne : i ≠ call) : s'.frames i = .idle := by
    rw [hs, Function.update_of_ne hne]
    by_contra hni
    exact hne (h.unique i call hni hc)
  refine ⟨?_,?_,?_,?_⟩
  · intro hfree
    exact absurd (h.free (hb ▸ hfree) call) hc
  · intro hidle
    exact absurd (hself ▸ hidle call) hf
  · intro i j hni hnj
    have hic : i = call := by_contra fun hne => hni (hother i hne)
    have hjc : j = call := by_contra fun hne => hnj (hother j hne)
    rw [hic, hjc]
  · intro i output hio
    by_cases hic : i = call
    · rw [hic, hself] at hio
      exact hi output hio
    · rw [hother i hic] at hio
      cases hio

omit [DecidableEq ι] [DecidableEq β] in
theorem not_idle {s : BootstrapSession ι β} {call : ι} {frame : BootstrapFrame β}
    (hf : s.frames call = frame) (hne : frame ≠ .idle) : s.frames call ≠ .idle := hf ▸ hne

omit [DecidableEq ι] [DecidableEq β] in
theorem Exclusive.other_idle {s : BootstrapSession ι β} (h : s.Exclusive) {call i : ι}
    (hc : s.frames call ≠ .idle) (hi : i ≠ call) : s.frames i = .idle :=
  by_contra fun hni => hi (h.unique i call hni hc)

theorem exclusive_step (s : BootstrapSession ι β) (e : BootstrapEvent ι β) (h : s.Exclusive) :
    (s.step e).1.Exclusive := by
  have ho := s.step_outcome e
  generalize (s.step e).1 = s' at ho ⊢
  generalize (s.step e).2 = r at ho
  cases ho with
  | blocked | refused => exact h
  | @entered call operation abi output bytes hb =>
    -- Nothing is in flight while the session is free, so this call is alone.
    have hidle := h.free hb
    have hother (i : ι) (hne : i ≠ call) : ({ s with busy := true }.setFrame call
        (.entered operation output)).frames i = .idle := by
      simp only [setFrame, Function.update_of_ne hne, hidle]
    have hself : ({ s with busy := true }.setFrame call (.entered operation output)).frames call =
        .entered operation output := by
      simp only [setFrame, Function.update_self]
    refine ⟨nofun,?_,?_,?_⟩
    · intro hall
      rw [hall call] at hself
      cases hself
    · intro i j hi hj
      have hic : i = call := by_contra fun hne => hi (hother i hne)
      have hjc : j = call := by_contra fun hne => hj (hother j hne)
      rw [hic, hjc]
    · intro i out hio
      by_cases hic : i = call
      · rw [hic, hself] at hio
        cases hio
      · rw [hother i hic] at hio
        cases hio
  | inspecting hf hs =>
    refine h.move (not_idle hf nofun) ?_ rfl rfl (fun _ _ => hs)
    nofun
  | stopping hf | reading hf | observed hf =>
    refine h.move (not_idle hf nofun) ?_ rfl rfl ?_
    · nofun
    · nofun
  | @left call output hf =>
    -- The only call in flight leaves, so none is left.
    have hc := not_idle hf nofun
    have hall (i : ι) : Function.update s.frames call .idle i = .idle := by
      by_cases hic : i = call
      · rw [hic, Function.update_self]
      · rw [Function.update_of_ne hic, h.other_idle hc hic]
    refine ⟨fun _ => hall,fun _ => rfl,fun i j hi => absurd (hall i) hi,?_⟩
    intro i out hio
    exact absurd ((hall i).symm.trans hio) nofun

/-- What the status tells about the observations behind it. -/
inductive Recorded : List UInt32 → BootstrapStatus → Prop
  | unseen {s : BootstrapStatus}
      (hs : s.state = Bootstrap.discovered ∨ s.state = Bootstrap.stopped)
      (hp : s.observedProfileId = Vector.replicate 96 0) : Recorded [] s
  | seen {s : BootstrapStatus} (r : UInt32)
      (hs : s.state = (BootstrapStatus.observe {} r).state ∨ s.state = Bootstrap.stopped)
      (hr : s.reason = (BootstrapStatus.observe {} r).reason)
      (hp : s.observedProfileId = (BootstrapStatus.observe {} r).observedProfileId) :
      Recorded [r] s

theorem observe_state (s : BootstrapStatus) (r : UInt32) :
    (s.observe r).state = Bootstrap.rejected ∨
      (s.observe r).state = Bootstrap.observedUnverified := by
  rcases s.observe_cases r with ⟨_,he⟩ | ⟨_,reason,he,_⟩
  · exact .inr (by rw [he])
  · exact .inl (by rw [he])

theorem Recorded.of_discovered {rs : List UInt32} {s : BootstrapStatus} (h : Recorded rs s)
    (hs : s.state = Bootstrap.discovered) :
    rs = [] ∧ s.observedProfileId = Vector.replicate 96 0 := by
  cases h with
  | unseen _ hp => exact ⟨rfl,hp⟩
  | seen r hr =>
    exfalso
    rcases hr with hr | hr
    · rcases observe_state {} r with ho | ho
      · rw [hs, ho] at hr; cases hr
      · rw [hs, ho] at hr; cases hr
    · rw [hs] at hr; cases hr

/-- The fields no operation of the session ever sets. -/
structure Unused (s : BootstrapStatus) : Prop where
  canAttach : s.canAttach = 0
  bindingsLoaded : s.bindingsLoaded = 0
  reserved : s.reserved = 0

theorem Recorded.keep {rs : List UInt32} {s s' : BootstrapStatus} (h : Recorded rs s)
    (hs : s'.state = s.state ∨ s'.state = Bootstrap.stopped) (hr : s'.reason = s.reason)
    (hp : s'.observedProfileId = s.observedProfileId) : Recorded rs s' := by
  cases h with
  | unseen hs' hp' =>
    refine .unseen ?_ (hp.trans hp')
    rcases hs with hs | hs
    · rw [hs]
      exact hs'
    · exact .inr hs
  | seen r hs' hr' hp' =>
    refine .seen r ?_ (hr.trans hr') (hp.trans hp')
    rcases hs with hs | hs
    · rw [hs]
      exact hs'
    · exact .inr hs

theorem observe_fresh (s : BootstrapStatus) (r : UInt32)
    (hp : s.observedProfileId = Vector.replicate 96 0) : Recorded [r] (s.observe r) := by
  refine .seen r (.inl ?_) ?_ ?_ <;> unfold BootstrapStatus.observe <;> dsimp only
  · split_ifs <;> rfl
  · split_ifs <;> rfl
  · rw [hp]
    split_ifs <;> rfl

omit [DecidableEq ι] [DecidableEq β] in
theorem observation_concat (h : List (BootstrapVisit ι β)) (v : BootstrapVisit ι β)
    (hn : observation v = none) :
    (h ++ [v]).filterMap observation = h.filterMap observation := by
  rw [List.filterMap_append, List.filterMap_cons_none hn, List.filterMap_nil, List.append_nil]

theorem recorded_step {h : List (BootstrapVisit ι β)} {s : BootstrapSession ι β}
    (e : BootstrapEvent ι β) (hx : s.Exclusive)
    (hl : Recorded (h.filterMap observation) s.status) :
    Recorded ((h ++ [(⟨s,e,(s.step e).2⟩ : BootstrapVisit ι β)]).filterMap observation)
      (s.step e).1.status := by
  have ho := s.step_outcome e
  generalize (s.step e).1 = s' at ho ⊢
  generalize (s.step e).2 = r at ho ⊢
  cases ho with
  | blocked =>
    rw [observation_concat h ⟨s,e,.blocked⟩ (by cases e <;> rfl)]
    exact hl
  | @refused _ result =>
    rw [observation_concat h ⟨s,e,.returned result⟩ (by cases e <;> rfl)]
    exact hl
  | entered | reading | inspecting =>
    rw [observation_concat h _ rfl]
    exact hl.keep (.inl rfl) rfl rfl
  | left =>
    rw [observation_concat h _ rfl]
    exact hl.keep (.inl (by simp)) (by simp) (by simp)
  | stopping =>
    rw [observation_concat h _ rfl]
    exact hl.keep (.inr rfl) rfl rfl
  | @observed call output reason hf =>
    obtain ⟨hnone,hp⟩ := hl.of_discovered (hx.inspecting call output hf)
    rw [List.filterMap_append, hnone]
    exact observe_fresh s.status reason hp

theorem unused_step (s : BootstrapSession ι β) (e : BootstrapEvent ι β) (hl : Unused s.status) :
    Unused (s.step e).1.status := by
  have ho := s.step_outcome e
  generalize (s.step e).1 = s' at ho ⊢
  generalize (s.step e).2 = r at ho
  cases ho with
  | @observed call output reason =>
    rcases s.status.observe_cases reason with ⟨-,he⟩ | ⟨-,_,he,-⟩
    · simp only [setFrame, he]
      exact ⟨hl.canAttach,hl.bindingsLoaded,hl.reserved⟩
    · simp only [setFrame, he]
      exact ⟨hl.canAttach,hl.bindingsLoaded,hl.reserved⟩
  | _ => exact ⟨hl.canAttach,hl.bindingsLoaded,hl.reserved⟩

/-- At most one call ever went into `inspect`, and it is still there or has left
the discovered state behind. -/
def InspectedOnce (h : List (BootstrapVisit ι β)) (s : BootstrapSession ι β) : Prop :=
  h.countP inspects = 0 ∨ (h.countP inspects = 1 ∧
    (s.status.state ≠ Bootstrap.discovered ∨ ∃ i output, s.frames i = .inspecting output))

omit [DecidableEq ι] [DecidableEq β] in
theorem InspectedOnce.past {h : List (BootstrapVisit ι β)} {s : BootstrapSession ι β}
    (hl : InspectedOnce h s) (hno : ∀ i output, s.frames i ≠ .inspecting output) :
    h.countP inspects = 0 ∨
      h.countP inspects = 1 ∧ s.status.state ≠ Bootstrap.discovered := by
  rcases hl with hl | ⟨hl,hs | ⟨i,output,hi⟩⟩
  · exact .inl hl
  · exact .inr ⟨hl,hs⟩
  · exact absurd hi (hno i output)

omit [DecidableEq ι] [DecidableEq β] in
theorem Exclusive.not_inspecting {s : BootstrapSession ι β} (h : s.Exclusive) {call : ι}
    {frame : BootstrapFrame β} (hf : s.frames call = frame) (hne : frame ≠ .idle)
    (hni : ∀ output, frame ≠ .inspecting output) (i : ι) (output : β) :
    s.frames i ≠ .inspecting output := by
  intro hi
  have hic := h.unique i call (by rw [hi]; nofun) (not_idle hf hne)
  rw [hic, hf] at hi
  exact hni output hi

theorem inspectedOnce_step {h : List (BootstrapVisit ι β)} {s : BootstrapSession ι β}
    (e : BootstrapEvent ι β) (hx : s.Exclusive) (hl : InspectedOnce h s) :
    InspectedOnce (h ++ [⟨s,e,(s.step e).2⟩]) (s.step e).1 := by
  have ho := s.step_outcome e
  generalize (s.step e).1 = s' at ho ⊢
  generalize (s.step e).2 = r at ho ⊢
  unfold InspectedOnce
  rw [List.countP_append]
  cases ho with
  | blocked | refused => exact hl
  | entered hb =>
    rcases hl.past (fun i output hi => absurd (hx.free hb i) (by rw [hi]; nofun)) with hl | ⟨hl,hs⟩
    · exact .inl hl
    · exact .inr ⟨hl,.inl hs⟩
  | @inspecting call output hf hs =>
    rcases hl.past (hx.not_inspecting hf nofun nofun) with hl | ⟨-,hne⟩
    · refine .inr ⟨by rw [hl]; rfl,.inr ⟨call,output,?_⟩⟩
      simp only [setFrame, Function.update_self]
    · exact absurd hs hne
  | @stopping call output hf =>
    rcases hl.past (hx.not_inspecting hf nofun nofun) with hl | ⟨hl,-⟩
    · exact .inl hl
    · refine .inr ⟨hl,.inl ?_⟩
      simp only [setFrame]
      decide
  | reading hf | left hf =>
    rcases hl.past (hx.not_inspecting hf nofun nofun) with hl | ⟨hl,hs⟩
    · exact .inl hl
    · exact .inr ⟨hl,.inl hs⟩
  | @observed call output reason hf =>
    rcases hl with hl | ⟨hl,-⟩
    · exact .inl hl
    · refine .inr ⟨hl,.inl ?_⟩
      simp only [setFrame]
      rcases observe_state s.status reason with he | he <;> rw [he] <;> decide

structure SessionLaw (h : List (BootstrapVisit ι β)) (s : BootstrapSession ι β) : Prop where
  exclusive : s.Exclusive
  recorded : Recorded (h.filterMap observation) s.status
  unused : Unused s.status
  inspectedOnce : InspectedOnce h s

theorem sessionLaw_run (outputs : β → BootstrapStatus) (events : List (BootstrapEvent ι β)) :
    SessionLaw (history step { outputs } events)
      (run step ({ outputs } : BootstrapSession ι β) events) := by
  refine history_invariant step SessionLaw ?_ { outputs } ?_ events
  · exact fun h s e hl => ⟨exclusive_step s e hl.exclusive,recorded_step e hl.exclusive hl.recorded,
      unused_step s e hl.unused,inspectedOnce_step e hl.exclusive hl.inspectedOnce⟩
  · exact ⟨⟨fun _ _ => rfl,fun _ => rfl,fun _ _ hi => absurd rfl hi,nofun⟩,
      .unseen (.inl rfl) rfl,⟨rfl,rfl,rfl⟩,.inl rfl⟩

/-- The moves of the session state: forward only, and none out of STOPPED. -/
def Moves (s s' : UInt32) : Prop :=
  s' = s ∨
  (s = Bootstrap.discovered ∧ (s' = Bootstrap.rejected ∨ s' = Bootstrap.observedUnverified ∨
    s' = Bootstrap.stopped)) ∨
  ((s = Bootstrap.rejected ∨ s = Bootstrap.observedUnverified) ∧ s' = Bootstrap.stopped)

theorem Recorded.state_cases {rs : List UInt32} {s : BootstrapStatus} (h : Recorded rs s) :
    s.state = Bootstrap.discovered ∨ (s.state = Bootstrap.rejected ∨
      s.state = Bootstrap.observedUnverified) ∨ s.state = Bootstrap.stopped := by
  cases h with
  | unseen hs => exact hs.imp_right .inr
  | seen r hs =>
    rcases hs with hs | hs
    · rw [hs]
      exact .inr (.inl (observe_state {} r))
    · exact .inr (.inr hs)

theorem step_moves {h : List (BootstrapVisit ι β)} {s : BootstrapSession ι β}
    (hl : SessionLaw h s) (e : BootstrapEvent ι β) :
    Moves s.status.state (s.step e).1.status.state := by
  have ho := s.step_outcome e
  generalize (s.step e).1 = s' at ho ⊢
  generalize (s.step e).2 = r at ho
  cases ho with
  | stopping =>
    rcases hl.recorded.state_cases with hs | hs | hs
    · exact .inr (.inl ⟨hs,.inr (.inr rfl)⟩)
    · exact .inr (.inr ⟨hs,rfl⟩)
    · exact .inl hs.symm
  | @observed call output reason hf =>
    have hs := hl.exclusive.inspecting call output hf
    refine .inr (.inl ⟨hs,?_⟩)
    rcases observe_state s.status reason with he | he
    · exact .inl he
    · exact .inr (.inl he)
  | left => exact .inl (by simp)
  | _ => exact .inl rfl

theorem step_stopped {s : BootstrapSession ι β} (hx : s.Exclusive)
    (hs : s.status.state = Bootstrap.stopped) (e : BootstrapEvent ι β) :
    (s.step e).1.status.state = Bootstrap.stopped ∧
      inspects (⟨s,e,(s.step e).2⟩ : BootstrapVisit ι β) = false ∧
      observation (⟨s,e,(s.step e).2⟩ : BootstrapVisit ι β) = none := by
  have ho := s.step_outcome e
  generalize (s.step e).1 = s' at ho ⊢
  generalize (s.step e).2 = r at ho ⊢
  cases ho with
  | blocked | refused => exact ⟨hs,rfl,by cases e <;> rfl⟩
  | entered | reading => exact ⟨hs,rfl,rfl⟩
  | inspecting _ hd => exact absurd (hs.symm.trans hd) (by decide)
  | stopping => exact ⟨rfl,rfl,rfl⟩
  | observed hf => exact absurd (hs.symm.trans (hx.inspecting _ _ hf)) (by decide)
  | left => exact ⟨by simpa using hs,rfl,rfl⟩

/-- A stopped session stays stopped and looks at nothing any more. -/
theorem stopped_run {s : BootstrapSession ι β} (hx : s.Exclusive)
    (hs : s.status.state = Bootstrap.stopped) (more : List (BootstrapEvent ι β)) :
    (run step s more).status.state = Bootstrap.stopped ∧
      ∀ v ∈ history step s more, inspects v = false ∧ observation v = none := by
  induction more generalizing s with
  | nil => exact ⟨hs,by simp⟩
  | cons e es ih =>
    obtain ⟨hstop,hquiet⟩ := step_stopped hx hs e
    obtain ⟨hrun,hmore⟩ := ih (exclusive_step s e hx) hstop
    exact ⟨hrun,List.forall_mem_cons.mpr ⟨hquiet,hmore⟩⟩

theorem Recorded.verified {rs : List UInt32} {s : BootstrapStatus} (h : Recorded rs s)
    (hs : s.state = Bootstrap.observedUnverified ∨
      s.observedProfileId ≠ Vector.replicate 96 0) : Bootstrap.runtimeUnverified ∈ rs := by
  cases h with
  | unseen hs' hp =>
    rcases hs with hs | hs
    · rcases hs' with hs' | hs' <;> exact absurd (hs.symm.trans hs') (by decide)
    · exact absurd hp hs
  | seen r hs' _ hp =>
    rcases BootstrapStatus.observe_cases {} r with ⟨rfl,_⟩ | ⟨_,reason,he,_⟩
    · exact List.mem_singleton_self _
    · rw [he] at hs' hp
      rcases hs with hs | hs
      · rw [hs] at hs'
        exact absurd hs' (by simp only; decide)
      · exact absurd hp hs

theorem Recorded.foreign {rs : List UInt32} {s : BootstrapStatus} (h : Recorded rs s) {r : UInt32}
    (hr : r ∈ rs) (hout : r < Bootstrap.hostPath ∨ Bootstrap.internalError < r) :
    s.reason = Bootstrap.internalError ∧
      (s.state = Bootstrap.rejected ∨ s.state = Bootstrap.stopped) := by
  cases h with
  | unseen => cases hr
  | seen r' hs hreason =>
    rw [List.mem_singleton] at hr
    subst hr
    rcases BootstrapStatus.observe_cases {} r with ⟨rfl,_⟩ | ⟨_,reason,he,hin⟩
    · exact absurd hout (by decide)
    · rw [he] at hs hreason
      exact ⟨hreason.trans (hin hout),hs⟩

/-- An `inspect` value out of range makes the call end rejected with an internal error. -/
theorem inspected_foreign (s : BootstrapSession ι β) {call : ι} {output : β} {r : UInt32}
    (hf : s.frames call = .inspecting output)
    (hout : r < Bootstrap.hostPath ∨ Bootstrap.internalError < r) :
    (s.step (.inspected call r)).1.status.state = Bootstrap.rejected ∧
      (s.step (.inspected call r)).1.status.reason = Bootstrap.internalError ∧
      (s.step (.inspected call r)).1.frames call = .leaving output := by
  simp only [step, inspected, hf, setFrame_status, setFrame_self]
  rcases s.status.observe_cases r with ⟨rfl,_⟩ | ⟨_,reason,he,hin⟩
  · exact absurd hout (by decide)
  · rw [he]
    exact ⟨rfl,hin hout,trivial⟩

theorem step_refused {s : BootstrapSession ι β} {e : BootstrapEvent ι β} {result : UInt32}
    (h : (s.step e).2 = .returned result) (hr : result ≠ Bootstrap.ok) : (s.step e).1 = s := by
  have ho := s.step_outcome e
  rw [h] at ho
  generalize (s.step e).1 = s' at ho ⊢
  cases ho with
  | refused => rfl
  | left => exact absurd rfl hr

theorem step_ok {s : BootstrapSession ι β} {e : BootstrapEvent ι β}
    (h : (s.step e).2 = .returned Bootstrap.ok) : ∃ call output, e = .proceed call ∧
      s.frames call = .leaving output ∧
      (s.step e).1.outputs = Function.update s.outputs output (s.step e).1.status := by
  have ho := s.step_outcome e
  rw [h] at ho
  generalize (s.step e).1 = s' at ho ⊢
  generalize hb : BootstrapAnswer.returned Bootstrap.ok = r at ho
  cases ho with
  | refused hne => exact absurd (BootstrapAnswer.returned.inj hb).symm hne
  | left hf => exact ⟨_,_,rfl,hf,rfl⟩
  | _ => cases hb

/-- The laws of a session `s` with the interleaving `h` of its calls behind it. -/
structure Laws (h : List (BootstrapVisit ι β)) (s : BootstrapSession ι β) : Prop where
  inspect_once : h.countP inspects ≤ 1
  moves : ∀ e, Moves s.status.state (s.step e).1.status.state
  stopped_final : s.status.state = Bootstrap.stopped → ∀ more,
    (run step s more).status.state = Bootstrap.stopped ∧
      ∀ v ∈ history step s more, inspects v = false ∧ observation v = none
  observed_only : s.status.state = Bootstrap.observedUnverified ∨
    s.status.observedProfileId ≠ Vector.replicate 96 0 →
      Bootstrap.runtimeUnverified ∈ h.filterMap observation
  foreign_call : ∀ call output r, s.frames call = .inspecting output →
    r < Bootstrap.hostPath ∨ Bootstrap.internalError < r →
      (s.step (.inspected call r)).1.status.state = Bootstrap.rejected ∧
      (s.step (.inspected call r)).1.status.reason = Bootstrap.internalError ∧
      (s.step (.inspected call r)).1.frames call = .leaving output
  foreign_past : ∀ r ∈ h.filterMap observation,
    r < Bootstrap.hostPath ∨ Bootstrap.internalError < r →
      s.status.reason = Bootstrap.internalError ∧
        (s.status.state = Bootstrap.rejected ∨ s.status.state = Bootstrap.stopped)
  unused : s.status.canAttach = 0 ∧ s.status.bindingsLoaded = 0 ∧ s.status.reserved = 0
  refused_unchanged : ∀ e result, (s.step e).2 = .returned result → result ≠ Bootstrap.ok →
    (s.step e).1 = s
  ok_writes : ∀ e, (s.step e).2 = .returned Bootstrap.ok → ∃ call output, e = .proceed call ∧
    s.frames call = .leaving output ∧
      (s.step e).1.outputs = Function.update s.outputs output (s.step e).1.status
  one_in_flight : ∀ i j, s.frames i ≠ .idle → s.frames j ≠ .idle → i = j
  idle_clear : (∀ i, s.frames i = .idle) → s.busy = false

/-- Every interleaving of calls, whatever they pass and `inspect` returns, keeps the laws. -/
theorem bootstrap_session_laws (outputs : β → BootstrapStatus)
    (events : List (BootstrapEvent ι β)) :
    Laws (history step { outputs } events)
      (run step ({ outputs } : BootstrapSession ι β) events) := by
  have hl := sessionLaw_run outputs events
  generalize run step ({ outputs } : BootstrapSession ι β) events = s at hl ⊢
  generalize history step ({ outputs } : BootstrapSession ι β) events = h at hl ⊢
  exact {
    inspect_once := by rcases hl.inspectedOnce with h0 | ⟨h1,-⟩ <;> omega
    moves := step_moves hl
    stopped_final := fun hs => stopped_run hl.exclusive hs
    observed_only := hl.recorded.verified
    foreign_call := fun call output r hf hout => inspected_foreign s hf hout
    foreign_past := fun r hr hout => hl.recorded.foreign hr hout
    unused := ⟨hl.unused.canAttach,hl.unused.bindingsLoaded,hl.unused.reserved⟩
    refused_unchanged := fun e result hr hne => step_refused hr hne
    ok_writes := fun e he => step_ok he
    one_in_flight := hl.exclusive.unique
    idle_clear := hl.exclusive.clear }

end BootstrapSession
end Saex
