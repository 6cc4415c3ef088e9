import Saex.LoaderCheckpoints

/-! What a handler of the debug loop can go on with and what it can end with. -/
namespace Saex
open StoppingRuns

/-- The reasons that a handler has of its own, on leaving its place or entering it. -/
inductive Handler.Gives (h : Handler) : String → Prop
  | check {k : Check} (hk : k ∈ h.checks) : Gives h k.reason
  | entering {k : Check} (hk : k ∈ h.entering) : Gives h k.reason
  | ended (w : Scene) : Gives h (h.ended w)
  | writeFailed : Gives h h.writeFailed
  | armFailed : Gives h h.armFailed
  | search {r : String} (hr : r ∈ Handlers.searchReasons) : Gives h r

namespace Scene
variable {w : Scene} {chain chain' : Chain} {q : Place} {stage : ℕ}

theorem arm_ok (h : w.arm chain q stage = .ok chain') :
    ∃ address, w.stop q stage = some address ∧ chain' = chain.arm q stage address := by
  rw [arm] at h
  split at h
  · cases h
  rename_i address hstop
  split at h
  · cases h
  split at h
  · split at h
    · cases h
      exact ⟨address,hstop,rfl⟩
    · cases h
  · cases h

theorem arm_error {e : Ending} (h : w.arm chain q stage = .error e) :
    (∃ r, q.handler.Gives r ∧ e = .finish r) ∨ e = .outOfRange ∧ w.stop q stage = none := by
  rw [arm] at h
  split at h
  · rename_i hstop
    cases h
    exact .inr ⟨rfl,hstop⟩
  split at h
  · cases h
    exact .inl ⟨_,.writeFailed,rfl⟩
  split at h
  · split at h
    · cases h
    · cases h
      exact .inl ⟨_,.armFailed,rfl⟩
  · cases h
    exact .inl ⟨_,.armFailed,rfl⟩

end Scene

/-- A search is the only thing in `examine` that ends a run by itself, apart from
an index that is out of range. -/
theorem examine_error {w : Scene} {q : Place} {e : Ending} (h : q.handler.examine w = .error e) :
    (∃ r, q.handler.Gives r ∧ e = .finish r) ∨ e = .outOfRange := by
  have searched (hs : ∃ r ∈ Handlers.searchReasons, e = .finish r) :
      (∃ r, q.handler.Gives r ∧ e = .finish r) ∨ e = .outOfRange :=
    hs.elim fun r hr => .inl ⟨r,.search hr.1,hr.2⟩
  rcases q with a | p
  · cases a with
    | codec =>
      rcases Handlers.findCodecs_error h with hs | ⟨rfl,_⟩
      · exact searched hs
      · exact .inr rfl
    | asiReturn =>
      rcases bind_error_iff.mp h with h | ⟨memo,_,h⟩
      · exact searched (Handlers.findAsi_error h)
      · split at h
        · cases h
          exact searched ⟨_,by decide,rfl⟩
        · cases h
    | _ => cases h
  · cases p with
    | applicationRouting =>
      simp only [Place.handler, Phase.handler, Handlers.applicationRouting] at h
      split at h
      · split at h
        · cases h
        · cases h
          exact .inr rfl
      · cases h
    | _ => cases h

theorem enter_error {w : Scene} {q : Place} {e : Ending} (h : q.handler.enter w = .error e) :
    ∃ r, q.handler.Gives r ∧ e = .finish r := by
  rcases q with a | p
  · cases a with
    | proxy =>
      rcases bind_error_iff.mp h with h | ⟨memo,_,h⟩
      · obtain ⟨r,hr,rfl⟩ := Handlers.findProxy_error h
        exact ⟨r,.search hr,rfl⟩
      · split at h
        · cases h
          exact ⟨_,.search (by decide),rfl⟩
        · cases h
    | _ => cases h
  · cases p <;> cases h

/-- What a place works out never changes the number of cells for codec mappings. -/
theorem examine_cells {w : Scene} {q : Place} {memo : Memo} (h : q.handler.examine w = .ok memo) :
    memo.codecMappingIds.length = w.memo.codecMappingIds.length := by
  rcases q with a | p
  · cases a with
    | codec => exact Handlers.findCodecs_length h
    | asiReturn =>
      obtain ⟨found,hfound,h⟩ := bind_ok_iff.mp h
      split at h
      · cases h
      · cases h
        rw [Handlers.findAsi_codecs hfound]
    | _ =>
      cases h
      rfl
  · cases p with
    | applicationRouting =>
      simp only [Place.handler, Phase.handler, Handlers.applicationRouting] at h
      split at h
      · split at h
        · cases h
          rfl
        · cases h
      · cases h
        rfl
    | cdStreamDisk =>
      cases h
      split_ifs <;> rfl
    | _ =>
      cases h
      rfl

theorem enter_cells {w : Scene} {q : Place} {memo : Memo} (h : q.handler.enter w = .ok memo) :
    memo.codecMappingIds.length = w.memo.codecMappingIds.length := by
  rcases q with a | p
  · cases a with
    | proxy =>
      obtain ⟨found,hfound,h⟩ := bind_ok_iff.mp h
      split at h
      · cases h
      · cases h
        have hids := Handlers.findProxy_codecs hfound
        exact congrArg List.length hids
    | _ =>
      cases h
      rfl
  · cases p <;> cases h <;> rfl

/-- The two ways in which a handler goes on: from its last stage to the place
after it, which it verifies first, or to its own next stage. -/
inductive Handled (w : Scene) (chain : Chain) (q : Place) : Chain → Prop
  | entered {memo memo' : Memo} {r : Place} {address : Address}
      (hexamine : q.handler.examine w = .ok memo) (hfinal : q.final w.stage = true)
      (hnext : w.setup.following q = some r)
      (henter : r.handler.enter { w with memo } = .ok memo')
      (hentering : checkAll { w with memo := memo' } r.handler.entering = .ok ()) :
      Handled w chain q (Chain.arm { chain.verify q with memo := memo' } r 1 address)
  | staged {memo : Memo} {address : Address}
      (hexamine : q.handler.examine w = .ok memo) (hfinal : q.final w.stage = false) :
      Handled w chain q (Chain.arm { chain with memo } q (nextStage memo q w.stage) address)

theorem handle_ok {w : Scene} {chain chain' : Chain} {q : Place}
    (h : w.handle chain q = .ok chain') :
    checkAll w q.handler.checks = .ok () ∧ Handled w chain q chain' := by
  rw [Scene.handle, bind_ok_iff] at h
  obtain ⟨⟨⟩,hchecks,h⟩ := h
  rw [bind_ok_iff] at h
  obtain ⟨memo,hexamine,h⟩ := h
  refine ⟨hchecks,?_⟩
  split at h
  · rename_i hfinal
    split at h
    · cases h
    rename_i r hnext
    rw [bind_ok_iff] at h
    obtain ⟨memo',henter,h⟩ := h
    rw [bind_ok_iff] at h
    obtain ⟨⟨⟩,hentering,h⟩ := h
    obtain ⟨address,_,rfl⟩ := Scene.arm_ok h
    exact .entered hexamine hfinal hnext henter hentering
  · rename_i hfinal
    obtain ⟨address,_,rfl⟩ := Scene.arm_ok h
    exact .staged hexamine (Bool.eq_false_iff.mpr hfinal)

/-- A handler ends a run with a reason of its own or of the place after it, or
at an index: in what it examines, or in the stops it can go on to. -/
theorem handle_error {w : Scene} {chain : Chain} {q : Place} {e : Ending}
    (h : w.handle chain q = .error e) :
    (∃ (q' : Place) (r : String), q'.handler.Gives r ∧ e = .finish r) ∨
      e = .outOfRange ∧ checkAll w q.handler.checks = .ok () ∧
        (q.handler.examine w = .error .outOfRange ∨
          (∃ w' r, w.setup.following q = some r ∧ Scene.stop w' r 1 = none) ∨
          ∃ w' memo, q.handler.examine w = .ok memo ∧ q.final w.stage = false ∧
            Scene.stop w' q (nextStage memo q w.stage) = none) := by
  rw [Scene.handle, bind_error_iff] at h
  rcases h with h | ⟨⟨⟩,hchecks,h⟩
  · obtain ⟨k,hk,rfl⟩ := checkAll_error h
    exact .inl ⟨q,_,.check hk,rfl⟩
  rw [bind_error_iff] at h
  rcases h with h | ⟨memo,hexamine,h⟩
  · rcases examine_error h with ⟨r,hr,rfl⟩ | rfl
    · exact .inl ⟨q,r,hr,rfl⟩
    · exact .inr ⟨rfl,hchecks,.inl h⟩
  split at h
  · split at h
    · cases h
      exact .inl ⟨q,_,.ended _,rfl⟩
    rename_i r hnext
    rw [bind_error_iff] at h
    rcases h with h | ⟨memo',henter,h⟩
    · obtain ⟨reason,hr,rfl⟩ := enter_error h
      exact .inl ⟨r,reason,hr,rfl⟩
    rw [bind_error_iff] at h
    rcases h with h | ⟨⟨⟩,hentering,h⟩
    · obtain ⟨k,hk,rfl⟩ := checkAll_error h
      exact .inl ⟨r,_,.entering hk,rfl⟩
    rcases Scene.arm_error h with ⟨reason,hr,rfl⟩ | ⟨rfl,hstop⟩
    · exact .inl ⟨r,reason,hr,rfl⟩
    · exact .inr ⟨rfl,hchecks,.inr (.inl ⟨_,r,hnext,hstop⟩)⟩
  · rename_i hfinal
    rcases Scene.arm_error h with ⟨reason,hr,rfl⟩ | ⟨rfl,hstop⟩
    · exact .inl ⟨q,reason,hr,rfl⟩
    · exact .inr ⟨rfl,hchecks,.inr (.inr ⟨_,memo,hexamine,Bool.eq_false_iff.mpr hfinal,hstop⟩)⟩

end Saex
