import Mathlib.Data.List.Perm.Basic
import Mathlib.Logic.Relation
import Mathlib.Order.WellFoundedSet
import Mathlib.Tactic.Common

/-! Graphs given by a list of nodes and a list of targets for each: sorting them by
layers, which gets through exactly when there is no cycle, and visiting what can be
reached from a queue. -/
namespace FiniteGraphs

variable {K : Type*}

/-- No node leads back to itself. -/
def Acyclic (R : K → K → Prop) : Prop := ∀ k, ¬Relation.TransGen R k k

/-- Where every edge leads down, none leads round. -/
theorem acyclic_of_rank {R : K → K → Prop} (rank : K → ℕ) (h : ∀ a b, R a b → rank b < rank a) :
    Acyclic R := by
  intro k hcycle
  have hdown : ∀ b, Relation.TransGen R k b → rank b < rank k := by
    intro b hb
    induction hb with
    | single hedge => exact h _ _ hedge
    | tail _ hedge ih => exact (h _ _ hedge).trans ih
  exact lt_irrefl _ (hdown k hcycle)

/-- Among finitely many nodes without a cycle there is one that leads to no other of them. -/
theorem Acyclic.exists_last {R : K → K → Prop} (h : Acyclic R) {xs : List K} (hxs : xs ≠ []) :
    ∃ k ∈ xs, ∀ d ∈ xs, ¬R k d := by
  let after (a b : K) : Prop := Relation.TransGen R b a
  have hirrefl : Std.Irrefl after := ⟨h⟩
  have htrans : IsTrans K after := ⟨fun a b c hab hbc => hbc.trans hab⟩
  have hstrict : IsStrictOrder K after := {}
  have hfinite : {k | k ∈ xs}.Finite := xs.finite_toSet
  have hwf : {k | k ∈ xs}.WellFoundedOn after := hfinite.wellFoundedOn
  obtain ⟨k,hk⟩ := List.exists_mem_of_ne_nil xs hxs
  obtain ⟨m,-,hm⟩ := hwf.has_min {x | True} ⟨⟨k,hk⟩,trivial⟩
  exact ⟨m.1,m.2,fun d hd hR => hm ⟨d,hd⟩ trivial (.single hR)⟩

/-- Some cycle can be reached from the node. -/
def LeadsToCycle (R : K → K → Prop) (k : K) : Prop :=
  ∃ c, Relation.ReflTransGen R k c ∧ Relation.TransGen R c c

theorem acyclic_iff {R : K → K → Prop} : Acyclic R ↔ ∀ k, ¬LeadsToCycle R k :=
  ⟨fun h _ ⟨c,_,hc⟩ => h c hc,fun h k hk => h k ⟨k,.refl,hk⟩⟩

section Graph
variable (nodes : List K) (targets : K → List K)

def Edge (a b : K) : Prop := a ∈ nodes ∧ b ∈ targets a

/-- Every target is a node. -/
def Closed : Prop := ∀ a ∈ nodes, ∀ b ∈ targets a, b ∈ nodes

/-- What holds of the nodes done so far: they are nodes, each once, their targets are done too,
and none is on a cycle. -/
structure Layered (done : List K) : Prop where
  nodup : done.Nodup
  subset : ∀ k ∈ done, k ∈ nodes
  closed : ∀ k ∈ done, ∀ d ∈ targets k, d ∈ done
  acyclic : ∀ k ∈ done, ¬Relation.TransGen (Edge nodes targets) k k

/-- Each of them stands behind all its targets. -/
def Sorted (order : List K) : Prop := ∀ l k r, order = l++k :: r → ∀ d ∈ targets k, d ∈ l

variable {nodes targets}

theorem Layered.nil : Layered nodes targets [] :=
  ⟨List.nodup_nil,nofun,nofun,nofun⟩

/-- What a done node leads to is done. -/
theorem Layered.reach {done : List K} (h : Layered nodes targets done) {k d : K} (hk : k ∈ done)
    (hr : Relation.ReflTransGen (Edge nodes targets) k d) : d ∈ done := by
  induction hr with
  | refl => exact hk
  | tail _ hstep ih => exact h.closed _ ih _ hstep.2

end Graph

section Layers
variable [DecidableEq K] (nodes : List K) (targets : K → List K) (arrange : List K → List K)

/-- The nodes not done whose targets are all done. -/
def ready (done : List K) : List K :=
  nodes.filter fun k => k ∉ done && (targets k).all (· ∈ done)

/-- Layer after layer, each arranged in its own order, until all nodes are done or no layer is
left; the flag says which. -/
def layers (done : List K) : List K × Bool :=
  if _h : done.length < nodes.length then
    let layer := arrange (ready nodes targets done)
    if _hlayer : layer.isEmpty then (done,false) else layers (done++layer)
  else (done,true)
termination_by nodes.length-done.length
decreasing_by
  have hpos : 0 < (arrange (ready nodes targets done)).length :=
    List.length_pos_iff.mpr (mt List.isEmpty_iff.mpr _hlayer)
  rw [List.length_append]
  omega

variable {nodes targets arrange}

theorem mem_ready {done : List K} {k : K} :
    k ∈ ready nodes targets done ↔ k ∈ nodes ∧ k ∉ done ∧ ∀ d ∈ targets k, d ∈ done := by
  simp [ready]

variable (hn : nodes.Nodup) (harrange : ∀ xs, (arrange xs).Perm xs)
include hn harrange

theorem Layered.append {done : List K} (h : Layered nodes targets done) :
    Layered nodes targets (done++arrange (ready nodes targets done)) := by
  have hmem {k : K} : k ∈ arrange (ready nodes targets done) ↔
      k ∈ nodes ∧ k ∉ done ∧ ∀ d ∈ targets k, d ∈ done :=
    (harrange _).mem_iff.trans mem_ready
  refine ⟨?_,fun k hk => ?_,fun k hk d hd => ?_,fun k hk hcycle => ?_⟩
  · refine h.nodup.append ((harrange _).nodup_iff.mpr (hn.filter _)) fun k hk hlayer => ?_
    exact (hmem.mp hlayer).2.1 hk
  · exact (List.mem_append.mp hk).elim (h.subset k) fun hlayer => (hmem.mp hlayer).1
  · refine List.mem_append_left _ ?_
    exact (List.mem_append.mp hk).elim (h.closed k · d hd) fun hlayer => (hmem.mp hlayer).2.2 d hd
  · rcases List.mem_append.mp hk with hdone | hlayer
    · exact h.acyclic k hdone hcycle
    · -- the first step of a cycle leads into the nodes already done, which it cannot leave
      obtain ⟨d,hstep,hback⟩ := Relation.TransGen.head'_iff.mp hcycle
      exact (hmem.mp hlayer).2.1 (h.reach ((hmem.mp hlayer).2.2 d hstep.2) hback)

/-- The run keeps what its layers keep. -/
theorem layers_layered {done : List K} (h : Layered nodes targets done) :
    Layered nodes targets (layers nodes targets arrange done).1 := by
  fun_induction layers nodes targets arrange done with
  | case1 done hlt layer hempty => exact h
  | case2 done hlt layer hlayer ih => exact ih (h.append hn harrange)
  | case3 done hge => exact h

/-- It stops with all nodes done, or with no node ready. -/
theorem layers_stop {done : List K} (h : Layered nodes targets done) :
    if (layers nodes targets arrange done).2 then
      ∀ k ∈ nodes, k ∈ (layers nodes targets arrange done).1
    else (layers nodes targets arrange done).1.length < nodes.length ∧
      ready nodes targets (layers nodes targets arrange done).1 = [] := by
  fun_induction layers nodes targets arrange done with
  | case1 done hlt layer hempty =>
    have hnil := List.isEmpty_iff.mp hempty
    exact ⟨hlt,((harrange _).symm.trans (.of_eq hnil)).eq_nil⟩
  | case2 done hlt layer hlayer ih => exact ih (h.append hn harrange)
  | case3 done hge =>
    have hperm := List.subperm_of_subset h.nodup h.subset
    exact fun k hk => (hperm.perm_of_length_le (not_lt.mp hge)).mem_iff.mpr hk

/-- What stays behind when no node is ready: just what leads to a cycle. -/
theorem mem_layers_iff (hclosed : Closed nodes targets) {k : K} :
    k ∈ (layers nodes targets arrange []).1 ↔ k ∈ nodes ∧ ¬LeadsToCycle (Edge nodes targets) k := by
  have hnil : Layered nodes targets [] := .nil
  have hlayered := layers_layered hn harrange hnil
  have hstop := layers_stop hn harrange hnil
  set done := (layers nodes targets arrange []).1
  constructor
  · intro hk
    refine ⟨hlayered.subset k hk,?_⟩
    rintro ⟨c,hreach,hcycle⟩
    exact hlayered.acyclic c (hlayered.reach hk hreach) hcycle
  · rintro ⟨hk,hfree⟩
    split at hstop
    · exact hstop k hk
    · by_contra hopen
      classical
      -- what is left of the nodes that `k` leads to has no cycle, and so a last node
      let below (a b : K) : Prop :=
        Edge nodes targets a b ∧ Relation.ReflTransGen (Edge nodes targets) k a
      let left := nodes.filter fun a => a ∉ done ∧ Relation.ReflTransGen (Edge nodes targets) k a
      have hleft {a : K} : a ∈ left ↔ a ∈ nodes ∧ a ∉ done ∧
          Relation.ReflTransGen (Edge nodes targets) k a := by simp [left]
      have hbelow : Acyclic below := fun c hcycle => by
        obtain ⟨d,hstep,-⟩ := Relation.TransGen.head'_iff.mp hcycle
        exact hfree ⟨c,hstep.2,Relation.TransGen.mono (fun _ _ h => h.1) c c hcycle⟩
      obtain ⟨m,hm,hlast⟩ := hbelow.exists_last (List.ne_nil_of_mem (hleft.mpr ⟨hk,hopen,.refl⟩))
      obtain ⟨hm,hmopen,hreach⟩ := hleft.mp hm
      have hwaits : ¬∀ d ∈ targets m, d ∈ done := fun hdone =>
        List.not_mem_nil (hstop.2 ▸ mem_ready.mpr ⟨hm,hmopen,hdone⟩)
      push Not at hwaits
      obtain ⟨d,hd,hdopen⟩ := hwaits
      exact hlast d (hleft.mpr ⟨hclosed m hm d hd,hdopen,hreach.tail ⟨hm,hd⟩⟩) ⟨⟨hm,hd⟩,hreach⟩

/-- All nodes get done exactly when there is no cycle. -/
theorem layers_complete_iff (hclosed : Closed nodes targets) :
    (layers nodes targets arrange []).2 ↔ Acyclic (Edge nodes targets) := by
  have hnil : Layered nodes targets [] := .nil
  have hstop := layers_stop hn harrange hnil
  have hmem {k : K} := mem_layers_iff hn harrange hclosed (k := k)
  rw [acyclic_iff]
  constructor
  · intro hall k hleads
    rw [if_pos hall] at hstop
    have hk : k ∈ nodes := by
      obtain ⟨c,hreach,hcycle⟩ := hleads
      obtain ⟨d,hstep,-⟩ := Relation.TransGen.head'_iff.mp (.trans_right hreach hcycle)
      exact hstep.1
    exact (hmem.mp (hstop k hk)).2 hleads
  · intro hfree
    by_contra hstuck
    rw [if_neg hstuck] at hstop
    have hsub : nodes ⊆ (layers nodes targets arrange []).1 := fun k hk =>
      hmem.mpr ⟨hk,hfree k⟩
    exact absurd (List.subperm_of_subset hn hsub).length_le (not_le.mpr hstop.1)

omit hn in
theorem Sorted.append {done : List K} (h : Sorted targets done) :
    Sorted targets (done++arrange (ready nodes targets done)) := by
  intro l k r heq d hd
  rcases List.append_eq_append_iff.mp heq with ⟨l',rfl,hlayer⟩ | ⟨r',hdone,hrest⟩
  · have hk : k ∈ arrange (ready nodes targets done) := by
      rw [hlayer]
      exact List.mem_append_right _ List.mem_cons_self
    have hready := mem_ready.mp ((harrange _).mem_iff.mp hk)
    exact List.mem_append_left _ (hready.2.2 d hd)
  · cases r' with
    | nil =>
      have hk : k ∈ arrange (ready nodes targets done) := by
        rw [← List.nil_append (arrange _), ← hrest]
        exact List.mem_cons_self
      have hready := mem_ready.mp ((harrange _).mem_iff.mp hk)
      rw [List.append_nil] at hdone
      exact hdone ▸ hready.2.2 d hd
    | cons x r' =>
      obtain ⟨rfl,-⟩ := List.cons.inj hrest
      exact h l k r' hdone d hd

omit hn in
theorem layers_sorted {done : List K} (h : Sorted targets done) :
    Sorted targets (layers nodes targets arrange done).1 := by
  fun_induction layers nodes targets arrange done with
  | case1 done hlt layer hempty => exact h
  | case2 done hlt layer hlayer ih => exact ih (h.append harrange)
  | case3 done hge => exact h

omit hn harrange in
/-- The layers depend on what the nodes and the targets are, and not on how they are listed. -/
theorem layers_congr {nodes' : List K} {targets' : K → List K} (hnodes : nodes.Perm nodes')
    (htargets : ∀ k ∈ nodes, ∀ d, d ∈ targets k ↔ d ∈ targets' k)
    (harrange : ∀ xs ys, xs.Perm ys → arrange xs = arrange ys) (done : List K) :
    layers nodes targets arrange done = layers nodes' targets' arrange done := by
  have hready (done : List K) :
      (ready nodes targets done).Perm (ready nodes' targets' done) := by
    have hsame : ready nodes targets done = ready nodes targets' done := by
      refine List.filter_congr fun k hk => ?_
      have hall : (targets k).all (· ∈ done) = (targets' k).all (· ∈ done) := by
        rw [Bool.eq_iff_iff, List.all_eq_true, List.all_eq_true]
        exact forall_congr' fun d => imp_congr_left (htargets k hk d)
      rw [hall]
    exact hsame ▸ hnodes.filter _
  fun_induction layers nodes targets arrange done with
  | case1 done hlt layer hempty =>
    rw [layers, dif_pos (hnodes.length_eq ▸ hlt)]
    rw [dif_pos (harrange _ _ (hready done) ▸ hempty)]
  | case2 done hlt layer hlayer ih =>
    have hlayer' : layer = arrange (ready nodes' targets' done) := harrange _ _ (hready done)
    rw [ih, layers.eq_def nodes' targets' arrange done, dif_pos (hnodes.length_eq ▸ hlt)]
    rw [dif_neg (hlayer' ▸ hlayer), hlayer']
  | case3 done hge =>
    rw [layers, dif_neg (hnodes.length_eq ▸ hge)]

end Layers

/-! Visiting: a queue of nodes, each visited once and its targets put at the end. -/
section Visit
variable [DecidableEq K] (nodes : List K) (targets : K → List K)

variable {nodes} in
theorem unseen_lt {seen : List K} {k : K} (hk : k ∈ nodes) (hnew : k ∉ seen) :
    (nodes.filter (· ∉ seen++[k])).length < (nodes.filter (· ∉ seen)).length := by
  have hsplit : nodes.filter (· ∉ seen++[k]) = (nodes.filter (· ∉ seen)).filter (· ≠ k) := by
    rw [List.filter_filter]
    refine List.filter_congr fun x _ => ?_
    simp [and_comm]
  rw [hsplit, List.length_filter_lt_length_iff_exists]
  exact ⟨k,List.mem_filter.mpr ⟨hk,decide_eq_true hnew⟩,by simp⟩

/-- The nodes visited, in order; what is no node is passed over. -/
def visit (seen : List K) : List K → List K
  | [] => seen
  | k :: queue =>
    if _h : k ∈ seen ∨ k ∉ nodes then visit seen queue
    else visit (seen++[k]) (queue++targets k)
termination_by queue => ((nodes.filter (· ∉ seen)).length,queue.length)
decreasing_by
  · exact Prod.Lex.right _ (Nat.lt_succ_self _)
  · exact Prod.Lex.left _ _ (unseen_lt (not_not.mp (not_or.mp _h).2) (not_or.mp _h).1)

variable {nodes targets}

omit [DecidableEq K] in
/-- A path that starts among the nodes seen ends there or goes on from the queue. -/
theorem reach_seen {seen queue : List K} (h : ∀ a ∈ seen, ∀ b ∈ targets a, b ∈ seen ∨ b ∈ queue)
    {a k : K} (ha : a ∈ seen) (hr : Relation.ReflTransGen (Edge nodes targets) a k) :
    k ∈ seen ∨ ∃ q ∈ queue, Relation.ReflTransGen (Edge nodes targets) q k := by
  induction hr with
  | refl => exact .inl ha
  | tail _ hstep ih =>
    rcases ih with hin | ⟨q,hq,hr⟩
    · exact (h _ hin _ hstep.2).imp_right fun hq => ⟨_,hq,.refl⟩
    · exact .inr ⟨q,hq,hr.tail hstep⟩

/-- Whatever the queue leads to gets visited, and nothing else. -/
theorem mem_visit_iff (hclosed : Closed nodes targets) {seen queue : List K}
    (hqueue : ∀ q ∈ queue, q ∈ nodes)
    (hseen : ∀ a ∈ seen, ∀ b ∈ targets a, b ∈ seen ∨ b ∈ queue) (k : K) :
    k ∈ visit nodes targets seen queue ↔
      k ∈ seen ∨ ∃ q ∈ queue, Relation.ReflTransGen (Edge nodes targets) q k := by
  fun_induction visit nodes targets seen queue with
  | case1 seen => simp
  | case2 seen q queue hskip ih =>
    have hq : q ∈ seen := hskip.resolve_right (not_not.mpr (hqueue q List.mem_cons_self))
    have hrest : ∀ a ∈ seen, ∀ b ∈ targets a, b ∈ seen ∨ b ∈ queue := fun a ha b hb => by
      rcases hseen a ha b hb with hin | hin
      · exact .inl hin
      · rcases List.mem_cons.mp hin with rfl | hin
        · exact .inl hq
        · exact .inr hin
    rw [ih (fun a ha => hqueue a (List.mem_cons_of_mem _ ha)) hrest]
    constructor
    · exact Or.imp_right fun ⟨a,ha,hr⟩ => ⟨a,List.mem_cons_of_mem _ ha,hr⟩
    · rintro (hin | ⟨a,ha,hr⟩)
      · exact .inl hin
      · rcases List.mem_cons.mp ha with rfl | ha
        · exact reach_seen hrest hq hr
        · exact .inr ⟨a,ha,hr⟩
  | case3 seen q queue hnew ih =>
    have hq : q ∈ nodes := hqueue q List.mem_cons_self
    have hqueue' : ∀ a ∈ queue++targets q, a ∈ nodes := fun a ha =>
      (List.mem_append.mp ha).elim (fun ha => hqueue a (List.mem_cons_of_mem _ ha)) (hclosed q hq a)
    have hseen' : ∀ a ∈ seen++[q], ∀ b ∈ targets a, b ∈ seen++[q] ∨ b ∈ queue++targets q := by
      intro a ha b hb
      simp only [List.mem_append, List.mem_singleton] at ha ⊢
      rcases ha with ha | rfl
      · have hin := hseen a ha b hb
        rw [List.mem_cons] at hin
        tauto
      · exact .inr (.inr hb)
    rw [ih hqueue' hseen']
    simp only [List.mem_append, List.mem_cons, List.not_mem_nil, or_false]
    constructor
    · rintro ((hin | rfl) | ⟨a,ha | ha,hr⟩)
      · exact .inl hin
      · exact .inr ⟨k,.inl rfl,.refl⟩
      · exact .inr ⟨a,.inr ha,hr⟩
      · exact .inr ⟨q,.inl rfl,hr.head ⟨hq,ha⟩⟩
    · rintro (hin | ⟨a,rfl | ha,hr⟩)
      · exact .inl (.inl hin)
      · rcases hr.cases_head with rfl | ⟨d,hstep,hr⟩
        · exact .inl (.inr rfl)
        · exact .inr ⟨d,.inr hstep.2,hr⟩
      · exact .inr ⟨a,.inl ha,hr⟩

end Visit
end FiniteGraphs
