import Saex.WorldPlanRules

/-! The orders that the validator gives: they are determined by the graph, and so by what a
plan defines and not by where it does. -/
namespace Saex
open FiniteGraphs Reorderings

namespace WorldPlanValidator

theorem ordinalOrder_perm (ids : List Utf16) : (ordinalOrder ids).Perm ids :=
  List.mergeSort_perm ids _

/-- Names in ordinal order are the same for every listing of them. -/
theorem ordinalOrder_congr {ids ids' : List Utf16} (h : ids.Perm ids') :
    ordinalOrder ids = ordinalOrder ids' := by
  have hsorted (ids : List Utf16) : (ordinalOrder ids).Pairwise fun a b => decide (a ≤ b) = true := by
    refine List.pairwise_mergeSort (fun a b c hab hbc => ?_) (fun a b => ?_) ids
    · rw [decide_eq_true_eq] at hab hbc ⊢
      exact List.le_trans hab hbc
    · rw [Bool.or_eq_true, decide_eq_true_eq, decide_eq_true_eq]
      exact List.le_total a b
  have hperm : (ordinalOrder ids).Perm (ordinalOrder ids') :=
    (ordinalOrder_perm ids).trans (h.trans (ordinalOrder_perm ids').symm)
  refine hperm.eq_of_pairwise (fun a b _ _ hab hba => ?_) (hsorted ids) (hsorted ids')
  rw [decide_eq_true_eq] at hab hba
  exact List.le_antisymm hab hba

section Order
variable {edges edges' : Dictionary Utf16 (List Utf16)}

theorem sort_congr (hkeys : edges.keys.Perm edges'.keys)
    (htargets : ∀ k ∈ edges.keys, ∀ d, d ∈ targets edges k ↔ d ∈ targets edges' k)
    (path : String) : sort edges path = sort edges' path := by
  have hlayers := layers_congr hkeys htargets (fun _ _ => ordinalOrder_congr) []
  have hleft (done : List Utf16) : ordinalOrder (edges.keys.filter (· ∉ done)) =
      ordinalOrder (edges'.keys.filter (· ∉ done)) := ordinalOrder_congr (hkeys.filter _)
  simp only [sort, hlayers, hleft]

/-- Graphs with the same nodes and the same edges have one order. -/
theorem sort_eq_of_edge (hkeys : ∀ k, k ∈ edges.keys ↔ k ∈ edges'.keys)
    (hedge : Edge edges.keys (targets edges) = Edge edges'.keys (targets edges'))
    (path : String) : sort edges path = sort edges' path := by
  refine sort_congr ((List.perm_ext_iff_of_nodup edges.keys_nodup edges'.keys_nodup).mpr hkeys)
    (fun k hk d => ?_) path
  have hstep := iff_of_eq (congrFun₂ hedge k d)
  exact ⟨fun hd => (hstep.mp ⟨hk,hd⟩).2,fun hd => (hstep.mpr ⟨(hkeys k).mp hk,hd⟩).2⟩

variable (hclosed : Closed edges.keys (targets edges))
include hclosed

theorem mem_sort_iff (path : String) {k : Utf16} : k ∈ (sort edges path).1 ↔
    k ∈ edges.keys ∧ ¬LeadsToCycle (Edge edges.keys (targets edges)) k :=
  mem_layers_iff edges.keys_nodup ordinalOrder_perm hclosed

/-- A cycle is one issue. -/
theorem sort_issue (path : String) (h : ¬Acyclic (Edge edges.keys (targets edges))) :
    ∃ message, (sort edges path).2 = [⟨"dependency_cycle",utf16 path,message⟩] := by
  rw [← layers_complete_iff edges.keys_nodup ordinalOrder_perm hclosed] at h
  exact ⟨_,by rw [sort]; exact if_neg h⟩

theorem sort_complete_iff (path : String) : (∀ k ∈ edges.keys, k ∈ (sort edges path).1) ↔
    Acyclic (Edge edges.keys (targets edges)) := by
  rw [acyclic_iff]
  constructor
  · intro hall k hleads
    have hk : k ∈ edges.keys := by
      obtain ⟨c,hreach,hcycle⟩ := hleads
      obtain ⟨d,hstep,-⟩ := Relation.TransGen.head'_iff.mp (.trans_right hreach hcycle)
      exact hstep.1
    exact ((mem_sort_iff hclosed path).mp (hall k hk)).2 hleads
  · exact fun hfree k hk => (mem_sort_iff hclosed path).mpr ⟨hk,hfree k⟩

end Order
end WorldPlanValidator

open WorldPlanValidator

/-- Every key that leads to no cycle, once and behind its targets; all of them, and without an
issue, exactly where there is no cycle; and the same for every listing of the graph. -/
theorem sort_canonical (edges : Dictionary Utf16 (List Utf16)) (path : String)
    (hclosed : Closed edges.keys (targets edges)) :
    (sort edges path).1.Nodup ∧ Sorted (targets edges) (sort edges path).1 ∧
      (∀ k, k ∈ (sort edges path).1 ↔
        k ∈ edges.keys ∧ ¬LeadsToCycle (Edge edges.keys (targets edges)) k) ∧
      ((∀ k ∈ edges.keys, k ∈ (sort edges path).1) ↔
        Acyclic (Edge edges.keys (targets edges))) ∧
      ((sort edges path).2 = [] ↔ Acyclic (Edge edges.keys (targets edges))) ∧
      (¬Acyclic (Edge edges.keys (targets edges)) → ∃ message,
        (sort edges path).2 = [⟨"dependency_cycle",utf16 path,message⟩]) ∧
      ∀ edges' : Dictionary Utf16 (List Utf16), edges.keys.Perm edges'.keys →
        (∀ k ∈ edges.keys, ∀ d, d ∈ targets edges k ↔ d ∈ targets edges' k) →
        sort edges' path = sort edges path := by
  have hlayered : Layered edges.keys (targets edges) (sort edges path).1 :=
    layers_layered edges.keys_nodup ordinalOrder_perm .nil
  have hempty : Sorted (targets edges) [] := fun l k r h => by simp at h
  refine ⟨hlayered.nodup,layers_sorted ordinalOrder_perm hempty,fun k => mem_sort_iff hclosed path,
    sort_complete_iff hclosed path,sort_nil_iff hclosed,sort_issue hclosed path,?_⟩
  exact fun edges' hkeys htargets => (sort_congr hkeys htargets path).symm

/-- `a` needs `b`, and `c` needs itself. -/
def selfDependent : Dictionary Utf16 (List Utf16) :=
  ⟨[([97],[[98]]),([98],[]),([99],[[99],[98]])],by decide⟩

theorem sort_canonical_self_dependent : Closed selfDependent.keys (targets selfDependent) ∧
    (sort selfDependent "resources").1.Nodup ∧
      ((sort selfDependent "resources").2 = [] ↔
        Acyclic (Edge selfDependent.keys (targets selfDependent))) := by
  have hclosed : Closed selfDependent.keys (targets selfDependent) := by
    unfold Closed
    decide
  obtain ⟨hnodup,_,_,_,hissue,_⟩ := sort_canonical selfDependent "resources" hclosed
  exact ⟨hclosed,hnodup,hissue⟩

/-! Plans with the same definitions in another order. -/

/-- The same definition, with its names in another order. -/
structure ResourceInput.Same (r r' : ResourceInput) : Prop where
  id : r.id = r'.id
  artifactDigest : r.artifactDigest = r'.artifactDigest
  dependencies : r.dependencies.Perm r'.dependencies
  provides : r.provides.Perm r'.provides
  requires : r.requires.Perm r'.requires
  mutates : r.mutates.Perm r'.mutates

structure AssetInput.Same (a a' : AssetInput) : Prop where
  id : a.id = a'.id
  artifactDigest : a.artifactDigest = a'.artifactDigest
  dependencies : a.dependencies.Perm a'.dependencies
  gameplayCritical : a.gameplayCritical = a'.gameplayCritical
  optionalDownload : a.optionalDownload = a'.optionalDownload

structure WorldPlanInput.Same (p p' : WorldPlanInput) : Prop where
  schemaVersion : p.schemaVersion = p'.schemaVersion
  worldId : p.worldId = p'.worldId
  resources : Reordered (Option.Rel ResourceInput.Same) p.resources p'.resources
  assets : Reordered (Option.Rel AssetInput.Same) p.assets p'.assets
  requiredCapabilities : p.requiredCapabilities.Perm p'.requiredCapabilities
  availableCapabilities : p.availableCapabilities.Perm p'.availableCapabilities
  recovery : p.recovery = p'.recovery

theorem ResourceInput.Same.symm (r r' : ResourceInput) (h : Same r r') : Same r' r :=
  ⟨h.id.symm,h.artifactDigest.symm,h.dependencies.symm,h.provides.symm,h.requires.symm,
    h.mutates.symm⟩

theorem AssetInput.Same.symm (a a' : AssetInput) (h : Same a a') : Same a' a :=
  ⟨h.id.symm,h.artifactDigest.symm,h.dependencies.symm,h.gameplayCritical.symm,
    h.optionalDownload.symm⟩

theorem WorldPlanInput.Same.symm {p p' : WorldPlanInput} (h : Same p p') : Same p' p :=
  ⟨h.schemaVersion.symm,h.worldId.symm,
    h.resources.symm (optionRel_symm ResourceInput.Same.symm),
    h.assets.symm (optionRel_symm AssetInput.Same.symm),h.requiredCapabilities.symm,
    h.availableCapabilities.symm,h.recovery.symm⟩

theorem NameList.perm {names names' : List (Option Utf16)} (h : NameList names)
    (hperm : names.Perm names') : NameList names' :=
  ⟨hperm.length_eq ▸ h.bound,fun n hn => h.identifiers n (hperm.mem_iff.mpr hn),
    hperm.nodup_iff.mp h.distinct⟩

section Resources
variable {rs rs' : List ResourceInput} (hsame : Reordered ResourceInput.Same rs rs')
include hsame

theorem resource_ids_perm : (rs.map (·.id)).Perm (rs'.map (·.id)) :=
  hsame.map_perm fun _ _ h => h.id

/-- An edge goes from id to id, and so it is found in the other list too. -/
theorem ResourceEdge.reordered {a b : Utf16} (h : ResourceEdge rs a b) : ResourceEdge rs' a b := by
  obtain ⟨r,hr,rfl,hstep⟩ := h
  obtain ⟨r',hr',hrr⟩ := hsame.exists_of_mem hr
  refine ⟨r',hr',hrr.id.symm,?_⟩
  rcases hstep with hd | ⟨hne,p,hp,rfl,s,hs,hprovides⟩
  · exact .inl (hrr.dependencies.mem_iff.mp hd)
  · obtain ⟨p',hp',hpp⟩ := hsame.exists_of_mem hp
    exact .inr ⟨hne,p',hp',hpp.id.symm,s,hrr.requires.mem_iff.mp hs,hpp.provides.mem_iff.mp hprovides⟩

theorem resourceEdge_eq : ResourceEdge rs = ResourceEdge rs' := by
  ext a b
  exact ⟨fun h => h.reordered hsame,fun h => h.reordered (hsame.symm ResourceInput.Same.symm)⟩

theorem ResourcePlan.reordered (h : ResourcePlan rs) : ResourcePlan rs' := by
  have hback {r' : ResourceInput} (hr' : r' ∈ rs') : ∃ r ∈ rs, r'.Same r :=
    (hsame.symm ResourceInput.Same.symm).exists_of_mem hr'
  have hdistinct : (rs'.map (·.id)).Nodup := (resource_ids_perm hsame).nodup_iff.mp h.distinct
  -- two resources that share a name are one, and so are those with their ids
  have hone (names : ResourceInput → List (Option Utf16))
      (hnames : ∀ r r', r.Same r' → (names r).Perm (names r'))
      (huse : ∀ p ∈ rs, ∀ q ∈ rs, ∀ s, some s ∈ names p → some s ∈ names q → p = q) :
      ∀ p ∈ rs', ∀ q ∈ rs', ∀ s, some s ∈ names p → some s ∈ names q → p = q := by
    intro p' hp' q' hq' s hp hq
    obtain ⟨p,hpin,hpp⟩ := hback hp'
    obtain ⟨q,hqin,hqq⟩ := hback hq'
    have hpq : p = q := huse p hpin q hqin s ((hnames _ _ hpp).mem_iff.mp hp)
      ((hnames _ _ hqq).mem_iff.mp hq)
    have hids : p'.id = q'.id := by rw [hpp.id, hqq.id, hpq]
    exact List.inj_on_of_nodup_map hdistinct hp' hq' hids
  constructor
  case each =>
    intro r' hr'
    obtain ⟨r,hr,hrr⟩ := hback hr'
    have hrules := h.each r hr
    exact ⟨hrr.id ▸ hrules.id,hrr.artifactDigest ▸ hrules.artifactDigest,
      hrules.dependencies.perm hrr.dependencies.symm,hrules.provides.perm hrr.provides.symm,
      hrules.requires.perm hrr.requires.symm,hrules.mutates.perm hrr.mutates.symm⟩
  case distinct => exact hdistinct
  case oneProvider => exact hone _ (fun _ _ h => h.provides) h.oneProvider
  case oneMutator => exact hone _ (fun _ _ h => h.mutates) h.oneMutator
  case dependencies =>
    intro r' hr' d hd
    obtain ⟨r,hr,hrr⟩ := hback hr'
    obtain ⟨p,hp,hid⟩ := h.dependencies r hr d (hrr.dependencies.mem_iff.mp hd)
    obtain ⟨p',hp',hpp⟩ := hsame.exists_of_mem hp
    exact ⟨p',hp',hpp.id ▸ hid⟩
  case requires =>
    intro r' hr' s hs
    obtain ⟨r,hr,hrr⟩ := hback hr'
    obtain ⟨p,hp,hprovides⟩ := h.requires r hr s (hrr.requires.mem_iff.mp hs)
    obtain ⟨p',hp',hpp⟩ := hsame.exists_of_mem hp
    exact ⟨p',hp',hpp.provides.mem_iff.mp hprovides⟩
  case acyclic => exact resourceEdge_eq hsame ▸ h.acyclic

end Resources

section Assets
variable {as as' : List AssetInput} (hsame : Reordered AssetInput.Same as as')
include hsame

theorem AssetEdge.reordered {x y : Utf16} (h : AssetEdge as x y) : AssetEdge as' x y := by
  obtain ⟨a,ha,rfl,hd⟩ := h
  obtain ⟨a',ha',haa⟩ := hsame.exists_of_mem ha
  exact ⟨a',ha',haa.id.symm,haa.dependencies.mem_iff.mp hd⟩

theorem assetEdge_eq : AssetEdge as = AssetEdge as' := by
  ext x y
  exact ⟨fun h => h.reordered hsame,fun h => h.reordered (hsame.symm AssetInput.Same.symm)⟩

theorem AssetPlan.reordered (h : AssetPlan as) : AssetPlan as' := by
  have hback {a' : AssetInput} (ha' : a' ∈ as') : ∃ a ∈ as, a'.Same a :=
    (hsame.symm AssetInput.Same.symm).exists_of_mem ha'
  constructor
  case each =>
    intro a' ha'
    obtain ⟨a,ha,haa⟩ := hback ha'
    have hrules := h.each a ha
    exact ⟨haa.id ▸ hrules.id,haa.artifactDigest ▸ hrules.artifactDigest,
      haa.dependencies.length_eq ▸ hrules.bound,
      fun n hn => hrules.dependencies n (haa.dependencies.mem_iff.mp hn),
      haa.dependencies.nodup_iff.mpr hrules.distinct⟩
  case distinct => exact (hsame.map_perm fun _ _ h => h.id).nodup_iff.mp h.distinct
  case dependencies =>
    intro a' ha' d hd
    obtain ⟨a,ha,haa⟩ := hback ha'
    obtain ⟨b,hb,hid⟩ := h.dependencies a ha d (haa.dependencies.mem_iff.mp hd)
    obtain ⟨b',hb',hbb⟩ := hsame.exists_of_mem hb
    exact ⟨b',hb',hbb.id ▸ hid⟩
  case acyclic => exact assetEdge_eq hsame ▸ h.acyclic
  case critical =>
    intro a' ha' hcritical b' hb' hreach
    obtain ⟨a,ha,haa⟩ := hback ha'
    obtain ⟨b,hb,hbb⟩ := hback hb'
    rw [← assetEdge_eq hsame, haa.id, hbb.id] at hreach
    rw [hbb.optionalDownload]
    exact h.critical a ha (haa.gameplayCritical ▸ hcritical) b hb hreach

end Assets

theorem WithinLimits.same {p p' : WorldPlanInput} (h : WithinLimits p) (hsame : p.Same p') :
    WithinLimits p' :=
  ⟨hsame.resources.length_eq ▸ h.resources,hsame.assets.length_eq ▸ h.assets,
    hsame.requiredCapabilities.length_eq ▸ h.requiredCapabilities,
    hsame.availableCapabilities.length_eq ▸ h.availableCapabilities⟩

theorem PlanRules.same {p p' : WorldPlanInput} {rs rs' : List ResourceInput}
    {as as' : List AssetInput} (h : PlanRules p rs as) (hsame : p.Same p')
    (hrs : Reordered ResourceInput.Same rs rs') (has : Reordered AssetInput.Same as as') :
    PlanRules p' rs' as' where
  schema := hsame.schemaVersion ▸ h.schema
  worldId := hsame.worldId ▸ h.worldId
  resources := h.resources.reordered hrs
  assets := h.assets.reordered has
  required := h.required.perm hsame.requiredCapabilities
  available := h.available.perm hsame.availableCapabilities
  capabilities c hc := hsame.availableCapabilities.mem_iff.mp
    (h.capabilities c (hsame.requiredCapabilities.mem_iff.mpr hc))
  recovery := hsame.recovery ▸ h.recovery

/-! The orders of plans with the same definitions. -/

namespace WorldPlanValidator

theorem resourceGraph_keys {rs : List ResourceInput} (h : ResourcePlan rs) {k : Utf16} :
    k ∈ (resourceGraph rs).1.keys ↔ k ∈ rs.map (·.id) := by
  have hnil := ((resourceIssues_iff rs).mpr h).1
  rw [resourceGraph, buildGraph, Dictionary.keys_mapValues, resources_keys hnil, List.mem_map]

theorem edge_resourcePlan {rs : List ResourceInput} (h : ResourcePlan rs) :
    Edge (resourceGraph rs).1.keys (targets (resourceGraph rs).1) = ResourceEdge rs := by
  have hnil := ((resourceIssues_iff rs).mpr h).1
  ext a b
  exact edge_resourceGraph hnil h.dependencies

theorem sort_resources_reordered {rs rs' : List ResourceInput} (h : ResourcePlan rs)
    (hsame : Reordered ResourceInput.Same rs rs') (path : String) :
    sort (resourceGraph rs).1 path = sort (resourceGraph rs').1 path := by
  have h' : ResourcePlan rs' := h.reordered hsame
  refine sort_eq_of_edge (fun k => ?_) ?_ path
  · rw [resourceGraph_keys h, resourceGraph_keys h', (resource_ids_perm hsame).mem_iff]
  · rw [edge_resourcePlan h, edge_resourcePlan h', resourceEdge_eq hsame]

theorem sort_assets_reordered {as as' : List AssetInput} (h : AssetPlan as)
    (hsame : Reordered AssetInput.Same as as') (path : String) :
    sort (assetGraph as).1 path = sort (assetGraph as').1 path := by
  have h' : AssetPlan as' := h.reordered hsame
  have hnil := ((assetIssues_iff as).mpr h).1
  have hnil' := ((assetIssues_iff as').mpr h').1
  have hids : (as.map (·.id)).Perm (as'.map (·.id)) := hsame.map_perm fun _ _ h => h.id
  refine sort_eq_of_edge (fun k => ?_) ?_ path
  · rw [assetGraph_keys hnil, assetGraph_keys hnil', ← List.mem_map, ← List.mem_map, hids.mem_iff]
  · rw [edge_assetGraph hnil h.dependencies, edge_assetGraph hnil' h'.dependencies,
      assetEdge_eq hsame]

/-- The orders of a plan that can be looked at. -/
theorem validate_orders {input : WorldPlanInput} {rs : List ResourceInput} {as : List AssetInput}
    (hlimits : WithinLimits input) (hrs : input.resources = rs.map some)
    (has : input.assets = as.map some) (sourceDigest : Utf16) :
    (validate sourceDigest input).resourceOrder = (sort (resourceGraph rs).1 "resources").1 ∧
      (validate sourceDigest input).assetOrder = (sort (assetGraph as).1 "assets").1 := by
  obtain ⟨hnull,rfl⟩ := eq_map_some_iff.mp hrs
  obtain ⟨hnull',rfl⟩ := eq_map_some_iff.mp has
  have hlimit := (not_overLimit_iff input).mpr hlimits
  rw [validate, hlimit, if_neg Bool.false_ne_true, if_neg (by simp [hnull, hnull'])]
  exact ⟨rfl,rfl⟩

/-- A valid plan stays valid, and its orders stay. -/
theorem validate_same {p p' : WorldPlanInput} (hsame : p.Same p') (sourceDigest sourceDigest' : Utf16)
    (hvalid : (validate sourceDigest p).valid) : (validate sourceDigest' p').valid ∧
      (validate sourceDigest p).resourceOrder = (validate sourceDigest' p').resourceOrder ∧
      (validate sourceDigest p).assetOrder = (validate sourceDigest' p').assetOrder := by
  obtain ⟨hlimits,rs,as,hrs,has,hrules⟩ := rules_of_valid hvalid
  obtain ⟨rs',hrs',hresources⟩ := (hrs ▸ hsame.resources).of_some
  obtain ⟨as',has',hassets⟩ := (has ▸ hsame.assets).of_some
  have hlimits' : WithinLimits p' := hlimits.same hsame
  obtain ⟨horder,hassetOrder⟩ := validate_orders hlimits hrs has sourceDigest
  obtain ⟨horder',hassetOrder'⟩ := validate_orders hlimits' hrs' has' sourceDigest'
  refine ⟨valid_of_rules hlimits' hrs' has' (hrules.same hsame hresources hassets),?_,?_⟩
  · rw [horder, horder', sort_resources_reordered hrules.resources hresources]
  · rw [hassetOrder, hassetOrder', sort_assets_reordered hrules.assets hassets]

end WorldPlanValidator

/-- Whether a plan is valid, and its orders when it is, do not depend on the order of its
definitions. -/
theorem validate_order_independent (sourceDigest sourceDigest' : Utf16) (p p' : WorldPlanInput)
    (hsame : p.Same p') :
    (validate sourceDigest p).valid = (validate sourceDigest' p').valid ∧
      ((validate sourceDigest p).valid →
        (validate sourceDigest p).resourceOrder = (validate sourceDigest' p').resourceOrder ∧
        (validate sourceDigest p).assetOrder = (validate sourceDigest' p').assetOrder) := by
  refine ⟨?_,fun hvalid => (validate_same hsame sourceDigest sourceDigest' hvalid).2⟩
  rw [Bool.eq_iff_iff]
  exact ⟨fun h => (validate_same hsame sourceDigest sourceDigest' h).1,
    fun h => (validate_same hsame.symm sourceDigest' sourceDigest h).1⟩

/-- The harbor with the second resource first, and names and assets the other way round. -/
def reversedHarborPlan : WorldPlanInput where
  schemaVersion := 1
  worldId := utf16 "sample.world"
  resources := [some ⟨utf16 "sample.harbor",List.replicate 64 48,[some (utf16 "saex.foundation")],
      [],[some (utf16 "world.state"),some (utf16 "world.clock")],[]⟩,
    some ⟨utf16 "saex.foundation",List.replicate 64 48,[],[some (utf16 "world.clock"),
      some (utf16 "world.state")],[],[]⟩]
  assets := [some modelAsset,some textureAsset]
  requiredCapabilities := []
  availableCapabilities := [some (utf16 "state"),some (utf16 "clock")]
  recovery := ⟨1,1,1,1,1,1,1,0,0⟩

theorem harbor_plan_order_independent : (validate [] reversedHarborPlan).valid ∧
    (validate [] (harborPlan (utf16 "sample.world"))).resourceOrder =
      (validate [] reversedHarborPlan).resourceOrder ∧
    (validate [] (harborPlan (utf16 "sample.world"))).assetOrder =
      (validate [] reversedHarborPlan).assetOrder := by
  have hresources : Reordered (Option.Rel ResourceInput.Same)
      [some foundationResource,some harborResource] reversedHarborPlan.resources :=
    ⟨_,.swap _ _ _,.cons (.some ⟨rfl,rfl,.refl _,.refl _,.swap _ _ _,.refl _⟩)
      (.cons (.some ⟨rfl,rfl,.refl _,.swap _ _ _,.refl _,.refl _⟩) .nil)⟩
  have hassets : Reordered (Option.Rel AssetInput.Same)
      [some textureAsset,some modelAsset] reversedHarborPlan.assets :=
    ⟨_,.swap _ _ _,.cons (.some ⟨rfl,rfl,.refl _,rfl,rfl⟩)
      (.cons (.some ⟨rfl,rfl,.refl _,rfl,rfl⟩) .nil)⟩
  have hsame : (harborPlan (utf16 "sample.world")).Same reversedHarborPlan :=
    ⟨rfl,rfl,hresources,hassets,.refl _,.swap _ _ _,rfl⟩
  have hvalid := @harborPlan_valid (utf16 "sample.world") (by decide) []
  obtain ⟨hiff,horders⟩ := validate_order_independent [] [] _ reversedHarborPlan hsame
  exact ⟨hiff ▸ hvalid,horders hvalid⟩

end Saex
