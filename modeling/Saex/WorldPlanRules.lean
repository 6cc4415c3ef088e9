import Mathlib.Data.List.Dedup
import Saex.Reorderings
import Saex.WorldPlan

/-! What a world plan has to satisfy, and that the validator reports no issue exactly when
it does. -/
namespace Saex
open FiniteGraphs Reorderings WorldPlanValidator

/-- A bounded list of distinct identifiers. -/
structure NameList (names : List (Option Utf16)) : Prop where
  bound : names.length ≤ 128
  identifiers : ∀ n ∈ names, identifier n
  distinct : names.Nodup

structure ResourceRules (r : ResourceInput) : Prop where
  id : identifier (some r.id)
  artifactDigest : digest r.artifactDigest
  dependencies : NameList r.dependencies
  provides : NameList r.provides
  requires : NameList r.requires
  mutates : NameList r.mutates

structure AssetRules (a : AssetInput) : Prop where
  id : assetIdentifier (some a.id)
  artifactDigest : digest a.artifactDigest
  bound : a.dependencies.length ≤ 256
  dependencies : ∀ n ∈ a.dependencies, assetIdentifier n
  distinct : a.dependencies.Nodup

/-- A declared dependency, or a resource other than itself that provides a required service. -/
def ResourceEdge (rs : List ResourceInput) (a b : Utf16) : Prop :=
  ∃ r ∈ rs, r.id = a ∧ (some b ∈ r.dependencies ∨
    b ≠ a ∧ ∃ p ∈ rs, p.id = b ∧ ∃ s, some s ∈ r.requires ∧ some s ∈ p.provides)

def AssetEdge (as : List AssetInput) (a b : Utf16) : Prop :=
  ∃ x ∈ as, x.id = a ∧ some b ∈ x.dependencies

structure RecoveryRules (b : RecoveryInput) : Prop where
  actor : 0 < b.maxActorOperations ∧ b.maxActorOperations ≤ 32
  resource : b.maxActorOperations ≤ b.maxResourceOperations ∧ b.maxResourceOperations ≤ 128
  world : b.maxResourceOperations ≤ b.maxWorldOperations ∧ b.maxWorldOperations ≤ 1024
  process : b.maxWorldOperations ≤ b.maxProcessOperations ∧ b.maxProcessOperations ≤ 4096
  queued : 0 < b.maxQueuedBytes ∧ b.maxQueuedBytes ≤ 8388608
  baseline : 0 < b.maxBaselineBytes ∧ b.maxBaselineBytes ≤ 8388608
  timeout : 0 < b.syncTimeoutMilliseconds ∧ b.syncTimeoutMilliseconds ≤ 30000
  syncRestarts : 0 ≤ b.maxSyncRestarts ∧ b.maxSyncRestarts ≤ 2
  workerRestarts : 0 ≤ b.maxWorkerRestarts ∧ b.maxWorkerRestarts ≤ 3

/-- The rules about the resources. -/
structure ResourcePlan (rs : List ResourceInput) : Prop where
  each : ∀ r ∈ rs, ResourceRules r
  distinct : (rs.map (·.id)).Nodup
  oneProvider : ∀ p ∈ rs, ∀ q ∈ rs, ∀ s, some s ∈ p.provides → some s ∈ q.provides → p = q
  oneMutator : ∀ p ∈ rs, ∀ q ∈ rs, ∀ s, some s ∈ p.mutates → some s ∈ q.mutates → p = q
  dependencies : ∀ r ∈ rs, ∀ d, some d ∈ r.dependencies → ∃ p ∈ rs, p.id = d
  requires : ∀ r ∈ rs, ∀ s, some s ∈ r.requires → ∃ p ∈ rs, some s ∈ p.provides
  acyclic : Acyclic (ResourceEdge rs)

/-- The rules about the assets. -/
structure AssetPlan (as : List AssetInput) : Prop where
  each : ∀ a ∈ as, AssetRules a
  distinct : (as.map (·.id)).Nodup
  dependencies : ∀ a ∈ as, ∀ d, some d ∈ a.dependencies → ∃ b ∈ as, b.id = d
  acyclic : Acyclic (AssetEdge as)
  critical : ∀ a ∈ as, a.gameplayCritical → ∀ b ∈ as,
    Relation.ReflTransGen (AssetEdge as) a.id b.id → ¬b.optionalDownload

structure PlanRules (input : WorldPlanInput) (rs : List ResourceInput) (as : List AssetInput) :
    Prop where
  schema : input.schemaVersion = 1
  worldId : identifier (some input.worldId)
  resources : ResourcePlan rs
  assets : AssetPlan as
  required : NameList input.requiredCapabilities
  available : NameList input.availableCapabilities
  capabilities : ∀ c ∈ input.requiredCapabilities, c ∈ input.availableCapabilities
  recovery : RecoveryRules input.recovery

structure WithinLimits (input : WorldPlanInput) : Prop where
  resources : input.resources.length ≤ 64
  assets : input.assets.length ≤ 256
  requiredCapabilities : input.requiredCapabilities.length ≤ 128
  availableCapabilities : input.availableCapabilities.length ≤ 128

namespace WorldPlanValidator

@[simp] theorem report_nil_iff {c : Bool} {code : String} {path : Utf16} {message : String} :
    report c code path message = [] ↔ c = false := by
  cases c <;> simp [report]

theorem repeats_iff {names : List (Option Utf16)} : repeats names = false ↔ names.Nodup := by
  rw [repeats, decide_eq_false_iff_not, ne_eq, not_not]
  constructor
  · intro h
    rw [← (List.dedup_sublist names).eq_of_length h]
    exact List.nodup_dedup names
  · intro h
    rw [h.dedup]

theorem checkNames_nil_iff {names : List (Option Utf16)} {path : Utf16} :
    checkNames names path = [] ↔ NameList names := by
  rw [checkNames, List.append_eq_nil_iff, report_nil_iff, report_nil_iff, repeats_iff]
  simp only [Bool.or_eq_false_iff, decide_eq_false_iff_not, not_lt, List.any_eq_false,
    Bool.not_eq_true', Bool.not_eq_false]
  exact ⟨fun ⟨⟨h1,h2⟩,h3⟩ => ⟨h1,h2,h3⟩,fun ⟨h1,h2,h3⟩ => ⟨⟨h1,h2⟩,h3⟩⟩

section Names
variable {accepted : Option Utf16 → Bool} {names : List (Option Utf16)}

theorem mem_wellNamed {s : Utf16} :
    s ∈ wellNamed accepted names ↔ some s ∈ names ∧ accepted (some s) := by
  rw [wellNamed, List.reduceOption_mem_iff, List.mem_filter]

/-- Where all names satisfy the predicate, none is left out. -/
theorem mem_wellNamed_of_all (h : ∀ n ∈ names, accepted n) {s : Utf16} :
    s ∈ wellNamed accepted names ↔ some s ∈ names :=
  mem_wellNamed.trans ⟨And.left,fun hs => ⟨hs,h _ hs⟩⟩

theorem wellNamed_nodup (h : names.Nodup) : (wellNamed accepted names).Nodup := by
  rw [wellNamed, List.reduceOption]
  refine (h.filter _).filterMap ?_
  rintro _ _ s rfl h
  exact h.symm

end Names

theorem claimNames_nil_iff {owners : Dictionary Utf16 Utf16} {names : List (Option Utf16)}
    {id : Utf16} {code : String} {path : Utf16} :
    (claimNames owners names id code path).2 = [] ↔
      (owners.keys++wellNamed identifier names).Nodup := by
  have hkeys : ((wellNamed identifier names).map (·,id)).map Prod.fst =
      wellNamed identifier names := by simp [List.map_map, Function.comp_def]
  rw [claimNames, List.map_eq_nil_iff, Dictionary.addAll_refused_iff, hkeys]

theorem claimNames_entries {owners : Dictionary Utf16 Utf16} {names : List (Option Utf16)}
    (h : (owners.keys++wellNamed identifier names).Nodup) (id : Utf16) (code : String)
    (path : Utf16) : (claimNames owners names id code path).1.entries =
      owners.entries++(wellNamed identifier names).map (·,id) := by
  have hnil : (claimNames owners names id code path).2 = [] := claimNames_nil_iff.mpr h
  rw [claimNames, List.map_eq_nil_iff] at hnil
  exact Dictionary.addAll_entries hnil

/-! The loop over the resources: no issue means that every one follows its rules and that
neither its id nor what it provides or mutates was taken. -/
section Resources
variable (t : ResourceTables)

theorem addResource_nil_iff (r : ResourceInput) : (addResource t r).2 = [] ↔
    ResourceRules r ∧ r.id ∉ t.resources.keys ∧
      (t.services.keys++wellNamed identifier r.provides).Nodup ∧
      (t.mutators.keys++wellNamed identifier r.mutates).Nodup := by
  rw [addResource]
  split
  · rename_i hid
    refine iff_of_false (List.cons_ne_nil _ _) fun h => ?_
    rw [h.1.id] at hid
    cases hid
  · rename_i hid
    simp only [List.append_eq_nil_iff, report_nil_iff, checkNames_nil_iff, claimNames_nil_iff,
      Bool.not_eq_false', Dictionary.tryAdd_added_iff]
    rw [Bool.not_eq_true, Bool.not_eq_false'] at hid
    constructor
    · rintro ⟨⟨⟨⟨⟨⟨⟨h1,h2⟩,h3⟩,h4⟩,h5⟩,h6⟩,h7⟩,h8⟩
      exact ⟨⟨hid,h2,h3,h5,h4,h6⟩,h1,h7,h8⟩
    · rintro ⟨⟨-,h2,h3,h5,h4,h6⟩,h1,h7,h8⟩
      exact ⟨⟨⟨⟨⟨⟨⟨h1,h2⟩,h3⟩,h4⟩,h5⟩,h6⟩,h7⟩,h8⟩

/-- What a turn without issues adds to the tables. -/
theorem addResource_entries {r : ResourceInput} (h : (addResource t r).2 = []) :
    (addResource t r).1.resources.entries = t.resources.entries++[(r.id,r)] ∧
    (addResource t r).1.services.entries =
      t.services.entries++(wellNamed identifier r.provides).map (·,r.id) ∧
    (addResource t r).1.mutators.entries =
      t.mutators.entries++(wellNamed identifier r.mutates).map (·,r.id) := by
  obtain ⟨hr,hid,hservices,hmutators⟩ := (addResource_nil_iff t r).mp h
  rw [addResource, hr.id, Bool.not_true, if_neg Bool.false_ne_true]
  refine ⟨(Dictionary.tryAdd_fresh hid r).2,?_,?_⟩
  · exact claimNames_entries hservices r.id "provider_conflict" (resourcePath r.id++utf16 "/provides")
  · exact claimNames_entries hmutators r.id "mutator_conflict" (resourcePath r.id++utf16 "/mutates")

/-- The pairs that the names of the resources make, in order. -/
def claims (names : ResourceInput → List (Option Utf16)) (rs : List ResourceInput) :
    List (Utf16 × Utf16) :=
  rs.flatMap fun r => (wellNamed identifier (names r)).map (·,r.id)

theorem keys_append {V : Type} {d e : Dictionary Utf16 V} {xs : List (Utf16 × V)}
    (h : e.entries = d.entries++xs) : e.keys = d.keys++xs.map Prod.fst := by
  rw [Dictionary.keys, h, List.map_append]
  rfl

theorem addResources_nil_iff (rs : List ResourceInput) : (addResources t rs).2 = [] ↔
    (∀ r ∈ rs, ResourceRules r) ∧ (t.resources.keys++rs.map (·.id)).Nodup ∧
      (t.services.keys++(claims (·.provides) rs).map Prod.fst).Nodup ∧
      (t.mutators.keys++(claims (·.mutates) rs).map Prod.fst).Nodup := by
  induction rs generalizing t with
  | nil =>
    simpa [addResources, claims] using ⟨t.resources.nodup,t.services.nodup,t.mutators.nodup⟩
  | cons r rest ih =>
    have hclaims (names : ResourceInput → List (Option Utf16)) :
        (claims names (r :: rest)).map Prod.fst =
          wellNamed identifier (names r)++(claims names rest).map Prod.fst := by
      simp [claims, List.map_map, Function.comp_def]
    rw [addResources, List.append_eq_nil_iff, hclaims, hclaims, List.map_cons,
      List.forall_mem_cons]
    by_cases hr : (addResource t r).2 = []
    · obtain ⟨h1,h2,h3⟩ := addResource_entries t hr
      obtain ⟨hrules,-,-,-⟩ := (addResource_nil_iff t r).mp hr
      rw [ih, keys_append h1, keys_append h2, keys_append h3]
      simp [hr, hrules, List.map_map, Function.comp_def]
    · refine iff_of_false (fun h => hr h.1) fun h => hr ?_
      obtain ⟨⟨hrules,-⟩,hids,hservices,hmutators⟩ := h
      rw [← List.append_assoc] at hservices hmutators
      exact (addResource_nil_iff t r).mpr ⟨hrules,
        fun hk => List.disjoint_of_nodup_append hids hk List.mem_cons_self,
        hservices.of_append_left,hmutators.of_append_left⟩

theorem addResources_entries {rs : List ResourceInput} (h : (addResources t rs).2 = []) :
    (addResources t rs).1.resources.entries = t.resources.entries++rs.map (fun r => (r.id,r)) ∧
    (addResources t rs).1.services.entries = t.services.entries++claims (·.provides) rs ∧
    (addResources t rs).1.mutators.entries = t.mutators.entries++claims (·.mutates) rs := by
  induction rs generalizing t with
  | nil => simp [addResources, claims]
  | cons r rest ih =>
    rw [addResources, List.append_eq_nil_iff] at h
    obtain ⟨h1,h2,h3⟩ := addResource_entries t h.1
    obtain ⟨k1,k2,k3⟩ := ih _ h.2
    simp only [addResources, claims, List.flatMap_cons, List.map_cons] at k1 k2 k3 ⊢
    rw [k1, k2, k3, h1, h2, h3]
    simp only [List.append_assoc, List.singleton_append, true_and]

end Resources

/-! The loop over the assets, in the same way. -/
section Assets
variable (d : Dictionary Utf16 AssetInput)

theorem addAsset_nil_iff (a : AssetInput) : (addAsset d a).2 = [] ↔
    AssetRules a ∧ ¬(a.gameplayCritical ∧ a.optionalDownload) ∧ a.id ∉ d.keys := by
  rw [addAsset]
  split
  · rename_i hid
    refine iff_of_false (List.cons_ne_nil _ _) fun h => ?_
    rw [h.1.id] at hid
    cases hid
  · rename_i hid
    simp only [List.append_eq_nil_iff, report_nil_iff, repeats_iff, Bool.not_eq_false',
      Dictionary.tryAdd_added_iff, Bool.or_eq_false_iff, decide_eq_false_iff_not, not_lt,
      List.any_eq_false, Bool.not_eq_true', Bool.not_eq_false]
    rw [Bool.not_eq_true, Bool.not_eq_false'] at hid
    rw [← Bool.and_eq_true, Bool.not_eq_true]
    constructor
    · rintro ⟨⟨⟨⟨h1,h2⟩,h3⟩,h4,h5⟩,h6⟩
      exact ⟨⟨hid,h2,h4,h5,h6⟩,h3,h1⟩
    · rintro ⟨⟨-,h2,h4,h5,h6⟩,h3,h1⟩
      exact ⟨⟨⟨⟨h1,h2⟩,h3⟩,h4,h5⟩,h6⟩

theorem addAsset_entries {a : AssetInput} (h : (addAsset d a).2 = []) :
    (addAsset d a).1.entries = d.entries++[(a.id,a)] := by
  obtain ⟨ha,-,hid⟩ := (addAsset_nil_iff d a).mp h
  rw [addAsset, ha.id, Bool.not_true, if_neg Bool.false_ne_true]
  exact (Dictionary.tryAdd_fresh hid a).2

theorem addAssets_nil_iff (as : List AssetInput) : (addAssets d as).2 = [] ↔
    (∀ a ∈ as, AssetRules a ∧ ¬(a.gameplayCritical ∧ a.optionalDownload)) ∧
      (d.keys++as.map (·.id)).Nodup := by
  induction as generalizing d with
  | nil => simpa [addAssets, Dictionary.keys] using d.nodup
  | cons a rest ih =>
    rw [addAssets, List.append_eq_nil_iff, List.map_cons, List.forall_mem_cons]
    by_cases ha : (addAsset d a).2 = []
    · obtain ⟨hrules,hcritical,-⟩ := (addAsset_nil_iff d a).mp ha
      rw [ih, keys_append (addAsset_entries d ha)]
      simp [ha, hrules, hcritical]
    · refine iff_of_false (fun h => ha h.1) fun h => ha ?_
      obtain ⟨⟨⟨hrules,hcritical⟩,-⟩,hids⟩ := h
      exact (addAsset_nil_iff d a).mpr ⟨hrules,hcritical,
        fun hk => List.disjoint_of_nodup_append hids hk List.mem_cons_self⟩

theorem addAssets_entries {as : List AssetInput} (h : (addAssets d as).2 = []) :
    (addAssets d as).1.entries = d.entries++as.map fun a => (a.id,a) := by
  induction as generalizing d with
  | nil => simp [addAssets]
  | cons a rest ih =>
    rw [addAssets, List.append_eq_nil_iff] at h
    simp only [addAssets, List.map_cons]
    rw [ih _ h.2, addAsset_entries d h.1, List.append_assoc, List.singleton_append]

end Assets

/-! The edges. -/
section Edges
variable {resolve : Utf16 → Option (Option Utf16)} {code : String} {path : Utf16}

theorem mem_insertLast {s : List Utf16} {a k : Utf16} :
    a ∈ insertLast s k ↔ a ∈ s ∨ a = k := by
  rw [insertLast]
  split
  · rename_i hk
    exact ⟨.inl,fun h => h.elim id fun h => h ▸ hk⟩
  · simp

theorem collectEdges_nil_iff (names edges : List Utf16) :
    (collectEdges resolve code path names edges).2 = [] ↔ ∀ n ∈ names, resolve n ≠ none := by
  induction names generalizing edges with
  | nil => simp [collectEdges]
  | cons n rest ih =>
    rw [collectEdges, List.forall_mem_cons]
    cases hn : resolve n with
    | none => simp
    | some target =>
      cases target with
      | none => simpa using ih edges
      | some target => simpa using ih (insertLast edges target)

theorem mem_collectEdges {names edges : List Utf16} {b : Utf16} :
    b ∈ (collectEdges resolve code path names edges).1 ↔
      b ∈ edges ∨ ∃ n ∈ names, resolve n = some (some b) := by
  induction names generalizing edges with
  | nil => simp [collectEdges]
  | cons n rest ih =>
    rw [collectEdges, List.exists_mem_cons_iff]
    cases hn : resolve n with
    | none => simp [ih]
    | some target =>
      cases target with
      | none => simp [ih]
      | some target =>
        simp only [ih, mem_insertLast, Option.some.injEq]
        rw [or_assoc, eq_comm (a := b)]

theorem defined_eq_none_iff {V : Type} {d : Dictionary Utf16 V} {n : Utf16} :
    defined d n ≠ none ↔ n ∈ d.keys := by
  rw [defined, ne_eq, Option.map_eq_none_iff, ← ne_eq, Option.ne_none_iff_isSome,
    Dictionary.get?_isSome_iff]

theorem defined_eq_some_iff {V : Type} {d : Dictionary Utf16 V} {n b : Utf16} :
    defined d n = some (some b) ↔ n = b ∧ n ∈ d.keys := by
  rw [defined, Option.map_eq_some_iff, ← Dictionary.get?_isSome_iff, Option.isSome_iff_exists]
  simp only [Option.some.injEq]
  tauto

theorem provided_eq_none_iff {services : Dictionary Utf16 Utf16} {id s : Utf16} :
    provided services id s ≠ none ↔ s ∈ services.keys := by
  rw [provided, ne_eq, Option.map_eq_none_iff, ← ne_eq, Option.ne_none_iff_isSome,
    Dictionary.get?_isSome_iff]

theorem provided_eq_some_iff {services : Dictionary Utf16 Utf16} {id s b : Utf16} :
    provided services id s = some (some b) ↔ services.get? s = some b ∧ b ≠ id := by
  rw [provided, Option.map_eq_some_iff]
  constructor
  · rintro ⟨p,hp,h⟩
    split at h
    · rename_i hne
      cases Option.some.inj h
      exact ⟨hp,hne⟩
    · cases h
  · rintro ⟨hp,hne⟩
    exact ⟨b,hp,by rw [if_pos hne]⟩

/-- The edges of a built graph are those of its definitions. -/
theorem edge_buildGraph {V : Type} {edges : Utf16 → V → List Utf16 × List Diagnostic}
    {d : Dictionary Utf16 V} {a b : Utf16} :
    Edge (buildGraph edges d).1.keys (targets (buildGraph edges d).1) a b ↔
      ∃ v, (a,v) ∈ d.entries ∧ b ∈ (edges a v).1 := by
  have htargets : b ∈ targets (buildGraph edges d).1 a ↔
      ∃ v, (a,v) ∈ d.entries ∧ b ∈ (edges a v).1 := by
    rw [targets, buildGraph, Dictionary.get?_mapValues]
    simp only [← Dictionary.get?_eq_some_iff]
    cases d.get? a <;> simp
  rw [Edge, htargets, and_iff_right_iff_imp]
  rintro ⟨v,hv,-⟩
  rw [buildGraph, Dictionary.keys_mapValues]
  exact List.mem_map_of_mem hv

theorem buildGraph_issues {V : Type} {edges : Utf16 → V → List Utf16 × List Diagnostic}
    {d : Dictionary Utf16 V} :
    (buildGraph edges d).2 = [] ↔ ∀ a v, (a,v) ∈ d.entries → (edges a v).2 = [] := by
  rw [buildGraph, List.flatMap_eq_nil_iff, Prod.forall]

end Edges

/-- The graph of the resources as the validator builds it. -/
def resourceGraph (rs : List ResourceInput) : Dictionary Utf16 (List Utf16) × List Diagnostic :=
  buildGraph (resourceEdges (addResources {} rs).1) (addResources {} rs).1.resources

def assetGraph (as : List AssetInput) : Dictionary Utf16 (List Utf16) × List Diagnostic :=
  buildGraph (assetEdges (addAssets .empty as).1) (addAssets .empty as).1

/-! Where the resources can all be defined, the tables hold just them. -/
section ResourceGraph
variable {rs : List ResourceInput} (hnil : (addResources {} rs).2 = [])
include hnil

theorem resources_entries {a : Utf16} {r : ResourceInput} :
    (a,r) ∈ (addResources {} rs).1.resources.entries ↔ r ∈ rs ∧ r.id = a := by
  rw [(addResources_entries {} hnil).1]
  simp [Dictionary.empty, and_comm]

theorem resources_keys {a : Utf16} :
    a ∈ (addResources {} rs).1.resources.keys ↔ ∃ r ∈ rs, r.id = a := by
  rw [Dictionary.keys, List.mem_map, Prod.exists]
  simp only [resources_entries hnil]
  constructor
  · rintro ⟨_,r,⟨hr,rfl⟩,rfl⟩
    exact ⟨r,hr,rfl⟩
  · rintro ⟨r,hr,rfl⟩
    exact ⟨_,r,⟨hr,rfl⟩,rfl⟩

theorem rules_of_nil : ∀ r ∈ rs, ResourceRules r := ((addResources_nil_iff {} rs).mp hnil).1

omit hnil in
theorem mem_claims {names : ResourceInput → List (Option Utf16)} {s id : Utf16}
    (h : ∀ r ∈ rs, ∀ n ∈ names r, identifier n) :
    (s,id) ∈ claims names rs ↔ ∃ r ∈ rs, r.id = id ∧ some s ∈ names r := by
  simp only [claims, List.mem_flatMap, List.mem_map, Prod.mk.injEq]
  constructor
  · rintro ⟨r,hr,_,hs,rfl,rfl⟩
    exact ⟨r,hr,rfl,(mem_wellNamed.mp hs).1⟩
  · rintro ⟨r,hr,rfl,hs⟩
    exact ⟨r,hr,s,mem_wellNamed.mpr ⟨hs,h r hr _ hs⟩,rfl,rfl⟩

theorem services_get? {s p : Utf16} : (addResources {} rs).1.services.get? s = some p ↔
    ∃ q ∈ rs, q.id = p ∧ some s ∈ q.provides := by
  rw [Dictionary.get?_eq_some_iff, (addResources_entries {} hnil).2.1]
  exact mem_claims fun r hr => (rules_of_nil hnil r hr).provides.identifiers

theorem services_keys {s : Utf16} : s ∈ (addResources {} rs).1.services.keys ↔
    ∃ q ∈ rs, some s ∈ q.provides := by
  rw [← Dictionary.get?_isSome_iff, Option.isSome_iff_exists]
  simp only [services_get? hnil]
  constructor
  · intro h
    obtain ⟨_,q,hq,_,hs⟩ := h
    exact ⟨q,hq,hs⟩
  · intro h
    obtain ⟨q,hq,hs⟩ := h
    exact ⟨q.id,q,hq,rfl,hs⟩

/-- The edges raise no issue when every dependency is defined and every service provided. -/
theorem resourceGraph_issues : (resourceGraph rs).2 = [] ↔
      (∀ r ∈ rs, ∀ d, some d ∈ r.dependencies → ∃ p ∈ rs, p.id = d) ∧
      ∀ r ∈ rs, ∀ s, some s ∈ r.requires → ∃ p ∈ rs, some s ∈ p.provides := by
  have hedges (a : Utf16) {r : ResourceInput} (hr : r ∈ rs) :
      (resourceEdges (addResources {} rs).1 a r).2 = [] ↔
        (∀ d, some d ∈ r.dependencies → ∃ p ∈ rs, p.id = d) ∧
        ∀ s, some s ∈ r.requires → ∃ p ∈ rs, some s ∈ p.provides := by
    have hrule := rules_of_nil hnil r hr
    rw [resourceEdges, List.append_eq_nil_iff, collectEdges_nil_iff, collectEdges_nil_iff]
    simp only [defined_eq_none_iff, provided_eq_none_iff, resources_keys hnil, services_keys hnil,
      mem_wellNamed_of_all hrule.dependencies.identifiers,
      mem_wellNamed_of_all hrule.requires.identifiers]
  rw [resourceGraph, buildGraph_issues, ← forall₂_and]
  constructor
  · intro h r hr
    exact (hedges r.id hr).mp (h r.id r ((resources_entries hnil).mpr ⟨hr,rfl⟩))
  · intro h a r hentry
    have hr := ((resources_entries hnil).mp hentry).1
    exact (hedges a hr).mpr (h r hr)

theorem edge_resourceGraph (hdefined : ∀ r ∈ rs, ∀ d, some d ∈ r.dependencies → ∃ p ∈ rs, p.id = d)
    {a b : Utf16} : Edge (resourceGraph rs).1.keys (targets (resourceGraph rs).1) a b ↔
      ResourceEdge rs a b := by
  rw [resourceGraph, edge_buildGraph, ResourceEdge]
  refine exists_congr fun r => ?_
  rw [resources_entries hnil, and_assoc]
  refine and_congr_right fun hr => and_congr_right fun ha => ?_
  have hrule := rules_of_nil hnil r hr
  simp only [resourceEdges, mem_collectEdges, List.not_mem_nil, false_or, defined_eq_some_iff,
    provided_eq_some_iff, resources_keys hnil, services_get? hnil,
    mem_wellNamed_of_all hrule.dependencies.identifiers,
    mem_wellNamed_of_all hrule.requires.identifiers]
  constructor
  · rintro (⟨_,hd,rfl,-⟩ | ⟨s,hs,⟨p,hp,hid,hprovides⟩,hne⟩)
    · exact .inl hd
    · exact .inr ⟨hne,p,hp,hid,s,hs,hprovides⟩
  · rintro (hd | ⟨hne,p,hp,hid,s,hs,hprovides⟩)
    · exact .inl ⟨b,hd,rfl,hdefined r hr b hd⟩
    · exact .inr ⟨s,hs,⟨p,hp,hid,hprovides⟩,hne⟩

end ResourceGraph

theorem sort_nil_iff {edges : Dictionary Utf16 (List Utf16)} {path : String}
    (h : Closed edges.keys (targets edges)) :
    (sort edges path).2 = [] ↔ Acyclic (Edge edges.keys (targets edges)) := by
  have hperm (ids : List Utf16) : (ordinalOrder ids).Perm ids := List.mergeSort_perm ids _
  rw [← layers_complete_iff edges.keys_nodup hperm h, sort]
  by_cases hc : (layers edges.keys (targets edges) ordinalOrder []).2
  · simp [hc]
  · simp [hc]

/-- Names that nobody claims twice: each list is distinct, and no two resources share one. -/
theorem claims_nodup_iff {rs : List ResourceInput} {names : ResourceInput → List (Option Utf16)}
    (hnames : ∀ r ∈ rs, NameList (names r)) (hids : (rs.map (·.id)).Nodup) :
    ((claims names rs).map Prod.fst).Nodup ↔
      ∀ p ∈ rs, ∀ q ∈ rs, ∀ s, some s ∈ names p → some s ∈ names q → p = q := by
  have hfst : (claims names rs).map Prod.fst = rs.flatMap fun r => wellNamed identifier (names r) := by
    simp [claims, List.map_flatMap, List.map_map, Function.comp_def]
  have heach : ∀ r ∈ rs, (wellNamed identifier (names r)).Nodup := fun r hr =>
    wellNamed_nodup (hnames r hr).distinct
  have hmem {r : ResourceInput} (hr : r ∈ rs) (s : Utf16) :
      s ∈ wellNamed identifier (names r) ↔ some s ∈ names r :=
    mem_wellNamed_of_all (hnames r hr).identifiers
  let apart (p q : ResourceInput) : Prop :=
    (wellNamed identifier (names p)).Disjoint (wellNamed identifier (names q))
  have hsymm : Std.Symm apart := ⟨fun _ _ h => h.symm⟩
  rw [hfst, List.nodup_flatMap, and_iff_right heach]
  constructor
  · intro hpairs p hp q hq s hsp hsq
    by_contra hne
    have hpairs : rs.Pairwise apart := hpairs
    exact hpairs.forall hp hq hne ((hmem hp s).mpr hsp) ((hmem hq s).mpr hsq)
  · intro hone
    refine hids.of_map.pairwise_of_forall_ne fun p hp q hq hne s hsp hsq => ?_
    exact hne (hone p hp q hq s ((hmem hp s).mp hsp) ((hmem hq s).mp hsq))

theorem addResources_empty_iff (rs : List ResourceInput) : (addResources {} rs).2 = [] ↔
    (∀ r ∈ rs, ResourceRules r) ∧ (rs.map (·.id)).Nodup ∧
      (∀ p ∈ rs, ∀ q ∈ rs, ∀ s, some s ∈ p.provides → some s ∈ q.provides → p = q) ∧
      ∀ p ∈ rs, ∀ q ∈ rs, ∀ s, some s ∈ p.mutates → some s ∈ q.mutates → p = q := by
  rw [addResources_nil_iff]
  simp only [Dictionary.keys_empty, List.nil_append]
  refine and_congr_right fun hrules => and_congr_right fun hids => ?_
  rw [claims_nodup_iff (fun r hr => (hrules r hr).provides) hids,
    claims_nodup_iff (fun r hr => (hrules r hr).mutates) hids]

theorem sort_resourceGraph_iff {rs : List ResourceInput} (hnil : (addResources {} rs).2 = [])
    (hdefined : ∀ r ∈ rs, ∀ d, some d ∈ r.dependencies → ∃ p ∈ rs, p.id = d) (path : String) :
    (sort (resourceGraph rs).1 path).2 = [] ↔ Acyclic (ResourceEdge rs) := by
  have hedge : Edge (resourceGraph rs).1.keys (targets (resourceGraph rs).1) = ResourceEdge rs := by
    ext a b
    exact edge_resourceGraph hnil hdefined
  have hkeys (b : Utf16) : b ∈ (resourceGraph rs).1.keys ↔ ∃ p ∈ rs, p.id = b := by
    rw [resourceGraph, buildGraph, Dictionary.keys_mapValues, resources_keys hnil]
  have hclosed : Closed (resourceGraph rs).1.keys (targets (resourceGraph rs).1) := by
    intro a ha b hb
    obtain ⟨r,hr,-,hstep⟩ := (edge_resourceGraph hnil hdefined).mp ⟨ha,hb⟩
    rw [hkeys]
    rcases hstep with hd | ⟨-,p,hp,hid,-⟩
    · exact hdefined r hr b hd
    · exact ⟨p,hp,hid⟩
  rw [sort_nil_iff hclosed, hedge]

/-- All that the validator says about the resources. -/
theorem resourceIssues_iff (rs : List ResourceInput) :
    (addResources {} rs).2 = [] ∧ (resourceGraph rs).2 = [] ∧
      (sort (resourceGraph rs).1 "resources").2 = [] ↔ ResourcePlan rs := by
  constructor
  · rintro ⟨hnil,hissues,hsort⟩
    obtain ⟨hrules,hids,hprovider,hmutator⟩ := (addResources_empty_iff rs).mp hnil
    obtain ⟨hdefined,hprovided⟩ := (resourceGraph_issues hnil).mp hissues
    exact ⟨hrules,hids,hprovider,hmutator,hdefined,hprovided,
      (sort_resourceGraph_iff hnil hdefined _).mp hsort⟩
  · intro h
    have hnil : (addResources {} rs).2 = [] :=
      (addResources_empty_iff rs).mpr ⟨h.each,h.distinct,h.oneProvider,h.oneMutator⟩
    exact ⟨hnil,(resourceGraph_issues hnil).mpr ⟨h.dependencies,h.requires⟩,
      (sort_resourceGraph_iff hnil h.dependencies _).mpr h.acyclic⟩

section AssetGraph
variable {as : List AssetInput} (hnil : (addAssets .empty as).2 = [])
include hnil

theorem assets_entries {id : Utf16} {a : AssetInput} :
    (id,a) ∈ (addAssets .empty as).1.entries ↔ a ∈ as ∧ a.id = id := by
  rw [addAssets_entries _ hnil]
  simp [Dictionary.empty, and_comm]

theorem assets_keys {id : Utf16} : id ∈ (addAssets .empty as).1.keys ↔ ∃ a ∈ as, a.id = id := by
  rw [Dictionary.keys, List.mem_map, Prod.exists]
  simp only [assets_entries hnil]
  constructor
  · rintro ⟨_,a,⟨ha,rfl⟩,rfl⟩
    exact ⟨a,ha,rfl⟩
  · rintro ⟨a,ha,rfl⟩
    exact ⟨_,a,⟨ha,rfl⟩,rfl⟩

theorem assetRules_of_nil : ∀ a ∈ as, AssetRules a := fun a ha =>
  (((addAssets_nil_iff .empty as).mp hnil).1 a ha).1

theorem assetGraph_issues : (assetGraph as).2 = [] ↔
    ∀ a ∈ as, ∀ d, some d ∈ a.dependencies → ∃ b ∈ as, b.id = d := by
  have hedges (id : Utf16) {a : AssetInput} (ha : a ∈ as) :
      (assetEdges (addAssets .empty as).1 id a).2 = [] ↔
        ∀ d, some d ∈ a.dependencies → ∃ b ∈ as, b.id = d := by
    rw [assetEdges, collectEdges_nil_iff]
    simp only [defined_eq_none_iff, assets_keys hnil,
      mem_wellNamed_of_all (assetRules_of_nil hnil a ha).dependencies]
  rw [assetGraph, buildGraph_issues]
  constructor
  · intro h a ha
    exact (hedges a.id ha).mp (h a.id a ((assets_entries hnil).mpr ⟨ha,rfl⟩))
  · intro h id a hentry
    have ha := ((assets_entries hnil).mp hentry).1
    exact (hedges id ha).mpr (h a ha)

theorem assetGraph_keys {id : Utf16} : id ∈ (assetGraph as).1.keys ↔ ∃ a ∈ as, a.id = id := by
  rw [assetGraph, buildGraph, Dictionary.keys_mapValues, assets_keys hnil]

variable (hdefined : ∀ a ∈ as, ∀ d, some d ∈ a.dependencies → ∃ b ∈ as, b.id = d)
include hdefined

theorem edge_assetGraph : Edge (assetGraph as).1.keys (targets (assetGraph as).1) =
    AssetEdge as := by
  ext x y
  rw [assetGraph, edge_buildGraph, AssetEdge]
  refine exists_congr fun a => ?_
  rw [assets_entries hnil, and_assoc]
  refine and_congr_right fun ha => and_congr_right fun _ => ?_
  simp only [assetEdges, mem_collectEdges, List.not_mem_nil, false_or, defined_eq_some_iff,
    assets_keys hnil, mem_wellNamed_of_all (assetRules_of_nil hnil a ha).dependencies]
  constructor
  · rintro ⟨_,hd,rfl,-⟩
    exact hd
  · intro hd
    exact ⟨y,hd,rfl,hdefined a ha y hd⟩

theorem closed_assetGraph : Closed (assetGraph as).1.keys (targets (assetGraph as).1) := by
  intro x hx y hy
  have hedge : AssetEdge as x y := edge_assetGraph hnil hdefined ▸ ⟨hx,hy⟩
  obtain ⟨a,ha,-,hd⟩ := hedge
  exact (assetGraph_keys hnil).mpr (hdefined a ha y hd)

theorem sort_assetGraph_iff (path : String) :
    (sort (assetGraph as).1 path).2 = [] ↔ Acyclic (AssetEdge as) := by
  rw [sort_nil_iff (closed_assetGraph hnil hdefined), edge_assetGraph hnil hdefined]

/-- The closure raises no issue when nothing optional can be reached from what is critical. -/
theorem criticalClosure_nil_iff :
    criticalClosure (addAssets .empty as).1 (assetGraph as).1 = [] ↔
      ∀ a ∈ as, a.gameplayCritical → ∀ b ∈ as,
        Relation.ReflTransGen (AssetEdge as) a.id b.id → ¬b.optionalDownload := by
  have hkeys : (addAssets .empty as).1.keys = (assetGraph as).1.keys := by
    rw [assetGraph, buildGraph, Dictionary.keys_mapValues]
  have hpending {id : Utf16} : id ∈ (((addAssets .empty as).1.entries.filter
      (·.2.gameplayCritical)).map Prod.fst) ↔ ∃ a ∈ as, a.id = id ∧ a.gameplayCritical := by
    rw [List.mem_map, Prod.exists]
    simp only [List.mem_filter, assets_entries hnil]
    constructor
    · rintro ⟨_,a,⟨⟨ha,rfl⟩,hcritical⟩,rfl⟩
      exact ⟨a,ha,rfl,hcritical⟩
    · rintro ⟨a,ha,rfl,hcritical⟩
      exact ⟨_,a,⟨⟨ha,rfl⟩,hcritical⟩,rfl⟩
  have hnodes : ∀ id ∈ (((addAssets .empty as).1.entries.filter
      (·.2.gameplayCritical)).map Prod.fst), id ∈ (assetGraph as).1.keys := fun id hid => by
    obtain ⟨a,ha,hida,-⟩ := hpending.mp hid
    exact (assetGraph_keys hnil).mpr ⟨a,ha,hida⟩
  have hoptional (id : Utf16) : ((addAssets .empty as).1.get? id).any (·.optionalDownload) = false ↔
      ∀ b ∈ as, b.id = id → ¬b.optionalDownload := by
    have hany (x : Option AssetInput) : x.any (·.optionalDownload) = false ↔
        ∀ b, x = some b → ¬b.optionalDownload := by cases x <;> simp
    rw [hany]
    simp only [Dictionary.get?_eq_some_iff, assets_entries hnil, and_imp]
  have hvisit := mem_visit_iff (closed_assetGraph hnil hdefined) hnodes
    (show ∀ a ∈ ([] : List Utf16), ∀ b ∈ targets (assetGraph as).1 a, _ from
      fun _ ha => absurd ha List.not_mem_nil)
  rw [criticalClosure, List.flatMap_eq_nil_iff]
  simp only [report_nil_iff, hkeys, hoptional, hvisit, edge_assetGraph hnil hdefined,
    List.not_mem_nil, false_or, hpending]
  constructor
  · intro h a ha hcritical b hb hreach
    exact h b.id ⟨a.id,⟨a,ha,rfl,hcritical⟩,hreach⟩ b hb rfl
  · rintro h _ ⟨_,⟨a,ha,rfl,hcritical⟩,hreach⟩ b hb rfl
    exact h a ha hcritical b hb hreach

end AssetGraph

/-- All that the validator says about the assets. -/
theorem assetIssues_iff (as : List AssetInput) :
    (addAssets .empty as).2 = [] ∧ (assetGraph as).2 = [] ∧
      criticalClosure (addAssets .empty as).1 (assetGraph as).1 = [] ∧
      (sort (assetGraph as).1 "assets").2 = [] ↔ AssetPlan as := by
  have hrules := addAssets_nil_iff .empty as
  rw [Dictionary.keys_empty, List.nil_append] at hrules
  constructor
  · rintro ⟨hnil,hissues,hclosure,hsort⟩
    have hdefined := (assetGraph_issues hnil).mp hissues
    exact ⟨assetRules_of_nil hnil,(hrules.mp hnil).2,hdefined,
      (sort_assetGraph_iff hnil hdefined _).mp hsort,
      (criticalClosure_nil_iff hnil hdefined).mp hclosure⟩
  · intro h
    have hnil : (addAssets .empty as).2 = [] := hrules.mpr
      ⟨fun a ha => ⟨h.each a ha,fun ⟨hc,ho⟩ => h.critical a ha hc a ha .refl ho⟩,h.distinct⟩
    exact ⟨hnil,(assetGraph_issues hnil).mpr h.dependencies,
      (criticalClosure_nil_iff hnil h.dependencies).mpr h.critical,
      (sort_assetGraph_iff hnil h.dependencies _).mpr h.acyclic⟩

/-! The rest of the plan. -/

theorem missingCapabilities_nil_iff {available required : List (Option Utf16)}
    (havailable : NameList available) (hrequired : NameList required) :
    missingCapabilities available required = [] ↔ ∀ c ∈ required, c ∈ available := by
  rw [missingCapabilities, List.map_eq_nil_iff, List.filter_eq_nil_iff]
  simp only [mem_wellNamed_of_all havailable.identifiers,
    mem_wellNamed_of_all hrequired.identifiers, decide_eq_true_eq, not_not]
  constructor
  · intro h c hc
    cases c with
    | none => exact absurd (hrequired.identifiers none hc) Bool.false_ne_true
    | some s => exact h s hc
  · exact fun h s hs => h _ hs

theorem not_badRecovery_iff (b : RecoveryInput) : badRecovery b = false ↔ RecoveryRules b := by
  simp only [badRecovery, Bool.or_eq_false_iff, decide_eq_false_iff_not]
  constructor
  · rintro ⟨⟨⟨⟨⟨⟨⟨⟨⟨⟨⟨⟨h1,h2⟩,h3⟩,h4⟩,h5⟩,h6⟩,h7⟩,h8⟩,h9⟩,h10⟩,h11⟩,h12⟩,h13⟩
    constructor <;> omega
  · rintro ⟨h1,h2,h3,h4,h5,h6,h7,h8,h9⟩
    omega

theorem not_overLimit_iff (input : WorldPlanInput) :
    overLimit input = false ↔ WithinLimits input := by
  simp only [overLimit, Bool.or_eq_false_iff, decide_eq_false_iff_not, not_lt]
  exact ⟨fun ⟨⟨⟨h1,h2⟩,h3⟩,h4⟩ => ⟨h1,h2,h3,h4⟩,fun ⟨h1,h2,h3,h4⟩ => ⟨⟨⟨h1,h2⟩,h3⟩,h4⟩⟩

end WorldPlanValidator

section Validation
open WorldPlanValidator
variable {sourceDigest : Utf16} {input : WorldPlanInput}

/-- A plan that is over the limits or has a null definition is reported as such. -/
theorem limits_of_valid (h : (validate sourceDigest input).valid) : overLimit input = false ∧
    ¬input.resources.any Option.isNone ∧ ¬input.assets.any Option.isNone := by
  rw [validate] at h
  split at h
  · cases h
  · rename_i hlimit
    split at h
    · cases h
    · rename_i hnull
      rw [Bool.or_eq_true, not_or] at hnull
      exact ⟨Bool.eq_false_of_not_eq_true hlimit,hnull⟩

theorem rules_of_valid (h : (validate sourceDigest input).valid) : WithinLimits input ∧
    ∃ rs as, input.resources = rs.map some ∧ input.assets = as.map some ∧ PlanRules input rs as := by
  obtain ⟨hlimit,hresources,hassets⟩ := limits_of_valid h
  refine ⟨(not_overLimit_iff input).mp hlimit,_,_,eq_map_some_iff.mpr ⟨hresources,rfl⟩,
    eq_map_some_iff.mpr ⟨hassets,rfl⟩,?_⟩
  rw [validate, hlimit, if_neg Bool.false_ne_true,
    if_neg (by rw [Bool.or_eq_true, not_or]; exact ⟨hresources,hassets⟩)] at h
  simp only [List.isEmpty_iff, List.append_eq_nil_iff, report_nil_iff, checkNames_nil_iff,
    decide_eq_false_iff_not, not_not, not_badRecovery_iff, Bool.not_eq_false'] at h
  obtain ⟨⟨⟨⟨⟨⟨⟨⟨⟨⟨h1,h2⟩,h3⟩,h4⟩,h5⟩,h6⟩,h7⟩,⟨h8,h9⟩,h10⟩,h11⟩,h12⟩,h13⟩ := h
  exact ⟨h1,h2,(resourceIssues_iff _).mp ⟨h3,h4,h12⟩,(assetIssues_iff _).mp ⟨h5,h6,h7,h13⟩,h8,h9,
    (missingCapabilities_nil_iff h9 h8).mp h10,h11⟩

theorem valid_of_rules {rs : List ResourceInput} {as : List AssetInput} (hlimits : WithinLimits input)
    (hrs : input.resources = rs.map some) (has : input.assets = as.map some)
    (h : PlanRules input rs as) : (validate sourceDigest input).valid := by
  obtain ⟨hresources,rfl⟩ := eq_map_some_iff.mp hrs
  obtain ⟨hassets,rfl⟩ := eq_map_some_iff.mp has
  obtain ⟨h3,h4,h12⟩ := (resourceIssues_iff _).mpr h.resources
  obtain ⟨h5,h6,h7,h13⟩ := (assetIssues_iff _).mpr h.assets
  rw [validate, (not_overLimit_iff input).mpr hlimits, if_neg Bool.false_ne_true,
    if_neg (by rw [Bool.or_eq_true, not_or]; exact ⟨hresources,hassets⟩)]
  simp only [List.isEmpty_iff, List.append_eq_nil_iff, report_nil_iff, checkNames_nil_iff,
    decide_eq_false_iff_not, not_not, not_badRecovery_iff, Bool.not_eq_false']
  exact ⟨⟨⟨⟨⟨⟨⟨⟨⟨⟨h.schema,h.worldId⟩,h3⟩,h4⟩,h5⟩,h6⟩,h7⟩,⟨h.required,h.available⟩,
    (missingCapabilities_nil_iff h.available h.required).mpr h.capabilities⟩,h.recovery⟩,h12⟩,h13⟩

end Validation

/-- A plan is valid exactly when it is within the limits, has no null definition and follows
the rules. -/
theorem world_plan_valid_iff (sourceDigest : Utf16) (input : WorldPlanInput) :
    (validate sourceDigest input).valid ↔ WithinLimits input ∧
      ∃ rs as, input.resources = rs.map some ∧ input.assets = as.map some ∧
        PlanRules input rs as := by
  constructor
  · exact rules_of_valid
  · rintro ⟨hlimits,rs,as,hrs,has,hrules⟩
    exact valid_of_rules hlimits hrs has hrules

/-! A harbor: two resources, the second of which needs the first, and two assets. -/

def foundationResource : ResourceInput :=
  ⟨utf16 "saex.foundation",List.replicate 64 48,[],[some (utf16 "world.state"),
    some (utf16 "world.clock")],[],[]⟩

def harborResource : ResourceInput :=
  ⟨utf16 "sample.harbor",List.replicate 64 48,[some (utf16 "saex.foundation")],[],
    [some (utf16 "world.clock"),some (utf16 "world.state")],[]⟩

def textureAsset : AssetInput :=
  ⟨utf16 "sample:harbor/pier.txd",List.replicate 64 48,[],false,false⟩

def modelAsset : AssetInput :=
  ⟨utf16 "sample:harbor/pier.dff",List.replicate 64 48,[some (utf16 "sample:harbor/pier.txd")],
    true,false⟩

def harborPlan (worldId : Utf16) : WorldPlanInput where
  schemaVersion := 1
  worldId
  resources := [some foundationResource,some harborResource]
  assets := [some textureAsset,some modelAsset]
  requiredCapabilities := []
  availableCapabilities := [some (utf16 "clock"),some (utf16 "state")]
  recovery := ⟨1,1,1,1,1,1,1,0,0⟩

/-- Whatever leads from one id to another leads from the second resource to the first. -/
theorem harborResources_plan : ResourcePlan [foundationResource,harborResource] := by
  have hnames (names : List (Option Utf16)) (h : names.length ≤ 128 ∧ (∀ n ∈ names, identifier n) ∧
      names.Nodup) : NameList names := ⟨h.1,h.2.1,h.2.2⟩
  constructor
  case each =>
    simp only [List.forall_mem_cons, List.not_mem_nil, false_imp_iff, implies_true, and_true]
    constructor <;> constructor <;> first | decide | exact hnames _ (by decide)
  case acyclic =>
    refine acyclic_of_rank (fun k => if k = harborResource.id then 1 else 0) ?_
    rintro a b ⟨r,hr,rfl,hedge⟩
    have hr : r = foundationResource ∨ r = harborResource := by simpa using hr
    rcases hr with rfl | rfl
    · simp [foundationResource] at hedge
    · have hb : b = foundationResource.id := by
        rcases hedge with hdeclared | ⟨hne,p,hp,rfl,s,hs,hprovided⟩
        · simpa [harborResource, foundationResource] using hdeclared
        · have hp : p = foundationResource ∨ p = harborResource := by simpa using hp
          rcases hp with rfl | rfl
          · rfl
          · exact absurd rfl hne
      rw [hb]
      decide
  all_goals simp [foundationResource, harborResource]
  all_goals decide

theorem harborAssets_plan : AssetPlan [textureAsset,modelAsset] := by
  constructor
  case each =>
    simp only [List.forall_mem_cons, List.not_mem_nil, false_imp_iff, implies_true, and_true]
    constructor <;> constructor <;> decide
  case acyclic =>
    refine acyclic_of_rank (fun k => if k = modelAsset.id then 1 else 0) ?_
    rintro a b ⟨x,hx,rfl,hedge⟩
    have hx : x = textureAsset ∨ x = modelAsset := by simpa using hx
    rcases hx with rfl | rfl
    · simp [textureAsset] at hedge
    · have hb : b = textureAsset.id := by simpa [modelAsset, textureAsset] using hedge
      rw [hb]
      decide
  all_goals simp [textureAsset, modelAsset]
  all_goals decide

theorem harborPlan_valid {worldId : Utf16} (h : identifier (some worldId) = true)
    (sourceDigest : Utf16) : (validate sourceDigest (harborPlan worldId)).valid := by
  have hcapabilities : NameList [some (utf16 "clock"),some (utf16 "state")] :=
    ⟨by decide,by decide,by decide⟩
  have hnone : NameList [] := ⟨by decide,fun n hn => absurd hn List.not_mem_nil,List.nodup_nil⟩
  have hrecovery : RecoveryRules ⟨1,1,1,1,1,1,1,0,0⟩ := by constructor <;> decide
  have hlimits : WithinLimits (harborPlan worldId) := by
    constructor <;> simp [harborPlan]
  exact @valid_of_rules _ _ [foundationResource,harborResource] [textureAsset,modelAsset]
    hlimits rfl rfl ⟨rfl,h,harborResources_plan,harborAssets_plan,hnone,hcapabilities,
      fun c hc => absurd hc List.not_mem_nil,hrecovery⟩

end Saex
