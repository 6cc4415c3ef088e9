import Mathlib.Data.List.Infix
import Mathlib.Data.UInt
import Saex.Dictionaries
import Saex.FiniteGraphs

/-! managed/Saex.Tools/WorldPlanValidator.cs: the checks of a deserialized world plan. A
C# string is a list of UTF-16 units, and `none` where it may be null. -/
namespace Saex
open FiniteGraphs

abbrev Utf16 := List UInt16

/-- A text of the source, which is ASCII throughout. -/
def utf16 (s : String) : Utf16 := s.toList.map fun c => .ofNat c.toNat

structure Diagnostic where
  code : String
  path : Utf16
  message : Utf16
deriving DecidableEq

structure PlanValidation where
  valid : Bool
  productionEligible : Bool
  sourceDigest : Utf16
  resourceOrder : List Utf16
  assetOrder : List Utf16
  diagnostics : List Diagnostic

structure ResourceInput where
  id : Utf16
  artifactDigest : Utf16
  dependencies : List (Option Utf16)
  provides : List (Option Utf16)
  requires : List (Option Utf16)
  mutates : List (Option Utf16)

structure AssetInput where
  id : Utf16
  artifactDigest : Utf16
  dependencies : List (Option Utf16)
  gameplayCritical : Bool
  optionalDownload : Bool

structure RecoveryInput where
  maxActorOperations : ℤ
  maxResourceOperations : ℤ
  maxWorldOperations : ℤ
  maxProcessOperations : ℤ
  maxQueuedBytes : ℤ
  maxBaselineBytes : ℤ
  syncTimeoutMilliseconds : ℤ
  maxSyncRestarts : ℤ
  maxWorkerRestarts : ℤ

structure WorldPlanInput where
  schemaVersion : ℤ
  worldId : Utf16
  resources : List (Option ResourceInput)
  assets : List (Option AssetInput)
  requiredCapabilities : List (Option Utf16)
  availableCapabilities : List (Option Utf16)
  recovery : RecoveryInput

namespace WorldPlanValidator

/-! The patterns. -/

/-- `[a-z0-9]` -/
def lowerOrDigit (c : UInt16) : Bool := (97 ≤ c && c ≤ 122) || (48 ≤ c && c ≤ 57)

/-- `[a-z0-9._-]` -/
def nameChar (c : UInt16) : Bool := lowerOrDigit c || c = 46 || c = 95 || c = 45

/-- The same and the slash. -/
def assetChar (c : UInt16) : Bool := nameChar c || c = 47

def hexChar (c : UInt16) : Bool := (48 ≤ c && c ≤ 57) || (97 ≤ c && c ≤ 102)

/-- What is left for a pattern that ends in `$`, which also matches before a final line feed. -/
def beforeEnd (s : Utf16) : Utf16 := if s.getLast? = some 10 then s.dropLast else s

/-- `[a-z0-9]` and then any number of `rest`. -/
def word (rest : UInt16 → Bool) : Utf16 → Bool
  | [] => false
  | c :: cs => lowerOrDigit c && cs.all rest

/-- Two words with the first colon between them; neither can hold one. -/
def colonWords (s : Utf16) : Bool :=
  word nameChar (s.takeWhile (· ≠ 58)) && match s.dropWhile (· ≠ 58) with
    | [] => false
    | _ :: cs => word assetChar cs

def identifier : Option Utf16 → Bool
  | none => false
  | some s => 0 < s.length && s.length ≤ 128 && word nameChar (beforeEnd s) && !([46,46] <:+: s)

def assetIdentifier : Option Utf16 → Bool
  | none => false
  | some s => 0 < s.length && s.length ≤ 192 && colonWords (beforeEnd s) && !([46,46] <:+: s) &&
    !([47,47] <:+: s) && s.getLast? ≠ some 47

def digest (s : Utf16) : Bool := s.length = 64 && s.all hexChar

/-- The names that satisfy a predicate, `names.Where(accepted)`. -/
def wellNamed (accepted : Option Utf16 → Bool) (names : List (Option Utf16)) : List Utf16 :=
  (names.filter accepted).reduceOption

def report (c : Bool) (code : String) (path : Utf16) (message : String) : List Diagnostic :=
  if c then [⟨code,path,utf16 message⟩] else []

/-- `names.Distinct().Count() != names.Length` -/
def repeats (names : List (Option Utf16)) : Bool := names.dedup.length ≠ names.length

def checkNames (names : List (Option Utf16)) (path : Utf16) : List Diagnostic :=
  report (128 < names.length || names.any (!identifier ·)) "invalid_names" path
      "Invalid/bounded name list required." ++
    report (repeats names) "duplicate_name" path "Repeated identifier."

/-! The definitions. -/

structure ResourceTables where
  resources : Dictionary Utf16 ResourceInput := .empty
  services : Dictionary Utf16 Utf16 := .empty
  mutators : Dictionary Utf16 Utf16 := .empty

def resourcePath (id : Utf16) : Utf16 := utf16 "resources/"++id

/-- The loop over `provides` or `mutates`: each name goes to the resource that has it first. -/
def claimNames (owners : Dictionary Utf16 Utf16) (names : List (Option Utf16)) (id : Utf16)
    (code : String) (path : Utf16) : Dictionary Utf16 Utf16 × List Diagnostic :=
  let (owners,refused) := owners.addAll ((wellNamed identifier names).map (·,id))
  (owners,refused.map fun x => ⟨code,path,x.1⟩)

def addResource (t : ResourceTables) (r : ResourceInput) : ResourceTables × List Diagnostic :=
  let path := resourcePath r.id
  if !identifier (some r.id) then
    (t,[⟨"invalid_identifier",path,utf16 "Invalid resource identifier."⟩])
  else
    let (resources,added) := t.resources.tryAdd r.id r
    let (services,providers) :=
      claimNames t.services r.provides r.id "provider_conflict" (path++utf16 "/provides")
    let (mutators,clashes) :=
      claimNames t.mutators r.mutates r.id "mutator_conflict" (path++utf16 "/mutates")
    ({ resources, services, mutators },
      report (!added) "duplicate_resource" path "Resource IDs must be unique." ++
        report (!digest r.artifactDigest) "invalid_digest" path "Expected lower-case SHA-256." ++
        checkNames r.dependencies (path++utf16 "/dependencies") ++
        checkNames r.requires (path++utf16 "/requires") ++
        checkNames r.provides (path++utf16 "/provides") ++
        checkNames r.mutates (path++utf16 "/mutates") ++ providers ++ clashes)

def addResources (t : ResourceTables) : List ResourceInput → ResourceTables × List Diagnostic
  | [] => (t,[])
  | r :: rest =>
    let (t,issues) := addResource t r
    let (t,later) := addResources t rest
    (t,issues++later)

def assetPath (id : Utf16) : Utf16 := utf16 "assets/"++id

def addAsset (assets : Dictionary Utf16 AssetInput) (a : AssetInput) :
    Dictionary Utf16 AssetInput × List Diagnostic :=
  let path := assetPath a.id
  if !assetIdentifier (some a.id) then
    (assets,[⟨"invalid_asset_id",path,utf16 "Invalid namespaced AssetRef."⟩])
  else
    let (assets,added) := assets.tryAdd a.id a
    (assets,
      report (!added) "duplicate_asset" path "AssetRef must be unique." ++
        report (!digest a.artifactDigest) "invalid_digest" path "Expected lower-case SHA-256." ++
        report (a.gameplayCritical && a.optionalDownload) "critical_optional_asset" path
          "Gameplay closure cannot be optional." ++
        report (256 < a.dependencies.length || a.dependencies.any (!assetIdentifier ·))
          "invalid_dependencies" path "Invalid/bounded dependency list required." ++
        report (repeats a.dependencies) "duplicate_dependency" path "Repeated dependency.")

def addAssets (assets : Dictionary Utf16 AssetInput) :
    List AssetInput → Dictionary Utf16 AssetInput × List Diagnostic
  | [] => (assets,[])
  | a :: rest =>
    let (assets,issues) := addAsset assets a
    let (assets,later) := addAssets assets rest
    (assets,issues++later)

/-! The graphs. -/

/-- `HashSet.Add` -/
def insertLast (s : List Utf16) (k : Utf16) : List Utf16 := if k ∈ s then s else s++[k]

/-- One loop over names that adds an edge for each to what it resolves to: `none` where nothing
has the name, `some none` where the name makes no edge. -/
def collectEdges (resolve : Utf16 → Option (Option Utf16)) (code : String) (path : Utf16) :
    List Utf16 → List Utf16 → List Utf16 × List Diagnostic
  | [], edges => (edges,[])
  | name :: rest, edges =>
    match resolve name with
    | none =>
      let (edges,later) := collectEdges resolve code path rest edges
      (edges,⟨code,path,name⟩ :: later)
    | some none => collectEdges resolve code path rest edges
    | some (some target) => collectEdges resolve code path rest (insertLast edges target)

/-- `d.ContainsKey(name)` and then an edge to the name. -/
def defined {V : Type} (d : Dictionary Utf16 V) (name : Utf16) : Option (Option Utf16) :=
  (d.get? name).map fun _ => some name

def provided (services : Dictionary Utf16 Utf16) (id service : Utf16) : Option (Option Utf16) :=
  (services.get? service).map fun provider => if provider ≠ id then some provider else none

/-- The edges of one resource; no other turn of the loop touches its set. -/
def resourceEdges (t : ResourceTables) (id : Utf16) (r : ResourceInput) :
    List Utf16 × List Diagnostic :=
  let (edges,missing) := collectEdges (defined t.resources) "missing_dependency" (resourcePath id)
    (wellNamed identifier r.dependencies) []
  let (edges,unprovided) := collectEdges (provided t.services id) "missing_provider"
    (resourcePath id) (wellNamed identifier r.requires) edges
  (edges,missing++unprovided)

def assetEdges (assets : Dictionary Utf16 AssetInput) (id : Utf16) (a : AssetInput) :
    List Utf16 × List Diagnostic :=
  collectEdges (defined assets) "missing_asset" (assetPath id)
    (wellNamed assetIdentifier a.dependencies) []

/-- A graph with the diagnostics of its edges. -/
def buildGraph {V : Type} (edges : Utf16 → V → List Utf16 × List Diagnostic)
    (d : Dictionary Utf16 V) : Dictionary Utf16 (List Utf16) × List Diagnostic :=
  (d.mapValues fun id v => (edges id v).1,d.entries.flatMap fun x => (edges x.1 x.2).2)

/-- `edges[id]` -/
def targets (edges : Dictionary Utf16 (List Utf16)) (id : Utf16) : List Utf16 :=
  (edges.get? id).getD []

/-- The loop over `pending`: an asset that the gameplay needs cannot be optional. -/
def criticalClosure (assets : Dictionary Utf16 AssetInput) (edges : Dictionary Utf16 (List Utf16)) :
    List Diagnostic :=
  let pending := (assets.entries.filter (·.2.gameplayCritical)).map Prod.fst
  (visit assets.keys (targets edges) [] pending).flatMap fun id =>
    report ((assets.get? id).any (·.optionalDownload)) "critical_optional_asset" (assetPath id)
      "Required by gameplay closure."

/-- `Order(StringComparer.Ordinal)` -/
def ordinalOrder (ids : List Utf16) : List Utf16 := ids.mergeSort fun a b => decide (a ≤ b)

def sort (edges : Dictionary Utf16 (List Utf16)) (path : String) : List Utf16 × List Diagnostic :=
  let (result,complete) := layers edges.keys (targets edges) ordinalOrder []
  (result,if complete then [] else
    [⟨"dependency_cycle",utf16 path,
      (utf16 ", ").intercalate (ordinalOrder (edges.keys.filter (· ∉ result)))⟩])

/-! The rest of the plan. -/

def missingCapabilities (available required : List (Option Utf16)) : List Diagnostic :=
  let available := wellNamed identifier available
  ((wellNamed identifier required).filter (· ∉ available)).map fun c =>
    ⟨"missing_capability",utf16 "requiredCapabilities",c⟩

def badRecovery (b : RecoveryInput) : Bool :=
  b.maxActorOperations ≤ 0 || b.maxActorOperations > b.maxResourceOperations ||
    b.maxResourceOperations > b.maxWorldOperations ||
    b.maxWorldOperations > b.maxProcessOperations ||
    b.maxActorOperations > 32 || b.maxResourceOperations > 128 ||
    b.maxWorldOperations > 1024 || b.maxProcessOperations > 4096 ||
    (b.maxQueuedBytes ≤ 0 || b.maxQueuedBytes > 8*1024*1024) ||
    (b.maxBaselineBytes ≤ 0 || b.maxBaselineBytes > 8*1024*1024) ||
    (b.syncTimeoutMilliseconds ≤ 0 || b.syncTimeoutMilliseconds > 30000) ||
    (b.maxSyncRestarts < 0 || b.maxSyncRestarts > 2) ||
    (b.maxWorkerRestarts < 0 || b.maxWorkerRestarts > 3)

def overLimit (input : WorldPlanInput) : Bool :=
  input.resources.length > 64 || input.assets.length > 256 ||
    input.requiredCapabilities.length > 128 || input.availableCapabilities.length > 128

def rejected (sourceDigest : Utf16) (issue : Diagnostic) : PlanValidation where
  valid := false
  productionEligible := false
  sourceDigest
  resourceOrder := []
  assetOrder := []
  diagnostics := [issue]

/-- `Validate` from the deserialized plan on; `sourceDigest` is the SHA-256 of its document. -/
def validate (sourceDigest : Utf16) (input : WorldPlanInput) : PlanValidation :=
  if overLimit input then
    rejected sourceDigest ⟨"collection_limit",utf16 "$",utf16 "Plan cardinality exceeded."⟩
  else if input.resources.any Option.isNone || input.assets.any Option.isNone then
    rejected sourceDigest ⟨"null_element",utf16 "$",utf16 "Null definition is not allowed."⟩
  else
    let header := report (input.schemaVersion ≠ 1) "unsupported_schema" (utf16 "schemaVersion")
        "D1 foundation accepts version 1 only." ++
      report (!identifier (some input.worldId)) "invalid_identifier" (utf16 "worldId")
        "Use a bounded lower-case identifier."
    let (t,resourceIssues) := addResources {} input.resources.reduceOption
    let (edges,edgeIssues) := buildGraph (resourceEdges t) t.resources
    let (assets,assetIssues) := addAssets .empty input.assets.reduceOption
    let (assetEdges,assetEdgeIssues) := buildGraph (assetEdges assets) assets
    let closure := criticalClosure assets assetEdges
    let capabilities := checkNames input.requiredCapabilities (utf16 "requiredCapabilities") ++
      checkNames input.availableCapabilities (utf16 "availableCapabilities") ++
      missingCapabilities input.availableCapabilities input.requiredCapabilities
    let recovery := report (badRecovery input.recovery) "invalid_recovery_budget" (utf16 "recovery")
      "D1 bounded profile or hierarchy violated."
    let (resourceOrder,cycle) := sort edges "resources"
    let (assetOrder,assetCycle) := sort assetEdges "assets"
    let diagnostics := header ++ resourceIssues ++ edgeIssues ++ assetIssues ++ assetEdgeIssues ++
      closure ++ capabilities ++ recovery ++ cycle ++ assetCycle
    { valid := diagnostics.isEmpty, productionEligible := false, sourceDigest, resourceOrder,
      assetOrder, diagnostics }

end WorldPlanValidator
end Saex
