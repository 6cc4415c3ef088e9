import Saex.Recognizers
import Saex.WorldPlan

/-! managed/Saex.Tools/NativeStartupInspector.cs: the inventory of the modules beside an
executable. What the framework says of paths and letters is a parameter, and so is what the
rest of `PeStartupInspector.Read` makes of a file that has been opened and charged. -/
namespace Saex.StartupInventory
open Recognizers WorldPlanValidator

inductive ExceptionKind
  | invalidData | io | unauthorizedAccess | badImageFormat | overflow
  /-- One that `Inspect` lets through. -/
  | other
deriving DecidableEq

structure Exn where
  kind : ExceptionKind
  message : Utf16
deriving DecidableEq

structure StartupTls where
  present : Bool
  callbackRvas : List (BitVec 32)
  zeroFillBytes : BitVec 32

structure StartupModule (Engine : Type) where
  name : Utf16
  bytes : ℤ
  sha256 : Utf16
  isDll : Bool
  entryRva : BitVec 32
  imports : List Utf16
  delayImports : List Utf16
  hasBoundImports : Bool
  tls : StartupTls
  layoutNotes : List Utf16
  engine : Option Engine

structure StartupIssue where
  module : Utf16
  code : Utf16

structure StartupImportEdge where
  from' : Utf16
  requestedName : Utf16
  kind : Utf16
  localCandidate : Option Utf16

structure StartupSnapshot (Engine : Type) where
  engine : StartupModule Engine
  localModules : List (StartupModule Engine)
  imports : List StartupImportEdge
  extensionMarkers : List Utf16
  issues : List StartupIssue
  chargedBytes : ℤ

structure Inventory (Engine : Type) where
  snapshot : StartupSnapshot Engine
  inventoryDigest : Utf16

def maxDirectoryEntries : ℕ := 4096
def maxModules : ℕ := 128
def maxTotalBytes : ℤ := 256*1024*1024
def maxModuleBytes : ℤ := 64*1024*1024

/-- A file that could be opened: its length, and what comes of reading it as an executable
or, when the flag is set, as a library. -/
structure OpenedFile (Engine : Type) where
  length : ℤ
  module : Bool → Except Exn (StartupModule Engine)

/-- What the inspector works with: the framework, the path of the executable, and the files. -/
structure Surroundings (Engine : Type) where
  getFileName : Utf16 → Utf16
  toLowerInvariant : Utf16 → Utf16
  digest : StartupSnapshot Engine → Utf16
  path : Utf16
  rejectReparsePath : Utf16 → Except Exn Unit
  openFile : Utf16 → Except Exn (OpenedFile Engine)

def invalidData (message : String) : Exn := ⟨.invalidData,utf16 message⟩

/-- `Path.GetExtension`: from the last dot on, unless that is the last character. -/
def getExtension (name : Utf16) : Utf16 :=
  let tail := (name.reverse.takeWhile fun c => c ≠ 46 ∧ c ≠ 47 ∧ c ≠ 92).reverse
  let front := (name.reverse.dropWhile fun c => c ≠ 46 ∧ c ≠ 47 ∧ c ≠ 92).reverse
  if front.getLast? = some 46 ∧ tail ≠ [] then 46 :: tail else []

variable {Engine : Type} (w : Surroundings Engine)

/-- `Budget.Charge` -/
def charge (remaining size : ℤ) : Except Exn ℤ :=
  if size > remaining then .error (invalidData "startup_total_byte_limit") else .ok (remaining-size)

/-- `PeStartupInspector.Read`, and what is left of the budget. -/
def read (file : Utf16) (expectDll : Bool) (remaining : ℤ) : Except Exn (StartupModule Engine) × ℤ :=
  match w.rejectReparsePath file >>= fun _ => w.openFile file with
  | .error e => (.error e,remaining)
  | .ok opened =>
    if opened.length < 64 ∨ opened.length > maxModuleBytes then
      (.error (invalidData "startup_module_size"),remaining)
    else match charge remaining opened.length with
      | .error e => (.error e,remaining)
      -- Charged even if the metadata turns out to be bad.
      | .ok left => (opened.module expectDll,left)

/-- What the loop over the directory has found: the number of entries, the modules by their
names and the markers. -/
structure Found where
  entries : ℕ
  candidates : Dictionary Utf16 Utf16
  markers : List Utf16

def nameOf (entry : Utf16) : Utf16 := w.toLowerInvariant (w.getFileName entry)

/-- The names that mark an extension of the game. -/
def isMarker (name : Utf16) : Bool :=
  [utf16 "cleo",utf16 "modloader",utf16 "plugins",utf16 "scripts"].contains name ||
    name = nameOf w w.path++utf16 ".local" || name = nameOf w w.path++utf16 ".manifest"

def isCandidate (entry : Utf16) : Bool :=
  [utf16 ".dll",utf16 ".asi"].contains (getExtension (nameOf w entry))

/-- `SortedSet.Add` -/
def addMarker (markers : List Utf16) (name : Utf16) : List Utf16 :=
  if markers.contains name then markers else markers++[name]

def scanEntry (found : Found) (entry : Utf16) : Except Exn Found := do
  refuseIf (found.entries+1 > maxDirectoryEntries) (invalidData "startup_directory_entry_limit")
  let name := nameOf w entry
  let markers := if isMarker w name then addMarker found.markers name else found.markers
  if isCandidate w entry then
    refuseIf (found.candidates.entries.length ≥ maxModules) (invalidData "startup_module_count_limit")
    let (candidates,added) := found.candidates.tryAdd name entry
    refuseIf (added = false) (invalidData "startup_case_collision")
    return ⟨found.entries+1,candidates,
      if getExtension name = utf16 ".asi" then addMarker markers name else markers⟩
  else return ⟨found.entries+1,found.candidates,markers⟩

def scan : List Utf16 → Found → Except Exn Found
  | [], found => .ok found
  | entry :: rest, found => scanEntry w found entry >>= scan rest

/-- The modules and issues so far, and what is left of the budget. -/
structure Progress (Engine : Type) where
  modules : List (StartupModule Engine)
  issues : List StartupIssue
  remaining : ℤ

/-- The code of an issue, for the exceptions that are caught. -/
def issueCode (e : Exn) : Option Utf16 :=
  match e.kind with
  | .invalidData => some e.message
  | .badImageFormat => some (utf16 "startup_bad_pe")
  | .unauthorizedAccess => some (utf16 "startup_access_denied")
  | .overflow => some (utf16 "startup_numeric_overflow")
  | .io => some (utf16 "startup_file_io")
  | .other => none

/-- The body of the loop over the candidates. -/
def readCandidate (s : Progress Engine) (name file : Utf16) : Except Exn (Progress Engine) :=
  match read w file true s.remaining with
  | (.ok m,left) => .ok { s with modules := s.modules++[m], remaining := left }
  | (.error e,left) =>
    match issueCode e with
    | none => .error e
    | some code =>
      if e.message = utf16 "startup_total_byte_limit" then .error e
      else .ok { s with issues := s.issues++[⟨name,code⟩], remaining := left }

def readCandidates : List (Utf16 × Utf16) → Progress Engine → Except Exn (Progress Engine)
  | [], s => .ok s
  | (name,file) :: rest, s => readCandidate w s name file >>= readCandidates rest

/-- A `SortedDictionary` in the order of its keys. -/
def inKeyOrder (d : Dictionary Utf16 Utf16) : List (Utf16 × Utf16) :=
  d.entries.mergeSort fun a b => decide (a.1 ≤ b.1)

def edges (candidates : Dictionary Utf16 Utf16) (modules : List (StartupModule Engine)) :
    List StartupImportEdge :=
  modules.flatMap fun m =>
    [(utf16 "normal",m.imports),(utf16 "delay",m.delayImports)].flatMap fun x =>
      x.2.map fun name => ⟨w.toLowerInvariant m.name,name,x.1,
        if candidates.keys.contains name then some name else none⟩

/-- `Inspect`, with the entries of the directory in the order they are enumerated in. -/
def inspect (entries : List Utf16) : Except Exn (Inventory Engine) := do
  w.rejectReparsePath w.path
  match read w w.path false maxTotalBytes with
  | (.error e,_) => .error e
  | (.ok engine,left) =>
    let found ← scan w entries ⟨0,.empty,[]⟩
    let s ← readCandidates w (inKeyOrder found.candidates) ⟨[],[],left⟩
    let snapshot : StartupSnapshot Engine := {
      engine
      localModules := s.modules
      imports := edges w found.candidates (engine :: s.modules)
      extensionMarkers := ordinalOrder found.markers
      issues := s.issues
      chargedBytes := maxTotalBytes-s.remaining }
    return ⟨snapshot,w.digest snapshot⟩

end Saex.StartupInventory
