import Mathlib.Data.List.Sort
import Saex.Dictionaries
import Saex.LoggedRuns
import Saex.PeStartupInspector

/-! The imports and exports that managed/Saex.Tools/PeLinkageInspector.cs reads, over the reader
of PeStartupInspector.cs. A `DirectoryEntry` has `int` properties, the texts are ASCII, and the
bytes read from the stream are logged. -/
namespace Saex
open LittleEndian LoggedRuns

structure DirectoryEntry where
  relativeVirtualAddress : ℤ
  size : ℤ
deriving DecidableEq

/-- The exceptions, of which `InvalidDataException` is the reader's own. -/
inductive ManagedError where
  | invalidData (reason : String)
  | overflow
  | argument
  | endOfStream
  | invalidOperation
deriving DecidableEq

/-- The stream with its headers. -/
structure PeStream where
  headers : ManagedHeaders
  file : List UInt8

/-- Bytes read for an RVA, and where in the file they are. -/
structure StreamRead where
  rva : BitVec 32
  size : ℕ
  position : ℤ
deriving DecidableEq

abbrev Reading := Logged StreamRead ManagedError

abbrev Ascii := List UInt8

def ascii (s : String) : Ascii := s.toList.map fun c => .ofNat c.toNat

def demand (c : Bool) (reason : String) : Reading Unit := require c (.invalidData reason)

/-- `checked((uint)n)` -/
def checkedUInt (n : ℤ) : Except ManagedError (BitVec 32) :=
  if 0 ≤ n ∧ n < 2^32 then .ok (.ofInt 32 n) else .error .overflow

/-- `checked(x + n)` -/
def checkedAdd (x : BitVec 32) (n : ℕ) : Except ManagedError (BitVec 32) :=
  if x.toNat+n < 2^32 then .ok (x+.ofNat 32 n) else .error .overflow

namespace PeStartupInspector

def maxImports : ℕ := 128

section Reader
variable (pe : PeStream)

def streamOffset (rva : BitVec 32) (size : ℤ) : Except ManagedError ℤ :=
  (offset pe.headers rva size).mapError .invalidData

/-- `stream.Position = Offset(rva, n)` and `ReadExactly`. -/
def readExactly (rva : BitVec 32) (n : ℕ) : Reading (List UInt8) := do
  let p ← streamOffset pe rva n
  require (0 ≤ p) .argument
  require (p+n ≤ pe.file.length) .endOfStream
  record ⟨rva,n,p⟩
  return (pe.file.drop p.toNat).take n

/-- `stream.Position = Offset(rva, 1)` and `ReadByte`, which is -1 at the end of the stream. -/
def readByte (rva : BitVec 32) : Reading (Option UInt8) := do
  let p ← streamOffset pe rva 1
  require (0 ≤ p) .argument
  match pe.file[p.toNat]? with
  | none => return none
  | some b =>
    record ⟨rva,1,p⟩
    return some b

def number (rva : BitVec 32) : Reading (BitVec 32) := return read 32 (← readExactly pe rva 4)

def fromVa (va : BitVec 32) : Except ManagedError (BitVec 32) :=
  if pe.headers.imageBase ≤ va.toNat ∧
      (va.toNat-pe.headers.imageBase : ℤ) < pe.headers.sizeOfImage%2^64 then
    checkedUInt (va.toNat-pe.headers.imageBase)
  else .error (.invalidData "startup_va_bounds")

def directory (d : DirectoryEntry) (minimum : ℤ) : Except ManagedError Bool := do
  if d.relativeVirtualAddress = 0 ∧ d.size = 0 then return false
  if ¬(d.relativeVirtualAddress > 0 ∧ d.size ≥ minimum ∧ d.size ≤ 1024*1024) then
    throw (.invalidData "startup_directory_bounds")
  let rva ← checkedUInt d.relativeVirtualAddress
  let _ ← streamOffset pe rva d.size
  return true

/-- What the two loops over the bytes of a text refuse. -/
structure TextReasons where
  bounds : String
  byte : String
  limit : String

/-- Up to `left` more bytes before `stop` and their NUL. -/
def textBytes (rva : BitVec 32) (stop : ℕ) (accepted : UInt8 → Bool) (reasons : TextReasons) :
    ℕ → Ascii → Reading Ascii
  | 0, _ => throw (.invalidData reasons.limit)
  | left+1, bytes => do
    let at' ← checkedAdd rva bytes.length
    demand (at'.toNat < stop) reasons.bounds
    match ← readByte pe at' with
    | none => throw (.invalidData reasons.byte)
    | some b =>
      if b = 0 then return bytes
      demand (accepted b) reasons.byte
      textBytes rva stop accepted reasons left (bytes++[b])

/-- `ToLowerInvariant` -/
def lowerAscii (b : UInt8) : UInt8 := if 65 ≤ b ∧ b ≤ 90 then b+32 else b

/-- `[A-Za-z0-9._-]` -/
def moduleChar (b : UInt8) : Bool :=
  (65 ≤ b && b ≤ 90) || (97 ≤ b && b ≤ 122) || (48 ≤ b && b ≤ 57) || b = 46 || b = 95 || b = 45

def moduleText (name : Ascii) : Bool :=
  0 < name.length && name ≠ [46] && !([46,46] <:+: name) && name.getLast? ≠ some 46 &&
    name.all moduleChar

def moduleName (rva : BitVec 32) : Reading Ascii := do
  -- There is no bound but the end of the addresses.
  let bytes ← textBytes pe rva (2^32) (· < 128)
    ⟨"startup_rva_bounds","startup_import_name","startup_import_name_limit"⟩ 128 []
  let name := bytes.map lowerAscii
  demand (moduleText name) "startup_import_name"
  return name

def stride (delay : Bool) : ℕ := if delay then 32 else 20

/-- The fields of the descriptor at an RVA. -/
def descriptorFields (delay : Bool) (at' : BitVec 32) : Reading (List (BitVec 32)) :=
  (List.range (stride delay/4)).mapM fun j => number pe (at'+.ofNat 32 (4*j))

def descriptorName (delay : Bool) (fields : List (BitVec 32)) : Reading (BitVec 32) :=
  if delay then do
    demand (fields.getD 0 0 = 0 || fields.getD 0 0 = 1) "startup_delay_attributes"
    if fields.getD 0 0 = 1 then return fields.getD 1 0 else fromVa pe (fields.getD 1 0)
  else return fields.getD 3 0

/-- The loop over the descriptors, `left` of which may follow, with the names so far. -/
def descriptorNames (d : DirectoryEntry) (delay : Bool) (start : BitVec 32) :
    ℕ → ℕ → List Ascii → Reading (List Ascii)
  | 0, _, _ => throw (.invalidData "startup_import_termination")
  | left+1, i, names =>
    if ((i+1)*stride delay : ℤ) ≤ d.size then do
      let at' ← checkedAdd start (i*stride delay)
      let fields ← descriptorFields pe delay at'
      if fields.all (· = 0) then return names.insertionSort (· ≤ ·)
      demand (i < maxImports) "startup_import_limit"
      let name ← moduleName pe (← descriptorName pe delay fields)
      demand (name ∉ names) "startup_duplicate_import"
      descriptorNames d delay start left (i+1) (names++[name])
    else throw (.invalidData "startup_import_termination")

def imports (d : DirectoryEntry) (delay : Bool) : Reading (List Ascii) := do
  if !(← directory pe d (stride delay)) then return []
  descriptorNames pe d delay (← checkedUInt d.relativeVirtualAddress) (maxImports+1) 0 []

end Reader
end PeStartupInspector

inductive ImportKind where
  | normal | delay
deriving DecidableEq

structure NativeImportSymbol where
  module' : Ascii
  kind : ImportKind
  name : Option Ascii
  ordinal : Option (BitVec 32)
  hint : Option (BitVec 16)
  lookupRva : BitVec 32
  iatRva : BitVec 32
deriving DecidableEq

inductive ExportKind where
  | forwarder | executableSection | dataSection
deriving DecidableEq

structure NativeExportSymbol where
  ordinal : BitVec 32
  names : List Ascii
  targetRva : BitVec 32
  kind : ExportKind
  forwarder : Option Ascii
deriving DecidableEq

namespace PeLinkageInspector
open PeStartupInspector

def maxSymbols : ℕ := 4096
def maxSymbolBytes : ℕ := 512

section Reader
variable (pe : PeStream)

def word (rva : BitVec 32) : Reading (BitVec 16) := return read 16 (← readExactly pe rva 2)

def symbol (rva : BitVec 32) (stop : ℕ) : Reading Ascii := do
  let bytes ← textBytes pe rva stop (fun b => 32 ≤ b && b < 127)
    ⟨"linkage_string_bounds","linkage_symbol_ascii","linkage_symbol_length"⟩ maxSymbolBytes []
  demand (0 < bytes.length) "linkage_empty_symbol"
  return bytes

/-! Imports. -/

structure ThunkTables where
  nameRva : BitVec 32
  iat : BitVec 32
  lookup : BitVec 32

def thunkTables (delay : Bool) (at' : BitVec 32) : Reading ThunkTables :=
  if delay then do
    demand ((← number pe at') = 1) "linkage_legacy_delay_unsupported"
    let nameRva ← number pe (at'+4)
    let iat ← number pe (at'+12)
    let lookup ← number pe (at'+16)
    return { nameRva, iat, lookup }
  else do
    let nameRva ← number pe (at'+12)
    let iat ← number pe (at'+16)
    let lookup ← number pe at'
    if lookup = 0 then
      demand ((← number pe (at'+4)) = 0) "linkage_bound_iat_without_lookup"
      return { nameRva, iat, lookup := iat }
    return { nameRva, iat, lookup }

/-- What a nonzero lookup entry imports. -/
def importSymbol (module' : Ascii) (delay : Bool) (value lookupAt iatAt : BitVec 32) :
    Reading NativeImportSymbol :=
  let kind := if delay then .delay else .normal
  if value &&& 0x80000000 ≠ 0 then do
    demand (value &&& 0x7fff0000 = 0) "linkage_ordinal_reserved_bits"
    let ordinal := value &&& 0xffff
    demand (ordinal ≠ 0) "linkage_ordinal_zero"
    return ⟨module',kind,none,some ordinal,none,lookupAt,iatAt⟩
  else do
    let hint ← word pe value
    let name ← symbol pe (← checkedAdd value 2) (2^64-1)
    return ⟨module',kind,some name,none,some hint,lookupAt,iatAt⟩

/-- An entry of both thunk tables, with where it is. -/
structure ThunkPair where
  lookupAt : BitVec 32
  iatAt : BitVec 32
  value : BitVec 32
  iatValue : BitVec 32

def thunkPair (lookup iat : BitVec 32) (j : ℕ) : Reading ThunkPair := do
  let lookupAt ← checkedAdd lookup (4*j)
  let iatAt ← checkedAdd iat (4*j)
  let value ← number pe lookupAt
  let iatValue ← number pe iatAt
  return { lookupAt, iatAt, value, iatValue }

def thunksEnd (iatValue : BitVec 32) (output : List NativeImportSymbol) :
    Reading (List NativeImportSymbol) := do
  demand (iatValue = 0) "linkage_iat_termination"
  return output

/-- The loop over the entries from `j` on; there is room for so many more symbols. -/
def thunks (module' : Ascii) (delay : Bool) (lookup iat : BitVec 32) :
    ℕ → ℕ → List NativeImportSymbol → Reading (List NativeImportSymbol)
  | 0, j, output => do
    let t ← thunkPair pe lookup iat j
    if t.value = 0 then thunksEnd t.iatValue output
    else throw (.invalidData "linkage_import_symbol_limit")
  | room+1, j, output => do
    let t ← thunkPair pe lookup iat j
    if t.value = 0 then thunksEnd t.iatValue output
    else
      demand (t.iatValue ≠ 0) "linkage_iat_early_termination"
      let s ← importSymbol pe module' delay t.value t.lookupAt t.iatAt
      thunks module' delay lookup iat room (j+1) (output++[s])

def descriptorImports (start : BitVec 32) (delay : Bool) (i : ℕ)
    (output : List NativeImportSymbol) : Reading (List NativeImportSymbol) := do
  let at' ← checkedAdd start (i*stride delay)
  let t ← thunkTables pe delay at'
  demand (t.lookup ≠ 0 && t.iat ≠ 0) "linkage_missing_thunk_table"
  let module' ← moduleName pe t.nameRva
  thunks pe module' delay t.lookup t.iat (maxSymbols-output.length) 0 output

/-- The loop over the descriptors from `i` on, `left` of them. -/
def descriptors (start : BitVec 32) (delay : Bool) :
    ℕ → ℕ → List NativeImportSymbol → Reading (List NativeImportSymbol)
  | 0, _, output => return output
  | left+1, i, output => do
    descriptors start delay left (i+1) (← descriptorImports pe start delay i output)

def imports (d : DirectoryEntry) (delay : Bool) (output : List NativeImportSymbol) :
    Reading (List NativeImportSymbol) := do
  let modules ← PeStartupInspector.imports pe d delay
  if modules.length = 0 then return output
  descriptors pe (← checkedUInt d.relativeVirtualAddress) delay modules.length 0 output

/-! Exports. -/

/-- `SingleOrDefault` -/
def singleOrDefault {A : Type} (p : A → Bool) (xs : List A) : Except ManagedError (Option A) :=
  match xs.filter p with
  | [] => .ok none
  | [x] => .ok (some x)
  | _ => .error .invalidOperation

def inMemory (rva : BitVec 32) (s : ManagedSection) : Bool :=
  s.virtualAddress ≤ rva.toNat && rva.toNat-s.virtualAddress < max s.virtualSize s.sizeOfRawData

/-- The loop over the name table from `i` on, with the name before and the names of each slot. -/
def exportNames (names ordinals count : BitVec 32) :
    ℕ → ℕ → Option Ascii → Dictionary (BitVec 32) (List Ascii) →
      Reading (Dictionary (BitVec 32) (List Ascii))
  | 0, _, _, aliases => return aliases
  | left+1, i, previous, aliases => do
    let name ← symbol pe (← number pe (← checkedAdd names (4*i))) (2^64-1)
    demand (previous.all fun p => decide (p < name)) "linkage_export_name_order"
    let index := (← word pe (← checkedAdd ordinals (2*i))).setWidth 32
    demand (index < count) "linkage_export_name_index"
    let list := (aliases.get? index).getD []
    exportNames names ordinals count left (i+1) (some name) (aliases.put index (list++[name]))

/-- Whether an RVA lies in the export directory. -/
def inDirectory (at' : BitVec 32) (size : ℤ) (rva : BitVec 32) : Bool :=
  at' ≤ rva && rva.toNat < at'.toNat+size

def exportTarget (at' : BitVec 32) (size : ℤ) (rva : BitVec 32) :
    Reading (ExportKind × Option Ascii) :=
  if inDirectory at' size rva then
    return (.forwarder,some (← symbol pe rva (at'.toNat+size.toNat)))
  else do
    match ← singleOrDefault (inMemory rva) pe.headers.sectionHeaders with
    | none => throw (.invalidData "linkage_export_target_bounds")
    | some s =>
      if s.sectionCharacteristics &&& 0x20000000 ≠ 0 then
        let _ ← streamOffset pe rva 1
        return (.executableSection,none)
      return (.dataSection,none)

/-- The loop over the address table from `i` on; a slot of zero is a hole. -/
def exportEntries (at' : BitVec 32) (size : ℤ) (ordinalBase eat : BitVec 32)
    (aliases : Dictionary (BitVec 32) (List Ascii)) :
    ℕ → ℕ → List NativeExportSymbol → Reading (List NativeExportSymbol)
  | 0, _, result => return result
  | left+1, i, result => do
    let rva ← number pe (← checkedAdd eat (4*i))
    if rva = 0 then exportEntries at' size ordinalBase eat aliases left (i+1) result
    else
      let (kind,forwarder) ← exportTarget pe at' size rva
      let ordinal ← checkedAdd ordinalBase i
      let names := (aliases.get? (.ofNat 32 i)).getD []
      exportEntries at' size ordinalBase eat aliases left (i+1)
        (result++[⟨ordinal,names,rva,kind,forwarder⟩])

def exports (d : DirectoryEntry) : Reading (List NativeExportSymbol) := do
  if !(← directory pe d 40) then return []
  let at' ← checkedUInt d.relativeVirtualAddress
  let ordinalBase ← number pe (at'+16)
  let count ← number pe (at'+20)
  let nameCount ← number pe (at'+24)
  demand (count.toNat ≤ maxSymbols && nameCount.toNat ≤ maxSymbols) "linkage_export_symbol_limit"
  demand (count ≠ 0 || nameCount = 0) "linkage_export_name_without_table"
  if count = 0 then return []
  demand (ordinalBase.toNat+count.toNat-1 ≤ 2^32-1) "linkage_export_ordinal_overflow"
  let eat ← number pe (at'+28)
  let names ← number pe (at'+32)
  let ordinals ← number pe (at'+36)
  let _ ← streamOffset pe eat (count.toNat*4)
  if nameCount ≠ 0 then
    let _ ← streamOffset pe names (nameCount.toNat*4)
    let _ ← streamOffset pe ordinals (nameCount.toNat*2)
  let aliases ← exportNames pe names ordinals count nameCount.toNat 0 none .empty
  exportEntries pe at' d.size ordinalBase eat aliases count.toNat 0 []

end Reader

/-! The tables that `Compare` looks imports up in. -/

/-- `ToDictionary`, which throws where a key comes twice. -/
def toDictionary {K V : Type} [DecidableEq K] (xs : List (K × V)) :
    Except ManagedError (Dictionary K V) :=
  let (d,refused) := Dictionary.empty.addAll xs
  if refused.isEmpty then .ok d else .error .argument

def byOrdinal (es : List NativeExportSymbol) :
    Except ManagedError (Dictionary (BitVec 32) NativeExportSymbol) :=
  toDictionary (es.map fun e => (e.ordinal,e))

def byName (es : List NativeExportSymbol) :
    Except ManagedError (Dictionary Ascii NativeExportSymbol) :=
  toDictionary (es.flatMap fun e => e.names.map (·,e))

end PeLinkageInspector
end Saex
