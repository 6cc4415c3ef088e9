import Mathlib.Data.List.Sort
import Saex.Dictionaries
import Saex.LittleEndian
import Saex.Recognizers
import Saex.UniqueMatch

/-! tools/check_bootstrap.py: the audit of the bootstrap DLL and of its linker map.
SHA-256 and Python's table of letters and digits are parameters. -/
namespace Saex.BootstrapAudit
open LittleEndian Recognizers

abbrev Text := List Char

inductive Stop
  | failed (why : String)
  /-- `decode("ascii")` of a byte that is not. -/
  | undecodable

abbrev Audited := Except Stop

def require (ok : Prop) [Decidable ok] (why : String) : Audited Unit := refuseIf (¬ok) (.failed why)

structure AuditedSection where
  rva : ℕ
  rawSize : ℕ
  raw : ℕ
  executable : Bool

structure ExportEntry where
  rva : ℕ
  prefixHex : Text
  highlowOffsets : List ℕ

structure Report where
  scope : String := "bootstrap-artifact-audit"
  sha256 : Text
  mapSha256 : Text
  imports : List Text
  exports : List Text
  exportEntries : Dictionary Text ExportEntry
  preferredImageBase : ℕ
  tlsDirectory : Bool := false
  crtBuckets : List Text
  canAttach : Bool := false

def exportNames : List Text :=
  ["SaexBootstrapInitialize".toList,"SaexBootstrapQuery".toList,"SaexBootstrapStop".toList]

def importNames : List Text :=
  ["kernel32.dll","bcrypt.dll","msvcp140d.dll","msvcp140.dll","vcruntime140d.dll",
    "vcruntime140.dll","ucrtbased.dll","ucrtbase.dll","api-ms-win-crt-runtime-l1-1-0.dll",
    "api-ms-win-crt-heap-l1-1-0.dll","api-ms-win-crt-string-l1-1-0.dll",
    "api-ms-win-crt-stdio-l1-1-0.dll","api-ms-win-crt-convert-l1-1-0.dll"].map String.toList

/-- The order of strings, by code points. -/
def notAfter : Text → Text → Bool
  | [], _ => true
  | _ :: _, [] => false
  | a :: as, b :: bs => if a = b then notAfter as bs else a.toNat < b.toNat

def sorted (xs : List Text) : List Text := xs.insertionSort (notAfter · ·)

def hexDigit (n : ℕ) : Char := Char.ofNat (if n < 10 then 48+n else 87+n)

/-- `bytes.hex()` -/
def hex (bs : List UInt8) : Text := bs.flatMap fun b => [hexDigit (b.toNat/16),hexDigit (b.toNat%16)]

section Image
variable (data : List UInt8)

def number (width p : ℕ) : Audited ℕ := do
  require (p+width ≤ data.length) "pe_bounds"
  return field width data p

/-- The header checks: where the optional header and the section table are. -/
def headers : Audited (ℕ × ℕ × ℕ) := do
  require (64 ≤ data.length ∧ data.length ≤ 16*1024*1024 ∧ data.take 2 = [0x4d,0x5a])
    "artifact_size_or_mz"
  let pe ← number data 4 60
  let signature ← number data 4 pe
  require (signature = 0x4550) "artifact_must_be_x86"
  let machine ← number data 2 (pe+4)
  require (machine = 0x14c) "artifact_must_be_x86"
  let characteristics ← number data 2 (pe+22)
  require (characteristics &&& 0x2000 ≠ 0) "artifact_must_be_dll"
  let count ← number data 2 (pe+6)
  let optional := pe+24
  require (1 ≤ count ∧ count ≤ 96) "artifact_layout"
  let magic ← number data 2 optional
  require (magic = 0x10b) "artifact_layout"
  let optionalSize ← number data 2 (pe+20)
  require (optionalSize ≥ 224) "artifact_directories"
  let directories ← number data 4 (optional+92)
  require (directories = 16) "artifact_directories"
  return (optional,optional+optionalSize,count)

def sectionEntry (p : ℕ) : Audited AuditedSection := do
  let _size ← number data 4 (p+8)
  let rva ← number data 4 (p+12)
  let rawSize ← number data 4 (p+16)
  let raw ← number data 4 (p+20)
  require (raw+rawSize ≤ data.length) "section_bounds"
  let flags ← number data 4 (p+36)
  return { rva, rawSize, raw, executable := flags &&& 0x20000000 ≠ 0 }

def sections (table count : ℕ) : Audited (List AuditedSection) :=
  (List.range count).mapM fun i => sectionEntry data (table+i*40)

variable (optional : ℕ)

def directory (index : ℕ) : Audited (ℕ × ℕ) := do
  let rva ← number data 4 (optional+96+index*8)
  let size ← number data 4 (optional+100+index*8)
  return (rva,size)

def absentDirectories : Audited Unit :=
  [(9,"tls_directory_not_allowed"),(13,"delay_import_not_allowed"),(14,"clr_not_allowed")].forM
    fun (index,why) => do
      let found ← directory data optional index
      require (found = (0,0)) why

variable (table : List AuditedSection)

def holds (rva length : ℕ) (s : AuditedSection) : Bool :=
  s.rva ≤ rva && rva+length ≤ s.rva+s.rawSize

/-- The file offset of an address, when one section alone has it. -/
def offset (rva length : ℕ) : Audited ℕ :=
  match UniqueMatch.only (holds rva length) (fun s => s.raw+rva-s.rva) table with
  | some p => if 0 < length then .ok p else .error (.failed "rva_not_unique_file_backed")
  | none => .error (.failed "rva_not_unique_file_backed")

def rnum (width rva : ℕ) : Audited ℕ := do
  let p ← offset table rva width
  number data width p

def decodeAscii (bs : List UInt8) : Audited Text :=
  if bs.all (· < 128) then .ok (bs.map fun b => Char.ofNat b.toNat) else .error .undecodable

/-- The loop of `string`, with the rounds left and the bytes so far. -/
def stringLoop : ℕ → ℕ → List UInt8 → Audited Text
  | 0, _, _ => .error (.failed "artifact_string_limit")
  | rounds+1, rva, result => do
    let p ← offset table rva 1
    -- The offset is in the file, like all offsets in a section.
    let byte := data.getD p 0
    if byte = 0 then decodeAscii result else stringLoop rounds (rva+1) (result++[byte])

def string (rva : ℕ) : Audited Text := stringLoop data table 128 rva []

/-- The loop over the import descriptors; the flag says whether one ended the table. -/
def importLoop (importsRva : ℕ) : List ℕ → List Text → Audited (List Text × Bool)
  | [], imports => .ok (imports,false)
  | descriptor :: rest, imports => do
    let fields ← (List.range 5).mapM fun n => rnum data table 4 (importsRva+descriptor+n*4)
    if fields.all (· = 0) then return (imports,true)
    else
      let name := (← string data table (fields.getD 3 0)).map Char.toLower
      require (name ∈ importNames ∧ name ∉ imports)
        ("unexpected_import: "++String.ofList name)
      importLoop importsRva rest (imports++[name])

def imports : Audited (List Text) := do
  let (importsRva,importsSize) ← directory data optional 1
  require (20 ≤ importsSize ∧ importsSize ≤ 20*33) "import_directory_size"
  -- `range(0, importsSize - 19, 20)`
  let (imports,terminated) ← importLoop data table importsRva (List.range' 0 (importsSize/20) 20) []
  require (terminated ∧ "kernel32.dll".toList ∈ imports ∧ "bcrypt.dll".toList ∈ imports)
    "import_set_or_termination"
  return imports

structure ExportDirectory where
  rva : ℕ
  size : ℕ
  functions : ℕ
  names : ℕ
  ordinals : ℕ

def exportDirectory : Audited ExportDirectory := do
  let (rva,size) ← directory data optional 0
  require (40 ≤ size ∧ size ≤ 4096) "export_directory_size"
  let count ← rnum data table 4 (rva+20)
  require (count = 3) "export_count"
  let named ← rnum data table 4 (rva+24)
  require (named = 3) "export_count"
  let functions ← rnum data table 4 (rva+28)
  let names ← rnum data table 4 (rva+32)
  let ordinals ← rnum data table 4 (rva+36)
  return { rva, size, functions, names, ordinals }

abbrev Exports := List Text × Dictionary Text ExportEntry

def exportStep (e : ExportDirectory) (found : Exports) (i : ℕ) : Audited Exports := do
  let name ← string data table (← rnum data table 4 (e.names+4*i))
  let ordinal ← rnum data table 2 (e.ordinals+2*i)
  require (ordinal < 3) "export_ordinal"
  let target ← rnum data table 4 (e.functions+4*ordinal)
  require (¬(e.rva ≤ target ∧ target < e.rva+e.size)) "forwarded_export"
  require ((table.filter (·.executable)).any (holds target 20)) "export_not_executable"
  require (∀ item ∈ found.2.entries.map Prod.snd, 20 ≤ ((target : ℤ)-item.rva).natAbs)
    "export_target_overlap"
  let p ← offset table target 20
  return (found.1++[name],found.2.put name
    { rva := target, prefixHex := hex ((data.drop p).take 20), highlowOffsets := [] })

def exports : Audited Exports := do
  let e ← exportDirectory data optional table
  let found ← (List.range 3).foldlM (exportStep data table e) ([],.empty)
  require ((∀ name ∈ found.1, name ∈ exportNames) ∧ ∀ name ∈ exportNames, name ∈ found.1)
    "unexpected_exports"
  return found

abbrev Relocations := List ℕ × Dictionary Text ExportEntry

/-- One entry of a block. The loop over the exports refuses with one message only, so all
of them are checked before the fixup is noted. -/
def relocationStep (page : ℕ) (found : Relocations) (value : ℕ) : Audited Relocations := do
  let kind := value >>> 12
  let target := page+(value &&& 4095)
  if kind = 0 then return found
  else
    require (kind = 3) "unsupported_relocation"
    let imageSize ← number data 4 (optional+56)
    require (target+4 ≤ imageSize) "relocation_target"
    require (∀ entry ∈ found.2.entries.map Prod.snd,
      (target+4 ≤ entry.rva ∨ target ≥ entry.rva+20) ∨
        (entry.rva ≤ target ∧ target+4 ≤ entry.rva+20)) "export_prefix_partial_relocation"
    return (found.1++[target],found.2.mapValues fun _ entry =>
      if target+4 ≤ entry.rva ∨ target ≥ entry.rva+20 then entry
      else { entry with highlowOffsets := entry.highlowOffsets++[target-entry.rva] })

def relocationBlock (rva page size : ℕ) (found : Relocations) : Audited Relocations :=
  -- `range(8, size, 2)`
  (List.range' 8 ((size-8)/2) 2).foldlM (fun found i => do
    let value ← rnum data table 2 (rva+i)
    relocationStep data optional page found value) found

/-- The loop over the blocks. Each block takes eight bytes at least, so the directory size
is more rounds than it needs. -/
def relocationLoop (rva size : ℕ) : ℕ → ℕ → Relocations → Audited Relocations
  | 0, _, found => .ok found
  | rounds+1, consumed, found =>
    if consumed < size then do
      require (size-consumed ≥ 8) "relocation_header"
      let page ← rnum data table 4 (rva+consumed)
      let blockSize ← rnum data table 4 (rva+consumed+4)
      require (blockSize ≥ 8 ∧ blockSize%4 = 0 ∧ blockSize ≤ size-consumed ∧ page%4096 = 0)
        "relocation_block"
      let found ← relocationBlock data optional table (rva+consumed) page blockSize found
      relocationLoop rva size rounds (consumed+blockSize) found
    else .ok found

def relocations (entries : Dictionary Text ExportEntry) : Audited Relocations := do
  let (rva,size) ← directory data optional 5
  require (0 < size ∧ size ≤ 1024*1024) "relocation_directory_size"
  let (targets,entries) ← relocationLoop data optional table rva size size 0 ([],entries)
  require ((targets.insertionSort (· ≤ ·)).IsChain fun a b => b ≥ a+4) "relocation_target_overlap"
  return (targets,entries)

end Image

/-! The linker map, and the regular expressions that look for records in it. -/
section LinkMap

def contains (pattern s : Text) : Bool := s.tails.any (pattern.isPrefixOf ·)

/-- `re.findall` for matches that are not empty, with the characters of the last match that
are still to be skipped and whether a line starts here. -/
def findAll {A : Type} (find : Bool → Text → Option (A × ℕ)) : ℕ → Bool → Text → List A
  | _, _, [] => []
  | skip+1, _, c :: rest => findAll find skip (c = '\n') rest
  | 0, lineStart, c :: rest =>
    match find lineStart (c :: rest) with
    | some (a,length) => a :: findAll find (length-1) (c = '\n') rest
    | none => findAll find 0 (c = '\n') rest

def asciiAlnum (c : Char) : Bool := c.isDigit || c.isUpper || c.isLower

/-- `str.isspace` -/
def isSpace (c : Char) : Bool :=
  let n := c.toNat
  (9 ≤ n && n ≤ 13) || (28 ≤ n && n ≤ 32) || n = 0x85 || n = 0xa0 || n = 0x1680 ||
    (0x2000 ≤ n && n ≤ 0x200a) || n = 0x2028 || n = 0x2029 || n = 0x202f || n = 0x205f || n = 0x3000

def hexValue (c : Char) : ℕ :=
  if c.isDigit then c.toNat-48 else if c.isUpper then c.toNat-55 else c.toNat-87

/-- `int(s, 16)` -/
def int16 (s : Text) : ℕ := s.foldl (fun n c => 16*n+hexValue c) 0

def isHex (c : Char) : Bool := c.isDigit || ('A' ≤ c && c ≤ 'F') || ('a' ≤ c && c ≤ 'f')

/-! The parts of a pattern: what follows a match of each. No part can give up characters
to the next one, which matches none of them. -/
def literal (pattern s : Text) : Option Text :=
  if pattern.isPrefixOf s then some (s.drop pattern.length) else none

def hexRun (n : ℕ) (s : Text) : Option (Text × Text) :=
  if n ≤ s.length ∧ (s.take n).all isHex then some (s.take n,s.drop n) else none

def run (p : Char → Bool) (s : Text) : Option (Text × Text) :=
  if s.takeWhile p = [] then none else some (s.takeWhile p,s.dropWhile p)

/-- `\.CRT\$[A-Za-z0-9_]+` -/
def bucketAt (_ : Bool) (s : Text) : Option (Text × ℕ) := do
  let rest ← literal ".CRT$".toList s
  let (name,_) ← run (fun c => asciiAlnum c || c = '_') rest
  return (".CRT$".toList++name,5+name.length)

structure MapRecord where
  number : Text
  start : Text
  length : Text
  name : Text

/-- `^\s*(hex{4}):(hex{8})\s+(hex{8})H\s+(\.CRT\$\w+)\s+DATA` -/
def recordAt (alnum : Char → Bool) (lineStart : Bool) (s : Text) : Option (MapRecord × ℕ) :=
  if !lineStart then none
  else do
    let (number,rest) ← hexRun 4 (s.dropWhile isSpace)
    let rest ← literal [':'] rest
    let (start,rest) ← hexRun 8 rest
    let (_,rest) ← run isSpace rest
    let (length,rest) ← hexRun 8 rest
    let rest ← literal ['H'] rest
    let (_,rest) ← run isSpace rest
    let rest ← literal ".CRT$".toList rest
    let (name,rest) ← run (fun c => alnum c || c = '_') rest
    let (_,rest) ← run isSpace rest
    let rest ← literal "DATA".toList rest
    return ({ number, start, length, name := ".CRT$".toList++name },s.length-rest.length)

/-- How `re.I` compares letters: a few letters beyond ASCII count as their lower case. -/
def foldCase (c : Char) : Char :=
  if c.isUpper then c.toLower
  else if c.toNat = 0x130 ∨ c.toNat = 0x131 then 'i'
  else if c.toNat = 0x17f then 's'
  else if c.toNat = 0x212a then 'k'
  else c

/-- `plugin[_-]?sdk|PluginBase\.obj|safetyhook|injector`, ignoring case. -/
def vendorObject (linkMap : Text) : Bool :=
  ["pluginsdk","plugin_sdk","plugin-sdk","pluginbase.obj","safetyhook","injector"].any fun pattern =>
    contains pattern.toList (linkMap.map foldCase)

def sentinels : List Text :=
  [".CRT$XCA",".CRT$XCZ",".CRT$XIA",".CRT$XIZ",".CRT$XPA",".CRT$XPZ",".CRT$XTA",".CRT$XTZ"].map
    String.toList

variable (data : List UInt8) (table : List AuditedSection)

def checkRecord (r : MapRecord) : Audited Unit := do
  let number := int16 r.number
  let size := int16 r.length
  -- The index of the section is one less than its number.
  require (1 ≤ number ∧ number-1 < table.length ∧
    (size = 4 ∨ r.name = ".CRT$XTZ".toList ∧ size = 8) ∧ r.name ∈ sentinels) "crt_map_range"
  let start := (table.map (·.rva)).getD (number-1) 0+int16 r.start
  (List.range' 0 (size/4) 4).forM fun delta => do
    let value ← rnum data table 4 (start+delta)
    require (value = 0) "crt_sentinel_not_null"

/-- The checks of the map, and the buckets it names. -/
def checkMap (alnum : Char → Bool) (linkMap : Text) : Audited (List Text) := do
  require (0 < linkMap.length ∧ linkMap.length ≤ 2*1024*1024) "map_size"
  require (contains "_DllMain@12".toList linkMap ∧ contains "bootstrap_module.obj".toList linkMap ∧
    contains "bootstrap_session.obj".toList linkMap) "map_missing_bootstrap_objects"
  let buckets := (findAll bucketAt 0 true linkMap).dedup
  require ((∀ name ∈ buckets, name ∈ sentinels) ∧ ∀ name ∈ sentinels, name ∈ buckets)
    "dynamic_initializer_bucket"
  let records := findAll (recordAt alnum) 0 true linkMap
  require (records.length = sentinels.length) "crt_map_records"
  records.forM (checkRecord data table)
  require (¬contains "??__E".toList linkMap ∧ ¬contains "??__F".toList linkMap)
    "dynamic_initializer_symbol"
  require (¬vendorObject linkMap) "vendor_object_in_bootstrap"
  return sorted buckets

end LinkMap

variable (hexdigest : List UInt8 → Text) (alnum : Char → Bool)

def audit (data : List UInt8) (linkMap : Text) : Audited Report := do
  let (optional,start,count) ← headers data
  let table ← sections data start count
  absentDirectories data optional
  let imports ← imports data optional table
  let (exports,entries) ← exports data optional table
  let (_,entries) ← relocations data optional table entries
  let preferredBase ← number data 4 (optional+28)
  require (preferredBase > 0 ∧ preferredBase%65536 = 0) "preferred_image_base"
  let crtBuckets ← checkMap data table alnum linkMap
  return {
    sha256 := hexdigest data
    mapSha256 := hexdigest (String.ofList linkMap).toUTF8.toList
    imports := sorted imports
    exports := sorted exports
    exportEntries := entries.mapValues fun _ entry =>
      { entry with highlowOffsets := entry.highlowOffsets.insertionSort (· ≤ ·) }
    preferredImageBase := preferredBase
    crtBuckets }

end Saex.BootstrapAudit
