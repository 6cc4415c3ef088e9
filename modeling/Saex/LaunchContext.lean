import Mathlib.Data.UInt
import Saex.PeImage
import Saex.StrictSorts

/-! engine/observer/launch_context.cpp: the directory and the environment block that a
launch is prepared with. The functions of Windows and `std::sort` are parameters. -/
namespace Saex
open Recognizers

/-- A string of `wchar_t`, which has 16 bits. -/
abbrev Wide := List UInt16

/-- `a-b` in a `std::size_t`. -/
def Target.difference (t : Target) (a b : ℕ) : ℕ := (a+(t.words-b%t.words))%t.words

structure LaunchHost where
  /-- `CompareStringOrdinal`, ignoring case. -/
  compareStringOrdinal : Wide → Wide → ℕ
  /-- `std::sort` -/
  sort : (Wide → Wide → Bool) → List Wide → List Wide
  /-- SHA-256 of the bytes of a string, unless it fails. -/
  bcryptHash : Wide → Option (Vector UInt8 32)
  /-- `CreateFileW` for a directory, unless the handle is invalid. -/
  createFile : Wide → Option ℕ
  /-- The attributes of an open file, unless they cannot be read. -/
  fileAttributes : ℕ → Option (BitVec 32)
  /-- `GetFinalPathNameByHandleW`: the length it returns and the buffer it fills. -/
  finalPathName : ℕ → ℕ × Wide

structure EnvironmentBlock where
  units : ℕ
  ordered : List Wide
  block : Wide
deriving DecidableEq

structure PreparedLaunch where
  directory : Wide
  environment : Wide
  environmentHash : Vector UInt8 32
  entryCount : ℕ
  directoryHandle : ℕ

namespace LaunchContext

def maxEnvironmentUnits : ℕ := 65536
def maxEnvironmentEntries : ℕ := 1024
def maxPath : ℕ := 260

/-- `CSTR_LESS_THAN` and `CSTR_EQUAL` -/
def lessThan : ℕ := 1
def equal : ℕ := 2

def letter (c : UInt16) : Bool := (c ≥ 65 && c ≤ 90) || (c ≥ 97 && c ≤ 122)

def absoluteDrivePath : Wide → Bool
  | a :: b :: c :: rest =>
    letter a && b = 58 && (c = 92 || c = 47) && !(a :: b :: c :: rest).contains 0
  | _ => false

/-- `s.find(c, pos)` -/
def find (s : Wide) (c : UInt16) (pos : ℕ) : Option ℕ :=
  ((s.drop pos).findIdx? (· = c)).map (·+pos)

def key (entry : Wide) : Wide :=
  match find entry 61 (if entry.head? = some 61 then 1 else 0) with
  | none => []
  | some equal => entry.take equal

def validEntry (entry : Wide) : Bool :=
  if entry.isEmpty || entry.length > 32767 || entry.contains 0 then false
  else match key entry with
    | [] => false
    | c :: rest =>
      if c = 61 then
        -- a current directory of a drive, such as =C:=C:\games
        match rest with
        | [drive,colon] => colon = 58 && letter drive && absoluteDrivePath (entry.drop 4)
        | _ => false
      else true

/-- The loop over the entries, with the units counted so far. -/
def countUnits (t : Target) : ℕ → List Wide → Except String ℕ
  | units, [] => .ok units
  | units, entry :: rest => do
    refuseIf (!validEntry entry) "launch_environment_entry"
    refuseIf (t.sum entry.length 1 > t.difference maxEnvironmentUnits units)
      "launch_environment_limit"
    countUnits t (t.sum units (t.sum entry.length 1)) rest

variable (host : LaunchHost)

def before (a b : Wide) : Bool := host.compareStringOrdinal (key a) (key b) = lessThan

/-- The loop over the neighbours in the sorted entries. -/
def checkDuplicates : List Wide → Except String Unit
  | a :: b :: rest => do
    refuseIf (host.compareStringOrdinal (key a) (key b) ≠ lessThan) "launch_environment_duplicate"
    checkDuplicates (b :: rest)
  | _ => .ok ()

def buildBlock (ordered : List Wide) : Wide :=
  ordered.flatMap (·++[0])++[0]++(if ordered.isEmpty then [0] else [])

/-- From the number of entries to the block. -/
def environmentBlock (t : Target) (entries : List Wide) : Except String EnvironmentBlock := do
  refuseIf (entries.length > maxEnvironmentEntries) "launch_environment_limit"
  let units ← countUnits t (if entries.isEmpty then 2 else 1) entries
  let ordered := host.sort (before host) entries
  checkDuplicates host ordered
  return { units, ordered, block := buildBlock ordered }

/-- The directory as the system resolves it. -/
def resolveDirectory (directory : Wide) : Except String (ℕ × Wide) :=
  match host.createFile directory with
  | none => .error "launch_directory_unavailable"
  | some handle => do
    let attributes := (host.fileAttributes handle).getD 0
    refuseIf (attributes &&& 0x10 = 0) "launch_directory_unavailable"
    let (length,path) := host.finalPathName handle
    refuseIf (length = 0 ∨ length ≥ 32768) "launch_directory_resolution"
    let resolved := path.take length
    refuseIf (!([92,92,63,92].isPrefixOf resolved) ∨ !absoluteDrivePath (resolved.drop 4) ∨
      resolved.length-4 ≥ maxPath) "launch_directory_resolution"
    return (handle,resolved.drop 4)

/-- From the block on: its hash and the directory. -/
def finish (directory : Wide) (environment : EnvironmentBlock) : Except String PreparedLaunch :=
  match host.bcryptHash environment.block with
  | none => .error "launch_environment_hash_failed"
  | some environmentHash => do
    let (directoryHandle,directory) ← resolveDirectory host directory
    return { directory, environment := environment.block, environmentHash,
             entryCount := environment.ordered.length, directoryHandle }

def prepare (t : Target) (directory : Wide) (entries : List Wide) :
    Except String PreparedLaunch := do
  refuseIf (!absoluteDrivePath directory ∨ directory.length ≥ maxPath) "launch_directory_input"
  let environment ← environmentBlock host t entries
  finish host directory environment

end LaunchContext
end Saex
