import Saex.CwdLock

/-! engine/loader/cwd_query.cpp: the checkpoint where the wrapper's helper asks the system for the
current directory. -/
namespace Saex
open LittleEndian

structure CwdQuerySpec where
  helperRva : BitVec 32
  cookieRva : BitVec 32
  iatRva : BitVec 32
  thunkSlotRva : BitVec 32
  function : BootstrapExportSpec
  implementation : BootstrapExportSpec
  returnPrefix : Vector UInt8 16
  /-- From the local launch, never from a server. -/
  expectedDirectory : List UInt8
deriving DecidableEq

structure CwdQueryCode where
  wrapper : Vector UInt8 18
  helper : Vector UInt8 28
  query : Vector UInt8 18
deriving DecidableEq

def cwdQueryCode (s : CwdQuerySpec) (p : CwdLockSpec) : Option CwdQueryCode :=
  let f := p.selector
  if !validFrameTargetSpec f || f.imageSize < 4096+157 || f.callRva > f.imageSize-23 ||
      s.helperRva < 4096 || s.helperRva > f.imageSize-157 ||
      s.cookieRva < 4096 || s.cookieRva > f.imageSize-4 || s.cookieRva.toNat%4 ≠ 0 ||
      s.iatRva < 4096 || s.iatRva > f.imageSize-4 || s.iatRva.toNat%4 ≠ 0 then none
  else some {
    wrapper := writeDword 14 (s.helperRva-(f.callRva+23))
      #v[0x59,0x83,0x65,0xfc,0,0xff,0x75,0x0c,0xff,0x75,8,0x6a,0,0xe8,0,0,0,0]
    helper := writeDword 10 (f.imageBase+s.cookieRva)
      #v[0x55,0x8b,0xec,0x81,0xec,0x0c,1,0,0,0xa1,0,0,0,0,0x33,0x45,4,0x53,0x8b,0x5d,8,
        0x85,0xdb,0x89,0x45,0xfc,0x74,0x5f]
    query := writeDword 14 (f.imageBase+s.iatRva)
      #v[0x8d,0x85,0xf4,0xfe,0xff,0xff,0x50,0x68,4,1,0,0,0xff,0x15,0,0,0,0] }

def validCwdQuerySpec (s : CwdQuerySpec) (p : CwdLockSpec) : Bool :=
  let thunk : List UInt8 := [0x8b,0xff,0x55,0x8b,0xec,0x5d,0xff,0x25]
  !((cwdQueryCode s p).isNone || s.thunkSlotRva < 4096 || s.thunkSlotRva.toNat%4 ≠ 0 ||
    s.thunkSlotRva > 16*1024*1024-4 ||
    [s.function,s.implementation].any (fun e => e.rva < 4096 || e.rva > 16*1024*1024-20 ||
      e.preferredBase = 0 || e.preferredBase.toNat%65536 ≠ 0 ||
      (bootstrapExportPrefix e e.preferredBase).isNone) ||
    s.function.prefixBytes.toList.take 8 ≠ thunk || s.function.highlowMask ≠ 1 <<< 8 ||
    s.function.preferredBase > 0xffffffff-s.thunkSlotRva ||
    writeDword 8 (s.function.preferredBase+s.thunkSlotRva) s.function.prefixBytes ≠
      s.function.prefixBytes) &&
  validSpans p.selector.imageSize [(p.selector.callRva,23),(s.helperRva,157),(s.cookieRva,4),
    (s.iatRva,4),(p.tableRva+52,16)]

/-- A character that may stand at place `i` of a path, and is not `: / " < > | ? *`. -/
def cwdQueryCharacter (i : ℕ) (c : UInt8) : Bool :=
  !(c < 32 || c > 126 || (i ≠ 1 && c = 0x3a) || c = 0x2f || c = 0x22 || c = 0x3c || c = 0x3e ||
    c = 0x7c || c = 0x3f || c = 0x2a)

/-- A drive letter, a colon, a backslash and the rest of a path. -/
def cwdQueryDirectory (path : List UInt8) : Bool :=
  match path with
  | letter :: colon :: backslash :: _ =>
    path.length < 260 && ((letter ≥ 0x41 && letter ≤ 0x5a) || (letter ≥ 0x61 && letter ≤ 0x7a)) &&
      colon = 0x3a && backslash = 0x5c && path.zipIdx.all fun x => cwdQueryCharacter x.2 x.1
  | _ => false

/-- `bytes[0]` to `bytes[n-1]`, where there are so many. -/
def firstBytes {n : ℕ} (count : ℕ) (bytes : Vector UInt8 n) : Option (List UInt8) :=
  (List.range count).mapM fun i => bytes[i]?

/-- The reason for a refusal, empty for none. Bytes are read where they are looked for; `none` is an
index out of the array. -/
def cwdQueryResult (length : BitVec 32) (bytes : Vector UInt8 260) (expected : List UInt8) :
    Option String :=
  if !cwdQueryDirectory expected then some "cwd_query_expected_directory"
  else if length = 0 then some "cwd_query_directory_failed"
  else if length ≥ 260 then some "cwd_query_directory_truncated"
  else do
    let last ← bytes[length.toNat]?
    let actual ← firstBytes length.toNat bytes
    if last ≠ 0 || actual.contains 0 then return "cwd_query_directory_termination"
    else if !cwdQueryDirectory actual then return "cwd_query_directory_encoding"
    else if actual ≠ expected then return "cwd_query_directory_mismatch"
    -- The file manager later appends a backslash and a NUL in its 128 bytes.
    else if length > 126 then return "cwd_query_suffix_capacity"
    else return ""

def cwdQueryFrame (stage : ℕ) (s r : DispatchRegisters) (cookie helperReturn : BitVec 32) : Bool :=
  if stage < 1 || stage > 7 || s.esp < 65536+300 || s.esp > 0xffffffff-72 || s.esp.toNat%4 ≠ 0 ||
      s.ebp ≠ s.esp+44 || s.ebx ≠ 0 || s.esi ≠ 0 || s.edi ≠ 24 || s.flags &&& 0x500 ≠ 0 ||
      r.flags &&& 0x500 ≠ 0 || (r.flags ^^^ s.flags) &&& ~~~0x108d5 ≠ 0 || r.ebx ≠ 0 || r.esi ≠ 0 ||
      r.edi ≠ 24 then false
  else
    let esp := if stage = 1 then s.esp-8 else if stage = 2 then s.esp-12
      else if stage = 5 then s.esp-296 else if stage = 6 then s.esp-300 else s.esp-288
    if r.esp ≠ esp || r.ebp ≠ (if stage ≤ 2 then s.ebp else s.esp-16) then false
    -- The function may leave anything in the volatile registers and the flags.
    else if stage = 7 then true
    else if r.ecx ≠ 7 || r.edx ≠ s.edx then false
    else if stage ≤ 2 then r.eax = s.eax
    else if stage ≤ 4 then r.eax = cookie ^^^ helperReturn && r.flags &&& 0xc5 = 0x44
    else r.eax = s.esp-284

abbrev QueryWindow := Vector (BitVec 32) 21

def cwdQueryStack (stage : ℕ) (before now : QueryWindow) (buffer helperReturn : BitVec 32) : Bool :=
  if stage < 1 || stage > 7 then false
  else
    let expected := (((before.set 1 0).set 2 buffer).set 3 128).set 13 0
    let expected := if stage ≥ 2 then expected.set 0 helperReturn else expected
    now = expected

end Saex
