import Saex.CwdQuery

/-! engine/loader/cwd_copy.cpp: the checkpoint where the helper copies the current directory into
the buffer of the file manager. -/
namespace Saex
open LittleEndian

structure CwdCopySpec where
  copierRva : BitVec 32
  returnPrefix : Vector UInt8 16
deriving DecidableEq

structure CwdCopyCode where
  checks : Vector UInt8 19
  capacity : Vector UInt8 5
  call : Vector UInt8 13
  entry : Vector UInt8 7
  body : Vector UInt8 131
deriving DecidableEq

def cwdCopyCode (s : CwdCopySpec) (q : CwdQuerySpec) (lock : CwdLockSpec) : Option CwdCopyCode :=
  if !validCwdQuerySpec q lock || lock.selector.imageSize < 4096+248 || s.copierRva < 4096 ||
      s.copierRva > lock.selector.imageSize-248 || q.helperRva > lock.selector.imageSize-247 ||
      !disjointSpans [(q.helperRva,247),(s.copierRva,248),(lock.selector.callRva,23),
        (q.cookieRva,4),(q.iatRva,4),(lock.tableRva+52,16)] then none
  else
    let code : CwdCopyCode := {
      checks := #v[0x85,0xc0,0x74,0xac,0x40,0x3d,4,1,0,0,0x77,0xa4,0x8b,0x4d,0x0c,0x85,0xc9,0x75,0x25]
      capacity := #v[0x3b,0x45,0x10,0x7e,0x10]
      call := writeDword 9 (s.copierRva-(q.helperRva+231))
        #v[0x8d,0x85,0xf4,0xfe,0xff,0xff,0x50,0x51,0xe8,0,0,0,0]
      entry := #v[0x57,0x8b,0x7c,0x24,8,0xeb,0x6e]
      -- The copying loop; the entry for appending between the two is never entered.
      body := #v[0x8b,0x4c,0x24,0x0c,0xf7,0xc1,3,0,0,0,0x74,0x1d,0x8a,0x11,0x83,0xc1,1,0x84,0xd2,0x74,0x66,
        0x88,0x17,0x83,0xc7,1,0xf7,0xc1,3,0,0,0,0x75,0xea,0xeb,5,0x89,0x17,0x83,0xc7,4,
        0xba,0xff,0xfe,0xfe,0x7e,0x8b,1,3,0xd0,0x83,0xf0,0xff,0x33,0xc2,0x8b,0x11,0x83,0xc1,4,
        0xa9,0,1,1,0x81,0x74,0xe1,0x84,0xd2,0x74,0x34,0x84,0xf6,0x74,0x27,0xf7,0xc2,0,0,0xff,0,
        0x74,0x12,0xf7,0xc2,0,0,0,0xff,0x74,2,0xeb,0xc7,0x89,0x17,0x8b,0x44,0x24,8,0x5f,0xc3,
        0x66,0x89,0x17,0x8b,0x44,0x24,8,0xc6,0x47,2,0,0x5f,0xc3,0x66,0x89,0x17,0x8b,0x44,0x24,8,0x5f,0xc3,
        0x88,0x17,0x8b,0x44,0x24,8,0x5f,0xc3] }
    if q.returnPrefix.toList = code.checks.toList.take 16 then some code else none

/-- `parity` -/
def copyParity (v : BitVec 32) : BitVec 32 := if popcount (v &&& 255)%2 = 0 then 4 else 0

/-- `h` are the registers at the CALL of the helper, `a` those at the return of the function. -/
def cwdCopyFrame (stage : ℕ) (h a r : DispatchRegisters) (source destination length : BitVec 32) :
    Bool :=
  if stage < 1 || stage > 5 || length < 3 || length > 126 || h.esp < 65536+304 ||
      h.esp > 0xffffffff-72 || h.esp.toNat%4 ≠ 0 || h.ebp ≠ h.esp+44 || source ≠ h.esp-284 ||
      destination = 0 || destination > 0xffffffff-128 ||
      (source < destination+128 && destination < source+260) || a.esp ≠ h.esp-288 ||
      a.ebp ≠ h.esp-16 || a.eax ≠ length || a.ebx ≠ 0 || a.esi ≠ 0 || a.edi ≠ 24 ||
      a.flags &&& 0x500 ≠ 0 || r.flags &&& 0x500 ≠ 0 || (r.flags ^^^ a.flags) &&& ~~~0x108d5 ≠ 0 ||
      r.ebp ≠ a.ebp || r.ebx ≠ 0 || r.esi ≠ 0 || r.edi ≠ 24 then false
  else
    let esp := if stage ≤ 2 then h.esp-288 else if stage = 4 then h.esp-300 else h.esp-296
    let eax := if stage ≤ 2 then length+1 else if stage = 5 then destination else source
    if r.esp ≠ esp || r.eax ≠ eax then false
    -- The copier returns its destination and may leave anything in ECX, EDX and the flags.
    else if stage = 5 then true
    else if r.ecx ≠ destination || r.edx ≠ a.edx then false
    else if stage = 1 then
      r.flags &&& 0x8c5 = copyParity destination ||| (destination >>> 31)*0x80
    -- CMP length+1,128: every admitted length is below.
    else r.flags &&& 0x8d5 = 0x81 ||| copyParity (length+1-128)

/-- The buffer with four guard bytes on each side. -/
abbrev DirectoryWindow := Vector UInt8 136

/-- The byte that is expected at a place of the window; `none` is an index out of an array. -/
def copiedByte (before : DirectoryWindow) (source : Vector UInt8 260) (length : BitVec 32)
    (copied : Bool) (i : ℕ) : Option UInt8 :=
  if copied && i ≥ 4 && i-4 ≤ length.toNat then source[i-4]? else before[i]?

def cwdCopyBuffer (before after : DirectoryWindow) (source : Vector UInt8 260) (length : BitVec 32)
    (copied : Bool) : Option Bool :=
  if length < 3 || length > 126 then some false
  else do
    let last ← source[length.toNat]?
    let path ← firstBytes length.toNat source
    if last ≠ 0 || path.contains 0 then return false
    else (List.range 136).allM fun i => do
      return (← after[i]?) = (← copiedByte before source length copied i)

end Saex
