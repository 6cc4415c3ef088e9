import Saex.CwdSeh
import Saex.BootstrapLifecycle

/-! engine/loader/cwd_lock.cpp and engine/loader/cwd_acquire.cpp: the checkpoints where the
wrapper selects a lock of the runtime library and acquires it. -/
namespace Saex
open LittleEndian

structure CwdLockSpec where
  selector : FrameTargetSpec
  tableRva : BitVec 32
  stopPrefix : Vector UInt8 16
deriving DecidableEq

def cwdLockRaw : Vector UInt8 17 :=
  #v[0x55,0x8b,0xec,0x8b,0x45,0x08,0x56,0x8d,0x34,0xc5,0,0,0,0,0x83,0x3e,0]

def cwdLockCode (s : CwdLockSpec) : Option (Vector UInt8 17) :=
  let f := s.selector
  if !validFrameTargetSpec f || f.targetRva > f.imageSize-33 || s.tableRva < 4096 ||
      s.tableRva.toNat%4 ≠ 0 || s.tableRva > f.imageSize-68 then none
  else some (writeDword 10 (f.imageBase+s.tableRva) cwdLockRaw)

def validCwdLockSpec (s : CwdLockSpec) (p : CwdSehSpec) : Bool :=
  let f := s.selector
  match cwdLockCode s with
  | some code =>
    !(!validFrameTargetSpec p.prologue || f.imageBase ≠ p.wrapper.imageBase ||
      f.imageSize ≠ p.wrapper.imageSize || f.callRva ≠ p.prologue.callRva+7 ||
      p.stopPrefix[0] ≠ 0x6a || p.stopPrefix[1] ≠ 7 ||
      f.call.toList ≠ (p.stopPrefix.toList.drop 2).take 5 ||
      f.targetPrefix.toList ≠ code.toList.take 16 ||
      s.stopPrefix[0] ≠ 0x75 || s.stopPrefix[1] ≠ 0x13) &&
    -- The sizes of these spans are far below the size of a valid image.
    validSpans f.imageSize [(p.wrapper.targetRva,28),(p.prologue.targetRva,59),(p.scopeRva,12),
      (p.handlerRva,16),(p.cleanupRva,16),(f.targetRva,33),(s.tableRva+52,16)]
  | none => false

def validCwdLockOrigin (saved : DispatchRegisters) (tib : TibWords) : Bool :=
  saved.esp ≥ 65568 && saved.esp ≤ 0xffffffff-68 && saved.esp.toNat%4 = 0 &&
    saved.eax = saved.esp+24 && saved.ebp = saved.esp+40 && saved.ebx = 0 && saved.esi = 0 &&
    saved.edi = 24 && saved.flags &&& 0x500 = 0 && tib.get 0 = saved.esp+24 && tib.get 2 ≥ 65536 &&
    tib.get 2 ≤ saved.esp-32 && tib.get 1 ≥ saved.esp+68 && tib.get 6 ≥ 65536 && tib.get 6 ≤ 0xffffffff-56

/-- `value` is the word in the slot of the lock. -/
def cwdLockFrame (s : CwdLockSpec) (stage : ℕ) (saved r : DispatchRegisters) (value : BitVec 32) :
    Bool :=
  if (cwdLockCode s).isNone || stage < 1 || stage > 2 || saved.esp < 65568 ||
      saved.esp > 0xffffffff-68 || saved.esp.toNat%4 ≠ 0 || saved.eax ≠ saved.esp+24 ||
      saved.ebp ≠ saved.esp+40 || saved.ebx ≠ 0 || saved.esi ≠ 0 || saved.edi ≠ 24 ||
      saved.flags &&& 0x500 ≠ 0 || r.flags &&& 0x500 ≠ 0 ||
      r.esp ≠ saved.esp-(if stage = 1 then 8 else 16) ||
      r.ebp ≠ (if stage = 1 then saved.ebp else saved.esp-12) ||
      r.eax ≠ (if stage = 1 then saved.eax else 7) ||
      r.esi ≠ (if stage = 1 then saved.esi else s.selector.imageBase+s.tableRva+56) ||
      r.ebx ≠ saved.ebx || r.ecx ≠ saved.ecx || r.edx ≠ saved.edx || r.edi ≠ saved.edi then false
  else if stage = 1 then (r.flags ^^^ saved.flags) &&& ~~~0x10000 = 0
  else
    -- CMP of an unsigned dword with 0.
    let flags := (if popcount (value &&& 255)%2 = 0 then 4 else 0 : Address) |||
      (if value = 0 then 64 else 0 : Address) ||| ((value >>> 24) &&& 128 : Address)
    r.flags &&& 0x8d5 = flags && (r.flags ^^^ saved.flags) &&& ~~~0x108d5 = 0

abbrev LockWindow := Vector (BitVec 32) 25

/-- Word `i` of the window is at `saved.esp-32+4*i`. -/
def cwdLockMemory (s : CwdLockSpec) (stage : ℕ) (saved : DispatchRegisters)
    (before now : LockWindow) : Bool :=
  if (cwdLockCode s).isNone || stage < 1 || stage > 2 || saved.esp < 65568 ||
      saved.esp > 0xffffffff-68 || saved.esp.toNat%4 ≠ 0 then false
  else
    let expected := (before.set 7 7).set 6 (s.selector.imageBase+s.selector.callRva+5)
    let expected := if stage = 2 then (expected.set 5 saved.ebp).set 4 saved.esi else expected
    expected = now

structure CwdAcquireSpec where
  iatRva : BitVec 32
  function : BootstrapExportSpec
  returnPrefix : Vector UInt8 16
deriving DecidableEq

def cwdAcquireRaw : Vector UInt8 11 := #v[0xff,0x36,0xff,0x15,0,0,0,0,0x5e,0x5d,0xc3]

def cwdAcquireCode (s : CwdAcquireSpec) (p : CwdLockSpec) : Option (Vector UInt8 11) :=
  let f := p.selector
  if !validFrameTargetSpec f || s.iatRva < 4096 || s.iatRva.toNat%4 ≠ 0 ||
      s.iatRva > f.imageSize-4 || f.targetRva > f.imageSize-49 ||
      f.callRva > f.imageSize-21 then none
  else some (writeDword 4 (f.imageBase+s.iatRva) cwdAcquireRaw)

def cwdAcquireFrame (stage : ℕ) (saved r : DispatchRegisters) (restoredEbp : BitVec 32) : Bool :=
  if stage < 1 || stage > 5 || saved.esp < 65544 || saved.esp > 0xffffffff-84 ||
      saved.esp.toNat%4 ≠ 0 || saved.eax ≠ 7 || saved.ebx ≠ 0 || saved.edi ≠ 24 ||
      saved.ebp ≠ saved.esp+4 || saved.flags &&& 0x540 ≠ 0 || r.flags &&& 0x500 ≠ 0 ||
      r.ebx ≠ saved.ebx || r.edi ≠ saved.edi then false
  else if r.esp ≠ (if stage = 1 then saved.esp else if stage = 2 then saved.esp-4
        else if stage = 3 then saved.esp-8 else if stage = 4 then saved.esp else saved.esp+12) ||
      r.esi ≠ (if stage = 5 then 0 else saved.esi) ||
      r.ebp ≠ (if stage = 5 then restoredEbp else saved.ebp) then false
  -- EnterCriticalSection returns nothing.
  else if stage ≥ 4 then (r.flags ^^^ saved.flags) &&& ~~~0x108d5 = 0
  else r.eax = saved.eax && r.ecx = saved.ecx && r.edx = saved.edx &&
    (r.flags ^^^ saved.flags) &&& ~~~0x10000 = 0

end Saex
