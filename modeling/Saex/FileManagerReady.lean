import Saex.CwdReturn

/-! engine/loader/file_manager_ready.cpp: the checkpoint where the lock is released and the file
manager appends its suffix to the current directory. -/
namespace Saex
open LittleEndian

structure FileManagerReadySpec where
  unlockRva : BitVec 32
  iatRva : BitVec 32
  epilogueRva : BitVec 32
  function : BootstrapExportSpec
deriving DecidableEq

structure FileManagerReadyCode where
  wrapper : Vector UInt8 24
  cleanup : Vector UInt8 9
  unlock : Vector UInt8 21
  epilogue : Vector UInt8 17
deriving DecidableEq

/-- The counterpart of the prologue that installs a handler. -/
def sehEpilogueRaw : Vector UInt8 17 :=
  #v[0x8b,0x4d,0xf0,0x64,0x89,0x0d,0,0,0,0,0x59,0x5f,0x5e,0x5b,0xc9,0x51,0xc3]

def fileManagerReadyCode (s : FileManagerReadySpec) (p : CwdReturnSpec) (l : CwdLockSpec)
    (seh : CwdSehSpec) (m : FileManagerEntrySpec) : Option FileManagerReadyCode :=
  let f := l.selector
  if (fileManagerBody m).isNone || !validCwdLockSpec l seh || f.imageBase ≠ m.manager.imageBase ||
      f.imageSize ≠ m.manager.imageSize || s.iatRva.toNat%4 ≠ 0 || s.function.rva < 4096 ||
      s.function.rva > 16*1024*1024-20 || s.function.preferredBase = 0 ||
      s.function.preferredBase.toNat%65536 ≠ 0 || s.function.highlowMask ≠ 0 ||
      !validSpans f.imageSize [(f.callRva+23,24),(seh.cleanupRva,9),(s.unlockRva,21),
        (s.epilogueRva,17),(s.iatRva,4),(l.tableRva+52,16),(m.manager.targetRva,51),
        (m.manager.callRva,21),(m.bufferRva-4,136),(m.suffixRva,2)] then none
  else
    let code : FileManagerReadyCode := {
      wrapper := writeDword 19 (s.epilogueRva-(f.callRva+46)) (writeDword 11 (seh.cleanupRva-(f.callRva+38))
        #v[0x83,0xc4,0x0c,0x89,0x45,0xe4,0x83,0x4d,0xfc,0xff,0xe8,0,0,0,0,0x8b,0x45,0xe4,0xe8,0,0,0,0,0xc3])
      cleanup := writeDword 3 (s.unlockRva-(seh.cleanupRva+7)) #v[0x6a,7,0xe8,0,0,0,0,0x59,0xc3]
      unlock := writeDword 15 (f.imageBase+s.iatRva) (writeDword 9 (f.imageBase+l.tableRva)
        #v[0x55,0x8b,0xec,0x8b,0x45,8,0xff,0x34,0xc5,0,0,0,0,0xff,0x15,0,0,0,0,0x5d,0xc3])
      epilogue := sehEpilogueRaw }
    if code.wrapper.toList.take 16 = p.returnPrefix.toList then some code else none

def fileManagerReadyFrame (stage : ℕ) (h caller r : DispatchRegisters) (destination length : BitVec 32) :
    Bool :=
  if stage < 1 || stage > 9 || h.esp < 65556 || h.esp > 0xffffffff-68 || h.esp.toNat%4 ≠ 0 ||
      h.ebp ≠ h.esp+44 || caller.esp ≠ h.esp+68 || destination = 0 || destination > 0xffffffff-128 ||
      length < 3 || length > 126 || caller.ebx ≠ 0 || caller.esi ≠ 0 || caller.edi ≠ 24 || r.ebx ≠ 0 ||
      r.esi ≠ 0 || r.flags &&& 0x500 ≠ 0 || (r.flags ^^^ h.flags) &&& ~~~0x108d5 ≠ 0 then false
  else
    let t := h.esp
    let tops := [t-16,t-20,t-12,t,t+48,t+52,t+60,t+60,t+68]
    if r.esp ≠ tops.getD (stage-1) 0 ||
        r.ebp ≠ (if stage ≤ 3 then t-12 else if stage = 4 then h.ebp else caller.ebp) ||
        r.edi ≠ (if stage = 7 || stage = 8 then destination+length else caller.edi) then false
    else if stage ≤ 2 then r.eax = 7
    -- LeaveCriticalSection returns nothing.
    else if stage = 3 then true
    else if stage ≤ 6 then r.eax = destination
    else r.eax = (if stage = 7 then destination &&& 0xffffff00 else (destination &&& 0xffff0000) ||| 0x5c)

/-- `values[i] = x`, where there is such a place. -/
def setAt {n : ℕ} (values : Vector UInt8 n) (i : ℕ) (x : UInt8) : Option (Vector UInt8 n) :=
  if h : i < n then some (values.set i x) else none

/-- `none` is an index out of an array. -/
def fileManagerReadyBuffer (before now : DirectoryWindow) (length : BitVec 32) (written : Bool) :
    Option Bool :=
  if length < 3 || length > 126 then some false
  else do
    let last ← before[(length+4).toNat]?
    if last ≠ 0 then return false
    let ends ← (List.range length.toNat).anyM fun i => do return (← before[i+4]?) = 0
    if ends then return false
    let expected ← if written then do
        let suffixed ← setAt before (length+4).toNat 0x5c
        setAt suffixed (length+5).toNat 0
      else pure before
    return now = expected

end Saex
