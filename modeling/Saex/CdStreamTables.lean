import Saex.DebuggedThread
import Saex.CwdSeh

/-! engine/loader/cd_stream_tables.cpp: the checkpoint where the CD streams clear their tables
of handles and of file names. -/
namespace Saex
open LittleEndian

structure CdStreamTablesSpec where
  targetRva : BitVec 32
  handlesRva : BitVec 32
  namesRva : BitVec 32
  diskIatRva : BitVec 32
deriving DecidableEq

structure CdStreamTablesCode where
  caller : Vector UInt8 7
  /-- With the CALL of the disk function, which is not executed. -/
  body : Vector UInt8 74
deriving DecidableEq

/-- The tables with four guard bytes on each side. -/
abbrev CdStreamTableWindow := Vector UInt8 2192

def cdStreamTablesCallerRaw : Vector UInt8 7 := #v[0x6a,5,0xe8,0,0,0,0]

def cdStreamTablesRaw : Vector UInt8 74 :=
  #v[0x83,0xec,0x10,0x57,0xb9,0x20,0,0,0,0x33,0xc0,0xbf,0,0,0,0,
    0xba,0,0,0,0,0xf3,0xab,0xeb,7,0x8d,0xa4,0x24,0,0,0,0,0xc6,2,0,0x83,0xc2,0x40,
    0x81,0xfa,0,0,0,0,0x7c,0xf2,0x8d,0x44,0x24,8,0x50,0x8d,0x4c,0x24,0x10,0x51,
    0x8d,0x54,0x24,0x0c,0x52,0x8d,0x44,0x24,0x1c,0x50,0x6a,0,0xff,0x15,0,0,0,0]

def cdStreamTablesCode (s : CdStreamTablesSpec) (m : FileManagerEntrySpec) :
    Option CdStreamTablesCode :=
  let base := m.manager.imageBase
  let size := m.manager.imageSize
  let caller := m.manager.callRva+5
  if size < 4096 || base > 0xffffffff-size || s.handlesRva < 4100 || s.handlesRva.toNat%4 ≠ 0 ||
      s.handlesRva > size-2192 || s.namesRva ≠ s.handlesRva+136 || s.diskIatRva.toNat%4 ≠ 0 ||
      !validSpans size [(caller,7),(s.targetRva,74),(s.handlesRva-4,2192),(s.diskIatRva,4),
        (m.bufferRva-4,136)] then none
  else
    let code : CdStreamTablesCode := {
      caller := writeDword 3 (s.targetRva-caller-7) cdStreamTablesCallerRaw
      body := writeDword 70 (base+s.diskIatRva) (writeDword 40 (base+s.namesRva+2048)
        (writeDword 17 (base+s.namesRva) (writeDword 12 (base+s.handlesRva) cdStreamTablesRaw))) }
    if code.caller.toList = m.returnPrefix.toList.take 7 then some code else none

def cdStreamTablesMemory (before after : CdStreamTableWindow) (initialized : Bool) : Bool :=
  (List.finRange 2192).all fun i =>
    let written : Bool := (i.val ≥ 4 && i.val < 132) ||
      (i.val ≥ 140 && i.val < 2188 && (i.val-140)%64 = 0)
    after.get i = if initialized && written then 0 else before.get i

def cdStreamTablesFrame (stage : ℕ) (c r : DispatchRegisters) (handles : BitVec 32) : Bool :=
  if stage < 1 || stage > 2 || c.esp < 65600 || c.esp.toNat%4 ≠ 0 || handles > 0xffffffff-128 ||
      c.flags &&& 0x500 ≠ 0 || r.flags &&& 0x500 ≠ 0 || c.ebx ≠ r.ebx || c.esi ≠ r.esi ||
      c.ebp ≠ r.ebp then false
  else if stage = 1 then r.esp = c.esp-8 && r.eax = c.eax && r.ecx = c.ecx && r.edx = c.edx &&
    r.edi = c.edi && (r.flags ^^^ c.flags) &&& ~~~0x10000 = 0
  else r.esp = c.esp-48 && r.eax = c.esp-12 && r.ecx = c.esp-16 && r.edx = c.esp-24 &&
    r.edi = handles+128 && r.flags &&& 0x8c5 = 0x44 && (r.flags ^^^ c.flags) &&& ~~~0x108d5 = 0

end Saex
