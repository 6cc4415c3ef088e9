import Saex.CdStreamAllocation
import Saex.CdStreamDisk

/-! engine/loader/cd_stream_channels.cpp: the checkpoint where the CD streams allocate their
channels. -/
namespace Saex
open LittleEndian

structure CdStreamChannelsSpec where
  errorIatRva : BitVec 32
  localIatRva : BitVec 32
  pointerRva : BitVec 32
  filenameRva : BitVec 32
  openRva : BitVec 32
  errorThunkSlotRva : BitVec 32
  localThunkSlotRva : BitVec 32
  errorThunk : BootstrapExportSpec
  errorImplementation : BootstrapExportSpec
  localThunk : BootstrapExportSpec
  localImplementation : BootstrapExportSpec
deriving DecidableEq

def cdStreamChannelsRaw : Vector UInt8 64 :=
  #v[0x83,0xc4,0x0c,0x6a,0x00,0x8b,0xf8,0xff,0x15,0,0,0,0,
    0x8b,0x44,0x24,0x1c,0x8d,0x0c,0x40,0xc1,0xe1,0x04,0x51,0x6a,0x40,0xc7,0x05,0,0,0,0,0,0,0,0,
    0xa3,0,0,0,0,0xff,0x15,0,0,0,0,0x6a,0,0x68,0,0,0,0,0xa3,0,0,0,0,0xe8,0,0,0,0]

/-- The thunk in kernel32 jumps by way of `slot`; that of LocalAlloc first sets up a frame and
takes it down again. -/
def validChannelsThunk (f : BootstrapExportSpec) (slot : BitVec 32) (isLocal : Bool) : Bool :=
  let start := if isLocal then 8 else 2
  let prologue : List UInt8 := [0x8b,0xff,0x55,0x8b,0xec,0x5d,0xff,0x25]
  let operand := read 32 ((f.prefixBytes.toList.drop start).take 4)
  f.prefixBytes.toList.take start = prologue.drop (if isLocal then 0 else 6) &&
    slot ≤ 0xffffffff-f.preferredBase && operand = f.preferredBase+slot && f.highlowMask = 1 <<< start

def cdStreamChannelsCode (s : CdStreamChannelsSpec) (t : CdStreamTablesSpec)
    (m : FileManagerEntrySpec) : Option (Vector UInt8 64) :=
  let size := m.manager.imageSize
  let base := m.manager.imageBase
  let functions := [s.errorThunk,s.errorImplementation,s.localThunk,s.localImplementation]
  if size < 4096 || base > 0xffffffff-size || t.targetRva > 0xffffffff-137 || t.namesRva < 8 ||
      s.pointerRva < 4 ||
      !validSpans size [(t.targetRva+137,64),(s.errorIatRva,4),(s.localIatRva,4),(s.pointerRva-4,12),
        (s.filenameRva,16),(s.openRva,5),(t.namesRva-8,8)] ||
      [s.errorIatRva,s.localIatRva,s.pointerRva-4].any (·.toNat%4 ≠ 0) ||
      [s.errorThunkSlotRva,s.localThunkSlotRva].any (fun slot =>
        slot < 4096 || slot > 16*1024*1024-4 || slot.toNat%4 ≠ 0) ||
      functions.any (fun f => f.rva < 4096 || f.rva > 16*1024*1024-20 ||
        (bootstrapExportPrefix f f.preferredBase).isNone) ||
      !validChannelsThunk s.errorThunk s.errorThunkSlotRva false ||
      !validChannelsThunk s.localThunk s.localThunkSlotRva true then none
  else some (writeDword 60 (s.openRva-(t.targetRva+137)-64) (writeDword 55 (base+s.pointerRva)
    (writeDword 50 (base+s.filenameRva) (writeDword 43 (base+s.localIatRva)
      (writeDword 37 (base+t.namesRva-8) (writeDword 28 (base+t.namesRva-4)
        (writeDword 9 (base+s.errorIatRva) cdStreamChannelsRaw)))))))

/-- `e` and `l` are the registers at the returns of the two functions. -/
def cdStreamChannelsFrame (stage : ℕ) (c r e l : DispatchRegisters) : Bool :=
  if stage < 1 || stage > 9 || c.esp < 65536 || c.esp > 0xffffffff-44 || c.esp.toNat%4 ≠ 0 ||
      r.flags &&& 0x500 ≠ 0 || c.flags &&& 0x500 ≠ 0 || r.ebx ≠ c.ebx || r.esi ≠ c.esi ||
      r.edi ≠ c.eax || r.ebp ≠ c.ebp then false
  else if r.esp ≠ c.esp+[0,8,4,4,12,4,0,0,12,4].getD stage 0 then false
  else if stage ≤ 3 then
    let sum := c.esp+12
    let flags := (if popcount (sum &&& 255)%2 = 0 then 4 else 0 : BitVec 32) |||
      ((c.esp ^^^ 12 ^^^ sum) &&& 16 : BitVec 32) |||
      (if sum &&& 0x80000000 ≠ 0 then 0x80 else 0 : BitVec 32) |||
      (if (~~~(c.esp ^^^ 12) &&& (c.esp ^^^ sum)) &&& 0x80000000 ≠ 0 then 0x800 else 0 : BitVec 32)
    r.eax = c.eax && r.ecx = c.ecx && r.edx = c.edx && r.flags &&& 0x8d5 = flags &&
      (r.flags ^^^ c.flags) &&& ~~~0x108d5 = 0
  -- A function may leave anything in the volatile registers.
  else if stage = 4 || stage = 8 then true
  else if stage ≤ 7 then r.eax = 5 && r.ecx = 240 && r.edx = e.edx && r.flags &&& 0xc5 = 4 &&
    (r.flags ^^^ e.flags) &&& ~~~0x108d5 = 0
  else r.eax = l.eax && r.ecx = l.ecx && r.edx = l.edx && (r.flags ^^^ l.flags) &&& ~~~0x10000 = 0

/-- The block of the channels at `p` beside that of the buffer. -/
def cdStreamChannelsRange (p : BitVec 32) (b : CdStreamAllocationLayout) : Bool :=
  p ≥ 65536 && p.toNat%4 = 0 && p ≤ 0xffffffff-240 && b.raw ≥ 65536 && b.bytes ≥ 2560 &&
    b.bytes ≤ 67584 && b.raw ≤ 0xffffffff-b.bytes && !(p < b.raw+b.bytes && b.raw < p+240)

/-- Once prepared, the number of channels and a zero stand between the two tables. -/
def cdStreamChannelsTables (before after : CdStreamTableWindow) (prepared : Bool) : Bool :=
  (List.finRange 2192).all fun i =>
    let expected := if prepared && i.val ≥ 132 && i.val < 140 then if i.val = 132 then 5 else 0
      else before.get i
    after.get i = expected

end Saex
