import Saex.BootstrapLifecycle
import Saex.CdStreamTables

/-! engine/loader/cd_stream_disk.cpp: the checkpoint where the CD streams ask for the geometry of
the disk and choose the flags of their files. -/
namespace Saex
open LittleEndian

structure CdStreamDiskSpec where
  flagsRva : BitVec 32
  allocatorRva : BitVec 32
  thunkRva : BitVec 32
  thunkSlotRva : BitVec 32
  implementation : BootstrapExportSpec
deriving DecidableEq

structure CdStreamDiskGeometry where
  sectorsPerCluster : BitVec 32 := 0
  bytesPerSector : BitVec 32 := 0
  freeClusters : BitVec 32 := 0
  totalClusters : BitVec 32 := 0
deriving DecidableEq

inductive CdStreamDiskQueryResult
  | failed | geometryRejected | accepted
deriving DecidableEq

def cdStreamDiskRaw : Vector UInt8 69 :=
  #v[0xff,0x15,0,0,0,0,0x8b,0x4c,0x24,4,0x33,0xc0,0x81,0xf9,0,8,0,0,
    0x77,5,0xb8,0,0,0,0x20,0x56,0x6a,0,0x51,0x0d,0,0,0,0x40,0x68,0,8,0,0,
    0xc7,5,0,0,0,0,1,0,0,0,0xa3,0,0,0,0,0xc7,5,0,0,0,0,0,0,0,0,0xe8,0,0,0,0]

def cdStreamDiskCode (s : CdStreamDiskSpec) (t : CdStreamTablesSpec) (m : FileManagerEntrySpec) :
    Option (Vector UInt8 69) :=
  let base := m.manager.imageBase
  let size := m.manager.imageSize
  if (cdStreamTablesCode t m).isNone || s.flagsRva < 4100 || s.flagsRva.toNat%4 ≠ 0 ||
      s.thunkRva < 4096 || s.thunkRva > 16*1024*1024-6 || s.thunkSlotRva < 4096 ||
      s.thunkSlotRva > 16*1024*1024-4 || s.thunkSlotRva.toNat%4 ≠ 0 ||
      (s.thunkRva < s.thunkSlotRva+4 && s.thunkSlotRva < s.thunkRva+6) ||
      s.implementation.rva < 4096 || s.implementation.rva > 16*1024*1024-20 ||
      (bootstrapExportPrefix s.implementation s.implementation.preferredBase).isNone ||
      !validSpans size [(t.targetRva,137),(s.flagsRva-4,20),(s.allocatorRva,1),
        (t.handlesRva-4,2192),(m.bufferRva-4,136),(t.diskIatRva,4)] then none
  else some (writeDword 65 (s.allocatorRva-t.targetRva-137) (writeDword 56 (base+s.flagsRva+4)
    (writeDword 50 (base+s.flagsRva) (writeDword 41 (base+s.flagsRva+8)
      (writeDword 2 (base+t.diskIatRva) cdStreamDiskRaw)))))

/-- The profile of logical sectors that the observer admits. -/
def cdStreamDiskGeometry (g : CdStreamDiskGeometry) : Bool :=
  g.bytesPerSector ≥ 512 && g.bytesPerSector ≤ 65536 &&
    g.bytesPerSector &&& (g.bytesPerSector-1) = 0 && g.sectorsPerCluster ≠ 0 &&
    g.sectorsPerCluster &&& (g.sectorsPerCluster-1) = 0 &&
    g.sectorsPerCluster.toNat ≤ 0xffffffff/g.bytesPerSector.toNat && g.totalClusters ≠ 0 &&
    g.freeClusters ≤ g.totalClusters

def cdStreamDiskQueryResult (result : BitVec 32) (locals : Vector (BitVec 32) 4) :
    CdStreamDiskQueryResult × CdStreamDiskGeometry :=
  if result = 0 then (.failed,{})
  else
    let output := ⟨locals[3],locals[0],locals[2],locals[1]⟩
    (if cdStreamDiskGeometry output then .accepted else .geometryRejected,output)

def cdStreamDiskFlags (sector : BitVec 32) : BitVec 32 :=
  if sector ≤ 2048 then 0x60000000 else 0x40000000

def cdStreamDiskFrame (stage : ℕ) (c r : DispatchRegisters) (handles : BitVec 32)
    (g : CdStreamDiskGeometry) (apiReturn : Option DispatchRegisters) : Bool :=
  if stage < 1 || stage > 4 || c.esp < 65600 || c.esp.toNat%4 ≠ 0 || handles > 0xffffffff-128 ||
      c.flags &&& 0x500 ≠ 0 || r.flags &&& 0x500 ≠ 0 || r.ebx ≠ c.ebx || r.esi ≠ c.esi ||
      r.ebp ≠ c.ebp || r.edi ≠ handles+128 then false
  else if stage ≤ 2 then r.esp = c.esp-52 && r.eax = c.esp-12 && r.ecx = c.esp-16 &&
    r.edx = c.esp-24 && r.flags &&& 0x8c5 = 0x44 && (r.flags ^^^ c.flags) &&& ~~~0x108d5 = 0
  else if stage = 3 then r.esp = c.esp-28
  else
    match apiReturn with
    | none => false
    | some a => r.edx = a.edx && (r.flags ^^^ a.flags) &&& ~~~0x108d5 = 0 &&
      cdStreamDiskGeometry g && r.esp = c.esp-44 && r.ecx = g.bytesPerSector &&
      r.eax = cdStreamDiskFlags g.bytesPerSector && r.flags &&& 0x8c5 = 4

def cdStreamDiskMemory (before after : Vector (BitVec 32) 5) (flags : BitVec 32) (prepared : Bool) :
    Bool :=
  if !prepared then before = after else after = #v[before.get 0,flags,0,1,before.get 4]

end Saex
