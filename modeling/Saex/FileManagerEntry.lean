import Saex.FrameTarget

/-! engine/loader/file_manager_entry.cpp: the body of the file manager's constructor, up to
the call that looks for the current directory. -/
namespace Saex
open LittleEndian

structure FileManagerEntrySpec where
  manager : FrameTargetSpec
  cwdRva : BitVec 32
  bufferRva : BitVec 32
  suffixRva : BitVec 32
  returnPrefix : Vector UInt8 16
deriving DecidableEq

def fileManagerRaw : Vector UInt8 51 :=
  #v[0x57,0x68,0x80,0,0,0,0x68,0,0,0,0,0xe8,0,0,0,0,
    0xbf,0,0,0,0,0x83,0xc4,8,0x4f,0x8d,0xa4,0x24,0,0,0,0,
    0x8a,0x47,1,0x47,0x84,0xc0,0x75,0xf8,0x66,0xa1,0,0,0,0,0x66,0x89,7,0x5f,0xc3]

/-- `write(offset, value)`: a dword of the code. -/
def writeDword {n : ℕ} (offset : ℕ) (value : BitVec 32) (code : Vector UInt8 n) : Vector UInt8 n :=
  splice offset (write 4 value) code

theorem toList_writeDword {n k : ℕ} {code : Vector UInt8 n} {v : BitVec 32} (h : k+4 ≤ n) :
    (writeDword k v code).toList =
      code.toList.take k++(write 4 v++code.toList.drop (k+4)) := by
  have hnew : k+(write 4 v).length ≤ n := by rwa [length_write]
  rw [writeDword, toList_spliced hnew, length_write]

def fileManagerBody (s : FileManagerEntrySpec) : Option (Vector UInt8 51) :=
  let f := s.manager
  if !validFrameTargetSpec f || s.bufferRva < 4100 || s.bufferRva > f.imageSize-132 ||
      s.suffixRva < 4096 || s.suffixRva > f.imageSize-2 ||
      s.cwdRva < 4096 || s.cwdRva > f.imageSize-16 || f.targetRva > f.imageSize-51 then none
  else
    let delta : ℤ := s.cwdRva.toNat-f.targetRva.toNat-16
    if delta < -2^31 ∨ delta > 2^31-1 then none
    else some (writeDword 12 (BitVec.ofInt 32 delta) (writeDword 42 (f.imageBase+s.suffixRva)
      (writeDword 17 (f.imageBase+s.bufferRva) (writeDword 7 (f.imageBase+s.bufferRva)
        fileManagerRaw))))

end Saex
