import Saex.Contracts
import Saex.LittleEndian
import Saex.Recognizers

/-! The fixture frame of contracts/ in its two implementations: fixture_codec.cpp and
managed/Saex.Contracts/FixtureCodec.cs. -/
namespace Saex
open LittleEndian Recognizers

def fixtureMagic : BitVec 32 := 1480933715
def fixtureVersion : BitVec 16 := 1
def fixturePayloadBytes : BitVec 32 := 32
def fixtureHeaderBytes : ℕ := 12
def fixtureFrameBytes : ℕ := fixtureHeaderBytes+fixturePayloadBytes.toNat

inductive DecodeError
  | none | truncated | badMagic | unsupportedVersion | reservedBits | invalidLength | invalidEntity
deriving DecidableEq

structure DecodeResult where
  error : DecodeError
  entity : EntityRef
deriving DecidableEq

/-- How the decoder stops early: with an error of its own, or by leaving the span. -/
inductive FixtureStop
  | outside
  | failed (error : DecodeError)
deriving DecidableEq

namespace FixtureCodec

def subspan (span : List UInt8) (offset count : ℕ) : Except FixtureStop (List UInt8) :=
  if offset+count ≤ span.length then .ok ((span.drop offset).take count) else .error .outside

def readLe (bytes : List UInt8) : BitVec 64 := read 64 bytes

def validateFixtureHeader (header : List UInt8) : Except FixtureStop Unit := do
  refuseIf (header.length ≠ fixtureHeaderBytes) (.failed .truncated)
  let magic ← subspan header 0 4
  refuseIf (readLe magic ≠ fixtureMagic.setWidth 64) (.failed .badMagic)
  let version ← subspan header 4 2
  refuseIf (readLe version ≠ fixtureVersion.setWidth 64) (.failed .unsupportedVersion)
  let reserved ← subspan header 6 2
  refuseIf (readLe reserved ≠ 0) (.failed .reservedBits)
  let payload ← subspan header 8 4
  refuseIf (readLe payload ≠ fixturePayloadBytes.setWidth 64) (.failed .invalidLength)

/-- From the length of the frame to its entity, valid or not. -/
def readEntity (frame : List UInt8) : Except FixtureStop EntityRef := do
  refuseIf (frame.length < fixtureHeaderBytes) (.failed .truncated)
  let header ← subspan frame 0 fixtureHeaderBytes
  validateFixtureHeader header
  refuseIf (frame.length ≠ fixtureFrameBytes) (.failed .invalidLength)
  let worldId ← subspan frame 12 8
  let worldEpoch ← subspan frame 20 8
  let entityId ← subspan frame 28 8
  let generation ← subspan frame 36 8
  return { worldId := ⟨.ofBitVec (readLe worldId)⟩, worldEpoch := ⟨.ofBitVec (readLe worldEpoch)⟩,
           entityId := ⟨.ofBitVec (readLe entityId)⟩, generation := ⟨.ofBitVec (readLe generation)⟩ }

end FixtureCodec

open FixtureCodec

/-- `decode_fixture`; there is no result when it leaves the frame. -/
def decodeFixture (frame : List UInt8) : Option DecodeResult :=
  match readEntity frame with
  | .ok entity => some ⟨if entity.valid then .none else .invalidEntity,entity⟩
  | .error (.failed error) => some ⟨error,{}⟩
  | .error .outside => none

/-- `encode_fixture`; there is no frame when it throws. -/
def encodeFixture (entity : EntityRef) : Option (Vector UInt8 44) :=
  if !entity.valid then none
  else
    let frame := Vector.replicate 44 0
    let frame := splice 0 (write 4 (fixtureMagic.setWidth 64)) frame
    let frame := splice 4 (write 2 (fixtureVersion.setWidth 64)) frame
    let frame := splice 8 (write 4 (fixturePayloadBytes.setWidth 64)) frame
    let frame := splice 12 (write 8 entity.worldId.value.toBitVec) frame
    let frame := splice 20 (write 8 entity.worldEpoch.value.toBitVec) frame
    let frame := splice 28 (write 8 entity.entityId.value.toBitVec) frame
    some (splice 36 (write 8 entity.generation.value.toBitVec) frame)

namespace ManagedFixtureCodec

/-- A span from `offset` on, and the first `width` bytes of it as a little-endian number. Both
throw when the span is too short. -/
def readLittleEndian (width : ℕ) (frame : List UInt8) (offset : ℕ) :
    Except String (BitVec (8*width)) :=
  if offset+width ≤ frame.length then .ok (.ofNat (8*width) (field width frame offset))
  else .error "ArgumentOutOfRange"

def writeLittleEndian (width : ℕ) (value : BitVec (8*width)) (offset : ℕ) {n : ℕ}
    (target : Vector UInt8 n) : Except String (Vector UInt8 n) :=
  if offset+width ≤ n then .ok (splice offset (bytes width value.toNat) target)
  else .error "ArgumentOutOfRange"

/-- `Encode`: the frame, or what it throws. -/
def encode (entity : EntityRef) : Except String (Vector UInt8 44) := do
  refuseIf (!entity.valid) "Invalid EntityRef"
  let result := Vector.replicate 44 0
  let result ← writeLittleEndian 4 fixtureMagic 0 result
  let result ← writeLittleEndian 2 fixtureVersion 4 result
  let result ← writeLittleEndian 4 fixturePayloadBytes 8 result
  let result ← writeLittleEndian 8 entity.worldId.value.toBitVec 12 result
  let result ← writeLittleEndian 8 entity.worldEpoch.value.toBitVec 20 result
  let result ← writeLittleEndian 8 entity.entityId.value.toBitVec 28 result
  writeLittleEndian 8 entity.generation.value.toBitVec 36 result

/-- `Decode`: the entity, or what it throws. -/
def decode (frame : List UInt8) : Except String EntityRef := do
  refuseIf (frame.length ≠ fixtureFrameBytes) "invalid_length"
  let magic ← readLittleEndian 4 frame 0
  refuseIf (magic ≠ fixtureMagic) "bad_magic"
  let version ← readLittleEndian 2 frame 4
  refuseIf (version ≠ fixtureVersion) "unsupported_version"
  let reserved ← readLittleEndian 2 frame 6
  refuseIf (reserved ≠ 0) "reserved_bits"
  let payload ← readLittleEndian 4 frame 8
  refuseIf (payload ≠ fixturePayloadBytes) "invalid_length"
  let worldId ← readLittleEndian 8 frame 12
  let worldEpoch ← readLittleEndian 8 frame 20
  let entityId ← readLittleEndian 8 frame 28
  let generation ← readLittleEndian 8 frame 36
  let entity : EntityRef := { worldId := ⟨.ofBitVec worldId⟩, worldEpoch := ⟨.ofBitVec worldEpoch⟩,
                              entityId := ⟨.ofBitVec entityId⟩, generation := ⟨.ofBitVec generation⟩ }
  refuseIf (!entity.valid) "invalid_entity"
  return entity

end ManagedFixtureCodec
end Saex
