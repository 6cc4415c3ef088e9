import Mathlib.Data.Int.Notation
import Saex.PeGrammar

/-! The layout checks of managed/Saex.Tools/PeStartupInspector.cs, over the headers
that System.Reflection.Metadata hands it. Its `int` and `short` properties are
signed, and the sums are made in `long`, so they are integers here. -/
namespace Saex
open LittleEndian Recognizers

/-- The properties of a `SectionHeader` that the reader uses. -/
structure ManagedSection where
  virtualSize : ℤ
  virtualAddress : ℤ
  sizeOfRawData : ℤ
  pointerToRawData : ℤ
  sectionCharacteristics : BitVec 32
deriving DecidableEq

/-- The properties of `PEHeaders` that the reader uses. -/
structure ManagedHeaders where
  sectionHeaders : List ManagedSection
  peHeaderStartOffset : ℤ
  sizeOfOptionalHeader : ℤ
  numberOfRvaAndSizes : ℤ
  fileAlignment : ℤ
  sectionAlignment : ℤ
  sizeOfImage : ℤ
  sizeOfHeaders : ℤ
  imageBase : ℕ
deriving DecidableEq

/-- A 32-bit field as an `int` property, and a 16-bit field as a `short` one. -/
def intProperty (n : ℕ) : ℤ := (BitVec.ofNat 32 n).toInt
def shortProperty (n : ℕ) : ℤ := (BitVec.ofNat 16 n).toInt

def deliveredSection (b : List UInt8) (i : ℕ) : ManagedSection where
  virtualSize := intProperty (PeFile.virtualSize b i)
  virtualAddress := intProperty (PeFile.rva b i)
  sizeOfRawData := intProperty (PeFile.rawSize b i)
  pointerToRawData := intProperty (PeFile.rawPointer b i)
  sectionCharacteristics := .ofNat 32 (PeFile.sectionCharacteristics b i)

/-- What System.Reflection.Metadata is relied on for: each property is the field of the
file at the offset `parse_pe32` reads, in the type the property has. -/
structure ManagedHeaders.Delivered (b : List UInt8) (h : ManagedHeaders) : Prop where
  sectionHeaders : h.sectionHeaders = (List.range (PeFile.sectionCount b)).map (deliveredSection b)
  peHeaderStartOffset : h.peHeaderStartOffset = PeFile.optionalHeader b
  sizeOfOptionalHeader : h.sizeOfOptionalHeader = shortProperty (PeFile.optionalSize b)
  numberOfRvaAndSizes : h.numberOfRvaAndSizes = intProperty (PeFile.directories b)
  fileAlignment : h.fileAlignment = intProperty (PeFile.fileAlignment b)
  sectionAlignment : h.sectionAlignment = intProperty (PeFile.sectionAlignment b)
  sizeOfImage : h.sizeOfImage = intProperty (PeFile.imageSize b)
  sizeOfHeaders : h.sizeOfHeaders = intProperty (PeFile.headersSize b)
  imageBase : h.imageBase = PeFile.imageBase b

/-- Headers delivered as they should be. -/
def deliveredHeaders (b : List UInt8) : ManagedHeaders where
  sectionHeaders := (List.range (PeFile.sectionCount b)).map (deliveredSection b)
  peHeaderStartOffset := PeFile.optionalHeader b
  sizeOfOptionalHeader := shortProperty (PeFile.optionalSize b)
  numberOfRvaAndSizes := intProperty (PeFile.directories b)
  fileAlignment := intProperty (PeFile.fileAlignment b)
  sectionAlignment := intProperty (PeFile.sectionAlignment b)
  sizeOfImage := intProperty (PeFile.imageSize b)
  sizeOfHeaders := intProperty (PeFile.headersSize b)
  imageBase := PeFile.imageBase b

theorem deliveredHeaders_delivered (b : List UInt8) : (deliveredHeaders b).Delivered b :=
  ⟨rfl,rfl,rfl,rfl,rfl,rfl,rfl,rfl,rfl⟩

namespace PeStartupInspector

def maxModuleBytes : ℕ := 64*1024*1024

def power (n : ℤ) : Bool := n > 0 && n.toNat &&& (n.toNat-1) = 0

def headerLayout (h : ManagedHeaders) : Bool :=
  1 ≤ h.sectionHeaders.length && h.sectionHeaders.length ≤ 96 &&
    0 ≤ h.numberOfRvaAndSizes && h.numberOfRvaAndSizes ≤ 16 &&
    h.sizeOfOptionalHeader ≥ 96+h.numberOfRvaAndSizes*8

def imageLayout (h : ManagedHeaders) (length : ℤ) : Bool :=
  power h.fileAlignment && h.fileAlignment ≥ 512 && h.fileAlignment ≤ 65536 &&
    power h.sectionAlignment && h.sectionAlignment ≥ h.fileAlignment &&
    h.sizeOfImage > 0 && h.sizeOfImage ≤ 256*1024*1024 &&
    h.sizeOfImage.tmod h.sectionAlignment = 0 &&
    h.sizeOfHeaders > 0 && h.sizeOfHeaders ≤ length && h.sizeOfHeaders ≤ h.sizeOfImage &&
    h.sizeOfHeaders.tmod h.fileAlignment = 0 &&
    h.peHeaderStartOffset+h.sizeOfOptionalHeader+40*h.sectionHeaders.length ≤ h.sizeOfHeaders &&
    h.imageBase > 0 && h.imageBase%65536 = 0 &&
    (h.imageBase+h.sizeOfImage.toNat)%2^64 ≤ 0x100000000

def sectionBounds (h : ManagedHeaders) (length : ℤ) (s : ManagedSection) : Bool :=
  let extent := max s.virtualSize s.sizeOfRawData
  s.virtualSize ≥ 0 && s.sizeOfRawData ≥ 0 && extent > 0 &&
    s.virtualAddress ≥ h.sizeOfHeaders && s.virtualAddress.tmod h.sectionAlignment = 0 &&
    s.virtualAddress+extent ≤ h.sizeOfImage && s.pointerToRawData ≥ 0 &&
    s.pointerToRawData+s.sizeOfRawData ≤ length &&
    (s.sizeOfRawData = 0 || (s.pointerToRawData ≥ h.sizeOfHeaders &&
      s.pointerToRawData.tmod h.fileAlignment = 0))

def overlap (a an b bn : ℤ) : Bool := an > 0 && bn > 0 && a < b+bn && b < a+an

def collide (s t : ManagedSection) : Bool :=
  overlap s.virtualAddress (max s.virtualSize s.sizeOfRawData)
      t.virtualAddress (max t.virtualSize t.sizeOfRawData) ||
    overlap s.pointerToRawData s.sizeOfRawData t.pointerToRawData t.sizeOfRawData

def sectionNote (h : ManagedHeaders) (i : ℕ) (s : ManagedSection) : List String :=
  if s.sizeOfRawData.tmod h.fileAlignment ≠ 0 then ["section_raw_size_unaligned:"++toString i] else []

/-- The loop over the section headers, with the ones done and the notes so far. -/
def validateSections (h : ManagedHeaders) (length : ℤ) :
    List ManagedSection → List ManagedSection → List String → Except String (List String)
  | _, [], notes => .ok notes
  | done, s :: rest, notes => do
    refuseIf (!sectionBounds h length s) "startup_section_bounds"
    let notes := notes++sectionNote h done.length s
    refuseIf (done.any (collide s)) "startup_section_overlap"
    validateSections h length (done++[s]) rest notes

/-- `ValidateLayout` on a stream of `length` bytes: its notes, or what it throws. -/
def validateLayout (h : ManagedHeaders) (length : ℤ) : Except String (List String) := do
  refuseIf (!headerLayout h) "startup_header_layout"
  refuseIf (!imageLayout h length) "startup_image_layout"
  validateSections h length [] h.sectionHeaders []

/-- The loop of `Offset`, with the match found so far. -/
def offsetLoop (rva : BitVec 32) (size : ℤ) :
    List ManagedSection → Option ℤ → Except String (Option ℤ)
  | [], found => .ok found
  | s :: rest, found => do
    let delta := rva.toNat-s.virtualAddress
    if delta < 0 ∨ delta+size > s.sizeOfRawData then offsetLoop rva size rest found
    else
      refuseIf found.isSome "startup_ambiguous_rva"
      offsetLoop rva size rest (some (s.pointerToRawData+delta))

def offset (h : ManagedHeaders) (rva : BitVec 32) (size : ℤ) : Except String ℤ := do
  refuseIf (!(size > 0 && rva.toNat+size ≤ h.sizeOfImage%2^64)) "startup_rva_bounds"
  match ← offsetLoop rva size h.sectionHeaders none with
  | some v => return v
  | none => throw "startup_rva_not_file_backed"

def executable (h : ManagedHeaders) (rva : BitVec 32) : Except String Unit := do
  refuseIf (rva = 0) "startup_entry_zero"
  let _ ← offset h rva 1
  refuseIf (!h.sectionHeaders.any fun s => s.virtualAddress ≤ rva.toNat &&
    rva.toNat-s.virtualAddress < s.sizeOfRawData &&
    s.sectionCharacteristics &&& 0x20000000 ≠ 0) "startup_target_not_executable"

end PeStartupInspector
end Saex
