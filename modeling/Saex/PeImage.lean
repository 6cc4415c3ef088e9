import Mathlib.Data.BitVec
import Mathlib.Data.UInt
import Saex.Recognizers

/-! engine/bootstrap/pe_image.cpp: the layout of a PE32 executable on disk and the
translation of its addresses to file offsets. -/
namespace Saex
open Recognizers

/-- The word sizes the presets build for; `std::size_t` sums wrap at the word size. -/
inductive Target
  | x86 | x64

def Target.words : Target → ℕ
  | x86 => 2^32
  | x64 => 2^64

def Target.sum (t : Target) (a b : ℕ) : ℕ := (a+b)%t.words

def Target.product (t : Target) (a b : ℕ) : ℕ := a*b%t.words

theorem Target.le_words (t : Target) : 2^32 ≤ t.words := by cases t <;> decide

theorem Target.sum_eq (t : Target) {a b : ℕ} (h : a+b < 2^32) : t.sum a b = a+b :=
  Nat.mod_eq_of_lt (h.trans_le t.le_words)

theorem Target.product_eq (t : Target) {a b : ℕ} (h : a*b < 2^32) : t.product a b = a*b :=
  Nat.mod_eq_of_lt (h.trans_le t.le_words)

def maxImageBytes : ℕ := 256*1024*1024
def maxSections : ℕ := 96

structure PeSection where
  name : Vector UInt8 8 := .replicate 8 0
  virtualSize : BitVec 32 := 0
  rva : BitVec 32 := 0
  rawSize : BitVec 32 := 0
  rawOffset : BitVec 32 := 0
  characteristics : BitVec 32 := 0
deriving DecidableEq

/-- `std::max(virtual_size, raw_size)`. -/
def PeSection.extent (s : PeSection) : BitVec 32 :=
  if s.virtualSize < s.rawSize then s.rawSize else s.virtualSize

structure PeLayout where
  timestamp : BitVec 32 := 0
  imageBase : BitVec 32 := 0
  entryRva : BitVec 32 := 0
  imageSize : BitVec 32 := 0
  headersSize : BitVec 32 := 0
  sectionAlignment : BitVec 32 := 0
  fileAlignment : BitVec 32 := 0
  characteristics : BitVec 16 := 0
  dllCharacteristics : BitVec 16 := 0
  sectionCount : BitVec 16 := 0
  sections : Vector PeSection 96 := .replicate 96 {}
deriving DecidableEq

/-- The sections in use. -/
def PeLayout.table (l : PeLayout) : List PeSection := l.sections.toList.take l.sectionCount.toNat

inductive PeError
  | none | size | dosSignature | headerBounds | peSignature | architecture | executableKind
  | sectionCount | optionalHeader | imageLayout | sectionBounds | sectionOverlap | entryPoint
deriving DecidableEq

structure PeResult where
  error : PeError
  layout : PeLayout
deriving DecidableEq

/-- How the parser stops early: with an error of its own, or by reading past the file. -/
inductive PeStop
  | outside
  | failed (error : PeError)
deriving DecidableEq

namespace PeImage

def byte (b : List UInt8) (p : ℕ) : Except PeStop UInt8 :=
  if h : p < b.length then .ok b[p] else .error .outside

def u16 (t : Target) (b : List UInt8) (p : ℕ) : Except PeStop (BitVec 16) := do
  let low ← byte b p
  let high ← byte b (t.sum p 1)
  return (low.toBitVec.setWidth 32 ||| high.toBitVec.setWidth 32 <<< 8).setWidth 16

def u32 (t : Target) (b : List UInt8) (p : ℕ) : Except PeStop (BitVec 32) := do
  let low ← u16 t b p
  let high ← u16 t b (t.sum p 2)
  return low.setWidth 32 ||| high.setWidth 32 <<< 16

-- The comparisons of `fits` and `overlaps` are made in 64 bits, where nothing wraps.
def fits (offset length limit : ℕ) : Bool := offset ≤ limit && length ≤ limit-offset

def power2 (n : BitVec 32) : Bool := n ≠ 0 && n &&& (n-1) = 0

def overlaps (a an b bn : BitVec 32) : Bool :=
  an ≠ 0 && bn ≠ 0 && a.toNat < b.toNat+bn.toNat && b.toNat < a.toNat+an.toNat

/-- From the file size to the characteristics: the PE offset and the fields read so far. -/
def coffHeader (t : Target) (b : List UInt8) : Except PeStop (ℕ × PeLayout) := do
  refuseIf (b.length < 64 ∨ b.length > maxImageBytes) (.failed .size)
  let dos ← u16 t b 0
  refuseIf (dos ≠ 0x5a4d) (.failed .dosSignature)
  let offset ← u32 t b 60
  let pe := offset.toNat
  refuseIf (pe < 64 ∨ !fits pe 24 b.length) (.failed .headerBounds)
  let signature ← u32 t b pe
  refuseIf (signature ≠ 0x4550) (.failed .peSignature)
  let machine ← u16 t b (t.sum pe 4)
  refuseIf (machine ≠ 0x14c) (.failed .architecture)
  let sectionCount ← u16 t b (t.sum pe 6)
  refuseIf (sectionCount = 0 ∨ sectionCount.toNat > maxSections) (.failed .sectionCount)
  let timestamp ← u32 t b (t.sum pe 8)
  let characteristics ← u16 t b (t.sum pe 22)
  refuseIf (characteristics &&& 2 = 0 ∨ characteristics &&& 0x2000 ≠ 0) (.failed .executableKind)
  return (pe,{ sectionCount, timestamp, characteristics })

/-- The CLR directory, when the file has that many directories. -/
def clrDirectory (t : Target) (b : List UInt8) (o : ℕ) (directories : BitVec 32) :
    Except PeStop Unit :=
  if directories > 14 then do
    let rva ← u32 t b (t.sum o (96+14*8))
    refuseIf (rva ≠ 0) (.failed .executableKind)
    let size ← u32 t b (t.sum o (100+14*8))
    refuseIf (size ≠ 0) (.failed .executableKind)
  else return

def badImageLayout (b : List UInt8) (l : PeLayout) (headersEnd : ℕ) : Prop :=
  !power2 l.fileAlignment ∨ l.fileAlignment < 512 ∨ l.fileAlignment > 65536 ∨
    !power2 l.sectionAlignment ∨ l.sectionAlignment < l.fileAlignment ∨
    l.imageSize = 0 ∨ l.imageSize.toNat > maxImageBytes ∨ l.imageSize%l.sectionAlignment ≠ 0 ∨
    l.headersSize = 0 ∨ l.headersSize%l.fileAlignment ≠ 0 ∨ l.headersSize.toNat > b.length ∨
    l.headersSize > l.imageSize ∨ headersEnd > l.headersSize.toNat ∨
    l.imageBase = 0 ∨ l.imageBase%65536 ≠ 0 ∨ l.imageBase.toNat+l.imageSize.toNat > 0x100000000

instance (b : List UInt8) (l : PeLayout) (headersEnd : ℕ) :
    Decidable (badImageLayout b l headersEnd) :=
  inferInstanceAs (Decidable (_ ∨ _))

/-- The optional header: the offset of the section table and the layout without sections. -/
def optionalHeader (t : Target) (b : List UInt8) (pe : ℕ) (l : PeLayout) :
    Except PeStop (ℕ × PeLayout) := do
  let size ← u16 t b (t.sum pe 20)
  let optionalSize := size.toNat
  let o := t.sum pe 24
  refuseIf (optionalSize < 96 ∨ !fits o optionalSize b.length) (.failed .optionalHeader)
  let magic ← u16 t b o
  refuseIf (magic ≠ 0x10b) (.failed .architecture)
  let directories ← u32 t b (t.sum o 92)
  refuseIf (directories > 16 ∨ 96+directories*8 > size.setWidth 32) (.failed .optionalHeader)
  clrDirectory t b o directories
  let table := t.sum o optionalSize
  let tableSize := t.product l.sectionCount.toNat 40
  refuseIf (!fits table tableSize b.length) (.failed .headerBounds)
  let entryRva ← u32 t b (t.sum o 16)
  let imageBase ← u32 t b (t.sum o 28)
  let sectionAlignment ← u32 t b (t.sum o 32)
  let fileAlignment ← u32 t b (t.sum o 36)
  let imageSize ← u32 t b (t.sum o 56)
  let headersSize ← u32 t b (t.sum o 60)
  let dllCharacteristics ← u16 t b (t.sum o 70)
  let l := { l with
    entryRva, imageBase, sectionAlignment, fileAlignment, imageSize, headersSize, dllCharacteristics }
  refuseIf (badImageLayout b l (t.sum table tableSize)) (.failed .imageLayout)
  return (table,l)

def readSection (t : Target) (b : List UInt8) (p : ℕ) : Except PeStop PeSection := do
  let name ← (List.range 8).mapM fun n => byte b (t.sum p n)
  let virtualSize ← u32 t b (t.sum p 8)
  let rva ← u32 t b (t.sum p 12)
  let rawSize ← u32 t b (t.sum p 16)
  let rawOffset ← u32 t b (t.sum p 20)
  let characteristics ← u32 t b (t.sum p 36)
  return { name := .ofFn fun n => name.getD n 0, virtualSize, rva, rawSize, rawOffset, characteristics }

def badSection (b : List UInt8) (l : PeLayout) (s : PeSection) : Prop :=
  s.extent = 0 ∨ s.rva < l.headersSize ∨ s.rva%l.sectionAlignment ≠ 0 ∨
    !fits s.rva.toNat s.extent.toNat l.imageSize.toNat ∨
    !fits s.rawOffset.toNat s.rawSize.toNat b.length ∨
    (s.rawSize ≠ 0 ∧ (s.rawOffset < l.headersSize ∨ s.rawOffset%l.fileAlignment ≠ 0 ∨
      s.rawSize%l.fileAlignment ≠ 0))

instance (b : List UInt8) (l : PeLayout) (s : PeSection) : Decidable (badSection b l s) :=
  inferInstanceAs (Decidable (_ ∨ _))

def sectionsCollide (s t : PeSection) : Bool :=
  overlaps s.rva s.extent t.rva t.extent || overlaps s.rawOffset s.rawSize t.rawOffset t.rawSize

def holdsEntry (entryRva : BitVec 32) (s : PeSection) : Bool :=
  s.rva ≤ entryRva && entryRva-s.rva < s.rawSize && s.characteristics &&& 0x20000000 ≠ 0

/-- The loop over the section table, with the sections done and `executable_entry` so far. -/
def parseSections (t : Target) (b : List UInt8) (l : PeLayout) (table : ℕ) :
    ℕ → List PeSection → Bool → Except PeStop (List PeSection × Bool)
  | 0, done, entry => .ok (done,entry)
  | n+1, done, entry => do
    let s ← readSection t b (t.sum table (t.product done.length 40))
    refuseIf (badSection b l s) (.failed .sectionBounds)
    refuseIf (done.any (sectionsCollide s)) (.failed .sectionOverlap)
    parseSections t b l table n (done++[s]) (entry || holdsEntry l.entryRva s)

def sectionArray (done : List PeSection) : Vector PeSection 96 := .ofFn fun i => done.getD i {}

def parseLayout (t : Target) (b : List UInt8) : Except PeStop PeLayout := do
  let (pe,l) ← coffHeader t b
  let (table,l) ← optionalHeader t b pe l
  let (done,entry) ← parseSections t b l table l.sectionCount.toNat [] false
  refuseIf (!entry) (.failed .entryPoint)
  return { l with sections := sectionArray done }

end PeImage

/-- `parse_pe32`; there is no result when it reads past the file. -/
def parsePe32 (t : Target) (b : List UInt8) : Option PeResult :=
  match PeImage.parseLayout t b with
  | .ok l => some ⟨.none,l⟩
  | .error (.failed error) => some ⟨error,{}⟩
  | .error .outside => none

namespace PeImage

/-- The loop of `raw_offset`, with the match found so far. -/
def rawOffsetLoop (t : Target) (rva : BitVec 32) (length : ℕ) :
    List PeSection → Option ℕ → Option ℕ
  | [], result => result
  | s :: rest, result =>
    if s.rva ≤ rva ∧ fits (rva-s.rva).toNat length s.rawSize.toNat then
      if result.isSome then none
      else rawOffsetLoop t rva length rest (some (t.sum s.rawOffset.toNat (rva-s.rva).toNat))
    else rawOffsetLoop t rva length rest result

end PeImage

/-- `raw_offset`. -/
def rawOffset (t : Target) (l : PeLayout) (rva : BitVec 32) (length : ℕ) : Option ℕ :=
  if length = 0 ∨ l.sectionCount.toNat > maxSections then none
  else PeImage.rawOffsetLoop t rva length l.table none

end Saex
