import Saex.LittleEndian
import Saex.PeImage

/-! engine/bootstrap/profile_gate.cpp: the gate that looks at the file of the executable
and the one that looks at its mapped image through a bounded reader. -/
namespace Saex
open LittleEndian Recognizers

structure ImageAnchor where
  rva : BitVec 32 := 0
  sectionIndex : BitVec 16 := 0
  length : BitVec 16 := 0
  bytes : Vector UInt8 16 := .replicate 16 0

structure ObservedProfile where
  fileBytes : ℕ := 0
  sha256 : Vector UInt8 32 := .replicate 32 0
  layout : PeLayout := {}
  anchors : List ImageAnchor

inductive ProfileResult
  | matchedObservation | unknownFingerprint | layoutMismatch | invalidAnchor | anchorMismatch
  | unreadableImage
deriving DecidableEq

/-- `ImageReader`, with the state of the process it reads from: it fills the span it is
given, whatever it answers. -/
structure ImageReader (σ : Type*) where
  copy : σ → BitVec 32 → List UInt8 → σ × Bool × List UInt8
  length_copy : ∀ s rva output, (copy s rva output).2.2.length = output.length

/-- How a gate stops early: with a result other than a match, or by comparing past the end of
a range. -/
inductive GateStop
  | outside
  | stopped (result : ProfileResult) (early : result ≠ .matchedObservation := by decide)

namespace ProfileGate

def outcome : Except GateStop Unit → Option ProfileResult
  | .ok () => some .matchedObservation
  | .error (.stopped result _) => some result
  | .error .outside => none

/-- `std::equal` on `xs` and the range of `ys` from `start`, which has to hold as many bytes. -/
def compareAt (ys : List UInt8) (start : ℕ) (xs : List UInt8) (mismatch : GateStop) :
    Except GateStop Unit :=
  if start+xs.length ≤ ys.length then
    if (ys.drop start).take xs.length = xs then .ok () else .error mismatch
  else .error .outside

def validAnchor (a : ImageAnchor) (l : PeLayout) : Bool :=
  if l.sectionCount = 0 ∨ l.sectionCount.toNat > maxSections ∨ a.length = 0 ∨
      a.length.toNat > 16 ∨ a.sectionIndex ≥ l.sectionCount then false
  else match l.sections[a.sectionIndex.toNat]? with
    | none => false
    | some s => s.characteristics &&& 0x20000000 ≠ 0 && a.rva ≥ s.rva &&
      (a.rva-s.rva).toNat+a.length.toNat ≤ s.rawSize.toNat

def matchAnchor (t : Target) (file : List UInt8) (l : PeLayout) (a : ImageAnchor) :
    Except GateStop Unit :=
  match rawOffset t l a.rva a.length.toNat with
  | none => .error (.stopped .invalidAnchor)
  | some offset => do
    refuseIf (!validAnchor a l ∨ offset > file.length ∨ a.length.toNat > file.length-offset)
      (.stopped .invalidAnchor)
    compareAt file offset (a.bytes.toList.take a.length.toNat) (.stopped .anchorMismatch)

def matchAnchors (t : Target) (file : List UInt8) (l : PeLayout) :
    List ImageAnchor → Except GateStop Unit
  | [] => .ok ()
  | a :: rest => do
    matchAnchor t file l a
    matchAnchors t file l rest

def badAnchorCount (p : ObservedProfile) : Prop := p.anchors.isEmpty ∨ p.anchors.length > 32

instance (p : ObservedProfile) : Decidable (badAnchorCount p) := inferInstanceAs (Decidable (_ ∨ _))

def matchFile (t : Target) (file : List UInt8) (hash : Vector UInt8 32) (l : PeLayout)
    (p : ObservedProfile) : Except GateStop Unit := do
  refuseIf (file.length ≠ p.fileBytes ∨ hash ≠ p.sha256) (.stopped .unknownFingerprint)
  refuseIf (l ≠ p.layout) (.stopped .layoutMismatch)
  refuseIf (badAnchorCount p) (.stopped .invalidAnchor)
  matchAnchors t file l p.anchors

/-- The state of the reader and the buffer that all chunks share. -/
structure MappedRun (σ : Type*) where
  reader : σ
  buffer : Vector UInt8 1024

section Mapped
variable {σ : Type*} (image : ImageReader σ)

/-- One call of the reader on the first `count` bytes of the buffer, and the comparison made
with what it leaves there. -/
def ask (rva : BitVec 32) (count : ℕ) (compare : List UInt8 → Except GateStop Unit)
    (run : MappedRun σ) : Except GateStop Unit × MappedRun σ :=
  let (reader,copied,chunk) := image.copy run.reader rva (run.buffer.toList.take count)
  (if copied then compare chunk else .error (.stopped .unreadableImage),
    ⟨reader,splice 0 chunk run.buffer⟩)

theorem headers_advance {size start : BitVec 32} (h : start < size) :
    (start+.ofNat 32 (min 1024 (size-start).toNat)).toNat =
      start.toNat+min 1024 (size.toNat-start.toNat) := by
  have hlt := BitVec.lt_def.mp h
  have hsize := size.isLt
  rw [BitVec.toNat_add, BitVec.toNat_sub_of_le (BitVec.le_of_lt h), BitVec.toNat_ofNat,
    Nat.mod_eq_of_lt (show min 1024 _ < 2^32 by omega), Nat.mod_eq_of_lt (by omega)]

/-- The loop over the header chunks. -/
def compareHeaders (file : List UInt8) (size start : BitVec 32) (run : MappedRun σ) :
    Except GateStop Unit × MappedRun σ :=
  if _h : start < size then
    let count := min 1024 (size-start).toNat
    match ask image start count (compareAt file start.toNat · (.stopped .layoutMismatch)) run with
    | (.error stop,run) => (.error stop,run)
    | (.ok (),run) => compareHeaders file size (start+.ofNat 32 count) run
  else (.ok (),run)
termination_by size.toNat-start.toNat
decreasing_by
  rw [headers_advance _h]
  have hlt := BitVec.lt_def.mp _h
  omega

def compareAnchors (l : PeLayout) : List ImageAnchor → MappedRun σ →
    Except GateStop Unit × MappedRun σ
  | [], run => (.ok (),run)
  | a :: rest, run =>
    if !validAnchor a l then (.error (.stopped .invalidAnchor),run)
    else match ask image a.rva a.length.toNat (compareAt a.bytes.toList 0 · (.stopped .anchorMismatch)) run with
      | (.error stop,run) => (.error stop,run)
      | (.ok (),run) => compareAnchors l rest run

def checkMapped (file : List UInt8) (l : PeLayout) (p : ObservedProfile) (run : MappedRun σ) :
    Except GateStop Unit × MappedRun σ :=
  if l ≠ p.layout ∨ l.headersSize.toNat > file.length then (.error (.stopped .layoutMismatch),run)
  else match compareHeaders image file l.headersSize 0 run with
    | (.error stop,run) => (.error stop,run)
    | (.ok (),run) =>
      if badAnchorCount p then (.error (.stopped .invalidAnchor),run)
      else compareAnchors image l p.anchors run

end Mapped
end ProfileGate

open ProfileGate

/-- `match_file_observation`; there is no result when it compares past the end of a range. -/
def matchFileObservation (t : Target) (file : List UInt8) (hash : Vector UInt8 32) (l : PeLayout)
    (p : ObservedProfile) : Option ProfileResult :=
  outcome (matchFile t file hash l p)

/-- `check_mapped_observation`, with the state it leaves the reader in. -/
def checkMappedObservation {σ : Type*} (image : ImageReader σ) (s : σ) (file : List UInt8)
    (l : PeLayout) (p : ObservedProfile) : Option ProfileResult × σ :=
  let (result,run) := checkMapped image file l p ⟨s,.replicate 1024 0⟩
  (outcome result,run.reader)

end Saex
