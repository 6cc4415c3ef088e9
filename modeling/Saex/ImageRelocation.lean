import Saex.ExportFixups
import Saex.PeGrammar

/-! What the loader is relied on for: it maps the raw bytes of the sections at their
addresses and rebases the dwords that the HIGHLOW entries of the relocation directory
name. -/
namespace Saex
open LittleEndian Patches

namespace PeFile
variable (b : List UInt8)

def relocationRva : ℕ := field 4 b (optionalHeader b+136)
def relocationSize : ℕ := field 4 b (optionalHeader b+140)

end PeFile

/-- The image before relocation, by relative address. -/
def Mapped (b : List UInt8) (image : ℕ → UInt8) : Prop :=
  ∀ i < PeFile.sectionCount b, ∀ k < PeFile.rawSize b i,
    image (PeFile.rva b i+k) = b.getD (PeFile.rawPointer b i+k) 0

/-! The blocks of the directory, through a reader of numbers by width and address. -/
section Blocks
variable (word : ℕ → ℕ → ℕ)

/-- The target of an entry of the type HIGHLOW. -/
def highlowTarget (page entry : ℕ) : Option ℕ :=
  if entry/4096 = 3 then some (page+entry%4096) else none

/-- The entries of the block at `p`, after its header. -/
def blockEntries (p size : ℕ) : List ℕ := (List.range' 8 ((size-8)/2) 2).map fun i => word 2 (p+i)

/-- The targets named by the `remaining` bytes of blocks from `p` on. -/
def highlowTargets : ℕ → ℕ → ℕ → List ℕ
  | 0, _, _ => []
  | rounds+1, p, remaining =>
    let page := word 4 p
    let size := word 4 (p+4)
    if remaining < 8 ∨ size < 8 ∨ remaining < size then []
    else (blockEntries word p size).filterMap (highlowTarget page)++
      highlowTargets rounds (p+size) (remaining-size)

/-- The targets of the whole directory. Each block has eight bytes at least. -/
def directoryTargets (b : List UInt8) : List ℕ :=
  highlowTargets word (PeFile.relocationSize b) (PeFile.relocationRva b) (PeFile.relocationSize b)

end Blocks

def memoryField (image : ℕ → UInt8) (width p : ℕ) : ℕ := value (cells image p width)

/-- The loader reads the directory in the image. -/
def relocationTargets (b : List UInt8) (image : ℕ → UInt8) : List ℕ :=
  directoryTargets (memoryField image) b

/-- The image as it stands at its load base. -/
def relocated (b : List UInt8) (image : ℕ → UInt8) (loadBase : BitVec 32) : ℕ → UInt8 :=
  patchAll (rebase (loadBase-BitVec.ofNat 32 (PeFile.imageBase b))) 4 (relocationTargets b image) image

end Saex
