import Saex.DebuggedThread
import Saex.FileManagerEntry

/-! engine/loader/cwd_seh.cpp: the checkpoint at the wrapper that looks for the current
directory, whose prologue installs an exception handler. -/
namespace Saex
open LittleEndian

structure CwdSehSpec where
  wrapper : FrameTargetSpec
  prologue : FrameTargetSpec
  scopeRva : BitVec 32
  handlerRva : BitVec 32
  cleanupRva : BitVec 32
  stopPrefix : Vector UInt8 16
deriving DecidableEq

def sehPrologueRaw : Vector UInt8 59 :=
  #v[0x68,0,0,0,0,0x64,0xa1,0,0,0,0,0x50,0x8b,0x44,0x24,0x10,0x89,0x6c,0x24,0x10,
    0x8d,0x6c,0x24,0x10,0x2b,0xe0,0x53,0x56,0x57,0x8b,0x45,0xf8,0x89,0x65,0xe8,0x50,0x8b,0x45,0xfc,
    0xc7,0x45,0xfc,0xff,0xff,0xff,0xff,0x89,0x45,0xf8,0x8d,0x45,0xf0,0x64,0xa3,0,0,0,0,0xc3]

structure CwdSehCode where
  wrapper : Vector UInt8 16
  prologue : Vector UInt8 59
  scope : Vector UInt8 12
deriving DecidableEq

def cwdSehCode (s : CwdSehSpec) : Option CwdSehCode :=
  let f := s.wrapper
  if !validFrameTargetSpec f || !validFrameTargetSpec s.prologue ||
      s.scopeRva < 4096 || s.scopeRva > f.imageSize-12 ||
      s.handlerRva < 4096 || s.handlerRva > f.imageSize-16 ||
      s.cleanupRva < 4096 || s.cleanupRva > f.imageSize-16 ||
      s.prologue.targetRva > f.imageSize-59 || f.targetRva > f.imageSize-28 then none
  else
    let wrapper : Vector UInt8 16 := #v[0x6a,12,0x68,0,0,0,0,0,0,0,0,0,0,0,0,0]
    let wrapper := writeDword 3 (f.imageBase+s.scopeRva) wrapper
    some {
      wrapper := splice 12 (s.stopPrefix.toList.take 4) (splice 7 s.prologue.call.toList wrapper)
      prologue := writeDword 1 (f.imageBase+s.handlerRva) sehPrologueRaw
      scope := writeDword 8 (f.imageBase+s.cleanupRva)
        (writeDword 0 0xffffffff (.replicate 12 0)) }

/-- Spans of the image: they are in it, and no two of them overlap. -/
def validSpans (imageSize : BitVec 32) (spans : List (BitVec 32 × BitVec 32)) : Bool :=
  spans.all (fun x => !(x.1 < 4096 || x.1 > imageSize-x.2)) &&
    spans.Pairwise fun y x => !(x.1 < y.1+y.2 && y.1 < x.1+x.2)

/-- Wherever the image is, such spans are apart. -/
theorem apart_of_validSpans {imageBase imageSize : BitVec 32} {spans : List (BitVec 32 × BitVec 32)}
    (hsize : 4096 ≤ imageSize) (hspans : validSpans imageSize spans)
    (hlength : ∀ x ∈ spans, 0 < x.2 ∧ x.2 ≤ 4096) : spans.Pairwise fun y x =>
      WrappedMemory.Apart (imageBase+y.1) y.2.toNat (imageBase+x.1) x.2.toNat := by
  simp only [validSpans, Bool.and_eq_true, List.all_eq_true, Bool.not_eq_true', Bool.or_eq_false_iff,
    decide_eq_false_iff_not, decide_eq_true_eq] at hspans
  obtain ⟨hin,hpairs⟩ := hspans
  refine hpairs.imp_of_mem fun {y x} hy hx hpair => ?_
  have hy' := hin y hy
  have hx' := hin x hx
  have hly := hlength y hy
  have hlx := hlength x hx
  simp only [Bool.and_eq_false_iff, decide_eq_false_iff_not] at hpair
  constructor <;> bv_omega

def validCwdSehSpec (s : CwdSehSpec) (p : FileManagerEntrySpec) : Bool :=
  let f := s.wrapper
  let h := s.prologue
  let m := p.manager
  match fileManagerBody p, cwdSehCode s with
  | some parent, some c =>
    !(f.imageBase ≠ m.imageBase || h.imageBase ≠ m.imageBase || f.imageSize ≠ m.imageSize ||
      h.imageSize ≠ m.imageSize || f.callRva ≠ m.targetRva+11 || f.targetRva ≠ p.cwdRva ||
      h.callRva ≠ f.targetRva+7 || f.call.toList ≠ (parent.toList.drop 11).take 5 ||
      f.targetPrefix ≠ c.wrapper || h.targetPrefix.toList ≠ c.prologue.toList.take 16) &&
    validSpans f.imageSize [(m.callRva,21),(m.targetRva,51),(p.bufferRva-4,136),(p.suffixRva,2),
      (f.targetRva,28),(h.targetRva,59),(s.scopeRva,12),(s.handlerRva,16),(s.cleanupRva,16)]
  | _, _ => false

abbrev TibWords := Vector (BitVec 32) 7

/-- The thread information block. -/
def tibWords (m : Ia32.Machine) : TibWords := WrappedMemory.words m.mem m.fs 7

abbrev StackWindow := Vector (BitVec 32) 20

def validCwdSehOrigin (saved : DispatchRegisters) (t : TibWords) : Bool :=
  if saved.esp < 65596 || saved.esp > 0xffffffff-20 || saved.esp.toNat%4 ≠ 0 || t[2] < 65536 ||
      t[1] ≤ t[2] || saved.esp-60 < t[2] || saved.esp+20 > t[1] || t[6] < 65536 ||
      t[6] > 0xffffffff-56 then false
  else t[0] = 0xffffffff ||
    (t[0].toNat%4 = 0 && t[0] ≥ saved.esp+20 && t[0] ≤ t[1]-8)

def cwdSehFrame (s : CwdSehSpec) (stage : ℕ) (saved r : DispatchRegisters) : Bool :=
  if stage < 1 || stage > 3 || saved.esp < 65596 || saved.esp > 0xffffffff-20 ||
      saved.esp.toNat%4 ≠ 0 || saved.eax ≠ 0 || saved.ebx ≠ 0 || saved.esi ≠ 0 || saved.edi ≠ 24 ||
      saved.flags &&& 0x500 ≠ 0 || r.flags &&& 0x500 ≠ 0 || r.ebx ≠ saved.ebx ||
      r.ecx ≠ saved.ecx || r.edx ≠ saved.edx || r.esi ≠ saved.esi || r.edi ≠ saved.edi ||
      r.eax ≠ (if stage = 3 then saved.esp-24 else saved.eax) ||
      r.ebp ≠ (if stage = 3 then saved.esp-8 else saved.ebp) ||
      r.esp ≠ saved.esp-(if stage = 1 then 4 else if stage = 2 then 16 else 48) ||
      !validFrameTargetSpec s.wrapper then false
  else if stage < 3 then (r.flags ^^^ saved.flags) &&& ~~~0x10000 = 0
  else
    -- Only SUB ESP,12 sets flags.
    let lhs := saved.esp-24
    let res := lhs-12
    let flags := (if lhs < 12 then 1 else 0 : Address) |||
      (if popcount (res &&& 255)%2 = 0 then 4 else 0 : Address) |||
      ((lhs ^^^ 12 ^^^ res) &&& 16 : Address) ||| (if res = 0 then 64 else 0 : Address) |||
      ((res >>> 24) &&& 128 : Address) |||
      ((((lhs ^^^ 12) &&& (lhs ^^^ res)) >>> 20) &&& 0x800 : Address)
    r.flags &&& 0x8d5 = flags && (r.flags ^^^ saved.flags) &&& ~~~0x108d5 = 0

/-- The window at a stage; its word `i` is at `saved.esp-60+4*i`. -/
def cwdSehStack (s : CwdSehSpec) (stage : ℕ) (saved : DispatchRegisters) (tib : TibWords)
    (stack : StackWindow) : StackWindow :=
  let base := s.wrapper.imageBase
  let ret := base+s.prologue.callRva+5
  let stack := stack.set 14 (base+s.wrapper.callRva+5)
  let stack := if stage = 2 then ((stack.set 13 12).set 12 (base+s.scopeRva)).set 11 ret else stack
  if stage = 3 then
    (((((((((stack.set 2 ret).set 3 saved.edi).set 4 saved.esi).set 5 saved.ebx).set 7
      (saved.esp-48)).set 9 tib[0]).set 10 (base+s.handlerRva)).set 11 (base+s.scopeRva)).set 12
      0xffffffff).set 13 saved.ebp
  else stack

def cwdSehTib (stage : ℕ) (saved : DispatchRegisters) (tib : TibWords) : TibWords :=
  if stage = 3 then tib.set 0 (saved.esp-24) else tib

def cwdSehMemory (s : CwdSehSpec) (stage : ℕ) (saved : DispatchRegisters)
    (beforeTib nowTib : TibWords) (beforeStack nowStack : StackWindow) : Bool :=
  if stage < 1 || stage > 3 || !validCwdSehOrigin saved beforeTib ||
      !validFrameTargetSpec s.wrapper then false
  else cwdSehTib stage saved beforeTib = nowTib &&
    cwdSehStack s stage saved beforeTib beforeStack = nowStack

end Saex
