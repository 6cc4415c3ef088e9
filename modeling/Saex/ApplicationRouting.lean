import Saex.DebuggedThread
import Saex.FileManagerEntry

/-! engine/loader/application_routing.cpp: the handler of the application's events, which leads
each of them by way of two tables to code of its own. From engine/loader/event_dispatch.cpp, what
the dispatcher does before its CALL of the handler. -/
namespace Saex
open LittleEndian

structure EventDispatchSpec where
  dispatcher : FrameTargetSpec
  application : FrameTargetSpec
  applicationPrefix : Vector UInt8 21
deriving DecidableEq

structure ApplicationRoutingSpec where
  initializer : FrameTargetSpec
  detourRva : BitVec 32
  indexRva : BitVec 32
  tableRva : BitVec 32
  indices : Vector UInt8 39
  targetRvas : Vector (BitVec 32) 11
deriving DecidableEq

structure ApplicationRoutingCode where
  entry : Vector UInt8 21
  detour : Vector UInt8 12
  indirect : Vector UInt8 7
  targets : Vector (BitVec 32) 11
deriving DecidableEq

/-- `layout` -/
def applicationRoutingLayout (s : ApplicationRoutingSpec) (p : EventDispatchSpec) : Bool :=
  let f := s.initializer
  let a := p.application
  let range (r n : BitVec 32) : Bool := r ≥ 4096 && n ≤ f.imageSize && r ≤ f.imageSize-n
  let spans := [(a.targetRva,27),(s.detourRva,12),(s.indexRva,39),(s.tableRva,44),(f.callRva,5),
    (f.targetRva,16),(p.dispatcher.targetRva,17),(p.dispatcher.callRva-7,12)]
  !(!validFrameTargetSpec f || !validFrameTargetSpec a || !validFrameTargetSpec p.dispatcher ||
    f.imageBase ≠ a.imageBase || f.imageSize ≠ a.imageSize || p.dispatcher.imageBase ≠ a.imageBase ||
    p.dispatcher.imageSize ≠ a.imageSize || a.callRva ≠ p.dispatcher.targetRva+12 ||
    s.indices[24] ≠ 5 || s.targetRvas[5] ≠ f.callRva) &&
  spans.all (fun x => range x.1 x.2) && disjointSpans spans &&
  s.indices.all (·.toNat < 11) && s.targetRvas.all (range · 1)

def applicationRoutingCode (s : ApplicationRoutingSpec) (p : EventDispatchSpec) :
    Option ApplicationRoutingCode :=
  let r := p.application.targetRva
  let base := p.application.imageBase
  if !applicationRoutingLayout s p then none
  else some {
    entry := writeDword 16 (s.detourRva-(r+20)) (writeDword 9 (s.targetRvas[10]-(r+13))
      #v[0x8b,0x44,0x24,4,0x83,0xf8,0x26,0x0f,0x87,0,0,0,0,0x90,0x90,0xe9,0,0,0,0,0xff])
    detour := writeDword 8 (r+20-(s.detourRva+12)) (writeDword 3 (base+s.indexRva)
      #v[0x0f,0xb6,0x80,0,0,0,0,0xe9,0,0,0,0])
    indirect := writeDword 3 (base+s.tableRva) #v[0xff,0x24,0x85,0,0,0,0]
    targets := s.targetRvas.map (base+·) }

def validApplicationRoutingSpec (s : ApplicationRoutingSpec) (p : EventDispatchSpec) : Bool :=
  match applicationRoutingCode s p with
  | some code => code.entry = p.applicationPrefix &&
      p.application.targetPrefix.toList = code.entry.toList.take 16
  | none => false

/-- Before the CALL of the handler at stage 3, at stages 1 and 2 on the way there. -/
def eventDispatchFrame (s : EventDispatchSpec) (stage : ℕ) (saved r : DispatchRegisters)
    (stack : List (BitVec 32)) : Bool :=
  let ret := s.dispatcher.imageBase+s.dispatcher.callRva+5
  if stage < 1 || stage > 3 || !validFrameTargetSpec s.dispatcher || saved.esp < 4096 ||
      saved.esp.toNat%4 ≠ 0 || saved.eax ≠ 0 || saved.ebx ≠ 0 || saved.flags &&& 0x500 ≠ 0 ||
      r.flags &&& 0x500 ≠ 0 || r.eax ≠ 0 || r.ebx ≠ 0 || r.ecx ≠ saved.ecx || r.edx ≠ saved.edx ||
      r.ebp ≠ saved.ebp then false
  else if stage = 3 then r.esp = saved.esp-28 && r.esi = 0 && r.edi = 24 &&
    stack = [24,0,saved.edi,saved.esi,ret,24,0]
  else if r.esi ≠ saved.esi || r.edi ≠ saved.edi then false
  else if stage = 1 then r.esp = saved.esp-8 && stack = [24,0]
  else r.esp = saved.esp-12 && stack = [ret,24,0]

/-- At the handler's entry, at the detour, at the indirect jump and at the CALL of the initializer. -/
def ApplicationRoutingSpec.applicationRoutingFrame (s : ApplicationRoutingSpec) (p : EventDispatchSpec) (stage : ℕ)
    (saved r : DispatchRegisters) (stack : List (BitVec 32)) : Bool :=
  if stage < 1 || stage > 4 || !validApplicationRoutingSpec s p || saved.esp < 4096 ||
      saved.esp.toNat%4 ≠ 0 || saved.eax ≠ 0 || saved.ebx ≠ 0 || saved.flags &&& 0x500 ≠ 0 ||
      r.flags &&& 0x500 ≠ 0 || r.esp ≠ saved.esp-32 || r.ebx ≠ 0 || r.ecx ≠ saved.ecx ||
      r.edx ≠ saved.edx || r.ebp ≠ saved.ebp || r.esi ≠ 0 || r.edi ≠ 24 ||
      r.eax ≠ (if stage = 1 then 0 else if stage = 2 then 24 else 5) then false
  else stack = [p.application.imageBase+p.application.callRva+5,24,0,saved.edi,saved.esi,
    p.dispatcher.imageBase+p.dispatcher.callRva+5,24,0]

end Saex
