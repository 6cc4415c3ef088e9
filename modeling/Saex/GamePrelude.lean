import Saex.ApplicationRouting
import Saex.CwdSeh

/-! engine/loader/game_prelude.cpp: the checkpoint at the two helpers that the initializer calls
first. From engine/loader/file_manager_entry.cpp, the checkpoint of the call that follows them. -/
namespace Saex
open LittleEndian

structure GamePreludeSpec where
  empty : FrameTargetSpec
  localisation : FrameTargetSpec
  flagsRva : BitVec 32
  stopPrefix : Vector UInt8 16
deriving DecidableEq

def gamePreludeRaw : Vector UInt8 20 :=
  #v[0x32,0xc0,0xc6,0x05,0,0,0,0,1,0xa2,0,0,0,0,0xa2,0,0,0,0,0xc3]

def gamePreludeBody (s : GamePreludeSpec) : Option (Vector UInt8 20) :=
  let f := s.localisation
  if !validFrameTargetSpec f || s.flagsRva < 4100 || s.flagsRva > f.imageSize-12 then none
  else
    let a := f.imageBase+s.flagsRva
    some (writeDword 15 (a+2) (writeDword 10 (a+1) (writeDword 4 a gamePreludeRaw)))

def validGamePreludeSpec (s : GamePreludeSpec) (p : ApplicationRoutingSpec) : Bool :=
  let a := s.empty
  let b := s.localisation
  let f := p.initializer
  match gamePreludeBody s with
  | some body =>
    !(!validFrameTargetSpec f || !validFrameTargetSpec a || !validFrameTargetSpec b ||
      a.imageBase ≠ f.imageBase || b.imageBase ≠ f.imageBase || a.imageSize ≠ f.imageSize ||
      b.imageSize ≠ f.imageSize || a.callRva ≠ f.targetRva || b.callRva ≠ a.callRva+5 ||
      -- A RET, and nothing but NOPs behind it.
      a.targetPrefix.toList ≠ 0xc3 :: List.replicate 15 0x90 ||
      a.call.toList ≠ f.targetPrefix.toList.take 5 ||
      b.call.toList ≠ (f.targetPrefix.toList.drop 5).take 5 ||
      s.stopPrefix.toList.take 6 ≠ f.targetPrefix.toList.drop 10 ||
      b.targetPrefix.toList ≠ body.toList.take 16) &&
    validSpans f.imageSize [(f.callRva,5),(f.targetRva,26),(a.targetRva,16),(b.targetRva,20),
      (s.flagsRva-4,16)]
  | none => false

/-- At the initializer's entry, in the empty helper, at the CALL of the other one, in it, and at the
next CALL. -/
def gamePreludeFrame (s : GamePreludeSpec) (p : ApplicationRoutingSpec) (stage : ℕ)
    (saved r : DispatchRegisters) (stack : List (BitVec 32)) : Bool :=
  if stage < 1 || stage > 5 || !validGamePreludeSpec s p || saved.esp < 4096 ||
      saved.esp.toNat%4 ≠ 0 || saved.eax ≠ 5 || saved.ebx ≠ 0 || saved.esi ≠ 0 || saved.edi ≠ 24 ||
      saved.flags &&& 0x500 ≠ 0 || r.flags &&& 0x500 ≠ 0 || r.ebx ≠ saved.ebx || r.ecx ≠ saved.ecx ||
      r.edx ≠ saved.edx || r.esi ≠ saved.esi || r.edi ≠ saved.edi || r.ebp ≠ saved.ebp ||
      r.eax ≠ (if stage = 5 then 0 else 5) then false
  -- XOR leaves the adjust flag undefined.
  else if stage = 5 && (r.flags &&& 0x8c5 ≠ 0x44 || (r.flags ^^^ saved.flags) &&& ~~~0x108d5 ≠ 0) then
    false
  else if stage < 5 && (r.flags ^^^ saved.flags) &&& ~~~0x10000 ≠ 0 then false
  else
    let ret := p.initializer.imageBase+p.initializer.callRva+5
    if stage = 2 || stage = 4 then
      let childRet := p.initializer.imageBase+
        (if stage = 2 then s.empty.callRva else s.localisation.callRva)+5
      r.esp = saved.esp-8 && stack = [childRet,ret]
    else r.esp = saved.esp-4 && stack = [ret]

/-- The three flags with four bytes before them and nine behind. -/
def gamePreludeFlags (stage : ℕ) (before current : Vector UInt8 16) : Bool :=
  if stage < 1 || stage > 5 then false
  else
    let expected := if stage = 5 then ((before.set 4 1).set 5 0).set 6 0 else before
    current = expected

def validFileManagerEntrySpec (s : FileManagerEntrySpec) (p : GamePreludeSpec)
    (r : ApplicationRoutingSpec) : Bool :=
  let f := s.manager
  let parent := r.initializer
  match fileManagerBody s with
  | some body =>
    !(!validGamePreludeSpec p r || f.imageBase ≠ parent.imageBase || f.imageSize ≠ parent.imageSize ||
      f.callRva ≠ p.localisation.callRva+5 || f.call.toList ≠ p.stopPrefix.toList.take 5 ||
      s.returnPrefix.toList.take 11 ≠ p.stopPrefix.toList.drop 5 ||
      f.targetPrefix.toList ≠ body.toList.take 16) &&
    validSpans f.imageSize [(parent.callRva,5),(parent.targetRva,31),(p.empty.targetRva,16),
      (p.localisation.targetRva,20),(p.flagsRva-4,16),(f.targetRva,51),(s.cwdRva,16),
      (s.bufferRva-4,136),(s.suffixRva,2)]
  | none => false

/-- In the file manager, and at its CALL for the current directory. -/
def fileManagerEntryFrame (s : FileManagerEntrySpec) (p : GamePreludeSpec) (parent : ApplicationRoutingSpec)
    (stage : ℕ) (saved r : DispatchRegisters) (stack : List (BitVec 32)) : Bool :=
  if stage < 1 || stage > 2 || !validFileManagerEntrySpec s p parent || saved.esp < 4096 ||
      saved.esp.toNat%4 ≠ 0 || saved.eax ≠ 0 || saved.ebx ≠ 0 || saved.esi ≠ 0 || saved.edi ≠ 24 ||
      saved.flags &&& 0x500 ≠ 0 || r.flags &&& 0x500 ≠ 0 ||
      (saved.flags ^^^ r.flags) &&& ~~~0x10000 ≠ 0 || r.eax ≠ saved.eax || r.ebx ≠ saved.ebx ||
      r.ecx ≠ saved.ecx || r.edx ≠ saved.edx || r.esi ≠ saved.esi || r.edi ≠ saved.edi ||
      r.ebp ≠ saved.ebp then false
  else
    let base := s.manager.imageBase
    let outer := base+parent.initializer.callRva+5
    let ret := base+s.manager.callRva+5
    if stage = 1 then r.esp = saved.esp-4 && stack = [ret,outer]
    else r.esp = saved.esp-16 && stack = [base+s.bufferRva,128,saved.edi,ret,outer]

end Saex
