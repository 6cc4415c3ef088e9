import Saex.CwdCopy

/-! engine/loader/cwd_return.cpp: the checkpoint where the helper checks the cookie and returns. -/
namespace Saex
open LittleEndian

structure CwdReturnSpec where
  checkerRva : BitVec 32
  returnPrefix : Vector UInt8 16
deriving DecidableEq

structure CwdReturnCode where
  cleanup : Vector UInt8 7
  epilogue : Vector UInt8 14
  checker : Vector UInt8 9
deriving DecidableEq

def cwdReturnCode (s : CwdReturnSpec) (p : CwdCopySpec) (q : CwdQuerySpec) (l : CwdLockSpec) :
    Option CwdReturnCode :=
  if (cwdCopyCode p q l).isNone || s.checkerRva < 4096 || s.checkerRva > l.selector.imageSize-9 ||
      l.selector.callRva > l.selector.imageSize-39 ||
      !disjointSpans [(q.helperRva,247),(p.copierRva,248),(l.selector.callRva,23),
        (l.selector.callRva+23,16),(q.cookieRva,4),(q.iatRva,4),(l.tableRva+52,16),(s.checkerRva,9)] ||
      l.selector.imageBase > 0xffffffff-q.cookieRva then none
  else
    let code : CwdReturnCode := {
      cleanup := #v[0x59,0x59,0xe9,0x51,0xff,0xff,0xff]
      epilogue := writeDword 8 (s.checkerRva-(q.helperRva+75))
        #v[0x8b,0x4d,0xfc,0x33,0x4d,4,0x5b,0xe8,0,0,0,0,0xc9,0xc3]
      checker := writeDword 2 (l.selector.imageBase+q.cookieRva) #v[0x3b,0x0d,0,0,0,0,0x75,1,0xc3] }
    if code.cleanup.toList = p.returnPrefix.toList.take 7 then some code else none

/-- `logic_flags` -/
def returnLogicFlags (v : BitVec 32) : BitVec 32 :=
  (if popcount (v &&& 255)%2 = 0 then 4 else 0) ||| (if v = 0 then 0x40 else 0) ||| (v >>> 31)*0x80

/-- `h` are the registers at the CALL of the helper, `c` those at the return of the copier. -/
def cwdReturnFrame (stage : ℕ) (h c r : DispatchRegisters) (cookie destination : BitVec 32) : Bool :=
  if stage < 1 || stage > 6 || h.esp < 65536+304 || h.esp > 0xffffffff-72 || h.esp.toNat%4 ≠ 0 ||
      h.ebp ≠ h.esp+44 || destination = 0 || destination > 0xffffffff-128 || c.esp ≠ h.esp-296 ||
      c.ebp ≠ h.esp-16 || c.eax ≠ destination || c.ebx ≠ 0 || c.esi ≠ 0 || c.edi ≠ 24 ||
      c.flags &&& 0x500 ≠ 0 || r.flags &&& 0x500 ≠ 0 || (c.flags ^^^ r.flags) &&& ~~~0x108d5 ≠ 0 ||
      r.eax ≠ destination || r.edx ≠ c.edx || r.ebx ≠ 0 || r.esi ≠ 0 || r.edi ≠ 24 ||
      r.ebp ≠ (if stage = 6 then h.ebp else c.ebp) then false
  else
    let esp := if stage = 6 then h.esp-8 else if stage = 2 || stage = 5 then h.esp-284 else h.esp-288
    if r.esp ≠ esp || r.ecx ≠ (if stage = 1 then h.esp-284 else cookie) then false
    else if stage = 1 then (r.flags ^^^ c.flags) &&& ~~~0x10000 = 0
    -- XOR leaves the adjust flag undefined.
    else if stage ≤ 3 then r.flags &&& 0x8c5 = returnLogicFlags cookie
    -- CMP of the cookie with itself; nothing else is admitted.
    else r.flags &&& 0x8d5 = 0x44

end Saex
