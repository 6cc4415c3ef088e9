import Saex.Ia32Flags
import Saex.Ia32Listing
import Saex.LoaderInputs

/-! A thread as the debugger finds it at a stop, and the functions of the system that it
calls on the way, which no checkpoint looks into. -/
namespace Saex
open WrappedMemory Ia32

def registers (m : Machine) : DispatchRegisters :=
  ⟨m.regs.esp,m.regs.eax,m.regs.ebx,m.regs.ecx,m.regs.edx,m.regs.esi,m.regs.edi,m.regs.ebp,m.flags⟩

/-- The same registers, but for some flags. -/
def AgreeBut (free : BitVec 32) (r r' : DispatchRegisters) : Prop :=
  { r with flags := r.flags &&& ~~~free } = { r' with flags := r'.flags &&& ~~~free }

theorem agreeBut_iff {free : BitVec 32} {r r' : DispatchRegisters} : AgreeBut free r r' ↔
    r.esp = r'.esp ∧ r.eax = r'.eax ∧ r.ebx = r'.ebx ∧ r.ecx = r'.ecx ∧ r.edx = r'.edx ∧
      r.esi = r'.esi ∧ r.edi = r'.edi ∧ r.ebp = r'.ebp ∧
      r.flags &&& ~~~free = r'.flags &&& ~~~free := by
  rw [AgreeBut, DispatchRegisters.mk.injEq]

/-- The same registers, but for those that a function need not keep and the resume flag. -/
def AgreeKept (r r' : DispatchRegisters) : Prop :=
  r.esp = r'.esp ∧ r.ebx = r'.ebx ∧ r.ebp = r'.ebp ∧ r.esi = r'.esi ∧ r.edi = r'.edi ∧
    r.flags &&& ~~~(arithmeticFlags ||| resumeFlag) = r'.flags &&& ~~~(arithmeticFlags ||| resumeFlag)

/-- A check of the flags against a mask and, elsewhere, against flags that had no trap and no
direction flag. The bits in `free` are not looked at. -/
theorem flags_iff {x y f mask rest free result : BitVec 32} (hf : f &&& 0x500 = 0)
    (hresult : y &&& mask = result) (hrest : y &&& rest = f &&& rest)
    (hcover : ~~~free = mask ||| rest) (hpart : rest &&& 0x500 = 0x500) :
    (x &&& 0x500#32 = 0#32 ∧ x &&& mask = result ∧ (x ^^^ f) &&& rest = 0#32) ↔
      x &&& ~~~free = y &&& ~~~free := by
  rw [← agree_iff hresult hrest hcover]
  refine ⟨And.right,fun h => ⟨?_,h⟩⟩
  exact (and_eq_of_agree (xor_and_eq_zero.mp h.2) hpart).trans hf

theorem direction_clear {f : BitVec 32} (h : f &&& 0x500 = 0) : f.getLsbD 10 = false := by
  have hbit := congrArg (fun w => w.getLsbD 10) h
  rw [BitVec.getLsbD_and] at hbit
  simpa using hbit

/-- The same where nothing but the bits in `free` may change. -/
theorem flags_unchanged_iff {x y f rest free : BitVec 32} (hf : f &&& 0x500 = 0)
    (hrest : y &&& rest = f &&& rest) (hcover : ~~~free = rest) (hpart : rest &&& 0x500 = 0x500) :
    (x &&& 0x500#32 = 0#32 ∧ (x ^^^ f) &&& rest = 0#32) ↔ x &&& ~~~free = y &&& ~~~free := by
  have hiff := @flags_iff x y f 0 rest free 0 hf (by simp) hrest (by rw [hcover]; simp) hpart
  simpa using hiff

/-- The machine `m` enters a function, and `m'` is back from it: `arguments` bytes of arguments
are off the stack, the flags in `kept` and these stretches of memory are as they were. -/
structure Returned (arguments kept : BitVec 32) (memory : List (Address × ℕ)) (m m' : Machine) :
    Prop where
  eip : m'.eip = word m.mem m.regs.esp
  esp : m'.regs.esp = m.regs.esp+4+arguments
  ebx : m'.regs.ebx = m.regs.ebx
  ebp : m'.regs.ebp = m.regs.ebp
  esi : m'.regs.esi = m.regs.esi
  edi : m'.regs.edi = m.regs.edi
  fs : m'.fs = m.fs
  flags : m'.flags &&& kept = m.flags &&& kept
  memory : ∀ x ∈ memory, load m'.mem x.1 x.2 = load m.mem x.1 x.2

/-- Back from a function that answers `eax` and leaves this memory. -/
def backFrom (arguments eax : BitVec 32) (mem : Memory) (m : Machine) : Machine :=
  { m with eip := word m.mem m.regs.esp, mem, regs := { m.regs with esp := m.regs.esp+4+arguments, eax } }

theorem returned_backFrom {arguments eax kept : BitVec 32} {mem : Memory} {memory : List (Address × ℕ)}
    {m : Machine} (h : ∀ x ∈ memory, load mem x.1 x.2 = load m.mem x.1 x.2) :
    Returned arguments kept memory m (backFrom arguments eax mem m) :=
  ⟨rfl,rfl,rfl,rfl,rfl,rfl,rfl,rfl,h⟩

/-- What is kept may be taken for less, part by part. -/
theorem Returned.mono {arguments kept : BitVec 32} {memory parts : List (Address × ℕ)} {m m' : Machine}
    (h : Returned arguments kept memory m m')
    (hparts : ∀ x ∈ parts, ∃ y ∈ memory, ∃ d : BitVec 32, x.1 = y.1+d ∧ d.toNat+x.2 ≤ y.2) :
    Returned arguments kept parts m m' := by
  obtain ⟨heip,hesp,hebx,hebp,hesi,hedi,hfs,hflags,hmemory⟩ := h
  refine ⟨heip,hesp,hebx,hebp,hesi,hedi,hfs,hflags,?_⟩
  intro x hx
  obtain ⟨y,hy,d,hplace,hd⟩ := hparts x hx
  rw [hplace]
  exact load_of_load (hmemory y hy) hd

/-- `std::popcount` -/
def popcount (v : BitVec 32) : ℕ := (List.range 32).countP fun i => v.getLsbD i

theorem evenParity_eq (v : BitVec 32) : evenParity v = decide (popcount (v &&& 255)%2 = 0) := by
  have hlow : (List.range 8).countP (fun i => (v &&& 255).getLsbD i) =
      (List.range 8).countP fun i => v.getLsbD i := by
    refine List.countP_congr fun i hi => ?_
    have hbit : ∀ i < 8, (255 : BitVec 32).getLsbD i = true := by decide
    rw [BitVec.getLsbD_and, hbit i (List.mem_range.mp hi), Bool.and_true]
  have hhigh : ((List.range 24).map (8+·)).countP (fun i => (v &&& 255).getLsbD i) = 0 := by
    refine List.countP_eq_zero.mpr fun i hi => ?_
    obtain ⟨k,hk,rfl⟩ := List.mem_map.mp hi
    have hbit : ∀ k < 24, (255 : BitVec 32).getLsbD (8+k) = false := by decide
    rw [BitVec.getLsbD_and, hbit k (List.mem_range.mp hk), Bool.and_false]
    decide
  rw [evenParity, popcount, show List.range 32 = List.range 8++(List.range 24).map (8+·) from rfl,
    List.countP_append, hlow, hhigh, Nat.add_zero]

/-- Parity, zero and sign as the checkpoints compute them. -/
theorem resultFlags_eq_popcount (v : BitVec 32) :
    (if popcount (v &&& 255)%2 = 0 then 4 else 0 : Address) ||| (if v = 0 then 64 else 0 : Address) |||
      ((v >>> 24) &&& 128 : Address) = resultFlags v := by
  rw [resultFlags_eq_masks, evenParity_eq]
  simp only [decide_eq_true_eq]
  rfl

end Saex
