import Saex.Ia32Listing

/-! Which stretches of memory an execution reads its data from. -/
namespace Ia32
open LittleEndian WrappedMemory

def Width.bytes : Width → ℕ
  | .byte => 1
  | .word => 2
  | .dword => 4

namespace Machine

def operandLoads (m : Machine) (w : Width) : Operand → List (Address × ℕ)
  | .mem l => [(m.address l,w.bytes)]
  | _ => []

/-- The stretches that an instruction reads, once `eip` stands behind it. -/
def loads (m : Machine) : Instruction → List (Address × ℕ)
  | .push source => m.operandLoads .dword source
  | .pop _ => [(m.regs.esp,4)]
  | .mov _ source w => m.operandLoads w source
  | .movzx _ source => m.operandLoads .byte source
  | .alu _ target source => m.operandLoads .dword target++m.operandLoads .dword source
  | .test left right w => m.operandLoads w left++m.operandLoads w right
  | .jmpTo source => m.operandLoads .dword source
  | .callTo source => m.operandLoads .dword source
  | .leave => [(m.regs.ebp,4)]
  | .ret => [(m.regs.esp,4)]
  | _ => []

def loadsAfter (m : Machine) (i : Instruction) (length : ℕ) : List (Address × ℕ) :=
  { m with eip := m.eip+BitVec.ofNat 32 length }.loads i

end Machine

variable {code : Memory} {m : Machine}

/-! Over a run. -/

attribute [simp] Width.bytes Machine.operandLoads Machine.loads Machine.loadsAfter

/-- The stretches that `n` instructions read, one after the other. -/
def runLoads (code : Memory) : ℕ → Machine → List (Address × ℕ)
  | 0, _ => []
  | n+1, m =>
    match decode (load code m.eip 15) with
    | none => []
    | some (i,length) => m.loadsAfter i length++runLoads code n (m.after i length)

/-- Those of a listing. -/
def Machine.loadsAll (m : Machine) : Listing → List (Address × ℕ)
  | [] => []
  | x :: xs => m.loadsAfter x.2 x.1.length++(m.after x.2 x.1.length).loadsAll xs

@[simp] theorem loadsAll_nil (m : Machine) : m.loadsAll [] = [] := rfl

@[simp] theorem loadsAll_cons (m : Machine) (x : List UInt8 × Instruction) (xs : Listing) :
    m.loadsAll (x :: xs) = m.loadsAfter x.2 x.1.length++(m.after x.2 x.1.length).loadsAll xs := rfl

theorem decode_of_encodes {bs : List UInt8} {i : Instruction} (h : Encodes bs i)
    (hcode : HasBytes code m.eip bs) : decode (load code m.eip 15) = some (i,bs.length) := by
  obtain ⟨rest,hrest⟩ := Nat.exists_eq_add_of_le h.short
  rw [hrest, load_add, hcode, h.decode]

theorem runLoads_add {m' : Machine} {n k : ℕ} (h : run code n m = some m') :
    runLoads code (n+k) m = runLoads code n m++runLoads code k m' := by
  induction n generalizing m with
  | zero =>
    cases h
    rw [Nat.zero_add, runLoads, List.nil_append]
  | succ n ih =>
    rw [run, Option.bind_eq_some_iff] at h
    obtain ⟨next,hstep,hrun⟩ := h
    rw [step, Option.map_eq_some_iff] at hstep
    obtain ⟨x,hdecode,hnext⟩ := hstep
    subst hnext
    rw [Nat.add_right_comm, runLoads, runLoads, hdecode]
    simp only
    rw [ih hrun, List.append_assoc]

theorem runLoads_listing {xs : Listing} (hxs : Straight xs) (hcode : HasBytes code m.eip (encoding xs)) :
    runLoads code xs.length m = m.loadsAll xs := by
  induction xs generalizing m with
  | nil => rfl
  | cons x xs ih =>
    cases xs with
    | nil =>
      rw [encoding_cons, encoding_nil, List.append_nil] at hcode
      rw [List.length_singleton, runLoads, decode_of_encodes hxs hcode]
      rfl
    | cons y xs =>
      obtain ⟨⟨henc,hseq⟩,hxs⟩ := hxs
      obtain ⟨hcx,hcxs⟩ := hasBytes_append.mp hcode
      have heip : (m.after x.2 x.1.length).eip = m.eip+BitVec.ofNat 32 x.1.length := after_eip hseq _
      have hloads := ih hxs (m := m.after x.2 x.1.length) (by rwa [heip])
      rw [List.length_cons, runLoads, decode_of_encodes henc hcx]
      exact congrArg (m.loadsAfter x.2 x.1.length++·) hloads

/-- The execution comes from the one machine to the other and reads just these stretches. -/
def ReachesReading (code : Memory) (loads : List (Address × ℕ)) (m m' : Machine) : Prop :=
  ∃ n, run code n m = some m' ∧ runLoads code n m = loads

theorem ReachesReading.reaches {loads : List (Address × ℕ)} {m' : Machine}
    (h : ReachesReading code loads m m') : Reaches code m m' := by
  obtain ⟨n,hrun,_⟩ := h
  exact ⟨n,hrun⟩

theorem ReachesReading.trans {loads loads' : List (Address × ℕ)} {m' m'' : Machine}
    (h : ReachesReading code loads m m') (h' : ReachesReading code loads' m' m'') :
    ReachesReading code (loads++loads') m m'' := by
  obtain ⟨n,hn,hloads⟩ := h
  obtain ⟨k,hk,hloads'⟩ := h'
  exact ⟨n+k,(run_add hn).trans hk,by rw [runLoads_add hn, hloads, hloads']⟩

theorem reachesReading_listing {xs : Listing} {x : Address} {m' : Machine}
    {loads : List (Address × ℕ)} (hxs : Straight xs) (hcode : HasBytes code x (encoding xs))
    (heip : m.eip = x) (h : m.afterAll xs = m') (hloads : m.loadsAll xs = loads) :
    ReachesReading code loads m m' :=
  ⟨xs.length,h ▸ run_listing hxs (heip ▸ hcode),hloads ▸ runLoads_listing hxs (heip ▸ hcode)⟩

end Ia32
