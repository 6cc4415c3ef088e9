import Saex.Ia32

/-! Code as a listing, every instruction beside its bytes, and its execution: on a machine
given by its fields, simp computes the fields of the machine behind the listing. -/
namespace Ia32
open LittleEndian WrappedMemory

/-- The bytes stand for the instruction, whatever follows them. -/
structure Encodes (bs : List UInt8) (i : Instruction) : Prop where
  short : bs.length ≤ 15
  decode : ∀ rest, decode (bs++rest) = some (i,bs.length)

/-- A dword as the decoder reads it. Listings have it in the instruction where they have
`write 4 v` in the bytes, so that decoding is a matter of evaluation. -/
def dword (v : BitVec 32) : BitVec 32 := read 32 (write 4 v)

@[simp] theorem dword_eq (v : BitVec 32) : dword v = v := read_write v rfl

def Sequential : Instruction → Prop
  | .jmp _ => False
  | .jmpTo _ => False
  | .jcc _ _ _ => False
  | .call _ => False
  | .callTo _ => False
  | .ret => False
  | _ => True

abbrev Listing := List (List UInt8 × Instruction)

def encoding (xs : Listing) : List UInt8 := xs.flatMap Prod.fst

/-- Each instruction stands for its bytes, and none but the last one branches. -/
def Straight : Listing → Prop
  | [] => True
  | [x] => Encodes x.1 x.2
  | x :: y :: xs => (Encodes x.1 x.2 ∧ Sequential x.2) ∧ Straight (y :: xs)

theorem straight_cons {x y : List UInt8 × Instruction} {xs : Listing} (hx : Encodes x.1 x.2)
    (hseq : Sequential x.2) (hxs : Straight (y :: xs)) : Straight (x :: y :: xs) := ⟨⟨hx,hseq⟩,hxs⟩

theorem straight_singleton {x : List UInt8 × Instruction} (hx : Encodes x.1 x.2) : Straight [x] := hx

def Machine.afterAll (m : Machine) (xs : Listing) : Machine :=
  xs.foldl (fun m x => m.after x.2 x.1.length) m

/-! The simp set of symbolic execution. -/

attribute [simp] Registers.get Registers.set Machine.setReg Machine.setFlags Machine.offset
  Machine.address Machine.operand Machine.assign Machine.push Machine.drop Machine.setLogicFlags
  Machine.alu Machine.shl Machine.execute Machine.after

@[simp] theorem encoding_nil : encoding [] = [] := rfl

@[simp] theorem encoding_cons (x : List UInt8 × Instruction) (xs : Listing) :
    encoding (x :: xs) = x.1++encoding xs := rfl

@[simp] theorem afterAll_nil (m : Machine) : m.afterAll [] = m := rfl

@[simp] theorem afterAll_cons (m : Machine) (x : List UInt8 × Instruction) (xs : Listing) :
    m.afterAll (x :: xs) = (m.after x.2 x.1.length).afterAll xs := rfl

theorem afterAll_append (m : Machine) (xs ys : Listing) :
    m.afterAll (xs++ys) = (m.afterAll xs).afterAll ys := List.foldl_append

variable {code : Memory} {m m' : Machine}

theorem run_add {n k : ℕ} (h : run code n m = some m') : run code (n+k) m = run code k m' := by
  induction n generalizing m with
  | zero =>
    cases h
    rw [Nat.zero_add]
  | succ n ih =>
    rw [run, Option.bind_eq_some_iff] at h
    obtain ⟨next,hstep,hrun⟩ := h
    rw [Nat.add_right_comm, run, hstep, Option.bind_some, ih hrun]

theorem step_of_encodes {bs : List UInt8} {i : Instruction} (h : Encodes bs i)
    (hcode : HasBytes code m.eip bs) : step code m = some (m.after i bs.length) := by
  obtain ⟨rest,hrest⟩ := Nat.exists_eq_add_of_le h.short
  rw [step, hrest, load_add, hcode, h.decode, Option.map_some]

theorem after_eip {i : Instruction} (h : Sequential i) (length : ℕ) :
    (m.after i length).eip = m.eip+BitVec.ofNat 32 length := by
  cases i with
  | mov target source w => cases target <;> cases w <;> rfl
  | alu op target source => cases op <;> cases target <;> rfl
  | shl r count =>
    simp only [Machine.after, Machine.execute, Machine.shl]
    split <;> rfl
  | jmp _ => exact h.elim
  | jmpTo _ => exact h.elim
  | jcc _ _ _ => exact h.elim
  | call _ => exact h.elim
  | callTo _ => exact h.elim
  | ret => exact h.elim
  | _ => rfl

/-- With the direction flag clear words are filled upwards. -/
theorem after_repStosd (length : ℕ) (hdirection : m.flags.getLsbD 10 = false)
    (h : 4*m.regs.ecx.toNat ≤ 2^32) : m.after .repStosd length =
      { m with
        mem := store m.mem m.regs.edi (List.replicate m.regs.ecx.toNat (write 4 m.regs.eax)).flatten
        regs := { m.regs with edi := m.regs.edi+4*m.regs.ecx, ecx := 0 }
        flags := blend m.flags resumeFlag 0
        eip := m.eip+BitVec.ofNat 32 length } := by
  rw [Machine.after, Machine.execute, Machine.fill]
  simp only [hdirection, Bool.false_eq_true, if_false]
  rw [store_replicate _ _ _ h]

/-- A listing is executed one instruction after the other. -/
theorem run_listing {xs : Listing} (hxs : Straight xs) (hcode : HasBytes code m.eip (encoding xs)) :
    run code xs.length m = some (m.afterAll xs) := by
  induction xs generalizing m with
  | nil => rfl
  | cons x xs ih =>
    cases xs with
    | nil =>
      rw [encoding_cons, encoding_nil, List.append_nil] at hcode
      rw [List.length_singleton, run, step_of_encodes hxs hcode, Option.bind_some, run]
      rfl
    | cons y xs =>
      obtain ⟨⟨henc,hseq⟩,hxs⟩ := hxs
      obtain ⟨hcx,hcxs⟩ := hasBytes_append.mp hcode
      have heip : (m.after x.2 x.1.length).eip = m.eip+BitVec.ofNat 32 x.1.length := after_eip hseq _
      have hrun := ih hxs (m := m.after x.2 x.1.length) (by rwa [heip])
      rw [List.length_cons, run, step_of_encodes henc hcx, Option.bind_some, hrun]
      rfl

/-- The execution comes from the one machine to the other. -/
def Reaches (code : Memory) (m m' : Machine) : Prop := ∃ n, run code n m = some m'

theorem Reaches.trans {m'' : Machine} (h : Reaches code m m') (h' : Reaches code m' m'') :
    Reaches code m m'' := by
  obtain ⟨n,hn⟩ := h
  obtain ⟨k,hk⟩ := h'
  exact ⟨n+k,(run_add hn).trans hk⟩

theorem reaches_of_step (h : step code m = some m') : Reaches code m m' :=
  ⟨1,by rw [run, h, Option.bind_some, run]⟩

theorem reaches_listing {xs : Listing} {x : Address} (hxs : Straight xs)
    (hcode : HasBytes code x (encoding xs)) (heip : m.eip = x) (h : m.afterAll xs = m') :
    Reaches code m m' :=
  ⟨xs.length,h ▸ run_listing hxs (heip ▸ hcode)⟩

/-! Indirect calls and jumps by way of a word at a fixed address, as imported functions are
reached. -/

theorem encodes_callByWord (slot : BitVec 32) :
    Encodes ([0xff,0x15]++write 4 slot) (.callTo (.mem { displacement := dword slot })) :=
  ⟨by simp,fun _ => rfl⟩

theorem encodes_jumpByWord (slot : BitVec 32) :
    Encodes ([0xff,0x25]++write 4 slot) (.jmpTo (.mem { displacement := dword slot })) :=
  ⟨by simp,fun _ => rfl⟩

theorem reaches_callByWord {slot : BitVec 32} (hcode : HasBytes code m.eip ([0xff,0x15]++write 4 slot)) :
    Reaches code m { m with
      regs := { m.regs with esp := m.regs.esp-4 }
      flags := blend m.flags resumeFlag 0
      eip := word m.mem slot
      mem := setWord m.mem (m.regs.esp-4) (m.eip+6) } := by
  refine reaches_of_step ((step_of_encodes (encodes_callByWord slot) hcode).trans ?_)
  simp

theorem reaches_jumpByWord {slot : BitVec 32} (hcode : HasBytes code m.eip ([0xff,0x25]++write 4 slot)) :
    Reaches code m { m with flags := blend m.flags resumeFlag 0, eip := word m.mem slot } := by
  refine reaches_of_step ((step_of_encodes (encodes_jumpByWord slot) hcode).trans ?_)
  simp

end Ia32
