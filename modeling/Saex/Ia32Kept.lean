import Saex.Ia32Flags
import Saex.Ia32Listing

/-! What no execution changes: the base of FS and the flags that are neither arithmetic nor the
resume flag. Where nothing else is asked of the flags, an execution is described up to them. -/
namespace Ia32
open LittleEndian WrappedMemory

variable {code : Memory} {m m' m'' : Machine}

/-- The flags that no instruction sets. -/
def otherFlags : BitVec 32 := 0xfffef72a

theorem blend_otherFlags {f mask v : BitVec 32} (h : mask &&& otherFlags = 0) :
    blend f mask v &&& otherFlags = f &&& otherFlags := blend_and_of_disjoint h

theorem assign_kept (w : Width) (o : Operand) (v : BitVec 32) :
    (m.assign w o v).flags = m.flags ∧ (m.assign w o v).fs = m.fs := by
  cases o <;> cases w <;> exact ⟨rfl,rfl⟩

theorem execute_kept (i : Instruction) :
    (m.execute i).flags &&& otherFlags = m.flags &&& otherFlags ∧ (m.execute i).fs = m.fs := by
  cases i with
  | mov target source w =>
    obtain ⟨hflags,hfs⟩ := @assign_kept m w target (m.operand w source)
    exact ⟨congrArg (· &&& otherFlags) hflags,hfs⟩
  | alu op target source =>
    obtain ⟨_,hfs⟩ := @assign_kept m .dword target 0
    have hassign (v : BitVec 32) := @assign_kept m .dword target v
    cases op with
    | add => exact ⟨blend_otherFlags (by decide),(hassign _).2⟩
    | sub => exact ⟨blend_otherFlags (by decide),(hassign _).2⟩
    | cmp => exact ⟨blend_otherFlags (by decide),rfl⟩
    | or => exact ⟨(blend_otherFlags (by decide)).trans (congrArg (· &&& otherFlags) (hassign _).1),(hassign _).2⟩
    | and => exact ⟨(blend_otherFlags (by decide)).trans (congrArg (· &&& otherFlags) (hassign _).1),(hassign _).2⟩
    | xor => exact ⟨(blend_otherFlags (by decide)).trans (congrArg (· &&& otherFlags) (hassign _).1),(hassign _).2⟩
  | test left right w => exact ⟨blend_otherFlags (by decide),rfl⟩
  | inc r => exact ⟨blend_otherFlags (by decide),rfl⟩
  | dec r => exact ⟨blend_otherFlags (by decide),rfl⟩
  | shl r count =>
    simp only [Machine.execute, Machine.shl]
    split
    · exact ⟨rfl,rfl⟩
    · exact ⟨blend_otherFlags (by decide),rfl⟩
  | _ => exact ⟨rfl,rfl⟩

theorem after_kept (i : Instruction) (length : ℕ) :
    (m.after i length).flags &&& otherFlags = m.flags &&& otherFlags ∧ (m.after i length).fs = m.fs := by
  obtain ⟨hflags,hfs⟩ := @execute_kept { m with eip := m.eip+BitVec.ofNat 32 length } i
  exact ⟨(blend_otherFlags (by decide)).trans hflags,hfs⟩

theorem run_kept {n : ℕ} (h : run code n m = some m') :
    m'.flags &&& otherFlags = m.flags &&& otherFlags ∧ m'.fs = m.fs := by
  induction n generalizing m with
  | zero =>
    cases h
    exact ⟨rfl,rfl⟩
  | succ n ih =>
    rw [run, Option.bind_eq_some_iff] at h
    obtain ⟨next,hstep,hrun⟩ := h
    rw [step, Option.map_eq_some_iff] at hstep
    obtain ⟨⟨i,length⟩,_,hnext⟩ := hstep
    subst hnext
    obtain ⟨hflags,hfs⟩ := @after_kept m i length
    exact ⟨(ih hrun).1.trans hflags,(ih hrun).2.trans hfs⟩

theorem Reaches.kept (h : Reaches code m m') :
    m'.flags &&& otherFlags = m.flags &&& otherFlags ∧ m'.fs = m.fs := by
  obtain ⟨n,hrun⟩ := h
  exact run_kept hrun

/-- The execution comes to the machine, but for its flags. -/
def ReachesUpToFlags (code : Memory) (m m' : Machine) : Prop :=
  ∃ flags undefined, Reaches code m { m' with flags, undefined }

theorem Reaches.upToFlags (h : Reaches code m m') : ReachesUpToFlags code m m' := ⟨m'.flags,m'.undefined,h⟩

theorem reachesUpToFlags_listing {xs : Listing} {x : Address} (hxs : Straight xs)
    (hcode : HasBytes code x (encoding xs)) (heip : m.eip = x)
    (h : { m.afterAll xs with flags := m'.flags, undefined := m'.undefined } = m') :
    ReachesUpToFlags code m m' := by
  have hrun := reaches_listing hxs hcode heip rfl
  refine ⟨(m.afterAll xs).flags,(m.afterAll xs).undefined,?_⟩
  rwa [← h]

/-- What follows must not depend on the flags. -/
theorem ReachesUpToFlags.trans (h : ReachesUpToFlags code m m')
    (h' : ∀ flags undefined, ReachesUpToFlags code { m' with flags, undefined } m'') :
    ReachesUpToFlags code m m'' := by
  obtain ⟨flags,undefined,hfirst⟩ := h
  obtain ⟨flags',undefined',hsecond⟩ := h' flags undefined
  exact ⟨flags',undefined',hfirst.trans hsecond⟩

end Ia32
