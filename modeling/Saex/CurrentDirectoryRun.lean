import Saex.CwdCopierRun
import Saex.FileManagerReadyRun

/-! The file manager from its CALL for the current directory to its end, through all the checkpoints
on the way: what each of them leaves is what the next one starts from. Three functions of the system
are called between; of them only what they return and what they keep is known. -/
namespace Saex
open LittleEndian WrappedMemory Ia32 FileManagerReadySpec

/-- The specs of the checkpoints. -/
structure DirectorySpecs where
  entry : FileManagerEntrySpec
  seh : CwdSehSpec
  lock : CwdLockSpec
  acquire : CwdAcquireSpec
  query : CwdQuerySpec
  copy : CwdCopySpec
  ret : CwdReturnSpec
  ready : FileManagerReadySpec

/-- The code in memory. -/
structure DirectoryLoaded (d : DirectorySpecs) (code : Memory) : Prop where
  validSeh : validCwdSehSpec d.seh d.entry
  validLock : validCwdLockSpec d.lock d.seh
  seh : ∃ c, CwdSehLoaded d.seh c code
  lock : ∃ lock acquire, CwdLockLoaded d.lock d.seh d.acquire lock acquire code
  query : ∃ c, CwdQueryLoaded d.query d.lock c code
  copy : ∃ c, CwdCopyLoaded d.copy d.query d.lock c code ∧ CopierLoaded d.copy d.query d.lock c code
  ret : ∃ c, CwdReturnLoaded d.ret d.copy d.query d.lock c code
  ready : ∃ c body, FileManagerReadyLoaded d.ready d.ret d.lock d.seh d.entry c body code

namespace DirectorySpecs
variable (d : DirectorySpecs)

def base : Address := d.lock.selector.imageBase
def size : ℕ := d.lock.selector.imageSize.toNat

/-- The words and the bytes in the image that are read on the way. -/
def globals : List (Address × ℕ) :=
  [(d.lock.slotAddress,4),(d.acquire.iatAddress d.lock,4),(d.query.cookie d.lock,4),
    (d.query.iat d.lock,4),(d.ready.iat d.lock,4),(d.entry.suffix,2)]

/-- Those of them that are read behind the copier. -/
def lastGlobals : List (Address × ℕ) :=
  [(d.lock.slotAddress,4),(d.ready.iat d.lock,4),(d.entry.suffix,2)]

end DirectorySpecs

/-- The file manager at its CALL, with the buffer and its size on the stack. -/
structure DirectoryCaller (d : DirectorySpecs) (m : Machine) : Prop where
  caller : CwdSehCaller d.seh m
  buffer : word m.mem m.regs.esp = d.entry.buffer
  capacity : word m.mem (m.regs.esp+4) = 128
  managerEdi : word m.mem (m.regs.esp+8) = 24
  managerReturn : word m.mem (m.regs.esp+12) = d.entry.manager.returnAddress
  /-- There is a lock. -/
  slot : word m.mem d.lock.slotAddress ≠ 0
  suffix : load m.mem d.entry.suffix 2 = [0x5c,0]
  /-- The thread's stack has room, and it is neither in the image nor in the block of the thread. -/
  room : ((tibWords m).get 2).toNat+356 ≤ m.regs.esp.toNat
  image : Apart (m.regs.esp-356) 376 d.base d.size
  block : Apart (m.regs.esp-356) 376 m.fs 28
  process : Apart m.fs 28 d.base d.size
  /-- The cookie is not in the buffer: no validation compares the two. -/
  cookie : Apart d.entry.buffer 128 (d.query.cookie d.lock) 4

variable {d : DirectorySpecs} {code : Memory} {m : Machine}

/-! Where everything is. -/

/-- All the specs are about one image. -/
theorem DirectoryLoaded.base (h : DirectoryLoaded d code) : d.entry.manager.imageBase = d.base ∧
    d.entry.manager.imageSize.toNat = d.size ∧ d.seh.prologue.imageBase = d.base ∧
    d.seh.wrapper.imageBase = d.base ∧ d.lock.selector.callRva = d.seh.prologue.callRva+7 := by
  have hseh := h.validSeh
  have hlock := h.validLock
  unfold validCwdSehSpec at hseh
  unfold validCwdLockSpec at hlock
  split at hseh
  swap
  · contradiction
  split at hlock
  swap
  · contradiction
  simp only [Bool.and_eq_true, Bool.not_eq_true', Bool.or_eq_false_iff, decide_eq_false_iff_not,
    not_not] at hseh hlock
  obtain ⟨⟨⟨⟨⟨⟨⟨⟨⟨⟨hbase,hprologue⟩,hsize⟩,_⟩,_⟩,_⟩,_⟩,_⟩,_⟩,_⟩,_⟩ := hseh
  obtain ⟨⟨⟨⟨⟨⟨⟨⟨⟨⟨_,hselector⟩,hselectorSize⟩,hcall⟩,_⟩,_⟩,_⟩,_⟩,_⟩,_⟩,_⟩ := hlock
  rw [DirectorySpecs.base, DirectorySpecs.size, hselector, hselectorSize]
  exact ⟨hbase.symm,congrArg BitVec.toNat hsize.symm,hprologue.trans hbase.symm,rfl,hcall⟩

/-! The words and bytes are in the image. -/

theorem slot_inside {s : CwdLockSpec} {c : Vector UInt8 17} (h : cwdLockCode s = some c) :
    (s.tableRva+56).toNat+4 ≤ s.selector.imageSize.toNat := by
  have hsize := FrameTargetSpec.inside (validFrameTargetSpec_of_cwdLockCode h)
  dsimp only [cwdLockCode] at h
  split at h
  · contradiction
  rename_i hguard
  simp only [Bool.or_eq_true, decide_eq_true_eq, not_or] at hguard
  bv_omega

theorem acquireIat_inside {a : CwdAcquireSpec} {s : CwdLockSpec} {c : Vector UInt8 11}
    (h : cwdAcquireCode a s = some c) : a.iatRva.toNat+4 ≤ s.selector.imageSize.toNat := by
  dsimp only [cwdAcquireCode] at h
  split at h
  · contradiction
  rename_i hguard
  simp only [Bool.or_eq_true, decide_eq_true_eq, not_or, Bool.not_eq_true', Bool.not_eq_false] at hguard
  have hsize := FrameTargetSpec.inside hguard.1.1.1.1.1
  bv_omega

theorem query_inside {q : CwdQuerySpec} {l : CwdLockSpec} {c : CwdQueryCode} (h : cwdQueryCode q l = some c) :
    q.cookieRva.toNat+4 ≤ l.selector.imageSize.toNat ∧ q.iatRva.toNat+4 ≤ l.selector.imageSize.toNat := by
  dsimp only [cwdQueryCode] at h
  split at h
  · contradiction
  rename_i hguard
  simp only [Bool.or_eq_true, decide_eq_true_eq, not_or, Bool.not_eq_true', Bool.not_eq_false] at hguard
  obtain ⟨⟨⟨⟨⟨⟨⟨⟨⟨⟨hvalid,_⟩,_⟩,_⟩,_⟩,_⟩,_⟩,_⟩,_⟩,_⟩,_⟩ := hguard
  have hsize := FrameTargetSpec.inside hvalid
  constructor <;> bv_omega

theorem manager_inside {f : FileManagerEntrySpec} {body : Vector UInt8 51} (h : fileManagerBody f = some body) :
    (f.bufferRva-4).toNat+136 ≤ f.manager.imageSize.toNat ∧ f.suffixRva.toNat+2 ≤ f.manager.imageSize.toNat := by
  dsimp only [fileManagerBody] at h
  split at h
  · contradiction
  rename_i hguard
  simp only [Bool.or_eq_true, decide_eq_true_eq, not_or, Bool.not_eq_true', Bool.not_eq_false] at hguard
  obtain ⟨⟨⟨⟨⟨⟨⟨hvalid,_⟩,_⟩,_⟩,_⟩,_⟩,_⟩,_⟩ := hguard
  have hsize := FrameTargetSpec.inside hvalid
  constructor <;> bv_omega

/-- The spans that the last of the checkpoints compares with one another. -/
theorem ready_spans {s : FileManagerReadySpec} {r : CwdReturnSpec} {l : CwdLockSpec} {seh : CwdSehSpec}
    {f : FileManagerEntrySpec} {c : FileManagerReadyCode} (h : fileManagerReadyCode s r l seh f = some c) :
    validSpans l.selector.imageSize [(l.selector.callRva+23,24),(seh.cleanupRva,9),(s.unlockRva,21),
        (s.epilogueRva,17),(s.iatRva,4),(l.tableRva+52,16),(f.manager.targetRva,51),
        (f.manager.callRva,21),(f.bufferRva-4,136),(f.suffixRva,2)] := by
  dsimp only [fileManagerReadyCode] at h
  split at h
  · contradiction
  rename_i hguard
  simp only [Bool.or_eq_true, not_or, Bool.not_eq_true', Bool.not_eq_false] at hguard
  exact hguard.2

/-- Nothing that is read is in the buffer, the cookie apart. -/
theorem ready_apart {s : FileManagerReadySpec} {r : CwdReturnSpec} {l : CwdLockSpec} {seh : CwdSehSpec}
    {f : FileManagerEntrySpec} {c : FileManagerReadyCode} (h : fileManagerReadyCode s r l seh f = some c)
    (hlock : validFrameTargetSpec l.selector) (hbase : f.manager.imageBase = l.selector.imageBase) :
    Apart (s.iat l) 4 (f.buffer-4) 136 ∧ Apart l.slotAddress 4 (f.buffer-4) 136 ∧
      Apart (f.buffer-4) 136 f.suffix 2 := by
  have hsize : 4096 ≤ l.selector.imageSize := (FrameTargetSpec.inside hlock).2.1
  have hpairs := List.pairwise_iff_getElem.mp (@apart_of_validSpans l.selector.imageBase _ _
    hsize (ready_spans h) (by simp))
  have hiat := hpairs 4 8 (by simp) (by simp) (by decide)
  have hslot := hpairs 5 8 (by simp) (by simp) (by decide)
  have hsuffix := hpairs 8 9 (by simp) (by simp) (by decide)
  simp only [List.getElem_cons_succ, List.getElem_cons_zero] at hiat hslot hsuffix
  have hbuffer : l.selector.imageBase+(f.bufferRva-4) = f.buffer-4 := by
    rw [FileManagerEntrySpec.buffer, hbase]
    ring
  have hplace : l.selector.imageBase+(l.tableRva+52)+4 = l.slotAddress := by
    rw [CwdLockSpec.slotAddress]
    ring
  rw [hbuffer] at hiat hslot hsuffix
  refine ⟨hiat,?_,?_⟩
  · rw [← hplace]
    exact hslot.left (by decide) (by decide) (by decide)
  · rw [FileManagerEntrySpec.suffix, hbase]
    exact hsuffix

section Places
variable (hcode : DirectoryLoaded d code)
include hcode

theorem globals_inside : ∀ x ∈ d.globals, ∃ rva : BitVec 32, x.1 = d.base+rva ∧ rva.toNat+x.2 ≤ d.size := by
  obtain ⟨lock,acquire,hlock⟩ := hcode.lock
  obtain ⟨query,hquery⟩ := hcode.query
  obtain ⟨ready,body,hready⟩ := hcode.ready
  obtain ⟨hbase,hsize,_⟩ := hcode.base
  obtain ⟨hcookie,hiat⟩ := query_inside hquery.emits
  have hvalid := validFrameTargetSpec_of_cwdLockCode hlock.emitsLock
  have hspans := List.all_eq_true.mp (Bool.and_eq_true_iff.mp (ready_spans hready.emits)).1
    (d.ready.iatRva,4) (by simp)
  have hleast := (FrameTargetSpec.inside hvalid).2.1
  simp only [Bool.not_eq_true', Bool.or_eq_false_iff, decide_eq_false_iff_not] at hspans
  simp only [DirectorySpecs.globals, List.forall_mem_cons]
  refine ⟨⟨d.lock.tableRva+56,?_,slot_inside hlock.emitsLock⟩,⟨d.acquire.iatRva,rfl,acquireIat_inside hlock.emitsAcquire⟩,
    ⟨d.query.cookieRva,rfl,hcookie⟩,⟨d.query.iatRva,rfl,hiat⟩,⟨d.ready.iatRva,rfl,?_⟩,
    ⟨d.entry.suffixRva,?_,?_⟩,by simp⟩
  · rw [CwdLockSpec.slotAddress, DirectorySpecs.base]
    ring
  · rw [DirectorySpecs.size]
    bv_omega
  · rw [FileManagerEntrySpec.suffix, hbase]
  · rw [← hsize]
    exact (manager_inside hready.manager).2

variable (hm : DirectoryCaller d m)
include hm

omit hcode in
theorem image_apart {rva : BitVec 32} {k : ℕ} (hk : 0 < k) (hin : rva.toNat+k ≤ d.size) :
    Apart (m.regs.esp-356) 376 (d.base+rva) k ∧ Apart m.fs 28 (d.base+rva) k := by
  have hstack := hm.image.sub (x := 0) (by decide : 0 < 376) hk (by decide) hin
  have hblock := hm.process.sub (x := 0) (by decide : 0 < 28) hk (by decide) hin
  rw [show m.regs.esp-356+0 = m.regs.esp-356 by ring] at hstack
  rw [show m.fs+0 = m.fs by ring] at hblock
  exact ⟨hstack,hblock⟩

omit hcode hm in
theorem globals_pos {x : Address × ℕ} (hx : x ∈ d.globals) : 0 < x.2 := by
  simp only [DirectorySpecs.globals, List.mem_cons, List.not_mem_nil, or_false] at hx
  obtain rfl | rfl | rfl | rfl | rfl | rfl := hx
  all_goals simp

theorem globals_apart {x : Address × ℕ} (hx : x ∈ d.globals) :
    Apart (m.regs.esp-356) 376 x.1 x.2 ∧ Apart m.fs 28 x.1 x.2 := by
  obtain ⟨rva,hplace,hin⟩ := globals_inside hcode x hx
  rw [hplace]
  exact image_apart hm (globals_pos hx) hin

theorem buffer_apart :
    Apart (m.regs.esp-356) 376 (d.entry.buffer-4) 136 ∧ Apart m.fs 28 (d.entry.buffer-4) 136 := by
  obtain ⟨ready,body,hready⟩ := hcode.ready
  obtain ⟨hbase,hsize,_⟩ := hcode.base
  have hplace : d.entry.buffer-4 = d.base+(d.entry.bufferRva-4) := by
    rw [FileManagerEntrySpec.buffer, hbase]
    ring
  rw [hplace]
  exact image_apart hm (by decide) (hsize ▸ (manager_inside hready.manager).1)

end Places

/-! What lies between two checkpoints. -/

/-- The segment and these places are as they were. -/
structure PlacesKept (places : List (Address × ℕ)) (before after : Machine) : Prop where
  fs : after.fs = before.fs
  memory : ∀ x ∈ places, load after.mem x.1 x.2 = load before.mem x.1 x.2

theorem PlacesKept.trans {places : List (Address × ℕ)} {a b c : Machine} (h : PlacesKept places a b)
    (h' : PlacesKept places b c) : PlacesKept places a c :=
  ⟨h'.fs.trans h.fs,fun x hx => (h'.memory x hx).trans (h.memory x hx)⟩

theorem PlacesKept.mono {places fewer : List (Address × ℕ)} {a b : Machine} (h : PlacesKept places a b)
    (hfewer : fewer ⊆ places) : PlacesKept fewer a b := ⟨h.fs,fun x hx => h.memory x (hfewer hx)⟩

theorem PlacesKept.word {places : List (Address × ℕ)} {a b : Machine} (h : PlacesKept places a b)
    {x : Address} (hx : (x,4) ∈ places) : word b.mem x = word a.mem x := by
  rw [WrappedMemory.word, WrappedMemory.word, h.memory _ hx]

theorem placesKept_of_returned {arguments kept : BitVec 32} {places memory : List (Address × ℕ)} {a b : Machine}
    (h : Returned arguments kept memory a b) (hplaces : places ⊆ memory) : PlacesKept places a b :=
  ⟨h.fs,fun x hx => h.memory x (hplaces hx)⟩

/-! Behind the prologue of the wrapper. -/

theorem load_prologueReturned {s : CwdSehSpec} {a : Address} {k : ℕ} (hk : 0 < k)
    (hstack : Apart (m.regs.esp-60) 80 a k) (hblock : Apart m.fs 4 a k) :
    load (prologueReturned s m).mem a k = load m.mem a k := by
  calc load (prologueReturned s m).mem a k
      = load (setWords (prologueEntered s m).mem (m.regs.esp-60) _) a k := load_setWord_of_apart hblock
    _ = load (prologueEntered s m).mem a k := load_setWords_of_stretch hstack hk (by simp)
    _ = load m.mem a k := load_setWords_of_stretch hstack hk (by simp)

section Prologue
variable (hcode : DirectoryLoaded d code) (hm : DirectoryCaller d m)
include hcode hm

/-- The block and the stack that the prologue leaves are those that its checkpoint expects. -/
theorem prologueReturned_memory :
    tibWords (prologueReturned d.seh m) = cwdSehTib 3 (registers m) (tibWords m) ∧
      stackWindow m.regs.esp (prologueReturned d.seh m) =
        cwdSehStack d.seh 3 (registers m) (tibWords m) (stackWindow m.regs.esp m) := by
  obtain ⟨c,hseh⟩ := hcode.seh
  obtain ⟨hvalid,_⟩ := validFrameTargetSpec_of_cwdSehCode hseh.emitted
  have hmemory := ((describes_prologueReturned hm.caller hvalid hcode.validSeh).memory _ _).mpr ⟨rfl,rfl⟩
  rw [cwdSehMemory] at hmemory
  split at hmemory
  · contradiction
  · simp only [Bool.and_eq_true, decide_eq_true_eq] at hmemory
    exact ⟨hmemory.1.symm,hmemory.2.symm⟩

omit hcode in
/-- Where the stack is. -/
theorem stack_bounds : 65892 ≤ m.regs.esp ∧ m.regs.esp ≤ 0xffffffff-20 ∧ m.regs.esp.toNat%4 = 0 ∧
    (tibWords m).get 2 ≤ m.regs.esp-356 ∧ (tibWords m).get 1 ≥ m.regs.esp+20 ∧
    (tibWords m).get 2 ≥ 65536 ∧ (tibWords m).get 6 ≥ 65536 ∧ (tibWords m).get 6 ≤ 0xffffffff-56 := by
  have horigin := hm.caller.origin
  have hroom := hm.room
  unfold validCwdSehOrigin at horigin
  split at horigin
  · contradiction
  rename_i hguard
  simp only [Bool.or_eq_true, decide_eq_true_eq, not_or, not_not] at hguard
  obtain ⟨⟨⟨⟨⟨⟨⟨⟨_,hhigh⟩,haligned⟩,hlimit⟩,_⟩,_⟩,htop⟩,hlow⟩,hend⟩ := hguard
  change ((tibWords m).get 2).toNat+356 ≤ _ at hroom
  change ¬(tibWords m).get 2 < 65536 at hlimit
  change ¬(registers m).esp+20 > (tibWords m).get 1 at htop
  change ¬(tibWords m).get 6 < 65536 at hlow
  change ¬(tibWords m).get 6 > 0xffffffff-56 at hend
  simp only [registers] at hhigh haligned htop
  refine ⟨?_,?_,haligned,?_,?_,?_,?_,?_⟩
  all_goals bv_omega

/-- The selector can be called. -/
theorem lockCaller_of_prologue : CwdLockCaller d.lock d.acquire (prologueReturned d.seh m) := by
  obtain ⟨hlow,hhigh,haligned,hlimit,htop,hleast,hpeb,hpebEnd⟩ := stack_bounds hm
  obtain ⟨_,_,hprologue,_,hcall⟩ := hcode.base
  have htib := (prologueReturned_memory hcode hm).1
  have hplace : (prologueReturned d.seh m).regs.esp-32 = m.regs.esp-356+276 := by
    rw [prologueReturned]
    ring
  refine ⟨?_,?_,?_,?_⟩
  · rw [prologueReturned, FrameTargetSpec.returnAddress, FrameTargetSpec.callAddress, hprologue, hcall,
      DirectorySpecs.base]
    ring
  · have htop' : (tibWords (prologueReturned d.seh m)).get 1 = (tibWords m).get 1 ∧
        (tibWords (prologueReturned d.seh m)).get 2 = (tibWords m).get 2 ∧
        (tibWords (prologueReturned d.seh m)).get 6 = (tibWords m).get 6 ∧
        (tibWords (prologueReturned d.seh m)).get 0 = m.regs.esp-24 := by
      rw [htib]
      exact ⟨rfl,rfl,rfl,rfl⟩
    obtain ⟨hone,htwo,hsix,hzero⟩ := htop'
    rw [validCwdLockOrigin, hone, htwo, hsix, hzero]
    simp only [registers, prologueReturned, hm.caller.ebx, hm.caller.esi, hm.caller.edi]
    have hclear : blend (blend m.flags resumeFlag 0) arithmeticFlags (subFlags (m.regs.esp-24) 12) &&& 0x500 = 0 :=
      ((blend_and_of_disjoint (by decide)).trans (blend_and_of_disjoint (by decide))).trans hm.caller.flags
    simp only [Bool.and_eq_true, decide_eq_true_eq, hclear]
    and_intros
    all_goals bv_omega
  · rw [hplace]
    have hslot := (globals_apart hcode hm (x := (d.lock.slotAddress,4)) (by simp [DirectorySpecs.globals])).1
    exact hslot.left (by decide) (by simp) (by decide)
  · rw [hplace]
    have hiat := (globals_apart hcode hm (x := (d.acquire.iatAddress d.lock,4))
      (by simp [DirectorySpecs.globals])).1
    exact hiat.left (by decide) (by simp) (by decide)

theorem kept_prologue : PlacesKept d.globals m (prologueReturned d.seh m) := by
  refine ⟨rfl,fun x hx => ?_⟩
  obtain ⟨hstack,hblock⟩ := globals_apart hcode hm hx
  have hpos := globals_pos hx
  have hwindow := hstack.left (x := 296) (by decide : 0 < 80) hpos (by decide)
  rw [show m.regs.esp-356+296 = m.regs.esp-60 by ring] at hwindow
  exact load_prologueReturned hpos hwindow (hblock.mono (by decide) le_rfl)

/-! The lock. -/

theorem slot_prologueReturned : word (prologueReturned d.seh m).mem d.lock.slotAddress ≠ 0 := by
  rw [(kept_prologue hcode hm).word (by simp [DirectorySpecs.globals])]
  exact hm.slot

theorem reaches_prologue : Reaches code m (prologueReturned d.seh m) := by
  obtain ⟨c,hseh⟩ := hcode.seh
  have hentered : run code 4 m = some (prologueEntered d.seh m) :=
    (run_add (k := 3) (run_call hseh hm.caller.eip)).trans (run_wrapper hcode.validSeh hseh)
  exact ⟨23,(run_add (k := 19) hentered).trans (run_prologue hseh fun _ hd => hm.caller.apart_head hd)⟩

theorem reaches_enter :
    Reaches code (prologueReturned d.seh m) (enterEntered d.acquire d.lock (prologueReturned d.seh m)) := by
  obtain ⟨lock,acquire,hlock⟩ := hcode.lock
  have hcaller := lockCaller_of_prologue hcode hm
  have hslot := slot_prologueReturned hcode hm
  apply (reaches_selectorEntered hcode.validLock hlock hcaller).trans
  apply (reaches_slotCompared hlock hcaller).trans
  apply (reaches_of_step (step_slotCompared hcode.validLock hlock)).trans
  exact (reaches_lockPushed hslot hlock hcaller).trans (reaches_enterEntered hslot hlock hcaller)

end Prologue

theorem load_enterEntered {a : CwdAcquireSpec} {s : CwdLockSpec} {y : Address} {k : ℕ} (hk : 0 < k)
    (hstack : Apart (m.regs.esp-32) 32 y k) : load (enterEntered a s m).mem y k = load m.mem y k := by
  calc load (enterEntered a s m).mem y k
      = load (lockPushed s m).mem y k := load_setWord_of_apart (hstack.left (by decide) hk (by decide))
    _ = load (slotCompared s m).mem y k := load_setWord_of_apart (hstack.left (by decide) hk (by decide))
    _ = load m.mem y k := load_setWords_of_stretch hstack hk (by simp)

/-- What EnterCriticalSection leaves alone: the stack from its argument on, and what is read later. -/
def enterKept (d : DirectorySpecs) (m : Machine) : List (Address × ℕ) := (m.regs.esp-68,88) :: d.globals

/-- The selector is back in the wrapper; `n` is the machine behind EnterCriticalSection. -/
def directoryLocked (d : DirectorySpecs) (m n : Machine) : Machine :=
  selectorReturned d.lock (prologueReturned d.seh m) n

section Lock
variable {n : Machine} (hcode : DirectoryLoaded d code) (hm : DirectoryCaller d m)
  (hn : Returned 4 (~~~arithmeticFlags) (enterKept d m)
    (enterEntered d.acquire d.lock (prologueReturned d.seh m)) n)

include hn in
/-- What the selector relies on. -/
theorem returned_to_selector : Returned 4 (~~~arithmeticFlags)
    [((enterEntered d.acquire d.lock (prologueReturned d.seh m)).regs.esp+4,20)]
    (enterEntered d.acquire d.lock (prologueReturned d.seh m)) n := by
  apply hn.mono
  intro x hx
  refine ⟨_,List.mem_cons_self,0,?_,?_⟩
  · rw [List.mem_singleton.mp hx, enterEntered, prologueReturned]
    ring
  · rw [List.mem_singleton.mp hx]
    simp

include hn in
theorem reaches_directoryLocked (hcode : DirectoryLoaded d code) : Reaches code n (directoryLocked d m n) := by
  obtain ⟨lock,acquire,hlock⟩ := hcode.lock
  exact (reaches_selectorReturned hlock (returned_to_selector hn)).2

include hn in
theorem flags_directoryLocked : (directoryLocked d m n).flags &&& otherFlags = m.flags &&& otherFlags := by
  have hreturned : n.flags &&& otherFlags =
      (enterEntered d.acquire d.lock (prologueReturned d.seh m)).flags &&& otherFlags :=
    and_eq_of_agree hn.flags (by decide)
  have hcompared : (enterEntered d.acquire d.lock (prologueReturned d.seh m)).flags &&& otherFlags =
      (prologueReturned d.seh m).flags &&& otherFlags :=
    (blend_otherFlags (by decide)).trans (blend_otherFlags (by decide))
  have hprologue : (prologueReturned d.seh m).flags &&& otherFlags = m.flags &&& otherFlags :=
    (blend_otherFlags (by decide)).trans (blend_otherFlags (by decide))
  exact (blend_otherFlags (by decide)).trans (hreturned.trans (hcompared.trans hprologue))

include hn in
/-- The stack above the words of the selector. -/
theorem load_directoryLocked : load (directoryLocked d m n).mem (m.regs.esp-48) 68 =
    load (prologueReturned d.seh m).mem (m.regs.esp-48) 68 := by
  have hkept := load_of_load (d := 20) (k := 68) (hn.memory (m.regs.esp-68,88) List.mem_cons_self) (by simp)
  rw [show m.regs.esp-68+20 = m.regs.esp-48 by ring] at hkept
  refine hkept.trans (load_enterEntered (by decide) ?_)
  rw [prologueReturned]
  constructor <;> bv_omega

include hcode hm hn

theorem kept_directoryLocked : PlacesKept d.globals m (directoryLocked d m n) := by
  have hentered : PlacesKept d.globals (prologueReturned d.seh m)
      (enterEntered d.acquire d.lock (prologueReturned d.seh m)) := by
    refine ⟨rfl,fun x hx => load_enterEntered (globals_pos hx) ?_⟩
    have hstack := (globals_apart hcode hm hx).1.left (x := 276) (by decide : 0 < 32) (globals_pos hx)
      (by decide)
    rwa [show m.regs.esp-356+276 = (prologueReturned d.seh m).regs.esp-32 by
      rw [prologueReturned]
      ring] at hstack
  have hreturned : PlacesKept d.globals n (directoryLocked d m n) := ⟨rfl,fun _ _ => rfl⟩
  exact ((kept_prologue hcode hm).trans hentered).trans
    ((placesKept_of_returned hn (List.subset_cons_self _ _)).trans hreturned)

/-- The wrapper's frame, and the stack of its callers. -/
theorem window_directoryLocked {i : ℕ} (hi : i < 20) (h3 : 3 ≤ i) :
    word (directoryLocked d m n).mem (m.regs.esp-60+BitVec.ofNat 32 (4*i)) =
      (cwdSehStack d.seh 3 (registers m) (tibWords m) (stackWindow m.regs.esp m))[i] := by
  rw [← (prologueReturned_memory hcode hm).2, stackWindow, getElem_words]
  have hplace : m.regs.esp-60+BitVec.ofNat 32 (4*i) = m.regs.esp-48+(BitVec.ofNat 32 (4*i)-12) := by ring
  rw [hplace]
  exact word_of_load (load_directoryLocked hn) (by bv_omega)

/-- The words that the file manager has pushed. -/
theorem argument_directoryLocked {i : ℕ} (hi : i < 20) (h15 : 15 ≤ i) :
    word (directoryLocked d m n).mem (m.regs.esp-60+BitVec.ofNat 32 (4*i)) =
      word m.mem (m.regs.esp-60+BitVec.ofNat 32 (4*i)) := by
  rw [window_directoryLocked hcode hm hn hi (by omega)]
  have hpushed : (cwdSehStack d.seh 3 (registers m) (tibWords m) (stackWindow m.regs.esp m))[i] =
      (stackWindow m.regs.esp m)[i] := by
    interval_cases i <;> simp [cwdSehStack]
  rw [hpushed, stackWindow, getElem_words]

theorem queryCaller_of_lock :
    CwdQueryCaller d.query d.lock d.entry.buffer (directoryLocked d m n) := by
  obtain ⟨hlow,hhigh,haligned,_⟩ := stack_bounds hm
  have hesp : (directoryLocked d m n).regs.esp = m.regs.esp-52 := by
    rw [directoryLocked, selectorReturned, prologueReturned]
    ring
  have hebp : (directoryLocked d m n).regs.ebp = m.regs.esp-8 := rfl
  refine ⟨rfl,?_,?_,hm.caller.esi,?_,?_,?_,?_,?_,?_,?_,?_,?_⟩
  · rw [hebp, hesp]
    ring
  · exact hn.ebx.trans hm.caller.ebx
  · exact hn.edi.trans hm.caller.edi
  · exact (and_eq_of_agree (flags_directoryLocked hn) (by decide)).trans hm.caller.flags
  · rw [hesp]
    bv_omega
  · rw [hesp]
    bv_omega
  · rw [hesp]
    bv_omega
  · exact (stack_of_returned (returned_to_selector hn)).2.2.2
  · have hplace : m.regs.esp-8+8 = m.regs.esp-60+BitVec.ofNat 32 (4*15) := by
      simp [BitVec.sub_eq_add_neg, BitVec.add_assoc]
    rw [hebp, hplace, argument_directoryLocked hcode hm hn (by decide) (by decide), ← hplace,
      show m.regs.esp-8+8 = m.regs.esp by ring]
    exact hm.buffer
  · have hplace : m.regs.esp-8+12 = m.regs.esp-60+BitVec.ofNat 32 (4*16) := by
      simp [BitVec.sub_eq_add_neg, BitVec.add_assoc]
    rw [hebp, hplace, argument_directoryLocked hcode hm hn (by decide) (by decide), ← hplace,
      show m.regs.esp-8+12 = m.regs.esp+4 by ring]
    exact hm.capacity
  · intro x hx
    rw [hesp, show m.regs.esp-52-304 = m.regs.esp-356 by ring]
    have hmem : (x,4) ∈ d.globals := by
      simp only [List.mem_cons, List.not_mem_nil, or_false] at hx
      obtain rfl | rfl := hx
      all_goals simp [DirectorySpecs.globals]
    exact (globals_apart hcode hm hmem).1

end Lock

/-! The query. -/

theorem load_queryEntered {q : CwdQuerySpec} {l : CwdLockSpec} {destination : BitVec 32} {y : Address} {k : ℕ}
    (hk : 0 < k) (hstack : Apart (m.regs.esp-304) 376 y k) :
    load (queryEntered q l destination m).mem y k = load m.mem y k := by
  have hwindow := hstack.left (x := 292) (by decide : 0 < 84) hk (by decide)
  rw [show m.regs.esp-304+292 = m.regs.esp-12 by ring] at hwindow
  calc load (queryEntered q l destination m).mem y k
      = load (helperMemory q l destination m) y k := load_setWords_of_stretch hstack hk (by simp)
    _ = load (calledMemory l destination m) y k := load_setWords_of_stretch hstack hk (by simp)
    _ = load (wrapperMemory destination m) y k := load_setWord_of_apart (hwindow.mono (by decide) le_rfl)
    _ = load m.mem y k := load_setWords_of_stretch hwindow hk (by simp)

/-- What the directory function leaves alone: the stack but for its frame and the helper's buffer, and
what is read later. -/
def queryKept (d : DirectorySpecs) (m : Machine) : List (Address × ℕ) :=
  (m.regs.esp-348,12) :: (m.regs.esp-76,96) :: d.globals

/-- What LeaveCriticalSection leaves alone: the stack of its callers, the buffer and the suffix. -/
def leaveKept (d : DirectorySpecs) (m : Machine) : List (Address × ℕ) :=
  [(m.regs.esp-64,80),(d.entry.buffer-4,136),(d.entry.suffix,2)]

section Query
variable {n a : Machine} (hcode : DirectoryLoaded d code) (hm : DirectoryCaller d m)
  (hn : Returned 4 (~~~arithmeticFlags) (enterKept d m)
    (enterEntered d.acquire d.lock (prologueReturned d.seh m)) n)
  (ha : Returned 8 (~~~arithmeticFlags) (queryKept d m)
    (queryEntered d.query d.lock d.entry.buffer (directoryLocked d m n)) a)
include hcode hm hn

theorem reaches_query : Reaches code (directoryLocked d m n)
    (queryEntered d.query d.lock d.entry.buffer (directoryLocked d m n)) := by
  obtain ⟨c,hquery⟩ := hcode.query
  have hcaller := queryCaller_of_lock hcode hm hn
  apply (reaches_wrapperPushed hquery hcaller).trans
  apply (reaches_helperEntered hquery).trans
  apply (reaches_driveTested hquery hcaller).trans
  apply (reaches_queryPath hquery).trans
  exact (reaches_queryPushed hquery).trans (reaches_queryEntered hquery hcaller)

omit hcode hm hn in
theorem esp_directoryLocked : (directoryLocked d m n).regs.esp = m.regs.esp-52 := by
  rw [directoryLocked, selectorReturned, prologueReturned]
  ring

include ha

omit hcode hm hn in
/-- What the helper relies on. -/
theorem returned_to_helper : Returned 8 (~~~arithmeticFlags)
    (helperKept d.query d.lock (directoryLocked d m n))
    (queryEntered d.query d.lock d.entry.buffer (directoryLocked d m n)) a := by
  apply ha.mono
  intro x hx
  refine ⟨x,?_,0,by simp,by simp⟩
  simp only [helperKept, esp_directoryLocked, List.mem_cons, List.not_mem_nil, or_false] at hx
  have hlow : m.regs.esp-52-296 = m.regs.esp-348 := by ring
  have hhigh : m.regs.esp-52-24 = m.regs.esp-76 := by ring
  rw [hlow, hhigh] at hx
  simp only [queryKept, DirectorySpecs.globals, List.mem_cons, List.not_mem_nil, or_false]
  obtain rfl | rfl | rfl := hx
  all_goals simp

theorem kept_query : PlacesKept d.globals m a := by
  have hentered : PlacesKept d.globals (directoryLocked d m n)
      (queryEntered d.query d.lock d.entry.buffer (directoryLocked d m n)) := by
    refine ⟨rfl,fun x hx => load_queryEntered (globals_pos hx) ?_⟩
    rw [esp_directoryLocked, show m.regs.esp-52-304 = m.regs.esp-356 by ring]
    exact (globals_apart hcode hm hx).1
  have hreturned : PlacesKept d.globals _ a := placesKept_of_returned ha
    fun _ hx => List.mem_cons_of_mem _ (List.mem_cons_of_mem _ hx)
  exact ((kept_directoryLocked hcode hm hn).trans hentered).trans hreturned

variable {expected : List UInt8}
  (hresult : cwdQueryResult a.regs.eax (directoryBuffer (directoryLocked d m n) a) expected = some "")

include hresult in
theorem copyCaller_of_query :
    CwdCopyCaller d.query d.lock d.entry.buffer (directoryLocked d m n) a := by
  obtain ⟨ready,body,hready⟩ := hcode.ready
  have hcaller := queryCaller_of_lock hcode hm hn
  have hreturned := returned_to_helper ha
  obtain ⟨heip,hesp⟩ := place_of_query hreturned
  obtain ⟨hthree,hlimit,_⟩ := of_cwdQueryResult hresult
  obtain ⟨hzero,hfits⟩ := buffer_bounds hready.manager
  refine ⟨hcaller,helperFrame_of_query hcaller hreturned,heip,hesp,hthree,hlimit,hzero,hfits,?_⟩
  have happart := (buffer_apart hcode hm).1.sub (x := 0) (y := 4) (by decide : 0 < 376)
    (by decide : 0 < 128) (by decide) (by decide)
  rwa [show m.regs.esp-356+0 = (directoryLocked d m n).regs.esp-304 by
      rw [esp_directoryLocked]
      ring,
    show d.entry.buffer-4+4 = d.entry.buffer by ring] at happart

omit hn ha in
theorem copierRoom : CopierRoom d.query d.lock d.entry.buffer (directoryLocked d m n) := by
  refine ⟨?_,hm.cookie⟩
  rw [esp_directoryLocked, show m.regs.esp-52-304 = m.regs.esp-356 by ring]
  exact (buffer_apart hcode hm).1

/-! The copier, and the return to the wrapper. -/

variable {b : Machine} (hb : StringCopied (m.regs.esp-336) d.entry.buffer a.regs.eax.toNat
  (copierEntered d.copy d.query d.lock d.entry.buffer (directoryLocked d m n) a) b)

omit hcode hm hn ha in
theorem source_place : (directoryLocked d m n).regs.esp-284 = m.regs.esp-336 := by
  rw [esp_directoryLocked]
  ring

include hresult hb

theorem returnCaller_of_copier :
    CwdReturnCaller d.query d.lock d.entry.buffer (directoryLocked d m n) b := by
  have hcopy := copyCaller_of_query hcode hm hn ha hresult
  rw [← source_place (n := n)] at hb
  have hreturned := returned_of_copier hcopy (copierRoom hcode hm) hb
  obtain ⟨heip,hesp⟩ := place_of_copier hreturned
  exact ⟨hcopy.query,helperFrame_of_copier hcopy hreturned,heip,hesp,hb.eax,source_of_copier hreturned,
    hcopy.nonzero,hcopy.fits⟩

theorem kept_copier : PlacesKept d.lastGlobals m (helperReturned d.ret d.query d.lock (directoryLocked d m n) b) := by
  have hcopy := copyCaller_of_query hcode hm hn ha hresult
  obtain ⟨ready,body,hready⟩ := hcode.ready
  obtain ⟨lock,acquire,hlock⟩ := hcode.lock
  obtain ⟨hiat,hslot,hsuffix⟩ := ready_apart hready.emits (validFrameTargetSpec_of_cwdLockCode hlock.emitsLock)
    hcode.base.1
  have hlast : d.lastGlobals ⊆ d.globals := by
    intro x hx
    simp only [DirectorySpecs.lastGlobals, List.mem_cons, List.not_mem_nil, or_false] at hx
    obtain rfl | rfl | rfl := hx
    all_goals simp [DirectorySpecs.globals]
  -- None of them is in the buffer.
  have hbuffer (x : Address × ℕ) (hx : x ∈ d.lastGlobals) : Apart d.entry.buffer 128 x.1 x.2 := by
    have hwindow : Apart (d.entry.buffer-4) 136 x.1 x.2 := by
      simp only [DirectorySpecs.lastGlobals, List.mem_cons, List.not_mem_nil, or_false] at hx
      obtain rfl | rfl | rfl := hx
      · exact hslot.symm
      · exact hiat.symm
      · exact hsuffix
    have hpart := hwindow.left (x := 4) (by decide : 0 < 128) (globals_pos (hlast hx)) (by decide)
    rwa [show d.entry.buffer-4+4 = d.entry.buffer by ring] at hpart
  refine ((kept_query hcode hm hn ha).mono hlast).trans ?_
  have hentered : PlacesKept d.lastGlobals a
      (copierEntered d.copy d.query d.lock d.entry.buffer (directoryLocked d m n) a) := by
    refine ⟨rfl,fun x hx => load_setWords_of_stretch (n := 376) ?_ (globals_pos (hlast hx)) (by simp)⟩
    rw [esp_directoryLocked, show m.regs.esp-52-304 = m.regs.esp-356 by ring]
    exact (globals_apart hcode hm (hlast hx)).1
  refine hentered.trans ?_
  rw [← source_place (n := n)] at hb
  refine ⟨hb.returned.fs,fun x hx => ?_⟩
  obtain ⟨hstack,_⟩ := globals_apart hcode hm (hlast hx)
  have hpushed : Apart ((directoryLocked d m n).regs.esp-288) 4 x.1 x.2 := by
    have hpart := hstack.left (x := 16) (by decide : 0 < 4) (globals_pos (hlast hx)) (by decide)
    rwa [show m.regs.esp-356+16 = (directoryLocked d m n).regs.esp-288 by
      rw [esp_directoryLocked]
      ring] at hpart
  refine (load_setWord_of_apart hpushed).trans (load_of_copier hcopy hb ?_ (hbuffer x hx))
  rw [esp_directoryLocked, show m.regs.esp-52-304 = m.regs.esp-356 by ring]
  exact hstack.mono (by decide) le_rfl

/-- The wrapper's frame is as the prologue has left it, but for the words below its arguments and the
level of its handler. -/
theorem window_helperReturned {i : ℕ} (hi : i < 20) (h3 : 3 ≤ i) (h12 : i ≠ 12) :
    (words (helperReturned d.ret d.query d.lock (directoryLocked d m n) b).mem
      (helperReturned d.ret d.query d.lock (directoryLocked d m n) b).regs.esp 20)[i] =
      (cwdSehStack d.seh 3 (registers m) (tibWords m) (stackWindow m.regs.esp m))[i] := by
  -- The return address of the checker is far below.
  have hchecker : Apart ((directoryLocked d m n).regs.esp-288) 4 (m.regs.esp-60+BitVec.ofNat 32 (4*i)) 4 := by
    rw [esp_directoryLocked]
    constructor <;> bv_omega
  have hframe := (returnCaller_of_copier hcode hm hn ha hresult hb).frame
  have hesp : (helperReturned d.ret d.query d.lock (directoryLocked d m n) b).regs.esp = m.regs.esp-60 := by
    change (directoryLocked d m n).regs.esp-8 = m.regs.esp-60
    rw [esp_directoryLocked]
    ring
  have hplace : m.regs.esp-60+BitVec.ofNat 32 (4*i) =
      (directoryLocked d m n).regs.esp-12+BitVec.ofNat 32 (4*(i+1)) := by
    rw [esp_directoryLocked, Nat.mul_add, BitVec.ofNat_add, show BitVec.ofNat 32 (4*1) = 4 from rfl]
    ring
  have hwindow := Vector.ext_iff.mp hframe.window (i+1) (by omega)
  rw [queryWindow, getElem_words, getElem_words, ← hplace] at hwindow
  rw [getElem_words, hesp, ← window_directoryLocked hcode hm hn hi h3]
  have hmem : (helperReturned d.ret d.query d.lock (directoryLocked d m n) b).mem =
      setWord b.mem ((directoryLocked d m n).regs.esp-288) (d.query.helper d.lock+75) := rfl
  rw [hmem, word_setWord_of_apart hchecker, hwindow, hplace, calledMemory, wrapperMemory]
  generalize (directoryLocked d m n).regs.esp-12 = base
  have hapart (x : BitVec 32) (hx : x ∈ [52,12,8,4]) : Apart (base+x) 4 (base+BitVec.ofNat 32 (4*(i+1))) 4 := by
    apply Apart.add
    simp only [List.mem_cons, List.not_mem_nil, or_false] at hx
    obtain rfl | rfl | rfl | rfl := hx
    all_goals constructor <;> bv_omega
  rw [word_setWord_of_apart (by constructor <;> bv_omega)]
  apply word_setWords_of_apart
  intro w hw
  apply hapart
  simp only [List.mem_cons, List.not_mem_nil, or_false] at hw
  obtain rfl | rfl | rfl | rfl := hw
  all_goals simp

/-- The directory is in the buffer. -/
theorem load_directory : load (helperReturned d.ret d.query d.lock (directoryLocked d m n) b).mem
    d.entry.buffer (expected.length+1) = expected++[0] := by
  have hcopy := copyCaller_of_query hcode hm hn ha hresult
  obtain ⟨_,hlimit,hlength,_⟩ := of_cwdQueryResult hresult
  have hfits : expected.length+1 ≤ 128 := by
    rw [hlength]
    bv_omega
  have hapart := hcopy.apart.mono le_rfl hfits
  have hchecker : Apart ((directoryLocked d m n).regs.esp-288) 4 d.entry.buffer (expected.length+1) := by
    have hpart := hapart.left (x := 16) (by decide : 0 < 4) (Nat.succ_pos _) (by decide)
    rwa [show (directoryLocked d m n).regs.esp-304+16 = (directoryLocked d m n).regs.esp-288 by ring] at hpart
  rw [← source_place (n := n)] at hb
  calc load (helperReturned d.ret d.query d.lock (directoryLocked d m n) b).mem d.entry.buffer (expected.length+1)
      = load b.mem d.entry.buffer (expected.length+1) := load_setWord_of_apart hchecker
    _ = load (store (copierEntered d.copy d.query d.lock d.entry.buffer (directoryLocked d m n) a).mem
          d.entry.buffer (expected++[0])) d.entry.buffer (expected++[0]).length := by
        rw [hb.load_eq (by rw [esp_copierEntered]; exact hapart.mono (by decide) le_rfl),
          load_string_copierEntered hresult, List.length_append]
        rfl
    _ = expected++[0] := load_store_self (by simp; omega)

/-- The wrapper has all that the last of the checkpoints starts from. -/
theorem readyCaller_of_copier : FileManagerReadyCaller d.ready d.lock d.seh d.entry (registers m) (tibWords m)
    (stackWindow m.regs.esp m) (registers (directoryLocked d m n)) { registers m with esp := m.regs.esp+16 }
    a.regs.eax (helperReturned d.ret d.query d.lock (directoryLocked d m n) b) := by
  obtain ⟨hlow,hhigh,haligned,_⟩ := stack_bounds hm
  have hstart : 65556 ≤ m.regs.esp-52 ∧ m.regs.esp-52 ≤ 0xffffffff-68 ∧ (m.regs.esp-52).toNat%4 = 0 := by
    refine ⟨?_,?_,?_⟩
    all_goals bv_omega
  have hesp := @esp_directoryLocked d m n
  rw [← hesp] at hstart
  have hplace : (helperReturned d.ret d.query d.lock (directoryLocked d m n) b).regs.esp-12 =
      m.regs.esp-356+284 := by
    change (directoryLocked d m n).regs.esp-8-12 = _
    rw [hesp]
    ring
  obtain ⟨hbuffer,hblock⟩ := buffer_apart hcode hm
  have hframe := (returnCaller_of_copier hcode hm hn ha hresult hb).frame
  have hkept := kept_copier hcode hm hn ha hresult hb
  obtain ⟨hthree,hlimit,hlength,_,hnul⟩ := of_cwdQueryResult hresult
  have hdirectory := load_directory hcode hm hn ha hresult hb
  have hflags : (helperReturned d.ret d.query d.lock (directoryLocked d m n) b).flags &&& otherFlags =
      (directoryLocked d m n).flags &&& otherFlags :=
    ((blend_otherFlags (by decide)).trans (blend_otherFlags (by decide))).trans hframe.flags
  have hbyte (i : ℕ) (hi : i ≤ a.regs.eax.toNat) :
      (helperReturned d.ret d.query d.lock (directoryLocked d m n) b).mem (d.entry.buffer+BitVec.ofNat 32 i) =
        (expected++[0]).getD i 0 := by
    rw [← hdirectory, List.getD_eq_getElem _ _ (by simp; omega), getElem_load]
  have hstack {x : Address × ℕ} (hx : x ∈ d.globals) :
      Apart ((helperReturned d.ret d.query d.lock (directoryLocked d m n) b).regs.esp-12) 92 x.1 x.2 := by
    rw [hplace]
    exact (globals_apart hcode hm hx).1.left (by decide) (globals_pos hx) (by decide)
  constructor
  case eip => rfl
  case esp => rfl
  case ebp => rfl
  case eax => exact hb.eax
  case ebx => rfl
  case esi => exact hframe.esi
  case edi => exact hframe.edi
  case clear =>
    exact (and_eq_of_agree hflags (by decide)).trans
      ((and_eq_of_agree (flags_directoryLocked hn) (by decide)).trans hm.caller.flags)
  case flags => exact xor_and_eq_zero.mpr hflags
  case low => exact hstart.1
  case high => exact hstart.2.1
  case aligned => exact hstart.2.2
  case frame =>
    change m.regs.esp-8 = (directoryLocked d m n).regs.esp+44
    rw [hesp]
    ring
  case callerEsp =>
    change m.regs.esp+16 = (directoryLocked d m n).regs.esp+68
    rw [hesp]
    ring
  case callerEbx => exact hm.caller.ebx
  case callerEsi => exact hm.caller.esi
  case callerEdi => exact hm.caller.edi
  case savedRegisters => exact ⟨rfl,rfl,rfl,rfl⟩
  case stack => exact fun i hi h3 h12 => window_helperReturned hcode hm hn ha hresult hb hi h3 h12
  case managerEdi =>
    have hword : m.regs.esp-60+BitVec.ofNat 32 (4*17) = m.regs.esp+8 := by
      simp [BitVec.sub_eq_add_neg, BitVec.add_assoc]
    rw [stackWindow, getElem_words, hword, hm.managerEdi]
    exact hm.caller.edi.symm
  case managerReturn =>
    have hword : m.regs.esp-60+BitVec.ofNat 32 (4*18) = m.regs.esp+12 := by
      simp [BitVec.sub_eq_add_neg, BitVec.add_assoc]
    rw [stackWindow, getElem_words, hword, hm.managerReturn]
  case short => exact ⟨hthree,hlimit⟩
  case path =>
    intro i hi
    rw [hbyte i hi.le, List.getD_append _ _ _ _ (by omega), List.getD_eq_getElem _ _ (by omega)]
    exact fun hzero => hnul (hzero ▸ List.getElem_mem _)
  case ends =>
    rw [hbyte _ le_rfl, List.getD_append_right _ _ _ _ (by omega), hlength, Nat.sub_self]
    rfl
  case suffix =>
    rw [hkept.memory (d.entry.suffix,2) (by simp [DirectorySpecs.lastGlobals])]
    exact hm.suffix
  case slot => exact hstack (x := (d.lock.slotAddress,4)) (by simp [DirectorySpecs.globals])
  case iat => exact hstack (x := (d.ready.iat d.lock,4)) (by simp [DirectorySpecs.globals])
  case head =>
    rw [hplace, hkept.fs]
    exact (hm.block.mono le_rfl (by decide)).left (by decide) (by decide) (by decide)
  case buffer =>
    rw [hplace]
    exact hbuffer.left (by decide) (by decide) (by decide)
  case suffixPlace => exact hstack (x := (d.entry.suffix,2)) (by simp [DirectorySpecs.globals])
  case headBuffer =>
    rw [hkept.fs]
    exact hblock.mono (by decide) le_rfl
  case headSuffix =>
    rw [hkept.fs]
    have hsuffix := (globals_apart hcode hm (x := (d.entry.suffix,2)) (by simp [DirectorySpecs.globals])).2
    exact hsuffix.mono (by decide) le_rfl

end Query

/-! The end of the wrapper and of the file manager. -/

section Ready
variable {s : FileManagerReadySpec} {r : CwdReturnSpec} {l : CwdLockSpec} {seh : CwdSehSpec}
  {f : FileManagerEntrySpec} {c : FileManagerReadyCode} {body : Vector UInt8 51} {saved h caller : DispatchRegisters}
  {tib : TibWords} {before : StackWindow} {length flags : BitVec 32} {undefined : ℕ → BitVec 32} {b : Machine}
  (hcode : FileManagerReadyLoaded s r l seh f c body code)
  (hcaller : FileManagerReadyCaller s l seh f saved tib before h caller length m)
include hcode hcaller

theorem reaches_leave : ∃ flags undefined,
    Reaches code m { leaveEntered s l seh m with flags, undefined } ∧
      flags &&& otherFlags = m.flags &&& otherFlags := by
  have hebp : m.regs.ebp = m.regs.esp+52 := by
    rw [hcaller.ebp, hcaller.frame, hcaller.esp]
    ring
  have hpush := (((reaches_cleanupEntered hcode hcaller.eip hebp).trans
    (reaches_unlockEntered hcode)).trans (reaches_unlockFramed hcode)).trans
    (reaches_objectPushed hcode hcaller.slot)
  obtain ⟨flags,undefined,hreach,hflags⟩ := @stop_of_upToFlags code m m _ hpush rfl
  obtain ⟨flags',undefined',hreach',hflags'⟩ :=
    @stop_of_upToFlags code _ m _ (reaches_leaveEntered hcode hcaller.iat flags undefined) hflags
  exact ⟨flags',undefined',hreach.trans hreach',hflags'⟩

/-- `b` is back from LeaveCriticalSection. -/
theorem manager_returns (hspec : validCwdSehSpec seh f)
    (hb : Returned 4 otherFlags (readyKept f m) { leaveEntered s l seh m with flags, undefined } b)
    (hflags : flags &&& otherFlags = m.flags &&& otherFlags) : ∃ m₉, Reaches code b m₉ ∧
      m₉.eip = f.manager.returnAddress ∧
      directoryWindow f m₉ = suffixedWindow (directoryWindow f m) length ∧
      m₉.regs.esp = caller.esp ∧ m₉.regs.ebp = caller.ebp ∧ m₉.regs.ebx = caller.ebx ∧
      m₉.regs.esi = caller.esi ∧ m₉.regs.edi = caller.edi ∧ m₉.fs = m.fs ∧
      word m₉.mem m₉.fs = tib.get 0 := by
  obtain ⟨hret,hesp,hebx,hebp,hesi,hedi,hfs,hkept,hmemory⟩ := hb
  simp only [readyKept, List.forall_mem_cons] at hmemory
  obtain ⟨hstack,hbuffer,hsuffix,_⟩ := hmemory
  have hplace : b.regs.esp = m.regs.esp-4 := by
    rw [hesp]
    change m.regs.esp-12+4+4 = m.regs.esp-4
    ring
  have hready := readyStack_of_returned hspec hcaller hstack
  rw [← hplace] at hready
  have hwindow : load b.mem (f.buffer-4) 136 = load m.mem (f.buffer-4) 136 :=
    hbuffer.trans (load_setWords_of_stretch hcaller.buffer (by decide) (by simp))
  have hload : load b.mem f.suffix 2 = [0x5c,0] :=
    (hsuffix.trans (load_setWords_of_stretch hcaller.suffixPlace (by decide) (by simp))).trans hcaller.suffix
  have heip : b.eip = s.unlock l+19 := by
    rw [hret]
    have htop := @word_setWord_self (setWords m.mem (m.regs.esp-12) [(36,m.regs.eax),(60,-1),
      (20,l.selector.callAddress+38),(16,7),(12,cleanup l seh+7),(8,m.regs.ebp),
      (4,word m.mem (lockSlot l))]) (m.regs.esp-12+0) (s.unlock l+19)
    have hzero : m.regs.esp-12 = m.regs.esp-12+0 := by ring
    exact (congrArg (word (leaveEntered s l seh m).mem) hzero).trans htop
  have hedge : b.regs.edi = caller.edi := hedi.trans (hcaller.edi.trans hcaller.callerEdi.symm)
  obtain ⟨m₄,m₅,hstop₄,hstop₅,hdone₅,hmanager⟩ := handlerRemoved hcode hcaller heip hplace hready
    (hkept.trans hflags) hfs hwindow hload ⟨hebx.trans hcaller.ebx,hesi.trans hcaller.esi,hedge⟩
  obtain ⟨m₆,hstop₆,hdone₆⟩ := managerEntered hcode hcaller hdone₅ hstop₅.2.1 hmanager
  obtain ⟨m₇,m₈,m₉,hstop₇,hstop₈,hstop₉,_,hregisters⟩ := managerReady hcode hcaller hdone₆ hstop₆.2.1
  have hfirst := (hstop₄.1.trans hstop₅.1).trans (hstop₆.1.trans hstop₇.1)
  refine ⟨m₉,hfirst.trans (hstop₈.1.trans hstop₉.1),hstop₉.2.1,?_,hregisters⟩
  have haccepted := hstop₉.2.2.buffer
  rw [fileManagerReadyBuffer_eq hcaller.short.1 hcaller.short.2] at haccepted
  simp only [Option.some.injEq, Bool.and_eq_true, decide_eq_true_eq] at haccepted
  exact haccepted.2

end Ready

theorem tibWords_head : (tibWords m).get 0 = word m.mem m.fs := by
  change (words m.mem m.fs 7)[0] = _
  rw [getElem_words, show m.fs+BitVec.ofNat 32 (4*0) = m.fs by simp]

/-- The directory with the suffix behind it. -/
theorem load_of_suffixed {f : FileManagerEntrySpec} {length : BitVec 32} {expected : List UInt8} {m₆ m₉ : Machine}
    (hwindow : directoryWindow f m₉ = suffixedWindow (directoryWindow f m₆) length)
    (hlength : expected.length = length.toNat) (hfits : expected.length ≤ 126)
    (hload : load m₆.mem f.buffer (expected.length+1) = expected++[0]) :
    load m₉.mem f.buffer (expected.length+2) = expected++[0x5c,0] := by
  have hbyte (x : Machine) (i : ℕ) (hi : i+4 < 136) :
      x.mem (f.buffer+BitVec.ofNat 32 i) = (directoryWindow f x)[i+4] := by
    rw [directoryWindow, getElem_loadArray, BitVec.ofNat_add, show BitVec.ofNat 32 4 = 4 from rfl]
    congr 1
    ring
  apply List.ext_getElem (by simp)
  intro i h1 h2
  have hi : i < expected.length+2 := by simpa using h1
  rw [getElem_load, hbyte m₉ i (by omega)]
  simp only [hwindow, suffixedWindow, getElem_splice, ← hlength]
  by_cases hlast : expected.length ≤ i
  · rw [if_pos (by omega), List.getElem_append_right hlast, Nat.add_sub_add_right,
      List.getD_eq_getElem _ _ (by simp; omega)]
  · rw [if_neg (by omega), ← hbyte m₆ i (by omega), List.getElem_append_left (by omega)]
    have hget := congrArg (fun bs => bs.getD i 0) hload
    rwa [List.getD_eq_getElem _ _ (by simp; omega), getElem_load, List.getD_append _ _ _ _ (by omega),
      List.getD_eq_getElem _ _ (by omega)] at hget

/-! The whole way. -/

/-- In a function of the system, with these arguments. -/
def Called (m : Machine) (function : Address) (arguments : List (BitVec 32)) : Prop :=
  m.eip = function ∧ (List.range arguments.length).map (fun i => word m.mem (m.regs.esp+4+BitVec.ofNat 32 (4*i))) =
    arguments

/-- The file manager is back: its caller's registers, its stack and the head of the chain of handlers are
as they were, and the directory with the suffix is in the buffer. -/
structure DirectoryStored (d : DirectorySpecs) (m m₉ : Machine) : Prop where
  eip : m₉.eip = d.entry.manager.returnAddress
  esp : m₉.regs.esp = m.regs.esp+16
  kept : m₉.regs.ebp = m.regs.ebp ∧ m₉.regs.ebx = m.regs.ebx ∧ m₉.regs.esi = m.regs.esi ∧
    m₉.regs.edi = m.regs.edi ∧ m₉.fs = m.fs
  chain : word m₉.mem m₉.fs = word m.mem m.fs
  directory : load m₉.mem d.entry.buffer (d.query.expectedDirectory.length+2) =
    d.query.expectedDirectory++[0x5c,0]

/-- Whatever the three functions answer and do, as long as they keep what functions keep: the execution
comes to each of them with the arguments that it should have, the lock that is left is the one that was
entered, and at the end the directory is stored. On the way the checkpoints say what there is. -/
def DirectoryPath (d : DirectorySpecs) (code : Memory) (m : Machine) : Prop :=
  ∃ m₁ m₂, (Executes code m m₁ ∧ CwdSehDescribes d.seh 3 m m₁ ∧ CwdLockDescribed d.lock d.acquire code m₁) ∧
    Executes code m₁ m₂ ∧
    Called m₂ (word m.mem (d.acquire.iatAddress d.lock)) [word m.mem d.lock.slotAddress] ∧
    ∀ n, Returned 4 (~~~arithmeticFlags) (enterKept d m) m₂ n →
      ∃ m₃ m₄, (Executes code n m₃ ∧ CwdQueryDescribed d.ret d.copy d.query d.lock code d.entry.buffer m₃) ∧
        Executes code m₃ m₄ ∧ Called m₄ (word m.mem (d.query.iat d.lock)) [260,m.regs.esp-336] ∧
        ∀ a, Returned 8 (~~~arithmeticFlags) (queryKept d m) m₄ a →
          cwdQueryResult a.regs.eax (loadArray a.mem (m.regs.esp-336) 260) d.query.expectedDirectory = some "" →
          ∃ b m₆ m₇, (Executes code a b ∧ CwdCopyPassed d.query d.lock d.entry.buffer m₃ a b) ∧
            (Executes code b m₆ ∧ FileManagerReadyDescribed d.ready d.lock d.entry (word m.mem m.fs)
              (registers m₃) { registers m with esp := m.regs.esp+16 } a.regs.eax code m₆) ∧
            Executes code m₆ m₇ ∧
            Called m₇ (word m.mem (d.ready.iat d.lock)) [word m.mem d.lock.slotAddress] ∧
            ∀ b', Returned 4 otherFlags (leaveKept d m) m₇ b' → ∃ m₉, Executes code b' m₉ ∧ DirectoryStored d m m₉

theorem called_enter (hcode : DirectoryLoaded d code) (hm : DirectoryCaller d m) :
    Called (enterEntered d.acquire d.lock (prologueReturned d.seh m)) (word m.mem (d.acquire.iatAddress d.lock))
      [word m.mem d.lock.slotAddress] := by
  have hkept := kept_prologue hcode hm
  have hiat := hkept.word (x := d.acquire.iatAddress d.lock) (by simp [DirectorySpecs.globals])
  have hslot := hkept.word (x := d.lock.slotAddress) (by simp [DirectorySpecs.globals])
  refine ⟨hiat,?_⟩
  -- The lock lies above the return address, as it was pushed before the CALL.
  have hargument : (enterEntered d.acquire d.lock (prologueReturned d.seh m)).regs.esp+4+BitVec.ofNat 32 (4*0) =
      (prologueReturned d.seh m).regs.esp-32+12 := by
    rw [enterEntered]
    simp [BitVec.sub_eq_add_neg, BitVec.add_assoc]
  simp only [List.length_singleton, List.range_one, List.map_cons, List.map_nil]
  rw [hargument, enterEntered, word_setWord_add (by decide), lockPushed, word_setWord_self, hslot]

section Path
variable {n a b : Machine} {expected : List UInt8} (hcode : DirectoryLoaded d code) (hm : DirectoryCaller d m)
  (hn : Returned 4 (~~~arithmeticFlags) (enterKept d m)
    (enterEntered d.acquire d.lock (prologueReturned d.seh m)) n)
include hcode hm hn

theorem called_query : Called (queryEntered d.query d.lock d.entry.buffer (directoryLocked d m n))
    (word m.mem (d.query.iat d.lock)) [260,m.regs.esp-336] := by
  refine ⟨(kept_directoryLocked hcode hm hn).word (by simp [DirectorySpecs.globals]),?_⟩
  simp only [List.length_cons, List.length_nil, Nat.reduceAdd, List.range_succ, List.range_zero, List.nil_append,
    List.cons_append, List.map_cons, List.map_nil]
  rw [queryEntered, ← source_place (n := n)]
  generalize (directoryLocked d m n).regs.esp = esp
  rw [show esp-300+4+BitVec.ofNat 32 (4*0) = esp-304+8 by simp [BitVec.sub_eq_add_neg, BitVec.add_assoc],
    show esp-300+4+BitVec.ofNat 32 (4*1) = esp-304+12 by simp [BitVec.sub_eq_add_neg, BitVec.add_assoc]]
  simp (disch := decide) [setWords, word_setWord_add]

theorem query_describes :
    CwdQueryDescribed d.ret d.copy d.query d.lock code d.entry.buffer (directoryLocked d m n) := by
  obtain ⟨query,hquery⟩ := hcode.query
  obtain ⟨copy,hcopy,_⟩ := hcode.copy
  obtain ⟨ret,hret⟩ := hcode.ret
  obtain ⟨ready,body,hready⟩ := hcode.ready
  obtain ⟨hzero,hfits⟩ := buffer_bounds hready.manager
  apply cwd_directory_describes_code hquery hcopy hret (queryCaller_of_lock hcode hm hn) hzero hfits
  have happart := (buffer_apart hcode hm).1.sub (x := 0) (y := 4) (by decide : 0 < 376)
    (by decide : 0 < 128) (by decide) (by decide)
  rwa [show m.regs.esp-356+0 = (directoryLocked d m n).regs.esp-304 by
      rw [esp_directoryLocked]
      ring,
    show d.entry.buffer-4+4 = d.entry.buffer by ring] at happart

variable (ha : Returned 8 (~~~arithmeticFlags) (queryKept d m)
    (queryEntered d.query d.lock d.entry.buffer (directoryLocked d m n)) a)
  (hresult : cwdQueryResult a.regs.eax (directoryBuffer (directoryLocked d m n) a) expected = some "")
  (hb : StringCopied (m.regs.esp-336) d.entry.buffer a.regs.eax.toNat
    (copierEntered d.copy d.query d.lock d.entry.buffer (directoryLocked d m n) a) b)
include ha hresult hb

variable {flags : BitVec 32} {undefined : ℕ → BitVec 32}

theorem called_leave : Called
    { leaveEntered d.ready d.lock d.seh (helperReturned d.ret d.query d.lock (directoryLocked d m n) b) with
      flags, undefined } (word m.mem (d.ready.iat d.lock)) [word m.mem d.lock.slotAddress] := by
  have hkept := kept_copier hcode hm hn ha hresult hb
  have hiat := hkept.word (x := d.ready.iat d.lock) (by simp [DirectorySpecs.lastGlobals])
  have hslot := hkept.word (x := d.lock.slotAddress) (by simp [DirectorySpecs.lastGlobals])
  refine ⟨hiat,?_⟩
  simp only [List.length_singleton, List.range_one, List.map_cons, List.map_nil, List.cons.injEq, and_true]
  rw [← hslot, leaveEntered]
  generalize helperReturned d.ret d.query d.lock (directoryLocked d m n) b = w
  dsimp only
  obtain ⟨base,hbase⟩ : ∃ base, w.regs.esp-12 = base+4 := ⟨w.regs.esp-16,by ring⟩
  rw [hbase]
  simp (disch := decide) [setWords, word_setWord_add, lockSlot, CwdLockSpec.slotAddress, BitVec.add_assoc]

theorem directory_stored {b' : Machine} (hlength : d.query.expectedDirectory = expected)
    (hflags : flags &&& otherFlags =
      (helperReturned d.ret d.query d.lock (directoryLocked d m n) b).flags &&& otherFlags)
    (hleft : Returned 4 otherFlags (leaveKept d m)
      { leaveEntered d.ready d.lock d.seh (helperReturned d.ret d.query d.lock (directoryLocked d m n) b) with
        flags, undefined } b') :
    ∃ m₉, Executes code b' m₉ ∧ DirectoryStored d m m₉ := by
  obtain ⟨ready,body,hready⟩ := hcode.ready
  obtain ⟨hthree,hlimit,hcount,_⟩ := of_cwdQueryResult hresult
  have hcaller := readyCaller_of_copier hcode hm hn ha hresult hb
  have hkept := kept_copier hcode hm hn ha hresult hb
  have hplace : m.regs.esp-64 =
      (helperReturned d.ret d.query d.lock (directoryLocked d m n) b).regs.esp-4 := by
    change _ = (directoryLocked d m n).regs.esp-8-4
    rw [esp_directoryLocked]
    ring
  rw [leaveKept, hplace] at hleft
  obtain ⟨m₉,hreach,heip,hwindow,hesp,hebp,hebx,hesi,hedi,hfs,hhead⟩ :=
    manager_returns hready hcaller hcode.validSeh hleft hflags
  refine ⟨m₉,hreach.executes,heip,hesp,⟨hebp,hebx,hesi,hedi,hfs.trans hkept.fs⟩,hhead.trans tibWords_head,?_⟩
  rw [hlength]
  refine load_of_suffixed hwindow hcount ?_ (load_directory hcode hm hn ha hresult hb)
  rw [hcount]
  bv_omega

end Path

theorem current_directory_is_stored (hcode : DirectoryLoaded d code) (hm : DirectoryCaller d m) :
    DirectoryPath d code m := by
  obtain ⟨seh,hseh⟩ := hcode.seh
  obtain ⟨lock,acquire,hlock⟩ := hcode.lock
  obtain ⟨copy,hcopy,hcopier⟩ := hcode.copy
  obtain ⟨ret,hret⟩ := hcode.ret
  obtain ⟨ready,body,hready⟩ := hcode.ready
  obtain ⟨hvalid,_⟩ := validFrameTargetSpec_of_cwdSehCode hseh.emitted
  have hwrapper := describes_prologueReturned hm.caller hvalid hcode.validSeh
  have hselector := cwd_lock_describes_code hcode.validLock hlock (lockCaller_of_prologue hcode hm)
  refine ⟨_,_,⟨(reaches_prologue hcode hm).executes,hwrapper,hselector⟩,(reaches_enter hcode hm).executes,
    called_enter hcode hm,fun n hn => ?_⟩
  -- The lock is entered.
  refine ⟨_,_,⟨(reaches_directoryLocked hn hcode).executes,query_describes hcode hm hn⟩,
    (reaches_query hcode hm hn).executes,called_query hcode hm hn,fun a ha hanswer => ?_⟩
  -- The directory is in the helper's frame.
  rw [← source_place (n := n)] at hanswer
  have hcall := copyCaller_of_query hcode hm hn ha hanswer
  obtain ⟨b,hcopies,hb⟩ := copier_copies_string hcopier (copierCall_of_query hcall hanswer) rfl
  have hpassed := cwdCopyPassed_of_copier hcall (copierRoom hcode hm) hanswer hb
  have harrives : Executes code a b :=
    (reaches_copierEntered_of_call hcopy hcall).executes.trans hcopies.executes
  rw [source_place] at hb
  have hback := returnCaller_of_copier hcode hm hn ha hanswer hb
  have hcaller := readyCaller_of_copier hcode hm hn ha hanswer hb
  have hdescribed := file_manager_ready_describes_code hcode.validSeh hready hcaller
  obtain ⟨flags,undefined,hleave,hflags⟩ := reaches_leave hready hcaller
  rw [tibWords_head] at hdescribed
  -- The string is in the buffer, and the lock is left again.
  exact ⟨b,_,_,⟨harrives,hpassed⟩,⟨(reaches_helperReturned_of_copier hret hback).executes,hdescribed⟩,
    hleave.executes,called_leave hcode hm hn ha hanswer hb,
    fun b' hleft => directory_stored hcode hm hn ha hanswer hb rfl hflags hleft⟩

/-! The reviewed image, and its file manager at the CALL. -/

def reviewedDirectorySpecs : DirectorySpecs where
  entry := reviewedFileManagerSpec
  seh := reviewedCwdSehSpec
  lock := reviewedCwdLockSpec
  acquire := reviewedCwdAcquireSpec
  query := reviewedCwdQuerySpec
  copy := reviewedCwdCopySpec
  ret := reviewedCwdReturnSpec
  ready := reviewedFileManagerReadySpec

/-- The functions in the order of the way through them: the file manager, the wrapper up to its end, and
what it calls. -/
def reviewedDirectoryFunctions : List (Address × List UInt8) :=
  [(0x5386f0,reviewedFileManagerBody.toList),(0x836e91,reviewedCwdSehCode.wrapper.toList),
    (0x836ea1,(reviewedCwdSehSpec.stopPrefix.toList.drop 4).take 3),
    (0x836eb6,reviewedFileManagerReadyCode.wrapper.toList),(0x836ece,reviewedFileManagerReadyCode.cleanup.toList),
    (0x8286e0,reviewedCwdSehCode.prologue.toList),(0x82871b,reviewedFileManagerReadyCode.epilogue.toList),
    (0x82adbe,(writeDword 10 0x8e31c0 cwdLockRaw).toList++reviewedCwdLockSpec.stopPrefix.toList),
    (0x82ade4,(writeDword 4 0x8580ec cwdAcquireRaw).toList),(0x82ad12,reviewedFileManagerReadyCode.unlock.toList)]++
    reviewedCwdDirectorySections++reviewedCopierSections

def reviewedDirectoryImage : Memory := stores (fun _ => 0) reviewedDirectoryFunctions

/-- At the CALL, with the buffer and its size pushed. -/
def reviewedDirectoryThread : Machine where
  regs := ⟨0,7,9,0,0x19ff00,0x19ff74,0,24⟩
  flags := 0x246
  eip := reviewedCwdSehSpec.wrapper.callAddress
  mem := store (setWords (fun _ => 0) 0 [(0x7ffde000,-1),(0x7ffde004,0x1a0000),(0x7ffde008,0x100000),
    (0x7ffde018,0x7ffde000),(0x19ff00,0xb71ae0),(0x19ff04,128),(0x19ff08,24),
    (0x19ff0c,reviewedFileManagerSpec.manager.returnAddress),(0x8e31f8,0x2a1000),(0x8580ec,0x77a4e000),
    (0x8e31bc,0xbb40e64e),(0x858244,0x76c31080),(0x8580e8,0x77a4d000)]) 0x859f7c [0x5c,0]
  fs := 0x7ffde000
  undefined := fun _ => 0

theorem directoryLoaded_reviewedImage : DirectoryLoaded reviewedDirectorySpecs reviewedDirectoryImage := by
  have hsections : ∀ x ∈ reviewedDirectoryFunctions, HasBytes reviewedDirectoryImage x.1 x.2 :=
    hasBytes_stores (by decide +kernel) (by decide +kernel)
  simp only [reviewedDirectoryFunctions, reviewedCwdDirectorySections, reviewedCopierSections, List.cons_append,
    List.nil_append, List.forall_mem_cons] at hsections
  obtain ⟨hmanager,hwrapper,_,hready,hcleanup,hprologue,hepilogue,hselector,htail,hunlock,hsections⟩ := hsections
  obtain ⟨hpushed,hhelper,hquery,hchecks,hcapacity,hcall,hcleaned,hleft,hchecker,hentry,hbody,_⟩ := hsections
  constructor
  · decide
  · decide
  · exact ⟨reviewedCwdSehCode,by decide,by decide,hwrapper,hprologue⟩
  · exact ⟨_,_,cwdLockLoaded_reviewed.emitsLock,cwdLockLoaded_reviewed.emitsAcquire,by decide,hselector,
      htail⟩
  · exact ⟨reviewedCwdQueryCode,cwdQueryLoaded_reviewed.1.emits,hpushed,hhelper,hquery⟩
  · exact ⟨reviewedCwdCopyCode,⟨copierLoaded_reviewed.emits,hchecks,hcapacity,hcall⟩,copierLoaded_reviewed.emits,
      hentry,hbody⟩
  · exact ⟨reviewedCwdReturnCode,cwdQueryLoaded_reviewed.2.2.emits,hcleaned,hleft,hchecker⟩
  · exact ⟨reviewedFileManagerReadyCode,reviewedFileManagerBody,fileManagerReadyLoaded_reviewed.emits,
      fileManagerReadyLoaded_reviewed.manager,hready,hcleanup,hunlock,hepilogue,hmanager⟩

theorem directoryCaller_reviewed : DirectoryCaller reviewedDirectorySpecs reviewedDirectoryThread where
  caller := ⟨rfl,rfl,rfl,rfl,rfl,by decide,by decide,by decide⟩
  buffer := by decide
  capacity := by decide
  managerEdi := by decide
  managerReturn := by decide
  slot := by decide
  suffix := by decide
  room := by decide
  image := by decide
  block := by decide
  process := by decide
  cookie := by decide

theorem current_reviewed_directory_is_stored :
    DirectoryPath reviewedDirectorySpecs reviewedDirectoryImage reviewedDirectoryThread ∧
    ∃ m₂ m₄ m₇ m₉, Executes reviewedDirectoryImage reviewedDirectoryThread m₂ ∧
      Executes reviewedDirectoryImage (backFrom 4 0 m₂.mem m₂) m₄ ∧
      Executes reviewedDirectoryImage (directoryAnswered [0x43,0x3a,0x5c] 0x19fdb0 m₄) m₇ ∧
      Executes reviewedDirectoryImage (backFrom 4 0 m₇.mem m₇) m₉ ∧
      DirectoryStored reviewedDirectorySpecs reviewedDirectoryThread m₉ := by
  have hpath := current_directory_is_stored directoryLoaded_reviewedImage directoryCaller_reviewed
  refine ⟨hpath,?_⟩
  obtain ⟨m₁,m₂,⟨hfirst,_⟩,hsecond,_,hentered⟩ := hpath
  obtain ⟨m₃,m₄,⟨hthird,_⟩,hfourth,_,hanswered⟩ :=
    hentered (backFrom 4 0 m₂.mem m₂) (returned_backFrom fun _ _ => rfl)
  -- The directory function writes its buffer and nothing else.
  have hapart : ∀ x ∈ queryKept reviewedDirectorySpecs reviewedDirectoryThread,
      Apart 0x19fdb0 260 x.1 x.2 := by decide
  obtain ⟨b,m₆,m₇,⟨hfifth,_⟩,⟨hsixth,_⟩,hseventh,_,hleft⟩ :=
    hanswered (directoryAnswered [0x43,0x3a,0x5c] 0x19fdb0 m₄) (returned_directoryAnswered hapart)
      (cwdQueryResult_answered (by decide) (by decide))
  obtain ⟨m₉,hninth,hstored⟩ := hleft (backFrom 4 0 m₇.mem m₇) (returned_backFrom fun _ _ => rfl)
  exact ⟨m₂,m₄,m₇,m₉,hfirst.trans hsecond,hthird.trans hfourth,(hfifth.trans hsixth).trans hseventh,hninth,
    hstored⟩

end Saex
