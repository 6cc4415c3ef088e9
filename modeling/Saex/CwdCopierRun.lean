import Saex.CwdCopier
import Saex.DirectoryBuffer

/-! The copier in its place: between the checkpoint that stops at its entry and the one that stops
behind its return. -/
namespace Saex
open LittleEndian WrappedMemory Ia32

variable {s : CwdReturnSpec} {o : CwdCopySpec} {q : CwdQuerySpec} {l : CwdLockSpec} {c : CwdCopyCode}
  {code : Memory} {m a b : Machine} {destination : BitVec 32} {expected : List UInt8}

/-- The destination with four guard bytes on each side, as the loader reads them. -/
def destinationWindow (destination : BitVec 32) (m : Machine) : DirectoryWindow :=
  loadArray m.mem (destination-4) 136

/-- The path that the directory function has left in the helper's frame. -/
def directoryBuffer (m a : Machine) : Vector UInt8 260 := loadArray a.mem (m.regs.esp-284) 260

/-- The window is away from the stack, the destination from the cookie. -/
structure CopierRoom (q : CwdQuerySpec) (l : CwdLockSpec) (destination : BitVec 32) (m : Machine) : Prop where
  stack : Apart (m.regs.esp-304) 376 (destination-4) 136
  cookie : Apart destination 128 (q.cookie l) 4

section Call
variable (ha : CwdCopyCaller q l destination m a) (hroom : CopierRoom q l destination m)
  (hresult : cwdQueryResult a.regs.eax (directoryBuffer m a) expected = some "")

/-- The arguments of the copier are pushed below the buffer. -/
theorem load_copierEntered {d : BitVec 32} {k : ℕ} (hd : 20 ≤ d.toNat) (hk : d.toNat+k ≤ 376) :
    load (copierEntered o q l destination m a).mem (m.regs.esp-304+d) k =
      load a.mem (m.regs.esp-304+d) k := by
  refine load_setWords_of_apart fun w hw => Apart.add ?_
  simp only [List.mem_cons, List.not_mem_nil, or_false] at hw
  obtain rfl | rfl | rfl := hw
  all_goals constructor <;> bv_omega

theorem esp_copierEntered : (copierEntered o q l destination m a).regs.esp-4 = m.regs.esp-304 := by
  rw [copierEntered]
  simp only
  ring

include hroom in
theorem load_window_copierEntered : load (copierEntered o q l destination m a).mem (destination-4) 136 =
    load a.mem (destination-4) 136 := by
  refine load_setWords_of_stretch hroom.stack (by decide) fun w hw => ?_
  simp only [List.mem_cons, List.not_mem_nil, or_false] at hw
  obtain rfl | rfl | rfl := hw
  all_goals simp

include hresult in
/-- The string that the query has admitted. -/
theorem load_string_copierEntered :
    load (copierEntered o q l destination m a).mem (m.regs.esp-284) (a.regs.eax.toNat+1) = expected++[0] := by
  obtain ⟨_,hlimit,_,htake,_⟩ := of_cwdQueryResult hresult
  have hn : a.regs.eax.toNat ≤ 126 := by bv_omega
  have hsplit : (260 : ℕ) = a.regs.eax.toNat+1+(259-a.regs.eax.toNat) := by omega
  rw [directoryBuffer, toList_loadArray, hsplit, load_add, List.take_left' (length_load ..)] at htake
  rw [← htake, show m.regs.esp-284 = m.regs.esp-304+20 by ring]
  exact load_copierEntered (by decide) (by simp; omega)

include ha hresult in
/-- The copier can be given it. -/
theorem copierCall_of_query : CopierCall (m.regs.esp-284) destination a.regs.eax.toNat
    (copierEntered o q l destination m a) := by
  have hstring := @load_string_copierEntered o q l m a destination expected hresult
  obtain ⟨_,hlimit,hlength,_,hnul⟩ := of_cwdQueryResult hresult
  have hn : a.regs.eax.toNat ≤ 126 := by bv_omega
  have hbyte (i : ℕ) (hi : i ≤ a.regs.eax.toNat) :
      (copierEntered o q l destination m a).mem (m.regs.esp-284+BitVec.ofNat 32 i) =
        (expected++[0]).getD i 0 := by
    rw [← hstring, List.getD_eq_getElem _ _ (by simp; omega), getElem_load]
  refine ⟨?_,?_,?_,?_,?_,?_,?_⟩
  · rw [copierEntered, show m.regs.esp-300+4 = m.regs.esp-304+8 by ring]
    simp (disch := decide) [setWords, word_setWord_add]
  · rw [copierEntered, show m.regs.esp-300+8 = m.regs.esp-304+12 by ring]
    simp (disch := decide) [setWords, word_setWord_add]
  · intro i hi
    rw [hbyte i hi.le, List.getD_append _ _ _ _ (by omega), List.getD_eq_getElem _ _ (by omega)]
    exact fun hzero => hnul (hzero ▸ List.getElem_mem _)
  · rw [hbyte _ le_rfl, List.getD_append_right _ _ _ _ (by omega), hlength, Nat.sub_self]
    rfl
  · have hapart := ha.apart.symm.sub (x := 0) (y := 20) (Nat.succ_pos a.regs.eax.toNat)
      (Nat.succ_pos a.regs.eax.toNat) (by simp; omega) (by simp; omega)
    rwa [show destination+0 = destination by ring, show m.regs.esp-304+20 = m.regs.esp-284 by ring] at hapart
  · rw [esp_copierEntered]
    constructor <;> bv_omega
  · rw [esp_copierEntered]
    exact ha.apart.mono (by decide) (by omega)

/-! The copier is back. -/

variable (hb : StringCopied (m.regs.esp-284) destination a.regs.eax.toNat
  (copierEntered o q l destination m a) b)
include ha hb

/-- The stack and whatever else is apart from the destination. -/
theorem load_of_copier {y : Address} {j : ℕ} (hkept : Apart (m.regs.esp-304) 4 y j)
    (hdestination : Apart destination 128 y j) :
    load b.mem y j = load (copierEntered o q l destination m a).mem y j := by
  have hlimit := ha.limit
  refine hb.load_of_apart ?_ (hdestination.mono ?_ le_rfl)
  · rwa [esp_copierEntered]
  · bv_omega

theorem load_stack_of_copier {d : BitVec 32} {k : ℕ} (hpos : 0 < k) (hd : 4 ≤ d.toNat)
    (hk : d.toNat+k ≤ 376) : load b.mem (m.regs.esp-304+d) k =
      load (copierEntered o q l destination m a).mem (m.regs.esp-304+d) k := by
  apply load_of_copier ha hb
  · constructor <;> bv_omega
  · exact (ha.apart.left hpos (by decide) hk).symm

include hroom in
theorem returned_of_copier :
    Returned 0 (~~~arithmeticFlags) (helperKept q l m) (copierEntered o q l destination m a) b := by
  obtain ⟨heip,hesp,hebx,hebp,hesi,hedi,hfs,hflags,_⟩ := hb.returned
  refine ⟨heip,hesp,hebx,hebp,hesi,hedi,hfs,?_,?_⟩
  · have hsplit (x : BitVec 32) : x &&& ~~~arithmeticFlags = x &&& otherFlags ||| x &&& resumeFlag := by
      rw [show ~~~arithmeticFlags = otherFlags ||| resumeFlag by decide, BitVec.and_comm, or_and,
        BitVec.and_comm, BitVec.and_comm resumeFlag]
    have hclear : (copierEntered o q l destination m a).flags &&& resumeFlag = 0 := by
      calc (copierEntered o q l destination m a).flags &&& resumeFlag
          = blend a.flags resumeFlag 0 &&& resumeFlag := blend_and_of_disjoint (by decide)
        _ = 0 := (blend_and_of_within rfl).trans rfl
    rw [hsplit, hsplit, hflags, hb.resume, hclear]
  · simp only [helperKept, List.forall_mem_cons]
    refine ⟨?_,?_,?_,by simp⟩
    · rw [show m.regs.esp-296 = m.regs.esp-304+8 by ring]
      exact load_stack_of_copier ha hb (by decide) (by decide) (by decide)
    · rw [show m.regs.esp-24 = m.regs.esp-304+280 by ring]
      exact load_stack_of_copier ha hb (by decide) (by decide) (by decide)
    · exact load_of_copier ha hb ((ha.query.globals _ (by simp)).mono (by decide) le_rfl) hroom.cookie

omit ha in
include hroom in
/-- The window has the string in it, and nothing else has changed there. -/
theorem window_of_copier (hresult : cwdQueryResult a.regs.eax (directoryBuffer m a) expected = some "") :
    destinationWindow destination b =
      copiedWindow (destinationWindow destination a) (directoryBuffer m a) a.regs.eax := by
  obtain ⟨_,hlimit,hlength,htake,_⟩ := of_cwdQueryResult hresult
  have hload := hb.load_eq (y := destination-4) (j := 136) (by
    rw [esp_copierEntered]
    exact hroom.stack.mono (by decide) le_rfl)
  rw [load_string_copierEntered hresult] at hload
  have hplace : destination = destination-4+BitVec.ofNat 32 4 := by
    rw [show BitVec.ofNat 32 4 = 4 from rfl]
    ring
  calc destinationWindow destination b
      = loadArray (store (copierEntered o q l destination m a).mem destination (expected++[0]))
          (destination-4) 136 := loadArray_congr hload
    _ = splice 4 (expected++[0])
          (loadArray (copierEntered o q l destination m a).mem (destination-4) 136) := by
        nth_rewrite 2 [hplace]
        apply loadArray_store (by decide)
        simp [hlength]
        bv_omega
    _ = copiedWindow (destinationWindow destination a) (directoryBuffer m a) a.regs.eax := by
        rw [copiedWindow, htake, loadArray_congr (load_window_copierEntered hroom), destinationWindow]

omit ha in
theorem source_kept_of_copier (ha : CwdCopyCaller q l destination m a) : directoryBuffer m b = directoryBuffer m a ∧
    loadArray b.mem (m.regs.esp-24) 8 = loadArray a.mem (m.regs.esp-24) 8 := by
  rw [directoryBuffer, directoryBuffer, show m.regs.esp-284 = m.regs.esp-304+20 by ring,
    show m.regs.esp-24 = m.regs.esp-304+280 by ring]
  constructor
  all_goals
    refine loadArray_congr ((load_stack_of_copier ha hb ?_ ?_ ?_).trans (load_copierEntered ?_ ?_))
    all_goals decide

end Call

/-- What the loader compares of the copy: the frame, the stack, the source with what is behind it, and
the destination. -/
structure CwdCopyPassed (q : CwdQuerySpec) (l : CwdLockSpec) (destination : BitVec 32) (m a b : Machine) :
    Prop where
  eip : b.eip = q.helper l+231
  frame : cwdCopyFrame 5 (registers m) (registers a) (registers b) (m.regs.esp-284) destination a.regs.eax
  stack : cwdQueryStack 7 (queryWindow m.regs.esp m) (queryWindow m.regs.esp b) destination l.helperReturn
  source : directoryBuffer m b = directoryBuffer m a
  guard : loadArray b.mem (m.regs.esp-24) 8 = loadArray a.mem (m.regs.esp-24) 8
  buffer : cwdCopyBuffer (destinationWindow destination a) (destinationWindow destination b)
    (directoryBuffer m a) a.regs.eax true = some true

theorem reaches_copierEntered_of_call (hcopy : CwdCopyLoaded o q l c code)
    (ha : CwdCopyCaller q l destination m a) : Reaches code a (copierEntered o q l destination m a) := by
  apply (reaches_lengthTested hcopy ha).trans
  apply (reaches_limitCompared hcopy ha).trans
  apply (reaches_destinationTested hcopy ha).trans
  apply (reaches_destinationPresent hcopy ha).trans
  apply (reaches_capacityCompared hcopy ha).trans
  apply (reaches_capacityEnough hcopy ha).trans
  exact (reaches_copyPushed hcopy ha).trans (reaches_copierEntered hcopy)

theorem reaches_helperReturned_of_copier {r : CwdReturnCode} (hreturn : CwdReturnLoaded s o q l r code)
    (hb : CwdReturnCaller q l destination m b) : Reaches code b (helperReturned s q l m b) := by
  apply (reaches_cleaned hreturn hb).trans
  apply (reaches_cookieDecoded hreturn hb).trans
  apply (reaches_checkerEntered hreturn).trans
  apply (reaches_cookieMatched hreturn hb).trans
  apply (reaches_cookiePassed hreturn).trans
  exact (reaches_checkerReturned hreturn).trans (reaches_helperReturned hreturn hb)

theorem cwdCopyPassed_of_copier (ha : CwdCopyCaller q l destination m a)
    (hroom : CopierRoom q l destination m)
    (hresult : cwdQueryResult a.regs.eax (directoryBuffer m a) expected = some "")
    (hb : StringCopied (m.regs.esp-284) destination a.regs.eax.toNat (copierEntered o q l destination m a) b) :
    CwdCopyPassed q l destination m a b := by
  have hreturned := returned_of_copier ha hroom hb
  obtain ⟨hthree,hlimit,hlength,htake,hnul⟩ := of_cwdQueryResult hresult
  have hn : a.regs.eax.toNat < 260 := by bv_omega
  have hlast : (directoryBuffer m a).toList.getD a.regs.eax.toNat 0 = 0 := by
    have hget := congrArg (fun bs => bs.getD a.regs.eax.toNat 0) htake
    simp only [List.getD_append_right _ _ _ _ hlength.le, hlength, Nat.sub_self] at hget
    rw [List.getD_eq_getElem _ _ (by simp; omega), List.getElem_take] at hget
    rw [List.getD_eq_getElem _ _ (by simpa using hn), hget]
    rfl
  have hbefore : (directoryBuffer m a).toList.take a.regs.eax.toNat = expected := by
    have htwice := @List.take_take _ a.regs.eax.toNat (a.regs.eax.toNat+1) (directoryBuffer m a).toList
    rw [min_eq_left (Nat.le_succ _), htake, ← hlength, List.take_left' rfl] at htwice
    rw [← hlength, ← htwice]
  obtain ⟨hsource,hguard⟩ := source_kept_of_copier hb ha
  refine ⟨(place_of_copier hreturned).1,?_,?_,hsource,hguard,?_⟩
  · exact (cwdCopyFrame_returned ha hreturned _).mpr ⟨hb.eax,rfl,rfl,rfl,rfl,rfl,rfl⟩
  · exact (cwdQueryStack_returned (helperFrame_of_copier ha hreturned) _).mpr rfl
  · rw [cwdCopyBuffer_eq hthree hlimit, hlast, hbefore, window_of_copier hroom hb hresult]
    simpa using hnul

/-- From the return of the directory function on nothing is left open: the helper copies the directory
that the query has admitted, passes what the loader compares of the copy, and comes back to its caller
with the directory and its NUL at the destination. -/
theorem cwd_directory_is_copied {r : CwdReturnCode} (hcopy : CwdCopyLoaded o q l c code)
    (hcopier : CopierLoaded o q l c code) (hreturn : CwdReturnLoaded s o q l r code)
    (ha : CwdCopyCaller q l destination m a) (hroom : CopierRoom q l destination m)
    (hresult : cwdQueryResult a.regs.eax (directoryBuffer m a) expected = some "") :
    ∃ m₄ b m₆, Reaches code a m₄ ∧ ByteReaches code m₄ b ∧ Reaches code b m₆ ∧
      CwdCopyPassed q l destination m a b ∧ CwdReturnDescribed s q l code destination m b ∧
      m₆.eip = l.helperReturn ∧ m₆.regs.eax = destination ∧ m₆.regs.esp = m.regs.esp-8 ∧
      m₆.regs.ebp = m.regs.ebp ∧ load m₆.mem destination (expected.length+1) = expected++[0] := by
  obtain ⟨_,hlimit,hlength,_⟩ := of_cwdQueryResult hresult
  obtain ⟨b,hreaches,hb⟩ := copier_copies_string hcopier (copierCall_of_query ha hresult) rfl
  have hreturned := returned_of_copier ha hroom hb
  obtain ⟨heip,hesp⟩ := place_of_copier hreturned
  have hback : CwdReturnCaller q l destination m b :=
    ⟨ha.query,helperFrame_of_copier ha hreturned,heip,hesp,hb.eax,source_of_copier hreturned,ha.nonzero,ha.fits⟩
  refine ⟨_,b,_,reaches_copierEntered_of_call hcopy ha,hreaches,reaches_helperReturned_of_copier hreturn hback,
    cwdCopyPassed_of_copier ha hroom hresult hb,cwdReturnDescribed hreturn hback,rfl,hb.eax,rfl,rfl,?_⟩
  have hfits : expected.length+1 ≤ 128 := by
    rw [hlength]
    bv_omega
  have hchecker : Apart (m.regs.esp-288) 4 destination (expected.length+1) := by
    rw [show m.regs.esp-288 = m.regs.esp-304+16 by ring]
    exact (ha.apart.mono le_rfl hfits).left (by decide) (Nat.succ_pos _) (by decide)
  have hkept : Apart (m.regs.esp-304) 4 destination (expected.length+1) := ha.apart.mono (by decide) hfits
  calc load (helperReturned s q l m b).mem destination (expected.length+1)
      = load b.mem destination (expected.length+1) := load_setWord_of_apart hchecker
    _ = load (store (copierEntered o q l destination m a).mem destination (expected++[0])) destination
          (expected++[0]).length := by
        rw [hb.load_eq (by rwa [esp_copierEntered]), load_string_copierEntered hresult, List.length_append]
        rfl
    _ = expected++[0] := load_store_self (by simp; omega)

/-! The reviewed image with the directory `C:\` in the helper's frame. -/

def reviewedDirectoryMemory : Memory :=
  stores (fun _ => 0) (reviewedCwdDirectorySections++reviewedCopierSections)

theorem directoryLoaded_reviewed : CwdCopyLoaded reviewedCwdCopySpec reviewedCwdQuerySpec reviewedCwdLockSpec
    reviewedCwdCopyCode reviewedDirectoryMemory ∧
    CopierLoaded reviewedCwdCopySpec reviewedCwdQuerySpec reviewedCwdLockSpec reviewedCwdCopyCode
      reviewedDirectoryMemory ∧
    CwdReturnLoaded reviewedCwdReturnSpec reviewedCwdCopySpec reviewedCwdQuerySpec reviewedCwdLockSpec
      reviewedCwdReturnCode reviewedDirectoryMemory := by
  have hsections : ∀ x ∈ reviewedCwdDirectorySections++reviewedCopierSections,
      HasBytes reviewedDirectoryMemory x.1 x.2 := hasBytes_stores (by decide +kernel) (by decide +kernel)
  simp only [reviewedCwdDirectorySections, reviewedCopierSections, List.cons_append, List.nil_append,
    List.forall_mem_cons] at hsections
  obtain ⟨_,_,_,hchecks,hcapacity,hcall,hcleanup,hepilogue,hchecker,hentry,hbody,_⟩ := hsections
  exact ⟨⟨cwdQueryLoaded_reviewed.2.1.emits,hchecks,hcapacity,hcall⟩,
    ⟨copierLoaded_reviewed.emits,hentry,hbody⟩,
    ⟨cwdQueryLoaded_reviewed.2.2.emits,hcleanup,hepilogue,hchecker⟩⟩

/-- The directory function is back. -/
def reviewedQueried : Machine :=
  let m := queryEntered reviewedCwdQuerySpec reviewedCwdLockSpec 0xb71ae0 reviewedCwdDirectoryThread
  { m with
    regs := { m.regs with eax := 3, esp := 0x19fdac }
    eip := 0x836e30
    mem := store m.mem 0x19fdb0 [0x43,0x3a,0x5c,0] }

theorem cwdCopyCaller_reviewed : CwdCopyCaller reviewedCwdQuerySpec reviewedCwdLockSpec 0xb71ae0
    reviewedCwdDirectoryThread reviewedQueried := by
  have hreturned : Returned 8 (~~~arithmeticFlags) (helperKept reviewedCwdQuerySpec reviewedCwdLockSpec
      reviewedCwdDirectoryThread) (queryEntered reviewedCwdQuerySpec reviewedCwdLockSpec 0xb71ae0
        reviewedCwdDirectoryThread) reviewedQueried := by
    constructor
    case memory =>
      simp only [helperKept, List.forall_mem_cons, List.not_mem_nil, false_imp_iff, implies_true, and_true]
      refine ⟨?_,?_,?_⟩
      all_goals exact load_store_of_apart (by decide)
    all_goals decide
  refine ⟨cwdQueryCaller_reviewed,helperFrame_of_query cwdQueryCaller_reviewed hreturned,?_,?_,?_,?_,?_,?_,?_⟩
  all_goals decide

theorem cwd_reviewed_directory_is_copied : ∃ m₄ b m₆,
    Reaches reviewedDirectoryMemory reviewedQueried m₄ ∧ ByteReaches reviewedDirectoryMemory m₄ b ∧
      Reaches reviewedDirectoryMemory b m₆ ∧
      CwdCopyPassed reviewedCwdQuerySpec reviewedCwdLockSpec 0xb71ae0 reviewedCwdDirectoryThread
        reviewedQueried b ∧
      CwdReturnDescribed reviewedCwdReturnSpec reviewedCwdQuerySpec reviewedCwdLockSpec
        reviewedDirectoryMemory 0xb71ae0 reviewedCwdDirectoryThread b ∧
      m₆.eip = reviewedCwdLockSpec.helperReturn ∧ m₆.regs.eax = 0xb71ae0 ∧ m₆.regs.esp = 0x19fec4 ∧
      m₆.regs.ebp = 0x19fef8 ∧ load m₆.mem 0xb71ae0 4 = [0x43,0x3a,0x5c,0] :=
  cwd_directory_is_copied directoryLoaded_reviewed.1 directoryLoaded_reviewed.2.1
    directoryLoaded_reviewed.2.2 cwdCopyCaller_reviewed ⟨by decide,by decide⟩
    (by decide +kernel : cwdQueryResult reviewedQueried.regs.eax
      (directoryBuffer reviewedCwdDirectoryThread reviewedQueried) [0x43,0x3a,0x5c] = some "")

end Saex
