import Saex.ApplicationRouting
import Saex.Ia32Loads
import Mathlib.Tactic.IntervalCases

/-! The code of the handler, executed for every event there may be: it reads one byte of the one
table and one word of the other at most and goes where they say. -/
namespace Saex
open LittleEndian WrappedMemory Ia32

/-! What the bytes of `applicationRoutingCode` stand for. -/

/-- Up to the jump for events that are not in the table. -/
def eventListing (beyond : BitVec 32) : Listing :=
  [([0x8b,0x44,0x24,4],.mov (.reg .eax) (.mem { base := some .esp, displacement := 4 })),
   ([0x83,0xf8,0x26],.alu .cmp (.reg .eax) (.imm 0x26)),
   ([0x0f,0x87]++write 4 beyond,.jcc .carryOrZero false (dword beyond))]

def detourJumpListing (distance : BitVec 32) : Listing :=
  [([0x90],.nop),
   ([0x90],.nop),
   (0xe9 :: write 4 distance,.jmp (dword distance))]

def indexListing (index distance : BitVec 32) : Listing :=
  [([0x0f,0xb6,0x80]++write 4 index,.movzx .eax (.mem { base := some .eax, displacement := dword index })),
   (0xe9 :: write 4 distance,.jmp (dword distance))]

def tableListing (table : BitVec 32) : Listing :=
  [([0xff,0x24,0x85]++write 4 table,.jmpTo (.mem { index := some (.eax,2), displacement := dword table }))]

theorem straight_eventListing (beyond : BitVec 32) : Straight (eventListing beyond) := by
  iterate 2 refine straight_cons ⟨by simp,fun _ => rfl⟩ trivial ?_
  exact straight_singleton ⟨by simp,fun _ => rfl⟩

theorem straight_detourJumpListing (distance : BitVec 32) : Straight (detourJumpListing distance) := by
  iterate 2 refine straight_cons ⟨by simp,fun _ => rfl⟩ trivial ?_
  exact straight_singleton ⟨by simp,fun _ => rfl⟩

theorem straight_indexListing (index distance : BitVec 32) : Straight (indexListing index distance) := by
  refine straight_cons ⟨by simp,fun _ => rfl⟩ trivial ?_
  exact straight_singleton ⟨by simp,fun _ => rfl⟩

theorem straight_tableListing (table : BitVec 32) : Straight (tableListing table) :=
  straight_singleton ⟨by simp,fun _ => rfl⟩

variable {s : ApplicationRoutingSpec} {p : EventDispatchSpec} {c : ApplicationRoutingCode}
  {code : Memory} {m : Machine}

namespace ApplicationRoutingSpec

/-- Where the parts of the code and the tables are. -/
def entry (p : EventDispatchSpec) : Address := p.application.targetAddress
def detour (s : ApplicationRoutingSpec) (p : EventDispatchSpec) : Address :=
  p.application.imageBase+s.detourRva
def index (s : ApplicationRoutingSpec) (p : EventDispatchSpec) : Address :=
  p.application.imageBase+s.indexRva
def table (s : ApplicationRoutingSpec) (p : EventDispatchSpec) : Address :=
  p.application.imageBase+s.tableRva

end ApplicationRoutingSpec

theorem applicationRoutingCode_eq (h : applicationRoutingCode s p = some c) :
    c.entry.toList = encoding (eventListing (s.targetRvas.get 10-(p.application.targetRva+13)))++
        (encoding (detourJumpListing (s.detourRva-(p.application.targetRva+20)))++[0xff]) ∧
      c.detour.toList = encoding (indexListing (s.index p) (p.application.targetRva+20-(s.detourRva+12))) ∧
      c.indirect.toList = encoding (tableListing (s.table p)) := by
  dsimp only [applicationRoutingCode] at h
  split at h
  · contradiction
  rw [← Option.some.inj h]
  refine ⟨?_,?_,?_⟩
  · rw [toList_writeDword (by decide), toList_writeDword (by decide)]
    rfl
  · rw [toList_writeDword (by decide), toList_writeDword (by decide)]
    rfl
  · rw [toList_writeDword (by decide)]
    rfl

/-- The event that is asked for. -/
def event (m : Machine) : BitVec 32 := word m.mem (m.regs.esp+4)

/-- Behind the comparison, at the given place. -/
def eventCompared (m : Machine) (eip : Address) : Machine :=
  { m with
    regs := { m.regs with eax := event m }
    flags := blend (blend m.flags resumeFlag 0) arithmeticFlags (subFlags (event m) 0x26)
    eip }

def indexRead (s : ApplicationRoutingSpec) (p : EventDispatchSpec) (m : Machine) : Machine :=
  { eventCompared m (ApplicationRoutingSpec.entry p+20) with
    regs := { m.regs with eax := (m.mem (event m+s.index p)).toBitVec.setWidth 32 } }

/-- The code in memory. The entry and the indirect jump have one byte in common. -/
structure ApplicationRoutingLoaded (s : ApplicationRoutingSpec) (p : EventDispatchSpec)
    (c : ApplicationRoutingCode) (code : Memory) : Prop where
  emits : applicationRoutingCode s p = some c
  entry : HasBytes code (ApplicationRoutingSpec.entry p) c.entry.toList
  detour : HasBytes code (s.detour p) c.detour.toList
  indirect : HasBytes code (ApplicationRoutingSpec.entry p+20) c.indirect.toList

/-- The tables in memory. -/
structure RoutingTables (s : ApplicationRoutingSpec) (p : EventDispatchSpec)
    (c : ApplicationRoutingCode) (mem : Memory) : Prop where
  indices : HasBytes mem (s.index p) s.indices.toList
  targets : words mem (s.table p) 11 = c.targets

theorem reaches_eventCompared (hcode : ApplicationRoutingLoaded s p c code)
    (heip : m.eip = ApplicationRoutingSpec.entry p) : ReachesReading code [(m.regs.esp+4,4)] m
      (eventCompared m (if 0x26 < event m then p.application.imageBase+s.targetRvas.get 10
        else ApplicationRoutingSpec.entry p+13)) := by
  have hbytes := hcode.entry
  rw [(applicationRoutingCode_eq hcode.emits).1, hasBytes_append] at hbytes
  have hbeyond : ApplicationRoutingSpec.entry p+13+(s.targetRvas.get 10-(p.application.targetRva+13)) =
      p.application.imageBase+s.targetRvas.get 10 := by
    rw [ApplicationRoutingSpec.entry, FrameTargetSpec.targetAddress]
    ring
  refine reachesReading_listing (straight_eventListing _) hbytes.1 heip ?_ ?_
  · obtain ⟨⟨eax,ecx,edx,ebx,esp,ebp,esi,edi⟩,flags,eip,mem,fs,undefined⟩ := m
    simp only at heip
    simp (disch := decide) [eventListing, eventCompared, event, heip, holds_carryOrZero, BitVec.add_assoc,
      blend_resumeFlag] at hbeyond ⊢
    simp [hbeyond]
    congr
  · simp [eventListing]

theorem reaches_detour (hcode : ApplicationRoutingLoaded s p c code) :
    ReachesReading code [] (eventCompared m (ApplicationRoutingSpec.entry p+13))
      (eventCompared m (s.detour p)) := by
  have hbytes := hcode.entry
  rw [(applicationRoutingCode_eq hcode.emits).1, hasBytes_append, hasBytes_append] at hbytes
  have hdetour : ApplicationRoutingSpec.entry p+20+(s.detourRva-(p.application.targetRva+20)) = s.detour p := by
    rw [ApplicationRoutingSpec.entry, FrameTargetSpec.targetAddress, ApplicationRoutingSpec.detour]
    ring
  refine reachesReading_listing (straight_detourJumpListing _) hbytes.2.1 rfl ?_ ?_
  · obtain ⟨⟨eax,ecx,edx,ebx,esp,ebp,esi,edi⟩,flags,eip,mem,fs,undefined⟩ := m
    simp (disch := decide) [detourJumpListing, eventCompared, BitVec.add_assoc, blend_resumeFlag] at hdetour ⊢
    exact hdetour
  · simp [detourJumpListing]

theorem reaches_indexRead (hcode : ApplicationRoutingLoaded s p c code) :
    ReachesReading code [(event m+s.index p,1)] (eventCompared m (s.detour p)) (indexRead s p m) := by
  have hbytes := hcode.detour
  rw [(applicationRoutingCode_eq hcode.emits).2.1] at hbytes
  have hback : s.detour p+12+(p.application.targetRva+20-(s.detourRva+12)) =
      ApplicationRoutingSpec.entry p+20 := by
    rw [ApplicationRoutingSpec.entry, FrameTargetSpec.targetAddress, ApplicationRoutingSpec.detour]
    ring
  refine reachesReading_listing (straight_indexListing _ _) hbytes rfl ?_ ?_
  · obtain ⟨⟨eax,ecx,edx,ebx,esp,ebp,esi,edi⟩,flags,eip,mem,fs,undefined⟩ := m
    simp (disch := decide) [indexListing, indexRead, eventCompared, BitVec.add_assoc, blend_resumeFlag] at hback ⊢
    exact hback
  · simp [indexListing, eventCompared]

theorem reaches_target (hcode : ApplicationRoutingLoaded s p c code) {i : BitVec 32}
    (hi : (indexRead s p m).regs.eax = i) :
    ReachesReading code [(s.table p+4*i,4)] (indexRead s p m)
      { indexRead s p m with eip := word m.mem (s.table p+4*i) } := by
  have hbytes := hcode.indirect
  rw [(applicationRoutingCode_eq hcode.emits).2.2] at hbytes
  have hscale : i <<< 2+s.table p = s.table p+4*i := by
    rw [BitVec.shiftLeft_eq_mul_twoPow, show BitVec.twoPow 32 2 = 4 by decide]
    ring
  refine reachesReading_listing (straight_tableListing _) hbytes rfl ?_ ?_
  · rw [indexRead] at hi ⊢
    obtain ⟨⟨eax,ecx,edx,ebx,esp,ebp,esi,edi⟩,flags,eip,mem,fs,undefined⟩ := m
    simp only at hi
    simp (disch := decide) [tableListing, eventCompared, hi, hscale, blend_resumeFlag]
  · simp [tableListing, hi, hscale]

/-! The tables. -/

/-- Every index is one of the table of targets. -/
theorem index_lt (h : applicationRoutingCode s p = some c) {i : ℕ} (hi : i < 39) :
    s.indices[i].toNat < 11 := by
  dsimp only [applicationRoutingCode] at h
  split at h
  · contradiction
  rename_i hlayout
  simp only [Bool.not_eq_true', Bool.not_eq_false, applicationRoutingLayout, Bool.and_eq_true] at hlayout
  have hall := Vector.all_eq_true.mp hlayout.1.2 i hi
  exact of_decide_eq_true hall

theorem RoutingTables.index (h : RoutingTables s p c m.mem) {e : BitVec 32} (he : e.toNat < 39) :
    m.mem (e+s.index p) = s.indices[e.toNat] := by
  have hbytes : load m.mem (s.index p) s.indices.toList.length = s.indices.toList := h.indices
  have hget := congrArg (fun bs => bs.getD e.toNat 0) hbytes
  rw [List.getD_eq_getElem _ _ (by simpa using he), List.getD_eq_getElem _ _ (by simpa using he), getElem_load,
    Vector.getElem_toList, BitVec.ofNat_toNat, BitVec.setWidth_eq] at hget
  rwa [add_comm]

theorem RoutingTables.target (hcode : applicationRoutingCode s p = some c)
    (h : RoutingTables s p c m.mem) {i : ℕ} (hi : i < 11) :
    word m.mem (s.table p+4*BitVec.ofNat 32 i) = p.application.imageBase+s.targetRvas[i] := by
  have htargets : c.targets = s.targetRvas.map (p.application.imageBase+·) := by
    dsimp only [applicationRoutingCode] at hcode
    split at hcode
    · contradiction
    rw [← Option.some.inj hcode]
  have hget := congrArg (fun v => v.toList.getD i 0) (h.targets.trans htargets)
  rw [List.getD_eq_getElem _ _ (by simpa using hi), List.getD_eq_getElem _ _ (by simpa using hi),
    Vector.getElem_toList, Vector.getElem_toList, getElem_words, Vector.getElem_map, BitVec.ofNat_mul] at hget
  exact hget

/-- From the handler's entry on the execution comes to one of the targets and reads, apart from the
event, at most one index and one target, each in its table. -/
def ApplicationRouted (s : ApplicationRoutingSpec) (p : EventDispatchSpec) (code : Memory) (m : Machine) :
    Prop :=
  if 38 < event m then ∃ m', ReachesReading code [(m.regs.esp+4,4)] m m' ∧
    m'.eip = p.application.imageBase+s.targetRvas.get 10
  else ∃ (he : (event m).toNat < 39) (hi : s.indices[(event m).toNat].toNat < 11) (m' : Machine),
    ReachesReading code [(m.regs.esp+4,4),(event m+s.index p,1),
      (s.table p+4*BitVec.ofNat 32 s.indices[(event m).toNat].toNat,4)] m m' ∧
    m'.eip = p.application.imageBase+s.targetRvas[s.indices[(event m).toNat].toNat]

theorem applicationRouted (hcode : ApplicationRoutingLoaded s p c code)
    (htables : RoutingTables s p c m.mem) (heip : m.eip = ApplicationRoutingSpec.entry p) :
    ApplicationRouted s p code m := by
  have hentry := reaches_eventCompared hcode heip
  rw [ApplicationRouted]
  by_cases hbeyond : 38 < event m
  · rw [if_pos hbeyond] at hentry ⊢
    exact ⟨_,hentry,rfl⟩
  · rw [if_neg hbeyond] at hentry ⊢
    have he : (event m).toNat < 39 := by bv_omega
    have hi := index_lt hcode.emits he
    have heax : (indexRead s p m).regs.eax = BitVec.ofNat 32 s.indices[(event m).toNat].toNat := by
      rw [indexRead, htables.index he]
      exact BitVec.eq_of_toNat_eq (by simp)
    have hroute := (hentry.trans (reaches_detour hcode)).trans
      ((reaches_indexRead hcode).trans (reaches_target hcode heax))
    refine ⟨he,hi,_,hroute,htables.target hcode.emits hi⟩

/-! The event 24. -/

/-- The dispatcher at its CALL of the handler, and the handler entered. -/
structure HandlerCalled (p : EventDispatchSpec) (saved : DispatchRegisters) (code : Memory)
    (m₀ m : Machine) : Prop where
  eip : m₀.eip = p.application.callAddress
  call : HasBytes code p.application.callAddress p.application.call.toList
  frame : eventDispatchFrame p 3 saved (registers m₀) (words m₀.mem m₀.regs.esp 7).toList
  entered : step code m₀ = some m

/-- What the frames of the handler say of the caller's registers. -/
structure HandlerSaved (saved : DispatchRegisters) : Prop where
  esp : ¬saved.esp < 4096#32
  aligned : saved.esp.toNat%4 = 0
  eax : saved.eax = 0#32
  ebx : saved.ebx = 0#32
  flags : saved.flags &&& 0x500#32 = 0#32

/-- The words on the stack in the handler. -/
def handlerStack (p : EventDispatchSpec) (saved : DispatchRegisters) : List (BitVec 32) :=
  [p.application.returnAddress,24,0,saved.edi,saved.esi,p.dispatcher.returnAddress,24,0]

/-- The handler's entry. -/
structure HandlerEntry (p : EventDispatchSpec) (saved : DispatchRegisters) (m : Machine) : Prop where
  eip : m.eip = ApplicationRoutingSpec.entry p
  registers : registers m =
    { saved with esp := saved.esp-32, eax := 0, ebx := 0, esi := 0, edi := 24, flags := m.flags }
  flags : m.flags &&& 0x500#32 = 0#32
  stack : (words m.mem m.regs.esp 8).toList = handlerStack p saved

theorem routed_of_code (h : applicationRoutingCode s p = some c) :
    validFrameTargetSpec p.application ∧ s.initializer.imageBase = p.application.imageBase ∧
      s.indices.get 24 = 5 ∧ s.targetRvas.get 5 = s.initializer.callRva := by
  dsimp only [applicationRoutingCode] at h
  split at h
  · contradiction
  rename_i hlayout
  simp only [Bool.not_eq_true', Bool.not_eq_false, applicationRoutingLayout, Bool.and_eq_true,
    Bool.not_eq_true', Bool.or_eq_false_iff, decide_eq_false_iff_not, not_not] at hlayout
  obtain ⟨⟨⟨⟨⟨⟨⟨⟨⟨⟨⟨⟨⟨_,hvalid⟩,_⟩,hbase⟩,_⟩,_⟩,_⟩,_⟩,hindex⟩,htarget⟩,_⟩,_⟩,_⟩,_⟩ := hlayout
  exact ⟨by simpa using hvalid,hbase,hindex,htarget⟩

theorem HandlerCalled.entry {saved : DispatchRegisters} {m₀ : Machine} (hcode : applicationRoutingCode s p = some c)
    (h : HandlerCalled p saved code m₀ m) : HandlerSaved saved ∧ HandlerEntry p saved m := by
  have hstep := FrameTargetSpec.step_call (routed_of_code hcode).1 h.eip h.call
  rw [h.entered, Option.some.injEq] at hstep
  have hframe := h.frame
  generalize hw : (words m₀.mem m₀.regs.esp 7).toList = ws at hframe
  rw [eventDispatchFrame] at hframe
  split at hframe
  · contradiction
  rename_i hregs
  simp at hregs hframe
  simp only [registers] at hregs hframe
  obtain ⟨⟨⟨hesp,hesi⟩,hedi⟩,hstack⟩ := hframe
  refine ⟨by constructor <;> grind,?_⟩
  subst hstep
  constructor
  · rfl
  · simp [registers]
    grind
  · rw [blend_and_of_disjoint (by decide)]
    exact hregs.1.1.1.1.1.2
  · rw [toList_words_push _ _ _ (by decide), hw, hstack]
    rfl

/-- The frames of the handler, for every register that the code leaves alone. -/
theorem handler_frame {saved : DispatchRegisters} {stage : ℕ} {eax flags : BitVec 32} (hs : HandlerSaved saved)
    (h : HandlerEntry p saved m) (hstage : 1 ≤ stage ∧ stage ≤ 4)
    (heax : eax = if stage = 1 then 0 else if stage = 2 then 24 else 5) (hflags : flags &&& 0x500#32 = 0#32) :
    s.applicationRoutingFrame p stage saved { registers m with eax, flags } (handlerStack p saved) =
      validApplicationRoutingSpec s p := by
  have hlow : ¬stage < 1 := not_lt.mpr hstage.1
  have htop : ¬4 < stage := not_lt.mpr hstage.2
  rw [h.registers, ApplicationRoutingSpec.applicationRoutingFrame]
  cases hvalid : validApplicationRoutingSpec s p with
  | false => simp
  | true =>
    rw [heax]
    simp [hlow, htop, hs.esp, hs.aligned, hs.eax, hs.ebx, hs.flags, hflags, handlerStack,
      FrameTargetSpec.returnAddress]

/-- The event 24 on its way to the CALL of the initializer, and what the frames say of its four
stops. -/
def InitializerReached (s : ApplicationRoutingSpec) (p : EventDispatchSpec) (saved : DispatchRegisters)
    (code : Memory) (m₁ : Machine) : Prop :=
  ∃ m₂ m₃ m₄, m₁.eip = ApplicationRoutingSpec.entry p ∧ Reaches code m₁ m₂ ∧ m₂.eip = s.detour p ∧
    Reaches code m₂ m₃ ∧ m₃.eip = ApplicationRoutingSpec.entry p+20 ∧ Reaches code m₃ m₄ ∧
    m₄.eip = s.initializer.callAddress ∧
    ∀ x ∈ [(1,m₁),(2,m₂),(3,m₃),(4,m₄)],
      s.applicationRoutingFrame p x.1 saved (registers x.2) (words x.2.mem x.2.regs.esp 8).toList =
        validApplicationRoutingSpec s p

theorem initializerReached {saved : DispatchRegisters} {m₀ : Machine} (hcode : ApplicationRoutingLoaded s p c code)
    (htables : RoutingTables s p c m.mem) (hcall : HandlerCalled p saved code m₀ m) :
    InitializerReached s p saved code m := by
  obtain ⟨_,hbase,hindex,htarget⟩ := routed_of_code hcode.emits
  obtain ⟨hsaved,hentry⟩ := hcall.entry hcode.emits
  have hevent : event m = 24 := by
    have hget := congrArg (fun ws => ws.getD 1 0) hentry.stack
    rwa [List.getD_eq_getElem _ _ (by simp), Vector.getElem_toList, getElem_words] at hget
  have heax : (indexRead s p m).regs.eax = 5 := by
    rw [indexRead, htables.index (by rw [hevent]; decide)]
    change _ = BitVec.setWidth 32 (5 : UInt8).toBitVec
    rw [← hindex]
    simp only [hevent]
    rfl
  have hflags (f : BitVec 32) : blend (blend m.flags resumeFlag 0) arithmeticFlags f &&& 0x500#32 = 0#32 := by
    rw [blend_and_of_disjoint (by decide), blend_and_of_disjoint (by decide)]
    exact hentry.flags
  have hcompared := (reaches_eventCompared hcode hentry.eip).reaches
  rw [hevent, if_neg (by decide)] at hcompared
  refine ⟨_,_,_,hentry.eip,hcompared.trans (reaches_detour hcode).reaches,rfl,(reaches_indexRead hcode).reaches,rfl,
    (reaches_target hcode heax).reaches,?_,?_⟩
  · have harrived := htables.target hcode.emits (i := 5) (by decide)
    refine harrived.trans ((congrArg (p.application.imageBase+·) htarget).trans ?_)
    rw [← hbase, FrameTargetSpec.callAddress]
  · have hframe (stage : ℕ) (eax flags : BitVec 32) (hstage : 1 ≤ stage ∧ stage ≤ 4)
        (heax : eax = if stage = 1 then 0 else if stage = 2 then 24 else 5) (hflags : flags &&& 0x500#32 = 0#32) :
        s.applicationRoutingFrame p stage saved { registers m with eax, flags }
          (words m.mem m.regs.esp 8).toList = validApplicationRoutingSpec s p := by
      rw [hentry.stack]
      exact handler_frame hsaved hentry hstage heax hflags
    intro x hx
    simp only [List.mem_cons, List.not_mem_nil, or_false] at hx
    -- The code writes nothing, so that the stops differ in `eax` and in the flags only.
    obtain rfl | rfl | rfl | rfl := hx
    · exact hframe 1 m.regs.eax m.flags (by decide) (congrArg DispatchRegisters.eax hentry.registers) hentry.flags
    · exact hframe 2 (event m) _ (by decide) hevent (hflags _)
    · exact hframe 3 _ _ (by decide) heax (hflags _)
    · exact hframe 4 _ _ (by decide) heax (hflags _)

/-- Whatever the event is, the handler's code stays within its tables; with the event 24 its frames
take the four stops on the way to the initializer exactly if the specs are valid. -/
theorem application_routing_confined (hcode : ApplicationRoutingLoaded s p c code) :
    (∀ m, m.eip = ApplicationRoutingSpec.entry p → RoutingTables s p c m.mem → ApplicationRouted s p code m) ∧
    ∀ saved m₀ m, HandlerCalled p saved code m₀ m → RoutingTables s p c m.mem →
      InitializerReached s p saved code m :=
  ⟨fun _ heip htables => applicationRouted hcode htables heip,
    fun _ _ _ hcall htables => initializerReached hcode htables hcall⟩

/-! The reviewed image with the dispatcher in it. -/

def reviewedEventDispatchSpec : EventDispatchSpec where
  dispatcher :=
    { imageBase := 4194304
      imageSize := 18313216
      callRva := 3442489
      targetRva := 2202464
      call := #v[0xe8,0x22,0x14,0xed,0xff]
      targetPrefix := #v[0x56,0x8b,0x74,0x24,0x0c,0x57,0x8b,0x7c,0x24,0x0c,0x56,0x57,0xe8,0x9f,0x50,0xf2] }
  application :=
    { imageBase := 4194304
      imageSize := 18313216
      callRva := 2202476
      targetRva := 1305616
      call := #v[0xe8,0x9f,0x50,0xf2,0xff]
      targetPrefix := #v[0x8b,0x44,0x24,4,0x83,0xf8,0x26,0x0f,0x87,0xb9,0,0,0,0x90,0x90,0xe9] }
  applicationPrefix :=
    #v[0x8b,0x44,0x24,4,0x83,0xf8,0x26,0x0f,0x87,0xb9,0,0,0,0x90,0x90,0xe9,0xaa,0x2c,0xec,0xff,0xff]

/-- The handler's first bytes are not the ones that are emitted. -/
def unemittedEventDispatchSpec : EventDispatchSpec :=
  { reviewedEventDispatchSpec with applicationPrefix := .replicate 21 0x90 }

def reviewedApplicationRoutingSpec : ApplicationRoutingSpec where
  initializer :=
    { imageBase := 4194304
      imageSize := 18313216
      callRva := 1305643
      targetRva := 1293136
      call := #v[0xe8,0x20,0xcf,0xff,0xff]
      targetPrefix := #v[0xe8,0x5b,0x38,0x1f,0,0xe8,0x26,0x16,3,0,0xe8,0x91,0xcb,0xff,0xff,0x6a] }
  detourRva := 6350
  indexRva := 1305864
  tableRva := 1305820
  indices := #v[0,10,10,10,1,10,10,10,10,2,10,10,10,10,10,10,10,10,10,10,10,3,4,10,5,6,7,8,
    10,10,10,10,10,10,10,10,10,10,9]
  targetRvas := #v[1305660,1305773,1305761,1305711,1305731,1305643,1305750,1305784,1305803,1305705,
    1305814]

def reviewedApplicationRoutingCode : ApplicationRoutingCode where
  entry := reviewedEventDispatchSpec.applicationPrefix
  detour := #v[0x0f,0xb6,0x80,8,0xed,0x53,0,0xe9,0x4a,0xd3,0x13,0]
  indirect := #v[0xff,0x24,0x85,0xdc,0xec,0x53,0]
  targets := reviewedApplicationRoutingSpec.targetRvas.map (4194304+·)

def reviewedApplicationRoutingMemory : Memory :=
  store (store (store (store (fun _ => 0) 0x53ec10 reviewedApplicationRoutingCode.entry.toList)
    0x4018ce reviewedApplicationRoutingCode.detour.toList)
    0x53ec24 reviewedApplicationRoutingCode.indirect.toList)
    0x619b6c reviewedEventDispatchSpec.application.call.toList

def reviewedDispatcherSaved : DispatchRegisters where
  esp := 0x19ff28
  eax := 0
  ebx := 0
  ecx := 1
  edx := 2
  esi := 3
  edi := 4
  ebp := 0x19ff74
  flags := 0x246

def reviewedDispatcherThread : Machine where
  regs := ⟨0,1,2,0,0x19ff0c,0x19ff74,0,24⟩
  flags := 0x246
  eip := 0x619b6c
  mem := store (setWords (setWords (fun _ => 0) 0x53ecdc
      ((reviewedApplicationRoutingCode.targets.toList.zipIdx).map fun x => (BitVec.ofNat 32 (4*x.2),x.1)))
    0x19ff0c [(0,24),(4,0),(8,4),(12,3),(16,0x74873e),(20,24),(24,0)])
    0x53ed08 reviewedApplicationRoutingSpec.indices.toList
  fs := 0x7ffde000
  undefined := fun _ => 0

def reviewedHandlerThread : Machine :=
  { reviewedDispatcherThread with
    regs := { reviewedDispatcherThread.regs with esp := 0x19ff0c-4 }
    flags := blend 0x246 resumeFlag 0
    eip := reviewedEventDispatchSpec.application.targetAddress
    mem := setWord reviewedDispatcherThread.mem (0x19ff0c-4) reviewedEventDispatchSpec.application.returnAddress }

theorem applicationRoutingLoaded_reviewed : ApplicationRoutingLoaded reviewedApplicationRoutingSpec
    reviewedEventDispatchSpec reviewedApplicationRoutingCode reviewedApplicationRoutingMemory := by
  constructor <;> decide +kernel

theorem handlerCalled_reviewed : HandlerCalled reviewedEventDispatchSpec reviewedDispatcherSaved
    reviewedApplicationRoutingMemory reviewedDispatcherThread reviewedHandlerThread where
  eip := rfl
  call := by decide
  frame := by decide
  entered := FrameTargetSpec.step_call (by decide) rfl (by decide)

theorem routingTables_reviewed : RoutingTables reviewedApplicationRoutingSpec reviewedEventDispatchSpec
    reviewedApplicationRoutingCode reviewedHandlerThread.mem := by
  constructor <;> decide +kernel

theorem application_routing_confined_reviewed :
    ApplicationRouted reviewedApplicationRoutingSpec reviewedEventDispatchSpec reviewedApplicationRoutingMemory
      reviewedHandlerThread ∧
    InitializerReached reviewedApplicationRoutingSpec reviewedEventDispatchSpec reviewedDispatcherSaved
      reviewedApplicationRoutingMemory reviewedHandlerThread := by
  obtain ⟨hrouted,hreached⟩ := application_routing_confined applicationRoutingLoaded_reviewed
  exact ⟨hrouted _ rfl routingTables_reviewed,hreached _ _ _ handlerCalled_reviewed routingTables_reviewed⟩

/-- Code is emitted without regard to the first bytes expected; the frames do regard them. -/
theorem application_routing_frame_rejects_unemitted : ∃ s p c saved code m₀ m,
    ApplicationRoutingLoaded s p c code ∧ HandlerCalled p saved code m₀ m ∧ RoutingTables s p c m.mem ∧
      ∀ stage r stack, s.applicationRoutingFrame p stage saved r stack = false := by
  have hinvalid : validApplicationRoutingSpec reviewedApplicationRoutingSpec unemittedEventDispatchSpec = false := by
    decide +kernel
  refine ⟨reviewedApplicationRoutingSpec,unemittedEventDispatchSpec,reviewedApplicationRoutingCode,
    reviewedDispatcherSaved,reviewedApplicationRoutingMemory,reviewedDispatcherThread,reviewedHandlerThread,
    ?_,?_,?_,?_⟩
  · constructor <;> decide +kernel
  · exact ⟨rfl,by decide,by decide,
      FrameTargetSpec.step_call (by decide) rfl (by decide)⟩
  · constructor <;> decide +kernel
  · intro stage r stack
    simp [ApplicationRoutingSpec.applicationRoutingFrame, hinvalid]

end Saex
