import Saex.ChildCustody
import Saex.LoaderPolicy

/-! What `LoaderObservation` calls while an event of the child is held: `same_named_event`,
`write_stack`, the context of the main thread and the file of a loaded module. -/
namespace Saex
open CallPrograms ChildSystem

section Helpers
variable {extra : ℕ}

/-- The right to wait for an object. -/
def synchronize : BitVec 32 := 0x00100000

/-- `same_named_event`, where the handle of the child has been duplicated. -/
def compareNamed (duplicate : Handle) (name : List UInt8) : System extra Bool := do
  match ← sysCall (.openEvent synchronize name) with
  | none =>
    sysCall (.closeHandle duplicate)
    return false
  | some named =>
    let same : Bool ← sysCall (.compareObjectHandles duplicate named)
    sysCall (.closeHandle named)
    sysCall (.closeHandle duplicate)
    return same

/-- `same_named_event`: whether a handle of the child is one of the event with this name. -/
def sameNamedEvent (process : Option Handle) (value : BitVec 32) (name : List UInt8) :
    System extra Bool := do
  if value = 0 ∨ 0xfffffff0 ≤ value ∨ name = [] ∨ 96 < name.length then return false
  else
    match ← sysCall (.getModuleHandle "kernelbase.dll") with
    | none => return false
    | some library =>
      match ← sysCall (.getProcAddress library "CompareObjectHandles") with
      | none => return false
      | some _ =>
        match ← sysCall (.duplicateHandle process value synchronize) with
        | none => return false
        | some duplicate => compareNamed duplicate name

/-- Whether `size` bytes from `address` on lie in the region. -/
def withinRegion (region : MemoryBasicInformation (32+extra)) (address : BitVec 32) (size : ℕ) : Bool :=
  region.baseAddress ≤ address.setWidth _ &&
    (address.setWidth _-region.baseAddress < region.regionSize) &&
    size ≤ (region.regionSize-(address.setWidth _-region.baseAddress)).toNat

/-- `read_private`. -/
def readPrivate (process : Option Handle) (address : BitVec 32) (size : ℕ) :
    System extra (Option (List UInt8)) := do
  if address = 0 ∨ size = 0 ∨ 260 < size ∨ 2^32-1-address.toNat < size then return none
  else
    match ← sysCall (.virtualQueryEx process (address.setWidth _)) with
    | none => return none
    | some region =>
      if region.type = 0x20000 && region.state = 0x1000 && region.protect &&& 0x101 = 0 &&
          withinRegion region address size then
        let bytes : Option (List UInt8) ←
          sysCall (.readProcessMemory process (address.setWidth _) (.ofNat _ size))
        return bytes.filter fun bytes => bytes.length = size
      else return none

/-- Private memory of the allocation that holds the stack, below its pointer. -/
def stackRegion (original region : MemoryBasicInformation (32+extra)) (stack address : BitVec 32)
    (size : ℕ) : Bool :=
  region.allocationBase = original.allocationBase && region.type = 0x20000 &&
    region.state = 0x1000 && region.protect &&& 0xff = 0x04 && region.protect &&& 0x100 = 0 &&
    address.toNat+size ≤ stack.toNat && withinRegion region address size

/-- `write_stack`. -/
def writeStack (process : Option Handle) (stack address : BitVec 32) (bytes : List UInt8) :
    System extra Bool := do
  if bytes = [] ∨ 224 < bytes.length ∨ 2^32-1-bytes.length < address.toNat then return false
  else
    match ← sysCall (.virtualQueryEx process (stack.setWidth _)) with
    | none => return false
    | some original =>
      match ← sysCall (.virtualQueryEx process (address.setWidth _)) with
      | none => return false
      | some region =>
        if stackRegion original region stack address bytes.length then
          let (written,count) : Bool × BitVec (32+extra) ←
            sysCall (.writeProcessMemory process (address.setWidth _) bytes)
          if written && count.toNat = bytes.length then
            let found ← readPrivate process address bytes.length
            return found = some bytes
          else return false
        else return false

/-! `inspect_loader_file`. -/

/-- The last part of a path in lower case, if it is short and plain enough. -/
def loaderFileName (path : List UInt16) : Option String :=
  let name := (path.reverse.takeWhile fun ch => ch ≠ 0x5c && ch ≠ 0x2f).reverse
  if name = [] ∨ 128 ≤ name.length then none
  else do
    let characters ← name.mapM fun ch =>
      let ch := if 0x41 ≤ ch && ch ≤ 0x5a then ch+0x20 else ch
      if 0x61 ≤ ch && ch ≤ 0x7a || 0x30 ≤ ch && ch ≤ 0x39 || ch = 0x2e || ch = 0x5f || ch = 0x2d ||
        ch = 0x20 then some (Char.ofNat ch.toNat) else none
    return String.ofList characters

/-- The loop that hashes the rest of a file: whether it gets through. -/
def hashRest (file : Handle) (remaining : ℕ) : System extra Bool :=
  if remaining = 0 then .done true
  else
    .ask (.readFile file (min remaining 65536)) fun
      | none => .done false
      | some bytes =>
        if _h : 0 < bytes.length ∧ bytes.length ≤ min remaining 65536 then
          .ask (.bcryptHashData bytes) fun (hashed : Bool) =>
            if hashed then hashRest file (remaining-bytes.length) else .done false
        else .done false
termination_by remaining
decreasing_by omega

/-- The digest of a file of this size. -/
def hashFile (file : Handle) (size : ℕ) : System extra (Option (BitVec 256)) := do
  let created : Bool ← sysCall .bcryptCreateHash
  if created then
    let complete ← hashRest file size
    let digest : Option (BitVec 256) ← if complete then sysCall .bcryptFinishHash else pure none
    sysCall .bcryptDestroyHash
    return digest
  else return none

/-- INVALID_HANDLE_VALUE. -/
def invalidHandleValue : Handle := 2^32-1

def inspectLoaderFile (file : Handle) (byteBudget : UInt64) :
    System extra (Option LoaderFileIdentity) := do
  if file = invalidHandleValue then return none
  else
    match ← sysCall (.fileIdInfo (some file)) with
    | none => return none
    | some id =>
      match ← sysCall (.getFileSize file) with
      | none => return none
      | some size =>
        if size ≤ 0 || size.toUInt64 > min byteBudget maxLoaderFileBytes then return none
        else
          let (length,path) : ℕ × List UInt16 ← sysCall (.getFinalPathName file)
          if length = 0 ∨ 32768 ≤ length then return none
          else
            match loaderFileName (path.take length) with
            | none => return none
            | some name =>
              let rewound : Bool ← sysCall (.setFilePointer file 0)
              if rewound then
                let digest ← hashFile file size.toUInt64.toNat
                return digest.map fun sha256 => { volume := id.volumeSerialNumber
                                                  fileId := id.fileId, bytes := size.toUInt64
                                                  sha256, name }
              else return none

/-! What the tests and the handlers of `run_impl` may call. Which of it they do call, and in which
order, is left to them. -/

inductive ChildCall (extra : ℕ)
  | virtualQuery (address : BitVec (32+extra))
  | read (address size : BitVec (32+extra))
  | writeStack (stack address : BitVec 32) (bytes : List UInt8)
  | threadId
  | context (flags : BitVec 32)
  | setContext (flags : BitVec 32) (context : ThreadContext)
  | selectorEntry (selector : BitVec 32)
  | sameNamedEvent (value : BitVec 32) (name : List UInt8)
  | copy (rva : BitVec 32) (length : BitVec (32+extra))
  | createHash
  | hashData (bytes : List UInt8)
  | finishHash
  | destroyHash
  | lastError

def ChildCall.Answer : ChildCall extra → Type
  | virtualQuery _ => Option (MemoryBasicInformation (32+extra))
  | read .. | copy .. => Option (List UInt8)
  | threadId => UInt32
  | context _ => Option ThreadContext
  | selectorEntry _ => Option (BitVec 64)
  | finishHash => Option (BitVec 256)
  | destroyHash => Unit
  | lastError => BitVec 32
  | writeStack .. | setContext .. | sameNamedEvent .. | createHash | hashData _ => Bool

abbrev childCalls (extra : ℕ) : Interface := ⟨ChildCall extra,ChildCall.Answer⟩

abbrev childCall {extra : ℕ} (c : ChildCall extra) : Program (childCalls extra) c.Answer :=
  @Program.call (childCalls extra) c

namespace SuspendedChild

/-- The calls on the process and the main thread of the object. -/
def probing (o : SuspendedChild extra) : (c : ChildCall extra) → System extra c.Answer
  | .virtualQuery address => sysCall (.virtualQueryEx o.process address)
  | .read address size => sysCall (.readProcessMemory o.process address size)
  | .writeStack stack address bytes => Saex.writeStack o.process stack address bytes
  | .threadId => sysCall (.getThreadId o.thread)
  | .context flags => sysCall (.getThreadContext o.thread flags)
  | .setContext flags context => sysCall (.setThreadContext o.thread flags context)
  | .selectorEntry selector => sysCall (.getThreadSelectorEntry o.thread selector)
  | .sameNamedEvent value name => Saex.sameNamedEvent o.process value name
  | .copy rva length => o.copy rva length
  | .createHash => sysCall .bcryptCreateHash
  | .hashData bytes => sysCall (.bcryptHashData bytes)
  | .finishHash => sysCall .bcryptFinishHash
  | .destroyHash => sysCall .bcryptDestroyHash
  | .lastError => sysCall .getLastError

end SuspendedChild
end Helpers

/-! None of these calls is out of order, and nothing is left of them. -/
section Custody
variable {extra : ℕ} {rule : ChildSystem → Prop} {w : ChildSystem}

namespace ChildSystem

/-- To close what was just acquired leaves nothing of it: it is not the job. -/
theorem closed_acquired {h : Handle} (hjob : ∀ x, w.job = some x → x ∈ w.opened)
    (hfresh : w.Fresh h) : (w.acquired (some h)).closed h = w := by
  have hne : w.job ≠ some h := fun heq => hfresh.1 (hjob h heq)
  simp only [closed, acquired, Option.toList_some, List.singleton_append, List.erase_cons_head, hne,
    decide_false, Bool.false_and, Bool.or_false]

end ChildSystem

theorem safe_compareNamed {duplicate : Handle} (hjob : ∀ x, w.job = some x → x ∈ w.opened)
    (hfresh : w.Fresh duplicate) (name : List UInt8) :
    Safe (world extra rule) (fun _ w' => w' = w) (compareNamed duplicate name)
      (w.acquired (some duplicate)) := by
  have hopened : duplicate ∈ (w.acquired (some duplicate)).opened := List.mem_cons_self
  refine Safe.call trivial fun named hnamed => ?_
  cases named with
  | none => exact Safe.call ⟨hopened,hfresh.2⟩ fun _ _ => closed_acquired hjob hfresh
  | some named =>
    have hnew : (w.acquired (some duplicate)).Fresh named := hnamed named rfl
    have hclosed : ((w.acquired (some duplicate)).acquired (some named)).closed named =
        w.acquired (some duplicate) :=
      closed_acquired (fun x hx => List.mem_cons_of_mem _ (hjob x hx)) hnew
    refine Safe.call ⟨List.mem_cons_of_mem _ hopened,List.mem_cons_self⟩ fun same _ => ?_
    refine Safe.call ⟨List.mem_cons_self,hnew.2⟩ fun _ _ => ?_
    change Safe _ _ _ (((w.acquired (some duplicate)).acquired (some named)).closed named)
    rw [hclosed]
    exact Safe.call ⟨hopened,hfresh.2⟩ fun _ _ => closed_acquired hjob hfresh

theorem safe_sameNamedEvent {process : Option Handle} (h : w.Paused process)
    (hjob : ∀ x, w.job = some x → x ∈ w.opened) (value : BitVec 32) (name : List UInt8) :
    Safe (world extra rule) (fun _ w' => w' = w) (sameNamedEvent process value name) w := by
  unfold sameNamedEvent
  split
  · rfl
  refine Safe.call trivial fun library _ => ?_
  cases library with
  | none => rfl
  | some library =>
    refine Safe.call trivial fun compare _ => ?_
    cases compare with
    | none => rfl
    | some compare =>
      refine Safe.call h fun duplicate hduplicate => ?_
      cases duplicate with
      | none => rfl
      | some duplicate => exact safe_compareNamed hjob (hduplicate duplicate rfl) name

theorem safe_readPrivate {process : Option Handle} (h : w.Paused process) (address : BitVec 32)
    (size : ℕ) :
    Safe (world extra rule) (fun _ w' => w' = w) (readPrivate process address size) w := by
  unfold readPrivate
  split
  · rfl
  refine Safe.call h fun region _ => ?_
  cases region with
  | none => rfl
  | some region =>
    dsimp only
    split
    · exact Safe.call h fun _ _ => rfl
    · rfl

theorem safe_writeStack {process : Option Handle} (h : w.Paused process) (stack address : BitVec 32)
    (bytes : List UInt8) :
    Safe (world extra rule) (fun _ w' => w' = w) (writeStack process stack address bytes) w := by
  unfold writeStack
  split
  · rfl
  refine Safe.call h fun original _ => ?_
  cases original with
  | none => rfl
  | some original =>
    refine Safe.call h fun region _ => ?_
    cases region with
    | none => rfl
    | some region =>
      dsimp only
      split
      · refine Safe.call h fun written _ => ?_
        dsimp only
        split
        · refine Safe.bind ((safe_readPrivate h address bytes.length).mono ?_)
          rintro found w' rfl
          rfl
        · rfl
      · rfl

/-- Whatever a handler calls, the system is as it was. -/
theorem safe_probing {o : SuspendedChild extra} (h : o.Owns w) (hpending : o.pending = true)
    (hk : o.killRequested = false) (c : ChildCall extra) :
    Safe (world extra rule) (fun _ w' => w' = w) (o.probing c) w := by
  have hpaused := SuspendedChild.paused h hpending hk
  have hthread := SuspendedChild.pausedThread h hpending hk
  have hjob (x : Handle) (hx : w.job = some x) : x ∈ w.opened := h.jobOpened hx
  cases c with
  | virtualQuery | read => exact ⟨hpaused,fun _ _ => rfl⟩
  | writeStack stack address bytes => exact safe_writeStack hpaused stack address bytes
  | threadId | context | setContext | selectorEntry => exact ⟨hthread,fun _ _ => rfl⟩
  | sameNamedEvent value name => exact safe_sameNamedEvent hpaused hjob value name
  | copy rva length => exact SuspendedChild.safe_copy h
  | createHash | hashData | finishHash | destroyHash | lastError => exact ⟨trivial,fun _ _ => rfl⟩

theorem safe_hashRest {file : Handle} (h : file ∈ w.opened) (remaining : ℕ) :
    Safe (world extra rule) (fun _ w' => w' = w) (hashRest file remaining) w := by
  induction remaining using Nat.strong_induction_on with
  | _ remaining ih =>
    unfold hashRest
    split
    · rfl
    refine ⟨.inl h,fun bytes _ => ?_⟩
    cases bytes with
    | none => rfl
    | some bytes =>
      dsimp only
      split
      · refine ⟨trivial,fun hashed _ => ?_⟩
        cases hashed with
        | false => rfl
        | true => exact ih _ (by omega)
      · rfl

theorem safe_hashFile {file : Handle} (h : file ∈ w.opened) (size : ℕ) :
    Safe (world extra rule) (fun _ w' => w' = w) (hashFile file size) w := by
  refine Safe.call trivial fun created _ => ?_
  cases created with
  | false => rfl
  | true =>
    refine Safe.bind ((safe_hashRest h size).mono ?_)
    rintro complete w' rfl
    cases complete with
    | false => exact Safe.call trivial fun _ _ => rfl
    | true => exact Safe.call trivial fun _ _ => Safe.call trivial fun _ _ => rfl

theorem safe_inspectLoaderFile {file : Handle} (h : file ∈ w.opened) (byteBudget : UInt64) :
    Safe (world extra rule) (fun _ w' => w' = w) (inspectLoaderFile file byteBudget) w := by
  unfold inspectLoaderFile
  split
  · rfl
  refine Safe.call ⟨file,rfl,.inl h⟩ fun id _ => ?_
  cases id with
  | none => rfl
  | some id =>
    refine Safe.call (.inl h) fun size _ => ?_
    cases size with
    | none => rfl
    | some size =>
      dsimp only
      split
      · rfl
      refine Safe.call (.inl h) fun (path : ℕ × List UInt16) _ => ?_
      obtain ⟨length,path⟩ := path
      dsimp only
      split
      · rfl
      cases loaderFileName (path.take length) with
      | none => rfl
      | some name =>
        refine Safe.call (.inl h) fun rewound _ => ?_
        cases rewound with
        | false => rfl
        | true =>
          refine Safe.bind ((safe_hashFile h _).mono ?_)
          rintro digest w' rfl
          rfl

end Custody

/-! Each of them comes to its end, whatever is answered. -/
section Endings
variable {extra : ℕ}

theorem ends_closeIfOpen (x : Option Handle) : (@closeIfOpen extra x).Ends := by
  cases x with
  | none => trivial
  | some h => exact fun _ => trivial

theorem ends_compareNamed (duplicate : Handle) (name : List UInt8) :
    (@compareNamed extra duplicate name).Ends := by
  intro named
  cases named with
  | none => exact fun _ => trivial
  | some named => exact fun _ _ _ => trivial

theorem ends_sameNamedEvent (process : Option Handle) (value : BitVec 32) (name : List UInt8) :
    (@sameNamedEvent extra process value name).Ends := by
  unfold sameNamedEvent
  split
  · trivial
  refine Program.Ends.call fun library => ?_
  cases library with
  | none => trivial
  | some library =>
    refine Program.Ends.call fun compare => ?_
    cases compare with
    | none => trivial
    | some compare =>
      refine Program.Ends.call fun duplicate => ?_
      cases duplicate with
      | none => trivial
      | some duplicate => exact ends_compareNamed duplicate name

theorem ends_readPrivate (process : Option Handle) (address : BitVec 32) (size : ℕ) :
    (@readPrivate extra process address size).Ends := by
  unfold readPrivate
  split
  · trivial
  refine Program.Ends.call fun region => ?_
  cases region with
  | none => trivial
  | some region =>
    dsimp only
    split
    · exact fun _ => trivial
    · trivial

theorem ends_writeStack (process : Option Handle) (stack address : BitVec 32) (bytes : List UInt8) :
    (@writeStack extra process stack address bytes).Ends := by
  unfold writeStack
  split
  · trivial
  refine Program.Ends.call fun original => ?_
  cases original with
  | none => trivial
  | some original =>
    refine Program.Ends.call fun region => ?_
    cases region with
    | none => trivial
    | some region =>
      dsimp only
      split
      · refine Program.Ends.call fun written => ?_
        split
        · exact (ends_readPrivate process address _).bind fun _ => trivial
        · trivial
      · trivial

theorem ends_walkPages (o : SuspendedChild extra) (fin cursor : BitVec (32+extra)) :
    (o.walkPages fin cursor).Ends := by
  induction hn : fin.toNat-cursor.toNat using Nat.strong_induction_on generalizing cursor with
  | _ n ih =>
    unfold SuspendedChild.walkPages
    split
    · rename_i hcursor
      intro region
      cases region with
      | none => trivial
      | some region =>
        dsimp only
        split
        · rename_i hcovered
          exact ih _ (hn ▸ SuspendedChild.sub_earlier_lt hcovered hcursor) _ rfl
        · trivial
    · trivial

theorem ends_copy (o : SuspendedChild extra) (rva : BitVec 32) (length : BitVec (32+extra)) :
    (o.copy rva length).Ends := by
  unfold SuspendedChild.copy
  split
  · trivial
  refine Program.Ends.call fun thread => ?_
  dsimp only
  split
  · trivial
  refine (ends_walkPages o _ _).bind fun verified => ?_
  cases verified with
  | false => trivial
  | true => exact fun _ => trivial

theorem ends_probing (o : SuspendedChild extra) (c : ChildCall extra) : (o.probing c).Ends := by
  cases c with
  | writeStack stack address bytes => exact ends_writeStack o.process stack address bytes
  | sameNamedEvent value name => exact ends_sameNamedEvent o.process value name
  | copy rva length => exact ends_copy o rva length
  | _ => exact fun _ => trivial

theorem ends_hashRest (file : Handle) (remaining : ℕ) : (@hashRest extra file remaining).Ends := by
  induction remaining using Nat.strong_induction_on with
  | _ remaining ih =>
    unfold hashRest
    split
    · trivial
    intro bytes
    cases bytes with
    | none => trivial
    | some bytes =>
      dsimp only
      split
      · intro hashed
        cases hashed with
        | false => trivial
        | true => exact ih _ (by omega)
      · trivial

theorem ends_inspectLoaderFile (file : Handle) (byteBudget : UInt64) :
    (@inspectLoaderFile extra file byteBudget).Ends := by
  unfold inspectLoaderFile
  split
  · trivial
  refine Program.Ends.call fun id => ?_
  cases id with
  | none => trivial
  | some id =>
    refine Program.Ends.call fun size => ?_
    cases size with
    | none => trivial
    | some size =>
      dsimp only
      split
      · trivial
      refine Program.Ends.call fun path => ?_
      obtain ⟨length,path⟩ := path
      dsimp only
      split
      · trivial
      cases loaderFileName (path.take length) with
      | none => trivial
      | some name =>
        refine Program.Ends.call fun rewound => ?_
        cases rewound with
        | false => trivial
        | true =>
          refine Program.Ends.bind (fun created => ?_) fun _ => trivial
          cases created with
          | false => trivial
          | true =>
            refine (ends_hashRest file _).bind fun complete => ?_
            cases complete with
            | false => exact fun _ => trivial
            | true => exact fun _ _ => trivial

end Endings
end Saex
