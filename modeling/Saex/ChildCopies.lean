import Saex.SuspendedChild

/-! What `SuspendedImage::copy` returns, as its own exchanges with the system tell it. -/
namespace Saex
open CallPrograms

section Copies
variable {extra : ℕ}

/-- The answer to a query for a region. -/
def regionAnswer : Exchange (windows extra) → Option (Option (MemoryBasicInformation (32+extra)))
  | ⟨.virtualQueryEx ..,region⟩ => some region
  | _ => none

/-- A thread, regions and a memory that answer as the record says wherever it speaks of them. -/
structure CopyTold (t : List (Exchange (windows extra))) (thread : BitVec 32)
    (answers : ℕ → Option (MemoryBasicInformation (32+extra)))
    (read : BitVec (32+extra) → BitVec (32+extra) → Option (List UInt8)) : Prop where
  thread : ∀ r : BitVec 32, ⟨.getCurrentThreadId,r⟩ ∈ t → r = thread
  regions : ∀ i r, (t.filterMap regionAnswer)[i]? = some r → answers i = r
  bytes : ∀ process address size, ∀ r : Option (List UInt8),
    ⟨.readProcessMemory process address size,r⟩ ∈ t → read address size = r

/-- The exchanges are those of some thread, regions and memory, and of whichever they are, these
bytes are what the reader of the image gives for them. -/
def CopyGives (o : SuspendedChild extra) (rva : BitVec 32) (length : BitVec (32+extra))
    (t : List (Exchange (windows extra))) (bytes : Option (List UInt8)) : Prop :=
  (∃ thread answers read, CopyTold t thread answers read) ∧
    ∀ thread answers read, CopyTold t thread answers read →
      bytes = o.toSuspendedImage.copy thread rva length answers read

namespace SuspendedChild
variable {o : SuspendedChild extra} {t : List (Exchange (windows extra))}

/-- The walk asks for nothing but regions, and it is `pageWalk` on what is answered. -/
theorem returns_walkPages {fin cursor : BitVec (32+extra)} {verified : Bool}
    (h : Returns (o.walkPages fin cursor) t verified) :
    (∀ x ∈ t, (regionAnswer x).isSome) ∧
      ∀ answers i, (∀ k r, (t.filterMap regionAnswer)[k]? = some r → answers (i+k) = r) →
        verified = pageWalk o.base fin answers i cursor := by
  induction hn : fin.toNat-cursor.toNat using Nat.strong_induction_on generalizing cursor t with
  | _ n ih =>
    unfold walkPages at h
    split at h
    · rename_i hcursor
      obtain ⟨region,t',rfl,hnext⟩ := returns_ask.mp h
      have hfirst (answers : ℕ → Option (MemoryBasicInformation (32+extra))) (i : ℕ)
          (hanswers : ∀ k r, ((⟨.virtualQueryEx o.process cursor,region⟩ :: t').filterMap
            regionAnswer)[k]? = some r → answers (i+k) = r) : answers i = region :=
        hanswers 0 region rfl
      cases region with
      | none =>
        obtain ⟨rfl,rfl⟩ := returns_done.mp hnext
        refine ⟨fun x hx => ?_,fun answers i hanswers => ?_⟩
        · cases List.mem_singleton.mp hx
          rfl
        · rw [pageWalk, if_pos hcursor, hfirst answers i hanswers]
      | some region =>
        dsimp only at hnext
        split at hnext
        · rename_i hcovered
          obtain ⟨honly,hwalk⟩ := ih _ (hn ▸ sub_earlier_lt hcovered hcursor) hnext rfl
          refine ⟨fun x hx => ?_,fun answers i hanswers => ?_⟩
          · rcases List.mem_cons.mp hx with rfl | hx
            · rfl
            · exact honly x hx
          · rw [pageWalk, if_pos hcursor, hfirst answers i hanswers]
            dsimp only
            rw [dif_pos hcovered]
            refine hwalk answers (i+1) fun k r hr => ?_
            rw [Nat.add_assoc, Nat.add_comm 1 k]
            exact hanswers (k+1) r hr
        · rename_i hcovered
          obtain ⟨rfl,rfl⟩ := returns_done.mp hnext
          refine ⟨fun x hx => ?_,fun answers i hanswers => ?_⟩
          · cases List.mem_singleton.mp hx
            rfl
          · rw [pageWalk, if_pos hcursor, hfirst answers i hanswers]
            dsimp only
            rw [dif_neg hcovered]
    · rename_i hcursor
      obtain ⟨rfl,rfl⟩ := returns_done.mp h
      refine ⟨fun x hx => absurd hx List.not_mem_nil,fun answers i _ => ?_⟩
      rw [pageWalk, if_neg hcursor]

/-- The tests before the walk. -/
theorem request_eq (o : SuspendedChild extra) (thread : BitVec 32) (rva : BitVec 32)
    (length : BitVec (32+extra)) (answers : ℕ → Option (MemoryBasicInformation (32+extra))) :
    o.request thread rva length answers =
      if (o.error ≠ none || !o.pending || o.killRequested) || (thread ≠ o.ownerThread || length = 0 ||
        length > 1024 || rva.setWidth _ > o.imageBytes || length > o.imageBytes-rva.setWidth _) then
        none else readRequest o.base rva length answers := by
  simp only [SuspendedImage.request, Bool.or_assoc]

/-- The record of a copy that gets past its tests: the thread, regions, and at most one read. -/
theorem filterMap_record {r : BitVec 32} {read : Option (List UInt8)}
    {t₁ t₂ : List (Exchange (windows extra))}
    (h₂ : ∀ x ∈ t₂, ∃ process address size, x = ⟨.readProcessMemory process address size,read⟩) :
    (⟨.getCurrentThreadId,r⟩ :: (t₁++t₂) : List (Exchange (windows extra))).filterMap regionAnswer =
      t₁.filterMap regionAnswer := by
  have hnone : t₂.filterMap regionAnswer = [] := by
    rw [List.filterMap_eq_nil_iff]
    intro x hx
    obtain ⟨process,address,size,rfl⟩ := h₂ x hx
    rfl
  rw [List.filterMap_cons_none rfl, List.filterMap_append, hnone, List.append_nil]

theorem copyTold_record {r : BitVec 32} {read : Option (List UInt8)}
    {t₁ t₂ : List (Exchange (windows extra))} (h₁ : ∀ x ∈ t₁, (regionAnswer x).isSome)
    (h₂ : ∀ x ∈ t₂, ∃ process address size, x = ⟨.readProcessMemory process address size,read⟩) :
    CopyTold (⟨.getCurrentThreadId,r⟩ :: (t₁++t₂)) r
      (fun i => ((t₁.filterMap regionAnswer)[i]?).getD none) (fun _ _ => read) := by
  have hother {x : Exchange (windows extra)} (hx : x ∈ t₁++t₂) : (regionAnswer x).isSome ∨
      ∃ process address size, x = ⟨.readProcessMemory process address size,read⟩ :=
    (List.mem_append.mp hx).imp (h₁ x) (h₂ x)
  refine ⟨fun r' hr' => ?_,fun i region hregion => ?_,fun process address size bytes hbytes => ?_⟩
  · rcases List.mem_cons.mp hr' with heq | hmem
    · cases heq
      rfl
    · rcases hother hmem with hsome | ⟨_,_,_,heq⟩
      · cases hsome
      · cases heq
  · rw [filterMap_record h₂] at hregion
    rw [hregion, Option.getD_some]
  · rcases List.mem_cons.mp hbytes with heq | hmem
    · cases heq
    · rcases hother hmem with hsome | ⟨_,_,_,heq⟩
      · cases hsome
      · cases heq
        rfl

/-- `copy` returns what the reader of the image gives for the answers it got. -/
theorem returns_copy {rva : BitVec 32} {length : BitVec (32+extra)} {bytes : Option (List UInt8)}
    (h : Returns (o.copy rva length) t bytes) : CopyGives o rva length t bytes := by
  have hrefused {thread : BitVec 32} {answers : ℕ → Option (MemoryBasicInformation (32+extra))}
      {read : BitVec (32+extra) → BitVec (32+extra) → Option (List UInt8)}
      (hnone : o.request thread rva length answers = none) : none =
        o.toSuspendedImage.copy thread rva length answers read := by
    rw [SuspendedImage.copy, hnone]
    rfl
  unfold copy at h
  split at h
  · rename_i hguard
    obtain ⟨rfl,rfl⟩ := returns_done.mp h
    refine ⟨⟨0,fun _ => none,fun _ _ => none,?_⟩,fun thread answers read _ => hrefused ?_⟩
    · refine ⟨fun _ hr => absurd hr List.not_mem_nil,fun i r hr => ?_,
        fun _ _ _ _ hr => absurd hr List.not_mem_nil⟩
      cases hr
    · rw [request_eq, hguard, Bool.true_or, if_pos rfl]
  rename_i hguard
  obtain ⟨(asked : BitVec 32),t',rfl,hnext⟩ := returns_call.mp h
  dsimp only at hnext
  split at hnext
  · rename_i harguments
    obtain ⟨rfl,rfl⟩ := returns_done.mp hnext
    refine ⟨⟨_,_,_,@copyTold_record _ asked none [] [] ?_ ?_⟩,?_⟩
    · exact fun x hx => absurd hx List.not_mem_nil
    · exact fun x hx => absurd hx List.not_mem_nil
    · intro thread answers read htold
      obtain rfl := htold.thread _ List.mem_cons_self
      refine hrefused ?_
      rw [request_eq, harguments, Bool.or_true, if_pos rfl]
  rename_i harguments
  have hadmitted (answers : ℕ → Option (MemoryBasicInformation (32+extra))) :
      o.request asked rva length answers = readRequest o.base rva length answers := by
    rw [request_eq, Bool.eq_false_of_not_eq_true hguard, Bool.eq_false_of_not_eq_true harguments]
    rfl
  obtain ⟨t₁,verified,t₂,rfl,hwalk,hread⟩ := returns_bind.mp hnext
  obtain ⟨honly,hwalk⟩ := returns_walkPages hwalk
  cases verified with
  | true =>
    obtain ⟨(read : Option (List UInt8)),t₃,rfl,hdone⟩ := returns_call.mp hread
    obtain ⟨rfl,rfl⟩ := returns_done.mp hdone
    have hlast (x : Exchange (windows extra)) (hx : x ∈ [⟨.readProcessMemory o.process
        (o.base+rva.setWidth _) length,read⟩]) : ∃ process address size,
          x = ⟨.readProcessMemory process address size,read⟩ := ⟨_,_,_,List.mem_singleton.mp hx⟩
    refine ⟨⟨_,_,_,copyTold_record honly hlast⟩,fun thread answers memory htold => ?_⟩
    obtain rfl := htold.thread _ List.mem_cons_self
    have hmemory : memory (o.base+rva.setWidth _) length = read :=
      htold.bytes _ _ _ _ (List.mem_cons_of_mem _ (List.mem_append_right _ (List.mem_singleton_self _)))
    have hregions := hwalk answers 0 fun k r hr => by
      rw [Nat.zero_add]
      exact htold.regions k r (by rwa [filterMap_record hlast])
    rw [SuspendedImage.copy, hadmitted, readRequest, ← hregions]
    exact congrArg (Option.filter _) hmemory.symm
  | false =>
    obtain ⟨rfl,rfl⟩ := returns_done.mp hread
    have hlast (x : Exchange (windows extra)) (hx : x ∈ []) : ∃ process address size,
        x = ⟨.readProcessMemory process address size,none⟩ := absurd hx List.not_mem_nil
    refine ⟨⟨_,_,_,copyTold_record honly hlast⟩,fun thread answers memory htold => ?_⟩
    obtain rfl := htold.thread _ List.mem_cons_self
    have hregions := hwalk answers 0 fun k r hr => by
      rw [Nat.zero_add]
      exact htold.regions k r (by rwa [filterMap_record hlast])
    refine hrefused ?_
    rw [hadmitted, readRequest, ← hregions]
    rfl

end SuspendedChild
end Copies
end Saex
