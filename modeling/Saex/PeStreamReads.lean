import Saex.PeLinkageReader
import Saex.PeReadersAgree

/-! What the linkage reader reads: the bytes that a section of the stream has for an RVA. -/
namespace Saex
open LittleEndian LoggedRuns PeStartupInspector PeLinkageInspector Recognizers

namespace PeStream
variable (pe : PeStream)

/-- The bytes in the only section that has all of them in the file. -/
def bytesAt (rva : BitVec 32) (n : ℕ) : Option (List UInt8) := do
  let p ← UniqueMatch.only (managedHolds rva n) (managedOffset rva) pe.headers.sectionHeaders
  if 0 ≤ p ∧ p+n ≤ pe.file.length then some ((pe.file.drop p.toNat).take n) else none

def byteAt (rva : BitVec 32) : Option UInt8 := (pe.bytesAt rva 1).bind List.head?
def wordAt (rva : BitVec 32) : Option (BitVec 16) := (pe.bytesAt rva 2).map (read 16)
def dwordAt (rva : BitVec 32) : Option (BitVec 32) := (pe.bytesAt rva 4).map (read 32)

/-- A text of accepted bytes with its NUL. -/
structure TextAt (rva : BitVec 32) (accepted : UInt8 → Bool) (bytes : Ascii) : Prop where
  text : ∀ k (hk : k < bytes.length), pe.byteAt (rva+.ofNat 32 k) = some bytes[k]
  nul : pe.byteAt (rva+.ofNat 32 bytes.length) = some 0
  plain : ∀ b ∈ bytes, b ≠ 0 ∧ accepted b

end PeStream

/-- The bytes read are those of one section, the only one that has them, and of the file. -/
structure StreamRead.Backed (pe : PeStream) (r : StreamRead) : Prop where
  single : ∃ s, pe.headers.sectionHeaders.filter (managedHolds r.rva r.size) = [s] ∧
    r.position = managedOffset r.rva s
  inFile : 0 ≤ r.position ∧ r.position+r.size ≤ pe.file.length

section Reads
variable {pe : PeStream} {rva : BitVec 32} {s s' : List StreamRead}

theorem checkedAdd_ok {x y : BitVec 32} {n : ℕ} (h : checkedAdd x n = .ok y) :
    x.toNat+n < 2^32 ∧ y = x+.ofNat 32 n := by
  unfold checkedAdd at h
  split at h
  · exact ⟨‹_›,(Except.ok.inj h).symm⟩
  · cases h

theorem streamOffset_ok {size v : ℤ} (h : streamOffset pe rva size = .ok v) :
    UniqueMatch.only (managedHolds rva size) (managedOffset rva) pe.headers.sectionHeaders =
      some v := by
  unfold streamOffset at h
  cases hoffset : offset pe.headers rva size with
  | error e =>
    rw [hoffset] at h
    cases h
  | ok w =>
    rw [hoffset] at h
    cases h
    exact ((offset_ok_iff pe.headers rva size v).mp hoffset).2

theorem backed_of_streamOffset {n : ℕ} {p : ℤ} (h : streamOffset pe rva n = .ok p)
    (hfile : 0 ≤ p ∧ p+n ≤ pe.file.length) : StreamRead.Backed pe ⟨rva,n,p⟩ := by
  have honly := streamOffset_ok h
  unfold UniqueMatch.only at honly
  split at honly
  · rename_i x hfilter
    exact ⟨⟨x,hfilter,(Option.some.inj honly).symm⟩,hfile⟩
  · cases honly

theorem readExactly_ok {n : ℕ} {bs : List UInt8} (h : readExactly pe rva n s = .ok (bs,s')) :
    pe.bytesAt rva n = some bs ∧ ∃ r, r.Backed pe ∧ s' = s++[r] := by
  obtain ⟨p,hp,h⟩ := bind_liftM_ok_iff.mp h
  obtain ⟨hlow,h⟩ := bind_require_ok_iff.mp h
  obtain ⟨hhigh,h⟩ := bind_require_ok_iff.mp h
  have h := bind_record_ok_iff.mp h
  cases pure_ok_iff.mp h
  have hfile : 0 ≤ p ∧ p+n ≤ pe.file.length := ⟨of_decide_eq_true hlow,of_decide_eq_true hhigh⟩
  refine ⟨?_,_,backed_of_streamOffset hp hfile,rfl⟩
  rw [PeStream.bytesAt, streamOffset_ok hp]
  exact if_pos hfile

theorem readExactly_logs (n : ℕ) : Logs (StreamRead.Backed pe) (readExactly pe rva n) := by
  intro s bs s' h hs
  obtain ⟨-,r,hr,rfl⟩ := readExactly_ok h
  exact List.forall_mem_append.mpr ⟨hs,List.forall_mem_singleton.mpr hr⟩

theorem number_ok {v : BitVec 32} (h : number pe rva s = .ok (v,s')) : pe.dwordAt rva = some v := by
  obtain ⟨bs,_,hbs,h⟩ := bind_ok_iff.mp h
  cases pure_ok_iff.mp h
  rw [PeStream.dwordAt, (readExactly_ok hbs).1, Option.map_some]

theorem word_ok {v : BitVec 16} (h : word pe rva s = .ok (v,s')) : pe.wordAt rva = some v := by
  obtain ⟨bs,_,hbs,h⟩ := bind_ok_iff.mp h
  cases pure_ok_iff.mp h
  rw [PeStream.wordAt, (readExactly_ok hbs).1, Option.map_some]

theorem number_logs : Logs (StreamRead.Backed pe) (number pe rva) :=
  (readExactly_logs 4).bind fun _ => .pure _

theorem word_logs : Logs (StreamRead.Backed pe) (word pe rva) :=
  (readExactly_logs 2).bind fun _ => .pure _

/-- A byte that was not the end of the stream. -/
theorem readByte_some {b : UInt8} (h : readByte pe rva s = .ok (some b,s')) :
    pe.byteAt rva = some b ∧ ∃ r, r.Backed pe ∧ s' = s++[r] := by
  obtain ⟨p,hp,h⟩ := bind_liftM_ok_iff.mp h
  obtain ⟨hlow,h⟩ := bind_require_ok_iff.mp h
  have hlow : 0 ≤ p := of_decide_eq_true hlow
  cases hbyte : pe.file[p.toNat]? with
  | none =>
    rw [hbyte] at h
    cases pure_ok_iff.mp h
  | some c =>
    rw [hbyte] at h
    have h := bind_record_ok_iff.mp h
    cases pure_ok_iff.mp h
    obtain ⟨hlt,hget⟩ := List.getElem?_eq_some_iff.mp hbyte
    have hfile : 0 ≤ p ∧ p+(1:ℕ) ≤ pe.file.length := by omega
    refine ⟨?_,_,backed_of_streamOffset hp hfile,rfl⟩
    have honly := streamOffset_ok hp
    have hbytes : pe.bytesAt rva 1 = some ((pe.file.drop p.toNat).take 1) := by
      rw [PeStream.bytesAt]
      simp only [Nat.cast_one, honly]
      exact if_pos hfile
    rw [PeStream.byteAt, hbytes, List.drop_eq_getElem_cons hlt, hget]
    rfl

theorem textBytes_ok {stop : ℕ} {accepted : UInt8 → Bool} {reasons : TextReasons} {left : ℕ}
    {bytes bytes' : Ascii} (h : textBytes pe rva stop accepted reasons left bytes s = .ok (bytes',s'))
    (htext : ∀ k (hk : k < bytes.length), pe.byteAt (rva+.ofNat 32 k) = some bytes[k])
    (hplain : ∀ b ∈ bytes, b ≠ 0 ∧ accepted b) : pe.TextAt rva accepted bytes' := by
  induction left generalizing bytes s with
  | zero => exact absurd h throw_ne_ok
  | succ left ih =>
    obtain ⟨at',hat,h⟩ := bind_liftM_ok_iff.mp h
    obtain ⟨_,h⟩ := bind_require_ok_iff.mp h
    obtain ⟨b,_,hb,h⟩ := bind_ok_iff.mp h
    have hat : at' = rva+.ofNat 32 bytes.length := (checkedAdd_ok hat).2
    cases b with
    | none => exact absurd h throw_ne_ok
    | some b =>
      have hbyte := (readByte_some hb).1
      rw [hat] at hbyte
      dsimp only at h
      split at h
      · rename_i hzero
        cases pure_ok_iff.mp h
        exact ⟨htext,hzero ▸ hbyte,hplain⟩
      · rename_i hzero
        obtain ⟨haccepted,h⟩ := bind_require_ok_iff.mp h
        refine ih h (fun k hk => ?_) ?_
        · rw [List.getElem_append]
          split
          · exact htext k _
          · rename_i hge
            rw [List.length_append, List.length_singleton] at hk
            have hlast : k = bytes.length := by omega
            subst hlast
            simpa using hbyte
        · exact List.forall_mem_append.mpr
            ⟨hplain,List.forall_mem_singleton.mpr ⟨hzero,haccepted⟩⟩

theorem textBytes_logs {stop : ℕ} {accepted : UInt8 → Bool} {reasons : TextReasons} (left : ℕ)
    (bytes : Ascii) :
    Logs (StreamRead.Backed pe) (textBytes pe rva stop accepted reasons left bytes) := by
  induction left generalizing bytes with
  | zero => exact .throw _
  | succ left ih =>
    refine .bind (.liftM _) fun at' => .bind (.require _ _) fun _ => ?_
    intro s a s' h hs
    obtain ⟨b,s₁,hb,h⟩ := bind_ok_iff.mp h
    cases b with
    | none => exact absurd h throw_ne_ok
    | some b =>
      obtain ⟨-,r,hr,rfl⟩ := readByte_some hb
      have hlogs : Logs (StreamRead.Backed pe)
          (if b = 0 then pure bytes else do
            demand (accepted b) reasons.byte
            textBytes pe rva stop accepted reasons left (bytes++[b])) := by
        split
        · exact .pure bytes
        · exact .bind (.require _ _) fun _ => ih _
      exact hlogs _ a s' h (List.forall_mem_append.mpr ⟨hs,List.forall_mem_singleton.mpr hr⟩)

end Reads
end Saex
