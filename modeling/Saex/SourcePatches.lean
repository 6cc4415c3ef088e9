import Saex.Dictionaries
import Saex.Occurrences
import Saex.PythonValues
import Saex.Recognizers
import Saex.StoppingRuns

/-! tools/native/dependency.py: the patches of the vendored sources. SHA-256 is a parameter,
and so is what reads, verifies and parses a patch. -/
namespace Saex.SourcePatches
open Occurrences Recognizers StoppingRuns

structure Replacement where
  old : PyText
  new : PyText

structure Patch where
  schemaVersion : ℤ
  target : PyText
  beforeSha256 : PyText
  afterSha256 : PyText
  replacements : List Replacement

inductive PatchStop
  | failed (why : String)
  /-- `encode` of a string with a surrogate. -/
  | unencodable
  /-- What reading, verifying or parsing a patch raises. -/
  | unreadable
deriving DecidableEq

def maxFile : ℕ := 4*1024*1024

def encoded (t : PyText) : Except PatchStop (List UInt8) :=
  match t.encode with
  | some bytes => .ok bytes
  | none => .error .unencodable

/-- `data.count(old) != 1` and `data.replace(old, new, 1)`, with the check of the size. -/
def replaceUnique (old new data : List UInt8) : Except PatchStop (List UInt8) := do
  refuseIf (old = [] ∨ countFrom old 0 data ≠ 1) (.failed "patch_context_not_unique")
  refuseIf ((replaceFirst old new data).length > maxFile) (.failed "patched_size_limit")
  return replaceFirst old new data

def applyReplacements : List Replacement → List UInt8 → Except PatchStop (List UInt8)
  | [], data => .ok data
  | change :: rest, data => do
    let old ← encoded change.old
    let new ← encoded change.new
    let data ← replaceUnique old new data
    applyReplacements rest data

def applyPatch (digest : List UInt8 → PyText) (data : List UInt8) (patch : Patch) :
    Except PatchStop (List UInt8) := do
  refuseIf (patch.schemaVersion ≠ 1 ∨ digest data ≠ patch.beforeSha256)
    (.failed "patch_preimage_mismatch")
  refuseIf (¬(1 ≤ patch.replacements.length ∧ patch.replacements.length ≤ 32)) (.failed "patch_limit")
  let data ← applyReplacements patch.replacements data
  refuseIf (digest data ≠ patch.afterSha256) (.failed "patch_postimage_mismatch")
  return data

/-- The map that `patched_files` is given, and the copy that it works on. -/
structure FileMaps where
  files : Dictionary PyText (List UInt8)
  result : Dictionary PyText (List UInt8)

variable {Entry : Type} (digest : List UInt8 → PyText) (load : Entry → Except PatchStop Patch)

/-- The body of the loop. -/
def patchEntry (m : FileMaps) (entry : Entry) : Except PatchStop FileMaps := do
  let patch ← load entry
  match m.result.get? patch.target with
  | none => .error (.failed "patch_target_not_in_inventory")
  | some data =>
    let data ← applyPatch digest data patch
    return { m with result := m.result.put patch.target data }

/-- The maps as the loop leaves them, whether it gets to its end or not. -/
def patchLoop : FileMaps → List Entry → FileMaps × Except PatchStop Unit
  | m, [] => (m,.ok ())
  | m, entry :: rest =>
    match patchEntry digest load m entry with
    | .error stop => (m,.error stop)
    | .ok m => patchLoop m rest

def patchedFiles (files : Dictionary PyText (List UInt8)) (patches : List Entry) :
    FileMaps × Except PatchStop Unit :=
  patchLoop digest load ⟨files,files⟩ patches

/-- The replacements as bytes. -/
def edits (changes : List Replacement) : Option (List (List UInt8 × List UInt8)) :=
  changes.mapM fun change => do return (← change.old.encode,← change.new.encode)

/-- Each old text is at one position of the data at the moment, the new data has just that
occurrence replaced, and is of 4 MiB at most. -/
def EditsInPlace : List (List UInt8 × List UInt8) → List UInt8 → List UInt8 → Prop
  | [], data, result => data = result
  | (old,new) :: rest, data, result => ∃ p, (∀ q, OccursAt old data q ↔ q = p) ∧
    (data.take p++new++data.drop (p+old.length)).length ≤ 4*1024*1024 ∧
    EditsInPlace rest (data.take p++new++data.drop (p+old.length)) result

/-- No old text is echoed in the data that it is looked for in. -/
def WithoutEchoes : List (List UInt8 × List UInt8) → List UInt8 → Prop
  | [], _ => True
  | (old,new) :: rest, data => ¬Echoes old data ∧ WithoutEchoes rest (replaceFirst old new data)

theorem encoded_ok {t : PyText} {bytes : List UInt8} (h : encoded t = .ok bytes) :
    t.encode = some bytes := by
  unfold encoded at h
  split at h
  · rename_i heq
    rw [heq, Except.ok.inj h]
  · cases h

theorem replaceUnique_ok {old new data next : List UInt8} (h : replaceUnique old new data = .ok next) :
    old ≠ [] ∧ countFrom old 0 data = 1 ∧ next = replaceFirst old new data ∧
      next.length ≤ 4*1024*1024 := by
  simp only [replaceUnique, bind_ok_iff, refuseIf_ok_iff, exists_const, not_or, not_not] at h
  obtain ⟨⟨hold,hcount⟩,hsize,heq⟩ := h
  cases heq
  exact ⟨hold,hcount,rfl,not_lt.mp hsize⟩

/-- What a replacement puts in the place of its old text, which is the first occurrence. -/
theorem replaced_of_unique {old new data : List UInt8} {p : ℕ} (hold : old ≠ [])
    (hp : ∀ q, OccursAt old data q ↔ q = p) :
    data.take p++new++data.drop (p+old.length) = replaceFirst old new data := by
  have hfirst : FirstAt old data p :=
    ⟨(hp p).mpr rfl,fun q hq hocc => absurd ((hp q).mp hocc) (Nat.ne_of_lt hq)⟩
  exact (replaceFirst_eq hold hfirst).symm

theorem applyReplacements_ok {changes : List Replacement} {data result : List UInt8}
    (h : applyReplacements changes data = .ok result) :
    ∃ es, edits changes = some es ∧ (EditsInPlace es data result ↔ WithoutEchoes es data) := by
  induction changes generalizing data with
  | nil =>
    cases h
    exact ⟨[],rfl,iff_of_true rfl trivial⟩
  | cons change rest ih =>
    rw [applyReplacements, bind_ok_iff] at h
    obtain ⟨old,hold,h⟩ := h
    obtain ⟨new,hnew,h⟩ := bind_ok_iff.mp h
    obtain ⟨next,hnext,hrest⟩ := bind_ok_iff.mp h
    obtain ⟨hne,hcount,rfl,hsize⟩ := replaceUnique_ok hnext
    obtain ⟨es,hes,hiff⟩ := ih hrest
    refine ⟨(old,new) :: es,?_,?_⟩
    · rw [edits, List.mapM_cons, encoded_ok hold, encoded_ok hnew, ← edits, hes]
      rfl
    · have hunique := unique_iff hne hcount
      constructor
      · rintro ⟨p,hp,_,hin⟩
        rw [replaced_of_unique hne hp] at hin
        exact ⟨hunique.mp ⟨p,hp⟩,hiff.mp hin⟩
      · rintro ⟨hecho,hrest⟩
        obtain ⟨p,hp⟩ := hunique.mpr hecho
        have heq : data.take p++new++data.drop (p+old.length) = replaceFirst old new data :=
          replaced_of_unique hne hp
        exact ⟨p,hp,heq ▸ hsize,heq ▸ hiff.mpr hrest⟩

/-- The loop only ever writes to its own copy of the map. -/
theorem patchLoop_files (m : FileMaps) (entries : List Entry) :
    (patchLoop digest load m entries).1.files = m.files := by
  induction entries generalizing m with
  | nil => rfl
  | cons entry rest ih =>
    rw [patchLoop]
    cases hentry : patchEntry digest load m entry with
    | error stop => rfl
    | ok m' =>
      have hfiles : m'.files = m.files := by
        obtain ⟨patch,_,h⟩ := bind_ok_iff.mp hentry
        split at h
        · cases h
        · obtain ⟨data,_,heq⟩ := bind_ok_iff.mp h
          cases heq
          rfl
      exact (ih m').trans hfiles

theorem applyPatch_ok {data result : List UInt8} {patch : Patch}
    (h : applyPatch digest data patch = .ok result) :
    applyReplacements patch.replacements data = .ok result := by
  simp only [applyPatch, bind_ok_iff, refuseIf_ok_iff, exists_const] at h
  obtain ⟨_,_,result',hresult,_,heq⟩ := h
  cases heq
  exact hresult

/-- An accepted patch edits in place exactly when no old text is echoed; the map that is
given stays as it is in any case. -/
theorem apply_patch_in_place_iff {data result : List UInt8} {patch : Patch}
    (h : applyPatch digest data patch = .ok result) :
    (∃ es, edits patch.replacements = some es ∧
      (EditsInPlace es data result ↔ WithoutEchoes es data)) ∧
    ∀ files patches, (patchedFiles digest load files patches).1.files = files := by
  refine ⟨?_,fun files patches => patchLoop_files digest load _ _⟩
  exact applyReplacements_ok (applyPatch_ok digest h)

/-- The old text agrees with itself where it is moved. -/
def OverlapsItself (old : List UInt8) : Prop :=
  ∃ d, 0 < d ∧ d < old.length ∧ old.drop d <+: old

theorem not_echoes {old : List UInt8} (h : ¬OverlapsItself old) (data : List UInt8) :
    ¬Echoes old data :=
  fun ⟨_,d,_,hpos,hlt,hmoved,_⟩ => h ⟨d,hpos,hlt,hmoved⟩

theorem withoutEchoes_of_not_overlapsItself {es : List (List UInt8 × List UInt8)}
    (h : ∀ e ∈ es, ¬OverlapsItself e.1) (data : List UInt8) : WithoutEchoes es data := by
  induction es generalizing data with
  | nil => trivial
  | cons e rest ih =>
    obtain ⟨hfirst,hrest⟩ := List.forall_mem_cons.mp h
    exact ⟨not_echoes hfirst data,ih hrest _⟩

/-- In particular an accepted patch edits in place whenever no old text overlaps itself. -/
theorem applyPatch_edits {data result : List UInt8} {patch : Patch}
    {es : List (List UInt8 × List UInt8)} (h : applyPatch digest data patch = .ok result)
    (hes : edits patch.replacements = some es) (hoverlap : ∀ e ∈ es, ¬OverlapsItself e.1) :
    EditsInPlace es data result := by
  obtain ⟨es',hes',hiff⟩ := applyReplacements_ok (applyPatch_ok digest h)
  cases hes.symm.trans hes'
  exact hiff.mpr (withoutEchoes_of_not_overlapsItself hoverlap data)

/-- SHA-256 of the four texts below. -/
def sampleDigest (data : List UInt8) : PyText :=
  if data = [97,98,99] then
    pyText "ba7816bf8f01cfea414140de5dae2223b00361a396177a9cb410ff61f20015ad"
  else if data = [97,120] then
    pyText "5e85370e555e95d27df68f93c0ccaa4edfc1da5e281b47a2ebba2649a13ea5f4"
  else if data = [97,97,97] then
    pyText "9834876dcfb05cb167a5c24953eba58c4ac89b1adf57f28f2f9d09af107ee8f0"
  else if data = [98,97] then
    pyText "970f519c2cadbcefb1e81694f904bc6229dd2a8300e98c6d0d4fc4bfca584140"
  else []

def samplePatch (before after : List UInt8) (replacements : List Replacement) : Patch :=
  ⟨1,[],sampleDigest before,sampleDigest after,replacements⟩

theorem apply_patch_in_place_sample :
    (∃ es, edits [⟨pyText "b",pyText "xy"⟩,⟨pyText "yc",pyText ""⟩] = some es ∧
      (EditsInPlace es [97,98,99] [97,120] ↔ WithoutEchoes es [97,98,99])) ∧
    ∀ files patches, (patchedFiles sampleDigest (fun _ : Unit => .error .unreadable) files
      patches).1.files = files := by
  have happlied : applyPatch sampleDigest [97,98,99] (samplePatch [97,98,99] [97,120]
      [⟨pyText "b",pyText "xy"⟩,⟨pyText "yc",pyText ""⟩]) = .ok [97,120] := by
    decide
  exact apply_patch_in_place_iff sampleDigest (fun _ : Unit => .error .unreadable) happlied

/-- In `aaa` the text `aa` is counted once and stands at two positions. -/
theorem echoed_context_accepted :
    applyPatch sampleDigest [97,97,97]
      (samplePatch [97,97,97] [98,97] [⟨pyText "aa",pyText "b"⟩]) = .ok [98,97] ∧
    edits [⟨pyText "aa",pyText "b"⟩] = some [([97,97],[98])] ∧
    ¬EditsInPlace [([97,97],[98])] [97,97,97] [98,97] := by
  refine ⟨by decide,by decide,?_⟩
  rintro ⟨p,hp,_⟩
  have h0 : OccursAt [97,97] ([97,97,97] : List UInt8) 0 := ⟨[97],rfl⟩
  have h1 : OccursAt [97,97] ([97,97,97] : List UInt8) 1 := ⟨[],rfl⟩
  have heq : 0 = 1 := ((hp 0).mp h0).trans ((hp 1).mp h1).symm
  exact absurd heq (by decide)

end Saex.SourcePatches
