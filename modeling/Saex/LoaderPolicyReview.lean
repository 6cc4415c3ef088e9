import Saex.LittleEndian
import Saex.LoaderPolicy
import Saex.PythonValues

/-! tools/loader_policy.py: the check of the reviewed policy and the specs that it compiles. -/
namespace Saex.LoaderPolicyReview
open LittleEndian Recognizers StoppingRuns PyValue

/-- `[a-z0-9_.-]` -/
def isFileCharacter (c : ℕ) : Bool := PyText.isNameCharacter c || c = 95 || c = 46 || c = 45

/-- `[a-z0-9_.-]{1,123}\.dll`, without two dots in a row. -/
def isModuleName (t : PyText) : Bool :=
  5 ≤ t.length && t.length ≤ 127 && (t.take (t.length-4)).all isFileCharacter &&
    t.drop (t.length-4) = pyText ".dll" && !decide (pyText ".." <:+: t)

def digest (v : PyValue) : Bool :=
  v.str?.any fun t => PyText.consistsOf PyText.isHexDigit 64 64 t && t ≠ .replicate 64 48

/-- The body of the loop, with the names and the bytes before. -/
def validateModule (names : List PyText) (total : ℤ) (module : PyValue) :
    Except String (List PyText × ℤ) :=
  match module.withKeys ["origin","name","bytes","sha256","basis"] with
  | none => .error "policy_module_keys"
  | some m =>
    match (item m "name").str?.filter isModuleName with
    | none => .error "policy_module_name"
    | some name => do
      refuseIf (name ∈ names) "policy_duplicate_module"
      refuseIf (¬["system-x86","game-root"].any (item m "origin").isStr) "policy_origin"
      match (item m "bytes").int?.filter fun n => 1 ≤ n && n ≤ 64*1024*1024 with
      | none => .error "policy_module_bytes"
      | some bytes => do
        refuseIf (¬digest (item m "sha256")) "policy_module_hash"
        refuseIf (¬["loader-system","compatibility-infrastructure","gta-static-import",
          "transitive-static-import","api-set-host-candidate"].any (item m "basis").isStr)
          "policy_module_basis"
        return (names++[name],total+bytes)

def validateModules : List PyText → ℤ → List PyValue → Except String (List PyText × ℤ)
  | names, total, [] => .ok (names,total)
  | names, total, module :: rest => do
    let s ← validateModule names total module
    validateModules s.1 s.2 rest

/-- `m[key]` of one of the modules. -/
def field (module : PyValue) (key : String) : PyValue := item (module.dict?.getD []) key

def validate (policy : PyValue) : Except String Unit :=
  match policy.withKeys ["schemaVersion","id","stage","engineSha256","reviewDocument","modules"] with
  | none => .error "policy_keys"
  | some p => do
    refuseIf ((item p "schemaVersion").int? ≠ some 1 ∨ ¬(item p "stage").isStr "first-exception-only")
      "policy_must_remain_mapping_only"
    refuseIf (¬(item p "id").str?.any PyText.isPolicyId) "policy_id"
    refuseIf (¬digest (item p "engineSha256")) "policy_engine_hash"
    refuseIf (¬(item p "reviewDocument").isStr "docs/development/d1-loader-policy.md")
      "policy_review_document"
    match (item p "modules").list?.filter fun l => 1 ≤ l.length && l.length ≤ 64 with
    | none => .error "policy_module_limit"
    | some modules => do
      let s ← validateModules [] 0 modules
      refuseIf (s.2 > 256*1024*1024) "policy_total_bytes"
      refuseIf (modules.map (fun m => (field m "name").str?) ≠
        (s.1.insertionSort (· ≤ ·)).map some) "policy_module_order"

/-! What `generate` makes of a policy. -/

/-- `byte_array`: the array as one number. -/
def hashOf (v : PyValue) : BitVec 256 := .ofNat 256 (value (PyText.fromHex (v.str?.getD [])))

/-- A text in the compiled source. -/
def textOf (t : PyText) : String := .ofList (t.map Char.ofNat)

def specOf (module : PyValue) : LoaderPinSpec where
  origin := if (field module "origin").isStr "game-root" then .gameRoot else .systemX86
  name := textOf ((field module "name").str?.getD [])
  bytes := .ofNat ((field module "bytes").int?.getD 0).toNat
  sha256 := hashOf (field module "sha256")

/-- `reviewed_loader_specs` -/
def reviewedSpecs (policy : PyValue) : List LoaderPinSpec :=
  ((field policy "modules").list?.getD []).map specOf

/-- `reviewed_loader_engine_hash` -/
def reviewedEngine (policy : PyValue) : BitVec 256 := hashOf (field policy "engineSha256")

/-! Names. -/

theorem isFileCharacter_lt {c : ℕ} (h : isFileCharacter c) : c < 123 := by
  simp only [isFileCharacter, PyText.isNameCharacter, Bool.or_eq_true, Bool.and_eq_true,
    decide_eq_true_eq] at h
  omega

/-- The characters of a name, which are those that the loader admits. -/
theorem fileCharacter {c : ℕ} (h : isFileCharacter c) : (Char.ofNat c).toNat = c ∧
    ('a' ≤ Char.ofNat c && Char.ofNat c ≤ 'z' || '0' ≤ Char.ofNat c && Char.ofNat c ≤ '9' ||
      Char.ofNat c = '_' || Char.ofNat c = '-' || Char.ofNat c = '.') = true := by
  have hlt := isFileCharacter_lt h
  revert h
  revert c
  decide

theorem moduleName_characters {t : PyText} (h : isModuleName t) : ∀ c ∈ t, isFileCharacter c := by
  simp only [isModuleName, Bool.and_eq_true, decide_eq_true_eq] at h
  obtain ⟨⟨⟨_,hall⟩,hend⟩,_⟩ := h
  rw [← List.take_append_drop (t.length-4) t, hend]
  exact List.forall_mem_append.mpr ⟨List.all_eq_true.mp hall,by decide⟩

theorem toList_textOf (t : PyText) : (textOf t).toList = t.map Char.ofNat := String.toList_ofList

theorem toNat_textOf {t : PyText} (h : ∀ c ∈ t, isFileCharacter c) :
    (textOf t).toList.map Char.toNat = t := by
  rw [toList_textOf, List.map_map]
  exact (List.map_congr_left fun c hc => (fileCharacter (h c hc)).1).trans (List.map_id t)

/-- The name is one that the loader takes. -/
theorem validName_textOf {t : PyText} (h : isModuleName t) : validName (textOf t) = true := by
  have hcharacters := moduleName_characters h
  have htext := toNat_textOf hcharacters
  simp only [isModuleName, Bool.and_eq_true, decide_eq_true_eq, Bool.not_eq_true',
    decide_eq_false_iff_not] at h
  obtain ⟨⟨⟨⟨hleast,hmost⟩,-⟩,hend⟩,hdots⟩ := h
  have hlength : (textOf t).length = t.length := by
    rw [textOf, String.length_ofList, List.length_map]
  have hsuffix : ".dll".toList <:+ (textOf t).toList := by
    have htail : (t.drop (t.length-4)).map Char.ofNat = ".dll".toList := by
      rw [hend]
      decide
    rw [toList_textOf, ← htail]
    exact (List.drop_suffix ..).map _
  have hnodots : ¬"..".toList <:+: (textOf t).toList := by
    intro hnodots
    have hmap := hnodots.map Char.toNat
    rw [htext] at hmap
    exact hdots hmap
  simp only [validName, Bool.and_eq_true, Bool.not_eq_true', Bool.or_eq_false_iff,
    decide_eq_false_iff_not, Bool.not_eq_false', decide_eq_true_eq, hlength]
  refine ⟨⟨⟨⟨not_lt.mpr hleast,not_lt.mpr hmost⟩,hsuffix⟩,hnodots⟩,?_⟩
  rw [toList_textOf, List.all_map, List.all_eq_true]
  exact fun c hc => (fileCharacter (hcharacters c hc)).2

theorem textOf_injective {t u : PyText} (ht : isModuleName t) (hu : isModuleName u)
    (h : textOf t = textOf u) : t = u := by
  rw [← toNat_textOf (moduleName_characters ht), h, toNat_textOf (moduleName_characters hu)]

/-! Hashes. -/

theorem fromHex_cons {a b : ℕ} {rest : PyText} :
    PyText.fromHex (a :: b :: rest) =
      .ofNat (16*PyText.fromHex.digit a+PyText.fromHex.digit b) :: PyText.fromHex rest := rfl

theorem digit_eq_zero {c : ℕ} (h : PyText.isHexDigit c) :
    PyText.fromHex.digit c < 16 ∧ (PyText.fromHex.digit c = 0 → c = 48) := by
  simp only [PyText.isHexDigit, Bool.or_eq_true, Bool.and_eq_true, decide_eq_true_eq] at h
  unfold PyText.fromHex.digit
  split <;> omega

/-- Digits that stand for zeros are zeros. -/
theorem fromHex_eq_zeros {n : ℕ} {t : PyText} (hdigits : ∀ c ∈ t, PyText.isHexDigit c)
    (hlength : t.length = 2*n) (h : PyText.fromHex t = .replicate n 0) : t = .replicate (2*n) 48 := by
  induction n generalizing t with
  | zero => exact List.length_eq_zero_iff.mp hlength
  | succ n ih =>
    match t, hdigits, hlength, h with
    | a :: b :: rest, hdigits, hlength, h =>
      obtain ⟨ha,hrest⟩ := List.forall_mem_cons.mp hdigits
      obtain ⟨hb,hrest⟩ := List.forall_mem_cons.mp hrest
      obtain ⟨halow,hazero⟩ := digit_eq_zero ha
      obtain ⟨hblow,hbzero⟩ := digit_eq_zero hb
      rw [fromHex_cons, List.replicate_succ, List.cons.injEq] at h
      have hlength : rest.length = 2*n := by
        simp only [List.length_cons] at hlength
        omega
      have hbyte : (16*PyText.fromHex.digit a+PyText.fromHex.digit b)%256 = 0 :=
        congrArg UInt8.toNat h.1
      rw [ih hrest hlength h.2, hazero (by omega), hbzero (by omega)]
      rfl

theorem length_fromHex {n : ℕ} {t : PyText} (hlength : t.length = 2*n) :
    (PyText.fromHex t).length = n := by
  induction n generalizing t with
  | zero =>
    rw [List.length_eq_zero_iff.mp hlength]
    rfl
  | succ n ih =>
    match t, hlength with
    | a :: b :: rest, hlength =>
      have hlength : rest.length = 2*n := by
        simp only [List.length_cons] at hlength
        omega
      rw [fromHex_cons, List.length_cons, ih hlength]

/-- A digest is not the hash of zeros. -/
theorem hashOf_ne_zero {v : PyValue} (h : digest v) : hashOf v ≠ 0 := by
  obtain ⟨t,ht,h⟩ := Option.any_eq_true _ _ |>.mp h
  simp only [PyText.consistsOf, Bool.and_eq_true, decide_eq_true_eq, List.all_eq_true] at h
  obtain ⟨⟨⟨hleast,hmost⟩,hdigits⟩,hzeros⟩ := h
  have hlength : t.length = 2*32 := by omega
  have hbytes := length_fromHex hlength
  intro hzero
  rw [hashOf, ht, Option.getD_some] at hzero
  have hvalue : value (PyText.fromHex t) = 0 := by
    have hlt := value_lt (PyText.fromHex t)
    rw [hbytes, show 256^32 = 2^256 by decide] at hlt
    have hnat := congrArg BitVec.toNat hzero
    rw [BitVec.toNat_ofNat, Nat.mod_eq_of_lt hlt] at hnat
    exact hnat
  have hall : PyText.fromHex t = .replicate 32 0 := by
    rw [← bytes_value (PyText.fromHex t), hbytes, hvalue]
    rfl
  exact hzeros (fromHex_eq_zeros hdigits hlength hall)

/-! An accepted policy. -/

/-- What the checks of one module leave of it. -/
structure ModuleChecked (module : PyValue) (name : PyText) (bytes : ℤ) : Prop where
  name_eq : (field module "name").str? = some name
  named : isModuleName name
  bytes_eq : (field module "bytes").int? = some bytes
  bounds : 1 ≤ bytes ∧ bytes ≤ 64*1024*1024
  hash : digest (field module "sha256")

theorem validateModule_ok {names : List PyText} {total : ℤ} {module : PyValue}
    {s : List PyText × ℤ} (h : validateModule names total module = .ok s) :
    ∃ name bytes, ModuleChecked module name bytes ∧ name ∉ names ∧ s = (names++[name],total+bytes) := by
  unfold validateModule at h
  split at h
  · cases h
  next m hm =>
  split at h
  · cases h
  next name hname =>
  simp only [bind_ok_iff, refuseIf_ok_iff] at h
  obtain ⟨-,hfresh,-,-,h⟩ := h
  split at h
  · cases h
  next bytes hbytes =>
  simp only [bind_ok_iff, refuseIf_ok_iff, not_not] at h
  obtain ⟨-,hhash,-,-,hs⟩ := h
  cases hs
  have hfield (key : String) : field module key = item m key := by
    rw [field, (Option.filter_eq_some_iff.mp hm).1, Option.getD_some]
  obtain ⟨hname,hnamed⟩ := Option.filter_eq_some_iff.mp hname
  obtain ⟨hbytes,hbounds⟩ := Option.filter_eq_some_iff.mp hbytes
  simp only [Bool.and_eq_true, decide_eq_true_eq] at hbounds
  exact ⟨name,bytes,⟨hfield _ ▸ hname,hnamed,hfield _ ▸ hbytes,hbounds,hfield _ ▸ hhash⟩,hfresh,rfl⟩

section Checked
variable {module : PyValue} {name : PyText} {bytes : ℤ} (h : ModuleChecked module name bytes)
include h

theorem name_specOf : (specOf module).name = textOf name := by
  rw [specOf, h.name_eq, Option.getD_some]

theorem bytes_specOf : ((specOf module).bytes.toNat : ℤ) = bytes := by
  have hbounds := h.bounds
  have htoNat : (specOf module).bytes.toNat = bytes.toNat := by
    rw [specOf, h.bytes_eq, Option.getD_some]
    exact Nat.mod_eq_of_lt (by omega)
  omega

/-- The compiled spec is one that the loader admits. -/
theorem admissible_specOf (allow : Bool) : admissible allow (specOf module) = true := by
  have hbytes := bytes_specOf h
  have hbounds := h.bounds
  have hvalid : validName (specOf module).name = true := by
    rw [name_specOf h]
    exact validName_textOf h.named
  have horigin : ((specOf module).origin ≠ .systemX86 && (specOf module).origin ≠ .gameRoot) =
      false := by
    unfold specOf
    split <;> rfl
  have hpos : (specOf module).bytes ≠ 0 := by
    intro hzero
    rw [hzero] at hbytes
    change (0 : ℤ) = bytes at hbytes
    omega
  have hmost : ¬(specOf module).bytes > maxLoaderFileBytes := by
    change ¬2^26 < (specOf module).bytes.toNat
    omega
  have hhash : (specOf module).sha256 ≠ 0 := hashOf_ne_zero h.hash
  simp only [admissible, hvalid, horigin, hpos, hmost, hhash, Bool.not_true, Bool.false_and,
    decide_false, Bool.or_false, Bool.not_false]

end Checked

/-- The loop over the modules: the names stay distinct, and the bytes add up. -/
theorem validateModules_ok {names : List PyText} {total : ℤ} {modules : List PyValue}
    {s : List PyText × ℤ} (h : validateModules names total modules = .ok s)
    (hnames : names.Nodup) :
    ∃ added, s.1 = names++added ∧ s.1.Nodup ∧
      modules.map (fun m => (specOf m).name) = added.map textOf ∧ (∀ t ∈ added, isModuleName t) ∧
      (∀ m ∈ modules, ∀ allow, admissible allow (specOf m) = true) ∧
      s.2 = total+(totalBytes (modules.map specOf) : ℤ) := by
  induction modules generalizing names total with
  | nil =>
    cases h
    exact ⟨[],(List.append_nil _).symm,hnames,rfl,fun _ h => absurd h List.not_mem_nil,
      fun _ h => absurd h List.not_mem_nil,(Int.add_zero _).symm⟩
  | cons m modules ih =>
    simp only [validateModules, bind_ok_iff] at h
    obtain ⟨s',hs',h⟩ := h
    obtain ⟨name,bytes,hm,hfresh,rfl⟩ := validateModule_ok hs'
    have hnext : (names++[name]).Nodup := by
      rw [List.nodup_append]
      refine ⟨hnames,List.nodup_singleton _,?_⟩
      intro t ht u hu heq
      rw [List.mem_singleton.mp hu] at heq
      exact hfresh (heq ▸ ht)
    obtain ⟨added,hadded,hnodup,hmap,hnamed,hall,htotal⟩ := ih h hnext
    refine ⟨name :: added,by rw [hadded, List.append_assoc, List.singleton_append],hnodup,?_,
      List.forall_mem_cons.mpr ⟨hm.named,hnamed⟩,
      List.forall_mem_cons.mpr ⟨admissible_specOf hm,hall⟩,?_⟩
    · rw [List.map_cons, List.map_cons, hmap, name_specOf hm]
    · have hbytes := bytes_specOf hm
      have hsum : totalBytes ((m :: modules).map specOf) =
          (specOf m).bytes.toNat+totalBytes (modules.map specOf) := rfl
      rw [htotal, hsum]
      omega

/-- The recipe of the compiled policy, for an engine with the reviewed hash. -/
def reviewedRecipe (policy : PyValue) (game system : List UInt16) (allow : Bool) : LoaderRecipe where
  specs := reviewedSpecs policy
  expectedEngine := reviewedEngine policy
  actualEngine := reviewedEngine policy
  gameDirectory := game
  systemDirectory := system
  allowBootstrapAsi := allow

theorem validate_ok {policy : PyValue} {game system : List UInt16} (allow : Bool)
    (h : validate policy = .ok ()) (hgame : game ≠ []) (hsystem : system ≠ []) :
    ValidRecipe (reviewedRecipe policy game system allow) := by
  unfold validate at h
  split at h
  · cases h
  next p hp =>
  simp only [bind_ok_iff, refuseIf_ok_iff, not_not] at h
  obtain ⟨-,-,-,-,-,hengine,-,-,h⟩ := h
  split at h
  · cases h
  next modules hmodules =>
  simp only [bind_ok_iff, refuseIf_ok_iff, not_lt] at h
  obtain ⟨s,hs,-,htotal,-⟩ := h
  obtain ⟨added,hadded,hnodup,hmap,hnamed,hall,hsum⟩ := validateModules_ok hs List.nodup_nil
  have hfield (key : String) : field policy key = item p key := by
    rw [field, (Option.filter_eq_some_iff.mp hp).1, Option.getD_some]
  obtain ⟨hmodules,hcount⟩ := Option.filter_eq_some_iff.mp hmodules
  simp only [Bool.and_eq_true, decide_eq_true_eq] at hcount
  have hspecs : reviewedSpecs policy = modules.map specOf := by
    rw [reviewedSpecs, hfield, hmodules, Option.getD_some]
  rw [hadded, List.nil_append] at hnodup
  refine ⟨⟨rfl,hashOf_ne_zero (hfield _ ▸ hengine)⟩,⟨?_,?_⟩,⟨hgame,hsystem⟩,?_,?_,?_⟩ <;>
    simp only [reviewedRecipe, hspecs]
  · intro hnil
    rw [List.map_eq_nil_iff.mp hnil] at hcount
    exact absurd hcount.1 (by decide)
  · rw [List.length_map]
    exact hcount.2
  · exact List.forall_mem_map.mpr fun m hm => hall m hm allow
  · rw [List.map_map]
    change (modules.map fun m => (specOf m).name).Nodup
    rw [hmap]
    refine (List.nodup_map_iff_inj_on hnodup).mpr ?_
    exact fun t ht u hu heq => textOf_injective (hnamed t ht) (hnamed u hu) heq
  · unfold recipeLimit
    omega

/-- All or nothing, within the budget: files are opened for a valid recipe only, the pins are
one for each spec or none, and what an accepted policy compiles to is a valid recipe. -/
theorem prepared_all_or_nothing :
    (∀ (W : Type) (system : LoaderFiles W) (r : LoaderRecipe) (w : W),
      let p := (prepareLoaderPolicy system r w).1
      (p.opened ≠ [] → checkRecipe r = .ok ()) ∧ (p.pins ≠ [] ↔ p.error = "") ∧
      (p.error = "" → r.specs.Forall₂ Pins p.pins) ∧ OpenedFor r 0 r.specs p.opened) ∧
    ∀ policy game system allow, validate policy = .ok () → game ≠ [] → system ≠ [] →
      checkRecipe (reviewedRecipe policy game system allow) = .ok () := by
  refine ⟨fun W system r w => ⟨?_,pins_ne_nil_iff,fun h => (pins_of_no_error h).2,
    openedFor_prepare⟩,?_⟩
  · exact fun h => checkRecipe_ok_iff.mpr (opened_valid h)
  · exact fun policy game system allow h hgame hsystem =>
      checkRecipe_ok_iff.mpr (validate_ok allow h hgame hsystem)

/-! A policy of two modules. -/

def smallDigest : PyValue :=
  ofStr "0100000000000000000000000000000000000000000000000000000000000000"

def smallModule (origin name : String) (bytes : ℤ) : PyValue :=
  .object [(pyText "origin",ofStr origin),(pyText "name",ofStr name),(pyText "bytes",ofInt bytes),
    (pyText "sha256",smallDigest),(pyText "basis",ofStr "loader-system")]

def smallPolicy : PyValue :=
  .object [(pyText "schemaVersion",ofInt 1),(pyText "id",ofStr "small"),
    (pyText "stage",ofStr "first-exception-only"),(pyText "engineSha256",smallDigest),
    (pyText "reviewDocument",ofStr "docs/development/d1-loader-policy.md"),
    (pyText "modules",.array [smallModule "game-root" "a.dll" 4096,
      smallModule "system-x86" "b.dll" 8192])]

/-- A file of 8192 bytes in the one directory, and files of 4096 bytes everywhere else. -/
def smallFiles : LoaderFiles Unit where
  openFile w path budget :=
    (if path = 68 :: 92 :: widened "b.dll" then
      if h : 8192 ≤ budget then some ⟨{ bytes := 8192, sha256 := 1, name := "b.dll" },h⟩ else none
    else if h : 4096 ≤ budget then some ⟨{ bytes := 4096, sha256 := 1, name := "a.dll" },h⟩
    else none,w)

theorem prepared_all_or_nothing_small :
    let r := reviewedRecipe smallPolicy [67] [68] false
    let p := (prepareLoaderPolicy smallFiles r ()).1
    checkRecipe r = .ok () ∧ p.opened.map (·.budget) = [256*1024*1024,256*1024*1024-4096] ∧
      p.pins.map (·.bytes) = [4096,8192] ∧ r.specs.Forall₂ Pins p.pins := by
  intro r p
  have hvalidate : validate smallPolicy = .ok () := by
    decide
  have herror : p.error = "" := by
    decide
  have h := prepared_all_or_nothing.1 Unit smallFiles r ()
  refine ⟨prepared_all_or_nothing.2 smallPolicy [67] [68] false hvalidate (by decide) (by decide),?_,?_,
    h.2.2.1 herror⟩ <;> decide

end Saex.LoaderPolicyReview
