import Saex.LoaderInputs
import Saex.Recognizers
import Saex.StoppingRuns

/-! engine/loader/loader_policy.cpp: the files that a reviewed policy pins. The file system
is a parameter; it opens files within the budget that it is given. -/
namespace Saex
open Recognizers StoppingRuns

/-- Other values of the enumeration can only come from a cast. -/
inductive LoaderOrigin
  | systemX86 | gameRoot | other (value : BitVec 32)
deriving DecidableEq

structure LoaderPinSpec where
  origin : LoaderOrigin
  name : String
  bytes : UInt64
  sha256 : BitVec 256
deriving DecidableEq

def maxLoaderFileBytes : UInt64 := 64*1024*1024

def validName (name : String) : Bool :=
  !(name.length < 5 || name.length > 127 || !decide (".dll".toList <:+ name.toList) ||
    decide ("..".toList <:+: name.toList)) &&
  name.toList.all fun c => 'a' ≤ c && c ≤ 'z' || '0' ≤ c && c ≤ '9' || c = '_' || c = '-' || c = '.'

/-- What the constructor is given. -/
structure LoaderRecipe where
  specs : List LoaderPinSpec
  expectedEngine : BitVec 256
  actualEngine : BitVec 256
  gameDirectory : List UInt16
  systemDirectory : List UInt16
  allowBootstrapAsi : Bool := false

/-- The first tests of the loop over the specs. -/
def admissible (allowBootstrapAsi : Bool) (spec : LoaderPinSpec) : Bool :=
  let bootstrapName := allowBootstrapAsi && spec.origin = .gameRoot && spec.name = "saex_bootstrap.asi"
  !(!validName spec.name && !bootstrapName ||
    spec.origin ≠ .systemX86 && spec.origin ≠ .gameRoot || spec.bytes = 0 ||
    spec.bytes > maxLoaderFileBytes || spec.sha256 = 0)

/-- The loop over the specs, with those before and their bytes. -/
def checkSpecs (allowBootstrapAsi : Bool) : List LoaderPinSpec → UInt64 → List LoaderPinSpec →
    Except String Unit
  | _, _, [] => .ok ()
  | done, total, spec :: rest => do
    refuseIf (¬admissible allowBootstrapAsi spec) "loader_policy_spec"
    refuseIf (done.any (·.name = spec.name)) "loader_policy_duplicate"
    refuseIf (total+spec.bytes > 256*1024*1024) "loader_policy_byte_limit"
    checkSpecs allowBootstrapAsi (done++[spec]) (total+spec.bytes) rest

/-- All that comes before the first file is opened. -/
def checkRecipe (r : LoaderRecipe) : Except String Unit := do
  refuseIf (r.expectedEngine ≠ r.actualEngine ∨ r.expectedEngine = 0) "loader_policy_engine_mismatch"
  refuseIf (r.specs = [] ∨ r.specs.length > 64 ∨ r.gameDirectory = [] ∨ r.systemDirectory = [])
    "loader_policy_input"
  checkSpecs r.allowBootstrapAsi [] 0 r.specs

/-- A file system with its state; what it opens is within the budget. -/
structure LoaderFiles (W : Type) where
  openFile : W → List UInt16 → (budget : UInt64) → Option { f : LoaderFileIdentity // f.bytes ≤ budget } × W

structure Opening where
  path : List UInt16
  budget : UInt64

/-- The object, and what it has opened. -/
structure PreparedLoaderPolicy where
  files : List LoaderFileIdentity := []
  error : String := ""
  failedModule : String := ""
  opened : List Opening := []

def PreparedLoaderPolicy.pins (p : PreparedLoaderPolicy) : List LoaderFileIdentity :=
  if p.error = "" then p.files else []

/-- `std::wstring(name.begin(), name.end())` -/
def widened (name : String) : List UInt16 := name.toList.map fun c => .ofNat c.toNat

def LoaderRecipe.path (r : LoaderRecipe) (spec : LoaderPinSpec) : List UInt16 :=
  (if spec.origin = .systemX86 then r.systemDirectory else r.gameDirectory)++92 :: widened spec.name

section Files
variable {W : Type} (system : LoaderFiles W) (r : LoaderRecipe)

/-- The loop over the files, with the bytes that are charged. -/
def pinFiles : UInt64 → PreparedLoaderPolicy → W → List LoaderPinSpec → PreparedLoaderPolicy × W
  | _, p, w, [] => (p,w)
  | charged, p, w, spec :: rest =>
    let budget := 256*1024*1024-charged
    let p := { p with opened := p.opened++[Opening.mk (r.path spec) budget] }
    match system.openFile w (r.path spec) budget with
    | (none,w) =>
      ({ p with error := "loader_policy_file_unavailable", failedModule := spec.name },w)
    | (some actual,w) =>
      if spec.name ≠ actual.1.name ∨ spec.bytes ≠ actual.1.bytes ∨ spec.sha256 ≠ actual.1.sha256 then
        ({ p with error := "loader_policy_file_mismatch", failedModule := spec.name },w)
      else pinFiles (charged+actual.1.bytes) { p with files := p.files++[actual.1] } w rest

/-- The constructor. -/
def prepareLoaderPolicy (w : W) : PreparedLoaderPolicy × W :=
  match checkRecipe r with
  | .error e => ({ error := e },w)
  | .ok () => pinFiles system r 0 {} w r.specs

end Files

/-! What the recipe has to be, in exact arithmetic. -/

def recipeLimit : ℕ := 2^28

def totalBytes (specs : List LoaderPinSpec) : ℕ := (specs.map (·.bytes.toNat)).sum

structure ValidRecipe (r : LoaderRecipe) : Prop where
  engine : r.expectedEngine = r.actualEngine ∧ r.expectedEngine ≠ 0
  count : r.specs ≠ [] ∧ r.specs.length ≤ 64
  directories : r.gameDirectory ≠ [] ∧ r.systemDirectory ≠ []
  spec : ∀ s ∈ r.specs, admissible r.allowBootstrapAsi s
  distinct : (r.specs.map (·.name)).Nodup
  budget : totalBytes r.specs ≤ recipeLimit

theorem admissible_bytes {allow : Bool} {s : LoaderPinSpec} (h : admissible allow s) :
    0 < s.bytes.toNat ∧ s.bytes.toNat ≤ 2^26 := by
  simp only [admissible, Bool.not_eq_true', Bool.or_eq_false_iff, decide_eq_false_iff_not] at h
  obtain ⟨⟨⟨-,hpos⟩,hmost⟩,-⟩ := h
  have hne : s.bytes.toNat ≠ 0 := fun hzero => hpos (UInt64.toNat_inj.mp hzero)
  exact ⟨Nat.pos_of_ne_zero hne,Nat.not_lt.mp hmost⟩

theorem checkSpecs_cons_ok_iff {allow : Bool} {done rest : List LoaderPinSpec} {s : LoaderPinSpec}
    {total : UInt64} (htotal : total.toNat ≤ recipeLimit) :
    checkSpecs allow done total (s :: rest) = .ok () ↔
      admissible allow s ∧ s.name ∉ done.map (·.name) ∧
      total.toNat+s.bytes.toNat ≤ recipeLimit ∧
      checkSpecs allow (done++[s]) (total+s.bytes) rest = .ok () := by
  have hname : done.any (·.name = s.name) ↔ s.name ∈ done.map (·.name) := by
    simp only [List.any_eq_true, decide_eq_true_eq, List.mem_map]
  simp only [checkSpecs, bind_ok_iff, refuseIf_ok_iff, not_not, exists_const, hname]
  refine and_congr_right fun hadmissible => and_congr_right fun _ => and_congr_left' ?_
  have hbytes := admissible_bytes hadmissible
  unfold recipeLimit at htotal ⊢
  have hsum : (total+s.bytes).toNat = total.toNat+s.bytes.toNat := by
    rw [UInt64.toNat_add, Nat.mod_eq_of_lt (by omega)]
  rw [← hsum]
  exact Nat.not_lt

/-- The sum of the loop does not wrap, and the limit at each of its steps is that of the end. -/
theorem checkSpecs_ok_iff {allow : Bool} {done rest : List LoaderPinSpec} {total : UInt64}
    (htotal : total.toNat ≤ recipeLimit) :
    checkSpecs allow done total rest = .ok () ↔
      (∀ s ∈ rest, admissible allow s) ∧
      (∀ s ∈ rest, s.name ∉ done.map (·.name)) ∧ (rest.map (·.name)).Nodup ∧
      total.toNat+totalBytes rest ≤ recipeLimit := by
  induction rest generalizing done total with
  | nil => simpa [checkSpecs, totalBytes] using htotal
  | cons s rest ih =>
    rw [checkSpecs_cons_ok_iff htotal]
    have hsum (h : total.toNat+s.bytes.toNat ≤ recipeLimit) :
        (total+s.bytes).toNat = total.toNat+s.bytes.toNat := by
      unfold recipeLimit at h
      rw [UInt64.toNat_add, Nat.mod_eq_of_lt (by omega)]
    have htotal_cons : totalBytes (s :: rest) = s.bytes.toNat+totalBytes rest := rfl
    simp only [List.forall_mem_cons, List.map_cons, List.nodup_cons, htotal_cons, ← Nat.add_assoc]
    constructor
    · intro ⟨hadmissible,hname,hbudget,hrest⟩
      have hnext := hsum hbudget
      rw [ih (hnext.trans_le hbudget), hnext] at hrest
      obtain ⟨hall,hnames,hnodup,htotal⟩ := hrest
      simp only [List.map_append, List.map_cons, List.map_nil, List.mem_append,
        List.mem_singleton, not_or] at hnames
      refine ⟨⟨hadmissible,hall⟩,⟨hname,fun t ht => (hnames t ht).1⟩,⟨?_,hnodup⟩,htotal⟩
      intro hmem
      obtain ⟨t,ht,heq⟩ := List.mem_map.mp hmem
      exact (hnames t ht).2 heq
    · intro ⟨⟨hadmissible,hall⟩,⟨hname,hnames⟩,⟨hfresh,hnodup⟩,htotal⟩
      have hbudget : total.toNat+s.bytes.toNat ≤ recipeLimit := by omega
      have hnext := hsum hbudget
      refine ⟨hadmissible,hname,hbudget,?_⟩
      rw [ih (hnext.trans_le hbudget), hnext]
      refine ⟨hall,fun t ht => ?_,hnodup,htotal⟩
      simp only [List.map_append, List.map_cons, List.map_nil, List.mem_append,
        List.mem_singleton, not_or]
      exact ⟨hnames t ht,fun heq => hfresh (heq ▸ List.mem_map_of_mem ht)⟩

theorem checkRecipe_ok_iff {r : LoaderRecipe} : checkRecipe r = .ok () ↔ ValidRecipe r := by
  simp only [checkRecipe, bind_ok_iff, refuseIf_ok_iff, not_or, not_not, not_lt, exists_const]
  rw [checkSpecs_ok_iff (by decide)]
  simp only [List.map_nil, List.not_mem_nil, not_false_eq_true, implies_true, true_and]
  rw [show (0 : UInt64).toNat = 0 from rfl, Nat.zero_add]
  constructor
  · intro ⟨hengine,⟨hsome,hcount,hdirectories⟩,hspec,hdistinct,hbudget⟩
    exact ⟨hengine,⟨hsome,hcount⟩,hdirectories,hspec,hdistinct,hbudget⟩
  · intro ⟨hengine,⟨hsome,hcount⟩,hdirectories,hspec,hdistinct,hbudget⟩
    exact ⟨hengine,⟨hsome,hcount,hdirectories⟩,hspec,hdistinct,hbudget⟩

/-- What is refused has a name. -/
theorem checkSpecs_error {allow : Bool} {done rest : List LoaderPinSpec} {total : UInt64} {e : String}
    (h : checkSpecs allow done total rest = .error e) : e ≠ "" := by
  induction rest generalizing done total with
  | nil => cases h
  | cons s rest ih =>
    simp only [checkSpecs, bind_error_iff] at h
    rcases h with h | ⟨-,-,h | ⟨-,-,h | ⟨-,-,h⟩⟩⟩
    · exact (refuseIf_error h).2 ▸ by decide
    · exact (refuseIf_error h).2 ▸ by decide
    · exact (refuseIf_error h).2 ▸ by decide
    · exact ih h

theorem checkRecipe_error {r : LoaderRecipe} {e : String} (h : checkRecipe r = .error e) :
    e ≠ "" := by
  simp only [checkRecipe, bind_error_iff] at h
  rcases h with h | ⟨-,-,h | ⟨-,-,h⟩⟩
  · exact (refuseIf_error h).2 ▸ by decide
  · exact (refuseIf_error h).2 ▸ by decide
  · exact checkSpecs_error h

/-! What is pinned and what is opened. -/

/-- The file is the one that the spec names. -/
def Pins (spec : LoaderPinSpec) (f : LoaderFileIdentity) : Prop :=
  f.name = spec.name ∧ f.bytes = spec.bytes ∧ f.sha256 = spec.sha256

/-- The file at each position is opened for the spec there, with what the specs before it
leave of the limit. -/
def OpenedFor (r : LoaderRecipe) (charged : ℕ) (specs : List LoaderPinSpec) (log : List Opening) :
    Prop :=
  ∀ k o, log[k]? = some o → ∃ s, specs[k]? = some s ∧ o.path = r.path s ∧
    o.budget.toNat+(charged+totalBytes (specs.take k)) = recipeLimit

theorem openedFor_nil {r : LoaderRecipe} {charged : ℕ} {specs : List LoaderPinSpec} :
    OpenedFor r charged specs [] := fun k o h => by simp at h

theorem openedFor_cons {r : LoaderRecipe} {charged : ℕ} {s : LoaderPinSpec}
    {rest : List LoaderPinSpec} {o : Opening} {log : List Opening} (hpath : o.path = r.path s)
    (hbudget : o.budget.toNat+charged = recipeLimit)
    (h : OpenedFor r (charged+s.bytes.toNat) rest log) :
    OpenedFor r charged (s :: rest) (o :: log) := by
  intro k o' ho'
  cases k with
  | zero =>
    cases Option.some.inj ho'
    exact ⟨s,rfl,hpath,hbudget⟩
  | succ k =>
    obtain ⟨t,ht,hpath,hbudget⟩ := h k o' ho'
    refine ⟨t,ht,hpath,?_⟩
    rw [List.take_succ_cons, ← hbudget]
    change o'.budget.toNat+(charged+(s.bytes.toNat+totalBytes (rest.take k))) = _
    omega

section Run
variable {W : Type} {system : LoaderFiles W} {r : LoaderRecipe}

/-- The loop over the files, from a state without an error. -/
theorem pinFiles_run {charged : UInt64} {p : PreparedLoaderPolicy} {w : W}
    {rest : List LoaderPinSpec} (hbudget : charged.toNat+totalBytes rest ≤ recipeLimit) :
    ∃ files log, (pinFiles system r charged p w rest).1.files = p.files++files ∧
      (pinFiles system r charged p w rest).1.opened = p.opened++log ∧
      OpenedFor r charged.toNat rest log ∧
      (p.error = "" → (pinFiles system r charged p w rest).1.error = "" → rest.Forall₂ Pins files) := by
  induction rest generalizing charged p w with
  | nil =>
    exact ⟨[],[],(List.append_nil _).symm,(List.append_nil _).symm,openedFor_nil,fun _ _ => .nil⟩
  | cons s rest ih =>
    have hcharged : charged.toNat+(s.bytes.toNat+totalBytes rest) ≤ recipeLimit := hbudget
    unfold recipeLimit at hcharged
    have hleft : (256*1024*1024-charged : UInt64).toNat+charged.toNat = recipeLimit := by
      have hle : charged ≤ 256*1024*1024 := by
        change charged.toNat ≤ 2^28
        omega
      rw [UInt64.toNat_sub_of_le _ _ hle]
      exact Nat.sub_add_cancel hle
    rw [pinFiles]
    rcases system.openFile w (r.path s) (256*1024*1024-charged) with ⟨answer,w'⟩
    cases answer with
    | none =>
      have hnamed : "loader_policy_file_unavailable" ≠ "" := by decide
      exact ⟨[],[_],(List.append_nil _).symm,rfl,openedFor_cons rfl hleft openedFor_nil,
        fun _ herror => absurd herror hnamed⟩
    | some actual =>
      dsimp only
      split
      · have hnamed : "loader_policy_file_mismatch" ≠ "" := by decide
        exact ⟨[],[_],(List.append_nil _).symm,rfl,openedFor_cons rfl hleft openedFor_nil,
          fun _ herror => absurd herror hnamed⟩
      next hmatch =>
        simp only [not_or, not_not] at hmatch
        obtain ⟨hname,hbytes,hhash⟩ := hmatch
        -- The bytes charged are those of the spec, so that the sum stays within the limit.
        have hnext : (charged+actual.1.bytes).toNat = charged.toNat+s.bytes.toNat := by
          rw [← hbytes, UInt64.toNat_add, Nat.mod_eq_of_lt (by omega)]
        have hrest : (charged+actual.1.bytes).toNat+totalBytes rest ≤ recipeLimit := by
          rw [hnext]
          unfold recipeLimit
          omega
        obtain ⟨files,log,hfiles,hlog,hopened,hpins⟩ := @ih (charged+actual.1.bytes)
          { p with
            files := p.files++[actual.1]
            opened := p.opened++[Opening.mk (r.path s) (256*1024*1024-charged)] } w' hrest
        rw [hnext] at hopened
        refine ⟨actual.1 :: files,Opening.mk (r.path s) (256*1024*1024-charged) :: log,?_,?_,
          openedFor_cons rfl hleft hopened,
          fun hp herror => .cons ⟨hname.symm,hbytes.symm,hhash.symm⟩ (hpins hp herror)⟩
        · rw [hfiles, List.append_assoc, List.singleton_append]
        · rw [hlog, List.append_assoc, List.singleton_append]

/-- The constructor from its start. -/
theorem prepare_run {w : W} (h : checkRecipe r = .ok ()) :
    OpenedFor r 0 r.specs (prepareLoaderPolicy system r w).1.opened ∧
      ((prepareLoaderPolicy system r w).1.error = "" →
        r.specs.Forall₂ Pins (prepareLoaderPolicy system r w).1.files) := by
  have hvalid := checkRecipe_ok_iff.mp h
  have hbudget : (0 : UInt64).toNat+totalBytes r.specs ≤ recipeLimit :=
    (Nat.zero_add _).trans_le hvalid.budget
  obtain ⟨files,log,hfiles,hlog,hopened,hpins⟩ := @pinFiles_run W system r 0 {} w
    r.specs hbudget
  rw [prepareLoaderPolicy, h]
  dsimp only
  rw [hfiles, hlog]
  exact ⟨hopened,hpins rfl⟩

/-- Nothing is opened for a recipe that is refused. -/
theorem prepare_refused {w : W} {e : String} (h : checkRecipe r = .error e) :
    (prepareLoaderPolicy system r w).1.opened = [] ∧
      (prepareLoaderPolicy system r w).1.error = e := by
  rw [prepareLoaderPolicy, h]
  exact ⟨rfl,rfl⟩

theorem opened_valid {w : W} (h : (prepareLoaderPolicy system r w).1.opened ≠ []) :
    ValidRecipe r := by
  cases hcheck : checkRecipe r with
  | ok _ => exact checkRecipe_ok_iff.mp hcheck
  | error e => exact absurd (prepare_refused hcheck).1 h

theorem openedFor_prepare {w : W} :
    OpenedFor r 0 r.specs (prepareLoaderPolicy system r w).1.opened := by
  cases hcheck : checkRecipe r with
  | ok _ => exact (prepare_run hcheck).1
  | error e =>
    rw [(prepare_refused hcheck).1]
    exact openedFor_nil

/-- Without an error there is a pin for each spec. -/
theorem pins_of_no_error {w : W} (h : (prepareLoaderPolicy system r w).1.error = "") :
    r.specs ≠ [] ∧ r.specs.Forall₂ Pins (prepareLoaderPolicy system r w).1.pins := by
  cases hcheck : checkRecipe r with
  | error e =>
    rw [(prepare_refused hcheck).2] at h
    exact absurd h (checkRecipe_error hcheck)
  | ok _ =>
    rw [PreparedLoaderPolicy.pins, if_pos h]
    exact ⟨(checkRecipe_ok_iff.mp hcheck).count.1,(prepare_run hcheck).2 h⟩

theorem pins_ne_nil_iff {w : W} :
    (prepareLoaderPolicy system r w).1.pins ≠ [] ↔ (prepareLoaderPolicy system r w).1.error = "" := by
  constructor
  · intro h
    by_contra herror
    rw [PreparedLoaderPolicy.pins, if_neg herror] at h
    exact h rfl
  · intro h hnil
    obtain ⟨hsome,hpins⟩ := pins_of_no_error h
    rw [hnil] at hpins
    exact hsome (List.forall₂_nil_right_iff.mp hpins)

end Run

end Saex
