import Saex.WorldPlanRules

/-! The names of a valid plan. The patterns end in `$`, which leaves room for one line feed
behind a name; all else that the validator admits is clean. -/
namespace Saex
open Reorderings WorldPlanValidator

/-- Made of `a` to `z`, digits, dots, underscores and dashes. -/
structure CleanName (s : Utf16) : Prop where
  characters : ∀ c ∈ s, nameChar c
  start : ∃ c ∈ s.head?, lowerOrDigit c
  bound : s.length ≤ 128
  noDots : ¬[46,46] <:+: s

/-- The same characters with slashes, and one colon between two parts. -/
structure CleanAssetName (s : Utf16) : Prop where
  characters : ∀ c ∈ s, assetChar c ∨ c = 58
  colon : s.count 58 = 1
  parts : ∃ space name, s = space++58 :: name ∧ (∃ c ∈ space.head?, lowerOrDigit c) ∧
    ∃ c ∈ name.head?, lowerOrDigit c
  noDots : ¬[46,46] <:+: s
  noSlashes : ¬[47,47] <:+: s
  noSlashEnd : s.getLast? ≠ some 47

/-- The world id, the resource ids, what they depend on, provide, require and mutate, and the
capabilities. -/
def WorldPlanInput.names (p : WorldPlanInput) : List (Option Utf16) :=
  some p.worldId :: (p.resources.reduceOption.flatMap fun r =>
      some r.id :: (r.dependencies++r.provides++r.requires++r.mutates)) ++
    p.requiredCapabilities++p.availableCapabilities

/-- The asset ids and what they depend on. -/
def WorldPlanInput.assetNames (p : WorldPlanInput) : List (Option Utf16) :=
  p.assets.reduceOption.flatMap fun a => some a.id :: a.dependencies

def CleanNames (p : WorldPlanInput) : Prop :=
  (∀ n ∈ p.names, ∃ s, n = some s ∧ CleanName s) ∧
    ∀ n ∈ p.assetNames, ∃ s, n = some s ∧ CleanAssetName s

namespace WorldPlanValidator

theorem beforeEnd_of_ne {s : Utf16} (h : s.getLast? ≠ some 10) : beforeEnd s = s := if_neg h

theorem assetChar_of_nameChar {c : UInt16} (h : nameChar c = true) : assetChar c = true := by
  rw [assetChar, h, Bool.true_or]

/-- A class without the line feed has no word that ends in one. -/
theorem getLast?_ne_of_forall {accepted : UInt16 → Prop} {s : Utf16} (h : ∀ c ∈ s, accepted c)
    (hfeed : ¬accepted 10) : s.getLast? ≠ some 10 :=
  fun hlast => hfeed (h 10 (List.mem_of_getLast? hlast))

section Words
variable {accepted : UInt16 → Bool} {s : Utf16} (h : word accepted s = true)
include h

theorem word_start : ∃ c ∈ s.head?, lowerOrDigit c := by
  cases s with
  | nil => cases h
  | cons c cs =>
    rw [word, Bool.and_eq_true] at h
    exact ⟨c,rfl,h.1⟩

theorem word_characters (hstart : ∀ c, lowerOrDigit c → accepted c) : ∀ c ∈ s, accepted c := by
  cases s with
  | nil => cases h
  | cons c cs =>
    rw [word, Bool.and_eq_true, List.all_eq_true] at h
    exact List.forall_mem_cons.mpr ⟨hstart c h.1,h.2⟩

end Words

theorem nameChar_of_lowerOrDigit (c : UInt16) (h : lowerOrDigit c = true) : nameChar c = true := by
  rw [nameChar, h, Bool.true_or, Bool.true_or, Bool.true_or]

theorem assetChar_of_lowerOrDigit (c : UInt16) (h : lowerOrDigit c = true) : assetChar c = true :=
  assetChar_of_nameChar (nameChar_of_lowerOrDigit c h)

theorem cleanName_iff {s : Utf16} (h : identifier (some s) = true) :
    CleanName s ↔ s.getLast? ≠ some 10 := by
  simp only [identifier, Bool.and_eq_true, Bool.not_eq_true', decide_eq_true_eq,
    decide_eq_false_iff_not] at h
  obtain ⟨⟨⟨_,hbound⟩,hword⟩,hdots⟩ := h
  constructor
  · exact fun hclean => getLast?_ne_of_forall hclean.characters (by decide)
  · intro hlast
    rw [beforeEnd_of_ne hlast] at hword
    exact ⟨word_characters hword nameChar_of_lowerOrDigit,word_start hword,hbound,hdots⟩

/-- The two words around the first colon. -/
theorem colonWords_split {s : Utf16} (h : colonWords s = true) : ∃ space name,
    s = space++58 :: name ∧ word nameChar space = true ∧ word assetChar name = true := by
  rw [colonWords, Bool.and_eq_true] at h
  obtain ⟨hspace,hrest⟩ := h
  cases hdrop : s.dropWhile (· ≠ 58) with
  | nil =>
    rw [hdrop] at hrest
    cases hrest
  | cons c name =>
    rw [hdrop] at hrest
    have hcolon : c = 58 := by
      have hhead := List.head?_dropWhile_not (· ≠ 58) s
      rw [hdrop] at hhead
      simpa using hhead
    refine ⟨s.takeWhile (· ≠ 58),name,?_,hspace,hrest⟩
    calc s = s.takeWhile (· ≠ 58)++s.dropWhile (· ≠ 58) := List.takeWhile_append_dropWhile.symm
      _ = s.takeWhile (· ≠ 58)++58 :: name := by rw [hdrop, hcolon]

theorem cleanAssetName_iff {s : Utf16} (h : assetIdentifier (some s) = true) :
    CleanAssetName s ↔ s.getLast? ≠ some 10 := by
  simp only [assetIdentifier, Bool.and_eq_true, Bool.not_eq_true', decide_eq_true_eq,
    decide_eq_false_iff_not] at h
  obtain ⟨⟨⟨⟨_,hwords⟩,hdots⟩,hslashes⟩,hslash⟩ := h
  constructor
  · exact fun hclean => getLast?_ne_of_forall hclean.characters (by decide)
  · intro hlast
    rw [beforeEnd_of_ne hlast] at hwords
    obtain ⟨space,name,rfl,hspace,hname⟩ := colonWords_split hwords
    have hs := word_characters hspace nameChar_of_lowerOrDigit
    have hn := word_characters hname assetChar_of_lowerOrDigit
    have hcount (cs : Utf16) (hcs : ∀ c ∈ cs, assetChar c) : cs.count 58 = 0 :=
      List.count_eq_zero.mpr fun hmem => absurd (hcs 58 hmem) (by decide)
    refine ⟨?_,?_,⟨space,name,rfl,word_start hspace,word_start hname⟩,hdots,hslashes,hslash⟩
    · intro c hc
      rcases List.mem_append.mp hc with hc | hc
      · exact .inl (assetChar_of_nameChar (hs c hc))
      · rcases List.mem_cons.mp hc with rfl | hc
        · exact .inr rfl
        · exact .inl (hn c hc)
    · rw [List.count_append, List.count_cons_self, hcount name hn,
        hcount space fun c hc => assetChar_of_nameChar (hs c hc)]

/-- Every name of a valid plan is admitted as what it names. -/
theorem names_admitted {p : WorldPlanInput} {sourceDigest : Utf16}
    (h : (validate sourceDigest p).valid) :
    (∀ n ∈ p.names, identifier n) ∧ ∀ n ∈ p.assetNames, assetIdentifier n := by
  obtain ⟨_,rs,as,hrs,has,hrules⟩ := rules_of_valid h
  have hrs : rs = p.resources.reduceOption := (eq_map_some_iff.mp hrs).2
  have has : as = p.assets.reduceOption := (eq_map_some_iff.mp has).2
  unfold WorldPlanInput.names WorldPlanInput.assetNames
  rw [← hrs, ← has]
  constructor
  · intro n hn
    simp only [List.mem_append, List.mem_cons, List.mem_flatMap] at hn
    rcases hn with ((rfl | ⟨r,hr,hn⟩) | hn) | hn
    · exact hrules.worldId
    · have hresource := hrules.resources.each r hr
      rcases hn with rfl | ((hn | hn) | hn) | hn
      · exact hresource.id
      · exact hresource.dependencies.identifiers n hn
      · exact hresource.provides.identifiers n hn
      · exact hresource.requires.identifiers n hn
      · exact hresource.mutates.identifiers n hn
    · exact hrules.required.identifiers n hn
    · exact hrules.available.identifiers n hn
  · intro n hn
    obtain ⟨a,ha,hn⟩ := List.mem_flatMap.mp hn
    rcases List.mem_cons.mp hn with rfl | hn
    · exact (hrules.assets.each a ha).id
    · exact (hrules.assets.each a ha).dependencies n hn

/-- Where one predicate admits all names, another says of each what it adds. -/
theorem forall_names_iff {accepted : Option Utf16 → Bool} {clean : Utf16 → Prop}
    (hnone : accepted none = false)
    (hiff : ∀ s, accepted (some s) = true → (clean s ↔ s.getLast? ≠ some 10))
    {names : List (Option Utf16)} (h : ∀ n ∈ names, accepted n = true) :
    (∀ n ∈ names, ∃ s, n = some s ∧ clean s) ↔ ∀ s, some s ∈ names → s.getLast? ≠ some 10 := by
  constructor
  · intro hclean s hs
    obtain ⟨_,heq,hs'⟩ := hclean _ hs
    cases heq
    exact (hiff s (h _ hs)).mp hs'
  · intro hlast n hn
    cases n with
    | none => exact absurd (h none hn) (by simp [hnone])
    | some s => exact ⟨s,rfl,(hiff s (h _ hn)).mpr (hlast s hn)⟩

end WorldPlanValidator

/-- The names of a valid plan are clean exactly when none ends in a line feed. -/
theorem valid_plan_names_clean_iff (sourceDigest : Utf16) (p : WorldPlanInput)
    (h : (validate sourceDigest p).valid) :
    CleanNames p ↔ ∀ s, some s ∈ p.names++p.assetNames → s.getLast? ≠ some 10 := by
  obtain ⟨hnames,hassets⟩ := names_admitted h
  rw [CleanNames, forall_names_iff rfl (fun _ => cleanName_iff) hnames,
    forall_names_iff rfl (fun _ => cleanAssetName_iff) hassets, ← forall_and]
  refine forall_congr' fun s => ?_
  rw [List.mem_append, or_imp]

theorem valid_plan_names_clean_world : (validate [] (harborPlan (utf16 "world"))).valid ∧
    CleanNames (harborPlan (utf16 "world")) := by
  have hvalid := @harborPlan_valid (utf16 "world") (by decide) []
  refine ⟨hvalid,(valid_plan_names_clean_iff [] _ hvalid).mpr ?_⟩
  have hnames : ∀ n ∈ (harborPlan (utf16 "world")).names++(harborPlan (utf16 "world")).assetNames,
      n.bind List.getLast? ≠ some 10 := by
    decide
  exact fun s hs => hnames (some s) hs

/-! A plan of nothing, in a world of any name. -/

def emptyPlan (worldId : Utf16) : WorldPlanInput where
  schemaVersion := 1
  worldId
  resources := []
  assets := []
  requiredCapabilities := []
  availableCapabilities := []
  recovery := ⟨1,1,1,1,1,1,1,0,0⟩

theorem emptyPlan_valid {worldId : Utf16} (h : identifier (some worldId) = true)
    (sourceDigest : Utf16) : (validate sourceDigest (emptyPlan worldId)).valid := by
  have hnames : NameList [] := ⟨by decide,fun n hn => absurd hn List.not_mem_nil,List.nodup_nil⟩
  have hresources : ResourcePlan [] := by
    constructor
    case acyclic =>
      intro k hcycle
      obtain ⟨_,⟨_,hr,_⟩,_⟩ := Relation.TransGen.head'_iff.mp hcycle
      exact absurd hr List.not_mem_nil
    all_goals simp
  have hassets : AssetPlan [] := by
    constructor
    case acyclic =>
      intro k hcycle
      obtain ⟨_,⟨_,ha,_⟩,_⟩ := Relation.TransGen.head'_iff.mp hcycle
      exact absurd ha List.not_mem_nil
    all_goals simp
  have hrecovery : RecoveryRules ⟨1,1,1,1,1,1,1,0,0⟩ := by constructor <;> decide
  have hlimits : WithinLimits (emptyPlan worldId) :=
    ⟨Nat.zero_le _,Nat.zero_le _,Nat.zero_le _,Nat.zero_le _⟩
  exact @valid_of_rules _ _ [] [] hlimits rfl rfl ⟨rfl,h,hresources,hassets,hnames,hnames,
    fun c hc => absurd hc List.not_mem_nil,hrecovery⟩

/-- A world id with a line feed at its end is admitted. -/
theorem line_feed_name_admitted : ¬∀ (sourceDigest : Utf16) (p : WorldPlanInput),
    (validate sourceDigest p).valid → CleanNames p := by
  intro h
  have hvalid := @emptyPlan_valid (utf16 "world\n") (by decide) []
  obtain ⟨s,heq,hclean⟩ := (h [] _ hvalid).1 _ List.mem_cons_self
  cases heq
  exact absurd (hclean.characters 10 (by decide)) (by decide)

end Saex
