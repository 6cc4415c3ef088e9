import Saex.JsonTrees
import Saex.Recognizers
import Saex.StoppingRuns
import Saex.WorldPlan

/-! managed/Saex.Tools/CheckedJson.cs: the check of a document that has been parsed. The
parser of the framework is a parameter; its limit of depth is its own. -/
namespace Saex.CheckedJson
open JsonTree Recognizers StoppingRuns

inductive CheckedJsonError
  | invalidData (message : Utf16)
  /-- An exception of the parser. -/
  | unreadable
deriving DecidableEq

def maxBytes : ℕ := 1024*1024

variable {Leaf : Type}

/-- `--remaining < 0`, at the head of `Inspect`. -/
def spend (remaining : ℤ) : Except CheckedJsonError ℤ :=
  if remaining-1 < 0 then .error (.invalidData (utf16 "json_node_limit")) else .ok (remaining-1)

mutual

/-- `Inspect`, which returns what is left of the budget. -/
def inspect : JsonTree Utf16 Leaf → ℤ → Except CheckedJsonError ℤ
  | .leaf _, remaining => spend remaining
  | .array items, remaining => spend remaining >>= inspectItems items
  | .object members, remaining => spend remaining >>= inspectProperties members []

/-- The loop over the items of an array. -/
def inspectItems : List (JsonTree Utf16 Leaf) → ℤ → Except CheckedJsonError ℤ
  | [], remaining => .ok remaining
  | item :: rest, remaining => inspect item remaining >>= inspectItems rest

/-- The loop over the properties of an object, with the names so far. -/
def inspectProperties : List (Utf16 × JsonTree Utf16 Leaf) → List Utf16 → ℤ →
    Except CheckedJsonError ℤ
  | [], _, remaining => .ok remaining
  | (name,value) :: rest, names, remaining => do
    refuseIf (names.contains name) (.invalidData (utf16 "duplicate_json_property: "++name))
    refuseIf (name.length > 128) (.invalidData (utf16 "json_name_limit"))
    inspect value remaining >>= inspectProperties rest (name :: names)

end

/-- How a call of `Parse` ends, and whether it has disposed of a document. -/
structure ParseRun (Leaf : Type) where
  result : Except CheckedJsonError (JsonTree Utf16 Leaf)
  disposed : Bool

def parse (reader : List UInt8 → Option (JsonTree Utf16 Leaf)) (bytes : List UInt8) : ParseRun Leaf :=
  if bytes.length > maxBytes then ⟨.error (.invalidData (utf16 "json_byte_limit")),false⟩
  else match reader bytes with
    | none => ⟨.error .unreadable,false⟩
    | some root =>
      match inspect root 16384 with
      | .ok _ => ⟨.ok root,false⟩
      | .error e => ⟨.error e,true⟩

/-- The names of an object are distinct and short. -/
def WellNamed : JsonTree Utf16 Leaf → Prop
  | .leaf _ | .array _ => True
  | .object members => (members.map Prod.fst).Nodup ∧ ∀ x ∈ members, x.1.length ≤ 128

/-- A document that `Inspect` passes. -/
structure Admitted (root : JsonTree Utf16 Leaf) : Prop where
  nodes : root.nodes ≤ 16384
  names : Throughout WellNamed root

theorem spend_ok_iff {remaining left : ℤ} :
    spend remaining = .ok left ↔ 1 ≤ remaining ∧ left = remaining-1 := by
  unfold spend
  split
  · rename_i h
    constructor
    · exact fun heq => nomatch heq
    · intro ⟨hle,_⟩
      omega
  · rename_i h
    rw [Except.ok.injEq]
    exact ⟨fun heq => ⟨by omega,heq.symm⟩,fun h => h.2.symm⟩

/-- What is left is the budget less the number of values. -/
def Charged (t : JsonTree Utf16 Leaf) : Prop :=
  ∀ remaining left, inspect t remaining = .ok left ↔
    Throughout WellNamed t ∧ t.nodes ≤ remaining ∧ left = remaining-t.nodes

theorem inspectItems_ok_iff {items : List (JsonTree Utf16 Leaf)} (hitems : ∀ x ∈ items, Charged x)
    (remaining left : ℤ) (h : 0 ≤ remaining) : inspectItems items remaining = .ok left ↔
      (∀ x ∈ items, Throughout WellNamed x) ∧ nodesOfItems items ≤ remaining ∧
      left = remaining-nodesOfItems items := by
  induction items generalizing remaining with
  | nil =>
    rw [inspectItems, nodesOfItems]
    simp [h, eq_comm]
  | cons item rest ih =>
    obtain ⟨hitem,hrest⟩ := List.forall_mem_cons.mp hitems
    rw [inspectItems, bind_ok_iff, nodesOfItems, List.forall_mem_cons]
    constructor
    · rintro ⟨r,hinspect,hloop⟩
      obtain ⟨hwell,hle,rfl⟩ := (hitem _ _).mp hinspect
      obtain ⟨hall,hnodes,rfl⟩ := (ih hrest _ (by omega)).mp hloop
      exact ⟨⟨hwell,hall⟩,by omega,by omega⟩
    · rintro ⟨⟨hwell,hall⟩,hnodes,rfl⟩
      exact ⟨_,(hitem _ _).mpr ⟨hwell,by omega,rfl⟩,
        (ih hrest _ (by omega)).mpr ⟨hall,by omega,by omega⟩⟩

/-- The names so far are those that may not come again. -/
theorem inspectProperties_ok_iff {members : List (Utf16 × JsonTree Utf16 Leaf)}
    (hmembers : ∀ x ∈ members, Charged x.2) (names : List Utf16) (remaining left : ℤ)
    (h : 0 ≤ remaining) : inspectProperties members names remaining = .ok left ↔
      (∀ x ∈ members, x.1 ∉ names) ∧ (members.map Prod.fst).Nodup ∧
      (∀ x ∈ members, x.1.length ≤ 128 ∧ Throughout WellNamed x.2) ∧
      nodesOfMembers members ≤ remaining ∧ left = remaining-nodesOfMembers members := by
  induction members generalizing names remaining with
  | nil =>
    rw [inspectProperties, nodesOfMembers]
    simp [h, eq_comm]
  | cons member rest ih =>
    obtain ⟨name,value⟩ := member
    obtain ⟨(hvalue : Charged value),hvalues⟩ := List.forall_mem_cons.mp hmembers
    rw [inspectProperties, nodesOfMembers, List.map_cons, List.nodup_cons, List.forall_mem_cons,
      List.forall_mem_cons]
    simp only [bind_ok_iff, refuseIf_ok_iff, exists_const, not_lt, List.contains_iff_mem]
    constructor
    · rintro ⟨hfresh,hshort,r,hinspect,hloop⟩
      obtain ⟨hwell,hle,rfl⟩ := (hvalue _ _).mp hinspect
      obtain ⟨hnew,hnodup,hall,hnodes,rfl⟩ := (ih hvalues _ _ (by omega)).mp hloop
      simp only [List.mem_cons, not_or] at hnew
      refine ⟨⟨hfresh,fun x hx => (hnew x hx).2⟩,⟨?_,hnodup⟩,⟨⟨hshort,hwell⟩,hall⟩,
        by omega,by omega⟩
      intro hname
      obtain ⟨x,hx,rfl⟩ := List.mem_map.mp hname
      exact (hnew x hx).1 rfl
    · rintro ⟨⟨hfresh,hnew⟩,⟨hname,hnodup⟩,⟨⟨hshort,hwell⟩,hall⟩,hnodes,rfl⟩
      refine ⟨hfresh,hshort,_,(hvalue _ _).mpr ⟨hwell,by omega,rfl⟩,
        (ih hvalues _ _ (by omega)).mpr ⟨fun x hx => ?_,hnodup,hall,by omega,by omega⟩⟩
      rw [List.mem_cons, not_or]
      exact ⟨fun heq => hname (heq ▸ List.mem_map_of_mem hx),hnew x hx⟩

theorem charged (t : JsonTree Utf16 Leaf) : Charged t := by
  induction t using induct with
  | hleaf v =>
    intro remaining left
    rw [inspect, spend_ok_iff, throughout_leaf, nodes]
    simp [WellNamed]
  | harray items hitems =>
    intro remaining left
    rw [inspect, bind_ok_iff, throughout_array, nodes]
    constructor
    · rintro ⟨r,hspend,hloop⟩
      obtain ⟨hle,rfl⟩ := spend_ok_iff.mp hspend
      obtain ⟨hall,hnodes,rfl⟩ := (inspectItems_ok_iff hitems _ _ (by omega)).mp hloop
      exact ⟨⟨trivial,hall⟩,by omega,by omega⟩
    · rintro ⟨⟨_,hall⟩,hnodes,rfl⟩
      exact ⟨_,spend_ok_iff.mpr ⟨by omega,rfl⟩,
        (inspectItems_ok_iff hitems _ _ (by omega)).mpr ⟨hall,by omega,by omega⟩⟩
  | hobject members hmembers =>
    intro remaining left
    rw [inspect, bind_ok_iff, throughout_object, nodes]
    constructor
    · rintro ⟨r,hspend,hloop⟩
      obtain ⟨hle,rfl⟩ := spend_ok_iff.mp hspend
      obtain ⟨_,hnodup,hall,hnodes,rfl⟩ :=
        (inspectProperties_ok_iff hmembers _ _ _ (by omega)).mp hloop
      exact ⟨⟨⟨hnodup,fun x hx => (hall x hx).1⟩,fun x hx => (hall x hx).2⟩,
        by omega,by omega⟩
    · rintro ⟨⟨⟨hnodup,hshort⟩,hall⟩,hnodes,rfl⟩
      exact ⟨_,spend_ok_iff.mpr ⟨by omega,rfl⟩,
        (inspectProperties_ok_iff hmembers _ _ _ (by omega)).mpr
          ⟨fun _ _ => List.not_mem_nil,hnodup,fun x hx => ⟨hshort x hx,hall x hx⟩,
            by omega,by omega⟩⟩

theorem inspect_isOk_iff (root : JsonTree Utf16 Leaf) :
    (∃ left, inspect root 16384 = .ok left) ↔ Admitted root := by
  constructor
  · intro ⟨left,h⟩
    obtain ⟨hnames,hnodes,_⟩ := (charged root _ _).mp h
    exact ⟨by omega,hnames⟩
  · intro h
    have hnodes := h.nodes
    exact ⟨_,(charged root _ _).mpr ⟨h.names,by omega,rfl⟩⟩

/-- `Parse` returns the admitted documents and disposes of the others. -/
theorem parse_admits (reader : List UInt8 → Option (JsonTree Utf16 Leaf)) (bytes : List UInt8) :
    (∀ root : JsonTree Utf16 Leaf, (∃ left, inspect root 16384 = .ok left) ↔
      root.nodes ≤ 16384 ∧ Throughout WellNamed root) ∧
    (∀ root, (parse reader bytes).result = .ok root ↔
      bytes.length ≤ 1024*1024 ∧ reader bytes = some root ∧ Admitted root) ∧
    ((parse reader bytes).disposed = true ↔
      bytes.length ≤ 1024*1024 ∧ ∃ root, reader bytes = some root ∧ ¬Admitted root) := by
  refine ⟨fun root => ?_,?_⟩
  · rw [inspect_isOk_iff]
    exact ⟨fun h => ⟨h.nodes,h.names⟩,fun h => ⟨h.1,h.2⟩⟩
  unfold parse
  split
  · rename_i hlong
    have hnot : ¬bytes.length ≤ 1024*1024 := not_le.mpr hlong
    simp [hnot]
  rename_i hlong
  have hshort : bytes.length ≤ 1024*1024 := not_lt.mp hlong
  cases hread : reader bytes with
  | none => simp
  | some root =>
    have hiff := inspect_isOk_iff root
    cases hinspect : inspect root 16384 with
    | ok left =>
      have hadmitted : Admitted root := hiff.mp ⟨left,hinspect⟩
      simp only [hinspect, hshort, Except.ok.injEq, Option.some.injEq, true_and]
      constructor
      · exact fun root' => ⟨fun heq => ⟨heq,heq ▸ hadmitted⟩,And.left⟩
      · simp [hadmitted]
    | error e =>
      have hnot : ¬Admitted root := fun h => by
        obtain ⟨left,hok⟩ := hiff.mpr h
        rw [hinspect] at hok
        cases hok
      simp only [hinspect, hshort, Option.some.injEq, true_and]
      constructor
      · intro root'
        constructor
        · intro heq
          cases heq
        · rintro ⟨rfl,h⟩
          exact absurd h hnot
      · simp [hnot]

end Saex.CheckedJson
