import Mathlib.Tactic.Common

/-! Trees of the shape of JSON values, over any names and any scalars: arrays of items and
objects of named members, where a name may come more than once. -/

inductive JsonTree (Name Leaf : Type*)
  | leaf (value : Leaf)
  | array (items : List (JsonTree Name Leaf))
  | object (members : List (Name × JsonTree Name Leaf))

namespace JsonTree
variable {Name Leaf : Type*}

mutual

/-- How many values the tree is made of, itself among them. -/
def nodes : JsonTree Name Leaf → ℕ
  | leaf _ => 1
  | array items => nodesOfItems items+1
  | object members => nodesOfMembers members+1

def nodesOfItems : List (JsonTree Name Leaf) → ℕ
  | [] => 0
  | x :: rest => nodes x+nodesOfItems rest

def nodesOfMembers : List (Name × JsonTree Name Leaf) → ℕ
  | [] => 0
  | (_,x) :: rest => nodes x+nodesOfMembers rest

end

/-- Induction over the trees, with what holds of the items and of the members. -/
theorem induct {motive : JsonTree Name Leaf → Prop} (hleaf : ∀ v, motive (leaf v))
    (harray : ∀ items, (∀ x ∈ items, motive x) → motive (array items))
    (hobject : ∀ members, (∀ x ∈ members, motive x.2) → motive (object members))
    (t : JsonTree Name Leaf) : motive t := by
  refine @JsonTree.rec Name Leaf motive (∀ x ∈ ·, motive x) (∀ x ∈ ·, motive x.2)
    (fun x => motive x.2) hleaf harray hobject ?_ ?_ ?_ ?_ (fun _ _ h => h) t
  · exact fun _ hx => absurd hx List.not_mem_nil
  · exact fun _ _ hitem hrest => List.forall_mem_cons.mpr ⟨hitem,hrest⟩
  · exact fun _ hx => absurd hx List.not_mem_nil
  · exact fun _ _ hmember hrest => List.forall_mem_cons.mpr ⟨hmember,hrest⟩

/-- A tree stands in itself and in all that holds it, at any depth. -/
inductive Within (t : JsonTree Name Leaf) : JsonTree Name Leaf → Prop
  | refl : Within t t
  | item {x : JsonTree Name Leaf} {items : List (JsonTree Name Leaf)} :
      x ∈ items → Within t x → Within t (array items)
  | member {name : Name} {x : JsonTree Name Leaf} {members : List (Name × JsonTree Name Leaf)} :
      (name,x) ∈ members → Within t x → Within t (object members)

/-- What holds of a tree and of all that stands in it. -/
def Throughout (P : JsonTree Name Leaf → Prop) (u : JsonTree Name Leaf) : Prop :=
  ∀ t, Within t u → P t

variable {P : JsonTree Name Leaf → Prop}

theorem throughout_leaf {v : Leaf} : Throughout P (leaf v) ↔ P (leaf v) := by
  constructor
  · exact fun h => h _ .refl
  · intro h t ht
    cases ht
    exact h

theorem throughout_array {items : List (JsonTree Name Leaf)} :
    Throughout P (array items) ↔ P (array items) ∧ ∀ x ∈ items, Throughout P x := by
  constructor
  · exact fun h => ⟨h _ .refl,fun x hx t ht => h t (.item hx ht)⟩
  · intro ⟨hself,hitems⟩ t ht
    cases ht with
    | refl => exact hself
    | item hx ht => exact hitems _ hx t ht

theorem throughout_object {members : List (Name × JsonTree Name Leaf)} :
    Throughout P (object members) ↔ P (object members) ∧ ∀ x ∈ members, Throughout P x.2 := by
  constructor
  · exact fun h => ⟨h _ .refl,fun x hx t ht => h t (.member hx ht)⟩
  · intro ⟨hself,hmembers⟩ t ht
    cases ht with
    | refl => exact hself
    | member hx ht => exact hmembers _ hx t ht

end JsonTree
