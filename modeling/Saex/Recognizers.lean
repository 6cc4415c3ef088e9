import Mathlib.Tactic.Common

/-! Fallible computations that settle a question: they return one value where a
condition holds, are refused where it does not, and stop for no other reason. -/
namespace Recognizers

universe u
variable {E : Type*} {A B : Type u} {refusal : E → Prop}

/-- `x` returns `v` exactly where `G` holds, and elsewhere stops with a refusal. -/
structure Recognizes (refusal : E → Prop) (x : Except E A) (G : Prop) (v : A) : Prop where
  accepts : G → x = .ok v
  refuses : ¬G → ∃ e, x = .error e ∧ refusal e

def refuseIf (c : Prop) [Decidable c] (e : E) : Except E PUnit :=
  if c then .error e else .ok ⟨⟩

theorem refuseIf_ok_iff {c : Prop} [Decidable c] {e : E} {a : PUnit} :
    refuseIf c e = .ok a ↔ ¬c := by
  unfold refuseIf
  split
  · rename_i hc
    exact ⟨nofun,fun hn => absurd hc hn⟩
  · rename_i hc
    exact ⟨fun _ => hc,fun _ => rfl⟩

theorem refuseIf_error {c : Prop} [Decidable c] {e e' : E} (h : refuseIf c e = .error e') :
    c ∧ e' = e := by
  unfold refuseIf at h
  split at h
  · rename_i hc
    exact ⟨hc,(Except.error.inj h).symm⟩
  · cases h

namespace Recognizes

theorem of_ok {x : Except E A} {v : A} (h : x = .ok v) : Recognizes refusal x True v :=
  ⟨fun _ => h,fun hn => absurd trivial hn⟩

theorem congr {x : Except E A} {G H : Prop} {v : A} (h : Recognizes refusal x G v) (hG : G ↔ H) :
    Recognizes refusal x H v :=
  ⟨fun hh => h.accepts (hG.mpr hh),fun hh => h.refuses (mt hG.mp hh)⟩

/-- The second computation may use that the first one accepted. -/
theorem bind {x : Except E A} {f : A → Except E B} {G H : Prop} {v : A} {w : B}
    (hx : Recognizes refusal x G v) (hf : G → Recognizes refusal (f v) H w) :
    Recognizes refusal (x >>= f) (G ∧ H) w := by
  constructor
  · intro ⟨hG,hH⟩
    rw [hx.accepts hG]
    exact (hf hG).accepts hH
  · intro hn
    by_cases hG : G
    · rw [hx.accepts hG]
      exact (hf hG).refuses fun hH => hn ⟨hG,hH⟩
    · obtain ⟨e,he,hr⟩ := hx.refuses hG
      exact ⟨e,by rw [he]; rfl,hr⟩

/-- A computation known to succeed leaves the question to what follows. -/
theorem after {x : Except E A} {f : A → Except E B} {H : Prop} {v : A} {w : B}
    (hx : x = .ok v) (hf : Recognizes refusal (f v) H w) : Recognizes refusal (x >>= f) H w := by
  rw [hx]
  exact hf

theorem refuseIf {c : Prop} [Decidable c] {e : E} (he : refusal e) :
    Recognizes refusal (refuseIf c e) (¬c) ⟨⟩ :=
  ⟨fun hc => if_neg hc,fun hc => ⟨e,if_pos (not_not.mp hc),he⟩⟩

theorem ok_iff {x : Except E A} {G : Prop} {v a : A} (h : Recognizes refusal x G v) :
    x = .ok a ↔ G ∧ a = v := by
  by_cases hG : G
  · rw [h.accepts hG]
    exact ⟨fun ha => ⟨hG,(Except.ok.inj ha).symm⟩,fun ha => congrArg _ ha.2.symm⟩
  · obtain ⟨e,he,_⟩ := h.refuses hG
    rw [he]
    exact ⟨nofun,fun ha => absurd ha.1 hG⟩

/-- It stops with nothing but refusals, and only where the condition fails. -/
theorem error {x : Except E A} {G : Prop} {v : A} {e : E} (h : Recognizes refusal x G v)
    (he : x = .error e) : ¬G ∧ refusal e := by
  by_cases hG : G
  · rw [h.accepts hG] at he
    cases he
  · obtain ⟨e',he',hr⟩ := h.refuses hG
    rw [he'] at he
    cases he
    exact ⟨hG,hr⟩

end Recognizes

/-- Independent computations that all succeed succeed together. -/
theorem mapM_ok {I : Type*} {f : I → Except E A} {g : I → A} {xs : List I}
    (h : ∀ i ∈ xs, f i = .ok (g i)) : xs.mapM f = .ok (xs.map g) := by
  induction xs with
  | nil => rfl
  | cons i xs ih =>
    rw [List.mapM_cons, h i List.mem_cons_self, ih fun j hj => h j (List.mem_cons_of_mem i hj)]
    rfl

/-- What is known of each result is known of all of them. -/
theorem of_mapM_ok {I : Type*} {f : I → Except E A} {g : I → A} {P : I → Prop} {xs : List I}
    {ys : List A} (hf : ∀ i v, f i = .ok v → v = g i ∧ P i) (h : xs.mapM f = .ok ys) :
    ys = xs.map g ∧ ∀ i ∈ xs, P i := by
  induction xs generalizing ys with
  | nil =>
    cases h
    exact ⟨rfl,fun _ hi => absurd hi List.not_mem_nil⟩
  | cons i xs ih =>
    rw [List.mapM_cons] at h
    cases hi : f i with
    | error e =>
      rw [hi] at h
      cases h
    | ok v =>
      cases hrest : xs.mapM f with
      | error e =>
        rw [hi, hrest] at h
        cases h
      | ok vs =>
        rw [hi, hrest] at h
        cases h
        obtain ⟨rfl,hp⟩ := hf i v hi
        obtain ⟨rfl,hps⟩ := ih hrest
        exact ⟨rfl,List.forall_mem_cons.mpr ⟨hp,hps⟩⟩

end Recognizers
