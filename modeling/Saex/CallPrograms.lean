import Mathlib.Tactic.Common

/-! Programs that act only through the calls they make, and what a rule for their calls makes of
their runs. A call is answered by the environment, and the answer decides how the program goes
on; which answers are possible may depend on what was called before. -/
namespace CallPrograms

/-- The calls of an environment, each with the answers that fit it. -/
structure Interface where
  Call : Type
  Answer : Call → Type

/-- `cut` ends the part of a run that is looked at: a loop that may wait for ever is followed for
as many rounds as one likes. -/
inductive Program (I : Interface) (A : Type)
  | done (a : A)
  | ask (c : I.Call) (next : I.Answer c → Program I A)
  | cut

namespace Program
variable {I : Interface} {A B : Type}

def bind : Program I A → (A → Program I B) → Program I B
  | done a, f => f a
  | ask c next, f => ask c fun r => (next r).bind f
  | cut, _ => cut

instance : Monad (Program I) where
  pure := done
  bind := bind

/-- One call and its answer. -/
def call (c : I.Call) : Program I (I.Answer c) := ask c done

/-- The result of a program that is done. -/
def outcome : Program I A → Option A
  | done a => some a
  | _ => none

theorem eq_done_of_outcome {p : Program I A} {a : A} (h : p.outcome = some a) : p = .done a := by
  cases p with
  | done b => exact congrArg done (Option.some.inj h)
  | _ => cases h

/-- The program over another interface, each of its calls made by a program of its own. -/
def via {J : Interface} (handle : (c : J.Call) → Program I (J.Answer c)) :
    Program J A → Program I A
  | done a => done a
  | ask c next => handle c >>= fun r => via handle (next r)
  | cut => cut

/-- Whatever is answered, the program comes to its end. -/
def Ends : Program I A → Prop
  | done _ => True
  | ask _ next => ∀ r, Ends (next r)
  | cut => False

theorem Ends.bind {p : Program I A} {f : A → Program I B} (h : p.Ends) (hf : ∀ a, (f a).Ends) :
    (p >>= f).Ends := by
  induction p with
  | done a => exact hf a
  | ask c next ih => exact fun r => ih r (h r)
  | cut => exact h

theorem Ends.call {c : I.Call} {f : I.Answer c → Program I B} (h : ∀ r, (f r).Ends) :
    (Program.call c >>= f).Ends := h

theorem Ends.via {J : Interface} {handle : (c : J.Call) → Program I (J.Answer c)}
    (hh : ∀ c, (handle c).Ends) {p : Program J A} (h : p.Ends) : (p.via handle).Ends := by
  induction p with
  | done a => trivial
  | ask c next ih => exact (hh c).bind fun r => ih r (h r)
  | cut => exact h

end Program

/-- A call with its answer, as it stands in the record of a run. -/
abbrev Exchange (I : Interface) := (c : I.Call) × I.Answer c

section Records
variable {I : Interface} {A B : Type}

/-- What a program has come to once its calls have been answered as in the record. -/
inductive Goes : Program I A → List (Exchange I) → Program I A → Prop
  | here (p : Program I A) : Goes p [] p
  | step {c : I.Call} {next : I.Answer c → Program I A} {r : I.Answer c} {t : List (Exchange I)}
      {p : Program I A} (h : Goes (next r) t p) : Goes (.ask c next) (⟨c,r⟩ :: t) p

/-- The program makes these exchanges and is done with this result. -/
def Returns (p : Program I A) (t : List (Exchange I)) (a : A) : Prop := Goes p t (.done a)

/-- The program may return this after exchanges that begin with the record: what a record that
breaks off does not tell is left open. -/
def Explains (p : Program I A) (t : List (Exchange I)) (a : A) : Prop :=
  ∃ rest, Returns p (t++rest) a

variable {p q : Program I A} {f : A → Program I B} {t u t' u' : List (Exchange I)} {a a' : A} {b : B}

@[simp] theorem returns_done : Returns (.done a : Program I A) t a' ↔ t = [] ∧ a' = a := by
  constructor
  · intro h
    cases h
    exact ⟨rfl,rfl⟩
  · rintro ⟨rfl,rfl⟩
    exact .here _

@[simp] theorem returns_pure : Returns (pure a : Program I A) t a' ↔ t = [] ∧ a' = a := returns_done

theorem returns_ask {c : I.Call} {next : I.Answer c → Program I A} :
    Returns (.ask c next) t a ↔ ∃ r t', t = ⟨c,r⟩ :: t' ∧ Returns (next r) t' a := by
  constructor
  · intro h
    cases h with
    | step h => exact ⟨_,_,rfl,h⟩
  · rintro ⟨r,t',rfl,h⟩
    exact .step h

theorem returns_call {c : I.Call} {f : I.Answer c → Program I B} :
    Returns (Program.call c >>= f) t b ↔ ∃ r t', t = ⟨c,r⟩ :: t' ∧ Returns (f r) t' b := returns_ask

theorem not_returns_cut : ¬Returns (.cut : Program I A) t a := by
  intro h
  cases h

/-- A sequence splits its record where the second part begins. -/
theorem returns_bind :
    Returns (p >>= f) t b ↔ ∃ t₁ a t₂, t = t₁++t₂ ∧ Returns p t₁ a ∧ Returns (f a) t₂ b := by
  induction p generalizing t with
  | done a =>
    constructor
    · exact fun h => ⟨[],a,t,rfl,.here _,h⟩
    · rintro ⟨t₁,a',t₂,rfl,h₁,h₂⟩
      obtain ⟨rfl,rfl⟩ := returns_done.mp h₁
      exact h₂
  | ask c next ih =>
    constructor
    · intro h
      obtain ⟨r,t',rfl,hnext⟩ := returns_ask.mp h
      obtain ⟨t₁,a,t₂,rfl,h₁,h₂⟩ := (ih r).mp hnext
      exact ⟨⟨c,r⟩ :: t₁,a,t₂,rfl,.step h₁,h₂⟩
    · rintro ⟨t₁,a,t₂,rfl,h₁,h₂⟩
      obtain ⟨r,t',rfl,hnext⟩ := returns_ask.mp h₁
      exact .step ((ih r).mpr ⟨t',a,t₂,rfl,hnext,h₂⟩)
  | cut =>
    constructor
    · exact fun h => absurd h not_returns_cut
    · rintro ⟨t₁,a,t₂,-,h₁,-⟩
      exact absurd h₁ not_returns_cut

/-- The answers decide how a program goes on: no record of one is the beginning of another. -/
theorem Returns.unique (h : Returns p t a) (h' : Returns p t' a') (ht : t++u = t'++u') :
    t = t' ∧ u = u' ∧ a = a' := by
  induction p generalizing t t' with
  | done =>
    obtain ⟨rfl,rfl⟩ := returns_done.mp h
    obtain ⟨rfl,rfl⟩ := returns_done.mp h'
    exact ⟨rfl,ht,rfl⟩
  | ask c next ih =>
    obtain ⟨r,t,rfl,hr⟩ := returns_ask.mp h
    obtain ⟨r',t',rfl,hr'⟩ := returns_ask.mp h'
    obtain ⟨hx,htail⟩ := List.cons.inj ht
    cases hx
    obtain ⟨rfl,hu,ha⟩ := ih r hr hr' htail
    exact ⟨rfl,hu,ha⟩
  | cut => exact absurd h not_returns_cut

theorem Goes.trans {r : Program I A} (h : Goes p t q) (hq : Goes q u r) : Goes p (t++u) r := by
  induction h with
  | here => exact hq
  | step _ ih => exact .step (ih hq)

theorem Goes.bind (h : Goes p t q) : Goes (p >>= f) t (q >>= f) := by
  induction h with
  | here => exact .here _
  | step _ ih => exact .step ih

theorem Goes.call {c : I.Call} {f : I.Answer c → Program I B} {r : I.Answer c} {p : Program I B}
    (h : Goes (f r) t p) : Goes (Program.call c >>= f) (⟨c,r⟩ :: t) p := .step h

/-- What follows a part that has returned. -/
theorem Returns.goes_bind (h : Returns p t a) {r : Program I B} (hf : Goes (f a) u r) :
    Goes (p >>= f) (t++u) r := Goes.trans h.bind hf

theorem Goes.ends (h : Goes p t q) (hp : p.Ends) : q.Ends := by
  induction h with
  | here => exact hp
  | step _ ih => exact ih (hp _)

/-- A program that always comes to its end can go on from wherever it is. -/
theorem Goes.explains [hanswer : ∀ c, Nonempty (I.Answer c)] (h : Goes p t q) (hp : p.Ends) :
    ∃ a, Explains p t a := by
  have hreturns : ∃ rest a, Returns q rest a := by
    have hq := h.ends hp
    clear h
    induction q with
    | done a => exact ⟨[],a,.here _⟩
    | ask c next ih =>
      obtain ⟨r⟩ := hanswer c
      obtain ⟨rest,a,hrest⟩ := ih r (hq r)
      exact ⟨_,a,.step hrest⟩
    | cut => exact hq.elim
  obtain ⟨rest,a,hrest⟩ := hreturns
  exact ⟨a,rest,h.trans hrest⟩

theorem Returns.explains (h : Returns p t a) : Explains p t a := ⟨[],by rwa [List.append_nil]⟩

/-- A record that is whole leaves nothing open. -/
theorem Explains.eq_of_returns (h : Explains p t a) (h' : Returns p t a') : a = a' := by
  obtain ⟨rest,h⟩ := h
  exact (h.unique h' (List.append_nil (t++rest))).2.2

theorem explains_bind (h : Returns p t a) : Explains (p >>= f) (t++u) b ↔ Explains (f a) u b := by
  constructor
  · rintro ⟨rest,hrest⟩
    obtain ⟨t₁,a',t₂,ht,h₁,h₂⟩ := returns_bind.mp hrest
    rw [List.append_assoc] at ht
    obtain ⟨-,rfl,rfl⟩ := h.unique h₁ ht
    exact ⟨rest,h₂⟩
  · rintro ⟨rest,hrest⟩
    refine ⟨rest,returns_bind.mpr ⟨t,a,u++rest,?_,h,hrest⟩⟩
    rw [List.append_assoc]

theorem explains_call {c : I.Call} {f : I.Answer c → Program I B} {r : I.Answer c} :
    Explains (Program.call c >>= f) (⟨c,r⟩ :: t) b ↔ Explains (f r) t b :=
  @explains_bind _ _ _ (Program.call c) f [⟨c,r⟩] t r b (.step (.here _))

end Records

/-- What an environment remembers, which calls are in order then, which answers it may give, and
what it remembers of them. -/
structure Environment (I : Interface) (W : Type) where
  admits : W → I.Call → Prop
  answers : W → (c : I.Call) → I.Answer c → Prop
  after : W → (c : I.Call) → I.Answer c → W

section Runs
variable {I : Interface} {A B W : Type} {E : Environment I W}

/-- The runs of a program, as far as they have come, with the record of their calls. -/
inductive Reaches (E : Environment I W) :
    Program I A → W → List (Exchange I) → Program I A → W → Prop
  | here (p : Program I A) (w : W) : Reaches E p w [] p w
  | step {c : I.Call} {next : I.Answer c → Program I A} {w w' : W} {r : I.Answer c}
      {t : List (Exchange I)} {p : Program I A} (hr : E.answers w c r)
      (ht : Reaches E (next r) (E.after w c r) t p w') : Reaches E (.ask c next) w (⟨c,r⟩ :: t) p w'

theorem Reaches.goes {p p' : Program I A} {w w' : W} {t : List (Exchange I)}
    (h : Reaches E p w t p' w') : Goes p t p' := by
  induction h with
  | here => exact .here _
  | step _ _ ih => exact .step ih

/-- Whatever is answered, the program makes no call that is out of order, and where it is done,
`Q` holds. -/
def Safe (E : Environment I W) (Q : A → W → Prop) : Program I A → W → Prop
  | .done a, w => Q a w
  | .ask c next, w => E.admits w c ∧ ∀ r, E.answers w c r → Safe E Q (next r) (E.after w c r)
  | .cut, _ => True

variable {Q : A → W → Prop} {w w' : W} {p p' : Program I A} {t : List (Exchange I)}

/-- A safe program is safe wherever it has come. -/
theorem Safe.reached (h : Safe E Q p w) (hp : Reaches E p w t p' w') : Safe E Q p' w' := by
  induction hp with
  | here => exact h
  | step hr _ ih => exact ih (h.2 _ hr)

theorem Safe.admits {c : I.Call} {next : I.Answer c → Program I A} (h : Safe E Q p w)
    (hp : Reaches E p w t (.ask c next) w') : E.admits w' c := (h.reached hp).1

theorem Safe.returned {a : A} (h : Safe E Q p w) (hp : Reaches E p w t (.done a) w') : Q a w' :=
  h.reached hp

/-- Each call in the record of a run was in order after the calls before it. -/
theorem Safe.recorded (h : Safe E Q p w) (hp : Reaches E p w t p' w') {past rest : List (Exchange I)}
    {x : Exchange I} (ht : t = past++x :: rest) :
    E.admits (past.foldl (fun w x => E.after w x.1 x.2) w) x.1 := by
  induction hp generalizing past with
  | here => exact absurd ht.symm (List.append_ne_nil_of_right_ne_nil _ (List.cons_ne_nil _ _))
  | step hr _ ih =>
    cases past with
    | nil =>
      obtain ⟨rfl,-⟩ := List.cons.inj ht
      exact h.1
    | cons y past =>
      obtain ⟨hy,htail⟩ := List.cons.inj ht
      subst hy
      exact ih (h.2 _ hr) htail

/-! Rules. -/

theorem Safe.mono {Q' : A → W → Prop} (hQ : ∀ a w, Q a w → Q' a w) (h : Safe E Q p w) :
    Safe E Q' p w := by
  induction p generalizing w with
  | done a => exact hQ a w h
  | ask c next ih => exact ⟨h.1,fun r hr => ih r (h.2 r hr)⟩
  | cut => trivial

theorem Safe.bind {R : B → W → Prop} {f : A → Program I B}
    (h : Safe E (fun a w => Safe E R (f a) w) p w) : Safe E R (p >>= f) w := by
  induction p generalizing w with
  | done a => exact h
  | ask c next ih => exact ⟨h.1,fun r hr => ih r (h.2 r hr)⟩
  | cut => trivial

theorem Safe.call {R : B → W → Prop} {c : I.Call} {f : I.Answer c → Program I B}
    (hc : E.admits w c) (h : ∀ r, E.answers w c r → Safe E R (f r) (E.after w c r)) :
    Safe E R (Program.call c >>= f) w := ⟨hc,h⟩

/-- What no call that is in order takes back still holds at the end. -/
theorem Safe.keep (K : W → Prop) (hK : ∀ w c r, E.admits w c → K w → K (E.after w c r))
    (h : Safe E Q p w) (hw : K w) : Safe E (fun a w => Q a w ∧ K w) p w := by
  induction p generalizing w with
  | done a => exact ⟨h,hw⟩
  | ask c next ih => exact ⟨h.1,fun r hr => ih r (h.2 r hr) (hK w c r h.1 hw)⟩
  | cut => trivial

/-- What the programs that make the calls keep, the program over them keeps. -/
theorem Safe.via {J : Interface} {handle : (c : J.Call) → Program I (J.Answer c)} {K : W → Prop}
    (h : ∀ c w, K w → Safe E (fun _ w' => K w') (handle c) w) {p : Program J A} (hw : K w) :
    Safe E (fun _ w' => K w') (p.via handle) w := by
  induction p generalizing w with
  | done a => exact hw
  | ask c next ih => exact Safe.bind ((h c w hw).mono fun r _ hw' => ih r hw')
  | cut => trivial

end Runs

/-! Runs against an environment that chooses its answers by a function. -/
section Chosen
variable {I : Interface} {A W : Type}

/-- The first `n` exchanges of a run, where the answers are those of `choose`. -/
def chosen (after : W → (c : I.Call) → I.Answer c → W) (choose : W → (c : I.Call) → I.Answer c) :
    ℕ → Program I A → W → Program I A × W × List (Exchange I)
  | n+1, .ask c next, w =>
    let r := choose w c
    let x := chosen after choose n (next r) (after w c r)
    (x.1,x.2.1,⟨c,r⟩ :: x.2.2)
  | _, p, w => (p,w,[])

theorem reaches_chosen {E : Environment I W} {choose : W → (c : I.Call) → I.Answer c}
    (h : ∀ w c, E.answers w c (choose w c)) (n : ℕ) (p : Program I A) (w : W) :
    Reaches E p w (chosen E.after choose n p w).2.2 (chosen E.after choose n p w).1
      (chosen E.after choose n p w).2.1 := by
  induction n generalizing p w with
  | zero => cases p <;> exact .here _ _
  | succ n ih =>
    cases p with
    | done a => exact .here _ _
    | ask c next => exact .step (h w c) (ih _ _)
    | cut => exact .here _ _

end Chosen
end CallPrograms
