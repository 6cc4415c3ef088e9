import Saex.Ia32Kept

/-! Executions that do not come by an address on their way: what a breakpoint there does not see. -/
namespace Ia32
open WrappedMemory

variable {code : Memory} {m m' m'' : Machine} {x : Address}

/-- The execution comes to the machine, and no instruction before it stands at `x`. -/
def ReachesAvoiding (code : Memory) (x : Address) (m m' : Machine) : Prop :=
  ∃ n, run code n m = some m' ∧ ∀ k < n, ∀ between, run code k m = some between → between.eip ≠ x

theorem ReachesAvoiding.reaches (h : ReachesAvoiding code x m m') : Reaches code m m' := by
  obtain ⟨n,hrun,_⟩ := h
  exact ⟨n,hrun⟩

theorem ReachesAvoiding.trans (h : ReachesAvoiding code x m m') (h' : ReachesAvoiding code x m' m'') :
    ReachesAvoiding code x m m'' := by
  obtain ⟨n,hn,hfirst⟩ := h
  obtain ⟨j,hj,hsecond⟩ := h'
  refine ⟨n+j,(run_add hn).trans hj,fun k hk between hbetween => ?_⟩
  by_cases hlt : k < n
  · exact hfirst k hlt between hbetween
  · -- The second part of the way.
    obtain ⟨i,rfl⟩ := Nat.exists_eq_add_of_le (not_lt.mp hlt)
    rw [run_add hn] at hbetween
    exact hsecond i (Nat.lt_of_add_lt_add_left hk) between hbetween

/-- Where the instructions of a listing begin, counted from its first byte. -/
def starts : Listing → List ℕ
  | [] => []
  | x :: xs => 0 :: (starts xs).map (x.1.length+·)

/-- A listing is passed when no instruction of it begins at the address. -/
theorem reachesAvoiding_listing {xs : Listing} {start : Address} (hxs : Straight xs)
    (hcode : HasBytes code start (encoding xs)) (heip : m.eip = start) (h : m.afterAll xs = m')
    (havoid : ∀ d ∈ starts xs, start+BitVec.ofNat 32 d ≠ x) : ReachesAvoiding code x m m' := by
  refine ⟨xs.length,h ▸ run_listing hxs (heip ▸ hcode),?_⟩
  subst heip
  clear h
  induction xs generalizing m with
  | nil => exact fun k hk => absurd hk (Nat.not_lt_zero k)
  | cons y ys ih =>
    intro k hk between hbetween
    cases k with
    | zero =>
      cases hbetween
      have hhead := havoid 0 List.mem_cons_self
      rwa [BitVec.add_zero] at hhead
    | succ k =>
      cases ys with
      | nil => exact absurd hk (by simp)
      | cons z zs =>
        obtain ⟨⟨henc,hseq⟩,hzs⟩ := hxs
        obtain ⟨hcy,hcys⟩ := hasBytes_append.mp hcode
        have heip : (m.after y.2 y.1.length).eip = m.eip+BitVec.ofNat 32 y.1.length := after_eip hseq _
        rw [run, step_of_encodes henc hcy, Option.bind_some] at hbetween
        refine ih (m := m.after y.2 y.1.length) hzs (by rwa [heip]) ?_ k (Nat.lt_of_succ_lt_succ hk)
          between hbetween
        intro d hd
        rw [heip, BitVec.add_assoc, ← BitVec.ofNat_add]
        exact havoid _ (List.mem_cons_of_mem _ (List.mem_map_of_mem hd))

/-- The same, but for the flags. -/
def AvoidsUpToFlags (code : Memory) (x : Address) (m m' : Machine) : Prop :=
  ∃ flags undefined, ReachesAvoiding code x m { m' with flags, undefined }

theorem AvoidsUpToFlags.upToFlags (h : AvoidsUpToFlags code x m m') : ReachesUpToFlags code m m' := by
  obtain ⟨flags,undefined,hreaches⟩ := h
  exact ⟨flags,undefined,hreaches.reaches⟩

theorem avoidsUpToFlags_listing {xs : Listing} {start : Address} (hxs : Straight xs)
    (hcode : HasBytes code start (encoding xs)) (heip : m.eip = start)
    (h : { m.afterAll xs with flags := m'.flags, undefined := m'.undefined } = m')
    (havoid : ∀ d ∈ starts xs, start+BitVec.ofNat 32 d ≠ x) : AvoidsUpToFlags code x m m' := by
  have hreaches := reachesAvoiding_listing hxs hcode heip rfl havoid
  refine ⟨(m.afterAll xs).flags,(m.afterAll xs).undefined,?_⟩
  rwa [← h]

theorem AvoidsUpToFlags.trans (h : AvoidsUpToFlags code x m m')
    (h' : ∀ flags undefined, AvoidsUpToFlags code x { m' with flags, undefined } m'') :
    AvoidsUpToFlags code x m m'' := by
  obtain ⟨flags,undefined,hfirst⟩ := h
  obtain ⟨flags',undefined',hsecond⟩ := h' flags undefined
  exact ⟨flags',undefined',hfirst.trans hsecond⟩

end Ia32
