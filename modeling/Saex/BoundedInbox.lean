import Mathlib.Data.BitVec
import Saex.BoundedFifo
import Saex.Contracts

/-! The ingress queue of core/bounded_inbox.cpp on `w`-bit sizes, and its
refinement of the ideal bounded queue. Every call holds the mutex, so any
interleaving of callers is one sequence of calls. -/
namespace Saex
open Transitions

inductive Admission
  | admitted | closed | invalidEpoch | itemLimit | byteLimit
deriving DecidableEq

/-- A byte string whose length is a `size_t`. -/
abbrev Payload (w : ℕ) := { bytes : List UInt8 // bytes.length < 2^w }

def Payload.size {w : ℕ} (p : Payload w) : BitVec w := BitVec.ofNat w p.1.length

structure IngressCommand (w : ℕ) where
  resource : ResourceEpoch
  payload : Payload w
deriving DecidableEq

structure InboxUsage (w : ℕ) where
  items : BitVec w
  chargedBytes : BitVec w
  closed : Bool
deriving DecidableEq

structure BoundedInbox (w : ℕ) where
  maxItems : BitVec w
  maxBytes : BitVec w
  queue : List (IngressCommand w) := []
  bytes : BitVec w := 0
  closed : Bool := false
deriving DecidableEq

@[simp] theorem Payload.size_toNat {w : ℕ} (p : Payload w) : p.size.toNat = p.1.length := by
  rw [size, BitVec.toNat_ofNat, Nat.mod_eq_of_lt p.2]

inductive InboxCall (w : ℕ)
  | push (resource : ResourceEpoch) (payload : Payload w)
  | pop
  | close

inductive InboxAnswer (w : ℕ)
  | pushed (a : Admission)
  | popped (command : Option (IngressCommand w))
  | done

namespace BoundedInbox

-- `charge` is `command_charge`, the size of an `IngressCommand`
variable {w : ℕ} (charge : BitVec w)

/-- The constructor; `none` is the thrown exception. -/
def create (maxItems maxBytes : BitVec w) : Option (BoundedInbox w) :=
  if maxItems = 0 || maxBytes < charge then none else some { maxItems, maxBytes }

/-- `queue_.size()`. -/
def size (b : BoundedInbox w) : BitVec w := BitVec.ofNat w b.queue.length

def push (b : BoundedInbox w) (resource : ResourceEpoch) (payload : Payload w) :
    BoundedInbox w × Admission :=
  if b.closed then (b,.closed)
  else if resource.value = 0 then (b,.invalidEpoch)
  else if b.size ≥ b.maxItems then (b,.itemLimit)
  else
    let remaining := b.maxBytes-b.bytes
    if remaining < charge || payload.size > remaining-charge then (b,.byteLimit)
    else
      ({ b with
        queue := b.queue ++ [⟨resource,payload⟩]
        bytes := b.bytes+(charge+payload.size) },.admitted)

def pop (b : BoundedInbox w) : BoundedInbox w × Option (IngressCommand w) :=
  match b.queue with
  | [] => (b,none)
  | command :: rest =>
    ({ b with queue := rest, bytes := b.bytes-(charge+command.payload.size) },some command)

def usage (b : BoundedInbox w) : InboxUsage w := ⟨b.size,b.bytes,b.closed⟩

def close (b : BoundedInbox w) : BoundedInbox w := { b with closed := true }

def step (b : BoundedInbox w) : InboxCall w → BoundedInbox w × InboxAnswer w
  | .push resource payload => let r := b.push charge resource payload; (r.1,.pushed r.2)
  | .pop => let r := b.pop charge; (r.1,.popped r.2)
  | .close => (b.close,.done)

/-- The limits of the inbox in natural numbers. -/
def limits (maxItems maxBytes : BitVec w) : BoundedFifo.Limits (IngressCommand w) where
  fit c := c.resource.value ≠ 0
  weight c := charge.toNat+c.payload.1.length
  maxItems := maxItems.toNat
  maxWeight := maxBytes.toNat

/-- The exact charge of the queued commands. -/
def queuedCharge (queue : List (IngressCommand w)) : ℕ :=
  (queue.map fun c => charge.toNat+c.payload.1.length).sum

/-- The machine counters of the inbox count exactly what is queued. -/
structure Accounted (b : BoundedInbox w) : Prop where
  items : b.queue.length ≤ b.maxItems.toNat
  bytes : b.bytes.toNat = queuedCharge charge b.queue
  within : queuedCharge charge b.queue ≤ b.maxBytes.toNat

theorem queuedCharge_concat (queue : List (IngressCommand w)) (c : IngressCommand w) :
    queuedCharge charge (queue ++ [c]) =
      queuedCharge charge queue+(charge.toNat+c.payload.1.length) :=
  BoundedFifo.load_concat (limits charge 0 0) queue c

theorem queuedCharge_cons (c : IngressCommand w) (queue : List (IngressCommand w)) :
    queuedCharge charge (c :: queue) =
      charge.toNat+c.payload.1.length+queuedCharge charge queue :=
  BoundedFifo.load_cons (limits charge 0 0) c queue

variable {charge}

theorem Accounted.size_toNat {b : BoundedInbox w} (h : b.Accounted charge) :
    b.size.toNat = b.queue.length := by
  rw [size, BitVec.toNat_ofNat, Nat.mod_eq_of_lt]
  exact h.items.trans_lt b.maxItems.isLt

theorem Accounted.remaining_toNat {b : BoundedInbox w} (h : b.Accounted charge) :
    (b.maxBytes-b.bytes).toNat = b.maxBytes.toNat-queuedCharge charge b.queue := by
  rw [BitVec.toNat_sub_of_le (BitVec.le_def.mpr (h.bytes ▸ h.within)), h.bytes]

/-- The test that avoids overflow is the mathematical one. -/
theorem Accounted.byteLimit_iff {b : BoundedInbox w} (h : b.Accounted charge) (p : Payload w) :
    (b.maxBytes-b.bytes < charge || p.size > b.maxBytes-b.bytes-charge) = true ↔
      b.maxBytes.toNat < queuedCharge charge b.queue+(charge.toNat+p.1.length) := by
  have hw := h.within
  have hr := h.remaining_toNat
  rw [Bool.or_eq_true, decide_eq_true_eq, decide_eq_true_eq, gt_iff_lt, BitVec.lt_def, hr]
  by_cases hc : b.maxBytes.toNat-queuedCharge charge b.queue < charge.toNat
  · omega
  · have hs : (b.maxBytes-b.bytes-charge).toNat =
        b.maxBytes.toNat-queuedCharge charge b.queue-charge.toNat := by
      rw [BitVec.toNat_sub_of_le (BitVec.le_def.mpr (by omega)), hr]
    rw [BitVec.lt_def, hs, p.size_toNat]
    omega

/-- The sum charged for a command that fits the byte limit does not wrap. -/
theorem charge_add_size {b : BoundedInbox w} {p : Payload w}
    (h : charge.toNat+p.1.length ≤ b.maxBytes.toNat) :
    (charge+p.size).toNat = charge.toNat+p.1.length := by
  have := b.maxBytes.isLt
  rw [BitVec.toNat_add_of_lt (by rw [p.size_toNat]; omega), p.size_toNat]

/-- What the inbox is for: the queue it holds and whether it still takes more. -/
def ideal (b : BoundedInbox w) : BoundedFifo.Fifo (IngressCommand w) := ⟨b.queue,b.closed⟩

def admissionOf : BoundedFifo.Verdict → Admission
  | .admitted => .admitted
  | .shut => .closed
  | .unfit => .invalidEpoch
  | .full => .itemLimit
  | .heavy => .byteLimit

/-- The verdict of the ideal queue, in natural arithmetic. -/
def idealVerdict (charge : BitVec w) (b : BoundedInbox w) (resource : ResourceEpoch)
    (payload : Payload w) : BoundedFifo.Verdict :=
  BoundedFifo.verdict (limits charge b.maxItems b.maxBytes) b.ideal ⟨resource,payload⟩

def idealCall : InboxCall w → BoundedFifo.Call (IngressCommand w)
  | .push resource payload => .offer ⟨resource,payload⟩
  | .pop => .take
  | .close => .shut

def answerOf : BoundedFifo.Answer (IngressCommand w) → InboxAnswer w
  | .offered v => .pushed (admissionOf v)
  | .taken command => .popped command
  | .done => .done

theorem admissionOf_eq_admitted_iff (v : BoundedFifo.Verdict) :
    admissionOf v = .admitted ↔ v = .admitted := by
  cases v <;> simp [admissionOf]

theorem idealVerdict_eq (b : BoundedInbox w) (resource : ResourceEpoch) (payload : Payload w) :
    b.idealVerdict charge resource payload =
      if b.closed then .shut
      else if resource.value = 0 then .unfit
      else if b.maxItems.toNat ≤ b.queue.length then .full
      else if b.maxBytes.toNat < queuedCharge charge b.queue+(charge.toNat+payload.1.length)
        then .heavy
      else .admitted := by
  simp only [idealVerdict, BoundedFifo.verdict, ideal, limits, ne_eq, decide_not, Bool.not_not,
    decide_eq_true_eq]
  rfl

/-- `push` said through the ideal verdict: only an admitted command moves the state. -/
theorem Accounted.push_eq {b : BoundedInbox w} (h : b.Accounted charge) (resource : ResourceEpoch)
    (payload : Payload w) : b.push charge resource payload =
      (if b.idealVerdict charge resource payload = .admitted then
        { b with
          queue := b.queue ++ [⟨resource,payload⟩]
          bytes := b.bytes+(charge+payload.size) }
      else b,admissionOf (b.idealVerdict charge resource payload)) := by
  have hitems : b.size ≥ b.maxItems ↔ b.maxItems.toNat ≤ b.queue.length := by
    rw [ge_iff_le, BitVec.le_def, h.size_toNat]
  simp only [push, idealVerdict_eq, hitems, h.byteLimit_iff payload]
  split_ifs <;> first | rfl | contradiction

theorem Accounted.push {b : BoundedInbox w} (h : b.Accounted charge) (resource : ResourceEpoch)
    (payload : Payload w) : (b.push charge resource payload).1.Accounted charge := by
  rw [h.push_eq]
  split
  · rename_i hv
    obtain ⟨_,_,hi,hw⟩ := (BoundedFifo.verdict_admitted_iff _ _ _).mp hv
    have hw : queuedCharge charge b.queue+(charge.toNat+payload.1.length) ≤ b.maxBytes.toNat := hw
    -- What is let in fits under the limit, which is a word itself: no sum wraps.
    have hlt := b.maxBytes.isLt
    have hsum : (charge+payload.size).toNat = charge.toNat+payload.1.length :=
      charge_add_size (b := b) (by omega)
    refine ⟨?_,?_,?_⟩
    · rw [List.length_append]
      exact Nat.succ_le_of_lt hi
    · rw [queuedCharge_concat, BitVec.toNat_add_of_lt (by rw [h.bytes, hsum]; omega), h.bytes, hsum]
    · rw [queuedCharge_concat]
      exact hw
  · exact h

theorem Accounted.head_le {b : BoundedInbox w} (h : b.Accounted charge) {c : IngressCommand w}
    {rest : List (IngressCommand w)} (hq : b.queue = c :: rest) :
    charge.toNat+c.payload.1.length+queuedCharge charge rest = b.bytes.toNat := by
  rw [h.bytes, hq, queuedCharge_cons]

theorem Accounted.head_charge {b : BoundedInbox w} (h : b.Accounted charge) {c : IngressCommand w}
    {rest : List (IngressCommand w)} (hq : b.queue = c :: rest) :
    (charge+c.payload.size).toNat = charge.toNat+c.payload.1.length := by
  have hb := h.head_le hq
  have hw := h.within
  rw [← h.bytes] at hw
  exact charge_add_size (b := b) (by omega)

theorem Accounted.pop {b : BoundedInbox w} (h : b.Accounted charge) :
    (b.pop charge).1.Accounted charge := by
  unfold BoundedInbox.pop
  split
  · exact h
  · rename_i c rest hq
    have hb := h.head_le hq
    have hc := h.head_charge hq
    have hi := h.items
    have hw := h.within
    rw [← h.bytes] at hw
    rw [hq, List.length_cons] at hi
    refine ⟨Nat.le_of_succ_le hi,?_,?_⟩
    · rw [BitVec.toNat_sub_of_le (BitVec.le_def.mpr (by omega)), hc]
      simp only
      omega
    · simp only
      omega

/-- The relation carried along: the counters are exact, and forgetting them
leaves the ideal queue. -/
structure Refines (charge maxItems maxBytes : BitVec w) (b : BoundedInbox w)
    (f : BoundedFifo.Fifo (IngressCommand w)) : Prop where
  accounted : b.Accounted charge
  maxItems : b.maxItems = maxItems
  maxBytes : b.maxBytes = maxBytes
  ideal : f = b.ideal

theorem push_refines {b : BoundedInbox w} (ha : b.Accounted charge) (resource : ResourceEpoch)
    (payload : Payload w) :
    Refines charge b.maxItems b.maxBytes (b.push charge resource payload).1
      (BoundedFifo.step (limits charge b.maxItems b.maxBytes) b.ideal
        (.offer ⟨resource,payload⟩)).1 := by
  have hp := ha.push resource payload
  have hideal : BoundedFifo.verdict (limits charge b.maxItems b.maxBytes) b.ideal
      ⟨resource,payload⟩ = b.idealVerdict charge resource payload := rfl
  rw [ha.push_eq] at hp ⊢
  simp only [BoundedFifo.step, hideal]
  by_cases hv : b.idealVerdict charge resource payload = .admitted
  · rw [if_pos hv] at hp ⊢
    rw [if_pos hv]
    exact ⟨hp,rfl,rfl,rfl⟩
  · rw [if_neg hv, if_neg hv]
    exact ⟨ha,rfl,rfl,rfl⟩

theorem pop_refines {b : BoundedInbox w} (ha : b.Accounted charge) :
    .popped (b.pop charge).2 =
      answerOf (BoundedFifo.step (limits charge b.maxItems b.maxBytes) b.ideal .take).2 ∧
    Refines charge b.maxItems b.maxBytes (b.pop charge).1
      (BoundedFifo.step (limits charge b.maxItems b.maxBytes) b.ideal .take).1 := by
  have hp := ha.pop
  simp only [BoundedInbox.pop, BoundedFifo.step, ideal] at hp ⊢
  cases hq : b.queue with
  | nil => exact ⟨rfl,ha,rfl,rfl,by rw [ideal, hq]⟩
  | cons c rest =>
    simp only [hq] at hp ⊢
    exact ⟨rfl,hp,rfl,rfl,rfl⟩

theorem step_refines {maxItems maxBytes : BitVec w} (b : BoundedInbox w)
    (f : BoundedFifo.Fifo (IngressCommand w)) (c : InboxCall w)
    (h : Refines charge maxItems maxBytes b f) :
    (b.step charge c).2 =
      answerOf (BoundedFifo.step (limits charge maxItems maxBytes) f (idealCall c)).2 ∧
    Refines charge maxItems maxBytes (b.step charge c).1
      (BoundedFifo.step (limits charge maxItems maxBytes) f (idealCall c)).1 := by
  obtain ⟨ha,rfl,rfl,rfl⟩ := h
  cases c with
  | push resource payload =>
    refine ⟨?_,push_refines ha resource payload⟩
    simp only [step, ha.push_eq]
    rfl
  | pop => exact pop_refines ha
  | close => exact ⟨rfl,⟨ha.items,ha.bytes,ha.within⟩,rfl,rfl,rfl⟩

theorem refines_of_create {maxItems maxBytes : BitVec w} {b : BoundedInbox w}
    (hb : create charge maxItems maxBytes = some b) : Refines charge maxItems maxBytes b {} := by
  unfold create at hb
  split at hb
  · cases hb
  · cases hb
    exact ⟨⟨Nat.zero_le _,rfl,Nat.zero_le _⟩,rfl,rfl,rfl⟩

theorem refines_run {maxItems maxBytes : BitVec w} {b : BoundedInbox w}
    (hb : create charge maxItems maxBytes = some b) (calls : List (InboxCall w)) :
    answers (step charge) b calls =
        (answers (BoundedFifo.step (limits charge maxItems maxBytes)) {}
          (calls.map idealCall)).map answerOf ∧
      Refines charge maxItems maxBytes (run (step charge) b calls)
        (run (BoundedFifo.step (limits charge maxItems maxBytes)) {} (calls.map idealCall)) :=
  simulation idealCall answerOf (Refines charge maxItems maxBytes) step_refines b {}
    (refines_of_create hb) calls

abbrev InboxVisit (w : ℕ) := Visit (BoundedInbox w) (InboxCall w) (InboxAnswer w)

def admittedCommand (v : InboxVisit w) : Option (IngressCommand w) :=
  match v.call, v.answer with
  | .push resource payload, .pushed .admitted => some ⟨resource,payload⟩
  | _, _ => none

def poppedCommand (v : InboxVisit w) : Option (IngressCommand w) :=
  match v.answer with
  | .popped command => command
  | _ => none

/-- Every `size_t` operation of `push` and `pop` has its exact natural result. -/
structure Exact (charge : BitVec w) (b : BoundedInbox w) : Prop where
  items : b.size.toNat = b.queue.length
  remaining : (b.maxBytes-b.bytes).toNat+b.bytes.toNat = b.maxBytes.toNat
  spare : ¬ b.maxBytes-b.bytes < charge →
    (b.maxBytes-b.bytes-charge).toNat+charge.toNat = (b.maxBytes-b.bytes).toNat
  pushed : ∀ resource payload, (b.push charge resource payload).2 = .admitted →
    (charge+payload.size).toNat = charge.toNat+payload.1.length ∧
      (b.bytes+(charge+payload.size)).toNat = b.bytes.toNat+(charge+payload.size).toNat
  popped : ∀ c ∈ b.queue.head?, (charge+c.payload.size).toNat = charge.toNat+c.payload.1.length ∧
    (b.bytes-(charge+c.payload.size)).toNat+(charge+c.payload.size).toNat = b.bytes.toNat

theorem Accounted.exact {b : BoundedInbox w} (h : b.Accounted charge) : b.Exact charge where
  items := h.size_toNat
  remaining := by
    have hw := h.within
    rw [h.remaining_toNat, h.bytes]
    omega
  spare := by
    intro hs
    rw [BitVec.toNat_sub_of_le (BitVec.not_lt.mp hs)]
    rw [BitVec.lt_def] at hs
    omega
  pushed := by
    intro resource payload hp
    rw [h.push_eq, admissionOf_eq_admitted_iff] at hp
    obtain ⟨_,_,_,hw⟩ := (BoundedFifo.verdict_admitted_iff _ _ _).mp hp
    have hw : queuedCharge charge b.queue+(charge.toNat+payload.1.length) ≤ b.maxBytes.toNat := hw
    have hlt := b.maxBytes.isLt
    have hsum : (charge+payload.size).toNat = charge.toNat+payload.1.length :=
      charge_add_size (b := b) (by omega)
    exact ⟨hsum,BitVec.toNat_add_of_lt (by rw [h.bytes, hsum]; omega)⟩
  popped := by
    intro c hc
    obtain ⟨rest,hq⟩ := List.head?_eq_some_iff.mp hc
    have hb := h.head_le hq
    have hsum := h.head_charge hq
    refine ⟨hsum,?_⟩
    rw [BitVec.toNat_sub_of_le (BitVec.le_def.mpr (by omega))]
    omega

theorem poppedCommand_eq (v : InboxVisit w) (v' : BoundedFifo.FifoVisit (IngressCommand w))
    (ha : v.answer = answerOf v'.answer) : poppedCommand v = BoundedFifo.takenItem v' := by
  unfold poppedCommand BoundedFifo.takenItem
  rw [ha]
  cases v'.answer <;> rfl

theorem admittedCommand_eq (v : InboxVisit w) (v' : BoundedFifo.FifoVisit (IngressCommand w))
    (hc : v'.call = idealCall v.call) (ha : v.answer = answerOf v'.answer) :
    admittedCommand v = BoundedFifo.admittedItem v' := by
  unfold admittedCommand BoundedFifo.admittedItem
  rw [ha, hc]
  cases v.call with
  | push resource payload =>
    cases v'.answer with
    | offered verdict => cases verdict <;> rfl
    | _ => rfl
  | _ => rfl

/-- Nothing is lost, duplicated or reordered. -/
theorem conservation_run {maxItems maxBytes : BitVec w} {b : BoundedInbox w}
    (hb : create charge maxItems maxBytes = some b) (calls : List (InboxCall w)) :
    (history (step charge) b calls).filterMap poppedCommand ++ (run (step charge) b calls).queue =
      (history (step charge) b calls).filterMap admittedCommand := by
  have hc := BoundedFifo.conservation (limits charge maxItems maxBytes) (calls.map idealCall)
  have hr := (refines_run hb calls).2.ideal
  have h0 := refines_of_create hb
  rw [hr] at hc
  rw [simulation_observe idealCall answerOf (Refines charge maxItems maxBytes) step_refines
      poppedCommand BoundedFifo.takenItem (fun v v' _ ha => poppedCommand_eq v v' ha) b {} h0,
    simulation_observe idealCall answerOf (Refines charge maxItems maxBytes) step_refines
      admittedCommand BoundedFifo.admittedItem admittedCommand_eq b {} h0]
  exact hc

/-- The inbox is the ideal bounded queue on machine words: a push is admitted
exactly when the natural limits allow it and otherwise gives the first failed
reason and changes nothing, the charged bytes are exactly what is queued, no
size wraps, and the popped commands followed by the queued ones are the
admitted ones in order. -/
theorem inbox_refines_fifo (maxItems maxBytes : BitVec w) (b : BoundedInbox w)
    (hb : create charge maxItems maxBytes = some b) (calls : List (InboxCall w)) :
    let s := run (step charge) b calls
    let h := history (step charge) b calls
    answers (step charge) b calls =
      (answers (BoundedFifo.step (limits charge maxItems maxBytes)) {}
        (calls.map idealCall)).map answerOf ∧
    (∀ resource payload, (s.push charge resource payload).2 = .admitted ↔
      s.closed = false ∧ resource.value ≠ 0 ∧ s.queue.length < maxItems.toNat ∧
        queuedCharge charge s.queue+charge.toNat+payload.1.length ≤ maxBytes.toNat) ∧
    (∀ resource payload, (s.push charge resource payload).2 =
      if s.closed then .closed
      else if resource.value = 0 then .invalidEpoch
      else if maxItems.toNat ≤ s.queue.length then .itemLimit
      else if maxBytes.toNat < queuedCharge charge s.queue+charge.toNat+payload.1.length
        then .byteLimit
      else .admitted) ∧
    (∀ resource payload, (s.push charge resource payload).2 ≠ .admitted →
      (s.push charge resource payload).1 = s) ∧
    (s.usage).chargedBytes.toNat = queuedCharge charge s.queue ∧ s.Exact charge ∧
    h.filterMap poppedCommand ++ s.queue = h.filterMap admittedCommand := by
  intro s h
  obtain ⟨hans,ha,hi,hm,-⟩ := refines_run hb calls
  have hpush (resource : ResourceEpoch) (payload : Payload w) :=
    ha.push_eq resource payload
  refine ⟨hans,?_,?_,?_,ha.bytes,ha.exact,?_⟩
  · intro resource payload
    rw [hpush, admissionOf_eq_admitted_iff, idealVerdict, BoundedFifo.verdict_admitted_iff]
    simp only [limits, ideal, hi, hm, Nat.add_assoc, decide_eq_true_eq]
    rfl
  · intro resource payload
    rw [hpush, idealVerdict_eq, hi, hm, Nat.add_assoc]
    split_ifs <;> rfl
  · intro resource payload hne
    rw [hpush, Ne, admissionOf_eq_admitted_iff] at hne
    rw [hpush, if_neg hne]
  · exact conservation_run hb calls

/-- A byte limit of twelve under a charge of eight: the first command takes all of it, and the
second one would be eight bytes over. -/
theorem inbox_refines_fifo_twelve :
    let calls : List (InboxCall 8) := [.push ⟨1⟩ ⟨[0,0,0,0],by decide⟩,.push ⟨1⟩ ⟨[],by decide⟩]
    ∃ b, create 8#8 2 12 = some b ∧
      (run (step 8#8) b calls).usage.chargedBytes = 12 ∧
      ((run (step 8#8) b calls).push 8#8 ⟨1⟩ ⟨[],by decide⟩).2 ≠ .admitted := by
  intro calls
  have hb : create 8#8 2 12 = some { maxItems := 2, maxBytes := 12 } := by decide
  refine ⟨_,hb,by decide,?_⟩
  rw [Ne, (inbox_refines_fifo 2 12 _ hb calls).2.1]
  decide

end BoundedInbox
end Saex
