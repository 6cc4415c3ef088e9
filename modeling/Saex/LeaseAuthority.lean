import Saex.Contracts
import Saex.Transitions

/-! The lease gate of core/lease_authority.cpp. A call that samples the clock
carries the reading it would get; a fenced `accept` or `renew` leaves it unread. -/
namespace Saex

structure ControlStamp where
  domain : ClockDomainId := {}
  microseconds : UInt64 := 0
deriving DecidableEq

inductive LeaseResult
  | accepted | noGrant | expired | staleEntity | staleOwner | staleRevision
  | staleSequence | fieldDenied | clockDiscontinuity | recoveryRequired
deriving DecidableEq

structure LeaseGrant where
  entity : EntityRef
  session : SessionId
  owner : OwnerEpoch
  catalog : CatalogRevision
  state : StateRevision
  fieldMask : UInt64 := 0
  deadline : ControlStamp
deriving DecidableEq

structure OwnerProposal where
  entity : EntityRef
  session : SessionId
  owner : OwnerEpoch
  catalog : CatalogRevision
  state : StateRevision
  sequence : Sequence
  fieldMask : UInt64 := 0
deriving DecidableEq

def leaseMicroseconds : UInt64 := 2000000

@[simp] theorem leaseMicroseconds_toNat : leaseMicroseconds.toNat = 2000000 := rfl

structure LeaseAuthority where
  entity : EntityRef
  lastStamp : ControlStamp
  lastOwner : OwnerEpoch := {}
  lastMotion : Sequence := {}
  lastRenewal : Sequence := {}
  fenced : Bool := false
  grant : Option LeaseGrant := none
deriving DecidableEq

namespace LeaseAuthority

/-- The constructor, with the reading it samples; `none` is the thrown exception. -/
def create (now : ControlStamp) (entity : EntityRef) : Option LeaseAuthority :=
  if !entity.valid || now.domain.value = 0 then none else some { entity, lastStamp := now }

def revoke (a : LeaseAuthority) : LeaseAuthority := { a with grant := none }

def suspendOrResume (a : LeaseAuthority) : LeaseAuthority := revoke { a with fenced := true }

/-- The clock left its domain or went back behind the last sampled stamp. -/
def discontinuous (a : LeaseAuthority) (now : ControlStamp) : Bool :=
  now.domain ≠ a.lastStamp.domain || now.microseconds < a.lastStamp.microseconds

def sample (a : LeaseAuthority) (now : ControlStamp) : LeaseAuthority × Option ControlStamp :=
  if a.fenced then (a,none)
  else if a.discontinuous now then (a.suspendOrResume,none)
  else ({ a with lastStamp := now },some now)

/-- The deadline computed from this stamp would pass 2^64-1. -/
def deadlineOverflows (now : ControlStamp) : Bool :=
  now.microseconds > uint64Max-leaseMicroseconds

def deadlineFrom (now : ControlStamp) : ControlStamp :=
  ⟨now.domain,now.microseconds+leaseMicroseconds⟩

/-- The arguments of `issue` that can be granted at all. -/
def issuable (session : SessionId) (catalog : CatalogRevision) (state : StateRevision)
    (fieldMask : UInt64) (participantApplied : Bool) : Bool :=
  participantApplied && session.value ≠ 0 && catalog.value ≠ 0 && state.value ≠ 0 && fieldMask ≠ 0

def issue (a : LeaseAuthority) (now : ControlStamp) (session : SessionId)
    (catalog : CatalogRevision) (state : StateRevision) (fieldMask : UInt64)
    (participantApplied : Bool) : LeaseAuthority × Option LeaseGrant :=
  match a.sample now with
  | (a,none) => (a,none)
  | (a,some current) =>
    if !issuable session catalog state fieldMask participantApplied then (a,none)
    else match next a.lastOwner with
      | none => (a.suspendOrResume,none)
      | some owner =>
        if deadlineOverflows current then (a.suspendOrResume,none)
        else
          let grant : LeaseGrant :=
            { entity := a.entity, session, owner, catalog, state, fieldMask,
              deadline := deadlineFrom current }
          ({ a with lastOwner := owner, lastMotion := {}, lastRenewal := {}, grant := some grant },
            some grant)

/-- The checks of `accept` after the deadline, in their order. -/
def judge (a : LeaseAuthority) (g : LeaseGrant) (p : OwnerProposal) : LeaseResult :=
  if p.entity ≠ a.entity then .staleEntity
  else if p.session ≠ g.session || p.owner ≠ g.owner then .staleOwner
  else if p.catalog ≠ g.catalog || p.state ≠ g.state then .staleRevision
  else if p.sequence.value ≤ a.lastMotion.value then .staleSequence
  else if p.fieldMask = 0 || p.fieldMask &&& ~~~g.fieldMask ≠ 0 then .fieldDenied
  else .accepted

def accept (a : LeaseAuthority) (now : ControlStamp) (p : OwnerProposal) :
    LeaseAuthority × LeaseResult :=
  if a.fenced then (a,.recoveryRequired)
  else match a.sample now with
  | (a,none) => (a,.clockDiscontinuity)
  | (a,some current) => match a.grant with
    | none => (a,.noGrant)
    | some g =>
      if current.microseconds ≥ g.deadline.microseconds then (a.revoke,.expired)
      else match a.judge g p with
        | .accepted => ({ a with lastMotion := p.sequence },.accepted)
        | r => (a,r)

def renew (a : LeaseAuthority) (now : ControlStamp) (session : SessionId) (owner : OwnerEpoch)
    (renewal : Sequence) : LeaseAuthority × LeaseResult :=
  if a.fenced then (a,.recoveryRequired)
  else match a.sample now with
  | (a,none) => (a,.clockDiscontinuity)
  | (a,some current) => match a.grant with
    | none => (a,.noGrant)
    | some g =>
      if current.microseconds ≥ g.deadline.microseconds then (a.revoke,.expired)
      else if session ≠ g.session || owner ≠ g.owner then (a,.staleOwner)
      else if renewal.value ≤ a.lastRenewal.value then (a,.staleSequence)
      else if deadlineOverflows current then (a.suspendOrResume,.recoveryRequired)
      else
        let deadline := { g.deadline with microseconds := current.microseconds+leaseMicroseconds }
        ({ a with lastRenewal := renewal, grant := some { g with deadline } },.accepted)

def recoverAfterReadiness (a : LeaseAuthority) (now : ControlStamp) : LeaseAuthority × Bool :=
  if now.domain.value = 0 then (a,false)
  else ({ a with lastStamp := now, grant := none, fenced := false },true)

end LeaseAuthority

inductive LeaseCall
  | issue (now : ControlStamp) (session : SessionId) (catalog : CatalogRevision)
      (state : StateRevision) (fieldMask : UInt64) (participantApplied : Bool)
  | accept (now : ControlStamp) (proposal : OwnerProposal)
  | renew (now : ControlStamp) (session : SessionId) (owner : OwnerEpoch) (renewal : Sequence)
  | revoke
  | suspendOrResume
  | recoverAfterReadiness (now : ControlStamp)
deriving DecidableEq

inductive LeaseAnswer
  | issued (grant : Option LeaseGrant)
  | result (r : LeaseResult)
  | done
  | recovered (ok : Bool)
deriving DecidableEq

namespace LeaseAuthority

def step (a : LeaseAuthority) : LeaseCall → LeaseAuthority × LeaseAnswer
  | .issue now session catalog state fieldMask participantApplied =>
    let r := a.issue now session catalog state fieldMask participantApplied
    (r.1,.issued r.2)
  | .accept now proposal => let r := a.accept now proposal; (r.1,.result r.2)
  | .renew now session owner renewal =>
    let r := a.renew now session owner renewal
    (r.1,.result r.2)
  | .revoke => (a.revoke,.done)
  | .suspendOrResume => (a.suspendOrResume,.done)
  | .recoverAfterReadiness now => let r := a.recoverAfterReadiness now; (r.1,.recovered r.2)

end LeaseAuthority
end Saex
