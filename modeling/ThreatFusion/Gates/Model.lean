import ThreatFusion.Admission.Record
import ThreatFusion.Lib.Machine
import Mathlib.Data.Int.Notation
/-
# `ProducerExecutionGates`: a rate bucket and one execution slot

`api/producer_execution_gates.py`. `_lock` makes the body of every method one step; `acquire` reads the clock
before it takes the lock, so its two parts `readClock` and `acquireLocked` have names of their own here. The
reading, the random token and the lease a caller presents are inputs.

| here | there |
| --- | --- |
| `ProducerExecutionLease`, `ProducerGateDecision` | the same (:92-122) |
| `ProducerExecutionGates`, `Gates.new` | the same, `__init__` (:168-194) |
| `validateProducer`      | `_validate_producer` (:200-204) |
| `readClock`             | `_read_clock` (:206-217) |
| `requireActiveLease`    | `_require_active_lease` (:219-236) |
| `acquireLocked`, `acquire` | `acquire` (:238-276): the `with self._lock` block, and all of it |
| `release`, `enterContext` | `release` (:278-285), `lease_context` up to its `yield` (:288-291) |
| `snapshot`              | `snapshot` (:297-310) |

The `finally` of `lease_context` is a `release`. The configuration is the one that `__init__` accepts.
-/
namespace ThreatFusion.Gates
open Py Admission

def RATE_REFILL_INTERVAL_NS : ℤ := 10000000000
def RATE_BURST_CAPACITY : ℤ := 2
def MAX_MONOTONIC_NS : ℤ := 9223372036854775807

/-- `RATE_BURST_CAPACITY * RATE_REFILL_INTERVAL_NS`. -/
def maximumCredit : ℤ := RATE_BURST_CAPACITY * RATE_REFILL_INTERVAL_NS

/-- The codes of `ProducerExecutionGateError` that the methods raise. -/
inductive GateError where
  | producerNotAdmitted | monotonicClockInvalid | leaseNotActive
deriving DecidableEq

def GateError.code : GateError → String
  | .producerNotAdmitted => "producer_not_admitted"
  | .monotonicClockInvalid => "monotonic_clock_invalid"
  | .leaseNotActive => "lease_not_active"

structure AdmittedProducer where
  producerId : String
  credentialId : String
  allowedSourceContracts : List String
deriving DecidableEq

/-- The dataclass does not check its fields: `none` is an object that is no `str`. -/
structure ProducerExecutionLease where
  producerId : Option String
  gateInstanceId : Option String
  ownershipToken : Option String
deriving DecidableEq

/-- `__post_init__` gives a lease exactly to `accepted` (:111-119). -/
inductive ProducerGateDecision where
  | accepted (lease : ProducerExecutionLease)
  | rateLimited
  | serverBusy
deriving DecidableEq

/-- What `secrets.token_urlsafe(32)` returns: 32 bytes as canonical base64url. -/
abbrev OwnershipToken := { token : String // isOwnershipToken token = true }

/-- One call of `monotonic_ns`: it raises, returns an `int`, or anything else (a `bool`, a float). -/
inductive ClockReading where
  | raises
  | other
  | int (value : ℤ)
deriving DecidableEq

structure ProducerExecutionGates where
  gateInstanceId : String
  rateCreditNs : ℤ
  lastMonotonicNs : Option ℤ
  activeTokenSha256 : Option String
  globalActiveCount : Nat
  producerActiveCount : Nat
  acceptedCount : Nat
  rateLimitedCount : Nat
  serverBusyCount : Nat
  releasedCount : Nat
  clockRejectedCount : Nat
deriving DecidableEq

/-- `__init__` with the exact configuration. -/
def ProducerExecutionGates.new (gateInstanceId : String) : ProducerExecutionGates :=
  { gateInstanceId, rateCreditNs := maximumCredit, lastMonotonicNs := none, activeTokenSha256 := none
    globalActiveCount := 0, producerActiveCount := 0, acceptedCount := 0, rateLimitedCount := 0
    serverBusyCount := 0, releasedCount := 0, clockRejectedCount := 0 }

namespace ProducerExecutionGates

/-- `none` is an object of another type. -/
def validateProducer (producer : Option AdmittedProducer) : Except GateError Unit :=
  match producer with
  | none => .error .producerNotAdmitted
  | some p =>
    if p.producerId ≠ REGISTERED_UNSW_PRODUCER_ID ∨ p.allowedSourceContracts ≠ [REGISTERED_UNSW_SOURCE_CONTRACT] then
      .error .producerNotAdmitted
    else .ok ()

def clockRejected (g : ProducerExecutionGates) : ProducerExecutionGates :=
  { g with clockRejectedCount := g.clockRejectedCount + 1 }

def readClock (reading : ClockReading) (g : ProducerExecutionGates) : Except GateError ℤ × ProducerExecutionGates :=
  match reading with
  | .raises | .other => (.error .monotonicClockInvalid, g.clockRejected)
  | .int value =>
    if 0 ≤ value ∧ value ≤ MAX_MONOTONIC_NS then (.ok value, g)
    else (.error .monotonicClockInvalid, g.clockRejected)

/-- Take the credit of the time since the last reading; `none` when the clock went backwards. -/
def refill (nowNs : ℤ) (g : ProducerExecutionGates) : Option ProducerExecutionGates :=
  match g.lastMonotonicNs with
  | none => some { g with lastMonotonicNs := some nowNs }
  | some last =>
    if nowNs < last then none
    else some { g with
      rateCreditNs := min maximumCredit (g.rateCreditNs + (nowNs - last)), lastMonotonicNs := some nowNs }

section
variable (sha256 : Bytes → String)

/-- One token is charged before concurrency is looked at, so a busy attempt pays too. -/
def charge (token : OwnershipToken) (g : ProducerExecutionGates) : ProducerGateDecision × ProducerExecutionGates :=
  if g.rateCreditNs < RATE_REFILL_INTERVAL_NS then
    (.rateLimited, { g with rateLimitedCount := g.rateLimitedCount + 1 })
  else
    let g := { g with rateCreditNs := g.rateCreditNs - RATE_REFILL_INTERVAL_NS }
    if g.globalActiveCount ≠ 0 ∨ g.producerActiveCount ≠ 0 then
      (.serverBusy, { g with serverBusyCount := g.serverBusyCount + 1 })
    else
      (.accepted ⟨some REGISTERED_UNSW_PRODUCER_ID, some g.gateInstanceId, some token.1⟩,
        { g with
          activeTokenSha256 := some (sha256 (utf8 token.1)), globalActiveCount := 1, producerActiveCount := 1
          acceptedCount := g.acceptedCount + 1 })

def acquireLocked (nowNs : ℤ) (token : OwnershipToken) (g : ProducerExecutionGates) :
    Except GateError ProducerGateDecision × ProducerExecutionGates :=
  match g.refill nowNs with
  | none => (.error .monotonicClockInvalid, g.clockRejected)
  | some g =>
    let (decision, g) := charge sha256 token g
    (.ok decision, g)

def acquire (producer : Option AdmittedProducer) (reading : ClockReading) (token : OwnershipToken)
    (g : ProducerExecutionGates) : Except GateError ProducerGateDecision × ProducerExecutionGates :=
  match validateProducer producer with
  | .error e => (.error e, g)
  | .ok () => match g.readClock reading with
    | (.error e, g) => (.error e, g)
    | (.ok nowNs, g) => acquireLocked sha256 nowNs token g

/-- `none` is an object of another type. -/
def requireActiveLease (lease : Option ProducerExecutionLease) (g : ProducerExecutionGates) : Except GateError String :=
  match lease with
  | some ⟨producerId, some instanceId, some token⟩ =>
    if producerId ≠ some REGISTERED_UNSW_PRODUCER_ID ∨ !isUuid4 instanceId ∨ !isOwnershipToken token then
      .error .leaseNotActive
    else
      let tokenSha256 := sha256 (utf8 token)
      if instanceId ≠ g.gateInstanceId ∨ g.activeTokenSha256 ≠ some tokenSha256 ∨ g.globalActiveCount ≠ 1 ∨
          g.producerActiveCount ≠ 1 then .error .leaseNotActive
      else .ok tokenSha256
  | _ => .error .leaseNotActive

def release (lease : Option ProducerExecutionLease) (g : ProducerExecutionGates) :
    Except GateError Unit × ProducerExecutionGates :=
  match requireActiveLease sha256 lease g with
  | .error e => (.error e, g)
  | .ok _ => (.ok (), { g with
      activeTokenSha256 := none, globalActiveCount := 0, producerActiveCount := 0
      releasedCount := g.releasedCount + 1 })

/-- `lease_context` up to its `yield`. -/
def enterContext (lease : Option ProducerExecutionLease) (g : ProducerExecutionGates) :
    Except GateError Unit × ProducerExecutionGates :=
  match requireActiveLease sha256 lease g with
  | .error e => (.error e, g)
  | .ok _ => (.ok (), g)

end

structure ProducerGateSnapshot where
  availableTokenCount : ℤ
  rateCreditNanoseconds : ℤ
  globalActiveCount : Nat
  producerActiveCount : Nat
  acceptedCount : Nat
  rateLimitedCount : Nat
  serverBusyCount : Nat
  releasedCount : Nat
  clockRejectedCount : Nat
deriving DecidableEq

def snapshot (g : ProducerExecutionGates) : ProducerGateSnapshot :=
  { availableTokenCount := g.rateCreditNs / RATE_REFILL_INTERVAL_NS, rateCreditNanoseconds := g.rateCreditNs
    globalActiveCount := g.globalActiveCount, producerActiveCount := g.producerActiveCount
    acceptedCount := g.acceptedCount, rateLimitedCount := g.rateLimitedCount, serverBusyCount := g.serverBusyCount
    releasedCount := g.releasedCount, clockRejectedCount := g.clockRejectedCount }

end ProducerExecutionGates

/-! ## Calls -/

inductive GateCall where
  | acquire (producer : Option AdmittedProducer) (reading : ClockReading) (token : OwnershipToken)
  | release (lease : Option ProducerExecutionLease)
  | enterContext (lease : Option ProducerExecutionLease)
  | exitContext (lease : Option ProducerExecutionLease)

inductive GateReply where
  | decided (decision : ProducerGateDecision)
  | released
  | entered
  | raised (error : GateError)
deriving DecidableEq

def GateReply.ofDecision : Except GateError ProducerGateDecision → GateReply
  | .ok decision => .decided decision
  | .error e => .raised e

def GateReply.ofUnit (reply : GateReply) : Except GateError Unit → GateReply
  | .ok () => reply
  | .error e => .raised e

def gateStep (sha256 : Bytes → String) (g : ProducerExecutionGates) (call : GateCall) :
    GateReply × ProducerExecutionGates :=
  match call with
  | .acquire producer reading token =>
    let (r, g) := g.acquire sha256 producer reading token
    (.ofDecision r, g)
  | .release lease | .exitContext lease =>
    let (r, g) := g.release sha256 lease
    (GateReply.released.ofUnit r, g)
  | .enterContext lease =>
    let (r, g) := g.enterContext sha256 lease
    (GateReply.entered.ofUnit r, g)

end ThreatFusion.Gates
