import ThreatFusion.Alerts.Candidate
/-
# Provenance of an alert, and when it counts as verified

`alerts/correlation_engine.py`, first part.

| here | there |
| --- | --- |
| `EntityProvenanceContract`    | `EntityProvenanceContract` (:72-88), the fields that correlation reads |
| `verificationRejectionReason` | `verification_rejection_reason` (:128-161) |
| `AlertInput`                  | `AlertCandidate \| CorrelatableAlert` (:169-173) |
| `parseTimestamp`              | `_parse_timestamp` (:255-265) |

`Runtime` is what the interpreter brings: the digest, the ISO parser, Unicode lower case and the
rounding of float arithmetic (`roundDouble` for the doubles of the code, `id` for exact numbers). The
results hold for every one.
-/
namespace ThreatFusion.Correlation
open Py Alerts

def MAX_ALLOWABLE_CLOCK_SKEW_SECONDS : PyFloat := .finite 5 "5.0"

/-- What `datetime.fromisoformat` gives: the wall clock in microseconds since 0001-01-01, and the offset. -/
structure ParsedDateTime where
  localMicros : ℤ
  utcoffset : Option ℤ

/-- A value without `tzinfo` is read as UTC. -/
def ParsedDateTime.instant (d : ParsedDateTime) : ℤ := d.localMicros - d.utcoffset.getD 0

structure Runtime where
  sha256 : Bytes → String
  /-- `none` is the `ValueError`. -/
  fromisoformat : String → Option ParsedDateTime
  lower : String → String
  round : ℚ → ℚ

structure EntityProvenanceContract where
  entityNamespaceId : Option String := none
  clockSynchronized : Bool := false
  srcEntityId : Option String := none
  dstEntityId : Option String := none
  protocol : Option String := none
  serviceOrPort : Option String := none
  observedAtUtc : Option String := none
  validityStartUtc : Option String := none
  validityEndUtc : Option String := none
  addressReuseOrNat : Bool := false
  maxClockSkewSeconds : PyFloat := .finite 0 "0.0"
deriving DecidableEq

inductive RejectionReason where
  | missingEntityNamespace | clockNotSynchronized | missingSrcEntityId | missingDstEntityId
  | natAddressReuseAmbiguous | clockSkewExceeded | outsideEntityValidityInterval | invalidTimestampBounds
deriving DecidableEq

def RejectionReason.text : RejectionReason → String
  | .missingEntityNamespace => "missing_entity_namespace"
  | .clockNotSynchronized => "clock_not_synchronized"
  | .missingSrcEntityId => "missing_src_entity_id"
  | .missingDstEntityId => "missing_dst_entity_id"
  | .natAddressReuseAmbiguous => "nat_address_reuse_ambiguous"
  | .clockSkewExceeded => "clock_skew_exceeded"
  | .outsideEntityValidityInterval => "outside_entity_validity_interval"
  | .invalidTimestampBounds => "invalid_timestamp_bounds"

/-- `not s or not s.strip()`. -/
def missing (s : Option String) : Bool := isBlank (s.getD "")

/-- The text when it is truthy. -/
def given (s : Option String) : Option String := s.filter (· ≠ "")

/-- `datetime.fromisoformat(s.replace("Z", "+00:00"))`. -/
def Runtime.parseUtc (rt : Runtime) (s : String) : Option ParsedDateTime :=
  rt.fromisoformat (String.ofList (s.toList.flatMap fun c => if c = 'Z' then "+00:00".toList else [c]))

/-- One end of the validity interval; an unreadable one lands in the `except` (:159). -/
def checkBound (rt : Runtime) (bound : Option String) (outside : ℤ → Bool) : Except RejectionReason Unit :=
  match given bound with
  | none => .ok ()
  | some text => match rt.parseUtc text with
    | none => .error .invalidTimestampBounds
    | some v => if outside v.instant then .error .outsideEntityValidityInterval else .ok ()

def checkInterval (rt : Runtime) (p : EntityProvenanceContract) : Except RejectionReason Unit :=
  match given p.observedAtUtc with
  | none => .ok ()
  | some text => match rt.parseUtc text with
    | none => .error .invalidTimestampBounds
    | some obs => do
      checkBound rt p.validityStartUtc fun start => obs.instant < start
      checkBound rt p.validityEndUtc fun stop => stop < obs.instant

def verificationRejectionReason (rt : Runtime) (p : EntityProvenanceContract) : Option RejectionReason :=
  if missing p.entityNamespaceId then some .missingEntityNamespace
  else if !p.clockSynchronized then some .clockNotSynchronized
  else if missing p.srcEntityId then some .missingSrcEntityId
  else if missing p.dstEntityId then some .missingDstEntityId
  else if p.addressReuseOrNat then some .natAddressReuseAmbiguous
  else if MAX_ALLOWABLE_CLOCK_SKEW_SECONDS.lt p.maxClockSkewSeconds then some .clockSkewExceeded
  else match checkInterval rt p with
    | .error reason => some reason
    | .ok () => none

def isVerified (rt : Runtime) (p : EntityProvenanceContract) : Bool :=
  (verificationRejectionReason rt p).isNone

/-- What the caller hands over: a bare candidate, or one with its own provenance. -/
inductive AlertInput (rt : Runtime) where
  | candidate (c : AlertCandidate rt.sha256)
  | correlatable (c : AlertCandidate rt.sha256) (provenance : Option EntityProvenanceContract)

namespace AlertInput
variable {rt : Runtime}

def alert : AlertInput rt → AlertCandidate rt.sha256
  | .candidate c => c
  | .correlatable c _ => c

def ownProvenance : AlertInput rt → Option EntityProvenanceContract
  | .candidate _ => none
  | .correlatable _ p => p

def id (a : AlertInput rt) : String := a.alert.alertCandidateId

end AlertInput

def EPOCH_MICROS : ℤ := DateTime.epochOrdinal * 86400000000

def parseTimestamp (rt : Runtime) (c : AlertCandidate rt.sha256) (p : EntityProvenanceContract) : ℚ :=
  match (given p.observedAtUtc).bind rt.parseUtc with
  | some d => rt.round ((d.instant - EPOCH_MICROS : ℤ) / 1000000)
  | none => rt.round c.observedAt.timestamp

/-- A verified contract names its namespace: the `assert` (:456) holds. -/
theorem namespace_of_isVerified {rt : Runtime} {p : EntityProvenanceContract} (h : isVerified rt p = true) :
    ∃ ns, p.entityNamespaceId = some ns := by
  cases hns : p.entityNamespaceId with
  | some ns => exact ⟨ns, rfl⟩
  | none =>
    have hblank : missing none = true := by decide
    rw [isVerified, verificationRejectionReason, hns, if_pos hblank] at h
    exact absurd h (by simp)

end ThreatFusion.Correlation
