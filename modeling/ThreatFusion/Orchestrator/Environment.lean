import ThreatFusion.Alerts.Repository
import ThreatFusion.Lib.Effect
import ThreatFusion.ReplayJournal.Model
/-
# What the producer orchestrator owns, and what it asks others

`api/producer_orchestrator.py`. The world is what lasts: the journal and alert tables, the audit
log, the bytes written to producers, the `_fatal` flag. Everything else is an answer of the
environment, one `Env` per `process_one` call: each place that reads a clock, appends an audit event
or touches the network has an answer of its own (a loop has one per turn), since each is reached at
most once in a call.

| here | there |
| --- | --- |
| `Exc`, `OrchestratorCode` | the exception classes it meets, and the codes of its own |
| `AuditReason`             | the keys of `_AUDIT` (:98-208) |
| `ClockReading`            | what `self._monotonic()` may do |
| `RegisteredResult`        | `RegisteredUnswInferenceResult` (`network_inference.py:201`) |
-/
namespace ThreatFusion.Orchestrator
open Py Admission Alerts ReplayJournal

inductive AuditReason where
  | authenticationFailed | credentialDisabled | credentialRevoked | credentialNotYetValid
  | credentialExpired | producerMismatch | sourceContractDenied | invalidRequest | requestTimeInvalid
  | requestTooLarge | bodyIncomplete | rateLimited | serverBusy | requestAdmitted | requestInProgress
  | requestReplayRejected | outcomeUnknown | requestCompleted | internalError | clockUnavailable
  | requestTimeout | processingTimeout | auditUnavailable | recoveryCompleted
deriving DecidableEq, Repr

/-- The codes of `ProducerOrchestratorError`; `rejected` is one raised with an audit reason. -/
inductive OrchestratorCode where
  | trustedTimeUnavailable | monotonicClockInvalid | auditUnavailable | responseInvalid
  | processingTimeout | replayCompletionAmbiguous | inferenceResultInvalid | inferenceOutcomeAmbiguous
  | candidateConstructionAmbiguous | alertResultInvalid | alertPersistenceAmbiguous
  | responseFinalizationAmbiguous | cachedResponseInvalid | replayClaimAmbiguous | replayClaimInvalid
  | leaseReleaseFailed | serviceFatal | acceptTimeout | listenerUnavailable | authenticationRejected
  | transportSessionInvalid
  | rejected (reason : AuditReason)
deriving DecidableEq, Repr

/-- The codes of `ProducerInferenceWorkerError` (`producer_inference_worker.py:52`). -/
inductive WorkerCode where
  | startFailed | crashed | responseMissing | responseInvalid | failed | recordTimeout | requestTimeout
  | cleanupFailed
deriving DecidableEq, Repr

inductive Exc where
  | orchestrator (code : OrchestratorCode)
  | networkInference
  | worker (code : WorkerCode)
  | alertCandidate
  /-- Any other `Exception`, such as the `OverflowError` of `math.isfinite(10 ** 400)`. -/
  | other
deriving DecidableEq, Repr

/-- `ProducerTlsTransportError`: the codes and reasons that the orchestrator tells apart. -/
inductive TransportCode where
  | listenerAcceptTimeout | listenerNotOpen | listenerUnavailable | requestTooLarge | bodyIncomplete
  | requestReadFailed | unexpectedTrailingData | other
deriving DecidableEq, Repr

inductive TransportReason where
  | credentialDisabled | credentialRevoked | credentialNotYetValid | credentialExpired
  | requestTimeout | other
deriving DecidableEq, Repr

structure TransportError where
  code : TransportCode
  reason : TransportReason
deriving DecidableEq

/-- `ProducerAdmissionError`, by the security events that the orchestrator tells apart. -/
inductive SecurityEvent where
  | producerMismatch | sourceContractDenied | requestTimeInvalid | requestTooLarge | bodyIncomplete
  | other
deriving DecidableEq, Repr

structure AdmissionError where
  securityEvent : SecurityEvent
  correlationId : Option String
deriving DecidableEq

/-- `ProducerExecutionGateError`: `monotonic_clock_invalid` or another code. -/
inductive GateError where
  | monotonicClockInvalid | other
deriving DecidableEq, Repr

/-- `ProducerGateDecision`: its `__post_init__` gives a lease exactly to `accepted`. -/
inductive GateDecision where
  | accepted | rateLimited | serverBusy
deriving DecidableEq, Repr

inductive ClockReading where
  | raised
  | float (x : PyFloat)
  | int (n : ℤ)
  /-- A value of another type. -/
  | other
deriving DecidableEq

/-- `AuthenticatedTlsSession`, as far as the orchestrator compares it with the record. -/
structure Session where
  producerId : String
  credentialId : String
  allowedSourceContracts : List String
deriving DecidableEq

/-- The fields of `NetworkInferenceResult` that an alert or a response reads. -/
structure InferenceResult where
  correlationId : String
  modelIdentity : String
  modelVersion : String
  contractIdentity : String
  sourceRepresentationIdentity : String
  attackProbability : Option PyFloat
  decisionThreshold : PyFloat
  predictedClass : Option String
  status : String
  reason : String
deriving DecidableEq

structure RegisteredResult where
  sourceEventId : String
  observedAt : DateTime
  modelArtifactSha256 : String
  inference : InferenceResult
deriving DecidableEq

/-- What `TerminatingProducerInferenceWorker.execute` may return. -/
inductive WorkerValue where
  | batch (results : List RegisteredResult)
  /-- Not a tuple of registered results. -/
  | malformed
deriving DecidableEq

/-! ## Call sites -/

inductive ClockSite where
  | processingStarted
  | recordStarted (i : Nat)
  | recordChecked (i : Nat)
  | inferenceDone
  /-- The check in the `except NetworkInferenceError` handler. -/
  | rejectionHandler
  | beforeInsert (i : Nat)
  | afterInsert (i : Nat)
  /-- The check of `_complete_and_write`. -/
  | completion
deriving DecidableEq

inductive TimeSite where
  | accept | admission | claim | candidate (i : Nat) | complete
deriving DecidableEq

inductive AuditSite where
  | accept | requestHead | requestBody | admission | gateError | gateDenied | replayRejected
  | replayCompleted | replayPending | requestAdmitted | failure | requestCompleted | ambiguous
deriving DecidableEq

/-- The answers of the environment to one `process_one` call. -/
structure Env where
  /-- `accept_authenticated`; `none` is a value that is no session. -/
  accept : Except TransportError (Option Session)
  readRequestHead : Except TransportError Unit
  /-- `len(body)`. -/
  readBody : Except TransportError Nat
  admitted : Except AdmissionError ValidatedAdmissionRecord
  acquire : Except GateError GateDecision
  release : Except GateError Unit
  ownershipToken : String
  claimFault : DbFault
  completeFault : DbFault
  worker : Except Exc WorkerValue
  /-- Inline mode: the number of prepared rows, then one inference each. -/
  prepare : Except Exc Nat
  infer : Nat → Except Exc RegisteredResult
  insertFault : Nat → AlertFault
  monotonic : ClockSite → ClockReading
  /-- `self._trusted_now()`; `none` when it raises or is no UTC datetime. -/
  trustedNow : TimeSite → Option DateTime
  /-- The event is built and appended; `false` is `ProducerSecurityAuditError`. -/
  audit : AuditSite → Bool
  /-- `write_response` does not raise. -/
  write : Bool

/-- What one orchestrator is built from. -/
structure Service where
  codec : Codec
  gen : Generation
  /-- `_inline_inference_for_tests`; there is a worker exactly when it is false. -/
  inline : Bool

structure World where
  journal : JournalDb
  alerts : AlertDb
  audit : List (AuditReason × Option String)
  written : List Bytes
  fatal : Bool

end ThreatFusion.Orchestrator
