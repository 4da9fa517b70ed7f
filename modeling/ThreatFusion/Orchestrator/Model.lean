import ThreatFusion.Orchestrator.Environment
/-
# `ProducerOrchestrator.process_one`

`api/producer_orchestrator.py`, as programs over `World` that may raise `Exc`. A `try` whose
handlers differ is `attempt` and a match on what came out.

| here | there |
| --- | --- |
| `now`, `monotonicNow`         | `_now`, `_monotonic_now` (:331-347) |
| `appendAudit`, `auditOrUnavailable` | `_append_audit` (:349), `_audit_or_unavailable` (:454) |
| `checkProcessing`, `raiseAmbiguous` | `_check_processing` (:485), `_raise_ambiguous` (:494) |
| `completeAndWrite`, `completeFailureAndWrite` | :513-580 |
| `inferRecords`, `buildCandidates`, `persistAll`, `finalizeResponse`, `processClaimed` | `_process_claimed` (:582-806) |
| `admitAndGate`, `claimAndProcess`, `processSession` | `_process_session` (:808-990) |
| `processOne`                  | `process_one` (:992-1020) |
-/
namespace ThreatFusion.Orchestrator
open Py Admission Alerts ReplayJournal Effect

def PROCESSING_RECORD_SECONDS : ℚ := 30
def PROCESSING_REQUEST_SECONDS : ℚ := 300

abbrev Act := Prog Exc World

def fail {α : Type} (code : OrchestratorCode) : Act α := .throw (.orchestrator code)

/-- `self._fatal = True`. -/
def poison : Act Unit := .modify fun w => { w with fatal := true }

def poisonIf (poisons : Bool) : Act Unit := if poisons then poison else pure ()

inductive ResultReason where
  | responseWriteFailed
  | response (reason : ResponseReason)
deriving DecidableEq, Repr

structure ProducerOrchestratorResult where
  reason : ResultReason
  responseBytes : Bytes
  fatal : Bool
deriving DecidableEq

/-! ## Clocks, audit, responses -/

def now (env : Env) (site : TimeSite) : Except Exc DateTime :=
  match env.trustedNow site with
  | none => .error (.orchestrator .trustedTimeUnavailable)
  | some t => .ok t

def monotonicNow : ClockReading → Except Exc ℚ
  | .raised => .error (.orchestrator .monotonicClockInvalid)
  | .other => .error (.orchestrator .monotonicClockInvalid)
  | .float (.nonFinite _) => .error (.orchestrator .monotonicClockInvalid)
  | .float (.finite v _) => if v < 0 then .error (.orchestrator .monotonicClockInvalid) else .ok v
  | .int n => match floatOfInt n with
    | none => .error .other
    | some v => if n < 0 then .error (.orchestrator .monotonicClockInvalid) else .ok v

def checkProcessing (reading : ClockReading) (started : ℚ) (recordStarted : Option ℚ) :
    Except Exc Unit :=
  match monotonicNow reading with
  | .error e => .error e
  | .ok t =>
    if t < started ∨ PROCESSING_REQUEST_SECONDS < roundDouble (t - started) then
      .error (.orchestrator .processingTimeout)
    else match recordStarted with
      | none => .ok ()
      | some r => if t < r ∨ PROCESSING_RECORD_SECONDS < roundDouble (t - r) then
          .error (.orchestrator .processingTimeout)
        else .ok ()

def appendAudit (env : Env) (site : AuditSite) (reason : AuditReason) (correlationId : Option String) :
    Act Unit :=
  if env.audit site then .modify fun w => { w with audit := w.audit ++ [(reason, correlationId)] }
  else fail .auditUnavailable

/-- `_response` without its exception: `none` is `ProducerOrchestratorError("response_invalid")`. -/
def response? (correlationId : String) (reason : ResponseReason)
    (records : List ProducerRecordDisposition) : Option Bytes :=
  match ProducerResponse.new ⟨.v2, correlationId, reason, records⟩ with
  | none => none
  | some r => serializeProducerResponse r

def response (correlationId : String) (reason : ResponseReason)
    (records : List ProducerRecordDisposition) : Act Bytes :=
  match response? correlationId reason records with
  | none => fail .responseInvalid
  | some b => pure b

/-- `serialize_reason` (:1049). -/
def serializeReason (svc : Service) (b : Bytes) : ResponseReason :=
  match svc.codec.decodeProducerResponse b with
  | some r => r.reason
  | none => .internalError

def write (svc : Service) (env : Env) (b : Bytes) : Act ProducerOrchestratorResult := do
  let w ← Prog.get
  if env.write then do
    Prog.modify fun w => { w with written := w.written ++ [b] }
    pure ⟨.response (serializeReason svc b), b, w.fatal⟩
  else pure ⟨.responseWriteFailed, b, w.fatal⟩

/-- `none`: the event is in the log. Otherwise the request ends here, with this result. -/
def auditOrUnavailable (svc : Service) (env : Env) (site : AuditSite) (reason : AuditReason)
    (correlationId : Option String) (poisons : Bool) : Act (Option ProducerOrchestratorResult) := do
  match ← Prog.attempt (appendAudit env site reason correlationId) with
  | .ok () => pure none
  | .error _ => do
    poisonIf poisons
    match correlationId with
    | none => fail .auditUnavailable
    | some cid => do
      let b ← response cid .auditUnavailable []
      let r ← write svc env b
      pure (some r)

def raiseAmbiguous {α : Type} (env : Env) (code : OrchestratorCode) (reason : AuditReason)
    (record : ValidatedAdmissionRecord) : Act α := do
  poison
  let _ ← Prog.attempt (appendAudit env .ambiguous reason (some record.correlationId))
  fail code

/-! ## Completing a claim -/

/-- `self._replay.complete(claim, response, completed_at=self._now())` on the world's journal. -/
def journalComplete (svc : Service) (env : Env) (cl : ReplayClaim) (b : Bytes) :
    Act (Except JournalError Bytes) := fun w =>
  match now env .complete with
  | .error e => (.error e, w)
  | .ok t =>
    let p := complete svc.codec svc.gen cl b (some t) env.completeFault w.journal
    (.ok p.1, { w with journal := p.2 })

/-- The budget check before a completion; only `ProducerOrchestratorError` is caught. -/
def checkBudget (env : Env) (record : ValidatedAdmissionRecord) (started : ℚ) (enforceBudget : Bool) :
    Act Unit :=
  if !enforceBudget then pure ()
  else match checkProcessing (env.monotonic .completion) started none with
  | .ok () => pure ()
  | .error (.orchestrator code) =>
    raiseAmbiguous env code
      (if code = .processingTimeout then .processingTimeout else .internalError) record
  | .error e => .throw e

def completeAndWrite (svc : Service) (env : Env) (record : ValidatedAdmissionRecord) (cl : ReplayClaim)
    (b : Bytes) (started : ℚ) (enforceBudget : Bool) : Act ProducerOrchestratorResult := do
  match ← auditOrUnavailable svc env .requestCompleted .requestCompleted (some record.correlationId) true with
  | some failure => pure failure
  | none => do
    checkBudget env record started enforceBudget
    match ← Prog.attempt (journalComplete svc env cl b) with
    | .ok (.ok cached) =>
      if cached != b then raiseAmbiguous env .replayCompletionAmbiguous .internalError record
      else write svc env b
    | .ok (.error _) => raiseAmbiguous env .replayCompletionAmbiguous .internalError record
    | .error (.orchestrator _) => raiseAmbiguous env .replayCompletionAmbiguous .internalError record
    | .error e => .throw e

def completeFailureAndWrite (svc : Service) (env : Env) (failureReason : AuditReason)
    (record : ValidatedAdmissionRecord) (cl : ReplayClaim) (b : Bytes) (started : ℚ)
    (enforceBudget : Bool) : Act ProducerOrchestratorResult := do
  match ← auditOrUnavailable svc env .failure failureReason (some record.correlationId) true with
  | some failure => pure failure
  | none => completeAndWrite svc env record cl b started enforceBudget

/-- A failure response and its completion: the three lines that the handlers repeat. -/
def completeFailure (svc : Service) (env : Env) (failureReason : AuditReason) (reason : ResponseReason)
    (record : ValidatedAdmissionRecord) (cl : ReplayClaim) (started : ℚ) (enforceBudget : Bool) :
    Act ProducerOrchestratorResult := do
  let b ← response record.correlationId reason []
  completeFailureAndWrite svc env failureReason record cl b started enforceBudget

/-! ## Inference -/

/-- The loop of inline mode: the last `record_started` and the results, or the exception. -/
def inferInline (env : Env) (started : ℚ) :
    Nat → Nat → Option ℚ → Option ℚ × Except Exc (List RegisteredResult)
  | 0, _, last => (last, .ok [])
  | k + 1, i, last => match monotonicNow (env.monotonic (.recordStarted i)) with
    | .error e => (last, .error e)
    | .ok recordStarted => match env.infer i with
      | .error e => (some recordStarted, .error e)
      | .ok result =>
        match checkProcessing (env.monotonic (.recordChecked i)) started (some recordStarted) with
        | .error e => (some recordStarted, .error e)
        | .ok () =>
          let rest := inferInline env started k (i + 1) (some recordStarted)
          (rest.1, rest.2.map (result :: ·))

/-- The `try` body of the inference (:604-632). -/
def inferRecords (svc : Service) (env : Env) (record : ValidatedAdmissionRecord) (started : ℚ) :
    Option ℚ × Except Exc (List RegisteredResult) :=
  let check (results : List RegisteredResult) : Except Exc (List RegisteredResult) :=
    if results.length ≠ record.records.length then .error (.orchestrator .inferenceResultInvalid)
    else match checkProcessing (env.monotonic .inferenceDone) started none with
      | .error e => .error e
      | .ok () => .ok results
  if svc.inline then match env.prepare with
    | .error e => (none, .error e)
    | .ok n =>
      let p := inferInline env started n 0 none
      (p.1, p.2.bind check)
  else match env.worker with
    | .error e => (none, .error e)
    | .ok .malformed => (none, .error (.orchestrator .inferenceResultInvalid))
    | .ok (.batch results) => (none, check results)

/-! ## Candidates -/

/-- `build_alert_candidate` (`network_alerts.py:36`). -/
def buildAlertCandidate (sha256 : Bytes → String) (r : RegisteredResult) (createdAt : DateTime) :
    Option (AlertCandidate sha256) :=
  let result := r.inference
  if result.status ≠ "completed" ∨ result.reason ≠ "inference_succeeded" ∨
      result.predictedClass ≠ some "Attack" then none
  else match result.attackProbability with
    | none => none
    | some score => AlertCandidate.new sha256
      { schemaVersion := ALERT_CANDIDATE_SCHEMA_VERSION
        alertCandidateId := deriveAlertCandidateId sha256 r.sourceEventId DETECTOR_IDENTITY
          DETECTOR_VERSION result.modelIdentity result.modelVersion r.modelArtifactSha256
          DECISION_POLICY_VERSION
        sourceEventId := r.sourceEventId, correlationId := result.correlationId
        detectorIdentity := DETECTOR_IDENTITY, detectorVersion := DETECTOR_VERSION
        modelIdentity := result.modelIdentity, modelVersion := result.modelVersion
        modelArtifactSha256 := r.modelArtifactSha256
        featureContractIdentity := result.contractIdentity
        sourceRepresentationIdentity := result.sourceRepresentationIdentity
        observedAt := r.observedAt, createdAt := createdAt, uncalibratedModelScore := score
        decisionThreshold := result.decisionThreshold
        decisionPolicyVersion := DECISION_POLICY_VERSION, decision := "Attack"
        inferenceStatus := "completed", reason := "inference_succeeded" }

/-- The generator of :688-697, from record `i` on. -/
def buildCandidates (sha256 : Bytes → String) (env : Env) :
    Nat → List RegisteredResult → Except Exc (List (Option (AlertCandidate sha256)))
  | _, [] => .ok []
  | i, r :: rest =>
    if r.inference.status = "completed" ∧ r.inference.predictedClass = some "Attack" then
      match now env (.candidate i) with
      | .error e => .error e
      | .ok createdAt => match buildAlertCandidate sha256 r createdAt with
        | none => .error .alertCandidate
        | some c => (buildCandidates sha256 env (i + 1) rest).map (some c :: ·)
    else (buildCandidates sha256 env (i + 1) rest).map (none :: ·)

/-! ## Persistence -/

/-- What one turn of the persistence loop came to. -/
inductive InsertOutcome (sha256 : Bytes → String) where
  | done (result : AlertInsertResult sha256)
  | persistenceError (e : AlertPersistenceError)
  /-- A check that raised, before or after the insert. -/
  | checkFailed

/-- The `try` body of the loop (:719-726): check, insert, check again. -/
def insertChecked (svc : Service) (env : Env) (started : ℚ) (i : Nat)
    (candidate : AlertCandidate svc.codec.sha256) : Act (InsertOutcome svc.codec.sha256) := fun w =>
  match checkProcessing (env.monotonic (.beforeInsert i)) started none with
  | .error _ => (.ok .checkFailed, w)
  | .ok () =>
    let p := insert svc.codec.sha256 (env.insertFault i) w.alerts candidate
    let w' := { w with alerts := p.2 }
    match p.1 with
    | .error e => (.ok (.persistenceError e), w')
    | .ok result => match checkProcessing (env.monotonic (.afterInsert i)) started none with
      | .error _ => (.ok .checkFailed, w')
      | .ok () => (.ok (.done result), w')

/-- The errors after which nothing of this record was stored (:730-737). -/
def definiteFailure : AlertPersistenceError → Bool
  | .databaseUnavailable | .databaseBusy | .candidateTypeInvalid | .databaseRecordInvalid
  | .identityConflict => true
  | .databaseCorrupt | .databaseWriteFailed => false

/-- The loop of :715-759, from record `i` on with `durable` results stored so far. `none`: a definite
failure before anything was stored, answered with `internal_error`. -/
def persistAll (svc : Service) (env : Env) (record : ValidatedAdmissionRecord) (started : ℚ) :
    Nat → Nat → List (Option (AlertCandidate svc.codec.sha256)) →
      Act (Option (List (Option (AlertInsertResult svc.codec.sha256))))
  | _, _, [] => pure (some [])
  | i, durable, none :: rest => do
    let results ← persistAll svc env record started (i + 1) durable rest
    pure (results.map (none :: ·))
  | i, durable, some candidate :: rest => do
    match ← insertChecked svc env started i candidate with
    | .done result => do
      let results ← persistAll svc env record started (i + 1) (durable + 1) rest
      pure (results.map (some result :: ·))
    | .persistenceError e =>
      if definiteFailure e && durable == 0 then pure none
      else raiseAmbiguous env .alertPersistenceAmbiguous .internalError record
    | .checkFailed => raiseAmbiguous env .alertPersistenceAmbiguous .internalError record

/-! ## The final response -/

/-- The texts `disposition` and `reason` of an `AlertInsertResult`. -/
def insertResponse : InsertDisposition → ResponseDisposition × ResponseReason
  | .created => (.created, .alertCandidateCreated)
  | .existing => (.existing, .alertCandidateAlreadyExists)

/-- One turn of the loop of :763-800; `none` when it raises. -/
def recordDisposition {sha256 : Bytes → String} (index : Nat) (registered : RegisteredResult)
    (persistence : Option (AlertInsertResult sha256)) : Option ProducerRecordDisposition :=
  let inference := registered.inference
  if inference.status ≠ "completed" ∨ inference.predictedClass = none then
    ProducerRecordDisposition.new
      { recordIndex := index, disposition := .rejected, reason := .inferenceRejected }
  else if inference.predictedClass = some "Normal" then
    match inference.attackProbability with
    | none => none
    | some p => ProducerRecordDisposition.new
        { recordIndex := index, disposition := .notActionable, reason := .inferenceNotActionable
          predictedClass := some .normal, attackProbability := some p }
  else match persistence with
    | none => none
    | some result => match inference.attackProbability with
      | none => none
      | some p => ProducerRecordDisposition.new
          { recordIndex := index, disposition := (insertResponse result.disposition).1
            reason := (insertResponse result.disposition).2, predictedClass := some .attack
            attackProbability := some p, alertCandidateId := some result.candidate.alertCandidateId }

/-- `enumerate(zip(inferred, persisted, strict=True), start=index)`. -/
def recordDispositions {sha256 : Bytes → String} : Nat → List RegisteredResult →
    List (Option (AlertInsertResult sha256)) → Option (List ProducerRecordDisposition)
  | _, [], [] => some []
  | i, r :: rs, p :: ps => match recordDisposition i r p with
    | none => none
    | some d => (recordDispositions (i + 1) rs ps).map (d :: ·)
  | _, _, _ => none

/-- The response of a processed request (:761-803); `none` when anything in it raises. -/
def finalizeResponse {sha256 : Bytes → String} (record : ValidatedAdmissionRecord)
    (inferred : List RegisteredResult) (persisted : List (Option (AlertInsertResult sha256))) :
    Option Bytes :=
  match recordDispositions 1 inferred persisted with
  | none => none
  | some dispositions => response? record.correlationId .requestCompleted dispositions

/-- Every record rejected: the answer to a registered-reference rejection (:655-663). -/
def rejectedDispositions : Nat → Nat → Option (List ProducerRecordDisposition)
  | 0, _ => some []
  | k + 1, i => match ProducerRecordDisposition.new
        { recordIndex := i, disposition := .rejected, reason := .inferenceRejected } with
    | none => none
    | some d => (rejectedDispositions k (i + 1)).map (d :: ·)

/-! ## A granted claim -/

/-- Every record rejected by the network classifier: completed as such. -/
def completeRejected (svc : Service) (env : Env) (record : ValidatedAdmissionRecord) (cl : ReplayClaim)
    (started : ℚ) : Act ProducerOrchestratorResult :=
  match rejectedDispositions record.records.length 1 with
  -- `ProducerAdmissionError` of a record, not caught here
  | none => .throw .other
  | some records => do
    let b ← response record.correlationId .requestCompleted records
    completeAndWrite svc env record cl b started true

/-- The handlers of the inference (:633-684). -/
def inferenceFailed (svc : Service) (env : Env) (record : ValidatedAdmissionRecord) (cl : ReplayClaim)
    (started : ℚ) (recordStarted : Option ℚ) : Exc → Act ProducerOrchestratorResult
  | .networkInference =>
    let timedOut : Except Exc Bool := if !svc.inline then .ok false else
      match checkProcessing (env.monotonic .rejectionHandler) started recordStarted with
      | .ok () => .ok false
      | .error (.orchestrator _) => .ok true
      | .error e => .error e
    match timedOut with
    | .error e => .throw e
    | .ok true => completeFailure svc env .processingTimeout .processingTimeout record cl started false
    | .ok false => completeRejected svc env record cl started
  | .worker code =>
    let timedOut := code = .recordTimeout ∨ code = .requestTimeout
    if timedOut then
      completeFailure svc env .processingTimeout .processingTimeout record cl started false
    else completeFailure svc env .internalError .internalError record cl started true
  | .orchestrator .processingTimeout =>
    completeFailure svc env .processingTimeout .processingTimeout record cl started false
  | .orchestrator code => do
    poison
    fail code
  | _ => raiseAmbiguous env .inferenceOutcomeAmbiguous .internalError record

/-- From the inferred batch to the response (:686-806). -/
def persistAndRespond (svc : Service) (env : Env) (record : ValidatedAdmissionRecord) (cl : ReplayClaim)
    (started : ℚ) (inferred : List RegisteredResult) : Act ProducerOrchestratorResult :=
  match buildCandidates svc.codec.sha256 env 0 inferred with
  | .error .alertCandidate | .error (.orchestrator _) =>
    completeFailure svc env .internalError .internalError record cl started true
  | .error _ => raiseAmbiguous env .candidateConstructionAmbiguous .internalError record
  | .ok candidates => do
    match ← persistAll svc env record started 0 0 candidates with
    | none => completeFailure svc env .internalError .internalError record cl started true
    | some persisted => match finalizeResponse record inferred persisted with
      | none => raiseAmbiguous env .responseFinalizationAmbiguous .internalError record
      | some b => completeAndWrite svc env record cl b started true

def processClaimed (svc : Service) (env : Env) (record : ValidatedAdmissionRecord) (cl : ReplayClaim) :
    Act ProducerOrchestratorResult := do
  match ← auditOrUnavailable svc env .requestAdmitted .requestAdmitted (some record.correlationId) true with
  | some failure => pure failure
  | none => do
    -- outside every `try`: an exception here leaves the claim as it is
    let started ← Prog.ofExcept (monotonicNow (env.monotonic .processingStarted))
    let outcome := inferRecords svc env record started
    match outcome.2 with
    | .error e => inferenceFailed svc env record cl started outcome.1 e
    | .ok inferred => persistAndRespond svc env record cl started inferred

/-! ## One session -/

/-- `_transport_reason` (:414-431). -/
def transportReason (e : TransportError) (authenticated : Bool) : AuditReason :=
  if !authenticated then match e.reason with
    | .credentialDisabled => .credentialDisabled
    | .credentialRevoked => .credentialRevoked
    | .credentialNotYetValid => .credentialNotYetValid
    | .credentialExpired => .credentialExpired
    | _ => .authenticationFailed
  else match e.code with
    | .requestTooLarge => .requestTooLarge
    | .bodyIncomplete | .requestReadFailed | .unexpectedTrailingData => .bodyIncomplete
    | _ => if e.reason = .requestTimeout then .requestTimeout else .invalidRequest

/-- `_admission_reason` (:399-412). -/
def admissionReason : SecurityEvent → AuditReason
  | .producerMismatch => .producerMismatch
  | .sourceContractDenied => .sourceContractDenied
  | .requestTimeInvalid => .requestTimeInvalid
  | .requestTooLarge => .requestTooLarge
  | .bodyIncomplete => .bodyIncomplete
  | .other => .invalidRequest

/-- The audit of a transport error, and its end: `poisons` only while reading the body (:823-857). -/
def transportFailed {α : Type} (env : Env) (site : AuditSite) (e : TransportError) (poisons : Bool) :
    Act α := do
  match ← Prog.attempt (appendAudit env site (transportReason e true) none) with
  | .ok () => fail (.rejected (transportReason e true))
  | .error _ => do
    poisonIf poisons
    fail .auditUnavailable

/-- Audit, then answer without a claim. -/
def auditAndAnswer (svc : Service) (env : Env) (site : AuditSite) (auditReason : AuditReason)
    (correlationId : Option String) (answer : Act ProducerOrchestratorResult) :
    Act ProducerOrchestratorResult := do
  match ← auditOrUnavailable svc env site auditReason correlationId false with
  | some failure => pure failure
  | none => answer

/-- `_response` and `_write`, for a correlation id that may be missing (it is then no UUID). -/
def answer (svc : Service) (env : Env) (correlationId : Option String) (reason : ResponseReason) :
    Act ProducerOrchestratorResult := do
  let b ← response (correlationId.getD "") reason []
  write svc env b

/-- The record belongs to the session it arrived on (:838-847). -/
def sessionOwns (session : Session) (record : ValidatedAdmissionRecord) (bodyLength : Nat) : Bool :=
  record.producerId == session.producerId && record.credentialId == session.credentialId &&
    session.allowedSourceContracts.contains record.sourceContract && record.contentLength == bodyLength

/-- `read_body`, `admit_producer_request` and the session check: the record, or the exception. -/
def admitRecord (env : Env) (session : Session) :
    Except (Exc ⊕ TransportError ⊕ AdmissionError) ValidatedAdmissionRecord :=
  match env.readBody with
  | .error e => .error (.inr (.inl e))
  | .ok bodyLength => match now env .admission with
    | .error e => .error (.inl e)
    | .ok _ => match env.admitted with
      | .error e => .error (.inr (.inr e))
      | .ok record =>
        if sessionOwns session record bodyLength then .ok record
        else .error (.inr (.inr ⟨.producerMismatch, none⟩))

/-- Up to the lease (:810-925): a result that ends the request, or the record that holds a lease. -/
def admitAndGate (svc : Service) (env : Env) (session : Session) :
    Act (ProducerOrchestratorResult ⊕ ValidatedAdmissionRecord) :=
  match env.readRequestHead with
  | .error e => transportFailed env .requestHead e false
  | .ok () => match admitRecord env session with
    | .error (.inl e) => .throw e
    | .error (.inr (.inl e)) => transportFailed env .requestBody e true
    | .error (.inr (.inr e)) =>
      .inl <$> auditAndAnswer svc env .admission (admissionReason e.securityEvent) e.correlationId
        (answer svc env e.correlationId .requestRejected)
    | .ok record =>
      let decision := if session.allowedSourceContracts ≠ [REGISTERED_UNSW_SOURCE_CONTRACT] then
          .error .other
        else env.acquire
      match decision with
      | .error e =>
        let reason := if e = .monotonicClockInvalid then .clockUnavailable else .sourceContractDenied
        .inl <$> auditAndAnswer svc env .gateError reason (some record.correlationId)
          (fail (.rejected reason))
      | .ok .rateLimited =>
        .inl <$> auditAndAnswer svc env .gateDenied .rateLimited (some record.correlationId)
          (answer svc env (some record.correlationId) .rateLimited)
      | .ok .serverBusy =>
        .inl <$> auditAndAnswer svc env .gateDenied .serverBusy (some record.correlationId)
          (answer svc env (some record.correlationId) .serverBusy)
      | .ok .accepted => pure (.inr record)

/-- `self._replay.claim(record, claimed_at=self._now())` on the world's journal. -/
def journalClaim (svc : Service) (env : Env) (record : ValidatedAdmissionRecord) :
    Act (Except JournalError ReplayClaimResult) := fun w =>
  match now env .claim with
  | .error e => (.error e, w)
  | .ok t =>
    let p := claim svc.codec svc.gen record env.ownershipToken (some t) env.claimFault w.journal
    (.ok p.1, { w with journal := p.2 })

/-- From the claim on (:927-974). -/
def claimAndProcess (svc : Service) (env : Env) (record : ValidatedAdmissionRecord) :
    Act ProducerOrchestratorResult := do
  let cid := some record.correlationId
  match ← journalClaim svc env record with
  | .error .requestReplayRejected =>
    auditAndAnswer svc env .replayRejected .requestReplayRejected cid
      (answer svc env cid .requestReplayRejected)
  | .error _ => raiseAmbiguous env .replayClaimAmbiguous .internalError record
  | .ok replay => match replay.disposition, replay.claim with
    | .completed, _ =>
      auditAndAnswer svc env .replayCompleted .requestCompleted cid
        (match replay.cachedResponse with
        | none => do
          poison
          fail .cachedResponseInvalid
        | some b => write svc env b)
    | .inProgress, none =>
      auditAndAnswer svc env .replayPending .requestInProgress cid (answer svc env cid .requestInProgress)
    | .outcomeUnknown, none =>
      auditAndAnswer svc env .replayPending .outcomeUnknown cid (answer svc env cid .outcomeUnknown)
    | _, some cl =>
      if replay.reason ≠ .requestClaimed then do
        poison
        fail .replayClaimInvalid
      else processClaimed svc env record cl

/-- The `finally` of a request that holds a lease (:975-990). -/
def releasing (env : Env) (body : Act ProducerOrchestratorResult) : Act ProducerOrchestratorResult := do
  let outcome ← Prog.attempt body
  match env.release with
  | .error _ => do
    poison
    fail .leaseReleaseFailed
  | .ok () => Prog.ofExcept outcome

def processSession (svc : Service) (env : Env) (session : Session) : Act ProducerOrchestratorResult := do
  match ← admitAndGate svc env session with
  | .inl result => pure result
  | .inr record => releasing env (claimAndProcess svc env record)

/-! ## `process_one` -/

def acceptFailed {α : Type} (env : Env) (e : TransportError) : Act α :=
  match e.code with
  | .listenerAcceptTimeout => fail .acceptTimeout
  | .listenerNotOpen | .listenerUnavailable => fail .listenerUnavailable
  | _ => do
    match ← Prog.attempt (appendAudit env .accept (transportReason e false) none) with
    | .error _ => fail .auditUnavailable
    | .ok () => fail .authenticationRejected

def processOne (svc : Service) (env : Env) : Act ProducerOrchestratorResult := do
  let w ← Prog.get
  if w.fatal then fail .serviceFatal
  else do
    let _ ← Prog.ofExcept (now env .accept)
    match env.accept with
    | .error e => acceptFailed env e
    | .ok none => do
      poison
      fail .transportSessionInvalid
    | .ok (some session) => processSession svc env session

end ThreatFusion.Orchestrator
