import ThreatFusion.Soar.Ledger
import ThreatFusion.Lib.Program
/-
# `ApprovalGatedSoarEngine`: the operations as sequences of repository calls

`soar/playbook_ledger.py`, second part. Each repository call is one step on the tables; so are the clock
and the `uuid4` that an operation reads (they leave the tables alone). An exception ends the operation.

| here | there |
| --- | --- |
| `handle`                      | the repository: what one call does in one environment |
| `recommendActionsForAlert`    | `recommend_actions_for_alert` (:810-898) |
| `Transition.program`          | the body that the three transitions share |
| `decideRecommendation`        | `decide_recommendation` (:900-964) |
| `executeApprovedAction`       | `execute_approved_action` (:966-1041) |
| `rollbackExecutedAction`      | `rollback_executed_action` (:1043-1116), which also checks the actor and the chain |
| `recordCallbackVerification`  | `record_callback_verification` (:741-780) |
-/
namespace ThreatFusion.Soar
open Py JsonText Concurrency Correlation

inductive RepoCall where
  | now
  | uuid4
  | getRecord (playbookId : String)
  | verifyAuditChainIntegrity (playbookId : Option String) (requireNonEmpty : Bool)
  | saveRecord (record : SoarPlaybookRecord)
  | appendAuditEvent (ev : AuditEvent)
  /-- The `UPDATE` of the three times and `updated_at_utc` (:766-771). -/
  | updateTimings (playbookId : String) (tApprovalQueued tCallbackVerified tResponse : ℚ) (updatedAtUtc : String)

def RepoCall.Reply : RepoCall → Type
  | .now => DateTime
  | .uuid4 => String
  | .getRecord _ => Option SoarPlaybookRecord
  | .verifyAuditChainIntegrity _ _ => Bool × String
  | .saveRecord _ => Unit
  | .appendAuditEvent _ => SoarAuditEntry
  | .updateTimings _ _ _ _ _ => Unit

def updateTimings (playbookId : String) (tApprovalQueued tCallbackVerified tResponse : ℚ)
    (updatedAtUtc : String) (r : SoarPlaybookRecord) : SoarPlaybookRecord :=
  if r.playbookId = playbookId then
    { r with tApprovalQueued := some tApprovalQueued, tCallbackVerified := some tCallbackVerified
             tResponse := some tResponse, updatedAtUtc }
  else r

/-- One call; with `env.fault` its connection or transaction fails in SQLite. -/
def handle (rt : Runtime) (secret : String) : Handler RepoCall.Reply SoarError SoarDb AppendCall
  | env, .now, db => (.ok env.now, db)
  | env, .uuid4, db => (.ok env.uuid, db)
  | env, .getRecord playbookId, db =>
    if env.fault then (.error .sqlite, db) else (.ok (getRecord playbookId db), db)
  | env, .verifyAuditChainIntegrity playbookId requireNonEmpty, db =>
    if env.fault then (.error .sqlite, db)
    else (.ok (verifyAuditChainIntegrity rt secret playbookId requireNonEmpty db), db)
  | env, .saveRecord record, db => saveRecord env.fault record db
  | env, .appendAuditEvent ev, db => appendAuditEvent rt secret env ev db
  | env, .updateTimings playbookId queued callback response updated, db =>
    if env.fault then (.error .sqlite, db)
    else (.ok (), { db with records := db.records.map (updateTimings playbookId queued callback response updated) })

inductive SoarResult where
  | record (r : SoarPlaybookRecord)
  | records (rs : List SoarPlaybookRecord)
  | duration (t : ℚ)

abbrev SoarProgram := Program RepoCall.Reply SoarError SoarResult

/-! ## Recommendation -/

def rolePrefixes : List String :=
  ["attacker:", "victim:", "client:", "server:", "sensor:", "node:", "host:", "vm:"]

/-- `EntityProvenanceContract.src_ip` (correlation_engine.py:91-108). -/
def srcIp (p : EntityProvenanceContract) : Option String :=
  (given p.srcEntityId).map fun val =>
    match rolePrefixes.find? fun r => r.toList.isPrefixOf val.toList with
    | some r => String.ofList (val.toList.drop r.length)
    | none => val

def pendingRecord (uuid candidateId actionType targetEntity now : String) (queued : ℚ) : SoarPlaybookRecord :=
  { playbookId := "soar:" ++ String.ofList (uuid.toList.take 12), candidateId, actionType, targetEntity
    state := .pendingApproval, version := 1, actorId := none, decisionReason := none
    preActionSnapshot := none, executionEvidence := none, rollbackReason := none
    createdAtUtc := now, updatedAtUtc := now, tApprovalQueued := some queued }

/-- The event of a recommendation (:889-896). -/
def recommendEvent (candidateId : String) (r : SoarPlaybookRecord) : AuditEvent :=
  { playbookId := r.playbookId, action := "recommend_action", actorId := "system:recommendation_engine"
    oldState := "none", newState := "pending_approval"
    reason := some s!"Recommended action {r.actionType} for candidate {candidateId}" }

/-- The loop over the records (:887-898). -/
def saveRecommended (candidateId : String) (all : List SoarPlaybookRecord) :
    List SoarPlaybookRecord → SoarProgram
  | [] => .ret (.records all)
  | r :: rest =>
    .call (.saveRecord r) fun _ =>
    .call (.appendAuditEvent (recommendEvent candidateId r)) fun _ => saveRecommended candidateId all rest

def recommendActionsForAlert (rt : Runtime) (candidateId : String)
    (provenance : Option EntityProvenanceContract) (tApprovalQueued : Option ℚ) : SoarProgram :=
  .call .now fun now : DateTime =>
  let queued := tApprovalQueued.getD (rt.round now.timestamp)
  let pending := fun uuid actionType target =>
    pendingRecord uuid candidateId actionType target now.isoformat queued
  match provenance.filter (isVerified rt.toRuntime) with
  | some p =>
    let sensorId := (given p.entityNamespaceId).getD "azure-suricata-edge-01"
    match given (srcIp p) with
    | some ip =>
      .call .uuid4 fun uuid : String => .call .uuid4 fun uuid₂ : String =>
      let rs := [pending uuid "verify_and_contain_lab_source_ip" ip,
        pending uuid₂ "capture_pcaps_on_victim_sensor" sensorId]
      saveRecommended candidateId rs rs
    | none =>
      .call .uuid4 fun uuid : String =>
      let rs := [pending uuid "capture_pcaps_on_victim_sensor" sensorId]
      saveRecommended candidateId rs rs
  | none =>
    .call .uuid4 fun uuid : String =>
    let rs := [pending uuid "escalate_flow_anomaly_for_packet_inspection" candidateId]
    saveRecommended candidateId rs rs

/-! ## Transitions -/

/-- The columns that a transition may change besides state, version, actor and `updated_at_utc`. -/
structure TransitionFields where
  decisionReason : Option String
  preActionSnapshot : Option String
  executionEvidence : Option String
  rollbackReason : Option String

def SoarPlaybookRecord.fields (r : SoarPlaybookRecord) : TransitionFields :=
  ⟨r.decisionReason, r.preActionSnapshot, r.executionEvidence, r.rollbackReason⟩

structure Transition where
  playbookId : String
  actorId : String
  expectedVersion : ℤ
  /-- The first argument check that fails. -/
  badArgument : Option SoarError
  required : PlaybookState
  wrongState : SoarPlaybookRecord → String
  /-- The check after the version check: rollback compares the actor. -/
  refusal : SoarPlaybookRecord → Option SoarError := fun _ => none
  /-- The chain verification of rollback, by the text of its refusal. -/
  chainCheck : Option (String → String) := none
  target : PlaybookState
  action : String
  fields : SoarPlaybookRecord → String → TransitionFields
  auditReason : SoarPlaybookRecord → String
  auditSnapshot : SoarPlaybookRecord → Option String := fun _ => none

namespace Transition
variable (t : Transition)

def check (record : SoarPlaybookRecord) : Option SoarError :=
  if record.state ≠ t.required then some (.stateTransition (t.wrongState record))
  else if record.version ≠ t.expectedVersion then
    some (.optimisticConcurrency (s!"Optimistic lock conflict on {t.playbookId}: " ++
      s!"expected version {t.expectedVersion}, found {record.version}"))
  else t.refusal record

/-- The record that replaces the one that was read. -/
def updated (record : SoarPlaybookRecord) (now : String) : SoarPlaybookRecord :=
  let f := t.fields record now
  { record with
    state := t.target, version := record.version + 1, actorId := some t.actorId
    decisionReason := f.decisionReason, preActionSnapshot := f.preActionSnapshot
    executionEvidence := f.executionEvidence, rollbackReason := f.rollbackReason, updatedAtUtc := now }

def event (record : SoarPlaybookRecord) (now : String) : AuditEvent :=
  { playbookId := t.playbookId, action := t.action, actorId := t.actorId, oldState := record.state.text
    newState := t.target.text, reason := some (t.auditReason record)
    snapshot := t.auditSnapshot (t.updated record now) }

def appending (record : SoarPlaybookRecord) (now : String) : SoarProgram :=
  .call (.appendAuditEvent (t.event record now)) fun _ => .ret (.record (t.updated record now))

def saving (record : SoarPlaybookRecord) (now : String) : SoarProgram :=
  .call (.saveRecord (t.updated record now)) fun _ => t.appending record now

def commit (record : SoarPlaybookRecord) : SoarProgram :=
  .call .now fun now : DateTime => t.saving record now.isoformat

def verifying (record : SoarPlaybookRecord) : SoarProgram :=
  match t.chainCheck with
  | none => t.commit record
  | some message =>
    .call (.verifyAuditChainIntegrity (some t.playbookId) true) fun verdict : Bool × String =>
    if verdict.1 then t.commit record else .throw (.stateTransition (message verdict.2))

def program : SoarProgram :=
  match t.badArgument with
  | some e => .throw e
  | none =>
    .call (.getRecord t.playbookId) fun found : Option SoarPlaybookRecord =>
    match found with
    | none => .throw (.keyError s!"Playbook record {t.playbookId} not found")
    | some record => match t.check record with
      | some e => .throw e
      | none => t.verifying record

end Transition

/-- The first of the argument checks that fails, as a `ValueError`. -/
def argumentError (checks : List (Bool × String)) : Option SoarError :=
  (checks.find? (·.1)).map fun c => .valueError c.2

def decideRecommendation (playbookId actorId decision reason : String) (expectedVersion : ℤ) : Transition where
  playbookId := playbookId
  actorId := actorId
  expectedVersion := expectedVersion
  badArgument := argumentError
    [(isBlank actorId, "actor_id is required for SOAR decision"),
      (isBlank reason, "Non-empty reason is required for SOAR decision"),
      (decision != "approve" && decision != "reject", "decision must be 'approve' or 'reject'")]
  required := .pendingApproval
  wrongState r := s!"Cannot decide action {playbookId} in state '{r.state.text}'; " ++
    "action must be in 'pending_approval' state."
  target := if decision = "approve" then .approved else .rejected
  action := "analyst_" ++ decision
  fields r _ := { r.fields with decisionReason := some reason }
  auditReason _ := reason

/-- `json.dumps` of a flat object with the default separators, keys as they come. -/
def spacedDumps (fields : List (String × Json)) : String :=
  String.ofList ('{' :: (", ".toList.intercalate (fields.map fun f => quote f.1 ++ ':' :: ' ' :: render f.2) ++ ['}']))

def preSnapshot (record : SoarPlaybookRecord) (now : String) : String :=
  spacedDumps [("target_entity", .str record.targetEntity), ("routing_table_state", .str "active"),
    ("access_control_rule", .str "ALLOW"), ("snapshot_captured_at_utc", .str now)]

def executionEvidence (record : SoarPlaybookRecord) (actorId now : String) : String :=
  spacedDumps [("execution_mode", .str "simulated_safe_isolation"),
    ("command", .str s!"iptables -I FORWARD -s {record.targetEntity} -j DROP"), ("exit_code", .int 0),
    ("executed_by", .str actorId), ("executed_at_utc", .str now)]

def executeApprovedAction (playbookId actorId : String) (expectedVersion : ℤ) : Transition where
  playbookId := playbookId
  actorId := actorId
  expectedVersion := expectedVersion
  badArgument := argumentError [(isBlank actorId, "actor_id is required to execute action")]
  required := .approved
  wrongState r := s!"Cannot execute action {playbookId} in state '{r.state.text}'. " ++
    "Action must be explicitly 'approved' by an analyst before execution."
  target := .executedSimulated
  action := "execute_simulated_action"
  fields r now :=
    { r.fields with
      preActionSnapshot := some (preSnapshot r now)
      executionEvidence := some (executionEvidence r actorId now) }
  auditReason r := s!"Executed simulated containment for target {r.targetEntity}"
  auditSnapshot updated := updated.preActionSnapshot

def rollbackExecutedAction (playbookId actorId rollbackReason : String) (expectedVersion : ℤ) : Transition where
  playbookId := playbookId
  actorId := actorId
  expectedVersion := expectedVersion
  badArgument := argumentError
    [(isBlank actorId, "actor_id is required to rollback action"),
      (isBlank rollbackReason, "Non-empty rollback_reason is required")]
  required := .executedSimulated
  wrongState r := s!"Cannot rollback action {playbookId} in state '{r.state.text}'. " ++
    "Action must be in 'executed_simulated' state."
  refusal r :=
    if r.actorId ≠ some (strip actorId) then
      some (.stateTransition s!"Cannot rollback action {playbookId}: actor does not match the executor.")
    else none
  chainCheck := some fun message =>
    s!"Cannot rollback action {playbookId}: audit chain verification failed ({message})."
  target := .rolledBack
  action := "rollback_action"
  fields r _ := { r.fields with rollbackReason := some rollbackReason }
  auditReason _ := rollbackReason
  auditSnapshot updated := updated.preActionSnapshot

/-! ## Callbacks -/

/-- `datetime.fromisoformat(created_at_utc…).timestamp()`: for rows without a queue time. -/
def createdEpoch (rt : Runtime) (createdAtUtc : String) : Except SoarError ℚ :=
  match rt.parseUtc createdAtUtc with
  | none => .error (.valueError "Invalid isoformat string")
  | some d => .ok (rt.round ((d.instant - EPOCH_MICROS : ℤ) / 1000000))

def approvalTime (rt : Runtime) (tApprovalQueued : Option ℚ) (record : SoarPlaybookRecord) : Except SoarError ℚ :=
  match tApprovalQueued.or record.tApprovalQueued with
  | some t => .ok t
  | none => createdEpoch rt record.createdAtUtc

def recordCallbackVerification (rt : Runtime) (playbookId : String) (tCallbackVerified : ℚ)
    (tApprovalQueued : Option ℚ) : SoarProgram :=
  .call (.getRecord playbookId) fun found : Option SoarPlaybookRecord =>
  match found with
  | none => .throw (.stateTransition s!"Playbook '{playbookId}' not found")
  | some record => match approvalTime rt tApprovalQueued record with
    | .error e => .throw e
    | .ok approval =>
      let tResp := roundSix rt.round (max 0 (rt.round (tCallbackVerified - approval)))
      .call .now fun now : DateTime =>
      .call (.updateTimings playbookId approval tCallbackVerified tResp now.isoformat) fun _ =>
      .ret (.duration tResp)

end ThreatFusion.Soar
