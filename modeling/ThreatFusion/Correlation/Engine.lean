import ThreatFusion.Correlation.Provenance
import ThreatFusion.Lib.Grouping
import Mathlib.Data.Finset.Card
import Mathlib.Data.List.Sort
/-
# Dual-window correlation

`alerts/correlation_engine.py`, the correlator. The two `Flush` copies of each window loop (:494-539 and
:541-582 of the burst pass, :606-682 and :684-753 of the campaign pass) build the same incident, so each
pass is `Grouping.windows` and one builder.

| here | there |
| --- | --- |
| `deriveIncidentId`             | `derive_incident_id` (:64-68) |
| `IncidentRecord`               | `IncidentRecord` (:207-227) |
| `computeAlertReductionMetrics` | `compute_alert_reduction_metrics` (:272-351) |
| `unverifiedSingleton`          | the loop over `unverified_items` (:407-447) |
| `burstRuns`                    | pass 1: `by_5tuple` and the 30 s window |
| `campaignRuns`                 | pass 2: `by_host_pair` over `unclustered_verified` and the 600 s window |
| `correlateAlertCandidates`     | `correlate_alert_candidates` (:354-762); `now` is `now_iso` |
-/
namespace ThreatFusion.Correlation
open Py Alerts Grouping

def BURST_WINDOW_SECONDS : ℚ := 30
def CAMPAIGN_WINDOW_SECONDS : ℚ := 600
def INCIDENT_SCHEMA_VERSION : String := "incident_record_v1"
def ALERT_REDUCTION_SCHEMA_VERSION : String := "alert_reduction_summary_v1"

/-- The codes of `CorrelationSafetyError` that correlation raises, and the failed `assert`. -/
inductive CorrelationError where
  | duplicateAlertAssignment | criticalAlertDropped | criticalDecisionDowngraded | assertionError
deriving DecidableEq

inductive CorrelationRule where
  | singletonUnverifiedProvenance | burst5tuple | campaignEntityPair | singletonVerified
  | manualCorrectionSplit
deriving DecidableEq

def CorrelationRule.text : CorrelationRule → String
  | .singletonUnverifiedProvenance => "corr_singleton_unverified_provenance_v1"
  | .burst5tuple => "corr_burst_5tuple_30s_v1"
  | .campaignEntityPair => "corr_campaign_entity_pair_600s_v1"
  | .singletonVerified => "corr_singleton_verified_v1"
  | .manualCorrectionSplit => "corr_manual_correction_split_v1"

inductive CorrelationMode where
  | singletonUnverifiedProvenance | singletonVerifiedProvenance | burstCorrelated | campaignCorrelated
  | manualCorrectionSplit
deriving DecidableEq

inductive WindowType where
  | none | burst30s | campaign600s | manual
deriving DecidableEq

structure MemberJustification where
  anchorAlertId : String
  deltaSeconds : ℚ
  matchedRelationshipKey : String
  ruleId : CorrelationRule
  provenanceSummary : String
deriving DecidableEq

/-- The columns of the `incidents` table. -/
structure IncidentRow where
  schemaVersion : String
  incidentId : String
  correlationMode : CorrelationMode
  windowType : WindowType
  correlationRuleId : CorrelationRule
  entityNamespaceId : Option String
  constituentAlertCount : Nat
  maxProbabilityScore : PyFloat
  escalatedDecision : String
  earliestObservedAt : String
  latestObservedAt : String
  provenanceStatus : String
  createdAt : String
  tFlowIngest : Option PyFloat := none
  tRagGrounded : Option PyFloat := none
  tInvestigation : Option PyFloat := none
deriving DecidableEq

structure IncidentRecord extends IncidentRow where
  constituentAlertIds : List String
  memberJustifications : List (String × MemberJustification)
deriving DecidableEq

structure AlertReductionSummary where
  schemaVersion : String
  totalAlerts : Nat
  totalIncidents : Nat
  reductionRatio : ℚ
  criticalAlertsInput : Nat
  criticalAlertsRetained : Nat
  criticalRetentionRatio : ℚ
deriving DecidableEq

structure IncidentCorrelationResult where
  incidents : List IncidentRecord
  summary : AlertReductionSummary
deriving DecidableEq

/-- The identifiers are sorted before they are hashed. -/
def deriveIncidentId (sha256 : Bytes → String) (rule : CorrelationRule) (ids : List String) : String :=
  "incident_v1:" ++ identityDigest sha256 "threatfusion:incident"
    (INCIDENT_SCHEMA_VERSION :: rule.text :: ids.insertionSort (· ≤ ·))

variable {rt : Runtime}

/-! ## The reduction metrics -/

def isCriticalAlert (c : AlertCandidate rt.sha256) : Bool :=
  c.decision == "Attack" || c.decisionThreshold.le c.uncalibratedModelScore

/-- `candidate_by_id[aid]`, when `aid` is there. -/
def candidateById (unique : List (AlertCandidate rt.sha256)) (id : String) :
    Option (AlertCandidate rt.sha256) :=
  unique.find? fun c => c.alertCandidateId = id

/-- The critical retention check (:320-338). -/
def criticalRetained (unique : List (AlertCandidate rt.sha256)) :
    List IncidentRecord → Nat → Except CorrelationError Nat
  | [], retained => .ok retained
  | inc :: rest, retained =>
    let constituents := inc.constituentAlertIds.filterMap (candidateById unique)
    if constituents.any isCriticalAlert then
      if inc.escalatedDecision ≠ "Attack" then .error .criticalDecisionDowngraded
      else criticalRetained unique rest (retained + constituents.countP isCriticalAlert)
    else criticalRetained unique rest retained

def computeAlertReductionMetrics (alerts : List (AlertInput rt)) (incidents : List IncidentRecord) :
    Except CorrelationError AlertReductionSummary :=
  let unique := distinctBy (·.alertCandidateId) (alerts.map AlertInput.alert)
  if unique.length = 0 then
    .ok { schemaVersion := ALERT_REDUCTION_SCHEMA_VERSION, totalAlerts := 0, totalIncidents := 0,
          reductionRatio := 0, criticalAlertsInput := 0, criticalAlertsRetained := 0,
          criticalRetentionRatio := 1 }
  else
    let assigned := incidents.flatMap (·.constituentAlertIds)
    if assigned.length ≠ assigned.toFinset.card then .error .duplicateAlertAssignment
    else if assigned.toFinset ≠ (unique.map (·.alertCandidateId)).toFinset then
      .error .criticalAlertDropped
    else
      let input := unique.countP isCriticalAlert
      match criticalRetained unique incidents 0 with
      | .error e => .error e
      | .ok retained =>
        if 0 < input ∧ retained ≠ input then .error .criticalAlertDropped
        else .ok { schemaVersion := ALERT_REDUCTION_SCHEMA_VERSION, totalAlerts := unique.length,
                   totalIncidents := incidents.length,
                   reductionRatio := rt.round (1 - rt.round (incidents.length / unique.length)),
                   criticalAlertsInput := input, criticalAlertsRetained := retained,
                   criticalRetentionRatio := 1 }

/-! ## Items and clusters -/

/-- `(candidate, provenance, timestamp)`. -/
structure Item (rt : Runtime) where
  candidate : AlertCandidate rt.sha256
  provenance : EntityProvenanceContract
  timestamp : ℚ

namespace Item

def id (it : Item rt) : String := it.candidate.alertCandidateId

def verified (it : Item rt) : Bool := isVerified rt it.provenance

/-- The sort key `(x[2], x[0].alert_candidate_id)`. -/
abbrev notAfter : Item rt → Item rt → Prop := lexLe timestamp id

end Item

def sortItems (items : List (Item rt)) : List (Item rt) := items.insertionSort Item.notAfter

/-- The normalisation of one input (:383-398). -/
def normalize (provenanceMap : String → Option EntityProvenanceContract) (a : AlertInput rt) : Item rt :=
  let prov := (a.ownProvenance <|> provenanceMap a.id).getD {}
  { candidate := a.alert, provenance := prov, timestamp := parseTimestamp rt a.alert prov }

/-- `max` of a sequence (`min`, with the order turned round): the first of the greatest. -/
def firstMax {α : Type} (lt : α → α → Bool) (x : α) (xs : List α) : α :=
  xs.foldl (fun best y => if lt best y then y else best) x

/-- `f"{value}"` of an optional text. -/
def orNone (s : Option String) : String := s.getD "None"

/-- The f-string of a burst (:507). -/
def burstRelationship (p : EntityProvenanceContract) : String :=
  orNone p.srcEntityId ++ ":" ++ orNone p.dstEntityId ++ ":" ++ orNone p.protocol ++ ":" ++
    orNone p.serviceOrPort

/-- The sorted endpoints of a campaign (:615). -/
def campaignRelationship (p : EntityProvenanceContract) : String :=
  let src := p.srcEntityId.getD ""
  let dst := p.dstEntityId.getD ""
  min src dst ++ "<->" ++ max src dst

/-- A singleton of an unverified item (:407-447). -/
def unverifiedSingleton (now : String) (it : Item rt) : IncidentRecord :=
  let reason := (verificationRejectionReason rt it.provenance).elim "unverified_provenance" (·.text)
  let statusLabel :=
    if reason ∈ ["missing_entity_namespace", "clock_not_synchronized", "missing_src_entity_id",
      "missing_dst_entity_id"] then "unverified_provenance" else reason
  { schemaVersion := INCIDENT_SCHEMA_VERSION
    incidentId := deriveIncidentId rt.sha256 .singletonUnverifiedProvenance [it.id]
    correlationMode := .singletonUnverifiedProvenance
    windowType := .none
    correlationRuleId := .singletonUnverifiedProvenance
    entityNamespaceId := none
    constituentAlertIds := [it.id]
    constituentAlertCount := 1
    maxProbabilityScore := it.candidate.uncalibratedModelScore
    escalatedDecision := it.candidate.decision
    earliestObservedAt := it.candidate.observedAt.isoformat
    latestObservedAt := it.candidate.observedAt.isoformat
    provenanceStatus := statusLabel
    createdAt := now
    memberJustifications := [(it.id,
      { anchorAlertId := it.id, deltaSeconds := 0, matchedRelationshipKey := "none",
        ruleId := .singletonUnverifiedProvenance, provenanceSummary := reason })] }

/-- A verified item that no window took (:650-682). -/
def verifiedSingleton (now ns : String) (it : Item rt) : IncidentRecord :=
  { schemaVersion := INCIDENT_SCHEMA_VERSION
    incidentId := deriveIncidentId rt.sha256 .singletonVerified [it.id]
    correlationMode := .singletonVerifiedProvenance
    windowType := .none
    correlationRuleId := .singletonVerified
    entityNamespaceId := some ns
    constituentAlertIds := [it.id]
    constituentAlertCount := 1
    maxProbabilityScore := it.candidate.uncalibratedModelScore
    escalatedDecision := it.candidate.decision
    earliestObservedAt := it.candidate.observedAt.isoformat
    latestObservedAt := it.candidate.observedAt.isoformat
    provenanceStatus := "verified_entity_bearing"
    createdAt := now
    memberJustifications := [(it.id,
      { anchorAlertId := it.id, deltaSeconds := 0, matchedRelationshipKey := "singleton_verified",
        ruleId := .singletonVerified,
        provenanceSummary := "namespace=" ++ ns ++ ",clock_synchronized=True" })] }

/-- A cluster of a window pass: the rule, its mode, its window and its relationship text differ. -/
def clusterIncident (rule : CorrelationRule) (mode : CorrelationMode) (window : WindowType)
    (relationship : EntityProvenanceContract → String) (now ns : String) (r : Run (Item rt)) :
    IncidentRecord :=
  let ids := r.members.map Item.id
  let laterScores := r.later.map (·.candidate.uncalibratedModelScore)
  let laterTimes := r.later.map (·.candidate.observedAt.isoformat)
  { schemaVersion := INCIDENT_SCHEMA_VERSION
    incidentId := deriveIncidentId rt.sha256 rule ids
    correlationMode := mode
    windowType := window
    correlationRuleId := rule
    entityNamespaceId := some ns
    constituentAlertIds := ids
    constituentAlertCount := ids.length
    maxProbabilityScore := firstMax PyFloat.lt r.anchor.candidate.uncalibratedModelScore laterScores
    escalatedDecision :=
      if r.members.any (·.candidate.decision == "Attack") then "Attack" else r.anchor.candidate.decision
    earliestObservedAt :=
      firstMax (fun a b => decide (b < a)) r.anchor.candidate.observedAt.isoformat laterTimes
    latestObservedAt :=
      firstMax (fun a b => decide (a < b)) r.anchor.candidate.observedAt.isoformat laterTimes
    provenanceStatus := "verified_entity_bearing"
    createdAt := now
    memberJustifications := dictOf (r.members.map fun it => (it.id,
      { anchorAlertId := r.anchor.id
        deltaSeconds := roundSix rt.round (rt.round (it.timestamp - r.anchor.timestamp))
        matchedRelationshipKey := relationship it.provenance
        ruleId := rule
        provenanceSummary := "namespace=" ++ ns ++ ",clock_synchronized=True,skew=" ++
          it.provenance.maxClockSkewSeconds.repr ++ "s" })) }

def burstIncident (now ns : String) : Run (Item rt) → IncidentRecord :=
  clusterIncident .burst5tuple .burstCorrelated .burst30s burstRelationship now ns

def campaignIncident (now ns : String) : Run (Item rt) → IncidentRecord :=
  clusterIncident .campaignEntityPair .campaignCorrelated .campaign600s campaignRelationship now ns

/-! ## The two passes -/

/-- `it[2] - anchor_t <= window`. -/
def within (window : ℚ) (anchor it : Item rt) : Bool := rt.round (it.timestamp - anchor.timestamp) ≤ window

def fiveTuple (it : Item rt) : String × String × String × String :=
  let p := it.provenance
  (p.srcEntityId.getD "", p.dstEntityId.getD "", rt.lower (p.protocol.getD ""),
    rt.lower (p.serviceOrPort.getD ""))

/-- The `frozenset` of the two endpoints. -/
def hostPair (it : Item rt) : Finset String :=
  {it.provenance.srcEntityId.getD "", it.provenance.dstEntityId.getD ""}

/-- One pass: bins by key, each bin in time order, cut by the window. -/
def windowRuns {κ : Type} [DecidableEq κ] (key : Item rt → κ) (window : ℚ) (items : List (Item rt)) :
    List (Run (Item rt)) :=
  (groupBy key items).flatMap fun g => windows (within window) (sortItems g.2)

def burstRuns (items : List (Item rt)) : List (Run (Item rt)) :=
  windowRuns fiveTuple BURST_WINDOW_SECONDS items

/-- `len(current_cluster) >= 2`. -/
def isCluster (r : Run (Item rt)) : Bool := !r.later.isEmpty

/-- `unclustered_verified`. -/
def unclustered (items : List (Item rt)) : List (Item rt) :=
  ((burstRuns items).filter fun r => !isCluster r).flatMap Run.members

def campaignRuns (items : List (Item rt)) : List (Run (Item rt)) :=
  windowRuns hostPair CAMPAIGN_WINDOW_SECONDS (unclustered items)

/-- The body of `for ns, ns_items in by_namespace.items()`. -/
def namespaceIncidents (now ns : String) (nsItems : List (Item rt)) : List IncidentRecord :=
  let items := sortItems nsItems
  ((burstRuns items).filter isCluster).map (burstIncident now ns) ++
    (campaignRuns items).map fun r =>
      if isCluster r then campaignIncident now ns r else verifiedSingleton now ns r.anchor

/-- The sort key `(x.earliest_observed_at, x.incident_id)`. -/
abbrev IncidentRecord.notAfter : IncidentRecord → IncidentRecord → Prop :=
  lexLe (·.earliestObservedAt) (·.incidentId)

/-- `incidents_list` before the final sort. -/
def incidentsList (now : String) (items : List (Item rt)) : List IncidentRecord :=
  let byNamespace := groupBy (fun it => it.provenance.entityNamespaceId.getD "") (items.filter Item.verified)
  (items.filter fun it => !it.verified).map (unverifiedSingleton now) ++
    byNamespace.flatMap fun g => namespaceIncidents now g.1 g.2

def correlateAlertCandidates (now : String) (alerts : List (AlertInput rt))
    (provenanceMap : String → Option EntityProvenanceContract) :
    Except CorrelationError IncidentCorrelationResult :=
  match alerts with
  | [] => do return { incidents := [], summary := ← computeAlertReductionMetrics ([] : List (AlertInput rt)) [] }
  | _ :: _ =>
    let deduped := distinctBy AlertInput.id alerts
    let items := deduped.map (normalize provenanceMap)
    -- `assert ns is not None`
    if (items.filter Item.verified).any (·.provenance.entityNamespaceId.isNone) then .error .assertionError
    else
      let incidents := (incidentsList now items).insertionSort IncidentRecord.notAfter
      do return { incidents, summary := ← computeAlertReductionMetrics deduped incidents }

end ThreatFusion.Correlation
