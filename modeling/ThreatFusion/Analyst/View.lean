import ThreatFusion.Alerts.Rows
import ThreatFusion.Browser.Listener
import ThreatFusion.Correlation.Engine
import ThreatFusion.Lib.Json
import ThreatFusion.Lib.Result
import ThreatFusion.Py.Ascii
/-
# What an analyst is shown, as JSON

| here | there |
| --- | --- |
| `explanationFor`           | `explanation_for` of `api/alert_explanation.py` (:29-91), in which nothing raises here |
| `evidence`, `state`, `event` | `_evidence`, `_state`, `_event` of `api/analyst_view_model.py` (:45-86) |
| `pageItems`, `alertDetail` | `list_alerts` and `get_alert` of `AnalystStateRepository`, with the candidates |
| `listAlerts`, `getAlert`, `transition` | the methods of `AnalystAlertViewModel` (:119-232) |
| `augmentAlertDetail`       | `_augment_alert_detail` of `api/analyst_tls_service.py` (:397-460) |
| `response`                 | `_response` (:298-319) |

The incident repository, the enricher, the advisory engine and the SOAR repository are any objects that
the deployment passes in: `Collaborators` has what each answers for an alert.
-/
namespace ThreatFusion.AnalystView
open Py Alerts Analyst Except
open JsonText (Json dumps)

def VIEW_SCHEMA_VERSION : String := "analyst_alert_view_v1"

/-- The code of an error that is not public. -/
def VIEW_UNAVAILABLE : String := "analyst_view_unavailable"

/-- The two `except` blocks of every method: the public code of a workflow error. -/
def viewed {α : Type} : Except AnalystStateError α → Except String α
  | .ok a => .ok a
  | .error e => .error (Browser.viewCode e)

/-! ## The objects -/

def optional {α : Type} (f : α → Json) : Option α → Json
  | none => .null
  | some a => f a

def evidence (candidate : AlertCandidateFields) : Json := .obj
  [("alert_candidate_id", .str candidate.alertCandidateId),
   ("source_event_id", .str candidate.sourceEventId),
   ("observed_at", .str candidate.observedAt.isoformat),
   ("created_at", .str candidate.createdAt.isoformat),
   ("source_representation_identity", .str candidate.sourceRepresentationIdentity),
   ("feature_contract_identity", .str candidate.featureContractIdentity),
   ("model_identity", .str candidate.modelIdentity),
   ("model_version", .str candidate.modelVersion),
   ("model_artifact_sha256", .str candidate.modelArtifactSha256),
   ("uncalibrated_model_score", .float candidate.uncalibratedModelScore.repr),
   ("decision_threshold", .float candidate.decisionThreshold.repr),
   ("decision_policy_version", .str candidate.decisionPolicyVersion),
   ("decision", .str candidate.decision)]

def state (state : SnapshotFields) : Json := .obj
  [("state", .str state.state.text), ("version", .int state.version),
   ("updated_at", optional (fun t => .str t.isoformat) state.updatedAt),
   ("updated_by", optional .str state.updatedBy), ("last_transition_id", optional .str state.lastTransitionId)]

def event (event : EventFields) : Json := .obj
  [("transition_id", .str event.transitionId), ("sequence", .int event.sequence),
   ("from_state", .str event.fromState.text), ("to_state", .str event.toState.text),
   ("actor_id", .str event.actorId), ("rationale", .str event.rationale),
   ("transitioned_at", .str event.transitionedAt.isoformat)]

/-- The members of `_item`. -/
def item (candidate : AlertCandidateFields) (snapshot : SnapshotFields) : List (String × Json) :=
  [("detection_evidence", evidence candidate), ("analyst_state", state snapshot)]

section
variable (sha256 : Bytes → String) (printable : Char → Bool)

/-! ## The explanation -/

def EXPLANATION_VERSION : String := "alert_explanation_v1"

def LIMITATIONS : String :=
  "Feature attribution: unavailable (feature values and attribution not retained). " ++
  "Causal explanation: unavailable (no causal evidence retained). " ++
  "Source details: unavailable (opaque source ID; endpoints not retained). " ++
  "Stored artifact identity is checked against the approved RF registry; " ++
  "artifact bytes and original input are not reverified here."

/-- `APPROVED_MODEL_HASHES["random_forest"]["model"]`. -/
def APPROVED_FOREST_SHA256 : String := "bd2853a6f9d7f65038cc8bd2da282a2221cb73bda1f1e4c1c714098e8bfcffa9"

def explanation (candidate : AlertCandidateFields) (status summary : String) : Json := .obj
  [("schema_version", .str EXPLANATION_VERSION), ("alert_candidate_id", .str candidate.alertCandidateId),
   ("evidence_sha256", .str (sha256 (ascii (dumps (evidence candidate))))), ("status", .str status),
   ("summary", .str summary), ("limitations", .str LIMITATIONS)]

def unavailable (candidate : AlertCandidateFields) : Json :=
  explanation sha256 candidate "unavailable"
    "Explanation unavailable: supported retained evidence could not be verified."

/-- The evidence is that of the approved forest. -/
def supported (candidate : AlertCandidateFields) : Bool :=
  candidate.alertCandidateId == deriveAlertCandidateId sha256 candidate.sourceEventId DETECTOR_IDENTITY DETECTOR_VERSION
    "random_forest" "network_random_forest_baseline_v1" APPROVED_FOREST_SHA256 DECISION_POLICY_VERSION &&
  candidate.modelIdentity == "random_forest" && candidate.modelVersion == "network_random_forest_baseline_v1" &&
  candidate.modelArtifactSha256 == APPROVED_FOREST_SHA256 &&
  candidate.featureContractIdentity == "network_behavior_v1" &&
  candidate.sourceRepresentationIdentity == "unsw_nb15.argus.raw_49.transaction_bytes.v1" &&
  candidate.decisionPolicyVersion == DECISION_POLICY_VERSION &&
  candidate.decisionThreshold.eq (.finite (1 / 2) "0.5") && candidate.decision == "Attack" &&
  candidate.uncalibratedModelScore.within (1 / 2) 1

def summary (score : PyFloat) : String :=
  "Stored frozen-RF score " ++ score.repr ++ " meets the inclusive threshold 0.5, " ++
  "consistent with the stored Attack decision. This uncalibrated score " ++
  "is not a calibrated attack probability, severity, or causal explanation."

def explanationFor (candidate : AlertCandidateFields) : Json :=
  if supported sha256 candidate then
    explanation sha256 candidate "available" (summary candidate.uncalibratedModelScore)
  else unavailable sha256 candidate

/-! ## What the repositories give -/

structure AnalystAlertListItem where
  candidate : AlertCandidate sha256
  analystState : AnalystStateSnapshot
  same : candidate.alertCandidateId = analystState.alertCandidateId

structure AnalystAlertDetail where
  candidate : AlertCandidate sha256
  analystState : AnalystStateSnapshot
  transitions : List (AnalystTransitionEvent printable)
  same : candidate.alertCandidateId = analystState.alertCandidateId
  events : ∀ event ∈ transitions, event.alertCandidateId = candidate.alertCandidateId

variable {sha256 printable}

/-- The constructor call; its error, `analyst_alert_view_invalid`, is not public. -/
def AnalystAlertListItem.new (candidate : AlertCandidate sha256) (analystState : AnalystStateSnapshot) :
    Except String (AnalystAlertListItem sha256) :=
  if h : candidate.alertCandidateId = analystState.alertCandidateId then .ok ⟨candidate, analystState, h⟩
  else .error VIEW_UNAVAILABLE

def AnalystAlertDetail.new (candidate : AlertCandidate sha256) (analystState : AnalystStateSnapshot)
    (transitions : List (AnalystTransitionEvent printable)) : Except String (AnalystAlertDetail sha256 printable) :=
  if h : candidate.alertCandidateId = analystState.alertCandidateId ∧
      ∀ event ∈ transitions, event.alertCandidateId = candidate.alertCandidateId then
    .ok ⟨candidate, analystState, transitions, h.1, h.2⟩
  else .error VIEW_UNAVAILABLE

def listItems : List (AlertCandidate sha256) → List (String × AnalystStateSnapshot) →
    Except String (List (AnalystAlertListItem sha256))
  | candidate :: candidates, found :: rest => do
    let item ← AnalystAlertListItem.new candidate found.2
    let items ← listItems candidates rest
    .ok (item :: items)
  | _, _ => .ok []

variable (sha256 printable)

/-- What the two databases hold, and who may read. -/
structure Stores where
  registry : Registry
  alerts : List AlertRow
  states : AnalystDb

/-- What SQLite does to the two reads of a call. -/
structure ReadFaults where
  alerts : AlertFault := .none
  states : DbFault := .none

/-- `self._alerts.list(..)`, for arguments that are integers. -/
def candidatePage (stores : Stores) (faults : ReadFaults) : Value → Value → Option (List (AlertCandidate sha256))
  | .int limit, .int offset => (Alerts.list sha256 faults.alerts limit offset stores.alerts).toOption
  | _, _ => none

def pageItems (stores : Stores) (faults : ReadFaults) (capability : Option AnalystCapability)
    (limit offset : Value) : Except String (List (AnalystAlertListItem sha256)) := do
  let candidates := candidatePage sha256 stores faults limit offset
  let found ← viewed (Analyst.listAlerts printable stores.registry capability limit offset
    (candidates.map fun cs => cs.map (·.alertCandidateId)) faults.states stores.states)
  listItems (candidates.getD []) found

/-- `self._alerts.get(..)`; the outer `none` is its error. -/
def storedCandidate (stores : Stores) (faults : ReadFaults) (alertCandidateId : String) :
    Option (Option (AlertCandidate sha256)) :=
  (Alerts.get sha256 faults.alerts alertCandidateId stores.alerts).toOption

/-- The alert of a candidate that was found, as the workflow's reader sees it. -/
def knownAlert : Option (Option (AlertCandidate sha256)) → List String
  | some (some candidate) => [candidate.alertCandidateId]
  | _ => []

def alertDetail (stores : Stores) (faults : ReadFaults) (capability : Option AnalystCapability)
    (alertCandidateId : String) : Except String (Option (AnalystAlertDetail sha256 printable)) := do
  let stored := storedCandidate sha256 stores faults alertCandidateId
  let found ← viewed (Analyst.getAlert printable stores.registry capability (.str alertCandidateId) stored.isNone
    faults.states ⟨knownAlert sha256 stored, stores.states⟩)
  match stored, found with
  | some (some candidate), some (analystState, transitions) => do
    let detail ← AnalystAlertDetail.new candidate analystState transitions
    .ok (some detail)
  | _, _ => .ok none

/-! ## The view model -/

/-- The fields of an incident that are shown, as `str(..)` and `int(..)` give them. -/
structure IncidentMeta where
  incidentId : String
  correlationMode : String
  windowType : String
  correlationRuleId : String
  constituentAlertCount : ℤ
  provenanceStatus : String

/-- What else is asked about an alert. A lookup that raises is `none`; for the incident that is the outer one. -/
structure Collaborators where
  incidentRepository : Option (String → Option (Option IncidentMeta)) := none
  threatIntelEnricher : Option (String → Option Json) := none
  advisoryEngine : Option (String → Option Json) := none
  soarRepository : Option (String → Option (List Json)) := none

def correlationMeta (incident : IncidentMeta) (explanation : String) : Json := .obj
  [("incident_id", .str incident.incidentId), ("correlation_mode", .str incident.correlationMode),
   ("window_type", .str incident.windowType), ("correlation_rule_id", .str incident.correlationRuleId),
   ("constituent_alert_count", .int incident.constituentAlertCount),
   ("provenance_status", .str incident.provenanceStatus), ("explanation", .str explanation)]

def windowExplanation (windowType : String) : String :=
  if windowType = "burst_30s" then "Correlated within 30s burst window."
  else if windowType = "campaign_600s" then "Correlated within 10m campaign window."
  else "Preserved as verified singleton incident."

/-- The incident of an alert that belongs to none. -/
def singletonMeta (alertCandidateId : String) : IncidentMeta where
  incidentId := Correlation.deriveIncidentId sha256 .singletonUnverifiedProvenance [alertCandidateId]
  correlationMode := "singleton_unverified_provenance"
  windowType := "none"
  correlationRuleId := "corr_singleton_unverified_provenance_v1"
  constituentAlertCount := 1
  provenanceStatus := "unverified_provenance"

def incidentCorrelation (alertCandidateId : String) : Option IncidentMeta → Json
  | some incident => correlationMeta incident (windowExplanation incident.windowType)
  | none => correlationMeta (singletonMeta sha256 alertCandidateId)
      ("UNSW-NB15 raw telemetry lacks authenticated entity endpoints " ++
       "and synchronized clocks; preserved as singleton incident.")

def Collaborators.incident (others : Collaborators) (alertCandidateId : String) : Except String (Option IncidentMeta) :=
  match others.incidentRepository with
  | none => .ok none
  | some lookup => match lookup alertCandidateId with
    | none => .error VIEW_UNAVAILABLE
    | some incident => .ok incident

variable {sha256 printable}

/-- An accepted limit or offset; a value of any other type was refused. -/
def number : Value → Json
  | .int n => .int n
  | _ => .null

def dispositionText : Disposition → String
  | .created => "created"
  | .existing => "existing"

def listPayload (limit offset : Value) (items : List (AnalystAlertListItem sha256)) : Json :=
  .obj [("schema_version", .str VIEW_SCHEMA_VERSION), ("limit", number limit), ("offset", number offset),
    ("items", .arr (items.map fun i => .obj (item i.candidate.toAlertCandidateFields i.analystState.toSnapshotFields)))]

def detailMembers (d : AnalystAlertDetail sha256 printable) (correlation : Json) : List (String × Json) :=
  ("schema_version", .str VIEW_SCHEMA_VERSION) ::
    item d.candidate.toAlertCandidateFields d.analystState.toSnapshotFields ++
    [("analyst_history", .arr (d.transitions.map fun e => event e.toEventFields)),
     ("explanation", explanationFor sha256 d.candidate.toAlertCandidateFields),
     ("incident_correlation", correlation)]

def transitionPayload (alertCandidateId : String) (result : AnalystTransitionResult printable) : Json :=
  .obj [("schema_version", .str VIEW_SCHEMA_VERSION),
    ("disposition", .str (dispositionText result.disposition)),
    ("alert_candidate_id", .str alertCandidateId), ("analyst_state", state result.analystState.toSnapshotFields),
    ("analyst_transition", event result.transition.toEventFields)]

variable (sha256 printable)

def listAlerts (stores : Stores) (faults : ReadFaults) (capability : Option AnalystCapability) (limit offset : Value) :
    Except String Json := do
  let items ← pageItems sha256 printable stores faults capability limit offset
  .ok (listPayload limit offset items)

def getAlert (stores : Stores) (faults : ReadFaults) (others : Collaborators) (capability : Option AnalystCapability)
    (alertCandidateId : String) : Except String (Option (List (String × Json))) := do
  let found ← alertDetail sha256 printable stores faults capability alertCandidateId
  match found with
  | none => .ok none
  | some detail => do
    let incident ← others.incident alertCandidateId
    .ok (some (detailMembers detail (incidentCorrelation sha256 alertCandidateId incident)))

def transition (registry : Registry) (capability : Option AnalystCapability) (alertCandidateId : String)
    (expectedVersion toState transitionId rationale : Value) (env : CallEnv) (w : AnalystWorld) :
    Except String Json × AnalystWorld :=
  let done := Analyst.transition printable
    ⟨registry, capability, .str alertCandidateId, expectedVersion, toState, transitionId, rationale⟩ env w
  ((viewed done.1).map (transitionPayload alertCandidateId), done.2)

/-! ## The service -/

/-- What the collaborators add to a detail view; one that raises adds nothing. -/
def Collaborators.members (others : Collaborators) (alertCandidateId : String) : List (String × Json) :=
  let found {α : Type} (lookup : Option (String → Option α)) : Option α := lookup.bind fun f => f alertCandidateId
  ((found others.threatIntelEnricher).map fun v => ("threat_intel_enrichment", v)).toList ++
  ((found others.advisoryEngine).map fun v => ("advisory_explanation", v)).toList ++
  ((found others.soarRepository).map fun vs => ("soar_recommendations", .arr vs)).toList

def augmentAlertDetail (others : Collaborators) (alertCandidateId : String) (result : List (String × Json)) : Json :=
  .obj (result ++ others.members alertCandidateId)

/-- `GET` of one alert: `none` is the answer 404. -/
def detailView (stores : Stores) (faults : ReadFaults) (others : Collaborators) (capability : Option AnalystCapability)
    (alertCandidateId : String) : Except String (Option Json) := do
  let result ← getAlert sha256 printable stores faults others capability alertCandidateId
  .ok (result.map (augmentAlertDetail others alertCandidateId))

end

def MAX_RESPONSE_BYTES : Nat := 131072

inductive Status where
  | ok | badRequest | unauthorized | forbidden | notFound | conflict | unavailable
deriving DecidableEq

def Status.code : Status → Nat
  | .ok => 200 | .badRequest => 400 | .unauthorized => 401 | .forbidden => 403
  | .notFound => 404 | .conflict => 409 | .unavailable => 503

def Status.reason : Status → String
  | .ok => "OK"
  | .badRequest => "Bad Request"
  | .unauthorized => "Unauthorized"
  | .forbidden => "Forbidden"
  | .notFound => "Not Found"
  | .conflict => "Conflict"
  | .unavailable => "Service Unavailable"

/-- The text is ASCII, so a character is a byte. -/
def responseBody (payload : Json) : Bytes := ascii (dumps payload) ++ [10]

def UNAVAILABLE_BODY : Bytes := ascii "\x7b\"error\":\"unavailable\"\x7d\n".toList

/-- Head and body. -/
def message (status : Status) (body : Bytes) : Bytes :=
  ascii ("HTTP/1.1 " ++ toString status.code ++ " " ++ status.reason ++ "\r\nContent-Type: application/json\r\n" ++
    "Content-Length: " ++ toString body.length ++
    "\r\nCache-Control: no-store\r\nConnection: close\r\n\r\n").toList ++ body

def response (status : Status) (payload : Json) : Bytes :=
  if MAX_RESPONSE_BYTES < (responseBody payload).length then message .unavailable UNAVAILABLE_BODY
  else message status (responseBody payload)

end ThreatFusion.AnalystView
