import ThreatFusion.Correlation.Corrections
import ThreatFusion.Lib.Program
/-
# Stitching the stored attacks (`api/live_soc_console.py`:3845-4079)

`correlate_stored_attacks` reads the Attack rows, correlates them, inserts the incidents that are not stored
yet, marks the rows and deletes the incidents that the correlation did not return. Ingests and
`correct_incident_grouping` run in between.

| here | there |
| --- | --- |
| `StoredFlow`             | the columns of `live_flows` that stitching reads |
| `candidateFromAttackRow` | `_candidate_from_attack_row` (:3845-3899); `none` is any of the errors that :3978 skips |
| `correlatable`           | the loop over the rows (:3973-3992) |
| `dropStale`              | `_drop_stale_incidents` (:3902-3935) |
| `correlateStoredAttacks` | `correlate_stored_attacks` (:3938-4068), without the timeline |

`insert_many` and `_drop_stale_incidents` are one transaction each. The first raises when SQLite fails; the
second returns as if it had deleted.
-/
namespace ThreatFusion.LiveConsole.Stitch
open Py Alerts Correlation Concurrency Concurrency.Program

structure StoredFlow where
  flowId : ℤ
  observedAtUtc : String
  decision : String
  rfAttackProbability : Option PyFloat
  modelSha256 : String
  entityNamespaceId : Option String
  clockSynchronized : Option ℤ
  srcEntityId : Option String
  dstEntityId : Option String
  flowProtocol : Option String
  serviceOrPort : Option String
deriving DecidableEq

/-- The interpreter of the correlator, and the fields of a parsed wall clock. -/
structure StitchRuntime extends Correlation.Runtime where
  wallClock : ParsedDateTime → DateTime

/-- `decision = 'Attack' AND rf_attack_probability >= 0.5`. -/
def StoredFlow.isAttack (row : StoredFlow) : Bool :=
  row.decision == "Attack" && row.rfAttackProbability.any fun p => (PyFloat.finite (1 / 2) "0.5").le p

/-- `ORDER BY flow_id ASC`. -/
def attackRows (flows : List StoredFlow) : List StoredFlow :=
  (flows.filter (·.isAttack)).insertionSort (·.flowId ≤ ·.flowId)

/-- `f"{n:064x}"`. -/
def hex64 (n : ℤ) : String :=
  let digits := Nat.toDigits 16 n.natAbs
  let sign := if n < 0 then ['-'] else []
  String.ofList (sign ++ List.replicate (64 - sign.length - digits.length) '0' ++ digits)

def manifestSha256 : String := String.ofList (List.replicate 64 'b')

section
variable (rt : StitchRuntime)

/-- `uuid` is the `uuid4` of the correlation id. -/
def attackFields (uuid : String) (row : StoredFlow) (observed : DateTime) (sourceEventId : String) (score : PyFloat) :
    AlertCandidateFields :=
  { schemaVersion := ALERT_CANDIDATE_SCHEMA_VERSION
    alertCandidateId := deriveAlertCandidateId rt.sha256 sourceEventId DETECTOR_IDENTITY DETECTOR_VERSION
      "random_forest" "network_random_forest_baseline_v1" row.modelSha256 DECISION_POLICY_VERSION
    sourceEventId, correlationId := uuid
    detectorIdentity := DETECTOR_IDENTITY, detectorVersion := DETECTOR_VERSION
    modelIdentity := "random_forest", modelVersion := "network_random_forest_baseline_v1"
    modelArtifactSha256 := row.modelSha256
    featureContractIdentity := NETWORK_BEHAVIOR_V1_CONTRACT_VERSION
    sourceRepresentationIdentity := UNSW_NB15_ARGUS_RAW_REPRESENTATION_V1
    observedAt := observed, createdAt := observed
    uncalibratedModelScore := score, decisionThreshold := .finite (1 / 2) "0.5"
    decisionPolicyVersion := DECISION_POLICY_VERSION, decision := "Attack", inferenceStatus := "completed"
    reason := "inference_succeeded" }

def candidateFromAttackRow (uuid : String) (row : StoredFlow) : Option (AlertCandidate rt.sha256) := do
  let parsed ← rt.parseUtc row.observedAtUtc
  let sourceEventId ← deriveSourceEventId rt.sha256 UNSW_NB15_ARGUS_RAW_REPRESENTATION_V1 manifestSha256
    (hex64 row.flowId) row.flowId
  let score ← row.rfAttackProbability
  -- `_is_utc`
  guard (parsed.utcoffset.getD 0 = 0)
  AlertCandidate.new rt.sha256 (attackFields rt uuid row (rt.wallClock parsed) sourceEventId score)

def provenanceOf (row : StoredFlow) : EntityProvenanceContract where
  entityNamespaceId := row.entityNamespaceId
  clockSynchronized := row.clockSynchronized = some 1
  srcEntityId := row.srcEntityId
  dstEntityId := row.dstEntityId
  protocol := row.flowProtocol
  serviceOrPort := row.serviceOrPort
  observedAtUtc := some row.observedAtUtc

/-- The alerts, each with the flow it was made of. -/
def correlatable (rows : List (StoredFlow × String)) : List (ℤ × AlertInput rt.toRuntime) :=
  rows.filterMap fun (row, uuid) => (candidateFromAttackRow rt uuid row).map fun candidate =>
    (row.flowId, .correlatable candidate (some (provenanceOf row)))

end

/-! ## The reply -/

structure StitchedIncident where
  incidentId : String
  correlationMode : CorrelationMode
  windowType : WindowType
  correlationRuleId : CorrelationRule
  constituentAlertCount : Nat
  earliestObservedAt : String
  latestObservedAt : String
deriving DecidableEq

structure StitchReport where
  incidents : List StitchedIncident
  burstIncidentCount : Nat
  campaignIncidentCount : Nat
  correlatedFlowCount : Nat
  maxConstituentCount : Nat
deriving DecidableEq

def stitchedIncident (inc : IncidentRecord) : StitchedIncident :=
  ⟨inc.incidentId, inc.correlationMode, inc.windowType, inc.correlationRuleId, inc.constituentAlertCount,
    inc.earliestObservedAt, inc.latestObservedAt⟩

def report (r : IncidentCorrelationResult) : StitchReport where
  incidents := r.incidents.map stitchedIncident
  burstIncidentCount := r.incidents.countP (·.correlationMode = .burstCorrelated)
  campaignIncidentCount := r.incidents.countP (·.correlationMode = .campaignCorrelated)
  correlatedFlowCount := ((r.incidents.filter fun inc =>
    inc.correlationMode = .burstCorrelated ∨ inc.correlationMode = .campaignCorrelated).map
      (·.constituentAlertCount)).sum
  maxConstituentCount := (r.incidents.map (·.constituentAlertCount)).foldl max 0

inductive StitchReply where
  /-- `no_attack_flows`. -/
  | unavailable
  | verified (report : StitchReport)
  | corrected (incident : Option IncidentRecord)
  | ingested

inductive StitchError where
  | sqlite
  | engine (e : EngineError)
  | repository (e : IncidentRepositoryError)
deriving DecidableEq

/-! ## The calls -/

structure StitchWorld where
  flows : List StoredFlow
  incidents : IncidentDb

/-- What one call meets: the clock, the `uuid4` drawn for a flow, and whether SQLite fails. -/
structure StitchEnv where
  now : String
  uuid : ℤ → String := fun _ => ""
  fault : Bool := false

inductive StitchCall (rt : StitchRuntime) where
  /-- The `SELECT`, with the `uuid4` that is drawn for each row. -/
  | attackRows
  | correlate (alerts : List (AlertInput rt.toRuntime))
  | markChecked (flowIds : List ℤ)
  | dropStale (keepIds : List String)
  | correct (q : CorrectionRequest)
  /-- An ingest: what it makes of the stored flows. -/
  | ingest (write : List StoredFlow → List StoredFlow)

def StitchCall.Reply {rt : StitchRuntime} : StitchCall rt → Type
  | .attackRows => List (StoredFlow × String)
  | .correlate _ => IncidentCorrelationResult
  | .markChecked _ => Unit
  | .dropStale _ => Unit
  | .correct _ => Option IncidentRecord
  | .ingest _ => Unit

def dropStale (keepIds : List String) (db : IncidentDb) : IncidentDb :=
  { db with
    incidents := db.incidents.filter (·.incidentId ∈ keepIds)
    constituents := db.constituents.filter (·.incidentId ∈ keepIds) }

def liftStitch {ε α : Type} (wrap : ε → StitchError) : Except ε α → Except StitchError α
  | .ok a => .ok a
  | .error e => .error (wrap e)

def stitchHandle (rt : StitchRuntime) :
    Handler (@StitchCall.Reply rt) StitchError StitchWorld StitchEnv
  | env, .attackRows, w =>
    if env.fault then (.error .sqlite, w)
    else (.ok ((attackRows w.flows).map fun row => (row, env.uuid row.flowId)), w)
  | env, .correlate alerts, w =>
    let (r, db) := Correlation.correlate env.fault env.now alerts (fun _ => none) w.incidents
    (liftStitch .engine r, { w with incidents := db })
  | env, .markChecked _, w => (if env.fault then .error .sqlite else .ok (), w)
  -- `except sqlite3.Error: return`
  | env, .dropStale keepIds, w =>
    (.ok (), if env.fault then w else { w with incidents := dropStale keepIds w.incidents })
  | env, .correct q, w =>
    let (r, db) := correctIncidentGrouping rt.sha256 env.fault q w.incidents
    (liftStitch .repository r, { w with incidents := db })
  | env, .ingest write, w =>
    if env.fault then (.error .sqlite, w) else (.ok (), { w with flows := write w.flows })

section
variable (rt : StitchRuntime)

abbrev StitchProgram := Program (@StitchCall.Reply rt) StitchError StitchReply

def dropping (r : IncidentCorrelationResult) : StitchProgram rt :=
  .call (.dropStale (r.incidents.map (·.incidentId))) fun _ => .ret (.verified (report r))

def marking (flowIds : List ℤ) (r : IncidentCorrelationResult) : StitchProgram rt :=
  .call (.markChecked flowIds) fun _ => dropping rt r

def correlating (alerts : List (ℤ × AlertInput rt.toRuntime)) : StitchProgram rt :=
  .call (.correlate (alerts.map Prod.snd)) fun r : IncidentCorrelationResult => marking rt (alerts.map Prod.fst) r

def correlateStoredAttacks : StitchProgram rt :=
  .call .attackRows fun rows : List (StoredFlow × String) =>
    if (correlatable rt rows).isEmpty then .ret .unavailable else correlating rt (correlatable rt rows)

inductive StitchOp where
  | stitch
  | correct (q : CorrectionRequest)
  | ingest (write : List StoredFlow → List StoredFlow)

def StitchOp.program : StitchOp → StitchProgram rt
  | .stitch => correlateStoredAttacks rt
  | .correct q => .call (.correct q) fun inc : Option IncidentRecord => .ret (.corrected inc)
  | .ingest write => .call (.ingest write) fun _ => .ret .ingested

abbrev StitchPool := Pool (@StitchCall.Reply rt) StitchError StitchWorld StitchReply StitchOp

def startStitch (ops : List StitchOp) (flows : List StoredFlow) : StitchPool rt :=
  { state := ⟨flows, {}⟩, clients := ops.map fun op => (op, op.program rt) }

/-- The pool after the first `k` moves, from an empty incidents database. -/
def stitchAt (ops : List StitchOp) (flows : List StoredFlow) (schedule : List (Nat × StitchEnv)) (k : Nat) :
    StitchPool rt :=
  Machine.stateAt (poolStep (stitchHandle rt)) (startStitch rt ops flows) schedule k

end
end ThreatFusion.LiveConsole.Stitch
