import ThreatFusion.Correlation.Engine
/-
# `IncidentSqliteRepository`: incidents, their constituents, the corrections

`alerts/correlation_engine.py`, second part. A table is the list of its rows in insertion order, a
transaction a function to `Except` whose error leaves the tables as they were. A justification is kept as
the value whose JSON text the column holds (`none` for `{}`).

| here | there |
| --- | --- |
| `insertIncident`          | the loop body of `insert_many` (:1014-1059), which is `insert` (:953-1006) |
| `insertMany`              | `insert_many` (:1008-1061) |
| `currentIncidents`        | `incidents JOIN incident_constituent_alerts` for one alert (:1125-1136, :1311-1322) |
| `getIncident`             | `get_incident` (:1063-1118) |
| `getIncidentForAlert`     | `get_incident_for_alert` (:1120-1177) |
| `correctIncidentGrouping` | `correct_incident_grouping` (:1229-1437) |
| `correlate`               | `IncidentCorrelationEngine.correlate` (:771-779) |

A `SELECT` without `ORDER BY` may return any of its rows first: `choice` says which one `fetchone` saw.
-/
namespace ThreatFusion.Correlation
open Py Alerts Grouping

structure ConstituentRow where
  incidentId : String
  alertCandidateId : String
  memberJustification : Option MemberJustification
deriving DecidableEq

structure CorrectionRow where
  correctionRequestId : String
  alertCandidateId : String
  originalIncidentId : String
  targetIncidentId : String
  actorId : String
  reason : String
  createdAt : String
deriving DecidableEq

structure IncidentDb where
  incidents : List IncidentRow := []
  constituents : List ConstituentRow := []
  corrections : List CorrectionRow := []
deriving DecidableEq

/-- The codes of `CorrelationSafetyError` that the repository raises, and an `sqlite3` error. -/
inductive IncidentRepositoryError where
  | alertCandidateIdRequired | actorIdRequired | reasonRequired | correctionRequestIdRequired
  | correctionRequestConflict | alertNotFound | sqlite
deriving DecidableEq

namespace IncidentDb

def stored (db : IncidentDb) (incidentId : String) : Bool := db.incidents.any (·.incidentId == incidentId)

/-- The alerts with a constituent row. -/
def alertIds (db : IncidentDb) : List String := db.constituents.map (·.alertCandidateId)

/-- `INSERT INTO incident_constituent_alerts` under its primary key. -/
def insertConstituent (db : IncidentDb) (row : ConstituentRow) : Except IncidentRepositoryError IncidentDb :=
  if db.constituents.any fun c => c.incidentId == row.incidentId && c.alertCandidateId == row.alertCandidateId
  then .error .sqlite
  else .ok { db with constituents := db.constituents ++ [row] }

end IncidentDb

def insertConstituents (inc : IncidentRecord) :
    List String → IncidentDb → Except IncidentRepositoryError IncidentDb
  | [], db => .ok db
  | aid :: rest, db =>
    match db.insertConstituent ⟨inc.incidentId, aid, inc.memberJustifications.lookup aid⟩ with
    | .error e => .error e
    | .ok db' => insertConstituents inc rest db'

/-- An incident whose identifier is stored is skipped. -/
def insertIncident (db : IncidentDb) (inc : IncidentRecord) : Except IncidentRepositoryError IncidentDb :=
  if db.stored inc.incidentId then .ok db
  else insertConstituents inc inc.constituentAlertIds
    { db with incidents := db.incidents ++ [inc.toIncidentRow] }

def insertAll : List IncidentRecord → IncidentDb → Except IncidentRepositoryError IncidentDb
  | [], db => .ok db
  | inc :: rest, db => match insertIncident db inc with
    | .error e => .error e
    | .ok db' => insertAll rest db'

/-- One transaction: it commits, or an error of its statements or of SQLite (`fault`) rolls it back. -/
def transaction {α : Type} (fault : Bool) (db : IncidentDb)
    (body : Except IncidentRepositoryError (α × IncidentDb)) : Except IncidentRepositoryError α × IncidentDb :=
  if fault then (.error .sqlite, db)
  else match body with
    | .error e => (.error e, db)
    | .ok (a, db') => (.ok a, db')

def insertMany (fault : Bool) (incidents : List IncidentRecord) (db : IncidentDb) :
    Except IncidentRepositoryError Unit × IncidentDb :=
  transaction fault db ((insertAll incidents db).map fun db' => ((), db'))

/-! ## Lookups -/

/-- `ORDER BY alert_candidate_id`. -/
def constituentsOf (db : IncidentDb) (incidentId : String) : List ConstituentRow :=
  (db.constituents.filter (·.incidentId = incidentId)).insertionSort (·.alertCandidateId ≤ ·.alertCandidateId)

def recordOf (db : IncidentDb) (row : IncidentRow) : IncidentRecord :=
  let rows := constituentsOf db row.incidentId
  { toIncidentRow := row
    constituentAlertIds := rows.map (·.alertCandidateId)
    memberJustifications := rows.filterMap fun r => r.memberJustification.map (r.alertCandidateId, ·) }

def getIncident (db : IncidentDb) (incidentId : String) : Option IncidentRecord :=
  (db.incidents.find? (·.incidentId = incidentId)).map (recordOf db)

/-- Every row of the join for one alert. -/
def currentIncidents (db : IncidentDb) (alertCandidateId : String) : List IncidentRow :=
  (db.constituents.filter (·.alertCandidateId = alertCandidateId)).flatMap fun c =>
    db.incidents.filter (·.incidentId = c.incidentId)

/-- `fetchone()`. -/
def fetchOne (choice : Nat) (rows : List IncidentRow) : Option IncidentRow := rows[choice % rows.length]?

def getIncidentForAlert (choice : Nat) (db : IncidentDb) (alertCandidateId : String) : Option IncidentRecord :=
  (fetchOne choice (currentIncidents db alertCandidateId)).map (recordOf db)

/-! ## Corrections -/

structure CorrectionRequest where
  alertCandidateId : String
  newIncidentId : Option String
  actorId : String
  reason : String
  correctionRequestId : String
  now : String
  choice : Nat

/-- The four refusals before the transaction. -/
def CorrectionRequest.check (q : CorrectionRequest) : Except IncidentRepositoryError Unit :=
  if isBlank q.alertCandidateId then .error .alertCandidateIdRequired
  else if isBlank q.actorId then .error .actorIdRequired
  else if isBlank q.reason then .error .reasonRequired
  else if isBlank q.correctionRequestId then .error .correctionRequestIdRequired
  else .ok ()

def CorrectionRequest.row (q : CorrectionRequest) (original target : String) : CorrectionRow :=
  ⟨q.correctionRequestId, q.alertCandidateId, original, target, q.actorId, q.reason, q.now⟩

/-- `new_incident_id or derive_incident_id(...)`. -/
def CorrectionRequest.target (sha256 : Bytes → String) (q : CorrectionRequest) : String :=
  (given q.newIncidentId).getD (deriveIncidentId sha256 .manualCorrectionSplit [q.alertCandidateId])

/-- What the transaction did: it found the request done, or did it; with the target incident. -/
inductive Correction where
  | replayed (target : String)
  | recorded (target : String)
deriving DecidableEq

/-- The alert leaves its incident for a new one that copies its aggregates. -/
def splitTx (sha256 : Bytes → String) (q : CorrectionRequest) (original : IncidentRow) (db : IncidentDb) :
    Except IncidentRepositoryError (Correction × IncidentDb) :=
  let target := q.target sha256
  let kept := db.constituents.filter fun c =>
    !(c.incidentId == original.incidentId && c.alertCandidateId == q.alertCandidateId)
  let counted := db.incidents.map fun row =>
    if row.incidentId = original.incidentId then
      { row with constituentAlertCount := row.constituentAlertCount - 1 } else row
  if db.stored target then .error .sqlite
  else
    let row : IncidentRow :=
      { schemaVersion := INCIDENT_SCHEMA_VERSION, incidentId := target
        correlationMode := .manualCorrectionSplit, windowType := .manual
        correlationRuleId := .manualCorrectionSplit, entityNamespaceId := original.entityNamespaceId
        constituentAlertCount := 1, maxProbabilityScore := original.maxProbabilityScore
        escalatedDecision := original.escalatedDecision, earliestObservedAt := original.earliestObservedAt
        latestObservedAt := original.latestObservedAt, provenanceStatus := "manual_corrected"
        createdAt := q.now }
    let justification : MemberJustification :=
      { anchorAlertId := q.alertCandidateId, deltaSeconds := 0, matchedRelationshipKey := "manual_split"
        ruleId := .manualCorrectionSplit
        provenanceSummary := "manual_split by actor=" ++ q.actorId ++ ": " ++ q.reason }
    match IncidentDb.insertConstituent { db with incidents := counted ++ [row], constituents := kept }
        ⟨target, q.alertCandidateId, some justification⟩ with
    | .error e => .error e
    | .ok db' => .ok (.recorded target,
        { db' with corrections := db.corrections ++ [q.row original.incidentId target] })

/-- The statements between `BEGIN IMMEDIATE` and the end. -/
def correctionTx (sha256 : Bytes → String) (q : CorrectionRequest) (db : IncidentDb) :
    Except IncidentRepositoryError (Correction × IncidentDb) :=
  match db.corrections.find? (·.correctionRequestId = q.correctionRequestId) with
  | some old =>
    if old.alertCandidateId = q.alertCandidateId ∧ old.actorId = q.actorId ∧ db.stored old.targetIncidentId
    then .ok (.replayed old.targetIncidentId, db)
    else .error .correctionRequestConflict
  | none => match fetchOne q.choice (currentIncidents db q.alertCandidateId) with
    | none => .error .alertNotFound
    | some original =>
      if original.constituentAlertCount ≤ 1 then
        .ok (.recorded original.incidentId,
          { db with corrections := db.corrections ++ [q.row original.incidentId original.incidentId] })
      else splitTx sha256 q original db

/-- The incident that is returned; the replay does not select the telemetry columns (:1272-1300). -/
def Correction.incident (db : IncidentDb) : Correction → Option IncidentRecord
  | .replayed target => (getIncident db target).map fun inc =>
    { inc with tFlowIngest := none, tRagGrounded := none, tInvestigation := none }
  | .recorded target => getIncident db target

def correctIncidentGrouping (sha256 : Bytes → String) (fault : Bool) (q : CorrectionRequest)
    (db : IncidentDb) : Except IncidentRepositoryError (Option IncidentRecord) × IncidentDb :=
  match q.check with
  | .error e => (.error e, db)
  | .ok () =>
    let (result, db') := transaction fault db (correctionTx sha256 q db)
    (result.map (Correction.incident db'), db')

/-! ## The engine over the repository -/

variable {rt : Runtime}

/-- What `correlate` raises: an error of the correlation, or one of the repository. -/
inductive EngineError where
  | correlation (e : CorrelationError)
  | repository (e : IncidentRepositoryError)
deriving DecidableEq

def correlate (fault : Bool) (now : String) (alerts : List (AlertInput rt))
    (provenanceMap : String → Option EntityProvenanceContract) (db : IncidentDb) :
    Except EngineError IncidentCorrelationResult × IncidentDb :=
  match correlateAlertCandidates now alerts provenanceMap with
  | .error e => (.error (.correlation e), db)
  | .ok r =>
    if r.incidents.isEmpty then (.ok r, db)
    else match insertMany fault r.incidents db with
      | (.error e, db') => (.error (.repository e), db')
      | (.ok (), db') => (.ok r, db')

/-- One call on the repository. -/
inductive Call (rt : Runtime) where
  | correlate (fault : Bool) (now : String) (alerts : List (AlertInput rt))
      (provenanceMap : String → Option EntityProvenanceContract)
  | correct (fault : Bool) (q : CorrectionRequest)

inductive Reply where
  | correlated (result : Except EngineError IncidentCorrelationResult)
  | corrected (result : Except IncidentRepositoryError (Option IncidentRecord))

def step (db : IncidentDb) : Call rt → Reply × IncidentDb
  | .correlate fault now alerts provenanceMap =>
    let (result, db') := correlate fault now alerts provenanceMap db
    (.correlated result, db')
  | .correct fault q =>
    let (result, db') := correctIncidentGrouping rt.sha256 fault q db
    (.corrected result, db')

end ThreatFusion.Correlation
