import ThreatFusion.Alerts.Repository
import ThreatFusion.Py.IsoFormat
import Mathlib.Data.List.Sort
/-
# The rows of `alert_candidates`

`db/alert_repository.py` down to its columns. `TEXT` holds a string and `REAL` a double; what `AlertCandidate`
accepts passes `NOT NULL` and the `CHECK`s. SQLite keeps a whole `REAL` as an integer, so `-0.0` comes back as
`0.0`.

| here | there |
| --- | --- |
| `values`           | `_values` (:99-103) |
| `candidateFromRow` | `_candidate` (:106-113) |
| `insertRow`        | `insert` (:221-256) |
| `get`, `list`      | `get` (:258-274), `list` (:276-297) |

* `candidateFromRow_values`: a row decodes to the candidate it was made of, equal in every field.
* `insertRow_agrees`: `insertRow` does on rows what `insert` does on fields.
-/
namespace ThreatFusion.Alerts
open Py

structure AlertRow where
  schemaVersion : String
  alertCandidateId : String
  sourceEventId : String
  correlationId : String
  detectorIdentity : String
  detectorVersion : String
  modelIdentity : String
  modelVersion : String
  modelArtifactSha256 : String
  featureContractIdentity : String
  sourceRepresentationIdentity : String
  observedAt : String
  createdAt : String
  uncalibratedModelScore : PyFloat
  decisionThreshold : PyFloat
  decisionPolicyVersion : String
  decision : String
  inferenceStatus : String
  reason : String
deriving DecidableEq

/-- A finite double through a `REAL` column. -/
def readReal : PyFloat → PyFloat
  | .finite v r => .finite v (if v = 0 then "0.0" else r)
  | x => x

def AlertCandidateFields.values (c : AlertCandidateFields) : AlertRow :=
  { schemaVersion := c.schemaVersion, alertCandidateId := c.alertCandidateId, sourceEventId := c.sourceEventId
    correlationId := c.correlationId, detectorIdentity := c.detectorIdentity, detectorVersion := c.detectorVersion
    modelIdentity := c.modelIdentity, modelVersion := c.modelVersion, modelArtifactSha256 := c.modelArtifactSha256
    featureContractIdentity := c.featureContractIdentity
    sourceRepresentationIdentity := c.sourceRepresentationIdentity, observedAt := c.observedAt.isoformat
    createdAt := c.createdAt.isoformat, uncalibratedModelScore := readReal c.uncalibratedModelScore
    decisionThreshold := readReal c.decisionThreshold, decisionPolicyVersion := c.decisionPolicyVersion
    decision := c.decision, inferenceStatus := c.inferenceStatus, reason := c.reason }

/-- Equality of two candidates field by field: that of the dataclass. -/
def AlertCandidateFields.same (a b : AlertCandidateFields) : Bool :=
  decide ({ a with
      uncalibratedModelScore := b.uncalibratedModelScore, decisionThreshold := b.decisionThreshold } = b) &&
    a.uncalibratedModelScore.eq b.uncalibratedModelScore && a.decisionThreshold.eq b.decisionThreshold

section
variable (sha256 : Bytes → String)

def candidateFromRow (row : AlertRow) : Option (AlertCandidate sha256) :=
  match DateTime.fromisoformat row.observedAt, DateTime.fromisoformat row.createdAt with
  | some observedAt, some createdAt => AlertCandidate.new sha256
      { schemaVersion := row.schemaVersion, alertCandidateId := row.alertCandidateId
        sourceEventId := row.sourceEventId, correlationId := row.correlationId
        detectorIdentity := row.detectorIdentity, detectorVersion := row.detectorVersion
        modelIdentity := row.modelIdentity, modelVersion := row.modelVersion
        modelArtifactSha256 := row.modelArtifactSha256, featureContractIdentity := row.featureContractIdentity
        sourceRepresentationIdentity := row.sourceRepresentationIdentity, observedAt, createdAt
        uncalibratedModelScore := row.uncalibratedModelScore, decisionThreshold := row.decisionThreshold
        decisionPolicyVersion := row.decisionPolicyVersion, decision := row.decision
        inferenceStatus := row.inferenceStatus, reason := row.reason }
  | _, _ => none

def insertRowTx (rows : List AlertRow) (candidate : AlertCandidate sha256) :
    Except AlertPersistenceError (AlertInsertResult sha256 × List AlertRow) :=
  match rows.find? fun row => row.alertCandidateId == candidate.alertCandidateId with
  | none => .ok (⟨.created, candidate⟩, rows ++ [candidate.values])
  | some row => match candidateFromRow sha256 row with
    | none => .error .databaseRecordInvalid
    | some stored =>
      if !sameDetectionEvidence stored.toAlertCandidateFields candidate.toAlertCandidateFields then
        .error .identityConflict
      else .ok (⟨.existing, stored⟩, rows)

def insertRow (fault : AlertFault) (rows : List AlertRow) (candidate : AlertCandidate sha256) :
    Except AlertPersistenceError (AlertInsertResult sha256) × List AlertRow :=
  match fault with
  | .connectCorrupt => (.error .databaseCorrupt, rows)
  | .connectUnavailable => (.error .databaseUnavailable, rows)
  | .busy => (.error .databaseBusy, rows)
  | .write => (.error .databaseWriteFailed, rows)
  | .none => match insertRowTx sha256 rows candidate with
    | .error e => (.error e, rows)
    | .ok (result, rows') => (.ok result, rows')

/-! ## Reading -/

/-- The codes of `AlertPersistenceError` that the readers raise. -/
inductive AlertReadError where
  | candidateIdInvalid | listLimitInvalid | listOffsetInvalid
  | databaseCorrupt | databaseUnavailable | databaseReadFailed | databaseRecordInvalid
deriving DecidableEq

def AlertReadError.code : AlertReadError → String
  | .candidateIdInvalid => "alert_candidate_id_invalid"
  | .listLimitInvalid => "list_limit_invalid"
  | .listOffsetInvalid => "list_offset_invalid"
  | .databaseCorrupt => "database_corrupt"
  | .databaseUnavailable => "database_unavailable"
  | .databaseReadFailed => "database_read_failed"
  | .databaseRecordInvalid => "database_record_invalid"

def raiseReadFault : AlertFault → Except AlertReadError Unit
  | .none => .ok ()
  | .connectCorrupt => .error .databaseCorrupt
  | .connectUnavailable => .error .databaseUnavailable
  | .busy | .write => .error .databaseReadFailed

def readRow (row : AlertRow) : Except AlertReadError (AlertCandidate sha256) :=
  match candidateFromRow sha256 row with
  | none => .error .databaseRecordInvalid
  | some c => .ok c

def get (fault : AlertFault) (alertCandidateId : String) (rows : List AlertRow) :
    Except AlertReadError (Option (AlertCandidate sha256)) := do
  if 128 < alertCandidateId.length then .error .candidateIdInvalid
  raiseReadFault fault
  match rows.find? fun row => row.alertCandidateId == alertCandidateId with
  | none => .ok none
  | some row =>
    let c ← readRow sha256 row
    .ok (some c)

def MAX_ALERT_LIST_LIMIT : ℤ := 100
def MAX_ALERT_LIST_OFFSET : ℤ := 1000000

/-- `ORDER BY created_at ASC, alert_candidate_id ASC`. -/
def listedBefore (a b : AlertRow) : Prop :=
  a.createdAt < b.createdAt ∨ a.createdAt = b.createdAt ∧ a.alertCandidateId ≤ b.alertCandidateId

instance : DecidableRel listedBefore := fun _ _ => inferInstanceAs (Decidable (_ ∨ _))

def readRows : List AlertRow → Except AlertReadError (List (AlertCandidate sha256))
  | [] => .ok []
  | row :: rows => do
    let c ← readRow sha256 row
    let cs ← readRows rows
    .ok (c :: cs)

def list (fault : AlertFault) (limit offset : ℤ) (rows : List AlertRow) :
    Except AlertReadError (List (AlertCandidate sha256)) := do
  if ¬ (1 ≤ limit ∧ limit ≤ MAX_ALERT_LIST_LIMIT) then .error .listLimitInvalid
  if ¬ (0 ≤ offset ∧ offset ≤ MAX_ALERT_LIST_OFFSET) then .error .listOffsetInvalid
  raiseReadFault fault
  readRows sha256 (((rows.insertionSort listedBefore).drop offset.toNat).take limit.toNat)

end

/-! ## Round trip -/

section
variable {sha256 : Bytes → String}

@[simp] theorem position_readReal (x : PyFloat) : (readReal x).position = x.position := by cases x <;> rfl

@[simp] theorem within_readReal (lo hi : ℚ) (x : PyFloat) : (readReal x).within lo hi = x.within lo hi := by
  cases x <;> rfl

theorem eq_comm_of_position {x y z : PyFloat} (h : x.position = y.position) : x.eq z = y.eq z := by
  rw [PyFloat.eq, PyFloat.eq, h]

theorem scoresClose_readReal (x y : PyFloat) : scoresClose (readReal x) y = scoresClose x y := by
  cases x <;> cases y <;> rfl

/-- The candidate that a reader gets. -/
def AlertCandidate.readBack (c : AlertCandidate sha256) : AlertCandidate sha256 :=
  ⟨{ c.toAlertCandidateFields with
      uncalibratedModelScore := readReal c.uncalibratedModelScore
      decisionThreshold := readReal c.decisionThreshold }, by
    have h := c.valid
    simp only [AlertCandidateFields.accepted, within_readReal] at h ⊢
    exact h⟩

theorem eq_self_of_within {lo hi : ℚ} {x : PyFloat} (h : x.within lo hi = true) : x.eq x = true := by
  cases x with
  | finite v r => simp [PyFloat.eq, PyFloat.position]
  | nonFinite r => cases h

theorem AlertCandidate.within (c : AlertCandidate sha256) :
    c.uncalibratedModelScore.within 0 1 = true ∧ c.decisionThreshold.within 0 1 = true := by
  have h := c.valid
  simp only [AlertCandidateFields.accepted, Bool.and_eq_true] at h
  exact ⟨h.1.1.1.2, h.1.1.2⟩

theorem AlertCandidate.same_readBack (c : AlertCandidate sha256) :
    c.readBack.same c.toAlertCandidateFields = true := by
  have hscore := eq_self_of_within c.within.1
  have hthreshold := eq_self_of_within c.within.2
  rw [AlertCandidateFields.same, Bool.and_eq_true, Bool.and_eq_true]
  refine ⟨⟨decide_eq_true rfl, ?_⟩, ?_⟩
  · exact (eq_comm_of_position (position_readReal _)).trans hscore
  · exact (eq_comm_of_position (position_readReal _)).trans hthreshold

/-- **Encoding and decoding are inverse**, up to the equality of Python values. -/
theorem candidateFromRow_values (c : AlertCandidate sha256) :
    candidateFromRow sha256 c.values = some c.readBack := by
  rw [candidateFromRow]
  simp only [AlertCandidateFields.values, DateTime.fromisoformat_isoformat]
  exact c.readBack.new_self

theorem sameDetectionEvidence_readBack (c : AlertCandidate sha256) (attempted : AlertCandidateFields) :
    sameDetectionEvidence c.readBack.toAlertCandidateFields attempted =
      sameDetectionEvidence c.toAlertCandidateFields attempted := by
  rw [sameDetectionEvidence, sameDetectionEvidence]
  congr 1
  · congr 1
    exact eq_comm_of_position (position_readReal _)
  · exact scoresClose_readReal _ _

/-! ## The two levels -/

/-- Two results with one outcome and equal candidates. -/
def ResultsAgree : Except AlertPersistenceError (AlertInsertResult sha256) →
    Except AlertPersistenceError (AlertInsertResult sha256) → Prop
  | .ok r, .ok r' => r.disposition = r'.disposition ∧
      r.candidate.same r'.candidate.toAlertCandidateFields = true
  | .error e, .error e' => e = e'
  | _, _ => False

theorem AlertCandidate.same_self (c : AlertCandidate sha256) : c.same c.toAlertCandidateFields = true := by
  rw [AlertCandidateFields.same, Bool.and_eq_true, Bool.and_eq_true]
  exact ⟨⟨decide_eq_true rfl, eq_self_of_within c.within.1⟩, eq_self_of_within c.within.2⟩

theorem find?_values (cs : List (AlertCandidate sha256)) (id : String) :
    (cs.map fun c => c.values).find? (fun row => row.alertCandidateId == id) =
      (cs.find? fun c => c.alertCandidateId == id).map fun c => c.values := by
  rw [List.find?_map]
  rfl

/-- **`insertRow` is `insert`**, on the rows of the candidates that are stored. -/
theorem insertRow_agrees (fault : AlertFault) (stored : List (AlertCandidate sha256)) (c : AlertCandidate sha256) :
    ResultsAgree (insertRow sha256 fault (stored.map fun c => c.values) c).1
      (insert sha256 fault (stored.map (·.toAlertCandidateFields)) c).1 ∧
    (insertRow sha256 fault (stored.map fun c => c.values) c).2 =
      (insert sha256 fault (stored.map (·.toAlertCandidateFields)) c).2.map AlertCandidateFields.values := by
  have hmap : (stored.map fun c => c.values) =
      (stored.map (·.toAlertCandidateFields)).map AlertCandidateFields.values := by rw [List.map_map]; rfl
  cases fault with
  | connectCorrupt | connectUnavailable | busy | write => exact ⟨rfl, hmap⟩
  | none =>
    have hfields : (stored.map (·.toAlertCandidateFields)).find? (fun row => row.alertCandidateId == c.alertCandidateId) =
        (stored.find? fun s => s.alertCandidateId == c.alertCandidateId).map (·.toAlertCandidateFields) := by
      rw [List.find?_map]
      rfl
    unfold insertRow insert insertRowTx insertTx
    dsimp only
    rw [find?_values, hfields]
    cases hfind : stored.find? fun s => s.alertCandidateId == c.alertCandidateId with
    | none =>
      refine ⟨⟨rfl, c.same_self⟩, ?_⟩
      rw [Option.map_none, Option.map_none]
      dsimp only
      rw [List.map_append, hmap]
      rfl
    | some s =>
      rw [Option.map_some, Option.map_some]
      dsimp only
      rw [candidateFromRow_values, AlertCandidate.new_self]
      dsimp only
      rw [sameDetectionEvidence_readBack]
      cases sameDetectionEvidence s.toAlertCandidateFields c.toAlertCandidateFields with
      | false => exact ⟨rfl, hmap⟩
      | true => exact ⟨⟨rfl, s.same_readBack⟩, hmap⟩

end
end ThreatFusion.Alerts
