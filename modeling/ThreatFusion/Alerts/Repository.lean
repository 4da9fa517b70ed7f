import ThreatFusion.Alerts.Candidate
/-
# `AlertCandidateRepository.insert`: first writer wins

`db/alert_repository.py`. The table is the list of its rows; a row keeps the fields of the candidate
that created it (a datetime is stored as its `isoformat`, which determines it). Reading a row builds
the candidate again and so checks it again.

| here | there |
| --- | --- |
| `sameDetectionEvidence` | `_same_detection_evidence` (:130): everything but correlation, creation time and score |
| `insert`                | `AlertCandidateRepository.insert` (:219-255) |
| `AlertFault`            | what `sqlite3` does to one call |
-/
namespace ThreatFusion.Alerts
open Py

/-- The codes of `AlertPersistenceError` that `insert` raises. -/
inductive AlertPersistenceError where
  | databaseCorrupt | databaseUnavailable | candidateTypeInvalid | databaseRecordInvalid
  | identityConflict | databaseBusy | databaseWriteFailed
deriving DecidableEq, Repr

def AlertPersistenceError.code : AlertPersistenceError → String
  | .databaseCorrupt => "database_corrupt"
  | .databaseUnavailable => "database_unavailable"
  | .candidateTypeInvalid => "alert_candidate_type_invalid"
  | .databaseRecordInvalid => "database_record_invalid"
  | .identityConflict => "alert_candidate_identity_conflict"
  | .databaseBusy => "database_busy"
  | .databaseWriteFailed => "database_write_failed"

/-- An error at `connect`, or one at the transaction's statements or its commit. -/
inductive AlertFault where
  | none
  | connectCorrupt | connectUnavailable
  | busy | write
deriving DecidableEq

abbrev AlertDb := List AlertCandidateFields

/-- The pair `(disposition, reason)` of an `AlertInsertResult`. -/
inductive InsertDisposition where
  | created | existing
deriving DecidableEq, Repr

structure AlertInsertResult (sha256 : Bytes → String) where
  disposition : InsertDisposition
  candidate : AlertCandidate sha256
deriving DecidableEq

/-- The double `1e-15`. -/
def MODEL_SCORE_RETRY_ABS_TOLERANCE : ℚ := 2535301200456459 / 2535301200456458802993406410752

/-- `math.isclose(a, b, rel_tol=0.0, abs_tol=1e-15)`. -/
def scoresClose : PyFloat → PyFloat → Bool
  | .finite a _, .finite b _ => decide (a = b ∨ |roundDouble (b - a)| ≤ MODEL_SCORE_RETRY_ABS_TOLERANCE)
  | _, _ => false

def sameDetectionEvidence (stored attempted : AlertCandidateFields) : Bool :=
  decide ({ stored with
      correlationId := attempted.correlationId, createdAt := attempted.createdAt
      uncalibratedModelScore := attempted.uncalibratedModelScore
      decisionThreshold := attempted.decisionThreshold } = attempted) &&
    stored.decisionThreshold.eq attempted.decisionThreshold &&
    scoresClose stored.uncalibratedModelScore attempted.uncalibratedModelScore

section
variable (sha256 : Bytes → String)

/-- The statements between `BEGIN IMMEDIATE` and the end, without faults. -/
def insertTx (db : AlertDb) (candidate : AlertCandidate sha256) :
    Except AlertPersistenceError (AlertInsertResult sha256 × AlertDb) :=
  match db.find? fun row => row.alertCandidateId == candidate.alertCandidateId with
  | none => .ok (⟨.created, candidate⟩, db ++ [candidate.toAlertCandidateFields])
  | some row => match AlertCandidate.new sha256 row with
    | none => .error .databaseRecordInvalid
    | some stored =>
      if !sameDetectionEvidence stored.toAlertCandidateFields candidate.toAlertCandidateFields then
        .error .identityConflict
      else .ok (⟨.existing, stored⟩, db)

/-- An error of any kind rolls back. -/
def insert (fault : AlertFault) (db : AlertDb) (candidate : AlertCandidate sha256) :
    Except AlertPersistenceError (AlertInsertResult sha256) × AlertDb :=
  match fault with
  | .connectCorrupt => (.error .databaseCorrupt, db)
  | .connectUnavailable => (.error .databaseUnavailable, db)
  | .busy => (.error .databaseBusy, db)
  | .write => (.error .databaseWriteFailed, db)
  | .none => match insertTx sha256 db candidate with
    | .error e => (.error e, db)
    | .ok (result, db') => (.ok result, db')

end

end ThreatFusion.Alerts
