import ThreatFusion.Admission.Response
/-
# `ProducerReplayJournal`: one SQLite table, three atomic calls

`db/producer_replay_journal.py`. The table is the list of its rows in rowid order; every call is one
`BEGIN IMMEDIATE` transaction (`atomic`), whose error leaves the table as it was. What the database
or the environment adds to a call (a busy lock, an I/O error, the random token) is an argument.

| here | there |
| --- | --- |
| `ReplayRow`, `rowCheck`        | `replay_requests` and its `CHECK` constraints (:42-97) |
| `insertRow`, `updateRows`      | `INSERT` (primary key, unique nonce index) and `UPDATE` |
| `recordEvidence`, `rowEvidence` | `_record_evidence`, `_row_evidence` (:213-246) |
| `claim`                        | `ProducerReplayJournal.claim` (:414) |
| `complete`                     | `ProducerReplayJournal.complete` (:529) |
| `recoverAbandonedGeneration`   | `ProducerReplayJournal.recover_abandoned_generation` (:589) |
| `Codec`                        | SHA-256 and `decode_producer_response` |

Nothing is assumed of `Codec`: the results hold for every digest and every decoder.
-/
namespace ThreatFusion.ReplayJournal
open Py Admission

def REPLAY_RECORD_SCHEMA_VERSION : String := "producer_replay_journal_record_v1"

structure Codec where
  /-- `hashlib.sha256(b).hexdigest()`. -/
  sha256 : Bytes → String
  /-- `decode_producer_response(b)`; `none` when it raises. -/
  decodeProducerResponse : Bytes → Option ProducerResponse

/-- `decode_producer_response(b).correlation_id`. -/
def Codec.responseCorrelationId (c : Codec) (b : Bytes) : Option String :=
  (c.decodeProducerResponse b).map (·.correlationId)

inductive ReplayState where
  | inProgress | completed | outcomeUnknown
deriving DecidableEq, Repr

def ReplayState.text : ReplayState → String
  | .inProgress => "in_progress"
  | .completed => "completed"
  | .outcomeUnknown => "outcome_unknown"

structure ReplayRow where
  recordSchemaVersion : String
  requestId : String
  producerId : String
  credentialId : String
  nonceSha256 : String
  bodySha256 : String
  producedAt : String
  receivedAt : String
  firstCorrelationId : String
  method : String
  target : String
  contentType : String
  contentLength : Nat
  sourceContract : String
  recordCount : Nat
  orderedRecordsSha256 : String
  state : ReplayState
  serviceGenerationId : String
  claimTokenSha256 : Option String
  claimedAt : String
  completedAt : Option String
  recoveredAt : Option String
  responseBytes : Option Bytes
  responseSha256 : Option String
deriving DecidableEq

abbrev JournalDb := List ReplayRow

def between (lo hi n : Nat) : Bool := decide (lo ≤ n ∧ n ≤ hi)

/-- The last `CHECK` (:82-95): which columns each state fills. -/
def stateShape (r : ReplayRow) : Bool :=
  match r.state with
  | .inProgress => r.claimTokenSha256.isSome && r.completedAt.isNone && r.recoveredAt.isNone &&
      r.responseBytes.isNone && r.responseSha256.isNone
  | .completed => r.claimTokenSha256.isNone && r.completedAt.isSome && r.recoveredAt.isNone &&
      r.responseBytes.isSome && r.responseSha256.isSome
  | .outcomeUnknown => r.claimTokenSha256.isNone && r.completedAt.isNone && r.recoveredAt.isSome &&
      r.responseBytes.isNone && r.responseSha256.isNone

/-- Every `CHECK` of the table (:42-96). -/
def rowCheck (r : ReplayRow) : Bool :=
  r.recordSchemaVersion == REPLAY_RECORD_SCHEMA_VERSION && r.requestId.length == 36 &&
  between 1 128 r.producerId.length && isSha256 r.credentialId && isSha256 r.nonceSha256 &&
  isSha256 r.bodySha256 && between 20 32 r.producedAt.length && between 20 32 r.receivedAt.length &&
  r.firstCorrelationId.length == 36 && r.method == INGEST_METHOD && r.target == INGEST_TARGET &&
  r.contentType == JSON_CONTENT_TYPE && between 1 MAX_REQUEST_BODY_BYTES r.contentLength &&
  between 1 64 r.sourceContract.length && between 1 MAX_RECORDS r.recordCount &&
  isSha256 r.orderedRecordsSha256 && r.serviceGenerationId.length == 36 &&
  r.claimTokenSha256.all isSha256 && between 20 32 r.claimedAt.length &&
  r.completedAt.all (fun t => between 20 32 t.length) &&
  r.recoveredAt.all (fun t => between 20 32 t.length) &&
  r.responseBytes.all (fun b => between 1 MAX_RESPONSE_BYTES b.length) &&
  r.responseSha256.all isSha256 && stateShape r

/-! ## Errors and transactions -/

/-- The codes of `ProducerReplayJournalError`. -/
inductive JournalError where
  | requestInvalid | requestReplayRejected | recordInvalid | claimNotActive | cachedResponseInvalid
  | recoveryRequestInvalid | unavailable | busy | writeFailed
deriving DecidableEq, Repr

def JournalError.code : JournalError → String
  | .requestInvalid => "journal_request_invalid"
  | .requestReplayRejected => "request_replay_rejected"
  | .recordInvalid => "journal_record_invalid"
  | .claimNotActive => "claim_not_active"
  | .cachedResponseInvalid => "cached_response_invalid"
  | .recoveryRequestInvalid => "recovery_request_invalid"
  | .unavailable => "journal_unavailable"
  | .busy => "journal_busy"
  | .writeFailed => "journal_write_failed"

/-- A `sqlite3.Error` inside a transaction: lock contention, or anything else. -/
inductive SqliteError where
  | busy | other
deriving DecidableEq, Repr

/-- `_database_error(exc, write=True)` (:249). -/
def databaseError : SqliteError → JournalError
  | .busy => .busy
  | .other => .writeFailed

/-- What SQLite does to one call: no connection, an error at `BEGIN IMMEDIATE`, an error at `COMMIT`. -/
structure DbFault where
  noConnection : Bool := false
  begin : Option SqliteError := none
  commit : Option SqliteError := none
deriving DecidableEq

/-- The call goes through: no fault of the database. -/
def DbFault.none : DbFault := {}

/-- `BEGIN IMMEDIATE; body; COMMIT`, with `ROLLBACK` on every error. -/
def atomic {α : Type} (fault : DbFault) (db : JournalDb)
    (body : JournalDb → Except JournalError (α × JournalDb)) : Except JournalError α × JournalDb :=
  if fault.noConnection then (.error .unavailable, db)
  else match fault.begin with
    | some e => (.error (databaseError e), db)
    | none => match body db with
      | .error e => (.error e, db)
      | .ok (a, db') => match fault.commit with
        | some e => (.error (databaseError e), db)
        | none => (.ok a, db')

/-- `INSERT`: `CHECK`s, primary key `request_id`, unique index on `nonce_sha256`. -/
def insertRow (db : JournalDb) (r : ReplayRow) : Except JournalError JournalDb :=
  if rowCheck r && db.all (fun s => s.requestId != r.requestId && s.nonceSha256 != r.nonceSha256) then
    .ok (db ++ [r])
  else .error .writeFailed

/-- `UPDATE ... WHERE sel`: one row that fails its `CHECK` fails the statement. -/
def updateRows (db : JournalDb) (sel : ReplayRow → Bool) (upd : ReplayRow → ReplayRow) :
    Except JournalError JournalDb :=
  if (db.filter sel).all (fun r => rowCheck (upd r)) then
    .ok (db.map fun r => if sel r then upd r else r)
  else .error .writeFailed

/-! ## Evidence -/

structure Evidence where
  producerId : String
  credentialId : String
  requestId : String
  nonceSha256 : String
  bodySha256 : String
  producedAt : String
  method : String
  target : String
  contentType : String
  contentLength : Nat
  sourceContract : String
  recordCount : Nat
  orderedRecordsSha256 : String
deriving DecidableEq

/-- `_ordered_records_sha256` (:205). -/
def orderedRecordsSha256 (c : Codec) (records : List ProducerEventReference) : String :=
  c.sha256 (utf8 "threatfusion:producer-replay-records" ++ [0] ++
    records.flatMap fun r => utf8 r.sourceMemberSha256 ++ packBE 8 r.rowNumber)

def recordEvidence (c : Codec) (r : ValidatedAdmissionRecord) : Evidence :=
  { producerId := r.producerId, credentialId := r.credentialId, requestId := r.requestId
    nonceSha256 := r.nonceSha256, bodySha256 := r.bodySha256, producedAt := r.producedAt.isoformat
    method := r.method, target := r.target, contentType := r.contentType
    contentLength := r.contentLength, sourceContract := r.sourceContract
    recordCount := r.records.length, orderedRecordsSha256 := orderedRecordsSha256 c r.records }

def rowEvidence (r : ReplayRow) : Evidence :=
  { producerId := r.producerId, credentialId := r.credentialId, requestId := r.requestId
    nonceSha256 := r.nonceSha256, bodySha256 := r.bodySha256, producedAt := r.producedAt
    method := r.method, target := r.target, contentType := r.contentType
    contentLength := r.contentLength, sourceContract := r.sourceContract
    recordCount := r.recordCount, orderedRecordsSha256 := r.orderedRecordsSha256 }

/-! ## The three calls -/

/-- A service generation: `__init__` admits only a version-4 UUID (:260). -/
structure Generation where
  id : String
  valid : isUuid4 id = true
deriving DecidableEq

structure ReplayClaim where
  requestId : String
  serviceGenerationId : String
  ownershipToken : String
deriving DecidableEq

inductive ClaimReason where
  | requestInProgress | requestCompleted | outcomeUnknown | requestClaimed
deriving DecidableEq, Repr

def ClaimReason.text : ClaimReason → String
  | .requestInProgress => "request_in_progress"
  | .requestCompleted => "request_completed"
  | .outcomeUnknown => "outcome_unknown"
  | .requestClaimed => "request_claimed"

structure ReplayClaimResult where
  disposition : ReplayState
  reason : ClaimReason
  claim : Option ReplayClaim
  cachedResponse : Option Bytes
  firstCorrelationId : String
deriving DecidableEq

def existingRows (db : JournalDb) (r : ValidatedAdmissionRecord) : List ReplayRow :=
  db.filter fun row => row.requestId == r.requestId || row.nonceSha256 == r.nonceSha256

/-- `_completed_response` (:396). -/
def completedResponse (c : Codec) (row : ReplayRow) : Except JournalError Bytes :=
  match row.responseBytes, row.responseSha256 with
  | some response, some digest =>
    if c.sha256 response != digest then .error .recordInvalid
    else match c.responseCorrelationId response with
      | none => .error .recordInvalid
      | some cid => if cid != row.firstCorrelationId then .error .recordInvalid else .ok response
  | _, _ => .error .recordInvalid

/-- The row a fresh claim inserts (:468-507). -/
def newRow (c : Codec) (gen : Generation) (r : ValidatedAdmissionRecord) (token : String)
    (claimedAt : DateTime) : ReplayRow :=
  let evidence := recordEvidence c r
  { recordSchemaVersion := REPLAY_RECORD_SCHEMA_VERSION
    requestId := r.requestId, producerId := r.producerId, credentialId := r.credentialId
    nonceSha256 := r.nonceSha256, bodySha256 := r.bodySha256
    producedAt := r.producedAt.isoformat, receivedAt := r.receivedAt.isoformat
    firstCorrelationId := r.correlationId, method := r.method, target := r.target
    contentType := r.contentType, contentLength := r.contentLength
    sourceContract := r.sourceContract, recordCount := evidence.recordCount
    orderedRecordsSha256 := evidence.orderedRecordsSha256, state := .inProgress
    serviceGenerationId := gen.id, claimTokenSha256 := some (c.sha256 (utf8 token))
    claimedAt := claimedAt.isoformat, completedAt := none, recoveredAt := none
    responseBytes := none, responseSha256 := none }

/-- The answer for a request that already has its row (:430-460). -/
def replayDisposition (c : Codec) (row : ReplayRow) : Except JournalError ReplayClaimResult :=
  match row.state with
  | .inProgress => .ok ⟨.inProgress, .requestInProgress, none, none, row.firstCorrelationId⟩
  | .completed => match completedResponse c row with
    | .error e => .error e
    | .ok response => .ok ⟨.completed, .requestCompleted, none, some response, row.firstCorrelationId⟩
  | .outcomeUnknown => .ok ⟨.outcomeUnknown, .outcomeUnknown, none, none, row.firstCorrelationId⟩

def claimTx (c : Codec) (gen : Generation) (r : ValidatedAdmissionRecord) (token : String)
    (claimedAt : DateTime) (db : JournalDb) : Except JournalError (ReplayClaimResult × JournalDb) :=
  match existingRows db r with
  | [] => match ValidatedAdmissionRecord.new r.toAdmissionFields with
    | none => .error .requestInvalid
    | some validated => match insertRow db (newRow c gen validated token claimedAt) with
      | .error e => .error e
      | .ok db' => .ok (⟨.inProgress, .requestClaimed, some ⟨validated.requestId, gen.id, token⟩, none,
          validated.correlationId⟩, db')
  | [row] => if rowEvidence row != recordEvidence c r then .error .requestReplayRejected
    else match replayDisposition c row with
      | .error e => .error e
      | .ok result => .ok (result, db)
  | _ => .error .requestReplayRejected

/-- `claim`; `claimedAt = none` is a value that `_is_utc` rejects. -/
def claim (c : Codec) (gen : Generation) (r : ValidatedAdmissionRecord) (token : String)
    (claimedAt : Option DateTime) (fault : DbFault) (db : JournalDb) :
    Except JournalError ReplayClaimResult × JournalDb :=
  match claimedAt with
  | none => (.error .requestInvalid, db)
  | some t => atomic fault db (claimTx c gen r token t)

/-- The `UPDATE` of `complete` (:563-577). -/
def ReplayRow.completeWith (row : ReplayRow) (completedAt : String) (response : Bytes)
    (digest : String) : ReplayRow :=
  { row with
    state := .completed, claimTokenSha256 := none, completedAt := some completedAt
    responseBytes := some response, responseSha256 := some digest }

/-- The `UPDATE` of `recover_abandoned_generation` (:603-614). -/
def ReplayRow.abandon (row : ReplayRow) (recoveredAt : String) : ReplayRow :=
  { row with state := .outcomeUnknown, claimTokenSha256 := none, recoveredAt := some recoveredAt }

def completeTx (c : Codec) (gen : Generation) (cl : ReplayClaim) (response : Bytes) (cid : String)
    (completedAt : DateTime) (db : JournalDb) : Except JournalError (Bytes × JournalDb) :=
  match db.find? fun row => row.requestId == cl.requestId with
  | none => .error .claimNotActive
  | some row =>
    if row.state != .inProgress || cl.serviceGenerationId != gen.id ||
        row.serviceGenerationId != gen.id ||
        row.claimTokenSha256 != some (c.sha256 (utf8 cl.ownershipToken)) ||
        cid != row.firstCorrelationId then .error .claimNotActive
    else match updateRows db (fun r => r.requestId == cl.requestId)
        (·.completeWith completedAt.isoformat response (c.sha256 response)) with
      | .error e => .error e
      | .ok db' => .ok (response, db')

def complete (c : Codec) (gen : Generation) (cl : ReplayClaim) (response : Bytes)
    (completedAt : Option DateTime) (fault : DbFault) (db : JournalDb) :
    Except JournalError Bytes × JournalDb :=
  match completedAt with
  | none => (.error .claimNotActive, db)
  | some t =>
    if !isUuid4 cl.requestId || !isUuid4 cl.serviceGenerationId ||
        !isOwnershipToken cl.ownershipToken then (.error .claimNotActive, db)
    else if !between 1 MAX_RESPONSE_BYTES response.length then (.error .cachedResponseInvalid, db)
    else match c.responseCorrelationId response with
      | none => (.error .cachedResponseInvalid, db)
      | some cid => atomic fault db (completeTx c gen cl response cid t)

def recoverTx (abandoned : String) (recoveredAt : DateTime) (db : JournalDb) :
    Except JournalError (Nat × JournalDb) :=
  let sel := fun row : ReplayRow => row.state == .inProgress && row.serviceGenerationId == abandoned
  match updateRows db sel (·.abandon recoveredAt.isoformat) with
  | .error e => .error e
  | .ok db' => .ok (db.countP sel, db')

def recoverAbandonedGeneration (gen : Generation) (abandoned : String) (recoveredAt : Option DateTime)
    (fault : DbFault) (db : JournalDb) : Except JournalError Nat × JournalDb :=
  match recoveredAt with
  | none => (.error .recoveryRequestInvalid, db)
  | some t =>
    if !isUuid4 abandoned || abandoned == gen.id then (.error .recoveryRequestInvalid, db)
    else atomic fault db (recoverTx abandoned t)

end ThreatFusion.ReplayJournal
