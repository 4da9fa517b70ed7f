import ThreatFusion.Correlation.Provenance
import ThreatFusion.Lib.Grouping
import ThreatFusion.Lib.Json
/-
# The SOAR store: playbook records, the audit chain, the sealed head

`soar/playbook_ledger.py`, first part. A table is the list of its rows in rowid order; a transaction is
one step whose error leaves the tables as they were.

| here | there |
| --- | --- |
| `computeCanonicalAuditEntryHash` | `compute_canonical_audit_entry_hash` (:47-71) |
| `computeSoarAuditEntryHash`      | `compute_soar_audit_entry_hash` (:74-102) |
| `sealHeadHmac`                   | `seal_head_hmac` (:105-109) |
| `SoarAuditEntry`, `SoarAuditRow` | the dataclass (:121-134), the columns of `soar_audit_events` (:303-318) |
| `saveRecord`, `getRecord`        | `save_record` (:383-414), `get_record` (:416-425) |
| `appendAuditEvent`               | `append_audit_event` (:435-558) |
| `listAuditEvents`                | `list_audit_events`, `list_audit_entries` (:560-574) |
| `verifyAuditChainIntegrity`      | `verify_audit_chain_integrity` (:599-715) |
-/
namespace ThreatFusion.Soar
open Py JsonText Grouping

def SOAR_AUDIT_GENESIS_HASH : String := "0000000000000000000000000000000000000000000000000000000000000000"

/-- The interpreter of the correlator, and HMAC-SHA256 in hexadecimal. -/
structure Runtime extends Correlation.Runtime where
  hmacSha256 : Bytes → Bytes → String

/-- `SoarError` with its subclasses, the `ValueError` and `KeyError` of the engine, an `sqlite3` error. -/
inductive SoarError where
  | missingLedgerSecret
  | sqlite
  | valueError (message : String)
  | keyError (message : String)
  | stateTransition (message : String)
  | optimisticConcurrency (message : String)
deriving DecidableEq

inductive PlaybookState where
  | pendingApproval | approved | rejected | executedSimulated | rolledBack
deriving DecidableEq

def PlaybookState.text : PlaybookState → String
  | .pendingApproval => "pending_approval"
  | .approved => "approved"
  | .rejected => "rejected"
  | .executedSimulated => "executed_simulated"
  | .rolledBack => "rolled_back"

structure SoarPlaybookRecord where
  playbookId : String
  candidateId : String
  actionType : String
  targetEntity : String
  state : PlaybookState
  version : ℤ
  actorId : Option String
  decisionReason : Option String
  preActionSnapshot : Option String
  executionEvidence : Option String
  rollbackReason : Option String
  createdAtUtc : String
  updatedAtUtc : String
  tApprovalQueued : Option ℚ := none
  tCallbackVerified : Option ℚ := none
  tResponse : Option ℚ := none
deriving DecidableEq

structure SoarAuditEntry where
  eventId : String
  playbookId : String
  action : String
  actorId : String
  oldState : String
  newState : String
  reason : Option String
  snapshot : Option String
  timestampUtc : String
  prevEntrySha256 : String := SOAR_AUDIT_GENESIS_HASH
  entrySha256 : String := ""
deriving DecidableEq

/-- The last three columns came by migration and may be `NULL`. -/
structure SoarAuditRow extends SoarAuditEntry where
  sequenceId : Option ℤ
  candidateId : Option String
  canonicalEntrySha256 : Option String
deriving DecidableEq

structure HeadSeal where
  expectedCount : ℤ
  headEntrySha256 : String
  headSealHmac : String
deriving DecidableEq

structure SoarDb where
  records : List SoarPlaybookRecord := []
  events : List SoarAuditRow := []
  headSeal : Option HeadSeal := none
deriving DecidableEq

/-! ## The keyed hashes -/

/-- A key that `_ledger_hmac` does not refuse with `missing_ledger_secret`. -/
abbrev LedgerSecret := { secret : String // secret ≠ "" }

section
variable (rt : Runtime) (key : LedgerSecret)

def ledgerHmac (canonicalRepr : String) : String := rt.hmacSha256 (utf8 key.1) (utf8 canonicalRepr)

/-- A text column, `null` for `None`. -/
def jsonText : Option String → Json
  | none => .null
  | some s => .str s

/-- Both callers take the payload from one entry: `actor` is its `actor_id`, `state` its `new_state`. -/
def canonicalFields (e : SoarAuditEntry) (sequenceId : ℤ) (candidateId : String) : List (String × Json) :=
  [("actor", .str e.actorId), ("candidate_id", .str candidateId), ("playbook_id", .str e.playbookId),
    ("prev_entry_sha256", .str e.prevEntrySha256), ("reason", .str (e.reason.getD "")),
    ("sequence_id", .int sequenceId), ("state", .str e.newState), ("timestamp_utc", .str e.timestampUtc)]

def canonicalRepr (e : SoarAuditEntry) (sequenceId : ℤ) (candidateId : String) : String :=
  String.ofList (dumps (.obj (canonicalFields e sequenceId candidateId)))

def computeCanonicalAuditEntryHash (e : SoarAuditEntry) (sequenceId : ℤ) (candidateId : String) : String :=
  ledgerHmac rt key (canonicalRepr e sequenceId candidateId)

def entryFields (e : SoarAuditEntry) : List (String × Json) :=
  [("event_id", .str e.eventId), ("playbook_id", .str e.playbookId), ("action", .str e.action),
    ("actor_id", .str e.actorId), ("old_state", .str e.oldState), ("new_state", .str e.newState),
    ("reason", jsonText e.reason), ("snapshot", jsonText e.snapshot), ("timestamp_utc", .str e.timestampUtc),
    ("prev_entry_sha256", .str e.prevEntrySha256)]

def entryRepr (e : SoarAuditEntry) : String := String.ofList (dumps (.obj (entryFields e)))

def computeSoarAuditEntryHash (e : SoarAuditEntry) : String := ledgerHmac rt key (entryRepr e)

def sealMaterial (expectedCount : ℤ) (headEntrySha256 : String) : String :=
  toString expectedCount ++ ":" ++ headEntrySha256

def sealHeadHmac (expectedCount : ℤ) (headEntrySha256 : String) : String :=
  ledgerHmac rt key (sealMaterial expectedCount headEntrySha256)

end

/-! ## The tables -/

def getRecord (playbookId : String) (db : SoarDb) : Option SoarPlaybookRecord :=
  db.records.find? (·.playbookId = playbookId)

/-- `INSERT OR REPLACE`: the row of that primary key goes, the new one comes last. -/
def putRecord (record : SoarPlaybookRecord) (db : SoarDb) : SoarDb :=
  { db with records := db.records.filter (·.playbookId ≠ record.playbookId) ++ [record] }

def saveRecord (fault : Bool) (record : SoarPlaybookRecord) (db : SoarDb) : Except SoarError Unit × SoarDb :=
  if fault then (.error .sqlite, db) else (.ok (), putRecord record db)

structure AuditEvent where
  playbookId : String
  action : String
  actorId : String
  oldState : String
  newState : String
  reason : Option String := none
  snapshot : Option String := none
deriving DecidableEq

/-- What the two lines before the lock read, and whether SQLite fails inside. -/
structure AppendCall where
  uuid : String
  now : DateTime
  fault : Bool := false
deriving DecidableEq

def AppendCall.eventId (call : AppendCall) : String := "soar_audit:" ++ call.uuid

/-- The hash of the last row when there is one and it is truthy. -/
def prevHash (events : List SoarAuditRow) : String :=
  match events.getLast? with
  | some row => if row.entrySha256 = "" then SOAR_AUDIT_GENESIS_HASH else row.entrySha256
  | none => SOAR_AUDIT_GENESIS_HASH

def candidateOf (playbookId : String) (db : SoarDb) : String :=
  ((getRecord playbookId db).map (·.candidateId)).getD ""

def auditEntry (rt : Runtime) (key : LedgerSecret) (call : AppendCall) (ev : AuditEvent)
    (events : List SoarAuditRow) : SoarAuditEntry :=
  let e : SoarAuditEntry :=
    { eventId := call.eventId, playbookId := ev.playbookId, action := ev.action, actorId := ev.actorId
      oldState := ev.oldState, newState := ev.newState, reason := ev.reason, snapshot := ev.snapshot
      timestampUtc := call.now.isoformat, prevEntrySha256 := prevHash events }
  { e with entrySha256 := computeSoarAuditEntryHash rt key e }

def auditRow (rt : Runtime) (key : LedgerSecret) (call : AppendCall) (ev : AuditEvent) (db : SoarDb) :
    SoarAuditRow :=
  let e := auditEntry rt key call ev db.events
  let sequenceId : ℤ := db.events.length + 1
  let candidateId := candidateOf ev.playbookId db
  { toSoarAuditEntry := e, sequenceId := some sequenceId, candidateId := some candidateId
    canonicalEntrySha256 := some (computeCanonicalAuditEntryHash rt key e sequenceId candidateId) }

/-- The committed transaction: the row and the seal of the new head. -/
def appendRow (rt : Runtime) (key : LedgerSecret) (row : SoarAuditRow) (db : SoarDb) : SoarDb :=
  let count : ℤ := db.events.length + 1
  { db with
    events := db.events ++ [row]
    headSeal := some ⟨count, row.entrySha256, sealHeadHmac rt key count row.entrySha256⟩ }

def appendAuditEvent (rt : Runtime) (secret : String) (call : AppendCall) (ev : AuditEvent) (db : SoarDb) :
    Except SoarError SoarAuditEntry × SoarDb :=
  if call.fault then (.error .sqlite, db)
  else if h : secret = "" then (.error .missingLedgerSecret, db)
  else
    let row := auditRow rt ⟨secret, h⟩ call ev db
    -- `event_id` is the primary key
    if db.events.any (·.eventId = row.eventId) then (.error .sqlite, db)
    else (.ok row.toSoarAuditEntry, appendRow rt ⟨secret, h⟩ row db)

/-- `ORDER BY timestamp_utc`: the rows of one timestamp come in an order of SQLite's, `tie`. -/
def listAuditEvents (tie : String → Nat) (playbookId : String) (db : SoarDb) : List SoarAuditRow :=
  (db.events.filter (·.playbookId = playbookId)).insertionSort (lexLe (·.timestampUtc) fun r => tie r.eventId)

def listAuditEntries (tie : String → Nat) (playbookId : String) (db : SoarDb) : List SoarAuditEntry :=
  (listAuditEvents tie playbookId db).map (·.toSoarAuditEntry)

/-! ## Verification -/

def broken (idx : Nat) (row : SoarAuditRow) (what : String) : String :=
  s!"SOAR audit chain broken at row index {idx} (event_id={row.eventId}): " ++ what

/-- The check of one row. A `NULL` sequence is not compared, an empty canonical hash not recomputed. -/
def rowFault (rt : Runtime) (key : LedgerSecret) (idx : Nat) (expectedPrev : String) (row : SoarAuditRow) :
    Option String :=
  let recomputed := computeSoarAuditEntryHash rt key row.toSoarAuditEntry
  let sequenceId : ℤ := row.sequenceId.getD (idx + 1)
  let storedCanonical := row.canonicalEntrySha256.getD ""
  let canonical := computeCanonicalAuditEntryHash rt key row.toSoarAuditEntry sequenceId
    (row.candidateId.getD "")
  if row.prevEntrySha256 ≠ expectedPrev then
    some (broken idx row s!"prev_entry_sha256 '{row.prevEntrySha256}' != expected '{expectedPrev}'")
  else if recomputed ≠ row.entrySha256 then
    some (broken idx row s!"recomputed hash '{recomputed}' != stored entry_sha256 '{row.entrySha256}'")
  else if sequenceId ≠ idx + 1 then
    some (broken idx row s!"sequence_id {sequenceId} != {idx + 1}")
  else if storedCanonical ≠ "" ∧ canonical ≠ storedCanonical then
    some (broken idx row
      s!"recomputed hash '{canonical}' != stored canonical_entry_sha256 '{storedCanonical}'")
  else none

def chainFault (rt : Runtime) (key : LedgerSecret) : Nat → String → List SoarAuditRow → Option String
  | _, _, [] => none
  | idx, expectedPrev, row :: rows => match rowFault rt key idx expectedPrev row with
    | some message => some message
    | none => chainFault rt key (idx + 1) row.entrySha256 rows

def sealHolds (rt : Runtime) (key : LedgerSecret) (events : List SoarAuditRow) (headSeal : HeadSeal) : Bool :=
  headSeal.expectedCount == events.length && events.getLast?.any (·.entrySha256 == headSeal.headEntrySha256) &&
    sealHeadHmac rt key headSeal.expectedCount headSeal.headEntrySha256 == headSeal.headSealHmac

def verifyAuditChainIntegrity (rt : Runtime) (secret : String) (playbookId : Option String)
    (requireNonEmpty : Bool) (db : SoarDb) : Bool × String :=
  if h : secret = "" then (false, "missing_ledger_secret")
  else if db.events = [] then (false, "empty ledger")
  else if requireNonEmpty ∧ db.headSeal = none then (false, "empty ledger")
  else match chainFault rt ⟨secret, h⟩ 0 SOAR_AUDIT_GENESIS_HASH db.events, db.headSeal with
    | some message, _ => (false, message)
    | none, none => (false, "empty ledger")
    | none, some headSeal =>
      if !sealHolds rt ⟨secret, h⟩ db.events headSeal then (false, "SOAR audit head seal mismatch")
      else match playbookId with
        | none => (true, s!"SOAR audit chain verified: {db.events.length} entries valid (whole ledger)")
        | some p =>
          let rows := db.events.filter (·.playbookId = p)
          if rows = [] then (false, "empty ledger")
          else (true, s!"SOAR audit chain verified: {rows.length} entries valid (playbook '{p}')")

end ThreatFusion.Soar
