import ThreatFusion.Alerts.Repository
import ThreatFusion.Analyst.Repository
import ThreatFusion.Audit.Events
import ThreatFusion.Correlation.Repository
import ThreatFusion.Lib.JsonLayout
import ThreatFusion.Py.IsoFormat
/-
# Storage snapshots (`operations/storage_backup.py`)

A file is its bytes and what SQLite reads there; a directory is a table of files. What the operating system or
SQLite may raise at a step comes from the environment (`faults`). The directory itself (its mode, its owner, its
lock) is one such step.

| here | there |
| --- | --- |
| `checkNoSymlink`        | `_check_no_symlink` (:171-182) |
| `backupSqlite`          | `_backup_sqlite` (:197-249) |
| `inspectDatabase`       | `_inspect_database` (:252-332) |
| `checkCrossDatabaseConsistency` | `_check_cross_database_consistency` (:335-406) |
| `writeManifest`         | `_write_manifest` (:409-440) |
| `createStorageSnapshot` | `create_storage_snapshot` (:504-573), with the paths that it found |
| `verifyStorageSnapshot` | `verify_storage_snapshot` (:576-656) |
-/
namespace ThreatFusion.Storage
open Py Alerts Audit Correlation Grouping JsonText
open Analyst hiding Value

inductive StorageBackupError where
  | directoryInvalid | permissionInvalid | symlinkRejected | lockFailed | fileInvalid | databaseCorrupt | backupFailed
  | integrityCheckFailed | schemaMismatch | referentialIntegrityFailed | manifestTooLarge | snapshotDirectoryNotEmpty
  | unexpectedFile | snapshotIncomplete | manifestInvalid | digestMismatch
deriving DecidableEq

def StorageBackupError.code : StorageBackupError → String
  | .directoryInvalid => "directory_invalid"
  | .permissionInvalid => "permission_invalid"
  | .symlinkRejected => "symlink_rejected"
  | .lockFailed => "lock_failed"
  | .fileInvalid => "file_invalid"
  | .databaseCorrupt => "database_corrupt"
  | .backupFailed => "backup_failed"
  | .integrityCheckFailed => "integrity_check_failed"
  | .schemaMismatch => "schema_mismatch"
  | .referentialIntegrityFailed => "referential_integrity_failed"
  | .manifestTooLarge => "manifest_too_large"
  | .snapshotDirectoryNotEmpty => "snapshot_directory_not_empty"
  | .unexpectedFile => "unexpected_file"
  | .snapshotIncomplete => "snapshot_incomplete"
  | .manifestInvalid => "manifest_invalid"
  | .digestMismatch => "digest_mismatch"

/-- What a call raises: its own error, or one of Python's that it does not catch. -/
inductive Raised where
  | storageBackup (e : StorageBackupError)
  | os | unicodeDecode | value | attribute
deriving DecidableEq

/-! ## The four databases -/

inductive Role where
  | alerts | states | audit | incidents
deriving DecidableEq

namespace Role

def text : Role → String
  | alerts => "alerts"
  | states => "states"
  | audit => "audit"
  | incidents => "incidents"

/-- `EXPECTED_DB_FILENAMES`. -/
def filename : Role → String
  | alerts => "alerts.sqlite3"
  | states => "states.sqlite3"
  | audit => "audit.sqlite3"
  | incidents => "incidents.sqlite3"

/-- `EXPECTED_SCHEMA_IDENTITIES`. -/
def schemaIdentity : Role → String
  | alerts => "alert_candidate_sqlite_v1"
  | states => "analyst_state_sqlite_v1"
  | audit => "analyst_security_audit_sqlite_v1"
  | incidents => "incident_sqlite_v1"

/-- `EXPECTED_SCHEMA_VERSIONS`. -/
def schemaVersion : Role → ℤ := fun _ => 1

def wal (role : Role) : String := role.filename ++ "-wal"
def shm (role : Role) : String := role.filename ++ "-shm"

end Role

def CORE_DB_ROLES : List Role := [.alerts, .states, .audit]
def SUPPORTED_DB_ROLES : List Role := [.alerts, .states, .audit, .incidents]

def MANIFEST_FILENAME : String := "manifest.json"
def SNAPSHOT_MANIFEST_SCHEMA : String := "storage_snapshot_manifest_v1"
def MAX_MANIFEST_BYTES : Nat := 65536

/-- The tables of a database, by what it is for. `incident_grouping_corrections` is missing in an old one. -/
inductive Tables where
  | alerts (rows : AlertDb)
  | states (db : AnalystDb)
  | audit (events : List AuditRow)
  | incidents (db : IncidentDb) (hasCorrections : Bool)
deriving DecidableEq

/-- What SQLite reads in a file: `PRAGMA integrity_check`, `PRAGMA user_version`, the metadata table and the others. -/
structure Database where
  intact : Bool
  userVersion : ℤ
  metadata : List (String × String)
  tables : Tables
deriving DecidableEq

namespace Database

/-- The metadata table under the name it has for a role; an audit database has its own name for it. -/
def metadataFor (db : Database) (role : Role) : Option (List (String × String)) :=
  match db.tables, role with
  | .audit _, .audit => some db.metadata
  | .audit _, _ => none
  | _, .audit => none
  | _, _ => some db.metadata

/-- `row_counts`; `none` when a table is missing. -/
def rowCounts (db : Database) (role : Role) : Option (List (String × Nat)) :=
  match role, db.tables with
  | .alerts, .alerts rows => some [("alert_candidates", rows.length), ("repository_metadata", db.metadata.length)]
  | .states, .states tables => some [("analyst_states", tables.states.length),
      ("analyst_transition_events", tables.events.length), ("repository_metadata", db.metadata.length)]
  | .audit, .audit events => some [("audit_events", events.length), ("audit_metadata", db.metadata.length)]
  | .incidents, .incidents tables hasCorrections => some ([("incidents", tables.incidents.length),
      ("incident_constituent_alerts", tables.constituents.length)] ++
      (if hasCorrections then [("incident_grouping_corrections", tables.corrections.length)] else []) ++
      [("repository_metadata", db.metadata.length)])
  | _, _ => none

/-- `SELECT alert_candidate_id FROM alert_candidates`. -/
def alertIds (db : Database) : Option (List String) :=
  match db.tables with
  | .alerts rows => some (rows.map (·.alertCandidateId))
  | _ => none

/-- The identifiers in `analyst_states` and in `analyst_transition_events`. -/
def stateIds (db : Database) : Option (List String × List String) :=
  match db.tables with
  | .states tables => some (tables.states.map (·.alertCandidateId), tables.events.map (·.alertCandidateId))
  | _ => none

/-- The identifiers in `incident_constituent_alerts`, and the number of incidents. -/
def incidentAlertIds (db : Database) : Option (List String × Nat) :=
  match db.tables with
  | .incidents tables _ => some (tables.constituents.map (·.alertCandidateId), tables.incidents.length)
  | _ => none

end Database

/-! ## Files -/

inductive FileKind where
  | regular | symlink | other
deriving DecidableEq

/-- `database` is what SQLite reads in the bytes, when there is no WAL beside them. -/
structure StoredFile where
  kind : FileKind
  owned : Bool
  mode : Nat
  bytes : Bytes
  database : Option Database
deriving DecidableEq

abbrev Directory := List (String × StoredFile)

def put (dir : Directory) (name : String) (file : StoredFile) : Directory :=
  (name, file) :: dir.filter fun entry => entry.1 ≠ name

def remove (dir : Directory) (name : String) : Directory := dir.filter fun entry => entry.1 ≠ name

/-- `name.startswith(".")`. -/
def hidden (name : String) : Bool := name.toList.head? == some '.'

def raise {α : Type} (e : StorageBackupError) : Except Raised α := .error (.storageBackup e)

def fault {α : Type} (e : Option Raised) (next : Except Raised α) : Except Raised α :=
  match e with
  | some e => .error e
  | none => next

def checkNoSymlink (dir : Directory) (name : String) : Except Raised StoredFile :=
  match dir.lookup name with
  | none => raise .fileInvalid
  | some file => match file.kind with
    | .symlink => raise .symlinkRejected
    | .other => raise .fileInvalid
    | .regular => .ok file

/-- What `_inspect_database` returns. -/
structure DatabaseInfo where
  role : Role
  sha256 : String
  sizeBytes : Nat
  rowCounts : List (String × Nat)
deriving DecidableEq

section
variable (sha256 : Bytes → String)

/-- `database` is what SQLite reads, the WAL included. -/
def inspectDatabase (dir : Directory) (role : Role) (read : StoredFile → Option Database) :
    Except Raised DatabaseInfo := do
  let file ← checkNoSymlink dir role.filename
  if !file.owned || file.mode ≠ 0o600 then raise .permissionInvalid
  else if file.bytes.length = 0 then raise .databaseCorrupt
  else match read file with
    | none => raise .databaseCorrupt
    | some db =>
      if !db.intact then raise .integrityCheckFailed
      else if db.userVersion ≠ role.schemaVersion then raise .schemaMismatch
      else match db.metadataFor role with
        | none => raise .databaseCorrupt
        | some metadata =>
          if metadata.lookup "schema_identity" ≠ some role.schemaIdentity then raise .schemaMismatch
          else match db.rowCounts role with
            | none => raise .databaseCorrupt
            | some counts => .ok ⟨role, sha256 file.bytes, file.bytes.length, counts⟩

end

/-- The counts that the check returns; the incidents are there when their database is. -/
structure ConsistencyInfo where
  totalAlertCandidates : Nat
  totalAnalystStates : Nat
  totalIncidents : Option Nat
deriving DecidableEq

/-- Of what SQLite reads in the files. A set keeps each identifier once. -/
def checkCrossDatabaseConsistency (alerts states : Option Database) (incidents : Option (Option Database)) :
    Except Raised ConsistencyInfo :=
  match alerts.bind Database.alertIds, states.bind Database.stateIds with
  | some alertIds, some (stateIds, transitionIds) =>
    if !(stateIds ++ transitionIds).all (· ∈ alertIds) then raise .referentialIntegrityFailed
    else match incidents with
      | none => .ok ⟨alertIds.dedup.length, stateIds.dedup.length, none⟩
      | some incidents => match incidents.bind Database.incidentAlertIds with
        | none => raise .databaseCorrupt
        | some (incidentAlertIds, total) =>
          if !incidentAlertIds.all (· ∈ alertIds) then raise .referentialIntegrityFailed
          else .ok ⟨alertIds.dedup.length, stateIds.dedup.length, some total⟩
  | _, _ => raise .databaseCorrupt

/-! ## The manifest -/

def DatabaseInfo.json (info : DatabaseInfo) : Json :=
  .obj [("filename", .str info.role.filename), ("sha256", .str info.sha256), ("size_bytes", .int info.sizeBytes),
    ("schema_identity", .str info.role.schemaIdentity), ("schema_version", .int info.role.schemaVersion),
    ("row_counts", .obj (info.rowCounts.map fun count => (count.1, .int count.2)))]

def ConsistencyInfo.json (info : ConsistencyInfo) : Json :=
  .obj ([("total_alert_candidates", .int info.totalAlertCandidates),
    ("total_analyst_states", .int info.totalAnalystStates), ("orphan_states_count", .int 0)] ++
    (match info.totalIncidents with
      | none => []
      | some total => [("total_incidents", .int total), ("orphan_incident_alerts_count", .int 0)]))

structure Manifest where
  createdAtUtc : DateTime
  databases : List DatabaseInfo
  consistency : ConsistencyInfo

def Manifest.json (m : Manifest) : Json :=
  .obj [("schema", .str SNAPSHOT_MANIFEST_SCHEMA), ("created_at_utc", .str m.createdAtUtc.isoformat),
    ("databases", .obj (m.databases.map fun info => (info.role.text, info.json))),
    ("cross_database_consistency", m.consistency.json)]

/-- `json.dumps(manifest_data, indent=2, sort_keys=True) + "\n"`. -/
def Manifest.text (m : Manifest) : String := String.ofList (dumpsIn .indented m.json ++ ['\n'])

def writeManifest (dir : Directory) (m : Manifest) : Except Raised Directory :=
  if MAX_MANIFEST_BYTES < (utf8 m.text).length then raise .manifestTooLarge
  else .ok (put dir MANIFEST_FILENAME ⟨.regular, true, 0o600, utf8 m.text, none⟩)

/-! ## Creating a snapshot -/

/-- The databases in service; the one of the incidents may not be deployed. -/
structure Sources where
  alerts : AlertDb := []
  workflow : AnalystDb := {}
  audit : List AuditRow := []
  incidents : Option IncidentDb := none
  hasCorrections : Bool := true

/-- A database as its repository keeps it. -/
def Sources.database (s : Sources) : Role → Option Database
  | .alerts => some ⟨true, 1, [("schema_identity", "alert_candidate_sqlite_v1")], .alerts s.alerts⟩
  | .states => some ⟨true, 1, [("schema_identity", "analyst_state_sqlite_v1")], .states s.workflow⟩
  | .audit => some ⟨true, 1, [("schema_identity", "analyst_security_audit_sqlite_v1")], .audit s.audit⟩
  | .incidents => s.incidents.map fun db =>
    ⟨true, 1, [("schema_identity", "incident_sqlite_v1"), ("schema_version", "1")], .incidents db s.hasCorrections⟩

/-- The steps that look at the databases in service, in their order. -/
inductive Moment where
  | resolve | alerts | states | audit | incidents
deriving DecidableEq

/-- The steps at which the operating system or SQLite may raise. -/
inductive CreateStep where
  | directory | backup (role : Role) | inspect (role : Role) | check | manifest
deriving DecidableEq

section
variable (sha256 : Bytes → String) (pages : Database → Bytes) (faults : CreateStep → Option Raised)

/-- The copy of what SQLite reads, without a WAL. -/
def backupSqlite (dir : Directory) (role : Role) (source : Option Database) : Except Raised Directory :=
  match source with
  | none => raise .fileInvalid
  | some db => fault (faults (.backup role)) (.ok (put dir role.filename ⟨.regular, true, 0o600, pages db, some db⟩))

def inspectCopy (dir : Directory) (role : Role) : Except Raised DatabaseInfo :=
  fault (faults (.inspect role)) (inspectDatabase sha256 dir role (·.database))

def readCopy (dir : Directory) (role : Role) : Option Database := (dir.lookup role.filename).bind (·.database)

/-- `seen m` are the databases in service at the step `m`. -/
def createStorageSnapshot (seen : Moment → Sources) (now : DateTime) (dir : Directory) :
    Except Raised (Manifest × Directory) := do
  let resolved := (seen .resolve).incidents.isSome
  fault (faults .directory) (.ok ())
  if dir.any fun entry => !hidden entry.1 then raise .snapshotDirectoryNotEmpty
  else
    let dir ← backupSqlite pages faults dir .alerts ((seen .alerts).database .alerts)
    let dir ← backupSqlite pages faults dir .states ((seen .states).database .states)
    let dir ← backupSqlite pages faults dir .audit ((seen .audit).database .audit)
    let alertsInfo ← inspectCopy sha256 faults dir .alerts
    let statesInfo ← inspectCopy sha256 faults dir .states
    let auditInfo ← inspectCopy sha256 faults dir .audit
    let core := [alertsInfo, statesInfo, auditInfo]
    if resolved && (seen .incidents).incidents.isSome then
      let dir ← backupSqlite pages faults dir .incidents ((seen .incidents).database .incidents)
      let incidentsInfo ← inspectCopy sha256 faults dir .incidents
      finishSnapshot dir (core ++ [incidentsInfo]) (some (readCopy dir .incidents))
    else finishSnapshot dir core none
where
  finishSnapshot (dir : Directory) (infos : List DatabaseInfo) (incidents : Option (Option Database)) :
      Except Raised (Manifest × Directory) := do
    fault (faults .check) (.ok ())
    let consistency ← checkCrossDatabaseConsistency (readCopy dir .alerts) (readCopy dir .states) incidents
    let manifest : Manifest := ⟨now, infos, consistency⟩
    fault (faults .manifest) (.ok ())
    let dir ← writeManifest dir manifest
    return (manifest, dir)

end

/-! ## Verifying a snapshot -/

/-- Python's `==` of an integer and a value that was read. -/
def isNumber (floatIs : String → ℤ → Bool) (n : ℤ) : Value → Bool
  | .int m => m == n
  | .bool b => (if b then 1 else 0) == n
  | .float text => floatIs text n
  | _ => false

def isText (s : String) : Value → Bool
  | .str ps => ps == points s
  | _ => false

/-- Python's `==` of the counts and a value that was read. -/
def areCounts (floatIs : String → ℤ → Bool) (counts : List (String × Nat)) : Value → Bool
  | .obj pairs => (dictOf pairs).length == counts.length &&
    counts.all fun count => (item pairs count.1).any (isNumber floatIs count.2)
  | _ => false

/-- What `verify_storage_snapshot` returns, and the roles of its databases in their order. -/
structure Verified where
  manifest : Value
  roles : List Role

section
variable (sha256 : Bytes → String) (floatIs : String → ℤ → Bool) (dir : Directory)

def roleOf (key : List Nat) : Option Role := SUPPORTED_DB_ROLES.find? fun role => key == points role.text

/-- The body of the loop over the databases of the manifest. -/
def verifyDatabase (role : Role) (expected : Value) : Except Raised Unit := do
  let file ← checkNoSymlink dir role.filename
  if !file.owned || file.mode ≠ 0o600 then raise .permissionInvalid
  else match expected with
    | .obj entry =>
      if !(item entry "sha256").any (isText (sha256 file.bytes)) then raise .digestMismatch
      else if !(item entry "size_bytes").any (isNumber floatIs file.bytes.length) then raise .digestMismatch
      else
        let inspected ← inspectDatabase sha256 dir role (·.database)
        if !(item entry "row_counts").any (areCounts floatIs inspected.rowCounts) then raise .schemaMismatch
        else .ok ()
    | _ => .error .attribute

def verifyDatabases : List (List Nat × Value) → Except Raised (List Role)
  | [] => .ok []
  | (key, expected) :: rest => match roleOf key with
    | none => raise .manifestInvalid
    | some role => do
      verifyDatabase sha256 floatIs dir role expected
      let roles ← verifyDatabases rest
      return role :: roles

/-- `json.load` of the manifest, and the checks of its shape. -/
def readManifest (file : StoredFile) : Except Raised (Value × List (List Nat × Value)) :=
  match decodeUtf8 file.bytes with
  | none => .error .unicodeDecode
  | some text => match loads text with
    | none => raise .manifestInvalid
    | some manifest =>
      if !manifest.shortInts then .error .value
      else match manifest with
        | .obj pairs =>
          if !(item pairs "schema").any (isText SNAPSHOT_MANIFEST_SCHEMA) then raise .manifestInvalid
          else match item pairs "databases" with
            | some (.obj databases) => .ok (manifest, dictOf databases)
            | _ => raise .manifestInvalid
        | _ => raise .manifestInvalid

/-- The names that may be there and must be there. -/
def expectedNames (names : List String) : List String :=
  [MANIFEST_FILENAME, Role.alerts.filename, Role.states.filename, Role.audit.filename] ++
    if Role.incidents.filename ∈ names then [Role.incidents.filename] else []

def verifyStorageSnapshot (locked : Option Raised) : Except Raised Verified := do
  fault locked (.ok ())
  let names := (dir.map Prod.fst).filter fun name => !hidden name
  if names.any (· ∉ expectedNames names) then raise .unexpectedFile
  else if (expectedNames names).any (· ∉ names) then raise .snapshotIncomplete
  else
    let file ← checkNoSymlink dir MANIFEST_FILENAME
    if !file.owned || file.mode ≠ 0o600 then raise .permissionInvalid
    else
      let (manifest, databases) ← readManifest file
      if CORE_DB_ROLES.any fun role => (databases.lookup (points role.text)).isNone then raise .manifestInvalid
      else
        let roles ← verifyDatabases sha256 floatIs dir databases
        let incidents := if Role.incidents ∈ roles then some (readCopy dir .incidents) else none
        let _ ← checkCrossDatabaseConsistency (readCopy dir .alerts) (readCopy dir .states) incidents
        return ⟨manifest, roles⟩

end

end ThreatFusion.Storage
