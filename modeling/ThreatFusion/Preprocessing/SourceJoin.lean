import ThreatFusion.Lib.Generator
import ThreatFusion.Lib.Result
import ThreatFusion.Py.Ascii
import ThreatFusion.Py.Int
/-
# The source rows and their assignments

`iter_assigned_source_records` (`preprocessing/network_behavior_v1.py`) walks over the rows of all raw files and
the rows of the assignment archive together.

| here | there |
| --- | --- |
| `unswRawReader`, `mapUnswRawValues` | `UnswRawReader.__iter__` over one file, `map_unsw_raw_values` (`datasets/unsw_raw.py`) |
| `validateAssignmentRow`             | `_validate_assignment_row` (:497-524) |
| `adaptForAssignment`                | `_adapt_for_assignment` (:527-531) |
| `joinRow`, `joinRows`               | one turn of the inner loop, the inner loop (:559-572) |
| `iterAssignedSourceRecords`         | `iter_assigned_source_records` (:534-577) |

`csv.reader` of a file, and of the archive, is the generator of its rows; what its file handle raises on the way
is a `Fault`. `adaptUnswRow` is any function: the join asks it for nothing but an outcome for each row.
-/
namespace ThreatFusion.Preprocessing
open Py

/-- What reading a file raises: `OSError`, `EOFError`, anything else. -/
inductive Fault where
  | os | eof | other
deriving DecidableEq

inductive UnswStructureIssue where
  | invalidFeatureMetadata | duplicateFeatureName | wrongRawColumnCount
deriving DecidableEq

/-- The codes of `NetworkPreprocessingError` that the join raises. -/
inductive JoinCode where
  | assignmentArchiveUnreadable | assignmentHeaderInvalid | assignmentArchiveTruncated
  | assignmentRowShapeInvalid | assignmentRecordIdInvalid | assignmentRecordOrderOrCoverageInvalid
  | assignmentDispositionInvalid | rejectedAssignmentInvalid | assignmentGroupIdInvalid
  | quarantineReasonMissing | selectedAssignmentReasonInvalid
  | sourceAssignmentAcceptanceMismatch | registeredSourceRowCountMismatch
deriving DecidableEq

inductive AdapterFault where
  | sourceRowValidationError | validationError | overflowError | osError | other
deriving DecidableEq

inductive JoinError where
  | networkPreprocessingError (code : JoinCode)
  | unswStructureError (issue : UnswStructureIssue)
  | reading (fault : Fault)
  | adapting
  | valueError
deriving DecidableEq

inductive Disposition where
  | train | validation | test | quarantine | rejected
deriving DecidableEq

def Disposition.text : Disposition → String
  | .train => "train"
  | .validation => "validation"
  | .test => "test"
  | .quarantine => "quarantine"
  | .rejected => "rejected"

/-- `_DISPOSITIONS`. -/
def DISPOSITIONS : List Disposition := [.train, .validation, .test, .quarantine, .rejected]

/-- `_ASSIGNMENT_HEADER`. -/
def ASSIGNMENT_HEADER : List String := ["record_id", "group_id", "disposition", "reason"]

def UNSW_RAW_COLUMN_COUNT : Nat := 49

/-! ## The raw files -/

/-- A row as a dictionary, in the order of its keys. -/
abbrev Row := List (String × String)

/-- `row[key] = value`. -/
def setItem (row : Row) (key value : String) : Row :=
  if row.any (·.1 == key) then row.map fun item => if item.1 == key then (key, value) else item
  else row ++ [(key, value)]

/-- A registered file: the stem of its path, its registered number of rows, and its rows. -/
structure RawFile where
  stem : String
  rows : Option Nat
  content : Generator Fault (List String) Unit

def mapUnswRawValues (featureNames : List String) (stem : String) (rowNumber : Nat) (values : List String) :
    Except JoinError Row :=
  if values.length ≠ UNSW_RAW_COLUMN_COUNT then .error (.unswStructureError .wrongRawColumnCount)
  else .ok (setItem (featureNames.zip values) "flow_id" (stem ++ ":" ++ toString rowNumber))

def readFault {α ρ : Type} : Generator Fault α ρ → Generator JoinError α ρ
  | .ended r => .ended r
  | .raised fault => .raised (.reading fault)
  | .yielded a rest => .yielded a (readFault rest)

/-- `UnswRawReader(feature_names, (path,))` and its iteration; the names are checked before the file is opened. -/
def unswRawReader (featureNames : List String) (file : RawFile) : Generator JoinError Row Unit :=
  if featureNames.length ≠ UNSW_RAW_COLUMN_COUNT then .raised (.unswStructureError .invalidFeatureMetadata)
  else if ¬ featureNames.Nodup then .raised (.unswStructureError .duplicateFeatureName)
  else (readFault file.content).enumMap (mapUnswRawValues featureNames file.stem) 1

/-! ## The assignments -/

def isAsciiSpace (c : Char) : Bool := c.toNat == 32 || (9 ≤ c.toNat && c.toNat ≤ 13)

/-- `bytes.fromhex` takes the text. -/
def isFromHex : List Char → Bool
  | [] => true
  | [c] => isAsciiSpace c
  | c :: d :: rest => if isAsciiSpace c then isFromHex (d :: rest) else isHexDigit c && isHexDigit d && isFromHex rest

/-- The last checks of a row. A group that is not ASCII is refused by `lower` or by `fromhex`, with one code. -/
def checkDecision (groupId reason : String) : Disposition → Except JoinCode Unit
  | .rejected =>
    if groupId ≠ "" ∨ reason ≠ "source_rejected" then .error .rejectedAssignmentInvalid else .ok ()
  | disposition =>
    if groupId.length ≠ 64 ∨ lower groupId ≠ groupId ∨ isFromHex groupId.toList = false then
      .error .assignmentGroupIdInvalid
    else if disposition = .quarantine then
      if reason = "" then .error .quarantineReasonMissing else .ok ()
    else if reason ≠ "" then .error .selectedAssignmentReasonInvalid
    else .ok ()

def validateAssignmentRow (row : List String) (expectedRecordId : Nat) : Except JoinCode (Disposition × String) :=
  match row with
  | [recordText, groupId, disposition, reason] => match parseInt recordText with
    | none => .error .assignmentRecordIdInvalid
    | some recordId =>
      if recordId ≠ expectedRecordId then .error .assignmentRecordOrderOrCoverageInvalid
      else match DISPOSITIONS.find? (·.text == disposition) with
        | none => .error .assignmentDispositionInvalid
        | some d => do
          checkDecision groupId reason d
          .ok (d, reason)
  | _ => .error .assignmentRowShapeInvalid

/-! ## The join -/

structure AssignedRecord (φ : Type) where
  recordId : Nat
  disposition : Disposition
  flow : Option φ

/-- The parts of `AssignmentEvidence` that the join reads. `archive` is the archive from its first row on; `.error`
when it cannot be opened. -/
structure AssignmentEvidence where
  archive : Except Fault (Generator Fault (List String) Unit)
  featureNames : List String
  rawFiles : List RawFile
  totalRows : Nat

/-- `record_id`, and what is left of the archive. -/
structure JoinState where
  recordId : Nat
  reader : Generator Fault (List String) Unit

section
variable {φ : Type} (adaptUnswRow : Row → Except AdapterFault φ)

def adaptForAssignment (row : Row) : Except JoinError (Option φ) :=
  match adaptUnswRow row with
  | .ok flow => .ok (some flow)
  | .error .other => .error .adapting
  | .error _ => .ok none

def joinRow (row : Row) (s : JoinState) : Except JoinError (AssignedRecord φ × JoinState) :=
  match s.reader with
  | .ended _ => .error (.networkPreprocessingError .assignmentArchiveTruncated)
  | .raised fault => .error (.reading fault)
  | .yielded assignmentRow reader => match validateAssignmentRow assignmentRow (s.recordId + 1) with
    | .error code => .error (.networkPreprocessingError code)
    | .ok (disposition, _) => match adaptForAssignment adaptUnswRow row with
      | .error e => .error e
      | .ok flow =>
        if flow.isNone ≠ (disposition == .rejected) then
          .error (.networkPreprocessingError .sourceAssignmentAcceptanceMismatch)
        else .ok (⟨s.recordId + 1, disposition, flow⟩, ⟨s.recordId + 1, reader⟩)

/-- It returns the number of rows, or nothing when `max_records` ended the whole generator. -/
def joinRows (maxRecords : Option ℤ) : Generator JoinError Row Unit → Nat → JoinState →
    Generator JoinError (AssignedRecord φ) (Option (Nat × JoinState))
  | .ended _, fileRows, s => .ended (some (fileRows, s))
  | .raised e, _, _ => .raised e
  | .yielded row rest, fileRows, s => match joinRow adaptUnswRow row s with
    | .error e => .raised e
    | .ok (record, s') => .yielded record <|
      if maxRecords.any (· ≤ (s'.recordId : ℤ)) then .ended none else joinRows maxRecords rest (fileRows + 1) s'

def joinFile (maxRecords : Option ℤ) (featureNames : List String) (file : RawFile) (s : JoinState) :
    Generator JoinError (AssignedRecord φ) (Option JoinState) :=
  (joinRows adaptUnswRow maxRecords (unswRawReader featureNames file) 0 s).bind fun
    | none => .ended none
    | some (fileRows, s') =>
      if fileRows ≠ file.rows.getD 0 then .raised (.networkPreprocessingError .registeredSourceRowCountMismatch)
      else .ended (some s')

def joinFiles (maxRecords : Option ℤ) (featureNames : List String) : List RawFile → JoinState →
    Generator JoinError (AssignedRecord φ) (Option JoinState)
  | [], s => .ended (some s)
  | file :: files, s => (joinFile adaptUnswRow maxRecords featureNames file s).bind fun
    | none => .ended none
    | some s' => joinFiles maxRecords featureNames files s'

/-- After the last file: no row of the archive is left. -/
def checkCoverage (totalRows : Nat) (s : JoinState) : Generator JoinError (AssignedRecord φ) Unit :=
  match s.reader with
  | .raised fault => .raised (.reading fault)
  | .yielded _ _ => .raised (.networkPreprocessingError .assignmentRecordOrderOrCoverageInvalid)
  | .ended _ =>
    if s.recordId ≠ totalRows then .raised (.networkPreprocessingError .assignmentRecordOrderOrCoverageInvalid)
    else .ended ()

def iterAssignedSourceRecords (evidence : AssignmentEvidence) (maxRecords : Option ℤ) :
    Generator JoinError (AssignedRecord φ) Unit :=
  if maxRecords.any (· ≤ 0) then .raised .valueError
  else match evidence.archive with
    | .error fault => .raised (.reading fault)
    | .ok (.raised .other) => .raised (.reading .other)
    | .ok (.raised _) => .raised (.networkPreprocessingError .assignmentArchiveUnreadable)
    | .ok (.ended _) => .raised (.networkPreprocessingError .assignmentArchiveUnreadable)
    | .ok (.yielded header reader) =>
      if header ≠ ASSIGNMENT_HEADER then .raised (.networkPreprocessingError .assignmentHeaderInvalid)
      else (joinFiles adaptUnswRow maxRecords evidence.featureNames evidence.rawFiles ⟨0, reader⟩).bind fun
        | none => .ended ()
        | some s => checkCoverage evidence.totalRows s

end

end ThreatFusion.Preprocessing
