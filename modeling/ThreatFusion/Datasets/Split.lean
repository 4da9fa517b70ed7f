import ThreatFusion.Lib.Grouping
import ThreatFusion.Lib.Result
import ThreatFusion.Py.DateTime
import ThreatFusion.Py.Text
import Mathlib.Data.Prod.Lex
import Mathlib.Data.List.Lex
/-
# The UNSW development split

`datasets/unsw_development_split.py`, from the accepted records to one decision for each leakage group.
A table is the list of its rows; the run is the only user of its database, so `BEGIN` and `COMMIT` show in
nothing but the calls of `_guard_budget` between them, whose answer the environment gives (`budget n`, after
`n` rows).

| here | there |
| --- | --- |
| `GroupAccumulator.includeRecord` | `GroupAccumulator.include` (:132-155) |
| `find`, `union`               | `DiskUnionFind` (:171-212) |
| `initializeGroups`            | `_initialize_groups` (:443-471) |
| `unionExactSourceDuplicates`  | `_union_exact_source_duplicates` (:474-503) |
| `unionOverlapComponents`      | `_union_overlap_components` (:506-540) |
| `compressGroups`              | `_compress_groups` (:548-572) |
| `groupDecision`               | `_group_decision` (:604-618) |
| `buildGroupDecisions`         | `_build_group_decisions` (:621-682) |
| `splitCounts`                 | `_split_counts` (:685-719) |
| `validatePolicyAssignmentBatch` | `validate_policy_assignment_batch` (:237-249) with `PHASE0_SPLIT_POLICY` |

`find` loops until it meets a root. Parents never exceed their children in the tables that the run makes, so
the chain from `id` has at most `id + 1` elements; a longer one is `endless` here.
-/
namespace ThreatFusion.Datasets
open Py Grouping

inductive SplitError where
  | groupRecordMissing | budgetExceeded | endless
  | anchorNotPositive | anchorOverflow | seedChanged
  | blankAssignment | unknownSource | splitNotAllowed | groupInSeveralSplits | sqlite | typeError
deriving DecidableEq

/-! ## The frozen policy -/

def utcMicroseconds (value : DateTime) : ℤ :=
  value.timestamp.num.tdiv value.timestamp.den * 1000000 + value.microsecond

def DEVELOPMENT_START_US : ℤ := utcMicroseconds ⟨2015, 1, 22, 0, 0, 0, 0, of_decide_eq_true rfl, of_decide_eq_true rfl⟩
def DEVELOPMENT_END_US : ℤ := utcMicroseconds ⟨2015, 1, 24, 0, 0, 0, 0, of_decide_eq_true rfl, of_decide_eq_true rfl⟩
def TEST_START_US : ℤ := utcMicroseconds ⟨2015, 2, 18, 0, 0, 0, 0, of_decide_eq_true rfl, of_decide_eq_true rfl⟩
def TEST_END_US : ℤ := utcMicroseconds ⟨2015, 2, 19, 0, 0, 0, 0, of_decide_eq_true rfl, of_decide_eq_true rfl⟩

def ASSIGNMENT_SEED : String := "threatfusion-unsw-dev-split-v1"
def QUERY_BATCH_SIZE : Nat := 2048

/-- What `__post_init__` accepts. -/
structure DevelopmentSplitConfig where
  seed : String
  batchSize : Nat
  frozen : seed = ASSIGNMENT_SEED
  positive : 0 < batchSize

inductive TimingCategory where
  | exact | withinOneSecondQuantization | unexplainedOverOneSecond | ltimeBeforeStime | unavailableParseFailure
deriving DecidableEq

/-- `TIMING_CATEGORY_CODES`. -/
def TimingCategory.code : TimingCategory → Nat
  | .exact => 0
  | .withinOneSecondQuantization => 1
  | .unexplainedOverOneSecond => 2
  | .ltimeBeforeStime => 3
  | .unavailableParseFailure => 4

def QUARANTINE_UNEXPLAINED_TIMING : Nat := 1
def QUARANTINE_INVALID_TIMING : Nat := 2
def QUARANTINE_DEVELOPMENT_TEST_GROUP : Nat := 4
def QUARANTINE_PERIOD_INTERVAL : Nat := 8
def QUARANTINE_OUTSIDE_PERIOD : Nat := 16

/-! ## The tables -/

/-- A row of `preflight.records`; the flow columns of a row that is not accepted are NULL there, and are not
read. -/
structure PreflightRecord where
  rowid : Nat
  fileIndex : Nat
  sourceFp : Bytes
  accepted : Bool
  tupleFp : Bytes
  startUs : ℤ
  endUs : ℤ
  label : ℤ
deriving DecidableEq

/-- A row of `timing`. -/
structure TimingRow where
  recordId : Nat
  category : Nat
deriving DecidableEq

/-- The two tables that the grouping reads, under their keys. -/
structure Evidence where
  records : List PreflightRecord
  timing : List TimingRow
  rowids : (records.map (·.rowid)).Nodup
  recordIds : (timing.map (·.recordId)).Nodup

/-- `groups`: the parent of each record. -/
abbrev Groups := List (Nat × Nat)

/-- `cursor.fetchmany(size)` until it comes back empty. -/
def batches {α : Type} (size : Nat) : Nat → List α → List (List α)
  | 0, _ => []
  | fuel + 1, rows => if rows.isEmpty then [] else rows.take size :: batches size fuel (rows.drop size)

/-- `_batched_rows`. -/
def batchedRows {α : Type} (rows : List α) : List α := (batches QUERY_BATCH_SIZE rows.length rows).flatten

/-! ## `DiskUnionFind` -/

/-- `UPDATE groups SET parent = ? WHERE record_id = ?`. -/
def setParent (groups : Groups) (recordId parent : Nat) : Groups :=
  groups.map fun row => if row.1 = recordId then (recordId, parent) else row

/-- The first loop of `find`. -/
def findRoot (groups : Groups) : Nat → Nat → Except SplitError Nat
  | 0, _ => .error .endless
  | fuel + 1, root => match groups.lookup root with
    | none => .error .groupRecordMissing
    | some parent => if parent = root then .ok root else findRoot groups fuel parent

/-- The second loop: every record on the way points to the root. -/
def compressPath (root : Nat) : Nat → Nat → Groups → Except SplitError Groups
  | 0, _, _ => .error .endless
  | fuel + 1, current, groups =>
    if current = root then .ok groups
    else match groups.lookup current with
      | none => .error .typeError
      | some parent => compressPath root fuel parent (setParent groups current root)

def find (groups : Groups) (recordId : Nat) : Except SplitError (Nat × Groups) :=
  match findRoot groups (recordId + 1) recordId with
  | .error e => .error e
  | .ok root => match compressPath root (recordId + 1) recordId groups with
    | .error e => .error e
    | .ok groups' => .ok (root, groups')

def union (groups : Groups) (first second : Nat) : Except SplitError Groups :=
  match find groups first with
  | .error e => .error e
  | .ok (firstRoot, groups') => match find groups' second with
    | .error e => .error e
    | .ok (secondRoot, groups'') =>
      if firstRoot = secondRoot then .ok groups''
      else .ok (setParent groups'' (max firstRoot secondRoot) (min firstRoot secondRoot))

/-! ## Grouping -/

/-- Accepted records with a timing row. -/
def Evidence.eligible (ev : Evidence) : List PreflightRecord :=
  ev.records.filter fun r => r.accepted && ev.timing.any fun t => t.recordId == r.rowid

/-- The loop over the ranges of row identifiers. -/
def initializeLoop (config : DevelopmentSplitConfig) (budget : Nat → Bool) (ev : Evidence) (maximum : Nat) :
    Nat → Nat → Groups → Except SplitError Groups
  | 0, _, _ => .error .endless
  | fuel + 1, lower, groups =>
    if maximum < lower then .ok groups
    else
      let upper := lower + config.batchSize - 1
      let inserted := (ev.eligible.filter fun r => lower ≤ r.rowid ∧ r.rowid ≤ upper).map fun r => (r.rowid, r.rowid)
      if budget lower then initializeLoop config budget ev maximum fuel (upper + 1) (groups ++ inserted)
      else .error .budgetExceeded

def initializeGroups (config : DevelopmentSplitConfig) (budget : Nat → Bool) (ev : Evidence) :
    Except SplitError Groups :=
  match (ev.timing.map (·.recordId)).min?, (ev.timing.map (·.recordId)).max? with
  | some minimum, some maximum => initializeLoop config budget ev maximum (maximum + 2 - minimum) minimum []
  | _, _ => .ok []

/-- The accepted records that `groups` has, as the sweeps join them. -/
def grouped (ev : Evidence) (groups : Groups) : List PreflightRecord :=
  ev.records.filter fun r => r.accepted && (groups.lookup r.rowid).isSome

/-- SQLite orders blobs like `memcmp`. -/
def blobKey (blob : Bytes) : List Nat := blob.map UInt8.toNat

/-- `ORDER BY r.source_fp, r.file_index, r.rowid`. -/
def sourceRows (ev : Evidence) (groups : Groups) : List (Bytes × Nat) :=
  ((grouped ev groups).insertionSort
    (lexLe (fun r => blobKey r.sourceFp) fun r => toLex (r.fileIndex, r.rowid))).map fun r => (r.sourceFp, r.rowid)

structure SourceSweep where
  current : Option Bytes := none
  firstRecord : Nat := 0
  edges : Nat := 0
  commits : Nat := 0
  groups : Groups

def sourceLoop (config : DevelopmentSplitConfig) : List (Bytes × Nat) → SourceSweep → Except SplitError SourceSweep
  | [], s => .ok s
  | (fingerprint, recordId) :: rest, s =>
    if s.current ≠ some fingerprint then
      sourceLoop config rest { s with current := some fingerprint, firstRecord := recordId }
    else match union s.groups s.firstRecord recordId with
      | .error e => .error e
      | .ok groups =>
        let edges := s.edges + 1
        let commits := if edges % config.batchSize = 0 then s.commits + 1 else s.commits
        sourceLoop config rest { s with groups, edges, commits }

def unionExactSourceDuplicates (config : DevelopmentSplitConfig) (ev : Evidence) (groups : Groups) :
    Except SplitError (Nat × Groups) :=
  (sourceLoop config (batchedRows (sourceRows ev groups)) { groups }).map fun s => (s.edges, s.groups)

/-- `ORDER BY r.tuple_fp, r.start_us, r.end_us, r.file_index, r.rowid`. -/
def overlapRows (ev : Evidence) (groups : Groups) : List (Bytes × ℤ × ℤ × Nat) :=
  ((grouped ev groups).insertionSort
    (lexLe (fun r => blobKey r.tupleFp) fun r => toLex (r.startUs, toLex (r.endUs, toLex (r.fileIndex, r.rowid))))).map
      fun r => (r.tupleFp, r.startUs, r.endUs, r.rowid)

structure OverlapSweep where
  current : Option Bytes := none
  componentAnchor : Nat := 0
  componentEnd : ℤ := 0
  edges : Nat := 0
  commits : Nat := 0
  groups : Groups

def overlapLoop (config : DevelopmentSplitConfig) :
    List (Bytes × ℤ × ℤ × Nat) → OverlapSweep → Except SplitError OverlapSweep
  | [], s => .ok s
  | (fingerprint, startUs, endUs, recordId) :: rest, s =>
    if s.current ≠ some fingerprint ∨ s.componentEnd < startUs then
      overlapLoop config rest
        { s with current := some fingerprint, componentAnchor := recordId, componentEnd := endUs }
    else match union s.groups s.componentAnchor recordId with
      | .error e => .error e
      | .ok groups =>
        let edges := s.edges + 1
        let commits := if edges % config.batchSize = 0 then s.commits + 1 else s.commits
        overlapLoop config rest { s with groups, edges, commits, componentEnd := max s.componentEnd endUs }

def unionOverlapComponents (config : DevelopmentSplitConfig) (ev : Evidence) (groups : Groups) :
    Except SplitError (Nat × Groups) :=
  (overlapLoop config (batchedRows (overlapRows ev groups)) { groups }).map fun s => (s.edges, s.groups)

def compressLoop (config : DevelopmentSplitConfig) (budget : Nat → Bool) :
    List Nat → Nat → Groups → Except SplitError (Nat × Groups)
  | [], processed, groups => .ok (processed, groups)
  | recordId :: rest, processed, groups => match find groups recordId with
    | .error e => .error e
    | .ok (root, groups') =>
      if (processed + 1) % config.batchSize = 0 ∧ ¬ budget (processed + 1) then .error .budgetExceeded
      else compressLoop config budget rest (processed + 1) (setParent groups' recordId root)

def compressGroups (config : DevelopmentSplitConfig) (budget : Nat → Bool) (groups : Groups) :
    Except SplitError (Nat × Groups) :=
  match compressLoop config budget (batchedRows ((groups.map Prod.fst).insertionSort (· ≤ ·))) 0 groups with
  | .error e => .error e
  | .ok (processed, groups') => if budget processed then .ok (processed, groups') else .error .budgetExceeded

/-- The answers of `_guard_budget` in the phases that ask. -/
structure Budget where
  ranges : Nat → Bool
  compression : Nat → Bool
  decisions : Nat → Bool

/-- From the evidence to the groups, as `run_unsw_development_split` calls the four steps (:939-944). -/
def assignGroups (config : DevelopmentSplitConfig) (budget : Budget) (ev : Evidence) : Except SplitError Groups := do
  let groups ← initializeGroups config budget.ranges ev
  let (_, groups) ← unionExactSourceDuplicates config ev groups
  let (_, groups) ← unionOverlapComponents config ev groups
  let (_, groups) ← compressGroups config budget.compression groups
  return groups

/-! ## One decision for each group -/

/-- Counts of the current leakage group. -/
structure GroupAccumulator where
  anchor : Nat
  total : Nat := 0
  benign : Nat := 0
  attack : Nat := 0
  developmentStarts : Nat := 0
  testStarts : Nat := 0
  outsideStarts : Nat := 0
  periodIntervalFailures : Nat := 0
  unexplainedTiming : Nat := 0
  invalidTiming : Nat := 0
deriving DecidableEq

namespace GroupAccumulator

/-- The label counts. -/
def includeLabel (g : GroupAccumulator) (label : ℤ) : GroupAccumulator :=
  if label = 0 then { g with benign := g.benign + 1 } else { g with attack := g.attack + 1 }

/-- The period of the start, and an end beyond it. -/
def includeInterval (g : GroupAccumulator) (startUs endUs : ℤ) : GroupAccumulator :=
  if DEVELOPMENT_START_US ≤ startUs ∧ startUs < DEVELOPMENT_END_US then
    { g with
      developmentStarts := g.developmentStarts + 1
      periodIntervalFailures := g.periodIntervalFailures + if DEVELOPMENT_END_US < endUs then 1 else 0 }
  else if TEST_START_US ≤ startUs ∧ startUs < TEST_END_US then
    { g with
      testStarts := g.testStarts + 1
      periodIntervalFailures := g.periodIntervalFailures + if TEST_END_US < endUs then 1 else 0 }
  else { g with outsideStarts := g.outsideStarts + 1 }

def includeTiming (g : GroupAccumulator) (timingCategory : Nat) : GroupAccumulator :=
  if timingCategory = TimingCategory.unexplainedOverOneSecond.code then
    { g with unexplainedTiming := g.unexplainedTiming + 1 }
  else if timingCategory ∉ [TimingCategory.exact.code, TimingCategory.withinOneSecondQuantization.code] then
    { g with invalidTiming := g.invalidTiming + 1 }
  else g

def includeRecord (g : GroupAccumulator) (startUs endUs label : ℤ) (timingCategory : Nat) : GroupAccumulator :=
  ((({ g with total := g.total + 1 }.includeLabel label).includeInterval startUs endUs).includeTiming timingCategory)

end GroupAccumulator

def quarantineMask (group : GroupAccumulator) : Nat :=
  let mask := 0
  let mask := if group.unexplainedTiming ≠ 0 then mask ||| QUARANTINE_UNEXPLAINED_TIMING else mask
  let mask := if group.invalidTiming ≠ 0 then mask ||| QUARANTINE_INVALID_TIMING else mask
  let mask := if group.developmentStarts ≠ 0 ∧ group.testStarts ≠ 0 then mask ||| QUARANTINE_DEVELOPMENT_TEST_GROUP
    else mask
  let mask := if group.periodIntervalFailures ≠ 0 then mask ||| QUARANTINE_PERIOD_INTERVAL else mask
  if group.outsideStarts ≠ 0 then mask ||| QUARANTINE_OUTSIDE_PERIOD else mask

inductive QuarantineReason where
  | developmentTestGroupOverlap | unexplainedTimingGroup | invalidTimingGroup | periodBoundaryIntervalGroup
  | outsidePolicyPeriodGroup
deriving DecidableEq

def primaryQuarantineReason (mask : Nat) : Option QuarantineReason :=
  if mask &&& QUARANTINE_DEVELOPMENT_TEST_GROUP ≠ 0 then some .developmentTestGroupOverlap
  else if mask &&& QUARANTINE_UNEXPLAINED_TIMING ≠ 0 then some .unexplainedTimingGroup
  else if mask &&& QUARANTINE_INVALID_TIMING ≠ 0 then some .invalidTimingGroup
  else if mask &&& QUARANTINE_PERIOD_INTERVAL ≠ 0 then some .periodBoundaryIntervalGroup
  else if mask &&& QUARANTINE_OUTSIDE_PERIOD ≠ 0 then some .outsidePolicyPeriodGroup
  else none

inductive Disposition where
  | train | validation | test | quarantine
deriving DecidableEq

def deterministicGroupIdentifier (sha256 : Bytes → Bytes) (anchor : Nat) : Except SplitError Bytes :=
  if anchor = 0 then .error .anchorNotPositive
  else if 2 ^ 64 ≤ anchor then .error .anchorOverflow
  else .ok (sha256 (utf8 "threatfusion:unsw-leakage-group:v1\x00" ++ packBE 8 anchor))

/-- `int.from_bytes(digest[:8], "big")`. -/
def score (digest : Bytes) : Nat := (digest.take 8).foldl (fun n b => n * 256 + b.toNat) 0

def deterministicDevelopmentSplit (sha256 : Bytes → Bytes) (groupIdentifier : Bytes) (seed : String) :
    Except SplitError Disposition :=
  if seed ≠ ASSIGNMENT_SEED then .error .seedChanged
  else
    let digest := sha256 (utf8 "threatfusion:unsw-dev-group-assignment:v1\x00" ++ packBE 4 (utf8 seed).length ++
      utf8 seed ++ groupIdentifier)
    .ok (if score digest < 2 ^ 64 / 5 then .validation else .train)

/-- A row of `group_decisions`. -/
structure DecisionRow where
  anchor : Nat
  groupIdentifier : Bytes
  disposition : Disposition
  primaryReason : Option QuarantineReason
  quarantineMask : Nat
  totalCount : Nat
  benignCount : Nat
  attackCount : Nat
deriving DecidableEq

/-- The identifier, the disposition, the mask and the reason. -/
def groupDecision (sha256 : Bytes → Bytes) (config : DevelopmentSplitConfig) (group : GroupAccumulator) :
    Except SplitError (Bytes × Disposition × Nat × Option QuarantineReason) := do
  let groupIdentifier ← deterministicGroupIdentifier sha256 group.anchor
  let mask := quarantineMask group
  if mask ≠ 0 then return (groupIdentifier, .quarantine, mask, primaryQuarantineReason mask)
  else if group.developmentStarts ≠ 0 then
    let disposition ← deterministicDevelopmentSplit sha256 groupIdentifier config.seed
    return (groupIdentifier, disposition, mask, primaryQuarantineReason mask)
  else if group.testStarts ≠ 0 then return (groupIdentifier, .test, mask, primaryQuarantineReason mask)
  else
    let mask := mask ||| QUARANTINE_OUTSIDE_PERIOD
    return (groupIdentifier, .quarantine, mask, primaryQuarantineReason mask)

/-! ## The split policy (`datasets/split_policy.py`) -/

inductive DatasetUse where
  | trainingDevelopment | externalEvaluation | pipelineFixture
deriving DecidableEq

inductive SplitName where
  | train | validation | test | externalTest | pipelineTest
deriving DecidableEq

def allowedSplits : DatasetUse → List SplitName
  | .trainingDevelopment => [.train, .validation, .test]
  | .externalEvaluation => [.externalTest]
  | .pipelineFixture => [.pipelineTest]

/-- The rules of `PHASE0_SPLIT_POLICY`, by source dataset. -/
def PHASE0_SPLIT_RULES : List (String × DatasetUse) :=
  [("unsw_nb15", .trainingDevelopment), ("cse_cic_ids2018", .externalEvaluation), ("mordor", .externalEvaluation),
    ("synthetic_lab", .pipelineFixture)]

structure SplitAssignment where
  sourceDataset : String
  sourceGroup : String
  split : SplitName
deriving DecidableEq

/-- The loop of `validate_assignments`; `assigned` is its dictionary. -/
def validateAssignments (rules : List (String × DatasetUse)) :
    List SplitAssignment → List ((String × String) × SplitName) → Except SplitError Unit
  | [], _ => .ok ()
  | a :: rest, assigned =>
    if isBlank a.sourceDataset || isBlank a.sourceGroup then .error .blankAssignment
    else match rules.lookup a.sourceDataset with
      | none => .error .unknownSource
      | some use =>
        if a.split ∉ allowedSplits use then .error .splitNotAllowed
        else match assigned.lookup (a.sourceDataset, a.sourceGroup) with
          | none => validateAssignments rules rest (((a.sourceDataset, a.sourceGroup), a.split) :: assigned)
          | some previous =>
            if previous ≠ a.split then .error .groupInSeveralSplits else validateAssignments rules rest assigned

def hexDigit (n : Nat) : Char := "0123456789abcdef".toList.getD n '0'

/-- `bytes.hex()`. -/
def hexOf (b : Bytes) : String := String.ofList (b.flatMap fun x => [hexDigit (x.toNat / 16), hexDigit (x.toNat % 16)])

/-- `SplitName(disposition)`; a quarantined group is not in a policy batch. -/
def Disposition.splitName : Disposition → Option SplitName
  | .train => some .train
  | .validation => some .validation
  | .test => some .test
  | .quarantine => none

def validatePolicyAssignmentBatch (sourceDataset : String) (assignments : List (Bytes × SplitName)) :
    Except SplitError Unit :=
  validateAssignments PHASE0_SPLIT_RULES (assignments.map fun a => ⟨sourceDataset, hexOf a.1, a.2⟩) []

/-! ## `_build_group_decisions` -/

/-- A row of the join of `groups`, `preflight.records` and `timing`. -/
structure GroupedRow where
  parent : Nat
  recordId : Nat
  startUs : ℤ
  endUs : ℤ
  label : ℤ
  category : Nat
deriving DecidableEq

/-- The rows of the join, in the order of `groups`. -/
def joinedRows (ev : Evidence) (groups : Groups) : List GroupedRow :=
  groups.filterMap fun g =>
    match ev.records.find? (fun r => r.rowid = g.1), ev.timing.find? (fun t => t.recordId = g.1) with
    | some r, some t => some ⟨g.2, g.1, r.startUs, r.endUs, r.label, t.category⟩
    | _, _ => none

/-- `ORDER BY g.parent, g.record_id`. -/
def decisionRows (ev : Evidence) (groups : Groups) : List GroupedRow :=
  (joinedRows ev groups).insertionSort (lexLe (·.parent) (·.recordId))

structure DecisionBuild where
  current : Option GroupAccumulator := none
  decisionBatch : List DecisionRow := []
  policyBatch : List (Bytes × SplitName) := []
  groupCount : Nat := 0
  /-- `group_decisions` -/
  decisions : List DecisionRow := []

namespace DecisionBuild

def finish (sha256 : Bytes → Bytes) (config : DevelopmentSplitConfig) (s : DecisionBuild) :
    Except SplitError DecisionBuild :=
  match s.current with
  | none => .ok s
  | some current => do
    let (identifier, disposition, mask, reason) ← groupDecision sha256 config current
    return { s with
      decisionBatch := s.decisionBatch ++
        [⟨current.anchor, identifier, disposition, reason, mask, current.total, current.benign, current.attack⟩]
      policyBatch := s.policyBatch ++ (disposition.splitName.map (identifier, ·)).toList
      groupCount := s.groupCount + 1 }

/-- `INSERT INTO group_decisions`: the anchor is its primary key, the identifier is unique. -/
def insertDecisions : List DecisionRow → List DecisionRow → Except SplitError (List DecisionRow)
  | [], table => .ok table
  | row :: rest, table =>
    if table.any fun d => d.anchor == row.anchor || d.groupIdentifier == row.groupIdentifier then .error .sqlite
    else insertDecisions rest (table ++ [row])

def flush (budget : Nat → Bool) (s : DecisionBuild) : Except SplitError DecisionBuild :=
  if s.decisionBatch.isEmpty then .ok s
  else do
    validatePolicyAssignmentBatch "unsw_nb15" s.policyBatch
    let decisions ← insertDecisions s.decisionBatch s.decisions
    if budget decisions.length then return { s with decisions, decisionBatch := [], policyBatch := [] }
    else .error .budgetExceeded

def flushFull (config : DevelopmentSplitConfig) (budget : Nat → Bool) (s : DecisionBuild) :
    Except SplitError DecisionBuild :=
  if config.batchSize ≤ s.decisionBatch.length then s.flush budget else .ok s

/-- `current.include(...)`. -/
def includeRecord (s : DecisionBuild) (row : GroupedRow) (current : GroupAccumulator) : DecisionBuild :=
  { s with current := some (current.includeRecord row.startUs row.endUs row.label row.category) }

/-- The body of the loop. -/
def step (sha256 : Bytes → Bytes) (config : DevelopmentSplitConfig) (budget : Nat → Bool) (s : DecisionBuild)
    (row : GroupedRow) : Except SplitError DecisionBuild :=
  match s.current.filter fun current => current.anchor = row.parent with
  | some current => .ok (s.includeRecord row current)
  | none => do
    let s ← s.finish sha256 config
    let s ← s.flushFull config budget
    return s.includeRecord row { anchor := row.parent }

end DecisionBuild

def decisionLoop (sha256 : Bytes → Bytes) (config : DevelopmentSplitConfig) (budget : Nat → Bool) :
    List GroupedRow → DecisionBuild → Except SplitError DecisionBuild
  | [], s => .ok s
  | row :: rest, s => match s.step sha256 config budget row with
    | .error e => .error e
    | .ok s' => decisionLoop sha256 config budget rest s'

/-- The number of groups, and the table. -/
def buildGroupDecisions (sha256 : Bytes → Bytes) (config : DevelopmentSplitConfig) (budget : Nat → Bool)
    (ev : Evidence) (groups : Groups) : Except SplitError (Nat × List DecisionRow) := do
  let s ← decisionLoop sha256 config budget (batchedRows (decisionRows ev groups)) {}
  let s ← s.finish sha256 config
  let s ← s.flush budget
  return (s.groupCount, s.decisions)

/-! ## `_split_counts` -/

/-- A count of `none` is null. -/
structure SplitCounts where
  groupCount : Option Nat
  totalCount : Nat
  benignCount : Option Nat
  attackCount : Option Nat
deriving DecidableEq

def countsOf (rows : List DecisionRow) : SplitCounts :=
  ⟨some rows.length, (rows.map (·.totalCount)).sum, some (rows.map (·.benignCount)).sum,
    some (rows.map (·.attackCount)).sum⟩

/-- The entry of a disposition, with the zeros of `setdefault`; `none` is the key `"rejected"`. -/
def splitCounts (decisions : List DecisionRow) (rejectedCount : Nat) : Option Disposition → SplitCounts
  | none => ⟨none, rejectedCount, none, none⟩
  | some disposition => countsOf (decisions.filter (·.disposition = disposition))

end ThreatFusion.Datasets
