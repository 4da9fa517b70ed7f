import ThreatFusion.Datasets.Split
import Mathlib.Logic.Function.Basic
/-
# The diagnostics of the UNSW preflight (`datasets/unsw_split_preflight.py`)

| here | there |
| --- | --- |
| `DuplicateSummary`, `FeatureSummary`, `IntervalComponent` | the classes of these names (:111-148) |
| `countBy`                  | `SELECT key, COUNT(*) ... GROUP BY key ORDER BY key` |
| `groupPass`                | the loop that the three passes share: a row of another fingerprint closes what is open |
| `duplicateSummaries`       | `_duplicate_summaries` (:512-536) |
| `featureSummaries`         | `_feature_summaries` (:539-578) |
| `includeInterval`          | `_include_interval`, `_finish_component` (:581-597) |
| `tupleOverlapSummaries`    | `_tuple_overlap_summaries` (:600-631) |

`per_file[index]` is a function of the file; `PreflightRow` has its files below the number of files, its interval
the right way round and one of the two labels, as `_process_inputs` inserts it. The flow columns of a row that is
not accepted are NULL there, and are not read. At the end the last pass finishes its components in any case, and
with no rows there is none, so it ends as the other two do.
-/
namespace ThreatFusion.Datasets
open Py Grouping

/-! ## Summaries -/

structure DuplicateSummary where
  groups : ℕ := 0
  rows : ℕ := 0
  excessRows : ℕ := 0
deriving DecidableEq

/-- `DuplicateSummary.include`. -/
def DuplicateSummary.includeGroup (s : DuplicateSummary) (multiplicity : ℕ) : DuplicateSummary :=
  if 1 < multiplicity then
    { groups := s.groups + 1, rows := s.rows + multiplicity, excessRows := s.excessRows + (multiplicity - 1) }
  else s

structure FeatureSummary extends DuplicateSummary where
  conflictingLabelGroups : ℕ := 0
  conflictingLabelRows : ℕ := 0
deriving DecidableEq

def FeatureSummary.includeFeature (s : FeatureSummary) (multiplicity labelCount : ℕ) : FeatureSummary :=
  let s := { s with toDuplicateSummary := s.toDuplicateSummary.includeGroup multiplicity }
  if 1 < labelCount then
    { s with conflictingLabelGroups := s.conflictingLabelGroups + 1
             conflictingLabelRows := s.conflictingLabelRows + multiplicity }
  else s

structure IntervalComponent where
  endUs : ℤ
  size : ℕ := 1
deriving DecidableEq

def finishComponent (summary : DuplicateSummary) : Option IntervalComponent → DuplicateSummary
  | none => summary
  | some component => summary.includeGroup component.size

def includeInterval (summary : DuplicateSummary) (startUs endUs : ℤ) :
    Option IntervalComponent → DuplicateSummary × IntervalComponent
  | none => (summary, { endUs })
  | some component =>
    if startUs ≤ component.endUs then
      (summary, { size := component.size + 1, endUs := max component.endUs endUs })
    else (finishComponent summary (some component), { endUs })

/-! ## The table -/

structure PreflightRow (fileCount : ℕ) where
  rowid : ℕ
  fileIndex : Fin fileCount
  sourceFp : Bytes
  accepted : Bool
  featureFp : Bytes
  tupleFp : Bytes
  startUs : ℤ
  endUs : ℤ
  label : ℤ
  ordered : startUs ≤ endUs
  binary : label = 0 ∨ label = 1
deriving DecidableEq

structure PreflightTable (fileCount : ℕ) where
  rows : List (PreflightRow fileCount)
  rowids : (rows.map (·.rowid)).Nodup

variable {fileCount : ℕ}

/-- `WHERE accepted = 1`. -/
def PreflightTable.accepted (t : PreflightTable fileCount) : List (PreflightRow fileCount) :=
  t.rows.filter (·.accepted)

def countBy {κ : Type} [DecidableEq κ] (le : κ → κ → Prop) [DecidableRel le] (keys : List κ) : List (κ × ℕ) :=
  (keys.dedup.insertionSort le).map fun key => (key, keys.count key)

def duplicateRows (t : PreflightTable fileCount) : List ((Bytes × Fin fileCount) × ℕ) :=
  countBy (lexLe (fun key => blobKey key.1) fun key => key.2) (t.rows.map fun r => (r.sourceFp, r.fileIndex))

def featureRows (t : PreflightTable fileCount) : List ((Bytes × Fin fileCount × ℤ) × ℕ) :=
  countBy (lexLe (fun key => blobKey key.1) fun key => toLex key.2)
    (t.accepted.map fun r => (r.featureFp, r.fileIndex, r.label))

/-- `ORDER BY tuple_fp, start_us, end_us, file_index`. -/
def tupleSorted (t : PreflightTable fileCount) : List (PreflightRow fileCount) :=
  t.accepted.insertionSort
    (lexLe (fun r => blobKey r.tupleFp) fun r => toLex (r.startUs, toLex (r.endUs, r.fileIndex)))

def tupleRows (t : PreflightTable fileCount) : List (Bytes × ℤ × ℤ × Fin fileCount) :=
  (tupleSorted t).map fun r => (r.tupleFp, r.startUs, r.endUs, r.fileIndex)

/-! ## The three passes -/

def groupPass {ρ σ : Type} (fingerprint : ρ → Bytes) (step : σ → ρ → σ) (finish : σ → σ) :
    Option Bytes → σ → List ρ → σ
  | current, s, [] => if current.isSome then finish s else s
  | current, s, row :: rows =>
    let s := if current.isSome ∧ current ≠ some (fingerprint row) then finish s else s
    groupPass fingerprint step finish (some (fingerprint row)) (step s row) rows

structure DuplicatePass (fileCount : ℕ) where
  overall : DuplicateSummary := {}
  perFile : Fin fileCount → DuplicateSummary := fun _ => {}
  total : ℕ := 0

namespace DuplicatePass

def step (s : DuplicatePass fileCount) (row : (Bytes × Fin fileCount) × ℕ) : DuplicatePass fileCount :=
  let ((_, index), multiplicity) := row
  { s with total := s.total + multiplicity
           perFile := Function.update s.perFile index ((s.perFile index).includeGroup multiplicity) }

def finish (s : DuplicatePass fileCount) : DuplicatePass fileCount :=
  { s with overall := s.overall.includeGroup s.total, total := 0 }

end DuplicatePass

def duplicateSummaries (t : PreflightTable fileCount) : DuplicateSummary × (Fin fileCount → DuplicateSummary) :=
  let s : DuplicatePass fileCount :=
    groupPass (·.1.1) DuplicatePass.step DuplicatePass.finish none {} (batchedRows (duplicateRows t))
  (s.overall, s.perFile)

structure FeaturePass (fileCount : ℕ) where
  overall : FeatureSummary := {}
  perFile : Fin fileCount → FeatureSummary := fun _ => {}
  total : ℕ := 0
  labels : List ℤ := []
  fileTotals : Fin fileCount → ℕ := fun _ => 0
  fileLabels : Fin fileCount → List ℤ := fun _ => []

namespace FeaturePass

def step (s : FeaturePass fileCount) (row : (Bytes × Fin fileCount × ℤ) × ℕ) : FeaturePass fileCount :=
  let ((_, index, label), multiplicity) := row
  { s with total := s.total + multiplicity
           labels := s.labels.insert label
           fileTotals := Function.update s.fileTotals index (s.fileTotals index + multiplicity)
           fileLabels := Function.update s.fileLabels index ((s.fileLabels index).insert label) }

def finish (s : FeaturePass fileCount) : FeaturePass fileCount :=
  { overall := s.overall.includeFeature s.total s.labels.length
    perFile := fun index => (s.perFile index).includeFeature (s.fileTotals index) (s.fileLabels index).length }

end FeaturePass

def featureSummaries (t : PreflightTable fileCount) : FeatureSummary × (Fin fileCount → FeatureSummary) :=
  let s : FeaturePass fileCount :=
    groupPass (·.1.1) FeaturePass.step FeaturePass.finish none {} (batchedRows (featureRows t))
  (s.overall, s.perFile)

structure TuplePass (fileCount : ℕ) where
  overall : DuplicateSummary := {}
  perFile : Fin fileCount → DuplicateSummary := fun _ => {}
  overallComponent : Option IntervalComponent := none
  fileComponents : Fin fileCount → Option IntervalComponent := fun _ => none

namespace TuplePass

def step (s : TuplePass fileCount) (row : Bytes × ℤ × ℤ × Fin fileCount) : TuplePass fileCount :=
  let (_, start, stop, index) := row
  let (overall, overallComponent) := includeInterval s.overall start stop s.overallComponent
  let (file, fileComponent) := includeInterval (s.perFile index) start stop (s.fileComponents index)
  { overall := overall
    overallComponent := some overallComponent
    perFile := Function.update s.perFile index file
    fileComponents := Function.update s.fileComponents index (some fileComponent) }

def finish (s : TuplePass fileCount) : TuplePass fileCount :=
  { overall := finishComponent s.overall s.overallComponent
    perFile := fun index => finishComponent (s.perFile index) (s.fileComponents index) }

end TuplePass

def tupleOverlapSummaries (t : PreflightTable fileCount) : DuplicateSummary × (Fin fileCount → DuplicateSummary) :=
  let s : TuplePass fileCount :=
    groupPass (·.1) TuplePass.step TuplePass.finish none {} (batchedRows (tupleRows t))
  (s.overall, s.perFile)

end ThreatFusion.Datasets
