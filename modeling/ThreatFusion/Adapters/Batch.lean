import ThreatFusion.Adapters.Base
import ThreatFusion.Lib.Generator
/-
# Streaming adaptation with its report

`datasets/batch.py`.

| here | there |
| --- | --- |
| `BatchQualityReport`, `RejectionDetail` | the same (:19-60) |
| `streamAdaptRows`, `adaptRows`          | `stream_adapt_rows` and its inner generator (:63-97) |
| `sampleRejection`                       | `_sample_rejection` (:115-117) |
| `safeSourceRejectionReason`             | `_safe_source_rejection_reason` (:135-142) |
| `pydanticRejection`                     | `_pydantic_rejection` (:145-153) |

`passes_iff`: the pass does what it should exactly when the adapter raises nothing but refusals.
-/
namespace ThreatFusion.Adapters
open Py

structure RejectionDetail where
  rowNumber : Nat
  fields : List String
  reason : String
deriving DecidableEq

structure BatchQualityReport where
  source : String
  rejectionExampleLimit : Nat := 20
  completed : Bool := false
  totalRows : Nat := 0
  acceptedCount : Nat := 0
  rejectedCount : Nat := 0
  rejectionDetails : List RejectionDetail := []
deriving DecidableEq

/-! ## Reasons -/

def SAFE_SOURCE_REJECTION_REASONS : List String :=
  ["required value is missing", "required value is blank", "no valid alias value is present", "must be an integer",
   "must be a finite integer", "must be numeric", "must be a valid IP address", "required timestamp is missing",
   "must be a parseable timestamp"]

/-- `.+`: a part of a line. -/
def isLinePart (text : List Char) : Bool := !text.isEmpty && !text.contains '\n'

/-- What follows the literal, when the text starts with it. -/
def afterLiteral (literal : String) (text : List Char) : Option (List Char) :=
  if text.take literal.length = literal.toList then some (text.drop literal.length) else none

/-- `.+ and .+`. -/
def isPairOfParts (text : List Char) : Bool :=
  (List.range text.length).any fun i =>
    isLinePart (text.take i) && (afterLiteral " and " (text.drop i)).any isLinePart

def safeSourceRejectionReason (reason : String) : String :=
  if SAFE_SOURCE_REJECTION_REASONS.contains reason then reason
  else if (afterLiteral "must be between " reason.toList).any isPairOfParts ||
      (afterLiteral "must be >= " reason.toList).any isLinePart then
    "must be within allowed integer bounds"
  else if (afterLiteral "must be finite and >= " reason.toList).any isLinePart then
    "must be finite and within allowed numeric bounds"
  else "source row validation failed"

def pydanticRejection (rowNumber : Nat) (errors : List (List String × String)) : RejectionDetail :=
  let fields := (errors.map fun error => ".".intercalate error.1).eraseDups
  let errorTypes := (errors.map Prod.snd).eraseDups
  ⟨rowNumber, if fields.isEmpty then ["schema"] else fields,
    "schema validation failed (" ++ ", ".intercalate errorTypes ++ ")"⟩

/-- The detail of a refusal; the other exceptions are not caught. -/
def rejectionDetail (rowNumber : Nat) : AdaptError → Except PyException RejectionDetail
  | .sourceRowValidationError _ fields reason => .ok ⟨rowNumber, fields, safeSourceRejectionReason reason⟩
  | .validationError errors => .ok (pydanticRejection rowNumber errors)
  | .raised e => .error e

/-! ## The stream -/

def sampleRejection (report : BatchQualityReport) (detail : RejectionDetail) : BatchQualityReport :=
  if report.rejectionDetails.length < report.rejectionExampleLimit then
    { report with rejectionDetails := report.rejectionDetails ++ [detail] }
  else report

section
variable {ι φ : Type} (adapter : ι → Except AdaptError φ)

/-- It returns the report as it is at the end. -/
def adaptRows : Nat → List ι → BatchQualityReport → Generator PyException φ BatchQualityReport
  | _, [], report => .ended { report with completed := true }
  | rowNumber, row :: rows, report => match adapter row with
    | .ok record => .yielded record <| adaptRows (rowNumber + 1) rows
        { report with totalRows := report.totalRows + 1, acceptedCount := report.acceptedCount + 1 }
    | .error refusal => match rejectionDetail rowNumber refusal with
      | .error e => .raised e
      | .ok detail => adaptRows (rowNumber + 1) rows <| sampleRejection
        { report with totalRows := report.totalRows + 1, rejectedCount := report.rejectedCount + 1 } detail

def streamAdaptRows (rows : List ι) (report : BatchQualityReport) : Generator PyException φ BatchQualityReport :=
  adaptRows adapter 1 rows { report with completed := false }

/-! ## Whole passes -/

/-- The adapter raises what the stream does not catch. -/
def Raises (row : ι) : Prop := ∃ e, adapter row = .error (.raised e)

/-- The details of all refusals, the rows numbered from `n` on. -/
def refusals : Nat → List ι → List RejectionDetail
  | _, [] => []
  | n, row :: rows => match adapter row with
    | .ok _ => refusals (n + 1) rows
    | .error refusal => ((rejectionDetail n refusal).toOption.toList) ++ refusals (n + 1) rows

def acceptedFlows (rows : List ι) : List φ := rows.filterMap fun row => (adapter row).toOption

/-- What a pass over all rows should come to, from a new report. -/
structure PassHolds (source : String) (limit : Nat) (rows : List ι) : Prop where
  flows : (streamAdaptRows adapter rows { source, rejectionExampleLimit := limit }).items = acceptedFlows adapter rows
  report : (streamAdaptRows adapter rows { source, rejectionExampleLimit := limit }).result = .ok
    { source, rejectionExampleLimit := limit, completed := true, totalRows := rows.length
      acceptedCount := (acceptedFlows adapter rows).length, rejectedCount := (refusals adapter 1 rows).length
      rejectionDetails := (refusals adapter 1 rows).take limit }
  accounted : (acceptedFlows adapter rows).length + (refusals adapter 1 rows).length = rows.length

variable {adapter}

/-- The report at the end of a pass over rows of which `accepted` were accepted. -/
def BatchQualityReport.finish (report : BatchQualityReport) (accepted : Nat) (details : List RejectionDetail) :
    BatchQualityReport :=
  { report with
    completed := true
    totalRows := report.totalRows + (accepted + details.length)
    acceptedCount := report.acceptedCount + accepted
    rejectedCount := report.rejectedCount + details.length
    rejectionDetails := (report.rejectionDetails ++ details).take report.rejectionExampleLimit }

theorem rejectionDetail_ok (n : Nat) (refusal : AdaptError) (h : ∀ e, refusal ≠ .raised e) :
    ∃ detail, rejectionDetail n refusal = .ok detail := by
  cases refusal with
  | sourceRowValidationError source fields reason => exact ⟨_, rfl⟩
  | validationError errors => exact ⟨_, rfl⟩
  | raised e => exact absurd rfl (h e)

theorem sampleRejection_eq {report : BatchQualityReport}
    (h : report.rejectionDetails.length ≤ report.rejectionExampleLimit) (detail : RejectionDetail) :
    sampleRejection report detail =
      { report with rejectionDetails := (report.rejectionDetails ++ [detail]).take report.rejectionExampleLimit } := by
  unfold sampleRejection
  by_cases hroom : report.rejectionDetails.length < report.rejectionExampleLimit
  · rw [if_pos hroom, List.take_of_length_le]
    rw [List.length_append, List.length_singleton]
    omega
  · rw [if_neg hroom, List.take_append_of_le_length (Nat.le_of_not_lt hroom), List.take_of_length_le h]

theorem take_take_append {α : Type} (n : Nat) (xs ys : List α) : (xs.take n ++ ys).take n = (xs ++ ys).take n := by
  have hlength : n - (xs.take n).length = n - xs.length := by
    rw [List.length_take]
    omega
  rw [List.take_append, List.take_append, List.take_take, Nat.min_self, hlength]

theorem acceptedFlows_cons (row : ι) (rows : List ι) :
    acceptedFlows adapter (row :: rows) = (adapter row).toOption.toList ++ acceptedFlows adapter rows := by
  cases h : adapter row with
  | ok record => simp [acceptedFlows, h, Except.toOption]
  | error refusal => simp [acceptedFlows, h, Except.toOption]

/-- A pass without an exception, from any report on. -/
theorem adaptRows_spec {rows : List ι} (h : ∀ row ∈ rows, ¬ Raises adapter row) (n : Nat)
    (report : BatchQualityReport) (hlimit : report.rejectionDetails.length ≤ report.rejectionExampleLimit) :
    (adaptRows adapter n rows report).items = acceptedFlows adapter rows ∧
    (adaptRows adapter n rows report).result =
      .ok (report.finish (acceptedFlows adapter rows).length (refusals adapter n rows)) ∧
    (acceptedFlows adapter rows).length + (refusals adapter n rows).length = rows.length := by
  induction rows generalizing n report with
  | nil =>
    refine ⟨rfl, congrArg Except.ok ?_, rfl⟩
    rw [BatchQualityReport.finish, refusals, List.append_nil, List.take_of_length_le hlimit]
    rfl
  | cons row rows ih =>
    have ih := ih (fun r hr => h r (List.mem_cons_of_mem _ hr)) (n + 1)
    rw [acceptedFlows_cons]
    cases hrow : adapter row with
    | ok record =>
      rw [adaptRows, refusals, hrow]
      obtain ⟨hitems, hresult, hcount⟩ := ih { report with
        totalRows := report.totalRows + 1, acceptedCount := report.acceptedCount + 1 } hlimit
      refine ⟨congrArg (record :: ·) hitems, hresult.trans (congrArg Except.ok ?_), ?_⟩
      · simp only [BatchQualityReport.finish, Except.toOption, Option.toList_some, List.length_append,
          List.length_singleton, Nat.add_assoc]
      · simp only [Except.toOption, Option.toList_some, List.length_append, List.length_cons, List.length_nil]
        omega
    | error refusal =>
      obtain ⟨detail, hdetail⟩ := rejectionDetail_ok n refusal fun e he =>
        h row List.mem_cons_self ⟨e, by rw [hrow, he]⟩
      rw [adaptRows, refusals, hrow]
      simp only [hdetail]
      rw [sampleRejection_eq (by exact hlimit)]
      obtain ⟨hitems, hresult, hcount⟩ := ih { report with
        totalRows := report.totalRows + 1, rejectedCount := report.rejectedCount + 1
        rejectionDetails := (report.rejectionDetails ++ [detail]).take report.rejectionExampleLimit }
        (List.length_take_le ..)
      refine ⟨hitems, hresult.trans (congrArg Except.ok ?_), ?_⟩
      · simp only [BatchQualityReport.finish, Except.toOption, Option.toList_some, Option.toList_none, List.nil_append,
          take_take_append, List.append_assoc, List.singleton_append, List.length_cons, Nat.add_assoc, Nat.add_comm 1]
      · simp only [Except.toOption, Option.toList_some, Option.toList_none, List.nil_append, List.length_append,
          List.length_cons, List.length_nil]
        omega

/-- The first row on which the adapter raises ends the pass. -/
theorem adaptRows_raised {rows : List ι} (h : ∃ row ∈ rows, Raises adapter row) (n : Nat)
    (report : BatchQualityReport) : ∃ e, (adaptRows adapter n rows report).result = .error e := by
  induction rows generalizing n report with
  | nil => simp at h
  | cons row rows ih =>
    have hrest : ¬ Raises adapter row → ∃ r ∈ rows, Raises adapter r := by
      intro hrow
      obtain ⟨r, hr, hraises⟩ := h
      rcases List.mem_cons.mp hr with rfl | hr
      · exact absurd hraises hrow
      · exact ⟨r, hr, hraises⟩
    rw [adaptRows]
    cases hrow : adapter row with
    | ok record =>
      refine ih (hrest ?_) _ _
      rintro ⟨e, he⟩
      rw [hrow] at he
      cases he
    | error refusal =>
      by_cases hraises : Raises adapter row
      · obtain ⟨e, he⟩ := hraises
        obtain rfl := Except.error.inj (hrow.symm.trans he)
        exact ⟨e, rfl⟩
      · obtain ⟨detail, hdetail⟩ := rejectionDetail_ok n refusal fun e he =>
          hraises ⟨e, by rw [hrow, he]⟩
        simp only [hdetail]
        exact ih (hrest hraises) _ _

/-- **The pass is as it should be exactly when the adapter raises nothing but refusals.** -/
theorem passHolds_iff (source : String) (limit : Nat) (rows : List ι) :
    PassHolds adapter source limit rows ↔ ∀ row ∈ rows, ¬ Raises adapter row := by
  constructor
  · intro hholds row hrow hraises
    obtain ⟨e, he⟩ := adaptRows_raised ⟨row, hrow, hraises⟩ 1 { source, rejectionExampleLimit := limit }
    have hreport : (adaptRows adapter 1 rows { source, rejectionExampleLimit := limit }).result = _ := hholds.report
    rw [he] at hreport
    cases hreport
  · intro h
    obtain ⟨hitems, hresult, hcount⟩ := adaptRows_spec h 1 { source, rejectionExampleLimit := limit } (Nat.zero_le limit)
    refine ⟨hitems, hresult.trans (congrArg Except.ok ?_), hcount⟩
    simp only [BatchQualityReport.finish, List.nil_append, Nat.zero_add, hcount]

end

end ThreatFusion.Adapters
