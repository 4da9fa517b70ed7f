import ThreatFusion.Py.DateTime
import ThreatFusion.Py.Text
/-
# `ValidatedAdmissionRecord`: what the producer boundary hands to the replay journal

`api/producer_admission.py`. The frozen dataclasses check themselves in `__post_init__`, so a value
of `ProducerEventReference` or `ValidatedAdmissionRecord` is one that passed; here the check is a
field of the structure, and `new` is the constructor call that may raise.

| here | there |
| --- | --- |
| `ProducerEventReference`       | `ProducerEventReference` (:310) |
| `AdmissionFields`, `accepted`  | the fields and the `__post_init__` test of `ValidatedAdmissionRecord` (:366-406) |
| `ValidatedAdmissionRecord.new` | `ValidatedAdmissionRecord(...)`, which raises `admission_record_invalid` |

`_is_plain_utc` is the type of `producedAt` and `receivedAt`.
-/
namespace ThreatFusion.Admission
open Py

def REGISTERED_UNSW_PRODUCER_ID : String := "tf-demo-unsw-replay-01"
def REGISTERED_UNSW_SOURCE_CONTRACT : String := "unsw_registered_event_ref_v1"
def INGEST_METHOD : String := "POST"
def INGEST_TARGET : String := "/v1/ingest/unsw-registered"
def JSON_CONTENT_TYPE : String := "application/json"
def MAX_REQUEST_BODY_BYTES : Nat := 131072
def MAX_RECORDS : Nat := 256
def MAX_ROW_NUMBER : Nat := 9223372036854775807
def MAX_RESPONSE_BYTES : Nat := 65536

structure ProducerEventReference where
  sourceMemberSha256 : String
  rowNumber : Nat
  valid : isSha256 sourceMemberSha256 = true ∧ 1 ≤ rowNumber ∧ rowNumber ≤ MAX_ROW_NUMBER
deriving DecidableEq

structure AdmissionFields where
  correlationId : String
  producerId : String
  credentialId : String
  requestId : String
  producedAt : DateTime
  receivedAt : DateTime
  nonceSha256 : String
  bodySha256 : String
  method : String
  target : String
  contentType : String
  contentLength : Nat
  sourceContract : String
  records : List ProducerEventReference
deriving DecidableEq

/-- `__post_init__` does not raise (:386-403). -/
def AdmissionFields.accepted (r : AdmissionFields) : Bool :=
  isUuid4 r.correlationId && r.producerId == REGISTERED_UNSW_PRODUCER_ID && isSha256 r.credentialId &&
  isUuid4 r.requestId && r.correlationId != r.requestId &&
  isSha256 r.nonceSha256 && isSha256 r.bodySha256 &&
  r.method == INGEST_METHOD && r.target == INGEST_TARGET && r.contentType == JSON_CONTENT_TYPE &&
  decide (1 ≤ r.contentLength ∧ r.contentLength ≤ MAX_REQUEST_BODY_BYTES) &&
  r.sourceContract == REGISTERED_UNSW_SOURCE_CONTRACT &&
  decide (1 ≤ r.records.length ∧ r.records.length ≤ MAX_RECORDS) &&
  decide (r.records.map fun e => (e.sourceMemberSha256, e.rowNumber)).Nodup

structure ValidatedAdmissionRecord extends AdmissionFields where
  valid : toAdmissionFields.accepted = true
deriving DecidableEq

/-- The constructor call: `none` is `ProducerAdmissionError("admission_record_invalid")`. -/
def ValidatedAdmissionRecord.new (r : AdmissionFields) : Option ValidatedAdmissionRecord :=
  if h : r.accepted = true then some ⟨r, h⟩ else none

/-- Rebuilding a record from its own fields never raises. -/
@[simp] theorem ValidatedAdmissionRecord.new_self (r : ValidatedAdmissionRecord) :
    ValidatedAdmissionRecord.new r.toAdmissionFields = some r := by
  simp [ValidatedAdmissionRecord.new, r.valid]

theorem ValidatedAdmissionRecord.length_records (r : ValidatedAdmissionRecord) :
    1 ≤ r.records.length ∧ r.records.length ≤ MAX_RECORDS := by
  have := r.valid
  simp only [AdmissionFields.accepted, Bool.and_eq_true, decide_eq_true_eq] at this
  exact this.1.2

theorem ValidatedAdmissionRecord.isUuid4_correlationId (r : ValidatedAdmissionRecord) :
    isUuid4 r.correlationId = true := by
  have := r.valid
  simp only [AdmissionFields.accepted, Bool.and_eq_true] at this
  simp [this]

end ThreatFusion.Admission
