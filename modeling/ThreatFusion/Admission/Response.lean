import ThreatFusion.Admission.Record
import ThreatFusion.Lib.Json
import ThreatFusion.Py.Float
import ThreatFusion.Py.Plain
/-
# The producer response: its two frozen dataclasses and its encoder

`api/producer_admission.py`. A `ProducerResponse` is one that `__post_init__` accepted; the encoder
refuses, rather than truncates, a text above `MAX_RESPONSE_BYTES`.

| here | there |
| --- | --- |
| `ResponseDisposition`, `ResponseReason` | `RESPONSE_DISPOSITIONS`, `RESPONSE_REASONS` (:55-85) |
| `ProducerRecordDisposition`             | `ProducerRecordDisposition` (:637-680) |
| `ProducerResponse`                      | `ProducerResponse` (:683-769) |
| `serializeProducerResponse`             | `serialize_producer_response` (:772-811) |
-/
namespace ThreatFusion.Admission
open Py JsonText

def PRODUCER_INGEST_RESPONSE_SCHEMA_VERSION : String := "producer_ingest_response_v1"
def PRODUCER_ORCHESTRATOR_RESPONSE_SCHEMA_VERSION : String := "producer_ingest_response_v2"

inductive ResponseDisposition where
  | created | existing | notActionable | rejected | duplicate | outcomeUnknown
deriving DecidableEq, Repr

def ResponseDisposition.text : ResponseDisposition → String
  | .created => "created"
  | .existing => "existing"
  | .notActionable => "not_actionable"
  | .rejected => "rejected"
  | .duplicate => "duplicate"
  | .outcomeUnknown => "outcome_unknown"

inductive ResponseReason where
  | requestCompleted | requestRejected | requestInProgress | requestReplayRejected | outcomeUnknown
  | alertCandidateCreated | alertCandidateAlreadyExists | alertCandidateIdentityConflict
  | inferenceNotActionable | registeredEventInvalid | registeredEventUnavailable
  | registeredEventRejected
  | rateLimited | serverBusy | auditUnavailable | internalError | processingTimeout | inferenceRejected
deriving DecidableEq, Repr

namespace ResponseReason

def text : ResponseReason → String
  | requestCompleted => "request_completed"
  | requestRejected => "request_rejected"
  | requestInProgress => "request_in_progress"
  | requestReplayRejected => "request_replay_rejected"
  | outcomeUnknown => "outcome_unknown"
  | alertCandidateCreated => "alert_candidate_created"
  | alertCandidateAlreadyExists => "alert_candidate_already_exists"
  | alertCandidateIdentityConflict => "alert_candidate_identity_conflict"
  | inferenceNotActionable => "inference_not_actionable"
  | registeredEventInvalid => "registered_event_invalid"
  | registeredEventUnavailable => "registered_event_unavailable"
  | registeredEventRejected => "registered_event_rejected"
  | rateLimited => "rate_limited"
  | serverBusy => "server_busy"
  | auditUnavailable => "audit_unavailable"
  | internalError => "internal_error"
  | processingTimeout => "processing_timeout"
  | inferenceRejected => "inference_rejected"

/-- `LEGACY_RESPONSE_REASONS` (:58-73). -/
def legacy : ResponseReason → Bool
  | rateLimited | serverBusy | auditUnavailable | internalError | processingTimeout
  | inferenceRejected => false
  | _ => true

/-- `v2_top_level_reasons` (:709-720). -/
def v2TopLevel : ResponseReason → Bool
  | requestCompleted | requestRejected | requestInProgress | requestReplayRejected | outcomeUnknown
  | rateLimited | serverBusy | auditUnavailable | internalError | processingTimeout => true
  | _ => false

end ResponseReason

inductive PredictedClass where
  | normal | attack
deriving DecidableEq, Repr

def PredictedClass.text : PredictedClass → String
  | .normal => "Normal"
  | .attack => "Attack"

def ALERT_CANDIDATE_ID_PREFIX : String := "alert_candidate_v1:"

/-- `startswith("alert_candidate_v1:")` and a SHA-256 after it. -/
def isAlertCandidateId (s : String) : Bool :=
  ALERT_CANDIDATE_ID_PREFIX.toList.isPrefixOf s.toList &&
    isSha256 (String.ofList (s.toList.drop ALERT_CANDIDATE_ID_PREFIX.length))

structure RecordDispositionFields where
  recordIndex : Nat
  disposition : ResponseDisposition
  reason : ResponseReason
  predictedClass : Option PredictedClass := none
  attackProbability : Option PyFloat := none
  alertCandidateId : Option String := none
deriving DecidableEq

/-- `ProducerRecordDisposition.__post_init__` does not raise (:648-677). -/
def RecordDispositionFields.accepted (r : RecordDispositionFields) : Bool :=
  decide (1 ≤ r.recordIndex ∧ r.recordIndex ≤ MAX_RECORDS) &&
  r.predictedClass.isNone == r.attackProbability.isNone &&
  r.attackProbability.all (PyFloat.within 0 1) &&
  r.alertCandidateId.all fun id => isAlertCandidateId id && r.predictedClass == some .attack &&
    (r.disposition == .created || r.disposition == .existing)

structure ProducerRecordDisposition extends RecordDispositionFields where
  valid : toRecordDispositionFields.accepted = true
deriving DecidableEq

/-- The constructor call: `none` is `ProducerAdmissionError("response_invalid")`. -/
def ProducerRecordDisposition.new (r : RecordDispositionFields) : Option ProducerRecordDisposition :=
  if h : r.accepted = true then some ⟨r, h⟩ else none

inductive ResponseSchema where
  | v1 | v2
deriving DecidableEq, Repr

def ResponseSchema.text : ResponseSchema → String
  | .v1 => PRODUCER_INGEST_RESPONSE_SCHEMA_VERSION
  | .v2 => PRODUCER_ORCHESTRATOR_RESPONSE_SCHEMA_VERSION

/-- One conjunct of `v2_records_valid` (:721-747). -/
def ProducerRecordDisposition.v2Valid (r : ProducerRecordDisposition) : Bool :=
  ((r.disposition == .created || r.disposition == .existing) &&
    r.reason == (if r.disposition == .created then .alertCandidateCreated
      else .alertCandidateAlreadyExists) &&
    r.predictedClass == some .attack && r.attackProbability.isSome && r.alertCandidateId.isSome) ||
  (r.disposition == .notActionable && r.reason == .inferenceNotActionable &&
    r.predictedClass == some .normal && r.attackProbability.isSome && r.alertCandidateId.isNone) ||
  (r.disposition == .rejected && r.reason == .inferenceRejected &&
    r.predictedClass.isNone && r.attackProbability.isNone && r.alertCandidateId.isNone)

structure ResponseFields where
  schemaVersion : ResponseSchema
  correlationId : String
  reason : ResponseReason
  records : List ProducerRecordDisposition
deriving DecidableEq

/-- `ProducerResponse.__post_init__` does not raise (:692-766). -/
def ResponseFields.accepted (r : ResponseFields) : Bool :=
  isUuid4 r.correlationId && decide (r.records.length ≤ MAX_RECORDS) &&
  r.records.map (·.recordIndex) == List.range' 1 r.records.length &&
  match r.schemaVersion with
  | .v1 => r.reason.legacy && r.records.all fun d => d.reason.legacy && d.predictedClass.isNone &&
      d.attackProbability.isNone && d.alertCandidateId.isNone
  | .v2 => r.reason.v2TopLevel && (r.reason == .requestCompleted) == !r.records.isEmpty &&
      r.records.all (·.v2Valid)

structure ProducerResponse extends ResponseFields where
  valid : toResponseFields.accepted = true
deriving DecidableEq

/-- The constructor call: `none` is `ProducerAdmissionError("response_invalid")`. -/
def ProducerResponse.new (r : ResponseFields) : Option ProducerResponse :=
  if h : r.accepted = true then some ⟨r, h⟩ else none

/-! ## `serialize_producer_response` -/

/-- The dict of one record: the class comes with its probability, the id only when there is one. -/
def recordPayload (r : ProducerRecordDisposition) : List (String × Json) :=
  [("record_index", .int r.recordIndex), ("disposition", .str r.disposition.text),
    ("reason", .str r.reason.text)] ++
  (match r.predictedClass with
    | some c => [("predicted_class", .str c.text),
        ("attack_probability", match r.attackProbability with
          | some p => .float p.repr
          | none => .null)]
    | none => []) ++
  (match r.alertCandidateId with
    | some id => [("alert_candidate_id", .str id)]
    | none => [])

def responsePayload (r : ProducerResponse) : Json :=
  .obj [("schema_version", .str r.schemaVersion.text), ("correlation_id", .str r.correlationId),
    ("reason", .str r.reason.text), ("records", .arr (r.records.map fun d => .obj (recordPayload d)))]

/-- `text.encode("ascii") + b"\n"`. -/
def asciiLine (text : List Char) : Bytes := (text.map fun c => UInt8.ofNat c.toNat) ++ [10]

def encodedResponse (r : ProducerResponse) : Bytes := asciiLine (dumps (responsePayload r))

def serializeProducerResponse (r : ProducerResponse) : Option Bytes :=
  if (encodedResponse r).length > MAX_RESPONSE_BYTES then none else some (encodedResponse r)

/-! ## How long a response is -/

@[simp] theorem length_asciiLine (text : List Char) : (asciiLine text).length = text.length + 1 := by
  simp [asciiLine]

theorem isPlain_of_isAlertCandidateId {s : String} (h : isAlertCandidateId s = true) :
    s.toList.all isPlain = true ∧ s.length = 83 := by
  rw [isAlertCandidateId, Bool.and_eq_true] at h
  exact isPlain_of_prefixed (show ALERT_CANDIDATE_ID_PREFIX.toList.all isPlain = true by decide) h.1 h.2

/-- Decimal digits of an index. -/
def indexWidth (i : Nat) : Nat := if i < 10 then 1 else if i < 100 then 2 else 3

theorem textLength_index : ∀ {i : Nat}, i ≤ MAX_RECORDS → textLength (.int i) = indexWidth i := by
  have h : ∀ i < 257, textLength (.int (i : Nat)) = indexWidth i := by decide +kernel
  exact fun {i} hi => h i (Nat.lt_succ_of_le hi)

@[simp] theorem textLength_disposition (d : ResponseDisposition) :
    textLength (.str d.text) = d.text.length + 2 :=
  textLength_str (by cases d <;> decide)

@[simp] theorem textLength_reason (r : ResponseReason) : textLength (.str r.text) = r.text.length + 2 :=
  textLength_str (by cases r <;> decide)

@[simp] theorem textLength_predictedClass (c : PredictedClass) :
    textLength (.str c.text) = c.text.length + 2 :=
  textLength_str (by cases c <;> decide)

theorem ProducerRecordDisposition.facts (d : ProducerRecordDisposition) :
    (1 ≤ d.recordIndex ∧ d.recordIndex ≤ MAX_RECORDS) ∧
      d.predictedClass.isNone = d.attackProbability.isNone ∧
      ∀ id, d.alertCandidateId = some id → isAlertCandidateId id = true := by
  have h := d.valid
  simp only [RecordDispositionFields.accepted, Bool.and_eq_true, decide_eq_true_eq, beq_iff_eq,
    Option.all_eq_true] at h
  exact ⟨h.1.1.1, h.1.1.2, fun id hid => (h.2 id hid).1.1⟩

/-- The text of one record: its three keys, the class and the probability, the identifier. -/
def recordWidth (d : ProducerRecordDisposition) : Nat :=
  46 + d.disposition.text.length + d.reason.text.length + indexWidth d.recordIndex +
    (match d.predictedClass, d.attackProbability with
      | some c, some p => 43 + c.text.length + p.repr.length
      | _, _ => 0) +
    (if d.alertCandidateId.isSome then 107 else 0)

theorem textLength_record (d : ProducerRecordDisposition) :
    textLength (.obj (recordPayload d)) = recordWidth d := by
  obtain ⟨⟨-, hi⟩, hp, hid⟩ := d.facts
  have hkeys : (quote "record_index").length = 14 ∧ (quote "disposition").length = 13 ∧
      (quote "reason").length = 8 ∧ (quote "predicted_class").length = 17 ∧
      (quote "attack_probability").length = 20 ∧ (quote "alert_candidate_id").length = 20 := by
    decide
  obtain ⟨k1, k2, k3, k4, k5, k6⟩ := hkeys
  have hidx := textLength_index hi
  rw [textLength_obj]
  unfold recordPayload recordWidth
  cases hc : d.predictedClass with
  | none =>
    cases ha : d.alertCandidateId with
    | none =>
      simp [k1, k2, k3, hidx]
      omega
    | some id =>
      have hplain := isPlain_of_isAlertCandidateId (hid id ha)
      simp [k1, k2, k3, k6, hidx, textLength_str hplain.1, hplain.2]
      omega
  | some c =>
    cases hpr : d.attackProbability with
    | none => simp [hc, hpr] at hp
    | some p =>
      cases ha : d.alertCandidateId with
      | none =>
        simp [k1, k2, k3, k4, k5, hidx]
        omega
      | some id =>
        have hplain := isPlain_of_isAlertCandidateId (hid id ha)
        simp [k1, k2, k3, k4, k5, k6, hidx, textLength_str hplain.1, hplain.2]
        omega

theorem length_encodedResponse (r : ProducerResponse) :
    (encodedResponse r).length = 130 + r.reason.text.length + (r.records.map recordWidth).sum +
      (r.records.length - 1) := by
  have hcid : isUuid4 r.correlationId = true := by
    have h := r.valid
    simp only [ResponseFields.accepted, Bool.and_eq_true] at h
    exact h.1.1.1
  obtain ⟨hplain, hlen⟩ := isPlain_of_isUuid4 hcid
  have hschema : textLength (.str r.schemaVersion.text) = 29 := by
    cases r.schemaVersion <;> decide
  have hkeys : (quote "schema_version").length = 16 ∧ (quote "correlation_id").length = 16 ∧
      (quote "reason").length = 8 ∧ (quote "records").length = 9 := by decide
  obtain ⟨k1, k2, k3, k4⟩ := hkeys
  have hrec : (textLength ∘ fun d => Json.obj (recordPayload d)) = recordWidth :=
    funext textLength_record
  rw [encodedResponse, length_asciiLine, ← textLength, responsePayload, textLength_obj]
  simp [k1, k2, k3, k4, hschema, textLength_str hplain, hlen, textLength_arr, hrec]
  omega

theorem serializeProducerResponse_isSome (r : ProducerResponse) :
    (serializeProducerResponse r).isSome ↔ (encodedResponse r).length ≤ MAX_RESPONSE_BYTES := by
  unfold serializeProducerResponse
  split
  · rename_i h
    simpa using h
  · rename_i h
    simpa using h

end ThreatFusion.Admission
