import ThreatFusion.Admission.JsonDepth
import ThreatFusion.Admission.Record
import ThreatFusion.Py.Base64
import ThreatFusion.Py.Strptime
/-
# `decode_producer_envelope`: the body of a producer's request (`api/producer_admission.py`)

| here | there |
| --- | --- |
| `AdmissionError`, `fail`      | `ProducerAdmissionError`, `_fail` (:90-125) |
| `matchesName`                 | the form of `_PRODUCER_ID` and `_IDENTIFIER` (:41-42) |
| `ProducerEventReference.new`  | `ProducerEventReference(...)` (:311-324) |
| `ProducerEnvelope`            | `ProducerEnvelope`, with its `__post_init__` (:330-360) |
| `decodeReferences`            | the loop over the records (:552-563) |
| `decodeEnvelope`              | from the payload on (:521-572) |
| `decodeProducerEnvelope`      | `decode_producer_envelope` (:503-572) |

`_UTC_TIMESTAMP` and `strptime` take decimal digits that are not ASCII. On all other bodies the decoder accepts its
grammar (`envelope_decoding`).
-/
namespace ThreatFusion.Admission
open Py JsonText

/-- A `ProducerAdmissionError`. -/
structure AdmissionError where
  code : String
  statusCode : Nat
  securityEvent : String
  correlationId : Option String
deriving DecidableEq

def fail (code : String) : AdmissionError := ⟨code, 400, "invalid_request", none⟩

def PRODUCER_INGEST_REQUEST_SCHEMA_VERSION : String := "producer_ingest_request_v1"

def ENVELOPE_KEYS : List String :=
  ["schema_version", "producer_id", "request_id", "produced_at", "nonce", "source_contract", "records"]

def RECORD_KEYS : List String := ["source_member_sha256", "row_number"]

/-! ## Names -/

/-- `[a-z0-9]` -/
def isNameEnd (c : Char) : Bool := ('a' ≤ c && c ≤ 'z') || ('0' ≤ c && c ≤ '9')

/-- `[a-z0-9](?:[marks and a-z0-9]{0,middle}[a-z0-9])?` -/
def matchesName (marks : List Char) (middle : Nat) : List Char → Bool
  | [] => false
  | first :: rest => isNameEnd first && (rest.isEmpty || (decide (rest.dropLast.length ≤ middle) &&
      rest.dropLast.all (fun c => isNameEnd c || marks.contains c) && rest.getLast?.any isNameEnd))

def isProducerId (s : String) : Bool := matchesName ['-'] 126 s.toList && decide (s.toList.length ≤ 128)

def isIdentifier (s : String) : Bool := matchesName ['_', '-'] 62 s.toList && decide (s.toList.length ≤ 64)

/-! ## The envelope -/

def ProducerEventReference.identity (r : ProducerEventReference) : String × Nat := (r.sourceMemberSha256, r.rowNumber)

structure EnvelopeFields where
  schemaVersion : String
  producerId : String
  requestId : String
  producedAt : DateTime
  nonce : String
  sourceContract : String
  records : List ProducerEventReference
deriving DecidableEq

/-- `__post_init__` does not raise. -/
def EnvelopeFields.accepted (e : EnvelopeFields) : Bool :=
  e.schemaVersion == PRODUCER_INGEST_REQUEST_SCHEMA_VERSION && isProducerId e.producerId && isUuid4 e.requestId &&
  isNonce e.nonce && isIdentifier e.sourceContract && decide (1 ≤ e.records.length ∧ e.records.length ≤ MAX_RECORDS) &&
  decide (e.records.map ProducerEventReference.identity).Nodup

structure ProducerEnvelope extends EnvelopeFields where
  valid : toEnvelopeFields.accepted = true
deriving DecidableEq

def ProducerEnvelope.new (e : EnvelopeFields) : Except AdmissionError ProducerEnvelope :=
  if h : e.accepted = true then .ok ⟨e, h⟩ else .error (fail "envelope_schema_invalid")

/-! ## The decoder -/

section
variable (U : DecimalDigits) (parseFloat : String → PyFloat)

/-- `payload[key]`, when it is a text. -/
def textField (pairs : List (List Nat × Value)) (key : String) : Option String := (field pairs key).bind Value.text?

/-- A text that passes its check. -/
def checked (check : String → Bool) (code : String) : Option String → Except AdmissionError String
  | none => .error (fail code)
  | some s => if check s then .ok s else .error (fail code)

def ProducerEventReference.make (member : Option String) (row : Option Value) :
    Except AdmissionError ProducerEventReference :=
  match member, row with
  | some s, some (.int n) =>
    if h : isSha256 s = true ∧ 1 ≤ n.toNat ∧ n.toNat ≤ MAX_ROW_NUMBER then .ok ⟨s, n.toNat, h⟩
    else .error (fail "record_invalid")
  | _, _ => .error (fail "record_invalid")

def decodeReference (value : Value) : Except AdmissionError ProducerEventReference :=
  match value with
  | .obj pairs =>
    if keysAre pairs RECORD_KEYS then
      ProducerEventReference.make (textField pairs "source_member_sha256") (field pairs "row_number")
    else .error (fail "record_invalid")
  | _ => .error (fail "record_invalid")

/-- The loop; `seen` is the set of the identities of `records`. -/
def decodeReferences (records : List ProducerEventReference) : List Value → Except AdmissionError (List ProducerEventReference)
  | [] => .ok records
  | value :: values => do
    let reference ← decodeReference value
    if (records.map ProducerEventReference.identity).contains reference.identity then .error (fail "duplicate_record")
    else decodeReferences (records ++ [reference]) values

/-- `type(records_value) is not list or not 1 <= len(records_value) <= MAX_RECORDS`. -/
def batch : Option Value → Except AdmissionError (List Value)
  | some (.arr values) =>
    if 1 ≤ values.length ∧ values.length ≤ MAX_RECORDS then .ok values else .error (fail "batch_size_invalid")
  | _ => .error (fail "batch_size_invalid")

def timestamp (value : Option String) : Except AdmissionError DateTime :=
  match value.bind (DateTime.parseTimestamp U) with
  | some t => .ok t
  | none => .error (fail "request_time_invalid")

def decodeEnvelope (payload : Value) : Except AdmissionError ProducerEnvelope :=
  match payload with
  | .obj pairs =>
    if keysAre pairs ENVELOPE_KEYS = false then .error (fail "envelope_schema_invalid")
    else do
      let schemaVersion ← checked (· == PRODUCER_INGEST_REQUEST_SCHEMA_VERSION) "schema_version_unsupported"
        (textField pairs "schema_version")
      let producerId ← checked isProducerId "producer_id_invalid" (textField pairs "producer_id")
      let requestId ← checked isUuid4 "request_id_invalid" (textField pairs "request_id")
      let nonce ← checked isNonce "nonce_invalid" (textField pairs "nonce")
      let sourceContract ← checked isIdentifier "source_contract_invalid" (textField pairs "source_contract")
      let producedAt ← timestamp U (textField pairs "produced_at")
      let values ← batch (field pairs "records")
      let records ← decodeReferences [] values
      ProducerEnvelope.new { schemaVersion, producerId, requestId, producedAt, nonce, sourceContract, records }
  | _ => .error (fail "envelope_schema_invalid")

def decodeProducerEnvelope (body : Bytes) : Except AdmissionError ProducerEnvelope :=
  if body = [] ∨ MAX_REQUEST_BODY_BYTES < body.length then .error (fail "invalid_body")
  else match decodeUtf8 body with
    | none => .error (fail "invalid_utf8")
    | some text => match enforceJsonDepth 0 false false text with
      | .error e => .error (fail e.code)
      | .ok () => match strictLoads parseFloat text with
        | none => .error (fail "invalid_json")
        | some payload => decodeEnvelope U payload

end

end ThreatFusion.Admission
