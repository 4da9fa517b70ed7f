import ThreatFusion.Admission.EnvelopeGrammar
import ThreatFusion.Admission.Registry
/-
# `admit_producer_request` (`api/producer_admission.py`:416-452, 575-632)

| here | there |
| --- | --- |
| `BodyStream`, `ReadResult` | the body stream: what its successive `read` calls return, and then `b""` |
| `readBoundedBody`          | `read_bounded_body` |
| `validateRequestTime`      | `_validate_request_time` |
| `admitProducerRequest`     | `admit_producer_request` |

`uuid.uuid4()` and `hashlib.sha256` are parameters with the form of their results.

* `readBoundedBody_ok`: which streams are read, and that only their bytes matter.
* `admission_decides`: who is admitted, and with which record.
-/
namespace ThreatFusion.Admission
open Py

def BODY_READ_CHUNK_BYTES : Nat := 8192

/-! ## The body -/

/-- What a call of `read` does. -/
inductive ReadResult where
  | chunk (b : Bytes)
  | other
  | raises

inductive BodyStream where
  | unreadable
  | reads (results : List ReadResult)

def tooLarge : AdmissionError := ⟨"request_too_large", 413, "request_too_large", none⟩

def incomplete (code : String) : AdmissionError := ⟨code, 400, "body_incomplete", none⟩

/-- The loop: what is missing, what was observed and read, and what the stream still does. -/
def readChunks : Nat → Nat → Bytes → List ReadResult → Except AdmissionError (Bytes × List ReadResult)
  | 0, _, chunks, results => .ok (chunks, results)
  | _ + 1, _, _, [] => .error (incomplete "body_truncated")
  | _ + 1, _, _, .other :: _ => .error (incomplete "body_truncated")
  | _ + 1, _, _, .raises :: _ => .error (incomplete "body_read_failed")
  | remaining + 1, observed, chunks, .chunk b :: results =>
    if b.isEmpty then .error (incomplete "body_truncated")
    else if min BODY_READ_CHUNK_BYTES (remaining + 1) < b.length ∨ MAX_REQUEST_BODY_BYTES < observed + b.length then
      .error tooLarge
    else readChunks (remaining + 1 - b.length) (observed + b.length) (chunks ++ b) results
termination_by _ _ _ results => results.length

/-- `trailing = read(1)`. -/
def endOfBody : List ReadResult → Except AdmissionError Unit
  | [] => .ok ()
  | .other :: _ => .error (fail "body_read_failed")
  | .raises :: _ => .error (incomplete "body_read_failed")
  | .chunk b :: _ => if b.isEmpty then .ok () else .error (incomplete "content_length_mismatch")

/-- The argument `none` is a content length that is no `int`. -/
def readBoundedBody (stream : BodyStream) (contentLength : Option Int) : Except AdmissionError Bytes :=
  match contentLength with
  | none => .error (fail "content_length_invalid")
  | some n =>
    if n < 0 then .error (fail "content_length_invalid")
    else if MAX_REQUEST_BODY_BYTES < n then .error tooLarge
    else if n = 0 then .error (fail "empty_body")
    else match stream with
      | .unreadable => .error (fail "body_read_failed")
      | .reads results => do
        let (chunks, rest) ← readChunks n.toNat 0 [] results
        endOfBody rest
        .ok chunks

/-! ## Admission -/

/-- `uuid.uuid4()` gives canonical texts. -/
structure Uuid4 where
  text : String
  canonical : isUuid4 text = true

/-- `hashlib.sha256(data).hexdigest()` -/
structure Sha256 where
  hexdigest : Bytes → String
  form : ∀ b, isSha256 (hexdigest b) = true

/-- What is presented; `none` is a value of another type. -/
structure ProducerRequest where
  registry : Option CertificateRegistry
  peer : Option PeerCertificateEvidence
  method : String
  target : String
  contentType : String
  contentLength : Option Int
  trustedNow : Option DateTime

section
variable (U : DecimalDigits) (parseFloat : String → PyFloat) (H : Sha256)

def validateRequestTime (producedAt : DateTime) (trustedNow : Option DateTime) : Except AdmissionError DateTime :=
  match trustedNow with
  | none => .error ⟨"trusted_time_unavailable", 503, "clock_unavailable", none⟩
  | some now =>
    if now.micros + 60 * 1000000 < producedAt.micros ∨ producedAt.micros + 300 * 1000000 < now.micros then
      .error (fail "request_time_invalid")
    else .ok now

/-- The record that is built (:615-630). -/
def admissionFields (correlationId : String) (producer : AdmittedProducer) (envelope : ProducerEnvelope) (now : DateTime)
    (body : Bytes) (contentLength : Nat) : AdmissionFields where
  correlationId := correlationId
  producerId := producer.producerId
  credentialId := producer.credentialId
  requestId := envelope.requestId
  producedAt := envelope.producedAt
  receivedAt := now
  nonceSha256 := H.hexdigest (ascii envelope.nonce.toList)
  bodySha256 := H.hexdigest body
  method := INGEST_METHOD
  target := INGEST_TARGET
  contentType := JSON_CONTENT_TYPE
  contentLength := contentLength
  sourceContract := envelope.sourceContract
  records := envelope.records

def forAttempt (correlationId : String) (e : AdmissionError) : AdmissionError :=
  { e with correlationId := some correlationId }

def recordInvalid : AdmissionError := ⟨"admission_record_invalid", 500, "internal_error", none⟩

def attempt (correlationId : String) (request : ProducerRequest) (stream : BodyStream) :
    Except AdmissionError ValidatedAdmissionRecord :=
  match request.registry with
  | none => .error (unauthorized "authentication_failed")
  | some registry => do
    let producer ← authenticate registry request.peer request.trustedNow
    if request.method ≠ INGEST_METHOD ∨ request.target ≠ INGEST_TARGET then .error (fail "invalid_request_route")
    else if request.contentType ≠ JSON_CONTENT_TYPE then .error (fail "content_type_invalid")
    else do
      let body ← readBoundedBody stream request.contentLength
      let envelope ← decodeProducerEnvelope U parseFloat body
      if envelope.producerId ≠ producer.producerId then .error (unauthorized "producer_mismatch")
      else if ¬ envelope.sourceContract ∈ producer.allowedSourceContracts then
        .error ⟨"admission_rejected", 403, "source_contract_denied", none⟩
      else do
        let now ← validateRequestTime envelope.producedAt request.trustedNow
        match ValidatedAdmissionRecord.new
          (admissionFields H correlationId producer envelope now body (request.contentLength.getD 0).toNat) with
        | none => .error recordInvalid
        | some record => .ok record

def admitProducerRequest (correlationId : Uuid4) (request : ProducerRequest) (stream : BodyStream) :
    Except AdmissionError ValidatedAdmissionRecord :=
  match attempt U parseFloat H correlationId.text request stream with
  | .ok record => .ok record
  | .error e => .error (forAttempt correlationId.text e)

end

/-! ## Which streams are read -/

/-- The stream gives these bytes, in parts of at most `BODY_READ_CHUNK_BYTES`, and then nothing. -/
def Delivers (stream : BodyStream) (body : Bytes) : Prop :=
  ∃ (pieces : List Bytes) (rest : List ReadResult), stream = .reads (pieces.map .chunk ++ rest) ∧
    (∀ c ∈ pieces, 1 ≤ c.length ∧ c.length ≤ BODY_READ_CHUNK_BYTES) ∧ pieces.flatten = body ∧
    (rest = [] ∨ ∃ more, rest = .chunk [] :: more)

theorem endOfBody_ok {rest : List ReadResult} :
    endOfBody rest = .ok () ↔ rest = [] ∨ ∃ more, rest = .chunk [] :: more := by
  unfold endOfBody
  split
  · simp
  · simp
  · simp
  · rename_i b more
    cases b with
    | nil => simp
    | cons x b => simp

theorem readChunks_ok {results rest : List ReadResult} {n observed : Nat} {got chunks : Bytes}
    (hobserved : observed + n ≤ MAX_REQUEST_BODY_BYTES) :
    readChunks n observed got results = .ok (chunks, rest) ↔ ∃ pieces : List Bytes, results = pieces.map .chunk ++ rest ∧
      (∀ c ∈ pieces, 1 ≤ c.length ∧ c.length ≤ BODY_READ_CHUNK_BYTES) ∧ chunks = got ++ pieces.flatten ∧
      pieces.flatten.length = n := by
  induction results generalizing n observed got with
  | nil =>
    cases n with
    | zero =>
      rw [readChunks]
      constructor
      · intro h
        obtain ⟨rfl, rfl⟩ := Prod.mk.inj (Except.ok.inj h)
        exact ⟨[], rfl, nofun, (List.append_nil _).symm, rfl⟩
      · rintro ⟨pieces, hresults, -, rfl, hlen⟩
        obtain ⟨hpieces, rfl⟩ := List.append_eq_nil_iff.mp hresults.symm
        rw [List.map_eq_nil_iff.mp hpieces, List.flatten_nil, List.append_nil]
    | succ n =>
      rw [readChunks]
      refine ⟨nofun, ?_⟩
      rintro ⟨pieces, hresults, -, -, hlen⟩
      rw [List.map_eq_nil_iff.mp (List.append_eq_nil_iff.mp hresults.symm).1] at hlen
      cases hlen
  | cons r results ih =>
    cases n with
    | zero =>
      rw [readChunks]
      constructor
      · intro h
        obtain ⟨rfl, rfl⟩ := Prod.mk.inj (Except.ok.inj h)
        exact ⟨[], rfl, nofun, (List.append_nil _).symm, rfl⟩
      · rintro ⟨pieces, hresults, hsizes, rfl, hlen⟩
        cases pieces with
        | nil =>
          rw [List.map_nil, List.nil_append] at hresults
          rw [hresults, List.flatten_nil, List.append_nil]
        | cons c pieces =>
          have := (hsizes c List.mem_cons_self).1
          rw [List.flatten_cons, List.length_append] at hlen
          omega
    | succ n =>
      -- a stream that goes on with something else has no more pieces
      have hno (hr : ∀ b, r ≠ .chunk b) : ¬ ∃ pieces : List Bytes, r :: results = pieces.map ReadResult.chunk ++ rest ∧
          (∀ c ∈ pieces, 1 ≤ c.length ∧ c.length ≤ BODY_READ_CHUNK_BYTES) ∧ chunks = got ++ pieces.flatten ∧
          pieces.flatten.length = n + 1 := by
        rintro ⟨pieces, hresults, -, -, hlen⟩
        cases pieces with
        | nil => cases hlen
        | cons c pieces => exact hr c (List.cons.inj hresults).1
      cases r with
      | other =>
        rw [readChunks]
        exact ⟨nofun, fun h => absurd h (hno (fun b => nofun))⟩
      | raises =>
        rw [readChunks]
        exact ⟨nofun, fun h => absurd h (hno (fun b => nofun))⟩
      | chunk b =>
        rw [readChunks]
        split_ifs with hempty hlong
        · refine ⟨nofun, ?_⟩
          rintro ⟨pieces, hresults, hsizes, -, hlen⟩
          cases pieces with
          | nil => cases hlen
          | cons c pieces =>
            obtain rfl := ReadResult.chunk.inj (List.cons.inj hresults).1
            have := (hsizes b List.mem_cons_self).1
            rw [List.isEmpty_iff.mp hempty] at this
            cases this
        · refine ⟨nofun, ?_⟩
          rintro ⟨pieces, hresults, hsizes, -, hlen⟩
          cases pieces with
          | nil => cases hlen
          | cons c pieces =>
            obtain rfl := ReadResult.chunk.inj (List.cons.inj hresults).1
            have := (hsizes b List.mem_cons_self).2
            rw [List.flatten_cons, List.length_append] at hlen
            omega
        · have hb : 1 ≤ b.length := List.length_pos_iff.mpr fun h => hempty (List.isEmpty_iff.mpr h)
          rw [ih (by omega)]
          constructor
          · rintro ⟨pieces, rfl, hsizes, rfl, hlen⟩
            refine ⟨b :: pieces, rfl, fun c hc => ?_, by rw [List.flatten_cons, List.append_assoc], ?_⟩
            · rcases List.mem_cons.mp hc with rfl | hc
              · exact ⟨hb, by omega⟩
              · exact hsizes c hc
            · rw [List.flatten_cons, List.length_append]
              omega
          · rintro ⟨pieces, hresults, hsizes, rfl, hlen⟩
            cases pieces with
            | nil => cases hlen
            | cons c pieces =>
              obtain ⟨hc, rfl⟩ := List.cons.inj hresults
              obtain rfl := ReadResult.chunk.inj hc
              rw [List.flatten_cons, List.length_append] at hlen
              refine ⟨pieces, rfl, fun c hc => hsizes c (List.mem_cons_of_mem _ hc), ?_, by omega⟩
              rw [List.flatten_cons, List.append_assoc]

/-- **A body is read when the stream gives just as many bytes as were declared**, whatever the parts. -/
theorem readBoundedBody_ok {stream : BodyStream} {contentLength : Option Int} {body : Bytes} :
    readBoundedBody stream contentLength = .ok body ↔ contentLength = some (body.length : Int) ∧
      (1 ≤ body.length ∧ body.length ≤ MAX_REQUEST_BODY_BYTES) ∧ Delivers stream body := by
  unfold readBoundedBody
  cases contentLength with
  | none => simp
  | some n =>
    simp only
    split_ifs with hneg hlarge hzero
    · refine ⟨nofun, fun h => ?_⟩
      have := Option.some.inj h.1
      omega
    · refine ⟨nofun, fun h => ?_⟩
      have := Option.some.inj h.1
      omega
    · refine ⟨nofun, fun h => ?_⟩
      have := Option.some.inj h.1
      omega
    · cases stream with
      | unreadable =>
        refine ⟨nofun, ?_⟩
        rintro ⟨-, -, pieces, rest, hstream, -⟩
        cases hstream
      | reads results =>
        have hobserved : 0 + n.toNat ≤ MAX_REQUEST_BODY_BYTES := by omega
        simp only [Except.bind_eq_ok]
        constructor
        · rintro ⟨⟨chunks, rest⟩, hread, u, hend, hbody⟩
          have hchunks : chunks = body := Except.ok.inj hbody
          obtain ⟨pieces, rfl, hsizes, hpieces, hlen⟩ := (readChunks_ok hobserved).mp hread
          rw [List.nil_append, hchunks] at hpieces
          rw [hpieces]
          exact ⟨congrArg some (by omega), by omega, pieces, rest, rfl, hsizes, rfl, endOfBody_ok.mp hend⟩
        · rintro ⟨hn, -, pieces, rest, hstream, hsizes, rfl, hend⟩
          obtain rfl := BodyStream.reads.inj hstream
          have hlen := Option.some.inj hn
          refine ⟨(pieces.flatten, rest), (readChunks_ok hobserved).mpr ⟨pieces, rfl, hsizes, ?_, ?_⟩, (),
            endOfBody_ok.mpr hend, rfl⟩
          · exact (List.nil_append _).symm
          · omega

/-- A stream has one body. -/
theorem Delivers.unique {stream : BodyStream} {body body' : Bytes} (h : Delivers stream body)
    (h' : Delivers stream body') : body = body' := by
  obtain ⟨pieces, rest, rfl, hsizes, rfl, hend⟩ := h
  obtain ⟨pieces', rest', hstream, hsizes', rfl, hend'⟩ := h'
  have hresults := BodyStream.reads.inj hstream
  clear hstream
  -- neither goes on where the other ends: a piece is not empty
  have hstop {c : Bytes} {pieces : List Bytes} {rest rest' : List ReadResult} (hc : 1 ≤ c.length)
      (hend : rest = [] ∨ ∃ more, rest = ReadResult.chunk [] :: more) :
      rest ≠ (c :: pieces).map ReadResult.chunk ++ rest' := by
    rintro rfl
    rcases hend with hend | ⟨more, hend⟩
    · cases hend
    · rw [List.map_cons, List.cons_append] at hend
      rw [ReadResult.chunk.inj (List.cons.inj hend).1] at hc
      cases hc
  induction pieces generalizing pieces' with
  | nil =>
    cases pieces' with
    | nil => rfl
    | cons c pieces' => exact absurd hresults (hstop (hsizes' c List.mem_cons_self).1 hend)
  | cons c pieces ih =>
    cases pieces' with
    | nil => exact absurd hresults.symm (hstop (hsizes c List.mem_cons_self).1 hend')
    | cons c' pieces' =>
      obtain ⟨hc, htail⟩ := List.cons.inj hresults
      rw [List.flatten_cons, List.flatten_cons, ReadResult.chunk.inj hc,
        ih (fun d hd => hsizes d (List.mem_cons_of_mem _ hd)) pieces'
          (fun d hd => hsizes' d (List.mem_cons_of_mem _ hd)) htail]

/-! ## Who is admitted -/

/-- `-300 s <= produced_at - now <= 60 s` -/
def InWindow (producedAt now : DateTime) : Prop :=
  -(300 * 1000000 : Int) ≤ (producedAt.micros : Int) - now.micros ∧ (producedAt.micros : Int) - now.micros ≤ 60 * 1000000

/-- What is presented, and the certificate record, body and envelope that it is entitled by. -/
structure Entitled (U : DecimalDigits) (parseFloat : String → PyFloat) (request : ProducerRequest) (stream : BodyStream)
    (now : DateTime) (r : CertificateRegistryRecord) (body : Bytes) (envelope : ProducerEnvelope) : Prop where
  clock : request.trustedNow = some now
  registered : ∃ registry, request.registry = some registry ∧ r ∈ registry.records
  authenticated : ∃ peer, request.peer = some peer ∧ Authenticates r peer now
  route : request.method = INGEST_METHOD ∧ request.target = INGEST_TARGET
  contentType : request.contentType = JSON_CONTENT_TYPE
  length : request.contentLength = some (body.length : Int) ∧ 1 ≤ body.length ∧ body.length ≤ MAX_REQUEST_BODY_BYTES
  delivered : Delivers stream body
  decoded : decodeProducerEnvelope U parseFloat body = .ok envelope
  producer : envelope.producerId = r.producerId ∧ envelope.sourceContract ∈ r.allowedSourceContracts
  window : InWindow envelope.producedAt now

/-- Everything that an admission needs, and the fields of the record that it gives. -/
def Admissible (U : DecimalDigits) (parseFloat : String → PyFloat) (H : Sha256) (correlationId : Uuid4)
    (request : ProducerRequest) (stream : BodyStream) (fields : AdmissionFields) : Prop :=
  ∃ now r body envelope, Entitled U parseFloat request stream now r body envelope ∧
    correlationId.text ≠ envelope.requestId ∧
    fields = admissionFields H correlationId.text ⟨r.producerId, r.certificateSha256, r.allowedSourceContracts⟩ envelope now
      body body.length

section
variable {U : DecimalDigits} {parseFloat : String → PyFloat} {H : Sha256}

theorem validateRequestTime_ok {producedAt now : DateTime} {trustedNow : Option DateTime} :
    validateRequestTime producedAt trustedNow = .ok now ↔ trustedNow = some now ∧ InWindow producedAt now := by
  unfold validateRequestTime InWindow
  cases trustedNow with
  | none => simp
  | some now' =>
    simp only
    split_ifs with hwindow
    · refine ⟨nofun, ?_⟩
      rintro ⟨hnow, h⟩
      obtain rfl := Option.some.inj hnow
      omega
    · constructor
      · intro h
        obtain rfl := Except.ok.inj h
        exact ⟨rfl, by omega, by omega⟩
      · rintro ⟨hnow, -⟩
        rw [Option.some.inj hnow]

theorem newRecord_ok {f : AdmissionFields} {record : ValidatedAdmissionRecord} :
    ValidatedAdmissionRecord.new f = some record ↔ record.toAdmissionFields = f := by
  unfold ValidatedAdmissionRecord.new
  constructor
  · intro h
    split_ifs at h
    obtain rfl := Option.some.inj h
    rfl
  · rintro rfl
    rw [dif_pos record.valid]

theorem ne_of_accepted {f : AdmissionFields} (h : f.accepted = true) : f.correlationId ≠ f.requestId := by
  simp only [AdmissionFields.accepted, Bool.and_eq_true, bne_iff_ne] at h
  tauto

theorem attempt_ok {correlationId : String} {request : ProducerRequest} {stream : BodyStream}
    {record : ValidatedAdmissionRecord} :
    attempt U parseFloat H correlationId request stream = .ok record ↔ ∃ registry producer body envelope now,
      request.registry = some registry ∧ authenticate registry request.peer request.trustedNow = .ok producer ∧
      (request.method = INGEST_METHOD ∧ request.target = INGEST_TARGET) ∧ request.contentType = JSON_CONTENT_TYPE ∧
      readBoundedBody stream request.contentLength = .ok body ∧
      decodeProducerEnvelope U parseFloat body = .ok envelope ∧
      envelope.producerId = producer.producerId ∧ envelope.sourceContract ∈ producer.allowedSourceContracts ∧
      validateRequestTime envelope.producedAt request.trustedNow = .ok now ∧
      record.toAdmissionFields = admissionFields H correlationId producer envelope now body
        (request.contentLength.getD 0).toNat := by
  unfold attempt
  cases request.registry with
  | none => simp
  | some registry =>
    simp only [Except.bind_eq_ok, Option.some.injEq]
    constructor
    · rintro ⟨producer, hproducer, h⟩
      split_ifs at h with hroute htype
      rw [not_or, not_not, not_not] at hroute
      rw [not_not] at htype
      rw [Except.bind_eq_ok] at h
      obtain ⟨body, hbody, h⟩ := h
      rw [Except.bind_eq_ok] at h
      obtain ⟨envelope, henvelope, h⟩ := h
      split_ifs at h with hmismatch hdenied
      rw [not_not] at hmismatch
      rw [Except.bind_eq_ok] at h
      obtain ⟨now, hnow, h⟩ := h
      split at h
      · cases h
      · rename_i record' hrecord
        obtain rfl := Except.ok.inj h
        exact ⟨registry, producer, body, envelope, now, rfl, hproducer, hroute, htype, hbody, henvelope, hmismatch,
          hdenied, hnow, newRecord_ok.mp hrecord⟩
    · rintro ⟨registry', producer, body, envelope, now, rfl, hproducer, hroute, htype, hbody, henvelope, hmismatch,
        hallowed, hnow, hrecord⟩
      refine ⟨producer, hproducer, ?_⟩
      rw [if_neg (by simp [hroute]), if_neg (not_not.mpr htype), hbody, Except.ok_bind, henvelope, Except.ok_bind,
        if_neg (not_not.mpr hmismatch), if_neg (not_not.mpr hallowed), hnow, Except.ok_bind, newRecord_ok.mpr hrecord]

/-- The record's own check passes. -/
theorem accepted_admission {correlationId : Uuid4} {r : CertificateRegistryRecord} {envelope : ProducerEnvelope}
    {now : DateTime} {body : Bytes} (hbounds : 1 ≤ body.length ∧ body.length ≤ MAX_REQUEST_BODY_BYTES)
    (hallowed : envelope.sourceContract ∈ r.allowedSourceContracts) (hfresh : correlationId.text ≠ envelope.requestId) :
    (admissionFields H correlationId.text ⟨r.producerId, r.certificateSha256, r.allowedSourceContracts⟩ envelope now body
      body.length).accepted = true := by
  have hr := r.valid
  simp only [RegistryRecordFields.accepted, Bool.and_eq_true, beq_iff_eq] at hr
  have he := envelope.valid
  simp only [EnvelopeFields.accepted, Bool.and_eq_true, beq_iff_eq, decide_eq_true_eq] at he
  have hsource : envelope.sourceContract = REGISTERED_UNSW_SOURCE_CONTRACT := by
    rw [hr.2] at hallowed
    exact List.mem_singleton.mp hallowed
  simp only [AdmissionFields.accepted, admissionFields, Bool.and_eq_true, beq_iff_eq, bne_iff_ne]
  exact ⟨⟨⟨⟨⟨⟨⟨⟨⟨⟨⟨⟨⟨correlationId.canonical, hr.1.1.1.1.1⟩, r.isSha256_fingerprint⟩, he.1.1.1.1.2⟩, hfresh⟩,
    H.form _⟩, H.form _⟩, trivial⟩, trivial⟩, trivial⟩, decide_eq_true hbounds⟩, hsource⟩,
    decide_eq_true he.1.2⟩, decide_eq_true he.2⟩

theorem admit_ok {correlationId : Uuid4} {request : ProducerRequest} {stream : BodyStream} {fields : AdmissionFields} :
    (∃ record, admitProducerRequest U parseFloat H correlationId request stream = .ok record ∧
      record.toAdmissionFields = fields) ↔ Admissible U parseFloat H correlationId request stream fields := by
  have hattempt (record : ValidatedAdmissionRecord) :
      admitProducerRequest U parseFloat H correlationId request stream = .ok record ↔
        attempt U parseFloat H correlationId.text request stream = .ok record := by
    unfold admitProducerRequest
    cases attempt U parseFloat H correlationId.text request stream with
    | error e => exact ⟨nofun, nofun⟩
    | ok r => exact Iff.rfl
  simp only [hattempt, attempt_ok]
  constructor
  · rintro ⟨record, ⟨registry, producer, body, envelope, now, hregistry, hproducer, hroute, htype, hbody, henvelope, hid,
      hallowed, hnow, hrecord⟩, rfl⟩
    obtain ⟨now', peer, htrusted, hpeer, r, hr, hauth, rfl⟩ := authenticate_ok.mp hproducer
    obtain ⟨hnow', hwindow⟩ := validateRequestTime_ok.mp hnow
    obtain rfl := Option.some.inj (htrusted.symm.trans hnow')
    obtain ⟨hlength, hbounds, hdelivers⟩ := readBoundedBody_ok.mp hbody
    rw [hlength, Option.getD_some, Int.toNat_natCast] at hrecord
    have hfresh := ne_of_accepted record.valid
    rw [hrecord] at hfresh
    exact ⟨now', r, body, envelope, ⟨htrusted, ⟨registry, hregistry, hr⟩, ⟨peer, hpeer, hauth⟩, hroute, htype,
      ⟨hlength, hbounds⟩, hdelivers, henvelope, ⟨hid, hallowed⟩, hwindow⟩, hfresh, hrecord⟩
  · rintro ⟨now, r, body, envelope, h, hfresh, rfl⟩
    obtain ⟨registry, hregistry, hr⟩ := h.registered
    obtain ⟨peer, hpeer, hauth⟩ := h.authenticated
    have hlength : (request.contentLength.getD 0).toNat = body.length := by
      rw [h.length.1, Option.getD_some, Int.toNat_natCast]
    refine ⟨⟨_, accepted_admission h.length.2 h.producer.2 hfresh⟩, ⟨registry, _, body, envelope, now, hregistry,
      authenticate_ok.mpr ⟨now, peer, h.clock, hpeer, r, hr, hauth, rfl⟩, h.route, h.contentType,
      readBoundedBody_ok.mpr ⟨h.length.1, h.length.2, h.delivered⟩, h.decoded, h.producer.1, h.producer.2,
      validateRequestTime_ok.mpr ⟨h.clock, h.window⟩, ?_⟩, rfl⟩
    rw [hlength]

end

/-- **Admission, end to end.** A record is made exactly for the requests that are `Admissible`, it is the same for
every stream with the same body, and no registry lets two certificates in for more than a day. -/
theorem admission_decides (U : DecimalDigits) (parseFloat : String → PyFloat) (H : Sha256) :
    (∀ correlationId request stream fields,
      (∃ record, admitProducerRequest U parseFloat H correlationId request stream = .ok record ∧
        record.toAdmissionFields = fields) ↔ Admissible U parseFloat H correlationId request stream fields) ∧
    (∀ correlationId request stream stream' body record, Delivers stream body → Delivers stream' body →
      (admitProducerRequest U parseFloat H correlationId request stream = .ok record ↔
        admitProducerRequest U parseFloat H correlationId request stream' = .ok record)) ∧
    ∀ registry, (∃ f g, ∀ peer now producer, authenticate registry peer now = .ok producer →
        producer.credentialId = f ∨ producer.credentialId = g) ∧
      ∀ s t : DateTime, ∀ p q p' q' : Option PeerCertificateEvidence, ∀ a b a' b' : AdmittedProducer,
        authenticate registry p (some s) = .ok a → authenticate registry q (some s) = .ok b →
        authenticate registry p' (some t) = .ok a' → authenticate registry q' (some t) = .ok b' →
        a'.credentialId = a.credentialId → b'.credentialId = b.credentialId → a.credentialId ≠ b.credentialId →
        t.micros < s.micros + MAX_CERTIFICATE_ROTATION_OVERLAP := by
  refine ⟨fun _ _ _ _ => admit_ok, fun correlationId request stream stream' body record h h' => ?_,
    authenticate_rotation⟩
  have key {stream stream' : BodyStream} (h : Delivers stream body) (h' : Delivers stream' body)
      (hok : admitProducerRequest U parseFloat H correlationId request stream = .ok record) :
      admitProducerRequest U parseFloat H correlationId request stream' = .ok record := by
    obtain ⟨now, r, body', envelope, hentitled, hrest⟩ := admit_ok.mp ⟨record, hok, rfl⟩
    obtain rfl := h.unique hentitled.delivered
    obtain ⟨record', hok', hfields⟩ := admit_ok.mpr ⟨now, r, _, envelope, { hentitled with delivered := h' }, hrest⟩
    obtain ⟨fields, valid⟩ := record
    obtain ⟨fields', valid'⟩ := record'
    obtain rfl : fields' = fields := hfields
    exact hok'
  exact ⟨key h h', key h' h⟩

/-! ## A correlation identifier that is the request's own -/

def sampleRecord : CertificateRegistryRecord where
  producerId := REGISTERED_UNSW_PRODUCER_ID
  producerType := REGISTERED_UNSW_PRODUCER_TYPE
  uriSan := REGISTERED_UNSW_URI_SAN
  certificateSha256 := "b7d3f1a94c0e8265d1f7a3094be6c28570a1d9e43f8b62c7059e4d1ab8f36c20"
  enabled := true
  revoked := false
  notBefore := ⟨2026, 9, 1, 8, 30, 0, 0, by decide, by decide⟩
  notAfter := ⟨2026, 11, 1, 8, 30, 0, 0, by decide, by decide⟩
  allowedSourceContracts := [REGISTERED_UNSW_SOURCE_CONTRACT]
  valid := by decide +kernel

def noonBody : Bytes := asciiLine (JsonText.render (envelopeJson "2026-09-12T12:00:00Z" sampleEnvelope.toEnvelopeFields))

def noonRequest : ProducerRequest where
  registry := some ⟨[sampleRecord], by decide +kernel⟩
  peer := some ⟨TLS_VERSION, true, true, some sampleRecord.certificateSha256, some [some REGISTERED_UNSW_URI_SAN]⟩
  method := INGEST_METHOD
  target := INGEST_TARGET
  contentType := JSON_CONTENT_TYPE
  contentLength := some noonBody.length
  trustedNow := some noon

theorem entitled_noon : Entitled arabicDigits (fun t => .nonFinite t) noonRequest (.reads [.chunk noonBody]) noon
    sampleRecord noonBody sampleEnvelope := by
  have hbounds : 1 ≤ noonBody.length ∧ noonBody.length ≤ BODY_READ_CHUNK_BYTES := by
    rw [noonBody, length_asciiLine]
    decide +kernel
  have hstamp : DateTime.parseTimestamp arabicDigits "2026-09-12T12:00:00Z" = some sampleEnvelope.producedAt := by
    decide +kernel
  constructor
  · rfl
  · exact ⟨_, rfl, List.mem_singleton_self _⟩
  · exact ⟨_, rfl, ⟨rfl, rfl, rfl⟩, rfl, rfl, ⟨rfl, rfl⟩, by decide +kernel⟩
  · exact ⟨rfl, rfl⟩
  · rfl
  · exact ⟨rfl, hbounds.1, Nat.le_trans hbounds.2 (by decide)⟩
  · refine ⟨[noonBody], [], rfl, fun c hc => ?_, List.flatten_singleton, .inl rfl⟩
    rw [List.mem_singleton.mp hc]
    exact hbounds
  · refine decodeProducerEnvelope_ok.mpr (isEnvelopeText_json hstamp ?_)
    rw [← length_asciiLine]
    exact Nat.le_trans hbounds.2 (by decide)
  · exact ⟨rfl, List.mem_singleton_self _⟩
  · have hnow : InWindow noon noon := by
      unfold InWindow
      omega
    exact hnow

/-- **An admissible request is refused when the new correlation identifier is the request's own.** -/
theorem own_identifier_refused :
    Entitled arabicDigits (fun t => .nonFinite t) noonRequest (.reads [.chunk noonBody]) noon sampleRecord noonBody
      sampleEnvelope ∧
    ∀ H, ¬ ∃ record, admitProducerRequest arabicDigits (fun t => .nonFinite t) H
      ⟨sampleEnvelope.requestId, by decide +kernel⟩ noonRequest (.reads [.chunk noonBody]) = .ok record := by
  refine ⟨entitled_noon, ?_⟩
  rintro H ⟨record, h⟩
  obtain ⟨now, r, body, envelope, hentitled, hfresh, -⟩ := admit_ok.mp ⟨record, h, rfl⟩
  obtain rfl := entitled_noon.delivered.unique hentitled.delivered
  obtain rfl := Except.ok.inj (entitled_noon.decoded.symm.trans hentitled.decoded)
  exact hfresh rfl

end ThreatFusion.Admission
