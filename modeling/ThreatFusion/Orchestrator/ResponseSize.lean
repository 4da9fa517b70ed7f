import ThreatFusion.Orchestrator.Model
import ThreatFusion.Lib.Numeral
import Mathlib.Data.List.FinRange
/-
# Does the answer of a processed request fit into `MAX_RESPONSE_BYTES`?

`_process_claimed` builds one `request_completed` response with an entry per record and gives up
(`response_finalization_ambiguous`, which poisons the service) when the text is above 65536 bytes.
The other limits do not rule that out: 256 records may each need up to 268 characters.

`finalizeResponse_isSome` is the exact arithmetic. `response?_plain` and `rejectedDispositions_eq`
are the two answers that always fit.
-/
namespace ThreatFusion.Orchestrator
open Py Admission Alerts JsonText

section
variable {sha256 : Bytes → String}

/-- What the pipeline hands over for one record: rejected; or scored, and stored if an Attack. -/
def ValidOutcome (r : RegisteredResult) (p : Option (AlertInsertResult sha256)) : Prop :=
  (r.inference.status ≠ "completed" ∨ r.inference.predictedClass = none) ∨
    r.inference.status = "completed" ∧
    (∃ score, r.inference.attackProbability = some score ∧ score.within 0 1 = true) ∧
    (r.inference.predictedClass = some "Normal" ∨ r.inference.predictedClass = some "Attack" ∧ p.isSome)

/-- The characters of one record apart from its index. -/
def outcomeWidth (r : RegisteredResult) (p : Option (AlertInsertResult sha256)) : Nat :=
  let scoreWidth := match r.inference.attackProbability with
    | some score => score.repr.length
    | none => 0
  if r.inference.status ≠ "completed" ∨ r.inference.predictedClass = none then 72
  else if r.inference.predictedClass = some "Normal" then 133 + scoreWidth
  else match p with
    | some ⟨.created, _⟩ => 232 + scoreWidth
    | _ => 240 + scoreWidth

theorem outcomeWidth_rejected {r : RegisteredResult} {p : Option (AlertInsertResult sha256)}
    (h : r.inference.status ≠ "completed" ∨ r.inference.predictedClass = none) : outcomeWidth r p = 72 :=
  if_pos h

/-- The records from index `i` on, each with its separator. -/
def outcomesWidth : Nat → List RegisteredResult → List (Option (AlertInsertResult sha256)) → Nat
  | i, r :: rs, p :: ps => 1 + indexWidth i + outcomeWidth r p + outcomesWidth (i + 1) rs ps
  | _, _, _ => 0

theorem isAlertCandidateId_of_hex (hex : ∀ b, isSha256 (sha256 b) = true) (c : AlertCandidate sha256) :
    isAlertCandidateId c.alertCandidateId = true := by
  obtain ⟨parts, h⟩ := c.id_eq
  have hpre : (ALERT_CANDIDATE_SCHEMA_VERSION ++ ":").toList = ALERT_CANDIDATE_ID_PREFIX.toList := by decide
  have hlen : ALERT_CANDIDATE_ID_PREFIX.length = ALERT_CANDIDATE_ID_PREFIX.toList.length := by decide
  rw [isAlertCandidateId, h, String.toList_append, hpre, hlen, List.drop_left, String.ofList_toList,
    Bool.and_eq_true]
  exact ⟨List.isPrefixOf_iff_prefix.2 (List.prefix_append _ _), hex _⟩

/-- One record: its entry is accepted, is a v2 entry, and has the width of its outcome. -/
theorem recordDisposition_spec (hex : ∀ b, isSha256 (sha256 b) = true) {i : Nat}
    (hi : 1 ≤ i ∧ i ≤ MAX_RECORDS) {r : RegisteredResult} {p : Option (AlertInsertResult sha256)}
    (h : ValidOutcome r p) : ∃ d, recordDisposition i r p = some d ∧ d.recordIndex = i ∧
      d.v2Valid = true ∧ recordWidth d = indexWidth i + outcomeWidth r p := by
  rcases h with hrej | ⟨hst, ⟨score, hs, hw⟩, hn | ⟨ha, hp⟩⟩
  · refine ⟨⟨{ recordIndex := i, disposition := .rejected, reason := .inferenceRejected }, ?_⟩, ?_⟩
    · simp [RecordDispositionFields.accepted, hi]
    · refine ⟨?_, rfl, rfl, ?_⟩
      · simp [recordDisposition, hrej, ProducerRecordDisposition.new, RecordDispositionFields.accepted, hi]
      · simp [recordWidth, outcomeWidth_rejected hrej, show ResponseDisposition.rejected.text.length = 8 by decide,
          show ResponseReason.inferenceRejected.text.length = 18 by decide]
        omega
  · refine ⟨⟨{ recordIndex := i, disposition := .notActionable, reason := .inferenceNotActionable
               predictedClass := some .normal, attackProbability := some score }, ?_⟩, ?_⟩
    · simp [RecordDispositionFields.accepted, hi, hw]
    · refine ⟨?_, rfl, rfl, ?_⟩
      · simp [recordDisposition, hst, hn, hs, ProducerRecordDisposition.new,
          RecordDispositionFields.accepted, hi, hw]
      · simp [recordWidth, outcomeWidth, hst, hn, hs,
          show ResponseDisposition.notActionable.text.length = 14 by decide,
          show ResponseReason.inferenceNotActionable.text.length = 24 by decide,
          show PredictedClass.normal.text.length = 6 by decide]
        omega
  · obtain ⟨⟨disposition, c⟩, rfl⟩ := Option.isSome_iff_exists.1 hp
    have hid := isAlertCandidateId_of_hex hex c
    cases disposition with
    | created =>
      refine ⟨⟨{ recordIndex := i, disposition := .created, reason := .alertCandidateCreated
                 predictedClass := some .attack, attackProbability := some score
                 alertCandidateId := some c.alertCandidateId }, ?_⟩, ?_⟩
      · simp [RecordDispositionFields.accepted, hi, hw, hid]
      · refine ⟨?_, rfl, rfl, ?_⟩
        · simp [recordDisposition, hst, ha, hs, insertResponse, ProducerRecordDisposition.new,
            RecordDispositionFields.accepted, hi, hw, hid]
        · simp [recordWidth, outcomeWidth, hst, ha, hs,
            show ResponseDisposition.created.text.length = 7 by decide,
            show ResponseReason.alertCandidateCreated.text.length = 23 by decide,
            show PredictedClass.attack.text.length = 6 by decide]
          omega
    | existing =>
      refine ⟨⟨{ recordIndex := i, disposition := .existing, reason := .alertCandidateAlreadyExists
                 predictedClass := some .attack, attackProbability := some score
                 alertCandidateId := some c.alertCandidateId }, ?_⟩, ?_⟩
      · simp [RecordDispositionFields.accepted, hi, hw, hid]
      · refine ⟨?_, rfl, rfl, ?_⟩
        · simp [recordDisposition, hst, ha, hs, insertResponse, ProducerRecordDisposition.new,
            RecordDispositionFields.accepted, hi, hw, hid]
        · simp [recordWidth, outcomeWidth, hst, ha, hs,
            show ResponseDisposition.existing.text.length = 8 by decide,
            show ResponseReason.alertCandidateAlreadyExists.text.length = 30 by decide,
            show PredictedClass.attack.text.length = 6 by decide]
          omega

theorem recordDispositions_spec (hex : ∀ b, isSha256 (sha256 b) = true)
    {rs : List RegisteredResult} {ps : List (Option (AlertInsertResult sha256))}
    (h : List.Forall₂ ValidOutcome rs ps) : ∀ {i : Nat}, 1 ≤ i → i + rs.length ≤ MAX_RECORDS + 1 →
      ∃ ds, recordDispositions i rs ps = some ds ∧ ds.map (·.recordIndex) = List.range' i rs.length ∧
        (∀ d ∈ ds, d.v2Valid = true) ∧ ds.length + (ds.map recordWidth).sum = outcomesWidth i rs ps := by
  induction h with
  | nil => exact fun _ _ => ⟨[], rfl, rfl, by simp, by simp [outcomesWidth]⟩
  | @cons r p rs ps h _ ih =>
    intro i hi hle
    rw [List.length_cons] at hle
    obtain ⟨d, hd, hidx, hv, hw⟩ := recordDisposition_spec hex ⟨hi, by omega⟩ h
    obtain ⟨ds, hds, hidxs, hvs, hws⟩ := ih (by omega : 1 ≤ i + 1) (by omega)
    refine ⟨d :: ds, by simp [recordDispositions, hd, hds], ?_, ?_, ?_⟩
    · rw [List.map_cons, hidx, hidxs, List.length_cons, List.range'_succ]
    · simpa [hv] using hvs
    · simp only [List.length_cons, List.map_cons, List.sum_cons, outcomesWidth, hw]
      omega

/-- A v2 response with these records is accepted, so only its length can be refused. -/
theorem response?_eq {cid : String} (reason : ResponseReason) (ds : List ProducerRecordDisposition)
    (hcid : isUuid4 cid = true) (hreason : reason.v2TopLevel = true)
    (hempty : (reason == .requestCompleted) = !ds.isEmpty)
    (hlen : ds.length ≤ MAX_RECORDS) (hidx : ds.map (·.recordIndex) = List.range' 1 ds.length)
    (hv : ∀ d ∈ ds, d.v2Valid = true) :
    ∃ r : ProducerResponse, response? cid reason ds = serializeProducerResponse r ∧
      (encodedResponse r).length =
        130 + reason.text.length + (ds.map recordWidth).sum + (ds.length - 1) := by
  have hacc : (ResponseFields.mk .v2 cid reason ds).accepted = true := by
    simp only [ResponseFields.accepted, hcid, hreason, hlen, hidx, hempty, beq_self_eq_true,
      decide_true, Bool.and_self, Bool.true_and, List.all_eq_true]
    exact hv
  refine ⟨⟨⟨.v2, cid, reason, ds⟩, hacc⟩, ?_, length_encodedResponse _⟩
  rw [response?, ProducerResponse.new, dif_pos hacc]

/-- The response of a processed request: 146 characters of frame, and for each record a separator, its
index and the width of its outcome. -/
theorem finalizeResponse_eq (hex : ∀ b, isSha256 (sha256 b) = true) {record : ValidatedAdmissionRecord}
    {inferred : List RegisteredResult} {persisted : List (Option (AlertInsertResult sha256))}
    (hlen : inferred.length = record.records.length)
    (hvalid : List.Forall₂ ValidOutcome inferred persisted) :
    ∃ r : ProducerResponse, finalizeResponse record inferred persisted = serializeProducerResponse r ∧
      (encodedResponse r).length = 146 + outcomesWidth 1 inferred persisted := by
  obtain ⟨hpos, hmax⟩ := record.length_records
  obtain ⟨ds, hds, hidx, hv, hw⟩ := recordDispositions_spec hex hvalid (Nat.le_refl 1) (by omega)
  have hdlen : ds.length = inferred.length := by simpa using congrArg List.length hidx
  have hne : ds.isEmpty = false := by
    cases ds with
    | nil => simp at hdlen; omega
    | cons => rfl
  obtain ⟨r, hr, hrlen⟩ := response?_eq .requestCompleted ds record.isUuid4_correlationId rfl
    (by rw [hne]; rfl) (by omega) (by rw [hidx, hdlen]) hv
  refine ⟨r, by rw [finalizeResponse, hds]; exact hr, ?_⟩
  rw [hrlen, show ResponseReason.requestCompleted.text.length = 17 by decide]
  omega

end

/-! ### Answers that always fit -/

theorem serializeProducerResponse_of_le {r : ProducerResponse}
    (h : (encodedResponse r).length ≤ MAX_RESPONSE_BYTES) : ∃ b, serializeProducerResponse r = some b :=
  Option.isSome_iff_exists.1 ((serializeProducerResponse_isSome r).2 h)

/-- An answer without records. -/
theorem response?_plain {cid : String} {reason : ResponseReason} (hcid : isUuid4 cid = true)
    (hreason : reason.v2TopLevel = true) (hnot : reason ≠ .requestCompleted) :
    ∃ b, response? cid reason [] = some b := by
  obtain ⟨r, hr, hlen⟩ := response?_eq reason [] hcid hreason (by simpa using hnot) (by simp) rfl (by simp)
  rw [hr]
  refine serializeProducerResponse_of_le ?_
  have hreasonLen : reason.text.length ≤ 40 := by cases reason <;> decide
  simp only [List.map_nil, List.sum_nil, List.length_nil] at hlen
  rw [hlen, MAX_RESPONSE_BYTES]
  omega

theorem rejectedDispositions_spec : ∀ {k i : Nat}, 1 ≤ i → i + k ≤ MAX_RECORDS + 1 →
    ∃ ds, rejectedDispositions k i = some ds ∧ ds.map (·.recordIndex) = List.range' i k ∧
      (∀ d ∈ ds, d.v2Valid = true) ∧ ds.length + (ds.map recordWidth).sum ≤ 76 * k
  | 0, _, _, _ => ⟨[], rfl, rfl, by simp, by simp⟩
  | k + 1, i, hi, hle => by
    have hi' : 1 ≤ i ∧ i ≤ MAX_RECORDS := ⟨hi, by omega⟩
    obtain ⟨ds, hds, hidx, hv, hw⟩ := rejectedDispositions_spec (k := k) (by omega : 1 ≤ i + 1) (by omega)
    obtain ⟨d, hd, hdi, hdv, hdw⟩ : ∃ d, ProducerRecordDisposition.new
        { recordIndex := i, disposition := .rejected, reason := .inferenceRejected } = some d ∧
        d.recordIndex = i ∧ d.v2Valid = true ∧ recordWidth d = 72 + indexWidth i := by
      refine ⟨⟨{ recordIndex := i, disposition := .rejected, reason := .inferenceRejected }, ?_⟩, ?_⟩
      · simp [RecordDispositionFields.accepted, hi']
      · refine ⟨by simp [ProducerRecordDisposition.new, RecordDispositionFields.accepted, hi'], rfl, rfl, ?_⟩
        simp [recordWidth, show ResponseDisposition.rejected.text.length = 8 by decide,
          show ResponseReason.inferenceRejected.text.length = 18 by decide]
    have hindex : indexWidth i ≤ 3 := by unfold indexWidth; split <;> [skip; split] <;> omega
    refine ⟨d :: ds, by simp [rejectedDispositions, hd, hds], ?_, ?_, ?_⟩
    · rw [List.map_cons, hdi, hidx, List.range'_succ]
    · simpa [hdv] using hv
    · simp only [List.length_cons, List.map_cons, List.sum_cons, hdw]
      omega

/-- The answer to a registered-reference rejection. -/
theorem response?_rejected (record : ValidatedAdmissionRecord) :
    ∃ ds b, rejectedDispositions record.records.length 1 = some ds ∧
      response? record.correlationId .requestCompleted ds = some b := by
  obtain ⟨hpos, hmax⟩ := record.length_records
  obtain ⟨ds, hds, hidx, hv, hw⟩ :=
    rejectedDispositions_spec (k := record.records.length) (Nat.le_refl 1) (by omega)
  have hlen : ds.length = record.records.length := by simpa using congrArg List.length hidx
  have hne : ds.isEmpty = false := by
    cases ds with
    | nil => simp at hlen; omega
    | cons => rfl
  obtain ⟨r, hr, hrlen⟩ := response?_eq .requestCompleted ds record.isUuid4_correlationId rfl
    (by rw [hne]; rfl) (by omega) (by rw [hidx, hlen]) hv
  obtain ⟨b, hb⟩ := serializeProducerResponse_of_le (r := r) (by
    rw [hrlen, show ResponseReason.requestCompleted.text.length = 17 by decide]
    simp only [MAX_RESPONSE_BYTES, MAX_RECORDS] at hmax ⊢
    omega)
  exact ⟨ds, b, hds, hr.trans hb⟩

/-! ### A full batch of repeated attacks -/

/-- The day of the capture is a day of the calendar. -/
theorem captureDay_valid :
    1 ≤ 2015 ∧ 2015 ≤ 9999 ∧ 1 ≤ 2 ∧ 2 ≤ 12 ∧ 1 ≤ 18 ∧ 18 ≤ daysInMonth 2015 2 := by decide

/-- A result for the event `source`, scored `6/7` by the forest. -/
def attackResult (source : String) : RegisteredResult :=
  { sourceEventId := source
    observedAt := ⟨2015, 2, 18, 0, 25, 53, 0, captureDay_valid, by decide⟩
    modelArtifactSha256 := "bd2853a6f9d7f65038cc8bd2da282a2221cb73bda1f1e4c1c714098e8bfcffa9"
    inference :=
      { correlationId := "3f0e9a2c-5b1d-4c7e-9a61-0d2f4b8c6e15", modelIdentity := "random_forest"
        modelVersion := "network_random_forest_baseline_v1"
        contractIdentity := NETWORK_BEHAVIOR_V1_CONTRACT_VERSION
        sourceRepresentationIdentity := UNSW_NB15_ARGUS_RAW_REPRESENTATION_V1
        attackProbability := some (.finite (7720456504063707 / 9007199254740992) "0.8571428571428571")
        decisionThreshold := .finite (1 / 2) "0.5", predictedClass := some "Attack"
        status := "completed", reason := "inference_succeeded" } }

theorem isSourceEventId_length {s : String} (h : isSourceEventId s = true) : s.length = 96 := by
  simp only [isSourceEventId, Bool.and_eq_true, isSha256, beq_iff_eq, String.toList_ofList,
    List.length_drop] at h
  have hpre : (SOURCE_EVENT_ID_SCHEMA_VERSION ++ ":").length = 32 := by decide
  rw [← String.length_toList]
  omega

theorem buildAlertCandidate_attackResult {sha256 : Bytes → String}
    (hex : ∀ b, isSha256 (sha256 b) = true) {source : String} (hsource : isSourceEventId source = true)
    (t : DateTime) : ∃ c, buildAlertCandidate sha256 (attackResult source) t = some c := by
  have hid : ∀ parts, isPlainText (ALERT_CANDIDATE_SCHEMA_VERSION ++ ":" ++
      identityDigest sha256 "threatfusion:alert-candidate" parts) = true := by
    intro parts
    have h := hex (identityMessage "threatfusion:alert-candidate" parts)
    simp only [isSha256, Bool.and_eq_true, beq_iff_eq, String.length_toList] at h
    have hlen : (ALERT_CANDIDATE_SCHEMA_VERSION ++ ":").length = 19 := by decide
    rw [isPlainText, identityDigest, String.length_append, hlen, h.1]
    rfl
  have hsrc : isPlainText source = true := by simp [isPlainText, isSourceEventId_length hsource]
  unfold buildAlertCandidate
  rw [if_neg (by simp [attackResult])]
  simp only [attackResult]
  rw [AlertCandidate.new, dif_pos]
  · exact ⟨_, rfl⟩
  · simp only [AlertCandidateFields.accepted, List.all_cons, List.all_nil, Bool.and_true, hsource, hsrc,
      beq_self_eq_true, deriveAlertCandidateId, hid]
    decide +kernel

/-- The alert of `attackResult source`, found in the store. -/
def existingAlert (sha256 : Bytes → String) (source : String) : Option (AlertInsertResult sha256) :=
  (buildAlertCandidate sha256 (attackResult source) (attackResult source).observedAt).map (⟨.existing, ·⟩)

/-- Every existing attack needs at least 260 characters. -/
theorem existing_batch {sha256 : Bytes → String} (hex : ∀ b, isSha256 (sha256 b) = true) :
    ∀ (i : Nat) (sources : List String), (∀ s ∈ sources, isSourceEventId s = true) →
      List.Forall₂ ValidOutcome (sources.map attackResult) (sources.map (existingAlert sha256)) ∧
        260 * sources.length ≤
          outcomesWidth i (sources.map attackResult) (sources.map (existingAlert sha256))
  | _, [], _ => ⟨.nil, by simp⟩
  | i, s :: rest, h => by
    obtain ⟨hs, hrest⟩ := List.forall_mem_cons.1 h
    obtain ⟨c, hc⟩ := buildAlertCandidate_attackResult hex hs (attackResult s).observedAt
    obtain ⟨hvalid, hwidth⟩ := existing_batch hex (i + 1) rest hrest
    have hp : existingAlert sha256 s = some ⟨.existing, c⟩ := by simp [existingAlert, hc]
    have hindex : 1 ≤ indexWidth i := by unfold indexWidth; split <;> [skip; split] <;> omega
    refine ⟨.cons ?_ hvalid, ?_⟩
    · exact .inr ⟨rfl, ⟨_, rfl, by decide +kernel⟩, .inr ⟨rfl, by simp [hp]⟩⟩
    · have hone : outcomeWidth (attackResult s) (some ⟨.existing, c⟩) = 258 := by
        have hrepr : "0.8571428571428571".length = 18 := by decide
        simp [outcomeWidth, attackResult, PyFloat.repr, hrepr]
      simp only [List.map_cons, hp, outcomesWidth, hone, List.length_cons]
      omega

/-- A digest with 64 hexadecimal digits. -/
def positionalDigest (b : Bytes) : String :=
  String.ofList (Numeral.numeral 64 (b.foldl (fun h x => h * 257 + x.toNat + 1) 0))

theorem isHexLower_digit : ∀ d < 10, isHexLower (Numeral.digit d) = true := by decide

theorem isSha256_numeral (n : Nat) : isSha256 (String.ofList (Numeral.numeral 64 n)) = true := by
  simp [isSha256, isHexDigest, Numeral.all_numeral isHexLower_digit]

/-- The source event of row `i`. -/
def sourceEvent (i : Nat) : String :=
  SOURCE_EVENT_ID_SCHEMA_VERSION ++ ":" ++ String.ofList (Numeral.numeral 64 i)

theorem isSourceEventId_sourceEvent (i : Nat) : isSourceEventId (sourceEvent i) = true := by
  have hlen : (SOURCE_EVENT_ID_SCHEMA_VERSION ++ ":").length =
    (SOURCE_EVENT_ID_SCHEMA_VERSION ++ ":").toList.length := by decide
  have hsplit : (sourceEvent i).toList =
      (SOURCE_EVENT_ID_SCHEMA_VERSION ++ ":").toList ++ Numeral.numeral 64 i := by
    rw [sourceEvent, String.toList_append, String.toList_ofList]
  rw [isSourceEventId, hsplit, hlen, List.drop_left, isSha256_numeral, Bool.and_true]
  exact List.isPrefixOf_iff_prefix.2 (List.prefix_append _ _)

def memberReference (i : Nat) (h : i < 256) : ProducerEventReference :=
  ⟨"3a6eb0790f39ac87c94f3856b2dd2c5d110e6811602261a9a923d3bb23adc8b7", i + 1,
    by decide, by omega, by simp only [MAX_ROW_NUMBER]; omega⟩

/-- The first `n` rows of one registered file. -/
def memberReferences (n : Nat) (h : n ≤ 256) : List ProducerEventReference :=
  List.ofFn fun i : Fin n => memberReference i (by omega)

theorem length_memberReferences (n : Nat) (h : n ≤ 256) : (memberReferences n h).length = n :=
  List.length_ofFn

theorem nodup_memberReferences (n : Nat) (h : n ≤ 256) :
    ((memberReferences n h).map fun e => (e.sourceMemberSha256, e.rowNumber)).Nodup := by
  rw [memberReferences, List.map_ofFn]
  exact List.nodup_ofFn.2 fun i j h => Fin.ext (by simpa [memberReference] using h)

/-- A request for the first `n` rows. -/
def batchRecord (n : Nat) (hn : 1 ≤ n ∧ n ≤ 256) : ValidatedAdmissionRecord where
  correlationId := "0b9b2f7e-6a7d-4f39-8c7f-5a1e0c9d4b21"
  producerId := REGISTERED_UNSW_PRODUCER_ID
  credentialId := "9f86d081884c7d659a2feaa0c55ad015a3bf4f1b2b0b822cd15d6c15b0f00a08"
  requestId := "6c1d6a0e-3f52-4e0a-9f0b-2d7c1b8a5e44"
  producedAt := ⟨2026, 3, 1, 12, 0, 0, 0, of_decide_eq_true rfl, of_decide_eq_true rfl⟩
  receivedAt := ⟨2026, 3, 1, 12, 0, 1, 0, of_decide_eq_true rfl, of_decide_eq_true rfl⟩
  nonceSha256 := "60303ae22b998861bce3b28f33eec1be758a213c86c93c076dbe9f558c11c752"
  bodySha256 := "fd61a03af4f77d870fc21e05e7e80678095c92d808cfb3b5c279ee04c74aca13"
  method := INGEST_METHOD
  target := INGEST_TARGET
  contentType := JSON_CONTENT_TYPE
  contentLength := 30000
  sourceContract := REGISTERED_UNSW_SOURCE_CONTRACT
  records := memberReferences n hn.2
  valid := by
    have hmax : MAX_RECORDS = 256 := rfl
    simp only [AdmissionFields.accepted, length_memberReferences, nodup_memberReferences,
      beq_self_eq_true, decide_true, Bool.and_true, hmax, hn, and_self]
    rfl

/-- The events of a full batch. -/
def fullSources : List String := (List.range 256).map sourceEvent

/-- **The exact limit.** The final response is built if and only if its records fit. -/
theorem finalizeResponse_isSome_iff {sha256 : Bytes → String}
    (hex : ∀ b, isSha256 (sha256 b) = true) (record : ValidatedAdmissionRecord) (inferred : List RegisteredResult)
    (persisted : List (Option (AlertInsertResult sha256)))
    (hlen : inferred.length = record.records.length)
    (hvalid : List.Forall₂ ValidOutcome inferred persisted) :
    (finalizeResponse record inferred persisted).isSome ↔
      146 + outcomesWidth 1 inferred persisted ≤ MAX_RESPONSE_BYTES := by
  obtain ⟨r, hr, hrlen⟩ := finalizeResponse_eq hex hlen hvalid
  rw [hr, serializeProducerResponse_isSome, hrlen]

/-- A record that the model did not score. -/
def rejectedResult (source : String) : RegisteredResult :=
  { attackResult source with
    inference := { (attackResult source).inference with
      status := "rejected", reason := "inference_failed", predictedClass := none, attackProbability := none } }

theorem finalizeResponse_single :
    (@finalizeResponse positionalDigest (batchRecord 1 (by decide)) [rejectedResult (sourceEvent 0)]
      [none]).isSome :=
  (finalizeResponse_isSome_iff (fun _ => isSha256_numeral _) (batchRecord 1 (by decide))
    [rejectedResult (sourceEvent 0)] [none] (length_memberReferences 1 (by decide)).symm
    (.cons (.inl (.inr rfl)) .nil)).2 (by
      rw [outcomesWidth, outcomeWidth_rejected (.inr rfl)]
      decide)

/-- 256 repeated attacks, scored with 18 characters each, need more than 65536 bytes. -/
theorem full_batch_not_answered :
    ¬ ∀ (sha256 : Bytes → String), (∀ b, isSha256 (sha256 b) = true) →
      ∀ (record : ValidatedAdmissionRecord) (inferred : List RegisteredResult)
        (persisted : List (Option (AlertInsertResult sha256))),
        inferred.length = record.records.length → List.Forall₂ ValidOutcome inferred persisted →
        (∀ r ∈ inferred, ∀ score, r.inference.attackProbability = some score → score.repr.length ≤ 24) →
        (finalizeResponse record inferred persisted).isSome := by
  intro h
  have hex : ∀ b, isSha256 (positionalDigest b) = true := fun b => isSha256_numeral _
  obtain ⟨sources, hlen, hall⟩ : ∃ sources : List String,
      sources.length = 256 ∧ ∀ s ∈ sources, isSourceEventId s = true :=
    ⟨fullSources, by simp [fullSources], by simp [fullSources, isSourceEventId_sourceEvent]⟩
  obtain ⟨record, hrec⟩ : ∃ record : ValidatedAdmissionRecord, record.records.length = 256 :=
    ⟨batchRecord 256 (by decide), by simp only [batchRecord, length_memberReferences]⟩
  obtain ⟨hvalid, hwidth⟩ := existing_batch hex 1 sources hall
  have hcount : (sources.map attackResult).length = record.records.length := by simp [hlen, hrec]
  have hbuilt := h positionalDigest hex record (sources.map attackResult)
    (sources.map (existingAlert positionalDigest)) hcount hvalid (by
      have hrepr : "0.8571428571428571".length ≤ 24 := by decide
      simpa [attackResult, PyFloat.repr] using fun _ _ => hrepr)
  obtain ⟨r, hr, hrlen⟩ := finalizeResponse_eq hex hcount hvalid
  rw [hr, serializeProducerResponse_isSome, hrlen] at hbuilt
  simp only [MAX_RESPONSE_BYTES] at hbuilt
  omega

end ThreatFusion.Orchestrator
