import ThreatFusion.Alerts.StoreRuns
import ThreatFusion.Analyst.View
import ThreatFusion.Analyst.Workflow
import ThreatFusion.Lib.JsonLayout
/-
# Does what an analyst is shown fit into `MAX_RESPONSE_BYTES`?

`_response` answers 503 in place of a body above 131072 bytes. The validators of a candidate, of a state and
of an event bound each of their fields, a page has at most a hundred items of 1073 characters, and a history
at most two events, so a page and the result of a transition are never replaced
(`listAlerts_fits`, `transition_fits`). A detail view is not either, unless what the configured collaborators
add to it is large (`detail_fits`, `enrichment_replaces_detail`): nothing bounds that.
-/
namespace ThreatFusion.AnalystView
open Py Alerts Analyst Except
open JsonText (Json dumps textLength textLength_obj_le textLength_obj_append_le textLength_arr_le textLength_str
  textLength_nat_le textLength_quote textLength_ofList length_quote_ofList textLength_float textLength_null
  length_quote_append keysLength isPlain quote)

/-- The body of a successful answer is sent as it is. -/
def Delivered (payload : Json) : Prop :=
  (responseBody payload).length ≤ MAX_RESPONSE_BYTES ∧ response .ok payload = message .ok (responseBody payload)

theorem length_responseBody (payload : Json) : (responseBody payload).length = textLength payload + 1 := by
  rw [responseBody, List.length_append, ascii, List.length_map]
  rfl

theorem delivered_of_le {payload : Json} (h : textLength payload < MAX_RESPONSE_BYTES) : Delivered payload := by
  have hle : (responseBody payload).length ≤ MAX_RESPONSE_BYTES := by
    rw [length_responseBody]
    exact h
  exact ⟨hle, if_neg (Nat.not_lt.2 hle)⟩

/-! ## One candidate, one state, one event -/

/-- Both floats of a candidate are written in at most 24 characters. -/
def ShortFloats (score threshold : PyFloat) : Prop := score.repr.length ≤ 24 ∧ threshold.repr.length ≤ 24

theorem textLength_isoformat_le (t : DateTime) : textLength (.str t.isoformat) ≤ 34 := by
  have hplain : t.isoformat.toList.all isPlain = true := t.isoformat_all (by decide) (by decide)
  have hlength := t.length_isoformat_le
  rw [textLength_str hplain]
  omega

theorem modelVersion?_plain {identity version : String} (h : modelVersion? identity = some version) :
    textLength (.str identity) + textLength (.str version) ≤ 54 := by
  have hforest : textLength (.str "random_forest") = 15 := textLength_ofList (by decide)
  have hforestVersion : textLength (.str "network_random_forest_baseline_v1") = 35 := textLength_ofList (by decide)
  have hlogistic : textLength (.str "logistic_regression") = 21 := textLength_ofList (by decide)
  have hlogisticVersion : textLength (.str "network_logistic_baseline_v1") = 30 := textLength_ofList (by decide)
  unfold modelVersion? at h
  split at h
  · rename_i hid
    rw [hid, ← Option.some.inj h, hforest, hforestVersion]
    decide
  · split at h
    · rename_i hid
      rw [hid, ← Option.some.inj h, hlogistic, hlogisticVersion]
      decide
    · cases h

theorem isPlain_of_isSourceEventId {s : String} (h : isSourceEventId s = true) :
    s.toList.all isPlain = true ∧ s.length = 96 := by
  rw [isSourceEventId, Bool.and_eq_true] at h
  exact isPlain_of_prefixed (show (SOURCE_EVENT_ID_SCHEMA_VERSION ++ ":").toList.all isPlain = true by decide) h.1 h.2

section
variable {sha256 : Bytes → String} {printable : Char → Bool}

/-- The bound of `_evidence`; that of the identifier comes with the state it is shown with. -/
theorem textLength_evidence_le (c : AlertCandidate sha256) (hid : isAlertCandidateId c.alertCandidateId = true)
    (hfloats : ShortFloats c.uncalibratedModelScore c.decisionThreshold) :
    textLength (evidence c.toAlertCandidateFields) ≤ 810 := by
  have h := c.valid
  simp only [AlertCandidateFields.accepted, Bool.and_eq_true, beq_iff_eq] at h
  obtain ⟨⟨⟨⟨⟨⟨⟨⟨⟨⟨⟨⟨⟨⟨⟨⟨-, -⟩, -⟩, -⟩, hmodel⟩, hartifact⟩, hcontract⟩, hrepresentation⟩, hpolicy⟩, hsource⟩,
    hdecision⟩, -⟩, -⟩, -⟩, -⟩, -⟩, -⟩ := h
  obtain ⟨hidPlain, hidLength⟩ := isPlain_of_isAlertCandidateId hid
  obtain ⟨hsourcePlain, hsourceLength⟩ := isPlain_of_isSourceEventId hsource
  obtain ⟨hartifactPlain, hartifactLength⟩ := isPlain_of_isSha256 hartifact
  have hobserved := textLength_isoformat_le c.observedAt
  have hcreated := textLength_isoformat_le c.createdAt
  have hversion := modelVersion?_plain hmodel
  have hcontractText : textLength (.str NETWORK_BEHAVIOR_V1_CONTRACT_VERSION) = 21 := textLength_ofList (by decide)
  have hrepresentationText : textLength (.str UNSW_NB15_ARGUS_RAW_REPRESENTATION_V1) = 45 :=
    textLength_ofList (by decide)
  have hpolicyText : textLength (.str DECISION_POLICY_VERSION) = 31 := textLength_ofList (by decide)
  have hdecisionText : textLength (.str "Attack") = 8 := textLength_ofList (by decide)
  have hkeys : keysLength ["alert_candidate_id", "source_event_id", "observed_at", "created_at",
      "source_representation_identity", "feature_contract_identity", "model_identity", "model_version",
      "model_artifact_sha256", "uncalibrated_model_score", "decision_threshold", "decision_policy_version",
      "decision"] = 282 := by decide
  obtain ⟨hscore, hthreshold⟩ := hfloats
  unfold evidence
  refine (textLength_obj_le _).trans ?_
  simp only [List.map_cons, List.map_nil, List.sum_cons, List.sum_nil, hkeys, textLength_str hidPlain,
    textLength_str hsourcePlain, textLength_str hartifactPlain, textLength_float, hcontract, hrepresentation, hpolicy,
    hdecision, hcontractText, hrepresentationText, hpolicyText, hdecisionText]
  omega

theorem textLength_state_text (s : AnalystState) : textLength (.str s.text) ≤ 11 := by
  cases s <;> decide

theorem textLength_actor_le {actor : String} (h : validActorId actor = true) : textLength (.str actor) ≤ 66 := by
  obtain ⟨hplain, hlength⟩ := isPlain_of_validActorId h
  rw [textLength_str hplain]
  omega

theorem textLength_uuid {id : String} (h : isUuid4 id = true) : textLength (.str id) = 38 := by
  obtain ⟨hplain, hlength⟩ := isPlain_of_isUuid4 h
  rw [textLength_str hplain, hlength]

theorem AnalystStateSnapshot.isAlertCandidateId (s : AnalystStateSnapshot) :
    Analyst.isAlertCandidateId s.alertCandidateId = true := by
  have h := s.valid
  rw [SnapshotFields.accepted, Bool.and_eq_true] at h
  exact h.1

/-- `state` and `version` of a snapshot agree, so the version has one digit. -/
theorem AnalystStateSnapshot.version_le (s : AnalystStateSnapshot) : 0 ≤ s.version ∧ s.version ≤ 2 := by
  have h := s.valid
  rw [SnapshotFields.accepted, Bool.and_eq_true] at h
  obtain ⟨-, h⟩ := h
  split at h
  · simp only [Bool.and_eq_true, beq_iff_eq] at h
    omega
  · simp only [Bool.and_eq_true, beq_iff_eq] at h
    obtain ⟨⟨⟨hversion, -⟩, -⟩, -⟩ := h
    split at hversion <;> omega

theorem textLength_digit {n : ℤ} (h : 0 ≤ n ∧ n ≤ 9) : textLength (.int n) ≤ 1 := by
  obtain ⟨k, rfl⟩ := Int.eq_ofNat_of_zero_le h.1
  exact textLength_nat_le (by decide) (by omega)

theorem textLength_state_le (s : AnalystStateSnapshot) : textLength (state s.toSnapshotFields) ≤ 222 := by
  have hstate := textLength_state_text s.state
  obtain ⟨hlow, hhigh⟩ := AnalystStateSnapshot.version_le s
  have hversion : textLength (.int s.version) ≤ 1 := textLength_digit ⟨hlow, by omega⟩
  have hfields : textLength (optional (fun t => .str t.isoformat) s.updatedAt) ≤ 34 ∧
      textLength (optional .str s.updatedBy) ≤ 66 ∧ textLength (optional .str s.lastTransitionId) ≤ 38 := by
    have h := s.valid
    rw [SnapshotFields.accepted, Bool.and_eq_true] at h
    obtain ⟨-, h⟩ := h
    split at h
    · simp only [Bool.and_eq_true, Option.isNone_iff_eq_none] at h
      obtain ⟨⟨⟨-, hat⟩, hby⟩, hid⟩ := h
      rw [hat, hby, hid]
      simp only [optional, textLength_null]
      decide
    · simp only [Bool.and_eq_true, Option.any_eq_true, Option.isSome_iff_exists] at h
      obtain ⟨⟨⟨-, t, hat⟩, actor, hby, hactor⟩, id, hid, huuid⟩ := h
      rw [hat, hby, hid]
      exact ⟨textLength_isoformat_le t, textLength_actor_le hactor, Nat.le_of_eq (textLength_uuid huuid)⟩
  obtain ⟨hat, hby, hid⟩ := hfields
  have hkeys : keysLength ["state", "version", "updated_at", "updated_by", "last_transition_id"] = 70 := by decide
  unfold state
  refine (textLength_obj_le _).trans ?_
  simp only [List.map_cons, List.map_nil, List.sum_cons, List.sum_nil, hkeys]
  omega

/-- The only long field of an event is its rationale. -/
theorem textLength_event_le (e : AnalystTransitionEvent printable) : textLength (event e.toEventFields) ≤ 3336 := by
  have h := e.valid
  simp only [EventFields.accepted, Bool.and_eq_true, beq_iff_eq] at h
  obtain ⟨⟨⟨⟨⟨⟨⟨-, hid⟩, -⟩, -⟩, -⟩, -⟩, hactor⟩, hrationale⟩ := h
  rw [validRationale, Bool.and_eq_true, decide_eq_true_eq] at hrationale
  have hid := textLength_uuid hid
  have hactor := textLength_actor_le hactor
  have hquote := length_quote_le e.rationale
  have hbytes : (utf8 e.rationale).length ≤ 512 := hrationale.2.2
  have hfrom := textLength_state_text e.fromState
  have hto := textLength_state_text e.toState
  have hat := textLength_isoformat_le e.transitionedAt
  have hsequence : textLength (.int e.sequence) ≤ 1 := by
    refine textLength_digit ?_
    rcases e.step with ⟨-, -, -, hseq⟩ | ⟨-, -, -, hseq⟩ <;> omega
  have hkeys : keysLength ["transition_id", "sequence", "from_state", "to_state", "actor_id", "rationale",
      "transitioned_at"] = 99 := by decide
  unfold event
  refine (textLength_obj_le _).trans ?_
  simp only [List.map_cons, List.map_nil, List.sum_cons, List.sum_nil, hkeys, textLength_quote e.rationale]
  omega

/-! ## The explanation and the singleton incident -/

theorem textLength_sha256 (hsha : ∀ b, isSha256 (sha256 b) = true) (b : Bytes) : textLength (.str (sha256 b)) = 66 := by
  obtain ⟨hplain, hlength⟩ := isPlain_of_isSha256 (hsha b)
  rw [textLength_str hplain, hlength]

theorem textLength_two {s a b : String} (hs : s = a ++ b) {n n₁ n₂ : Nat} (h₁ : (quote a).length = n₁)
    (h₂ : (quote b).length = n₂) (hn : n + 2 = n₁ + n₂) : textLength (.str s) = n := by
  have hab := length_quote_append a b
  rw [textLength_quote, hs]
  omega

/-- Five texts in a row. -/
theorem textLength_five {s a b c d e : String} (hs : s = a ++ b ++ c ++ d ++ e) {n n₁ n₂ n₃ n₄ n₅ : Nat}
    (h₁ : (quote a).length = n₁) (h₂ : (quote b).length = n₂) (h₃ : (quote c).length = n₃)
    (h₄ : (quote d).length = n₄) (h₅ : (quote e).length = n₅) (hn : n + 8 = n₁ + n₂ + n₃ + n₄ + n₅) :
    textLength (.str s) = n := by
  have hab := length_quote_append a b
  have habc := length_quote_append (a ++ b) c
  have habcd := length_quote_append (a ++ b ++ c) d
  have habcde := length_quote_append (a ++ b ++ c ++ d) e
  rw [textLength_quote, hs]
  omega

theorem textLength_limitations : textLength (.str LIMITATIONS) = 345 :=
  textLength_five rfl (length_quote_ofList (by decide)) (length_quote_ofList (by decide))
    (length_quote_ofList (by decide)) (length_quote_ofList (by decide)) (length_quote_ofList (by decide)) (by decide)

theorem textLength_explanation_le (hsha : ∀ b, isSha256 (sha256 b) = true) {c : AlertCandidateFields}
    (hid : isAlertCandidateId c.alertCandidateId = true) {status summary : String}
    (hstatus : textLength (.str status) ≤ 13) (hsummary : textLength (.str summary) ≤ 850) :
    textLength (explanation sha256 c status summary) ≤ 1500 := by
  obtain ⟨hidPlain, hidLength⟩ := isPlain_of_isAlertCandidateId hid
  have hdigest := textLength_sha256 hsha (ascii (dumps (evidence c)))
  have hversion : textLength (.str EXPLANATION_VERSION) = 22 := textLength_ofList (by decide)
  have hkeys : keysLength ["schema_version", "alert_candidate_id", "evidence_sha256", "status", "summary",
      "limitations"] = 95 := by decide
  unfold explanation
  refine (textLength_obj_le _).trans ?_
  simp only [List.map_cons, List.map_nil, List.sum_cons, List.sum_nil, hkeys, hdigest, hversion,
    textLength_limitations, textLength_str hidPlain]
  omega

theorem textLength_summary_le {score : PyFloat} (h : score.repr.length ≤ 24) :
    textLength (.str (summary score)) ≤ 850 := by
  have hbytes := length_utf8_le score.repr
  have hscore := length_quote_le score.repr
  have hall : textLength (.str (summary score)) = (quote score.repr).length + 199 :=
    textLength_five rfl (length_quote_ofList (by decide)) rfl (length_quote_ofList (by decide))
      (length_quote_ofList (by decide)) (length_quote_ofList (by decide)) (by
        simp only [List.length_cons, List.length_nil]
        omega)
  omega

theorem textLength_explanationFor_le (hsha : ∀ b, isSha256 (sha256 b) = true) {c : AlertCandidateFields}
    (hid : isAlertCandidateId c.alertCandidateId = true) (hscore : c.uncalibratedModelScore.repr.length ≤ 24) :
    textLength (explanationFor sha256 c) ≤ 1500 := by
  have havailable : textLength (.str "available") = 11 := textLength_ofList (by decide)
  have hunavailable : textLength (.str "unavailable") = 13 := textLength_ofList (by decide)
  unfold explanationFor
  split
  · exact textLength_explanation_le hsha hid (by rw [havailable]; decide) (textLength_summary_le hscore)
  · have hsummary :
        textLength (.str "Explanation unavailable: supported retained evidence could not be verified.") = 77 :=
      textLength_ofList (by decide)
    exact textLength_explanation_le hsha hid (Nat.le_of_eq hunavailable) (by rw [hsummary]; decide)

/-- The incident of an alert when no incident repository is configured. -/
theorem textLength_singleton_le (hsha : ∀ b, isSha256 (sha256 b) = true) (id : String) :
    textLength (incidentCorrelation sha256 id none) ≤ 600 := by
  have hdigest : textLength (.str (singletonMeta sha256 id).incidentId) = 78 := by
    obtain ⟨hplain, hlength⟩ := isPlain_of_isSha256 (hsha (identityMessage "threatfusion:incident"
      (Correlation.INCIDENT_SCHEMA_VERSION :: Correlation.CorrelationRule.singletonUnverifiedProvenance.text ::
        [id].insertionSort (· ≤ ·))))
    have hquote := (JsonText.length_quote hplain).trans (congrArg (· + 2) hlength)
    exact textLength_two (a := "incident_v1:") rfl (length_quote_ofList (by decide)) hquote (by decide)
  have hmode : textLength (.str "singleton_unverified_provenance") = 33 := textLength_ofList (by decide)
  have hwindow : textLength (.str "none") = 6 := textLength_ofList (by decide)
  have hrule : textLength (.str "corr_singleton_unverified_provenance_v1") = 41 := textLength_ofList (by decide)
  have hstatus : textLength (.str "unverified_provenance") = 23 := textLength_ofList (by decide)
  have hcount : textLength (.int 1) ≤ 1 := textLength_digit (by decide)
  have htext : textLength (.str ("UNSW-NB15 raw telemetry lacks authenticated entity endpoints " ++
      "and synchronized clocks; preserved as singleton incident.")) = 120 :=
    textLength_two rfl (length_quote_ofList (by decide)) (length_quote_ofList (by decide)) (by decide)
  have hkeys : keysLength ["incident_id", "correlation_mode", "window_type", "correlation_rule_id",
      "constituent_alert_count", "provenance_status", "explanation"] = 136 := by decide
  unfold incidentCorrelation correlationMeta
  refine (textLength_obj_le _).trans ?_
  simp only [List.map_cons, List.map_nil, List.sum_cons, List.sum_nil, hkeys]
  simp only [singletonMeta] at hdigest ⊢
  omega

/-! ## What the readers hand over -/

/-- The floats of a candidate that was read are those of a stored row. -/
def OfRow (rows : List AlertRow) (c : AlertCandidate sha256) : Prop :=
  ∃ row ∈ rows, row.uncalibratedModelScore = c.uncalibratedModelScore ∧ row.decisionThreshold = c.decisionThreshold

theorem ofRow_of_readRow {rows : List AlertRow} {row : AlertRow} (hrow : row ∈ rows) {c : AlertCandidate sha256}
    (h : readRow sha256 row = .ok c) : OfRow rows c := by
  unfold readRow candidateFromRow at h
  split at h
  · cases h
  · rename_i c' hc
    obtain rfl := Except.ok.inj h
    split at hc
    · rw [AlertCandidate.new] at hc
      split at hc
      · obtain rfl := Option.some.inj hc
        exact ⟨row, hrow, rfl, rfl⟩
      · cases hc
    · cases hc

theorem readRows_ok {rows : List AlertRow} : ∀ {page : List AlertRow}, (∀ row ∈ page, row ∈ rows) →
    ∀ {cs : List (AlertCandidate sha256)}, readRows sha256 page = .ok cs →
      cs.length = page.length ∧ ∀ c ∈ cs, OfRow rows c
  | [], _, cs, h => by
    obtain rfl := Except.ok.inj h
    exact ⟨rfl, fun c hc => absurd hc List.not_mem_nil⟩
  | row :: page, hpage, cs, h => by
    rw [readRows, bind_eq_ok] at h
    obtain ⟨c, hc, h⟩ := h
    rw [bind_eq_ok] at h
    obtain ⟨rest, hrest, h⟩ := h
    obtain rfl := Except.ok.inj h
    obtain ⟨hlength, hall⟩ := readRows_ok (fun r hr => hpage r (List.mem_cons_of_mem _ hr)) hrest
    refine ⟨by rw [List.length_cons, hlength, List.length_cons], fun d hd => ?_⟩
    rcases List.mem_cons.1 hd with rfl | hd
    · exact ofRow_of_readRow (hpage row List.mem_cons_self) hc
    · exact hall d hd

/-- A page has at most a hundred candidates. -/
theorem candidatePage_some {stores : Stores} {faults : ReadFaults} {limit offset : Value}
    {cs : List (AlertCandidate sha256)} (h : candidatePage sha256 stores faults limit offset = some cs) :
    cs.length ≤ 100 ∧ ∀ c ∈ cs, OfRow stores.alerts c := by
  unfold candidatePage at h
  split at h
  · rename_i limit offset
    have hread : Alerts.list sha256 faults.alerts limit offset stores.alerts = .ok cs := by
      generalize Alerts.list sha256 faults.alerts limit offset stores.alerts = r at h
      cases r with
      | error e => cases h
      | ok cs' => exact congrArg Except.ok (Option.some.inj h)
    by_cases hlimit : 1 ≤ limit ∧ limit ≤ Alerts.MAX_ALERT_LIST_LIMIT
    · by_cases hoffset : 0 ≤ offset ∧ offset ≤ Alerts.MAX_ALERT_LIST_OFFSET
      · rw [Alerts.list, if_neg (not_not.2 hlimit), if_neg (not_not.2 hoffset)] at hread
        obtain ⟨_, -, hread⟩ := bind_eq_ok.1 hread
        have hsub : ∀ row ∈ ((stores.alerts.insertionSort listedBefore).drop offset.toNat).take limit.toNat,
            row ∈ stores.alerts := fun row hrow =>
          (List.mem_insertionSort listedBefore).1 (List.mem_of_mem_drop (List.mem_of_mem_take hrow))
        obtain ⟨hlength, hall⟩ := readRows_ok hsub hread
        have htake := List.length_take_le limit.toNat ((stores.alerts.insertionSort listedBefore).drop offset.toNat)
        have hmax : limit ≤ 100 := hlimit.2
        exact ⟨by omega, hall⟩
      · rw [Alerts.list, if_neg (not_not.2 hlimit), if_pos hoffset] at hread
        cases hread
    · rw [Alerts.list, if_pos hlimit] at hread
      cases hread
  · cases h

theorem listItems_ok : ∀ {cs : List (AlertCandidate sha256)} {found : List (String × AnalystStateSnapshot)}
    {items : List (AnalystAlertListItem sha256)}, listItems cs found = .ok items →
      items.length ≤ cs.length ∧ ∀ i ∈ items, i.candidate ∈ cs
  | c :: cs, f :: found, items, h => by
    rw [listItems, bind_eq_ok] at h
    obtain ⟨i, hi, h⟩ := h
    rw [bind_eq_ok] at h
    obtain ⟨rest, hrest, h⟩ := h
    obtain rfl := Except.ok.inj h
    obtain ⟨hlength, hall⟩ := listItems_ok hrest
    have hcandidate : i.candidate = c := by
      rw [AnalystAlertListItem.new] at hi
      split at hi
      · rw [← Except.ok.inj hi]
      · cases hi
    refine ⟨Nat.succ_le_succ hlength, fun j hj => ?_⟩
    rcases List.mem_cons.1 hj with rfl | hj
    · exact hcandidate ▸ List.mem_cons_self
    · exact List.mem_cons_of_mem _ (hall j hj)
  | [], _, items, h => by
    obtain rfl : [] = items := by
      unfold listItems at h
      exact Except.ok.inj h
    exact ⟨Nat.le_refl 0, fun j hj => absurd hj List.not_mem_nil⟩
  | _ :: _, [], items, h => by
    obtain rfl : [] = items := by
      unfold listItems at h
      exact Except.ok.inj h
    exact ⟨Nat.zero_le _, fun j hj => absurd hj List.not_mem_nil⟩

theorem viewed_ok {α : Type} {x : Except AnalystStateError α} {a : α} : viewed x = .ok a ↔ x = .ok a := by
  cases x with
  | error e => exact ⟨nofun, nofun⟩
  | ok b => exact ⟨fun h => congrArg Except.ok (Except.ok.inj h), fun h => congrArg Except.ok (Except.ok.inj h)⟩

theorem intArg_ok {lo hi : ℤ} {e : AnalystStateError} {v : Value} (h : intArg lo hi e v = .ok ()) :
    ∃ n, v = .int n ∧ lo ≤ n ∧ n ≤ hi := by
  cases v with
  | int n =>
    rw [intArg] at h
    split at h
    · rename_i hn
      exact ⟨n, rfl, hn⟩
    · cases h
  | str s => cases h
  | other => cases h

/-- What an accepted page is made of. -/
theorem listAlerts_ok {stores : Stores} {faults : ReadFaults} {capability : Option AnalystCapability}
    {limit offset : Value} {payload : Json}
    (h : listAlerts sha256 printable stores faults capability limit offset = .ok payload) :
    ∃ (n m : ℤ) (items : List (AnalystAlertListItem sha256)), limit = .int n ∧ offset = .int m ∧
      (1 ≤ n ∧ n ≤ 100) ∧ (0 ≤ m ∧ m ≤ 1000000) ∧ items.length ≤ 100 ∧
      (∀ i ∈ items, OfRow stores.alerts i.candidate) ∧ payload = listPayload limit offset items := by
  rw [listAlerts, bind_eq_ok] at h
  obtain ⟨items, hitems, h⟩ := h
  obtain rfl := Except.ok.inj h
  rw [pageItems] at hitems
  simp only [bind_eq_ok, viewed_ok] at hitems
  obtain ⟨found, hfound, hitems⟩ := hitems
  unfold Analyst.listAlerts at hfound
  simp only [bind_eq_ok] at hfound
  obtain ⟨_, -, ⟨⟩, hlimit, ⟨⟩, hoffset, -⟩ := hfound
  obtain ⟨n, rfl, hn⟩ := intArg_ok hlimit
  obtain ⟨m, rfl, hm⟩ := intArg_ok hoffset
  obtain ⟨hlength, hmem⟩ := listItems_ok hitems
  refine ⟨n, m, items, rfl, rfl, hn, hm, ?_⟩
  cases hpage : candidatePage sha256 stores faults (.int n) (.int m) with
  | none =>
    rw [hpage, Option.getD_none] at hlength hmem
    exact ⟨hlength.trans (Nat.zero_le _), fun i hi => absurd (hmem i hi) List.not_mem_nil, rfl⟩
  | some cs =>
    obtain ⟨hmax, hrows⟩ := candidatePage_some hpage
    rw [hpage, Option.getD_some] at hlength hmem
    exact ⟨hlength.trans hmax, fun i hi => hrows _ (hmem i hi), rfl⟩

theorem storedCandidate_some {stores : Stores} {faults : ReadFaults} {id : String} {c : AlertCandidate sha256}
    (h : storedCandidate sha256 stores faults id = some (some c)) : OfRow stores.alerts c := by
  have hread : Alerts.get sha256 faults.alerts id stores.alerts = .ok (some c) := by
    unfold storedCandidate at h
    generalize Alerts.get sha256 faults.alerts id stores.alerts = r at h
    cases r with
    | error e => cases h
    | ok found => exact congrArg Except.ok (Option.some.inj h)
  by_cases hlong : 128 < id.length
  · rw [Alerts.get, if_pos hlong] at hread
    cases hread
  · rw [Alerts.get, if_neg hlong] at hread
    obtain ⟨_, -, hread⟩ := bind_eq_ok.1 hread
    split at hread
    · cases hread
    · rename_i row hrow
      obtain ⟨c', hc, hread⟩ := bind_eq_ok.1 hread
      obtain rfl := Option.some.inj (Except.ok.inj hread)
      exact ofRow_of_readRow (List.mem_of_find?_eq_some hrow) hc

/-- A history that was checked has as many events as the version of its state says. -/
theorem length_of_validateHistory {id : String} {s : AnalystStateSnapshot}
    {es : List (AnalystTransitionEvent printable)} (h : validateHistory id s es = .ok ()) : es.length ≤ 2 := by
  have hversion := (AnalystStateSnapshot.version_le s).2
  rw [validateHistory] at h
  split at h
  · cases h
  · rename_i hlength
    simp only [Bool.or_eq_true, bne_iff_ne, ne_eq, not_or, Decidable.not_not] at hlength
    omega

theorem alertDetail_some {stores : Stores} {faults : ReadFaults} {capability : Option AnalystCapability} {id : String}
    {d : AnalystAlertDetail sha256 printable}
    (h : alertDetail sha256 printable stores faults capability id = .ok (some d)) :
    OfRow stores.alerts d.candidate ∧ d.transitions.length ≤ 2 := by
  rw [alertDetail] at h
  simp only [bind_eq_ok, viewed_ok] at h
  obtain ⟨found, hfound, h⟩ := h
  split at h
  · rename_i c s es hstored
    obtain ⟨d', hd, h⟩ := bind_eq_ok.1 h
    obtain rfl := Option.some.inj (Except.ok.inj h)
    rw [AnalystAlertDetail.new] at hd
    split at hd
    · obtain rfl := Except.ok.inj hd
      refine ⟨storedCandidate_some hstored, ?_⟩
      unfold Analyst.getAlert at hfound
      simp only [bind_eq_ok] at hfound
      obtain ⟨_, -, _, -, hfound⟩ := hfound
      split at hfound
      · cases hfound
      · cases hfound
      · simp only [bind_eq_ok] at hfound
        obtain ⟨_, -, history, hread, hfound⟩ := hfound
        obtain rfl := Option.some.inj (Except.ok.inj hfound)
        rw [readHistory] at hread
        simp only [bind_eq_ok] at hread
        obtain ⟨_, -, _, -, ⟨⟩, hvalid, hread⟩ := hread
        cases Except.ok.inj hread
        exact length_of_validateHistory hvalid
    · cases hd
  · cases h

/-! ## The three answers -/

theorem isAlertCandidateId_of_same {id : String} {s : AnalystStateSnapshot} (h : id = s.alertCandidateId) :
    isAlertCandidateId id = true := h ▸ AnalystStateSnapshot.isAlertCandidateId s

theorem textLength_version : textLength (.str VIEW_SCHEMA_VERSION) = 23 := textLength_ofList (by decide)

theorem textLength_item_le (i : AnalystAlertListItem sha256)
    (hfloats : ShortFloats i.candidate.uncalibratedModelScore i.candidate.decisionThreshold) :
    textLength (.obj (item i.candidate.toAlertCandidateFields i.analystState.toSnapshotFields)) ≤ 1073 := by
  have hevidence := textLength_evidence_le i.candidate (isAlertCandidateId_of_same i.same) hfloats
  have hstate := textLength_state_le i.analystState
  have hkeys : keysLength ["detection_evidence", "analyst_state"] = 39 := by decide
  refine (textLength_obj_le _).trans ?_
  simp only [item, List.map_cons, List.map_nil, List.sum_cons, List.sum_nil, hkeys]
  omega

/-- The floats of every stored candidate are written in at most 24 characters, as `repr` does. -/
def ShortRows (rows : List AlertRow) : Prop :=
  ∀ row ∈ rows, ShortFloats row.uncalibratedModelScore row.decisionThreshold

theorem ShortRows.candidate {rows : List AlertRow} (h : ShortRows rows) {c : AlertCandidate sha256}
    (hc : OfRow rows c) : ShortFloats c.uncalibratedModelScore c.decisionThreshold := by
  obtain ⟨row, hrow, hscore, hthreshold⟩ := hc
  rw [← hscore, ← hthreshold]
  exact h row hrow

/-- A hundred items and the frame. -/
theorem listAlerts_fits {stores : Stores} (hfloats : ShortRows stores.alerts) {faults : ReadFaults}
    {capability : Option AnalystCapability} {limit offset : Value} {payload : Json}
    (h : listAlerts sha256 printable stores faults capability limit offset = .ok payload) : Delivered payload := by
  obtain ⟨n, m, items, rfl, rfl, hn, hm, hlength, hrows, rfl⟩ := listAlerts_ok h
  refine delivered_of_le ?_
  have hitems : textLength (.arr (items.map fun i =>
      .obj (item i.candidate.toAlertCandidateFields i.analystState.toSnapshotFields))) ≤ 2 + items.length * 1074 := by
    refine (textLength_arr_le (k := 1073) fun x hx => ?_).trans (by rw [List.length_map])
    obtain ⟨i, hi, rfl⟩ := List.mem_map.1 hx
    exact textLength_item_le i (hfloats.candidate (hrows i hi))
  have hlimit : textLength (.int n) ≤ 3 := by
    obtain ⟨k, rfl⟩ := Int.eq_ofNat_of_zero_le (show 0 ≤ n by omega)
    exact textLength_nat_le (by decide) (by omega)
  have hoffset : textLength (.int m) ≤ 7 := by
    obtain ⟨k, rfl⟩ := Int.eq_ofNat_of_zero_le hm.1
    exact textLength_nat_le (by decide) (by omega)
  have hkeys : keysLength ["schema_version", "limit", "offset", "items"] = 46 := by decide
  have hbound : items.length * 1074 ≤ 107400 := Nat.mul_le_mul_right 1074 hlength
  refine Nat.lt_of_le_of_lt (textLength_obj_le _) ?_
  simp only [number, List.map_cons, List.map_nil, List.sum_cons, List.sum_nil, hkeys, textLength_version]
  simp only [MAX_RESPONSE_BYTES]
  omega

theorem transition_fits {registry : Registry} {capability : Option AnalystCapability} {id : String}
    {expectedVersion toState transitionId rationale : Value} {env : CallEnv} {w : AnalystWorld} {payload : Json}
    (h : (transition printable registry capability id expectedVersion toState transitionId rationale env w).1 =
      .ok payload) : Delivered payload := by
  unfold transition at h
  dsimp only at h
  cases hdone : (Analyst.transition printable
      ⟨registry, capability, .str id, expectedVersion, toState, transitionId, rationale⟩ env w).1 with
  | error e =>
    rw [hdone] at h
    cases h
  | ok result =>
    rw [hdone] at h
    obtain rfl := Except.ok.inj h
    have hid : isAlertCandidateId id = true := by
      unfold Analyst.transition at hdone
      split at hdone
      · cases hdone
      · rename_i actorId request hprepare
        unfold prepare checkArgs at hprepare
        simp only [bind_eq_ok] at hprepare
        obtain ⟨_, -, _, ⟨idArg, hidArg, -⟩, -⟩ := hprepare
        rw [textArg] at hidArg
        split at hidArg
        · rename_i hok
          exact hok
        · cases hidArg
    obtain ⟨hplain, hlength⟩ := isPlain_of_isAlertCandidateId hid
    have hdisposition : textLength (.str (dispositionText result.disposition)) ≤ 10 := by
      cases result.disposition <;> decide
    have hstate := textLength_state_le result.analystState
    have hevent := textLength_event_le result.transition
    have hkeys : keysLength ["schema_version", "disposition", "alert_candidate_id", "analyst_state",
        "analyst_transition"] = 94 := by decide
    refine delivered_of_le (Nat.lt_of_le_of_lt (textLength_obj_le _) ?_)
    simp only [List.map_cons, List.map_nil, List.sum_cons, List.sum_nil, hkeys, textLength_version,
      textLength_str hplain]
    simp only [MAX_RESPONSE_BYTES]
    omega

/-- The members of a detail view that come from the collaborators. -/
def Collaborators.added (sha256 : Bytes → String) (others : Collaborators) (id : String)
    (incident : Option IncidentMeta) : List (String × Json) :=
  ("incident_correlation", incidentCorrelation sha256 id incident) :: others.members id

/-- What the collaborators add for an alert takes at most 120000 characters. -/
def Collaborators.Small (sha256 : Bytes → String) (others : Collaborators) (id : String) : Prop :=
  ∀ incident, others.incident id = .ok incident → textLength (.obj (others.added sha256 id incident)) ≤ 120000

theorem detail_fits (hsha : ∀ b, isSha256 (sha256 b) = true) {stores : Stores} (hfloats : ShortRows stores.alerts)
    {faults : ReadFaults} {others : Collaborators} {capability : Option AnalystCapability} {id : String}
    {payload : Json} (hsmall : others.Small sha256 id)
    (h : detailView sha256 printable stores faults others capability id = .ok (some payload)) : Delivered payload := by
  rw [detailView] at h
  obtain ⟨result, hresult, h⟩ := bind_eq_ok.1 h
  obtain ⟨members, rfl, rfl⟩ := Option.map_eq_some_iff.1 (Except.ok.inj h)
  rw [getAlert] at hresult
  obtain ⟨found, hfound, hresult⟩ := bind_eq_ok.1 hresult
  cases found with
  | none => cases hresult
  | some d =>
    obtain ⟨incident, hincident, hresult⟩ := bind_eq_ok.1 hresult
    obtain rfl := Option.some.inj (Except.ok.inj hresult)
    obtain ⟨hrow, hhistory⟩ := alertDetail_some hfound
    have hshort := hfloats.candidate hrow
    have hid := isAlertCandidateId_of_same d.same
    have hadded := hsmall incident hincident
    have hevidence := textLength_evidence_le d.candidate hid hshort
    have hstate := textLength_state_le d.analystState
    have hexplanation := textLength_explanationFor_le hsha hid hshort.1
    have hevents : textLength (.arr (d.transitions.map fun e => event e.toEventFields)) ≤ 2 + 2 * 3337 := by
      refine (textLength_arr_le (k := 3336) fun x hx => ?_).trans ?_
      · obtain ⟨e, -, rfl⟩ := List.mem_map.1 hx
        exact textLength_event_le e
      · rw [List.length_map]
        omega
    have hkeys : keysLength ["schema_version", "detection_evidence", "analyst_state", "analyst_history",
        "explanation"] = 91 := by decide
    have hsplit : augmentAlertDetail others id (detailMembers d (incidentCorrelation sha256 id incident)) =
        .obj ([("schema_version", .str VIEW_SCHEMA_VERSION),
            ("detection_evidence", evidence d.candidate.toAlertCandidateFields),
            ("analyst_state", state d.analystState.toSnapshotFields),
            ("analyst_history", .arr (d.transitions.map fun e => event e.toEventFields)),
            ("explanation", explanationFor sha256 d.candidate.toAlertCandidateFields)] ++
          others.added sha256 id incident) := rfl
    have hframe : textLength (.obj [("schema_version", .str VIEW_SCHEMA_VERSION),
        ("detection_evidence", evidence d.candidate.toAlertCandidateFields),
        ("analyst_state", state d.analystState.toSnapshotFields),
        ("analyst_history", .arr (d.transitions.map fun e => event e.toEventFields)),
        ("explanation", explanationFor sha256 d.candidate.toAlertCandidateFields)]) ≤ 9400 := by
      refine (textLength_obj_le _).trans ?_
      simp only [List.map_cons, List.map_nil, List.sum_cons, List.sum_nil, hkeys, textLength_version]
      omega
    rw [hsplit]
    refine delivered_of_le (Nat.lt_of_le_of_lt (textLength_obj_append_le _ _) ?_)
    simp only [MAX_RESPONSE_BYTES]
    omega

/-- Nothing configured adds little: the singleton incident. -/
theorem small_of_none (hsha : ∀ b, isSha256 (sha256 b) = true) (id : String) :
    Collaborators.Small sha256 {} id := by
  intro incident hincident
  obtain rfl : none = incident := Except.ok.inj hincident
  have hsingleton := textLength_singleton_le hsha id
  have hkeys : keysLength ["incident_correlation"] = 24 := by decide
  refine (textLength_obj_le _).trans ?_
  simp only [Collaborators.added, Collaborators.members, Option.bind_none, Option.map_none, Option.toList_none,
    List.append_nil, List.map_cons, List.map_nil, List.sum_cons, List.sum_nil, hkeys]
  omega

/-- No successful answer over these stores is replaced, whoever asks and whatever SQLite does. -/
structure AnswersDelivered (sha256 : Bytes → String) (printable : Char → Bool) (stores : Stores) : Prop where
  page : ∀ faults capability limit offset payload,
    listAlerts sha256 printable stores faults capability limit offset = .ok payload → Delivered payload
  /-- In particular when the transition was just committed. -/
  transition : ∀ registry capability id expectedVersion toState transitionId rationale env w payload,
    (transition printable registry capability id expectedVersion toState transitionId rationale env w).1 = .ok payload →
      Delivered payload
  detail : ∀ faults others capability id payload, Collaborators.Small sha256 others id →
    detailView sha256 printable stores faults others capability id = .ok (some payload) → Delivered payload
  /-- A detail view to which nothing is configured. -/
  alone : ∀ id, Collaborators.Small sha256 {} id

/-- **Pages, transition results and detail views fit**, as long as the collaborators of a detail view add at most
120000 characters. -/
theorem answers_delivered (printable : Char → Bool) (hsha : ∀ b, isSha256 (sha256 b) = true) (stores : Stores)
    (hfloats : ShortRows stores.alerts) : AnswersDelivered sha256 printable stores where
  page _ _ _ _ _ h := listAlerts_fits hfloats h
  transition _ _ _ _ _ _ _ _ _ _ h := transition_fits h
  detail _ _ _ _ _ hsmall h := detail_fits hsha hfloats hsmall h
  alone := small_of_none hsha

end

/-! ## A large enrichment -/

theorem isSha256_retrySha256 (b : Bytes) : isSha256 (retrySha256 b) = true := by
  unfold retrySha256
  split <;> decide

/-- One stored alert, which nobody has looked at. -/
def untouched : Stores where
  registry := sampleRegistry
  alerts := [retriedAlert.values]
  states := {}

theorem answers_delivered_untouched : AnswersDelivered retrySha256 Char.isAlphanum untouched :=
  answers_delivered Char.isAlphanum isSha256_retrySha256 untouched (by
    intro row hrow
    rw [List.mem_singleton.1 hrow]
    have hscore : (readReal (.finite (3 / 4) "0.75")).repr = "0.75" := by decide +kernel
    have hthreshold : (readReal (.finite (1 / 2) "0.5")).repr = "0.5" := by decide +kernel
    exact ⟨hscore ▸ (by decide : "0.75".length ≤ 24), hthreshold ▸ (by decide : "0.5".length ≤ 24)⟩)

def reader : AnalystCapability := ⟨"analyst-1", .analyst, "7f0c2b1e-58d4-4a3f-9c61-2e8d5a7b9043", sampleToken⟩

def longText : String := String.ofList (List.replicate MAX_RESPONSE_BYTES 'x')

theorem longText_long : MAX_RESPONSE_BYTES < textLength (.str longText) := by
  have hplain : ∀ n, (List.replicate n 'x').all isPlain = true := fun n =>
    List.all_eq_true.2 fun c hc => by rw [List.eq_of_mem_replicate hc]; rfl
  have hlength : ∀ n, n < textLength (.str (String.ofList (List.replicate n 'x'))) := fun n => by
    rw [textLength_ofList (hplain n), List.length_replicate]
    omega
  exact hlength MAX_RESPONSE_BYTES

/-- A dictionary of enrichments with one long text. -/
def enriched : Collaborators where
  threatIntelEnricher := some fun _ => some (.str longText)

theorem retriedId_valid : isAlertCandidateId retriedAlert.alertCandidateId = true :=
  isAlertCandidateId_of_candidate isSha256_retrySha256 retriedAlert

def untouchedDetail : AnalystAlertDetail retrySha256 Char.isAlphanum where
  candidate := retriedAlert.readBack
  analystState := newSnapshot retriedId_valid
  transitions := []
  same := rfl
  events := fun _ h => absurd h List.not_mem_nil

theorem alertDetail_untouched : alertDetail retrySha256 Char.isAlphanum untouched {} (some reader)
    retriedAlert.alertCandidateId = .ok (some untouchedDetail) := by
  have hstored : storedCandidate retrySha256 untouched {} retriedAlert.alertCandidateId =
      some (some retriedAlert.readBack) := by
    have hlength := retriedAlert.length_id_of_digest length_retrySha256
    rw [storedCandidate, Alerts.get, if_neg (Nat.not_lt.2 hlength)]
    have hfind : untouched.alerts.find? (fun row => row.alertCandidateId == retriedAlert.alertCandidateId) =
        some retriedAlert.values := List.find?_cons_of_pos (beq_self_eq_true _)
    rw [hfind]
    simp only [Alerts.raiseReadFault, readRow, candidateFromRow_values]
    rfl
  have hread : Analyst.getAlert Char.isAlphanum sampleRegistry (some reader) (.str retriedAlert.alertCandidateId) false
      .none ⟨[retriedAlert.alertCandidateId], {}⟩ = .ok (some (newSnapshot retriedId_valid, [])) := by
    have hrequire : sampleRegistry.require false (some reader) = .ok "analyst-1" := by decide +kernel
    have hnone : HistoryIs retriedAlert.alertCandidateId {} ([] : List (AnalystTransitionEvent Char.isAlphanum)) :=
      ⟨rfl, trivial, rfl⟩
    have hhistory := readHistory_eq hnone retriedId_valid
    unfold Analyst.getAlert
    rw [hrequire, ok_bind, textArg, dif_pos retriedId_valid, ok_bind, getCandidate, if_neg Bool.false_ne_true,
      if_pos (List.mem_singleton_self _), hhistory]
    rfl
  have hnew : AnalystAlertDetail.new retriedAlert.readBack (newSnapshot retriedId_valid) [] = .ok untouchedDetail :=
    dif_pos ⟨untouchedDetail.same, untouchedDetail.events⟩
  rw [alertDetail, hstored]
  refine bind_eq_ok.2 ⟨_, viewed_ok.2 hread, ?_⟩
  dsimp only
  rw [hnew]
  rfl

/-- The detail view of the untouched alert, without an incident repository. -/
def untouchedView (others : Collaborators) : Json := augmentAlertDetail others retriedAlert.alertCandidateId
  (detailMembers untouchedDetail (incidentCorrelation retrySha256 retriedAlert.alertCandidateId none))

theorem detailView_untouched {others : Collaborators} (h : others.incidentRepository = none) :
    detailView retrySha256 Char.isAlphanum untouched {} others (some reader) retriedAlert.alertCandidateId =
      .ok (some (untouchedView others)) := by
  have hincident : others.incident retriedAlert.alertCandidateId = .ok none := by
    rw [Collaborators.incident, h]
  rw [detailView, getAlert, alertDetail_untouched, ok_bind]
  dsimp only
  rw [hincident]
  rfl

theorem length_untouchedView {others : Collaborators} {text : String}
    (h : others.members retriedAlert.alertCandidateId = [("threat_intel_enrichment", .str text)]) :
    textLength (.str text) < (responseBody (untouchedView others)).length := by
  rw [length_responseBody, untouchedView, augmentAlertDetail, h, JsonText.textLength_obj, List.map_append,
    List.sum_append, List.map_singleton, List.sum_singleton]
  dsimp only
  omega

/-- **A detail view is replaced by 503** when an enrichment alone is as long as a response may be. -/
theorem enrichment_replaces_detail :
    detailView retrySha256 Char.isAlphanum untouched {} enriched (some reader) retriedAlert.alertCandidateId =
      .ok (some (untouchedView enriched)) ∧
    MAX_RESPONSE_BYTES < (responseBody (untouchedView enriched)).length ∧
    response .ok (untouchedView enriched) = message .unavailable UNAVAILABLE_BODY := by
  have hlong : MAX_RESPONSE_BYTES < (responseBody (untouchedView enriched)).length :=
    Nat.lt_trans longText_long (length_untouchedView rfl)
  exact ⟨detailView_untouched rfl, hlong, if_pos hlong⟩

end ThreatFusion.AnalystView
