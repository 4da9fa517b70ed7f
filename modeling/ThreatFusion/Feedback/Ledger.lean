import ThreatFusion.Analyst.Schema
import ThreatFusion.Lib.Result
import ThreatFusion.Py.Float
import Mathlib.Tactic.NormNum.Ineq
/-
# The retraining feedback ledger (`db/retraining_feedback_ledger.py`)

| here | there |
| --- | --- |
| `Sight`, `verifyFrozenModelsUnmodified` | what one call of `verify_frozen_models_unmodified` (:68-98) finds, and the call |
| `validate`       | the parameter checks of `record_feedback` (:252-272) |
| `transact`       | its transaction (:279-340) |
| `writeFeedback`  | everything up to the end of the transaction |
| `recordFeedback` | `record_feedback`, with the check after the write (:343-355) |

A call sees the artifacts twice, at two moments: what it finds there is part of its input, and so is what SQLite
does. A text may hold lone surrogates (`none`), which `sqlite3` cannot bind.
-/
namespace ThreatFusion.Feedback
open Py
open Analyst (validActorId)

def FROZEN_RF_EXPECTED_SHA256 : String := "bd2853a6f9d7f65038cc8bd2da282a2221cb73bda1f1e4c1c714098e8bfcffa9"
def FROZEN_AE_EXPECTED_SHA256 : String := "c8675d13869308babf41f269f9437d083daf827781293357e1749d4df0af4b23"
def ALLOWED_VERIFIED_OUTCOMES : List String := ["confirmed_threat", "false_positive"]

inductive FeedbackError where
  | invalidTransitionRequestId | invalidAlertCandidateId | invalidDetectorDecision | invalidStoredScore
  | invalidAnalystVerifiedOutcome | invalidActorId | modelArtifactNotFound (name : String) | frozenRfDigestMismatch
  | frozenAeDigestMismatch | ledgerUnavailable | conflictingFeedbackRetry | feedbackInsertFailed
  | onlineWeightDriftDetected
deriving DecidableEq

def FeedbackError.code : FeedbackError → String
  | .invalidTransitionRequestId => "invalid_transition_request_id"
  | .invalidAlertCandidateId => "invalid_alert_candidate_id"
  | .invalidDetectorDecision => "invalid_detector_decision"
  | .invalidStoredScore => "invalid_stored_score"
  | .invalidAnalystVerifiedOutcome => "invalid_analyst_verified_outcome"
  | .invalidActorId => "invalid_actor_id"
  | .modelArtifactNotFound name => "model_artifact_not_found:" ++ name
  | .frozenRfDigestMismatch => "frozen_rf_digest_mismatch"
  | .frozenAeDigestMismatch => "frozen_ae_digest_mismatch"
  | .ledgerUnavailable => "ledger_unavailable"
  | .conflictingFeedbackRetry => "conflicting_feedback_retry"
  | .feedbackInsertFailed => "feedback_insert_failed"
  | .onlineWeightDriftDetected => "online_weight_drift_detected"

/-- What a call raises: its own error, or one of Python's that it does not catch. -/
inductive FeedbackRaised where
  | feedback (e : FeedbackError)
  | overflow | type | encoding | os
deriving DecidableEq

/-! ## The frozen artifacts -/

/-- What reading an artifact gives: `is_file` is false, the file cannot be read, or its bytes. -/
inductive Reading where
  | missing | os | bytes (b : Bytes)
deriving DecidableEq

structure Sight where
  rfExists : Bool
  rfAliasExists : Bool
  rf : Reading
  aeExists : Bool
  aeAliasExists : Bool
  ae : Reading
deriving DecidableEq

def computeSha256 (sha256 : Bytes → String) (name : String) : Reading → Except FeedbackRaised String
  | .missing => .error (.feedback (.modelArtifactNotFound name))
  | .os => .error .os
  | .bytes b => .ok (sha256 b)

def verifyFrozenModelsUnmodified (sha256 : Bytes → String) (s : Sight) : Except FeedbackRaised (String × String) := do
  let rfName := if !s.rfExists && s.rfAliasExists then "rf_unsw_pipeline.joblib" else "random_forest.joblib"
  let aeName := if !s.aeExists && s.aeAliasExists then "autoencoder_unsw_v2.pt" else "autoencoder_state.pt"
  let rf ← computeSha256 sha256 rfName s.rf
  if rf ≠ FROZEN_RF_EXPECTED_SHA256 then .error (.feedback .frozenRfDigestMismatch)
  else
    let ae ← computeSha256 sha256 aeName s.ae
    if ae ≠ FROZEN_AE_EXPECTED_SHA256 then .error (.feedback .frozenAeDigestMismatch)
    else .ok (rf, ae)

/-! ## Arguments -/

/-- An argument as the checks see it. -/
inductive Arg where
  | text (t : Option String)
  | other (hashable : Bool)
deriving DecidableEq

/-- What `float(stored_score)` gives. -/
inductive Score where
  | float (x : PyFloat)
  | refused | overflow
deriving DecidableEq

/-- `recorded_at_utc`: falsy, a value that SQLite stores as this text, one that it refuses, or one that cannot be
bound. -/
inductive Stamp where
  | absent | text (s : String) | refused | unbound (e : FeedbackRaised)
deriving DecidableEq

structure FeedbackArgs where
  transitionRequestId : Arg
  alertCandidateId : Arg
  storedDetectorDecision : Arg
  storedScore : Score
  analystVerifiedOutcome : Arg
  actorId : Arg
  recordedAtUtc : Stamp
deriving DecidableEq

structure Validated where
  transitionRequestId : Option String
  alertCandidateId : Option String
  storedDetectorDecision : Option String
  scoreVal : ℚ
  analystVerifiedOutcome : String
  actorId : String
deriving DecidableEq

/-- `isinstance(x, str) and x.strip()`, or the error. -/
def nonBlank (e : FeedbackError) : Arg → Except FeedbackRaised (Option String)
  | .text t => if t.any isBlank then .error (.feedback e) else .ok t
  | .other _ => .error (.feedback e)

def scoreValue : Score → Except FeedbackRaised ℚ
  | .float (.finite v _) => if 0 ≤ v ∧ v ≤ 1 then .ok v else .error (.feedback .invalidStoredScore)
  | .float (.nonFinite _) => .error (.feedback .invalidStoredScore)
  | .refused => .error (.feedback .invalidStoredScore)
  | .overflow => .error .overflow

/-- `x in ALLOWED_VERIFIED_OUTCOMES`, which raises on a value that has no hash. -/
def verifiedOutcome : Arg → Except FeedbackRaised String
  | .text (some s) =>
    if s ∈ ALLOWED_VERIFIED_OUTCOMES then .ok s else .error (.feedback .invalidAnalystVerifiedOutcome)
  | .text none | .other true => .error (.feedback .invalidAnalystVerifiedOutcome)
  | .other false => .error .type

def feedbackActor : Arg → Except FeedbackRaised String
  | .text (some s) => if validActorId s then .ok s else .error (.feedback .invalidActorId)
  | _ => .error (.feedback .invalidActorId)

def validate (a : FeedbackArgs) : Except FeedbackRaised Validated := do
  let transitionRequestId ← nonBlank .invalidTransitionRequestId a.transitionRequestId
  let alertCandidateId ← nonBlank .invalidAlertCandidateId a.alertCandidateId
  let storedDetectorDecision ← nonBlank .invalidDetectorDecision a.storedDetectorDecision
  let scoreVal ← scoreValue a.storedScore
  let analystVerifiedOutcome ← verifiedOutcome a.analystVerifiedOutcome
  let actorId ← feedbackActor a.actorId
  return ⟨transitionRequestId, alertCandidateId, storedDetectorDecision, scoreVal, analystVerifiedOutcome, actorId⟩

/-! ## The transaction -/

structure FeedbackRow where
  transitionRequestId : String
  alertCandidateId : String
  storedDetectorDecision : String
  storedScore : ℚ
  analystVerifiedOutcome : String
  actorId : String
  recordedAtUtc : String
  rfModelSha256 : String
  aeModelSha256 : String
deriving DecidableEq

/-- The double `1e-6`. -/
def SCORE_TOLERANCE : ℚ := 4722366482869645 / 4722366482869645213696

/-- The columns of a stored row that a repeat is compared with. -/
def idempotent (row : FeedbackRow) (v : Validated) : Bool :=
  some row.alertCandidateId == v.alertCandidateId && some row.storedDetectorDecision == v.storedDetectorDecision &&
    decide (|roundDouble (row.storedScore - v.scoreVal)| < SCORE_TOLERANCE) &&
    row.analystVerifiedOutcome == v.analystVerifiedOutcome && row.actorId == v.actorId

/-- What SQLite does to one call: it fails to connect, or at the first or the last statement of the transaction. -/
inductive FeedbackFault where
  | none | connect | first | last
deriving DecidableEq

/-- How the transaction ended. -/
inductive Written where
  | existing (recordedAtUtc : String)
  | created (row : FeedbackRow)
deriving DecidableEq

/-- The values of the `INSERT`, bound in their order. -/
def bindRow (v : Validated) (id : String) (now : String) (stamp : Stamp) (digests : String × String) :
    Except FeedbackRaised FeedbackRow :=
  match v.alertCandidateId, v.storedDetectorDecision, stamp with
  | some alert, some decision, .absent =>
    .ok ⟨id, alert, decision, v.scoreVal, v.analystVerifiedOutcome, v.actorId, now, digests.1, digests.2⟩
  | some alert, some decision, .text t =>
    .ok ⟨id, alert, decision, v.scoreVal, v.analystVerifiedOutcome, v.actorId, t, digests.1, digests.2⟩
  | some _, some _, .refused => .error (.feedback .feedbackInsertFailed)
  | some _, some _, .unbound e => .error e
  | _, _, _ => .error .encoding

def transact (rows : List FeedbackRow) (v : Validated) (now : String) (stamp : Stamp) (digests : String × String)
    (fault : FeedbackFault) : Except FeedbackRaised Written × List FeedbackRow :=
  if fault = .connect then (.error (.feedback .ledgerUnavailable), rows)
  else if fault = .first then (.error (.feedback .feedbackInsertFailed), rows)
  else match v.transitionRequestId with
    | none => (.error .encoding, rows)
    | some id => match rows.find? (fun row => row.transitionRequestId == id) with
      | some row =>
        if fault = .last then (.error (.feedback .feedbackInsertFailed), rows)
        else if idempotent row v then (.ok (.existing row.recordedAtUtc), rows)
        else (.error (.feedback .conflictingFeedbackRetry), rows)
      | none => match bindRow v id now stamp digests with
        | .error e => (.error e, rows)
        | .ok row =>
          if fault = .last then (.error (.feedback .feedbackInsertFailed), rows)
          else (.ok (.created row), rows ++ [row])

/-! ## A call -/

structure FeedbackCall where
  args : FeedbackArgs
  /-- `datetime.now(UTC).isoformat()` -/
  now : String
  before : Sight
  fault : FeedbackFault
  after : Sight
deriving DecidableEq

inductive FeedbackStatus where
  | created | existing
deriving DecidableEq

structure FeedbackResult where
  status : FeedbackStatus
  transitionRequestId : Arg
  alertCandidateId : Arg
  analystVerifiedOutcome : Arg
  recordedAtUtc : String
  modelSha256 : Option (String × String)
deriving DecidableEq

section
variable (sha256 : Bytes → String)

def writeFeedback (rows : List FeedbackRow) (c : FeedbackCall) : Except FeedbackRaised Written × List FeedbackRow :=
  match validate c.args with
  | .error e => (.error e, rows)
  | .ok v => match verifyFrozenModelsUnmodified sha256 c.before with
    | .error e => (.error e, rows)
    | .ok digests => transact rows v c.now c.args.recordedAtUtc digests c.fault

def FeedbackCall.result (c : FeedbackCall) (status : FeedbackStatus) (recordedAtUtc : String)
    (digests : Option (String × String)) : FeedbackResult :=
  ⟨status, c.args.transitionRequestId, c.args.alertCandidateId, c.args.analystVerifiedOutcome, recordedAtUtc, digests⟩

/-- After the transaction. -/
def finishFeedback (c : FeedbackCall) : Written → Except FeedbackRaised FeedbackResult
  | .existing recordedAtUtc => .ok (c.result .existing recordedAtUtc none)
  | .created row => do
    let post ← verifyFrozenModelsUnmodified sha256 c.after
    if row.rfModelSha256 ≠ post.1 ∨ row.aeModelSha256 ≠ post.2 then .error (.feedback .onlineWeightDriftDetected)
    else .ok (c.result .created row.recordedAtUtc (some post))

def recordFeedback (rows : List FeedbackRow) (c : FeedbackCall) :
    Except FeedbackRaised FeedbackResult × List FeedbackRow :=
  let written := writeFeedback sha256 rows c
  (written.1 >>= finishFeedback sha256 c, written.2)

end

/-! ## What the parts do -/

/-- An accepted check saw the approved digests. -/
theorem verifyFrozenModels_ok {sha256 : Bytes → String} {s : Sight} {digests : String × String}
    (h : verifyFrozenModelsUnmodified sha256 s = .ok digests) :
    digests = (FROZEN_RF_EXPECTED_SHA256, FROZEN_AE_EXPECTED_SHA256) := by
  unfold verifyFrozenModelsUnmodified at h
  dsimp only at h
  obtain ⟨rf, -, h⟩ := Except.bind_eq_ok.1 h
  split at h
  · cases h
  · rename_i hrf
    obtain ⟨ae, -, h⟩ := Except.bind_eq_ok.1 h
    split at h
    · cases h
    · rename_i hae
      cases h
      rw [not_not.1 hrf, not_not.1 hae]

theorem scoreValue_bounds {x : Score} {v : ℚ} (h : scoreValue x = .ok v) : 0 ≤ v ∧ v ≤ 1 := by
  unfold scoreValue at h
  split at h
  · split at h
    · cases h
      assumption
    · cases h
  all_goals cases h

theorem bindRow_columns {v : Validated} {id now : String} {stamp : Stamp} {digests : String × String} {row : FeedbackRow}
    (h : bindRow v id now stamp digests = .ok row) :
    row.transitionRequestId = id ∧ some row.alertCandidateId = v.alertCandidateId ∧
      some row.storedDetectorDecision = v.storedDetectorDecision ∧ row.storedScore = v.scoreVal ∧
      row.analystVerifiedOutcome = v.analystVerifiedOutcome ∧ row.actorId = v.actorId ∧
      (row.rfModelSha256, row.aeModelSha256) = digests := by
  unfold bindRow at h
  split at h
  · rename_i halert hdecision
    cases h
    exact ⟨rfl, halert.symm, hdecision.symm, rfl, rfl, rfl, rfl⟩
  · rename_i halert hdecision
    cases h
    exact ⟨rfl, halert.symm, hdecision.symm, rfl, rfl, rfl, rfl⟩
  all_goals cases h

/-- A row agrees with the arguments that it was made of. -/
theorem idempotent_of_bindRow {v : Validated} {id now : String} {stamp : Stamp} {digests : String × String}
    {row : FeedbackRow} (h : bindRow v id now stamp digests = .ok row) : idempotent row v = true := by
  obtain ⟨-, halert, hdecision, hscore, houtcome, hactor, -⟩ := bindRow_columns h
  have hclose : |roundDouble (row.storedScore - v.scoreVal)| < SCORE_TOLERANCE := by
    rw [hscore, sub_self, roundDouble, if_pos rfl, abs_zero]
    norm_num [SCORE_TOLERANCE]
  simp only [idempotent, halert, hdecision, houtcome, hactor, beq_self_eq_true, decide_eq_true hclose, Bool.and_self]

section
variable {sha256 : Bytes → String} {rows : List FeedbackRow}

/-- The call at an identifier that is stored, when nothing fails before. -/
theorem writeFeedback_stored {c : FeedbackCall} {v : Validated} {digests : String × String} {row : FeedbackRow}
    (hv : validate c.args = .ok v) (hbefore : verifyFrozenModelsUnmodified sha256 c.before = .ok digests)
    (hfault : c.fault = .none) (hid : v.transitionRequestId = some row.transitionRequestId)
    (hfind : rows.find? (fun r => r.transitionRequestId == row.transitionRequestId) = some row) :
    writeFeedback sha256 rows c =
      (if idempotent row v then .ok (.existing row.recordedAtUtc) else .error (.feedback .conflictingFeedbackRetry),
        rows) := by
  rw [writeFeedback, hv]
  dsimp only
  rw [hbefore]
  dsimp only
  rw [transact, hfault, if_neg (by decide), if_neg (by decide), hid]
  dsimp only
  rw [hfind]
  dsimp only
  rw [if_neg (by decide)]
  cases idempotent row v <;> rfl

/-- The row that a call may store. -/
structure Made (sha256 : Bytes → String) (c : FeedbackCall) (row : FeedbackRow) : Prop where
  made : ∃ v, validate c.args = .ok v ∧ v.transitionRequestId = some row.transitionRequestId ∧ idempotent row v = true
  before : verifyFrozenModelsUnmodified sha256 c.before = .ok (row.rfModelSha256, row.aeModelSha256)

/-- What a call does to the ledger before its last check: it raises, it finds its row, or it adds it. -/
theorem writeFeedback_cases (sha256 : Bytes → String) (rows : List FeedbackRow) (c : FeedbackCall) :
    (∃ e, writeFeedback sha256 rows c = (.error e, rows)) ∨
    (∃ v row, validate c.args = .ok v ∧ row ∈ rows ∧ v.transitionRequestId = some row.transitionRequestId ∧
      idempotent row v = true ∧ writeFeedback sha256 rows c = (.ok (.existing row.recordedAtUtc), rows)) ∨
    (∃ row, Made sha256 c row ∧ row.transitionRequestId ∉ rows.map (·.transitionRequestId) ∧
      writeFeedback sha256 rows c = (.ok (.created row), rows ++ [row])) := by
  cases hv : validate c.args with
  | error e => exact .inl ⟨e, by rw [writeFeedback, hv]⟩
  | ok v =>
    cases hbefore : verifyFrozenModelsUnmodified sha256 c.before with
    | error e => exact .inl ⟨e, by rw [writeFeedback, hv]; dsimp only; rw [hbefore]⟩
    | ok digests =>
      have hwrite : writeFeedback sha256 rows c = transact rows v c.now c.args.recordedAtUtc digests c.fault := by
        rw [writeFeedback, hv]
        dsimp only
        rw [hbefore]
      rw [hwrite]
      unfold transact
      split
      · exact .inl ⟨_, rfl⟩
      · split
        · exact .inl ⟨_, rfl⟩
        · cases hid : v.transitionRequestId with
          | none => exact .inl ⟨_, rfl⟩
          | some id =>
            dsimp only
            cases hfind : rows.find? (fun row => row.transitionRequestId == id) with
            | some row =>
              dsimp only
              split
              · exact .inl ⟨_, rfl⟩
              · have hbeq := List.find?_some (p := fun r : FeedbackRow => r.transitionRequestId == id) hfind
                have hkey : row.transitionRequestId = id := beq_iff_eq.1 hbeq
                split
                · rename_i hsame
                  exact .inr (.inl ⟨v, row, rfl, List.mem_of_find?_eq_some hfind, by rw [hid, hkey], hsame, rfl⟩)
                · exact .inl ⟨_, rfl⟩
            | none =>
              dsimp only
              cases hrow : bindRow v id c.now c.args.recordedAtUtc digests with
              | error e => exact .inl ⟨_, rfl⟩
              | ok row =>
                dsimp only
                split
                · exact .inl ⟨_, rfl⟩
                · obtain ⟨hkey, -, -, -, -, -, hdigests⟩ := bindRow_columns hrow
                  refine .inr (.inr ⟨row, ⟨⟨v, hv, by rw [hid, hkey], idempotent_of_bindRow hrow⟩, ?_⟩, ?_, rfl⟩)
                  · rw [hbefore, hdigests]
                  · rw [hkey]
                    intro hmem
                    obtain ⟨r, hr, hrid⟩ := List.mem_map.1 hmem
                    exact List.find?_eq_none.1 hfind r hr (beq_iff_eq.2 hrid)

end
end ThreatFusion.Feedback
