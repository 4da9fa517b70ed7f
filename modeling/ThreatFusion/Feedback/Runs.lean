import ThreatFusion.Feedback.Ledger
import ThreatFusion.Lib.AppendOnly
import ThreatFusion.Lib.Grouping
/-
# Runs of the feedback ledger

The transaction of a call holds the write lock, and outside it a call only looks at the artifacts; so a run is a
list of calls in the order of their transactions, each with what it finds before and after.

The machine replies with how the transaction ended and with what the caller gets: a call whose last check fails
has stored its row and raises.

* `feedback_grows`: the ledger is an append-only table.
* `feedback_run`: what every run does.
-/
namespace ThreatFusion.Feedback
open Py Machine Grouping AppendOnly

abbrev FeedbackReply := Except FeedbackRaised Written × Except FeedbackRaised FeedbackResult

section
variable {sha256 : Bytes → String}

def feedbackStep (sha256 : Bytes → String) (rows : List FeedbackRow) (c : FeedbackCall) :
    FeedbackReply × List FeedbackRow :=
  (((writeFeedback sha256 rows c).1, (recordFeedback sha256 rows c).1), (recordFeedback sha256 rows c).2)

/-- The transaction stored the row, which is one of this call. -/
def WroteRow (sha256 : Bytes → String) (c : FeedbackCall) (reply : FeedbackReply) (row : FeedbackRow) : Prop :=
  reply.1 = .ok (.created row) ∧ Made sha256 c row

theorem feedback_grows (sha256 : Bytes → String) : Grows (fun row : FeedbackRow => row.transitionRequestId)
    (fun row => ∃ c, Made sha256 c row) (WroteRow sha256) (feedbackStep sha256) where
  step rows c _ := by
    unfold feedbackStep recordFeedback
    rcases writeFeedback_cases sha256 rows c with ⟨e, h⟩ | ⟨v, row, -, -, -, -, h⟩ | ⟨row, hmade, hnew, h⟩
    · rw [h]
      exact .same fun _ hw => nomatch hw.1
    · rw [h]
      exact .same fun _ hw => nomatch hw.1
    · rw [h]
      refine .added row ⟨rfl, hmade⟩ (fun r hw => ?_) hnew
      exact (Written.created.inj (Except.ok.inj hw.1)).symm
  wrote c _ _ hw := ⟨c, hw.2⟩

variable {calls : List FeedbackCall}

/-- The ledger before call `k`. -/
def ledgerAt (sha256 : Bytes → String) (calls : List FeedbackCall) (k : Nat) : List FeedbackRow :=
  stateAt (feedbackStep sha256) [] calls k

abbrev FeedbackHappens (sha256 : Bytes → String) (calls : List FeedbackCall) :=
  Happens (feedbackStep sha256) [] calls

theorem find?_ledger {k : Nat} {row : FeedbackRow} (h : row ∈ ledgerAt sha256 calls k) :
    (ledgerAt sha256 calls k).find? (fun r => r.transitionRequestId == row.transitionRequestId) = some row :=
  find?_key ((feedback_grows sha256).sound k).keyed h

/-- The approved digests. -/
def approvedDigests : String × String := (FROZEN_RF_EXPECTED_SHA256, FROZEN_AE_EXPECTED_SHA256)

/-- What a run of calls on a new ledger does. -/
structure FeedbackRun (sha256 : Bytes → String) (calls : List FeedbackCall) : Prop where
  /-- A call that raises before its last check leaves the ledger as it was; so does every call that raises although
  the artifacts pass that check. -/
  unwritten : ∀ k rows c reply rows' e, FeedbackHappens sha256 calls k rows c reply rows' → reply.1 = .error e →
    reply.2 = .error e ∧ rows' = rows
  raised : ∀ k rows c reply rows' e, FeedbackHappens sha256 calls k rows c reply rows' → reply.2 = .error e →
    verifyFrozenModelsUnmodified sha256 c.after = .ok approvedDigests → rows' = rows
  /-- One row an identifier, and a stored row stays as it is. -/
  keyed : ∀ k, ((ledgerAt sha256 calls k).map (·.transitionRequestId)).Nodup
  kept : ∀ j k, j ≤ k → ledgerAt sha256 calls j <+: ledgerAt sha256 calls k
  /-- Its digests are the approved ones, which its call found before the write. -/
  approved : ∀ k, ∀ row ∈ ledgerAt sha256 calls k, (row.rfModelSha256, row.aeModelSha256) = approvedDigests ∧
    ∃ j < k, ∃ rows c reply rows', FeedbackHappens sha256 calls j rows c reply rows' ∧
      reply.1 = .ok (.created row) ∧ verifyFrozenModelsUnmodified sha256 c.before = .ok approvedDigests
  /-- A call that returns `created` has stored its row, and found the approved digests after the write too. -/
  created : ∀ k rows c reply rows' result, FeedbackHappens sha256 calls k rows c reply rows' → reply.2 = .ok result →
    result.status = .created → verifyFrozenModelsUnmodified sha256 c.after = .ok approvedDigests ∧
      ∃ row, rows' = rows ++ [row] ∧ result.modelSha256 = some (row.rfModelSha256, row.aeModelSha256)
  /-- A repeat of a call that succeeded returns `existing` and changes nothing. -/
  repeated : ∀ j k rows₁ c reply₁ rows₁' result rows d reply rows', j < k →
    FeedbackHappens sha256 calls j rows₁ c reply₁ rows₁' → reply₁.2 = .ok result →
    FeedbackHappens sha256 calls k rows d reply rows' → d.args = c.args →
    verifyFrozenModelsUnmodified sha256 d.before = .ok approvedDigests → d.fault = .none →
    (∃ recordedAtUtc, reply.2 = .ok (d.result .existing recordedAtUtc none)) ∧ rows' = rows
  /-- A call at a stored identifier changes nothing: it returns `existing` when it agrees with the row in the compared
  columns, and raises the conflict when it does not. -/
  stored : ∀ k rows d reply rows' v row, FeedbackHappens sha256 calls k rows d reply rows' → row ∈ rows →
    validate d.args = .ok v → v.transitionRequestId = some row.transitionRequestId →
    verifyFrozenModelsUnmodified sha256 d.before = .ok approvedDigests → d.fault = .none →
    rows' = rows ∧
    (idempotent row v = true → reply.2 = .ok (d.result .existing row.recordedAtUtc none)) ∧
    (idempotent row v = false → reply.2 = .error (.feedback .conflictingFeedbackRetry))

theorem feedbackStep_error {rows : List FeedbackRow} {c : FeedbackCall} {e : FeedbackRaised}
    (h : writeFeedback sha256 rows c = (.error e, rows)) :
    feedbackStep sha256 rows c = ((.error e, .error e), rows) := by
  rw [feedbackStep, recordFeedback, h]
  rfl

theorem feedbackStep_existing {rows : List FeedbackRow} {c : FeedbackCall} {recordedAtUtc : String}
    (h : writeFeedback sha256 rows c = (.ok (.existing recordedAtUtc), rows)) :
    feedbackStep sha256 rows c =
      ((.ok (.existing recordedAtUtc), .ok (c.result .existing recordedAtUtc none)), rows) := by
  rw [feedbackStep, recordFeedback, h]
  rfl

theorem feedbackStep_created {rows : List FeedbackRow} {c : FeedbackCall} {row : FeedbackRow}
    (h : writeFeedback sha256 rows c = (.ok (.created row), rows ++ [row])) :
    feedbackStep sha256 rows c =
      ((.ok (.created row), finishFeedback sha256 c (.created row)), rows ++ [row]) := by
  rw [feedbackStep, recordFeedback, h]
  rfl

theorem Made.digests {c : FeedbackCall} {row : FeedbackRow} (h : Made sha256 c row) :
    (row.rfModelSha256, row.aeModelSha256) = approvedDigests := verifyFrozenModels_ok h.before

/-- The check after the write, when the artifacts pass it. -/
theorem finishFeedback_created {c : FeedbackCall} {row : FeedbackRow}
    (hrow : (row.rfModelSha256, row.aeModelSha256) = approvedDigests)
    (hafter : verifyFrozenModelsUnmodified sha256 c.after = .ok approvedDigests) :
    finishFeedback sha256 c (.created row) = .ok (c.result .created row.recordedAtUtc (some approvedDigests)) := by
  obtain ⟨hrf, hae⟩ := Prod.mk.inj hrow
  rw [finishFeedback, hafter, Except.ok_bind, if_neg]
  rintro (h | h)
  · exact h hrf
  · exact h hae

theorem finishFeedback_ok {c : FeedbackCall} {row : FeedbackRow} {result : FeedbackResult}
    (h : finishFeedback sha256 c (.created row) = .ok result) :
    verifyFrozenModelsUnmodified sha256 c.after = .ok approvedDigests ∧ result.status = .created ∧
      result.modelSha256 = some (row.rfModelSha256, row.aeModelSha256) := by
  obtain ⟨post, hafter, h⟩ := Except.bind_eq_ok.1 h
  have hpost := verifyFrozenModels_ok hafter
  split at h
  · cases h
  · rename_i hsame
    cases h
    rw [not_or, not_not, not_not] at hsame
    refine ⟨?_, rfl, ?_⟩
    · rw [hafter, hpost, approvedDigests]
    · rw [hsame.1, hsame.2]
      rfl

/-- After a call that succeeded, its identifier is stored with a row that agrees with its arguments. -/
theorem stored_of_success {k : Nat} {rows rows' : List FeedbackRow} {c : FeedbackCall} {reply : FeedbackReply}
    {result : FeedbackResult} (hk : FeedbackHappens sha256 calls k rows c reply rows') (hok : reply.2 = .ok result) :
    ∃ v row, validate c.args = .ok v ∧ row ∈ rows' ∧ v.transitionRequestId = some row.transitionRequestId ∧
      idempotent row v = true := by
  rw [← hk.reply] at hok
  rw [← hk.after]
  rcases writeFeedback_cases sha256 rows c with ⟨e, h⟩ | ⟨v, row, hv, hrow, hid, hsame, h⟩ | ⟨row, hmade, -, h⟩
  · rw [feedbackStep_error h] at hok
    cases hok
  · rw [feedbackStep_existing h]
    exact ⟨v, row, hv, hrow, hid, hsame⟩
  · rw [feedbackStep_created h]
    obtain ⟨v, hv, hid, hsame⟩ := hmade.made
    exact ⟨v, row, hv, List.mem_append_right _ List.mem_cons_self, hid, hsame⟩

theorem happens_stored {k : Nat} {rows rows' : List FeedbackRow} {d : FeedbackCall} {reply : FeedbackReply}
    {v : Validated} {row : FeedbackRow} (hk : FeedbackHappens sha256 calls k rows d reply rows') (hrow : row ∈ rows)
    (hv : validate d.args = .ok v) (hid : v.transitionRequestId = some row.transitionRequestId)
    (hbefore : verifyFrozenModelsUnmodified sha256 d.before = .ok approvedDigests) (hfault : d.fault = .none) :
    rows' = rows ∧
      (idempotent row v = true → reply.2 = .ok (d.result .existing row.recordedAtUtc none)) ∧
      (idempotent row v = false → reply.2 = .error (.feedback .conflictingFeedbackRetry)) := by
  have hfind : rows.find? (fun r => r.transitionRequestId == row.transitionRequestId) = some row := by
    rw [hk.before] at hrow ⊢
    exact find?_ledger hrow
  have hwrite := writeFeedback_stored hv hbefore hfault hid hfind
  rw [← hk.reply, ← hk.after]
  cases hsame : idempotent row v with
  | true =>
    rw [hsame, if_pos rfl] at hwrite
    rw [feedbackStep_existing hwrite]
    exact ⟨rfl, fun _ => rfl, nofun⟩
  | false =>
    rw [hsame, if_neg (by decide)] at hwrite
    rw [feedbackStep_error hwrite]
    exact ⟨rfl, nofun, fun _ => rfl⟩

/-- **Feedback is recorded once.** -/
theorem feedback_run (sha256 : Bytes → String) (calls : List FeedbackCall) : FeedbackRun sha256 calls where
  unwritten k rows c reply rows' e hk he := by
    rw [← hk.reply] at he ⊢
    rw [← hk.after]
    rcases writeFeedback_cases sha256 rows c with ⟨e', h⟩ | ⟨v, row, -, -, -, -, h⟩ | ⟨row, -, -, h⟩
    · rw [feedbackStep_error h] at he ⊢
      cases he
      exact ⟨rfl, rfl⟩
    · rw [feedbackStep_existing h] at he
      cases he
    · rw [feedbackStep_created h] at he
      cases he
  raised k rows c reply rows' e hk he hafter := by
    rw [← hk.reply] at he
    rw [← hk.after]
    rcases writeFeedback_cases sha256 rows c with ⟨e', h⟩ | ⟨v, row, -, -, -, -, h⟩ | ⟨row, hmade, -, h⟩
    · rw [feedbackStep_error h]
    · rw [feedbackStep_existing h]
    · rw [feedbackStep_created h, finishFeedback_created hmade.digests hafter] at he
      cases he
  keyed k := ((feedback_grows sha256).sound k).keyed
  kept _ _ hjk := (feedback_grows sha256).kept hjk
  approved k row hrow := by
    obtain ⟨j, hj, rows, c, reply, rows', hhappens, hstored, hmade⟩ := ((feedback_grows sha256).mem_iff k row).1 hrow
    refine ⟨hmade.digests, j, hj, rows, c, reply, rows', hhappens, hstored, ?_⟩
    rw [hmade.before, hmade.digests]
  created k rows c reply rows' result hk hok hstatus := by
    rw [← hk.reply] at hok
    rw [← hk.after]
    rcases writeFeedback_cases sha256 rows c with ⟨e', h⟩ | ⟨v, row, -, -, -, -, h⟩ | ⟨row, hmade, -, h⟩
    · rw [feedbackStep_error h] at hok
      cases hok
    · rw [feedbackStep_existing h] at hok
      cases hok
      cases hstatus
    · rw [feedbackStep_created h] at hok ⊢
      obtain ⟨hafter, -, hdigests⟩ := finishFeedback_ok hok
      exact ⟨hafter, row, rfl, hdigests⟩
  repeated j k rows₁ c reply₁ rows₁' result rows d reply rows' hjk hj hok hk hargs hbefore hfault := by
    obtain ⟨v, row, hv, hrow, hid, hsame⟩ := stored_of_success hj hok
    have hlater : row ∈ rows := by
      rw [hk.before]
      rw [hj.succ] at hrow
      exact ((feedback_grows sha256).kept hjk).subset hrow
    obtain ⟨hrows, hexisting, -⟩ := happens_stored hk hlater (hargs ▸ hv) hid hbefore hfault
    exact ⟨⟨_, hexisting hsame⟩, hrows⟩
  stored k rows d reply rows' v row hk hrow hv hid hbefore hfault := happens_stored hk hrow hv hid hbefore hfault

end

/-! ## A repeat that differs -/

def artifactSha256 (b : Bytes) : String := if b = [1] then FROZEN_RF_EXPECTED_SHA256 else FROZEN_AE_EXPECTED_SHA256

def frozenSight : Sight := ⟨true, false, .bytes [1], true, false, .bytes [2]⟩

def feedbackOf (score : ℚ) (repr recordedAtUtc : String) : FeedbackCall where
  args := ⟨.text (some "trans-001"), .text (some "cand-001"), .text (some "attack"), .float (.finite score repr),
    .text (some "confirmed_threat"), .text (some "analyst-alice"), .text recordedAtUtc⟩
  now := "2026-10-16T00:10:00+00:00"
  before := frozenSight
  fault := .none
  after := frozenSight

/-- The second call has another score and another time, and is told that it is the first. -/
theorem differing_repeat_is_existing :
    (feedbackOf (1 / 2) "0.5" "2026-10-16T00:00:00Z").args ≠
        (feedbackOf (1 / 2 + 1 / 2097152) "0.5000004768371582" "2026-10-16T00:05:00Z").args ∧
      replyAt (feedbackStep artifactSha256) [] [feedbackOf (1 / 2) "0.5" "2026-10-16T00:00:00Z",
        feedbackOf (1 / 2 + 1 / 2097152) "0.5000004768371582" "2026-10-16T00:05:00Z"] 1 =
        some (.ok (.existing "2026-10-16T00:00:00Z"),
          .ok ((feedbackOf (1 / 2 + 1 / 2097152) "0.5000004768371582" "2026-10-16T00:05:00Z").result .existing
            "2026-10-16T00:00:00Z" none)) := by
  decide +kernel

end ThreatFusion.Feedback
