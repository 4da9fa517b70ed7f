import ThreatFusion.Orchestrator.Runs
import ThreatFusion.Alerts.Rows
/-
# A response tells the truth about persistence

What one `process_one` call that is granted a claim leaves behind, on every exit: the claim still waits, with no
answer or an `audit_unavailable` one from a poisoned service, or it is completed with bytes that say what was stored.

* `ToldTruly`, `Truthful`: what a completed response says of the alerts before and after the request.
* `persistAll_kept`: what the persistence loop stores, record by record.
* `processOne_settled`: every exit of a call.
* `InsertsAfter`, `processOne_insertsAfter`: a call is a part that stores no alert, and a part that begins with the
  claim granted and the request admitted in the audit log.
* `persistence_run`: all of it over a run.
-/
namespace ThreatFusion.Orchestrator
open Py Admission Alerts ReplayJournal Effect Machine

/-! ## Frames -/

/-- Journal, alerts and what was written stay. -/
def Still (w w' : World) : Prop := w'.journal = w.journal ∧ w'.alerts = w.alerts ∧ w'.written = w.written

theorem still : Silent Still where
  refl _ := ⟨rfl, rfl, rfl⟩
  trans _ _ _ h₁ h₂ := ⟨h₂.1.trans h₁.1, h₂.2.1.trans h₁.2.1, h₂.2.2.trans h₁.2.2⟩
  poisoned _ := ⟨rfl, rfl, rfl⟩
  audited _ _ := ⟨rfl, rfl, rfl⟩

/-- Journal and alerts stay. -/
def Unstored (w w' : World) : Prop := w'.journal = w.journal ∧ w'.alerts = w.alerts

theorem unstored : Spoken Unstored where
  refl _ := ⟨rfl, rfl⟩
  trans _ _ _ h₁ h₂ := ⟨h₂.1.trans h₁.1, h₂.2.trans h₁.2⟩
  poisoned _ := ⟨rfl, rfl⟩
  audited _ _ := ⟨rfl, rfl⟩
  wrote _ _ := ⟨rfl, rfl⟩

/-! ## What a response may say -/

def RegisteredResult.isAttack (r : RegisteredResult) : Bool :=
  decide (r.inference.status = "completed" ∧ r.inference.predictedClass = some "Attack")

/-- The row is the alert of this result: under its identifier, with its detection evidence. -/
def AlertOf (sha256 : Bytes → String) (r : RegisteredResult) (row : AlertCandidateFields) : Prop :=
  ∃ createdAt c, buildAlertCandidate sha256 r createdAt = some c ∧ row.alertCandidateId = c.alertCandidateId ∧
    sameDetectionEvidence row c.toAlertCandidateFields = true

/-- What the response says of one result, with the alerts before the request and after it. -/
structure ToldTruly (sha256 : Bytes → String) (before after : AlertDb) (index : Nat) (r : RegisteredResult)
    (d : ProducerRecordDisposition) : Prop where
  index_eq : d.recordIndex = index
  attack : r.isAttack = true → ∃ row ∈ after, AlertOf sha256 r row ∧ d.alertCandidateId = some row.alertCandidateId
  created : d.disposition = .created →
    r.isAttack = true ∧ ∀ row ∈ before, d.alertCandidateId ≠ some row.alertCandidateId

/-- The dispositions of a request, from what the inference came to: one for each result, or all rejected. -/
def AllToldTruly (sha256 : Bytes → String) (before after : AlertDb) (ds : List ProducerRecordDisposition) :
    Except Exc (List RegisteredResult) → Prop
  | .ok inferred => ds.length = inferred.length ∧ ∀ (i : Nat) r, inferred[i]? = some r →
      ∃ d, ds[i]? = some d ∧ ToldTruly sha256 before after (i + 1) r d
  | .error _ => after = before ∧ ∀ d ∈ ds, d.disposition = .rejected

structure Truthful (svc : Service) (env : Env) (record : ValidatedAdmissionRecord) (before after : AlertDb)
    (resp : ProducerResponse) : Prop where
  correlation : resp.correlationId = record.correlationId
  reason : resp.reason = .requestCompleted ∨ resp.reason = .internalError ∨ resp.reason = .processingTimeout
  failed : resp.reason ≠ .requestCompleted → after = before
  completed : resp.reason = .requestCompleted → resp.records.length = record.records.length ∧
    ∃ started, monotonicNow (env.monotonic .processingStarted) = .ok started ∧
      AllToldTruly svc.codec.sha256 before after resp.records (inferRecords svc env record started).2

/-- The journal has one more row, that of the request, and no alert is gone. -/
structure Appended (record : ValidatedAdmissionRecord) (w w' : World) (row : ReplayRow) : Prop where
  journal : w'.journal = w.journal ++ [row]
  requestId : row.requestId = record.requestId
  alerts : w.alerts <+: w'.alerts

theorem Appended.unstored {record : ValidatedAdmissionRecord} {w w' w'' : World} {row : ReplayRow}
    (h : Appended record w w' row) (hsame : Unstored w' w'') : Appended record w w'' row :=
  ⟨hsame.1.trans h.journal, h.requestId, hsame.2.symm ▸ h.alerts⟩

/-- What a granted claim comes to. -/
inductive Settled (svc : Service) (env : Env) (record : ValidatedAdmissionRecord) (w w' : World) : Prop
  | silent (row : ReplayRow) (hrow : Appended record w w' row) (hstate : row.state = .inProgress)
      (hwritten : w'.written = w.written)
  | unavailable (row : ReplayRow) (resp : ProducerResponse) (b : Bytes) (hrow : Appended record w w' row)
      (hstate : row.state = .inProgress) (hresp : serializeProducerResponse resp = some b)
      (hreason : resp.reason = .auditUnavailable) (hwritten : w'.written = w.written ++ [b]) (hfatal : w'.fatal = true)
  | completed (row : ReplayRow) (resp : ProducerResponse) (b : Bytes) (hrow : Appended record w w' row)
      (hstate : row.state = .completed) (hbytes : row.responseBytes = some b)
      (hresp : serializeProducerResponse resp = some b) (htrue : Truthful svc env record w.alerts w'.alerts resp)
      (hwritten : w'.written = w.written ∨ w'.written = w.written ++ [b])

theorem Settled.poisoned {svc : Service} {env : Env} {record : ValidatedAdmissionRecord} {w w' : World}
    (h : Settled svc env record w w') : Settled svc env record w { w' with fatal := true } := by
  cases h with
  | silent row hrow hstate hwritten => exact .silent row (hrow.unstored ⟨rfl, rfl⟩) hstate hwritten
  | unavailable row resp b hrow hstate hresp hreason hwritten hfatal =>
    exact .unavailable row resp b (hrow.unstored ⟨rfl, rfl⟩) hstate hresp hreason hwritten rfl
  | completed row resp b hrow hstate hbytes hresp htrue hwritten =>
    exact .completed row resp b (hrow.unstored ⟨rfl, rfl⟩) hstate hbytes hresp htrue hwritten

/-! ## While the claim waits -/

/-- The row of the request waits, and nothing was written. -/
structure Waits (record : ValidatedAdmissionRecord) (w₀ w : World) : Prop where
  row : ∃ row, Appended record w₀ w row ∧ row.state = .inProgress
  fresh : ∀ s ∈ w₀.journal, s.requestId ≠ record.requestId
  written : w.written = w₀.written

section
variable {svc : Service} {env : Env} {record : ValidatedAdmissionRecord} {w₀ : World}

theorem Waits.settled {w : World} (h : Waits record w₀ w) : Settled svc env record w₀ w := by
  obtain ⟨row, hrow, hstate⟩ := h.row
  exact .silent row hrow hstate h.written

theorem Waits.still (w w' : World) (h : Still w w') (hw : Waits record w₀ w) : Waits record w₀ w' := by
  obtain ⟨row, hrow, hstate⟩ := hw.row
  exact ⟨⟨row, hrow.unstored ⟨h.1, h.2.1⟩, hstate⟩, hw.fresh, h.2.2.trans hw.written⟩

/-- An assertion about the alerts while the claim waits. -/
def WaitsWith (record : ValidatedAdmissionRecord) (w₀ : World) (A : AlertDb → Prop) (w : World) : Prop :=
  Waits record w₀ w ∧ A w.alerts

theorem WaitsWith.still {A : AlertDb → Prop} (w w' : World) (h : Still w w') (hw : WaitsWith record w₀ A w) :
    WaitsWith record w₀ A w' := ⟨hw.1.still w w' h, h.2.1.symm ▸ hw.2⟩

theorem raiseAmbiguous_settled {α : Type} {A : AlertDb → Prop} (code : OrchestratorCode) (reason : AuditReason)
    (Q : α → World → Prop) :
    Triple (WaitsWith record w₀ A) (raiseAmbiguous env code reason record : Act α) Q
      (fun _ => Settled svc env record w₀) := by
  intro w hw
  have hkeeps := (still.raiseAmbiguous env code reason record : Keeps Still (raiseAmbiguous env code reason record :
    Act α)) w
  obtain ⟨e, he⟩ : ∃ e, (raiseAmbiguous env code reason record : Act α) w = (.error e, _) := ⟨_, rfl⟩
  rw [he] at hkeeps ⊢
  exact (hw.1.still _ _ hkeeps).settled

/-- What writing comes to: the bytes are out, or the connection failed. -/
theorem write_spec {P : World → Prop} (b : Bytes) (E : Exc → World → Prop) :
    Triple P (write svc env b)
      (fun _ w' => ∃ w, P w ∧ (w' = w ∨ w' = { w with written := w.written ++ [b] })) E := by
  refine Triple.bind (R := fun _ => P) (Triple.get fun w h => h) fun w => ?_
  split
  · refine Triple.bind (R := fun _ w' => ∃ w, P w ∧ w' = { w with written := w.written ++ [b] })
      (Triple.modify fun w h => ⟨w, h, rfl⟩) fun _ => Triple.pure fun w' h => ?_
    obtain ⟨w, hw, heq⟩ := h
    exact ⟨w, hw, .inr heq⟩
  · exact Triple.pure fun w h => ⟨w, h, .inl rfl⟩

theorem response?_some {cid : String} {reason : ResponseReason} {records : List ProducerRecordDisposition} {b : Bytes}
    (h : response? cid reason records = some b) : ∃ resp : ProducerResponse,
      resp.toResponseFields = ⟨.v2, cid, reason, records⟩ ∧ serializeProducerResponse resp = some b := by
  unfold response? ProducerResponse.new at h
  split at h
  · cases h
  · rename_i resp hnew
    split at hnew
    · cases hnew
      exact ⟨_, rfl, h⟩
    · cases hnew

theorem response_spec {P : World → Prop} {E : Exc → World → Prop} (cid : String) (reason : ResponseReason)
    (records : List ProducerRecordDisposition) (hE : ∀ e w, P w → E e w) :
    Triple P (response cid reason records) (fun b w => P w ∧ ∃ resp : ProducerResponse,
      resp.toResponseFields = ⟨.v2, cid, reason, records⟩ ∧ serializeProducerResponse resp = some b) E := by
  unfold response
  cases h : response? cid reason records with
  | none => exact Triple.throw (hE _)
  | some b => exact Triple.pure fun w hw => ⟨hw, response?_some h⟩

/-- After an audit that poisons: the event is the last of the log, or the claim is settled. -/
def AuditedOr (P : World → Prop) (S : World → Prop) (event : AuditReason × Option String) :
    Option ProducerOrchestratorResult → World → Prop
  | none, w => P w ∧ w.audit.getLast? = some event
  | some _, w => S w

theorem appendAudit_spec {P : World → Prop} (hP : ∀ w w', Still w w' → P w → P w') (site : AuditSite)
    (reason : AuditReason) (cid : Option String) :
    Triple P (appendAudit env site reason cid) (fun _ w => P w ∧ w.audit.getLast? = some (reason, cid))
      (fun _ => P) := by
  unfold appendAudit
  split
  · exact Triple.modify fun w h => ⟨hP w _ ⟨rfl, rfl, rfl⟩ h, List.getLast?_concat⟩
  · exact Triple.throw fun _ h => h

theorem auditOrUnavailable_settled {A : AlertDb → Prop} (site : AuditSite) (reason : AuditReason) :
    Triple (WaitsWith record w₀ A) (auditOrUnavailable svc env site reason (some record.correlationId) true)
      (AuditedOr (WaitsWith record w₀ A) (Settled svc env record w₀) (reason, some record.correlationId))
      (fun _ => Settled svc env record w₀) := by
  refine Triple.bind (Triple.attempt (R := fun r w => WaitsWith record w₀ A w ∧
      (r = .ok () → w.audit.getLast? = some (reason, some record.correlationId)))
    ((appendAudit_spec WaitsWith.still site reason (some record.correlationId)).weaken (fun _ h => h)
      (fun _ _ h => ⟨h.1, fun _ => h.2⟩) fun _ _ h => ⟨h, nofun⟩)) fun r => ?_
  cases r with
  | ok _ => exact Triple.pure fun w h => ⟨h.1, h.2 rfl⟩
  | error e =>
    refine Triple.bind (R := fun _ w => WaitsWith record w₀ A w ∧ w.fatal = true)
      (Triple.modify fun w h => ⟨h.1.still w _ ⟨rfl, rfl, rfl⟩, rfl⟩) fun _ => ?_
    refine Triple.bind (response_spec record.correlationId .auditUnavailable [] fun _ w h => h.1.1.settled)
      fun b => ?_
    refine Triple.bind (write_spec b _) fun r => Triple.pure fun w' h => ?_
    obtain ⟨w, ⟨⟨⟨hwaits, -⟩, hfatal⟩, resp, hfields, hresp⟩, hw'⟩ := h
    obtain ⟨row, hrow, hstate⟩ := hwaits.row
    rcases hw' with rfl | rfl
    · exact hwaits.settled
    · refine .unavailable row resp b (hrow.unstored ⟨rfl, rfl⟩) hstate hresp (congrArg ResponseFields.reason hfields) ?_ hfatal
      rw [← hwaits.written]

/-! ## Completing the claim -/

/-- The row of the request is completed with these bytes, and nothing was written yet. -/
structure DoneWith (record : ValidatedAdmissionRecord) (w₀ : World) (A : AlertDb → Prop) (b : Bytes) (w : World) :
    Prop where
  row : ∃ row, Appended record w₀ w row ∧ row.state = .completed ∧ row.responseBytes = some b
  written : w.written = w₀.written
  alerts : A w.alerts

theorem DoneWith.still {A : AlertDb → Prop} {b : Bytes} (w w' : World) (h : Still w w')
    (hw : DoneWith record w₀ A b w) : DoneWith record w₀ A b w' := by
  obtain ⟨row, hrow, hstate⟩ := hw.row
  exact ⟨⟨row, hrow.unstored ⟨h.1, h.2.1⟩, hstate⟩, h.2.2.trans hw.written, h.2.1.symm ▸ hw.alerts⟩

/-- The assertion that the alerts are as the response tells. -/
def Tells (svc : Service) (env : Env) (record : ValidatedAdmissionRecord) (w₀ : World) (resp : ProducerResponse)
    (alerts : AlertDb) : Prop := Truthful svc env record w₀.alerts alerts resp

theorem DoneWith.settled {resp : ProducerResponse} {b : Bytes} {w w' : World}
    (hw : DoneWith record w₀ (Tells svc env record w₀ resp) b w) (hresp : serializeProducerResponse resp = some b)
    (hw' : w' = w ∨ w' = { w with written := w.written ++ [b] }) : Settled svc env record w₀ w' := by
  obtain ⟨row, hrow, hstate, hbytes⟩ := hw.row
  rcases hw' with rfl | rfl
  · exact .completed row resp b hrow hstate hbytes hresp hw.alerts (.inl hw.written)
  · refine .completed row resp b (hrow.unstored ⟨rfl, rfl⟩) hstate hbytes hresp hw.alerts (.inr ?_)
    rw [← hw.written]

/-- What `complete` answers. -/
def CompletedOr (record : ValidatedAdmissionRecord) (w₀ : World) (A : AlertDb → Prop) (b : Bytes) :
    Except JournalError Bytes → World → Prop
  | .ok _, w => DoneWith record w₀ A b w
  | .error _, w => WaitsWith record w₀ A w

theorem completed_rows {db : JournalDb} {row : ReplayRow} {q t d : String} {b : Bytes} (hrow : row.requestId = q)
    (hfresh : ∀ s ∈ db, s.requestId ≠ q) :
    ((db ++ [row]).map fun r => if r.requestId == q then r.completeWith t b d else r) =
      db ++ [row.completeWith t b d] := by
  rw [List.map_append, List.map_singleton, if_pos (beq_iff_eq.2 hrow)]
  congr 1
  refine (List.map_congr_left fun s hs => ?_).trans db.map_id
  exact if_neg fun h => hfresh s hs (beq_iff_eq.1 h)

theorem journalComplete_settled {A : AlertDb → Prop} {cl : ReplayClaim} (hcl : cl.requestId = record.requestId)
    (b : Bytes) : Triple (WaitsWith record w₀ A) (journalComplete svc env cl b) (CompletedOr record w₀ A b)
      (fun _ => WaitsWith record w₀ A) := by
  intro w hw
  unfold journalComplete
  cases now env .complete with
  | error e => exact hw
  | ok t =>
    obtain ⟨row, hrow, hstate⟩ := hw.1.row
    rcases complete_cases svc.codec svc.gen cl b t env.completeFault w.journal with ⟨e, he⟩ | he
    · simp only [he]
      exact hw
    · simp only [he]
      refine ⟨⟨row.completeWith t.isoformat b (svc.codec.sha256 b), ⟨?_, hrow.requestId, hrow.alerts⟩, rfl, rfl⟩,
        hw.1.written, hw.2⟩
      rw [hrow.journal, hcl]
      exact completed_rows hrow.requestId hw.1.fresh

theorem completeAndWrite_settled {resp : ProducerResponse} {b : Bytes} (hresp : serializeProducerResponse resp = some b)
    {cl : ReplayClaim} (hcl : cl.requestId = record.requestId) (started : ℚ) (enforceBudget : Bool) :
    Triple (WaitsWith record w₀ (Tells svc env record w₀ resp)) (completeAndWrite svc env record cl b started enforceBudget)
      (fun _ => Settled svc env record w₀) (fun _ => Settled svc env record w₀) := by
  refine Triple.bind (auditOrUnavailable_settled .requestCompleted .requestCompleted) fun r => ?_
  cases r with
  | some failure => exact Triple.pure fun _ h => h
  | none =>
    refine Triple.bind (R := fun _ => WaitsWith record w₀ (Tells svc env record w₀ resp))
      (((still.checkBudget env record started enforceBudget).triple WaitsWith.still).weaken (fun _ h => h.1)
        (fun _ _ h => h) fun _ _ h => h.1.settled) fun _ => ?_
    refine Triple.bind (Triple.attempt (R := fun r w => match r with
        | .ok r => CompletedOr record w₀ (Tells svc env record w₀ resp) b r w
        | .error _ => WaitsWith record w₀ (Tells svc env record w₀ resp) w) (journalComplete_settled hcl b)) fun r => ?_
    rcases r with e | e | cached
    · cases e with
      | orchestrator code => exact raiseAmbiguous_settled _ _ _
      | _ => exact Triple.throw fun _ h => h.1.settled
    · exact raiseAmbiguous_settled _ _ _
    · dsimp only
      split
      · refine ((still.raiseAmbiguous _ _ _ _).triple DoneWith.still).weaken (fun _ h => h) (fun _ _ h => ?_)
          fun _ _ h => ?_
        · exact h.settled hresp (.inl rfl)
        · exact h.settled hresp (.inl rfl)
      · refine (write_spec b fun _ => Settled svc env record w₀).weaken (fun _ h => h) (fun _ w' h => ?_) fun _ _ h => h
        obtain ⟨w, hw, hw'⟩ := h
        exact hw.settled hresp hw'

/-! ## Failures, and records rejected -/

theorem completeFailureAndWrite_settled {resp : ProducerResponse} {b : Bytes}
    (hresp : serializeProducerResponse resp = some b) {cl : ReplayClaim} (hcl : cl.requestId = record.requestId)
    (failureReason : AuditReason) (started : ℚ) (enforceBudget : Bool) :
    Triple (WaitsWith record w₀ (Tells svc env record w₀ resp))
      (completeFailureAndWrite svc env failureReason record cl b started enforceBudget)
      (fun _ => Settled svc env record w₀) (fun _ => Settled svc env record w₀) := by
  refine Triple.bind (auditOrUnavailable_settled .failure failureReason) fun r => ?_
  cases r with
  | some failure => exact Triple.pure fun _ h => h
  | none =>
    exact (completeAndWrite_settled hresp hcl started enforceBudget).weaken (fun _ h => h.1) (fun _ _ h => h)
      fun _ _ h => h

/-- A failure response stores nothing, and says so. -/
theorem tells_failure {resp : ProducerResponse} {reason : ResponseReason}
    (hfields : resp.toResponseFields = ⟨.v2, record.correlationId, reason, []⟩)
    (hreason : reason = .internalError ∨ reason = .processingTimeout) : Tells svc env record w₀ resp w₀.alerts := by
  have hcid : resp.correlationId = record.correlationId := congrArg ResponseFields.correlationId hfields
  have heq : resp.reason = reason := congrArg ResponseFields.reason hfields
  refine ⟨hcid, .inr (heq ▸ hreason), fun _ => rfl, fun h => ?_⟩
  rw [heq] at h
  rcases hreason with rfl | rfl <;> cases h

variable (svc env w₀) in
theorem completeFailure_settled {cl : ReplayClaim} (hcl : cl.requestId = record.requestId)
    (failureReason : AuditReason) {reason : ResponseReason}
    (hreason : reason = .internalError ∨ reason = .processingTimeout) (started : ℚ) (enforceBudget : Bool) :
    Triple (WaitsWith record w₀ (· = w₀.alerts))
      (completeFailure svc env failureReason reason record cl started enforceBudget)
      (fun _ => Settled svc env record w₀) (fun _ => Settled svc env record w₀) := by
  refine Triple.bind (response_spec record.correlationId reason [] fun _ _ h => h.1.settled) fun b => ?_
  rintro w ⟨hw, resp, hfields, hresp⟩
  exact completeFailureAndWrite_settled hresp hcl failureReason started enforceBudget w
    ⟨hw.1, hw.2 ▸ tells_failure hfields hreason⟩

theorem rejectedDispositions_rejected {ds : List ProducerRecordDisposition} {k i : Nat}
    (h : rejectedDispositions k i = some ds) : ds.length = k ∧ ∀ d ∈ ds, d.disposition = .rejected := by
  induction k generalizing i ds with
  | zero =>
    cases h
    exact ⟨rfl, fun d hd => absurd hd List.not_mem_nil⟩
  | succ k ih =>
    unfold rejectedDispositions ProducerRecordDisposition.new at h
    split at h
    · cases h
    · rename_i d hnew
      obtain ⟨rest, hrest, rfl⟩ := Option.map_eq_some_iff.1 h
      obtain ⟨hlen, hall⟩ := ih hrest
      refine ⟨congrArg (· + 1) hlen, fun d' hd' => ?_⟩
      rcases List.mem_cons.1 hd' with rfl | hd'
      · split at hnew <;> cases hnew
        rfl
      · exact hall d' hd'

/-- The inference of this call ended in an exception. -/
def InferenceFailed (svc : Service) (env : Env) (record : ValidatedAdmissionRecord) : Prop :=
  ∃ started e, monotonicNow (env.monotonic .processingStarted) = .ok started ∧
    (inferRecords svc env record started).2 = .error e

variable (w₀) in
theorem completeRejected_settled {cl : ReplayClaim} (hcl : cl.requestId = record.requestId)
    (hfailed : InferenceFailed svc env record) (started : ℚ) :
    Triple (WaitsWith record w₀ (· = w₀.alerts)) (completeRejected svc env record cl started)
      (fun _ => Settled svc env record w₀) (fun _ => Settled svc env record w₀) := by
  unfold completeRejected
  cases hds : rejectedDispositions record.records.length 1 with
  | none => exact Triple.throw fun _ h => h.1.settled
  | some ds =>
    obtain ⟨hlen, hall⟩ := rejectedDispositions_rejected hds
    refine Triple.bind (response_spec record.correlationId .requestCompleted ds fun _ _ h => h.1.settled) fun b => ?_
    rintro w ⟨hw, resp, hfields, hresp⟩
    refine completeAndWrite_settled hresp hcl started true w ⟨hw.1, ?_⟩
    have hrecords : resp.records = ds := congrArg ResponseFields.records hfields
    have hreason : resp.reason = .requestCompleted := congrArg ResponseFields.reason hfields
    refine ⟨congrArg ResponseFields.correlationId hfields, .inl hreason, fun h => absurd hreason h, fun _ => ?_⟩
    obtain ⟨started', e, hstarted, he⟩ := hfailed
    refine ⟨hrecords ▸ hlen, started', hstarted, ?_⟩
    rw [he, hrecords]
    exact ⟨hw.2, hall⟩

theorem inferenceFailed_settled {cl : ReplayClaim} (hcl : cl.requestId = record.requestId)
    (hfailed : InferenceFailed svc env record) (started : ℚ) (recordStarted : Option ℚ) (e : Exc) :
    Triple (WaitsWith record w₀ (· = w₀.alerts)) (inferenceFailed svc env record cl started recordStarted e)
      (fun _ => Settled svc env record w₀) (fun _ => Settled svc env record w₀) := by
  have timeout := completeFailure_settled svc env w₀ hcl .processingTimeout (.inr rfl)
    started false
  have internal := completeFailure_settled svc env w₀ hcl .internalError (.inl rfl)
    started true
  have rejected := completeRejected_settled w₀ hcl hfailed started
  unfold inferenceFailed
  cases e with
  | networkInference =>
    dsimp only
    split
    · exact Triple.throw fun _ h => h.1.settled
    · exact timeout
    · exact rejected
  | worker code =>
    dsimp only
    split
    · exact timeout
    · exact internal
  | orchestrator code =>
    have other : Triple (WaitsWith record w₀ (· = w₀.alerts)) (poison >>= fun _ => fail code)
        (fun _ : ProducerOrchestratorResult => Settled svc env record w₀) (fun _ => Settled svc env record w₀) :=
      ((still.poison_fail code).triple WaitsWith.still).weaken (fun _ h => h) (fun _ _ h => h.1.settled)
        fun _ _ h => h.1.settled
    cases code with
    | processingTimeout => exact timeout
    | _ => exact other
  | alertCandidate => exact raiseAmbiguous_settled _ _ _
  | other => exact raiseAmbiguous_settled _ _ _

/-! ## From the results to the stored alerts -/

/-- What the generator makes of a result: a candidate exactly for an attack. -/
def CandidateOf (sha256 : Bytes → String) (r : RegisteredResult) : Option (AlertCandidate sha256) → Prop
  | none => r.isAttack = false
  | some c => r.isAttack = true ∧ ∃ createdAt, buildAlertCandidate sha256 r createdAt = some c

theorem buildCandidates_forall₂ {sha256 : Bytes → String} : ∀ {inferred : List RegisteredResult} {i : Nat}
    {candidates : List (Option (AlertCandidate sha256))}, buildCandidates sha256 env i inferred = .ok candidates →
      List.Forall₂ (CandidateOf sha256) inferred candidates
  | [], _, _, h => by
    cases h
    exact .nil
  | r :: rest, i, candidates, h => by
    have later {c : Option (AlertCandidate sha256)} (hc : CandidateOf sha256 r c)
        (h : (buildCandidates sha256 env (i + 1) rest).map (c :: ·) = .ok candidates) :
        List.Forall₂ (CandidateOf sha256) (r :: rest) candidates := by
      cases hrest : buildCandidates sha256 env (i + 1) rest with
      | error e =>
        rw [hrest] at h
        cases h
      | ok cs =>
        rw [hrest] at h
        cases h
        exact .cons hc (buildCandidates_forall₂ hrest)
    unfold buildCandidates at h
    split at h
    · rename_i hattack
      split at h
      · cases h
      · split at h
        · cases h
        · rename_i c hc
          exact later (c := some c) ⟨decide_eq_true hattack, _, hc⟩ h
    · rename_i hattack
      exact later (c := none) (decide_eq_false hattack) h

/-- The table holds the alert of this candidate. -/
def Holds (alerts : AlertDb) {sha256 : Bytes → String} (c : AlertCandidate sha256) : Prop :=
  ∃ row ∈ alerts, row.alertCandidateId = c.alertCandidateId ∧
    sameDetectionEvidence row c.toAlertCandidateFields = true

theorem Holds.mono {alerts alerts' : AlertDb} {sha256 : Bytes → String} {c : AlertCandidate sha256}
    (h : Holds alerts c) (hle : alerts <+: alerts') : Holds alerts' c := by
  obtain ⟨row, hrow, heq⟩ := h
  exact ⟨row, hle.subset hrow, heq⟩

/-- What a turn of the loop leaves for a candidate, with the alerts before the request and after it. -/
def Kept {sha256 : Bytes → String} (before after : AlertDb) :
    Option (AlertCandidate sha256) → Option (AlertInsertResult sha256) → Prop
  | none, none => True
  | some c, some result => result.candidate.alertCandidateId = c.alertCandidateId ∧ Holds after c ∧
      (result.disposition = .created → ∀ row ∈ before, row.alertCandidateId ≠ c.alertCandidateId)
  | _, _ => False

theorem sameDetectionEvidence_self {sha256 : Bytes → String} (c : AlertCandidate sha256) :
    sameDetectionEvidence c.toAlertCandidateFields c.toAlertCandidateFields = true := by
  rw [sameDetectionEvidence, Bool.and_eq_true, Bool.and_eq_true]
  refine ⟨⟨decide_eq_true rfl, eq_self_of_within c.within.2⟩, ?_⟩
  have hscore := c.within.1
  generalize c.uncalibratedModelScore = x at hscore
  cases x with
  | finite v r => exact decide_eq_true (.inl rfl)
  | nonFinite r => cases hscore

/-- An insert that raises stored nothing; one that returns has the alert in the table, and adds it when it says so. -/
theorem insert_cases {sha256 : Bytes → String} (fault : AlertFault) (db : AlertDb) (c : AlertCandidate sha256) :
    (∃ e, insert sha256 fault db c = (.error e, db)) ∨
    ∃ result db', insert sha256 fault db c = (.ok result, db') ∧ db <+: db' ∧ Kept db db' (some c) (some result) := by
  cases fault with
  | none =>
    unfold Alerts.insert insertTx
    cases hfind : db.find? fun row => row.alertCandidateId == c.alertCandidateId with
    | none =>
      refine .inr ⟨⟨.created, c⟩, db ++ [c.toAlertCandidateFields], rfl, List.prefix_append _ _, rfl, ?_, fun _ => ?_⟩
      · exact ⟨_, List.mem_append_right _ (List.mem_singleton.2 rfl), rfl, sameDetectionEvidence_self c⟩
      · intro row hrow heq
        exact List.find?_eq_none.1 hfind row hrow (beq_iff_eq.2 heq)
    | some row =>
      dsimp only
      have hid : row.alertCandidateId = c.alertCandidateId := by simpa using List.find?_some hfind
      cases hnew : AlertCandidate.new sha256 row with
      | none => exact .inl ⟨_, rfl⟩
      | some stored =>
        have hstored : stored.toAlertCandidateFields = row := by
          unfold AlertCandidate.new at hnew
          split at hnew <;> cases hnew
          rfl
        dsimp only
        rw [hstored]
        cases hsame : sameDetectionEvidence row c.toAlertCandidateFields with
        | false => exact .inl ⟨_, rfl⟩
        | true =>
          refine .inr ⟨_, db, rfl, List.prefix_rfl, hstored ▸ hid, ⟨row, List.mem_of_find?_eq_some hfind, hid, hsame⟩, ?_⟩
          exact fun h => by cases h
  | connectCorrupt | connectUnavailable | busy | write => exact .inl ⟨_, rfl⟩

/-! ## The loop -/

/-- What the `try` body of the loop leaves. -/
def Tried (record : ValidatedAdmissionRecord) (w₀ : World) (a : AlertDb) {sha256 : Bytes → String}
    (c : AlertCandidate sha256) : InsertOutcome sha256 → World → Prop
  | .done result, w => WaitsWith record w₀ (fun a' => a <+: a' ∧ Kept a a' (some c) (some result)) w
  | .persistenceError _, w => WaitsWith record w₀ (· = a) w
  | .checkFailed, w => Waits record w₀ w

theorem Waits.stored {w : World} (h : Waits record w₀ w) {a : AlertDb} (ha : w.alerts <+: a) :
    Waits record w₀ { w with alerts := a } := by
  obtain ⟨row, hrow, hstate⟩ := h.row
  exact ⟨⟨row, ⟨hrow.journal, hrow.requestId, hrow.alerts.trans ha⟩, hstate⟩, h.fresh, h.written⟩

theorem insertChecked_tried (a : AlertDb) (started : ℚ) (i : Nat) (c : AlertCandidate svc.codec.sha256) :
    Triple (WaitsWith record w₀ (· = a)) (insertChecked svc env started i c) (Tried record w₀ a c)
      (fun _ => Settled svc env record w₀) := by
  rintro w ⟨hw, rfl⟩
  unfold insertChecked
  cases checkProcessing (env.monotonic (.beforeInsert i)) started none with
  | error e => exact hw
  | ok _ =>
    rcases insert_cases (env.insertFault i) w.alerts c with ⟨e, he⟩ | ⟨result, db', he, hle, hkept⟩
    · simp only [he]
      exact ⟨hw, rfl⟩
    · simp only [he]
      cases checkProcessing (env.monotonic (.afterInsert i)) started none with
      | error e => exact hw.stored hle
      | ok _ => exact ⟨hw.stored hle, hle, hkept⟩

/-- What the loop leaves: nothing stored by a definite failure, or each candidate kept. -/
def Persisted (record : ValidatedAdmissionRecord) (w₀ : World) (a : AlertDb) {sha256 : Bytes → String}
    (candidates : List (Option (AlertCandidate sha256))) :
    Option (List (Option (AlertInsertResult sha256))) → World → Prop
  | none, w => WaitsWith record w₀ (· = w₀.alerts) w
  | some results, w =>
    WaitsWith record w₀ (fun a' => a <+: a' ∧ List.Forall₂ (Kept w₀.alerts a') candidates results) w

/-- An alert that is new to the table was new to it before the request. -/
theorem Kept.grow {before a a' a'' : AlertDb} {sha256 : Bytes → String} {c : AlertCandidate sha256}
    {result : AlertInsertResult sha256} (h : Kept a a' (some c) (some result)) (hbefore : before <+: a)
    (hafter : a' <+: a'') : Kept before a'' (some c) (some result) :=
  ⟨h.1, h.2.1.mono hafter, fun hd row hrow => h.2.2 hd row (hbefore.subset hrow)⟩

theorem persistAll_persisted (started : ℚ) : ∀ (i durable : Nat) (a : AlertDb)
    (candidates : List (Option (AlertCandidate svc.codec.sha256))), w₀.alerts <+: a → (durable = 0 → a = w₀.alerts) →
      Triple (WaitsWith record w₀ (· = a)) (persistAll svc env record started i durable candidates)
        (Persisted record w₀ a candidates) (fun _ => Settled svc env record w₀)
  | _, _, a, [], _, _ => Triple.pure fun w h => ⟨h.1, h.2 ▸ List.prefix_rfl, .nil⟩
  | i, durable, a, none :: rest, hle, hnone => by
    refine Triple.bind (persistAll_persisted started (i + 1) durable a rest hle hnone) fun results =>
      Triple.pure fun w h => ?_
    cases results with
    | none => exact h
    | some results => exact ⟨h.1, h.2.1, .cons trivial h.2.2⟩
  | i, durable, a, some c :: rest, hle, hnone => by
    have ambiguous (A : AlertDb → Prop) : Triple (WaitsWith record w₀ A)
        (raiseAmbiguous env .alertPersistenceAmbiguous .internalError record) (Persisted record w₀ a (some c :: rest))
        (fun _ => Settled svc env record w₀) := raiseAmbiguous_settled _ _ _
    refine Triple.bind (insertChecked_tried a started i c) fun outcome => ?_
    cases outcome with
    | done result =>
      rintro w ⟨hw, hle', hkept⟩
      refine Triple.bind (persistAll_persisted started (i + 1) (durable + 1) w.alerts rest (hle.trans hle') nofun)
        (fun results => Triple.pure fun w' h => ?_) w ⟨hw, rfl⟩
      cases results with
      | none => exact h
      | some results => exact ⟨h.1, hle'.trans h.2.1, .cons (hkept.grow hle h.2.1) h.2.2⟩
    | persistenceError e =>
      dsimp only
      split
      · rename_i hdefinite
        -- a definite failure ends the request only while nothing was stored
        have hzero : durable = 0 := by simpa using (Bool.and_eq_true_iff.1 hdefinite).2
        exact Triple.pure fun w h => ⟨h.1, h.2.trans (hnone hzero)⟩
      · exact ambiguous (· = a)
    | checkFailed =>
      exact (ambiguous fun _ => True).weaken (fun _ h => ⟨h, trivial⟩) (fun _ _ h => h) fun _ _ h => h

/-! ## The response to a stored batch -/

theorem ProducerRecordDisposition.toFields_of_new {r : RecordDispositionFields} {d : ProducerRecordDisposition}
    (h : ProducerRecordDisposition.new r = some d) : d.toRecordDispositionFields = r := by
  unfold ProducerRecordDisposition.new at h
  split at h <;> cases h
  rfl

theorem insertResponse_created {d : InsertDisposition} (h : (insertResponse d).1 = .created) : d = .created := by
  cases d with
  | created => rfl
  | existing => cases h

theorem recordDisposition_told {sha256 : Bytes → String} {before after : AlertDb} {index : Nat} {r : RegisteredResult}
    {c : Option (AlertCandidate sha256)} {p : Option (AlertInsertResult sha256)} {d : ProducerRecordDisposition}
    (hc : CandidateOf sha256 r c) (hp : Kept before after c p) (h : recordDisposition index r p = some d) :
    ToldTruly sha256 before after index r d := by
  have plain {f : RecordDispositionFields} (hnew : ProducerRecordDisposition.new f = some d) (hindex : f.recordIndex = index)
      (hattack : r.isAttack = false) (hdisposition : f.disposition ≠ .created) : ToldTruly sha256 before after index r d := by
    have hfields := ProducerRecordDisposition.toFields_of_new hnew
    refine ⟨hfields ▸ hindex, fun h => ?_, fun h => ?_⟩
    · rw [hattack] at h
      cases h
    · exact absurd (hfields ▸ h) hdisposition
  unfold recordDisposition at h
  dsimp only at h
  split at h
  · rename_i hrejected
    refine plain h rfl (decide_eq_false fun ha => ?_) fun hd => by cases hd
    rcases hrejected with hs | hn
    · exact hs ha.1
    · rw [hn] at ha
      cases ha.2
  · split at h
    · rename_i hnormal
      split at h
      · cases h
      · refine plain h rfl (decide_eq_false fun ha => ?_) fun hd => by cases hd
        rw [hnormal] at ha
        exact absurd (Option.some.inj ha.2) (by decide)
    · split at h
      · cases h
      · rename_i result
        split at h
        · cases h
        · have hfields := ProducerRecordDisposition.toFields_of_new h
          cases c with
          | none => exact hp.elim
          | some c =>
            obtain ⟨hattack, createdAt, hbuilt⟩ := hc
            obtain ⟨hid, ⟨row, hrow, hrowid, hsame⟩, hcreated⟩ := hp
            have hreported : d.alertCandidateId = some c.alertCandidateId := by rw [hfields, hid]
            refine ⟨by rw [hfields], fun _ => ⟨row, hrow, ⟨createdAt, c, hbuilt, hrowid, hsame⟩, ?_⟩, fun hd => ?_⟩
            · rw [hreported, hrowid]
            · rw [hfields] at hd
              refine ⟨hattack, fun row' hrow' heq => ?_⟩
              rw [hreported] at heq
              exact hcreated (insertResponse_created hd) row' hrow' (Option.some.inj heq).symm

theorem recordDispositions_told {sha256 : Bytes → String} {before after : AlertDb} :
    ∀ {index : Nat} {inferred : List RegisteredResult} {candidates : List (Option (AlertCandidate sha256))}
      {persisted : List (Option (AlertInsertResult sha256))} {ds : List ProducerRecordDisposition},
      List.Forall₂ (CandidateOf sha256) inferred candidates → List.Forall₂ (Kept before after) candidates persisted →
      recordDispositions index inferred persisted = some ds →
      ds.length = inferred.length ∧ ∀ (i : Nat) r, inferred[i]? = some r →
        ∃ d, ds[i]? = some d ∧ ToldTruly sha256 before after (i + index) r d
  | _, _, _, _, _, .nil, .nil, h => by
    cases h
    exact ⟨rfl, fun i r hr => by cases hr⟩
  | index, r :: inferred, c :: candidates, p :: persisted, ds, .cons hc hcs, .cons hp hps, h => by
    unfold recordDispositions at h
    split at h
    · cases h
    · rename_i d hd
      obtain ⟨rest, hrest, rfl⟩ := Option.map_eq_some_iff.1 h
      obtain ⟨hlen, hall⟩ := recordDispositions_told hcs hps hrest
      refine ⟨congrArg (· + 1) hlen, fun i r' hr' => ?_⟩
      cases i with
      | zero =>
        cases hr'
        exact ⟨d, rfl, (Nat.zero_add index).symm ▸ recordDisposition_told hc hp hd⟩
      | succ i =>
        obtain ⟨d', hd', htold⟩ := hall i r' hr'
        exact ⟨d', hd', by rwa [Nat.add_right_comm]⟩

theorem inferRecords_length {started : ℚ} {inferred : List RegisteredResult}
    (h : (inferRecords svc env record started).2 = .ok inferred) : inferred.length = record.records.length := by
  unfold inferRecords at h
  dsimp only at h
  split at h
  · split at h
    · cases h
    · rename_i n _
      dsimp only at h
      cases hinline : (inferInline env started n 0 none).2 with
      | error e =>
        rw [hinline] at h
        cases h
      | ok results =>
        rw [hinline] at h
        dsimp only [Except.bind] at h
        split at h
        · cases h
        · rename_i hlen
          split at h <;> cases h
          exact not_not.1 hlen
  · split at h
    · cases h
    · cases h
    · split at h
      · cases h
      · rename_i hlen
        split at h <;> cases h
        exact not_not.1 hlen

theorem persistAndRespond_settled {cl : ReplayClaim} (hcl : cl.requestId = record.requestId) {started : ℚ}
    (hstarted : monotonicNow (env.monotonic .processingStarted) = .ok started) {inferred : List RegisteredResult}
    (hinferred : (inferRecords svc env record started).2 = .ok inferred) :
    Triple (WaitsWith record w₀ (· = w₀.alerts)) (persistAndRespond svc env record cl started inferred)
      (fun _ => Settled svc env record w₀) (fun _ => Settled svc env record w₀) := by
  have internal := completeFailure_settled svc env w₀ hcl .internalError (.inl rfl)
    started true
  unfold persistAndRespond
  split
  · exact internal
  · exact internal
  · exact raiseAmbiguous_settled _ _ _
  · rename_i candidates hcandidates
    have hattacks := buildCandidates_forall₂ hcandidates
    refine Triple.bind (persistAll_persisted started 0 0 w₀.alerts candidates List.prefix_rfl fun _ => rfl)
      fun persisted => ?_
    cases persisted with
    | none => exact internal
    | some persisted =>
      have ambiguous : Triple (WaitsWith record w₀ fun a => List.Forall₂ (Kept w₀.alerts a) candidates persisted)
          (raiseAmbiguous env .responseFinalizationAmbiguous .internalError record : Act ProducerOrchestratorResult)
          (fun _ => Settled svc env record w₀) (fun _ => Settled svc env record w₀) := raiseAmbiguous_settled _ _ _
      rintro w ⟨hw, -, hkept⟩
      dsimp only
      cases hb : finalizeResponse record inferred persisted with
      | none => exact ambiguous w ⟨hw, hkept⟩
      | some b =>
        unfold finalizeResponse at hb
        split at hb
        · cases hb
        · rename_i ds hds
          obtain ⟨hlen, htold⟩ := recordDispositions_told hattacks hkept hds
          obtain ⟨resp, hfields, hresp⟩ := response?_some hb
          refine completeAndWrite_settled hresp hcl started true w ⟨hw, ?_⟩
          have hrecords : resp.records = ds := congrArg ResponseFields.records hfields
          have hreason : resp.reason = .requestCompleted := congrArg ResponseFields.reason hfields
          refine ⟨congrArg ResponseFields.correlationId hfields, .inl hreason, fun h => absurd hreason h, fun _ => ?_⟩
          refine ⟨hrecords ▸ hlen.trans (inferRecords_length hinferred), started, hstarted, ?_⟩
          rw [hinferred, hrecords]
          exact ⟨hlen, htold⟩

/-! ## A granted claim -/

theorem processClaimed_settled {cl : ReplayClaim} (hcl : cl.requestId = record.requestId) :
    Triple (WaitsWith record w₀ (· = w₀.alerts)) (processClaimed svc env record cl)
      (fun _ => Settled svc env record w₀) (fun _ => Settled svc env record w₀) := by
  refine Triple.bind (auditOrUnavailable_settled .requestAdmitted .requestAdmitted) fun r => ?_
  cases r with
  | some failure => exact Triple.pure fun _ h => h
  | none =>
    refine Triple.bind (R := fun started w => WaitsWith record w₀ (· = w₀.alerts) w ∧
      monotonicNow (env.monotonic .processingStarted) = .ok started)
      (Triple.ofExcept (fun _ _ ht h => ⟨h.1, ht⟩) fun _ _ _ h => h.1.1.settled) fun started => ?_
    rintro w ⟨hw, hstarted⟩
    dsimp only
    cases hout : (inferRecords svc env record started).2 with
    | error e => exact inferenceFailed_settled hcl ⟨started, e, hstarted, hout⟩ started _ e w hw
    | ok inferred => exact persistAndRespond_settled hcl hstarted hout w hw

end

/-! ## One call -/

/-- The call is granted a claim for the record, from the journal `db`. -/
def Granted (svc : Service) (env : Env) (record : ValidatedAdmissionRecord) (db : JournalDb) : Prop :=
  ∃ t result cl, env.trustedNow .claim = some t ∧ result.claim = some cl ∧
    (claim svc.codec svc.gen record env.ownershipToken (some t) env.claimFault db).1 = .ok result

/-- No alert and no row was stored, or a granted claim was settled. -/
def Ended (svc : Service) (env : Env) (record : ValidatedAdmissionRecord) (w w' : World) : Prop :=
  Unstored w w' ∨ Granted svc env record w.journal ∧ Settled svc env record w w'

/-- What the journal answers: a row that waits and its claim, or nothing granted. -/
def Claimed (svc : Service) (env : Env) (record : ValidatedAdmissionRecord) (w₀ : World) :
    Except JournalError ReplayClaimResult → World → Prop
  | .error _, w => w = w₀
  | .ok replay, w => replay.claim = none ∧ w = w₀ ∨
    ∃ cl, replay.disposition = .inProgress ∧ replay.claim = some cl ∧ cl.requestId = record.requestId ∧
      Granted svc env record w₀.journal ∧ w.audit = w₀.audit ∧ WaitsWith record w₀ (· = w₀.alerts) w

theorem journalClaim_claimed (svc : Service) (env : Env) (record : ValidatedAdmissionRecord) (w₀ : World) :
    Triple (· = w₀) (journalClaim svc env record) (Claimed svc env record w₀) (fun _ w => w = w₀) := by
  rintro w rfl
  unfold journalClaim now
  cases ht : env.trustedNow .claim with
  | none => exact rfl
  | some t =>
    dsimp only
    rcases claim_cases svc.codec svc.gen record env.ownershipToken t env.claimFault w.journal with
      ⟨e, he⟩ | ⟨result, he, hn⟩ | ⟨he, hfresh⟩
    · rw [he]
      exact rfl
    · rw [he]
      exact .inl ⟨hn, rfl⟩
    · rw [he]
      refine .inr ⟨_, rfl, rfl, rfl, ⟨t, _, _, ht, rfl, by rw [he]⟩, rfl, ?_⟩
      exact ⟨⟨⟨_, ⟨rfl, rfl, List.prefix_rfl⟩, rfl⟩, hfresh, rfl⟩, rfl⟩

theorem claimAndProcess_ended (svc : Service) (env : Env) (record : ValidatedAdmissionRecord) (w₀ : World) :
    Triple (· = w₀) (claimAndProcess svc env record) (fun _ => Ended svc env record w₀)
      (fun _ => Ended svc env record w₀) := by
  have unclaimed {m : Act ProducerOrchestratorResult} (h : Keeps Unstored m) :
      Triple (· = w₀) m (fun _ => Ended svc env record w₀) (fun _ => Ended svc env record w₀) :=
    (unstored.at_start h).weaken (fun _ h => h) (fun _ _ => .inl) fun _ _ => .inl
  have settled {m : Act ProducerOrchestratorResult} (hgranted : Granted svc env record w₀.journal)
      (h : Triple (WaitsWith record w₀ (· = w₀.alerts)) m (fun _ => Settled svc env record w₀)
        (fun _ => Settled svc env record w₀)) :
      Triple (WaitsWith record w₀ (· = w₀.alerts)) m (fun _ => Ended svc env record w₀)
        (fun _ => Ended svc env record w₀) :=
    h.weaken (fun _ h => h) (fun _ _ h => .inr ⟨hgranted, h⟩) fun _ _ h => .inr ⟨hgranted, h⟩
  refine Triple.bind ((journalClaim_claimed svc env record w₀).weaken (fun _ h => h) (fun _ _ h => h)
    fun _ _ h => .inl (h ▸ unstored.refl w₀)) fun r => ?_
  cases r with
  | error e =>
    cases e with
    | requestReplayRejected => exact unclaimed (unstored.auditAndAnswer _ _ _ _ _ (unstored.answer _ _ _ _))
    | _ => exact unclaimed (unstored.raiseAmbiguous _ _ _ _)
  | ok replay =>
    refine Triple.of_state fun w hw => ?_
    rcases hw with ⟨hn, rfl⟩ | ⟨cl, hd, hcl, hid, hgranted, -, hw⟩
    · simp only [hn]
      split
      · refine unclaimed (unstored.auditAndAnswer _ _ _ _ _ ?_)
        split
        · exact unstored.poison_fail _
        · exact unstored.write _ _ _
      · exact unclaimed (unstored.auditAndAnswer _ _ _ _ _ (unstored.answer _ _ _ _))
      · exact unclaimed (unstored.auditAndAnswer _ _ _ _ _ (unstored.answer _ _ _ _))
      · rename_i heq _
        cases heq
    · simp only [hd, hcl]
      split
      · refine (settled hgranted ?_).at_state hw
        exact ((still.poison_fail _).triple WaitsWith.still).weaken (fun _ h => h) (fun _ _ h => h.1.settled)
          fun _ _ h => h.1.settled
      · exact (settled hgranted (processClaimed_settled hid)).at_state hw

/-- **Every exit of a call**: nothing stored, or one granted claim settled. -/
theorem processOne_settled (svc : Service) (env : Env) (w : World) :
    Unstored w (processOne svc env w).2 ∨
    ∃ record, GrantsClaim svc env w record ∧ Settled svc env record w (processOne svc env w).2 := by
  refine unstored.processOne svc env (E := fun w' => Unstored w w' ∨
    ∃ record, GrantsClaim svc env w record ∧ Settled svc env record w w') (fun _ h => .inl h) ?_ fun record ha => ?_
  · rintro w' (h | ⟨record, hgranted, h⟩)
    · exact .inl (unstored.trans _ _ _ h (unstored.poisoned w'))
    · exact .inr ⟨record, hgranted, h.poisoned⟩
  · refine (claimAndProcess_ended svc env record w).weaken (fun _ h => h) (fun _ _ h => ?_) fun _ _ h => ?_
    · exact h.imp id fun h => ⟨record, ⟨ha.alive, ha.session, ha.accepted, h.1⟩, h.2⟩
    · exact h.imp id fun h => ⟨record, ⟨ha.alive, ha.session, ha.accepted, h.1⟩, h.2⟩

/-! ## No alert before its claim and its audit event -/

def SameAlerts (w w' : World) : Prop := w'.alerts = w.alerts

theorem sameAlerts : Spoken SameAlerts where
  refl _ := rfl
  trans _ _ _ h₁ h₂ := h₂.trans h₁
  poisoned _ := rfl
  audited _ _ := rfl
  wrote _ _ := rfl

/-- The claim is granted and in the journal, and then the request is admitted in the audit log. -/
structure ClaimedAndAudited (env : Env) (record : ValidatedAdmissionRecord) (w w' : World) : Prop where
  row : ∃ row, Appended record w w' row ∧ row.state = .inProgress
  answered : env.audit .requestAdmitted = true
  audit : w'.audit = w.audit ++ [(.requestAdmitted, some record.correlationId)]

/-- The audit event alone: the log answered, and the rest is as it was. -/
def AuditedNow (env : Env) (record : ValidatedAdmissionRecord) (w w' : World) : Prop :=
  env.audit .requestAdmitted = true ∧
    w' = { w with audit := w.audit ++ [(.requestAdmitted, some record.correlationId)] }

theorem auditOrUnavailable_none {svc : Service} {env : Env} {site : AuditSite} {reason : AuditReason}
    {cid : Option String} {poisons : Bool} {w w' : World}
    (h : auditOrUnavailable svc env site reason cid poisons w = (.ok none, w')) :
    env.audit site = true ∧ w' = { w with audit := w.audit ++ [(reason, cid)] } := by
  obtain ⟨r, t, hr, h⟩ := Prog.of_bind_ok h
  cases r with
  | ok _ =>
    cases h
    obtain ⟨hok, rfl⟩ := Prod.mk.inj hr
    unfold appendAudit at hok ⊢
    split
    · exact ⟨‹_›, rfl⟩
    · rename_i hfails
      rw [if_neg hfails] at hok
      cases hok
  | error e =>
    obtain ⟨_, _, -, h⟩ := Prog.of_bind_ok h
    cases cid with
    | none => cases h
    | some cid =>
      obtain ⟨_, _, -, h⟩ := Prog.of_bind_ok h
      obtain ⟨_, _, -, h⟩ := Prog.of_bind_ok h
      cases h

section
variable (svc : Service) (env : Env) (record : ValidatedAdmissionRecord)

theorem processClaimed_until (cl : ReplayClaim) :
    KeepsUntil SameAlerts (AuditedNow env record) (processClaimed svc env record cl) := by
  refine KeepsUntil.reach (sameAlerts.auditOrUnavailable svc env _ _ _ _) fun w r w' h => ?_
  cases r with
  | some failure => exact .inr (Keeps.pure sameAlerts.refl _)
  | none => exact .inl (auditOrUnavailable_none h)

theorem keeps_journalClaim : Keeps SameAlerts (journalClaim svc env record) := by
  intro w
  unfold journalClaim
  cases now env .claim <;> rfl

/-- What the claim says, and then what follows it. -/
def AuditedAfter (r : Except JournalError ReplayClaimResult) (w w' : World) : Prop :=
  (∃ replay cl, r = .ok replay ∧ replay.claim = some cl) ∧ AuditedNow env record w w'

theorem claimAndProcess_until : KeepsUntil SameAlerts
    (fun w w' => Granted svc env record w.journal ∧ ClaimedAndAudited env record w w') (claimAndProcess svc env record) := by
  refine KeepsUntil.bind_right sameAlerts.refl sameAlerts.trans (keeps_journalClaim svc env record)
    (Q := AuditedAfter env record) (fun r => ?_) fun w r w' w'' hr h => ?_
  · have unclaimed {P : World → World → Prop} {m : Act ProducerOrchestratorResult} (h : Keeps SameAlerts m) :
        KeepsUntil SameAlerts P m := .of_keeps sameAlerts.refl h
    cases r with
    | error e =>
      cases e with
      | requestReplayRejected => exact unclaimed (sameAlerts.auditAndAnswer _ _ _ _ _ (sameAlerts.answer _ _ _ _))
      | _ => exact unclaimed (sameAlerts.raiseAmbiguous _ _ _ _)
    | ok replay =>
      dsimp only
      split
      · refine unclaimed (sameAlerts.auditAndAnswer _ _ _ _ _ ?_)
        split
        · exact sameAlerts.poison_fail _
        · exact sameAlerts.write _ _ _
      · exact unclaimed (sameAlerts.auditAndAnswer _ _ _ _ _ (sameAlerts.answer _ _ _ _))
      · exact unclaimed (sameAlerts.auditAndAnswer _ _ _ _ _ (sameAlerts.answer _ _ _ _))
      · rename_i cl hcl _
        split
        · exact unclaimed (sameAlerts.poison_fail _)
        · exact (processClaimed_until svc env record cl).mono fun w w' h => ⟨⟨replay, cl, rfl, hcl⟩, h⟩
  · obtain ⟨⟨replay, cl, rfl, hcl⟩, haudit, rfl⟩ := h
    have hclaimed := journalClaim_claimed svc env record w w rfl
    rw [hr] at hclaimed
    rcases hclaimed with ⟨hn, -⟩ | ⟨_, -, -, -, hgranted, haudited, hwaits⟩
    · rw [hn] at hcl
      cases hcl
    · obtain ⟨row, hrow, hstate⟩ := hwaits.1.row
      exact ⟨hgranted, ⟨row, ⟨hrow.journal, hrow.requestId, hrow.alerts⟩, hstate⟩, haudit, by rw [haudited]⟩

end

theorem keeps_admitAndGate (svc : Service) (env : Env) (session : Session) :
    Keeps SameAlerts (admitAndGate svc env session) := by
  intro w
  have h := sameAlerts.admitAndGate svc env session w w rfl
  split at h
  · rename_i r w' heq
    rw [heq]
    cases r with
    | inl _ => exact h
    | inr _ => exact h.1 ▸ sameAlerts.refl w
  · rename_i heq
    rw [heq]
    exact h

/-- The request is claimed and audited by this call. -/
def ClaimedBy (svc : Service) (env : Env) (w w' : World) : Prop :=
  ∃ record, GrantsClaim svc env w record ∧ ClaimedAndAudited env record w w'

theorem releasing_until {P : World → World → Prop} {env : Env} {body : Act ProducerOrchestratorResult}
    (h : KeepsUntil SameAlerts P body) : KeepsUntil SameAlerts P (releasing env body) := by
  refine (h.attempt sameAlerts.refl).bind sameAlerts.trans fun outcome => ?_
  cases env.release with
  | error e => exact sameAlerts.poison_fail _
  | ok _ => exact Keeps.ofExcept sameAlerts.refl outcome

/-- The session's record is claimed and audited. -/
def ClaimedIn (svc : Service) (env : Env) (session : Session) (w w' : World) : Prop :=
  ∃ record, admitRecord env session = .ok record ∧ env.acquire = .ok .accepted ∧ Granted svc env record w.journal ∧
    ClaimedAndAudited env record w w'

theorem processSession_until (svc : Service) (env : Env) (session : Session) :
    KeepsUntil SameAlerts (ClaimedIn svc env session) (processSession svc env session) := by
  refine KeepsUntil.bind_right sameAlerts.refl sameAlerts.trans (keeps_admitAndGate svc env session)
    (Q := fun r w w' => ∃ record, r = .inr record ∧ Granted svc env record w.journal ∧ ClaimedAndAudited env record w w')
    (fun r => ?_) fun w r w' w'' hr h => ?_
  · cases r with
    | inl result => exact .of_keeps sameAlerts.refl (Keeps.pure sameAlerts.refl _)
    | inr record =>
      exact releasing_until ((claimAndProcess_until svc env record).mono fun w w' h => ⟨record, rfl, h⟩)
  · obtain ⟨record, rfl, hgranted, hclaimed⟩ := h
    have hgated := sameAlerts.admitAndGate svc env session w w rfl
    rw [hr] at hgated
    obtain ⟨rfl, hadmit, haccepted⟩ := hgated
    exact ⟨record, hadmit, haccepted, hgranted, hclaimed⟩

/-- **(a)** A call is a part that stores no alert, and a part that begins with the claim granted and the request
admitted in the audit log. -/
theorem processOne_until (svc : Service) (env : Env) : KeepsUntil SameAlerts (ClaimedBy svc env) (processOne svc env) := by
  have unclaimed {α : Type} {P : World → World → Prop} {m : Act α} (h : Keeps SameAlerts m) :
      KeepsUntil SameAlerts P m := .of_keeps sameAlerts.refl h
  refine KeepsUntil.bind_right sameAlerts.refl sameAlerts.trans (m := Prog.get) sameAlerts.refl
    (Q := fun a w w' => a.fatal = false ∧ ∃ session, env.accept = .ok (some session) ∧ ClaimedIn svc env session w w')
    (fun a => ?_) fun w a w' w'' hget h => ?_
  · split
    · exact unclaimed (sameAlerts.fail _)
    · rename_i hfatal
      refine KeepsUntil.bind_right sameAlerts.refl sameAlerts.trans (Keeps.ofExcept sameAlerts.refl _)
        (Q := fun _ w w' => ∃ session, env.accept = .ok (some session) ∧ ClaimedIn svc env session w w')
        (fun _ => ?_) fun w _ w' w'' hnow h => ⟨by simpa using hfatal, ?_⟩
      · cases haccept : env.accept with
        | error e => exact unclaimed (sameAlerts.acceptFailed env e)
        | ok session =>
          cases session with
          | none => exact unclaimed (sameAlerts.poison_fail _)
          | some session => exact (processSession_until svc env session).mono fun w w' h => ⟨session, rfl, h⟩
      · have hsame : w' = w := by
          cases ht : now env .accept with
          | error e =>
            rw [ht] at hnow
            cases hnow
          | ok t =>
            rw [ht] at hnow
            exact (Prod.mk.inj hnow).2.symm
        exact hsame ▸ h
  · cases hget
    obtain ⟨hfatal, session, haccept, record, hadmit, haccepted, hgranted, hclaimed⟩ := h
    exact ⟨record, ⟨hfatal, ⟨session, haccept, hadmit⟩, haccepted, hgranted⟩, hclaimed⟩

/-! ## Runs -/

/-- What is known of one call: when it stores alerts, and how it ends. -/
structure TellsTruth (svc : Service) (env : Env) (w w' : World) : Prop where
  /-- (a) No alert before the claim and the event; and none in a call that is refused one of them. -/
  order : KeepsUntil SameAlerts (ClaimedBy svc env) (processOne svc env)
  caused : w'.alerts ≠ w.alerts → ∃ record, GrantsClaim svc env w record ∧ env.audit .requestAdmitted = true
  ended : Unstored w w' ∨ ∃ record, GrantsClaim svc env w record ∧ Settled svc env record w w'

theorem processOne_tellsTruth (svc : Service) (env : Env) (w : World) :
    TellsTruth svc env w (processOne svc env w).2 where
  order := processOne_until svc env
  caused h := by
    obtain ⟨_, record, hgrants, hclaimed⟩ := (processOne_until svc env).reached sameAlerts.trans h
    exact ⟨record, hgrants, hclaimed.answered⟩
  ended := processOne_settled svc env w

/-- The row was completed by this call, with bytes that tell what it stored. -/
def CompletedIn (svc : Service) (env : Env) (row : ReplayRow) (w w' : World) : Prop :=
  ∃ record resp b, GrantsClaim svc env w record ∧ row.requestId = record.requestId ∧ row.responseBytes = some b ∧
    serializeProducerResponse resp = some b ∧ Truthful svc env record w.alerts w'.alerts resp

/-- What a call that was granted a claim has written: nothing, the bytes of its row, or that it could not audit. -/
def WrittenFor (row : ReplayRow) (w w' : World) : Prop :=
  w'.written = w.written ∨ ∃ b, w'.written = w.written ++ [b] ∧ (row.state = .completed ∧ row.responseBytes = some b ∨
    ∃ resp : ProducerResponse, serializeProducerResponse resp = some b ∧ resp.reason = .auditUnavailable ∧ w'.fatal = true)

theorem Settled.row {svc : Service} {env : Env} {record : ValidatedAdmissionRecord} {w w' : World}
    (h : Settled svc env record w w') : ∃ row, Appended record w w' row ∧ WrittenFor row w w' ∧
      (row.state = .completed → ∃ resp b, row.responseBytes = some b ∧ serializeProducerResponse resp = some b ∧
        Truthful svc env record w.alerts w'.alerts resp) := by
  cases h with
  | silent row hrow hstate hwritten =>
    refine ⟨row, hrow, .inl hwritten, fun h => ?_⟩
    rw [hstate] at h
    cases h
  | unavailable row resp b hrow hstate hresp hreason hwritten hfatal =>
    refine ⟨row, hrow, .inr ⟨b, hwritten, .inr ⟨resp, hresp, hreason, hfatal⟩⟩, fun h => ?_⟩
    rw [hstate] at h
    cases h
  | completed row resp b hrow hstate hbytes hresp htrue hwritten =>
    exact ⟨row, hrow, hwritten.imp id fun h => ⟨b, h, .inl ⟨hstate, hbytes⟩⟩, fun _ => ⟨resp, b, hbytes, hresp, htrue⟩⟩

theorem processOne_alerts (svc : Service) (w : World) (env : Env) : w.alerts <+: (processOne svc env w).2.alerts := by
  rcases processOne_settled svc env w with h | ⟨record, -, h⟩
  · exact h.2.symm ▸ List.prefix_rfl
  · obtain ⟨row, hrow, -⟩ := h.row
    exact hrow.alerts

theorem processOne_fatal (svc : Service) (w : World) (env : Env) (h : w.fatal = true) : (processOne svc env w).2 = w := by
  have hget : (Prog.get : Act World) w = (.ok w, w) := rfl
  rw [processOne, Prog.bind_ok hget, if_pos h]
  rfl

section
variable {svc : Service} {w₀ : World} {calls : List Env}

/-- Every row of a run was there at the start or was completed, if it is, by a call. -/
theorem completed_rows_of_run (k : Nat) : ∀ row ∈ (stateAt (step svc) w₀ calls k).journal, row.state = .completed →
    row ∈ w₀.journal ∨ ∃ j w env r w', j < k ∧ Happens (step svc) w₀ calls j w env r w' ∧
      CompletedIn svc env row w w' := by
  induction k with
  | zero => exact fun row hrow _ => .inl hrow
  | succ k ih =>
    intro row hrow hstate
    have earlier (hrow : row ∈ (stateAt (step svc) w₀ calls k).journal) : row ∈ w₀.journal ∨
        ∃ j w env r w', j < k + 1 ∧ Happens (step svc) w₀ calls j w env r w' ∧ CompletedIn svc env row w w' := by
      refine (ih row hrow hstate).imp id ?_
      rintro ⟨j, w, env, r, w', hj, h⟩
      exact ⟨j, w, env, r, w', Nat.lt_succ_of_lt hj, h⟩
    cases hinput : calls[k]? with
    | none =>
      rw [stateAt_succ_none _ hinput] at hrow
      exact earlier hrow
    | some env =>
      have hcall : Happens (step svc) w₀ calls k _ env _ _ := happens_of_input hinput
      rw [stateAt_succ _ hinput] at hrow
      rcases processOne_settled svc env (stateAt (step svc) w₀ calls k) with h | ⟨record, hgrants, h⟩
      · exact earlier (h.1 ▸ hrow)
      · obtain ⟨added, happended, -, htold⟩ := h.row
        rcases List.mem_append.1 (happended.journal ▸ hrow) with hrow | hrow
        · exact earlier hrow
        · obtain rfl := List.mem_singleton.1 hrow
          obtain ⟨resp, b, hbytes, hresp, htrue⟩ := htold hstate
          refine .inr ⟨k, _, env, _, _, Nat.lt_succ_self k, hcall, record, resp, b, hgrants, happended.requestId, hbytes,
            hresp, ?_⟩
          rwa [stateAt_succ _ hinput]

/-- A producer response tells the truth about persistence, in a run. -/
structure PersistenceRun (svc : Service) (w₀ : World) (calls : List Env) : Prop where
  call : ∀ k w env r w', Happens (step svc) w₀ calls k w env r w' → TellsTruth svc env w w'
  /-- (b), (c) Bytes completed in the journal, at any time, tell what their call stored. -/
  completed : ∀ k, ∀ row ∈ (stateAt (step svc) w₀ calls k).journal, row.state = .completed →
    row ∈ w₀.journal ∨ ∃ j w env r w', j < k ∧ Happens (step svc) w₀ calls j w env r w' ∧ CompletedIn svc env row w w'
  kept : ∀ j k, j ≤ k → (stateAt (step svc) w₀ calls j).alerts <+: (stateAt (step svc) w₀ calls k).alerts
  /-- (d) What a call writes whose claim was granted: its row is then in the journal. -/
  written : ∀ k w env r w', Happens (step svc) w₀ calls k w env r w' → w'.journal ≠ w.journal →
    ∃ row, w'.journal = w.journal ++ [row] ∧ WrittenFor row w w'
  /-- A poisoned service does nothing more. -/
  stopped : ∀ j k, j ≤ k → (stateAt (step svc) w₀ calls j).fatal = true →
    stateAt (step svc) w₀ calls k = stateAt (step svc) w₀ calls j

end

end ThreatFusion.Orchestrator
