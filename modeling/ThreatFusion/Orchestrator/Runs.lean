import ThreatFusion.Lib.Machine
import ThreatFusion.Orchestrator.Frames
import ThreatFusion.Orchestrator.ResponseSize
import ThreatFusion.ReplayJournal.Runs
/-
# Runs of the orchestrator: no silently stranded claim

A run is a list of `process_one` calls, each with the answers of its environment (`Env`). The
property: while `_fatal` is false, no journal row of this service generation is `in_progress`.

After a grant there are more than a dozen exits. All of them complete the claim or set `_fatal`, with
three exceptions, where the monotonic clock is read outside the handlers that poison:

* `processing_started = self._monotonic_now()` (:602) is outside every `try`;
* `_complete_and_write` (:530) and the rejection handler (:635) catch only
  `ProducerOrchestratorError`, but `math.isfinite` raises `OverflowError` on an `int` above the
  largest double.

`ClockSound` is the condition that rules out these three.
-/
namespace ThreatFusion.Orchestrator
open Py Admission Alerts ReplayJournal Effect Machine

/-- No row of the generation is waiting for an outcome. -/
def NoStranded (gen : Generation) (db : JournalDb) : Prop :=
  ∀ row ∈ db, row.serviceGenerationId = gen.id → row.state ≠ .inProgress

/-- The only rows of the generation that wait are those of request `q`. -/
def OnlyWaiting (gen : Generation) (q : String) (db : JournalDb) : Prop :=
  ∀ row ∈ db, row.serviceGenerationId = gen.id → row.state = .inProgress → row.requestId = q

theorem noStranded_nil (gen : Generation) : NoStranded gen [] := fun _ h => absurd h List.not_mem_nil

/-- The invariant between calls. -/
def Safe (gen : Generation) (w : World) : Prop := w.fatal = true ∨ NoStranded gen w.journal

/-- The assertion between a grant and its completion. -/
def Waiting (gen : Generation) (q : String) (w : World) : Prop :=
  w.fatal = true ∨ OnlyWaiting gen q w.journal

/-- What every step but the two journal calls does to the world. -/
def Quiet (w w' : World) : Prop := w'.journal = w.journal ∧ (w.fatal = true → w'.fatal = true)

theorem Quiet.refl (w : World) : Quiet w w := ⟨rfl, id⟩

theorem Quiet.trans (a b c : World) (h₁ : Quiet a b) (h₂ : Quiet b c) : Quiet a c :=
  ⟨h₂.1.trans h₁.1, fun h => h₂.2 (h₁.2 h)⟩

theorem Quiet.safe {gen : Generation} (w w' : World) (h : Quiet w w') (hs : Safe gen w) : Safe gen w' :=
  hs.imp h.2 fun hn => by rwa [NoStranded, h.1]

theorem Quiet.waiting {gen : Generation} {q : String} (w w' : World) (h : Quiet w w')
    (hs : Waiting gen q w) : Waiting gen q w' :=
  hs.imp h.2 fun hn => by rwa [OnlyWaiting, h.1]

theorem Quiet.fatal (w w' : World) (h : Quiet w w') (hf : w.fatal = true) : w'.fatal = true := h.2 hf

theorem Safe.waiting {gen : Generation} {q : String} {w : World} (h : Safe gen w) : Waiting gen q w :=
  h.imp id fun hn row hr hg hs => absurd hs (hn row hr hg)

/-! ## Steps that leave the journal alone -/

theorem quiet : Spoken Quiet where
  refl := Quiet.refl
  trans := Quiet.trans
  poisoned _ := ⟨rfl, fun _ => rfl⟩
  audited _ _ := ⟨rfl, id⟩
  wrote _ _ := ⟨rfl, id⟩

theorem keeps_insertChecked (svc : Service) (env : Env) (started : ℚ) (i : Nat)
    (c : AlertCandidate svc.codec.sha256) : Keeps Quiet (insertChecked svc env started i c) := by
  intro w
  unfold insertChecked
  cases checkProcessing (env.monotonic (.beforeInsert i)) started none with
  | error e => exact Quiet.refl w
  | ok _ =>
    simp only
    cases (insert svc.codec.sha256 (env.insertFault i) w.alerts c).1 with
    | error e => exact ⟨rfl, id⟩
    | ok result =>
      simp only
      cases checkProcessing (env.monotonic (.afterInsert i)) started none with
      | error e => exact ⟨rfl, id⟩
      | ok _ => exact ⟨rfl, id⟩

/-! ## Exits of a granted claim -/

theorem safe_of_fatal {gen : Generation} {w : World} (h : w.fatal = true) : Safe gen w := .inl h

theorem raiseAmbiguous_fatal {α : Type} {P : World → Prop} (env : Env) (code : OrchestratorCode)
    (reason : AuditReason) (record : ValidatedAdmissionRecord) (Q : α → World → Prop) :
    Triple P (raiseAmbiguous env code reason record : Act α) Q (fun _ w => w.fatal = true) := by
  refine Triple.bind (R := fun _ w => w.fatal = true) (Triple.modify fun _ _ => rfl) fun _ => ?_
  refine Triple.bind (R := fun _ w => w.fatal = true) ?_ fun _ => Triple.throw fun _ h => h
  exact Triple.attempt ((quiet.appendAudit _ _ _ _).triple Quiet.fatal)

/-- With `poison=True`: either the event is in the log, or the service is poisoned. -/
theorem auditOrUnavailable_poisons {P : World → Prop} (hP : ∀ w w', Quiet w w' → P w → P w')
    (svc : Service) (env : Env) (site : AuditSite) (reason : AuditReason) (cid : String) :
    Triple P (auditOrUnavailable svc env site reason (some cid) true)
      (fun r w => match r with
        | none => P w ∧ env.audit site = true
        | some _ => w.fatal = true)
      (fun _ w => w.fatal = true) := by
  refine Triple.bind (R := fun r w => match r with
    | .ok _ => P w ∧ env.audit site = true
    | .error _ => True) (Triple.attempt ?_) fun r => ?_
  · unfold appendAudit
    split
    · exact Triple.modify fun w h => ⟨hP w _ ⟨rfl, id⟩ h, ‹_›⟩
    · exact Triple.throw fun _ _ => trivial
  · cases r with
    | ok _ => exact Triple.pure fun _ h => h
    | error e =>
      refine Triple.bind (R := fun _ w => w.fatal = true) (Triple.modify fun _ _ => rfl) fun _ => ?_
      refine Triple.bind (R := fun _ w => w.fatal = true) ((quiet.response _ _ _).triple Quiet.fatal)
        fun b => ?_
      exact Triple.bind (R := fun _ w => w.fatal = true) ((quiet.write _ _ _).triple Quiet.fatal)
        fun r => Triple.pure fun _ h => h

theorem checkProcessing_error {r : ClockReading} {started : ℚ} {rs : Option ℚ} {e : Exc}
    (h : checkProcessing r started rs = .error e) :
    (∃ code, e = .orchestrator code) ∨ e = .other ∧ monotonicNow r = .error .other := by
  unfold checkProcessing at h
  cases hm : monotonicNow r with
  | error e' =>
    rw [hm] at h
    cases h
    unfold monotonicNow at hm
    grind
  | ok t => grind

theorem checkBudget_spec {P : World → Prop} (env : Env) (record : ValidatedAdmissionRecord) (started : ℚ)
    (enforceBudget : Bool) (hclock : monotonicNow (env.monotonic .completion) ≠ .error .other) :
    Triple P (checkBudget env record started enforceBudget) (fun _ => P) (fun _ w => w.fatal = true) := by
  unfold checkBudget
  split
  · exact Triple.pure fun _ h => h
  · cases h : checkProcessing (env.monotonic .completion) started none with
    | ok _ => exact Triple.pure fun _ h => h
    | error e =>
      rcases checkProcessing_error h with ⟨code, rfl⟩ | ⟨-, hm⟩
      · exact raiseAmbiguous_fatal _ _ _ _ _
      · exact absurd hm hclock

theorem noStranded_of_completed {gen : Generation} {db : JournalDb} {q t d : String} {b : Bytes}
    (h : OnlyWaiting gen q db) :
    NoStranded gen (db.map fun r => if r.requestId == q then r.completeWith t b d else r) := by
  intro row hrow hgen
  obtain ⟨r, hr, rfl⟩ := List.mem_map.1 hrow
  by_cases hq : (r.requestId == q) = true
  · rw [if_pos hq]
    exact nofun
  · rw [if_neg hq] at hgen ⊢
    exact fun hs => hq (by simpa using h r hr hgen hs)

theorem journalComplete_spec (svc : Service) (env : Env) (cl : ReplayClaim) (b : Bytes) :
    Triple (Waiting svc.gen cl.requestId) (journalComplete svc env cl b)
      (fun r w => match r with
        | .ok _ => Safe svc.gen w
        | .error _ => True)
      (fun e _ => ∃ code, e = .orchestrator code) := by
  intro w hw
  unfold journalComplete
  cases ht : now env .complete with
  | error e =>
    unfold now at ht
    split at ht
    · cases ht; exact ⟨_, rfl⟩
    · cases ht
  | ok t =>
    rcases complete_cases svc.codec svc.gen cl b t env.completeFault w.journal with ⟨e, he⟩ | he
    · simp only [he]
    · simp only [he]
      exact hw.imp id noStranded_of_completed

theorem completeAndWrite_safe (svc : Service) (env : Env) (record : ValidatedAdmissionRecord)
    (cl : ReplayClaim) (b : Bytes) (started : ℚ) (enforceBudget : Bool)
    (hclock : monotonicNow (env.monotonic .completion) ≠ .error .other) :
    Triple (Waiting svc.gen cl.requestId) (completeAndWrite svc env record cl b started enforceBudget)
      (fun _ => Safe svc.gen) (fun _ => Safe svc.gen) := by
  refine Triple.bind ((auditOrUnavailable_poisons Quiet.waiting svc env _ _ _).weaken (fun _ h => h)
    (fun _ _ h => h) fun _ _ => safe_of_fatal) fun r => ?_
  cases r with
  | some failure => exact Triple.pure fun _ => safe_of_fatal
  | none =>
    refine Triple.bind (R := fun _ => Waiting svc.gen cl.requestId) ((checkBudget_spec _ _ _ _ hclock).weaken
      (fun _ h => h.1) (fun _ _ h => h) fun _ _ => safe_of_fatal) fun _ => ?_
    refine Triple.bind (R := fun r w => match r with
      | .ok (.ok _) => Safe svc.gen w
      | .ok (.error _) => True
      | .error e => ∃ code, e = .orchestrator code) (Triple.attempt ?_) fun r => ?_
    · exact (journalComplete_spec svc env cl b).weaken (fun _ h => h)
        (fun r _ h => by cases r <;> exact h) fun _ _ h => h
    · have ambiguous (P : World → Prop) : Triple P
          (raiseAmbiguous env .replayCompletionAmbiguous .internalError record)
          (fun _ : ProducerOrchestratorResult => Safe svc.gen) (fun _ => Safe svc.gen) :=
        (raiseAmbiguous_fatal env _ _ record _).weaken (fun _ h => h) (fun _ _ h => h)
          fun _ _ => safe_of_fatal
      rcases r with e | cached | cached
      · intro w ⟨code, hcode⟩
        subst hcode
        exact ambiguous (fun _ => True) w trivial
      · exact ambiguous _
      · simp only
        split
        · exact ambiguous _
        · exact (quiet.write _ _ _).triple Quiet.safe

theorem completeFailureAndWrite_safe (svc : Service) (env : Env) (failureReason : AuditReason)
    (record : ValidatedAdmissionRecord) (cl : ReplayClaim) (b : Bytes) (started : ℚ) (enforceBudget : Bool)
    (hclock : monotonicNow (env.monotonic .completion) ≠ .error .other) :
    Triple (Waiting svc.gen cl.requestId)
      (completeFailureAndWrite svc env failureReason record cl b started enforceBudget)
      (fun _ => Safe svc.gen) (fun _ => Safe svc.gen) := by
  refine Triple.bind ((auditOrUnavailable_poisons Quiet.waiting svc env _ _ _).weaken (fun _ h => h)
    (fun _ _ h => h) fun _ _ => safe_of_fatal) fun r => ?_
  cases r with
  | some failure => exact Triple.pure fun _ => safe_of_fatal
  | none =>
    exact (completeAndWrite_safe svc env record cl b started enforceBudget hclock).weaken
      (fun _ h => h.1) (fun _ _ h => h) fun _ _ h => h

/-- The failure response itself never fails: it has no records. -/
theorem completeFailure_safe (svc : Service) (env : Env) (failureReason : AuditReason)
    (reason : ResponseReason) (hreason : reason.v2TopLevel = true ∧ reason ≠ .requestCompleted)
    (record : ValidatedAdmissionRecord) (cl : ReplayClaim) (started : ℚ) (enforceBudget : Bool)
    (hclock : monotonicNow (env.monotonic .completion) ≠ .error .other) :
    Triple (Waiting svc.gen cl.requestId)
      (completeFailure svc env failureReason reason record cl started enforceBudget)
      (fun _ => Safe svc.gen) (fun _ => Safe svc.gen) := by
  obtain ⟨b, hb⟩ := response?_plain record.isUuid4_correlationId hreason.1 hreason.2
  refine Triple.bind (R := fun _ => Waiting svc.gen cl.requestId) ?_ fun b =>
    completeFailureAndWrite_safe svc env failureReason record cl b started enforceBudget hclock
  rw [response, hb]
  exact Triple.pure fun _ h => h

theorem inferenceFailed_safe (svc : Service) (env : Env) (record : ValidatedAdmissionRecord)
    (cl : ReplayClaim) (started : ℚ) (recordStarted : Option ℚ) (e : Exc)
    (hclock : monotonicNow (env.monotonic .completion) ≠ .error .other)
    (hhandler : svc.inline = true → monotonicNow (env.monotonic .rejectionHandler) ≠ .error .other) :
    Triple (Waiting svc.gen cl.requestId) (inferenceFailed svc env record cl started recordStarted e)
      (fun _ => Safe svc.gen) (fun _ => Safe svc.gen) := by
  have failure (failureReason : AuditReason) {reason : ResponseReason}
      (hreason : reason.v2TopLevel = true ∧ reason ≠ .requestCompleted) (enforceBudget : Bool) :=
    completeFailure_safe svc env failureReason reason hreason record cl started enforceBudget hclock
  have rejected : Triple (Waiting svc.gen cl.requestId) (completeRejected svc env record cl started)
      (fun _ => Safe svc.gen) (fun _ => Safe svc.gen) := by
    obtain ⟨ds, b, hds, hb⟩ := response?_rejected record
    rw [completeRejected, hds]
    refine Triple.bind (R := fun _ => Waiting svc.gen cl.requestId) ?_ fun b =>
      completeAndWrite_safe svc env record cl b started true hclock
    rw [response, hb]
    exact Triple.pure fun _ h => h
  unfold inferenceFailed
  cases e with
  | networkInference =>
    cases hin : svc.inline with
    | false => exact rejected
    | true =>
      simp only [Bool.not_true, Bool.false_eq_true, if_false]
      cases hc : checkProcessing (env.monotonic .rejectionHandler) started recordStarted with
      | ok _ => exact rejected
      | error e =>
        rcases checkProcessing_error hc with ⟨code, rfl⟩ | ⟨-, hm⟩
        · exact failure _ (by decide) _
        · exact absurd hm (hhandler hin)
  | worker code =>
    simp only
    split
    · exact failure _ (by decide) _
    · exact failure _ (by decide) _
  | orchestrator code =>
    have other : Triple (Waiting svc.gen cl.requestId) (poison >>= fun _ => fail code)
        (fun _ : ProducerOrchestratorResult => Safe svc.gen) (fun _ => Safe svc.gen) :=
      Triple.bind (R := fun _ => Safe svc.gen) (Triple.modify fun _ _ => safe_of_fatal rfl)
        fun _ => Triple.throw fun _ h => h
    cases code with
    | processingTimeout => exact failure _ (by decide) _
    | _ => exact other
  | alertCandidate =>
    exact (raiseAmbiguous_fatal env _ _ record _).weaken (fun _ h => h) (fun _ _ h => h)
      fun _ _ => safe_of_fatal
  | other =>
    exact (raiseAmbiguous_fatal env _ _ record _).weaken (fun _ h => h) (fun _ _ h => h)
      fun _ _ => safe_of_fatal

/-- The outcome of a turn is a value: nothing is raised past its `try`. -/
theorem insertChecked_ok (svc : Service) (env : Env) (started : ℚ) (i : Nat)
    (c : AlertCandidate svc.codec.sha256) (w : World) :
    ∃ outcome, (insertChecked svc env started i c w).1 = .ok outcome := by
  unfold insertChecked
  cases checkProcessing (env.monotonic (.beforeInsert i)) started none with
  | error e => exact ⟨_, rfl⟩
  | ok _ =>
    simp only
    cases (insert svc.codec.sha256 (env.insertFault i) w.alerts c).1 with
    | error e => exact ⟨_, rfl⟩
    | ok result =>
      simp only
      cases checkProcessing (env.monotonic (.afterInsert i)) started none with
      | error e => exact ⟨_, rfl⟩
      | ok _ => exact ⟨_, rfl⟩

theorem persistAll_spec {P : World → Prop} (hP : ∀ w w', Quiet w w' → P w → P w') (svc : Service)
    (env : Env) (record : ValidatedAdmissionRecord) (started : ℚ) :
    ∀ (i durable : Nat) (candidates : List (Option (AlertCandidate svc.codec.sha256))),
      Triple P (persistAll svc env record started i durable candidates) (fun _ => P)
        (fun _ w => w.fatal = true)
  | _, _, [] => Triple.pure fun _ h => h
  | i, durable, none :: rest =>
    Triple.bind (persistAll_spec hP svc env record started (i + 1) durable rest)
      fun _ => Triple.pure fun _ h => h
  | i, durable, some c :: rest => by
    refine Triple.bind (R := fun _ => P) ?_ fun outcome => ?_
    · intro w hw
      have hk := (keeps_insertChecked svc env started i c).triple hP w hw
      obtain ⟨outcome, hok⟩ := insertChecked_ok svc env started i c w
      rw [← Prod.eta (insertChecked svc env started i c w), hok] at hk ⊢
      exact hk
    · cases outcome with
      | done result =>
        exact Triple.bind (persistAll_spec hP svc env record started (i + 1) (durable + 1) rest)
          fun _ => Triple.pure fun _ h => h
      | persistenceError e =>
        simp only
        split
        · exact Triple.pure fun _ h => h
        · exact raiseAmbiguous_fatal _ _ _ _ _
      | checkFailed => exact raiseAmbiguous_fatal _ _ _ _ _

theorem buildCandidates_error {sha256 : Bytes → String} {env : Env} {e : Exc} :
    ∀ {i : Nat} {inferred : List RegisteredResult}, buildCandidates sha256 env i inferred = .error e →
      e = .alertCandidate ∨ ∃ code, e = .orchestrator code
  | _, [], h => by cases h
  | i, r :: rest, h => by
    have later {f : List (Option (AlertCandidate sha256)) → List (Option (AlertCandidate sha256))}
        (h : (buildCandidates sha256 env (i + 1) rest).map f = .error e) :
        e = .alertCandidate ∨ ∃ code, e = .orchestrator code := by
      cases hr : buildCandidates sha256 env (i + 1) rest with
      | ok cs => rw [hr] at h; cases h
      | error e' =>
        rw [hr] at h
        cases h
        exact buildCandidates_error hr
    unfold buildCandidates at h
    split at h
    · cases ht : now env (.candidate i) with
      | error e' =>
        rw [ht] at h
        cases h
        unfold now at ht
        split at ht <;> cases ht
        exact .inr ⟨_, rfl⟩
      | ok t =>
        rw [ht] at h
        simp only at h
        split at h
        · cases h
          exact .inl rfl
        · exact later h
    · exact later h

theorem persistAndRespond_safe (svc : Service) (env : Env) (record : ValidatedAdmissionRecord)
    (cl : ReplayClaim) (started : ℚ) (inferred : List RegisteredResult)
    (hclock : monotonicNow (env.monotonic .completion) ≠ .error .other) :
    Triple (Waiting svc.gen cl.requestId) (persistAndRespond svc env record cl started inferred)
      (fun _ => Safe svc.gen) (fun _ => Safe svc.gen) := by
  have failure := completeFailure_safe svc env .internalError .internalError (by decide)
    record cl started true hclock
  unfold persistAndRespond
  cases hb : buildCandidates svc.codec.sha256 env 0 inferred with
  | error e =>
    rcases buildCandidates_error hb with rfl | ⟨code, rfl⟩
    · exact failure
    · exact failure
  | ok candidates =>
    refine Triple.bind ((persistAll_spec Quiet.waiting svc env record started 0 0 candidates).weaken
      (fun _ h => h) (fun _ _ h => h) fun _ _ => safe_of_fatal) fun persisted => ?_
    cases persisted with
    | none => exact failure
    | some persisted =>
      simp only
      cases finalizeResponse record inferred persisted with
      | none =>
        exact (raiseAmbiguous_fatal env _ _ record _).weaken (fun _ h => h) (fun _ _ h => h)
          fun _ _ => safe_of_fatal
      | some b => exact completeAndWrite_safe svc env record cl b started true hclock

/-! ## The condition -/

/-- The call is granted a claim: every answer on the way to it is the good one, and the journal gives
the claim in the state before the call. -/
structure GrantsClaim (svc : Service) (env : Env) (w : World) (record : ValidatedAdmissionRecord) :
    Prop where
  alive : w.fatal = false
  session : ∃ session, env.accept = .ok (some session) ∧ admitRecord env session = .ok record
  accepted : env.acquire = .ok .accepted
  granted : ∃ t result cl, env.trustedNow .claim = some t ∧ result.claim = some cl ∧
    (claim svc.codec svc.gen record env.ownershipToken (some t) env.claimFault w.journal).1 = .ok result

/-- A call that is granted a claim and audits it gets a valid reading at the start of processing, and
no `int` above the largest double at the two checks that catch only `ProducerOrchestratorError`. -/
def ClockSound (svc : Service) (env : Env) (w : World) : Prop :=
  ∀ record, GrantsClaim svc env w record → env.audit .requestAdmitted = true →
    (∃ t, monotonicNow (env.monotonic .processingStarted) = .ok t) ∧
    monotonicNow (env.monotonic .completion) ≠ .error .other ∧
    (svc.inline = true → monotonicNow (env.monotonic .rejectionHandler) ≠ .error .other)

theorem processClaimed_safe (svc : Service) (env : Env) (record : ValidatedAdmissionRecord)
    (cl : ReplayClaim)
    (hclock : env.audit .requestAdmitted = true →
      (∃ t, monotonicNow (env.monotonic .processingStarted) = .ok t) ∧
      monotonicNow (env.monotonic .completion) ≠ .error .other ∧
      (svc.inline = true → monotonicNow (env.monotonic .rejectionHandler) ≠ .error .other)) :
    Triple (Waiting svc.gen cl.requestId) (processClaimed svc env record cl) (fun _ => Safe svc.gen)
      (fun _ => Safe svc.gen) := by
  refine Triple.bind ((auditOrUnavailable_poisons Quiet.waiting svc env _ _ _).weaken (fun _ h => h)
    (fun _ _ h => h) fun _ _ => safe_of_fatal) fun r => ?_
  cases r with
  | some failure => exact Triple.pure fun _ => safe_of_fatal
  | none =>
    intro w ⟨hw, haudit⟩
    obtain ⟨⟨t, ht⟩, hcompletion, hhandler⟩ := hclock haudit
    rw [ht]
    refine Triple.bind (R := fun _ => Waiting svc.gen cl.requestId) (Triple.pure fun _ h => h)
      (fun started => ?_) w hw
    simp only
    cases (inferRecords svc env record started).2 with
    | error e => exact inferenceFailed_safe svc env record cl started _ e hcompletion hhandler
    | ok inferred => exact persistAndRespond_safe svc env record cl started inferred hcompletion

/-! ## One call -/

theorem onlyWaiting_of_claimed {c : Codec} {gen : Generation} {r : ValidatedAdmissionRecord}
    {token : String} {t : DateTime} {db : JournalDb} (h : NoStranded gen db) :
    OnlyWaiting gen r.requestId (db ++ [newRow c gen r token t]) := by
  intro row hrow hgen hst
  rcases List.mem_append.1 hrow with hrow | hrow
  · exact absurd hst (h row hrow hgen)
  · rw [List.mem_singleton.1 hrow]
    rfl

/-- The state and the reply after the claim: nothing granted and nothing changed, or one row that
waits for this request. -/
theorem journalClaim_spec (svc : Service) (env : Env) (record : ValidatedAdmissionRecord) {w₀ : World}
    (h₀ : Safe svc.gen w₀) :
    Triple (· = w₀) (journalClaim svc env record)
      (fun r w => match r with
        | .error _ => Safe svc.gen w
        | .ok replay => replay.claim = none ∧ Safe svc.gen w ∨
          ∃ t cl, replay.disposition = .inProgress ∧ replay.claim = some cl ∧
            Waiting svc.gen cl.requestId w ∧ env.trustedNow .claim = some t ∧
            (claim svc.codec svc.gen record env.ownershipToken (some t) env.claimFault w₀.journal).1 =
              .ok replay)
      (fun _ => Safe svc.gen) := by
  rintro w rfl
  unfold journalClaim now
  cases ht : env.trustedNow .claim with
  | none => exact h₀
  | some t =>
    simp only
    rcases claim_cases svc.codec svc.gen record env.ownershipToken t env.claimFault w.journal with
      ⟨e, he⟩ | ⟨result, he, hn⟩ | ⟨he, -⟩
    · rw [he]
      exact h₀
    · rw [he]
      exact .inl ⟨hn, h₀⟩
    · rw [he]
      exact .inr ⟨t, _, rfl, rfl, h₀.imp id onlyWaiting_of_claimed, rfl, by rw [he]⟩

theorem claimAndProcess_safe (svc : Service) (env : Env) (record : ValidatedAdmissionRecord) {w₀ : World}
    (h₀ : Safe svc.gen w₀)
    (hclock : (∃ t result cl, env.trustedNow .claim = some t ∧ result.claim = some cl ∧
        (claim svc.codec svc.gen record env.ownershipToken (some t) env.claimFault w₀.journal).1 =
          .ok result) → env.audit .requestAdmitted = true →
      (∃ t, monotonicNow (env.monotonic .processingStarted) = .ok t) ∧
      monotonicNow (env.monotonic .completion) ≠ .error .other ∧
      (svc.inline = true → monotonicNow (env.monotonic .rejectionHandler) ≠ .error .other)) :
    Triple (· = w₀) (claimAndProcess svc env record) (fun _ => Safe svc.gen)
      (fun _ => Safe svc.gen) := by
  have answered (site : AuditSite) (reason : AuditReason) (cid : Option String)
      {act : Act ProducerOrchestratorResult} (h : Keeps Quiet act) :
      Triple (Safe svc.gen) (auditAndAnswer svc env site reason cid act) (fun _ => Safe svc.gen)
        (fun _ => Safe svc.gen) :=
    (quiet.auditAndAnswer svc env _ _ _ h).triple Quiet.safe
  have ambiguous : Triple (Safe svc.gen)
      (raiseAmbiguous env .replayClaimAmbiguous .internalError record : Act ProducerOrchestratorResult)
      (fun _ => Safe svc.gen) (fun _ => Safe svc.gen) :=
    (raiseAmbiguous_fatal env _ _ record _).weaken (fun _ h => h) (fun _ _ h => h) fun _ _ => safe_of_fatal
  have poisoned (P : World → Prop) (code : OrchestratorCode) : Triple P
      (poison >>= fun _ => fail code) (fun _ : ProducerOrchestratorResult => Safe svc.gen)
      (fun _ => Safe svc.gen) :=
    Triple.bind (R := fun _ => Safe svc.gen) (Triple.modify fun _ _ => safe_of_fatal rfl)
      fun _ => Triple.throw fun _ h => h
  refine Triple.bind (journalClaim_spec svc env record h₀) fun r => ?_
  cases r with
  | error e =>
    cases e with
    | requestReplayRejected => exact answered _ _ _ (quiet.answer _ _ _ _)
    | _ => exact ambiguous
  | ok replay =>
    refine Triple.of_state fun w hw => ?_
    rcases hw with ⟨hn, hw⟩ | ⟨t, cl, hd, hcl, hw, ht, hclaim⟩
    · simp only [hn]
      split
      · refine (answered _ _ _ ?_).at_state hw
        split
        · exact Keeps.bind Quiet.trans quiet.poison fun _ => quiet.fail _
        · exact quiet.write _ _ _
      · exact (answered _ _ _ (quiet.answer _ _ _ _)).at_state hw
      · exact (answered _ _ _ (quiet.answer _ _ _ _)).at_state hw
      · rename_i heq _
        cases heq
    · simp only [hd, hcl]
      split
      · exact (poisoned (Waiting svc.gen cl.requestId) _).at_state hw
      · exact (processClaimed_safe svc env record cl (hclock ⟨t, replay, cl, ht, hcl, hclaim⟩)).at_state hw

theorem processOne_safe (svc : Service) (w : World) (env : Env) (h : Safe svc.gen w)
    (hclock : ClockSound svc env w) : Safe svc.gen (processOne svc env w).2 := by
  refine quiet.processOne svc env (fun w' hq => hq.safe w w' h) (fun _ _ => safe_of_fatal rfl) fun record ha => ?_
  exact claimAndProcess_safe svc env record h fun hgrant =>
    hclock record ⟨ha.alive, ha.session, ha.accepted, hgrant⟩

/-! ## Runs -/

/-- The machine of `Lib.Machine`: one input is one call with its answers. -/
def step (svc : Service) (w : World) (env : Env) :
    Except Exc ProducerOrchestratorResult × World := processOne svc env w

/-! ### A call for one record -/

def sampleToken : String := "AAECAwQFBgcICQoLDA0ODxAREhMUFRYXGBkaGxwdHh8"

/-- The answer to the one rejected record of `batchRecord 1`. -/
def sampleResponse : ProducerResponse :=
  ⟨⟨.v2, "0b9b2f7e-6a7d-4f39-8c7f-5a1e0c9d4b21", .requestCompleted,
    [⟨{ recordIndex := 1, disposition := .rejected, reason := .inferenceRejected }, by decide⟩]⟩, by decide⟩

/-- SHA-256 of the three texts that the sample call hashes: the token (43 bytes), the answer (220) and
the framed references. -/
def sampleSha256 (b : Bytes) : String :=
  if b.length = 43 then "ea866a757e4c38babfa8127cbe9a409d3e1f93a00ff1488ff735fcf917afffd0"
  else if b.length = 220 then "f772402888334f89d72ad9506cc027fb0df0e1e78cf79f9625d03de422c0c8a6"
  else "b5be178a3612ef62bce83dc61b6a316d857eb3a71455577d175b5fe481e2edcc"

def sampleService : Service :=
  { codec := { sha256 := sampleSha256
               decodeProducerResponse := fun b =>
                 if b = encodedResponse sampleResponse then some sampleResponse else none }
    gen := ⟨"c2f9d1f4-7a30-4b6e-8d55-21e0b7a4c913", by decide⟩, inline := false }

/-- Every call answers as it should; the model rejects the one record. -/
def sampleEnv : Env :=
  let record := batchRecord 1 (by decide)
  { accept := .ok (some ⟨record.producerId, record.credentialId, [REGISTERED_UNSW_SOURCE_CONTRACT]⟩)
    readRequestHead := .ok (), readBody := .ok record.contentLength, admitted := .ok record
    acquire := .ok .accepted, release := .ok (), ownershipToken := sampleToken
    claimFault := .none, completeFault := .none
    worker := .ok (.batch [rejectedResult (sourceEvent 0)])
    prepare := .ok 1, infer := fun _ => .ok (rejectedResult (sourceEvent 0)), insertFault := fun _ => .none
    monotonic := fun _ => .float (.finite 100 "100.0")
    trustedNow := fun _ => some record.receivedAt, audit := fun _ => true, write := true }

def emptyWorld : World := ⟨[], [], [], [], false⟩

/-- **No silently stranded claim.** In every run whose calls meet `ClockSound`, after each call either
the service is poisoned or no row of its generation is `in_progress`. -/
theorem no_stranded_claim (svc : Service) (w₀ : World) (calls : List Env)
    (h₀ : NoStranded svc.gen w₀.journal)
    (hclock : ∀ k env, calls[k]? = some env → ClockSound svc env (stateAt (step svc) w₀ calls k)) (k : Nat)
    (halive : (stateAt (step svc) w₀ calls k).fatal = false) :
    NoStranded svc.gen (stateAt (step svc) w₀ calls k).journal := by
  have hsafe : Safe svc.gen (stateAt (step svc) w₀ calls k) :=
    stateAt_inv_of (fun w env h hc => processOne_safe svc w env h hc) (.inr h₀) hclock k
  exact hsafe.resolve_left (by rw [halive]; decide)

theorem no_stranded_claim_sample :
    NoStranded sampleService.gen (stateAt (step sampleService) emptyWorld [sampleEnv] 1).journal :=
  no_stranded_claim sampleService emptyWorld [sampleEnv] (noStranded_nil _)
    (fun k env h _ _ _ => by
      obtain rfl : sampleEnv = env := by
        rw [List.getElem?_singleton] at h
        split at h
        · exact Option.some.inj h
        · cases h
      exact ⟨⟨100, by decide +kernel⟩, by decide +kernel, nofun⟩)
    1 (by decide +kernel)

/-- The same call with a monotonic clock that raises. -/
def failingClockEnv : Env := { sampleEnv with monotonic := fun _ => .raised }

/-- The monotonic clock raises right after the claim was granted and audited: the row stays
`in_progress` and the service goes on. -/
theorem clock_failure_strands_claim :
    ¬ ∀ (svc : Service) (w₀ : World) (calls : List Env), w₀.fatal = false →
      NoStranded svc.gen w₀.journal → ∀ k, (stateAt (step svc) w₀ calls k).fatal = false →
        NoStranded svc.gen (stateAt (step svc) w₀ calls k).journal := by
  intro h
  have hend : (stateAt (step sampleService) emptyWorld [failingClockEnv] 1).fatal = false ∧
      ∃ row ∈ (stateAt (step sampleService) emptyWorld [failingClockEnv] 1).journal,
        row.serviceGenerationId = sampleService.gen.id ∧ row.state = .inProgress := by
    decide +kernel
  obtain ⟨halive, row, hm, hgen, hst⟩ := hend
  exact h sampleService emptyWorld [failingClockEnv] rfl (noStranded_nil _) 1 halive row hm hgen hst

end ThreatFusion.Orchestrator
