import ThreatFusion.Soar.Locking
/-
# A transition and its audit event

One client runs operations one after another; any repository call may fail. An operation saves the record
in one transaction and appends its event in the next, so a failure between the two leaves a record that the
ledger does not mention. `Spared` excludes exactly that: no append fails, and neither does a save after the
first of its operation.

* `Audited`: every record has an event, and the last one leads to its state.
* `run_transition`, `run_saveRecommended`: how an operation ends.
-/
namespace ThreatFusion.Soar
open Py Concurrency Concurrency.Program Machine Correlation

inductive EngineOp where
  | recommend (candidateId : String) (provenance : Option EntityProvenanceContract) (tApprovalQueued : Option ℚ)
  | lifecycle (op : SoarOp)

def EngineOp.program (rt : Runtime) : EngineOp → SoarProgram
  | .recommend candidateId provenance tApprovalQueued =>
    recommendActionsForAlert rt candidateId provenance tApprovalQueued
  | .lifecycle op => op.program rt

/-- One operation from its first call to its end; call `n` runs in environment `envs n`. -/
def engineStep (rt : Runtime) (secret : String) (db : SoarDb) (call : EngineOp × (Nat → AppendCall)) :
    Except SoarError SoarResult × SoarDb :=
  run (handle rt secret) call.2 (call.1.program rt) db

/-- The last event of a playbook, in chain order. -/
def lastEventOf (p : String) (db : SoarDb) : Option SoarAuditRow :=
  (db.events.filter (·.playbookId = p)).getLast?

def Audited (db : SoarDb) : Prop :=
  ∀ r ∈ db.records, ∃ e, lastEventOf r.playbookId db = some e ∧ e.newState = r.state.text

/-- **No failure between a save and its event.** -/
def Spared (secret : String) (before : List RepoCall) : RepoCall → AppendCall → SoarDb → Prop
  | .appendAuditEvent _, env, db => Commits secret env db
  | .saveRecord _, env, _ => (∃ record, .saveRecord record ∈ before) → env.fault = false
  | _, _, _ => True

/-- The tables after a save and the append of its event. -/
def savedAndAudited (rt : Runtime) (key : LedgerSecret) (record : SoarPlaybookRecord) (env : AppendCall)
    (ev : AuditEvent) (db : SoarDb) : SoarDb :=
  appendRow rt key (auditRow rt key env ev (putRecord record db)) (putRecord record db)

section
variable {rt : Runtime} {secret : String} {db : SoarDb}

theorem lastEventOf_appendRow {key : LedgerSecret} (row : SoarAuditRow) (p : String) :
    lastEventOf p (appendRow rt key row db) = if row.playbookId = p then some row else lastEventOf p db := by
  unfold lastEventOf appendRow
  rw [List.filter_append]
  by_cases hp : row.playbookId = p
  · simp [hp]
  · simp [hp]

theorem Audited.saved (h : Audited db) (rt : Runtime) (key : LedgerSecret) (env : AppendCall)
    (record : SoarPlaybookRecord) (ev : AuditEvent) (hp : ev.playbookId = record.playbookId)
    (hstate : ev.newState = record.state.text) :
    Audited (savedAndAudited rt key record env ev db) := by
  intro r hr
  have hrow : (auditRow rt key env ev (putRecord record db)).playbookId = record.playbookId := hp
  rw [savedAndAudited, lastEventOf_appendRow, hrow]
  rcases List.mem_append.1 hr with hold | hnew
  · obtain ⟨hmem, hne⟩ := List.mem_filter.1 hold
    have hne' : record.playbookId ≠ r.playbookId := fun heq => by simp [heq] at hne
    rw [if_neg hne']
    exact h r hmem
  · obtain rfl := List.mem_singleton.1 hnew
    exact ⟨_, if_pos rfl, hstate⟩

theorem Audited.timings (h : Audited db) (q : String) (queued callback response : ℚ) (updated : String) :
    Audited { db with records := db.records.map (updateTimings q queued callback response updated) } := by
  intro r' hr'
  obtain ⟨r, hr, rfl⟩ := List.mem_map.1 hr'
  have hsame : (updateTimings q queued callback response updated r).playbookId = r.playbookId ∧
      (updateTimings q queued callback response updated r).state = r.state := by
    unfold updateTimings
    split <;> exact ⟨rfl, rfl⟩
  rw [hsame.1, hsame.2]
  exact h r hr

/-- How one operation may end: refused with everything as it was, or done with the ledger up to date. -/
structure Ends (db : SoarDb) (ending : Except SoarError SoarResult × SoarDb) : Prop where
  refused : ∀ e, ending.1 = .error e → ending.2.records = db.records
  audited : Audited ending.2

theorem ends_refused (h : Audited db) (e : SoarError) : Ends db (.error e, db) :=
  ⟨fun _ _ => rfl, h⟩

theorem ends_ok {db' : SoarDb} (h : Audited db') (result : SoarResult) : Ends db (.ok result, db') where
  refused e he := by cases he
  audited := h

theorem handle_save (rt : Runtime) (secret : String) (db : SoarDb) (env : AppendCall) (record : SoarPlaybookRecord) :
    handle rt secret env (.saveRecord record) db =
      if env.fault = true then (.error .sqlite, db) else (.ok (), putRecord record db) := rfl

theorem handle_append (rt : Runtime) (env : AppendCall) (ev : AuditEvent) (h : Commits secret env db) :
    handle rt secret env (.appendAuditEvent ev) db =
      (.ok (auditRow rt ⟨secret, h.2.1⟩ env ev db).toSoarAuditEntry,
        appendRow rt ⟨secret, h.2.1⟩ (auditRow rt ⟨secret, h.2.1⟩ env ev db) db) :=
  appendAuditEvent_commits h

/-! ## Transitions -/

theorem run_saving (t : Transition) (haudited : Audited db) {before : List RepoCall} {envs : Nat → AppendCall}
    {r : SoarPlaybookRecord} {now : String} (hr : r.playbookId = t.playbookId)
    (h : Along (handle rt secret) (Spared secret) before envs (t.saving r now) db) :
    Ends db (run (handle rt secret) envs (t.saving r now) db) := by
  have hsave := handle_save rt secret db (envs 0) (t.updated r now)
  by_cases hfault : (envs 0).fault = true
  · rw [if_pos hfault] at hsave
    exact run_error (Ends db) hsave (ends_refused haudited _)
  · rw [if_neg hfault] at hsave
    have happend := handle_append rt (envs 1) (t.event r now) (h.rest hsave).here
    exact run_ok (Ends db) hsave (run_ok (Ends db) happend (ends_ok (haudited.saved _ _ _ _ _ hr.symm rfl) _))

theorem run_commit (t : Transition) (haudited : Audited db) {before : List RepoCall} {envs : Nat → AppendCall}
    {r : SoarPlaybookRecord} (hr : r.playbookId = t.playbookId)
    (h : Along (handle rt secret) (Spared secret) before envs (t.commit r) db) :
    Ends db (run (handle rt secret) envs (t.commit r) db) := by
  have hnow : handle rt secret (envs 0) .now db = (.ok (envs 0).now, db) := rfl
  exact run_ok (Ends db) hnow (run_saving t haudited hr (h.rest hnow))

theorem run_verifying (t : Transition) (haudited : Audited db) {before : List RepoCall}
    {envs : Nat → AppendCall} {r : SoarPlaybookRecord} (hr : r.playbookId = t.playbookId)
    (h : Along (handle rt secret) (Spared secret) before envs (t.verifying r) db) :
    Ends db (run (handle rt secret) envs (t.verifying r) db) := by
  unfold Transition.verifying at h ⊢
  cases hcheck : t.chainCheck with
  | none =>
    rw [hcheck] at h
    exact run_commit t haudited hr h
  | some message =>
    rw [hcheck] at h
    by_cases hfault : (envs 0).fault = true
    · exact run_error (Ends db) (if_pos hfault) (ends_refused haudited _)
    · have hverify : handle rt secret (envs 0) (.verifyAuditChainIntegrity (some t.playbookId) true) db =
          (.ok (verifyAuditChainIntegrity rt secret (some t.playbookId) true db), db) := if_neg hfault
      refine run_ok (Ends db) hverify ?_
      have hrest := h.rest hverify
      cases hok : (verifyAuditChainIntegrity rt secret (some t.playbookId) true db).1 with
      | false => exact ends_refused haudited _
      | true =>
        rw [hok, if_pos rfl] at hrest
        exact run_commit t haudited hr hrest

/-- **A transition alone.** -/
theorem run_transition (t : Transition) (haudited : Audited db) {envs : Nat → AppendCall}
    (h : Along (handle rt secret) (Spared secret) [] envs t.program db) :
    Ends db (run (handle rt secret) envs t.program db) := by
  unfold Transition.program at h ⊢
  cases hbad : t.badArgument with
  | some e => exact ends_refused haudited _
  | none =>
    rw [hbad] at h
    by_cases hfault : (envs 0).fault = true
    · exact run_error (Ends db) (if_pos hfault) (ends_refused haudited _)
    · have hget : handle rt secret (envs 0) (.getRecord t.playbookId) db = (.ok (getRecord t.playbookId db), db) :=
        if_neg hfault
      refine run_ok (Ends db) hget ?_
      have hrest := h.rest hget
      cases hfound : getRecord t.playbookId db with
      | none => exact ends_refused haudited _
      | some r =>
        rw [hfound] at hrest
        dsimp only at hrest ⊢
        cases hcheck : t.check r with
        | some e => exact ends_refused haudited _
        | none =>
          rw [hcheck] at hrest
          exact run_verifying t haudited (by simpa using List.find?_some hfound) hrest

/-! ## Callbacks and recommendations -/

theorem run_callback (haudited : Audited db) (p : String) (callback : ℚ) (queued : Option ℚ)
    (envs : Nat → AppendCall) :
    Ends db (run (handle rt secret) envs (recordCallbackVerification rt p callback queued) db) := by
  by_cases hfault : (envs 0).fault = true
  · exact run_error (Ends db) (if_pos hfault) (ends_refused haudited _)
  have hget : handle rt secret (envs 0) (.getRecord p) db = (.ok (getRecord p db), db) := if_neg hfault
  refine run_ok (Ends db) hget ?_
  cases getRecord p db with
  | none => exact ends_refused haudited _
  | some r =>
    dsimp only
    cases approvalTime rt queued r with
    | error e => exact ends_refused haudited _
    | ok approval =>
      refine run_ok (Ends db) rfl ?_
      by_cases hfault' : (envs 2).fault = true
      · exact run_error (Ends db) (if_pos hfault') (ends_refused haudited _)
      · exact run_ok (Ends db) (if_neg hfault') (ends_ok (haudited.timings p approval callback _ _) _)

/-- One record of a recommendation whose save succeeds. -/
theorem run_recommended_cons (Q : Except SoarError SoarResult × SoarDb → Prop) {candidateId : String}
    {all rest : List SoarPlaybookRecord} {r : SoarPlaybookRecord} {before : List RepoCall}
    {envs : Nat → AppendCall} (hstate : r.state = .pendingApproval) (haudited : Audited db)
    (h : Along (handle rt secret) (Spared secret) before envs (saveRecommended candidateId all (r :: rest)) db)
    (hfault : (envs 0).fault = false)
    (hnext : ∀ before' envs' db', (∃ record, .saveRecord record ∈ before') → Audited db' →
      Along (handle rt secret) (Spared secret) before' envs' (saveRecommended candidateId all rest) db' →
      Q (run (handle rt secret) envs' (saveRecommended candidateId all rest) db')) :
    Q (run (handle rt secret) envs (saveRecommended candidateId all (r :: rest)) db) := by
  have hsave := handle_save rt secret db (envs 0) r
  rw [hfault, if_neg Bool.false_ne_true] at hsave
  have happend := handle_append rt (envs 1) (recommendEvent candidateId r) (h.rest hsave).here
  have hsaved := haudited.saved rt ⟨secret, (h.rest hsave).here.2.1⟩ (envs 1) r (recommendEvent candidateId r) rfl
    (by rw [hstate]; rfl)
  exact run_ok Q hsave (run_ok Q happend (hnext _ _ _ ⟨r, by simp⟩ hsaved ((h.rest hsave).rest happend)))

/-- Once one of the records is saved, nothing fails any more. -/
theorem run_recommended (Q : Except SoarError SoarResult × SoarDb → Prop) (candidateId : String)
    (all : List SoarPlaybookRecord) (hdone : ∀ db', Audited db' → Q (.ok (.records all), db')) :
    ∀ (rest : List SoarPlaybookRecord) (before : List RepoCall) (envs : Nat → AppendCall) (db : SoarDb),
      (∀ r ∈ rest, r.state = .pendingApproval) → (∃ record, .saveRecord record ∈ before) → Audited db →
      Along (handle rt secret) (Spared secret) before envs (saveRecommended candidateId all rest) db →
      Q (run (handle rt secret) envs (saveRecommended candidateId all rest) db)
  | [], _, _, db, _, _, haudited, _ => hdone db haudited
  | r :: rest, before, envs, db, hstates, hbefore, haudited, h => by
    refine run_recommended_cons Q (hstates r List.mem_cons_self) haudited h (h.here hbefore) ?_
    intro before' envs' db' hbefore' haudited' hrest
    exact run_recommended Q candidateId all hdone rest before' envs' db'
      (fun x hx => hstates x (List.mem_cons_of_mem _ hx)) hbefore' haudited' hrest

theorem run_saveRecommended (candidateId : String) (all rest : List SoarPlaybookRecord)
    {before : List RepoCall} {envs : Nat → AppendCall} (hstates : ∀ r ∈ rest, r.state = .pendingApproval)
    (haudited : Audited db)
    (h : Along (handle rt secret) (Spared secret) before envs (saveRecommended candidateId all rest) db) :
    Ends db (run (handle rt secret) envs (saveRecommended candidateId all rest) db) := by
  cases rest with
  | nil => exact ends_ok haudited _
  | cons r rest =>
    cases hfault : (envs 0).fault with
    | true =>
      have hsave := handle_save rt secret db (envs 0) r
      rw [hfault, if_pos rfl] at hsave
      exact run_error (Ends db) hsave (ends_refused haudited _)
    | false =>
      refine run_recommended_cons (Ends db) (hstates r List.mem_cons_self) haudited h hfault ?_
      intro before' envs' db' hbefore' haudited' hrest
      exact run_recommended (Ends db) candidateId all (fun _ hdb => ends_ok hdb _) rest before' envs' db'
        (fun x hx => hstates x (List.mem_cons_of_mem _ hx)) hbefore' haudited' hrest

theorem run_recommend (haudited : Audited db) (candidateId : String)
    (provenance : Option EntityProvenanceContract) (queued : Option ℚ) {envs : Nat → AppendCall}
    (h : Along (handle rt secret) (Spared secret) [] envs
      (recommendActionsForAlert rt candidateId provenance queued) db) :
    Ends db (run (handle rt secret) envs (recommendActionsForAlert rt candidateId provenance queued) db) := by
  have hclock : ∀ env, handle rt secret env .now db = (.ok env.now, db) := fun _ => rfl
  have huuid : ∀ env, handle rt secret env .uuid4 db = (.ok env.uuid, db) := fun _ => rfl
  refine run_ok (Ends db) (hclock _) ?_
  replace h := h.rest (hclock _)
  dsimp only at h ⊢
  cases hp : provenance.filter (isVerified rt.toRuntime) with
  | none =>
    rw [hp] at h
    refine run_ok (Ends db) (huuid _) (run_saveRecommended candidateId _ _ ?_ haudited (h.rest (huuid _)))
    simp [pendingRecord]
  | some p =>
    rw [hp] at h
    dsimp only at h ⊢
    cases hip : given (srcIp p) with
    | none =>
      rw [hip] at h
      refine run_ok (Ends db) (huuid _) (run_saveRecommended candidateId _ _ ?_ haudited (h.rest (huuid _)))
      simp [pendingRecord]
    | some ip =>
      rw [hip] at h
      refine run_ok (Ends db) (huuid _) (run_ok (Ends db) (huuid _)
        (run_saveRecommended candidateId _ _ ?_ haudited ((h.rest (huuid _)).rest (huuid _))))
      simp [pendingRecord]

/-- **One operation.** -/
theorem engineStep_ends (haudited : Audited db) (call : EngineOp × (Nat → AppendCall))
    (h : Along (handle rt secret) (Spared secret) [] call.2 (call.1.program rt) db) :
    Ends db (engineStep rt secret db call) := by
  obtain ⟨op, envs⟩ := call
  cases op with
  | recommend candidateId provenance queued => exact run_recommend haudited candidateId provenance queued h
  | lifecycle op =>
    cases ht : op.transition with
    | some t =>
      have hprogram : (EngineOp.lifecycle op).program rt = t.program := SoarOp.program_transition ht
      rw [engineStep, hprogram]
      rw [hprogram] at h
      exact run_transition t haudited h
    | none =>
      cases op with
      | decide | execute | rollback => cases ht
      | callback p callback queued => exact run_callback haudited p callback queued envs

end

/-! ## Runs -/

def soarDbAt (rt : Runtime) (secret : String) (calls : List (EngineOp × (Nat → AppendCall))) (k : Nat) : SoarDb :=
  stateAt (engineStep rt secret) {} calls k

/-- **What is asked of a run of one client.** -/
structure AtomicRun (rt : Runtime) (secret : String) (calls : List (EngineOp × (Nat → AppendCall))) : Prop where
  unchanged : ∀ (k : Nat) call e, calls[k]? = some call →
    (engineStep rt secret (soarDbAt rt secret calls k) call).1 = .error e →
    (soarDbAt rt secret calls (k + 1)).records = (soarDbAt rt secret calls k).records
  audited : ∀ k, Audited (soarDbAt rt secret calls k)

def sparedCheck (secret : String) (before : List RepoCall) : RepoCall → AppendCall → SoarDb → Bool
  | .appendAuditEvent _, env, db => commitsCheck secret env db
  | .saveRecord _, env, _ => !before.any (fun c => match c with | .saveRecord _ => true | _ => false) || !env.fault
  | _, _, _ => true

theorem spared_of_check {secret : String} (before : List RepoCall) (c : RepoCall) (env : AppendCall) (db : SoarDb)
    (h : sparedCheck secret before c env db = true) : Spared secret before c env db := by
  cases c with
  | appendAuditEvent ev => exact commitsCheck_iff.1 h
  | saveRecord r =>
    rintro ⟨record, hmem⟩
    simp only [sparedCheck, Bool.or_eq_true, Bool.not_eq_true', List.any_eq_false] at h
    rcases h with h | h
    · exact absurd rfl (h _ hmem)
    · exact h
  | _ => trivial

/-- **Transitions and their events are atomic** in every run where no append fails and no save after the
first of its operation does. -/
theorem atomic_of_spared (rt : Runtime) (secret : String) (calls : List (EngineOp × (Nat → AppendCall)))
    (hspared : ∀ (k : Nat) call, calls[k]? = some call →
      Along (handle rt secret) (Spared secret) [] call.2 (call.1.program rt) (soarDbAt rt secret calls k)) :
    AtomicRun rt secret calls := by
  have hstart : Audited {} := fun r hr => by cases hr
  have haudited : ∀ k, Audited (soarDbAt rt secret calls k) := by
    intro k
    refine stateAt_inv_of (I := Audited)
      (A := fun db call => Along (handle rt secret) (Spared secret) [] call.2 (call.1.program rt) db)
      (fun _ call hdb h => ?_) hstart hspared k
    exact (engineStep_ends hdb call h).audited
  refine ⟨fun k call e hcall herror => ?_, haudited⟩
  have hnext : soarDbAt rt secret calls (k + 1) = (engineStep rt secret (soarDbAt rt secret calls k) call).2 :=
    stateAt_succ _ hcall
  rw [hnext]
  exact (engineStep_ends (haudited k) call (hspared k call hcall)).refused e herror

/-- Every call of an operation with one `uuid` and clock. -/
def envsOf (uuid : String) : Nat → AppendCall :=
  fun _ => { uuid, now := sampleMorning 10 0 }

def escalation : EngineOp × (Nat → AppendCall) := (.recommend "alert-7" none none, envsOf "4be1c09d27aa4f0e")

/-- The approval of what `escalation` recommends. -/
def approveEscalation : EngineOp := .lifecycle (.decide "soar:4be1c09d27aa" "analyst-a" "approve" "confirmed scan" 1)

theorem atomic_recommend_approve :
    AtomicRun sampleRuntime sampleKey.1 [escalation, (approveEscalation, envsOf "77aa")] := by
  refine atomic_of_spared sampleRuntime sampleKey.1 _ fun k call hcall => along_of_check spared_of_check _ _ _ _ ?_
  have hchecks : ((List.range 2).all fun k =>
      ([escalation, (approveEscalation, envsOf "77aa")][k]?).all fun call =>
        alongCheck (handle sampleRuntime sampleKey.1) (sparedCheck sampleKey.1) [] call.2
          (call.1.program sampleRuntime)
          (soarDbAt sampleRuntime sampleKey.1 [escalation, (approveEscalation, envsOf "77aa")] k)) = true := by
    decide +kernel
  have hk := List.all_eq_true.1 hchecks k (List.mem_range.2 (List.getElem?_eq_some_iff.1 hcall).1)
  rw [hcall] at hk
  exact hk

/-- The append of the approval fails: call 3, after read, clock and save. -/
def failingAppend : Nat → AppendCall := fun n => { envsOf "77aa" n with fault := n == 3 }

/-- The record is approved and its last event still says `pending_approval`. -/
theorem approved_without_event :
    ¬ AtomicRun sampleRuntime sampleKey.1 [escalation, (approveEscalation, failingAppend)] := by
  intro h
  have haudited := h.audited 2
  have hstates : (soarDbAt sampleRuntime sampleKey.1 [escalation, (approveEscalation, failingAppend)] 2).records.map
      (fun r => (r.playbookId, r.state)) = [("soar:4be1c09d27aa", .approved)] := by decide +kernel
  have hlast : (lastEventOf "soar:4be1c09d27aa"
      (soarDbAt sampleRuntime sampleKey.1 [escalation, (approveEscalation, failingAppend)] 2)).map (·.newState) =
      some "pending_approval" := by decide +kernel
  generalize soarDbAt sampleRuntime sampleKey.1 [escalation, (approveEscalation, failingAppend)] 2 = db
    at haudited hstates hlast
  obtain ⟨r, hr⟩ := List.length_eq_one_iff.1 (by simpa using congrArg List.length hstates)
  rw [hr, List.map_singleton, List.cons.injEq, Prod.mk.injEq] at hstates
  obtain ⟨e, he, hstate⟩ := haudited r (by rw [hr]; exact List.mem_singleton_self r)
  rw [hstates.1.1] at he
  rw [he, Option.map_some, Option.some.injEq, hstate, hstates.1.2] at hlast
  exact absurd hlast (by decide)

end ThreatFusion.Soar
