import Mathlib.Data.List.DropRight
import ThreatFusion.Soar.DispatchRuns
/-
# Who may roll an execution back

`execute_approved_action` stores its `actor_id` as it was given; `rollback_executed_action` compares what is
stored with `actor_id.strip()`.

* `run_rollback`: the stored actor decides.
* `rollback_by_executor_iff`: the executor can roll back exactly when its identifier has no blanks around it.
-/
namespace ThreatFusion.Soar
open Py Concurrency Concurrency.Program

/-! ## Trimmed identifiers -/

theorem toList_strip (s : String) : (strip s).toList = (s.toList.dropWhile isSpace).rdropWhile isSpace := by
  rw [strip, String.toList_ofList, List.rdropWhile]

theorem strip_strip (s : String) : strip (strip s) = strip s := by
  have hdrop : ((s.toList.dropWhile isSpace).rdropWhile isSpace).dropWhile isSpace =
      (s.toList.dropWhile isSpace).rdropWhile isSpace := by
    rw [List.dropWhile_eq_self_iff]
    intro hlength
    -- what is kept starts as the text without its leading blanks does
    obtain ⟨rest, hrest⟩ := List.rdropWhile_prefix isSpace (l := s.toList.dropWhile isSpace)
    have hlength' : 0 < (s.toList.dropWhile isSpace).length := by
      rw [← hrest, List.length_append]
      omega
    have hhead := List.dropWhile_get_zero_not isSpace s.toList hlength'
    simp only [List.get_eq_getElem] at hhead ⊢
    rwa [List.getElem_of_eq hrest.symm, List.getElem_append_left hlength] at hhead
  have hlist : (strip (strip s)).toList = (strip s).toList := by
    rw [toList_strip (strip s), toList_strip s, hdrop, List.rdropWhile_idempotent]
  exact String.toList_inj.1 hlist

section
variable {rt : Runtime} {secret : String} {db db' : SoarDb}

/-! ## What an execution leaves -/

/-- An answered run was answered at its first call. -/
theorem run_call_eq_ok {κ ε σ η α : Type} {ρ : κ → Type} {handler : Handler ρ ε σ η} {envs : Nat → η} {c : κ}
    {next : ρ c → Program ρ ε α} {s s' : σ} {a : α} (h : run handler envs (.call c next) s = (.ok a, s')) :
    ∃ reply s₁, handler (envs 0) c s = (.ok reply, s₁) ∧
      run handler (fun n => envs (n + 1)) (next reply) s₁ = (.ok a, s') := by
  rw [run] at h
  split at h
  · rename_i reply s₁ hreply
    exact ⟨reply, s₁, hreply, h⟩
  · cases h

/-- The record of an execution, with the argument that was checked. -/
structure Executed (p a : String) (v : ℤ) (record : SoarPlaybookRecord) (db : SoarDb) : Prop where
  stored : getRecord p db = some record
  playbook : record.playbookId = p
  state : record.state = .executedSimulated
  version : record.version = v + 1
  actor : record.actorId = some a
  named : isBlank a = false
  snapshot : record.preActionSnapshot.isSome = true

theorem answered_get {env : AppendCall} {p : String} {found : Option SoarPlaybookRecord}
    (h : handle rt secret env (.getRecord p) db = (.ok found, db')) : getRecord p db = found ∧ db' = db := by
  by_cases hfault : env.fault = true
  · have herror : handle rt secret env (.getRecord p) db = (.error .sqlite, db) := if_pos hfault
    cases herror.symm.trans h
  · have hok : handle rt secret env (.getRecord p) db = (.ok (getRecord p db), db) := if_neg hfault
    cases hok.symm.trans h
    exact ⟨rfl, rfl⟩

theorem answered_save {env : AppendCall} {record : SoarPlaybookRecord} {reply : Unit}
    (h : handle rt secret env (.saveRecord record) db = (.ok reply, db')) : db' = putRecord record db := by
  rw [handle_save] at h
  split at h
  · cases h
  · cases h
    rfl

theorem answered_append {env : AppendCall} {ev : AuditEvent} {entry : SoarAuditEntry}
    (h : handle rt secret env (.appendAuditEvent ev) db = (.ok entry, db')) : db'.records = db.records := by
  by_cases hcommits : Commits secret env db
  · rw [handle_append rt env ev hcommits] at h
    cases h
    rfl
  · obtain ⟨e, he⟩ := appendAuditEvent_fails rt ev hcommits
    cases he.symm.trans h

theorem check_execute {p a : String} {v : ℤ} {record : SoarPlaybookRecord}
    (h : (executeApprovedAction p a v).check record = none) : record.state = .approved ∧ record.version = v := by
  unfold Transition.check at h
  split at h
  · cases h
  · rename_i hstate
    split at h
    · cases h
    · rename_i hversion
      exact ⟨not_not.1 hstate, not_not.1 hversion⟩

theorem run_execute {p a : String} {v : ℤ} {envs : Nat → AppendCall} {executed : SoarPlaybookRecord}
    (h : run (handle rt secret) envs (executeApprovedAction p a v).program db = (.ok (.record executed), db')) :
    Executed p a v executed db' := by
  cases hblank : isBlank a with
  | true =>
    have hbad : (executeApprovedAction p a v).badArgument =
        some (.valueError "actor_id is required to execute action") := by
      simp [executeApprovedAction, argumentError, hblank]
    rw [Transition.program, hbad] at h
    cases h
  | false =>
    have hbad : (executeApprovedAction p a v).badArgument = none := by
      simp [executeApprovedAction, argumentError, hblank]
    rw [Transition.program, hbad] at h
    obtain ⟨found, db₁, hget, hread⟩ := run_call_eq_ok h
    cases found with
    | none => cases hread
    | some record =>
      dsimp only at hread
      cases hcheck : (executeApprovedAction p a v).check record with
      | some e =>
        rw [hcheck] at hread
        cases hread
      | none =>
        rw [hcheck] at hread
        obtain ⟨now, db₂, hnow, hsaving⟩ := run_call_eq_ok hread
        obtain ⟨_, db₃, hsave, happending⟩ := run_call_eq_ok hsaving
        obtain ⟨_, db₄, happend, hend⟩ := run_call_eq_ok happending
        obtain ⟨hfound, -⟩ := answered_get hget
        obtain ⟨-, rfl⟩ := Prod.mk.inj hnow
        have hplaybook : record.playbookId = p := by
          have hfind : db.records.find? (·.playbookId = p) = some record := hfound
          simpa using List.find?_some hfind
        obtain ⟨hstate, hversion⟩ := check_execute hcheck
        have hrecords : db₄.records = db₃.records := answered_append happend
        obtain rfl := answered_save hsave
        obtain ⟨hresult, rfl⟩ := Prod.mk.inj hend
        obtain rfl := SoarResult.record.inj (Except.ok.inj hresult)
        exact ⟨by rw [getRecord, hrecords, ← getRecord, getRecord_putRecord]; exact if_pos hplaybook, hplaybook, rfl,
          by rw [← hversion]; rfl, rfl, hblank, rfl⟩

/-! ## Who may roll back -/

/-- SQLite does not fail, and the identifier of the event is new. -/
def Unfailing (envs : Nat → AppendCall) (db : SoarDb) : Prop :=
  (∀ n, (envs n).fault = false) ∧ ∀ row ∈ db.events, row.eventId ≠ (envs 4).eventId

/-- **The stored actor decides**: anyone else is refused, whatever SQLite does. -/
theorem rollback_refused {p a b : String} {v : ℤ} {executed : SoarPlaybookRecord} (reason : String) (v' : ℤ)
    (envs : Nat → AppendCall) (h : Executed p a v executed db) (hother : a ≠ strip b) :
    ∃ e, run (handle rt secret) envs (rollbackExecutedAction p b reason v').program db = (.error e, db) := by
  unfold Transition.program
  cases (rollbackExecutedAction p b reason v').badArgument with
  | some e => exact ⟨e, rfl⟩
  | none =>
    by_cases hfault : (envs 0).fault = true
    · exact run_error (fun ending => ∃ e, ending = (.error e, db)) (if_pos hfault) ⟨_, rfl⟩
    · have hget : handle rt secret (envs 0) (.getRecord p) db = (.ok (some executed), db) := by
        rw [← h.stored]
        exact if_neg hfault
      refine run_ok (fun ending => ∃ e, ending = (.error e, db)) hget ?_
      have hrefusal : ∃ e, (rollbackExecutedAction p b reason v').check executed = some e := by
        unfold Transition.check
        split
        · exact ⟨_, rfl⟩
        · split
          · exact ⟨_, rfl⟩
          · refine ⟨_, if_pos ?_⟩
            rw [h.actor]
            exact fun heq => hother (Option.some.inj heq)
      obtain ⟨e, he⟩ := hrefusal
      dsimp only
      rw [he]
      exact ⟨e, rfl⟩

/-- The last three calls of a transition: the clock, the save and the append. -/
theorem run_commit_ok (rt : Runtime) (t : Transition) (record : SoarPlaybookRecord) {envs : Nat → AppendCall}
    (hfault : ∀ n, (envs n).fault = false) (hsecret : secret ≠ "")
    (hfresh : ∀ row ∈ db.events, row.eventId ≠ (envs 2).eventId) :
    run (handle rt secret) envs (t.commit record) db =
      (.ok (.record (t.updated record (envs 0).now.isoformat)),
        savedAndAudited rt ⟨secret, hsecret⟩ (t.updated record (envs 0).now.isoformat) (envs 2)
          (t.event record (envs 0).now.isoformat) db) := by
  have hsave : handle rt secret (envs 1) (.saveRecord (t.updated record (envs 0).now.isoformat)) db =
      (.ok (), putRecord (t.updated record (envs 0).now.isoformat) db) := by
    rw [handle_save, hfault, if_neg Bool.false_ne_true]
  have hcommits : Commits secret (envs 2) (putRecord (t.updated record (envs 0).now.isoformat) db) :=
    ⟨hfault 2, hsecret, hfresh⟩
  have happend := handle_append rt (envs 2) (t.event record (envs 0).now.isoformat) hcommits
  refine run_ok (· = _) rfl ?_
  exact run_ok (· = _) hsave (run_ok (· = _) happend rfl)

theorem stored_savedAndAudited {key : LedgerSecret} {record : SoarPlaybookRecord} {env : AppendCall} {ev : AuditEvent}
    {p : String} (hp : record.playbookId = p) :
    getRecord p (savedAndAudited rt key record env ev db) = some record := by
  have hput := getRecord_putRecord record db p
  rw [if_pos hp] at hput
  exact hput

theorem Sealed.savedAndAudited {key : LedgerSecret} (h : Sealed rt key db) (hmac : HmacNonempty rt)
    (record : SoarPlaybookRecord) (env : AppendCall) (ev : AuditEvent) :
    Sealed rt key (savedAndAudited rt key record env ev db) := by
  have hput : Sealed rt key (putRecord record db) := ⟨h.chain, h.head, h.unsealed⟩
  exact sealed_appendRow hput (written_auditRow hmac hput)

/-- The execution of an approved record. -/
theorem run_execute_ok (rt : Runtime) {p a : String} {v : ℤ} {record : SoarPlaybookRecord} {envs : Nat → AppendCall}
    (hfound : getRecord p db = some record) (hstate : record.state = .approved) (hversion : record.version = v)
    (ha : isBlank a = false) (hfault : ∀ n, (envs n).fault = false) (hsecret : secret ≠ "")
    (hfresh : ∀ row ∈ db.events, row.eventId ≠ (envs 3).eventId) :
    run (handle rt secret) envs (executeApprovedAction p a v).program db =
      (.ok (.record ((executeApprovedAction p a v).updated record (envs 1).now.isoformat)),
        savedAndAudited rt ⟨secret, hsecret⟩ ((executeApprovedAction p a v).updated record (envs 1).now.isoformat)
          (envs 3) ((executeApprovedAction p a v).event record (envs 1).now.isoformat) db) := by
  have hbad : (executeApprovedAction p a v).badArgument = none := by simp [executeApprovedAction, argumentError, ha]
  have hget : handle rt secret (envs 0) (.getRecord p) db = (.ok (some record), db) := by
    rw [← hfound]
    exact if_neg (by rw [hfault]; exact Bool.false_ne_true)
  have hcheck : (executeApprovedAction p a v).check record = none := by
    have hrequired : record.state = (executeApprovedAction p a v).required := hstate
    have hexpected : record.version = (executeApprovedAction p a v).expectedVersion := hversion
    rw [Transition.check, if_neg (not_not.2 hrequired), if_neg (not_not.2 hexpected)]
    rfl
  rw [Transition.program, hbad]
  refine run_ok (· = _) hget ?_
  dsimp only
  rw [hcheck]
  exact run_commit_ok rt (executeApprovedAction p a v) record (fun n => hfault (n + 1)) hsecret hfresh

/-- The rollback by an actor whose trimmed identifier is the stored one. -/
theorem run_rollback {p a b reason : String} {v : ℤ} {executed : SoarPlaybookRecord} {envs : Nat → AppendCall}
    (h : Executed p a v executed db) (hb : isBlank b = false) (hreason : isBlank reason = false) (hmatch : a = strip b)
    (hchain : (verifyAuditChainIntegrity rt secret (some p) true db).1 = true) (hcalls : Unfailing envs db) :
    ∃ db', run (handle rt secret) envs (rollbackExecutedAction p b reason (v + 1)).program db =
        (.ok (.record ((rollbackExecutedAction p b reason (v + 1)).updated executed (envs 2).now.isoformat)), db') ∧
      getRecord p db' = some ((rollbackExecutedAction p b reason (v + 1)).updated executed (envs 2).now.isoformat) := by
  have hbad : (rollbackExecutedAction p b reason (v + 1)).badArgument = none := by
    simp [rollbackExecutedAction, argumentError, hb, hreason]
  have hcheck : (rollbackExecutedAction p b reason (v + 1)).check executed = none := by
    have hstate : executed.state = (rollbackExecutedAction p b reason (v + 1)).required := h.state
    have hversion : executed.version = (rollbackExecutedAction p b reason (v + 1)).expectedVersion := h.version
    rw [Transition.check, if_neg (not_not.2 hstate), if_neg (not_not.2 hversion)]
    refine if_neg ?_
    rw [h.actor, hmatch, ne_eq, not_not]
  obtain ⟨hfault, hfresh⟩ := hcalls
  have hsecret : secret ≠ "" := by
    rintro rfl
    rw [verifyAuditChainIntegrity, dif_pos rfl] at hchain
    cases hchain
  have hget : handle rt secret (envs 0) (.getRecord p) db = (.ok (some executed), db) := by
    rw [← h.stored]
    exact if_neg (by rw [hfault]; exact Bool.false_ne_true)
  have hverify : handle rt secret (envs 1) (.verifyAuditChainIntegrity (some p) true) db =
      (.ok (verifyAuditChainIntegrity rt secret (some p) true db), db) :=
    if_neg (by rw [hfault]; exact Bool.false_ne_true)
  have hcommit := run_commit_ok rt (rollbackExecutedAction p b reason (v + 1)) executed (fun n => hfault (n + 2))
    hsecret hfresh
  refine ⟨savedAndAudited rt ⟨secret, hsecret⟩
    ((rollbackExecutedAction p b reason (v + 1)).updated executed (envs 2).now.isoformat) (envs 4)
    ((rollbackExecutedAction p b reason (v + 1)).event executed (envs 2).now.isoformat) db, ?_,
    stored_savedAndAudited h.playbook⟩
  · rw [Transition.program, hbad]
    refine run_ok (· = _) hget ?_
    dsimp only
    rw [hcheck]
    refine run_ok (· = _) hverify ?_
    rw [hchain, if_pos rfl]
    exact hcommit

/-- **What a rollback after an execution should do.** -/
structure RolledBackByExecutor (rt : Runtime) (secret p a reason : String) (v : ℤ) (executed : SoarPlaybookRecord)
    (envs : Nat → AppendCall) (db : SoarDb) : Prop where
  succeeds : ∃ record db', run (handle rt secret) envs (rollbackExecutedAction p a reason (v + 1)).program db =
      (.ok (.record record), db') ∧ getRecord p db' = some record ∧ record.state = .rolledBack ∧
    record.preActionSnapshot = executed.preActionSnapshot ∧ record.preActionSnapshot.isSome = true
  others : ∀ b reason' v' envs', strip b ≠ strip a →
    ∃ e, run (handle rt secret) envs' (rollbackExecutedAction p b reason' v').program db = (.error e, db)

theorem not_rolledBack {p a reason : String} {v : ℤ} {executed : SoarPlaybookRecord} {envs : Nat → AppendCall}
    (h : Executed p a v executed db) (hblank : a ≠ strip a) :
    ¬ RolledBackByExecutor rt secret p a reason v executed envs db := by
  intro hrolled
  obtain ⟨record, db', hok, -⟩ := hrolled.succeeds
  obtain ⟨e, he⟩ := rollback_refused reason (v + 1) envs h hblank
  cases he.symm.trans hok

/-- **An execution can be rolled back by its executor** exactly when the identifier has no blanks around it. -/
theorem rollback_by_executor_iff {p a reason : String} {v : ℤ} {envs envs' : Nat → AppendCall}
    {executed : SoarPlaybookRecord} (hreason : isBlank reason = false)
    (hexecute : run (handle rt secret) envs (executeApprovedAction p a v).program db = (.ok (.record executed), db'))
    (hchain : (verifyAuditChainIntegrity rt secret (some p) true db').1 = true) (hcalls : Unfailing envs' db') :
    RolledBackByExecutor rt secret p a reason v executed envs' db' ↔ strip a = a := by
  have h := run_execute hexecute
  constructor
  · intro hrolled
    by_contra hstrip
    exact not_rolledBack h (fun heq => hstrip heq.symm) hrolled
  · intro hstrip
    obtain ⟨db'', hok, hstored⟩ := run_rollback h h.named hreason hstrip.symm hchain hcalls
    refine ⟨⟨_, db'', hok, hstored, rfl, rfl, ?_⟩, fun b reason' v' envs'' hb => ?_⟩
    · exact h.snapshot
    · refine rollback_refused reason' v' envs'' h fun heq => hb ?_
      rw [heq, strip_strip]

end

/-! ## An executor with a blank before its name -/

def executionBy (a : String) : Except SoarError SoarResult × SoarDb :=
  run (handle sampleRuntime sampleKey.1) (envsOf "88bb") (executeApprovedAction "soar:4be1c09d27aa" a 2).program
    approvedWorld.soar

/-- The execution of the sample, with its ledger intact. -/
theorem executionBy_ok {a : String} (ha : isBlank a = false) :
    ∃ executed, executionBy a = (.ok (.record executed), (executionBy a).2) ∧
      (verifyAuditChainIntegrity sampleRuntime sampleKey.1 (some "soar:4be1c09d27aa") true (executionBy a).2).1 = true ∧
      Unfailing (envsOf "99cc") (executionBy a).2 := by
  have hfound : getRecord "soar:4be1c09d27aa" approvedWorld.soar = some approvedSample := by decide +kernel
  have hfresh : ∀ row ∈ approvedWorld.soar.events, row.eventId ≠ (envsOf "88bb" 3).eventId := by decide +kernel
  have hfresh' : ∀ row ∈ approvedWorld.soar.events, row.eventId ≠ (envsOf "99cc" 4).eventId := by decide +kernel
  have hversion : approvedSample.version = 2 := rfl
  have hrun := run_execute_ok sampleRuntime hfound rfl hversion ha (fun _ => rfl) sampleKey.2 hfresh
  rw [executionBy, hrun]
  have hsealed := approvedWorld_sealed.savedAndAudited sampleRuntime_nonempty
    ((executeApprovedAction "soar:4be1c09d27aa" a 2).updated approvedSample (envsOf "88bb" 1).now.isoformat)
    (envsOf "88bb" 3)
    ((executeApprovedAction "soar:4be1c09d27aa" a 2).event approvedSample (envsOf "88bb" 1).now.isoformat)
  refine ⟨_, rfl, hsealed.verified ?_ true ?_, fun _ => rfl, ?_⟩
  · exact List.append_ne_nil_of_right_ne_nil _ (List.cons_ne_nil _ _)
  · rintro p ⟨⟩
    exact ⟨_, List.mem_append_right _ List.mem_cons_self, rfl⟩
  · intro row hrow
    rcases List.mem_append.1 hrow with hrow | hrow
    · exact hfresh' row hrow
    · have hids : (envsOf "88bb" 3).eventId ≠ (envsOf "99cc" 4).eventId := by decide
      rw [List.mem_singleton.1 hrow]
      exact hids

theorem rollback_by_executor_iff_sample :
    ∃ executed, RolledBackByExecutor sampleRuntime sampleKey.1 "soar:4be1c09d27aa" "analyst-b" "false positive" 2
      executed (envsOf "99cc") (executionBy "analyst-b").2 ↔ strip "analyst-b" = "analyst-b" := by
  have ha : isBlank "analyst-b" = false := by decide
  have hreason : isBlank "false positive" = false := by decide
  obtain ⟨executed, hexecute, hchain, hcalls⟩ := executionBy_ok ha
  exact ⟨executed, rollback_by_executor_iff hreason hexecute hchain hcalls⟩

/-- **Executed by " analyst-b"**, which no identifier rolls back. -/
theorem blank_before_the_name :
    ∃ executed, executionBy " analyst-b" = (.ok (.record executed), (executionBy " analyst-b").2) ∧
      (verifyAuditChainIntegrity sampleRuntime sampleKey.1 (some "soar:4be1c09d27aa") true
        (executionBy " analyst-b").2).1 = true ∧
      Unfailing (envsOf "99cc") (executionBy " analyst-b").2 ∧
      ¬ RolledBackByExecutor sampleRuntime sampleKey.1 "soar:4be1c09d27aa" " analyst-b" "false positive" 2 executed
        (envsOf "99cc") (executionBy " analyst-b").2 := by
  have ha : isBlank " analyst-b" = false := by decide
  have hblank : " analyst-b" ≠ strip " analyst-b" := by decide +kernel
  obtain ⟨executed, hexecute, hchain, hcalls⟩ := executionBy_ok ha
  exact ⟨executed, hexecute, hchain, hcalls, not_rolledBack (run_execute hexecute) hblank⟩

end ThreatFusion.Soar
