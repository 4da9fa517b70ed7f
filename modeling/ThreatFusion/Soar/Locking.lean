import ThreatFusion.Soar.Chain
import ThreatFusion.Soar.Engine
/-
# Concurrent lifecycle calls

Any number of calls run interleaved, one repository call at a time. The version check and the
`INSERT OR REPLACE` are two steps, so a save can land on a row that another call changed meanwhile. A run is
`Undisturbed` when no save does: the stored row still has the version and the callback times that the call
read. In such runs no update is lost.

* `getRecord_putRecord`, `getRecord_updateTimings`: what a write does to the row of a playbook.
* `TransitionOk`: where a call stands, with what it knows of the stored row; kept by every call.
* `Passed`: the calls past their save. The version counts them, and no two share a playbook and version.
-/
namespace ThreatFusion.Soar
open Py Concurrency Concurrency.Program Machine

inductive SoarOp where
  | decide (playbookId actorId decision reason : String) (expectedVersion : ℤ)
  | execute (playbookId actorId : String) (expectedVersion : ℤ)
  | rollback (playbookId actorId rollbackReason : String) (expectedVersion : ℤ)
  | callback (playbookId : String) (tCallbackVerified : ℚ) (tApprovalQueued : Option ℚ)

def SoarOp.transition : SoarOp → Option Transition
  | .decide playbookId actorId decision reason expectedVersion =>
    some (decideRecommendation playbookId actorId decision reason expectedVersion)
  | .execute playbookId actorId expectedVersion =>
    some (executeApprovedAction playbookId actorId expectedVersion)
  | .rollback playbookId actorId rollbackReason expectedVersion =>
    some (rollbackExecutedAction playbookId actorId rollbackReason expectedVersion)
  | .callback _ _ _ => none

def SoarOp.program (rt : Runtime) : SoarOp → SoarProgram
  | .decide playbookId actorId decision reason expectedVersion =>
    (decideRecommendation playbookId actorId decision reason expectedVersion).program
  | .execute playbookId actorId expectedVersion => (executeApprovedAction playbookId actorId expectedVersion).program
  | .rollback playbookId actorId rollbackReason expectedVersion =>
    (rollbackExecutedAction playbookId actorId rollbackReason expectedVersion).program
  | .callback playbookId tCallbackVerified tApprovalQueued =>
    recordCallbackVerification rt playbookId tCallbackVerified tApprovalQueued

/-- The transitions of the lifecycle. -/
inductive Allowed : PlaybookState → PlaybookState → Prop where
  | approve : Allowed .pendingApproval .approved
  | reject : Allowed .pendingApproval .rejected
  | execute : Allowed .approved .executedSimulated
  | rollback : Allowed .executedSimulated .rolledBack

theorem SoarOp.allowed {op : SoarOp} {t : Transition} (h : op.transition = some t) : Allowed t.required t.target := by
  cases op with
  | callback => cases h
  | decide playbookId actorId decision reason expectedVersion =>
    obtain rfl := Option.some.inj h
    by_cases hd : decision = "approve"
    · simp only [decideRecommendation, hd, if_true]
      exact .approve
    · simp only [decideRecommendation, hd, if_false]
      exact .reject
  | execute =>
    obtain rfl := Option.some.inj h
    exact .execute
  | rollback =>
    obtain rfl := Option.some.inj h
    exact .rollback

theorem SoarOp.program_transition {rt : Runtime} {op : SoarOp} {t : Transition} (h : op.transition = some t) :
    op.program rt = t.program := by
  cases op with
  | callback => cases h
  | decide | execute | rollback =>
    obtain rfl := Option.some.inj h
    rfl

/-! ## The row of a playbook -/

theorem getRecord_putRecord (record : SoarPlaybookRecord) (db : SoarDb) (p : String) :
    getRecord p (putRecord record db) = if record.playbookId = p then some record else getRecord p db := by
  unfold getRecord putRecord
  rw [List.find?_append, List.find?_singleton]
  by_cases hp : record.playbookId = p
  · have hnone : (db.records.filter (·.playbookId ≠ record.playbookId)).find? (·.playbookId = p) = none := by
      rw [List.find?_eq_none]
      intro r hr
      have := (List.mem_filter.1 hr).2
      simpa [hp] using this
    rw [hnone, if_pos hp, Option.none_or, if_pos (decide_eq_true hp)]
  · have hsame : (db.records.filter (·.playbookId ≠ record.playbookId)).find? (·.playbookId = p) =
        db.records.find? (·.playbookId = p) := by
      rw [List.find?_filter]
      congr 1
      funext r
      by_cases hr : r.playbookId = p
      · simp [hr, Ne.symm hp]
      · simp [hr]
    rw [hsame, if_neg hp, if_neg (by simpa using hp), Option.or_none]

theorem getRecord_updateTimings (q : String) (queued callback response : ℚ) (updated : String) (db : SoarDb)
    (p : String) :
    getRecord p { db with records := db.records.map (updateTimings q queued callback response updated) } =
      (getRecord p db).map (updateTimings q queued callback response updated) := by
  have hid : ∀ r, (updateTimings q queued callback response updated r).playbookId = r.playbookId := by
    intro r
    unfold updateTimings
    split <;> rfl
  unfold getRecord
  rw [List.find?_map]
  congr 2
  funext r
  simp only [Function.comp_apply, hid]

/-- **What one call does to the records.** -/
theorem handle_records (rt : Runtime) (secret : String) (env : AppendCall) (c : RepoCall) (db : SoarDb) :
    (handle rt secret env c db).2.records = db.records ∨
    (∃ record, c = .saveRecord record ∧ (handle rt secret env c db).2 = putRecord record db) ∨
    ∃ q queued callback response updated, c = .updateTimings q queued callback response updated ∧
      (handle rt secret env c db).2 =
        { db with records := db.records.map (updateTimings q queued callback response updated) } := by
  cases c with
  | now | uuid4 => exact .inl rfl
  | getRecord | verifyAuditChainIntegrity =>
    left
    simp only [handle]
    split <;> rfl
  | saveRecord record =>
    simp only [handle, saveRecord]
    split
    · exact .inl rfl
    · exact .inr (.inl ⟨record, rfl, rfl⟩)
  | appendAuditEvent ev =>
    left
    by_cases hc : Commits secret env db
    · rw [handle, appendAuditEvent_commits hc]
      rfl
    · obtain ⟨e, he⟩ := appendAuditEvent_fails rt ev hc
      rw [handle, he]
  | updateTimings q queued callback response updated =>
    simp only [handle]
    split
    · exact .inl rfl
    · exact .inr (.inr ⟨q, queued, callback, response, updated, rfl, rfl⟩)

/-! ## One lifecycle call -/

/-- What a call that has read `r` knows of the stored row. -/
structure Fresh (t : Transition) (r : SoarPlaybookRecord) (db : SoarDb) : Prop where
  playbook : r.playbookId = t.playbookId
  version : r.version = t.expectedVersion
  state : r.state = t.required
  stored : ∃ cur, getRecord t.playbookId db = some cur ∧ r.version ≤ cur.version ∧
    (r.version = cur.version → cur.state = r.state)

/-- The expected version is used up. -/
def Spent (t : Transition) (db : SoarDb) : Prop :=
  ∃ cur, getRecord t.playbookId db = some cur ∧ t.expectedVersion < cur.version

inductive TransitionOk (t : Transition) (db : SoarDb) (program : SoarProgram) : Prop where
  | start (h : program = t.program)
  | refused (e : SoarError) (h : program = .throw e)
  | verifying (r : SoarPlaybookRecord) (hr : Fresh t r db) (h : program = t.verifying r)
  | committing (r : SoarPlaybookRecord) (hr : Fresh t r db) (h : program = t.commit r)
  | saving (r : SoarPlaybookRecord) (now : String) (hr : Fresh t r db) (h : program = t.saving r now)
  | appending (r : SoarPlaybookRecord) (now : String) (hs : Spent t db) (h : program = t.appending r now)
  | returned (result : SoarResult) (hs : Spent t db) (h : program = .ret result)

def appendPending : SoarProgram → Bool
  | .call (.appendAuditEvent _) _ => true
  | _ => false

def returned : SoarProgram → Bool
  | .done (.ok _) => true
  | _ => false

/-- Past its save. -/
def passed (program : SoarProgram) : Bool := returned program || appendPending program

/-- Rows stay, versions do not go back, and a row of the same version has the same state. -/
def Grows (db db' : SoarDb) : Prop :=
  ∀ p cur, getRecord p db = some cur → ∃ cur', getRecord p db' = some cur' ∧ cur.version ≤ cur'.version ∧
    (cur.version = cur'.version → cur'.state = cur.state)

section
variable {rt : Runtime} {secret : String} {env : AppendCall} {t : Transition} {db db' : SoarDb}
  {program : SoarProgram} {r : SoarPlaybookRecord}

theorem Fresh.grows (h : Fresh t r db) (hg : Grows db db') : Fresh t r db' where
  playbook := h.playbook
  version := h.version
  state := h.state
  stored := by
    obtain ⟨cur, hcur, hle, hstate⟩ := h.stored
    obtain ⟨cur', hcur', hle', hstate'⟩ := hg _ cur hcur
    refine ⟨cur', hcur', hle.trans hle', fun heq => ?_⟩
    have hmid : r.version = cur.version := le_antisymm hle (heq ▸ hle')
    rw [hstate' (hmid ▸ heq), hstate hmid]

theorem Spent.grows (h : Spent t db) (hg : Grows db db') : Spent t db' := by
  obtain ⟨cur, hcur, hlt⟩ := h
  obtain ⟨cur', hcur', hle, -⟩ := hg _ cur hcur
  exact ⟨cur', hcur', hlt.trans_le hle⟩

theorem TransitionOk.grows (h : TransitionOk t db program) (hg : Grows db db') : TransitionOk t db' program := by
  cases h with
  | start h => exact .start h
  | refused e h => exact .refused e h
  | verifying r hr h => exact .verifying r (hr.grows hg) h
  | committing r hr h => exact .committing r (hr.grows hg) h
  | saving r now hr h => exact .saving r now (hr.grows hg) h
  | appending r now hs h => exact .appending r now (hs.grows hg) h
  | returned result hs h => exact .returned result (hs.grows hg) h

theorem Transition.check_eq_none (h : t.check r = none) : r.state = t.required ∧ r.version = t.expectedVersion := by
  unfold Transition.check at h
  by_cases hstate : r.state = t.required
  · by_cases hversion : r.version = t.expectedVersion
    · exact ⟨hstate, hversion⟩
    · simp [hstate, hversion] at h
  · simp [hstate] at h

theorem fresh_of_get (hget : getRecord t.playbookId db = some r) (hcheck : t.check r = none) : Fresh t r db where
  playbook := by simpa using List.find?_some hget
  version := (t.check_eq_none hcheck).2
  state := (t.check_eq_none hcheck).1
  stored := ⟨r, hget, le_rfl, fun _ => rfl⟩

/-- What a lifecycle call does: it saves, or it leaves the records alone and moves on. -/
inductive TransitionStep (t : Transition) (db : SoarDb) (c : RepoCall) (next : c.Reply → SoarProgram)
    (reply : Except SoarError c.Reply) (db' : SoarDb) : Prop where
  | save (r : SoarPlaybookRecord) (now : String) (hr : Fresh t r db) (hc : c = .saveRecord (t.updated r now))
    (hdb : db' = putRecord (t.updated r now) db) (hp : resume next reply = t.appending r now)
  | other (hrecords : db'.records = db.records) (hok : TransitionOk t db (resume next reply))
    (hpassed : passed (resume next reply) = passed (.call c next))

theorem step_getRecord {next : Option SoarPlaybookRecord → SoarProgram}
    (h : Program.call (.getRecord t.playbookId) next = t.program) :
    TransitionStep t db (.getRecord t.playbookId) next (handle rt secret env (.getRecord t.playbookId) db).1
      (handle rt secret env (.getRecord t.playbookId) db).2 := by
  unfold Transition.program at h
  cases hbad : t.badArgument with
  | some e => rw [hbad] at h; cases h
  | none =>
    rw [hbad] at h
    cases h
    simp only [handle]
    by_cases hfault : env.fault = true
    · rw [if_pos hfault]
      exact .other rfl (.refused _ rfl) rfl
    rw [if_neg hfault]
    cases hget : getRecord t.playbookId db with
    | none => exact .other rfl (.refused _ rfl) rfl
    | some r =>
      cases hcheck : t.check r with
      | some e => exact .other rfl (.refused e (by simp only [resume, hcheck])) (by simp only [resume, hcheck]; rfl)
      | none =>
        refine .other rfl (.verifying r (fresh_of_get hget hcheck) (by simp only [resume, hcheck])) ?_
        simp only [resume, hcheck, Transition.verifying]
        cases t.chainCheck <;> rfl

theorem step_commit {c : RepoCall} {next : c.Reply → SoarProgram} (hr : Fresh t r db)
    (h : Program.call c next = t.commit r) :
    TransitionStep t db c next (handle rt secret env c db).1 (handle rt secret env c db).2 := by
  cases h
  exact .other rfl (.saving r _ hr rfl) rfl

theorem step_verifying {c : RepoCall} {next : c.Reply → SoarProgram} (hr : Fresh t r db)
    (h : Program.call c next = t.verifying r) :
    TransitionStep t db c next (handle rt secret env c db).1 (handle rt secret env c db).2 := by
  unfold Transition.verifying at h
  cases hcheck : t.chainCheck with
  | none => rw [hcheck] at h; exact step_commit hr h
  | some message =>
    rw [hcheck] at h
    cases h
    simp only [handle]
    by_cases hfault : env.fault = true
    · rw [if_pos hfault]
      exact .other rfl (.refused _ rfl) rfl
    rw [if_neg hfault]
    cases hok : (verifyAuditChainIntegrity rt secret (some t.playbookId) true db).1 with
    | false => 
      refine .other rfl (.refused (.stateTransition (message
        (verifyAuditChainIntegrity rt secret (some t.playbookId) true db).2)) ?_) ?_
      · simp [resume, hok]
      · simp [resume, hok]
        rfl
    | true => exact .other rfl (.committing r hr (by simp [resume, hok])) (by simp [resume, hok]; rfl)

theorem step_saving {c : RepoCall} {next : c.Reply → SoarProgram} {now : String} (hr : Fresh t r db)
    (h : Program.call c next = t.saving r now) :
    TransitionStep t db c next (handle rt secret env c db).1 (handle rt secret env c db).2 := by
  cases h
  simp only [handle, saveRecord]
  by_cases hfault : env.fault = true
  · rw [if_pos hfault]
    exact .other rfl (.refused _ rfl) rfl
  · rw [if_neg hfault]
    exact .save r now hr rfl rfl rfl

theorem step_appending {c : RepoCall} {next : c.Reply → SoarProgram} {now : String} (hs : Spent t db)
    (hcommits : ∀ ev, c = .appendAuditEvent ev → Commits secret env db)
    (h : Program.call c next = t.appending r now) :
    TransitionStep t db c next (handle rt secret env c db).1 (handle rt secret env c db).2 := by
  cases h
  simp only [handle, appendAuditEvent_commits (hcommits _ rfl)]
  exact .other rfl (.returned _ hs rfl) rfl

/-- **One call of a lifecycle operation.** -/
theorem TransitionOk.step (rt : Runtime) {c : RepoCall} {next : c.Reply → SoarProgram}
    (hok : TransitionOk t db (.call c next))
    (hcommits : ∀ ev, c = .appendAuditEvent ev → Commits secret env db) :
    TransitionStep t db c next (handle rt secret env c db).1 (handle rt secret env c db).2 := by
  cases hok with
  | start h =>
    have hc : c = .getRecord t.playbookId := by
      unfold Transition.program at h
      cases hbad : t.badArgument with
      | some e => rw [hbad] at h; cases h
      | none => rw [hbad] at h; cases h; rfl
    subst hc
    exact step_getRecord h
  | refused e h => cases h
  | verifying r hr h => exact step_verifying hr h
  | committing r hr h => exact step_commit hr h
  | saving r now hr h => exact step_saving hr h
  | appending r now hs h => exact step_appending hs hcommits h
  | returned result hs h => cases h

end

/-! ## The pool -/

abbrev SoarPool := Pool RepoCall.Reply SoarError SoarDb SoarResult SoarOp

def startPool (rt : Runtime) (ops : List SoarOp) (db : SoarDb) : SoarPool :=
  { state := db, clients := ops.map fun op => (op, op.program rt) }

/-- Lifecycle operations write records and events, callbacks the three times. -/
def MayCall (op : SoarOp) : RepoCall → Prop
  | .saveRecord _ | .appendAuditEvent _ => op.transition.isSome = true
  | .updateTimings _ _ _ _ _ => op.transition = none
  | _ => True

/-- **No save of the move lands on a row that changed since it was read, and every append commits.** -/
def Undisturbed (secret : String) (pool : SoarPool) (move : Nat × AppendCall) : Prop :=
  ∀ op program, pool.clients[move.1]? = some (op, program) →
    (∀ record next, program = .call (.saveRecord record) next →
      ∀ cur, getRecord record.playbookId pool.state = some cur → cur.version + 1 = record.version ∧
        cur.tCallbackVerified = record.tCallbackVerified ∧ cur.tResponse = record.tResponse) ∧
    ∀ ev next, program = .call (.appendAuditEvent ev) next → Commits secret move.2 pool.state

structure ClientOk (op : SoarOp) (program : SoarProgram) (db : SoarDb) : Prop where
  lifecycle : ∀ t, op.transition = some t → TransitionOk t db program
  writes : Only (MayCall op) program

section
variable {rt : Runtime} {secret : String} {op : SoarOp} {db db' : SoarDb}

theorem only_verifying {t : Transition} (ht : op.transition = some t) (r : SoarPlaybookRecord) :
    Only (MayCall op) (t.verifying r) := by
  have hsome : op.transition.isSome = true := by rw [ht]; rfl
  have hcommit : Only (MayCall op) (t.commit r) := ⟨trivial, fun _ => ⟨hsome, fun _ => ⟨hsome, fun _ => trivial⟩⟩⟩
  unfold Transition.verifying
  cases t.chainCheck with
  | none => exact hcommit
  | some message =>
    refine ⟨trivial, fun (ok, text) => ?_⟩
    cases ok
    · exact trivial
    · exact hcommit

theorem only_program (rt : Runtime) (op : SoarOp) : Only (MayCall op) (op.program rt) := by
  cases ht : op.transition with
  | some t =>
    rw [SoarOp.program_transition ht, Transition.program]
    cases t.badArgument with
    | some e => exact trivial
    | none =>
      refine ⟨trivial, fun found : Option SoarPlaybookRecord => ?_⟩
      cases found with
      | none => exact trivial
      | some r =>
        dsimp only
        cases t.check r with
        | some e => exact trivial
        | none => exact only_verifying ht r
  | none =>
    cases op with
    | decide | execute | rollback => cases ht
    | callback playbookId tCallbackVerified tApprovalQueued =>
      refine ⟨trivial, fun found : Option SoarPlaybookRecord => ?_⟩
      cases found with
      | none => exact trivial
      | some r =>
        dsimp only
        cases approvalTime rt tApprovalQueued r with
        | error e => exact trivial
        | ok approval => exact ⟨trivial, fun _ => ⟨rfl, fun _ => trivial⟩⟩

theorem clientOk_start (rt : Runtime) (op : SoarOp) (db : SoarDb) : ClientOk op (op.program rt) db where
  lifecycle _ ht := .start (SoarOp.program_transition ht)
  writes := only_program rt op

theorem getRecord_saved {t : Transition} {r : SoarPlaybookRecord} (hr : Fresh t r db) (now p : String) :
    getRecord p (putRecord (t.updated r now) db) =
      if t.playbookId = p then some (t.updated r now) else getRecord p db := by
  rw [getRecord_putRecord, show (t.updated r now).playbookId = t.playbookId from hr.playbook]

/-- A save that hits the version it read. -/
def SaveHits (t : Transition) (r : SoarPlaybookRecord) (db : SoarDb) : Prop :=
  ∃ cur, getRecord t.playbookId db = some cur ∧ cur.version = r.version ∧ cur.state = r.state ∧
    cur.tCallbackVerified = r.tCallbackVerified ∧ cur.tResponse = r.tResponse

theorem Fresh.saveHits {t : Transition} {r : SoarPlaybookRecord} (now : String) (hr : Fresh t r db)
    (hund : ∀ cur, getRecord (t.updated r now).playbookId db = some cur →
      cur.version + 1 = (t.updated r now).version ∧
        cur.tCallbackVerified = (t.updated r now).tCallbackVerified ∧
        cur.tResponse = (t.updated r now).tResponse) : SaveHits t r db := by
  obtain ⟨cur, hcur, -, hstate⟩ := hr.stored
  obtain ⟨hversion, hcallback, hresponse⟩ := hund cur (hr.playbook.symm ▸ hcur)
  have hv : cur.version = r.version := by
    have : cur.version + 1 = r.version + 1 := hversion
    omega
  exact ⟨cur, hcur, hv, hstate hv.symm, hcallback, hresponse⟩

/-- What the claim asks of one step. -/
structure StepHolds (op : SoarOp) (db db' : SoarDb) : Prop where
  path : ∀ p cur, getRecord p db = some cur → ∃ cur', getRecord p db' = some cur' ∧
    (cur'.state = cur.state ∨ Allowed cur.state cur'.state)
  kept : op.transition.isSome = true → ∀ p cur cur', getRecord p db = some cur → getRecord p db' = some cur' →
    cur'.tCallbackVerified = cur.tCallbackVerified ∧ cur'.tResponse = cur.tResponse

theorem grows_save {t : Transition} {r : SoarPlaybookRecord} (hr : Fresh t r db) (hits : SaveHits t r db)
    (now : String) : Grows db (putRecord (t.updated r now) db) := by
  obtain ⟨stored, hstored, hversion, -⟩ := hits
  intro p cur hcur
  rw [getRecord_saved hr]
  by_cases hp : t.playbookId = p
  · subst hp
    obtain rfl : stored = cur := Option.some.inj (hstored.symm.trans hcur)
    rw [if_pos rfl]
    have hnext : (t.updated r now).version = stored.version + 1 := by rw [hversion]; rfl
    exact ⟨_, rfl, by omega, fun heq => by omega⟩
  · rw [if_neg hp]
    exact ⟨cur, hcur, le_rfl, fun _ => rfl⟩

theorem stepHolds_save {t : Transition} {r : SoarPlaybookRecord} (ht : op.transition = some t)
    (hr : Fresh t r db) (hits : SaveHits t r db) (now : String) :
    StepHolds op db (putRecord (t.updated r now) db) := by
  obtain ⟨stored, hstored, -, hstate, hcallback, hresponse⟩ := hits
  constructor
  · intro p cur hcur
    rw [getRecord_saved hr]
    by_cases hp : t.playbookId = p
    · subst hp
      obtain rfl : stored = cur := Option.some.inj (hstored.symm.trans hcur)
      rw [if_pos rfl]
      refine ⟨_, rfl, .inr ?_⟩
      rw [hstate, hr.state]
      exact op.allowed ht
    · rw [if_neg hp]
      exact ⟨cur, hcur, .inl rfl⟩
  · intro _ p cur cur' hcur hcur'
    rw [getRecord_saved hr] at hcur'
    by_cases hp : t.playbookId = p
    · subst hp
      obtain rfl : stored = cur := Option.some.inj (hstored.symm.trans hcur)
      rw [if_pos rfl] at hcur'
      obtain rfl := Option.some.inj hcur'
      exact ⟨hcallback.symm, hresponse.symm⟩
    · rw [if_neg hp] at hcur'
      obtain rfl := Option.some.inj (hcur'.symm.trans hcur)
      exact ⟨rfl, rfl⟩

/-- Every row keeps its version and state, and its times too unless a callback wrote them. -/
def Keeps (op : SoarOp) (db db' : SoarDb) : Prop :=
  ∀ p cur, getRecord p db = some cur → ∃ cur', getRecord p db' = some cur' ∧
    cur'.version = cur.version ∧ cur'.state = cur.state ∧ (op.transition.isSome = true → cur' = cur)

theorem keeps_of_records (h : db'.records = db.records) : Keeps op db db' := by
  intro p cur hcur
  refine ⟨cur, ?_, rfl, rfl, fun _ => rfl⟩
  rw [getRecord, h]
  exact hcur

theorem keeps_timings (hop : op.transition = none) (q : String) (queued callback response : ℚ) (updated : String) :
    Keeps op db { db with records := db.records.map (updateTimings q queued callback response updated) } := by
  intro p cur hcur
  rw [getRecord_updateTimings, hcur]
  refine ⟨updateTimings q queued callback response updated cur, rfl, ?_, ?_, fun h => by rw [hop] at h; cases h⟩ <;>
    unfold updateTimings <;> split <;> rfl

theorem Keeps.grows (h : Keeps op db db') : Grows db db' := by
  intro p cur hcur
  obtain ⟨cur', hcur', hversion, hstate, -⟩ := h p cur hcur
  exact ⟨cur', hcur', hversion.ge, fun _ => hstate⟩

theorem Keeps.stepHolds (h : Keeps op db db') : StepHolds op db db' where
  path p cur hcur := by
    obtain ⟨cur', hcur', -, hstate, -⟩ := h p cur hcur
    exact ⟨cur', hcur', .inl hstate⟩
  kept hop p cur cur' hcur hcur' := by
    obtain ⟨cur₂, hcur₂, -, -, hsame⟩ := h p cur hcur
    obtain rfl : cur₂ = cur' := Option.some.inj (hcur₂.symm.trans hcur')
    rw [hsame hop]
    exact ⟨rfl, rfl⟩

end

def onPlaybook (op : SoarOp) (p : String) : Bool := op.transition.any (·.playbookId = p)

/-- A lifecycle call on `p` past its save. -/
def passedOn (p : String) (client : SoarOp × SoarProgram) : Bool := onPlaybook client.1 p && passed client.2

structure PoolOk (db₀ : SoarDb) (pool : SoarPool) : Prop where
  clients : ∀ (i : Nat) op program, pool.clients[i]? = some (op, program) → ClientOk op program pool.state
  counted : ∀ p r₀, getRecord p db₀ = some r₀ → ∃ cur, getRecord p pool.state = some cur ∧
    cur.version = r₀.version + pool.clients.countP (passedOn p)
  distinct : ∀ (i j : Nat) op op' program program', i ≠ j → pool.clients[i]? = some (op, program) →
    pool.clients[j]? = some (op', program') → passed program = true → passed program' = true →
    ∀ t t', op.transition = some t → op'.transition = some t' → t.playbookId = t'.playbookId →
      t.expectedVersion ≠ t'.expectedVersion

section
variable {rt : Runtime} {secret : String} {db₀ : SoarDb} {pool : SoarPool} {i : Nat} {env : AppendCall}
  {op : SoarOp} {c : RepoCall} {next : c.Reply → SoarProgram}

/-- What a call of a client does, and whether it is then past its save. -/
inductive ClientStep (op : SoarOp) (program program' : SoarProgram) (db db' : SoarDb) : Prop where
  | save (t : Transition) (ht : op.transition = some t) (r : SoarPlaybookRecord) (now : String)
    (hr : Fresh t r db) (hits : SaveHits t r db) (hdb : db' = putRecord (t.updated r now) db)
    (before : passed program = false) (hp : program' = t.appending r now)
  | other (hkeeps : Keeps op db db')
    (hok : ∀ t, op.transition = some t → TransitionOk t db program' ∧ passed program' = passed program)

theorem ClientOk.step (rt : Runtime) {db : SoarDb} (hok : ClientOk op (.call c next) db)
    (hsaves : ∀ record, c = .saveRecord record → ∀ cur, getRecord record.playbookId db = some cur →
      cur.version + 1 = record.version ∧ cur.tCallbackVerified = record.tCallbackVerified ∧
        cur.tResponse = record.tResponse)
    (hcommits : ∀ ev, c = .appendAuditEvent ev → Commits secret env db) :
    ClientStep op (.call c next) (resume next (handle rt secret env c db).1) db (handle rt secret env c db).2 := by
  cases ht : op.transition with
  | some t =>
    cases (hok.lifecycle t ht).step rt hcommits with
    | save r now hr hc hdb hp =>
      refine .save t ht r now hr (hr.saveHits now (hsaves _ hc)) hdb ?_ hp
      subst hc
      rfl
    | other hrecords hnext hpassed =>
      refine .other (keeps_of_records hrecords) fun t' ht' => ?_
      obtain rfl : t = t' := Option.some.inj (ht.symm.trans ht')
      exact ⟨hnext, hpassed⟩
  | none =>
    have hnone : ∀ t, op.transition ≠ some t := fun t ht' => by rw [ht] at ht'; cases ht'
    rcases handle_records rt secret env c db with h | ⟨record, rfl, -⟩ | ⟨q, queued, callback, response, updated, -, h⟩
    · exact .other (keeps_of_records h) fun t ht' => absurd ht' (hnone t)
    · have := hok.writes.1
      rw [MayCall, ht] at this
      cases this
    · rw [h]
      exact .other (keeps_timings ht q queued callback response updated) fun t ht' => absurd ht' (hnone t)

theorem ClientStep.grows {program program' : SoarProgram} {db db' : SoarDb}
    (h : ClientStep op program program' db db') : Grows db db' := by
  cases h with
  | save t ht r now hr hits hdb => exact hdb ▸ grows_save hr hits now
  | other hkeeps => exact hkeeps.grows

theorem ClientStep.stepHolds {program program' : SoarProgram} {db db' : SoarDb}
    (h : ClientStep op program program' db db') : StepHolds op db db' := by
  cases h with
  | save t ht r now hr hits hdb => exact hdb ▸ stepHolds_save ht hr hits now
  | other hkeeps => exact hkeeps.stepHolds

/-- The moving client is where it should be afterwards. -/
theorem ClientStep.transitionOk {program program' : SoarProgram} {db db' : SoarDb} {t : Transition}
    (h : ClientStep op program program' db db') (ht : op.transition = some t) : TransitionOk t db' program' := by
  cases h with
  | other hkeeps hok => exact (hok t ht).1.grows hkeeps.grows
  | save t' ht' r now hr hits hdb _ hp =>
    obtain rfl : t = t' := Option.some.inj (ht.symm.trans ht')
    refine .appending r now ⟨t.updated r now, ?_, ?_⟩ hp
    · rw [hdb, getRecord_saved hr, if_pos rfl]
    · rw [← hr.version]
      exact lt_add_one _

theorem passed_program (t : Transition) : passed t.program = false := by
  unfold Transition.program
  cases t.badArgument <;> rfl

theorem TransitionOk.spent {t : Transition} {db : SoarDb} {program : SoarProgram} (h : TransitionOk t db program)
    (hpassed : passed program = true) : Spent t db := by
  cases h with
  | start h => rw [h, passed_program] at hpassed; cases hpassed
  | refused e h => rw [h] at hpassed; cases hpassed
  | committing r hr h => rw [h] at hpassed; cases hpassed
  | saving r now hr h => rw [h] at hpassed; cases hpassed
  | appending r now hs h => exact hs
  | returned result hs h => exact hs
  | verifying r hr h =>
    rw [h, Transition.verifying] at hpassed
    cases hcheck : t.chainCheck <;> rw [hcheck] at hpassed <;> cases hpassed

theorem onPlaybook_iff {p : String} : onPlaybook op p = true ↔ ∃ t, op.transition = some t ∧ t.playbookId = p := by
  cases ht : op.transition with
  | none => simp [onPlaybook, ht]
  | some t => simp [onPlaybook, ht]

/-- The stored version counts the calls past their save, one step later. -/
theorem counted_step (hpool : PoolOk db₀ pool) {program program' : SoarProgram} {db' : SoarDb}
    (hi : pool.clients[i]? = some (op, program)) (hstep : ClientStep op program program' pool.state db')
    (p : String) (r₀ : SoarPlaybookRecord) (hr₀ : getRecord p db₀ = some r₀) :
    ∃ cur, getRecord p db' = some cur ∧
      cur.version = r₀.version + (pool.clients.set i (op, program')).countP (passedOn p) := by
  obtain ⟨cur, hcur, hversion⟩ := hpool.counted p r₀ hr₀
  cases hstep with
  | other hkeeps hok =>
    obtain ⟨cur', hcur', hsame, -⟩ := hkeeps p cur hcur
    have hcount : passedOn p (op, program') = passedOn p (op, program) := by
      cases hon : onPlaybook op p with
      | false => simp [passedOn, hon]
      | true =>
        obtain ⟨t, ht, -⟩ := onPlaybook_iff.1 hon
        simp [passedOn, hon, (hok t ht).2]
    exact ⟨cur', hcur', by rw [hsame, hversion, countP_set_of_eq hi hcount]⟩
  | save t ht r now hr hits hdb before hp =>
    subst hdb hp
    rw [getRecord_saved hr]
    by_cases htp : t.playbookId = p
    · have hon : onPlaybook op p = true := onPlaybook_iff.2 ⟨t, ht, htp⟩
      obtain ⟨stored, hstored, hread, -⟩ := hits
      obtain rfl : stored = cur := Option.some.inj (hstored.symm.trans (htp ▸ hcur))
      refine ⟨t.updated r now, if_pos htp, ?_⟩
      rw [countP_set_succ hi (by simp [passedOn, before]) (by simp only [passedOn, hon]; rfl)]
      have hnext : (t.updated r now).version = r.version + 1 := rfl
      push_cast
      omega
    · have hoff : onPlaybook op p = false := by
        rw [Bool.eq_false_iff, ne_eq, onPlaybook_iff]
        rintro ⟨t', ht', hp'⟩
        exact htp (by rw [Option.some.inj (ht.symm.trans ht'), hp'])
      refine ⟨cur, by rw [if_neg htp, hcur], ?_⟩
      rw [hversion, countP_set_of_eq hi (by simp [passedOn, hoff])]

/-- No call past its save used the version that a save is about to use. -/
theorem fresh_version (hpool : PoolOk db₀ pool) {t t' : Transition} {r : SoarPlaybookRecord} {j : Nat}
    {op' : SoarOp} {program : SoarProgram} (hr : Fresh t r pool.state) (hits : SaveHits t r pool.state)
    (hj : pool.clients[j]? = some (op', program)) (hpassed : passed program = true)
    (ht' : op'.transition = some t') (hp : t.playbookId = t'.playbookId) :
    t.expectedVersion ≠ t'.expectedVersion := by
  obtain ⟨cur', hcur', hlt⟩ := ((hpool.clients j op' program hj).lifecycle t' ht').spent hpassed
  obtain ⟨cur, hcur, hversion, -⟩ := hits
  obtain rfl : cur = cur' := Option.some.inj (hcur.symm.trans (hp ▸ hcur'))
  rw [hversion, hr.version] at hlt
  exact hlt.ne'

theorem distinct_step (hpool : PoolOk db₀ pool) {program program' : SoarProgram} {db' : SoarDb}
    (hi : pool.clients[i]? = some (op, program)) (hstep : ClientStep op program program' pool.state db')
    {j : Nat} {op' : SoarOp} {other : SoarProgram} (hne : j ≠ i) (hj : pool.clients[j]? = some (op', other))
    (hpassed : passed program' = true) (hother : passed other = true) {t t' : Transition}
    (ht : op.transition = some t) (ht' : op'.transition = some t') (hp : t.playbookId = t'.playbookId) :
    t.expectedVersion ≠ t'.expectedVersion := by
  cases hstep with
  | other hkeeps hok =>
    rw [(hok t ht).2] at hpassed
    exact hpool.distinct i j op op' program other hne.symm hi hj hpassed hother t t' ht ht' hp
  | save t₂ ht₂ r now hr hits hdb before hprogram =>
    obtain rfl : t = t₂ := Option.some.inj (ht.symm.trans ht₂)
    exact fresh_version hpool hr hits hj hother ht' hp

/-- **A move of an undisturbed run.** -/
theorem PoolOk.step (hpool : PoolOk db₀ pool) (hund : Undisturbed secret pool (i, env)) :
    PoolOk db₀ (poolStep (handle rt secret) pool (i, env)).2 := by
  rcases poolStep_cases (handle rt secret) pool i env with
    h | ⟨op, c, next, hi, h⟩
  · rw [h]
    exact hpool
  have hclient := hpool.clients i op _ hi
  obtain ⟨hsaves, hcommits⟩ := hund op _ hi
  have hstep := hclient.step rt (fun record hc => hsaves record (hc ▸ next) (by subst hc; rfl))
    (fun ev hc => hcommits ev (hc ▸ next) (by subst hc; rfl))
  rw [h]
  constructor
  · intro j other program hj
    rcases getElem?_set_cases hj with ⟨rfl, heq⟩ | ⟨-, hj⟩
    · obtain ⟨rfl, rfl⟩ := Prod.mk.inj heq
      exact ⟨fun t ht => hstep.transitionOk ht, hclient.writes.resume _⟩
    · have hother := hpool.clients j other program hj
      exact ⟨fun t ht => (hother.lifecycle t ht).grows hstep.grows, hother.writes⟩
  · exact fun p r₀ hr₀ => counted_step hpool hi hstep p r₀ hr₀
  · intro j k op₁ op₂ program₁ program₂ hjk hj hk hp₁ hp₂ t t' ht ht' hp
    rcases getElem?_set_cases hj with ⟨hji, heq⟩ | ⟨hji, hj'⟩
    · obtain ⟨rfl, rfl⟩ := Prod.mk.inj heq
      rcases getElem?_set_cases hk with ⟨hki, -⟩ | ⟨hki, hk'⟩
      · exact absurd (hji.trans hki.symm) hjk
      · exact distinct_step hpool hi hstep hki hk' hp₁ hp₂ ht ht' hp
    · rcases getElem?_set_cases hk with ⟨-, heq⟩ | ⟨hki, hk'⟩
      · obtain ⟨rfl, rfl⟩ := Prod.mk.inj heq
        exact (distinct_step hpool hi hstep hji hj' hp₂ hp₁ ht' ht hp.symm).symm
      · exact hpool.distinct j k op₁ op₂ program₁ program₂ hjk hj' hk' hp₁ hp₂ t t' ht ht' hp

theorem poolOk_start (rt : Runtime) (ops : List SoarOp) (db : SoarDb) : PoolOk db (startPool rt ops db) := by
  have hstart : ∀ (i : Nat) op program, (startPool rt ops db).clients[i]? = some (op, program) →
      program = op.program rt := by
    intro i op program hi
    obtain ⟨op', -, heq⟩ := List.mem_map.1 (List.mem_of_getElem? hi)
    obtain ⟨rfl, rfl⟩ := Prod.mk.inj heq
    rfl
  have hnot : ∀ {op : SoarOp} {t : Transition}, op.transition = some t → passed (op.program rt) = false :=
    fun ht => by rw [SoarOp.program_transition ht, passed_program]
  refine ⟨fun i op program hi => ?_, fun p r₀ hr₀ => ⟨r₀, hr₀, ?_⟩, ?_⟩
  · rw [hstart i op program hi]
    exact clientOk_start rt op _
  · have hzero : (startPool rt ops db).clients.countP (passedOn p) = 0 := by
      rw [List.countP_eq_zero]
      rintro ⟨op, program⟩ hmem hpassed
      obtain ⟨i, hi⟩ := List.mem_iff_getElem?.1 hmem
      rw [passedOn, Bool.and_eq_true, onPlaybook_iff] at hpassed
      obtain ⟨⟨t, ht, -⟩, hp⟩ := hpassed
      rw [hstart i op program hi, hnot ht] at hp
      cases hp
    rw [hzero, Nat.cast_zero, add_zero]
  · intro i j op op' program program' _ hi _ hp _ t t' ht
    rw [hstart i op program hi, hnot ht] at hp
    cases hp

end

/-! ## Runs -/

def poolAt (rt : Runtime) (secret : String) (ops : List SoarOp) (db : SoarDb)
    (schedule : List (Nat × AppendCall)) (k : Nat) : SoarPool :=
  stateAt (poolStep (handle rt secret)) (startPool rt ops db) schedule k

def returnedOn (p : String) (client : SoarOp × SoarProgram) : Bool := onPlaybook client.1 p && returned client.2

def pendingOn (p : String) (client : SoarOp × SoarProgram) : Bool :=
  onPlaybook client.1 p && appendPending client.2

/-- **What is asked of a run**, in terms of the pool before each step. -/
structure LifecycleRun (db : SoarDb) (poolAt : Nat → SoarPool) (schedule : List (Nat × AppendCall)) : Prop where
  once : ∀ k (i j : Nat) client client' t t', (poolAt k).clients[i]? = some client →
    (poolAt k).clients[j]? = some client' → client.1.transition = some t → client'.1.transition = some t' →
    t.playbookId = t'.playbookId → t.expectedVersion = t'.expectedVersion → returned client.2 = true →
    returned client'.2 = true → i = j
  counted : ∀ k p r₀, getRecord p db = some r₀ → ∃ cur, getRecord p (poolAt k).state = some cur ∧
    cur.version = r₀.version + (poolAt k).clients.countP (returnedOn p) + (poolAt k).clients.countP (pendingOn p)
  path : ∀ k p cur, getRecord p (poolAt k).state = some cur →
    ∃ cur', getRecord p (poolAt (k + 1)).state = some cur' ∧ (cur'.state = cur.state ∨ Allowed cur.state cur'.state)
  rejected : ∀ k l p cur, k ≤ l → getRecord p (poolAt k).state = some cur → cur.state = .rejected →
    ∃ cur', getRecord p (poolAt l).state = some cur' ∧ cur'.state = .rejected
  kept : ∀ (k : Nat) move op program, schedule[k]? = some move → (poolAt k).clients[move.1]? = some (op, program) →
    op.transition.isSome = true → ∀ p cur cur', getRecord p (poolAt k).state = some cur →
      getRecord p (poolAt (k + 1)).state = some cur' →
      cur'.tCallbackVerified = cur.tCallbackVerified ∧ cur'.tResponse = cur.tResponse

section
variable {rt : Runtime} {secret : String} {ops : List SoarOp} {db : SoarDb}
  {schedule : List (Nat × AppendCall)}

theorem returned_not_pending (p : String) (client : SoarOp × SoarProgram) (h : returnedOn p client = true) :
    pendingOn p client = false := by
  obtain ⟨op, program⟩ := client
  cases program with
  | done result => simp [pendingOn, appendPending]
  | call c next => simp [returnedOn, returned] at h

theorem countP_passedOn (p : String) (clients : List (SoarOp × SoarProgram)) :
    clients.countP (passedOn p) = clients.countP (returnedOn p) + clients.countP (pendingOn p) := by
  rw [← countP_or (returned_not_pending p)]
  congr 1
  funext client
  exact Bool.and_or_distrib_left _ _ _

theorem poolOk_run (hund : ∀ (k : Nat) move, schedule[k]? = some move →
    Undisturbed secret (poolAt rt secret ops db schedule k) move) (k : Nat) :
    PoolOk db (poolAt rt secret ops db schedule k) :=
  stateAt_inv_of (A := Undisturbed secret) (fun _ (_, _) h hA => h.step hA) (poolOk_start rt ops db) hund k

/-- What the step of a run does, for the client that takes it. -/
theorem stepHolds_run (hund : ∀ (k : Nat) move, schedule[k]? = some move →
    Undisturbed secret (poolAt rt secret ops db schedule k) move) {k : Nat} {move : Nat × AppendCall}
    {op : SoarOp} {program : SoarProgram} (hmove : schedule[k]? = some move)
    (hclient : (poolAt rt secret ops db schedule k).clients[move.1]? = some (op, program)) :
    StepHolds op (poolAt rt secret ops db schedule k).state (poolAt rt secret ops db schedule (k + 1)).state := by
  have hpool := poolOk_run hund k
  have hmoved := hund k move hmove
  have hsucc : poolAt rt secret ops db schedule (k + 1) =
      (poolStep (handle rt secret) (poolAt rt secret ops db schedule k) move).2 := stateAt_succ _ hmove
  rw [hsucc]
  generalize poolAt rt secret ops db schedule k = pool at hpool hmoved hclient
  obtain ⟨i, env⟩ := move
  rcases poolStep_cases (handle rt secret) pool i env with
    h | ⟨op', c, next, hi, h⟩
  · rw [h]
    exact (keeps_of_records rfl).stepHolds
  · obtain ⟨rfl, rfl⟩ := Prod.mk.inj (Option.some.inj (hclient.symm.trans hi))
    obtain ⟨hsaves, hcommits⟩ := hmoved _ _ hi
    rw [h]
    exact ((hpool.clients i op _ hi).step rt (fun record hc => hsaves record (hc ▸ next) (by subst hc; rfl))
      (fun ev hc => hcommits ev (hc ▸ next) (by subst hc; rfl))).stepHolds

theorem path_run (hund : ∀ (k : Nat) move, schedule[k]? = some move →
    Undisturbed secret (poolAt rt secret ops db schedule k) move) (k : Nat) (p : String)
    (cur : SoarPlaybookRecord) (hcur : getRecord p (poolAt rt secret ops db schedule k).state = some cur) :
    ∃ cur', getRecord p (poolAt rt secret ops db schedule (k + 1)).state = some cur' ∧
      (cur'.state = cur.state ∨ Allowed cur.state cur'.state) := by
  cases hmove : schedule[k]? with
  | none =>
    refine ⟨cur, ?_, .inl rfl⟩
    rw [poolAt, stateAt_succ_none _ hmove]
    exact hcur
  | some move =>
    cases hclient : (poolAt rt secret ops db schedule k).clients[move.1]? with
    | some client => exact (stepHolds_run hund hmove hclient).path p cur hcur
    | none =>
      refine ⟨cur, ?_, .inl rfl⟩
      have hsame : poolAt rt secret ops db schedule (k + 1) = poolAt rt secret ops db schedule k := by
        rw [poolAt, stateAt_succ _ hmove]
        change (poolStep (handle rt secret) (poolAt rt secret ops db schedule k) move).2 = _
        rw [poolStep, hclient]
      rw [hsame]
      exact hcur

/-- Nothing follows a rejection. -/
theorem rejected_run (hund : ∀ (k : Nat) move, schedule[k]? = some move →
    Undisturbed secret (poolAt rt secret ops db schedule k) move) {k l : Nat} (hkl : k ≤ l) (p : String)
    (cur : SoarPlaybookRecord) (hcur : getRecord p (poolAt rt secret ops db schedule k).state = some cur)
    (hrejected : cur.state = .rejected) :
    ∃ cur', getRecord p (poolAt rt secret ops db schedule l).state = some cur' ∧ cur'.state = .rejected := by
  induction hkl with
  | refl => exact ⟨cur, hcur, hrejected⟩
  | step _ ih =>
    obtain ⟨mid, hmid, hstate⟩ := ih
    obtain ⟨cur', hcur', hsame | hallowed⟩ := path_run hund _ p mid hmid
    · exact ⟨cur', hcur', hsame.trans hstate⟩
    · rw [hstate] at hallowed
      cases hallowed

/-! ## Deciding whether a move is undisturbed -/

def commitsCheck (secret : String) (call : AppendCall) (db : SoarDb) : Bool :=
  !call.fault && secret != "" && db.events.all (·.eventId != call.eventId)

theorem commitsCheck_iff {call : AppendCall} : commitsCheck secret call db = true ↔ Commits secret call db := by
  simp [commitsCheck, Commits, and_assoc]

def undisturbedCheck (secret : String) (pool : SoarPool) (move : Nat × AppendCall) : Bool :=
  match pool.clients[move.1]? with
  | some (_, .call (.saveRecord record) _) => (getRecord record.playbookId pool.state).all fun cur =>
      cur.version + 1 == record.version && cur.tCallbackVerified == record.tCallbackVerified &&
        cur.tResponse == record.tResponse
  | some (_, .call (.appendAuditEvent _) _) => commitsCheck secret move.2 pool.state
  | _ => true

theorem undisturbed_of_check {pool : SoarPool} {move : Nat × AppendCall}
    (h : undisturbedCheck secret pool move = true) : Undisturbed secret pool move := by
  intro op program hclient
  rw [undisturbedCheck, hclient] at h
  refine ⟨?_, ?_⟩
  · rintro record next rfl cur hcur
    simpa [hcur, and_assoc] using h
  · rintro ev next rfl
    exact commitsCheck_iff.1 h

/-- A schedule checked move by move. -/
theorem undisturbed_of_all (h : ((List.range schedule.length).all fun k =>
    (schedule[k]?).all (undisturbedCheck secret (poolAt rt secret ops db schedule k))) = true)
    (k : Nat) (move : Nat × AppendCall) (hmove : schedule[k]? = some move) :
    Undisturbed secret (poolAt rt secret ops db schedule k) move := by
  have hk := List.all_eq_true.1 h k (List.mem_range.2 (List.getElem?_eq_some_iff.1 hmove).1)
  rw [hmove] at hk
  exact undisturbed_of_check hk

theorem poolAt_labels (rt : Runtime) (secret : String) (ops : List SoarOp) (db : SoarDb)
    (schedule : List (Nat × AppendCall)) (k : Nat) : (poolAt rt secret ops db schedule k).clients.map Prod.fst = ops := by
  refine stateAt_inv (I := fun pool : SoarPool => pool.clients.map Prod.fst = ops) (fun pool move h => ?_) ?_ k
  · rw [poolStep_labels, h]
  · simp [startPool, Function.comp_def]

/-- **No lost update.** A run in which every save finds the row as its call read it, and every append
commits, is as the optimistic version check intends. -/
theorem no_lost_update (rt : Runtime) (secret : String) (ops : List SoarOp) (db : SoarDb)
    (schedule : List (Nat × AppendCall))
    (hund : ∀ (k : Nat) move, schedule[k]? = some move →
      Undisturbed secret (poolAt rt secret ops db schedule k) move) :
    LifecycleRun db (poolAt rt secret ops db schedule) schedule where
  once k i j client client' t t' hi hj ht ht' hp hv hreturned hreturned' := by
    by_contra hne
    refine (poolOk_run hund k).distinct i j client.1 client'.1 client.2 client'.2 hne hi hj ?_ ?_ t t' ht ht' hp hv
    · rw [passed, hreturned, Bool.true_or]
    · rw [passed, hreturned', Bool.true_or]
  counted k p r₀ hr₀ := by
    obtain ⟨cur, hcur, hversion⟩ := (poolOk_run hund k).counted p r₀ hr₀
    refine ⟨cur, hcur, ?_⟩
    rw [hversion, countP_passedOn, Nat.cast_add, add_assoc]
  path := path_run hund
  rejected _ _ p cur hkl := rejected_run hund hkl p cur
  kept _ _ _ _ hmove hclient hop := (stepHolds_run hund hmove hclient).kept hop

end

/-! ## Two analysts decide the same recommendation -/

def pendingSample : SoarPlaybookRecord :=
  pendingRecord "4be1c09d27aa4f0e9b3d5c7a8e6f1021" "alert-7" "escalate_flow_anomaly_for_packet_inspection" "alert-7"
    "2026-03-03T09:00:00+00:00" 1772528400

def approval : SoarOp := .decide pendingSample.playbookId "analyst-a" "approve" "confirmed scan" 1

def rejection : SoarOp := .decide pendingSample.playbookId "analyst-b" "reject" "maintenance window" 1

def stepAt (client : Nat) (uuid : String) : Nat × AppendCall :=
  (client, { uuid, now := sampleMorning 5 0 })

/-- One decision alone: read, clock, save, append. -/
theorem no_lost_update_alone :
    LifecycleRun { records := [pendingSample] }
      (poolAt sampleRuntime sampleKey.1 [approval] { records := [pendingSample] } (List.replicate 4 (stepAt 0 "a1")))
      (List.replicate 4 (stepAt 0 "a1")) :=
  no_lost_update sampleRuntime sampleKey.1 [approval] { records := [pendingSample] } _
    (undisturbed_of_all (by decide +kernel))

/-- Both read version 1, then both save and append. -/
def racingSchedule : List (Nat × AppendCall) :=
  [stepAt 0 "a1", stepAt 1 "b1", stepAt 0 "a1", stepAt 1 "b1", stepAt 0 "a1", stepAt 1 "b1", stepAt 0 "a1",
    stepAt 1 "b1"]

/-- Both decisions of version 1 return, the second over the first. -/
theorem two_decisions_of_one_version :
    ¬ LifecycleRun { records := [pendingSample] }
      (poolAt sampleRuntime sampleKey.1 [approval, rejection] { records := [pendingSample] } racingSchedule)
      racingSchedule := by
  intro h
  have hlabels := poolAt_labels sampleRuntime sampleKey.1 [approval, rejection] { records := [pendingSample] }
    racingSchedule 8
  have hreturned : (poolAt sampleRuntime sampleKey.1 [approval, rejection] { records := [pendingSample] }
      racingSchedule 8).clients.map (fun client => returned client.2) = [true, true] := by decide +kernel
  have honce := h.once 8 0 1
  generalize (poolAt sampleRuntime sampleKey.1 [approval, rejection] { records := [pendingSample] }
    racingSchedule 8).clients = clients at hlabels hreturned honce
  obtain ⟨a, b, rfl⟩ := List.length_eq_two.1 (by simpa using congrArg List.length hreturned)
  simp only [List.map_cons, List.map_nil, List.cons.injEq, and_true] at hlabels hreturned
  have hfirst : a.1.transition =
      some (decideRecommendation pendingSample.playbookId "analyst-a" "approve" "confirmed scan" 1) := by
    rw [hlabels.1]
    rfl
  have hsecond : b.1.transition =
      some (decideRecommendation pendingSample.playbookId "analyst-b" "reject" "maintenance window" 1) := by
    rw [hlabels.2]
    rfl
  exact absurd (honce a b _ _ rfl rfl hfirst hsecond rfl rfl hreturned.1 hreturned.2) (by decide)

end ThreatFusion.Soar
