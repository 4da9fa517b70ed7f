import ThreatFusion.Soar.Dispatch
/-
# When a request may leave, and how often

The gate looks at the record that the caller holds. It is the stored one when no save of the playbook came
since the stored row was that record (`NotOvertaken`). Nothing compares idempotency keys: a key has at most
one live row when the remote answers at most one request of that key (`AnswersLive`).

* `only_dispatch`: a client that can send a request at all holds an approved record.
* `storedAs_step`: the stored row between two saves of its playbook.
* `RecordsReply`: a row tells how the request before it was answered.
-/
namespace ThreatFusion.Soar
open Py Alerts Concurrency Concurrency.Program Machine

inductive DispatchOp where
  | engine (op : EngineOp)
  | read (playbookId : String)
  | trigger (client : N8nClient) (args : TriggerArgs) (r : SoarPlaybookRecord)
  | createCase (client : TheHiveClient) (anatomyText : CaseText ⊕ (Bool → CaseText)) (r : SoarPlaybookRecord)

def DispatchOp.program (rt : Runtime) : DispatchOp → DispatchProgram
  | .engine op => liftSoar (op.program rt)
  | .read playbookId => .call (.soar (.getRecord playbookId)) fun r => .ret (.found r)
  | .trigger client args r => triggerSoarPlaybook rt client args r
  | .createCase client anatomyText r => createCaseFromSoar client anatomyText r

/-- The record that the caller passed. -/
def DispatchOp.passedRecord : DispatchOp → Option SoarPlaybookRecord
  | .trigger _ _ r => some r
  | .createCase _ _ r => some r
  | _ => none

abbrev DispatchPool := Pool DispatchCall.Reply DispatchError World DispatchResult DispatchOp

def dispatchPool (rt : Runtime) (ops : List DispatchOp) (w : World) : DispatchPool :=
  { state := w, clients := ops.map fun op => (op, op.program rt) }

def dispatchAt (rt : Runtime) (secret : String) (ops : List DispatchOp) (w : World)
    (schedule : List (Nat × DispatchEnv)) (k : Nat) : DispatchPool :=
  stateAt (poolStep (dispatchHandle rt secret)) (dispatchPool rt ops w) schedule k

/-! ## What a program can still do -/

/-- Requests come from calls with an approved record, saves only from the engine. -/
def MayDispatch (op : DispatchOp) : DispatchCall → Prop
  | .postN8n _ | .postTheHive _ => ∃ r, op.passedRecord = some r ∧ approvedState r.state = true
  | .soar (.saveRecord _) => op.passedRecord = none
  | _ => True

/-- The call reports a live dispatch under `key`. -/
def recordsLive (key : String) : DispatchProgram → Bool
  | .call (.recordExecution row) _ => row.idempotencyKey == key && row.status == .dispatchedLive
  | _ => false

def answeredLive (key : String) : (c : DispatchCall) → c.Reply → Bool
  | .postN8n request, reply => request.idempotencyKey == key && dispatchStatus reply == .dispatchedLive
  | _, _ => false

/-- A live row is only recorded right after a live answer to a request of its key. -/
def RecordsReply : DispatchProgram → Prop
  | .done _ => True
  | .call c next => ∀ a, (∀ key, recordsLive key (next a) = true → answeredLive key c a = true) ∧ RecordsReply (next a)

section
variable {rt : Runtime}

theorem only_liftSoar {op : DispatchOp} (hop : op.passedRecord = none) :
    ∀ p : SoarProgram, Only (MayDispatch op) (liftSoar p)
  | .done (.ok _) => trivial
  | .done (.error _) => trivial
  | .call c next => by
    refine ⟨?_, fun a => only_liftSoar hop (next a)⟩
    cases c with
    | saveRecord record => exact hop
    | _ => exact trivial

theorem only_recording (op : DispatchOp) (client : N8nClient) (receipt : N8nReceipt) :
    Only (MayDispatch op) (recording client receipt) := by
  unfold recording
  split
  · exact ⟨trivial, fun _ => trivial⟩
  · exact trivial

theorem only_sendingCase (client : TheHiveClient) (text : CaseText) {r : SoarPlaybookRecord} {op : DispatchOp}
    (hop : op.passedRecord = some r) (happroved : approvedState r.state = true) :
    Only (MayDispatch op) (sendingCase client text r) := by
  refine ⟨trivial, fun _ => ⟨trivial, fun _ => ⟨⟨r, hop, happroved⟩, fun _ => ?_⟩⟩⟩
  unfold recordingCase
  split
  · exact ⟨trivial, fun _ => trivial⟩
  · exact trivial

/-- **Only an approved record passes the gate.** -/
theorem only_dispatch (rt : Runtime) (op : DispatchOp) : Only (MayDispatch op) (op.program rt) := by
  cases op with
  | engine op => exact only_liftSoar rfl _
  | read p => exact ⟨trivial, fun _ => trivial⟩
  | trigger client args r =>
    change Only _ (triggerSoarPlaybook rt client args r)
    unfold triggerSoarPlaybook
    cases happroved : approvedState r.state with
    | false => exact trivial
    | true =>
      refine ⟨trivial, fun (ok, message) => ?_⟩
      cases ok with
      | false => exact trivial
      | true =>
        exact ⟨trivial, fun _ => ⟨trivial, fun _ => ⟨⟨r, rfl, happroved⟩, fun _ => only_recording _ _ _⟩⟩⟩
  | createCase client anatomyText r =>
    change Only _ (createCaseFromSoar client anatomyText r)
    unfold createCaseFromSoar
    cases happroved : approvedState r.state with
    | false => exact trivial
    | true =>
      refine ⟨trivial, fun (ok, message) => ?_⟩
      cases ok with
      | false => exact trivial
      | true =>
        cases anatomyText with
        | inl text => exact only_sendingCase client text rfl happroved
        | inr build => exact ⟨trivial, fun (again, _) => only_sendingCase client (build again) rfl happroved⟩

/-- A call after which no execution is recorded at once. -/
theorem recordsReply_call {c : DispatchCall} {next : c.Reply → DispatchProgram}
    (hquiet : ∀ key a, recordsLive key (next a) = false) (hnext : ∀ a, RecordsReply (next a)) :
    RecordsReply (.call c next) :=
  fun a => ⟨fun key h => absurd ((hquiet key a).symm.trans h) Bool.false_ne_true, hnext a⟩

theorem recordsLive_liftSoar (key : String) (p : SoarProgram) : recordsLive key (liftSoar p) = false := by
  rcases p with (_ | _) | _ <;> rfl

theorem recordsReply_liftSoar : ∀ p : SoarProgram, RecordsReply (liftSoar p)
  | .done (.ok _) => trivial
  | .done (.error _) => trivial
  | .call _ next => recordsReply_call (fun key a => recordsLive_liftSoar key (next a)) fun a =>
      recordsReply_liftSoar (next a)

theorem recordsReply_sending (client : N8nClient) (args : TriggerArgs) (r : SoarPlaybookRecord)
    (uuid now : String) : RecordsReply (sending rt client args r uuid now) := by
  intro reply
  unfold recording
  split
  · exact ⟨fun key h => h, recordsReply_call (fun _ _ => rfl) fun _ => trivial⟩
  · exact ⟨fun key h => absurd h Bool.false_ne_true, trivial⟩

theorem recordsReply_sendingCase (client : TheHiveClient) (text : CaseText) (r : SoarPlaybookRecord) :
    RecordsReply (sendingCase client text r) := by
  have hrecording : ∀ row, (∀ key, recordsLive key (recordingCase client row) = false) ∧
      RecordsReply (recordingCase client row) := by
    intro row
    unfold recordingCase
    split
    · exact ⟨fun _ => rfl, recordsReply_call (fun _ _ => rfl) fun _ => trivial⟩
    · exact ⟨fun _ => rfl, trivial⟩
  refine recordsReply_call (fun _ _ => rfl) fun uuid => recordsReply_call (fun _ _ => rfl) fun now => ?_
  exact recordsReply_call (fun key _ => (hrecording _).1 key) fun _ => (hrecording _).2

theorem recordsReply_program (rt : Runtime) (op : DispatchOp) :
    RecordsReply (op.program rt) ∧ ∀ key, recordsLive key (op.program rt) = false := by
  cases op with
  | engine op => exact ⟨recordsReply_liftSoar _, fun key => recordsLive_liftSoar key _⟩
  | read p => exact ⟨recordsReply_call (fun _ _ => rfl) fun _ => trivial, fun _ => rfl⟩
  | trigger client args r =>
    change RecordsReply (triggerSoarPlaybook rt client args r) ∧
      ∀ key, recordsLive key (triggerSoarPlaybook rt client args r) = false
    unfold triggerSoarPlaybook
    cases approvedState r.state with
    | false => exact ⟨trivial, fun _ => rfl⟩
    | true =>
      refine ⟨recordsReply_call (fun key (ok, message) => ?_) fun (ok, message) => ?_, fun _ => rfl⟩
      · cases ok <;> rfl
      · cases ok with
        | false => exact trivial
        | true =>
          refine recordsReply_call (fun _ _ => rfl) fun uuid => recordsReply_call (fun _ _ => rfl) fun now => ?_
          exact recordsReply_sending client args r uuid _
  | createCase client anatomyText r =>
    change RecordsReply (createCaseFromSoar client anatomyText r) ∧
      ∀ key, recordsLive key (createCaseFromSoar client anatomyText r) = false
    unfold createCaseFromSoar
    cases approvedState r.state with
    | false => exact ⟨trivial, fun _ => rfl⟩
    | true =>
      refine ⟨recordsReply_call (fun key (ok, message) => ?_) fun (ok, message) => ?_, fun _ => rfl⟩
      · cases ok <;> cases anatomyText <;> rfl
      · cases ok with
        | false => exact trivial
        | true =>
          cases anatomyText with
          | inl text => exact recordsReply_sendingCase client text r
          | inr build =>
            exact recordsReply_call (fun _ _ => rfl) fun (again, _) => recordsReply_sendingCase client (build again) r

theorem RecordsReply.resume {c : DispatchCall} {next : c.Reply → DispatchProgram}
    (h : RecordsReply (.call c next)) : ∀ reply, RecordsReply (resume next reply)
  | .ok a => (h a).2
  | .error _ => trivial

end

/-! ## The stored row between saves -/

/-- The move saves a record of `p`. -/
def SavesNow (pool : DispatchPool) (move : Nat × DispatchEnv) (p : String) : Prop :=
  ∃ op record next, pool.clients[move.1]? = some (op, .call (.soar (.saveRecord record)) next) ∧
    record.playbookId = p ∧ move.2.call.fault = false

/-- The stored row of `p` is of version `v` and state `s`. -/
def StoredAs (p : String) (v : ℤ) (s : PlaybookState) (db : SoarDb) : Prop :=
  ∃ cur, getRecord p db = some cur ∧ cur.version = v ∧ cur.state = s

section
variable {rt : Runtime} {secret : String} {pool : DispatchPool} {move : Nat × DispatchEnv} {p : String}
  {v : ℤ} {s : PlaybookState}

theorem storedAs_handle {env : AppendCall} {c : RepoCall} {db : SoarDb} (h : StoredAs p v s db)
    (hsave : ∀ record, c = .saveRecord record → record.playbookId = p → env.fault = true) :
    StoredAs p v s (handle rt secret env c db).2 := by
  obtain ⟨cur, hcur, hversion, hstate⟩ := h
  rcases handle_records rt secret env c db with hsame | ⟨record, rfl, hput⟩ |
    ⟨q, queued, callback, response, updated, -, htimings⟩
  · refine ⟨cur, ?_, hversion, hstate⟩
    rw [getRecord, hsame]
    exact hcur
  · by_cases hp : record.playbookId = p
    · have hfault := hsave record rfl hp
      rw [handle_save, if_pos hfault]
      exact ⟨cur, hcur, hversion, hstate⟩
    · rw [hput]
      exact ⟨cur, by rw [getRecord_putRecord, if_neg hp, hcur], hversion, hstate⟩
  · rw [htimings]
    refine ⟨updateTimings q queued callback response updated cur, ?_, ?_, ?_⟩
    · rw [getRecord_updateTimings, hcur]
      rfl
    · unfold updateTimings
      split <;> exact hversion
    · unfold updateTimings
      split <;> exact hstate

/-- Only an engine call touches the SOAR tables. -/
theorem dispatchHandle_soar (env : DispatchEnv) (c : DispatchCall) (w : World) :
    (dispatchHandle rt secret env c w).2.soar = match c with
      | .soar c => (handle rt secret env.call c w.soar).2
      | _ => w.soar := by
  cases c with
  | soar c => rfl
  | postN8n request | postTheHive request =>
    simp only [dispatchHandle, post]
    split <;> rfl
  | recordExecution row | recordCase row =>
    simp only [dispatchHandle]
    split <;> rfl

theorem storedAs_step (h : StoredAs p v s pool.state.soar) (hsaves : ¬ SavesNow pool move p) :
    StoredAs p v s (poolStep (dispatchHandle rt secret) pool move).2.state.soar := by
  obtain ⟨i, env⟩ := move
  rcases poolStep_cases (dispatchHandle rt secret) pool i env with
    hsame | ⟨op, c, next, hi, hstep⟩
  · rw [hsame]
    exact h
  · rw [hstep]
    dsimp only
    rw [dispatchHandle_soar]
    cases c with
    | soar c =>
      refine storedAs_handle h fun record hc hp => ?_
      subst hc
      by_contra hfault
      exact hsaves ⟨op, record, next, hi, hp, by simpa using hfault⟩
    | postN8n | postTheHive | recordExecution | recordCase => exact h

/-! ## The live rows of a key -/

def isLive (key : String) (row : ExecutionRow) : Bool :=
  row.idempotencyKey == key && row.status == .dispatchedLive

/-- A call adds at most the row that it records. -/
theorem dispatchHandle_executions (rt : Runtime) (secret : String) (env : DispatchEnv) (c : DispatchCall) (w : World) :
    (dispatchHandle rt secret env c w).2.executions = w.executions ∨
    ∃ row, c = .recordExecution row ∧ (dispatchHandle rt secret env c w).2.executions = w.executions ++ [row] := by
  cases c with
  | soar c => exact .inl rfl
  | postN8n request | postTheHive request =>
    left
    simp only [dispatchHandle, post]
    split <;> rfl
  | recordCase row =>
    left
    simp only [dispatchHandle]
    split <;> rfl
  | recordExecution row =>
    simp only [dispatchHandle, insertRow]
    by_cases h : (env.call.fault || w.executions.any (·.executionId = row.executionId)) = true
    · rw [if_pos h]
      exact .inl rfl
    · rw [if_neg h]
      exact .inr ⟨row, rfl, rfl⟩

/-- The live rows of the key, and those about to be recorded. -/
def liveCount (key : String) (pool : DispatchPool) : Nat :=
  pool.state.executions.countP (isLive key) + pool.clients.countP fun client => recordsLive key client.2

/-- The move is a live answer of n8n to a request of the key. -/
def AnswersLive (rt : Runtime) (secret : String) (key : String) (pool : DispatchPool) (move : Nat × DispatchEnv) :
    Prop :=
  ∃ op c next a, pool.clients[move.1]? = some (op, .call c next) ∧
    (dispatchHandle rt secret move.2 c pool.state).1 = .ok a ∧ answeredLive key c a = true

theorem recordsReply_step (h : ∀ (i : Nat) op program, pool.clients[i]? = some (op, program) → RecordsReply program)
    (i : Nat) (op : DispatchOp) (program : DispatchProgram)
    (hi : (poolStep (dispatchHandle rt secret) pool move).2.clients[i]? = some (op, program)) :
    RecordsReply program := by
  rcases poolStep_cases (dispatchHandle rt secret) pool move.1 move.2 with
    hsame | ⟨op', c, next, hj, hstep⟩
  · rw [hsame] at hi
    exact h i op program hi
  · rw [hstep] at hi
    rcases getElem?_set_cases hi with ⟨-, heq⟩ | ⟨-, hi'⟩
    · obtain ⟨rfl, rfl⟩ := Prod.mk.inj heq
      exact (h _ _ _ hj).resume _
    · exact h i op program hi'

/-- **A move adds a live row, now or to come, only by a live answer.** -/
theorem liveCount_step (move : Nat × DispatchEnv)
    (h : ∀ (i : Nat) op program, pool.clients[i]? = some (op, program) → RecordsReply program)
    (key : String) :
    liveCount key (poolStep (dispatchHandle rt secret) pool move).2 ≤ liveCount key pool ∨
    AnswersLive rt secret key pool move ∧
      liveCount key (poolStep (dispatchHandle rt secret) pool move).2 ≤ liveCount key pool + 1 := by
  rcases poolStep_cases (dispatchHandle rt secret) pool move.1 move.2 with
    hsame | ⟨op, c, next, hi, hstep⟩
  · exact .inl (by rw [hsame])
  rw [hstep]
  unfold liveCount
  dsimp only
  have hclients := countP_set_add (q := fun client => recordsLive key client.2) hi
    (op, resume next (dispatchHandle rt secret move.2 c pool.state).1)
  dsimp only at hclients
  have hanswer : recordsLive key (resume next (dispatchHandle rt secret move.2 c pool.state).1) = true →
      AnswersLive rt secret key pool move := by
    intro hlive
    cases hreply : (dispatchHandle rt secret move.2 c pool.state).1 with
    | error e =>
      rw [hreply] at hlive
      cases hlive
    | ok a =>
      rw [hreply] at hlive
      exact ⟨op, c, next, a, hi, hreply, ((h _ _ _ hi) a).1 key hlive⟩
  rcases dispatchHandle_executions rt secret move.2 c pool.state with hrows | ⟨row, rfl, hrows⟩
  · rw [hrows]
    cases hlive : recordsLive key (resume next (dispatchHandle rt secret move.2 c pool.state).1) with
    | false =>
      left
      rw [hlive, Bool.toNat_false] at hclients
      omega
    | true =>
      right
      refine ⟨hanswer hlive, ?_⟩
      rw [hlive, Bool.toNat_true] at hclients
      omega
  · left
    have hquiet : recordsLive key
        (resume next (dispatchHandle rt secret move.2 (.recordExecution row) pool.state).1) = false := by
      by_contra hlive
      rw [Bool.not_eq_false] at hlive
      cases hreply : (dispatchHandle rt secret move.2 (.recordExecution row) pool.state).1 with
      | error e =>
        rw [hreply] at hlive
        cases hlive
      | ok a =>
        rw [hreply] at hlive
        exact absurd (((h _ _ _ hi) a).1 key hlive) Bool.false_ne_true
    rw [hquiet, Bool.toNat_false] at hclients
    rw [hrows, List.countP_append, List.countP_singleton]
    have hmine : (if isLive key row = true then 1 else 0) =
        (recordsLive key (.call (.recordExecution row) next)).toNat := by
      change _ = (isLive key row).toNat
      cases isLive key row <;> rfl
    rw [hmine]
    omega

end

/-! ## Runs -/

/-- Step `k` sends a request for the call `op`. -/
def Sends (poolAt : Nat → DispatchPool) (schedule : List (Nat × DispatchEnv)) (k : Nat) (op : DispatchOp) : Prop :=
  ∃ move c next, schedule[k]? = some move ∧ (poolAt k).clients[move.1]? = some (op, .call c next) ∧
    c.isRequest = true

/-- **What is asked of a run**: a request leaves for a stored record that is approved and of the passed version,
and each key has at most one live row. -/
structure DispatchRun (poolAt : Nat → DispatchPool) (schedule : List (Nat × DispatchEnv)) : Prop where
  current : ∀ k op, Sends poolAt schedule k op → ∃ r cur, op.passedRecord = some r ∧
    getRecord r.playbookId (poolAt k).state.soar = some cur ∧ approvedState cur.state = true ∧
    cur.version = r.version
  once : ∀ k key, (poolAt k).state.executions.countP (isLive key) ≤ 1

/-- The passed record was the stored one, and no save of its playbook came since. -/
def NotOvertaken (poolAt : Nat → DispatchPool) (schedule : List (Nat × DispatchEnv)) (k : Nat)
    (r : SoarPlaybookRecord) : Prop :=
  ∃ j ≤ k, getRecord r.playbookId (poolAt j).state.soar = some r ∧
    ∀ (m : Nat) move, j ≤ m → m < k → schedule[m]? = some move → ¬ SavesNow (poolAt m) move r.playbookId

section
variable {rt : Runtime} {secret : String} {ops : List DispatchOp} {w : World}
  {schedule : List (Nat × DispatchEnv)}

theorem start_program {i : Nat} {op : DispatchOp} {program : DispatchProgram}
    (hi : (dispatchPool rt ops w).clients[i]? = some (op, program)) : op ∈ ops ∧ program = op.program rt := by
  obtain ⟨op', hmem, heq⟩ := List.mem_map.1 (List.mem_of_getElem? hi)
  obtain ⟨rfl, rfl⟩ := Prod.mk.inj heq
  exact ⟨hmem, rfl⟩

theorem dispatchAt_succ {k : Nat} {move : Nat × DispatchEnv} (hmove : schedule[k]? = some move) :
    dispatchAt rt secret ops w schedule (k + 1) =
      (poolStep (dispatchHandle rt secret) (dispatchAt rt secret ops w schedule k) move).2 :=
  stateAt_succ _ hmove

theorem requests_run (k : Nat) : ∀ (i : Nat) op program,
    (dispatchAt rt secret ops w schedule k).clients[i]? = some (op, program) → Only (MayDispatch op) program := by
  refine stateAt_inv (I := fun pool : DispatchPool => ∀ (i : Nat) op program,
    pool.clients[i]? = some (op, program) → Only (MayDispatch op) program)
    (fun _ _ h => poolStep_only h) (fun i op program hi => ?_) k
  rw [(start_program hi).2]
  exact only_dispatch rt op

theorem recordsReply_run (k : Nat) : ∀ (i : Nat) op program,
    (dispatchAt rt secret ops w schedule k).clients[i]? = some (op, program) → RecordsReply program := by
  refine stateAt_inv (I := fun pool : DispatchPool => ∀ (i : Nat) op program,
    pool.clients[i]? = some (op, program) → RecordsReply program)
    (fun _ _ h => recordsReply_step h) (fun i op program hi => ?_) k
  rw [(start_program hi).2]
  exact (recordsReply_program rt op).1

/-- Without a save in between, the stored row keeps its version and state. -/
theorem storedAs_run {p : String} {v : ℤ} {s : PlaybookState} {j k : Nat} (hjk : j ≤ k)
    (hj : StoredAs p v s (dispatchAt rt secret ops w schedule j).state.soar)
    (hsaves : ∀ (m : Nat) move, j ≤ m → m < k → schedule[m]? = some move →
      ¬ SavesNow (dispatchAt rt secret ops w schedule m) move p) :
    StoredAs p v s (dispatchAt rt secret ops w schedule k).state.soar := by
  induction hjk with
  | refl => exact hj
  | @step k hjk ih =>
    have hk := ih fun m move hm hlt => hsaves m move hm (Nat.lt_succ_of_lt hlt)
    cases hmove : schedule[k]? with
    | none =>
      rw [dispatchAt, stateAt_succ_none _ hmove]
      exact hk
    | some move =>
      rw [dispatchAt_succ hmove]
      exact storedAs_step hk (hsaves k move hjk (Nat.lt_succ_self k) hmove)

/-- With one live answer at most, so many live rows; and with none before, none. -/
theorem liveCount_run (hempty : w.executions = []) (key : String)
    (hanswers : ∀ (k l : Nat) move move', schedule[k]? = some move → schedule[l]? = some move' →
      AnswersLive rt secret key (dispatchAt rt secret ops w schedule k) move →
      AnswersLive rt secret key (dispatchAt rt secret ops w schedule l) move' → k = l) (k : Nat) :
    liveCount key (dispatchAt rt secret ops w schedule k) ≤ 1 ∧
    (liveCount key (dispatchAt rt secret ops w schedule k) ≠ 0 → ∃ m < k, ∃ move, schedule[m]? = some move ∧
      AnswersLive rt secret key (dispatchAt rt secret ops w schedule m) move) := by
  induction k with
  | zero =>
    have hzero : liveCount key (dispatchAt rt secret ops w schedule 0) = 0 := by
      have hrows : (dispatchPool rt ops w).state.executions = [] := hempty
      change liveCount key (dispatchPool rt ops w) = 0
      rw [liveCount, hrows, List.countP_nil, Nat.zero_add, List.countP_eq_zero]
      rintro ⟨op, program⟩ hmem
      obtain ⟨i, hi⟩ := List.mem_iff_getElem?.1 hmem
      rw [(start_program hi).2, (recordsReply_program rt op).2]
      exact Bool.false_ne_true
    rw [hzero]
    exact ⟨Nat.zero_le _, fun h => absurd rfl h⟩
  | succ k ih =>
    obtain ⟨hle, hbefore⟩ := ih
    have hearlier : liveCount key (dispatchAt rt secret ops w schedule k) ≠ 0 → ∃ m < k + 1, ∃ move,
        schedule[m]? = some move ∧ AnswersLive rt secret key (dispatchAt rt secret ops w schedule m) move := by
      intro h
      obtain ⟨m, hm, hrest⟩ := hbefore h
      exact ⟨m, Nat.lt_succ_of_lt hm, hrest⟩
    cases hmove : schedule[k]? with
    | none =>
      rw [dispatchAt, stateAt_succ_none _ hmove]
      exact ⟨hle, hearlier⟩
    | some move =>
      rw [dispatchAt_succ hmove]
      rcases liveCount_step move (recordsReply_run k) key with hsame | ⟨hlive, hnext⟩
      · exact ⟨hsame.trans hle, fun h => hearlier (by omega)⟩
      · have hzero : liveCount key (dispatchAt rt secret ops w schedule k) = 0 := by
          by_contra hne
          obtain ⟨m, hm, move', hmove', hlive'⟩ := hbefore hne
          exact absurd (hanswers m k move' move hmove' hmove hlive' hlive) (Nat.ne_of_lt hm)
        rw [hzero] at hnext
        exact ⟨hnext, fun _ => ⟨k, Nat.lt_succ_self k, move, hmove, hlive⟩⟩

/-- **Dispatch of approved playbooks.** A run is as it should be when every request is for a record that was not
overtaken, and n8n answers live at most once for each key. -/
theorem dispatched_as_approved (rt : Runtime) (secret : String) (ops : List DispatchOp) (w : World)
    (schedule : List (Nat × DispatchEnv)) (hempty : w.executions = [])
    (hcurrent : ∀ k op r, Sends (dispatchAt rt secret ops w schedule) schedule k op → op.passedRecord = some r →
      NotOvertaken (dispatchAt rt secret ops w schedule) schedule k r)
    (hanswers : ∀ key (k l : Nat) move move', schedule[k]? = some move → schedule[l]? = some move' →
      AnswersLive rt secret key (dispatchAt rt secret ops w schedule k) move →
      AnswersLive rt secret key (dispatchAt rt secret ops w schedule l) move' → k = l) :
    DispatchRun (dispatchAt rt secret ops w schedule) schedule where
  current k op hsends := by
    obtain ⟨move, c, next, hmove, hi, hrequest⟩ := id hsends
    obtain ⟨r, hpassed, happroved⟩ : ∃ r, op.passedRecord = some r ∧ approvedState r.state = true := by
      have hmay := (requests_run k _ _ _ hi).1
      cases c with
      | postN8n | postTheHive => exact hmay
      | soar | recordExecution | recordCase => cases hrequest
    obtain ⟨j, hjk, hstored, hsaves⟩ := hcurrent k op r hsends hpassed
    obtain ⟨cur, hcur, hversion, hstate⟩ := storedAs_run hjk ⟨r, hstored, rfl, rfl⟩ hsaves
    exact ⟨r, cur, hpassed, hcur, hstate ▸ happroved, hversion⟩
  once k key := by
    have hle := (liveCount_run hempty key (hanswers key) k).1
    exact (Nat.le_add_right _ _).trans hle

end

/-! ## One dispatch -/

section
variable {rt : Runtime} {key : LedgerSecret} {w : World}

/-- The row of a call that read `uuid` and the clock, and was answered. -/
def dispatchedRow (rt : Runtime) (client : N8nClient) (args : TriggerArgs) (r : SoarPlaybookRecord)
    (envs : Nat → DispatchEnv) (reply : HttpReply) : ExecutionRow :=
  { executionRow rt client args r (envs 1).call.uuid (envs 2).call.now.isoformat .queuedDurableOutbox with
    status := dispatchStatus reply }

/-- An approved record in a sealed ledger is sent and recorded, whatever the stored row says. -/
theorem solo_trigger (hsealed : Sealed rt key w.soar) (hne : w.soar.events ≠ []) (client : N8nClient)
    (args : TriggerArgs) (r : SoarPlaybookRecord) (envs : Nat → DispatchEnv) (reply : HttpReply)
    (houtbox : client.outbox = true) (happroved : approvedState r.state = true)
    (hfault : ∀ n, (envs n).call.fault = false)
    (hreply : (envs 3).http = .answered reply)
    (hfresh : ∀ row ∈ w.executions, row.executionId ≠ (dispatchedRow rt client args r envs reply).executionId) :
    ∃ receipt, Solo (dispatchHandle rt key.1) 5 envs (triggerSoarPlaybook rt client args r) w (.ok (.receipt receipt))
      { w with executions := w.executions ++ [dispatchedRow rt client args r envs reply] } := by
  have hverify : (verifyAuditChainIntegrity rt key.1 none true w.soar).1 = true := hsealed.verified hne true (by simp)
  obtain ⟨message, hmessage⟩ : ∃ message, verifyAuditChainIntegrity rt key.1 none true w.soar = (true, message) :=
    ⟨_, Prod.ext hverify rfl⟩
  have hfirst : dispatchHandle rt key.1 (envs 0) (.soar (.verifyAuditChainIntegrity none true)) w =
      (.ok (true, message), w) := by
    simp only [dispatchHandle, handle, hfault 0, hmessage, Bool.false_eq_true, if_false, liftError]
  have hpost : ∀ request, dispatchHandle rt key.1 (envs 3) (.postN8n request) w = (.ok reply, w) := by
    intro request
    simp only [dispatchHandle, post, hreply]
    rfl
  have hrecord : dispatchHandle rt key.1 (envs 4) (.recordExecution (dispatchedRow rt client args r envs reply)) w =
      (.ok (), { w with executions := w.executions ++ [dispatchedRow rt client args r envs reply] }) := by
    have hany : w.executions.any (fun row =>
        decide (row.executionId = (dispatchedRow rt client args r envs reply).executionId)) = false := by
      simpa using hfresh
    simp only [dispatchHandle, insertRow, hfault 4, hany, Bool.or_self, Bool.false_eq_true, if_false]
  let receipt : N8nReceipt :=
    { row := dispatchedRow rt client args r envs reply
      webhookUrl := client.webhookUrl ++ "/webhook/threatfusion-soar-approved"
      payload := triggerPayload args r (dispatchedRow rt client args r envs reply).executionId
        (envs 2).call.now.isoformat
      transportError := transportError reply }
  have hrecording : Solo (dispatchHandle rt key.1) 1 (fun n => envs (n + 4)) (recording client receipt) w
      (.ok (.receipt receipt)) { w with executions := w.executions ++ [dispatchedRow rt client args r envs reply] } := by
    unfold recording
    rw [houtbox]
    exact .call hrecord .done
  have hsending : Solo (dispatchHandle rt key.1) 2 (fun n => envs (n + 3))
      (sending rt client args r (envs 1).call.uuid (envs 2).call.now.isoformat) w (.ok (.receipt receipt))
      { w with executions := w.executions ++ [dispatchedRow rt client args r envs reply] } :=
    .call (hpost _) hrecording
  refine ⟨receipt, ?_⟩
  unfold triggerSoarPlaybook
  rw [happroved]
  exact .call hfirst (.call rfl (.call rfl hsending))

end

section
variable {rt : Runtime} {secret : String} {ops : List DispatchOp} {w : World}
  {schedule : List (Nat × DispatchEnv)}

theorem dispatchAt_labels (k : Nat) : (dispatchAt rt secret ops w schedule k).clients.map Prod.fst = ops := by
  refine stateAt_inv (I := fun pool : DispatchPool => pool.clients.map Prod.fst = ops) (fun pool move h => ?_) ?_ k
  · rw [poolStep_labels, h]
  · simp [dispatchPool, Function.comp_def]

/-- The two clients save nothing. -/
theorem no_saves (hops : ∀ op ∈ ops, op.passedRecord ≠ none) (k : Nat) (move : Nat × DispatchEnv) (p : String) :
    ¬ SavesNow (dispatchAt rt secret ops w schedule k) move p := by
  rintro ⟨op, record, next, hi, -, -⟩
  have hmem : op ∈ ops := by
    have hlabel := List.mem_map_of_mem (f := Prod.fst) (List.mem_of_getElem? hi)
    rwa [dispatchAt_labels] at hlabel
  exact hops op hmem (requests_run k _ _ _ hi).1

theorem AnswersLive.http {key : String} {pool : DispatchPool} {move : Nat × DispatchEnv}
    (h : AnswersLive rt secret key pool move) :
    ∃ reply, move.2.http = .answered reply ∧ dispatchStatus reply = .dispatchedLive := by
  obtain ⟨op, c, next, a, -, hreply, hlive⟩ := h
  cases c with
  | postN8n request =>
    simp only [dispatchHandle, post] at hreply
    cases hhttp : move.2.http with
    | raised name =>
      rw [hhttp] at hreply
      cases hreply
    | answered reply =>
      rw [hhttp] at hreply
      cases hreply
      refine ⟨a, rfl, ?_⟩
      rw [answeredLive, Bool.and_eq_true] at hlive
      simpa using hlive.2
  | soar | postTheHive | recordExecution | recordCase => cases hlive

end

def approvedSample : SoarPlaybookRecord :=
  { pendingSample with
    playbookId := sampleEvent.playbookId, state := .approved, version := 2, actorId := some "analyst-a"
    decisionReason := some "confirmed scan" }

/-- The record and the two events that led to it. -/
def approvedLedger : List LedgerInput :=
  [.append sampleCall sampleEvent,
    .append { uuid := "e2a94b7f0c1d4a58b6f3907d2c8e1b46", now := sampleMorning 15 0 }
      { sampleEvent with
        action := "analyst_approve", actorId := "analyst-a", oldState := "pending_approval", newState := "approved" },
    .records [approvedSample]]

def approvedWorld : World := { soar := stateAt (ledgerStep sampleRuntime sampleKey.1) {} approvedLedger 3 }

theorem approvedWorld_sealed : Sealed sampleRuntime sampleKey approvedWorld.soar :=
  sealed_run sampleKey sampleRuntime_nonempty approvedLedger 3

def n8nSample : N8nClient := { webhookUrl := "http://localhost:5678", secretKey := "n8n-key-1" }

def argsSample : TriggerArgs := { rfConfidencePct := .finite 97 "97.0" }

def triggerSample : DispatchOp := .trigger n8nSample argsSample approvedSample

/-- n8n answers the fourth call of the client. -/
def answeredEnv (uuid : String) (n : Nat) : DispatchEnv :=
  { call := { uuid, now := sampleMorning 20 0 }
    http := if n = 3 then .answered (.ok 200) else .raised "unused" }

theorem dispatched_as_approved_one :
    DispatchRun (dispatchAt sampleRuntime sampleKey.1 [triggerSample] approvedWorld
        (moves 0 (answeredEnv "51f7a0c3e8b94d26") 5)) (moves 0 (answeredEnv "51f7a0c3e8b94d26") 5) := by
  have hmoves : ∀ (k : Nat) move, (moves 0 (answeredEnv "51f7a0c3e8b94d26") 5)[k]? = some move →
      move = (0, answeredEnv "51f7a0c3e8b94d26" k) := by
    intro k move hmove
    rw [moves, List.getElem?_map, Option.map_eq_some_iff] at hmove
    obtain ⟨n, hn, rfl⟩ := hmove
    obtain ⟨hlt, rfl⟩ := List.getElem?_eq_some_iff.1 hn
    rw [List.getElem_range]
  have hfourth : ∀ {key : String} {pool : DispatchPool} {k : Nat},
      AnswersLive sampleRuntime sampleKey.1 key pool (0, answeredEnv "51f7a0c3e8b94d26" k) → k = 3 := by
    intro key pool k h
    obtain ⟨reply, hreply, -⟩ := h.http
    by_contra hk
    simp [answeredEnv, hk] at hreply
  refine dispatched_as_approved sampleRuntime sampleKey.1 [triggerSample] approvedWorld _ rfl ?_ ?_
  · intro k op r hsends hpassed
    obtain ⟨move, c, next, -, hi, -⟩ := hsends
    have hmem := List.mem_map_of_mem (f := Prod.fst) (List.mem_of_getElem? hi)
    rw [dispatchAt_labels, List.mem_singleton] at hmem
    obtain rfl : approvedSample = r := by
      change op = triggerSample at hmem
      rw [hmem] at hpassed
      exact Option.some.inj hpassed
    refine ⟨0, Nat.zero_le k, by decide +kernel, fun m move _ _ _ => no_saves ?_ m move _⟩
    simp [triggerSample, DispatchOp.passedRecord]
  · intro key k l move move' hmove hmove' hlive hlive'
    rw [hmoves k move hmove] at hlive
    rw [hmoves l move' hmove'] at hlive'
    rw [hfourth hlive, hfourth hlive']

/-! ## Two dispatches of one approval -/

def twoTriggers : List DispatchOp := [.read approvedSample.playbookId, triggerSample, triggerSample]

/-- The record is read; then both calls with it run to their end. -/
def twoTriggersSchedule : List (Nat × DispatchEnv) :=
  (0, answeredEnv "" 0) :: (moves 1 (answeredEnv "51f7a0c3e8b94d26") 5 ++ moves 2 (answeredEnv "9c02be6d17fa4385") 5)

def sampleRow (uuid : String) : ExecutionRow :=
  dispatchedRow sampleRuntime n8nSample argsSample approvedSample (answeredEnv uuid) (.ok 200)

def onceDispatched : World :=
  { approvedWorld with executions := approvedWorld.executions ++ [sampleRow "51f7a0c3e8b94d26"] }

/-- n8n answers both live under one key. -/
theorem one_key_dispatched_twice :
    approvedWorld.executions = [] ∧ getRecord approvedSample.playbookId approvedWorld.soar = some approvedSample ∧
    ¬ DispatchRun (dispatchAt sampleRuntime sampleKey.1 twoTriggers approvedWorld twoTriggersSchedule)
      twoTriggersSchedule := by
  refine ⟨rfl, by decide +kernel, fun h => ?_⟩
  have hne : approvedWorld.soar.events ≠ [] := by
    have hlength : approvedWorld.soar.events.length = 2 := by decide +kernel
    exact List.ne_nil_of_length_eq_add_one hlength
  have hfirst : ∃ receipt, Solo (dispatchHandle sampleRuntime sampleKey.1) 5 (answeredEnv "51f7a0c3e8b94d26")
      (triggerSoarPlaybook sampleRuntime n8nSample argsSample approvedSample) approvedWorld (.ok (.receipt receipt))
      onceDispatched :=
    solo_trigger approvedWorld_sealed hne n8nSample argsSample approvedSample (answeredEnv "51f7a0c3e8b94d26")
      (.ok 200) rfl rfl (fun _ => rfl) rfl fun row hrow => absurd hrow List.not_mem_nil
  have hsecond : ∃ receipt, Solo (dispatchHandle sampleRuntime sampleKey.1) 5 (answeredEnv "9c02be6d17fa4385")
      (triggerSoarPlaybook sampleRuntime n8nSample argsSample approvedSample) onceDispatched (.ok (.receipt receipt))
      { onceDispatched with executions := onceDispatched.executions ++ [sampleRow "9c02be6d17fa4385"] } := by
    refine solo_trigger (w := onceDispatched) approvedWorld_sealed hne n8nSample argsSample approvedSample
      (answeredEnv "9c02be6d17fa4385") (.ok 200) rfl rfl (fun _ => rfl) rfl fun row hrow => ?_
    obtain rfl : row = sampleRow "51f7a0c3e8b94d26" := List.mem_singleton.1 hrow
    decide
  obtain ⟨receipt, hfirst⟩ := hfirst
  obtain ⟨receipt', hsecond⟩ := hsecond
  have hread : dispatchHandle sampleRuntime sampleKey.1 (answeredEnv "" 0)
      (.soar (.getRecord approvedSample.playbookId)) approvedWorld =
      (.ok (getRecord approvedSample.playbookId approvedWorld.soar), approvedWorld) := rfl
  have hend : (dispatchAt sampleRuntime sampleKey.1 twoTriggers approvedWorld twoTriggersSchedule 11).state.executions =
      [sampleRow "51f7a0c3e8b94d26", sampleRow "9c02be6d17fa4385"] := by
    rw [dispatchAt, stateAt, List.take_of_length_le (by simp [twoTriggersSchedule, moves]), exec, twoTriggersSchedule,
      List.foldl_cons, List.foldl_append, dispatchPool, poolStep_ok (l := .read approvedSample.playbookId) rfl hread,
      hfirst.exec_pool (l := triggerSample) rfl, hsecond.exec_pool (l := triggerSample) rfl]
    rfl
  have honce := h.once 11 (idempotencyKey approvedSample)
  rw [hend] at honce
  exact absurd honce (by decide)

end ThreatFusion.Soar
