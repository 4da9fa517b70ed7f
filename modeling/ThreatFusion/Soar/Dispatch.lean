import ThreatFusion.Soar.Atomicity
/-
# External response: n8n webhooks and TheHive cases

`soar/n8n_thehive_misp_stack.py`, the two clients that act on a SOAR record, next to the engine on one
repository. A request leaves in a step of its own and the remote answers or fails as the environment says.

| here | there |
| --- | --- |
| `triggerSoarPlaybook`  | `trigger_soar_playbook` (:684-785) |
| `recordExecution`      | `_record_execution` (:787-812) into `n8n_executions` |
| `createCaseFromSoar`   | `create_case_from_soar` (:430-532), the text of the case taken as given |
| `recordCase`           | `_record_case` (:537-563) into `thehive_cases` |
-/
namespace ThreatFusion.Soar
open Py JsonText Concurrency Concurrency.Program Machine

inductive DispatchStatus where
  | dispatchedLive | queuedDurableOutbox
deriving DecidableEq

def DispatchStatus.text : DispatchStatus → String
  | .dispatchedLive => "dispatched_live"
  | .queuedDurableOutbox => "queued_durable_outbox"

/-- The columns of `n8n_executions`. -/
structure ExecutionRow where
  executionId : String
  playbookId : String
  candidateId : String
  actionType : String
  targetEntity : String
  idempotencyKey : String
  signatureSha256 : String
  status : DispatchStatus
  payloadJson : String
  createdAtUtc : String
deriving DecidableEq

inductive CaseStatus where
  | createdLive | queuedOffline
deriving DecidableEq

structure Observable where
  dataType : String
  data : String
  message : String
  tags : List String
deriving DecidableEq

/-- Title, description, severity and tags: text made of the record, the scores and the anatomy. -/
structure CaseText where
  title : String
  description : String
  severity : Nat
  tags : List String
deriving DecidableEq

structure TheHiveCaseRecord where
  caseId : String
  text : CaseText
  tlp : Nat := 2
  pap : Nat := 2
  observables : List Observable
  status : CaseStatus
  createdAtUtc : String
  transportError : Option String
deriving DecidableEq

structure World where
  soar : SoarDb := {}
  executions : List ExecutionRow := []
  cases : List TheHiveCaseRecord := []

inductive DispatchError where
  | soar (e : SoarError)
  /-- An exception of `urlopen` outside the tuple that the clients catch. -/
  | transport (name : String)

/-- `200`, `404`, ... or the text of an exception that the clients catch. -/
abbrev HttpReply := Except String Nat

inductive HttpOutcome where
  | answered (reply : HttpReply)
  | raised (name : String)

structure DispatchEnv where
  call : AppendCall
  http : HttpOutcome := .answered (.ok 200)

structure N8nRequest where
  endpoint : String
  body : String
  signature : String
  idempotencyKey : String

structure CaseRequest where
  endpoint : String
  text : CaseText

inductive DispatchCall where
  | soar (c : RepoCall)
  | postN8n (request : N8nRequest)
  | postTheHive (request : CaseRequest)
  | recordExecution (row : ExecutionRow)
  | recordCase (row : TheHiveCaseRecord)

def DispatchCall.Reply : DispatchCall → Type
  | .soar c => c.Reply
  | .postN8n _ | .postTheHive _ => HttpReply
  | .recordExecution _ | .recordCase _ => Unit

def DispatchCall.isRequest : DispatchCall → Bool
  | .postN8n _ | .postTheHive _ => true
  | _ => false

def post {α : Type} (env : DispatchEnv) (w : α) : Except DispatchError HttpReply × α :=
  match env.http with
  | .answered reply => (.ok reply, w)
  | .raised name => (.error (.transport name), w)

/-- An `INSERT` under a primary key. -/
def insertRow {α : Type} (fault taken : Bool) (rows : List α) (row : α) : Except DispatchError (List α) :=
  if fault || taken then .error (.soar .sqlite) else .ok (rows ++ [row])

def liftError {α : Type} : Except SoarError α → Except DispatchError α
  | .ok a => .ok a
  | .error e => .error (.soar e)

def dispatchHandle (rt : Runtime) (secret : String) :
    Handler DispatchCall.Reply DispatchError World DispatchEnv
  | env, .soar c, w =>
    (liftError (handle rt secret env.call c w.soar).1, { w with soar := (handle rt secret env.call c w.soar).2 })
  | env, .postN8n _, w => post env w
  | env, .postTheHive _, w => post env w
  | env, .recordExecution row, w =>
    match insertRow env.call.fault (w.executions.any (·.executionId = row.executionId)) w.executions row with
    | .ok rows => (.ok (), { w with executions := rows })
    | .error e => (.error e, w)
  | env, .recordCase row, w =>
    match insertRow env.call.fault (w.cases.any (·.caseId = row.caseId)) w.cases row with
    | .ok rows => (.ok (), { w with cases := rows })
    | .error e => (.error e, w)

structure N8nReceipt where
  row : ExecutionRow
  webhookUrl : String
  payload : List (String × Json)
  transportError : Option String

inductive DispatchResult where
  | soar (r : SoarResult)
  | found (r : Option SoarPlaybookRecord)
  | receipt (r : N8nReceipt)
  | case (r : TheHiveCaseRecord)

abbrev DispatchProgram := Program DispatchCall.Reply DispatchError DispatchResult

/-- An engine operation among the clients. -/
def liftSoar : SoarProgram → DispatchProgram
  | .done (.ok r) => .ret (.soar r)
  | .done (.error e) => .throw (.soar e)
  | .call c next => .call (.soar c) fun a => liftSoar (next a)

/-! ## The n8n client -/

structure N8nClient where
  webhookUrl : String
  secretKey : String
  outbox : Bool := true

structure TriggerArgs where
  rfConfidencePct : PyFloat
  queuePriorityRank : ℤ := 1
  incidentId : Option String := none
  thehiveCaseId : Option String := none
  mitreTechniqueId : String := "T1046"

/-- The mandatory approval gate, on the record that the caller holds. -/
def approvedState (s : PlaybookState) : Bool := s = .approved || s = .executedSimulated

def idempotencyKey (r : SoarPlaybookRecord) : String := s!"idem_{r.playbookId}_{r.version}"

def triggerPayload (args : TriggerArgs) (r : SoarPlaybookRecord) (executionId now : String) :
    List (String × Json) :=
  [("execution_id", .str executionId), ("playbook_id", .str r.playbookId), ("candidate_id", .str r.candidateId),
    ("action_type", .str r.actionType), ("target_entity", .str r.targetEntity), ("soar_state", .str r.state.text),
    ("actor_id", jsonText r.actorId), ("decision_reason", jsonText r.decisionReason),
    ("rf_confidence_pct", .float args.rfConfidencePct.repr), ("queue_priority_rank", .int args.queuePriorityRank),
    ("incident_id", jsonText args.incidentId), ("thehive_case_id", jsonText args.thehiveCaseId),
    ("mitre_technique_id", .str args.mitreTechniqueId), ("audit_chain_verified", .bool true),
    ("dispatched_at_utc", .str now)]

def executionRow (rt : Runtime) (client : N8nClient) (args : TriggerArgs) (r : SoarPlaybookRecord)
    (uuid now : String) (status : DispatchStatus) : ExecutionRow :=
  let executionId := "exec_" ++ String.ofList (uuid.toList.take 12)
  let payload := triggerPayload args r executionId now
  let canonical := String.ofList (dumps (.obj payload))
  { executionId, playbookId := r.playbookId, candidateId := r.candidateId, actionType := r.actionType
    targetEntity := r.targetEntity, idempotencyKey := idempotencyKey r
    signatureSha256 := rt.hmacSha256 (utf8 client.secretKey) (utf8 canonical), status
    payloadJson := spacedDumps payload, createdAtUtc := now }

def dispatchStatus : HttpReply → DispatchStatus
  | .ok status => if status = 200 ∨ status = 201 ∨ status = 204 then .dispatchedLive else .queuedDurableOutbox
  | .error _ => .queuedDurableOutbox

def transportError : HttpReply → Option String
  | .ok _ => none
  | .error text => some text

/-- After the remote answered: the receipt, and its row when there is an outbox. -/
def recording (client : N8nClient) (receipt : N8nReceipt) : DispatchProgram :=
  if client.outbox then .call (.recordExecution receipt.row) fun _ => .ret (.receipt receipt)
  else .ret (.receipt receipt)

def sending (rt : Runtime) (client : N8nClient) (args : TriggerArgs) (r : SoarPlaybookRecord)
    (uuid now : String) : DispatchProgram :=
  let row := executionRow rt client args r uuid now .queuedDurableOutbox
  let payload := triggerPayload args r row.executionId now
  let endpoint := client.webhookUrl ++ "/webhook/threatfusion-soar-approved"
  .call (.postN8n ⟨endpoint, String.ofList (dumps (.obj payload)), row.signatureSha256, row.idempotencyKey⟩)
    fun reply : HttpReply =>
    recording client
      ⟨{ row with status := dispatchStatus reply }, endpoint, payload, transportError reply⟩

def triggerSoarPlaybook (rt : Runtime) (client : N8nClient) (args : TriggerArgs) (r : SoarPlaybookRecord) :
    DispatchProgram :=
  if !approvedState r.state then
    .throw (.soar (.stateTransition (s!"Cannot trigger n8n playbook: record '{r.playbookId}' " ++
      s!"state is '{r.state.text}' (must be approved or executed_simulated)")))
  else
    .call (.soar (.verifyAuditChainIntegrity none true)) fun (ok, message) =>
    if !ok then
      .throw (.soar (.stateTransition ("Cannot trigger n8n playbook: cryptographic SOAR audit hash chain " ++
        s!"integrity failed verification ({message})")))
    else
      .call (.soar .uuid4) fun uuid : String => .call (.soar .now) fun now : DateTime =>
      sending rt client args r uuid now.isoformat

/-! ## The TheHive client -/

structure TheHiveClient where
  thehiveUrl : String
  outbox : Bool := true

def caseObservables (r : SoarPlaybookRecord) : List Observable :=
  [⟨"ip", r.targetEntity, s!"Target entity associated with {r.actionType}", ["target_entity"]⟩,
    ⟨"other", r.candidateId, "ThreatFusion Alert Candidate ID", ["candidate_id"]⟩]

def caseId (r : SoarPlaybookRecord) (uuid : String) : String :=
  "case_" ++ String.ofList (r.candidateId.toList.map fun c => if c = ':' then '_' else c) ++ "_" ++
    String.ofList (uuid.toList.take 6)

def caseStatus : HttpReply → CaseStatus
  | .ok status => if status = 200 ∨ status = 201 then .createdLive else .queuedOffline
  | .error _ => .queuedOffline

def recordingCase (client : TheHiveClient) (row : TheHiveCaseRecord) : DispatchProgram :=
  if client.outbox then .call (.recordCase row) fun _ => .ret (.case row) else .ret (.case row)

def sendingCase (client : TheHiveClient) (text : CaseText) (r : SoarPlaybookRecord) : DispatchProgram :=
  .call (.soar .uuid4) fun uuid : String => .call (.soar .now) fun now : DateTime =>
  .call (.postTheHive ⟨client.thehiveUrl ++ "/api/v1/case", text⟩) fun reply : HttpReply =>
  recordingCase client
    { caseId := caseId r uuid, text, observables := caseObservables r, status := caseStatus reply
      createdAtUtc := now.isoformat, transportError := transportError reply }

/-- `anatomyText` is the case with a given anatomy, or with one that is built from whether the chain still
verifies (a second verification). -/
def createCaseFromSoar (client : TheHiveClient) (anatomyText : CaseText ⊕ (Bool → CaseText))
    (r : SoarPlaybookRecord) : DispatchProgram :=
  if !approvedState r.state then
    .throw (.soar (.stateTransition (s!"TheHive case creation rejected: SOAR record '{r.playbookId}' " ++
      s!"state is '{r.state.text}' (must be approved or executed_simulated)")))
  else
    .call (.soar (.verifyAuditChainIntegrity none true)) fun (ok, message) =>
    if !ok then
      .throw (.soar (.stateTransition ("TheHive case creation rejected: cryptographic SOAR audit hash chain " ++
        s!"integrity failed verification ({message})")))
    else match anatomyText with
      | .inl text => sendingCase client text r
      | .inr build => .call (.soar (.verifyAuditChainIntegrity none true)) fun (again, _) =>
        sendingCase client (build again) r

end ThreatFusion.Soar
