import ThreatFusion.Soar.Locking
/-
# Range containment (`api/live_soc_console.py`:4705-4947)

`contain_range_source` and `rollback_range_source` as sequences of calls: reads of the two databases, actions
of the runner, and one update. Any other call may run between two of them.

| here | there |
| --- | --- |
| `LiveFlow`             | the columns of `live_flows` that the two calls read or write |
| `RangeWorld.rules`     | how many DROP rules for `172.29.0.10/32` the victim has |
| `rangeHandle`          | what one call does; the runner answers as `RangeEnv` says, and acts when `took` |
| `authorized`           | `_authorized_range_flow` (:4837-4865) |
| `storing`              | the clock and `_store_containment_state` (:4868-4878) |
| `containRangeSource`   | `contain_range_source` (:4881-4912) |
| `rollbackRangeSource`  | `rollback_range_source` (:4915-4947) |

A runner that raises, or that answers falsely, may have acted. `drop` inserts a rule unless one is there
(`iptables -C` before `-I`), `rollback` removes one (`iptables -D`).
-/
namespace ThreatFusion.LiveConsole.Containment
open Soar Py Concurrency Concurrency.Program

def RANGE_CONTAINMENT_SOURCE : String := "172.29.0.10"

inductive ContainmentState where
  | applied | rolledBack
deriving DecidableEq

structure LiveFlow where
  flowId : ℤ
  srcEntityId : Option String
  callbackRecorded : Bool
  callbackSignature : Option String
  containmentState : Option ContainmentState := none
  containmentAt : Option String := none
  rollbackAt : Option String := none
deriving DecidableEq

inductive RangeAction where
  | status | drop | rollback | probe
deriving DecidableEq

/-- The `reason` of a refusal. -/
inductive RangeRefusal where
  | flowNotStored | containmentTargetRejected | callbackNotRecorded | playbookNotApproved | rangeNotRunning
  | rangeCommandFailed | containmentNotObserved | containmentNotApplied | rollbackRuleMissing
  | rollbackNotObserved
deriving DecidableEq

def RangeRefusal.text : RangeRefusal → String
  | .flowNotStored => "flow_not_stored"
  | .containmentTargetRejected => "containment_target_rejected"
  | .callbackNotRecorded => "callback_not_recorded"
  | .playbookNotApproved => "playbook_not_approved"
  | .rangeNotRunning => "range_not_running"
  | .rangeCommandFailed => "range_command_failed"
  | .containmentNotObserved => "containment_not_observed"
  | .containmentNotApplied => "containment_not_applied"
  | .rollbackRuleMissing => "rollback_rule_missing"
  | .rollbackNotObserved => "rollback_not_observed"

def RangeRefusal.httpStatus : RangeRefusal → Nat
  | .flowNotStored | .containmentTargetRejected | .callbackNotRecorded | .playbookNotApproved => 403
  | .rangeNotRunning | .rangeCommandFailed | .containmentNotApplied | .rollbackRuleMissing => 409
  | .containmentNotObserved | .rollbackNotObserved => 502

inductive RangeError where
  | sqlite | runner
  | soar (e : SoarError)
deriving DecidableEq

inductive RangeResult where
  | refused (reason : RangeRefusal)
  /-- `containment_applied` or `containment_rolled_back`, with the recorded time. -/
  | verified (state : ContainmentState) (recordedAt : String)
  | soar (r : SoarResult)

structure RangeWorld where
  flows : List LiveFlow
  soar : SoarDb
  rules : Nat

/-- What one call meets: the clock, the `uuid4` and SQLite; are both database files there; the answer of the
runner (`none`: it raises) and whether it acted. -/
structure RangeEnv where
  call : AppendCall
  files : Bool := true
  answer : Option Bool := none
  took : Bool := false
deriving DecidableEq

inductive RangeCall where
  | isFile
  | selectFlow (flowId : ℤ)
  | listRecordsForCandidate (candidateId : String)
  | act (action : RangeAction)
  | now
  | store (flowId : ℤ) (state : ContainmentState) (when : String)
  | soar (c : RepoCall)

def RangeCall.Reply : RangeCall → Type
  | .isFile => Bool
  | .selectFlow _ => Option LiveFlow
  | .listRecordsForCandidate _ => List SoarPlaybookRecord
  | .act _ => Bool
  | .now => DateTime
  | .store _ _ _ => Unit
  | .soar c => c.Reply

abbrev RangeProgram := Program RangeCall.Reply RangeError RangeResult

/-- The rules after an action that took effect. -/
def afterAction (rules : Nat) : RangeAction → Nat
  | .drop => if rules = 0 then 1 else rules
  | .rollback => rules - 1
  | .status | .probe => rules

/-- The `UPDATE` of one flow. -/
def LiveFlow.stored (flowId : ℤ) (state : ContainmentState) (when : String) (row : LiveFlow) : LiveFlow :=
  if row.flowId = flowId then
    match state with
    | .applied => { row with containmentState := some .applied, containmentAt := some when }
    | .rolledBack => { row with containmentState := some .rolledBack, rollbackAt := some when }
  else row

def liftRange {α : Type} : Except SoarError α → Except RangeError α
  | .ok a => .ok a
  | .error e => .error (.soar e)

def rangeHandle (rt : Runtime) (secret : String) : Handler RangeCall.Reply RangeError RangeWorld RangeEnv
  | env, .isFile, w => (.ok env.files, w)
  | env, .selectFlow flowId, w =>
    if env.call.fault then (.error .sqlite, w) else (.ok (w.flows.find? (·.flowId = flowId)), w)
  | env, .listRecordsForCandidate candidateId, w =>
    if env.call.fault then (.error .sqlite, w)
    else (.ok (w.soar.records.filter (·.candidateId = candidateId)), w)
  | env, .act action, w =>
    (match env.answer with
      | some answer => .ok answer
      | none => .error .runner,
      if env.took then { w with rules := afterAction w.rules action } else w)
  | env, .now, w => (.ok env.call.now, w)
  | env, .store flowId state when, w =>
    if env.call.fault then (.error .sqlite, w)
    else (.ok (), { w with flows := w.flows.map (LiveFlow.stored flowId state when) })
  | env, .soar c, w =>
    (liftRange (Soar.handle rt secret env.call c w.soar).1,
      { w with soar := (Soar.handle rt secret env.call c w.soar).2 })

def refuse (reason : RangeRefusal) : RangeProgram := .ret (.refused reason)

def candidateOfFlow (flowId : ℤ) : String := s!"live_flow:{flowId}"

/-- `approved` or `executed_simulated`. -/
def authorizes (state : PlaybookState) : Bool := state = .approved || state = .executedSimulated

/-- The checks of the flow row. -/
def flowRefusal (flow : LiveFlow) : Option RangeRefusal :=
  if flow.srcEntityId.getD "" ≠ RANGE_CONTAINMENT_SOURCE then some .containmentTargetRejected
  else if !flow.callbackRecorded || !isSha256 (flow.callbackSignature.getD "") then some .callbackNotRecorded
  else none

/-! ## The two calls -/

def listing (flowId : ℤ) (chainOk : Bool) (flow : LiveFlow) (next : LiveFlow → RangeProgram) : RangeProgram :=
  .call (.listRecordsForCandidate (candidateOfFlow flowId)) fun records : List SoarPlaybookRecord =>
  if chainOk && records.any fun r => authorizes r.state then next flow else refuse .playbookNotApproved

def verifyingLedger (flowId : ℤ) (flow : LiveFlow) (next : LiveFlow → RangeProgram) : RangeProgram :=
  .call (.soar (.verifyAuditChainIntegrity none true)) fun verdict : Bool × String =>
  listing flowId verdict.1 flow next

def selecting (flowId : ℤ) (next : LiveFlow → RangeProgram) : RangeProgram :=
  .call (.selectFlow flowId) fun found : Option LiveFlow =>
  match found with
  | none => refuse .flowNotStored
  | some flow => match flowRefusal flow with
    | some reason => refuse reason
    | none => verifyingLedger flowId flow next

/-- `_authorized_range_flow`, and what follows when it does not refuse. -/
def authorized (flowId : ℤ) (next : LiveFlow → RangeProgram) : RangeProgram :=
  if flowId ≤ 0 then refuse .flowNotStored
  else .call .isFile fun both : Bool => if both then selecting flowId next else refuse .flowNotStored

def storingAt (flowId : ℤ) (state : ContainmentState) (recordedAt : String) : RangeProgram :=
  .call (.store flowId state recordedAt) fun _ => .ret (.verified state recordedAt)

def storing (flowId : ℤ) (state : ContainmentState) : RangeProgram :=
  .call .now fun now : DateTime => storingAt flowId state now.isoformat

/-- The path is still open: the rule is taken back, whatever the runner says. -/
def undoing : RangeProgram :=
  .call (.act .rollback) fun _ => refuse .containmentNotObserved

def probingDrop (flowId : ℤ) : RangeProgram :=
  .call (.act .probe) fun reachable : Bool => if reachable then undoing else storing flowId .applied

def dropping (flowId : ℤ) : RangeProgram :=
  .call (.act .drop) fun applied : Bool =>
  if applied then probingDrop flowId else refuse .rangeCommandFailed

def containRangeSource (flowId : ℤ) : RangeProgram :=
  authorized flowId fun _ =>
  .call (.act .status) fun running : Bool => if running then dropping flowId else refuse .rangeNotRunning

def probingRollback (flowId : ℤ) : RangeProgram :=
  .call (.act .probe) fun reachable : Bool =>
  if reachable then storing flowId .rolledBack else refuse .rollbackNotObserved

def removing (flowId : ℤ) : RangeProgram :=
  .call (.act .rollback) fun removed : Bool =>
  if removed then probingRollback flowId else refuse .rollbackRuleMissing

def rollbackRangeSource (flowId : ℤ) : RangeProgram :=
  authorized flowId fun flow =>
  if flow.containmentState ≠ some .applied then refuse .containmentNotApplied
  else .call (.act .status) fun running : Bool =>
    if running then removing flowId else refuse .rangeNotRunning

/-! ## Any number of calls -/

/-- A playbook operation among the calls. -/
def liftLedger : SoarProgram → RangeProgram
  | .done (.ok r) => .ret (.soar r)
  | .done (.error e) => .throw (.soar e)
  | .call c next => .call (.soar c) fun a => liftLedger (next a)

inductive RangeOp where
  | contain (flowId : ℤ)
  | rollback (flowId : ℤ)
  | ledger (op : SoarOp)

def RangeOp.program (rt : Runtime) : RangeOp → RangeProgram
  | .contain flowId => containRangeSource flowId
  | .rollback flowId => rollbackRangeSource flowId
  | .ledger op => liftLedger (op.program rt)

abbrev RangePool := Pool RangeCall.Reply RangeError RangeWorld RangeResult RangeOp

def startRange (rt : Runtime) (ops : List RangeOp) (w : RangeWorld) : RangePool :=
  { state := w, clients := ops.map fun op => (op, op.program rt) }

/-- The pool after the first `k` moves of a schedule. -/
def rangeAt (rt : Runtime) (secret : String) (ops : List RangeOp) (w : RangeWorld)
    (schedule : List (Nat × RangeEnv)) (k : Nat) : RangePool :=
  Machine.stateAt (poolStep (rangeHandle rt secret)) (startRange rt ops w) schedule k

end ThreatFusion.LiveConsole.Containment
