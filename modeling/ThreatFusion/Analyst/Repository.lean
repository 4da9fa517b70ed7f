import ThreatFusion.Analyst.Schema
import Mathlib.Data.List.Sort
/-
# `AnalystStateRepository`: states and events in one transaction

`db/analyst_state_repository.py`. A table is the list of its rows; the `BEGIN IMMEDIATE` transaction of a call
is one step, and an error leaves the tables as they were. The alerts are another database; the
workflow asks it whether a candidate is there, and for a page of them.

| here | there |
| --- | --- |
| `stateFromRow`, `transitionFromRow` | `_state_from_row` (:115-131), `_transition_from_row` (:134-149) |
| `validateHistory`        | `_validate_history` (:152-175) |
| `insertState`, `updateState`, `insertEvent` | the writes with the constraints of the schema (:46-83) |
| `listAlerts`, `getAlert` | `list_alerts` (:291-354), `get_alert` (:356-392) |
| `transition`             | `transition` (:394-548) |
-/
namespace ThreatFusion.Analyst
open Py

structure StateRow where
  alertCandidateId : String
  state : AnalystState
  version : ℤ
  updatedAt : String
  updatedBy : String
  lastTransitionId : String
deriving DecidableEq

structure EventRow where
  schemaVersion : String
  transitionId : String
  alertCandidateId : String
  sequence : ℤ
  expectedVersion : ℤ
  fromState : AnalystState
  toState : AnalystState
  actorId : String
  rationale : String
  transitionedAt : String
deriving DecidableEq

structure AnalystDb where
  states : List StateRow := []
  events : List EventRow := []
deriving DecidableEq

/-! ## Reading -/

def implicitNew (alertCandidateId : String) : Except AnalystStateError AnalystStateSnapshot :=
  AnalystStateSnapshot.new ⟨alertCandidateId, .new, 0, none, none, none⟩

/-- The errors of a row are all one to the caller. -/
def recordInvalid {α : Type} : Except AnalystStateError α → Except AnalystStateError α
  | .ok a => .ok a
  | .error _ => .error .databaseRecordInvalid

def stateFromRow (row : Option StateRow) (alertCandidateId : String) :
    Except AnalystStateError AnalystStateSnapshot :=
  match row with
  | none => implicitNew alertCandidateId
  | some row => match DateTime.fromisoformat row.updatedAt with
    | none => .error .databaseRecordInvalid
    | some updatedAt => recordInvalid (AnalystStateSnapshot.new
        ⟨row.alertCandidateId, row.state, row.version, some updatedAt, some row.updatedBy, some row.lastTransitionId⟩)

section
variable (printable : Char → Bool)

def transitionFromRow (row : EventRow) : Except AnalystStateError (AnalystTransitionEvent printable) :=
  match DateTime.fromisoformat row.transitionedAt with
  | none => .error .databaseRecordInvalid
  | some transitionedAt => recordInvalid (AnalystTransitionEvent.new printable
      ⟨row.schemaVersion, row.transitionId, row.alertCandidateId, row.sequence, row.expectedVersion, row.fromState,
        row.toState, row.actorId, row.rationale, transitionedAt⟩)

def transitionsFromRows : List EventRow → Except AnalystStateError (List (AnalystTransitionEvent printable))
  | [] => .ok []
  | row :: rows => do
    let event ← transitionFromRow printable row
    let events ← transitionsFromRows rows
    .ok (event :: events)

variable {printable}

/-- The event at position `index` is out of place; `previous` is where the one before it led. -/
def misplaced (alertCandidateId : String) : ℤ → Option AnalystState → List (AnalystTransitionEvent printable) → Bool
  | _, _, [] => false
  | index, previous, event :: events =>
    event.sequence != index || event.alertCandidateId != alertCandidateId || previous.any (· != event.fromState) ||
      misplaced alertCandidateId (index + 1) (some event.toState) events

def validateHistory (alertCandidateId : String) (state : AnalystStateSnapshot)
    (transitions : List (AnalystTransitionEvent printable)) : Except AnalystStateError Unit :=
  if (transitions.length : ℤ) != state.version || misplaced alertCandidateId 1 none transitions then
    .error .databaseRecordInvalid
  else match transitions.getLast? with
    | none => .ok ()
    | some latest =>
      if some latest.transitionId != state.lastTransitionId || latest.toState != state.state ||
          some latest.actorId != state.updatedBy || some latest.transitionedAt != state.updatedAt then
        .error .databaseRecordInvalid
      else .ok ()

/-- `alert_candidate_id` is the primary key. -/
def stateRow? (alertCandidateId : String) (db : AnalystDb) : Option StateRow :=
  db.states.find? (·.alertCandidateId = alertCandidateId)

def eventRows (alertCandidateId : String) (db : AnalystDb) : List EventRow :=
  (db.events.filter (·.alertCandidateId = alertCandidateId)).insertionSort fun a b => a.sequence ≤ b.sequence

variable (printable)

def readHistory (alertCandidateId : String) (db : AnalystDb) :
    Except AnalystStateError (AnalystStateSnapshot × List (AnalystTransitionEvent printable)) := do
  let current ← stateFromRow (stateRow? alertCandidateId db) alertCandidateId
  let history ← transitionsFromRows printable (eventRows alertCandidateId db)
  validateHistory alertCandidateId current history
  .ok (current, history)

end

/-! ## Writing -/

def StateRow.checks (row : StateRow) : Bool :=
  (row.state == .inReview && row.version == 1) || ((row.state == .closed || row.state == .escalated) && row.version == 2)

def EventRow.checks (row : EventRow) : Bool :=
  (row.sequence == 1 && row.expectedVersion == 0 && row.fromState == .new && row.toState == .inReview) ||
    (row.sequence == 2 && row.expectedVersion == 1 && row.fromState == .inReview &&
      (row.toState == .closed || row.toState == .escalated))

def insertState (row : StateRow) (db : AnalystDb) : Except AnalystStateError AnalystDb :=
  if !row.checks || db.states.any (fun r => r.alertCandidateId = row.alertCandidateId ∨
      r.lastTransitionId = row.lastTransitionId) then .error .databaseWriteFailed
  else .ok { db with states := db.states ++ [row] }

/-- `UPDATE … WHERE alert_candidate_id = ? AND version = ?`, and the test of its row count. -/
def updateState (row : StateRow) (expectedVersion : ℤ) (db : AnalystDb) : Except AnalystStateError AnalystDb :=
  let hit (r : StateRow) : Bool := r.alertCandidateId = row.alertCandidateId ∧ r.version = expectedVersion
  if db.states.any hit && (!row.checks || db.states.any fun r => !hit r && r.lastTransitionId = row.lastTransitionId) then
    .error .databaseWriteFailed
  else if db.states.countP hit ≠ 1 then .error .stateVersionConflict
  else .ok { db with states := db.states.map fun r => if hit r then row else r }

def insertEvent (row : EventRow) (db : AnalystDb) : Except AnalystStateError AnalystDb :=
  if !row.checks || db.events.any (fun r => r.transitionId = row.transitionId ∨
      r.alertCandidateId = row.alertCandidateId ∧ r.sequence = row.sequence) ||
      !db.states.any (·.alertCandidateId = row.alertCandidateId) then .error .databaseWriteFailed
  else .ok { db with events := db.events ++ [row] }

/-! ## Transitions -/

inductive DbFault where
  | none | unavailable | busy | failed
deriving DecidableEq

/-- The clock of a call: it raises, or gives a value that is not UTC, or a time. -/
inductive ClockReading where
  | raised
  | notUtc
  | utc (t : DateTime)

structure CallEnv where
  alertsFail : Bool := false
  fault : DbFault := .none
  clock : ClockReading

structure TransitionArgs where
  alertCandidateId : Value
  expectedVersion : Value
  toState : Value
  transitionId : Value
  rationale : Value
deriving DecidableEq

structure TransitionCall where
  registry : Registry
  capability : Option AnalystCapability
  args : TransitionArgs

/-- Arguments that passed. -/
structure TransitionRequest (printable : Char → Bool) where
  alertCandidateId : { s : String // isAlertCandidateId s = true }
  expectedVersion : { n : ℤ // 0 ≤ n ∧ n ≤ 2 }
  toState : { s : AnalystState // s ≠ .new }
  transitionId : { s : String // isUuid4 s = true }
  rationale : { s : String // validRationale printable s = true }

def textArg (test : String → Bool) (e : AnalystStateError) : Value → Except AnalystStateError { s // test s = true }
  | .str s => if h : test s = true then .ok ⟨s, h⟩ else .error e
  | _ => .error e

def versionArg : Value → Except AnalystStateError { n : ℤ // 0 ≤ n ∧ n ≤ 2 }
  | .int n => if h : 0 ≤ n ∧ n ≤ 2 then .ok ⟨n, h⟩ else .error .stateVersionInvalid
  | _ => .error .stateVersionInvalid

def targetArg : Value → Except AnalystStateError { s : AnalystState // s ≠ .new }
  | .str s =>
    if s = AnalystState.inReview.text then .ok ⟨.inReview, by decide⟩
    else if s = AnalystState.closed.text then .ok ⟨.closed, by decide⟩
    else if s = AnalystState.escalated.text then .ok ⟨.escalated, by decide⟩
    else .error .targetStateInvalid
  | _ => .error .targetStateInvalid

section
variable (printable : Char → Bool)

def checkArgs (args : TransitionArgs) : Except AnalystStateError (TransitionRequest printable) := do
  let alertCandidateId ← textArg isAlertCandidateId .alertCandidateIdInvalid args.alertCandidateId
  let expectedVersion ← versionArg args.expectedVersion
  let toState ← targetArg args.toState
  let transitionId ← textArg isUuid4 .transitionIdInvalid args.transitionId
  let rationale ← textArg (validRationale printable) .rationaleInvalid args.rationale
  .ok ⟨alertCandidateId, expectedVersion, toState, transitionId, rationale⟩

def getCandidate (fail : Bool) (alertCandidateId : String) (alerts : List String) : Except AnalystStateError Unit :=
  if fail then .error .alertRepositoryFailed
  else if alertCandidateId ∈ alerts then .ok () else .error .alertCandidateNotFound

def raiseFault : DbFault → Except AnalystStateError Unit
  | .none => .ok ()
  | .unavailable => .error .databaseUnavailable
  | .busy => .error .databaseBusy
  | .failed => .error .databaseWriteFailed

/-- Everything up to the first read of the transaction; a fault of SQLite is raised here, wherever it hits. -/
def prepare (call : TransitionCall) (env : CallEnv) (alerts : List String) :
    Except AnalystStateError (String × TransitionRequest printable) := do
  let actorId ← call.registry.require true call.capability
  let request ← checkArgs printable call.args
  getCandidate env.alertsFail request.alertCandidateId alerts
  raiseFault env.fault
  .ok (actorId, request)

variable {printable}

def readClock : ClockReading → Except AnalystStateError DateTime
  | .utc t => .ok t
  | _ => .error .clockInvalid

def AnalystTransitionEvent.row (e : AnalystTransitionEvent printable) : EventRow :=
  ⟨e.schemaVersion, e.transitionId, e.alertCandidateId, e.sequence, e.expectedVersion, e.fromState, e.toState,
    e.actorId, e.rationale, e.transitionedAt.isoformat⟩

/-- `alert_candidate_id` with `state_values`. -/
def AnalystTransitionEvent.stateRow (e : AnalystTransitionEvent printable) : StateRow :=
  ⟨e.alertCandidateId, e.toState, e.sequence, e.transitionedAt.isoformat, e.actorId, e.transitionId⟩

def sameUse (event : AnalystTransitionEvent printable) (actorId : String) (request : TransitionRequest printable) :
    Bool :=
  event.alertCandidateId == request.alertCandidateId.1 && event.expectedVersion == request.expectedVersion.1 &&
    event.toState == request.toState.1 && event.actorId == actorId && event.rationale == request.rationale.1

/-- `sequence` is `current.version + 1`. -/
def newEvent (actorId : String) (request : TransitionRequest printable) (current : AnalystStateSnapshot)
    (transitionedAt : DateTime) : Except AnalystStateError (AnalystTransitionEvent printable) :=
  AnalystTransitionEvent.new printable
    { schemaVersion := ANALYST_TRANSITION_SCHEMA_VERSION, transitionId := request.transitionId
      alertCandidateId := request.alertCandidateId, sequence := current.version + 1
      expectedVersion := request.expectedVersion, fromState := current.state, toState := request.toState, actorId
      rationale := request.rationale, transitionedAt }

/-- The result that is built after the commit. -/
def createdResult (event : AnalystTransitionEvent printable) :
    Except AnalystStateError (AnalystTransitionResult printable) := do
  let state ← AnalystStateSnapshot.new
    ⟨event.alertCandidateId, event.toState, event.sequence, some event.transitionedAt, some event.actorId,
      some event.transitionId⟩
  AnalystTransitionResult.new .created state event

def writeEvent (event : AnalystTransitionEvent printable) (db : AnalystDb) : Except AnalystStateError AnalystDb := do
  let db ← if event.fromState = .new then insertState event.stateRow db
    else updateState event.stateRow event.expectedVersion db
  insertEvent event.row db

/-- The transaction once the history was read: what it returns after its commit, and the tables then. -/
def settle (actorId : String) (request : TransitionRequest printable) (clock : ClockReading) (db : AnalystDb)
    (current : AnalystStateSnapshot) :
    Except AnalystStateError (Except AnalystStateError (AnalystTransitionResult printable) × AnalystDb) :=
  match db.events.find? (·.transitionId = request.transitionId.1) with
  | some row => do
    let event ← transitionFromRow printable row
    if sameUse event actorId request then .ok (AnalystTransitionResult.new .existing current event, db)
    else .error .transitionIdentityConflict
  | none =>
    if current.version ≠ request.expectedVersion.1 then .error .stateVersionConflict
    else if request.toState.1 ∉ current.state.allowed then .error .transitionInvalid
    else do
      let transitionedAt ← readClock clock
      let event ← newEvent actorId request current transitionedAt
      let db ← writeEvent event db
      .ok (createdResult event, db)

def transact (actorId : String) (request : TransitionRequest printable) (clock : ClockReading) (db : AnalystDb) :
    Except AnalystStateError (Except AnalystStateError (AnalystTransitionResult printable) × AnalystDb) := do
  let (current, _) ← readHistory printable request.alertCandidateId db
  settle actorId request clock db current

/-- The alerts that are stored, next to the workflow's own database. -/
structure AnalystWorld where
  alerts : List String := []
  db : AnalystDb := {}

def transition (printable : Char → Bool) (call : TransitionCall) (env : CallEnv) (w : AnalystWorld) :
    Except AnalystStateError (AnalystTransitionResult printable) × AnalystWorld :=
  match prepare printable call env w.alerts with
  | .error e => (.error e, w)
  | .ok (actorId, request) => match transact actorId request env.clock w.db with
    | .error e => (.error e, w)
    | .ok (reply, db) => (reply, { w with db })

end

/-! ## The two readers -/

def MAX_ALERT_LIST_LIMIT : ℤ := 100
def MAX_ALERT_LIST_OFFSET : ℤ := 1000000

def intArg (lo hi : ℤ) (e : AnalystStateError) : Value → Except AnalystStateError Unit
  | .int n => if lo ≤ n ∧ n ≤ hi then .ok () else .error e
  | _ => .error e

def raiseReadFault : DbFault → Except AnalystStateError Unit
  | .none => .ok ()
  | .unavailable => .error .databaseUnavailable
  | .busy | .failed => .error .databaseReadFailed

def statesFromRows : List StateRow → Except AnalystStateError (List AnalystStateSnapshot)
  | [] => .ok []
  | row :: rows => do
    let state ← stateFromRow (some row) row.alertCandidateId
    let states ← statesFromRows rows
    .ok (state :: states)

section
variable (printable : Char → Bool)

/-- The state of one alert of the page, after the history was checked. -/
def listItem (states : List AnalystStateSnapshot) (events : List (AnalystTransitionEvent printable))
    (alertCandidateId : String) : Except AnalystStateError (String × AnalystStateSnapshot) := do
  let fresh ← implicitNew alertCandidateId
  let state := (states.find? (·.alertCandidateId = alertCandidateId)).getD fresh
  validateHistory alertCandidateId state (events.filter (·.alertCandidateId = alertCandidateId))
  .ok (alertCandidateId, state)

def listItems (states : List AnalystStateSnapshot) (events : List (AnalystTransitionEvent printable)) :
    List String → Except AnalystStateError (List (String × AnalystStateSnapshot))
  | [] => .ok []
  | identifier :: identifiers => do
    let item ← listItem printable states events identifier
    let items ← listItems states events identifiers
    .ok (item :: items)

/-- `page` is what `AlertCandidateRepository.list` gave: identifiers, or its error. -/
def listAlerts (registry : Registry) (capability : Option AnalystCapability) (limit offset : Value)
    (page : Option (List String)) (fault : DbFault) (db : AnalystDb) :
    Except AnalystStateError (List (String × AnalystStateSnapshot)) := do
  let _ ← registry.require false capability
  intArg 1 MAX_ALERT_LIST_LIMIT .listLimitInvalid limit
  intArg 0 MAX_ALERT_LIST_OFFSET .listOffsetInvalid offset
  match page with
  | none => .error .alertRepositoryFailed
  | some [] => .ok []
  | some identifiers =>
    raiseReadFault fault
    let states ← statesFromRows (db.states.filter (·.alertCandidateId ∈ identifiers))
    let events ← transitionsFromRows printable ((db.events.filter (·.alertCandidateId ∈ identifiers)).insertionSort
      fun a b => a.alertCandidateId < b.alertCandidateId ∨
        a.alertCandidateId = b.alertCandidateId ∧ a.sequence ≤ b.sequence)
    listItems printable states events identifiers

/-- Current state and history of one alert. -/
def getAlert (registry : Registry) (capability : Option AnalystCapability) (alertCandidateId : Value)
    (alertsFail : Bool) (fault : DbFault) (w : AnalystWorld) :
    Except AnalystStateError (Option (AnalystStateSnapshot × List (AnalystTransitionEvent printable))) := do
  let _ ← registry.require false capability
  let identifier ← textArg isAlertCandidateId .alertCandidateIdInvalid alertCandidateId
  match getCandidate alertsFail identifier w.alerts with
  | .error .alertCandidateNotFound => .ok none
  | .error e => .error e
  | .ok () =>
    raiseReadFault fault
    let history ← readHistory printable identifier w.db
    .ok (some history)

end
end ThreatFusion.Analyst
