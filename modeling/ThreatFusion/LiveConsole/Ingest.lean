import ThreatFusion.Inference.Scoring
import ThreatFusion.Lib.Machine
import ThreatFusion.Lib.Program
/-
# Live sensor ingest (`record_suricata_bridge_flow`, api/live_soc_console.py:568-672)

A post looks its event up, inserts a flow and inserts a campaign: three transactions, between which any
other post may run. A transaction may fail with an SQLite error (`fault`) and then changes nothing; a crash
is a client that makes no further move. A retry is one more post with the same event.

| here | there |
| --- | --- |
| `SensorPost` | a request that passed `_normalize_sensor_node` and `_validate_sensor_request` |
| `handle`     | the three transactions; `live_flows_source_event_id` is the unique index (:170) |
| `HalfStored` | some post of the event stands, or has stopped, between its two inserts |

`ingest_iff` says on which schedules the ingest is idempotent and complete.
-/
namespace ThreatFusion.LiveConsole
open Inference Py Concurrency Concurrency.Program Machine

def SENSOR_BRIDGE_SOURCE : String := "suricata_bridge"

/-- `_SENSOR_EVENT_ID`. -/
def isSensorEventId (text : String) : Bool :=
  let tag := "suricata_flow_v1:".toList
  let digits := text.toList.drop tag.length
  tag.isPrefixOf text.toList && digits.length == 64 && digits.all fun c => c.isDigit || ('a' ≤ c && c ≤ 'f')

def campaignIdOf (eventId : String) : String := "campaign_suricata_bridge:" ++ eventId

theorem append_cancel_tag {tag d e : String} (h : tag ++ d = tag ++ e) : d = e := by
  have hlist := congrArg String.toList h
  rw [String.toList_append, String.toList_append] at hlist
  exact String.toList_inj.1 (List.append_cancel_left hlist)

theorem campaignIdOf_inj {d e : String} (h : campaignIdOf d = campaignIdOf e) : d = e := append_cancel_tag h

structure SensorPost where
  features : Features
  sourceEventId : String
  event_id_valid : isSensorEventId sourceEventId = true
  node : String
  /-- What `_coerce_observed_at` makes of the time, `none` if it refuses. -/
  observed : Option String
  /-- `json.dumps` of `_sensor_observation_body` for a score. -/
  observationJson : FlowScore → String
  supplyVerified : Bool
  model : Except String BinaryEstimator

/-- The columns of `live_flows` that the ingest writes and reads. -/
structure NewFlow where
  observedAt : String
  rfAttackProbability : Option ℚ
  decision : Decision
  verified : Bool
  reason : String
  campaignId : String
  sourceLabel : String
  caseTitle : Option String
  sourceEventId : Option String
  sensorObservationJson : String
  sensorNode : String
deriving DecidableEq

structure FlowRow extends NewFlow where
  flowId : ℕ
deriving DecidableEq

structure CampaignRow where
  campaignId : String
  title : String
  sourceLabel : String
  memberCount : ℕ
deriving DecidableEq

structure LiveDb where
  liveFlows : List FlowRow
  /-- the `AUTOINCREMENT` counter -/
  lastFlowId : ℕ
  liveCampaigns : List CampaignRow
deriving DecidableEq

def LiveDb.empty : LiveDb := ⟨[], 0, []⟩

inductive IngestError where
  | operationalError
  | integrityError
  | overflowError
deriving DecidableEq

/-! ## The transactions -/

inductive IngestCall where
  | lookup (eventId : String)
  | insertFlow (flow : NewFlow)
  | insertCampaign (campaign : CampaignRow)

def IngestCall.Reply : IngestCall → Type
  | .lookup _ => Option FlowRow
  | .insertFlow _ => ℕ
  | .insertCampaign _ => Unit

structure IngestEnv where
  fault : Bool

def LiveDb.find (db : LiveDb) (eventId : String) : Option FlowRow :=
  db.liveFlows.find? fun row => row.sourceEventId == some eventId

/-- The index refuses the row; it does not hold rows without an event. -/
def LiveDb.refuses (db : LiveDb) (flow : NewFlow) : Bool :=
  match flow.sourceEventId with
  | none => false
  | some eventId => (db.find eventId).isSome

def LiveDb.addFlow (db : LiveDb) (flow : NewFlow) : LiveDb :=
  { db with liveFlows := db.liveFlows ++ [⟨flow, db.lastFlowId + 1⟩], lastFlowId := db.lastFlowId + 1 }

def LiveDb.addCampaign (db : LiveDb) (campaign : CampaignRow) : LiveDb :=
  { db with liveCampaigns := db.liveCampaigns ++ [campaign] }

def answer : (c : IngestCall) → LiveDb → Except IngestError c.Reply × LiveDb
  | .lookup eventId, db => (.ok (db.find eventId), db)
  | .insertFlow flow, db =>
    if db.refuses flow then (.error .integrityError, db) else (.ok (db.lastFlowId + 1), db.addFlow flow)
  | .insertCampaign campaign, db =>
    if db.liveCampaigns.any fun c => c.campaignId == campaign.campaignId then (.error .integrityError, db)
    else (.ok (), db.addCampaign campaign)

def handle : Handler IngestCall.Reply IngestError LiveDb IngestEnv := fun env c db =>
  if env.fault then (.error .operationalError, db) else answer c db

/-! ## A post -/

structure SensorBody where
  verified : Bool
  reason : String
  decision : Decision
  rfAttackProbability : Option ℚ
  sourceLabel : String
  campaignId : String
  caseTitle : Option String
  flowId : ℕ
  observedAt : String
  sourceEventId : String
  sensorNode : String
  sensorObservationJson : String
  duplicate : Bool
deriving DecidableEq

inductive SensorReply where
  | refused (reason : String)
  | body (b : SensorBody)
deriving DecidableEq

abbrev PostProgram := Program IngestCall.Reply IngestError SensorReply

namespace SensorPost

variable (post : SensorPost)

/-- What a post of a stored event is told. -/
def duplicateBody (row : FlowRow) : SensorBody where
  verified := row.verified
  reason := row.reason
  decision := row.decision
  rfAttackProbability := row.rfAttackProbability
  sourceLabel := row.sourceLabel
  campaignId := row.campaignId
  caseTitle := row.caseTitle
  flowId := row.flowId
  observedAt := row.observedAt
  sourceEventId := post.sourceEventId
  sensorNode := if row.sensorNode = "" then SENSOR_BRIDGE_SOURCE else row.sensorNode
  sensorObservationJson := row.sensorObservationJson
  duplicate := true

/-- The row of `persist_scored_flow`. -/
def newFlow (score : FlowScore) (observed : String) : NewFlow where
  observedAt := observed
  rfAttackProbability := score.rfAttackProbability
  decision := score.decision
  verified := score.verified
  reason := score.reason
  campaignId := campaignIdOf post.sourceEventId
  sourceLabel := SENSOR_BRIDGE_SOURCE
  caseTitle := none
  sourceEventId := some post.sourceEventId
  sensorObservationJson := post.observationJson score
  sensorNode := post.node

def storedBody (score : FlowScore) (observed : String) (flowId : ℕ) : SensorBody where
  verified := score.verified
  reason := score.reason
  decision := score.decision
  rfAttackProbability := score.rfAttackProbability
  sourceLabel := SENSOR_BRIDGE_SOURCE
  campaignId := campaignIdOf post.sourceEventId
  caseTitle := none
  flowId := flowId
  observedAt := observed
  sourceEventId := post.sourceEventId
  sensorNode := post.node
  sensorObservationJson := post.observationJson score
  duplicate := false

def campaign : CampaignRow := ⟨campaignIdOf post.sourceEventId, "Live sensor flow", SENSOR_BRIDGE_SOURCE, 1⟩

def storeCampaign (stored : SensorBody) : PostProgram :=
  .call (.insertCampaign post.campaign) fun _ => .ret (.body stored)

def persistScoredFlow (score : FlowScore) (observed : String) : PostProgram :=
  .call (.insertFlow (post.newFlow score observed)) fun flowId =>
    post.storeCampaign (post.storedBody score observed flowId)

def scoreAndStore (parseFloat : String → Option PyFloat) : PostProgram :=
  match scoreCanonicalFlow parseFloat post.features post.supplyVerified post.model with
  | none => .throw .overflowError
  | some score =>
    if score.reason ≠ "frozen_random_forest_scored" then .ret (.refused score.reason)
    else match post.observed with
      | none => .ret (.refused "invalid_observed_at")
      | some observed => post.persistScoredFlow score observed

def afterLookup (parseFloat : String → Option PyFloat) : Option FlowRow → PostProgram
  | some row => .ret (.body (post.duplicateBody row))
  | none => post.scoreAndStore parseFloat

/-- `record_suricata_bridge_flow`, after its checks of the request. -/
def recordSuricataBridgeFlow (parseFloat : String → Option PyFloat) : PostProgram :=
  .call (.lookup post.sourceEventId) (post.afterLookup parseFloat)

end SensorPost

/-! ## Posts side by side -/

abbrev IngestPool := Pool IngestCall.Reply IngestError LiveDb SensorReply SensorPost

def ingestPool (parseFloat : String → Option PyFloat) (posts : List SensorPost) : IngestPool :=
  { state := .empty, clients := posts.map fun post => (post, post.recordSuricataBridgeFlow parseFloat) }

/-- After `k` moves. A move is one transaction of one post. -/
def ingestAt (parseFloat : String → Option PyFloat) (posts : List SensorPost) (moves : List (ℕ × IngestEnv)) (k : ℕ) :
    IngestPool :=
  stateAt (poolStep handle) (ingestPool parseFloat posts) moves k

/-- What is left of a post. -/
inductive Stage (parseFloat : String → Option PyFloat) (post : SensorPost) : PostProgram → Prop where
  | fresh : Stage parseFloat post (post.recordSuricataBridgeFlow parseFloat)
  | scored (score : FlowScore) (observed : String) : Stage parseFloat post (post.persistScoredFlow score observed)
  | stored (body : SensorBody) : Stage parseFloat post (post.storeCampaign body)
  | ended (result : Except IngestError SensorReply) : Stage parseFloat post (.done result)

theorem stage_afterLookup {parseFloat : String → Option PyFloat} {post : SensorPost} (found : Option FlowRow) :
    Stage parseFloat post (post.afterLookup parseFloat found) := by
  cases found with
  | some row => exact .ended _
  | none =>
    change Stage parseFloat post (post.scoreAndStore parseFloat)
    unfold SensorPost.scoreAndStore
    split
    · exact .ended _
    split
    · exact .ended _
    cases post.observed with
    | none => exact .ended _
    | some observed => exact .scored _ _

/-- One transaction of a post: from the tables and what is left of the post to what they become. -/
inductive Transaction (parseFloat : String → Option PyFloat) (post : SensorPost) (fault : Bool) (db : LiveDb) :
    PostProgram → LiveDb → PostProgram → Prop where
  | failed (p : PostProgram) (h : fault = true) : Transaction parseFloat post fault db p db (.throw .operationalError)
  | found (row : FlowRow) (h : fault = false) (hrow : db.find post.sourceEventId = some row) :
    Transaction parseFloat post fault db (post.recordSuricataBridgeFlow parseFloat) db
      (.ret (.body (post.duplicateBody row)))
  | missed (h : fault = false) (hrow : db.find post.sourceEventId = none) :
    Transaction parseFloat post fault db (post.recordSuricataBridgeFlow parseFloat) db (post.scoreAndStore parseFloat)
  | overtaken (score : FlowScore) (observed : String) (h : fault = false)
    (hrow : (db.find post.sourceEventId).isSome = true) :
    Transaction parseFloat post fault db (post.persistScoredFlow score observed) db (.throw .integrityError)
  | inserted (score : FlowScore) (observed : String) (h : fault = false)
    (hrow : db.find post.sourceEventId = none) :
    Transaction parseFloat post fault db (post.persistScoredFlow score observed)
      (db.addFlow (post.newFlow score observed))
      (post.storeCampaign (post.storedBody score observed (db.lastFlowId + 1)))
  | clashed (body : SensorBody) (h : fault = false)
    (hcampaign : ∃ c ∈ db.liveCampaigns, c.campaignId = campaignIdOf post.sourceEventId) :
    Transaction parseFloat post fault db (post.storeCampaign body) db (.throw .integrityError)
  | completed (body : SensorBody) (h : fault = false)
    (hcampaign : ¬ ∃ c ∈ db.liveCampaigns, c.campaignId = campaignIdOf post.sourceEventId) :
    Transaction parseFloat post fault db (post.storeCampaign body) (db.addCampaign post.campaign)
      (.ret (.body body))

/-- **What a transaction can do.** -/
theorem transaction_of_stage {parseFloat : String → Option PyFloat} {post : SensorPost} {env : IngestEnv} {db : LiveDb}
    {c : IngestCall} {next : c.Reply → PostProgram} (hstage : Stage parseFloat post (.call c next)) :
    Transaction parseFloat post env.fault db (.call c next) (handle env c db).2 (resume next (handle env c db).1) := by
  unfold handle
  cases hfault : env.fault with
  | true => exact .failed _ rfl
  | false =>
    rw [if_neg Bool.false_ne_true]
    cases hstage with
    | fresh =>
      cases hrow : db.find post.sourceEventId with
      | some row => simpa only [answer, hrow, resume, SensorPost.afterLookup] using .found row rfl hrow
      | none => simpa only [answer, hrow, resume, SensorPost.afterLookup] using .missed rfl hrow
    | scored score observed =>
      cases hrow : db.find post.sourceEventId with
      | some row =>
        have hrefuses : db.refuses (post.newFlow score observed) = true := by
          simp only [LiveDb.refuses, SensorPost.newFlow, hrow, Option.isSome_some]
        rw [answer, if_pos hrefuses]
        exact .overtaken score observed rfl (by rw [hrow]; rfl)
      | none =>
        have hrefuses : ¬ db.refuses (post.newFlow score observed) = true := by
          simp only [LiveDb.refuses, SensorPost.newFlow, hrow, Option.isSome_none, Bool.false_eq_true,
            not_false_eq_true]
        rw [answer, if_neg hrefuses]
        exact .inserted score observed rfl hrow
    | stored body =>
      rw [answer]
      split
      · rename_i h
        refine .clashed body rfl ?_
        simpa [SensorPost.campaign] using h
      · rename_i h
        refine .completed body rfl ?_
        simpa [SensorPost.campaign] using h

end ThreatFusion.LiveConsole
