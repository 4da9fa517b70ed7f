import ThreatFusion.Py.DateTime
import ThreatFusion.Py.Text
import ThreatFusion.Py.Float
/-
# `AlertCandidate`: the immutable Attack decision

`schemas/alert_candidate.py`. The identifier is the SHA-256 of the detection evidence, checked by
`__post_init__`; an `AlertCandidate sha256` is a candidate that passed under that digest.

| here | there |
| --- | --- |
| `identityDigest`         | `_identity_digest` (:48) |
| `deriveSourceEventId`    | `derive_source_event_id` (:58); `none` is `source_event_identity_invalid` |
| `deriveAlertCandidateId` | `derive_alert_candidate_id` (:80) |
| `AlertCandidate`         | `AlertCandidate` and its `__post_init__` (:119-204) |

`_is_utc` is the type of `observedAt` and `createdAt`.
-/
namespace ThreatFusion.Alerts
open Py

def ALERT_CANDIDATE_SCHEMA_VERSION : String := "alert_candidate_v1"
def SOURCE_EVENT_ID_SCHEMA_VERSION : String := "unsw_registered_source_event_v1"
def DETECTOR_IDENTITY : String := "threatfusion.unsw_network_classifier"
def DETECTOR_VERSION : String := "v1"
def DECISION_POLICY_VERSION : String := "attack_probability_gte_0.5_v1"
def NETWORK_BEHAVIOR_V1_CONTRACT_VERSION : String := "network_behavior_v1"
def UNSW_NB15_ARGUS_RAW_REPRESENTATION_V1 : String := "unsw_nb15.argus.raw_49.transaction_bytes.v1"

/-- `_MODEL_VERSIONS.get(identity)` (:24). -/
def modelVersion? (identity : String) : Option String :=
  if identity = "random_forest" then some "network_random_forest_baseline_v1"
  else if identity = "logistic_regression" then some "network_logistic_baseline_v1"
  else none

/-- `len(part.encode("utf-8"))` in four bytes, then the part. -/
def framePart (part : String) : Bytes := packBE 4 (utf8 part).length ++ utf8 part

/-- What `_identity_digest` feeds to the hash. -/
def identityMessage (domain : String) (parts : List String) : Bytes :=
  utf8 domain ++ [0] ++ parts.flatMap framePart

def identityDigest (sha256 : Bytes → String) (domain : String) (parts : List String) : String :=
  sha256 (identityMessage domain parts)

def deriveSourceEventId (sha256 : Bytes → String) (sourceRepresentation manifestSha256 sourceMemberSha256 : String)
    (rowNumber : ℤ) : Option String :=
  if sourceRepresentation ≠ UNSW_NB15_ARGUS_RAW_REPRESENTATION_V1 ∨ !isSha256 manifestSha256 ∨
      !isSha256 sourceMemberSha256 ∨ rowNumber ≤ 0 then none
  else some (SOURCE_EVENT_ID_SCHEMA_VERSION ++ ":" ++ identityDigest sha256 "threatfusion:source-event"
    [SOURCE_EVENT_ID_SCHEMA_VERSION, sourceRepresentation, manifestSha256, sourceMemberSha256, toString rowNumber])

structure AlertCandidateFields where
  schemaVersion : String
  alertCandidateId : String
  sourceEventId : String
  correlationId : String
  detectorIdentity : String
  detectorVersion : String
  modelIdentity : String
  modelVersion : String
  modelArtifactSha256 : String
  featureContractIdentity : String
  sourceRepresentationIdentity : String
  observedAt : DateTime
  createdAt : DateTime
  uncalibratedModelScore : PyFloat
  decisionThreshold : PyFloat
  decisionPolicyVersion : String
  decision : String
  inferenceStatus : String
  reason : String
deriving DecidableEq

def deriveAlertCandidateId (sha256 : Bytes → String) (sourceEventId detectorIdentity detectorVersion
    modelIdentity modelVersion modelArtifactSha256 decisionPolicyVersion : String) : String :=
  ALERT_CANDIDATE_SCHEMA_VERSION ++ ":" ++ identityDigest sha256 "threatfusion:alert-candidate"
    [ALERT_CANDIDATE_SCHEMA_VERSION, sourceEventId, detectorIdentity, detectorVersion, modelIdentity,
      modelVersion, modelArtifactSha256, decisionPolicyVersion]

def isPlainText (s : String) : Bool := decide (0 < s.length ∧ s.length ≤ 256)

/-- `_is_source_event_id` (:35). -/
def isSourceEventId (s : String) : Bool :=
  let pre := SOURCE_EVENT_ID_SCHEMA_VERSION ++ ":"
  pre.toList.isPrefixOf s.toList && isSha256 (String.ofList (s.toList.drop pre.length))

/-- `str(UUID(s)) == s`: the canonical text of a UUID of any version. -/
def isCanonicalUuid (s : String) : Bool :=
  s.length == 36 && s.toList.zipIdx.all fun p =>
    if p.2 == 8 || p.2 == 13 || p.2 == 18 || p.2 == 23 then p.1 == '-' else isHexLower p.1

/-- `__post_init__` does not raise (:146-204). -/
def AlertCandidateFields.accepted (sha256 : Bytes → String) (c : AlertCandidateFields) : Bool :=
  c.schemaVersion == ALERT_CANDIDATE_SCHEMA_VERSION &&
  [c.alertCandidateId, c.sourceEventId, c.correlationId, c.detectorIdentity, c.detectorVersion,
    c.modelIdentity, c.modelVersion, c.modelArtifactSha256, c.featureContractIdentity,
    c.sourceRepresentationIdentity, c.decisionPolicyVersion, c.reason].all isPlainText &&
  c.detectorIdentity == DETECTOR_IDENTITY && c.detectorVersion == DETECTOR_VERSION &&
  modelVersion? c.modelIdentity == some c.modelVersion && isSha256 c.modelArtifactSha256 &&
  c.featureContractIdentity == NETWORK_BEHAVIOR_V1_CONTRACT_VERSION &&
  c.sourceRepresentationIdentity == UNSW_NB15_ARGUS_RAW_REPRESENTATION_V1 &&
  c.decisionPolicyVersion == DECISION_POLICY_VERSION && isSourceEventId c.sourceEventId &&
  c.decision == "Attack" && c.inferenceStatus == "completed" && c.reason == "inference_succeeded" &&
  c.uncalibratedModelScore.within 0 1 && c.decisionThreshold.within 0 1 &&
  isCanonicalUuid c.correlationId &&
  c.alertCandidateId == deriveAlertCandidateId sha256 c.sourceEventId c.detectorIdentity
    c.detectorVersion c.modelIdentity c.modelVersion c.modelArtifactSha256 c.decisionPolicyVersion

structure AlertCandidate (sha256 : Bytes → String) extends AlertCandidateFields where
  valid : toAlertCandidateFields.accepted sha256 = true

instance (sha256 : Bytes → String) : DecidableEq (AlertCandidate sha256) := fun a b =>
  decidable_of_iff (a.toAlertCandidateFields = b.toAlertCandidateFields)
    ⟨fun h => by cases a; cases b; cases h; rfl, fun h => h ▸ rfl⟩

/-- The constructor call: `none` is `AlertCandidateError`. -/
def AlertCandidate.new (sha256 : Bytes → String) (c : AlertCandidateFields) :
    Option (AlertCandidate sha256) :=
  if h : c.accepted sha256 = true then some ⟨c, h⟩ else none

section
variable {sha256 : Bytes → String}

@[simp] theorem AlertCandidate.new_self (c : AlertCandidate sha256) :
    AlertCandidate.new sha256 c.toAlertCandidateFields = some c := by
  simp [AlertCandidate.new, c.valid]

/-- The identifier carries the digest of the evidence. -/
theorem AlertCandidate.id_eq (c : AlertCandidate sha256) : ∃ parts,
    c.alertCandidateId = ALERT_CANDIDATE_SCHEMA_VERSION ++ ":" ++
      identityDigest sha256 "threatfusion:alert-candidate" parts := by
  have h := c.valid
  simp only [AlertCandidateFields.accepted, Bool.and_eq_true, beq_iff_eq] at h
  exact ⟨_, h.2⟩

theorem AlertCandidate.length_id (c : AlertCandidate sha256) :
    0 < c.alertCandidateId.length ∧ c.alertCandidateId.length ≤ 256 := by
  have h := c.valid
  simp only [AlertCandidateFields.accepted, Bool.and_eq_true, List.all_cons, isPlainText,
    decide_eq_true_eq] at h
  simp [h]

end

end ThreatFusion.Alerts
