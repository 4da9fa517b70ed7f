import ThreatFusion.Advisory.AddressTokens
import ThreatFusion.Py.Double
/-
# Evidence-bound explanations

`advisory/explanation_engine.py`, first part.

| here | there |
| --- | --- |
| `AdvisoryEvidenceBundle`, `allowedEvidenceKeys` | `AdvisoryEvidenceBundle` (:29-82) |
| `EvidenceBoundExplanation` | `EvidenceBoundExplanation` (:85-115) |
| `verifyExplanationGroundedness` | `verify_explanation_groundedness` (:117-202), for an explanation |
| `deterministicTemplate` | `_generate_deterministic_template` (:236-355), text by text |
| `generateExplanation` | `generate_explanation` (:208-234) |

`Language` is what the interpreter brings: Unicode letters and lower case, and the texts of floats. A retrieval hit is
an object with attributes or a dict; what is read from it is `Shown`, a value by its truth and its text.
-/
namespace ThreatFusion.Advisory
open Py

structure Language where
  /-- Letters and numbers outside ASCII. -/
  letter : Char → Bool
  lower : String → String
  /-- `format(x, ".nf")`. -/
  fixed : Nat → Double → String
  /-- Lower case of an ASCII part depends on nothing around it. -/
  lower_ascii : ∀ a b c : List Char, (∀ x ∈ b, x.toNat < 128) →
    ∃ a' c', (lower (String.ofList (a ++ b ++ c))).toList = a' ++ b.map Char.toLower ++ c'
  /-- A sign, digits and at most one dot, or `nan` and `inf`. -/
  fixed_plain : ∀ n x, (fixed n x).toList.count '.' ≤ 1 ∧ ':' ∉ (fixed n x).toList

/-! ## Evidence -/

structure Shown where
  truthy : Bool
  text : String
deriving DecidableEq

def NONE : Shown := ⟨false, "None"⟩

def EMPTY : Shown := ⟨false, ""⟩

/-- What there is under the names that the engine asks for; steps that are truthy, by the text of the first. -/
structure HitFields where
  techniqueId : Option Shown
  techniqueName : Option Shown
  playbookId : Option Shown
  firstStep : Option String
deriving DecidableEq

inductive Hit where
  | object (fields : HitFields)
  | dict (fields : HitFields)
deriving DecidableEq

namespace Hit

/-- `getattr(hit, name, default) or (hit.get(name, default) if isinstance(hit, dict) else default)`. -/
def read (hit : Hit) (field : HitFields → Option Shown) (default : Shown) : Shown :=
  match hit with
  | .object fields => let value := (field fields).getD default; if value.truthy then value else default
  | .dict fields => (field fields).getD default

def techniqueId (hit : Hit) : Shown := hit.read HitFields.techniqueId NONE

def techniqueName (hit : Hit) : Shown := hit.read HitFields.techniqueName EMPTY

def playbookId (hit : Hit) : Shown := hit.read HitFields.playbookId NONE

def firstStep : Hit → String
  | .object fields => fields.firstStep.getD "Review matching technique playbook."
  | .dict fields => fields.firstStep.getD "Review matching technique playbook."

end Hit

/-- What the engine reads of a `ThreatIntelEnrichmentResult`. -/
structure EnrichmentEvidence where
  status : String
  inspectedEntities : List String
  privateIpGuardTriggered : Bool
deriving DecidableEq

inductive Signal where
  | float (x : Double)
  /-- A value of another type, by its text. -/
  | other (text : String)

structure AdvisoryEvidenceBundle where
  candidateId : String
  recordId : String
  rfModelVersion : String
  rfAttackProbability : Double
  rfThreshold : Double
  topFeatureSignals : List (String × Signal)
  aeV2ReconstructionError : Option Double := none
  incidentId : Option String := none
  correlationStatus : String := "uncorrelatable_missing_entity"
  enrichmentResult : Option EnrichmentEvidence := none
  observedAt : Option String := none
  chromaRagHits : List Hit := []

namespace AdvisoryEvidenceBundle

variable (bundle : AdvisoryEvidenceBundle)

/-- `if bundle.incident_id`. -/
def incident : Option String := bundle.incidentId.filter (· ≠ "")

def inspectedEntities : List String := (bundle.enrichmentResult.map (·.inspectedEntities)).getD []

/-- `mitre:{tid}` and `playbook:{pbid}`, when they are truthy. -/
def hitKeys (hit : Hit) : List String :=
  (if hit.techniqueId.truthy then ["mitre:" ++ hit.techniqueId.text] else []) ++
    if hit.playbookId.truthy then ["playbook:" ++ hit.playbookId.text] else []

def enrichmentKeys : List String :=
  match bundle.enrichmentResult with
  | none => []
  | some result => "enrichment_status" :: "enrichment_reason" :: result.inspectedEntities.map ("entity:" ++ ·)

def BASE_KEYS : List String :=
  ["candidate_id", "record_id", "rf_model_version", "rf_attack_probability", "rf_threshold", "correlation_status",
   "ae_v2_threshold"]

/-- `get_allowed_evidence_keys`. -/
def allowedEvidenceKeys : List String :=
  BASE_KEYS ++ bundle.topFeatureSignals.map Prod.fst ++
    (if bundle.aeV2ReconstructionError.isSome then ["ae_v2_reconstruction_error"] else []) ++
    (if bundle.incident.isSome then ["incident_id"] else []) ++ bundle.enrichmentKeys ++
    (if bundle.observedAt.isSome then ["observed_at"] else []) ++
    if bundle.chromaRagHits.isEmpty then [] else "chroma_rag_hits" :: bundle.chromaRagHits.flatMap hitKeys

end AdvisoryEvidenceBundle

/-! ## Explanations -/

structure EvidenceBoundExplanation where
  candidateId : String
  generationMode : String
  advisoryOnlyNonAuthoritative : Bool
  summaryHeadline : String
  detectionRationale : String
  complementarityAndFusionNote : String
  correlationAndEnrichmentContext : String
  recommendedAnalystChecks : List String
  citedEvidenceKeys : List String
  groundednessVerified : Bool
  mitreRagHits : List Hit

/-- `needle in text`. -/
def contains (needle text : String) : Bool := decide (needle.toList <:+: text.toList)

/-- `all_text` (:175-183). -/
def EvidenceBoundExplanation.allText (e : EvidenceBoundExplanation) : String :=
  " ".intercalate [e.summaryHeadline, e.detectionRationale, e.complementarityAndFusionNote,
    e.correlationAndEnrichmentContext, " ".intercalate e.recommendedAnalystChecks]

variable (L : Language)

def foundIps (text : String) : List String := (findall L.letter text.toList).map String.ofList

def affirmsAuthority (note : String) : Bool :=
  let fusionNote := L.lower note
  contains "random forest" fusionNote && contains "fusion" fusionNote && contains "disabled" fusionNote

def verifyExplanationGroundedness (e : EvidenceBoundExplanation) (bundle : AdvisoryEvidenceBundle) : Bool :=
  if e.advisoryOnlyNonAuthoritative = false then false
  else if ¬ e.citedEvidenceKeys.all bundle.allowedEvidenceKeys.contains then false
  else if ¬ contains bundle.rfModelVersion e.detectionRationale then false
  else if ¬ contains (L.fixed 4 bundle.rfAttackProbability) e.detectionRationale ∧
      ¬ contains (L.fixed 3 bundle.rfAttackProbability) e.detectionRationale then false
  else if ¬ (foundIps L e.allText).all bundle.inspectedEntities.contains then false
  else affirmsAuthority L e.complementarityAndFusionNote

/-! ## The template -/

section Template

variable (bundle : AdvisoryEvidenceBundle)

/-- `candidate_id.split(":")[-1][:12]`. -/
def candidateShort : String :=
  String.ofList (((bundle.candidateId.toList.splitOn ':').getLast?.getD []).take 12)

def headline : String :=
  "Advisory SOC Triage Debrief: Alert candidate " ++ candidateShort bundle ++ " (" ++ bundle.rfModelVersion ++ ")"

def topSignals : List (String × Signal) := bundle.topFeatureSignals.take 5

def signalValue : Signal → String
  | .float x => L.fixed 4 x
  | .other text => text

def topSignalsSummary : String :=
  if topSignals bundle = [] then "standard feature vector profile"
  else ", ".intercalate ((topSignals bundle).map fun s => s.1 ++ "=" ++ signalValue L s.2)

def rationale : String :=
  "The frozen Random Forest model (" ++ bundle.rfModelVersion ++ ") produced an attack probability of " ++
    L.fixed 4 bundle.rfAttackProbability ++ ", exceeding the operational detection threshold of " ++
    L.fixed 2 bundle.rfThreshold ++ ". Prominent feature indicators: " ++ topSignalsSummary L bundle ++ "."

def NOTE_START : String := "Production alert authority rests solely with the frozen Random Forest ("

def NOTE_DISABLED : String := "). Automatic RF+AE fusion is strictly disabled "

def NOTE_REASON : String := "(fusion_disabled per Section 8) due to the empirical 16.4:1 benign false-positive "

def NOTE_PENALTY : String := "penalty (1,574 additional FPs for 96 attacks on January UNSW validation). "

def NOTE_RESIDUAL : String := "Autoencoder residual is advisory only."

def fusionNote : String :=
  NOTE_START ++ bundle.rfModelVersion ++ NOTE_DISABLED ++ NOTE_REASON ++ (NOTE_PENALTY ++ NOTE_RESIDUAL)

def enrichmentParts (result : EnrichmentEvidence) : List String :=
  ["Enrichment status: " ++ result.status ++ "."] ++
    (if result.inspectedEntities = [] then []
      else ["Inspected entities: " ++ ", ".intercalate result.inspectedEntities ++ "."]) ++
    if result.privateIpGuardTriggered then ["Private IP guard active; public external queries suppressed."] else []

def contextParts : List String :=
  ["Correlation status: " ++ bundle.correlationStatus ++ "."] ++
    (bundle.incident.toList.map fun incident => "Linked to incident " ++ incident ++ ".") ++
    match bundle.enrichmentResult with
    | some result => enrichmentParts result
    | none => ["Entity provenance unverified; no IP addresses inspected."]

def CHECKS : List String :=
  ["Verify network segment and sensor provenance on upstream tap.",
   "Review surrounding flow events within the 30-second burst window.",
   "Assess potential benign administrative activity before initiating containment."]

def playbookCheck (hit : Hit) : String :=
  "ChromaDB Semantic Playbook (" ++ hit.techniqueId.text ++ " - " ++ hit.techniqueName.text ++ "): " ++ hit.firstStep

def checks : List String := (bundle.chromaRagHits.head?.map playbookCheck).toList ++ CHECKS

def citedKeys : List String :=
  AdvisoryEvidenceBundle.BASE_KEYS ++ (topSignals bundle).map Prod.fst ++
    (if bundle.incident.isSome then ["incident_id"] else []) ++ bundle.enrichmentKeys ++
    match bundle.chromaRagHits.head? with
    | none => []
    | some hit => "chroma_rag_hits" :: AdvisoryEvidenceBundle.hitKeys hit

def deterministicTemplate : EvidenceBoundExplanation where
  candidateId := bundle.candidateId
  generationMode := "deterministic_evidence_template"
  advisoryOnlyNonAuthoritative := true
  summaryHeadline := headline bundle
  detectionRationale := rationale L bundle
  complementarityAndFusionNote := fusionNote bundle
  correlationAndEnrichmentContext := " ".intercalate (contextParts bundle)
  recommendedAnalystChecks := checks bundle
  citedEvidenceKeys := citedKeys bundle
  groundednessVerified := true
  mitreRagHits := bundle.chromaRagHits

end Template

/-- What the optional callable does; a check of its explanation that raises counts as raised. -/
inductive LlmReply where
  | absent
  | raised
  | other
  | explanation (e : EvidenceBoundExplanation)

/-- The candidate that the engine takes. -/
def LlmReply.accepted (bundle : AdvisoryEvidenceBundle) : LlmReply → Option EvidenceBoundExplanation
  | .explanation e => if verifyExplanationGroundedness L e bundle then some e else none
  | _ => none

def generateExplanation (bundle : AdvisoryEvidenceBundle) (reply : LlmReply) : EvidenceBoundExplanation :=
  (reply.accepted L bundle).getD (deterministicTemplate L bundle)

end ThreatFusion.Advisory
