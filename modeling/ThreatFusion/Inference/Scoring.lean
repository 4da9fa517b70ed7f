import ThreatFusion.Lib.Result
import ThreatFusion.Py.Float
import Mathlib.Algebra.BigOperators.Group.List.Basic
import Mathlib.Data.Rat.Sqrt
import Mathlib.Tactic.FieldSimp
import Mathlib.Tactic.Ring
/-
# Two ways to score a flow

The inference boundary (`_FrozenNetworkPredictor.infer`, models/network_inference.py) passes the
estimator what the fitted preprocessor makes of a flow: ten z-scores and the one-hot protocol. The
live console (`score_canonical_flow`, api/live_soc_console.py) passes it the flow's own values.
Arithmetic is exact: a float is the rational it stands for.

* `fit_batchSize`: the fitted state does not depend on the batch size.
* `vectorOf_features14`: the vector of the console.
* `inferScore_eq`: the vector of the boundary, and when it is reached.
* `scoresAlike_iff`: the two agree for every estimator exactly if no value of the flow is moved by
  its z-score (or the boundary rejects the flow).
-/
namespace ThreatFusion.Inference

open Py

/-- A value of a request or of a feature map. -/
inductive FeatureValue where
  | int (n : ℤ)
  | float (x : PyFloat)
  | bool (b : Bool)
  | str (s : String)
  | other
deriving DecidableEq

/-! ## The names (features/network_behavior.py, models/drift_and_supply_chain.py) -/

def NUMERIC_FEATURE_NAMES : List String :=
  ["duration_ms", "fwd_packets", "bwd_packets", "fwd_bytes", "bwd_bytes", "packets_per_second",
    "bytes_per_second", "fwd_packet_length_mean", "bwd_packet_length_mean", "dst_port"]

def NETWORK_BEHAVIOR_V1_FEATURE_NAMES : List String := NUMERIC_FEATURE_NAMES ++ ["protocol"]

def FIXED_PROTOCOL_CATEGORIES : List String := ["tcp", "udp", "icmp", "other"]

def CANONICAL_14_FEATURES : List String :=
  NUMERIC_FEATURE_NAMES ++ ["protocol_tcp", "protocol_udp", "protocol_icmp", "protocol_other"]

def UNSW_NB15_ARGUS_RAW_REPRESENTATION_V1 : String := "unsw_nb15.argus.raw_49.transaction_bytes.v1"

def CIC_IDS2018_CICFLOWMETER_V3_PROCESSED_REPRESENTATION_V1 : String :=
  "cse_cic_ids2018.cicflowmeter_v3.processed_80.transport_payload_bytes.v1"

def NETWORK_BEHAVIOR_V1_CONTRACT_VERSION : String := "network_behavior_v1"

def UNSW_TRAINED_CLASSICAL_REQUIREMENTS_V1 : String :=
  "unsw_train.network_behavior_v1_preprocessing_v1.14_columns.classical_binary.v1"

/-- `_FeatureRecord`. -/
structure FeatureRecord where
  durationMs : ℚ
  fwdPackets : ℤ
  bwdPackets : ℤ
  fwdBytes : ℤ
  bwdBytes : ℤ
  packetsPerSecond : ℚ
  bytesPerSecond : ℚ
  fwdPacketLengthMean : ℚ
  bwdPacketLengthMean : ℚ
  dstPort : ℤ
  protocol : String
deriving DecidableEq

def FeatureRecord.numericFields : List (FeatureRecord → ℚ) :=
  [(·.durationMs), (·.fwdPackets), (·.bwdPackets), (·.fwdBytes), (·.bwdBytes), (·.packetsPerSecond),
    (·.bytesPerSecond), (·.fwdPacketLengthMean), (·.bwdPacketLengthMean), (·.dstPort)]

/-- `project_network_behavior` without the protocol, as `float64`. -/
def FeatureRecord.numeric (r : FeatureRecord) : List ℚ := numericFields.map fun f => f r

def oneHot (protocol : String) : List ℚ := FIXED_PROTOCOL_CATEGORIES.map fun c => if protocol = c then 1 else 0

/-! ## The fitted state (preprocessing/network_behavior_v1.py) -/

/-- One column of `_RunningStatistics`. -/
structure RunningStatistics where
  count : ℕ
  mean : ℚ
  m2 : ℚ
deriving DecidableEq

namespace RunningStatistics

def zero : RunningStatistics := ⟨0, 0, 0⟩

def update (s : RunningStatistics) (values : List ℚ) : RunningStatistics :=
  if values = [] then s
  else
    let batchCount := values.length
    let batchMean := values.sum / batchCount
    let batchM2 := (values.map fun v => (v - batchMean) * (v - batchMean)).sum
    if s.count = 0 then ⟨batchCount, batchMean, batchM2⟩
    else
      let combined := s.count + batchCount
      let delta := batchMean - s.mean
      ⟨combined, s.mean + delta * (batchCount / combined),
        s.m2 + (batchM2 + delta * delta * (s.count * batchCount / combined))⟩

/-- The moments of a column: how many, the mean, and the squared deviations from it. -/
def of (values : List ℚ) : RunningStatistics :=
  ⟨values.length, values.sum / values.length,
    (values.map fun v => (v - values.sum / values.length) * (v - values.sum / values.length)).sum⟩

theorem of_nil : of [] = zero := by simp [of, zero]

theorem sum_squares (values : List ℚ) (c : ℚ) :
    (values.map fun v => (v - c) * (v - c)).sum =
      (values.map fun v => v * v).sum - 2 * c * values.sum + values.length * (c * c) := by
  induction values with
  | nil => simp
  | cons v vs ih =>
    simp only [List.map_cons, List.sum_cons, ih, List.length_cons, Nat.cast_add, Nat.cast_one]
    ring

/-- Merging a batch into the moments of what came before gives the moments of both. -/
theorem update_of (xs ys : List ℚ) : (of xs).update ys = of (xs ++ ys) := by
  by_cases hys : ys = []
  · simp [update, hys]
  · have hy : (ys.length : ℚ) ≠ 0 := by simpa using hys
    unfold update
    rw [if_neg hys]
    by_cases hxs : xs = []
    · simp [of, hxs]
    · have hx : (xs.length : ℚ) ≠ 0 := by simpa using hxs
      have hcount : (of xs).count ≠ 0 := by simpa [of] using hxs
      have hxy : (xs.length : ℚ) + ys.length ≠ 0 := by positivity
      rw [if_neg hcount]
      simp only [of, sum_squares, List.length_append, List.sum_append, List.map_append, Nat.cast_add, mk.injEq,
        true_and]
      constructor
      · field_simp
        ring
      · field_simp
        ring

/-- The loop of `fit` over one column: full batches go to `update`, the rest at the end. -/
def fitLoop (batchSize : ℕ) : List ℚ → List ℚ → RunningStatistics → RunningStatistics
  | [], batch, s => s.update batch
  | v :: vs, batch, s =>
    if batchSize ≤ (batch ++ [v]).length then fitLoop batchSize vs [] (s.update (batch ++ [v]))
    else fitLoop batchSize vs (batch ++ [v]) s

theorem fitLoop_of (batchSize : ℕ) (vs : List ℚ) : ∀ batch xs : List ℚ,
    fitLoop batchSize vs batch (of xs) = of (xs ++ (batch ++ vs)) := by
  induction vs with
  | nil => intro batch xs; rw [fitLoop, update_of, List.append_nil]
  | cons v vs ih =>
    intro batch xs
    have hcons : batch ++ v :: vs = batch ++ [v] ++ vs := by simp
    rw [fitLoop, hcons]
    split
    · rw [update_of, ih, List.nil_append, List.append_assoc]
    · rw [ih]

end RunningStatistics

/-- `NetworkBehaviorPreprocessor`, with what `__post_init__` checks. -/
structure NetworkBehaviorPreprocessor where
  trainingRowCount : ℕ
  numericMeans : List ℚ
  numericScales : List ℚ
  zeroVarianceFeatures : List String
  row_count_pos : 0 < trainingRowCount
  means_width : numericMeans.length = NUMERIC_FEATURE_NAMES.length
  scales_width : numericScales.length = NUMERIC_FEATURE_NAMES.length
  scales_pos : ∀ s ∈ numericScales, 0 < s
  zero_variance_names : zeroVarianceFeatures ⊆ NUMERIC_FEATURE_NAMES
deriving DecidableEq

inductive PreprocessingError where
  | batchSizeInvalid
  | unknownProtocolCategory
  | trainingPartitionEmpty
  | stateInvalid
deriving DecidableEq

def checkedState (count : ℕ) (means scales : List ℚ) (zeroVariance : List String) :
    Except PreprocessingError NetworkBehaviorPreprocessor :=
  if h : 0 < count ∧ means.length = NUMERIC_FEATURE_NAMES.length ∧ scales.length = NUMERIC_FEATURE_NAMES.length ∧
      (∀ s ∈ scales, 0 < s) ∧ zeroVariance ⊆ NUMERIC_FEATURE_NAMES then
    .ok ⟨count, means, scales, zeroVariance, h.1, h.2.1, h.2.2.1, h.2.2.2.1, h.2.2.2.2⟩
  else .error .stateInvalid

/-- `from_statistics`; `sqrt` is that of the platform. -/
def fromStatistics (sqrt : ℚ → ℚ) (count : ℕ) (columns : List RunningStatistics) :
    Except PreprocessingError NetworkBehaviorPreprocessor :=
  if count = 0 then .error .trainingPartitionEmpty
  else
    let rawScales := columns.map fun c => sqrt (max (c.m2 / count) 0)
    checkedState count (columns.map (·.mean)) (rawScales.map fun s => if s = 0 then 1 else s)
      (((NUMERIC_FEATURE_NAMES.zip rawScales).filter fun p => p.2 = 0).map Prod.fst)

/-- `fit`, on TRAIN rows. -/
def fit (sqrt : ℚ → ℚ) (batchSize : ℕ) (training : List FeatureRecord) :
    Except PreprocessingError NetworkBehaviorPreprocessor :=
  if batchSize = 0 then .error .batchSizeInvalid
  else if ∃ r ∈ training, r.protocol ∉ FIXED_PROTOCOL_CATEGORIES then .error .unknownProtocolCategory
  else
    let column (f : FeatureRecord → ℚ) := RunningStatistics.fitLoop batchSize (training.map f) [] .zero
    fromStatistics sqrt (column (·.durationMs)).count (FeatureRecord.numericFields.map column)

/-- The fitted state does not depend on the batch size. -/
theorem fit_batchSize (sqrt : ℚ → ℚ) (training : List FeatureRecord) {m n : ℕ} (hm : m ≠ 0) (hn : n ≠ 0) :
    fit sqrt m training = fit sqrt n training := by
  have column (k : ℕ) (vs : List ℚ) : RunningStatistics.fitLoop k vs [] .zero = .of vs := by
    rw [← RunningStatistics.of_nil, RunningStatistics.fitLoop_of, List.nil_append, List.nil_append]
  simp only [fit, if_neg hm, if_neg hn, column]

namespace NetworkBehaviorPreprocessor

/-- What `transform` does to the numeric values. -/
def zscores (state : NetworkBehaviorPreprocessor) (numeric : List ℚ) : List ℚ :=
  (numeric.zip (state.numericMeans.zip state.numericScales)).map fun c => (c.1 - c.2.1) / c.2.2

def transform (state : NetworkBehaviorPreprocessor) (record : FeatureRecord) :
    Except PreprocessingError (List ℚ) :=
  if record.protocol ∈ FIXED_PROTOCOL_CATEGORIES then .ok (state.zscores record.numeric ++ oneHot record.protocol)
  else .error .unknownProtocolCategory

end NetworkBehaviorPreprocessor

/-! ## Compatibility (features/network_behavior.py) -/

structure NetworkCompatibilityKey where
  sourceRepresentation : Option String
  fittedSourceRepresentation : Option String
  featureContractVersion : Option String
  modelPreprocessingRequirements : Option String
deriving DecidableEq

inductive InferenceReason where
  | provenanceMissing
  | provenanceTypeInvalid
  | crossSourceByteSemanticsIncompatible
  | compatibilityEvidenceMissing
  | featureContractVersionUnrecognized
  | modelPreprocessingRequirementsUnrecognized
  | fittedSourceRepresentationUnrecognized
  | sourceRepresentationUnrecognized
  | featureOrderMismatch
  | featureValueCountMismatch
  | predictorTypeInvalid
  | numericPredictorOutOfRange
  | nonFinitePredictor
  | negativePredictor
  | numericPredictorPrecisionLoss
  | integerPredictorInvalid
  | destinationPortOutOfRange
  | forwardCountByteInconsistent
  | backwardCountByteInconsistent
  | protocolInvalid
  | transformationFailed
  | modelInputOutOfRange
  | modelProbabilityInvalid
deriving DecidableEq

def supportedKey : NetworkCompatibilityKey :=
  ⟨some UNSW_NB15_ARGUS_RAW_REPRESENTATION_V1, some UNSW_NB15_ARGUS_RAW_REPRESENTATION_V1,
    some NETWORK_BEHAVIOR_V1_CONTRACT_VERSION, some UNSW_TRAINED_CLASSICAL_REQUIREMENTS_V1⟩

def cicKey : NetworkCompatibilityKey :=
  { supportedKey with sourceRepresentation := some CIC_IDS2018_CICFLOWMETER_V3_PROCESSED_REPRESENTATION_V1 }

/-- `require_supported_network_compatibility`: the reason of `decide_network_compatibility`, unless approved. -/
def requireSupportedNetworkCompatibility (key : NetworkCompatibilityKey) : Except InferenceReason Unit :=
  if key = supportedKey then .ok ()
  else if key = cicKey then .error .crossSourceByteSemanticsIncompatible
  else if key.sourceRepresentation = none ∨ key.fittedSourceRepresentation = none ∨
      key.featureContractVersion = none ∨ key.modelPreprocessingRequirements = none then
    .error .compatibilityEvidenceMissing
  else if key.featureContractVersion ≠ some NETWORK_BEHAVIOR_V1_CONTRACT_VERSION then
    .error .featureContractVersionUnrecognized
  else if key.modelPreprocessingRequirements ≠ some UNSW_TRAINED_CLASSICAL_REQUIREMENTS_V1 then
    .error .modelPreprocessingRequirementsUnrecognized
  else if key.fittedSourceRepresentation ≠ some UNSW_NB15_ARGUS_RAW_REPRESENTATION_V1 then
    .error .fittedSourceRepresentationUnrecognized
  else .error .sourceRepresentationUnrecognized

/-! ## The inference boundary (models/network_inference.py) -/

/-- `_NetworkSourceProvenance`; `none` is a value that is not a string. -/
structure NetworkSourceProvenance where
  sourceRepresentation : Option String
  fittedSourceRepresentation : Option String
  featureContractVersion : Option String
  modelPreprocessingRequirements : Option String
deriving DecidableEq

def NetworkSourceProvenance.compatibilityKey (p : NetworkSourceProvenance) : NetworkCompatibilityKey :=
  ⟨p.sourceRepresentation, p.fittedSourceRepresentation, p.featureContractVersion, p.modelPreprocessingRequirements⟩

/-- `_NetworkInferenceRequest`. -/
structure NetworkInferenceRequest where
  provenance : Option NetworkSourceProvenance
  featureNames : List String
  featureValues : List FeatureValue

/-- The checks on an `int` and its `float`. -/
def checkedInt (n : ℤ) : Option ℚ → Except InferenceReason ℚ
  | none => .error .numericPredictorOutOfRange
  | some number =>
    if number < 0 then .error .negativePredictor
    else if number ≠ n then .error .numericPredictorPrecisionLoss
    else .ok number

/-- One turn of the loop over the numeric names. -/
def convertNumeric : FeatureValue → Except InferenceReason ℚ
  | .int n => checkedInt n (floatOfInt n)
  | .float (.finite number _) => if number < 0 then .error .negativePredictor else .ok number
  | .float (.nonFinite _) => .error .nonFinitePredictor
  | _ => .error .predictorTypeInvalid

def isInteger (q : ℚ) : Bool := q.den == 1

/-- What `_feature_record` checks after the loop. -/
def checkedRecord (d fp bp fb bb pps bps fm bm port : ℚ) (protocol : FeatureValue) :
    Except InferenceReason FeatureRecord :=
  if ¬ [fp, bp, fb, bb, port].all isInteger then .error .integerPredictorInvalid
  else if 65535 < port then .error .destinationPortOutOfRange
  else if fp = 0 ∧ 0 < fb then .error .forwardCountByteInconsistent
  else if bp = 0 ∧ 0 < bb then .error .backwardCountByteInconsistent
  else match protocol with
    | .str p => .ok ⟨d, fp.num, bp.num, fb.num, bb.num, pps, bps, fm, bm, port.num, p⟩
    | _ => .error .protocolInvalid

def featureRecord (request : NetworkInferenceRequest) : Except InferenceReason FeatureRecord :=
  if request.featureNames ≠ NETWORK_BEHAVIOR_V1_FEATURE_NAMES then .error .featureOrderMismatch
  else match request.featureValues with
    | [d, fp, bp, fb, bb, pps, bps, fm, bm, port, protocol] => do
      let d ← convertNumeric d
      let fp ← convertNumeric fp
      let bp ← convertNumeric bp
      let fb ← convertNumeric fb
      let bb ← convertNumeric bb
      let pps ← convertNumeric pps
      let bps ← convertNumeric bps
      let fm ← convertNumeric fm
      let bm ← convertNumeric bm
      let port ← convertNumeric port
      checkedRecord d fp bp fb bb pps bps fm bm port protocol
    | _ => .error .featureValueCountMismatch

/-- A binary estimator: `n_features_in_`, and the second column of `predict_proba`. -/
structure BinaryEstimator where
  nFeaturesIn : ℕ
  attackProbability : List ℚ → ℚ
  probability : ∀ v, 0 ≤ attackProbability v ∧ attackProbability v ≤ 1

inductive NetworkModelChoice where
  | logisticRegression
  | randomForest
deriving DecidableEq

/-- `np.finfo(np.float32).max`. -/
def FLOAT32_MAX : ℚ := 2 ^ 128 - 2 ^ 104

def ATTACK_THRESHOLD : ℚ := 1 / 2

def checkedProvenance (provenance : Option NetworkSourceProvenance) : Except InferenceReason Unit :=
  match provenance with
  | none => .error .provenanceMissing
  | some p =>
    let values := [p.sourceRepresentation, p.fittedSourceRepresentation, p.featureContractVersion,
      p.modelPreprocessingRequirements]
    if values.any fun v => v.all fun s => 256 < s.length then .error .provenanceTypeInvalid
    else requireSupportedNetworkCompatibility p.compatibilityKey

/-- The `try` block of `infer`. -/
def inferScore (state : NetworkBehaviorPreprocessor) (estimator : BinaryEstimator) (model : NetworkModelChoice)
    (request : NetworkInferenceRequest) : Except InferenceReason ℚ := do
  checkedProvenance request.provenance
  let record ← featureRecord request
  match state.transform record with
  | .error _ => .error .transformationFailed
  | .ok transformed =>
    if model = .randomForest ∧ ∃ x ∈ transformed, FLOAT32_MAX < |x| then .error .modelInputOutOfRange
    else
      let score := estimator.attackProbability transformed
      if 0 ≤ score ∧ score ≤ 1 then .ok score else .error .modelProbabilityInvalid

inductive PredictedClass where
  | attack
  | normal
deriving DecidableEq

structure NetworkInferenceResult where
  attackProbability : Option ℚ
  predictedClass : Option PredictedClass
  completed : Bool
  reason : Option InferenceReason
deriving DecidableEq

def infer (state : NetworkBehaviorPreprocessor) (estimator : BinaryEstimator) (model : NetworkModelChoice)
    (request : NetworkInferenceRequest) : NetworkInferenceResult :=
  match inferScore state estimator model request with
  | .ok score => ⟨some score, some (if ATTACK_THRESHOLD ≤ score then .attack else .normal), true, none⟩
  | .error reason => ⟨none, none, false, some reason⟩

/-! ## The live console (api/live_soc_console.py) -/

/-- What `float(value)` does. -/
inductive FloatOf where
  | value (q : ℚ)
  | nonFinite
  /-- `TypeError` or `ValueError` -/
  | refused
  /-- `OverflowError` -/
  | overflow

def FloatOf.ofFloat : PyFloat → FloatOf
  | .finite q _ => .value q
  | .nonFinite _ => .nonFinite

def FloatOf.ofInt : Option ℚ → FloatOf
  | some q => .value q
  | none => .overflow

/-- `parseFloat` is `float` on a string, `none` its `ValueError`. -/
def toFloat (parseFloat : String → Option PyFloat) : FeatureValue → FloatOf
  | .int n => .ofInt (floatOfInt n)
  | .float x => .ofFloat x
  | .bool b => .value (if b then 1 else 0)
  | .str s => match parseFloat s with
    | some x => .ofFloat x
    | none => .refused
  | .other => .refused

/-- The ways `_finite_feature_vector` ends. -/
inductive Vectorized where
  | vector (values : List ℚ)
  | reason (text : String)
  | raised
deriving DecidableEq

def Vectorized.push (q : ℚ) : Vectorized → Vectorized
  | .vector values => .vector (q :: values)
  | v => v

/-- A feature map: a dictionary in its order. -/
abbrev Features := List (String × FeatureValue)

/-- The loop of `_finite_feature_vector`. -/
def vectorOf (parseFloat : String → Option PyFloat) (features : Features) : List String → Vectorized
  | [] => .vector []
  | name :: names => match features.lookup name with
    | none => .reason ("missing_feature:" ++ name)
    | some v => match toFloat parseFloat v with
      | .refused => .reason ("non_numeric_feature:" ++ name)
      | .nonFinite => .reason ("non_finite_feature:" ++ name)
      | .overflow => .raised
      | .value q => (vectorOf parseFloat features names).push q

def finiteFeatureVector (parseFloat : String → Option PyFloat) (features : Features) : Vectorized :=
  vectorOf parseFloat features CANONICAL_14_FEATURES

inductive Decision where
  | attack
  | benign
  | withheld
deriving DecidableEq

structure FlowScore where
  rfAttackProbability : Option ℚ
  decision : Decision
  verified : Bool
  reason : String
deriving DecidableEq

def FlowScore.withheld (reason : String) : FlowScore := ⟨none, .withheld, false, reason⟩

/-- `score_canonical_flow`; `model` is the estimator or why it was not loaded, `none` an exception. -/
def scoreCanonicalFlow (parseFloat : String → Option PyFloat) (features : Features) (supplyVerified : Bool)
    (model : Except String BinaryEstimator) : Option FlowScore :=
  match finiteFeatureVector parseFloat features with
  | .raised => none
  | .reason text => some (.withheld text)
  | .vector vector =>
    if !supplyVerified then some (.withheld "frozen_random_forest_unverified")
    else match model with
      | .error reason => some (.withheld reason)
      | .ok estimator =>
        if estimator.nFeaturesIn ≠ CANONICAL_14_FEATURES.length then some (.withheld "feature_contract_mismatch")
        else
          let p := estimator.attackProbability vector
          some ⟨some p, if 1 / 2 ≤ p then .attack else .benign, true, "frozen_random_forest_scored"⟩

/-! ## One flow on both paths -/

/-- The values of network_behavior_v1 that an adapter computed for a flow. -/
structure Flow where
  durationMs : FeatureValue
  fwdPackets : FeatureValue
  bwdPackets : FeatureValue
  fwdBytes : FeatureValue
  bwdBytes : FeatureValue
  packetsPerSecond : FeatureValue
  bytesPerSecond : FeatureValue
  fwdPacketLengthMean : FeatureValue
  bwdPacketLengthMean : FeatureValue
  dstPort : FeatureValue
  protocol : String

namespace Flow

/-- The request of the flow. -/
def request (flow : Flow) (provenance : Option NetworkSourceProvenance) : NetworkInferenceRequest where
  provenance := provenance
  featureNames := NETWORK_BEHAVIOR_V1_FEATURE_NAMES
  featureValues := [flow.durationMs, flow.fwdPackets, flow.bwdPackets, flow.fwdBytes, flow.bwdBytes,
    flow.packetsPerSecond, flow.bytesPerSecond, flow.fwdPacketLengthMean, flow.bwdPacketLengthMean, flow.dstPort,
    .str flow.protocol]

def indicator (b : Bool) : FeatureValue := .float (if b then .finite 1 "1.0" else .finite 0 "0.0")

/-- `features_14` of `adapt_eve_flow_record` (datasets/adapters/suricata_flow.py). -/
def features14 (flow : Flow) : Features :=
  [("duration_ms", flow.durationMs), ("fwd_packets", flow.fwdPackets), ("bwd_packets", flow.bwdPackets),
    ("fwd_bytes", flow.fwdBytes), ("bwd_bytes", flow.bwdBytes), ("packets_per_second", flow.packetsPerSecond),
    ("bytes_per_second", flow.bytesPerSecond), ("fwd_packet_length_mean", flow.fwdPacketLengthMean),
    ("bwd_packet_length_mean", flow.bwdPacketLengthMean), ("dst_port", flow.dstPort),
    ("protocol_tcp", indicator (flow.protocol == "tcp")), ("protocol_udp", indicator (flow.protocol == "udp")),
    ("protocol_icmp", indicator (flow.protocol == "icmp")), ("protocol_other", indicator (flow.protocol == "other"))]

end Flow

/-! ## What each path passes the estimator -/

theorem toFloat_of_convertNumeric (parseFloat : String → Option PyFloat) {v : FeatureValue} {q : ℚ}
    (h : convertNumeric v = .ok q) : toFloat parseFloat v = .value q := by
  cases v with
  | int n =>
    rw [convertNumeric] at h
    rw [toFloat]
    cases hn : floatOfInt n with
    | none => rw [hn] at h; cases h
    | some number =>
      rw [hn, checkedInt] at h
      rw [FloatOf.ofInt]
      split at h
      · cases h
      · split at h
        · cases h
        · rw [Except.ok.inj h]
  | float x =>
    cases x with
    | nonFinite r => cases h
    | finite number r =>
      rw [convertNumeric] at h
      split at h
      · cases h
      · cases h
        rfl
  | bool b => cases h
  | str s => cases h
  | other => cases h

theorem num_of_isInteger {q : ℚ} (h : isInteger q = true) : (q.num : ℚ) = q :=
  (Rat.den_eq_one_iff q).1 (beq_iff_eq.1 h)

theorem checkedRecord_ok {d fp bp fb bb pps bps fm bm port : ℚ} {p : String} {record : FeatureRecord}
    (h : checkedRecord d fp bp fb bb pps bps fm bm port (.str p) = .ok record) :
    record.numeric = [d, fp, bp, fb, bb, pps, bps, fm, bm, port] ∧ record.protocol = p := by
  unfold checkedRecord at h
  split at h
  · cases h
  rename_i hall
  simp only [List.all_cons, List.all_nil, Bool.and_true, Bool.and_eq_true, Decidable.not_not] at hall
  obtain ⟨hfp, hbp, hfb, hbb, hport⟩ := hall
  split at h
  · cases h
  split at h
  · cases h
  split at h
  · cases h
  cases h
  refine ⟨?_, rfl⟩
  simp only [FeatureRecord.numeric, FeatureRecord.numericFields, List.map_cons, List.map_nil, num_of_isInteger hfp,
    num_of_isInteger hbp, num_of_isInteger hfb, num_of_isInteger hbb, num_of_isInteger hport]

/-- The console passes on the flow's own values. -/
theorem vectorOf_features14 (parseFloat : String → Option PyFloat) {flow : Flow}
    {provenance : Option NetworkSourceProvenance} {record : FeatureRecord}
    (h : featureRecord (flow.request provenance) = .ok record) :
    finiteFeatureVector parseFloat flow.features14 = .vector (record.numeric ++ oneHot record.protocol) := by
  simp only [featureRecord, Flow.request, ne_eq, not_true_eq_false, if_false, Except.bind_eq_ok] at h
  obtain ⟨d, hd, fp, hfp, bp, hbp, fb, hfb, bb, hbb, pps, hpps, bps, hbps, fm, hfm, bm, hbm, port, hport, h⟩ := h
  obtain ⟨hnumeric, hprotocol⟩ := checkedRecord_ok h
  have hflag (c : String) : toFloat parseFloat (Flow.indicator (flow.protocol == c)) =
      .value (if record.protocol = c then 1 else 0) := by
    rw [hprotocol]
    by_cases hc : flow.protocol = c
    · rw [if_pos hc, beq_iff_eq.2 hc]
      rfl
    · rw [if_neg hc, beq_eq_false_iff_ne.2 hc]
      rfl
  have hvalue {v : FeatureValue} {q : ℚ} (h : convertNumeric v = .ok q) := toFloat_of_convertNumeric parseFloat h
  simp [finiteFeatureVector, CANONICAL_14_FEATURES, NUMERIC_FEATURE_NAMES, vectorOf, Flow.features14, List.lookup_cons,
    hvalue hd, hvalue hfp, hvalue hbp, hvalue hfb, hvalue hbb, hvalue hpps, hvalue hbps, hvalue hfm, hvalue hbm,
    hvalue hport, hflag, Vectorized.push, hnumeric, oneHot, FIXED_PROTOCOL_CATEGORIES]

/-- The boundary's own checks on a record pass. -/
def Serves (state : NetworkBehaviorPreprocessor) (model : NetworkModelChoice)
    (provenance : Option NetworkSourceProvenance) (record : FeatureRecord) : Prop :=
  (∃ p, provenance = some p ∧ p.compatibilityKey = supportedKey) ∧ record.protocol ∈ FIXED_PROTOCOL_CATEGORIES ∧
    (model = .randomForest → ∀ z ∈ state.zscores record.numeric, |z| ≤ FLOAT32_MAX)

/-- No numeric value of the record is moved by its z-score. -/
def Unmoved (state : NetworkBehaviorPreprocessor) (record : FeatureRecord) : Prop :=
  ∀ c ∈ record.numeric.zip (state.numericMeans.zip state.numericScales), (c.1 - c.2.1) / c.2.2 = c.1

theorem unmoved_iff {state : NetworkBehaviorPreprocessor} {record : FeatureRecord} :
    Unmoved state record ↔ state.zscores record.numeric = record.numeric := by
  have hwidth : record.numeric.length ≤ (state.numericMeans.zip state.numericScales).length := by
    rw [List.length_zip, state.means_width, state.scales_width]
    exact Nat.le_of_eq rfl
  have hfst := List.map_fst_zip hwidth
  unfold Unmoved NetworkBehaviorPreprocessor.zscores
  constructor
  · intro h
    exact (List.map_congr_left h).trans hfst
  · intro h
    exact List.map_inj_left.1 (h.trans hfst.symm)

theorem oneHot_small {protocol : String} : ∀ x ∈ oneHot protocol, |x| ≤ FLOAT32_MAX := by
  have hone : (1 : ℚ) ≤ FLOAT32_MAX := by norm_num [FLOAT32_MAX]
  intro x hx
  obtain ⟨c, -, rfl⟩ := List.mem_map.1 hx
  split
  · rwa [abs_one]
  · rw [abs_zero]
    exact le_trans zero_le_one hone

theorem checkedProvenance_eq (provenance : Option NetworkSourceProvenance) :
    checkedProvenance provenance = .ok () ↔ ∃ p, provenance = some p ∧ p.compatibilityKey = supportedKey := by
  cases provenance with
  | none => simp [checkedProvenance]
  | some p =>
    simp only [Option.some.injEq, exists_eq_left']
    by_cases hkey : p.compatibilityKey = supportedKey
    · refine iff_of_true ?_ hkey
      obtain ⟨a, b, c, d⟩ := p
      obtain ⟨rfl, rfl, rfl, rfl⟩ := NetworkCompatibilityKey.mk.inj hkey
      rw [checkedProvenance, requireSupportedNetworkCompatibility, if_pos hkey]
      exact if_neg (by decide)
    · refine iff_of_false (fun h => ?_) hkey
      rw [checkedProvenance] at h
      split at h
      · cases h
      · rw [requireSupportedNetworkCompatibility, if_neg hkey] at h
        split at h
        · cases h
        split at h
        · cases h
        split at h
        · cases h
        split at h
        · cases h
        split at h <;> cases h

section
variable {state : NetworkBehaviorPreprocessor} {estimator : BinaryEstimator} {model : NetworkModelChoice}
  {provenance : Option NetworkSourceProvenance} {flow : Flow} {record : FeatureRecord} {q : ℚ}

/-- The boundary passes on the z-scores, of the records it serves. -/
theorem inferScore_eq (h : featureRecord (flow.request provenance) = .ok record) :
    inferScore state estimator model (flow.request provenance) = .ok q ↔
      Serves state model provenance record ∧
      q = estimator.attackProbability (state.zscores record.numeric ++ oneHot record.protocol) := by
  have hp := estimator.probability (state.zscores record.numeric ++ oneHot record.protocol)
  have hlarge : (∃ x ∈ state.zscores record.numeric ++ oneHot record.protocol, FLOAT32_MAX < |x|) ↔
      ¬ ∀ z ∈ state.zscores record.numeric, |z| ≤ FLOAT32_MAX := by
    simp only [List.mem_append, not_forall, not_le]
    constructor
    · rintro ⟨x, hx | hx, hlt⟩
      · exact ⟨x, hx, hlt⟩
      · exact absurd (oneHot_small x hx) (not_le.2 hlt)
    · rintro ⟨x, hx, hlt⟩
      exact ⟨x, .inl hx, hlt⟩
  unfold inferScore Serves
  rw [← checkedProvenance_eq]
  have hprov : (flow.request provenance).provenance = provenance := rfl
  rw [hprov, h]
  cases checkedProvenance provenance with
  | error e => simp
  | ok u =>
    simp only [Except.ok_bind, NetworkBehaviorPreprocessor.transform]
    by_cases hc : record.protocol ∈ FIXED_PROTOCOL_CATEGORIES
    · simp only [if_pos hc, hlarge, if_pos hp]
      by_cases hz : model = .randomForest ∧ ¬ ∀ z ∈ state.zscores record.numeric, |z| ≤ FLOAT32_MAX
      · rw [if_pos hz]
        refine iff_of_false (fun h => by cases h) fun hs => hz.2 (hs.1.2.2 hz.1)
      · rw [if_neg hz]
        have hz' : model = .randomForest → ∀ z ∈ state.zscores record.numeric, |z| ≤ FLOAT32_MAX := fun hm =>
          not_not.1 (not_and.1 hz hm)
        simp only [Except.ok.injEq, true_and, hc]
        exact ⟨fun hq => ⟨hz', hq.symm⟩, fun hq => hq.2.symm⟩
    · simp only [if_neg hc]
      exact iff_of_false (fun h => by cases h) fun hs => hc hs.1.2.1

end

/-- On a flow, whatever the estimator: if both paths complete, they give one probability, and both or neither
say `Attack`. -/
def ScoresAlike (parseFloat : String → Option PyFloat) (state : NetworkBehaviorPreprocessor)
    (model : NetworkModelChoice) (provenance : Option NetworkSourceProvenance) (flow : Flow) : Prop :=
  ∀ (estimator : BinaryEstimator) (supplyVerified : Bool) (score : FlowScore) (p q : ℚ),
    scoreCanonicalFlow parseFloat flow.features14 supplyVerified (.ok estimator) = some score →
    score.rfAttackProbability = some p →
    (infer state estimator model (flow.request provenance)).attackProbability = some q →
    p = q ∧ (score.decision = .attack ↔
      (infer state estimator model (flow.request provenance)).predictedClass = some .attack)

section
variable {parseFloat : String → Option PyFloat} {state : NetworkBehaviorPreprocessor} {estimator : BinaryEstimator}
  {model : NetworkModelChoice} {provenance : Option NetworkSourceProvenance} {flow : Flow} {record : FeatureRecord}

/-- What the console says once the artifact is verified. -/
def scored (p : ℚ) : FlowScore :=
  ⟨some p, if 1 / 2 ≤ p then .attack else .benign, true, "frozen_random_forest_scored"⟩

theorem scored_of_score (h : featureRecord (flow.request provenance) = .ok record) {supplyVerified : Bool}
    {score : FlowScore} {p : ℚ}
    (hscore : scoreCanonicalFlow parseFloat flow.features14 supplyVerified (.ok estimator) = some score)
    (hp : score.rfAttackProbability = some p) :
    p = estimator.attackProbability (record.numeric ++ oneHot record.protocol) ∧ score = scored p := by
  unfold scoreCanonicalFlow at hscore
  rw [vectorOf_features14 parseFloat h] at hscore
  dsimp only at hscore
  split at hscore
  · cases hscore
    cases hp
  split at hscore
  · cases hscore
    cases hp
  cases hscore
  cases hp
  exact ⟨rfl, rfl⟩

theorem inferred_of_infer (h : featureRecord (flow.request provenance) = .ok record) {q : ℚ}
    (hq : (infer state estimator model (flow.request provenance)).attackProbability = some q) :
    Serves state model provenance record ∧
    q = estimator.attackProbability (state.zscores record.numeric ++ oneHot record.protocol) ∧
    (infer state estimator model (flow.request provenance)).predictedClass =
      some (if ATTACK_THRESHOLD ≤ q then .attack else .normal) := by
  unfold infer at hq ⊢
  cases hscore : inferScore state estimator model (flow.request provenance) with
  | error e => rw [hscore] at hq; cases hq
  | ok score =>
    rw [hscore] at hq
    cases hq
    obtain ⟨hserves, heq⟩ := (inferScore_eq h).1 hscore
    exact ⟨hserves, heq, rfl⟩

/-- An estimator that tells one vector from the others. -/
def spotter (target : List ℚ) : BinaryEstimator where
  nFeaturesIn := CANONICAL_14_FEATURES.length
  attackProbability v := if v = target then 1 else 0
  probability v := by
    split
    · exact ⟨zero_le_one, le_refl 1⟩
    · exact ⟨le_refl 0, zero_le_one⟩

theorem unmoved_of_scoresAlike (h : featureRecord (flow.request provenance) = .ok record)
    (halike : ScoresAlike parseFloat state model provenance flow) (hserves : Serves state model provenance record) :
    Unmoved state record := by
  by_contra hmoved
  -- an estimator that knows the flow's own values and nothing else
  let estimator := spotter (record.numeric ++ oneHot record.protocol)
  have hconsole : scoreCanonicalFlow parseFloat flow.features14 true (.ok estimator) = some (scored 1) := by
    unfold scoreCanonicalFlow
    rw [vectorOf_features14 parseFloat h]
    simp [estimator, spotter, scored]
  have hne : state.zscores record.numeric ++ oneHot record.protocol ≠ record.numeric ++ oneHot record.protocol :=
    fun heq => hmoved (unmoved_iff.2 (List.append_cancel_right heq))
  have hscore : inferScore state estimator model (flow.request provenance) = .ok 0 :=
    (inferScore_eq h).2 ⟨hserves, (if_neg hne).symm⟩
  have hinfer : (infer state estimator model (flow.request provenance)).attackProbability = some 0 := by
    rw [infer, hscore]
  exact absurd (halike estimator true _ 1 0 hconsole rfl hinfer).1 one_ne_zero

/-- **The two paths score a flow alike, for every estimator, exactly if the boundary rejects it or no numeric value
of it is moved by its z-score.** -/
theorem scoresAlike_iff (h : featureRecord (flow.request provenance) = .ok record) :
    ScoresAlike parseFloat state model provenance flow ↔
      ¬ Serves state model provenance record ∨ Unmoved state record := by
  constructor
  · intro halike
    by_cases hserves : Serves state model provenance record
    · exact .inr (unmoved_of_scoresAlike h halike hserves)
    · exact .inl hserves
  · intro hcond estimator supplyVerified score p q hscore hp hq
    obtain ⟨hpv, hs⟩ := scored_of_score h hscore hp
    obtain ⟨hserves, hqv, hclass⟩ := inferred_of_infer h hq
    have hmoved := hcond.resolve_left (not_not.2 hserves)
    have hpq : p = q := by rw [hpv, hqv, unmoved_iff.1 hmoved]
    refine ⟨hpq, ?_⟩
    rw [hclass, hs, hpq, scored]
    simp [ATTACK_THRESHOLD]

end

/-! ## A flow that the two paths score differently -/

def row (durationMs : ℚ) : FeatureRecord := ⟨durationMs, 0, 0, 0, 0, 0, 0, 0, 0, 0, "tcp"⟩

def twoRows : NetworkBehaviorPreprocessor where
  trainingRowCount := 2
  numericMeans := [1, 0, 0, 0, 0, 0, 0, 0, 0, 0]
  numericScales := [1, 1, 1, 1, 1, 1, 1, 1, 1, 1]
  zeroVarianceFeatures := NUMERIC_FEATURE_NAMES.tail
  row_count_pos := by decide
  means_width := rfl
  scales_width := rfl
  scales_pos := by decide
  zero_variance_names := by decide

def approvedUnsw : NetworkSourceProvenance :=
  ⟨some UNSW_NB15_ARGUS_RAW_REPRESENTATION_V1, some UNSW_NB15_ARGUS_RAW_REPRESENTATION_V1,
    some NETWORK_BEHAVIOR_V1_CONTRACT_VERSION, some UNSW_TRAINED_CLASSICAL_REQUIREMENTS_V1⟩

def twoMilliseconds : Flow :=
  ⟨.float (.finite 2 "2.0"), .int 0, .int 0, .int 0, .int 0, .float (.finite 0 "0.0"), .float (.finite 0 "0.0"),
    .float (.finite 0 "0.0"), .float (.finite 0 "0.0"), .int 0, "tcp"⟩

theorem featureRecord_twoMilliseconds : featureRecord (twoMilliseconds.request (some approvedUnsw)) = .ok (row 2) := by
  decide +kernel

theorem serves_twoMilliseconds : Serves twoRows .randomForest (some approvedUnsw) (row 2) :=
  ⟨⟨approvedUnsw, rfl, rfl⟩, by decide, fun _ => by decide +kernel⟩

/-- Fitted on a row of 0 ms and one of 2 ms, the boundary takes 2 ms for 1; the console takes it for 2. -/
theorem scoresAlike_fails : fit Rat.sqrt 10000 [row 0, row 2] = .ok twoRows ∧
    featureRecord (twoMilliseconds.request (some approvedUnsw)) = .ok (row 2) ∧
    ¬ ScoresAlike (fun _ => none) twoRows .randomForest (some approvedUnsw) twoMilliseconds := by
  refine ⟨by decide +kernel, featureRecord_twoMilliseconds, fun halike => ?_⟩
  have hmoved := unmoved_of_scoresAlike featureRecord_twoMilliseconds halike serves_twoMilliseconds
  exact absurd hmoved (by unfold Unmoved; decide +kernel)

theorem scoresAlike_iff_twoMilliseconds :
    ScoresAlike (fun _ => none) twoRows .randomForest (some approvedUnsw) twoMilliseconds ↔
      ¬ Serves twoRows .randomForest (some approvedUnsw) (row 2) ∨ Unmoved twoRows (row 2) :=
  scoresAlike_iff featureRecord_twoMilliseconds

end ThreatFusion.Inference
