import ThreatFusion.Lib.Result
import ThreatFusion.Py.Text
import Mathlib.Algebra.Field.Rat
import Mathlib.Algebra.Order.Field.Rat
import Mathlib.Analysis.Convex.Combination
/-
# The multi-signal risk score (`models/multi_signal_risk.py`:24-345)

Arithmetic is exact. `round` is the `round(x, digits)` of the two figures that the result rounds.

| here | there |
| --- | --- |
| `SignalObservation.new`      | `SignalObservation.__post_init__` (:66-86) |
| `validateWeights`            | `_validate_weights` (:208-223) |
| `standardize`                | the observations by slot (:243-277) |
| `signalStep`, `severityOf`   | one round of the loop (:293-310), the severity (:327-334) |
| `computeDynamicRiskScore`    | `compute_dynamic_risk_score` |
-/
namespace ThreatFusion.Risk
open Py

/-! ## Signals -/

inductive Slot where
  | supervisedRf | autoencoderV2Reconstruction | isolationForestOutlier | uebaBehavioralDeviation
  | threatIntelIoc | payloadEntropy | periodicBeaconing
deriving DecidableEq

def Slot.text : Slot → String
  | supervisedRf => "supervised_rf"
  | autoencoderV2Reconstruction => "autoencoder_v2_reconstruction"
  | isolationForestOutlier => "isolation_forest_outlier"
  | uebaBehavioralDeviation => "ueba_behavioral_deviation"
  | threatIntelIoc => "threat_intel_ioc"
  | payloadEntropy => "payload_entropy"
  | periodicBeaconing => "periodic_beaconing"

def CANONICAL_SIGNAL_SLOTS : List Slot :=
  [.supervisedRf, .autoencoderV2Reconstruction, .isolationForestOutlier, .uebaBehavioralDeviation,
    .threatIntelIoc, .payloadEntropy, .periodicBeaconing]

def slotOf? (text : String) : Option Slot := CANONICAL_SIGNAL_SLOTS.find? (·.text = text)

def DEFAULT_SIGNAL_WEIGHTS : Slot → ℚ
  | .supervisedRf => 30 / 100
  | .autoencoderV2Reconstruction => 15 / 100
  | .isolationForestOutlier => 10 / 100
  | .uebaBehavioralDeviation => 15 / 100
  | .threatIntelIoc => 15 / 100
  | .payloadEntropy => 75 / 1000
  | .periodicBeaconing => 75 / 1000

inductive MultiSignalRiskError where
  | unknownSignalSlot | invalidSignalStatus | availableSignalMissingScore | signalScoreOutOfBounds | signalScoreNan
  | unavailableSignalMustNotHaveScore | missingUnavailabilityReason | invalidSignalWeight | invalidObservationFormat
  | duplicateSignalSlot | emptyAvailableSignalSet
deriving DecidableEq

def MultiSignalRiskError.code : MultiSignalRiskError → String
  | .unknownSignalSlot => "unknown_signal_slot"
  | .invalidSignalStatus => "invalid_signal_status"
  | .availableSignalMissingScore => "available_signal_missing_score"
  | .signalScoreOutOfBounds => "signal_score_out_of_bounds"
  | .signalScoreNan => "signal_score_nan"
  | .unavailableSignalMustNotHaveScore => "unavailable_signal_must_not_have_score"
  | .missingUnavailabilityReason => "missing_unavailability_reason"
  | .invalidSignalWeight => "invalid_signal_weight"
  | .invalidObservationFormat => "invalid_observation_format"
  | .duplicateSignalSlot => "duplicate_signal_slot"
  | .emptyAvailableSignalSet => "empty_available_signal_set"

/-- The error of the module, or the `OverflowError` of `float`. -/
inductive Raised where
  | risk (e : MultiSignalRiskError)
  | overflow
deriving DecidableEq

/-- What `float(x)` does with a value. -/
inductive FloatOf where
  | typeOrValueError | overflow | nan | infinite
  | finite (q : ℚ)

/-- The status of an observation with what it must carry. -/
inductive Signal where
  | available (score : { q : ℚ // 0 ≤ q ∧ q ≤ 1 })
  | unavailable (reason : { r : String // (strip r).isEmpty = false })
deriving DecidableEq

variable {M : Type}

structure SignalObservation (M : Type) where
  slot : Slot
  signal : Signal
  metadata : Option M

/-- The arguments; a reason that is no `str` is `none`. -/
structure RawObservation (M : Type) where
  slot : String
  status : String
  score : Option FloatOf
  reason : Option String
  metadata : Option M

def readScore : FloatOf → Except Raised { q : ℚ // 0 ≤ q ∧ q ≤ 1 }
  | .typeOrValueError => .error (.risk .signalScoreOutOfBounds)
  | .overflow => .error .overflow
  | .nan | .infinite => .error (.risk .signalScoreNan)
  | .finite q => if h : 0 ≤ q ∧ q ≤ 1 then .ok ⟨q, h⟩ else .error (.risk .signalScoreOutOfBounds)

def SignalObservation.new (raw : RawObservation M) : Except Raised (SignalObservation M) :=
  match slotOf? raw.slot with
  | none => .error (.risk .unknownSignalSlot)
  | some slot =>
    if raw.status = "AVAILABLE" then match raw.score with
      | none => .error (.risk .availableSignalMissingScore)
      | some score => (readScore score).map fun score => ⟨slot, .available score, raw.metadata⟩
    else if raw.status = "UNAVAILABLE" then
      if raw.score.isSome then .error (.risk .unavailableSignalMustNotHaveScore)
      else match raw.reason with
        | none => .error (.risk .missingUnavailabilityReason)
        | some reason =>
          if h : (strip reason).isEmpty = false then .ok ⟨slot, .unavailable ⟨reason, h⟩, raw.metadata⟩
          else .error (.risk .missingUnavailabilityReason)
    else .error (.risk .invalidSignalStatus)

def SignalObservation.score? (o : SignalObservation M) : Option ℚ :=
  match o.signal with
  | .available score => some score
  | .unavailable _ => none

/-! ## Weights -/

/-- `custom_weights`; a mapping is its items. -/
inductive CustomWeights where
  | absent | noMapping
  | mapping (items : List (String × FloatOf))

def readWeight : FloatOf → Except Raised ℚ
  | .overflow => .error .overflow
  | .finite q => if 0 < q then .ok q else .error (.risk .invalidSignalWeight)
  | .typeOrValueError | .nan | .infinite => .error (.risk .invalidSignalWeight)

def setWeights : List (String × FloatOf) → (Slot → ℚ) → Except Raised (Slot → ℚ)
  | [], weights => .ok weights
  | (text, value) :: items, weights => match slotOf? text with
    | none => .error (.risk .unknownSignalSlot)
    | some slot => do
      let weight ← readWeight value
      setWeights items (Function.update weights slot weight)

def validateWeights : CustomWeights → Except Raised (Slot → ℚ)
  | .absent => .ok DEFAULT_SIGNAL_WEIGHTS
  | .noMapping => .error (.risk .invalidSignalWeight)
  | .mapping items => setWeights items DEFAULT_SIGNAL_WEIGHTS

/-! ## Observations -/

/-- A value of a mapping: an observation, a mapping with its fields, a number, or anything else. -/
inductive MappingValue (M : Type) where
  | observation (o : SignalObservation M)
  | fields (status : Option String) (score : Option FloatOf) (reason : Option String) (metadata : Option M)
  | number (value : FloatOf)
  | other

/-- An item of a sequence that is no observation is `none`. -/
inductive Observations (M : Type) where
  | sequence (items : List (Option (SignalObservation M)))
  | mapping (items : List (String × MappingValue M))
  | other

abbrev ObservationMap (M : Type) := Slot → Option (SignalObservation M)

def addItems : List (Option (SignalObservation M)) → ObservationMap M → Except Raised (ObservationMap M)
  | [], m => .ok m
  | none :: _, _ => .error (.risk .invalidObservationFormat)
  | some o :: items, m =>
    if (m o.slot).isSome then .error (.risk .duplicateSignalSlot)
    else addItems items (Function.update m o.slot (some o))

/-- `float(value)` is taken before the observation is made. -/
def readValue (text : String) : MappingValue M → Except Raised (SignalObservation M)
  | .observation o => .ok o
  | .fields status score reason metadata => SignalObservation.new ⟨text, status.getD "AVAILABLE", score, reason, metadata⟩
  | .number .typeOrValueError | .other => .error (.risk .invalidObservationFormat)
  | .number value => SignalObservation.new ⟨text, "AVAILABLE", some value, none, none⟩

def addEntries : List (String × MappingValue M) → ObservationMap M → Except Raised (ObservationMap M)
  | [], m => .ok m
  | (text, value) :: items, m => match slotOf? text with
    | none => .error (.risk .unknownSignalSlot)
    | some slot => do
      let o ← readValue text value
      addEntries items (Function.update m slot (some o))

def standardize : Observations M → Except Raised (ObservationMap M)
  | .sequence items => addItems items fun _ => none
  | .mapping items => addEntries items fun _ => none
  | .other => .error (.risk .invalidObservationFormat)

/-- A slot that was not given is unavailable. -/
def resolve (m : ObservationMap M) (slot : Slot) : SignalObservation M :=
  (m slot).getD ⟨slot, .unavailable ⟨"omitted_from_input", by decide⟩, none⟩

/-! ## The score -/

structure AvailableSignal (M : Type) where
  slot : Slot
  score : ℚ
  weight : ℚ
  metadata : Option M
  normalizedContribution : ℚ := 0

structure UnavailableSignal where
  slot : Slot
  reason : String
  nominalWeight : ℚ

/-- The accumulators of the loop. -/
structure Sums (M : Type) where
  available : List (AvailableSignal M) := []
  unavailable : List UnavailableSignal := []
  weightedSum : ℚ := 0
  effectiveWeightDenom : ℚ := 0

def signalStep (weights : Slot → ℚ) (m : ObservationMap M) (s : Sums M) (slot : Slot) : Sums M :=
  match (resolve m slot).signal with
  | .available score =>
    { s with
      available := s.available ++ [{ slot, score, weight := weights slot, metadata := (resolve m slot).metadata }]
      weightedSum := s.weightedSum + weights slot * score
      effectiveWeightDenom := s.effectiveWeightDenom + weights slot }
  | .unavailable reason => { s with unavailable := s.unavailable ++ [⟨slot, reason, weights slot⟩] }

def sums (weights : Slot → ℚ) (m : ObservationMap M) : Sums M :=
  CANONICAL_SIGNAL_SLOTS.foldl (signalStep weights m) {}

inductive Severity where
  | critical | high | medium | low
deriving DecidableEq

def severityOf (score : ℚ) : Severity :=
  if 85 ≤ score then .critical else if 65 ≤ score then .high else if 40 ≤ score then .medium else .low

structure DynamicRiskAssessment (M : Type) where
  schemaVersion : String := "dynamic_risk_assessment_v1"
  dynamicRiskScore : ℚ
  severityLevel : Severity
  effectiveWeightDenominator : ℚ
  availableSignals : List (AvailableSignal M)
  unavailableSignals : List UnavailableSignal
  assessedAtUtc : String

def assess (round : ℚ → Nat → ℚ) (s : Sums M) (assessedAtUtc : String) : Except Raised (DynamicRiskAssessment M) :=
  if s.effectiveWeightDenom ≤ 0 ∨ s.available = [] then .error (.risk .emptyAvailableSignalSet)
  else
    let score := min (max (100 * (s.weightedSum / s.effectiveWeightDenom)) 0) 100
    .ok
      { dynamicRiskScore := round score 4
        severityLevel := severityOf score
        effectiveWeightDenominator := round s.effectiveWeightDenom 6
        availableSignals := s.available.map fun a =>
          { a with normalizedContribution := round (100 * (a.weight * a.score) / s.effectiveWeightDenom) 4 }
        unavailableSignals := s.unavailable
        assessedAtUtc }

/-- `now` is the clock's text, for a call without a time or with an empty one. -/
def computeDynamicRiskScore (round : ℚ → Nat → ℚ) (observations : Observations M) (customWeights : CustomWeights)
    (assessedAtUtc : Option String) (now : String) : Except Raised (DynamicRiskAssessment M) := do
  let weights ← validateWeights customWeights
  let m ← standardize observations
  assess round (sums weights m) (if (assessedAtUtc.getD "").isEmpty then now else assessedAtUtc.getD "")

end ThreatFusion.Risk
