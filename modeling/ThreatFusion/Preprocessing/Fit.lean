import ThreatFusion.Lib.Moments
import ThreatFusion.Lib.Result
import Mathlib.Algebra.BigOperators.Pi
import Mathlib.Algebra.BigOperators.GroupWithZero.Finset
import Mathlib.Data.Fin.VecNotation
import Mathlib.Data.Rat.Defs
/-
# Fitting the preprocessor on the training records (`preprocessing/network_behavior_v1.py`)

| here | there |
| --- | --- |
| `NetworkBehaviorRecord`                        | what `project_network_behavior` and the label encoder read of a `NetworkFlow` or a `NetworkBenchmarkRecord` |
| `projectNetworkBehavior`, `validatedProjection` | `project_network_behavior` (`features/network_behavior.py`), `_validated_projection` (:329-342) |
| `RunningStatistics`, `.update`                 | `_RunningStatistics` (:128-156) |
| `NetworkBehaviorPreprocessor`, `fromStatistics` | the class (:159-183) with what its `__post_init__` checks, `from_statistics` (:208-225) |
| `fit`                                          | `fit` (:185-206) |

Arithmetic is exact: a float is a rational or not finite, and what the code checks of its own finite results
holds by itself. `np.sqrt` is any function. An array of shape `(rows, width)` is the list of its rows.

`population` says what `_RunningStatistics` is for, and `update_population` that `update` computes it of all the
values so far, from what it kept and the new batch alone.
-/
namespace ThreatFusion.Preprocessing

/-- The codes of `NetworkPreprocessingError` that fitting and transforming raise. -/
inductive PreprocessingCode where
  | nonFinitePredictor | unknownBinaryLabel | trainingPartitionEmpty | assignmentPartitionCountExceeded
deriving DecidableEq

inductive PreprocessingError where
  | networkPreprocessingError (code : PreprocessingCode)
  | valueError (text : String)
deriving DecidableEq

inductive Protocol where
  | tcp | udp | icmp | other
deriving DecidableEq

inductive Number where
  | finite (q : ℚ)
  | nonFinite
deriving DecidableEq

def Number.isFinite : Number → Bool
  | .finite _ => true
  | .nonFinite => false

/-- The number, when it is finite. -/
def Number.value : Number → ℚ
  | .finite q => q
  | .nonFinite => 0

structure NetworkBehaviorRecord where
  durationMs : Number
  fwdPackets : ℕ
  bwdPackets : ℕ
  fwdBytes : ℕ
  bwdBytes : ℕ
  packetsPerSecond : Number
  bytesPerSecond : Number
  fwdPacketLengthMean : Number
  bwdPacketLengthMean : Number
  dstPort : ℕ
  protocol : Protocol
  label : Option String

/-- `len(NUMERIC_FEATURE_NAMES)`. -/
abbrev NUMERIC_WIDTH : ℕ := 10

def NUMERIC_FEATURE_NAMES : Fin NUMERIC_WIDTH → String :=
  !["duration_ms", "fwd_packets", "bwd_packets", "fwd_bytes", "bwd_bytes", "packets_per_second",
    "bytes_per_second", "fwd_packet_length_mean", "bwd_packet_length_mean", "dst_port"]

abbrev Numeric := Fin NUMERIC_WIDTH → ℚ

def projectNetworkBehavior (record : NetworkBehaviorRecord) : (Fin NUMERIC_WIDTH → Number) × Protocol :=
  (![record.durationMs, .finite record.fwdPackets, .finite record.bwdPackets, .finite record.fwdBytes,
    .finite record.bwdBytes, record.packetsPerSecond, record.bytesPerSecond, record.fwdPacketLengthMean,
    record.bwdPacketLengthMean, .finite record.dstPort], record.protocol)

def validatedProjection (record : NetworkBehaviorRecord) : Except PreprocessingError (Numeric × Protocol) :=
  let (values, category) := projectNetworkBehavior record
  if ∀ j, (values j).isFinite = true then .ok (fun j => (values j).value, category)
  else .error (.networkPreprocessingError .nonFinitePredictor)

/-! ## Running statistics -/

structure RunningStatistics (width : ℕ) where
  count : ℕ
  mean : Fin width → ℚ
  m2 : Fin width → ℚ

namespace RunningStatistics

variable {width : ℕ}

/-- `_RunningStatistics(width)`. -/
def zero (width : ℕ) : RunningStatistics width := ⟨0, 0, 0⟩

def update (s : RunningStatistics width) (values : List (Fin width → ℚ)) : RunningStatistics width :=
  let batchCount := values.length
  if batchCount = 0 then s
  else
    let batchMean : Fin width → ℚ := fun j => values.sum j / batchCount
    let centered := values.map (· - batchMean)
    let batchM2 := (centered.map fun c => c * c).sum
    if s.count = 0 then ⟨batchCount, batchMean, batchM2⟩
    else
      let combinedCount := s.count + batchCount
      let delta := batchMean - s.mean
      { count := combinedCount
        mean := fun j => s.mean j + delta j * (batchCount / combinedCount)
        m2 := fun j => s.m2 j + (batchM2 j + delta j * delta j * (s.count * batchCount / combinedCount)) }

/-- What the statistics of some values are: their number, mean, and sum of squared deviations, for each column. -/
def population (values : List (Fin width → ℚ)) : RunningStatistics width where
  count := values.length
  mean j := Moments.mean (values.map (· j))
  m2 j := Moments.deviations (values.map (· j))

theorem population_nil : population [] = zero width := by
  simp only [population, zero, List.map_nil, List.length_nil, Moments.mean, Moments.deviations, List.sum_nil]
  congr
  funext j
  simp

theorem sum_column (values : List (Fin width → ℚ)) (j : Fin width) : values.sum j = (values.map (· j)).sum := by
  induction values with
  | nil => rfl
  | cons v values ih => rw [List.sum_cons, List.map_cons, List.sum_cons, Pi.add_apply, ih]

theorem column_ne_nil {values : List (Fin width → ℚ)} (h : values ≠ []) (j : Fin width) : values.map (· j) ≠ [] :=
  fun h' => h (List.map_eq_nil_iff.mp h')

/-- The moments of one batch, as the update computes them. -/
theorem batch_moments (values : List (Fin width → ℚ)) (j : Fin width) :
    values.sum j / values.length = (population values).mean j ∧
      ((values.map (· - fun j => values.sum j / values.length)).map fun c => c * c).sum j = (population values).m2 j := by
  have hmean : values.sum j / values.length = (population values).mean j := by
    simp only [population, Moments.mean]
    rw [sum_column, List.length_map]
  refine ⟨hmean, ?_⟩
  simp only [population, Moments.deviations] at hmean ⊢
  rw [sum_column, List.map_map, List.map_map, List.map_map]
  congr 1
  refine List.map_congr_left fun v _ => ?_
  simp only [Function.comp_apply, Pi.mul_apply, Pi.sub_apply, hmean]

/-- **An update gives the statistics of all values so far.** -/
theorem update_population (seen values : List (Fin width → ℚ)) :
    (population seen).update values = population (seen ++ values) := by
  unfold update
  by_cases hvalues : values = []
  · subst hvalues
    simp
  have hlen : values.length ≠ 0 := fun h => hvalues (List.eq_nil_of_length_eq_zero h)
  have hmean : (fun j => values.sum j / values.length) = (population values).mean :=
    funext fun j => (batch_moments values j).1
  have hm2 : ((values.map (· - fun j => values.sum j / values.length)).map fun c => c * c).sum = (population values).m2 :=
    funext fun j => (batch_moments values j).2
  simp only [if_neg hlen, hm2]
  simp only [hmean]
  by_cases hseen : seen = []
  · subst hseen
    rfl
  · have hcount : (population seen).count ≠ 0 := fun h => hseen (List.eq_nil_of_length_eq_zero h)
    rw [if_neg hcount]
    simp only [population, List.length_append, List.map_append]
    congr
    · funext j
      have := Moments.mean_append (column_ne_nil hseen j) (column_ne_nil hvalues j)
      rw [List.length_map, List.length_map] at this
      exact this.symm
    · funext j
      have := Moments.deviations_append (column_ne_nil hseen j) (column_ne_nil hvalues j)
      rw [List.length_map, List.length_map] at this
      exact this.symm

/-- **Successive updates**, of any batches. -/
theorem foldl_update (batches : List (List (Fin width → ℚ))) :
    batches.foldl update (zero width) = population batches.flatten := by
  have hrun : ∀ seen, batches.foldl update (population seen) = population (seen ++ batches.flatten) := by
    induction batches with
    | nil =>
      intro seen
      simp
    | cons batch batches ih =>
      intro seen
      rw [List.foldl_cons, update_population, ih, List.flatten_cons, List.append_assoc]
  rw [← population_nil, hrun, List.nil_append]

theorem population_perm {values values' : List (Fin width → ℚ)} (h : values.Perm values') :
    population values = population values' := by
  unfold population
  rw [h.length_eq]
  congr
  · exact funext fun j => Moments.mean_perm (h.map _)
  · exact funext fun j => Moments.deviations_perm (h.map _)

end RunningStatistics

/-! ## The fitted state -/

structure NetworkBehaviorPreprocessor where
  trainingRowCount : ℕ
  numericMeans : Numeric
  numericScales : Numeric
  zeroVarianceFeatures : List String
  count_positive : 0 < trainingRowCount
  scales_positive : ∀ j, 0 < numericScales j
  zeroVariance_subset : ∀ name ∈ zeroVarianceFeatures, ∃ j, NUMERIC_FEATURE_NAMES j = name

section
variable (sqrt : ℚ → ℚ)

def fromStatistics (statistics : RunningStatistics NUMERIC_WIDTH) :
    Except PreprocessingError NetworkBehaviorPreprocessor :=
  if hcount : 0 < statistics.count then
    let variances : Numeric := fun j => max (statistics.m2 j / statistics.count) 0
    let rawScales : Numeric := fun j => sqrt (variances j)
    let zeroMask : Fin NUMERIC_WIDTH → Bool := fun j => rawScales j == 0
    let scales : Numeric := fun j => if zeroMask j then 1 else rawScales j
    if hscales : ∀ j, 0 < scales j then
      .ok { trainingRowCount := statistics.count
            numericMeans := statistics.mean
            numericScales := scales
            zeroVarianceFeatures := ((List.finRange NUMERIC_WIDTH).filter zeroMask).map NUMERIC_FEATURE_NAMES
            count_positive := hcount
            scales_positive := hscales
            zeroVariance_subset := fun _ hname => (List.mem_map.mp hname).imp fun _ h => h.2 }
    else .error (.valueError "numeric scales must be finite and positive")
  else .error (.networkPreprocessingError .trainingPartitionEmpty)

/-- The loop of `fit`: the statistics and the batch that is not full. -/
def fitLoop (batchSize : ℤ) : RunningStatistics NUMERIC_WIDTH → List Numeric → List NetworkBehaviorRecord →
    Except PreprocessingError (RunningStatistics NUMERIC_WIDTH × List Numeric)
  | statistics, batch, [] => .ok (statistics, batch)
  | statistics, batch, record :: records => do
    let (numeric, _) ← validatedProjection record
    let batch := batch ++ [numeric]
    if batchSize ≤ batch.length then fitLoop batchSize (statistics.update batch) [] records
    else fitLoop batchSize statistics batch records

def fit (trainingRecords : List NetworkBehaviorRecord) (batchSize : ℤ) :
    Except PreprocessingError NetworkBehaviorPreprocessor :=
  if batchSize ≤ 0 then .error (.valueError "batch_size must be positive")
  else do
    let (statistics, batch) ← fitLoop batchSize (.zero NUMERIC_WIDTH) [] trainingRecords
    let statistics := if batch ≠ [] then statistics.update batch else statistics
    fromStatistics sqrt statistics

/-! ## Records -/

/-- Its numeric predictors are finite. -/
def Projectable (record : NetworkBehaviorRecord) : Prop := ∀ j, ((projectNetworkBehavior record).1 j).isFinite = true

instance (record : NetworkBehaviorRecord) : Decidable (Projectable record) :=
  Nat.decidableForallFin _

def numericOf (record : NetworkBehaviorRecord) : Numeric := fun j => ((projectNetworkBehavior record).1 j).value

theorem validatedProjection_eq (record : NetworkBehaviorRecord) :
    validatedProjection record =
      if Projectable record then .ok (numericOf record, record.protocol)
      else .error (.networkPreprocessingError .nonFinitePredictor) := rfl

variable {sqrt}

/-- The loop is through all records, or stops at one that is not finite. -/
theorem fitLoop_eq (batchSize : ℤ) (records : List NetworkBehaviorRecord) (seen batch : List Numeric) :
    (fitLoop batchSize (.population seen) batch records).map (fun p => p.1.update p.2) =
      if ∀ record ∈ records, Projectable record then
        .ok (.population (seen ++ batch ++ records.map numericOf))
      else .error (.networkPreprocessingError .nonFinitePredictor) := by
  induction records generalizing seen batch with
  | nil =>
    rw [if_pos fun record h => absurd h List.not_mem_nil, List.map_nil, List.append_nil,
      ← RunningStatistics.update_population]
    rfl
  | cons record records ih =>
    unfold fitLoop
    by_cases hrecord : Projectable record
    · have hall : (∀ r ∈ record :: records, Projectable r) ↔ ∀ r ∈ records, Projectable r := by
        simp [hrecord]
      rw [validatedProjection_eq, if_pos hrecord, Except.ok_bind, List.map_cons]
      simp only [hall]
      by_cases hfull : batchSize ≤ (batch ++ [numericOf record]).length
      · rw [if_pos hfull, RunningStatistics.update_population, ih]
        simp
      · rw [if_neg hfull, ih]
        simp
    · have hnot : ¬ ∀ r ∈ record :: records, Projectable r := fun h => hrecord (h _ (List.mem_cons_self ..))
      rw [validatedProjection_eq, if_neg hrecord, if_neg hnot]
      rfl

/-- **The fitted state is that of the whole population**, for every batch size. -/
theorem fit_eq {batchSize : ℤ} (hpos : 0 < batchSize) (records : List NetworkBehaviorRecord) :
    fit sqrt records batchSize =
      if ∀ record ∈ records, Projectable record then fromStatistics sqrt (.population (records.map numericOf))
      else .error (.networkPreprocessingError .nonFinitePredictor) := by
  have hloop := fitLoop_eq batchSize records [] []
  unfold fit
  rw [if_neg (not_le.mpr hpos), ← RunningStatistics.population_nil]
  have hlast : ∀ p : RunningStatistics NUMERIC_WIDTH × List Numeric,
      (if p.2 ≠ [] then p.1.update p.2 else p.1) = p.1.update p.2 := by
    intro p
    by_cases h : p.2 = []
    · rw [h]
      rfl
    · rw [if_pos h]
  cases h : fitLoop batchSize (.population []) [] records with
  | error e =>
    rw [h] at hloop
    by_cases hall : ∀ record ∈ records, Projectable record
    · rw [if_pos hall] at hloop
      cases hloop
    · rw [if_neg hall] at hloop ⊢
      exact congrArg Except.error (Except.error.inj hloop)
  | ok p =>
    rw [h] at hloop
    by_cases hall : ∀ record ∈ records, Projectable record
    · rw [if_pos hall] at hloop ⊢
      rw [Except.ok_bind]
      exact congrArg (fromStatistics sqrt) ((hlast p).trans (Except.ok.inj hloop))
    · rw [if_neg hall] at hloop
      cases hloop

/-- Neither the batch size nor the order of the records changes the fitted state. -/
theorem fit_perm {batchSize batchSize' : ℤ} (hpos : 0 < batchSize) (hpos' : 0 < batchSize')
    {records records' : List NetworkBehaviorRecord} (h : records.Perm records') :
    fit sqrt records batchSize = fit sqrt records' batchSize' := by
  have hall : (∀ record ∈ records, Projectable record) ↔ ∀ record ∈ records', Projectable record :=
    forall_congr' fun record => by rw [h.mem_iff]
  rw [fit_eq hpos, fit_eq hpos', RunningStatistics.population_perm (h.map numericOf)]
  simp only [hall]

end

end ThreatFusion.Preprocessing
