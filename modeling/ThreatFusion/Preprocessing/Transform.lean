import ThreatFusion.Preprocessing.Fit
import Mathlib.Data.Fin.Tuple.Basic
import Mathlib.Order.Interval.Set.Defs
/-
# Transforming records one by one, and in a matrix (`preprocessing/network_behavior_v1.py`)

| here | there |
| --- | --- |
| `encodeBinaryLabel`               | `encode_binary_label` (:345-350) |
| `transform`, `transformBatch`     | `transform`, `transform_batch` (:227-242), for inference |
| `transformUnscaledMatrixInPlace`  | `transform_unscaled_matrix_in_place` (:244-256), for training |
| `unscaledBatch`                   | `_unscaled_batch` (:580-588) |
| `flushPartitionBatch`, `writePartition` | `_flush_partition_batch` (:624-642), and its calls for one partition (:757-780) |

`numericPart` and `protocolPart` are the slices `[:10]` and `[10:]` of a row. The training path writes encoded
batches into a matrix (`writePartition_eq`) and scales it slice by slice (`transformInPlace_eq`); `scaleRow_unscaled`
is where it meets the path for inference.
-/
namespace ThreatFusion.Preprocessing

/-- `len(FIXED_PROTOCOL_CATEGORIES)`. -/
abbrev PROTOCOL_WIDTH : ℕ := 4

def FIXED_PROTOCOL_CATEGORIES : Fin PROTOCOL_WIDTH → Protocol := ![.tcp, .udp, .icmp, .other]

/-- `FIXED_PROTOCOL_CATEGORIES.index(category)`. -/
def Protocol.index : Protocol → Fin PROTOCOL_WIDTH
  | .tcp => 0
  | .udp => 1
  | .icmp => 2
  | .other => 3

theorem fixedProtocolCategories_index (category : Protocol) : FIXED_PROTOCOL_CATEGORIES category.index = category := by
  cases category <;> rfl

abbrev Encoded := Fin (NUMERIC_WIDTH + PROTOCOL_WIDTH) → ℚ

def numericPart (row : Encoded) : Numeric := fun j => row (Fin.castAdd PROTOCOL_WIDTH j)

def protocolPart (row : Encoded) : Fin PROTOCOL_WIDTH → ℚ := fun j => row (Fin.natAdd NUMERIC_WIDTH j)

/-- Zeros, and the row's own category set to one. -/
def oneHot (category : Protocol) : Fin PROTOCOL_WIDTH → ℚ := fun j => if j = category.index then 1 else 0

def LABEL_MAPPING : String → Option ℕ
  | "Normal" => some 0
  | "Attack" => some 1
  | _ => none

def encodeBinaryLabel (label : Option String) : Except PreprocessingError ℕ :=
  match LABEL_MAPPING (label.getD "None") with
  | some n => .ok n
  | none => .error (.networkPreprocessingError .unknownBinaryLabel)

section
variable (fitted : NetworkBehaviorPreprocessor)

def zscore (numeric : Numeric) : Numeric := fun j => (numeric j - fitted.numericMeans j) / fitted.numericScales j

def transform (record : NetworkBehaviorRecord) : Except PreprocessingError Encoded := do
  let (numeric, category) ← validatedProjection record
  .ok (Fin.append (zscore fitted numeric) (oneHot category))

def transformBatch (records : List NetworkBehaviorRecord) : Except PreprocessingError (List Encoded) :=
  records.mapM (transform fitted)

/-- What the loop does to one row of its slice. -/
def scaleRow (row : Encoded) : Encoded := Fin.append (zscore fitted (numericPart row)) (protocolPart row)

/-- `range(0, stop, step)`. -/
def starts (stop step : ℕ) : List ℕ := (List.range ((stop + step - 1) / step)).map (· * step)

def scaleSlice (batchSize : ℕ) (matrix : List Encoded) (start : ℕ) : List Encoded :=
  let stop := min (start + batchSize) matrix.length
  matrix.take start ++ ((matrix.drop start).take (stop - start)).map (scaleRow fitted) ++ matrix.drop stop

def transformUnscaledMatrixInPlace (matrix : List Encoded) (batchSize : ℕ) : List Encoded :=
  (starts matrix.length batchSize).foldl (scaleSlice fitted batchSize) matrix

end

def unscaledRow (record : NetworkBehaviorRecord) : Except PreprocessingError Encoded := do
  let (numeric, category) ← validatedProjection record
  .ok (Fin.append numeric (oneHot category))

def unscaledBatch (records : List NetworkBehaviorRecord) : Except PreprocessingError (List Encoded × List ℕ) := do
  let matrix ← records.mapM unscaledRow
  let labels ← records.mapM fun record => encodeBinaryLabel record.label
  .ok (matrix, labels)

/-- The arrays of one partition, how many rows are written, and the statistics of the training partition. -/
structure Partition where
  matrix : List Encoded
  labels : List ℕ
  offset : ℕ
  statistics : Option (RunningStatistics NUMERIC_WIDTH)

/-- `array[start:start + len(rows)] = rows`. -/
def assignSlice {α : Type} (array : List α) (start : ℕ) (rows : List α) : List α :=
  array.take start ++ rows ++ array.drop (start + rows.length)

def flushPartitionBatch (p : Partition) (records : List NetworkBehaviorRecord) : Except PreprocessingError Partition :=
  if records = [] then .ok p
  else do
    let (encoded, encodedLabels) ← unscaledBatch records
    let stop := p.offset + records.length
    if p.matrix.length < stop then .error (.networkPreprocessingError .assignmentPartitionCountExceeded)
    else .ok { matrix := assignSlice p.matrix p.offset encoded
               labels := assignSlice p.labels p.offset encodedLabels
               offset := stop
               statistics := p.statistics.map fun s => s.update (encoded.map numericPart) }

/-- A partition of `rows` rows, written batch by batch. -/
def writePartition (rows : ℕ) (statistics : Option (RunningStatistics NUMERIC_WIDTH))
    (batches : List (List NetworkBehaviorRecord)) : Except PreprocessingError Partition :=
  batches.foldlM flushPartitionBatch ⟨.replicate rows 0, .replicate rows 0, 0, statistics⟩

/-! ## Scaling in place -/

section
variable {fitted : NetworkBehaviorPreprocessor}

@[simp] theorem protocolPart_append (numeric : Numeric) (block : Fin PROTOCOL_WIDTH → ℚ) :
    protocolPart (Fin.append numeric block) = block :=
  funext fun j => Fin.append_right numeric block j

@[simp] theorem numericPart_append (numeric : Numeric) (block : Fin PROTOCOL_WIDTH → ℚ) :
    numericPart (Fin.append numeric block) = numeric :=
  funext fun j => Fin.append_left numeric block j

theorem scaleRow_unscaled (numeric : Numeric) (category : Protocol) :
    scaleRow fitted (Fin.append numeric (oneHot category)) = Fin.append (zscore fitted numeric) (oneHot category) := by
  rw [scaleRow, numericPart_append, protocolPart_append]

/-- A slice behind rows that are scaled. -/
theorem scaleSlice_scaled {matrix : List Encoded} {start : ℕ} (h : start ≤ matrix.length) (batchSize : ℕ) :
    scaleSlice fitted batchSize ((matrix.take start).map (scaleRow fitted) ++ matrix.drop start) start =
      (matrix.take (min (start + batchSize) matrix.length)).map (scaleRow fitted) ++
        matrix.drop (min (start + batchSize) matrix.length) := by
  have hfront : ((matrix.take start).map (scaleRow fitted)).length = start := by
    rw [List.length_map, List.length_take, min_eq_left h]
  have hlen : ((matrix.take start).map (scaleRow fitted) ++ matrix.drop start).length = matrix.length := by
    rw [List.length_append, hfront, List.length_drop]
    omega
  have hstop : start ≤ min (start + batchSize) matrix.length := by omega
  unfold scaleSlice
  simp only [hlen]
  generalize min (start + batchSize) matrix.length = stop at hstop
  obtain ⟨k, rfl⟩ := Nat.exists_eq_add_of_le hstop
  have hback : ((matrix.take start).map (scaleRow fitted) ++ matrix.drop start).drop (start + k) =
      matrix.drop (start + k) := by
    rw [← List.drop_drop, List.drop_left' hfront, List.drop_drop]
  rw [hback, Nat.add_sub_cancel_left, List.take_left' hfront, List.drop_left' hfront, List.take_add, List.map_append]

/-- **Every row is scaled exactly once**, whatever the batch size. -/
theorem transformInPlace_eq {batchSize : ℕ} (hpos : 0 < batchSize) (matrix : List Encoded) :
    transformUnscaledMatrixInPlace fitted matrix batchSize = matrix.map (scaleRow fitted) := by
  have hrun : ∀ k ≤ (matrix.length + batchSize - 1) / batchSize,
      ((List.range k).map (· * batchSize)).foldl (scaleSlice fitted batchSize) matrix =
        (matrix.take (min (k * batchSize) matrix.length)).map (scaleRow fitted) ++
          matrix.drop (min (k * batchSize) matrix.length) := by
    intro k hk
    induction k with
    | zero => simp
    | succ k ih =>
      have hstart : k * batchSize < matrix.length := by
        have := (Nat.le_div_iff_mul_le hpos).mp hk
        rw [Nat.succ_mul] at this
        omega
      rw [List.range_succ, List.map_append, List.foldl_append, ih (by omega), min_eq_left hstart.le, List.map_singleton,
        List.foldl_cons, List.foldl_nil, scaleSlice_scaled hstart.le, Nat.succ_mul]
  have hall : matrix.length ≤ (matrix.length + batchSize - 1) / batchSize * batchSize := by
    have hdiv := Nat.div_add_mod (matrix.length + batchSize - 1) batchSize
    have hmod := Nat.mod_lt (matrix.length + batchSize - 1) hpos
    rw [Nat.mul_comm] at hdiv
    omega
  rw [transformUnscaledMatrixInPlace, starts, hrun _ le_rfl, min_eq_right hall, List.take_length, List.drop_length,
    List.append_nil]

end

/-! ## Encoding -/

/-- Calls that each check their own argument and stop at the first that fails. -/
theorem mapM_checked {α β ε : Type} {p : α → Prop} [DecidablePred p] {f : α → Except ε β} {g : α → β} {e : ε}
    (hf : ∀ x, f x = if p x then .ok (g x) else .error e) (xs : List α) :
    xs.mapM f = if ∀ x ∈ xs, p x then .ok (xs.map g) else .error e := by
  induction xs with
  | nil => simp [pure, Except.pure]
  | cons x xs ih =>
    rw [List.mapM_cons, hf, ih]
    by_cases hx : p x
    · by_cases hxs : ∀ y ∈ xs, p y
      · rw [if_pos hx, if_pos hxs, if_pos (List.forall_mem_cons.mpr ⟨hx, hxs⟩)]
        rfl
      · rw [if_pos hx, if_neg hxs, if_neg fun h => hxs (List.forall_mem_cons.mp h).2]
        rfl
    · rw [if_neg hx, if_neg fun h => hx (List.forall_mem_cons.mp h).1]
      rfl

def LabelKnown (record : NetworkBehaviorRecord) : Prop := (LABEL_MAPPING (record.label.getD "None")).isSome = true

instance : DecidablePred LabelKnown := fun _ => instDecidableEqBool _ _

def labelOf (record : NetworkBehaviorRecord) : ℕ := (LABEL_MAPPING (record.label.getD "None")).getD 0

def unscaledOf (record : NetworkBehaviorRecord) : Encoded := Fin.append (numericOf record) (oneHot record.protocol)

theorem encodeBinaryLabel_eq (record : NetworkBehaviorRecord) :
    encodeBinaryLabel record.label =
      if LabelKnown record then .ok (labelOf record) else .error (.networkPreprocessingError .unknownBinaryLabel) := by
  by_cases h : LabelKnown record
  · obtain ⟨n, hn⟩ := Option.isSome_iff_exists.mp h
    rw [if_pos h]
    simp [encodeBinaryLabel, labelOf, hn]
  · have hnone := Option.not_isSome_iff_eq_none.mp h
    rw [if_neg h]
    simp [encodeBinaryLabel, hnone]

theorem unscaledRow_eq (record : NetworkBehaviorRecord) :
    unscaledRow record =
      if Projectable record then .ok (unscaledOf record)
      else .error (.networkPreprocessingError .nonFinitePredictor) := by
  rw [unscaledRow, validatedProjection_eq]
  by_cases h : Projectable record
  · rw [if_pos h, if_pos h]
    rfl
  · rw [if_neg h, if_neg h]
    rfl

theorem transform_eq (fitted : NetworkBehaviorPreprocessor) (record : NetworkBehaviorRecord) :
    transform fitted record =
      if Projectable record then .ok (scaleRow fitted (unscaledOf record))
      else .error (.networkPreprocessingError .nonFinitePredictor) := by
  rw [transform, validatedProjection_eq, unscaledOf, scaleRow_unscaled]
  by_cases h : Projectable record
  · rw [if_pos h, if_pos h]
    rfl
  · rw [if_neg h, if_neg h]
    rfl

/-- A batch is encoded when each record is finite and has a label. -/
def Encodable (record : NetworkBehaviorRecord) : Prop := Projectable record ∧ LabelKnown record

instance : DecidablePred Encodable := fun _ => instDecidableAnd

theorem unscaledBatch_toOption (records : List NetworkBehaviorRecord) :
    (unscaledBatch records).toOption =
      if ∀ record ∈ records, Encodable record then some (records.map unscaledOf, records.map labelOf) else none := by
  rw [unscaledBatch, mapM_checked unscaledRow_eq, mapM_checked encodeBinaryLabel_eq]
  by_cases hnumeric : ∀ record ∈ records, Projectable record
  · by_cases hlabel : ∀ record ∈ records, LabelKnown record
    · rw [if_pos hnumeric, if_pos hlabel, if_pos fun r hr => ⟨hnumeric r hr, hlabel r hr⟩]
      rfl
    · have hnot : ¬ ∀ record ∈ records, Encodable record := fun h => hlabel fun r hr => (h r hr).2
      rw [if_pos hnumeric, if_neg hlabel, if_neg hnot]
      rfl
  · have hnot : ¬ ∀ record ∈ records, Encodable record := fun h => hnumeric fun r hr => (h r hr).1
    rw [if_neg hnumeric, if_neg hnot]
    rfl

/-- **Both paths give the same rows**, and the training path only asks for the labels as well. -/
theorem training_path_eq (fitted : NetworkBehaviorPreprocessor) {batchSize : ℕ} (hpos : 0 < batchSize)
    (records : List NetworkBehaviorRecord) :
    (unscaledBatch records).map (fun e => transformUnscaledMatrixInPlace fitted e.1 batchSize) = (do
      let rows ← transformBatch fitted records
      let _ ← records.mapM fun record => encodeBinaryLabel record.label
      .ok rows) := by
  rw [unscaledBatch, transformBatch, mapM_checked unscaledRow_eq, mapM_checked (transform_eq fitted)]
  by_cases hnumeric : ∀ record ∈ records, Projectable record
  · rw [if_pos hnumeric, if_pos hnumeric, Except.ok_bind, Except.ok_bind]
    cases records.mapM fun record => encodeBinaryLabel record.label with
    | error e => rfl
    | ok labels =>
      have hrows : transformUnscaledMatrixInPlace fitted (records.map unscaledOf) batchSize =
          records.map fun record => scaleRow fitted (unscaledOf record) := by
        rw [transformInPlace_eq hpos, List.map_map]
        rfl
      exact congrArg Except.ok hrows
  · rw [if_neg hnumeric, if_neg hnumeric]
    rfl

/-! ## Writing a partition -/

/-- What a partition of `rows` rows holds when `seen` are written. -/
def written (rows : ℕ) (seen : List NetworkBehaviorRecord) : Partition where
  matrix := seen.map unscaledOf ++ .replicate (rows - seen.length) 0
  labels := seen.map labelOf ++ .replicate (rows - seen.length) 0
  offset := seen.length
  statistics := some (.population (seen.map numericOf))

theorem assignSlice_written {α : Type} (seen rows : List α) (n : ℕ) (zero : α) :
    assignSlice (seen ++ .replicate (n - seen.length) zero) seen.length rows =
      seen ++ rows ++ .replicate (n - (seen.length + rows.length)) zero := by
  rw [assignSlice, List.take_left, ← List.drop_drop, List.drop_left, List.drop_replicate]
  congr 2
  omega

theorem eq_ok_of_toOption {α ε : Type} {x : Except ε α} {a : α} (h : x.toOption = some a) : x = .ok a := by
  cases x with
  | error e => cases h
  | ok b => exact congrArg Except.ok (Option.some.inj h)

theorem flush_written {rows : ℕ} {seen records : List NetworkBehaviorRecord}
    (h : seen.length + records.length ≤ rows) :
    (flushPartitionBatch (written rows seen) records).toOption =
      if ∀ record ∈ records, Encodable record then some (written rows (seen ++ records)) else none := by
  have hbatch := unscaledBatch_toOption records
  unfold flushPartitionBatch
  by_cases hnil : records = []
  · subst hnil
    simp [Except.toOption]
  rw [if_neg hnil]
  by_cases hall : ∀ record ∈ records, Encodable record
  · rw [if_pos hall] at hbatch ⊢
    have hfits : ¬ (written rows seen).matrix.length < (written rows seen).offset + records.length := by
      simp only [written, List.length_append, List.length_map, List.length_replicate]
      omega
    have hmatrix := assignSlice_written (seen.map unscaledOf) (records.map unscaledOf) rows 0
    have hlabels := assignSlice_written (seen.map labelOf) (records.map labelOf) rows 0
    have hnumeric : (records.map unscaledOf).map numericPart = records.map numericOf := by
      rw [List.map_map]
      exact List.map_congr_left fun record _ => numericPart_append ..
    rw [List.length_map, List.length_map] at hmatrix hlabels
    rw [eq_ok_of_toOption hbatch, Except.ok_bind]
    simp only [if_neg hfits]
    simp only [written, hmatrix, hlabels, hnumeric, Option.map_some, RunningStatistics.update_population,
      List.map_append, List.length_append, Except.toOption]
  · rw [if_neg hall] at hbatch ⊢
    cases hx : unscaledBatch records with
    | error e => rfl
    | ok e =>
      rw [hx] at hbatch
      cases hbatch

theorem toOption_bind {α β ε : Type} (x : Except ε α) (f : α → Except ε β) :
    (x >>= f).toOption = x.toOption.bind fun a => (f a).toOption := by
  cases x <;> rfl

/-- **Written batch by batch**, a partition is the encoding of all its records together, and the statistics are
those of all their values. -/
theorem writePartition_eq (batches : List (List NetworkBehaviorRecord)) :
    (writePartition batches.flatten.length (some (.zero NUMERIC_WIDTH)) batches).toOption =
      (unscaledBatch batches.flatten).toOption.map fun e =>
        ⟨e.1, e.2, batches.flatten.length, some (.population (e.1.map numericPart))⟩ := by
  have hrun : ∀ (batches : List (List NetworkBehaviorRecord)) (rows : ℕ) (seen : List NetworkBehaviorRecord),
      seen.length + batches.flatten.length ≤ rows →
        (batches.foldlM flushPartitionBatch (written rows seen)).toOption =
          if ∀ record ∈ batches.flatten, Encodable record then some (written rows (seen ++ batches.flatten)) else none := by
    intro batches rows
    induction batches with
    | nil =>
      intro seen _
      simp [Except.toOption, pure, Except.pure]
    | cons batch batches ih =>
      intro seen h
      rw [List.flatten_cons, List.length_append] at h
      rw [List.foldlM_cons, toOption_bind, flush_written (by omega), List.flatten_cons]
      by_cases hbatch : ∀ record ∈ batch, Encodable record
      · have hall : (∀ record ∈ batch ++ batches.flatten, Encodable record) ↔
            ∀ record ∈ batches.flatten, Encodable record :=
          List.forall_mem_append.trans (and_iff_right hbatch)
        rw [if_pos hbatch, Option.bind_some, ih _ (by rw [List.length_append]; omega), List.append_assoc]
        simp only [hall]
      · rw [if_neg hbatch, if_neg fun h => hbatch (List.forall_mem_append.mp h).1]
        rfl
  have hstart : (⟨.replicate batches.flatten.length 0, .replicate batches.flatten.length 0, 0,
      some (.zero NUMERIC_WIDTH)⟩ : Partition) = written batches.flatten.length [] := by
    simp [written, RunningStatistics.population_nil]
  rw [writePartition, hstart, hrun batches _ [] (by simp), unscaledBatch_toOption, List.nil_append]
  by_cases hall : ∀ record ∈ batches.flatten, Encodable record
  · have hnumeric : (batches.flatten.map unscaledOf).map numericPart = batches.flatten.map numericOf := by
      rw [List.map_map]
      exact List.map_congr_left fun record _ => numericPart_append ..
    rw [if_pos hall, if_pos hall, Option.map_some, hnumeric]
    simp [written]
  · rw [if_neg hall, if_neg hall]
    rfl

/-- Exactly one of the protocol columns of a row is set, and it is set to one. -/
def OneProtocol (row : Encoded) : Prop := ∃ j, ∀ k, protocolPart row k = if k = j then 1 else 0

theorem unscaledOf_oneProtocol (record : NetworkBehaviorRecord) : OneProtocol (unscaledOf record) :=
  ⟨record.protocol.index, fun k => congrFun (protocolPart_append _ _) k⟩

/-- **The preprocessing paths agree.** What successive updates compute, however the values are cut into batches;
the fitted state, for every batch size and order; the two paths of a record, for every fitted state and batch
size; and the protocol columns. -/
theorem preprocessing_paths_agree (sqrt : ℚ → ℚ) :
    (∀ (width : ℕ) (batches : List (List (Fin width → ℚ))),
      batches.foldl RunningStatistics.update (.zero width) = .population batches.flatten) ∧
    (∀ (batchSize batchSize' : ℤ) (records records' : List NetworkBehaviorRecord), 0 < batchSize → 0 < batchSize' →
      records.Perm records' → fit sqrt records batchSize = fit sqrt records' batchSize') ∧
    (∀ batches : List (List NetworkBehaviorRecord),
      (writePartition batches.flatten.length (some (.zero NUMERIC_WIDTH)) batches).toOption =
        (unscaledBatch batches.flatten).toOption.map fun e =>
          ⟨e.1, e.2, batches.flatten.length, some (.population (e.1.map numericPart))⟩) ∧
    (∀ (fitted : NetworkBehaviorPreprocessor) (batchSize : ℕ) (records : List NetworkBehaviorRecord), 0 < batchSize →
      (unscaledBatch records).map (fun e => transformUnscaledMatrixInPlace fitted e.1 batchSize) = (do
        let rows ← transformBatch fitted records
        let _ ← records.mapM fun record => encodeBinaryLabel record.label
        .ok rows)) ∧
    (∀ (fitted : NetworkBehaviorPreprocessor) (batchSize : ℕ) (matrix : List Encoded), 0 < batchSize →
      (transformUnscaledMatrixInPlace fitted matrix batchSize).map protocolPart = matrix.map protocolPart) ∧
    ∀ records matrix labels, unscaledBatch records = .ok (matrix, labels) → ∀ row ∈ matrix, OneProtocol row := by
  refine ⟨fun _ batches => RunningStatistics.foldl_update batches, fun _ _ _ _ hpos hpos' h => fit_perm hpos hpos' h,
    writePartition_eq, fun fitted _ records hpos => training_path_eq fitted hpos records, ?_, ?_⟩
  · intro fitted batchSize matrix hpos
    rw [transformInPlace_eq hpos, List.map_map]
    exact List.map_congr_left fun row _ => protocolPart_append ..
  · intro records matrix labels h row hrow
    have hbatch := unscaledBatch_toOption records
    rw [h] at hbatch
    split_ifs at hbatch with hall
    · obtain ⟨rfl, -⟩ := Prod.mk.inj (Option.some.inj hbatch)
      obtain ⟨record, -, rfl⟩ := List.mem_map.mp hrow
      exact unscaledOf_oneProtocol record
    · cases hbatch

end ThreatFusion.Preprocessing
