import ThreatFusion.Adapters.Batch
import ThreatFusion.Adapters.Flows
import ThreatFusion.Py.DateTime
/-
# Which rows end a pass

A reader of a field refuses a text or gives its value. What can raise is the arithmetic between the readers: the
time (`TimeRaises`), the end of the flow (`EndRaises`) and the rates (`RateRaises`). `Aborts` puts them in the
order of the adapters, and `passes_iff` says that a pass is as it should be exactly when no row aborts.
-/
namespace ThreatFusion.Adapters
open Py

/-! ## Exceptions of a block -/

/-- It raises, and not a refusal. -/
def Stops {α : Type} (x : Except AdaptError α) : Prop := ∃ e, x = .error (.raised e)

section
variable {α β : Type}

@[simp] theorem not_stops_ok (a : α) : ¬ Stops (.ok a : Except AdaptError α) := by
  rintro ⟨e, he⟩
  cases he

@[simp] theorem not_stops_sourceRow (source : String) (fields : List String) (reason : String) :
    ¬ Stops (.error (.sourceRowValidationError source fields reason) : Except AdaptError α) := by
  rintro ⟨e, he⟩
  cases he

@[simp] theorem not_stops_validation (errors : List (List String × String)) :
    ¬ Stops (.error (.validationError errors) : Except AdaptError α) := by
  rintro ⟨e, he⟩
  cases he

theorem stops_bind {x : Except AdaptError α} {f : α → Except AdaptError β} :
    Stops (x >>= f) ↔ Stops x ∨ ∃ a, x = .ok a ∧ Stops (f a) := by
  cases x with
  | error e => simp [Stops]
  | ok a => simp

theorem not_stops_bind {x : Except AdaptError α} {f : α → Except AdaptError β} (hx : ¬ Stops x)
    (hf : ∀ a, x = .ok a → ¬ Stops (f a)) : ¬ Stops (x >>= f) := by
  rw [stops_bind]
  rintro (h | ⟨a, ha, h⟩)
  · exact hx h
  · exact hf a ha h

@[simp] theorem stops_calling {x : Except PyException α} : Stops (calling x) ↔ ∃ e, x = .error e := by
  cases x with
  | error e => simp [calling, Stops]
  | ok a => simp [calling]

@[simp] theorem calling_eq_ok {x : Except PyException α} {a : α} : calling x = .ok a ↔ x = .ok a := by
  cases x with
  | error e => simp [calling]
  | ok b => simp [calling]

end

/-! ## Readers -/

section
variable {L : Library} {row : Row String} {source field : String}

theorem requiredValue_calm : ¬ Stops (requiredValue texts row source field) := by
  unfold requiredValue
  cases get texts row field with
  | none => exact not_stops_sourceRow _ _ _
  | some value =>
    refine not_stops_bind (by simp [texts]) fun isna hisna => ?_
    split
    · exact not_stops_sourceRow _ _ _
    · split
      · exact not_stops_sourceRow _ _ _
      · exact not_stops_ok _

theorem requiredAlias_calm (all fields : List String) : ¬ Stops (aliasValue texts row source all fields) := by
  induction fields with
  | nil => exact not_stops_sourceRow _ _ _
  | cons field fields ih =>
    rw [aliasValue]
    cases get texts row field with
    | none => exact ih
    | some value =>
      refine not_stops_bind (by simp [texts]) fun isna hisna => ?_
      split
      · exact ih
      · split
        · exact ih
        · exact not_stops_ok _

theorem requiredString_calm : ¬ Stops (requiredString texts row source field) := by
  refine not_stops_bind requiredValue_calm fun value _ => ?_
  exact not_stops_bind (by simp [texts]) fun text _ => not_stops_ok _

theorem requiredIp_calm : ¬ Stops (requiredIp texts L row source field) := by
  refine not_stops_bind requiredString_calm fun value _ => ?_
  split
  · exact not_stops_ok _
  · exact not_stops_sourceRow _ _ _

theorem toInt_calm (number : Double) (maximum : Option Nat) : ¬ Stops (toInt number source field maximum) := by
  unfold toInt
  split
  · exact not_stops_sourceRow _ _ _
  · dsimp only
    split
    · exact not_stops_sourceRow _ _ _
    · split
      · exact not_stops_sourceRow _ _ _
      · exact not_stops_ok _

/-- On a text, `float` gives a number or `ValueError`. -/
theorem toFloat_texts (value : String) :
    (∃ x, toFloat texts L value = .ok x) ∨ toFloat texts L value = .error .valueError := by
  unfold toFloat
  simp only [texts, Except.ok_bind]
  cases L.parseFloat (strip value) with
  | none => exact .inr rfl
  | some x => exact .inl ⟨x, rfl⟩

theorem requiredInt_calm (maximum : Option Nat) : ¬ Stops (requiredInt texts L row source field maximum) := by
  refine not_stops_bind requiredValue_calm fun value _ => ?_
  rcases toFloat_texts (L := L) value with ⟨x, hx⟩ | hx
  · rw [hx]
    exact toInt_calm x maximum
  · rw [hx]
    exact not_stops_sourceRow _ _ _

theorem requiredFloat_calm : ¬ Stops (requiredFloat texts L row source field) := by
  refine not_stops_bind requiredValue_calm fun value _ => ?_
  rcases toFloat_texts (L := L) value with ⟨x, hx⟩ | hx
  · rw [hx]
    cases x with
    | finite q =>
      dsimp only
      split
      · exact not_stops_ok _
      · exact not_stops_sourceRow _ _ _
    | inf negative => exact not_stops_sourceRow _ _ _
    | nan => exact not_stops_sourceRow _ _ _
  · rw [hx]
    exact not_stops_sourceRow _ _ _

theorem requiredUnswPort_calm : ¬ Stops (requiredUnswPort L row field) := by
  refine not_stops_bind requiredValue_calm fun value _ => ?_
  dsimp only
  split
  · split
    · exact toInt_calm _ _
    · exact not_stops_sourceRow _ _ _
  · split
    · exact requiredInt_calm _
    · exact not_stops_sourceRow _ _ _

/-- A count is that of a float. -/
theorem requiredInt_le_max {maximum : Option Nat} {n : Nat}
    (h : requiredInt texts L row source field maximum = .ok n) : (n : ℚ) ≤ MAX_DOUBLE := by
  obtain ⟨value, -, h⟩ := Except.bind_eq_ok.mp h
  rcases toFloat_texts (L := L) value with ⟨x, hx⟩ | hx
  · rw [hx] at h
    unfold toInt at h
    cases x with
    | finite q =>
      simp only [Double.toRat?] at h
      split at h
      · cases h
      · rename_i hq
        split at h
        · cases h
        · rename_i hbounds
          obtain rfl := Except.ok.inj h
          rw [not_not] at hq
          rw [not_or, not_lt] at hbounds
          have hcast : ((truncate q.1).toNat : ℚ) = q.1 := by
            rw [← Int.cast_natCast, Int.toNat_of_nonneg hbounds.1]
            exact hq.symm
          rw [hcast]
          exact (le_abs_self _).trans q.2
    | inf negative => cases h
    | nan => cases h
  · rw [hx] at h
    cases h

end

/-- The readers of a source refuse, and raise nothing else. -/
structure Columns.Calm (c : Columns) : Prop where
  timestamp : ∀ row, ¬ Stops (c.timestamp row)
  label : ∀ row, ¬ Stops (c.label row)
  port : ∀ row field, ¬ Stops (c.port row field)

theorem unswColumns_calm (L : Library) : (unswColumns L).Calm where
  timestamp _ := not_stops_bind (requiredAlias_calm _ _) fun _ _ => not_stops_ok _
  label _ := not_stops_bind (requiredInt_calm _) fun _ _ => not_stops_ok _
  port _ _ := requiredUnswPort_calm

theorem cicColumns_calm (L : Library) : (cicColumns L).Calm where
  timestamp _ := not_stops_ok _
  label _ := not_stops_bind requiredString_calm fun _ _ => not_stops_ok _
  port _ _ := requiredInt_calm _

/-! ## What can raise -/

section
variable (L : Library)

/-- `fromtimestamp` takes the number for a time and fails on it (`OSError` on a platform). -/
def EpochRaises (text : String) : Prop :=
  L.isdigit (dropPoint text) = true ∧ ∃ x e, L.parseFloat text = some x ∧ L.fromtimestamp x = .error e ∧
    e ≠ .overflowError ∧ e ≠ .valueError

/-- An ISO time with an offset that is no time of the years 1 to 9999 in UTC. -/
def ShiftRaises (text : String) : Prop :=
  parseEpoch L text = .ok none ∧ ∃ wall offset, L.fromisoformat text = some ⟨wall, some offset⟩ ∧
    ¬ (0 ≤ wall.1 - offset ∧ wall.1 - offset ≤ MAX_MICROS)

def TimeRaises (value : Option String) : Prop :=
  ∃ text, value = some text ∧ isBlank text = false ∧ (EpochRaises L (strip text) ∨ ShiftRaises L (strip text))

/-- The duration is too long for a `timedelta`, or the flow ends after the year 9999. -/
def EndRaises (start : Stamp) : Double → Prop
  | .finite durationMs => ∀ delta, timedeltaMillis durationMs.1 = .ok delta →
      ¬ (0 ≤ start.wall.1 + delta ∧ start.wall.1 + delta ≤ MAX_MICROS)
  | _ => True

/-- The total is beyond the floats, or the duration is nothing in seconds. -/
def RateRaises (total : Nat) (durationMs : Double) : Prop :=
  ∃ q, durationMs.toRat? = some q ∧ 0 < q ∧ (MAX_DOUBLE < |roundDouble total| ∨ roundDouble (q / 1000) = 0)

/-- The row gets to a step that raises. -/
def Aborts (c : Columns) (row : Row String) : Prop :=
  ∃ durationMs counts, readCounts L c row = .ok (durationMs, counts) ∧
    ((∃ field value, c.timestamp row = .ok (field, value) ∧ TimeRaises L value) ∨
      ∃ start, readStart L c row = .ok start ∧
        (EndRaises start durationMs ∨
          (∃ e, readEndpoints L c row = .ok e) ∧
            (RateRaises (counts.fwdPackets + counts.bwdPackets) durationMs ∨
              RateRaises (counts.fwdBytes + counts.bwdBytes) durationMs)))

variable {L}

theorem parseEpoch_error {text : String} : (∃ e, parseEpoch L text = .error e) ↔ EpochRaises L text := by
  unfold parseEpoch EpochRaises
  by_cases hdigit : L.isdigit (dropPoint text) = true
  · rw [if_pos hdigit]
    cases hx : L.parseFloat text with
    | none => simp
    | some x =>
      cases hstamp : L.fromtimestamp x with
      | ok wall => simp [hstamp]
      | error e => cases e <;> simp [hdigit, hstamp]
  · rw [if_neg hdigit]
    simp [hdigit]

theorem toUtc_error {stamp : Stamp} : (∃ e, toUtc stamp = .error e) ↔
    ∃ offset, stamp.utcoffset = some offset ∧ ¬ (0 ≤ stamp.wall.1 - offset ∧ stamp.wall.1 - offset ≤ MAX_MICROS) := by
  unfold toUtc wall?
  cases stamp.utcoffset with
  | none => simp
  | some offset =>
    by_cases h : 0 ≤ stamp.wall.1 - offset ∧ stamp.wall.1 - offset ≤ MAX_MICROS
    · simp only [dif_pos h]
      constructor
      · rintro ⟨e, he⟩
        cases he
      · rintro ⟨offset', hoffset, hrange⟩
        obtain rfl := Option.some.inj hoffset
        exact absurd h hrange
    · simp only [dif_neg h]
      exact ⟨fun _ => ⟨offset, rfl, h⟩, fun _ => ⟨_, rfl⟩⟩

theorem stops_parseTimestampText {text source field : String} :
    Stops (parseTimestampText L text source field) ↔ EpochRaises L text ∨ ShiftRaises L text := by
  unfold parseTimestampText
  rw [stops_bind, stops_calling, parseEpoch_error]
  refine or_congr_right ⟨?_, ?_⟩
  · rintro ⟨epoch, hepoch, h⟩
    rw [calling_eq_ok] at hepoch
    cases epoch with
    | some stamp => exact absurd h (not_stops_ok _)
    | none =>
      cases hiso : L.fromisoformat text with
      | some stamp =>
        simp only [hiso, stops_calling, toUtc_error] at h
        obtain ⟨offset, hoffset, hrange⟩ := h
        obtain ⟨wall, utcoffset⟩ := stamp
        exact ⟨hepoch, wall, offset, by rw [hiso]; exact congrArg _ (congrArg _ hoffset), hrange⟩
      | none =>
        simp only [hiso] at h
        split at h
        · exact absurd h (not_stops_ok _)
        · exact absurd h (not_stops_sourceRow _ _ _)
  · rintro ⟨hepoch, wall, offset, hiso, hrange⟩
    refine ⟨none, calling_eq_ok.mpr hepoch, ?_⟩
    simp only [hiso, stops_calling, toUtc_error]
    exact ⟨offset, rfl, hrange⟩

theorem stops_parseRequiredTimestamp {value : Option String} {source field : String} :
    Stops (parseRequiredTimestamp texts L value source field) ↔ TimeRaises L value := by
  unfold TimeRaises
  cases value with
  | none => simp [parseRequiredTimestamp]
  | some text =>
    have hread : parseRequiredTimestamp texts L (some text) source field =
        if isBlank text then .error (.sourceRowValidationError source [field] "required timestamp is missing")
        else parseTimestampText L (strip text) source field := rfl
    rw [hread]
    cases hblank : isBlank text with
    | true => simp [hblank]
    | false =>
      rw [if_neg Bool.false_ne_true, stops_parseTimestampText]
      simp [hblank]

theorem stops_endTimestamp {start : Stamp} {durationMs : Double} :
    (∃ e, endTimestamp start durationMs = .error e) ↔ EndRaises start durationMs := by
  cases durationMs with
  | inf negative => simp [endTimestamp, EndRaises]
  | nan => simp [endTimestamp, EndRaises]
  | finite q =>
    simp only [endTimestamp, EndRaises]
    cases hdelta : timedeltaMillis q.1 with
    | error e => simp
    | ok delta =>
      rw [Except.ok_bind]
      unfold wall?
      by_cases h : 0 ≤ start.wall.1 + delta ∧ start.wall.1 + delta ≤ MAX_MICROS
      · simp only [dif_pos h]
        constructor
        · rintro ⟨e, he⟩
          cases he
        · intro hrange
          exact absurd h (hrange delta rfl)
      · simp only [dif_neg h]
        refine ⟨fun _ delta' hdelta' => ?_, fun _ => ⟨_, rfl⟩⟩
        obtain rfl := Except.ok.inj hdelta'
        exact h

theorem stops_ratePerSecond {total : Nat} {q : { q : ℚ // |q| ≤ MAX_DOUBLE }} :
    (∃ e, ratePerSecond total (.finite q) = .error e) ↔ RateRaises total (.finite q) := by
  unfold ratePerSecond RateRaises
  simp only [Double.toRat?, Option.some.injEq, exists_eq_left']
  by_cases hq : q.1 ≤ 0
  · rw [if_pos hq]
    simp [not_lt.mpr hq]
  · rw [if_neg hq]
    unfold Double.ofInt
    by_cases htotal : |roundDouble ((total : ℤ) : ℚ)| ≤ MAX_DOUBLE
    · rw [dif_pos htotal]
      rw [Int.cast_natCast] at htotal
      by_cases hseconds : roundDouble (q.1 / 1000) = 0
      · simp [hseconds, not_le.mp hq]
      · simp [hseconds, htotal]
    · rw [dif_neg htotal]
      rw [Int.cast_natCast] at htotal
      simp [not_le.mp hq, not_le.mp htotal]

end

/-- Bytes that are a float divide to a float. -/
theorem meanSize_ok {bytes : Nat} (h : (bytes : ℚ) ≤ MAX_DOUBLE) (packets : Nat) :
    ∃ x, meanSize bytes packets = .ok x := by
  unfold meanSize
  by_cases hzero : packets = 0
  · exact ⟨_, if_pos hzero⟩
  · rw [if_neg hzero]
    have hle : (bytes : ℚ) / packets ≤ bytes := by
      apply div_le_self (by positivity)
      exact_mod_cast Nat.one_le_iff_ne_zero.mpr hzero
    have hround := roundDouble_le_max (by positivity) (hle.trans h)
    unfold Double.ofRat
    rw [dif_pos hround]
    exact ⟨_, rfl⟩

/-! ## A row -/

section
variable {L : Library} {c : Columns} {row : Row String}

theorem readCounts_calm : ¬ Stops (readCounts L c row) := by
  refine not_stops_bind requiredFloat_calm fun duration _ => ?_
  refine not_stops_bind (requiredInt_calm _) fun fwdPackets _ => ?_
  refine not_stops_bind (requiredInt_calm _) fun bwdPackets _ => ?_
  refine not_stops_bind (requiredInt_calm _) fun fwdBytes _ => ?_
  exact not_stops_bind (requiredInt_calm _) fun bwdBytes _ => not_stops_ok _

theorem readCounts_le_max {durationMs : Double} {counts : Counts}
    (h : readCounts L c row = .ok (durationMs, counts)) :
    (counts.fwdBytes : ℚ) ≤ MAX_DOUBLE ∧ (counts.bwdBytes : ℚ) ≤ MAX_DOUBLE := by
  unfold readCounts at h
  simp only [Except.bind_eq_ok] at h
  obtain ⟨_, -, _, -, _, -, fwdBytes, hfwd, bwdBytes, hbwd, h⟩ := h
  obtain ⟨-, rfl⟩ := Prod.mk.inj (Except.ok.inj h)
  exact ⟨requiredInt_le_max hfwd, requiredInt_le_max hbwd⟩

theorem readEndpoints_calm (hc : c.Calm) : ¬ Stops (readEndpoints L c row) := by
  refine not_stops_bind (hc.label row) fun label _ => ?_
  refine not_stops_bind (requiredAlias_calm _ _) fun flowId _ => ?_
  refine not_stops_bind requiredIp_calm fun srcIp _ => ?_
  refine not_stops_bind requiredIp_calm fun dstIp _ => ?_
  refine not_stops_bind (hc.port row _) fun srcPort _ => ?_
  refine not_stops_bind (hc.port row _) fun dstPort _ => ?_
  exact not_stops_bind requiredString_calm fun protocol _ => not_stops_ok _

theorem stops_readStart (hc : c.Calm) :
    Stops (readStart L c row) ↔ ∃ field value, c.timestamp row = .ok (field, value) ∧ TimeRaises L value := by
  unfold readStart
  rw [stops_bind]
  constructor
  · rintro (h | ⟨⟨field, value⟩, hok, h⟩)
    · exact absurd h (hc.timestamp row)
    · exact ⟨field, value, hok, stops_parseRequiredTimestamp.mp h⟩
  · rintro ⟨field, value, hok, h⟩
    exact .inr ⟨(field, value), hok, stops_parseRequiredTimestamp.mpr h⟩

theorem validateFlow_calm (flow : NetworkFlow) : ¬ Stops (validateFlow flow) := by
  unfold validateFlow
  split_ifs <;> simp

/-- Only the rates can raise. -/
theorem stops_buildFlow {q : { q : ℚ // |q| ≤ MAX_DOUBLE }} {counts : Counts} {start stop : Stamp} {e : Endpoints}
    (hcounts : (counts.fwdBytes : ℚ) ≤ MAX_DOUBLE ∧ (counts.bwdBytes : ℚ) ≤ MAX_DOUBLE) :
    Stops (buildFlow c (.finite q) counts start stop e) ↔
      RateRaises (counts.fwdPackets + counts.bwdPackets) (.finite q) ∨
        RateRaises (counts.fwdBytes + counts.bwdBytes) (.finite q) := by
  unfold buildFlow
  rw [stops_bind, stops_calling, stops_ratePerSecond]
  obtain ⟨fwdMean, hfwd⟩ := meanSize_ok hcounts.1 counts.fwdPackets
  obtain ⟨bwdMean, hbwd⟩ := meanSize_ok hcounts.2 counts.bwdPackets
  have hrest (packets bytes : Double) : ¬ Stops (do
      let fwdMean ← calling (meanSize counts.fwdBytes counts.fwdPackets)
      let bwdMean ← calling (meanSize counts.bwdBytes counts.bwdPackets)
      validateFlow
        { sourceDataset := c.sourceDataset, flowId := e.flowId, timestampStart := start, timestampEnd := stop
          srcIp := e.srcIp, dstIp := e.dstIp, srcPort := e.srcPort, dstPort := e.dstPort, protocol := e.protocol
          durationMs := .finite q, counts := counts, packetsPerSecond := packets
          bytesPerSecond := bytes, fwdPacketLengthMean := fwdMean, bwdPacketLengthMean := bwdMean
          label := e.label, attackCategory := e.attackCategory }) := by
    rw [hfwd, hbwd]
    exact validateFlow_calm _
  by_cases hpackets : RateRaises (counts.fwdPackets + counts.bwdPackets) (.finite q)
  · exact ⟨fun _ => .inl hpackets, fun _ => .inl hpackets⟩
  · simp only [hpackets, false_or]
    cases hrate : ratePerSecond (counts.fwdPackets + counts.bwdPackets) (.finite q) with
    | error x => exact absurd (stops_ratePerSecond.mp ⟨x, hrate⟩) hpackets
    | ok rate =>
      constructor
      · rintro ⟨rate', -, h⟩
        rw [stops_bind, stops_calling, stops_ratePerSecond] at h
        rcases h with h | ⟨_, -, h⟩
        · exact h
        · exact absurd h (hrest rate' _)
      · intro h
        refine ⟨rate, rfl, ?_⟩
        rw [stops_bind, stops_calling, stops_ratePerSecond]
        exact .inl h

theorem raises_iff (hc : c.Calm) : Stops (adaptRow L c row) ↔ Aborts L c row := by
  unfold adaptRow Aborts
  rw [stops_bind]
  constructor
  · rintro (h | ⟨⟨durationMs, counts⟩, hcounts, h⟩)
    · exact absurd h readCounts_calm
    · refine ⟨durationMs, counts, hcounts, ?_⟩
      simp only [stops_bind, stops_calling, calling_eq_ok, stops_readStart hc, stops_endTimestamp] at h
      rcases h with h | ⟨start, hstart, h | ⟨stop, hstop, h | ⟨e, he, h⟩⟩⟩
      · exact .inl h
      · exact .inr ⟨start, hstart, .inl h⟩
      · exact absurd h (readEndpoints_calm hc)
      · cases durationMs with
        | finite q => exact .inr ⟨start, hstart, .inr ⟨⟨e, he⟩, (stops_buildFlow (readCounts_le_max hcounts)).mp h⟩⟩
        | inf negative => cases hstop
        | nan => cases hstop
  · rintro ⟨durationMs, counts, hcounts, h⟩
    refine .inr ⟨(durationMs, counts), hcounts, ?_⟩
    simp only [stops_bind, stops_calling, calling_eq_ok, stops_readStart hc, stops_endTimestamp]
    rcases h with h | ⟨start, hstart, h | ⟨⟨e, he⟩, h⟩⟩
    · exact .inl h
    · exact .inr ⟨start, hstart, .inl h⟩
    · refine .inr ⟨start, hstart, ?_⟩
      -- The end may raise as well, before the rates are reached.
      cases hstop : endTimestamp start durationMs with
      | error x => exact .inl (stops_endTimestamp.mp ⟨x, hstop⟩)
      | ok stop =>
        refine .inr ⟨stop, rfl, .inr ⟨e, he, ?_⟩⟩
        cases durationMs with
        | finite q => exact (stops_buildFlow (readCounts_le_max hcounts)).mpr h
        | inf negative => cases hstop
        | nan => cases hstop

end

/-- **A pass is as it should be exactly when no row aborts**, for both sources. -/
theorem passes_iff (L : Library) (source : String) (limit : Nat) (rows : List (Row String)) :
    (PassHolds (adaptUnswRow L) source limit rows ↔ ∀ row ∈ rows, ¬ Aborts L (unswColumns L) row) ∧
      (PassHolds (adaptCicRow L) source limit rows ↔ ∀ row ∈ rows, ¬ Aborts L (cicColumns L) row) := by
  constructor
  · rw [passHolds_iff]
    exact forall₂_congr fun row _ => not_congr (raises_iff (unswColumns_calm L))
  · rw [passHolds_iff]
    exact forall₂_congr fun row _ => not_congr (raises_iff (cicColumns_calm L))

/-! ## A row that ends a pass -/

/-- `float` on decimal digits and on one other text; `fromtimestamp` on the whole seconds of three centuries. -/
def flowLibrary : Library where
  isdigit text := !text.toList.isEmpty && text.toList.all Char.isDigit
  parseFloat text :=
    if text = "1e20" then some (.ofRat 100000000000000000000)
    else (parseDigits text.toList).map fun n => .ofRat n
  fromtimestamp
    | .finite q => match wall? (DateTime.epochOrdinal * 86400000000 - 86400000000 + ⌊q.1⌋ * 1000000) with
      | some wall => .ok wall
      | none => .error .valueError
    | .inf _ => .error .overflowError
    | .nan => .error .valueError
  fromisoformat _ := none
  toDatetime _ := none
  isoformat _ := ""
  isIpAddress text := text == "59.166.0.0" || text == "149.171.126.6"

def unswRow (duration : String) : Row String := fun key =>
  [("srcip", "59.166.0.0"), ("sport", "1390"), ("dstip", "149.171.126.6"), ("dsport", "53"), ("proto", "udp"),
    ("dur", duration), ("sbytes", "132"), ("dbytes", "164"), ("spkts", "2"), ("dpkts", "2"),
    ("stime", "1421927414"), ("label", "0"), ("flow_id", "UNSW-NB15_1:1")].lookup key

example : (adaptUnswRow flowLibrary (unswRow "1")).isOk = true := by decide +kernel

/-- **One long duration ends the pass**: `timedelta(milliseconds=1e23)` raises `OverflowError`. -/
theorem long_duration_ends_pass :
    adaptUnswRow flowLibrary (unswRow "1e20") = .error (.raised .overflowError) ∧
      ¬ PassHolds (adaptUnswRow flowLibrary) "unsw_nb15" 20 [unswRow "1e20", unswRow "1"] := by
  have hraised : adaptUnswRow flowLibrary (unswRow "1e20") = .error (.raised .overflowError) := by decide +kernel
  refine ⟨hraised, fun hholds => ?_⟩
  exact (passHolds_iff _ _ _).mp hholds _ List.mem_cons_self ⟨_, hraised⟩

end ThreatFusion.Adapters
