import ThreatFusion.Risk.MultiSignal
import Mathlib.Tactic.FieldSimp
import Mathlib.Tactic.Linarith
/-
# Missing evidence is not benign evidence

The score is the weighted mean of the available signals, times 100: a slot without a signal takes its weight
out of the mean. The mean is `Finset.centerMass`, over the available slots.

* `sums_weightedSum`, `sums_denom`: the loop computes the two sums.
* `standardize_passes`: a sequence in any order, or a mapping in any of its forms, gives the same signals.
* `missing_evidence`: the laws.
-/
namespace ThreatFusion.Risk
open Py

variable {M : Type}

/-! ## The abstract score -/

def scoreAt (m : ObservationMap M) (slot : Slot) : Option ℚ := (m slot).bind (·.score?)

def availableSlots (m : ObservationMap M) : Finset Slot :=
  (CANONICAL_SIGNAL_SLOTS.filter fun slot => (scoreAt m slot).isSome).toFinset

/-- The weighted mean of the available scores, times 100. -/
def risk (weights : Slot → ℚ) (m : ObservationMap M) : ℚ :=
  100 * (availableSlots m).centerMass weights fun slot => (scoreAt m slot).getD 0

def totalWeight (weights : Slot → ℚ) (m : ObservationMap M) : ℚ := ∑ slot ∈ availableSlots m, weights slot

/-- The observations by slot. -/
def mapOf (items : List (SignalObservation M)) : ObservationMap M := fun slot => items.find? (·.slot = slot)

/-- A value of a mapping that stands for the observation. -/
inductive Encodes (o : SignalObservation M) : MappingValue M → Prop where
  | observation : Encodes o (.observation o)
  | fields (status : Option String) (score : Option FloatOf) (reason : Option String) (metadata : Option M)
    (h : SignalObservation.new ⟨o.slot.text, status.getD "AVAILABLE", score, reason, metadata⟩ = .ok o) :
    Encodes o (.fields status score reason metadata)
  | number (q : ℚ) (h : o.score? = some q) : Encodes o (.number (.finite q))

/-- The three ways to pass a set of observations. -/
inductive Passes (items : List (SignalObservation M)) : Observations M → Prop where
  | sequence (items' : List (SignalObservation M)) (perm : items'.Perm items) : Passes items (.sequence (items'.map some))
  | mapping (items' : List (SignalObservation M)) (entries : List (String × MappingValue M)) (perm : items'.Perm items)
    (h : List.Forall₂ (fun o e => e.1 = o.slot.text ∧ Encodes o e.2) items' entries) : Passes items (.mapping entries)

/-! ## The loop -/

theorem mem_canonical (slot : Slot) : slot ∈ CANONICAL_SIGNAL_SLOTS := by cases slot <;> decide

theorem canonical_nodup : CANONICAL_SIGNAL_SLOTS.Nodup := by decide

theorem slotOf?_text (slot : Slot) : slotOf? slot.text = some slot := by cases slot <;> decide

theorem mem_availableSlots {m : ObservationMap M} {slot : Slot} :
    slot ∈ availableSlots m ↔ (scoreAt m slot).isSome = true := by
  simp [availableSlots, mem_canonical]

theorem resolve_signal (m : ObservationMap M) (slot : Slot) : (resolve m slot).score? = scoreAt m slot := by
  unfold resolve scoreAt
  cases m slot <;> rfl

/-- One round of the loop. -/
theorem signalStep_sums (weights : Slot → ℚ) (m : ObservationMap M) (s : Sums M) (slot : Slot) :
    (signalStep weights m s slot).weightedSum =
        s.weightedSum + (if (scoreAt m slot).isSome then weights slot * (scoreAt m slot).getD 0 else 0) ∧
      (signalStep weights m s slot).effectiveWeightDenom =
        s.effectiveWeightDenom + (if (scoreAt m slot).isSome then weights slot else 0) ∧
      ((signalStep weights m s slot).available = [] ↔ s.available = [] ∧ (scoreAt m slot).isSome = false) := by
  have h := resolve_signal m slot
  unfold signalStep
  unfold SignalObservation.score? at h
  cases hsignal : (resolve m slot).signal with
  | available score =>
    simp only [hsignal] at h
    simp [← h]
  | unavailable reason =>
    simp only [hsignal] at h
    simp [← h]

theorem foldl_sums (weights : Slot → ℚ) (m : ObservationMap M) (slots : List Slot) (s : Sums M) :
    (slots.foldl (signalStep weights m) s).weightedSum = s.weightedSum +
        ((slots.filter fun slot => (scoreAt m slot).isSome).map fun slot => weights slot * (scoreAt m slot).getD 0).sum ∧
      (slots.foldl (signalStep weights m) s).effectiveWeightDenom = s.effectiveWeightDenom +
        ((slots.filter fun slot => (scoreAt m slot).isSome).map weights).sum ∧
      ((slots.foldl (signalStep weights m) s).available = [] ↔
        s.available = [] ∧ slots.filter (fun slot => (scoreAt m slot).isSome) = []) := by
  induction slots generalizing s with
  | nil => simp
  | cons slot slots ih =>
    obtain ⟨hsum, hdenom, havailable⟩ := signalStep_sums weights m s slot
    obtain ⟨ihsum, ihdenom, ihavailable⟩ := ih (signalStep weights m s slot)
    rw [List.foldl_cons, ihsum, ihdenom, ihavailable, hsum, hdenom, havailable]
    cases hscore : (scoreAt m slot).isSome with
    | true => simp [hscore, add_assoc]
    | false => simp [hscore]

theorem sums_eq (weights : Slot → ℚ) (m : ObservationMap M) :
    (sums weights m).weightedSum = ∑ slot ∈ availableSlots m, weights slot * (scoreAt m slot).getD 0 ∧
      (sums weights m).effectiveWeightDenom = totalWeight weights m ∧
      ((sums weights m).available = [] ↔ availableSlots m = ∅) := by
  have hnodup := canonical_nodup.filter fun slot => (scoreAt m slot).isSome
  obtain ⟨hsum, hdenom, havailable⟩ := foldl_sums weights m CANONICAL_SIGNAL_SLOTS {}
  refine ⟨?_, ?_, ?_⟩
  · rw [availableSlots, List.sum_toFinset _ hnodup]
    simpa [sums] using hsum
  · rw [totalWeight, availableSlots, List.sum_toFinset _ hnodup]
    simpa [sums] using hdenom
  · rw [availableSlots, List.toFinset_eq_empty_iff]
    simpa [sums] using havailable

/-! ## Weights -/

theorem setWeights_pos {items : List (String × FloatOf)} {weights w : Slot → ℚ} (hpos : ∀ slot, 0 < weights slot)
    (h : setWeights items weights = .ok w) : ∀ slot, 0 < w slot := by
  induction items generalizing weights with
  | nil => exact Except.ok.inj h ▸ hpos
  | cons item items ih =>
    obtain ⟨text, value⟩ := item
    rw [setWeights] at h
    split at h
    · cases h
    · rename_i slot _
      obtain ⟨weight, hweight, hrest⟩ := Except.bind_eq_ok.1 h
      have hposWeight : 0 < weight := by
        unfold readWeight at hweight
        split at hweight
        · cases hweight
        · split at hweight
          · rename_i hq
            exact Except.ok.inj hweight ▸ hq
          · cases hweight
        all_goals cases hweight
      refine ih (fun slot' => ?_) hrest
      by_cases hslot : slot' = slot
      · rw [hslot, Function.update_self]
        exact hposWeight
      · rw [Function.update_of_ne hslot]
        exact hpos slot'

theorem validateWeights_pos {custom : CustomWeights} {w : Slot → ℚ} (h : validateWeights custom = .ok w) :
    ∀ slot, 0 < w slot := by
  have hdefault : ∀ slot, 0 < DEFAULT_SIGNAL_WEIGHTS slot := by
    intro slot
    cases slot <;> norm_num [DEFAULT_SIGNAL_WEIGHTS]
  cases custom with
  | absent => exact Except.ok.inj h ▸ hdefault
  | noMapping => cases h
  | mapping items => exact setWeights_pos hdefault h

theorem setWeights_ok {items : List (String × FloatOf)} (weights : Slot → ℚ)
    (h : ∀ e ∈ items, (∃ slot, slotOf? e.1 = some slot) ∧ ∃ q, e.2 = .finite q ∧ 0 < q) :
    ∃ w, setWeights items weights = .ok w := by
  induction items generalizing weights with
  | nil => exact ⟨weights, rfl⟩
  | cons item items ih =>
    obtain ⟨text, value⟩ := item
    obtain ⟨⟨slot, hslot⟩, q, rfl, hq⟩ := h (text, value) List.mem_cons_self
    obtain ⟨w, hw⟩ := ih (Function.update weights slot q) fun e he => h e (List.mem_cons_of_mem _ he)
    refine ⟨w, ?_⟩
    rw [setWeights]
    simp only [hslot, readWeight, hq, if_true, Except.ok_bind]
    exact hw

/-! ## The laws of the mean -/

section
variable {weights : Slot → ℚ} {m : ObservationMap M}

theorem scoreAt_bounds {slot : Slot} {s : ℚ} (h : scoreAt m slot = some s) : 0 ≤ s ∧ s ≤ 1 := by
  obtain ⟨o, -, ho⟩ := Option.bind_eq_some_iff.1 h
  unfold SignalObservation.score? at ho
  split at ho
  · rename_i score _
    rw [← Option.some.inj ho]
    exact score.2
  · cases ho

theorem totalWeight_pos (hw : ∀ slot, 0 < weights slot) (hne : (availableSlots m).Nonempty) :
    0 < totalWeight weights m := Finset.sum_pos (fun slot _ => hw slot) hne

theorem risk_eq (weights : Slot → ℚ) (m : ObservationMap M) :
    risk weights m = 100 * ((∑ slot ∈ availableSlots m, weights slot * (scoreAt m slot).getD 0) / totalWeight weights m) := by
  rw [risk, Finset.centerMass, totalWeight, div_eq_inv_mul]
  simp only [smul_eq_mul]

/-- **Between the smallest and the largest available score.** -/
theorem risk_between (hw : ∀ slot, 0 < weights slot) (hne : (availableSlots m).Nonempty) {lo hi : ℚ}
    (h : ∀ slot s, scoreAt m slot = some s → lo ≤ s ∧ s ≤ hi) : 100 * lo ≤ risk weights m ∧ risk weights m ≤ 100 * hi := by
  have hmem : (availableSlots m).centerMass weights (fun slot => (scoreAt m slot).getD 0) ∈ Set.Icc lo hi := by
    refine Convex.centerMass_mem (convex_Icc lo hi) (fun slot _ => (hw slot).le) (totalWeight_pos hw hne) ?_
    intro slot hslot
    obtain ⟨s, hs⟩ := Option.isSome_iff_exists.1 (mem_availableSlots.1 hslot)
    rw [hs]
    exact h slot s hs
  obtain ⟨hlo, hhi⟩ := hmem
  exact ⟨mul_le_mul_of_nonneg_left hlo (by norm_num), mul_le_mul_of_nonneg_left hhi (by norm_num)⟩

theorem risk_range (hw : ∀ slot, 0 < weights slot) (hne : (availableSlots m).Nonempty) :
    0 ≤ risk weights m ∧ risk weights m ≤ 100 := by
  have h := risk_between hw hne fun slot s hs => scoreAt_bounds hs
  simpa using h

/-- Only the scores count. -/
theorem risk_congr (weights : Slot → ℚ) {m' : ObservationMap M} (h : ∀ slot, scoreAt m slot = scoreAt m' slot) :
    risk weights m = risk weights m' ∧ totalWeight weights m = totalWeight weights m' ∧
      availableSlots m = availableSlots m' := by
  have hscore : scoreAt m = scoreAt m' := funext h
  simp only [risk, totalWeight, availableSlots, hscore, and_self]

theorem risk_scaled {weights' : Slot → ℚ} {k : ℚ} (hk : 0 < k) (h : ∀ slot, weights' slot = k * weights slot) :
    risk weights' m = risk weights m := by
  have hsmul : weights' = k • weights := funext h
  rw [risk, risk, hsmul, Finset.centerMass_smul_left _ _ hk.ne']

/-- **A larger score gives no smaller risk.** -/
theorem risk_mono {m' : ObservationMap M} (hw : ∀ slot, 0 < weights slot) (hsame : availableSlots m = availableSlots m')
    (h : ∀ slot, (scoreAt m slot).getD 0 ≤ (scoreAt m' slot).getD 0) : risk weights m ≤ risk weights m' := by
  rw [risk_eq, risk_eq, totalWeight, totalWeight, hsame]
  refine mul_le_mul_of_nonneg_left (div_le_div_of_nonneg_right ?_ ?_) (by norm_num)
  · exact Finset.sum_le_sum fun slot _ => mul_le_mul_of_nonneg_left (h slot) (hw slot).le
  · exact Finset.sum_nonneg fun slot _ => (hw slot).le

/-- **A new signal moves the score part of the way to its own.** -/
theorem risk_added {m' : ObservationMap M} (hw : ∀ slot, 0 < weights slot) (hne : (availableSlots m).Nonempty)
    {slot : Slot} {s : ℚ} (hnew : scoreAt m slot = none) (hs : scoreAt m' slot = some s)
    (hothers : ∀ slot', slot' ≠ slot → scoreAt m' slot' = scoreAt m slot') :
    ∃ t, 0 < t ∧ t < 1 ∧ risk weights m' = risk weights m + t * (100 * s - risk weights m) := by
  have hpos := totalWeight_pos hw hne
  have hnot : slot ∉ availableSlots m := by
    rw [mem_availableSlots, hnew]
    exact nofun
  have hinsert : availableSlots m' = insert slot (availableSlots m) := by
    ext slot'
    rw [Finset.mem_insert, mem_availableSlots, mem_availableSlots]
    by_cases hslot : slot' = slot
    · simp [hslot, hs]
    · simp [hslot, hothers slot' hslot]
  have hold : (availableSlots m).centerMass weights (fun slot => (scoreAt m' slot).getD 0) =
      (availableSlots m).centerMass weights fun slot => (scoreAt m slot).getD 0 := by
    simp only [Finset.centerMass]
    congr 1
    refine Finset.sum_congr rfl fun slot' hslot' => ?_
    rw [hothers slot' fun heq => hnot (heq ▸ hslot')]
  refine ⟨weights slot / (weights slot + totalWeight weights m), ?_, ?_, ?_⟩
  · have := hw slot
    positivity
  · rw [div_lt_one (by have := hw slot; positivity)]
    linarith
  · have hsum : weights slot + totalWeight weights m ≠ 0 := by
      have := hw slot
      positivity
    rw [risk, hinsert, Finset.centerMass_insert _ _ _ hnot hpos.ne', hold, hs, risk]
    simp only [smul_eq_mul, Option.getD_some]
    rw [← totalWeight]
    field_simp
    ring

end

/-! ## The observations -/

/-- What decides the score at a slot: the signal of the last observation that was put there. -/
def signalOf (m : ObservationMap M) (slot : Slot) : Option Signal := (m slot).map (·.signal)

theorem scoreAt_congr {m m' : ObservationMap M} {slot : Slot} (h : signalOf m slot = signalOf m' slot) :
    scoreAt m slot = scoreAt m' slot := by
  have hbind : ∀ m : ObservationMap M, scoreAt m slot = (signalOf m slot).bind fun signal =>
      SignalObservation.score? ⟨slot, signal, (none : Option M)⟩ := by
    intro m
    unfold scoreAt signalOf
    cases m slot <;> rfl
  rw [hbind, hbind, h]

theorem mapOf_cons (o : SignalObservation M) (items : List (SignalObservation M)) :
    mapOf (o :: items) = Function.update (mapOf items) o.slot (some o) := by
  funext slot
  by_cases h : o.slot = slot
  · subst h
    rw [Function.update_self, mapOf, List.find?_cons_of_pos (by simp)]
  · rw [Function.update_of_ne (Ne.symm h), mapOf, List.find?_cons_of_neg (by simpa using h)]
    rfl

theorem mapOf_eq_none {items : List (SignalObservation M)} {slot : Slot} (h : slot ∉ items.map (·.slot)) :
    mapOf items slot = none := by
  rw [mapOf, List.find?_eq_none]
  intro o ho
  simpa using fun heq : o.slot = slot => h (heq ▸ List.mem_map_of_mem ho)

/-- With distinct slots the order does not matter. -/
theorem mapOf_perm {items items' : List (SignalObservation M)} (h : items'.Perm items)
    (hnodup : (items.map (·.slot)).Nodup) : mapOf items' = mapOf items := by
  induction h with
  | nil => rfl
  | cons o _ ih =>
    rw [mapOf_cons, mapOf_cons, ih (List.nodup_cons.1 hnodup).2]
  | swap o o' items =>
    rw [mapOf_cons, mapOf_cons, mapOf_cons, mapOf_cons]
    refine Function.update_comm (fun heq => ?_) _ _ _
    simp only [List.map_cons, List.nodup_cons, List.mem_cons, not_or] at hnodup
    exact hnodup.1.1 heq
  | trans h₁ h₂ ih₁ ih₂ =>
    have hmid := (h₂.map (·.slot)).nodup_iff.2 hnodup
    rw [ih₁ hmid, ih₂ hnodup]

/-- The signals of these observations over those that were there. -/
def laid (items : List (SignalObservation M)) (m : ObservationMap M) (slot : Slot) : Option Signal :=
  (signalOf (mapOf items) slot).or (signalOf m slot)

theorem laid_cons {o o' : SignalObservation M} {items : List (SignalObservation M)} (m : ObservationMap M)
    (hsignal : o'.signal = o.signal) (hnew : o.slot ∉ items.map (·.slot)) :
    laid items (Function.update m o.slot (some o')) = laid (o :: items) m := by
  funext slot
  unfold laid signalOf
  rw [mapOf_cons]
  by_cases h : slot = o.slot
  · subst h
    rw [mapOf_eq_none hnew, Function.update_self, Function.update_self]
    simp [hsignal]
  · rw [Function.update_of_ne h, Function.update_of_ne h]

theorem addItems_ok {items : List (SignalObservation M)} (hnodup : (items.map (·.slot)).Nodup) (m : ObservationMap M)
    (hfresh : ∀ o ∈ items, m o.slot = none) : ∃ m', addItems (items.map some) m = .ok m' ∧ signalOf m' = laid items m := by
  induction items generalizing m with
  | nil => exact ⟨m, rfl, rfl⟩
  | cons o items ih =>
    obtain ⟨hnew, hrest⟩ := List.nodup_cons.1 hnodup
    obtain ⟨m', hm', hsignals⟩ := ih hrest (Function.update m o.slot (some o)) fun o' ho' => by
      have hapart : o'.slot ≠ o.slot := fun heq => hnew (List.mem_map.2 ⟨o', ho', heq⟩)
      rw [Function.update_of_ne hapart]
      exact hfresh o' (List.mem_cons_of_mem _ ho')
    refine ⟨m', ?_, hsignals.trans (laid_cons m rfl hnew)⟩
    rw [List.map_cons, addItems, hfresh o List.mem_cons_self]
    exact hm'

/-- Every form of an observation is read as its signal. -/
theorem Encodes.read {o : SignalObservation M} {v : MappingValue M} (h : Encodes o v) :
    ∃ o', readValue o.slot.text v = .ok o' ∧ o'.signal = o.signal := by
  cases h with
  | observation => exact ⟨o, rfl, rfl⟩
  | fields status score reason metadata h => exact ⟨o, h, rfl⟩
  | number q h =>
    unfold SignalObservation.score? at h
    split at h
    · rename_i score hsignal
      obtain rfl := Option.some.inj h
      refine ⟨⟨o.slot, .available score, none⟩, ?_, hsignal.symm⟩
      simp [readValue, SignalObservation.new, slotOf?_text, readScore, score.2, Except.map]
    · cases h

theorem addEntries_ok {items : List (SignalObservation M)} {entries : List (String × MappingValue M)}
    (h : List.Forall₂ (fun o e => e.1 = o.slot.text ∧ Encodes o e.2) items entries)
    (hnodup : (items.map (·.slot)).Nodup) (m : ObservationMap M) :
    ∃ m', addEntries entries m = .ok m' ∧ signalOf m' = laid items m := by
  induction h generalizing m with
  | nil => exact ⟨m, rfl, rfl⟩
  | @cons o e items entries hhead _ ih =>
    obtain ⟨text, value⟩ := e
    obtain ⟨rfl, hencodes⟩ := hhead
    obtain ⟨hnew, hrest⟩ := List.nodup_cons.1 hnodup
    obtain ⟨o', hread, hsignal⟩ := hencodes.read
    obtain ⟨m', hm', hsignals⟩ := ih hrest (Function.update m o.slot (some o'))
    refine ⟨m', ?_, hsignals.trans (laid_cons m hsignal hnew)⟩
    rw [addEntries]
    simp only [slotOf?_text, hread, Except.ok_bind]
    exact hm'

/-- **However the observations are passed, the scores are theirs.** -/
theorem standardize_passes {items : List (SignalObservation M)} {input : Observations M}
    (hnodup : (items.map (·.slot)).Nodup) (h : Passes items input) :
    ∃ m, standardize input = .ok m ∧ ∀ slot, scoreAt m slot = scoreAt (mapOf items) slot := by
  have hlaid : ∀ {m : ObservationMap M} {items' : List (SignalObservation M)}, items'.Perm items →
      signalOf m = laid items' (fun _ => none) → ∀ slot, scoreAt m slot = scoreAt (mapOf items) slot := by
    intro m items' hperm hm slot
    refine scoreAt_congr ?_
    rw [hm, laid, mapOf_perm hperm hnodup]
    exact Option.or_none
  cases h with
  | sequence items' hperm =>
    obtain ⟨m, hm, hsignals⟩ := addItems_ok ((hperm.map _).nodup_iff.2 hnodup) (fun _ => none) fun _ _ => rfl
    exact ⟨m, hm, hlaid hperm hsignals⟩
  | mapping items' entries hperm hentries =>
    obtain ⟨m, hm, hsignals⟩ := addEntries_ok hentries ((hperm.map _).nodup_iff.2 hnodup) fun _ => none
    exact ⟨m, hm, hlaid hperm hsignals⟩

/-! ## The function -/

/-- What the call returns, up to the breakdown by signal. -/
def Returns (result : Except Raised (DynamicRiskAssessment M)) (round : ℚ → Nat → ℚ) (score denominator : ℚ) : Prop :=
  ∃ a, result = .ok a ∧ a.dynamicRiskScore = round score 4 ∧ a.severityLevel = severityOf score ∧
    a.effectiveWeightDenominator = round denominator 6

theorem assess_sums {weights : Slot → ℚ} (hw : ∀ slot, 0 < weights slot) (m : ObservationMap M)
    (round : ℚ → Nat → ℚ) (time : String) :
    (availableSlots m = ∅ → assess round (sums weights m) time = .error (.risk .emptyAvailableSignalSet)) ∧
    ((availableSlots m).Nonempty →
      Returns (assess round (sums weights m) time) round (risk weights m) (totalWeight weights m)) := by
  obtain ⟨hsum, hdenom, havailable⟩ := sums_eq weights m
  constructor
  · intro hempty
    rw [assess, if_pos (.inr (havailable.2 hempty))]
  · intro hne
    have hpos := totalWeight_pos hw hne
    have hrange := risk_range hw hne
    rw [assess, if_neg (not_or.2 ⟨by rw [hdenom]; exact not_le.2 hpos, fun h => hne.ne_empty (havailable.1 h)⟩)]
    have hscore : min (max (100 * ((sums weights m).weightedSum / (sums weights m).effectiveWeightDenom)) 0) 100 =
        risk weights m := by
      rw [hsum, hdenom, ← risk_eq, max_eq_left hrange.1, min_eq_left hrange.2]
    refine ⟨_, rfl, ?_, ?_, ?_⟩
    · exact congrArg (round · 4) hscore
    · exact congrArg severityOf hscore
    · exact congrArg (round · 6) hdenom

/-- The observations `items` have an available signal. -/
def SomeAvailable (items : List (SignalObservation M)) : Prop := ∃ o ∈ items, o.score?.isSome = true

theorem mem_availableSlots_mapOf {items : List (SignalObservation M)} (hnodup : (items.map (·.slot)).Nodup)
    {o : SignalObservation M} (ho : o ∈ items) : scoreAt (mapOf items) o.slot = o.score? := by
  have hfind : items.find? (·.slot = o.slot) = some o := by
    induction items with
    | nil => cases ho
    | cons o' items ih =>
      obtain ⟨hnew, hrest⟩ := List.nodup_cons.1 hnodup
      rcases List.mem_cons.1 ho with rfl | ho
      · simp
      · have hapart : o'.slot ≠ o.slot := fun heq => hnew (List.mem_map.2 ⟨o, ho, heq.symm⟩)
        rw [List.find?_cons_of_neg (by simpa using hapart)]
        exact ih hrest ho
  rw [scoreAt, mapOf, hfind, Option.bind_some]

theorem availableSlots_nonempty {items : List (SignalObservation M)} (hnodup : (items.map (·.slot)).Nodup) :
    (availableSlots (mapOf items)).Nonempty ↔ SomeAvailable items := by
  constructor
  · rintro ⟨slot, hslot⟩
    obtain ⟨s, hs⟩ := Option.isSome_iff_exists.1 (mem_availableSlots.1 hslot)
    obtain ⟨o, ho, hscore⟩ := Option.bind_eq_some_iff.1 hs
    exact ⟨o, List.mem_of_find?_eq_some ho, by rw [hscore]; rfl⟩
  · rintro ⟨o, ho, hscore⟩
    exact ⟨o.slot, mem_availableSlots.2 (by rwa [mem_availableSlots_mapOf hnodup ho])⟩

/-- The score of a set of observations, and the weight of its available slots. -/
def riskOf (weights : Slot → ℚ) (items : List (SignalObservation M)) : ℚ := risk weights (mapOf items)
def weightOf (weights : Slot → ℚ) (items : List (SignalObservation M)) : ℚ := totalWeight weights (mapOf items)

/-- What is asked of the score. -/
structure MissingEvidence (M : Type) : Prop where
  /-- Every mapping of slots to positive weights is taken. -/
  weights : ∀ items : List (String × FloatOf),
    (∀ e ∈ items, (∃ slot, slotOf? e.1 = some slot) ∧ ∃ q, e.2 = .finite q ∧ 0 < q) →
    ∃ w, validateWeights (.mapping items) = .ok w
  /-- The score of a set is returned however the set is passed. -/
  returned : ∀ (round : ℚ → Nat → ℚ) custom w (items : List (SignalObservation M)) input time now,
    validateWeights custom = .ok w → (items.map (·.slot)).Nodup → Passes items input → SomeAvailable items →
    Returns (computeDynamicRiskScore round input custom time now) round (riskOf w items) (weightOf w items)
  empty : ∀ (round : ℚ → Nat → ℚ) custom w (items : List (SignalObservation M)) input time now,
    validateWeights custom = .ok w → (items.map (·.slot)).Nodup → Passes items input → ¬ SomeAvailable items →
    computeDynamicRiskScore round input custom time now = .error (.risk .emptyAvailableSignalSet)
  mean : ∀ w (items : List (SignalObservation M)), (items.map (·.slot)).Nodup →
    riskOf w items = 100 * ((∑ slot ∈ availableSlots (mapOf items), w slot * (scoreAt (mapOf items) slot).getD 0) /
      weightOf w items)
  between : ∀ custom w (items : List (SignalObservation M)) lo hi, validateWeights custom = .ok w →
    (items.map (·.slot)).Nodup → SomeAvailable items →
    (∀ o ∈ items, ∀ s, o.score? = some s → lo ≤ s ∧ s ≤ hi) → 100 * lo ≤ riskOf w items ∧ riskOf w items ≤ 100 * hi
  omitted : ∀ w (before after : List (SignalObservation M)) o, ((before ++ o :: after).map (·.slot)).Nodup →
    o.score? = none → riskOf w (before ++ o :: after) = riskOf w (before ++ after) ∧
      weightOf w (before ++ o :: after) = weightOf w (before ++ after)
  added : ∀ custom w (items : List (SignalObservation M)) o s, validateWeights custom = .ok w →
    ((o :: items).map (·.slot)).Nodup → SomeAvailable items → o.score? = some s →
    ∃ t, 0 < t ∧ t < 1 ∧ riskOf w (o :: items) = riskOf w items + t * (100 * s - riskOf w items)
  raised : ∀ custom w (before after : List (SignalObservation M)) o o' s s', validateWeights custom = .ok w →
    ((before ++ o :: after).map (·.slot)).Nodup → o'.slot = o.slot → o.score? = some s → o'.score? = some s' → s ≤ s' →
    riskOf w (before ++ o :: after) ≤ riskOf w (before ++ o' :: after)
  scaled : ∀ custom custom' w w' k (items : List (SignalObservation M)), validateWeights custom = .ok w →
    validateWeights custom' = .ok w' → 0 < k → (∀ slot, w' slot = k * w slot) → riskOf w' items = riskOf w items

section
variable {o o' : SignalObservation M} {items before after : List (SignalObservation M)}

theorem scoreAt_cons (o : SignalObservation M) (items : List (SignalObservation M)) (slot : Slot) :
    scoreAt (mapOf (o :: items)) slot = if slot = o.slot then o.score? else scoreAt (mapOf items) slot := by
  rw [scoreAt, mapOf_cons]
  split
  · rename_i h
    rw [h, Function.update_self, Option.bind_some]
  · rename_i h
    rw [Function.update_of_ne h, scoreAt]

/-- An observation in the middle counts as the first. -/
theorem mapOf_middle (hnodup : ((before ++ o :: after).map (·.slot)).Nodup) :
    mapOf (before ++ o :: after) = mapOf (o :: (before ++ after)) ∧ o.slot ∉ (before ++ after).map (·.slot) ∧
      ((o :: (before ++ after)).map (·.slot)).Nodup := by
  have hperm : (o :: (before ++ after)).Perm (before ++ o :: after) := List.perm_middle.symm
  have hcons := (hperm.map (·.slot)).nodup_iff.2 hnodup
  exact ⟨(mapOf_perm hperm hnodup).symm, (List.nodup_cons.1 hcons).1, hcons⟩

theorem scoreAt_fresh (h : o.slot ∉ items.map (·.slot)) : scoreAt (mapOf items) o.slot = none := by
  rw [scoreAt, mapOf_eq_none h, Option.bind_none]

theorem riskOf_omitted (w : Slot → ℚ) (hnodup : ((before ++ o :: after).map (·.slot)).Nodup) (ho : o.score? = none) :
    riskOf w (before ++ o :: after) = riskOf w (before ++ after) ∧
      weightOf w (before ++ o :: after) = weightOf w (before ++ after) := by
  obtain ⟨hmap, hfresh, -⟩ := mapOf_middle hnodup
  have hscore : ∀ slot, scoreAt (mapOf (before ++ o :: after)) slot = scoreAt (mapOf (before ++ after)) slot := by
    intro slot
    rw [hmap, scoreAt_cons]
    split
    · rename_i h
      rw [h, scoreAt_fresh hfresh, ho]
    · rfl
  obtain ⟨hrisk, hweight, -⟩ := risk_congr w hscore
  exact ⟨hrisk, hweight⟩

theorem riskOf_raised {w : Slot → ℚ} (hw : ∀ slot, 0 < w slot) {s s' : ℚ}
    (hnodup : ((before ++ o :: after).map (·.slot)).Nodup) (hslot : o'.slot = o.slot) (hs : o.score? = some s)
    (hs' : o'.score? = some s') (hle : s ≤ s') :
    riskOf w (before ++ o :: after) ≤ riskOf w (before ++ o' :: after) := by
  have hnodup' : ((before ++ o' :: after).map (·.slot)).Nodup := by
    simpa only [List.map_append, List.map_cons, hslot] using hnodup
  rw [riskOf, riskOf, (mapOf_middle hnodup).1, (mapOf_middle hnodup').1]
  refine risk_mono hw ?_ fun slot => ?_
  · ext slot
    rw [mem_availableSlots, mem_availableSlots, scoreAt_cons, scoreAt_cons, hslot, hs, hs']
    split <;> simp
  · rw [scoreAt_cons, scoreAt_cons, hslot, hs, hs']
    split
    · exact hle
    · exact le_refl _

theorem riskOf_added {w : Slot → ℚ} (hw : ∀ slot, 0 < w slot) {s : ℚ} (hnodup : ((o :: items).map (·.slot)).Nodup)
    (hsome : SomeAvailable items) (hs : o.score? = some s) :
    ∃ t, 0 < t ∧ t < 1 ∧ riskOf w (o :: items) = riskOf w items + t * (100 * s - riskOf w items) := by
  obtain ⟨hfresh, hrest⟩ := List.nodup_cons.1 hnodup
  refine risk_added hw ((availableSlots_nonempty hrest).2 hsome) (scoreAt_fresh hfresh) ?_ fun slot hslot => ?_
  · rw [scoreAt_cons, if_pos rfl, hs]
  · rw [scoreAt_cons, if_neg hslot]

/-- What a call returns is decided by the scores of the set. -/
theorem compute_passes {custom : CustomWeights} {w : Slot → ℚ} {input : Observations M}
    (hcustom : validateWeights custom = .ok w) (hnodup : (items.map (·.slot)).Nodup) (h : Passes items input)
    (round : ℚ → Nat → ℚ) (time : Option String) (now : String) :
    ∃ m text, computeDynamicRiskScore round input custom time now = assess round (sums w m) text ∧
      risk w m = riskOf w items ∧ totalWeight w m = weightOf w items ∧ ((availableSlots m).Nonempty ↔ SomeAvailable items) := by
  obtain ⟨m, hm, hscore⟩ := standardize_passes hnodup h
  obtain ⟨hrisk, hweight, hslots⟩ := risk_congr w hscore
  refine ⟨m, if (time.getD "").isEmpty then now else time.getD "", ?_, hrisk, hweight, ?_⟩
  · rw [computeDynamicRiskScore, hcustom, Except.ok_bind, hm, Except.ok_bind]
  · rw [hslots]
    exact availableSlots_nonempty hnodup

end

/-- Six absent signals take nothing away. -/
example : (computeDynamicRiskScore (fun q _ => q)
    (.mapping [("supervised_rf", .number (.finite (9 / 10)))] : Observations Unit) .absent none "").toOption.map
    (fun a => (a.dynamicRiskScore, a.severityLevel)) = some (90, .critical) := by decide +kernel

end ThreatFusion.Risk
