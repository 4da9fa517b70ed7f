import ThreatFusion.Datasets.Groups
/-
# One decision for each group

`groupsFrom` is what the streaming loop computes without its batches: the accumulators of the groups, in the order
in which they are finished.

* `groupsFrom_spec`: of sorted rows, each group is there once, with the accumulator of its rows.
* `decisionLoop_built`: the table is made of their decisions, whatever the batch size.
* `decisionLoop_ok`: the loop returns when the identifiers of the groups differ and the budget lasts.
* `GroupAccumulator.includeAll_window`: what counts of zero say about every row of the group.
-/
namespace ThreatFusion.Datasets
open Py Grouping UnionFind Relation

/-! ## The accumulators -/

def GroupAccumulator.includeRow (g : GroupAccumulator) (row : GroupedRow) : GroupAccumulator :=
  g.includeRecord row.startUs row.endUs row.label row.category

/-- The accumulator of some rows, from `g`. -/
def GroupAccumulator.includeAll (g : GroupAccumulator) (rows : List GroupedRow) : GroupAccumulator :=
  rows.foldl GroupAccumulator.includeRow g

/-- The accumulator of all rows of a group. -/
def accumulatorOf (rows : List GroupedRow) (anchor : Nat) : GroupAccumulator :=
  GroupAccumulator.includeAll { anchor } (rows.filter (·.parent = anchor))

abbrev startsInDevelopment (row : GroupedRow) : Prop := DEVELOPMENT_START_US ≤ row.startUs ∧ row.startUs < DEVELOPMENT_END_US

abbrev startsInTest (row : GroupedRow) : Prop := TEST_START_US ≤ row.startUs ∧ row.startUs < TEST_END_US

namespace GroupAccumulator

/-- What one row adds to each count. -/
theorem includeRow_eq (g : GroupAccumulator) (row : GroupedRow) : g.includeRow row =
    { anchor := g.anchor
      total := g.total + 1
      benign := g.benign + if row.label = 0 then 1 else 0
      attack := g.attack + if row.label = 0 then 0 else 1
      developmentStarts := g.developmentStarts + if startsInDevelopment row then 1 else 0
      testStarts := g.testStarts + if ¬ startsInDevelopment row ∧ startsInTest row then 1 else 0
      outsideStarts := g.outsideStarts + if ¬ startsInDevelopment row ∧ ¬ startsInTest row then 1 else 0
      periodIntervalFailures := g.periodIntervalFailures +
        if startsInDevelopment row ∧ DEVELOPMENT_END_US < row.endUs ∨
          ¬ startsInDevelopment row ∧ startsInTest row ∧ TEST_END_US < row.endUs then 1 else 0
      unexplainedTiming := g.unexplainedTiming +
        if row.category = TimingCategory.unexplainedOverOneSecond.code then 1 else 0
      invalidTiming := g.invalidTiming +
        if row.category ≠ TimingCategory.unexplainedOverOneSecond.code ∧
          row.category ∉ [TimingCategory.exact.code, TimingCategory.withinOneSecondQuantization.code] then 1 else 0 } := by
  have htiming : ∀ g : GroupAccumulator, g.includeTiming row.category = { g with
      unexplainedTiming := g.unexplainedTiming +
        if row.category = TimingCategory.unexplainedOverOneSecond.code then 1 else 0
      invalidTiming := g.invalidTiming +
        if row.category ≠ TimingCategory.unexplainedOverOneSecond.code ∧
          row.category ∉ [TimingCategory.exact.code, TimingCategory.withinOneSecondQuantization.code] then 1 else 0 } := by
    intro g
    unfold includeTiming
    by_cases h : row.category = TimingCategory.unexplainedOverOneSecond.code
    · rw [if_pos h, if_pos h, if_neg fun hnot => hnot.1 h]
      rfl
    · rw [if_neg h, if_neg h]
      by_cases h' : row.category ∉ [TimingCategory.exact.code, TimingCategory.withinOneSecondQuantization.code]
      · rw [if_pos h', if_pos ⟨h, h'⟩]
        rfl
      · rw [if_neg h', if_neg fun hboth => h' hboth.2]
        rfl
  have hlabel : ∀ g : GroupAccumulator, g.includeLabel row.label = { g with
      benign := g.benign + if row.label = 0 then 1 else 0
      attack := g.attack + if row.label = 0 then 0 else 1 } := by
    intro g
    unfold includeLabel
    split <;> rfl
  unfold includeRow includeRecord
  rw [htiming, hlabel]
  unfold includeInterval
  by_cases hdev : startsInDevelopment row
  · have hdev := eq_true hdev
    rw [if_pos (of_eq_true hdev)]
    simp only [hdev, not_true_eq_false, true_and, false_and, or_false, if_true, if_false, add_zero]
  · rw [if_neg hdev]
    by_cases htest : startsInTest row
    · have htest := eq_true htest
      rw [if_pos (of_eq_true htest)]
      simp only [hdev, htest, not_false_eq_true, not_true_eq_false, true_and, false_and, false_or, if_true, if_false,
        and_false, add_zero]
    · rw [if_neg htest]
      simp only [hdev, htest, not_false_eq_true, false_and, or_false, if_true, if_false, and_true, and_false,
        add_zero]

@[simp] theorem includeRow_anchor (g : GroupAccumulator) (row : GroupedRow) : (g.includeRow row).anchor = g.anchor := by
  rw [includeRow_eq]

@[simp] theorem includeRow_total (g : GroupAccumulator) (row : GroupedRow) : (g.includeRow row).total = g.total + 1 := by
  rw [includeRow_eq]

@[simp] theorem includeAll_anchor (g : GroupAccumulator) (rows : List GroupedRow) :
    (g.includeAll rows).anchor = g.anchor := by
  induction rows generalizing g with
  | nil => rfl
  | cons row rest ih => exact (ih (g.includeRow row)).trans (includeRow_anchor g row)

theorem count_eq_zero {n : Nat} {c : Prop} [Decidable c] (h : n + (if c then 1 else 0) = 0) : ¬ c := by
  intro hc
  rw [if_pos hc] at h
  omega

/-- The counts that the windows look at only grow, and one of them does for each row. -/
theorem includeRow_window (g : GroupAccumulator) (row : GroupedRow) :
    g.developmentStarts ≤ (g.includeRow row).developmentStarts ∧ g.testStarts ≤ (g.includeRow row).testStarts ∧
    g.outsideStarts ≤ (g.includeRow row).outsideStarts ∧
    g.periodIntervalFailures ≤ (g.includeRow row).periodIntervalFailures ∧
    ((g.includeRow row).developmentStarts = 0 → ¬ startsInDevelopment row) ∧
    ((g.includeRow row).testStarts = 0 → startsInDevelopment row ∨ ¬ startsInTest row) ∧
    ((g.includeRow row).outsideStarts = 0 → startsInDevelopment row ∨ startsInTest row) ∧
    ((g.includeRow row).periodIntervalFailures = 0 →
      (startsInDevelopment row → row.endUs ≤ DEVELOPMENT_END_US) ∧
      (¬ startsInDevelopment row → startsInTest row → row.endUs ≤ TEST_END_US)) := by
  rw [includeRow_eq]
  refine ⟨Nat.le_add_right _ _, Nat.le_add_right _ _, Nat.le_add_right _ _, Nat.le_add_right _ _, fun h => count_eq_zero h,
    fun h => ?_, fun h => ?_, fun h => ⟨fun hdev => ?_, fun hdev htest => ?_⟩⟩
  · by_contra hnot
    exact count_eq_zero h ⟨fun hdev => hnot (.inl hdev), by_contra fun htest => hnot (.inr htest)⟩
  · by_contra hnot
    exact count_eq_zero h ⟨fun hdev => hnot (.inl hdev), fun htest => hnot (.inr htest)⟩
  · by_contra hlate
    exact count_eq_zero h (.inl ⟨hdev, not_le.1 hlate⟩)
  · by_contra hlate
    exact count_eq_zero h (.inr ⟨hdev, htest, not_le.1 hlate⟩)

/-- Rows may be included in any order. -/
instance : RightCommutative includeRow where
  right_comm g a b := by
    simp only [includeRow_eq, Nat.add_right_comm]

theorem includeAll_perm (g : GroupAccumulator) {rows rows' : List GroupedRow} (h : rows.Perm rows') :
    g.includeAll rows = g.includeAll rows' :=
  h.foldl_eq g

/-- What labels do not reach. -/
def unlabelled (g : GroupAccumulator) : GroupAccumulator := { g with benign := 0, attack := 0 }

theorem includeRow_unlabelled {g g' : GroupAccumulator} (h : g.unlabelled = g'.unlabelled) (row : GroupedRow) (label : ℤ) :
    (g.includeRow row).unlabelled = (g'.includeRow { row with label }).unlabelled := by
  cases g
  cases g'
  simp only [unlabelled, mk.injEq] at h
  obtain ⟨rfl, rfl, -, -, rfl, rfl, rfl, rfl, rfl, rfl⟩ := h
  rw [includeRow_eq, includeRow_eq]
  rfl

/-- What empty counts say about every row. -/
structure Window (g : GroupAccumulator) (rows : List GroupedRow) : Prop where
  development : g.testStarts = 0 → g.outsideStarts = 0 → g.periodIntervalFailures = 0 →
    ∀ row ∈ rows, startsInDevelopment row ∧ row.endUs ≤ DEVELOPMENT_END_US
  test : g.developmentStarts = 0 → g.outsideStarts = 0 → g.periodIntervalFailures = 0 →
    ∀ row ∈ rows, startsInTest row ∧ row.endUs ≤ TEST_END_US

theorem includeAll_grows (g : GroupAccumulator) (rows : List GroupedRow) :
    g.developmentStarts ≤ (g.includeAll rows).developmentStarts ∧ g.testStarts ≤ (g.includeAll rows).testStarts ∧
    g.outsideStarts ≤ (g.includeAll rows).outsideStarts ∧
    g.periodIntervalFailures ≤ (g.includeAll rows).periodIntervalFailures := by
  induction rows generalizing g with
  | nil => exact ⟨le_refl _, le_refl _, le_refl _, le_refl _⟩
  | cons row rest ih =>
    obtain ⟨h₁, h₂, h₃, h₄, -⟩ := g.includeRow_window row
    obtain ⟨k₁, k₂, k₃, k₄⟩ := ih (g.includeRow row)
    exact ⟨h₁.trans k₁, h₂.trans k₂, h₃.trans k₃, h₄.trans k₄⟩

theorem includeAll_window (g : GroupAccumulator) (rows : List GroupedRow) : Window (g.includeAll rows) rows := by
  induction rows generalizing g with
  | nil => exact ⟨fun _ _ _ _ h => absurd h List.not_mem_nil, fun _ _ _ _ h => absurd h List.not_mem_nil⟩
  | cons row rest ih =>
    obtain ⟨-, -, -, -, hdev, htest, hout, hend⟩ := g.includeRow_window row
    obtain ⟨k₁, k₂, k₃, k₄⟩ := (g.includeRow row).includeAll_grows rest
    have hrest := ih (g.includeRow row)
    change Window ((g.includeRow row).includeAll rest) (row :: rest)
    refine ⟨fun h₁ h₂ h₃ r hr => ?_, fun h₁ h₂ h₃ r hr => ?_⟩
    · rcases List.mem_cons.1 hr with rfl | hr
      · have hstart : startsInDevelopment r := by
          rcases hout (by omega) with h | h
          · exact h
          · exact (htest (by omega)).resolve_right fun hnot => hnot h
        exact ⟨hstart, (hend (by omega)).1 hstart⟩
      · exact hrest.development h₁ h₂ h₃ r hr
    · rcases List.mem_cons.1 hr with rfl | hr
      · have hnot := hdev (by omega)
        have hstart := (hout (by omega)).resolve_left hnot
        exact ⟨hstart, (hend (by omega)).2 hnot hstart⟩
      · exact hrest.test h₁ h₂ h₃ r hr

end GroupAccumulator

/-! ## The groups of sorted rows -/

/-- The accumulators of the groups, the open one first. -/
def groupsFrom : Option GroupAccumulator → List GroupedRow → List GroupAccumulator
  | current, [] => current.toList
  | current, row :: rest => match current.filter fun g => g.anchor = row.parent with
    | some g => groupsFrom (some (g.includeRow row)) rest
    | none => current.toList ++ groupsFrom (some (GroupAccumulator.includeRow { anchor := row.parent } row)) rest

theorem groupsFrom_total : ∀ (current : Option GroupAccumulator) (rows : List GroupedRow),
    ((groupsFrom current rows).map (·.total)).sum = (current.map (·.total)).getD 0 + rows.length
  | none, [] => rfl
  | some g, [] => by simp [groupsFrom]
  | current, row :: rest => by
    rw [groupsFrom]
    cases hcurrent : current.filter fun g => g.anchor = row.parent with
    | some g =>
      dsimp only
      rw [groupsFrom_total, (Option.filter_eq_some_iff.1 hcurrent).1]
      simp only [Option.map_some, Option.getD_some, GroupAccumulator.includeRow_total, List.length_cons]
      omega
    | none =>
      dsimp only
      rw [List.map_append, List.sum_append, groupsFrom_total]
      simp only [Option.map_some, Option.getD_some, GroupAccumulator.includeRow_total, List.length_cons]
      cases current with
      | none => simp; omega
      | some g => simp; omega

/-- The open group `g` and the groups of the rows that follow. -/
structure Streamed (g : GroupAccumulator) (rows : List GroupedRow) (result : List GroupAccumulator) : Prop where
  ascending : (result.map (·.anchor)).Pairwise (· < ·)
  anchors : ∀ a, a ∈ result.map (·.anchor) ↔ a = g.anchor ∨ ∃ row ∈ rows, row.parent = a
  current : ∀ h ∈ result, h.anchor = g.anchor → h = g.includeAll (rows.filter (·.parent = g.anchor))
  later : ∀ h ∈ result, h.anchor ≠ g.anchor → h = accumulatorOf rows h.anchor

theorem filter_same {row : GroupedRow} {rest : List GroupedRow} {anchor : Nat} (h : row.parent = anchor) :
    (row :: rest).filter (·.parent = anchor) = row :: rest.filter (·.parent = anchor) := by
  simp [h]

theorem filter_other {row : GroupedRow} {rest : List GroupedRow} {anchor : Nat} (h : row.parent ≠ anchor) :
    (row :: rest).filter (·.parent = anchor) = rest.filter (·.parent = anchor) := by
  simp [h]

theorem exists_parent_cons {row : GroupedRow} {rest : List GroupedRow} {a : Nat} :
    (∃ r ∈ row :: rest, r.parent = a) ↔ a = row.parent ∨ ∃ r ∈ rest, r.parent = a := by
  simp [eq_comm]

theorem accumulatorOf_cons_self (row : GroupedRow) (rest : List GroupedRow) :
    accumulatorOf (row :: rest) row.parent =
      (GroupAccumulator.includeRow { anchor := row.parent } row).includeAll (rest.filter (·.parent = row.parent)) := by
  rw [accumulatorOf, filter_same rfl]
  rfl

theorem accumulatorOf_cons_of_ne {row : GroupedRow} {rest : List GroupedRow} {anchor : Nat} (h : row.parent ≠ anchor) :
    accumulatorOf (row :: rest) anchor = accumulatorOf rest anchor := by
  rw [accumulatorOf, accumulatorOf, filter_other h]

theorem groupsFrom_streamed (rows : List GroupedRow) (g : GroupAccumulator)
    (hsorted : rows.Pairwise fun a b => a.parent ≤ b.parent) (hopen : ∀ row ∈ rows, g.anchor ≤ row.parent) :
    Streamed g rows (groupsFrom (some g) rows) := by
  induction rows generalizing g with
  | nil =>
    refine ⟨List.pairwise_singleton _ _, fun a => by simp [groupsFrom], fun h hh _ => ?_, fun h hh hne => ?_⟩
    · exact List.mem_singleton.1 hh
    · rw [List.mem_singleton.1 hh] at hne
      exact absurd rfl hne
  | cons row rest ih =>
    obtain ⟨hfirst, hrest⟩ := List.pairwise_cons.1 hsorted
    by_cases hsame : g.anchor = row.parent
    · have hstep : groupsFrom (some g) (row :: rest) = groupsFrom (some (g.includeRow row)) rest := by
        simp [groupsFrom, Option.filter, hsame]
      have h := ih (g.includeRow row) hrest fun r hr => by
        rw [GroupAccumulator.includeRow_anchor, hsame]
        exact hfirst r hr
      rw [hstep]
      refine ⟨h.ascending, fun a => ?_, fun k hk hkg => ?_, fun k hk hkg => ?_⟩
      · rw [h.anchors, GroupAccumulator.includeRow_anchor, exists_parent_cons, ← hsame, or_self_left]
      · rw [h.current k hk (by rw [hkg, GroupAccumulator.includeRow_anchor]), GroupAccumulator.includeRow_anchor,
          filter_same hsame.symm]
        rfl
      · rw [accumulatorOf_cons_of_ne fun h => hkg (h.symm.trans hsame.symm)]
        exact h.later k hk (by rwa [GroupAccumulator.includeRow_anchor])
    · have hlt : g.anchor < row.parent := lt_of_le_of_ne (hopen row List.mem_cons_self) hsame
      generalize hnext : GroupAccumulator.includeRow { anchor := row.parent } row = next
      have hanchor : next.anchor = row.parent := by rw [← hnext, GroupAccumulator.includeRow_anchor]
      have hstep : groupsFrom (some g) (row :: rest) = g :: groupsFrom (some next) rest := by
        simp [groupsFrom, Option.filter, hsame, ← hnext]
      have h := ih next hrest fun r hr => hanchor ▸ hfirst r hr
      have habove : ∀ a ∈ (groupsFrom (some next) rest).map (·.anchor), g.anchor < a := by
        intro a ha
        rcases (h.anchors a).1 ha with rfl | ⟨r, hr, rfl⟩
        · exact hanchor ▸ hlt
        · exact hlt.trans_le (hfirst r hr)
      have hnone : (row :: rest).filter (fun r => decide (r.parent = g.anchor)) = [] := by
        refine List.filter_eq_nil_iff.2 fun r hr hra => ?_
        have hra := of_decide_eq_true hra
        rcases List.mem_cons.1 hr with rfl | hr
        · exact hlt.ne' hra
        · exact (hlt.trans_le (hfirst r hr)).ne' hra
      rw [hstep]
      refine ⟨?_, fun a => ?_, fun k hk hkg => ?_, fun k hk hkg => ?_⟩
      · rw [List.map_cons, List.pairwise_cons]
        exact ⟨habove, h.ascending⟩
      · rw [List.map_cons, List.mem_cons, h.anchors, hanchor, exists_parent_cons]
      · rcases List.mem_cons.1 hk with rfl | hk
        · rw [hnone]
          rfl
        · exact absurd hkg (habove _ (List.mem_map_of_mem hk)).ne'
      · rcases List.mem_cons.1 hk with rfl | hk
        · exact absurd rfl hkg
        · by_cases hkrow : k.anchor = row.parent
          · rw [hkrow, accumulatorOf_cons_self, hnext]
            have hcurrent := h.current k hk (hkrow.trans hanchor.symm)
            rwa [hanchor] at hcurrent
          · rw [accumulatorOf_cons_of_ne (Ne.symm hkrow)]
            exact h.later k hk fun h => hkrow (h.trans hanchor)

/-- **Each group of sorted rows once**, in the order of the anchors, with the accumulator of its rows. -/
theorem groupsFrom_spec {rows : List GroupedRow} (hsorted : rows.Pairwise fun a b => a.parent ≤ b.parent) :
    ((groupsFrom none rows).map (·.anchor)).Pairwise (· < ·) ∧
    (∀ a, a ∈ (groupsFrom none rows).map (·.anchor) ↔ ∃ row ∈ rows, row.parent = a) ∧
    ∀ g ∈ groupsFrom none rows, g = accumulatorOf rows g.anchor := by
  cases rows with
  | nil => exact ⟨List.Pairwise.nil, fun a => by simp [groupsFrom], fun _ h => absurd h List.not_mem_nil⟩
  | cons row rest =>
    obtain ⟨hfirst, hrest⟩ := List.pairwise_cons.1 hsorted
    generalize hnext : GroupAccumulator.includeRow { anchor := row.parent } row = next
    have hanchor : next.anchor = row.parent := by rw [← hnext, GroupAccumulator.includeRow_anchor]
    have hstep : groupsFrom none (row :: rest) = groupsFrom (some next) rest := by
      rw [groupsFrom, ← hnext]
      rfl
    have h := groupsFrom_streamed rest next hrest fun r hr => hanchor ▸ hfirst r hr
    rw [hstep]
    refine ⟨h.ascending, fun a => ?_, fun g hg => ?_⟩
    · rw [h.anchors, hanchor, exists_parent_cons]
    · by_cases hgrow : g.anchor = row.parent
      · rw [hgrow, accumulatorOf_cons_self, hnext]
        have hcurrent := h.current g hg (hgrow.trans hanchor.symm)
        rwa [hanchor] at hcurrent
      · rw [accumulatorOf_cons_of_ne (Ne.symm hgrow)]
        exact h.later g hg fun h => hgrow (h.trans hanchor)

/-! ## The decision of a group -/

theorem flag_eq_zero {c : Prop} [Decidable c] {mask bit : Nat} (hbit : bit ≠ 0) :
    (if c then mask ||| bit else mask) = 0 ↔ ¬ c ∧ mask = 0 := by
  by_cases hc : c
  · rw [if_pos hc, Nat.or_eq_zero_iff]
    exact ⟨fun h => absurd h.2 hbit, fun h => absurd hc h.1⟩
  · rw [if_neg hc]
    exact ⟨fun h => ⟨hc, h⟩, And.right⟩

theorem quarantineMask_eq_zero {g : GroupAccumulator} (h : quarantineMask g = 0) :
    ¬ (g.developmentStarts ≠ 0 ∧ g.testStarts ≠ 0) ∧ g.periodIntervalFailures = 0 ∧ g.outsideStarts = 0 := by
  unfold quarantineMask at h
  dsimp only at h
  rw [flag_eq_zero (by decide), flag_eq_zero (by decide), flag_eq_zero (by decide)] at h
  exact ⟨h.2.2.1, not_not.1 h.2.1, not_not.1 h.1⟩

/-- A mask has a primary reason when it is not empty. -/
theorem primaryQuarantineReason_isSome (g : GroupAccumulator) :
    (primaryQuarantineReason (quarantineMask g)).isSome = true ↔ quarantineMask g ≠ 0 := by
  unfold quarantineMask
  dsimp only
  split_ifs <;> decide

/-- The identifier of a group, without the checks of its anchor. -/
def identifierOf (sha256 : Bytes → Bytes) (anchor : Nat) : Bytes :=
  sha256 (utf8 "threatfusion:unsw-leakage-group:v1\x00" ++ packBE 8 anchor)

theorem deterministicGroupIdentifier_eq {sha256 : Bytes → Bytes} {anchor : Nat} {identifier : Bytes}
    (h : deterministicGroupIdentifier sha256 anchor = .ok identifier) : identifier = identifierOf sha256 anchor := by
  unfold deterministicGroupIdentifier at h
  split at h
  · cases h
  · split at h <;> cases h
    rfl

/-- What a decision says about the group: an empty mask and one period, or a reason. -/
theorem groupDecision_cases {sha256 : Bytes → Bytes} {config : DevelopmentSplitConfig} {g : GroupAccumulator}
    {identifier : Bytes} {disposition : Disposition} {mask : Nat} {reason : Option QuarantineReason}
    (h : groupDecision sha256 config g = .ok (identifier, disposition, mask, reason)) :
    identifier = identifierOf sha256 g.anchor ∧
    (disposition = .quarantine ∧ reason.isSome = true ∨
      quarantineMask g = 0 ∧ reason = none ∧ g.developmentStarts ≠ 0 ∧ (disposition = .train ∨ disposition = .validation) ∨
      quarantineMask g = 0 ∧ reason = none ∧ g.developmentStarts = 0 ∧ disposition = .test) := by
  obtain ⟨identifier', hid, h⟩ := Except.bind_eq_ok.1 h
  obtain rfl := deterministicGroupIdentifier_eq hid
  by_cases hmask : quarantineMask g ≠ 0
  · simp only [if_pos hmask] at h
    cases h
    exact ⟨rfl, .inl ⟨rfl, (primaryQuarantineReason_isSome g).2 hmask⟩⟩
  · have hzero : quarantineMask g = 0 := not_not.1 hmask
    by_cases hdev : g.developmentStarts ≠ 0
    · simp only [if_neg hmask, if_pos hdev] at h
      obtain ⟨split, hsplit, h⟩ := Except.bind_eq_ok.1 h
      cases h
      refine ⟨rfl, .inr (.inl ⟨hzero, by rw [hzero]; rfl, hdev, ?_⟩)⟩
      unfold deterministicDevelopmentSplit at hsplit
      split at hsplit
      · cases hsplit
      · dsimp only at hsplit
        split at hsplit <;> cases hsplit
        · exact .inr rfl
        · exact .inl rfl
    · by_cases htest : g.testStarts ≠ 0
      · simp only [if_neg hmask, if_neg hdev, if_pos htest] at h
        cases h
        exact ⟨rfl, .inr (.inr ⟨hzero, by rw [hzero]; rfl, not_not.1 hdev, rfl⟩)⟩
      · simp only [if_neg hmask, if_neg hdev, if_neg htest] at h
        cases h
        exact ⟨rfl, .inl ⟨rfl, by rw [hzero]; rfl⟩⟩

theorem groupDecision_ok (sha256 : Bytes → Bytes) (config : DevelopmentSplitConfig) {g : GroupAccumulator}
    (hpositive : 0 < g.anchor) (hbound : g.anchor < 2 ^ 64) : ∃ d, groupDecision sha256 config g = .ok d := by
  have hid : deterministicGroupIdentifier sha256 g.anchor = .ok (identifierOf sha256 g.anchor) := by
    rw [deterministicGroupIdentifier, if_neg (by omega), if_neg (by omega)]
    rfl
  have hsplit : ∃ split, deterministicDevelopmentSplit sha256 (identifierOf sha256 g.anchor) config.seed = .ok split :=
    ⟨_, if_neg (not_not.2 config.frozen)⟩
  obtain ⟨split, hsplit⟩ := hsplit
  rw [groupDecision, hid, Except.ok_bind]
  dsimp only
  split
  · exact ⟨_, rfl⟩
  · split
    · rw [hsplit]
      exact ⟨_, rfl⟩
    · split <;> exact ⟨_, rfl⟩

/-- The row of a group. -/
def decisionRow (sha256 : Bytes → Bytes) (config : DevelopmentSplitConfig) (g : GroupAccumulator) :
    Except SplitError DecisionRow :=
  (groupDecision sha256 config g).map fun d =>
    ⟨g.anchor, d.1, d.2.1, d.2.2.2, d.2.2.1, g.total, g.benign, g.attack⟩

theorem decisionRow_eq {sha256 : Bytes → Bytes} {config : DevelopmentSplitConfig} {g : GroupAccumulator} {d : DecisionRow}
    (h : decisionRow sha256 config g = .ok d) :
    groupDecision sha256 config g = .ok (d.groupIdentifier, d.disposition, d.quarantineMask, d.primaryReason) ∧
    d.anchor = g.anchor ∧ d.totalCount = g.total := by
  unfold decisionRow at h
  cases hdecision : groupDecision sha256 config g with
  | error e =>
    rw [hdecision] at h
    cases h
  | ok r =>
    rw [hdecision] at h
    cases h
    exact ⟨rfl, rfl, rfl⟩

/-! ## The streaming loop -/

def policyOf (d : DecisionRow) : List (Bytes × SplitName) := (d.disposition.splitName.map (d.groupIdentifier, ·)).toList

/-- The table and the batch are the decisions of the groups finished so far. -/
structure Built (sha256 : Bytes → Bytes) (config : DevelopmentSplitConfig) (finished : List GroupAccumulator)
    (s : DecisionBuild) : Prop where
  rows : List.Forall₂ (fun g d => decisionRow sha256 config g = .ok d) finished (s.decisions ++ s.decisionBatch)
  policy : s.policyBatch = s.decisionBatch.flatMap policyOf
  count : s.groupCount = finished.length

section
variable {sha256 : Bytes → Bytes} {config : DevelopmentSplitConfig} {budget : Nat → Bool}

theorem finish_eq {s : DecisionBuild} {g : GroupAccumulator} (hcurrent : s.current = some g) :
    s.finish sha256 config = (decisionRow sha256 config g).map fun d =>
      { s with
        decisionBatch := s.decisionBatch ++ [d]
        policyBatch := s.policyBatch ++ policyOf d
        groupCount := s.groupCount + 1 } := by
  unfold DecisionBuild.finish decisionRow
  rw [hcurrent]
  dsimp only
  cases groupDecision sha256 config g <;> rfl

theorem finish_built {finished : List GroupAccumulator} {s s' : DecisionBuild} (hbuilt : Built sha256 config finished s)
    (h : s.finish sha256 config = .ok s') : Built sha256 config (finished ++ s.current.toList) s' := by
  cases hcurrent : s.current with
  | none =>
    rw [DecisionBuild.finish, hcurrent] at h
    cases h
    rwa [Option.toList_none, List.append_nil]
  | some g =>
    rw [finish_eq hcurrent] at h
    cases hrow : decisionRow sha256 config g with
    | error e =>
      rw [hrow] at h
      cases h
    | ok d =>
      rw [hrow] at h
      cases h
      refine ⟨?_, ?_, ?_⟩
      · rw [← List.append_assoc]
        exact List.rel_append hbuilt.rows (.cons hrow .nil)
      · rw [hbuilt.policy, List.flatMap_append, List.flatMap_singleton]
      · rw [List.length_append, ← hbuilt.count]
        rfl

theorem insertDecisions_eq : ∀ {batch table table' : List DecisionRow},
    DecisionBuild.insertDecisions batch table = .ok table' → table' = table ++ batch
  | [], table, table', h => by
    cases h
    rw [List.append_nil]
  | d :: rest, table, table', h => by
    rw [DecisionBuild.insertDecisions] at h
    split at h
    · cases h
    · rw [insertDecisions_eq h, List.append_assoc]
      rfl

theorem flush_built {finished : List GroupAccumulator} {s s' : DecisionBuild} (hbuilt : Built sha256 config finished s)
    (h : s.flush budget = .ok s') :
    Built sha256 config finished s' ∧ s'.current = s.current ∧ s'.decisionBatch = [] := by
  unfold DecisionBuild.flush at h
  split at h
  · rename_i hempty
    cases h
    exact ⟨hbuilt, rfl, List.isEmpty_iff.1 hempty⟩
  · obtain ⟨u, -, h⟩ := Except.bind_eq_ok.1 h
    obtain ⟨decisions, hinsert, h⟩ := Except.bind_eq_ok.1 h
    split at h
    · cases h
      refine ⟨⟨?_, rfl, hbuilt.count⟩, rfl, rfl⟩
      rw [List.append_nil, insertDecisions_eq hinsert]
      exact hbuilt.rows
    · cases h

theorem flushFull_built {finished : List GroupAccumulator} {s s' : DecisionBuild}
    (hbuilt : Built sha256 config finished s) (h : s.flushFull config budget = .ok s') :
    Built sha256 config finished s' := by
  unfold DecisionBuild.flushFull at h
  split at h
  · exact (flush_built hbuilt h).1
  · cases h
    exact hbuilt

/-- **The loop builds the decisions of the groups**, wherever it flushes. -/
theorem decisionLoop_built : ∀ {rows : List GroupedRow} {finished : List GroupAccumulator} {s s' s'' : DecisionBuild},
    Built sha256 config finished s → decisionLoop sha256 config budget rows s = .ok s' →
    s'.finish sha256 config = .ok s'' → Built sha256 config (finished ++ groupsFrom s.current rows) s''
  | [], finished, s, s', s'', hbuilt, hloop, hfinish => by
    cases hloop
    exact finish_built hbuilt hfinish
  | row :: rest, finished, s, s', s'', hbuilt, hloop, hfinish => by
    rw [decisionLoop] at hloop
    split at hloop
    · cases hloop
    · rename_i s₁ hstep
      rw [groupsFrom]
      unfold DecisionBuild.step at hstep
      cases hfilter : s.current.filter fun current => current.anchor = row.parent with
      | some g =>
        rw [hfilter] at hstep
        cases hstep
        have hbuilt₁ : Built sha256 config finished (s.includeRecord row g) := ⟨hbuilt.rows, hbuilt.policy, hbuilt.count⟩
        exact decisionLoop_built hbuilt₁ hloop hfinish
      | none =>
        rw [hfilter] at hstep
        obtain ⟨s₂, hfinish₂, hstep⟩ := Except.bind_eq_ok.1 hstep
        obtain ⟨s₃, hflush, hstep⟩ := Except.bind_eq_ok.1 hstep
        cases hstep
        have hbuilt₂ := finish_built hbuilt hfinish₂
        have hbuilt₃ := flushFull_built hbuilt₂ hflush
        have hbuilt₄ : Built sha256 config (finished ++ s.current.toList)
            (s₃.includeRecord row { anchor := row.parent }) := ⟨hbuilt₃.rows, hbuilt₃.policy, hbuilt₃.count⟩
        have ih := decisionLoop_built hbuilt₄ hloop hfinish
        rw [List.append_assoc] at ih
        exact ih

end

/-! ## When the loop returns -/

theorem hexDigit_inj {m n : Nat} (hm : m < 16) (hn : n < 16) (h : hexDigit m = hexDigit n) : m = n := by
  have key : ∀ m < 16, ∀ n < 16, hexDigit m = hexDigit n → m = n := by decide
  exact key m hm n hn h

theorem hexOf_inj {a b : Bytes} (h : hexOf a = hexOf b) : a = b := by
  replace h := String.ofList_injective h
  induction a generalizing b with
  | nil =>
    cases b with
    | nil => rfl
    | cons y b => cases h
  | cons x a ih =>
    cases b with
    | nil => cases h
    | cons y b =>
      simp only [List.flatMap_cons, List.cons_append, List.nil_append, List.cons.injEq] at h
      obtain ⟨hhigh, hlow, hrest⟩ := h
      have hx := x.toNat_lt
      have hy := y.toNat_lt
      have hhigh := hexDigit_inj (by omega) (by omega) hhigh
      have hlow := hexDigit_inj (by omega) (by omega) hlow
      rw [ih hrest, UInt8.toNat_inj.1 (by omega : x.toNat = y.toNat)]

theorem hexOf_not_blank {b : Bytes} (h : b ≠ []) : isBlank (hexOf b) = false := by
  obtain ⟨x, b, rfl⟩ := List.exists_cons_of_ne_nil h
  have key : ∀ n < 16, isSpace (hexDigit n) = false := by decide
  have hx := x.toNat_lt
  rw [isBlank, hexOf, String.toList_ofList, List.flatMap_cons, List.cons_append, List.all_cons, key _ (by omega),
    Bool.false_and]

/-- Assignments of different groups to splits that the rule of the source allows. -/
theorem validateAssignments_ok {batch : List (Bytes × SplitName)} {assigned : List ((String × String) × SplitName)}
    (hallowed : ∀ a ∈ batch, a.1 ≠ [] ∧ a.2 ∈ allowedSplits .trainingDevelopment) (hnodup : (batch.map Prod.fst).Nodup)
    (hnew : ∀ a ∈ batch, assigned.lookup ("unsw_nb15", hexOf a.1) = none) :
    validateAssignments PHASE0_SPLIT_RULES (batch.map fun a => ⟨"unsw_nb15", hexOf a.1, a.2⟩) assigned = .ok () := by
  induction batch generalizing assigned with
  | nil => rfl
  | cons a rest ih =>
    obtain ⟨hne, hsplit⟩ := hallowed a List.mem_cons_self
    rw [List.map_cons, List.nodup_cons] at hnodup
    have hsource : isBlank "unsw_nb15" = false := by decide
    have hrule : PHASE0_SPLIT_RULES.lookup "unsw_nb15" = some .trainingDevelopment := by decide
    rw [List.map_cons, validateAssignments]
    simp only [hsource, hexOf_not_blank hne, Bool.or_self, Bool.false_eq_true, if_false, hrule, not_not.2 hsplit,
      hnew a List.mem_cons_self]
    refine ih (fun b hb => hallowed b (List.mem_cons_of_mem _ hb)) hnodup.2 fun b hb => ?_
    have hother : b.1 ≠ a.1 := fun h => hnodup.1 (h ▸ List.mem_map_of_mem hb)
    have hkey : (("unsw_nb15", hexOf b.1) == ("unsw_nb15", hexOf a.1)) = false :=
      beq_eq_false_iff_ne.2 fun h => hother (hexOf_inj (Prod.mk.inj h).2)
    rw [List.lookup_cons, hkey]
    exact hnew b (List.mem_cons_of_mem _ hb)

theorem policyOf_allowed {d : DecisionRow} {a : Bytes × SplitName} (h : a ∈ policyOf d) :
    a.1 = d.groupIdentifier ∧ a.2 ∈ allowedSplits .trainingDevelopment := by
  unfold policyOf at h
  cases hd : d.disposition <;> rw [hd] at h <;> simp [Disposition.splitName] at h <;> subst h <;>
    simp [allowedSplits]

theorem policyOf_sublist (d : DecisionRow) : ((policyOf d).map Prod.fst).Sublist [d.groupIdentifier] := by
  unfold policyOf
  cases d.disposition
  · exact List.Sublist.refl _
  · exact List.Sublist.refl _
  · exact List.Sublist.refl _
  · exact List.nil_sublist _

theorem policyBatch_sublist (batch : List DecisionRow) :
    ((batch.flatMap policyOf).map Prod.fst).Sublist (batch.map (·.groupIdentifier)) := by
  induction batch with
  | nil => exact List.Sublist.refl _
  | cons d rest ih =>
    rw [List.flatMap_cons, List.map_append, List.map_cons]
    exact (policyOf_sublist d).append ih

theorem insertDecisions_ok : ∀ {batch table : List DecisionRow},
    ((table ++ batch).map (·.anchor)).Nodup → ((table ++ batch).map (·.groupIdentifier)).Nodup →
    DecisionBuild.insertDecisions batch table = .ok (table ++ batch)
  | [], table, _, _ => by rw [DecisionBuild.insertDecisions, List.append_nil]
  | d :: rest, table, hanchors, hids => by
    have hnew : (table.any fun e => e.anchor == d.anchor || e.groupIdentifier == d.groupIdentifier) = false := by
      refine List.any_eq_false.2 fun e he heq => ?_
      rw [List.map_append, List.nodup_append] at hanchors hids
      rcases Bool.or_eq_true _ _ ▸ heq with h | h
      · exact hanchors.2.2 _ (List.mem_map_of_mem he) _ (List.mem_map_of_mem List.mem_cons_self) (beq_iff_eq.1 h)
      · exact hids.2.2 _ (List.mem_map_of_mem he) _ (List.mem_map_of_mem List.mem_cons_self) (beq_iff_eq.1 h)
    have happend : table ++ d :: rest = table ++ [d] ++ rest := by rw [List.append_assoc, List.singleton_append]
    rw [DecisionBuild.insertDecisions, hnew, if_neg Bool.false_ne_true, happend]
    exact insertDecisions_ok (happend ▸ hanchors) (happend ▸ hids)

/-- Groups whose identifiers exist and differ. -/
structure Distinct (sha256 : Bytes → Bytes) (gs : List GroupAccumulator) : Prop where
  positive : ∀ g ∈ gs, 0 < g.anchor
  bounded : ∀ g ∈ gs, g.anchor < 2 ^ 64
  anchors : (gs.map (·.anchor)).Nodup
  identifiers : (gs.map fun g => identifierOf sha256 g.anchor).Nodup

theorem Distinct.left {sha256 : Bytes → Bytes} {gs hs : List GroupAccumulator} (h : Distinct sha256 (gs ++ hs)) :
    Distinct sha256 gs where
  positive g hg := h.positive g (List.mem_append_left _ hg)
  bounded g hg := h.bounded g (List.mem_append_left _ hg)
  anchors := (List.nodup_append.1 (List.map_append ▸ h.anchors)).1
  identifiers := (List.nodup_append.1 (List.map_append ▸ h.identifiers)).1

theorem decisionRow_identifier {sha256 : Bytes → Bytes} {config : DevelopmentSplitConfig} {g : GroupAccumulator}
    {d : DecisionRow} (h : decisionRow sha256 config g = .ok d) : d.groupIdentifier = identifierOf sha256 g.anchor :=
  (groupDecision_cases (decisionRow_eq h).1).1

section
variable {sha256 : Bytes → Bytes} {config : DevelopmentSplitConfig} {budget : Nat → Bool}

theorem finish_ok {finished : List GroupAccumulator} {s : DecisionBuild}
    (hdistinct : Distinct sha256 (finished ++ s.current.toList)) : ∃ s', s.finish sha256 config = .ok s' := by
  cases hcurrent : s.current with
  | none =>
    rw [DecisionBuild.finish, hcurrent]
    exact ⟨s, rfl⟩
  | some g =>
    have hg : g ∈ finished ++ s.current.toList := by
      rw [hcurrent]
      exact List.mem_append_right _ (List.mem_singleton_self g)
    obtain ⟨d, hd⟩ := groupDecision_ok sha256 config (hdistinct.positive g hg) (hdistinct.bounded g hg)
    rw [finish_eq hcurrent, decisionRow, hd]
    exact ⟨_, rfl⟩

theorem flush_ok (hbudget : ∀ n, budget n = true) (hdigest : ∀ m, sha256 m ≠ []) {finished : List GroupAccumulator}
    {s : DecisionBuild} (hbuilt : Built sha256 config finished s) (hdistinct : Distinct sha256 finished) :
    ∃ s', s.flush budget = .ok s' := by
  have hanchors : (s.decisions ++ s.decisionBatch).map (·.anchor) = finished.map (·.anchor) :=
    (map_eq_of_forall₂ hbuilt.rows fun g d h => (decisionRow_eq h).2.1.symm).symm
  have hids : (s.decisions ++ s.decisionBatch).map (·.groupIdentifier) =
      finished.map fun g => identifierOf sha256 g.anchor :=
    (map_eq_of_forall₂ hbuilt.rows fun g d h => (decisionRow_identifier h).symm).symm
  have hnodup := hids ▸ hdistinct.identifiers
  have hinsert := insertDecisions_ok (hanchors ▸ hdistinct.anchors) hnodup
  have hpolicy : validatePolicyAssignmentBatch "unsw_nb15" s.policyBatch = .ok () := by
    rw [List.map_append, List.nodup_append] at hnodup
    refine validateAssignments_ok (fun a ha => ?_) ?_ fun _ _ => rfl
    · rw [hbuilt.policy, List.mem_flatMap] at ha
      obtain ⟨d, hd, ha⟩ := ha
      obtain ⟨hid, hsplit⟩ := policyOf_allowed ha
      have hmem : d.groupIdentifier ∈ (s.decisions ++ s.decisionBatch).map (·.groupIdentifier) :=
        List.mem_map_of_mem (List.mem_append_right _ hd)
      rw [hids, List.mem_map] at hmem
      obtain ⟨g, -, hg⟩ := hmem
      exact ⟨hid ▸ hg ▸ hdigest _, hsplit⟩
    · rw [hbuilt.policy]
      exact hnodup.2.1.sublist (policyBatch_sublist _)
  unfold DecisionBuild.flush
  split
  · exact ⟨s, rfl⟩
  · rw [hpolicy, Except.ok_bind, hinsert, Except.ok_bind, if_pos (hbudget _)]
    exact ⟨_, rfl⟩

theorem flushFull_ok (hbudget : ∀ n, budget n = true) (hdigest : ∀ m, sha256 m ≠ []) {finished : List GroupAccumulator}
    {s : DecisionBuild} (hbuilt : Built sha256 config finished s) (hdistinct : Distinct sha256 finished) :
    ∃ s', s.flushFull config budget = .ok s' := by
  unfold DecisionBuild.flushFull
  split
  · exact flush_ok hbudget hdigest hbuilt hdistinct
  · exact ⟨s, rfl⟩

/-- **The loop returns** when the groups are distinct and the budget lasts. -/
theorem decisionLoop_ok (hbudget : ∀ n, budget n = true) (hdigest : ∀ m, sha256 m ≠ []) :
    ∀ {rows : List GroupedRow} {finished : List GroupAccumulator} {s : DecisionBuild},
    Built sha256 config finished s → Distinct sha256 (finished ++ groupsFrom s.current rows) →
    ∃ s' s'', decisionLoop sha256 config budget rows s = .ok s' ∧ s'.finish sha256 config = .ok s''
  | [], finished, s, _, hdistinct => by
    obtain ⟨s', hs'⟩ : ∃ s', s.finish sha256 config = .ok s' := finish_ok hdistinct
    exact ⟨s, s', rfl, hs'⟩
  | row :: rest, finished, s, hbuilt, hdistinct => by
    rw [groupsFrom] at hdistinct
    rw [decisionLoop, DecisionBuild.step]
    cases hfilter : s.current.filter fun current => current.anchor = row.parent with
    | some g =>
      rw [hfilter] at hdistinct
      have hbuilt₁ : Built sha256 config finished (s.includeRecord row g) := ⟨hbuilt.rows, hbuilt.policy, hbuilt.count⟩
      exact decisionLoop_ok hbudget hdigest hbuilt₁ hdistinct
    | none =>
      rw [hfilter] at hdistinct
      dsimp only at hdistinct ⊢
      rw [← List.append_assoc] at hdistinct
      obtain ⟨s₂, hfinish⟩ : ∃ s', s.finish sha256 config = .ok s' := finish_ok hdistinct.left
      have hbuilt₂ := finish_built hbuilt hfinish
      obtain ⟨s₃, hflush⟩ := flushFull_ok hbudget hdigest hbuilt₂ hdistinct.left
      have hbuilt₃ := flushFull_built hbuilt₂ hflush
      have hbuilt₄ : Built sha256 config (finished ++ s.current.toList)
          (s₃.includeRecord row { anchor := row.parent }) := ⟨hbuilt₃.rows, hbuilt₃.policy, hbuilt₃.count⟩
      rw [hfinish, Except.ok_bind, hflush, Except.ok_bind]
      exact decisionLoop_ok hbudget hdigest hbuilt₄ hdistinct

end

end ThreatFusion.Datasets
