import ThreatFusion.Datasets.Decisions
/-
# The split keeps groups together and periods apart

* `decisions_complete`: one decision for each group, that of its rows, which stays in its period.
* `split_has_no_leakage`: linked records get the same decision.
-/
namespace ThreatFusion.Datasets
open Py Grouping UnionFind Relation

/-! ## Labels -/

/-- The same evidence with other labels. -/
def Evidence.relabel (ev : Evidence) (label : Nat → ℤ) : Evidence where
  records := ev.records.map fun r => { r with label := label r.rowid }
  timing := ev.timing
  rowids := by
    rw [List.map_map]
    exact ev.rowids
  recordIds := ev.recordIds

def GroupedRow.relabel (label : Nat → ℤ) (row : GroupedRow) : GroupedRow := { row with label := label row.recordId }

def DecisionRow.unlabelled (d : DecisionRow) : DecisionRow := { d with benignCount := 0, attackCount := 0 }

theorem joinedRows_relabel (ev : Evidence) (label : Nat → ℤ) (groups : Groups) :
    joinedRows (ev.relabel label) groups = (joinedRows ev groups).map (GroupedRow.relabel label) := by
  unfold joinedRows
  rw [List.map_filterMap]
  refine List.filterMap_congr fun g _ => ?_
  have hfind : (ev.relabel label).records.find? (fun r => r.rowid = g.1) =
      (ev.records.find? fun r => r.rowid = g.1).map fun r => { r with label := label r.rowid } := by
    rw [Evidence.relabel, List.find?_map]
    rfl
  rw [hfind]
  cases hr : ev.records.find? fun r => r.rowid = g.1 with
  | none => rfl
  | some r =>
    have hrowid : r.rowid = g.1 := by simpa using List.find?_some hr
    cases ht : ev.timing.find? fun t => t.recordId = g.1 with
    | none => simp [Evidence.relabel, ht]
    | some t => simp [Evidence.relabel, ht, GroupedRow.relabel, hrowid]

theorem accumulatorOf_relabel (label : Nat → ℤ) (rows : List GroupedRow) (anchor : Nat) :
    (accumulatorOf (rows.map (GroupedRow.relabel label)) anchor).unlabelled = (accumulatorOf rows anchor).unlabelled := by
  have hfilter : (rows.map (GroupedRow.relabel label)).filter (·.parent = anchor) =
      (rows.filter (·.parent = anchor)).map (GroupedRow.relabel label) := by
    rw [List.filter_map]
    rfl
  have key : ∀ rows : List GroupedRow, ∀ g g' : GroupAccumulator, g'.unlabelled = g.unlabelled →
      (g'.includeAll (rows.map (GroupedRow.relabel label))).unlabelled = (g.includeAll rows).unlabelled := by
    intro rows
    induction rows with
    | nil => exact fun _ _ h => h
    | cons row rest ih => exact fun g g' h => ih _ _ (GroupAccumulator.includeRow_unlabelled h.symm row _).symm
  rw [accumulatorOf, hfilter]
  exact key _ _ _ rfl

/-- The decision does not look at the label counts, nor at the batch size. -/
theorem groupDecision_unlabelled (sha256 : Bytes → Bytes) (config config' : DevelopmentSplitConfig)
    (g : GroupAccumulator) : groupDecision sha256 config g.unlabelled = groupDecision sha256 config' g := by
  unfold groupDecision
  rw [config.frozen, config'.frozen]
  rfl

theorem decisionRow_config (sha256 : Bytes → Bytes) (config config' : DevelopmentSplitConfig) (g : GroupAccumulator) :
    decisionRow sha256 config g = decisionRow sha256 config' g := by
  rw [decisionRow, decisionRow, ← groupDecision_unlabelled sha256 config config g,
    groupDecision_unlabelled sha256 config config' g]

theorem decisionRow_unlabelled {sha256 : Bytes → Bytes} {config config' : DevelopmentSplitConfig}
    {g g' : GroupAccumulator} (h : g.unlabelled = g'.unlabelled) {d d' : DecisionRow}
    (hd : decisionRow sha256 config g = .ok d) (hd' : decisionRow sha256 config' g' = .ok d') :
    d.unlabelled = d'.unlabelled := by
  have hsame : groupDecision sha256 config g = groupDecision sha256 config' g' := by
    rw [← groupDecision_unlabelled sha256 config config g, h, groupDecision_unlabelled sha256 config config' g']
  have hanchor : g.anchor = g'.anchor := congrArg (·.anchor) h
  have htotal : g.total = g'.total := congrArg (·.total) h
  unfold decisionRow at hd hd'
  rw [hsame] at hd
  cases hdecision : groupDecision sha256 config' g' with
  | error e =>
    rw [hdecision] at hd
    cases hd
  | ok r =>
    rw [hdecision] at hd hd'
    cases hd
    cases hd'
    rw [DecisionRow.unlabelled, DecisionRow.unlabelled, hanchor, htotal]

/-! ## The table of decisions -/

/-- The table of the groups of `rows`. -/
structure Tabulated (sha256 : Bytes → Bytes) (config : DevelopmentSplitConfig) (rows : List GroupedRow)
    (decisions : List DecisionRow) : Prop where
  ascending : (decisions.map (·.anchor)).Pairwise (· < ·)
  anchors : ∀ a, a ∈ decisions.map (·.anchor) ↔ ∃ row ∈ rows, row.parent = a
  decision : ∀ d ∈ decisions, decisionRow sha256 config (accumulatorOf rows d.anchor) = .ok d

theorem decisionRows_perm (ev : Evidence) (groups : Groups) : (decisionRows ev groups).Perm (joinedRows ev groups) :=
  List.perm_insertionSort _ _

theorem decisionRows_sorted (ev : Evidence) (groups : Groups) :
    (decisionRows ev groups).Pairwise fun a b => a.parent ≤ b.parent :=
  (List.pairwise_insertionSort (lexLe (·.parent) (·.recordId)) (joinedRows ev groups)).imp fun h =>
    h.elim le_of_lt fun h => h.1.le

theorem accumulatorOf_perm {rows rows' : List GroupedRow} (h : rows.Perm rows') (anchor : Nat) :
    accumulatorOf rows anchor = accumulatorOf rows' anchor :=
  GroupAccumulator.includeAll_perm _ (h.filter _)

section
variable {sha256 : Bytes → Bytes} {config config' : DevelopmentSplitConfig} {budget : Nat → Bool} {ev : Evidence}
  {groups : Groups} {n : Nat} {rows rows' : List GroupedRow} {decisions decisions' : List DecisionRow}

theorem buildGroupDecisions_built (h : buildGroupDecisions sha256 config budget ev groups = .ok (n, decisions)) :
    List.Forall₂ (fun g d => decisionRow sha256 config g = .ok d) (groupsFrom none (decisionRows ev groups)) decisions ∧
    n = decisions.length := by
  obtain ⟨s, hloop, h⟩ := Except.bind_eq_ok.1 h
  obtain ⟨s', hfinish, h⟩ := Except.bind_eq_ok.1 h
  obtain ⟨s'', hflush, h⟩ := Except.bind_eq_ok.1 h
  cases h
  rw [batchedRows_eq] at hloop
  have hempty : Built sha256 config [] {} := ⟨.nil, rfl, rfl⟩
  have hbuilt := decisionLoop_built hempty hloop hfinish
  obtain ⟨hbuilt, -, hflushed⟩ := flush_built hbuilt hflush
  have hrows := hbuilt.rows
  rw [hflushed, List.append_nil] at hrows
  exact ⟨hrows, by rw [hbuilt.count, ← hrows.length_eq]⟩

theorem buildGroupDecisions_tabulated (h : buildGroupDecisions sha256 config budget ev groups = .ok (n, decisions)) :
    Tabulated sha256 config (joinedRows ev groups) decisions := by
  obtain ⟨hrows, -⟩ := buildGroupDecisions_built h
  obtain ⟨hascending, hanchors, heach⟩ := groupsFrom_spec (decisionRows_sorted ev groups)
  have hmap := map_eq_of_forall₂ hrows fun g d hd => (decisionRow_eq hd).2.1.symm
  refine ⟨hmap ▸ hascending, fun a => ?_, fun d hd => ?_⟩
  · rw [← hmap, hanchors]
    simp only [(decisionRows_perm ev groups).mem_iff]
  · obtain ⟨g, hg, hrow⟩ := exists_of_forall₂ hrows hd
    rw [← accumulatorOf_perm (decisionRows_perm ev groups), (decisionRow_eq hrow).2.1, ← heach g hg]
    exact hrow

/-- Two tables of the same groups, row by row. -/
theorem Tabulated.map_eq {β : Type} {f : DecisionRow → β} (h : Tabulated sha256 config rows decisions)
    (h' : Tabulated sha256 config' rows' decisions')
    (hsame : ∀ a, (∃ row ∈ rows, row.parent = a) ↔ ∃ row ∈ rows', row.parent = a)
    (hrow : ∀ a d d', decisionRow sha256 config (accumulatorOf rows a) = .ok d →
      decisionRow sha256 config' (accumulatorOf rows' a) = .ok d' → f d = f d') :
    decisions.map f = decisions'.map f := by
  have hanchors : decisions.map (·.anchor) = decisions'.map (·.anchor) := by
    have hnodup := h.ascending.imp fun {a b} (hab : a < b) => hab.ne
    have hnodup' := h'.ascending.imp fun {a b} (hab : a < b) => hab.ne
    refine List.Perm.eq_of_pairwise (fun a b _ _ hab hba => absurd (hab.trans hba) (lt_irrefl a)) h.ascending h'.ascending
      ((List.perm_ext_iff_of_nodup hnodup hnodup').2 fun a => ?_)
    rw [h.anchors, h'.anchors, hsame]
  have hlength : decisions.length = decisions'.length := by simpa using congrArg List.length hanchors
  refine List.ext_getElem (by simpa using hlength) fun i hi hi' => ?_
  rw [List.length_map] at hi hi'
  have hanchor : decisions[i].anchor = decisions'[i].anchor := by
    have := List.getElem_of_eq hanchors (by simpa using hi)
    simpa using this
  rw [List.getElem_map, List.getElem_map]
  exact hrow _ _ _ (h.decision _ (List.getElem_mem hi)) (hanchor ▸ h'.decision _ (List.getElem_mem hi'))

end

/-! ## The results -/

def DISPOSITIONS : List Disposition := [.train, .validation, .test, .quarantine]

def REASONS : List QuarantineReason :=
  [.developmentTestGroupOverlap, .unexplainedTimingGroup, .invalidTimingGroup, .periodBoundaryIntervalGroup,
    .outsidePolicyPeriodGroup]

/-- The groups that a reason excludes. -/
def exclusionCounts (decisions : List DecisionRow) (reason : QuarantineReason) : SplitCounts :=
  countsOf (decisions.filter (·.primaryReason = some reason))

/-- Rows whose groups have identifiers, and different ones. -/
structure Identified (sha256 : Bytes → Bytes) (rows : List GroupedRow) : Prop where
  positive : ∀ row ∈ rows, 0 < row.parent
  bounded : ∀ row ∈ rows, row.parent < 2 ^ 64
  digests : ∀ m, (sha256 m).length = 32
  distinct : ∀ a ∈ rows, ∀ b ∈ rows, identifierOf sha256 a.parent = identifierOf sha256 b.parent → a.parent = b.parent

/-- A table with one decision for each group. -/
structure CompleteSplit (sha256 : Bytes → Bytes) (config : DevelopmentSplitConfig) (ev : Evidence) (groups : Groups)
    (n : Nat) (decisions : List DecisionRow) : Prop where
  tabulated : Tabulated sha256 config (joinedRows ev groups) decisions
  count : n = decisions.length
  batches : ∀ config' budget' n' decisions',
    buildGroupDecisions sha256 config' budget' ev groups = .ok (n', decisions') → decisions' = decisions
  labels : ∀ label config' budget' n' decisions',
    buildGroupDecisions sha256 config' budget' (ev.relabel label) groups = .ok (n', decisions') →
      decisions'.map DecisionRow.unlabelled = decisions.map DecisionRow.unlabelled
  groupCounts : ∀ rejected,
    (DISPOSITIONS.map fun d => (splitCounts decisions rejected (some d)).groupCount.getD 0).sum = n ∧
    (REASONS.map fun r => (exclusionCounts decisions r).groupCount.getD 0).sum =
      (splitCounts decisions rejected (some .quarantine)).groupCount.getD 0
  rowCounts : ∀ rejected,
    (DISPOSITIONS.map fun d => (splitCounts decisions rejected (some d)).totalCount).sum =
      (joinedRows ev groups).length ∧
    (REASONS.map fun r => (exclusionCounts decisions r).totalCount).sum =
      (splitCounts decisions rejected (some .quarantine)).totalCount
  accepted : (groups.map Prod.fst).Nodup → (∀ x, x ∈ groups.map Prod.fst ↔ ∃ r ∈ ev.eligible, r.rowid = x) →
    (joinedRows ev groups).length = ev.eligible.length
  development : ∀ d ∈ decisions, d.disposition = .train ∨ d.disposition = .validation →
    ∀ row ∈ joinedRows ev groups, row.parent = d.anchor → startsInDevelopment row ∧ row.endUs ≤ DEVELOPMENT_END_US
  test : ∀ d ∈ decisions, d.disposition = .test →
    ∀ row ∈ joinedRows ev groups, row.parent = d.anchor → startsInTest row ∧ row.endUs ≤ TEST_END_US

theorem joinedRows_length {ev : Evidence} {groups : Groups} (hnodup : (groups.map Prod.fst).Nodup)
    (hkeys : ∀ x, x ∈ groups.map Prod.fst ↔ ∃ r ∈ ev.eligible, r.rowid = x) :
    (joinedRows ev groups).length = ev.eligible.length := by
  have hall : (joinedRows ev groups).length = groups.length := by
    unfold joinedRows
    rw [List.length_filterMap_eq_countP, List.countP_eq_length]
    intro g hg
    obtain ⟨r, hr, hrowid⟩ := (hkeys g.1).1 (List.mem_map_of_mem hg)
    obtain ⟨hrecord, heligible⟩ := List.mem_filter.1 hr
    obtain ⟨t, ht, hid⟩ := List.any_eq_true.1 (Bool.and_eq_true _ _ ▸ heligible).2
    have hrecords : (ev.records.find? fun r => r.rowid = g.1).isSome = true :=
      List.find?_isSome.2 ⟨r, hrecord, by simpa using hrowid⟩
    have htiming : (ev.timing.find? fun t => t.recordId = g.1).isSome = true :=
      List.find?_isSome.2 ⟨t, ht, by simpa [hrowid] using hid⟩
    obtain ⟨r', hr'⟩ := Option.isSome_iff_exists.1 hrecords
    obtain ⟨t', ht'⟩ := Option.isSome_iff_exists.1 htiming
    rw [hr', ht']
    rfl
  have hids : (ev.eligible.map (·.rowid)).Nodup := ev.rowids.sublist (List.filter_sublist.map _)
  have hperm : (groups.map Prod.fst).Perm (ev.eligible.map (·.rowid)) :=
    (List.perm_ext_iff_of_nodup hnodup hids).2 fun x => by rw [hkeys, List.mem_map]
  rw [hall, ← List.length_map Prod.fst, hperm.length_eq, List.length_map]

section
variable {sha256 : Bytes → Bytes} {config config' : DevelopmentSplitConfig} {budget : Nat → Bool} {ev : Evidence}
  {groups : Groups} {n : Nat} {rows : List GroupedRow} {decisions decisions' : List DecisionRow}

/-- The group of a decision, and what its disposition says. -/
theorem Tabulated.cases (h : Tabulated sha256 config rows decisions) {d : DecisionRow} (hd : d ∈ decisions) :
    d.disposition = .quarantine ∧ d.primaryReason.isSome = true ∨
      d.primaryReason = none ∧ (d.disposition = .train ∨ d.disposition = .validation) ∧
        (∀ row ∈ rows, row.parent = d.anchor → startsInDevelopment row ∧ row.endUs ≤ DEVELOPMENT_END_US) ∨
      d.primaryReason = none ∧ d.disposition = .test ∧
        ∀ row ∈ rows, row.parent = d.anchor → startsInTest row ∧ row.endUs ≤ TEST_END_US := by
  have hdecision := (decisionRow_eq (h.decision d hd)).1
  have hwindow := GroupAccumulator.includeAll_window { anchor := d.anchor } (rows.filter (·.parent = d.anchor))
  have hmem {row : GroupedRow} (hrow : row ∈ rows) (hparent : row.parent = d.anchor) :
      row ∈ rows.filter (·.parent = d.anchor) := List.mem_filter.2 ⟨hrow, decide_eq_true hparent⟩
  rcases (groupDecision_cases hdecision).2 with hquarantine | ⟨hmask, hreason, hdev, hsplit⟩ | ⟨hmask, hreason, hdev, hsplit⟩
  · exact .inl hquarantine
  · obtain ⟨hone, hfailures, houtside⟩ := quarantineMask_eq_zero hmask
    have htest : (accumulatorOf rows d.anchor).testStarts = 0 := by
      by_contra htest
      exact hone ⟨hdev, htest⟩
    exact .inr (.inl ⟨hreason, hsplit, fun row hrow hparent =>
      hwindow.development htest houtside hfailures row (hmem hrow hparent)⟩)
  · obtain ⟨-, hfailures, houtside⟩ := quarantineMask_eq_zero hmask
    exact .inr (.inr ⟨hreason, hsplit, fun row hrow hparent =>
      hwindow.test hdev houtside hfailures row (hmem hrow hparent)⟩)

/-- A sum over the reasons is one over the quarantined groups. -/
theorem Tabulated.sum_reasons (h : Tabulated sha256 config rows decisions) (weight : DecisionRow → Nat) :
    (REASONS.map fun r => ((decisions.filter (·.primaryReason = some r)).map weight).sum).sum =
      ((decisions.filter (·.disposition = .quarantine)).map weight).sum := by
  have hclasses := sum_classes (·.primaryReason) weight (REASONS.map some) (by decide) decisions
  rw [List.map_map] at hclasses
  refine hclasses.trans ?_
  congr 2
  refine List.filter_congr fun d hd => decide_eq_decide.2 ?_
  have hreasons : ∀ reason : QuarantineReason, some reason ∈ REASONS.map some := by
    intro reason
    cases reason <;> decide
  rcases h.cases hd with ⟨hdisposition, hreason⟩ | ⟨hreason, hsplit, -⟩ | ⟨hreason, hsplit, -⟩
  · obtain ⟨reason, hreason⟩ := Option.isSome_iff_exists.1 hreason
    rw [hreason]
    exact ⟨fun _ => hdisposition, fun _ => hreasons reason⟩
  · rw [hreason]
    refine ⟨fun hmem => absurd hmem (by decide), fun hquarantine => ?_⟩
    rw [hquarantine] at hsplit
    exact absurd hsplit (by decide)
  · rw [hreason]
    refine ⟨fun hmem => absurd hmem (by decide), fun hquarantine => ?_⟩
    rw [hquarantine] at hsplit
    cases hsplit

theorem sum_dispositions (weight : DecisionRow → Nat) (decisions : List DecisionRow) :
    (DISPOSITIONS.map fun c => ((decisions.filter (·.disposition = c)).map weight).sum).sum =
      (decisions.map weight).sum := by
  have hall : ∀ disposition : Disposition, disposition ∈ DISPOSITIONS := by
    intro disposition
    cases disposition <;> decide
  rw [sum_classes (·.disposition) weight DISPOSITIONS (by decide), List.filter_eq_self.2 fun d _ => decide_eq_true (hall _)]

end

/-- The groups of identified rows are distinct. -/
theorem Identified.groups {sha256 : Bytes → Bytes} {ev : Evidence} {groups : Groups}
    (h : Identified sha256 (joinedRows ev groups)) : Distinct sha256 (groupsFrom none (decisionRows ev groups)) := by
  obtain ⟨hascending, hanchors, -⟩ := groupsFrom_spec (decisionRows_sorted ev groups)
  have hrow {g : GroupAccumulator} (hg : g ∈ groupsFrom none (decisionRows ev groups)) :
      ∃ row ∈ joinedRows ev groups, row.parent = g.anchor := by
    obtain ⟨row, hrow, hparent⟩ := (hanchors g.anchor).1 (List.mem_map_of_mem hg)
    exact ⟨row, (decisionRows_perm ev groups).mem_iff.1 hrow, hparent⟩
  have hnodup := hascending.imp fun {a b} (hab : a < b) => hab.ne
  refine ⟨fun g hg => ?_, fun g hg => ?_, hnodup, ?_⟩
  · obtain ⟨row, hmem, hparent⟩ := hrow hg
    exact hparent ▸ h.positive row hmem
  · obtain ⟨row, hmem, hparent⟩ := hrow hg
    exact hparent ▸ h.bounded row hmem
  · have hmap : (groupsFrom none (decisionRows ev groups)).map (fun g => identifierOf sha256 g.anchor) =
        ((groupsFrom none (decisionRows ev groups)).map (·.anchor)).map (identifierOf sha256) := by
      rw [List.map_map]
      rfl
    rw [hmap]
    refine List.Nodup.map_on (fun a ha b hb hab => ?_) hnodup
    obtain ⟨row, hrow, rfl⟩ := (hanchors a).1 ha
    obtain ⟨row', hrow', rfl⟩ := (hanchors b).1 hb
    exact h.distinct row ((decisionRows_perm ev groups).mem_iff.1 hrow) row'
      ((decisionRows_perm ev groups).mem_iff.1 hrow') hab

theorem buildGroupDecisions_ok (sha256 : Bytes → Bytes) (config : DevelopmentSplitConfig) {budget : Nat → Bool}
    {ev : Evidence} {groups : Groups} (hidentified : Identified sha256 (joinedRows ev groups))
    (hbudget : ∀ n, budget n = true) : ∃ result, buildGroupDecisions sha256 config budget ev groups = .ok result := by
  have hdigest : ∀ m, sha256 m ≠ [] := by
    intro m h
    have := hidentified.digests m
    rw [h] at this
    cases this
  have hempty : Built sha256 config [] {} := ⟨.nil, rfl, rfl⟩
  have hdistinct := hidentified.groups
  obtain ⟨s, s', hloop, hfinish⟩ := decisionLoop_ok hbudget hdigest hempty hdistinct
  obtain ⟨s'', hflush⟩ := flush_ok hbudget hdigest (decisionLoop_built hempty hloop hfinish) hdistinct
  rw [buildGroupDecisions, batchedRows_eq, hloop, Except.ok_bind, hfinish, Except.ok_bind, hflush, Except.ok_bind]
  exact ⟨_, rfl⟩

/-- **One decision for each group.** The table is made when the identifiers of the groups differ and the budget
lasts; it never depends on the batches or the labels, counts every row once, and keeps the splits in their
periods. -/
theorem decisions_complete (sha256 : Bytes → Bytes) (config : DevelopmentSplitConfig) (budget : Nat → Bool)
    (ev : Evidence) (groups : Groups) :
    (Identified sha256 (joinedRows ev groups) → (∀ n, budget n = true) →
      ∃ result, buildGroupDecisions sha256 config budget ev groups = .ok result) ∧
    ∀ n decisions, buildGroupDecisions sha256 config budget ev groups = .ok (n, decisions) →
      CompleteSplit sha256 config ev groups n decisions := by
  refine ⟨fun hidentified hbudget => buildGroupDecisions_ok sha256 config hidentified hbudget, fun n decisions h => ?_⟩
  have htable := buildGroupDecisions_tabulated h
  obtain ⟨hrows, hcount⟩ := buildGroupDecisions_built h
  have hlengths (xs : List DecisionRow) : (xs.map fun _ => 1).sum = xs.length := by simp
  refine
    { tabulated := htable, count := hcount, batches := fun config' budget' n' decisions' h' => ?_,
      labels := fun label config' budget' n' decisions' h' => ?_, groupCounts := fun rejected => ⟨?_, ?_⟩,
      rowCounts := fun rejected => ⟨?_, htable.sum_reasons (·.totalCount)⟩,
      accepted := fun hnodup hkeys => joinedRows_length hnodup hkeys,
      development := fun d hd hsplit => ?_, test := fun d hd hsplit => ?_ }
  · have hmap := (buildGroupDecisions_tabulated h').map_eq (f := id) htable (fun _ => Iff.rfl) fun a d d' hd hd' => by
      rw [decisionRow_config sha256 config config'] at hd'
      exact Except.ok.inj (hd.symm.trans hd')
    rwa [List.map_id, List.map_id] at hmap
  · refine (buildGroupDecisions_tabulated h').map_eq htable (fun a => ?_) fun a d d' hd hd' => ?_
    · rw [joinedRows_relabel]
      simp [GroupedRow.relabel]
    · rw [joinedRows_relabel] at hd
      exact decisionRow_unlabelled (accumulatorOf_relabel label _ a) hd hd'
  · have hsum := sum_dispositions (fun _ => 1) decisions
    simp only [hlengths] at hsum
    exact hsum.trans hcount.symm
  · have hsum := htable.sum_reasons fun _ => 1
    simp only [hlengths] at hsum
    exact hsum
  · refine (sum_dispositions (·.totalCount) decisions).trans ?_
    rw [← map_eq_of_forall₂ (f := (·.total)) hrows fun g d hd => (decisionRow_eq hd).2.2.symm, groupsFrom_total,
      (decisionRows_perm ev groups).length_eq]
    exact Nat.zero_add _
  · rcases htable.cases hd with ⟨hquarantine, -⟩ | ⟨-, -, hwindow⟩ | ⟨-, htest, -⟩
    · rw [hquarantine] at hsplit
      exact absurd hsplit (by decide)
    · exact hwindow
    · rw [htest] at hsplit
      exact absurd hsplit (by decide)
  · rcases htable.cases hd with ⟨hquarantine, -⟩ | ⟨-, hdevelopment, -⟩ | ⟨-, -, hwindow⟩
    · rw [hquarantine] at hsplit
      cases hsplit
    · rw [hsplit] at hdevelopment
      exact absurd hdevelopment (by decide)
    · exact hwindow

/-- A grouped record has a row in the join. -/
theorem mem_joinedRows {ev : Evidence} {groups : Groups} {r : PreflightRecord} (hr : r ∈ ev.eligible) {p : Nat}
    (h : groups.lookup r.rowid = some p) : ∃ row ∈ joinedRows ev groups, row.parent = p := by
  obtain ⟨hrecord, heligible⟩ := List.mem_filter.1 hr
  obtain ⟨t, ht, hid⟩ := List.any_eq_true.1 (Bool.and_eq_true _ _ ▸ heligible).2
  have hrecords : (ev.records.find? fun s => s.rowid = r.rowid).isSome = true :=
    List.find?_isSome.2 ⟨r, hrecord, decide_eq_true rfl⟩
  have htiming : (ev.timing.find? fun t => t.recordId = r.rowid).isSome = true :=
    List.find?_isSome.2 ⟨t, ht, by simpa using hid⟩
  obtain ⟨r', hr'⟩ := Option.isSome_iff_exists.1 hrecords
  obtain ⟨t', ht'⟩ := Option.isSome_iff_exists.1 htiming
  refine ⟨⟨p, r.rowid, r'.startUs, r'.endUs, r'.label, t'.category⟩, List.mem_filterMap.2 ?_, rfl⟩
  obtain ⟨before, after, hsplit, -⟩ := List.lookup_eq_some_iff.1 h
  exact ⟨(r.rowid, p), hsplit ▸ List.mem_append_right _ List.mem_cons_self, by rw [hr', ht']⟩

/-- **Linked records are never split.** Two records have one group when a chain of links joins them; then they have
one decision, so that they are never in different ones of train, validation and test. -/
theorem split_has_no_leakage (sha256 : Bytes → Bytes) (config : DevelopmentSplitConfig) (budget : Budget) (ev : Evidence)
    (hordered : ∀ r ∈ ev.eligible, r.startUs ≤ r.endUs) :
    ((∀ n, budget.ranges n = true) → (∀ n, budget.compression n = true) →
      ∃ groups, assignGroups config budget ev = .ok groups) ∧
    ∀ groups, assignGroups config budget ev = .ok groups →
      (∀ x, x ∈ groups.map Prod.fst ↔ ∃ r ∈ ev.eligible, r.rowid = x) ∧
      (∀ r ∈ ev.eligible, ∀ s ∈ ev.eligible,
        groups.lookup r.rowid = groups.lookup s.rowid ↔ ReflTransGen (Linked ev) r s) ∧
      ∀ n decisions, buildGroupDecisions sha256 config budget.decisions ev groups = .ok (n, decisions) →
        ∀ r ∈ ev.eligible, ∃ d ∈ decisions, groups.lookup r.rowid = some d.anchor ∧
          ∀ s ∈ ev.eligible, ReflTransGen (Linked ev) r s →
            ∀ e ∈ decisions, groups.lookup s.rowid = some e.anchor → e.disposition = d.disposition := by
  obtain ⟨hreturns, hgroups⟩ := groups_iff config budget ev hordered
  refine ⟨hreturns, fun groups hok => ?_⟩
  obtain ⟨hkeys, hlinked⟩ := hgroups groups hok
  refine ⟨hkeys, hlinked, fun n decisions hdecisions r hr => ?_⟩
  have htable := buildGroupDecisions_tabulated hdecisions
  have hp := lookup_of_key ((hkeys r.rowid).2 ⟨r, hr, rfl⟩)
  generalize parents groups r.rowid = p at hp
  obtain ⟨d, hd, hanchor⟩ := List.mem_map.1 ((htable.anchors p).2 (mem_joinedRows hr hp))
  refine ⟨d, hd, by rw [hp, hanchor], fun s hs hchain e he hlookup => ?_⟩
  have hsame : e.anchor = d.anchor := by
    rw [← (hlinked r hr s hs).2 hchain, hp, Option.some_inj] at hlookup
    rw [← hlookup, hanchor]
  have hrow := htable.decision e he
  rw [hsame, htable.decision d hd] at hrow
  rw [Except.ok.inj hrow]

/-- Three flows: the second touches the first, the third repeats the source record of the second. -/
def touchingFlows : Evidence where
  records := [⟨1, 0, [1], true, [7], 0, 5, 0⟩, ⟨2, 0, [2], true, [7], 5, 8, 1⟩, ⟨3, 1, [2], true, [9], 20, 30, 1⟩]
  timing := [⟨1, 0⟩, ⟨2, 0⟩, ⟨3, 0⟩]
  rowids := by decide
  recordIds := by decide

theorem split_has_no_leakage_touching : ∃ groups,
    assignGroups ⟨ASSIGNMENT_SEED, 1, rfl, by decide⟩ ⟨fun _ => true, fun _ => true, fun _ => true⟩ touchingFlows =
      .ok groups ∧
    groups.lookup 1 = groups.lookup 3 := by
  obtain ⟨hreturns, hgroups⟩ := split_has_no_leakage id ⟨ASSIGNMENT_SEED, 1, rfl, by decide⟩
    ⟨fun _ => true, fun _ => true, fun _ => true⟩ touchingFlows (by decide)
  obtain ⟨groups, hok⟩ := hreturns (fun _ => rfl) fun _ => rfl
  obtain ⟨-, hlinked, -⟩ := hgroups groups hok
  refine ⟨groups, hok, (hlinked ⟨1, 0, [1], true, [7], 0, 5, 0⟩ (by decide) ⟨3, 1, [2], true, [9], 20, 30, 1⟩
    (by decide)).2 ?_⟩
  have first : Linked touchingFlows ⟨1, 0, [1], true, [7], 0, 5, 0⟩ ⟨2, 0, [2], true, [7], 5, 8, 1⟩ :=
    ⟨by decide, by decide, .inr ⟨rfl, by decide, by decide⟩⟩
  have second : Linked touchingFlows ⟨2, 0, [2], true, [7], 5, 8, 1⟩ ⟨3, 1, [2], true, [9], 20, 30, 1⟩ :=
    ⟨by decide, by decide, .inl rfl⟩
  exact (ReflTransGen.single first).tail second

end ThreatFusion.Datasets
