import ThreatFusion.Datasets.PreflightPasses
/-
# Overlaps of one tuple

The overlap pass sweeps one component for all files and one for each file, in the same rows. What it holds for a
scope is the open component of the sweep of the records of that scope (`openSizes`), so it includes the sizes of
that sweep. The union edges of the split are the pairs of the same sweep over all files.
-/
namespace ThreatFusion.Datasets
open Py Grouping IntervalSweep Relation

variable {fileCount : ℕ}

/-- Two records of one tuple whose closed intervals overlap or touch. -/
structure PreflightRow.Overlaps (a b : PreflightRow fileCount) : Prop where
  tuple : a.tupleFp = b.tupleFp
  before : a.startUs ≤ b.endUs
  after : b.startUs ≤ a.endUs

theorem PreflightRow.Overlaps.symm {a b : PreflightRow fileCount} (h : a.Overlaps b) : b.Overlaps a :=
  ⟨h.tuple.symm, h.after, h.before⟩

/-- Linked through records of the list. -/
def Connected (records : List (PreflightRow fileCount)) : PreflightRow fileCount → PreflightRow fileCount → Prop :=
  ReflTransGen fun a b => a ∈ records ∧ b ∈ records ∧ a.Overlaps b

theorem connected_congr {xs ys : List (PreflightRow fileCount)} (h : ∀ r, r ∈ xs ↔ r ∈ ys) :
    Connected xs = Connected ys := by
  simp only [Connected, h]

def recordSpan (r : PreflightRow fileCount) : Span (List ℕ) ℤ (PreflightRow fileCount) :=
  ⟨blobKey r.tupleFp, r.startUs, r.endUs, r⟩

theorem chained_iff (records : List (PreflightRow fileCount)) (a b : PreflightRow fileCount) :
    Chained (records.map recordSpan) a b ↔ Connected records a b := by
  have hrel : (fun a b => ∃ r ∈ records.map recordSpan, ∃ s ∈ records.map recordSpan, r.Meets s ∧ r.id = a ∧ s.id = b) =
      fun a b => a ∈ records ∧ b ∈ records ∧ a.Overlaps b := by
    funext a b
    refine propext ⟨?_, ?_⟩
    · rintro ⟨r, hr, s, hs, hmeets, rfl, rfl⟩
      obtain ⟨u, hu, rfl⟩ := List.mem_map.mp hr
      obtain ⟨v, hv, rfl⟩ := List.mem_map.mp hs
      exact ⟨hu, hv, blobKey_inj.mp hmeets.key, hmeets.before, hmeets.after⟩
    · rintro ⟨ha, hb, h⟩
      exact ⟨_, List.mem_map_of_mem ha, _, List.mem_map_of_mem hb,
        ⟨congrArg blobKey h.tuple, h.before, h.after⟩, rfl, rfl⟩
  have : Std.Symm fun a b : PreflightRow fileCount => a ∈ records ∧ b ∈ records ∧ a.Overlaps b :=
    ⟨fun _ _ ⟨ha, hb, h⟩ => ⟨hb, ha, h.symm⟩⟩
  rw [Chained, hrel, EqvGen.eqvGen_eq_reflTransGen]
  rfl

/-! ## One scope of the pass -/

abbrev SweepScope := DuplicateSummary × Option IntervalComponent

def TuplePass.scope (s : TuplePass fileCount) : Option (Fin fileCount) → SweepScope
  | none => (s.overall, s.overallComponent)
  | some i => (s.perFile i, s.fileComponents i)

namespace SweepScope

def add (s : SweepScope) (start stop : ℤ) : SweepScope :=
  let (summary, component) := includeInterval s.1 start stop s.2
  (summary, some component)

def close (s : SweepScope) : SweepScope := (finishComponent s.1 s.2, none)

end SweepScope

theorem TuplePass.scope_step (s : TuplePass fileCount) (row : Bytes × ℤ × ℤ × Fin fileCount)
    (scope : Option (Fin fileCount)) :
    (s.step row).scope scope =
      if inScope scope row.2.2.2 then SweepScope.add (s.scope scope) row.2.1 row.2.2.1 else s.scope scope := by
  cases scope with
  | none => rfl
  | some i =>
    by_cases h : i = row.2.2.2
    · subst h
      simp [TuplePass.step, TuplePass.scope, SweepScope.add, inScope]
    · simp [TuplePass.step, TuplePass.scope, inScope, h, Ne.symm h]

theorem TuplePass.scope_finish (s : TuplePass fileCount) (scope : Option (Fin fileCount)) :
    s.finish.scope scope = SweepScope.close (s.scope scope) := by
  cases scope <;> rfl

/-- The sizes that a scope has yet to include, with its open component under the current fingerprint. -/
def openSizes (current : Option Bytes) (component : Option IntervalComponent)
    (spans : List (Span (List ℕ) ℤ (PreflightRow fileCount))) : List ℕ :=
  match current, component with
  | some fingerprint, some component => sizesFrom (blobKey fingerprint) component.endUs component.size spans
  | _, _ => sizes spans

/-- The summary at the end. -/
def finalSummary (current : Option Bytes) (s : SweepScope)
    (spans : List (Span (List ℕ) ℤ (PreflightRow fileCount))) : DuplicateSummary :=
  (openSizes current s.2 spans).foldl DuplicateSummary.includeGroup s.1

theorem finalSummary_nil (fingerprint : Bytes) (s : SweepScope) :
    finalSummary (some fingerprint) s ([] : List (Span (List ℕ) ℤ (PreflightRow fileCount))) = finishComponent s.1 s.2 := by
  obtain ⟨summary, _ | component⟩ := s <;> rfl

/-- A new fingerprint closes the component. -/
theorem finalSummary_close {fingerprint next : Bytes} (s : SweepScope)
    {spans : List (Span (List ℕ) ℤ (PreflightRow fileCount))} (h : ∀ span ∈ spans, blobKey fingerprint ≠ span.key) :
    finalSummary (some next) (SweepScope.close s) spans = finalSummary (some fingerprint) s spans := by
  obtain ⟨summary, _ | component⟩ := s
  · rfl
  · rw [finalSummary, finalSummary, openSizes, sizesFrom_closed h]
    rfl

theorem finalSummary_add (s : SweepScope) (r : PreflightRow fileCount)
    (spans : List (Span (List ℕ) ℤ (PreflightRow fileCount))) :
    finalSummary (some r.tupleFp) s (recordSpan r :: spans) =
      finalSummary (some r.tupleFp) (SweepScope.add s r.startUs r.endUs) spans := by
  obtain ⟨summary, _ | component⟩ := s
  · rfl
  · rw [finalSummary, openSizes, sizesFrom]
    unfold SweepScope.add includeInterval
    by_cases h : r.startUs ≤ component.endUs
    · rw [if_pos ⟨rfl, h⟩]
      simp only [if_pos h]
      rfl
    · rw [if_neg fun hjoins => h hjoins.2]
      simp only [if_neg h]
      rfl

abbrev tupleRow (r : PreflightRow fileCount) : Bytes × ℤ × ℤ × Fin fileCount :=
  (r.tupleFp, r.startUs, r.endUs, r.fileIndex)

/-- **The pass sweeps every scope.** -/
theorem tuplePass_scope (scope : Option (Fin fileCount)) (records : List (PreflightRow fileCount))
    (current : Option Bytes) (s : TuplePass fileCount)
    (hsorted : records.Pairwise fun a b => blobKey a.tupleFp ≤ blobKey b.tupleFp)
    (hcurrent : ∀ k ∈ current, ∀ r ∈ records, blobKey k ≤ blobKey r.tupleFp)
    (hnone : current = none → (s.scope scope).2 = none) :
    ((groupPass (·.1) TuplePass.step TuplePass.finish current s (records.map tupleRow)).scope scope).1 =
      finalSummary current (s.scope scope)
        ((records.filter fun r => inScope scope r.fileIndex).map recordSpan) := by
  induction records generalizing current s with
  | nil =>
    cases current with
    | none =>
      rw [finalSummary, hnone rfl]
      rfl
    | some fingerprint =>
      rw [List.filter_nil, List.map_nil, List.map_nil, finalSummary_nil]
      exact congrArg Prod.fst (TuplePass.scope_finish s scope)
  | cons r rest ih =>
    obtain ⟨hfirst, hrest⟩ := List.pairwise_cons.mp hsorted
    -- the state in which the row is taken
    obtain ⟨s', hs', hpass⟩ : ∃ s' : TuplePass fileCount,
        finalSummary current (s.scope scope) (((r :: rest).filter fun r => inScope scope r.fileIndex).map recordSpan) =
          finalSummary (some r.tupleFp) (s'.scope scope)
            (((r :: rest).filter fun r => inScope scope r.fileIndex).map recordSpan) ∧
        groupPass (·.1) TuplePass.step TuplePass.finish current s ((r :: rest).map tupleRow) =
          groupPass (·.1) TuplePass.step TuplePass.finish (some r.tupleFp) (s'.step (tupleRow r))
            (rest.map tupleRow) := by
      by_cases hclosed : current.isSome = true ∧ current ≠ some r.tupleFp
      · obtain ⟨fingerprint, rfl⟩ := Option.isSome_iff_exists.mp hclosed.1
        refine ⟨s.finish, ?_, ?_⟩
        · rw [TuplePass.scope_finish, finalSummary_close]
          intro span hspan heq
          obtain ⟨q, hq, rfl⟩ := List.mem_map.mp hspan
          have hle : blobKey r.tupleFp ≤ blobKey q.tupleFp := by
            rcases List.mem_cons.mp (List.mem_filter.mp hq).1 with rfl | hq
            · exact le_rfl
            · exact hfirst q hq
          have hsame := le_antisymm (hcurrent fingerprint rfl r List.mem_cons_self) (heq ▸ hle)
          exact hclosed.2 (congrArg some (blobKey_inj.mp hsame))
        · rw [List.map_cons, groupPass]
          simp only [if_pos hclosed]
      · refine ⟨s, ?_, ?_⟩
        · cases current with
          | none =>
            rw [finalSummary, finalSummary, hnone rfl]
            rfl
          | some fingerprint =>
            have hsame : some fingerprint = some r.tupleFp := not_not.mp fun hne => hclosed ⟨rfl, hne⟩
            rw [hsame]
        · rw [List.map_cons, groupPass]
          simp only [if_neg hclosed]
    rw [hpass, hs', ih (some r.tupleFp) _ hrest (fun k hk q hq => by cases hk; exact hfirst q hq) (fun h => by cases h),
      TuplePass.scope_step]
    by_cases hin : inScope scope r.fileIndex = true
    · rw [if_pos hin, List.filter_cons, if_pos hin, List.map_cons, finalSummary_add]
    · rw [if_neg hin, List.filter_cons, if_neg hin]

/-! ## What it counts -/

section Counts

variable (t : PreflightTable fileCount)

theorem perm_tupleSorted : (tupleSorted t).Perm t.accepted := List.perm_insertionSort _ _

/-- The records of a scope in the order of the pass. -/
def scopeSpans (scope : Option (Fin fileCount)) : List (Span (List ℕ) ℤ (PreflightRow fileCount)) :=
  ((tupleSorted t).filter fun r => inScope scope r.fileIndex).map recordSpan

/-- The order of the sweeps, but for what comes after the interval. -/
def EndsLe (a b : List ℕ × ℤ × ℤ) : Prop := a.1 < b.1 ∨ a.1 = b.1 ∧ toLex a.2 ≤ toLex b.2

theorem EndsLe.antisymm {a b : List ℕ × ℤ × ℤ} (hab : EndsLe a b) (hba : EndsLe b a) : a = b := by
  rcases hab with h | ⟨h, hle⟩ <;> rcases hba with h' | ⟨h', hle'⟩
  · exact absurd (h.trans h') (lt_irrefl _)
  · exact absurd h (h' ▸ lt_irrefl _)
  · exact absurd h' (h ▸ lt_irrefl _)
  · exact Prod.ext h (toLex_inj.mp (le_antisymm hle hle'))

theorem pairwise_tupleSorted : (tupleSorted t).Pairwise fun a b => EndsLe (recordSpan a).ends (recordSpan b).ends := by
  refine (List.pairwise_insertionSort _ _).imp fun {a b} h => ?_
  refine h.imp id fun ⟨hkey, hle⟩ => ⟨hkey, Prod.Lex.toLex_le_toLex.mpr ?_⟩
  rcases Prod.Lex.toLex_le_toLex.mp hle with hlt | ⟨heq, hle⟩
  · exact .inl hlt
  · exact .inr ⟨heq, (Prod.Lex.toLex_le_toLex.mp hle).elim le_of_lt fun h => h.1.le⟩

theorem tupleOverlapSummaries_scope (scope : Option (Fin fileCount)) :
    (scope.elim (tupleOverlapSummaries t).1 (tupleOverlapSummaries t).2) = .of (blocks (scopeSpans t scope)) := by
  have hpass := tuplePass_scope scope (tupleSorted t) none {}
    ((pairwise_tupleSorted t).imp fun h => h.elim le_of_lt fun h => h.1.le) (fun k hk => by cases hk)
    fun _ => by cases scope <;> rfl
  rw [← foldl_includeGroup, map_length_blocks, tupleOverlapSummaries, batchedRows_eq]
  cases scope <;> exact hpass

/-- **Overlap components**, in each scope. -/
theorem overlap_counts (scope : Option (Fin fileCount)) :
    Counts (Connected (t.accepted.filter fun r => inScope scope r.fileIndex))
      (t.accepted.filter fun r => inScope scope r.fileIndex)
      (scope.elim (tupleOverlapSummaries t).1 (tupleOverlapSummaries t).2) := by
  have hperm := (perm_tupleSorted t).filter fun r => inScope scope r.fileIndex
  have hids : (scopeSpans t scope).map (·.id) = (tupleSorted t).filter fun r => inScope scope r.fileIndex := by
    rw [scopeSpans, List.map_map]
    exact List.map_id _
  have hnodup : ((tupleSorted t).filter fun r => inScope scope r.fileIndex).Nodup :=
    hperm.nodup_iff.mpr (t.nodup_accepted.filter _)
  have hclasses : Classes (Chained (scopeSpans t scope)) ((scopeSpans t scope).map (·.id)) (blocks (scopeSpans t scope)) :=
    classes_blocks (by
      rw [scopeSpans, List.pairwise_map]
      refine ((pairwise_tupleSorted t).filter _).imp fun {a b} h => ?_
      refine h.imp id fun ⟨hkey, hle⟩ => ⟨hkey, ?_⟩
      exact (Prod.Lex.toLex_le_toLex.mp hle).elim le_of_lt fun h => h.1.le) (by
      intro span hspan
      obtain ⟨r, -, rfl⟩ := List.mem_map.mp hspan
      exact r.ordered) (by rwa [hids])
  rw [tupleOverlapSummaries_scope]
  refine .of_classes (t.nodup_accepted.filter _) ((hids ▸ hclasses).of_perm hperm (.refl _) |>.congr fun a _ b _ => ?_)
  rw [scopeSpans, chained_iff, connected_congr fun r => hperm.mem_iff]

end Counts

/-! ## The union edges -/

/-- The columns of the row that the split reads. -/
def PreflightRow.record (r : PreflightRow fileCount) : PreflightRecord :=
  { rowid := r.rowid, fileIndex := r.fileIndex, sourceFp := r.sourceFp, accepted := r.accepted, tupleFp := r.tupleFp,
    startUs := r.startUs, endUs := r.endUs, label := r.label }

/-- One edge for each pair of the sweep. -/
theorem overlapLoop_edges (config : DevelopmentSplitConfig) {rows : List (Bytes × ℤ × ℤ × Nat)} {s s' : OverlapSweep}
    (start : ℤ) (h : overlapLoop config rows s = .ok s') :
    s'.edges = s.edges + (pairs (s.component start) (rows.map overlapSpan)).length := by
  induction rows generalizing s start with
  | nil =>
    cases h
    rw [List.map_nil, pairs]
    rfl
  | cons row rest ih =>
    obtain ⟨fingerprint, startUs, endUs, recordId⟩ := row
    rw [overlapLoop] at h
    by_cases hnew : s.current ≠ some fingerprint ∨ s.componentEnd < startUs
    · rw [if_pos hnew] at h
      rw [ih startUs h, List.map_cons, overlapPairs_new hnew]
      rfl
    · rw [if_neg hnew] at h
      cases hunion : union s.groups s.componentAnchor recordId with
      | error e =>
        rw [hunion] at h
        cases h
      | ok groups =>
        rw [hunion] at h
        rw [ih start h, List.map_cons, overlapPairs_join hnew, List.length_cons, Nat.add_assoc, Nat.add_comm 1]
        rfl

theorem DuplicateSummary.excessRows_of {α : Type} (blocks : List (List α)) :
    (DuplicateSummary.of blocks).excessRows = ((blocks.map List.length).map (· - 1)).sum := by
  rw [DuplicateSummary.of, List.map_map]
  dsimp only
  rw [sum_filter_eq]
  refine congrArg List.sum (List.map_congr_left fun b _ => ?_)
  by_cases h : 1 < b.length
  · simp [h]
  · simp only [h, decide_false, Bool.false_eq_true, if_false, Function.comp_apply]
    omega

variable (t : PreflightTable fileCount) {config : DevelopmentSplitConfig} {ev : Evidence}

/-- The two sweeps see the same intervals. -/
theorem sizes_overlapRows {groups : Groups} (hsame : (grouped ev groups).Perm (t.accepted.map (·.record))) :
    sizes ((overlapRows ev groups).map overlapSpan) = sizes (scopeSpans t none) := by
  have hleft : (((overlapRows ev groups).map overlapSpan).map Span.ends).Pairwise EndsLe := by
    rw [overlapRows, List.pairwise_map, List.pairwise_map, List.pairwise_map]
    refine (List.pairwise_insertionSort _ _).imp fun {a b} h => ?_
    refine h.imp id fun h => ⟨h.1, Prod.Lex.toLex_le_toLex.mpr ?_⟩
    rcases Prod.Lex.toLex_le_toLex.mp h.2 with hlt | ⟨heq, hle⟩
    · exact .inl hlt
    · exact .inr ⟨heq, (Prod.Lex.toLex_le_toLex.mp hle).elim le_of_lt fun h => h.1.le⟩
  have hright : ((scopeSpans t none).map Span.ends).Pairwise EndsLe := by
    rw [scopeSpans, List.pairwise_map, List.pairwise_map]
    exact (pairwise_tupleSorted t).filter _
  have hperm : (((overlapRows ev groups).map overlapSpan).map Span.ends).Perm ((scopeSpans t none).map Span.ends) := by
    rw [overlapRows, scopeSpans, filter_all_files, List.map_map, List.map_map, List.map_map]
    have hrows := ((List.perm_insertionSort (lexLe (fun r : PreflightRecord => blobKey r.tupleFp) fun r =>
      toLex (r.startUs, toLex (r.endUs, toLex (r.fileIndex, r.rowid)))) (grouped ev groups)).trans hsame).map
        fun r => (blobKey r.tupleFp, r.startUs, r.endUs)
    rw [List.map_map] at hrows
    exact hrows.trans ((perm_tupleSorted t).map _).symm
  exact sizes_congr (hperm.eq_of_pairwise (fun _ _ _ _ => EndsLe.antisymm) hleft hright)

theorem edges_eq_excess {groups : Groups} (hsame : (grouped ev groups).Perm (t.accepted.map (·.record)))
    {s : OverlapSweep} (h : overlapLoop config (overlapRows ev groups) { groups } = .ok s) :
    s.edges = (tupleOverlapSummaries t).1.excessRows := by
  have hsummary : (tupleOverlapSummaries t).1 = .of (blocks (scopeSpans t none)) := tupleOverlapSummaries_scope t none
  rw [overlapLoop_edges config 0 h, hsummary, DuplicateSummary.excessRows_of, map_length_blocks,
    ← sizes_overlapRows t hsame, ← length_pairs]
  exact Nat.zero_add _

/-- The table after the first two steps. -/
theorem sourceGroups_spec {budget : Nat → Bool} {g₀ g₁ : Groups} {n : ℕ}
    (h₀ : initializeGroups config budget ev = .ok g₀) (h₁ : unionExactSourceDuplicates config ev g₀ = .ok (n, g₁)) :
    Forest g₁ ∧ ∀ x, x ∈ g₁.map Prod.fst ↔ ∃ r ∈ ev.eligible, r.rowid = x := by
  have hg₀ := (initializeGroups_spec config budget ev).2 g₀ h₀
  have hkeys : ∀ x, x ∈ g₀.map Prod.fst ↔ ∃ r ∈ ev.eligible, r.rowid = x := fun x => by simp only [hg₀.keys, true_and]
  obtain ⟨s, hok, hjoined⟩ := sourceLoop_spec config (s := { groups := g₀ }) hg₀.forest
    (fun row (hrow : row ∈ sourceRows ev g₀) => by
      obtain ⟨r, hr, rfl⟩ := sourceRows_mem.1 hrow
      exact (hkeys _).2 ⟨r, grouped_eq hkeys ▸ hr, rfl⟩) (fun h => by cases h)
  rw [unionExactSourceDuplicates, batchedRows_eq, hok] at h₁
  cases h₁
  refine ⟨hjoined.forest, fun x => ?_⟩
  rw [hjoined.keys]
  exact hkeys x

theorem overlap_edges {budget : Nat → Bool} {g₀ g₁ : Groups} {n : ℕ}
    (hsame : ev.eligible.Perm (t.accepted.map (·.record))) (h₀ : initializeGroups config budget ev = .ok g₀)
    (h₁ : unionExactSourceDuplicates config ev g₀ = .ok (n, g₁)) :
    ∃ g₂, unionOverlapComponents config ev g₁ = .ok ((tupleOverlapSummaries t).1.excessRows, g₂) := by
  obtain ⟨hforest, hkeys⟩ := sourceGroups_spec h₀ h₁
  have hgrouped := grouped_eq hkeys
  obtain ⟨s, hok, -⟩ := overlapLoop_spec config (s := { groups := g₁ }) 0 hforest
    (fun row (hrow : row ∈ overlapRows ev g₁) => by
      obtain ⟨r, hr, rfl⟩ := overlapRows_mem.1 hrow
      exact (hkeys _).2 ⟨r, hgrouped ▸ hr, rfl⟩) (fun h => by cases h)
  refine ⟨s.groups, ?_⟩
  rw [unionOverlapComponents, batchedRows_eq, hok, ← edges_eq_excess t (hgrouped ▸ hsame) hok]
  rfl

/-! ## The diagnostics -/

/-- **The diagnostics of the preflight count what they are defined as**, over all files and in each: the groups of
one source fingerprint, those of one feature fingerprint with the ones of both labels, and the components of
overlapping records of one tuple. The overall excess of the last is the number of union edges of the split. -/
theorem preflight_summaries (t : PreflightTable fileCount) :
    (Counts (fun a b => a.sourceFp = b.sourceFp) t.rows (duplicateSummaries t).1 ∧
      ∀ i, Counts (fun a b => a.sourceFp = b.sourceFp) (t.rows.filter (·.fileIndex = i)) ((duplicateSummaries t).2 i)) ∧
    (FeatureCounts (fun a b => a.featureFp = b.featureFp) t.accepted (featureSummaries t).1 ∧
      ∀ i, FeatureCounts (fun a b => a.featureFp = b.featureFp) (t.accepted.filter (·.fileIndex = i))
        ((featureSummaries t).2 i)) ∧
    (Counts (Connected t.accepted) t.accepted (tupleOverlapSummaries t).1 ∧
      ∀ i, Counts (Connected (t.accepted.filter (·.fileIndex = i))) (t.accepted.filter (·.fileIndex = i))
        ((tupleOverlapSummaries t).2 i)) ∧
    ∀ (config : DevelopmentSplitConfig) (budget : Nat → Bool) (ev : Evidence) (g₀ g₁ : Groups) (n : ℕ),
      ev.eligible.Perm (t.accepted.map (·.record)) → initializeGroups config budget ev = .ok g₀ →
      unionExactSourceDuplicates config ev g₀ = .ok (n, g₁) →
      ∃ g₂, unionOverlapComponents config ev g₁ = .ok ((tupleOverlapSummaries t).1.excessRows, g₂) := by
  refine ⟨⟨duplicate_counts t, duplicate_counts_file t⟩, ⟨?_, fun i => feature_counts t (some i)⟩,
    ⟨?_, fun i => overlap_counts t (some i)⟩, fun config budget ev g₀ g₁ n hsame h₀ h₁ => overlap_edges t hsame h₀ h₁⟩
  · have hcounts := feature_counts t none
    rwa [filter_all_files] at hcounts
  · have hcounts := overlap_counts t none
    rwa [filter_all_files] at hcounts

/-- One long flow and two short ones in it, of two files. -/
def longFlow : PreflightTable 2 where
  rows := [
    { rowid := 5, fileIndex := 0, sourceFp := [1], accepted := true, featureFp := [4], tupleFp := [8], startUs := 0,
      endUs := 9, label := 0, ordered := by decide, binary := by decide },
    { rowid := 6, fileIndex := 1, sourceFp := [2], accepted := true, featureFp := [4], tupleFp := [8], startUs := 2,
      endUs := 3, label := 1, ordered := by decide, binary := by decide },
    { rowid := 7, fileIndex := 0, sourceFp := [3], accepted := true, featureFp := [5], tupleFp := [8], startUs := 9,
      endUs := 12, label := 0, ordered := by decide, binary := by decide }]
  rowids := by decide

def longFlowEvidence : Evidence where
  records := longFlow.accepted.map (·.record)
  timing := [⟨5, 0⟩, ⟨6, 0⟩, ⟨7, 0⟩]
  rowids := by decide
  recordIds := by decide

theorem preflight_summaries_longFlow : ∃ g₂,
    unionOverlapComponents ⟨ASSIGNMENT_SEED, 10, rfl, by decide⟩ longFlowEvidence [(5, 5), (6, 6), (7, 7)] =
      .ok (2, g₂) := by
  have hexcess : (tupleOverlapSummaries longFlow).1.excessRows = 2 := by decide
  rw [← hexcess]
  exact (preflight_summaries longFlow).2.2.2 _ (fun _ => true) longFlowEvidence [(5, 5), (6, 6), (7, 7)]
    [(5, 5), (6, 6), (7, 7)] 0 (by decide) (by decide) (by decide)

end ThreatFusion.Datasets
