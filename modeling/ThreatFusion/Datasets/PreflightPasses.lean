import ThreatFusion.Datasets.PreflightSummary
import Mathlib.Data.List.Dedup
/-
# The three passes

Each pass is read in one scope, all files or one file, through a projection of its state. `duplicate_counts`,
`feature_counts` and `overlap_counts` say what it has counted there, for every partition of the scope into the
classes that it is about.
-/
namespace ThreatFusion.Datasets
open Py Grouping IntervalSweep Relation

variable {fileCount : ℕ}

/-- There is a partition into the classes of `R`, and the summary is that of any. -/
structure Counts {α : Type} (R : α → α → Prop) (xs : List α) (s : DuplicateSummary) : Prop where
  partition : ∃ blocks, Classes R xs blocks
  counts : ∀ blocks, Classes R xs blocks → s = .of blocks

structure FeatureCounts (R : PreflightRow fileCount → PreflightRow fileCount → Prop)
    (xs : List (PreflightRow fileCount)) (s : FeatureSummary) : Prop where
  partition : ∃ blocks, Classes R xs blocks
  counts : ∀ blocks, Classes R xs blocks → s = .of blocks

theorem Counts.of_classes {α : Type} [DecidableEq α] {R : α → α → Prop} {xs : List α} {blocks : List (List α)}
    (hxs : xs.Nodup) (h : Classes R xs blocks) : Counts R xs (.of blocks) :=
  ⟨⟨blocks, h⟩, fun _ h' => DuplicateSummary.of_eq hxs h h'⟩

theorem FeatureCounts.of_classes {R : PreflightRow fileCount → PreflightRow fileCount → Prop}
    {xs : List (PreflightRow fileCount)} {blocks : List (List (PreflightRow fileCount))} (hxs : xs.Nodup)
    (h : Classes R xs blocks) : FeatureCounts R xs (.of blocks) :=
  ⟨⟨blocks, h⟩, fun _ h' => FeatureSummary.of_eq hxs h h'⟩

theorem PreflightTable.nodup (t : PreflightTable fileCount) : t.rows.Nodup := t.rowids.of_map

theorem PreflightTable.nodup_accepted (t : PreflightTable fileCount) : t.accepted.Nodup := t.nodup.filter _

/-! ## Counted rows -/

section CountBy

variable {α κ φ γ : Type} [DecidableEq κ] [LinearOrder φ] [LinearOrder γ] {f : κ → φ} {g : κ → γ}

theorem keys_countBy (keys : List κ) :
    (countBy (lexLe f g) keys).map Prod.fst = keys.dedup.insertionSort (lexLe f g) := by
  rw [countBy, List.map_map]
  exact List.map_id _

theorem nodup_countBy (keys : List κ) : (countBy (lexLe f g) keys).Nodup := by
  refine List.Nodup.of_map Prod.fst ?_
  rw [keys_countBy]
  exact (List.perm_insertionSort _ _).nodup_iff.mpr keys.nodup_dedup

theorem mem_countBy {keys : List κ} {row : κ × ℕ} (h : row ∈ countBy (lexLe f g) keys) :
    row.1 ∈ keys ∧ row.2 = keys.count row.1 := by
  obtain ⟨key, hkey, rfl⟩ := List.mem_map.mp h
  exact ⟨List.mem_dedup.mp ((List.mem_insertionSort _).mp hkey), rfl⟩

theorem sorted_countBy (keys : List κ) : (countBy (lexLe f g) keys).Pairwise fun a b => f a.1 ≤ f b.1 := by
  rw [countBy, List.pairwise_map]
  exact (List.pairwise_insertionSort _ _).imp fun {a b} h => h.elim le_of_lt fun h => h.1.le

variable (key : α → κ) (xs : List α)

/-- The records that a counted row stands for. -/
def part (row : κ × ℕ) : List α := xs.filter (key · = row.1)

variable {key xs}

theorem mem_part {row : κ × ℕ} {x : α} : x ∈ part key xs row ↔ x ∈ xs ∧ key x = row.1 := by
  rw [part, List.mem_filter, decide_eq_true_iff]

theorem length_part {row : κ × ℕ} (h : row ∈ countBy (lexLe f g) (xs.map key)) :
    (part key xs row).length = row.2 := by
  rw [(mem_countBy h).2, part, ← List.countP_eq_length_filter, List.count_eq_countP, List.countP_map]
  rfl

theorem perm_parts : ((countBy (lexLe f g) (xs.map key)).flatMap (part key xs)).Perm xs := by
  have hkeys : ((xs.map key).dedup.insertionSort (lexLe f g)).Nodup :=
    (List.perm_insertionSort _ _).nodup_iff.mpr (List.nodup_dedup _)
  have hall : ∀ x ∈ xs, key x ∈ (xs.map key).dedup.insertionSort (lexLe f g) := fun x hx =>
    (List.mem_insertionSort _).mpr (List.mem_dedup.mpr (List.mem_map_of_mem hx))
  have := (classes_key key hkeys hall).perm
  rwa [← keys_countBy, List.map_map, ← List.flatMap_def] at this

theorem length_parts {run : List (κ × ℕ)} (h : ∀ row ∈ run, row ∈ countBy (lexLe f g) (xs.map key)) :
    (run.flatMap (part key xs)).length = (run.map Prod.snd).sum := by
  rw [List.length_flatMap]
  exact congrArg List.sum (List.map_congr_left fun row hrow => length_part (h row hrow))

theorem filter_parts {p : α → Bool} {q : κ × ℕ → Bool} {rows : List (κ × ℕ)}
    (h : ∀ row, ∀ x ∈ part key xs row, p x = q row) :
    (rows.flatMap (part key xs)).filter p = (rows.filter q).flatMap (part key xs) := by
  induction rows with
  | nil => rfl
  | cons row rows ih =>
    rw [List.flatMap_cons, List.filter_append, ih]
    by_cases hq : q row = true
    · rw [List.filter_cons_of_pos hq, List.flatMap_cons, List.filter_eq_self.mpr fun x hx => (h row x hx).trans hq]
    · have hnone : (part key xs row).filter p = [] :=
        List.filter_eq_nil_iff.mpr fun x hx => by rwa [h row x hx]
      rw [List.filter_cons_of_neg hq, hnone, List.nil_append]

theorem countBy_ext {keys : List κ} {r s : κ × ℕ} (hr : r ∈ countBy (lexLe f g) keys)
    (hs : s ∈ countBy (lexLe f g) keys) (h : r.1 = s.1) : r = s :=
  Prod.ext h (by rw [(mem_countBy hr).2, (mem_countBy hs).2, h])

/-- A part is not empty. -/
theorem exists_mem_part {row : κ × ℕ} (h : row ∈ countBy (lexLe f g) (xs.map key)) : ∃ x ∈ xs, key x = row.1 :=
  List.mem_map.mp (mem_countBy h).1

end CountBy

/-! ## Source records -/

section Duplicates

variable (t : PreflightTable fileCount)

abbrev sourceKey (r : PreflightRow fileCount) : Bytes × Fin fileCount := (r.sourceFp, r.fileIndex)

theorem duplicateRun_total (run : List ((Bytes × Fin fileCount) × ℕ)) (s : DuplicatePass fileCount) :
    (run.foldl DuplicatePass.step s).overall = s.overall ∧
      (run.foldl DuplicatePass.step s).total = s.total + (run.map Prod.snd).sum := by
  induction run generalizing s with
  | nil => exact ⟨rfl, rfl⟩
  | cons row run ih =>
    obtain ⟨hoverall, htotal⟩ := ih (s.step row)
    refine ⟨hoverall, ?_⟩
    rw [List.foldl_cons, htotal, List.map_cons, List.sum_cons, ← Nat.add_assoc]
    rfl

theorem duplicatePass_overall (runs : List (List ((Bytes × Fin fileCount) × ℕ))) {s : DuplicatePass fileCount}
    (hs : s.total = 0) :
    (runs.foldl (fun s run => (run.foldl DuplicatePass.step s).finish) s).overall =
      (runs.map fun run => (run.map Prod.snd).sum).foldl DuplicateSummary.includeGroup s.overall := by
  induction runs generalizing s with
  | nil => rfl
  | cons run runs ih =>
    obtain ⟨hoverall, htotal⟩ := duplicateRun_total run s
    have hfinish : ((run.foldl DuplicatePass.step s).finish).overall =
        s.overall.includeGroup (run.map Prod.snd).sum := by
      rw [DuplicatePass.finish, hoverall, htotal, hs, Nat.zero_add]
    rw [List.foldl_cons, ih rfl, hfinish]
    rfl

theorem duplicateRun_file (i : Fin fileCount) (run : List ((Bytes × Fin fileCount) × ℕ)) (s : DuplicatePass fileCount) :
    (run.foldl DuplicatePass.step s).perFile i =
      ((run.filter (·.1.2 = i)).map Prod.snd).foldl DuplicateSummary.includeGroup (s.perFile i) := by
  induction run generalizing s with
  | nil => rfl
  | cons row run ih =>
    rw [List.foldl_cons, ih]
    by_cases h : row.1.2 = i
    · rw [List.filter_cons_of_pos (by simpa using h)]
      simp [DuplicatePass.step, h]
    · rw [List.filter_cons_of_neg (by simpa using h)]
      simp [DuplicatePass.step, Function.update_of_ne (Ne.symm h)]

theorem duplicatePass_file (i : Fin fileCount) (runs : List (List ((Bytes × Fin fileCount) × ℕ)))
    (s : DuplicatePass fileCount) :
    (runs.foldl (fun s run => (run.foldl DuplicatePass.step s).finish) s).perFile i =
      ((runs.flatten.filter (·.1.2 = i)).map Prod.snd).foldl DuplicateSummary.includeGroup (s.perFile i) := by
  induction runs generalizing s with
  | nil => rfl
  | cons run runs ih =>
    have hfile : ((run.foldl DuplicatePass.step s).finish).perFile i =
        ((run.filter (·.1.2 = i)).map Prod.snd).foldl DuplicateSummary.includeGroup (s.perFile i) :=
      duplicateRun_file i run s
    rw [List.foldl_cons, ih, hfile, List.flatten_cons, List.filter_append, List.map_append, List.foldl_append]

theorem classes_duplicateRuns : Classes (fun a b => a.1.1 = b.1.1) (duplicateRows t) (runs (·.1.1) (duplicateRows t)) :=
  classes_runs (nodup_countBy _) (sorted_countBy (f := fun key : Bytes × Fin fileCount => blobKey key.1) _)

theorem duplicateSummaries_runs : duplicateSummaries t =
    let s : DuplicatePass fileCount :=
      (runs (·.1.1) (duplicateRows t)).foldl (fun s run => (run.foldl DuplicatePass.step s).finish) {}
    (s.overall, s.perFile) := by
  rw [duplicateSummaries, batchedRows_eq, groupPass_runs]

/-- **Exact duplicates, over all files.** -/
theorem duplicate_counts : Counts (fun a b => a.sourceFp = b.sourceFp) t.rows (duplicateSummaries t).1 := by
  have hruns := classes_duplicateRuns t
  have hclasses := hruns.expand (R := fun a b => a.sourceFp = b.sourceFp) perm_parts
    fun r _ s _ a ha b hb => by
      rw [← (mem_part.mp ha).2, ← (mem_part.mp hb).2]
  have hsummary : (duplicateSummaries t).1 =
      .of ((runs (·.1.1) (duplicateRows t)).map (·.flatMap (part sourceKey t.rows))) := by
    rw [duplicateSummaries_runs, ← foldl_includeGroup, List.map_map]
    refine (duplicatePass_overall _ rfl).trans ?_
    refine congrArg (List.foldl DuplicateSummary.includeGroup {}) (List.map_congr_left fun run hrun => ?_)
    exact (length_parts fun row hrow => hruns.perm.mem_iff.mp (List.mem_flatten.mpr ⟨run, hrun, hrow⟩)).symm
  rw [hsummary]
  exact .of_classes t.nodup hclasses

/-- **Exact duplicates in one file.** -/
theorem duplicate_counts_file (i : Fin fileCount) :
    Counts (fun a b => a.sourceFp = b.sourceFp) (t.rows.filter (·.fileIndex = i)) ((duplicateSummaries t).2 i) := by
  -- a counted row of the file is a whole group of it
  have hsummary : (duplicateSummaries t).2 i =
      .of (((duplicateRows t).filter (·.1.2 = i)).map (part sourceKey t.rows)) := by
    rw [duplicateSummaries_runs, ← foldl_includeGroup, List.map_map]
    refine (duplicatePass_file i _ _).trans ?_
    rw [flatten_runs]
    refine congrArg (List.foldl DuplicateSummary.includeGroup {}) (List.map_congr_left fun row hrow => ?_)
    exact (length_part (List.mem_filter.mp hrow).1).symm
  have hparts : (((duplicateRows t).filter (·.1.2 = i)).flatMap (part sourceKey t.rows)).Perm
      (t.rows.filter (·.fileIndex = i)) := by
    rw [← filter_parts (p := fun r => r.fileIndex = i) fun row x hx => by rw [← (mem_part.mp hx).2]]
    exact perm_parts.filter _
  have hclasses := (classes_singletons ((duplicateRows t).filter (·.1.2 = i))).expand
    (R := fun a b => a.sourceFp = b.sourceFp) hparts fun r hr s hs a ha b hb => ?_
  · rw [List.map_map] at hclasses
    rw [hsummary]
    refine .of_classes (t.nodup.filter _) (hclasses.of_perm (.refl _) (.of_eq ?_))
    exact List.map_congr_left fun row _ => List.flatMap_singleton _ _
  · obtain ⟨hr, hri⟩ := List.mem_filter.mp hr
    obtain ⟨hs, hsi⟩ := List.mem_filter.mp hs
    have hfile : r.1.2 = s.1.2 := (of_decide_eq_true hri).trans (of_decide_eq_true hsi).symm
    have hra := (mem_part.mp ha).2
    have hsb := (mem_part.mp hb).2
    constructor
    · intro h
      refine countBy_ext hr hs (Prod.ext ?_ hfile)
      rw [← hra, ← hsb]
      exact h
    · rintro rfl
      exact congrArg Prod.fst (hra.trans hsb.symm)

end Duplicates

/-! ## Feature records -/

section Features

/-- All files, or one. -/
def inScope (scope : Option (Fin fileCount)) (i : Fin fileCount) : Bool := scope.all (i = ·)

theorem filter_all_files (records : List (PreflightRow fileCount)) :
    (records.filter fun r => inScope none r.fileIndex) = records :=
  List.filter_eq_self.mpr fun _ _ => rfl

/-- What the pass holds for one scope. -/
structure FeatureScope where
  summary : FeatureSummary := {}
  total : ℕ := 0
  labels : List ℤ := []

namespace FeatureScope

def add (s : FeatureScope) (label : ℤ) (multiplicity : ℕ) : FeatureScope :=
  { s with total := s.total + multiplicity, labels := s.labels.insert label }

def close (s : FeatureScope) : FeatureScope := { summary := s.summary.includeFeature s.total s.labels.length }

end FeatureScope

def FeaturePass.scope (s : FeaturePass fileCount) : Option (Fin fileCount) → FeatureScope
  | none => ⟨s.overall, s.total, s.labels⟩
  | some i => ⟨s.perFile i, s.fileTotals i, s.fileLabels i⟩

theorem FeaturePass.scope_step (s : FeaturePass fileCount) (row : (Bytes × Fin fileCount × ℤ) × ℕ)
    (scope : Option (Fin fileCount)) :
    (s.step row).scope scope =
      if inScope scope row.1.2.1 then (s.scope scope).add row.1.2.2 row.2 else s.scope scope := by
  cases scope with
  | none => rfl
  | some i =>
    by_cases h : i = row.1.2.1
    · subst h
      simp [FeaturePass.step, FeaturePass.scope, FeatureScope.add, inScope]
    · simp [FeaturePass.step, FeaturePass.scope, inScope, h, Ne.symm h]

theorem FeaturePass.scope_finish (s : FeaturePass fileCount) (scope : Option (Fin fileCount)) :
    s.finish.scope scope = (s.scope scope).close := by
  cases scope <;> rfl

theorem featureRun_scope (scope : Option (Fin fileCount)) (run : List ((Bytes × Fin fileCount × ℤ) × ℕ))
    (s : FeaturePass fileCount) :
    (run.foldl FeaturePass.step s).scope scope =
      (run.filter fun row => inScope scope row.1.2.1).foldl (fun s row => s.add row.1.2.2 row.2) (s.scope scope) := by
  induction run generalizing s with
  | nil => rfl
  | cons row run ih =>
    rw [List.foldl_cons, ih, FeaturePass.scope_step]
    by_cases h : inScope scope row.1.2.1 = true
    · rw [if_pos h, List.filter_cons, if_pos h, List.foldl_cons]
    · rw [if_neg h, List.filter_cons, if_neg h]

theorem foldl_add (rows : List ((Bytes × Fin fileCount × ℤ) × ℕ)) (s : FeatureScope) :
    rows.foldl (fun s row => s.add row.1.2.2 row.2) s =
      ⟨s.summary, s.total + (rows.map Prod.snd).sum,
        (rows.map (·.1.2.2)).foldl (fun seen label => seen.insert label) s.labels⟩ := by
  induction rows generalizing s with
  | nil => rfl
  | cons row rows ih =>
    rw [List.foldl_cons, ih, List.map_cons, List.sum_cons, ← Nat.add_assoc]
    rfl

/-- A run is included with its rows in the scope and their labels. -/
theorem featureRun_finish (scope : Option (Fin fileCount)) (run : List ((Bytes × Fin fileCount × ℤ) × ℕ))
    {s : FeaturePass fileCount} {summary : FeatureSummary} (hs : s.scope scope = { summary := summary }) :
    (run.foldl FeaturePass.step s).finish.scope scope =
      { summary := summary.includeFeature ((run.filter fun row => inScope scope row.1.2.1).map Prod.snd).sum
          (labelCount ((run.filter fun row => inScope scope row.1.2.1).map (·.1.2.2))) } := by
  rw [FeaturePass.scope_finish, featureRun_scope, foldl_add, hs, FeatureScope.close, Nat.zero_add]
  rfl

variable (t : PreflightTable fileCount)

abbrev featureKey (r : PreflightRow fileCount) : Bytes × Fin fileCount × ℤ := (r.featureFp, r.fileIndex, r.label)

theorem classes_featureRuns : Classes (fun a b => a.1.1 = b.1.1) (featureRows t) (runs (·.1.1) (featureRows t)) :=
  classes_runs (nodup_countBy _) (sorted_countBy (f := fun key : Bytes × Fin fileCount × ℤ => blobKey key.1) _)

/-- The records of a run that are in the scope. -/
def scopeBlock (scope : Option (Fin fileCount)) (run : List ((Bytes × Fin fileCount × ℤ) × ℕ)) :
    List (PreflightRow fileCount) :=
  (run.filter fun row => inScope scope row.1.2.1).flatMap (part featureKey t.accepted)

/-- The labels of the rows are those of the records. -/
theorem one_lt_labels {rows : List ((Bytes × Fin fileCount × ℤ) × ℕ)} (h : ∀ row ∈ rows, row ∈ featureRows t) :
    1 < labelCount (rows.map (·.1.2.2)) ↔ bothLabels (rows.flatMap (part featureKey t.accepted)) = true := by
  have hlabel (l : ℤ) : l ∈ rows.map (·.1.2.2) ↔
      (rows.flatMap (part featureKey t.accepted)).any (·.label = l) = true := by
    rw [List.mem_map, List.any_eq_true]
    constructor
    · rintro ⟨row, hrow, rfl⟩
      obtain ⟨x, hx, hkey⟩ := exists_mem_part (h row hrow)
      refine ⟨x, List.mem_flatMap.mpr ⟨row, hrow, mem_part.mpr ⟨hx, hkey⟩⟩, ?_⟩
      rw [← hkey]
      exact decide_eq_true rfl
    · rintro ⟨x, hx, hl⟩
      obtain ⟨row, hrow, hx⟩ := List.mem_flatMap.mp hx
      refine ⟨row, hrow, ?_⟩
      rw [← (mem_part.mp hx).2]
      exact of_decide_eq_true hl
  have hbinary : ∀ l ∈ rows.map (·.1.2.2), l = 0 ∨ l = 1 := by
    intro l hl
    obtain ⟨x, -, hx⟩ := List.any_eq_true.mp ((hlabel l).mp hl)
    rw [← of_decide_eq_true hx]
    exact x.binary
  rw [one_lt_labelCount hbinary, hlabel, hlabel, bothLabels, Bool.and_eq_true]

theorem featurePass_scope (scope : Option (Fin fileCount)) {rs : List (List ((Bytes × Fin fileCount × ℤ) × ℕ))}
    (h : ∀ run ∈ rs, ∀ row ∈ run, row ∈ featureRows t) :
    (rs.foldl (fun (s : FeaturePass fileCount) run => (run.foldl FeaturePass.step s).finish) {}).scope scope =
      { summary := .of (rs.map (scopeBlock t scope)) } := by
  induction rs using List.reverseRecOn with
  | nil => cases scope <;> rfl
  | append_singleton rs run ih =>
    have hrun := h run (List.mem_append_right _ (List.mem_singleton_self _))
    have hin : ∀ row ∈ run.filter fun row => inScope scope row.1.2.1, row ∈ featureRows t :=
      fun row hrow => hrun row (List.mem_filter.mp hrow).1
    have hof := FeatureSummary.of_snoc (rs.map (scopeBlock t scope)) (one_lt_labels t hin)
    rw [length_parts hin] at hof
    rw [List.foldl_append, List.foldl_cons, List.foldl_nil,
      featureRun_finish scope run (ih fun run hrun => h run (List.mem_append_left _ hrun)), ← hof, List.map_append]
    rfl

theorem mem_featureRows_of_run {run : List ((Bytes × Fin fileCount × ℤ) × ℕ)}
    (hrun : run ∈ runs (·.1.1) (featureRows t)) {row : (Bytes × Fin fileCount × ℤ) × ℕ} (hrow : row ∈ run) :
    row ∈ featureRows t :=
  (classes_featureRuns t).perm.mem_iff.mp (List.mem_flatten.mpr ⟨run, hrun, hrow⟩)

theorem featureSummaries_scope (scope : Option (Fin fileCount)) :
    (scope.elim (featureSummaries t).1 (featureSummaries t).2) =
      .of ((runs (·.1.1) (featureRows t)).map (scopeBlock t scope)) := by
  have hscope := congrArg FeatureScope.summary
    (featurePass_scope t scope fun run hrun row hrow => mem_featureRows_of_run t hrun hrow)
  rw [featureSummaries, batchedRows_eq, groupPass_runs]
  cases scope <;> exact hscope

/-- **Feature groups**, in each scope. -/
theorem feature_counts (scope : Option (Fin fileCount)) :
    FeatureCounts (fun a b => a.featureFp = b.featureFp) (t.accepted.filter fun r => inScope scope r.fileIndex)
      (scope.elim (featureSummaries t).1 (featureSummaries t).2) := by
  have hparts : ((featureRows t).flatMap (part featureKey t.accepted)).Perm t.accepted := perm_parts
  have hall := (classes_featureRuns t).expand (R := fun a b => a.featureFp = b.featureFp) hparts
    fun r _ s _ a ha b hb => by rw [← (mem_part.mp ha).2, ← (mem_part.mp hb).2]
  have hclasses := hall.filter fun r => inScope scope r.fileIndex
  rw [List.map_map] at hclasses
  rw [featureSummaries_scope]
  refine .of_classes (t.nodup_accepted.filter _) (hclasses.of_perm (.refl _) (.of_eq ?_))
  exact List.map_congr_left fun run _ => filter_parts fun row x hx => by rw [← (mem_part.mp hx).2]

end Features

end ThreatFusion.Datasets
