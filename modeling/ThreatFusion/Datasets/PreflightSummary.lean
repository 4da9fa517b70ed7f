import ThreatFusion.Datasets.Groups
import ThreatFusion.Datasets.Preflight
import ThreatFusion.Lib.SweepBlocks
/-
# What the diagnostics count

A summary is a function of a partition of the records (`DuplicateSummary.of`, `FeatureSummary.of`), and the
partitions are the classes of having one fingerprint or, for the overlaps, of `Connected`: linked by a chain of
records of one tuple whose closed intervals meet. Each pass is followed for one scope at a time, all files or one
file: it includes the sizes of the runs, or of the swept components, of the rows of its scope.
-/
namespace ThreatFusion.Datasets
open Py Grouping IntervalSweep Relation

/-! ## Summaries of a partition -/

/-- Blocks of more than one element: their number, their elements, and their elements but one each. -/
def DuplicateSummary.of {α : Type} (blocks : List (List α)) : DuplicateSummary :=
  let repeated := blocks.filter (1 < ·.length)
  { groups := repeated.length
    rows := (repeated.map List.length).sum
    excessRows := (repeated.map (·.length - 1)).sum }

variable {fileCount : ℕ}

def bothLabels (block : List (PreflightRow fileCount)) : Bool :=
  block.any (·.label = 0) && block.any (·.label = 1)

/-- The same, and the blocks that have both labels. -/
def FeatureSummary.of (blocks : List (List (PreflightRow fileCount))) : FeatureSummary :=
  let conflicting := blocks.filter bothLabels
  { toDuplicateSummary := .of blocks
    conflictingLabelGroups := conflicting.length
    conflictingLabelRows := (conflicting.map List.length).sum }

section Sums

variable {α : Type}

theorem length_filter_eq (p : List α → Bool) (blocks : List (List α)) :
    (blocks.filter p).length = (blocks.map fun b => if p b then 1 else 0).sum := by
  induction blocks with
  | nil => rfl
  | cons b bs ih =>
    rw [List.filter_cons, List.map_cons, List.sum_cons, ← ih]
    by_cases h : p b = true
    · rw [if_pos h, if_pos h, List.length_cons, Nat.add_comm]
    · rw [if_neg h, if_neg h, Nat.zero_add]

theorem sum_filter_eq (p : List α → Bool) (g : List α → ℕ) (blocks : List (List α)) :
    ((blocks.filter p).map g).sum = (blocks.map fun b => if p b then g b else 0).sum := by
  induction blocks with
  | nil => rfl
  | cons b bs ih =>
    rw [List.filter_cons, List.map_cons, List.sum_cons, ← ih]
    by_cases h : p b = true
    · rw [if_pos h, if_pos h, List.map_cons, List.sum_cons]
    · rw [if_neg h, if_neg h, Nat.zero_add]

/-- Any two partitions into the same classes have one summary. -/
theorem DuplicateSummary.of_eq [DecidableEq α] {R : α → α → Prop} {xs : List α} {blocks blocks' : List (List α)}
    (hxs : xs.Nodup) (h : Classes R xs blocks) (h' : Classes R xs blocks') :
    DuplicateSummary.of blocks = DuplicateSummary.of blocks' := by
  unfold DuplicateSummary.of
  simp only [length_filter_eq, sum_filter_eq]
  congr 1
  · exact h.sum_eq hxs h' _ (fun a b hab => by rw [hab.length_eq]) rfl
  · exact h.sum_eq hxs h' _ (fun a b hab => by rw [hab.length_eq]) rfl
  · exact h.sum_eq hxs h' _ (fun a b hab => by rw [hab.length_eq]) rfl

end Sums

theorem bothLabels_perm {a b : List (PreflightRow fileCount)} (h : a.Perm b) : bothLabels a = bothLabels b := by
  rw [bothLabels, bothLabels, h.any_eq, h.any_eq]

theorem FeatureSummary.of_eq {R : PreflightRow fileCount → PreflightRow fileCount → Prop}
    {xs : List (PreflightRow fileCount)} {blocks blocks' : List (List (PreflightRow fileCount))} (hxs : xs.Nodup)
    (h : Classes R xs blocks) (h' : Classes R xs blocks') : FeatureSummary.of blocks = FeatureSummary.of blocks' := by
  unfold FeatureSummary.of
  rw [DuplicateSummary.of_eq hxs h h']
  simp only [length_filter_eq, sum_filter_eq]
  congr 1
  · exact h.sum_eq hxs h' _ (fun a b hab => by rw [bothLabels_perm hab]) rfl
  · exact h.sum_eq hxs h' _ (fun a b hab => by rw [bothLabels_perm hab, hab.length_eq]) rfl

/-! ## Including group after group -/

theorem DuplicateSummary.of_snoc {α : Type} (blocks : List (List α)) (b : List α) :
    DuplicateSummary.of (blocks ++ [b]) = (DuplicateSummary.of blocks).includeGroup b.length := by
  unfold DuplicateSummary.of DuplicateSummary.includeGroup
  by_cases h : 1 < b.length
  · simp [List.filter_append, h]
  · simp [List.filter_append, h]

/-- Sizes included one after another. -/
theorem foldl_includeGroup {α : Type} (blocks : List (List α)) :
    (blocks.map List.length).foldl DuplicateSummary.includeGroup {} = DuplicateSummary.of blocks := by
  induction blocks using List.reverseRecOn with
  | nil => rfl
  | append_singleton bs b ih =>
    rw [List.map_append, List.foldl_append, ih, DuplicateSummary.of_snoc]
    rfl

theorem FeatureSummary.of_snoc (blocks : List (List (PreflightRow fileCount))) {b : List (PreflightRow fileCount)}
    {count : ℕ} (h : 1 < count ↔ bothLabels b = true) :
    FeatureSummary.of (blocks ++ [b]) = (FeatureSummary.of blocks).includeFeature b.length count := by
  unfold FeatureSummary.of FeatureSummary.includeFeature
  rw [DuplicateSummary.of_snoc]
  by_cases hb : bothLabels b = true
  · simp [List.filter_append, hb, h.mpr hb]
  · simp [List.filter_append, hb, mt h.mp hb]

/-- The labels of a block, as the pass collects them. -/
def labelCount (labels : List ℤ) : ℕ := (labels.foldl (fun seen label => seen.insert label) []).length

theorem mem_foldl_insert (labels seen : List ℤ) (x : ℤ) :
    x ∈ labels.foldl (fun seen label => seen.insert label) seen ↔ x ∈ seen ∨ x ∈ labels := by
  induction labels generalizing seen with
  | nil => simp
  | cons label labels ih =>
    rw [List.foldl_cons, ih, List.mem_insert_iff, List.mem_cons]
    tauto

theorem nodup_foldl_insert (labels : List ℤ) {seen : List ℤ} (h : seen.Nodup) :
    (labels.foldl (fun seen label => seen.insert label) seen).Nodup := by
  induction labels generalizing seen with
  | nil => exact h
  | cons label labels ih => exact ih (h.insert)

/-- With two labels in all, more than one means both. -/
theorem one_lt_labelCount {labels : List ℤ} (h : ∀ x ∈ labels, x = 0 ∨ x = 1) :
    1 < labelCount labels ↔ 0 ∈ labels ∧ 1 ∈ labels := by
  have hmem := mem_foldl_insert labels []
  have hnodup := nodup_foldl_insert labels List.nodup_nil
  unfold labelCount
  generalize labels.foldl (fun seen label => seen.insert label) [] = seen at hmem hnodup
  simp only [List.not_mem_nil, false_or] at hmem
  rw [← hmem 0, ← hmem 1]
  rcases seen with _ | ⟨x, _ | ⟨y, rest⟩⟩
  · simp
  · simp only [List.length_singleton, Nat.lt_irrefl, List.mem_singleton, false_iff]
    omega
  · have hx := h x ((hmem x).mp (by simp))
    have hy := h y ((hmem y).mp (by simp))
    have hne : x ≠ y := by
      rintro rfl
      simp at hnodup
    refine iff_of_true (by simp) ?_
    rcases hx with rfl | rfl <;> rcases hy with rfl | rfl <;> simp_all

/-! ## Runs of one fingerprint -/

section Runs

variable {ρ σ : Type} {fingerprint : ρ → Bytes}

def keySpan (fingerprint : ρ → Bytes) (row : ρ) : Span (List ℕ) ℕ ρ := ⟨blobKey (fingerprint row), 0, 0, row⟩

/-- The runs of rows with one fingerprint, as a sweep of points. -/
def runs (fingerprint : ρ → Bytes) (rows : List ρ) : List (List ρ) := blocks (rows.map (keySpan fingerprint))

theorem flatten_runs (fingerprint : ρ → Bytes) (rows : List ρ) : (runs fingerprint rows).flatten = rows := by
  rw [runs, flatten_blocks, List.map_map]
  exact List.map_id rows

theorem groupPass_open (step : σ → ρ → σ) (finish : σ → σ) (current : Bytes)
    (component : Span (List ℕ) ℕ ρ) (hkey : component.key = blobKey current) (hstop : component.stop = 0) (members : List ρ) (s : σ) (rows : List ρ) :
    groupPass fingerprint step finish (some current) (members.foldl step s) rows =
      (blocksFrom component members (rows.map (keySpan fingerprint))).foldl
        (fun s run => finish (run.foldl step s)) s := by
  induction rows generalizing current component members s with
  | nil => rfl
  | cons row rows ih =>
    rw [List.map_cons]
    unfold groupPass blocksFrom
    by_cases hsame : fingerprint row = current
    · have hjoins : component.key = (keySpan fingerprint row).key ∧
          (keySpan fingerprint row).start ≤ component.stop :=
        ⟨hkey.trans (congrArg blobKey hsame.symm), Nat.zero_le _⟩
      have hopen : ¬ ((some current).isSome = true ∧ some current ≠ some (fingerprint row)) :=
        fun h => h.2 (by rw [hsame])
      rw [if_pos hjoins]
      simp only [if_neg hopen]
      have := ih current { component with stop := max component.stop 0 } hkey (by rw [hstop]; rfl) (members ++ [row]) s
      rw [List.foldl_append, List.foldl_cons, List.foldl_nil] at this
      rw [hsame]
      exact this
    · have hsplit : ¬ (component.key = (keySpan fingerprint row).key ∧
          (keySpan fingerprint row).start ≤ component.stop) :=
        fun h => hsame (blobKey_inj.mp (h.1.symm.trans hkey))
      have hclosed : (some current).isSome = true ∧ some current ≠ some (fingerprint row) :=
        ⟨rfl, fun h => hsame (Option.some.inj h).symm⟩
      rw [if_neg hsplit, List.foldl_cons]
      simp only [if_pos hclosed]
      exact ih (fingerprint row) (keySpan fingerprint row) rfl rfl [row] _

/-- **A pass goes from run to run.** -/
theorem groupPass_runs (step : σ → ρ → σ) (finish : σ → σ) (s : σ) (rows : List ρ) :
    groupPass fingerprint step finish none s rows =
      (runs fingerprint rows).foldl (fun s run => finish (run.foldl step s)) s := by
  cases rows with
  | nil => rfl
  | cons row rows =>
    exact groupPass_open step finish (fingerprint row) (keySpan fingerprint row) rfl rfl [row] s rows

/-- In sorted rows the runs are the classes of having one fingerprint. -/
theorem classes_runs [DecidableEq ρ] {rows : List ρ} (hnodup : rows.Nodup)
    (hsorted : rows.Pairwise fun a b => blobKey (fingerprint a) ≤ blobKey (fingerprint b)) :
    Classes (fun a b => fingerprint a = fingerprint b) rows (runs fingerprint rows) := by
  have hids : (rows.map (keySpan fingerprint)).map (·.id) = rows := by
    rw [List.map_map]
    exact List.map_id rows
  have hclasses : Classes (Chained (rows.map (keySpan fingerprint))) ((rows.map (keySpan fingerprint)).map (·.id))
      (runs fingerprint rows) := classes_blocks (by
      rw [List.pairwise_map]
      exact hsorted.imp fun {a b} h => h.lt_or_eq.imp id fun heq => ⟨heq, le_rfl⟩) (by
      intro r hr
      obtain ⟨row, -, rfl⟩ := List.mem_map.mp hr
      exact le_rfl) (by rwa [hids])
  rw [hids] at hclasses
  refine hclasses.congr fun a ha b hb => ⟨fun h => ?_, fun h => ?_⟩
  · clear ha hb
    induction h with
    | rel x y hxy =>
      obtain ⟨r, hr, t, ht, hmeets, rfl, rfl⟩ := hxy
      obtain ⟨u, -, rfl⟩ := List.mem_map.mp hr
      obtain ⟨v, -, rfl⟩ := List.mem_map.mp ht
      exact blobKey_inj.mp hmeets.key
    | refl x => rfl
    | symm x y _ ih => exact ih.symm
    | trans x y z _ _ ih₁ ih₂ => exact ih₁.trans ih₂
  · exact .rel _ _ ⟨_, List.mem_map_of_mem ha, _, List.mem_map_of_mem hb, ⟨congrArg blobKey h, le_rfl, le_rfl⟩,
      rfl, rfl⟩

end Runs

end ThreatFusion.Datasets
