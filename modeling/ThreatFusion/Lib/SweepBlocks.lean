import ThreatFusion.Lib.Classes
import ThreatFusion.Lib.IntervalSweep
/-
# The components of a sweep

The sweep of `IntervalSweep` closes one component after another: `blocks` has the identities of each. The pairs
of the sweep tie the first identity of a block to each other one (`length_pairs`), so the blocks are the classes
of the spans chained by meeting (`classes_blocks`). `sizes` keeps of a component only its size, and sees nothing
of a span but its key and its ends.
-/
namespace IntervalSweep
open Relation Grouping

variable {κ τ ι : Type} [LinearOrder κ] [LinearOrder τ]

/-- The open component `component` has the identities `members` so far. -/
def blocksFrom : Span κ τ ι → List ι → List (Span κ τ ι) → List (List ι)
  | _, members, [] => [members]
  | component, members, span :: rest =>
    if component.key = span.key ∧ span.start ≤ component.stop then
      blocksFrom { component with stop := max component.stop span.stop } (members ++ [span.id]) rest
    else members :: blocksFrom span [span.id] rest

def blocks : List (Span κ τ ι) → List (List ι)
  | [] => []
  | span :: rest => blocksFrom span [span.id] rest

/-- The same with the size of the component instead of its members. -/
def sizesFrom : κ → τ → ℕ → List (Span κ τ ι) → List ℕ
  | _, _, size, [] => [size]
  | key, stop, size, span :: rest =>
    if key = span.key ∧ span.start ≤ stop then sizesFrom key (max stop span.stop) (size + 1) rest
    else size :: sizesFrom span.key span.stop 1 rest

def sizes : List (Span κ τ ι) → List ℕ
  | [] => []
  | span :: rest => sizesFrom span.key span.stop 1 rest

theorem map_length_blocksFrom (component : Span κ τ ι) (members : List ι) (spans : List (Span κ τ ι)) :
    (blocksFrom component members spans).map List.length =
      sizesFrom component.key component.stop members.length spans := by
  induction spans generalizing component members with
  | nil => rfl
  | cons span rest ih =>
    unfold blocksFrom sizesFrom
    by_cases h : component.key = span.key ∧ span.start ≤ component.stop
    · rw [if_pos h, if_pos h, ih, List.length_append, List.length_singleton]
    · rw [if_neg h, if_neg h, List.map_cons, ih]
      rfl

theorem map_length_blocks (spans : List (Span κ τ ι)) : (blocks spans).map List.length = sizes spans := by
  cases spans with
  | nil => rfl
  | cons span rest => exact map_length_blocksFrom ..

/-- A component that no later span has the key of is closed as it is. -/
theorem sizesFrom_closed {key : κ} {stop : τ} {size : ℕ} {spans : List (Span κ τ ι)}
    (h : ∀ span ∈ spans, key ≠ span.key) : sizesFrom key stop size spans = size :: sizes spans := by
  cases spans with
  | nil => rfl
  | cons span rest => exact if_neg fun hjoins => h span List.mem_cons_self hjoins.1

/-- What the sweep sees of a span. -/
def Span.ends {ι : Type} (span : Span κ τ ι) : κ × τ × τ := (span.key, span.start, span.stop)

theorem sizesFrom_congr {ι' : Type} {key : κ} {stop : τ} {size : ℕ} {spans : List (Span κ τ ι)}
    {spans' : List (Span κ τ ι')} (h : spans.map Span.ends = spans'.map Span.ends) :
    sizesFrom key stop size spans = sizesFrom key stop size spans' := by
  induction spans generalizing key stop size spans' with
  | nil =>
    obtain rfl := List.map_eq_nil_iff.mp h.symm
    rfl
  | cons span rest ih =>
    obtain ⟨span', rest', rfl, hends, hrest⟩ := List.map_eq_cons_iff.mp h.symm
    obtain ⟨hkey, hinterval⟩ := Prod.mk.inj hends
    obtain ⟨hstart, hstop⟩ := Prod.mk.inj hinterval
    unfold sizesFrom
    rw [hkey, hstart, hstop, ih hrest.symm, ih hrest.symm]

theorem sizes_congr {ι' : Type} {spans : List (Span κ τ ι)} {spans' : List (Span κ τ ι')}
    (h : spans.map Span.ends = spans'.map Span.ends) : sizes spans = sizes spans' := by
  cases spans with
  | nil =>
    obtain rfl := List.map_eq_nil_iff.mp h.symm
    rfl
  | cons span rest =>
    obtain ⟨span', rest', rfl, hends, hrest⟩ := List.map_eq_cons_iff.mp h.symm
    obtain ⟨hkey, hinterval⟩ := Prod.mk.inj hends
    rw [sizes, sizes, hkey, (Prod.mk.inj hinterval).2, sizesFrom_congr hrest.symm]

theorem flatten_blocksFrom (component : Span κ τ ι) (members : List ι) (spans : List (Span κ τ ι)) :
    (blocksFrom component members spans).flatten = members ++ spans.map (·.id) := by
  induction spans generalizing component members with
  | nil => simp [blocksFrom]
  | cons span rest ih =>
    unfold blocksFrom
    by_cases h : component.key = span.key ∧ span.start ≤ component.stop
    · rw [if_pos h, ih, List.map_cons, List.append_assoc]
      rfl
    · rw [if_neg h, List.flatten_cons, ih]
      rfl

theorem flatten_blocks (spans : List (Span κ τ ι)) : (blocks spans).flatten = spans.map (·.id) := by
  cases spans with
  | nil => rfl
  | cons span rest => exact flatten_blocksFrom ..

/-- One pair for each span that joins. -/
theorem length_pairs_from (component : Span κ τ ι) (spans : List (Span κ τ ι)) (size : ℕ) (hsize : 0 < size) :
    (pairs (some component) spans).length + size =
      ((sizesFrom component.key component.stop size spans).map (· - 1)).sum + 1 := by
  induction spans generalizing component size with
  | nil =>
    simp only [pairs, sizesFrom, List.length_nil, List.map_cons, List.map_nil, List.sum_cons, List.sum_nil]
    omega
  | cons span rest ih =>
    unfold pairs sizesFrom
    by_cases h : component.key = span.key ∧ span.start ≤ component.stop
    · have := ih { component with stop := max component.stop span.stop } (size + 1) (Nat.succ_pos _)
      dsimp only at this
      rw [if_pos h, if_pos h, List.length_cons]
      omega
    · have := ih span 1 Nat.one_pos
      rw [if_neg h, if_neg h, List.map_cons, List.sum_cons]
      omega

theorem length_pairs (spans : List (Span κ τ ι)) :
    (pairs none spans).length = ((sizes spans).map (· - 1)).sum := by
  cases spans with
  | nil => rfl
  | cons span rest =>
    have := length_pairs_from span rest 1 Nat.one_pos
    rw [pairs, sizes]
    omega

theorem members_in_block (component : Span κ τ ι) (members : List ι) (spans : List (Span κ τ ι)) :
    ∃ block ∈ blocksFrom component members spans, ∀ m ∈ members, m ∈ block := by
  induction spans generalizing component members with
  | nil => exact ⟨members, List.mem_singleton_self _, fun _ h => h⟩
  | cons span rest ih =>
    unfold blocksFrom
    by_cases hjoins : component.key = span.key ∧ span.start ≤ component.stop
    · rw [if_pos hjoins]
      obtain ⟨block, hblock, hmembers⟩ :=
        ih { component with stop := max component.stop span.stop } (members ++ [span.id])
      exact ⟨block, hblock, fun m hm => hmembers m (List.mem_append_left _ hm)⟩
    · rw [if_neg hjoins]
      exact ⟨members, List.mem_cons_self, fun _ h => h⟩

/-- The pairs stay in the blocks. -/
theorem block_of_pair {component : Span κ τ ι} {members : List ι} {spans : List (Span κ τ ι)}
    (hid : component.id ∈ members) {a b : ι} (h : (a, b) ∈ pairs (some component) spans) :
    ∃ block ∈ blocksFrom component members spans, a ∈ block ∧ b ∈ block := by
  induction spans generalizing component members with
  | nil => cases h
  | cons span rest ih =>
    unfold pairs at h
    unfold blocksFrom
    by_cases hjoins : component.key = span.key ∧ span.start ≤ component.stop
    · rw [if_pos hjoins] at h ⊢
      rcases List.mem_cons.mp h with heq | h
      · obtain ⟨rfl, rfl⟩ := Prod.mk.inj heq
        obtain ⟨block, hblock, hms⟩ :=
          members_in_block { component with stop := max component.stop span.stop } (members ++ [span.id]) rest
        exact ⟨block, hblock, hms _ (List.mem_append_left _ hid), hms _ (by simp)⟩
      · exact ih (List.mem_append_left _ hid) h
    · rw [if_neg hjoins] at h ⊢
      obtain ⟨block, hblock, hab⟩ := ih (List.mem_singleton_self _) h
      exact ⟨block, List.mem_cons_of_mem _ hblock, hab⟩

/-- The members of a block are linked by the pairs. -/
theorem paired_of_block (component : Span κ τ ι) {members : List ι} {spans : List (Span κ τ ι)} {ps : List (ι × ι)}
    (hps : ∀ p ∈ pairs (some component) spans, p ∈ ps) (hmembers : ∀ m ∈ members, Paired ps component.id m)
    {block : List ι} (hblock : block ∈ blocksFrom component members spans) {a b : ι} (ha : a ∈ block) (hb : b ∈ block) :
    Paired ps a b := by
  induction spans generalizing component members with
  | nil =>
    obtain rfl := List.mem_singleton.mp hblock
    exact ((hmembers a ha).symm _ _).trans _ _ _ (hmembers b hb)
  | cons span rest ih =>
    unfold pairs at hps
    unfold blocksFrom at hblock
    by_cases hjoins : component.key = span.key ∧ span.start ≤ component.stop
    · rw [if_pos hjoins] at hps hblock
      refine ih { component with stop := max component.stop span.stop }
        (fun p hp => hps p (List.mem_cons_of_mem _ hp)) (fun m hm => ?_) hblock
      rcases List.mem_append.mp hm with hm | hm
      · exact hmembers m hm
      · obtain rfl := List.mem_singleton.mp hm
        exact .rel _ _ (hps _ List.mem_cons_self)
    · rw [if_neg hjoins] at hps hblock
      rcases List.mem_cons.mp hblock with rfl | hblock
      · exact ((hmembers a ha).symm _ _).trans _ _ _ (hmembers b hb)
      · refine ih span hps (fun m hm => ?_) hblock
        obtain rfl := List.mem_singleton.mp hm
        exact .refl _

/-- **The blocks of a sweep are the classes of the chained spans.** -/
theorem classes_blocks [DecidableEq ι] {spans : List (Span κ τ ι)} (hsorted : spans.Pairwise Span.notAfter)
    (hvalid : ∀ r ∈ spans, r.start ≤ r.stop) (hids : (spans.map (·.id)).Nodup) :
    Classes (Chained spans) (spans.map (·.id)) (blocks spans) := by
  refine ⟨by rw [flatten_blocks], fun a ha b hb => ?_⟩
  rw [← pairs_iff hsorted hvalid]
  have hnodup : ((blocks spans).flatMap id).Nodup := by
    rw [List.flatMap_id, flatten_blocks]
    exact hids
  constructor
  · intro h
    have hlinked : a = b ∨ ∃ block ∈ blocks spans, a ∈ block ∧ b ∈ block := by
      clear ha hb
      induction h with
      | rel x y hxy =>
        cases spans with
        | nil => cases hxy
        | cons span rest => exact .inr (block_of_pair (List.mem_singleton_self _) hxy)
      | refl x => exact .inl rfl
      | symm x y _ ih =>
        rcases ih with rfl | ⟨block, hblock, hx, hy⟩
        · exact .inl rfl
        · exact .inr ⟨block, hblock, hy, hx⟩
      | trans x y z _ _ ih₁ ih₂ =>
        rcases ih₁ with rfl | ⟨block, hblock, hx, hy⟩
        · exact ih₂
        · rcases ih₂ with rfl | ⟨block', hblock', hy', hz⟩
          · exact .inr ⟨block, hblock, hx, hy⟩
          · obtain rfl := part_unique hnodup hblock hblock' hy hy'
            exact .inr ⟨block, hblock, hx, hz⟩
    rcases hlinked with rfl | h
    · rw [← flatten_blocks] at ha
      obtain ⟨block, hblock, hmem⟩ := List.mem_flatten.mp ha
      exact ⟨block, hblock, hmem, hmem⟩
    · exact h
  · rintro ⟨block, hblock, hab, hbb⟩
    cases spans with
    | nil => cases hblock
    | cons span rest =>
      refine paired_of_block span (fun p hp => hp) (fun m hm => ?_) hblock hab hbb
      obtain rfl := List.mem_singleton.mp hm
      exact .refl _

end IntervalSweep
