import ThreatFusion.Lib.Grouping
import Mathlib.Algebra.BigOperators.Group.List.Basic
/-
# The classes of a relation on a list

`Classes R xs blocks`: the blocks are the classes of `R` among the elements of `xs` (an empty block is none of
them). There is only one such partition: what is summed over the blocks, and does not depend on the order in a
block, is the same for any two (`Classes.sum_eq`).
-/
namespace Grouping

variable {α κ : Type} {R : α → α → Prop} {xs : List α} {blocks blocks' : List (List α)}

structure Classes (R : α → α → Prop) (xs : List α) (blocks : List (List α)) : Prop where
  perm : blocks.flatten.Perm xs
  same : ∀ a ∈ xs, ∀ b ∈ xs, R a b ↔ ∃ block ∈ blocks, a ∈ block ∧ b ∈ block

namespace Classes

theorem block_nodup (h : Classes R xs blocks) (hxs : xs.Nodup) {block : List α} (hblock : block ∈ blocks) :
    block.Nodup :=
  (h.perm.nodup_iff.mpr hxs).sublist (List.sublist_flatten_of_mem hblock)

/-- An element is in one block. -/
theorem block_unique [DecidableEq α] (h : Classes R xs blocks) (hxs : xs.Nodup) {b c : List α} (hb : b ∈ blocks)
    (hc : c ∈ blocks) {x : α} (hxb : x ∈ b) (hxc : x ∈ c) : b = c := by
  have hnodup : (blocks.flatMap id).Nodup := by
    rw [List.flatMap_id]
    exact h.perm.nodup_iff.mpr hxs
  exact part_unique hnodup hb hc hxb hxc

/-- A block of one partition with an element of a block of another has the same elements. -/
theorem block_perm [DecidableEq α] (h : Classes R xs blocks) (h' : Classes R xs blocks') (hxs : xs.Nodup)
    {b b' : List α} (hb : b ∈ blocks) (hb' : b' ∈ blocks') {x : α} (hxb : x ∈ b) (hxb' : x ∈ b') : b.Perm b' := by
  have inside {bs : List (List α)} (h : Classes R xs bs) {c : List α} (hc : c ∈ bs) {y : α} (hy : y ∈ c) : y ∈ xs :=
    h.perm.mem_iff.mp (List.mem_flatten.mpr ⟨c, hc, hy⟩)
  refine (List.perm_ext_iff_of_nodup (h.block_nodup hxs hb) (h'.block_nodup hxs hb')).mpr fun y =>
    ⟨fun hy => ?_, fun hy => ?_⟩
  · have hrel := (h.same x (inside h hb hxb) y (inside h hb hy)).mpr ⟨b, hb, hxb, hy⟩
    obtain ⟨c, hc, hxc, hyc⟩ := (h'.same x (inside h hb hxb) y (inside h hb hy)).mp hrel
    rwa [h'.block_unique hxs hb' hc hxb' hxc]
  · have hrel := (h'.same x (inside h' hb' hxb') y (inside h' hb' hy)).mpr ⟨b', hb', hxb', hy⟩
    obtain ⟨c, hc, hxc, hyc⟩ := (h.same x (inside h hb hxb) y (inside h' hb' hy)).mp hrel
    rwa [h.block_unique hxs hb hc hxb hxc]

/-- The other blocks are the classes of the other elements. -/
theorem tail {b : List α} {bs : List (List α)} (h : Classes R xs (b :: bs)) (hxs : xs.Nodup) :
    Classes R bs.flatten bs := by
  have hnodup : (b ++ bs.flatten).Nodup := List.flatten_cons ▸ h.perm.nodup_iff.mpr hxs
  refine ⟨.refl _, fun x hx y hy => ?_⟩
  have inside {z : α} (hz : z ∈ bs.flatten) : z ∈ xs := by
    refine h.perm.mem_iff.mp ?_
    rw [List.flatten_cons]
    exact List.mem_append_right _ hz
  rw [h.same x (inside hx) y (inside hy)]
  constructor
  · rintro ⟨c, hc, hxc, hyc⟩
    rcases List.mem_cons.mp hc with rfl | hc
    · exact absurd rfl ((List.nodup_append.mp hnodup).2.2 x hxc x hx)
    · exact ⟨c, hc, hxc, hyc⟩
  · rintro ⟨c, hc, hxc, hyc⟩
    exact ⟨c, List.mem_cons_of_mem _ hc, hxc, hyc⟩

theorem of_perm {ys : List α} {bs : List (List α)} (h : Classes R xs blocks) (hxs : xs.Perm ys) (hbs : blocks.Perm bs) :
    Classes R ys bs := by
  refine ⟨(hbs.flatten.symm.trans h.perm).trans hxs, fun a ha b hb => ?_⟩
  rw [h.same a (hxs.mem_iff.mpr ha) b (hxs.mem_iff.mpr hb)]
  exact exists_congr fun c => and_congr_left' hbs.mem_iff

/-- The classes among some of the elements. -/
theorem filter (h : Classes R xs blocks) (p : α → Bool) : Classes R (xs.filter p) (blocks.map (·.filter p)) := by
  refine ⟨?_, fun a ha b hb => ?_⟩
  · rw [← List.filter_flatten]
    exact h.perm.filter p
  · obtain ⟨ha, hpa⟩ := List.mem_filter.mp ha
    obtain ⟨hb, hpb⟩ := List.mem_filter.mp hb
    rw [h.same a ha b hb]
    constructor
    · rintro ⟨block, hblock, hab, hbb⟩
      exact ⟨_, List.mem_map_of_mem hblock, List.mem_filter.mpr ⟨hab, hpa⟩, List.mem_filter.mpr ⟨hbb, hpb⟩⟩
    · rintro ⟨_, hblock, hab, hbb⟩
      obtain ⟨block, hmem, rfl⟩ := List.mem_map.mp hblock
      exact ⟨block, hmem, (List.mem_filter.mp hab).1, (List.mem_filter.mp hbb).1⟩

/-- Each element stands for a part, and parts are related as their elements are. -/
theorem expand {ρ : Type} {S : ρ → ρ → Prop} {rows : List ρ} {runs : List (List ρ)} {parts : ρ → List α}
    (h : Classes S rows runs) (hparts : (rows.flatMap parts).Perm xs)
    (hR : ∀ r ∈ rows, ∀ s ∈ rows, ∀ a ∈ parts r, ∀ b ∈ parts s, R a b ↔ S r s) :
    Classes R xs (runs.map (·.flatMap parts)) := by
  have hflat : (runs.map (·.flatMap parts)).flatten = runs.flatten.flatMap parts := by
    rw [← List.flatMap_def]
    conv_rhs => rw [← List.flatMap_id, List.flatMap_assoc]
    rfl
  refine ⟨hflat ▸ (h.perm.flatMap_right parts).trans hparts, fun a ha b hb => ?_⟩
  obtain ⟨r, hr, har⟩ := List.mem_flatMap.mp (hparts.mem_iff.mpr ha)
  obtain ⟨s, hs, hbs⟩ := List.mem_flatMap.mp (hparts.mem_iff.mpr hb)
  constructor
  · intro hab
    obtain ⟨run, hrun, hr', hs'⟩ := (h.same r hr s hs).mp ((hR r hr s hs a har b hbs).mp hab)
    exact ⟨_, List.mem_map_of_mem hrun, List.mem_flatMap.mpr ⟨r, hr', har⟩, List.mem_flatMap.mpr ⟨s, hs', hbs⟩⟩
  · rintro ⟨_, hblock, hab, hbb⟩
    obtain ⟨run, hmem, rfl⟩ := List.mem_map.mp hblock
    obtain ⟨r', hr', har'⟩ := List.mem_flatMap.mp hab
    obtain ⟨s', hs', hbs'⟩ := List.mem_flatMap.mp hbb
    have inside {q : ρ} (hq : q ∈ run) : q ∈ rows := h.perm.mem_iff.mp (List.mem_flatten.mpr ⟨run, hmem, hq⟩)
    exact (hR r' (inside hr') s' (inside hs') a har' b hbs').mpr
      ((h.same r' (inside hr') s' (inside hs')).mpr ⟨run, hmem, hr', hs'⟩)

theorem congr {S : α → α → Prop} (h : Classes R xs blocks) (hRS : ∀ a ∈ xs, ∀ b ∈ xs, R a b ↔ S a b) :
    Classes S xs blocks :=
  ⟨h.perm, fun a ha b hb => (hRS a ha b hb).symm.trans (h.same a ha b hb)⟩

/-- **Sums over the classes** do not depend on how the classes are listed. -/
theorem sum_eq [DecidableEq α] (hxs : xs.Nodup) (h : Classes R xs blocks) (h' : Classes R xs blocks') (g : List α → ℕ)
    (hg : ∀ a b : List α, a.Perm b → g a = g b) (hnil : g [] = 0) : (blocks.map g).sum = (blocks'.map g).sum := by
  induction blocks generalizing xs blocks' with
  | nil =>
    have hempty : ∀ b ∈ blocks', b = [] := by
      have hflat : blocks'.flatten = [] := (h'.perm.trans h.perm.symm).eq_nil
      exact List.flatten_eq_nil_iff.mp hflat
    refine (List.sum_eq_zero fun n hn => ?_).symm
    obtain ⟨b, hb, rfl⟩ := List.mem_map.mp hn
    rw [hempty b hb, hnil]
  | cons b bs ih =>
    rw [List.map_cons, List.sum_cons]
    cases b with
    | nil =>
      rw [hnil, Nat.zero_add]
      exact ih hxs (h.tail hxs |>.of_perm (by simpa using h.perm) (.refl _)) h'
    | cons x b =>
      have hx : x ∈ xs := h.perm.mem_iff.mp (by simp)
      obtain ⟨b', hb', hxb', -⟩ := (h'.same x hx x hx).mp
        ((h.same x hx x hx).mpr ⟨_, List.mem_cons_self, by simp, by simp⟩)
      have hsame := h.block_perm h' hxs List.mem_cons_self hb' (x := x) (by simp) hxb'
      have hsplit := List.perm_cons_erase hb'
      have hrest := (h'.of_perm (.refl _) hsplit).tail hxs
      have hflat : (blocks'.erase b').flatten.Perm bs.flatten := by
        have hall := (hsplit.flatten.symm.trans h'.perm).trans h.perm.symm
        rw [List.flatten_cons, List.flatten_cons] at hall
        exact (List.perm_append_left_iff _).mp (hall.trans (hsame.append_right _))
      have hnodup : bs.flatten.Nodup := by
        have := h.perm.nodup_iff.mpr hxs
        rw [List.flatten_cons] at this
        exact (List.nodup_append.mp this).2.1
      rw [ih hnodup (h.tail hxs) (hrest.of_perm hflat (.refl _)), hg _ _ hsame, (hsplit.map g).sum_eq, List.map_cons,
        List.sum_cons]

end Classes

/-- Each element by itself. -/
theorem classes_singletons (xs : List α) : Classes (fun a b => a = b) xs (xs.map fun x => [x]) := by
  refine ⟨?_, fun a ha b _ => ?_⟩
  · rw [← List.flatMap_def]
    exact .of_eq (List.flatMap_singleton' xs)
  · constructor
    · rintro rfl
      exact ⟨[a], List.mem_map_of_mem ha, List.mem_singleton_self _, List.mem_singleton_self _⟩
    · rintro ⟨block, hblock, hab, hbb⟩
      obtain ⟨x, -, rfl⟩ := List.mem_map.mp hblock
      rw [List.mem_singleton.mp hab, List.mem_singleton.mp hbb]

/-- The elements by a key are the classes of having one key. -/
theorem classes_key [DecidableEq κ] (key : α → κ) {keys : List κ} (hkeys : keys.Nodup) (hall : ∀ x ∈ xs, key x ∈ keys) :
    Classes (fun a b => key a = key b) xs (keys.map fun k => xs.filter (key · = k)) := by
  refine ⟨?_, fun a ha b hb => ?_⟩
  · induction keys generalizing xs with
    | nil =>
      cases xs with
      | nil => exact .refl _
      | cons x xs => exact absurd (hall x List.mem_cons_self) List.not_mem_nil
    | cons k ks ih =>
      obtain ⟨hk, hks⟩ := List.nodup_cons.mp hkeys
      have hrest : ∀ x ∈ xs.filter fun x => ¬ key x = k, key x ∈ ks := by
        intro x hx
        obtain ⟨hx, hne⟩ := List.mem_filter.mp hx
        exact List.mem_of_ne_of_mem (by simpa using hne) (hall x hx)
      have hfilter : (ks.map fun k' => (xs.filter fun x => ¬ key x = k).filter (key · = k')) =
          ks.map fun k' => xs.filter (key · = k') := by
        refine List.map_congr_left fun k' hk' => ?_
        rw [List.filter_filter]
        refine List.filter_congr fun x _ => ?_
        have hne : k' ≠ k := fun h => hk (h ▸ hk')
        by_cases hx : key x = k' <;> simp [hx, hne]
      have := ih hks hrest
      rw [hfilter] at this
      rw [List.map_cons, List.flatten_cons]
      refine (this.append_left _).trans ?_
      have hsplit := List.filter_append_perm (fun x => decide (key x = k)) xs
      simpa using hsplit
  · constructor
    · intro h
      exact ⟨_, List.mem_map.mpr ⟨key a, hall a ha, rfl⟩, by simp [ha], by simp [hb, h]⟩
    · rintro ⟨block, hblock, hab, hbb⟩
      obtain ⟨k, -, rfl⟩ := List.mem_map.mp hblock
      simp only [List.mem_filter, decide_eq_true_eq] at hab hbb
      rw [hab.2, hbb.2]

end Grouping
