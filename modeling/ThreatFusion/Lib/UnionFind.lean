import Mathlib.Order.WellFounded
import Mathlib.Order.Lattice
import Mathlib.Logic.Relation
import Mathlib.Logic.Function.Basic
/-
# Union-find on a falling forest

Every element points to a parent that is not above it, so a chain of parents falls to a root, the smallest
element of its tree.

* `root`: where a chain ends, one for all that parents link (`ker_root`). Redirecting an element to its own root
  keeps all roots (`root_compress`), redirecting one root to another joins two trees (`root_link`).
* `join ρ x y`: the representatives `ρ` after the classes of `x` and `y` are made one, under the smaller
  representative. Its kernel is the equivalence generated by the kernel of `ρ` and the pair
  (`ker_join`), for a list of pairs `ker_joinAll`.
-/
namespace UnionFind
open Relation

section
variable {α β : Type} [LinearOrder α]

/-- Follow the parents while they fall. -/
def root [WellFoundedLT α] (parent : α → α) (x : α) : α := if parent x < x then root parent (parent x) else x
termination_by wellFounded_lt.wrap x

/-- No parent is above its child. -/
def Falls (parent : α → α) : Prop := ∀ x, parent x ≤ x

variable {parent : α → α}

theorem falls_update (hfalls : Falls parent) {x y : α} (h : y ≤ x) : Falls (Function.update parent x y) := by
  intro z
  by_cases hz : z = x
  · subst hz
    rwa [Function.update_self]
  · rw [Function.update_of_ne hz]
    exact hfalls z

variable [WellFoundedLT α]

theorem root_of_fixed {x : α} (h : parent x = x) : root parent x = x := by
  rw [root, h, if_neg (lt_irrefl x)]

theorem root_parent (hfalls : Falls parent) (x : α) : root parent (parent x) = root parent x := by
  rcases (hfalls x).lt_or_eq with h | h
  · conv => rhs; rw [root, if_pos h]
  · rw [h]

/-- What every parent keeps, the root keeps. -/
theorem root_keeps {p : α → β} (hp : ∀ x, p (parent x) = p x) (x : α) : p (root parent x) = p x := by
  induction x using WellFoundedLT.induction with
  | ind x ih =>
    rw [root]
    split
    · rename_i h
      rw [ih _ h, hp]
    · rfl

theorem root_le (parent : α → α) (x : α) : root parent x ≤ x := by
  induction x using WellFoundedLT.induction with
  | ind x ih =>
    rw [root]
    split
    · rename_i h
      exact (ih _ h).trans h.le
    · exact le_refl x

theorem parent_root (hfalls : Falls parent) (x : α) : parent (root parent x) = root parent x := by
  induction x using WellFoundedLT.induction with
  | ind x ih =>
    rw [root]
    split
    · rename_i h
      exact ih _ h
    · rename_i h
      exact le_antisymm (hfalls x) (not_lt.1 h)

@[simp] theorem root_root (hfalls : Falls parent) (x : α) : root parent (root parent x) = root parent x :=
  root_of_fixed (parent_root hfalls x)

/-- Two elements have one root exactly when parents link them. -/
theorem ker_root (hfalls : Falls parent) (x y : α) :
    EqvGen (fun a b => parent a = b) x y ↔ root parent x = root parent y := by
  have linked (z : α) : EqvGen (fun a b => parent a = b) z (root parent z) := by
    induction z using WellFoundedLT.induction with
    | ind z ih =>
      rw [root]
      split
      · rename_i h
        exact (EqvGen.rel z (parent z) rfl).trans _ _ _ (ih _ h)
      · exact .refl z
  constructor
  · intro h
    induction h with
    | rel a b hab => rw [← hab, root_parent hfalls]
    | refl => rfl
    | symm _ _ _ ih => exact ih.symm
    | trans _ _ _ _ _ ih₁ ih₂ => exact ih₁.trans ih₂
  · intro h
    have hback := (linked y).symm _ _
    rw [← h] at hback
    exact (linked x).trans _ _ _ hback

/-- **Path compression**: an element that points to its root has it still, and so have all others. -/
theorem root_compress (hfalls : Falls parent) (x : α) :
    root (Function.update parent x (root parent x)) = root parent := by
  funext z
  have hfalls' := falls_update hfalls (root_le parent x)
  -- the old root is constant along the new parents
  have hkeeps (y : α) : root parent (Function.update parent x (root parent x) y) = root parent y := by
    by_cases hy : y = x
    · rw [hy, Function.update_self, root_root hfalls]
    · rw [Function.update_of_ne hy, root_parent hfalls]
  have hsame := root_keeps hkeeps z
  rw [← hsame]
  refine (root_of_fixed ?_).symm
  generalize hr : root (Function.update parent x (root parent x)) z = r
  have hfixed := parent_root hfalls' z
  rw [hr] at hfixed
  by_cases hrx : r = x
  · rw [hrx, Function.update_self] at hfixed
    rw [hrx]
    exact hfixed ▸ parent_root hfalls x
  · rwa [Function.update_of_ne hrx] at hfixed

/-- **Linking** the larger of two roots below the smaller. -/
theorem root_link (hfalls : Falls parent) {a b : α} (ha : parent a = a) (hb : parent b = b) (hab : a < b) (z : α) :
    root (Function.update parent b a) z = if root parent z = b then a else root parent z := by
  have hfalls' := falls_update hfalls hab.le
  induction z using WellFoundedLT.induction with
  | ind z ih =>
    by_cases hz : z = b
    · subst hz
      have hlt : Function.update parent z a z < z := by rwa [Function.update_self]
      rw [root, if_pos hlt, Function.update_self, root_of_fixed hb, if_pos rfl]
      exact root_of_fixed (by rw [Function.update_of_ne hab.ne, ha])
    · have hstep : Function.update parent b a z = parent z := Function.update_of_ne hz _ _
      rcases (hfalls z).lt_or_eq with hlt | heq
      · rw [← root_parent hfalls' z, hstep, ih _ hlt, root_parent hfalls]
      · rw [root_of_fixed (hstep.trans heq), root_of_fixed heq, if_neg hz]
end

section
variable {α : Type} [LinearOrder α]

/-- The classes of `x` and `y` become one. -/
def join (ρ : α → α) (x y z : α) : α := if ρ z = max (ρ x) (ρ y) then min (ρ x) (ρ y) else ρ z

/-- **A join generates**: two elements are together when a chain of old classes and the new pair links them. -/
theorem ker_join (ρ : α → α) (x y z w : α) :
    join ρ x y z = join ρ x y w ↔ EqvGen (fun u v => ρ u = ρ v ∨ u = x ∧ v = y) z w := by
  have same {u v : α} (h : ρ u = ρ v) : EqvGen (fun u v => ρ u = ρ v ∨ u = x ∧ v = y) u v := .rel _ _ (.inl h)
  have pair : EqvGen (fun u v => ρ u = ρ v ∨ u = x ∧ v = y) x y := .rel _ _ (.inr ⟨rfl, rfl⟩)
  -- every element is linked to `x` or `y` when its class is one of theirs
  have linked {u v : α} (hu : ρ u = max (ρ x) (ρ y)) (hv : ρ v = min (ρ x) (ρ y)) :
      EqvGen (fun u v => ρ u = ρ v ∨ u = x ∧ v = y) u v := by
    rcases le_total (ρ x) (ρ y) with h | h
    · rw [max_eq_right h] at hu
      rw [min_eq_left h] at hv
      exact ((same hu).trans _ _ _ (pair.symm _ _)).trans _ _ _ (same hv.symm)
    · rw [max_eq_left h] at hu
      rw [min_eq_right h] at hv
      exact ((same hu).trans _ _ _ pair).trans _ _ _ (same hv.symm)
  constructor
  · intro h
    unfold join at h
    split at h <;> split at h
    · rename_i hz hw
      exact same (hz.trans hw.symm)
    · rename_i hz hw
      exact linked hz h.symm
    · rename_i hz hw
      exact (linked hw h).symm _ _
    · exact same h
  · intro h
    induction h with
    | rel u v huv =>
      rcases huv with huv | ⟨rfl, rfl⟩
      · unfold join
        rw [huv]
      · unfold join
        rcases le_total (ρ u) (ρ v) with h | h
        · rw [max_eq_right h, min_eq_left h, if_pos rfl]
          split <;> rfl
        · rw [max_eq_left h, min_eq_right h, if_pos rfl]
          split <;> rfl
    | refl => rfl
    | symm _ _ _ ih => exact ih.symm
    | trans _ _ _ _ _ ih₁ ih₂ => exact ih₁.trans ih₂

def joinAll (ρ : α → α) (pairs : List (α × α)) : α → α := pairs.foldl (fun ρ p => join ρ p.1 p.2) ρ

/-- The classes after a list of joins. -/
theorem ker_joinAll (ρ : α → α) (pairs : List (α × α)) (z w : α) :
    joinAll ρ pairs z = joinAll ρ pairs w ↔ EqvGen (fun u v => ρ u = ρ v ∨ (u, v) ∈ pairs) z w := by
  induction pairs generalizing ρ z w with
  | nil =>
    simp only [joinAll, List.foldl_nil, List.not_mem_nil, or_false]
    have hkernel : Equivalence fun u v => ρ u = ρ v := ⟨fun _ => rfl, Eq.symm, Eq.trans⟩
    exact hkernel.eqvGen_iff.symm
  | cons p pairs ih =>
    rw [joinAll, List.foldl_cons, ← joinAll, ih]
    constructor
    · refine fun h => EqvGen.eqvGen_le (fun u v huv => ?_) _ _ h
      rcases huv with huv | huv
      · refine EqvGen.mono (fun a b hab => ?_) _ _ ((ker_join ρ p.1 p.2 u v).1 huv)
        exact hab.imp_right fun hp => List.mem_cons.2 (.inl (Prod.ext hp.1 hp.2))
      · exact .rel _ _ (.inr (List.mem_cons_of_mem _ huv))
    · refine EqvGen.mono (fun u v huv => ?_) _ _
      rcases huv with huv | huv
      · exact .inl ((ker_join ρ p.1 p.2 u v).2 (.rel _ _ (.inl huv)))
      · rcases List.mem_cons.1 huv with rfl | huv
        · exact .inl ((ker_join ρ u v u v).2 (.rel _ _ (.inr ⟨rfl, rfl⟩)))
        · exact .inr huv
end

end UnionFind
