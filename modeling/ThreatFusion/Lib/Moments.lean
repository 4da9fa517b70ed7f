import Mathlib.Algebra.BigOperators.Group.List.Basic
import Mathlib.Algebra.CharZero.Defs
import Mathlib.Tactic.FieldSimp
import Mathlib.Tactic.Ring
/-
# Moments of a population, and of two populations together

`mean` and `deviations` (the sum of the squared deviations from the mean) of a list over a field. The moments of
two lists give those of their concatenation (`mean_append`, `deviations_append`); `deviations_eq` is the way
there, since sums of values and of squares just add.
-/
namespace Moments

variable {K : Type} [Field K]

def mean (xs : List K) : K := xs.sum / xs.length

def deviations (xs : List K) : K := (xs.map fun x => (x - mean xs) * (x - mean xs)).sum

theorem sum_sub_mul_sub (a : K) (xs : List K) :
    (xs.map fun x => (x - a) * (x - a)).sum = (xs.map fun x => x * x).sum - 2 * a * xs.sum + xs.length * (a * a) := by
  induction xs with
  | nil => simp
  | cons x xs ih =>
    simp only [List.map_cons, List.sum_cons, List.length_cons, ih, Nat.cast_add, Nat.cast_one]
    ring

theorem mean_perm {xs ys : List K} (h : xs.Perm ys) : mean xs = mean ys := by
  rw [mean, mean, h.sum_eq, h.length_eq]

theorem deviations_perm {xs ys : List K} (h : xs.Perm ys) : deviations xs = deviations ys := by
  rw [deviations, deviations, mean_perm h, (h.map _).sum_eq]

variable [CharZero K]

theorem length_ne_zero {xs : List K} (h : xs ≠ []) : (xs.length : K) ≠ 0 :=
  Nat.cast_ne_zero.mpr (List.length_pos_of_ne_nil h).ne'

theorem deviations_eq {xs : List K} (h : xs ≠ []) :
    deviations xs = (xs.map fun x => x * x).sum - xs.sum * xs.sum / xs.length := by
  have hn := length_ne_zero h
  rw [deviations, sum_sub_mul_sub, mean]
  field_simp
  ring

variable {xs ys : List K}

theorem length_add_ne_zero (hx : xs ≠ []) (ys : List K) : (xs.length : K) + ys.length ≠ 0 := by
  rw [← Nat.cast_add, ← List.length_append]
  exact length_ne_zero (List.append_ne_nil_of_left_ne_nil hx ys)

theorem mean_append (hx : xs ≠ []) (hy : ys ≠ []) :
    mean (xs ++ ys) = mean xs + (mean ys - mean xs) * (ys.length / ((xs.length + ys.length : Nat) : K)) := by
  have hn := length_ne_zero hx
  have hm := length_ne_zero hy
  have hnm := length_add_ne_zero hx ys
  rw [mean, mean, mean, List.sum_append, List.length_append, Nat.cast_add]
  field_simp
  ring

theorem deviations_append (hx : xs ≠ []) (hy : ys ≠ []) :
    deviations (xs ++ ys) = deviations xs + (deviations ys +
      (mean ys - mean xs) * (mean ys - mean xs) * (xs.length * ys.length / ((xs.length + ys.length : Nat) : K))) := by
  have hn := length_ne_zero hx
  have hm := length_ne_zero hy
  have hnm := length_add_ne_zero hx ys
  rw [deviations_eq (List.append_ne_nil_of_left_ne_nil hx ys), deviations_eq hx, deviations_eq hy, mean, mean,
    List.map_append, List.sum_append, List.sum_append, List.length_append, Nat.cast_add]
  field_simp
  ring

end Moments
