import ThreatFusion.Py.Float
import Mathlib.Data.Prod.Lex
import Mathlib.Algebra.Order.Field.Power
import Mathlib.Tactic.Linarith
import Mathlib.Tactic.NormNum
import Mathlib.Tactic.Positivity
/-
# Floats with their overflow

A `Double` is a finite double, an infinity or NaN; the sign of a zero and the payload of a NaN are not
observed. Arithmetic is that of `roundDouble`, and what is beyond `MAX_DOUBLE` after it is an infinity.

| here | there |
| --- | --- |
| `MAX_DOUBLE`    | `sys.float_info.max` |
| `Double.ofInt`  | `float(n)` of an `int`; `none` is `OverflowError` |
| `lt`, `eq`      | `x < y`, `x == y`: NaN is neither below anything nor itself |

`roundDouble_le_max`: what is not beyond the largest double is not rounded beyond it.
-/
namespace ThreatFusion.Py

def MAX_DOUBLE : ℚ := (2 ^ 53 - 1) * 2 ^ 971

inductive Double where
  | finite (q : { q : ℚ // |q| ≤ MAX_DOUBLE })
  | inf (negative : Bool)
  | nan
deriving DecidableEq

namespace Double

/-- The double for an exact result. -/
def ofRat (q : ℚ) : Double :=
  if h : |roundDouble q| ≤ MAX_DOUBLE then .finite ⟨roundDouble q, h⟩ else .inf (q < 0)

def ofInt (n : ℤ) : Option Double :=
  if h : |roundDouble n| ≤ MAX_DOUBLE then some (.finite ⟨roundDouble n, h⟩) else none

/-- The value of a finite one. -/
def toRat? : Double → Option ℚ
  | .finite q => some q.1
  | .inf _ => none
  | .nan => none

end Double

/-! ## Rounding stays in range -/

theorem roundHalfEven_le {q : ℚ} {n : ℤ} (h : q ≤ n) : roundHalfEven q ≤ n := by
  have hfloor : ⌊q⌋ ≤ n := by
    have := (Int.floor_le q).trans h
    exact_mod_cast this
  unfold roundHalfEven
  dsimp only
  split
  · exact hfloor
  · rename_i hup
    rcases Int.lt_or_eq_of_le hfloor with hlt | heq
    · omega
    · -- At `n` itself nothing is rounded up.
      exfalso
      refine hup (.inl ?_)
      have hn : (⌊q⌋ : ℚ) = n := by exact_mod_cast heq
      rw [hn]
      linarith

theorem roundHalfEven_nonneg {q : ℚ} (h : 0 ≤ q) : 0 ≤ roundHalfEven q := by
  have hfloor : 0 ≤ ⌊q⌋ := Int.floor_nonneg.mpr h
  unfold roundHalfEven
  dsimp only
  split <;> omega

/-- One significand: it is below the first power of two that needs another bit. -/
theorem scaled_lt {q : ℚ} {e : ℤ} (h : q < 2 ^ (e + 1)) : q / 2 ^ (e - 52) < 2 ^ (53 : ℤ) := by
  have hexponent : (53 : ℤ) + (e - 52) = e + 1 := by omega
  rwa [div_lt_iff₀ (by positivity), ← zpow_add₀ (by norm_num), hexponent]

theorem roundDouble_le_max {q : ℚ} (h0 : 0 ≤ q) (h : q ≤ MAX_DOUBLE) : |roundDouble q| ≤ MAX_DOUBLE := by
  unfold roundDouble
  by_cases hq : q = 0
  · rw [if_pos hq, abs_zero]
    exact h0.trans h
  · have hpos : 0 < q := lt_of_le_of_ne h0 (Ne.symm hq)
    rw [if_neg hq, abs_of_pos hpos]
    dsimp only
    have hlog : Int.log 2 q < 1024 := by
      refine (Int.lt_zpow_iff_log_lt (by decide) hpos).mp (lt_of_le_of_lt h ?_)
      have hsplit : ((2 : ℕ) : ℚ) ^ (1024 : ℤ) = 2 ^ 53 * 2 ^ 971 := by
        rw [← pow_add]
        rfl
      rw [hsplit]
      exact mul_lt_mul_of_pos_right (by norm_num) (by positivity)
    have hlt := Int.lt_zpow_succ_log_self (b := 2) (by decide) q
    push_cast at hlt
    -- The exponent of the leading bit, or the least one.
    obtain ⟨e, he⟩ : ∃ e, e = max (Int.log 2 q) (-1022) := ⟨_, rfl⟩
    rw [← he]
    have hscaled : q / 2 ^ (e - 52) < 2 ^ (53 : ℤ) := by
      refine scaled_lt (lt_of_lt_of_le hlt (zpow_le_zpow_right₀ (by norm_num) ?_))
      omega
    have hnonneg : (0 : ℚ) ≤ roundHalfEven (q / 2 ^ (e - 52)) := by
      exact_mod_cast roundHalfEven_nonneg (by positivity)
    rw [abs_of_nonneg (mul_nonneg hnonneg (by positivity))]
    rcases Int.lt_or_eq_of_le (show e ≤ 1023 by omega) with hsmall | rfl
    · have hrounded : roundHalfEven (q / 2 ^ (e - 52)) ≤ 2 ^ 53 :=
        roundHalfEven_le (by push_cast; exact_mod_cast hscaled.le)
      calc (roundHalfEven (q / 2 ^ (e - 52)) : ℚ) * 2 ^ (e - 52)
          ≤ 2 ^ 53 * 2 ^ (970 : ℤ) := by
            refine mul_le_mul (by exact_mod_cast hrounded) ?_ (by positivity) (by positivity)
            exact zpow_le_zpow_right₀ (by norm_num) (by omega)
        _ = 2 ^ 52 * 2 ^ 971 := by
            rw [← pow_add, ← zpow_natCast, ← zpow_natCast, ← zpow_add₀ (by norm_num)]
            rfl
        _ ≤ MAX_DOUBLE := mul_le_mul_of_nonneg_right (by norm_num) (by positivity)
    · have hrounded : roundHalfEven (q / 2 ^ ((1023 : ℤ) - 52)) ≤ 2 ^ 53 - 1 := by
        refine roundHalfEven_le ?_
        rw [div_le_iff₀ (by positivity)]
        exact h.trans (by unfold MAX_DOUBLE; norm_num)
      calc (roundHalfEven (q / 2 ^ ((1023 : ℤ) - 52)) : ℚ) * 2 ^ ((1023 : ℤ) - 52)
          ≤ (2 ^ 53 - 1) * 2 ^ ((1023 : ℤ) - 52) := by
            refine mul_le_mul_of_nonneg_right ?_ (by positivity)
            exact_mod_cast hrounded
        _ ≤ MAX_DOUBLE := by
            unfold MAX_DOUBLE
            norm_num

/-! ## Comparison and division -/

namespace Double

theorem le_max_of_le_one {q : ℚ} (h : |q| ≤ 1) : |q| ≤ MAX_DOUBLE := by
  have hbits : (1 : ℚ) ≤ 2 ^ 53 - 1 := by norm_num
  exact h.trans (hbits.trans (le_mul_of_one_le_right (by norm_num) (one_le_pow₀ (by norm_num))))

def zero : Double := .finite ⟨0, le_max_of_le_one (by norm_num)⟩

def half : Double := .finite ⟨1 / 2, le_max_of_le_one (by norm_num)⟩

def one : Double := .finite ⟨1, le_max_of_le_one (by norm_num)⟩

/-- Where a double stands in the order: NaN nowhere. -/
def position : Double → Option (ℤ ×ₗ ℚ)
  | .finite q => some (toLex (0, q.1))
  | .inf negative => some (toLex (if negative then -1 else 1, 0))
  | .nan => none

/-- `x < y`. -/
def lt (x y : Double) : Bool :=
  match x.position, y.position with
  | some a, some b => decide (a < b)
  | _, _ => false

/-- `x == y`. -/
def eq (x y : Double) : Bool :=
  match x.position, y.position with
  | some a, some b => decide (a = b)
  | _, _ => false

/-- `x / y`, for a `y` that is above zero. -/
def divide : Double → Double → Double
  | .finite x, .finite y => ofRat (x.1 / y.1)
  | .finite _, .inf _ => zero
  | .inf negative, .finite _ => .inf negative
  | _, _ => .nan

/-- `round(x, 4)`: the double nearest to the decimal nearest to `x`. -/
def roundFour : Double → Double
  | .finite q => ofRat (roundHalfEven (q.1 * 10000) / 10000)
  | x => x

theorem position_isSome {x : Double} (h : x ≠ .nan) : ∃ p, x.position = some p := by
  cases x with
  | finite q => exact ⟨_, rfl⟩
  | inf negative => exact ⟨_, rfl⟩
  | nan => exact absurd rfl h

/-- A place for every double; NaN is put behind all. -/
def place (x : Double) : ℤ ×ₗ ℚ := x.position.getD (toLex (2, 0))

theorem lt_iff {x y : Double} (hx : x ≠ .nan) (hy : y ≠ .nan) : x.lt y = true ↔ x.place < y.place := by
  obtain ⟨p, hp⟩ := position_isSome hx
  obtain ⟨q, hq⟩ := position_isSome hy
  simp [lt, place, hp, hq]

theorem eq_iff {x y : Double} (hx : x ≠ .nan) (hy : y ≠ .nan) : x.eq y = true ↔ x.place = y.place := by
  obtain ⟨p, hp⟩ := position_isSome hx
  obtain ⟨q, hq⟩ := position_isSome hy
  simp [eq, place, hp, hq]

@[simp] theorem nan_lt (x : Double) : Double.nan.lt x = false := rfl

@[simp] theorem nan_eq (x : Double) : Double.nan.eq x = false := rfl

@[simp] theorem lt_nan (x : Double) : x.lt .nan = false := by
  cases x <;> rfl

@[simp] theorem eq_nan (x : Double) : x.eq .nan = false := by
  cases x <;> rfl

theorem lt_irrefl (x : Double) : x.lt x = false := by
  cases x <;> simp [lt, position]

theorem ofRat_ne_nan (q : ℚ) : ofRat q ≠ .nan := by
  unfold ofRat
  split <;> simp

theorem roundFour_eq_nan {x : Double} : x.roundFour = .nan ↔ x = .nan := by
  cases x with
  | finite q => simp [roundFour, ofRat_ne_nan]
  | inf negative => simp [roundFour]
  | nan => simp [roundFour]

end Double

end ThreatFusion.Py
