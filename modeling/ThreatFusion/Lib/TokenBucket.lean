import Mathlib.Algebra.Order.Ring.Int
import Mathlib.Tactic.Linarith
import Mathlib.Tactic.Ring
/-
# Token buckets

A meter holds credit that grows with time up to a cap; an attempt first takes the credit of the time since the last
one, and may then spend one unit of it.

* `Step.bounded`: credit stays between nothing and the cap.
* `Step.potential_le`: `credit + unit * spent - time` never rises: what is spent is paid by time or by credit.
* `spent_window`: between two moments a meter spends at most its cap and what the time between them earned.
-/
namespace TokenBucket

structure Meter where
  credit : ℤ
  time : ℤ
  spent : ℤ

namespace Meter

/-- Take the credit of the time up to `now`. -/
def tick (cap now : ℤ) (m : Meter) : Meter := { m with credit := min cap (m.credit + (now - m.time)), time := now }

def spend (unit : ℤ) (m : Meter) : Meter := { m with credit := m.credit - unit, spent := m.spent + 1 }

@[simp] theorem tick_time (cap now : ℤ) (m : Meter) : (m.tick cap now).time = now := rfl
@[simp] theorem tick_spent (cap now : ℤ) (m : Meter) : (m.tick cap now).spent = m.spent := rfl
@[simp] theorem spend_time (unit : ℤ) (m : Meter) : (m.spend unit).time = m.time := rfl
@[simp] theorem spend_spent (unit : ℤ) (m : Meter) : (m.spend unit).spent = m.spent + 1 := rfl
@[simp] theorem spend_credit (unit : ℤ) (m : Meter) : (m.spend unit).credit = m.credit - unit := rfl

def Bounded (cap : ℤ) (m : Meter) : Prop := 0 ≤ m.credit ∧ m.credit ≤ cap

def potential (unit : ℤ) (m : Meter) : ℤ := m.credit + unit * m.spent - m.time

theorem tick_le (cap now : ℤ) (m : Meter) : (m.tick cap now).credit ≤ cap := min_le_left _ _

theorem bounded_tick {cap now : ℤ} {m : Meter} (h : m.Bounded cap) (hnow : m.time ≤ now) :
    (m.tick cap now).Bounded cap := by
  have hcredit := h.1
  have hcap := h.2
  refine ⟨le_min ?_ ?_, tick_le cap now m⟩
  · omega
  · omega

theorem potential_tick (cap unit now : ℤ) (m : Meter) : (m.tick cap now).potential unit ≤ m.potential unit := by
  have hmin : (m.tick cap now).credit ≤ m.credit + (now - m.time) := min_le_right _ _
  rw [potential, potential, tick_time, tick_spent]
  omega

@[simp] theorem potential_spend (unit : ℤ) (m : Meter) : (m.spend unit).potential unit = m.potential unit := by
  rw [potential, potential, spend_credit, spend_spent, spend_time]
  ring

end Meter

/-- What an attempt does to a meter: nothing, or a tick and perhaps the spending of one unit. -/
inductive Step (cap unit : ℤ) : Meter → Meter → Prop
  | stay (m : Meter) : Step cap unit m m
  | tick (m : Meter) {now : ℤ} (hnow : m.time ≤ now) : Step cap unit m (m.tick cap now)
  | spend (m : Meter) {now : ℤ} (hnow : m.time ≤ now) (hpaid : unit ≤ (m.tick cap now).credit) :
      Step cap unit m ((m.tick cap now).spend unit)

section
variable {cap unit : ℤ} {m m' : Meter}

theorem Step.bounded (hunit : 0 ≤ unit) (h : Step cap unit m m') (hm : m.Bounded cap) : m'.Bounded cap := by
  cases h with
  | stay => exact hm
  | tick hnow => exact Meter.bounded_tick hm hnow
  | spend hnow hpaid =>
    have hcap := (Meter.bounded_tick hm hnow).2
    constructor
    · rw [Meter.spend_credit]
      omega
    · rw [Meter.spend_credit]
      omega

theorem Step.potential_le (h : Step cap unit m m') : m'.potential unit ≤ m.potential unit := by
  cases h with
  | stay => exact le_rfl
  | tick => exact Meter.potential_tick _ _ _ _
  | spend =>
    rw [Meter.potential_spend]
    exact Meter.potential_tick _ _ _ _

theorem Step.time_le (h : Step cap unit m m') : m.time ≤ m'.time := by
  cases h with
  | stay => exact le_rfl
  | tick hnow => exact hnow
  | spend hnow => exact hnow

/-- **The window bound.** From an attempt at `start` (`m` before it) to a later moment `m'`: the cap, and the time
between. -/
theorem spent_window {start : ℤ} (hm' : 0 ≤ m'.credit)
    (h : m'.potential unit ≤ (m.tick cap start).potential unit) :
    unit * (m'.spent - m.spent) ≤ cap + (m'.time - start) := by
  have hcap := Meter.tick_le cap start m
  rw [Meter.potential, Meter.potential, Meter.tick_spent, Meter.tick_time] at h
  rw [mul_sub]
  linarith

end
end TokenBucket
