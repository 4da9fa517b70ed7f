import ThreatFusion.Lib.Numeral
import Mathlib.Data.String.Basic
import Mathlib.Data.Rat.Defs
/-
# UTC datetimes: `datetime.isoformat()` and `datetime.timestamp()`

The repository stores times as `isoformat()` text and takes `min` / `max` / `sort` of that text.
A `DateTime` is an aware value with a zero offset, whose offset prints as `+00:00`.

| here | there |
| --- | --- |
| `DateTime`       | `datetime` with `tzinfo` at offset zero (`_is_utc`, `schemas/alert_candidate.py:99`) |
| `isoformat`      | `datetime.isoformat()`: `.ffffff` only when the microsecond is not zero |
| `micros`         | microseconds since 0001-01-01T00:00:00Z (`toordinal` and the time of day) |
| `timestamp`      | `datetime.timestamp()` before rounding to a double |

`isoformat_lt`: text order is time order, with and without the fraction (`'+' < '.'`).
-/
namespace ThreatFusion.Py
open Numeral

def isLeap (y : Nat) : Bool := y % 4 == 0 && (y % 100 != 0 || y % 400 == 0)

def monthLengths (leap : Bool) : List Nat :=
  [31, if leap then 29 else 28, 31, 30, 31, 30, 31, 31, 30, 31, 30, 31]

def daysInMonth (y m : Nat) : Nat := (monthLengths (isLeap y)).getD (m - 1) 0

def daysBeforeMonth (y m : Nat) : Nat := ((monthLengths (isLeap y)).take (m - 1)).sum

def daysBeforeYear (y : Nat) : Nat := (y - 1) * 365 + (y - 1) / 4 - (y - 1) / 100 + (y - 1) / 400

structure DateTime where
  year : Nat
  month : Nat
  day : Nat
  hour : Nat
  minute : Nat
  second : Nat
  microsecond : Nat
  date_ok : 1 ≤ year ∧ year ≤ 9999 ∧ 1 ≤ month ∧ month ≤ 12 ∧ 1 ≤ day ∧ day ≤ daysInMonth year month
  time_ok : hour < 24 ∧ minute < 60 ∧ second < 60 ∧ microsecond < 1000000
deriving DecidableEq

namespace DateTime

/-- `.ffffff`, or nothing for a whole second, and the offset. -/
def isoTail (us : Nat) : List Char :=
  (if us = 0 then [] else '.' :: numeral 6 us) ++ "+00:00".toList

def isoChars (t : DateTime) : List Char :=
  numeral 4 t.year ++ '-' :: (numeral 2 t.month ++ '-' :: (numeral 2 t.day ++ 'T' ::
    (numeral 2 t.hour ++ ':' :: (numeral 2 t.minute ++ ':' :: (numeral 2 t.second ++
      isoTail t.microsecond)))))

def isoformat (t : DateTime) : String := String.ofList t.isoChars

def toordinal (t : DateTime) : Nat :=
  daysBeforeYear t.year + daysBeforeMonth t.year t.month + t.day

def micros (t : DateTime) : Nat :=
  (((t.toordinal * 24 + t.hour) * 60 + t.minute) * 60 + t.second) * 1000000 + t.microsecond

/-- Days of 0001-01-01 to 1970-01-01, the `datetime` epoch. -/
def epochOrdinal : Nat := 719163

def timestamp (t : DateTime) : ℚ := ((t.micros : ℚ) - epochOrdinal * 86400000000) / 1000000

/-! ## Text order is time order -/

theorem daysBeforeYear_succ {y : Nat} (hy : 1 ≤ y) :
    daysBeforeYear (y + 1) = daysBeforeYear y + (monthLengths (isLeap y)).sum := by
  obtain ⟨k, rfl⟩ : ∃ k, y = k + 1 := ⟨y - 1, by omega⟩
  have hsum : (monthLengths (isLeap (k + 1))).sum = if isLeap (k + 1) then 366 else 365 := by
    cases isLeap (k + 1) <;> rfl
  have hleap : isLeap (k + 1) = true ↔ 4 ∣ k + 1 ∧ (¬ 100 ∣ k + 1 ∨ 400 ∣ k + 1) := by
    simp [isLeap, Nat.dvd_iff_mod_eq_zero]
  have h100 : 100 ∣ k + 1 → 4 ∣ k + 1 := fun h => Nat.dvd_trans (by decide) h
  have h400 : 400 ∣ k + 1 → 100 ∣ k + 1 := fun h => Nat.dvd_trans (by decide) h
  have hle : k / 100 ≤ k / 4 := Nat.div_le_div_left (by decide) (by decide)
  rw [hsum]
  simp only [daysBeforeYear, Nat.add_sub_cancel, Nat.succ_div, hleap]
  -- which of the three counters moves at year `k + 1`
  generalize k / 4 = q4 at *
  generalize k / 100 = q100 at *
  by_cases d4 : 4 ∣ k + 1 <;> by_cases d100 : 100 ∣ k + 1 <;> by_cases d400 : 400 ∣ k + 1 <;>
    simp only [d4, d100, d400, if_true, if_false, not_true, not_false_iff, or_true, or_false, and_true,
      and_false] at h100 h400 ⊢ <;> omega

theorem daysBeforeYear_mono {y z : Nat} (hy : 1 ≤ y) (hyz : y < z) :
    daysBeforeYear y + (monthLengths (isLeap y)).sum ≤ daysBeforeYear z := by
  induction z with
  | zero => omega
  | succ z ih =>
    rcases Nat.lt_succ_iff_lt_or_eq.1 hyz with h | rfl
    · rw [daysBeforeYear_succ (by omega)]
      exact Nat.le_add_right_of_le (ih h)
    · rw [daysBeforeYear_succ hy]

theorem daysBeforeMonth_mono : ∀ {y m n : Nat}, 1 ≤ m → m < n → n ≤ 13 →
    daysBeforeMonth y m + daysInMonth y m ≤ daysBeforeMonth y n := by
  have key : ∀ leap : Bool, ∀ n ≤ 13, ∀ m < n, 1 ≤ m →
      ((monthLengths leap).take (m - 1)).sum + (monthLengths leap).getD (m - 1) 0 ≤
        ((monthLengths leap).take (n - 1)).sum := by decide
  exact fun {y m n} h1 h2 h3 => key (isLeap y) n h3 m h2 h1

theorem toordinal_lt {a b : DateTime}
    (h : a.year < b.year ∨ a.year = b.year ∧ (a.month < b.month ∨ a.month = b.month ∧ a.day < b.day)) :
    a.toordinal < b.toordinal := by
  obtain ⟨hy, -, hm, hm', hd, hd'⟩ := a.date_ok
  obtain ⟨-, -, hn, hn', he, -⟩ := b.date_ok
  unfold toordinal
  rcases h with h | ⟨hyear, h | ⟨hmonth, h⟩⟩
  · have hyears := daysBeforeYear_mono hy h
    have hrest : daysBeforeMonth a.year a.month + daysInMonth a.year a.month ≤
        daysBeforeMonth a.year 13 := daysBeforeMonth_mono hm (by omega) (Nat.le_refl 13)
    have htotal : daysBeforeMonth a.year 13 = (monthLengths (isLeap a.year)).sum := by
      unfold daysBeforeMonth; cases isLeap a.year <;> rfl
    omega
  · have hmonths := daysBeforeMonth_mono (y := a.year) hm h (by omega)
    rw [← hyear]; omega
  · rw [← hyear, ← hmonth]; omega

/-- The fields in the order in which both the text and the instant compare. -/
def Before (a b : DateTime) : Prop :=
  a.year < b.year ∨ a.year = b.year ∧ (a.month < b.month ∨ a.month = b.month ∧ (a.day < b.day ∨
    a.day = b.day ∧ (a.hour < b.hour ∨ a.hour = b.hour ∧ (a.minute < b.minute ∨
      a.minute = b.minute ∧ (a.second < b.second ∨
        a.second = b.second ∧ a.microsecond < b.microsecond)))))

theorem micros_lt_of_before {a b : DateTime} (h : a.Before b) : a.micros < b.micros := by
  obtain ⟨h1, h2, h3, h4⟩ := a.time_ok
  obtain ⟨g1, g2, g3, g4⟩ := b.time_ok
  have hday : a.toordinal < b.toordinal ∨ a.toordinal = b.toordinal ∧
      (a.hour < b.hour ∨ a.hour = b.hour ∧ (a.minute < b.minute ∨ a.minute = b.minute ∧
        (a.second < b.second ∨ a.second = b.second ∧ a.microsecond < b.microsecond))) := by
    rcases h with h | ⟨e1, h | ⟨e2, h | ⟨e3, h⟩⟩⟩
    · exact .inl (toordinal_lt (.inl h))
    · exact .inl (toordinal_lt (.inr ⟨e1, .inl h⟩))
    · exact .inl (toordinal_lt (.inr ⟨e1, .inr ⟨e2, h⟩⟩))
    · exact .inr ⟨by simp [toordinal, e1, e2, e3], h⟩
  unfold micros
  omega

theorem before_trichotomy (a b : DateTime) : a.Before b ∨ a = b ∨ b.Before a := by
  by_cases heq : a = b
  · exact .inr (.inl heq)
  · have hne : ¬ (a.year = b.year ∧ a.month = b.month ∧ a.day = b.day ∧ a.hour = b.hour ∧
        a.minute = b.minute ∧ a.second = b.second ∧ a.microsecond = b.microsecond) := by
      rintro ⟨h1, h2, h3, h4, h5, h6, h7⟩
      exact heq (by cases a; cases b; simp_all)
    unfold Before
    omega

theorem micros_lt {a b : DateTime} : a.micros < b.micros ↔ a.Before b := by
  refine ⟨fun h => ?_, micros_lt_of_before⟩
  rcases before_trichotomy a b with hb | rfl | hb
  · exact hb
  · omega
  · have := micros_lt_of_before hb; omega

theorem micros_inj {a b : DateTime} : a.micros = b.micros ↔ a = b := by
  refine ⟨fun h => ?_, fun h => h ▸ rfl⟩
  rcases before_trichotomy a b with hb | hb | hb
  · have := micros_lt_of_before hb; omega
  · exact hb
  · have := micros_lt_of_before hb; omega

theorem isoTail_lt {u v : Nat} (hu : u < 1000000) (hv : v < 1000000) : isoTail u < isoTail v ↔ u < v := by
  unfold isoTail
  by_cases h0 : u = 0 <;> by_cases h1 : v = 0
  · simp [h0, h1]
  · subst h0
    have : '+' < '.' := by decide
    simp [h1, List.cons_lt_cons_iff, this, Nat.pos_of_ne_zero h1]
  · subst h1
    have : ¬ '.' < '+' := by decide
    simp [h0, List.cons_lt_cons_iff, this]
  · simp only [h0, h1, if_false, List.cons_append, List.cons_lt_cons_iff, lt_irrefl, false_or,
      true_and]
    rw [numeral_append_lt (by omega) (by omega)]
    simp

theorem isoChars_lt {a b : DateTime} : a.isoChars < b.isoChars ↔ a.Before b := by
  obtain ⟨-, ha, -, hm, -, hd⟩ := a.date_ok
  obtain ⟨-, hb, -, hm', -, hd'⟩ := b.date_ok
  obtain ⟨h1, h2, h3, h4⟩ := a.time_ok
  obtain ⟨g1, g2, g3, g4⟩ := b.time_ok
  have short : ∀ y m, daysInMonth y m ≤ 31 := by
    have key : ∀ leap : Bool, ∀ i < 12, (monthLengths leap).getD i 0 ≤ 31 := by decide
    intro y m
    by_cases hm : m - 1 < 12
    · exact key (isLeap y) _ hm
    · have : (monthLengths (isLeap y)).length ≤ m - 1 := by simp [monthLengths]; omega
      simp [daysInMonth, List.getD_eq_getElem?_getD, List.getElem?_eq_none this]
  have hday := (short a.year a.month).trans' hd
  have hday' := (short b.year b.month).trans' hd'
  unfold isoChars Before
  rw [numeral_append_lt (by omega) (by omega)]
  simp only [List.cons_lt_cons_iff, lt_irrefl, false_or, true_and]
  rw [numeral_append_lt (by omega) (by omega)]
  simp only [List.cons_lt_cons_iff, lt_irrefl, false_or, true_and]
  rw [numeral_append_lt (by omega) (by omega)]
  simp only [List.cons_lt_cons_iff, lt_irrefl, false_or, true_and]
  rw [numeral_append_lt (by omega) (by omega)]
  simp only [List.cons_lt_cons_iff, lt_irrefl, false_or, true_and]
  rw [numeral_append_lt (by omega) (by omega)]
  simp only [List.cons_lt_cons_iff, lt_irrefl, false_or, true_and]
  rw [numeral_append_lt (by omega) (by omega), isoTail_lt h4 g4]

/-- **`isoformat` text sorts in time order.** -/
theorem isoformat_lt {a b : DateTime} : a.isoformat < b.isoformat ↔ a.micros < b.micros := by
  rw [String.lt_iff_toList_lt, isoformat, isoformat, String.toList_ofList, String.toList_ofList,
    isoChars_lt, micros_lt]

theorem isoformat_le {a b : DateTime} : a.isoformat ≤ b.isoformat ↔ a.micros ≤ b.micros := by
  rw [← not_lt, ← not_lt, isoformat_lt]

theorem isoformat_inj {a b : DateTime} : a.isoformat = b.isoformat ↔ a = b := by
  rw [← micros_inj, le_antisymm_iff, le_antisymm_iff, isoformat_le, isoformat_le]

end DateTime
end ThreatFusion.Py
