import Mathlib.Data.List.Induction
import Mathlib.Order.Basic
/-
# Decimal texts of positive numbers

`isPositive t`: the whole of `t` matches `[1-9][0-9]*`. Such texts and the positive numbers are the
same thing: `toDigits_value` and `isPositive_toDigits`, with `Nat.ofDigitChars 10 t 0` for `int(t)`.
-/
namespace Decimal

/-- `re.fullmatch(r"[1-9][0-9]*", t)`. -/
def isPositive : List Char → Bool
  | [] => false
  | c :: cs => c.isDigit && c != '0' && cs.all Char.isDigit

/-- `int(t)`. -/
def value (t : List Char) : Nat := Nat.ofDigitChars 10 t 0

theorem digit_value {c : Char} (h : c.isDigit = true) : ∃ d < 10, c = Nat.digitChar d := by
  have hb : 48 ≤ c.toNat ∧ c.toNat ≤ 57 := by
    simp only [Char.isDigit, Bool.and_eq_true, decide_eq_true_eq, ge_iff_le, UInt32.le_iff_toNat_le] at h
    exact h
  have key : ∀ d < 10, Nat.digitChar d = Char.ofNat (48 + d) := by decide
  refine ⟨c.toNat - 48, by omega, ?_⟩
  rw [key _ (by omega), Nat.add_sub_cancel' hb.1, Char.ofNat_toNat]

theorem value_append_digit (t : List Char) {d : Nat} (hd : d < 10) :
    value (t ++ [Nat.digitChar d]) = 10 * value t + d := by
  rw [value, Nat.ofDigitChars_append, Nat.ofDigitChars_cons_digitChar_of_lt_ten hd, Nat.ofDigitChars_nil]
  rfl

theorem isPositive_append {t : List Char} {c : Char} (ht : t ≠ []) :
    isPositive (t ++ [c]) = (isPositive t && c.isDigit) := by
  obtain ⟨x, xs, rfl⟩ := List.exists_cons_of_ne_nil ht
  simp [isPositive, Bool.and_assoc]

/-- The text is that of its value, which is positive. -/
theorem toDigits_value {t : List Char} (h : isPositive t = true) : Nat.toDigits 10 (value t) = t ∧ 0 < value t := by
  induction t using List.reverseRecOn with
  | nil => cases h
  | append_singleton t c ih =>
    by_cases ht : t = []
    · subst ht
      have hc : c.isDigit = true ∧ c ≠ '0' := by simpa [isPositive] using h
      obtain ⟨d, hd, rfl⟩ := digit_value hc.1
      have hpos : d ≠ 0 := fun h0 => hc.2 (by rw [h0]; rfl)
      rw [value_append_digit [] hd]
      have hzero : 10 * value [] + d = d := by simp [value]
      rw [hzero, Nat.toDigits_of_lt_base hd]
      exact ⟨rfl, Nat.pos_of_ne_zero hpos⟩
    · rw [isPositive_append ht, Bool.and_eq_true] at h
      obtain ⟨hdigits, hpos⟩ := ih h.1
      obtain ⟨d, hd, rfl⟩ := digit_value h.2
      rw [value_append_digit t hd, ← Nat.toDigits_append_toDigits (by decide) hpos hd, hdigits,
        Nat.toDigits_of_lt_base hd]
      exact ⟨rfl, by omega⟩

/-- A positive number has such a text. -/
theorem isPositive_toDigits {n : Nat} (hn : 0 < n) : isPositive (Nat.toDigits 10 n) = true := by
  induction n using Nat.strongRecOn with
  | _ n ih =>
    by_cases hsmall : n < 10
    · rw [Nat.toDigits_of_lt_base hsmall]
      have key : ∀ d < 10, 0 < d → isPositive [Nat.digitChar d] = true := by decide
      exact key n hsmall hn
    · rw [Nat.toDigits_of_base_le (by decide) (Nat.le_of_not_lt hsmall), isPositive_append Nat.toDigits_ne_nil,
        ih (n / 10) (by omega) (by omega), Nat.isDigit_digitChar]
      simp [Nat.mod_lt]

theorem value_toDigits (n : Nat) : value (Nat.toDigits 10 n) = n := Nat.ofDigitChars_ten_toDigits

/-- The texts of the positive numbers. -/
theorem isPositive_iff {t : List Char} : isPositive t = true ↔ 0 < value t ∧ t = Nat.toDigits 10 (value t) := by
  refine ⟨fun h => ⟨(toDigits_value h).2, (toDigits_value h).1.symm⟩, fun h => ?_⟩
  rw [h.2]
  exact isPositive_toDigits h.1

end Decimal
