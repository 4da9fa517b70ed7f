import Mathlib.Data.List.Basic
import Mathlib.Order.Defs.LinearOrder
import Mathlib.Tactic.Ring
/-
# Fixed-width decimal numerals and lexicographic order

`numeral w n` is `n` written with exactly `w` decimal digits (`f"{n:0{w}d}"` for `n < 10 ^ w`).
Two texts that start with numerals of one width compare first by the numbers
(`numeral_append_lt`), which is why zero-padded timestamps sort as text.
-/
namespace Numeral

/-- The character of one decimal digit. -/
def digit (d : Nat) : Char := Char.ofNat (48 + d)

def numeral : Nat → Nat → List Char
  | 0, _ => []
  | w + 1, n => numeral w (n / 10) ++ [digit (n % 10)]

theorem digit_lt : ∀ {a b : Nat}, a < 10 → b < 10 → (digit a < digit b ↔ a < b) := by
  have h : ∀ a < 10, ∀ b < 10, (digit a < digit b ↔ a < b) := by decide
  exact fun {a b} ha hb => h a ha b hb

theorem digit_inj : ∀ {a b : Nat}, a < 10 → b < 10 → (digit a = digit b ↔ a = b) := by
  have h : ∀ a < 10, ∀ b < 10, (digit a = digit b ↔ a = b) := by decide
  exact fun {a b} ha hb => h a ha b hb

@[simp] theorem length_numeral : ∀ w n : Nat, (numeral w n).length = w
  | 0, _ => rfl
  | w + 1, n => by simp [numeral, length_numeral w]

theorem all_numeral {p : Char → Bool} (hp : ∀ d < 10, p (digit d) = true) : ∀ w n : Nat, (numeral w n).all p = true
  | 0, _ => rfl
  | w + 1, n => by
    rw [numeral, List.all_append, all_numeral hp w, List.all_cons, List.all_nil, hp _ (Nat.mod_lt _ (by decide))]
    rfl

theorem append_lt_append_iff :
    ∀ {a b x y : List Char}, a.length = b.length → (a ++ x < b ++ y ↔ a < b ∨ a = b ∧ x < y)
  | [], [], _, _, _ => by simp
  | [], _ :: _, _, _, h => by simp at h
  | _ :: _, [], _, _, h => by simp at h
  | a :: as, b :: bs, x, y, h => by
    have ih := append_lt_append_iff (a := as) (b := bs) (x := x) (y := y) (by simpa using h)
    simp only [List.cons_append, List.cons_lt_cons_iff, ih, List.cons.injEq]
    grind

theorem numeral_inj : ∀ {w n m : Nat}, n < 10 ^ w → m < 10 ^ w → (numeral w n = numeral w m ↔ n = m)
  | 0, n, m, hn, hm => by simp at hn hm; simp [hn, hm]
  | w + 1, n, m, hn, hm => by
    have hn' : n / 10 < 10 ^ w := by rw [pow_succ] at hn; omega
    have hm' : m / 10 < 10 ^ w := by rw [pow_succ] at hm; omega
    simp only [numeral]
    constructor
    · intro h
      obtain ⟨hq, hr⟩ := List.append_inj h (by simp)
      have hq := (numeral_inj hn' hm').1 hq
      have hr := (digit_inj (by omega) (by omega)).1 (List.cons.inj hr).1
      omega
    · rintro rfl; rfl

theorem numeral_lt : ∀ {w n m : Nat}, n < 10 ^ w → m < 10 ^ w → (numeral w n < numeral w m ↔ n < m)
  | 0, n, m, hn, hm => by simp at hn hm; simp [numeral, hn, hm]
  | w + 1, n, m, hn, hm => by
    have hn' : n / 10 < 10 ^ w := by rw [pow_succ] at hn; omega
    have hm' : m / 10 < 10 ^ w := by rw [pow_succ] at hm; omega
    simp only [numeral]
    rw [append_lt_append_iff (by simp), numeral_lt hn' hm', numeral_inj hn' hm',
      List.cons_lt_cons_iff, digit_lt (by omega) (by omega)]
    simp only [List.not_lt_nil, and_false, or_false]
    omega

/-- **Padded numbers sort as numbers**, whatever follows them. -/
theorem numeral_append_lt {w n m : Nat} {x y : List Char} (hn : n < 10 ^ w) (hm : m < 10 ^ w) :
    numeral w n ++ x < numeral w m ++ y ↔ n < m ∨ n = m ∧ x < y := by
  rw [append_lt_append_iff (by simp), numeral_lt hn hm, numeral_inj hn hm]

end Numeral
