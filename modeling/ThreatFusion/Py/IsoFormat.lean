import ThreatFusion.Py.DateTime
/-
# `datetime.fromisoformat` on the text of a UTC time

The tables hold `isoformat()` text and their readers parse it again. `fromisoformat` reads the texts that
`isoformat` writes for a zero offset; any other text is `none` here (no table holds one).

`fromisoformat_isoformat`: the parser gives back the time that was written.
-/
namespace Numeral

def readDigit (c : Char) : Option Nat := if '0' ≤ c ∧ c ≤ '9' then some (c.toNat - 48) else none

/-- `w` decimal digits, and what follows them. -/
def readNumeral : Nat → List Char → Option (Nat × List Char)
  | 0, cs => some (0, cs)
  | w + 1, cs => match readNumeral w cs with
    | some (n, c :: rest) => (readDigit c).map fun d => (n * 10 + d, rest)
    | _ => none

theorem readDigit_digit : ∀ {d : Nat}, d < 10 → readDigit (digit d) = some d := by
  have h : ∀ d < 10, readDigit (digit d) = some d := by decide
  exact fun {d} hd => h d hd

theorem readNumeral_append {w n : Nat} (h : n < 10 ^ w) (rest : List Char) :
    readNumeral w (numeral w n ++ rest) = some (n, rest) := by
  induction w generalizing n rest with
  | zero =>
    obtain rfl : n = 0 := by simpa using h
    rfl
  | succ w ih =>
    have hhigh : n / 10 < 10 ^ w := by rw [pow_succ] at h; omega
    have hlow : readDigit (digit (n % 10)) = some (n % 10) := readDigit_digit (Nat.mod_lt _ (by decide))
    rw [numeral, List.append_assoc, readNumeral, ih hhigh, List.singleton_append]
    dsimp only
    rw [hlow, Option.map_some, Nat.mul_comm, Nat.div_add_mod]

end Numeral

namespace ThreatFusion.Py
open Numeral

namespace DateTime

/-- The constructor call: `none` is the `ValueError`. -/
def new (year month day hour minute second microsecond : Nat) : Option DateTime :=
  if h : (1 ≤ year ∧ year ≤ 9999 ∧ 1 ≤ month ∧ month ≤ 12 ∧ 1 ≤ day ∧ day ≤ daysInMonth year month) ∧
      hour < 24 ∧ minute < 60 ∧ second < 60 ∧ microsecond < 1000000 then
    some ⟨year, month, day, hour, minute, second, microsecond, h.1, h.2⟩
  else none

def expect (c : Char) : List Char → Option (List Char)
  | d :: rest => if d = c then some rest else none
  | [] => none

/-- The fraction when there is one, then `+00:00` and no more. -/
def readTail : List Char → Option Nat
  | '.' :: cs => match readNumeral 6 cs with
    | some (us, rest) => if rest = "+00:00".toList then some us else none
    | none => none
  | cs => if cs = "+00:00".toList then some 0 else none

def readIso (cs : List Char) : Option DateTime := do
  let (year, cs) ← readNumeral 4 cs
  let cs ← expect '-' cs
  let (month, cs) ← readNumeral 2 cs
  let cs ← expect '-' cs
  let (day, cs) ← readNumeral 2 cs
  let cs ← expect 'T' cs
  let (hour, cs) ← readNumeral 2 cs
  let cs ← expect ':' cs
  let (minute, cs) ← readNumeral 2 cs
  let cs ← expect ':' cs
  let (second, cs) ← readNumeral 2 cs
  let us ← readTail cs
  DateTime.new year month day hour minute second us

def fromisoformat (s : String) : Option DateTime := readIso s.toList

theorem new_self (t : DateTime) : DateTime.new t.year t.month t.day t.hour t.minute t.second t.microsecond = some t :=
  dif_pos ⟨t.date_ok, t.time_ok⟩

theorem expect_cons (c : Char) (rest : List Char) : expect c (c :: rest) = some rest := if_pos rfl

theorem readTail_isoTail {us : Nat} (h : us < 1000000) : readTail (isoTail us) = some us := by
  unfold isoTail
  by_cases h0 : us = 0
  · rw [if_pos h0, h0]
    rfl
  · rw [if_neg h0, List.cons_append, readTail, readNumeral_append (by omega)]
    exact if_pos rfl

theorem daysInMonth_le (y m : Nat) : daysInMonth y m ≤ 31 := by
  have key : ∀ leap : Bool, ∀ i < 12, (monthLengths leap).getD i 0 ≤ 31 := by decide
  by_cases hm : m - 1 < 12
  · exact key (isLeap y) _ hm
  · have hlength : (monthLengths (isLeap y)).length ≤ m - 1 := by
      rw [monthLengths]
      simp only [List.length_cons, List.length_nil]
      omega
    rw [daysInMonth, List.getD_eq_getElem?_getD, List.getElem?_eq_none hlength]
    exact Nat.zero_le _

/-- **What was written is read.** -/
theorem fromisoformat_isoformat (t : DateTime) : fromisoformat t.isoformat = some t := by
  obtain ⟨-, hyear, -, hmonth, -, hday⟩ := t.date_ok
  obtain ⟨hhour, hminute, hsecond, hus⟩ := t.time_ok
  have hday' := hday.trans (daysInMonth_le t.year t.month)
  rw [fromisoformat, isoformat, String.toList_ofList, readIso, isoChars]
  simp only [readNumeral_append (show t.year < 10 ^ 4 by omega), readNumeral_append (show t.month < 10 ^ 2 by omega),
    readNumeral_append (show t.day < 10 ^ 2 by omega), readNumeral_append (show t.hour < 10 ^ 2 by omega),
    readNumeral_append (show t.minute < 10 ^ 2 by omega), readNumeral_append (show t.second < 10 ^ 2 by omega),
    expect_cons, readTail_isoTail hus, Option.bind_eq_bind, Option.bind_some, new_self]

theorem length_isoformat_le (t : DateTime) : t.isoformat.length ≤ 32 := by
  have htail : (isoTail t.microsecond).length ≤ 13 := by
    unfold isoTail
    split <;> simp
  simp only [isoformat, String.length_ofList, isoChars, List.length_append, List.length_cons, length_numeral]
  omega

/-- The text has digits and five other characters. -/
theorem isoformat_all {p : Char → Bool} (hdigits : ∀ d < 10, p (digit d) = true)
    (hmarks : ['-', 'T', ':', '.', '+'].all p = true) (t : DateTime) : t.isoformat.toList.all p = true := by
  have hzero : p '0' = true := hdigits 0 (by decide)
  simp only [List.all_cons, List.all_nil, Bool.and_true, Bool.and_eq_true] at hmarks
  obtain ⟨hdash, hT, hcolon, hpoint, hplus⟩ := hmarks
  have htail : (isoTail t.microsecond).all p = true := by
    unfold isoTail
    rw [List.all_append, Bool.and_eq_true]
    constructor
    · split
      · rfl
      · rw [List.all_cons, hpoint, all_numeral hdigits]
        rfl
    · simp [hplus, hzero, hcolon]
  simp only [isoformat, String.toList_ofList, isoChars, List.all_append, List.all_cons, all_numeral hdigits, hdash, hT,
    hcolon, htail, Bool.and_self]

end DateTime
end ThreatFusion.Py
