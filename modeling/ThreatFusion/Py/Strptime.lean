import ThreatFusion.Py.Ascii
import ThreatFusion.Py.IsoFormat
/-
# `datetime.strptime(value, "%Y-%m-%dT%H:%M:%SZ")` on a text of that shape

`\d` and `int()` take every decimal digit of Unicode, and so does `strptime`, where its own pattern has `\d`: in the
year, and as the second digit of the day, the hour, the minute and the second.

| here | there |
| --- | --- |
| `DecimalDigits`  | the decimal digits of Unicode, with their values |
| `matchesUtc`     | `_UTC_TIMESTAMP.fullmatch` (`producer_admission.py`:45) |
| `parseTimestamp` | `_parse_timestamp` (:156-162); `none` is `request_time_invalid` |
| `utcText`        | `YYYY-MM-DDTHH:MM:SSZ` in ASCII digits |

`parseTimestamp_ascii`: an ASCII text is accepted exactly when it is the text of a whole UTC second.
-/
namespace ThreatFusion.Py
open Numeral

/-- The value of a decimal digit; `none` for any other character. -/
structure DecimalDigits where
  value : Char → Option Nat
  ascii : ∀ c : Char, c.toNat < 128 → value c = readDigit c
  lt : ∀ {c : Char} {d : Nat}, value c = some d → d < 10

namespace DateTime

/-- `d` is a digit, and any other character stands for itself. -/
def utcShape : List Char :=
  ['d', 'd', 'd', 'd', '-', 'd', 'd', '-', 'd', 'd', 'T', 'd', 'd', ':', 'd', 'd', ':', 'd', 'd', 'Z']

def matchesUtc (U : DecimalDigits) (cs : List Char) : Bool :=
  cs.length == utcShape.length && (cs.zip utcShape).all fun p =>
    if p.2 = 'd' then (U.value p.1).isSome else p.1 == p.2

section
variable (U : DecimalDigits)

/-- Two characters as a number, when the pattern of the directive takes them; it is told whether `d` is a `\d`. -/
def directive (pattern : Bool → Char → Char → Bool) (c d : Char) : Option Nat :=
  if pattern (U.value d).isSome c d then (U.value c).bind fun m => (U.value d).map fun n => m * 10 + n else none

/-- `1[0-2]|0[1-9]` -/
def monthPattern (_ : Bool) (c d : Char) : Bool :=
  (c == '1' && ['0', '1', '2'].contains d) || (c == '0' && d.isDigit && d != '0')

/-- `3[0-1]|[1-2]\d|0[1-9]` -/
def dayPattern (decimal : Bool) (c d : Char) : Bool :=
  (c == '3' && ['0', '1'].contains d) || (['1', '2'].contains c && decimal) || (c == '0' && d.isDigit && d != '0')

/-- `2[0-3]|[0-1]\d` -/
def hourPattern (decimal : Bool) (c d : Char) : Bool :=
  (c == '2' && ['0', '1', '2', '3'].contains d) || (['0', '1'].contains c && decimal)

/-- `[0-5]\d` -/
def minutePattern (decimal : Bool) (c _ : Char) : Bool := ['0', '1', '2', '3', '4', '5'].contains c && decimal

/-- `6[0-1]|[0-5]\d` -/
def secondPattern (decimal : Bool) (c d : Char) : Bool :=
  (c == '6' && ['0', '1'].contains d) || minutePattern decimal c d

def yearDirective (a b c d : Char) : Option Nat := do
  let a ← U.value a
  let b ← U.value b
  let c ← U.value c
  let d ← U.value d
  some (((a * 10 + b) * 10 + c) * 10 + d)

def strptime : List Char → Option DateTime
  | [y₁, y₂, y₃, y₄, '-', m₁, m₂, '-', d₁, d₂, 'T', h₁, h₂, ':', n₁, n₂, ':', s₁, s₂, 'Z'] => do
    let year ← yearDirective U y₁ y₂ y₃ y₄
    let month ← directive U monthPattern m₁ m₂
    let day ← directive U dayPattern d₁ d₂
    let hour ← directive U hourPattern h₁ h₂
    let minute ← directive U minutePattern n₁ n₂
    let second ← directive U secondPattern s₁ s₂
    DateTime.new year month day hour minute second 0
  | _ => none

def parseTimestamp (value : String) : Option DateTime :=
  if matchesUtc U value.toList then strptime U value.toList else none

end

def utcText (t : DateTime) : List Char :=
  numeral 4 t.year ++ '-' :: (numeral 2 t.month ++ '-' :: (numeral 2 t.day ++ 'T' ::
    (numeral 2 t.hour ++ ':' :: (numeral 2 t.minute ++ ':' :: (numeral 2 t.second ++ ['Z'])))))

/-! ## Digits -/

theorem readDigit_eq {c : Char} {d : Nat} (h : readDigit c = some d) : c = digit d ∧ d < 10 := by
  unfold readDigit at h
  split_ifs at h with hc
  obtain rfl := Option.some.inj h
  have hlow : 48 ≤ c.toNat := hc.1
  have hhigh : c.toNat ≤ 57 := hc.2
  refine ⟨?_, by omega⟩
  rw [digit, Nat.add_sub_cancel' hlow, Char.ofNat_toNat]

theorem numeral_two (n : Nat) : numeral 2 n = [digit (n / 10 % 10), digit (n % 10)] := rfl

theorem numeral_four (n : Nat) :
    numeral 4 n = [digit (n / 10 / 10 / 10 % 10), digit (n / 10 / 10 % 10), digit (n / 10 % 10), digit (n % 10)] := rfl

theorem new_eq_some {year month day hour minute second microsecond : Nat} {t : DateTime} :
    DateTime.new year month day hour minute second microsecond = some t ↔
      t.year = year ∧ t.month = month ∧ t.day = day ∧ t.hour = hour ∧ t.minute = minute ∧ t.second = second ∧
        t.microsecond = microsecond := by
  constructor
  · intro h
    unfold DateTime.new at h
    split_ifs at h
    obtain rfl := Option.some.inj h
    exact ⟨rfl, rfl, rfl, rfl, rfl, rfl, rfl⟩
  · rintro ⟨rfl, rfl, rfl, rfl, rfl, rfl, rfl⟩
    exact new_self t

section
variable {U : DecimalDigits}

theorem value_digit {d : Nat} (h : d < 10) : U.value (digit d) = some d := by
  rw [U.ascii _ (by revert d; decide), readDigit_digit h]

theorem directive_numeral {pattern : Bool → Char → Char → Bool} {n : Nat} (hn : n < 100)
    (h : pattern true (digit (n / 10 % 10)) (digit (n % 10)) = true) :
    directive U pattern (digit (n / 10 % 10)) (digit (n % 10)) = some n := by
  have hd : U.value (digit (n % 10)) = some (n % 10) := value_digit (Nat.mod_lt _ (by decide))
  have hc : U.value (digit (n / 10 % 10)) = some (n / 10 % 10) := value_digit (Nat.mod_lt _ (by decide))
  rw [directive, hd, hc, Option.isSome_some, if_pos h, Option.bind_some, Option.map_some]
  exact congrArg some (by omega)

/-- The characters that a directive takes, when they are ASCII. -/
theorem directive_ascii {pattern : Bool → Char → Char → Bool} {c d : Char} {n : Nat}
    (h : directive U pattern c d = some n) (hc : c.toNat < 128) (hd : d.toNat < 128) : [c, d] = numeral 2 n := by
  unfold directive at h
  split_ifs at h
  obtain ⟨a, ha, h⟩ := Option.bind_eq_some_iff.mp h
  obtain ⟨b, hb, rfl⟩ := Option.map_eq_some_iff.mp h
  rw [U.ascii c hc] at ha
  rw [U.ascii d hd] at hb
  obtain ⟨rfl, ha⟩ := readDigit_eq ha
  obtain ⟨rfl, hb⟩ := readDigit_eq hb
  rw [numeral_two, show (a * 10 + b) / 10 % 10 = a by omega, show (a * 10 + b) % 10 = b by omega]

theorem yearDirective_ascii {a b c d : Char} {n : Nat} (h : yearDirective U a b c d = some n)
    (hascii : IsAscii [a, b, c, d]) : [a, b, c, d] = numeral 4 n := by
  unfold yearDirective at h
  simp only [Option.bind_eq_bind, Option.bind_eq_some_iff, Option.some.injEq] at h
  obtain ⟨p, hp, q, hq, r, hr, s, hs, rfl⟩ := h
  rw [U.ascii a (hascii a (by simp))] at hp
  rw [U.ascii b (hascii b (by simp))] at hq
  rw [U.ascii c (hascii c (by simp))] at hr
  rw [U.ascii d (hascii d (by simp))] at hs
  obtain ⟨rfl, hp⟩ := readDigit_eq hp
  obtain ⟨rfl, hq⟩ := readDigit_eq hq
  obtain ⟨rfl, hr⟩ := readDigit_eq hr
  obtain ⟨rfl, hs⟩ := readDigit_eq hs
  rw [numeral_four, show (((p * 10 + q) * 10 + r) * 10 + s) / 10 / 10 / 10 % 10 = p by omega,
    show (((p * 10 + q) * 10 + r) * 10 + s) / 10 / 10 % 10 = q by omega,
    show (((p * 10 + q) * 10 + r) * 10 + s) / 10 % 10 = r by omega,
    show (((p * 10 + q) * 10 + r) * 10 + s) % 10 = s by omega]

theorem yearDirective_numeral {n : Nat} (hn : n < 10000) :
    yearDirective U (digit (n / 10 / 10 / 10 % 10)) (digit (n / 10 / 10 % 10)) (digit (n / 10 % 10)) (digit (n % 10)) =
      some n := by
  unfold yearDirective
  rw [value_digit (Nat.mod_lt _ (by decide)), value_digit (Nat.mod_lt _ (by decide)),
    value_digit (Nat.mod_lt _ (by decide)), value_digit (Nat.mod_lt _ (by decide))]
  exact congrArg some (by omega)

/-- The text of a whole second is read back. -/
theorem strptime_utcText {t : DateTime} (h : t.microsecond = 0) : strptime U t.utcText = some t := by
  obtain ⟨-, hyear, hm, hmonth, hd, hday⟩ := t.date_ok
  obtain ⟨hhour, hminute, hsecond, -⟩ := t.time_ok
  have hday' := hday.trans (daysInMonth_le t.year t.month)
  have months : ∀ n ≤ 12, 1 ≤ n → monthPattern true (digit (n / 10 % 10)) (digit (n % 10)) = true := by decide
  have days : ∀ n ≤ 31, 1 ≤ n → dayPattern true (digit (n / 10 % 10)) (digit (n % 10)) = true := by decide
  have hours : ∀ n < 24, hourPattern true (digit (n / 10 % 10)) (digit (n % 10)) = true := by decide
  have minutes : ∀ n < 60, minutePattern true (digit (n / 10 % 10)) (digit (n % 10)) = true := by decide
  have seconds : ∀ n < 60, secondPattern true (digit (n / 10 % 10)) (digit (n % 10)) = true := by decide
  simp only [utcText, numeral_four, numeral_two, List.cons_append, List.nil_append, strptime]
  rw [yearDirective_numeral (by omega), directive_numeral (by omega) (months _ hmonth hm),
    directive_numeral (by omega) (days _ hday' hd), directive_numeral (by omega) (hours _ hhour),
    directive_numeral (by omega) (minutes _ hminute), directive_numeral (by omega) (seconds _ hsecond)]
  exact new_eq_some.mpr ⟨rfl, rfl, rfl, rfl, rfl, rfl, h⟩

theorem strptime_ascii {cs : List Char} {t : DateTime} (hascii : IsAscii cs) (h : strptime U cs = some t) :
    cs = t.utcText ∧ t.microsecond = 0 := by
  unfold strptime at h
  split at h
  · simp only [Option.bind_eq_bind, Option.bind_eq_some_iff] at h
    obtain ⟨year, hyear, month, hmonth, day, hday, hour, hhour, minute, hminute, second, hsecond, hnew⟩ := h
    obtain ⟨rfl, rfl, rfl, rfl, rfl, rfl, hus⟩ := new_eq_some.mp hnew
    refine ⟨?_, hus⟩
    simp only [utcText, ← yearDirective_ascii hyear (fun c hc => hascii c (by simp at hc ⊢; tauto)),
      ← directive_ascii hmonth (hascii _ (by simp)) (hascii _ (by simp)),
      ← directive_ascii hday (hascii _ (by simp)) (hascii _ (by simp)),
      ← directive_ascii hhour (hascii _ (by simp)) (hascii _ (by simp)),
      ← directive_ascii hminute (hascii _ (by simp)) (hascii _ (by simp)),
      ← directive_ascii hsecond (hascii _ (by simp)) (hascii _ (by simp)), List.cons_append, List.nil_append]
  · cases h

theorem matchesUtc_utcText (t : DateTime) : matchesUtc U t.utcText = true := by
  have hdigit (n : Nat) : (U.value (digit (n % 10))).isSome = true := by
    rw [value_digit (Nat.mod_lt _ (by decide))]
    rfl
  simp only [utcText, numeral_four, numeral_two, List.cons_append, List.nil_append, matchesUtc, utcShape,
    List.zip_cons_cons, List.zip_nil_right, List.all_cons, List.all_nil, if_pos, hdigit]
  rfl

theorem isAscii_utcText (t : DateTime) : IsAscii t.utcText := by
  have hdigit (n : Nat) : (digit (n % 10)).toNat < 128 := by
    have key : ∀ d < 10, (digit d).toNat < 128 := by decide
    exact key _ (Nat.mod_lt _ (by decide))
  intro c hc
  simp only [utcText, numeral_four, numeral_two, List.cons_append, List.nil_append, List.mem_cons, List.not_mem_nil,
    or_false] at hc
  rcases hc with rfl | rfl | rfl | rfl | rfl | rfl | rfl | rfl | rfl | rfl | rfl | rfl | rfl | rfl | rfl | rfl | rfl |
    rfl | rfl | rfl <;> first | exact hdigit _ | decide

/-- **An ASCII text is accepted exactly when it is the text of a whole UTC second.** -/
theorem parseTimestamp_ascii {value : String} {t : DateTime} (hascii : IsAscii value.toList) :
    parseTimestamp U value = some t ↔ value.toList = t.utcText ∧ t.microsecond = 0 := by
  unfold parseTimestamp
  constructor
  · intro h
    split_ifs at h
    exact strptime_ascii hascii h
  · rintro ⟨htext, hus⟩
    rw [htext, if_pos (matchesUtc_utcText t)]
    exact strptime_utcText hus

end

end DateTime
end ThreatFusion.Py
