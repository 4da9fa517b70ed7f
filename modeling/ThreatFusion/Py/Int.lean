import ThreatFusion.Py.Text
import Mathlib.Data.Int.Notation
/-
# `int` of a text

| here | there |
| --- | --- |
| `parseInt`     | `int(text)`; `none` is `ValueError` |
| `decimalValue` | `unicodedata.decimal(c)`: the digits of category Nd |
| `isIntSpace`   | what `int` skips at both ends: `str.isspace()` without U+001C to U+001F |
| `hexNumber`    | `int(digits, 16)` of hexadecimal digits |
| `INT_MAX_STR_DIGITS` | `sys.get_int_max_str_digits()`, by default |
-/
namespace ThreatFusion.Py

/-- The zeros; the other nine digits follow each of them. -/
def DECIMAL_ZEROS : List Nat :=
  [0x30, 0x660, 0x6F0, 0x7C0, 0x966, 0x9E6, 0xA66, 0xAE6, 0xB66, 0xBE6, 0xC66, 0xCE6, 0xD66, 0xDE6, 0xE50, 0xED0,
   0xF20, 0x1040, 0x1090, 0x17E0, 0x1810, 0x1946, 0x19D0, 0x1A80, 0x1A90, 0x1B50, 0x1BB0, 0x1C40, 0x1C50, 0xA620,
   0xA8D0, 0xA900, 0xA9D0, 0xA9F0, 0xAA50, 0xABF0, 0xFF10, 0x104A0, 0x10D30, 0x11066, 0x110F0, 0x11136, 0x111D0,
   0x112F0, 0x11450, 0x114D0, 0x11650, 0x116C0, 0x11730, 0x118E0, 0x11950, 0x11C50, 0x11D50, 0x11DA0, 0x16A60,
   0x16AC0, 0x16B50, 0x1D7CE, 0x1D7D8, 0x1D7E2, 0x1D7EC, 0x1D7F6, 0x1E140, 0x1E2F0, 0x1E950, 0x1FBF0]

def decimalValue (c : Char) : Option Nat :=
  (DECIMAL_ZEROS.find? fun z => z ≤ c.toNat && c.toNat ≤ z + 9).map (c.toNat - ·)

def isIntSpace (c : Char) : Bool := isSpace c && !(28 ≤ c.toNat && c.toNat ≤ 31)

def INT_MAX_STR_DIGITS : Nat := 4300

/-- The values of digits with single underscores between them. -/
def digitValues (digit : Char → Option Nat) : List Char → Option (List Nat)
  | [] => none
  | [c] => (digit c).map ([·])
  | c :: '_' :: rest => match digit c, digitValues digit rest with
    | some d, some ds => some (d :: ds)
    | _, _ => none
  | c :: rest => match digit c, digitValues digit rest with
    | some d, some ds => some (d :: ds)
    | _, _ => none

/-- The digits of a number that is not longer than `int` takes. -/
def parseDigits (text : List Char) : Option Nat :=
  match digitValues decimalValue text with
  | none => none
  | some digits =>
    if INT_MAX_STR_DIGITS < digits.length then none else some (digits.foldl (fun value d => 10 * value + d) 0)

def parseSigned : List Char → Option ℤ
  | '-' :: digits => (parseDigits digits).map fun n => -n
  | '+' :: digits => (parseDigits digits).map fun n => n
  | digits => (parseDigits digits).map fun n => n

def parseInt (text : String) : Option ℤ :=
  parseSigned ((text.toList.dropWhile isIntSpace).reverse.dropWhile isIntSpace).reverse

def isHexDigit (c : Char) : Bool := c.isDigit || ('a' ≤ c && c ≤ 'f') || ('A' ≤ c && c ≤ 'F')

def hexDigitValue (c : Char) : Nat :=
  if c.isDigit then c.toNat - 48 else if 'a' ≤ c then c.toNat - 87 else c.toNat - 55

def hexNumber (digits : List Char) : Nat := digits.foldl (fun value c => 16 * value + hexDigitValue c) 0

example : parseInt " 1_0\n" = some 10 ∧ parseInt "-٣" = some (-3) ∧ parseInt "1__0" = none ∧
    hexNumber "2Ff".toList = 767 := by decide

end ThreatFusion.Py
