import Mathlib.Data.Int.Log
import Mathlib.Data.Rat.Floor
/-
# Python floats at the boundaries

A finite double is a rational. Where the code computes with floats the model computes with
`roundDouble` of the exact result (IEEE 754 binary64, nearest, ties to even).

| here | there |
| --- | --- |
| `PyFloat`     | a `float`: a finite double with the text `repr` gives it, or NaN and the infinities |
| `floatOfInt`  | `float(n)` of an `int`; `none` is `OverflowError` |
-/
namespace ThreatFusion.Py

inductive PyFloat where
  | finite (value : ℚ) (repr : String)
  | nonFinite (repr : String)
deriving DecidableEq

namespace PyFloat

/-- What `json.dumps` and `repr` write. -/
def repr : PyFloat → String
  | .finite _ r => r
  | .nonFinite r => r

/-- Where a float stands in the order of floats: NaN nowhere. -/
def position : PyFloat → Option (ℤ × ℚ)
  | .finite v _ => some (0, v)
  | .nonFinite r => if r = "inf" then some (1, 0) else if r = "-inf" then some (-1, 0) else none

/-- `x == y`: by value, and NaN is not itself. -/
def eq (x y : PyFloat) : Bool := x.position.isSome && x.position == y.position

/-- `x < y`. -/
def lt (x y : PyFloat) : Bool :=
  match x.position, y.position with
  | some (i, a), some (j, b) => decide (i < j ∨ i = j ∧ a < b)
  | _, _ => false

/-- `x <= y`. -/
def le (x y : PyFloat) : Bool :=
  match x.position, y.position with
  | some (i, a), some (j, b) => decide (i < j ∨ i = j ∧ a ≤ b)
  | _, _ => false

/-- `math.isfinite(x) and lo <= x <= hi`. -/
def within (lo hi : ℚ) : PyFloat → Bool
  | .finite v _ => decide (lo ≤ v ∧ v ≤ hi)
  | .nonFinite _ => false

end PyFloat

def roundHalfEven (q : ℚ) : ℤ :=
  let f := ⌊q⌋
  if q - f < 1 / 2 ∨ q - f = 1 / 2 ∧ f % 2 = 0 then f else f + 1

/-- The double nearest to `q`, for `q` in range (53 significant bits, fewer below `2 ^ -1022`). -/
def roundDouble (q : ℚ) : ℚ :=
  if q = 0 then 0
  else
    let unit : ℚ := 2 ^ (max (Int.log 2 |q|) (-1022) - 52)
    roundHalfEven (q / unit) * unit

/-- `round(x, 6)`. -/
def roundSix (round : ℚ → ℚ) (x : ℚ) : ℚ := round (roundHalfEven (x * 1000000) / 1000000)

def floatOfInt (n : ℤ) : Option ℚ :=
  let m := roundDouble n
  if |m| < 2 ^ 1024 then some m else none

end ThreatFusion.Py
