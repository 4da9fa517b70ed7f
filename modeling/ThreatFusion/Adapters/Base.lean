import ThreatFusion.Py.Ascii
import ThreatFusion.Py.Double
/-
# What every source adapter reads of a row

`datasets/adapters/base.py`.

| here | there |
| --- | --- |
| `requiredValue`, `requiredAlias`, `requiredString` | `required_value`, `required_alias`, `required_string` (:20-46) |
| `requiredInt`, `requiredFloat`, `requiredIp`       | `required_int`, `required_float`, `required_ip` (:49-95) |
| `parseRequiredTimestamp`                           | `parse_required_timestamp` (:98-121) |
| `meanSize`, `ratePerSecond`, `endTimestamp`        | `mean_size`, `rate_per_second`, `end_timestamp` (:129-142) |
| `normalizeProtocol`                                | `normalize_protocol` (:145-155) |

A row may hold any object. `Values` says what Python's built-ins and `pd.isna` do with one; each of them may
raise, for objects of some classes. `Library` is what is called of the standard library and of pandas on texts
and numbers.
-/
namespace ThreatFusion.Adapters
open Py

/-- The exceptions that are not made by the adapters. -/
inductive PyException where
  | typeError | valueError | overflowError | zeroDivisionError | osError | other
deriving DecidableEq

/-- How an adapter refuses a row, or what it lets through. An error of a schema is a location and a type. -/
inductive AdaptError where
  | sourceRowValidationError (source : String) (fields : List String) (reason : String)
  | validationError (errors : List (List String × String))
  | raised (e : PyException)
deriving DecidableEq

/-! ## Time -/

/-- Microseconds from 0001-01-01 to the last one of 9999-12-31. -/
def MAX_MICROS : ℤ := 3652059 * 86400000000 - 1

/-- A wall clock that `datetime` can hold. -/
abbrev Wall := { t : ℤ // 0 ≤ t ∧ t ≤ MAX_MICROS }

def wall? (t : ℤ) : Option Wall := if h : 0 ≤ t ∧ t ≤ MAX_MICROS then some ⟨t, h⟩ else none

/-- A `datetime`: its wall clock, and the offset of its `tzinfo` in microseconds. -/
structure Stamp where
  wall : Wall
  utcoffset : Option ℤ
deriving DecidableEq

structure Library where
  /-- `text.isdigit()`. -/
  isdigit : String → Bool
  /-- `float(text)`; `none` is `ValueError`. -/
  parseFloat : String → Option Double
  /-- `datetime.fromtimestamp(x, tz=UTC)`. -/
  fromtimestamp : Double → Except PyException Wall
  /-- `datetime.fromisoformat(text)`; `none` is `ValueError`. -/
  fromisoformat : String → Option Stamp
  /-- `pd.to_datetime(text, errors="coerce", utc=True, dayfirst=True)`; `none` is `NaT`. -/
  toDatetime : String → Option Wall
  isoformat : Stamp → String
  /-- `ip_address(text)` takes the text. -/
  isIpAddress : String → Bool

structure Values (ν : Type) where
  isNone : ν → Bool
  /-- The text of a `str`. -/
  text : ν → Option String
  /-- The value of a `datetime`. -/
  stamp : ν → Option Stamp
  /-- `str(value)`. -/
  str : ν → Except PyException String
  /-- The truth value of `pd.isna(value)`. -/
  isna : ν → Except PyException Bool
  /-- `bool(value)`. -/
  truth : ν → Except PyException Bool
  /-- `value in {...}`, for a set of texts: it takes the hash of the value. -/
  isIn : List String → ν → Except PyException Bool

/-- Texts; a row has none where it has `None`. -/
def texts : Values String where
  isNone _ := false
  text := some
  stamp _ := none
  str := .ok
  isna _ := .ok false
  truth text := .ok (text ≠ "")
  isIn set text := .ok (set.contains text)

/-- What a call of Python gives to its adapter. -/
def calling {α : Type} : Except PyException α → Except AdaptError α
  | .ok a => .ok a
  | .error e => .error (.raised e)

abbrev Row (ν : Type) := String → Option ν

section
variable {ν : Type} (V : Values ν) (L : Library)

/-! ## Fields -/

/-- `row.get(field)`. -/
def get (row : Row ν) (field : String) : Option ν := (row field).filter fun value => !V.isNone value

def requiredValue (row : Row ν) (source field : String) : Except AdaptError ν :=
  match get V row field with
  | none => .error (.sourceRowValidationError source [field] "required value is missing")
  | some value => do
    if ← calling (V.isna value) then .error (.sourceRowValidationError source [field] "required value is missing")
    else if (V.text value).any isBlank then
      .error (.sourceRowValidationError source [field] "required value is blank")
    else .ok value

/-- The texts of an alias that count as no value. `lower` is that of ASCII here and below: no other character is
lowered to one of these texts. -/
def isPlaceholder (text : String) : Bool := ["", "-", "none", "nan"].contains (lower (strip text))

def aliasValue (row : Row ν) (source : String) (all : List String) : List String → Except AdaptError (String × ν)
  | [] => .error (.sourceRowValidationError source all "no valid alias value is present")
  | field :: fields => match get V row field with
    | none => aliasValue row source all fields
    | some value => do
      if ← calling (V.isna value) then aliasValue row source all fields
      else if (V.text value).any isPlaceholder then aliasValue row source all fields
      else .ok (field, value)

def requiredAlias (row : Row ν) (source : String) (fields : List String) : Except AdaptError (String × ν) :=
  aliasValue V row source fields fields

/-- `str(value).strip()`. -/
def stripped (value : ν) : Except AdaptError String := do
  let text ← calling (V.str value)
  .ok (strip text)

def requiredString (row : Row ν) (source field : String) : Except AdaptError String := do
  let value ← requiredValue V row source field
  stripped V value

/-! ## Timestamps -/

/-- `text.replace(".", "", 1)`. -/
def dropPoint (text : String) : String := String.ofList (text.toList.eraseP (· == '.'))

/-- `dt.astimezone(UTC)`, or `dt.replace(tzinfo=UTC)` when it has no `tzinfo`. -/
def toUtc (stamp : Stamp) : Except PyException Stamp :=
  match stamp.utcoffset with
  | none => .ok ⟨stamp.wall, some 0⟩
  | some offset => match wall? (stamp.wall.1 - offset) with
    | some wall => .ok ⟨wall, some 0⟩
    | none => .error .overflowError

/-- The first `try`: `none` when it goes on after it. -/
def parseEpoch (text : String) : Except PyException (Option Stamp) :=
  if L.isdigit (dropPoint text) then
    match L.parseFloat text with
    | none => .ok none
    | some x => match L.fromtimestamp x with
      | .ok wall => .ok (some ⟨wall, some 0⟩)
      | .error .overflowError => .ok none
      | .error .valueError => .ok none
      | .error e => .error e
  else .ok none

def parseTimestampText (text source field : String) : Except AdaptError Stamp := do
  match ← calling (parseEpoch L text) with
  | some stamp => .ok stamp
  | none => match L.fromisoformat text with
    | some stamp => calling (toUtc stamp)
    | none => match L.toDatetime text with
      | some wall => .ok ⟨wall, some 0⟩
      | none => .error (.sourceRowValidationError source [field] "must be a parseable timestamp")

/-- `value` is `None` when there is none. -/
def parseRequiredTimestamp (value : Option ν) (source field : String) : Except AdaptError Stamp :=
  match value with
  | none => .error (.sourceRowValidationError source [field] "required timestamp is missing")
  | some value => do
    if ← calling (V.isna value) then
      .error (.sourceRowValidationError source [field] "required timestamp is missing")
    else if (V.text value).any isBlank then
      .error (.sourceRowValidationError source [field] "required timestamp is missing")
    else match V.stamp value with
      | some stamp => .ok ⟨stamp.wall, some (stamp.utcoffset.getD 0)⟩
      | none => do
        let text ← stripped V value
        parseTimestampText L text source field

/-! ## Numbers -/

/-- `float(str(value).strip())`. -/
def toFloat (value : ν) : Except PyException Double := do
  let text ← V.str value
  match L.parseFloat (strip text) with
  | some x => .ok x
  | none => .error .valueError

/-- `int(x)` of a finite float. -/
def truncate (q : ℚ) : ℤ := if 0 ≤ q then ⌊q⌋ else ⌈q⌉

def boundsReason : Option Nat → String
  | none => "must be >= 0"
  | some maximum => "must be between 0 and " ++ toString maximum

/-- The end of `required_int`, from `int(number)` on. -/
def toInt (number : Double) (source field : String) (maximum : Option Nat) : Except AdaptError Nat :=
  match number.toRat? with
  | none => .error (.sourceRowValidationError source [field] "must be an integer")
  | some q =>
    let parsed := truncate q
    if q ≠ parsed then .error (.sourceRowValidationError source [field] "must be a finite integer")
    else if parsed < 0 ∨ maximum.any fun m : Nat => decide ((m : ℤ) < parsed) then
      .error (.sourceRowValidationError source [field] (boundsReason maximum))
    else .ok parsed.toNat

def requiredInt (row : Row ν) (source field : String) (maximum : Option Nat) : Except AdaptError Nat := do
  let value ← requiredValue V row source field
  match toFloat V L value with
  | .ok number => toInt number source field maximum
  | .error .typeError => .error (.sourceRowValidationError source [field] "must be an integer")
  | .error .valueError => .error (.sourceRowValidationError source [field] "must be an integer")
  | .error .overflowError => .error (.sourceRowValidationError source [field] "must be an integer")
  | .error e => .error (.raised e)

def requiredFloat (row : Row ν) (source field : String) : Except AdaptError { q : ℚ // |q| ≤ MAX_DOUBLE ∧ 0 ≤ q } := do
  let value ← requiredValue V row source field
  match toFloat V L value with
  | .ok (.finite q) =>
    if h : 0 ≤ q.1 then .ok ⟨q.1, q.2, h⟩
    else .error (.sourceRowValidationError source [field] "must be finite and >= 0.0")
  | .ok _ => .error (.sourceRowValidationError source [field] "must be finite and >= 0.0")
  | .error .typeError => .error (.sourceRowValidationError source [field] "must be numeric")
  | .error .valueError => .error (.sourceRowValidationError source [field] "must be numeric")
  | .error e => .error (.raised e)

def requiredIp (row : Row ν) (source field : String) : Except AdaptError String := do
  let value ← requiredString V row source field
  if L.isIpAddress value then .ok value
  else .error (.sourceRowValidationError source [field] "must be a valid IP address")

end

/-- Integers divide to the nearest double. -/
def meanSize (byteCount packetCount : Nat) : Except PyException Double :=
  if packetCount = 0 then .ok (.ofRat 0)
  else match Double.ofRat (byteCount / packetCount) with
    | .finite q => .ok (.finite q)
    | _ => .error .overflowError

def ratePerSecond (total : Nat) : Double → Except PyException Double
  | .finite durationMs =>
    if durationMs.1 ≤ 0 then .ok (.ofRat 0)
    else match Double.ofInt total with
      | none => .error .overflowError
      | some x =>
        let seconds := roundDouble (durationMs.1 / 1000)
        if seconds = 0 then .error .zeroDivisionError else .ok (.ofRat (x.toRat?.getD 0 / seconds))
  | .inf negative =>
    if negative then .ok (.ofRat 0)
    else match Double.ofInt total with
      | none => .error .overflowError
      | some _ => .ok (.ofRat 0)
  | .nan => match Double.ofInt total with
    | none => .error .overflowError
    | some _ => .ok .nan

/-- `timedelta(milliseconds=q)` in microseconds: the whole part is exact, the rest is a float. -/
def timedeltaMillis (q : ℚ) : Except PyException ℤ :=
  let micros := ⌊q⌋ * 1000 + roundHalfEven (roundDouble (1000 * (q - ⌊q⌋)))
  if 999999999 < micros / 86400000000 then .error .overflowError else .ok micros

def endTimestamp (start : Stamp) : Double → Except PyException Stamp
  | .finite durationMs => do
    let delta ← timedeltaMillis durationMs.1
    match wall? (start.wall.1 + delta) with
    | some wall => .ok ⟨wall, start.utcoffset⟩
    | none => .error .overflowError
  | .inf _ => .error .overflowError
  | .nan => .error .valueError

/-! ## Protocols -/

def normalizeProtocol (text : String) : String :=
  let text := lower (strip text)
  if text ∈ ["tcp", "6"] then "tcp"
  else if text ∈ ["udp", "17"] then "udp"
  else if text ∈ ["icmp", "1", "ipv6-icmp", "icmpv6", "58"] then "icmp"
  else "other"

end ThreatFusion.Adapters
