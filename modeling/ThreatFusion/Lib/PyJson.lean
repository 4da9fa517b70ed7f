import ThreatFusion.Lib.Grouping
import ThreatFusion.Lib.JsonParse
import Mathlib.Data.List.Lex
import Mathlib.Data.Rat.Defs
/-
# JSON values of a Python program

A value as `json.loads` gives it and `json.dumps` takes it: a string is a list of code points, so that a surrogate alone
is one, a dict is a list of pairs, and `F` is the type of floats.

| here | there |
| --- | --- |
| `loads` | `json.loads(text)`; `malformed` is `JSONDecodeError`, which is caught where the other faults are not |
| `dumps` | `json.dumps(v, sort_keys=True, separators=(",", ":"), ensure_ascii=False)` |
| `Value.writes` | with `allow_nan=False` and `.encode("utf-8")` after it, nothing is raised |

The reader stops at the first fault in the order of the text: the digits of an integer are counted when it has been
read, the depth when a bracket opens. Fuel counts calls, and `loads_fuel` says that it does not run out.
-/
namespace PyJson
open JsonText (points scanString scanKey scanScalar skipBlanks unicodeEscape joinComma MAX_INT_DIGITS)

/-- Code points. -/
abbrev Str := List Nat

inductive Value (F : Type) where
  | null
  | bool (b : Bool)
  | int (n : Int)
  | float (x : F)
  | str (s : Str)
  | arr (xs : List (Value F))
  | obj (pairs : List (Str × Value F))

/-- What a program has from its interpreter. -/
structure Python (F : Type) where
  /-- The exact value of a finite float. -/
  value : F → Option ℚ
  repr : F → List Char
  /-- `float(text)`; `NaN` and the infinities are read in this way too. -/
  parse : List Char → F
  /-- Open brackets that fit under the recursion limit. -/
  readDepth : Nat
  writeDepth : Nat
  repr_text : ∀ x, (value x).isSome → JsonText.FloatText (repr x)
  parse_repr : ∀ x, (value x).isSome → parse (repr x) = x

variable {F : Type} (py : Python F)

def get {α : Type} (pairs : List (Str × α)) (key : String) : Option α :=
  (pairs.find? fun p => decide (p.1 = points key)).map Prod.snd

/-- `{key: d[key] for key in keys if key in d}`. -/
def select {α : Type} (keys : List String) (pairs : List (Str × α)) : List (Str × α) :=
  keys.filterMap fun key => (get pairs key).map fun v => (points key, v)

/-- What a number is worth; a bool counts as one. -/
def Value.number : Value F → Option ℚ
  | .bool b => some (if b then 1 else 0)
  | .int n => some n
  | .float x => py.value x
  | _ => none

/-! ## The writer -/

/-- As a string stands in the text; only control characters, quote and backslash are escaped. -/
def escape (c : Char) : List Char :=
  if c = '"' then ['\\', '"']
  else if c = '\\' then ['\\', '\\']
  else if c = '\n' then ['\\', 'n']
  else if c = '\r' then ['\\', 'r']
  else if c = '\t' then ['\\', 't']
  else if c.toNat = 12 then ['\\', 'f']
  else if c.toNat = 8 then ['\\', 'b']
  else if c.toNat < 32 then unicodeEscape c.toNat
  else [c]

def quote (s : Str) : List Char := '"' :: ((s.map Char.ofNat).flatMap escape ++ ['"'])

mutual
def render : Value F → List Char
  | .null => "null".toList
  | .bool b => (if b then "true" else "false").toList
  | .int n => (toString n).toList
  | .float x => py.repr x
  | .str s => quote s
  | .arr xs => '[' :: (joinComma (renderItems xs) ++ [']'])
  | .obj pairs => '\x7b' :: (joinComma (renderPairs pairs) ++ ['\x7d'])

def renderItems : List (Value F) → List (List Char)
  | [] => []
  | x :: xs => render x :: renderItems xs

def renderPairs : List (Str × Value F) → List (List Char)
  | [] => []
  | (k, v) :: rest => (quote k ++ ':' :: render v) :: renderPairs rest
end

attribute [local grind] render renderItems renderPairs

/-- The order of keys: by code points. -/
def keyLe {α : Type} (a b : Str × α) : Prop := a.1 ≤ b.1

instance {α : Type} : DecidableRel (keyLe (α := α)) := fun a b => inferInstanceAs (Decidable (a.1 ≤ b.1))

mutual
def sortKeys : Value F → Value F
  | .arr xs => .arr (sortItems xs)
  | .obj pairs => .obj ((sortPairs pairs).insertionSort keyLe)
  | v => v

def sortItems : List (Value F) → List (Value F)
  | [] => []
  | x :: xs => sortKeys x :: sortItems xs

def sortPairs : List (Str × Value F) → List (Str × Value F)
  | [] => []
  | (k, v) :: rest => (k, sortKeys v) :: sortPairs rest
end

attribute [local grind] sortKeys sortItems sortPairs

def dumps (v : Value F) : List Char := render py (sortKeys v)

/-- No surrogate: the string has an encoding. -/
def isText (s : Str) : Bool := s.all fun u => decide u.isValidChar

def isShort (n : Int) : Bool := (Nat.toDigits 10 n.natAbs).length ≤ MAX_INT_DIGITS

mutual
/-- Can be written, with so many brackets open at once. -/
def Value.writes : Nat → Value F → Bool
  | _, .null => true
  | _, .bool _ => true
  | _, .int n => isShort n
  | _, .float x => (py.value x).isSome
  | _, .str s => isText s
  | 0, .arr _ => false
  | d + 1, .arr xs => writesItems d xs
  | 0, .obj _ => false
  | d + 1, .obj pairs => writesPairs d pairs

def writesItems : Nat → List (Value F) → Bool
  | _, [] => true
  | d, x :: xs => x.writes d && writesItems d xs

def writesPairs : Nat → List (Str × Value F) → Bool
  | _, [] => true
  | d, (k, v) :: rest => isText k && v.writes d && writesPairs d rest
end

attribute [local grind] Value.writes writesItems writesPairs

/-! ## The reader -/

inductive Fault where
  | malformed
  | longNumber
  | tooDeep
  | outOfFuel
deriving DecidableEq

def readScalar (text : List Char) : Except Fault (Value F × List Char) :=
  match scanScalar text with
  | some (.null, rest) => .ok (.null, rest)
  | some (.bool b, rest) => .ok (.bool b, rest)
  | some (.int n, rest) => if isShort n then .ok (.int n, rest) else .error .longNumber
  | some (.float digits, rest) => .ok (.float (py.parse digits.toList), rest)
  | _ => .error .malformed

mutual
/-- A value off the front of the text, inside `d` more brackets at most. -/
def readValue : Nat → Nat → List Char → Except Fault (Value F × List Char)
  | 0, _, _ => .error .outOfFuel
  | n + 1, d, text => match text with
    | '"' :: rest => match scanString rest with
      | none => .error .malformed
      | some (s, rest) => .ok (.str s, rest)
    | '[' :: rest => match d with
      | 0 => .error .tooDeep
      | d + 1 => match skipBlanks rest with
        | ']' :: rest => .ok (.arr [], rest)
        | rest => (readItems n d rest).map fun p => (.arr p.1, p.2)
    | '\x7b' :: rest => match d with
      | 0 => .error .tooDeep
      | d + 1 => match skipBlanks rest with
        | '\x7d' :: rest => .ok (.obj [], rest)
        | rest => (readPairs n d rest).map fun p => (.obj (Grouping.dictOf p.1), p.2)
    | text => readScalar py text

/-- The values of an array, up to its closing bracket. -/
def readItems : Nat → Nat → List Char → Except Fault (List (Value F) × List Char)
  | 0, _, _ => .error .outOfFuel
  | n + 1, d, text => match readValue n d text with
    | .error fault => .error fault
    | .ok (v, rest) => match skipBlanks rest with
      | ']' :: rest => .ok ([v], rest)
      | ',' :: rest => (readItems n d (skipBlanks rest)).map fun p => (v :: p.1, p.2)
      | _ => .error .malformed

/-- The pairs of an object, up to its closing brace. -/
def readPairs : Nat → Nat → List Char → Except Fault (List (Str × Value F) × List Char)
  | 0, _, _ => .error .outOfFuel
  | n + 1, d, text => match scanKey text with
    | none => .error .malformed
    | some (key, rest) => match readValue n d rest with
      | .error fault => .error fault
      | .ok (v, rest) => match skipBlanks rest with
        | '\x7d' :: rest => .ok ([(key, v)], rest)
        | ',' :: rest => (readPairs n d (skipBlanks rest)).map fun p => ((key, v) :: p.1, p.2)
        | _ => .error .malformed
end

attribute [local grind] readValue readItems readPairs

def loads (text : List Char) : Except Fault (Value F) :=
  match readValue py (2 * text.length + 2) py.readDepth (skipBlanks text) with
  | .error fault => .error fault
  | .ok (v, rest) => if skipBlanks rest = [] then .ok v else .error .malformed

/-! ## Values by their parts -/

/-- A property of scalars that arrays and objects have from their parts. -/
theorem Value.induct {P : Value F → Prop} (hnull : P .null) (hbool : ∀ b, P (.bool b)) (hint : ∀ n, P (.int n))
    (hfloat : ∀ x, P (.float x)) (hstr : ∀ s, P (.str s)) (harr : ∀ xs, (∀ x ∈ xs, P x) → P (.arr xs))
    (hobj : ∀ pairs, (∀ p ∈ pairs, P p.2) → P (.obj pairs)) (v : Value F) : P v := by
  refine @Value.rec F P (fun xs => ∀ x ∈ xs, P x) (fun pairs => ∀ p ∈ pairs, P p.2) (fun p => P p.2) hnull hbool hint
    hfloat hstr harr hobj ?_ ?_ ?_ ?_ ?_ v
  · exact fun _ h => absurd h List.not_mem_nil
  · exact fun x xs hx hxs => List.forall_mem_cons.mpr ⟨hx, hxs⟩
  · exact fun _ h => absurd h List.not_mem_nil
  · exact fun p pairs hp hpairs => List.forall_mem_cons.mpr ⟨hp, hpairs⟩
  · exact fun _ _ hv => hv

@[simp] theorem renderItems_eq_map (xs : List (Value F)) : renderItems py xs = xs.map (render py) := by
  induction xs with
  | nil => rfl
  | cons x xs ih => rw [renderItems, ih, List.map_cons]

@[simp] theorem renderPairs_eq_map (pairs : List (Str × Value F)) :
    renderPairs py pairs = pairs.map fun p => quote p.1 ++ ':' :: render py p.2 := by
  induction pairs with
  | nil => rfl
  | cons p pairs ih =>
    obtain ⟨k, v⟩ := p
    rw [renderPairs, ih, List.map_cons]

@[simp] theorem sortItems_eq_map (xs : List (Value F)) : sortItems xs = xs.map sortKeys := by
  induction xs with
  | nil => rfl
  | cons x xs ih => rw [sortItems, ih, List.map_cons]

@[simp] theorem sortPairs_eq_map (pairs : List (Str × Value F)) :
    sortPairs pairs = pairs.map fun p => (p.1, sortKeys p.2) := by
  induction pairs with
  | nil => rfl
  | cons p pairs ih =>
    obtain ⟨k, v⟩ := p
    rw [sortPairs, ih, List.map_cons]

@[simp] theorem writesItems_eq_all (d : Nat) (xs : List (Value F)) : writesItems py d xs = xs.all (Value.writes py d) := by
  induction xs with
  | nil => rfl
  | cons x xs ih => rw [writesItems, ih, List.all_cons]

@[simp] theorem writesPairs_eq_all (d : Nat) (pairs : List (Str × Value F)) :
    writesPairs py d pairs = pairs.all fun p => isText p.1 && p.2.writes py d := by
  induction pairs with
  | nil => rfl
  | cons p pairs ih =>
    obtain ⟨k, v⟩ := p
    rw [writesPairs, ih, List.all_cons]

end PyJson
