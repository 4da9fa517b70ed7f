import ThreatFusion.Lib.Json
import Mathlib.Data.List.TakeWhile
import Std.Data.String.ToInt
/-
# Reading JSON text

A reader of JSON text the way Python's `json` reads it: strings refuse control characters, a float is kept as the
text that was read, `NaN` and the infinities are floats, and an object keeps its pairs in order, repeated keys
included. A string is a list of code points, since `\ud800` alone is one.

* `scanString`, `scanNumber`, `scanConstant`: the scalars. `scanValue`: a value off the front of a text.
* `loads`: a whole text.
* `loads_render`: what a writer of canonical text wrote is read back.
-/
namespace JsonText

inductive Value where
  | null
  | bool (b : Bool)
  | int (n : Int)
  | float (text : String)
  | str (points : List Nat)
  | arr (xs : List Value)
  | obj (pairs : List (List Nat × Value))

/-- The code points of a string. -/
def points (s : String) : List Nat := s.toList.map Char.toNat

/-! ## Strings -/

def hexPoint (c : Char) : Option Nat :=
  if '0' ≤ c ∧ c ≤ '9' then some (c.toNat - 48)
  else if 'a' ≤ c ∧ c ≤ 'f' then some (c.toNat - 87)
  else if 'A' ≤ c ∧ c ≤ 'F' then some (c.toNat - 55)
  else none

/-- The four digits after `\u`. -/
def hexUnit (a b c d : Char) : Option Nat :=
  match hexPoint a, hexPoint b, hexPoint c, hexPoint d with
  | some a, some b, some c, some d => some (a * 4096 + b * 256 + c * 16 + d)
  | _, _, _, _ => none

/-- The character after a backslash, other than `u`. -/
def escapedUnit (e : Char) : Option Nat :=
  if e = '"' ∨ e = '\\' ∨ e = '/' then some e.toNat
  else if e = 'b' then some 8
  else if e = 'f' then some 12
  else if e = 'n' then some 10
  else if e = 'r' then some 13
  else if e = 't' then some 9
  else none

/-- The rest of a quoted string, up to its closing quote: every character and every escape is one unit. -/
def scanUnits : List Char → Option (List Nat × List Char)
  | [] => none
  | c :: rest =>
    if c = '"' then some ([], rest)
    else if c = '\\' then match rest with
      | 'u' :: h₁ :: h₂ :: h₃ :: h₄ :: rest => match hexUnit h₁ h₂ h₃ h₄ with
        | none => none
        | some u => (scanUnits rest).map fun p => (u :: p.1, p.2)
      | e :: rest => match escapedUnit e with
        | none => none
        | some u => (scanUnits rest).map fun p => (u :: p.1, p.2)
      | [] => none
    else if c.toNat < 32 then none
    else (scanUnits rest).map fun p => (c.toNat :: p.1, p.2)

def isHigh (u : Nat) : Bool := 0xD800 ≤ u && u < 0xDC00
def isLow (u : Nat) : Bool := 0xDC00 ≤ u && u < 0xE000

/-- A surrogate pair is one code point; a surrogate alone stays. -/
def joinPairs : List Nat → List Nat
  | [] => []
  | [u] => [u]
  | u :: v :: rest =>
    if isHigh u && isLow v then (0x10000 + (u - 0xD800) * 1024 + (v - 0xDC00)) :: joinPairs rest
    else u :: joinPairs (v :: rest)

def scanString (text : List Char) : Option (List Nat × List Char) :=
  (scanUnits text).map fun p => (joinPairs p.1, p.2)

/-! ## Numbers and constants -/

/-- `-` or nothing. -/
def scanSign : List Char → List Char × List Char
  | '-' :: rest => (['-'], rest)
  | text => ([], text)

/-- `0`, or digits that do not start with `0`. -/
def scanWhole (text : List Char) : List Char × List Char :=
  match text with
  | '0' :: rest => (['0'], rest)
  | text => (text.takeWhile Char.isDigit, text.dropWhile Char.isDigit)

/-- A point and at least one digit, or nothing. -/
def scanFraction (text : List Char) : List Char × List Char :=
  match text with
  | '.' :: rest =>
    if rest.takeWhile Char.isDigit = [] then ([], text)
    else ('.' :: rest.takeWhile Char.isDigit, rest.dropWhile Char.isDigit)
  | _ => ([], text)

/-- `+`, `-` or nothing. -/
def scanEitherSign : List Char → List Char × List Char
  | '+' :: rest => (['+'], rest)
  | '-' :: rest => (['-'], rest)
  | text => ([], text)

/-- `e` or `E`, a sign or none, and at least one digit; or nothing. -/
def scanExponent (text : List Char) : List Char × List Char :=
  match text with
  | e :: rest =>
    let sign := scanEitherSign rest
    if (e = 'e' ∨ e = 'E') ∧ sign.2.takeWhile Char.isDigit ≠ [] then
      (e :: sign.1 ++ sign.2.takeWhile Char.isDigit, sign.2.dropWhile Char.isDigit)
    else ([], text)
  | [] => ([], [])

def scanNumber (text : List Char) : Option (Value × List Char) :=
  let sign := scanSign text
  let whole := scanWhole sign.2
  let fraction := scanFraction whole.2
  let exponent := scanExponent fraction.2
  if whole.1 = [] then none
  else if fraction.1 = [] ∧ exponent.1 = [] then
    let n : Int := Nat.ofDigitChars 10 whole.1 0
    some (.int (if sign.1 = [] then n else -n), exponent.2)
  else some (.float (String.ofList (sign.1 ++ whole.1 ++ fraction.1 ++ exponent.1)), exponent.2)

/-- The words of the notation and what they stand for. -/
def constants : List (String × Value) :=
  [("null", .null), ("true", .bool true), ("false", .bool false),
    ("NaN", .float "NaN"), ("Infinity", .float "Infinity"), ("-Infinity", .float "-Infinity")]

def scanConstant (text : List Char) : Option (Value × List Char) :=
  match constants.find? fun p => p.1.toList.isPrefixOf text with
  | none => none
  | some p => some (p.2, text.drop p.1.length)

def scanScalar (text : List Char) : Option (Value × List Char) :=
  match scanConstant text with
  | some p => some p
  | none => scanNumber text

/-! ## Values -/

def isBlank (c : Char) : Bool := c == ' ' || c == '\t' || c == '\n' || c == '\r'

def skipBlanks (text : List Char) : List Char := text.dropWhile isBlank

/-- A key, its colon and the blanks around it. -/
def scanKey : List Char → Option (List Nat × List Char)
  | '"' :: rest => match scanString rest with
    | none => none
    | some (key, rest) => match skipBlanks rest with
      | ':' :: rest => some (key, skipBlanks rest)
      | _ => none
  | _ => none

mutual
/-- A value off the front of the text. The fuel counts calls: twice the length of the text is enough. -/
def scanValue : Nat → List Char → Option (Value × List Char)
  | 0, _ => none
  | n + 1, text => match text with
    | '"' :: rest => (scanString rest).map fun p => (.str p.1, p.2)
    | '[' :: rest => match skipBlanks rest with
      | ']' :: rest => some (.arr [], rest)
      | rest => (scanItems n rest).map fun p => (.arr p.1, p.2)
    | '\x7b' :: rest => match skipBlanks rest with
      | '\x7d' :: rest => some (.obj [], rest)
      | rest => (scanPairs n rest).map fun p => (.obj p.1, p.2)
    | text => scanScalar text

/-- The values of an array, up to its closing bracket. -/
def scanItems : Nat → List Char → Option (List Value × List Char)
  | 0, _ => none
  | n + 1, text => match scanValue n text with
    | none => none
    | some (v, rest) => match skipBlanks rest with
      | ']' :: rest => some ([v], rest)
      | ',' :: rest => (scanItems n (skipBlanks rest)).map fun p => (v :: p.1, p.2)
      | _ => none

/-- The pairs of an object, up to its closing brace. -/
def scanPairs : Nat → List Char → Option (List (List Nat × Value) × List Char)
  | 0, _ => none
  | n + 1, text => match scanKey text with
    | none => none
    | some (key, rest) => match scanValue n rest with
      | none => none
      | some (v, rest) => match skipBlanks rest with
        | '\x7d' :: rest => some ([(key, v)], rest)
        | ',' :: rest => (scanPairs n (skipBlanks rest)).map fun p => ((key, v) :: p.1, p.2)
        | _ => none
end

/-- The value of a whole text; `none` when it is no JSON text. -/
def loads (text : List Char) : Option Value :=
  match scanValue (2 * text.length + 1) (skipBlanks text) with
  | some (v, rest) => if skipBlanks rest = [] then some v else none
  | none => none

/-! ## Strings are read back -/

/-- A character as units: itself, or a surrogate pair. -/
def units (c : Char) : List Nat :=
  if c.toNat < 0x10000 then [c.toNat]
  else [0xD800 + (c.toNat - 0x10000) / 1024, 0xDC00 + (c.toNat - 0x10000) % 1024]

attribute [local grind] scanUnits joinPairs scanValue scanItems scanPairs

theorem hexPoint_hexDigit : ∀ {d : Nat}, d < 16 → hexPoint (hexDigit d) = some d := by
  have key : ∀ d < 16, hexPoint (hexDigit d) = some d := by decide
  exact fun {d} => key d

/-- The text of one `\u` escape is one unit. -/
theorem scanUnits_unicodeEscape {n : Nat} (hn : n < 0x10000) (rest : List Char) :
    scanUnits (unicodeEscape n ++ rest) = (scanUnits rest).map fun p => (n :: p.1, p.2) := by
  have hdigit (k : Nat) : hexPoint (hexDigit (k % 16)) = some (k % 16) := hexPoint_hexDigit (Nat.mod_lt _ (by decide))
  have hunit : hexUnit (hexDigit (n / 4096 % 16)) (hexDigit (n / 256 % 16)) (hexDigit (n / 16 % 16))
      (hexDigit (n % 16)) = some n := by
    rw [hexUnit, hdigit, hdigit, hdigit, hdigit]
    exact congrArg some (by omega)
  simp only [unicodeEscape, List.cons_append, List.nil_append]
  rw [scanUnits, if_neg (by decide), if_pos rfl]
  simp only [hunit]

/-- What the writer makes of a character, case by case. -/
theorem escape_cases (c : Char) :
    (isPlain c = true ∧ escape c = [c]) ∨
    (c.toNat < 0x10000 ∧ ∃ e, escape c = ['\\', e] ∧ e ≠ 'u' ∧ escapedUnit e = some c.toNat) ∨
    (c.toNat < 0x10000 ∧ escape c = unicodeEscape c.toNat) ∨
    (0x10000 ≤ c.toNat ∧ escape c = unicodeEscape (0xD800 + (c.toNat - 0x10000) / 1024) ++
      unicodeEscape (0xDC00 + (c.toNat - 0x10000) % 1024)) := by
  unfold escape
  by_cases hplain : isPlain c = true
  · exact .inl ⟨hplain, if_pos hplain⟩
  rw [if_neg hplain]
  right
  have short {d e : Char} (hd : c = d) (hlt : d.toNat < 0x10000) (he : e ≠ 'u') (hunit : escapedUnit e = some d.toNat) :
      c.toNat < 0x10000 ∧ ∃ e', ['\\', e] = ['\\', e'] ∧ e' ≠ 'u' ∧ escapedUnit e' = some c.toNat :=
    hd ▸ ⟨hlt, e, rfl, he, hunit⟩
  by_cases hq : c = '"'
  · exact .inl (if_pos hq ▸ short hq (by decide) (by decide) rfl)
  by_cases hb : c = '\\'
  · exact .inl (if_neg hq ▸ if_pos hb ▸ short hb (by decide) (by decide) rfl)
  rw [if_neg hq, if_neg hb]
  by_cases hn : c = '\n'
  · exact .inl (if_pos hn ▸ short hn (by decide) (by decide) rfl)
  by_cases hr : c = '\r'
  · exact .inl (if_neg hn ▸ if_pos hr ▸ short hr (by decide) (by decide) rfl)
  rw [if_neg hn, if_neg hr]
  by_cases ht : c = '\t'
  · exact .inl (if_pos ht ▸ short ht (by decide) (by decide) rfl)
  rw [if_neg ht]
  by_cases hf : c.toNat = 12
  · exact .inl (if_pos hf ▸ short (d := Char.ofNat 12) (Char.toNat_inj.1 hf) (by decide) (by decide) rfl)
  by_cases hbs : c.toNat = 8
  · exact .inl (if_neg hf ▸ if_pos hbs ▸ short (d := Char.ofNat 8) (Char.toNat_inj.1 hbs) (by decide) (by decide) rfl)
  rw [if_neg hf, if_neg hbs]
  by_cases hplane : c.toNat < 0x10000
  · exact .inr (.inl ⟨hplane, if_pos hplane⟩)
  · exact .inr (.inr ⟨Nat.le_of_not_lt hplane, if_neg hplane⟩)

theorem char_lt (c : Char) : c.toNat < 0x110000 ∧ ¬ (0xD800 ≤ c.toNat ∧ c.toNat < 0xE000) := by
  have hc : c.toNat < 0xD800 ∨ (0xDFFF < c.toNat ∧ c.toNat < 0x110000) := c.valid
  omega

theorem scanUnits_char {c : Char} (hq : c ≠ '"') (hb : c ≠ '\\') (hc : 32 ≤ c.toNat) (rest : List Char) :
    scanUnits (c :: rest) = (scanUnits rest).map fun p => (c.toNat :: p.1, p.2) := by
  rw [scanUnits.eq_def]
  dsimp only
  rw [if_neg hq, if_neg hb, if_neg (Nat.not_lt.2 hc)]

theorem scanUnits_short {e : Char} {u : Nat} (he : e ≠ 'u') (hu : escapedUnit e = some u) (rest : List Char) :
    scanUnits ('\\' :: e :: rest) = (scanUnits rest).map fun p => (u :: p.1, p.2) := by
  rw [scanUnits.eq_def]
  dsimp only
  rw [if_neg (by decide), if_pos rfl]
  split
  · rename_i heq
    exact absurd (List.cons.inj heq).1 he
  · rename_i heq
    obtain ⟨rfl, rfl⟩ := List.cons.inj heq
    rw [hu]
  · rename_i heq
    cases heq

theorem scanUnits_escape (c : Char) (rest : List Char) :
    scanUnits (escape c ++ rest) = (scanUnits rest).map fun p => (units c ++ p.1, p.2) := by
  unfold units
  rcases escape_cases c with ⟨hplain, he⟩ | ⟨hlt, e, he, hu, hunit⟩ | ⟨hlt, he⟩ | ⟨hle, he⟩
  · have hc : 32 ≤ c.toNat ∧ c.toNat ≤ 126 ∧ c ≠ '"' ∧ c ≠ '\\' := by
      simp only [isPlain, Bool.and_eq_true, decide_eq_true_eq, bne_iff_ne] at hplain
      exact ⟨hplain.1.1.1, hplain.1.1.2, hplain.1.2, hplain.2⟩
    rw [he, List.singleton_append, scanUnits_char hc.2.2.1 hc.2.2.2 hc.1, if_pos (by omega)]
    rfl
  · rw [he, if_pos hlt, List.cons_append, List.singleton_append, scanUnits_short hu hunit]
    rfl
  · rw [he, if_pos hlt, scanUnits_unicodeEscape hlt]
    rfl
  · have := (char_lt c).1
    rw [he, if_neg (by omega), List.append_assoc, scanUnits_unicodeEscape (by omega),
      scanUnits_unicodeEscape (by omega), Option.map_map]
    rfl

theorem joinPairs_units (c : Char) (us : List Nat) : joinPairs (units c ++ us) = c.toNat :: joinPairs us := by
  have hc := char_lt c
  unfold units
  split
  · have hhigh : isHigh c.toNat = false := by
      simp only [isHigh, Bool.and_eq_false_iff, decide_eq_false_iff_not]
      omega
    cases us with
    | nil => rfl
    | cons v us =>
      rw [List.singleton_append, joinPairs, hhigh, Bool.false_and]
      rfl
  · have hhigh : isHigh (0xD800 + (c.toNat - 0x10000) / 1024) = true := by
      simp only [isHigh, Bool.and_eq_true, decide_eq_true_eq]
      omega
    have hlow : isLow (0xDC00 + (c.toNat - 0x10000) % 1024) = true := by
      simp only [isLow, Bool.and_eq_true, decide_eq_true_eq]
      omega
    rw [List.cons_append, List.singleton_append, joinPairs, hhigh, hlow, Bool.and_self, if_pos rfl]
    exact congrArg (· :: joinPairs us) (by omega)

theorem scanUnits_flatMap (rest : List Char) : ∀ cs : List Char,
    scanUnits (cs.flatMap escape ++ '"' :: rest) = some (cs.flatMap units, rest)
  | [] => by
    rw [List.flatMap_nil, List.nil_append, scanUnits.eq_def]
    rfl
  | c :: cs => by
    rw [List.flatMap_cons, List.append_assoc, scanUnits_escape, scanUnits_flatMap rest cs]
    rfl

theorem joinPairs_flatMap : ∀ cs : List Char, joinPairs (cs.flatMap units) = cs.map Char.toNat
  | [] => rfl
  | c :: cs => by rw [List.flatMap_cons, joinPairs_units, joinPairs_flatMap cs, List.map_cons]

/-- **A string is read back**, with what follows its closing quote. -/
theorem scanString_quote (s : String) (rest : List Char) :
    scanString (s.toList.flatMap escape ++ '"' :: rest) = some (points s, rest) := by
  rw [scanString, scanUnits_flatMap, Option.map_some, joinPairs_flatMap]
  rfl

/-! ## Numbers are read back -/

/-- At least one digit, and nothing else. -/
def Digits (ds : List Char) : Prop := ds ≠ [] ∧ ∀ c ∈ ds, c.isDigit = true

def IsSign (t : List Char) : Prop := t = [] ∨ t = ['-']

def IsWhole (t : List Char) : Prop := t = ['0'] ∨ Digits t ∧ t.head? ≠ some '0'

def IsFraction (t : List Char) : Prop := t = [] ∨ ∃ ds, t = '.' :: ds ∧ Digits ds

def IsExponent (t : List Char) : Prop :=
  t = [] ∨ ∃ e s ds, t = e :: s ++ ds ∧ (e = 'e' ∨ e = 'E') ∧ (s = [] ∨ s = ['+'] ∨ s = ['-']) ∧ Digits ds

/-- The text of a float: a number with a fraction or an exponent. -/
def FloatText (t : List Char) : Prop :=
  ∃ sign whole fraction exponent, t = sign ++ whole ++ fraction ++ exponent ∧ IsSign sign ∧ IsWhole whole ∧
    IsFraction fraction ∧ IsExponent exponent ∧ ¬ (fraction = [] ∧ exponent = [])

/-- What may follow a number: nothing that continues it. -/
def Stops (rest : List Char) : Prop :=
  ∀ c ∈ rest.head?, c.isDigit = false ∧ c ≠ '.' ∧ c ≠ 'e' ∧ c ≠ 'E'

/-- No digit follows. -/
def NoDigit (rest : List Char) : Prop := ∀ c ∈ rest.head?, c.isDigit = false

theorem Stops.noDigit {rest : List Char} (h : Stops rest) : NoDigit rest := fun c hc => (h c hc).1

theorem takeWhile_digits {ds rest : List Char} (hds : ∀ c ∈ ds, c.isDigit = true) (hrest : NoDigit rest) :
    (ds ++ rest).takeWhile Char.isDigit = ds ∧ (ds ++ rest).dropWhile Char.isDigit = rest := by
  rw [List.takeWhile_append_of_pos hds, List.dropWhile_append_of_pos hds]
  cases rest with
  | nil => exact ⟨List.append_nil _, rfl⟩
  | cons c rest =>
    have hc : ¬ c.isDigit = true := by simp [hrest c rfl]
    rw [List.takeWhile_cons_of_neg hc, List.dropWhile_cons_of_neg hc]
    exact ⟨List.append_nil _, rfl⟩

theorem isWhole_head {w : List Char} (h : IsWhole w) : ∃ d ds, w = d :: ds ∧ d.isDigit = true := by
  rcases h with rfl | ⟨⟨hne, hds⟩, -⟩
  · exact ⟨'0', [], rfl, rfl⟩
  · cases w with
    | nil => exact absurd rfl hne
    | cons d ds => exact ⟨d, ds, rfl, hds d List.mem_cons_self⟩

theorem scanSign_append {s w : List Char} (hs : IsSign s) (hw : IsWhole w) (rest : List Char) :
    scanSign (s ++ (w ++ rest)) = (s, w ++ rest) := by
  rcases hs with rfl | rfl
  · obtain ⟨d, ds, rfl, hd⟩ := isWhole_head hw
    rw [List.nil_append, List.cons_append, scanSign]
    rintro _ h
    obtain ⟨rfl, -⟩ := List.cons.inj h
    exact absurd hd (by decide)
  · rfl

theorem scanWhole_append {w rest : List Char} (hw : IsWhole w) (hrest : NoDigit rest) :
    scanWhole (w ++ rest) = (w, rest) := by
  rcases hw with rfl | ⟨⟨hne, hds⟩, hzero⟩
  · rfl
  · obtain ⟨htake, hdrop⟩ := takeWhile_digits hds hrest
    cases w with
    | nil => exact absurd rfl hne
    | cons d ds =>
      rw [List.cons_append] at htake hdrop ⊢
      rw [scanWhole, htake, hdrop]
      rintro _ h
      obtain ⟨rfl, -⟩ := List.cons.inj h
      exact hzero rfl

theorem scanFraction_append {f rest : List Char} (hf : IsFraction f) (hrest : NoDigit rest)
    (hpoint : f = [] → rest.head? ≠ some '.') : scanFraction (f ++ rest) = (f, rest) := by
  rcases hf with rfl | ⟨ds, rfl, hne, hds⟩
  · rw [List.nil_append, scanFraction]
    rintro _ rfl
    exact hpoint rfl rfl
  · obtain ⟨htake, hdrop⟩ := takeWhile_digits hds hrest
    rw [List.cons_append, scanFraction, htake, hdrop, if_neg hne]

theorem scanEitherSign_append {s ds : List Char} (hs : s = [] ∨ s = ['+'] ∨ s = ['-']) (hds : Digits ds)
    (rest : List Char) : scanEitherSign (s ++ (ds ++ rest)) = (s, ds ++ rest) := by
  rcases hs with rfl | rfl | rfl
  · obtain ⟨d, ds', rfl⟩ := List.exists_cons_of_ne_nil hds.1
    have hd := hds.2 d List.mem_cons_self
    rw [List.nil_append, List.cons_append, scanEitherSign]
    · rintro _ h
      obtain ⟨rfl, -⟩ := List.cons.inj h
      exact absurd hd (by decide)
    · rintro _ h
      obtain ⟨rfl, -⟩ := List.cons.inj h
      exact absurd hd (by decide)
  · rfl
  · rfl

theorem scanExponent_append {x rest : List Char} (hx : IsExponent x) (hrest : NoDigit rest)
    (hletter : x = [] → rest.head? ≠ some 'e' ∧ rest.head? ≠ some 'E') : scanExponent (x ++ rest) = (x, rest) := by
  rcases hx with rfl | ⟨e, s, ds, rfl, he, hs, hds⟩
  · cases rest with
    | nil => rfl
    | cons c rest =>
      have hc := hletter rfl
      rw [List.nil_append, scanExponent.eq_def]
      dsimp only
      rw [if_neg]
      rintro ⟨rfl | rfl, -⟩
      · exact hc.1 rfl
      · exact hc.2 rfl
  · obtain ⟨htake, hdrop⟩ := takeWhile_digits hds.2 hrest
    rw [List.cons_append, List.cons_append, List.append_assoc, scanExponent.eq_def]
    simp only [scanEitherSign_append hs hds, htake, hdrop, if_pos (And.intro he hds.1), List.cons_append]

/-- **A number is read back**, with the text that stops it. -/
theorem scanNumber_append {s w f x rest : List Char} (hs : IsSign s) (hw : IsWhole w) (hf : IsFraction f)
    (hx : IsExponent x) (hrest : Stops rest) : scanNumber (s ++ (w ++ (f ++ (x ++ rest)))) =
      some (if f = [] ∧ x = [] then
          .int (if s = [] then (Nat.ofDigitChars 10 w 0 : Int) else -(Nat.ofDigitChars 10 w 0 : Int))
        else .float (String.ofList (s ++ w ++ f ++ x)), rest) := by
  have hexponent : ∀ c ∈ (x ++ rest).head?, c.isDigit = false ∧ c ≠ '.' := by
    rcases hx with rfl | ⟨e, s, ds, rfl, he, -⟩
    · exact fun c hc => ⟨(hrest c hc).1, (hrest c hc).2.1⟩
    · intro c hc
      obtain rfl : e = c := by simpa using hc
      rcases he with rfl | rfl <;> exact ⟨rfl, by decide⟩
  have hfraction : NoDigit (f ++ (x ++ rest)) := by
    rcases hf with rfl | ⟨ds, rfl, -⟩
    · exact fun c hc => (hexponent c hc).1
    · intro c hc
      obtain rfl : '.' = c := by simpa using hc
      rfl
  have hnone : w ≠ [] := by
    obtain ⟨d, ds, rfl, -⟩ := isWhole_head hw
    exact List.cons_ne_nil _ _
  have hfscan := scanFraction_append hf (fun c hc => (hexponent c hc).1) fun _ hp => (hexponent '.' hp).2 rfl
  have hxscan := scanExponent_append hx hrest.noDigit fun _ =>
    ⟨fun he => (hrest _ he).2.2.1 rfl, fun he => (hrest _ he).2.2.2 rfl⟩
  simp only [scanNumber, scanSign_append hs hw, scanWhole_append hw hfraction, hfscan, hxscan, if_neg hnone]
  split <;> rfl

/-- The decimal text of a natural number does not start with `0`, unless it is `0`. -/
theorem isWhole_toDigits (n : Nat) : IsWhole (Nat.toDigits 10 n) := by
  have hdigits : Digits (Nat.toDigits 10 n) :=
    ⟨Nat.toDigits_ne_nil, fun c hc => Nat.isDigit_of_mem_toDigits (by decide) (by decide) hc⟩
  induction n using Nat.strong_induction_on with
  | _ n ih =>
    by_cases hn : n < 10
    · rw [Nat.toDigits_of_lt_base hn] at hdigits ⊢
      by_cases hzero : n = 0
      · exact .inl (by rw [hzero]; rfl)
      · have key : ∀ m < 10, m ≠ 0 → Nat.digitChar m ≠ '0' := by decide
        exact .inr ⟨hdigits, fun h => key n hn hzero (Option.some.inj h)⟩
    · have hsplit := Nat.toDigits_of_base_le (b := 10) (by decide) (Nat.le_of_not_lt hn)
      have hle : n / 10 < n := Nat.div_lt_self (by omega) (by decide)
      rcases ih (n / 10) hle ⟨Nat.toDigits_ne_nil, fun c hc =>
        Nat.isDigit_of_mem_toDigits (by decide) (by decide) hc⟩ with h | ⟨-, h⟩
      · have hvalue : Nat.ofDigitChars 10 (Nat.toDigits 10 (n / 10)) 0 = n / 10 := Nat.ofDigitChars_ten_toDigits
        rw [h] at hvalue
        have hzero : (0 : Nat) = n / 10 := hvalue
        omega
      · refine .inr ⟨hdigits, ?_⟩
        rw [hsplit, List.head?_append_of_ne_nil _ Nat.toDigits_ne_nil]
        exact h

theorem int_text (n : Int) : ∃ s, IsSign s ∧ (toString n).toList = s ++ Nat.toDigits 10 n.natAbs ∧ (s = [] ↔ 0 ≤ n) := by
  rw [Int.toString_eq_repr, Int.repr_eq_if]
  split
  · rename_i h
    exact ⟨[], .inl rfl, by rw [Nat.toList_repr, List.nil_append]; congr 1; omega, fun _ => h, fun _ => rfl⟩
  · rename_i h
    refine ⟨['-'], .inr rfl, ?_, fun h' => absurd h' (by decide), fun h' => absurd h' h⟩
    rw [String.toList_append, Nat.toList_repr]
    exact congrArg (fun m => '-' :: Nat.toDigits 10 m) (by omega)

theorem scanNumber_int (n : Int) {rest : List Char} (hrest : Stops rest) :
    scanNumber ((toString n).toList ++ rest) = some (.int n, rest) := by
  obtain ⟨s, hs, htext, hsign⟩ := int_text n
  have h := scanNumber_append hs (isWhole_toDigits n.natAbs) (.inl rfl) (.inl rfl) hrest
  rw [List.nil_append, List.nil_append, ← List.append_assoc, ← htext, if_pos ⟨rfl, rfl⟩,
    Nat.ofDigitChars_ten_toDigits] at h
  rw [h]
  split
  · rename_i hnil
    rw [Int.natAbs_of_nonneg (hsign.1 hnil)]
  · rename_i hnil
    have : ¬ 0 ≤ n := fun h => hnil (hsign.2 h)
    rw [show (-(n.natAbs : Int)) = n by omega]

theorem scanNumber_float {t rest : List Char} (ht : FloatText t) (hrest : Stops rest) :
    scanNumber (t ++ rest) = some (.float (String.ofList t), rest) := by
  obtain ⟨s, w, f, x, rfl, hs, hw, hf, hx, hfloat⟩ := ht
  have h := scanNumber_append hs hw hf hx hrest
  rw [if_neg hfloat] at h
  simpa only [List.append_assoc] using h

/-- A number starts with a digit, or with a sign and a digit. -/
def NumberHead (t : List Char) : Prop := ∃ s d r, t = s ++ d :: r ∧ IsSign s ∧ d.isDigit = true

theorem numberHead_int (n : Int) (rest : List Char) : NumberHead ((toString n).toList ++ rest) := by
  obtain ⟨s, hs, htext, -⟩ := int_text n
  obtain ⟨d, ds, hd, hdigit⟩ := isWhole_head (isWhole_toDigits n.natAbs)
  exact ⟨s, d, ds ++ rest, by rw [htext, hd, List.append_assoc, List.cons_append], hs, hdigit⟩

theorem numberHead_float {t : List Char} (ht : FloatText t) (rest : List Char) : NumberHead (t ++ rest) := by
  obtain ⟨s, w, f, x, rfl, hs, hw, -⟩ := ht
  obtain ⟨d, ds, rfl, hdigit⟩ := isWhole_head hw
  exact ⟨s, d, ds ++ f ++ x ++ rest, by simp, hs, hdigit⟩

theorem digit_bounds {d : Char} (h : d.isDigit = true) : 48 ≤ d.toNat ∧ d.toNat ≤ 57 := by
  simp only [Char.isDigit, Bool.and_eq_true, decide_eq_true_eq, ge_iff_le, UInt32.le_iff_toNat_le] at h
  exact h

/-- No word of the notation starts a number. -/
theorem scanConstant_number {t : List Char} (h : NumberHead t) : scanConstant t = none := by
  obtain ⟨s, d, r, rfl, hs, hd⟩ := h
  have hne {c : Char} (hc : c.isDigit = false) : (c == d) = false := by
    rw [beq_eq_false_iff_ne]
    rintro rfl
    rw [hd] at hc
    cases hc
  have hfind : constants.find? (fun p => p.1.toList.isPrefixOf (s ++ d :: r)) = none := by
    rw [List.find?_eq_none]
    intro p hp
    simp only [constants, List.mem_cons, List.not_mem_nil, or_false] at hp
    rcases hs with rfl | rfl <;> rcases hp with rfl | rfl | rfl | rfl | rfl | rfl <;>
      simp [List.isPrefixOf, hne]
  rw [scanConstant, hfind]

/-! ## Values are read back -/

mutual
/-- What the text of a value stands for. -/
def Json.value : Json → Value
  | .null => .null
  | .bool b => .bool b
  | .int n => .int n
  | .float digits => .float digits
  | .str s => .str (points s)
  | .arr xs => .arr (itemValues xs)
  | .obj fields => .obj (fieldValues fields)

def itemValues : List Json → List Value
  | [] => []
  | x :: xs => x.value :: itemValues xs

def fieldValues : List (String × Json) → List (List Nat × Value)
  | [] => []
  | (k, v) :: rest => (points k, v.value) :: fieldValues rest
end

mutual
/-- Every float in it is the text of a float. -/
def Readable : Json → Prop
  | .float digits => FloatText digits.toList
  | .arr xs => ReadableItems xs
  | .obj fields => ReadableFields fields
  | _ => True

def ReadableItems : List Json → Prop
  | [] => True
  | x :: xs => Readable x ∧ ReadableItems xs

def ReadableFields : List (String × Json) → Prop
  | [] => True
  | (_, v) :: rest => Readable v ∧ ReadableFields rest
end

/-- The character can start a value, and ends nothing. -/
def Starts (c : Char) : Prop := isBlank c = false ∧ c ≠ ']' ∧ c ≠ '\x7d'

attribute [local grind] Json.value itemValues fieldValues Readable ReadableItems ReadableFields

theorem starts_of_isDigit {d : Char} (h : d.isDigit = true) : Starts d := by
  have hd := digit_bounds h
  refine ⟨?_, ?_, ?_⟩
  · simp only [isBlank, Bool.or_eq_false_iff, beq_eq_false_iff_ne]
    refine ⟨⟨⟨?_, ?_⟩, ?_⟩, ?_⟩ <;> (rintro rfl; exact absurd h (by decide))
  · rintro rfl
    exact absurd h (by decide)
  · rintro rfl
    exact absurd h (by decide)

theorem NumberHead.starts {t : List Char} (h : NumberHead t) : ∃ c r, t = c :: r ∧ Starts c := by
  obtain ⟨s, d, r, rfl, rfl | rfl, hd⟩ := h
  · exact ⟨d, r, rfl, starts_of_isDigit hd⟩
  · exact ⟨'-', d :: r, rfl, by decide, by decide, by decide⟩

theorem render_starts : ∀ {j : Json}, Readable j → ∃ c r, render j = c :: r ∧ Starts c
  | .null, _ => ⟨'n', _, by rw [render]; rfl, by decide, by decide, by decide⟩
  | .bool true, _ => ⟨'t', _, by rw [render]; rfl, by decide, by decide, by decide⟩
  | .bool false, _ => ⟨'f', _, by rw [render]; rfl, by decide, by decide, by decide⟩
  | .int n, _ => by
    rw [render]
    have h := (numberHead_int n []).starts
    rwa [List.append_nil] at h
  | .float digits, hj => by
    rw [Readable] at hj
    rw [render]
    have h := (numberHead_float hj []).starts
    rwa [List.append_nil] at h
  | .str s, _ => ⟨'"', _, by rw [render, quote], by decide, by decide, by decide⟩
  | .arr xs, _ => ⟨'[', _, by rw [render], by decide, by decide, by decide⟩
  | .obj fields, _ => ⟨'\x7b', _, by rw [render], by decide, by decide, by decide⟩

theorem skipBlanks_of_starts {c : Char} (h : Starts c) (r : List Char) : skipBlanks (c :: r) = c :: r := by
  rw [skipBlanks, List.dropWhile_cons_of_neg (by simp [h.1])]

theorem stops_of {c : Char} (h : c = ',' ∨ c = ']' ∨ c = '\x7d') (r : List Char) : Stops (c :: r) := by
  intro d hd
  obtain rfl : c = d := by simpa using hd
  rcases h with rfl | rfl | rfl <;> decide

/-- A text that is neither quoted nor bracketed is a scalar. -/
theorem scanValue_scalar {c : Char} (hc : c ≠ '"' ∧ c ≠ '[' ∧ c ≠ '\x7b') (r : List Char) (n : Nat) :
    scanValue (n + 1) (c :: r) = scanScalar (c :: r) := by
  rw [scanValue.eq_def]
  dsimp only
  split
  · rename_i heq
    exact absurd (List.cons.inj heq).1 hc.1
  · rename_i heq
    exact absurd (List.cons.inj heq).1 hc.2.1
  · rename_i heq
    exact absurd (List.cons.inj heq).1 hc.2.2
  · rfl

theorem scanValue_number {t : List Char} (h : NumberHead t) (n : Nat) : scanValue (n + 1) t = scanNumber t := by
  have hscalar : scanScalar t = scanNumber t := by rw [scanScalar, scanConstant_number h]
  obtain ⟨s, d, r, rfl, rfl | rfl, hd⟩ := h
  · rw [← hscalar]
    refine scanValue_scalar ⟨?_, ?_, ?_⟩ r n <;> (rintro rfl; exact absurd hd (by decide))
  · rw [← hscalar]
    exact scanValue_scalar (by decide) _ n

theorem scanKey_quote (k : String) {t : List Char} {c : Char} (hc : Starts c) :
    scanKey (quote k ++ ':' :: c :: t) = some (points k, c :: t) := by
  rw [quote, List.cons_append, List.append_assoc, List.singleton_append, scanKey, scanString_quote]
  have hcolon : skipBlanks (':' :: c :: t) = ':' :: c :: t :=
    skipBlanks_of_starts ⟨by decide, by decide, by decide⟩ _
  simp only [hcolon, skipBlanks_of_starts hc]

/-- Fuel for a text: two calls a character. -/
theorem exists_fuel {t : List Char} {n : Nat} (hne : t ≠ []) (h : 2 * t.length ≤ n) : ∃ m, n = m + 2 := by
  have := List.length_pos_of_ne_nil hne
  exact ⟨n - 2, by omega⟩

theorem items_start {x : Json} (hx : Readable x) (xs : List Json) :
    ∃ c r, joinComma (renderItems (x :: xs)) = c :: r ∧ Starts c := by
  obtain ⟨c, r, hr, hc⟩ := render_starts hx
  cases xs with
  | nil => exact ⟨c, r, hr, hc⟩
  | cons y ys => exact ⟨c, _, by simp only [renderItems, joinComma, hr, List.cons_append]; rfl, hc⟩

theorem fields_start (k : String) (v : Json) (fs : List (String × Json)) :
    ∃ r, joinComma (renderFields ((k, v) :: fs)) = '"' :: r := by
  cases fs with
  | nil => exact ⟨_, rfl⟩
  | cons f fs => exact ⟨_, rfl⟩

theorem scanValue_arr {c : Char} (hc : Starts c) (r : List Char) (n : Nat) :
    scanValue (n + 1) ('[' :: c :: r) = (scanItems n (c :: r)).map fun p => (.arr p.1, p.2) := by
  rw [scanValue]
  simp only [skipBlanks_of_starts hc]
  split
  · rename_i heq
    exact absurd (List.cons.inj heq).1 hc.2.1
  · rfl

theorem scanValue_obj {c : Char} (hc : Starts c) (r : List Char) (n : Nat) :
    scanValue (n + 1) ('\x7b' :: c :: r) = (scanPairs n (c :: r)).map fun p => (.obj p.1, p.2) := by
  rw [scanValue]
  simp only [skipBlanks_of_starts hc]
  split
  · rename_i heq
    exact absurd (List.cons.inj heq).1 hc.2.2
  · rfl

theorem starts_quote : Starts '"' := ⟨by decide, by decide, by decide⟩

mutual
/-- **A value is read back**, with the text that stops it. -/
theorem scanValue_render : ∀ {j : Json} (n : Nat) {rest : List Char}, Readable j → 2 * (render j).length ≤ n →
    Stops rest → scanValue n (render j ++ rest) = some (j.value, rest)
  | .null, n, rest, _, hn, _ => by
    obtain ⟨m, rfl⟩ := exists_fuel (by simp [render]) hn
    simp only [render]
    exact scanValue_scalar (by decide) _ _
  | .bool b, n, rest, _, hn, _ => by
    obtain ⟨m, rfl⟩ := exists_fuel (by cases b <;> simp [render]) hn
    simp only [render]
    cases b
    · exact scanValue_scalar (by decide) _ _
    · exact scanValue_scalar (by decide) _ _
  | .int i, n, rest, _, hn, hrest => by
    obtain ⟨c, r, htext, -⟩ := render_starts (j := .int i) trivial
    obtain ⟨m, rfl⟩ := exists_fuel (by rw [htext]; exact List.cons_ne_nil _ _) hn
    simp only [render]
    rw [scanValue_number (numberHead_int i rest), scanNumber_int i hrest]
    rfl
  | .float digits, n, rest, hj, hn, hrest => by
    obtain ⟨c, r, htext, -⟩ := render_starts hj
    obtain ⟨m, rfl⟩ := exists_fuel (by rw [htext]; exact List.cons_ne_nil _ _) hn
    rw [Readable] at hj
    simp only [render]
    rw [scanValue_number (numberHead_float hj rest), scanNumber_float hj hrest, String.ofList_toList]
    rfl
  | .str s, n, rest, _, hn, _ => by
    obtain ⟨m, rfl⟩ := exists_fuel (by simp [render, quote]) hn
    simp only [render, quote, List.cons_append, List.append_assoc]
    rw [scanValue, List.nil_append, scanString_quote]
    rfl
  | .arr [], n, rest, _, hn, _ => by
    obtain ⟨m, rfl⟩ := exists_fuel (by simp [render]) hn
    rfl
  | .arr (x :: xs), n, rest, hj, hn, _ => by
    rw [Readable, ReadableItems] at hj
    rw [render, List.length_cons, List.length_append, List.length_singleton] at hn
    obtain ⟨m, rfl⟩ : ∃ m, n = m + 1 := ⟨n - 1, by omega⟩
    have hitems := scanItems_render m rest hj.1 hj.2 (by omega)
    obtain ⟨c, r, htext, hc⟩ := items_start hj.1 xs
    rw [render, List.cons_append, List.append_assoc, List.singleton_append]
    rw [htext, List.cons_append] at hitems ⊢
    rw [scanValue_arr hc, hitems]
    rfl
  | .obj [], n, rest, _, hn, _ => by
    obtain ⟨m, rfl⟩ := exists_fuel (by simp [render]) hn
    rfl
  | .obj ((k, v) :: fs), n, rest, hj, hn, _ => by
    rw [Readable, ReadableFields] at hj
    rw [render, List.length_cons, List.length_append, List.length_singleton] at hn
    obtain ⟨m, rfl⟩ : ∃ m, n = m + 1 := ⟨n - 1, by omega⟩
    have hpairs := scanPairs_render k m rest hj.1 hj.2 (by omega)
    obtain ⟨r, htext⟩ := fields_start k v fs
    rw [render, List.cons_append, List.append_assoc, List.singleton_append]
    rw [htext, List.cons_append] at hpairs ⊢
    rw [scanValue_obj starts_quote, hpairs]
    rfl
termination_by _ n => n

theorem scanItems_render : ∀ {x : Json} {xs : List Json} (n : Nat) (rest : List Char), Readable x → ReadableItems xs →
    2 * (joinComma (renderItems (x :: xs))).length + 1 ≤ n →
    scanItems n (joinComma (renderItems (x :: xs)) ++ ']' :: rest) = some (itemValues (x :: xs), rest)
  | x, [], n, rest, hx, _, hn => by
    obtain ⟨m, rfl⟩ : ∃ m, n = m + 1 := ⟨n - 1, by omega⟩
    simp only [renderItems, joinComma] at hn ⊢
    rw [scanItems, scanValue_render m hx (by omega) (stops_of (.inr (.inl rfl)) rest)]
    rfl
  | x, y :: ys, n, rest, hx, hxs, hn => by
    obtain ⟨m, rfl⟩ : ∃ m, n = m + 1 := ⟨n - 1, by omega⟩
    rw [ReadableItems] at hxs
    have htext : joinComma (renderItems (x :: y :: ys)) = render x ++ ',' :: joinComma (renderItems (y :: ys)) := rfl
    rw [htext, List.length_append, List.length_cons] at hn
    have hrec := scanItems_render m rest hxs.1 hxs.2 (by omega)
    obtain ⟨c, r, hnext, hc⟩ := items_start hxs.1 ys
    rw [htext, List.append_assoc, List.cons_append, scanItems,
      scanValue_render m hx (by omega) (stops_of (.inl rfl) _)]
    rw [hnext, List.cons_append] at hrec ⊢
    have hcomma : skipBlanks (',' :: c :: (r ++ ']' :: rest)) = ',' :: c :: (r ++ ']' :: rest) :=
      skipBlanks_of_starts ⟨by decide, by decide, by decide⟩ _
    simp only [hcomma, skipBlanks_of_starts hc, hrec]
    rfl
termination_by _ _ n => n

theorem scanPairs_render : ∀ (k : String) {v : Json} {fs : List (String × Json)} (n : Nat) (rest : List Char),
    Readable v → ReadableFields fs → 2 * (joinComma (renderFields ((k, v) :: fs))).length + 1 ≤ n →
    scanPairs n (joinComma (renderFields ((k, v) :: fs)) ++ '\x7d' :: rest) = some (fieldValues ((k, v) :: fs), rest)
  | k, v, [], n, rest, hv, _, hn => by
    obtain ⟨m, rfl⟩ : ∃ m, n = m + 1 := ⟨n - 1, by omega⟩
    simp only [renderFields, joinComma, List.length_append, List.length_cons] at hn ⊢
    have hvalue := scanValue_render m hv (by omega) (stops_of (.inr (.inr rfl)) rest)
    obtain ⟨c, r, htext, hc⟩ := render_starts hv
    rw [htext, List.cons_append] at hvalue
    rw [htext, List.append_assoc, List.cons_append, List.cons_append, scanPairs, scanKey_quote k hc]
    simp only [hvalue]
    rfl
  | k, v, (l, w) :: fs, n, rest, hv, hfs, hn => by
    obtain ⟨m, rfl⟩ : ∃ m, n = m + 1 := ⟨n - 1, by omega⟩
    rw [ReadableFields] at hfs
    have htext : joinComma (renderFields ((k, v) :: (l, w) :: fs)) =
        (quote k ++ ':' :: render v) ++ ',' :: joinComma (renderFields ((l, w) :: fs)) := rfl
    rw [htext, List.length_append, List.length_append, List.length_cons, List.length_cons] at hn
    have hrec := scanPairs_render l m rest hfs.1 hfs.2 (by omega)
    obtain ⟨r, hnext⟩ := fields_start l w fs
    rw [hnext, List.cons_append] at hrec
    have hvalue := scanValue_render m hv (by omega)
      (stops_of (.inl rfl) ('"' :: (r ++ '\x7d' :: rest)))
    obtain ⟨c, t, hv', hc⟩ := render_starts hv
    rw [hv', List.cons_append] at hvalue
    rw [htext, hnext, hv', List.append_assoc, List.append_assoc, List.cons_append, List.cons_append, List.cons_append,
      List.cons_append, scanPairs, scanKey_quote k hc]
    have hcomma : skipBlanks (',' :: '"' :: (r ++ '\x7d' :: rest)) = ',' :: '"' :: (r ++ '\x7d' :: rest) :=
      skipBlanks_of_starts ⟨by decide, by decide, by decide⟩ _
    simp only [hvalue, hcomma, skipBlanks_of_starts starts_quote, hrec]
    rfl
termination_by _ _ _ n => n
end

theorem skipBlanks_blank {t : List Char} (h : ∀ c ∈ t, isBlank c = true) : skipBlanks t = [] :=
  List.dropWhile_eq_nil_iff.2 h

/-- **A whole text is read back**, with blanks after it. -/
theorem loads_render {j : Json} (hj : Readable j) (blanks : List Char) (h : ∀ c ∈ blanks, isBlank c = true) :
    loads (render j ++ blanks) = some j.value := by
  have hstops : Stops blanks := by
    intro c hc
    have hblank := h c (List.mem_of_mem_head? hc)
    simp only [isBlank, Bool.or_eq_true, beq_iff_eq] at hblank
    rcases hblank with ((rfl | rfl) | rfl) | rfl <;> decide
  have hread := scanValue_render (2 * (render j ++ blanks).length + 1) hj (by rw [List.length_append]; omega) hstops
  obtain ⟨c, r, htext, hc⟩ := render_starts hj
  have hskip : skipBlanks (render j ++ blanks) = render j ++ blanks := by
    rw [htext, List.cons_append, skipBlanks_of_starts hc]
  rw [loads, hskip, hread]
  simp only [skipBlanks_blank h, if_true]

/-! ## The characters of the text -/

/-- The characters of numbers. -/
def numberChar (c : Char) : Bool := c.isDigit || c == '-' || c == '+' || c == '.' || c == 'e' || c == 'E'

theorem numberChar_of_isDigit {c : Char} (h : c.isDigit = true) : numberChar c = true := by simp [numberChar, h]

theorem numberChar_int (n : Int) : ∀ c ∈ (toString n).toList, numberChar c = true := by
  obtain ⟨s, hs, htext, -⟩ := int_text n
  intro c hc
  rw [htext] at hc
  rcases List.mem_append.1 hc with hc | hc
  · rcases hs with rfl | rfl
    · cases hc
    · obtain rfl := List.mem_singleton.1 hc
      rfl
  · exact numberChar_of_isDigit (Nat.isDigit_of_mem_toDigits (by decide) (by decide) hc)

theorem numberChar_float {t : List Char} (h : FloatText t) : ∀ c ∈ t, numberChar c = true := by
  obtain ⟨s, w, f, x, rfl, hs, hw, hf, hx, -⟩ := h
  intro c hc
  simp only [List.mem_append] at hc
  rcases hc with ((hc | hc) | hc) | hc
  · rcases hs with rfl | rfl
    · cases hc
    · obtain rfl := List.mem_singleton.1 hc
      rfl
  · rcases hw with rfl | ⟨hdigits, -⟩
    · obtain rfl := List.mem_singleton.1 hc
      rfl
    · exact numberChar_of_isDigit (hdigits.2 c hc)
  · rcases hf with rfl | ⟨ds, rfl, hds⟩
    · cases hc
    · rcases List.mem_cons.1 hc with rfl | hc
      · rfl
      · exact numberChar_of_isDigit (hds.2 c hc)
  · rcases hx with rfl | ⟨e, sign, ds, rfl, he, hsign, hds⟩
    · cases hc
    · rcases List.mem_append.1 hc with hc | hc
      · rcases List.mem_cons.1 hc with rfl | hc
        · rcases he with rfl | rfl <;> rfl
        · rcases hsign with rfl | rfl | rfl
          · cases hc
          · obtain rfl := List.mem_singleton.1 hc
            rfl
          · obtain rfl := List.mem_singleton.1 hc
            rfl
      · exact numberChar_of_isDigit (hds.2 c hc)

theorem numberChars_append {s t : List Char} (hs : ∀ c ∈ s, numberChar c = true) (ht : ∀ c ∈ t, numberChar c = true) :
    ∀ c ∈ s ++ t, numberChar c = true :=
  fun c hc => (List.mem_append.mp hc).elim (hs c) (ht c)

theorem numberChars_single {c : Char} (h : numberChar c = true) : ∀ d ∈ [c], numberChar d = true :=
  fun _ hd => List.mem_singleton.mp hd ▸ h

theorem digits_split (text : List Char) :
    text = text.takeWhile Char.isDigit ++ text.dropWhile Char.isDigit ∧
      ∀ c ∈ text.takeWhile Char.isDigit, numberChar c = true :=
  ⟨List.takeWhile_append_dropWhile.symm, fun _ hc => numberChar_of_isDigit (List.mem_takeWhile_imp hc)⟩

/-- Each part of a number is taken off the front. -/
theorem scanSign_split (text : List Char) :
    text = (scanSign text).1 ++ (scanSign text).2 ∧ ∀ c ∈ (scanSign text).1, numberChar c = true := by
  unfold scanSign
  split
  · exact ⟨rfl, numberChars_single rfl⟩
  · exact ⟨rfl, fun _ h => absurd h List.not_mem_nil⟩

theorem scanWhole_split (text : List Char) :
    text = (scanWhole text).1 ++ (scanWhole text).2 ∧ ∀ c ∈ (scanWhole text).1, numberChar c = true := by
  unfold scanWhole
  split
  · exact ⟨rfl, numberChars_single rfl⟩
  · exact digits_split _

theorem scanFraction_split (text : List Char) :
    text = (scanFraction text).1 ++ (scanFraction text).2 ∧ ∀ c ∈ (scanFraction text).1, numberChar c = true := by
  unfold scanFraction
  split
  · split_ifs
    · exact ⟨rfl, fun _ h => absurd h List.not_mem_nil⟩
    · rename_i tail _
      obtain ⟨htail, hdigits⟩ := digits_split tail
      refine ⟨congrArg ('.' :: ·) htail, fun c hc => ?_⟩
      rcases List.mem_cons.mp hc with rfl | hc
      · rfl
      · exact hdigits c hc
  · exact ⟨rfl, fun _ h => absurd h List.not_mem_nil⟩

theorem scanEitherSign_split (text : List Char) :
    text = (scanEitherSign text).1 ++ (scanEitherSign text).2 ∧ ∀ c ∈ (scanEitherSign text).1, numberChar c = true := by
  unfold scanEitherSign
  split
  · exact ⟨rfl, numberChars_single rfl⟩
  · exact ⟨rfl, numberChars_single rfl⟩
  · exact ⟨rfl, fun _ h => absurd h List.not_mem_nil⟩

theorem scanExponent_split (text : List Char) :
    text = (scanExponent text).1 ++ (scanExponent text).2 ∧ ∀ c ∈ (scanExponent text).1, numberChar c = true := by
  unfold scanExponent
  split
  · rename_i e tail
    dsimp only
    obtain ⟨hsign, hs⟩ := scanEitherSign_split tail
    obtain ⟨hdigits, hd⟩ := digits_split (scanEitherSign tail).2
    split_ifs with he
    · refine ⟨?_, fun c hc => ?_⟩
      · rw [List.cons_append, List.cons_append, List.append_assoc, ← hdigits, ← hsign]
      · rcases List.mem_append.mp hc with hc | hc
        · rcases List.mem_cons.mp hc with rfl | hc
          · rcases he.1 with rfl | rfl <;> rfl
          · exact hs c hc
        · exact hd c hc
    · exact ⟨rfl, fun _ h => absurd h List.not_mem_nil⟩
  · exact ⟨rfl, fun _ h => absurd h List.not_mem_nil⟩

theorem numberChar_ascii {c : Char} (h : numberChar c = true) : c.toNat < 128 := by
  simp only [numberChar, Bool.or_eq_true, beq_iff_eq] at h
  rcases h with ((((h | rfl) | rfl) | rfl) | rfl) | rfl
  · have := digit_bounds h
    omega
  all_goals decide

theorem hexDigit_mod (n : Nat) : (hexDigit (n % 16)).toNat < 128 ∧ hexDigit (n % 16) ≠ '"' ∧ hexDigit (n % 16) ≠ '\\' := by
  have key : ∀ d < 16, (hexDigit d).toNat < 128 ∧ hexDigit d ≠ '"' ∧ hexDigit d ≠ '\\' := by decide
  exact key _ (Nat.mod_lt _ (by decide))

theorem escapedUnit_ascii {e : Char} {u : Nat} (h : escapedUnit e = some u) : e.toNat < 128 := by
  unfold escapedUnit at h
  split at h
  · rename_i he
    rcases he with rfl | rfl | rfl <;> decide
  · split at h
    · subst_vars
      decide
    · split at h
      · subst_vars
        decide
      · split at h
        · subst_vars
          decide
        · split at h
          · subst_vars
            decide
          · split at h
            · subst_vars
              decide
            · cases h

theorem unicodeEscape_ascii (n : Nat) : ∀ c ∈ unicodeEscape n, c.toNat < 128 := by
  intro c hc
  simp only [unicodeEscape, List.mem_cons, List.not_mem_nil, or_false] at hc
  rcases hc with rfl | rfl | rfl | rfl | rfl | rfl
  · decide
  · decide
  · exact (hexDigit_mod _).1
  · exact (hexDigit_mod _).1
  · exact (hexDigit_mod _).1
  · exact (hexDigit_mod _).1

theorem escape_ascii (c : Char) : ∀ d ∈ escape c, d.toNat < 128 := by
  intro d hd
  rcases escape_cases c with ⟨hplain, he⟩ | ⟨-, e, he, -, hunit⟩ | ⟨-, he⟩ | ⟨-, he⟩ <;> rw [he] at hd
  · obtain rfl := List.mem_singleton.1 hd
    simp only [isPlain, Bool.and_eq_true, decide_eq_true_eq] at hplain
    omega
  · rcases List.mem_cons.1 hd with rfl | hd
    · decide
    · obtain rfl := List.mem_singleton.1 hd
      exact escapedUnit_ascii hunit
  · exact unicodeEscape_ascii _ d hd
  · rcases List.mem_append.1 hd with hd | hd <;> exact unicodeEscape_ascii _ d hd

theorem quote_ascii (s : String) : ∀ c ∈ quote s, c.toNat < 128 := by
  intro c hc
  rw [quote, List.mem_cons, List.mem_append, List.mem_flatMap, List.mem_singleton] at hc
  rcases hc with rfl | ⟨d, -, hd⟩ | rfl
  · decide
  · exact escape_ascii d c hd
  · decide

theorem forall_of_all {α : Type} {p : α → Prop} [DecidablePred p] {xs : List α} (h : (xs.all fun x => decide (p x)) = true) :
    ∀ x ∈ xs, p x := by simpa using h

theorem joinComma_forall {P : Char → Prop} (hcomma : P ',') : ∀ {ts : List (List Char)}, (∀ t ∈ ts, ∀ c ∈ t, P c) →
    ∀ c ∈ joinComma ts, P c
  | [], _, c, hc => absurd hc List.not_mem_nil
  | [t], h, c, hc => h t List.mem_cons_self c hc
  | t :: u :: ts, h, c, hc => by
    rw [joinComma, List.mem_append, List.mem_cons] at hc
    rcases hc with hc | rfl | hc
    · exact h t List.mem_cons_self c hc
    · exact hcomma
    · exact joinComma_forall hcomma (fun v hv => h v (List.mem_cons_of_mem t hv)) c hc

mutual
/-- The text is ASCII. -/
theorem render_ascii : ∀ {j : Json}, Readable j → ∀ c ∈ render j, c.toNat < 128
  | .null, _, c, hc => by
    rw [render] at hc
    exact (forall_of_all (by decide) : ∀ c ∈ "null".toList, c.toNat < 128) c hc
  | .bool b, _, c, hc => by
    rw [render] at hc
    exact (forall_of_all (by cases b <;> decide) : ∀ c ∈ (if b then "true" else "false").toList, c.toNat < 128) c hc
  | .int n, _, c, hc => by
    rw [render] at hc
    exact numberChar_ascii (numberChar_int n c hc)
  | .float digits, hj, c, hc => by
    rw [Readable] at hj
    rw [render] at hc
    exact numberChar_ascii (numberChar_float hj c hc)
  | .str s, _, c, hc => by
    rw [render] at hc
    exact quote_ascii s c hc
  | .arr xs, hj, c, hc => by
    rw [Readable] at hj
    rw [render, List.mem_cons, List.mem_append, List.mem_singleton] at hc
    rcases hc with rfl | hc | rfl
    · decide
    · exact joinComma_forall (by decide) (renderItems_ascii hj) c hc
    · decide
  | .obj fields, hj, c, hc => by
    rw [Readable] at hj
    rw [render, List.mem_cons, List.mem_append, List.mem_singleton] at hc
    rcases hc with rfl | hc | rfl
    · decide
    · exact joinComma_forall (by decide) (renderFields_ascii hj) c hc
    · decide

theorem renderItems_ascii : ∀ {xs : List Json}, ReadableItems xs → ∀ t ∈ renderItems xs, ∀ c ∈ t, c.toNat < 128
  | [], _, t, ht => by
    rw [renderItems] at ht
    cases ht
  | x :: xs, hx, t, ht => by
    rw [ReadableItems] at hx
    rw [renderItems, List.mem_cons] at ht
    rcases ht with rfl | ht
    · exact render_ascii hx.1
    · exact renderItems_ascii hx.2 t ht

theorem renderFields_ascii : ∀ {fs : List (String × Json)}, ReadableFields fs →
    ∀ t ∈ renderFields fs, ∀ c ∈ t, c.toNat < 128
  | [], _, t, ht => by
    rw [renderFields] at ht
    cases ht
  | (k, v) :: fs, hv, t, ht => by
    rw [ReadableFields] at hv
    rw [renderFields, List.mem_cons] at ht
    rcases ht with rfl | ht
    · intro c hc
      rw [List.mem_append, List.mem_cons] at hc
      rcases hc with hc | rfl | hc
      · exact quote_ascii k c hc
      · decide
      · exact render_ascii hv.1 c hc
    · exact renderFields_ascii hv.2 t ht
end

/-! ## Objects and their checks -/

/-- The value of a key; of a repeated key, the first. -/
def field (pairs : List (List Nat × Value)) (key : String) : Option Value :=
  (pairs.find? fun p => p.1 == points key).map Prod.snd

/-- The keys are exactly these. -/
def keysAre (pairs : List (List Nat × Value)) (keys : List String) : Bool :=
  keys.all (fun k => (field pairs k).isSome) && pairs.all fun p => keys.any fun k => p.1 == points k

/-- The text of a string without lone surrogates. -/
def Value.text? : Value → Option String
  | .str ps => if ps.all fun n => decide n.isValidChar then some (String.ofList (ps.map Char.ofNat)) else none
  | _ => none

/-- The longest decimal text that becomes an `int`. -/
def MAX_INT_DIGITS : Nat := 4300

mutual
/-- No key is repeated, no number is too long, and every float passes. -/
def Value.strict (isFloat : String → Bool) : Value → Bool
  | .int n => decide ((Nat.toDigits 10 n.natAbs).length ≤ MAX_INT_DIGITS)
  | .float text => isFloat text
  | .arr xs => strictItems isFloat xs
  | .obj pairs => decide (pairs.map Prod.fst).Nodup && strictPairs isFloat pairs
  | _ => true

def strictItems (isFloat : String → Bool) : List Value → Bool
  | [] => true
  | x :: xs => x.strict isFloat && strictItems isFloat xs

def strictPairs (isFloat : String → Bool) : List (List Nat × Value) → Bool
  | [] => true
  | (_, v) :: rest => v.strict isFloat && strictPairs isFloat rest
end

mutual
/-- No number is too long. -/
def Value.shortInts : Value → Bool
  | .int n => decide ((Nat.toDigits 10 n.natAbs).length ≤ MAX_INT_DIGITS)
  | .arr xs => shortItems xs
  | .obj pairs => shortPairs pairs
  | _ => true

def shortItems : List Value → Bool
  | [] => true
  | x :: xs => x.shortInts && shortItems xs

def shortPairs : List (List Nat × Value) → Bool
  | [] => true
  | (_, v) :: rest => v.shortInts && shortPairs rest
end

attribute [local grind] Value.strict strictItems strictPairs Value.shortInts shortItems shortPairs

theorem points_inj {s t : String} : points s = points t ↔ s = t := by
  refine ⟨fun h => String.toList_inj.1 (List.map_injective_iff.2 (fun c d hcd => ?_) h), fun h => h ▸ rfl⟩
  exact Char.toNat_inj.1 hcd

@[simp] theorem points_beq (s t : String) : (points s == points t) = (s == t) := by
  rw [Bool.eq_iff_iff, beq_iff_eq, beq_iff_eq, points_inj]

@[simp] theorem text?_points (s : String) : (Value.str (points s)).text? = some s := by
  have hvalid : (points s).all (fun n => decide n.isValidChar) = true := by
    rw [List.all_eq_true]
    intro n hn
    obtain ⟨c, -, rfl⟩ := List.mem_map.1 hn
    exact decide_eq_true c.valid
  have hback : (points s).map Char.ofNat = s.toList := by
    rw [points, List.map_map]
    exact (List.map_congr_left fun c _ => Char.ofNat_toNat c).trans (List.map_id _)
  rw [Value.text?, if_pos hvalid, hback, String.ofList_toList]

end JsonText
