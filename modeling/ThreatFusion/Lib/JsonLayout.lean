import ThreatFusion.Lib.Grouping
import ThreatFusion.Lib.JsonParse
import Mathlib.Algebra.Group.Action.Defs
import Mathlib.Algebra.Order.BigOperators.Group.List
/-
# JSON text with blanks between its tokens

A layout says which blanks stand after an opening bracket, after a comma, after a colon and before a closing
bracket. `spaced` is Python's default (`", "` and `": "`), `indented` is `indent=2`.

* `loads_renderIn`: a value is read back from its text in any layout.
* `lengthIn_obj_le`: how long the text of an object can be.
* `item_sorted`: a field of an object is read back, whatever the order of the keys.
-/
namespace JsonText

/-- Blanks by their place; the depth is that of the items, and of the bracket for `closing`. -/
structure Layout where
  opening : Nat → List Char
  comma : Nat → List Char
  colon : List Char
  closing : Nat → List Char
  opening_blank : ∀ d, ∀ c ∈ opening d, isBlank c = true
  comma_blank : ∀ d, ∀ c ∈ comma d, isBlank c = true
  colon_blank : ∀ c ∈ colon, isBlank c = true
  closing_blank : ∀ d, ∀ c ∈ closing d, isBlank c = true

/-- A new line and two blanks for each level. -/
def newline (d : Nat) : List Char := '\n' :: List.replicate (2 * d) ' '

theorem newline_blank (d : Nat) : ∀ c ∈ newline d, isBlank c = true := by
  intro c hc
  rcases List.mem_cons.1 hc with rfl | hc
  · rfl
  · rw [(List.mem_replicate.1 hc).2]
    rfl

namespace Layout

def spaced : Layout where
  opening _ := []
  comma _ := [' ']
  colon := [' ']
  closing _ := []
  opening_blank _ _ h := absurd h List.not_mem_nil
  comma_blank _ c h := by rw [List.mem_singleton.1 h]; rfl
  colon_blank c h := by rw [List.mem_singleton.1 h]; rfl
  closing_blank _ _ h := absurd h List.not_mem_nil

def indented : Layout where
  opening := newline
  comma := newline
  colon := [' ']
  closing := newline
  opening_blank := newline_blank
  comma_blank := newline_blank
  colon_blank c h := by rw [List.mem_singleton.1 h]; rfl
  closing_blank := newline_blank

end Layout

/-- The texts with a comma and `blanks` between them. -/
def joinWith (blanks : List Char) : List (List Char) → List Char
  | [] => []
  | [x] => x
  | x :: y :: rest => x ++ ',' :: (blanks ++ joinWith blanks (y :: rest))

/-- The texts between brackets; empty brackets have no blanks. -/
def bracket (L : Layout) (d : Nat) (opening closing : Char) (texts : List (List Char)) : List Char :=
  if texts.isEmpty then [opening, closing]
  else opening :: (L.opening (d + 1) ++ (joinWith (L.comma (d + 1)) texts ++ (L.closing d ++ [closing])))

mutual
def renderIn (L : Layout) (d : Nat) : Json → List Char
  | .null => "null".toList
  | .bool b => (if b then "true" else "false").toList
  | .int n => (toString n).toList
  | .float digits => digits.toList
  | .str s => quote s
  | .arr xs => bracket L d '[' ']' (renderItemsIn L (d + 1) xs)
  | .obj fields => bracket L d '\x7b' '\x7d' (renderFieldsIn L (d + 1) fields)

def renderItemsIn (L : Layout) (d : Nat) : List Json → List (List Char)
  | [] => []
  | x :: xs => renderIn L d x :: renderItemsIn L d xs

def renderFieldsIn (L : Layout) (d : Nat) : List (String × Json) → List (List Char)
  | [] => []
  | (k, v) :: rest => (quote k ++ ':' :: (L.colon ++ renderIn L d v)) :: renderFieldsIn L d rest
end

/-- The characters of the text, with the keys in order. -/
def dumpsIn (L : Layout) (v : Json) : List Char := renderIn L 0 (sortKeys v)

/-! ## Read back -/

variable (L : Layout)

attribute [local grind] joinWith renderIn renderItemsIn renderFieldsIn

theorem renderIn_starts : ∀ {j : Json} (d : Nat), Readable j → ∃ c r, renderIn L d j = c :: r ∧ Starts c
  | .null, _, _ => ⟨'n', _, by rw [renderIn]; rfl, by decide, by decide, by decide⟩
  | .bool true, _, _ => ⟨'t', _, by rw [renderIn]; rfl, by decide, by decide, by decide⟩
  | .bool false, _, _ => ⟨'f', _, by rw [renderIn]; rfl, by decide, by decide, by decide⟩
  | .int n, _, _ => by
    rw [renderIn]
    have h := (numberHead_int n []).starts
    rwa [List.append_nil] at h
  | .float digits, _, hj => by
    rw [Readable] at hj
    rw [renderIn]
    have h := (numberHead_float hj []).starts
    rwa [List.append_nil] at h
  | .str s, _, _ => ⟨'"', _, by rw [renderIn, quote], by decide, by decide, by decide⟩
  | .arr [], _, _ => ⟨'[', _, rfl, by decide, by decide, by decide⟩
  | .arr (x :: xs), _, _ => ⟨'[', _, rfl, by decide, by decide, by decide⟩
  | .obj [], _, _ => ⟨'\x7b', _, rfl, by decide, by decide, by decide⟩
  | .obj ((k, v) :: fs), _, _ => ⟨'\x7b', _, rfl, by decide, by decide, by decide⟩

theorem skipBlanks_append {blanks : List Char} (h : ∀ c ∈ blanks, isBlank c = true) {c : Char} (hc : Starts c)
    (r : List Char) : skipBlanks (blanks ++ c :: r) = c :: r := by
  rw [skipBlanks, List.dropWhile_append_of_pos h]
  exact skipBlanks_of_starts hc r

/-- A comma or a closing bracket. -/
def Ends (c : Char) : Prop := c = ',' ∨ c = ']' ∨ c = '\x7d'

theorem skipBlanks_ends {blanks : List Char} (h : ∀ c ∈ blanks, isBlank c = true) {c : Char} (hc : Ends c)
    (r : List Char) : skipBlanks (blanks ++ c :: r) = c :: r := by
  rw [skipBlanks, List.dropWhile_append_of_pos h, List.dropWhile_cons_of_neg]
  rcases hc with rfl | rfl | rfl <;> decide

theorem stops_blanks {blanks : List Char} (h : ∀ c ∈ blanks, isBlank c = true) {c : Char} (hc : Ends c)
    (r : List Char) : Stops (blanks ++ c :: r) := by
  cases blanks with
  | nil => exact stops_of hc r
  | cons b bs =>
    intro x hx
    obtain rfl : b = x := by simpa using hx
    have hblank := h b List.mem_cons_self
    simp only [isBlank, Bool.or_eq_true, beq_iff_eq] at hblank
    rcases hblank with ((rfl | rfl) | rfl) | rfl <;> decide

theorem scanKey_blanks (k : String) {blanks : List Char} (h : ∀ c ∈ blanks, isBlank c = true) {t : List Char} {c : Char}
    (hc : Starts c) : scanKey (quote k ++ ':' :: (blanks ++ c :: t)) = some (points k, c :: t) := by
  rw [quote, List.cons_append, List.append_assoc, List.singleton_append, scanKey, scanString_quote]
  have hcolon : skipBlanks (':' :: (blanks ++ c :: t)) = ':' :: (blanks ++ c :: t) :=
    skipBlanks_of_starts ⟨by decide, by decide, by decide⟩ _
  simp only [hcolon, skipBlanks_append h hc]

theorem itemsIn_start {x : Json} (hx : Readable x) (xs : List Json) (d : Nat) (blanks : List Char) :
    ∃ c r, joinWith blanks (renderItemsIn L d (x :: xs)) = c :: r ∧ Starts c := by
  obtain ⟨c, r, hr, hc⟩ := renderIn_starts L d hx
  cases xs with
  | nil => exact ⟨c, r, hr, hc⟩
  | cons y ys => exact ⟨c, _, by simp only [renderItemsIn, joinWith, hr, List.cons_append]; rfl, hc⟩

theorem fieldsIn_start (k : String) (v : Json) (fs : List (String × Json)) (d : Nat) (blanks : List Char) :
    ∃ r, joinWith blanks (renderFieldsIn L d ((k, v) :: fs)) = '"' :: r := by
  cases fs with
  | nil => exact ⟨_, rfl⟩
  | cons f fs => exact ⟨_, rfl⟩

theorem scanValue_arr_blanks {blanks : List Char} (h : ∀ c ∈ blanks, isBlank c = true) {c : Char} (hc : Starts c)
    (r : List Char) (n : Nat) :
    scanValue (n + 1) ('[' :: (blanks ++ c :: r)) = (scanItems n (c :: r)).map fun p => (.arr p.1, p.2) := by
  rw [scanValue]
  simp only [skipBlanks_append h hc]
  split
  · rename_i heq
    exact absurd (List.cons.inj heq).1 hc.2.1
  · rfl

theorem scanValue_obj_blanks {blanks : List Char} (h : ∀ c ∈ blanks, isBlank c = true) {c : Char} (hc : Starts c)
    (r : List Char) (n : Nat) :
    scanValue (n + 1) ('\x7b' :: (blanks ++ c :: r)) = (scanPairs n (c :: r)).map fun p => (.obj p.1, p.2) := by
  rw [scanValue]
  simp only [skipBlanks_append h hc]
  split
  · rename_i heq
    exact absurd (List.cons.inj heq).1 hc.2.2
  · rfl

mutual
/-- **A value is read back**, with the text that stops it. -/
theorem scanValue_renderIn : ∀ {j : Json} (d n : Nat) {rest : List Char}, Readable j →
    2 * (renderIn L d j).length ≤ n → Stops rest → scanValue n (renderIn L d j ++ rest) = some (j.value, rest)
  | .null, d, n, rest, _, hn, _ => by
    obtain ⟨m, rfl⟩ := exists_fuel (by simp [renderIn]) hn
    simp only [renderIn]
    exact scanValue_scalar (by decide) _ _
  | .bool b, d, n, rest, _, hn, _ => by
    obtain ⟨m, rfl⟩ := exists_fuel (by cases b <;> simp [renderIn]) hn
    simp only [renderIn]
    cases b
    · exact scanValue_scalar (by decide) _ _
    · exact scanValue_scalar (by decide) _ _
  | .int i, d, n, rest, _, hn, hrest => by
    obtain ⟨c, r, htext, -⟩ := renderIn_starts L (j := .int i) d trivial
    obtain ⟨m, rfl⟩ := exists_fuel (by rw [htext]; exact List.cons_ne_nil _ _) hn
    simp only [renderIn]
    rw [scanValue_number (numberHead_int i rest), scanNumber_int i hrest]
    rfl
  | .float digits, d, n, rest, hj, hn, hrest => by
    obtain ⟨c, r, htext, -⟩ := renderIn_starts L d hj
    obtain ⟨m, rfl⟩ := exists_fuel (by rw [htext]; exact List.cons_ne_nil _ _) hn
    rw [Readable] at hj
    simp only [renderIn]
    rw [scanValue_number (numberHead_float hj rest), scanNumber_float hj hrest, String.ofList_toList]
    rfl
  | .str s, d, n, rest, _, hn, _ => by
    obtain ⟨m, rfl⟩ := exists_fuel (by simp [renderIn, quote]) hn
    simp only [renderIn, quote, List.cons_append, List.append_assoc]
    rw [scanValue, List.nil_append, scanString_quote]
    rfl
  | .arr [], d, n, rest, _, hn, _ => by
    obtain ⟨m, rfl⟩ := exists_fuel (by simp [renderIn, renderItemsIn, bracket]) hn
    rfl
  | .arr (x :: xs), d, n, rest, hj, hn, _ => by
    rw [Readable, ReadableItems] at hj
    have htext : renderIn L d (.arr (x :: xs)) = '[' :: (L.opening (d + 1) ++
        (joinWith (L.comma (d + 1)) (renderItemsIn L (d + 1) (x :: xs)) ++ (L.closing d ++ [']']))) := by
      rw [renderIn, bracket, renderItemsIn, if_neg (by simp)]
    rw [htext, List.length_cons, List.length_append, List.length_append] at hn
    obtain ⟨m, rfl⟩ : ∃ m, n = m + 1 := ⟨n - 1, by omega⟩
    have hitems := scanItems_renderIn (d + 1) m (L.comma (d + 1)) (L.closing d) rest (L.comma_blank _) (L.closing_blank _)
      hj.1 hj.2 (by omega)
    obtain ⟨c, r, hstart, hc⟩ := itemsIn_start L hj.1 xs (d + 1) (L.comma (d + 1))
    rw [htext]
    simp only [List.cons_append, List.append_assoc, List.nil_append]
    rw [hstart, List.cons_append] at hitems ⊢
    rw [scanValue_arr_blanks (L.opening_blank _) hc, hitems]
    rfl
  | .obj [], d, n, rest, _, hn, _ => by
    obtain ⟨m, rfl⟩ := exists_fuel (by simp [renderIn, renderFieldsIn, bracket]) hn
    rfl
  | .obj ((k, v) :: fs), d, n, rest, hj, hn, _ => by
    rw [Readable, ReadableFields] at hj
    have htext : renderIn L d (.obj ((k, v) :: fs)) = '\x7b' :: (L.opening (d + 1) ++
        (joinWith (L.comma (d + 1)) (renderFieldsIn L (d + 1) ((k, v) :: fs)) ++ (L.closing d ++ ['\x7d']))) := by
      rw [renderIn, bracket, renderFieldsIn, if_neg (by simp)]
    rw [htext, List.length_cons, List.length_append, List.length_append] at hn
    obtain ⟨m, rfl⟩ : ∃ m, n = m + 1 := ⟨n - 1, by omega⟩
    have hpairs := scanPairs_renderIn k (d + 1) m (L.comma (d + 1)) (L.closing d) rest (L.comma_blank _)
      (L.closing_blank _) hj.1 hj.2 (by omega)
    obtain ⟨r, hstart⟩ := fieldsIn_start L k v fs (d + 1) (L.comma (d + 1))
    rw [htext]
    simp only [List.cons_append, List.append_assoc, List.nil_append]
    rw [hstart, List.cons_append] at hpairs ⊢
    rw [scanValue_obj_blanks (L.opening_blank _) starts_quote, hpairs]
    rfl
termination_by _ _ n => n

theorem scanItems_renderIn : ∀ {x : Json} {xs : List Json} (d n : Nat) (comma closing rest : List Char),
    (∀ c ∈ comma, isBlank c = true) → (∀ c ∈ closing, isBlank c = true) → Readable x → ReadableItems xs →
    2 * (joinWith comma (renderItemsIn L d (x :: xs))).length + 1 ≤ n →
    scanItems n (joinWith comma (renderItemsIn L d (x :: xs)) ++ (closing ++ ']' :: rest)) =
      some (itemValues (x :: xs), rest)
  | x, [], d, n, comma, closing, rest, _, hclosing, hx, _, hn => by
    obtain ⟨m, rfl⟩ : ∃ m, n = m + 1 := ⟨n - 1, by omega⟩
    simp only [renderItemsIn, joinWith] at hn ⊢
    rw [scanItems, scanValue_renderIn d m hx (by omega) (stops_blanks hclosing (.inr (.inl rfl)) rest)]
    simp only [skipBlanks_ends hclosing (.inr (.inl rfl))]
    rfl
  | x, y :: ys, d, n, comma, closing, rest, hcomma, hclosing, hx, hxs, hn => by
    obtain ⟨m, rfl⟩ : ∃ m, n = m + 1 := ⟨n - 1, by omega⟩
    rw [ReadableItems] at hxs
    have htext : joinWith comma (renderItemsIn L d (x :: y :: ys)) =
        renderIn L d x ++ ',' :: (comma ++ joinWith comma (renderItemsIn L d (y :: ys))) := rfl
    rw [htext, List.length_append, List.length_cons, List.length_append] at hn
    have hrec := scanItems_renderIn d m comma closing rest hcomma hclosing hxs.1 hxs.2 (by omega)
    obtain ⟨c, r, hnext, hc⟩ := itemsIn_start L hxs.1 ys d comma
    rw [htext, List.append_assoc, List.cons_append, List.append_assoc, scanItems,
      scanValue_renderIn d m hx (by omega) (stops_of (.inl rfl) _)]
    rw [hnext, List.cons_append] at hrec ⊢
    have hskip : skipBlanks (',' :: (comma ++ c :: (r ++ (closing ++ ']' :: rest)))) =
        ',' :: (comma ++ c :: (r ++ (closing ++ ']' :: rest))) :=
      skipBlanks_of_starts ⟨by decide, by decide, by decide⟩ _
    simp only [hskip, skipBlanks_append hcomma hc, hrec]
    rfl
termination_by _ _ _ n => n

theorem scanPairs_renderIn : ∀ (k : String) {v : Json} {fs : List (String × Json)} (d n : Nat)
    (comma closing rest : List Char), (∀ c ∈ comma, isBlank c = true) → (∀ c ∈ closing, isBlank c = true) →
    Readable v → ReadableFields fs → 2 * (joinWith comma (renderFieldsIn L d ((k, v) :: fs))).length + 1 ≤ n →
    scanPairs n (joinWith comma (renderFieldsIn L d ((k, v) :: fs)) ++ (closing ++ '\x7d' :: rest)) =
      some (fieldValues ((k, v) :: fs), rest)
  | k, v, [], d, n, comma, closing, rest, _, hclosing, hv, _, hn => by
    obtain ⟨m, rfl⟩ : ∃ m, n = m + 1 := ⟨n - 1, by omega⟩
    simp only [renderFieldsIn, joinWith, List.length_append, List.length_cons] at hn ⊢
    have hvalue := scanValue_renderIn d m hv (by omega) (stops_blanks hclosing (.inr (.inr rfl)) rest)
    obtain ⟨c, r, htext, hc⟩ := renderIn_starts L d hv
    rw [htext, List.cons_append] at hvalue
    rw [htext, List.append_assoc, List.cons_append, List.append_assoc, List.cons_append, scanPairs,
      scanKey_blanks k L.colon_blank hc]
    simp only [hvalue, skipBlanks_ends hclosing (.inr (.inr rfl))]
    rfl
  | k, v, (l, w) :: fs, d, n, comma, closing, rest, hcomma, hclosing, hv, hfs, hn => by
    obtain ⟨m, rfl⟩ : ∃ m, n = m + 1 := ⟨n - 1, by omega⟩
    rw [ReadableFields] at hfs
    have htext : joinWith comma (renderFieldsIn L d ((k, v) :: (l, w) :: fs)) =
        (quote k ++ ':' :: (L.colon ++ renderIn L d v)) ++
          ',' :: (comma ++ joinWith comma (renderFieldsIn L d ((l, w) :: fs))) := rfl
    rw [htext, List.length_append, List.length_append, List.length_cons, List.length_append, List.length_cons,
      List.length_append] at hn
    have hrec := scanPairs_renderIn l d m comma closing rest hcomma hclosing hfs.1 hfs.2 (by omega)
    obtain ⟨r, hnext⟩ := fieldsIn_start L l w fs d comma
    rw [hnext, List.cons_append] at hrec
    have hvalue := scanValue_renderIn d m hv (by omega)
      (stops_of (.inl rfl) (comma ++ '"' :: (r ++ (closing ++ '\x7d' :: rest))))
    obtain ⟨c, t, hv', hc⟩ := renderIn_starts L d hv
    rw [hv', List.cons_append] at hvalue
    rw [htext, hnext, hv']
    simp only [List.append_assoc, List.cons_append]
    rw [scanPairs, scanKey_blanks k L.colon_blank hc]
    have hskip : skipBlanks (',' :: (comma ++ '"' :: (r ++ (closing ++ '\x7d' :: rest)))) =
        ',' :: (comma ++ '"' :: (r ++ (closing ++ '\x7d' :: rest))) :=
      skipBlanks_of_starts ⟨by decide, by decide, by decide⟩ _
    simp only [hvalue, hskip, skipBlanks_append hcomma starts_quote, hrec]
    rfl
termination_by _ _ _ _ n => n
end

/-- **A whole text is read back**, with blanks after it. -/
theorem loads_renderIn {j : Json} (hj : Readable j) (d : Nat) (blanks : List Char) (h : ∀ c ∈ blanks, isBlank c = true) :
    loads (renderIn L d j ++ blanks) = some j.value := by
  have hstops : Stops blanks := by
    intro c hc
    have hblank := h c (List.mem_of_mem_head? hc)
    simp only [isBlank, Bool.or_eq_true, beq_iff_eq] at hblank
    rcases hblank with ((rfl | rfl) | rfl) | rfl <;> decide
  have hread := scanValue_renderIn L d (2 * (renderIn L d j ++ blanks).length + 1) hj
    (by rw [List.length_append]; omega) hstops
  obtain ⟨c, r, htext, hc⟩ := renderIn_starts L d hj
  have hskip : skipBlanks (renderIn L d j ++ blanks) = renderIn L d j ++ blanks := by
    rw [htext, List.cons_append, skipBlanks_of_starts hc]
  rw [loads, hskip, hread]
  simp only [skipBlanks_blank h, if_true]

/-! ## Lengths -/

theorem renderItemsIn_eq_map (d : Nat) : ∀ xs : List Json, renderItemsIn L d xs = xs.map (renderIn L d)
  | [] => by simp [renderItemsIn]
  | x :: xs => by simp [renderItemsIn, renderItemsIn_eq_map d xs]

theorem renderFieldsIn_eq_map (d : Nat) : ∀ fs : List (String × Json),
    renderFieldsIn L d fs = fs.map fun f => quote f.1 ++ ':' :: (L.colon ++ renderIn L d f.2)
  | [] => by simp [renderFieldsIn]
  | (k, v) :: fs => by simp [renderFieldsIn, renderFieldsIn_eq_map d fs]

theorem length_joinWith (blanks : List Char) : ∀ xs : List (List Char),
    (joinWith blanks xs).length = (xs.map List.length).sum + (xs.length - 1) * (1 + blanks.length)
  | [] => by simp [joinWith]
  | [x] => by simp [joinWith]
  | x :: y :: rest => by
    have ih := length_joinWith blanks (y :: rest)
    have hcount : (x :: y :: rest).length - 1 = ((y :: rest).length - 1) + 1 := by simp
    rw [hcount, Nat.add_mul, Nat.one_mul]
    simp only [joinWith, List.length_append, List.length_cons, ih, List.map_cons, List.sum_cons]
    omega

theorem length_bracket (d : Nat) (o c : Char) (texts : List (List Char)) :
    (bracket L d o c texts).length ≤ 2 + (L.opening (d + 1)).length + (L.closing d).length +
      (texts.map List.length).sum + (texts.length - 1) * (1 + (L.comma (d + 1)).length) := by
  unfold bracket
  split
  · simp only [List.length_cons, List.length_nil]
    omega
  · simp only [List.length_cons, List.length_append, length_joinWith, List.length_nil]
    omega

/-- The length of the text of a value at some depth, its keys in order. -/
def lengthIn (d : Nat) (v : Json) : Nat := (renderIn L d (sortKeys v)).length

theorem lengthIn_obj_le (d : Nat) (fs : List (String × Json)) :
    lengthIn L d (.obj fs) ≤ 2 + (L.opening (d + 1)).length + (L.closing d).length +
      (fs.map fun f => (quote f.1).length + 1 + L.colon.length + lengthIn L (d + 1) f.2).sum +
      (fs.length - 1) * (1 + (L.comma (d + 1)).length) := by
  have hperm := List.perm_insertionSort (fun a b : String × Json => a.1 ≤ b.1) (sortFields fs)
  have hlength : ((sortFields fs).insertionSort fun a b => a.1 ≤ b.1).length = fs.length := by
    rw [hperm.length_eq, sortFields_eq_map, List.length_map]
  have hpart : List.length ∘ (fun f : String × Json => quote f.1 ++ ':' :: (L.colon ++ renderIn L (d + 1) f.2)) =
      fun f => (quote f.1).length + 1 + L.colon.length + (renderIn L (d + 1) f.2).length := by
    funext f
    simp only [Function.comp_apply, List.length_append, List.length_cons]
    omega
  have hsum := (hperm.map fun f => (quote f.1).length + 1 + L.colon.length + (renderIn L (d + 1) f.2).length).sum_nat
  rw [sortFields_eq_map, List.map_map] at hsum
  have h := length_bracket L d '\x7b' '\x7d'
    (renderFieldsIn L (d + 1) ((sortFields fs).insertionSort fun a b => a.1 ≤ b.1))
  rw [renderFieldsIn_eq_map, List.map_map, List.length_map, hlength, hpart, sortFields_eq_map, hsum] at h
  rw [lengthIn, sortKeys, renderIn, renderFieldsIn_eq_map, sortFields_eq_map]
  exact h

/-- An object at some depth, when each field fits in `k` characters. -/
theorem lengthIn_obj_le_of_fields {d k : Nat} {fs : List (String × Json)}
    (h : ∀ f ∈ fs, (quote f.1).length + 1 + L.colon.length + lengthIn L (d + 1) f.2 ≤ k) :
    lengthIn L d (.obj fs) ≤ 2 + (L.opening (d + 1)).length + (L.closing d).length +
      fs.length * (k + 1 + (L.comma (d + 1)).length) := by
  have hsum : (fs.map fun f => (quote f.1).length + 1 + L.colon.length + lengthIn L (d + 1) f.2).sum ≤ fs.length * k :=
    sum_map_le h
  have hcommas := Nat.mul_le_mul_right (1 + (L.comma (d + 1)).length) (Nat.sub_le fs.length 1)
  refine (lengthIn_obj_le L d fs).trans ?_
  have hsplit : fs.length * (k + 1 + (L.comma (d + 1)).length) =
      fs.length * k + fs.length * (1 + (L.comma (d + 1)).length) := by rw [Nat.add_assoc, Nat.mul_add]
  rw [hsplit]
  generalize (fs.length - 1) * _ = commas at *
  omega

/-- An array at some depth, when each item fits in `k` characters. -/
theorem lengthIn_arr_le_of_items {d k : Nat} {xs : List Json} (h : ∀ x ∈ xs, lengthIn L (d + 1) x ≤ k) :
    lengthIn L d (.arr xs) ≤ 2 + (L.opening (d + 1)).length + (L.closing d).length +
      xs.length * (k + 1 + (L.comma (d + 1)).length) := by
  have hsum : (xs.map (lengthIn L (d + 1))).sum ≤ xs.length * k := sum_map_le h
  have hitems : List.length ∘ renderIn L (d + 1) ∘ sortKeys = lengthIn L (d + 1) := rfl
  have hle := length_bracket L d '[' ']' (renderItemsIn L (d + 1) (sortItems xs))
  rw [renderItemsIn_eq_map, sortItems_eq_map, List.map_map, List.map_map, List.length_map, hitems] at hle
  have hcommas := Nat.mul_le_mul_right (1 + (L.comma (d + 1)).length) (Nat.sub_le xs.length 1)
  have hsplit : xs.length * (k + 1 + (L.comma (d + 1)).length) =
      xs.length * k + xs.length * (1 + (L.comma (d + 1)).length) := by rw [Nat.add_assoc, Nat.mul_add]
  rw [lengthIn, sortKeys, renderIn, renderItemsIn_eq_map, sortItems_eq_map, List.map_map, hsplit]
  generalize (xs.length - 1) * _ = commas at *
  omega

theorem lengthIn_str {s : String} (h : s.toList.all isPlain = true) (d : Nat) :
    lengthIn L d (.str s) = s.length + 2 := by
  simp [lengthIn, sortKeys, renderIn, length_quote h]

theorem lengthIn_null (d : Nat) : lengthIn L d .null = 4 := by
  simp [lengthIn, sortKeys, renderIn]

theorem lengthIn_nat_le {n k : Nat} (hk : 0 < k) (h : n < 10 ^ k) (d : Nat) : lengthIn L d (.int n) ≤ k := by
  obtain ⟨s, hs, htext, hsign⟩ := int_text n
  have hs : s = [] := hsign.2 (Int.natCast_nonneg n)
  have hlength : lengthIn L d (.int n) = (Nat.toDigits 10 n).length := by
    simp only [lengthIn, sortKeys, renderIn, htext, hs, List.nil_append, Int.natAbs_natCast]
  rw [hlength]
  exact (Nat.length_toDigits_le_iff (by decide) hk).2 h

theorem textLength_nat_le {n k : Nat} (hk : 0 < k) (h : n < 10 ^ k) : textLength (.int n) ≤ k := by
  have hcompact : textLength (.int n) = lengthIn .indented 0 (.int n) := by
    simp [textLength, dumps, sortKeys, render, lengthIn, renderIn]
  rw [hcompact]
  exact lengthIn_nat_le .indented hk h 0

/-- An object in `indent=2`, when its keys are plain and its keys and values are short. -/
theorem lengthIn_indented_obj_le {d a b : Nat} {fs : List (String × Json)}
    (h : ∀ f ∈ fs, (f.1.toList.all isPlain = true ∧ f.1.length ≤ a) ∧ lengthIn .indented (d + 1) f.2 ≤ b) :
    lengthIn .indented d (.obj fs) ≤ 4 * d + 6 + fs.length * (a + b + 2 * d + 8) := by
  have hfields : ∀ f ∈ fs,
      (quote f.1).length + 1 + Layout.indented.colon.length + lengthIn .indented (d + 1) f.2 ≤ a + b + 4 := by
    intro f hf
    obtain ⟨⟨hplain, hkey⟩, hvalue⟩ := h f hf
    have hcolon : Layout.indented.colon.length = 1 := rfl
    rw [length_quote hplain, hcolon]
    omega
  have hle := lengthIn_obj_le_of_fields Layout.indented hfields
  have hline : ∀ n, (newline n).length = 2 * n + 1 := fun n => by simp [newline]
  have hopening : (Layout.indented.opening (d + 1)).length = 2 * (d + 1) + 1 := hline (d + 1)
  have hclosing : (Layout.indented.closing d).length = 2 * d + 1 := hline d
  have hcomma : (Layout.indented.comma (d + 1)).length = 2 * (d + 1) + 1 := hline (d + 1)
  have hwidth : a + b + 4 + 1 + (2 * (d + 1) + 1) = a + b + 2 * d + 8 := by omega
  rw [hopening, hclosing, hcomma, hwidth] at hle
  omega

/-! ## Objects that were read back -/

/-- `dict(pairs)[key]`: of a repeated key, the last value. -/
def item (pairs : List (List Nat × Value)) (key : String) : Option Value := (Grouping.dictOf pairs).lookup (points key)

/-- The fields in the order in which they are written. -/
def sortedFields (fs : List (String × Json)) : List (String × Json) :=
  (sortFields fs).insertionSort fun a b => a.1 ≤ b.1

theorem sortedFields_perm (fs : List (String × Json)) :
    (sortedFields fs).Perm (fs.map fun f => (f.1, sortKeys f.2)) := by
  rw [sortedFields, ← sortFields_eq_map]
  exact List.perm_insertionSort _ _

theorem sortKeys_obj (fs : List (String × Json)) : sortKeys (.obj fs) = .obj (sortedFields fs) := by
  rw [sortKeys, sortedFields]

theorem fieldValues_eq_map : ∀ fs : List (String × Json), fieldValues fs = fs.map fun f => (points f.1, f.2.value)
  | [] => rfl
  | (k, v) :: fs => by rw [fieldValues, fieldValues_eq_map fs, List.map_cons]

theorem lookup_iff_mem {α β : Type} [BEq α] [LawfulBEq α] {l : List (α × β)} (h : (l.map Prod.fst).Nodup) {k : α} {v : β} :
    l.lookup k = some v ↔ (k, v) ∈ l := by
  induction l with
  | nil => simp
  | cons e rest ih =>
    obtain ⟨k', v'⟩ := e
    rw [List.map_cons, List.nodup_cons] at h
    by_cases hk : k = k'
    · subst hk
      rw [List.lookup_cons, beq_self_eq_true, Option.some_inj]
      refine ⟨fun hv => hv ▸ List.mem_cons_self, fun hmem => ?_⟩
      rcases List.mem_cons.1 hmem with heq | hmem
      · exact (Prod.mk.inj heq).2.symm
      · exact absurd (List.mem_map_of_mem hmem) h.1
    · rw [List.lookup_cons, beq_eq_false_iff_ne.2 hk]
      refine (ih h.2).trans ⟨List.mem_cons_of_mem _, fun hmem => (List.mem_cons.1 hmem).resolve_left fun heq => hk ?_⟩
      exact (Prod.mk.inj heq).1

theorem lookup_perm {α β : Type} [BEq α] [LawfulBEq α] {l l' : List (α × β)} (hperm : l.Perm l') (h : (l.map Prod.fst).Nodup)
    (k : α) : l.lookup k = l'.lookup k := by
  have h' : (l'.map Prod.fst).Nodup := (hperm.map Prod.fst).nodup_iff.1 h
  refine Option.ext fun v => ?_
  rw [lookup_iff_mem h, lookup_iff_mem h', hperm.mem_iff]

theorem lookup_map_value {β γ : Type} (f : β → γ) (l : List (String × β)) (k : String) :
    (l.map fun e => (points e.1, f e.2)).lookup (points k) = (l.lookup k).map f := by
  induction l with
  | nil => rfl
  | cons e rest ih =>
    rw [List.map_cons, List.lookup_cons, List.lookup_cons, points_beq]
    cases k == e.1
    · exact ih
    · rfl

theorem points_nodup {keys : List String} (h : keys.Nodup) : (keys.map points).Nodup :=
  h.map fun _ _ hab => points_inj.1 hab

theorem fieldValues_sorted_keys {fs : List (String × Json)} (hkeys : (fs.map Prod.fst).Nodup) :
    ((fieldValues (sortedFields fs)).map Prod.fst).Nodup := by
  have hperm : ((fieldValues (sortedFields fs)).map Prod.fst).Perm ((fs.map Prod.fst).map points) := by
    rw [fieldValues_eq_map, List.map_map]
    refine ((sortedFields_perm fs).map _).trans (List.Perm.of_eq ?_)
    rw [List.map_map, List.map_map]
    rfl
  exact hperm.nodup_iff.2 (points_nodup hkeys)

theorem dictOf_sorted {fs : List (String × Json)} (hkeys : (fs.map Prod.fst).Nodup) :
    Grouping.dictOf (fieldValues (sortedFields fs)) = fieldValues (sortedFields fs) :=
  Grouping.dictOf_of_nodup (fieldValues_sorted_keys hkeys)

/-- **A field is read back**, whatever the order of the keys. -/
theorem item_sorted {fs : List (String × Json)} (hkeys : (fs.map Prod.fst).Nodup) (key : String) :
    item (fieldValues (sortedFields fs)) key = (fs.lookup key).map fun v => (sortKeys v).value := by
  have hperm : (fieldValues (sortedFields fs)).Perm (fs.map fun f => (points f.1, (sortKeys f.2).value)) := by
    rw [fieldValues_eq_map]
    refine ((sortedFields_perm fs).map _).trans (List.Perm.of_eq ?_)
    rw [List.map_map]
    rfl
  rw [item, dictOf_sorted hkeys, lookup_perm hperm (fieldValues_sorted_keys hkeys),
    lookup_map_value fun v => (sortKeys v).value]

theorem shortPairs_iff : ∀ {ps : List (List Nat × Value)}, shortPairs ps = true ↔ ∀ p ∈ ps, p.2.shortInts = true
  | [] => by simp [shortPairs]
  | (k, v) :: rest => by
    rw [shortPairs, Bool.and_eq_true, shortPairs_iff, List.forall_mem_cons]

/-- An object has no long number when no field has one. -/
theorem shortInts_obj {fs : List (String × Json)} (h : ∀ f ∈ fs, (sortKeys f.2).value.shortInts = true) :
    (sortKeys (.obj fs)).value.shortInts = true := by
  rw [sortKeys_obj, Json.value, Value.shortInts, shortPairs_iff]
  intro p hp
  rw [fieldValues_eq_map, List.mem_map] at hp
  obtain ⟨f, hf, rfl⟩ := hp
  rw [(sortedFields_perm fs).mem_iff, List.mem_map] at hf
  obtain ⟨g, hg, rfl⟩ := hf
  exact h g hg

theorem shortInts_nat {n k : Nat} (hk : 0 < k) (hsmall : k ≤ MAX_INT_DIGITS) (h : n < 10 ^ k) :
    (sortKeys (.int n)).value.shortInts = true := by
  have hlength := (Nat.length_toDigits_le_iff (b := 10) (by decide) hk).2 h
  simp only [sortKeys, Json.value, Value.shortInts, Int.natAbs_natCast, decide_eq_true_eq]
  omega

theorem shortInts_str (s : String) : (sortKeys (.str s)).value.shortInts = true := by
  simp [sortKeys, Json.value, Value.shortInts]

theorem readable_sorted {fs : List (String × Json)} (h : ∀ f ∈ fs, Readable (sortKeys f.2)) :
    Readable (sortKeys (.obj fs)) := by
  rw [sortKeys_obj, Readable]
  have hall : ∀ {gs : List (String × Json)}, (∀ g ∈ gs, Readable g.2) → ReadableFields gs := by
    intro gs
    induction gs with
    | nil => exact fun _ => trivial
    | cons g rest ih =>
      intro hg
      rw [ReadableFields]
      exact ⟨hg g List.mem_cons_self, ih fun x hx => hg x (List.mem_cons_of_mem _ hx)⟩
  refine hall fun g hg => ?_
  rw [(sortedFields_perm fs).mem_iff, List.mem_map] at hg
  obtain ⟨f, hf, rfl⟩ := hg
  exact h f hf

end JsonText
