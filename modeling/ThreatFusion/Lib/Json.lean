import Mathlib.Algebra.GroupWithZero.Nat
import Mathlib.Data.List.Sort
import Mathlib.Data.String.Basic
/-
# Compact ASCII JSON text with sorted keys

`dumps` is the text that a canonical JSON writer gives a value: no blanks, object keys in order,
every character outside printable ASCII escaped (a surrogate pair beyond the first plane).

* `textLength_obj`, `textLength_arr`, `textLength_str`: how long the text is, part by part (sorting
  the keys moves text and changes no length); `textLength_obj_le` and `textLength_arr_le` bound it.
-/
namespace JsonText

inductive Json where
  | null
  | bool (b : Bool)
  | int (n : Int)
  /-- A float, by the digits that are written for it. -/
  | float (digits : String)
  | str (s : String)
  | arr (xs : List Json)
  | obj (fields : List (String × Json))

def hexDigit (d : Nat) : Char := Char.ofNat (if d < 10 then 48 + d else 87 + d)

/-- `\uXXXX`. -/
def unicodeEscape (n : Nat) : List Char :=
  ['\\', 'u', hexDigit (n / 4096 % 16), hexDigit (n / 256 % 16), hexDigit (n / 16 % 16), hexDigit (n % 16)]

/-- Printable ASCII, neither quote nor backslash: stands for itself. -/
def isPlain (c : Char) : Bool := 32 ≤ c.toNat && c.toNat ≤ 126 && c != '"' && c != '\\'

def escape (c : Char) : List Char :=
  if isPlain c then [c]
  else if c = '"' then ['\\', '"']
  else if c = '\\' then ['\\', '\\']
  else if c = '\n' then ['\\', 'n']
  else if c = '\r' then ['\\', 'r']
  else if c = '\t' then ['\\', 't']
  else if c.toNat = 12 then ['\\', 'f']
  else if c.toNat = 8 then ['\\', 'b']
  else if c.toNat < 65536 then unicodeEscape c.toNat
  else unicodeEscape (55296 + (c.toNat - 65536) / 1024) ++ unicodeEscape (56320 + (c.toNat - 65536) % 1024)

def quote (s : String) : List Char := '"' :: (s.toList.flatMap escape ++ ['"'])

def joinComma : List (List Char) → List Char
  | [] => []
  | [x] => x
  | x :: y :: rest => x ++ ',' :: joinComma (y :: rest)

mutual
def render : Json → List Char
  | .null => "null".toList
  | .bool b => (if b then "true" else "false").toList
  | .int n => (toString n).toList
  | .float digits => digits.toList
  | .str s => quote s
  | .arr xs => '[' :: (joinComma (renderItems xs) ++ [']'])
  | .obj fields => '{' :: (joinComma (renderFields fields) ++ ['}'])

def renderItems : List Json → List (List Char)
  | [] => []
  | x :: xs => render x :: renderItems xs

def renderFields : List (String × Json) → List (List Char)
  | [] => []
  | (k, v) :: rest => (quote k ++ ':' :: render v) :: renderFields rest
end

mutual
def sortKeys : Json → Json
  | .arr xs => .arr (sortItems xs)
  | .obj fields => .obj ((sortFields fields).insertionSort fun a b => a.1 ≤ b.1)
  | v => v

def sortItems : List Json → List Json
  | [] => []
  | x :: xs => sortKeys x :: sortItems xs

def sortFields : List (String × Json) → List (String × Json)
  | [] => []
  | (k, v) :: rest => (k, sortKeys v) :: sortFields rest
end

/-- The characters of the text. -/
def dumps (v : Json) : List Char := render (sortKeys v)

attribute [local grind] joinComma render renderItems renderFields sortKeys sortItems sortFields

/-! ## Lengths -/

theorem renderItems_eq_map : ∀ xs : List Json, renderItems xs = xs.map render
  | [] => by simp [renderItems]
  | x :: xs => by simp [renderItems, renderItems_eq_map xs]

theorem sortItems_eq_map : ∀ xs : List Json, sortItems xs = xs.map sortKeys
  | [] => by simp [sortItems]
  | x :: xs => by simp [sortItems, sortItems_eq_map xs]

theorem length_joinComma : ∀ xs : List (List Char),
    (joinComma xs).length = (xs.map List.length).sum + (xs.length - 1)
  | [] => rfl
  | [x] => by simp [joinComma]
  | x :: y :: rest => by
    have ih := length_joinComma (y :: rest)
    simp only [joinComma, List.length_append, List.length_cons, ih, List.map_cons, List.sum_cons]
    omega

theorem renderFields_eq_map : ∀ fs : List (String × Json),
    renderFields fs = fs.map fun f => quote f.1 ++ ':' :: render f.2
  | [] => by simp [renderFields]
  | (k, v) :: fs => by simp [renderFields, renderFields_eq_map fs]

theorem sortFields_eq_map : ∀ fs : List (String × Json),
    sortFields fs = fs.map fun f => (f.1, sortKeys f.2)
  | [] => by simp [sortFields]
  | (k, v) :: fs => by simp [sortFields, sortFields_eq_map fs]

def textLength (v : Json) : Nat := (dumps v).length

@[simp] theorem textLength_null : textLength .null = 4 := by
  simp [textLength, dumps, sortKeys, render]

@[simp] theorem textLength_float (digits : String) : textLength (.float digits) = digits.length := by
  simp [textLength, dumps, sortKeys, render, String.length_toList]

theorem textLength_arr (xs : List Json) :
    textLength (.arr xs) = 2 + (xs.map textLength).sum + (xs.length - 1) := by
  have hitems : (sortItems xs).map (List.length ∘ render) = xs.map textLength := by
    rw [sortItems_eq_map, List.map_map]
    rfl
  have hlen : (sortItems xs).length = xs.length := by simp [sortItems_eq_map]
  rw [textLength, dumps, sortKeys, render, List.length_cons, List.length_append, length_joinComma,
    renderItems_eq_map, List.map_map, List.length_map, hitems, hlen, List.length_singleton]
  omega

/-- The text of one field: its quoted key, a colon, its value. -/
theorem textLength_obj (fs : List (String × Json)) :
    textLength (.obj fs) =
      2 + (fs.map fun f => (quote f.1).length + 1 + textLength f.2).sum + (fs.length - 1) := by
  have hperm := List.perm_insertionSort (fun a b : String × Json => a.1 ≤ b.1) (sortFields fs)
  have hpart : List.length ∘ (fun f : String × Json => quote f.1 ++ ':' :: render f.2) =
      fun f => (quote f.1).length + 1 + (render f.2).length := by
    funext f
    simp only [Function.comp_apply, List.length_append, List.length_cons]
    omega
  have hsum := (hperm.map fun f => (quote f.1).length + 1 + (render f.2).length).sum_nat
  rw [sortFields_eq_map, List.map_map] at hsum
  have hlen : ((sortFields fs).insertionSort fun a b => a.1 ≤ b.1).length = fs.length := by
    rw [hperm.length_eq, sortFields_eq_map, List.length_map]
  rw [textLength, dumps, sortKeys, render, List.length_cons, List.length_append, length_joinComma,
    renderFields_eq_map, List.map_map, List.length_map, hlen, hpart, sortFields_eq_map, hsum,
    List.length_singleton]
  simp only [Function.comp_def, textLength, dumps]
  omega

theorem length_quote {s : String} (h : s.toList.all isPlain = true) : (quote s).length = s.length + 2 := by
  have key : s.toList.flatMap escape = s.toList := by
    rw [List.flatMap_congr (g := fun c => [c])]
    · simp
    · intro c hc
      rw [escape, if_pos (List.all_eq_true.1 h c hc)]
  simp [quote, key, String.length_toList]

/-- A literal unifies with the list of its characters, so this evaluates on a list. -/
theorem length_quote_ofList {cs : List Char} (h : cs.all isPlain = true) :
    (quote (String.ofList cs)).length = cs.length + 2 := by
  rw [length_quote (by rwa [String.toList_ofList]), String.length_ofList]

theorem textLength_str {s : String} (h : s.toList.all isPlain = true) :
    textLength (.str s) = s.length + 2 := by
  simp [textLength, dumps, sortKeys, render, length_quote h]

theorem textLength_quote (s : String) : textLength (.str s) = (quote s).length := by
  simp [textLength, dumps, sortKeys, render]

theorem textLength_ofList {cs : List Char} (h : cs.all isPlain = true) :
    textLength (.str (String.ofList cs)) = cs.length + 2 := by
  rw [textLength_quote, length_quote_ofList h]

theorem length_quote_append (s t : String) : (quote (s ++ t)).length + 2 = (quote s).length + (quote t).length := by
  simp only [quote, String.toList_append, List.flatMap_append, List.length_cons, List.length_append, List.length_nil]
  omega

/-- The keys of an object, each with its colon and a comma. -/
def keysLength (keys : List String) : Nat := (keys.map fun k => (quote k).length + 2).sum

theorem textLength_obj_le (fs : List (String × Json)) :
    textLength (.obj fs) ≤ 2 + keysLength (fs.map Prod.fst) + (fs.map fun f => textLength f.2).sum := by
  have hsplit : ∀ gs : List (String × Json), (gs.map fun f => (quote f.1).length + 1 + textLength f.2).sum + gs.length =
      keysLength (gs.map Prod.fst) + (gs.map fun f => textLength f.2).sum := by
    intro gs
    induction gs with
    | nil => rfl
    | cons g gs ih =>
      simp only [keysLength, List.map_cons, List.sum_cons, List.length_cons] at ih ⊢
      omega
  have hfields := hsplit fs
  rw [textLength_obj]
  omega

theorem textLength_obj_append_le (fs gs : List (String × Json)) :
    textLength (.obj (fs ++ gs)) ≤ textLength (.obj fs) + textLength (.obj gs) := by
  rw [textLength_obj, textLength_obj, textLength_obj, List.map_append, List.sum_append, List.length_append]
  omega

theorem sum_map_le {α : Type} {f : α → Nat} {xs : List α} {k : Nat} (h : ∀ x ∈ xs, f x ≤ k) :
    (xs.map f).sum ≤ xs.length * k := by
  induction xs with
  | nil => exact Nat.zero_le _
  | cons x xs ih =>
    have hrest := ih fun y hy => h y (List.mem_cons_of_mem _ hy)
    have hfirst := h x List.mem_cons_self
    rw [List.map_cons, List.sum_cons, List.length_cons, Nat.succ_mul]
    omega

theorem textLength_arr_le {xs : List Json} {k : Nat} (h : ∀ x ∈ xs, textLength x ≤ k) :
    textLength (.arr xs) ≤ 2 + xs.length * (k + 1) := by
  have hsum := sum_map_le h
  rw [textLength_arr, Nat.mul_succ]
  omega

end JsonText
