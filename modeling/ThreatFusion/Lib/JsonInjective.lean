import ThreatFusion.Lib.Json
import Mathlib.Data.List.Nodup
import Std.Data.String.ToInt
/-
# The text determines the value

A quoted string can be read back one character at a time (`unescape_escape`), so it ends where the next
unescaped quote stands (`quote_append_inj`). A scalar is followed by a comma or a brace in an object, and
that is enough to find its end (`render_append_inj`). Objects of scalars with one text therefore have the
same fields up to order (`dumps_obj_perm`), and are equal over one list of keys (`dumps_obj_inj`).
-/
namespace JsonText

/-! ## Reading one character back -/

def hexValue (c : Char) : Nat := if c.toNat < 58 then c.toNat - 48 else c.toNat - 87

theorem hexValue_hexDigit : ∀ {d : Nat}, d < 16 → hexValue (hexDigit d) = d := by
  have key : ∀ d < 16, hexValue (hexDigit d) = d := by decide
  exact fun {d} => key d

/-- Four hexadecimal digits. -/
def readUnit : List Char → Option (Nat × List Char)
  | a :: b :: c :: d :: rest =>
    some (hexValue a * 4096 + hexValue b * 256 + hexValue c * 16 + hexValue d, rest)
  | _ => none

/-- The character after a backslash, other than `u`. -/
def shortEscape (e : Char) : Char :=
  if e = 'n' then '\n' else if e = 'r' then '\r' else if e = 't' then '\t'
  else if e = 'f' then Char.ofNat 12 else if e = 'b' then Char.ofNat 8 else e

/-- What `\u` and the text after it stand for: one unit, or a surrogate pair. -/
def readUnicode (text : List Char) : Option (Char × List Char) :=
  match readUnit text with
  | none => none
  | some (u, rest) =>
    if 55296 ≤ u ∧ u < 56320 then match readUnit (rest.drop 2) with
      | none => none
      | some (v, rest') => some (Char.ofNat (65536 + (u - 55296) * 1024 + (v - 56320)), rest')
    else some (Char.ofNat u, rest)

/-- The first character of the body of a quoted string; `none` at its end. -/
def unescape : List Char → Option (Char × List Char)
  | [] => none
  | c :: rest =>
    if c = '"' then none
    else if c = '\\' then match rest with
      | [] => none
      | e :: rest' => if e = 'u' then readUnicode rest' else some (shortEscape e, rest')
    else some (c, rest)

theorem readUnit_unicodeEscape {n : Nat} (hn : n < 65536) (rest : List Char) :
    readUnit ((unicodeEscape n).drop 2 ++ rest) = some (n, rest) := by
  simp only [unicodeEscape, List.drop_succ_cons, List.drop_zero, List.cons_append, List.nil_append, readUnit,
    hexValue_hexDigit (Nat.mod_lt _ (by decide : 0 < 16)), Option.some.injEq, Prod.mk.injEq, and_true]
  omega

theorem unescape_unicodeEscape (n : Nat) (rest : List Char) :
    unescape (unicodeEscape n ++ rest) = readUnicode ((unicodeEscape n).drop 2 ++ rest) := by
  simp [unescape, unicodeEscape]

theorem surrogate_free (c : Char) : ¬ (55296 ≤ c.toNat ∧ c.toNat < 57344) := by
  have hc : (0 < c.toNat + 1 ∧ c.toNat < 55296) ∨ (57343 < c.toNat ∧ c.toNat < 1114112) := by
    rcases c.valid with h | h
    · exact .inl ⟨Nat.succ_pos _, h⟩
    · exact .inr h
  omega

/-- **A character is read back from its escape.** -/
theorem unescape_escape (c : Char) (rest : List Char) : unescape (escape c ++ rest) = some (c, rest) := by
  unfold escape
  by_cases hplain : isPlain c = true
  · have hc : c ≠ '"' ∧ c ≠ '\\' := by
      simp only [isPlain, Bool.and_eq_true, bne_iff_ne] at hplain
      exact ⟨hplain.1.2, hplain.2⟩
    rw [if_pos hplain]
    simp [unescape, hc]
  rw [if_neg hplain]
  by_cases hq : c = '"'
  · subst hq; rfl
  by_cases hb : c = '\\'
  · subst hb; rfl
  by_cases hn : c = '\n'
  · subst hn; rfl
  by_cases hr : c = '\r'
  · subst hr; rfl
  by_cases ht : c = '\t'
  · subst ht; rfl
  rw [if_neg hq, if_neg hb, if_neg hn, if_neg hr, if_neg ht]
  by_cases hf : c.toNat = 12
  · rw [if_pos hf, ← Char.ofNat_toNat c, hf]
    rfl
  by_cases hbs : c.toNat = 8
  · rw [if_neg hf, if_pos hbs, ← Char.ofNat_toNat c, hbs]
    rfl
  rw [if_neg hf, if_neg hbs]
  have hfree := surrogate_free c
  by_cases hplane : c.toNat < 65536
  · rw [if_pos hplane, unescape_unicodeEscape, readUnicode, readUnit_unicodeEscape hplane]
    simp only
    rw [if_neg (by omega), Char.ofNat_toNat]
  · -- a surrogate pair
    have htop : c.toNat < 1114112 := by
      rcases c.valid with h | h
      · exact Nat.lt_trans h (by decide)
      · exact h.2
    have hhigh : 55296 + (c.toNat - 65536) / 1024 < 56320 := by omega
    have hlow : 56320 + (c.toNat - 65536) % 1024 < 65536 := by omega
    rw [if_neg hplane, List.append_assoc, unescape_unicodeEscape, readUnicode,
      readUnit_unicodeEscape (by omega)]
    simp only
    rw [if_pos ⟨by omega, hhigh⟩]
    have hdrop : (unicodeEscape (56320 + (c.toNat - 65536) % 1024) ++ rest).drop 2 =
        (unicodeEscape (56320 + (c.toNat - 65536) % 1024)).drop 2 ++ rest := rfl
    have hcode : 65536 + (55296 + (c.toNat - 65536) / 1024 - 55296) * 1024 +
        (56320 + (c.toNat - 65536) % 1024 - 56320) = c.toNat := by omega
    simp only [hdrop, readUnit_unicodeEscape hlow, hcode, Char.ofNat_toNat]

/-! ## Quoted strings -/

theorem escaped_append_inj : ∀ {cs ds r s : List Char},
    cs.flatMap escape ++ '"' :: r = ds.flatMap escape ++ '"' :: s → cs = ds ∧ r = s
  | [], [], r, s, h => ⟨rfl, (List.cons.inj h).2⟩
  | [], d :: ds, r, s, h => by
    rw [List.flatMap_cons, List.append_assoc] at h
    have hread := congrArg unescape h
    rw [unescape_escape] at hread
    cases hread
  | c :: cs, [], r, s, h => by
    rw [List.flatMap_cons, List.append_assoc] at h
    have hread := congrArg unescape h
    rw [unescape_escape] at hread
    cases hread
  | c :: cs, d :: ds, r, s, h => by
    rw [List.flatMap_cons, List.flatMap_cons, List.append_assoc, List.append_assoc] at h
    have hread := congrArg unescape h
    rw [unescape_escape, unescape_escape, Option.some.injEq, Prod.mk.injEq] at hread
    obtain ⟨hcs, hrs⟩ := escaped_append_inj hread.2
    exact ⟨by rw [hread.1, hcs], hrs⟩

theorem quote_append_inj {s t : String} {r u : List Char} (h : quote s ++ r = quote t ++ u) :
    s = t ∧ r = u := by
  simp only [quote, List.cons_append, List.append_assoc, List.nil_append, List.cons.injEq, true_and] at h
  obtain ⟨hst, hru⟩ := escaped_append_inj h
  exact ⟨String.toList_inj.1 hst, hru⟩

/-! ## Scalars in an object -/

/-- The scalars of a flat object. -/
inductive Scalar : Json → Prop where
  | null : Scalar .null
  | int (n : Int) : Scalar (.int n)
  | str (s : String) : Scalar (.str s)

/-- What follows a value in an object. -/
def Delimited (rest : List Char) : Prop := ∃ c r, rest = c :: r ∧ (c = ',' ∨ c = '}')

def numeric (c : Char) : Bool := c.isDigit || c == '-'

theorem numeric_int (n : Int) : ∀ c ∈ (toString n).toList, numeric c = true := by
  intro c hc
  rw [Int.toString_eq_repr, Int.repr_eq_if] at hc
  have hdigit : ∀ m : Nat, c ∈ m.repr.toList → numeric c = true := fun m hm => by
    rw [Nat.toList_repr] at hm
    simp [numeric, Nat.isDigit_of_mem_toDigits (by decide) (by decide) hm]
  split at hc
  · exact hdigit _ hc
  · rw [String.toList_append, List.mem_append] at hc
    rcases hc with hc | hc
    · have : c = '-' := by simpa using hc
      simp [numeric, this]
    · exact hdigit _ hc

theorem int_head (n : Int) : ∃ c r, (toString n).toList = c :: r ∧ numeric c = true := by
  cases h : (toString n).toList with
  | nil =>
    exfalso
    rw [Int.toString_eq_repr, Int.repr_eq_if] at h
    split at h
    · rw [Nat.toList_repr] at h
      exact Nat.toDigits_ne_nil h
    · simp at h
  | cons c r => exact ⟨c, r, rfl, numeric_int n c (h ▸ List.mem_cons_self)⟩

theorem takeWhile_int (n : Int) {rest : List Char} (hrest : Delimited rest) :
    ((toString n).toList ++ rest).takeWhile numeric = (toString n).toList := by
  obtain ⟨c, r, rfl, hc⟩ := hrest
  rw [List.takeWhile_append_of_pos (numeric_int n)]
  have hstop : numeric c = false := by rcases hc with rfl | rfl <;> decide
  rw [List.takeWhile_cons_of_neg (by simp [hstop]), List.append_nil]

/-- **The text of a scalar ends where a comma or a brace follows.** -/
theorem render_append_inj {x y : Json} {r s : List Char} (hx : Scalar x) (hy : Scalar y) (hr : Delimited r)
    (hs : Delimited s) (h : render x ++ r = render y ++ s) : x = y ∧ r = s := by
  have notNumeric : ∀ {n : Int} {c : Char} {rest r' : List Char}, numeric c = false →
      (toString n).toList ++ r' ≠ c :: rest := by
    intro n c rest r' hc heq
    obtain ⟨d, ds, hd, hnum⟩ := int_head n
    rw [hd, List.cons_append, List.cons.injEq] at heq
    rw [heq.1, hc] at hnum
    cases hnum
  cases hx with
  | null =>
    cases hy with
    | null => exact ⟨rfl, List.append_cancel_left h⟩
    | int n => exact absurd h.symm (notNumeric (by decide))
    | str t => exact absurd (List.cons.inj h).1 (by decide)
  | int n =>
    cases hy with
    | null => exact absurd h (notNumeric (by decide))
    | int m =>
      simp only [render] at h
      have htext : (toString n).toList = (toString m).toList := by
        rw [← takeWhile_int n hr, h, takeWhile_int m hs]
      rw [htext] at h
      exact ⟨by rw [Int.repr_injective (String.toList_inj.1 htext)], List.append_cancel_left h⟩
    | str t => exact absurd h (notNumeric (by decide))
  | str s =>
    cases hy with
    | null => exact absurd (List.cons.inj h).1 (by decide)
    | int n => exact absurd h.symm (notNumeric (by decide))
    | str t =>
      obtain ⟨hst, hrs⟩ := quote_append_inj h
      exact ⟨by rw [hst], hrs⟩

/-! ## Objects of scalars -/

theorem delimited_comma (r : List Char) : Delimited (',' :: r) := ⟨',', r, rfl, .inl rfl⟩

theorem delimited_brace : Delimited ['}'] := ⟨'}', [], rfl, .inr rfl⟩

theorem field_append_inj {k l : String} {x y : Json} {r s : List Char} (hx : Scalar x) (hy : Scalar y)
    (hr : Delimited r) (hs : Delimited s)
    (h : (quote k ++ ':' :: render x) ++ r = (quote l ++ ':' :: render y) ++ s) : (k, x) = (l, y) ∧ r = s := by
  simp only [List.append_assoc, List.cons_append] at h
  obtain ⟨hkey, hval⟩ := quote_append_inj h
  obtain ⟨hxy, hrest⟩ := render_append_inj hx hy hr hs (List.cons.inj hval).2
  exact ⟨by rw [hkey, hxy], hrest⟩

theorem fields_inj : ∀ {fs gs : List (String × Json)}, (∀ f ∈ fs, Scalar f.2) → (∀ g ∈ gs, Scalar g.2) →
    joinComma (renderFields fs) ++ ['}'] = joinComma (renderFields gs) ++ ['}'] → fs = gs
  | [], [], _, _, _ => rfl
  | [], [_], _, _, h => by simp [renderFields, joinComma, quote] at h
  | [], _ :: _ :: _, _, _, h => by simp [renderFields, joinComma, quote] at h
  | [_], [], _, _, h => by simp [renderFields, joinComma, quote] at h
  | _ :: _ :: _, [], _, _, h => by simp [renderFields, joinComma, quote] at h
  | [(k, x)], [(l, y)], hf, hg, h => by
    rw [(field_append_inj (hf _ List.mem_cons_self) (hg _ List.mem_cons_self) delimited_brace
      delimited_brace h).1]
  | [(k, x)], (l, y) :: g :: gs, hf, hg, h => by
    have h' : (quote k ++ ':' :: render x) ++ ['}'] =
        (quote l ++ ':' :: render y) ++ (',' :: (joinComma (renderFields (g :: gs)) ++ ['}'])) := by
      simpa [renderFields, joinComma] using h
    have hrest := (field_append_inj (hf _ List.mem_cons_self) (hg _ List.mem_cons_self) delimited_brace
      (delimited_comma _) h').2
    exact absurd (List.cons.inj hrest).1 (by decide)
  | (k, x) :: f :: fs, [(l, y)], hf, hg, h => by
    have h' : (quote k ++ ':' :: render x) ++ (',' :: (joinComma (renderFields (f :: fs)) ++ ['}'])) =
        (quote l ++ ':' :: render y) ++ ['}'] := by
      simpa [renderFields, joinComma] using h
    have hrest := (field_append_inj (hf _ List.mem_cons_self) (hg _ List.mem_cons_self) (delimited_comma _)
      delimited_brace h').2
    exact absurd (List.cons.inj hrest).1 (by decide)
  | (k, x) :: f :: fs, (l, y) :: g :: gs, hf, hg, h => by
    have h' : (quote k ++ ':' :: render x) ++ (',' :: (joinComma (renderFields (f :: fs)) ++ ['}'])) =
        (quote l ++ ':' :: render y) ++ (',' :: (joinComma (renderFields (g :: gs)) ++ ['}'])) := by
      simpa [renderFields, joinComma] using h
    obtain ⟨hfield, hrest⟩ := field_append_inj (hf _ List.mem_cons_self) (hg _ List.mem_cons_self)
      (delimited_comma _) (delimited_comma _) h'
    rw [hfield, fields_inj (fun z hz => hf z (List.mem_cons_of_mem _ hz))
      (fun z hz => hg z (List.mem_cons_of_mem _ hz)) (List.cons.inj hrest).2]

theorem sortFields_scalar {fs : List (String × Json)} (hf : ∀ f ∈ fs, Scalar f.2) : sortFields fs = fs := by
  rw [sortFields_eq_map]
  refine (List.map_congr_left fun f hmem => ?_).trans (List.map_id fs)
  obtain ⟨k, v⟩ := f
  cases hf _ hmem <;> rfl

/-- Lists of fields over one list of distinct keys are equal when one is a permutation of the other. -/
theorem fields_eq_of_perm : ∀ {fs gs : List (String × Json)}, fs.map Prod.fst = gs.map Prod.fst →
    (fs.map Prod.fst).Nodup → fs.Perm gs → fs = gs
  | [], [], _, _, _ => rfl
  | [], _ :: _, hkeys, _, _ => by cases hkeys
  | _ :: _, [], hkeys, _, _ => by cases hkeys
  | f :: fs, g :: gs, hkeys, hnodup, hperm => by
    rw [List.map_cons, List.map_cons, List.cons.injEq] at hkeys
    rw [List.map_cons, List.nodup_cons] at hnodup
    have hhead : f = g := by
      rcases List.mem_cons.1 (hperm.mem_iff.1 List.mem_cons_self) with h | h
      · exact h
      · exact absurd (hkeys.2 ▸ List.mem_map_of_mem h) hnodup.1
    subst hhead
    rw [fields_eq_of_perm hkeys.2 hnodup.2 hperm.cons_inv]

/-- **The text of an object of scalars determines its fields, up to their order.** -/
theorem dumps_obj_perm {fs gs : List (String × Json)} (hf : ∀ f ∈ fs, Scalar f.2) (hg : ∀ g ∈ gs, Scalar g.2)
    (h : dumps (.obj fs) = dumps (.obj gs)) : fs.Perm gs := by
  simp only [dumps, sortKeys, render, sortFields_scalar hf, sortFields_scalar hg, List.cons.injEq,
    true_and] at h
  have hsorted := fields_inj (fun f hmem => hf f ((List.mem_insertionSort _).1 hmem))
    (fun g hmem => hg g ((List.mem_insertionSort _).1 hmem)) h
  refine (List.perm_insertionSort (fun a b => a.1 ≤ b.1) fs).symm.trans ?_
  rw [hsorted]
  exact List.perm_insertionSort _ gs

theorem dumps_obj_inj {fs gs : List (String × Json)} (hkeys : fs.map Prod.fst = gs.map Prod.fst)
    (hnodup : (fs.map Prod.fst).Nodup) (hf : ∀ f ∈ fs, Scalar f.2) (hg : ∀ g ∈ gs, Scalar g.2)
    (h : dumps (.obj fs) = dumps (.obj gs)) : fs = gs :=
  fields_eq_of_perm hkeys hnodup (dumps_obj_perm hf hg h)

/-- The text of an object opens with a brace. -/
theorem dumps_obj_head (fs : List (String × Json)) : ∃ rest, dumps (.obj fs) = '\x7b' :: rest :=
  ⟨_, by rw [dumps, sortKeys, render]⟩

end JsonText
