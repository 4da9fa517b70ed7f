import ThreatFusion.Admission.ResponseCodec
/-
# The depth scanner agrees with the parser (`api/producer_admission.py`:479-500)

`_enforce_json_depth` runs over the characters before `json.loads` does. On a text that the parser accepts it
keeps to the strings and the brackets of the parser: it raises when a value is nested deeper than the limit, and
otherwise it comes to the end (`enforceJsonDepth_loads`).
-/
namespace ThreatFusion.Admission
open Py JsonText

mutual
/-- How deep the arrays and objects of a value are nested. -/
def valueDepth : Value → Nat
  | .arr xs => valuesDepth xs + 1
  | .obj pairs => pairsDepth pairs + 1
  | _ => 0

def valuesDepth : List Value → Nat
  | [] => 0
  | x :: xs => max (valueDepth x) (valuesDepth xs)

def pairsDepth : List (List Nat × Value) → Nat
  | [] => 0
  | (_, v) :: rest => max (valueDepth v) (pairsDepth rest)
end

/-! ## Strings -/

theorem hexPoint_plain {c : Char} {n : Nat} (h : hexPoint c = some n) : c ≠ '\\' ∧ c ≠ '"' := by
  constructor
  · rintro rfl
    rw [show hexPoint '\\' = none from rfl] at h
    cases h
  · rintro rfl
    rw [show hexPoint '"' = none from rfl] at h
    cases h

theorem hexUnit_plain {a b c d : Char} {u : Nat} (h : hexUnit a b c d = some u) :
    ∀ e ∈ [a, b, c, d], e ≠ '\\' ∧ e ≠ '"' := by
  unfold hexUnit at h
  split at h
  · rename_i ha hb hc hd
    intro e he
    simp only [List.mem_cons, List.not_mem_nil, or_false] at he
    rcases he with rfl | rfl | rfl | rfl
    · exact hexPoint_plain ha
    · exact hexPoint_plain hb
    · exact hexPoint_plain hc
    · exact hexPoint_plain hd
  · cases h

/-- The scanner leaves a string where the parser does. -/
theorem enforceJsonDepth_units {text : List Char} {us : List Nat} {rest : List Char}
    (h : scanUnits text = some (us, rest)) (d : Nat) :
    enforceJsonDepth d true false text = enforceJsonDepth d false false rest := by
  induction text using scanUnits.induct generalizing us with
  | case1 => simp [scanUnits] at h
  | case2 tail =>
    rw [scanUnits.eq_def] at h
    simp only [if_true, Option.some.injEq, Prod.mk.injEq] at h
    obtain ⟨-, rfl⟩ := h
    rw [enforceJsonDepth, if_neg (by decide), if_pos rfl]
  | case3 h₁ h₂ h₃ h₄ tail hunit hq =>
    rw [scanUnits, if_neg hq, if_pos rfl] at h
    simp [hunit] at h
  | case4 h₁ h₂ h₃ h₄ tail u hunit hq ih =>
    rw [scanUnits, if_neg hq, if_pos rfl] at h
    simp only [hunit] at h
    obtain ⟨⟨us', rest'⟩, hrest, heq⟩ := Option.map_eq_some_iff.mp h
    obtain ⟨-, rfl⟩ := Prod.mk.inj heq
    have hplain := hexUnit_plain hunit
    rw [enforceJsonDepth_escaped, enforceJsonDepth_inString (hplain h₁ (by simp)).1 (hplain h₁ (by simp)).2,
      enforceJsonDepth_inString (hplain h₂ (by simp)).1 (hplain h₂ (by simp)).2,
      enforceJsonDepth_inString (hplain h₃ (by simp)).1 (hplain h₃ (by simp)).2,
      enforceJsonDepth_inString (hplain h₄ (by simp)).1 (hplain h₄ (by simp)).2]
    exact ih hrest
  | case5 e tail hnot hunit hq =>
    rw [scanUnits.eq_def] at h
    dsimp only at h
    rw [if_neg hq, if_pos rfl] at h
    split at h
    · rename_i heq
      exact absurd (List.cons.inj heq).2 (fun ht => hnot _ _ _ _ _ (List.cons.inj heq).1 ht)
    · rename_i heq
      obtain ⟨rfl, rfl⟩ := List.cons.inj heq
      rw [hunit] at h
      cases h
    · cases h
  | case6 e tail hnot u hunit hq ih =>
    have hu : e ≠ 'u' := by
      rintro rfl
      rw [show escapedUnit 'u' = none from rfl] at hunit
      cases hunit
    rw [scanUnits_short hu hunit] at h
    obtain ⟨⟨us', rest'⟩, hrest, heq⟩ := Option.map_eq_some_iff.mp h
    obtain ⟨-, rfl⟩ := Prod.mk.inj heq
    rw [enforceJsonDepth_escaped]
    exact ih hrest
  | case7 hq => simp [scanUnits] at h
  | case8 c tail hq hb hc =>
    rw [scanUnits.eq_def] at h
    dsimp only at h
    rw [if_neg hq, if_neg hb, if_pos hc] at h
    cases h
  | case9 c tail hq hb hc ih =>
    rw [scanUnits_char hq hb (Nat.le_of_not_lt hc)] at h
    obtain ⟨⟨us', rest'⟩, hrest, heq⟩ := Option.map_eq_some_iff.mp h
    obtain ⟨-, rfl⟩ := Prod.mk.inj heq
    rw [enforceJsonDepth_inString hb hq]
    exact ih hrest

theorem enforceJsonDepth_string {text : List Char} {ps : List Nat} {rest : List Char}
    (h : scanString text = some (ps, rest)) (d : Nat) :
    enforceJsonDepth d false false ('"' :: text) = enforceJsonDepth d false false rest := by
  obtain ⟨⟨us, rest'⟩, hunits, heq⟩ := Option.map_eq_some_iff.mp h
  obtain ⟨-, rfl⟩ := Prod.mk.inj heq
  rw [enforceJsonDepth, if_pos rfl]
  exact enforceJsonDepth_units hunits d

/-! ## Numbers, words and blanks -/

theorem scanNumber_split {text rest : List Char} {v : Value} (h : scanNumber text = some (v, rest)) :
    valueDepth v = 0 ∧ ∃ t, text = t ++ rest ∧ PlainText t := by
  obtain ⟨hsign, hs⟩ := scanSign_split text
  obtain ⟨hwhole, hw⟩ := scanWhole_split (scanSign text).2
  obtain ⟨hfraction, hf⟩ := scanFraction_split (scanWhole (scanSign text).2).2
  obtain ⟨hexponent, hx⟩ := scanExponent_split (scanFraction (scanWhole (scanSign text).2).2).2
  have hall := numberChars_append hs (numberChars_append hw (numberChars_append hf hx))
  have htext : text = ((scanSign text).1 ++ ((scanWhole (scanSign text).2).1 ++
      ((scanFraction (scanWhole (scanSign text).2).2).1 ++
        (scanExponent (scanFraction (scanWhole (scanSign text).2).2).2).1))) ++
      (scanExponent (scanFraction (scanWhole (scanSign text).2).2).2).2 := by
    rw [List.append_assoc, List.append_assoc, List.append_assoc, ← hexponent, ← hfraction, ← hwhole, ← hsign]
  unfold scanNumber at h
  dsimp only at h
  split at h
  · cases h
  · split at h
    · obtain ⟨rfl, rfl⟩ := Prod.mk.inj (Option.some.inj h)
      exact ⟨rfl, _, htext, plainText_number hall⟩
    · obtain ⟨rfl, rfl⟩ := Prod.mk.inj (Option.some.inj h)
      exact ⟨rfl, _, htext, plainText_number hall⟩

theorem constants_plain : ∀ p ∈ constants, valueDepth p.2 = 0 ∧ PlainText p.1.toList := by
  have key : constants.all (fun p => (valueDepth p.2 == 0) && p.1.toList.all fun c =>
      decide (c ≠ '"' ∧ ¬ (c = '[' ∨ c = '\x7b') ∧ ¬ (c = ']' ∨ c = '\x7d'))) = true := by decide
  intro p hp
  have hp := List.all_eq_true.mp key p hp
  rw [Bool.and_eq_true, beq_iff_eq] at hp
  exact ⟨hp.1, forall_of_all hp.2⟩

theorem scanConstant_split {text rest : List Char} {v : Value} (h : scanConstant text = some (v, rest)) :
    valueDepth v = 0 ∧ ∃ t, text = t ++ rest ∧ PlainText t := by
  unfold scanConstant at h
  split at h
  · cases h
  · rename_i p hfind
    obtain ⟨rfl, rfl⟩ := Prod.mk.inj (Option.some.inj h)
    obtain ⟨hdepth, hplain⟩ := constants_plain p (List.mem_of_find?_eq_some hfind)
    have hfound := List.find?_some hfind
    have hprefix : p.1.toList <+: text := List.isPrefixOf_iff_prefix.mp hfound
    obtain ⟨tail, rfl⟩ := hprefix
    refine ⟨hdepth, p.1.toList, ?_, hplain⟩
    rw [← String.length_toList, List.drop_left]

theorem scanScalar_split {text rest : List Char} {v : Value} (h : scanScalar text = some (v, rest)) :
    valueDepth v = 0 ∧ ∃ t, text = t ++ rest ∧ PlainText t := by
  unfold scanScalar at h
  split at h
  · rename_i p hconstant
    obtain rfl := Option.some.inj h
    exact scanConstant_split hconstant
  · exact scanNumber_split h

theorem enforceJsonDepth_blanks (text : List Char) (d : Nat) :
    enforceJsonDepth d false false text = enforceJsonDepth d false false (skipBlanks text) := by
  have hplain : PlainText (text.takeWhile JsonText.isBlank) := by
    intro c hc
    have hblank := List.mem_takeWhile_imp hc
    simp only [JsonText.isBlank, Bool.or_eq_true, beq_iff_eq] at hblank
    rcases hblank with ((rfl | rfl) | rfl) | rfl <;> decide
  calc enforceJsonDepth d false false text
      = enforceJsonDepth d false false (text.takeWhile JsonText.isBlank ++ text.dropWhile JsonText.isBlank) := by
        rw [List.takeWhile_append_dropWhile]
    _ = enforceJsonDepth d false false (skipBlanks text) := enforceJsonDepth_plain hplain

/-! ## Values -/

theorem enforceJsonDepth_open {o : Char} (ho : o = '[' ∨ o = '\x7b') (text : List Char) (d : Nat) :
    enforceJsonDepth d false false (o :: text) =
      if d + 1 ≤ MAX_JSON_DEPTH then enforceJsonDepth (d + 1) false false text else .error .jsonDepthExceeded := by
  have hq : o ≠ '"' := by rcases ho with rfl | rfl <;> decide
  rw [enforceJsonDepth, if_neg hq, if_pos ho]
  by_cases hd : d + 1 ≤ MAX_JSON_DEPTH
  · rw [if_neg (Nat.not_lt.mpr hd), if_pos hd]
  · rw [if_pos (Nat.lt_of_not_le hd), if_neg hd]

theorem enforceJsonDepth_close {c : Char} (hc : c = ']' ∨ c = '\x7d') (text : List Char) (d : Nat) :
    enforceJsonDepth (d + 1) false false (c :: text) = enforceJsonDepth d false false text := by
  have hq : c ≠ '"' ∧ ¬ (c = '[' ∨ c = '\x7b') := by rcases hc with rfl | rfl <;> decide
  rw [enforceJsonDepth, if_neg hq.1, if_neg hq.2, if_pos hc, if_neg (Nat.succ_ne_zero d)]
  rfl

theorem enforceJsonDepth_colon (d : Nat) (rest : List Char) :
    enforceJsonDepth d false false (':' :: rest) = enforceJsonDepth d false false rest := by
  rw [enforceJsonDepth, if_neg (by decide), if_neg (by decide), if_neg (by decide)]

theorem enforceJsonDepth_key {text : List Char} {key : List Nat} {rest : List Char}
    (h : scanKey text = some (key, rest)) (d : Nat) :
    enforceJsonDepth d false false text = enforceJsonDepth d false false rest := by
  unfold scanKey at h
  split at h
  · split at h
    · cases h
    · rename_i key' after hstring
      split at h
      · rename_i tail hcolon
        obtain ⟨-, rfl⟩ := Prod.mk.inj (Option.some.inj h)
        rw [enforceJsonDepth_string hstring, enforceJsonDepth_blanks, hcolon, enforceJsonDepth_colon,
          enforceJsonDepth_blanks]
      · cases h
  · cases h

/-- The scanner reads the text at depth `d` up to `rest`, at depth `d'`, when `k` more levels are allowed. -/
def Reads (text : List Char) (d k : Nat) (rest : List Char) (d' : Nat) : Prop :=
  enforceJsonDepth d false false text =
    if d + k ≤ MAX_JSON_DEPTH then enforceJsonDepth d' false false rest else .error .jsonDepthExceeded

namespace Reads

variable {text mid rest : List Char} {d d' e k l : Nat}

theorem trans (h : Reads text d k mid d) (h' : Reads mid d l rest e) : Reads text d (max k l) rest e := by
  unfold Reads at h h' ⊢
  rw [h]
  by_cases hk : d + k ≤ MAX_JSON_DEPTH
  · rw [if_pos hk, h']
    by_cases hl : d + l ≤ MAX_JSON_DEPTH
    · rw [if_pos hl, if_pos (by omega)]
    · rw [if_neg hl, if_neg (by omega)]
  · rw [if_neg hk, if_neg (by omega)]

theorem of_eq (h : enforceJsonDepth d false false text = enforceJsonDepth e false false rest)
    (hd : d ≤ MAX_JSON_DEPTH) : Reads text d 0 rest e := by
  rw [Reads, Nat.add_zero, if_pos hd, h]

/-- What follows at the same depth costs nothing. -/
theorem append_eq (h : Reads text d k mid d')
    (heq : enforceJsonDepth d' false false mid = enforceJsonDepth e false false rest) : Reads text d k rest e := by
  rw [Reads, h, heq]

theorem prepend_eq (heq : enforceJsonDepth d false false text = enforceJsonDepth d false false mid)
    (h : Reads mid d k rest e) : Reads text d k rest e := by
  rw [Reads, heq, h]

theorem bracket {o : Char} (ho : o = '[' ∨ o = '\x7b')
    (h : d + 1 ≤ MAX_JSON_DEPTH → Reads text (d + 1) k rest d) : Reads (o :: text) d (k + 1) rest d := by
  rw [Reads, enforceJsonDepth_open ho]
  by_cases hd : d + 1 ≤ MAX_JSON_DEPTH
  · rw [if_pos hd, h hd, Nat.add_assoc, Nat.add_comm 1 k]
  · rw [if_neg hd, if_neg (by omega)]

end Reads

mutual
/-- **The scanner agrees with the parser on a value.** -/
theorem scanValue_depth : ∀ {n : Nat} {text rest : List Char} {v : Value}, scanValue n text = some (v, rest) →
    ∀ {d : Nat}, d ≤ MAX_JSON_DEPTH → Reads text d (valueDepth v) rest d
  | 0, _, _, _, h, _, _ => by
    rw [scanValue] at h
    cases h
  | n + 1, text, rest, v, h, d, hd => by
    unfold scanValue at h
    split at h
    · obtain ⟨⟨ps, rest'⟩, hstring, heq⟩ := Option.map_eq_some_iff.mp h
      obtain ⟨rfl, rfl⟩ := Prod.mk.inj heq
      exact .of_eq (enforceJsonDepth_string hstring d) hd
    · rename_i tail
      split at h
      · rename_i tail' hclose
        obtain ⟨rfl, rfl⟩ := Prod.mk.inj (Option.some.inj h)
        refine .bracket (.inl rfl) fun hd' => .of_eq ?_ hd'
        rw [enforceJsonDepth_blanks, hclose, enforceJsonDepth_close (.inl rfl)]
      · obtain ⟨⟨xs, rest'⟩, hitems, heq⟩ := Option.map_eq_some_iff.mp h
        obtain ⟨rfl, rfl⟩ := Prod.mk.inj heq
        exact .bracket (.inl rfl) fun hd' => .prepend_eq (enforceJsonDepth_blanks ..) (scanItems_depth hitems hd')
    · rename_i tail
      split at h
      · rename_i tail' hclose
        obtain ⟨rfl, rfl⟩ := Prod.mk.inj (Option.some.inj h)
        refine .bracket (.inr rfl) fun hd' => .of_eq ?_ hd'
        rw [enforceJsonDepth_blanks, hclose, enforceJsonDepth_close (.inr rfl)]
      · obtain ⟨⟨xs, rest'⟩, hpairs, heq⟩ := Option.map_eq_some_iff.mp h
        obtain ⟨rfl, rfl⟩ := Prod.mk.inj heq
        exact .bracket (.inr rfl) fun hd' => .prepend_eq (enforceJsonDepth_blanks ..) (scanPairs_depth hpairs hd')
    · obtain ⟨hdepth, t, rfl, hplain⟩ := scanScalar_split h
      rw [hdepth]
      exact .of_eq (enforceJsonDepth_plain hplain) hd

theorem scanItems_depth : ∀ {n : Nat} {text rest : List Char} {xs : List Value}, scanItems n text = some (xs, rest) →
    ∀ {d : Nat}, d + 1 ≤ MAX_JSON_DEPTH → Reads text (d + 1) (valuesDepth xs) rest d
  | 0, _, _, _, h, _, _ => by
    rw [scanItems] at h
    cases h
  | n + 1, text, rest, xs, h, d, hd => by
    unfold scanItems at h
    split at h
    · cases h
    · rename_i v after hvalue
      have hv := scanValue_depth hvalue hd
      split at h
      · rename_i tail hclose
        obtain ⟨rfl, rfl⟩ := Prod.mk.inj (Option.some.inj h)
        rw [valuesDepth, valuesDepth, Nat.max_zero]
        refine hv.append_eq ?_
        rw [enforceJsonDepth_blanks, hclose, enforceJsonDepth_close (.inl rfl)]
      · rename_i tail hcomma
        obtain ⟨⟨ys, rest'⟩, hitems, heq⟩ := Option.map_eq_some_iff.mp h
        obtain ⟨rfl, rfl⟩ := Prod.mk.inj heq
        refine (hv.append_eq ?_).trans (scanItems_depth hitems hd)
        rw [enforceJsonDepth_blanks after, hcomma, enforceJsonDepth_comma, enforceJsonDepth_blanks]
      · cases h

theorem scanPairs_depth : ∀ {n : Nat} {text rest : List Char} {ps : List (List Nat × Value)},
    scanPairs n text = some (ps, rest) →
    ∀ {d : Nat}, d + 1 ≤ MAX_JSON_DEPTH → Reads text (d + 1) (pairsDepth ps) rest d
  | 0, _, _, _, h, _, _ => by
    rw [scanPairs] at h
    cases h
  | n + 1, text, rest, ps, h, d, hd => by
    unfold scanPairs at h
    split at h
    · cases h
    · rename_i key tail hkey
      split at h
      · cases h
      · rename_i v after hvalue
        have hv := (scanValue_depth hvalue hd).prepend_eq (enforceJsonDepth_key hkey (d + 1))
        split at h
        · rename_i tail' hclose
          obtain ⟨rfl, rfl⟩ := Prod.mk.inj (Option.some.inj h)
          rw [pairsDepth, pairsDepth, Nat.max_zero]
          refine hv.append_eq ?_
          rw [enforceJsonDepth_blanks, hclose, enforceJsonDepth_close (.inr rfl)]
        · rename_i tail' hcomma
          obtain ⟨⟨qs, rest'⟩, hpairs, heq⟩ := Option.map_eq_some_iff.mp h
          obtain ⟨rfl, rfl⟩ := Prod.mk.inj heq
          refine (hv.append_eq ?_).trans (scanPairs_depth hpairs hd)
          rw [enforceJsonDepth_blanks after, hcomma, enforceJsonDepth_comma, enforceJsonDepth_blanks]
        · cases h
end

/-- **On a text that the parser accepts, the scanner raises exactly when a value is nested too deep.** -/
theorem enforceJsonDepth_loads {text : List Char} {v : Value} (h : loads text = some v) :
    enforceJsonDepth 0 false false text =
      if valueDepth v ≤ MAX_JSON_DEPTH then .ok () else .error .jsonDepthExceeded := by
  unfold loads at h
  split at h
  · rename_i w rest hscan
    split_ifs at h with hrest
    obtain rfl := Option.some.inj h
    have hreads := scanValue_depth hscan (Nat.zero_le MAX_JSON_DEPTH)
    rw [Reads, Nat.zero_add] at hreads
    rw [enforceJsonDepth_blanks, hreads, enforceJsonDepth_blanks rest, hrest]
    rfl
  · cases h

end ThreatFusion.Admission
