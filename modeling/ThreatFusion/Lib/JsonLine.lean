import ThreatFusion.Lib.JsonLayout
/-
# JSON text on one line

In the layout `spaced` the text of a value is printable ASCII: it has no line feed, and each character is one byte.

* `renderIn_printable`: the characters of the text.
* `encoded_printable`: the bytes of a printable text, and no line feed among them.
* `field_sorted`: a field of a written object is read back with the reader that takes the first value of a key.
-/
namespace JsonText

def Printable (c : Char) : Prop := 32 ≤ c.toNat ∧ c.toNat < 128

instance (c : Char) : Decidable (Printable c) := inferInstanceAs (Decidable (_ ∧ _))

/-! ## The characters -/

theorem hexDigit_printable (n : Nat) : Printable (hexDigit (n % 16)) := by
  have key : ∀ d < 16, Printable (hexDigit d) := by decide
  exact key _ (Nat.mod_lt _ (by decide))

theorem unicodeEscape_printable (n : Nat) : ∀ c ∈ unicodeEscape n, Printable c := by
  intro c hc
  simp only [unicodeEscape, List.mem_cons, List.not_mem_nil, or_false] at hc
  rcases hc with rfl | rfl | rfl | rfl | rfl | rfl
  · decide
  · decide
  · exact hexDigit_printable _
  · exact hexDigit_printable _
  · exact hexDigit_printable _
  · exact hexDigit_printable _

theorem escapedUnit_printable {e : Char} {u : Nat} (h : escapedUnit e = some u) : Printable e := by
  unfold escapedUnit at h
  by_cases hself : e = '"' ∨ e = '\\' ∨ e = '/'
  · rcases hself with rfl | rfl | rfl <;> decide
  · rw [if_neg hself] at h
    have hletter : e = 'b' ∨ e = 'f' ∨ e = 'n' ∨ e = 'r' ∨ e = 't' := by
      by_contra hother
      simp only [not_or] at hother
      rw [if_neg hother.1, if_neg hother.2.1, if_neg hother.2.2.1, if_neg hother.2.2.2.1, if_neg hother.2.2.2.2] at h
      cases h
    rcases hletter with rfl | rfl | rfl | rfl | rfl <;> decide

theorem escape_printable (c : Char) : ∀ d ∈ escape c, Printable d := by
  intro d hd
  rcases escape_cases c with ⟨hplain, he⟩ | ⟨-, e, he, -, hunit⟩ | ⟨-, he⟩ | ⟨-, he⟩ <;> rw [he] at hd
  · obtain rfl := List.mem_singleton.1 hd
    simp only [isPlain, Bool.and_eq_true, decide_eq_true_eq] at hplain
    exact ⟨by omega, by omega⟩
  · rcases List.mem_cons.1 hd with rfl | hd
    · decide
    · obtain rfl := List.mem_singleton.1 hd
      exact escapedUnit_printable hunit
  · exact unicodeEscape_printable _ d hd
  · rcases List.mem_append.1 hd with hd | hd <;> exact unicodeEscape_printable _ d hd

theorem quote_printable (s : String) : ∀ c ∈ quote s, Printable c := by
  intro c hc
  rw [quote, List.mem_cons, List.mem_append, List.mem_flatMap, List.mem_singleton] at hc
  rcases hc with rfl | ⟨d, -, hd⟩ | rfl
  · decide
  · exact escape_printable d c hd
  · decide

theorem numberChar_printable {c : Char} (h : numberChar c = true) : Printable c := by
  simp only [numberChar, Bool.or_eq_true, beq_iff_eq] at h
  rcases h with ((((h | rfl) | rfl) | rfl) | rfl) | rfl
  · have hbounds := digit_bounds h
    exact ⟨by omega, by omega⟩
  all_goals decide

/-! ## The text of a value -/

theorem joinWith_printable : ∀ {ts : List (List Char)}, (∀ t ∈ ts, ∀ c ∈ t, Printable c) →
    ∀ c ∈ joinWith [' '] ts, Printable c
  | [], _, c, hc => absurd hc List.not_mem_nil
  | [t], h, c, hc => h t List.mem_cons_self c hc
  | t :: u :: ts, h, c, hc => by
    rw [joinWith, List.mem_append, List.mem_cons, List.mem_append, List.mem_singleton] at hc
    rcases hc with hc | rfl | rfl | hc
    · exact h t List.mem_cons_self c hc
    · decide
    · decide
    · exact joinWith_printable (fun v hv => h v (List.mem_cons_of_mem t hv)) c hc

theorem bracket_printable {d : Nat} {o e : Char} (ho : Printable o) (he : Printable e) {ts : List (List Char)}
    (h : ∀ t ∈ ts, ∀ c ∈ t, Printable c) : ∀ c ∈ bracket .spaced d o e ts, Printable c := by
  intro c hc
  unfold bracket at hc
  split at hc
  · rw [List.mem_cons, List.mem_singleton] at hc
    rcases hc with rfl | rfl
    · exact ho
    · exact he
  · simp only [Layout.spaced, List.nil_append, List.mem_cons, List.mem_append, List.not_mem_nil, or_false] at hc
    rcases hc with rfl | hc | rfl
    · exact ho
    · exact joinWith_printable h c hc
    · exact he

mutual
theorem renderIn_printable : ∀ {j : Json} (d : Nat), Readable j → ∀ c ∈ renderIn .spaced d j, Printable c
  | .null, d, _, c, hc => by
    rw [renderIn] at hc
    exact (forall_of_all (by decide) : ∀ c ∈ "null".toList, Printable c) c hc
  | .bool b, d, _, c, hc => by
    rw [renderIn] at hc
    exact (forall_of_all (by cases b <;> decide) : ∀ c ∈ (if b then "true" else "false").toList, Printable c) c hc
  | .int n, d, _, c, hc => by
    rw [renderIn] at hc
    exact numberChar_printable (numberChar_int n c hc)
  | .float digits, d, hj, c, hc => by
    rw [Readable] at hj
    rw [renderIn] at hc
    exact numberChar_printable (numberChar_float hj c hc)
  | .str s, d, _, c, hc => by
    rw [renderIn] at hc
    exact quote_printable s c hc
  | .arr xs, d, hj, c, hc => by
    rw [Readable] at hj
    rw [renderIn] at hc
    exact bracket_printable (by decide) (by decide) (renderItemsIn_printable (d + 1) hj) c hc
  | .obj fields, d, hj, c, hc => by
    rw [Readable] at hj
    rw [renderIn] at hc
    exact bracket_printable (by decide) (by decide) (renderFieldsIn_printable (d + 1) hj) c hc

theorem renderItemsIn_printable : ∀ {xs : List Json} (d : Nat), ReadableItems xs →
    ∀ t ∈ renderItemsIn .spaced d xs, ∀ c ∈ t, Printable c
  | [], d, _, t, ht => by
    rw [renderItemsIn] at ht
    cases ht
  | x :: xs, d, hx, t, ht => by
    rw [ReadableItems] at hx
    rw [renderItemsIn, List.mem_cons] at ht
    rcases ht with rfl | ht
    · exact renderIn_printable d hx.1
    · exact renderItemsIn_printable d hx.2 t ht

theorem renderFieldsIn_printable : ∀ {fs : List (String × Json)} (d : Nat), ReadableFields fs →
    ∀ t ∈ renderFieldsIn .spaced d fs, ∀ c ∈ t, Printable c
  | [], d, _, t, ht => by
    rw [renderFieldsIn] at ht
    cases ht
  | (k, v) :: fs, d, hv, t, ht => by
    rw [ReadableFields] at hv
    rw [renderFieldsIn, List.mem_cons] at ht
    rcases ht with rfl | ht
    · intro c hc
      simp only [List.mem_append, List.mem_cons, Layout.spaced, List.not_mem_nil, or_false] at hc
      rcases hc with hc | rfl | rfl | hc
      · exact quote_printable k c hc
      · decide
      · decide
      · exact renderIn_printable d hv.1 c hc
    · exact renderFieldsIn_printable d hv.2 t ht
end

/-! ## The bytes -/

theorem encodeChar_printable {c : Char} (h : Printable c) : String.utf8EncodeChar c = [UInt8.ofNat c.toNat] := by
  have hsmall : c.val.toNat ≤ 127 := Nat.le_of_lt_succ h.2
  unfold String.utf8EncodeChar
  simp only [hsmall, if_true]
  rfl

/-- Each character is a byte of its own, and none is a line feed. -/
theorem encoded_printable {text : List Char} (h : ∀ c ∈ text, Printable c) :
    (text.flatMap String.utf8EncodeChar).length = text.length ∧ (10 : UInt8) ∉ text.flatMap String.utf8EncodeChar := by
  induction text with
  | nil => exact ⟨rfl, List.not_mem_nil⟩
  | cons c text ih =>
    obtain ⟨hlength, hfeed⟩ := ih fun d hd => h d (List.mem_cons_of_mem c hd)
    have hc := h c List.mem_cons_self
    have hbyte : (10 : UInt8) ≠ UInt8.ofNat c.toNat := by
      intro heq
      have hten := congrArg UInt8.toNat heq
      rw [UInt8.toNat_ofNat', Nat.mod_eq_of_lt (hc.2.trans (by decide))] at hten
      have hlow := hc.1
      rw [← hten] at hlow
      exact absurd hlow (by decide)
    rw [List.flatMap_cons, encodeChar_printable hc]
    constructor
    · rw [List.singleton_append, List.length_cons, List.length_cons, hlength]
    · rw [List.singleton_append, List.mem_cons, not_or]
      exact ⟨hbyte, hfeed⟩

/-! ## Fields that were read back -/

theorem field_eq_lookup (pairs : List (List Nat × Value)) (key : String) : field pairs key = pairs.lookup (points key) := by
  unfold field
  induction pairs with
  | nil => rfl
  | cons p rest ih =>
    obtain ⟨k, v⟩ := p
    rw [List.find?_cons, List.lookup_cons]
    by_cases hk : k = points key
    · rw [hk, beq_self_eq_true]
      rfl
    · rw [beq_eq_false_iff_ne.2 hk, beq_eq_false_iff_ne.2 (Ne.symm hk)]
      exact ih

/-- **A field is read back**, whatever the order of the keys. -/
theorem field_sorted {fs : List (String × Json)} (hkeys : (fs.map Prod.fst).Nodup) (key : String) :
    field (fieldValues (sortedFields fs)) key = (fs.lookup key).map fun v => (sortKeys v).value := by
  rw [field_eq_lookup, ← item_sorted hkeys, item, dictOf_sorted hkeys]

theorem strictPairs_iff {isFloat : String → Bool} : ∀ {ps : List (List Nat × Value)},
    strictPairs isFloat ps = true ↔ ∀ p ∈ ps, p.2.strict isFloat = true
  | [] => by simp [strictPairs]
  | (k, v) :: rest => by
    rw [strictPairs, Bool.and_eq_true, strictPairs_iff, List.forall_mem_cons]

/-- A written object repeats no key, and has no long number when no field has one. -/
theorem strict_sorted {isFloat : String → Bool} {fs : List (String × Json)} (hkeys : (fs.map Prod.fst).Nodup)
    (h : ∀ f ∈ fs, (sortKeys f.2).value.strict isFloat = true) : (sortKeys (.obj fs)).value.strict isFloat = true := by
  rw [sortKeys_obj, Json.value, Value.strict, Bool.and_eq_true, strictPairs_iff]
  refine ⟨decide_eq_true (fieldValues_sorted_keys hkeys), fun p hp => ?_⟩
  rw [fieldValues_eq_map, List.mem_map] at hp
  obtain ⟨f, hf, rfl⟩ := hp
  rw [(sortedFields_perm fs).mem_iff, List.mem_map] at hf
  obtain ⟨g, hg, rfl⟩ := hf
  exact h g hg

theorem strict_nat (isFloat : String → Bool) {n k : Nat} (hk : 0 < k) (hsmall : k ≤ MAX_INT_DIGITS) (h : n < 10 ^ k) :
    (sortKeys (.int n)).value.strict isFloat = true := by
  have hlength := (Nat.length_toDigits_le_iff (b := 10) (by decide) hk).2 h
  simp only [sortKeys, Json.value, Value.strict, Int.natAbs_natCast, decide_eq_true_eq]
  omega

end JsonText
