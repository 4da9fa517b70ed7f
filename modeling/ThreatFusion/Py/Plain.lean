import ThreatFusion.Lib.JsonParse
import ThreatFusion.Py.Text
/-
# Texts that JSON writes as they stand

Digests and identifiers have no character that `json.dumps` would escape, so their texts have two quotes
and nothing else to add. Any other text grows by at most six characters a byte (`length_quote_le`).
-/
namespace ThreatFusion.Py
open JsonText

theorem isHexLower_bounds {c : Char} (h : isHexLower c = true) :
    48 ≤ c.toNat ∧ c.toNat ≤ 57 ∨ 97 ≤ c.toNat ∧ c.toNat ≤ 102 := by
  simp only [isHexLower, Bool.or_eq_true, Bool.and_eq_true, decide_eq_true_eq, Char.le_def,
    UInt32.le_iff_toNat_le] at h
  exact h

/-- Neither the quote (34) nor the backslash (92) lies in these ranges. -/
theorem isPlain_of_bounds {c : Char} (h : 48 ≤ c.toNat ∧ c.toNat ≤ 90 ∨ 95 ≤ c.toNat ∧ c.toNat ≤ 122 ∨
    45 ≤ c.toNat ∧ c.toNat ≤ 46) : isPlain c = true := by
  have hquote : c ≠ '"' := by
    rintro rfl
    revert h
    decide
  have hslash : c ≠ '\\' := by
    rintro rfl
    revert h
    decide
  rw [isPlain, bne_iff_ne.2 hquote, bne_iff_ne.2 hslash, Bool.and_true, Bool.and_true, Bool.and_eq_true,
    decide_eq_true_eq, decide_eq_true_eq]
  omega

theorem isPlain_of_isHexLower {c : Char} (h : isHexLower c = true) : isPlain c = true := by
  refine isPlain_of_bounds ?_
  have hbounds := isHexLower_bounds h
  omega

theorem isPlain_of_isSha256 {s : String} (h : isSha256 s = true) : s.toList.all isPlain = true ∧ s.length = 64 := by
  rw [isSha256, Bool.and_eq_true, beq_iff_eq, String.length_toList, isHexDigest, List.all_eq_true] at h
  exact ⟨List.all_eq_true.2 fun c hc => isPlain_of_isHexLower (h.2 c hc), h.1⟩

theorem isPlain_of_isUuid4 {s : String} (h : isUuid4 s = true) :
    s.toList.all isPlain = true ∧ s.length = 36 := by
  simp only [isUuid4, Bool.and_eq_true, beq_iff_eq, List.all_eq_true] at h
  refine ⟨List.all_eq_true.2 fun c hc => ?_, h.1⟩
  obtain ⟨i, hi⟩ := List.mem_iff_getElem?.1 hc
  have hat : uuid4At i c = true := h.2 (c, i) (by simpa [List.mem_zipIdx_iff_getElem?] using hi)
  unfold uuid4At at hat
  split at hat
  · rw [beq_iff_eq] at hat
    subst hat; decide
  · split at hat
    · rw [beq_iff_eq] at hat
      subst hat; decide
    · split at hat
      · simp only [Bool.or_eq_true, beq_iff_eq] at hat
        rcases hat with ((rfl | rfl) | rfl) | rfl <;> decide
      · exact isPlain_of_isHexLower hat

/-- A digest behind its prefix. -/
theorem isPlain_of_prefixed {pre s : String} (hpre : pre.toList.all isPlain = true)
    (hbegins : pre.toList.isPrefixOf s.toList = true)
    (hdigest : isSha256 (String.ofList (s.toList.drop pre.length)) = true) :
    s.toList.all isPlain = true ∧ s.length = pre.length + 64 := by
  obtain ⟨hplain, hlength⟩ := isPlain_of_isSha256 hdigest
  rw [String.toList_ofList] at hplain
  rw [String.length_ofList, List.length_drop, String.length_toList] at hlength
  have hsplit := List.take_append_drop pre.length s.toList
  have htake : s.toList.take pre.length = pre.toList :=
    (List.prefix_iff_eq_take.1 (List.isPrefixOf_iff_prefix.1 hbegins)).symm
  constructor
  · rw [← hsplit, htake, List.all_append, hpre, hplain]
    rfl
  · omega

/-! ## Any text -/

/-- An escape has six characters, or twelve for the four bytes beyond the first plane. -/
theorem length_escape_le (c : Char) : (escape c).length ≤ 6 * c.utf8Size := by
  have hpos : 1 ≤ c.utf8Size := c.utf8Size_pos
  rcases escape_cases c with ⟨-, h⟩ | ⟨-, e, h, -⟩ | ⟨-, h⟩ | ⟨hbeyond, h⟩
  · rw [h, List.length_singleton]
    omega
  · rw [h]
    exact Nat.mul_le_mul (show 2 ≤ 6 by decide) hpos
  · rw [h]
    exact Nat.mul_le_mul (Nat.le_refl 6) hpos
  · have hval : 0x10000 ≤ c.val.toNat := hbeyond
    have htwo : 2 ≤ c.utf8Size := by
      rw [Char.utf8Size, if_neg]
      · split
        · decide
        · split <;> decide
      · rw [UInt32.le_iff_toNat_le]
        exact fun hle => absurd (hval.trans hle) (by decide)
    rw [h]
    exact Nat.mul_le_mul (Nat.le_refl 6) htwo

theorem length_quote_le (s : String) : (quote s).length ≤ 2 + 6 * (utf8 s).length := by
  have hchars : ∀ cs : List Char, (cs.flatMap escape).length ≤ 6 * (cs.flatMap String.utf8EncodeChar).length := by
    intro cs
    induction cs with
    | nil => exact Nat.zero_le _
    | cons c cs ih =>
      have hc := length_escape_le c
      rw [List.flatMap_cons, List.flatMap_cons, List.length_append, List.length_append, String.length_utf8EncodeChar]
      omega
  have hs := hchars s.toList
  rw [utf8_eq, quote, List.length_cons, List.length_append, List.length_singleton]
  omega

end ThreatFusion.Py
