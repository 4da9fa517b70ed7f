import ThreatFusion.Lib.Lines
import ThreatFusion.Py.Utf8
import Mathlib.Data.List.ReduceOption
/-
# A stream of characters decoded piece by piece

`marked pieces` is the stream with a `none` where a piece ends, and `transcript` decodes it so: what a piece
end leaves of a character is replaced. A character that a piece end falls into becomes two or more U+FFFD,
any other is itself (`transcript_char`). So the lines of what is decoded are the lines of the stream if and
only if no piece that a line end still follows ends inside a character (`lines_pieces_iff`).
-/
namespace ThreatFusion.Py

open Lines

def transcript : Option Pending → List (Option UInt8) → List Char
  | s, [] => flush s
  | s, none :: ρ => flush s ++ transcript none ρ
  | s, some b :: ρ => (nextByte s b.toNat).1 ++ transcript (nextByte s b.toNat).2 ρ

def marked (pieces : List Bytes) : List (Option UInt8) := pieces.flatMap fun piece => piece.map some ++ [none]

/-- A piece ends, and bytes still follow. -/
def CutBefore (ρ : List (Option UInt8)) : Prop := ∃ ρ₁ ρ₂, ρ = ρ₁ ++ none :: ρ₂ ∧ ρ₂.reduceOption ≠ []

/-- A piece ends between two of the bytes. -/
def CutInside (ρ : List (Option UInt8)) : Prop :=
  ∃ ρ₁ ρ₂, ρ = ρ₁ ++ none :: ρ₂ ∧ ρ₁.reduceOption ≠ [] ∧ ρ₂.reduceOption ≠ []

/-- Each piece that a line end still follows ends where a character ends. -/
def Kept (τ : List (Option UInt8)) : Prop :=
  ∀ τ₁ τ₂, τ = τ₁ ++ none :: τ₂ → 10 ∈ τ₂.reduceOption → ∃ text, τ₁.reduceOption = encode text

/-! ## Pieces -/

section Pieces

variable {pieces : List Bytes}

@[simp] theorem marked_nil : marked [] = [] := rfl

@[simp] theorem marked_cons (piece : Bytes) (pieces : List Bytes) :
    marked (piece :: pieces) = piece.map some ++ none :: marked pieces := by
  simp [marked]

theorem reduceOption_map_some (bs : Bytes) : (bs.map some).reduceOption = bs := by
  simp [List.reduceOption]

theorem reduceOption_marked (pieces : List Bytes) : (marked pieces).reduceOption = pieces.flatten := by
  induction pieces with
  | nil => rfl
  | cons piece pieces ih =>
    rw [marked_cons, List.reduceOption_append, reduceOption_map_some, List.reduceOption_cons_of_none, ih,
      List.flatten_cons]

theorem transcript_piece (s : Option Pending) (piece : Bytes) (ρ : List (Option UInt8)) :
    transcript s (piece.map some ++ none :: ρ) = decodeFrom s piece ++ transcript none ρ := by
  induction piece generalizing s with
  | nil => rfl
  | cons b bs ih => rw [List.map_cons, List.cons_append, transcript, ih, decodeFrom, List.append_assoc]

theorem transcript_marked (pieces : List Bytes) : transcript none (marked pieces) = pieces.flatMap decodeReplace := by
  induction pieces with
  | nil => rfl
  | cons piece pieces ih => rw [marked_cons, transcript_piece, ih, List.flatMap_cons, decodeReplace]

theorem marked_append (before after : List Bytes) : marked (before ++ after) = marked before ++ marked after := by
  simp [marked]

theorem marked_split {τ₁ τ₂ : List (Option UInt8)} (h : marked pieces = τ₁ ++ none :: τ₂) :
    ∃ before after, pieces = before ++ after ∧ τ₁.reduceOption = before.flatten ∧ τ₂ = marked after := by
  induction pieces generalizing τ₁ with
  | nil => simp at h
  | cons piece pieces ih =>
    rw [marked_cons] at h
    rcases List.append_eq_append_iff.mp h with ⟨mid, hτ, hrest⟩ | ⟨mid, hpiece, hrest⟩
    · cases mid with
      | nil =>
        obtain rfl := (List.cons.inj hrest).2
        refine ⟨[piece], pieces, rfl, ?_, rfl⟩
        rw [hτ, List.append_nil, reduceOption_map_some, List.flatten_singleton]
      | cons x mid =>
        rw [List.cons_append] at hrest
        obtain ⟨rfl, hmarked⟩ := List.cons.inj hrest
        obtain ⟨before, after, rfl, hbefore, rfl⟩ := ih hmarked
        refine ⟨piece :: before, after, rfl, ?_, rfl⟩
        rw [hτ, List.reduceOption_append, reduceOption_map_some, List.reduceOption_cons_of_none, hbefore,
          List.flatten_cons]
    · cases mid with
      | nil =>
        obtain rfl := (List.cons.inj hrest).2
        refine ⟨[piece], pieces, rfl, ?_, rfl⟩
        rw [List.append_nil] at hpiece
        rw [← hpiece, reduceOption_map_some, List.flatten_singleton]
      | cons x mid =>
        obtain ⟨rfl, -⟩ := List.cons.inj hrest
        have : none ∈ piece.map some := by
          rw [hpiece]
          simp
        simp at this

/-- `Kept` for a list of pieces. -/
theorem kept_marked : Kept (marked pieces) ↔ ∀ before after, pieces = before ++ after → 10 ∈ after.flatten →
    ∃ text, before.flatten = encode text := by
  constructor
  · intro h before after hpieces hmem
    rcases List.eq_nil_or_concat before with rfl | ⟨before, piece, rfl⟩
    · exact ⟨[], rfl⟩
    · obtain ⟨text, htext⟩ := h (marked before ++ piece.map some) (marked after)
        (by rw [hpieces, marked_append, List.concat_eq_append, marked_append]; simp)
        (by rwa [reduceOption_marked])
      refine ⟨text, ?_⟩
      rw [← htext, List.reduceOption_append, reduceOption_marked, reduceOption_map_some]
      simp
  · intro h τ₁ τ₂ hτ hmem
    obtain ⟨before, after, rfl, hbefore, rfl⟩ := marked_split hτ
    rw [reduceOption_marked] at hmem
    rw [hbefore]
    exact h before after rfl hmem

end Pieces

/-! ## One character -/

section Character

variable {ρ : List (Option UInt8)} {b : UInt8} {c : Char}

theorem cutBefore_none : CutBefore (none :: ρ) ↔ ρ.reduceOption ≠ [] := by
  constructor
  · rintro ⟨ρ₁, ρ₂, hρ, hne⟩
    rcases List.cons_eq_append_iff.mp hρ with ⟨-, hρ₂⟩ | ⟨ρ₁', -, rfl⟩
    · obtain rfl := (List.cons.inj hρ₂).2
      exact hne
    · rw [List.reduceOption_append, List.reduceOption_cons_of_none]
      simp [hne]
  · intro hne
    exact ⟨[], ρ, rfl, hne⟩

theorem cutBefore_some : CutBefore (some b :: ρ) ↔ CutBefore ρ := by
  constructor
  · rintro ⟨ρ₁, ρ₂, hρ, hne⟩
    rcases List.cons_eq_append_iff.mp hρ with ⟨-, hρ₂⟩ | ⟨ρ₁', -, rfl⟩
    · cases (List.cons.inj hρ₂).1
    · exact ⟨ρ₁', ρ₂, rfl, hne⟩
  · rintro ⟨ρ₁, ρ₂, rfl, hne⟩
    exact ⟨some b :: ρ₁, ρ₂, rfl, hne⟩

theorem cutInside_none : CutInside (none :: ρ) ↔ CutInside ρ := by
  constructor
  · rintro ⟨ρ₁, ρ₂, hρ, hne₁, hne₂⟩
    rcases List.cons_eq_append_iff.mp hρ with ⟨rfl, -⟩ | ⟨ρ₁', rfl, rfl⟩
    · exact absurd rfl hne₁
    · exact ⟨ρ₁', ρ₂, rfl, hne₁, hne₂⟩
  · rintro ⟨ρ₁, ρ₂, rfl, hne₁, hne₂⟩
    exact ⟨none :: ρ₁, ρ₂, rfl, hne₁, hne₂⟩

theorem cutInside_some : CutInside (some b :: ρ) ↔ CutBefore ρ := by
  constructor
  · rintro ⟨ρ₁, ρ₂, hρ, -, hne⟩
    exact cutBefore_some.mp ⟨ρ₁, ρ₂, hρ, hne⟩
  · rintro ⟨ρ₁, ρ₂, rfl, hne⟩
    refine ⟨some b :: ρ₁, ρ₂, rfl, ?_, hne⟩
    rw [List.reduceOption_cons_of_some]
    exact List.cons_ne_nil _ _

theorem transcript_silent {ρ : List (Option UInt8)} (h : ρ.reduceOption = []) (τ : List (Option UInt8)) :
    transcript none (ρ ++ τ) = transcript none τ := by
  induction ρ with
  | nil => rfl
  | cons x ρ ih =>
    cases x with
    | none => exact ih h
    | some b => simp at h

/-- A byte that starts no character is replaced, whatever ends behind it. -/
theorem transcript_tails (h : ∀ b ∈ ρ.reduceOption, Tail b) (τ : List (Option UInt8)) :
    transcript none (ρ ++ τ) = List.replicate ρ.reduceOption.length REPLACEMENT ++ transcript none τ := by
  induction ρ with
  | nil => rfl
  | cons x ρ ih =>
    cases x with
    | none => exact ih h
    | some b =>
      rw [List.reduceOption_cons_of_some] at h ⊢
      rw [List.cons_append, transcript, nextByte_tail (h b (List.mem_cons_self ..)),
        ih fun b hb => h b (List.mem_cons_of_mem _ hb)]
      rfl

theorem tail_of_completes {p : Pending} {bs : Bytes} (h : Completes p bs c) : bs ≠ [] ∧ ∀ b ∈ bs, Tail b := by
  induction h with
  | last _ htail => simpa using htail
  | more _ htail _ ih => simpa [htail] using ih.2

/-- What becomes of a character whose bytes stand in `ρ`: itself, or replacements when a piece ends in it. -/
structure Becomes (c : Char) (cut : Prop) (out : List Char) : Prop where
  whole : ¬ cut → out = [c]
  replaced : cut → 2 ≤ out.length ∧ ∀ x ∈ out, x = REPLACEMENT

theorem transcript_completes {p : Pending} (h : Completes p ρ.reduceOption c) :
    ∃ out, (∀ τ, transcript (some p) (ρ ++ τ) = out ++ transcript none τ) ∧ Becomes c (CutBefore ρ) out := by
  induction ρ generalizing p with
  | nil => exact absurd rfl (tail_of_completes h).1
  | cons x ρ ih =>
    cases x with
    | none =>
      obtain ⟨hne, htails⟩ := tail_of_completes h
      rw [List.reduceOption_cons_of_none] at hne htails
      refine ⟨REPLACEMENT :: List.replicate ρ.reduceOption.length REPLACEMENT, fun τ => ?_, fun hcut => ?_, fun _ => ?_⟩
      · rw [List.cons_append, transcript, transcript_tails htails]
        rfl
      · exact absurd (cutBefore_none.mpr hne) hcut
      · have hpos := List.length_pos_of_ne_nil hne
        simp only [List.length_cons, List.length_replicate, List.mem_cons, List.mem_replicate]
        refine ⟨by omega, ?_⟩
        rintro x (rfl | ⟨-, rfl⟩) <;> rfl
    | some b =>
      rw [List.reduceOption_cons_of_some] at h
      rw [cutBefore_some]
      generalize hrest : ρ.reduceOption = rest at h
      cases h with
      | last hb _ =>
        refine ⟨[c], fun τ => ?_, fun _ => rfl, fun hcut => ?_⟩
        · rw [List.cons_append, transcript, hb, transcript_silent hrest]
        · obtain ⟨ρ₁, ρ₂, hρ, hne⟩ := hcut
          rw [hρ, List.reduceOption_append] at hrest
          exact absurd (List.append_eq_nil_iff.mp hrest).2 hne
      | more hb _ hq =>
        obtain ⟨out, hout, hbecomes⟩ := ih (hrest ▸ hq)
        refine ⟨out, fun τ => ?_, hbecomes⟩
        rw [List.cons_append, transcript, hb, hout]
        rfl

/-- The bytes of one character, with pieces ending anywhere between them. -/
theorem transcript_char (h : ρ.reduceOption = String.utf8EncodeChar c) :
    ∃ out, (∀ τ, transcript none (ρ ++ τ) = out ++ transcript none τ) ∧ Becomes c (CutInside ρ) out := by
  induction ρ with
  | nil => exact absurd h.symm String.utf8EncodeChar_ne_nil
  | cons x ρ ih =>
    cases x with
    | none =>
      rw [cutInside_none]
      exact ih h
    | some b =>
      rw [List.reduceOption_cons_of_some] at h
      rw [cutInside_some]
      rcases encodeChar_bytes c with ⟨hascii, hbytes⟩ | ⟨first, bs, p, hbytes, hfirst, hrest⟩
      · rw [hbytes] at h
        obtain ⟨rfl, hnil⟩ := List.cons.inj h
        refine ⟨[c], fun τ => ?_, fun _ => rfl, fun ⟨ρ₁, ρ₂, hρ, hne⟩ => ?_⟩
        · rw [List.cons_append, transcript, toNat_byte (by omega), nextByte_ascii hascii, transcript_silent hnil,
            Char.ofNat_toNat]
          rfl
        · rw [hρ, List.reduceOption_append] at hnil
          exact absurd (List.append_eq_nil_iff.mp hnil).2 hne
      · rw [hbytes] at h
        obtain ⟨rfl, rfl⟩ := List.cons.inj h
        obtain ⟨out, hout, hbecomes⟩ := transcript_completes hrest
        refine ⟨out, fun τ => ?_, hbecomes⟩
        rw [List.cons_append, transcript, hfirst, hout]
        rfl

end Character

theorem count_transcript {c : Char} (hpos : 0 < c.toNat) (hascii : c.toNat < 128) (s : Option Pending)
    (τ : List (Option UInt8)) : (transcript s τ).count c = τ.reduceOption.count (UInt8.ofNat c.toNat) := by
  induction τ generalizing s with
  | nil => exact List.count_eq_zero.mpr (not_mem_flush hascii s)
  | cons x τ ih =>
    cases x with
    | none =>
      rw [transcript, List.count_append, List.count_eq_zero.mpr (not_mem_flush hascii s), ih, Nat.zero_add,
        List.reduceOption_cons_of_none]
    | some b =>
      rw [transcript, List.count_append, count_nextByte hpos hascii, ih, ← List.count_append,
        List.reduceOption_cons_of_some]
      rfl

/-! ## Lines -/

section Text

variable {ρ τ : List (Option UInt8)} {c : Char} {text : List Char}

theorem not_mem_transcript (h : 10 ∉ τ.reduceOption) : '\n' ∉ transcript none τ := by
  rw [← List.count_eq_zero, count_transcript (by decide) (by decide)]
  exact List.count_eq_zero.mpr h

/-- The line feed is the only character with a byte 10. -/
theorem lineFeed_mem_encodeChar : 10 ∈ String.utf8EncodeChar c ↔ c = '\n' := by
  have hcount := count_encode (c := '\n') (by decide) (by decide) [c]
  rw [encode_cons, encode_nil, List.append_nil] at hcount
  have hmem : 10 ∈ String.utf8EncodeChar c ↔ '\n' ∈ [c] := by
    rw [← List.count_pos_iff, ← List.count_pos_iff, ← hcount]
    rfl
  rw [hmem, List.mem_singleton, eq_comm]

/-- A stream is split behind the bytes of its first character. -/
theorem reduceOption_split {a b : Bytes} (h : τ.reduceOption = a ++ b) :
    ∃ ρ τ', τ = ρ ++ τ' ∧ ρ.reduceOption = a ∧ τ'.reduceOption = b := by
  induction τ generalizing a with
  | nil =>
    obtain ⟨rfl, rfl⟩ := List.append_eq_nil_iff.mp h.symm
    exact ⟨[], [], rfl, rfl, rfl⟩
  | cons x τ ih =>
    cases x with
    | none =>
      obtain ⟨ρ, τ', rfl, ha, hb⟩ := ih h
      exact ⟨none :: ρ, τ', rfl, ha, hb⟩
    | some y =>
      cases a with
      | nil => exact ⟨[], some y :: τ, rfl, rfl, h⟩
      | cons z a =>
        rw [List.reduceOption_cons_of_some, List.cons_append] at h
        obtain ⟨rfl, hrest⟩ := List.cons.inj h
        obtain ⟨ρ, τ', rfl, rfl, hb⟩ := ih hrest
        exact ⟨some y :: ρ, τ', rfl, rfl, hb⟩

/-- No character starts another. -/
theorem encode_front {front rest : Bytes} (hsplit : front ++ rest = String.utf8EncodeChar c) (hfront : front ≠ [])
    (hrest : rest ≠ []) : ¬ ∃ text, front = encode text := by
  rintro ⟨text, rfl⟩
  have hone : encode [c] = encode text ++ rest := by simp [hsplit]
  obtain ⟨back, hc, rfl⟩ := encode_eq_append hone
  cases text with
  | nil => exact hfront rfl
  | cons x text =>
    have hback : back = [] := by
      have := congrArg List.length hc
      simp only [List.length_append, List.length_cons, List.length_nil] at this
      exact List.eq_nil_of_length_eq_zero (by omega)
    exact hrest (by rw [hback]; rfl)

theorem kept_char (hρ : ρ.reduceOption = String.utf8EncodeChar c) (hmem : CutInside ρ → 10 ∈ τ.reduceOption) :
    Kept (ρ ++ τ) ↔ ¬ CutInside ρ ∧ Kept τ := by
  constructor
  · intro h
    refine ⟨?_, ?_⟩
    · rintro ⟨ρ₁, ρ₂, rfl, hne₁, hne₂⟩
      rw [List.reduceOption_append, List.reduceOption_cons_of_none] at hρ
      have hlater : 10 ∈ (ρ₂ ++ τ).reduceOption := by
        rw [List.reduceOption_append]
        exact List.mem_append_right _ (hmem ⟨ρ₁, ρ₂, rfl, hne₁, hne₂⟩)
      exact encode_front hρ hne₁ hne₂ (h ρ₁ (ρ₂ ++ τ) (by simp) hlater)
    · rintro τ₁ τ₂ rfl hlater
      obtain ⟨text, htext⟩ := h (ρ ++ τ₁) τ₂ (by simp) hlater
      rw [List.reduceOption_append, hρ] at htext
      have hfront : encode text = encode [c] ++ τ₁.reduceOption := by simp [htext]
      obtain ⟨back, -, hback⟩ := encode_eq_append hfront
      exact ⟨back, hback⟩
  · rintro ⟨hwhole, hkept⟩ τ₁ τ₂ hsplit hlater
    rcases List.append_eq_append_iff.mp hsplit with ⟨mid, rfl, hτ⟩ | ⟨mid, hmid, hτ⟩
    · obtain ⟨text, htext⟩ := hkept mid τ₂ hτ hlater
      refine ⟨c :: text, ?_⟩
      rw [List.reduceOption_append, hρ, htext, encode_cons]
    · cases mid with
      | nil =>
        rw [List.append_nil] at hmid
        exact ⟨[c], by rw [← hmid, hρ]; simp⟩
      | cons x mid =>
        rw [List.cons_append] at hτ
        obtain ⟨rfl, -⟩ := List.cons.inj hτ
        by_cases hne₁ : τ₁.reduceOption = []
        · exact ⟨[], hne₁⟩
        by_cases hne₂ : mid.reduceOption = []
        · refine ⟨[c], ?_⟩
          rw [hmid, List.reduceOption_append, List.reduceOption_cons_of_none, hne₂, List.append_nil] at hρ
          simp [hρ]
        · exact absurd ⟨τ₁, mid, hmid, hne₁, hne₂⟩ hwhole

/-- What the lines of a stream are and what they are decoded to: `ts` are the texts of its lines. -/
structure LinesOf (τ : List (Option UInt8)) (ts : List (List Char)) : Prop where
  bytes : lines 10 τ.reduceOption = ts.map encode
  longer : List.Forall₂ (fun t l => t.length ≤ l.length) ts (lines '\n' (transcript none τ))
  exactly_when : lines '\n' (transcript none τ) = ts ↔ Kept τ

theorem linesOf_unended (h : 10 ∉ τ.reduceOption) : LinesOf τ [] := by
  have hlines := lines_of_not_mem (not_mem_transcript h)
  refine ⟨lines_of_not_mem h, by rw [hlines]; exact .nil, ?_⟩
  rw [hlines]
  refine iff_of_true rfl ?_
  rintro τ₁ τ₂ rfl hmem
  refine absurd ?_ h
  rw [List.reduceOption_append, List.reduceOption_cons_of_none]
  exact List.mem_append_right _ hmem

theorem linesOf_lineFeed {ts : List (List Char)} (hρ : ρ.reduceOption = String.utf8EncodeChar '\n')
    (h : LinesOf τ ts) : LinesOf (ρ ++ τ) ([] :: ts) := by
  have hone : String.utf8EncodeChar '\n' = [10] := rfl
  have hwhole : ¬ CutInside ρ := by
    rintro ⟨ρ₁, ρ₂, rfl, hne₁, hne₂⟩
    have hlen := congrArg List.length (hρ.trans hone)
    rw [List.reduceOption_append, List.reduceOption_cons_of_none, List.length_append, List.length_singleton] at hlen
    have h₁ := List.length_pos_of_ne_nil hne₁
    have h₂ := List.length_pos_of_ne_nil hne₂
    omega
  obtain ⟨out, hout, hbecomes⟩ := transcript_char hρ
  have hlines : lines '\n' (transcript none (ρ ++ τ)) = [] :: lines '\n' (transcript none τ) := by
    rw [hout, hbecomes.whole hwhole]
    exact lines_cons_self
  refine ⟨?_, ?_, ?_⟩
  · rw [List.reduceOption_append, hρ, hone, List.map_cons, ← h.bytes]
    exact lines_cons_self
  · rw [hlines]
    exact .cons (Nat.zero_le _) h.longer
  · rw [hlines, kept_char hρ fun hcut => absurd hcut hwhole, ← h.exactly_when]
    simp [hwhole]

theorem linesOf_char {t : List Char} {ts : List (List Char)} (hc : c ≠ '\n')
    (hρ : ρ.reduceOption = String.utf8EncodeChar c) (h : LinesOf τ (t :: ts)) : LinesOf (ρ ++ τ) ((c :: t) :: ts) := by
  have hbyte : 10 ∉ String.utf8EncodeChar c := fun hmem => hc (lineFeed_mem_encodeChar.mp hmem)
  have hmem : 10 ∈ τ.reduceOption := by
    by_contra hmem
    have := h.bytes
    rw [lines_of_not_mem hmem] at this
    cases this
  obtain ⟨out, hout, hbecomes⟩ := transcript_char hρ
  have hbreak : '\n' ∉ out := by
    by_cases hcut : CutInside ρ
    · intro hmem
      exact absurd ((hbecomes.replaced hcut).2 _ hmem) (by decide)
    · rw [hbecomes.whole hcut, List.mem_singleton]
      exact Ne.symm hc
  have hbytes := h.bytes
  have hlonger := h.longer
  have hexactly := h.exactly_when
  obtain ⟨l, ls, hl⟩ : ∃ l ls, lines '\n' (transcript none τ) = l :: ls := by
    cases hl : lines '\n' (transcript none τ) with
    | nil =>
      rw [hl] at hlonger
      cases hlonger
    | cons l ls => exact ⟨l, ls, rfl⟩
  rw [hl] at hlonger hexactly
  obtain ⟨hfirst, hrest⟩ := List.forall₂_cons.mp hlonger
  have hlines : lines '\n' (transcript none (ρ ++ τ)) = (out ++ l) :: ls := by
    rw [hout, lines_append_of_not_mem hbreak, hl]
    rfl
  refine ⟨?_, ?_, ?_⟩
  · rw [List.reduceOption_append, hρ, lines_append_of_not_mem hbyte, hbytes]
    rfl
  · rw [hlines]
    refine .cons ?_ hrest
    by_cases hcut : CutInside ρ
    · have := (hbecomes.replaced hcut).1
      rw [List.length_append, List.length_cons]
      omega
    · rw [hbecomes.whole hcut]
      simpa using hfirst
  · rw [hlines, kept_char hρ fun _ => hmem, ← hexactly]
    by_cases hcut : CutInside ρ
    · refine iff_of_false ?_ fun h => h.1 hcut
      intro heq
      have hlen := congrArg List.length (List.cons.inj heq).1
      have := (hbecomes.replaced hcut).1
      rw [List.length_append, List.length_cons] at hlen
      omega
    · rw [hbecomes.whole hcut]
      simp [hcut]

/-- **Lines of a stream read in pieces.** For every stream that is cut off anywhere. -/
theorem exists_linesOf (text : List Char) (h : τ.reduceOption <+: encode text) : ∃ ts, LinesOf τ ts := by
  induction text generalizing τ with
  | nil =>
    refine ⟨[], linesOf_unended ?_⟩
    rw [List.prefix_nil.mp h]
    exact List.not_mem_nil
  | cons c text ih =>
    by_cases hmem : 10 ∈ τ.reduceOption
    · obtain ⟨mid, hmid, hrest⟩ : ∃ mid, τ.reduceOption = String.utf8EncodeChar c ++ mid ∧ mid <+: encode text := by
        obtain ⟨rest, hrest⟩ := h
        rcases List.append_eq_append_iff.mp hrest with ⟨mid, hchar, -⟩ | ⟨mid, hmid, htext⟩
        · have hfeed : c = '\n' := by
            rw [← lineFeed_mem_encodeChar, hchar]
            exact List.mem_append_left _ hmem
          subst hfeed
          have hlen := congrArg List.length hchar
          have hpos := List.length_pos_of_mem hmem
          have hone : (String.utf8EncodeChar '\n').length = 1 := rfl
          rw [List.length_append, hone] at hlen
          refine ⟨[], ?_, List.nil_prefix⟩
          rw [hchar, List.eq_nil_of_length_eq_zero (l := mid) (by omega)]
          simp
        · exact ⟨mid, hmid, rest, htext.symm⟩
      obtain ⟨ρ, τ', rfl, hρ, hτ'⟩ := reduceOption_split hmid
      obtain ⟨ts, hts⟩ := ih (hτ' ▸ hrest)
      by_cases hc : c = '\n'
      · subst hc
        exact ⟨_, linesOf_lineFeed hρ hts⟩
      · cases ts with
        | nil =>
          have hlines := hts.bytes
          rw [List.map_nil, lines_eq_nil_iff, hτ'] at hlines
          rw [hmid, List.mem_append] at hmem
          rcases hmem with hmem | hmem
          · exact absurd (lineFeed_mem_encodeChar.mp hmem) hc
          · exact absurd hmem hlines
        | cons t ts => exact ⟨_, linesOf_char hc hρ hts⟩
    · exact ⟨[], linesOf_unended hmem⟩

end Text

/-- **The lines of a text read in pieces are its lines** if and only if each piece that a line end still follows
ends where a character ends. -/
theorem lines_pieces_iff {pieces : List Bytes} {text : List Char} (h : pieces.flatten <+: encode text) :
    (lines '\n' (pieces.flatMap decodeReplace)).map some = (lines 10 pieces.flatten).map decodeUtf8 ↔
      ∀ before after, pieces = before ++ after → 10 ∈ after.flatten → ∃ text, before.flatten = encode text := by
  obtain ⟨ts, hts⟩ := exists_linesOf (τ := marked pieces) text (by rwa [reduceOption_marked])
  have hbytes := hts.bytes
  rw [reduceOption_marked] at hbytes
  have hdecoded : decodeUtf8 ∘ encode = some := funext decodeUtf8_encode
  rw [hbytes, List.map_map, hdecoded, ← transcript_marked, ← kept_marked, ← hts.exactly_when]
  exact (List.map_injective_iff.mpr fun _ _ => Option.some.inj).eq_iff

end ThreatFusion.Py
