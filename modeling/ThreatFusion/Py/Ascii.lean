import ThreatFusion.Lib.Delimited
import ThreatFusion.Py.Text
/-
# ASCII texts and their bytes

| here | there |
| --- | --- |
| `ascii`       | `text.encode("ascii")`, for a text that is ASCII |
| `decodeAscii` | `data.decode("ascii")`; `none` is `UnicodeDecodeError` |
| `lower`       | `text.lower()`, for a text that is ASCII |
| `CRLF`        | `b"\r\n"` |
| `headerText`  | `name + ": " + value`, a header line |
-/
namespace ThreatFusion.Py
open Delimited

def CRLF : Bytes := [13, 10]

def ascii (text : List Char) : Bytes := text.map fun c => UInt8.ofNat c.toNat

/-- The characters of ASCII bytes. -/
def asciiChars (b : Bytes) : List Char := b.map fun u => Char.ofNat u.toNat

def decodeAscii (b : Bytes) : Option (List Char) := if b.all (· < 128) then some (asciiChars b) else none

/-- `data.lower()`. -/
def lowerBytes (b : Bytes) : Bytes := b.map fun u => if 65 ≤ u ∧ u ≤ 90 then u + 32 else u

def lower (s : String) : String := String.ofList (s.toList.map Char.toLower)

/-- Every character is ASCII. -/
def IsAscii (text : List Char) : Prop := ∀ c ∈ text, c.toNat < 128

instance (text : List Char) : Decidable (IsAscii text) := List.decidableBAll (fun c : Char => c.toNat < 128) text

/-- No control character and nothing above ASCII. -/
def isPrintable (text : List Char) : Bool := text.all fun c => 32 ≤ c.toNat && c.toNat ≤ 126

theorem isPrintable_iff {text : List Char} :
    isPrintable text = true ↔ ∀ c ∈ text, 32 ≤ c.toNat ∧ c.toNat ≤ 126 := by
  simp [isPrintable]

theorem ascii_append (s t : List Char) : ascii (s ++ t) = ascii s ++ ascii t := List.map_append

theorem ascii_cons (c : Char) (t : List Char) : ascii (c :: t) = UInt8.ofNat c.toNat :: ascii t := rfl

theorem ascii_flatMap {α : Type} (f : α → List Char) (xs : List α) :
    ascii (xs.flatMap f) = xs.flatMap fun x => ascii (f x) := by
  induction xs with
  | nil => rfl
  | cons x xs ih => rw [List.flatMap_cons, List.flatMap_cons, ascii_append, ih]

theorem isAscii_append {s t : List Char} : IsAscii (s ++ t) ↔ IsAscii s ∧ IsAscii t := by
  simp only [IsAscii, List.mem_append]
  exact ⟨fun h => ⟨fun c hc => h c (.inl hc), fun c hc => h c (.inr hc)⟩,
    fun h c hc => hc.elim (h.1 c) (h.2 c)⟩

/-- A byte of an ASCII text is the code of one of its characters. -/
theorem mem_ascii {text : List Char} {u : UInt8} (h : IsAscii text) (hu : u ∈ ascii text) :
    ∃ c ∈ text, c.toNat = u.toNat := by
  obtain ⟨c, hc, rfl⟩ := List.mem_map.mp hu
  refine ⟨c, hc, ?_⟩
  have := h c hc
  rw [UInt8.toNat_ofNat', Nat.mod_eq_of_lt (by omega)]

theorem asciiChars_ascii {text : List Char} (h : IsAscii text) : asciiChars (ascii text) = text := by
  rw [asciiChars, ascii, List.map_map]
  conv_rhs => rw [← List.map_id text]
  apply List.map_congr_left
  intro c hc
  have := h c hc
  rw [Function.comp_apply, UInt8.toNat_ofNat', Nat.mod_eq_of_lt (by omega), Char.ofNat_toNat]
  rfl

theorem decodeAscii_ascii {text : List Char} (h : IsAscii text) : decodeAscii (ascii text) = some text := by
  have hall : (ascii text).all (· < 128) = true := by
    rw [List.all_eq_true]
    intro u hu
    obtain ⟨c, hc, hcu⟩ := mem_ascii h hu
    have := h c hc
    simp only [decide_eq_true_eq, UInt8.lt_iff_toNat_lt]
    rw [← hcu]
    exact this
  rw [decodeAscii, if_pos hall, asciiChars_ascii h]

theorem toNat_ofNat : ∀ n < 128, (Char.ofNat n).toNat = n := by decide

theorem ascii_asciiChars {b : Bytes} (h : ∀ u ∈ b, u.toNat < 128) : ascii (asciiChars b) = b := by
  rw [ascii, asciiChars, List.map_map]
  conv_rhs => rw [← List.map_id b]
  apply List.map_congr_left
  intro u hu
  rw [Function.comp_apply, toNat_ofNat _ (h u hu)]
  simp

theorem isAscii_asciiChars {b : Bytes} (h : ∀ u ∈ b, u.toNat < 128) : IsAscii (asciiChars b) := by
  intro c hc
  obtain ⟨u, hu, rfl⟩ := List.mem_map.mp hc
  rw [toNat_ofNat _ (h u hu)]
  exact h u hu

theorem decodeAscii_eq {b : Bytes} {text : List Char} (h : decodeAscii b = some text) :
    b = ascii text ∧ IsAscii text := by
  unfold decodeAscii at h
  split_ifs at h with hall
  obtain rfl := Option.some.inj h
  have hsmall : ∀ u ∈ b, u.toNat < 128 := by
    intro u hu
    have := List.all_eq_true.mp hall u hu
    rw [decide_eq_true_eq, UInt8.lt_iff_toNat_lt] at this
    exact this
  exact ⟨(ascii_asciiChars hsmall).symm, isAscii_asciiChars hsmall⟩

theorem ascii_inj {s t : List Char} (hs : IsAscii s) (ht : IsAscii t) : ascii s = ascii t ↔ s = t := by
  refine ⟨fun h => ?_, fun h => h ▸ rfl⟩
  rw [← asciiChars_ascii hs, h, asciiChars_ascii ht]

/-- Lower case, on the bytes and on the characters. -/
theorem lowerBytes_ascii {text : List Char} (h : IsAscii text) :
    lowerBytes (ascii text) = ascii (text.map Char.toLower) := by
  have key : ∀ n < 128, (if 65 ≤ UInt8.ofNat n ∧ UInt8.ofNat n ≤ 90 then UInt8.ofNat n + 32 else UInt8.ofNat n) =
      UInt8.ofNat (Char.ofNat n).toLower.toNat := by decide
  rw [lowerBytes, ascii, ascii, List.map_map, List.map_map]
  apply List.map_congr_left
  intro c hc
  have := key c.toNat (h c hc)
  rwa [Char.ofNat_toNat] at this

theorem isAscii_bounds {text : List Char} {a b : Nat} (h : ∀ c ∈ text, a ≤ c.toNat ∧ c.toNat ≤ b) (hb : b < 128) :
    IsAscii text := fun c hc => Nat.lt_of_le_of_lt (h c hc).2 hb

theorem map_toNat_ascii {text : List Char} (h : IsAscii text) : (ascii text).map UInt8.toNat = text.map Char.toNat := by
  rw [ascii, List.map_map]
  apply List.map_congr_left
  intro c hc
  have := h c hc
  rw [Function.comp_apply, UInt8.toNat_ofNat', Nat.mod_eq_of_lt (by omega)]

/-- `character < 32 or character > 126`, for no byte of a text. -/
theorem printable_ascii {text : List Char} (h : IsAscii text) :
    (ascii text).any (fun u => u < 32 || 126 < u) = false ↔ ∀ c ∈ text, 32 ≤ c.toNat ∧ c.toNat ≤ 126 := by
  have hcode : ∀ c ∈ text, (UInt8.ofNat c.toNat).toNat = c.toNat := by
    intro c hc
    have := h c hc
    rw [UInt8.toNat_ofNat', Nat.mod_eq_of_lt (by omega)]
  rw [ascii, List.any_map, List.any_eq_false]
  apply forall_congr'
  intro c
  apply forall_congr'
  intro hc
  rw [Function.comp_apply, Bool.or_eq_true, decide_eq_true_eq, decide_eq_true_eq, UInt8.lt_iff_toNat_lt,
    UInt8.lt_iff_toNat_lt, hcode c hc]
  have h32 : (32 : UInt8).toNat = 32 := rfl
  have h126 : (126 : UInt8).toNat = 126 := rfl
  omega

/-- A printable line that is not empty has no part of a line end. -/
theorem line_clean {text : List Char} (h : ∀ c ∈ text, 32 ≤ c.toNat ∧ c.toNat ≤ 126) (hne : text ≠ []) :
    ascii text ≠ [] ∧ 13 ∉ ascii text ∧ 10 ∉ ascii text := by
  have hcontrol (u : UInt8) (hu : u.toNat < 32) : u ∉ ascii text := by
    intro hmem
    obtain ⟨c, hc, hcode⟩ := mem_ascii (isAscii_bounds h (by decide)) hmem
    have := h c hc
    omega
  exact ⟨by simpa [ascii] using hne, hcontrol 13 (by decide), hcontrol 10 (by decide)⟩

/-! ## Header lines -/

def headerText (name value : List Char) : List Char := name ++ ':' :: ' ' :: value

theorem ascii_headerText (name value : List Char) :
    ascii (headerText name value) = ascii name ++ [58, 32] ++ ascii value := by
  rw [headerText, ascii_append, ascii_cons, ascii_cons, List.append_assoc]
  rfl

/-- `line.split(b": ", 1)`, for a name without a colon. -/
theorem cut_headerText {name : List Char} (hname : IsAscii name) (hcolon : ':' ∉ name) (value : List Char) :
    cut [58, 32] (ascii (headerText name value)) = some (ascii name, ascii value) := by
  rw [ascii_headerText]
  apply cut_first
  intro hmem
  obtain ⟨c, hc, hcode⟩ := mem_ascii hname hmem
  have hc' : c = ':' := Char.toNat_inj.mp hcode
  exact hcolon (hc' ▸ hc)

end ThreatFusion.Py
