import ThreatFusion.Py.Ascii
/-
# Decoding with replacement, and the newlines of a text file

| here | there |
| --- | --- |
| `decodeReplace`     | `b.decode("utf-8", errors="replace")`: a U+FFFD for each longest piece that starts a character and does not end it, and for each byte that starts none |
| `universalNewlines` | what reading in text mode with the default `newline=None` makes of `\r\n` and of a lone `\r` |

`decodeReplace` is a machine that takes one byte at a time. Between two characters it takes a whole
character to itself (`decodeReplace_encode_append`); a byte below 128 it always takes to itself
(`decodeFrom_ascii`).
-/
namespace ThreatFusion.Py

abbrev REPLACEMENT : Char := '\uFFFD'

/-- Inside a character: its bits so far, how many bytes are still to come, and the range of the next one. The
ranges leave out the characters that fewer bytes can write. -/
structure Pending where
  value : Nat
  owed : Nat
  low : Nat
  high : Nat
  tail : 0x80 ≤ low
  shortest : (owed ≤ 1 → 2 ≤ value) ∧ (value = 0 → 0x82 ≤ low)

def firstByte (b : Nat) : List Char × Option Pending :=
  if b < 0x80 then ([Char.ofNat b], none)
  else if h : 0xC2 ≤ b ∧ b ≤ 0xDF then ([], some ⟨b - 0xC0, 1, 0x80, 0xBF, by omega, by omega⟩)
  else if b = 0xE0 then ([], some ⟨0, 2, 0xA0, 0xBF, by omega, by omega⟩)
  else if b = 0xED then ([], some ⟨13, 2, 0x80, 0x9F, by omega, by omega⟩)
  else if h : 0xE1 ≤ b ∧ b ≤ 0xEF then ([], some ⟨b - 0xE0, 2, 0x80, 0xBF, by omega, by omega⟩)
  else if b = 0xF0 then ([], some ⟨0, 3, 0x90, 0xBF, by omega, by omega⟩)
  else if b = 0xF4 then ([], some ⟨4, 3, 0x80, 0x8F, by omega, by omega⟩)
  else if h : 0xF1 ≤ b ∧ b ≤ 0xF3 then ([], some ⟨b - 0xF0, 3, 0x80, 0xBF, by omega, by omega⟩)
  else ([REPLACEMENT], none)

/-- A byte out of range ends the character before it, and is read again as the first of one. -/
def laterByte (p : Pending) (b : Nat) : List Char × Option Pending :=
  if h : p.low ≤ b ∧ b ≤ p.high then
    let value := p.value * 64 + (b - 0x80)
    if p.owed ≤ 1 then ([Char.ofNat value], none)
    else ([], some ⟨value, p.owed - 1, 0x80, 0xBF, by omega, by have := p.tail; have := p.shortest; omega⟩)
  else (REPLACEMENT :: (firstByte b).1, (firstByte b).2)

def nextByte : Option Pending → Nat → List Char × Option Pending
  | none, b => firstByte b
  | some p, b => laterByte p b

def flush : Option Pending → List Char
  | none => []
  | some _ => [REPLACEMENT]

def decodeFrom : Option Pending → Bytes → List Char
  | s, [] => flush s
  | s, b :: bs => (nextByte s b.toNat).1 ++ decodeFrom (nextByte s b.toNat).2 bs

def decodeReplace (b : Bytes) : List Char := decodeFrom none b

def universalNewlines : List Char → List Char
  | [] => []
  | '\r' :: '\n' :: cs => '\n' :: universalNewlines cs
  | '\r' :: cs => '\n' :: universalNewlines cs
  | c :: cs => c :: universalNewlines cs

def encode (text : List Char) : Bytes := text.flatMap String.utf8EncodeChar

/-! ## Bytes below 128 -/

theorem nextByte_ascii {b : Nat} (h : b < 128) (s : Option Pending) : nextByte s b = (flush s ++ [Char.ofNat b], none) := by
  cases s with
  | none => simp [nextByte, firstByte, flush, h]
  | some p =>
    have hlow := p.tail
    have hrange : ¬ (p.low ≤ b ∧ b ≤ p.high) := by omega
    simp [nextByte, laterByte, hrange, firstByte, flush, h]

theorem decodeFrom_ascii {b : UInt8} (h : b.toNat < 128) (s : Option Pending) (bs : Bytes) :
    decodeFrom s (b :: bs) = flush s ++ Char.ofNat b.toNat :: decodeReplace bs := by
  rw [decodeFrom, nextByte_ascii h, decodeReplace, List.append_assoc]
  rfl

/-- What `Char.ofNat` makes of a number that a byte below 128 does not write. -/
theorem toNat_ofNat_of_le {n : Nat} (h : 128 ≤ n) : (Char.ofNat n).toNat = 0 ∨ 128 ≤ (Char.ofNat n).toNat := by
  unfold Char.ofNat
  by_cases hv : n.isValidChar
  · right
    -- the number of a character made from a valid one
    have hback : (Char.ofNatAux n hv).toNat = n := rfl
    rwa [dif_pos hv, hback]
  · left
    rw [dif_neg hv]
    rfl

theorem mem_firstByte {b : Nat} {c : Char} (hc : c ∈ (firstByte b).1) :
    b < 128 ∧ c = Char.ofNat b ∨ c = REPLACEMENT := by
  unfold firstByte at hc
  split_ifs at hc with h1
  · exact .inl ⟨h1, List.mem_singleton.mp hc⟩
  all_goals simp at hc
  exact .inr hc

theorem mem_nextByte {s : Option Pending} {b : Nat} {c : Char} (hc : c ∈ (nextByte s b).1)
    (hpos : 0 < c.toNat) (hascii : c.toNat < 128) : b = c.toNat := by
  have hfirst : c ∈ (firstByte b).1 → b = c.toNat := by
    intro h
    rcases mem_firstByte h with ⟨hb, rfl⟩ | rfl
    · exact (toNat_ofNat b hb).symm
    · exact absurd hascii (by decide)
  cases s with
  | none => exact hfirst hc
  | some p =>
    simp only [nextByte, laterByte] at hc
    split_ifs at hc with hrange howed
    · have hlow := p.tail
      have hshort := p.shortest
      simp only [List.mem_singleton] at hc
      rw [hc] at hpos hascii
      have hbig : 128 ≤ p.value * 64 + (b - 0x80) := by omega
      rcases toNat_ofNat_of_le hbig with h | h <;> omega
    · simp at hc
    · rcases List.mem_cons.mp hc with rfl | hc
      · exact absurd hascii (by decide)
      · exact hfirst hc

theorem not_mem_flush {c : Char} (hascii : c.toNat < 128) : ∀ s : Option Pending, c ∉ flush s
  | none, h => by cases h
  | some p, h => by
    obtain rfl := List.mem_singleton.mp h
    exact absurd hascii (by decide)

/-- A character below 128 comes out where its byte comes in. -/
theorem count_nextByte {c : Char} (hpos : 0 < c.toNat) (hascii : c.toNat < 128) (s : Option Pending) (b : UInt8) :
    (nextByte s b.toNat).1.count c = [b].count (UInt8.ofNat c.toNat) := by
  by_cases hb : b.toNat = c.toNat
  · have hbyte : UInt8.ofNat c.toNat = b := by rw [← hb, UInt8.ofNat_toNat]
    rw [nextByte_ascii (by omega), List.count_append, List.count_eq_zero.mpr (not_mem_flush hascii s), hb,
      Char.ofNat_toNat, hbyte]
    simp
  · have hbyte : b ≠ UInt8.ofNat c.toNat := by
      rintro rfl
      rw [UInt8.toNat_ofNat', Nat.mod_eq_of_lt (by omega)] at hb
      exact hb rfl
    rw [List.count_eq_zero.mpr fun h => hb (mem_nextByte h hpos hascii), List.count_cons_of_ne hbyte]
    rfl

theorem count_decodeFrom {c : Char} (hpos : 0 < c.toNat) (hascii : c.toNat < 128) (s : Option Pending) (bs : Bytes) :
    (decodeFrom s bs).count c = bs.count (UInt8.ofNat c.toNat) := by
  induction bs generalizing s with
  | nil => exact List.count_eq_zero.mpr (not_mem_flush hascii s)
  | cons b bs ih => rw [decodeFrom, List.count_append, count_nextByte hpos hascii, ih, ← List.count_append]; rfl

theorem decodeFrom_append_ascii {b : UInt8} (h : b.toNat < 128) (s : Option Pending) (before after : Bytes) :
    decodeFrom s (before ++ b :: after) = decodeFrom s before ++ Char.ofNat b.toNat :: decodeReplace after := by
  induction before generalizing s with
  | nil => exact decodeFrom_ascii h s after
  | cons x before ih => rw [List.cons_append, decodeFrom, ih, decodeFrom, List.append_assoc]

/-! ## The bytes of one character -/

def Tail (b : UInt8) : Prop := 0x80 ≤ b.toNat ∧ b.toNat ≤ 0xBF

/-- The bytes that are to come when `c` is begun. -/
inductive Completes : Pending → Bytes → Char → Prop
  | last {p : Pending} {b : UInt8} {c : Char} : nextByte (some p) b.toNat = ([c], none) → Tail b → Completes p [b] c
  | more {p q : Pending} {b : UInt8} {bs : Bytes} {c : Char} : nextByte (some p) b.toNat = ([], some q) → Tail b →
      Completes q bs c → Completes p (b :: bs) c

theorem nextByte_tail {b : UInt8} (h : Tail b) : nextByte none b.toNat = ([REPLACEMENT], none) := by
  obtain ⟨hlow, hhigh⟩ := h
  simp only [nextByte, firstByte]
  split_ifs <;> first | omega | rfl

section Encoding

variable {p : Pending} {n m v : Nat}

theorem firstByte_two (hn : 2 ≤ n ∧ n < 32) :
    ∃ p, firstByte (n + 0xC0) = ([], some p) ∧ p.value = n ∧ p.owed = 1 ∧ p.low = 0x80 ∧ p.high = 0xBF := by
  unfold firstByte
  rw [if_neg (by omega), dif_pos (by omega)]
  exact ⟨_, rfl, by simp, rfl, rfl, rfl⟩

theorem firstByte_three (hn : n < 16) (hm : m < 64) (hfit : (n = 0 → 32 ≤ m) ∧ (n = 13 → m < 32)) :
    ∃ p, firstByte (n + 0xE0) = ([], some p) ∧ p.value = n ∧ p.owed = 2 ∧ p.low ≤ m + 0x80 ∧ m + 0x80 ≤ p.high := by
  unfold firstByte
  rw [if_neg (by omega), dif_neg (by omega)]
  split_ifs with h0 h13 hmid
  · exact ⟨_, rfl, by simp; omega, rfl, by simp; omega, by simp; omega⟩
  · exact ⟨_, rfl, by simp; omega, rfl, by simp, by simp; omega⟩
  · exact ⟨_, rfl, by simp, rfl, by simp, by simp; omega⟩
  all_goals omega

theorem firstByte_four (hn : n < 5) (hm : m < 64) (hfit : (n = 0 → 16 ≤ m) ∧ (n = 4 → m < 16)) :
    ∃ p, firstByte (n + 0xF0) = ([], some p) ∧ p.value = n ∧ p.owed = 3 ∧ p.low ≤ m + 0x80 ∧ m + 0x80 ≤ p.high := by
  unfold firstByte
  rw [if_neg (by omega), dif_neg (by omega), if_neg (by omega), if_neg (by omega), dif_neg (by omega)]
  split_ifs with h0 h4 hmid
  · exact ⟨_, rfl, by simp; omega, rfl, by simp; omega, by simp; omega⟩
  · exact ⟨_, rfl, by simp; omega, rfl, by simp, by simp; omega⟩
  · exact ⟨_, rfl, by simp, rfl, by simp, by simp; omega⟩
  · omega

theorem nextByte_more (howed : 1 < p.owed) (hlow : p.low ≤ m + 0x80) (hhigh : m + 0x80 ≤ p.high) :
    ∃ q, nextByte (some p) (m + 0x80) = ([], some q) ∧ q.value = p.value * 64 + m ∧ q.owed = p.owed - 1 ∧
      q.low = 0x80 ∧ q.high = 0xBF := by
  simp only [nextByte, laterByte]
  rw [dif_pos ⟨hlow, hhigh⟩, if_neg (by omega)]
  exact ⟨_, rfl, by simp, rfl, rfl, rfl⟩

theorem nextByte_last (howed : p.owed = 1) (hlow : p.low ≤ m + 0x80) (hhigh : m + 0x80 ≤ p.high) :
    nextByte (some p) (m + 0x80) = ([Char.ofNat (p.value * 64 + m)], none) := by
  simp only [nextByte, laterByte]
  rw [dif_pos ⟨hlow, hhigh⟩, if_pos (by omega), Nat.add_sub_cancel]

theorem toNat_byte {n : Nat} (h : n < 256) : (UInt8.ofNat n).toNat = n := by
  rw [UInt8.toNat_ofNat', Nat.mod_eq_of_lt h]

theorem tail_byte (h : m < 64) : Tail (UInt8.ofNat (m + 0x80)) := by
  unfold Tail
  rw [toNat_byte (by omega)]
  omega

theorem completes_last {c : Char} (hm : m < 64) (howed : p.owed = 1) (hlow : p.low ≤ m + 0x80)
    (hhigh : m + 0x80 ≤ p.high) (hc : c.toNat = p.value * 64 + m) : Completes p [UInt8.ofNat (m + 0x80)] c := by
  refine .last ?_ (tail_byte hm)
  rw [toNat_byte (by omega), nextByte_last howed hlow hhigh, ← hc, Char.ofNat_toNat]

theorem completes_more {bs : Bytes} {c : Char} (hm : m < 64) (howed : 1 < p.owed) (hlow : p.low ≤ m + 0x80)
    (hhigh : m + 0x80 ≤ p.high)
    (hrest : ∀ q : Pending, q.value = p.value * 64 + m → q.owed = p.owed - 1 → q.low = 0x80 → q.high = 0xBF →
      Completes q bs c) : Completes p (UInt8.ofNat (m + 0x80) :: bs) c := by
  obtain ⟨q, hq, hvalue, hqowed, hqlow, hqhigh⟩ := nextByte_more howed hlow hhigh
  refine .more ?_ (tail_byte hm) (hrest q hvalue hqowed hqlow hqhigh)
  rw [toNat_byte (by omega), hq]

end Encoding

/-- A character is one byte below 128, or a first byte and the bytes that it asks for. -/
theorem encodeChar_bytes (c : Char) :
    (c.toNat < 128 ∧ String.utf8EncodeChar c = [UInt8.ofNat c.toNat]) ∨
      ∃ b bs p, String.utf8EncodeChar c = b :: bs ∧ nextByte none b.toNat = ([], some p) ∧ Completes p bs c := by
  have hvalid : c.toNat < 0xD800 ∨ 0xDFFF < c.toNat ∧ c.toNat < 0x110000 := c.valid
  have hval : c.val.toNat = c.toNat := rfl
  unfold String.utf8EncodeChar
  simp only [hval]
  split_ifs with h1 h2 h3
  · exact .inl ⟨by omega, rfl⟩
  · obtain ⟨p, hp, hvalue, howed, hlow, hhigh⟩ := firstByte_two (n := c.toNat / 64 % 0x20) (by omega)
    refine .inr ⟨_, _, p, rfl, ?_, completes_last (by omega) howed (by omega) (by omega) (by omega)⟩
    rw [toNat_byte (by omega)]
    exact hp
  · obtain ⟨p, hp, hvalue, howed, hlow, hhigh⟩ :=
      firstByte_three (n := c.toNat / 4096 % 0x10) (m := c.toNat / 64 % 0x40) (by omega) (by omega) (by omega)
    refine .inr ⟨_, _, p, rfl, ?_, completes_more (by omega) (by omega) hlow hhigh fun q hq hqowed hqlow hqhigh =>
      completes_last (by omega) (by omega) (by omega) (by omega) (by omega)⟩
    rw [toNat_byte (by omega)]
    exact hp
  · obtain ⟨p, hp, hvalue, howed, hlow, hhigh⟩ :=
      firstByte_four (n := c.toNat / 262144 % 0x08) (m := c.toNat / 4096 % 0x40) (by omega) (by omega) (by omega)
    refine .inr ⟨_, _, p, rfl, ?_, completes_more (by omega) (by omega) hlow hhigh fun q hq hqowed hqlow hqhigh =>
      completes_more (by omega) (by omega) (by omega) (by omega) fun r hr hrowed hrlow hrhigh =>
        completes_last (by omega) (by omega) (by omega) (by omega) (by omega)⟩
    rw [toNat_byte (by omega)]
    exact hp

theorem decodeFrom_completes {p : Pending} {bs : Bytes} {c : Char} (h : Completes p bs c) (rest : Bytes) :
    decodeFrom (some p) (bs ++ rest) = c :: decodeReplace rest := by
  induction h with
  | last hb =>
    rw [List.singleton_append, decodeFrom, hb]
    rfl
  | more hb _ _ ih =>
    rw [List.cons_append, decodeFrom, hb]
    exact ih

/-- Whole characters, decoded, are these characters. -/
theorem decodeReplace_encode_append (text : List Char) (rest : Bytes) :
    decodeReplace (encode text ++ rest) = text ++ decodeReplace rest := by
  induction text with
  | nil => rfl
  | cons c cs ih =>
    rw [encode, List.flatMap_cons, List.append_assoc, List.cons_append, ← ih]
    rcases encodeChar_bytes c with ⟨hascii, hbytes⟩ | ⟨b, bs, p, hbytes, hfirst, hrest⟩
    · rw [hbytes, List.singleton_append, decodeReplace, decodeFrom_ascii (by rw [toNat_byte] <;> omega),
        toNat_byte (by omega), Char.ofNat_toNat]
      rfl
    · rw [hbytes, List.cons_append, decodeReplace, decodeFrom, hfirst, List.nil_append, decodeFrom_completes hrest]
      rfl

theorem decodeReplace_encode (text : List Char) : decodeReplace (encode text) = text := by
  simpa [decodeReplace, decodeFrom, flush] using decodeReplace_encode_append text []

@[simp] theorem encode_nil : encode [] = [] := rfl

@[simp] theorem encode_cons (c : Char) (text : List Char) : encode (c :: text) = String.utf8EncodeChar c ++ encode text := rfl

/-- A text in front of some bytes is the start of the text that they decode to. -/
theorem encode_eq_append {text front : List Char} {rest : Bytes} (h : encode text = encode front ++ rest) :
    ∃ back, text = front ++ back ∧ rest = encode back := by
  have hdecoded := congrArg decodeReplace h
  rw [decodeReplace_encode, decodeReplace_encode_append] at hdecoded
  refine ⟨decodeReplace rest, hdecoded, ?_⟩
  rw [hdecoded, encode, List.flatMap_append] at h
  exact (List.append_cancel_left h).symm

theorem utf8_ofList (text : List Char) : utf8 (String.ofList text) = encode text := by
  rw [utf8_eq, String.toList_ofList, encode]

theorem decodeUtf8_encode (text : List Char) : decodeUtf8 (encode text) = some text := by
  rw [← utf8_ofList, decodeUtf8_utf8, String.toList_ofList]

theorem decodeUtf8_isSome_iff {b : Bytes} : (decodeUtf8 b).isSome ↔ ∃ text, b = encode text := by
  constructor
  · intro h
    rw [decodeUtf8, Option.isSome_map, ByteArray.isSome_utf8Decode?_iff] at h
    obtain ⟨text, htext⟩ := h
    have hdata := congrArg (fun a : ByteArray => a.data.toList) htext
    simp only [List.utf8Encode, List.data_toByteArray] at hdata
    exact ⟨text, hdata⟩
  · rintro ⟨text, rfl⟩
    rw [decodeUtf8_encode]
    rfl

theorem eq_encode_of_decodeUtf8 {b : Bytes} {text : List Char} (h : decodeUtf8 b = some text) : b = encode text := by
  obtain ⟨text', rfl⟩ := decodeUtf8_isSome_iff.mp (Option.isSome_of_eq_some h)
  rw [decodeUtf8_encode] at h
  rw [Option.some.inj h]

theorem count_encode {c : Char} (hpos : 0 < c.toNat) (hascii : c.toNat < 128) (text : List Char) :
    (encode text).count (UInt8.ofNat c.toNat) = text.count c := by
  rw [← count_decodeFrom hpos hascii none, ← decodeReplace, decodeReplace_encode]

/-! ## Newlines -/

theorem universalNewlines_of_not_mem {text : List Char} (h : '\r' ∉ text) : universalNewlines text = text := by
  fun_induction universalNewlines text with
  | case1 => rfl
  | case2 cs ih => simp at h
  | case3 cs hcs ih => simp at h
  | case4 c cs _ _ ih => rw [ih fun hmem => h (List.mem_cons_of_mem _ hmem)]

theorem not_mem_universalNewlines (text : List Char) : '\r' ∉ universalNewlines text := by
  fun_induction universalNewlines text with
  | case1 => simp
  | case2 cs ih => simpa using ih
  | case3 cs hcs ih => simpa using ih
  | case4 c cs _ hcr ih =>
    rw [List.mem_cons, not_or]
    refine ⟨?_, ih⟩
    rintro rfl
    exact hcr rfl

/-- No line end gets lost. -/
theorem count_universalNewlines_le (text : List Char) : text.count '\n' ≤ (universalNewlines text).count '\n' := by
  fun_induction universalNewlines text with
  | case1 => rfl
  | case2 cs ih => simpa using ih
  | case3 cs hcs ih =>
    rw [List.count_cons_of_ne (by decide), List.count_cons_self]
    omega
  | case4 c cs _ _ ih =>
    simp only [List.count_cons]
    omega

/-- A carriage return with no line feed behind it becomes a line end more. -/
theorem count_universalNewlines_lt {a b : List Char} (h : '\n' ∉ b) :
    (a ++ '\r' :: b).count '\n' < (universalNewlines (a ++ '\r' :: b)).count '\n' := by
  generalize htext : a ++ '\r' :: b = text
  fun_induction universalNewlines text generalizing a with
  | case1 => simp at htext
  | case2 cs ih =>
    rcases a with _ | ⟨x, _ | ⟨y, a⟩⟩
    · simp at htext
      subst htext
      simp at h
    · simp at htext
    · simp only [List.cons_append, List.cons.injEq] at htext
      obtain ⟨rfl, rfl, htext⟩ := htext
      simpa using ih htext
  | case3 cs hcs ih =>
    have hle := count_universalNewlines_le cs
    rw [List.count_cons_of_ne (by decide), List.count_cons_self]
    omega
  | case4 c cs hpair hcr ih =>
    rcases a with _ | ⟨x, a⟩
    · simp only [List.nil_append, List.cons.injEq] at htext
      obtain ⟨rfl, rfl⟩ := htext
      exact absurd rfl hcr
    · simp only [List.cons_append, List.cons.injEq] at htext
      obtain ⟨rfl, htext⟩ := htext
      have := ih htext
      simp only [List.count_cons]
      omega

end ThreatFusion.Py
