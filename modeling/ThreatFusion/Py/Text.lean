import Mathlib.Data.List.Basic
import Mathlib.Data.String.Basic
/-
# Text predicates and byte encodings shared by every boundary

| here | there |
| --- | --- |
| `isSha256`         | `_is_sha256` (`producer_admission.py:139`, `alert_candidate.py:29`) |
| `isUuid4`          | `_is_uuid4` (`producer_admission.py:143`): canonical text, version 4, RFC 4122 variant |
| `isOwnershipToken` | `_is_ownership_token` (`producer_replay_journal.py:186`): canonical base64url of 32 bytes |
| `strip`, `isBlank` | `s.strip()`, `not s.strip()` |
| `utf8`             | `s.encode("utf-8")` (and `encode("ascii")` of ASCII text) |
| `decodeUtf8`       | `b.decode("utf-8")`; `none` is `UnicodeDecodeError` |
| `packBE`           | `struct.pack(">I", n)` (`w = 4`) and `struct.pack(">Q", n)` (`w = 8`) |
-/
namespace ThreatFusion.Py

abbrev Bytes := List UInt8

def utf8 (s : String) : Bytes := s.toUTF8.data.toList

def decodeUtf8 (b : Bytes) : Option (List Char) := (ByteArray.mk b.toArray).utf8Decode?.map Array.toList

/-- Big-endian, `w` bytes. -/
def packBE : Nat → Nat → Bytes
  | 0, _ => []
  | w + 1, n => packBE w (n / 256) ++ [UInt8.ofNat (n % 256)]

def isHexLower (c : Char) : Bool := ('0' ≤ c && c ≤ '9') || ('a' ≤ c && c ≤ 'f')

def isHexDigest (s : String) : Bool := s.toList.all isHexLower

def isSha256 (s : String) : Bool := s.toList.length == 64 && isHexDigest s

/-- What stands at position `i` of a canonical lower-case version-4 UUID. -/
def uuid4At (i : Nat) (c : Char) : Bool :=
  if i == 8 || i == 13 || i == 18 || i == 23 then c == '-'
  else if i == 14 then c == '4'
  else if i == 19 then c == '8' || c == '9' || c == 'a' || c == 'b'
  else isHexLower c

def isUuid4 (s : String) : Bool :=
  s.toList.length == 36 && s.toList.zipIdx.all fun p => uuid4At p.2 p.1

/-- The six bits of one base64url character. -/
def base64urlValue (c : Char) : Option Nat :=
  if 'A' ≤ c && c ≤ 'Z' then some (c.toNat - 65)
  else if 'a' ≤ c && c ≤ 'z' then some (c.toNat - 97 + 26)
  else if '0' ≤ c && c ≤ '9' then some (c.toNat - 48 + 52)
  else if c == '-' then some 62
  else if c == '_' then some 63
  else none

/-- 43 characters carry 258 bits: the last two must be zero for the text to be canonical. -/
def isOwnershipToken (s : String) : Bool :=
  s.length == 43 && s.toList.all (fun c => (base64urlValue c).isSome) &&
    (s.toList.getLast?.bind base64urlValue).any (fun v => v % 4 == 0)

/-- `str.isspace()` on one character. -/
def isSpace (c : Char) : Bool :=
  let n := c.toNat
  (9 ≤ n && n ≤ 13) || (28 ≤ n && n ≤ 32) || n == 0x85 || n == 0xA0 || n == 0x1680 ||
    (0x2000 ≤ n && n ≤ 0x200A) || n == 0x2028 || n == 0x2029 || n == 0x202F || n == 0x205F || n == 0x3000

def strip (s : String) : String :=
  String.ofList ((s.toList.dropWhile isSpace).reverse.dropWhile isSpace).reverse

def isBlank (s : String) : Bool := s.toList.all isSpace

/-! ## Bytes of a text -/

theorem utf8_eq (s : String) : utf8 s = s.toList.flatMap String.utf8EncodeChar := by
  obtain ⟨cs, rfl⟩ : ∃ cs, s = String.ofList cs := ⟨s.toList, by simp⟩
  simp [utf8, String.toUTF8, String.toByteArray_ofList, List.utf8Encode, List.data_toByteArray]

theorem utf8_inj {s t : String} : utf8 s = utf8 t ↔ s = t := by
  refine ⟨fun h => ?_, fun h => h ▸ rfl⟩
  exact String.toByteArray_inj.1 (ByteArray.ext (Array.toList_inj.1 h))

theorem length_utf8_le (s : String) : (utf8 s).length ≤ 4 * s.length := by
  rw [utf8_eq, ← String.length_toList]
  induction s.toList with
  | nil => simp
  | cons c cs ih =>
    have hc := c.utf8Size_le_four
    rw [List.flatMap_cons, List.length_append, String.length_utf8EncodeChar, List.length_cons]
    omega

/-- What was encoded is decoded as it was. -/
theorem decodeUtf8_utf8 (s : String) : decodeUtf8 (utf8 s) = some s.toList := by
  have hencode : ByteArray.mk (utf8 s).toArray = s.toList.utf8Encode := by
    rw [utf8_eq, List.utf8Encode]
    apply ByteArray.ext
    rw [List.data_toByteArray]
  rw [decodeUtf8, hencode, List.utf8Decode?_utf8Encode]
  simp

end ThreatFusion.Py
