import ThreatFusion.Py.Text
/-
# Base64url without padding

| here | there |
| --- | --- |
| `urlsafeB64encode` | `base64.urlsafe_b64encode(data).rstrip(b"=").decode()` |
| `b64decode`        | `base64.b64decode(value + "=", altchars=b"-_", validate=True)`, for 43 characters of the alphabet |
| `isNonce`          | `_is_nonce` (`producer_admission.py`:146-153) |

The decoder drops the low bits of a last character; the comparison with what is encoded again finds them.
So the nonces are the texts of 32 bytes (`isNonce_iff`).
-/
namespace ThreatFusion.Py

def base64urlChar (n : Nat) : Char :=
  "ABCDEFGHIJKLMNOPQRSTUVWXYZabcdefghijklmnopqrstuvwxyz0123456789-_".toList.getD n 'A'

def urlsafeB64encode : Bytes → List Char
  | x :: y :: z :: rest =>
    base64urlChar (x.toNat / 4) :: base64urlChar (x.toNat % 4 * 16 + y.toNat / 16) ::
      base64urlChar (y.toNat % 16 * 4 + z.toNat / 64) :: base64urlChar (z.toNat % 64) :: urlsafeB64encode rest
  | [x, y] => [base64urlChar (x.toNat / 4), base64urlChar (x.toNat % 4 * 16 + y.toNat / 16),
      base64urlChar (y.toNat % 16 * 4)]
  | [x] => [base64urlChar (x.toNat / 4), base64urlChar (x.toNat % 4 * 16)]
  | [] => []

/-- From the six bits of each character. -/
def b64decode : List Nat → Bytes
  | a :: b :: c :: d :: rest =>
    UInt8.ofNat (a * 4 + b / 16) :: UInt8.ofNat (b % 16 * 16 + c / 4) :: UInt8.ofNat (c % 4 * 64 + d) :: b64decode rest
  | [a, b, c] => [UInt8.ofNat (a * 4 + b / 16), UInt8.ofNat (b % 16 * 16 + c / 4)]
  | [a, b] => [UInt8.ofNat (a * 4 + b / 16)]
  | _ => []

def isNonce (value : String) : Bool :=
  value.toList.length == 43 && value.toList.all (fun c => (base64urlValue c).isSome) &&
    (let decoded := b64decode (value.toList.map fun c => (base64urlValue c).getD 0)
     decoded.length == 32 && urlsafeB64encode decoded == value.toList)

theorem base64urlValue_char : ∀ {n : Nat}, n < 64 → base64urlValue (base64urlChar n) = some n := by
  have key : ∀ n < 64, base64urlValue (base64urlChar n) = some n := by decide +kernel
  exact fun {n} hn => key n hn

theorem getD_base64urlChar {n : Nat} (h : n < 64) : (base64urlValue (base64urlChar n)).getD 0 = n := by
  rw [base64urlValue_char h]
  rfl

theorem ofNat_eq {x : UInt8} {n : Nat} (h : n = x.toNat) : UInt8.ofNat n = x := by rw [h, UInt8.ofNat_toNat]

/-- **What was encoded is decoded.** -/
theorem b64decode_encode (data : Bytes) :
    b64decode ((urlsafeB64encode data).map fun c => (base64urlValue c).getD 0) = data := by
  induction data using urlsafeB64encode.induct with
  | case1 x y z rest ih =>
    have hx := x.toNat_lt
    have hy := y.toNat_lt
    have hz := z.toNat_lt
    rw [urlsafeB64encode, List.map_cons, List.map_cons, List.map_cons, List.map_cons, b64decode, ih,
      getD_base64urlChar (by omega), getD_base64urlChar (by omega), getD_base64urlChar (by omega),
      getD_base64urlChar (by omega), ofNat_eq (x := x) (by omega), ofNat_eq (x := y) (by omega),
      ofNat_eq (x := z) (by omega)]
  | case2 x y =>
    have hx := x.toNat_lt
    have hy := y.toNat_lt
    rw [urlsafeB64encode, List.map_cons, List.map_cons, List.map_cons, List.map_nil, b64decode,
      getD_base64urlChar (by omega), getD_base64urlChar (by omega), getD_base64urlChar (by omega),
      ofNat_eq (x := x) (by omega), ofNat_eq (x := y) (by omega)]
  | case3 x =>
    have hx := x.toNat_lt
    rw [urlsafeB64encode, List.map_cons, List.map_cons, List.map_nil, b64decode,
      getD_base64urlChar (by omega), getD_base64urlChar (by omega), ofNat_eq (x := x) (by omega)]
  | case4 => rfl

theorem length_urlsafeB64encode (data : Bytes) : (urlsafeB64encode data).length = (4 * data.length + 2) / 3 := by
  induction data using urlsafeB64encode.induct with
  | case1 x y z rest ih =>
    simp only [urlsafeB64encode, List.length_cons, ih]
    omega
  | case2 x y => simp [urlsafeB64encode]
  | case3 x => simp [urlsafeB64encode]
  | case4 => rfl

theorem urlsafeB64encode_alphabet (data : Bytes) : ∀ c ∈ urlsafeB64encode data, (base64urlValue c).isSome = true := by
  have hchar {n : Nat} (h : n < 64) : (base64urlValue (base64urlChar n)).isSome = true := by rw [base64urlValue_char h]; rfl
  induction data using urlsafeB64encode.induct with
  | case1 x y z rest ih =>
    have hx := x.toNat_lt
    have hy := y.toNat_lt
    have hz := z.toNat_lt
    intro c hc
    simp only [urlsafeB64encode, List.mem_cons] at hc
    rcases hc with rfl | rfl | rfl | rfl | hc
    · exact hchar (by omega)
    · exact hchar (by omega)
    · exact hchar (by omega)
    · exact hchar (by omega)
    · exact ih c hc
  | case2 x y =>
    have hx := x.toNat_lt
    have hy := y.toNat_lt
    intro c hc
    simp only [urlsafeB64encode, List.mem_cons, List.not_mem_nil, or_false] at hc
    rcases hc with rfl | rfl | rfl <;> exact hchar (by omega)
  | case3 x =>
    have hx := x.toNat_lt
    intro c hc
    simp only [urlsafeB64encode, List.mem_cons, List.not_mem_nil, or_false] at hc
    rcases hc with rfl | rfl <;> exact hchar (by omega)
  | case4 =>
    intro c hc
    exact absurd hc List.not_mem_nil

/-- **The nonces are the encodings of 32 bytes.** -/
theorem isNonce_iff {value : String} :
    isNonce value = true ↔ ∃ data : Bytes, data.length = 32 ∧ value = String.ofList (urlsafeB64encode data) := by
  simp only [isNonce, Bool.and_eq_true, beq_iff_eq]
  constructor
  · rintro ⟨-, hlength, hback⟩
    refine ⟨_, hlength, ?_⟩
    rw [hback, String.ofList_toList]
  · rintro ⟨data, hlength, rfl⟩
    rw [String.toList_ofList, b64decode_encode, length_urlsafeB64encode, hlength]
    exact ⟨⟨rfl, List.all_eq_true.mpr (urlsafeB64encode_alphabet data)⟩, rfl, rfl⟩

end ThreatFusion.Py
