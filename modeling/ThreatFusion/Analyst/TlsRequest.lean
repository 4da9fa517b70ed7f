import ThreatFusion.Lib.Decimal
import ThreatFusion.Lib.Delimited
import ThreatFusion.Lib.Fields
import ThreatFusion.Lib.JsonLayout
import ThreatFusion.Lib.Records
import ThreatFusion.Py.Ascii
/-
# What an analyst's client sends: the request (`api/analyst_tls_service.py`:153-239)

| here | there |
| --- | --- |
| `Source`      | the TLS socket: its records, and `recv` and `pending()` |
| `readHead`    | the loop up to the blank line (:156-175) |
| `parseHead`   | the `try` block: request line, headers and size (:182-216) |
| `readBody`    | the loop over the body (:219-233) |
| `readRequest` | `_read_request` |

A receive that brings nothing (`b""`, a timeout, an SSL error, the deadline) is the end of the
stream. `IsRequest` is the grammar; what stands between the two loops accepts its heads (`checkHead_ok`).
-/
namespace ThreatFusion.AnalystTls
open Py Delimited Records
open JsonText (lookup_iff_mem)

def ANALYST_HOST : String := "threatfusion-analyst-loopback"
def MAX_HEAD_BYTES : Nat := 4096
def MAX_BODY_BYTES : Nat := 2048
def HEADERS_GET : List String := ["host", "connection"]
def HEADERS_POST : List String := ["host", "connection", "content-type", "content-length"]

inductive ErrorCode where
  | connectionIdle | requestInvalid
deriving DecidableEq

/-- What can leave the code: `AnalystTlsError`, or an exception of the standard library. -/
inductive Raised where
  | analystTls (code : ErrorCode)
  | valueError | unicodeError | indexError | keyError
deriving DecidableEq

def invalid : Raised := .analystTls .requestInvalid

/-! ## The head -/

def isTarget (target : List Char) : Bool :=
  target.head? == some '/' && decide (target.length ≤ 256) && target.all fun c => 33 ≤ c.toNat && c.toNat ≤ 126

def parseRequestLine (line : Bytes) : Except Raised (String × String) :=
  match decodeAscii line with
  | none => .error .unicodeError
  | some text => match split [' '] text with
    | [method, target, version] =>
      if version ≠ "HTTP/1.1".toList ∨ String.ofList method ∉ ["GET", "POST"] ∨ isTarget target = false then
        .error .valueError
      else .ok (String.ofList method, String.ofList target)
    | _ => .error .valueError

def isLetter (n : Nat) : Bool := (65 ≤ n && n ≤ 90) || (97 ≤ n && n ≤ 122)

/-- `[A-Za-z][A-Za-z-]*`, on the codes. -/
def isHeaderName : List Nat → Bool
  | [] => false
  | n :: ns => isLetter n && ns.all fun m => isLetter m || m == 45

def readHeader (line : Bytes) : Except Raised (String × String) :=
  match cut [58, 32] line with
  | none => .error .valueError
  | some (name, value) =>
    if isHeaderName (name.map UInt8.toNat) = false ∨ value.any (fun u => u < 32 || 126 < u) then .error .valueError
    else match decodeAscii name, decodeAscii value with
      | some key, some text => .ok (lower (String.ofList key), String.ofList text)
      | _, _ => .error .unicodeError

/-- `headers[key]` of each line; a key twice is `ValueError`. -/
def parseHeaders (lines : List Bytes) : Except Raised (List (String × String)) :=
  Fields.collect readHeader .valueError (fun _ => none) lines []

/-- `set(keys) == set(allowed)`. -/
def sameKeys (keys allowed : List String) : Bool := keys.all allowed.contains && allowed.all keys.contains

/-- `_HEADERS_GET if method == "GET" else _HEADERS_POST`. -/
def allowedNames (method : String) : List String := if method = "GET" then HEADERS_GET else HEADERS_POST

/-- The checks of the headers; the size of the body. -/
def bodySize (method : String) (headers : List (String × String)) : Except Raised Nat :=
  if headers.lookup "host" ≠ some ANALYST_HOST ∨ headers.lookup "connection" ≠ some "close" then .error .valueError
  else if sameKeys (headers.map Prod.fst) (allowedNames method) = false then .error .valueError
  else if method = "POST" then
    if headers.lookup "content-type" ≠ some "application/json" then .error .valueError
    else match headers.lookup "content-length" with
      | none => .error .keyError
      | some sizeText =>
        if Decimal.isPositive sizeText.toList = false then .error .valueError
        else if MAX_BODY_BYTES < Decimal.value sizeText.toList then .error .valueError
        else .ok (Decimal.value sizeText.toList)
  else .ok 0

/-- Method, target and the size of the body. -/
def parseHead : List Bytes → Except Raised (String × String × Nat)
  | [] => .error .indexError
  | first :: rest => do
    let line ← parseRequestLine first
    let headers ← parseHeaders rest
    let size ← bodySize line.1 headers
    .ok (line.1, line.2, size)

/-- `except (ValueError, UnicodeError, IndexError)`. -/
def catching {α : Type} : Except Raised α → Except Raised α
  | .error .valueError | .error .unicodeError | .error .indexError => .error invalid
  | x => x

/-- From the end of the head to the size. `raw.replace(b"\r\n", b"")` is the lines without their ends. -/
def checkHead (raw : Bytes) : Except Raised (String × String × Nat) :=
  if MAX_HEAD_BYTES < raw.length + 4 ∨ 10 ∈ (split CRLF raw).flatten then .error invalid
  else if (split CRLF raw).length < 2 ∨ 8 < (split CRLF raw).length then .error invalid
  else catching (parseHead (split CRLF raw))

/-! ## Receiving -/

/-- Nothing more came. -/
def starved (buffer : Bytes) : Raised := if buffer.isEmpty then .analystTls .connectionIdle else invalid

/-- The head, what was received after its blank line, and the socket. -/
def readHead (buffer : Bytes) (socket : Source UInt8) : Except Raised (Bytes × Bytes × Source UInt8) :=
  match cut (CRLF ++ CRLF) buffer with
  | some (raw, body) => .ok (raw, body, socket)
  | none =>
    if _hlen : MAX_HEAD_BYTES < buffer.length then .error invalid
    else match _hrecv : socket.recv (min 4096 (MAX_HEAD_BYTES + 4 - buffer.length)) with
      | none => .error (starved buffer)
      | some (chunk, socket') => readHead (buffer ++ chunk) socket'
termination_by socket.left.length
decreasing_by exact Source.recv_lt (by omega) _hrecv

/-- The body of `size` bytes, and the socket. -/
def readBody (size : Nat) (body : Bytes) (socket : Source UInt8) : Except Raised (Bytes × Source UInt8) :=
  if size < body.length then .error invalid
  else if _hlen : body.length < size then
    match _hrecv : socket.recv (min 4096 (size - body.length + 1)) with
    | none => .error invalid
    | some (chunk, socket') => readBody size (body ++ chunk) socket'
  else .ok (body, socket)
termination_by socket.left.length
decreasing_by exact Source.recv_lt (by omega) _hrecv

def readRequest (socket : Source UInt8) : Except Raised (String × String × Bytes) := do
  let head ← readHead [] socket
  let request ← checkHead head.1
  let rest ← readBody request.2.2 head.2.1 head.2.2
  -- `connection.pending()`
  if rest.2.current ≠ [] then .error invalid else .ok (request.1, request.2.1, rest.1)

/-! ## The grammar -/

def requestLine (method target : String) : List Char :=
  method.toList ++ ' ' :: (target.toList ++ ' ' :: "HTTP/1.1".toList)

def headerLine (h : String × String) : List Char := headerText h.1.toList h.2.toList

/-- The request line and the header lines, each ended by CRLF, and the blank line. -/
def headText (method target : String) (headers : List (String × String)) : List Char :=
  (requestLine method target :: headers.map headerLine).flatMap (· ++ ['\r', '\n']) ++ ['\r', '\n']

/-- The headers of a request with a body of `size` bytes. -/
def allowedHeaders (method : String) (size : Nat) : List (String × String) :=
  [("host", ANALYST_HOST), ("connection", "close")] ++
    if method = "GET" then [] else [("content-type", "application/json"), ("content-length", toString size)]

/-- The header with its name in lower case. -/
def lowered (h : String × String) : String × String := (lower h.1, h.2)

/-- `s` is a whole request: a head of at most 4096 bytes, with the headers in any order, and the body. -/
structure IsRequest (method target : String) (body s : Bytes) : Prop where
  method_size : method = "GET" ∧ body = [] ∨ method = "POST" ∧ 1 ≤ body.length ∧ body.length ≤ MAX_BODY_BYTES
  target_ok : isTarget target.toList = true
  text : ∃ headers : List (String × String), (headers.map lowered).Perm (allowedHeaders method body.length) ∧
    (headText method target headers).length ≤ MAX_HEAD_BYTES ∧ s = ascii (headText method target headers) ++ body

/-! ## The request line -/

theorem target_bounds {target : List Char} (h : isTarget target = true) :
    ∀ c ∈ target, 33 ≤ c.toNat ∧ c.toNat ≤ 126 := by
  rw [isTarget, Bool.and_eq_true, List.all_eq_true] at h
  intro c hc
  have := h.2 c hc
  rw [Bool.and_eq_true, decide_eq_true_eq, decide_eq_true_eq] at this
  exact this

/-- Method and target have no space. -/
theorem spaceless {method target : String} (hm : method ∈ ["GET", "POST"]) (ht : isTarget target.toList = true) :
    ∀ p ∈ [method.toList, target.toList, "HTTP/1.1".toList], ' ' ∉ p := by
  have hmethod : ∀ m ∈ ["GET", "POST"], ' ' ∉ m.toList := by decide
  intro p hp
  simp only [List.mem_cons, List.not_mem_nil, or_false] at hp
  rcases hp with rfl | rfl | rfl
  · exact hmethod method hm
  · intro hc
    exact absurd (target_bounds ht _ hc).1 (by decide)
  · decide

theorem printable_requestLine {method target : String} (hm : method ∈ ["GET", "POST"])
    (ht : isTarget target.toList = true) : ∀ c ∈ requestLine method target, 32 ≤ c.toNat ∧ c.toNat ≤ 126 := by
  have hmethod : ∀ m ∈ ["GET", "POST"], isPrintable m.toList = true := by decide
  have hversion := isPrintable_iff.mp (by decide : isPrintable (' ' :: "HTTP/1.1".toList) = true)
  intro c hc
  rcases List.mem_append.mp hc with hc | hc
  · exact isPrintable_iff.mp (hmethod method hm) c hc
  · rcases List.mem_cons.mp hc with rfl | hc
    · decide
    · rcases List.mem_append.mp hc with hc | hc
      · have := target_bounds ht c hc
        omega
      · exact hversion c hc

theorem joined_requestLine (method target : String) :
    joined [' '] method.toList [target.toList, "HTTP/1.1".toList] = requestLine method target := by
  simp [joined, requestLine]

theorem parseRequestLine_ok {line : Bytes} {r : String × String} :
    parseRequestLine line = .ok r ↔
      line = ascii (requestLine r.1 r.2) ∧ r.1 ∈ ["GET", "POST"] ∧ isTarget r.2.toList = true := by
  constructor
  · intro h
    unfold parseRequestLine at h
    cases hd : decodeAscii line with
    | none => simp [hd] at h
    | some text =>
      simp only [hd] at h
      split at h
      · rename_i method target version hsplit
        split_ifs at h with hbad
        obtain rfl := Except.ok.inj h
        simp only [not_or, not_not, Bool.not_eq_false] at hbad
        obtain ⟨rfl, hm, ht⟩ := hbad
        have htext := joined_split hsplit
        refine ⟨?_, hm, by simpa using ht⟩
        rw [(decodeAscii_eq hd).1, htext, ← joined_requestLine]
        simp
      · cases h
  · rintro ⟨rfl, hm, ht⟩
    have hsplit := split_joined (c := ' ') (t := []) (spaceless hm ht)
    unfold parseRequestLine
    rw [decodeAscii_ascii (isAscii_bounds (printable_requestLine hm ht) (by decide)), ← joined_requestLine]
    simp only [hsplit, String.ofList_toList]
    rw [if_neg]
    rintro (hversion | hmethod | htarget)
    · exact hversion rfl
    · exact hmethod hm
    · exact absurd ht (Bool.eq_false_iff.mp htarget)

/-! ## The headers -/

/-- A name and a value that the code reads. -/
def IsHeader (h : String × String) : Prop :=
  isHeaderName (h.1.toList.map Char.toNat) = true ∧ ∀ c ∈ h.2.toList, 32 ≤ c.toNat ∧ c.toNat ≤ 126

theorem isLetter_bounds {n : Nat} (h : isLetter n = true) : 65 ≤ n ∧ n ≤ 122 := by
  simp only [isLetter, Bool.or_eq_true, Bool.and_eq_true, decide_eq_true_eq] at h
  omega

theorem headerName_bounds {ns : List Nat} (h : isHeaderName ns = true) : ∀ n ∈ ns, 45 ≤ n ∧ n ≤ 122 ∧ n ≠ 58 := by
  cases ns with
  | nil => cases h
  | cons m ns =>
    rw [isHeaderName, Bool.and_eq_true, List.all_eq_true] at h
    have hletter {n : Nat} (hn : isLetter n = true) : 45 ≤ n ∧ n ≤ 122 ∧ n ≠ 58 := by
      have := isLetter_bounds hn
      omega
    intro n hn
    rcases List.mem_cons.mp hn with rfl | hn
    · exact hletter h.1
    · rcases Bool.or_eq_true .. ▸ h.2 n hn with hl | hd
      · exact hletter hl
      · have := beq_iff_eq.mp hd
        omega

namespace IsHeader

variable {h : String × String}

theorem name_bounds (hh : IsHeader h) : ∀ c ∈ h.1.toList, 45 ≤ c.toNat ∧ c.toNat ≤ 122 ∧ c.toNat ≠ 58 :=
  fun _ hc => headerName_bounds hh.1 _ (List.mem_map_of_mem hc)

theorem isAscii_name (hh : IsHeader h) : IsAscii h.1.toList := fun c hc => by
  have := hh.name_bounds c hc
  omega

theorem isAscii_value (hh : IsHeader h) : IsAscii h.2.toList := isAscii_bounds hh.2 (by decide)

/-- The colon that ends the name is the first. -/
theorem cut_line (hh : IsHeader h) :
    cut [58, 32] (ascii (headerLine h)) = some (ascii h.1.toList, ascii h.2.toList) :=
  cut_headerText hh.isAscii_name (fun hc => (hh.name_bounds _ hc).2.2 rfl) _

end IsHeader

theorem readHeader_ok (line : Bytes) (e : String × String) :
    readHeader line = .ok e ↔ ∃ h, IsHeader h ∧ line = ascii (headerLine h) ∧ e = lowered h := by
  constructor
  · intro h
    unfold readHeader at h
    cases hcut : cut [58, 32] line with
    | none => simp [hcut] at h
    | some p =>
      obtain ⟨name, value⟩ := p
      simp only [hcut] at h
      split_ifs at h with hbad
      rw [not_or, Bool.not_eq_false, Bool.not_eq_true] at hbad
      cases hn : decodeAscii name with
      | none => simp [hn] at h
      | some key =>
        cases hv : decodeAscii value with
        | none => simp [hn, hv] at h
        | some text =>
          simp only [hn, hv] at h
          obtain rfl := Except.ok.inj h
          obtain ⟨rfl, hkey⟩ := decodeAscii_eq hn
          obtain ⟨rfl, htext⟩ := decodeAscii_eq hv
          refine ⟨(String.ofList key, String.ofList text), ⟨?_, ?_⟩, ?_, rfl⟩
          · rw [String.toList_ofList, ← map_toNat_ascii hkey]
            exact hbad.1
          · rw [String.toList_ofList]
            exact (printable_ascii htext).mp hbad.2
          · rw [headerLine, ascii_headerText, String.toList_ofList, String.toList_ofList]
            exact cut_eq hcut
  · rintro ⟨h, hh, rfl, rfl⟩
    unfold readHeader
    simp only [hh.cut_line]
    rw [if_neg]
    · simp only [decodeAscii_ascii hh.isAscii_name, decodeAscii_ascii hh.isAscii_value, String.ofList_toList]
      rfl
    · rw [not_or, Bool.not_eq_false, Bool.not_eq_true, map_toNat_ascii hh.isAscii_name]
      exact ⟨hh.1, (printable_ascii hh.isAscii_value).mpr hh.2⟩

theorem parseHeaders_ok {lines : List Bytes} {headers : List (String × String)} :
    parseHeaders lines = .ok headers ↔ ∃ hs : List (String × String), (∀ h ∈ hs, IsHeader h) ∧
      lines = hs.map (fun h => ascii (headerLine h)) ∧ headers = hs.map lowered ∧ (headers.map Prod.fst).Nodup := by
  rw [parseHeaders, Fields.collect_ok readHeader_ok]
  simp

/-! ## Names in lower case -/

/-- Lower case keeps letters letters and hyphens hyphens. -/
theorem lower_code (c : Char) :
    isLetter c.toLower.toNat = isLetter c.toNat ∧ (c.toLower.toNat == 45) = (c.toNat == 45) := by
  by_cases hc : c.toNat < 128
  · have key : ∀ n < 128, isLetter (Char.ofNat n).toLower.toNat = isLetter n ∧
        ((Char.ofNat n).toLower.toNat == 45) = (n == 45) := by decide
    have := key c.toNat hc
    rwa [Char.ofNat_toNat] at this
  · have hsame : c.toLower = c := by
      unfold Char.toLower
      rw [dif_neg]
      rintro ⟨-, hz⟩
      have hz' : c.toNat ≤ 90 := hz
      omega
    rw [hsame]
    exact ⟨rfl, rfl⟩

theorem isHeaderName_lower (name : String) :
    isHeaderName ((lower name).toList.map Char.toNat) = isHeaderName (name.toList.map Char.toNat) := by
  rw [lower, String.toList_ofList]
  cases name.toList with
  | nil => rfl
  | cons c cs =>
    have hrest : (cs.map Char.toLower).all (fun c => isLetter c.toNat || c.toNat == 45) =
        cs.all fun c => isLetter c.toNat || c.toNat == 45 := by
      rw [List.all_map]
      congr 1
      funext c
      rw [Function.comp_apply, (lower_code c).1, (lower_code c).2]
    simp only [List.map_cons, isHeaderName, List.all_map, (lower_code c).1]
    rw [List.all_map] at hrest
    exact congrArg (isLetter c.toNat && ·) hrest

theorem size_printable (n : Nat) : ∀ c ∈ (toString n).toList, 32 ≤ c.toNat ∧ c.toNat ≤ 126 := by
  intro c hc
  rw [Nat.toString_eq_repr, Nat.toList_repr] at hc
  have hdigit := Nat.isDigit_of_mem_toDigits (by decide) (by decide) hc
  simp only [Char.isDigit, Bool.and_eq_true, decide_eq_true_eq, ge_iff_le, UInt32.le_iff_toNat_le] at hdigit
  have hlow : 48 ≤ c.toNat := hdigit.1
  have hhigh : c.toNat ≤ 57 := hdigit.2
  omega

theorem allowed_cases {method : String} {size : Nat} {e : String × String} (h : e ∈ allowedHeaders method size) :
    e = ("host", ANALYST_HOST) ∨ e = ("connection", "close") ∨ e = ("content-type", "application/json") ∨
      e = ("content-length", toString size) := by
  unfold allowedHeaders at h
  split_ifs at h <;> simp at h <;> tauto

/-- The allowed headers, in any order and any case, are headers that the code reads. -/
theorem isHeader_allowed {method : String} {size : Nat} {h : String × String}
    (hmem : lowered h ∈ allowedHeaders method size) : IsHeader h := by
  have hkey : ∀ k ∈ HEADERS_POST, isHeaderName (k.toList.map Char.toNat) = true := by decide
  have hvalues : ∀ v ∈ [ANALYST_HOST, "close", "application/json"], isPrintable v.toList = true := by decide
  have hname : lower h.1 ∈ HEADERS_POST → isHeaderName (h.1.toList.map Char.toNat) = true := fun hk => by
    rw [← isHeaderName_lower]
    exact hkey _ hk
  rcases allowed_cases hmem with he | he | he | he <;> obtain ⟨hk, hv⟩ := Prod.mk.inj he
  · exact ⟨hname (by rw [hk]; decide), by rw [hv]; exact isPrintable_iff.mp (hvalues _ (by decide))⟩
  · exact ⟨hname (by rw [hk]; decide), by rw [hv]; exact isPrintable_iff.mp (hvalues _ (by decide))⟩
  · exact ⟨hname (by rw [hk]; decide), by rw [hv]; exact isPrintable_iff.mp (hvalues _ (by decide))⟩
  · exact ⟨hname (by rw [hk]; decide), by rw [hv]; exact size_printable size⟩

theorem nodup_allowed (method : String) (size : Nat) : ((allowedHeaders method size).map Prod.fst).Nodup := by
  unfold allowedHeaders
  split_ifs
  · simp
  · simp

theorem keys_allowed (method : String) (size : Nat) :
    (allowedHeaders method size).map Prod.fst = allowedNames method := by
  unfold allowedHeaders allowedNames
  split_ifs <;> rfl

theorem sameKeys_iff {keys allowed : List String} : sameKeys keys allowed = true ↔ ∀ k, k ∈ keys ↔ k ∈ allowed := by
  simp only [sameKeys, Bool.and_eq_true, List.all_eq_true, List.contains_iff_mem]
  exact ⟨fun h k => ⟨h.1 k, h.2 k⟩, fun h => ⟨fun k => (h k).1, fun k => (h k).2⟩⟩

/-- Two tables with the same keys and the same values at them. -/
theorem perm_of_lookup {table expected : List (String × String)} (ht : (table.map Prod.fst).Nodup)
    (he : (expected.map Prod.fst).Nodup) (hkeys : ∀ k, k ∈ table.map Prod.fst ↔ k ∈ expected.map Prod.fst)
    (hvalues : ∀ e ∈ expected, table.lookup e.1 = some e.2) : table.Perm expected := by
  rw [List.perm_ext_iff_of_nodup (List.Nodup.of_map _ ht) (List.Nodup.of_map _ he)]
  rintro ⟨k, v⟩
  constructor
  · intro hmem
    obtain ⟨e, hmem', hk⟩ := List.mem_map.mp ((hkeys k).mp (List.mem_map_of_mem hmem))
    have hlookup := hvalues e hmem'
    rw [hk, (lookup_iff_mem ht).mpr hmem] at hlookup
    rwa [show (k, v) = e from Prod.ext hk.symm (Option.some.inj hlookup)]
  · intro hmem
    exact (lookup_iff_mem ht).mp (hvalues _ hmem)

/-- The sizes that go with a method. -/
def SizeOk (method : String) (size : Nat) : Prop :=
  method = "GET" ∧ size = 0 ∨ method = "POST" ∧ 1 ≤ size ∧ size ≤ MAX_BODY_BYTES

theorem bodySize_ok {method : String} (hm : method ∈ ["GET", "POST"]) {headers : List (String × String)}
    (hnodup : (headers.map Prod.fst).Nodup) {n : Nat} :
    bodySize method headers = .ok n ↔ headers.Perm (allowedHeaders method n) ∧ SizeOk method n := by
  constructor
  · intro h
    unfold bodySize at h
    split_ifs at h with hfixed hkeys hpost htype
    · cases hlen : headers.lookup "content-length" with
      | none => simp [hlen] at h
      | some sizeText =>
        simp only [hlen] at h
        split_ifs at h with hform hbig
        obtain rfl := Except.ok.inj h
        rw [Bool.not_eq_false] at hform
        obtain ⟨hdigits, hpos⟩ := Decimal.toDigits_value hform
        rw [not_or, not_not, not_not] at hfixed
        rw [Bool.not_eq_false, sameKeys_iff, ← keys_allowed method (Decimal.value sizeText.toList)] at hkeys
        refine ⟨perm_of_lookup hnodup (nodup_allowed ..) hkeys fun e he => ?_, .inr ⟨hpost, hpos, by omega⟩⟩
        rcases allowed_cases he with rfl | rfl | rfl | rfl
        · exact hfixed.1
        · exact hfixed.2
        · exact not_not.mp htype
        · rw [hlen, Nat.toString_eq_ofList_toDigits, hdigits, String.ofList_toList]
    · obtain rfl := Except.ok.inj h
      rw [not_or, not_not, not_not] at hfixed
      have hget : method = "GET" := by
        rcases List.mem_pair.mp hm with h | h
        · exact h
        · exact absurd h hpost
      rw [Bool.not_eq_false, sameKeys_iff, ← keys_allowed method 0] at hkeys
      refine ⟨perm_of_lookup hnodup (nodup_allowed ..) hkeys fun e he => ?_, .inl ⟨hget, rfl⟩⟩
      rw [allowedHeaders, if_pos hget, List.append_nil] at he
      rcases List.mem_pair.mp he with rfl | rfl
      · exact hfixed.1
      · exact hfixed.2
  · rintro ⟨hperm, hsize⟩
    have hvalues : ∀ e ∈ allowedHeaders method n, headers.lookup e.1 = some e.2 := fun e he =>
      (lookup_iff_mem hnodup).mpr (hperm.mem_iff.mpr he)
    have hhost := hvalues ("host", ANALYST_HOST) (by simp [allowedHeaders])
    have hclose := hvalues ("connection", "close") (by simp [allowedHeaders])
    have hkeys : sameKeys (headers.map Prod.fst) (allowedNames method) = true := by
      rw [sameKeys_iff, ← keys_allowed method n]
      exact fun k => (hperm.map Prod.fst).mem_iff
    unfold bodySize
    rcases hsize with ⟨rfl, rfl⟩ | ⟨rfl, hpos, hle⟩
    · simp [hhost, hclose, hkeys]
    · have htype := hvalues ("content-type", "application/json") (by simp [allowedHeaders])
      have hlength := hvalues ("content-length", toString n) (by simp [allowedHeaders])
      have hform := Decimal.isPositive_toDigits hpos
      have hvalue := Decimal.value_toDigits n
      simp [hhost, hclose, hkeys, htype, hlength, hform, hvalue, hle]

/-! ## The head as a whole -/

theorem IsHeader.printable_line {h : String × String} (hh : IsHeader h) :
    ∀ c ∈ headerLine h, 32 ≤ c.toNat ∧ c.toNat ≤ 126 := by
  intro c hc
  rcases List.mem_append.mp hc with hc | hc
  · have := hh.name_bounds c hc
    omega
  · rcases List.mem_cons.mp hc with rfl | hc
    · decide
    · rcases List.mem_cons.mp hc with rfl | hc
      · decide
      · exact hh.2 c hc

/-- A head without its blank line. -/
def IsHead (method target : String) (size : Nat) (raw : Bytes) : Prop :=
  SizeOk method size ∧ isTarget target.toList = true ∧ ∃ headers : List (String × String),
    (headers.map lowered).Perm (allowedHeaders method size) ∧
      raw = joined CRLF (ascii (requestLine method target)) (headers.map fun h => ascii (headerLine h))

theorem SizeOk.mem {method : String} {size : Nat} (h : SizeOk method size) : method ∈ ["GET", "POST"] := by
  rcases h with ⟨rfl, -⟩ | ⟨rfl, -⟩ <;> simp

theorem lines_clean {method target : String} {size : Nat} {headers : List (String × String)}
    (hsize : SizeOk method size) (ht : isTarget target.toList = true)
    (hperm : (headers.map lowered).Perm (allowedHeaders method size)) :
    ∀ line ∈ ascii (requestLine method target) :: headers.map (fun h => ascii (headerLine h)),
      line ≠ [] ∧ 13 ∉ line ∧ 10 ∉ line := by
  intro line hline
  rcases List.mem_cons.mp hline with rfl | hline
  · exact line_clean (printable_requestLine hsize.mem ht) (by simp [requestLine])
  · obtain ⟨h, hh, rfl⟩ := List.mem_map.mp hline
    have hheader := isHeader_allowed (hperm.mem_iff.mp (List.mem_map_of_mem hh))
    exact line_clean hheader.printable_line (by simp [headerLine, headerText])

theorem catching_ok {α : Type} {x : Except Raised α} {a : α} : catching x = .ok a ↔ x = .ok a := by
  rcases x with e | b
  · cases e <;> simp [catching]
  · rfl

theorem parseHead_ok {first : Bytes} {rest : List Bytes} {method target : String} {size : Nat} :
    parseHead (first :: rest) = .ok (method, target, size) ↔
      SizeOk method size ∧ isTarget target.toList = true ∧ first = ascii (requestLine method target) ∧
        ∃ headers : List (String × String), (headers.map lowered).Perm (allowedHeaders method size) ∧
          rest = headers.map fun h => ascii (headerLine h) := by
  constructor
  · intro h
    simp only [parseHead, Except.bind_eq_ok] at h
    obtain ⟨line, hline, table, htable, n, hn, h⟩ := h
    obtain ⟨rfl, rfl, rfl⟩ : line.1 = method ∧ line.2 = target ∧ n = size := by simpa using h
    obtain ⟨hfirst, hm, ht⟩ := parseRequestLine_ok.mp hline
    obtain ⟨headers, -, hrest, rfl, hnodup⟩ := parseHeaders_ok.mp htable
    obtain ⟨hperm, hsize⟩ := (bodySize_ok hm hnodup).mp hn
    exact ⟨hsize, ht, hfirst, headers, hperm, hrest⟩
  · rintro ⟨hsize, ht, hfirst, headers, hperm, hrest⟩
    have hnodup : ((headers.map lowered).map Prod.fst).Nodup := (hperm.map Prod.fst).nodup_iff.mpr (nodup_allowed ..)
    simp only [parseHead, Except.bind_eq_ok]
    refine ⟨(method, target), parseRequestLine_ok.mpr ⟨hfirst, hsize.mem, ht⟩, headers.map lowered,
      parseHeaders_ok.mpr ⟨headers, fun h hh => ?_, hrest, rfl, hnodup⟩, size,
      (bodySize_ok hsize.mem hnodup).mpr ⟨hperm, hsize⟩, rfl⟩
    exact isHeader_allowed (hperm.mem_iff.mp (List.mem_map_of_mem hh))

theorem length_allowed (method : String) (size : Nat) :
    1 ≤ (allowedHeaders method size).length ∧ (allowedHeaders method size).length ≤ 4 := by
  unfold allowedHeaders
  split_ifs <;> simp

/-- **The code between the two loops accepts the heads of the grammar.** -/
theorem checkHead_ok {raw : Bytes} {method target : String} {size : Nat} :
    checkHead raw = .ok (method, target, size) ↔ raw.length + 4 ≤ MAX_HEAD_BYTES ∧ IsHead method target size raw := by
  constructor
  · intro h
    unfold checkHead at h
    split_ifs at h with hraw hcount
    rw [not_or, Nat.not_lt] at hraw
    refine ⟨hraw.1, ?_⟩
    cases hsplit : split CRLF raw with
    | nil => exact absurd hsplit (split_ne_nil _ _)
    | cons first rest =>
      rw [hsplit, catching_ok, parseHead_ok] at h
      obtain ⟨hsize, ht, rfl, headers, hperm, rfl⟩ := h
      exact ⟨hsize, ht, headers, hperm, joined_split hsplit⟩
  · rintro ⟨hlen, hsize, ht, headers, hperm, rfl⟩
    have hclean := lines_clean hsize ht hperm
    have hsplit := split_joined (c := 13) (t := [10]) fun p hp => (hclean p hp).2.1
    have hcount : headers.length = (allowedHeaders method size).length := by
      rw [← hperm.length_eq, List.length_map]
    have hbounds := length_allowed method size
    unfold checkHead
    rw [CRLF] at hlen ⊢
    rw [hsplit, if_neg, if_neg, catching_ok, parseHead_ok]
    · exact ⟨hsize, ht, rfl, headers, hperm, rfl⟩
    · simp only [List.length_cons, List.length_map]
      omega
    · rw [not_or]
      refine ⟨by omega, fun h10 => ?_⟩
      obtain ⟨line, hline, h10⟩ := List.mem_flatten.mp h10
      exact (hclean line hline).2.2 h10

/-- The exceptions that the `try` block catches. -/
def Caught (e : Raised) : Prop := e = .valueError ∨ e = .unicodeError ∨ e = .indexError

theorem readHeader_error {line : Bytes} {e : Raised} (h : readHeader line = .error e) : Caught e := by
  unfold readHeader at h
  split at h
  · exact .inl (Except.error.inj h).symm
  · split_ifs at h
    · exact .inl (Except.error.inj h).symm
    · split at h
      · cases h
      · exact .inr (.inl (Except.error.inj h).symm)

theorem parseRequestLine_error {line : Bytes} {e : Raised} (h : parseRequestLine line = .error e) : Caught e := by
  unfold parseRequestLine at h
  split at h
  · exact .inr (.inl (Except.error.inj h).symm)
  · split at h
    · split_ifs at h
      exact .inl (Except.error.inj h).symm
    · exact .inl (Except.error.inj h).symm

theorem parseHeaders_error {lines : List Bytes} {e : Raised} (h : parseHeaders lines = .error e) : Caught e := by
  rcases Fields.collect_error h with ⟨line, -, hl⟩ | rfl | ⟨k, hk⟩
  · exact readHeader_error hl
  · exact .inl rfl
  · cases hk

/-- Where `headers["content-length"]` is looked up it is there. -/
theorem bodySize_error {method : String} {headers : List (String × String)} {e : Raised}
    (h : bodySize method headers = .error e) : e = .valueError := by
  unfold bodySize at h
  split_ifs at h with hfixed hkeys hpost htype
  · exact (Except.error.inj h).symm
  · exact (Except.error.inj h).symm
  · exact (Except.error.inj h).symm
  · have hmem : "content-length" ∈ headers.map Prod.fst := by
      rw [Bool.not_eq_false, sameKeys_iff] at hkeys
      rw [hkeys, hpost]
      decide
    obtain ⟨sizeText, hlen⟩ := Option.isSome_iff_exists.mp (Fields.lookup_isSome.mpr hmem)
    simp only [hlen] at h
    split_ifs at h
    · exact (Except.error.inj h).symm
    · exact (Except.error.inj h).symm

/-- Nothing but `AnalystTlsError` leaves the `try` block. -/
theorem checkHead_error {raw : Bytes} {e : Raised} (h : checkHead raw = .error e) : e = invalid := by
  have hcaught {x : Except Raised (String × String × Nat)} (hx : ∀ e, x = .error e → Caught e)
      (h : catching x = .error e) : e = invalid := by
    cases x with
    | ok a => cases h
    | error e' =>
      rcases hx e' rfl with rfl | rfl | rfl <;> exact (Except.error.inj h).symm
  unfold checkHead at h
  split_ifs at h
  · exact (Except.error.inj h).symm
  · exact (Except.error.inj h).symm
  · refine hcaught (fun e' he' => ?_) h
    cases hsplit : split CRLF raw with
    | nil => exact absurd hsplit (split_ne_nil _ _)
    | cons first rest =>
      rw [hsplit, parseHead] at he'
      cases hline : parseRequestLine first with
      | error e'' =>
        rw [hline] at he'
        exact Except.error.inj he' ▸ parseRequestLine_error hline
      | ok line =>
        rw [hline, Except.ok_bind] at he'
        cases htable : parseHeaders rest with
        | error e'' =>
          rw [htable] at he'
          exact Except.error.inj he' ▸ parseHeaders_error htable
        | ok headers =>
          rw [htable, Except.ok_bind] at he'
          cases hsize : bodySize line.1 headers with
          | error e'' =>
            rw [hsize] at he'
            exact .inl (Except.error.inj he' ▸ bodySize_error hsize)
          | ok size =>
            rw [hsize] at he'
            cases he'

/-- The blank line that ends a head is the first. -/
theorem IsHead.cut {method target : String} {size : Nat} {raw : Bytes} (h : IsHead method target size raw)
    (body : Bytes) : cut (CRLF ++ CRLF) (raw ++ (CRLF ++ CRLF) ++ body) = some (raw, body) := by
  obtain ⟨hsize, ht, headers, hperm, rfl⟩ := h
  have hclean := lines_clean hsize ht hperm
  exact cut_doubled (by decide) (fun p hp => ⟨(hclean p hp).1, (hclean p hp).2.1⟩) body

theorem ascii_headText (method target : String) (headers : List (String × String)) :
    ascii (headText method target headers) =
      joined CRLF (ascii (requestLine method target)) (headers.map fun h => ascii (headerLine h)) ++
        (CRLF ++ CRLF) := by
  have hcrlf : ascii ['\r', '\n'] = CRLF := rfl
  rw [← List.append_assoc, joined_terminated, headText, ascii_append, ascii_flatMap, hcrlf]
  simp [List.flatMap_map, ascii_append, hcrlf]

theorem isRequest_iff {method target : String} {body s : Bytes} :
    IsRequest method target body s ↔ ∃ raw, raw.length + 4 ≤ MAX_HEAD_BYTES ∧ IsHead method target body.length raw ∧
      s = raw ++ (CRLF ++ CRLF) ++ body := by
  have hlength (raw : Bytes) : (raw ++ (CRLF ++ CRLF)).length = raw.length + 4 := List.length_append
  have hsize : method = "GET" ∧ body = [] ∨ method = "POST" ∧ 1 ≤ body.length ∧ body.length ≤ MAX_BODY_BYTES ↔
      SizeOk method body.length := by rw [SizeOk, List.length_eq_zero_iff]
  constructor
  · rintro ⟨hms, ht, headers, hperm, hlen, rfl⟩
    refine ⟨_, ?_, ⟨hsize.mp hms, ht, headers, hperm, rfl⟩, by rw [ascii_headText]⟩
    rw [← hlength, ← ascii_headText, ascii, List.length_map]
    exact hlen
  · rintro ⟨raw, hlen, ⟨hms, ht, headers, hperm, rfl⟩, rfl⟩
    refine ⟨hsize.mpr hms, ht, headers, hperm, ?_, by rw [ascii_headText]⟩
    rw [← hlength, ← ascii_headText, ascii, List.length_map] at hlen
    exact hlen

end ThreatFusion.AnalystTls
