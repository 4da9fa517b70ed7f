import ThreatFusion.Admission.Record
import ThreatFusion.Lib.Decimal
import ThreatFusion.Lib.Fields
import ThreatFusion.Lib.JsonLayout
import ThreatFusion.Py.Ascii
/-
# The head of a producer's request (`api/producer_tls_transport.py`:204-228, 303-382)

| here | there |
| --- | --- |
| `framedFrom`           | `_validate_plain_framing`: no CR or LF alone |
| `readHeaderLine`       | the body of `for line in header_lines` (:331-355) |
| `checkHeaders`         | the checks of the table and of the content length (:356-371) |
| `parseRequestHead`     | `_parse_request_head` |
| `ValidatedRequestHead` | the class of that name; it cannot be built with other values |

`IsRequestHead` is the grammar, `headText` its texts. The parser accepts these texts (`parseRequestHead_ok`).
-/
namespace ThreatFusion.Transport
open Py Admission Delimited
open JsonText (lookup_iff_mem)

def TRANSPORT_REQUEST_METHOD : String := "POST"
def TRANSPORT_REQUEST_TARGET : String := "/v1/producer-events"
def TRANSPORT_HTTP_VERSION : String := "HTTP/1.1"
def TRANSPORT_HOST : String := "threatfusion-loopback"
def MAX_REQUEST_LINE_BYTES : Nat := 512
def MAX_HEADER_FIELDS : Nat := 32
def MAX_HEADER_BYTES : Nat := 16384
def MAX_HEADER_NAME_BYTES : Nat := 64
def MAX_HEADER_VALUE_BYTES : Nat := 1024
def REQUIRED_HEADERS : List String := ["host", "content-type", "content-length", "connection"]
def PROHIBITED_HEADERS : List String :=
  ["transfer-encoding", "content-encoding", "trailer", "upgrade", "keep-alive", "proxy-connection", "expect", "te"]

def requestLine : List Char :=
  (TRANSPORT_REQUEST_METHOD ++ " " ++ TRANSPORT_REQUEST_TARGET ++ " " ++ TRANSPORT_HTTP_VERSION).toList

/-- `ProducerTlsTransportError`. -/
structure TransportError where
  code : String
  statusCode : Nat
  reason : String
deriving DecidableEq

/-- `_failure(code)`, and with a status of its own. -/
def failure (code : String) : TransportError := ⟨code, 400, code⟩
def failureStatus (code : String) (statusCode : Nat) : TransportError := ⟨code, statusCode, code⟩

structure RequestHeadFields where
  method : String
  target : String
  httpVersion : String
  host : String
  contentType : String
  contentLength : Nat
  connection : String
  headerCount : Nat
  totalHeaderBytes : Nat
deriving DecidableEq

/-- What `__post_init__` accepts. -/
def RequestHeadFields.accepted (h : RequestHeadFields) : Bool :=
  h.method == TRANSPORT_REQUEST_METHOD && h.target == TRANSPORT_REQUEST_TARGET &&
    h.httpVersion == TRANSPORT_HTTP_VERSION && h.host == TRANSPORT_HOST && h.contentType == JSON_CONTENT_TYPE &&
    decide (1 ≤ h.contentLength ∧ h.contentLength ≤ MAX_REQUEST_BODY_BYTES) && h.connection == "close" &&
    decide (REQUIRED_HEADERS.length ≤ h.headerCount ∧ h.headerCount ≤ MAX_HEADER_FIELDS) &&
    decide (1 ≤ h.totalHeaderBytes ∧ h.totalHeaderBytes ≤ MAX_HEADER_BYTES)

structure ValidatedRequestHead extends RequestHeadFields where
  valid : toRequestHeadFields.accepted = true
deriving DecidableEq

def ValidatedRequestHead.new (f : RequestHeadFields) : Except TransportError ValidatedRequestHead :=
  if h : f.accepted = true then .ok ⟨f, h⟩ else .error (failure "request_head_invalid")

/-! ## Framing -/

/-- Every LF follows a CR and every CR but a last one is followed by an LF; `before` is the byte before. -/
def framedFrom : Option UInt8 → Bytes → Bool
  | _, [] => true
  | before, b :: rest =>
    (b != 10 || before == some 13) && (b != 13 || rest.isEmpty || rest.head? == some 10) && framedFrom (some b) rest

def validatePlainFraming (buffer : Bytes) : Except TransportError Unit :=
  if framedFrom none buffer then .ok () else .error (failure "request_framing_invalid")

/-! ## The header lines -/

/-- The codes of ``!#$%&'*+-.^_`|~0-9A-Za-z``. -/
def isTokenCode (n : Nat) : Bool :=
  (48 ≤ n && n ≤ 57) || (65 ≤ n && n ≤ 90) || (97 ≤ n && n ≤ 122) ||
    [33, 35, 36, 37, 38, 39, 42, 43, 45, 46, 94, 95, 96, 124, 126].contains n

def isBlankByte (u : Option UInt8) : Bool := u == some 32 || u == some 9

/-- `value_is_valid`. -/
def isHeaderValue (name : String) (value : Bytes) : Bool :=
  decide (value.length ≤ MAX_HEADER_VALUE_BYTES) && !(value.any fun u => u < 32 || 126 < u) &&
    (name == "content-length" || (!value.isEmpty && !isBlankByte value.head? && !isBlankByte value.getLast?))

/-- The canonical name and the value. A name that matches the pattern is ASCII. -/
def readHeaderLine (line : Bytes) : Except TransportError (String × Bytes) :=
  if line.isEmpty || isBlankByte line.head? then .error (failure "request_header_invalid")
  else match cut [58, 32] line with
    | none => .error (failure "request_header_invalid")
    | some (name, value) =>
      if (name.isEmpty || decide (MAX_HEADER_NAME_BYTES < name.length) || !(name.map UInt8.toNat).all isTokenCode) then
        .error (failure "request_header_invalid")
      else if isHeaderValue (lower (String.ofList (asciiChars name))) value then
        .ok (lower (String.ofList (asciiChars name)), value)
      else .error (failure "request_header_invalid")

def unsupported (name : String) : Option TransportError :=
  if name ∈ PROHIBITED_HEADERS then some (failure "unsupported_header") else none

def parseHeaders (lines : List Bytes) : Except TransportError (List (String × Bytes)) :=
  Fields.collect readHeaderLine (failure "duplicate_header") unsupported lines []

def checkHeaders (count total : Nat) (parsed : List (String × Bytes)) : Except TransportError ValidatedRequestHead :=
  match parsed.lookup "host", parsed.lookup "content-type", parsed.lookup "connection",
    parsed.lookup "content-length" with
  | some host, some contentType, some connection, some contentLength =>
    if host ≠ ascii TRANSPORT_HOST.toList then .error (failure "host_invalid")
    else if contentType ≠ ascii JSON_CONTENT_TYPE.toList then .error (failure "content_type_invalid")
    else if lowerBytes connection ≠ ascii "close".toList then .error (failure "connection_mode_invalid")
    else if asciiChars contentLength ≠ ['0'] ∧ Decimal.isPositive (asciiChars contentLength) = false then
      .error (failure "content_length_invalid")
    else if Decimal.value (asciiChars contentLength) = 0 then .error (failure "empty_body")
    else if MAX_REQUEST_BODY_BYTES < Decimal.value (asciiChars contentLength) then
      .error (failureStatus "request_too_large" 413)
    else
      ValidatedRequestHead.new ⟨TRANSPORT_REQUEST_METHOD, TRANSPORT_REQUEST_TARGET, TRANSPORT_HTTP_VERSION,
        TRANSPORT_HOST, JSON_CONTENT_TYPE, Decimal.value (asciiChars contentLength), "close", count, total⟩
  | _, _, _, _ => .error (failure "required_header_missing")

def parseRequestHead (raw : Bytes) : Except TransportError ValidatedRequestHead :=
  if !(CRLF ++ CRLF).isSuffixOf raw then .error (failure "request_framing_invalid")
  else if MAX_HEADER_BYTES < raw.length then .error (failureStatus "request_headers_too_large" 431)
  else do
    validatePlainFraming raw
    match split CRLF (raw.take (raw.length - 4)) with
    | [] => .error (failure "request_line_too_large")
    | first :: rest =>
      if MAX_REQUEST_LINE_BYTES < first.length then .error (failure "request_line_too_large")
      else if decodeAscii first = none then .error (failure "request_line_invalid")
      else if first ≠ ascii requestLine then .error (failure "request_line_invalid")
      else if rest.length < 1 ∨ MAX_HEADER_FIELDS < rest.length then
        .error (failureStatus "request_header_count_invalid" 431)
      else do
        let parsed ← parseHeaders rest
        checkHeaders rest.length raw.length parsed

/-! ## The grammar -/

/-- A token and a printable text without a blank at its ends. -/
structure IsField (h : String × String) : Prop where
  name_size : 1 ≤ h.1.length ∧ h.1.length ≤ MAX_HEADER_NAME_BYTES
  name_token : ∀ c ∈ h.1.toList, isTokenCode c.toNat = true
  value_size : 1 ≤ h.2.length ∧ h.2.length ≤ MAX_HEADER_VALUE_BYTES
  value_printable : ∀ c ∈ h.2.toList, 32 ≤ c.toNat ∧ c.toNat ≤ 126
  value_trimmed : h.2.toList.head? ≠ some ' ' ∧ h.2.toList.getLast? ≠ some ' '

/-- The value of each name, in lower case. -/
def tableOf (headers : List (String × String)) : List (String × String) := headers.map fun h => (lower h.1, h.2)

def headText (headers : List (String × String)) : List Char :=
  (requestLine :: headers.map fun h => headerText h.1.toList h.2.toList).flatMap (· ++ ['\r', '\n']) ++ ['\r', '\n']

structure IsRequestHead (headers : List (String × String)) (contentLength : Nat) : Prop where
  fields : ∀ h ∈ headers, IsField h
  count : 1 ≤ headers.length ∧ headers.length ≤ MAX_HEADER_FIELDS
  size : (headText headers).length ≤ MAX_HEADER_BYTES
  distinct : ((tableOf headers).map Prod.fst).Nodup
  allowed : ∀ h ∈ headers, lower h.1 ∉ PROHIBITED_HEADERS
  host : (tableOf headers).lookup "host" = some TRANSPORT_HOST
  content_type : (tableOf headers).lookup "content-type" = some JSON_CONTENT_TYPE
  connection : ∃ v, (tableOf headers).lookup "connection" = some v ∧ lower v = "close"
  content_length : ∃ v, (tableOf headers).lookup "content-length" = some v ∧ Decimal.isPositive v.toList = true ∧
    Decimal.value v.toList = contentLength ∧ contentLength ≤ MAX_REQUEST_BODY_BYTES

/-! ## One header line -/

theorem token_small : ∀ n, isTokenCode n = true → 33 ≤ n ∧ n ≤ 126 ∧ n ≠ 58 := by
  intro n h
  simp [isTokenCode] at h
  omega

/-- A line that the code reads: the value of `content-length` may still be anything printable. -/
structure IsLine (h : String × String) : Prop where
  name_size : 1 ≤ h.1.length ∧ h.1.length ≤ MAX_HEADER_NAME_BYTES
  name_token : ∀ c ∈ h.1.toList, isTokenCode c.toNat = true
  value_ascii : IsAscii h.2.toList
  value_ok : isHeaderValue (lower h.1) (ascii h.2.toList) = true

namespace IsLine

variable {h : String × String}

theorem isAscii_name (hh : IsLine h) : IsAscii h.1.toList := fun c hc => by
  have := token_small _ (hh.name_token c hc)
  omega

theorem cut_line (hh : IsLine h) :
    cut [58, 32] (ascii (headerText h.1.toList h.2.toList)) = some (ascii h.1.toList, ascii h.2.toList) :=
  cut_headerText hh.isAscii_name (fun hc => (token_small _ (hh.name_token _ hc)).2.2 rfl) _

/-- The line starts with a character of the name. -/
theorem head_line (hh : IsLine h) :
    ∃ c rest, ascii (headerText h.1.toList h.2.toList) = c :: rest ∧ c ≠ 32 ∧ c ≠ 9 := by
  have hlen := hh.name_size.1
  rw [← String.length_toList] at hlen
  obtain ⟨c, cs, hcs⟩ := List.exists_cons_of_length_pos hlen
  have hmem : UInt8.ofNat c.toNat ∈ ascii h.1.toList := by rw [hcs]; exact List.mem_cons_self ..
  obtain ⟨c', hc', hcode⟩ := mem_ascii hh.isAscii_name hmem
  have hsmall := token_small _ (hh.name_token c' hc')
  refine ⟨UInt8.ofNat c.toNat, ascii cs ++ ascii (':' :: ' ' :: h.2.toList), ?_, ?_, ?_⟩
  · rw [headerText, ascii_append, hcs]
    rfl
  · intro h32
    rw [hcode, h32] at hsmall
    exact absurd hsmall.1 (by decide)
  · intro h9
    rw [hcode, h9] at hsmall
    exact absurd hsmall.1 (by decide)

end IsLine

theorem readHeaderLine_ok (line : Bytes) (e : String × Bytes) :
    readHeaderLine line = .ok e ↔
      ∃ h, IsLine h ∧ line = ascii (headerText h.1.toList h.2.toList) ∧ e = (lower h.1, ascii h.2.toList) := by
  constructor
  · intro h
    unfold readHeaderLine at h
    split_ifs at h with hblank
    cases hcut : cut [58, 32] line with
    | none => simp [hcut] at h
    | some p =>
      obtain ⟨name, value⟩ := p
      simp only [hcut] at h
      split_ifs at h with hname hvalue
      obtain rfl := Except.ok.inj h
      simp only [Bool.or_eq_true, decide_eq_true_eq, Bool.not_eq_true', not_or, Bool.not_eq_true, Bool.not_eq_false,
        Nat.not_lt, List.isEmpty_eq_false_iff] at hname
      obtain ⟨⟨hne, hlong⟩, htoken⟩ := hname
      rw [List.all_map, List.all_eq_true] at htoken
      have hnameCode : ∀ u ∈ name, u.toNat < 128 := fun u hu => by
        have := token_small _ (htoken u hu)
        omega
      have hvalueCode : ∀ u ∈ value, u.toNat < 128 := fun u hu => by
        simp only [isHeaderValue, Bool.and_eq_true, Bool.not_eq_true', List.any_eq_false, Bool.or_eq_true,
          decide_eq_true_eq, not_or] at hvalue
        have := (hvalue.1.2 u hu).2
        rw [UInt8.lt_iff_toNat_lt, Nat.not_lt] at this
        exact Nat.lt_of_le_of_lt this (by decide)
      refine ⟨(String.ofList (asciiChars name), String.ofList (asciiChars value)), ⟨?_, ?_, ?_, ?_⟩, ?_, ?_⟩
      · have := List.length_pos_of_ne_nil hne
        simp only [String.length_ofList, asciiChars, List.length_map]
        omega
      · intro c hc
        rw [String.toList_ofList] at hc
        obtain ⟨u, hu, rfl⟩ := List.mem_map.mp hc
        rw [toNat_ofNat _ (hnameCode u hu)]
        exact htoken u hu
      · rw [String.toList_ofList]
        exact isAscii_asciiChars hvalueCode
      · rw [String.toList_ofList, ascii_asciiChars hvalueCode]
        exact hvalue
      · rw [ascii_headerText, String.toList_ofList, String.toList_ofList, ascii_asciiChars hnameCode,
          ascii_asciiChars hvalueCode]
        exact cut_eq hcut
      · rw [String.toList_ofList, ascii_asciiChars hvalueCode]
  · rintro ⟨h, hh, rfl, rfl⟩
    obtain ⟨c, rest, hline, h32, h9⟩ := hh.head_line
    have hlen := hh.name_size
    rw [← String.length_toList] at hlen
    have hnameLen : (ascii h.1.toList).length = h.1.toList.length := List.length_map ..
    unfold readHeaderLine
    rw [if_neg]
    · simp only [hh.cut_line]
      rw [if_neg, asciiChars_ascii hh.isAscii_name, String.ofList_toList, if_pos hh.value_ok]
      rw [map_toNat_ascii hh.isAscii_name]
      simp only [Bool.or_eq_true, decide_eq_true_eq, Bool.not_eq_true', not_or, Bool.not_eq_true, Bool.not_eq_false,
        List.isEmpty_eq_false_iff, List.all_map, List.all_eq_true]
      refine ⟨⟨List.ne_nil_of_length_pos (by omega), by omega⟩, fun c hc => hh.name_token c hc⟩
    · rw [hline]
      simp [isBlankByte, h32, h9]

/-! ## The values -/

/-- A printable character is a blank when it is a space. -/
theorem blank_ascii {o : Option Char} (h : ∀ c ∈ o, 32 ≤ c.toNat ∧ c.toNat ≤ 126) :
    isBlankByte (o.map fun c => UInt8.ofNat c.toNat) = false ↔ o ≠ some ' ' := by
  have key : ∀ n < 127, 32 ≤ n → (isBlankByte (some (UInt8.ofNat n)) = false ↔ Char.ofNat n ≠ ' ') := by decide
  cases o with
  | none => simp [isBlankByte]
  | some c =>
    have hc := h c rfl
    have := key c.toNat (by omega) hc.1
    rw [Char.ofNat_toNat] at this
    rw [Option.map_some, this, Ne, Ne, Option.some_inj]

theorem isHeaderValue_ascii {name : String} {text : List Char} (h : IsAscii text) :
    isHeaderValue name (ascii text) = true ↔ text.length ≤ MAX_HEADER_VALUE_BYTES ∧
      (∀ c ∈ text, 32 ≤ c.toNat ∧ c.toNat ≤ 126) ∧
      (name = "content-length" ∨ text ≠ [] ∧ text.head? ≠ some ' ' ∧ text.getLast? ≠ some ' ') := by
  have hlen : (ascii text).length = text.length := List.length_map ..
  have hempty : (ascii text).isEmpty = text.isEmpty := List.isEmpty_map ..
  simp only [isHeaderValue, Bool.and_eq_true, Bool.or_eq_true, decide_eq_true_eq, Bool.not_eq_true', beq_iff_eq, hlen,
    printable_ascii h, hempty, List.isEmpty_eq_false_iff, and_assoc]
  apply and_congr_right
  intro _
  apply and_congr_right
  intro hprint
  have hhead := blank_ascii (o := text.head?) fun c hc => hprint c (List.mem_of_mem_head? hc)
  have hlast := blank_ascii (o := text.getLast?) fun c hc => hprint c (List.mem_of_mem_getLast? hc)
  rw [ascii, List.head?_map, List.getLast?_map, hhead, hlast]

theorem IsField.isLine {h : String × String} (hh : IsField h) : IsLine h := by
  have hascii := isAscii_bounds hh.value_printable (by decide)
  have hsize := hh.value_size
  rw [← String.length_toList] at hsize
  exact ⟨hh.name_size, hh.name_token, hascii, (isHeaderValue_ascii hascii).mpr
    ⟨hsize.2, hh.value_printable, .inr ⟨List.ne_nil_of_length_pos hsize.1, hh.value_trimmed⟩⟩⟩

/-- The text of a positive number has no blank. -/
theorem positive_trimmed {text : List Char} (h : Decimal.isPositive text = true) :
    text ≠ [] ∧ text.head? ≠ some ' ' ∧ text.getLast? ≠ some ' ' := by
  rw [Decimal.isPositive_iff] at h
  have hspace : ' ' ∉ text := by
    intro hc
    rw [h.2] at hc
    exact absurd (Nat.isDigit_of_mem_toDigits (by decide) (by decide) hc) (by decide)
  refine ⟨?_, fun hc => hspace (List.mem_of_mem_head? hc), fun hc => hspace (List.mem_of_mem_getLast? hc)⟩
  rw [h.2]
  exact Nat.toDigits_ne_nil

theorem IsLine.isField {h : String × String} (hh : IsLine h)
    (hlength : lower h.1 = "content-length" → Decimal.isPositive h.2.toList = true) : IsField h := by
  obtain ⟨hsize, hprint, htrim⟩ := (isHeaderValue_ascii hh.value_ascii).mp hh.value_ok
  have htrim : h.2.toList ≠ [] ∧ h.2.toList.head? ≠ some ' ' ∧ h.2.toList.getLast? ≠ some ' ' := by
    rcases htrim with hname | htrim
    · exact positive_trimmed (hlength hname)
    · exact htrim
  have hpos := List.length_pos_of_ne_nil htrim.1
  rw [String.length_toList] at hsize hpos
  exact ⟨hh.name_size, hh.name_token, ⟨hpos, hsize⟩, hprint, htrim.2⟩

/-! ## The table -/

/-- The table that the code fills. -/
def bytesOf (headers : List (String × String)) : List (String × Bytes) :=
  headers.map fun h => (lower h.1, ascii h.2.toList)

theorem parseHeaders_ok {lines : List Bytes} {table : List (String × Bytes)} :
    parseHeaders lines = .ok table ↔ ∃ hs : List (String × String), (∀ h ∈ hs, IsLine h) ∧
      lines = hs.map (fun h => ascii (headerText h.1.toList h.2.toList)) ∧ table = bytesOf hs ∧
        (table.map Prod.fst).Nodup ∧ ∀ h ∈ hs, lower h.1 ∉ PROHIBITED_HEADERS := by
  have hunsupported (k : String) : unsupported k = none ↔ k ∉ PROHIBITED_HEADERS := by
    unfold unsupported
    split_ifs with h <;> simp [h]
  rw [parseHeaders, Fields.collect_ok readHeaderLine_ok]
  simp only [hunsupported]
  rfl

theorem lookup_bytesOf (headers : List (String × String)) (k : String) :
    (bytesOf headers).lookup k = ((tableOf headers).lookup k).map fun v => ascii v.toList := by
  induction headers with
  | nil => rfl
  | cons h hs ih =>
    simp only [bytesOf, tableOf, List.map_cons, List.lookup_cons] at ih ⊢
    cases k == lower h.1
    · exact ih
    · rfl

theorem keys_bytesOf (headers : List (String × String)) :
    (bytesOf headers).map Prod.fst = (tableOf headers).map Prod.fst := by
  simp [bytesOf, tableOf]

theorem mem_of_lookup {headers : List (String × String)} {k v : String} (h : (tableOf headers).lookup k = some v) :
    ∃ e ∈ headers, lower e.1 = k ∧ e.2 = v := by
  obtain ⟨l, l', hsplit, -⟩ := List.lookup_eq_some_iff.mp h
  have hmem : (k, v) ∈ tableOf headers := by rw [hsplit]; simp
  obtain ⟨e, he, heq⟩ := List.mem_map.mp hmem
  exact ⟨e, he, (Prod.mk.inj heq).1, (Prod.mk.inj heq).2⟩

theorem new_ok {f : RequestHeadFields} {head : ValidatedRequestHead} :
    ValidatedRequestHead.new f = .ok head ↔ head.toRequestHeadFields = f := by
  unfold ValidatedRequestHead.new
  constructor
  · intro h
    split_ifs at h with hf
    rw [← Except.ok.inj h]
  · rintro rfl
    rw [dif_pos head.valid]

/-- A head has the values of the protocol; only the numbers are its own. -/
theorem ValidatedRequestHead.eq (head : ValidatedRequestHead) : head.toRequestHeadFields =
    ⟨TRANSPORT_REQUEST_METHOD, TRANSPORT_REQUEST_TARGET, TRANSPORT_HTTP_VERSION, TRANSPORT_HOST, JSON_CONTENT_TYPE,
      head.contentLength, "close", head.headerCount, head.totalHeaderBytes⟩ := by
  obtain ⟨⟨method, target, version, host, contentType, length, connection, count, total⟩, valid⟩ := head
  simp only [RequestHeadFields.accepted, Bool.and_eq_true, beq_iff_eq] at valid
  obtain ⟨⟨⟨⟨⟨⟨⟨⟨rfl, rfl⟩, rfl⟩, rfl⟩, rfl⟩, -⟩, rfl⟩, -⟩, -⟩ := valid
  rfl

theorem ascii_text {v w : String} (hv : IsAscii v.toList) (hw : IsAscii w.toList) :
    ascii v.toList = ascii w.toList ↔ v = w := by
  rw [ascii_inj hv hw, String.toList_inj]

/-- The checks of the table say what the grammar says of it. -/
theorem checkHeaders_ok {headers : List (String × String)} (hvalues : ∀ h ∈ headers, IsAscii h.2.toList)
    {count total : Nat} {head : ValidatedRequestHead} :
    checkHeaders count total (bytesOf headers) = .ok head ↔
      (tableOf headers).lookup "host" = some TRANSPORT_HOST ∧
      (tableOf headers).lookup "content-type" = some JSON_CONTENT_TYPE ∧
      (∃ v, (tableOf headers).lookup "connection" = some v ∧ lower v = "close") ∧
      (∃ v, (tableOf headers).lookup "content-length" = some v ∧ Decimal.isPositive v.toList = true ∧
        Decimal.value v.toList = head.contentLength ∧ head.contentLength ≤ MAX_REQUEST_BODY_BYTES) ∧
      head.headerCount = count ∧ head.totalHeaderBytes = total := by
  have hascii {k v : String} (h : (tableOf headers).lookup k = some v) : IsAscii v.toList := by
    obtain ⟨e, he, -, rfl⟩ := mem_of_lookup h
    exact hvalues e he
  have hhostAscii : IsAscii TRANSPORT_HOST.toList := by decide
  have htypeAscii : IsAscii JSON_CONTENT_TYPE.toList := by decide
  have hcloseAscii : IsAscii "close".toList := by decide
  unfold checkHeaders
  simp only [lookup_bytesOf]
  cases hhost : (tableOf headers).lookup "host" with
  | none => simp
  | some host =>
  cases htype : (tableOf headers).lookup "content-type" with
  | none => simp
  | some contentType =>
  cases hconn : (tableOf headers).lookup "connection" with
  | none => simp
  | some connection =>
  cases hlen : (tableOf headers).lookup "content-length" with
  | none => simp
  | some text =>
  have hlower : lowerBytes (ascii connection.toList) = ascii "close".toList ↔ lower connection = "close" := by
    have hlowerAscii : IsAscii (connection.toList.map Char.toLower) := by
      intro c hc
      obtain ⟨d, hd, rfl⟩ := List.mem_map.mp hc
      have key : ∀ n < 128, (Char.ofNat n).toLower.toNat < 128 := by decide
      have := key d.toNat (hascii hconn d hd)
      rwa [Char.ofNat_toNat] at this
    have htext : "close" = String.ofList "close".toList := String.ofList_toList.symm
    rw [lowerBytes_ascii (hascii hconn), ascii_inj hlowerAscii hcloseAscii, lower, htext, String.ofList_inj,
      String.toList_ofList]
  simp only [Option.map_some, Ne, ascii_text (hascii hhost) hhostAscii, ascii_text (hascii htype) htypeAscii, hlower,
    asciiChars_ascii (hascii hlen), Option.some_inj]
  constructor
  · intro h
    split_ifs at h with h1 h2 h3 h4 h5 h6
    have hfields := new_ok.mp h
    have hpositive : Decimal.isPositive text.toList = true := by
      by_contra hnot
      rw [not_and_or, not_not] at h4
      rcases h4 with hzero | hpos
      · rw [hzero] at h5
        exact h5 rfl
      · exact hpos (Bool.eq_false_iff.mpr hnot)
    rw [hfields]
    exact ⟨h1, h2, ⟨connection, rfl, h3⟩, ⟨text, rfl, hpositive, rfl, Nat.le_of_not_lt h6⟩, rfl, rfl⟩
  · rintro ⟨rfl, rfl, ⟨_, rfl, hclose⟩, ⟨_, rfl, hpositive, hvalue, hle⟩, rfl, rfl⟩
    have hpos := (Decimal.isPositive_iff.mp hpositive).1
    rw [if_neg (not_not.mpr rfl), if_neg (not_not.mpr rfl), if_neg (not_not.mpr hclose), if_neg, if_neg (by omega),
      if_neg (by omega), new_ok, hvalue]
    · exact head.eq
    · rw [hpositive]
      exact fun h => absurd h.2 Bool.noConfusion

/-! ## Framing of the texts -/

/-- A part of a framed text from its start is framed. -/
theorem framedFrom_prefix : ∀ {p q : Bytes} {before : Option UInt8}, framedFrom before (p ++ q) = true →
    framedFrom before p = true
  | [], _, _, _ => rfl
  | b :: p, q, before, h => by
    rw [List.cons_append, framedFrom, Bool.and_eq_true, Bool.and_eq_true] at h
    rw [framedFrom, Bool.and_eq_true, Bool.and_eq_true]
    refine ⟨⟨h.1.1, ?_⟩, framedFrom_prefix h.2⟩
    cases p with
    | nil => simp
    | cons c p => simpa using h.1.2

/-- A line without CR and LF, and its end. -/
theorem framedFrom_line : ∀ {line : Bytes} {before : Option UInt8} (rest : Bytes), 13 ∉ line → 10 ∉ line →
    framedFrom before (line ++ 13 :: 10 :: rest) = framedFrom (some 10) rest
  | [], before, rest, _, _ => by simp [framedFrom]
  | b :: line, before, rest, hcr, hlf => by
    rw [List.mem_cons, not_or] at hcr hlf
    rw [List.cons_append, framedFrom, framedFrom_line rest hcr.2 hlf.2]
    have h13 : (b != 13) = true := bne_iff_ne.mpr (Ne.symm hcr.1)
    have h10 : (b != 10) = true := bne_iff_ne.mpr (Ne.symm hlf.1)
    rw [h10, h13]
    simp

theorem framedFrom_lines {lines : List Bytes} {before : Option UInt8} (h : ∀ line ∈ lines, 13 ∉ line ∧ 10 ∉ line) :
    framedFrom before (lines.flatMap (· ++ CRLF) ++ CRLF) = true := by
  induction lines generalizing before with
  | nil => exact framedFrom_line [] List.not_mem_nil List.not_mem_nil
  | cons line lines ih =>
    rw [List.forall_mem_cons] at h
    rw [List.flatMap_cons, CRLF, List.append_assoc, List.append_assoc]
    exact (framedFrom_line _ h.1.1 h.1.2).trans (ih h.2)

theorem ascii_headText (headers : List (String × String)) : ascii (headText headers) =
    joined CRLF (ascii requestLine) (headers.map fun h => ascii (headerText h.1.toList h.2.toList)) ++
      (CRLF ++ CRLF) := by
  have hcrlf : ascii ['\r', '\n'] = CRLF := rfl
  rw [← List.append_assoc, joined_terminated, headText, ascii_append, ascii_flatMap, hcrlf]
  simp [List.flatMap_map, ascii_append, hcrlf]

theorem length_ascii (text : List Char) : (ascii text).length = text.length := List.length_map ..

/-- The lines of a head are printable and not empty. -/
theorem lines_clean {headers : List (String × String)} (h : ∀ e ∈ headers, IsField e) :
    ∀ line ∈ ascii requestLine :: headers.map (fun h => ascii (headerText h.1.toList h.2.toList)),
      line ≠ [] ∧ 13 ∉ line ∧ 10 ∉ line := by
  intro line hline
  rcases List.mem_cons.mp hline with rfl | hline
  · exact line_clean (isPrintable_iff.mp (by decide)) (by decide)
  · obtain ⟨e, he, rfl⟩ := List.mem_map.mp hline
    refine line_clean (fun c hc => ?_) (by simp [headerText])
    rcases List.mem_append.mp hc with hc | hc
    · have := token_small _ ((h e he).name_token c hc)
      omega
    · rcases List.mem_cons.mp hc with rfl | hc
      · decide
      · rcases List.mem_cons.mp hc with rfl | hc
        · decide
        · exact (h e he).value_printable c hc

/-! ## The parser -/

/-- Four names are required, so there are four headers. -/
theorem IsRequestHead.four {headers : List (String × String)} {n : Nat} (h : IsRequestHead headers n) :
    REQUIRED_HEADERS.length ≤ headers.length := by
  have hmem {k v : String} (hl : (tableOf headers).lookup k = some v) : k ∈ (tableOf headers).map Prod.fst :=
    Fields.lookup_isSome.mp (hl ▸ rfl)
  obtain ⟨c, hc, -⟩ := h.connection
  obtain ⟨l, hl, -⟩ := h.content_length
  have hsub : REQUIRED_HEADERS ⊆ (tableOf headers).map Prod.fst := by
    intro k hk
    simp only [REQUIRED_HEADERS, List.mem_cons, List.not_mem_nil, or_false] at hk
    rcases hk with rfl | rfl | rfl | rfl
    · exact hmem h.host
    · exact hmem h.content_type
    · exact hmem hl
    · exact hmem hc
  have hle := (List.subperm_of_subset (by decide) hsub).length_le
  simpa [tableOf] using hle

/-- The head that the grammar's text is read as. -/
def IsHeadOf (head : ValidatedRequestHead) (headers : List (String × String)) : Prop :=
  IsRequestHead headers head.contentLength ∧ head.headerCount = headers.length ∧
    head.totalHeaderBytes = (headText headers).length

/-- **The parser accepts the texts of the grammar.** -/
theorem parseRequestHead_ok {raw : Bytes} {head : ValidatedRequestHead} :
    parseRequestHead raw = .ok head ↔ ∃ headers, IsHeadOf head headers ∧ raw = ascii (headText headers) := by
  have hframing (b : Bytes) : validatePlainFraming b = .ok () ↔ framedFrom none b = true := by
    unfold validatePlainFraming
    split_ifs with h <;> simp [h]
  constructor
  · intro h
    unfold parseRequestHead at h
    split_ifs at h with hend hsize
    rw [Bool.not_eq_true', Bool.not_eq_false, List.isSuffixOf_iff_suffix] at hend
    obtain ⟨text, rfl⟩ := hend
    have htake : (text ++ (CRLF ++ CRLF)).take ((text ++ (CRLF ++ CRLF)).length - 4) = text := by
      rw [List.length_append]
      exact List.take_left' rfl
    rw [htake] at h
    obtain ⟨-, -, h⟩ := Except.bind_eq_ok.mp h
    cases hsplit : split CRLF text with
    | nil => exact absurd hsplit (split_ne_nil _ _)
    | cons first rest =>
      simp only [hsplit] at h
      split_ifs at h with hline hdecode hfirst hcount
      obtain ⟨table, htable, h⟩ := Except.bind_eq_ok.mp h
      obtain ⟨hs, hlines, rfl, rfl, hdistinct, hallowed⟩ := parseHeaders_ok.mp htable
      obtain ⟨hhost, htype, hconn, ⟨v, hlen, hpositive, hvalue, hle⟩, hcount', htotal⟩ :=
        (checkHeaders_ok fun e he => (hlines e he).value_ascii).mp h
      rw [keys_bytesOf] at hdistinct
      have htext : text ++ (CRLF ++ CRLF) = ascii (headText hs) := by
        rw [ascii_headText, ← not_not.mp hfirst, ← joined_split hsplit]
      rw [List.length_map] at hcount hcount'
      rw [htext, length_ascii] at hsize htotal
      refine ⟨hs, ⟨⟨fun e he => (hlines e he).isField fun hname => ?_, by omega, Nat.le_of_not_lt hsize, hdistinct,
        hallowed, hhost, htype, hconn, v, hlen, hpositive, hvalue, hle⟩, hcount', htotal⟩, htext⟩
      have hmem : ("content-length", e.2) ∈ tableOf hs := hname ▸ List.mem_map_of_mem he
      rw [(lookup_iff_mem hdistinct).mpr hmem] at hlen
      rwa [Option.some.inj hlen]
  · rintro ⟨headers, ⟨hhead, hcount, htotal⟩, rfl⟩
    have hclean := lines_clean hhead.fields
    have hsplit := split_joined (c := 13) (t := [10]) fun p hp => (hclean p hp).2.1
    have hdrop : (ascii (headText headers)).take ((ascii (headText headers)).length - 4) =
        joined CRLF (ascii requestLine) (headers.map fun h => ascii (headerText h.1.toList h.2.toList)) := by
      rw [ascii_headText, List.length_append]
      exact List.take_left' rfl
    have hframed : validatePlainFraming (ascii (headText headers)) = .ok () := by
      rw [hframing, ascii_headText, ← List.append_assoc, joined_terminated]
      exact framedFrom_lines fun line hl => (hclean line hl).2
    unfold parseRequestHead
    rw [if_neg, if_neg, hframed, Except.ok_bind, hdrop]
    · unfold CRLF
      rw [hsplit]
      simp only
      rw [if_neg (by decide), if_neg (by decide), if_neg (not_not.mpr rfl), if_neg, Except.bind_eq_ok]
      · refine ⟨bytesOf headers, parseHeaders_ok.mpr ⟨headers, fun e he => (hhead.fields e he).isLine, rfl, rfl, ?_,
          hhead.allowed⟩, (checkHeaders_ok fun e he => (hhead.fields e he).isLine.value_ascii).mpr
          ⟨hhead.host, hhead.content_type, hhead.connection, hhead.content_length, ?_, ?_⟩⟩
        · rw [keys_bytesOf]
          exact hhead.distinct
        · rw [List.length_map, hcount]
        · rw [length_ascii, htotal]
      · have := hhead.count
        rw [List.length_map]
        omega
    · rw [length_ascii]
      have := hhead.size
      omega
    · rw [Bool.not_eq_true', Bool.not_eq_false, List.isSuffixOf_iff_suffix, ascii_headText]
      exact List.suffix_append ..

end ThreatFusion.Transport
