import ThreatFusion.Py.Text
/-
# What a browser sends: the request (`api/analyst_browser_tls_service.py`:205-329)

| here | there |
| --- | --- |
| `Recv`               | one turn of a receive loop: the deadline has passed, `recv` raised, or it returned |
| `readHead`           | the loop up to the blank line (:210-231) |
| `parseHead`          | the request line and the headers (:233-266) |
| `readBody`           | the loop over the body (:312-325) |
| `readBrowserRequest` | `_read_browser_request`; `port` is `actual_port` |

`intOfDigits` is `int()` of a text of decimal digits, which raises `ValueError` from 4301 digits on.
-/
namespace ThreatFusion.Browser
open Py

def MAX_BROWSER_HEAD_BYTES : Nat := 8192
def MAX_BROWSER_BODY_BYTES : Nat := 2048
def MAX_BROWSER_RESPONSE_BYTES : Nat := 131072

/-- `sys.get_int_max_str_digits()`. -/
def INT_MAX_STR_DIGITS : Nat := 4300

inductive Recv where
  | expired
  | failed
  | chunk (bytes : Bytes)

/-- What leaves `_read_browser_request`: a code of `AnalystTlsError`, or the `ValueError` of `int`. -/
inductive ReadError where
  | connectionIdle | requestInvalid | valueError
deriving DecidableEq

inductive Method where
  | get | post
deriving DecidableEq

structure BrowserRequest where
  method : Method
  target : String
  headers : List (String × String)
  body : Bytes
  body_size : body.length ≤ MAX_BROWSER_BODY_BYTES
deriving DecidableEq

def BrowserRequest.header (r : BrowserRequest) (key : String) : Option String := r.headers.lookup key

/-! ## Splitting -/

/-- `buffer.split(b"\r\n\r\n", 1)`, when the blank line is there. -/
def splitHead : Bytes → Option (Bytes × Bytes)
  | [] => none
  | b :: rest =>
    if (b :: rest).take 4 = [13, 10, 13, 10] then some ([], rest.drop 3)
    else (splitHead rest).map fun (head, body) => (b :: head, body)

/-- `text.split(sep)`, for one character. -/
def splitChar (sep : Char) : List Char → List (List Char)
  | [] => [[]]
  | c :: cs =>
    if c = sep then [] :: splitChar sep cs
    else match splitChar sep cs with
      | [] => [[c]]
      | part :: parts => (c :: part) :: parts

/-- `text.split(sep, 1)`, when the separator is there. -/
def cutChar (sep : Char) : List Char → Option (List Char × List Char)
  | [] => none
  | c :: cs => if c = sep then some ([], cs) else (cutChar sep cs).map fun (a, b) => (c :: a, b)

/-- `text.split("\r\n")`. -/
def splitLines : List Char → List (List Char)
  | [] => [[]]
  | '\r' :: '\n' :: cs => [] :: splitLines cs
  | c :: cs => match splitLines cs with
    | [] => [[c]]
    | part :: parts => (c :: part) :: parts

/-! ## Receiving -/

/-- A loop that got nothing more ends so. -/
def starved (buffer : Bytes) : ReadError := if buffer.isEmpty then .connectionIdle else .requestInvalid

/-- The head, what came after the blank line, and what is left of the answers of the socket. -/
def readHead : Bytes → List Recv → Except ReadError (Bytes × Bytes × List Recv)
  | buffer, [] => match splitHead buffer with
    | some (head, body) => .ok (head, body, [])
    | none => .error (if MAX_BROWSER_HEAD_BYTES < buffer.length then .requestInvalid else starved buffer)
  | buffer, turn :: turns => match splitHead buffer with
    | some (head, body) => .ok (head, body, turn :: turns)
    | none =>
      if MAX_BROWSER_HEAD_BYTES < buffer.length then .error .requestInvalid
      else match turn with
        | .expired | .failed => .error (starved buffer)
        | .chunk bytes =>
          let got := bytes.take (min 4096 (MAX_BROWSER_HEAD_BYTES + 4 - buffer.length))
          if got.isEmpty then .error (starved buffer) else readHead (buffer ++ got) turns

def readBody (size : Nat) : Bytes → List Recv → Except ReadError Bytes
  | body, [] => if body.length < size then .error .requestInvalid else .ok body
  | body, turn :: turns =>
    if body.length < size then match turn with
      | .expired | .failed => .error .requestInvalid
      | .chunk bytes =>
        let got := bytes.take (min 4096 (size - body.length))
        if got.isEmpty then .error .requestInvalid else readBody size (body ++ got) turns
    else .ok body

/-! ## The head -/

def isAscii (b : Bytes) : Bool := b.all (· < 128)

def asciiText (b : Bytes) : List Char := b.map fun u => Char.ofNat u.toNat

def parseHeaders : List (List Char) → List (String × String) → Option (List (String × String))
  | [], headers => some headers
  | line :: lines, headers =>
    if line.isEmpty then parseHeaders lines headers
    else do
      let (key, val) ← cutChar ':' line
      let key := strip (String.ofList (key.map Char.toLower))
      guard ((headers.lookup key).isNone)
      parseHeaders lines (headers ++ [(key, strip (String.ofList val))])

def methodOf (text : String) : Option Method :=
  if text = "GET" then some .get else if text = "POST" then some .post else none

/-- Method, target and headers. -/
def parseHead (head : Bytes) : Option (Method × String × List (String × String)) := do
  guard (isAscii head)
  match splitLines (asciiText head) with
  | [] => none
  | first :: lines => match splitChar ' ' first with
    | [method, target, version] => do
      let method ← methodOf (String.ofList method)
      guard (String.ofList version = "HTTP/1.1" ∨ String.ofList version = "HTTP/1.0")
      let headers ← parseHeaders lines []
      some (method, String.ofList target, headers)
    | _ => none

def expectedHosts (port : Nat) : List String :=
  ["localhost", "127.0.0.1", "localhost:" ++ toString port, "127.0.0.1:" ++ toString port]

def expectedOrigins (port : Nat) : List String :=
  ["https://localhost:" ++ toString port, "https://127.0.0.1:" ++ toString port]

def absentOr (allowed : List String) : Option String → Bool
  | none => true
  | some s => s == "" || allowed.contains s

/-! ## The request -/

def isDigits (s : String) : Bool := !s.toList.isEmpty && s.toList.all Char.isDigit

def digitsValue (s : String) : Nat := s.toList.foldl (fun n c => 10 * n + (c.toNat - 48)) 0

def intOfDigits (s : String) : Except ReadError Nat :=
  if INT_MAX_STR_DIGITS < s.length then .error .valueError else .ok (digitsValue s)

def isFormType (contentType : String) : Bool :=
  strip (String.ofList ((splitChar ';' contentType.toList).headD [])) == "application/x-www-form-urlencoded"

def require (ok : Bool) : Except ReadError Unit := if ok then .ok () else .error .requestInvalid

def readPost (target : String) (headers : List (String × String)) (initialBody : Bytes) (turns : List Recv) :
    Except ReadError BrowserRequest := do
  require (isFormType ((headers.lookup "content-type").getD ""))
  let lengthText := (headers.lookup "content-length").getD ""
  require (isDigits lengthText)
  let contentLength ← intOfDigits lengthText
  if hsize : 0 < contentLength ∧ contentLength ≤ MAX_BROWSER_BODY_BYTES then do
    let body ← readBody contentLength initialBody turns
    if hbody : body.length = contentLength then .ok ⟨.post, target, headers, body, hbody ▸ hsize.2⟩
    else .error .requestInvalid
  else .error .requestInvalid

def readGet (port : Nat) (target : String) (headers : List (String × String)) (initialBody : Bytes) :
    Except ReadError BrowserRequest := do
  require ((headers.lookup "content-length").getD "0" == "0")
  require initialBody.isEmpty
  require (absentOr (expectedOrigins port) (headers.lookup "origin"))
  require (absentOr ["none", "same-origin"] (headers.lookup "sec-fetch-site"))
  .ok ⟨.get, target, headers, [], Nat.zero_le _⟩

def readBrowserRequest (port : Nat) (turns : List Recv) : Except ReadError BrowserRequest :=
  match readHead [] turns with
  | .error e => .error e
  | .ok (head, initialBody, turns) => match parseHead head with
    | none => .error .requestInvalid
    | some (method, target, headers) => do
      require ((headers.lookup "transfer-encoding").isNone)
      require ((headers.lookup "host").any (expectedHosts port).contains)
      match method with
      | .get => readGet port target headers initialBody
      | .post => readPost target headers initialBody turns

end ThreatFusion.Browser
