import ThreatFusion.Lib.Records
import ThreatFusion.Py.Float
import ThreatFusion.Transport.Head
/-
# A producer's connection: reading the head (`api/producer_tls_transport.py`:288-301, 385-519)

| here | there |
| --- | --- |
| `Turn`            | what one `_recv` meets: two values of `monotonic()`, and the socket between them |
| `startTurn`       | `_read_timeout` |
| `endTurn`         | the clock after a chunk (:476-481) |
| `recv`            | `_recv` |
| `Connection.require`, `abort`, `newCapability` | `_require`, `_abort`, `_new_capability` |
| `readHead`        | the loop of `read_request_head` (:505-513) |
| `readRequestHead` | `read_request_head` |

The peer's bytes come in records; a connection without turns left has been closed by its peer. `fits`
says which timeouts `settimeout` takes; it raises `OverflowError` for the others.
-/
namespace ThreatFusion.Transport
open Py Admission Delimited Records

/-- What leaves a method: `ProducerTlsTransportError`, or the exception of `settimeout`. -/
inductive Raised where
  | transport (e : TransportError)
  | overflowError
deriving DecidableEq

def clockInvalid : Raised := .transport ⟨"monotonic_clock_invalid", 503, "internal_failure"⟩
def totalTimeout : Raised := .transport ⟨"request_total_timeout", 408, "request_timeout"⟩
def idleTimeout : Raised := .transport ⟨"request_idle_timeout", 408, "request_timeout"⟩

/-! ## The clock -/

/-- `monotonic()` raises, or it returns a float. -/
inductive Reading where
  | raised
  | value (x : PyFloat)
deriving DecidableEq

/-- `_monotonic_value`. -/
def monotonicValue : Reading → Except Raised ℚ
  | .value (.finite v _) => if 0 ≤ v then .ok v else .error clockInvalid
  | _ => .error clockInvalid

/-- `x - y`, on floats. -/
def minus (x y : ℚ) : ℚ := roundDouble (x - y)

/-- `_remaining`. -/
def remaining (now started total : ℚ) : Except Raised ℚ :=
  if minus total (minus now started) ≤ 0 then .error totalTimeout else .ok (minus total (minus now started))

/-- `_read_total_seconds` and `_read_idle_seconds`. -/
structure Limits where
  readTotal : ℚ
  readIdle : ℚ
deriving DecidableEq

/-- `_read_started` and `_last_progress`, which are set together. -/
structure Times where
  started : ℚ
  last : ℚ
deriving DecidableEq

/-- The socket gives bytes of the stream, or nothing more, or it waits until the timeout. -/
inductive Wire where
  | arrives
  | ended
  | timedOut (now : Reading)
deriving DecidableEq

structure Turn where
  before : Reading
  wire : Wire
  after : Reading
deriving DecidableEq

section Receive

variable (fits : ℚ → Bool) (limits : Limits)

/-- The clock before a receive, the times it is measured from, and the times as they are left. -/
def startTurn (turn : Turn) (times : Option Times) : Except Raised (ℚ × Times) × Option Times :=
  match monotonicValue turn.before with
  | .error e => (.error e, times)
  | .ok now =>
    let t := times.getD ⟨now, now⟩
    (do
      let total ← remaining now t.started limits.readTotal
      let idle := minus limits.readIdle (minus now t.last)
      if idle ≤ 0 then .error idleTimeout
      else if fits (min total idle) then .ok (now, t) else .error .overflowError, some t)

/-- The clock after a chunk. -/
def endTurn (turn : Turn) (before : ℚ) (t : Times) : Except Raised Times := do
  let after ← monotonicValue turn.after
  if after < before then .error clockInvalid
  else do
    let _ ← remaining after t.started limits.readTotal
    .ok { t with last := after }

/-- `except (TimeoutError, socket.timeout)`. -/
def timeoutFailure (now : Reading) (t : Times) : Raised :=
  match now with
  | .raised => clockInvalid
  | .value (.finite v _) => if limits.readTotal ≤ minus v t.started then totalTimeout else idleTimeout
  | .value (.nonFinite r) => if r = "inf" then totalTimeout else idleTimeout

structure Io where
  source : Source UInt8
  times : Option Times

def recv (size : Nat) (turn : Turn) (io : Io) : Except Raised Bytes × Io :=
  match startTurn fits limits turn io.times with
  | (.error e, times) => (.error e, ⟨io.source, times⟩)
  | (.ok (before, t), times) => match turn.wire with
    | .timedOut now => (.error (timeoutFailure limits now t), ⟨io.source, times⟩)
    | .ended => (.ok [], ⟨io.source, times⟩)
    | .arrives => match io.source.recv size with
      | none => (.ok [], ⟨io.source, times⟩)
      | some (chunk, source) => match endTurn limits turn before t with
        | .error e => (.error e, ⟨source, times⟩)
        | .ok t' => (.ok chunk, ⟨source, some t'⟩)

end Receive

/-! ## Capabilities -/

inductive Stage where
  | authenticated | headValidated | bodyRead | closed
deriving DecidableEq

/-- A `TransportCapability`; `none` is a value that is no text, or no stage. -/
structure TransportCapability where
  connectionId : Option String
  stage : Option Stage
  ownershipToken : Option String
deriving DecidableEq

structure Connection where
  connectionId : String
  stage : Stage
  tokenSha256 : Option String
  head : Option ValidatedRequestHead
  limits : Limits
  io : Io
  turns : List Turn

namespace Connection

/-- `_require` passes; the argument `none` is no capability. -/
def require (sha256 : String → String) (c : Connection) (capability : Option TransportCapability)
    (stages : List Stage) : Bool :=
  match capability with
  | none => false
  | some k => stages.any (fun s => k.stage == some s) && k.stage == some c.stage && k.connectionId.any isUuid4 &&
      k.connectionId == some c.connectionId && k.ownershipToken.any isOwnershipToken &&
      c.tokenSha256.isSome && c.tokenSha256 == k.ownershipToken.map sha256

def abort (c : Connection) : Connection := { c with tokenSha256 := none, stage := .closed }

/-- `_new_capability`, for the token that `secrets` gives. -/
def newCapability (sha256 : String → String) (token : String) (c : Connection) : TransportCapability × Connection :=
  (⟨some c.connectionId, some c.stage, some token⟩, { c with tokenSha256 := some (sha256 token) })

end Connection

def capabilityInvalid : Raised := .transport ⟨"connection_capability_invalid", 500, "internal_failure"⟩

/-! ## The head -/

/-- `raw.endswith(b"\r\n\r\n")`. -/
def endsHead (raw : Bytes) : Bool := (CRLF ++ CRLF).isSuffixOf raw

/-- The checks of what has been read so far. -/
def checkPart (raw : Bytes) : Except TransportError Unit := do
  validatePlainFraming raw
  if (cut CRLF raw).isNone ∧ MAX_REQUEST_LINE_BYTES + 2 < raw.length then .error (failure "request_line_too_large")
  else if MAX_HEADER_BYTES < raw.length then .error (failureStatus "request_headers_too_large" 431)
  else .ok ()

def readHead (fits : ℚ → Bool) (limits : Limits) : Bytes → List Turn → Io → Except Raised Bytes × List Turn × Io
  | raw, [], io =>
    if endsHead raw then (.ok raw, [], io) else (.error (.transport (failure "request_head_incomplete")), [], io)
  | raw, turn :: turns, io =>
    if endsHead raw then (.ok raw, turn :: turns, io)
    else match recv fits limits 1 turn io with
      | (.error e, io) => (.error e, turns, io)
      | (.ok chunk, io) =>
        if chunk.isEmpty then (.error (.transport (failure "request_head_incomplete")), turns, io)
        else match checkPart (raw ++ chunk) with
          | .error e => (.error (.transport e), turns, io)
          | .ok () => readHead fits limits (raw ++ chunk) turns io

/-- `except ProducerTlsTransportError: self._abort()`; another exception passes. -/
def Connection.leave (c : Connection) : Raised → Connection
  | .transport _ => c.abort
  | .overflowError => c

def readRequestHead (sha256 : String → String) (fits : ℚ → Bool) (token : String)
    (capability : Option TransportCapability) (c : Connection) :
    Except Raised (ValidatedRequestHead × TransportCapability) × Connection :=
  if c.require sha256 capability [.authenticated] = false then (.error capabilityInvalid, c.abort)
  else match readHead fits c.limits [] c.turns c.io with
    | (.error e, turns, io) => (.error e, { c with turns := turns, io := io }.leave e)
    | (.ok raw, turns, io) => match parseRequestHead raw with
      | .error e => (.error (.transport e), { c with turns := turns, io := io }.abort)
      | .ok head =>
        let read := { c with turns := turns, io := io, head := some head, stage := .headValidated }
        (.ok (head, (read.newCapability sha256 token).1), (read.newCapability sha256 token).2)

end ThreatFusion.Transport
