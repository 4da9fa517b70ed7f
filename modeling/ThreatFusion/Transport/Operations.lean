import ThreatFusion.Admission.ResponseCodec
import ThreatFusion.Transport.HeadReading
/-
# Body, response and close (`api/producer_tls_transport.py`:521-620)

| here | there |
| --- | --- |
| `readBodyLoop`, `readBody`  | `read_body` |
| `encodeReply`               | the `if` of `write_response` (:590-597); `none` is `ProducerAdmissionError` |
| `sendWire`, `writeResponse` | `_send_wire`, `write_response`; the connection is closed whatever happens |
| `close`                     | `close` |
| `step`                      | one call of a method |
-/
namespace ThreatFusion.Transport
open Py Admission Delimited Records

def SOCKET_READ_CHUNK_BYTES : Nat := 8192
def RESPONSE_WRITE_TOTAL_SECONDS : ℚ := 5
def RESPONSE_WRITE_IDLE_SECONDS : ℚ := 1

/-! ## The body -/

/-- The loop of `read_body`: `left` bytes are missing, `got` are there. -/
def readBodyLoop (fits : ℚ → Bool) (limits : Limits) :
    Nat → Bytes → List Turn → Io → Except Raised Bytes × List Turn × Io
  | 0, got, turns, io => (.ok got, turns, io)
  | _ + 1, _, [], io => (.error (.transport (failure "body_incomplete")), [], io)
  | left + 1, got, turn :: turns, io =>
    match recv fits limits (min SOCKET_READ_CHUNK_BYTES (left + 2)) turn io with
    | (.error e, io) => (.error e, turns, io)
    | (.ok chunk, io) =>
      if chunk.isEmpty then (.error (.transport (failure "body_incomplete")), turns, io)
      else if left + 1 < chunk.length then (.error (.transport (failure "unexpected_trailing_data")), turns, io)
      else readBodyLoop fits limits (left + 1 - chunk.length) (got ++ chunk) turns io
termination_by _ _ turns _ => turns.length

def stateInvalid : Raised := .transport ⟨"connection_state_invalid", 500, "internal_failure"⟩

/-- `read_body`; `pendingFails` is an `OSError` of `pending()`. -/
def readBody (sha256 : String → String) (fits : ℚ → Bool) (token : String) (pendingFails : Bool)
    (capability : Option TransportCapability) (c : Connection) :
    Except Raised (Bytes × TransportCapability) × Connection :=
  if c.require sha256 capability [.headValidated] = false then (.error capabilityInvalid, c.abort)
  else match c.head with
    | none => (.error stateInvalid, c.abort)
    | some head => match readBodyLoop fits c.limits head.contentLength [] c.turns c.io with
      | (.error e, turns, io) => (.error e, { c with turns := turns, io := io }.leave e)
      | (.ok body, turns, io) =>
        let c := { c with turns := turns, io := io }
        if pendingFails then (.error (.transport (failure "request_read_failed")), c.abort)
        else if io.source.current ≠ [] then (.error (.transport (failure "unexpected_trailing_data")), c.abort)
        else
          let read := { c with stage := .bodyRead }
          (.ok (body, (read.newCapability sha256 token).1), (read.newCapability sha256 token).2)

/-! ## The response -/

/-- `_RESPONSE_STATUS`. -/
def responseStatus : ResponseReason → Nat × String
  | .requestCompleted => (200, "OK")
  | .requestRejected => (400, "Bad Request")
  | .requestInProgress => (409, "Conflict")
  | .requestReplayRejected => (409, "Conflict")
  | .outcomeUnknown => (503, "Service Unavailable")
  | .alertCandidateCreated => (200, "OK")
  | .alertCandidateAlreadyExists => (200, "OK")
  | .alertCandidateIdentityConflict => (409, "Conflict")
  | .inferenceNotActionable => (200, "OK")
  | .registeredEventInvalid => (400, "Bad Request")
  | .registeredEventUnavailable => (503, "Service Unavailable")
  | .registeredEventRejected => (400, "Bad Request")
  | .rateLimited => (429, "Too Many Requests")
  | .serverBusy => (429, "Too Many Requests")
  | .auditUnavailable => (503, "Service Unavailable")
  | .internalError => (503, "Service Unavailable")
  | .processingTimeout => (503, "Service Unavailable")
  | .inferenceRejected => (400, "Bad Request")

/-- The argument: a `ProducerResponse`, bytes, or anything else. -/
inductive Reply where
  | response (r : ProducerResponse)
  | encoded (b : Bytes)
  | other

/-- The body, its status code and phrase. -/
def encodeReply (parseFloat : String → PyFloat) : Reply → Option (Bytes × Nat × String)
  | .response r => (serializeProducerResponse r).map fun body => (body, responseStatus r.reason)
  | .encoded b =>
    if 1 ≤ b.length ∧ b.length ≤ MAX_RESPONSE_BYTES then
      match decodeProducerResponse parseFloat b with
      | .ok decoded => some (b, responseStatus decoded.reason)
      | .error _ => none
    else none
  | .other => none

def GENERIC_INTERNAL_BODY : Bytes :=
  ascii ("\x7b\"reason\":\"internal_failure\"," ++
    "\"schema_version\":\"producer_transport_response_v1\",\"status\":\"unavailable\"\x7d\n").toList

def responseWire (body : Bytes) (status : Nat × String) : Bytes :=
  ascii ("HTTP/1.1 " ++ toString status.1 ++ " " ++ status.2 ++ "\r\nContent-Type: " ++ JSON_CONTENT_TYPE ++
    "\r\nContent-Length: " ++ toString body.length ++ "\r\nConnection: close\r\n\r\n").toList ++ body

/-- Two values of the clock, and whether `sendall` returns. -/
structure Sending where
  started : Reading
  now : Reading
  sent : Bool

def sendWire (fits : ℚ → Bool) (sending : Sending) : Except Raised Unit := do
  let started ← monotonicValue sending.started
  let now ← monotonicValue sending.now
  let left ← remaining now started RESPONSE_WRITE_TOTAL_SECONDS
  if fits (min left RESPONSE_WRITE_IDLE_SECONDS) = false then .error .overflowError
  else if sending.sent then .ok () else .error (.transport ⟨"response_write_failed", 503, "internal_failure"⟩)

/-- `write_response`: the bytes that were sent. -/
def writeResponse (parseFloat : String → PyFloat) (sha256 : String → String) (fits : ℚ → Bool) (reply : Reply)
    (sending : Sending) (capability : Option TransportCapability) (c : Connection) : Except Raised Bytes × Connection :=
  if c.require sha256 capability [.headValidated, .bodyRead] = false then (.error capabilityInvalid, c.abort)
  else match encodeReply parseFloat reply with
    | some (body, status) => match sendWire fits sending with
      | .ok () => (.ok (responseWire body status), c.abort)
      | .error e => (.error e, c.abort)
    | none => match sendWire fits sending with
      -- the generic body was sent
      | .ok () => (.error (.transport ⟨"response_invalid", 500, "internal_failure"⟩), c.abort)
      | .error e => (.error e, c.abort)

def close (sha256 : String → String) (capability : Option TransportCapability) (c : Connection) :
    Except Raised Unit × Connection :=
  if c.require sha256 capability [.authenticated, .headValidated, .bodyRead] = false then
    (.error capabilityInvalid, c.abort)
  else (.ok (), c.abort)

/-! ## Calls -/

inductive Op where
  | readHead | readBody | write | close
deriving DecidableEq

/-- The stages in which a method accepts the capability. -/
def Op.stages : Op → List Stage
  | .readHead => [.authenticated]
  | .readBody => [.headValidated]
  | .write => [.headValidated, .bodyRead]
  | .close => [.authenticated, .headValidated, .bodyRead]

/-- A call, with what it meets: the token that `secrets` gives, the clock and the socket of a send. -/
structure Call where
  op : Op
  capability : Option TransportCapability
  token : String
  pendingFails : Bool
  reply : Reply
  sending : Sending

inductive Outcome where
  | head (head : ValidatedRequestHead) (next : TransportCapability)
  | body (body : Bytes) (next : TransportCapability)
  | done
  | raised (e : Raised)

def Outcome.succeeded : Outcome → Bool
  | .raised _ => false
  | _ => true

section
variable (parseFloat : String → PyFloat) (sha256 : String → String) (fits : ℚ → Bool)

def outcomeOf {α : Type} (ok : α → Outcome) : Except Raised α → Outcome
  | .ok a => ok a
  | .error e => .raised e

def step (c : Connection) (call : Call) : Outcome × Connection :=
  match call.op with
  | .readHead =>
    let r := readRequestHead sha256 fits call.token call.capability c
    (outcomeOf (fun p => .head p.1 p.2) r.1, r.2)
  | .readBody =>
    let r := readBody sha256 fits call.token call.pendingFails call.capability c
    (outcomeOf (fun p => .body p.1 p.2) r.1, r.2)
  | .write =>
    let r := writeResponse parseFloat sha256 fits call.reply call.sending call.capability c
    (outcomeOf (fun _ => .done) r.1, r.2)
  | .close =>
    let r := close sha256 call.capability c
    (outcomeOf (fun _ => .done) r.1, r.2)

end

end ThreatFusion.Transport
