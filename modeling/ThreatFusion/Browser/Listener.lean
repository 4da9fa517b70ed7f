import ThreatFusion.Browser.Form
import ThreatFusion.Analyst.Workflow
import ThreatFusion.Lib.Machine
import ThreatFusion.Lib.Program
/-
# The browser listener (`api/analyst_browser_tls_service.py`)

`processOne` is `process_one` (:492-997): it accepts one connection, authenticates it, reads the request,
appends `request_admitted`, and then answers it with the state lock held, if the listener still admits.

| here | there |
| --- | --- |
| `HumanCredentialRegistry`  | the class (`api/analyst_tls_service.py`:97-132) |
| `issueForTrustedActor`     | `issue_for_trusted_actor` of the registry (`schemas/analyst_state.py`:126-138) |
| `csrfMessage`, `verifyCsrfToken` | `generate_csrf_token`, `verify_csrf_token` (:142-169) |
| `dispatch`                 | `_dispatch` (:396-490) |
| `posting`, `getting`       | the two halves under the lock (:728-950, :953-986) |
| `leaving`                  | `except (OSError, socket.timeout, AnalystTlsError): pass` (:990) |

Every call of the program is one step at which the others may have acted first (`Outside`): the operator
stops, closes or reopens the listener, alerts are stored, and the other listener changes the analyst states.
The two readers of the view, the parsers and the renderer of the dashboard are parameters (`Dashboard`), with
any answers and any exceptions. `_process_lock` keeps two calls of `process_one` apart: a run is a sequence
of them.
-/
namespace ThreatFusion.Browser
open Py Analyst Concurrency Concurrency.Program

/-! ## Who is asking -/

structure HumanCredential where
  actorId : String
  certificateSha256 : String
  enabled : Bool
  revoked : Bool
  notBefore : DateTime
  notAfter : DateTime
  actor_valid : validActorId actorId = true
  sha_valid : isSha256 certificateSha256 = true
  ordered : notBefore.micros < notAfter.micros

structure HumanCredentialRegistry where
  records : List HumanCredential
  size : records ≠ [] ∧ records.length ≤ 64
  distinct : (records.map (·.certificateSha256)).Nodup

structure Peer where
  der : Bytes
  subjectAltName : Option (List (String × String))
deriving DecidableEq

def ANALYST_URI_PREFIX : String := "urn:threatfusion:human:"

/-- The tests on a record that has the fingerprint. -/
def HumanCredential.accepts (c : HumanCredential) (peer : Peer) (now : DateTime) : Bool :=
  c.enabled && !c.revoked && decide (c.notBefore.micros ≤ now.micros) && decide (now.micros < c.notAfter.micros) &&
    peer.subjectAltName == some [("URI", ANALYST_URI_PREFIX ++ c.actorId)]

/-- `_actor_for_verified_peer`. -/
def HumanCredentialRegistry.actorFor (r : HumanCredentialRegistry) (sha256 : Bytes → String) (peer : Peer)
    (now : DateTime) : Option String := do
  guard (peer.der ≠ [])
  let matched ← r.records.find? (·.certificateSha256 = sha256 peer.der)
  guard (matched.accepts peer now)
  some matched.actorId

def issueForTrustedActor (registry : Registry) (actorId : String) : Option AnalystCapability := do
  guard (validActorId actorId)
  let entry ← registry.entries.find? (·.actorId == actorId)
  guard entry.enabled
  some ⟨entry.actorId, entry.role, registry.registryId, registry.signature entry.actorId entry.role⟩

/-! ## CSRF tokens -/

structure CsrfClaim where
  actorId : String
  alertCandidateId : String
  expectedVersion : Nat
  transitionRequestId : String
deriving DecidableEq

def csrfMessage (c : CsrfClaim) : Bytes :=
  utf8 (c.actorId ++ ":" ++ c.alertCandidateId ++ ":" ++ toString c.expectedVersion ++ ":" ++ c.transitionRequestId)

/-- What can leave `process_one`, by class. -/
inductive BrowserExn where
  | os | tls | valueError | typeError | other
deriving DecidableEq

/-- `hmac.compare_digest` refuses a `str` that is not ASCII. -/
def verifyCsrfToken (hmac : Bytes → String) (token : String) (c : CsrfClaim) : Except BrowserExn Bool :=
  if token.length ≠ 64 then .ok false
  else if !token.toList.all (·.toNat < 128) then .error .typeError
  else .ok (token == hmac (csrfMessage c))

/-! ## Events, pages and answers -/

inductive AuditKind where
  | authenticationRejected | authorizationRejected | requestRejected
  | requestAdmitted | requestCompleted | internalFailure
deriving DecidableEq

structure AuditEvent where
  kind : AuditKind
  correlationId : String
  actorId : Option String
  credentialSha256 : String
  requestRoute : Option Route
  bodySha256 : Option String
deriving DecidableEq

/-- The status of a `DashboardSnapshot`. -/
inductive PageStatus where
  | active | empty | unavailable
deriving DecidableEq

/-- The hidden fields of the transition form. -/
structure CsrfForm where
  claim : CsrfClaim
  token : String
deriving DecidableEq

structure Response where
  code : Nat
  html : String
  form : Option CsrfForm := none
deriving DecidableEq

def errorPage (code : Nat) (message : String) : Response where
  code
  html := "<!DOCTYPE html><html><head><title>" ++ toString code ++ " Error</title></head><body><h1>" ++
    toString code ++ " Error</h1><p>" ++ message ++ "</p></body></html>"

/-- The view's answers, and the pure functions of `analyst_dashboard` that make a page of them. -/
structure Dashboard where
  Item : Type
  Detail : Type
  /-- `_parse_summary`, of which `_dispatch` reads `alert_candidate_id`. -/
  parseSummary : Item → Except BrowserExn String
  /-- `_augment_alert_detail`. -/
  augment : String → Detail → Detail
  /-- `_parse_detail`, of which `alert_candidate_id` and `version` are read. -/
  parseDetail : Detail → Except BrowserExn (String × Nat)
  /-- `render_dashboard_html`: it raises, or has a page for each form. -/
  render : List Item → Option Detail → PageStatus → AnalystRole → Except BrowserExn (Option CsrfForm → String)

structure BrowserListener extends Dashboard where
  sha256 : Bytes → String
  /-- `hmac.new(self._csrf_secret, message, sha256).hexdigest()`. -/
  hmac : Bytes → String
  printable : Char → Bool
  credentials : HumanCredentialRegistry
  authorization : Registry
  bindPort : Nat

/-! ## The world and its steps -/

/-- What others did before a step. -/
inductive Outside where
  | stopAdmission
  | close
  | reopen
  | workflow (input : WorkflowInput)

inductive BrowserEntry where
  | outside (o : Outside)
  | checked (passed : Bool)
  | authenticated (peer : Peer) (now : DateTime) (actorId : Option String)
  | authorized (actorId : String) (capability : Option AnalystCapability)
  | read (request : BrowserRequest)
  | port (n : Nat)
  | audited (event : AuditEvent)
  | verified (token : String) (claim : CsrfClaim)
  /-- A call of `view.transition`: whether admission is stopped by then, and whether it stored the transition. -/
  | transition (correlationId : String) (stopped : Bool) (capability : AnalystCapability) (args : TransitionArgs)
    (created : Bool)
  | answered (response : Response)

structure BrowserWorld where
  /-- `self._listener`, by the number of its `open`. -/
  listener : Option Nat := none
  opened : Nat := 0
  stopped : Bool := false
  analyst : AnalystWorld := {}
  history : List BrowserEntry := []

def BrowserWorld.note (w : BrowserWorld) (e : BrowserEntry) : BrowserWorld := { w with history := w.history ++ [e] }

/-- The events of the audit database. -/
def auditOf (history : List BrowserEntry) : List AuditEvent :=
  history.filterMap fun
    | .audited e => some e
    | _ => none

def actOutside (printable : Char → Bool) (w : BrowserWorld) (o : Outside) : BrowserWorld :=
  let w := w.note (.outside o)
  match o with
  | .stopAdmission => { w with stopped := true }
  | .close => { w with stopped := true, listener := none }
  | .reopen =>
    if w.listener.isSome then w
    else { w with listener := some w.opened, opened := w.opened + 1, stopped := false }
  | .workflow input => { w with analyst := (workflowStep printable w.analyst input).2 }

inductive Accepted where
  | failed | foreign | loopback

inductive Handshake where
  | failed | otherVersion
  | peer (p : Peer)

/-- What the step meets: one answer for each kind of call. -/
structure BrowserEnv (L : BrowserListener) where
  outside : List Outside := []
  accepted : Accepted := .loopback
  wrapped : Bool := true
  handshake : Handshake := .failed
  uuid : String := ""
  now : DateTime
  /-- The port the listening socket is bound to. -/
  port : Nat := 0
  turns : List Recv := []
  auditFault : Bool := false
  items : Option (List L.Item) := some []
  detail : Option (Option L.Detail) := some none
  analyst : CallEnv
  sendFault : Bool := false

inductive BrowserCall where
  | accept
  /-- `self._listener is listener` and admission is not stopped; `admitted` is the one after the event (:675). -/
  | check (admitted : Bool) (listener : Nat)
  | wrap
  | handshake
  | uuid
  | authenticate (peer : Peer)
  | authorize (actorId : String)
  | read
  | port
  | append (event : AuditEvent)
  | verify (token : String) (claim : CsrfClaim)
  | listAlerts (capability : AnalystCapability)
  | getAlert (capability : AnalystCapability) (alertCandidateId : String)
  /-- The two readers after a transition (:910-911), for the request with this correlation id; the view is not told. -/
  | refresh (correlationId : String) (capability : AnalystCapability) (alertCandidateId : String)
  | transition (correlationId : String) (capability : AnalystCapability) (args : TransitionArgs)
  /-- `guarded` is inside the `try` of a GET. -/
  | send (guarded : Bool) (response : Response)

inductive Accept where
  | unavailable | failed | foreign
  | loopback (listener : Nat)

section
variable (L : BrowserListener)

def BrowserCall.Reply : BrowserCall → Type
  | .accept => Accept
  | .handshake => Handshake
  | .uuid => String
  | .authenticate _ => Option String
  | .authorize _ => Option AnalystCapability
  | .read => Except ReadError BrowserRequest
  | .port => Nat
  | .verify _ _ => Except BrowserExn Bool
  | .listAlerts _ => Option (List L.Item)
  | .getAlert _ _ => Option (Option L.Detail)
  | .refresh _ _ _ => Option (List L.Item × Option L.Detail)
  | .transition _ _ _ => Except String Unit
  | .check _ _ | .wrap | .append _ | .send _ _ => Bool

/-- `_PUBLIC_ERRORS` of `api/analyst_view_model.py` (:17-32). -/
def PUBLIC_ERRORS : List String :=
  ["analyst_not_authorized", "alert_candidate_id_invalid", "alert_candidate_not_found", "list_limit_invalid",
    "list_offset_invalid", "analyst_state_version_invalid", "analyst_target_state_invalid",
    "analyst_transition_id_invalid", "analyst_rationale_invalid", "analyst_state_version_conflict",
    "analyst_transition_identity_conflict", "analyst_transition_invalid"]

/-- The code of the `AnalystViewError`. -/
def viewCode (e : AnalystStateError) : String :=
  if e.code ∈ PUBLIC_ERRORS then e.code else "analyst_view_unavailable"

/-- `self.address[1]`, or the configured port when the listener is closed. -/
def actualPort (port : Nat) (w : BrowserWorld) : Nat := if w.listener.isSome then port else L.bindPort

/-- `view.transition` on the stored states. -/
def viewTransition (env : CallEnv) (correlationId : String) (capability : AnalystCapability) (args : TransitionArgs)
    (w : BrowserWorld) : Except String Unit × BrowserWorld :=
  let (reply, analyst) := Analyst.transition L.printable ⟨L.authorization, some capability, args⟩ env w.analyst
  let created := decide (analyst.db.events ≠ w.analyst.db.events)
  (match reply with
    | .ok _ => .ok ()
    | .error e => .error (viewCode e),
    { w with analyst }.note (.transition correlationId w.stopped capability args created))

/-- The call itself, after what others did. -/
def browserReply (env : BrowserEnv L) (w : BrowserWorld) : (c : BrowserCall) → c.Reply L × BrowserWorld
  | .accept => match w.listener with
    | none => (Accept.unavailable, w)
    | some listener => match env.accepted with
      | .failed => (Accept.failed, w)
      | .foreign => (Accept.foreign, w)
      | .loopback => (Accept.loopback listener, w)
  | .check _ listener =>
    let passed := w.listener == some listener && !w.stopped
    (passed, w.note (.checked passed))
  | .wrap => (env.wrapped, w)
  | .handshake => (env.handshake, w)
  | .uuid => (env.uuid, w)
  | .authenticate peer =>
    let actorId := L.credentials.actorFor L.sha256 peer env.now
    (actorId, w.note (.authenticated peer env.now actorId))
  | .authorize actorId =>
    let capability := issueForTrustedActor L.authorization actorId
    (capability, w.note (.authorized actorId capability))
  | .read => match readBrowserRequest (actualPort L env.port w) env.turns with
    | .ok request => (.ok request, w.note (.read request))
    | .error e => (.error e, w)
  | .port => (actualPort L env.port w, w.note (.port (actualPort L env.port w)))
  | .append event => if env.auditFault then (false, w) else (true, w.note (.audited event))
  | .verify token claim => (verifyCsrfToken L.hmac token claim, w.note (.verified token claim))
  | .listAlerts _ => (env.items, w)
  | .getAlert _ _ => (env.detail, w)
  | .refresh _ _ _ => (env.items.bind fun items => env.detail.map fun detail => (items, detail), w)
  | .transition correlationId capability args => viewTransition L env.analyst correlationId capability args w
  | .send _ response => (!env.sendFault, w.note (.answered response))

/-- The world that the call of this environment finds. -/
def found (env : BrowserEnv L) (w : BrowserWorld) : BrowserWorld := env.outside.foldl (actOutside L.printable) w

def browserHandle : Handler (BrowserCall.Reply L) BrowserExn BrowserWorld (BrowserEnv L) := fun env c w =>
  (.ok (browserReply L env (found L env w) c).1, (browserReply L env (found L env w) c).2)

/-! ## Pages -/

abbrev BrowserProgram := Program (BrowserCall.Reply L) BrowserExn Unit

def htmlResponse (html : String) (form : Option CsrfForm) : Except BrowserExn Response :=
  if MAX_BROWSER_RESPONSE_BYTES < (utf8 html).length then .error .tls else .ok ⟨200, html, form⟩

/-- `generate_csrf_token`, with what goes into the form. -/
def csrfForm (actorId : String) (selected : String × Nat) (transitionRequestId : String) : CsrfForm :=
  let claim := ⟨actorId, selected.1, selected.2, transitionRequestId⟩
  ⟨claim, L.hmac (csrfMessage claim)⟩

def parseAll : List L.Item → Except BrowserExn (List String)
  | [] => .ok []
  | item :: items => do
    let id ← L.parseSummary item
    let ids ← parseAll items
    .ok (id :: ids)

def parseSelected : Option L.Detail → Except BrowserExn (Option (String × Nat))
  | none => .ok none
  | some d => (L.parseDetail d).map some

def page (items : List L.Item) (detail : Option L.Detail) (status : PageStatus) (role : AnalystRole)
    (form : Option CsrfForm) : Except BrowserExn Response := do
  let fill ← L.render items detail status role
  htmlResponse (fill form) form

/-! ## The program -/

/-- The exception reaches the end of `process_one`. -/
def leaving (e : BrowserExn) : BrowserProgram L := if e = .os ∨ e = .tls then .ret () else .throw e

def answering (r : Response) : BrowserProgram L :=
  .call (.send false r) fun sent : Bool => if sent then .ret () else leaving L .os

/-- `try: audit_log(..) except AnalystTlsError: pass`, then the answer. -/
def rejecting (event : AuditEvent) (r : Response) : BrowserProgram L :=
  .call (.append event) fun _ => answering L r

/-- What is known once the request was read. -/
structure Exchange where
  listener : Nat
  peer : Peer
  correlationId : String
  request : BrowserRequest

def Exchange.event (x : Exchange) (kind : AuditKind) (actorId : String) : AuditEvent where
  kind
  correlationId := x.correlationId
  actorId := some actorId
  credentialSha256 := L.sha256 x.peer.der
  requestRoute := routeOf x.request.target
  bodySha256 := if x.request.body.isEmpty then none else some (L.sha256 x.request.body)

def unavailablePage : Response := errorPage 503 "Unavailable"

/-! ### A GET -/

def showing (capability : AnalystCapability) (items : List L.Item) (detail : L.Detail)
    (k : Except BrowserExn Response → BrowserProgram L) : BrowserProgram L :=
  match L.parseDetail detail with
  | .error e => k (.error e)
  | .ok selected =>
    if capability.role = .analyst then .call .uuid fun id : String =>
      k (page L items (some detail) .active capability.role (some (csrfForm L capability.actorId selected id)))
    else k (page L items (some detail) .active capability.role none)

/-- The overview, with its first alert selected. -/
def overview (capability : AnalystCapability) (k : Except BrowserExn Response → BrowserProgram L) :
    BrowserProgram L :=
  .call (.listAlerts capability) fun items : Option (List L.Item) => match items with
    | none => k (.ok unavailablePage)
    | some items => match parseAll L items with
      | .error e => k (.error e)
      | .ok [] => k (page L items none .empty capability.role none)
      | .ok (first :: _) => .call (.getAlert capability first) fun detail : Option (Option L.Detail) =>
        match detail with
        | none => k (page L items none .unavailable capability.role none)
        | some none => k (page L items none .active capability.role none)
        | some (some detail) => showing L capability items (L.augment first detail) k

def alertPage (capability : AnalystCapability) (id : String) (k : Except BrowserExn Response → BrowserProgram L) :
    BrowserProgram L :=
  .call (.listAlerts capability) fun items : Option (List L.Item) => match items with
    | none => k (.ok unavailablePage)
    | some items => .call (.getAlert capability id) fun detail : Option (Option L.Detail) => match detail with
      | none => k (.ok unavailablePage)
      | some detail => match parseAll L items, detail with
        | .error e, _ => k (.error e)
        | .ok _, none => k (.ok (errorPage 404 "Not Found"))
        | .ok _, some detail => showing L capability items (L.augment id detail) k

def dispatch (capability : AnalystCapability) (target : String) (k : Except BrowserExn Response → BrowserProgram L) :
    BrowserProgram L :=
  if pathOnly target ∈ ["/", "/analyst/alerts", "/v1/analyst/alerts"] then overview L capability k
  else match alertPath? target with
    | some id => alertPage L capability id k
    | none => k (.ok (errorPage 404 "Not Found"))

/-- `except Exception`. -/
def failing (x : Exchange) (actorId : String) : BrowserProgram L :=
  rejecting L (x.event L .internalFailure actorId) unavailablePage

def delivering (x : Exchange) (actorId : String) (r : Response) : BrowserProgram L :=
  .call (.send true r) fun sent : Bool => if sent then .ret () else failing L x actorId

def dispatched (x : Exchange) (actorId : String) : Except BrowserExn Response → BrowserProgram L
  | .error _ => failing L x actorId
  | .ok r =>
    if r.code = 503 then .call (.append (x.event L .internalFailure actorId)) fun logged : Bool =>
      if logged then delivering L x actorId r else failing L x actorId
    else .call (.append (x.event L .requestCompleted actorId)) fun logged : Bool =>
      delivering L x actorId (if logged then r else unavailablePage)

def getting (x : Exchange) (actorId : String) (capability : AnalystCapability) : BrowserProgram L :=
  dispatch L capability x.request.target (dispatched L x actorId)

/-! ### A POST -/

/-- The transition failed with this code. -/
def refused (x : Exchange) (actorId : String) (code : String) : BrowserProgram L :=
  if code = "analyst_not_authorized" then
    rejecting L (x.event L .authorizationRejected actorId) (errorPage 403 "Forbidden")
  else if code ∈ ["analyst_state_version_conflict", "analyst_transition_identity_conflict"] then
    rejecting L (x.event L .requestCompleted actorId) (errorPage 409 "Version Conflict")
  else if code = "alert_candidate_not_found" then answering L (errorPage 404 "Not Found")
  else if code = "analyst_view_unavailable" then
    rejecting L (x.event L .internalFailure actorId) unavailablePage
  else rejecting L (x.event L .requestRejected actorId) (errorPage 400 "Bad Request")

/-- The page after a transition; only its last exception is raised after the event. -/
def updated (x : Exchange) (actorId : String) (capability : AnalystCapability) (items : List L.Item)
    (detail : Option L.Detail) : BrowserProgram L :=
  match parseAll L items, parseSelected L detail with
  | .error e, _ | .ok _, .error e => leaving L e
  | .ok _, .ok selected => .call .uuid fun id : String =>
    match L.render items detail .active capability.role with
    | .error e => leaving L e
    | .ok fill => .call (.append (x.event L .requestCompleted actorId)) fun logged : Bool =>
      let form := selected.map fun selected => csrfForm L actorId selected id
      if logged then match htmlResponse (fill form) form with
        | .error e => leaving L e
        | .ok r => answering L r
      else answering L unavailablePage

def TransitionForm.args (f : TransitionForm) (alertCandidateId : String) (expectedVersion : Nat) : TransitionArgs :=
  ⟨.str alertCandidateId, .int expectedVersion, .str f.targetState.text, .str f.transitionRequestId.1,
    .str f.rationale⟩

def TransitionForm.claim (f : TransitionForm) (actorId alertCandidateId : String) (expectedVersion : Nat) :
    CsrfClaim :=
  ⟨actorId, alertCandidateId, expectedVersion, f.transitionRequestId.1⟩

def transitioning (x : Exchange) (actorId : String) (capability : AnalystCapability) (alertCandidateId : String)
    (args : TransitionArgs) : BrowserProgram L :=
  .call (.transition x.correlationId capability args) fun result : Except String Unit =>
    match result with
    | .error code => refused L x actorId code
    | .ok () => .call (.refresh x.correlationId capability alertCandidateId)
        fun answers : Option (List L.Item × Option L.Detail) => match answers with
      | none => rejecting L (x.event L .internalFailure actorId) unavailablePage
      | some (items, detail) =>
        updated L x actorId capability items (detail.map (L.augment alertCandidateId))

def posting (x : Exchange) (actorId : String) (capability : AnalystCapability) (alertCandidateId : String) :
    BrowserProgram L :=
  if capability.role ≠ .analyst then
    rejecting L (x.event L .authorizationRejected actorId) (errorPage 403 "Forbidden")
  else match readForm x.request.body with
    | none => rejecting L (x.event L .requestRejected actorId) (errorPage 400 "Bad Request")
    | some form => match intOfDigits form.expectedVersion.1 with
      | .error _ => leaving L .valueError
      | .ok expectedVersion => .call (.verify form.csrfToken (form.claim actorId alertCandidateId expectedVersion))
          fun verified : Except BrowserExn Bool => match verified with
        | .error e => leaving L e
        | .ok false => rejecting L (x.event L .authorizationRejected actorId) (errorPage 403 "Forbidden")
        | .ok true =>
          transitioning L x actorId capability alertCandidateId (form.args alertCandidateId expectedVersion)

/-! ### One connection -/

def sameOrigin (port : Nat) (r : BrowserRequest) : Bool :=
  let fetchSite := r.header "sec-fetch-site"
  let origin := r.header "origin"
  let allowed := origin.any (expectedOrigins port).contains
  (fetchSite == some "same-origin" || allowed) && (fetchSite.isNone || fetchSite == some "same-origin") &&
    (origin.isNone || allowed)

/-- The `with self._state_lock` after the event; `target` is the alert of a POST. -/
def locked (x : Exchange) (actorId : String) (target : Option String) : BrowserProgram L :=
  .call (.check true x.listener) fun passed : Bool =>
    if !passed then .ret ()
    else .call (.authenticate x.peer) fun again : Option String => match again with
      | none => rejecting L (x.event L .authenticationRejected actorId) (errorPage 401 "Authentication failed")
      | some actorId => .call (.authorize actorId) fun capability : Option AnalystCapability => match capability with
        | none => rejecting L (x.event L .authorizationRejected actorId) (errorPage 401 "Authentication failed")
        | some capability => match target with
          | some alertCandidateId => posting L x actorId capability alertCandidateId
          | none => getting L x actorId capability

def admitting (x : Exchange) (actorId : String) (target : Option String) : BrowserProgram L :=
  .call (.append (x.event L .requestAdmitted actorId)) fun logged : Bool =>
    if logged then locked L x actorId target else answering L unavailablePage

/-- The request was read. -/
def received (x : Exchange) (actorId : String) : BrowserProgram L :=
  match x.request.method with
  | .get => admitting L x actorId none
  | .post => match transitionPath? (pathOnly x.request.target) with
    | none => rejecting L (x.event L .requestRejected actorId) (errorPage 404 "Not Found")
    | some alertCandidateId => .call .port fun port : Nat =>
      if sameOrigin port x.request then admitting L x actorId (some alertCandidateId)
      else rejecting L (x.event L .authorizationRejected actorId) (errorPage 403 "Forbidden")

/-- The peer is known. -/
def identified (listener : Nat) (peer : Peer) (correlationId : String) : BrowserProgram L :=
  let event (kind : AuditKind) (actorId : Option String) : AuditEvent :=
    ⟨kind, correlationId, actorId, L.sha256 peer.der, none, none⟩
  .call (.authenticate peer) fun actorId : Option String => match actorId with
    | none => rejecting L (event .authenticationRejected none) (errorPage 401 "Authentication failed")
    | some actorId => .call (.authorize actorId) fun capability : Option AnalystCapability => match capability with
      | none =>
        rejecting L (event .authorizationRejected (some actorId)) (errorPage 401 "Authentication failed")
      | some _ => .call .read fun request : Except ReadError BrowserRequest => match request with
        | .error .connectionIdle => .ret ()
        | .error .requestInvalid =>
          rejecting L (event .requestRejected (some actorId)) (errorPage 400 "Bad Request")
        | .error .valueError => leaving L .valueError
        | .ok request => received L ⟨listener, peer, correlationId, request⟩ actorId

def shaking (listener : Nat) : BrowserProgram L :=
  .call .wrap fun wrapped : Bool =>
    if !wrapped then leaving L .os
    else .call (.check false listener) fun passed : Bool =>
      if !passed then .ret ()
      else .call .handshake fun handshake : Handshake => match handshake with
        | .failed => leaving L .os
        | .otherVersion => .ret ()
        | .peer peer => .call .uuid fun correlationId : String => identified L listener peer correlationId

def processOne : BrowserProgram L :=
  .call .accept fun accepted : Accept => match accepted with
    | .unavailable => leaving L .tls
    | .failed => leaving L .os
    | .foreign => .ret ()
    | .loopback listener => .call (.check false listener) fun passed : Bool =>
      if passed then shaking L listener else .ret ()

/-- A run: one `process_one` after the other, each with what its calls meet. -/
def browserStep (w : BrowserWorld) (envs : Nat → BrowserEnv L) : Except BrowserExn Unit × BrowserWorld :=
  run (browserHandle L) envs (processOne L) w

def browserAt (w : BrowserWorld) (calls : List (Nat → BrowserEnv L)) (k : Nat) : BrowserWorld :=
  Machine.stateAt (browserStep L) w calls k

end

/-- The version of a form that passed is short enough for `int()`. -/
theorem intOfDigits_version {r : BrowserRequest} {form : TransitionForm} (h : readForm r.body = some form) :
    intOfDigits form.expectedVersion.1 = .ok (digitsValue form.expectedVersion.1) := by
  have hlength : form.expectedVersion.1.length ≤ 2048 := (readForm_version h).trans r.body_size
  rw [intOfDigits, if_neg (by simp only [INT_MAX_STR_DIGITS]; omega)]

/-! ## A call of the view -/

section
variable {L : BrowserListener} {w : BrowserWorld}

/-- What a call of `view.transition` does. -/
inductive Views (env : CallEnv) (correlationId : String) (capability : AnalystCapability) (args : TransitionArgs)
    (w : BrowserWorld) : Prop where
  | refused (e : AnalystStateError)
    (raised : (Analyst.transition L.printable ⟨L.authorization, some capability, args⟩ env w.analyst).1 = .error e)
    (h : viewTransition L env correlationId capability args w =
      (.error (viewCode e), w.note (.transition correlationId w.stopped capability args false)))
  | repeated (row : EventRow) (recorded : row ∈ w.analyst.db.events) (used : args = row.args)
    (h : viewTransition L env correlationId capability args w =
      (.ok (), w.note (.transition correlationId w.stopped capability args false)))
  | created (row : EventRow) (db : AnalystDb) (written : db.events = w.analyst.db.events ++ [row])
    (used : args = row.args) (ok : WorldOk L.printable { w.analyst with db })
    (h : viewTransition L env correlationId capability args w =
      (.ok (), { w with analyst := { w.analyst with db } }.note (.transition correlationId w.stopped capability args true)))

theorem viewTransition_cases (hw : WorldOk L.printable w.analyst) (env : CallEnv) (correlationId : String)
    (capability : AnalystCapability) (args : TransitionArgs) : Views (L := L) env correlationId capability args w := by
  have hok := (workflowStep_ok (.transition ⟨L.authorization, some capability, args⟩ env) hw).1
  rw [workflowStep] at hok
  cases transition_cases hw.db ⟨L.authorization, some capability, args⟩ env with
  | refused e h => exact .refused e (by rw [h]) (by simp [viewTransition, h])
  | replayed event state hrecorded hused h =>
    exact .repeated event.row hrecorded hused.1 (by simp [viewTransition, h])
  | created event db es hnext hwritten hused _ h =>
    rw [h] at hok
    refine .created event.row db hwritten.events hused.1 hok ?_
    simp [viewTransition, h, hwritten.events]

end
end ThreatFusion.Browser
