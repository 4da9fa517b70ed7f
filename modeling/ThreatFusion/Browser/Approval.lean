import ThreatFusion.Browser.AuditTrail
import ThreatFusion.Lib.Decimal
import ThreatFusion.Lib.Delimited
/-
# Who moves an alert through the browser listener

`view.transition` is called at the end of a chain of checks, and twenty exits of `process_one` answer the
browser. A call of `process_one` adds a segment to the history; `Approval` is the chain of checks that a
segment must show before a transition, and `Truthful` says this of a segment together with what its answers
promise.

* `csrfMessage_inj`: the message of a token determines the actor, the alert, the version and the identifier.
* `Unforged`: the tags of `hmac` come from the forms that were sent, and `uuid4` makes UUIDs.
* `Stage`: where a call stands; `Ends`: from that stage, the rest of the call is truthful.
* `transitions_approved`: every run.
* `transitions_filed`: what was stored is in the table once, whatever the peers sent.

`stop_admission` takes no lock, so a transition may start after it: the check after the event is the last one.
-/
namespace ThreatFusion.Browser
open Py Analyst Concurrency Concurrency.Program

/-! ## Tokens -/

theorem not_colon_of_isUuid4 {s : String} (h : isUuid4 s = true) : ':' ∉ s.toList := by
  intro hmem
  obtain ⟨i, hi⟩ := List.mem_iff_getElem?.1 hmem
  simp only [isUuid4, Bool.and_eq_true, beq_iff_eq, List.all_eq_true] at h
  have hat := h.2 (':', i) (List.mk_mem_zipIdx_iff_getElem?.2 hi)
  have hhex : isHexLower ':' = false := by decide
  simp [uuid4At, hhex] at hat

theorem not_colon_of_validActorId {s : String} (h : validActorId s = true) : ':' ∉ s.toList := by
  intro hmem
  simp only [validActorId, Bool.and_eq_true, decide_eq_true_eq, List.all_eq_true] at h
  exact absurd (h.1.2 ':' hmem) (by decide)

theorem not_colon_of_nat (n : Nat) : ':' ∉ (toString n).toList := by
  intro hmem
  rw [Nat.toString_eq_ofList_toDigits, String.toList_ofList] at hmem
  exact absurd (Nat.isDigit_of_mem_toDigits (by decide) (by decide) hmem) (by decide)

theorem toString_inj {m n : Nat} (h : (toString m).toList = (toString n).toList) : m = n := by
  simp only [Nat.toString_eq_ofList_toDigits, String.toList_ofList] at h
  rw [← Decimal.value_toDigits m, h, Decimal.value_toDigits]

/-- What a listener puts into a claim, and what a form that passed has there. -/
structure CsrfClaim.Proper (c : CsrfClaim) : Prop where
  actorId : validActorId c.actorId = true
  transitionRequestId : isUuid4 c.transitionRequestId = true

/-- The alert may be any text: it stands between the first colon and the last two. -/
theorem csrfMessage_inj {c d : CsrfClaim} (hc : c.Proper) (hd : d.Proper) (h : csrfMessage c = csrfMessage d) :
    c = d := by
  have htexts := congrArg String.toList (utf8_inj.1 h)
  have hcolon : ":".toList = [':'] := rfl
  simp only [String.toList_append, hcolon, List.append_assoc, List.cons_append, List.nil_append] at htexts
  obtain ⟨hactor, hrest⟩ := (Delimited.append_cons_inj (not_colon_of_validActorId hc.actorId)
    (not_colon_of_validActorId hd.actorId)).1 htexts
  have hassoc : ∀ x y z : List Char, x ++ ':' :: (y ++ ':' :: z) = (x ++ ':' :: y) ++ ':' :: z := fun x y z => by simp
  rw [hassoc, hassoc] at hrest
  obtain ⟨hfront, hid⟩ := (Delimited.append_cons_inj_last (not_colon_of_isUuid4 hc.transitionRequestId)
    (not_colon_of_isUuid4 hd.transitionRequestId)).1 hrest
  obtain ⟨halert, hversion⟩ := (Delimited.append_cons_inj_last (not_colon_of_nat _) (not_colon_of_nat _)).1 hfront
  obtain ⟨cActor, cAlert, cVersion, cId⟩ := c
  obtain ⟨dActor, dAlert, dVersion, dId⟩ := d
  obtain rfl := String.toList_inj.1 hactor
  obtain rfl := String.toList_inj.1 halert
  obtain rfl := toString_inj hversion
  obtain rfl := String.toList_inj.1 hid
  rfl

theorem verifyCsrfToken_true {hmac : Bytes → String} {token : String} {claim : CsrfClaim}
    (h : verifyCsrfToken hmac token claim = .ok true) : token = hmac (csrfMessage claim) := by
  unfold verifyCsrfToken at h
  split at h
  · cases h
  split at h
  · cases h
  · simpa using h

/-! ## The checks before a transition -/

/-- What an exchange with a browser brings that ends in a transition. -/
structure Approval where
  request : BrowserRequest
  port : Nat
  peer : Peer
  now : DateTime
  alertCandidateId : String
  form : TransitionForm

/-- One of the two headers names this origin, and neither names another. -/
structure SameOrigin (port : Nat) (r : BrowserRequest) : Prop where
  present : r.header "sec-fetch-site" ≠ none ∨ r.header "origin" ≠ none
  site : ∀ s, r.header "sec-fetch-site" = some s → s = "same-origin"
  origin : ∀ o, r.header "origin" = some o →
    o = "https://localhost:" ++ toString port ∨ o = "https://127.0.0.1:" ++ toString port

section
variable (L : BrowserListener)

def Approval.version (a : Approval) : Nat := digitsValue a.form.expectedVersion.1

def Approval.claim (a : Approval) (actorId : String) : CsrfClaim := a.form.claim actorId a.alertCandidateId a.version

/-- The steps, in their order. -/
def Approval.trace (a : Approval) (correlationId : String) (capability : AnalystCapability) : List BrowserEntry :=
  [.read a.request, .port a.port,
    .audited
      { kind := .requestAdmitted, correlationId, actorId := some capability.actorId
        credentialSha256 := L.sha256 a.peer.der, requestRoute := routeOf a.request.target
        bodySha256 := if a.request.body.isEmpty then none else some (L.sha256 a.request.body) },
    .checked true, .authenticated a.peer a.now (some capability.actorId),
    .authorized capability.actorId (some capability), .verified a.form.csrfToken (a.claim capability.actorId)]

/-- `previous` is the history before this call of `process_one`, and `before` what the call did so far. -/
structure Approval.Holds (a : Approval) (previous before : List BrowserEntry) (correlationId : String)
    (capability : AnalystCapability) (args : TransitionArgs) : Prop where
  trace : (a.trace L correlationId capability).Sublist before
  post : a.request.method = .post
  path : transitionPath? (pathOnly a.request.target) = some a.alertCandidateId
  origin : SameOrigin a.port a.request
  form : readForm a.request.body = some a.form
  args : args = a.form.args a.alertCandidateId a.version
  credential : ∃ c ∈ L.credentials.records, c.certificateSha256 = L.sha256 a.peer.der ∧ c.actorId = capability.actorId ∧
    c.accepts a.peer a.now = true
  role : capability.role = .analyst
  authorized : issueForTrustedActor L.authorization capability.actorId = some capability
  /-- The token came in a page that was sent to this actor for this transition. -/
  issued : ∃ r form, .answered r ∈ previous ∧ r.form = some form ∧ form.claim = a.claim capability.actorId ∧
    form.token = a.form.csrfToken

/-- What one call of `process_one` adds to the history, when the stored events are these at its end. -/
structure Truthful (previous seg : List BrowserEntry) (events : List EventRow) : Prop where
  approved : ∀ correlationId stopped capability args created,
    .transition correlationId stopped capability args created ∈ seg → ∃ before after,
      seg = before ++ .transition correlationId stopped capability args created :: after ∧
        ∃ a : Approval, a.Holds L previous before correlationId capability args
  once : seg.countP (· matches .transition _ _ _ _ _) ≤ 1
  stored : ∀ r request, .answered r ∈ seg → r.code = 200 → .read request ∈ seg → request.method = .post →
    ∃ correlationId stopped capability args created, .transition correlationId stopped capability args created ∈ seg ∧
      ∃ row ∈ events, row.args = args ∧ row.actorId = capability.actorId
  nothing : ∀ r, .answered r ∈ seg → r.code ∈ [400, 401, 403, 404, 409] → ∀ correlationId stopped capability args,
    .transition correlationId stopped capability args true ∉ seg

/-- The condition on one call: the tags of `hmac` cannot be made without its secret, and `uuid4` makes UUIDs. -/
def Unforged (c : BrowserCall) (env : BrowserEnv L) (w : BrowserWorld) : Prop :=
  match c with
  | .uuid => isUuid4 env.uuid = true
  | .verify token claim => verifyCsrfToken L.hmac token claim = .ok true →
    ∃ r form, .answered r ∈ (found L env w).history ∧ r.form = some form ∧ csrfMessage form.claim = csrfMessage claim
  | _ => True

end

/-! ## Where a call stands -/

/-- The entries that `Truthful` asks about. -/
def BrowserEntry.telling : BrowserEntry → Bool
  | .read _ | .transition _ _ _ _ _ | .answered _ => true
  | _ => false

def outline (seg : List BrowserEntry) : List BrowserEntry := seg.filter BrowserEntry.telling

/-- A form that the listener sends. -/
def Response.Genuine (L : BrowserListener) (r : Response) : Prop :=
  ∀ form, r.form = some form → form.claim.Proper ∧ form.token = L.hmac (csrfMessage form.claim)

section
variable (L : BrowserListener) (previous : List BrowserEntry)

/-- The call did the steps `facts`, in this order, and its outline is `told`. -/
structure Course (facts told : List BrowserEntry) (seg : List BrowserEntry) : Prop where
  facts : facts.Sublist seg
  told : outline seg = told
  approved : ∀ correlationId stopped capability args created,
    .transition correlationId stopped capability args created ∈ seg → ∃ before after,
      seg = before ++ .transition correlationId stopped capability args created :: after ∧
        ∃ a : Approval, a.Holds L previous before correlationId capability args

structure Stage (facts told : List BrowserEntry) (w : BrowserWorld) : Prop where
  analyst : WorldOk L.printable w.analyst
  course : ∃ seg, w.history = previous ++ seg ∧ Course L previous facts told seg

/-- What the outline of a call may be when the call is over. -/
structure Fair (told : List BrowserEntry) (events : List EventRow) : Prop where
  once : told.countP (· matches .transition _ _ _ _ _) ≤ 1
  stored : ∀ r request, .answered r ∈ told → r.code = 200 → .read request ∈ told → request.method = .post →
    ∃ correlationId stopped capability args created,
      .transition correlationId stopped capability args created ∈ told ∧
        ∃ row ∈ events, row.args = args ∧ row.actorId = capability.actorId
  nothing : ∀ r, .answered r ∈ told → r.code ∈ [400, 401, 403, 404, 409] → ∀ correlationId stopped capability args,
    .transition correlationId stopped capability args true ∉ told
  genuine : ∀ r, .answered r ∈ told → r.Genuine L

/-- From this stage, the program ends fairly. -/
def Ends (p : BrowserProgram L) (facts told : List BrowserEntry) (rows : List EventRow) : Prop :=
  ∀ w, Stage L previous facts told w → rows ⊆ w.analyst.db.events →
    Ensures (browserHandle L) (Unforged L) p w fun _ w' =>
      ∃ told', Stage L previous [] told' w' ∧ Fair L told' w'.analyst.db.events

end

section
variable {L : BrowserListener} {previous facts told : List BrowserEntry} {rows : List EventRow} {w : BrowserWorld}

theorem outline_append (xs ys : List BrowserEntry) : outline (xs ++ ys) = outline xs ++ outline ys :=
  List.filter_append ..

theorem mem_outline {e : BrowserEntry} {seg : List BrowserEntry} : e ∈ outline seg ↔ e ∈ seg ∧ e.telling = true :=
  List.mem_filter

theorem Course.note {seg : List BrowserEntry} (h : Course L previous facts told seg) (e : BrowserEntry)
    (hquiet : ∀ correlationId stopped capability args created,
      e ≠ .transition correlationId stopped capability args created) :
    Course L previous (facts ++ [e]) (told ++ outline [e]) (seg ++ [e]) where
  facts := h.facts.append (List.Sublist.refl _)
  told := by rw [outline_append, h.told]
  approved correlationId stopped capability args created hmem := by
    rcases List.mem_append.1 hmem with hmem | hmem
    · obtain ⟨before, after, hseg, happroved⟩ := h.approved _ _ _ _ _ hmem
      exact ⟨before, after ++ [e], by rw [hseg]; simp, happroved⟩
    · exact absurd (List.mem_singleton.1 hmem).symm (hquiet _ _ _ _ _)

/-- The transition itself, when the steps before it approve of it. -/
theorem Course.transition {seg : List BrowserEntry} (h : Course L previous facts told seg) {correlationId : String}
    {capability : AnalystCapability} {args : TransitionArgs} (stopped created : Bool) (a : Approval)
    (happroves : a.Holds L previous seg correlationId capability args) :
    Course L previous [] (told ++ [.transition correlationId stopped capability args created])
      (seg ++ [.transition correlationId stopped capability args created]) where
  facts := List.nil_sublist _
  told := by rw [outline_append, h.told]; rfl
  approved correlationId' stopped' capability' args' created' hmem := by
    rcases List.mem_append.1 hmem with hmem | hmem
    · obtain ⟨before, after, hseg, happroved⟩ := h.approved _ _ _ _ _ hmem
      refine ⟨before, after ++ [.transition correlationId stopped capability args created], ?_, happroved⟩
      rw [hseg, List.append_assoc, List.cons_append]
    · cases List.mem_singleton.1 hmem
      exact ⟨seg, [], rfl, a, happroves⟩

theorem Course.less {seg facts' : List BrowserEntry} (h : Course L previous facts told seg)
    (hfacts : facts'.Sublist facts) : Course L previous facts' told seg :=
  ⟨hfacts.trans h.facts, h.told, h.approved⟩

theorem Stage.less {facts' : List BrowserEntry} (h : Stage L previous facts told w) (hfacts : facts'.Sublist facts) :
    Stage L previous facts' told w := by
  obtain ⟨seg, hhistory, hcourse⟩ := h.course
  exact ⟨h.analyst, seg, hhistory, hcourse.less hfacts⟩

theorem Stage.note (h : Stage L previous facts told w) (e : BrowserEntry)
    (hquiet : ∀ correlationId stopped capability args created,
      e ≠ .transition correlationId stopped capability args created) :
    Stage L previous (facts ++ [e]) (told ++ outline [e]) (w.note e) := by
  obtain ⟨seg, hhistory, hcourse⟩ := h.course
  refine ⟨h.analyst, seg ++ [e], ?_, hcourse.note e hquiet⟩
  rw [BrowserWorld.note, hhistory, List.append_assoc]

/-! ### Steps -/

/-- What others do between two calls of the program. -/
theorem Stage.outside (h : Stage L previous facts told w) (o : Outside) :
    Stage L previous facts told (actOutside L.printable w o) ∧
      w.analyst.db.events ⊆ (actOutside L.printable w o).analyst.db.events := by
  have hnote : Stage L previous facts told (w.note (.outside o)) := by
    have h := (h.note (.outside o) fun _ _ _ _ _ h => by cases h).less (List.sublist_append_left facts _)
    rwa [show outline [.outside o] = [] from rfl, List.append_nil] at h
  have hsame : w.analyst.db.events ⊆ w.analyst.db.events := fun _ hrow => hrow
  cases o with
  | stopAdmission | close => exact ⟨⟨hnote.analyst, hnote.course⟩, hsame⟩
  | reopen =>
    simp only [actOutside]
    split
    · exact ⟨hnote, hsame⟩
    · exact ⟨⟨hnote.analyst, hnote.course⟩, hsame⟩
  | workflow input =>
    obtain ⟨hok, hgrows⟩ := workflowStep_ok input h.analyst
    exact ⟨⟨hok, hnote.course⟩, hgrows.events⟩

theorem Stage.found (h : Stage L previous facts told w) (env : BrowserEnv L) :
    Stage L previous facts told (found L env w) ∧ w.analyst.db.events ⊆ (found L env w).analyst.db.events := by
  unfold Browser.found
  induction env.outside generalizing w with
  | nil => exact ⟨h, fun _ hrow => hrow⟩
  | cons o os ih =>
    obtain ⟨hstage, hgrows⟩ := h.outside o
    obtain ⟨hend, hrest⟩ := ih hstage
    exact ⟨hend, fun _ hrow => hrest (hgrows hrow)⟩

/-- What a call adds to the history; a transition is apart. -/
def noted (env : BrowserEnv L) (w : BrowserWorld) : BrowserCall → List BrowserEntry
  | .check _ listener => [.checked (w.listener == some listener && !w.stopped)]
  | .authenticate peer => [.authenticated peer env.now (L.credentials.actorFor L.sha256 peer env.now)]
  | .authorize actorId => [.authorized actorId (issueForTrustedActor L.authorization actorId)]
  | .read => match readBrowserRequest (actualPort L env.port w) env.turns with
    | .ok request => [.read request]
    | .error _ => []
  | .port => [.port (actualPort L env.port w)]
  | .append event => if env.auditFault then [] else [.audited event]
  | .verify token claim => [.verified token claim]
  | .send _ response => [.answered response]
  | .accept | .wrap | .handshake | .uuid | .listAlerts _ | .getAlert _ _ | .refresh _ _ _ | .transition _ _ _ => []

def BrowserCall.moves : BrowserCall → Bool
  | .transition _ _ _ => true
  | _ => false

theorem Stage.reply (h : Stage L previous facts told w) (env : BrowserEnv L) {c : BrowserCall}
    (hmoves : c.moves = false) :
    Stage L previous (facts ++ noted env w c) (told ++ outline (noted env w c)) (browserReply L env w c).2 ∧
      (browserReply L env w c).2.analyst = w.analyst := by
  have hsame : Stage L previous (facts ++ []) (told ++ outline []) w := by
    rw [outline, List.filter_nil, List.append_nil, List.append_nil]
    exact h
  have hnote : ∀ e : BrowserEntry, (∀ correlationId stopped capability args created,
      e ≠ .transition correlationId stopped capability args created) →
      Stage L previous (facts ++ [e]) (told ++ outline [e]) (w.note e) ∧ (w.note e).analyst = w.analyst :=
    fun e he => ⟨h.note e he, rfl⟩
  cases c with
  | transition => cases hmoves
  | accept =>
    simp only [browserReply, noted]
    split
    · exact ⟨hsame, rfl⟩
    · split <;> exact ⟨hsame, rfl⟩
  | read =>
    simp only [browserReply, noted]
    cases readBrowserRequest (actualPort L env.port w) env.turns with
    | ok request => exact hnote (.read request) fun _ _ _ _ _ h => by cases h
    | error e => exact ⟨hsame, rfl⟩
  | append event =>
    simp only [browserReply, noted]
    split
    · exact ⟨hsame, rfl⟩
    · exact hnote _ fun _ _ _ _ _ h => by cases h
  | check | authenticate | authorize | port | verify | send => exact hnote _ fun _ _ _ _ _ h => by cases h
  | wrap | handshake | uuid | listAlerts | getAlert | refresh => exact ⟨hsame, rfl⟩

/-- Whatever events are stored besides `rows`, the call may end here. -/
def Settles (L : BrowserListener) (told : List BrowserEntry) (rows : List EventRow) : Prop :=
  ∀ events, rows ⊆ events → Fair L told events

theorem Ends.done {r : Except BrowserExn Unit} (h : Settles L told rows) : Ends L previous (.done r) facts told rows :=
  fun _ hw hrows => Ensures.done ⟨told, hw.less (List.nil_sublist _), h _ hrows⟩

theorem Ends.less {p : BrowserProgram L} {facts' : List BrowserEntry} (h : Ends L previous p facts' told rows)
    (hfacts : facts'.Sublist facts) : Ends L previous p facts told rows :=
  fun w hw => h w (hw.less hfacts)

theorem Ends.call {c : BrowserCall} {next : c.Reply L → BrowserProgram L} (hmoves : c.moves = false)
    (h : ∀ env w, Stage L previous facts told (found L env w) → Unforged L c env w →
      Ends L previous (next (browserReply L env (found L env w) c).1) (facts ++ noted env (found L env w) c)
        (told ++ outline (noted env (found L env w) c)) rows) :
    Ends L previous (.call c next) facts told rows := by
  intro w hw hrows
  apply Ensures.call
  · intro env a w' hc hreply
    obtain ⟨hfound, hgrows⟩ := hw.found env
    obtain ⟨hstage, hanalyst⟩ := hfound.reply env hmoves
    cases hreply
    refine h env w hfound hc _ hstage ?_
    rw [hanalyst]
    exact fun _ hrow => hgrows (hrows hrow)
  · intro env e w' hc hreply
    cases hreply

/-- A call of which nothing is told. -/
def BrowserCall.tells : BrowserCall → Bool
  | .read | .transition _ _ _ | .send _ _ => true
  | _ => false

theorem outline_noted {c : BrowserCall} (h : c.tells = false) (env : BrowserEnv L) (w : BrowserWorld) :
    outline (noted env w c) = [] := by
  cases c with
  | read | transition | send => cases h
  | append event =>
    simp only [noted]
    split <;> rfl
  | accept | wrap | handshake | uuid | listAlerts | getAlert | refresh => rfl
  | check | authenticate | authorize | port | verify => rfl

theorem moves_of_tells {c : BrowserCall} (h : c.tells = false) : c.moves = false := by
  cases c with
  | transition => cases h
  | _ => rfl

theorem Ends.untold {c : BrowserCall} {next : c.Reply L → BrowserProgram L} (htells : c.tells = false)
    (h : ∀ env w, Stage L previous facts told (found L env w) → Unforged L c env w →
      Ends L previous (next (browserReply L env (found L env w) c).1) (facts ++ noted env (found L env w) c) told
        rows) :
    Ends L previous (.call c next) facts told rows := by
  refine .call (moves_of_tells htells) fun env w hw hc => ?_
  rw [outline_noted htells, List.append_nil]
  exact h env w hw hc

/-- A call whose answer does not matter. -/
theorem Ends.anyway {c : BrowserCall} {next : c.Reply L → BrowserProgram L} (htells : c.tells = false)
    (h : ∀ a, Ends L previous (next a) facts told rows) : Ends L previous (.call c next) facts told rows :=
  .untold htells fun _ _ _ _ => (h _).less (List.sublist_append_left _ _)

theorem Ends.check {admitted : Bool} {listener : Nat} {next : Bool → BrowserProgram L}
    (h : ∀ passed, Ends L previous (next passed) (facts ++ [.checked passed]) told rows) :
    Ends L previous (.call (.check admitted listener) next) facts told rows :=
  .untold rfl fun _ _ _ _ => h _

theorem Ends.authenticate {peer : Peer} {next : Option String → BrowserProgram L}
    (h : ∀ now, Ends L previous (next (L.credentials.actorFor L.sha256 peer now))
      (facts ++ [.authenticated peer now (L.credentials.actorFor L.sha256 peer now)]) told rows) :
    Ends L previous (.call (.authenticate peer) next) facts told rows :=
  .untold rfl fun _ _ _ _ => h _

theorem Ends.authorize {actorId : String} {next : Option AnalystCapability → BrowserProgram L}
    (h : Ends L previous (next (issueForTrustedActor L.authorization actorId))
      (facts ++ [.authorized actorId (issueForTrustedActor L.authorization actorId)]) told rows) :
    Ends L previous (.call (.authorize actorId) next) facts told rows :=
  .untold rfl fun _ _ _ _ => h

theorem Ends.port {next : Nat → BrowserProgram L} (h : ∀ n, Ends L previous (next n) (facts ++ [.port n]) told rows) :
    Ends L previous (.call .port next) facts told rows :=
  .untold rfl fun _ _ _ _ => h _

theorem Ends.append {event : AuditEvent} {next : Bool → BrowserProgram L}
    (htrue : Ends L previous (next true) (facts ++ [.audited event]) told rows)
    (hfalse : Ends L previous (next false) facts told rows) :
    Ends L previous (.call (.append event) next) facts told rows := by
  refine .untold rfl fun env w _ _ => ?_
  simp only [browserReply, noted]
  cases env.auditFault with
  | true => exact hfalse.less (List.sublist_append_left _ _)
  | false => exact htrue

theorem Ends.read {next : Except ReadError BrowserRequest → BrowserProgram L}
    (hok : ∀ request, Ends L previous (next (.ok request)) (facts ++ [.read request]) (told ++ [.read request]) rows)
    (herror : ∀ e, Ends L previous (next (.error e)) facts told rows) :
    Ends L previous (.call .read next) facts told rows := by
  refine .call rfl fun env w _ _ => ?_
  simp only [browserReply, noted]
  cases readBrowserRequest (actualPort L env.port (found L env w)) env.turns with
  | ok request => exact hok request
  | error e =>
    simp only [outline, List.filter_nil, List.append_nil]
    exact herror e

theorem Ends.send {guarded : Bool} {r : Response} {next : Bool → BrowserProgram L}
    (h : ∀ sent, Ends L previous (next sent) facts (told ++ [.answered r]) rows) :
    Ends L previous (.call (.send guarded r) next) facts told rows :=
  .call rfl fun _ _ _ _ => (h _).less (List.sublist_append_left _ _)

/-- A token that passes: it came with a form that was sent before this call. -/
theorem Ends.verify {token : String} {claim : CsrfClaim} {next : Except BrowserExn Bool → BrowserProgram L}
    (hnew : ∀ r, .answered r ∉ told)
    (hpassed : ∀ r form, .answered r ∈ previous → r.form = some form → csrfMessage form.claim = csrfMessage claim →
      token = L.hmac (csrfMessage claim) →
      Ends L previous (next (.ok true)) (facts ++ [.verified token claim]) told rows)
    (hother : ∀ a, a ≠ .ok true → Ends L previous (next a) facts told rows) :
    Ends L previous (.call (.verify token claim) next) facts told rows := by
  refine .untold rfl fun env w hw hc => ?_
  simp only [browserReply, noted]
  by_cases hverified : verifyCsrfToken L.hmac token claim = .ok true
  · obtain ⟨r, form, hanswered, hform, hmessage⟩ := hc hverified
    obtain ⟨seg, hhistory, hcourse⟩ := hw.course
    rw [hhistory, List.mem_append] at hanswered
    rcases hanswered with hprevious | hseg
    · rw [hverified]
      exact hpassed r form hprevious hform hmessage (verifyCsrfToken_true hverified)
    · exact absurd (hcourse.told ▸ mem_outline.2 ⟨hseg, rfl⟩) (hnew r)
  · exact (hother _ hverified).less (List.sublist_append_left _ _)

theorem require_actor {registry : Registry} {capability : AnalystCapability} {actorId : String}
    (h : registry.require true (some capability) = .ok actorId) : actorId = capability.actorId := by
  simp only [Registry.require] at h
  split at h
  · cases h
  split at h
  · cases h
  split at h
  · cases h
  · cases h
    rfl

/-- The view refuses and stores nothing, or the transition is among the events. -/
theorem Ends.transition {correlationId : String} {capability : AnalystCapability} {args : TransitionArgs}
    {next : Except String Unit → BrowserProgram L} (a : Approval)
    (happroves : ∀ seg, facts.Sublist seg → a.Holds L previous seg correlationId capability args)
    (hrefused : ∀ stopped code,
      Ends L previous (next (.error code)) [] (told ++ [.transition correlationId stopped capability args false]) [])
    (hstored : ∀ stopped created row, row.args = args → row.actorId = capability.actorId →
      Ends L previous (next (.ok ())) [] (told ++ [.transition correlationId stopped capability args created]) [row]) :
    Ends L previous (.call (.transition correlationId capability args) next) facts told rows := by
  intro w hw _
  apply Ensures.call
  · intro env reply w' hc hreply
    obtain ⟨⟨hok, seg, hhistory, hcourse⟩, -⟩ := hw.found env
    cases hreply
    simp only [browserReply, viewTransition]
    have hstage : ∀ analyst created, WorldOk L.printable analyst →
        Stage L previous [] (told ++ [.transition correlationId (found L env w).stopped capability args created])
          ({ found L env w with analyst }.note
            (.transition correlationId (found L env w).stopped capability args created)) := by
      intro analyst created hanalyst
      refine ⟨hanalyst, seg ++ [_], ?_, hcourse.transition _ created a (happroves seg hcourse.facts)⟩
      rw [BrowserWorld.note, hhistory, List.append_assoc]
    cases transition_cases hok.db ⟨L.authorization, some capability, args⟩ env.analyst with
    | refused e h =>
      rw [h]
      simp only [ne_eq, not_true_eq_false, decide_false]
      exact hrefused _ _ _ (hstage _ _ hok) (List.nil_subset _)
    | replayed event state hrecorded hused h =>
      rw [h]
      refine hstored _ _ event.row hused.1.symm (require_actor hused.2) _ (hstage _ _ hok) fun r hr => ?_
      cases List.mem_singleton.1 hr
      exact hrecorded
    | created event db' es hnext hwritten hused hmem h =>
      rw [h]
      refine hstored _ _ event.row hused.1.symm (require_actor hused.2) _
        (hstage _ _ ⟨(hwritten.consistent hok.db hnext).1, hok.alerts⟩) ?_
      simp [BrowserWorld.note, hwritten.events]
  · intro env e w' hc hreply
    cases hreply

/-! ### The outlines -/

/-- No transition yet, and no answer. -/
def Quiet (told : List BrowserEntry) : Prop := ∀ e ∈ told, ∃ request, e = .read request

/-- No transition, and no page for a POST. -/
structure Plain (L : BrowserListener) (told : List BrowserEntry) : Prop where
  unmoved : ∀ correlationId stopped capability args created,
    .transition correlationId stopped capability args created ∉ told
  got : ∀ r request, .answered r ∈ told → r.code = 200 → .read request ∈ told → request.method ≠ .post
  genuine : ∀ r, .answered r ∈ told → r.Genuine L

theorem Quiet.plain (h : Quiet told) : Plain L told where
  unmoved _ _ _ _ _ hmem := by obtain ⟨_, h⟩ := h _ hmem; cases h
  got _ _ hmem := by obtain ⟨_, h⟩ := h _ hmem; cases h
  genuine _ hmem := by obtain ⟨_, h⟩ := h _ hmem; cases h

theorem Quiet.unanswered (h : Quiet told) (r : Response) : .answered r ∉ told := fun hmem => by
  obtain ⟨_, h⟩ := h _ hmem
  cases h

theorem Plain.settles (h : Plain L told) : Settles L told rows := fun events _ => by
  refine ⟨?_, fun r request hanswered hcode hread hpost => absurd hpost (h.got r request hanswered hcode hread),
    fun _ _ _ _ _ _ _ => h.unmoved _ _ _ _ _, h.genuine⟩
  rw [List.countP_eq_zero.2 fun e he => ?_]
  · exact Nat.zero_le _
  · cases e with
    | transition => exact absurd he (h.unmoved _ _ _ _ _)
    | _ => simp

theorem Plain.answer (h : Plain L told) {r : Response} (hgenuine : r.Genuine L)
    (hget : r.code = 200 → ∀ request, .read request ∈ told → request.method ≠ .post) :
    Plain L (told ++ [.answered r]) where
  unmoved _ _ _ _ _ hmem := by
    rcases List.mem_append.1 hmem with hmem | hmem
    · exact h.unmoved _ _ _ _ _ hmem
    · cases List.mem_singleton.1 hmem
  got r' request hanswered hcode hread := by
    have hold : .read request ∈ told := by
      rcases List.mem_append.1 hread with hread | hread
      · exact hread
      · cases List.mem_singleton.1 hread
    rcases List.mem_append.1 hanswered with hanswered | hanswered
    · exact h.got r' request hanswered hcode hold
    · cases List.mem_singleton.1 hanswered
      exact hget hcode request hold
  genuine r' hmem := by
    rcases List.mem_append.1 hmem with hmem | hmem
    · exact h.genuine r' hmem
    · cases List.mem_singleton.1 hmem
      exact hgenuine

theorem errorPage_genuine (code : Nat) (message : String) : (errorPage code message).Genuine L :=
  fun form h => by cases h

theorem Plain.error (h : Plain L told) {code : Nat} (message : String) (hcode : code ≠ 200) :
    Plain L (told ++ [.answered (errorPage code message)]) :=
  h.answer (errorPage_genuine code message) fun h => absurd h hcode

variable {correlationId : String} {stopped created : Bool} {capability : AnalystCapability} {args : TransitionArgs}

/-- After the transition, not answered. -/
theorem Quiet.settles_moved (h : Quiet told) :
    Settles L (told ++ [.transition correlationId stopped capability args created]) rows := fun events _ => by
  have hplain := h.plain (L := L)
  have hzero : told.countP (· matches .transition _ _ _ _ _) = 0 := List.countP_eq_zero.2 fun e he => by
    obtain ⟨request, rfl⟩ := h e he
    simp
  have hunanswered : ∀ r, .answered r ∉ told ++ [.transition correlationId stopped capability args created] := by
    intro r hmem
    rcases List.mem_append.1 hmem with hmem | hmem
    · exact h.unanswered r hmem
    · cases List.mem_singleton.1 hmem
  refine ⟨?_, fun r _ hr => absurd hr (hunanswered r), fun r hr => absurd hr (hunanswered r),
    fun r hr => absurd hr (hunanswered r)⟩
  rw [List.countP_append, hzero]
  simp

/-- After the transition, answered once. -/
theorem Quiet.settles_answered (h : Quiet told) {r : Response} (hgenuine : r.Genuine L)
    (hstored : r.code = 200 → ∃ row ∈ rows, row.args = args ∧ row.actorId = capability.actorId)
    (hnothing : created = true → r.code ∉ [400, 401, 403, 404, 409]) :
    Settles L (told ++ [.transition correlationId stopped capability args created] ++ [.answered r]) rows := by
  intro events hrows
  have hmoved : Fair L (told ++ [.transition correlationId stopped capability args created]) events :=
    h.settles_moved events hrows
  have hlast : ∀ r',
      .answered r' ∈ told ++ [.transition correlationId stopped capability args created] ++ [.answered r] → r' = r := by
    intro r' hmem
    rcases List.mem_append.1 hmem with hmem | hmem
    · rcases List.mem_append.1 hmem with hmem | hmem
      · exact absurd hmem (h.unanswered r')
      · cases List.mem_singleton.1 hmem
    · cases List.mem_singleton.1 hmem
      rfl
  constructor
  · rw [List.countP_append]
    simpa using hmoved.once
  · intro r' request hanswered hcode _ _
    obtain rfl := hlast r' hanswered
    obtain ⟨row, hrow, hused⟩ := hstored hcode
    exact ⟨correlationId, stopped, capability, args, created, by simp, row, hrows hrow, hused⟩
  · intro r' hanswered hcode correlationId' stopped' capability' args' hmem
    obtain rfl := hlast r' hanswered
    rcases List.mem_append.1 hmem with hmem | hmem
    · rcases List.mem_append.1 hmem with hmem | hmem
      · exact h.plain.unmoved (L := L) _ _ _ _ _ hmem
      · cases List.mem_singleton.1 hmem
        exact hnothing rfl hcode
    · cases List.mem_singleton.1 hmem
  · intro r' hanswered
    rwa [hlast r' hanswered]

/-! ### The answers -/

theorem ends_leaving (e : BrowserExn) (h : Settles L told rows) : Ends L previous (leaving L e) facts told rows := by
  unfold leaving
  split <;> exact .done h

theorem ends_answering (r : Response) (h : Settles L (told ++ [.answered r]) rows) :
    Ends L previous (answering L r) facts told rows :=
  .send fun sent => by
    cases sent with
    | true => exact .done h
    | false => exact ends_leaving .os h

theorem ends_rejecting (event : AuditEvent) (r : Response) (h : Settles L (told ++ [.answered r]) rows) :
    Ends L previous (rejecting L event r) facts told rows :=
  .anyway rfl fun _ => ends_answering r h

/-- An error page, while no transition was tried. -/
theorem Plain.ends_rejecting (h : Plain L told) (event : AuditEvent) {code : Nat} (message : String)
    (hcode : code ≠ 200) : Ends L previous (rejecting L event (errorPage code message)) facts told rows :=
  Browser.ends_rejecting event _ (h.error message hcode).settles

/-! ### A GET -/

variable {x : Exchange} {actorId : String}

theorem ends_failing (h : Plain L told) : Ends L previous (failing L x actorId) facts told rows :=
  h.ends_rejecting _ "Unavailable" (by decide)

theorem ends_delivering (h : Plain L told) {r : Response} (hgenuine : r.Genuine L)
    (hget : ∀ request, .read request ∈ told → request.method ≠ .post) :
    Ends L previous (delivering L x actorId r) facts told rows := by
  have hanswered := h.answer hgenuine fun _ => hget
  refine .send fun sent => ?_
  split
  · exact .done hanswered.settles
  · exact ends_failing hanswered

theorem ends_dispatched (h : Plain L told) (hget : ∀ request, .read request ∈ told → request.method ≠ .post)
    (result : Except BrowserExn Response) (hgenuine : ∀ r, result = .ok r → r.Genuine L) :
    Ends L previous (dispatched L x actorId result) facts told rows := by
  cases result with
  | error e => exact ends_failing h
  | ok r =>
    have hr := hgenuine r rfl
    simp only [dispatched]
    split
    · refine .anyway rfl fun logged : Bool => ?_
      split
      · exact ends_delivering h hr hget
      · exact ends_failing h
    · refine .anyway rfl fun logged : Bool => ?_
      cases logged with
      | true => exact ends_delivering h hr hget
      | false => exact ends_delivering h (errorPage_genuine 503 "Unavailable") hget

theorem htmlResponse_genuine {html : String} {form : Option CsrfForm} {r : Response}
    (hform : ∀ f, form = some f → f.claim.Proper ∧ f.token = L.hmac (csrfMessage f.claim))
    (h : htmlResponse html form = .ok r) : r.Genuine L := by
  unfold htmlResponse at h
  split at h
  · cases h
  · cases h
    exact hform

theorem page_genuine {items : List L.Item} {detail : Option L.Detail} {status : PageStatus} {role : AnalystRole}
    {form : Option CsrfForm} {r : Response}
    (hform : ∀ f, form = some f → f.claim.Proper ∧ f.token = L.hmac (csrfMessage f.claim))
    (h : page L items detail status role form = .ok r) : r.Genuine L := by
  unfold page at h
  obtain ⟨fill, -, h⟩ := Except.bind_eq_ok.1 h
  exact htmlResponse_genuine hform h

theorem csrfForm_genuine (hactor : validActorId actorId = true) {selected : String × Nat} {id : String}
    (hid : isUuid4 id = true) :
    (csrfForm L actorId selected id).claim.Proper ∧
      (csrfForm L actorId selected id).token = L.hmac (csrfMessage (csrfForm L actorId selected id).claim) :=
  ⟨⟨hactor, hid⟩, rfl⟩

theorem ends_showing (hactor : validActorId capability.actorId = true) {items : List L.Item} {detail : L.Detail}
    {k : Except BrowserExn Response → BrowserProgram L}
    (hk : ∀ result, (∀ r, result = .ok r → r.Genuine L) → Ends L previous (k result) facts told rows) :
    Ends L previous (showing L capability items detail k) facts told rows := by
  unfold showing
  split
  · exact hk _ fun r h => by cases h
  split
  · refine .untold rfl fun env w _ hid =>
      (hk _ fun r hr => page_genuine (fun f hf => ?_) hr).less (List.sublist_append_left _ _)
    cases hf
    exact csrfForm_genuine hactor hid
  · exact hk _ fun r hr => page_genuine (fun f hf => by cases hf) hr

theorem ends_dispatch (hactor : validActorId capability.actorId = true) {target : String}
    {k : Except BrowserExn Response → BrowserProgram L}
    (hk : ∀ result, (∀ r, result = .ok r → r.Genuine L) → Ends L previous (k result) facts told rows) :
    Ends L previous (dispatch L capability target k) facts told rows := by
  have hunavailable : Ends L previous (k (.ok unavailablePage)) facts told rows :=
    hk _ fun r hr => by cases hr; exact errorPage_genuine _ _
  have hmissing : Ends L previous (k (.ok (errorPage 404 "Not Found"))) facts told rows :=
    hk _ fun r hr => by cases hr; exact errorPage_genuine _ _
  have hbare : ∀ items detail status,
      Ends L previous (k (page L items detail status capability.role none)) facts told rows :=
    fun items detail status => hk _ fun r hr => page_genuine (fun f hf => by cases hf) hr
  have hraised : ∀ e, Ends L previous (k (.error e)) facts told rows := fun e => hk _ fun r hr => by cases hr
  unfold dispatch
  split
  · unfold overview
    refine .anyway rfl fun items : Option (List L.Item) => ?_
    cases items with
    | none => exact hunavailable
    | some items =>
      dsimp only
      split
      · exact hraised _
      · exact hbare _ _ _
      · refine .anyway rfl fun detail : Option (Option L.Detail) => ?_
        rcases detail with _ | _ | detail
        · exact hbare _ _ _
        · exact hbare _ _ _
        · exact ends_showing hactor hk
  · split
    · unfold alertPage
      refine .anyway rfl fun items : Option (List L.Item) => ?_
      cases items with
      | none => exact hunavailable
      | some items =>
        refine .anyway rfl fun detail : Option (Option L.Detail) => ?_
        cases detail with
        | none => exact hunavailable
        | some detail =>
          dsimp only
          split
          · exact hraised _
          · exact hmissing
          · exact ends_showing hactor hk
    · exact hmissing

/-! ### A POST -/

section
variable {row : EventRow}

theorem ends_refused (h : Quiet told) (code : String) :
    Ends L previous (refused L x actorId code) facts
      (told ++ [.transition correlationId stopped capability args false]) rows := by
  have hanswered : ∀ (code : Nat) (message : String), code ≠ 200 →
      Settles L (told ++ [.transition correlationId stopped capability args false] ++
        [.answered (errorPage code message)]) rows :=
    fun code message hcode => h.settles_answered (errorPage_genuine code message) (fun h => absurd h hcode)
      fun hcreated => by cases hcreated
  unfold refused
  split
  · exact ends_rejecting _ _ (hanswered 403 _ (by decide))
  split
  · exact ends_rejecting _ _ (hanswered 409 _ (by decide))
  split
  · exact ends_answering _ (hanswered 404 _ (by decide))
  split
  · exact ends_rejecting _ _ (hanswered 503 _ (by decide))
  · exact ends_rejecting _ _ (hanswered 400 _ (by decide))

theorem htmlResponse_code {html : String} {form : Option CsrfForm} {r : Response} (h : htmlResponse html form = .ok r) :
    r.code = 200 := by
  unfold htmlResponse at h
  split at h
  · cases h
  · cases h
    rfl

/-- The transition is stored: the answer is its page, or that the service is unavailable. -/
theorem ends_updated (h : Quiet told) (hactor : validActorId actorId = true) (hargs : row.args = args)
    (hrow : row.actorId = capability.actorId) (items : List L.Item) (detail : Option L.Detail) :
    Ends L previous (updated L x actorId capability items detail) facts
      (told ++ [.transition correlationId stopped capability args created]) [row] := by
  have hmoved : Settles L (told ++ [.transition correlationId stopped capability args created]) [row] := h.settles_moved
  unfold updated
  split
  · exact ends_leaving _ hmoved
  · exact ends_leaving _ hmoved
  · refine .untold rfl fun env w _ hid => Ends.less ?_ (List.sublist_append_left _ _)
    dsimp only
    split
    · exact ends_leaving _ hmoved
    · refine .anyway rfl fun logged : Bool => ?_
      cases logged with
      | false =>
        exact ends_answering _ (h.settles_answered (errorPage_genuine 503 "Unavailable") (fun h => absurd h (by decide))
          fun _ => by decide)
      | true =>
        rw [if_pos rfl]
        split
        · exact ends_leaving _ hmoved
        · rename_i r hr
          refine ends_answering _ (h.settles_answered (htmlResponse_genuine (fun f hf => ?_) hr)
            (fun _ => ⟨row, List.mem_cons_self, hargs, hrow⟩) fun _ => ?_)
          · obtain ⟨selected, -, rfl⟩ := Option.map_eq_some_iff.1 hf
            exact csrfForm_genuine hactor hid
          · rw [htmlResponse_code hr]
            decide

theorem ends_transitioning (h : Quiet told) (hactor : validActorId actorId = true) {alertCandidateId : String}
    (a : Approval)
    (happroves : ∀ seg, facts.Sublist seg → a.Holds L previous seg x.correlationId capability args) :
    Ends L previous (transitioning L x actorId capability alertCandidateId args) facts told rows := by
  unfold transitioning
  refine .transition a happroves (fun stopped code => ends_refused h code) fun stopped created row hargs hrow => ?_
  refine .anyway rfl fun answers : Option (List L.Item × Option L.Detail) => ?_
  rcases answers with _ | ⟨items, detail⟩
  · exact ends_rejecting _ _ (h.settles_answered (errorPage_genuine 503 "Unavailable") (fun h => absurd h (by decide))
      fun _ => by decide)
  · exact ends_updated h hactor hargs hrow items _

theorem actorFor_some {r : HumanCredentialRegistry} {sha256 : Bytes → String} {peer : Peer} {now : DateTime}
    (h : r.actorFor sha256 peer now = some actorId) :
    ∃ c ∈ r.records, c.certificateSha256 = sha256 peer.der ∧ c.actorId = actorId ∧ c.accepts peer now = true ∧
      r.records.find? (·.certificateSha256 = sha256 peer.der) = some c := by
  simp only [HumanCredentialRegistry.actorFor, Option.bind_eq_bind, Option.bind_eq_some_iff, Option.guard_eq_some'] at h
  obtain ⟨-, -, c, hc, -, haccepts, heq⟩ := h
  have hsha := List.find?_some hc
  exact ⟨c, List.mem_of_find?_eq_some hc, by simpa using hsha, Option.some.inj heq, haccepts, hc⟩

/-- The certificate alone says who it is. -/
theorem actorFor_same {r : HumanCredentialRegistry} {sha256 : Bytes → String} {peer : Peer} {now now' : DateTime}
    {actorId' : String} (h : r.actorFor sha256 peer now = some actorId)
    (h' : r.actorFor sha256 peer now' = some actorId') :
    actorId = actorId' := by
  obtain ⟨c, -, -, rfl, -, hc⟩ := actorFor_some h
  obtain ⟨c', -, -, rfl, -, hc'⟩ := actorFor_some h'
  rw [hc] at hc'
  cases hc'
  rfl

theorem issueForTrustedActor_some {registry : Registry} (h : issueForTrustedActor registry actorId = some capability) :
    capability.actorId = actorId ∧ validActorId actorId = true := by
  simp only [issueForTrustedActor, Option.bind_eq_bind, Option.bind_eq_some_iff, Option.guard_eq_some'] at h
  obtain ⟨-, hvalid, entry, hentry, -, -, heq⟩ := h
  have hsame := List.find?_some hentry
  cases heq
  exact ⟨beq_iff_eq.1 hsame, hvalid⟩

theorem sameOrigin_spec {port : Nat} {r : BrowserRequest} (h : sameOrigin port r = true) : SameOrigin port r := by
  simp only [sameOrigin, Bool.and_eq_true, Bool.or_eq_true, beq_iff_eq, Option.isNone_iff_eq_none,
    Option.any_eq_true_iff_get, List.contains_iff_mem, expectedOrigins] at h
  obtain ⟨⟨hpresent, hsite⟩, horigin⟩ := h
  refine ⟨?_, fun s hs => ?_, fun o ho => ?_⟩
  · rcases hpresent with hpresent | ⟨hsome, -⟩
    · exact .inl (by rw [hpresent]; exact Option.some_ne_none _)
    · exact .inr (Option.isSome_iff_ne_none.1 hsome)
  · rcases hsite with hnone | hsame
    · rw [hs] at hnone
      cases hnone
    · rw [hs] at hsame
      exact Option.some.inj hsame
  · rcases horigin with hnone | ⟨hsome, hmem⟩
    · rw [ho] at hnone
      cases hnone
    · simpa [ho] using hmem

variable {alertCandidateId : String}

/-- The request is known, and the steps before its form. -/
structure Requested (L : BrowserListener) (x : Exchange) (alertCandidateId : String) (port : Nat) : Prop where
  post : x.request.method = .post
  path : transitionPath? (pathOnly x.request.target) = some alertCandidateId
  origin : SameOrigin port x.request

theorem ends_posting (h : Quiet told) (hprevious : ∀ r, .answered r ∈ previous → r.Genuine L) {port : Nat}
    {now : DateTime} (hrequest : Requested L x alertCandidateId port)
    (hactor : L.credentials.actorFor L.sha256 x.peer now = some actorId)
    (hcapability : issueForTrustedActor L.authorization actorId = some capability) :
    Ends L previous (posting L x actorId capability alertCandidateId)
      ([.read x.request, .port port, .audited (x.event L .requestAdmitted actorId), .checked true,
        .authenticated x.peer now (some actorId), .authorized actorId (some capability)]) told rows := by
  obtain ⟨rfl, hvalid⟩ := issueForTrustedActor_some hcapability
  have herror : ∀ (kind : AuditKind) {code : Nat} (message : String), code ≠ 200 →
      Ends L previous (rejecting L (x.event L kind capability.actorId) (errorPage code message)) [] told rows :=
    fun kind _ message hcode => h.plain.ends_rejecting _ message hcode
  unfold posting
  split
  · exact (herror _ _ (by decide)).less (List.nil_sublist _)
  rename_i hrole
  split
  · exact (herror _ _ (by decide)).less (List.nil_sublist _)
  rename_i form hform
  rw [intOfDigits_version hform]
  dsimp only
  refine .verify h.unanswered (fun r sent hanswered hsent hmessage htoken => ?_) fun verified hverified => ?_
  · let a : Approval := ⟨x.request, port, x.peer, now, alertCandidateId, form⟩
    obtain ⟨hproper, hhmac⟩ := hprevious r hanswered sent hsent
    have hclaim : sent.claim = a.claim capability.actorId :=
      csrfMessage_inj hproper ⟨hvalid, form.transitionRequestId.2⟩ hmessage
    obtain ⟨c, hc, hsha, hcactor, haccepts, -⟩ := actorFor_some hactor
    refine ends_transitioning h hvalid a fun seg hseg => ?_
    exact
      { trace := hseg, post := hrequest.post, path := hrequest.path, origin := hrequest.origin, form := hform
        args := rfl
        credential := ⟨c, hc, hsha, hcactor, haccepts⟩, authorized := hcapability
        role := not_not.1 hrole
        issued := ⟨r, sent, hanswered, hsent, hclaim, by rw [hhmac, hmessage, ← htoken]⟩ }
  · rcases verified with e | _ | _
    · exact ends_leaving e h.plain.settles
    · exact (herror _ _ (by decide)).less (List.nil_sublist _)
    · exact absurd rfl hverified

/-- With the lock: the rest of a POST is asked for, a GET changes nothing. -/
theorem ends_locked (h : Quiet told) {now : DateTime} {target : Option String}
    (hactor : L.credentials.actorFor L.sha256 x.peer now = some actorId)
    (hpost : ∀ alertCandidateId capability now, target = some alertCandidateId →
      L.credentials.actorFor L.sha256 x.peer now = some actorId →
      issueForTrustedActor L.authorization actorId = some capability →
      Ends L previous (posting L x actorId capability alertCandidateId) (facts ++
        [.checked true, .authenticated x.peer now (some actorId), .authorized actorId (some capability)]) told rows)
    (hget : target = none → ∀ request, .read request ∈ told → request.method ≠ .post) :
    Ends L previous (locked L x actorId target) facts told rows := by
  unfold locked
  refine .check fun passed => ?_
  split
  · exact .done h.plain.settles
  rename_i hpassed
  obtain rfl : passed = true := by simpa using hpassed
  refine .authenticate fun now' => ?_
  split
  · exact (h.plain.ends_rejecting _ _ (by decide)).less (List.nil_sublist _)
  rename_i again hagain
  obtain rfl := actorFor_same hactor hagain
  rw [hagain]
  refine .authorize ?_
  split
  · exact (h.plain.ends_rejecting _ _ (by decide)).less (List.nil_sublist _)
  rename_i capability hcapability
  rw [hcapability]
  split
  · rename_i alertCandidateId
    rw [List.append_assoc, List.append_assoc]
    exact hpost alertCandidateId capability now' rfl hagain hcapability
  · unfold getting
    refine ends_dispatch ?_ fun result hgenuine => ends_dispatched h.plain (hget rfl) result hgenuine
    obtain ⟨rfl, hvalid⟩ := issueForTrustedActor_some hcapability
    exact hvalid

/-- The event comes before the lock. -/
theorem ends_admitting {target : Option String} (h : Quiet told)
    (hlocked : Ends L previous (locked L x actorId target)
      (facts ++ [.audited (x.event L .requestAdmitted actorId)]) told rows) :
    Ends L previous (admitting L x actorId target) facts told rows := by
  refine .append ?_ ?_
  · rw [if_pos rfl]
    exact hlocked
  · exact ends_answering _ (h.plain.error "Unavailable" (by decide)).settles

/-! ### One connection -/

theorem ends_received (hprevious : ∀ r, .answered r ∈ previous → r.Genuine L) {now : DateTime}
    (hactor : L.credentials.actorFor L.sha256 x.peer now = some actorId) :
    Ends L previous (received L x actorId) [.read x.request] [.read x.request] rows := by
  have hquiet : Quiet [.read x.request] := fun e he => ⟨x.request, List.mem_singleton.1 he⟩
  unfold received
  split
  · rename_i hmethod
    refine ends_admitting hquiet (ends_locked hquiet hactor (fun _ _ _ h => by cases h) fun _ request hread => ?_)
    cases List.mem_singleton.1 hread
    rw [hmethod]
    exact fun h => by cases h
  rename_i hmethod
  split
  · exact hquiet.plain.ends_rejecting _ _ (by decide)
  rename_i alertCandidateId hpath
  refine .port fun port => ?_
  split
  · rename_i horigin
    refine ends_admitting hquiet (ends_locked hquiet hactor (fun target capability now htarget hagain hcapability => ?_)
      fun h => by cases h)
    cases htarget
    exact ends_posting hquiet hprevious ⟨hmethod, hpath, sameOrigin_spec horigin⟩ hagain hcapability
  · exact (hquiet.plain.ends_rejecting _ _ (by decide)).less (List.nil_sublist _)

theorem quiet_nil : Quiet [] := fun _ h => by cases h

theorem ends_identified (hprevious : ∀ r, .answered r ∈ previous → r.Genuine L) {listener : Nat} {peer : Peer} :
    Ends L previous (identified L listener peer correlationId) [] [] rows := by
  have hplain : Plain L [] := quiet_nil.plain
  unfold identified
  refine .authenticate fun now => Ends.less ?_ (List.nil_sublist _)
  split
  · exact hplain.ends_rejecting _ _ (by decide)
  rename_i actorId hactor
  refine .anyway rfl fun capability : Option AnalystCapability => ?_
  cases capability with
  | none => exact hplain.ends_rejecting _ _ (by decide)
  | some capability =>
    refine .read (fun request => ?_) fun e => ?_
    · exact ends_received (x := ⟨listener, peer, correlationId, request⟩) hprevious hactor
    · cases e with
      | connectionIdle => exact .done hplain.settles
      | requestInvalid => exact hplain.ends_rejecting _ _ (by decide)
      | valueError => exact ends_leaving _ hplain.settles

theorem ends_processOne (hprevious : ∀ r, .answered r ∈ previous → r.Genuine L) :
    Ends L previous (processOne L) [] [] [] := by
  have hsettles : Settles L [] [] := quiet_nil.plain.settles
  refine .anyway rfl fun accepted : Accept => ?_
  cases accepted with
  | unavailable | failed => exact ends_leaving _ hsettles
  | foreign => exact .done hsettles
  | loopback listener =>
    refine .anyway rfl fun passed : Bool => ?_
    split
    · refine .anyway rfl fun wrapped : Bool => ?_
      split
      · exact ends_leaving _ hsettles
      refine .anyway rfl fun passed : Bool => ?_
      split
      · exact .done hsettles
      refine .anyway rfl fun handshake : Handshake => ?_
      cases handshake with
      | failed => exact ends_leaving _ hsettles
      | otherVersion => exact .done hsettles
      | peer peer => exact .anyway rfl fun correlationId : String => ends_identified hprevious
    · exact .done hsettles

end

/-! ### Runs -/

theorem Stage.truthful (h : Stage L previous [] told w) (hfair : Fair L told w.analyst.db.events) :
    ∃ seg, w.history = previous ++ seg ∧ Truthful L previous seg w.analyst.db.events ∧
      ∀ r, .answered r ∈ seg → r.Genuine L := by
  obtain ⟨seg, hhistory, hcourse⟩ := h.course
  have hmem : ∀ {e : BrowserEntry}, e.telling = true → e ∈ seg → e ∈ told :=
    fun htelling he => hcourse.told ▸ mem_outline.2 ⟨he, htelling⟩
  refine ⟨seg, hhistory, ⟨hcourse.approved, ?_, fun r request hanswered hcode hread hpost => ?_,
    fun r hanswered hcode _ _ _ _ hmoved => hfair.nothing r (hmem rfl hanswered) hcode _ _ _ _ (hmem rfl hmoved)⟩,
    fun r hanswered => hfair.genuine r (hmem rfl hanswered)⟩
  · refine Nat.le_trans (Nat.le_of_eq ?_) hfair.once
    rw [← hcourse.told, outline, List.countP_filter]
    refine List.countP_congr fun e _ => ?_
    cases e <;> simp [BrowserEntry.telling]
  · obtain ⟨correlationId, stopped, capability, args, created, hmoved, hrow⟩ :=
      hfair.stored r request (hmem rfl hanswered) hcode (hmem rfl hread) hpost
    exact ⟨correlationId, stopped, capability, args, created, (mem_outline.1 (hcourse.told.symm ▸ hmoved)).1, hrow⟩

end

section
variable (L : BrowserListener) (calls : List (Nat → BrowserEnv L))

/-- Before every call: the stored states are consistent, and all forms that were sent are the listener's. -/
structure Honest (w : BrowserWorld) : Prop where
  analyst : WorldOk L.printable w.analyst
  genuine : ∀ r, .answered r ∈ w.history → r.Genuine L

theorem honest_step {w : BrowserWorld} {envs : Nat → BrowserEnv L} (h : Honest L w)
    (hcall : Along (browserHandle L) (fun _ => Unforged L) [] envs (processOne L) w) :
    Honest L (browserStep L w envs).2 ∧ ∃ seg, (browserStep L w envs).2.history = w.history ++ seg ∧
      Truthful L w.history seg (browserStep L w envs).2.analyst.db.events := by
  have hstage : Stage L w.history [] [] w :=
    ⟨h.analyst, [], (List.append_nil _).symm, List.Sublist.refl _, rfl, fun _ _ _ _ _ hmem => by cases hmem⟩
  obtain ⟨told, hend, hfair⟩ := ends_processOne h.genuine w hstage (List.nil_subset _) [] envs hcall
  obtain ⟨seg, hhistory, htruthful, hgenuine⟩ := hend.truthful hfair
  refine ⟨⟨hend.analyst, fun r hanswered => ?_⟩, seg, hhistory, htruthful⟩
  rw [show (browserStep L w envs).2.history = w.history ++ seg from hhistory] at hanswered
  exact (List.mem_append.1 hanswered).elim (h.genuine r) (hgenuine r)

/-- **Every call of every run is truthful.** -/
theorem transitions_approved
    (h : ∀ k envs, calls[k]? = some envs →
      Along (browserHandle L) (fun _ => Unforged L) [] envs (processOne L) (browserAt L {} calls k))
    (k : Nat) (envs : Nat → BrowserEnv L) (hk : calls[k]? = some envs) :
    ∃ seg, (browserAt L {} calls (k + 1)).history = (browserAt L {} calls k).history ++ seg ∧
      Truthful L (browserAt L {} calls k).history seg (browserAt L {} calls (k + 1)).analyst.db.events := by
  have hhonest : Honest L (browserAt L {} calls k) :=
    Machine.stateAt_inv_of (I := Honest L) (fun w envs hw hcall => (honest_step L hw hcall).1)
      ⟨worldOk_empty, fun _ hmem => by cases hmem⟩ h k
  obtain ⟨-, hseg⟩ := honest_step L hhonest (h k envs hk)
  rw [browserAt, Machine.stateAt_succ _ hk]
  exact hseg

end

/-! ## What the listener stored -/

/-- The identifier of a transition that a call stored. -/
def storedId : BrowserEntry → Option Value
  | .transition _ _ _ args true => some args.transitionId
  | _ => none

/-- The transitions in the history are in the table, under the actors who made them and under different identifiers. -/
structure Filed (L : BrowserListener) (w : BrowserWorld) : Prop where
  analyst : WorldOk L.printable w.analyst
  filed : ∀ correlationId stopped capability args, .transition correlationId stopped capability args true ∈ w.history →
    ∃ row ∈ w.analyst.db.events, row.args = args ∧ row.actorId = capability.actorId
  once : (w.history.filterMap storedId).Nodup

section
variable {L : BrowserListener} {w : BrowserWorld}

theorem Filed.note (h : Filed L w) {e : BrowserEntry} (he : storedId e = none) : Filed L (w.note e) where
  analyst := h.analyst
  filed correlationId stopped capability args hmem := by
    rcases List.mem_append.1 hmem with hmem | hmem
    · exact h.filed _ _ _ _ hmem
    · rw [← List.mem_singleton.1 hmem] at he
      cases he
  once := by
    simp only [BrowserWorld.note, List.filterMap_append, List.filterMap_cons, he, List.filterMap_nil, List.append_nil]
    exact h.once

/-- The analyst's table only grows. -/
theorem Filed.grows (h : Filed L w) (analyst : AnalystWorld) (hok : WorldOk L.printable analyst)
    (hgrows : w.analyst.db.events ⊆ analyst.db.events) : Filed L { w with analyst } where
  analyst := hok
  filed correlationId stopped capability args hmem := by
    obtain ⟨row, hrow, hused⟩ := h.filed _ _ _ _ hmem
    exact ⟨row, hgrows hrow, hused⟩
  once := h.once

theorem Filed.outside (h : Filed L w) (o : Outside) : Filed L (actOutside L.printable w o) := by
  have hnote : Filed L (w.note (.outside o)) := h.note rfl
  cases o with
  | stopAdmission | close => exact ⟨hnote.analyst, hnote.filed, hnote.once⟩
  | reopen =>
    simp only [actOutside]
    split
    · exact hnote
    · exact ⟨hnote.analyst, hnote.filed, hnote.once⟩
  | workflow input =>
    obtain ⟨hok, hgrows⟩ := workflowStep_ok input h.analyst
    exact hnote.grows _ hok hgrows.events

theorem Filed.found (h : Filed L w) (env : BrowserEnv L) : Filed L (found L env w) := by
  unfold Browser.found
  induction env.outside generalizing w with
  | nil => exact h
  | cons o os ih => exact ih (h.outside o)

/-- A transition that is stored has an identifier that none of the rows has. -/
theorem Filed.transition (h : Filed L w) (env : CallEnv) (correlationId : String) (capability : AnalystCapability)
    (args : TransitionArgs) : Filed L (viewTransition L env correlationId capability args w).2 := by
  simp only [viewTransition]
  cases transition_cases h.analyst.db ⟨L.authorization, some capability, args⟩ env with
  | refused e heq =>
    rw [heq]
    simp only [ne_eq, not_true_eq_false, decide_false]
    exact h.note rfl
  | replayed event state hrecorded hused heq =>
    rw [heq]
    simp only [ne_eq, not_true_eq_false, decide_false]
    exact h.note rfl
  | created event db' es hnext hwritten hused hmem heq =>
    rw [heq]
    have hchanged : decide (db'.events ≠ w.analyst.db.events) = true := by simp [hwritten.events]
    have hargs : args = event.row.args := hused.1
    have hactor : event.row.actorId = capability.actorId := require_actor hused.2
    have hgrown := h.grows { w.analyst with db := db' }
      ⟨(hwritten.consistent h.analyst.db hnext).1, h.analyst.alerts⟩ (by simp [hwritten.events])
    simp only [hchanged]
    refine ⟨hgrown.analyst, fun correlationId' stopped' capability' args' hentry => ?_, ?_⟩
    · rcases List.mem_append.1 hentry with hentry | hentry
      · exact hgrown.filed _ _ _ _ hentry
      · cases List.mem_singleton.1 hentry
        exact ⟨event.row, by simp [BrowserWorld.note, hwritten.events], hargs.symm, hactor⟩
    · simp only [BrowserWorld.note, List.filterMap_append, List.filterMap_cons, storedId, List.filterMap_nil]
      refine List.nodup_append.2 ⟨h.once, List.nodup_singleton _, fun id hid id' hid' hsame => ?_⟩
      obtain rfl := List.mem_singleton.1 hid'
      obtain ⟨e, he, hstored⟩ := List.mem_filterMap.1 hid
      cases e with
      | transition correlationId' stopped' capability' args' created' =>
        cases created' with
        | false => cases hstored
        | true =>
          obtain ⟨row, hrow, rfl, -⟩ := h.filed _ _ _ _ he
          rw [hargs, ← Option.some.inj hstored] at hsame
          exact hnext.fresh (List.mem_map.2 ⟨row, hrow, Value.str.inj hsame⟩)
      | _ => cases hstored

theorem Filed.reply (h : Filed L w) (env : BrowserEnv L) (c : BrowserCall) : Filed L (browserReply L env w c).2 := by
  cases c with
  | transition correlationId capability args => exact h.transition env.analyst correlationId capability args
  | accept =>
    simp only [browserReply]
    split
    · exact h
    · split <;> exact h
  | read =>
    simp only [browserReply]
    split
    · exact h.note rfl
    · exact h
  | append event =>
    simp only [browserReply]
    split
    · exact h
    · exact h.note rfl
  | check | authenticate | authorize | port | verify | send => exact h.note rfl
  | wrap | handshake | uuid | listAlerts | getAlert | refresh => exact h

end

/-- **In every run, with any peers and any tokens**: what the listener stored is filed, and nothing is stored twice. -/
theorem transitions_filed (L : BrowserListener) (calls : List (Nat → BrowserEnv L)) (k : Nat) :
    Filed L (browserAt L {} calls k) := by
  have hempty : Filed L {} := ⟨worldOk_empty, fun _ _ _ _ hmem => (by cases hmem), List.nodup_nil⟩
  exact Machine.stateAt_inv (I := Filed L)
    (fun _ envs h => run_inv (fun env c _ h => (h.found env).reply env c) (processOne L) envs _ h) hempty k

/-! ## A form that is sent back -/

/-- A check that is enough for `Unforged`. -/
def unforgedCheck (L : BrowserListener) (c : BrowserCall) (env : BrowserEnv L) (w : BrowserWorld) : Bool :=
  match c with
  | .uuid => isUuid4 env.uuid
  | .verify _ claim => (found L env w).history.any fun
    | .answered r => r.form.any fun form => csrfMessage form.claim == csrfMessage claim
    | _ => false
  | _ => true

theorem unforged_of_check {L : BrowserListener} {c : BrowserCall} {env : BrowserEnv L} {w : BrowserWorld}
    (h : unforgedCheck L c env w = true) : Unforged L c env w := by
  cases c with
  | uuid => exact h
  | verify token claim =>
    intro _
    obtain ⟨e, he, hsent⟩ := List.any_eq_true.1 h
    cases e with
    | answered r =>
      obtain ⟨form, hform, hmessage⟩ := (Option.any_eq_true ..).1 hsent
      exact ⟨r, form, he, hform, beq_iff_eq.1 hmessage⟩
    | _ => cases hsent
  | _ => exact trivial

def reviewId : String := "2b6d1f90-4c3a-4e87-9d15-6f8a0b2c4d6e"

def reviewClaim : CsrfClaim := ⟨"analyst-1", sampleAlert.1, 0, reviewId⟩

def reviewToken : String := "9d3f0c6a57b18e24d1c09f7a6b52e83470fa1d9ce6b4283517ad60c2f98e4b31"

/-- A page shows the token of its form. -/
def reviewListener : BrowserListener :=
  { sampleListener with
    hmac := Alerts.tableDigest [(csrfMessage reviewClaim, reviewToken)]
    render := fun _ _ _ _ => .ok fun form => "<html>" ++ ((form.map (·.token)).getD "") ++ "</html>" }

/-- An alert is stored, and the analyst opens the overview. -/
def overviewEnv (n : Nat) : BrowserEnv reviewListener where
  outside := if n = 0 then [.reopen, .workflow (.alert sampleAlert)] else []
  handshake := .peer ⟨sampleDer, some [("URI", "urn:threatfusion:human:analyst-1")]⟩
  uuid := if n < 10 then "5e0c7d1a-93b2-4f68-8a41-c7d20e9f6b35" else reviewId
  now := sampleNow
  port := 8443
  turns := [.chunk (utf8 "GET / HTTP/1.1\r\nHost: 127.0.0.1:8443\r\n\r\n")]
  items := some [sampleAlert.1]
  detail := some (some (sampleAlert.1, 0))
  analyst := sampleEnv

def reviewBody : String :=
  "expected_version=0&transition_request_id=" ++ reviewId ++ "&target_state=in_review&reason=triage&csrf_token=" ++
    reviewToken

/-- The form is sent back; before the transition the operator stops the admission. -/
def reviewEnv (n : Nat) : BrowserEnv reviewListener where
  outside := if n = 14 then [.stopAdmission] else []
  handshake := .peer ⟨sampleDer, some [("URI", "urn:threatfusion:human:analyst-1")]⟩
  uuid := if n < 10 then "c81f3a6e-0d57-4b92-a4e6-1f93d7c05b28" else "0a6d94c7-52e1-4f3b-b8d0-97c41e6a2f53"
  now := sampleNow
  port := 8443
  turns :=
    [.chunk (utf8 ("POST /v1/analyst/alerts/" ++ sampleAlert.1 ++ "/transitions HTTP/1.1\r\nHost: 127.0.0.1:8443\r\n" ++
      "Sec-Fetch-Site: same-origin\r\nContent-Type: application/x-www-form-urlencoded\r\nContent-Length: 190\r\n\r\n")),
      .chunk (utf8 reviewBody)]
  items := some [sampleAlert.1]
  detail := some (some (sampleAlert.1, 1))
  analyst := sampleEnv

def reviewCalls : List (Nat → BrowserEnv reviewListener) := [overviewEnv, reviewEnv]

/-- A transition that starts after the stop and is stored. -/
def BrowserEntry.late : BrowserEntry → Bool
  | .transition _ stopped _ _ created => stopped && created
  | _ => false

def hasLate (w : BrowserWorld) : Bool := w.history.any BrowserEntry.late

theorem review_runs :
    (((checkedRun (browserHandle reviewListener) (fun _ => unforgedCheck reviewListener) [] overviewEnv
        (processOne reviewListener) {}).bind fun first =>
      checkedRun (browserHandle reviewListener) (fun _ => unforgedCheck reviewListener) [] reviewEnv
        (processOne reviewListener) first.2).any fun second => hasLate second.2) = true := by decide +kernel

theorem review_unforged :
    (∀ k envs, reviewCalls[k]? = some envs → Along (browserHandle reviewListener) (fun _ => Unforged reviewListener) []
      envs (processOne reviewListener) (browserAt reviewListener {} reviewCalls k)) ∧
    hasLate (browserAt reviewListener {} reviewCalls 2) = true := by
  obtain ⟨second, hruns, hstopped⟩ := (Option.any_eq_true ..).1 review_runs
  obtain ⟨first, hget, hpost⟩ := Option.bind_eq_some_iff.1 hruns
  obtain ⟨hgets, rfl⟩ := checkedRun_eq_some (fun _ _ _ _ => unforged_of_check) hget
  obtain ⟨hposts, rfl⟩ := checkedRun_eq_some (fun _ _ _ _ => unforged_of_check) hpost
  have hfirst : browserAt reviewListener {} reviewCalls 1 = (browserStep reviewListener {} overviewEnv).2 := by
    rw [browserAt, Machine.stateAt_succ _ (show reviewCalls[0]? = some overviewEnv from rfl), Machine.stateAt_zero]
  have hsecond : browserAt reviewListener {} reviewCalls 2 =
      (browserStep reviewListener (browserStep reviewListener {} overviewEnv).2 reviewEnv).2 := by
    rw [← hfirst, browserAt, Machine.stateAt_succ _ (show reviewCalls[1]? = some reviewEnv from rfl)]
    rfl
  rw [hsecond]
  refine ⟨fun k envs hk => ?_, hstopped⟩
  rcases k with _ | _ | k
  · obtain rfl := Option.some.inj hk
    exact hgets
  · obtain rfl := Option.some.inj hk
    rw [hfirst]
    exact hposts
  · cases hk

theorem transitions_approved_review : ∃ seg,
    (browserAt reviewListener {} reviewCalls (1 + 1)).history =
      (browserAt reviewListener {} reviewCalls 1).history ++ seg ∧
    Truthful reviewListener (browserAt reviewListener {} reviewCalls 1).history seg
      (browserAt reviewListener {} reviewCalls (1 + 1)).analyst.db.events :=
  transitions_approved reviewListener reviewCalls review_unforged.1 1 reviewEnv rfl

/-- The admission is stopped after the check and before the transition, which is stored. -/
theorem transition_after_stop :
    (∀ k envs, reviewCalls[k]? = some envs → Along (browserHandle reviewListener) (fun _ => Unforged reviewListener) []
      envs (processOne reviewListener) (browserAt reviewListener {} reviewCalls k)) ∧
    ∃ correlationId capability args, .transition correlationId true capability args true ∈
      (browserAt reviewListener {} reviewCalls 2).history := by
  obtain ⟨hunforged, hlate⟩ := review_unforged
  obtain ⟨e, he, hstored⟩ := List.any_eq_true.1 hlate
  refine ⟨hunforged, ?_⟩
  cases e with
  | transition correlationId stopped capability args created =>
    obtain ⟨rfl, rfl⟩ : stopped = true ∧ created = true := by simpa [BrowserEntry.late] using hstored
    exact ⟨correlationId, capability, args, he⟩
  | _ => cases hstored

end ThreatFusion.Browser
