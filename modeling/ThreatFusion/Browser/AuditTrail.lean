import ThreatFusion.Browser.Listener
import ThreatFusion.Alerts.Identity
/-
# The audit trail of the browser listener

An admitted request is to leave two events, and which exit of `process_one` it takes decides the second. A
call of `process_one` leaves one `Segment`, under a new correlation identifier; the trail of a run is made of
them (`Trail`), and such a trail is complete.

* `Trailed`: the condition on each call that the program makes. Six exits are outside it: admission found
  stopped or the listener closed after the event (:675), a token of 64 characters that are not all ASCII
  (:792), the alert not found (:876), a page of the stored state that cannot be made (:911-933), a view that
  does not answer after the transition was stored (:912), and a page of a GET that cannot be sent (:974).
* `leaves_…`: what each part of the program leaves.
* `audit_complete`: every run.
-/
namespace ThreatFusion.Browser
open Py Analyst Concurrency Concurrency.Program

/-- The transitions that were stored, by the request of each. -/
def storedOf (history : List BrowserEntry) : List String :=
  history.filterMap fun
    | .transition correlationId _ _ _ true => some correlationId
    | _ => none

/-- What is asked of the trail with these events, when the transitions of these requests are stored. -/
structure AuditComplete (es : List AuditEvent) (ids : List String) : Prop where
  /-- After a `request_admitted` comes exactly one other event of its request. -/
  terminal : ∀ before e after, es = before ++ e :: after → e.kind = .requestAdmitted →
    after.countP (fun t => decide (t.correlationId = e.correlationId ∧ t.kind ≠ .requestAdmitted)) = 1
  completed : ∀ e ∈ es, e.kind = .requestCompleted → ∀ t ∈ es, t.correlationId = e.correlationId →
    t.kind ≠ .internalFailure
  stored : ∀ id ∈ ids, (∃ e ∈ es, e.kind = .requestAdmitted ∧ e.correlationId = id) ∧
    ∃ e ∈ es, e.kind = .requestCompleted ∧ e.correlationId = id

section
variable (L : BrowserListener)

/-- The page of these answers can be made. -/
def Renders (id : String) (role : AnalystRole) (items : List L.Item) (detail : Option L.Detail) : Prop :=
  (∃ ids, parseAll L items = .ok ids) ∧ (∃ selected, parseSelected L (detail.map (L.augment id)) = .ok selected) ∧
    ∃ fill, L.render items (detail.map (L.augment id)) .active role = .ok fill

/-- The condition on one call, in the world that it finds. -/
def Trailed (c : BrowserCall) (env : BrowserEnv L) (w : BrowserWorld) : Prop :=
  match c with
  | .append _ => env.auditFault = false
  | .uuid => ∀ e ∈ auditOf w.history, e.correlationId ≠ env.uuid
  | .check true listener => (found L env w).listener = some listener ∧ (found L env w).stopped = false
  | .verify token _ => token.length = 64 → token.toList.all (·.toNat < 128) = true
  | .transition _ capability args =>
    (Analyst.transition L.printable ⟨L.authorization, some capability, args⟩ env.analyst (found L env w).analyst).1 ≠
      .error .alertCandidateNotFound
  | .refresh correlationId capability id =>
    (∀ items detail, env.items = some items → env.detail = some detail → Renders L id capability.role items detail) ∧
      (correlationId ∈ storedOf w.history → env.items ≠ none ∧ env.detail ≠ none)
  | .send true _ => env.sendFault = false
  | _ => True

/-- The trail so far. -/
structure Logged (es : List AuditEvent) (ids : List String) (w : BrowserWorld) : Prop where
  audit : auditOf w.history = es
  stored : storedOf w.history = ids
  analyst : WorldOk L.printable w.analyst

/-- From any world with this trail, the program ends in one whose trail is as `Q` says. -/
def Leaves (p : BrowserProgram L) (es : List AuditEvent) (ids : List String)
    (Q : List AuditEvent → List String → Prop) : Prop :=
  ∀ w, Logged L es ids w → Ensures (browserHandle L) (Trailed L) p w fun _ w' => ∃ es' ids', Logged L es' ids' w' ∧ Q es' ids'

end

section
variable {L : BrowserListener} {es : List AuditEvent} {ids : List String} {w : BrowserWorld}

theorem Logged.note {e : BrowserEntry} (h : Logged L es ids w) (hevent : ∀ a, e ≠ .audited a)
    (hstored : ∀ id stopped capability args, e ≠ .transition id stopped capability args true) :
    Logged L es ids (w.note e) := by
  have haudit : auditOf [e] = [] := by
    cases e with
    | audited a => exact absurd rfl (hevent a)
    | _ => rfl
  have hids : storedOf [e] = [] := by
    cases e with
    | transition id stopped capability args created =>
      cases created with
      | true => exact absurd rfl (hstored id stopped capability args)
      | false => rfl
    | _ => rfl
  constructor
  · rw [← h.audit]
    exact (List.filterMap_append ..).trans (by rw [← auditOf, ← auditOf, haudit, List.append_nil])
  · rw [← h.stored]
    exact (List.filterMap_append ..).trans (by rw [← storedOf, ← storedOf, hids, List.append_nil])
  · exact h.analyst

theorem Logged.outside (h : Logged L es ids w) (o : Outside) : Logged L es ids (actOutside L.printable w o) := by
  have hnote : Logged L es ids (w.note (.outside o)) := h.note (fun _ h => by cases h) fun _ _ _ _ h => by cases h
  cases o with
  | stopAdmission | close => exact ⟨hnote.audit, hnote.stored, hnote.analyst⟩
  | reopen =>
    simp only [actOutside]
    split
    · exact hnote
    · exact ⟨hnote.audit, hnote.stored, hnote.analyst⟩
  | workflow input => exact ⟨hnote.audit, hnote.stored, (workflowStep_ok input hnote.analyst).1⟩

theorem Logged.found (h : Logged L es ids w) (env : BrowserEnv L) : Logged L es ids (found L env w) := by
  unfold Browser.found
  induction env.outside generalizing w with
  | nil => exact h
  | cons o os ih => exact ih (h.outside o)

/-- A call that adds nothing to the trail. -/
def BrowserCall.quiet : BrowserCall → Bool
  | .append _ | .transition _ _ _ => false
  | _ => true

theorem Logged.reply (h : Logged L es ids w) (env : BrowserEnv L) {c : BrowserCall} (hquiet : c.quiet = true) :
    Logged L es ids (browserReply L env w c).2 := by
  have hnote : ∀ e : BrowserEntry, (∀ a, e ≠ .audited a) →
      (∀ id stopped capability args, e ≠ .transition id stopped capability args true) → Logged L es ids (w.note e) :=
    fun e => h.note
  cases c with
  | append | transition => cases hquiet
  | accept =>
    simp only [browserReply]
    split
    · exact h
    · split <;> exact h
  | read =>
    simp only [browserReply]
    split
    · exact hnote _ (fun _ h => by cases h) fun _ _ _ _ h => by cases h
    · exact h
  | check | authenticate | authorize | port | verify | send =>
    exact hnote _ (fun _ h => by cases h) fun _ _ _ _ h => by cases h
  | wrap | handshake | uuid | listAlerts | getAlert | refresh => exact h

variable {Q : List AuditEvent → List String → Prop}

theorem Leaves.done {r : Except BrowserExn Unit} (h : Q es ids) : Leaves L (.done r) es ids Q :=
  fun _ hw => Ensures.done ⟨es, ids, hw, h⟩

theorem Leaves.call {c : BrowserCall} {next : c.Reply L → BrowserProgram L}
    (h : ∀ env w, Logged L es ids w → Trailed L c env w →
      ∃ es' ids', Logged L es' ids' (browserReply L env (found L env w) c).2 ∧
        Leaves L (next (browserReply L env (found L env w) c).1) es' ids' Q) :
    Leaves L (.call c next) es ids Q := by
  intro w hw
  apply Ensures.call
  · intro env a w' hc hreply
    obtain ⟨es', ids', hlogged, hrest⟩ := h env w hw hc
    cases hreply
    exact hrest _ hlogged
  · intro env e w' hc hreply
    cases hreply

theorem Leaves.quiet {c : BrowserCall} {next : c.Reply L → BrowserProgram L} (hquiet : c.quiet = true)
    (h : ∀ env w, Logged L es ids w → Trailed L c env w →
      Leaves L (next (browserReply L env (found L env w) c).1) es ids Q) : Leaves L (.call c next) es ids Q :=
  .call fun env w hw hc => ⟨es, ids, (hw.found env).reply env hquiet, h env w hw hc⟩

/-- A call whose answer does not matter. -/
theorem Leaves.anyway {c : BrowserCall} {next : c.Reply L → BrowserProgram L} (hquiet : c.quiet = true)
    (h : ∀ a, Leaves L (next a) es ids Q) : Leaves L (.call c next) es ids Q :=
  .quiet hquiet fun _ _ _ _ => h _

theorem Leaves.append {event : AuditEvent} {next : Bool → BrowserProgram L}
    (h : Leaves L (next true) (es ++ [event]) ids Q) : Leaves L (.call (.append event) next) es ids Q := by
  refine .call fun env w hw hc => ⟨es ++ [event], ids, ?_, ?_⟩
  · have hfound := hw.found env
    have hfault : env.auditFault = false := hc
    simp only [browserReply, hfault, Bool.false_eq_true, if_false]
    exact ⟨(List.filterMap_append ..).trans (congrArg (· ++ [event]) hfound.audit),
      (List.filterMap_append ..).trans ((List.append_nil _).trans hfound.stored), hfound.analyst⟩
  · have hfault : env.auditFault = false := hc
    simp only [browserReply, hfault, Bool.false_eq_true, if_false]
    exact h

theorem Leaves.mono {p : BrowserProgram L} {Q' : List AuditEvent → List String → Prop} (h : Leaves L p es ids Q)
    (hQ : ∀ es' ids', Q es' ids' → Q' es' ids') : Leaves L p es ids Q' := fun w hw =>
  (h w hw).mono fun _ _ ⟨es', ids', hlogged, hq⟩ => ⟨es', ids', hlogged, hQ es' ids' hq⟩

/-! ### The answers -/

theorem leaves_leaving (e : BrowserExn) (h : Q es ids) : Leaves L (leaving L e) es ids Q := by
  unfold leaving
  split <;> exact .done h

theorem leaves_answering (r : Response) (h : Q es ids) : Leaves L (answering L r) es ids Q :=
  .anyway rfl fun sent : Bool => by
    cases sent with
    | true => exact .done h
    | false => exact leaves_leaving .os h

theorem leaves_rejecting (event : AuditEvent) (r : Response) (h : Q (es ++ [event]) ids) :
    Leaves L (rejecting L event r) es ids Q :=
  .append (leaves_answering r h)


/-! ### A transition -/

theorem viewCode_notFound {e : AnalystStateError} (h : viewCode e = "alert_candidate_not_found") :
    e = .alertCandidateNotFound := by
  cases e with
  | alertCandidateNotFound => rfl
  | _ => exact absurd h (by decide)

/-- The view refuses, repeats what was stored, or stores. -/
theorem leaves_transition {correlationId : String} {capability : AnalystCapability} {args : TransitionArgs}
    {next : Except String Unit → BrowserProgram L}
    (hrefused : ∀ code, code ≠ "alert_candidate_not_found" → Leaves L (next (.error code)) es ids Q)
    (hrepeated : Leaves L (next (.ok ())) es ids Q)
    (hcreated : Leaves L (next (.ok ())) es (ids ++ [correlationId]) Q) :
    Leaves L (.call (.transition correlationId capability args) next) es ids Q := by
  refine .call fun env w hw hfinds => ?_
  have hfound := hw.found env
  have hfalse : Logged L es ids
      ((found L env w).note (.transition correlationId (found L env w).stopped capability args false)) :=
    hfound.note (fun _ h => by cases h) fun _ _ _ _ h => by cases h
  simp only [browserReply]
  cases viewTransition_cases hfound.analyst env.analyst correlationId capability args with
  | refused e hraised h =>
    rw [h]
    refine ⟨es, ids, hfalse, hrefused _ fun hcode => hfinds ?_⟩
    rw [hraised, viewCode_notFound hcode]
  | repeated row _ _ h =>
    rw [h]
    exact ⟨es, ids, hfalse, hrepeated⟩
  | created row db _ _ hok h =>
    rw [h]
    refine ⟨es, ids ++ [correlationId], ⟨?_, ?_, hok⟩, hcreated⟩
    · exact (List.filterMap_append ..).trans ((List.append_nil _).trans hfound.audit)
    · exact (List.filterMap_append ..).trans (congrArg (· ++ [correlationId]) hfound.stored)

/-! ### The two halves under the lock -/

/-- After the admission: one more event, which is `request_completed` if a transition was stored. -/
def Ended (correlationId : String) (es : List AuditEvent) (ids : List String) (es' : List AuditEvent)
    (ids' : List String) : Prop :=
  ∃ t, t.correlationId = correlationId ∧ t.kind ≠ .requestAdmitted ∧ es' = es ++ [t] ∧
    (ids' = ids ∨ ids' = ids ++ [correlationId] ∧ t.kind = .requestCompleted)

variable {x : Exchange} {actorId : String} {capability : AnalystCapability}

theorem ended_event {kind : AuditKind} (h : kind ≠ .requestAdmitted) :
    Ended x.correlationId es ids (es ++ [x.event L kind actorId]) ids :=
  ⟨_, rfl, h, rfl, .inl rfl⟩

theorem ended_completed {ids' : List String} (h : ids' = ids ∨ ids' = ids ++ [x.correlationId]) :
    Ended x.correlationId es ids (es ++ [x.event L .requestCompleted actorId]) ids' :=
  ⟨_, rfl, fun h => (by cases h), rfl, h.imp_right fun h => ⟨h, rfl⟩⟩

theorem leaves_refused {code : String} (hcode : code ≠ "alert_candidate_not_found") :
    Leaves L (refused L x actorId code) es ids (Ended x.correlationId es ids) := by
  unfold refused
  split
  · exact leaves_rejecting _ _ (ended_event nofun)
  split
  · exact leaves_rejecting _ _ (ended_event nofun)
  split <;> exact leaves_rejecting _ _ (ended_event nofun)

theorem leaves_updated {items : List L.Item} {detail : Option L.Detail} {id : String} {ids' : List String}
    (hids : ids' = ids ∨ ids' = ids ++ [x.correlationId]) (hrenders : Renders L id capability.role items detail) :
    Leaves L (updated L x actorId capability items (detail.map (L.augment id))) es ids'
      (Ended x.correlationId es ids) := by
  obtain ⟨⟨_, hitems⟩, ⟨selected, hselected⟩, fill, hfill⟩ := hrenders
  unfold updated
  simp only [hitems, hselected, hfill]
  refine .anyway rfl fun id : String => .append ?_
  rw [if_pos rfl]
  have hended : Ended x.correlationId es ids (es ++ [x.event L .requestCompleted actorId]) ids' := ended_completed hids
  split
  · exact leaves_leaving _ hended
  · exact leaves_answering _ hended

/-- After a transition that was stored, the readers answer. -/
theorem leaves_refresh {correlationId id : String} {next : Option (List L.Item × Option L.Detail) → BrowserProgram L}
    (hnone : correlationId ∉ ids → Leaves L (next none) es ids Q)
    (hsome : ∀ items detail, Renders L id capability.role items detail → Leaves L (next (some (items, detail))) es ids Q) :
    Leaves L (.call (.refresh correlationId capability id) next) es ids Q := by
  refine .quiet rfl fun env w hw hc => ?_
  obtain ⟨hrenders, hanswered⟩ := hc
  rw [hw.stored] at hanswered
  simp only [browserReply]
  cases hitems : env.items with
  | none => exact hnone fun hid => (hanswered hid).1 hitems
  | some items => cases hdetail : env.detail with
    | none => exact hnone fun hid => (hanswered hid).2 hdetail
    | some detail => exact hsome items detail (hrenders items detail hitems hdetail)

theorem leaves_transitioning {alertCandidateId : String} {args : TransitionArgs} :
    Leaves L (transitioning L x actorId capability alertCandidateId args) es ids (Ended x.correlationId es ids) := by
  unfold transitioning
  refine leaves_transition (fun code hcode => leaves_refused hcode) ?_ ?_
  · exact leaves_refresh (fun _ => leaves_rejecting _ _ (ended_event nofun)) fun _ _ h => leaves_updated (.inl rfl) h
  · have hmem : x.correlationId ∈ ids ++ [x.correlationId] := List.mem_append_right _ List.mem_cons_self
    exact leaves_refresh (fun hid => absurd hmem hid) fun _ _ h => leaves_updated (.inr rfl) h

theorem verifyCsrfToken_ok (hmac : Bytes → String) {token : String} (claim : CsrfClaim)
    (h : token.length = 64 → token.toList.all (·.toNat < 128) = true) :
    ∃ b, verifyCsrfToken hmac token claim = .ok b := by
  unfold verifyCsrfToken
  split
  · exact ⟨_, rfl⟩
  · rename_i hlength
    rw [h (not_not.1 hlength)]
    exact ⟨_, rfl⟩

theorem leaves_posting {alertCandidateId : String} :
    Leaves L (posting L x actorId capability alertCandidateId) es ids (Ended x.correlationId es ids) := by
  unfold posting
  split
  · exact leaves_rejecting _ _ (ended_event nofun)
  cases hform : readForm x.request.body with
  | none => exact leaves_rejecting _ _ (ended_event nofun)
  | some form =>
    simp only [intOfDigits_version hform]
    refine .quiet rfl fun env w _ hascii => ?_
    obtain ⟨b, hb⟩ := verifyCsrfToken_ok L.hmac (form.claim actorId alertCandidateId
      (digitsValue form.expectedVersion.1)) hascii
    simp only [browserReply, hb]
    cases b with
    | true => exact leaves_transitioning
    | false => exact leaves_rejecting _ _ (ended_event nofun)

/-- The page is made of calls that leave no event. -/
theorem leaves_showing {items : List L.Item} {detail : L.Detail} {k : Except BrowserExn Response → BrowserProgram L}
    (h : ∀ page, Leaves L (k page) es ids Q) : Leaves L (showing L capability items detail k) es ids Q := by
  unfold showing
  split
  · exact h _
  split
  · exact .anyway rfl fun _ => h _
  · exact h _

theorem leaves_dispatch {target : String} {k : Except BrowserExn Response → BrowserProgram L}
    (h : ∀ page, Leaves L (k page) es ids Q) : Leaves L (dispatch L capability target k) es ids Q := by
  unfold dispatch
  split
  · refine .anyway rfl fun items : Option (List L.Item) => ?_
    split
    · exact h _
    split
    · exact h _
    · exact h _
    refine .anyway rfl fun detail : Option (Option L.Detail) => ?_
    split
    · exact h _
    · exact h _
    · exact leaves_showing h
  split
  · refine .anyway rfl fun items : Option (List L.Item) => ?_
    split
    · exact h _
    refine .anyway rfl fun detail : Option (Option L.Detail) => ?_
    split
    · exact h _
    split
    · exact h _
    · exact h _
    · exact leaves_showing h
  · exact h _

theorem leaves_delivering (r : Response) (h : Q es ids) : Leaves L (delivering L x actorId r) es ids Q :=
  .quiet rfl fun env w _ hsent => by
    have hsent : env.sendFault = false := hsent
    simp only [browserReply, hsent, Bool.not_false, if_true]
    exact .done h

theorem leaves_getting : Leaves L (getting L x actorId capability) es ids (Ended x.correlationId es ids) := by
  refine leaves_dispatch fun page => ?_
  cases page with
  | error e => exact leaves_rejecting _ _ (ended_event nofun)
  | ok r =>
    rw [dispatched]
    split
    · refine .append ?_
      rw [if_pos rfl]
      exact leaves_delivering r (ended_event nofun)
    · refine .append ?_
      exact leaves_delivering _ (ended_event nofun)

/-- Admission is still open after the event. -/
theorem leaves_locked {target : Option String} :
    Leaves L (locked L x actorId target) es ids (Ended x.correlationId es ids) := by
  refine .quiet rfl fun env w _ hopen => ?_
  obtain ⟨hlistener, hstopped⟩ := hopen
  simp only [browserReply, hlistener, hstopped, beq_self_eq_true, Bool.not_false, Bool.and_self, Bool.not_true,
    Bool.false_eq_true, if_false]
  refine .anyway rfl fun again : Option String => ?_
  cases again with
  | none => exact leaves_rejecting _ _ (ended_event nofun)
  | some actorId =>
    refine .anyway rfl fun capability : Option AnalystCapability => ?_
    cases capability with
    | none => exact leaves_rejecting _ _ (ended_event nofun)
    | some capability => cases target with
      | none => exact leaves_getting
      | some id => exact leaves_posting

/-! ### One call and the next -/

/-- The events of one call: none, one that rejects, or an admission and its end. -/
inductive Segment (correlationId : String) : List AuditEvent → List String → Prop where
  | silent : Segment correlationId [] []
  | rejected (e : AuditEvent) (hid : e.correlationId = correlationId) (hkind : e.kind ≠ .requestAdmitted) :
    Segment correlationId [e] []
  | exchange (a t : AuditEvent) (ids : List String) (hid : a.correlationId = correlationId)
    (hid' : t.correlationId = correlationId) (hkind : a.kind = .requestAdmitted) (hkind' : t.kind ≠ .requestAdmitted)
    (hids : ids = [] ∨ ids = [correlationId] ∧ t.kind = .requestCompleted) : Segment correlationId [a, t] ids

/-- The trail of calls whose identifiers are all different. -/
inductive Trail : List AuditEvent → List String → Prop where
  | nil : Trail [] []
  | call {es : List AuditEvent} {ids : List String} (h : Trail es ids) (correlationId : String)
    (fresh : ∀ e ∈ es, e.correlationId ≠ correlationId) (seg : List AuditEvent) (stored : List String)
    (hseg : Segment correlationId seg stored) : Trail (es ++ seg) (ids ++ stored)

theorem Trail.rejected {correlationId : String} (htrail : Trail es ids)
    (hfresh : ∀ e ∈ es, e.correlationId ≠ correlationId) {e : AuditEvent} (hid : e.correlationId = correlationId)
    (hkind : e.kind ≠ .requestAdmitted) : Trail (es ++ [e]) ids := by
  have h := htrail.call correlationId hfresh [e] [] (.rejected e hid hkind)
  rwa [List.append_nil] at h

theorem leaves_admitting {target : Option String} (htrail : Trail es ids)
    (hfresh : ∀ e ∈ es, e.correlationId ≠ x.correlationId) : Leaves L (admitting L x actorId target) es ids Trail := by
  refine .append ?_
  rw [if_pos rfl]
  refine leaves_locked.mono fun es' ids' hended => ?_
  obtain ⟨t, hid, hkind, rfl, hids⟩ := hended
  rw [List.append_assoc]
  have hcall : ∀ stored, (stored = [] ∨ stored = [x.correlationId] ∧ t.kind = .requestCompleted) →
      Trail (es ++ [x.event L .requestAdmitted actorId, t]) (ids ++ stored) := fun stored hstored =>
    htrail.call x.correlationId hfresh _ stored (.exchange _ t stored rfl hid rfl hkind hstored)
  rcases hids with rfl | ⟨rfl, hcompleted⟩
  · rw [← List.append_nil ids']
    exact hcall [] (.inl rfl)
  · exact hcall _ (.inr ⟨rfl, hcompleted⟩)

theorem leaves_received (htrail : Trail es ids) (hfresh : ∀ e ∈ es, e.correlationId ≠ x.correlationId) :
    Leaves L (received L x actorId) es ids Trail := by
  unfold received
  split
  · exact leaves_admitting htrail hfresh
  split
  · exact leaves_rejecting _ _ (htrail.rejected hfresh rfl nofun)
  refine .anyway rfl fun port : Nat => ?_
  split
  · exact leaves_admitting htrail hfresh
  · exact leaves_rejecting _ _ (htrail.rejected hfresh rfl nofun)

theorem leaves_identified {listener : Nat} {peer : Peer} {correlationId : String} (htrail : Trail es ids)
    (hfresh : ∀ e ∈ es, e.correlationId ≠ correlationId) :
    Leaves L (identified L listener peer correlationId) es ids Trail := by
  refine .anyway rfl fun actorId : Option String => ?_
  cases actorId with
  | none => exact leaves_rejecting _ _ (htrail.rejected hfresh rfl nofun)
  | some actorId =>
    refine .anyway rfl fun capability : Option AnalystCapability => ?_
    cases capability with
    | none => exact leaves_rejecting _ _ (htrail.rejected hfresh rfl nofun)
    | some capability =>
      refine .anyway rfl fun request : Except ReadError BrowserRequest => ?_
      cases request with
      | ok request => exact leaves_received htrail hfresh
      | error e => cases e with
        | connectionIdle => exact .done htrail
        | requestInvalid => exact leaves_rejecting _ _ (htrail.rejected hfresh rfl nofun)
        | valueError => exact leaves_leaving _ htrail

theorem leaves_shaking {listener : Nat} (htrail : Trail es ids) : Leaves L (shaking L listener) es ids Trail := by
  refine .anyway rfl fun wrapped : Bool => ?_
  split
  · exact leaves_leaving _ htrail
  refine .anyway rfl fun passed : Bool => ?_
  split
  · exact .done htrail
  refine .anyway rfl fun handshake : Handshake => ?_
  cases handshake with
  | failed => exact leaves_leaving _ htrail
  | otherVersion => exact .done htrail
  | peer peer =>
    refine .quiet rfl fun env w hw hfresh => ?_
    simp only [Trailed, hw.audit] at hfresh
    exact leaves_identified htrail hfresh

theorem leaves_processOne (htrail : Trail es ids) : Leaves L (processOne L) es ids Trail := by
  refine .anyway rfl fun accepted : Accept => ?_
  cases accepted with
  | unavailable | failed => exact leaves_leaving _ htrail
  | foreign => exact .done htrail
  | loopback listener =>
    refine .anyway rfl fun passed : Bool => ?_
    split
    · exact leaves_shaking htrail
    · exact .done htrail

end

/-! ### The trail is complete -/

section
variable {es : List AuditEvent} {ids : List String}

theorem Segment.correlation {correlationId : String} {seg : List AuditEvent} {stored : List String}
    (h : Segment correlationId seg stored) : ∀ e ∈ seg, e.correlationId = correlationId := by
  cases h with
  | silent => exact nofun
  | rejected e hid _ => simpa using hid
  | exchange a t stored hid hid' _ _ _ => simp [hid, hid']

/-- A segment alone is complete. -/
theorem Segment.complete {correlationId : String} {seg : List AuditEvent} {stored : List String}
    (h : Segment correlationId seg stored) : AuditComplete seg stored := by
  cases h with
  | silent => exact ⟨by simp, fun _ h => absurd h List.not_mem_nil, fun _ h => absurd h List.not_mem_nil⟩
  | rejected e hid hkind =>
    refine ⟨fun before a after hsplit ha => ?_, ?_, fun _ h => absurd h List.not_mem_nil⟩
    · rcases before with _ | ⟨b, before⟩
      · exact absurd ((List.cons.inj hsplit).1 ▸ ha) hkind
      · simp at hsplit
    · simp only [List.mem_singleton, forall_eq]
      exact fun hdone _ => by simp [hdone]
  | exchange a t stored hid hid' hkind hkind' hids =>
    refine ⟨fun before e after hsplit he => ?_, ?_, fun id hmem => ?_⟩
    · rcases before with _ | ⟨b, before⟩
      · obtain ⟨rfl, rfl⟩ := List.cons.inj hsplit
        simp [hid, hid', hkind']
      · rcases before with _ | ⟨b', before⟩
        · obtain ⟨rfl, -⟩ := List.cons.inj (List.cons.inj hsplit).2
          exact absurd he hkind'
        · simp at hsplit
    · simp only [List.mem_cons, List.not_mem_nil, or_false, forall_eq_or_imp, forall_eq, hkind]
      have hother : AuditKind.requestAdmitted ≠ .requestCompleted := by decide
      have hsame : AuditKind.requestAdmitted ≠ .internalFailure := by decide
      exact ⟨fun h => absurd h hother, fun hdone => ⟨fun _ => hsame, fun _ => by simp [hdone]⟩⟩
    · rcases hids with rfl | ⟨rfl, hdone⟩
      · cases hmem
      · obtain rfl := List.mem_singleton.1 hmem
        exact ⟨⟨a, by simp, hkind, hid⟩, ⟨t, by simp, hdone, hid'⟩⟩

/-- Two trails with no identifier in common. -/
theorem AuditComplete.append {seg : List AuditEvent} {stored : List String} (h : AuditComplete es ids)
    (hseg : AuditComplete seg stored) (hapart : ∀ e ∈ es, ∀ s ∈ seg, e.correlationId ≠ s.correlationId) :
    AuditComplete (es ++ seg) (ids ++ stored) := by
  constructor
  · intro before e after hsplit he
    rcases List.append_eq_append_iff.1 hsplit with ⟨mid, rfl, htail⟩ | ⟨mid, hbefore, htail⟩
    · exact hseg.terminal mid e after htail he
    · rcases mid with _ | ⟨m, mid⟩
      · exact hseg.terminal [] e after htail.symm he
      · obtain ⟨rfl, rfl⟩ : e = m ∧ after = mid ++ seg := List.cons.inj htail
        have hnone : seg.countP (fun t => decide (t.correlationId = e.correlationId ∧ t.kind ≠ .requestAdmitted)) = 0 := by
          rw [List.countP_eq_zero]
          intro t ht
          have hother := hapart e (hbefore ▸ List.mem_append_right _ List.mem_cons_self) t ht
          simp [Ne.symm hother]
        rw [List.countP_append, hnone]
        exact h.terminal before e mid hbefore he
  · intro e he hdone t ht hid
    rcases List.mem_append.1 he, List.mem_append.1 ht with ⟨he | he, ht | ht⟩
    · exact h.completed e he hdone t ht hid
    · exact absurd hid.symm (hapart e he t ht)
    · exact absurd hid (hapart t ht e he)
    · exact hseg.completed e he hdone t ht hid
  · intro id hid
    rcases List.mem_append.1 hid with hid | hid
    · obtain ⟨⟨a, ha, hadmitted⟩, t, ht, hdone⟩ := h.stored id hid
      exact ⟨⟨a, List.mem_append_left _ ha, hadmitted⟩, t, List.mem_append_left _ ht, hdone⟩
    · obtain ⟨⟨a, ha, hadmitted⟩, t, ht, hdone⟩ := hseg.stored id hid
      exact ⟨⟨a, List.mem_append_right _ ha, hadmitted⟩, t, List.mem_append_right _ ht, hdone⟩

theorem Trail.complete (h : Trail es ids) : AuditComplete es ids := by
  induction h with
  | nil => exact (Segment.silent : Segment "" [] []).complete
  | call _ correlationId hfresh seg stored hseg ih =>
    exact ih.append hseg.complete fun e he s hs => hseg.correlation s hs ▸ hfresh e he

end

section
variable (L : BrowserListener) (calls : List (Nat → BrowserEnv L))

/-- The trail after each call of a run. -/
theorem trail_run
    (h : ∀ k envs, calls[k]? = some envs →
      Along (browserHandle L) (fun _ => Trailed L) [] envs (processOne L) (browserAt L {} calls k)) (k : Nat) :
    ∃ es ids, Logged L es ids (browserAt L {} calls k) ∧ Trail es ids :=
  Machine.stateAt_inv_of (I := fun w => ∃ es ids, Logged L es ids w ∧ Trail es ids)
    (fun w envs ⟨_, _, hlogged, htrail⟩ hcall => leaves_processOne htrail w hlogged [] envs hcall)
    ⟨[], [], ⟨rfl, rfl, worldOk_empty⟩, .nil⟩ h k

theorem audit_complete
    (h : ∀ k envs, calls[k]? = some envs →
      Along (browserHandle L) (fun _ => Trailed L) [] envs (processOne L) (browserAt L {} calls k)) (k : Nat) :
    AuditComplete (auditOf (browserAt L {} calls k).history) (storedOf (browserAt L {} calls k).history) := by
  obtain ⟨es, ids, hlogged, htrail⟩ := trail_run L calls h k
  rw [hlogged.audit, hlogged.stored]
  exact htrail.complete

end
/-! ## A page that cannot be sent -/

/-- No append fails, and a new identifier is new. -/
def faultless (L : BrowserListener) (c : BrowserCall) (env : BrowserEnv L) (w : BrowserWorld) : Bool :=
  match c with
  | .append _ => !env.auditFault
  | .uuid => (auditOf w.history).all (·.correlationId != env.uuid)
  | _ => true

def sampleDer : Bytes := [48, 3, 2, 1, 1]

theorem midnight : 0 < 24 ∧ 0 < 60 ∧ 0 < 60 ∧ 0 < 1000000 := by decide

theorem sampleActor_valid : validActorId "analyst-1" = true := by decide

def sampleNow : DateTime := ⟨2026, 6, 2, 9, 30, 0, 0, by decide, by decide⟩

def sampleListener : BrowserListener where
  Item := String
  Detail := String × Nat
  parseSummary := .ok
  augment _ detail := detail
  parseDetail := .ok
  render _ _ _ _ := .ok fun _ => "<html></html>"
  sha256 := Alerts.tableDigest [(sampleDer, "1b65f68a522c858715f5dd951cd0402dc16691778814bf0759822b7a257421d0")]
  hmac := Alerts.tableDigest []
  printable c := 32 ≤ c.toNat ∧ c.toNat < 127
  credentials :=
    { records :=
        [{ actorId := "analyst-1"
           certificateSha256 := "1b65f68a522c858715f5dd951cd0402dc16691778814bf0759822b7a257421d0"
           enabled := true, revoked := false
           notBefore := ⟨2026, 4, 1, 0, 0, 0, 0, by decide, midnight⟩
           notAfter := ⟨2027, 4, 1, 0, 0, 0, 0, by decide, midnight⟩
           actor_valid := sampleActor_valid, sha_valid := by decide, ordered := by decide }]
      size := by decide, distinct := by decide }
  authorization := sampleRegistry
  bindPort := 8443

/-- A browser asks for an icon. -/
def faviconEnv (sendFault : Bool) (n : Nat) : BrowserEnv sampleListener where
  outside := if n = 0 then [.reopen] else []
  handshake := .peer ⟨sampleDer, some [("URI", "urn:threatfusion:human:analyst-1")]⟩
  uuid := "5e0c7d1a-93b2-4f68-8a41-c7d20e9f6b35"
  now := sampleNow
  port := 8443
  turns := [.chunk (utf8 "GET /favicon.ico HTTP/1.1\r\nHost: 127.0.0.1:8443\r\n\r\n")]
  analyst := sampleEnv
  sendFault

/-- A check that is enough for `Trailed` on the calls of this request. -/
def trailedCheck (L : BrowserListener) (c : BrowserCall) (env : BrowserEnv L) (w : BrowserWorld) : Bool :=
  faultless L c env w && match c with
    | .check true listener => (found L env w).listener == some listener && !(found L env w).stopped
    | .verify _ _ | .transition _ _ _ | .refresh _ _ _ => false
    | .send true _ => !env.sendFault
    | _ => true

theorem trailed_of_check {L : BrowserListener} {c : BrowserCall} {env : BrowserEnv L} {w : BrowserWorld}
    (h : trailedCheck L c env w = true) : Trailed L c env w := by
  cases c with
  | append e => simpa [Trailed, trailedCheck, faultless] using h
  | uuid => simpa [Trailed, trailedCheck, faultless] using h
  | check admitted listener =>
    cases admitted with
    | true => simpa [Trailed, trailedCheck, faultless] using h
    | false => trivial
  | send guarded r =>
    cases guarded with
    | true => simpa [Trailed, trailedCheck, faultless] using h
    | false => trivial
  | verify | transition | refresh => simp [trailedCheck] at h
  | accept | wrap | handshake | authenticate | authorize | read | port | listAlerts | getAlert => trivial

/-- The icon is not found, and the answer says so. -/
theorem audit_complete_favicon : AuditComplete (auditOf (browserAt sampleListener {} [faviconEnv false] 1).history)
    (storedOf (browserAt sampleListener {} [faviconEnv false] 1).history) :=
  audit_complete sampleListener [faviconEnv false] (fun k envs hk => by
    cases k with
    | zero =>
      obtain rfl := Option.some.inj hk
      have hcheck : alongCheck (browserHandle sampleListener) (fun _ => trailedCheck sampleListener) []
          (faviconEnv false) (processOne sampleListener) {} = true := by decide +kernel
      exact along_of_check (fun _ _ _ _ => trailed_of_check) _ _ _ _ hcheck
    | succ k => cases hk) 1

/-- The connection breaks while the answer is sent, after `request_completed` was appended. -/
theorem audit_incomplete_favicon :
    Along (browserHandle sampleListener) (fun _ c env w => faultless sampleListener c env w = true) [] (faviconEnv true)
      (processOne sampleListener) {} ∧
    ¬ AuditComplete (auditOf (browserAt sampleListener {} [faviconEnv true] 1).history)
        (storedOf (browserAt sampleListener {} [faviconEnv true] 1).history) := by
  constructor
  · have hcheck : alongCheck (browserHandle sampleListener) (fun _ => faultless sampleListener) []
        (faviconEnv true) (processOne sampleListener) {} = true := by decide +kernel
    exact along_of_check (fun _ _ _ _ h => h) _ _ _ _ hcheck
  · intro h
    have hkinds : (auditOf (browserAt sampleListener {} [faviconEnv true] 1).history).map
        (fun e => (e.kind, e.correlationId)) =
      [(.requestAdmitted, "5e0c7d1a-93b2-4f68-8a41-c7d20e9f6b35"),
        (.requestCompleted, "5e0c7d1a-93b2-4f68-8a41-c7d20e9f6b35"),
        (.internalFailure, "5e0c7d1a-93b2-4f68-8a41-c7d20e9f6b35")] := by decide +kernel
    obtain ⟨a, _, hes, ha, hrest⟩ := List.map_eq_cons_iff.1 hkinds
    obtain ⟨b, _, rfl, hb, hrest⟩ := List.map_eq_cons_iff.1 hrest
    obtain ⟨c, _, rfl, hc, hrest⟩ := List.map_eq_cons_iff.1 hrest
    rw [hes] at h
    obtain ⟨hkindb, hidb⟩ := Prod.mk.inj hb
    obtain ⟨hkindc, hidc⟩ := Prod.mk.inj hc
    exact h.completed b (by simp) hkindb c (by simp) (hidc.trans hidb.symm) hkindc

end ThreatFusion.Browser
