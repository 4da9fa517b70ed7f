import ThreatFusion.Browser.AuditTrail
/-
# A request that stops the service (`operations/human_listener_lifecycle.py`:91-104)

The worker of the browser listener calls `process_one` in a loop, and any exception ends the loop and the
lifecycle with it. `process_one` drops `OSError` and `AnalystTlsError`; what else its body can raise comes
from three calls.

* `Harmless`: the condition on each call. Outside it are a `Content-Length` of more than 4300 digits, which
  `int()` refuses (:301), a token of 64 characters that are not all ASCII, which `compare_digest` refuses
  (:166), and answers of the view from which the page after a transition cannot be made (:922-954). The page
  of a GET is made inside `except Exception`.
* `processOne_returns_iff`: one call.
* `serve_survives`: the loop.
-/
namespace ThreatFusion.Browser
open Py Analyst Concurrency Concurrency.Program

section
variable (L : BrowserListener)

/-- What reaches `int()` as the length has too many digits for it. -/
structure OverlongLength (port : Nat) (turns : List Recv) (target : String) (headers : List (String × String)) :
    Prop where
  head : ∃ head initialBody rest, readHead [] turns = .ok (head, initialBody, rest) ∧
    parseHead head = some (.post, target, headers)
  whole : (headers.lookup "transfer-encoding").isNone = true
  host : (headers.lookup "host").any (expectedHosts port).contains = true
  form : isFormType ((headers.lookup "content-type").getD "") = true
  digits : isDigits ((headers.lookup "content-length").getD "") = true
  overlong : INT_MAX_STR_DIGITS < ((headers.lookup "content-length").getD "").length

/-- The exception of the page after a transition. -/
def pageRaises (id : String) (role : AnalystRole) (items : List L.Item) (detail : Option L.Detail) :
    Option BrowserExn :=
  match parseAll L items, parseSelected L (detail.map (L.augment id)) with
  | .error e, _ | .ok _, .error e => some e
  | .ok _, .ok _ => match L.render items (detail.map (L.augment id)) .active role with
    | .error e => some e
    | .ok _ => none

/-- The condition on one call, in the world that it finds. -/
def Harmless (c : BrowserCall) (env : BrowserEnv L) (w : BrowserWorld) : Prop :=
  match c with
  | .read => ∀ target headers, ¬ OverlongLength (actualPort L env.port (found L env w)) env.turns target headers
  | .verify token _ => token.length = 64 → token.toList.all (·.toNat < 128) = true
  | .refresh _ capability id => ∀ items detail, env.items = some items → env.detail = some detail →
    ∀ e, pageRaises L id capability.role items detail = some e → e = .os ∨ e = .tls
  | _ => True

end

/-! ## Reading a request -/

theorem readHead_error {buffer : Bytes} {turns : List Recv} {e : ReadError} (h : readHead buffer turns = .error e) :
    e ≠ .valueError := by
  have hstarved : ∀ b : Bytes, starved b ≠ .valueError := by
    intro b
    unfold starved
    split <;> simp
  induction turns generalizing buffer with
  | nil =>
    unfold readHead at h
    split at h
    · cases h
    · rw [← Except.error.inj h]
      split
      · simp
      · exact hstarved _
  | cons turn turns ih =>
    unfold readHead at h
    split at h
    · cases h
    split at h
    · rw [← Except.error.inj h]
      simp
    split at h
    · rw [← Except.error.inj h]
      exact hstarved _
    · rw [← Except.error.inj h]
      exact hstarved _
    · dsimp only at h
      split at h
      · rw [← Except.error.inj h]
        exact hstarved _
      · exact ih h

theorem readBody_error {size : Nat} {body : Bytes} {turns : List Recv} {e : ReadError}
    (h : readBody size body turns = .error e) : e = .requestInvalid := by
  induction turns generalizing body with
  | nil =>
    unfold readBody at h
    split at h
    · exact (Except.error.inj h).symm
    · cases h
  | cons turn turns ih =>
    unfold readBody at h
    split at h
    · split at h
      · exact (Except.error.inj h).symm
      · exact (Except.error.inj h).symm
      · dsimp only at h
        split at h
        · exact (Except.error.inj h).symm
        · exact ih h
    · cases h

/-- A test that fails is no `ValueError`. -/
theorem require_bind_valueError {α : Type} {b : Bool} {f : Unit → Except ReadError α} :
    (require b >>= f) = .error .valueError ↔ b = true ∧ f () = .error .valueError := by
  cases b with
  | true => simp [require, Except.ok_bind]
  | false => simp [require, Except.error_bind]

theorem readGet_ne (port : Nat) (target : String) (headers : List (String × String)) (initialBody : Bytes) :
    readGet port target headers initialBody ≠ .error .valueError := by
  simp [readGet, require_bind_valueError]

theorem readPost_valueError {target : String} {headers : List (String × String)} {initialBody : Bytes}
    {turns : List Recv} : readPost target headers initialBody turns = .error .valueError ↔
      isFormType ((headers.lookup "content-type").getD "") = true ∧
      isDigits ((headers.lookup "content-length").getD "") = true ∧
      INT_MAX_STR_DIGITS < ((headers.lookup "content-length").getD "").length := by
  rw [readPost, require_bind_valueError, require_bind_valueError]
  refine and_congr_right fun _ => and_congr_right fun _ => ?_
  rw [intOfDigits]
  split
  · rename_i hlong
    simp [Except.error_bind, hlong]
  · rename_i hlong
    refine iff_of_false ?_ hlong
    rw [Except.ok_bind]
    split
    · intro h
      cases hbody : readBody (digitsValue ((headers.lookup "content-length").getD "")) initialBody turns with
      | error e =>
        rw [hbody, Except.error_bind] at h
        have := readBody_error hbody
        rw [Except.error.inj h] at this
        cases this
      | ok body =>
        rw [hbody, Except.ok_bind] at h
        split at h <;> cases h
    · simp

theorem readBrowserRequest_valueError {port : Nat} {turns : List Recv} :
    readBrowserRequest port turns = .error .valueError ↔ ∃ target headers, OverlongLength port turns target headers := by
  unfold readBrowserRequest
  cases hhead : readHead [] turns with
  | error e =>
    refine iff_of_false (fun h => readHead_error hhead (Except.error.inj h)) ?_
    rintro ⟨target, headers, ⟨_, _, _, hread, _⟩, _⟩
    rw [hhead] at hread
    cases hread
  | ok parts =>
    obtain ⟨head, initialBody, rest⟩ := parts
    dsimp only
    have hparts : ∀ {target headers}, OverlongLength port turns target headers →
        parseHead head = some (.post, target, headers) := by
      rintro target headers ⟨⟨_, _, _, hread, hparse⟩, _⟩
      rw [hhead] at hread
      cases hread
      exact hparse
    cases hparse : parseHead head with
    | none =>
      refine iff_of_false (by simp) ?_
      rintro ⟨target, headers, h⟩
      cases hparse.symm.trans (hparts h)
    | some request =>
      obtain ⟨method, target, headers⟩ := request
      dsimp only
      rw [require_bind_valueError, require_bind_valueError]
      constructor
      · rintro ⟨hwhole, hhost, h⟩
        cases method with
        | get => exact absurd h (readGet_ne _ _ _ _)
        | post =>
          obtain ⟨hform, hdigits, hlong⟩ := readPost_valueError.1 h
          exact ⟨target, headers, ⟨head, initialBody, rest, hhead, hparse⟩, hwhole, hhost, hform, hdigits, hlong⟩
      · rintro ⟨target', headers', h⟩
        obtain ⟨rfl, rfl, rfl⟩ : method = .post ∧ target = target' ∧ headers = headers' := by
          have := hparse.symm.trans (hparts h)
          simpa using this
        exact ⟨h.whole, h.host, readPost_valueError.2 ⟨h.form, h.digits, h.overlong⟩⟩

/-! ## One call -/

section
variable {L : BrowserListener} {x : Exchange} {actorId : String} {capability : AnalystCapability}

/-- The program returns exactly when all its calls are harmless. -/
def Returns (p : BrowserProgram L) : Prop := Exactly (browserHandle L) (Harmless L) (· = .ok ()) p

theorem Returns.call {c : BrowserCall} {next : c.Reply L → BrowserProgram L}
    (hgood : ∀ env w, Harmless L c env w → Returns (next (browserReply L env (found L env w) c).1))
    (hbad : ∀ env w, ¬ Harmless L c env w → ∀ envs w',
      (run (browserHandle L) envs (next (browserReply L env (found L env w) c).1) w').1 ≠ .ok ()) :
    Returns (.call c next) :=
  Exactly.call (fun env w => browserReply L env (found L env w) c) (fun _ _ => rfl) hgood hbad

/-- A call that is always harmless. -/
theorem Returns.anyway {c : BrowserCall} {next : c.Reply L → BrowserProgram L} (hc : ∀ env w, Harmless L c env w)
    (h : ∀ a, Returns (next a)) : Returns (.call c next) :=
  .call (fun _ _ _ => h _) fun env w hbad => absurd (hc env w) hbad

theorem returns_leaving {e : BrowserExn} (h : e = .os ∨ e = .tls) : Returns (leaving L e) := by
  rw [leaving, if_pos h]
  exact Exactly.done rfl

theorem run_leaving {e : BrowserExn} (h : ¬ (e = .os ∨ e = .tls)) (envs : Nat → BrowserEnv L) (w : BrowserWorld) :
    (run (browserHandle L) envs (leaving L e) w).1 ≠ .ok () := by
  rw [leaving, if_neg h]
  exact nofun

theorem returns_answering (r : Response) : Returns (answering L r) :=
  .anyway (fun _ _ => trivial) fun sent : Bool => by
    cases sent with
    | true => exact Exactly.done rfl
    | false => exact returns_leaving (.inl rfl)

theorem returns_rejecting (event : AuditEvent) (r : Response) : Returns (rejecting L event r) :=
  .anyway (fun _ _ => trivial) fun _ => returns_answering r

theorem returns_refused (code : String) : Returns (refused L x actorId code) := by
  unfold refused
  split
  · exact returns_rejecting _ _
  split
  · exact returns_rejecting _ _
  split
  · exact returns_answering _
  split <;> exact returns_rejecting _ _

/-- The page after a transition: the exception of its parsers and its renderer is that of the program. -/
theorem returns_updated {id : String} {items : List L.Item} {detail : Option L.Detail}
    (h : ∀ e, pageRaises L id capability.role items detail = some e → e = .os ∨ e = .tls) :
    Returns (updated L x actorId capability items (detail.map (L.augment id))) := by
  unfold pageRaises at h
  unfold updated
  cases hitems : parseAll L items with
  | error e =>
    simp only [hitems] at h ⊢
    exact returns_leaving (h e rfl)
  | ok ids => cases hselected : parseSelected L (detail.map (L.augment id)) with
    | error e =>
      simp only [hitems, hselected] at h ⊢
      exact returns_leaving (h e rfl)
    | ok selected =>
      simp only [hitems, hselected] at h ⊢
      refine .anyway (fun _ _ => trivial) fun next : String => ?_
      cases hfill : L.render items (detail.map (L.augment id)) .active capability.role with
      | error e =>
        simp only [hfill] at h
        exact returns_leaving (h e rfl)
      | ok fill =>
        refine .anyway (fun _ _ => trivial) fun logged : Bool => ?_
        split
        · split
          · rename_i e hpage
            unfold htmlResponse at hpage
            split at hpage
            · exact returns_leaving (.inr (Except.error.inj hpage).symm)
            · cases hpage
          · exact returns_answering _
        · exact returns_answering _

theorem run_updated {id : String} {items : List L.Item} {detail : Option L.Detail} {e : BrowserExn}
    (h : pageRaises L id capability.role items detail = some e) (he : ¬ (e = .os ∨ e = .tls))
    (envs : Nat → BrowserEnv L) (w : BrowserWorld) :
    (run (browserHandle L) envs (updated L x actorId capability items (detail.map (L.augment id))) w).1 ≠ .ok () := by
  unfold pageRaises at h
  unfold updated
  cases hitems : parseAll L items with
  | error e' =>
    simp only [hitems, Option.some.injEq] at h ⊢
    exact run_leaving (h ▸ he) envs w
  | ok ids => cases hselected : parseSelected L (detail.map (L.augment id)) with
    | error e' =>
      simp only [hitems, hselected, Option.some.injEq] at h ⊢
      exact run_leaving (h ▸ he) envs w
    | ok selected => cases hfill : L.render items (detail.map (L.augment id)) .active capability.role with
      | error e' =>
        simp only [hitems, hselected, hfill, Option.some.injEq] at h ⊢
        exact run_leaving (h ▸ he) _ _
      | ok fill => simp only [hitems, hselected, hfill, reduceCtorEq] at h

theorem returns_transitioning {alertCandidateId : String} {args : TransitionArgs} :
    Returns (transitioning L x actorId capability alertCandidateId args) := by
  refine .anyway (fun _ _ => trivial) fun result : Except String Unit => ?_
  cases result with
  | error code => exact returns_refused code
  | ok u =>
    refine .call (fun env w h => ?_) fun env w hbad envs w' => ?_
    · simp only [browserReply]
      cases hitems : env.items with
      | none => exact returns_rejecting _ _
      | some items => cases hdetail : env.detail with
        | none => exact returns_rejecting _ _
        | some detail => exact returns_updated (h items detail hitems hdetail)
    · simp only [Harmless, not_forall] at hbad
      obtain ⟨items, detail, hitems, hdetail, e, hraises, he⟩ := hbad
      simp only [browserReply, hitems, hdetail]
      exact run_updated hraises he envs w'

theorem returns_posting {alertCandidateId : String} : Returns (posting L x actorId capability alertCandidateId) := by
  unfold posting
  split
  · exact returns_rejecting _ _
  cases hform : readForm x.request.body with
  | none => exact returns_rejecting _ _
  | some form =>
    simp only [intOfDigits_version hform]
    refine .call (fun env w hascii => ?_) fun env w hbad envs w' => ?_
    · obtain ⟨b, hb⟩ := verifyCsrfToken_ok L.hmac (form.claim actorId alertCandidateId
        (digitsValue form.expectedVersion.1)) hascii
      simp only [browserReply, hb]
      cases b with
      | true => exact returns_transitioning
      | false => exact returns_rejecting _ _
    · obtain ⟨hlength, hascii⟩ := Classical.not_imp.1 hbad
      have hraised : verifyCsrfToken L.hmac form.csrfToken (form.claim actorId alertCandidateId
          (digitsValue form.expectedVersion.1)) = .error .typeError := by
        rw [verifyCsrfToken, if_neg (not_not.2 hlength), if_pos (by simpa using hascii)]
      simp only [browserReply, hraised]
      exact run_leaving (by simp) envs w'

theorem returns_failing : Returns (failing L x actorId) := returns_rejecting _ _

theorem returns_delivering (r : Response) : Returns (delivering L x actorId r) :=
  .anyway (fun _ _ => trivial) fun sent : Bool => by
    cases sent with
    | true => exact Exactly.done rfl
    | false => exact returns_failing

/-- A GET: every exception of its page is answered. -/
theorem returns_dispatched (page : Except BrowserExn Response) : Returns (dispatched L x actorId page) := by
  cases page with
  | error e => exact returns_failing
  | ok r =>
    rw [dispatched]
    split
    · refine .anyway (fun _ _ => trivial) fun logged : Bool => ?_
      split
      · exact returns_delivering r
      · exact returns_failing
    · exact .anyway (fun _ _ => trivial) fun logged : Bool => returns_delivering _

theorem returns_showing {items : List L.Item} {detail : L.Detail} {k : Except BrowserExn Response → BrowserProgram L}
    (h : ∀ page, Returns (k page)) : Returns (showing L capability items detail k) := by
  unfold showing
  split
  · exact h _
  split
  · exact .anyway (fun _ _ => trivial) fun _ => h _
  · exact h _

theorem returns_dispatch {target : String} {k : Except BrowserExn Response → BrowserProgram L}
    (h : ∀ page, Returns (k page)) : Returns (dispatch L capability target k) := by
  unfold dispatch
  split
  · refine .anyway (fun _ _ => trivial) fun items : Option (List L.Item) => ?_
    split
    · exact h _
    split
    · exact h _
    · exact h _
    refine .anyway (fun _ _ => trivial) fun detail : Option (Option L.Detail) => ?_
    split
    · exact h _
    · exact h _
    · exact returns_showing h
  split
  · refine .anyway (fun _ _ => trivial) fun items : Option (List L.Item) => ?_
    split
    · exact h _
    refine .anyway (fun _ _ => trivial) fun detail : Option (Option L.Detail) => ?_
    split
    · exact h _
    split
    · exact h _
    · exact h _
    · exact returns_showing h
  · exact h _

theorem returns_locked {target : Option String} : Returns (locked L x actorId target) := by
  refine .anyway (fun _ _ => trivial) fun passed : Bool => ?_
  split
  · exact Exactly.done rfl
  refine .anyway (fun _ _ => trivial) fun again : Option String => ?_
  cases again with
  | none => exact returns_rejecting _ _
  | some actorId =>
    refine .anyway (fun _ _ => trivial) fun capability : Option AnalystCapability => ?_
    cases capability with
    | none => exact returns_rejecting _ _
    | some capability => cases target with
      | none => exact returns_dispatch returns_dispatched
      | some id => exact returns_posting

theorem returns_admitting {target : Option String} : Returns (admitting L x actorId target) :=
  .anyway (fun _ _ => trivial) fun logged : Bool => by
    split
    · exact returns_locked
    · exact returns_answering _

theorem returns_received : Returns (received L x actorId) := by
  unfold received
  split
  · exact returns_admitting
  split
  · exact returns_rejecting _ _
  refine .anyway (fun _ _ => trivial) fun port : Nat => ?_
  split
  · exact returns_admitting
  · exact returns_rejecting _ _

theorem returns_identified {listener : Nat} {peer : Peer} {correlationId : String} :
    Returns (identified L listener peer correlationId) := by
  refine .anyway (fun _ _ => trivial) fun actorId : Option String => ?_
  cases actorId with
  | none => exact returns_rejecting _ _
  | some actorId =>
    refine .anyway (fun _ _ => trivial) fun capability : Option AnalystCapability => ?_
    cases capability with
    | none => exact returns_rejecting _ _
    | some capability =>
      refine .call (fun env w hread => ?_) fun env w hbad envs w' => ?_
      · simp only [browserReply]
        cases hrequest : readBrowserRequest (actualPort L env.port (found L env w)) env.turns with
        | ok request => exact returns_received
        | error e => cases e with
          | connectionIdle => exact Exactly.done rfl
          | requestInvalid => exact returns_rejecting _ _
          | valueError =>
            obtain ⟨target, headers, h⟩ := readBrowserRequest_valueError.1 hrequest
            exact absurd h (hread target headers)
      · simp only [Harmless, not_forall, not_not] at hbad
        simp only [browserReply, readBrowserRequest_valueError.2 hbad]
        exact run_leaving (by simp) envs w'

theorem returns_shaking {listener : Nat} : Returns (shaking L listener) := by
  refine .anyway (fun _ _ => trivial) fun wrapped : Bool => ?_
  split
  · exact returns_leaving (.inl rfl)
  refine .anyway (fun _ _ => trivial) fun passed : Bool => ?_
  split
  · exact Exactly.done rfl
  refine .anyway (fun _ _ => trivial) fun handshake : Handshake => ?_
  cases handshake with
  | failed => exact returns_leaving (.inl rfl)
  | otherVersion => exact Exactly.done rfl
  | peer peer => exact .anyway (fun _ _ => trivial) fun correlationId : String => returns_identified

theorem returns_processOne : Returns (processOne L) := by
  refine .anyway (fun _ _ => trivial) fun accepted : Accept => ?_
  cases accepted with
  | unavailable => exact returns_leaving (.inr rfl)
  | failed => exact returns_leaving (.inl rfl)
  | foreign => exact Exactly.done rfl
  | loopback listener =>
    refine .anyway (fun _ _ => trivial) fun passed : Bool => ?_
    split
    · exact returns_shaking
    · exact Exactly.done rfl

/-- **When `process_one` returns.** -/
theorem processOne_returns_iff (w : BrowserWorld) (envs : Nat → BrowserEnv L) :
    (browserStep L w envs).1 = .ok () ↔
      Along (browserHandle L) (fun _ => Harmless L) [] envs (processOne L) w :=
  returns_processOne [] envs w

end

/-! ## The loop -/

/-- One turn of the loop: is `_stop` set at its test, and what the call meets. -/
structure Turn (L : BrowserListener) where
  stop : Bool := false
  envs : Nat → BrowserEnv L

inductive Worker where
  | serving | stopped | failed
deriving DecidableEq

section
variable (L : BrowserListener)

/-- An exception is the end of the lifecycle: it closes its listeners. -/
def serveStep (s : Worker × BrowserWorld) (turn : Turn L) : Unit × (Worker × BrowserWorld) :=
  match s.1 with
  | .serving =>
    if turn.stop then ((), (.stopped, s.2))
    else match browserStep L s.2 turn.envs with
      | (.ok (), w) => ((), (.serving, w))
      | (.error _, w) => ((), (.failed, actOutside L.printable w .close))
  | .stopped | .failed => ((), s)

def serveAt (w : BrowserWorld) (turns : List (Turn L)) (k : Nat) : Worker × BrowserWorld :=
  Machine.stateAt (serveStep L) (.serving, w) turns k

variable {L}

theorem serveStep_failed {s : Worker × BrowserWorld} {turn : Turn L} (hs : s.1 ≠ .failed) :
    (serveStep L s turn).2.1 = .failed ↔
      s.1 = .serving ∧ turn.stop = false ∧ (browserStep L s.2 turn.envs).1 ≠ .ok () := by
  obtain ⟨worker, w⟩ := s
  cases worker with
  | failed => exact absurd rfl hs
  | stopped => simp [serveStep]
  | serving =>
    cases hstop : turn.stop with
    | true => simp [serveStep, hstop]
    | false =>
      simp only [serveStep, hstop, Bool.false_eq_true, if_false, true_and]
      rcases hrun : browserStep L w turn.envs with ⟨reply, w'⟩
      cases reply with
      | ok u => simp
      | error e => simp

theorem serve_survives (L : BrowserListener) (w : BrowserWorld) (turns : List (Turn L)) :
    (∀ k, (serveAt L w turns k).1 ≠ .failed) ↔
      ∀ k turn, turns[k]? = some turn → (serveAt L w turns k).1 = .serving → turn.stop = false →
        (browserStep L (serveAt L w turns k).2 turn.envs).1 = .ok () := by
  constructor
  · intro h k turn hk hserving hstop
    by_contra hraised
    refine h (k + 1) ?_
    rw [serveAt, Machine.stateAt_succ _ hk]
    exact (serveStep_failed (h k)).2 ⟨hserving, hstop, hraised⟩
  · intro h k
    induction k with
    | zero => exact nofun
    | succ k ih =>
      cases hk : turns[k]? with
      | none =>
        rw [serveAt, Machine.stateAt_succ_none _ hk]
        exact ih
      | some turn =>
        rw [serveAt, Machine.stateAt_succ _ hk]
        intro hfailed
        obtain ⟨hserving, hstop, hraised⟩ := (serveStep_failed ih).1 hfailed
        exact hraised (h k turn hk hserving hstop)

end

/-! ## A token that is not ASCII -/

def accentedBody : Bytes :=
  utf8 ("expected_version=0&transition_request_id=2b6d1f90-4c3a-4e87-9d15-6f8a0b2c4d6e&target_state=in_review" ++
    "&csrf_token=" ++ String.ofList (List.replicate 64 'é'))

/-- A registered analyst posts a transition with that token. -/
def accentedEnv (n : Nat) : BrowserEnv sampleListener where
  outside := if n = 0 then [.reopen] else []
  handshake := .peer ⟨sampleDer, some [("URI", "urn:threatfusion:human:analyst-1")]⟩
  uuid := "5e0c7d1a-93b2-4f68-8a41-c7d20e9f6b35"
  now := sampleNow
  port := 8443
  turns :=
    [.chunk (utf8 ("POST /v1/analyst/alerts/" ++ sampleAlert.1 ++ "/transitions HTTP/1.1\r\nHost: 127.0.0.1:8443\r\n" ++
      "Sec-Fetch-Site: same-origin\r\nContent-Type: application/x-www-form-urlencoded\r\nContent-Length: 240\r\n\r\n")),
      .chunk accentedBody]
  analyst := sampleEnv

example : accentedBody.length = 240 := by decide +kernel

end ThreatFusion.Browser
