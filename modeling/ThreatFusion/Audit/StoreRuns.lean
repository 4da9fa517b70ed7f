import ThreatFusion.Audit.Events
import ThreatFusion.Audit.Store
import ThreatFusion.Lib.AppendOnly
import ThreatFusion.Lib.Grouping
/-
# The security audit: append-only, idempotent, bounded

`append` holds the write lock from its `SELECT` to its `COMMIT`, so the calls of any number of repositories over
one database take effect one after the other. A run is a list of calls in that order, each with its repository,
its event and what SQLite does to it, over a new database.

* `append_cases`: what a call does to a sound table. `audit_grows` makes the store an append-only machine.
* `auditRun`: what every run does, for either contract.
-/
namespace ThreatFusion.Audit
open Py Machine Grouping AppendOnly

section
variable {O : Type} {S : AuditSchema O}

structure AppendCall (S : AuditSchema O) where
  repository : AuditRepository
  fault : AuditFault
  event : AuditEvent S

/-- Every row is one of an event, and no two have one identifier. -/
abbrev SoundTable (S : AuditSchema O) : AuditTable O → Prop :=
  Sound (fun row => row.auditEventId) fun row => ∃ e : AuditEvent S, row = e.values

theorem SoundTable.find? {rows : AuditTable O} (h : SoundTable S rows) {e : AuditEvent S} (he : e.values ∈ rows)
    {id : String} (hid : e.auditEventId = id) :
    rows.find? (fun row => row.auditEventId == id) = some e.values := by
  subst hid
  exact find?_key h.keyed he

theorem result_congr {e f : AuditEvent S} (hid : e.auditEventId = f.auditEventId) (d : AppendDisposition) :
    e.result d = f.result d := by
  simp only [AuditEvent.result, hid]

variable [DecidableEq O]

def appendStep (rows : AuditTable O) (call : AppendCall S) : Except AuditError AuditAppendResult × AuditTable O :=
  append call.repository call.fault rows call.event

/-- The reply to a call whose identifier is that of a stored event. -/
def onceStored (stored attempted : AuditEvent S) : Except AuditError AuditAppendResult :=
  if equivalent stored.toAuditColumns attempted.toAuditColumns then .ok (attempted.result .existing)
  else .error .identityConflict

/-- What a call does to a table: SQLite fails, the identifier is stored, the table is full, or the row is added. -/
theorem append_cases {rows : AuditTable O} (h : SoundTable S rows) (call : AppendCall S) :
    (call.fault ≠ .none ∧ ∃ e, appendStep rows call = (.error e, rows)) ∨
    (call.fault = .none ∧ ∃ s : AuditEvent S, s.values ∈ rows ∧ s.auditEventId = call.event.auditEventId ∧
      appendStep rows call = (onceStored s call.event, rows)) ∨
    (call.fault = .none ∧ call.event.auditEventId ∉ rows.map (·.auditEventId) ∧
      call.repository.capacityLimit ≤ rows.length ∧ appendStep rows call = (.error .capacityReached, rows)) ∨
    (call.fault = .none ∧ call.event.auditEventId ∉ rows.map (·.auditEventId) ∧
      ¬ call.repository.capacityLimit ≤ rows.length ∧
      appendStep rows call = (.ok (call.event.result .created), rows ++ [call.event.values])) := by
  obtain ⟨repository, fault, e⟩ := call
  cases fault with
  | unavailable | busy | failed => exact .inl ⟨nofun, _, by rw [appendStep, append, e.new_self]⟩
  | none =>
    refine .inr ?_
    have happend : appendStep rows ⟨repository, .none, e⟩ = appendTx repository rows e := by
      rw [appendStep, append, e.new_self]
    rw [happend]
    by_cases hmem : e.auditEventId ∈ rows.map (·.auditEventId)
    · obtain ⟨row, hrow, hid⟩ := List.mem_map.1 hmem
      obtain ⟨s, rfl⟩ := h.holds row hrow
      refine .inl ⟨rfl, s, hrow, hid, ?_⟩
      rw [appendTx, SoundTable.find? h hrow hid]
      dsimp only
      rw [event_values]
      dsimp only
      rw [onceStored, result_congr (S := S) hid]
      split <;> rfl
    · have hnone : rows.find? (fun row => row.auditEventId == e.auditEventId) = none := by
        rw [List.find?_eq_none]
        intro row hrow heq
        exact hmem (List.mem_map.2 ⟨row, hrow, beq_iff_eq.1 heq⟩)
      refine .inr ?_
      rw [appendTx, hnone]
      by_cases hfull : repository.capacityLimit ≤ rows.length
      · exact .inl ⟨rfl, hmem, hfull, if_pos hfull⟩
      · refine .inr ⟨rfl, hmem, hfull, ?_⟩
        dsimp only
        rw [if_neg hfull, if_pos e.check_values]

/-- The call reported its event as created, and this is the row. -/
def Wrote (call : AppendCall S) (reply : Except AuditError AuditAppendResult) (row : AuditColumns String O) : Prop :=
  reply = .ok (call.event.result .created) ∧ row = call.event.values

theorem onceStored_ne_created (s e : AuditEvent S) : onceStored s e ≠ .ok (e.result .created) := by
  rw [onceStored]
  split
  · exact fun h => nomatch congrArg AuditAppendResult.disposition (Except.ok.inj h)
  · nofun

theorem audit_grows : Grows (fun row => row.auditEventId) (fun row => ∃ e : AuditEvent S, row = e.values)
    Wrote (appendStep (S := S)) where
  step rows call hs := by
    rcases append_cases hs call with ⟨-, e, h⟩ | ⟨-, s, -, -, h⟩ | ⟨-, -, -, h⟩ | ⟨-, hnew, -, h⟩
    · rw [h]
      exact .same fun _ hw => nomatch hw.1
    · rw [h]
      exact .same fun _ hw => onceStored_ne_created s call.event hw.1
    · rw [h]
      exact .same fun _ hw => nomatch hw.1
    · rw [h]
      exact .added call.event.values ⟨rfl, rfl⟩ (fun _ hw => hw.2) hnew
  wrote call _ _ hw := ⟨call.event, hw.2⟩

/-! ## Runs -/

variable {calls : List (AppendCall S)}

/-- The table before call `k`. -/
def tableAt (calls : List (AppendCall S)) (k : Nat) : AuditTable O := stateAt appendStep [] calls k

/-- Call `j` reported `e` as created. -/
def Creates (calls : List (AppendCall S)) (j : Nat) (e : AuditEvent S) : Prop :=
  ∃ rows call rows', Happens appendStep [] calls j rows call (.ok (e.result .created)) rows' ∧ call.event = e

theorem writes_iff (j : Nat) (row : AuditColumns String O) :
    Writes Wrote appendStep calls j row ↔ ∃ e, Creates calls j e ∧ row = e.values := by
  constructor
  · rintro ⟨rows, call, reply, rows', hj, rfl, rfl⟩
    exact ⟨call.event, ⟨rows, call, rows', hj, rfl⟩, rfl⟩
  · rintro ⟨e, ⟨rows, call, rows', hj, rfl⟩, rfl⟩
    exact ⟨rows, call, _, rows', hj, rfl, rfl⟩

theorem mem_tableAt (k : Nat) (row : AuditColumns String O) :
    row ∈ tableAt calls k ↔ ∃ j < k, ∃ e, Creates calls j e ∧ row = e.values := by
  rw [tableAt, audit_grows.mem_iff]
  refine exists_congr fun j => and_congr_right fun _ => writes_iff j row

/-- What a run of calls on a new audit database does. -/
structure AuditRun (calls : List (AppendCall S)) : Prop where
  /-- One row an identifier, and a stored row stays as it is. -/
  keyed : ∀ k, ((tableAt calls k).map (·.auditEventId)).Nodup
  kept : ∀ j k, j ≤ k → tableAt calls j <+: tableAt calls k
  /-- One call reports `created` for a stored identifier, and none for another. -/
  once : ∀ i j e f, Creates calls i e → Creates calls j f → e.auditEventId = f.auditEventId → i = j
  created : ∀ k id, id ∈ (tableAt calls k).map (·.auditEventId) ↔ ∃ j < k, ∃ e, Creates calls j e ∧ e.auditEventId = id
  /-- Every row decodes to the event that was created under its identifier. -/
  decoded : ∀ k, ∀ row ∈ tableAt calls k, ∃ j < k, ∃ e, Creates calls j e ∧ event S row = some e
  /-- A call whose identifier is stored changes nothing: it is the same but for its time and its correlation, or
  it conflicts. -/
  existing : ∀ j k e rows call reply rows', Creates calls j e → j < k → Happens appendStep [] calls k rows call reply rows' →
    call.fault = .none → e.auditEventId = call.event.auditEventId →
    rows' = rows ∧
    (call.event.toAuditColumns = { e.toAuditColumns with
        eventTime := call.event.eventTime, correlationId := call.event.correlationId } →
      reply = .ok (e.result .existing)) ∧
    (call.event.toAuditColumns ≠ { e.toAuditColumns with
        eventTime := call.event.eventTime, correlationId := call.event.correlationId } →
      reply = .error .identityConflict)
  /-- A new identifier is refused exactly when the rows have reached the limit of the call's repository. -/
  bounded : ∀ k rows call reply rows', Happens appendStep [] calls k rows call reply rows' → call.fault = .none →
    call.event.auditEventId ∉ rows.map (·.auditEventId) →
    (call.repository.capacityLimit ≤ rows.length → reply = .error .capacityReached ∧ rows' = rows) ∧
    (rows.length < call.repository.capacityLimit →
      reply = .ok (call.event.result .created) ∧ rows' = rows ++ [call.event.values])
  /-- Where SQLite fails, nothing is stored. -/
  failed : ∀ k rows call reply rows', Happens appendStep [] calls k rows call reply rows' → call.fault ≠ .none →
    (∃ e, reply = .error e) ∧ rows' = rows
  /-- No event is refused by the constraints of the table. -/
  checked : ∀ e : AuditEvent S, S.check e.values = true

theorem Creates.later {j k : Nat} {e : AuditEvent S} {call : AppendCall S} {rows rows' : AuditTable O}
    {reply : Except AuditError AuditAppendResult} (he : Creates calls j e) (hjk : j < k)
    (hk : Happens appendStep [] calls k rows call reply rows') (hfault : call.fault = .none)
    (hid : e.auditEventId = call.event.auditEventId) : reply = onceStored e call.event ∧ rows' = rows := by
  have hsound : SoundTable S rows := hk.before ▸ audit_grows.sound k
  have hrow : e.values ∈ rows := by
    rw [hk.before]
    exact (mem_tableAt k _).2 ⟨j, hjk, e, he, rfl⟩
  have hmem : call.event.auditEventId ∈ rows.map (·.auditEventId) := List.mem_map.2 ⟨e.values, hrow, hid⟩
  rw [← hk.reply, ← hk.after]
  rcases append_cases hsound call with ⟨hfault', -⟩ | ⟨-, s, hs, hsid, h⟩ | ⟨-, hnew, -⟩ | ⟨-, hnew, -⟩
  · exact absurd hfault hfault'
  · -- two rows with the identifier of the call are one row
    have hsame : e.values = s.values :=
      List.inj_on_of_nodup_map hsound.keyed hrow hs (hid.trans hsid.symm)
    have hse : s = e := by
      have hdecoded := event_values e
      rw [hsame, event_values] at hdecoded
      exact Option.some.inj hdecoded
    rw [h, hse]
    exact ⟨rfl, rfl⟩
  · exact absurd hmem hnew
  · exact absurd hmem hnew

theorem auditRun (calls : List (AppendCall S)) : AuditRun calls where
  keyed k := (audit_grows.sound k).keyed
  kept _ _ hjk := audit_grows.kept hjk
  once i j e f he hf hid := audit_grows.once ((writes_iff i _).2 ⟨e, he, rfl⟩) ((writes_iff j _).2 ⟨f, hf, rfl⟩) hid
  created k id := by
    rw [List.mem_map]
    constructor
    · rintro ⟨row, hrow, rfl⟩
      obtain ⟨j, hj, e, he, rfl⟩ := (mem_tableAt k row).1 hrow
      exact ⟨j, hj, e, he, rfl⟩
    · rintro ⟨j, hj, e, he, rfl⟩
      exact ⟨e.values, (mem_tableAt k _).2 ⟨j, hj, e, he, rfl⟩, rfl⟩
  decoded k row hrow := by
    obtain ⟨j, hj, e, he, rfl⟩ := (mem_tableAt k row).1 hrow
    exact ⟨j, hj, e, he, event_values e⟩
  existing j k e rows call reply rows' he hjk hk hfault hid := by
    obtain ⟨hreply, hrows⟩ := he.later hjk hk hfault hid
    refine ⟨hrows, fun hsame => ?_, fun hdiffer => ?_⟩
    · rw [hreply, onceStored, if_pos ((equivalent_iff _ _).2 hsame), result_congr hid]
    · rw [hreply, onceStored, if_neg fun h => hdiffer ((equivalent_iff _ _).1 h)]
  bounded k rows call reply rows' hk hfault hnew := by
    have hsound : SoundTable S rows := hk.before ▸ audit_grows.sound k
    rw [← hk.reply, ← hk.after]
    rcases append_cases hsound call with ⟨hfault', -⟩ | ⟨-, s, hs, hsid, -⟩ | ⟨-, -, hfull, h⟩ | ⟨-, -, hroom, h⟩
    · exact absurd hfault hfault'
    · exact absurd (List.mem_map.2 ⟨s.values, hs, hsid⟩) hnew
    · rw [h]
      exact ⟨fun _ => ⟨rfl, rfl⟩, fun hlt => absurd hfull (Int.not_le.2 hlt)⟩
    · rw [h]
      exact ⟨fun hle => absurd hle hroom, fun _ => ⟨rfl, rfl⟩⟩
  failed k rows call reply rows' hk hfault := by
    have hsound : SoundTable S rows := hk.before ▸ audit_grows.sound k
    rw [← hk.reply, ← hk.after]
    rcases append_cases hsound call with ⟨-, e, h⟩ | ⟨hno, -⟩ | ⟨hno, -⟩ | ⟨hno, -⟩
    · rw [h]
      exact ⟨⟨e, rfl⟩, rfl⟩
    · exact absurd hno hfault
    · exact absurd hno hfault
    · exact absurd hno hfault
  checked := AuditEvent.check_values

end

/-! ## The two contracts -/

/-- `x IS NULL OR …` -/
abbrev nullOr (p : String → Bool) (x : Option String) : Bool := x.all p

theorem nullOr_mono {p q : String → Bool} (hpq : ∀ s, p s = true → q s = true) {x : Option String}
    (h : nullOr p x = true) : nullOr q x = true := by
  cases x with
  | none => rfl
  | some s => exact hpq s h

structure ProducerDetail where
  producerId : Option String
  sourceContractId : Option String
  credentialSha256 : Option String
  requestIdSha256 : Option String
  bodySha256 : Option String
deriving DecidableEq

/-- Both texts test the two registered identifiers alike; `p` is the test of a digest. -/
def ProducerDetail.passes (p : String → Bool) (d : ProducerDetail) : Bool :=
  nullOr (· == Admission.REGISTERED_UNSW_PRODUCER_ID) d.producerId &&
    nullOr (· == Admission.REGISTERED_UNSW_SOURCE_CONTRACT) d.sourceContractId &&
    nullOr p d.credentialSha256 && nullOr p d.requestIdSha256 && nullOr p d.bodySha256

def producerAudit : AuditSchema ProducerDetail where
  AUDIT_EVENT_SCHEMA_VERSION := "producer_security_audit_event_v2"
  EVENT_TYPES := ["authentication_rejected", "producer_admission_rejected", "rate_limited", "server_busy",
    "request_admitted", "replay_in_progress", "replay_conflict", "replay_outcome_unknown", "request_completed",
    "startup_recovery", "internal_failure"]
  EVENT_DISPOSITIONS := [
    ("authentication_rejected", "authentication", "rejected", "authentication_failed"),
    ("authentication_rejected", "authentication", "rejected", "credential_disabled"),
    ("authentication_rejected", "authentication", "rejected", "credential_revoked"),
    ("authentication_rejected", "authentication", "rejected", "credential_not_yet_valid"),
    ("authentication_rejected", "authentication", "rejected", "credential_expired"),
    ("producer_admission_rejected", "admission", "rejected", "producer_mismatch"),
    ("producer_admission_rejected", "admission", "rejected", "source_contract_denied"),
    ("producer_admission_rejected", "admission", "rejected", "invalid_request"),
    ("producer_admission_rejected", "admission", "rejected", "request_time_invalid"),
    ("producer_admission_rejected", "admission", "rejected", "request_too_large"),
    ("producer_admission_rejected", "admission", "rejected", "body_incomplete"),
    ("rate_limited", "rate_control", "rejected", "rate_limited"),
    ("server_busy", "concurrency_control", "rejected", "server_busy"),
    ("request_admitted", "admission", "admitted", "request_admitted"),
    ("replay_in_progress", "replay", "deferred", "request_in_progress"),
    ("replay_conflict", "replay", "rejected", "request_replay_rejected"),
    ("replay_outcome_unknown", "replay", "unknown", "outcome_unknown"),
    ("request_completed", "completion", "completed", "request_completed"),
    ("startup_recovery", "recovery", "completed", "recovery_completed"),
    ("internal_failure", "internal", "failed", "internal_error"),
    ("internal_failure", "internal", "failed", "registry_invalid"),
    ("internal_failure", "internal", "failed", "clock_unavailable"),
    ("internal_failure", "processing", "failed", "request_timeout"),
    ("internal_failure", "processing", "failed", "processing_timeout"),
    ("internal_failure", "audit", "failed", "audit_unavailable")]
  accepts := ProducerDetail.passes isSha256
  checks := ProducerDetail.passes sqlDigest
  admits d h := by
    simp only [ProducerDetail.passes, Bool.and_eq_true] at h ⊢
    obtain ⟨⟨⟨⟨hproducer, hcontract⟩, hcredential⟩, hrequest⟩, hbody⟩ := h
    have hdigest {x : Option String} : nullOr isSha256 x = true → nullOr sqlDigest x = true :=
      nullOr_mono fun _ => sqlDigest_of_isSha256
    exact ⟨⟨⟨⟨hproducer, hcontract⟩, hdigest hcredential⟩, hdigest hrequest⟩, hdigest hbody⟩

structure AnalystDetail where
  actorId : Option String
  credentialSha256 : Option String
  requestRoute : Option String
  bodySha256 : Option String
deriving DecidableEq

theorem length_le_utf8 (s : String) : s.length ≤ (utf8 s).length := by
  rw [utf8_eq, ← String.length_toList]
  induction s.toList with
  | nil => simp
  | cons c cs ih =>
    have hc := c.utf8Size_pos
    rw [List.flatMap_cons, List.length_append, String.length_utf8EncodeChar, List.length_cons]
    omega

theorem isActorInner_nul : Analyst.isActorInner (Char.ofNat 0) = false := by decide

/-- `length(actor_id) >= 1 AND length(actor_id) <= 64` -/
def sqlActor (s : String) : Bool := decide (1 ≤ sqlLength s ∧ sqlLength s ≤ 64)

theorem sqlActor_of_validActorId {s : String} (h : Analyst.validActorId s = true) : sqlActor s = true := by
  simp only [Analyst.validActorId, Bool.and_eq_true, decide_eq_true_eq] at h
  obtain ⟨⟨⟨hhead, -⟩, hinner⟩, hlength⟩ := h
  have hpos : 0 < s.toList.length := by
    cases hs : s.toList with
    | nil => rw [hs] at hhead; cases hhead
    | cons c cs => exact Nat.succ_pos _
  rw [sqlActor, sqlLength, sqlChars_of_all isActorInner_nul hinner]
  exact decide_eq_true ⟨hpos, hlength⟩

def analystAudit : AuditSchema AnalystDetail where
  AUDIT_EVENT_SCHEMA_VERSION := AUDIT_EVENT_SCHEMA_VERSION
  EVENT_TYPES := ["authentication_rejected", "authorization_rejected", "request_rejected", "request_admitted",
    "request_completed", "internal_failure"]
  EVENT_DISPOSITIONS := [
    ("authentication_rejected", "authentication", "rejected", "authentication_failed"),
    ("authorization_rejected", "authorization", "rejected", "forbidden"),
    ("request_rejected", "admission", "rejected", "request_invalid"),
    ("request_admitted", "admission", "admitted", "request_admitted"),
    ("request_completed", "completion", "completed", "request_completed"),
    ("internal_failure", "internal", "failed", "internal_error")]
  accepts d := nullOr Analyst.validActorId d.actorId && nullOr isSha256 d.credentialSha256 &&
    nullOr (fun s => decide ((utf8 s).length ≤ 256)) d.requestRoute && nullOr isSha256 d.bodySha256
  checks d := nullOr sqlActor d.actorId && nullOr sqlDigest d.credentialSha256 &&
    nullOr (fun s => decide (sqlLength s ≤ 256)) d.requestRoute && nullOr sqlDigest d.bodySha256
  admits d h := by
    simp only [Bool.and_eq_true] at h ⊢
    obtain ⟨⟨⟨hactor, hcredential⟩, hroute⟩, hbody⟩ := h
    have hdigest {x : Option String} : nullOr isSha256 x = true → nullOr sqlDigest x = true :=
      nullOr_mono fun _ => sqlDigest_of_isSha256
    refine ⟨⟨⟨nullOr_mono (fun _ => sqlActor_of_validActorId) hactor, hdigest hcredential⟩, ?_⟩, hdigest hbody⟩
    apply nullOr_mono _ hroute
    intro s hs
    have hbytes := of_decide_eq_true hs
    exact decide_eq_true ((sqlLength_le s).trans ((length_le_utf8 s).trans hbytes))

/-- **The audits are append-only, idempotent and bounded.** -/
theorem security_audit_runs :
    (∀ calls : List (AppendCall producerAudit), AuditRun calls) ∧
      ∀ calls : List (AppendCall analystAudit), AuditRun calls :=
  ⟨auditRun, auditRun⟩

end ThreatFusion.Audit
