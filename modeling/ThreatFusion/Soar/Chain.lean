import ThreatFusion.Soar.Ledger
import ThreatFusion.Alerts.Identity
import ThreatFusion.Lib.HashChain
import ThreatFusion.Lib.Machine
/-
# What appends write, verification accepts

A ledger run appends audit events from any number of repositories that share one database and one
secret, while the playbook table changes in any way. A transaction is one step; the clock was read before
it. `Sealed` is the invariant of every run: each row carries the two hashes of its position (`Written`), and
the head seal names the last row.

* `verify_accepts`: acceptance is `Accepted` row by row, and a seal over the last row.
* `sealed_step`: an append keeps `Sealed`.
* `listAuditEvents_eq`: a listing is in chain order when no clock reading went back within the playbook.
-/
namespace ThreatFusion.Soar
open Py Alerts Grouping HashChain Machine

section
variable (rt : Runtime) (key : LedgerSecret)

/-- What verification asks of the row at position `n` after a row with hash `prev`. -/
structure Accepted (n : Nat) (prev : String) (row : SoarAuditRow) : Prop where
  link : row.prevEntrySha256 = prev
  entry : computeSoarAuditEntryHash rt key row.toSoarAuditEntry = row.entrySha256
  sequence : row.sequenceId.getD (n + 1) = n + 1
  canonical : row.canonicalEntrySha256.getD "" ≠ "" →
    computeCanonicalAuditEntryHash rt key row.toSoarAuditEntry (n + 1) (row.candidateId.getD "") =
      row.canonicalEntrySha256.getD ""

/-- What an append leaves there. -/
structure Written (n : Nat) (prev : String) (row : SoarAuditRow) : Prop where
  link : row.prevEntrySha256 = prev
  entry : computeSoarAuditEntryHash rt key row.toSoarAuditEntry = row.entrySha256
  sequence : row.sequenceId = some (n + 1 : ℤ)
  candidate : row.candidateId.isSome = true
  canonical : row.canonicalEntrySha256 =
    some (computeCanonicalAuditEntryHash rt key row.toSoarAuditEntry (n + 1) (row.candidateId.getD ""))

structure Sealed (db : SoarDb) : Prop where
  chain : Chained (·.entrySha256) (Written rt key) 0 SOAR_AUDIT_GENESIS_HASH db.events
  head : db.events ≠ [] → db.headSeal = some
    ⟨db.events.length, headTag (·.entrySha256) SOAR_AUDIT_GENESIS_HASH db.events,
      sealHeadHmac rt key db.events.length (headTag (·.entrySha256) SOAR_AUDIT_GENESIS_HASH db.events)⟩
  unsealed : db.events = [] → db.headSeal = none

end

section
variable {rt : Runtime} {key : LedgerSecret}

theorem Written.accepted {n : Nat} {prev : String} {row : SoarAuditRow} (h : Written rt key n prev row) :
    Accepted rt key n prev row where
  link := h.link
  entry := h.entry
  sequence := by rw [h.sequence, Option.getD_some]
  canonical _ := by rw [h.canonical, Option.getD_some]

theorem rowFault_eq_none {n : Nat} {prev : String} {row : SoarAuditRow} :
    rowFault rt key n prev row = none ↔ Accepted rt key n prev row := by
  unfold rowFault
  by_cases hlink : row.prevEntrySha256 = prev
  swap
  · exact ⟨fun h => by simp [hlink] at h, fun h => absurd h.link hlink⟩
  by_cases hentry : computeSoarAuditEntryHash rt key row.toSoarAuditEntry = row.entrySha256
  swap
  · exact ⟨fun h => by simp [hlink, hentry] at h, fun h => absurd h.entry hentry⟩
  by_cases hseq : row.sequenceId.getD (n + 1) = n + 1
  swap
  · exact ⟨fun h => by simp [hlink, hentry, hseq] at h, fun h => absurd h.sequence hseq⟩
  simp only [hlink, hentry, hseq, ne_eq, not_true_eq_false, if_false, ite_eq_right_iff, reduceCtorEq,
    imp_false, not_and, not_not]
  exact ⟨fun h => ⟨hlink, hentry, hseq, h⟩, fun h => h.canonical⟩

theorem chainFault_eq_none : ∀ {n : Nat} {prev : String} {rows : List SoarAuditRow},
    chainFault rt key n prev rows = none ↔ Chained (·.entrySha256) (Accepted rt key) n prev rows
  | _, _, [] => by simp [chainFault, Chained]
  | n, prev, row :: rows => by
    rw [chainFault, Chained, ← rowFault_eq_none, ← chainFault_eq_none]
    cases rowFault rt key n prev row <;> simp

/-- **When verification accepts.** -/
theorem verify_accepts {playbookId : Option String} {requireNonEmpty : Bool} {db : SoarDb} :
    (verifyAuditChainIntegrity rt key.1 playbookId requireNonEmpty db).1 = true ↔
      db.events ≠ [] ∧
      Chained (·.entrySha256) (Accepted rt key) 0 SOAR_AUDIT_GENESIS_HASH db.events ∧
      (∃ headSeal, db.headSeal = some headSeal ∧ sealHolds rt key db.events headSeal = true) ∧
      ∀ p, playbookId = some p → ∃ row ∈ db.events, row.playbookId = p := by
  unfold verifyAuditChainIntegrity
  rw [dif_neg key.2, ← chainFault_eq_none]
  by_cases hempty : db.events = []
  · simp [hempty]
  rw [if_neg hempty]
  cases hseal : db.headSeal with
  | none =>
    by_cases hreq : requireNonEmpty = true
    · simp [hreq]
    · rw [if_neg (by simp [hreq])]
      cases chainFault rt key 0 SOAR_AUDIT_GENESIS_HASH db.events <;> simp
  | some headSeal =>
    rw [if_neg (by simp)]
    cases chainFault rt key 0 SOAR_AUDIT_GENESIS_HASH db.events with
    | some message => simp
    | none =>
      by_cases hholds : sealHolds rt key db.events headSeal = true
      · cases playbookId with
        | none => simp [hholds, hempty]
        | some p =>
          by_cases hrows : db.events.filter (·.playbookId = p) = []
          · have hnone : ¬ ∃ row ∈ db.events, row.playbookId = p := by simpa using hrows
            simp [hholds, hrows, hnone]
          · have hsome : ∃ row ∈ db.events, row.playbookId = p := by simpa using hrows
            simp [hholds, hrows, hempty, hsome]
      · simp [hholds]

theorem sealHolds_iff {events : List SoarAuditRow} {headSeal : HeadSeal} :
    sealHolds rt key events headSeal = true ↔
      headSeal.expectedCount = events.length ∧
      events.getLast?.map (·.entrySha256) = some headSeal.headEntrySha256 ∧
      sealHeadHmac rt key headSeal.expectedCount headSeal.headEntrySha256 = headSeal.headSealHmac := by
  cases h : events.getLast? <;> simp [sealHolds, h, and_assoc]

/-- A sealed ledger is accepted, as a whole and for every playbook with an event. -/
theorem Sealed.verified {db : SoarDb} (h : Sealed rt key db) (hne : db.events ≠ []) (requireNonEmpty : Bool)
    {playbookId : Option String} (hp : ∀ p, playbookId = some p → ∃ row ∈ db.events, row.playbookId = p) :
    (verifyAuditChainIntegrity rt key.1 playbookId requireNonEmpty db).1 = true := by
  obtain ⟨row, hlast⟩ := Option.ne_none_iff_exists'.1 (mt List.getLast?_eq_none_iff.1 hne)
  refine verify_accepts.2 ⟨hne, h.chain.mono fun _ _ _ => Written.accepted, ⟨_, h.head hne, ?_⟩, hp⟩
  rw [sealHolds_iff, headTag, hlast]
  exact ⟨rfl, rfl, rfl⟩

end

/-! ## Appends -/

/-- The transaction commits: no SQLite error, a secret, a fresh event id. -/
def Commits (secret : String) (call : AppendCall) (db : SoarDb) : Prop :=
  call.fault = false ∧ secret ≠ "" ∧ ∀ row ∈ db.events, row.eventId ≠ call.eventId

section
variable {rt : Runtime} {secret : String} {call : AppendCall} {ev : AuditEvent} {db : SoarDb}

theorem appendAuditEvent_commits (h : Commits secret call db) :
    appendAuditEvent rt secret call ev db =
      (.ok (auditRow rt ⟨secret, h.2.1⟩ call ev db).toSoarAuditEntry,
        appendRow rt ⟨secret, h.2.1⟩ (auditRow rt ⟨secret, h.2.1⟩ call ev db) db) := by
  obtain ⟨hfault, hsecret, hfresh⟩ := h
  have hany : ¬ db.events.any (·.eventId = call.eventId) = true := by
    rw [List.any_eq_true]
    rintro ⟨row, hrow, heq⟩
    exact hfresh row hrow (of_decide_eq_true heq)
  rw [appendAuditEvent, if_neg (by simp [hfault]), dif_neg hsecret]
  exact if_neg hany

theorem appendAuditEvent_fails (rt : Runtime) (ev : AuditEvent) (h : ¬ Commits secret call db) :
    ∃ e, appendAuditEvent rt secret call ev db = (.error e, db) := by
  unfold appendAuditEvent
  by_cases hfault : call.fault = true
  · exact ⟨_, if_pos hfault⟩
  rw [if_neg hfault]
  by_cases hsecret : secret = ""
  · exact ⟨_, dif_pos hsecret⟩
  rw [dif_neg hsecret]
  refine ⟨_, if_pos ?_⟩
  rw [List.any_eq_true]
  by_contra hnone
  refine h ⟨by simpa using hfault, hsecret, fun row hrow heq => hnone ⟨row, hrow, ?_⟩⟩
  exact decide_eq_true heq

/-- HMAC-SHA256 is 64 hexadecimal digits. -/
def HmacNonempty (rt : Runtime) : Prop := ∀ k m, rt.hmacSha256 k m ≠ ""

theorem Written.entry_ne_empty {key : LedgerSecret} (hmac : HmacNonempty rt) {n : Nat} {prev : String}
    {row : SoarAuditRow} (h : Written rt key n prev row) : row.entrySha256 ≠ "" := by
  rw [← h.entry]
  exact hmac _ _

/-- The hash that an append links to is the head of the chain. -/
theorem prevHash_eq {key : LedgerSecret} (hmac : HmacNonempty rt) {events : List SoarAuditRow}
    (h : Chained (·.entrySha256) (Written rt key) 0 SOAR_AUDIT_GENESIS_HASH events) :
    prevHash events = headTag (·.entrySha256) SOAR_AUDIT_GENESIS_HASH events := by
  rcases events.eq_nil_or_concat with rfl | ⟨rows, row, rfl⟩
  · rfl
  · rw [List.concat_eq_append] at h ⊢
    have hrow := (chained_append_singleton.1 h).2.entry_ne_empty hmac
    rw [headTag_append_singleton, prevHash, List.getLast?_concat]
    exact if_neg hrow

theorem written_auditRow {key : LedgerSecret} (hmac : HmacNonempty rt) (h : Sealed rt key db) :
    Written rt key db.events.length (headTag (·.entrySha256) SOAR_AUDIT_GENESIS_HASH db.events)
      (auditRow rt key call ev db) where
  link := prevHash_eq hmac h.chain
  entry := rfl
  sequence := rfl
  candidate := rfl
  canonical := rfl

theorem sealed_appendRow {key : LedgerSecret} (h : Sealed rt key db) {row : SoarAuditRow}
    (hrow : Written rt key db.events.length (headTag (·.entrySha256) SOAR_AUDIT_GENESIS_HASH db.events) row) :
    Sealed rt key (appendRow rt key row db) where
  chain := by
    rw [appendRow, chained_append_singleton, Nat.zero_add]
    exact ⟨h.chain, hrow⟩
  head _ := by
    simp only [appendRow, headTag_append_singleton, List.length_append, List.length_singleton]
    rfl
  unsealed hnil := by simp [appendRow] at hnil

end

/-! ## Runs -/

inductive LedgerInput where
  | append (call : AppendCall) (ev : AuditEvent)
  /-- Whatever the engine or the callbacks do to the playbook table. -/
  | records (rows : List SoarPlaybookRecord)

def ledgerStep (rt : Runtime) (secret : String) (db : SoarDb) :
    LedgerInput → Option (Except SoarError SoarAuditEntry) × SoarDb
  | .append call ev => ((appendAuditEvent rt secret call ev db).1, (appendAuditEvent rt secret call ev db).2)
  | .records rows => (none, { db with records := rows })

section
variable {rt : Runtime} {key : LedgerSecret} {db : SoarDb}

theorem sealed_empty (records : List SoarPlaybookRecord) : Sealed rt key { records } :=
  ⟨trivial, fun h => absurd rfl h, fun _ => rfl⟩

theorem sealed_step (hmac : HmacNonempty rt) (input : LedgerInput) (h : Sealed rt key db) :
    Sealed rt key (ledgerStep rt key.1 db input).2 := by
  cases input with
  | records rows => exact ⟨h.chain, h.head, h.unsealed⟩
  | append call ev =>
    by_cases hc : Commits key.1 call db
    · rw [ledgerStep, appendAuditEvent_commits hc]
      exact sealed_appendRow h (written_auditRow hmac h)
    · obtain ⟨e, he⟩ := appendAuditEvent_fails rt ev hc
      rw [ledgerStep, he]
      exact h

end

/-! ## The order of the listings -/

/-- The order of `ORDER BY timestamp_utc`. -/
abbrev listedBefore (tie : String → Nat) : SoarAuditRow → SoarAuditRow → Prop :=
  lexLe (·.timestampUtc) fun r => tie r.eventId

/-- The clock reading of the append does not sort before a row of its playbook. -/
def InOrder (tie : String → Nat) (call : AppendCall) (ev : AuditEvent) (db : SoarDb) : Prop :=
  ∀ row ∈ db.events, row.playbookId = ev.playbookId → row.timestampUtc < call.now.isoformat ∨
    row.timestampUtc = call.now.isoformat ∧ tie row.eventId ≤ tie call.eventId

/-- Within a playbook the rows stand in listing order. -/
def Ordered (tie : String → Nat) (db : SoarDb) : Prop :=
  db.events.Pairwise fun a b => a.playbookId = b.playbookId → listedBefore tie a b

section
variable {tie : String → Nat} {db : SoarDb}

theorem listAuditEvents_eq :
    (∀ p, listAuditEvents tie p db = db.events.filter (·.playbookId = p)) ↔ Ordered tie db := by
  have hfilter : (∀ p, (db.events.filter (·.playbookId = p)).Pairwise (listedBefore tie)) ↔
      Ordered tie db := by
    unfold Ordered
    simp only [List.pairwise_filter, decide_eq_true_eq]
    refine ⟨fun h => ?_, fun h p => ?_⟩
    · rw [List.pairwise_iff_getElem]
      intro i j hi hj hij hsame
      exact List.pairwise_iff_getElem.1 (h (db.events[j]).playbookId) i j hi hj hij hsame rfl
    · exact h.imp fun hab ha hb => hab (ha.trans hb.symm)
  rw [← hfilter]
  refine forall_congr' fun p => ⟨fun h => ?_, fun h => List.Pairwise.insertionSort_eq h⟩
  rw [← h]
  exact List.pairwise_insertionSort _ _

theorem ordered_appendRow {rt : Runtime} {key : LedgerSecret} {call : AppendCall} {ev : AuditEvent} :
    Ordered tie (appendRow rt key (auditRow rt key call ev db) db) ↔ Ordered tie db ∧ InOrder tie call ev db := by
  simp only [Ordered, appendRow, List.pairwise_append, List.pairwise_singleton, true_and, List.mem_singleton,
    forall_eq]
  rfl

/-- **What is asked of a reachable ledger.** -/
structure LedgerReported (rt : Runtime) (secret : String) (tie : String → Nat) (db : SoarDb) : Prop where
  accepted : db.events ≠ [] → ∀ requireNonEmpty,
    (verifyAuditChainIntegrity rt secret none requireNonEmpty db).1 = true
  acceptedFor : ∀ row ∈ db.events, ∀ requireNonEmpty,
    (verifyAuditChainIntegrity rt secret (some row.playbookId) requireNonEmpty db).1 = true
  sequence : ∀ (i : Nat) row, db.events[i]? = some row → row.sequenceId = some (i + 1 : ℤ)
  genesis : ∀ row, db.events[0]? = some row → row.prevEntrySha256 = SOAR_AUDIT_GENESIS_HASH
  links : ∀ (i : Nat) row next, db.events[i]? = some row → db.events[i + 1]? = some next →
    next.prevEntrySha256 = row.entrySha256
  listing : ∀ p, listAuditEvents tie p db = db.events.filter (·.playbookId = p)
  entries : ∀ p, listAuditEntries tie p db =
    (db.events.filter (·.playbookId = p)).map (·.toSoarAuditEntry)

variable {rt : Runtime} {key : LedgerSecret}

/-- A sealed ledger whose listings are in chain order is as it should be. -/
theorem Sealed.reported (h : Sealed rt key db) (hordered : Ordered tie db) :
    LedgerReported rt key.1 tie db := by
  have hlisting := listAuditEvents_eq.2 hordered
  refine ⟨fun hne req => h.verified hne req (by simp), fun row hrow req => ?_, fun i row hrow => ?_,
    fun row hrow => ?_, fun i row next hrow hnext => ?_, hlisting, fun p => ?_⟩
  · refine h.verified (List.ne_nil_of_mem hrow) req fun p hp => ⟨row, hrow, ?_⟩
    exact Option.some.inj hp
  · have := (h.chain.get hrow).sequence
    rwa [Nat.zero_add] at this
  · exact (h.chain.get hrow).link
  · have hlink := (h.chain.get hnext).link
    rwa [List.take_add_one, hrow, Option.toList_some, headTag_append_singleton] at hlink
  · rw [listAuditEntries, hlisting]

end

section
variable {rt : Runtime} {key : LedgerSecret} {tie : String → Nat} {records : List SoarPlaybookRecord}

theorem sealed_run (key : LedgerSecret) (hmac : HmacNonempty rt) (inputs : List LedgerInput) (k : Nat) :
    Sealed rt key (stateAt (ledgerStep rt key.1) { records } inputs k) :=
  stateAt_inv (fun _ input => sealed_step hmac input) (sealed_empty records) k

/-- A step keeps the order exactly when its append, if it commits, is in order. -/
theorem ordered_step {db : SoarDb} (input : LedgerInput) :
    Ordered tie (ledgerStep rt key.1 db input).2 ↔
      Ordered tie db ∧ ∀ call ev, input = .append call ev → Commits key.1 call db → InOrder tie call ev db := by
  cases input with
  | records rows => simp [ledgerStep, Ordered]
  | append call ev =>
    by_cases hc : Commits key.1 call db
    · rw [ledgerStep, appendAuditEvent_commits hc, ordered_appendRow]
      refine and_congr_right fun _ => ⟨?_, fun h => h call ev rfl hc⟩
      rintro h _ _ ⟨rfl, rfl⟩ -
      exact h
    · obtain ⟨e, he⟩ := appendAuditEvent_fails rt ev hc
      rw [ledgerStep, he]
      refine ⟨fun h => ⟨h, ?_⟩, And.left⟩
      rintro _ _ ⟨rfl, rfl⟩ hcommits
      exact absurd hcommits hc

theorem ordered_run (key : LedgerSecret) (inputs : List LedgerInput) :
    (∀ k, Ordered tie (stateAt (ledgerStep rt key.1) { records } inputs k)) ↔
      ∀ (k : Nat) call ev, inputs[k]? = some (.append call ev) →
        Commits key.1 call (stateAt (ledgerStep rt key.1) { records } inputs k) →
        InOrder tie call ev (stateAt (ledgerStep rt key.1) { records } inputs k) := by
  constructor
  · intro h k call ev hinput
    have hnext := h (k + 1)
    rw [stateAt_succ _ hinput, ordered_step] at hnext
    exact hnext.2 call ev rfl
  · intro h k
    refine stateAt_inv_of (A := fun db input => ∀ call ev, input = .append call ev →
      Commits key.1 call db → InOrder tie call ev db) (fun db input hdb hin => ordered_step input |>.2 ⟨hdb, hin⟩)
      (show Ordered tie { records } from List.Pairwise.nil) (fun j input hj call ev heq => ?_) k
    exact h j call ev (heq ▸ hj)

/-- Without a secret nothing is ever appended. -/
theorem events_of_no_secret (rt : Runtime) (records : List SoarPlaybookRecord) (inputs : List LedgerInput) (k : Nat) :
    (stateAt (ledgerStep rt "") { records } inputs k).events = [] := by
  refine stateAt_inv (I := fun db : SoarDb => db.events = []) (fun db input hdb => ?_) rfl k
  cases input with
  | records rows => exact hdb
  | append call ev =>
    have hnone : ¬ Commits "" call db := fun h => h.2.1 rfl
    obtain ⟨e, he⟩ := appendAuditEvent_fails rt ev hnone
    rw [ledgerStep, he]
    exact hdb

end

/-! ## A ledger of two events -/

def sampleKey : LedgerSecret := ⟨"ledger-key-1", by decide⟩

def sampleEvent : AuditEvent :=
  { playbookId := "soar:4be1c09d27aa", action := "recommend_action"
    actorId := "system:recommendation_engine", oldState := "none", newState := "pending_approval" }

/-- A minute and second of the morning on which the samples take place. -/
def sampleMorning (minute second : Nat) : DateTime :=
  ⟨2026, 3, 3, 9, minute % 60, second % 60, 0, by decide, by omega⟩

def sampleCall : AppendCall :=
  { uuid := "6d1f0a5c2b7e4f3d9a8c1e0b4d5f6a70", now := sampleMorning 0 0 }

/-- The entry of `sampleCall` in an empty ledger. -/
def sampleEntry : SoarAuditEntry :=
  { eventId := sampleCall.eventId, playbookId := sampleEvent.playbookId, action := sampleEvent.action
    actorId := sampleEvent.actorId, oldState := sampleEvent.oldState, newState := sampleEvent.newState
    reason := none, snapshot := none, timestampUtc := sampleCall.now.isoformat }

def sampleEntryHash : String := "ed0447c2357cf2253aa204124d3a86b3ba01c759ec408bf80f57e5c30e7bf031"

/-- HMAC-SHA256 under `sampleKey` of the empty text and of the three texts of that append. -/
def sampleHmacs : List (Bytes × String) :=
  [([], "b9cd2ff5d57df57105eb3c5762923cdd6a76d2b6098b61df6073f6badb8ba85f"),
    (utf8 (entryRepr sampleEntry), sampleEntryHash),
    (utf8 (canonicalRepr sampleEntry 1 ""),
      "5ac8db9a6a37dff4e6313b2c2a9833efe1ad1361851754084f6666310b8cf74a"),
    (utf8 (sealMaterial 1 sampleEntryHash),
      "f0fc020d67a11eee1ca381bca85f502091e39f0d320abd422dcaf38a45fcf3b0")]

def sampleRuntime : Runtime :=
  { sha256 := fun _ => "", fromisoformat := fun _ => none, lower := String.toLower, round := roundDouble
    hmacSha256 := fun _ => tableDigest sampleHmacs }

theorem sampleRuntime_nonempty : HmacNonempty sampleRuntime := by
  have hentries : (sampleHmacs.all fun e => e.2 != "") = true := by decide
  intro k m
  change tableDigest sampleHmacs m ≠ ""
  unfold tableDigest
  cases hfind : sampleHmacs.find? (·.1 = m) with
  | some e =>
    have he := List.all_eq_true.1 hentries e (List.mem_of_find?_eq_some hfind)
    simpa using he
  | none =>
    have hm : m ≠ [] := by
      rintro rfl
      exact absurd (List.find?_eq_none.1 hfind _ List.mem_cons_self) (by simp)
    intro hempty
    rw [String.ofList_eq_empty_iff, List.map_eq_nil_iff] at hempty
    exact hm hempty

section
variable {rt : Runtime}

/-- **Chain order.** In every run the ledger verifies, counts and links as written; and its listings are in
chain order in every state exactly when no committed append read a clock that sorts before a row of its
playbook. -/
theorem ledger_reported_iff (hmac : HmacNonempty rt) (secret : String) (tie : String → Nat)
    (records : List SoarPlaybookRecord) (inputs : List LedgerInput) :
    (∀ k, LedgerReported rt secret tie (stateAt (ledgerStep rt secret) { records } inputs k)) ↔
      ∀ (k : Nat) call ev, inputs[k]? = some (.append call ev) →
        Commits secret call (stateAt (ledgerStep rt secret) { records } inputs k) →
        InOrder tie call ev (stateAt (ledgerStep rt secret) { records } inputs k) := by
  by_cases hsecret : secret = ""
  · subst hsecret
    have hempty := events_of_no_secret rt records inputs
    refine ⟨fun _ k call ev _ hcommits => absurd rfl hcommits.2.1, fun _ k => ?_⟩
    constructor <;> simp [hempty k, listAuditEvents, listAuditEntries]
  · rw [← ordered_run ⟨secret, hsecret⟩]
    refine forall_congr' fun k => ⟨fun h => listAuditEvents_eq.1 h.listing, fun h => ?_⟩
    exact (sealed_run ⟨secret, hsecret⟩ hmac inputs k).reported h

theorem ledger_reported_one :
    LedgerReported sampleRuntime sampleKey.1 (fun _ => 0)
      (stateAt (ledgerStep sampleRuntime sampleKey.1) {} [.append sampleCall sampleEvent] 1) := by
  refine (ledger_reported_iff sampleRuntime_nonempty _ _ [] _).2 (fun k call ev hinput _ => ?_) 1
  cases k with
  | zero => simp [InOrder]
  | succ k => simp at hinput

/-- Two events of one playbook; the second append read the clock first. -/
def crossedAppends : List LedgerInput :=
  [.append { uuid := "0c9b8a7f6e5d4c3b2a19080706050403", now := sampleMorning 0 1 }
      sampleEvent,
    .append sampleCall { sampleEvent with action := "analyst_approve", newState := "approved" }]

/-- The listing ends with the first of the two. -/
theorem ledger_listing_crossed :
    HmacNonempty sampleRuntime ∧ ¬ LedgerReported sampleRuntime sampleKey.1 (fun _ => 0)
      (stateAt (ledgerStep sampleRuntime sampleKey.1) {} crossedAppends 2) := by
  refine ⟨sampleRuntime_nonempty, fun h => ?_⟩
  have hlisting := congrArg (List.map (·.action)) (h.listing sampleEvent.playbookId)
  revert hlisting
  decide +kernel

end
end ThreatFusion.Soar
