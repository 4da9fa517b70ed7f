import ThreatFusion.Admission.Record
import ThreatFusion.Analyst.Schema
import Mathlib.Data.List.TakeWhile
/-
# Appending to a security audit (`db/producer_security_audit.py`, `db/analyst_security_audit.py`)

The two stores are one program over two contracts: an `AuditSchema` holds what differs, which is the version
text, the tables of allowed dispositions and the optional columns with their tests.

| here | there |
| --- | --- |
| `AuditColumns`   | the fields of the event (`τ` is `datetime`), and the columns of `audit_events` (`τ` is text) |
| `accepted`       | `__post_init__` |
| `checks`         | the `CHECK` constraints of `_CREATE_EVENTS` |
| `values`, `event`, `equivalent` | `_values`, `_event`, `_equivalent` |
| `append`         | `append`: `BEGIN IMMEDIATE` … `COMMIT` |

Texts are Unicode, `==` of datetimes compares the instants, and `_is_utc` is the type `DateTime`.
-/
namespace ThreatFusion.Audit
open Py

def MAX_AUDIT_EVENTS : ℤ := 100000

structure AuditColumns (τ O : Type) where
  schemaVersion : String
  auditEventId : String
  eventTime : τ
  correlationId : Option String
  eventType : String
  processingStage : String
  outcome : String
  reasonCode : String
  /-- The columns that only one of the stores has, and the digests. -/
  detail : O
deriving DecidableEq

def AuditColumns.disposition {τ O : Type} (c : AuditColumns τ O) : String × String × String × String :=
  (c.eventType, c.processingStage, c.outcome, c.reasonCode)

/-! ## Text as SQLite sees it -/

/-- SQLite's text functions stop at the first NUL. -/
def sqlChars (s : String) : List Char := s.toList.takeWhile (· != Char.ofNat 0)

/-- `length(s)` -/
def sqlLength (s : String) : Nat := (sqlChars s).length

/-- `length(s) = 64 AND s NOT GLOB '*[^0-9a-f]*'` -/
def sqlDigest (s : String) : Bool := sqlLength s == 64 && (sqlChars s).all isHexLower

theorem sqlLength_le (s : String) : sqlLength s ≤ s.length := by
  rw [sqlLength, sqlChars, ← String.length_toList]
  exact (List.takeWhile_sublist _).length_le

theorem sqlChars_of_all {s : String} {p : Char → Bool} (hnul : p (Char.ofNat 0) = false) (h : s.toList.all p = true) :
    sqlChars s = s.toList := by
  rw [sqlChars, List.takeWhile_eq_self_iff]
  intro c hc
  apply bne_iff_ne.2
  rintro rfl
  rw [List.all_eq_true.1 h _ hc] at hnul
  cases hnul

theorem sqlLength_of_all {s : String} {p : Char → Bool} (hnul : p (Char.ofNat 0) = false) (h : s.toList.all p = true) :
    sqlLength s = s.length := by
  rw [sqlLength, sqlChars_of_all hnul h, String.length_toList]

theorem sqlDigest_of_isSha256 {s : String} (h : isSha256 s = true) : sqlDigest s = true := by
  rw [isSha256, Bool.and_eq_true, isHexDigest] at h
  rw [sqlDigest, sqlLength, sqlChars_of_all (p := isHexLower) rfl h.2, Bool.and_eq_true]
  exact h

theorem uuid4At_nul (i : Nat) : uuid4At i (Char.ofNat 0) = false := by
  unfold uuid4At
  split
  · rfl
  · split
    · rfl
    · split <;> rfl

theorem sqlLength_of_isUuid4 {s : String} (h : isUuid4 s = true) : sqlLength s = 36 := by
  rw [isUuid4, Bool.and_eq_true, beq_iff_eq] at h
  have hnul : s.toList.all (· != Char.ofNat 0) = true := by
    rw [List.all_eq_true]
    intro c hc
    apply bne_iff_ne.2
    rintro rfl
    obtain ⟨i, hi⟩ := List.mem_iff_getElem?.1 hc
    have hat := List.all_eq_true.1 h.2 _ (List.mem_iff_getElem?.2 ⟨i, by rw [List.getElem?_zipIdx, hi]; rfl⟩)
    rw [Nat.zero_add, uuid4At_nul] at hat
    cases hat
  rw [sqlLength_of_all rfl hnul, ← String.length_toList, h.1]

theorem length_isoformat (t : DateTime) : t.isoformat.length = 25 ∨ t.isoformat.length = 32 := by
  have htail : (DateTime.isoTail t.microsecond).length = 6 ∨ (DateTime.isoTail t.microsecond).length = 13 := by
    unfold DateTime.isoTail
    split <;> simp
  simp only [DateTime.isoformat, String.length_ofList, DateTime.isoChars, List.length_append, List.length_cons,
    Numeral.length_numeral]
  omega

theorem sqlLength_isoformat (t : DateTime) : 25 ≤ sqlLength t.isoformat ∧ sqlLength t.isoformat ≤ 32 := by
  have hnul : t.isoformat.toList.all (· != Char.ofNat 0) = true := DateTime.isoformat_all (by decide) (by decide) t
  rw [sqlLength_of_all rfl hnul]
  have := length_isoformat t
  omega

/-! ## A store -/

/-- What one of the stores records. -/
structure AuditSchema (O : Type) where
  AUDIT_EVENT_SCHEMA_VERSION : String
  EVENT_TYPES : List String
  EVENT_DISPOSITIONS : List (String × String × String × String)
  /-- What the dataclass accepts in the optional columns. -/
  accepts : O → Bool
  /-- What their `CHECK` constraints accept. -/
  checks : O → Bool
  admits : ∀ o, accepts o = true → checks o = true

section
variable {O : Type}

def AuditSchema.PROCESSING_STAGES (S : AuditSchema O) : List String := S.EVENT_DISPOSITIONS.map fun d => d.2.1
def AuditSchema.OUTCOMES (S : AuditSchema O) : List String := S.EVENT_DISPOSITIONS.map fun d => d.2.2.1
def AuditSchema.REASON_CODES (S : AuditSchema O) : List String := S.EVENT_DISPOSITIONS.map fun d => d.2.2.2

/-- The four classified columns, tested alike by the dataclass and by the table. -/
def AuditSchema.classified {τ : Type} (S : AuditSchema O) (c : AuditColumns τ O) : Bool :=
  S.EVENT_TYPES.contains c.eventType && S.PROCESSING_STAGES.contains c.processingStage &&
    S.OUTCOMES.contains c.outcome && S.REASON_CODES.contains c.reasonCode &&
    S.EVENT_DISPOSITIONS.contains c.disposition

def AuditSchema.accepted (S : AuditSchema O) (e : AuditColumns DateTime O) : Bool :=
  e.schemaVersion == S.AUDIT_EVENT_SCHEMA_VERSION && isUuid4 e.auditEventId && e.correlationId.all isUuid4 &&
    S.classified e && S.accepts e.detail

def AuditSchema.check (S : AuditSchema O) (row : AuditColumns String O) : Bool :=
  row.schemaVersion == S.AUDIT_EVENT_SCHEMA_VERSION && sqlLength row.auditEventId == 36 &&
    decide (25 ≤ sqlLength row.eventTime ∧ sqlLength row.eventTime ≤ 32) &&
    row.correlationId.all (fun id => sqlLength id == 36) && S.classified row && S.checks row.detail

structure AuditEvent (S : AuditSchema O) extends AuditColumns DateTime O where
  valid : S.accepted toAuditColumns = true

def AuditEvent.new (S : AuditSchema O) (e : AuditColumns DateTime O) : Option (AuditEvent S) :=
  if h : S.accepted e = true then some ⟨e, h⟩ else none

variable {S : AuditSchema O}

@[simp] theorem AuditEvent.new_self (e : AuditEvent S) : AuditEvent.new S e.toAuditColumns = some e := dif_pos e.valid

def AuditColumns.values (e : AuditColumns DateTime O) : AuditColumns String O :=
  { e with eventTime := e.eventTime.isoformat }

/-- `none` is `audit_record_invalid`. -/
def event (S : AuditSchema O) (row : AuditColumns String O) : Option (AuditEvent S) := do
  let eventTime ← DateTime.fromisoformat row.eventTime
  AuditEvent.new S { row with eventTime := eventTime }

/-- Every column but `event_time` and `correlation_id`. -/
def equivalent [DecidableEq O] (stored attempted : AuditColumns DateTime O) : Bool :=
  stored.schemaVersion == attempted.schemaVersion && stored.auditEventId == attempted.auditEventId &&
    stored.eventType == attempted.eventType && stored.processingStage == attempted.processingStage &&
    stored.outcome == attempted.outcome && stored.reasonCode == attempted.reasonCode &&
    stored.detail == attempted.detail

inductive AuditError where
  | eventInvalid | unavailable | busy | writeFailed | recordInvalid | identityConflict | capacityReached
deriving DecidableEq

def AuditError.code : AuditError → String
  | .eventInvalid => "audit_event_invalid"
  | .unavailable => "audit_unavailable"
  | .busy => "audit_busy"
  | .writeFailed => "audit_write_failed"
  | .recordInvalid => "audit_record_invalid"
  | .identityConflict => "audit_event_identity_conflict"
  | .capacityReached => "audit_capacity_reached"

/-- What SQLite does to one call. -/
inductive AuditFault where
  | none | unavailable | busy | failed
deriving DecidableEq

inductive AppendDisposition where
  | created | existing
deriving DecidableEq

structure AuditAppendResult where
  disposition : AppendDisposition
  auditEventId : String
  valid : isUuid4 auditEventId = true

structure AuditRepository where
  capacityLimit : ℤ
  within : 1 ≤ capacityLimit ∧ capacityLimit ≤ MAX_AUDIT_EVENTS

theorem AuditEvent.isUuid4_id (e : AuditEvent S) : isUuid4 e.auditEventId = true := by
  have h := e.valid
  simp only [AuditSchema.accepted, Bool.and_eq_true] at h
  exact h.1.1.1.2

def AuditEvent.result (e : AuditEvent S) (disposition : AppendDisposition) : AuditAppendResult :=
  ⟨disposition, e.auditEventId, e.isUuid4_id⟩

abbrev AuditTable (O : Type) := List (AuditColumns String O)

/-- From `SELECT` to `COMMIT`, under the write lock. -/
def appendTx [DecidableEq O] (repository : AuditRepository) (rows : AuditTable O) (validated : AuditEvent S) :
    Except AuditError AuditAppendResult × AuditTable O :=
  match rows.find? (fun row => row.auditEventId == validated.auditEventId) with
  | some row =>
    match event S row with
    | none => (.error .recordInvalid, rows)
    | some stored =>
      if equivalent stored.toAuditColumns validated.toAuditColumns then (.ok (stored.result .existing), rows)
      else (.error .identityConflict, rows)
  | none =>
    if repository.capacityLimit ≤ rows.length then (.error .capacityReached, rows)
    else if S.check validated.values then (.ok (validated.result .created), rows ++ [validated.values])
    else (.error .writeFailed, rows)

def append [DecidableEq O] (repository : AuditRepository) (fault : AuditFault) (rows : AuditTable O)
    (e : AuditEvent S) : Except AuditError AuditAppendResult × AuditTable O :=
  match AuditEvent.new S e.toAuditColumns with
  | none => (.error .eventInvalid, rows)
  | some validated =>
    match fault with
    | .unavailable => (.error .unavailable, rows)
    | .busy => (.error .busy, rows)
    | .failed => (.error .writeFailed, rows)
    | .none => appendTx repository rows validated

/-! ## The table and the dataclass say the same -/

@[simp] theorem classified_values (e : AuditColumns DateTime O) : S.classified e.values = S.classified e := rfl

/-- No event that the dataclass accepts is refused by a `CHECK`. -/
theorem AuditEvent.check_values (e : AuditEvent S) : S.check e.values = true := by
  have h := e.valid
  simp only [AuditSchema.accepted, Bool.and_eq_true] at h
  obtain ⟨⟨⟨⟨hschema, hid⟩, hcorrelation⟩, hclassified⟩, hdetail⟩ := h
  have hlength : e.correlationId.all (fun id => sqlLength id == 36) = true := by
    rw [Option.all_eq_true] at hcorrelation ⊢
    exact fun id hid => beq_iff_eq.2 (sqlLength_of_isUuid4 (hcorrelation id hid))
  simp only [AuditSchema.check, Bool.and_eq_true]
  refine ⟨⟨⟨⟨⟨hschema, ?_⟩, ?_⟩, hlength⟩, hclassified⟩, S.admits _ hdetail⟩
  · exact beq_iff_eq.2 (sqlLength_of_isUuid4 hid)
  · exact decide_eq_true (sqlLength_isoformat e.eventTime)

/-- A stored event is read back as it was. -/
theorem event_values (e : AuditEvent S) : event S e.values = some e := by
  rw [event, AuditColumns.values, DateTime.fromisoformat_isoformat, Option.bind_eq_bind, Option.bind_some]
  exact e.new_self

theorem equivalent_iff [DecidableEq O] (stored attempted : AuditColumns DateTime O) :
    equivalent stored attempted = true ↔
      attempted = { stored with eventTime := attempted.eventTime, correlationId := attempted.correlationId } := by
  cases stored
  cases attempted
  simp only [equivalent, Bool.and_eq_true, beq_iff_eq, AuditColumns.mk.injEq, true_and]
  grind

end
end ThreatFusion.Audit
