import ThreatFusion.Alerts.Candidate
import ThreatFusion.Py.IsoFormat
import ThreatFusion.Py.Plain
/-
# The analyst workflow: records and authorization

`schemas/analyst_state.py`. Arguments come as any Python value; a frozen dataclass is a structure that
carries its `__post_init__` test.

| here | there |
| --- | --- |
| `isAlertCandidateId` .. `validRationale` | the predicates (:44-80) |
| `Registry.require`        | `AnalystAuthorizationRegistry._require` (:150-172) |
| `AnalystStateSnapshot`    | `AnalystStateSnapshot` (:175-205) |
| `AnalystTransitionEvent`  | `AnalystTransitionEvent` (:208-240) |
| `AnalystTransitionResult` | `AnalystTransitionResult` (:282-305), the reason with its disposition |
-/
namespace ThreatFusion.Analyst
open Py Alerts
open JsonText (isPlain)

def ANALYST_TRANSITION_SCHEMA_VERSION : String := "analyst_transition_v1"
def MAX_ANALYST_RATIONALE_BYTES : Nat := 512

/-- The codes of `AnalystStateError`. -/
inductive AnalystStateError where
  | notAuthorized
  | alertCandidateIdInvalid | stateVersionInvalid | targetStateInvalid | transitionIdInvalid | rationaleInvalid
  | alertRepositoryFailed | alertCandidateNotFound
  | databaseUnavailable | databaseBusy | databaseWriteFailed | databaseReadFailed | databaseRecordInvalid
  | transitionIdentityConflict | stateVersionConflict | transitionInvalid | clockInvalid
  | stateRecordInvalid | transitionRecordInvalid | transitionResultInvalid
  | listLimitInvalid | listOffsetInvalid
deriving DecidableEq

def AnalystStateError.code : AnalystStateError → String
  | .notAuthorized => "analyst_not_authorized"
  | .alertCandidateIdInvalid => "alert_candidate_id_invalid"
  | .stateVersionInvalid => "analyst_state_version_invalid"
  | .targetStateInvalid => "analyst_target_state_invalid"
  | .transitionIdInvalid => "analyst_transition_id_invalid"
  | .rationaleInvalid => "analyst_rationale_invalid"
  | .alertRepositoryFailed => "alert_repository_failed"
  | .alertCandidateNotFound => "alert_candidate_not_found"
  | .databaseUnavailable => "database_unavailable"
  | .databaseBusy => "database_busy"
  | .databaseWriteFailed => "database_write_failed"
  | .databaseReadFailed => "database_read_failed"
  | .databaseRecordInvalid => "database_record_invalid"
  | .transitionIdentityConflict => "analyst_transition_identity_conflict"
  | .stateVersionConflict => "analyst_state_version_conflict"
  | .transitionInvalid => "analyst_transition_invalid"
  | .clockInvalid => "analyst_clock_invalid"
  | .stateRecordInvalid => "analyst_state_record_invalid"
  | .transitionRecordInvalid => "analyst_transition_record_invalid"
  | .transitionResultInvalid => "analyst_transition_result_invalid"
  | .listLimitInvalid => "list_limit_invalid"
  | .listOffsetInvalid => "list_offset_invalid"

inductive AnalystState where
  | new | inReview | closed | escalated
deriving DecidableEq

def AnalystState.text : AnalystState → String
  | .new => "new"
  | .inReview => "in_review"
  | .closed => "closed"
  | .escalated => "escalated"

/-- `_TRANSITIONS` (:23), which is also the table `allowed` of the repository. -/
def AnalystState.allowed : AnalystState → List AnalystState
  | .new => [.inReview]
  | .inReview => [.closed, .escalated]
  | .closed | .escalated => []

/-! ## Values and predicates -/

/-- An argument: a `str`, an `int`, or a value of any other type. -/
inductive Value where
  | str (s : String)
  | int (n : ℤ)
  | other
deriving DecidableEq

def isAlertCandidateId (s : String) : Bool :=
  let pre := ALERT_CANDIDATE_SCHEMA_VERSION ++ ":"
  pre.toList.isPrefixOf s.toList && isSha256 (String.ofList (s.toList.drop pre.length))

def isActorEnd (c : Char) : Bool := ('a' ≤ c && c ≤ 'z') || ('0' ≤ c && c ≤ '9')

def isActorInner (c : Char) : Bool := isActorEnd c || c == '.' || c == '_' || c == '-'

/-- `[a-z0-9](?:[a-z0-9._-]{0,62}[a-z0-9])?` on the whole text. -/
def validActorId (s : String) : Bool :=
  let cs := s.toList
  cs.head?.any isActorEnd && cs.getLast?.any isActorEnd && cs.all isActorInner && decide (cs.length ≤ 64)

/-- `printable` is `str.isprintable()` on one character. -/
def validRationale (printable : Char → Bool) (s : String) : Bool :=
  s == strip s && s.toList.all printable &&
    decide (0 < (utf8 s).length ∧ (utf8 s).length ≤ MAX_ANALYST_RATIONALE_BYTES)

theorem isPlain_of_isAlertCandidateId {s : String} (h : isAlertCandidateId s = true) :
    s.toList.all isPlain = true ∧ s.length = 83 := by
  rw [isAlertCandidateId, Bool.and_eq_true] at h
  exact isPlain_of_prefixed (show (ALERT_CANDIDATE_SCHEMA_VERSION ++ ":").toList.all isPlain = true by decide) h.1 h.2

theorem isPlain_of_validActorId {s : String} (h : validActorId s = true) :
    s.toList.all isPlain = true ∧ s.length ≤ 64 := by
  simp only [validActorId, Bool.and_eq_true, decide_eq_true_eq, List.all_eq_true] at h
  refine ⟨List.all_eq_true.2 fun d hd => isPlain_of_bounds ?_, h.2⟩
  have hinner := h.1.2 d hd
  simp only [isActorInner, isActorEnd, Bool.or_eq_true, Bool.and_eq_true, decide_eq_true_eq, beq_iff_eq,
    Char.le_def, UInt32.le_iff_toNat_le] at hinner
  rcases hinner with (((hinner | hinner) | rfl) | rfl) | rfl
  · exact .inr (.inl ⟨(by decide : 95 ≤ 97).trans hinner.1, hinner.2⟩)
  · exact .inl ⟨hinner.1, hinner.2.trans (by decide)⟩
  all_goals decide

/-! ## Authorization -/

inductive AnalystRole where
  | viewer | analyst
deriving DecidableEq

structure AnalystRegistryEntry where
  actorId : String
  role : AnalystRole
  enabled : Bool := true
  valid : validActorId actorId = true

structure AnalystCapability where
  actorId : String
  role : AnalystRole
  registryId : String
  token : Bytes
deriving DecidableEq

/-- `signature` is `_signature`, the HMAC under the secret of the registry. -/
structure Registry where
  entries : List AnalystRegistryEntry
  registryId : String
  signature : String → AnalystRole → Bytes

/-- The capability of a call; `none` is a value that is none, or one with a field of another type. -/
def Registry.require (reg : Registry) (transition : Bool) (capability : Option AnalystCapability) :
    Except AnalystStateError String :=
  match capability with
  | none => .error .notAuthorized
  | some capability =>
    if !validActorId capability.actorId then .error .notAuthorized
    else match reg.entries.find? (·.actorId == capability.actorId) with
      | none => .error .notAuthorized
      | some entry =>
        if capability.registryId != reg.registryId || !entry.enabled || entry.role != capability.role ||
            capability.token != reg.signature capability.actorId capability.role ||
            (transition && capability.role != .analyst) then .error .notAuthorized
        else .ok capability.actorId

theorem Registry.require_valid {reg : Registry} {transition : Bool} {capability : Option AnalystCapability}
    {actor : String} (h : reg.require transition capability = .ok actor) : validActorId actor = true := by
  unfold Registry.require at h
  split at h
  · cases h
  · rename_i capability
    split at h
    · cases h
    · rename_i hactor
      split at h
      · cases h
      · split at h
        · cases h
        · cases h
          simpa using hactor

/-! ## The dataclasses -/

structure SnapshotFields where
  alertCandidateId : String
  state : AnalystState
  version : ℤ
  updatedAt : Option DateTime
  updatedBy : Option String
  lastTransitionId : Option String
deriving DecidableEq

def SnapshotFields.accepted (s : SnapshotFields) : Bool :=
  isAlertCandidateId s.alertCandidateId &&
  if s.state = .new then
    s.version == 0 && s.updatedAt.isNone && s.updatedBy.isNone && s.lastTransitionId.isNone
  else
    s.version == (if s.state = .inReview then 1 else 2) && s.updatedAt.isSome && s.updatedBy.any validActorId &&
      s.lastTransitionId.any isUuid4

structure AnalystStateSnapshot extends SnapshotFields where
  valid : toSnapshotFields.accepted = true
deriving DecidableEq

def AnalystStateSnapshot.new (s : SnapshotFields) : Except AnalystStateError AnalystStateSnapshot :=
  if h : s.accepted = true then .ok ⟨s, h⟩ else .error .stateRecordInvalid

structure EventFields where
  schemaVersion : String
  transitionId : String
  alertCandidateId : String
  sequence : ℤ
  expectedVersion : ℤ
  fromState : AnalystState
  toState : AnalystState
  actorId : String
  rationale : String
  transitionedAt : DateTime
deriving DecidableEq

def EventFields.accepted (printable : Char → Bool) (e : EventFields) : Bool :=
  e.schemaVersion == ANALYST_TRANSITION_SCHEMA_VERSION && isUuid4 e.transitionId &&
  isAlertCandidateId e.alertCandidateId && e.sequence == e.expectedVersion + 1 &&
  e.fromState.allowed.contains e.toState && e.expectedVersion == (if e.fromState = .new then 0 else 1) &&
  validActorId e.actorId && validRationale printable e.rationale

structure AnalystTransitionEvent (printable : Char → Bool) extends EventFields where
  valid : toEventFields.accepted printable = true
deriving DecidableEq

def AnalystTransitionEvent.new (printable : Char → Bool) (e : EventFields) :
    Except AnalystStateError (AnalystTransitionEvent printable) :=
  if h : e.accepted printable = true then .ok ⟨e, h⟩ else .error .transitionRecordInvalid

inductive Disposition where
  | created | existing
deriving DecidableEq

structure AnalystTransitionResult (printable : Char → Bool) where
  disposition : Disposition
  analystState : AnalystStateSnapshot
  transition : AnalystTransitionEvent printable
deriving DecidableEq

/-- The constructor call with its test. -/
def AnalystTransitionResult.new {printable : Char → Bool} (disposition : Disposition)
    (state : AnalystStateSnapshot) (event : AnalystTransitionEvent printable) :
    Except AnalystStateError (AnalystTransitionResult printable) :=
  if state.alertCandidateId != event.alertCandidateId || decide (state.version < event.sequence) then
    .error .transitionResultInvalid
  else .ok ⟨disposition, state, event⟩

section
variable {printable : Char → Bool}

@[simp] theorem AnalystStateSnapshot.new_self (s : AnalystStateSnapshot) :
    AnalystStateSnapshot.new s.toSnapshotFields = .ok s := dif_pos s.valid

@[simp] theorem AnalystTransitionEvent.new_self (e : AnalystTransitionEvent printable) :
    AnalystTransitionEvent.new printable e.toEventFields = .ok e := dif_pos e.valid

/-- What a valid event says about its place: it leads from `new` or from `in_review`. -/
theorem AnalystTransitionEvent.step (e : AnalystTransitionEvent printable) :
    (e.fromState = .new ∧ e.toState = .inReview ∧ e.expectedVersion = 0 ∧ e.sequence = 1) ∨
    (e.fromState = .inReview ∧ (e.toState = .closed ∨ e.toState = .escalated) ∧ e.expectedVersion = 1 ∧
      e.sequence = 2) := by
  have h := e.valid
  simp only [EventFields.accepted, Bool.and_eq_true, beq_iff_eq, List.contains_iff_mem] at h
  obtain ⟨⟨⟨⟨⟨⟨⟨-, -⟩, -⟩, hsequence⟩, hallowed⟩, hexpected⟩, -⟩, -⟩ := h
  cases hfrom : e.fromState with
  | new =>
    rw [hfrom] at hallowed hexpected
    rw [if_pos rfl] at hexpected
    exact .inl ⟨rfl, List.mem_singleton.1 hallowed, hexpected, by omega⟩
  | inReview =>
    rw [hfrom] at hallowed hexpected
    rw [if_neg (by decide)] at hexpected
    refine .inr ⟨rfl, ?_, hexpected, by omega⟩
    simpa [AnalystState.allowed] using hallowed
  | closed | escalated => simp [hfrom, AnalystState.allowed] at hallowed

end
end ThreatFusion.Analyst
