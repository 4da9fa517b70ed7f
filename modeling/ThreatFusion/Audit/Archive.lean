import ThreatFusion.Audit.Events
import ThreatFusion.Lib.Result
import ThreatFusion.Storage.Model
import Mathlib.Data.List.Lex
import Mathlib.Data.Prod.Lex
/-
# Verifying an archive of the security audit (`operations/audit_retention.py`)

An archive directory is a table of files; `verifySecurityAuditArchive` runs inside `_directory_context`.

| here | there |
| --- | --- |
| `readJson`     | `json.loads(raw.decode("utf-8"), object_pairs_hook=_unique_hook)`, `none` where that raises |
| `readFile`     | `os.open`, `os.fstat` and `os.read` of one file |
| `readManifest` | the manifest and its schema (:346-352) |
| `readEvent`, `verifyRows` | the loop over the lines (:393-425) |
| `checkEnds`    | the assertion and the comparisons after the loop (:427-436) |

What a text of any shape is to Python's parsers comes from the environment: `tooDeep` says on which texts `json`
runs out of stack, `floatIs` when a float is an integer, and `isUtcText` on which texts
`is_utc(datetime.fromisoformat(t))` is true (where it raises it is not).
-/
namespace ThreatFusion.Audit
open Py JsonText Storage

def AUDIT_ARCHIVE_SCHEMA : String := "security_audit_archive_v1"
def AUDIT_ARCHIVE_EVENTS_FILENAME : String := "audit_events.jsonl"
def AUDIT_ARCHIVE_MANIFEST_FILENAME : String := "manifest.json"
def MAX_ARCHIVE_MANIFEST_BYTES : Nat := 65536
def MAX_ARCHIVE_EVENTS_BYTES : Nat := 100 * 1024 * 1024

def AUDIT_EVENT_COLUMNS : List String :=
  ["schema_version", "audit_event_id", "event_time", "correlation_id", "event_type", "processing_stage", "outcome",
    "reason_code", "actor_id", "credential_sha256", "request_route", "body_sha256"]

inductive AuditRetentionError where
  | archiveIncomplete | permissionInvalid | manifestInvalid | digestMismatch | archiveTampered
deriving DecidableEq

def AuditRetentionError.code : AuditRetentionError → String
  | .archiveIncomplete => "archive_incomplete"
  | .permissionInvalid => "permission_invalid"
  | .manifestInvalid => "manifest_invalid"
  | .digestMismatch => "digest_mismatch"
  | .archiveTampered => "archive_tampered"

/-- What a call raises: its own error, or one of Python's that it does not catch. -/
inductive ArchiveRaised where
  | retention (e : AuditRetentionError)
  | os | assertion
deriving DecidableEq

structure ArchiveFile where
  kind : FileKind
  owned : Bool
  mode : Nat
  links : Nat
  bytes : Bytes

abbrev ArchiveDirectory := List (String × ArchiveFile)

abbrev Fields := List (List Nat × Value)

/-- A line of the archive as it was read. -/
structure ArchivedEvent where
  pairs : Fields
  eventTime : List Nat
  auditEventId : List Nat

/-- `(event_time, audit_event_id)`, ordered by code points. -/
def ArchivedEvent.key (e : ArchivedEvent) : Lex (List Nat × List Nat) := toLex (e.eventTime, e.auditEventId)

def readFile (dir : ArchiveDirectory) (name : String) (limit : Nat) : Except ArchiveRaised Bytes :=
  match dir.lookup name with
  | none => .error (.retention .archiveIncomplete)
  | some file =>
    if file.kind = .symlink then .error .os
    else if file.kind ≠ .regular ∨ file.owned = false ∨ file.mode ≠ 0o600 ∨ file.links ≠ 1 ∨ limit < file.bytes.length
    then .error (.retention .permissionInvalid)
    else .ok file.bytes

/-- `value == text` for a text that was read. -/
def isPoints (text : List Nat) : Value → Bool
  | .str ps => ps == text
  | _ => false

section
variable (tooDeep : List Char → Bool)

def readJson (raw : Bytes) : Option Value := do
  let text ← decodeUtf8 raw
  guard (!tooDeep text)
  let v ← loads text
  guard (v.strict fun _ => true)
  return v

def readManifest (raw : Bytes) : Except ArchiveRaised Fields :=
  match readJson tooDeep raw with
  | some (.obj pairs) =>
    if (field pairs "schema").any (isText AUDIT_ARCHIVE_SCHEMA) then .ok pairs
    else .error (.retention .manifestInvalid)
  | _ => .error (.retention .manifestInvalid)

section
variable (isUtcText : List Nat → Bool)

/-- One line; `none` is `archive_tampered`. -/
def readEvent (line : Bytes) : Option ArchivedEvent :=
  if line = [] then none
  else match readJson tooDeep line with
    | some (.obj pairs) =>
      if !(field pairs "schema_version").any (isText AUDIT_EVENT_SCHEMA_VERSION) ||
          !AUDIT_EVENT_COLUMNS.all fun c => (field pairs c).isSome then none
      else match field pairs "event_time", field pairs "audit_event_id" with
        | some (.str eventTime), some (.str auditEventId) =>
          if isUtcText eventTime then some ⟨pairs, eventTime, auditEventId⟩ else none
        | _, _ => none
    | _ => none

def verifyRows : Option (Lex (List Nat × List Nat)) → List Bytes → Except ArchiveRaised (List ArchivedEvent)
  | _, [] => .ok []
  | prev, line :: rest => match readEvent tooDeep isUtcText line with
    | none => .error (.retention .archiveTampered)
    | some e =>
      if prev.any fun key => decide (e.key ≤ key) then .error (.retention .archiveTampered)
      else do
        let events ← verifyRows (some e.key) rest
        return e :: events

def checkEnds (manifest : Fields) (events : List ArchivedEvent) : Except ArchiveRaised Unit :=
  match events.head?, events.getLast? with
  | some first, some last =>
    if (field manifest "first_audit_id").any (isPoints first.auditEventId) &&
        (field manifest "last_audit_id").any (isPoints last.auditEventId) &&
        (field manifest "first_recorded_at_utc").any (isPoints first.eventTime) &&
        (field manifest "last_recorded_at_utc").any (isPoints last.eventTime) then .ok ()
    else .error (.retention .archiveTampered)
  | _, _ => .error .assertion

variable (sha256 : Bytes → String) (floatIs : String → ℤ → Bool)

def verifyEvents (manifest : Fields) (raw : Bytes) : Except ArchiveRaised Unit := do
  if !(field manifest "size_bytes").any (isNumber floatIs raw.length) then .error (.retention .digestMismatch)
  else if !(field manifest "sha256_digest").any (isText (sha256 raw)) then .error (.retention .digestMismatch)
  else
    let lines := raw.splitOn 10
    if lines.getLast? ≠ some [] then .error (.retention .archiveTampered)
    else if !(field manifest "row_count").any (isNumber floatIs lines.dropLast.length) then
      .error (.retention .archiveTampered)
    else
      let events ← verifyRows tooDeep isUtcText none lines.dropLast
      checkEnds manifest events

def verifySecurityAuditArchive (dir : ArchiveDirectory) : Except ArchiveRaised Fields := do
  let expected := [AUDIT_ARCHIVE_MANIFEST_FILENAME, AUDIT_ARCHIVE_EVENTS_FILENAME]
  let names := dir.map Prod.fst
  if expected.any (· ∉ names) || names.any (· ∉ expected) then .error (.retention .archiveIncomplete)
  else
    let rawManifest ← readFile dir AUDIT_ARCHIVE_MANIFEST_FILENAME MAX_ARCHIVE_MANIFEST_BYTES
    let manifest ← readManifest tooDeep rawManifest
    let rawEvents ← readFile dir AUDIT_ARCHIVE_EVENTS_FILENAME MAX_ARCHIVE_EVENTS_BYTES
    verifyEvents tooDeep isUtcText sha256 floatIs manifest rawEvents
    return manifest

end
end

/-! ## What an accepted archive holds -/

theorem isText_iff {s : String} {v : Value} : isText s v = true ↔ v = .str (points s) := by
  cases v <;> simp [isText]

theorem isPoints_iff {text : List Nat} {v : Value} : isPoints text v = true ↔ v = .str text := by
  cases v <;> simp [isPoints]

theorem any_isPoints {pairs : Fields} {key : String} {text : List Nat} :
    (field pairs key).any (isPoints text) = true ↔ field pairs key = some (.str text) := by
  rw [Option.any_eq_true]
  constructor
  · rintro ⟨v, hv, htext⟩
    rw [hv, isPoints_iff.1 htext]
  · exact fun h => ⟨_, h, isPoints_iff.2 rfl⟩

theorem any_isText {pairs : Fields} {key s : String} :
    (field pairs key).any (isText s) = true ↔ field pairs key = some (.str (points s)) := by
  rw [Option.any_eq_true]
  constructor
  · rintro ⟨v, hv, htext⟩
    rw [hv, isText_iff.1 htext]
  · exact fun h => ⟨_, h, isText_iff.2 rfl⟩

/-- A text whose last line is empty is its other lines, each with its line feed. -/
theorem splitOn_rows {raw : Bytes} (h : (raw.splitOn 10).getLast? = some []) :
    raw = (raw.splitOn 10).dropLast.flatMap (· ++ [10]) := by
  have hjoin : ∀ rows : List Bytes, [10].intercalate (rows ++ [[]]) = rows.flatMap (· ++ [10]) := by
    intro rows
    induction rows with
    | nil => rfl
    | cons row rows ih =>
      rw [List.cons_append, List.intercalate_cons_of_ne_nil (by simp), ih, List.flatMap_cons]
  have hlines : (raw.splitOn 10).dropLast ++ [[]] = raw.splitOn 10 :=
    List.dropLast_append_getLast? _ h
  calc raw = [10].intercalate (raw.splitOn 10) := (List.intercalate_splitOn 10).symm
    _ = (raw.splitOn 10).dropLast.flatMap (· ++ [10]) := by rw [← hjoin, hlines]

theorem not_mem_splitOn (raw : Bytes) : ∀ line ∈ raw.splitOn 10, 10 ∉ line := by
  induction raw with
  | nil => simp
  | cons b raw ih =>
    rw [List.splitOn_cons_eq_if_modifyHead]
    split
    · simpa using ih
    · rename_i hb
      cases hlines : raw.splitOn 10 with
      | nil => simp
      | cons line lines =>
        rw [hlines] at ih
        intro l hl
        rcases List.mem_cons.1 hl with rfl | hl
        · rw [List.mem_cons, not_or]
          exact ⟨fun h => hb (beq_iff_eq.2 h.symm), ih line List.mem_cons_self⟩
        · exact ih l (List.mem_cons_of_mem _ hl)

/-- A line that was accepted as this event. -/
structure Line (tooDeep : List Char → Bool) (isUtcText : List Nat → Bool) (line : Bytes) (e : ArchivedEvent) : Prop where
  json : readJson tooDeep line = some (.obj e.pairs)
  columns : ∀ c ∈ AUDIT_EVENT_COLUMNS, ∃ v, field e.pairs c = some v
  schema : field e.pairs "schema_version" = some (.str (points AUDIT_EVENT_SCHEMA_VERSION))
  time : field e.pairs "event_time" = some (.str e.eventTime)
  id : field e.pairs "audit_event_id" = some (.str e.auditEventId)
  utc : isUtcText e.eventTime = true

section
variable {tooDeep : List Char → Bool} {isUtcText : List Nat → Bool} {sha256 : Bytes → String}
  {floatIs : String → ℤ → Bool}

theorem line_of_readEvent {line : Bytes} {e : ArchivedEvent} (h : readEvent tooDeep isUtcText line = some e) :
    Line tooDeep isUtcText line e := by
  unfold readEvent at h
  split at h
  · cases h
  · split at h
    · rename_i pairs hjson
      split at h
      · cases h
      · rename_i hcolumns
        split at h
        · rename_i htime hid
          split at h
          · rename_i hutc
            cases h
            simp only [Bool.or_eq_true, Bool.not_eq_true', not_or, Bool.not_eq_false, List.all_eq_true] at hcolumns
            refine ⟨hjson, fun c hc => ?_, any_isText.1 hcolumns.1, htime, hid, hutc⟩
            exact Option.isSome_iff_exists.1 (hcolumns.2 c hc)
          · cases h
        · cases h
    · cases h

/-- The lines of an accepted archive, in strictly increasing order. -/
theorem verifyRows_ends (rows : List Bytes) : ∀ prev : Option (Lex (List Nat × List Nat)),
    (verifyRows tooDeep isUtcText prev rows).Ends
      (fun events => List.Forall₂ (Line tooDeep isUtcText) rows events ∧
        (events.map ArchivedEvent.key).Pairwise (· < ·) ∧ ∀ key ∈ prev, ∀ e ∈ events, key < e.key)
      fun x => ∃ e, x = .retention e := by
  induction rows with
  | nil =>
    intro prev
    exact ⟨.nil, List.Pairwise.nil, nofun⟩
  | cons line rest ih =>
    intro prev
    rw [verifyRows]
    cases hline : readEvent tooDeep isUtcText line with
    | none => exact ⟨_, rfl⟩
    | some e =>
      apply Except.Ends.ite ⟨_, rfl⟩
      intro hprev
      apply (ih (some e.key)).bind fun _ h => h
      rintro events ⟨hrows, hsorted, hlater⟩
      refine ⟨.cons (line_of_readEvent hline) hrows, ?_, ?_⟩
      · rw [List.map_cons, List.pairwise_cons]
        refine ⟨fun key hkey => ?_, hsorted⟩
        obtain ⟨e', he', rfl⟩ := List.mem_map.1 hkey
        exact hlater _ rfl e' he'
      · intro key hkey
        have hlt : key < e.key := by
          rw [Option.mem_def.1 hkey] at hprev
          simpa using hprev
        intro e' he'
        rcases List.mem_cons.1 he' with rfl | he'
        · exact hlt
        · exact hlt.trans (hlater _ rfl e' he')

/-- What a verified archive is: its events file `raw`, line by line the events, as the manifest says. -/
structure Described (tooDeep : List Char → Bool) (isUtcText : List Nat → Bool) (sha256 : Bytes → String)
    (floatIs : String → ℤ → Bool) (manifest : Fields) (raw : Bytes) (events : List ArchivedEvent) : Prop where
  nonempty : events ≠ []
  lines : ∃ rows : List Bytes, raw = rows.flatMap (· ++ [10]) ∧ (∀ row ∈ rows, 10 ∉ row) ∧
    List.Forall₂ (Line tooDeep isUtcText) rows events
  increasing : (events.map ArchivedEvent.key).Pairwise (· < ·)
  count : (field manifest "row_count").any (isNumber floatIs events.length) = true
  size : (field manifest "size_bytes").any (isNumber floatIs raw.length) = true
  digest : field manifest "sha256_digest" = some (.str (points (sha256 raw)))
  first : ∀ e ∈ events.head?, field manifest "first_audit_id" = some (.str e.auditEventId) ∧
    field manifest "first_recorded_at_utc" = some (.str e.eventTime)
  last : ∀ e ∈ events.getLast?, field manifest "last_audit_id" = some (.str e.auditEventId) ∧
    field manifest "last_recorded_at_utc" = some (.str e.eventTime)

/-- The manifest counts no events. -/
def countsNone (sha256 : Bytes → String) (floatIs : String → ℤ → Bool) (manifest : Fields) : Bool :=
  (field manifest "size_bytes").any (isNumber floatIs 0) && (field manifest "sha256_digest").any (isText (sha256 [])) &&
    (field manifest "row_count").any (isNumber floatIs 0)

theorem checkEnds_ends (manifest : Fields) (events : List ArchivedEvent) :
    (checkEnds manifest events).Ends
      (fun _ => events ≠ [] ∧
        (∀ e ∈ events.head?, field manifest "first_audit_id" = some (.str e.auditEventId) ∧
          field manifest "first_recorded_at_utc" = some (.str e.eventTime)) ∧
        ∀ e ∈ events.getLast?, field manifest "last_audit_id" = some (.str e.auditEventId) ∧
          field manifest "last_recorded_at_utc" = some (.str e.eventTime))
      fun x => (∃ e, x = .retention e) ∨ x = .assertion ∧ events = [] := by
  unfold checkEnds
  split
  · rename_i first last hfirst hlast
    split
    · rename_i hends
      simp only [Bool.and_eq_true, any_isPoints] at hends
      obtain ⟨⟨⟨hfirstId, hlastId⟩, hfirstTime⟩, hlastTime⟩ := hends
      refine ⟨?_, ?_, ?_⟩
      · rintro rfl
        cases hfirst
      · rintro e he
        cases hfirst.symm.trans he
        exact ⟨hfirstId, hfirstTime⟩
      · rintro e he
        cases hlast.symm.trans he
        exact ⟨hlastId, hlastTime⟩
    · exact .inl ⟨_, rfl⟩
  · rename_i hnone
    refine .inr ⟨rfl, ?_⟩
    cases events with
    | nil => rfl
    | cons e events => exact absurd List.getLast?_cons (hnone e _ rfl)

theorem verifyEvents_ends (manifest : Fields) (raw : Bytes) :
    (verifyEvents tooDeep isUtcText sha256 floatIs manifest raw).Ends
      (fun _ => ∃ events, Described tooDeep isUtcText sha256 floatIs manifest raw events)
      fun x => (∃ e, x = .retention e) ∨ x = .assertion ∧ raw = [] ∧ countsNone sha256 floatIs manifest = true := by
  unfold verifyEvents
  apply Except.Ends.ite (.inl ⟨_, rfl⟩)
  intro hsize
  apply Except.Ends.ite (.inl ⟨_, rfl⟩)
  intro hdigest
  apply Except.Ends.ite (.inl ⟨_, rfl⟩)
  intro hlast
  apply Except.Ends.ite (.inl ⟨_, rfl⟩)
  intro hcount
  simp only [Bool.not_eq_true', Bool.not_eq_false, not_not] at hsize hdigest hlast hcount
  have hraw := splitOn_rows hlast
  apply (verifyRows_ends (raw.splitOn 10).dropLast none).bind fun _ h => .inl h
  rintro events ⟨hlines, hsorted, -⟩
  apply (checkEnds_ends manifest events).mono
  · rintro - ⟨hne, hfirst, hlast⟩
    refine ⟨events, hne, ⟨_, hraw, fun row hrow => ?_, hlines⟩, hsorted, ?_, hsize, any_isText.1 hdigest, hfirst, hlast⟩
    · exact not_mem_splitOn raw row (List.mem_of_mem_dropLast hrow)
    · rw [← hlines.length_eq]
      exact hcount
  · rintro x (h | ⟨rfl, rfl⟩)
    · exact .inl h
    · -- no line was read, so the text before the last line feed is empty
      have hnone : (raw.splitOn 10).dropLast = [] := List.forall₂_nil_right_iff.1 hlines
      rw [hnone] at hraw hcount
      rw [List.flatMap_nil] at hraw
      subst hraw
      refine .inr ⟨rfl, rfl, ?_⟩
      rw [countsNone, Bool.and_eq_true, Bool.and_eq_true]
      exact ⟨⟨hsize, hdigest⟩, hcount⟩

theorem verifyEvents_nil {manifest : Fields} (h : countsNone sha256 floatIs manifest = true) :
    verifyEvents tooDeep isUtcText sha256 floatIs manifest [] = .error .assertion := by
  simp only [countsNone, Bool.and_eq_true] at h
  obtain ⟨⟨hsize, hdigest⟩, hcount⟩ := h
  have hlength : (([] : Bytes).length : ℤ) = 0 := rfl
  have hrows : (([] : Bytes).splitOn 10).dropLast.length = 0 := rfl
  rw [verifyEvents, hlength, hsize, hdigest]
  simp only [Bool.not_true, Bool.false_eq_true, if_false]
  rw [if_neg (by decide), hrows, Nat.cast_zero, hcount]
  rfl

/-! ## A directory with the correct modes -/

/-- A regular file of the operator's with mode 0600 and one name. -/
def privateFile (bytes : Bytes) : ArchiveFile := ⟨.regular, true, 0o600, 1, bytes⟩

def archiveOf (manifest events : Bytes) : ArchiveDirectory :=
  [(AUDIT_ARCHIVE_MANIFEST_FILENAME, privateFile manifest), (AUDIT_ARCHIVE_EVENTS_FILENAME, privateFile events)]

/-- The events file is empty, and the manifest, well formed, says so. -/
def emptyArchive (tooDeep : List Char → Bool) (sha256 : Bytes → String) (floatIs : String → ℤ → Bool)
    (manifest events : Bytes) : Bool :=
  events.isEmpty && decide (manifest.length ≤ MAX_ARCHIVE_MANIFEST_BYTES) &&
    (readManifest tooDeep manifest).toOption.any (countsNone sha256 floatIs)

theorem readFile_private {dir : ArchiveDirectory} {name : String} {bytes : Bytes} (limit : Nat)
    (h : dir.lookup name = some (privateFile bytes)) :
    readFile dir name limit =
      if limit < bytes.length then .error (.retention .permissionInvalid) else .ok bytes := by
  rw [readFile, h]
  simp [privateFile]

theorem verify_archiveOf (manifest events : Bytes) :
    verifySecurityAuditArchive tooDeep isUtcText sha256 floatIs (archiveOf manifest events) = do
      if MAX_ARCHIVE_MANIFEST_BYTES < manifest.length then .error (.retention .permissionInvalid)
      else
        let fields ← readManifest tooDeep manifest
        if MAX_ARCHIVE_EVENTS_BYTES < events.length then .error (.retention .permissionInvalid)
        else
          verifyEvents tooDeep isUtcText sha256 floatIs fields events
          return fields := by
  have hnames : ((archiveOf manifest events).map Prod.fst) =
      [AUDIT_ARCHIVE_MANIFEST_FILENAME, AUDIT_ARCHIVE_EVENTS_FILENAME] := rfl
  have hmanifest : (archiveOf manifest events).lookup AUDIT_ARCHIVE_MANIFEST_FILENAME = some (privateFile manifest) := rfl
  have hevents : (archiveOf manifest events).lookup AUDIT_ARCHIVE_EVENTS_FILENAME = some (privateFile events) := rfl
  unfold verifySecurityAuditArchive
  rw [hnames, if_neg (by decide), readFile_private _ hmanifest, readFile_private _ hevents]
  split
  · rfl
  · rw [Except.ok_bind]
    refine bind_congr fun fields => ?_
    split
    · rfl
    · rfl

/-- The call returns a manifest that describes the archive, or it raises its own error. -/
def Settled (tooDeep : List Char → Bool) (isUtcText : List Nat → Bool) (sha256 : Bytes → String)
    (floatIs : String → ℤ → Bool) (manifest events : Bytes) : Prop :=
  (verifySecurityAuditArchive tooDeep isUtcText sha256 floatIs (archiveOf manifest events)).Ends
    (fun fields => readJson tooDeep manifest = some (.obj fields) ∧
      ∃ es, Described tooDeep isUtcText sha256 floatIs fields events es)
    fun x => ∃ e, x = .retention e

theorem readManifest_ends (manifest : Bytes) :
    (readManifest tooDeep manifest).Ends
      (fun fields => readManifest tooDeep manifest = .ok fields ∧ readJson tooDeep manifest = some (.obj fields))
      fun x => ∃ e, x = .retention e := by
  unfold readManifest
  split
  · rename_i hjson
    split
    · exact ⟨rfl, hjson⟩
    · exact ⟨_, rfl⟩
  · exact ⟨_, rfl⟩

theorem assertion_of_emptyArchive {manifest events : Bytes}
    (hempty : emptyArchive tooDeep sha256 floatIs manifest events = true) :
    verifySecurityAuditArchive tooDeep isUtcText sha256 floatIs (archiveOf manifest events) = .error .assertion := by
  simp only [emptyArchive, Bool.and_eq_true, List.isEmpty_iff, decide_eq_true_eq] at hempty
  obtain ⟨⟨rfl, hlength⟩, hfields⟩ := hempty
  rw [verify_archiveOf, if_neg (Nat.not_lt.2 hlength)]
  cases hread : readManifest tooDeep manifest with
  | error e =>
    rw [hread] at hfields
    cases hfields
  | ok fields =>
    rw [hread] at hfields
    rw [Except.ok_bind, if_neg (by decide), verifyEvents_nil hfields, Except.error_bind]

theorem not_settled_of_assertion {manifest events : Bytes} (h : verifySecurityAuditArchive tooDeep isUtcText sha256
    floatIs (archiveOf manifest events) = .error .assertion) :
    ¬ Settled tooDeep isUtcText sha256 floatIs manifest events := by
  intro hsettled
  rw [Settled, h] at hsettled
  obtain ⟨e, he⟩ := hsettled
  cases he

/-- **Verification is total but for the archive of no events**, where the assertion after the loop fails. -/
theorem verification_settles (tooDeep : List Char → Bool) (isUtcText : List Nat → Bool) (sha256 : Bytes → String)
    (floatIs : String → ℤ → Bool) (manifest events : Bytes) :
    Settled tooDeep isUtcText sha256 floatIs manifest events ↔
      ¬ emptyArchive tooDeep sha256 floatIs manifest events = true := by
  constructor
  · exact fun hsettled hempty => not_settled_of_assertion (assertion_of_emptyArchive hempty) hsettled
  · intro hempty
    rw [Settled, verify_archiveOf]
    apply Except.Ends.ite ⟨_, rfl⟩
    intro hlength
    apply (readManifest_ends manifest).bind fun _ h => h
    rintro fields ⟨hread, hjson⟩
    apply Except.Ends.ite ⟨_, rfl⟩
    intro _
    apply (verifyEvents_ends fields events).bind
    · rintro x (h | ⟨rfl, rfl, hnone⟩)
      · exact h
      · refine absurd ?_ hempty
        rw [emptyArchive, hread, decide_eq_true (Nat.not_lt.1 hlength)]
        exact hnone
    · rintro - hdescribed
      exact ⟨hjson, hdescribed⟩

end

/-! ## An archive of no events -/

def emptyManifest : String :=
  "\x7b\"schema\": \"security_audit_archive_v1\", \"size_bytes\": 0, \"row_count\": 0, \"sha256_digest\": \"" ++
    "e3b0c44298fc1c149afbf4c8996fb92427ae41e4649b934ca495991b7852b855\"\x7d"

def emptySha256 (message : Bytes) : String :=
  if message = [] then "e3b0c44298fc1c149afbf4c8996fb92427ae41e4649b934ca495991b7852b855" else "".pushn '0' 64

/-- The texts that `isoformat` writes are read; this run reads no other. -/
def isIsoText (text : List Nat) : Bool := (DateTime.readIso (text.map Char.ofNat)).isSome

theorem empty_archive_fails_assertion :
    verifySecurityAuditArchive (fun _ => false) isIsoText emptySha256 (fun _ _ => false)
        (archiveOf (utf8 emptyManifest) []) = .error .assertion ∧
      ¬ Settled (fun _ => false) isIsoText emptySha256 (fun _ _ => false) (utf8 emptyManifest) [] := by
  have hempty : emptyArchive (fun _ => false) emptySha256 (fun _ _ => false) (utf8 emptyManifest) [] = true := by
    decide +kernel
  have h : verifySecurityAuditArchive (fun _ => false) isIsoText emptySha256 (fun _ _ => false)
      (archiveOf (utf8 emptyManifest) []) = .error .assertion := assertion_of_emptyArchive hempty
  exact ⟨h, not_settled_of_assertion h⟩

end ThreatFusion.Audit
