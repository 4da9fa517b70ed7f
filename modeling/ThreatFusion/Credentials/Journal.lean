import ThreatFusion.Credentials.Policy
import ThreatFusion.Lib.JsonLine
/-
# The journal of the operator's credentials (`operations/human_credentials.py:279-458`)

| here | there |
| --- | --- |
| `Entry`            | an entry that was read: the dict that `json.loads` made |
| `expectedSeq`, `readEntry`, `readJournal` | `_read_journal` (:279-382), on what the file holds |
| `journalFields`    | the entry of `_append_journal` (:405-422) |
| `checkpointFields` | the first entry of a rotated journal (`rotate_journal`, :560-575) |
| `JournalEntry`     | an entry as the calls make it |

A line that nests too deep for `json` is read here; no call writes one.

* `readJournal_written`: a journal is read back as it was written.
* `length_journalBytes_le`: 64 entries fit into the file.
-/
namespace ThreatFusion.Credentials
open Py Browser JsonText
open Analyst hiding Value Readable

def JOURNAL_SCHEMA : String := "operator_human_credential_journal_v1"
def MAX_JOURNAL_BYTES : Nat := 65536
def MAX_JOURNAL_RECORDS : Nat := 64

def ALLOWED_JOURNAL_FIELDS : List String :=
  ["schema", "seq", "sequence", "recorded_at_utc", "timestamp", "action", "actor_id", "sha256_fingerprint",
    "resulting_status", "status", "active_records", "total_records", "active_count", "total_count",
    "previous_archive_sha256", "archived_up_to_seq"]

def REQUIRED_JOURNAL_FIELDS : List String :=
  ["schema", "seq", "recorded_at_utc", "action", "resulting_status", "total_records"]

def JOURNAL_ACTIONS : List String := ["init", "enroll", "disable", "revoke", "journal_rotated", "archive_checkpoint"]
def RESULTING_STATUSES : List String := ["initialized", "active", "disabled", "revoked", "rotated"]

/-! ## Reading -/

abbrev Entry := List (List Nat × Value)

namespace Entry

def text? (entry : Entry) (key : String) : Option String := (field entry key).bind Value.text?

def int? (entry : Entry) (key : String) : Option ℤ :=
  match field entry key with
  | some (.int n) => some n
  | _ => none

/-- A value that may be missing or `None`. -/
def optional (entry : Entry) (key : String) (check : String → Bool) : Bool :=
  match field entry key with
  | none => true
  | some .null => true
  | some v => v.text?.any check

/-- `entry.get("active_records", entry.get("active_count"))` -/
def active? (entry : Entry) : Option Value := (field entry "active_records").or (field entry "active_count")

def fieldsAllowed (entry : Entry) : Bool :=
  REQUIRED_JOURNAL_FIELDS.all (fun k => (field entry k).isSome) &&
    entry.all fun p => ALLOWED_JOURNAL_FIELDS.any fun k => p.1 == points k

def activeAllowed (entry : Entry) (total : ℤ) : Bool :=
  match entry.active? with
  | none => true
  | some .null => true
  | some (.int n) => decide (0 ≤ n ∧ n ≤ total)
  | _ => false

end Entry

/-- `action in {"journal_rotated", "archive_checkpoint"}` -/
def isRotation (action : String) : Bool := action == "journal_rotated" || action == "archive_checkpoint"

/-- The number that entry `i` must have. -/
def expectedSeq (i : Nat) (expected : ℤ) (entry : Entry) (action status : String) : Option ℤ :=
  if isRotation action then do
    guard (i = 0 ∧ status = "rotated")
    let previous ← entry.text? "previous_archive_sha256"
    guard (isSha256 previous)
    let seq ← entry.int? "seq"
    let archived ← entry.int? "archived_up_to_seq"
    guard (1 < seq ∧ archived = seq - 1)
    return seq
  else some (if i = 0 then 1 else expected)

def checkEntry (i : Nat) (expected : ℤ) (entry : Entry) : Option ℤ := do
  guard entry.fieldsAllowed
  guard (entry.text? "schema" = some JOURNAL_SCHEMA)
  let action ← entry.text? "action"
  guard (action ∈ JOURNAL_ACTIONS)
  let status ← entry.text? "resulting_status"
  guard (status ∈ RESULTING_STATUSES)
  let expected ← expectedSeq i expected entry action status
  let seq ← entry.int? "seq"
  guard (seq = expected)
  let _ ← readTime entry "recorded_at_utc"
  guard (entry.optional "actor_id" validActorId)
  guard (entry.optional "sha256_fingerprint" isSha256)
  let total ← entry.int? "total_records"
  guard (0 ≤ total ∧ total ≤ MAX_JOURNAL_RECORDS)
  guard (entry.activeAllowed total)
  return seq

/-- The entry and its number. -/
def readEntry (i : Nat) (expected : ℤ) (line : Bytes) : Option (Entry × ℤ) := do
  guard (line ≠ [])
  let text ← decodeUtf8 line
  let value ← loads text
  guard (value.strict fun _ => true)
  match value with
  | .obj entry => (checkEntry i expected entry).map fun seq => (entry, seq)
  | _ => none

def readEntries : Nat → ℤ → List Bytes → Option (List Entry)
  | _, _, [] => some []
  | i, expected, line :: lines => do
    let (entry, seq) ← readEntry i expected line
    let entries ← readEntries (i + 1) (seq + 1) lines
    return entry :: entries

/-- `raw` is what a regular file of the operator's with mode 0600 and one name holds. -/
def readJournal (raw : Bytes) : Option (List Entry) :=
  if MAX_JOURNAL_BYTES < raw.length then none
  else if raw = [] then some []
  else do
    let lines := raw.splitOn 10
    guard (lines.getLast? = some [])
    let entries ← readEntries 0 1 lines.dropLast
    guard (entries.length ≤ MAX_JOURNAL_RECORDS)
    return entries

/-! ## Writing -/

def optionalText (s : Option String) : Json := s.elim .null .str

def journalFields (seq : ℤ) (now : DateTime) (action resultingStatus : String) (actorId sha256Fingerprint : Option String)
    (totalRecords activeRecords : Nat) : List (String × Json) :=
  [("schema", .str JOURNAL_SCHEMA), ("seq", .int seq), ("sequence", .int seq), ("recorded_at_utc", .str now.isoformat),
    ("timestamp", .str now.isoformat), ("action", .str action), ("actor_id", optionalText actorId),
    ("sha256_fingerprint", optionalText sha256Fingerprint), ("resulting_status", .str resultingStatus),
    ("status", .str resultingStatus), ("active_records", .int activeRecords), ("active_count", .int activeRecords),
    ("total_records", .int totalRecords), ("total_count", .int totalRecords)]

def checkpointFields (lastSeq : ℤ) (now : DateTime) (sha256Digest : String) (activeCount totalCount : Nat) :
    List (String × Json) :=
  [("schema", .str JOURNAL_SCHEMA), ("seq", .int (lastSeq + 1)), ("sequence", .int (lastSeq + 1)),
    ("recorded_at_utc", .str now.isoformat), ("timestamp", .str now.isoformat), ("action", .str "journal_rotated"),
    ("resulting_status", .str "rotated"), ("status", .str "rotated"), ("previous_archive_sha256", .str sha256Digest),
    ("archived_up_to_seq", .int lastSeq), ("active_records", .int activeCount), ("active_count", .int activeCount),
    ("total_records", .int totalCount), ("total_count", .int totalCount)]

/-- `(json.dumps(entry, sort_keys=True) + "\n").encode("utf-8")` -/
def entryBytes (fields : List (String × Json)) : Bytes := utf8 (String.ofList (dumpsIn .spaced (.obj fields) ++ ['\n']))

/-! ## Entries as the calls make them -/

inductive Action where
  | init | enroll | disable | revoke
deriving DecidableEq

instance (p : Action → Prop) [DecidablePred p] : Decidable (∀ action, p action) :=
  decidable_of_iff (p .init ∧ p .enroll ∧ p .disable ∧ p .revoke)
    ⟨fun h action => by cases action <;> simp [h], fun h => ⟨h _, h _, h _, h _⟩⟩

namespace Action

def text : Action → String
  | init => "init"
  | enroll => "enroll"
  | disable => "disable"
  | revoke => "revoke"

def resultingStatus : Action → String
  | init => "initialized"
  | enroll => "active"
  | disable => "disabled"
  | revoke => "revoked"

end Action

inductive EntryKind where
  | recorded (action : Action) (actorId sha256Fingerprint : String)
  | rotated (previousArchiveSha256 : String)

def EntryKind.Ok : EntryKind → Prop
  | .recorded _ actorId sha256Fingerprint => validActorId actorId = true ∧ isSha256 sha256Fingerprint = true
  | .rotated previous => isSha256 previous = true

structure JournalEntry where
  seq : Nat
  now : DateTime
  kind : EntryKind
  activeRecords : Nat
  totalRecords : Nat
  seq_pos : 0 < seq
  kind_ok : kind.Ok
  counts : activeRecords ≤ totalRecords ∧ totalRecords ≤ MAX_JOURNAL_RECORDS

namespace JournalEntry

def fields (e : JournalEntry) : List (String × Json) :=
  match e.kind with
  | .recorded action actorId sha256Fingerprint => journalFields e.seq e.now action.text action.resultingStatus
      (some actorId) (some sha256Fingerprint) e.totalRecords e.activeRecords
  | .rotated previous => checkpointFields (e.seq - 1) e.now previous e.activeRecords e.totalRecords

/-- The entry as it is read. -/
def dict (e : JournalEntry) : Entry := fieldValues (sortedFields e.fields)

def line (e : JournalEntry) : Bytes := entryBytes e.fields

end JournalEntry

/-- A checkpoint stands first only and has the archived entries before it; without it the numbers start at 1. -/
def Follows (i expected : Nat) (e : JournalEntry) : Prop :=
  match e.kind with
  | .recorded _ _ _ => e.seq = if i = 0 then 1 else expected
  | .rotated _ => i = 0 ∧ 1 < e.seq

/-- The entries from position `i` on. -/
def Numbered : Nat → Nat → List JournalEntry → Prop
  | _, _, [] => True
  | i, expected, e :: es => Follows i expected e ∧ Numbered (i + 1) (e.seq + 1) es

def journalBytes (es : List JournalEntry) : Bytes := es.flatMap JournalEntry.line

/-! ## What was written is read -/

namespace JournalEntry

theorem fields_nodup (e : JournalEntry) : (e.fields.map Prod.fst).Nodup := by
  unfold fields
  cases e.kind with
  | recorded action actorId sha256Fingerprint =>
    exact (by decide : ["schema", "seq", "sequence", "recorded_at_utc", "timestamp", "action", "actor_id",
      "sha256_fingerprint", "resulting_status", "status", "active_records", "active_count", "total_records",
      "total_count"].Nodup)
  | rotated previous =>
    exact (by decide : ["schema", "seq", "sequence", "recorded_at_utc", "timestamp", "action", "resulting_status",
      "status", "previous_archive_sha256", "archived_up_to_seq", "active_records", "active_count", "total_records",
      "total_count"].Nodup)

theorem field_dict (e : JournalEntry) (key : String) :
    field e.dict key = (e.fields.lookup key).map fun v => (sortKeys v).value :=
  field_sorted e.fields_nodup key

theorem text_dict {e : JournalEntry} {key s : String} (h : e.fields.lookup key = some (.str s)) :
    Entry.text? e.dict key = some s := by
  rw [Entry.text?, field_dict, h]
  exact text?_points s

theorem int_dict {e : JournalEntry} {key : String} {n : ℤ} (h : e.fields.lookup key = some (.int n)) :
    Entry.int? e.dict key = some n := by
  rw [Entry.int?, field_dict, h]
  rfl

def actionText (e : JournalEntry) : String :=
  match e.kind with
  | .recorded action _ _ => action.text
  | .rotated _ => "journal_rotated"

def status (e : JournalEntry) : String :=
  match e.kind with
  | .recorded action _ _ => action.resultingStatus
  | .rotated _ => "rotated"

/-- The fields that every entry has. -/
theorem lookup_fields (e : JournalEntry) :
    e.fields.lookup "schema" = some (.str JOURNAL_SCHEMA) ∧ e.fields.lookup "seq" = some (.int e.seq) ∧
    e.fields.lookup "recorded_at_utc" = some (.str e.now.isoformat) ∧
    e.fields.lookup "action" = some (.str e.actionText) ∧ e.fields.lookup "resulting_status" = some (.str e.status) ∧
    e.fields.lookup "total_records" = some (.int e.totalRecords) ∧
    e.fields.lookup "active_records" = some (.int e.activeRecords) := by
  unfold fields actionText status
  cases e.kind with
  | recorded action actorId sha256Fingerprint => exact ⟨rfl, rfl, rfl, rfl, rfl, rfl, rfl⟩
  | rotated previous =>
    have hseq : ((e.seq : ℤ) - 1 + 1) = e.seq := by omega
    unfold checkpointFields
    rw [hseq]
    exact ⟨rfl, rfl, rfl, rfl, rfl, rfl, rfl⟩

theorem mem_keys_dict (e : JournalEntry) {k : List Nat} (h : k ∈ e.dict.map Prod.fst) :
    ∃ key ∈ e.fields.map Prod.fst, k = points key := by
  obtain ⟨p, hp, rfl⟩ := List.mem_map.1 h
  rw [dict, fieldValues_eq_map, List.mem_map] at hp
  obtain ⟨f, hf, rfl⟩ := hp
  obtain ⟨g, hg, rfl⟩ := List.mem_map.1 ((sortedFields_perm e.fields).mem_iff.1 hf)
  exact ⟨g.1, List.mem_map_of_mem hg, rfl⟩

theorem fieldsAllowed_dict (e : JournalEntry) : Entry.fieldsAllowed e.dict = true := by
  have hkeys : ∀ key ∈ e.fields.map Prod.fst, key ∈ ALLOWED_JOURNAL_FIELDS := by
    unfold fields
    cases e.kind with
    | recorded action actorId sha256Fingerprint =>
      exact (by decide : ∀ key ∈ ["schema", "seq", "sequence", "recorded_at_utc", "timestamp", "action", "actor_id",
        "sha256_fingerprint", "resulting_status", "status", "active_records", "active_count", "total_records",
        "total_count"], key ∈ ALLOWED_JOURNAL_FIELDS)
    | rotated previous =>
      exact (by decide : ∀ key ∈ ["schema", "seq", "sequence", "recorded_at_utc", "timestamp", "action",
        "resulting_status", "status", "previous_archive_sha256", "archived_up_to_seq", "active_records", "active_count",
        "total_records", "total_count"], key ∈ ALLOWED_JOURNAL_FIELDS)
  rw [Entry.fieldsAllowed, Bool.and_eq_true, List.all_eq_true, List.all_eq_true]
  constructor
  · obtain ⟨hschema, hseq, hnow, haction, hstatus, htotal, -⟩ := e.lookup_fields
    have hthere : ∀ {key : String} {v : Json}, e.fields.lookup key = some v → (field e.dict key).isSome = true := by
      intro key v hv
      rw [field_dict, hv]
      rfl
    rw [REQUIRED_JOURNAL_FIELDS]
    simp only [List.forall_mem_cons]
    exact ⟨hthere hschema, hthere hseq, hthere hnow, hthere haction, hthere hstatus, hthere htotal,
      fun _ hk => absurd hk List.not_mem_nil⟩
  · intro p hp
    obtain ⟨key, hkey, heq⟩ := e.mem_keys_dict (List.mem_map_of_mem hp)
    rw [List.any_eq_true]
    exact ⟨key, hkeys key hkey, beq_iff_eq.2 heq⟩

theorem activeAllowed_dict (e : JournalEntry) : Entry.activeAllowed e.dict e.totalRecords = true := by
  have hactive : Entry.active? e.dict = some (.int e.activeRecords) := by
    rw [Entry.active?, field_dict, e.lookup_fields.2.2.2.2.2.2]
    rfl
  rw [Entry.activeAllowed, hactive]
  exact decide_eq_true ⟨Int.natCast_nonneg _, Int.ofNat_le.2 e.counts.1⟩

theorem optional_dict (e : JournalEntry) : Entry.optional e.dict "actor_id" validActorId = true ∧
    Entry.optional e.dict "sha256_fingerprint" isSha256 = true := by
  have hok := e.kind_ok
  simp only [Entry.optional, field_dict]
  unfold fields
  cases hkind : e.kind with
  | recorded action actorId sha256Fingerprint =>
    rw [hkind] at hok
    have hactor : Option.any validActorId (some actorId) = true := hok.1
    have hfingerprint : Option.any isSha256 (some sha256Fingerprint) = true := hok.2
    rw [← text?_points] at hactor hfingerprint
    exact ⟨hactor, hfingerprint⟩
  | rotated previous => exact ⟨rfl, rfl⟩

/-- An entry in its place passes every check. -/
theorem checkEntry_dict {e : JournalEntry} {i expected : Nat} (h : Follows i expected e) :
    checkEntry i expected e.dict = some (e.seq : ℤ) := by
  obtain ⟨hschema, hseq, hnow, haction, hstatus, htotal, -⟩ := e.lookup_fields
  have hexpected : expectedSeq i expected e.dict e.actionText e.status = some (e.seq : ℤ) := by
    have hok := e.kind_ok
    unfold Follows at h
    unfold expectedSeq actionText status
    cases hkind : e.kind with
    | recorded action actorId sha256Fingerprint =>
      rw [hkind] at h
      have hrotation : isRotation action.text = false := by cases action <;> decide
      simp only [hrotation, Bool.false_eq_true, if_false, h]
      split <;> rfl
    | rotated previous =>
      rw [hkind] at h hok
      have hprevious : Entry.text? e.dict "previous_archive_sha256" = some previous :=
        text_dict (by rw [fields, hkind]; rfl)
      have harchived : Entry.int? e.dict "archived_up_to_seq" = some ((e.seq : ℤ) - 1) :=
        int_dict (by rw [fields, hkind]; rfl)
      have hsha : isSha256 previous = true := hok
      have hlarge : (1 : ℤ) < e.seq := by exact_mod_cast h.2
      simp [isRotation, h.1, hprevious, harchived, int_dict hseq, hsha, hlarge]
  have hmem : e.actionText ∈ JOURNAL_ACTIONS ∧ e.status ∈ RESULTING_STATUSES := by
    unfold actionText status
    cases e.kind with
    | recorded action actorId sha256Fingerprint =>
      exact (by decide : ∀ action : Action, action.text ∈ JOURNAL_ACTIONS ∧ action.resultingStatus ∈ RESULTING_STATUSES)
        action
    | rotated previous =>
      exact (by decide : "journal_rotated" ∈ JOURNAL_ACTIONS ∧ "rotated" ∈ RESULTING_STATUSES)
  have htime : readTime e.dict "recorded_at_utc" = some e.now := by
    have htext : (field e.dict "recorded_at_utc").bind Value.text? = some e.now.isoformat := text_dict hnow
    rw [readTime, htext]
    simp [DateTime.fromisoformat_isoformat]
  have hcounts : (0 : ℤ) ≤ e.totalRecords ∧ (e.totalRecords : ℤ) ≤ MAX_JOURNAL_RECORDS :=
    ⟨Int.natCast_nonneg _, Int.ofNat_le.2 e.counts.2⟩
  simp [checkEntry, e.fieldsAllowed_dict, text_dict hschema, text_dict haction, text_dict hstatus, int_dict hseq,
    int_dict htotal, hexpected, hmem.1, hmem.2, htime, e.optional_dict.1, e.optional_dict.2, e.activeAllowed_dict,
    hcounts.2]

end JournalEntry

/-- A number of entries that no run of calls reaches: up to it an entry has fewer than a thousand characters. -/
def SEQ_LIMIT : Nat := 10 ^ 150

namespace JournalEntry

def body (e : JournalEntry) : List Char := dumpsIn .spaced (.obj e.fields)

theorem readable_fields (e : JournalEntry) : ∀ f ∈ e.fields, Readable (sortKeys f.2) := by
  unfold fields
  cases e.kind with
  | recorded action actorId sha256Fingerprint =>
    simp [journalFields, optionalText, sortKeys, Readable]
  | rotated previous => simp [checkpointFields, sortKeys, Readable]

theorem strict_fields (e : JournalEntry) (h : e.seq < SEQ_LIMIT) (isFloat : String → Bool) :
    ∀ f ∈ e.fields, (sortKeys f.2).value.strict isFloat = true := by
  have hcount : ∀ n ≤ MAX_JOURNAL_RECORDS, (sortKeys (.int n)).value.strict isFloat = true := fun n hn =>
    strict_nat isFloat (k := 2) (by decide) (by decide) (Nat.lt_of_le_of_lt hn (by decide))
  have htotal := hcount e.totalRecords e.counts.2
  have hactive := hcount e.activeRecords (e.counts.1.trans e.counts.2)
  have hseq : (sortKeys (.int e.seq)).value.strict isFloat = true :=
    strict_nat isFloat (k := 150) (by decide) (by decide) h
  have hstr : ∀ s : String, (sortKeys (.str s)).value.strict isFloat = true := fun s => by
    simp [sortKeys, Json.value, Value.strict]
  unfold fields
  cases hkind : e.kind with
  | recorded action actorId sha256Fingerprint =>
    simp [journalFields, optionalText, hstr, hseq, htotal, hactive]
  | rotated previous =>
    have hlast : (sortKeys (.int ((e.seq - 1 : ℕ) : ℤ))).value.strict isFloat = true :=
      strict_nat isFloat (k := 150) (by decide) (by decide) ((Nat.sub_le _ 1).trans_lt h)
    rw [Nat.cast_sub e.seq_pos, Nat.cast_one] at hlast
    simp [checkpointFields, hstr, hseq, hlast, htotal, hactive]

theorem body_printable (e : JournalEntry) : ∀ c ∈ e.body, Printable c :=
  renderIn_printable 0 (readable_sorted e.readable_fields)

theorem line_eq (e : JournalEntry) : e.line = e.body.flatMap String.utf8EncodeChar ++ [10] := by
  rw [line, entryBytes, utf8_eq, String.toList_ofList, List.flatMap_append]
  rfl

theorem body_no_lineFeed (e : JournalEntry) : (10 : UInt8) ∉ e.body.flatMap String.utf8EncodeChar :=
  (encoded_printable e.body_printable).2

theorem length_line (e : JournalEntry) : e.line.length = e.body.length + 1 := by
  rw [line_eq, List.length_append, (encoded_printable e.body_printable).1, List.length_singleton]

theorem body_ne_nil (e : JournalEntry) : e.body.flatMap String.utf8EncodeChar ≠ [] := by
  have hpos : 0 < e.body.length := by
    obtain ⟨c, rest, heq, -⟩ := renderIn_starts .spaced 0 (readable_sorted e.readable_fields)
    rw [body, dumpsIn, heq]
    exact Nat.succ_pos _
  intro hnil
  have hlength := (encoded_printable e.body_printable).1
  rw [hnil, List.length_nil] at hlength
  omega

/-- An entry in its place is read back. -/
theorem readEntry_body {e : JournalEntry} {i expected : Nat} (h : Follows i expected e) (hseq : e.seq < SEQ_LIMIT) :
    readEntry i expected (e.body.flatMap String.utf8EncodeChar) = some (e.dict, (e.seq : ℤ)) := by
  have hdecode : decodeUtf8 (e.body.flatMap String.utf8EncodeChar) = some e.body := by
    have hutf8 := decodeUtf8_utf8 (String.ofList e.body)
    rwa [utf8_eq, String.toList_ofList] at hutf8
  have hloads : loads e.body = some (sortKeys (.obj e.fields)).value := by
    have hread := loads_renderIn .spaced (readable_sorted e.readable_fields) 0 [] fun c hc => absurd hc List.not_mem_nil
    rwa [List.append_nil] at hread
  have hstrict := strict_sorted e.fields_nodup (e.strict_fields hseq fun _ => true)
  have hdict : (sortKeys (.obj e.fields)).value = .obj e.dict := by rw [sortKeys_obj, Json.value, dict]
  rw [hdict] at hloads hstrict
  simp [readEntry, e.body_ne_nil, hdecode, hloads, hstrict, checkEntry_dict h]

end JournalEntry

theorem readEntries_bodies : ∀ {es : List JournalEntry} {i expected : Nat}, Numbered i expected es →
    (∀ e ∈ es, e.seq < SEQ_LIMIT) →
    readEntries i expected (es.map fun e => e.body.flatMap String.utf8EncodeChar) = some (es.map JournalEntry.dict)
  | [], _, _, _, _ => rfl
  | e :: es, i, expected, h, hseq => by
    have hrest := readEntries_bodies h.2 fun x hx => hseq x (List.mem_cons_of_mem e hx)
    rw [Nat.cast_add, Nat.cast_one] at hrest
    rw [List.map_cons, readEntries, JournalEntry.readEntry_body h.1 (hseq e List.mem_cons_self)]
    simp [hrest]

theorem splitOn_journalBytes (es : List JournalEntry) :
    (journalBytes es).splitOn 10 = es.map (fun e => e.body.flatMap String.utf8EncodeChar) ++ [[]] := by
  induction es with
  | nil => rfl
  | cons e es ih =>
    rw [journalBytes, List.flatMap_cons, e.line_eq, List.append_assoc, List.singleton_append,
      List.splitOn_append_cons_self_of_not_mem e.body_no_lineFeed, List.map_cons, List.cons_append]
    exact congrArg _ ih

/-- **A journal is read back as it was written.** -/
theorem readJournal_written {es : List JournalEntry} (h : Numbered 0 1 es) (hseq : ∀ e ∈ es, e.seq < SEQ_LIMIT)
    (hcount : es.length ≤ MAX_JOURNAL_RECORDS) (hsize : (journalBytes es).length ≤ MAX_JOURNAL_BYTES) :
    readJournal (journalBytes es) = some (es.map JournalEntry.dict) := by
  rw [readJournal, if_neg (Nat.not_lt.2 hsize)]
  cases es with
  | nil => rfl
  | cons e es =>
    have hnonempty : journalBytes (e :: es) ≠ [] := by
      rw [journalBytes, List.flatMap_cons, e.line_eq]
      simp
    have hread := readEntries_bodies h hseq
    rw [Nat.cast_one] at hread
    rw [if_neg hnonempty]
    have hends : (journalBytes (e :: es)).splitOn 10 =
        (e :: es).map (fun e => e.body.flatMap String.utf8EncodeChar) ++ [[]] := splitOn_journalBytes _
    rw [← List.length_map (f := JournalEntry.dict)] at hcount
    simp only [hends, List.getLast?_concat, List.dropLast_concat, hread, Option.bind_eq_bind, Option.bind_some]
    rw [(Option.guard_eq_some' ()).2 trivial, (Option.guard_eq_some' ()).2 hcount]
    rfl

/-! ## How long a journal is -/

theorem lengthIn_sha256 {s : String} (h : isSha256 s = true) (d : Nat) : lengthIn .spaced d (.str s) = 66 := by
  obtain ⟨hplain, hlength⟩ := isPlain_of_isSha256 h
  rw [lengthIn_str _ hplain, hlength]

theorem lengthIn_time_le (t : DateTime) (d : Nat) : lengthIn .spaced d (.str t.isoformat) ≤ 34 := by
  rw [lengthIn_str _ (DateTime.isoformat_all (by decide) (by decide) t)]
  exact Nat.add_le_add_right t.length_isoformat_le 2

theorem lengthIn_action (action : Action) (d : Nat) :
    lengthIn .spaced d (.str action.text) ≤ 9 ∧ lengthIn .spaced d (.str action.resultingStatus) ≤ 13 := by
  have htext : action.text.toList.all isPlain = true ∧ action.text.length ≤ 7 := by cases action <;> decide
  have hstatus : action.resultingStatus.toList.all isPlain = true ∧ action.resultingStatus.length ≤ 11 := by
    cases action <;> decide
  rw [lengthIn_str _ htext.1, lengthIn_str _ hstatus.1]
  omega

theorem JournalEntry.length_body_le (e : JournalEntry) (h : e.seq < SEQ_LIMIT) : e.body.length ≤ 1000 := by
  have hseq : ∀ n ≤ e.seq, lengthIn .spaced 1 (.int n) ≤ 150 := fun n hn =>
    lengthIn_nat_le .spaced (k := 150) (by decide) (Nat.lt_of_le_of_lt hn h) 1
  have hcount : ∀ n ≤ MAX_JOURNAL_RECORDS, lengthIn .spaced 1 (.int n) ≤ 2 := fun n hn =>
    lengthIn_nat_le .spaced (k := 2) (by decide) (Nat.lt_of_le_of_lt hn (by decide)) 1
  have hself := hseq e.seq (Nat.le_refl _)
  have htotal := hcount e.totalRecords e.counts.2
  have hactive := hcount e.activeRecords (e.counts.1.trans e.counts.2)
  have htime := lengthIn_time_le e.now 1
  have hschema : lengthIn .spaced 1 (.str JOURNAL_SCHEMA) = 38 := lengthIn_str _ (by decide) 1
  have hkeys : (quote "schema").length = 8 ∧ (quote "seq").length = 5 ∧ (quote "sequence").length = 10 ∧
      (quote "recorded_at_utc").length = 17 ∧ (quote "timestamp").length = 11 ∧ (quote "action").length = 8 ∧
      (quote "actor_id").length = 10 ∧ (quote "sha256_fingerprint").length = 20 ∧
      (quote "resulting_status").length = 18 ∧ (quote "status").length = 8 ∧ (quote "active_records").length = 16 ∧
      (quote "active_count").length = 14 ∧ (quote "total_records").length = 15 ∧ (quote "total_count").length = 13 ∧
      (quote "previous_archive_sha256").length = 25 ∧ (quote "archived_up_to_seq").length = 20 := by decide
  have hopening : (Layout.spaced.opening (0 + 1)).length = 0 := rfl
  have hclosing : (Layout.spaced.closing 0).length = 0 := rfl
  have hcomma : (Layout.spaced.comma (0 + 1)).length = 1 := rfl
  have hcolon : Layout.spaced.colon.length = 1 := rfl
  have hok := e.kind_ok
  change lengthIn .spaced 0 (.obj e.fields) ≤ 1000
  refine (lengthIn_obj_le .spaced 0 _).trans ?_
  unfold fields
  cases hkind : e.kind with
  | recorded action actorId sha256Fingerprint =>
    rw [hkind] at hok
    obtain ⟨hactor, hactorLength⟩ := isPlain_of_validActorId hok.1
    have haction := lengthIn_action action 1
    simp only [journalFields, optionalText, Option.elim_some, List.map_cons, List.map_nil, List.sum_cons, List.sum_nil,
      List.length_cons, List.length_nil, hopening, hclosing, hcomma, hcolon, hkeys, Nat.zero_add, hschema,
      lengthIn_sha256 hok.2, lengthIn_str _ hactor]
    omega
  | rotated previous =>
    rw [hkind] at hok
    have hlast := hseq (e.seq - 1) (Nat.sub_le _ 1)
    rw [Nat.cast_sub e.seq_pos, Nat.cast_one] at hlast
    have hnext : ((e.seq : ℤ) - 1 + 1) = e.seq := by omega
    have hrotated : lengthIn .spaced 1 (.str "journal_rotated") = 17 ∧ lengthIn .spaced 1 (.str "rotated") = 9 :=
      ⟨lengthIn_str _ (by decide) 1, lengthIn_str _ (by decide) 1⟩
    simp only [checkpointFields, hnext, List.map_cons, List.map_nil, List.sum_cons, List.sum_nil, List.length_cons,
      List.length_nil, hopening, hclosing, hcomma, hcolon, hkeys, Nat.zero_add, hschema, hrotated, lengthIn_sha256 hok]
    omega

/-- As many entries as a journal can have fit into its file. -/
theorem length_journalBytes_le {es : List JournalEntry} (h : ∀ e ∈ es, e.seq < SEQ_LIMIT) :
    (journalBytes es).length ≤ 1001 * es.length := by
  induction es with
  | nil => exact Nat.le_refl 0
  | cons e es ih =>
    have hrest := ih fun x hx => h x (List.mem_cons_of_mem e hx)
    have hfirst := e.length_body_le (h e List.mem_cons_self)
    rw [journalBytes, List.flatMap_cons, List.length_append, e.length_line, List.length_cons]
    rw [journalBytes] at hrest
    omega

end ThreatFusion.Credentials
