import ThreatFusion.Credentials.Journal
import ThreatFusion.Lib.Effect
import ThreatFusion.Lib.Machine
/-
# The calls on a policy directory (`operations/human_credentials.py`)

| here | there |
| --- | --- |
| `readJournalFile`, `readPolicyFile` | `_read_journal` (:279-297), `_read` (:141-154): the file, then `readJournal`, `readPolicy` |
| `writePolicyFile` | `_write` (:179-212); `publishNew`, `replaceFile` are its two ways to publish a file |
| `certificate`     | `_certificate` (:229-276), of what OpenSSL and `ssl` made of the text |
| `appendJournal`   | `_append_journal` (:389-455) |
| `enroll`          | `enroll` (:688-711); `init` is `enroll` with `create` |
| `restrict`        | `restrict` (:775-815) |
| `rotateJournal`   | `rotate_journal` (:468-601), on two directories that are not the same |

Every step that asks the operating system for something may fail (`Env.fails`); nothing is rolled back, and a write
that fails may leave some bytes (`Env.written`). Whatever is raised leaves `_boundary` as `CredentialPolicyError`.
A second name of a file (`links`) is there between `os.link` and `os.unlink`. Names of temporary files are never
read, and a file has the type, owner and mode with which the calls make it.

* `publishNew_ends`, `replaceFile_ends`: the ways in which a file is published or not.
-/
namespace ThreatFusion.Credentials
open Py Browser JsonText Effect
open Analyst hiding Value Readable

inductive CredentialPolicyError where
  | credentialPolicyInvalid
deriving DecidableEq

/-! ## The directories -/

structure DirectoryFile where
  bytes : Bytes
  links : Nat

structure ArchiveDirectory where
  journal : Option Bytes
  manifest : Option Bytes

/-- The policy directory, and the directories for archives by their names. -/
structure World (δ : Type) where
  policy : Option DirectoryFile := none
  journal : Option DirectoryFile := none
  archives : δ → ArchiveDirectory := fun _ => ⟨none, none⟩

inductive FileName where
  | policy | journal
deriving DecidableEq

namespace World

variable {δ : Type}

def file (w : World δ) : FileName → Option DirectoryFile
  | .policy => w.policy
  | .journal => w.journal

def put (w : World δ) (name : FileName) (f : DirectoryFile) : World δ :=
  match name with
  | .policy => { w with policy := some f }
  | .journal => { w with journal := some f }

/-- What is read in the journal; `none` when it is refused. -/
def entries (w : World δ) : Option (List Entry) :=
  match w.journal with
  | none => some []
  | some f => if f.links = 1 then readJournal f.bytes else none

/-- What is read in the policy; `none` when it is missing or refused. -/
def records (w : World δ) (current : Option DateTime) : Option (List HumanCredential) :=
  match w.policy with
  | none => none
  | some f => if f.links = 1 then readPolicy f.bytes current else none

end World

/-! ## What the operating system does -/

inductive OsStep where
  | lock | lockArchive | look | copy
  | read (name : FileName)
  | temporary (name : FileName)
  /-- `os.link` or `os.replace` -/
  | publish (name : FileName)
  | unlink (name : FileName)
  | sync (name : FileName)
  /-- `os.unlink` in the `finally` -/
  | cleanup (name : FileName)
  | append
  | archiveJournal | archiveManifest | syncArchive
deriving DecidableEq

/-- The calls of `datetime.now`: in `_validate` on a policy, on one certificate, and for an entry. -/
inductive Moment where
  | load | certificate | record

/-- `written step` are the bytes that a failing write leaves, `none` when it made no file. -/
structure Env where
  fails : OsStep → Bool
  written : OsStep → Option Nat
  clock : Moment → DateTime

/-- What `openssl` accepted and `_test_decode_cert` made of a certificate. -/
structure DecodedCertificate where
  der : Bytes
  subjectAltName : List (String × String)
  notBefore : DateTime
  notAfter : DateTime

/-- SHA-256 as hexadecimal text. -/
structure Sha256 where
  digest : Bytes → String
  isSha256_digest : ∀ b, isSha256 (digest b) = true

structure ArchiveManifest where
  archivedAtUtc : DateTime
  sha256Digest : String
  sizeBytes : Nat
  recordCount : Nat
  firstSeq : ℤ
  lastSeq : ℤ
  previousArchiveSha256 : Option String

def JOURNAL_FILENAME : String := "journal.jsonl"
def JOURNAL_ARCHIVE_SCHEMA : String := "operator_human_credential_journal_archive_v1"

def ArchiveManifest.fields (m : ArchiveManifest) : List (String × Json) :=
  [("schema", .str JOURNAL_ARCHIVE_SCHEMA), ("archived_at_utc", .str m.archivedAtUtc.isoformat),
    ("archive_file", .str JOURNAL_FILENAME), ("sha256_digest", .str m.sha256Digest), ("size_bytes", .int m.sizeBytes),
    ("record_count", .int m.recordCount), ("first_seq", .int m.firstSeq), ("last_seq", .int m.lastSeq),
    ("archived_up_to_seq", .int m.lastSeq), ("previous_archive_sha256", optionalText m.previousArchiveSha256)]

/-- `(json.dumps(manifest, sort_keys=True, indent=2) + "\n").encode("utf-8")` -/
def ArchiveManifest.bytes (m : ArchiveManifest) : Bytes :=
  utf8 (String.ofList (dumpsIn .indented (.obj m.fields) ++ ['\n']))

/-! ## The programs -/

abbrev Prog (δ α : Type) := Effect.Prog CredentialPolicyError (World δ) α

section
variable {δ : Type} [DecidableEq δ] (sha256 : Sha256) (env : Env)

def refuse {α : Type} : Prog δ α := Prog.throw .credentialPolicyInvalid

def need {α : Type} (a : Option α) : Prog δ α := a.elim refuse pure

def os (step : OsStep) : Prog δ Unit := if env.fails step then refuse else pure ()

def readJournalFile : Prog δ (List Entry) := do
  os env (.read .journal)
  let w ← Prog.get
  need w.entries

def readPolicyFile (current : Option DateTime) : Prog δ (List HumanCredential) := do
  os env (.read .policy)
  let w ← Prog.get
  need (w.records current)

/-- `os.link`, `os.unlink`, `os.fsync`; a failure after the link still goes through the `finally`. -/
def publishNew (name : FileName) (raw : Bytes) : Prog δ Unit := do
  os env (.publish name)
  let w ← Prog.get
  if (w.file name).isSome then refuse
  else do
    Prog.modify (·.put name ⟨raw, 2⟩)
    if env.fails (.unlink name) then do
      os env (.cleanup name)
      Prog.modify (·.put name ⟨raw, 1⟩)
      refuse
    else do
      Prog.modify (·.put name ⟨raw, 1⟩)
      os env (.sync name)
      os env (.cleanup name)

/-- `os.replace` and `os.fsync`. -/
def replaceFile (name : FileName) (raw : Bytes) : Prog δ Unit := do
  os env (.publish name)
  Prog.modify (·.put name ⟨raw, 1⟩)
  os env (.sync name)
  os env (.cleanup name)

def writePolicyFile (records : List HumanCredential) (create : Bool) : Prog δ Unit := do
  let raw ← need (writePolicy records)
  os env (.temporary .policy)
  if create then publishNew env .policy raw else replaceFile env .policy raw

def certificate (decoded : Option DecodedCertificate) (actor : String) : Option HumanCredential := do
  guard (validActorId actor)
  let cert ← decoded
  guard (cert.subjectAltName = [("URI", ANALYST_URI_PREFIX ++ actor)])
  let record ← newCredential actor (sha256.digest cert.der) true false cert.notBefore cert.notAfter
  let _ ← validate [record] (some (env.clock .certificate))
  return record

/-- `os.write` at the end of the file. -/
def appendFile (raw : Bytes) : Prog δ Unit := do
  let w ← Prog.get
  match w.journal with
  | none => refuse
  | some f =>
    if f.links ≠ 1 ∨ MAX_JOURNAL_BYTES < f.bytes.length + raw.length then refuse
    else if env.fails .append then do
      Prog.modify (·.put .journal ⟨f.bytes ++ raw.take ((env.written .append).getD 0), f.links⟩)
      refuse
    else do
      Prog.modify (·.put .journal ⟨f.bytes ++ raw, f.links⟩)
      os env (.sync .journal)

def nextSeq (existing : List Entry) : ℤ := (existing.getLast?.bind (Entry.int? · "seq")).elim 1 (· + 1)

def appendJournal (existing : List Entry) (action : Action) (actorId sha256Fingerprint : String)
    (totalRecords activeRecords : Nat) : Prog δ Unit :=
  if MAX_JOURNAL_RECORDS ≤ existing.length then refuse
  else
    let raw := entryBytes (journalFields (nextSeq existing) (env.clock .record) action.text action.resultingStatus
      (some actorId) (some sha256Fingerprint) totalRecords activeRecords)
    if existing.isEmpty then do
      os env (.temporary .journal)
      publishNew env .journal raw
    else appendFile env raw

/-- `sum(1 for r in records if r.enabled and not r.revoked)` -/
def activeCount (records : List HumanCredential) : Nat := records.countP active

def enroll (decoded : Option DecodedCertificate) (actor : String) (create : Bool) : Prog δ String := do
  os env .lock
  let existing ← readJournalFile env
  if create && !existing.isEmpty then refuse
  else if MAX_JOURNAL_RECORDS ≤ existing.length then refuse
  else do
    let records ← if create then pure [] else readPolicyFile env (some (env.clock .load))
    let record ← need (certificate sha256 env decoded actor)
    let records := records ++ [record]
    writePolicyFile env records create
    appendJournal env existing (if create then .init else .enroll) record.actorId record.certificateSha256
      records.length (activeCount records)
    return record.certificateSha256

/-- `replace(r, revoked=True)` or `replace(r, enabled=False)` -/
def restricted (revoke : Bool) (c : HumanCredential) : HumanCredential :=
  if revoke then { c with revoked := true } else { c with enabled := false }

def restrictRecords (fingerprint : String) (revoke : Bool) (records : List HumanCredential) : List HumanCredential :=
  records.map fun r => if r.certificateSha256 = fingerprint then restricted revoke r else r

def restrict (fingerprint : String) (revoke : Bool) : Prog δ Unit := do
  os env .lock
  let existing ← readJournalFile env
  if MAX_JOURNAL_RECORDS ≤ existing.length then refuse
  else if !isSha256 fingerprint then refuse
  else do
    let records ← readPolicyFile env none
    let matched ← need (records.find? fun r => r.certificateSha256 == fingerprint)
    let records := restrictRecords fingerprint revoke records
    writePolicyFile env records false
    appendJournal env existing (if revoke then .revoke else .disable) matched.actorId fingerprint records.length
      (activeCount records)

/-- `os.open` with `O_EXCL` in the archive directory, and `os.write`. -/
def archiveFile (step : OsStep) (set : Option Bytes → ArchiveDirectory → ArchiveDirectory) (dir : δ) (raw : Bytes) :
    Prog δ Unit :=
  let store (b : Option Bytes) : Prog δ Unit := Prog.modify fun w =>
    { w with archives := Function.update w.archives dir (set b (w.archives dir)) }
  if env.fails step then do
    store ((env.written step).map raw.take)
    refuse
  else store (some raw)

def rotateJournal (archive : δ) : Prog δ ArchiveManifest := do
  os env .lock
  os env .lockArchive
  os env .look
  let w ← Prog.get
  if (w.archives archive).journal.isSome || (w.archives archive).manifest.isSome then refuse
  else do
    let entries ← readJournalFile env
    let first ← need entries.head?
    let last ← need entries.getLast?
    os env .copy
    let raw ← need (w.journal.map (·.bytes))
    let firstSeq ← need (Entry.int? first "seq")
    let lastSeq ← need (Entry.int? last "seq")
    archiveFile env .archiveJournal (fun b a => { a with journal := b }) archive raw
    let manifest : ArchiveManifest := ⟨env.clock .record, sha256.digest raw, raw.length, entries.length, firstSeq, lastSeq,
      Entry.text? first "previous_archive_sha256"⟩
    archiveFile env .archiveManifest (fun b a => { a with manifest := b }) archive manifest.bytes
    os env .syncArchive
    let records ← readPolicyFile env (some (env.clock .load))
    os env (.temporary .journal)
    replaceFile env .journal (entryBytes (checkpointFields lastSeq (env.clock .record) (sha256.digest raw)
      (activeCount records) records.length))
    return manifest

end

/-! ## Runs -/

inductive Call (δ : Type) where
  | enroll (decoded : Option DecodedCertificate) (actor : String) (create : Bool)
  | restrict (fingerprint : String) (revoke : Bool)
  | rotateJournal (archive : δ)

inductive Reply where
  | enrolled (fingerprint : String)
  | restricted
  | rotated (manifest : ArchiveManifest)

section
variable {δ : Type} [DecidableEq δ] (sha256 : Sha256)

def perform (env : Env) : Call δ → Prog δ Reply
  | .enroll decoded actor create => return .enrolled (← enroll sha256 env decoded actor create)
  | .restrict fingerprint revoke => do
    restrict env fingerprint revoke
    return .restricted
  | .rotateJournal archive => return .rotated (← rotateJournal sha256 env archive)

/-- One call in its environment. -/
def callStep (w : World δ) (input : Env × Call δ) : Except CredentialPolicyError Reply × World δ :=
  perform sha256 input.1 input.2 w

end

/-! ## What a program may leave -/

section
variable {δ α β : Type} {w : World δ} {env : Env}

def refusal (w : World δ) : Except CredentialPolicyError α × World δ := (.error .credentialPolicyInvalid, w)

/-- A program that changes nothing. -/
def Reads (m : Prog δ α) : Prop := ∀ w, (m w).2 = w

theorem Reads.bind {m : Prog δ α} {f : α → Prog δ β} (hm : Reads m) (hf : ∀ a, Reads (f a)) : Reads (m >>= f) := by
  intro w
  have h := hm w
  rcases hw : m w with ⟨e | a, w'⟩ <;> rw [hw] at h <;> obtain rfl : w' = w := h
  · rw [Prog.bind_error hw]
  · rw [Prog.bind_ok hw]
    exact hf a w'

theorem reads_refuse : Reads (refuse : Prog δ α) := fun _ => rfl

theorem reads_need (a : Option α) : Reads (need a : Prog δ α) := by
  cases a <;> exact fun _ => rfl

theorem reads_os (env : Env) (step : OsStep) : Reads (os env step : Prog δ Unit) := by
  unfold os
  split <;> exact fun _ => rfl

theorem reads_get : Reads (Prog.get : Prog δ (World δ)) := fun _ => rfl

theorem reads_readJournalFile (env : Env) : Reads (readJournalFile env : Prog δ (List Entry)) :=
  (reads_os env _).bind fun _ => reads_get.bind fun _ => reads_need _

theorem reads_readPolicyFile (env : Env) (current : Option DateTime) :
    Reads (readPolicyFile env current : Prog δ (List HumanCredential)) :=
  (reads_os env _).bind fun _ => reads_get.bind fun _ => reads_need _

/-- After a program that only reads: its refusal, or the rest with what it read. -/
theorem Reads.then_ends {m : Prog δ α} {f : α → Prog δ β} (hm : Reads m) {P : Except CredentialPolicyError β × World δ → Prop}
    (hrefused : P (refusal w)) (hok : ∀ a, m w = (.ok a, w) → P (f a w)) : P ((m >>= f) w) := by
  have h := hm w
  rcases hw : m w with ⟨e | a, w'⟩ <;> rw [hw] at h <;> obtain rfl : w' = w := h
  · rw [Prog.bind_error hw]
    exact hrefused
  · rw [Prog.bind_ok hw]
    exact hok a hw

theorem need_ok {o : Option α} {a : α} (h : need o w = (.ok a, w)) : o = some a := by
  cases o with
  | none => cases h
  | some b =>
    cases h
    rfl

theorem os_ok {step : OsStep} {u : Unit} (h : os env step w = (.ok u, w)) : env.fails step = false := by
  unfold os at h
  by_cases hfails : env.fails step = true
  · rw [if_pos hfails] at h
    cases h
  · exact Bool.eq_false_iff.2 hfails

theorem readJournalFile_ok {entries : List Entry} (h : readJournalFile env w = (.ok entries, w)) :
    w.entries = some entries := by
  obtain ⟨_, w₁, hos, h⟩ := Prog.of_bind_ok h
  have hsame := reads_os env (.read .journal) w
  rw [hos] at hsame
  obtain rfl : w₁ = w := hsame
  exact need_ok h

theorem readPolicyFile_ok {current : Option DateTime} {records : List HumanCredential}
    (h : readPolicyFile env current w = (.ok records, w)) : w.records current = some records := by
  obtain ⟨_, w₁, hos, h⟩ := Prog.of_bind_ok h
  have hsame := reads_os env (.read .policy) w
  rw [hos] at hsame
  obtain rfl : w₁ = w := hsame
  exact need_ok h

@[simp] theorem World.put_put (w : World δ) (name : FileName) (f g : DirectoryFile) :
    (w.put name f).put name g = w.put name g := by
  cases name <;> rfl

/-- How a file may be published: not at all, with a failure behind it, or as it should be. -/
inductive Publication (env : Env) (name : FileName) (raw : Bytes) (w : World δ) :
    Except CredentialPolicyError Unit × World δ → Prop where
  | refused : Publication env name raw w (refusal w)
  /-- The second name stays when the `finally` fails as well. -/
  | stopped (n : Nat) (once : env.fails (.cleanup name) = false → n = 1)
      (late : env.fails (.unlink name) = true ∨ env.fails (.sync name) = true ∨ env.fails (.cleanup name) = true) :
      Publication env name raw w (refusal (w.put name ⟨raw, n⟩))
  | done : Publication env name raw w (.ok (), w.put name ⟨raw, 1⟩)

theorem os_then (step : OsStep) (f : Unit → Prog δ α) (w : World δ) :
    (os env step >>= f) w = if env.fails step then refusal w else f () w := by
  unfold os
  by_cases h : env.fails step = true
  · rw [if_pos h, if_pos h]
    exact Prog.bind_error rfl
  · rw [if_neg h, if_neg h]
    exact Prog.bind_ok rfl

theorem os_alone (step : OsStep) (w : World δ) :
    os env step w = if env.fails step then refusal w else (.ok (), w) := by
  unfold os
  split <;> rfl

theorem modify_then (g : World δ → World δ) (f : Unit → Prog δ α) (w : World δ) :
    (Prog.modify g >>= f) w = f () (g w) := Prog.bind_ok rfl

theorem get_then (f : World δ → Prog δ α) (w : World δ) : (Prog.get >>= f) w = f w w := Prog.bind_ok rfl

theorem sync_ends (name : FileName) (raw : Bytes) (w : World δ) :
    Publication env name raw w ((do os env (.sync name); os env (.cleanup name) : Prog δ Unit) (w.put name ⟨raw, 1⟩)) := by
  rw [os_then, os_alone]
  by_cases hsync : env.fails (.sync name) = true
  · rw [if_pos hsync]
    exact .stopped 1 (fun _ => rfl) (.inr (.inl hsync))
  · rw [if_neg hsync]
    by_cases hcleanup : env.fails (.cleanup name) = true
    · rw [if_pos hcleanup]
      exact .stopped 1 (fun _ => rfl) (.inr (.inr hcleanup))
    · rw [if_neg hcleanup]
      exact .done

theorem replaceFile_ends (env : Env) (name : FileName) (raw : Bytes) (w : World δ) :
    Publication env name raw w (replaceFile env name raw w) := by
  rw [replaceFile, os_then]
  by_cases hpublish : env.fails (.publish name) = true
  · rw [if_pos hpublish]
    exact .refused
  · rw [if_neg hpublish, modify_then]
    exact sync_ends name raw w

/-- A file that is there is not replaced. -/
theorem publishNew_ends (env : Env) (name : FileName) (raw : Bytes) (w : World δ) : publishNew env name raw w = refusal w ∨
    w.file name = none ∧ Publication env name raw w (publishNew env name raw w) := by
  rw [publishNew, os_then]
  by_cases hpublish : env.fails (.publish name) = true
  · rw [if_pos hpublish]
    exact .inl rfl
  rw [if_neg hpublish, get_then]
  cases hfile : w.file name with
  | some f => exact .inl rfl
  | none =>
    refine .inr ⟨rfl, ?_⟩
    rw [Option.isSome_none, if_neg Bool.false_ne_true, modify_then]
    by_cases hunlink : env.fails (.unlink name) = true
    · rw [if_pos hunlink, os_then]
      by_cases hcleanup : env.fails (.cleanup name) = true
      · rw [if_pos hcleanup]
        exact .stopped 2 (fun h => absurd hcleanup (by rw [h]; decide)) (.inl hunlink)
      · rw [if_neg hcleanup, modify_then, World.put_put]
        exact .stopped 1 (fun _ => rfl) (.inl hunlink)
    · rw [if_neg hunlink, modify_then, World.put_put]
      exact sync_ends name raw w

end

end ThreatFusion.Credentials
