import ThreatFusion.Credentials.Revocation
/-
# Checking an archived journal (`operations/human_credentials.py:604-672`)

`verify_journal_archive` compares the journal in an archive directory with the manifest beside it. The numbers of the
manifest are compared with `!=`, so a float or a `bool` may stand for an int. `entries[0]` of a journal without entries
raises an `IndexError`, which `_boundary` lets through.

* `verify_ok_iff`: what is accepted.
* `archives_verify`: what a rotation returned is accepted for good, and another journal in its place only with the
  same digest.
* `verify_indexError`: when the `IndexError` comes out, and that no run leaves such a directory.
-/
namespace ThreatFusion.Credentials
open Py Browser JsonText Effect Machine
open Analyst hiding Value Readable

inductive VerifyError where
  | credentialPolicyInvalid
  | indexError
deriving DecidableEq

/-- `floatEquals text n` is `float(text) == n`. -/
def equalsInt (floatEquals : String → ℤ → Bool) (n : ℤ) : Value → Bool
  | .int m => m == n
  | .bool b => (if b then 1 else 0) == n
  | .float text => floatEquals text n
  | _ => false

section
variable (sha256 : Sha256) (floatEquals : String → ℤ → Bool)

/-- `manifest.get(key) == n` -/
def numberIs (manifest : Entry) (key : String) (n : ℤ) : Bool := (field manifest key).any (equalsInt floatEquals n)

/-- The manifest as it is read. -/
def readManifest (raw : Bytes) : Option Entry := do
  guard (raw.length ≤ MAX_JOURNAL_BYTES)
  let text ← decodeUtf8 raw
  let value ← loads text
  guard (value.strict fun _ => true)
  match value with
  | .obj manifest => if Entry.text? manifest "schema" = some JOURNAL_ARCHIVE_SCHEMA then some manifest else none
  | _ => none

/-- `archived_up_to_seq` is compared with `last_seq`, which by then equals the last number. -/
def verifyJournalArchive (dir : ArchiveDirectory) : Except VerifyError Entry :=
  match dir.manifest.bind readManifest, dir.journal with
  | some manifest, some raw =>
    if MAX_JOURNAL_BYTES < raw.length ∨ numberIs floatEquals manifest "size_bytes" raw.length = false ∨
        Entry.text? manifest "sha256_digest" ≠ some (sha256.digest raw) then .error .credentialPolicyInvalid
    else
      match readJournal raw with
      | none => .error .credentialPolicyInvalid
      | some entries =>
        if numberIs floatEquals manifest "record_count" entries.length = false then .error .credentialPolicyInvalid
        else
          match entries.head?.map (Entry.int? · "seq"), entries.getLast?.map (Entry.int? · "seq") with
          | some (some first), some (some last) =>
            if numberIs floatEquals manifest "first_seq" first && numberIs floatEquals manifest "last_seq" last &&
                numberIs floatEquals manifest "archived_up_to_seq" last then .ok manifest
            else .error .credentialPolicyInvalid
          | none, _ => .error .indexError
          | _, _ => .error .credentialPolicyInvalid
  | _, _ => .error .credentialPolicyInvalid

/-- The manifest is right about the journal. -/
structure Describes (manifest : Entry) (raw : Bytes) (entries : List Entry) : Prop where
  size : raw.length ≤ MAX_JOURNAL_BYTES ∧ numberIs floatEquals manifest "size_bytes" raw.length = true
  digest : Entry.text? manifest "sha256_digest" = some (sha256.digest raw)
  read : readJournal raw = some entries
  count : numberIs floatEquals manifest "record_count" entries.length = true
  first : ∃ e ∈ entries.head?, ∃ n, Entry.int? e "seq" = some n ∧ numberIs floatEquals manifest "first_seq" n = true
  last : ∃ e ∈ entries.getLast?, ∃ n, Entry.int? e "seq" = some n ∧ numberIs floatEquals manifest "last_seq" n = true ∧
    numberIs floatEquals manifest "archived_up_to_seq" n = true

/-- What is accepted, and what is returned. -/
theorem verify_ok_iff {dir : ArchiveDirectory} {manifest : Entry} :
    verifyJournalArchive sha256 floatEquals dir = .ok manifest ↔
      dir.manifest.bind readManifest = some manifest ∧
        ∃ raw entries, dir.journal = some raw ∧ Describes sha256 floatEquals manifest raw entries := by
  unfold verifyJournalArchive
  constructor
  · intro h
    split at h
    · rename_i m raw hm hraw
      split at h
      · cases h
      rename_i hgood
      rw [not_or, not_or, Nat.not_lt, Bool.not_eq_false, not_not] at hgood
      cases hread : readJournal raw with
      | none =>
        rw [hread] at h
        cases h
      | some entries =>
        rw [hread] at h
        dsimp only at h
        split at h
        · cases h
        rename_i hcount
        rw [Bool.not_eq_false] at hcount
        split at h
        · rename_i first last hfirst hlast
          obtain ⟨e₁, he₁, hseq₁⟩ := Option.map_eq_some_iff.1 hfirst
          obtain ⟨e₂, he₂, hseq₂⟩ := Option.map_eq_some_iff.1 hlast
          split at h
          · rename_i hnumbers
            simp only [Bool.and_eq_true] at hnumbers
            cases h
            exact ⟨hm, raw, entries, hraw, ⟨hgood.1, hgood.2.1⟩, hgood.2.2, hread, hcount,
              ⟨e₁, he₁, first, hseq₁, hnumbers.1.1⟩, ⟨e₂, he₂, last, hseq₂, hnumbers.1.2, hnumbers.2⟩⟩
          · cases h
        · cases h
        · cases h
    · cases h
  · rintro ⟨hm, raw, entries, hraw, hsize, hdigest, hread, hcount, ⟨e₁, he₁, first, hseq₁, hfirst⟩,
      ⟨e₂, he₂, last, hseq₂, hlast, harchived⟩⟩
    have hbad : ¬ (MAX_JOURNAL_BYTES < raw.length ∨ numberIs floatEquals manifest "size_bytes" raw.length = false ∨
        Entry.text? manifest "sha256_digest" ≠ some (sha256.digest raw)) := by
      rw [not_or, not_or, Nat.not_lt, Bool.not_eq_false, not_not]
      exact ⟨hsize.1, hsize.2, hdigest⟩
    have hhead : entries.head?.map (Entry.int? · "seq") = some (some first) := by
      rw [Option.mem_def.1 he₁, Option.map_some, hseq₁]
    have hend : entries.getLast?.map (Entry.int? · "seq") = some (some last) := by
      rw [Option.mem_def.1 he₂, Option.map_some, hseq₂]
    simp only [hm, hraw]
    rw [if_neg hbad]
    simp only [hread]
    rw [hcount, if_neg (by decide)]
    simp only [hhead, hend, hfirst, hlast, harchived, Bool.and_self, if_true]

end

/-! ## What a rotation writes is accepted -/

def ArchiveManifest.dict (m : ArchiveManifest) : Entry := fieldValues (sortedFields m.fields)

theorem ArchiveManifest.fields_nodup (m : ArchiveManifest) : (m.fields.map Prod.fst).Nodup :=
  (by decide : ["schema", "archived_at_utc", "archive_file", "sha256_digest", "size_bytes", "record_count", "first_seq",
    "last_seq", "archived_up_to_seq", "previous_archive_sha256"].Nodup)

theorem ArchiveManifest.field_dict (m : ArchiveManifest) (key : String) :
    field m.dict key = (m.fields.lookup key).map fun v => (sortKeys v).value := field_sorted m.fields_nodup key

theorem ArchiveManifest.lookup_fields (m : ArchiveManifest) :
    m.fields.lookup "schema" = some (.str JOURNAL_ARCHIVE_SCHEMA) ∧
    m.fields.lookup "sha256_digest" = some (.str m.sha256Digest) ∧
    m.fields.lookup "size_bytes" = some (.int m.sizeBytes) ∧
    m.fields.lookup "record_count" = some (.int m.recordCount) ∧
    m.fields.lookup "first_seq" = some (.int m.firstSeq) ∧ m.fields.lookup "last_seq" = some (.int m.lastSeq) ∧
    m.fields.lookup "archived_up_to_seq" = some (.int m.lastSeq) := ⟨rfl, rfl, rfl, rfl, rfl, rfl, rfl⟩

section
variable {sha256 : Sha256} {es : List JournalEntry}

theorem numberIs_dict (floatEquals : String → ℤ → Bool) {m : ArchiveManifest} {key : String} {n : ℤ}
    (h : m.fields.lookup key = some (.int n)) : numberIs floatEquals m.dict key n = true := by
  rw [numberIs, m.field_dict, h]
  exact beq_self_eq_true n

theorem text_manifest {m : ArchiveManifest} {key s : String} (h : m.fields.lookup key = some (.str s)) :
    Entry.text? m.dict key = some s := by
  rw [Entry.text?, m.field_dict, h]
  exact text?_points s

/-- The numbers of a manifest are those of its first and its last entry. -/
theorem manifestOf_ends (hes : es ≠ []) (sha256 : Sha256) (now : DateTime) : ∃ e₁ e₂, es.head? = some e₁ ∧
    es.getLast? = some e₂ ∧ (manifestOf sha256 es now).firstSeq = e₁.seq ∧
    (manifestOf sha256 es now).lastSeq = e₂.seq := by
  obtain ⟨e₁, hhead⟩ : ∃ e₁, es.head? = some e₁ := Option.isSome_iff_exists.1 (by simpa using hes)
  obtain ⟨e₂, hend⟩ : ∃ e₂, es.getLast? = some e₂ := Option.isSome_iff_exists.1 (by simpa using hes)
  refine ⟨e₁, e₂, hhead, hend, ?_, ?_⟩
  · rw [manifestOf, hhead]
    rfl
  · rw [manifestOf, hend]
    rfl

theorem manifestOf_previous {now : DateTime} {previous : String}
    (h : (manifestOf sha256 es now).previousArchiveSha256 = some previous) : isSha256 previous = true := by
  obtain ⟨e, -, hprevious⟩ := Option.bind_eq_some_iff.1 h
  have hok := e.kind_ok
  unfold JournalEntry.previous? at hprevious
  cases hkind : e.kind with
  | recorded action actorId fingerprint =>
    rw [hkind] at hprevious
    cases hprevious
  | rotated named =>
    rw [hkind] at hprevious hok
    cases hprevious
    exact hok

theorem ArchiveManifest.readable_fields (m : ArchiveManifest) : ∀ f ∈ m.fields, Readable (sortKeys f.2) := by
  unfold fields
  cases m.previousArchiveSha256 <;> simp [optionalText, sortKeys, Readable]

/-- The values of a manifest are short. -/
theorem length_value (sha256 : Sha256) (hes : es ≠ []) (hseqs : ∀ e ∈ es, e.seq < SEQ_LIMIT)
    (hcount : es.length ≤ MAX_JOURNAL_RECORDS) (now : DateTime) :
    ∀ f ∈ (manifestOf sha256 es now).fields, lengthIn .indented 1 f.2 ≤ 150 := by
  obtain ⟨e₁, e₂, hhead, hend, hfirst, hlast⟩ := manifestOf_ends hes sha256 now
  have hsha : ∀ s, isSha256 s = true → lengthIn .indented 1 (.str s) ≤ 150 := by
    intro s hs
    obtain ⟨hplain, hlength⟩ := isPlain_of_isSha256 hs
    rw [lengthIn_str _ hplain, hlength]
    decide
  have htime : lengthIn .indented 1 (.str now.isoformat) ≤ 150 := by
    rw [lengthIn_str _ (DateTime.isoformat_all (by decide) (by decide) now)]
    exact (Nat.add_le_add_right now.length_isoformat_le 2).trans (by decide)
  have hnames : lengthIn .indented 1 (.str JOURNAL_ARCHIVE_SCHEMA) ≤ 150 ∧
      lengthIn .indented 1 (.str JOURNAL_FILENAME) ≤ 150 := by
    rw [lengthIn_str _ (by decide), lengthIn_str _ (by decide)]
    decide
  have hnumber : ∀ e ∈ es, lengthIn .indented 1 (.int e.seq) ≤ 150 := fun e he =>
    lengthIn_nat_le .indented (by decide) (hseqs e he) 1
  have hfirstLength := hnumber e₁ (List.mem_of_mem_head? hhead)
  have hlastLength := hnumber e₂ (List.mem_of_getLast? hend)
  have hsizes : lengthIn .indented 1 (.int (journalBytes es).length) ≤ 150 ∧
      lengthIn .indented 1 (.int es.length) ≤ 150 := by
    have hbytes := length_journalBytes_le hseqs
    have hlimit : MAX_JOURNAL_RECORDS = 64 := rfl
    exact ⟨(lengthIn_nat_le .indented (k := 5) (by decide) (by omega) 1).trans (by decide),
      (lengthIn_nat_le .indented (k := 5) (by decide) (by omega) 1).trans (by decide)⟩
  have hprevious : lengthIn .indented 1 (optionalText (manifestOf sha256 es now).previousArchiveSha256) ≤ 150 := by
    cases h : (manifestOf sha256 es now).previousArchiveSha256 with
    | none => exact (lengthIn_null .indented 1).trans_le (by decide)
    | some previous => exact hsha previous (manifestOf_previous h)
  unfold ArchiveManifest.fields
  rw [hfirst, hlast]
  simp only [List.forall_mem_cons]
  exact ⟨hnames.1, htime, hnames.2, hsha _ (sha256.isSha256_digest _), hsizes.1, hsizes.2, hfirstLength, hlastLength,
    hlastLength, hprevious, fun _ hf => absurd hf List.not_mem_nil⟩

theorem strict_manifest (sha256 : Sha256) (hes : es ≠ []) (hseqs : ∀ e ∈ es, e.seq < SEQ_LIMIT)
    (hcount : es.length ≤ MAX_JOURNAL_RECORDS) (now : DateTime) :
    ∀ f ∈ (manifestOf sha256 es now).fields, (sortKeys f.2).value.strict (fun _ => true) = true := by
  obtain ⟨e₁, e₂, hhead, hend, hfirst, hlast⟩ := manifestOf_ends hes sha256 now
  have hstr : ∀ s : String, (sortKeys (.str s)).value.strict (fun _ => true) = true := fun s => by
    simp [sortKeys, Json.value, Value.strict]
  have hnumber : ∀ e ∈ es, (sortKeys (.int e.seq)).value.strict (fun _ => true) = true := fun e he =>
    strict_nat _ (k := 150) (by decide) (by decide) (hseqs e he)
  have hfirstStrict := hnumber e₁ (List.mem_of_mem_head? hhead)
  have hlastStrict := hnumber e₂ (List.mem_of_getLast? hend)
  have hsizes : (sortKeys (.int (journalBytes es).length)).value.strict (fun _ => true) = true ∧
      (sortKeys (.int es.length)).value.strict (fun _ => true) = true := by
    have hbytes := length_journalBytes_le hseqs
    have hlimit : MAX_JOURNAL_RECORDS = 64 := rfl
    exact ⟨strict_nat _ (k := 5) (by decide) (by decide) (by omega),
      strict_nat _ (k := 5) (by decide) (by decide) (by omega)⟩
  have hprevious : (sortKeys (optionalText (manifestOf sha256 es now).previousArchiveSha256)).value.strict
      (fun _ => true) = true := by
    cases (manifestOf sha256 es now).previousArchiveSha256 with
    | none => simp [optionalText, sortKeys, Json.value, Value.strict]
    | some previous => exact hstr previous
  unfold ArchiveManifest.fields
  rw [hfirst, hlast]
  simp only [List.forall_mem_cons]
  exact ⟨hstr _, hstr _, hstr _, hstr _, hsizes.1, hsizes.2, hfirstStrict, hlastStrict, hlastStrict, hprevious,
    fun _ hf => absurd hf List.not_mem_nil⟩

theorem readManifest_written (hes : es ≠ []) (hseqs : ∀ e ∈ es, e.seq < SEQ_LIMIT)
    (hcount : es.length ≤ MAX_JOURNAL_RECORDS) (now : DateTime) :
    readManifest (manifestOf sha256 es now).bytes = some (manifestOf sha256 es now).dict := by
  generalize hm : manifestOf sha256 es now = m
  have hvalues := length_value sha256 hes hseqs hcount now
  have hstrict := strict_manifest sha256 hes hseqs hcount now
  rw [hm] at hvalues hstrict
  have hkeys : ∀ key ∈ m.fields.map Prod.fst, key.toList.all isPlain = true ∧ key.length ≤ 23 :=
    (by decide : ∀ key ∈ ["schema", "archived_at_utc", "archive_file", "sha256_digest", "size_bytes", "record_count",
      "first_seq", "last_seq", "archived_up_to_seq", "previous_archive_sha256"],
      key.toList.all isPlain = true ∧ key.length ≤ 23)
  have hwidth : lengthIn .indented 0 (.obj m.fields) ≤ 4 * 0 + 6 + m.fields.length * (23 + 150 + 2 * 0 + 8) :=
    lengthIn_indented_obj_le fun f hf => ⟨hkeys f.1 (List.mem_map_of_mem hf), hvalues f hf⟩
  have hfields : m.fields.length = 10 := rfl
  have hlength : m.bytes.length ≤ MAX_JOURNAL_BYTES := by
    have hbytes := length_utf8_le (String.ofList (dumpsIn .indented (.obj m.fields) ++ ['\n']))
    rw [String.length_ofList, List.length_append, List.length_singleton] at hbytes
    have htext : (dumpsIn .indented (.obj m.fields)).length = lengthIn .indented 0 (.obj m.fields) := rfl
    have hmax : MAX_JOURNAL_BYTES = 65536 := rfl
    rw [ArchiveManifest.bytes]
    omega
  have hblank : ∀ c ∈ ['\n'], isBlank c = true := by
    intro c hc
    rw [List.mem_singleton.1 hc]
    rfl
  have hdict : (sortKeys (.obj m.fields)).value = .obj m.dict := by rw [sortKeys_obj, Json.value, ArchiveManifest.dict]
  have hloads : loads (dumpsIn .indented (.obj m.fields) ++ ['\n']) = some (.obj m.dict) := by
    rw [← hdict]
    exact loads_renderIn .indented (readable_sorted m.readable_fields) 0 ['\n'] hblank
  have hdecode : decodeUtf8 m.bytes = some (dumpsIn .indented (.obj m.fields) ++ ['\n']) := by
    rw [ArchiveManifest.bytes, decodeUtf8_utf8, String.toList_ofList]
  have hgood := strict_sorted m.fields_nodup hstrict
  rw [hdict] at hgood
  have hschema : Entry.text? m.dict "schema" = some JOURNAL_ARCHIVE_SCHEMA := text_manifest m.lookup_fields.1
  unfold readManifest
  rw [(Option.guard_eq_some' ()).2 hlength, hdecode]
  simp only [Option.bind_eq_bind, Option.bind_some, hloads]
  rw [(Option.guard_eq_some' ()).2 hgood, Option.bind_some, if_pos hschema]

/-- An archive that a rotation has written is accepted. -/
theorem verify_written (floatEquals : String → ℤ → Bool) (hes : es ≠ []) (hnumbered : Numbered 0 1 es)
    (hseqs : ∀ e ∈ es, e.seq < SEQ_LIMIT) (hcount : es.length ≤ MAX_JOURNAL_RECORDS) (now : DateTime) :
    verifyJournalArchive sha256 floatEquals ⟨some (journalBytes es), some (manifestOf sha256 es now).bytes⟩ =
      .ok (manifestOf sha256 es now).dict := by
  obtain ⟨e₁, e₂, hhead, hend, hfirst, hlast⟩ := manifestOf_ends hes sha256 now
  obtain ⟨-, hdigest, hbytes, hentries, hfirstField, hlastField, harchivedField⟩ :=
    (manifestOf sha256 es now).lookup_fields
  rw [hfirst] at hfirstField
  rw [hlast] at hlastField harchivedField
  have hsize : (journalBytes es).length ≤ MAX_JOURNAL_BYTES := by
    refine (length_journalBytes_le hseqs).trans ?_
    have hlimit : MAX_JOURNAL_RECORDS = 64 ∧ MAX_JOURNAL_BYTES = 65536 := ⟨rfl, rfl⟩
    omega
  have hdescribes : Describes sha256 floatEquals (manifestOf sha256 es now).dict (journalBytes es)
      (es.map JournalEntry.dict) :=
    { size := ⟨hsize, numberIs_dict floatEquals hbytes⟩
      digest := text_manifest hdigest
      read := readJournal_written hnumbered hseqs hcount hsize
      count := by
        rw [List.length_map]
        exact numberIs_dict floatEquals hentries
      first := by
        refine ⟨e₁.dict, ?_, e₁.seq, JournalEntry.int_dict e₁.lookup_fields.2.1, numberIs_dict floatEquals hfirstField⟩
        rw [List.head?_map, hhead]
        rfl
      last := by
        refine ⟨e₂.dict, ?_, e₂.seq, JournalEntry.int_dict e₂.lookup_fields.2.1, numberIs_dict floatEquals hlastField,
          numberIs_dict floatEquals harchivedField⟩
        rw [List.getLast?_map, hend]
        rfl }
  rw [verify_ok_iff, Option.bind_some]
  exact ⟨readManifest_written hes hseqs hcount now, journalBytes es, es.map JournalEntry.dict, rfl, hdescribes⟩

end

/-! ## Archives stay -/

section
variable {δ : Type} {env : Env} {w : World δ}

theorem entries_of_empty {entries : List Entry} (h : w.entries = some entries)
    (hraw : w.journal.map (·.bytes) = some []) : entries = [] := by
  obtain ⟨f, hf, hbytes⟩ := Option.map_eq_some_iff.1 hraw
  rw [World.entries, hf] at h
  dsimp only at h
  split at h
  · rw [hbytes] at h
    simpa [readJournal] using h.symm
  · cases h

theorem recordChange_archives {α : Type} (existing : List Entry) (action : Action) (c : HumanCredential)
    (records : List HumanCredential) (create : Bool) (result : α) (w : World δ) :
    (recordChange env existing action c records create result w).2.archives = w.archives :=
  (recordChange_policy env existing action c records create result w).1

/-- What a call may leave in a directory for archives: what was there, or in an empty one no manifest, or a manifest
beside a journal that is not empty. -/
def Archived (before after : ArchiveDirectory) : Prop :=
  after = before ∨ before = ⟨none, none⟩ ∧ (after.manifest = none ∨ ∃ raw, raw ≠ [] ∧ after.journal = some raw)

theorem Reads.then_archived {α β : Type} {m : Prog δ α} {f : α → Prog δ β} (hm : Reads m) {before : ArchiveDirectory}
    {d : δ} (hsame : Archived before (w.archives d))
    (hrest : ∀ a, m w = (.ok a, w) → Archived before ((f a w).2.archives d)) :
    Archived before (((m >>= f) w).2.archives d) :=
  hm.then_ends (P := fun r => Archived before (r.2.archives d)) hsame hrest

end

section
variable {δ : Type} [DecidableEq δ] {sha256 : Sha256} {env : Env} {w : World δ}

theorem rotateJournal_archives (archive : δ) (w : World δ) (d : δ) :
    Archived (w.archives d) ((rotateJournal sha256 env archive w).2.archives d) := by
  have hsame : Archived (w.archives d)
      ((refusal w : Except CredentialPolicyError ArchiveManifest × World δ).2.archives d) := .inl rfl
  unfold rotateJournal
  refine (reads_os env .lock).then_archived hsame fun _ _ => ?_
  refine (reads_os env .lockArchive).then_archived hsame fun _ _ => ?_
  refine (reads_os env .look).then_archived hsame fun _ _ => ?_
  rw [get_then]
  by_cases hthere : ((w.archives archive).journal.isSome || (w.archives archive).manifest.isSome) = true
  · rw [if_pos hthere]
    exact hsame
  rw [if_neg hthere]
  rw [Bool.or_eq_true, not_or, Option.not_isSome_iff_eq_none, Option.not_isSome_iff_eq_none] at hthere
  have hempty : w.archives archive = ⟨none, none⟩ := by
    obtain ⟨hjournal, hmanifest⟩ := hthere
    cases h : w.archives archive
    rw [h] at hjournal hmanifest
    cases hjournal
    cases hmanifest
    rfl
  refine (reads_readJournalFile env).then_archived hsame fun entries hentries => ?_
  refine (reads_need _).then_archived hsame fun first hfirst => ?_
  refine (reads_need _).then_archived hsame fun last _ => ?_
  refine (reads_os env .copy).then_archived hsame fun _ _ => ?_
  refine (reads_need _).then_archived hsame fun raw hraw => ?_
  refine (reads_need _).then_archived hsame fun firstSeq _ => ?_
  refine (reads_need _).then_archived hsame fun lastSeq _ => ?_
  have hnonempty : raw ≠ [] := by
    rintro rfl
    have hnil := entries_of_empty (readJournalFile_ok hentries) (need_ok hraw)
    have hhead := need_ok hfirst
    rw [hnil] at hhead
    cases hhead
  -- the two files are all that the directory gets
  have hput : ∀ a : ArchiveDirectory, (a.manifest = none ∨ ∃ raw, raw ≠ [] ∧ a.journal = some raw) →
      Archived (w.archives d) ((w.archiving archive a).archives d) := by
    intro a ha
    by_cases hd : d = archive
    · subst hd
      rw [World.archives_archiving]
      exact .inr ⟨hempty, ha⟩
    · rw [archiving_other hd]
      exact .inl rfl
  rw [archiveFile_then]
  by_cases hjournal : env.fails .archiveJournal = true
  · rw [if_pos hjournal]
    exact hput _ (.inl hthere.2)
  rw [if_neg hjournal, archiveFile_then, World.archives_archiving, World.archiving_archiving, World.archiving_archiving]
  by_cases hmanifest : env.fails .archiveManifest = true
  · rw [if_pos hmanifest]
    exact hput _ (.inr ⟨raw, hnonempty, rfl⟩)
  rw [if_neg hmanifest]
  have hboth : ∀ a : ArchiveDirectory, a.journal = some raw →
      Archived (w.archives d) ((w.archiving archive a).archives d) := fun a ha => hput a (.inr ⟨raw, hnonempty, ha⟩)
  generalize hw' : w.archiving archive _ = w'
  have hkept : Archived (w.archives d) (w'.archives d) := by
    rw [← hw']
    exact hboth _ rfl
  refine (reads_os env .syncArchive).then_archived hkept fun _ _ => ?_
  refine (reads_readPolicyFile env _).then_archived hkept fun records _ => ?_
  refine (reads_os env (.temporary .journal)).then_archived hkept fun _ _ => ?_
  rw [map_reply _ fun _ => (_ : ArchiveManifest)]
  rcases (replaceFile_ends env .journal _ w').same with hreplaced | ⟨n, hreplaced⟩
  · rw [hreplaced]
    exact hkept
  · rw [hreplaced]
    exact hkept

theorem callStep_archives (sha256 : Sha256) (w : World δ) (input : Env × Call δ) (d : δ) :
    Archived (w.archives d) ((callStep sha256 w input).2.archives d) := by
  obtain ⟨env, call⟩ := input
  cases call with
  | enroll decoded actor create =>
    change Archived _ (((enroll sha256 env decoded actor create >>= fun a => pure (Reply.enrolled a)) w).2.archives d)
    rw [map_reply]
    refine enroll_ends (P := fun r => Archived (w.archives d) (r.2.archives d)) (.inl rfl) fun _ _ _ _ _ _ _ => .inl ?_
    rw [recordChange_archives]
  | restrict fingerprint revoke =>
    change Archived _
      (((restrict env fingerprint revoke >>= fun a => pure ((fun _ => Reply.restricted) a)) w).2.archives d)
    rw [map_reply]
    refine restrict_ends (P := fun r => Archived (w.archives d) (r.2.archives d)) (.inl rfl) fun _ _ _ _ _ _ _ => .inl ?_
    rw [recordChange_archives]
  | rotateJournal archive =>
    change Archived _ (((rotateJournal sha256 env archive >>= fun a => pure (Reply.rotated a)) w).2.archives d)
    rw [map_reply]
    exact rotateJournal_archives archive w d

/-- An archive with a journal is left alone, whatever fails. -/
theorem exec_archives (inputs : List (Env × Call δ)) {d : δ} {raw : Bytes} (h : (w.archives d).journal = some raw) :
    (exec (callStep sha256) w inputs).archives d = w.archives d := by
  refine exec_inv (I := fun w' : World δ => w'.archives d = w.archives d) (fun w' input hw' => ?_) inputs rfl
  rcases callStep_archives sha256 w' input d with hsame | ⟨hempty, -⟩
  · exact hsame.trans hw'
  · rw [← hw', hempty] at h
    cases h

/-! ## The archives of a run -/

variable {archives : List δ} {segments : List (List JournalEntry)} {es : List JournalEntry}

/-- What a rotation that returns has written. -/
theorem rotated_step (h : JournalHolds sha256 w archives segments es)
    (hsmall : (segments.flatten ++ es).length < SEQ_LIMIT) {d : δ} {m : ArchiveManifest}
    (hok : (callStep sha256 w (env, .rotateJournal d)).1 = .ok (.rotated m)) :
    es ≠ [] ∧ m = manifestOf sha256 es (env.clock .record) ∧
      (callStep sha256 w (env, .rotateJournal d)).2.archives d = ⟨some (journalBytes es), some m.bytes⟩ := by
  revert hok
  refine callStep_ends (P := fun r => r.1 = .ok (.rotated m) → es ≠ [] ∧ m = manifestOf sha256 es (env.clock .record) ∧
    r.2.archives d = ⟨some (journalBytes es), some m.bytes⟩) h hsmall env (.rotateJournal d) ?_ ?_ ?_
  · exact fun _ _ _ _ heq => by cases heq
  · exact fun hcall => absurd rfl (hcall d)
  · intro archive hcall records hsize hes _ _ heq
    cases hcall
    rw [map_reply _ fun _ => Reply.rotated _] at heq ⊢
    have hm : m = manifestOf sha256 es (env.clock .record) := by
      rcases hr : (replaceFile env .journal (checkpointEntry sha256 es (env.clock .record) records hsize).line :
        Prog δ Unit) (w.archiving d ⟨some (journalBytes es), some (manifestOf sha256 es (env.clock .record)).bytes⟩)
        with ⟨e | u, w'⟩
      · rw [hr] at heq
        cases heq
      · rw [hr] at heq
        cases heq
        rfl
    refine ⟨hes, hm, ?_⟩
    rw [hm]
    rcases (replaceFile_ends env .journal (checkpointEntry sha256 es (env.clock .record) records hsize).line
      (w.archiving d ⟨some (journalBytes es), some (manifestOf sha256 es (env.clock .record)).bytes⟩)).same
      with hsame | ⟨n, hput⟩
    · exact (congrArg (fun v : World δ => v.archives d) hsame).trans (World.archives_archiving w d _)
    · exact (congrArg (fun v : World δ => v.archives d) hput).trans (World.archives_archiving w d _)

theorem mem_replies {input : Env × Call δ} {reply : Except CredentialPolicyError Reply} (inputs : List (Env × Call δ)) :
    ∀ {w : World δ}, (input, reply) ∈ replies (callStep sha256) w inputs → ∃ before after,
      inputs = before ++ input :: after ∧ (callStep sha256 (exec (callStep sha256) w before) input).1 = reply := by
  induction inputs with
  | nil =>
    intro w hmem
    cases hmem
  | cons first rest ih =>
    intro w hmem
    rcases List.mem_cons.1 hmem with heq | hrest
    · obtain ⟨rfl, rfl⟩ := Prod.mk.inj heq
      exact ⟨[], rest, rfl, rfl⟩
    · obtain ⟨before, after, rfl, hreply⟩ := ih hrest
      exact ⟨first :: before, after, rfl, hreply⟩

/-- **Archives verify for good.** What a rotation of a run has returned is what the check of its directory returns in
every later state, whatever fails then; another journal in its place is accepted only with the same digest. -/
theorem archives_verify (sha256 : Sha256) (floatEquals : String → ℤ → Bool) (inputs more : List (Env × Call δ))
    (hlength : inputs.length < RUN_LIMIT) (hwhole : ∀ input ∈ inputs, input.1.Whole) {d : δ} {m : ArchiveManifest}
    (hrotated : ((env, .rotateJournal d), .ok (.rotated m)) ∈ replies (callStep sha256) {} inputs) :
    verifyJournalArchive sha256 floatEquals ((exec (callStep sha256) {} (inputs ++ more)).archives d) = .ok m.dict ∧
    ∀ raw manifest, verifyJournalArchive sha256 floatEquals
        { (exec (callStep sha256) {} (inputs ++ more)).archives d with journal := some raw } = .ok manifest →
      sha256.digest raw = m.sha256Digest := by
  obtain ⟨before, after, rfl, hreply⟩ := mem_replies inputs hrotated
  rw [List.length_append, List.length_cons] at hlength
  obtain ⟨archives, segments, es, h, -, -, hcount⟩ := journal_steps before (n := 0)
    (.empty : JournalHolds sha256 {} [] [] []) (Nat.zero_le 0) (by omega)
    fun x hx => hwhole x (List.mem_append_left _ hx)
  have hsmall : (segments.flatten ++ es).length < SEQ_LIMIT := small_of_run (n := before.length) (by omega) (by omega)
  obtain ⟨hes, hm, hstored⟩ := rotated_step h hsmall hreply
  obtain ⟨hnumbered, hroom⟩ := h.numbered es (List.mem_append_right _ (List.mem_singleton_self es))
  have hseqs : ∀ e ∈ es, e.seq < SEQ_LIMIT := fun e he =>
    (h.seq_le e (List.mem_append_right _ he)).trans_lt hsmall
  have hlater : (exec (callStep sha256) {} (before ++ (env, .rotateJournal d) :: after ++ more)).archives d =
      ⟨some (journalBytes es), some m.bytes⟩ := by
    rw [List.append_assoc, List.cons_append, exec_append, exec_cons,
      exec_archives _ (congrArg ArchiveDirectory.journal hstored), hstored]
  rw [hlater]
  constructor
  · rw [hm]
    exact verify_written floatEquals hes hnumbered hseqs hroom _
  · intro raw manifest hok
    rw [verify_ok_iff, Option.bind_some] at hok
    obtain ⟨hmanifest, raw', entries, hraw, hdescribes⟩ := hok
    obtain rfl : raw = raw' := Option.some.inj hraw
    have hread : readManifest m.bytes = some m.dict := by
      rw [hm]
      exact readManifest_written hes hseqs hroom _
    obtain rfl : m.dict = manifest := Option.some.inj (hread.symm.trans hmanifest)
    exact Option.some.inj (hdescribes.digest.symm.trans (text_manifest m.lookup_fields.2.1))

end

theorem archives_verify_lab : ∃ m : ArchiveManifest,
    verifyJournalArchive labSha256 (fun _ _ => false) ((exec (callStep labSha256) {}
      ([initCall, (labEnv enrolledAt [], .rotateJournal ())] ++ [])).archives ()) = .ok m.dict ∧
    ∀ raw manifest, verifyJournalArchive labSha256 (fun _ _ => false) { (exec (callStep labSha256) {}
      ([initCall, (labEnv enrolledAt [], .rotateJournal ())] ++ [])).archives () with journal := some raw } =
        .ok manifest → labSha256.digest raw = m.sha256Digest := by
  obtain ⟨w, e, hstep, hjournal, hpolicy, harchives⟩ := initCall_done
  have hdate : ¬ OutOfDate [labCredential firstDer] enrolledAt := by
    rintro ⟨c, hc, -, hout⟩
    obtain rfl := List.mem_singleton.1 hc
    rw [inDate_lab] at hout
    cases hout
  obtain ⟨w', e', reply, hrotate, -, -⟩ := rotate_done hjournal (small_number (by decide : 1 ≤ 66)) hpolicy
    (List.cons_ne_nil _ _) (List.cons_ne_nil _ _) (congrFun harchives ()) (labEnv_calm enrolledAt) hdate
  obtain ⟨m, rfl⟩ : ∃ m, reply = .rotated m := by
    change (rotateJournal labSha256 (labEnv enrolledAt []) () >>= fun a => pure (Reply.rotated a)) w = _ at hrotate
    rw [map_reply] at hrotate
    rcases hr : (rotateJournal labSha256 (labEnv enrolledAt []) () w).1 with err | m
    · rw [hr] at hrotate
      cases hrotate
    · rw [hr] at hrotate
      exact ⟨m, (Except.ok.inj (Prod.mk.inj hrotate).1).symm⟩
  have hmem : ((labEnv enrolledAt [], .rotateJournal ()), .ok (.rotated m)) ∈
      replies (callStep labSha256) ({} : World Unit) [initCall, (labEnv enrolledAt [], .rotateJournal ())] := by
    rw [replies, replies, hstep]
    dsimp only
    rw [hrotate]
    exact List.mem_cons_of_mem _ List.mem_cons_self
  have hlimit : 10 ^ 1 ≤ RUN_LIMIT := Nat.pow_le_pow_right (by decide) (by decide)
  refine ⟨m, archives_verify labSha256 (fun _ _ => false) [initCall, (labEnv enrolledAt [], .rotateJournal ())] []
    (Nat.lt_of_lt_of_le (by decide) hlimit) ?_ hmem⟩
  intro input hinput
  rcases List.mem_cons.1 hinput with rfl | hmem
  · exact ⟨rfl, rfl⟩
  · obtain rfl := List.mem_singleton.1 hmem
    exact ⟨rfl, rfl⟩

/-! ## The exception that is not caught -/

theorem readJournal_nil {raw : Bytes} (h : readJournal raw = some []) : raw = [] := by
  unfold readJournal at h
  split at h
  · cases h
  split at h
  · assumption
  obtain ⟨_, hends, h⟩ := Option.bind_eq_some_iff.1 h
  obtain ⟨entries, hentries, h⟩ := Option.bind_eq_some_iff.1 h
  obtain ⟨_, -, h⟩ := Option.bind_eq_some_iff.1 h
  obtain rfl : entries = [] := Option.some.inj h
  have hlast := (Option.guard_eq_some' _).1 hends
  have hnone : (raw.splitOn 10).dropLast = [] := by
    cases hlines : (raw.splitOn 10).dropLast with
    | nil => rfl
    | cons line lines =>
      rw [hlines, readEntries] at hentries
      obtain ⟨⟨entry, seq⟩, -, hentries⟩ := Option.bind_eq_some_iff.1 hentries
      obtain ⟨rest, -, hentries⟩ := Option.bind_eq_some_iff.1 hentries
      cases hentries
  have hlines : raw.splitOn 10 = [[]] := by
    rw [← List.dropLast_append_getLast? [] hlast, hnone, List.nil_append]
  have hsame : [10].intercalate (raw.splitOn 10) = raw := List.intercalate_splitOn 10
  rw [hlines] at hsame
  exact hsame.symm

theorem indexError_iff (sha256 : Sha256) (floatEquals : String → ℤ → Bool) (dir : ArchiveDirectory) :
    verifyJournalArchive sha256 floatEquals dir = .error .indexError ↔ dir.journal = some [] ∧
      ∃ manifest, dir.manifest.bind readManifest = some manifest ∧
        numberIs floatEquals manifest "size_bytes" 0 = true ∧
        Entry.text? manifest "sha256_digest" = some (sha256.digest []) ∧
        numberIs floatEquals manifest "record_count" 0 = true := by
  unfold verifyJournalArchive
  constructor
  · intro h
    split at h
    · rename_i manifest raw hmanifest hraw
      split at h
      · cases h
      rename_i hgood
      rw [not_or, not_or, Nat.not_lt, Bool.not_eq_false, not_not] at hgood
      split at h
      · cases h
      rename_i entries hread
      split at h
      · cases h
      rename_i hcount
      rw [Bool.not_eq_false] at hcount
      split at h
      · split at h <;> cases h
      · rename_i hhead
        obtain rfl : entries = [] := List.head?_eq_none_iff.1 (Option.map_eq_none_iff.1 hhead)
        obtain rfl := readJournal_nil hread
        exact ⟨hraw, manifest, hmanifest, hgood.2.1, hgood.2.2, hcount⟩
      · cases h
    · cases h
  · rintro ⟨hraw, manifest, hmanifest, hsize, hdigest, hcount⟩
    have hread : readJournal [] = some [] := rfl
    have hbad : ¬ (MAX_JOURNAL_BYTES < ([] : Bytes).length ∨
        numberIs floatEquals manifest "size_bytes" ([] : Bytes).length = false ∨
        Entry.text? manifest "sha256_digest" ≠ some (sha256.digest [])) := by
      rw [not_or, not_or, Nat.not_lt, Bool.not_eq_false, not_not]
      exact ⟨Nat.zero_le _, hsize, hdigest⟩
    have hzero : numberIs floatEquals manifest "record_count" (([] : List Entry).length : ℤ) = true := hcount
    simp only [hmanifest, hraw]
    rw [if_neg hbad]
    simp only [hread]
    rw [hzero, if_neg (by decide)]
    rfl

section
variable {δ : Type} [DecidableEq δ]

/-- An empty journal has no manifest beside it, after every run. -/
theorem exec_unlisted (sha256 : Sha256) (inputs : List (Env × Call δ)) (d : δ) :
    ((exec (callStep sha256) {} inputs).archives d).journal = some [] →
      ((exec (callStep sha256) {} inputs).archives d).manifest = none := by
  refine exec_inv (I := fun w : World δ => (w.archives d).journal = some [] → (w.archives d).manifest = none)
    (fun w input hw hempty => ?_) inputs fun hnone => by cases hnone
  rcases callStep_archives sha256 w input d with hsame | ⟨-, hnone | ⟨raw, hraw, hjournal⟩⟩
  · rw [hsame] at hempty ⊢
    exact hw hempty
  · exact hnone
  · rw [hjournal] at hempty
    exact absurd (Option.some.inj hempty) hraw

end

end ThreatFusion.Credentials
