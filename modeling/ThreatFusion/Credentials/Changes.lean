import ThreatFusion.Credentials.Calls
/-
# What a call leaves in the directories

The calls that change the policy end alike: `recordChange` writes the policy and then the entry. What they plan to
write is `Planned`, and what a rotation publishes is in `rotate_ends`.

* `recordChange_policy`, `recordChange_journal`: what may be left when something fails.
* `recordChange_calm`: when nothing fails behind the policy, both files change or none.
* `enroll_ends`, `restrict_ends`, `rotate_ends`: the calls, by the ways in which they can end.
-/
namespace ThreatFusion.Credentials
open Py Browser JsonText Effect
open Analyst hiding Value Readable

/-! ## The entries that the calls add -/

def nextNumber (es : List JournalEntry) : Nat := (es.getLast?.map (·.seq)).elim 1 (· + 1)

theorem nextSeq_dicts (es : List JournalEntry) : nextSeq (es.map JournalEntry.dict) = (nextNumber es : ℤ) := by
  unfold nextSeq nextNumber
  rw [List.getLast?_map]
  cases es.getLast? with
  | none => rfl
  | some e =>
    rw [Option.map_some, Option.bind_some, JournalEntry.int_dict e.lookup_fields.2.1]
    rfl

theorem nextNumber_pos (es : List JournalEntry) : 0 < nextNumber es := by
  unfold nextNumber
  cases es.getLast? with
  | none => exact Nat.one_pos
  | some e => exact Nat.succ_pos _

def JournalEntry.previous? (e : JournalEntry) : Option String :=
  match e.kind with
  | .recorded _ _ _ => none
  | .rotated previous => some previous

theorem JournalEntry.previous_dict (e : JournalEntry) : Entry.text? e.dict "previous_archive_sha256" = e.previous? := by
  unfold previous?
  cases hkind : e.kind with
  | recorded action actorId fingerprint =>
    have hnone : e.fields.lookup "previous_archive_sha256" = none := by
      rw [fields, hkind]
      rfl
    rw [Entry.text?, field_dict, hnone]
    rfl
  | rotated previous => exact text_dict (by rw [fields, hkind]; rfl)

/-- The entry that a call adds for one record of the policy. -/
def recordEntry (es : List JournalEntry) (now : DateTime) (action : Action) (c : HumanCredential)
    (records : List HumanCredential) (h : records.length ≤ MAX_JOURNAL_RECORDS) : JournalEntry where
  seq := nextNumber es
  now := now
  kind := .recorded action c.actorId c.certificateSha256
  activeRecords := activeCount records
  totalRecords := records.length
  seq_pos := nextNumber_pos es
  kind_ok := ⟨c.actor_valid, c.sha_valid⟩
  counts := ⟨List.countP_le_length, h⟩

theorem line_recordEntry (es : List JournalEntry) (now : DateTime) (action : Action) (c : HumanCredential)
    (records : List HumanCredential) (h : records.length ≤ MAX_JOURNAL_RECORDS) :
    (recordEntry es now action c records h).line = entryBytes (journalFields (nextSeq (es.map JournalEntry.dict)) now
      action.text action.resultingStatus (some c.actorId) (some c.certificateSha256) records.length
      (activeCount records)) := by
  rw [nextSeq_dicts]
  rfl

/-- The first entry of the journal that follows `es`. -/
def checkpointEntry (sha256 : Sha256) (es : List JournalEntry) (now : DateTime) (records : List HumanCredential)
    (h : records.length ≤ MAX_JOURNAL_RECORDS) : JournalEntry where
  seq := nextNumber es
  now := now
  kind := .rotated (sha256.digest (journalBytes es))
  activeRecords := activeCount records
  totalRecords := records.length
  seq_pos := nextNumber_pos es
  kind_ok := sha256.isSha256_digest _
  counts := ⟨List.countP_le_length, h⟩

theorem numbered_append {e : JournalEntry} : ∀ {es : List JournalEntry} {i expected : Nat},
    Numbered i expected (es ++ [e]) ↔
      Numbered i expected es ∧ Follows (i + es.length) ((es.getLast?.map (·.seq)).elim expected (· + 1)) e
  | [], i, expected => by simp [Numbered]
  | e' :: es, i, expected => by
    rw [List.cons_append, Numbered, Numbered, numbered_append, and_assoc, List.length_cons, Nat.add_right_comm, Nat.add_assoc]
    cases es with
    | nil => rfl
    | cons f es =>
      rw [List.getLast?_cons_cons]
      rcases hlast : (f :: es).getLast? with _ | last
      · simp at hlast
      · rfl

/-- The next entry of a call keeps the numbering. -/
theorem numbered_recordEntry {es : List JournalEntry} (hes : Numbered 0 1 es) (now : DateTime) (action : Action)
    (c : HumanCredential) (records : List HumanCredential) (h : records.length ≤ MAX_JOURNAL_RECORDS) :
    Numbered 0 1 (es ++ [recordEntry es now action c records h]) := by
  rw [numbered_append]
  refine ⟨hes, ?_⟩
  change nextNumber es = if 0 + es.length = 0 then 1 else (es.getLast?.map (·.seq)).elim 1 (· + 1)
  by_cases hempty : es = []
  · rw [hempty]
    rfl
  · rw [if_neg (by simpa using hempty)]
    rfl

/-- The file of a journal that the calls have written. -/
def journalFile : List JournalEntry → Option DirectoryFile
  | [] => none
  | e :: es => some ⟨journalBytes (e :: es), 1⟩

/-! ## What one call may leave -/

/-- A write that fails leaves nothing of the line, and the second name of a new journal goes. -/
def Env.Whole (env : Env) : Prop := env.written .append = none ∧ env.fails (.cleanup .journal) = false

section
variable {δ α : Type} {env : Env} {w : World δ} {es : List JournalEntry}

theorem Publication.whole {raw : Bytes} {r : Except CredentialPolicyError Unit × World δ}
    (h : Publication env .journal raw w r) (hwhole : env.Whole) : r.2 = w ∨ r.2 = w.put .journal ⟨raw, 1⟩ := by
  cases h with
  | refused => exact .inl rfl
  | stopped n once late =>
    rw [once hwhole.2]
    exact .inr rfl
  | done => exact .inr rfl

theorem Publication.same {name : FileName} {raw : Bytes} {r : Except CredentialPolicyError Unit × World δ}
    (h : Publication env name raw w r) : r.2 = w ∨ ∃ n, r.2 = w.put name ⟨raw, n⟩ := by
  cases h with
  | refused => exact .inl rfl
  | stopped n once late => exact .inr ⟨n, rfl⟩
  | done => exact .inr ⟨1, rfl⟩

theorem appendFile_same (raw : Bytes) (w : World δ) :
    (appendFile env raw w).2 = w ∨ ∃ f, (appendFile env raw w).2 = w.put .journal f := by
  rw [appendFile, get_then]
  cases w.journal with
  | none => exact .inl rfl
  | some f =>
    dsimp only
    by_cases hbad : f.links ≠ 1 ∨ MAX_JOURNAL_BYTES < f.bytes.length + raw.length
    · rw [if_pos hbad]
      exact .inl rfl
    · rw [if_neg hbad]
      by_cases hfails : env.fails .append = true
      · rw [if_pos hfails, modify_then]
        exact .inr ⟨_, rfl⟩
      · rw [if_neg hfails, modify_then, os_alone]
        split <;> exact .inr ⟨_, rfl⟩

/-- The journal alone changes. -/
theorem appendJournal_same (env : Env) (existing : List Entry) (action : Action) (actorId fingerprint : String) (total active : Nat)
    (w : World δ) : (appendJournal env existing action actorId fingerprint total active w).2 = w ∨
      ∃ f, (appendJournal env existing action actorId fingerprint total active w).2 = w.put .journal f := by
  unfold appendJournal
  split
  · exact .inl rfl
  · split
    · rw [os_then]
      split
      · exact .inl rfl
      · rcases publishNew_ends env .journal _ w with hrefused | ⟨-, hends⟩
        · exact .inl (congrArg Prod.snd hrefused)
        · rcases hends.same with hsame | ⟨n, hput⟩
          · exact .inl hsame
          · exact .inr ⟨_, hput⟩
    · exact appendFile_same _ w

theorem journalBytes_nil : journalBytes [] = [] := rfl

theorem journalBytes_singleton (e : JournalEntry) : journalBytes [e] = e.line := List.flatMap_singleton ..

theorem journalBytes_concat (es : List JournalEntry) (e : JournalEntry) :
    journalBytes (es ++ [e]) = journalBytes es ++ e.line := by
  rw [journalBytes, journalBytes, List.flatMap_append, List.flatMap_singleton]

theorem journalFile_of_ne_nil (h : es ≠ []) : journalFile es = some ⟨journalBytes es, 1⟩ := by
  cases es with
  | nil => exact absurd rfl h
  | cons e es => rfl

theorem appendFile_whole (hfile : w.journal = some ⟨journalBytes es, 1⟩) (hwhole : env.Whole) (raw : Bytes) :
    (appendFile env raw w).2 = w ∨ (appendFile env raw w).2 = w.put .journal ⟨journalBytes es ++ raw, 1⟩ := by
  rw [appendFile, get_then, hfile]
  dsimp only
  split
  · exact .inl rfl
  · split
    · rw [modify_then, hwhole.1]
      refine .inl ?_
      change w.put .journal ⟨journalBytes es ++ raw.take 0, 1⟩ = w
      rw [List.take_zero, List.append_nil, World.put, ← hfile]
    · rw [modify_then, os_alone]
      split <;> exact .inr rfl

/-- The journal is as before, or has the whole line more. -/
theorem appendJournal_whole (hfile : w.journal = journalFile es) (hwhole : env.Whole) (action : Action)
    (actorId fingerprint : String) (total active : Nat) :
    (appendJournal env (es.map JournalEntry.dict) action actorId fingerprint total active w).2 = w ∨
      es.length < MAX_JOURNAL_RECORDS ∧
        (appendJournal env (es.map JournalEntry.dict) action actorId fingerprint total active w).2 =
          w.put .journal ⟨journalBytes es ++ entryBytes (journalFields (nextSeq (es.map JournalEntry.dict))
            (env.clock .record) action.text action.resultingStatus (some actorId) (some fingerprint) total active), 1⟩ := by
  unfold appendJournal
  rw [List.length_map]
  split
  · exact .inl rfl
  · rename_i hroom
    rw [List.isEmpty_map]
    by_cases hempty : es = []
    · rw [if_pos (List.isEmpty_iff.2 hempty), os_then]
      split
      · exact .inl rfl
      · rcases publishNew_ends env .journal _ w with hrefused | ⟨-, hends⟩
        · exact .inl (congrArg Prod.snd hrefused)
        · rcases hends.whole hwhole with hsame | hput
          · exact .inl hsame
          · refine .inr ⟨Nat.not_le.1 hroom, ?_⟩
            rw [hput, hempty, journalBytes_nil, List.nil_append]
    · rw [if_neg (by simpa using hempty)]
      rcases appendFile_whole (hfile.trans (journalFile_of_ne_nil hempty)) hwhole _ with hsame | hput
      · exact .inl hsame
      · exact .inr ⟨Nat.not_le.1 hroom, hput⟩

/-- Nothing fails from here on. -/
def Env.Appends (env : Env) : Prop :=
  env.fails (.temporary .journal) = false ∧ env.fails (.publish .journal) = false ∧
    env.fails (.unlink .journal) = false ∧ env.fails .append = false ∧ env.fails (.sync .journal) = false ∧
    env.fails (.cleanup .journal) = false

theorem appendJournal_ok (hfile : w.journal = journalFile es) (happends : env.Appends)
    (hroom : es.length < MAX_JOURNAL_RECORDS) {action : Action} {actorId fingerprint : String} {total active : Nat}
    {raw : Bytes} (hraw : raw = entryBytes (journalFields (nextSeq (es.map JournalEntry.dict)) (env.clock .record)
      action.text action.resultingStatus (some actorId) (some fingerprint) total active))
    (hfits : (journalBytes es).length + raw.length ≤ MAX_JOURNAL_BYTES) :
    appendJournal env (es.map JournalEntry.dict) action actorId fingerprint total active w =
      (.ok (), w.put .journal ⟨journalBytes es ++ raw, 1⟩) := by
  obtain ⟨htemporary, hpublish, hunlink, happend, hsync, hcleanup⟩ := happends
  unfold appendJournal
  rw [List.length_map, if_neg (Nat.not_le.2 hroom), List.isEmpty_map, ← hraw]
  by_cases hempty : es = []
  · have hnone : w.file .journal = none := by
      rw [World.file, hfile, hempty]
      rfl
    rw [if_pos (List.isEmpty_iff.2 hempty), os_then, htemporary, publishNew]
    simp only [Bool.false_eq_true, if_false, os_then, hpublish, get_then, hnone, Option.isSome_none, modify_then, hunlink,
      World.put_put, hsync, os_alone, hcleanup, hempty, journalBytes_nil, List.nil_append]
  · have hsome := hfile.trans (journalFile_of_ne_nil hempty)
    have hgood : ¬ ((1 : Nat) ≠ 1 ∨ MAX_JOURNAL_BYTES < (journalBytes es).length + raw.length) := by
      rintro (hone | hlarge)
      · exact hone rfl
      · omega
    rw [if_neg (by simpa using hempty), appendFile, get_then, hsome]
    dsimp only
    rw [if_neg hgood]
    simp only [happend, Bool.false_eq_true, if_false, modify_then, os_alone, hsync]

/-! ## A change of the policy and its entry -/

theorem writePolicy_records {records : List HumanCredential} {raw : Bytes} (h : writePolicy records = some raw) :
    (records ≠ [] ∧ records.length ≤ MAX_JOURNAL_RECORDS) ∧ (records.map (·.certificateSha256)).Nodup := by
  unfold writePolicy at h
  obtain ⟨registry, hvalid, -⟩ := Option.bind_eq_some_iff.1 h
  unfold validate at hvalid
  obtain ⟨registry, hregistry, -⟩ := Option.bind_eq_some_iff.1 hvalid
  unfold newRegistry at hregistry
  by_cases hgood : (records ≠ [] ∧ records.length ≤ 64) ∧ (records.map (·.certificateSha256)).Nodup
  · exact hgood
  · rw [dif_neg hgood] at hregistry
    cases hregistry

theorem writePolicyFile_ends (env : Env) (records : List HumanCredential) (create : Bool) (w : World δ) :
    writePolicyFile env records create w = refusal w ∨ ∃ raw, writePolicy records = some raw ∧
      (create = true → w.policy = none) ∧ Publication env .policy raw w (writePolicyFile env records create w) := by
  unfold writePolicyFile
  cases hraw : writePolicy records with
  | none => exact .inl rfl
  | some raw =>
    have hneed : (need (some raw) : Prog δ Bytes) w = (.ok raw, w) := rfl
    rw [Prog.bind_ok hneed, os_then]
    split
    · exact .inl rfl
    · cases create with
      | false => exact .inr ⟨raw, rfl, fun h => (Bool.false_ne_true h).elim, replaceFile_ends _ _ _ w⟩
      | true =>
        rcases publishNew_ends env .policy raw w with hrefused | ⟨hnone, hends⟩
        · exact .inl hrefused
        · exact .inr ⟨raw, rfl, fun _ => hnone, hends⟩

/-- Nothing fails once the policy is there. -/
def Env.Replaces (env : Env) : Prop :=
  env.fails (.unlink .policy) = false ∧ env.fails (.sync .policy) = false ∧ env.fails (.cleanup .policy) = false

theorem Publication.calm {name : FileName} {raw : Bytes} {r : Except CredentialPolicyError Unit × World δ}
    (h : Publication env name raw w r) (hunlink : env.fails (.unlink name) = false) (hsync : env.fails (.sync name) = false)
    (hcleanup : env.fails (.cleanup name) = false) : r = refusal w ∨ r = (.ok (), w.put name ⟨raw, 1⟩) := by
  cases h with
  | refused => exact .inl rfl
  | stopped n once late =>
    rw [hunlink, hsync, hcleanup] at late
    rcases late with h | h | h <;> cases h
  | done => exact .inr rfl

theorem replaceFile_calm (name : FileName) (raw : Bytes) (w : World δ) (hsync : env.fails (.sync name) = false)
    (hcleanup : env.fails (.cleanup name) = false) :
    replaceFile env name raw w = refusal w ∨ replaceFile env name raw w = (.ok (), w.put name ⟨raw, 1⟩) := by
  rw [replaceFile, os_then]
  by_cases hpublish : env.fails (.publish name) = true
  · rw [if_pos hpublish]
    exact .inl rfl
  · rw [if_neg hpublish, modify_then, os_then, hsync, if_neg Bool.false_ne_true, os_alone, hcleanup,
      if_neg Bool.false_ne_true]
    exact .inr rfl

/-- `_write` and `_append_journal` as `enroll` and `restrict` end. -/
def recordChange (env : Env) (existing : List Entry) (action : Action) (c : HumanCredential)
    (records : List HumanCredential) (create : Bool) (result : α) : Prog δ α := do
  writePolicyFile env records create
  appendJournal env existing action c.actorId c.certificateSha256 records.length (activeCount records)
  return result

variable {action : Action} {c : HumanCredential} {records : List HumanCredential} {create : Bool} {result : α}

theorem map_reply {α β : Type} (m : Prog δ α) (f : α → β) (w : World δ) :
    (m >>= fun a => pure (f a)) w = ((m w).1.map f, (m w).2) := by
  rcases hm : m w with ⟨e | a, w'⟩
  · rw [Prog.bind_error hm]
    rfl
  · rw [Prog.bind_ok hm]
    rfl

theorem then_return_state {m : Prog δ Unit} (result : α) (w : World δ) : ((do m; return result : Prog δ α) w).2 = (m w).2 := by
  rcases hm : m w with ⟨e | u, w'⟩
  · rw [Prog.bind_error hm]
  · rw [Prog.bind_ok hm]
    rfl

theorem recordChange_cases (env : Env) (existing : List Entry) (action : Action) (c : HumanCredential)
    (records : List HumanCredential) (create : Bool) (result : α) (w : World δ) :
    (recordChange env existing action c records create result w).2 = w ∨
    ∃ raw n, writePolicy records = some raw ∧ (create = true → w.policy = none) ∧
      ((recordChange env existing action c records create result w).2 = w.put .policy ⟨raw, n⟩ ∨
        (recordChange env existing action c records create result w).2 =
          (appendJournal env existing action c.actorId c.certificateSha256 records.length (activeCount records)
            (w.put .policy ⟨raw, n⟩)).2) := by
  unfold recordChange
  rcases writePolicyFile_ends env records create w with hrefused | ⟨raw, hraw, hcreate, hends⟩
  · rw [Prog.bind_error hrefused]
    exact .inl rfl
  · rcases hr : writePolicyFile env records create w with ⟨e | u, w'⟩
    · rw [Prog.bind_error hr]
      rw [hr] at hends
      rcases hends.same with hsame | ⟨n, hput⟩
      · exact .inl hsame
      · exact .inr ⟨raw, n, hraw, hcreate, .inl hput⟩
    · rw [Prog.bind_ok hr]
      rw [hr] at hends
      rcases hends.same with hsame | ⟨n, hput⟩
      · cases hends with
        | done => exact .inr ⟨raw, 1, hraw, hcreate, .inr (then_return_state _ _)⟩
      · obtain rfl : w' = w.put .policy ⟨raw, n⟩ := hput
        exact .inr ⟨raw, n, hraw, hcreate, .inr (then_return_state _ _)⟩

/-- The archives stay; the policy is as before or the new one. -/
theorem recordChange_policy (env : Env) (existing : List Entry) (action : Action) (c : HumanCredential)
    (records : List HumanCredential) (create : Bool) (result : α) (w : World δ) :
    (recordChange env existing action c records create result w).2.archives = w.archives ∧
    ((recordChange env existing action c records create result w).2.policy = w.policy ∨
      ∃ raw n, writePolicy records = some raw ∧ (create = true → w.policy = none) ∧
        (recordChange env existing action c records create result w).2.policy = some ⟨raw, n⟩) := by
  rcases recordChange_cases env existing action c records create result w with hsame | ⟨raw, n, hraw, hcreate, hput | happend⟩
  · rw [hsame]
    exact ⟨rfl, .inl rfl⟩
  · rw [hput]
    exact ⟨rfl, .inr ⟨raw, n, hraw, hcreate, rfl⟩⟩
  · rw [happend]
    rcases appendJournal_same env existing action c.actorId c.certificateSha256 records.length
      (activeCount records) (w.put .policy ⟨raw, n⟩) with hsame | ⟨f, hf⟩
    · rw [hsame]
      exact ⟨rfl, .inr ⟨raw, n, hraw, hcreate, rfl⟩⟩
    · rw [hf]
      exact ⟨rfl, .inr ⟨raw, n, hraw, hcreate, rfl⟩⟩

/-- The journal is as before or has the entry more. -/
theorem recordChange_journal (hfile : w.journal = journalFile es) (hwhole : env.Whole) (action : Action)
    (c : HumanCredential) (records : List HumanCredential) (create : Bool) (result : α) :
    (recordChange env (es.map JournalEntry.dict) action c records create result w).2.journal = w.journal ∨
    es.length < MAX_JOURNAL_RECORDS ∧ ∃ h : records.length ≤ MAX_JOURNAL_RECORDS,
      (recordChange env (es.map JournalEntry.dict) action c records create result w).2.journal =
        some ⟨journalBytes (es ++ [recordEntry es (env.clock .record) action c records h]), 1⟩ := by
  rcases recordChange_cases env (es.map JournalEntry.dict) action c records create result w with hsame | ⟨raw, n, hraw, -, hput | happend⟩
  · rw [hsame]
    exact .inl rfl
  · rw [hput]
    exact .inl rfl
  · rw [happend]
    have hfile' : (w.put .policy ⟨raw, n⟩).journal = journalFile es := hfile
    rcases appendJournal_whole hfile' hwhole action c.actorId c.certificateSha256 records.length (activeCount records)
      with hsame | ⟨hroom, hjournal⟩
    · rw [hsame]
      exact .inl rfl
    · refine .inr ⟨hroom, (writePolicy_records hraw).1.2, ?_⟩
      rw [hjournal, journalBytes_concat, line_recordEntry]
      rfl

/-- Behind the policy, with nothing failing, the entry follows. -/
theorem recordChange_done (action : Action) (c : HumanCredential) (result : α) (hfile : w.journal = journalFile es)
    (happends : env.Appends) (hroom : es.length < MAX_JOURNAL_RECORDS) (hseqs : ∀ e ∈ es, e.seq < SEQ_LIMIT) (hnext : nextNumber es < SEQ_LIMIT)
    {raw : Bytes} (hsize : records.length ≤ MAX_JOURNAL_RECORDS)
    (hpublished : writePolicyFile env records create w = (.ok (), w.put .policy ⟨raw, 1⟩)) :
    recordChange env (es.map JournalEntry.dict) action c records create result w = (.ok result,
      { w with
        policy := some ⟨raw, 1⟩
        journal := some ⟨journalBytes (es ++ [recordEntry es (env.clock .record) action c records hsize]), 1⟩ }) := by
  have hfile' : (w.put .policy ⟨raw, 1⟩).journal = journalFile es := hfile
  have hline := line_recordEntry es (env.clock .record) action c records hsize
  have hfits : (journalBytes es).length + (recordEntry es (env.clock .record) action c records hsize).line.length ≤
      MAX_JOURNAL_BYTES := by
    rw [← List.length_append, ← journalBytes_concat]
    refine (length_journalBytes_le fun e he => ?_).trans ?_
    · rcases List.mem_append.1 he with hold | hnew
      · exact hseqs e hold
      · rw [List.mem_singleton.1 hnew]
        exact hnext
    · have hlimit : MAX_JOURNAL_RECORDS = 64 ∧ MAX_JOURNAL_BYTES = 65536 := ⟨rfl, rfl⟩
      rw [List.length_append, List.length_singleton]
      omega
  rw [recordChange, Prog.bind_ok hpublished, Prog.bind_ok (appendJournal_ok hfile' happends hroom hline hfits),
    journalBytes_concat]
  rfl

/-- With nothing failing behind the policy: both files change, or none. -/
theorem recordChange_calm (action : Action) (c : HumanCredential) (records : List HumanCredential) (create : Bool)
    (result : α) (hfile : w.journal = journalFile es) (hreplaces : env.Replaces) (happends : env.Appends)
    (hroom : es.length < MAX_JOURNAL_RECORDS) (hseqs : ∀ e ∈ es, e.seq < SEQ_LIMIT) (hnext : nextNumber es < SEQ_LIMIT) :
    recordChange env (es.map JournalEntry.dict) action c records create result w = refusal w ∨
    ∃ raw, ∃ h : records.length ≤ MAX_JOURNAL_RECORDS, writePolicy records = some raw ∧ (create = true → w.policy = none) ∧
      recordChange env (es.map JournalEntry.dict) action c records create result w = (.ok result,
        { w with
          policy := some ⟨raw, 1⟩
          journal := some ⟨journalBytes (es ++ [recordEntry es (env.clock .record) action c records h]), 1⟩ }) := by
  rcases writePolicyFile_ends env records create w with hrefused | ⟨raw, hraw, hcreate, hends⟩
  · rw [recordChange, Prog.bind_error hrefused]
    exact .inl rfl
  · rcases hends.calm hreplaces.1 hreplaces.2.1 hreplaces.2.2 with hrefused | hok
    · rw [recordChange, Prog.bind_error hrefused]
      exact .inl rfl
    · have hsize := (writePolicy_records hraw).1.2
      exact .inr ⟨raw, hsize, hraw, hcreate, recordChange_done action c result hfile happends hroom hseqs hnext hsize hok⟩

theorem recordChange_then {β : Type} (existing : List Entry) (result : α) (f : α → β) (w : World δ) :
    (recordChange env existing action c records create result >>= fun a => pure (f a)) w =
      recordChange env existing action c records create (f result) w := by
  unfold recordChange
  rcases hwrite : writePolicyFile env records create w with ⟨e | u, w'⟩
  · rw [Prog.bind_error hwrite, Prog.bind_error (Prog.bind_error hwrite)]
  · rcases happend : appendJournal env existing action c.actorId c.certificateSha256 records.length
      (activeCount records) w' with ⟨e | u, w''⟩
    · rw [Prog.bind_ok hwrite, Prog.bind_error happend,
        Prog.bind_error ((Prog.bind_ok hwrite).trans (Prog.bind_error happend))]
    · rw [Prog.bind_ok hwrite, Prog.bind_ok happend]
      exact Prog.bind_ok ((Prog.bind_ok hwrite).trans (Prog.bind_ok happend))

theorem recordChange_unit (existing : List Entry) (w : World δ) :
    recordChange env existing action c records create () w =
      (do
        writePolicyFile env records create
        appendJournal env existing action c.actorId c.certificateSha256 records.length (activeCount records) :
          Prog δ Unit) w := by
  unfold recordChange
  rcases hwrite : writePolicyFile env records create w with ⟨e | u, w'⟩
  · rw [Prog.bind_error hwrite, Prog.bind_error hwrite]
  · rw [Prog.bind_ok hwrite, Prog.bind_ok hwrite]
    rcases happend : appendJournal env existing action c.actorId c.certificateSha256 records.length
      (activeCount records) w' with ⟨e | u, w''⟩
    · rw [Prog.bind_error happend]
    · rw [Prog.bind_ok happend]
      rfl

/-- The change that a call wants to make: the entry is about `c`, and `records` are to be the policy. -/
inductive Planned (w : World δ) : Action → HumanCredential → List HumanCredential → Bool → Prop where
  | init (c : HumanCredential) (new : c.enabled = true ∧ c.revoked = false) : Planned w .init c [c] true
  | enroll (c : HumanCredential) (new : c.enabled = true ∧ c.revoked = false) (old : List HumanCredential) (now : DateTime)
      (read : w.records (some now) = some old) : Planned w .enroll c (old ++ [c]) false
  | restrict (c : HumanCredential) (old : List HumanCredential) (revoke : Bool) (read : w.records none = some old)
      (mem : c ∈ old) : Planned w (if revoke then .revoke else .disable) c
        (restrictRecords c.certificateSha256 revoke old) false

variable {sha256 : Sha256} {decoded : Option DecodedCertificate} {actor fingerprint : String} {revoke : Bool}

theorem certificate_new (h : certificate sha256 env decoded actor = some c) : c.enabled = true ∧ c.revoked = false := by
  unfold certificate at h
  obtain ⟨_, -, h⟩ := Option.bind_eq_some_iff.1 h
  obtain ⟨cert, -, h⟩ := Option.bind_eq_some_iff.1 h
  obtain ⟨_, -, h⟩ := Option.bind_eq_some_iff.1 h
  obtain ⟨record, hrecord, h⟩ := Option.bind_eq_some_iff.1 h
  obtain ⟨_, -, h⟩ := Option.bind_eq_some_iff.1 h
  obtain rfl : record = c := Option.some.inj h
  unfold newCredential at hrecord
  split at hrecord
  · cases hrecord
    exact ⟨rfl, rfl⟩
  · cases hrecord

/-- `enroll` refuses, or makes a planned change. -/
theorem enroll_ends {P : Except CredentialPolicyError String × World δ → Prop} (hrefused : P (refusal w))
    (hchange : ∀ existing action c records, w.entries = some existing → existing.length < MAX_JOURNAL_RECORDS →
      Planned w action c records create →
      P (recordChange env existing action c records create c.certificateSha256 w)) :
    P (enroll sha256 env decoded actor create w) := by
  unfold enroll
  refine (reads_os env .lock).then_ends hrefused fun _ _ => ?_
  refine (reads_readJournalFile env).then_ends hrefused fun existing hexisting => ?_
  have hentries := readJournalFile_ok hexisting
  by_cases hfresh : (create && !existing.isEmpty) = true
  · rw [if_pos hfresh]
    exact hrefused
  rw [if_neg hfresh]
  by_cases hfull : MAX_JOURNAL_RECORDS ≤ existing.length
  · rw [if_pos hfull]
    exact hrefused
  rw [if_neg hfull]
  have hroom := Nat.not_le.1 hfull
  cases create with
  | true =>
    refine Reads.then_ends (fun _ => rfl) hrefused fun records hrecords => ?_
    refine (reads_need _).then_ends hrefused fun c hc => ?_
    obtain rfl : records = [] := by
      cases hrecords
      rfl
    exact hchange existing _ c _ hentries hroom (.init c (certificate_new (need_ok hc)))
  | false =>
    refine Reads.then_ends (reads_readPolicyFile env _) hrefused fun records hrecords => ?_
    refine (reads_need _).then_ends hrefused fun c hc => ?_
    exact hchange existing _ c _ hentries hroom
      (.enroll c (certificate_new (need_ok hc)) records _ (readPolicyFile_ok hrecords))

/-- `restrict` refuses, or makes a planned change. -/
theorem restrict_ends {P : Except CredentialPolicyError Unit × World δ → Prop} (hrefused : P (refusal w))
    (hchange : ∀ existing action c records, w.entries = some existing → existing.length < MAX_JOURNAL_RECORDS →
      Planned w action c records false → P (recordChange env existing action c records false () w)) :
    P (restrict env fingerprint revoke w) := by
  unfold restrict
  refine (reads_os env .lock).then_ends hrefused fun _ _ => ?_
  refine (reads_readJournalFile env).then_ends hrefused fun existing hexisting => ?_
  by_cases hfull : MAX_JOURNAL_RECORDS ≤ existing.length
  · rw [if_pos hfull]
    exact hrefused
  rw [if_neg hfull]
  by_cases hsha : (!isSha256 fingerprint) = true
  · rw [if_pos hsha]
    exact hrefused
  rw [if_neg hsha]
  refine (reads_readPolicyFile env none).then_ends hrefused fun records hrecords => ?_
  refine (reads_need _).then_ends hrefused fun c hc => ?_
  have hfind := need_ok hc
  obtain rfl : c.certificateSha256 = fingerprint := beq_iff_eq.1 (List.find?_some (p := fun r : HumanCredential =>
    r.certificateSha256 == fingerprint) hfind)
  have hplanned := Planned.restrict (w := w) c records revoke (readPolicyFile_ok hrecords) (List.mem_of_find?_eq_some hfind)
  have hends := hchange existing _ c _ (readJournalFile_ok hexisting) (Nat.not_le.1 hfull) hplanned
  rw [recordChange_unit] at hends
  exact hends

/-! ## A rotation -/

def World.archiving [DecidableEq δ] (w : World δ) (dir : δ) (a : ArchiveDirectory) : World δ :=
  { w with archives := Function.update w.archives dir a }

theorem World.archives_archiving [DecidableEq δ] (w : World δ) (dir : δ) (a : ArchiveDirectory) :
    (w.archiving dir a).archives dir = a := Function.update_self ..

theorem World.archiving_archiving [DecidableEq δ] (w : World δ) (dir : δ) (a b : ArchiveDirectory) :
    (w.archiving dir a).archiving dir b = w.archiving dir b := by
  rw [archiving, archiving, archiving, Function.update_idem]

theorem archiveFile_then [DecidableEq δ] (step : OsStep) (set : Option Bytes → ArchiveDirectory → ArchiveDirectory)
    (dir : δ) (raw : Bytes) (f : Unit → Prog δ α) (w : World δ) : (archiveFile env step set dir raw >>= f) w =
      if env.fails step then
        refusal (w.archiving dir (set ((env.written step).map raw.take) (w.archives dir)))
      else f () (w.archiving dir (set (some raw) (w.archives dir))) := by
  unfold archiveFile
  split
  · exact Prog.bind_error rfl
  · exact Prog.bind_ok rfl

theorem records_length {current : Option DateTime} {records : List HumanCredential} (h : w.records current = some records) :
    records.length ≤ MAX_JOURNAL_RECORDS := by
  unfold World.records at h
  split at h
  · cases h
  · split at h
    · unfold readPolicy at h
      obtain ⟨_, -, h⟩ := Option.bind_eq_some_iff.1 h
      obtain ⟨text, -, h⟩ := Option.bind_eq_some_iff.1 h
      obtain ⟨payload, -, h⟩ := Option.bind_eq_some_iff.1 h
      obtain ⟨_, -, h⟩ := Option.bind_eq_some_iff.1 h
      obtain ⟨read, -, h⟩ := Option.bind_eq_some_iff.1 h
      obtain ⟨registry, hvalid, h⟩ := Option.bind_eq_some_iff.1 h
      obtain rfl : read = records := Option.some.inj h
      unfold validate at hvalid
      obtain ⟨registry, hregistry, -⟩ := Option.bind_eq_some_iff.1 hvalid
      unfold newRegistry at hregistry
      split at hregistry
      · rename_i hgood
        exact hgood.1.2
      · cases hregistry
    · cases h

/-- The manifest of a rotation. -/
def manifestOf (sha256 : Sha256) (es : List JournalEntry) (now : DateTime) : ArchiveManifest :=
  ⟨now, sha256.digest (journalBytes es), (journalBytes es).length, es.length, (es.head?.map (·.seq)).getD 0,
    (es.getLast?.map (·.seq)).getD 0, es.head?.bind JournalEntry.previous?⟩

theorem line_checkpointEntry {es : List JournalEntry} {last : JournalEntry} (hlast : es.getLast? = some last)
    (sha256 : Sha256) (now : DateTime) (records : List HumanCredential) (h : records.length ≤ MAX_JOURNAL_RECORDS) :
    (checkpointEntry sha256 es now records h).line = entryBytes (checkpointFields last.seq now
      (sha256.digest (journalBytes es)) (activeCount records) records.length) := by
  have hseq : ((nextNumber es : ℤ) - 1) = last.seq := by
    rw [nextNumber, hlast, Option.map_some, Option.elim_some]
    omega
  have hfields : (checkpointEntry sha256 es now records h).fields = checkpointFields ((nextNumber es : ℤ) - 1) now
      (sha256.digest (journalBytes es)) (activeCount records) records.length := rfl
  rw [JournalEntry.line, hfields, hseq]

/-- A rotation refuses before it touches the journal, or publishes a journal that begins with its checkpoint. -/
theorem rotate_ends [DecidableEq δ] {archive : δ} {P : Except CredentialPolicyError ArchiveManifest × World δ → Prop}
    (hfile : w.journal = journalFile es) (hread : w.entries = some (es.map JournalEntry.dict))
    (hrefused : ∀ w', w'.policy = w.policy → w'.journal = w.journal →
      (∀ d, (w.archives d).journal.isSome = true → w'.archives d = w.archives d) → P (refusal w'))
    (hpublish : ∀ records, ∀ h : records.length ≤ MAX_JOURNAL_RECORDS, es ≠ [] → (w.archives archive).journal = none →
      w.records (some (env.clock .load)) = some records →
      P ((do
        replaceFile env .journal (checkpointEntry sha256 es (env.clock .record) records h).line
        return manifestOf sha256 es (env.clock .record) : Prog δ ArchiveManifest)
        (w.archiving archive ⟨some (journalBytes es), some (manifestOf sha256 es (env.clock .record)).bytes⟩))) :
    P (rotateJournal sha256 env archive w) := by
  have hrefused' : P (refusal w) := hrefused w rfl rfl fun _ _ => rfl
  unfold rotateJournal
  refine (reads_os env .lock).then_ends hrefused' fun _ _ => ?_
  refine (reads_os env .lockArchive).then_ends hrefused' fun _ _ => ?_
  refine (reads_os env .look).then_ends hrefused' fun _ _ => ?_
  rw [get_then]
  by_cases hthere : ((w.archives archive).journal.isSome || (w.archives archive).manifest.isSome) = true
  · rw [if_pos hthere]
    exact hrefused'
  rw [if_neg hthere]
  rw [Bool.or_eq_true, not_or, Option.not_isSome_iff_eq_none, Option.not_isSome_iff_eq_none] at hthere
  refine (reads_readJournalFile env).then_ends hrefused' fun existing hexisting => ?_
  obtain rfl : es.map JournalEntry.dict = existing := Option.some.inj (hread.symm.trans (readJournalFile_ok hexisting))
  refine (reads_need _).then_ends hrefused' fun first hfirst => ?_
  refine (reads_need _).then_ends hrefused' fun last hlast => ?_
  have hfirst := need_ok hfirst
  have hlast := need_ok hlast
  rw [List.head?_map] at hfirst
  rw [List.getLast?_map] at hlast
  obtain ⟨e₁, hhead, rfl⟩ := Option.map_eq_some_iff.1 hfirst
  obtain ⟨e₂, hend, rfl⟩ := Option.map_eq_some_iff.1 hlast
  have hes : es ≠ [] := by
    rintro rfl
    cases hhead
  refine (reads_os env .copy).then_ends hrefused' fun _ _ => ?_
  refine (reads_need _).then_ends hrefused' fun raw hraw => ?_
  have hraw := need_ok hraw
  rw [hfile, journalFile_of_ne_nil hes] at hraw
  obtain rfl : journalBytes es = raw := Option.some.inj hraw
  refine (reads_need _).then_ends hrefused' fun firstSeq hfirstSeq => ?_
  refine (reads_need _).then_ends hrefused' fun lastSeq hlastSeq => ?_
  have hfirstSeq := need_ok hfirstSeq
  have hlastSeq := need_ok hlastSeq
  rw [JournalEntry.int_dict e₁.lookup_fields.2.1] at hfirstSeq
  rw [JournalEntry.int_dict e₂.lookup_fields.2.1] at hlastSeq
  obtain rfl : (e₁.seq : ℤ) = firstSeq := Option.some.inj hfirstSeq
  obtain rfl : (e₂.seq : ℤ) = lastSeq := Option.some.inj hlastSeq
  -- what is written into the archive directory meets no journal that is there
  have hothers : ∀ a : ArchiveDirectory, ∀ d, (w.archives d).journal.isSome = true →
      Function.update w.archives archive a d = w.archives d := by
    intro a d hd
    refine Function.update_of_ne (fun heq => ?_) a w.archives
    rw [heq, hthere.1] at hd
    cases hd
  rw [archiveFile_then]
  by_cases hjournal : env.fails .archiveJournal = true
  · rw [if_pos hjournal]
    exact hrefused _ rfl rfl (hothers _)
  rw [if_neg hjournal, archiveFile_then, World.archives_archiving, World.archiving_archiving, World.archiving_archiving]
  by_cases hmanifest : env.fails .archiveManifest = true
  · rw [if_pos hmanifest]
    exact hrefused _ rfl rfl (hothers _)
  rw [if_neg hmanifest]
  have hrefused'' : ∀ a, P (refusal (w.archiving archive a)) := fun a =>
    hrefused _ rfl rfl (hothers a)
  have hmanifestOf : (⟨env.clock .record, sha256.digest (journalBytes es), (journalBytes es).length,
      (es.map JournalEntry.dict).length, (e₁.seq : ℤ), (e₂.seq : ℤ),
      Entry.text? e₁.dict "previous_archive_sha256"⟩ : ArchiveManifest) = manifestOf sha256 es (env.clock .record) := by
    rw [manifestOf, hhead, hend, List.length_map, JournalEntry.previous_dict]
    rfl
  rw [hmanifestOf]
  refine (reads_os env .syncArchive).then_ends (hrefused'' _) fun _ _ => ?_
  refine (reads_readPolicyFile env _).then_ends (hrefused'' _) fun records hrecords => ?_
  refine (reads_os env (.temporary .journal)).then_ends (hrefused'' _) fun _ _ => ?_
  have hrecords := readPolicyFile_ok hrecords
  change w.records (some (env.clock .load)) = some records at hrecords
  have hsize := records_length hrecords
  rw [← line_checkpointEntry hend sha256 (env.clock .record) records hsize]
  exact hpublish records hsize hes hthere.1 hrecords

/-! ## Calls that go through -/

theorem os_done {step : OsStep} (h : env.fails step = false) (w : World δ) : os env step w = (.ok (), w) := by
  rw [os_alone, h, if_neg Bool.false_ne_true]

theorem readJournalFile_done {entries : List Entry} (h : env.fails (.read .journal) = false)
    (hentries : w.entries = some entries) : readJournalFile env w = (.ok entries, w) := by
  rw [readJournalFile, Prog.bind_ok (os_done h w), get_then, hentries]
  rfl

theorem readPolicyFile_done {current : Option DateTime} (h : env.fails (.read .policy) = false)
    (hrecords : w.records current = some records) : readPolicyFile env current w = (.ok records, w) := by
  rw [readPolicyFile, Prog.bind_ok (os_done h w), get_then, hrecords]
  rfl

theorem need_done {o : Option α} {a : α} (h : o = some a) (w : World δ) : need o w = (.ok a, w) := by
  rw [h]
  rfl

/-- What a policy must be to be written. -/
theorem writePolicy_done (records : List HumanCredential) (h : (records ≠ [] ∧ records.length ≤ MAX_JOURNAL_RECORDS) ∧
    (records.map (·.certificateSha256)).Nodup) : ∃ raw, writePolicy records = some raw := by
  have hsize : (utf8 (policyText records)).length ≤ MAX_BYTES := by
    have hprintable := (encoded_printable (renderIn_printable 0 (readable_policyJson records))).1
    have hbytes : (utf8 (policyText records)).length = (policyText records).length := by
      rw [utf8_eq, policyText, String.toList_ofList, String.length_ofList, List.flatMap_append, List.length_append,
        List.length_append]
      exact congrArg (· + 1) hprintable
    have hlength := length_policyText_le records
    have hlimit : MAX_JOURNAL_RECORDS = 64 ∧ MAX_BYTES = 65536 := ⟨rfl, rfl⟩
    omega
  refine ⟨utf8 (policyText records), ?_⟩
  have hvalid : (records ≠ [] ∧ records.length ≤ 64) ∧ (records.map (·.certificateSha256)).Nodup := h
  unfold writePolicy validate newRegistry
  rw [dif_pos hvalid, (Option.guard_eq_some' ()).2 hsize]
  rfl

theorem replaceFile_done {name : FileName} {raw : Bytes} (hpublish : env.fails (.publish name) = false)
    (hsync : env.fails (.sync name) = false) (hcleanup : env.fails (.cleanup name) = false) :
    replaceFile env name raw w = (.ok (), w.put name ⟨raw, 1⟩) := by
  rw [replaceFile, Prog.bind_ok (os_done hpublish w), modify_then, Prog.bind_ok (os_done hsync _), os_done hcleanup]

theorem writePolicyFile_done {raw : Bytes} (hraw : writePolicy records = some raw) (hreplaces : env.Replaces)
    (htemporary : env.fails (.temporary .policy) = false) (hpublish : env.fails (.publish .policy) = false)
    (hcreate : create = true → w.policy = none) :
    writePolicyFile env records create w = (.ok (), w.put .policy ⟨raw, 1⟩) := by
  obtain ⟨hunlink, hsync, hcleanup⟩ := hreplaces
  rw [writePolicyFile, Prog.bind_ok (need_done hraw w), Prog.bind_ok (os_done htemporary w)]
  cases create with
  | false =>
    rw [if_neg Bool.false_ne_true, replaceFile_done hpublish hsync hcleanup]
  | true =>
    have hnone : w.file .policy = none := hcreate rfl
    simp only [if_true, publishNew, Prog.bind_ok (os_done hpublish w), get_then, hnone, Option.isSome_none,
      Bool.false_eq_true, if_false, modify_then, hunlink, World.put_put, Prog.bind_ok (os_done hsync _), os_done hcleanup]

theorem certificate_done {cert : DecodedCertificate}
    (hname : cert.subjectAltName = [("URI", ANALYST_URI_PREFIX ++ c.actorId)])
    (hsame : (c.enabled, c.revoked) = (true, false)) (hsha : c.certificateSha256 = sha256.digest cert.der)
    (hvalidity : (c.notBefore, c.notAfter) = (cert.notBefore, cert.notAfter))
    (hdate : inDate c (env.clock .certificate) = true) :
    certificate sha256 env (some cert) c.actorId = some c := by
  obtain ⟨henabled, hrevoked⟩ := Prod.mk.inj hsame
  obtain ⟨hbefore, hafter⟩ := Prod.mk.inj hvalidity
  have hrecord : newCredential c.actorId (sha256.digest cert.der) true false cert.notBefore cert.notAfter = some c := by
    rw [← henabled, ← hrevoked, ← hsha, ← hbefore, ← hafter]
    exact newCredential_self c
  have hsize : [c].length ≤ 64 := (by decide : 1 ≤ 64)
  have hregistry : newRegistry [c] = some ⟨[c], ⟨List.cons_ne_nil c [], hsize⟩, List.nodup_singleton _⟩ :=
    dif_pos ⟨⟨List.cons_ne_nil c [], hsize⟩, List.nodup_singleton _⟩
  have hcurrent : (!(some (env.clock .certificate)).any fun now => [c].any fun c => active c && !inDate c now) = true := by
    simp [hdate]
  unfold certificate validate
  rw [(Option.guard_eq_some' ()).2 c.actor_valid, Option.bind_eq_bind, Option.bind_some, Option.bind_eq_bind,
    Option.bind_some, (Option.guard_eq_some' ()).2 hname, Option.bind_eq_bind, Option.bind_some, hrecord]
  simp only [Option.bind_eq_bind, Option.bind_some, hregistry, (Option.guard_eq_some' ()).2 hcurrent]
  rfl

theorem init_proceeds {existing : List Entry} (hlock : env.fails .lock = false)
    (hjournal : env.fails (.read .journal) = false) (hentries : w.entries = some existing) (hempty : existing = [])
    (hc : certificate sha256 env decoded actor = some c) :
    enroll sha256 env decoded actor true w = recordChange env existing .init c [c] true c.certificateSha256 w := by
  subst hempty
  have hnone : (pure [] : Prog δ (List HumanCredential)) w = (.ok [], w) := rfl
  rw [enroll, Prog.bind_ok (os_done hlock w), Prog.bind_ok (readJournalFile_done hjournal hentries)]
  change (pure [] >>= fun records => need (certificate sha256 env decoded actor) >>= fun record => _) w = _
  rw [Prog.bind_ok hnone, Prog.bind_ok (need_done hc w)]
  rfl

theorem enroll_proceeds {existing : List Entry} {old : List HumanCredential} (hlock : env.fails .lock = false)
    (hjournal : env.fails (.read .journal) = false) (hpolicy : env.fails (.read .policy) = false)
    (hentries : w.entries = some existing) (hroom : existing.length < MAX_JOURNAL_RECORDS)
    (hrecords : w.records (some (env.clock .load)) = some old) (hc : certificate sha256 env decoded actor = some c) :
    enroll sha256 env decoded actor false w =
      recordChange env existing .enroll c (old ++ [c]) false c.certificateSha256 w := by
  rw [enroll, Prog.bind_ok (os_done hlock w), Prog.bind_ok (readJournalFile_done hjournal hentries), Bool.false_and,
    if_neg Bool.false_ne_true, if_neg (Nat.not_le.2 hroom), if_neg Bool.false_ne_true,
    Prog.bind_ok (readPolicyFile_done hpolicy hrecords)]
  change (need (certificate sha256 env decoded actor) >>= fun record => _) w = _
  rw [Prog.bind_ok (need_done hc w)]
  rfl

theorem restrict_proceeds (revoke : Bool) {existing : List Entry} (hlock : env.fails .lock = false)
    (hjournal : env.fails (.read .journal) = false) (hpolicy : env.fails (.read .policy) = false)
    (hentries : w.entries = some existing) (hroom : existing.length < MAX_JOURNAL_RECORDS)
    (hrecords : w.records none = some records) (hc : records.find? (fun r => r.certificateSha256 == fingerprint) = some c) :
    restrict env fingerprint revoke w = recordChange env existing (if revoke then .revoke else .disable) c
      (restrictRecords fingerprint revoke records) false () w := by
  obtain rfl : c.certificateSha256 = fingerprint :=
    beq_iff_eq.1 (List.find?_some (p := fun r : HumanCredential => r.certificateSha256 == fingerprint) hc)
  have hsha : ¬ (!isSha256 c.certificateSha256) = true := by
    rw [c.sha_valid]
    exact Bool.false_ne_true
  rw [restrict, Prog.bind_ok (os_done hlock w), Prog.bind_ok (readJournalFile_done hjournal hentries),
    if_neg (Nat.not_le.2 hroom), if_neg hsha, Prog.bind_ok (readPolicyFile_done hpolicy hrecords),
    Prog.bind_ok (need_done hc w), recordChange_unit]

/-- A rotation into a directory that is empty, with a policy that is in date. -/
theorem rotate_proceeds [DecidableEq δ] (sha256 : Sha256) (archive : δ) (hcalm : ∀ step, env.fails step = false)
    (hfile : w.journal = journalFile es) (hread : w.entries = some (es.map JournalEntry.dict)) (hes : es ≠ []) (hfresh : w.archives archive = ⟨none, none⟩)
    (hrecords : w.records (some (env.clock .load)) = some records) (hsize : records.length ≤ MAX_JOURNAL_RECORDS) :
    rotateJournal sha256 env archive w = (.ok (manifestOf sha256 es (env.clock .record)),
      (w.archiving archive ⟨some (journalBytes es), some (manifestOf sha256 es (env.clock .record)).bytes⟩).put .journal
        ⟨(checkpointEntry sha256 es (env.clock .record) records hsize).line, 1⟩) := by
  obtain ⟨e₁, hhead⟩ : ∃ e₁, es.head? = some e₁ := Option.isSome_iff_exists.1 (by simpa using hes)
  obtain ⟨e₂, hend⟩ : ∃ e₂, es.getLast? = some e₂ := Option.isSome_iff_exists.1 (by simpa using hes)
  have hfirst : (es.map JournalEntry.dict).head? = some e₁.dict := by
    rw [List.head?_map, hhead]
    rfl
  have hlast : (es.map JournalEntry.dict).getLast? = some e₂.dict := by
    rw [List.getLast?_map, hend]
    rfl
  have hraw : w.journal.map (·.bytes) = some (journalBytes es) := by
    rw [hfile, journalFile_of_ne_nil hes]
    rfl
  have hthere : ¬ ((w.archives archive).journal.isSome || (w.archives archive).manifest.isSome) = true := by
    rw [hfresh]
    exact Bool.false_ne_true
  have hmanifestOf : (⟨env.clock .record, sha256.digest (journalBytes es), (journalBytes es).length,
      (es.map JournalEntry.dict).length, (e₁.seq : ℤ), (e₂.seq : ℤ),
      Entry.text? e₁.dict "previous_archive_sha256"⟩ : ArchiveManifest) = manifestOf sha256 es (env.clock .record) := by
    rw [manifestOf, hhead, hend, List.length_map, JournalEntry.previous_dict]
    rfl
  rw [rotateJournal, Prog.bind_ok (os_done (hcalm _) w), Prog.bind_ok (os_done (hcalm _) w),
    Prog.bind_ok (os_done (hcalm _) w), get_then, if_neg hthere, Prog.bind_ok (readJournalFile_done (hcalm _) hread),
    Prog.bind_ok (need_done hfirst w), Prog.bind_ok (need_done hlast w), Prog.bind_ok (os_done (hcalm _) w),
    Prog.bind_ok (need_done hraw w), Prog.bind_ok (need_done (JournalEntry.int_dict e₁.lookup_fields.2.1) w),
    Prog.bind_ok (need_done (JournalEntry.int_dict e₂.lookup_fields.2.1) w), archiveFile_then, hcalm, if_neg Bool.false_ne_true,
    archiveFile_then, hcalm, if_neg Bool.false_ne_true, World.archives_archiving, World.archiving_archiving, hmanifestOf,
    Prog.bind_ok (os_done (hcalm _) _)]
  refine (Prog.bind_ok (readPolicyFile_done (w := w.archiving archive _) (hcalm _) hrecords)).trans ?_
  rw [Prog.bind_ok (os_done (hcalm _) _), ← line_checkpointEntry hend sha256 (env.clock .record) records hsize,
    Prog.bind_ok (replaceFile_done (hcalm _) (hcalm _) (hcalm _))]
  rfl

end

end ThreatFusion.Credentials
