import ThreatFusion.Credentials.JournalRuns
/-
# The policy beside its journal

A call that changes the policy publishes the policy first and the entry after it. An operating system that fails
between the two leaves them apart; `behind` are the steps at which it can.

* `policy_and_journal`: whatever fails, no record is dropped, enabled again or taken back from revocation; and when
  nothing fails behind the first file of a call, the policy is what the journal says, and a call that raises has
  changed neither.
* `policy_without_entry`: a failure behind the policy leaves a record that the journal does not have.
-/
namespace ThreatFusion.Credentials
open Py Browser JsonText Effect Machine
open Analyst hiding Value Readable

/-! ## What the journal says -/

structure EnrolledRow where
  actorId : String
  certificateSha256 : String
  enabled : Bool
  revoked : Bool
deriving DecidableEq

def rowOf (c : HumanCredential) : EnrolledRow := ⟨c.actorId, c.certificateSha256, c.enabled, c.revoked⟩

/-- What an entry says of the records. -/
def replayEntry (rows : List EnrolledRow) (e : Entry) : List EnrolledRow :=
  let action := e.text? "action"
  let fingerprint := (e.text? "sha256_fingerprint").getD ""
  if action = some "init" ∨ action = some "enroll" then
    rows ++ [⟨(e.text? "actor_id").getD "", fingerprint, true, false⟩]
  else if action = some "disable" then
    rows.map fun r => if r.certificateSha256 = fingerprint then { r with enabled := false } else r
  else if action = some "revoke" then
    rows.map fun r => if r.certificateSha256 = fingerprint then { r with revoked := true } else r
  else rows

def replay (entries : List Entry) : List EnrolledRow := entries.foldl replayEntry []

/-- The rows of the policy, of which there are none before the first call. -/
def World.rows {δ : Type} (w : World δ) : Option (List EnrolledRow) :=
  if w.policy.isNone then some [] else (w.records none).map fun records => records.map rowOf

/-! ## The policy of a run -/

section
variable {δ : Type} {sha256 : Sha256} {w : World δ} {es : List JournalEntry}

/-- The policy file holds the records; there is none before the first record. -/
def PolicyHolds (w : World δ) (records : List HumanCredential) : Prop :=
  w.policy = none ∧ records = [] ∨ ∃ raw, writePolicy records = some raw ∧ w.policy = some ⟨raw, 1⟩

theorem readPolicy_of_written {records read : List HumanCredential} {raw : Bytes} {current : Option DateTime}
    (h : writePolicy records = some raw) (hread : readPolicy raw current = some read) : read = records := by
  rw [readPolicy_written h] at hread
  obtain ⟨_, -, rfl⟩ := Option.map_eq_some_iff.1 hread
  rfl

theorem readPolicy_none {records : List HumanCredential} {raw : Bytes} (h : writePolicy records = some raw) :
    readPolicy raw none = some records := by
  rw [readPolicy_written h]
  unfold writePolicy at h
  obtain ⟨registry, hvalid, -⟩ := Option.bind_eq_some_iff.1 h
  rw [hvalid]
  rfl

theorem PolicyHolds.read {records read : List HumanCredential} {current : Option DateTime} (h : PolicyHolds w records)
    (hread : w.records current = some read) : read = records := by
  rcases h with ⟨hnone, -⟩ | ⟨raw, hraw, hpolicy⟩
  · rw [World.records, hnone] at hread
    cases hread
  · rw [World.records, hpolicy] at hread
    exact readPolicy_of_written hraw hread

theorem PolicyHolds.rows {records : List HumanCredential} (h : PolicyHolds w records) :
    w.rows = some (records.map rowOf) := by
  rcases h with ⟨hnone, rfl⟩ | ⟨raw, hraw, hpolicy⟩
  · rw [World.rows, hnone]
    rfl
  · have hread : w.records none = some records := by
      rw [World.records, hpolicy]
      exact readPolicy_none hraw
    rw [World.rows, hpolicy, hread]
    rfl

theorem replay_append (entries : List Entry) (e : Entry) : replay (entries ++ [e]) = replayEntry (replay entries) e := by
  rw [replay, List.foldl_append]
  rfl

theorem map_restrictRecords (fingerprint : String) (revoke : Bool) (records : List HumanCredential) :
    (restrictRecords fingerprint revoke records).map rowOf = (records.map rowOf).map fun r =>
      if r.certificateSha256 = fingerprint then
        if revoke then { r with revoked := true } else { r with enabled := false }
      else r := by
  rw [restrictRecords, List.map_map, List.map_map]
  refine List.map_congr_left fun c _ => ?_
  rw [Function.comp_apply, Function.comp_apply]
  by_cases hsame : c.certificateSha256 = fingerprint
  · have hrow : (rowOf c).certificateSha256 = fingerprint := hsame
    rw [if_pos hsame, if_pos hrow]
    cases revoke <;> rfl
  · have hrow : ¬ (rowOf c).certificateSha256 = fingerprint := hsame
    rw [if_neg hsame, if_neg hrow]

/-- The entry of a planned change says what the change does. -/
theorem replay_planned {action : Action} {c : HumanCredential} {records old : List HumanCredential} {create : Bool}
    (hplanned : Planned w action c records create) (hpolicy : PolicyHolds w old) (hcreate : create = true → w.policy = none)
    (now : DateTime) (hsize : records.length ≤ MAX_JOURNAL_RECORDS) :
    replayEntry (old.map rowOf) (recordEntry es now action c records hsize).dict = records.map rowOf := by
  have haction : Entry.text? (recordEntry es now action c records hsize).dict "action" = some action.text :=
    JournalEntry.text_dict rfl
  have hactor : Entry.text? (recordEntry es now action c records hsize).dict "actor_id" = some c.actorId :=
    JournalEntry.text_dict rfl
  have hsha : Entry.text? (recordEntry es now action c records hsize).dict "sha256_fingerprint" =
    some c.certificateSha256 := JournalEntry.text_dict rfl
  have hrow : ∀ new : c.enabled = true ∧ c.revoked = false,
      (⟨c.actorId, c.certificateSha256, true, false⟩ : EnrolledRow) = rowOf c := by
    rintro ⟨henabled, hrevoked⟩
    rw [rowOf, henabled, hrevoked]
  unfold replayEntry
  simp only [haction, hactor, hsha, Option.getD_some]
  cases hplanned with
  | init _ new =>
    rcases hpolicy with ⟨-, rfl⟩ | ⟨raw, -, hpolicy⟩
    · rw [if_pos (.inl rfl), hrow new]
      rfl
    · rw [hcreate rfl] at hpolicy
      cases hpolicy
  | enroll _ new read now hread =>
    obtain rfl : read = old := hpolicy.read hread
    rw [if_pos (.inr rfl), hrow new, List.map_append]
    rfl
  | restrict _ read revoke hread =>
    obtain rfl : read = old := hpolicy.read hread
    rw [map_restrictRecords]
    cases revoke with
    | false => exact (if_neg (by decide)).trans (if_pos rfl)
    | true => exact (if_neg (by decide)).trans ((if_neg (by decide)).trans (if_pos rfl))

theorem replay_checkpoint (rows : List EnrolledRow) (now : DateTime) (records : List HumanCredential)
    (hsize : records.length ≤ MAX_JOURNAL_RECORDS) :
    replayEntry rows (checkpointEntry sha256 es now records hsize).dict = rows := by
  have haction : Entry.text? (checkpointEntry sha256 es now records hsize).dict "action" = some "journal_rotated" :=
    JournalEntry.text_dict rfl
  unfold replayEntry
  simp only [haction]
  exact (if_neg (by decide)).trans ((if_neg (by decide)).trans (if_neg (by decide)))

end

section
variable {δ : Type} {w : World δ} {env : Env}

/-! ## Records that stay -/

/-- What the policy file has, whoever may read it. -/
def World.held (w : World δ) : Option (List HumanCredential) := w.policy.bind fun f => readPolicy f.bytes none

/-- The record is the same, or was disabled or revoked. -/
structure Kept (c c' : HumanCredential) : Prop where
  actor : c'.actorId = c.actorId
  certificate : c'.certificateSha256 = c.certificateSha256
  validity : c'.notBefore = c.notBefore ∧ c'.notAfter = c.notAfter
  disabled : c.enabled = false → c'.enabled = false
  revoked : c.revoked = true → c'.revoked = true

/-- Every record is kept in its place; new ones come behind. -/
def Retains (old new : List HumanCredential) : Prop := List.Forall₂ Kept old (new.take old.length)

theorem Kept.refl (c : HumanCredential) : Kept c c := ⟨rfl, rfl, ⟨rfl, rfl⟩, id, id⟩

theorem Kept.trans {a b c : HumanCredential} (hab : Kept a b) (hbc : Kept b c) : Kept a c where
  actor := hbc.actor.trans hab.actor
  certificate := hbc.certificate.trans hab.certificate
  validity := ⟨hbc.validity.1.trans hab.validity.1, hbc.validity.2.trans hab.validity.2⟩
  disabled := hbc.disabled ∘ hab.disabled
  revoked := hbc.revoked ∘ hab.revoked

theorem Kept.trans_list : ∀ {as bs cs : List HumanCredential}, List.Forall₂ Kept as bs → List.Forall₂ Kept bs cs →
    List.Forall₂ Kept as cs
  | _, _, _, .nil, .nil => .nil
  | _, _, _, .cons hab habs, .cons hbc hbcs => .cons (hab.trans hbc) (Kept.trans_list habs hbcs)

theorem Retains.refl (records : List HumanCredential) : Retains records records := by
  rw [Retains, List.take_length]
  exact List.forall₂_same.2 fun c _ => .refl c

theorem Retains.append (records added : List HumanCredential) : Retains records (records ++ added) := by
  rw [Retains, List.take_left]
  exact List.forall₂_same.2 fun c _ => .refl c

theorem Retains.trans {as bs cs : List HumanCredential} (hab : Retains as bs) (hbc : Retains bs cs) : Retains as cs := by
  have hlength : as.length ≤ bs.length := by
    have hsame := hab.length_eq
    rw [List.length_take] at hsame
    omega
  have hfront := List.forall₂_take as.length hbc
  rw [List.take_take, Nat.min_eq_left hlength] at hfront
  exact Kept.trans_list hab hfront

theorem retains_restrictRecords (fingerprint : String) (revoke : Bool) (records : List HumanCredential) :
    Retains records (restrictRecords fingerprint revoke records) := by
  have hlength : (restrictRecords fingerprint revoke records).length = records.length := List.length_map _
  rw [Retains, ← hlength, List.take_length, restrictRecords, List.forall₂_map_right_iff]
  refine List.forall₂_same.2 fun c _ => ?_
  by_cases hsame : c.certificateSha256 = fingerprint
  · rw [if_pos hsame]
    cases revoke with
    | false => exact ⟨rfl, rfl, ⟨rfl, rfl⟩, fun _ => rfl, id⟩
    | true => exact ⟨rfl, rfl, ⟨rfl, rfl⟩, id, fun _ => rfl⟩
  · rw [if_neg hsame]
    exact .refl c

/-- The policy file is one that `_write` made, when there is one. -/
def PolicyWritten (w : World δ) : Prop := ∀ f, w.policy = some f → ∃ records, writePolicy records = some f.bytes

/-- What was held is still held. -/
def StillHeld (w w' : World δ) : Prop := ∀ old, w.held = some old → ∃ new, w'.held = some new ∧ Retains old new

theorem StillHeld.trans {a b c : World δ} (hab : StillHeld a b) (hbc : StillHeld b c) : StillHeld a c := by
  intro old hold
  obtain ⟨mid, hmid, hretains⟩ := hab old hold
  obtain ⟨new, hnew, hretains'⟩ := hbc mid hmid
  exact ⟨new, hnew, hretains.trans hretains'⟩

theorem stillHeld_of_policy {w w' : World δ} (h : w'.policy = w.policy) (hw : PolicyWritten w) :
    PolicyWritten w' ∧ StillHeld w w' := by
  unfold PolicyWritten StillHeld World.held
  rw [h]
  exact ⟨hw, fun old hold => ⟨old, hold, .refl old⟩⟩

theorem PolicyWritten.held {old read : List HumanCredential} {current : Option DateTime} (hw : PolicyWritten w)
    (hold : w.held = some old) (hread : w.records current = some read) : read = old := by
  unfold World.held at hold
  unfold World.records at hread
  cases hpolicy : w.policy with
  | none =>
    rw [hpolicy] at hold
    cases hold
  | some f =>
    obtain ⟨records, hrecords⟩ := hw f hpolicy
    rw [hpolicy, Option.bind_some] at hold
    simp only [hpolicy] at hread
    by_cases hlinks : f.links = 1
    · rw [if_pos hlinks] at hread
      rw [readPolicy_of_written hrecords hread, readPolicy_of_written hrecords hold]
    · rw [if_neg hlinks] at hread
      cases hread

/-- A planned change keeps every record, whatever fails while it is made. -/
theorem stillHeld_recordChange {α : Type} {existing : List Entry} {action : Action} {c : HumanCredential}
    {records : List HumanCredential} {create : Bool} {result : α} (hw : PolicyWritten w)
    (hplanned : Planned w action c records create) :
    PolicyWritten (recordChange env existing action c records create result w).2 ∧
      StillHeld w (recordChange env existing action c records create result w).2 := by
  rcases (recordChange_policy env existing action c records create result w).2 with hsame | ⟨raw, n, hraw, hcreate, hpolicy⟩
  · exact stillHeld_of_policy hsame hw
  · constructor
    · intro f hf
      rw [hpolicy] at hf
      cases hf
      exact ⟨records, hraw⟩
    · intro old hold
      refine ⟨records, ?_, ?_⟩
      · rw [World.held, hpolicy]
        exact readPolicy_none hraw
      · cases hplanned with
        | init _ new =>
          rw [World.held, hcreate rfl] at hold
          cases hold
        | enroll _ new read now hread =>
          obtain rfl : read = old := hw.held hold hread
          exact .append read [c]
        | restrict _ read revoke hread =>
          obtain rfl : read = old := hw.held hold hread
          exact retains_restrictRecords _ revoke read

end

section
variable {δ : Type} {sha256 : Sha256}

/-- The files of a run of at most `n` calls in which nothing failed behind a published file. -/
def Holds (sha256 : Sha256) (w : World δ) (archives : List δ) (n : Nat) : Prop :=
  ∃ segments es records, JournalHolds sha256 w archives segments es ∧ PolicyHolds w records ∧
    replay ((segments.flatten ++ es).map JournalEntry.dict) = records.map rowOf ∧ (segments.flatten ++ es).length ≤ n

theorem holds_empty : Holds sha256 ({} : World δ) [] 0 :=
  ⟨[], [], [], .empty, .inl ⟨rfl, rfl⟩, rfl, Nat.le_refl 0⟩

end

section
variable {δ : Type} [DecidableEq δ] {sha256 : Sha256} {w : World δ} {archives : List δ} {env : Env}

/-! ## Both files -/

/-- The steps that come behind the first file that a call publishes. -/
def behind : Call δ → OsStep → Bool
  | .rotateJournal _, step => step = .sync .journal || step = .cleanup .journal
  | _, step => step = .unlink .policy || step = .sync .policy || step = .cleanup .policy || step = .temporary .journal ||
    step = .publish .journal || step = .append || step = .unlink .journal || step = .sync .journal ||
    step = .cleanup .journal

/-- Nothing fails behind the first file that is published. -/
def Undisturbed (input : Env × Call δ) : Prop := ∀ step, behind input.2 step = true → input.1.fails step = false

def rotatedBy : Call δ → List δ
  | .rotateJournal archive => [archive]
  | _ => []

/-- **One call changes both files or none**, when nothing fails behind the first. -/
theorem settled_step {n : Nat} (h : Holds sha256 w archives n) (hn : n + 1 < SEQ_LIMIT) {call : Call δ}
    (hquiet : Undisturbed (env, call)) :
    (∃ w', callStep sha256 w (env, call) = refusal w' ∧ w'.policy = w.policy ∧ w'.journal = w.journal ∧
      Holds sha256 w' archives (n + 1)) ∨
    ∃ reply w', callStep sha256 w (env, call) = (.ok reply, w') ∧ Holds sha256 w' (archives ++ rotatedBy call) (n + 1) := by
  obtain ⟨segments, es, records, hjournal, hpolicy, hreplay, hcount⟩ := h
  have hsmall : (segments.flatten ++ es).length < SEQ_LIMIT := by omega
  refine callStep_ends (P := fun r => (∃ w', r = refusal w' ∧ w'.policy = w.policy ∧ w'.journal = w.journal ∧
    Holds sha256 w' archives (n + 1)) ∨ ∃ reply w', r = (.ok reply, w') ∧
      Holds sha256 w' (archives ++ rotatedBy call) (n + 1)) hjournal hsmall env call ?_ ?_ ?_
  · intro w' hpolicy' hjournal' harchives
    refine .inl ⟨w', rfl, hpolicy', hjournal', segments, es, records, hjournal.congr hjournal' harchives, ?_, hreplay,
      Nat.le_succ_of_le hcount⟩
    unfold PolicyHolds
    rw [hpolicy']
    exact hpolicy
  · intro hcall action c changed create reply hroom hplanned
    have hfails : ∀ step, behind (.restrict (δ := δ) "" false) step = true → env.fails step = false := by
      intro step hstep
      cases call with
      | enroll decoded actor create => exact hquiet step hstep
      | restrict fingerprint revoke => exact hquiet step hstep
      | rotateJournal archive => exact absurd rfl (hcall archive)
    have hreplaces : env.Replaces := ⟨hfails _ rfl, hfails _ rfl, hfails _ rfl⟩
    have happends : env.Appends := ⟨hfails _ rfl, hfails _ rfl, hfails _ rfl, hfails _ rfl, hfails _ rfl, hfails _ rfl⟩
    have hnext : nextNumber es < SEQ_LIMIT := by
      rw [hjournal.nextNumber_eq]
      omega
    have hseqs : ∀ e ∈ es, e.seq < SEQ_LIMIT := fun e he =>
      (hjournal.seq_le e (List.mem_append_right _ he)).trans_lt hsmall
    rcases recordChange_calm action c changed create reply hjournal.file hreplaces happends hroom hseqs hnext with hrefused | ⟨raw, hsize, hraw, hcreate, hdone⟩
    · exact .inl ⟨w, hrefused, rfl, rfl, segments, es, records, hjournal, hpolicy, hreplay, Nat.le_succ_of_le hcount⟩
    · have hnumbered := numbered_recordEntry
        (hjournal.numbered es (List.mem_append_right _ (List.mem_singleton_self es))).1 (env.clock .record) action c changed
        hsize
      have harchives : archives ++ rotatedBy call = archives := by
        cases call with
        | rotateJournal archive => exact absurd rfl (hcall archive)
        | _ => exact List.append_nil archives
      refine .inr ⟨reply, _, hdone, ?_⟩
      rw [harchives]
      refine ⟨segments, _, changed, hjournal.append rfl hnumbered hroom rfl fun _ _ => rfl, .inr ⟨raw, hraw, rfl⟩, ?_, ?_⟩
      · rw [← List.append_assoc, List.map_append, List.map_singleton, replay_append, hreplay]
        exact replay_planned hplanned hpolicy hcreate _ hsize
      · rw [← List.append_assoc, List.length_append, List.length_singleton]
        omega
  · intro archive hcall current hsize hes hnone _
    subst hcall
    rw [map_reply _ fun _ => Reply.rotated _]
    have hothers : ∀ d ∈ archives, d ≠ archive := by
      rintro d hd rfl
      have hsome := hjournal.archived_isSome hd
      rw [hnone] at hsome
      cases hsome
    rcases replaceFile_calm .journal (checkpointEntry sha256 es (env.clock .record) current hsize).line
      (w.archiving archive ⟨some (journalBytes es), some (manifestOf sha256 es (env.clock .record)).bytes⟩)
      (hquiet _ rfl) (hquiet _ rfl) with hrefused | hok
    · rw [hrefused]
      refine .inl ⟨_, rfl, rfl, rfl, segments, es, records, hjournal.congr rfl fun d hd => ?_, hpolicy, hreplay,
        Nat.le_succ_of_le hcount⟩
      exact archiving_other (hothers d hd) _
    · rw [hok]
      refine .inr ⟨_, _, rfl, segments ++ [es], _, records, hjournal.rotate archive
        (checkpointEntry sha256 es (env.clock .record) current hsize) hes rfl rfl ?_ ?_ (fun d hd => ?_), hpolicy, ?_, ?_⟩
      · rw [journalBytes_singleton]
        rfl
      · exact ⟨env.clock .record, w.archives_archiving archive _⟩
      · exact archiving_other (hothers d hd) _
      · have hflatten : (segments ++ [es]).flatten = segments.flatten ++ es := by simp
        rw [hflatten, List.map_append, List.map_singleton, replay_append, hreplay, replay_checkpoint]
      · simp only [List.flatten_append, List.flatten_singleton, List.length_append, List.length_singleton] at hcount ⊢
        omega

/-- Only `enroll` and `restrict` touch the policy. -/
theorem rotateJournal_policy (archive : δ) : Keeps (fun w w' : World δ => w'.policy = w.policy)
    (rotateJournal sha256 env archive) := by
  have htrans : ∀ a b c : World δ, b.policy = a.policy → c.policy = b.policy → c.policy = a.policy :=
    fun _ _ _ hab hbc => hbc.trans hab
  have hreads : ∀ {α : Type} {m : Prog δ α}, Reads m → Keeps (fun w w' : World δ => w'.policy = w.policy) m :=
    fun hm w => by rw [hm w]
  have harchive : ∀ (step : OsStep) (set : Option Bytes → ArchiveDirectory → ArchiveDirectory) (raw : Bytes),
      Keeps (fun w w' : World δ => w'.policy = w.policy) (archiveFile env step set archive raw) := by
    intro step set raw w
    unfold archiveFile
    by_cases hfails : env.fails step = true
    · rw [if_pos hfails, modify_then]
      rfl
    · rw [if_neg hfails]
      rfl
  have hreplace : ∀ raw, Keeps (fun w w' : World δ => w'.policy = w.policy) (replaceFile env .journal raw) := by
    intro raw w
    rcases (replaceFile_ends env .journal raw w).same with hsame | ⟨n, hput⟩
    · rw [hsame]
    · rw [hput]
      rfl
  unfold rotateJournal
  refine (hreads (reads_os env _)).bind htrans fun _ => (hreads (reads_os env _)).bind htrans fun _ =>
    (hreads (reads_os env _)).bind htrans fun _ => (hreads reads_get).bind htrans fun w => ?_
  split
  · exact hreads reads_refuse
  · refine (hreads (reads_readJournalFile env)).bind htrans fun _ => (hreads (reads_need _)).bind htrans fun _ =>
      (hreads (reads_need _)).bind htrans fun _ => (hreads (reads_os env _)).bind htrans fun _ =>
      (hreads (reads_need _)).bind htrans fun _ => (hreads (reads_need _)).bind htrans fun _ =>
      (hreads (reads_need _)).bind htrans fun _ => (harchive _ _ _).bind htrans fun _ =>
      (harchive _ _ _).bind htrans fun _ => (hreads (reads_os env _)).bind htrans fun _ =>
      (hreads (reads_readPolicyFile env _)).bind htrans fun _ => (hreads (reads_os env _)).bind htrans fun _ =>
      (hreplace _).bind htrans fun _ => hreads fun _ => rfl

/-- **No call drops a record, enables it again or takes back its revocation**, whatever fails. -/
theorem stillHeld_step (sha256 : Sha256) (hw : PolicyWritten w) (input : Env × Call δ) :
    PolicyWritten (callStep sha256 w input).2 ∧ StillHeld w (callStep sha256 w input).2 := by
  have hsame : PolicyWritten w ∧ StillHeld w w := stillHeld_of_policy rfl hw
  obtain ⟨env, call⟩ := input
  cases call with
  | enroll decoded actor create =>
    change PolicyWritten ((enroll sha256 env decoded actor create >>= fun a => pure (Reply.enrolled a)) w).2 ∧
      StillHeld w ((enroll sha256 env decoded actor create >>= fun a => pure (Reply.enrolled a)) w).2
    rw [map_reply]
    exact enroll_ends (P := fun r => PolicyWritten r.2 ∧ StillHeld w r.2) hsame fun _ _ _ _ _ _ hplanned =>
      stillHeld_recordChange hw hplanned
  | restrict fingerprint revoke =>
    change PolicyWritten ((restrict env fingerprint revoke >>= fun a => pure ((fun _ => Reply.restricted) a)) w).2 ∧
      StillHeld w ((restrict env fingerprint revoke >>= fun a => pure ((fun _ => Reply.restricted) a)) w).2
    rw [map_reply]
    exact restrict_ends (P := fun r => PolicyWritten r.2 ∧ StillHeld w r.2) hsame fun _ _ _ _ _ _ hplanned =>
      stillHeld_recordChange hw hplanned
  | rotateJournal archive =>
    change PolicyWritten ((rotateJournal sha256 env archive >>= fun a => pure (Reply.rotated a)) w).2 ∧
      StillHeld w ((rotateJournal sha256 env archive >>= fun a => pure (Reply.rotated a)) w).2
    rw [map_reply]
    exact stillHeld_of_policy (rotateJournal_policy archive w) hw

theorem stillHeld_exec (sha256 : Sha256) (inputs : List (Env × Call δ)) : ∀ {w : World δ}, PolicyWritten w →
    PolicyWritten (exec (callStep sha256) w inputs) ∧ StillHeld w (exec (callStep sha256) w inputs) := by
  induction inputs with
  | nil => exact fun hw => stillHeld_of_policy rfl hw
  | cons input inputs ih =>
    intro w hw
    obtain ⟨hw₁, hheld₁⟩ := stillHeld_step sha256 hw input
    obtain ⟨hw₂, hheld₂⟩ := ih hw₁
    exact ⟨hw₂, hheld₁.trans hheld₂⟩

/-! ## Runs -/

/-- The directories of the rotations that returned, in their order. -/
def rotations (replies : List ((Env × Call δ) × Except CredentialPolicyError Reply)) : List δ :=
  replies.flatMap fun r => match r.2 with
    | .ok _ => rotatedBy r.1.2
    | .error _ => []

theorem holds_run (sha256 : Sha256) (inputs : List (Env × Call δ)) : ∀ {w : World δ} {archives : List δ} {n : Nat},
    Holds sha256 w archives n → n + inputs.length < RUN_LIMIT → (∀ input ∈ inputs, Undisturbed input) →
    Holds sha256 (exec (callStep sha256) w inputs) (archives ++ rotations (replies (callStep sha256) w inputs))
      (n + inputs.length) := by
  induction inputs with
  | nil =>
    intro w archives n h _ _
    rw [show rotations (replies (callStep sha256) w []) = [] from rfl, List.append_nil]
    exact h
  | cons input inputs ih =>
    intro w archives n h hlimit hquiet
    rw [List.length_cons] at hlimit
    have hrest := fun x hx => hquiet x (List.mem_cons_of_mem input hx)
    have hlimit' : n + 1 + inputs.length < RUN_LIMIT := by omega
    have hcount : n + (inputs.length + 1) = n + 1 + inputs.length := by omega
    rw [exec_cons, List.length_cons, hcount]
    change Holds sha256 _ (archives ++ ((match (callStep sha256 w input).1 with
      | .ok _ => rotatedBy input.2
      | .error _ => []) ++ rotations (replies (callStep sha256) (callStep sha256 w input).2 inputs))) _
    rcases settled_step h (small_of_run (n := n) (by omega) (Nat.le_refl _)) (hquiet input List.mem_cons_self) with
      ⟨w', hrefused, -, -, hholds⟩ | ⟨reply, w', hok, hholds⟩
    · rw [hrefused]
      exact ih hholds hlimit' hrest
    · rw [hok, ← List.append_assoc]
      exact ih hholds hlimit' hrest

end

/-! ## A certificate and a disk that fails -/

def labCertificate (der : Bytes) : DecodedCertificate :=
  ⟨der, [("URI", ANALYST_URI_PREFIX ++ "night_operator")], enrolledAt, enrolledUntil⟩

def labCredential (der : Bytes) : HumanCredential :=
  ⟨"night_operator", labSha256.digest der, true, false, enrolledAt, enrolledUntil, by decide, labSha256.isSha256_digest der,
    by decide⟩

theorem inDate_lab (der : Bytes) : inDate (labCredential der) enrolledAt = true :=
  (by decide : (decide (enrolledAt.micros ≤ enrolledAt.micros) && decide (enrolledAt.micros < enrolledUntil.micros)) = true)

theorem certificate_lab (der : Bytes) (stops : List OsStep) :
    certificate labSha256 (labEnv enrolledAt stops) (some (labCertificate der)) "night_operator" = some (labCredential der) :=
  certificate_done (c := labCredential der) rfl rfl rfl rfl (inDate_lab der)

end ThreatFusion.Credentials
