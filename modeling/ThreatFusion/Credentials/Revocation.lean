import ThreatFusion.Credentials.PolicyRuns
/-
# Whether a certificate can be revoked

`restrict` needs room in the journal (`operations/human_credentials.py:781`) and reads the policy whatever the time is
(:787, "Expired records may still be restricted"). `rotate_journal`, which makes the room, reads the policy with
`current=True` (:561).

* `revocable_iff`: a run leaves a certificate that can be revoked unless the journal is full and some credential that
  is neither disabled nor revoked is out of date.
* `full_and_expired`: such a run.
-/
namespace ThreatFusion.Credentials
open Py Browser JsonText Effect Machine
open Analyst hiding Value Readable

/-- Nothing fails. -/
def Env.Calm (env : Env) : Prop := ∀ step, env.fails step = false

section
variable {δ : Type} [DecidableEq δ] (sha256 : Sha256)

/-- The ways to revoke: at once, or behind a rotation. -/
def revocations (env env' : Env) (archive : δ) (fingerprint : String) : List (List (Env × Call δ)) :=
  [[(env, .restrict fingerprint true)], [(env, .rotateJournal archive), (env', .restrict fingerprint true)]]

/-- Every call goes through, and the policy then has the certificate as revoked. -/
def Revokes (w : World δ) (fingerprint : String) (calls : List (Env × Call δ)) : Prop :=
  (∀ r ∈ replies (callStep sha256) w calls, ∃ reply, r.2 = .ok reply) ∧
  ∃ records, (exec (callStep sha256) w calls).records none = some records ∧
    fingerprint ∈ records.map (·.certificateSha256) ∧ ∀ c ∈ records, c.certificateSha256 = fingerprint → c.revoked = true

/-- There is no room for another entry. -/
def JournalFull (w : World δ) : Prop := ∃ entries, w.entries = some entries ∧ MAX_JOURNAL_RECORDS ≤ entries.length

/-- Some credential that is in force is not valid at the time. -/
def OutOfDate (records : List HumanCredential) (now : DateTime) : Prop :=
  ∃ c ∈ records, active c = true ∧ inDate c now = false

end

/-! ## Reading the policy of a run -/

section
variable {δ : Type} {w : World δ} {records : List HumanCredential} {fingerprint : String}

theorem PolicyHolds.records_none (h : PolicyHolds w records) (hrecords : records ≠ []) : w.records none = some records := by
  rcases h with ⟨-, rfl⟩ | ⟨raw, hraw, hpolicy⟩
  · exact absurd rfl hrecords
  · rw [World.records, hpolicy]
    exact readPolicy_none hraw

/-- A policy that must be current is read when nothing in it is out of date. -/
theorem PolicyHolds.records_current (h : PolicyHolds w records) (hrecords : records ≠ []) (now : DateTime) :
    (w.records (some now)).isSome = true ↔ ¬ OutOfDate records now := by
  rcases h with ⟨-, rfl⟩ | ⟨raw, hraw, hpolicy⟩
  · exact absurd rfl hrecords
  obtain ⟨hsize, hdistinct⟩ := writePolicy_records hraw
  have hregistry : newRegistry records = some ⟨records, hsize, hdistinct⟩ := dif_pos ⟨hsize, hdistinct⟩
  have hany : (records.any fun c => active c && !inDate c now) = true ↔ OutOfDate records now := by
    rw [List.any_eq_true]
    simp [OutOfDate]
  rw [World.records, hpolicy]
  change (readPolicy raw (some now)).isSome = true ↔ _
  rw [readPolicy_written hraw, Option.isSome_map, validate, hregistry, ← hany]
  simp only [Option.bind_eq_bind, Option.bind_some, Option.any_some]
  by_cases hold : (records.any fun c => active c && !inDate c now) = true
  · simp [hold]
  · simp [Bool.eq_false_iff.2 hold]

theorem map_certificate_restrictRecords (fingerprint : String) (revoke : Bool) (records : List HumanCredential) :
    (restrictRecords fingerprint revoke records).map (·.certificateSha256) = records.map (·.certificateSha256) := by
  rw [restrictRecords, List.map_map]
  refine List.map_congr_left fun c _ => ?_
  rw [Function.comp_apply]
  split
  · cases revoke <;> rfl
  · rfl

theorem revoked_of_restrictRecords {c : HumanCredential} (hmem : c ∈ restrictRecords fingerprint true records)
    (hc : c.certificateSha256 = fingerprint) : c.revoked = true := by
  obtain ⟨old, -, rfl⟩ := List.mem_map.1 hmem
  by_cases hsame : old.certificateSha256 = fingerprint
  · rw [if_pos hsame]
    rfl
  · rw [if_neg hsame] at hc
    exact absurd hc hsame

end

/-! ## The two calls -/

section
variable {δ : Type} [DecidableEq δ] {sha256 : Sha256} {w : World δ} {archives : List δ}
  {segments : List (List JournalEntry)} {es : List JournalEntry} {records : List HumanCredential} {env env' : Env}
  {fingerprint : String} {archive : δ}

/-- With room in the journal every enrolled certificate can be restricted. -/
theorem restrict_done (h : JournalHolds sha256 w archives segments es)
    (hsmall : (segments.flatten ++ es).length + 1 < SEQ_LIMIT) (hpolicy : PolicyHolds w records)
    (hmem : fingerprint ∈ records.map (·.certificateSha256)) (hcalm : env.Calm) (hroom : es.length < MAX_JOURNAL_RECORDS)
    (revoke : Bool) : ∃ w' e, callStep sha256 w (env, .restrict fingerprint revoke) = (.ok .restricted, w') ∧
      JournalHolds sha256 w' archives segments (es ++ [e]) ∧
      PolicyHolds w' (restrictRecords fingerprint revoke records) ∧ w'.archives = w.archives := by
  have hne : records ≠ [] := by
    rintro rfl
    cases hmem
  obtain ⟨c, hc⟩ : ∃ c, records.find? (fun r => r.certificateSha256 == fingerprint) = some c := by
    rw [← Option.isSome_iff_exists, List.find?_isSome]
    obtain ⟨c, hmem, hsame⟩ := List.mem_map.1 hmem
    exact ⟨c, hmem, beq_iff_eq.2 hsame⟩
  have hentries := h.entries_eq (by omega)
  have hgood : (records ≠ [] ∧ records.length ≤ MAX_JOURNAL_RECORDS) ∧ (records.map (·.certificateSha256)).Nodup := by
    rcases hpolicy with ⟨-, hnil⟩ | ⟨raw, hraw, -⟩
    · exact absurd hnil hne
    · exact writePolicy_records hraw
  have hsize : (restrictRecords fingerprint revoke records).length ≤ MAX_JOURNAL_RECORDS := by
    rw [restrictRecords, List.length_map]
    exact hgood.1.2
  obtain ⟨raw, hraw⟩ := writePolicy_done (restrictRecords fingerprint revoke records)
    ⟨⟨by simpa [restrictRecords] using hne, hsize⟩, by rw [map_certificate_restrictRecords]; exact hgood.2⟩
  have hpublished : writePolicyFile env (restrictRecords fingerprint revoke records) false w =
      (.ok (), w.put .policy ⟨raw, 1⟩) :=
    writePolicyFile_done hraw ⟨hcalm _, hcalm _, hcalm _⟩ (hcalm _) (hcalm _) fun hfalse => by cases hfalse
  have hnext : nextNumber es < SEQ_LIMIT := by
    rw [h.nextNumber_eq]
    exact hsmall
  have hseqs : ∀ e ∈ es, e.seq < SEQ_LIMIT := fun e he =>
    (h.seq_le e (List.mem_append_right _ he)).trans_lt (by omega)
  have hdone := recordChange_done (if revoke then .revoke else .disable) c () h.file
    ⟨hcalm _, hcalm _, hcalm _, hcalm _, hcalm _, hcalm _⟩ hroom hseqs hnext hsize hpublished
  have hproceeds := restrict_proceeds revoke (hcalm .lock) (hcalm _) (hcalm _) hentries (by simpa using hroom)
    (hpolicy.records_none hne) hc
  have hnumbered := numbered_recordEntry (h.numbered es (List.mem_append_right _ (List.mem_singleton_self es))).1
    (env.clock .record) (if revoke then .revoke else .disable) c _ hsize
  have hstep : callStep sha256 w (env, .restrict fingerprint revoke) = (.ok .restricted, { w with
      policy := some ⟨raw, 1⟩
      journal := some ⟨journalBytes (es ++ [recordEntry es (env.clock .record)
        (if revoke then .revoke else .disable) c _ hsize]), 1⟩ }) := by
    change (restrict env fingerprint revoke >>= fun a => pure ((fun _ => Reply.restricted) a)) w = _
    rw [map_reply, hproceeds, hdone]
    rfl
  exact ⟨_, _, hstep, h.append rfl hnumbered hroom rfl fun _ _ => rfl, .inr ⟨raw, hraw, rfl⟩, rfl⟩

/-- A full journal refuses a restriction. -/
theorem restrict_refused (hfull : JournalFull w) (revoke : Bool) (reply : Reply) :
    (callStep sha256 w (env, .restrict fingerprint revoke)).1 ≠ .ok reply := by
  obtain ⟨entries, hentries, hlength⟩ := hfull
  change ((restrict env fingerprint revoke >>= fun a => pure ((fun _ => Reply.restricted) a)) w).1 ≠ _
  rw [map_reply]
  refine restrict_ends (P := fun r => r.1.map (fun _ => Reply.restricted) ≠ .ok reply) (fun h => by cases h)
    fun existing action c records hread hroom _ => ?_
  obtain rfl : entries = existing := Option.some.inj (hentries.symm.trans hread)
  omega

/-- A policy that is in date lets the journal be rotated into an empty directory. -/
theorem rotate_done (h : JournalHolds sha256 w archives segments es)
    (hsmall : (segments.flatten ++ es).length < SEQ_LIMIT) (hpolicy : PolicyHolds w records) (hne : records ≠ [])
    (hes : es ≠ []) (hfresh : w.archives archive = ⟨none, none⟩) (hcalm : env.Calm)
    (hdate : ¬ OutOfDate records (env.clock .load)) :
    ∃ w' e reply, callStep sha256 w (env, .rotateJournal archive) = (.ok reply, w') ∧
      JournalHolds sha256 w' (archives ++ [archive]) (segments ++ [es]) [e] ∧ PolicyHolds w' records := by
  obtain ⟨read, hread⟩ := Option.isSome_iff_exists.1 ((hpolicy.records_current hne _).2 hdate)
  obtain rfl : read = records := hpolicy.read hread
  have hsize := records_length hread
  have hothers : ∀ d ∈ archives, d ≠ archive := by
    rintro d hd rfl
    have hsome := h.archived_isSome hd
    rw [hfresh] at hsome
    cases hsome
  have hproceeds := rotate_proceeds sha256 archive hcalm h.file (h.entries_eq hsmall) hes hfresh
    hread hsize
  have hstep : callStep sha256 w (env, .rotateJournal archive) = (.ok (.rotated (manifestOf sha256 es (env.clock .record))),
      (w.archiving archive ⟨some (journalBytes es), some (manifestOf sha256 es (env.clock .record)).bytes⟩).put .journal
        ⟨(checkpointEntry sha256 es (env.clock .record) read hsize).line, 1⟩) := by
    change (rotateJournal sha256 env archive >>= fun a => pure (Reply.rotated a)) w = _
    rw [map_reply, hproceeds]
    rfl
  refine ⟨_, _, _, hstep, h.rotate archive (checkpointEntry sha256 es (env.clock .record) read hsize)
    hes rfl rfl ?_ ?_ fun d hd => ?_, hpolicy⟩
  · rw [journalBytes_singleton]
    rfl
  · exact ⟨env.clock .record, w.archives_archiving archive _⟩
  · exact archiving_other (hothers d hd) _

/-- A policy that is out of date refuses a rotation. -/
theorem rotate_refused (h : JournalHolds sha256 w archives segments es)
    (hsmall : (segments.flatten ++ es).length < SEQ_LIMIT) (hpolicy : PolicyHolds w records) (hne : records ≠ [])
    (hdate : OutOfDate records (env.clock .load)) (reply : Reply) :
    (callStep sha256 w (env, .rotateJournal archive)).1 ≠ .ok reply := by
  refine callStep_ends (P := fun r => r.1 ≠ .ok reply) h hsmall env (.rotateJournal archive) ?_ ?_ ?_
  · exact fun w' _ _ _ heq => by cases heq
  · exact fun hcall => absurd rfl (hcall archive)
  · intro _ _ read _ _ _ hread
    have hsome := (hpolicy.records_current hne (env.clock .load)).1 (by rw [hread]; rfl)
    exact absurd hdate hsome

/-- A certificate that is new to the policy is enrolled. -/
theorem enroll_done (records : List HumanCredential) (create : Bool) {decoded : Option DecodedCertificate}
    {actor : String} {c : HumanCredential} (h : JournalHolds sha256 w archives segments es) (hsmall : (segments.flatten ++ es).length + 1 < SEQ_LIMIT)
    (hcalm : env.Calm) (hroom : es.length < MAX_JOURNAL_RECORDS) (hc : certificate sha256 env decoded actor = some c)
    (hcreate : create = true → w.policy = none ∧ es = [] ∧ records = [])
    (hread : create = false → w.records (some (env.clock .load)) = some records)
    (hsize : (records ++ [c]).length ≤ MAX_JOURNAL_RECORDS)
    (hdistinct : ((records ++ [c]).map (·.certificateSha256)).Nodup) :
    ∃ w' e, callStep sha256 w (env, .enroll decoded actor create) = (.ok (.enrolled c.certificateSha256), w') ∧
      JournalHolds sha256 w' archives segments (es ++ [e]) ∧ PolicyHolds w' (records ++ [c]) ∧ w'.archives = w.archives := by
  have hentries := h.entries_eq (by omega)
  obtain ⟨raw, hraw⟩ := writePolicy_done (records ++ [c]) ⟨⟨by simp, hsize⟩, hdistinct⟩
  have hpublished : writePolicyFile env (records ++ [c]) create w = (.ok (), w.put .policy ⟨raw, 1⟩) :=
    writePolicyFile_done hraw ⟨hcalm _, hcalm _, hcalm _⟩ (hcalm _) (hcalm _) fun hcreated => (hcreate hcreated).1
  have hnext : nextNumber es < SEQ_LIMIT := by
    rw [h.nextNumber_eq]
    exact hsmall
  have hseqs : ∀ e ∈ es, e.seq < SEQ_LIMIT := fun e he =>
    (h.seq_le e (List.mem_append_right _ he)).trans_lt (by omega)
  have hdone := recordChange_done (if create then .init else .enroll) c c.certificateSha256 h.file ⟨hcalm _, hcalm _, hcalm _, hcalm _, hcalm _, hcalm _⟩ hroom hseqs hnext hsize hpublished
  have hnumbered := numbered_recordEntry (h.numbered es (List.mem_append_right _ (List.mem_singleton_self es))).1
    (env.clock .record) (if create then .init else .enroll) c _ hsize
  have hproceeds : enroll sha256 env decoded actor create w = recordChange env (es.map JournalEntry.dict)
      (if create then .init else .enroll) c (records ++ [c]) create c.certificateSha256 w := by
    cases create with
    | true =>
      obtain ⟨-, rfl, rfl⟩ := hcreate rfl
      exact init_proceeds (hcalm _) (hcalm _) hentries rfl hc
    | false => exact enroll_proceeds (hcalm _) (hcalm _) (hcalm _) hentries (by simpa using hroom) (hread rfl) hc
  have hstep : callStep sha256 w (env, .enroll decoded actor create) = (.ok (.enrolled c.certificateSha256), { w with
      policy := some ⟨raw, 1⟩
      journal := some ⟨journalBytes (es ++ [recordEntry es (env.clock .record)
        (if create then .init else .enroll) c _ hsize]), 1⟩ }) := by
    change (enroll sha256 env decoded actor create >>= fun a => pure (Reply.enrolled a)) w = _
    rw [map_reply, hproceeds, hdone]
    rfl
  exact ⟨_, _, hstep, h.append rfl hnumbered hroom rfl fun _ _ => rfl, .inr ⟨raw, hraw, rfl⟩, rfl⟩

/-! ## Revoking -/

theorem revokes_restrict (h : JournalHolds sha256 w archives segments es)
    (hsmall : (segments.flatten ++ es).length + 1 < SEQ_LIMIT) (hpolicy : PolicyHolds w records)
    (hmem : fingerprint ∈ records.map (·.certificateSha256)) (hcalm : env.Calm) (hroom : es.length < MAX_JOURNAL_RECORDS) :
    Revokes sha256 w fingerprint [(env, .restrict fingerprint true)] := by
  obtain ⟨w', e, hstep, -, hpolicy', -⟩ := restrict_done h hsmall hpolicy hmem hcalm hroom true
  have hmem' : fingerprint ∈ (restrictRecords fingerprint true records).map (·.certificateSha256) := by
    rwa [map_certificate_restrictRecords]
  have hne : restrictRecords fingerprint true records ≠ [] := by
    intro hnil
    rw [hnil] at hmem'
    cases hmem'
  refine ⟨?_, _, ?_, hmem', fun c hc => revoked_of_restrictRecords hc⟩
  · intro r hr
    obtain rfl := List.mem_singleton.1 hr
    exact ⟨.restricted, congrArg Prod.fst hstep⟩
  · rw [exec_cons, exec_nil, hstep]
    exact hpolicy'.records_none hne

/-- A certificate can be revoked unless the journal is full and the policy out of date. -/
theorem revokes_iff (h : JournalHolds sha256 w archives segments es)
    (hsmall : (segments.flatten ++ es).length + 2 < SEQ_LIMIT) (hpolicy : PolicyHolds w records)
    (hmem : fingerprint ∈ records.map (·.certificateSha256)) (hfresh : w.archives archive = ⟨none, none⟩)
    (hcalm : env.Calm) (hcalm' : env'.Calm) :
    (∃ calls ∈ revocations env env' archive fingerprint, Revokes sha256 w fingerprint calls) ↔
      ¬ (JournalFull w ∧ OutOfDate records (env.clock .load)) := by
  have hne : records ≠ [] := by
    rintro rfl
    cases hmem
  constructor
  · rintro ⟨calls, hcalls, hok, -⟩ ⟨hfull, hdate⟩
    rw [revocations, List.mem_cons, List.mem_singleton] at hcalls
    rcases hcalls with rfl | rfl
    · obtain ⟨reply, hreply⟩ := hok _ List.mem_cons_self
      exact restrict_refused hfull true reply hreply
    · obtain ⟨reply, hreply⟩ := hok _ List.mem_cons_self
      exact rotate_refused h (by omega) hpolicy hne hdate reply hreply
  · intro hgood
    by_cases hroom : es.length < MAX_JOURNAL_RECORDS
    · exact ⟨_, List.mem_cons_self, revokes_restrict h (by omega) hpolicy hmem hcalm hroom⟩
    have hfull : JournalFull w := by
      refine ⟨_, h.entries_eq (by omega), ?_⟩
      rw [List.length_map]
      exact Nat.not_lt.1 hroom
    have hes : es ≠ [] := by
      rintro rfl
      exact hroom (by decide)
    obtain ⟨w', e, reply, hstep, h', hpolicy'⟩ := rotate_done h (by omega) hpolicy hne hes hfresh hcalm
      fun hdate => hgood ⟨hfull, hdate⟩
    have hcount : ((segments ++ [es]).flatten ++ [e]).length + 1 < SEQ_LIMIT := by
      simp only [List.flatten_append, List.flatten_singleton, List.length_append, List.length_singleton] at hsmall ⊢
      omega
    obtain ⟨hok, hrevoked⟩ := revokes_restrict h' hcount hpolicy' hmem hcalm' (by decide : 1 < MAX_JOURNAL_RECORDS)
    refine ⟨_, List.mem_cons_of_mem _ (List.mem_singleton_self _), ?_, ?_⟩
    · intro r hr
      rcases List.mem_cons.1 hr with rfl | hr
      · exact ⟨reply, congrArg Prod.fst hstep⟩
      · rw [hstep] at hr
        exact hok r hr
    · rw [exec_cons, hstep]
      exact hrevoked

/-- Restrictions of one certificate, while there is room, fill the journal and leave the other records. -/
theorem restricts_done (fingerprint : String) (hcalm : env.Calm) (revoke : Bool) (n : Nat) : ∀ {w : World δ} {es : List JournalEntry}
    {records : List HumanCredential}, JournalHolds sha256 w archives segments es → PolicyHolds w records →
    fingerprint ∈ records.map (·.certificateSha256) → es.length + n ≤ MAX_JOURNAL_RECORDS →
    (segments.flatten ++ es).length + n < SEQ_LIMIT →
    ∃ es' records', JournalHolds sha256 (exec (callStep sha256) w (List.replicate n (env, .restrict fingerprint revoke)))
        archives segments es' ∧ es'.length = es.length + n ∧
      PolicyHolds (exec (callStep sha256) w (List.replicate n (env, .restrict fingerprint revoke))) records' ∧
      records'.map (·.certificateSha256) = records.map (·.certificateSha256) ∧
      (∀ c ∈ records, c.certificateSha256 ≠ fingerprint → c ∈ records') ∧
      (exec (callStep sha256) w (List.replicate n (env, .restrict fingerprint revoke))).archives = w.archives := by
  induction n with
  | zero => exact fun h hpolicy _ _ _ => ⟨_, _, h, rfl, hpolicy, rfl, fun _ hc _ => hc, rfl⟩
  | succ n ih =>
    intro w es records h hpolicy hmem hroom hsmall
    obtain ⟨w', e, hstep, h', hpolicy', harchives⟩ := restrict_done h (by omega) hpolicy hmem hcalm (by omega) revoke
    have hnames := map_certificate_restrictRecords fingerprint revoke records
    have hcount : (segments.flatten ++ (es ++ [e])).length = (segments.flatten ++ es).length + 1 := by
      simp only [List.length_append, List.length_singleton]
      omega
    have hlength : (es ++ [e]).length = es.length + 1 := List.length_append
    obtain ⟨es', records', hfinal, hes', hpolicy'', hnames', hkept, harchives'⟩ := ih h' hpolicy' (by rwa [hnames])
      (by omega) (by omega)
    rw [List.replicate_succ, exec_cons, hstep]
    refine ⟨es', records', hfinal, by omega, hpolicy'', hnames'.trans hnames, fun c hc hne => hkept c ?_ hne,
      harchives'.trans harchives⟩
    exact List.mem_map.2 ⟨c, hc, if_neg hne⟩

end

/-! ## A run that fills the journal -/

def firstDer : Bytes := utf8 "lab certificate one"
def secondDer : Bytes := utf8 "lab certificate two"

def initCall : Env × Call Unit := (labEnv enrolledAt [], .enroll (some (labCertificate firstDer)) "night_operator" true)

/-- A second certificate is enrolled and revoked many times over. -/
def fillingRun : List (Env × Call Unit) :=
  initCall :: (labEnv enrolledAt [], .enroll (some (labCertificate secondDer)) "night_operator" false) ::
    List.replicate 62 (labEnv enrolledAt [], .restrict (labSha256.digest secondDer) true)

/-- A month after both certificates have run out. -/
def expiredAt : DateTime := ⟨2027, 11, 7, 6, 19, 43, 0, by decide, by decide⟩

theorem labEnv_calm (now : DateTime) : (labEnv now []).Calm := fun _ => rfl

theorem initCall_done : ∃ w' e, callStep labSha256 {} initCall = (.ok (.enrolled (labSha256.digest firstDer)), w') ∧
    JournalHolds labSha256 w' [] [] [e] ∧ PolicyHolds w' [labCredential firstDer] ∧ w'.archives = fun _ => ⟨none, none⟩ :=
  enroll_done [] true .empty (small_of_run (n := 0) (Nat.pow_pos (by decide)) (Nat.le_refl 1)) (labEnv_calm _)
    (by decide) (certificate_lab firstDer []) (fun _ => ⟨rfl, rfl, rfl⟩) (fun h => by cases h) (by decide)
    (List.nodup_singleton _)

theorem small_number {n : Nat} (h : n ≤ 66) : n < SEQ_LIMIT := by
  have hlarge : 10 ^ 2 ≤ SEQ_LIMIT := Nat.pow_le_pow_right (by decide) (by decide)
  exact Nat.lt_of_lt_of_le (by omega) hlarge

theorem certificates_distinct : labSha256.digest firstDer ≠ labSha256.digest secondDer := by decide +kernel

theorem fillingRun_done : ∃ es records, JournalHolds labSha256 (exec (callStep labSha256) {} fillingRun) [] [] es ∧
    es.length = MAX_JOURNAL_RECORDS ∧ PolicyHolds (exec (callStep labSha256) {} fillingRun) records ∧
    labCredential firstDer ∈ records ∧ (exec (callStep labSha256) {} fillingRun).archives = fun _ => ⟨none, none⟩ := by
  obtain ⟨w₁, e₁, hstep₁, hjournal₁, hpolicy₁, harchives₁⟩ := initCall_done
  have hdate : ¬ OutOfDate [labCredential firstDer] enrolledAt := by
    rintro ⟨c, hc, -, hout⟩
    obtain rfl := List.mem_singleton.1 hc
    rw [inDate_lab] at hout
    cases hout
  obtain ⟨read, hread⟩ := Option.isSome_iff_exists.1 ((hpolicy₁.records_current (List.cons_ne_nil _ _) enrolledAt).2 hdate)
  obtain rfl : read = [labCredential firstDer] := hpolicy₁.read hread
  obtain ⟨w₂, e₂, hstep₂, hjournal₂, hpolicy₂, harchives₂⟩ := enroll_done _ false hjournal₁
    (small_number (by decide : 1 + 1 ≤ 66)) (labEnv_calm enrolledAt)
    (by decide : 1 < MAX_JOURNAL_RECORDS)
    (certificate_lab secondDer []) (fun h => by cases h) (fun _ => hread) (by decide)
    (by simpa [labCredential] using certificates_distinct)
  obtain ⟨es, records, hjournal, hlength, hpolicy, -, hkept, harchives⟩ := restricts_done
    (labSha256.digest secondDer) (labEnv_calm enrolledAt) true 62 hjournal₂ hpolicy₂ (by simp [labCredential])
    (by decide : 2 + 62 ≤ MAX_JOURNAL_RECORDS) (small_number (by decide : 2 + 62 ≤ 66))
  rw [fillingRun, exec_cons, exec_cons, hstep₁]
  dsimp only
  rw [hstep₂]
  exact ⟨es, records, hjournal, hlength, hpolicy, hkept _ List.mem_cons_self certificates_distinct,
    harchives.trans (harchives₂.trans harchives₁)⟩

/-! ## Any run -/

section
variable {δ : Type} [DecidableEq δ] {records : List HumanCredential} {env env' : Env} {fingerprint : String} {archive : δ}

/-- **A run leaves a certificate that can be revoked**, at once or behind a rotation, if and only if the journal has
room or every credential in force is in date. -/
theorem revocable_iff (sha256 : Sha256) (inputs : List (Env × Call δ)) (hlength : inputs.length + 2 ≤ RUN_LIMIT)
    (hquiet : ∀ input ∈ inputs, Undisturbed input)
    (hrecords : (exec (callStep sha256) {} inputs).records none = some records)
    (hmem : fingerprint ∈ records.map (·.certificateSha256))
    (hfresh : (exec (callStep sha256) {} inputs).archives archive = ⟨none, none⟩) (hcalm : env.Calm) (hcalm' : env'.Calm) :
    (∃ calls ∈ revocations env env' archive fingerprint, Revokes sha256 (exec (callStep sha256) {} inputs) fingerprint calls) ↔
      ¬ (JournalFull (exec (callStep sha256) {} inputs) ∧ OutOfDate records (env.clock .load)) := by
  have hlimit : inputs.length + 1 < RUN_LIMIT := hlength
  obtain ⟨segments, es, held, hjournal, hpolicy, -, hcount⟩ := holds_run sha256 inputs (w := {}) holds_empty
    (by omega) hquiet
  obtain rfl : records = held := hpolicy.read hrecords
  exact revokes_iff hjournal (small_of_run (n := inputs.length + 1) hlimit (by omega)) hpolicy hmem hfresh hcalm hcalm'

end

theorem initCall_revocable :
    (∃ calls ∈ revocations (labEnv expiredAt []) (labEnv expiredAt []) () (labSha256.digest firstDer),
      Revokes labSha256 (exec (callStep labSha256) {} [initCall]) (labSha256.digest firstDer) calls) ↔
      ¬ (JournalFull (exec (callStep labSha256) {} [initCall]) ∧ OutOfDate [labCredential firstDer] expiredAt) := by
  obtain ⟨w, e, hstep, -, hpolicy, harchives⟩ := initCall_done
  have hexec : exec (callStep labSha256) {} [initCall] = w := by
    rw [exec_cons, exec_nil, hstep]
  have hrecords : (exec (callStep labSha256) {} [initCall]).records none = some [labCredential firstDer] := by
    rw [hexec]
    exact hpolicy.records_none (List.cons_ne_nil _ _)
  have hlimit : 10 ^ 1 ≤ RUN_LIMIT := Nat.pow_le_pow_right (by decide) (by decide)
  refine revocable_iff labSha256 [initCall] (Nat.le_trans (by decide) hlimit) ?_ hrecords List.mem_cons_self ?_
    (labEnv_calm _) (labEnv_calm _)
  · intro input hinput step _
    obtain rfl := List.mem_singleton.1 hinput
    rfl
  · rw [hexec, harchives]

/-- With the journal full and the first certificate out of date, neither way to revoke it is open. -/
theorem full_and_expired : ¬ ∃ calls ∈ revocations (labEnv expiredAt []) (labEnv expiredAt []) () (labSha256.digest firstDer),
    Revokes labSha256 (exec (callStep labSha256) {} fillingRun) (labSha256.digest firstDer) calls := by
  obtain ⟨es, records, hjournal, hlength, hpolicy, hmem, harchives⟩ := fillingRun_done
  have hcount : (([] : List (List JournalEntry)).flatten ++ es).length = 64 := hlength
  have hfull : JournalFull (exec (callStep labSha256) ({} : World Unit) fillingRun) := by
    refine ⟨_, hjournal.entries_eq ?_, ?_⟩
    · rw [hcount]
      exact small_number (by decide)
    · rw [List.length_map, hlength]
  have hdate : OutOfDate records expiredAt := ⟨_, hmem, rfl, by decide +kernel⟩
  have hsmall : (([] : List (List JournalEntry)).flatten ++ es).length + 2 < SEQ_LIMIT := by
    rw [hcount]
    exact small_number (by decide)
  intro hrevocable
  exact (revokes_iff hjournal hsmall hpolicy (List.mem_map_of_mem hmem) (congrFun harchives ()) (labEnv_calm _)
    (labEnv_calm _)).1 hrevocable ⟨hfull, hdate⟩

end ThreatFusion.Credentials
