import ThreatFusion.Lib.Machine
import ThreatFusion.ReplayJournal.Model
import Mathlib.Data.List.Nodup
/-
# Runs of the replay journal: exactly-once claiming

Any number of `ProducerReplayJournal` instances (each with its own generation) call `claim`,
`complete` and `recover_abandoned_generation` on one table. Every call is one transaction, so an
interleaving is a list of calls and a run is `Machine.exec`. Claims, tokens, response bytes, clock
values and database faults are whatever the caller or the environment gives.

`step_cases` says once what a call can do to the table: nothing, one new row, one row completed, or
some in-progress rows abandoned. Uniqueness on the two keys (`Keys`), the shape of completed rows
(`Cached`) and the row life cycle (`Evolves`) all follow from it.
-/
namespace ThreatFusion.ReplayJournal
open Py Admission Machine

inductive Op where
  | claim (gen : Generation) (record : ValidatedAdmissionRecord) (token : String)
      (claimedAt : Option DateTime) (fault : DbFault)
  | complete (gen : Generation) (claim : ReplayClaim) (response : Bytes)
      (completedAt : Option DateTime) (fault : DbFault)
  | recover (gen : Generation) (abandoned : String) (recoveredAt : Option DateTime) (fault : DbFault)

inductive Reply where
  | claim (r : Except JournalError ReplayClaimResult)
  | complete (r : Except JournalError Bytes)
  | recover (r : Except JournalError Nat)

def step (c : Codec) (db : JournalDb) : Op → Reply × JournalDb
  | .claim gen record token claimedAt fault =>
    let p := claim c gen record token claimedAt fault db
    (.claim p.1, p.2)
  | .complete gen cl response completedAt fault =>
    let p := complete c gen cl response completedAt fault db
    (.complete p.1, p.2)
  | .recover gen abandoned recoveredAt fault =>
    let p := recoverAbandonedGeneration gen abandoned recoveredAt fault db
    (.recover p.1, p.2)

/-- The call granted `record`: it returned `request_claimed`, or a `ReplayClaim` at all. -/
def Granted (record : ValidatedAdmissionRecord) (op : Op) (reply : Reply) : Prop :=
  ∃ gen token t fault result, op = .claim gen record token t fault ∧ reply = .claim (.ok result) ∧
    (result.reason = .requestClaimed ∨ result.claim ≠ none)

/-- The call completed the request `q` with `b`. -/
def Completed (q : String) (b : Bytes) (op : Op) (reply : Reply) : Prop :=
  ∃ gen cl response t fault, op = .complete gen cl response t fault ∧ cl.requestId = q ∧
    reply = .complete (.ok b)

/-- What may become of a row: nothing, or one of the two ends of an in-progress row. -/
def Evolves (r r' : ReplayRow) : Prop :=
  r' = r ∨ r.state = .inProgress ∧
    ((∃ t b d, r' = r.completeWith t b d) ∨ ∃ t, r' = r.abandon t)

/-! ## One transaction -/

theorem atomic_cases {α : Type} (fault : DbFault) (db : JournalDb)
    (body : JournalDb → Except JournalError (α × JournalDb)) :
    (∃ e, atomic fault db body = (.error e, db)) ∨
      ∃ a db', body db = .ok (a, db') ∧ atomic fault db body = (.ok a, db') := by
  unfold atomic
  by_cases hc : fault.noConnection = true
  · exact .inl ⟨_, if_pos hc⟩
  rw [if_neg hc]
  cases hb : fault.begin with
  | some e => exact .inl ⟨_, rfl⟩
  | none =>
    cases hbody : body db with
    | error e => exact .inl ⟨e, rfl⟩
    | ok p =>
      obtain ⟨a, db'⟩ := p
      cases hcm : fault.commit with
      | some e => exact .inl ⟨_, rfl⟩
      | none => exact .inr ⟨a, db', rfl, rfl⟩

theorem atomic_none {α : Type} (db : JournalDb)
    (body : JournalDb → Except JournalError (α × JournalDb)) {a : α} {db' : JournalDb}
    (h : body db = .ok (a, db')) : atomic DbFault.none db body = (.ok a, db') := by
  simp [atomic, DbFault.none, h]

theorem insertRow_ok {db db' : JournalDb} {r : ReplayRow} (h : insertRow db r = .ok db') :
    db' = db ++ [r] ∧ ∀ s ∈ db, s.requestId ≠ r.requestId ∧ s.nonceSha256 ≠ r.nonceSha256 := by
  unfold insertRow at h
  split at h
  · rename_i hc
    simp only [Bool.and_eq_true, List.all_eq_true, bne_iff_ne, ne_eq] at hc
    exact ⟨by simpa using h.symm, hc.2⟩
  · cases h

theorem updateRows_ok {db db' : JournalDb} {sel : ReplayRow → Bool} {upd : ReplayRow → ReplayRow}
    (h : updateRows db sel upd = .ok db') : db' = db.map fun r => if sel r then upd r else r := by
  unfold updateRows at h
  split at h
  · simpa using h.symm
  · cases h

theorem mem_existingRows {db : JournalDb} {r : ValidatedAdmissionRecord} {row : ReplayRow} :
    row ∈ existingRows db r ↔
      row ∈ db ∧ (row.requestId = r.requestId ∨ row.nonceSha256 = r.nonceSha256) := by
  simp [existingRows, List.mem_filter]

/-! ## What each call can do -/

theorem replayDisposition_quiet {c : Codec} {row : ReplayRow} {result : ReplayClaimResult}
    (h : replayDisposition c row = .ok result) : result.reason ≠ .requestClaimed ∧ result.claim = none := by
  unfold replayDisposition at h
  split at h
  · cases h; exact ⟨by simp, rfl⟩
  · split at h
    · cases h
    · cases h; exact ⟨by simp, rfl⟩
  · cases h; exact ⟨by simp, rfl⟩

theorem claimTx_cases {c : Codec} {gen : Generation} {r : ValidatedAdmissionRecord} {token : String}
    {t : DateTime} {db db' : JournalDb} {result : ReplayClaimResult}
    (h : claimTx c gen r token t db = .ok (result, db')) :
    (db' = db ∧ result.reason ≠ .requestClaimed ∧ result.claim = none) ∨
      result = ⟨.inProgress, .requestClaimed, some ⟨r.requestId, gen.id, token⟩, none, r.correlationId⟩ ∧
        db' = db ++ [newRow c gen r token t] ∧
        ∀ s ∈ db, s.requestId ≠ r.requestId ∧ s.nonceSha256 ≠ r.nonceSha256 := by
  unfold claimTx at h
  split at h
  · rw [ValidatedAdmissionRecord.new_self] at h
    simp only at h
    cases hi : insertRow db (newRow c gen r token t) with
    | error e => simp [hi] at h
    | ok db₁ =>
      simp only [hi, Except.ok.injEq, Prod.mk.injEq] at h
      obtain ⟨hres, rfl⟩ := h
      exact .inr ⟨hres.symm, insertRow_ok hi⟩
  · split at h
    · cases h
    · cases hd : replayDisposition c ‹_› with
      | error e => simp [hd] at h
      | ok res =>
        simp only [hd, Except.ok.injEq, Prod.mk.injEq] at h
        obtain ⟨rfl, rfl⟩ := h
        exact .inl ⟨rfl, replayDisposition_quiet hd⟩
  · cases h

theorem completeTx_cases {c : Codec} {gen : Generation} {cl : ReplayClaim} {response b : Bytes}
    {cid : String} {t : DateTime} {db db' : JournalDb}
    (h : completeTx c gen cl response cid t db = .ok (b, db')) :
    ∃ row ∈ db, row.requestId = cl.requestId ∧ row.state = .inProgress ∧ cid = row.firstCorrelationId ∧
      b = response ∧ db' = db.map fun r => if r.requestId == cl.requestId then
        r.completeWith t.isoformat response (c.sha256 response) else r := by
  unfold completeTx at h
  split at h
  · cases h
  · rename_i row hf
    split at h
    · cases h
    · rename_i hn
      simp only [Bool.or_eq_true, bne_iff_ne, ne_eq, not_or, Decidable.not_not] at hn
      cases hu : updateRows db (fun r => r.requestId == cl.requestId)
          (·.completeWith t.isoformat response (c.sha256 response)) with
      | error e => simp [hu] at h
      | ok db₁ =>
        simp only [hu, Except.ok.injEq, Prod.mk.injEq] at h
        obtain ⟨rfl, rfl⟩ := h
        exact ⟨row, List.mem_of_find?_eq_some hf, by simpa using List.find?_some hf, hn.1.1.1.1,
          hn.2, rfl, updateRows_ok hu⟩

/-- One `claim`: nothing granted and nothing changed, or the new row of a request that has none. -/
theorem claim_cases (c : Codec) (gen : Generation) (r : ValidatedAdmissionRecord) (token : String)
    (t : DateTime) (fault : DbFault) (db : JournalDb) :
    (∃ e, claim c gen r token (some t) fault db = (.error e, db)) ∨
    (∃ result, claim c gen r token (some t) fault db = (.ok result, db) ∧ result.claim = none) ∨
    (claim c gen r token (some t) fault db =
      (.ok ⟨.inProgress, .requestClaimed, some ⟨r.requestId, gen.id, token⟩, none, r.correlationId⟩,
        db ++ [newRow c gen r token t]) ∧ ∀ s ∈ db, s.requestId ≠ r.requestId) := by
  rcases atomic_cases fault db (claimTx c gen r token t) with ⟨e, he⟩ | ⟨result, db', hb, he⟩
  · exact .inl ⟨e, he⟩
  · rcases claimTx_cases hb with ⟨rfl, -, hn⟩ | ⟨rfl, rfl, hfresh⟩
    · exact .inr (.inl ⟨result, he, hn⟩)
    · exact .inr (.inr ⟨he, fun s hs => (hfresh s hs).1⟩)

/-- One `complete`: an error and nothing changed, or the rows of the claim's request completed. -/
theorem complete_cases (c : Codec) (gen : Generation) (cl : ReplayClaim) (b : Bytes) (t : DateTime)
    (fault : DbFault) (db : JournalDb) :
    (∃ e, complete c gen cl b (some t) fault db = (.error e, db)) ∨
      complete c gen cl b (some t) fault db = (.ok b,
        db.map fun r => if r.requestId == cl.requestId then r.completeWith t.isoformat b (c.sha256 b) else r) := by
  unfold complete
  simp only
  split
  · exact .inl ⟨_, rfl⟩
  split
  · exact .inl ⟨_, rfl⟩
  cases c.responseCorrelationId b with
  | none => exact .inl ⟨_, rfl⟩
  | some cid =>
    rcases atomic_cases fault db (completeTx c gen cl b cid t) with ⟨e, he⟩ | ⟨b', db', hb, he⟩
    · exact .inl ⟨e, he⟩
    · obtain ⟨_, _, _, _, _, rfl, rfl⟩ := completeTx_cases hb
      exact .inr he

/-- **What one call can do.** -/
theorem step_cases (c : Codec) (db : JournalDb) (op : Op) :
    -- nothing, and the reply grants and completes nothing
    ((step c db op).2 = db ∧ (∀ r, ¬ Granted r op (step c db op).1) ∧
      ∀ q b, ¬ Completed q b op (step c db op).1) ∨
    -- a claim inserts its row, whose two keys are new
    (∃ gen r token t fault, op = .claim gen r token (some t) fault ∧
      (step c db op).2 = db ++ [newRow c gen r token t] ∧
      ∀ s ∈ db, s.requestId ≠ r.requestId ∧ s.nonceSha256 ≠ r.nonceSha256) ∨
    -- a completion fills one in-progress row
    (∃ gen cl response t fault row, op = .complete gen cl response (some t) fault ∧ row ∈ db ∧
      row.requestId = cl.requestId ∧ row.state = .inProgress ∧
      c.responseCorrelationId response = some row.firstCorrelationId ∧
      (step c db op).1 = .complete (.ok response) ∧
      (step c db op).2 = db.map fun r => if r.requestId == cl.requestId then
        r.completeWith t.isoformat response (c.sha256 response) else r) ∨
    -- a recovery abandons the in-progress rows of one generation
    (∃ gen abandoned t fault, op = .recover gen abandoned (some t) fault ∧
      (step c db op).2 = db.map fun r =>
        if r.state == .inProgress && r.serviceGenerationId == abandoned then
          r.abandon t.isoformat else r) := by
  cases op with
  | claim gen r token at_ fault =>
    cases at_ with
    | none =>
      refine .inl ⟨rfl, ?_, ?_⟩
      · rintro r' ⟨_, _, _, _, _, -, hr, -⟩
        simp [step, claim] at hr
      · rintro q b ⟨_, _, _, _, _, ho, -⟩
        cases ho
    | some t =>
      rcases atomic_cases fault db (claimTx c gen r token t) with ⟨e, he⟩ | ⟨result, db', hb, he⟩
      · refine .inl ⟨by simp [step, claim, he], ?_, ?_⟩
        · rintro r' ⟨_, _, _, _, _, -, hr, -⟩
          simp [step, claim, he] at hr
        · rintro q b ⟨_, _, _, _, _, ho, -⟩
          cases ho
      · rcases claimTx_cases hb with ⟨rfl, hq, hn⟩ | ⟨-, rfl, hfresh⟩
        · refine .inl ⟨by simp [step, claim, he], ?_, ?_⟩
          · rintro r' ⟨_, _, _, _, res, -, hr, hg⟩
            simp only [step, claim, he, Reply.claim.injEq, Except.ok.injEq] at hr
            subst hr
            exact hg.elim hq (fun h => h hn)
          · rintro q b ⟨_, _, _, _, _, ho, -⟩
            cases ho
        · exact .inr (.inl ⟨gen, r, token, t, fault, rfl, by simp [step, claim, he], hfresh⟩)
  | complete gen cl response at_ fault =>
    have quiet : ∀ e, complete c gen cl response at_ fault db = (.error e, db) →
        (step c db (.complete gen cl response at_ fault)).2 = db ∧
        (∀ r, ¬ Granted r (.complete gen cl response at_ fault)
          (step c db (.complete gen cl response at_ fault)).1) ∧
        ∀ q b, ¬ Completed q b (.complete gen cl response at_ fault)
          (step c db (.complete gen cl response at_ fault)).1 := by
      intro e he
      refine ⟨by simp [step, he], ?_, ?_⟩
      · rintro r' ⟨_, _, _, _, _, ho, -⟩
        cases ho
      · rintro q b ⟨_, _, _, _, _, -, -, hr⟩
        simp [step, he] at hr
    cases at_ with
    | none => exact .inl (quiet _ rfl)
    | some t =>
      by_cases h1 : (!isUuid4 cl.requestId || !isUuid4 cl.serviceGenerationId ||
        !isOwnershipToken cl.ownershipToken) = true
      · exact .inl (quiet .claimNotActive (by simp only [complete, if_pos h1]))
      by_cases h2 : (!between 1 MAX_RESPONSE_BYTES response.length) = true
      · exact .inl (quiet .cachedResponseInvalid (by simp only [complete, if_neg h1, if_pos h2]))
      cases hd : c.responseCorrelationId response with
      | none =>
        exact .inl (quiet .cachedResponseInvalid (by simp only [complete, if_neg h1, if_neg h2, hd]))
      | some cid =>
        have hc : complete c gen cl response (some t) fault db =
            atomic fault db (completeTx c gen cl response cid t) := by
          simp only [complete, if_neg h1, if_neg h2, hd]
        rcases atomic_cases fault db (completeTx c gen cl response cid t) with ⟨e, he⟩ | ⟨b, db', hb, he⟩
        · exact .inl (quiet e (hc.trans he))
        · obtain ⟨row, hm, hq, hs, rfl, rfl, rfl⟩ := completeTx_cases hb
          exact .inr (.inr (.inl ⟨gen, cl, b, t, fault, row, rfl, hm, hq, hs, hd,
            by simp [step, hc, he], by simp [step, hc, he]⟩))
  | recover gen abandoned at_ fault =>
    have quiet : ∀ e, recoverAbandonedGeneration gen abandoned at_ fault db = (.error e, db) →
        (step c db (.recover gen abandoned at_ fault)).2 = db ∧
        (∀ r, ¬ Granted r (.recover gen abandoned at_ fault)
          (step c db (.recover gen abandoned at_ fault)).1) ∧
        ∀ q b, ¬ Completed q b (.recover gen abandoned at_ fault)
          (step c db (.recover gen abandoned at_ fault)).1 := by
      intro e he
      refine ⟨by simp [step, he], ?_, ?_⟩
      · rintro r' ⟨_, _, _, _, _, ho, -⟩
        cases ho
      · rintro q b ⟨_, _, _, _, _, ho, -⟩
        cases ho
    cases at_ with
    | none => exact .inl (quiet _ rfl)
    | some t =>
      by_cases h1 : (!isUuid4 abandoned || abandoned == gen.id) = true
      · exact .inl (quiet .recoveryRequestInvalid (by simp only [recoverAbandonedGeneration, if_pos h1]))
      have hc : recoverAbandonedGeneration gen abandoned (some t) fault db =
          atomic fault db (recoverTx abandoned t) := by
        simp only [recoverAbandonedGeneration, if_neg h1]
      rcases atomic_cases fault db (recoverTx abandoned t) with ⟨e, he⟩ | ⟨n, db', hb, he⟩
      · exact .inl (quiet e (hc.trans he))
      · refine .inr (.inr (.inr ⟨gen, abandoned, t, fault, rfl, ?_⟩))
        unfold recoverTx at hb
        cases hu : updateRows db (fun row => row.state == .inProgress && row.serviceGenerationId == abandoned)
            (·.abandon t.isoformat) with
        | error e => simp [hu] at hb
        | ok db₁ =>
          simp only [hu, Except.ok.injEq, Prod.mk.injEq] at hb
          simp only [step, hc, he]
          rw [← hb.2, updateRows_ok hu]

theorem step_granted {c : Codec} {db : JournalDb} {op : Op} {r : ValidatedAdmissionRecord}
    (h : Granted r op (step c db op).1) :
    ∃ gen token t, (step c db op).2 = db ++ [newRow c gen r token t] ∧
      ∀ s ∈ db, s.requestId ≠ r.requestId ∧ s.nonceSha256 ≠ r.nonceSha256 := by
  obtain ⟨gen, token, at_, fault, result, hop, hr, hg⟩ := id h
  rcases step_cases c db op with ⟨-, hq, -⟩ | ⟨gen', r', token', t, fault', rfl, hdb, hfresh⟩ |
    ⟨_, _, _, _, _, _, rfl, _⟩ | ⟨_, _, _, _, rfl, _⟩
  · exact absurd h (hq r)
  · cases hop
    exact ⟨gen, token, t, hdb, hfresh⟩
  · cases hop
  · cases hop

theorem step_completed {c : Codec} {db : JournalDb} {op : Op} {q : String} {b : Bytes}
    (h : Completed q b op (step c db op).1) :
    ∃ row ∈ db, row.requestId = q ∧ row.state = .inProgress ∧
      c.responseCorrelationId b = some row.firstCorrelationId ∧
      ∃ t, (step c db op).2 =
        db.map fun r => if r.requestId == q then r.completeWith t b (c.sha256 b) else r := by
  obtain ⟨gen, cl, response, at_, fault, hop, rfl, hr⟩ := id h
  rcases step_cases c db op with ⟨-, -, hq⟩ | ⟨_, _, _, _, _, rfl, _⟩ |
    ⟨gen', cl', response', t, fault', row, rfl, hm, hid, hs, hd, hreply, hdb⟩ | ⟨_, _, _, _, rfl, _⟩
  · exact absurd h (hq _ _)
  · cases hop
  · cases hop
    obtain rfl : response = b := by simpa [hreply] using hr
    exact ⟨row, hm, hid, hs, hd, _, hdb⟩
  · cases hop

/-! ## Invariants -/

/-- Both keys of the table are unique: `request_id` (primary key), `nonce_sha256` (unique index). -/
structure Keys (db : JournalDb) : Prop where
  requestId : (db.map (·.requestId)).Nodup
  nonce : (db.map (·.nonceSha256)).Nodup

/-- A completed row holds its response, the digest of it, and a response about this request. -/
def Cached (c : Codec) (db : JournalDb) : Prop :=
  ∀ row ∈ db, row.state = .completed → ∃ b, row.responseBytes = some b ∧
    row.responseSha256 = some (c.sha256 b) ∧ c.responseCorrelationId b = some row.firstCorrelationId

/-- Row `n` of `db` is still row `n` of `db'`, and `Evolves` says what became of it. -/
def Below (db db' : JournalDb) : Prop :=
  ∀ (n : Nat) (r : ReplayRow), db[n]? = some r → ∃ r', db'[n]? = some r' ∧ Evolves r r'

theorem Keys.eq_of_mem {db : JournalDb} (hk : Keys db) {r s : ReplayRow} (hr : r ∈ db) (hs : s ∈ db)
    (h : r.requestId = s.requestId ∨ r.nonceSha256 = s.nonceSha256) : r = s :=
  h.elim (List.inj_on_of_nodup_map hk.requestId hr hs) (List.inj_on_of_nodup_map hk.nonce hr hs)

theorem Keys.nil : Keys [] := ⟨by simp, by simp⟩

theorem Keys.map {db : JournalDb} (hk : Keys db) {f : ReplayRow → ReplayRow}
    (hid : ∀ r, (f r).requestId = r.requestId) (hn : ∀ r, (f r).nonceSha256 = r.nonceSha256) :
    Keys (db.map f) := by
  refine ⟨?_, ?_⟩
  · rw [List.map_map, show (·.requestId) ∘ f = (·.requestId) from funext hid]
    exact hk.requestId
  · rw [List.map_map, show (·.nonceSha256) ∘ f = (·.nonceSha256) from funext hn]
    exact hk.nonce

theorem Keys.snoc {db : JournalDb} (hk : Keys db) {r : ReplayRow}
    (hfresh : ∀ s ∈ db, s.requestId ≠ r.requestId ∧ s.nonceSha256 ≠ r.nonceSha256) :
    Keys (db ++ [r]) := by
  refine ⟨?_, ?_⟩
  · rw [List.map_append, List.nodup_append]
    refine ⟨hk.requestId, by simp, ?_⟩
    simpa using fun s hs => (hfresh s hs).1
  · rw [List.map_append, List.nodup_append]
    refine ⟨hk.nonce, by simp, ?_⟩
    simpa using fun s hs => (hfresh s hs).2

@[simp] theorem completeWith_requestId (r : ReplayRow) (t : String) (b : Bytes) (d : String) :
    (r.completeWith t b d).requestId = r.requestId := rfl

@[simp] theorem completeWith_nonceSha256 (r : ReplayRow) (t : String) (b : Bytes) (d : String) :
    (r.completeWith t b d).nonceSha256 = r.nonceSha256 := rfl

@[simp] theorem abandon_requestId (r : ReplayRow) (t : String) : (r.abandon t).requestId = r.requestId := rfl

@[simp] theorem abandon_nonceSha256 (r : ReplayRow) (t : String) :
    (r.abandon t).nonceSha256 = r.nonceSha256 := rfl

theorem step_keys (c : Codec) (db : JournalDb) (op : Op) (hk : Keys db) : Keys (step c db op).2 := by
  rcases step_cases c db op with ⟨hdb, -⟩ | ⟨gen, r, token, t, fault, -, hdb, hfresh⟩ |
    ⟨gen, cl, response, t, fault, row, -, -, -, -, -, -, hdb⟩ | ⟨gen, abandoned, t, fault, -, hdb⟩
  · rwa [hdb]
  · rw [hdb]
    exact hk.snoc hfresh
  · rw [hdb]
    exact hk.map (fun r => by split <;> rfl) (fun r => by split <;> rfl)
  · rw [hdb]
    exact hk.map (fun r => by split <;> rfl) (fun r => by split <;> rfl)

theorem step_cached (c : Codec) (db : JournalDb) (op : Op) (hk : Keys db) (hc : Cached c db) :
    Cached c (step c db op).2 := by
  intro s hs hst
  rcases step_cases c db op with ⟨hdb, -⟩ | ⟨gen, r, token, t, fault, -, hdb, hfresh⟩ |
    ⟨gen, cl, response, t, fault, row, -, hrow, hid, -, hd, -, hdb⟩ | ⟨gen, abandoned, t, fault, -, hdb⟩
  · exact hc s (hdb ▸ hs) hst
  · rw [hdb, List.mem_append, List.mem_singleton] at hs
    rcases hs with hs | rfl
    · exact hc s hs hst
    · cases hst
  · rw [hdb, List.mem_map] at hs
    obtain ⟨r, hr, rfl⟩ := hs
    by_cases hq : (r.requestId == cl.requestId) = true
    · obtain rfl : r = row := hk.eq_of_mem hr hrow (.inl (by simpa [hid] using hq))
      rw [if_pos hq]
      exact ⟨response, rfl, rfl, hd⟩
    · rw [if_neg hq] at hst ⊢
      exact hc r hr hst
  · rw [hdb, List.mem_map] at hs
    obtain ⟨r, hr, rfl⟩ := hs
    by_cases hsel : (r.state == .inProgress && r.serviceGenerationId == abandoned) = true
    · rw [if_pos hsel] at hst
      cases hst
    · rw [if_neg hsel] at hst ⊢
      exact hc r hr hst

/-! ### Rows over time -/

theorem Evolves.refl (r : ReplayRow) : Evolves r r := .inl rfl

/-- The end of an in-progress row is final. -/
theorem Evolves.eq_of_final {r r' : ReplayRow} (h : Evolves r r') (hf : r.state ≠ .inProgress) :
    r' = r :=
  h.elim id fun h => absurd h.1 hf

theorem Evolves.trans {r s t : ReplayRow} (h₁ : Evolves r s) (h₂ : Evolves s t) : Evolves r t := by
  rcases h₁ with rfl | ⟨hr, h⟩
  · exact h₂
  · have hs : s.state ≠ .inProgress := by
      rcases h with ⟨_, _, _, rfl⟩ | ⟨_, rfl⟩
      · simp [ReplayRow.completeWith]
      · simp [ReplayRow.abandon]
    rw [h₂.eq_of_final hs]
    exact .inr ⟨hr, h⟩

/-- What a row says about its request never changes. -/
theorem Evolves.evidence {r r' : ReplayRow} (h : Evolves r r') :
    rowEvidence r' = rowEvidence r ∧ r'.firstCorrelationId = r.firstCorrelationId := by
  rcases h with rfl | ⟨-, ⟨_, _, _, rfl⟩ | ⟨_, rfl⟩⟩
  · exact ⟨rfl, rfl⟩
  · exact ⟨rfl, rfl⟩
  · exact ⟨rfl, rfl⟩

theorem Evolves.requestId {r r' : ReplayRow} (h : Evolves r r') : r'.requestId = r.requestId :=
  congrArg Evidence.requestId h.evidence.1

theorem Evolves.nonce {r r' : ReplayRow} (h : Evolves r r') : r'.nonceSha256 = r.nonceSha256 :=
  congrArg Evidence.nonceSha256 h.evidence.1

theorem Below.refl (db : JournalDb) : Below db db := fun _ r h => ⟨r, h, .refl r⟩

theorem Below.trans {a b d : JournalDb} (h₁ : Below a b) (h₂ : Below b d) : Below a d := by
  intro n r h
  obtain ⟨s, hs, hrs⟩ := h₁ n r h
  obtain ⟨t, ht, hst⟩ := h₂ n s hs
  exact ⟨t, ht, hrs.trans hst⟩

theorem Below.map {db : JournalDb} {f : ReplayRow → ReplayRow} (h : ∀ r ∈ db, Evolves r (f r)) :
    Below db (db.map f) :=
  fun n r hn => ⟨f r, by rw [List.getElem?_map, hn]; rfl, h r (List.mem_of_getElem? hn)⟩

theorem Below.mem {db db' : JournalDb} (h : Below db db') {r : ReplayRow} (hr : r ∈ db) :
    ∃ r' ∈ db', Evolves r r' := by
  obtain ⟨n, hn⟩ := List.mem_iff_getElem?.1 hr
  obtain ⟨r', hn', he⟩ := h n r hn
  exact ⟨r', List.mem_of_getElem? hn', he⟩

theorem step_below (c : Codec) (db : JournalDb) (op : Op) (hk : Keys db) : Below db (step c db op).2 := by
  rcases step_cases c db op with ⟨hdb, -⟩ | ⟨gen, r, token, t, fault, -, hdb, -⟩ |
    ⟨gen, cl, response, t, fault, row, -, hrow, hid, hst, -, -, hdb⟩ | ⟨gen, abandoned, t, fault, -, hdb⟩
  · rw [hdb]
    exact .refl db
  · rw [hdb]
    exact fun n s hn => ⟨s, by rw [List.getElem?_append_left (List.getElem?_eq_some_iff.1 hn).1, hn], .refl s⟩
  · rw [hdb]
    refine .map fun r hr => ?_
    split
    · rename_i heq
      obtain rfl : r = row := hk.eq_of_mem hr hrow (.inl (by simpa [hid] using heq))
      exact .inr ⟨hst, .inl ⟨_, _, _, rfl⟩⟩
    · exact .refl r
  · rw [hdb]
    refine .map fun r _ => ?_
    split
    · rename_i hc
      simp only [Bool.and_eq_true, beq_iff_eq] at hc
      exact .inr ⟨hc.1, .inr ⟨_, rfl⟩⟩
    · exact .refl r

/-! ### A claim on a completed row -/

theorem existingRows_eq {db : JournalDb} (hk : Keys db) {row : ReplayRow} (hm : row ∈ db)
    {r : ValidatedAdmissionRecord} (hq : row.requestId = r.requestId)
    (hn : row.nonceSha256 = r.nonceSha256) : existingRows db r = [row] := by
  have hnd : (existingRows db r).Nodup := (List.Nodup.of_map _ hk.requestId).filter _
  refine List.perm_singleton.1 ((List.perm_ext_iff_of_nodup hnd (List.nodup_singleton row)).2 fun s => ?_)
  rw [mem_existingRows, List.mem_singleton]
  constructor
  · rintro ⟨hs, h⟩
    exact hk.eq_of_mem hs hm (h.imp (·.trans hq.symm) (·.trans hn.symm))
  · rintro rfl
    exact ⟨hm, .inl hq⟩

theorem claimTx_completed {c : Codec} {db : JournalDb} (hk : Keys db) (hc : Cached c db)
    {row : ReplayRow} (hm : row ∈ db) (hst : row.state = .completed) {b : Bytes}
    (hb : row.responseBytes = some b) {r : ValidatedAdmissionRecord}
    (hev : rowEvidence row = recordEvidence c r) (gen : Generation) (token : String) (t : DateTime) :
    claimTx c gen r token t db =
      .ok (⟨.completed, .requestCompleted, none, some b, row.firstCorrelationId⟩, db) := by
  obtain ⟨b', hb', hd, hcid⟩ := hc row hm hst
  obtain rfl : b' = b := by simpa [hb] using hb'.symm
  have hrows : existingRows db r = [row] :=
    existingRows_eq hk hm (congrArg Evidence.requestId hev) (congrArg Evidence.nonceSha256 hev)
  simp [claimTx, hrows, hev, replayDisposition, hst, completedResponse, hb, hd, hcid]

/-! ## Runs from a fresh table -/

section
variable (c : Codec) (is : List Op)

/-- The table before call `k` of the run. -/
def tableAt (k : Nat) : JournalDb := stateAt (step c) [] is k

theorem tableAt_keys (k : Nat) : Keys (tableAt c is k) :=
  stateAt_inv (step_keys c) Keys.nil k

theorem tableAt_cached (k : Nat) : Cached c (tableAt c is k) :=
  (stateAt_inv (I := fun db => Keys db ∧ Cached c db)
    (fun db op h => ⟨step_keys c db op h.1, step_cached c db op h.1 h.2⟩)
    ⟨Keys.nil, by simp [Cached]⟩ k).2

theorem tableAt_below {k l : Nat} (h : k ≤ l) : Below (tableAt c is k) (tableAt c is l) :=
  stateAt_rel (step_keys c) Keys.nil Below.refl (fun _ _ _ => Below.trans) (step_below c) h

variable {c is}

/-- After a grant, and for ever, a row holds the evidence of the record. -/
theorem row_of_granted {k l : Nat} {db db' : JournalDb} {op : Op} {o : Reply}
    {r : ValidatedAdmissionRecord} (h : Happens (step c) [] is k db op o db') (hg : Granted r op o)
    (hkl : k < l) : ∃ row ∈ tableAt c is l, rowEvidence row = recordEvidence c r := by
  obtain ⟨gen, token, t, hdb, -⟩ := step_granted (h.reply.symm ▸ hg)
  have hm : newRow c gen r token t ∈ tableAt c is (k + 1) := by
    rw [tableAt, ← h.succ, ← h.after, hdb]
    simp
  obtain ⟨row, hrow, he⟩ := (tableAt_below c is (Nat.succ_le_of_lt hkl)).mem hm
  exact ⟨row, hrow, he.evidence.1⟩

theorem granted_lt {k l : Nat} {db db' eb eb' : JournalDb} {op op' : Op} {o o' : Reply}
    {r r' : ValidatedAdmissionRecord} (h : Happens (step c) [] is k db op o db')
    (h' : Happens (step c) [] is l eb op' o' eb') (hg : Granted r op o) (hg' : Granted r' op' o')
    (hkey : r.requestId = r'.requestId ∨ r.nonceSha256 = r'.nonceSha256) : ¬ k < l := by
  intro hlt
  obtain ⟨row, hrow, hev⟩ := row_of_granted h hg hlt
  obtain ⟨-, -, -, -, hfresh⟩ := step_granted (h'.reply.symm ▸ hg')
  have hq : row.requestId = r.requestId := congrArg Evidence.requestId hev
  have hn : row.nonceSha256 = r.nonceSha256 := congrArg Evidence.nonceSha256 hev
  have hrow' := hfresh row (h'.before.symm ▸ hrow)
  exact hkey.elim (fun e => hrow'.1 (hq.trans e)) (fun e => hrow'.2 (hn.trans e))

/-- After a completion, and for ever, the row holds the response. -/
theorem row_of_completed {k l : Nat} {db db' : JournalDb} {op : Op} {o : Reply} {q : String} {b : Bytes}
    (h : Happens (step c) [] is k db op o db') (hg : Completed q b op o) (hkl : k < l) :
    ∃ row ∈ db, row.requestId = q ∧ row.state = .inProgress ∧
      ∃ row' ∈ tableAt c is l, rowEvidence row' = rowEvidence row ∧ row'.state = .completed ∧
        row'.responseBytes = some b := by
  obtain ⟨row, hm, hq, hst, -, t, hdb⟩ := step_completed (h.reply.symm ▸ hg)
  have hm' : row.completeWith t b (c.sha256 b) ∈ tableAt c is (k + 1) := by
    rw [tableAt, ← h.succ, ← h.after, hdb, List.mem_map]
    exact ⟨row, hm, by simp [hq]⟩
  obtain ⟨row', hrow', he⟩ := (tableAt_below c is (Nat.succ_le_of_lt hkl)).mem hm'
  obtain rfl := he.eq_of_final (by simp [ReplayRow.completeWith])
  exact ⟨row, hm, hq, hst, _, hrow', rfl, rfl, rfl⟩

theorem completed_lt {k l : Nat} {db db' eb eb' : JournalDb} {op op' : Op} {o o' : Reply}
    {q q' : String} {b b' : Bytes} (h : Happens (step c) [] is k db op o db')
    (h' : Happens (step c) [] is l eb op' o' eb') (hg : Completed q b op o) (hg' : Completed q' b' op' o')
    (hkey : q = q' ∨ ∃ row ∈ db, ∃ row' ∈ eb, row.requestId = q ∧ row'.requestId = q' ∧
      row.nonceSha256 = row'.nonceSha256) : ¬ k < l := by
  intro hlt
  have hkdb : Keys db := h.before ▸ tableAt_keys c is k
  have hkeb : Keys eb := h'.before ▸ tableAt_keys c is l
  obtain ⟨row, hm, hq, -, done, hdone, hev, hst, -⟩ := row_of_completed h hg hlt
  obtain ⟨live, hlive, hq', hin, -, -⟩ := step_completed (h'.reply.symm ▸ hg')
  -- the finished row and the live row share a key, so they are one row
  have hsame : done = live := by
    refine hkeb.eq_of_mem (h'.before.symm ▸ hdone) hlive ?_
    have hid : done.requestId = row.requestId := congrArg Evidence.requestId hev
    have hnn : done.nonceSha256 = row.nonceSha256 := congrArg Evidence.nonceSha256 hev
    rcases hkey with rfl | ⟨r₁, h₁, r₂, h₂, e₁, e₂, e₃⟩
    · exact .inl (by rw [hid, hq, hq'])
    · obtain rfl := hkdb.eq_of_mem h₁ hm (.inl (e₁.trans hq.symm))
      obtain rfl := hkeb.eq_of_mem h₂ hlive (.inl (e₂.trans hq'.symm))
      exact .inr (hnn.trans e₃)
  rw [hsame, hin] at hst
  cases hst

end

/-- **Exactly-once claiming.** In every interleaving of calls from a fresh table: one grant and one
completion per request id and per nonce, rows that only move from `in_progress` to an end, and every
claim with the evidence of a completed request answered with the bytes of that completion (unless
the database itself fails the call). -/
theorem claims_exactly_once (c : Codec) (is : List Op) :
    (∀ k l db db' eb eb' op op' o o', Happens (step c) [] is k db op o db' →
      Happens (step c) [] is l eb op' o' eb' →
        (∀ r r', Granted r op o → Granted r' op' o' →
          r.requestId = r'.requestId ∨ r.nonceSha256 = r'.nonceSha256 → k = l) ∧
        (∀ q q' b b', Completed q b op o → Completed q' b' op' o' →
          (q = q' ∨ ∃ row ∈ db, ∃ row' ∈ eb, row.requestId = q ∧ row'.requestId = q' ∧
            row.nonceSha256 = row'.nonceSha256) → k = l)) ∧
    (∀ k l, k ≤ l → ∀ (n : Nat) row, (tableAt c is k)[n]? = some row →
      ∃ row', (tableAt c is l)[n]? = some row' ∧
        (row.state ≠ .inProgress → row' = row) ∧
        (row' = row ∨ row'.state = .completed ∨ row'.state = .outcomeUnknown)) ∧
    (∀ j k l r b gen r' token t fault aj aj' ak ak' al al' oj ok o opj opk,
      Happens (step c) [] is j aj opj oj aj' → Granted r opj oj →
      Happens (step c) [] is k ak opk ok ak' → Completed r.requestId b opk ok →
      Happens (step c) [] is l al (.claim gen r' token (some t) fault) o al' → k < l →
      recordEvidence c r' = recordEvidence c r →
        (∃ cid, o = .claim (.ok ⟨.completed, .requestCompleted, none, some b, cid⟩)) ∨
          fault ≠ DbFault.none ∧ ∃ e, o = .claim (.error e)) := by
  refine ⟨?_, ?_, ?_⟩
  · intro k l db db' eb eb' op op' o o' h h'
    refine ⟨fun r r' hg hg' hkey => ?_, fun q q' b b' hg hg' hkey => ?_⟩
    · have h₁ := granted_lt h h' hg hg' hkey
      have h₂ := granted_lt h' h hg' hg (hkey.imp Eq.symm Eq.symm)
      omega
    · have h₁ := completed_lt h h' hg hg' hkey
      have h₂ := completed_lt h' h hg' hg (hkey.imp Eq.symm fun ⟨r₁, m₁, r₂, m₂, e₁, e₂, e₃⟩ =>
        ⟨r₂, m₂, r₁, m₁, e₂, e₁, e₃.symm⟩)
      omega
  · intro k l hkl n row hn
    obtain ⟨row', hn', he⟩ := tableAt_below c is hkl n row hn
    refine ⟨row', hn', he.eq_of_final, ?_⟩
    rcases he with rfl | ⟨-, ⟨_, _, _, rfl⟩ | ⟨_, rfl⟩⟩
    · exact .inl rfl
    · exact .inr (.inl rfl)
    · exact .inr (.inr rfl)
  · intro j k l r b gen r' token t fault aj aj' ak ak' al al' oj ok o opj opk hj hg hk hcomp hl hkl hev
    obtain ⟨live, hlive, hq, -, done, hdone, hdev, hst, hb⟩ := row_of_completed hk hcomp hkl
    -- the grant came before the completion, so the completed row carries its evidence
    have hjl : j < l := by
      by_contra hge
      obtain ⟨-, -, -, -, hfresh⟩ := step_granted (hj.reply.symm ▸ hg)
      obtain ⟨row, hrow, he⟩ := (tableAt_below c is (by omega : k ≤ j)).mem (hk.before ▸ hlive)
      exact (hfresh row (hj.before.symm ▸ hrow)).1 (he.requestId.trans hq)
    obtain ⟨row, hrow, hrev⟩ := row_of_granted hj hg hjl
    have hq' : done.requestId = row.requestId := by
      rw [show done.requestId = live.requestId from congrArg Evidence.requestId hdev, hq]
      exact (congrArg Evidence.requestId hrev).symm
    obtain rfl := (tableAt_keys c is l).eq_of_mem hdone hrow (.inl hq')
    have htx := claimTx_completed (tableAt_keys c is l) (tableAt_cached c is l) hdone hst hb
      (hrev.trans hev.symm) gen token t
    rw [tableAt, ← hl.before] at htx
    have ho : o = .claim (atomic fault al (claimTx c gen r' token t)).1 := hl.reply.symm
    by_cases hf : fault = DbFault.none
    · rw [hf, atomic_none al _ htx] at ho
      exact .inl ⟨_, ho⟩
    · rcases atomic_cases fault al (claimTx c gen r' token t) with ⟨e, he⟩ | ⟨result, db', hres, he⟩
      · exact .inr ⟨hf, e, by rw [ho, he]⟩
      · rw [htx] at hres
        cases hres
        exact .inl ⟨_, by rw [ho, he]⟩

end ThreatFusion.ReplayJournal
