import ThreatFusion.Correlation.OneIncident
/-
# Corrections over whole runs

Runs of `insert`, `insert_many` and `correct_incident_grouping`, with any incidents and any arguments. The
replay check compares the alert and the actor of a recorded request, not its reason or its new incident
(:1260-1302), and a split into a stored identifier fails in the middle of the transaction with the error of
the primary key.

* `Corrects`: what a correction can do, with its reply.
* `Targets`: every recorded target is stored, is a singleton for corrections, and holds the alert.
* `corrections_iff`: on which runs requests are idempotent and refusals are `CorrelationSafetyError`.
-/
namespace ThreatFusion.Correlation
open Py Alerts Grouping Machine

inductive RepositoryCall where
  | insert (fault : Bool) (incident : IncidentRecord)
  | insertMany (fault : Bool) (incidents : List IncidentRecord)
  | correct (fault : Bool) (q : CorrectionRequest)

inductive RepositoryReply where
  | inserted (result : Except IncidentRepositoryError Unit)
  | corrected (result : Except IncidentRepositoryError (Option IncidentRecord))

/-- `insert` (:953-1006). -/
def insert (fault : Bool) (incident : IncidentRecord) (db : IncidentDb) :
    Except IncidentRepositoryError Unit × IncidentDb :=
  transaction fault db ((insertIncident db incident).map fun db' => ((), db'))

def repositoryStep (sha256 : Bytes → String) (db : IncidentDb) : RepositoryCall → RepositoryReply × IncidentDb
  | .insert fault incident => (.inserted (insert fault incident db).1, (insert fault incident db).2)
  | .insertMany fault incidents => (.inserted (insertMany fault incidents db).1, (insertMany fault incidents db).2)
  | .correct fault q =>
    (.corrected (correctIncidentGrouping sha256 fault q db).1, (correctIncidentGrouping sha256 fault q db).2)

/-- The incidents that a call inserts. -/
def RepositoryCall.incidents : RepositoryCall → List IncidentRecord
  | .insert _ incident => [incident]
  | .insertMany _ incidents => incidents
  | .correct .. => []

/-! ## What a split writes -/

/-- The row of the new incident: the aggregates are those of the old one. -/
def splitRow (q : CorrectionRequest) (original : IncidentRow) (target : String) : IncidentRow :=
  { schemaVersion := INCIDENT_SCHEMA_VERSION, incidentId := target
    correlationMode := .manualCorrectionSplit, windowType := .manual
    correlationRuleId := .manualCorrectionSplit, entityNamespaceId := original.entityNamespaceId
    constituentAlertCount := 1, maxProbabilityScore := original.maxProbabilityScore
    escalatedDecision := original.escalatedDecision, earliestObservedAt := original.earliestObservedAt
    latestObservedAt := original.latestObservedAt, provenanceStatus := "manual_corrected"
    createdAt := q.now }

def splitJustification (q : CorrectionRequest) : MemberJustification :=
  { anchorAlertId := q.alertCandidateId, deltaSeconds := 0, matchedRelationshipKey := "manual_split"
    ruleId := .manualCorrectionSplit
    provenanceSummary := "manual_split by actor=" ++ q.actorId ++ ": " ++ q.reason }

/-- `constituent_alert_count - 1` for the old incident. -/
def counted (incidentId : String) (row : IncidentRow) : IncidentRow :=
  if row.incidentId = incidentId then { row with constituentAlertCount := row.constituentAlertCount - 1 } else row

@[simp] theorem counted_incidentId (incidentId : String) (row : IncidentRow) :
    (counted incidentId row).incidentId = row.incidentId := by
  unfold counted
  split <;> rfl

/-- The constituents that a split keeps. -/
def keptRows (q : CorrectionRequest) (incidentId : String) (db : IncidentDb) : List ConstituentRow :=
  db.constituents.filter fun c => !(c.incidentId == incidentId && c.alertCandidateId == q.alertCandidateId)

/-- The tables after a split. -/
def splitDb (q : CorrectionRequest) (original : IncidentRow) (target : String) (db : IncidentDb) : IncidentDb where
  incidents := db.incidents.map (counted original.incidentId) ++ [splitRow q original target]
  constituents := keptRows q original.incidentId db ++ [⟨target, q.alertCandidateId, some (splitJustification q)⟩]
  corrections := db.corrections ++ [q.row original.incidentId target]

/-- The request splits the alert off `original`: it is new, and `original` is the row found, with more than
one member. -/
structure Splits (db : IncidentDb) (q : CorrectionRequest) (original : IncidentRow) : Prop where
  unrecorded : db.corrections.find? (fun r => r.correctionRequestId = q.correctionRequestId) = none
  found : fetchOne q.choice (currentIncidents db q.alertCandidateId) = some original
  several : 1 < original.constituentAlertCount

/-- The same call again; the clock and the row SQLite sees first may differ. -/
structure CorrectionRequest.Same (q q' : CorrectionRequest) : Prop where
  alert : q.alertCandidateId = q'.alertCandidateId
  newIncident : q.newIncidentId = q'.newIncidentId
  actor : q.actorId = q'.actorId
  reason : q.reason = q'.reason
  requestId : q.correctionRequestId = q'.correctionRequestId

/-- The foreign key, and the primary key of `incidents`. -/
structure Keyed (db : IncidentDb) : Prop where
  incidentKeys : (db.incidents.map (·.incidentId)).Nodup
  owned : ∀ c ∈ db.constituents, c.incidentId ∈ db.incidents.map (·.incidentId)

theorem splitTx_eq {sha256 : Bytes → String} {q : CorrectionRequest} {original : IncidentRow} {db : IncidentDb}
    (hkeyed : Keyed db) : splitTx sha256 q original db =
      if db.stored (q.target sha256) = true then .error .sqlite
      else .ok (.recorded (q.target sha256), splitDb q original (q.target sha256) db) := by
  unfold splitTx
  by_cases hst : db.stored (q.target sha256) = true
  · simp only [hst, if_true]
  · simp only [hst, Bool.false_eq_true, if_false]
    have hnone : ¬ (keptRows q original.incidentId db).any
        (fun c => c.incidentId == q.target sha256 && c.alertCandidateId == q.alertCandidateId) = true := by
      intro hany
      obtain ⟨c, hc, hkey⟩ := List.any_eq_true.1 hany
      rw [Bool.and_eq_true, beq_iff_eq] at hkey
      exact hst (stored_iff.2 (hkey.1 ▸ hkeyed.owned c (List.mem_filter.1 hc).1))
    unfold keptRows at hnone
    simp only [IncidentDb.insertConstituent, if_neg hnone]
    rfl

/-- What a correction that passes its argument checks and meets no SQLite failure does: its reply and the
tables. -/
inductive Corrects (sha256 : Bytes → String) (q : CorrectionRequest) (db : IncidentDb) :
    Except IncidentRepositoryError Correction → IncidentDb → Prop where
  | replayed (old : CorrectionRow)
    (hold : db.corrections.find? (fun r => r.correctionRequestId = q.correctionRequestId) = some old)
    (hsame : old.alertCandidateId = q.alertCandidateId ∧ old.actorId = q.actorId ∧ db.stored old.targetIncidentId) :
    Corrects sha256 q db (.ok (.replayed old.targetIncidentId)) db
  | conflict (old : CorrectionRow)
    (hold : db.corrections.find? (fun r => r.correctionRequestId = q.correctionRequestId) = some old)
    (hdiffers : ¬ (old.alertCandidateId = q.alertCandidateId ∧ old.actorId = q.actorId ∧
      db.stored old.targetIncidentId)) :
    Corrects sha256 q db (.error .correctionRequestConflict) db
  | notFound (hnew : db.corrections.find? (fun r => r.correctionRequestId = q.correctionRequestId) = none)
    (hnone : fetchOne q.choice (currentIncidents db q.alertCandidateId) = none) :
    Corrects sha256 q db (.error .alertNotFound) db
  | singleton (original : IncidentRow)
    (hnew : db.corrections.find? (fun r => r.correctionRequestId = q.correctionRequestId) = none)
    (hfound : fetchOne q.choice (currentIncidents db q.alertCandidateId) = some original)
    (hone : original.constituentAlertCount ≤ 1) :
    Corrects sha256 q db (.ok (.recorded original.incidentId))
      { db with corrections := db.corrections ++ [q.row original.incidentId original.incidentId] }
  | taken (original : IncidentRow) (hsplits : Splits db q original) (hst : db.stored (q.target sha256) = true) :
    Corrects sha256 q db (.error .sqlite) db
  | split (original : IncidentRow) (hsplits : Splits db q original) (hst : ¬ db.stored (q.target sha256) = true) :
    Corrects sha256 q db (.ok (.recorded (q.target sha256))) (splitDb q original (q.target sha256) db)

/-- The transaction, with a failed one rolled back. -/
def committed (db : IncidentDb) : Except IncidentRepositoryError (Correction × IncidentDb) →
    Except IncidentRepositoryError Correction × IncidentDb
  | .ok (outcome, db') => (.ok outcome, db')
  | .error e => (.error e, db)

theorem corrects (sha256 : Bytes → String) (q : CorrectionRequest) {db : IncidentDb} (hkeyed : Keyed db) :
    Corrects sha256 q db (committed db (correctionTx sha256 q db)).1 (committed db (correctionTx sha256 q db)).2 := by
  unfold correctionTx
  cases hold : db.corrections.find? (fun r => r.correctionRequestId = q.correctionRequestId) with
  | some old =>
    by_cases hsame : old.alertCandidateId = q.alertCandidateId ∧ old.actorId = q.actorId ∧
        db.stored old.targetIncidentId = true
    · simp only [if_pos hsame]
      exact .replayed old hold hsame
    · simp only [if_neg hsame]
      exact .conflict old hold hsame
  | none =>
    cases hfound : fetchOne q.choice (currentIncidents db q.alertCandidateId) with
    | none => exact .notFound hold hfound
    | some original =>
      by_cases hone : original.constituentAlertCount ≤ 1
      · simp only [if_pos hone]
        exact .singleton original hold hfound hone
      · have hsplits : Splits db q original := ⟨hold, hfound, Nat.lt_of_not_le hone⟩
        simp only [if_neg hone, splitTx_eq hkeyed]
        by_cases hst : db.stored (q.target sha256) = true
        · rw [if_pos hst]
          exact .taken original hsplits hst
        · rw [if_neg hst]
          exact .split original hsplits hst

/-- The call: a refusal of its arguments, a failure of SQLite, or the transaction. -/
theorem correctIncidentGrouping_cases (sha256 : Bytes → String) (fault : Bool) (q : CorrectionRequest)
    (db : IncidentDb) :
    (∃ e, q.check = .error e ∧ correctIncidentGrouping sha256 fault q db = (.error e, db)) ∨
    (q.check = .ok () ∧ fault = true ∧ correctIncidentGrouping sha256 fault q db = (.error .sqlite, db)) ∨
    (q.check = .ok () ∧ fault = false ∧ correctIncidentGrouping sha256 fault q db =
      ((committed db (correctionTx sha256 q db)).1.map (Correction.incident (committed db (correctionTx sha256 q db)).2),
        (committed db (correctionTx sha256 q db)).2)) := by
  unfold correctIncidentGrouping
  cases hcheck : q.check with
  | error e => exact .inl ⟨e, rfl, rfl⟩
  | ok u =>
    right
    cases fault with
    | true => exact .inl ⟨rfl, rfl, rfl⟩
    | false =>
      refine .inr ⟨rfl, rfl, ?_⟩
      rcases correctionTx sha256 q db with e | ⟨outcome, db'⟩ <;> rfl

theorem check_safety {q : CorrectionRequest} {e : IncidentRepositoryError} (h : q.check = .error e) :
    e ≠ .sqlite := by
  unfold CorrectionRequest.check at h
  rintro rfl
  split at h
  · cases h
  split at h
  · cases h
  split at h
  · cases h
  split at h <;> cases h

/-! ## The tables of a run -/

/-- The keys of the three tables, and what the replay of a recorded request relies on. -/
structure Targets (db : IncidentDb) : Prop extends Keyed db where
  requestKeys : (db.corrections.map (·.correctionRequestId)).Nodup
  /-- the target of a recorded request is stored, cannot be split, and holds the alert -/
  held : ∀ row ∈ db.corrections, ∃ inc ∈ db.incidents, inc.incidentId = row.targetIncidentId ∧
    inc.constituentAlertCount ≤ 1 ∧
    ∃ c ∈ db.constituents, c.incidentId = row.targetIncidentId ∧ c.alertCandidateId = row.alertCandidateId

theorem insertIncident_eq {inc : IncidentRecord} {db db' : IncidentDb} (h : insertIncident db inc = .ok db') :
    db' = db ∨ ¬ db.stored inc.incidentId = true ∧ db' = { db with
      incidents := db.incidents ++ [inc.toIncidentRow]
      constituents := db.constituents ++ inc.constituentAlertIds.map (constituentRow inc) } := by
  unfold insertIncident at h
  by_cases hst : db.stored inc.incidentId = true
  · rw [if_pos hst] at h
    cases h
    exact .inl rfl
  · rw [if_neg hst] at h
    exact .inr ⟨hst, insertConstituents_ok h⟩

theorem nodup_concat_incident {db : IncidentDb} {row : IncidentRow} (hkeys : (db.incidents.map (·.incidentId)).Nodup)
    (hst : ¬ db.stored row.incidentId = true) : ((db.incidents ++ [row]).map (·.incidentId)).Nodup := by
  rw [List.map_append, List.map_singleton, List.nodup_append]
  refine ⟨hkeys, List.nodup_singleton _, fun a ha b hb hab => ?_⟩
  rw [List.mem_singleton.1 hb] at hab
  exact hst (stored_iff.2 (hab ▸ ha))

theorem insertIncident_targets {inc : IncidentRecord} {db db' : IncidentDb} (hdb : Targets db)
    (h : insertIncident db inc = .ok db') : Targets db' := by
  rcases insertIncident_eq h with rfl | ⟨hst, rfl⟩
  · exact hdb
  · refine ⟨⟨nodup_concat_incident hdb.incidentKeys hst, fun c hc => ?_⟩, hdb.requestKeys, fun row hrow => ?_⟩
    · rw [List.map_append, List.mem_append]
      rcases List.mem_append.1 hc with hc | hc
      · exact .inl (hdb.owned c hc)
      · obtain ⟨aid, -, rfl⟩ := List.mem_map.1 hc
        exact .inr List.mem_cons_self
    · obtain ⟨i, hi, hid, hone, c, hc, hkeys⟩ := hdb.held row hrow
      exact ⟨i, List.mem_append_left _ hi, hid, hone, c, List.mem_append_left _ hc, hkeys⟩

theorem insertAll_targets : ∀ {incs : List IncidentRecord} {db db' : IncidentDb}, Targets db →
    insertAll incs db = .ok db' → Targets db' ∧ db'.corrections = db.corrections
  | [], db, db', hdb, h => by
    cases h
    exact ⟨hdb, rfl⟩
  | inc :: rest, db, db', hdb, h => by
    rw [insertAll] at h
    split at h
    · cases h
    · rename_i db₁ hone
      obtain ⟨hdb', hsame⟩ := insertAll_targets (insertIncident_targets hdb hone) h
      refine ⟨hdb', hsame.trans ?_⟩
      rcases insertIncident_eq hone with rfl | ⟨-, rfl⟩ <;> rfl

theorem eq_of_incidentId {db : IncidentDb} (hdb : Keyed db) {a b : IncidentRow} (ha : a ∈ db.incidents)
    (hb : b ∈ db.incidents) (h : a.incidentId = b.incidentId) : a = b :=
  List.inj_on_of_nodup_map hdb.incidentKeys ha hb h

theorem not_recorded {db : IncidentDb} {requestId : String}
    (h : db.corrections.find? (fun r => r.correctionRequestId = requestId) = none) :
    requestId ∉ db.corrections.map (·.correctionRequestId) := by
  intro hmem
  obtain ⟨row, hrow, hid⟩ := List.mem_map.1 hmem
  exact List.find?_eq_none.1 h row hrow (decide_eq_true hid)

theorem requestKeys_concat {db : IncidentDb} {q : CorrectionRequest} {o t : String} (hdb : Targets db)
    (h : db.corrections.find? (fun r => r.correctionRequestId = q.correctionRequestId) = none) :
    ((db.corrections ++ [q.row o t]).map (·.correctionRequestId)).Nodup := by
  rw [List.map_append, List.map_singleton, List.nodup_append]
  refine ⟨hdb.requestKeys, List.nodup_singleton _, fun a ha b hb hab => ?_⟩
  rw [hab, List.mem_singleton.1 hb] at ha
  exact not_recorded h ha

/-- A target is not the incident that a split takes an alert from. -/
theorem held_split {db : IncidentDb} (hdb : Targets db) {q : CorrectionRequest} {original : IncidentRow}
    {target : String} (hsplits : Splits db q original) (hmem : original ∈ db.incidents)
    {row : CorrectionRow} (hrow : row ∈ db.corrections) :
    ∃ inc ∈ (splitDb q original target db).incidents, inc.incidentId = row.targetIncidentId ∧
      inc.constituentAlertCount ≤ 1 ∧ ∃ c ∈ (splitDb q original target db).constituents,
        c.incidentId = row.targetIncidentId ∧ c.alertCandidateId = row.alertCandidateId := by
  obtain ⟨inc, hinc, hid, hone, c, hc, hci, hca⟩ := hdb.held row hrow
  have hother : inc.incidentId ≠ original.incidentId := by
    intro heq
    rw [eq_of_incidentId hdb.toKeyed hinc hmem heq] at hone
    exact absurd hsplits.several (Nat.not_lt.2 hone)
  refine ⟨inc, List.mem_append_left _ (List.mem_map.2 ⟨inc, hinc, if_neg hother⟩), hid, hone, c,
    List.mem_append_left _ (List.mem_filter.2 ⟨hc, ?_⟩), hci, hca⟩
  have hne : (c.incidentId == original.incidentId) = false := beq_eq_false_iff_ne.2 fun h => hother (hid.trans (hci ▸ h))
  simp only [hne, Bool.false_and, Bool.not_false]

theorem corrects_targets {sha256 : Bytes → String} {q : CorrectionRequest} {db db' : IncidentDb}
    {reply : Except IncidentRepositoryError Correction} (hdb : Targets db) (h : Corrects sha256 q db reply db') :
    Targets db' := by
  cases h with
  | replayed => exact hdb
  | conflict => exact hdb
  | notFound => exact hdb
  | taken => exact hdb
  | singleton original hnew hfound hone =>
    refine ⟨⟨hdb.incidentKeys, hdb.owned⟩, requestKeys_concat hdb hnew, fun row hrow => ?_⟩
    rcases List.mem_append.1 hrow with hrow | hrow
    · exact hdb.held row hrow
    · obtain rfl := List.mem_singleton.1 hrow
      obtain ⟨c, hc, hca, hci, hmem⟩ := mem_currentIncidents (fetchOne_mem hfound)
      exact ⟨original, hmem, rfl, hone, c, hc, hci, hca⟩
  | split original hsplits hst =>
    obtain ⟨c, hc, hca, hci, hmem⟩ := mem_currentIncidents (fetchOne_mem hsplits.found)
    refine ⟨⟨?_, fun c' hc' => ?_⟩, requestKeys_concat hdb hsplits.unrecorded, fun row hrow => ?_⟩
    · have hids : (db.incidents.map (counted original.incidentId)).map (·.incidentId) =
          db.incidents.map (·.incidentId) := by
        rw [List.map_map]
        exact List.map_congr_left fun row _ => counted_incidentId _ row
      have hnodup : ((db.incidents ++ [splitRow q original (q.target sha256)]).map (·.incidentId)).Nodup :=
        nodup_concat_incident hdb.incidentKeys hst
      rwa [List.map_append, ← hids, ← List.map_append] at hnodup
    · simp only [splitDb, List.map_append, List.mem_append, List.map_map] at hc' ⊢
      rcases hc' with hc' | hc'
      · left
        obtain ⟨i, hi, hid⟩ := List.mem_map.1 (hdb.owned c' (List.mem_filter.1 hc').1)
        exact List.mem_map.2 ⟨i, hi, (counted_incidentId _ i).trans hid⟩
      · right
        rw [List.mem_singleton.1 hc']
        exact List.mem_cons_self
    · rcases List.mem_append.1 hrow with hrow | hrow
      · exact held_split hdb hsplits hmem hrow
      · obtain rfl := List.mem_singleton.1 hrow
        refine ⟨splitRow q original (q.target sha256), List.mem_append_right _ List.mem_cons_self, rfl, Nat.le_refl 1,
          _, List.mem_append_right _ List.mem_cons_self, rfl, rfl⟩

/-! ## Runs -/

section
variable {sha256 : Bytes → String}

/-- The tables before the `k`-th call. -/
def tablesAt (sha256 : Bytes → String) (calls : List RepositoryCall) (k : Nat) : IncidentDb :=
  stateAt (repositoryStep sha256) {} calls k

/-- What the `k`-th call, a correction, replies. -/
def replyTo (sha256 : Bytes → String) (calls : List RepositoryCall) (k : Nat) (fault : Bool) (q : CorrectionRequest) :
    Except IncidentRepositoryError (Option IncidentRecord) :=
  (correctIncidentGrouping sha256 fault q (tablesAt sha256 calls k)).1

theorem inserted_cases (fault : Bool) (db : IncidentDb) (body : Except IncidentRepositoryError IncidentDb) :
    (transaction fault db (body.map fun db' => ((), db'))).2 = db ∨
    body = .ok (transaction fault db (body.map fun db' => ((), db'))).2 := by
  cases fault with
  | true => exact .inl rfl
  | false => cases body with
    | error e => exact .inl rfl
    | ok db' => exact .inr rfl

theorem Corrects.of_error {q : CorrectionRequest} {db db' : IncidentDb} {e : IncidentRepositoryError}
    (h : Corrects sha256 q db (.error e) db') : db' = db := by
  cases h <;> rfl

/-- **What a call does to the tables**: nothing, the insertion of its incidents, or a correction. -/
theorem repositoryStep_cases (sha256 : Bytes → String) {db : IncidentDb} (hdb : Targets db) (call : RepositoryCall) :
    (repositoryStep sha256 db call).2 = db ∨
    insertAll call.incidents db = .ok (repositoryStep sha256 db call).2 ∨
    ∃ q outcome, call = .correct false q ∧ q.check = .ok () ∧
      Corrects sha256 q db (.ok outcome) (repositoryStep sha256 db call).2 := by
  cases call with
  | insert fault incident =>
    rcases inserted_cases fault db (insertIncident db incident) with h | h
    · exact .inl h
    · refine .inr (.inl ?_)
      change insertAll [incident] db = .ok (insert fault incident db).2
      rw [insertAll, h]
      rfl
  | insertMany fault incidents =>
    rcases inserted_cases fault db (insertAll incidents db) with h | h
    · exact .inl h
    · exact .inr (.inl h)
  | correct fault q =>
    change (correctIncidentGrouping sha256 fault q db).2 = db ∨ _ ∨ _
    rcases correctIncidentGrouping_cases sha256 fault q db with ⟨e, -, h⟩ | ⟨-, -, h⟩ | ⟨hcheck, rfl, h⟩
    · exact .inl (by rw [h])
    · exact .inl (by rw [h])
    · have hcorrects := corrects sha256 q hdb.toKeyed
      cases hreply : (committed db (correctionTx sha256 q db)).1 with
      | error e =>
        rw [hreply] at hcorrects
        rw [h]
        exact .inl hcorrects.of_error
      | ok outcome =>
        refine .inr (.inr ⟨q, outcome, rfl, hcheck, ?_⟩)
        rw [hreply] at hcorrects
        change Corrects sha256 q db (.ok outcome) (correctIncidentGrouping sha256 false q db).2
        rw [h]
        exact hcorrects

theorem step_targets {db : IncidentDb} (hdb : Targets db) (call : RepositoryCall) :
    Targets (repositoryStep sha256 db call).2 := by
  rcases repositoryStep_cases sha256 hdb call with h | h | ⟨q, outcome, -, -, h⟩
  · rw [h]
    exact hdb
  · exact (insertAll_targets hdb h).1
  · exact corrects_targets hdb h

theorem targets_empty : Targets ({} : IncidentDb) :=
  ⟨⟨List.nodup_nil, fun _ h => absurd h List.not_mem_nil⟩, List.nodup_nil, fun _ h => absurd h List.not_mem_nil⟩

theorem targets_at (sha256 : Bytes → String) (calls : List RepositoryCall) (k : Nat) :
    Targets (tablesAt sha256 calls k) :=
  stateAt_inv (I := Targets) (fun _ call h => step_targets h call) targets_empty k

/-- A correction adds the row of its request, or none. -/
theorem Corrects.corrections {q : CorrectionRequest} {db db' : IncidentDb}
    {reply : Except IncidentRepositoryError Correction} (h : Corrects sha256 q db reply db') :
    db' = db ∨ db.corrections.find? (fun r => r.correctionRequestId = q.correctionRequestId) = none ∧
      ∃ o t, db'.corrections = db.corrections ++ [q.row o t] := by
  cases h with
  | singleton original hnew => exact .inr ⟨hnew, _, _, rfl⟩
  | split original hsplits => exact .inr ⟨hsplits.unrecorded, _, _, rfl⟩
  | _ => exact .inl rfl

theorem step_corrections {db : IncidentDb} (hdb : Targets db) (call : RepositoryCall) :
    db.corrections <+: (repositoryStep sha256 db call).2.corrections := by
  rcases repositoryStep_cases sha256 hdb call with h | h | ⟨q, outcome, -, -, h⟩
  · rw [h]
  · rw [(insertAll_targets hdb h).2]
  · rcases h.corrections with h | ⟨-, o, t, h⟩
    · rw [h]
    · rw [h]
      exact List.prefix_append _ _

theorem corrections_at (sha256 : Bytes → String) (calls : List RepositoryCall) {j k : Nat} (hjk : j ≤ k) :
    (tablesAt sha256 calls j).corrections <+: (tablesAt sha256 calls k).corrections :=
  stateAt_rel (I := Targets) (R := fun a b => a.corrections <+: b.corrections) (fun _ call h => step_targets h call)
    targets_empty (fun _ => List.prefix_refl _) (fun _ _ _ => List.IsPrefix.trans)
    (fun _ call h => step_corrections h call) hjk

theorem find_of_prefix {α : Type} {p : α → Bool} {xs ys : List α} {a : α} (h : xs <+: ys)
    (hfind : xs.find? p = some a) : ys.find? p = some a := by
  obtain ⟨zs, rfl⟩ := h
  rw [List.find?_append, hfind]
  rfl

/-- A recorded request stays recorded. -/
theorem find_at (sha256 : Bytes → String) {calls : List RepositoryCall} {j k : Nat} (hjk : j ≤ k)
    {requestId : String} {row : CorrectionRow}
    (h : (tablesAt sha256 calls j).corrections.find? (fun r => r.correctionRequestId = requestId) = some row) :
    (tablesAt sha256 calls k).corrections.find? (fun r => r.correctionRequestId = requestId) = some row :=
  find_of_prefix (corrections_at sha256 calls hjk) h

/-- The `j`-th call recorded the request `q₀` as `row`. -/
structure Records (sha256 : Bytes → String) (calls : List RepositoryCall) (j : Nat) (q₀ : CorrectionRequest)
    (row : CorrectionRow) : Prop where
  call : calls[j]? = some (.correct false q₀)
  check : q₀.check = .ok ()
  unrecorded : (tablesAt sha256 calls j).corrections.find?
    (fun r => r.correctionRequestId = q₀.correctionRequestId) = none
  added : (tablesAt sha256 calls (j + 1)).corrections = (tablesAt sha256 calls j).corrections ++ [row]
  row : ∃ o t, row = q₀.row o t

theorem Records.find {calls : List RepositoryCall} {j k : Nat} {q₀ : CorrectionRequest} {row : CorrectionRow}
    (h : Records sha256 calls j q₀ row) (hjk : j < k) :
    (tablesAt sha256 calls k).corrections.find? (fun r => r.correctionRequestId = q₀.correctionRequestId) = some row := by
  refine find_at sha256 hjk ?_
  obtain ⟨o, t, rfl⟩ := h.row
  rw [h.added, List.find?_append, h.unrecorded]
  simp [CorrectionRequest.row]

/-- Every row of the corrections table was recorded by a call. -/
theorem recorded_at {calls : List RepositoryCall} (k : Nat) {row : CorrectionRow}
    (hrow : row ∈ (tablesAt sha256 calls k).corrections) : ∃ j q₀, j < k ∧ Records sha256 calls j q₀ row := by
  induction k with
  | zero => exact absurd hrow List.not_mem_nil
  | succ k ih =>
    have earlier (h : row ∈ (tablesAt sha256 calls k).corrections) :
        ∃ j q₀, j < k + 1 ∧ Records sha256 calls j q₀ row := by
      obtain ⟨j, q₀, hj, h⟩ := ih h
      exact ⟨j, q₀, Nat.lt_succ_of_lt hj, h⟩
    cases hcall : calls[k]? with
    | none =>
      rw [tablesAt, stateAt_succ_none _ hcall] at hrow
      exact earlier hrow
    | some call =>
      have hsucc : tablesAt sha256 calls (k + 1) = (repositoryStep sha256 (tablesAt sha256 calls k) call).2 :=
        stateAt_succ _ hcall
      rcases repositoryStep_cases sha256 (targets_at sha256 calls k) call with h | h | ⟨q, outcome, rfl, hcheck, h⟩
      · rw [hsucc, h] at hrow
        exact earlier hrow
      · rw [hsucc, (insertAll_targets (targets_at sha256 calls k) h).2] at hrow
        exact earlier hrow
      · rw [← hsucc] at h
        rcases h.corrections with h | ⟨hnew, o, t, h⟩
        · rw [h] at hrow
          exact earlier hrow
        · rw [h] at hrow
          rcases List.mem_append.1 hrow with hrow | hrow
          · exact earlier hrow
          · obtain rfl := List.mem_singleton.1 hrow
            exact ⟨k, q, Nat.lt_succ_self k, hcall, hcheck, hnew, h, o, t, rfl⟩

/-- One call of `correct_incident_grouping` in a run. -/
theorem correct_call (sha256 : Bytes → String) {calls : List RepositoryCall} {k : Nat} {fault : Bool}
    {q : CorrectionRequest} (hcall : calls[k]? = some (.correct fault q)) :
    (∃ e, q.check = .error e ∧ replyTo sha256 calls k fault q = .error e ∧
      tablesAt sha256 calls (k + 1) = tablesAt sha256 calls k) ∨
    (q.check = .ok () ∧ fault = true ∧ replyTo sha256 calls k fault q = .error .sqlite ∧
      tablesAt sha256 calls (k + 1) = tablesAt sha256 calls k) ∨
    (q.check = .ok () ∧ fault = false ∧ ∃ reply,
      Corrects sha256 q (tablesAt sha256 calls k) reply (tablesAt sha256 calls (k + 1)) ∧
      replyTo sha256 calls k fault q = reply.map (Correction.incident (tablesAt sha256 calls (k + 1)))) := by
  have hsucc : tablesAt sha256 calls (k + 1) =
      (correctIncidentGrouping sha256 fault q (tablesAt sha256 calls k)).2 := stateAt_succ _ hcall
  rw [hsucc, replyTo]
  rcases correctIncidentGrouping_cases sha256 fault q (tablesAt sha256 calls k) with
    ⟨e, hcheck, h⟩ | ⟨hcheck, hfault, h⟩ | ⟨hcheck, hfault, h⟩
  · exact .inl ⟨e, hcheck, by rw [h], by rw [h]⟩
  · exact .inr (.inl ⟨hcheck, hfault, by rw [h], by rw [h]⟩)
  · refine .inr (.inr ⟨hcheck, hfault,
      (committed (tablesAt sha256 calls k) (correctionTx sha256 q (tablesAt sha256 calls k))).1, ?_, ?_⟩)
    · rw [h]
      exact corrects sha256 q (targets_at sha256 calls k).toKeyed
    · rw [h]

/-- The incident that a correction is about. -/
def Correction.target : Correction → String
  | .replayed target => target
  | .recorded target => target

theorem mem_recordOf {db : IncidentDb} {row : IncidentRow} {c : ConstituentRow} (hc : c ∈ db.constituents)
    (hid : c.incidentId = row.incidentId) : c.alertCandidateId ∈ (recordOf db row).constituentAlertIds := by
  simp only [recordOf, constituentsOf, List.mem_map]
  exact ⟨c, (List.mem_insertionSort _).2 (List.mem_filter.2 ⟨hc, decide_eq_true hid⟩), rfl⟩

/-- The target of a recorded request is returned, and holds the alert. -/
theorem incident_of_recorded {db : IncidentDb} (hdb : Targets db) {row : CorrectionRow} (hrow : row ∈ db.corrections)
    (outcome : Correction) (htarget : outcome.target = row.targetIncidentId) :
    ∃ inc, outcome.incident db = some inc ∧ inc.incidentId = row.targetIncidentId ∧
      row.alertCandidateId ∈ inc.constituentAlertIds := by
  obtain ⟨inc, hinc, hid, -, c, hc, hci, hca⟩ := hdb.held row hrow
  have hfind : db.incidents.find? (fun i => i.incidentId = row.targetIncidentId) = some inc := by
    rw [← hid]
    simpa only [beq_eq_decide] using find?_key hdb.incidentKeys hinc
  have hget : getIncident db outcome.target = some (recordOf db inc) := by
    rw [getIncident, htarget, hfind]
    rfl
  have hmem := mem_recordOf hc (hci.trans hid.symm)
  rw [hca] at hmem
  cases outcome with
  | replayed target => exact ⟨_, congrArg (Option.map _) hget, hid, hmem⟩
  | recorded target => exact ⟨_, hget, hid, hmem⟩

/-- The `j`-th call is a correction with these arguments. -/
abbrev CorrectionAt (calls : List RepositoryCall) (j : Nat) (fault : Bool) (q : CorrectionRequest) : Prop :=
  calls[j]? = some (.correct fault q)

/-- A request identifier that is recorded: the same alert and actor get the recorded target, others a conflict. -/
theorem correct_recorded {calls : List RepositoryCall} {k : Nat} {q : CorrectionRequest} {row : CorrectionRow}
    (hcall : CorrectionAt calls k false q) (hcheck : q.check = .ok ())
    (hrow : (tablesAt sha256 calls k).corrections.find?
      (fun r => r.correctionRequestId = q.correctionRequestId) = some row) :
    (row.alertCandidateId = q.alertCandidateId ∧ row.actorId = q.actorId ∧
      tablesAt sha256 calls (k + 1) = tablesAt sha256 calls k ∧
      ∃ inc, replyTo sha256 calls k false q = .ok (some inc) ∧ inc.incidentId = row.targetIncidentId ∧
        q.alertCandidateId ∈ inc.constituentAlertIds) ∨
    ¬ (row.alertCandidateId = q.alertCandidateId ∧ row.actorId = q.actorId) ∧
      replyTo sha256 calls k false q = .error .correctionRequestConflict := by
  have htargets := targets_at sha256 calls k
  have hmem : row ∈ (tablesAt sha256 calls k).corrections := List.mem_of_find?_eq_some hrow
  rcases correct_call sha256 hcall with ⟨e, he, -⟩ | ⟨-, hfault, -⟩ | ⟨-, -, reply, hcorrects, hreply⟩
  · rw [hcheck] at he
    cases he
  · cases hfault
  · generalize hafter : tablesAt sha256 calls (k + 1) = after at hcorrects hreply
    cases hcorrects with
    | replayed old hold hsame =>
      obtain rfl : old = row := Option.some.inj (hold.symm.trans hrow)
      obtain ⟨inc, hinc, hid, halert⟩ := incident_of_recorded htargets hmem (.replayed _) rfl
      refine .inl ⟨hsame.1, hsame.2.1, rfl, inc, ?_, hid, hsame.1 ▸ halert⟩
      rw [hreply]
      exact congrArg Except.ok hinc
    | conflict old hold hdiffers =>
      obtain rfl : old = row := Option.some.inj (hold.symm.trans hrow)
      refine .inr ⟨fun h => hdiffers ⟨h.1, h.2, ?_⟩, hreply⟩
      obtain ⟨inc, hinc, hid, -⟩ := htargets.held old hmem
      exact stored_iff.2 (List.mem_map.2 ⟨inc, hinc, hid⟩)
    | notFound hnew hnone => rw [hrow] at hnew; cases hnew
    | singleton original hnew hfound hone => rw [hrow] at hnew; cases hnew
    | taken original hsplits hst => rw [hsplits.unrecorded] at hrow; cases hrow
    | split original hsplits hst => rw [hsplits.unrecorded] at hrow; cases hrow

/-- A correction that succeeds leaves its request recorded. -/
theorem correct_ok {calls : List RepositoryCall} {j : Nat} {fault : Bool} {q : CorrectionRequest}
    {first : Option IncidentRecord} (hcall : CorrectionAt calls j fault q)
    (hok : replyTo sha256 calls j fault q = .ok first) :
    q.check = .ok () ∧ ∃ row, (tablesAt sha256 calls (j + 1)).corrections.find?
        (fun r => r.correctionRequestId = q.correctionRequestId) = some row ∧
      row.alertCandidateId = q.alertCandidateId ∧ row.actorId = q.actorId ∧
      first.map (·.incidentId) = some row.targetIncidentId := by
  have htargets := targets_at sha256 calls (j + 1)
  rcases correct_call sha256 hcall with ⟨e, -, he, -⟩ | ⟨-, -, he, -⟩ | ⟨hcheck, -, reply, hcorrects, hreply⟩
  · rw [hok] at he
    cases he
  · rw [hok] at he
    cases he
  · rw [hok] at hreply
    refine ⟨hcheck, ?_⟩
    have recorded {o t : String} {db : IncidentDb} (hnew : db.corrections.find?
          (fun r => r.correctionRequestId = q.correctionRequestId) = none) :
        (db.corrections ++ [q.row o t]).find? (fun r => r.correctionRequestId = q.correctionRequestId) =
          some (q.row o t) := by
      rw [List.find?_append, hnew]
      simp [CorrectionRequest.row]
    generalize tablesAt sha256 calls (j + 1) = after at htargets hcorrects hreply ⊢
    have returned {row : CorrectionRow} (hrow : row ∈ after.corrections) (outcome : Correction)
        (htarget : outcome.target = row.targetIncidentId) (hfirst : first = outcome.incident after) :
        first.map (·.incidentId) = some row.targetIncidentId := by
      obtain ⟨inc, hinc, hid, -⟩ := incident_of_recorded htargets hrow outcome htarget
      rw [hfirst, hinc, Option.map_some, hid]
    cases hcorrects with
    | replayed old hold hsame =>
      exact ⟨old, hold, hsame.1, hsame.2.1,
        returned (List.mem_of_find?_eq_some hold) (.replayed _) rfl (Except.ok.inj hreply)⟩
    | singleton original hnew hfound hone =>
      exact ⟨_, recorded hnew, rfl, rfl,
        returned (List.mem_append_right _ List.mem_cons_self) (.recorded _) rfl (Except.ok.inj hreply)⟩
    | split original hsplits hst =>
      exact ⟨_, recorded hsplits.unrecorded, rfl, rfl,
        returned (List.mem_append_right _ List.mem_cons_self) (.recorded _) rfl (Except.ok.inj hreply)⟩
    | conflict => cases hreply
    | notFound => cases hreply
    | taken => cases hreply

/-- A correction that fails leaves the tables; the raw error comes from SQLite or from a taken identifier. -/
theorem correct_error {calls : List RepositoryCall} {k : Nat} {fault : Bool} {q : CorrectionRequest}
    {e : IncidentRepositoryError} (hcall : CorrectionAt calls k fault q)
    (herror : replyTo sha256 calls k fault q = .error e) :
    tablesAt sha256 calls (k + 1) = tablesAt sha256 calls k ∧
    (e = .sqlite → q.check = .ok () ∧ (fault = true ∨
      ∃ original, Splits (tablesAt sha256 calls k) q original ∧
        (tablesAt sha256 calls k).stored (q.target sha256) = true)) := by
  rcases correct_call sha256 hcall with
    ⟨e', hcheck, he, hsame⟩ | ⟨hcheck, hfault, -, hsame⟩ | ⟨hcheck, -, reply, hcorrects, hreply⟩
  · rw [herror] at he
    cases he
    exact ⟨hsame, fun h => absurd h (check_safety hcheck)⟩
  · exact ⟨hsame, fun _ => ⟨hcheck, .inl hfault⟩⟩
  · rw [herror] at hreply
    cases reply with
    | ok outcome => cases hreply
    | error e' =>
      obtain rfl : e = e' := Except.error.inj hreply
      refine ⟨hcorrects.of_error, ?_⟩
      rintro rfl
      generalize tablesAt sha256 calls (k + 1) = after at hcorrects
      cases hcorrects with
      | taken original hsplits hst => exact ⟨hcheck, .inr ⟨original, hsplits, hst⟩⟩

/-- **One request, one change**: two corrections with one identifier that both change the tables are one call. -/
theorem changes_once {calls : List RepositoryCall} {j k : Nat} {fault fault' : Bool} {q q' : CorrectionRequest}
    (hj : CorrectionAt calls j fault q) (hk : CorrectionAt calls k fault' q')
    (hid : q.correctionRequestId = q'.correctionRequestId)
    (hjchange : tablesAt sha256 calls (j + 1) ≠ tablesAt sha256 calls j)
    (hkchange : tablesAt sha256 calls (k + 1) ≠ tablesAt sha256 calls k) : j = k := by
  have adds {j : Nat} {fault : Bool} {q : CorrectionRequest} (hj : CorrectionAt calls j fault q)
      (hchange : tablesAt sha256 calls (j + 1) ≠ tablesAt sha256 calls j) :
      (tablesAt sha256 calls j).corrections.find? (fun r => r.correctionRequestId = q.correctionRequestId) = none ∧
      ∃ row, (tablesAt sha256 calls (j + 1)).corrections.find?
        (fun r => r.correctionRequestId = q.correctionRequestId) = some row := by
    rcases correct_call sha256 hj with ⟨-, -, -, h⟩ | ⟨-, -, -, h⟩ | ⟨-, -, reply, hcorrects, -⟩
    · exact absurd h hchange
    · exact absurd h hchange
    · obtain ⟨hnew, o, t, hrow⟩ := hcorrects.corrections.resolve_left hchange
      refine ⟨hnew, q.row o t, ?_⟩
      rw [hrow, List.find?_append, hnew]
      simp [CorrectionRequest.row]
  have later {j k : Nat} {fault fault' : Bool} {q q' : CorrectionRequest} (hj : CorrectionAt calls j fault q)
      (hk : CorrectionAt calls k fault' q') (hid : q.correctionRequestId = q'.correctionRequestId)
      (hjchange : tablesAt sha256 calls (j + 1) ≠ tablesAt sha256 calls j)
      (hkchange : tablesAt sha256 calls (k + 1) ≠ tablesAt sha256 calls k) : ¬ j < k := by
    intro hlt
    obtain ⟨-, row, hrow⟩ := adds hj hjchange
    have hfind := find_at sha256 (Nat.succ_le_of_lt hlt) hrow
    rw [hid, (adds hk hkchange).1] at hfind
    cases hfind
  exact Nat.le_antisymm (Nat.not_lt.1 (later hk hj hid.symm hkchange hjchange))
    (Nat.not_lt.1 (later hj hk hid hjchange hkchange))

/-- What callers are promised of the corrections of a run. -/
structure CorrectionsHold (sha256 : Bytes → String) (calls : List RepositoryCall) : Prop where
  /-- a request identifier changes the tables at most once -/
  once : ∀ j k fault fault' q q', CorrectionAt calls j fault q → CorrectionAt calls k fault' q' →
    q.correctionRequestId = q'.correctionRequestId →
    tablesAt sha256 calls (j + 1) ≠ tablesAt sha256 calls j →
    tablesAt sha256 calls (k + 1) ≠ tablesAt sha256 calls k → j = k
  /-- a repeat of a request that succeeded returns its incident, with the alert, and changes nothing -/
  repeated : ∀ j k fault fault' q q' first, j < k → CorrectionAt calls j fault q → CorrectionAt calls k fault' q' →
    q.Same q' → replyTo sha256 calls j fault q = .ok first →
    tablesAt sha256 calls (k + 1) = tablesAt sha256 calls k ∧
    ∃ inc, replyTo sha256 calls k fault' q' = .ok (some inc) ∧ first.map (·.incidentId) = some inc.incidentId ∧
      q.alertCandidateId ∈ inc.constituentAlertIds
  /-- the identifier of a request that succeeded, with another argument, is refused -/
  conflicting : ∀ j k fault fault' q q' first, j < k → CorrectionAt calls j fault q → CorrectionAt calls k fault' q' →
    q.correctionRequestId = q'.correctionRequestId → ¬ q.Same q' → replyTo sha256 calls j fault q = .ok first →
    ∃ e, replyTo sha256 calls k fault' q' = .error e ∧ e ≠ .sqlite
  /-- a call that fails raises `CorrelationSafetyError` and changes nothing -/
  refused : ∀ k fault q e, CorrectionAt calls k fault q → replyTo sha256 calls k fault q = .error e →
    e ≠ .sqlite ∧ tablesAt sha256 calls (k + 1) = tablesAt sha256 calls k

/-- What the run has to grant the `k`-th call, a correction with accepted arguments. -/
structure CallInOrder (sha256 : Bytes → String) (calls : List RepositoryCall) (k : Nat) (fault : Bool)
    (q : CorrectionRequest) : Prop where
  /-- SQLite does not fail -/
  healthy : fault = false
  /-- a split takes an identifier that is not stored -/
  free : ∀ original, Splits (tablesAt sha256 calls k) q original →
    ¬ (tablesAt sha256 calls k).stored (q.target sha256) = true
  /-- who repeats a recorded request for its alert and as its actor repeats its other two arguments -/
  repeats : ∀ j q₀ row, j < k → Records sha256 calls j q₀ row → q₀.correctionRequestId = q.correctionRequestId →
    q₀.alertCandidateId = q.alertCandidateId → q₀.actorId = q.actorId →
    q₀.reason = q.reason ∧ q₀.newIncidentId = q.newIncidentId

theorem Records.ok {calls : List RepositoryCall} {j : Nat} {q₀ : CorrectionRequest} {row : CorrectionRow}
    (h : Records sha256 calls j q₀ row) : ∃ first, replyTo sha256 calls j false q₀ = .ok first := by
  cases hreply : replyTo sha256 calls j false q₀ with
  | ok first => exact ⟨first, rfl⟩
  | error e =>
    have hadded := h.added
    rw [(correct_error h.call hreply).1] at hadded
    exact absurd (List.self_eq_append_right.1 hadded) (List.cons_ne_nil _ _)

theorem correction_taken {calls : List RepositoryCall} {k : Nat} {q : CorrectionRequest} {original : IncidentRow}
    (hcall : CorrectionAt calls k false q) (hcheck : q.check = .ok ())
    (hsplits : Splits (tablesAt sha256 calls k) q original)
    (hst : (tablesAt sha256 calls k).stored (q.target sha256) = true) :
    replyTo sha256 calls k false q = .error .sqlite := by
  rcases correct_call sha256 hcall with ⟨e, he, -⟩ | ⟨-, hfault, -⟩ | ⟨-, -, reply, hcorrects, hreply⟩
  · rw [hcheck] at he
    cases he
  · cases hfault
  · rw [hreply]
    generalize tablesAt sha256 calls (k + 1) = after at hcorrects
    cases hcorrects with
    | taken => rfl
    | replayed old hold hsame => rw [hsplits.unrecorded] at hold; cases hold
    | conflict old hold hdiffers => rw [hsplits.unrecorded] at hold; cases hold
    | notFound hnew hnone => rw [hsplits.found] at hnone; cases hnone
    | singleton original' hnew hfound hone =>
      obtain rfl : original = original' := Option.some.inj (hsplits.found.symm.trans hfound)
      exact absurd hsplits.several (Nat.not_lt.2 hone)
    | split original' hsplits' hst' => exact absurd hst hst'

theorem callInOrder_of_hold {calls : List RepositoryCall} (h : CorrectionsHold sha256 calls) {k : Nat} {fault : Bool}
    {q : CorrectionRequest} (hcall : CorrectionAt calls k fault q) (hcheck : q.check = .ok ()) :
    CallInOrder sha256 calls k fault q := by
  have hhealthy : fault = false := by
    rcases correct_call sha256 hcall with ⟨e, he, -⟩ | ⟨-, -, he, -⟩ | ⟨-, hfault, -⟩
    · rw [hcheck] at he
      cases he
    · exact absurd rfl (h.refused k fault q _ hcall he).1
    · exact hfault
  subst hhealthy
  refine ⟨rfl, fun original hsplits hst => ?_, fun j q₀ row hlt hrecords hid halert hactor => ?_⟩
  · have htaken : replyTo sha256 calls k false q = .error .sqlite := correction_taken hcall hcheck hsplits hst
    exact absurd rfl (h.refused k false q _ hcall htaken).1
  · obtain ⟨first, hfirst⟩ := hrecords.ok
    have hsame : q₀.Same q := by
      by_contra hdiffers
      obtain ⟨e, he, -⟩ := h.conflicting j k false false q₀ q first hlt hrecords.call hcall hid hdiffers hfirst
      have hfind := hrecords.find hlt
      rw [hid] at hfind
      obtain ⟨o, t, rfl⟩ := hrecords.row
      rcases correct_recorded hcall hcheck hfind with ⟨-, -, -, inc, hinc, -⟩ | ⟨hother, -⟩
      · rw [hinc] at he
        cases he
      · exact hother ⟨halert, hactor⟩
    exact ⟨hsame.reason, hsame.newIncident⟩

/-- The calls that succeed under one request identifier pass the recorded request on. -/
theorem recorded_same {calls : List RepositoryCall}
    (h : ∀ k fault q, CorrectionAt calls k fault q → q.check = .ok () → CallInOrder sha256 calls k fault q)
    {j : Nat} {fault : Bool} {q : CorrectionRequest} {first : Option IncidentRecord}
    (hcall : CorrectionAt calls j fault q) (hok : replyTo sha256 calls j fault q = .ok first) :
    ∃ i q₀ row, i ≤ j ∧ Records sha256 calls i q₀ row ∧ q₀.Same q ∧
      row.correctionRequestId = q.correctionRequestId ∧ first.map (·.incidentId) = some row.targetIncidentId := by
  obtain ⟨hcheck, row, hfind, halert, hactor, hfirst⟩ := correct_ok hcall hok
  obtain ⟨i, q₀, hi, hrecords⟩ := recorded_at (j + 1) (List.mem_of_find?_eq_some hfind)
  have hrow : row.correctionRequestId = q.correctionRequestId := by
    simpa using List.find?_some hfind
  refine ⟨i, q₀, row, Nat.le_of_lt_succ hi, hrecords, ?_, hrow, hfirst⟩
  rcases Nat.lt_or_eq_of_le (Nat.le_of_lt_succ hi) with hlt | rfl
  · have hrepeats := (h j fault q hcall hcheck).repeats i q₀ row hlt hrecords
    obtain ⟨o, t, rfl⟩ := hrecords.row
    obtain ⟨hreason, hnew⟩ := hrepeats hrow halert hactor
    exact ⟨halert, hnew, hactor, hreason, hrow⟩
  · have hsame := hrecords.call.symm.trans hcall
    simp only [Option.some.injEq, RepositoryCall.correct.injEq] at hsame
    obtain ⟨-, rfl⟩ := hsame
    exact ⟨rfl, rfl, rfl, rfl, rfl⟩

theorem CorrectionRequest.Same.check {q q' : CorrectionRequest} (h : q.Same q') (hq : q.check = .ok ()) :
    q'.check = .ok () := by
  unfold CorrectionRequest.check at hq ⊢
  rwa [h.alert, h.actor, h.reason, h.requestId] at hq

/-- **Which runs keep the promise on corrections**: those whose calls are all in order. -/
theorem corrections_iff (sha256 : Bytes → String) (calls : List RepositoryCall) :
    CorrectionsHold sha256 calls ↔
      ∀ k fault q, CorrectionAt calls k fault q → q.check = .ok () → CallInOrder sha256 calls k fault q := by
  constructor
  · intro h k fault q hcall hcheck
    exact callInOrder_of_hold h hcall hcheck
  · intro h
    refine ⟨fun j k fault fault' q q' hj hk hid => changes_once hj hk hid, ?_, ?_, ?_⟩
    · intro j k fault fault' q q' first hlt hj hk hsame hfirst
      obtain ⟨i, q₀, row, hij, hrecords, hsame₀, hrow, htarget⟩ := recorded_same h hj hfirst
      have hcheck := hsame.check (correct_ok hj hfirst).1
      obtain rfl := (h k fault' q' hk hcheck).healthy
      have hfind := hrecords.find (Nat.lt_of_le_of_lt hij hlt)
      rw [hsame₀.requestId, hsame.requestId] at hfind
      obtain ⟨o, t, rfl⟩ := hrecords.row
      rcases correct_recorded hk hcheck hfind with ⟨-, -, hnothing, inc, hinc, hid, halert⟩ | ⟨hother, -⟩
      · exact ⟨hnothing, inc, hinc, by rw [htarget, hid], hsame.alert ▸ halert⟩
      · exact absurd ⟨hsame₀.alert.trans hsame.alert, hsame₀.actor.trans hsame.actor⟩ hother
    · intro j k fault fault' q q' first hlt hj hk hid hdiffers hfirst
      obtain ⟨i, q₀, row, hij, hrecords, hsame₀, hrow, htarget⟩ := recorded_same h hj hfirst
      cases hcheck : q'.check with
      | error e =>
        rcases correct_call sha256 hk with ⟨e', he', hreply, -⟩ | ⟨hok, -⟩ | ⟨hok, -⟩
        · exact ⟨e', hreply, check_safety he'⟩
        · rw [hcheck] at hok
          cases hok
        · rw [hcheck] at hok
          cases hok
      | ok u =>
        have horder := h k fault' q' hk hcheck
        obtain rfl := horder.healthy
        have hik := Nat.lt_of_le_of_lt hij hlt
        have hfind := hrecords.find hik
        rw [hsame₀.requestId, hid] at hfind
        have hrepeats := horder.repeats i q₀ row hik hrecords (hsame₀.requestId.trans hid)
        obtain ⟨o, t, rfl⟩ := hrecords.row
        rcases correct_recorded hk hcheck hfind with ⟨halert, hactor, -⟩ | ⟨-, hconflict⟩
        · obtain ⟨hreason, hnew⟩ := hrepeats halert hactor
          exact absurd ⟨hsame₀.alert.symm.trans halert, hsame₀.newIncident.symm.trans hnew,
            hsame₀.actor.symm.trans hactor, hsame₀.reason.symm.trans hreason, hid⟩ hdiffers
        · exact ⟨_, hconflict, by simp⟩
    · intro k fault q e hcall herror
      obtain ⟨hsame, hraw⟩ := correct_error hcall herror
      refine ⟨fun he => ?_, hsame⟩
      obtain ⟨hcheck, hfault | ⟨original, hsplits, hst⟩⟩ := hraw he
      · rw [(h k fault q hcall hcheck).healthy] at hfault
        cases hfault
      · exact (h k fault q hcall hcheck).free original hsplits hst

/-- An incident of one alert. -/
def scanIncident : IncidentRecord where
  schemaVersion := INCIDENT_SCHEMA_VERSION
  incidentId := "inc-scan"
  correlationMode := .singletonVerifiedProvenance
  windowType := .none
  correlationRuleId := .singletonVerified
  entityNamespaceId := none
  constituentAlertCount := 1
  maxProbabilityScore := .finite (9 / 10) "0.9"
  escalatedDecision := "Attack"
  earliestObservedAt := "2026-04-11T06:20:00+00:00"
  latestObservedAt := "2026-04-11T06:20:00+00:00"
  provenanceStatus := "verified_entity_bearing"
  createdAt := "2026-04-11T06:20:05+00:00"
  constituentAlertIds := ["alert-scan"]
  memberJustifications := []

def scanCorrection (reason : String) : CorrectionRequest where
  alertCandidateId := "alert-scan"
  newIncidentId := none
  actorId := "analyst-2"
  reason := reason
  correctionRequestId := "request-9"
  now := "2026-04-11T07:00:00+00:00"
  choice := 0

/-- The request is repeated with another reason: it succeeds. -/
theorem repeat_with_another_reason :
    ¬ ∀ (sha256 : Bytes → String) (calls : List RepositoryCall), CorrectionsHold sha256 calls := by
  intro h
  have hrun := h (fun _ => "") [.insert false scanIncident, .correct false (scanCorrection "unrelated host"),
    .correct false (scanCorrection "duplicate")]
  obtain ⟨e, he, -⟩ := hrun.conflicting 1 2 false false _ _ _ (by decide) rfl rfl rfl
    (fun hsame => absurd hsame.reason (by decide)) rfl
  cases he

end

end ThreatFusion.Correlation
