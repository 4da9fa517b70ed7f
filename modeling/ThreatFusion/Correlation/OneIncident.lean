import ThreatFusion.Correlation.ArrivalOrder
import ThreatFusion.Correlation.Repository
import ThreatFusion.Lib.Machine
/-
# One stored incident per alert

`Assigned db` says that no alert has two constituent rows and that the rows' incidents are there. A
correction keeps it (`splitTx_assigned`): the alert leaves one incident for a new one. `insert_many`
looks only at the incident identifier, so it keeps it when the batch `Fits` the tables: each of its
incidents is stored already, or none of its members is (`insertAll_assigned`).
-/
namespace ThreatFusion.Correlation
open Py Alerts Grouping Machine

/-- Every alert with a constituent row has one, and its incident is stored under one row. -/
structure Assigned (db : IncidentDb) : Prop where
  incidentKeys : (db.incidents.map (·.incidentId)).Nodup
  alertKeys : db.alertIds.Nodup
  owned : ∀ c ∈ db.constituents, c.incidentId ∈ db.incidents.map (·.incidentId)

theorem stored_iff {db : IncidentDb} {incidentId : String} :
    db.stored incidentId = true ↔ incidentId ∈ db.incidents.map (·.incidentId) := by
  simp [IncidentDb.stored]

/-! ## Inserting a batch -/

theorem insertConstituent_ok {db db' : IncidentDb} {row : ConstituentRow}
    (h : db.insertConstituent row = .ok db') :
    db' = { db with constituents := db.constituents ++ [row] } := by
  unfold IncidentDb.insertConstituent at h
  split at h
  · cases h
  · cases h
    rfl

def constituentRow (inc : IncidentRecord) (aid : String) : ConstituentRow :=
  ⟨inc.incidentId, aid, inc.memberJustifications.lookup aid⟩

theorem insertConstituents_ok {inc : IncidentRecord} : ∀ {ids : List String} {db db' : IncidentDb},
    insertConstituents inc ids db = .ok db' →
      db' = { db with constituents := db.constituents ++ ids.map (constituentRow inc) }
  | [], db, db', h => by
    cases h
    simp
  | aid :: rest, db, db', h => by
    rw [insertConstituents] at h
    split at h
    · cases h
    · rename_i db₁ hins
      rw [insertConstituents_ok h, insertConstituent_ok hins]
      simp [constituentRow]

/-- What inserting one incident does. -/
theorem insertIncident_cases {inc : IncidentRecord} {db db' : IncidentDb}
    (h : insertIncident db inc = .ok db') :
    db.stored inc.incidentId = true ∧ db' = db ∨
      inc.incidentId ∉ db.incidents.map (·.incidentId) ∧
        db'.incidents = db.incidents ++ [inc.toIncidentRow] ∧
        db'.constituents = db.constituents ++ inc.constituentAlertIds.map (constituentRow inc) := by
  unfold insertIncident at h
  by_cases hst : db.stored inc.incidentId = true
  · rw [if_pos hst] at h
    cases h
    exact .inl ⟨hst, rfl⟩
  · rw [if_neg hst] at h
    have heq := insertConstituents_ok h
    exact .inr ⟨fun hmem => hst (stored_iff.2 hmem), by rw [heq], by rw [heq]⟩

theorem insertIncident_alertIds {inc : IncidentRecord} {db db' : IncidentDb}
    (h : insertIncident db inc = .ok db') :
    db' = db ∨ db'.alertIds = db.alertIds ++ inc.constituentAlertIds := by
  rcases insertIncident_cases h with ⟨-, rfl⟩ | ⟨-, -, hcons⟩
  · exact .inl rfl
  · right
    rw [IncidentDb.alertIds, hcons, List.map_append, List.map_map]
    simp [IncidentDb.alertIds, constituentRow, Function.comp_def]

theorem insertIncident_assigned {inc : IncidentRecord} {db db' : IncidentDb} (hdb : Assigned db)
    (hnodup : inc.constituentAlertIds.Nodup)
    (hfits : db.stored inc.incidentId = true ∨ ∀ id ∈ inc.constituentAlertIds, id ∉ db.alertIds)
    (h : insertIncident db inc = .ok db') : Assigned db' := by
  have halerts := insertIncident_alertIds h
  rcases insertIncident_cases h with ⟨-, rfl⟩ | ⟨hnew, hinc, hcons⟩
  · exact hdb
  · have hfresh := hfits.resolve_left fun hst => hnew (stored_iff.1 hst)
    refine ⟨?_, ?_, ?_⟩
    · rw [hinc, List.map_append, List.map_singleton, List.nodup_append]
      refine ⟨hdb.incidentKeys, List.nodup_singleton _, fun a ha b hb hab => ?_⟩
      rw [List.mem_singleton.1 hb] at hab
      exact hnew (hab ▸ ha)
    · rcases halerts with rfl | halerts
      · exact hdb.alertKeys
      · rw [halerts, List.nodup_append]
        exact ⟨hdb.alertKeys, hnodup, fun a ha b hb hab => hfresh b hb (hab ▸ ha)⟩
    · intro c hc
      rw [hinc, List.map_append, List.mem_append]
      rw [hcons] at hc
      rcases List.mem_append.1 hc with hc | hc
      · exact .inl (hdb.owned c hc)
      · obtain ⟨aid, -, rfl⟩ := List.mem_map.1 hc
        exact .inr List.mem_cons_self

theorem insertIncident_stored {inc : IncidentRecord} {db db' : IncidentDb} {incidentId : String}
    (h : insertIncident db inc = .ok db') (hst : db.stored incidentId = true) :
    db'.stored incidentId = true := by
  rcases insertIncident_cases h with ⟨-, rfl⟩ | ⟨-, hinc, -⟩
  · exact hst
  · rw [stored_iff, hinc, List.map_append, List.mem_append]
    exact .inl (stored_iff.1 hst)

/-- A batch of disjoint incidents, each stored or new in all its members. -/
theorem insertAll_assigned : ∀ {incs : List IncidentRecord} {db db' : IncidentDb}, Assigned db →
    (incs.flatMap (·.constituentAlertIds)).Nodup →
    (∀ inc ∈ incs, db.stored inc.incidentId = true ∨ ∀ id ∈ inc.constituentAlertIds, id ∉ db.alertIds) →
    insertAll incs db = .ok db' → Assigned db'
  | [], db, db', hdb, _, _, h => by
    cases h
    exact hdb
  | inc :: rest, db, db', hdb, hnodup, hfits, h => by
    rw [List.flatMap_cons] at hnodup
    obtain ⟨hinc, hrest, hdisj⟩ := List.nodup_append.1 hnodup
    rw [insertAll] at h
    split at h
    · cases h
    · rename_i db₁ hone
      have hdb₁ := insertIncident_assigned hdb hinc (hfits inc List.mem_cons_self) hone
      refine insertAll_assigned hdb₁ hrest (fun i hi => ?_) h
      rcases hfits i (List.mem_cons_of_mem _ hi) with hst | hfresh
      · exact .inl (insertIncident_stored hone hst)
      · refine .inr fun id hid hmem => ?_
        -- the members that this incident added belong to no other incident of the batch
        rcases insertIncident_alertIds hone with rfl | halerts
        · exact hfresh id hid hmem
        · rcases List.mem_append.1 (halerts ▸ hmem) with hold | hnew
          · exact hfresh id hid hold
          · exact hdisj id hnew id (List.mem_flatMap.2 ⟨i, hi, hid⟩) rfl

theorem insertAll_alertIds : ∀ {incs : List IncidentRecord} {db db' : IncidentDb},
    insertAll incs db = .ok db' → db.alertIds ⊆ db'.alertIds
  | [], db, db', h => by
    cases h
    exact fun _ hid => hid
  | inc :: rest, db, db', h => by
    rw [insertAll] at h
    split at h
    · cases h
    · rename_i db₁ hone
      refine List.Subset.trans ?_ (insertAll_alertIds h)
      rcases insertIncident_alertIds hone with rfl | halerts
      · exact fun _ hid => hid
      · rw [halerts]
        exact List.subset_append_left _ _

/-! ## Corrections -/

theorem mem_currentIncidents {db : IncidentDb} {aid : String} {row : IncidentRow}
    (h : row ∈ currentIncidents db aid) : ∃ c ∈ db.constituents,
      c.alertCandidateId = aid ∧ c.incidentId = row.incidentId ∧ row ∈ db.incidents := by
  obtain ⟨c, hc, hrow⟩ := List.mem_flatMap.1 h
  rw [List.mem_filter] at hc hrow
  have hkey : row.incidentId = c.incidentId := by simpa using hrow.2
  exact ⟨c, hc.1, by simpa using hc.2, hkey.symm, hrow.1⟩

theorem fetchOne_mem {choice : Nat} {rows : List IncidentRow} {row : IncidentRow}
    (h : fetchOne choice rows = some row) : row ∈ rows := List.mem_of_getElem? h

/-- What a split leaves in the tables. -/
structure SplitResult (q : CorrectionRequest) (original : IncidentRow) (target : String)
    (db db' : IncidentDb) : Prop where
  fresh : target ∉ db.incidents.map (·.incidentId)
  incidents : db'.incidents.map (·.incidentId) = db.incidents.map (·.incidentId) ++ [target]
  constituents : ∃ justification, db'.constituents =
    (db.constituents.filter fun c =>
      !(c.incidentId == original.incidentId && c.alertCandidateId == q.alertCandidateId)) ++
        [⟨target, q.alertCandidateId, justification⟩]
  corrections : db'.corrections = db.corrections ++ [q.row original.incidentId target]

theorem splitTx_cases {sha256 : Bytes → String} {q : CorrectionRequest} {original : IncidentRow}
    {db db' : IncidentDb} {outcome : Correction} (h : splitTx sha256 q original db = .ok (outcome, db')) :
    outcome = .recorded (q.target sha256) ∧ SplitResult q original (q.target sha256) db db' := by
  unfold splitTx at h
  by_cases hst : db.stored (q.target sha256) = true
  · simp only [hst, if_true] at h
    cases h
  · simp only [hst, Bool.false_eq_true, if_false] at h
    split at h
    · cases h
    · rename_i db₁ hins
      cases insertConstituent_ok hins
      cases h
      refine ⟨rfl, fun hmem => hst (stored_iff.2 hmem), ?_, ⟨_, rfl⟩, rfl⟩
      rw [List.map_append, List.map_map, List.map_singleton]
      congr 1
      refine List.map_congr_left fun row _ => ?_
      by_cases hrow : row.incidentId = original.incidentId
      · simp only [Function.comp_apply, if_pos hrow]
      · simp only [Function.comp_apply, if_neg hrow]

/-- In a split the alert's only row moves to the new incident. -/
theorem splitResult_assigned {q : CorrectionRequest} {original : IncidentRow} {target : String}
    {db db' : IncidentDb} (hdb : Assigned db) (h : SplitResult q original target db db')
    (hmem : original ∈ currentIncidents db q.alertCandidateId) : Assigned db' := by
  obtain ⟨c, hc, hca, hci, -⟩ := mem_currentIncidents hmem
  obtain ⟨justification, hcons⟩ := h.constituents
  have hsub : ∀ {c'}, c' ∈ (db.constituents.filter fun c =>
      !(c.incidentId == original.incidentId && c.alertCandidateId == q.alertCandidateId)) →
      c' ∈ db.constituents := fun hc' => (List.mem_filter.1 hc').1
  refine ⟨?_, ?_, ?_⟩
  · rw [h.incidents, List.nodup_append]
    refine ⟨hdb.incidentKeys, List.nodup_singleton _, fun a ha b hb hab => ?_⟩
    rw [List.mem_singleton.1 hb] at hab
    exact h.fresh (hab ▸ ha)
  · rw [IncidentDb.alertIds, hcons, List.map_append, List.map_singleton, List.nodup_append]
    refine ⟨hdb.alertKeys.sublist (List.filter_sublist.map _), List.nodup_singleton _,
      fun a ha b hb hab => ?_⟩
    obtain ⟨c', hc', rfl⟩ := List.mem_map.1 ha
    rw [List.mem_singleton.1 hb] at hab
    -- the kept row of the alert would be its only row, which was deleted
    have heq : c' = c := List.inj_on_of_nodup_map hdb.alertKeys (hsub hc') hc (hab.trans hca.symm)
    subst heq
    have hkept := (List.mem_filter.1 hc').2
    simp [hci, hca] at hkept
  · intro c' hc'
    rw [h.incidents, List.mem_append]
    rw [hcons] at hc'
    rcases List.mem_append.1 hc' with hc' | hc'
    · exact .inl (hdb.owned c' (hsub hc'))
    · rw [List.mem_singleton.1 hc']
      exact .inr List.mem_cons_self

theorem splitResult_alertIds {q : CorrectionRequest} {original : IncidentRow} {target : String}
    {db db' : IncidentDb} (h : SplitResult q original target db db') : db.alertIds ⊆ db'.alertIds := by
  obtain ⟨justification, hcons⟩ := h.constituents
  intro id hid
  obtain ⟨c, hc, rfl⟩ := List.mem_map.1 hid
  rw [IncidentDb.alertIds, hcons, List.map_append, List.mem_append]
  by_cases hca : c.alertCandidateId = q.alertCandidateId
  · right
    simp [hca]
  · left
    refine List.mem_map.2 ⟨c, List.mem_filter.2 ⟨hc, ?_⟩, rfl⟩
    simp [hca]

/-- What a correction does: a replay and a refusal change nothing, a correction of a singleton is only
logged, any other one is a split of an incident that holds the alert. -/
theorem correctionTx_cases {sha256 : Bytes → String} {q : CorrectionRequest} {db db' : IncidentDb}
    {outcome : Correction} (h : correctionTx sha256 q db = .ok (outcome, db')) :
    (∃ target, outcome = .replayed target ∧ db' = db) ∨
      ∃ original, fetchOne q.choice (currentIncidents db q.alertCandidateId) = some original ∧
        (outcome = .recorded original.incidentId ∧
            db' = { db with
              corrections := db.corrections ++ [q.row original.incidentId original.incidentId] } ∨
          outcome = .recorded (q.target sha256) ∧
            SplitResult q original (q.target sha256) db db') := by
  unfold correctionTx at h
  split at h
  · rename_i old _
    by_cases hsame : old.alertCandidateId = q.alertCandidateId ∧ old.actorId = q.actorId ∧
        db.stored old.targetIncidentId = true
    · rw [if_pos hsame] at h
      cases h
      exact .inl ⟨_, rfl, rfl⟩
    · rw [if_neg hsame] at h
      cases h
  · right
    split at h
    · cases h
    · rename_i original horig
      refine ⟨original, horig, ?_⟩
      by_cases hcount : original.constituentAlertCount ≤ 1
      · rw [if_pos hcount] at h
        cases h
        exact .inl ⟨rfl, rfl⟩
      · rw [if_neg hcount] at h
        exact .inr (splitTx_cases h)

theorem correctionTx_assigned {sha256 : Bytes → String} {q : CorrectionRequest} {db db' : IncidentDb}
    {outcome : Correction} (hdb : Assigned db) (h : correctionTx sha256 q db = .ok (outcome, db')) :
    Assigned db' := by
  rcases correctionTx_cases h with ⟨_, -, rfl⟩ | ⟨original, horig, ⟨-, rfl⟩ | ⟨-, hsplit⟩⟩
  · exact hdb
  · exact ⟨hdb.incidentKeys, hdb.alertKeys, hdb.owned⟩
  · exact splitResult_assigned hdb hsplit (fetchOne_mem horig)

theorem correctionTx_alertIds {sha256 : Bytes → String} {q : CorrectionRequest} {db db' : IncidentDb}
    {outcome : Correction} (h : correctionTx sha256 q db = .ok (outcome, db')) :
    db.alertIds ⊆ db'.alertIds := by
  rcases correctionTx_cases h with ⟨_, -, rfl⟩ | ⟨original, -, ⟨-, rfl⟩ | ⟨-, hsplit⟩⟩
  · exact fun _ hid => hid
  · exact fun _ hid => hid
  · exact splitResult_alertIds hsplit

/-! ## One step, and runs -/

variable {rt : Runtime}

/-- The batch and the tables agree: each incident of the batch is stored, or none of its members is. -/
def Fits (db : IncidentDb) : Call rt → Prop
  | .correlate _ now alerts provenanceMap =>
    ∀ r, correlateAlertCandidates now alerts provenanceMap = .ok r → ∀ inc ∈ r.incidents,
      db.stored inc.incidentId = true ∨ ∀ id ∈ inc.constituentAlertIds, id ∉ db.alertIds
  | .correct .. => True

/-- What a call does to the tables: nothing, the insertion of the batch, or a correction. -/
theorem step_cases (db : IncidentDb) (call : Call rt) :
    (step db call).2 = db ∨
      (∃ fault now alerts provenanceMap r, call = .correlate fault now alerts provenanceMap ∧
        correlateAlertCandidates now alerts provenanceMap = .ok r ∧
        insertAll r.incidents db = .ok (step db call).2) ∨
      ∃ fault q outcome, call = .correct fault q ∧
        correctionTx rt.sha256 q db = .ok (outcome, (step db call).2) := by
  cases call with
  | correlate fault now alerts provenanceMap =>
    cases hr : correlateAlertCandidates now alerts provenanceMap with
    | error e => exact .inl (by simp [step, correlate, hr])
    | ok r =>
      cases hins : insertAll r.incidents db with
      | error e =>
        left
        cases fault <;> cases hempty : r.incidents.isEmpty <;>
          simp [step, correlate, hr, insertMany, transaction, hins, hempty, Except.map]
      | ok db' =>
        by_cases hgo : fault = false ∧ r.incidents.isEmpty = false
        · refine .inr (.inl ⟨fault, now, alerts, provenanceMap, r, rfl, hr, ?_⟩)
          simp [step, correlate, hr, insertMany, transaction, hins, hgo, Except.map]
        · left
          cases fault <;> cases hempty : r.incidents.isEmpty <;>
            simp_all [step, correlate, insertMany, transaction]
  | correct fault q =>
    cases hcheck : q.check with
    | error e => exact .inl (by simp [step, correctIncidentGrouping, hcheck])
    | ok _ =>
      cases fault with
      | true => exact .inl (by simp [step, correctIncidentGrouping, hcheck, transaction])
      | false =>
        cases htx : correctionTx rt.sha256 q db with
        | error e => exact .inl (by simp [step, correctIncidentGrouping, hcheck, transaction, htx])
        | ok result =>
          refine .inr (.inr ⟨false, q, result.1, rfl, ?_⟩)
          simp [step, correctIncidentGrouping, hcheck, transaction, htx]

/-- The incidents of one correlation have no member in common. -/
theorem batch_nodup {now : String} {alerts : List (AlertInput rt)}
    {provenanceMap : String → Option EntityProvenanceContract} {r : IncidentCorrelationResult}
    (h : correlateAlertCandidates now alerts provenanceMap = .ok r) :
    (r.incidents.flatMap (·.constituentAlertIds)).Nodup := by
  by_cases hne : alerts = []
  · subst hne
    cases h
    exact List.nodup_nil
  · rw [correlate_eq now provenanceMap hne] at h
    cases h
    exact (sortedIncidents_spec now alerts provenanceMap).1.nodup_iff.2 (itemsOf_nodup alerts provenanceMap)

theorem step_assigned (db : IncidentDb) (call : Call rt) (hdb : Assigned db) (hfits : Fits db call) :
    Assigned (step db call).2 := by
  rcases step_cases db call with h | ⟨_, now, alerts, m, r, rfl, hr, hins⟩ | ⟨_, q, _, rfl, htx⟩
  · rw [h]
    exact hdb
  · exact insertAll_assigned hdb (batch_nodup hr) (hfits r hr) hins
  · exact correctionTx_assigned hdb htx

/-- No step drops an alert. -/
theorem step_alertIds (db : IncidentDb) (call : Call rt) : db.alertIds ⊆ (step db call).2.alertIds := by
  rcases step_cases db call with h | ⟨_, now, alerts, m, r, -, -, hins⟩ | ⟨_, q, _, -, htx⟩
  · rw [h]
    exact fun _ hid => hid
  · exact insertAll_alertIds hins
  · exact correctionTx_alertIds htx

/-- In assigned tables the join gives one row for a stored alert. -/
theorem currentIncidents_eq {db : IncidentDb} (hdb : Assigned db) {id : String} (hid : id ∈ db.alertIds) :
    ∃ row, currentIncidents db id = [row] := by
  obtain ⟨c, hc, rfl⟩ := List.mem_map.1 hid
  obtain ⟨row, hrow, hkey⟩ := List.mem_map.1 (hdb.owned c hc)
  refine ⟨row, ?_⟩
  rw [currentIncidents, filter_key_eq hdb.alertKeys hc, List.flatMap_singleton, ← hkey]
  exact filter_key_eq hdb.incidentKeys hrow

theorem tables_assigned {calls : List (Call rt)}
    (hfits : ∀ k call, calls[k]? = some call → Fits (stateAt step {} calls k) call) (k : Nat) :
    Assigned (stateAt step {} calls k) := by
  refine stateAt_inv_of step_assigned ?_ hfits k
  exact ⟨List.nodup_nil, List.nodup_nil, by simp⟩

/-- A batch of the forest alert alone. -/
def loneBatch : Call sampleRuntime :=
  .correlate false "2026-03-02T08:15:45+00:00" [.candidate forestAlert] fun _ => some sampleProvenance

/-- A later batch that has it again, with the logistic alert of the same flow. -/
def pairBatch : Call sampleRuntime :=
  .correlate false "2026-03-02T08:16:10+00:00" [.candidate forestAlert, .candidate logisticAlert]
    fun _ => some sampleProvenance

/-- **One stored incident per alert.** In a run from empty tables whose batches fit, an alert that was
ever stored has one row in the join at every later moment: `get_incident_for_alert` and a correction
find that incident, whichever row SQLite returns first. -/
theorem one_incident_per_alert (calls : List (Call rt))
    (hfits : ∀ k call, calls[k]? = some call → Fits (stateAt step {} calls k) call) {j k : Nat} (hjk : j ≤ k)
    {id : String} (hid : id ∈ (stateAt step {} calls j).alertIds) :
    ∃ row, currentIncidents (stateAt step {} calls k) id = [row] ∧
      (∀ choice, getIncidentForAlert choice (stateAt step {} calls k) id =
        some (recordOf (stateAt step {} calls k) row)) ∧
      ∀ (q : CorrectionRequest) target db', q.alertCandidateId = id →
        correctionTx rt.sha256 q (stateAt step {} calls k) = .ok (.recorded target, db') →
          db'.corrections = (stateAt step {} calls k).corrections ++ [q.row row.incidentId target] := by
  have hkept : (stateAt step {} calls j).alertIds ⊆ (stateAt step {} calls k).alertIds :=
    stateAt_rel (I := fun _ => True) (R := fun a b => a.alertIds ⊆ b.alertIds) (fun _ _ _ => trivial)
      trivial (fun _ _ h => h) (fun _ _ _ => List.Subset.trans) (fun db call _ => step_alertIds db call) hjk
  obtain ⟨row, hrow⟩ := currentIncidents_eq (tables_assigned hfits k) (hkept hid)
  have hfetch : ∀ choice, fetchOne choice [row] = some row := fun choice => by simp [fetchOne, Nat.mod_one]
  refine ⟨row, hrow, fun choice => ?_, fun q target db' hq htx => ?_⟩
  · rw [getIncidentForAlert, hrow, hfetch]
    rfl
  · rcases correctionTx_cases htx with ⟨_, hout, -⟩ | ⟨original, horig, hdone⟩
    · cases hout
    · rw [hq, hrow, hfetch] at horig
      cases horig
      rcases hdone with ⟨hout, rfl⟩ | ⟨hout, hsplit⟩
      · cases hout
        rfl
      · cases hout
        exact hsplit.corrections

theorem one_incident_per_alert_lone :
    ∃ row, currentIncidents (stateAt step {} [loneBatch] 1) forestAlertId = [row] ∧
      (∀ choice, getIncidentForAlert choice (stateAt step {} [loneBatch] 1) forestAlertId =
        some (recordOf (stateAt step {} [loneBatch] 1) row)) ∧
      ∀ (q : CorrectionRequest) target db', q.alertCandidateId = forestAlertId →
        correctionTx sampleRuntime.sha256 q (stateAt step {} [loneBatch] 1) = .ok (.recorded target, db') →
          db'.corrections =
            (stateAt step {} [loneBatch] 1).corrections ++ [q.row row.incidentId target] :=
  one_incident_per_alert [loneBatch] (fun k call hcall => by
    cases k with
    | zero =>
      cases hcall
      intro r _ inc _
      exact .inr fun id _ hid => List.not_mem_nil hid
    | succ k => cases hcall) (Nat.le_refl 1) (by decide +kernel)

/-- The second batch is grouped into a burst, a new incident identifier: `insert_many` stores the forest
alert a second time. -/
theorem alert_in_two_incidents :
    ¬ ∀ (rt : Runtime) (calls : List (Call rt)) (j k : Nat) (id : String), j ≤ k →
      id ∈ (stateAt step {} calls j).alertIds →
        ∃ row, currentIncidents (stateAt step {} calls k) id = [row] := by
  intro h
  have htwo : (currentIncidents (stateAt step {} [loneBatch, pairBatch] 2) forestAlertId).length = 2 := by
    decide +kernel
  obtain ⟨row, hrow⟩ := h sampleRuntime [loneBatch, pairBatch] 1 2 forestAlertId (by decide)
    (by decide +kernel)
  rw [hrow] at htwo
  cases htwo

end ThreatFusion.Correlation
