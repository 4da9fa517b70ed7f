import ThreatFusion.Alerts.StoreRuns
import ThreatFusion.Analyst.Workflow
import ThreatFusion.Storage.Manifest
/-
# A snapshot of a live system

The databases are copied one after another, the alerts first, while their repositories write. A writer that runs
after the copy of the alerts can refer to an alert that the copy does not have.

* `apply_references`: what a writer refers to was referred to before or is a stored alert.
* `snapshot_of_live_system`: the snapshot is made exactly when its copies refer to copied alerts.
* `alert_between_copies`: an alert that is stored and triaged between two copies makes it fail.
-/
namespace ThreatFusion.Storage
open Py Alerts Audit Correlation Grouping JsonText
open Analyst hiding Value

/-! ## Writers -/

inductive Writer (sha256 : Bytes → String) where
  | insertAlert (fault : AlertFault) (candidate : AlertCandidate sha256)
  | transition (call : TransitionCall) (env : CallEnv)
  | insertIncidents (fault : Bool) (incidents : List IncidentRecord)
  | appendAudit (row : AuditRow)

namespace Sources

def alertIds (s : Sources) : List String := s.alerts.map (·.alertCandidateId)

def stateIds (s : Sources) : List String :=
  s.workflow.states.map (·.alertCandidateId) ++ s.workflow.events.map (·.alertCandidateId)

/-- The alerts of the incidents, when their database is deployed. -/
def incidentAlertIds (s : Sources) : List String :=
  s.incidents.elim [] fun db => db.constituents.map (·.alertCandidateId)

def references (s : Sources) : List String := s.stateIds ++ s.incidentAlertIds

/-- Every reference is to a stored alert. -/
def Consistent (s : Sources) : Prop := s.references ⊆ s.alertIds

end Sources

section
variable (printable : Char → Bool) {sha256 : Bytes → String}

/-- The transaction of a writer; a repository of incidents exists only beside its database. -/
def Writer.apply (s : Sources) : Writer sha256 → Sources
  | .insertAlert fault candidate => { s with alerts := (Alerts.insert sha256 fault s.alerts candidate).2 }
  | .transition call env =>
    { s with workflow := (Analyst.transition printable call env ⟨s.alertIds, s.workflow⟩).2.db }
  | .insertIncidents fault incidents =>
    { s with incidents := s.incidents.map fun db => (insertMany fault incidents db).2 }
  | .appendAudit row => { s with audit := s.audit ++ [row] }

/-- Incidents are inserted over stored alerts. -/
def Writer.Legal (s : Sources) : Writer sha256 → Prop
  | .insertIncidents _ incidents => ∀ inc ∈ incidents, inc.constituentAlertIds ⊆ s.alertIds
  | _ => True

def Sources.after (s : Sources) (ws : List (Writer sha256)) : Sources := ws.foldl (Writer.apply printable) s

def LegalRun : Sources → List (Writer sha256) → Prop
  | _, [] => True
  | s, w :: ws => w.Legal s ∧ LegalRun (w.apply printable s) ws

variable {printable}

theorem insert_ids (fault : AlertFault) (db : AlertDb) (candidate : AlertCandidate sha256) :
    db.map (·.alertCandidateId) ⊆ (Alerts.insert sha256 fault db candidate).2.map (·.alertCandidateId) := by
  unfold Alerts.insert
  cases fault with
  | none =>
    dsimp only
    unfold insertTx
    split
    · rename_i heq
      split at heq
      · cases heq
      · split at heq
        · exact List.Subset.refl _
        · split at heq
          · exact List.Subset.refl _
          · cases heq
    · rename_i heq
      split at heq
      · cases heq
        rw [List.map_append]
        exact List.subset_append_left _ _
      · split at heq
        · cases heq
        · split at heq
          · cases heq
          · cases heq
            exact List.Subset.refl _
  | _ => exact List.Subset.refl _

/-- The alerts of the workflow tables. -/
def workflowIds (db : AnalystDb) : List String :=
  db.states.map (·.alertCandidateId) ++ db.events.map (·.alertCandidateId)

theorem insertEvent_ids {row : EventRow} {db db' : AnalystDb} (h : insertEvent row db = .ok db') :
    ∀ id ∈ workflowIds db', id ∈ workflowIds db ∨ id = row.alertCandidateId := by
  unfold insertEvent at h
  split at h
  · cases h
  · cases h
    intro id hid
    simp only [workflowIds, List.map_append, List.mem_append, List.map_singleton, List.mem_singleton] at hid ⊢
    rcases hid with hid | hid | hid
    · exact .inl (.inl hid)
    · exact .inl (.inr hid)
    · exact .inr hid

theorem insertState_ids {row : StateRow} {db db' : AnalystDb} (h : insertState row db = .ok db') :
    ∀ id ∈ workflowIds db', id ∈ workflowIds db ∨ id = row.alertCandidateId := by
  unfold insertState at h
  split at h
  · cases h
  · cases h
    intro id hid
    simp only [workflowIds, List.map_append, List.mem_append, List.map_singleton, List.mem_singleton] at hid ⊢
    rcases hid with (hid | hid) | hid
    · exact .inl (.inl hid)
    · exact .inr hid
    · exact .inl (.inr hid)

theorem updateState_ids {row : StateRow} {version : ℤ} {db db' : AnalystDb}
    (h : updateState row version db = .ok db') :
    ∀ id ∈ workflowIds db', id ∈ workflowIds db ∨ id = row.alertCandidateId := by
  unfold updateState at h
  dsimp only at h
  split at h
  · cases h
  · split at h
    · cases h
    · cases h
      intro id hid
      simp only [workflowIds, List.map_map, List.mem_append, List.mem_map, Function.comp_apply] at hid ⊢
      rcases hid with ⟨r, hr, rfl⟩ | hid
      · split
        · exact .inr rfl
        · exact .inl (.inl ⟨r, hr, rfl⟩)
      · exact .inl (.inr hid)

theorem writeEvent_ids {event : AnalystTransitionEvent printable} {db db' : AnalystDb}
    (h : writeEvent event db = .ok db') :
    ∀ id ∈ workflowIds db', id ∈ workflowIds db ∨ id = event.alertCandidateId := by
  intro id hid
  by_cases hnew : event.fromState = .new
  · rw [writeEvent, if_pos hnew] at h
    obtain ⟨db₁, hstate, hevent⟩ := Except.bind_eq_ok.1 h
    rcases insertEvent_ids hevent id hid with hid | hid
    · exact insertState_ids hstate id hid
    · exact .inr hid
  · rw [writeEvent, if_neg hnew] at h
    obtain ⟨db₁, hstate, hevent⟩ := Except.bind_eq_ok.1 h
    rcases insertEvent_ids hevent id hid with hid | hid
    · exact updateState_ids hstate id hid
    · exact .inr hid

theorem newEvent_alert {actorId : String} {request : TransitionRequest printable} {current : AnalystStateSnapshot}
    {t : DateTime} {event : AnalystTransitionEvent printable} (h : newEvent actorId request current t = .ok event) :
    event.alertCandidateId = request.alertCandidateId.1 := by
  unfold newEvent AnalystTransitionEvent.new at h
  split at h
  · cases h
    rfl
  · cases h

/-- A transition refers to its own alert, which is stored. -/
theorem transition_ids (call : TransitionCall) (env : CallEnv) (w : AnalystWorld) :
    ∀ id ∈ workflowIds (Analyst.transition printable call env w).2.db, id ∈ workflowIds w.db ∨ id ∈ w.alerts := by
  intro id hid
  unfold Analyst.transition at hid
  split at hid
  · exact .inl hid
  · rename_i actorId request hready
    split at hid
    · exact .inl hid
    · rename_i reply db' htransact
      obtain ⟨-, -, ⟨-, hstored⟩, -⟩ := prepare_eq_ok.1 hready
      obtain ⟨history, -, hsettle⟩ := Except.bind_eq_ok.1 htransact
      unfold settle at hsettle
      dsimp only at hsettle
      split at hsettle
      · obtain ⟨event, -, hsettle⟩ := Except.bind_eq_ok.1 hsettle
        split at hsettle
        · cases hsettle
          exact .inl hid
        · cases hsettle
      · split at hsettle
        · cases hsettle
        · split at hsettle
          · cases hsettle
          · obtain ⟨t, -, hsettle⟩ := Except.bind_eq_ok.1 hsettle
            obtain ⟨event, hevent, hsettle⟩ := Except.bind_eq_ok.1 hsettle
            obtain ⟨db'', hwrite, hsettle⟩ := Except.bind_eq_ok.1 hsettle
            cases hsettle
            rcases writeEvent_ids hwrite id hid with hid | rfl
            · exact .inl hid
            · exact .inr (newEvent_alert hevent ▸ hstored)

theorem insertConstituents_ids (inc : IncidentRecord) : ∀ (ids : List String) {db db' : IncidentDb},
    insertConstituents inc ids db = .ok db' →
      ∀ c ∈ db'.constituents, c ∈ db.constituents ∨ c.alertCandidateId ∈ ids
  | [], db, db', h, c, hc => by
    cases h
    exact .inl hc
  | id :: rest, db, db', h, c, hc => by
    rw [insertConstituents] at h
    split at h
    · cases h
    · rename_i db₁ hinsert
      unfold IncidentDb.insertConstituent at hinsert
      split at hinsert
      · cases hinsert
      · cases hinsert
        rcases insertConstituents_ids inc rest h c hc with hold | hnew
        · rcases List.mem_append.1 hold with hold | hnew
          · exact .inl hold
          · exact .inr (by rw [List.mem_singleton.1 hnew]; exact List.mem_cons_self)
        · exact .inr (List.mem_cons_of_mem _ hnew)

theorem insertAll_ids : ∀ (incidents : List IncidentRecord) {db db' : IncidentDb}, insertAll incidents db = .ok db' →
    ∀ c ∈ db'.constituents, c ∈ db.constituents ∨ ∃ inc ∈ incidents, c.alertCandidateId ∈ inc.constituentAlertIds
  | [], db, db', h, c, hc => by
    cases h
    exact .inl hc
  | inc :: rest, db, db', h, c, hc => by
    rw [insertAll] at h
    split at h
    · cases h
    · rename_i db₁ hinsert
      have hfirst : c ∈ db₁.constituents → c ∈ db.constituents ∨ c.alertCandidateId ∈ inc.constituentAlertIds := by
        intro hc
        unfold insertIncident at hinsert
        split at hinsert
        · cases hinsert
          exact .inl hc
        · exact insertConstituents_ids inc _ hinsert c hc
      rcases insertAll_ids rest h c hc with hold | ⟨other, hother, hnew⟩
      · rcases hfirst hold with hold | hnew
        · exact .inl hold
        · exact .inr ⟨inc, List.mem_cons_self, hnew⟩
      · exact .inr ⟨other, List.mem_cons_of_mem _ hother, hnew⟩

theorem insertMany_ids (fault : Bool) (incidents : List IncidentRecord) (db : IncidentDb) :
    ∀ c ∈ (insertMany fault incidents db).2.constituents, c ∈ db.constituents ∨
      ∃ inc ∈ incidents, c.alertCandidateId ∈ inc.constituentAlertIds := by
  intro c hc
  unfold insertMany transaction at hc
  cases fault with
  | true => exact .inl hc
  | false =>
    cases h : insertAll incidents db with
    | error e =>
      rw [h] at hc
      exact .inl hc
    | ok db' =>
      rw [h] at hc
      exact insertAll_ids incidents h c hc

/-! ## Runs of writers -/

theorem apply_alertIds (s : Sources) (w : Writer sha256) : s.alertIds ⊆ (w.apply printable s).alertIds := by
  cases w with
  | insertAlert fault candidate => exact insert_ids fault s.alerts candidate
  | _ => exact List.Subset.refl _

/-- **What a writer refers to** was referred to before, or is a stored alert. -/
theorem apply_references {s : Sources} {w : Writer sha256} (h : w.Legal s) :
    ∀ id ∈ (w.apply printable s).references, id ∈ s.references ∨ id ∈ s.alertIds := by
  intro id hid
  rcases List.mem_append.1 hid with hid | hid
  · cases w with
    | transition call env =>
      exact (transition_ids call env ⟨s.alertIds, s.workflow⟩ id hid).imp_left (List.mem_append_left _)
    | _ => exact .inl (List.mem_append_left _ hid)
  · cases w with
    | insertIncidents fault incidents =>
      unfold Sources.incidentAlertIds Writer.apply at hid
      cases hdb : s.incidents with
      | none =>
        rw [hdb] at hid
        exact absurd hid List.not_mem_nil
      | some db =>
        rw [hdb] at hid
        obtain ⟨c, hc, rfl⟩ := List.mem_map.1 hid
        rcases insertMany_ids fault incidents db c hc with hold | ⟨inc, hinc, hnew⟩
        · refine .inl (List.mem_append_right _ ?_)
          rw [Sources.incidentAlertIds, hdb]
          exact List.mem_map_of_mem hold
        · exact .inr (h inc hinc hnew)
    | _ => exact .inl (List.mem_append_right _ hid)

theorem after_alertIds (s : Sources) (ws : List (Writer sha256)) : s.alertIds ⊆ (s.after printable ws).alertIds := by
  induction ws generalizing s with
  | nil => exact List.Subset.refl _
  | cons w rest ih => exact List.Subset.trans (apply_alertIds s w) (ih _)

/-- **A run of writers refers to stored alerts only.** -/
theorem after_references {s : Sources} {ws : List (Writer sha256)} (h : LegalRun printable s ws) :
    ∀ id ∈ (s.after printable ws).references, id ∈ s.references ∨ id ∈ (s.after printable ws).alertIds := by
  induction ws generalizing s with
  | nil => exact fun id hid => .inl hid
  | cons w rest ih =>
    intro id hid
    rcases ih h.2 id hid with hid | hid
    · rcases apply_references h.1 id hid with hid | hid
      · exact .inl hid
      · exact .inr (after_alertIds _ rest (apply_alertIds s w hid))
    · exact .inr hid

theorem Sources.Consistent.after {s : Sources} {ws : List (Writer sha256)} (hs : s.Consistent)
    (h : LegalRun printable s ws) : (s.after printable ws).Consistent := by
  intro id hid
  rcases after_references h id hid with hid | hid
  · exact after_alertIds s ws (hs hid)
  · exact hid

theorem LegalRun.of_append {s : Sources} {ws ws' : List (Writer sha256)} (h : LegalRun printable s (ws ++ ws')) :
    LegalRun printable s ws := by
  induction ws generalizing s with
  | nil => exact trivial
  | cons w rest ih => exact ⟨h.1, ih h.2⟩

theorem after_append (s : Sources) (ws ws' : List (Writer sha256)) :
    s.after printable (ws ++ ws') = (s.after printable ws).after printable ws' := List.foldl_append

theorem apply_deployed (s : Sources) (w : Writer sha256) :
    (w.apply printable s).incidents.isSome = s.incidents.isSome := by
  cases w with
  | insertIncidents fault incidents => exact Option.isSome_map
  | _ => rfl

theorem after_deployed (s : Sources) (ws : List (Writer sha256)) :
    (s.after printable ws).incidents.isSome = s.incidents.isSome := by
  induction ws generalizing s with
  | nil => rfl
  | cons w rest ih => exact (ih _).trans (apply_deployed s w)

end

/-! ## Copies of what was seen -/

/-- The step that copies a database. -/
def Role.moment : Role → Moment
  | .alerts => .alerts
  | .states => .states
  | .audit => .audit
  | .incidents => .incidents

/-- A copy in the snapshot, private to its owner. -/
def copyOf (pages : Database → Bytes) (db : Database) : StoredFile := ⟨.regular, true, 0o600, pages db, some db⟩

/-- What a database in service is, for the checks of a snapshot. -/
theorem Sources.database_spec {s : Sources} {role : Role} {db : Database} (h : s.database role = some db) :
    db.intact = true ∧ db.userVersion = role.schemaVersion ∧
      (∃ metadata, db.metadataFor role = some metadata ∧ metadata.lookup "schema_identity" = some role.schemaIdentity) ∧
      ∃ counts, db.rowCounts role = some counts := by
  cases role with
  | incidents =>
    obtain ⟨tables, -, rfl⟩ := Option.map_eq_some_iff.1 h
    exact ⟨rfl, rfl, ⟨_, rfl, rfl⟩, _, rfl⟩
  | _ =>
    cases h
    exact ⟨rfl, rfl, ⟨_, rfl, rfl⟩, _, rfl⟩

section
variable {sha256 : Bytes → String} {pages : Database → Bytes} {dir : Directory} {s : Sources} {role : Role}
  {db : Database}

/-- **A fresh copy passes its inspection.** -/
theorem inspect_copy (hpages : (pages db).length ≠ 0) (hdb : s.database role = some db)
    (hfile : dir.lookup role.filename = some (copyOf pages db)) :
    ∃ counts, db.rowCounts role = some counts ∧
      inspectDatabase sha256 dir role (·.database) = .ok ⟨role, sha256 (pages db), (pages db).length, counts⟩ := by
  obtain ⟨hintact, hversion, hidentity, counts, hcounts⟩ := Sources.database_spec hdb
  exact ⟨counts, hcounts, inspectDatabase_eq_ok.2
    ⟨copyOf pages db, db, hfile, rfl, rfl, rfl, hpages, rfl, hintact, hversion, hidentity, hcounts, rfl⟩⟩

theorem readCopy_eq {file : StoredFile} (h : dir.lookup role.filename = some file) :
    readCopy dir role = file.database := by
  rw [readCopy, h, Option.bind_some]

end

/-- The counts of the check. -/
def countsOf (alerts states incidents : Sources) : ConsistencyInfo :=
  ⟨alerts.alertIds.dedup.length, (states.workflow.states.map (·.alertCandidateId)).dedup.length,
    incidents.incidents.map (·.incidents.length)⟩

/-- Every reference that was copied is to an alert that was copied. -/
def Referenced (alerts states incidents : Sources) : Prop :=
  states.stateIds ⊆ alerts.alertIds ∧ incidents.incidentAlertIds ⊆ alerts.alertIds

instance (alerts states incidents : Sources) : Decidable (Referenced alerts states incidents) := instDecidableAnd

/-- **The check of the copies** looks for exactly that. -/
theorem check_copies (alerts states incidents : Sources) :
    checkCrossDatabaseConsistency (alerts.database .alerts) (states.database .states)
        (incidents.incidents.map fun _ => incidents.database .incidents) =
      if Referenced alerts states incidents then .ok (countsOf alerts states incidents)
      else raise .referentialIntegrityFailed := by
  have hall : ∀ {ids stored : List String}, ids.all (· ∈ stored) = true ↔ ids ⊆ stored := by
    intro ids stored
    simp only [List.all_eq_true, decide_eq_true_eq]
    exact Iff.rfl
  have halerts : (alerts.database .alerts).bind Database.alertIds = some alerts.alertIds := rfl
  have hstates : (states.database .states).bind Database.stateIds =
      some (states.workflow.states.map (·.alertCandidateId), states.workflow.events.map (·.alertCandidateId)) := rfl
  rw [checkCrossDatabaseConsistency, halerts, hstates]
  dsimp only
  by_cases hs : states.stateIds ⊆ alerts.alertIds
  · rw [Sources.stateIds, ← hall] at hs
    rw [hs, Bool.not_true, if_neg Bool.false_ne_true]
    rw [hall, ← Sources.stateIds] at hs
    cases hi : incidents.incidents with
    | none =>
      have href : Referenced alerts states incidents := by
        refine ⟨hs, ?_⟩
        rw [Sources.incidentAlertIds, hi]
        exact List.nil_subset _
      rw [if_pos href, countsOf, hi]
      rfl
    | some db =>
      have hids : incidents.incidentAlertIds = db.constituents.map (·.alertCandidateId) := by
        rw [Sources.incidentAlertIds, hi]
        rfl
      have hread : (incidents.database .incidents).bind Database.incidentAlertIds =
          some (incidents.incidentAlertIds, db.incidents.length) := by
        rw [Sources.database, hi, hids]
        rfl
      rw [Option.map_some]
      dsimp only
      rw [hread]
      dsimp only
      by_cases hc : incidents.incidentAlertIds ⊆ alerts.alertIds
      · rw [hall.2 hc, Bool.not_true, if_neg Bool.false_ne_true, if_pos ⟨hs, hc⟩, countsOf, hi]
        rfl
      · rw [Bool.eq_false_iff.2 fun h => hc (hall.1 h), Bool.not_false, if_pos rfl, if_neg fun h => hc h.2]
  · have hnot : ¬ Referenced alerts states incidents := fun h => hs h.1
    rw [if_neg hnot]
    rw [Sources.stateIds, ← hall, Bool.not_eq_true] at hs
    rw [hs, Bool.not_false, if_pos rfl]

/-! ## Making the snapshot -/

/-- What SHA-256 and SQLite promise: 64 hexadecimal digits; a file of at least one page; sizes of 64 bits. -/
structure Limits (sha256 : Bytes → String) (pages : Database → Bytes) (seen : Moment → Sources) : Prop where
  digest : ∀ bytes, isSha256 (sha256 bytes) = true
  page : ∀ db, (pages db).length ≠ 0
  size : ∀ db, Small (pages db).length
  rows : ∀ moment role db counts, (seen moment).database role = some db → db.rowCounts role = some counts →
    ∀ count ∈ counts, Small count.2

/-- The directory after the copies, and what their inspections said. -/
structure Copied (sha256 : Bytes → String) (pages : Database → Bytes) (seen : Moment → Sources) (dir : Directory)
    (infos : List DatabaseInfo) : Prop where
  roles : infos.map (·.role) = CORE_DB_ROLES ++ if (seen .incidents).incidents.isSome then [.incidents] else []
  names : ∀ name, name ∈ visible dir ↔ ∃ role ∈ infos.map (·.role), name = role.filename
  copies : ∀ role, readCopy dir role = (seen role.moment).database role
  inspected : ∀ info ∈ infos, inspectDatabase sha256 dir info.role (·.database) = .ok info
  fits : ∀ info ∈ infos, info.Fits

section
variable {sha256 : Bytes → String} {pages : Database → Bytes} {seen : Moment → Sources} {dir : Directory}
  {infos : List DatabaseInfo} {now : DateTime}

/-- The manifest of the copies. -/
def manifestOf (now : DateTime) (infos : List DatabaseInfo) (seen : Moment → Sources) : Manifest :=
  ⟨now, infos, countsOf (seen .alerts) (seen .states) (seen .incidents)⟩

theorem Copied.fits_manifest (hlimits : Limits sha256 pages seen) (h : Copied sha256 pages seen dir infos) :
    (manifestOf now infos seen).Fits := by
  refine ⟨h.fits, ?_, ?_, ?_, ?_⟩
  · rw [manifestOf, ← List.length_map (·.role), h.roles]
    split <;> decide
  · refine lt_of_le_of_lt (List.dedup_sublist _).length_le ?_
    rw [Sources.alertIds, List.length_map]
    exact hlimits.rows .alerts .alerts _ _ rfl rfl ("alert_candidates", _) List.mem_cons_self
  · refine lt_of_le_of_lt (List.dedup_sublist _).length_le ?_
    rw [List.length_map]
    exact hlimits.rows .states .states _ _ rfl rfl ("analyst_states", _) List.mem_cons_self
  · intro total htotal
    obtain ⟨db, hdb, rfl⟩ := Option.map_eq_some_iff.1 htotal
    have hdatabase := hlimits.rows .incidents .incidents
    rw [Sources.database, hdb] at hdatabase
    exact hdatabase _ _ rfl rfl ("incidents", _) List.mem_cons_self

theorem Copied.incidents_iff (h : Copied sha256 pages seen dir infos) :
    Role.incidents ∈ infos.map (·.role) ↔ (seen .incidents).incidents.isSome = true := by
  rw [h.roles, List.mem_append]
  cases (seen .incidents).incidents.isSome <;> simp [CORE_DB_ROLES]

/-- **The copies make a snapshot** when they refer to copied alerts, and only then. -/
theorem Copied.finish (hlimits : Limits sha256 pages seen) (h : Copied sha256 pages seen dir infos) :
    createStorageSnapshot.finishSnapshot (fun _ => none) now dir infos
        ((seen .incidents).incidents.map fun _ => (seen .incidents).database .incidents) =
      if Referenced (seen .alerts) (seen .states) (seen .incidents) then
        .ok (manifestOf now infos seen,
          put dir MANIFEST_FILENAME ⟨.regular, true, 0o600, utf8 (manifestOf now infos seen).text, none⟩)
      else raise .referentialIntegrityFailed := by
  rw [createStorageSnapshot.finishSnapshot, fault, Except.ok_bind, h.copies, h.copies]
  dsimp only [Role.moment]
  rw [check_copies]
  by_cases href : Referenced (seen .alerts) (seen .states) (seen .incidents)
  · rw [if_pos href, if_pos href, Except.ok_bind]
    rw [Except.ok_bind, writeManifest, if_neg]
    · rfl
    · exact Nat.not_lt.2 (length_text_le (h.fits_manifest hlimits))
  · rw [if_neg href, if_neg href]
    rfl

theorem readCopy_put_manifest (file : StoredFile) (role : Role) :
    readCopy (put dir MANIFEST_FILENAME file) role = readCopy dir role := by
  rw [readCopy, lookup_put_of_ne role.filename_ne_manifest, readCopy]

/-- An inspection looks at its own file only. -/
theorem inspectDatabase_congr {dir' : Directory} {role : Role} {read : StoredFile → Option Database}
    (h : dir'.lookup role.filename = dir.lookup role.filename) :
    inspectDatabase sha256 dir' role read = inspectDatabase sha256 dir role read := by
  unfold inspectDatabase checkNoSymlink
  rw [h]

theorem Copied.written (hlimits : Limits sha256 pages seen) (h : Copied sha256 pages seen dir infos)
    (href : Referenced (seen .alerts) (seen .states) (seen .incidents)) :
    Written sha256
      (put dir MANIFEST_FILENAME ⟨.regular, true, 0o600, utf8 (manifestOf now infos seen).text, none⟩)
      (manifestOf now infos seen) where
  fits := h.fits_manifest hlimits
  nodup := by
    rw [manifestOf, h.roles]
    split <;> decide
  core role hrole := by
    rw [manifestOf, h.roles]
    exact List.mem_append_left _ hrole
  names name := by
    rw [mem_visible_put (by decide), h.names]
    rfl
  manifest := lookup_put_self _ _ _
  inspected info hinfo := by
    rw [inspectDatabase_congr (lookup_put_of_ne info.role.filename_ne_manifest _)]
    exact h.inspected info hinfo
  consistent := by
    rw [readCopy_put_manifest, readCopy_put_manifest, readCopy_put_manifest, h.copies, h.copies, h.copies]
    have hincidents : (if .incidents ∈ (manifestOf now infos seen).databases.map (·.role) then
        some ((seen .incidents).database .incidents) else none) =
        (seen .incidents).incidents.map fun _ => (seen .incidents).database .incidents := by
      by_cases hsome : Role.incidents ∈ (manifestOf now infos seen).databases.map (·.role)
      · rw [if_pos hsome]
        obtain ⟨db, hdb⟩ := Option.isSome_iff_exists.1 (h.incidents_iff.1 hsome)
        rw [hdb, Option.map_some]
      · rw [if_neg hsome]
        have hnone := Option.not_isSome_iff_eq_none.1 fun hsome' => hsome (h.incidents_iff.2 hsome')
        rw [hnone, Option.map_none]
    dsimp only [Role.moment]
    rw [hincidents, check_copies, if_pos href]
    rfl

theorem visible_nil (h : (dir.any fun entry => !hidden entry.1) = false) (name : String) : name ∉ visible dir := by
  intro hname
  obtain ⟨hmem, hvisible⟩ := List.mem_filter.1 hname
  obtain ⟨entry, hentry, rfl⟩ := List.mem_map.1 hmem
  exact absurd hvisible (List.any_eq_false.1 h entry hentry)

theorem lookup_hidden (h : (dir.any fun entry => !hidden entry.1) = false) {name : String}
    (hname : hidden name = false) : dir.lookup name = none := by
  rw [List.lookup_eq_none_iff]
  intro entry hentry
  rw [bne_iff_ne]
  rintro rfl
  exact List.any_eq_false.1 h entry hentry (by rw [hname]; rfl)

theorem backup_ok (role : Role) (db : Database) :
    backupSqlite pages (fun _ => none) dir role (some db) = .ok (put dir role.filename (copyOf pages db)) := rfl

/-- A fresh copy, its inspection and its entry in the manifest. -/
theorem copy_info (role : Role) (hlimits : Limits sha256 pages seen) {db : Database}
    (hdb : (seen role.moment).database role = some db) :
    ∃ info : DatabaseInfo, info.role = role ∧ info.Fits ∧
      ∀ {dir : Directory}, dir.lookup role.filename = some (copyOf pages db) →
        inspectDatabase sha256 dir role (·.database) = .ok info := by
  obtain ⟨-, -, -, counts, hcounts⟩ := Sources.database_spec hdb
  obtain ⟨hnodup, hfew, hnames⟩ := rowCounts_names hcounts
  refine ⟨⟨role, sha256 (pages db), (pages db).length, counts⟩, rfl,
    ⟨hlimits.digest _, hlimits.size db, hnodup, hfew, hnames, hlimits.rows _ _ _ _ hdb hcounts⟩, fun hfile => ?_⟩
  obtain ⟨counts', hcounts', hok⟩ := inspect_copy (hlimits.page db) hdb hfile
  rwa [← Option.some.inj (hcounts.symm.trans hcounts')] at hok

/-- The copies are made one after another, and each one passes its inspection. -/
theorem create_copied (now : DateTime) (hlimits : Limits sha256 pages seen)
    (hdir : (dir.any fun entry => !hidden entry.1) = false)
    (hdeployed : (seen .resolve).incidents.isSome = (seen .incidents).incidents.isSome) :
    ∃ dir' infos, Copied sha256 pages seen dir' infos ∧
      createStorageSnapshot sha256 pages (fun _ => none) seen now dir =
        createStorageSnapshot.finishSnapshot (fun _ => none) now dir' infos
          ((seen .incidents).incidents.map fun _ => (seen .incidents).database .incidents) := by
  obtain ⟨alerts, halerts⟩ : ∃ db, (seen .alerts).database .alerts = some db := ⟨_, rfl⟩
  obtain ⟨states, hstates⟩ : ∃ db, (seen .states).database .states = some db := ⟨_, rfl⟩
  obtain ⟨audit, haudit⟩ : ∃ db, (seen .audit).database .audit = some db := ⟨_, rfl⟩
  obtain ⟨alertsInfo, harole, hafits, hainspect⟩ := copy_info .alerts hlimits halerts
  obtain ⟨statesInfo, hsrole, hsfits, hsinspect⟩ := copy_info .states hlimits hstates
  obtain ⟨auditInfo, hurole, hufits, huinspect⟩ := copy_info .audit hlimits haudit
  have hne : ∀ {a b : Role}, a ≠ b → a.filename ≠ b.filename := fun h heq => h (Role.filename_inj.1 heq)
  generalize hcore : put (put (put dir Role.alerts.filename (copyOf pages alerts)) Role.states.filename
    (copyOf pages states)) Role.audit.filename (copyOf pages audit) = core
  have hcoreAlerts : core.lookup Role.alerts.filename = some (copyOf pages alerts) := by
    rw [← hcore, lookup_put_of_ne (hne (by decide)), lookup_put_of_ne (hne (by decide)), lookup_put_self]
  have hcoreStates : core.lookup Role.states.filename = some (copyOf pages states) := by
    rw [← hcore, lookup_put_of_ne (hne (by decide)), lookup_put_self]
  have hcoreAudit : core.lookup Role.audit.filename = some (copyOf pages audit) := by
    rw [← hcore, lookup_put_self]
  have hcoreIncidents : core.lookup Role.incidents.filename = none := by
    rw [← hcore, lookup_put_of_ne (hne (by decide)), lookup_put_of_ne (hne (by decide)),
      lookup_put_of_ne (hne (by decide)), lookup_hidden hdir (by decide)]
  have hcoreNames : ∀ name, name ∈ visible core ↔
      ∃ role ∈ [alertsInfo, statesInfo, auditInfo].map (·.role), name = role.filename := by
    intro name
    rw [← hcore, mem_visible_put (by decide), mem_visible_put (by decide), mem_visible_put (by decide)]
    simp only [visible_nil hdir, List.map_cons, List.map_nil, harole, hsrole, hurole, List.mem_cons, List.not_mem_nil,
      or_false, exists_eq_or_imp, exists_eq_left]
    tauto
  have hcreate : createStorageSnapshot sha256 pages (fun _ => none) seen now dir =
      if (seen .resolve).incidents.isSome && (seen .incidents).incidents.isSome then do
        let dir' ← backupSqlite pages (fun _ => none) core .incidents ((seen .incidents).database .incidents)
        let info ← inspectCopy sha256 (fun _ => none) dir' .incidents
        createStorageSnapshot.finishSnapshot (fun _ => none) now dir' ([alertsInfo, statesInfo, auditInfo] ++ [info])
          (some (readCopy dir' .incidents))
      else createStorageSnapshot.finishSnapshot (fun _ => none) now core [alertsInfo, statesInfo, auditInfo] none := by
    unfold createStorageSnapshot
    rw [fault, Except.ok_bind, hdir, if_neg Bool.false_ne_true, halerts, backup_ok, Except.ok_bind, hstates, backup_ok,
      Except.ok_bind, haudit, backup_ok, Except.ok_bind, hcore]
    unfold inspectCopy
    dsimp only [fault]
    rw [hainspect hcoreAlerts, Except.ok_bind, hsinspect hcoreStates, Except.ok_bind, huinspect hcoreAudit,
      Except.ok_bind]
  rw [hcreate, hdeployed, Bool.and_self]
  cases hdb : (seen .incidents).incidents with
  | none =>
    refine ⟨core, [alertsInfo, statesInfo, auditInfo], ⟨?_, hcoreNames, ?_, ?_, ?_⟩, rfl⟩
    · rw [hdb]
      simp [harole, hsrole, hurole, CORE_DB_ROLES]
    · intro role
      cases role with
      | alerts => exact (readCopy_eq hcoreAlerts).trans halerts.symm
      | states => exact (readCopy_eq hcoreStates).trans hstates.symm
      | audit => exact (readCopy_eq hcoreAudit).trans haudit.symm
      | incidents =>
        rw [readCopy, hcoreIncidents]
        dsimp only [Role.moment, Sources.database]
        rw [hdb]
        rfl
    · simp only [List.forall_mem_cons, List.not_mem_nil, false_implies, implies_true, and_true, harole, hsrole, hurole]
      exact ⟨hainspect hcoreAlerts, hsinspect hcoreStates, huinspect hcoreAudit⟩
    · simp only [List.forall_mem_cons, List.not_mem_nil, false_implies, implies_true, and_true]
      exact ⟨hafits, hsfits, hufits⟩
  | some tables =>
    obtain ⟨incidents, hincidents⟩ : ∃ db, (seen .incidents).database .incidents = some db := by
      rw [Sources.database, hdb]
      exact ⟨_, rfl⟩
    obtain ⟨incidentsInfo, hirole, hifits, hiinspect⟩ := copy_info .incidents hlimits hincidents
    generalize hall : put core Role.incidents.filename (copyOf pages incidents) = all
    have hallCore : ∀ {role : Role}, role ≠ .incidents → all.lookup role.filename = core.lookup role.filename := by
      intro role hrole
      rw [← hall, lookup_put_of_ne (hne hrole)]
    have hallIncidents : all.lookup Role.incidents.filename = some (copyOf pages incidents) := by
      rw [← hall, lookup_put_self]
    refine ⟨all, [alertsInfo, statesInfo, auditInfo] ++ [incidentsInfo], ⟨?_, ?_, ?_, ?_, ?_⟩, ?_⟩
    · rw [hdb]
      simp [harole, hsrole, hurole, hirole, CORE_DB_ROLES]
    · intro name
      rw [← hall, mem_visible_put (by decide), hcoreNames, List.map_append, List.map_singleton, hirole]
      simp only [List.mem_append, List.mem_singleton, or_and_right, exists_or, exists_eq_left]
      exact or_comm
    · intro role
      cases role with
      | alerts => exact (readCopy_eq ((hallCore (by decide)).trans hcoreAlerts)).trans halerts.symm
      | states => exact (readCopy_eq ((hallCore (by decide)).trans hcoreStates)).trans hstates.symm
      | audit => exact (readCopy_eq ((hallCore (by decide)).trans hcoreAudit)).trans haudit.symm
      | incidents => exact (readCopy_eq hallIncidents).trans hincidents.symm
    · rw [List.forall_mem_append]
      simp only [List.forall_mem_cons, List.not_mem_nil, false_implies, implies_true, and_true, harole, hsrole, hurole,
        hirole]
      exact ⟨⟨hainspect ((hallCore (by decide)).trans hcoreAlerts),
        hsinspect ((hallCore (by decide)).trans hcoreStates),
        huinspect ((hallCore (by decide)).trans hcoreAudit)⟩, hiinspect hallIncidents⟩
    · rw [List.forall_mem_append]
      simp only [List.forall_mem_cons, List.not_mem_nil, false_implies, implies_true, and_true]
      exact ⟨⟨hafits, hsfits, hufits⟩, hifits⟩
    · rw [Option.isSome_some, if_pos rfl, hincidents, backup_ok, Except.ok_bind, hall]
      unfold inspectCopy
      dsimp only [fault]
      rw [hiinspect hallIncidents, Except.ok_bind, readCopy_eq hallIncidents]
      rfl

end

/-! ## A live system -/

/-- The writers of `ws m` have their turns before the step `m`. -/
def writersBefore {sha256 : Bytes → String} (ws : Moment → List (Writer sha256)) : Moment → List (Writer sha256)
  | .resolve => ws .resolve
  | .alerts => ws .resolve ++ ws .alerts
  | .states => ws .resolve ++ ws .alerts ++ ws .states
  | .audit => ws .resolve ++ ws .alerts ++ ws .states ++ ws .audit
  | .incidents => ws .resolve ++ ws .alerts ++ ws .states ++ ws .audit ++ ws .incidents

/-- What each step of the snapshot sees. -/
def seenBy (printable : Char → Bool) {sha256 : Bytes → String} (s : Sources) (ws : Moment → List (Writer sha256))
    (m : Moment) : Sources := s.after printable (writersBefore ws m)

/-- The alerts that the analyst states, the transition events and the incidents of a snapshot refer to. -/
def copiedReferences (dir : Directory) : List String :=
  ((readCopy dir .states).bind Database.stateIds).elim [] (fun ids => ids.1 ++ ids.2) ++
    ((readCopy dir .incidents).bind Database.incidentAlertIds).elim [] (·.1)

def copiedAlerts (dir : Directory) : List String := ((readCopy dir .alerts).bind Database.alertIds).getD []

/-- What a snapshot of a live system is. -/
structure LiveSnapshot (sha256 : Bytes → String) (floatIs : String → ℤ → Bool) (seen : Moment → Sources)
    (created : Except Raised (Manifest × Directory)) : Prop where
  /-- It is made, verifies and refers to its own alerts; or it is refused for its references. -/
  outcome : created = raise .referentialIntegrityFailed ∨
    ∃ m dir roles, created = .ok (m, dir) ∧
      verifyStorageSnapshot sha256 floatIs dir none = .ok ⟨(sortKeys m.json).value, roles⟩ ∧
      (∀ role, readCopy dir role = (seen role.moment).database role) ∧ copiedReferences dir ⊆ copiedAlerts dir
  succeeds_iff : (∃ made, created = .ok made) ↔ Referenced (seen .alerts) (seen .states) (seen .incidents)
  /-- No alert is stored between the first copy and the last. -/
  quiescent : (seen .incidents).alertIds ⊆ (seen .alerts).alertIds → ∃ made, created = .ok made

/-- **A snapshot of a live system** is made exactly when its copies refer to copied alerts; it verifies. -/
theorem snapshot_of_live_system (printable : Char → Bool) {sha256 : Bytes → String} {pages : Database → Bytes}
    (floatIs : String → ℤ → Bool) {s : Sources} {ws : Moment → List (Writer sha256)} (hs : s.Consistent)
    (hlegal : LegalRun printable s (writersBefore ws .incidents))
    (hlimits : Limits sha256 pages (seenBy printable s ws))
    (now : DateTime) {dir : Directory} (hdir : (dir.any fun entry => !hidden entry.1) = false) :
    LiveSnapshot sha256 floatIs (seenBy printable s ws)
      (createStorageSnapshot sha256 pages (fun _ => none) (seenBy printable s ws) now dir) := by
  have hdeployed : (seenBy printable s ws .resolve).incidents.isSome =
      (seenBy printable s ws .incidents).incidents.isSome :=
    (after_deployed s _).trans (after_deployed s _).symm
  obtain ⟨dir', infos, hcopied, hcreate⟩ := create_copied now hlimits hdir hdeployed
  rw [hcopied.finish hlimits] at hcreate
  have hsucceeds :
      (∃ made, createStorageSnapshot sha256 pages (fun _ => none) (seenBy printable s ws) now dir = .ok made) ↔
        Referenced (seenBy printable s ws .alerts) (seenBy printable s ws .states)
          (seenBy printable s ws .incidents) := by
    rw [hcreate]
    split
    · rename_i href
      exact iff_of_true ⟨_, rfl⟩ href
    · rename_i href
      exact iff_of_false (fun ⟨_, h⟩ => by cases h) href
  refine ⟨?_, hsucceeds, fun hquiet => hsucceeds.2 ?_⟩
  · rw [hcreate]
    split
    · rename_i href
      obtain ⟨roles, hverify⟩ := verify_written floatIs (hcopied.written hlimits href)
      have hcopies : ∀ role, readCopy (put dir' MANIFEST_FILENAME ⟨.regular, true, 0o600,
          utf8 (manifestOf now infos (seenBy printable s ws)).text, none⟩) role =
          (seenBy printable s ws role.moment).database role := fun role =>
        (readCopy_put_manifest _ role).trans (hcopied.copies role)
      refine .inr ⟨_, _, roles, rfl, hverify, hcopies, ?_⟩
      intro id hid
      rw [copiedReferences, hcopies, hcopies, List.mem_append] at hid
      rw [copiedAlerts, hcopies]
      rcases hid with hid | hid
      · exact href.1 hid
      · refine href.2 ?_
        rw [Sources.incidentAlertIds]
        cases hdb : (seenBy printable s ws .incidents).incidents with
        | none => rw [Role.moment, Sources.database, hdb] at hid; exact hid
        | some db => rw [Role.moment, Sources.database, hdb] at hid; exact hid
    · exact .inl rfl
  · have hgrows : ∀ (m : Moment) (rest : List (Writer sha256)),
        writersBefore ws .incidents = writersBefore ws m ++ rest →
        (seenBy printable s ws m).references ⊆ (seenBy printable s ws .alerts).alertIds := by
      intro m rest hrest id hid
      rw [hrest] at hlegal
      refine hquiet ?_
      rw [seenBy, hrest, after_append]
      exact after_alertIds _ rest (hs.after hlegal.of_append hid)
    constructor
    · refine fun id hid => hgrows .states (ws .audit ++ ws .incidents) ?_ (List.mem_append_left _ hid)
      simp only [writersBefore, List.append_assoc]
    · exact fun id hid => hgrows .incidents [] (List.append_nil _).symm (List.mem_append_right _ hid)

/-! ## An alert between two copies -/

/-- The retried alert is stored and triaged. -/
def triage : List (Writer retrySha256) :=
  [.insertAlert .none retriedAlert,
    .transition { sampleCall "in_review" with args := { (sampleCall "in_review").args with
      alertCandidateId := .str (ALERT_CANDIDATE_SCHEMA_VERSION ++ ":" ++ retriedDigest) } } sampleEnv]

/-- It happens before the step `m`. -/
def triagedAt (m : Moment) : Moment → List (Writer retrySha256) := fun m' => if m' = m then triage else []

def triagedSources (m : Moment) : Moment → Sources := seenBy Char.isAlphanum {} (triagedAt m)

theorem isSha256_retrySha256 (bytes : Bytes) : isSha256 (retrySha256 bytes) = true := by
  rw [retrySha256]
  split <;> decide +kernel

theorem triaged_legal (m : Moment) : LegalRun Char.isAlphanum {} (writersBefore (triagedAt m) .incidents) := by
  cases m <;> exact ⟨trivial, trivial, trivial⟩

/-- Tables with few rows. -/
theorem rows_small {s : Sources} (halerts : s.alerts.length ≤ 1) (hstates : s.workflow.states.length ≤ 1)
    (hevents : s.workflow.events.length ≤ 1) (haudit : s.audit.length ≤ 1) (hincidents : s.incidents.isSome = false)
    {role : Role} {db : Database} {counts : List (String × Nat)} (hdb : s.database role = some db)
    (hcounts : db.rowCounts role = some counts) : ∀ count ∈ counts, Small count.2 := by
  cases role with
  | incidents =>
    have hnone : s.incidents = none := Option.not_isSome_iff_eq_none.1 (by rw [hincidents]; exact Bool.false_ne_true)
    rw [Sources.database, hnone] at hdb
    cases hdb
  | _ =>
    cases hdb
    cases hcounts
    simp only [List.forall_mem_cons, List.not_mem_nil, false_implies, implies_true, and_true, List.length_cons,
      List.length_nil]
    omega

theorem triage_rows :
    ((Sources.after Char.isAlphanum {} triage).alerts.length ≤ 1 ∧
      (Sources.after Char.isAlphanum {} triage).workflow.states.length ≤ 1 ∧
      (Sources.after Char.isAlphanum {} triage).workflow.events.length ≤ 1 ∧
      (Sources.after Char.isAlphanum {} triage).audit.length ≤ 1 ∧
      (Sources.after Char.isAlphanum {} triage).incidents.isSome = false) ∧
      (Sources.after Char.isAlphanum {} triage).stateIds ≠ [] := by
  decide +kernel

theorem triaged_limits (m : Moment) : Limits retrySha256 (fun _ => [83]) (triagedSources m) where
  digest := isSha256_retrySha256
  page _ := by decide
  size _ := by decide
  rows moment role db counts hdb hcounts := by
    have hbefore : writersBefore (triagedAt m) moment = [] ∨ writersBefore (triagedAt m) moment = triage := by
      cases m <;> cases moment <;> first | exact .inl rfl | exact .inr rfl
    rw [triagedSources, seenBy] at hdb
    rcases hbefore with hbefore | hbefore
    · rw [hbefore] at hdb
      exact rows_small (s := {}) (by decide) (by decide) (by decide) (by decide) rfl hdb hcounts
    · rw [hbefore] at hdb
      obtain ⟨⟨halerts, hstates, hevents, haudit, hincidents⟩, -⟩ := triage_rows
      exact rows_small halerts hstates hevents haudit hincidents hdb hcounts

theorem snapshot_of_live_system_triaged :
    LiveSnapshot retrySha256 (fun _ _ => false) (triagedSources .resolve)
      (createStorageSnapshot retrySha256 (fun _ => [83]) (fun _ => none) (triagedSources .resolve)
        ⟨2026, 3, 4, 10, 0, 0, 0, by decide, by decide⟩ []) :=
  snapshot_of_live_system Char.isAlphanum _ (List.nil_subset _) (triaged_legal .resolve) (triaged_limits .resolve) _ rfl

/-- **An alert that is stored after the copy of the alerts and triaged before the copy of the states.** -/
theorem alert_between_copies :
    ({} : Sources).Consistent ∧ LegalRun Char.isAlphanum {} (writersBefore (triagedAt .states) .incidents) ∧
      Limits retrySha256 (fun _ => [83]) (triagedSources .states) ∧
      createStorageSnapshot retrySha256 (fun _ => [83]) (fun _ => none) (triagedSources .states)
        ⟨2026, 3, 4, 10, 0, 0, 0, by decide, by decide⟩ [] = raise .referentialIntegrityFailed := by
  refine ⟨List.nil_subset _, triaged_legal .states, triaged_limits .states, ?_⟩
  have hdeployed : (triagedSources .states .resolve).incidents.isSome =
      (triagedSources .states .incidents).incidents.isSome := (after_deployed {} triage).symm
  have hdir : (([] : Directory).any fun entry => !hidden entry.1) = false := rfl
  obtain ⟨dir, infos, hcopied, hcreate⟩ := create_copied ⟨2026, 3, 4, 10, 0, 0, 0, by decide, by decide⟩
    (triaged_limits .states) hdir hdeployed
  rw [hcreate, hcopied.finish (triaged_limits .states), if_neg]
  rintro ⟨hstates, -⟩
  have hnone : (triagedSources .states .alerts).alertIds = [] := rfl
  rw [hnone] at hstates
  exact triage_rows.2 (List.subset_nil.1 hstates)

end ThreatFusion.Storage
