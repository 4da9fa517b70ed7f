import ThreatFusion.LiveConsole.Stitch
/-
# What repeated stitching keeps

An incident that is stored under its derived identifier is skipped, and everything that the correlation did
not return is deleted. As long as every stored incident has the members its identifier was derived from
(`Whole`), the stored grouping after a stitch is the returned one (`stitched_exactly`). A correction that
splits an alert off breaks this for good: the next stitch skips the incident that lost the alert and deletes
the one that has it.
-/
namespace ThreatFusion.LiveConsole.Stitch
open Py Alerts Correlation Grouping Concurrency Concurrency.Program Machine

/-- The alerts of one stored incident. -/
def membersOf (db : IncidentDb) (incidentId : String) : List String :=
  (db.constituents.filter (·.incidentId = incidentId)).map (·.alertCandidateId)

/-- No recorded correction took an alert out of its incident. -/
def SplitFree (db : IncidentDb) : Prop := ∀ c ∈ db.corrections, c.originalIncidentId = c.targetIncidentId

/-- An incident as the correlator makes it. -/
structure Derived (sha256 : Bytes → String) (inc : IncidentRecord) : Prop where
  id : inc.incidentId = deriveIncidentId sha256 inc.correlationRuleId inc.constituentAlertIds
  plain : ∀ id ∈ inc.constituentAlertIds, isPlainText id = true

/-- Every stored incident still has all of its members. -/
structure Whole (sha256 : Bytes → String) (db : IncidentDb) : Prop extends Keyed db where
  members : ∀ row ∈ db.incidents, ∃ inc, Derived sha256 inc ∧ inc.incidentId = row.incidentId ∧
    membersOf db row.incidentId = inc.constituentAlertIds

section
variable {sha256 : Bytes → String} {db db' : IncidentDb} {inc : IncidentRecord}

theorem mem_membersOf {incidentId aid : String} :
    aid ∈ membersOf db incidentId ↔ ∃ c ∈ db.constituents, c.incidentId = incidentId ∧ c.alertCandidateId = aid := by
  simp only [membersOf, List.mem_map, List.mem_filter, decide_eq_true_eq, and_assoc]

theorem whole_empty (sha256 : Bytes → String) (corrections : List CorrectionRow) :
    Whole sha256 { corrections } :=
  ⟨⟨List.nodup_nil, fun _ h => absurd h List.not_mem_nil⟩, fun _ h => absurd h List.not_mem_nil⟩

theorem Whole.corrected (h : Whole sha256 db) (corrections : List CorrectionRow) :
    Whole sha256 { db with corrections } := ⟨⟨h.incidentKeys, h.owned⟩, h.members⟩

/-! ## Inserting -/

theorem membersOf_append (db : IncidentDb) (inc : IncidentRecord) (incidentId : String) :
    membersOf { db with constituents := db.constituents ++ inc.constituentAlertIds.map (constituentRow inc) }
        incidentId =
      membersOf db incidentId ++ if inc.incidentId = incidentId then inc.constituentAlertIds else [] := by
  unfold membersOf
  rw [List.filter_append, List.map_append]
  congr 1
  by_cases h : inc.incidentId = incidentId
  · rw [if_pos h, List.filter_eq_self.2, List.map_map]
    · exact List.map_id'' (fun _ => rfl) _
    · intro c hc
      obtain ⟨aid, -, rfl⟩ := List.mem_map.1 hc
      exact decide_eq_true h
  · rw [if_neg h, List.filter_eq_nil_iff.2, List.map_nil]
    intro c hc
    obtain ⟨aid, -, rfl⟩ := List.mem_map.1 hc
    exact fun heq => h (of_decide_eq_true heq)

/-- Nothing is stored under an identifier that no incident has. -/
theorem membersOf_of_not_stored (h : Keyed db) {incidentId : String} (hst : ¬ db.stored incidentId = true) :
    membersOf db incidentId = [] := by
  rw [membersOf, List.map_eq_nil_iff, List.filter_eq_nil_iff]
  intro c hc heq
  exact hst (stored_iff.2 (of_decide_eq_true heq ▸ h.owned c hc))

theorem insertIncident_whole (hdb : Whole sha256 db) (hinc : Derived sha256 inc)
    (h : insertIncident db inc = .ok db') : Whole sha256 db' := by
  rcases insertIncident_eq h with rfl | ⟨hst, rfl⟩
  · exact hdb
  · refine ⟨⟨nodup_concat_incident hdb.incidentKeys hst, fun c hc => ?_⟩, fun row hrow => ?_⟩
    · rw [List.map_append, List.mem_append]
      rcases List.mem_append.1 hc with hc | hc
      · exact .inl (hdb.owned c hc)
      · obtain ⟨aid, -, rfl⟩ := List.mem_map.1 hc
        exact .inr List.mem_cons_self
    · have happend := membersOf_append db inc row.incidentId
      rcases List.mem_append.1 hrow with hrow | hrow
      · obtain ⟨inc', hderived, hid, hmembers⟩ := hdb.members row hrow
        have hne : inc.incidentId ≠ row.incidentId := fun heq =>
          hst (stored_iff.2 (heq ▸ List.mem_map_of_mem hrow))
        rw [if_neg hne, List.append_nil] at happend
        exact ⟨inc', hderived, hid, happend.trans hmembers⟩
      · rw [List.mem_singleton.1 hrow] at happend ⊢
        rw [if_pos rfl, membersOf_of_not_stored hdb.toKeyed hst, List.nil_append] at happend
        exact ⟨inc, hinc, rfl, happend⟩

theorem insertIncident_stores (h : insertIncident db inc = .ok db') : db'.stored inc.incidentId = true := by
  rcases insertIncident_cases h with ⟨hst, rfl⟩ | ⟨-, hincs, -⟩
  · exact hst
  · rw [stored_iff, hincs, List.map_append]
    exact List.mem_append_right _ List.mem_cons_self

theorem insertAll_whole : ∀ {incs : List IncidentRecord} {db db' : IncidentDb}, Whole sha256 db →
    (∀ inc ∈ incs, Derived sha256 inc) → insertAll incs db = .ok db' → Whole sha256 db'
  | [], db, db', hdb, _, h => by
    cases h
    exact hdb
  | inc :: rest, db, db', hdb, hderived, h => by
    rw [insertAll] at h
    split at h
    · cases h
    · rename_i db₁ hone
      exact insertAll_whole (insertIncident_whole hdb (hderived inc List.mem_cons_self) hone)
        (fun i hi => hderived i (List.mem_cons_of_mem _ hi)) h

theorem insertAll_stores : ∀ {incs : List IncidentRecord} {db db' : IncidentDb}, insertAll incs db = .ok db' →
    (∀ id, db.stored id = true → db'.stored id = true) ∧ ∀ inc ∈ incs, db'.stored inc.incidentId = true
  | [], db, db', h => by
    cases h
    exact ⟨fun _ h => h, fun _ h => absurd h List.not_mem_nil⟩
  | inc :: rest, db, db', h => by
    rw [insertAll] at h
    split at h
    · cases h
    · rename_i db₁ hone
      obtain ⟨hkeep, hrest⟩ := insertAll_stores h
      refine ⟨fun id hst => hkeep id (insertIncident_stored hone hst), fun i hi => ?_⟩
      rcases List.mem_cons.1 hi with rfl | hi
      · exact hkeep _ (insertIncident_stores hone)
      · exact hrest i hi

theorem insertAll_corrections : ∀ {incs : List IncidentRecord} {db db' : IncidentDb}, insertAll incs db = .ok db' →
    db'.corrections = db.corrections
  | [], db, db', h => by
    cases h
    rfl
  | inc :: rest, db, db', h => by
    rw [insertAll] at h
    split at h
    · cases h
    · rename_i db₁ hone
      refine (insertAll_corrections h).trans ?_
      rcases insertIncident_eq hone with rfl | ⟨-, rfl⟩ <;> rfl

/-! ## Deleting -/

theorem membersOf_dropStale (db : IncidentDb) {keepIds : List String} {incidentId : String} (h : incidentId ∈ keepIds) :
    membersOf (dropStale keepIds db) incidentId = membersOf db incidentId := by
  unfold membersOf dropStale
  rw [List.filter_filter]
  congr 2
  funext c
  by_cases hc : c.incidentId = incidentId
  · simp [hc, h]
  · simp [hc]

theorem mem_dropStale_ids {keepIds : List String} {incidentId : String} :
    incidentId ∈ (dropStale keepIds db).incidents.map (·.incidentId) ↔
      incidentId ∈ db.incidents.map (·.incidentId) ∧ incidentId ∈ keepIds := by
  simp only [dropStale, List.mem_map, List.mem_filter, decide_eq_true_eq]
  constructor
  · rintro ⟨row, ⟨hrow, hkeep⟩, rfl⟩
    exact ⟨⟨row, hrow, rfl⟩, hkeep⟩
  · rintro ⟨⟨row, hrow, rfl⟩, hkeep⟩
    exact ⟨row, ⟨hrow, hkeep⟩, rfl⟩

theorem dropStale_whole (hdb : Whole sha256 db) (keepIds : List String) : Whole sha256 (dropStale keepIds db) := by
  refine ⟨⟨hdb.incidentKeys.sublist (List.filter_sublist.map _), fun c hc => ?_⟩, fun row hrow => ?_⟩
  · obtain ⟨hc, hkeep⟩ := List.mem_filter.1 hc
    exact mem_dropStale_ids.2 ⟨hdb.owned c hc, of_decide_eq_true hkeep⟩
  · obtain ⟨hrow, hkeep⟩ := List.mem_filter.1 hrow
    rw [membersOf_dropStale db (of_decide_eq_true hkeep)]
    exact hdb.members row hrow

end
/-! ## Right after a stitch -/

/-- Each of the alerts is in one stored incident, and no other alert is in any. -/
structure Stitched {rt : Correlation.Runtime} (alerts : List (AlertInput rt)) (db : IncidentDb) : Prop where
  once : db.alertIds.Nodup
  owned : ∀ c ∈ db.constituents, c.incidentId ∈ db.incidents.map (·.incidentId)
  covered : ∀ id, id ∈ db.alertIds ↔ ∃ a ∈ alerts, a.id = id

/-- The stored incidents are those of the result, with their constituents. -/
structure AsReturned (r : IncidentCorrelationResult) (db : IncidentDb) : Prop where
  once : (db.incidents.map (·.incidentId)).Nodup
  ids : ∀ id, id ∈ db.incidents.map (·.incidentId) ↔ ∃ inc ∈ r.incidents, inc.incidentId = id
  members : ∀ inc ∈ r.incidents, (membersOf db inc.incidentId).Perm inc.constituentAlertIds

section
variable {rt : Correlation.Runtime} {now : String} {alerts : List (AlertInput rt)}
  {provenanceMap : String → Option EntityProvenanceContract} {r : IncidentCorrelationResult} {db db' : IncidentDb}

theorem mem_incidents_alerts (h : correlateAlertCandidates now alerts provenanceMap = .ok r) {id : String} :
    (∃ inc ∈ r.incidents, id ∈ inc.constituentAlertIds) ↔ ∃ a ∈ alerts, a.id = id := by
  by_cases hne : alerts = []
  · subst hne
    cases h
    simp
  · rw [correlate_eq now provenanceMap hne] at h
    cases h
    rw [← mem_itemsOf_ids, ← (sortedIncidents_spec now alerts provenanceMap).1.mem_iff, List.mem_flatMap]

theorem derived_of_correlate (h : correlateAlertCandidates now alerts provenanceMap = .ok r) {inc : IncidentRecord}
    (hinc : inc ∈ r.incidents) : Derived rt.sha256 inc := by
  by_cases hne : alerts = []
  · subst hne
    cases h
    exact absurd hinc List.not_mem_nil
  · refine ⟨?_, fun id hid => ?_⟩
    · rw [correlate_eq now provenanceMap hne] at h
      cases h
      exact incidentsList_derived ((sortedIncidents_perm now _).mem_iff.1 hinc)
    · obtain ⟨a, -, rfl⟩ := (mem_incidents_alerts h).1 ⟨inc, hinc, hid⟩
      exact decide_eq_true a.alert.length_id

/-- What a correlation that returned did to the tables. -/
theorem correlate_ok {fault : Bool} (h : (Correlation.correlate fault now alerts provenanceMap db).1 = .ok r) :
    correlateAlertCandidates now alerts provenanceMap = .ok r ∧
      insertAll r.incidents db = .ok (Correlation.correlate fault now alerts provenanceMap db).2 := by
  unfold Correlation.correlate at h ⊢
  cases hr : correlateAlertCandidates now alerts provenanceMap with
  | error e =>
    rw [hr] at h
    cases h
  | ok r' =>
    rw [hr] at h
    dsimp only at h ⊢
    by_cases hempty : r'.incidents.isEmpty = true
    · rw [if_pos hempty] at h ⊢
      cases h
      refine ⟨rfl, ?_⟩
      rw [List.isEmpty_iff.1 hempty]
      rfl
    · rw [if_neg hempty] at h ⊢
      cases fault with
      | true => cases h
      | false =>
        cases hins : insertAll r'.incidents db with
        | error e =>
          simp only [insertMany, hins, Except.map, transaction, Bool.false_eq_true, if_false] at h
          cases h
        | ok db₁ =>
          simp only [insertMany, hins, Except.map, transaction, Bool.false_eq_true, if_false] at h ⊢
          cases h
          exact ⟨rfl, hins⟩

/-- **The stored grouping is the returned one.** -/
theorem stitched_exactly (hfree : CollisionFree rt.sha256) (hdb : Whole rt.sha256 db)
    (h : correlateAlertCandidates now alerts provenanceMap = .ok r) (hins : insertAll r.incidents db = .ok db') :
    AsReturned r (dropStale (r.incidents.map (·.incidentId)) db') ∧
      Stitched alerts (dropStale (r.incidents.map (·.incidentId)) db') := by
  have hwhole := dropStale_whole (insertAll_whole hdb (fun _ => derived_of_correlate h) hins)
    (r.incidents.map (·.incidentId))
  have hids : ∀ id, id ∈ (dropStale (r.incidents.map (·.incidentId)) db').incidents.map (·.incidentId) ↔
      ∃ inc ∈ r.incidents, inc.incidentId = id := by
    intro id
    rw [mem_dropStale_ids, List.mem_map (l := r.incidents)]
    refine ⟨fun hid => hid.2, ?_⟩
    rintro ⟨inc, hinc, rfl⟩
    exact ⟨stored_iff.1 ((insertAll_stores hins).2 inc hinc), inc, hinc, rfl⟩
  generalize dropStale (r.incidents.map (·.incidentId)) db' = db₂ at hwhole hids
  have hmembers : ∀ inc ∈ r.incidents, (membersOf db₂ inc.incidentId).Perm inc.constituentAlertIds := by
    intro inc hinc
    obtain ⟨row, hrow, hid⟩ := List.mem_map.1 ((hids _).2 ⟨inc, hinc, rfl⟩)
    obtain ⟨inc', hderived', hid', hmem⟩ := hwhole.members row hrow
    have hderived := derived_of_correlate h hinc
    rw [← hid, hmem]
    refine (hfree inc'.correlationRuleId inc.correlationRuleId _ _ hderived'.plain hderived.plain ?_).2
    rw [← hderived'.id, ← hderived.id, hid', hid]
  have hnodup := batch_nodup h
  -- the incident of a constituent row is one of the result's, and has its alert
  have hof : ∀ c ∈ db₂.constituents, ∃ inc ∈ r.incidents, inc.incidentId = c.incidentId ∧
      c.alertCandidateId ∈ inc.constituentAlertIds := by
    intro c hc
    obtain ⟨inc, hinc, hid⟩ := (hids _).1 (hwhole.owned c hc)
    exact ⟨inc, hinc, hid, (hmembers inc hinc).mem_iff.1 (hid ▸ mem_membersOf.2 ⟨c, hc, rfl, rfl⟩)⟩
  refine ⟨⟨hwhole.incidentKeys, hids, hmembers⟩, ?_, hwhole.owned, fun id => ?_⟩
  · refine @nodup_map_of_filter _ _ _ _ (fun c => c.incidentId) _ _ (fun b hb c hc hsame => ?_) fun c hc => ?_
    · obtain ⟨inc, hinc, hid, hmem⟩ := hof b hb
      obtain ⟨inc', hinc', hid', hmem'⟩ := hof c hc
      rw [← hid, ← hid', part_unique hnodup hinc hinc' hmem (hsame ▸ hmem')]
    · obtain ⟨inc, hinc, hid, -⟩ := hof c hc
      have hperm := hmembers inc hinc
      rw [hid] at hperm
      exact hperm.nodup_iff.2 ((List.nodup_flatMap.1 hnodup).1 inc hinc)
  · rw [← mem_incidents_alerts h]
    constructor
    · intro hid
      obtain ⟨c, hc, rfl⟩ := List.mem_map.1 hid
      obtain ⟨inc, hinc, -, hmem⟩ := hof c hc
      exact ⟨inc, hinc, hmem⟩
    · rintro ⟨inc, hinc, hid⟩
      obtain ⟨c, hc, -, rfl⟩ := mem_membersOf.1 ((hmembers inc hinc).mem_iff.2 hid)
      exact List.mem_map_of_mem hc

end

/-! ## One move -/

section
variable (rt : StitchRuntime)

/-- The condition on one call. -/
def OrderlyCall (w : StitchWorld) (env : StitchEnv) : StitchCall rt → Prop
  | .attackRows => env.fault = false →
    correlatable rt ((attackRows w.flows).map fun row => (row, env.uuid row.flowId)) = [] →
      w.incidents.incidents = [] ∧ w.incidents.constituents = []
  | .correlate _ => SplitFree w.incidents
  | .dropStale _ => env.fault = false
  | .markChecked _ | .correct _ | .ingest _ => True

def Orderly (pool : StitchPool rt) (move : Nat × StitchEnv) : Prop :=
  ∀ op c next, pool.clients[move.1]? = some (op, .call c next) → OrderlyCall rt pool.state move.2 c

end

section
variable {rt : StitchRuntime} {db : IncidentDb}

/-- What is kept on the incidents: while no correction split anything, the stored incidents are whole. -/
def Kept (rt : StitchRuntime) (db : IncidentDb) : Prop := SplitFree db → Whole rt.sha256 db

theorem correctionTx_kept {q : CorrectionRequest} {outcome : Correction} {db' : IncidentDb} (hdb : Kept rt db)
    (h : correctionTx rt.sha256 q db = .ok (outcome, db')) :
    db.corrections ⊆ db'.corrections ∧ Kept rt db' := by
  rcases correctionTx_cases h with ⟨_, -, rfl⟩ | ⟨original, horig, ⟨-, rfl⟩ | ⟨-, hsplit⟩⟩
  · exact ⟨List.Subset.refl _, hdb⟩
  · refine ⟨List.subset_append_left _ _, fun hfree => ?_⟩
    exact (hdb fun c hc => hfree c (List.mem_append_left _ hc)).corrected _
  · rw [hsplit.corrections]
    refine ⟨List.subset_append_left _ _, fun hfree => ?_⟩
    -- the new correction is a split
    obtain ⟨-, -, -, -, hrow⟩ := mem_currentIncidents (fetchOne_mem horig)
    have hsame : original.incidentId = q.target rt.sha256 :=
      hfree (q.row original.incidentId (q.target rt.sha256))
        (hsplit.corrections ▸ List.mem_append_right _ List.mem_cons_self)
    exact absurd (List.mem_map.2 ⟨original, hrow, hsame⟩) hsplit.fresh

theorem step_kept (hdb : Kept rt db) (call : Correlation.Call rt.toRuntime) :
    db.corrections ⊆ (Correlation.step db call).2.corrections ∧ Kept rt (Correlation.step db call).2 := by
  rcases step_cases db call with h | ⟨_, now, alerts, m, r, rfl, hr, hins⟩ | ⟨_, q, _, rfl, htx⟩
  · rw [h]
    exact ⟨List.Subset.refl _, hdb⟩
  · have hsame := insertAll_corrections hins
    refine ⟨by rw [hsame]; exact List.Subset.refl _, fun hfree => ?_⟩
    refine insertAll_whole (hdb fun c hc => hfree c ?_) (fun _ => derived_of_correlate hr) hins
    rw [hsame]
    exact hc
  · exact correctionTx_kept hdb htx

theorem handle_kept (env : StitchEnv) (c : StitchCall rt) (w : StitchWorld) (hw : Kept rt w.incidents) :
    w.incidents.corrections ⊆ (stitchHandle rt env c w).2.incidents.corrections ∧
      Kept rt (stitchHandle rt env c w).2.incidents := by
  cases c with
  | attackRows | ingest =>
    simp only [stitchHandle]
    split <;> exact ⟨List.Subset.refl _, hw⟩
  | markChecked => exact ⟨List.Subset.refl _, hw⟩
  | dropStale keepIds =>
    simp only [stitchHandle]
    split
    · exact ⟨List.Subset.refl _, hw⟩
    · exact ⟨List.Subset.refl _, fun hfree => dropStale_whole (hw hfree) keepIds⟩
  | correlate alerts => exact step_kept hw (.correlate env.fault env.now alerts fun _ => none)
  | correct q => exact step_kept hw (.correct env.fault q)

theorem pool_kept (pool : StitchPool rt) (move : Nat × StitchEnv) (hpool : Kept rt pool.state.incidents) :
    pool.state.incidents.corrections ⊆ (poolStep (stitchHandle rt) pool move).2.state.incidents.corrections ∧
      Kept rt (poolStep (stitchHandle rt) pool move).2.state.incidents := by
  rcases poolStep_cases (stitchHandle rt) pool move.1 move.2 with h | ⟨op, c, next, -, h⟩
  · rw [h]
    exact ⟨List.Subset.refl _, hpool⟩
  · rw [h]
    exact handle_kept move.2 c pool.state hpool

end

/-! ## Runs -/

/-- **What is asked of a run.** Move `m` of client `i` is the insertion of a stitch and move `l` its deletion;
nothing else was written to the incidents in between. -/
structure StitchHolds (rt : StitchRuntime) (schedule : List (Nat × StitchEnv)) (poolAt : Nat → StitchPool rt) :
    Prop where
  stitched : ∀ (i m l : Nat) op alerts r env env', m < l → schedule[m]? = some (i, env) →
    (poolAt m).clients[i]? = some (op, correlating rt alerts) →
    (stitchHandle rt env (.correlate (alerts.map Prod.snd)) (poolAt m).state).1 = .ok r →
    schedule[l]? = some (i, env') → (poolAt l).clients[i]? = some (op, dropping rt r) →
    (poolAt l).state.incidents = (poolAt (m + 1)).state.incidents →
    Stitched (alerts.map Prod.snd) (poolAt (l + 1)).state.incidents ∧
    ((poolAt (l + 1)).state.incidents.corrections = [] → AsReturned r (poolAt (l + 1)).state.incidents) ∧
    -- an alert that was split off before is still there, and apart from those it was split from
    ∀ k c, k < m → (poolAt (k + 1)).state.incidents.corrections = (poolAt k).state.incidents.corrections ++ [c] →
      c.originalIncidentId ≠ c.targetIncidentId →
      c.alertCandidateId ∈ (poolAt (l + 1)).state.incidents.alertIds ∧
      ∀ mate ∈ membersOf (poolAt (k + 1)).state.incidents c.originalIncidentId, ∀ incidentId,
        c.alertCandidateId ∈ membersOf (poolAt (l + 1)).state.incidents incidentId →
          mate ∉ membersOf (poolAt (l + 1)).state.incidents incidentId
  empty : ∀ (i k : Nat) op env, schedule[k]? = some (i, env) →
    (poolAt k).clients[i]? = some (op, correlateStoredAttacks rt) →
    (poolAt (k + 1)).clients[i]? = some (op, .done (.ok .unavailable)) →
    (poolAt (k + 1)).state.incidents.incidents = [] ∧ (poolAt (k + 1)).state.incidents.constituents = []

section
variable {rt : StitchRuntime} {ops : List StitchOp} {flows : List StoredFlow} {schedule : List (Nat × StitchEnv)}

theorem kept_run (k : Nat) : Kept rt (stitchAt rt ops flows schedule k).state.incidents := by
  refine stateAt_inv (I := fun pool : StitchPool rt => Kept rt pool.state.incidents)
    (fun pool move h => (pool_kept pool move h).2) (fun _ => ?_) k
  exact whole_empty _ []

theorem corrections_run {j k : Nat} (hjk : j ≤ k) :
    (stitchAt rt ops flows schedule j).state.incidents.corrections ⊆
      (stitchAt rt ops flows schedule k).state.incidents.corrections :=
  stateAt_rel (I := fun pool : StitchPool rt => Kept rt pool.state.incidents)
    (R := fun a b => a.state.incidents.corrections ⊆ b.state.incidents.corrections)
    (fun pool move h => (pool_kept pool move h).2) (fun _ => whole_empty _ []) (fun _ => List.Subset.refl _)
    (fun _ _ _ => List.Subset.trans) (fun pool move h => (pool_kept pool move h).1) hjk

/-- The state after a move of a client that is about to call. -/
theorem stitchAt_succ {k i : Nat} {env : StitchEnv} (hmove : schedule[k]? = some (i, env)) {op : StitchOp}
    {c : StitchCall rt} {next : c.Reply → StitchProgram rt}
    (hi : (stitchAt rt ops flows schedule k).clients[i]? = some (op, .call c next)) :
    stitchAt rt ops flows schedule (k + 1) =
      { state := (stitchHandle rt env c (stitchAt rt ops flows schedule k).state).2
        clients := (stitchAt rt ops flows schedule k).clients.set i
          (op, resume next (stitchHandle rt env c (stitchAt rt ops flows schedule k).state).1) } :=
  (stateAt_succ _ hmove).trans (poolStep_call _ env hi)

end

theorem stitching_holds (rt : StitchRuntime) (hfree : CollisionFree rt.sha256) (ops : List StitchOp)
    (flows : List StoredFlow) (schedule : List (Nat × StitchEnv))
    (horderly : ∀ (k : Nat) move, schedule[k]? = some move → Orderly rt (stitchAt rt ops flows schedule k) move) :
    StitchHolds rt schedule (stitchAt rt ops flows schedule) := by
  constructor
  · intro i m l op alerts r env env' hml hm hcorrelating hreply hl hdropping hsame
    have hsplitFree : SplitFree (stitchAt rt ops flows schedule m).state.incidents := horderly m _ hm _ _ _ hcorrelating
    have hfault : env'.fault = false := horderly l _ hl _ _ _ hdropping
    -- the insertion
    have hok : (Correlation.correlate env.fault env.now (alerts.map Prod.snd) (fun _ => none)
        (stitchAt rt ops flows schedule m).state.incidents).1 = .ok r := by
      revert hreply
      simp only [stitchHandle]
      cases (Correlation.correlate env.fault env.now (alerts.map Prod.snd) (fun _ => none)
        (stitchAt rt ops flows schedule m).state.incidents).1 with
      | error e => exact fun h => by cases h
      | ok r' => exact fun h => by cases h; rfl
    obtain ⟨hr, hins⟩ := correlate_ok hok
    have hinserted : (stitchAt rt ops flows schedule (m + 1)).state.incidents =
        (Correlation.correlate env.fault env.now (alerts.map Prod.snd) (fun _ => none)
          (stitchAt rt ops flows schedule m).state.incidents).2 := by
      rw [stitchAt_succ hm hcorrelating]
      rfl
    -- the deletion
    have hdropped : (stitchAt rt ops flows schedule (l + 1)).state.incidents =
        dropStale (r.incidents.map (·.incidentId)) (stitchAt rt ops flows schedule l).state.incidents := by
      rw [stitchAt_succ hl hdropping]
      simp only [stitchHandle, hfault, Bool.false_eq_true, if_false]
    rw [← hinserted, ← hsame] at hins
    obtain ⟨hreturned, hstitched⟩ := stitched_exactly hfree (kept_run m hsplitFree) hr hins
    rw [hdropped]
    refine ⟨hstitched, fun _ => hreturned, fun k c hkm hadded hsplit => ?_⟩
    refine absurd (hsplitFree c (corrections_run (Nat.succ_le_of_lt hkm) ?_)) hsplit
    rw [hadded]
    exact List.mem_append_right _ List.mem_cons_self
  · intro i k op env hmove hi hended
    have hcall := horderly k _ hmove _ _ _ hi
    have hsucc := stitchAt_succ hmove hi
    rw [hsucc] at hended ⊢
    obtain ⟨hlt, -⟩ := List.getElem?_eq_some_iff.1 hi
    rw [List.getElem?_set_self hlt] at hended
    have hprogram := (Prod.mk.inj (Option.some.inj hended)).2
    simp only [stitchHandle] at hprogram ⊢
    by_cases hfault : env.fault = true
    · simp only [hfault, if_true, resume] at hprogram
      cases hprogram
    · have hfault : env.fault = false := by simpa using hfault
      simp only [hfault, Bool.false_eq_true, if_false, resume] at hprogram ⊢
      by_cases hempty : (correlatable rt ((attackRows (stitchAt rt ops flows schedule k).state.flows).map
          fun row => (row, env.uuid row.flowId))).isEmpty = true
      · exact hcall hfault (List.isEmpty_iff.1 hempty)
      · rw [if_neg hempty] at hprogram
        cases hprogram

/-! ## A stitch that nothing interrupts -/

section
variable {rt : StitchRuntime} {ops : List StitchOp} {flows : List StoredFlow} {schedule : List (Nat × StitchEnv)}
  {k i : Nat} {env : StitchEnv} {w w' : StitchWorld} {clients : List (StitchOp × StitchProgram rt)} {op : StitchOp}

theorem stitchAt_answered {c : StitchCall rt} {next : c.Reply → StitchProgram rt} {a : c.Reply}
    (hpool : stitchAt rt ops flows schedule k = ⟨w, clients⟩) (hmove : schedule[k]? = some (i, env))
    (hi : clients[i]? = some (op, .call c next)) (h : stitchHandle rt env c w = (.ok a, w')) :
    stitchAt rt ops flows schedule (k + 1) = ⟨w', clients.set i (op, next a)⟩ := by
  rw [stitchAt] at hpool ⊢
  rw [stateAt_succ _ hmove, hpool, poolStep_ok hi h]

/-- The alerts that a stitch finds. -/
def foundIn (rt : StitchRuntime) (flows : List StoredFlow) (env : StitchEnv) : List (ℤ × AlertInput rt.toRuntime) :=
  correlatable rt ((attackRows flows).map fun row => (row, env.uuid row.flowId))

theorem stitchHandle_correlate {alerts : List (AlertInput rt.toRuntime)} {r : IncidentCorrelationResult}
    {stored : List StoredFlow} {db db' : IncidentDb} (hcalm : env.fault = false)
    (hr : Correlation.correlate false env.now alerts (fun _ => none) db = (.ok r, db')) :
    stitchHandle rt env (.correlate alerts) ⟨stored, db⟩ = (.ok r, ⟨stored, db'⟩) := by
  simp only [stitchHandle, hcalm, hr, liftStitch]

/-- The four calls in a row, in one environment without a fault. -/
theorem stitch_alone {stored : List StoredFlow} {db db' : IncidentDb} {r : IncidentCorrelationResult}
    (hpool : stitchAt rt ops flows schedule k = ⟨⟨stored, db⟩, clients⟩)
    (hrow : (schedule.drop k).take 4 = List.replicate 4 (i, env))
    (hi : clients[i]? = some (op, correlateStoredAttacks rt)) (hcalm : env.fault = false)
    (hfound : (foundIn rt stored env).isEmpty = false)
    (hr : Correlation.correlate false env.now ((foundIn rt stored env).map Prod.snd) (fun _ => none) db =
      (.ok r, db')) :
    stitchAt rt ops flows schedule (k + 1) = ⟨⟨stored, db⟩,
      clients.set i (op, correlating rt (foundIn rt stored env))⟩ ∧
    stitchAt rt ops flows schedule (k + 2) = ⟨⟨stored, db'⟩,
      clients.set i (op, marking rt ((foundIn rt stored env).map Prod.fst) r)⟩ ∧
    stitchAt rt ops flows schedule (k + 3) = ⟨⟨stored, db'⟩, clients.set i (op, dropping rt r)⟩ ∧
    stitchAt rt ops flows schedule (k + 4) = ⟨⟨stored, dropStale (r.incidents.map (·.incidentId)) db'⟩,
      clients.set i (op, .ret (.verified (report r)))⟩ := by
  have hmoves : ∀ j < 4, schedule[k + j]? = some (i, env) := by
    intro j hj
    rw [← List.getElem?_drop, ← List.getElem?_take_of_lt hj, hrow, List.getElem?_replicate_of_lt hj]
  obtain ⟨hlt, -⟩ := List.getElem?_eq_some_iff.1 hi
  have hself : ∀ program : StitchProgram rt, (clients.set i (op, program))[i]? = some (op, program) :=
    fun _ => List.getElem?_set_self hlt
  have hread : stitchHandle rt env .attackRows ⟨stored, db⟩ =
      (.ok ((attackRows stored).map fun row => (row, env.uuid row.flowId)), ⟨stored, db⟩) := by
    simp only [stitchHandle, hcalm, Bool.false_eq_true, if_false]
  have hone := stitchAt_answered hpool (hmoves 0 (by decide)) hi hread
  rw [← foundIn, hfound, if_neg Bool.false_ne_true] at hone
  have htwo := stitchAt_answered hone (hmoves 1 (by decide)) (hself _)
    (stitchHandle_correlate hcalm hr)
  rw [List.set_set] at htwo
  have hmark : stitchHandle rt env (.markChecked ((foundIn rt stored env).map Prod.fst))
      ⟨stored, db'⟩ = (.ok (), ⟨stored, db'⟩) := by
    simp only [stitchHandle, hcalm, Bool.false_eq_true, if_false]
  have hthree := stitchAt_answered htwo (hmoves 2 (by decide)) (hself _) hmark
  rw [List.set_set] at hthree
  have hdrop : stitchHandle rt env (.dropStale (r.incidents.map (·.incidentId))) ⟨stored, db'⟩ =
      (.ok (), ⟨stored, dropStale (r.incidents.map (·.incidentId)) db'⟩) := by
    simp only [stitchHandle, hcalm, Bool.false_eq_true, if_false]
  have hfour := stitchAt_answered hthree (hmoves 3 (by decide)) (hself _) hdrop
  rw [List.set_set] at hfour
  exact ⟨hone, htwo, hthree, hfour⟩

end

/-! ## Two flows of one five-tuple -/

def flowOne : StoredFlow where
  flowId := 1
  observedAtUtc := "2026-05-14T21:07:33+00:00"
  decision := "Attack"
  rfAttackProbability := some (.finite (3 / 4) "0.75")
  modelSha256 := sampleArtifact
  entityNamespaceId := some "lab"
  clockSynchronized := some 1
  srcEntityId := some "attacker:10.0.0.5"
  dstEntityId := some "victim:10.0.0.9"
  flowProtocol := some "tcp"
  serviceOrPort := some "443"

def flowTwo : StoredFlow := { flowOne with flowId := 2, observedAtUtc := "2026-05-14T21:07:41+00:00" }

def eventOne : String :=
  "unsw_registered_source_event_v1:971c31ed912c404434d449dd3049dcaa8595eef518505c4e0f2487c5332d5598"
def eventTwo : String :=
  "unsw_registered_source_event_v1:8adefb4de46d19ebb26c02e6aea2411daa01f93f35b59360f5d38790df2d4b5d"
def alertOne : String := "alert_candidate_v1:86477d5ecaf1b475a5638ddbd20abdb1417a898e5af1749dd5e7ddbabc600f4e"
def alertTwo : String := "alert_candidate_v1:775d16e5d7646b7e8456a14ad1f45af8257016ceb158b5929721ab9ccc60a865"

def eventMessage (n : ℤ) : Bytes :=
  identityMessage "threatfusion:source-event"
    [SOURCE_EVENT_ID_SCHEMA_VERSION, UNSW_NB15_ARGUS_RAW_REPRESENTATION_V1, manifestSha256, hex64 n, toString n]

def alertMessage (sourceEventId : String) : Bytes :=
  identityMessage "threatfusion:alert-candidate" [ALERT_CANDIDATE_SCHEMA_VERSION, sourceEventId, DETECTOR_IDENTITY,
    DETECTOR_VERSION, "random_forest", "network_random_forest_baseline_v1", sampleArtifact, DECISION_POLICY_VERSION]

/-- SHA-256 of the two events, their alerts, the burst of both and the split of the first. -/
def stitchDigests : List (Bytes × String) :=
  [(eventMessage 1, "971c31ed912c404434d449dd3049dcaa8595eef518505c4e0f2487c5332d5598"),
    (eventMessage 2, "8adefb4de46d19ebb26c02e6aea2411daa01f93f35b59360f5d38790df2d4b5d"),
    (alertMessage eventOne, "86477d5ecaf1b475a5638ddbd20abdb1417a898e5af1749dd5e7ddbabc600f4e"),
    (alertMessage eventTwo, "775d16e5d7646b7e8456a14ad1f45af8257016ceb158b5929721ab9ccc60a865"),
    (identityMessage "threatfusion:incident"
      [INCIDENT_SCHEMA_VERSION, CorrelationRule.burst5tuple.text, alertTwo, alertOne],
      "f2b4acabd490d473fe4d1a6e2d5b7b5514382629805ada038542fbbeb2b737f1"),
    (identityMessage "threatfusion:incident"
      [INCIDENT_SCHEMA_VERSION, CorrelationRule.manualCorrectionSplit.text, alertOne],
      "be7f43a263c5892d00082b3fd29e344f5f7dcf37ce6c3f26a22b2c28e960cb47")]

theorem stitchDigests_injective : Function.Injective (tableDigest stitchDigests) :=
  tableDigest_injective (by decide +kernel) (by decide +kernel)

def timeOne : DateTime := ⟨2026, 5, 14, 21, 7, 33, 0, by decide, by decide⟩
def timeTwo : DateTime := ⟨2026, 5, 14, 21, 7, 41, 0, by decide, by decide⟩

def stitchRuntime : StitchRuntime where
  sha256 := tableDigest stitchDigests
  fromisoformat s :=
    if s = flowOne.observedAtUtc then some ⟨timeOne.micros, some 0⟩
    else if s = flowTwo.observedAtUtc then some ⟨timeTwo.micros, some 0⟩ else none
  lower := String.toLower
  round := roundDouble
  wallClock d := if d.localMicros = timeOne.micros then timeOne else timeTwo

def stitchEnv : StitchEnv where
  now := "2026-05-14T21:08:00+00:00"
  uuid n := if n = 1 then "7f9c24e8-3b1a-4f6d-9e2b-5c8d0a1f3e47" else "0b5d6a2c-91e4-4c7f-8a36-d2f410c97b58"

/-- The analyst splits the first alert off the burst. -/
def splitRequest : CorrectionRequest where
  alertCandidateId := alertOne
  newIncidentId := none
  actorId := "analyst"
  reason := "a scheduled scan"
  correctionRequestId := "correction-1"
  now := "2026-05-14T21:09:00+00:00"
  choice := 0

def splitOps : List StitchOp := [.stitch, .correct splitRequest, .stitch]

def splitSchedule : List (Nat × StitchEnv) :=
  List.replicate 4 (0, stitchEnv) ++ [(1, stitchEnv)] ++ List.replicate 4 (2, stitchEnv)

def burst : IncidentRecord where
  schemaVersion := INCIDENT_SCHEMA_VERSION
  incidentId := "incident_v1:f2b4acabd490d473fe4d1a6e2d5b7b5514382629805ada038542fbbeb2b737f1"
  correlationMode := .burstCorrelated
  windowType := .burst30s
  correlationRuleId := .burst5tuple
  entityNamespaceId := some "lab"
  constituentAlertCount := 2
  maxProbabilityScore := .finite (3 / 4) "0.75"
  escalatedDecision := "Attack"
  earliestObservedAt := flowOne.observedAtUtc
  latestObservedAt := flowTwo.observedAtUtc
  provenanceStatus := "verified_entity_bearing"
  createdAt := stitchEnv.now
  constituentAlertIds := [alertOne, alertTwo]
  memberJustifications := [(alertOne, 0), (alertTwo, 8)].map fun (id, deltaSeconds) => (id,
    { anchorAlertId := alertOne
      deltaSeconds
      matchedRelationshipKey := "attacker:10.0.0.5:victim:10.0.0.9:tcp:443"
      ruleId := .burst5tuple
      provenanceSummary := "namespace=lab,clock_synchronized=True,skew=0.0s" })

/-- The tables after the first stitch, and after the split. -/
def burstDb : IncidentDb where
  incidents := [burst.toIncidentRow]
  constituents := burst.constituentAlertIds.map (constituentRow burst)

def splitIncidentId : String := "incident_v1:be7f43a263c5892d00082b3fd29e344f5f7dcf37ce6c3f26a22b2c28e960cb47"

def correctedDb : IncidentDb := (correctIncidentGrouping stitchRuntime.sha256 false splitRequest burstDb).2

theorem correctedDb_rows : correctedDb.corrections =
      burstDb.corrections ++ [splitRequest.row burst.incidentId splitIncidentId] ∧
    alertOne ∉ (dropStale [burst.incidentId] correctedDb).alertIds := by
  decide +kernel

theorem found_burst : sortedIncidents stitchEnv.now
    (itemsOf ((foundIn stitchRuntime [flowOne, flowTwo] stitchEnv).map Prod.snd) fun _ => none) = [burst] := by
  decide +kernel

theorem found_nonempty : (foundIn stitchRuntime [flowOne, flowTwo] stitchEnv).isEmpty = false := by
  have hburst := found_burst
  cases hfound : foundIn stitchRuntime [flowOne, flowTwo] stitchEnv with
  | nil =>
    rw [hfound] at hburst
    cases hburst
  | cons => rfl

theorem correlate_burst {db db' : IncidentDb} (hins : insertAll [burst] db = .ok db') :
    ∃ r, Correlation.correlate false stitchEnv.now
      ((foundIn stitchRuntime [flowOne, flowTwo] stitchEnv).map Prod.snd) (fun _ => none) db = (.ok r, db') ∧
        r.incidents = [burst] := by
  have hne : (foundIn stitchRuntime [flowOne, flowTwo] stitchEnv).map Prod.snd ≠ [] := by
    intro h
    have hnil := found_nonempty
    rw [List.map_eq_nil_iff.1 h] at hnil
    cases hnil
  have hr := correlate_eq stitchEnv.now (fun _ => none) hne
  rw [found_burst] at hr
  rw [Correlation.correlate, hr]
  simp only [List.isEmpty_cons, Bool.false_eq_true, if_false, insertMany, hins, Except.map, transaction]
  exact ⟨_, rfl, rfl⟩

theorem splitSchedule_four : ∃ first, stitchAt stitchRuntime splitOps [flowOne, flowTwo] splitSchedule 4 =
    ⟨⟨[flowOne, flowTwo], burstDb⟩, [(.stitch, first),
      (.correct splitRequest, StitchOp.program stitchRuntime (.correct splitRequest)),
      (.stitch, correlateStoredAttacks stitchRuntime)]⟩ := by
  obtain ⟨r, hr, hincidents⟩ := @correlate_burst {} burstDb rfl
  obtain ⟨-, -, -, hdone⟩ := @stitch_alone stitchRuntime splitOps [flowOne, flowTwo] splitSchedule 0 0 stitchEnv
    _ .stitch [flowOne, flowTwo] {} burstDb r rfl rfl rfl rfl found_nonempty hr
  rw [hincidents] at hdone
  exact ⟨_, hdone⟩

theorem splitSchedule_five : ∃ first second, stitchAt stitchRuntime splitOps [flowOne, flowTwo] splitSchedule 5 =
    ⟨⟨[flowOne, flowTwo], correctedDb⟩,
    [(.stitch, first), (.correct splitRequest, second), (.stitch, correlateStoredAttacks stitchRuntime)]⟩ := by
  obtain ⟨first, hfour⟩ := splitSchedule_four
  have hok : (correctIncidentGrouping stitchRuntime.sha256 false splitRequest burstDb).1.isOk = true := by
    decide +kernel
  cases hreply : (correctIncidentGrouping stitchRuntime.sha256 false splitRequest burstDb).1 with
  | error e =>
    rw [hreply] at hok
    cases hok
  | ok inc =>
    have hsplit : stitchHandle stitchRuntime stitchEnv (.correct splitRequest) ⟨[flowOne, flowTwo], burstDb⟩ =
        (.ok inc, ⟨[flowOne, flowTwo], correctedDb⟩) := by
      simp only [stitchHandle, stitchEnv, hreply, liftStitch, correctedDb]
    exact ⟨_, _, @stitchAt_answered stitchRuntime _ _ _ 4 1 stitchEnv _ _ _ _ _ _ _ hfour rfl rfl hsplit⟩

/-- The second stitch deletes the incident that the correction made, as one the correlator did not return, and
skips the burst, which is stored without the alert. -/
theorem split_alert_dropped :
    ¬ ∀ (rt : StitchRuntime), CollisionFree rt.sha256 → ∀ (ops : List StitchOp) (flows : List StoredFlow)
      (schedule : List (Nat × StitchEnv)), StitchHolds rt schedule (stitchAt rt ops flows schedule) := by
  intro h
  have hrun := (h stitchRuntime (collisionFree_of_injective stitchDigests_injective) splitOps [flowOne, flowTwo]
    splitSchedule).stitched
  obtain ⟨first, second, hfive⟩ := splitSchedule_five
  obtain ⟨r, hr, hincidents⟩ := @correlate_burst correctedDb correctedDb (by decide +kernel)
  have hrow : (splitSchedule.drop 5).take 4 = List.replicate 4 (2, stitchEnv) := rfl
  have hi : [(StitchOp.stitch, first), (.correct splitRequest, second),
      (.stitch, correlateStoredAttacks stitchRuntime)][2]? = some (.stitch, correlateStoredAttacks stitchRuntime) := rfl
  have hcalm : stitchEnv.fault = false := rfl
  obtain ⟨hsix, hseven, height, hnine⟩ := @stitch_alone stitchRuntime splitOps [flowOne, flowTwo] splitSchedule 5 2
    stitchEnv _ .stitch [flowOne, flowTwo] correctedDb correctedDb r hfive hrow hi hcalm found_nonempty hr
  have hreply : (stitchHandle stitchRuntime stitchEnv
      (.correlate ((foundIn stitchRuntime [flowOne, flowTwo] stitchEnv).map Prod.snd))
      (stitchAt stitchRuntime splitOps [flowOne, flowTwo] splitSchedule 6).state).1 = .ok r := by
    rw [hsix, stitchHandle_correlate hcalm hr]
  have hinserting : (stitchAt stitchRuntime splitOps [flowOne, flowTwo] splitSchedule 6).clients[2]? =
      some (.stitch, correlating stitchRuntime (foundIn stitchRuntime [flowOne, flowTwo] stitchEnv)) := by
    rw [hsix]
    rfl
  have hdropping : (stitchAt stitchRuntime splitOps [flowOne, flowTwo] splitSchedule 8).clients[2]? =
      some (.stitch, dropping stitchRuntime r) := by
    rw [height]
    rfl
  have hsame : (stitchAt stitchRuntime splitOps [flowOne, flowTwo] splitSchedule 8).state.incidents =
      (stitchAt stitchRuntime splitOps [flowOne, flowTwo] splitSchedule 7).state.incidents := by
    rw [hseven, height]
  obtain ⟨-, -, hkept⟩ := hrun 2 6 8 .stitch _ r stitchEnv stitchEnv (by decide) rfl hinserting hreply rfl hdropping
    hsame
  have hadded : (stitchAt stitchRuntime splitOps [flowOne, flowTwo] splitSchedule (4 + 1)).state.incidents.corrections =
      (stitchAt stitchRuntime splitOps [flowOne, flowTwo] splitSchedule 4).state.incidents.corrections ++
        [splitRequest.row burst.incidentId splitIncidentId] := by
    obtain ⟨first', hfour⟩ := splitSchedule_four
    rw [hfive, hfour]
    exact correctedDb_rows.1
  obtain ⟨hgone, -⟩ := hkept 4 _ (by decide) hadded (by decide)
  rw [hnine, hincidents] at hgone
  exact correctedDb_rows.2 hgone

/-- One stitch of the two flows, with nothing else going on. -/
theorem stitching_holds_burst :
    StitchHolds stitchRuntime (List.replicate 4 (0, stitchEnv))
      (stitchAt stitchRuntime [.stitch] [flowOne, flowTwo] (List.replicate 4 (0, stitchEnv))) := by
  obtain ⟨r, hr, -⟩ := @correlate_burst {} burstDb rfl
  obtain ⟨hone, htwo, hthree, -⟩ := @stitch_alone stitchRuntime [.stitch] [flowOne, flowTwo]
    (List.replicate 4 (0, stitchEnv)) 0 0 stitchEnv _ .stitch [flowOne, flowTwo] {} burstDb r rfl rfl rfl rfl
    found_nonempty hr
  refine stitching_holds stitchRuntime (collisionFree_of_injective stitchDigests_injective) _ _ _ ?_
  rintro k ⟨i, env⟩ hmove op c next hi
  match k with
  | 0 =>
    cases hmove
    cases hi
    exact fun _ _ => ⟨rfl, rfl⟩
  | 1 =>
    cases hmove
    rw [hone] at hi ⊢
    cases hi
    exact fun _ h => absurd h List.not_mem_nil
  | 2 =>
    cases hmove
    rw [htwo] at hi
    cases hi
    exact trivial
  | 3 =>
    cases hmove
    rw [hthree] at hi
    cases hi
    rfl
  | k + 4 => cases hmove

end ThreatFusion.LiveConsole.Stitch
