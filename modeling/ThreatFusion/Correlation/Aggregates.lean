import ThreatFusion.Correlation.ArrivalOrder
import ThreatFusion.Correlation.Corrections
/-
# The stored aggregates and the members they are about

`incidents` stores the count, the greatest score and the two times of an incident beside its constituent
rows. A split (:1343-1410) decrements the count, and copies the score and the times of the old incident to
the new one; neither row is computed from the alerts.

* `Counted`: what holds in every run, the count and the justification of every member.
* `split_extremes_iff`: a split keeps the score and the times right only when it is an `EvenSplit`.
* `aggregates_iff`: so a run does only when all of its splits are.
-/
namespace ThreatFusion.Correlation
open Py Alerts Grouping Machine
variable {rt : Runtime}

/-- An incident of `correlate_alert_candidates` for alerts that are those of the alert store. -/
def Produced (alertOf : String → AlertCandidate rt.sha256) (inc : IncidentRecord) : Prop :=
  ∃ now alerts provenanceMap r, correlateAlertCandidates now alerts provenanceMap = .ok r ∧ inc ∈ r.incidents ∧
    ∀ a ∈ alerts, alertOf a.id = a.alert

/-- The rows of an incident. -/
def rowsOf (db : IncidentDb) (incidentId : String) : List ConstituentRow :=
  db.constituents.filter (·.incidentId = incidentId)

/-- The alerts that are members of an incident. -/
def membersOf (alertOf : String → AlertCandidate rt.sha256) (db : IncidentDb) (incidentId : String) :
    List (AlertCandidate rt.sha256) :=
  (rowsOf db incidentId).map fun c => alertOf c.alertCandidateId

/-- The greatest score, the earliest and the latest time of some alerts. -/
structure Extremes (cands : List (AlertCandidate rt.sha256)) (row : IncidentRow) : Prop where
  maxScore : ∃ c ∈ cands, row.maxProbabilityScore.eq c.uncalibratedModelScore = true ∧
    ∀ d ∈ cands, d.uncalibratedModelScore.le c.uncalibratedModelScore = true
  earliest : ∃ c ∈ cands, row.earliestObservedAt = c.observedAt.isoformat ∧
    ∀ d ∈ cands, c.observedAt.micros ≤ d.observedAt.micros
  latest : ∃ c ∈ cands, row.latestObservedAt = c.observedAt.isoformat ∧
    ∀ d ∈ cands, d.observedAt.micros ≤ c.observedAt.micros

/-- The stored aggregates describe the members. -/
structure Aggregates (alertOf : String → AlertCandidate rt.sha256) (db : IncidentDb) (row : IncidentRow) : Prop where
  count : row.constituentAlertCount = (rowsOf db row.incidentId).length
  positive : 1 ≤ row.constituentAlertCount
  justified : (recordOf db row).memberJustifications.map Prod.fst = (recordOf db row).constituentAlertIds
  extremes : Extremes (membersOf alertOf db row.incidentId) row

theorem score_position (c : AlertCandidate rt.sha256) :
    c.uncalibratedModelScore.position = some (0, scoreValue c) := by
  obtain ⟨v, r, hc⟩ := score_finite c
  simp [scoreValue, hc, PyFloat.position]

theorem score_eq {x : PyFloat} {c : AlertCandidate rt.sha256} :
    x.eq c.uncalibratedModelScore = true ↔ x.position = some (0, scoreValue c) := by
  rw [PyFloat.eq, score_position, Bool.and_eq_true, beq_iff_eq]
  exact ⟨And.right, fun h => ⟨by rw [h]; rfl, h⟩⟩

/-! ## What correlation produces -/

theorem Produced.describes {alertOf : String → AlertCandidate rt.sha256} {inc : IncidentRecord}
    (h : Produced alertOf inc) : ∃ cands : List (AlertCandidate rt.sha256), Describes cands inc ∧
      inc.constituentAlertIds.Nodup ∧ ∀ c ∈ cands, alertOf c.alertCandidateId = c := by
  obtain ⟨now, alerts, provenanceMap, r, hr, hinc, halerts⟩ := h
  by_cases hne : alerts = []
  · subst hne
    cases hr
    exact absurd hinc List.not_mem_nil
  · rw [correlate_eq now provenanceMap hne] at hr
    cases hr
    obtain ⟨hids, hmem⟩ := sortedIncidents_spec now alerts provenanceMap
    have hnodup := hids.nodup_iff.2 (itemsOf_nodup alerts provenanceMap)
    obtain ⟨its, hits, hd⟩ := hmem inc hinc
    refine ⟨its.map (·.candidate), hd, (List.nodup_flatMap.1 hnodup).1 inc hinc, fun c hc => ?_⟩
    obtain ⟨it, hit, rfl⟩ := List.mem_map.1 hc
    obtain ⟨a, ha, rfl⟩ := List.mem_map.1 (hits it hit)
    exact halerts a (List.mem_of_find?_eq_some (mem_distinctBy.1 ha))

/-- The rows of a produced incident are those of its alerts, all justified. -/
theorem Produced.rows {alertOf : String → AlertCandidate rt.sha256} {inc : IncidentRecord}
    (h : Produced alertOf inc) :
    (inc.constituentAlertIds.map (constituentRow inc)).length = inc.constituentAlertCount ∧
    1 ≤ inc.constituentAlertCount ∧
    (∀ c ∈ inc.constituentAlertIds.map (constituentRow inc), c.memberJustification.isSome = true) ∧
    Extremes ((inc.constituentAlertIds.map (constituentRow inc)).map fun c => alertOf c.alertCandidateId)
      inc.toIncidentRow := by
  obtain ⟨cands, hd, -, hcands⟩ := h.describes
  have hmembers : ((inc.constituentAlertIds.map (constituentRow inc)).map fun c => alertOf c.alertCandidateId) =
      cands := by
    rw [List.map_map, hd.constituents, List.map_map]
    exact (List.map_congr_left hcands).trans (List.map_id _)
  refine ⟨?_, ?_, fun c hc => ?_, ?_⟩
  · rw [List.length_map, hd.constituents, List.length_map, hd.count]
  · obtain ⟨c, hc, -⟩ := hd.maxScore
    rw [hd.count]
    exact List.length_pos_of_mem hc
  · obtain ⟨aid, haid, rfl⟩ := List.mem_map.1 hc
    have hkey : aid ∈ inc.memberJustifications.map Prod.fst := by rwa [hd.justified, ← hd.constituents]
    obtain ⟨p, hp, rfl⟩ := List.mem_map.1 hkey
    exact List.lookup_isSome_iff.2 ⟨p, hp, by simp⟩
  · rw [hmembers]
    refine ⟨?_, hd.earliest, hd.latest⟩
    obtain ⟨c, hc, hscore, hall⟩ := hd.maxScore
    exact ⟨c, hc, by rw [hscore, score_eq, score_position], hall⟩

/-! ## The rows of an incident, operation by operation -/

theorem rowsOf_unstored {db : IncidentDb} (hdb : Keyed db) {incidentId : String} (hst : ¬ db.stored incidentId = true) :
    rowsOf db incidentId = [] := by
  refine List.filter_eq_nil_iff.2 fun c hc hid => hst (stored_iff.2 ?_)
  exact of_decide_eq_true hid ▸ hdb.owned c hc

/-- Inserting an incident adds its rows and leaves those of the others. -/
theorem rowsOf_insert {db : IncidentDb} (hdb : Keyed db) {inc : IncidentRecord}
    (hst : ¬ db.stored inc.incidentId = true) (incidents : List IncidentRow) (incidentId : String) :
    rowsOf { db with
        incidents := incidents
        constituents := db.constituents ++ inc.constituentAlertIds.map (constituentRow inc) } incidentId =
      if incidentId = inc.incidentId then inc.constituentAlertIds.map (constituentRow inc) else rowsOf db incidentId := by
  have hrows := rowsOf_unstored hdb hst
  unfold rowsOf at hrows ⊢
  simp only [List.filter_append]
  by_cases heq : incidentId = inc.incidentId
  · subst heq
    rw [if_pos rfl, hrows, List.nil_append, List.filter_eq_self]
    intro c hc
    obtain ⟨aid, -, rfl⟩ := List.mem_map.1 hc
    exact decide_eq_true rfl
  · rw [if_neg heq, List.append_right_eq_self.2 (List.filter_eq_nil_iff.2 ?_)]
    intro c hc hid
    obtain ⟨aid, -, rfl⟩ := List.mem_map.1 hc
    exact heq (of_decide_eq_true hid).symm

/-- The rows that a split leaves to the old incident. -/
def remaining (db : IncidentDb) (q : CorrectionRequest) (incidentId : String) : List ConstituentRow :=
  (rowsOf db incidentId).filter fun c => c.alertCandidateId ≠ q.alertCandidateId

def splitRowOf (q : CorrectionRequest) (target : String) : ConstituentRow :=
  ⟨target, q.alertCandidateId, some (splitJustification q)⟩

/-- A split moves the row of the alert from the old incident to the new one. -/
theorem rowsOf_split {db : IncidentDb} (hdb : Keyed db) {q : CorrectionRequest} {original : IncidentRow}
    (hmem : original ∈ db.incidents) {target : String} (hst : ¬ db.stored target = true) (incidentId : String) :
    rowsOf (splitDb q original target db) incidentId =
      if incidentId = target then [splitRowOf q target]
      else if incidentId = original.incidentId then remaining db q original.incidentId else rowsOf db incidentId := by
  have hne : original.incidentId ≠ target := fun h => hst (stored_iff.2 (List.mem_map.2 ⟨original, hmem, h⟩))
  have hkept : (keptRows q original.incidentId db).filter (fun c => decide (c.incidentId = incidentId)) =
      if incidentId = original.incidentId then remaining db q original.incidentId else rowsOf db incidentId := by
    unfold keptRows remaining rowsOf
    rw [List.filter_filter]
    by_cases heq : incidentId = original.incidentId
    · subst heq
      rw [if_pos rfl, List.filter_filter]
      refine List.filter_congr fun c _ => ?_
      by_cases hc : c.incidentId = original.incidentId <;> simp [hc, beq_eq_decide]
    · rw [if_neg heq]
      refine List.filter_congr fun c _ => ?_
      by_cases hc : c.incidentId = incidentId
      · have hother : (c.incidentId == original.incidentId) = false := beq_eq_false_iff_ne.2 fun h => heq (hc ▸ h)
        simp [hother]
      · simp [hc]
  have hsplit : rowsOf (splitDb q original target db) incidentId =
      (keptRows q original.incidentId db).filter (fun c => decide (c.incidentId = incidentId)) ++
        [splitRowOf q target].filter (fun c => decide (c.incidentId = incidentId)) := List.filter_append ..
  rw [hsplit, hkept]
  by_cases heq : incidentId = target
  · subst heq
    rw [if_pos rfl, if_neg hne.symm, rowsOf_unstored hdb hst, List.filter_singleton]
    simp [splitRowOf]
  · rw [if_neg heq, List.filter_singleton]
    have hother : ¬ (splitRowOf q target).incidentId = incidentId := fun h => heq h.symm
    simp [hother]

/-! ## Counts and justifications, in every run -/

/-- One row for each incident and alert, all justified, and counts that are theirs. -/
structure Counted (db : IncidentDb) : Prop extends Targets db where
  memberKeys : (db.constituents.map fun c => (c.incidentId, c.alertCandidateId)).Nodup
  counts : ∀ row ∈ db.incidents, row.constituentAlertCount = (rowsOf db row.incidentId).length
  positive : ∀ row ∈ db.incidents, 1 ≤ row.constituentAlertCount
  justified : ∀ c ∈ db.constituents, c.memberJustification.isSome = true

theorem memberKeys_insert {db : IncidentDb} (hdb : Keyed db)
    (hkeys : (db.constituents.map fun c => (c.incidentId, c.alertCandidateId)).Nodup) {inc : IncidentRecord}
    (hst : ¬ db.stored inc.incidentId = true) (hnodup : inc.constituentAlertIds.Nodup) :
    ((db.constituents ++ inc.constituentAlertIds.map (constituentRow inc)).map
      fun c => (c.incidentId, c.alertCandidateId)).Nodup := by
  rw [List.map_append, List.nodup_append]
  refine ⟨hkeys, ?_, ?_⟩
  · rw [List.map_map]
    exact hnodup.map fun a b h => (Prod.mk.inj h).2
  · intro a ha b hb hab
    obtain ⟨c, hc, rfl⟩ := List.mem_map.1 ha
    rw [List.map_map] at hb
    obtain ⟨aid, -, rfl⟩ := List.mem_map.1 hb
    have hid : c.incidentId = inc.incidentId := (Prod.mk.inj hab).1
    exact hst (stored_iff.2 (hid ▸ hdb.owned c hc))

theorem insertIncident_counted {alertOf : String → AlertCandidate rt.sha256} {inc : IncidentRecord}
    (hinc : Produced alertOf inc) {db db' : IncidentDb} (hdb : Counted db) (h : insertIncident db inc = .ok db') :
    Counted db' := by
  have htargets := insertIncident_targets hdb.toTargets h
  rcases insertIncident_eq h with rfl | ⟨hst, rfl⟩
  · exact hdb
  · obtain ⟨cands, -, hnodup, -⟩ := hinc.describes
    obtain ⟨hcount, hpositive, hjustified, -⟩ := hinc.rows
    have hother {row : IncidentRow} (hrow : row ∈ db.incidents) : row.incidentId ≠ inc.incidentId :=
      fun heq => hst (stored_iff.2 (List.mem_map.2 ⟨row, hrow, heq⟩))
    refine ⟨htargets, memberKeys_insert hdb.toKeyed hdb.memberKeys hst hnodup, fun row hrow => ?_, fun row hrow => ?_,
      fun c hc => ?_⟩
    · rw [rowsOf_insert hdb.toKeyed hst]
      rcases List.mem_append.1 hrow with hrow | hrow
      · rw [if_neg (hother hrow)]
        exact hdb.counts row hrow
      · rw [List.mem_singleton.1 hrow, if_pos rfl]
        exact hcount.symm
    · rcases List.mem_append.1 hrow with hrow | hrow
      · exact hdb.positive row hrow
      · rw [List.mem_singleton.1 hrow]
        exact hpositive
    · rcases List.mem_append.1 hc with hc | hc
      · exact hdb.justified c hc
      · exact hjustified c hc

/-- One row of an incident has the alert. -/
theorem remaining_length {db : IncidentDb} (hdb : Counted db) {q : CorrectionRequest} {incidentId : String}
    {c : ConstituentRow} (hc : c ∈ db.constituents) (hid : c.incidentId = incidentId)
    (halert : c.alertCandidateId = q.alertCandidateId) :
    (remaining db q incidentId).length = (rowsOf db incidentId).length - 1 := by
  have hrow : c ∈ rowsOf db incidentId := List.mem_filter.2 ⟨hc, decide_eq_true hid⟩
  have hnodup : ((rowsOf db incidentId).map (·.alertCandidateId)).Nodup := by
    have hkeys : ((rowsOf db incidentId).map fun c => (c.incidentId, c.alertCandidateId)).Nodup :=
      hdb.memberKeys.sublist (List.filter_sublist.map _)
    have hsame : ((rowsOf db incidentId).map fun c => (c.incidentId, c.alertCandidateId)) =
        ((rowsOf db incidentId).map (·.alertCandidateId)).map fun a => (incidentId, a) := by
      rw [List.map_map]
      exact List.map_congr_left fun c hc => by rw [← of_decide_eq_true (List.mem_filter.1 hc).2]; rfl
    rw [hsame] at hkeys
    exact hkeys.of_map
  have hone : (rowsOf db incidentId).countP (fun c => decide (c.alertCandidateId = q.alertCandidateId)) = 1 := by
    have hcount := List.count_eq_one_of_mem hnodup (List.mem_map_of_mem hrow)
    rw [halert, List.count, List.countP_map] at hcount
    simpa only [Function.comp_def, beq_eq_decide] using hcount
  have hsum := List.length_eq_countP_add_countP (fun c => decide (c.alertCandidateId = q.alertCandidateId))
    (l := rowsOf db incidentId)
  rw [hone] at hsum
  have hlength : (remaining db q incidentId).length =
      (rowsOf db incidentId).countP fun c => ¬ decide (c.alertCandidateId = q.alertCandidateId) = true := by
    rw [remaining, ← List.countP_eq_length_filter]
    exact List.countP_congr fun c _ => by simp
  omega

theorem split_counted {db : IncidentDb} (hdb : Counted db) {q : CorrectionRequest} {original : IncidentRow}
    {target : String} (hsplits : Splits db q original) (hst : ¬ db.stored target = true)
    (htargets : Targets (splitDb q original target db)) : Counted (splitDb q original target db) := by
  obtain ⟨c, hc, halert, hid, hmem⟩ := mem_currentIncidents (fetchOne_mem hsplits.found)
  have hstored {row : IncidentRow} (hrow : row ∈ db.incidents) : row.incidentId ≠ target :=
    fun heq => hst (stored_iff.2 (List.mem_map.2 ⟨row, hrow, heq⟩))
  refine ⟨htargets, ?_, fun row hrow => ?_, fun row hrow => ?_, fun c' hc' => ?_⟩
  · simp only [splitDb, List.map_append, List.map_singleton, List.nodup_append]
    refine ⟨hdb.memberKeys.sublist (List.filter_sublist.map _), List.nodup_singleton _, fun a ha b hb hab => ?_⟩
    obtain ⟨c', hc', rfl⟩ := List.mem_map.1 ha
    rw [List.mem_singleton.1 hb] at hab
    exact hst (stored_iff.2 ((Prod.mk.inj hab).1 ▸ hdb.owned c' (List.mem_filter.1 hc').1))
  · rw [rowsOf_split hdb.toKeyed hmem hst]
    rcases List.mem_append.1 hrow with hrow | hrow
    · obtain ⟨old, hold, rfl⟩ := List.mem_map.1 hrow
      rw [counted_incidentId, if_neg (hstored hold)]
      by_cases heq : old.incidentId = original.incidentId
      · rw [if_pos heq, counted, if_pos heq, remaining_length hdb hc hid halert, ← hdb.counts original hmem,
          eq_of_incidentId hdb.toKeyed hold hmem heq]
      · rw [if_neg heq, counted, if_neg heq]
        exact hdb.counts old hold
    · rw [List.mem_singleton.1 hrow]
      simp [splitRow]
  · rcases List.mem_append.1 hrow with hrow | hrow
    · obtain ⟨old, hold, rfl⟩ := List.mem_map.1 hrow
      by_cases heq : old.incidentId = original.incidentId
      · rw [counted, if_pos heq, eq_of_incidentId hdb.toKeyed hold hmem heq]
        exact Nat.le_sub_of_add_le hsplits.several
      · rw [counted, if_neg heq]
        exact hdb.positive old hold
    · rw [List.mem_singleton.1 hrow]
      exact Nat.le_refl 1
  · rcases List.mem_append.1 hc' with hc' | hc'
    · exact hdb.justified c' (List.mem_filter.1 hc').1
    · rw [List.mem_singleton.1 hc']
      rfl

theorem insertAll_counted {alertOf : String → AlertCandidate rt.sha256} :
    ∀ {incs : List IncidentRecord} {db db' : IncidentDb}, (∀ inc ∈ incs, Produced alertOf inc) → Counted db →
      insertAll incs db = .ok db' → Counted db'
  | [], _, _, _, hdb, h => by
    cases h
    exact hdb
  | inc :: rest, db, db', hincs, hdb, h => by
    rw [insertAll] at h
    split at h
    · cases h
    · rename_i db₁ hone
      have hdb₁ := insertIncident_counted (hincs inc List.mem_cons_self) hdb hone
      exact insertAll_counted (fun i hi => hincs i (List.mem_cons_of_mem _ hi)) hdb₁ h

theorem corrects_counted {sha256 : Bytes → String} {q : CorrectionRequest} {db db' : IncidentDb}
    {reply : Except IncidentRepositoryError Correction} (hdb : Counted db) (h : Corrects sha256 q db reply db') :
    Counted db' := by
  have htargets := corrects_targets hdb.toTargets h
  cases h with
  | replayed => exact hdb
  | conflict => exact hdb
  | notFound => exact hdb
  | taken => exact hdb
  | singleton original hnew hfound hone =>
    exact ⟨htargets, hdb.memberKeys, hdb.counts, hdb.positive, hdb.justified⟩
  | split original hsplits hst => exact split_counted hdb hsplits hst htargets

/-- Runs that insert what correlation produces. -/
def InsertsProduced (alertOf : String → AlertCandidate rt.sha256) (calls : List RepositoryCall) : Prop :=
  ∀ call ∈ calls, ∀ inc ∈ call.incidents, Produced alertOf inc

theorem counted_at {alertOf : String → AlertCandidate rt.sha256} {sha256 : Bytes → String}
    {calls : List RepositoryCall} (hcalls : InsertsProduced alertOf calls) (k : Nat) :
    Counted (tablesAt sha256 calls k) := by
  refine stateAt_inv_of (I := Counted) (A := fun _ call => ∀ inc ∈ call.incidents, Produced alertOf inc)
    (fun db call hdb hcall => ?_) ?_ (fun k call hcall => hcalls call (List.mem_of_getElem? hcall)) k
  · rcases repositoryStep_cases sha256 hdb.toTargets call with h | h | ⟨q, outcome, -, -, h⟩
    · rw [h]
      exact hdb
    · exact insertAll_counted hcall hdb h
    · exact corrects_counted hdb h
  · exact ⟨targets_empty, List.nodup_nil, fun _ h => absurd h List.not_mem_nil, fun _ h => absurd h List.not_mem_nil,
      fun _ h => absurd h List.not_mem_nil⟩

theorem justified_keys : ∀ {rows : List ConstituentRow}, (∀ c ∈ rows, c.memberJustification.isSome = true) →
    (rows.filterMap fun r => r.memberJustification.map (r.alertCandidateId, ·)).map Prod.fst =
      rows.map (·.alertCandidateId)
  | [], _ => rfl
  | c :: rows, h => by
    obtain ⟨j, hj⟩ := Option.isSome_iff_exists.1 (h c List.mem_cons_self)
    have ih := justified_keys fun c' hc' => h c' (List.mem_cons_of_mem _ hc')
    rw [List.filterMap_cons, hj, Option.map_some, List.map_cons, List.map_cons, ih]

theorem Counted.aggregates {alertOf : String → AlertCandidate rt.sha256} {db : IncidentDb} (hdb : Counted db)
    {row : IncidentRow} (hrow : row ∈ db.incidents) (h : Extremes (membersOf alertOf db row.incidentId) row) :
    Aggregates alertOf db row where
  count := hdb.counts row hrow
  positive := hdb.positive row hrow
  justified := justified_keys fun c hc =>
    hdb.justified c (List.mem_filter.1 ((List.mem_insertionSort _).1 hc)).1
  extremes := h

/-! ## Scores and times -/

/-- The score and the times of every incident are those of its members. -/
def Described (alertOf : String → AlertCandidate rt.sha256) (db : IncidentDb) : Prop :=
  ∀ row ∈ db.incidents, Extremes (membersOf alertOf db row.incidentId) row

/-- Rows that differ in other columns. -/
theorem Extremes.columns {cands : List (AlertCandidate rt.sha256)} {row row' : IncidentRow} (h : Extremes cands row)
    (hscore : row'.maxProbabilityScore = row.maxProbabilityScore)
    (hearliest : row'.earliestObservedAt = row.earliestObservedAt)
    (hlatest : row'.latestObservedAt = row.latestObservedAt) : Extremes cands row' := by
  obtain ⟨hmax, hfirst, hlast⟩ := h
  exact ⟨by rwa [hscore], by rwa [hearliest], by rwa [hlatest]⟩

/-- The alert `own` can leave `rest` with the aggregates of both right: it has the greatest score, so has
another member, and all were observed at one time. -/
structure Even (own : AlertCandidate rt.sha256) (rest : List (AlertCandidate rt.sha256)) : Prop where
  greatest : ∀ c ∈ rest, scoreValue c ≤ scoreValue own
  shared : ∃ c ∈ rest, scoreValue c = scoreValue own
  together : ∀ c ∈ rest, c.observedAt = own.observedAt

/-- Aggregates that describe all members describe `own` and the rest, each alone, when the split is even. -/
theorem extremes_split {cands rest : List (AlertCandidate rt.sha256)} {own : AlertCandidate rt.sha256}
    (hcands : ∀ c, c ∈ cands ↔ c = own ∨ c ∈ rest) {row : IncidentRow} (h : Extremes cands row) :
    (Extremes rest row ∧ Extremes [own] row) ↔ Even own rest := by
  obtain ⟨⟨c, hc, hscore, hgreatest⟩, ⟨e, he, hearliest, hfirst⟩, ⟨l, hl, hlatest, hlast⟩⟩ := h
  simp only [score_eq, score_le] at hscore hgreatest
  have hown : own ∈ cands := (hcands own).2 (.inl rfl)
  have hrest {d : AlertCandidate rt.sha256} (hd : d ∈ rest) : d ∈ cands := (hcands d).2 (.inr hd)
  constructor
  · rintro ⟨⟨⟨d, hd, hdscore, -⟩, -, -⟩, ⟨o, ho, hoscore, -⟩, ⟨o', ho', hoearliest, -⟩, ⟨o'', ho'', holatest, -⟩⟩
    obtain rfl := (List.mem_singleton.1 ho).symm
    obtain rfl := (List.mem_singleton.1 ho').symm
    obtain rfl := (List.mem_singleton.1 ho'').symm
    rw [score_eq, hscore] at hdscore hoscore
    simp only [Option.some.injEq, Prod.mk.injEq, true_and] at hdscore hoscore
    have hmicrosE : e.observedAt = own.observedAt := DateTime.isoformat_inj.1 (hearliest.symm.trans hoearliest)
    have hmicrosL : l.observedAt = own.observedAt := DateTime.isoformat_inj.1 (hlatest.symm.trans holatest)
    refine ⟨fun x hx => hoscore ▸ hgreatest x (hrest hx), ⟨d, hd, hdscore.symm.trans hoscore⟩, fun x hx => ?_⟩
    have hlow := hfirst x (hrest hx)
    have hhigh := hlast x (hrest hx)
    rw [hmicrosE] at hlow
    rw [hmicrosL] at hhigh
    have heq : x.observedAt.micros = own.observedAt.micros := Nat.le_antisymm hhigh hlow
    exact DateTime.micros_inj.1 heq
  · rintro ⟨hbelow, ⟨d, hd, hdscore⟩, htogether⟩
    have htimes {x : AlertCandidate rt.sha256} (hx : x ∈ cands) : x.observedAt = own.observedAt := by
      rcases (hcands x).1 hx with rfl | hx
      · rfl
      · exact htogether x hx
    have htop : scoreValue c = scoreValue own := by
      refine le_antisymm ?_ (hgreatest own hown)
      rcases (hcands c).1 hc with rfl | hc
      · exact le_refl _
      · exact hbelow c hc
    have hcolumns {x : AlertCandidate rt.sha256} {ys : List (AlertCandidate rt.sha256)} (hx : x ∈ ys)
        (hxscore : scoreValue x = scoreValue own) (hys : ∀ y ∈ ys, y ∈ cands) : Extremes ys row := by
      have hxtime := htimes (hys x hx)
      refine ⟨⟨x, hx, ?_, fun y hy => ?_⟩, ⟨x, hx, ?_, fun y hy => ?_⟩, ⟨x, hx, ?_, fun y hy => ?_⟩⟩
      · rw [score_eq, hscore, hxscore, htop]
      · rw [score_le, hxscore, ← htop]
        exact hgreatest y (hys y hy)
      · rw [hearliest, htimes he, hxtime]
      · rw [htimes (hys y hy), hxtime]
      · rw [hlatest, htimes hl, hxtime]
      · rw [htimes (hys y hy), hxtime]
    refine ⟨hcolumns hd hdscore fun y hy => hrest hy, hcolumns List.mem_cons_self rfl fun y hy => ?_⟩
    rw [List.mem_singleton.1 hy]
    exact hown

/-- The split is even on the members of the old incident. -/
def EvenSplit (alertOf : String → AlertCandidate rt.sha256) (db : IncidentDb) (q : CorrectionRequest)
    (original : IncidentRow) : Prop :=
  Even (alertOf q.alertCandidateId)
    ((remaining db q original.incidentId).map fun c => alertOf c.alertCandidateId)

theorem members_split {alertOf : String → AlertCandidate rt.sha256} {db : IncidentDb} {q : CorrectionRequest}
    {incidentId : String} {c₀ : ConstituentRow} (hc₀ : c₀ ∈ db.constituents) (hid : c₀.incidentId = incidentId)
    (halert : c₀.alertCandidateId = q.alertCandidateId) (a : AlertCandidate rt.sha256) :
    a ∈ membersOf alertOf db incidentId ↔ a = alertOf q.alertCandidateId ∨
      a ∈ (remaining db q incidentId).map fun c => alertOf c.alertCandidateId := by
  simp only [membersOf, remaining, List.mem_map, List.mem_filter]
  constructor
  · rintro ⟨c, hc, rfl⟩
    by_cases hsame : c.alertCandidateId = q.alertCandidateId
    · exact .inl (congrArg alertOf hsame)
    · exact .inr ⟨c, ⟨hc, decide_eq_true hsame⟩, rfl⟩
  · rintro (rfl | ⟨c, ⟨hc, -⟩, rfl⟩)
    · exact ⟨c₀, List.mem_filter.2 ⟨hc₀, decide_eq_true hid⟩, congrArg alertOf halert⟩
    · exact ⟨c, hc, rfl⟩

/-- **A split of described tables** leaves them described when it is even, and otherwise not. -/
theorem split_extremes_iff {alertOf : String → AlertCandidate rt.sha256} {db : IncidentDb} (hdb : Keyed db)
    (hdescribed : Described alertOf db) {q : CorrectionRequest} {original : IncidentRow} {target : String}
    (hsplits : Splits db q original) (hst : ¬ db.stored target = true) :
    Described alertOf (splitDb q original target db) ↔ EvenSplit alertOf db q original := by
  obtain ⟨c, hc, halert, hid, hmem⟩ := mem_currentIncidents (fetchOne_mem hsplits.found)
  have hsplit := extremes_split (members_split hc hid halert) (hdescribed original hmem)
  have hstored {row : IncidentRow} (hrow : row ∈ db.incidents) : row.incidentId ≠ target :=
    fun heq => hst (stored_iff.2 (List.mem_map.2 ⟨row, hrow, heq⟩))
  have hrest : membersOf alertOf (splitDb q original target db) original.incidentId =
      (remaining db q original.incidentId).map fun c => alertOf c.alertCandidateId := by
    rw [membersOf, rowsOf_split hdb hmem hst, if_neg (hstored hmem), if_pos rfl]
  have hnew : membersOf alertOf (splitDb q original target db) target = [alertOf q.alertCandidateId] := by
    rw [membersOf, rowsOf_split hdb hmem hst, if_pos rfl]
    rfl
  rw [EvenSplit, ← hsplit]
  constructor
  · intro h
    have hold := h (counted original.incidentId original)
      (List.mem_append_left _ (List.mem_map_of_mem hmem))
    have hsingle := h (splitRow q original target) (List.mem_append_right _ List.mem_cons_self)
    rw [counted_incidentId, hrest, counted, if_pos rfl] at hold
    rw [show (splitRow q original target).incidentId = target from rfl, hnew] at hsingle
    exact ⟨hold.columns rfl rfl rfl, hsingle.columns rfl rfl rfl⟩
  · rintro ⟨hold, hsingle⟩ row hrow
    rcases List.mem_append.1 hrow with hrow | hrow
    · obtain ⟨before, hbefore, rfl⟩ := List.mem_map.1 hrow
      rw [counted_incidentId]
      by_cases heq : before.incidentId = original.incidentId
      · rw [heq, hrest, counted, if_pos heq, eq_of_incidentId hdb hbefore hmem heq]
        exact hold.columns rfl rfl rfl
      · rw [membersOf, rowsOf_split hdb hmem hst, if_neg (hstored hbefore), if_neg heq, counted, if_neg heq]
        exact hdescribed before hbefore
    · rw [List.mem_singleton.1 hrow, show (splitRow q original target).incidentId = target from rfl, hnew]
      exact hsingle.columns rfl rfl rfl

theorem insertIncident_described {alertOf : String → AlertCandidate rt.sha256} {inc : IncidentRecord}
    (hinc : Produced alertOf inc) {db db' : IncidentDb} (hdb : Keyed db) (hdescribed : Described alertOf db)
    (h : insertIncident db inc = .ok db') : Described alertOf db' := by
  rcases insertIncident_eq h with rfl | ⟨hst, rfl⟩
  · exact hdescribed
  · intro row hrow
    rw [membersOf, rowsOf_insert hdb hst]
    rcases List.mem_append.1 hrow with hrow | hrow
    · rw [if_neg fun heq => hst (stored_iff.2 (List.mem_map.2 ⟨row, hrow, heq⟩))]
      exact hdescribed row hrow
    · rw [List.mem_singleton.1 hrow, if_pos rfl]
      exact hinc.rows.2.2.2

theorem insertAll_described {alertOf : String → AlertCandidate rt.sha256} :
    ∀ {incs : List IncidentRecord} {db db' : IncidentDb}, (∀ inc ∈ incs, Produced alertOf inc) → Targets db →
      Described alertOf db → insertAll incs db = .ok db' → Described alertOf db'
  | [], _, _, _, _, hdescribed, h => by
    cases h
    exact hdescribed
  | inc :: rest, db, db', hincs, hdb, hdescribed, h => by
    rw [insertAll] at h
    split at h
    · cases h
    · rename_i db₁ hone
      have hdescribed₁ := insertIncident_described (hincs inc List.mem_cons_self) hdb.toKeyed hdescribed hone
      exact insertAll_described (fun i hi => hincs i (List.mem_cons_of_mem _ hi)) (insertIncident_targets hdb hone)
        hdescribed₁ h

/-! ## Runs -/

/-- Every split of the run into a new identifier is even. -/
def EvenSplits (alertOf : String → AlertCandidate rt.sha256) (calls : List RepositoryCall) : Prop :=
  ∀ k q original, CorrectionAt calls k false q → q.check = .ok () →
    Splits (tablesAt rt.sha256 calls k) q original →
    ¬ (tablesAt rt.sha256 calls k).stored (q.target rt.sha256) = true →
    EvenSplit alertOf (tablesAt rt.sha256 calls k) q original

theorem tables_of_split {sha256 : Bytes → String} {calls : List RepositoryCall} {k : Nat} {q : CorrectionRequest}
    {original : IncidentRow} (hcall : CorrectionAt calls k false q) (hcheck : q.check = .ok ())
    (hsplits : Splits (tablesAt sha256 calls k) q original)
    (hst : ¬ (tablesAt sha256 calls k).stored (q.target sha256) = true) :
    tablesAt sha256 calls (k + 1) = splitDb q original (q.target sha256) (tablesAt sha256 calls k) := by
  rcases correct_call sha256 hcall with ⟨e, he, -⟩ | ⟨-, hfault, -⟩ | ⟨-, -, reply, hcorrects, -⟩
  · rw [hcheck] at he
    cases he
  · cases hfault
  · generalize tablesAt sha256 calls (k + 1) = after at hcorrects
    cases hcorrects with
    | split original' hsplits' hst' =>
      obtain rfl : original = original' := Option.some.inj (hsplits.found.symm.trans hsplits'.found)
      rfl
    | taken original' hsplits' hst' => exact absurd hst' hst
    | replayed old hold hsame => rw [hsplits.unrecorded] at hold; cases hold
    | conflict old hold hdiffers => rw [hsplits.unrecorded] at hold; cases hold
    | notFound hnew hnone => rw [hsplits.found] at hnone; cases hnone
    | singleton original' hnew hfound hone =>
      obtain rfl : original = original' := Option.some.inj (hsplits.found.symm.trans hfound)
      exact absurd hsplits.several (Nat.not_lt.2 hone)

/-- Even splits keep the tables described. -/
theorem described_at {alertOf : String → AlertCandidate rt.sha256} {calls : List RepositoryCall}
    (hcalls : InsertsProduced alertOf calls) (heven : EvenSplits alertOf calls) (k : Nat) :
    Described alertOf (tablesAt rt.sha256 calls k) := by
  induction k with
  | zero => exact fun row hrow => absurd hrow List.not_mem_nil
  | succ k ih =>
    have htargets := targets_at rt.sha256 calls k
    cases hcall : calls[k]? with
    | none =>
      rw [tablesAt, stateAt_succ_none _ hcall]
      exact ih
    | some call =>
      have hsucc : tablesAt rt.sha256 calls (k + 1) = (repositoryStep rt.sha256 (tablesAt rt.sha256 calls k) call).2 :=
        stateAt_succ _ hcall
      rcases repositoryStep_cases rt.sha256 htargets call with h | h | ⟨q, outcome, rfl, hcheck, h⟩
      · rw [hsucc, h]
        exact ih
      · rw [hsucc]
        exact insertAll_described (hcalls call (List.mem_of_getElem? hcall)) htargets ih h
      · rw [← hsucc] at h
        generalize hafter : tablesAt rt.sha256 calls (k + 1) = after at h ⊢
        cases h with
        | replayed => exact ih
        | singleton original hnew hfound hone => exact ih
        | split original hsplits hst =>
          exact (split_extremes_iff htargets.toKeyed ih hsplits hst).2 (heven k q original hcall hcheck hsplits hst)

/-- The forest alert with the logistic alert of the same flow, which scored lower. -/
def quietAlert : AlertCandidate sampleRuntime.sha256 :=
  ⟨{ sampleFields logisticAlertId "logistic_regression" "network_logistic_baseline_v1" with
    uncalibratedModelScore := .finite (5 / 8) "0.625" }, by decide +kernel⟩

def storedAlerts (id : String) : AlertCandidate sampleRuntime.sha256 :=
  if id = logisticAlertId then quietAlert else forestAlert

/-- The two alerts make one burst. -/
def burstIncidents : List IncidentRecord :=
  sortedIncidents "2026-03-02T08:17:00+00:00"
    (itemsOf [.candidate forestAlert, .candidate quietAlert] fun _ => some sampleProvenance)

theorem burst_produced : InsertsProduced storedAlerts [.insertMany false burstIncidents] := by
  intro call hcall inc hinc
  rw [List.mem_singleton.1 hcall] at hinc
  refine ⟨_, _, _, _, correlate_eq _ _ (List.cons_ne_nil (AlertInput.candidate forestAlert) _), hinc, fun a ha => ?_⟩
  simp only [List.mem_cons, List.not_mem_nil, or_false] at ha
  rcases ha with rfl | rfl
  · exact if_neg (by decide)
  · exact if_pos rfl

/-- **When the stored aggregates describe the members.** In a run that inserts what correlation produces,
they do at every moment when every split is even, and only then. -/
theorem aggregates_iff (alertOf : String → AlertCandidate rt.sha256) (calls : List RepositoryCall)
    (hcalls : InsertsProduced alertOf calls) :
    (∀ k, ∀ row ∈ (tablesAt rt.sha256 calls k).incidents,
      Aggregates alertOf (tablesAt rt.sha256 calls k) row) ↔ EvenSplits alertOf calls := by
  constructor
  · intro h k q original hcall hcheck hsplits hst
    have hdescribed (j : Nat) : Described alertOf (tablesAt rt.sha256 calls j) := fun row hrow => (h j row hrow).extremes
    have hafter := hdescribed (k + 1)
    rw [tables_of_split hcall hcheck hsplits hst] at hafter
    exact (split_extremes_iff (targets_at rt.sha256 calls k).toKeyed (hdescribed k) hsplits hst).1 hafter
  · intro heven k row hrow
    exact (counted_at hcalls k).aggregates hrow (described_at hcalls heven k row hrow)

theorem aggregates_iff_burst :
    (∀ k, ∀ row ∈ (tablesAt sampleRuntime.sha256 [.insertMany false burstIncidents] k).incidents,
      Aggregates storedAlerts (tablesAt sampleRuntime.sha256 [.insertMany false burstIncidents] k) row) ↔
      EvenSplits storedAlerts [.insertMany false burstIncidents] :=
  aggregates_iff storedAlerts [.insertMany false burstIncidents] burst_produced

/-- The quieter alert is split off the burst. -/
def quietSplit : CorrectionRequest where
  alertCandidateId := logisticAlertId
  newIncidentId := some "incident-split"
  actorId := "analyst-5"
  reason := "another host"
  correctionRequestId := "request-31"
  now := "2026-03-02T09:00:00+00:00"
  choice := 0

/-- The incident of the quieter alert keeps the score of the other one. -/
theorem split_keeps_the_score :
    ¬ ∀ (rt : Runtime) (alertOf : String → AlertCandidate rt.sha256) (calls : List RepositoryCall),
      InsertsProduced alertOf calls → ∀ k, ∀ row ∈ (tablesAt rt.sha256 calls k).incidents,
        Aggregates alertOf (tablesAt rt.sha256 calls k) row := by
  intro h
  have hproduced : InsertsProduced storedAlerts [.insertMany false burstIncidents, .correct false quietSplit] := by
    intro call hcall
    rcases List.mem_cons.1 hcall with rfl | hcall
    · exact burst_produced _ List.mem_cons_self
    · rw [List.mem_singleton.1 hcall]
      exact fun _ hinc => absurd hinc List.not_mem_nil
  have hrun := h sampleRuntime storedAlerts _ hproduced 2
  have hrow : ∃ row ∈ (tablesAt sampleRuntime.sha256
      [.insertMany false burstIncidents, .correct false quietSplit] 2).incidents,
      row.incidentId = "incident-split" ∧ row.maxProbabilityScore = .finite (3 / 4) "0.75" := by decide +kernel
  have hmembers : (rowsOf (tablesAt sampleRuntime.sha256
      [.insertMany false burstIncidents, .correct false quietSplit] 2) "incident-split").map (·.alertCandidateId) =
      [logisticAlertId] := by decide +kernel
  obtain ⟨row, hmem, hid, hscore⟩ := hrow
  obtain ⟨c, hc, heq, -⟩ := (hrun row hmem).extremes.maxScore
  obtain ⟨r, hr, rfl⟩ := List.mem_map.1 hc
  have halert : r.alertCandidateId = logisticAlertId :=
    List.mem_singleton.1 (hmembers ▸ List.mem_map_of_mem (hid ▸ hr))
  rw [hscore, halert] at heq
  revert heq
  decide +kernel

end ThreatFusion.Correlation
