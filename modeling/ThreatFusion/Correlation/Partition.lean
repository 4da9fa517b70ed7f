import ThreatFusion.Correlation.Engine
/-
# Correlation partitions the alerts

`Covers items incidents`: the incidents are those of a list of clusters that together are the items. Each
stage of `correlate_alert_candidates` covers what it is given (`unverified_covers`, `namespace_covers`),
so the whole list covers the deduplicated alerts and the safety check of the metrics
(`compute_alert_reduction_metrics`) never fires (`metrics_of_covers`).
-/
namespace ThreatFusion.Correlation
open Py Alerts Grouping
variable {rt : Runtime}

/-! ## `max` and `min` of a generator -/

/-- The element that a fold of `firstMax` ends with, when `lt` compares a rank. -/
theorem exists_firstMax {α β γ : Type} [LinearOrder γ] (lt : α → α → Bool) (rank : β → γ) (f : β → α)
    (x : β) (xs : List β)
    (hlt : ∀ a ∈ x :: xs, ∀ b ∈ x :: xs, (lt (f a) (f b) = true ↔ rank a < rank b)) :
    ∃ y ∈ x :: xs, firstMax lt (f x) (xs.map f) = f y ∧ ∀ z ∈ x :: xs, rank z ≤ rank y := by
  induction xs generalizing x with
  | nil => exact ⟨x, List.mem_cons_self, rfl, by simp⟩
  | cons b bs ih =>
    have hmem : ∀ {a}, a ∈ b :: bs → a ∈ x :: b :: bs := fun h => List.mem_cons_of_mem _ h
    have hx := List.mem_cons_self (a := x) (l := b :: bs)
    have hb := hmem (List.mem_cons_self (a := b) (l := bs))
    have hstep : firstMax lt (f x) ((b :: bs).map f) =
        firstMax lt (if lt (f x) (f b) then f b else f x) (bs.map f) := rfl
    by_cases hxb : rank x < rank b
    · rw [hstep, if_pos ((hlt x hx b hb).2 hxb)]
      obtain ⟨y, hy, heq, hall⟩ := ih b fun a ha c hc => hlt a (hmem ha) c (hmem hc)
      refine ⟨y, hmem hy, heq, fun z hz => ?_⟩
      rcases List.mem_cons.1 hz with rfl | hz
      · exact hxb.le.trans (hall b List.mem_cons_self)
      · exact hall z hz
    · have hsub : ∀ {a}, a ∈ x :: bs → a ∈ x :: b :: bs := fun h => by
        rcases List.mem_cons.1 h with rfl | h
        · exact List.mem_cons_self
        · exact hmem (List.mem_cons_of_mem _ h)
      rw [hstep, if_neg fun h => hxb ((hlt x hx b hb).1 h)]
      obtain ⟨y, hy, heq, hall⟩ := ih x fun a ha c hc => hlt a (hsub ha) c (hsub hc)
      refine ⟨y, hsub hy, heq, fun z hz => ?_⟩
      rcases List.mem_cons.1 hz with rfl | hz
      · exact hall _ List.mem_cons_self
      · rcases List.mem_cons.1 hz with rfl | hz
        · exact (not_lt.1 hxb).trans (hall x List.mem_cons_self)
        · exact hall z (List.mem_cons_of_mem _ hz)

/-- The score of a candidate is a double between 0 and 1. -/
theorem score_finite (c : AlertCandidate rt.sha256) : ∃ v r, c.uncalibratedModelScore = .finite v r := by
  have h := c.valid
  simp only [AlertCandidateFields.accepted, Bool.and_eq_true] at h
  cases hs : c.uncalibratedModelScore with
  | finite v r => exact ⟨v, r, rfl⟩
  | nonFinite r => simp [hs, PyFloat.within] at h

theorem decision_attack (c : AlertCandidate rt.sha256) : c.decision = "Attack" := by
  have h := c.valid
  simp only [AlertCandidateFields.accepted, Bool.and_eq_true, beq_iff_eq] at h
  simp [h]

def scoreValue (c : AlertCandidate rt.sha256) : ℚ :=
  match c.uncalibratedModelScore with
  | .finite v _ => v
  | .nonFinite _ => 0

theorem score_lt (a b : AlertCandidate rt.sha256) :
    a.uncalibratedModelScore.lt b.uncalibratedModelScore = true ↔ scoreValue a < scoreValue b := by
  obtain ⟨v, r, ha⟩ := score_finite a
  obtain ⟨w, q, hb⟩ := score_finite b
  simp [scoreValue, ha, hb, PyFloat.lt, PyFloat.position]

theorem score_le (a b : AlertCandidate rt.sha256) :
    a.uncalibratedModelScore.le b.uncalibratedModelScore = true ↔ scoreValue a ≤ scoreValue b := by
  obtain ⟨v, r, ha⟩ := score_finite a
  obtain ⟨w, q, hb⟩ := score_finite b
  simp [scoreValue, ha, hb, PyFloat.le, PyFloat.position]

/-! ## What an incident says about its members -/

/-- The incident is the one of these candidates: its list, its count, its keys and its aggregates. -/
structure Describes (cands : List (AlertCandidate rt.sha256)) (inc : IncidentRecord) : Prop where
  constituents : inc.constituentAlertIds = cands.map (·.alertCandidateId)
  count : inc.constituentAlertCount = cands.length
  justified : inc.memberJustifications.map Prod.fst = cands.map (·.alertCandidateId)
  attack : inc.escalatedDecision = "Attack"
  maxScore : ∃ c ∈ cands, inc.maxProbabilityScore = c.uncalibratedModelScore ∧
    ∀ d ∈ cands, d.uncalibratedModelScore.le c.uncalibratedModelScore = true
  earliest : ∃ c ∈ cands, inc.earliestObservedAt = c.observedAt.isoformat ∧
    ∀ d ∈ cands, c.observedAt.micros ≤ d.observedAt.micros
  latest : ∃ c ∈ cands, inc.latestObservedAt = c.observedAt.isoformat ∧
    ∀ d ∈ cands, d.observedAt.micros ≤ c.observedAt.micros

theorem unverifiedSingleton_describes (now : String) (it : Item rt) :
    Describes [it.candidate] (unverifiedSingleton now it) where
  constituents := rfl
  count := rfl
  justified := rfl
  attack := decision_attack it.candidate
  maxScore := ⟨it.candidate, List.mem_cons_self, rfl, by simp [score_le]⟩
  earliest := ⟨it.candidate, List.mem_cons_self, rfl, by simp⟩
  latest := ⟨it.candidate, List.mem_cons_self, rfl, by simp⟩

theorem verifiedSingleton_describes (now ns : String) (it : Item rt) :
    Describes [it.candidate] (verifiedSingleton now ns it) where
  constituents := rfl
  count := rfl
  justified := rfl
  attack := decision_attack it.candidate
  maxScore := ⟨it.candidate, List.mem_cons_self, rfl, by simp [score_le]⟩
  earliest := ⟨it.candidate, List.mem_cons_self, rfl, by simp⟩
  latest := ⟨it.candidate, List.mem_cons_self, rfl, by simp⟩

theorem clusterIncident_describes (rule : CorrelationRule) (mode : CorrelationMode) (window : WindowType)
    (relationship : EntityProvenanceContract → String) (now ns : String) (r : Run (Item rt))
    (hnodup : (r.members.map Item.id).Nodup) :
    Describes (r.members.map (·.candidate))
      (clusterIncident rule mode window relationship now ns r) where
  constituents := by simp [clusterIncident, Item.id, Function.comp_def]
  count := by simp [clusterIncident]
  justified := by
    simp only [clusterIncident]
    rw [dictOf_of_nodup]
    · simp [Item.id, Function.comp_def]
    · simpa [Function.comp_def] using hnodup
  attack := by simp [clusterIncident, Run.members, decision_attack]
  maxScore := by
    obtain ⟨y, hy, heq, hall⟩ := exists_firstMax PyFloat.lt
      (fun it : Item rt => scoreValue it.candidate) (fun it => it.candidate.uncalibratedModelScore)
      r.anchor r.later
      fun a _ b _ => score_lt a.candidate b.candidate
    refine ⟨y.candidate, List.mem_map_of_mem hy, heq, fun d hd => ?_⟩
    obtain ⟨z, hz, rfl⟩ := List.mem_map.1 hd
    exact (score_le _ _).2 (hall z hz)
  earliest := by
    obtain ⟨y, hy, heq, hall⟩ := exists_firstMax (fun a b : String => decide (b < a))
      (fun it : Item rt => OrderDual.toDual it.candidate.observedAt.micros)
      (fun it => it.candidate.observedAt.isoformat) r.anchor r.later
      fun a _ b _ => by rw [decide_eq_true_eq, DateTime.isoformat_lt, OrderDual.toDual_lt_toDual]
    refine ⟨y.candidate, List.mem_map_of_mem hy, heq, fun d hd => ?_⟩
    obtain ⟨z, hz, rfl⟩ := List.mem_map.1 hd
    exact OrderDual.toDual_le_toDual.1 (hall z hz)
  latest := by
    obtain ⟨y, hy, heq, hall⟩ := exists_firstMax (fun a b : String => decide (a < b))
      (fun it : Item rt => it.candidate.observedAt.micros)
      (fun it => it.candidate.observedAt.isoformat) r.anchor r.later
      fun a _ b _ => by rw [decide_eq_true_eq, DateTime.isoformat_lt]
    refine ⟨y.candidate, List.mem_map_of_mem hy, heq, fun d hd => ?_⟩
    obtain ⟨z, hz, rfl⟩ := List.mem_map.1 hd
    exact hall z hz

/-! ## Each stage covers what it is given -/

/-- The incidents are those of clusters that together are the items. -/
def Covers (items : List (Item rt)) (incidents : List IncidentRecord) : Prop :=
  ∃ clusters : List (List (Item rt)), clusters.flatten.Perm items ∧
    List.Forall₂ (fun its inc => (its.map Item.id).Nodup → Describes (its.map (·.candidate)) inc)
      clusters incidents

theorem Covers.nil : @Covers rt [] [] := ⟨[], List.Perm.refl _, .nil⟩

theorem Covers.append {xs ys : List (Item rt)} {is js : List IncidentRecord} (h : Covers xs is)
    (g : Covers ys js) : Covers (xs ++ ys) (is ++ js) := by
  obtain ⟨cs, hcs, hall⟩ := h
  obtain ⟨ds, hds, hall'⟩ := g
  refine ⟨cs ++ ds, ?_, List.rel_append hall hall'⟩
  rw [List.flatten_append]
  exact hcs.append hds

theorem Covers.of_perm {xs ys : List (Item rt)} {is : List IncidentRecord} (h : Covers xs is)
    (hperm : xs.Perm ys) : Covers ys is := by
  obtain ⟨cs, hcs, hall⟩ := h
  exact ⟨cs, hcs.trans hperm, hall⟩

/-- One incident for each cluster. -/
theorem covers_map {α : Type} (members : α → List (Item rt)) (build : α → IncidentRecord) (cs : List α)
    (hbuild : ∀ c ∈ cs, ((members c).map Item.id).Nodup →
      Describes ((members c).map (·.candidate)) (build c)) :
    Covers (cs.flatMap members) (cs.map build) := by
  refine ⟨cs.map members, by rw [List.flatMap_def], ?_⟩
  rw [List.forall₂_map_left_iff, List.forall₂_map_right_iff, List.forall₂_same]
  exact hbuild

/-- Stages side by side. -/
theorem covers_flatMap {α : Type} (members : α → List (Item rt)) (incs : α → List IncidentRecord) :
    ∀ gs : List α, (∀ g ∈ gs, Covers (members g) (incs g)) → Covers (gs.flatMap members) (gs.flatMap incs)
  | [], _ => Covers.nil
  | g :: gs, h => by
    rw [List.flatMap_cons, List.flatMap_cons]
    exact (h g List.mem_cons_self).append
      (covers_flatMap members incs gs fun g' hg' => h g' (List.mem_cons_of_mem _ hg'))

theorem sortItems_perm (items : List (Item rt)) : (sortItems items).Perm items :=
  List.perm_insertionSort _ items

/-- A window pass puts every item into one run. -/
theorem windowRuns_members {κ : Type} [DecidableEq κ] (key : Item rt → κ) (window : ℚ)
    (items : List (Item rt)) : ((windowRuns key window items).flatMap Run.members).Perm items := by
  have hbins : (windowRuns key window items).flatMap Run.members =
      (groupBy key items).flatMap fun g => sortItems g.2 := by
    simp only [windowRuns, List.flatMap_assoc, windows_members]
  rw [hbins]
  refine List.Perm.trans ?_ (groupBy_flatten key items)
  exact List.Perm.flatMap_left _ fun g _ => sortItems_perm g.2

/-- What pass 1 clusters and what it leaves. -/
theorem burst_split (items : List (Item rt)) :
    (((burstRuns items).filter isCluster).flatMap Run.members ++ unclustered items).Perm items := by
  rw [unclustered, ← List.flatMap_append]
  exact ((List.filter_append_perm isCluster _).flatMap_right _).trans (windowRuns_members _ _ _)

theorem members_of_not_isCluster {r : Run (Item rt)} (h : ¬ isCluster r = true) : r.members = [r.anchor] := by
  have hlater : r.later = [] := by simpa [isCluster] using h
  rw [Run.members, hlater]

/-- The fail-closed singletons. -/
theorem unverified_covers (now : String) (items : List (Item rt)) :
    Covers items (items.map (unverifiedSingleton now)) := by
  have h := covers_map (fun it : Item rt => [it]) (unverifiedSingleton now) items fun it _ _ =>
    unverifiedSingleton_describes now it
  rwa [List.flatMap_singleton'] at h

/-- Both passes over one namespace. -/
theorem namespace_covers (now ns : String) (nsItems : List (Item rt)) :
    Covers nsItems (namespaceIncidents now ns nsItems) := by
  have hbursts : Covers (((burstRuns (sortItems nsItems)).filter isCluster).flatMap Run.members)
      (((burstRuns (sortItems nsItems)).filter isCluster).map (burstIncident now ns)) :=
    covers_map _ _ _ fun r _ hnodup => clusterIncident_describes _ _ _ _ now ns r hnodup
  have hcampaigns : Covers ((campaignRuns (sortItems nsItems)).flatMap Run.members)
      ((campaignRuns (sortItems nsItems)).map fun r =>
        if isCluster r then campaignIncident now ns r else verifiedSingleton now ns r.anchor) := by
    refine covers_map _ _ _ fun r _ hnodup => ?_
    by_cases hr : isCluster r = true
    · rw [if_pos hr]
      exact clusterIncident_describes _ _ _ _ now ns r hnodup
    · rw [if_neg hr, members_of_not_isCluster hr]
      exact verifiedSingleton_describes now ns r.anchor
  refine (hbursts.append hcampaigns).of_perm ?_
  refine List.Perm.trans (List.Perm.append_left _ (windowRuns_members _ _ _)) ?_
  exact (burst_split _).trans (sortItems_perm nsItems)

/-- **No item is lost or repeated by the gate, the namespaces and the passes.** -/
theorem incidentsList_covers (now : String) (items : List (Item rt)) :
    Covers items (incidentsList now items) := by
  have hns := covers_flatMap (fun g : String × List (Item rt) => g.2)
    (fun g => namespaceIncidents now g.1 g.2)
    (groupBy (fun it => it.provenance.entityNamespaceId.getD "") (items.filter Item.verified))
    fun g _ => namespace_covers now g.1 g.2
  have hverified := hns.of_perm (groupBy_flatten _ _)
  refine ((unverified_covers now _).append hverified).of_perm ?_
  refine List.perm_append_comm.trans ?_
  exact List.filter_append_perm Item.verified items

/-! ## The metrics check what the stages guarantee -/

theorem criticalRetained_eq (unique : List (AlertCandidate rt.sha256)) :
    ∀ (incidents : List IncidentRecord) (n : Nat), (∀ inc ∈ incidents, inc.escalatedDecision = "Attack") →
      criticalRetained unique incidents n =
        .ok (n + ((incidents.flatMap (·.constituentAlertIds)).filterMap
          (candidateById unique)).countP isCriticalAlert)
  | [], n, _ => by simp [criticalRetained]
  | inc :: rest, n, h => by
    have hrest := fun m => criticalRetained_eq unique rest m fun i hi => h i (List.mem_cons_of_mem _ hi)
    rw [criticalRetained]
    simp only [h inc List.mem_cons_self, ne_eq, not_true_eq_false, if_false, hrest, List.flatMap_cons,
      List.filterMap_append, List.countP_append]
    by_cases hany : (inc.constituentAlertIds.filterMap (candidateById unique)).any isCriticalAlert = true
    · rw [if_pos hany, Nat.add_assoc]
    · have hzero : (inc.constituentAlertIds.filterMap (candidateById unique)).countP isCriticalAlert = 0 := by
        rw [List.countP_eq_zero]
        intro c hc hcrit
        exact hany (List.any_eq_true.2 ⟨c, hc, hcrit⟩)
      rw [if_neg hany, hzero, Nat.zero_add]

theorem candidateById_self {unique : List (AlertCandidate rt.sha256)}
    (hnodup : (unique.map (·.alertCandidateId)).Nodup) {c : AlertCandidate rt.sha256} (hc : c ∈ unique) :
    candidateById unique c.alertCandidateId = some c := by
  cases hfind : candidateById unique c.alertCandidateId with
  | none =>
    have hne := List.find?_eq_none.1 hfind c hc
    simp at hne
  | some d =>
    have hid : d.alertCandidateId = c.alertCandidateId := by simpa using List.find?_some hfind
    rw [List.inj_on_of_nodup_map hnodup (List.mem_of_find?_eq_some hfind) hc hid]

/-- The summary of a correlation that lost nothing. -/
def summaryOf (rt : Runtime) (unique : List (AlertCandidate rt.sha256)) (incidents : List IncidentRecord) :
    AlertReductionSummary :=
  { schemaVersion := ALERT_REDUCTION_SCHEMA_VERSION
    totalAlerts := unique.length
    totalIncidents := incidents.length
    reductionRatio := rt.round (1 - rt.round (incidents.length / unique.length))
    criticalAlertsInput := unique.countP isCriticalAlert
    criticalAlertsRetained := unique.countP isCriticalAlert
    criticalRetentionRatio := 1 }

/-- When every alert has its one incident and every incident says Attack, no check fires. -/
theorem metrics_eq {alerts : List (AlertInput rt)} {incidents : List IncidentRecord} (hne : alerts ≠ [])
    (hnodup : (alerts.map AlertInput.id).Nodup)
    (hids : (incidents.flatMap (·.constituentAlertIds)).Perm (alerts.map AlertInput.id))
    (hattack : ∀ inc ∈ incidents, inc.escalatedDecision = "Attack") :
    computeAlertReductionMetrics alerts incidents =
      .ok (summaryOf rt (alerts.map AlertInput.alert) incidents) := by
  have hmap : (alerts.map AlertInput.alert).map (·.alertCandidateId) = alerts.map AlertInput.id := by
    rw [List.map_map]
    rfl
  rw [← hmap] at hnodup hids
  have hunique : distinctBy (·.alertCandidateId) (alerts.map AlertInput.alert) =
      alerts.map AlertInput.alert := distinctFrom_of_nodup hnodup (by simp)
  have hlength : (alerts.map AlertInput.alert).length ≠ 0 := by simpa using hne
  have hassigned := hids.nodup_iff.2 hnodup
  have hcard : (incidents.flatMap (·.constituentAlertIds)).length =
      (incidents.flatMap (·.constituentAlertIds)).toFinset.card :=
    (List.toFinset_card_of_nodup hassigned).symm
  have hset := List.toFinset_eq_of_perm _ _ hids
  have hfound : ((incidents.flatMap (·.constituentAlertIds)).filterMap
      (candidateById (alerts.map AlertInput.alert))).Perm (alerts.map AlertInput.alert) := by
    refine (hids.filterMap _).trans ?_
    rw [List.filterMap_map]
    refine List.Perm.of_eq ((List.filterMap_congr fun c hc => ?_).trans List.filterMap_some)
    exact candidateById_self hnodup hc
  have hcount := hfound.countP_eq isCriticalAlert
  unfold computeAlertReductionMetrics
  simp only [hunique, hlength, if_false, hcard, hset, ne_eq, not_true_eq_false,
    criticalRetained_eq _ _ _ hattack, hcount, Nat.zero_add, and_false, summaryOf]

/-! ## The whole correlation -/

/-- The alert that a repeated identifier stands for: its first occurrence. -/
def firstAlert (alerts : List (AlertInput rt)) (id : String) : Option (AlertCandidate rt.sha256) :=
  (alerts.map AlertInput.alert).find? fun c => c.alertCandidateId = id

/-- The deduplicated, normalised alerts. -/
def itemsOf (alerts : List (AlertInput rt))
    (provenanceMap : String → Option EntityProvenanceContract) : List (Item rt) :=
  (distinctBy AlertInput.id alerts).map (normalize provenanceMap)

theorem itemsOf_ids (alerts : List (AlertInput rt))
    (provenanceMap : String → Option EntityProvenanceContract) :
    (itemsOf alerts provenanceMap).map Item.id = (distinctBy AlertInput.id alerts).map AlertInput.id := by
  rw [itemsOf, List.map_map]
  rfl

theorem firstAlert_of_mem {alerts : List (AlertInput rt)}
    {provenanceMap : String → Option EntityProvenanceContract} {it : Item rt}
    (hit : it ∈ itemsOf alerts provenanceMap) : firstAlert alerts it.id = some it.candidate := by
  obtain ⟨a, ha, rfl⟩ := List.mem_map.1 hit
  have hfind := mem_distinctBy.1 ha
  rw [firstAlert, List.find?_map]
  exact congrArg (Option.map AlertInput.alert) hfind

theorem itemsOf_nodup (alerts : List (AlertInput rt))
    (provenanceMap : String → Option EntityProvenanceContract) :
    ((itemsOf alerts provenanceMap).map Item.id).Nodup := by
  rw [itemsOf_ids]
  exact nodup_distinctBy _ _

theorem mem_itemsOf_ids {alerts : List (AlertInput rt)}
    {provenanceMap : String → Option EntityProvenanceContract} {id : String} :
    id ∈ (itemsOf alerts provenanceMap).map Item.id ↔ ∃ a ∈ alerts, a.id = id := by
  rw [itemsOf_ids, List.mem_map]
  exact exists_mem_distinctBy

/-- The clusters behind a list of incidents whose alerts are distinct. -/
theorem describes_clusters {clusters : List (List (Item rt))} {incidents : List IncidentRecord}
    (h : List.Forall₂ (fun its inc => (its.map Item.id).Nodup → Describes (its.map (·.candidate)) inc)
      clusters incidents) (hnodup : ∀ its ∈ clusters, (its.map Item.id).Nodup) :
    incidents.flatMap (·.constituentAlertIds) = clusters.flatten.map Item.id ∧
      ∀ inc ∈ incidents, ∃ its ∈ clusters, Describes (its.map (·.candidate)) inc := by
  induction h with
  | nil => exact ⟨rfl, by simp⟩
  | @cons its inc cs incs hinc _ ih =>
    obtain ⟨hids, hmem⟩ := ih fun its' h' => hnodup its' (List.mem_cons_of_mem _ h')
    have hhead := hinc (hnodup its List.mem_cons_self)
    constructor
    · rw [List.flatMap_cons, List.flatten_cons, List.map_append, hids, hhead.constituents, List.map_map]
      rfl
    · intro i hi
      rcases List.mem_cons.1 hi with rfl | hi
      · exact ⟨its, List.mem_cons_self, hhead⟩
      · obtain ⟨its', hits', hd⟩ := hmem i hi
        exact ⟨its', List.mem_cons_of_mem _ hits', hd⟩

theorem Covers.spec {items : List (Item rt)} {incidents : List IncidentRecord} (h : Covers items incidents)
    (hnodup : (items.map Item.id).Nodup) :
    (incidents.flatMap (·.constituentAlertIds)).Perm (items.map Item.id) ∧
      ∀ inc ∈ incidents, ∃ its : List (Item rt), (∀ it ∈ its, it ∈ items) ∧ Describes (its.map (·.candidate)) inc := by
  obtain ⟨cs, hcs, hall⟩ := h
  have hflat : (cs.map (List.map Item.id)).flatten.Nodup := by
    rw [← List.map_flatten]
    exact (hcs.map _).nodup_iff.2 hnodup
  have hclusters : ∀ its ∈ cs, (its.map Item.id).Nodup := fun its hits =>
    (List.nodup_flatten.1 hflat).1 _ (List.mem_map_of_mem hits)
  obtain ⟨hids, hmem⟩ := describes_clusters hall hclusters
  constructor
  · rw [hids]
    exact hcs.map _
  · intro inc hinc
    obtain ⟨its, hits, hd⟩ := hmem inc hinc
    exact ⟨its, fun it hit => hcs.mem_iff.1 (List.mem_flatten.2 ⟨its, hits, hit⟩), hd⟩

/-- The final sort. -/
def sortedIncidents (now : String) (items : List (Item rt)) : List IncidentRecord :=
  (incidentsList now items).insertionSort IncidentRecord.notAfter

theorem sortedIncidents_perm (now : String) (items : List (Item rt)) :
    (sortedIncidents now items).Perm (incidentsList now items) :=
  List.perm_insertionSort _ _

/-- What the sorted incidents of the alerts are. -/
theorem sortedIncidents_spec (now : String) (alerts : List (AlertInput rt))
    (provenanceMap : String → Option EntityProvenanceContract) :
    ((sortedIncidents now (itemsOf alerts provenanceMap)).flatMap (·.constituentAlertIds)).Perm
        ((itemsOf alerts provenanceMap).map Item.id) ∧
      ∀ inc ∈ sortedIncidents now (itemsOf alerts provenanceMap),
        ∃ its : List (Item rt), (∀ it ∈ its, it ∈ itemsOf alerts provenanceMap) ∧ Describes (its.map (·.candidate)) inc := by
  have hperm := sortedIncidents_perm now (itemsOf alerts provenanceMap)
  obtain ⟨hids, hmem⟩ := (incidentsList_covers now (itemsOf alerts provenanceMap)).spec
    (itemsOf_nodup alerts provenanceMap)
  exact ⟨(hperm.flatMap_right _).trans hids, fun inc hinc => hmem inc (hperm.mem_iff.1 hinc)⟩

/-- **Correlation returns**: the sorted incidents and their summary. -/
theorem correlate_eq (now : String) {alerts : List (AlertInput rt)}
    (provenanceMap : String → Option EntityProvenanceContract) (hne : alerts ≠ []) :
    correlateAlertCandidates now alerts provenanceMap =
      .ok { incidents := sortedIncidents now (itemsOf alerts provenanceMap)
            summary := summaryOf rt ((distinctBy AlertInput.id alerts).map AlertInput.alert)
              (sortedIncidents now (itemsOf alerts provenanceMap)) } := by
  obtain ⟨hids, hmem⟩ := sortedIncidents_spec now alerts provenanceMap
  have hassert : ¬ ((itemsOf alerts provenanceMap).filter Item.verified).any
      (·.provenance.entityNamespaceId.isNone) = true := by
    intro h
    obtain ⟨it, hit, hnone⟩ := List.any_eq_true.1 h
    obtain ⟨ns, hns⟩ := namespace_of_isVerified (List.mem_filter.1 hit).2
    rw [hns] at hnone
    exact absurd hnone (by simp)
  have hdeduped : distinctBy AlertInput.id alerts ≠ [] := by
    obtain ⟨a, ha⟩ := List.exists_mem_of_ne_nil alerts hne
    have hkept : ∃ b ∈ distinctBy AlertInput.id alerts, b.id = a.id := exists_mem_distinctBy.2 ⟨a, ha, rfl⟩
    obtain ⟨b, hb, -⟩ := hkept
    exact List.ne_nil_of_mem hb
  have hattack : ∀ inc ∈ sortedIncidents now (itemsOf alerts provenanceMap),
      inc.escalatedDecision = "Attack" := fun inc hinc => by
    obtain ⟨its, -, hd⟩ := hmem inc hinc
    exact hd.attack
  have hmetrics := metrics_eq hdeduped (nodup_distinctBy _ _) (itemsOf_ids alerts provenanceMap ▸ hids)
    hattack
  cases alerts with
  | nil => exact absurd rfl hne
  | cons a rest =>
    simp only [itemsOf, sortedIncidents] at hassert hmetrics ⊢
    rw [correlateAlertCandidates]
    simp only [hassert, hmetrics]
    rfl

theorem correlate_nil (now : String) (provenanceMap : String → Option EntityProvenanceContract) :
    correlateAlertCandidates now ([] : List (AlertInput rt)) provenanceMap =
      .ok { incidents := []
            summary :=
              { schemaVersion := ALERT_REDUCTION_SCHEMA_VERSION, totalAlerts := 0, totalIncidents := 0,
                reductionRatio := 0, criticalAlertsInput := 0, criticalAlertsRetained := 0,
                criticalRetentionRatio := 1 } } := rfl

/-- **Correlation partitions the alerts.** It never raises; every distinct alert is a constituent of one
incident and nothing else is; each incident's count, justification keys, decision, score and times are
those of its constituents, a repeated identifier standing for its first occurrence. -/
theorem correlation_partitions (now : String) (alerts : List (AlertInput rt))
    (provenanceMap : String → Option EntityProvenanceContract) :
    ∃ r, correlateAlertCandidates now alerts provenanceMap = .ok r ∧
      (∀ a ∈ alerts, r.incidents.countP (fun inc => a.id ∈ inc.constituentAlertIds) = 1) ∧
      (∀ inc ∈ r.incidents, inc.constituentAlertIds.Nodup ∧
        ∀ id ∈ inc.constituentAlertIds, ∃ a ∈ alerts, a.id = id) ∧
      ∀ inc ∈ r.incidents, ∃ cands : List (AlertCandidate rt.sha256),
        (∀ c ∈ cands, firstAlert alerts c.alertCandidateId = some c) ∧ Describes cands inc := by
  by_cases hne : alerts = []
  · subst hne
    exact ⟨_, correlate_nil now provenanceMap, by simp, by simp, by simp⟩
  · obtain ⟨hids, hmem⟩ := sortedIncidents_spec now alerts provenanceMap
    have hnodup := hids.nodup_iff.2 (itemsOf_nodup alerts provenanceMap)
    refine ⟨_, correlate_eq now provenanceMap hne, ?_, ?_, ?_⟩
    · intro a ha
      refine countP_of_nodup_flatMap hnodup ?_
      exact hids.mem_iff.2 (mem_itemsOf_ids.2 ⟨a, ha, rfl⟩)
    · intro inc hinc
      refine ⟨(List.nodup_flatMap.1 hnodup).1 inc hinc, fun id hid => ?_⟩
      exact mem_itemsOf_ids.1 (hids.mem_iff.1 (List.mem_flatMap.2 ⟨inc, hinc, hid⟩))
    · intro inc hinc
      obtain ⟨its, hits, hd⟩ := hmem inc hinc
      refine ⟨its.map (·.candidate), fun c hc => ?_, hd⟩
      obtain ⟨it, hit, rfl⟩ := List.mem_map.1 hc
      exact firstAlert_of_mem (hits it hit)

end ThreatFusion.Correlation
