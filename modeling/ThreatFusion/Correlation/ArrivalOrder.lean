import ThreatFusion.Alerts.Identity
import ThreatFusion.Correlation.Partition
/-
# Correlation does not depend on arrival order

Deduplication keeps one of several equal entries, so permuted lists give permuted items
(`itemsOf_perm`). Inside a namespace the items are sorted by `(timestamp, alert_candidate_id)` first, so
both passes see one list (`sortItems_eq`); only the order of the namespaces and of the unverified items is
left, and the final sort removes it, because incidents with one identifier are one incident
(`incident_eq_of_id`).
-/
namespace ThreatFusion.Correlation
open Py Alerts Grouping
variable {rt : Runtime}

/-! ## Identifiers -/

/-- `derive_incident_id` is injective on rules and alert identifiers, up to the order it sorts away. -/
def CollisionFree (sha256 : Bytes → String) : Prop :=
  ∀ (rule rule' : CorrelationRule) (ids ids' : List String), (∀ id ∈ ids, isPlainText id = true) →
    (∀ id ∈ ids', isPlainText id = true) →
      deriveIncidentId sha256 rule ids = deriveIncidentId sha256 rule' ids' → rule = rule' ∧ ids.Perm ids'

theorem ruleText_inj : ∀ {r r' : CorrelationRule}, r.text = r'.text → r = r' := by
  have key : ∀ r r' : CorrelationRule, r.text = r'.text → r = r' := by
    intro r r'
    cases r <;> cases r' <;> decide
  exact fun {r r'} => key r r'

/-- A digest without collisions is enough. -/
theorem collisionFree_of_injective {sha256 : Bytes → String} (hsha : Function.Injective sha256) :
    CollisionFree sha256 := by
  intro rule rule' ids ids' hids hids' h
  have hframable : ∀ (r : CorrelationRule) (xs : List String), (∀ id ∈ xs, isPlainText id = true) →
      ∀ p ∈ INCIDENT_SCHEMA_VERSION :: r.text :: xs.insertionSort (· ≤ ·), Framable p := by
    intro r xs hxs p hp
    apply framable_of_plain
    rcases List.mem_cons.1 hp with rfl | hp
    · decide
    · rcases List.mem_cons.1 hp with rfl | hp
      · cases r <;> decide
      · exact hxs p ((List.mem_insertionSort _).1 hp)
  have hdigest := (String.append_right_inj _).1 h
  have hparts := identityDigest_inj hsha (hframable rule ids hids) (hframable rule' ids' hids') hdigest
  simp only [List.cons.injEq, true_and] at hparts
  refine ⟨ruleText_inj hparts.1, ?_⟩
  exact (List.perm_insertionSort _ ids).symm.trans (hparts.2 ▸ List.perm_insertionSort _ ids')

/-! ## One order of the items -/

/-- Items with distinct identifiers have one sorted order. -/
theorem sortItems_eq {xs ys : List (Item rt)} (hperm : xs.Perm ys) (hnodup : (xs.map Item.id).Nodup) :
    sortItems xs = sortItems ys := by
  exact insertionSort_eq_of_perm hperm fun a ha b hb hid => List.inj_on_of_nodup_map hnodup ha hb hid

/-- The namespaces come in another order, each with the same incidents. -/
theorem incidentsList_perm (now : String) {items items' : List (Item rt)} (hperm : items.Perm items')
    (hnodup : (items.map Item.id).Nodup) :
    (incidentsList now items).Perm (incidentsList now items') := by
  have hverified := hperm.filter Item.verified
  refine ((hperm.filter _).map _).append ?_
  rw [List.flatMap_def, List.flatMap_def]
  refine (groupBy_map_perm hverified (namespaceIncidents now) fun ns us vs hsub huv => ?_).flatten
  have husnodup : (us.map Item.id).Nodup :=
    hnodup.sublist ((hsub.trans List.filter_sublist).map Item.id)
  simp only [namespaceIncidents, sortItems_eq huv husnodup]

/-! ## One order of the incidents -/

/-- The same incident, built at another moment. -/
def IncidentRecord.stamped (now : String) (inc : IncidentRecord) : IncidentRecord := { inc with createdAt := now }

/-- The moment of the call shows in `created_at` and nowhere else. -/
theorem incidentsList_stamped (now now' : String) (items : List (Item rt)) :
    incidentsList now' items = (incidentsList now items).map (IncidentRecord.stamped now') := by
  have hns : ∀ ns (its : List (Item rt)),
      namespaceIncidents now' ns its = (namespaceIncidents now ns its).map (IncidentRecord.stamped now') := by
    intro ns its
    simp only [namespaceIncidents, List.map_append, List.map_map]
    congr 1
    refine List.map_congr_left fun r _ => ?_
    by_cases hr : isCluster r = true
    · simp only [Function.comp_apply, if_pos hr]
      rfl
    · simp only [Function.comp_apply, if_neg hr]
      rfl
  simp only [incidentsList, List.map_append, List.map_map, List.map_flatMap, hns]
  rfl

theorem sortedIncidents_stamped (now now' : String) (items : List (Item rt)) :
    sortedIncidents now' items = (sortedIncidents now items).map (IncidentRecord.stamped now') := by
  rw [sortedIncidents, sortedIncidents, incidentsList_stamped now now']
  exact (List.map_insertionSort IncidentRecord.notAfter IncidentRecord.notAfter
    (IncidentRecord.stamped now') _ fun _ _ _ _ => Iff.rfl).symm

/-- Every identifier is derived from the rule and the constituents. -/
theorem incidentsList_derived {now : String} {items : List (Item rt)} {inc : IncidentRecord}
    (h : inc ∈ incidentsList now items) :
    inc.incidentId = deriveIncidentId rt.sha256 inc.correlationRuleId inc.constituentAlertIds := by
  rcases List.mem_append.1 h with h | h
  · obtain ⟨it, -, rfl⟩ := List.mem_map.1 h
    rfl
  · obtain ⟨g, -, h⟩ := List.mem_flatMap.1 h
    rcases List.mem_append.1 h with h | h
    · obtain ⟨r, -, rfl⟩ := List.mem_map.1 h
      rfl
    · obtain ⟨r, -, rfl⟩ := List.mem_map.1 h
      by_cases hr : isCluster r = true
      · rw [if_pos hr]
        rfl
      · rw [if_neg hr]
        rfl

/-- Incidents of one correlation with one identifier are one incident. -/
theorem incident_eq_of_id (hfree : CollisionFree rt.sha256) {now : String} {items : List (Item rt)}
    (hnodup : (items.map Item.id).Nodup) {a b : IncidentRecord} (ha : a ∈ incidentsList now items)
    (hb : b ∈ incidentsList now items) (hid : a.incidentId = b.incidentId) : a = b := by
  obtain ⟨hids, hmem⟩ := (incidentsList_covers now items).spec hnodup
  have hplain : ∀ inc ∈ incidentsList now items, ∀ id ∈ inc.constituentAlertIds, isPlainText id = true := by
    intro inc hinc id hid
    obtain ⟨it, -, rfl⟩ := List.mem_map.1 (hids.mem_iff.1 (List.mem_flatMap.2 ⟨inc, hinc, hid⟩))
    exact decide_eq_true it.candidate.length_id
  rw [incidentsList_derived ha, incidentsList_derived hb] at hid
  obtain ⟨-, hsame⟩ := hfree _ _ _ _ (hplain a ha) (hplain b hb) hid
  obtain ⟨its, -, hd⟩ := hmem a ha
  obtain ⟨c, hc, -⟩ := hd.maxScore
  have hca : c.alertCandidateId ∈ a.constituentAlertIds := hd.constituents ▸ List.mem_map_of_mem hc
  exact part_unique (hids.nodup_iff.2 hnodup) ha hb hca (hsame.mem_iff.1 hca)

theorem sortedIncidents_eq (hfree : CollisionFree rt.sha256) (now : String) {items items' : List (Item rt)}
    (hperm : items.Perm items') (hnodup : (items.map Item.id).Nodup) :
    sortedIncidents now items = sortedIncidents now items' :=
  insertionSort_eq_of_perm (incidentsList_perm now hperm hnodup) fun _ ha _ hb hid =>
    incident_eq_of_id hfree hnodup ha hb hid

/-! ## The whole correlation -/

/-- What correlation reads of an input. -/
def AlertInput.entry (a : AlertInput rt) : AlertCandidate rt.sha256 × Option EntityProvenanceContract :=
  (a.alert, a.ownProvenance)

theorem deduped_perm {alerts alerts' : List (AlertInput rt)} (hperm : alerts.Perm alerts')
    (hsame : ∀ a ∈ alerts, ∀ b ∈ alerts, a.id = b.id → a.entry = b.entry) :
    ((distinctBy AlertInput.id alerts).map AlertInput.entry).Perm
      ((distinctBy AlertInput.id alerts').map AlertInput.entry) := by
  have hkey : ∀ xs : List (AlertInput rt), (distinctBy AlertInput.id xs).map AlertInput.entry =
      distinctBy (fun e => e.1.alertCandidateId) (xs.map AlertInput.entry) := fun xs =>
    (distinctBy_map (fun e : AlertCandidate rt.sha256 × Option EntityProvenanceContract =>
      e.1.alertCandidateId) AlertInput.entry xs).symm
  rw [hkey, hkey]
  refine distinctBy_perm (hperm.map _) fun x hx y hy hxy => ?_
  obtain ⟨a, ha, rfl⟩ := List.mem_map.1 hx
  obtain ⟨b, hb, rfl⟩ := List.mem_map.1 hy
  exact hsame a ha b hb hxy

/-- Permuted alerts give permuted items. -/
theorem itemsOf_perm {alerts alerts' : List (AlertInput rt)} (hperm : alerts.Perm alerts')
    (hsame : ∀ a ∈ alerts, ∀ b ∈ alerts, a.id = b.id → a.entry = b.entry)
    (provenanceMap : String → Option EntityProvenanceContract) :
    (itemsOf alerts provenanceMap).Perm (itemsOf alerts' provenanceMap) := by
  have hitem : ∀ xs : List (AlertInput rt), itemsOf xs provenanceMap =
      ((distinctBy AlertInput.id xs).map AlertInput.entry).map fun e =>
        normalize provenanceMap (.correlatable e.1 e.2) := fun xs => by
    rw [itemsOf, List.map_map]
    rfl
  rw [hitem, hitem]
  exact (deduped_perm hperm hsame).map _

theorem summaryOf_perm {unique unique' : List (AlertCandidate rt.sha256)} (hperm : unique.Perm unique')
    {incidents incidents' : List IncidentRecord} (hlen : incidents'.length = incidents.length) :
    summaryOf rt unique' incidents' = summaryOf rt unique incidents := by
  simp only [summaryOf, hperm.length_eq, hlen, hperm.countP_eq]

/-! ## Two alerts of one flow -/

def sampleEventId : String :=
  "unsw_registered_source_event_v1:0000000000000000000000000000000000000000000000000000000000000007"

def sampleArtifact : String := "aaaaaaaaaaaaaaaaaaaaaaaaaaaaaaaaaaaaaaaaaaaaaaaaaaaaaaaaaaaaaaaa"

def forestAlertId : String :=
  "alert_candidate_v1:65f495727162ecbd3ed9d4cc7f442c1ddaec9dbf95eae0fa7c2e4fc7e1506b34"

def logisticAlertId : String :=
  "alert_candidate_v1:f621b31debdb680eaab0c1460b689cc7423b39aac31623278c39ac23b2117c9b"

def sampleAlertParts (modelIdentity modelVersion : String) : List String :=
  [ALERT_CANDIDATE_SCHEMA_VERSION, sampleEventId, DETECTOR_IDENTITY, DETECTOR_VERSION, modelIdentity,
    modelVersion, sampleArtifact, DECISION_POLICY_VERSION]

/-- SHA-256 of the two alerts, of the forest alert alone and of the burst of both. -/
def sampleDigests : List (Bytes × String) :=
  [(identityMessage "threatfusion:alert-candidate"
      (sampleAlertParts "random_forest" "network_random_forest_baseline_v1"),
      "65f495727162ecbd3ed9d4cc7f442c1ddaec9dbf95eae0fa7c2e4fc7e1506b34"),
    (identityMessage "threatfusion:alert-candidate"
      (sampleAlertParts "logistic_regression" "network_logistic_baseline_v1"),
      "f621b31debdb680eaab0c1460b689cc7423b39aac31623278c39ac23b2117c9b"),
    (identityMessage "threatfusion:incident"
      [INCIDENT_SCHEMA_VERSION, CorrelationRule.singletonVerified.text, forestAlertId],
      "0e7c19680d492fa2c2dfd5b048b87aac074e3e7420633ba8f4247d1558c7f032"),
    (identityMessage "threatfusion:incident"
      [INCIDENT_SCHEMA_VERSION, CorrelationRule.burst5tuple.text, forestAlertId, logisticAlertId],
      "210a71c3de7ab66a84546b76d4f43e363866442202d8f4f71ca537307cc0002b")]

theorem sampleDigests_injective : Function.Injective (tableDigest sampleDigests) :=
  tableDigest_injective (by decide +kernel) (by decide +kernel)

def sampleRuntime : Runtime :=
  { sha256 := tableDigest sampleDigests, fromisoformat := fun _ => none, lower := String.toLower
    round := roundDouble }

def sampleFields (alertId modelIdentity modelVersion : String) : AlertCandidateFields :=
  { schemaVersion := ALERT_CANDIDATE_SCHEMA_VERSION, alertCandidateId := alertId
    sourceEventId := sampleEventId, correlationId := "7f9c24e8-3b1a-4f6d-9e2b-5c8d0a1f3e47"
    detectorIdentity := DETECTOR_IDENTITY, detectorVersion := DETECTOR_VERSION, modelIdentity, modelVersion
    modelArtifactSha256 := sampleArtifact
    featureContractIdentity := NETWORK_BEHAVIOR_V1_CONTRACT_VERSION
    sourceRepresentationIdentity := UNSW_NB15_ARGUS_RAW_REPRESENTATION_V1
    observedAt := ⟨2026, 3, 2, 8, 15, 40, 0, by decide, by decide⟩
    createdAt := ⟨2026, 3, 2, 8, 15, 42, 0, by decide, by decide⟩
    uncalibratedModelScore := .finite (3 / 4) "0.75", decisionThreshold := .finite (1 / 2) "0.5"
    decisionPolicyVersion := DECISION_POLICY_VERSION, decision := "Attack", inferenceStatus := "completed"
    reason := "inference_succeeded" }

def forestAlert : AlertCandidate sampleRuntime.sha256 :=
  ⟨sampleFields forestAlertId "random_forest" "network_random_forest_baseline_v1", by decide +kernel⟩

def logisticAlert : AlertCandidate sampleRuntime.sha256 :=
  ⟨sampleFields logisticAlertId "logistic_regression" "network_logistic_baseline_v1", by decide +kernel⟩

/-- A verified contract: one namespace, both endpoints, a synchronized clock. -/
def sampleProvenance : EntityProvenanceContract :=
  { entityNamespaceId := some "lab", clockSynchronized := true, srcEntityId := some "attacker:10.0.0.5"
    dstEntityId := some "victim:10.0.0.9", protocol := some "tcp", serviceOrPort := some "443" }

/-- **Arrival order does not matter.** Permuted alerts, where entries of one identifier agree, give the
same incidents but for the moment of the call, the same summary, and incidents in the order of
`(earliest_observed_at, incident_id)`. This holds for exact timestamps and for any rounding of them. -/
theorem correlation_ignores_arrival_order (hfree : CollisionFree rt.sha256)
    {alerts alerts' : List (AlertInput rt)} (hperm : alerts.Perm alerts')
    (hsame : ∀ a ∈ alerts, ∀ b ∈ alerts, a.id = b.id → a.entry = b.entry)
    (provenanceMap : String → Option EntityProvenanceContract) (now now' : String) :
    ∃ r r', correlateAlertCandidates now alerts provenanceMap = .ok r ∧
      correlateAlertCandidates now' alerts' provenanceMap = .ok r' ∧
      r'.incidents = r.incidents.map (IncidentRecord.stamped now') ∧ r'.summary = r.summary ∧
      r.incidents.Pairwise IncidentRecord.notAfter := by
  by_cases hne : alerts = []
  · subst hne
    rw [List.nil_perm.1 hperm]
    exact ⟨_, _, correlate_nil now provenanceMap, correlate_nil now' provenanceMap, rfl, rfl, .nil⟩
  · have hne' : alerts' ≠ [] := fun h => hne (List.perm_nil.1 (h ▸ hperm))
    have hincidents : sortedIncidents now' (itemsOf alerts' provenanceMap) =
        (sortedIncidents now (itemsOf alerts provenanceMap)).map (IncidentRecord.stamped now') := by
      rw [← sortedIncidents_stamped]
      exact (sortedIncidents_eq hfree now' (itemsOf_perm hperm hsame provenanceMap)
        (itemsOf_nodup alerts provenanceMap)).symm
    refine ⟨_, _, correlate_eq now provenanceMap hne, correlate_eq now' provenanceMap hne', hincidents,
      summaryOf_perm ?_ ?_, List.pairwise_insertionSort _ _⟩
    · have halert : ∀ xs : List (AlertInput rt), xs.map AlertInput.alert =
          (xs.map AlertInput.entry).map Prod.fst := fun xs => by
        rw [List.map_map]
        rfl
      rw [halert, halert]
      exact (deduped_perm hperm hsame).map _
    · rw [hincidents, List.length_map]

theorem correlation_ignores_arrival_order_pair :
    ∃ r r', correlateAlertCandidates "" [.candidate forestAlert, .candidate logisticAlert]
        (fun _ => some sampleProvenance) = .ok r ∧
      correlateAlertCandidates "" [.candidate logisticAlert, .candidate forestAlert]
        (fun _ => some sampleProvenance) = .ok r' ∧
      r'.incidents = r.incidents.map (IncidentRecord.stamped "") ∧ r'.summary = r.summary ∧
      r.incidents.Pairwise IncidentRecord.notAfter :=
  correlation_ignores_arrival_order (collisionFree_of_injective sampleDigests_injective)
    (List.Perm.swap _ _ []) (by
      intro a ha b hb hid
      have hne : forestAlertId ≠ logisticAlertId := by decide
      simp only [List.mem_cons, List.not_mem_nil, or_false] at ha hb
      rcases ha with rfl | rfl <;> rcases hb with rfl | rfl
      · rfl
      · exact absurd hid hne
      · exact absurd hid hne.symm
      · rfl) _ "" ""

end ThreatFusion.Correlation
