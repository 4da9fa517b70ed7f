import ThreatFusion.Correlation.ArrivalOrder
import Mathlib.Data.List.Pairwise
import Mathlib.Tactic.Linarith
/-
# The two windows

What a pass of `correlate_alert_candidates` guarantees about its runs when times are exact: one key, every
member within the window after the anchor, and anchors of one key more than the window apart
(`windowRun_spec`, `windowRuns_apart`). The incidents inherit it (`correlation_windows`).

A burst takes what comes within 30 s of its earliest member and nothing later, so an alert that pass 1
leaves over may lie within 30 s of a later member of a burst. `Leftover` says what pass 1 leaves.
-/
namespace ThreatFusion.Correlation
open Py Alerts Grouping
variable {rt : Runtime}

/-! ## What is said of the incidents -/

/-- The items an incident is about. -/
def membersIn (items : List (Item rt)) (inc : IncidentRecord) : List (Item rt) :=
  items.filter fun it => it.id ∈ inc.constituentAlertIds

/-- Verified items of one namespace and one key, all within the window after the earliest. -/
structure Grouped {κ : Type} (key : Item rt → κ) (window : ℚ) (ms : List (Item rt)) : Prop where
  verified : ∀ it ∈ ms, it.verified = true
  oneNamespace : ∀ a ∈ ms, ∀ b ∈ ms, a.provenance.entityNamespaceId = b.provenance.entityNamespaceId
  oneKey : ∀ a ∈ ms, ∀ b ∈ ms, key a = key b
  inWindow : ∃ first ∈ ms, ∀ it ∈ ms,
    first.timestamp ≤ it.timestamp ∧ it.timestamp ≤ first.timestamp + window

/-- A member with the least time. -/
def Earliest (ms : List (Item rt)) (first : Item rt) : Prop :=
  first ∈ ms ∧ ∀ it ∈ ms, first.timestamp ≤ it.timestamp

/-- Items of one namespace and one key are more than the window apart. -/
def FarApart {κ : Type} (key : Item rt → κ) (window : ℚ) (a b : Item rt) : Prop :=
  a.provenance.entityNamespaceId = b.provenance.entityNamespaceId → key a = key b →
    a.timestamp + window < b.timestamp ∨ b.timestamp + window < a.timestamp

/-- No burst could take the item: another of its key within 30 s is in a burst that opened more than 30 s
before the item. -/
structure Leftover (items : List (Item rt)) (incidents : List IncidentRecord) (it : Item rt) : Prop where
  outside : ∀ inc ∈ incidents, inc.correlationRuleId = .burst5tuple → it ∉ membersIn items inc
  tooLate : ∀ x ∈ items, x ≠ it → x.verified = true →
    x.provenance.entityNamespaceId = it.provenance.entityNamespaceId → fiveTuple x = fiveTuple it →
      |x.timestamp - it.timestamp| ≤ BURST_WINDOW_SECONDS →
        ∃ inc ∈ incidents, inc.correlationRuleId = .burst5tuple ∧ x ∈ membersIn items inc ∧
          ∃ first, Earliest (membersIn items inc) first ∧
            first.timestamp + BURST_WINDOW_SECONDS < it.timestamp

/-- The groups of pass 1: the bursts, and every other verified item alone. -/
inductive BurstGroup (items : List (Item rt)) (incidents : List IncidentRecord) : List (Item rt) → Prop
  | burst {inc : IncidentRecord} (hinc : inc ∈ incidents) (hrule : inc.correlationRuleId = .burst5tuple) :
      BurstGroup items incidents (membersIn items inc)
  | alone {it : Item rt} (hit : it ∈ items) (hverified : it.verified = true)
      (hnone : ∀ inc ∈ incidents, inc.correlationRuleId = .burst5tuple → it ∉ membersIn items inc) :
      BurstGroup items incidents [it]

/-- The groups of pass 2: the campaigns, and the verified singletons. -/
inductive HostGroup (items : List (Item rt)) (incidents : List IncidentRecord) : List (Item rt) → Prop
  | campaign {inc : IncidentRecord} (hinc : inc ∈ incidents)
      (hrule : inc.correlationRuleId = .campaignEntityPair) : HostGroup items incidents (membersIn items inc)
  | alone {inc : IncidentRecord} (hinc : inc ∈ incidents)
      (hrule : inc.correlationRuleId = .singletonVerified) : HostGroup items incidents (membersIn items inc)

/-- What the windows make of the items. -/
structure Windows (items : List (Item rt)) (incidents : List IncidentRecord) : Prop where
  members : ∀ inc ∈ incidents, inc.constituentAlertIds.Perm ((membersIn items inc).map Item.id)
  burst : ∀ inc ∈ incidents, inc.correlationRuleId = .burst5tuple →
    2 ≤ (membersIn items inc).length ∧ Grouped fiveTuple BURST_WINDOW_SECONDS (membersIn items inc)
  campaign : ∀ inc ∈ incidents, inc.correlationRuleId = .campaignEntityPair →
    2 ≤ (membersIn items inc).length ∧ Grouped hostPair CAMPAIGN_WINDOW_SECONDS (membersIn items inc) ∧
      ∀ it ∈ membersIn items inc, Leftover items incidents it
  unverified : ∀ inc ∈ incidents, ∀ it ∈ membersIn items inc, it.verified = false → membersIn items inc = [it]
  namespaces : ∀ inc ∈ incidents, ∀ a ∈ membersIn items inc, ∀ b ∈ membersIn items inc,
    a.provenance.entityNamespaceId = b.provenance.entityNamespaceId
  burstsApart : ∀ g g', BurstGroup items incidents g → BurstGroup items incidents g' → g ≠ g' →
    ∀ a b, Earliest g a → Earliest g' b → FarApart fiveTuple BURST_WINDOW_SECONDS a b
  hostsApart : ∀ g g', HostGroup items incidents g → HostGroup items incidents g' → g ≠ g' →
    ∀ a b, Earliest g a → Earliest g' b → FarApart hostPair CAMPAIGN_WINDOW_SECONDS a b

/-! ## One pass -/

/-- A run of a window pass over some items. -/
structure WindowRun {κ : Type} (key : Item rt → κ) (window : ℚ) (items : List (Item rt)) (r : Run (Item rt)) :
    Prop where
  mem : ∀ it ∈ r.members, it ∈ items
  oneKey : ∀ it ∈ r.members, key it = key r.anchor
  inWindow : ∀ it ∈ r.members,
    r.anchor.timestamp ≤ it.timestamp ∧ it.timestamp ≤ r.anchor.timestamp + window

theorem anchor_mem (r : Run (Item rt)) : r.anchor ∈ r.members := List.mem_cons_self

theorem mem_sortItems {items : List (Item rt)} {it : Item rt} : it ∈ sortItems items ↔ it ∈ items :=
  (sortItems_perm items).mem_iff

theorem within_iff (hround : ∀ q, rt.round q = q) {window : ℚ} {a b : Item rt} :
    within window a b = true ↔ b.timestamp ≤ a.timestamp + window := by
  rw [within, hround, decide_eq_true_eq, sub_le_iff_le_add']

theorem timestamp_le {a b : Item rt} (h : Item.notAfter a b) : a.timestamp ≤ b.timestamp := by
  rcases h with h | ⟨h, -⟩
  · exact h.le
  · exact h.le

section
variable {κ : Type} [DecidableEq κ] {key : Item rt → κ} {window : ℚ} {items : List (Item rt)}

/-- The members of a run are items of its bin. -/
theorem mem_bin {g : κ × List (Item rt)} (hg : g ∈ groupBy key items) {r : Run (Item rt)}
    (hr : r ∈ windows (within window) (sortItems g.2)) : ∀ it ∈ r.members, it ∈ items ∧ key it = g.1 := by
  intro it hit
  have hbin := mem_sortItems.1 (mem_of_mem_windows hr it hit)
  rw [groupBy_bin (k := g.1) hg, List.mem_filter, decide_eq_true_eq] at hbin
  exact hbin

theorem windowRun_spec (hround : ∀ q, rt.round q = q) (hwindow : 0 ≤ window) {r : Run (Item rt)}
    (hr : r ∈ windowRuns key window items) : WindowRun key window items r := by
  obtain ⟨g, hg, hr⟩ := List.mem_flatMap.1 hr
  have hlater := windows_later (List.pairwise_insertionSort Item.notAfter g.2) hr
  refine ⟨fun it hit => (mem_bin hg hr it hit).1, fun it hit => ?_, fun it hit => ?_⟩
  · rw [(mem_bin hg hr it hit).2, (mem_bin hg hr _ (anchor_mem r)).2]
  · rcases List.mem_cons.1 hit with rfl | hit
    · exact ⟨le_refl _, le_add_of_nonneg_right hwindow⟩
    · obtain ⟨hsorted, hjoin⟩ := hlater it hit
      exact ⟨timestamp_le hsorted, (within_iff hround).1 hjoin⟩

/-- Two anchors of one key are more than the window apart. -/
theorem windowRuns_apart (hround : ∀ q, rt.round q = q) :
    (windowRuns key window items).Pairwise fun r s =>
      key r.anchor = key s.anchor → r.anchor.timestamp + window < s.anchor.timestamp := by
  refine List.pairwise_flatMap.2 ⟨fun g _ => ?_, ?_⟩
  · have hjoins : ∀ a b c : Item rt, Item.notAfter b c → within window a c = true → within window a b = true :=
      fun a b c hbc hac => (within_iff hround).2 ((timestamp_le hbc).trans ((within_iff hround).1 hac))
    refine (windows_apart hjoins (List.pairwise_insertionSort Item.notAfter g.2)).imp fun hfar _ => ?_
    rw [← not_le, ← within_iff hround, hfar]
    exact Bool.false_ne_true
  · have hkeys : (groupBy key items).Pairwise fun g g' => g.1 ≠ g'.1 :=
      List.pairwise_map.1 (nodup_keys key items)
    refine hkeys.imp_of_mem fun {g g'} hg hg' hne r hr s hs hkey => absurd ?_ hne
    rw [← (mem_bin hg hr _ (anchor_mem r)).2, ← (mem_bin hg' hs _ (anchor_mem s)).2, hkey]

end

theorem WindowRun.mono {κ : Type} {key : Item rt → κ} {window : ℚ} {xs ys : List (Item rt)} {r : Run (Item rt)}
    (h : WindowRun key window xs r) (hsub : ∀ it ∈ xs, it ∈ ys) : WindowRun key window ys r :=
  ⟨fun it hit => hsub it (h.mem it hit), h.oneKey, h.inWindow⟩

theorem burstRun_spec (hround : ∀ q, rt.round q = q) {items : List (Item rt)} {r : Run (Item rt)}
    (hr : r ∈ burstRuns items) : WindowRun fiveTuple BURST_WINDOW_SECONDS items r :=
  windowRun_spec hround (by decide) hr

/-- What pass 2 is given is alone in its run of pass 1. -/
theorem mem_unclustered {items : List (Item rt)} {it : Item rt} (hit : it ∈ unclustered items) :
    ∃ s ∈ burstRuns items, s.members = [it] ∧ isCluster s = false := by
  obtain ⟨s, hs, hit⟩ := List.mem_flatMap.1 hit
  obtain ⟨hs, halone⟩ := List.mem_filter.1 hs
  rw [Bool.not_eq_true'] at halone
  have hmembers := members_of_not_isCluster (Bool.not_eq_true _ ▸ halone)
  rw [hmembers, List.mem_singleton] at hit
  exact ⟨s, hs, hit ▸ hmembers, halone⟩

theorem campaignRun_spec (hround : ∀ q, rt.round q = q) {items : List (Item rt)} {r : Run (Item rt)}
    (hr : r ∈ campaignRuns items) : WindowRun hostPair CAMPAIGN_WINDOW_SECONDS items r := by
  refine (windowRun_spec hround (by decide) hr).mono fun it hit => ?_
  obtain ⟨s, hs, hmembers, -⟩ := mem_unclustered hit
  exact (burstRun_spec hround hs).mem it (hmembers ▸ List.mem_singleton.2 rfl)

/-! ## Both passes over every namespace -/

/-- The runs of a pass, namespace by namespace. -/
def passRuns (pass : List (Item rt) → List (Run (Item rt))) (items : List (Item rt)) : List (Run (Item rt)) :=
  (groupBy (fun it => it.provenance.entityNamespaceId.getD "") (items.filter Item.verified)).flatMap fun g =>
    pass (sortItems g.2)

/-- The items of a namespace are verified and name it. -/
theorem mem_namespace {items : List (Item rt)} {g : String × List (Item rt)}
    (hg : g ∈ groupBy (fun it => it.provenance.entityNamespaceId.getD "") (items.filter Item.verified))
    {it : Item rt} (hit : it ∈ sortItems g.2) :
    it ∈ items ∧ it.verified = true ∧ it.provenance.entityNamespaceId = some g.1 := by
  have hbin := mem_sortItems.1 hit
  rw [groupBy_bin (k := g.1) hg, List.mem_filter, List.mem_filter, decide_eq_true_eq] at hbin
  obtain ⟨⟨hmem, hverified⟩, hname⟩ := hbin
  obtain ⟨ns, hns⟩ := namespace_of_isVerified hverified
  rw [hns] at hname ⊢
  exact ⟨hmem, hverified, congrArg some hname⟩

/-- A run of a pass over the namespaces. -/
structure PassRun {κ : Type} (key : Item rt → κ) (window : ℚ) (items : List (Item rt)) (r : Run (Item rt)) :
    Prop extends WindowRun key window items r where
  verified : ∀ it ∈ r.members, it.verified = true
  oneNamespace : ∀ it ∈ r.members, it.provenance.entityNamespaceId = r.anchor.provenance.entityNamespaceId

section
variable {κ : Type} {key : Item rt → κ} {window : ℚ} {pass : List (Item rt) → List (Run (Item rt))}
  {items : List (Item rt)}

theorem passRun_spec (hpass : ∀ its, ∀ r ∈ pass its, WindowRun key window its r) {r : Run (Item rt)}
    (hr : r ∈ passRuns pass items) : PassRun key window items r := by
  obtain ⟨g, hg, hr⟩ := List.mem_flatMap.1 hr
  have hspec := hpass _ r hr
  have hns := fun it hit => mem_namespace hg (hspec.mem it hit)
  refine ⟨hspec.mono fun it hit => (mem_namespace hg hit).1, fun it hit => (hns it hit).2.1, fun it hit => ?_⟩
  rw [(hns it hit).2.2, (hns _ (anchor_mem r)).2.2]

theorem passRuns_apart (hpass : ∀ its, ∀ r ∈ pass its, WindowRun key window its r)
    (hapart : ∀ its, (pass its).Pairwise fun r s =>
      key r.anchor = key s.anchor → r.anchor.timestamp + window < s.anchor.timestamp)
    {r s : Run (Item rt)} (hr : r ∈ passRuns pass items) (hs : s ∈ passRuns pass items) (hne : r ≠ s) :
    FarApart key window r.anchor s.anchor := by
  have hall : (passRuns pass items).Pairwise fun r s => FarApart key window r.anchor s.anchor := by
    refine List.pairwise_flatMap.2 ⟨fun g _ => (hapart _).imp fun h _ hkey => .inl (h hkey), ?_⟩
    refine (List.pairwise_map.1 (nodup_keys _ _)).imp_of_mem fun {g g'} hg hg' hkeys r hr s hs hns => ?_
    have hr' := (mem_namespace hg ((hpass _ r hr).mem _ (anchor_mem r))).2.2
    have hs' := (mem_namespace hg' ((hpass _ s hs).mem _ (anchor_mem s))).2.2
    rw [hr', hs', Option.some.injEq] at hns
    exact absurd hns hkeys
  have hsymm : Std.Symm fun r s : Run (Item rt) => FarApart key window r.anchor s.anchor :=
    ⟨fun r s h hns hkey => (h hns.symm hkey.symm).symm⟩
  exact hall.forall hr hs hne

/-- The time of the earliest member is the anchor's. -/
theorem PassRun.earliest {r : Run (Item rt)} (h : PassRun key window items r) {g : List (Item rt)}
    (hg : ∀ it, it ∈ g ↔ it ∈ r.members) {a : Item rt} (ha : Earliest g a) :
    a.timestamp = r.anchor.timestamp ∧ key a = key r.anchor ∧
      a.provenance.entityNamespaceId = r.anchor.provenance.entityNamespaceId := by
  have hmem := (hg a).1 ha.1
  have hle := ha.2 r.anchor ((hg _).2 (anchor_mem r))
  exact ⟨le_antisymm hle (h.inWindow a hmem).1, h.oneKey a hmem, h.oneNamespace a hmem⟩

theorem PassRun.earliest_anchor {r : Run (Item rt)} (h : PassRun key window items r) {g : List (Item rt)}
    (hg : ∀ it, it ∈ g ↔ it ∈ r.members) : Earliest g r.anchor :=
  ⟨(hg _).2 (anchor_mem r), fun it hit => (h.inWindow it ((hg it).1 hit)).1⟩

theorem PassRun.grouped {r : Run (Item rt)} (h : PassRun key window items r) {g : List (Item rt)}
    (hg : ∀ it, it ∈ g ↔ it ∈ r.members) : Grouped key window g where
  verified it hit := h.verified it ((hg it).1 hit)
  oneNamespace a ha b hb := by rw [h.oneNamespace a ((hg a).1 ha), h.oneNamespace b ((hg b).1 hb)]
  oneKey a ha b hb := by rw [h.oneKey a ((hg a).1 ha), h.oneKey b ((hg b).1 hb)]
  inWindow := ⟨r.anchor, (hg _).2 (anchor_mem r), fun it hit => h.inWindow it ((hg it).1 hit)⟩

/-- Groups of different runs are apart. -/
theorem FarApart.of_runs {r s : Run (Item rt)} (hr : PassRun key window items r) (hs : PassRun key window items s)
    (hfar : FarApart key window r.anchor s.anchor) {g g' : List (Item rt)} (hg : ∀ it, it ∈ g ↔ it ∈ r.members)
    (hg' : ∀ it, it ∈ g' ↔ it ∈ s.members) {a b : Item rt} (ha : Earliest g a) (hb : Earliest g' b) :
    FarApart key window a b := by
  obtain ⟨hta, hka, hna⟩ := hr.earliest hg ha
  obtain ⟨htb, hkb, hnb⟩ := hs.earliest hg' hb
  unfold FarApart at hfar ⊢
  rw [hta, hka, hna, htb, hkb, hnb]
  exact hfar

end

theorem bursts_spec (hround : ∀ q, rt.round q = q) {items : List (Item rt)} {r : Run (Item rt)}
    (hr : r ∈ passRuns burstRuns items) : PassRun fiveTuple BURST_WINDOW_SECONDS items r :=
  passRun_spec (fun _ _ => burstRun_spec hround) hr

theorem campaigns_spec (hround : ∀ q, rt.round q = q) {items : List (Item rt)} {r : Run (Item rt)}
    (hr : r ∈ passRuns campaignRuns items) : PassRun hostPair CAMPAIGN_WINDOW_SECONDS items r :=
  passRun_spec (fun _ _ => campaignRun_spec hround) hr

/-- Pass 1 puts every verified item into one run. -/
theorem bursts_members (items : List (Item rt)) :
    ((passRuns burstRuns items).flatMap Run.members).Perm (items.filter Item.verified) := by
  rw [passRuns, List.flatMap_assoc]
  refine List.Perm.trans ?_ (groupBy_flatten (fun it => it.provenance.entityNamespaceId.getD "") _)
  exact List.Perm.flatMap_left _ fun g _ => (windowRuns_members _ _ _).trans (sortItems_perm g.2)

/-- An item has one run of pass 1. -/
theorem burst_unique {items : List (Item rt)} (hids : (items.map Item.id).Nodup) {r s : Run (Item rt)}
    (hr : r ∈ passRuns burstRuns items) (hs : s ∈ passRuns burstRuns items) {it : Item rt}
    (hitr : it ∈ r.members) (hits : it ∈ s.members) : r = s := by
  have hverified : ((items.filter Item.verified).map Item.id).Nodup := hids.sublist (List.filter_sublist.map _)
  have hnodup := ((bursts_members items).map Item.id).nodup_iff.2 hverified
  rw [List.map_flatMap] at hnodup
  exact part_unique hnodup hr hs (List.mem_map_of_mem hitr) (List.mem_map_of_mem hits)

/-- What a run of pass 2 holds is alone in a run of pass 1. -/
theorem campaigns_leftover (hround : ∀ q, rt.round q = q) {items : List (Item rt)} {r : Run (Item rt)}
    (hr : r ∈ passRuns campaignRuns items) {it : Item rt} (hit : it ∈ r.members) :
    ∃ s ∈ passRuns burstRuns items, s.members = [it] ∧ isCluster s = false := by
  obtain ⟨g, hg, hr⟩ := List.mem_flatMap.1 hr
  have hleft := (windowRun_spec hround (by decide) hr).mem it hit
  obtain ⟨s, hs, hmembers⟩ := mem_unclustered hleft
  exact ⟨s, List.mem_flatMap.2 ⟨g, hg, hs⟩, hmembers⟩

/-! ## The incidents and the runs -/

/-- Where an incident comes from. -/
theorem incident_cases {now : String} {items : List (Item rt)} {inc : IncidentRecord}
    (h : inc ∈ incidentsList now items) :
    (inc.correlationRuleId = .singletonUnverifiedProvenance ∧
      ∃ it ∈ items, it.verified = false ∧ inc.constituentAlertIds = [it.id]) ∨
    (inc.correlationRuleId = .burst5tuple ∧ ∃ r ∈ passRuns burstRuns items, isCluster r = true ∧
      inc.constituentAlertIds = r.members.map Item.id) ∨
    (inc.correlationRuleId = .campaignEntityPair ∧ ∃ r ∈ passRuns campaignRuns items, isCluster r = true ∧
      inc.constituentAlertIds = r.members.map Item.id) ∨
    (inc.correlationRuleId = .singletonVerified ∧ ∃ r ∈ passRuns campaignRuns items,
      inc.constituentAlertIds = r.members.map Item.id) := by
  rcases List.mem_append.1 h with h | h
  · obtain ⟨it, hit, rfl⟩ := List.mem_map.1 h
    obtain ⟨hit, hunverified⟩ := List.mem_filter.1 hit
    exact .inl ⟨rfl, it, hit, by simpa using hunverified, rfl⟩
  · obtain ⟨g, hg, h⟩ := List.mem_flatMap.1 h
    rcases List.mem_append.1 h with h | h
    · obtain ⟨r, hr, rfl⟩ := List.mem_map.1 h
      obtain ⟨hr, hcluster⟩ := List.mem_filter.1 hr
      exact .inr (.inl ⟨rfl, r, List.mem_flatMap.2 ⟨g, hg, hr⟩, hcluster, rfl⟩)
    · obtain ⟨r, hr, rfl⟩ := List.mem_map.1 h
      have hpass : r ∈ passRuns campaignRuns items := List.mem_flatMap.2 ⟨g, hg, hr⟩
      by_cases hcluster : isCluster r = true
      · rw [if_pos hcluster]
        exact .inr (.inr (.inl ⟨rfl, r, hpass, hcluster, rfl⟩))
      · rw [if_neg hcluster]
        refine .inr (.inr (.inr ⟨rfl, r, hpass, ?_⟩))
        rw [members_of_not_isCluster hcluster]
        rfl

/-- Every cluster of pass 1 has its incident. -/
theorem burst_exists (now : String) {items : List (Item rt)} {r : Run (Item rt)}
    (hr : r ∈ passRuns burstRuns items) (hcluster : isCluster r = true) :
    ∃ inc ∈ incidentsList now items, inc.correlationRuleId = .burst5tuple ∧
      inc.constituentAlertIds = r.members.map Item.id := by
  obtain ⟨g, hg, hr⟩ := List.mem_flatMap.1 hr
  refine ⟨burstIncident now g.1 r, List.mem_append_right _ (List.mem_flatMap.2 ⟨g, hg, ?_⟩), rfl, rfl⟩
  exact List.mem_append_left _ (List.mem_map_of_mem (List.mem_filter.2 ⟨hr, hcluster⟩))

/-- The identifiers of an incident are those of its items. -/
theorem membersIn_ids {items : List (Item rt)} (hids : (items.map Item.id).Nodup) {incidents : List IncidentRecord}
    (hcover : (incidents.flatMap (·.constituentAlertIds)).Perm (items.map Item.id)) {inc : IncidentRecord}
    (hinc : inc ∈ incidents) : inc.constituentAlertIds.Perm ((membersIn items inc).map Item.id) := by
  have hnodup := (List.nodup_flatMap.1 (hcover.nodup_iff.2 hids)).1 inc hinc
  refine (List.perm_ext_iff_of_nodup hnodup (hids.sublist (List.filter_sublist.map _))).2 fun id => ?_
  simp only [List.mem_map, List.mem_filter, decide_eq_true_eq]
  constructor
  · intro hid
    obtain ⟨it, hit, rfl⟩ := List.mem_map.1 (hcover.mem_iff.1 (List.mem_flatMap.2 ⟨inc, hinc, hid⟩))
    exact ⟨it, ⟨hit, hid⟩, rfl⟩
  · rintro ⟨it, ⟨-, hid⟩, rfl⟩
    exact hid

/-! ## The whole correlation -/

section
variable {now : String} {items : List (Item rt)} {incidents : List IncidentRecord}

/-- The items of a run, in the order of the list. -/
def itemsOfRun (items : List (Item rt)) (r : Run (Item rt)) : List (Item rt) :=
  items.filter fun it => it.id ∈ r.members.map Item.id

theorem membersIn_eq {inc : IncidentRecord} {r : Run (Item rt)}
    (hinc : inc.constituentAlertIds = r.members.map Item.id) : membersIn items inc = itemsOfRun items r := by
  rw [membersIn, itemsOfRun, hinc]

theorem mem_itemsOfRun (hids : (items.map Item.id).Nodup) {r : Run (Item rt)} (hr : ∀ it ∈ r.members, it ∈ items)
    (it : Item rt) : it ∈ itemsOfRun items r ↔ it ∈ r.members := by
  rw [itemsOfRun, List.mem_filter, decide_eq_true_eq, List.mem_map]
  constructor
  · rintro ⟨hit, x, hx, hid⟩
    exact List.inj_on_of_nodup_map hids (hr x hx) hit hid ▸ hx
  · exact fun hit => ⟨hr it hit, it, hit, rfl⟩

theorem itemsOfRun_single (hids : (items.map Item.id).Nodup) {it : Item rt} (hit : it ∈ items) {r : Run (Item rt)}
    (hr : r.members = [it]) : itemsOfRun items r = [it] := by
  have hmem : ∀ x ∈ r.members, x ∈ items := fun x hx => by
    rw [hr, List.mem_singleton] at hx
    exact hx ▸ hit
  refine List.perm_singleton.1 ?_
  refine (List.perm_ext_iff_of_nodup (hids.of_map.filter _) (List.nodup_singleton it)).2 fun x => ?_
  rw [← hr]
  exact mem_itemsOfRun hids hmem x

/-- The bursts are the clusters of pass 1. -/
theorem burst_run (hperm : incidents.Perm (incidentsList now items)) {inc : IncidentRecord}
    (hinc : inc ∈ incidents) (hrule : inc.correlationRuleId = .burst5tuple) :
    ∃ r ∈ passRuns burstRuns items, isCluster r = true ∧ inc.constituentAlertIds = r.members.map Item.id := by
  rcases incident_cases (hperm.mem_iff.1 hinc) with ⟨h, -⟩ | ⟨-, h⟩ | ⟨h, -⟩ | ⟨h, -⟩
  · rw [h] at hrule; cases hrule
  · exact h
  · rw [h] at hrule; cases hrule
  · rw [h] at hrule; cases hrule

/-- The campaigns are the clusters of pass 2. -/
theorem campaign_run (hperm : incidents.Perm (incidentsList now items)) {inc : IncidentRecord}
    (hinc : inc ∈ incidents) (hrule : inc.correlationRuleId = .campaignEntityPair) :
    ∃ r ∈ passRuns campaignRuns items, isCluster r = true ∧ inc.constituentAlertIds = r.members.map Item.id := by
  rcases incident_cases (hperm.mem_iff.1 hinc) with ⟨h, -⟩ | ⟨h, -⟩ | ⟨-, h⟩ | ⟨h, -⟩
  · rw [h] at hrule; cases hrule
  · rw [h] at hrule; cases hrule
  · exact h
  · rw [h] at hrule; cases hrule

/-- An incident is that of an unverified item or of a run in one namespace. -/
theorem incident_source (hround : ∀ q, rt.round q = q) (hperm : incidents.Perm (incidentsList now items))
    {inc : IncidentRecord} (hinc : inc ∈ incidents) :
    (∃ it ∈ items, it.verified = false ∧ inc.constituentAlertIds = [it.id]) ∨
      ∃ r : Run (Item rt), (∀ it ∈ r.members, it ∈ items ∧ it.verified = true ∧
          it.provenance.entityNamespaceId = r.anchor.provenance.entityNamespaceId) ∧
        inc.constituentAlertIds = r.members.map Item.id := by
  rcases incident_cases (hperm.mem_iff.1 hinc) with ⟨-, h⟩ | ⟨-, r, hr, -, hc⟩ | ⟨-, r, hr, -, hc⟩ | ⟨-, r, hr, hc⟩
  · exact .inl h
  · have hspec := bursts_spec hround hr
    exact .inr ⟨r, fun it hit => ⟨hspec.mem it hit, hspec.verified it hit, hspec.oneNamespace it hit⟩, hc⟩
  · have hspec := campaigns_spec hround hr
    exact .inr ⟨r, fun it hit => ⟨hspec.mem it hit, hspec.verified it hit, hspec.oneNamespace it hit⟩, hc⟩
  · have hspec := campaigns_spec hround hr
    exact .inr ⟨r, fun it hit => ⟨hspec.mem it hit, hspec.verified it hit, hspec.oneNamespace it hit⟩, hc⟩

/-- A verified item that no burst holds is alone in its run. -/
theorem alone_run (hround : ∀ q, rt.round q = q) (hids : (items.map Item.id).Nodup)
    (hperm : incidents.Perm (incidentsList now items)) {s : Run (Item rt)} (hs : s ∈ passRuns burstRuns items)
    {it : Item rt} (hit : it ∈ s.members)
    (hnone : ∀ inc ∈ incidents, inc.correlationRuleId = .burst5tuple → it ∉ membersIn items inc) :
    s.members = [it] := by
  have hcluster : ¬ isCluster s = true := fun hcluster => by
    obtain ⟨inc, hinc, hrule, hconstituents⟩ := burst_exists now hs hcluster
    refine hnone inc (hperm.mem_iff.2 hinc) hrule ?_
    rw [membersIn_eq hconstituents]
    exact (mem_itemsOfRun hids (bursts_spec hround hs).mem it).2 hit
  have hmembers := members_of_not_isCluster hcluster
  rw [hmembers, List.mem_singleton] at hit
  exact hit ▸ hmembers

/-- Every group of pass 1 is that of a run. -/
theorem BurstGroup.run (hround : ∀ q, rt.round q = q) (hids : (items.map Item.id).Nodup)
    (hperm : incidents.Perm (incidentsList now items)) {g : List (Item rt)} (h : BurstGroup items incidents g) :
    ∃ r ∈ passRuns burstRuns items, g = itemsOfRun items r := by
  cases h with
  | burst hinc hrule =>
    obtain ⟨r, hr, -, hconstituents⟩ := burst_run hperm hinc hrule
    exact ⟨r, hr, membersIn_eq hconstituents⟩
  | @alone it hit hverified hnone =>
    have hmem := (bursts_members items).mem_iff.2 (List.mem_filter.2 ⟨hit, hverified⟩)
    obtain ⟨s, hs, hits⟩ := List.mem_flatMap.1 hmem
    have hmembers := alone_run hround hids hperm hs hits hnone
    exact ⟨s, hs, (itemsOfRun_single hids hit hmembers).symm⟩

/-- Every group of pass 2 is that of a run. -/
theorem HostGroup.run (hperm : incidents.Perm (incidentsList now items)) {g : List (Item rt)}
    (h : HostGroup items incidents g) : ∃ r ∈ passRuns campaignRuns items, g = itemsOfRun items r := by
  have hrun : ∀ inc ∈ incidents, inc.correlationRuleId = .campaignEntityPair ∨
      inc.correlationRuleId = .singletonVerified →
        ∃ r ∈ passRuns campaignRuns items, membersIn items inc = itemsOfRun items r := by
    intro inc hinc hrule
    rcases incident_cases (hperm.mem_iff.1 hinc) with ⟨h, -⟩ | ⟨h, -⟩ | ⟨-, r, hr, -, hc⟩ | ⟨-, r, hr, hc⟩
    · rw [h] at hrule; simp at hrule
    · rw [h] at hrule; simp at hrule
    · exact ⟨r, hr, membersIn_eq hc⟩
    · exact ⟨r, hr, membersIn_eq hc⟩
  cases h with
  | campaign hinc hrule => exact hrun _ hinc (.inl hrule)
  | alone hinc hrule => exact hrun _ hinc (.inr hrule)

/-- What pass 2 is given could join no burst. -/
theorem leftover_of_campaign (hround : ∀ q, rt.round q = q) (hids : (items.map Item.id).Nodup)
    (hperm : incidents.Perm (incidentsList now items)) {r : Run (Item rt)} (hr : r ∈ passRuns campaignRuns items)
    {it : Item rt} (hit : it ∈ r.members) : Leftover items incidents it := by
  obtain ⟨s, hs, hmembers, halone⟩ := campaigns_leftover hround hr hit
  have hanchor : s.anchor = it := List.mem_singleton.1 (hmembers ▸ anchor_mem s)
  constructor
  · intro inc hinc hrule hmem
    obtain ⟨s', hs', hcluster, hconstituents⟩ := burst_run hperm hinc hrule
    rw [membersIn_eq hconstituents, mem_itemsOfRun hids (bursts_spec hround hs').mem] at hmem
    have hsame : s = s' := burst_unique hids hs hs' (hanchor ▸ anchor_mem s) hmem
    rw [← hsame, halone] at hcluster
    exact Bool.false_ne_true hcluster
  · intro x hx hne hxv hns hkey hclose
    have hxmem := (bursts_members items).mem_iff.2 (List.mem_filter.2 ⟨hx, hxv⟩)
    obtain ⟨s', hs', hxs'⟩ := List.mem_flatMap.1 hxmem
    have hdiff : s ≠ s' := fun h => hne (List.mem_singleton.1 (hmembers ▸ h ▸ hxs'))
    have hspec := bursts_spec hround hs'
    have hfar := passRuns_apart (fun _ _ => burstRun_spec hround) (fun _ => windowRuns_apart hround) hs hs' hdiff
    have hns' : it.provenance.entityNamespaceId = s'.anchor.provenance.entityNamespaceId :=
      hns.symm.trans (hspec.oneNamespace x hxs')
    have hkey' : fiveTuple it = fiveTuple s'.anchor := hkey.symm.trans (hspec.oneKey x hxs')
    rw [abs_le] at hclose
    -- the run of `x` opened before the item: had it opened later, `x` would be more than 30 s later too
    have hbefore : s'.anchor.timestamp + BURST_WINDOW_SECONDS < it.timestamp := by
      rcases hanchor ▸ hfar (hanchor ▸ hns') (hanchor ▸ hkey') with hlater | hbefore
      · have hx := (hspec.inWindow x hxs').1
        linarith [hclose.2]
      · exact hbefore
    have hcluster : isCluster s' = true := by
      by_contra halone'
      have hxs := hxs'
      rw [members_of_not_isCluster halone', List.mem_singleton] at hxs
      rw [← hxs] at hbefore
      linarith [hclose.1]
    obtain ⟨inc, hinc, hrule, hconstituents⟩ := burst_exists now hs' hcluster
    have hmem := mem_itemsOfRun hids hspec.mem
    refine ⟨inc, hperm.mem_iff.2 hinc, hrule, ?_⟩
    rw [membersIn_eq hconstituents]
    exact ⟨(hmem x).2 hxs', s'.anchor, hspec.earliest_anchor hmem, hbefore⟩

/-- An incident of a cluster has two members at least. -/
theorem two_le_members (hids : (items.map Item.id).Nodup)
    (hcover : (incidents.flatMap (·.constituentAlertIds)).Perm (items.map Item.id)) {inc : IncidentRecord} (hinc : inc ∈ incidents) {r : Run (Item rt)} (hcluster : isCluster r = true)
    (hconstituents : inc.constituentAlertIds = r.members.map Item.id) : 2 ≤ (membersIn items inc).length := by
  have hlength := (membersIn_ids hids hcover hinc).length_eq
  rw [List.length_map] at hlength
  rw [← hlength, hconstituents, List.length_map, Run.members, List.length_cons]
  have hlater : r.later ≠ [] := by simpa [isCluster] using hcluster
  exact Nat.succ_le_succ (List.length_pos_of_ne_nil hlater)

theorem windows_of_incidents (hround : ∀ q, rt.round q = q) (hids : (items.map Item.id).Nodup)
    (hperm : incidents.Perm (incidentsList now items))
    (hcover : (incidents.flatMap (·.constituentAlertIds)).Perm (items.map Item.id)) : Windows items incidents where
  members inc hinc := membersIn_ids hids hcover hinc
  burst inc hinc hrule := by
    obtain ⟨r, hr, hcluster, hconstituents⟩ := burst_run hperm hinc hrule
    have hspec := bursts_spec hround hr
    refine ⟨two_le_members hids hcover hinc hcluster hconstituents, ?_⟩
    rw [membersIn_eq hconstituents]
    exact hspec.grouped (mem_itemsOfRun hids hspec.mem)
  campaign inc hinc hrule := by
    obtain ⟨r, hr, hcluster, hconstituents⟩ := campaign_run hperm hinc hrule
    have hspec := campaigns_spec hround hr
    have hmem := mem_itemsOfRun hids hspec.mem
    refine ⟨two_le_members hids hcover hinc hcluster hconstituents, ?_⟩
    rw [membersIn_eq hconstituents]
    exact ⟨hspec.grouped hmem, fun it hit => leftover_of_campaign hround hids hperm hr ((hmem it).1 hit)⟩
  unverified inc hinc it hit hunverified := by
    rcases incident_source hround hperm hinc with ⟨x, hx, -, hconstituents⟩ | ⟨r, hr, hconstituents⟩
    · have hrun : inc.constituentAlertIds = (Run.mk x []).members.map Item.id := hconstituents
      have hsingle := itemsOfRun_single hids hx (Run.members_single x)
      rw [membersIn_eq hrun, hsingle] at hit ⊢
      rw [List.mem_singleton.1 hit]
    · rw [membersIn_eq hconstituents, mem_itemsOfRun hids fun x hx => (hr x hx).1] at hit
      rw [(hr it hit).2.1] at hunverified
      cases hunverified
  namespaces inc hinc a ha b hb := by
    rcases incident_source hround hperm hinc with ⟨x, hx, -, hconstituents⟩ | ⟨r, hr, hconstituents⟩
    · have hrun : inc.constituentAlertIds = (Run.mk x []).members.map Item.id := hconstituents
      have hsingle := itemsOfRun_single hids hx (Run.members_single x)
      rw [membersIn_eq hrun, hsingle, List.mem_singleton] at ha hb
      rw [ha, hb]
    · rw [membersIn_eq hconstituents, mem_itemsOfRun hids fun x hx => (hr x hx).1] at ha hb
      rw [(hr a ha).2.2, (hr b hb).2.2]
  burstsApart g g' hg hg' hne a b ha hb := by
    obtain ⟨r, hr, rfl⟩ := hg.run hround hids hperm
    obtain ⟨s, hs, rfl⟩ := hg'.run hround hids hperm
    have hspecr := bursts_spec hround hr
    have hspecs := bursts_spec hround hs
    have hfar := passRuns_apart (fun _ _ => burstRun_spec hround) (fun _ => windowRuns_apart hround) hr hs
      fun h => hne (congrArg _ h)
    exact hfar.of_runs hspecr hspecs (mem_itemsOfRun hids hspecr.mem) (mem_itemsOfRun hids hspecs.mem) ha hb
  hostsApart g g' hg hg' hne a b ha hb := by
    obtain ⟨r, hr, rfl⟩ := hg.run hperm
    obtain ⟨s, hs, rfl⟩ := hg'.run hperm
    have hspecr := campaigns_spec hround hr
    have hspecs := campaigns_spec hround hs
    have hfar := passRuns_apart (fun _ _ => campaignRun_spec hround) (fun _ => windowRuns_apart hround) hr hs
      fun h => hne (congrArg _ h)
    exact hfar.of_runs hspecr hspecs (mem_itemsOfRun hids hspecr.mem) (mem_itemsOfRun hids hspecs.mem) ha hb

end

/-- **Correlation keeps its windows.** For exact times every burst, every campaign and every singleton is
as its rule says, and the groups of one key are greedy: they open more than the window apart. -/
theorem correlation_windows (hround : ∀ q, rt.round q = q) (now : String) (alerts : List (AlertInput rt))
    (provenanceMap : String → Option EntityProvenanceContract) :
    ∃ r, correlateAlertCandidates now alerts provenanceMap = .ok r ∧
      Windows (itemsOf alerts provenanceMap) r.incidents := by
  have hids := itemsOf_nodup alerts provenanceMap
  obtain ⟨hcover, -⟩ := sortedIncidents_spec now alerts provenanceMap
  have hwindows := windows_of_incidents hround hids (sortedIncidents_perm now _) hcover
  by_cases hne : alerts = []
  · subst hne
    exact ⟨_, correlate_nil now provenanceMap, hwindows⟩
  · exact ⟨_, correlate_eq now provenanceMap hne, hwindows⟩

/-- The interpreter of the samples, with exact arithmetic. -/
def exactRuntime : Runtime := { sampleRuntime with round := id }

def exactPair : List (AlertInput exactRuntime) := [.candidate forestAlert, .candidate logisticAlert]

theorem correlation_windows_pair :
    ∃ r, correlateAlertCandidates "" exactPair (fun _ => some sampleProvenance) = .ok r ∧
      Windows (itemsOf exactPair fun _ => some sampleProvenance) r.incidents :=
  correlation_windows (fun _ => rfl) "" exactPair _

end ThreatFusion.Correlation
