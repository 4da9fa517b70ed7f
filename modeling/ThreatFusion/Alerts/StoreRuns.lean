import ThreatFusion.Alerts.Rows
import ThreatFusion.Lib.Grouping
import ThreatFusion.Lib.Machine
/-
# The alert store: first writer wins, rows never change

`insert` holds the write lock from its `SELECT` to its `COMMIT` (`BEGIN IMMEDIATE`), so the calls of any
number of repositories over one database take effect one after the other: a run is a list of calls, each with
what SQLite does to it, in that order.

* `Sound`: every row is one of a candidate, and no two have one identifier. `insertRow_cases` says what a call
  can do to such a table, `storeStep_sound` that it stays one.
* `rows_kept`: a later table has the rows of an earlier one before its own.
* `store_run`: what a run of inserts, and a read of any of its tables, report.
-/
namespace ThreatFusion.Alerts
open Py Machine Grouping

section
variable {sha256 : Bytes → String}

/-- One call: what SQLite does to it, and its candidate. -/
abbrev StoreInput (sha256 : Bytes → String) := AlertFault × AlertCandidate sha256

def storeStep (rows : List AlertRow) (input : StoreInput sha256) :
    Except AlertPersistenceError (AlertInsertResult sha256) × List AlertRow :=
  insertRow sha256 input.1 rows input.2

structure Sound (sha256 : Bytes → String) (rows : List AlertRow) : Prop where
  encoded : ∀ row ∈ rows, ∃ c : AlertCandidate sha256, row = c.values
  keyed : (rows.map (·.alertCandidateId)).Nodup

theorem Sound.find? {rows : List AlertRow} (h : Sound sha256 rows) {c : AlertCandidate sha256}
    (hc : c.values ∈ rows) {id : String} (hid : c.alertCandidateId = id) :
    rows.find? (fun row => row.alertCandidateId == id) = some c.values := by
  subst hid
  exact find?_key h.keyed hc

/-! ## One call -/

/-- What a call does to a table: it fails, it is the first of its identifier, or it meets the row of the
first. -/
theorem insertRow_cases (fault : AlertFault) {rows : List AlertRow} (h : Sound sha256 rows)
    (c : AlertCandidate sha256) :
    (fault ≠ .none ∧ ∃ e, insertRow sha256 fault rows c = (.error e, rows)) ∨
    (fault = .none ∧ c.alertCandidateId ∉ rows.map (·.alertCandidateId) ∧
      insertRow sha256 fault rows c = (.ok ⟨.created, c⟩, rows ++ [c.values])) ∨
    (fault = .none ∧ ∃ s : AlertCandidate sha256, s.values ∈ rows ∧ s.alertCandidateId = c.alertCandidateId ∧
      insertRow sha256 fault rows c =
        (if sameDetectionEvidence s.toAlertCandidateFields c.toAlertCandidateFields then
          .ok ⟨.existing, s.readBack⟩ else .error .identityConflict, rows)) := by
  cases fault with
  | connectCorrupt | connectUnavailable | busy | write => exact .inl ⟨nofun, _, rfl⟩
  | none =>
    by_cases hmem : c.alertCandidateId ∈ rows.map (·.alertCandidateId)
    · obtain ⟨row, hrow, hid⟩ := List.mem_map.1 hmem
      obtain ⟨s, rfl⟩ := h.encoded row hrow
      refine .inr (.inr ⟨rfl, s, hrow, hid, ?_⟩)
      rw [insertRow, insertRowTx, h.find? hrow hid]
      dsimp only
      rw [candidateFromRow_values]
      dsimp only
      rw [sameDetectionEvidence_readBack]
      cases sameDetectionEvidence s.toAlertCandidateFields c.toAlertCandidateFields <;> rfl
    · have hnone : rows.find? (fun row => row.alertCandidateId == c.alertCandidateId) = none := by
        rw [List.find?_eq_none]
        intro row hrow heq
        exact hmem (List.mem_map.2 ⟨row, hrow, beq_iff_eq.1 heq⟩)
      refine .inr (.inl ⟨rfl, hmem, ?_⟩)
      rw [insertRow, insertRowTx, hnone]

theorem storeStep_rows {rows : List AlertRow} (h : Sound sha256 rows) (input : StoreInput sha256) :
    (storeStep rows input).2 = rows ∨
    (storeStep rows input).1 = .ok ⟨.created, input.2⟩ ∧
      input.2.alertCandidateId ∉ rows.map (·.alertCandidateId) ∧
      (storeStep rows input).2 = rows ++ [input.2.values] := by
  rcases insertRow_cases input.1 h input.2 with ⟨-, e, he⟩ | ⟨-, hnew, hdone⟩ | ⟨-, s, -, -, hdone⟩
  · exact .inl (by rw [storeStep, he])
  · exact .inr ⟨by rw [storeStep, hdone], hnew, by rw [storeStep, hdone]⟩
  · exact .inl (by rw [storeStep, hdone])

theorem storeStep_sound (rows : List AlertRow) (input : StoreInput sha256) (h : Sound sha256 rows) :
    Sound sha256 (storeStep rows input).2 := by
  rcases storeStep_rows h input with hsame | ⟨-, hnew, hsnoc⟩
  · rw [hsame]
    exact h
  · rw [hsnoc]
    constructor
    · intro row hrow
      rcases List.mem_append.1 hrow with hrow | hrow
      · exact h.encoded row hrow
      · exact ⟨input.2, List.mem_singleton.1 hrow⟩
    · rw [List.map_append, List.map_singleton, ← List.concat_eq_append]
      exact h.keyed.concat hnew

/-! ## Runs -/

variable {inputs : List (StoreInput sha256)}

theorem sound_nil : Sound sha256 [] := ⟨nofun, List.nodup_nil⟩

theorem sound_at (k : Nat) : Sound sha256 (stateAt storeStep [] inputs k) :=
  stateAt_inv (I := Sound sha256) storeStep_sound sound_nil k

theorem rows_kept {j k : Nat} (hjk : j ≤ k) :
    stateAt storeStep [] inputs j <+: stateAt storeStep [] inputs k := by
  apply stateAt_rel (I := Sound sha256) (R := fun a b => a <+: b) storeStep_sound sound_nil
  · exact fun rows => List.prefix_rfl
  · exact fun _ _ _ => List.IsPrefix.trans
  · intro rows input h
    rcases storeStep_rows h input with hsame | ⟨-, -, hsnoc⟩
    · exact hsame.symm ▸ List.prefix_rfl
    · rw [hsnoc]
      exact List.prefix_append _ _
  · exact hjk

/-- Call `j` reported `c` as created. -/
def Creates (inputs : List (StoreInput sha256)) (j : Nat) (c : AlertCandidate sha256) : Prop :=
  ∃ rows fault rows' , Happens storeStep [] inputs j rows (fault, c) (.ok ⟨.created, c⟩) rows'

theorem Creates.stored {j k : Nat} {c : AlertCandidate sha256} (h : Creates inputs j c) (hjk : j < k) :
    c.values ∈ stateAt storeStep [] inputs k := by
  obtain ⟨rows, fault, rows', hj⟩ := h
  have hsound : Sound sha256 rows := hj.before ▸ sound_at j
  have hmem : c.values ∈ rows' := by
    rw [← hj.after]
    have hreply := hj.reply
    rw [storeStep] at hreply ⊢
    rcases insertRow_cases fault hsound c with ⟨-, e, he⟩ | ⟨-, -, hdone⟩ | ⟨-, s, -, -, hdone⟩
    · rw [he] at hreply
      cases hreply
    · rw [hdone]
      exact List.mem_append_right _ List.mem_cons_self
    · rw [hdone] at hreply
      dsimp only at hreply
      split at hreply <;> cases hreply
  rw [hj.succ] at hmem
  exact (rows_kept hjk).subset hmem

theorem Creates.fresh {j : Nat} {c : AlertCandidate sha256} (h : Creates inputs j c) :
    c.alertCandidateId ∉ (stateAt storeStep [] inputs j).map (·.alertCandidateId) := by
  obtain ⟨rows, fault, rows', hj⟩ := h
  rw [← hj.before]
  have hsound : Sound sha256 rows := hj.before ▸ sound_at j
  have hreply := hj.reply
  rw [storeStep] at hreply
  rcases insertRow_cases fault hsound c with ⟨-, e, he⟩ | ⟨-, hnew, -⟩ | ⟨-, s, -, -, hdone⟩
  · rw [he] at hreply
    cases hreply
  · exact hnew
  · rw [hdone] at hreply
    dsimp only at hreply
    split at hreply <;> cases hreply

/-- Every row is that of a call that reported it as created. -/
theorem created_of_row (k : Nat) : ∀ row ∈ stateAt storeStep [] inputs k,
    ∃ j c, j < k ∧ Creates inputs j c ∧ row = c.values := by
  induction k with
  | zero => nofun
  | succ k ih =>
    intro row hrow
    cases hinput : inputs[k]? with
    | none =>
      rw [stateAt_succ_none _ hinput] at hrow
      obtain ⟨j, c, hj, hc⟩ := ih row hrow
      exact ⟨j, c, Nat.lt_succ_of_lt hj, hc⟩
    | some input =>
      have hhappens : Happens storeStep [] inputs k _ input _ _ := happens_of_input hinput
      rcases storeStep_rows (sound_at k) input with hsame | ⟨hreply, -, hsnoc⟩
      · rw [stateAt_succ _ hinput, hsame] at hrow
        obtain ⟨j, c, hj, hc⟩ := ih row hrow
        exact ⟨j, c, Nat.lt_succ_of_lt hj, hc⟩
      · rw [stateAt_succ _ hinput, hsnoc] at hrow
        rcases List.mem_append.1 hrow with hrow | hrow
        · obtain ⟨j, c, hj, hc⟩ := ih row hrow
          exact ⟨j, c, Nat.lt_succ_of_lt hj, hc⟩
        · rw [hreply] at hhappens
          exact ⟨k, input.2, Nat.lt_succ_self k, ⟨_, _, _, hhappens⟩, List.mem_singleton.1 hrow⟩

theorem Creates.once {i j : Nat} {c d : AlertCandidate sha256} (hc : Creates inputs i c) (hd : Creates inputs j d)
    (hid : c.alertCandidateId = d.alertCandidateId) : i = j := by
  have hbefore : ∀ {i j : Nat} {c d : AlertCandidate sha256}, Creates inputs i c → Creates inputs j d →
      c.alertCandidateId = d.alertCandidateId → ¬ i < j := by
    intro i j c d hc hd hid hlt
    refine hd.fresh (List.mem_map.2 ⟨c.values, hc.stored hlt, ?_⟩)
    exact hid
  have h₁ := hbefore hc hd hid
  have h₂ := hbefore hd hc hid.symm
  omega

/-- A call after the first of its identifier meets the row of the first. -/
theorem Creates.later {i j : Nat} {c₀ c : AlertCandidate sha256} {rows rows' : List AlertRow}
    {reply : Except AlertPersistenceError (AlertInsertResult sha256)} (h₀ : Creates inputs i c₀) (hij : i < j)
    (hj : Happens storeStep [] inputs j rows (.none, c) reply rows')
    (hid : c₀.alertCandidateId = c.alertCandidateId) :
    reply = (if sameDetectionEvidence c₀.toAlertCandidateFields c.toAlertCandidateFields then
      .ok ⟨.existing, c₀.readBack⟩ else .error .identityConflict) ∧ rows' = rows := by
  have hsound : Sound sha256 rows := hj.before ▸ sound_at j
  have hrow : c₀.values ∈ rows := hj.before ▸ h₀.stored hij
  have hstep : storeStep rows (.none, c) = (if sameDetectionEvidence c₀.toAlertCandidateFields
      c.toAlertCandidateFields then .ok ⟨.existing, c₀.readBack⟩ else .error .identityConflict, rows) := by
    rw [storeStep, insertRow, insertRowTx, hsound.find? hrow hid]
    dsimp only
    rw [candidateFromRow_values]
    dsimp only
    rw [sameDetectionEvidence_readBack]
    cases sameDetectionEvidence c₀.toAlertCandidateFields c.toAlertCandidateFields <;> rfl
  exact ⟨by rw [← hj.reply, hstep], by rw [← hj.after, hstep]⟩

/-! ## Readers -/

theorem readRows_values (cs : List (AlertCandidate sha256)) :
    readRows sha256 (cs.map fun c => c.values) = .ok (cs.map AlertCandidate.readBack) := by
  induction cs with
  | nil => rfl
  | cons c cs ih =>
    rw [List.map_cons, readRows, readRow, candidateFromRow_values, ih]
    rfl

/-- The rows of one page. -/
def page (limit offset : ℤ) (rows : List AlertRow) : List AlertRow :=
  ((rows.insertionSort listedBefore).drop offset.toNat).take limit.toNat

theorem page_subset (limit offset : ℤ) (rows : List AlertRow) : page limit offset rows ⊆ rows := by
  intro row hrow
  have hsorted := List.mem_of_mem_drop (List.mem_of_mem_take hrow)
  exact (List.mem_insertionSort _).1 hsorted

theorem exists_map_values {rows : List AlertRow} (h : ∀ row ∈ rows, ∃ c : AlertCandidate sha256, row = c.values) :
    ∃ cs : List (AlertCandidate sha256), rows = cs.map fun c => c.values := by
  induction rows with
  | nil => exact ⟨[], rfl⟩
  | cons row rows ih =>
    obtain ⟨c, rfl⟩ := h row List.mem_cons_self
    obtain ⟨cs, rfl⟩ := ih fun row hrow => h row (List.mem_cons_of_mem _ hrow)
    exact ⟨c :: cs, rfl⟩

theorem list_page {rows : List AlertRow} (h : Sound sha256 rows) {limit offset : ℤ}
    (hlimit : 1 ≤ limit ∧ limit ≤ MAX_ALERT_LIST_LIMIT) (hoffset : 0 ≤ offset ∧ offset ≤ MAX_ALERT_LIST_OFFSET) :
    ∃ cs : List (AlertCandidate sha256), page limit offset rows = cs.map (fun c => c.values) ∧
      list sha256 .none limit offset rows = .ok (cs.map AlertCandidate.readBack) := by
  obtain ⟨cs, hcs⟩ := exists_map_values fun row hrow => h.encoded row (page_subset limit offset rows hrow)
  refine ⟨cs, hcs, ?_⟩
  rw [page] at hcs
  rw [list, if_neg (not_not.2 hlimit), if_neg (not_not.2 hoffset), hcs, readRows_values]
  rfl

/-- What a run of inserts over an empty table reports, and what a reader of it reports at any moment. -/
structure StoreRun (inputs : List (StoreInput sha256)) : Prop where
  /-- One call an identifier reports `created`. -/
  once : ∀ i j c d, Creates inputs i c → Creates inputs j d → c.alertCandidateId = d.alertCandidateId → i = j
  /-- A stored row stays, and stays the only one of its identifier. -/
  kept : ∀ j k, j ≤ k → stateAt storeStep [] inputs j <+: stateAt storeStep [] inputs k
  keyed : ∀ k, ((stateAt storeStep [] inputs k).map (·.alertCandidateId)).Nodup
  /-- The row of a created candidate is there from the call on, and every row is one of these. -/
  stored : ∀ j k c, Creates inputs j c → j < k → c.values ∈ stateAt storeStep [] inputs k
  created : ∀ k, ∀ row ∈ stateAt storeStep [] inputs k, ∃ j c, j < k ∧ Creates inputs j c ∧ row = c.values
  /-- The first call of an identifier that SQLite carries out creates its row. -/
  first : ∀ k rows c reply rows', Happens storeStep [] inputs k rows (.none, c) reply rows' →
    c.alertCandidateId ∉ rows.map (·.alertCandidateId) → reply = .ok ⟨.created, c⟩
  /-- Every later one returns the first stored candidate, or raises the conflict. -/
  later : ∀ j k c₀ rows c reply rows', Creates inputs j c₀ → j < k →
    Happens storeStep [] inputs k rows (.none, c) reply rows' → c₀.alertCandidateId = c.alertCandidateId →
      if sameDetectionEvidence c₀.toAlertCandidateFields c.toAlertCandidateFields
      then ∃ d : AlertCandidate sha256, d.same c₀.toAlertCandidateFields = true ∧ reply = .ok ⟨.existing, d⟩
      else reply = .error .identityConflict
  /-- A call that does not create changes nothing. -/
  unchanged : ∀ k rows input reply rows', Happens storeStep [] inputs k rows input reply rows' →
    (∀ c, reply ≠ .ok ⟨.created, c⟩) → rows' = rows
  /-- `get` finds the candidate that was inserted first, equal in every field. -/
  got : ∀ j k c, Creates inputs j c → j < k → ∃ d : AlertCandidate sha256,
    d.same c.toAlertCandidateFields = true ∧
      get sha256 .none c.alertCandidateId (stateAt storeStep [] inputs k) = .ok (some d)
  /-- `list` returns the rows of its page, each as the candidate that was inserted first. -/
  listed : ∀ k limit offset, 1 ≤ limit → limit ≤ MAX_ALERT_LIST_LIMIT → 0 ≤ offset →
    offset ≤ MAX_ALERT_LIST_OFFSET → ∃ ds,
      list sha256 .none limit offset (stateAt storeStep [] inputs k) = .ok ds ∧
        List.Forall₂ (fun row d => ∃ j c, j < k ∧ Creates inputs j c ∧ row = c.values ∧
          d.same c.toAlertCandidateFields = true) (page limit offset (stateAt storeStep [] inputs k)) ds

theorem AlertCandidate.length_id_of_digest (hsha : ∀ b, (sha256 b).length = 64) (c : AlertCandidate sha256) :
    c.alertCandidateId.length ≤ 128 := by
  obtain ⟨parts, hid⟩ := c.id_eq
  rw [hid, String.length_append, identityDigest, hsha]
  decide

end

/-! ## A retry -/

def retriedEventId : String :=
  "unsw_registered_source_event_v1:000000000000000000000000000000000000000000000000000000000000001b"

def retriedDigest : String := "8347caaedca1db21f7dfb4c3933a88812f407e622638012236cedbce89cda30d"

/-- SHA-256 of the retried alert's evidence; any other message is not hashed in this run. -/
def retrySha256 (message : Bytes) : String :=
  if message = identityMessage "threatfusion:alert-candidate"
      [ALERT_CANDIDATE_SCHEMA_VERSION, retriedEventId, DETECTOR_IDENTITY, DETECTOR_VERSION, "random_forest",
        "network_random_forest_baseline_v1", "".pushn 'c' 64, DECISION_POLICY_VERSION]
  then retriedDigest else "".pushn '0' 64

theorem length_retrySha256 (message : Bytes) : (retrySha256 message).length = 64 := by
  rw [retrySha256]
  split <;> decide

def retriedAlert : AlertCandidate retrySha256 :=
  ⟨{ schemaVersion := ALERT_CANDIDATE_SCHEMA_VERSION
     alertCandidateId := ALERT_CANDIDATE_SCHEMA_VERSION ++ ":" ++ retriedDigest
     sourceEventId := retriedEventId, correlationId := "3d1f0c52-8a47-4b6e-9c1d-2e5f7a8b9c0d"
     detectorIdentity := DETECTOR_IDENTITY, detectorVersion := DETECTOR_VERSION, modelIdentity := "random_forest"
     modelVersion := "network_random_forest_baseline_v1", modelArtifactSha256 := "".pushn 'c' 64
     featureContractIdentity := NETWORK_BEHAVIOR_V1_CONTRACT_VERSION
     sourceRepresentationIdentity := UNSW_NB15_ARGUS_RAW_REPRESENTATION_V1
     observedAt := ⟨2026, 5, 11, 13, 2, 50, 0, by decide, by decide⟩
     createdAt := ⟨2026, 5, 11, 13, 3, 4, 0, by decide, by decide⟩
     uncalibratedModelScore := .finite (3 / 4) "0.75", decisionThreshold := .finite (1 / 2) "0.5"
     decisionPolicyVersion := DECISION_POLICY_VERSION, decision := "Attack", inferenceStatus := "completed"
     reason := "inference_succeeded" }, by
    have hid : ALERT_CANDIDATE_SCHEMA_VERSION ++ ":" ++ retriedDigest =
        deriveAlertCandidateId retrySha256 retriedEventId DETECTOR_IDENTITY DETECTOR_VERSION "random_forest"
          "network_random_forest_baseline_v1" ("".pushn 'c' 64) DECISION_POLICY_VERSION := by
      rw [deriveAlertCandidateId, identityDigest, retrySha256, if_pos rfl]
    rw [AlertCandidateFields.accepted, Bool.and_eq_true]
    exact ⟨by decide +kernel, beq_iff_eq.2 hid⟩⟩

end ThreatFusion.Alerts
