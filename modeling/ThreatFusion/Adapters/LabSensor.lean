import ThreatFusion.Adapters.Base
import ThreatFusion.Correlation.Provenance
import ThreatFusion.Lib.Machine
import ThreatFusion.Lib.Result
/-
# The authorized lab sensor adapter

`AuthorizedLabSensorAdapter` (`datasets/adapters/provenance_sources.py`). The manifest does not change while the
adapter is used, so its state is the set of identifiers that it has seen.

| here | there |
| --- | --- |
| `RegisteredSensorManifest` | `RegisteredSensorManifest` (:45-66): the registrations in their order |
| `LabProvenance`            | `EntityProvenanceContract`, with the fields that correlation does not read |
| `identify`                 | `AuthorizedLabSensorAdapter.adapt` up to the identifier (:229-252) |
| `describe`                 | the same after the identifier is marked (:262-299) |
| `adapt`                    | `AuthorizedLabSensorAdapter.adapt` (:226-299) |

An identifier is marked before the rest of its row is read, so a row that fails there uses its identifier up
(`refused_row_uses_up`). Where no row does, a refused row leaves no trace, and nowhere else
(`traceless_iff`).
-/
namespace ThreatFusion.Adapters
open Py Correlation

/-! ## The manifest -/

structure SensorRegistration where
  sensorId : String
  entityNamespaceId : String
  clockSynchronized : Bool := true
  maxClockSkewSeconds : PyFloat := .finite 0 "0.0"
  addressReuseOrNat : Bool := false
  validityStartUtc : Option String := none
  validityEndUtc : Option String := none
  entityRole : String := "lab_sensor"
  /-- What `register` checks. -/
  named : isBlank sensorId = false ∧ isBlank entityNamespaceId = false

abbrev RegisteredSensorManifest := List SensorRegistration

/-- A later registration replaces an earlier one. -/
def RegisteredSensorManifest.get (manifest : RegisteredSensorManifest) (sensorId : String) :
    Option SensorRegistration :=
  manifest.reverse.find? (·.sensorId == sensorId)

/-! ## The adapter -/

structure LabProvenance extends EntityProvenanceContract where
  sourceMode : String
  entityRole : String
  clockOrigin : String

structure AdaptedProvenanceRecord (ν : Type) where
  sourceEventId : String
  sourceMode : String
  observedAtUtc : String
  provenance : LabProvenance
  rawPayload : Row ν

def LAB_SOURCE : String := "AuthorizedLabSensor"

section
variable {ν : Type} (V : Values ν) (L : Library) (manifest : RegisteredSensorManifest)

def checkMode (row : Row ν) : Except AdaptError Unit :=
  match row "source_mode" with
  | none => .ok ()
  | some mode => do
    if ← calling (V.isIn ["scenario_replay", "dataset_replay"] mode) then
      let text ← calling (V.str mode)
      .error (.sourceRowValidationError LAB_SOURCE ["source_mode"]
        ("cannot submit " ++ text ++ " to AuthorizedLabSensorAdapter"))
    else .ok ()

def identify (row : Row ν) : Except AdaptError (SensorRegistration × String) := do
  checkMode V row
  let sensorId ← requiredString V row LAB_SOURCE "sensor_id"
  match manifest.get sensorId with
  | none => .error (.sourceRowValidationError LAB_SOURCE ["sensor_id"]
      ("unregistered or unallowlisted sensor_id: '" ++ sensorId ++ "'"))
  | some registration => do
    let sourceEventId ← requiredString V row LAB_SOURCE "source_event_id"
    .ok (registration, sourceEventId)

/-- `str(row.get("protocol", "other"))`. -/
def protocolText (row : Row ν) : Except AdaptError String :=
  match row "protocol" with
  | none => .ok "other"
  | some value => calling (V.str value)

/-- `row.get(first) or row.get(second)`. -/
def firstTruthy (row : Row ν) (first second : String) : Except AdaptError (Option ν) :=
  match row first with
  | none => .ok (row second)
  | some value => do
    if ← calling (V.truth value) then .ok (some value) else .ok (row second)

def serviceOrPort (row : Row ν) : Except AdaptError (Option String) := do
  let port ← firstTruthy V row "service_or_port" "dst_port"
  match port.filter fun value => !V.isNone value with
  | none => .ok none
  | some value => do
    let text ← stripped V value
    .ok (some text)

def describe (row : Row ν) (registration : SensorRegistration) (sourceEventId : String) :
    Except AdaptError (AdaptedProvenanceRecord ν) := do
  let (field, value) ← requiredAlias V row LAB_SOURCE ["observed_at_utc", "timestamp", "event_time"]
  let stamp ← parseRequiredTimestamp V L (some value) LAB_SOURCE field
  let srcId ← requiredString V row LAB_SOURCE "src_entity_id"
  let dstId ← requiredString V row LAB_SOURCE "dst_entity_id"
  let protocol ← protocolText V row
  let port ← serviceOrPort V row
  let provenance : LabProvenance :=
    { entityNamespaceId := some registration.entityNamespaceId
      clockSynchronized := registration.clockSynchronized
      srcEntityId := some srcId
      dstEntityId := some dstId
      protocol := some (normalizeProtocol protocol)
      serviceOrPort := port
      observedAtUtc := some (L.isoformat stamp)
      validityStartUtc := registration.validityStartUtc
      validityEndUtc := registration.validityEndUtc
      addressReuseOrNat := registration.addressReuseOrNat
      maxClockSkewSeconds := registration.maxClockSkewSeconds
      sourceMode := "authorized_lab_sensor"
      entityRole := registration.entityRole
      clockOrigin := "ntp_synchronized_lab_clock" }
  .ok ⟨sourceEventId, "authorized_lab_sensor", L.isoformat stamp, provenance, row⟩

/-- The state is `_seen_source_event_ids`. -/
def adapt (seen : List String) (row : Row ν) : Except AdaptError (AdaptedProvenanceRecord ν) × List String :=
  match identify V manifest row with
  | .error e => (.error e, seen)
  | .ok (registration, sourceEventId) =>
    if sourceEventId ∈ seen then
      (.error (.sourceRowValidationError LAB_SOURCE ["source_event_id"]
        ("duplicate/replay source_event_id rejected: '" ++ sourceEventId ++ "'")), seen)
    else (describe V L row registration sourceEventId, sourceEventId :: seen)

/-! ## One call -/

/-- The row passes the replay check, and then fails on its time, an entity, its protocol or its port. -/
def FailsAfterMark (seen : List String) (row : Row ν) : Prop :=
  ∃ registration sourceEventId e, identify V manifest row = .ok (registration, sourceEventId) ∧
    sourceEventId ∉ seen ∧ describe V L row registration sourceEventId = .error e

variable {V L manifest}

theorem describe_id {row : Row ν} {registration : SensorRegistration} {sourceEventId : String}
    {record : AdaptedProvenanceRecord ν} (h : describe V L row registration sourceEventId = .ok record) :
    record.sourceEventId = sourceEventId := by
  unfold describe at h
  simp only [Except.bind_eq_ok] at h
  obtain ⟨_, -, _, -, _, -, _, -, _, -, _, -, h⟩ := h
  rw [← Except.ok.inj h]

variable (V L manifest) in
/-- Everything that a call does. -/
theorem adapt_cases (seen : List String) (row : Row ν) :
    (∃ e, adapt V L manifest seen row = (.error e, seen) ∧ ¬ FailsAfterMark V L manifest seen row) ∨
    (∃ e sourceEventId, sourceEventId ∉ seen ∧ adapt V L manifest seen row = (.error e, sourceEventId :: seen) ∧
      FailsAfterMark V L manifest seen row) ∨
    (∃ registration record, identify V manifest row = .ok (registration, record.sourceEventId) ∧
      record.sourceEventId ∉ seen ∧ describe V L row registration record.sourceEventId = .ok record ∧
      adapt V L manifest seen row = (.ok record, record.sourceEventId :: seen) ∧
      ¬ FailsAfterMark V L manifest seen row) := by
  unfold adapt
  cases hid : identify V manifest row with
  | error e =>
    refine .inl ⟨e, rfl, ?_⟩
    rintro ⟨registration, sourceEventId, _, hok, -⟩
    rw [hid] at hok
    cases hok
  | ok identified =>
    obtain ⟨registration, sourceEventId⟩ := identified
    have hsame {r : SensorRegistration} {i : String}
        (h : identify V manifest row = .ok (r, i)) : r = registration ∧ i = sourceEventId := by
      rw [hid] at h
      obtain ⟨rfl, rfl⟩ := Prod.mk.inj (Except.ok.inj h)
      exact ⟨rfl, rfl⟩
    by_cases hseen : sourceEventId ∈ seen
    · refine .inl ⟨_, if_pos hseen, ?_⟩
      rintro ⟨r, i, _, hok, hnew, -⟩
      rw [(hsame hok).2] at hnew
      exact hnew hseen
    · dsimp only
      rw [if_neg hseen]
      cases hdescribe : describe V L row registration sourceEventId with
      | error e => exact .inr (.inl ⟨e, sourceEventId, hseen, rfl, registration, sourceEventId, e, hid, hseen, hdescribe⟩)
      | ok record =>
        obtain rfl := describe_id hdescribe
        refine .inr (.inr ⟨registration, record, rfl, hseen, hdescribe, rfl, ?_⟩)
        rintro ⟨r, i, e, hok, -, hfails⟩
        obtain ⟨rfl, rfl⟩ := hsame hok
        rw [hdescribe] at hfails
        cases hfails

end

/-! ## Runs -/

section
variable {ν : Type} (V : Values ν) (L : Library) (manifest : RegisteredSensorManifest)

/-- The rows of a new adapter with their outcomes. -/
def outcomes (rows : List (Row ν)) : List (Row ν × Except AdaptError (AdaptedProvenanceRecord ν)) :=
  Machine.replies (adapt V L manifest) [] rows

/-- `_seen_source_event_ids` after the rows. -/
def seenAfter (rows : List (Row ν)) : List String := Machine.exec (adapt V L manifest) [] rows

def acceptedIds (replies : List (Row ν × Except AdaptError (AdaptedProvenanceRecord ν))) : List String :=
  replies.filterMap fun reply => reply.2.toOption.map (·.sourceEventId)

/-- No identifier is accepted twice, and a refused row leaves no trace. -/
structure Traceless (rows : List (Row ν)) : Prop where
  once : (acceptedIds (outcomes V L manifest rows)).Nodup
  unchanged : ∀ before row after e, rows = before ++ row :: after →
    (adapt V L manifest (seenAfter V L manifest before) row).1 = .error e →
    (adapt V L manifest (seenAfter V L manifest before) row).2 = seenAfter V L manifest before
  /-- `kept` is what is left when refused rows are taken out. -/
  removable : ∀ kept, kept.Sublist (outcomes V L manifest rows) →
    kept.filter (fun reply => reply.2.isOk) = (outcomes V L manifest rows).filter (fun reply => reply.2.isOk) →
    outcomes V L manifest (kept.map Prod.fst) = kept
  /-- A row that a new adapter accepts, while its identifier was not accepted. -/
  fresh : ∀ before row after record, rows = before ++ row :: after →
    (adapt V L manifest [] row).1 = .ok record →
    record.sourceEventId ∉ acceptedIds (outcomes V L manifest before) →
    (adapt V L manifest (seenAfter V L manifest before) row).1 = .ok record

variable {V L manifest}

theorem acceptedIds_append (xs ys : List (Row ν × Except AdaptError (AdaptedProvenanceRecord ν))) :
    acceptedIds (xs ++ ys) = acceptedIds xs ++ acceptedIds ys := List.filterMap_append

theorem acceptedIds_error (row : Row ν) (e : AdaptError) :
    acceptedIds [(row, (.error e : Except AdaptError (AdaptedProvenanceRecord ν)))] = [] := rfl

theorem acceptedIds_ok (row : Row ν) (record : AdaptedProvenanceRecord ν) :
    acceptedIds [(row, (.ok record : Except AdaptError (AdaptedProvenanceRecord ν)))] = [record.sourceEventId] := rfl

theorem outcomes_snoc (rows : List (Row ν)) (row : Row ν) :
    outcomes V L manifest (rows ++ [row]) =
      outcomes V L manifest rows ++ [(row, (adapt V L manifest (seenAfter V L manifest rows) row).1)] :=
  Machine.replies_append _ [] rows [row]

theorem seenAfter_snoc (rows : List (Row ν)) (row : Row ν) :
    seenAfter V L manifest (rows ++ [row]) = (adapt V L manifest (seenAfter V L manifest rows) row).2 :=
  Machine.exec_append _ [] rows [row]

/-- **No identifier is accepted twice**, by the rows of any sequence: what was accepted is marked. -/
theorem accepted_once (rows : List (Row ν)) :
    (acceptedIds (outcomes V L manifest rows)).Nodup ∧
      acceptedIds (outcomes V L manifest rows) ⊆ seenAfter V L manifest rows := by
  induction rows using List.reverseRecOn with
  | nil => exact ⟨List.nodup_nil, List.nil_subset _⟩
  | append_singleton rows row ih =>
    obtain ⟨hnodup, hsubset⟩ := ih
    rw [outcomes_snoc, seenAfter_snoc, acceptedIds_append]
    rcases adapt_cases V L manifest (seenAfter V L manifest rows) row with
      ⟨e, heq, -⟩ | ⟨e, i, -, heq, -⟩ | ⟨r, record, -, hnew, -, heq, -⟩
    · rw [heq, acceptedIds_error, List.append_nil]
      exact ⟨hnodup, hsubset⟩
    · rw [heq, acceptedIds_error, List.append_nil]
      exact ⟨hnodup, fun x hx => List.mem_cons_of_mem _ (hsubset hx)⟩
    · rw [heq, acceptedIds_ok]
      refine ⟨List.nodup_append.mpr ⟨hnodup, List.pairwise_singleton _ _, ?_⟩, fun x hx => ?_⟩
      · rintro x hx y hy rfl
        rw [List.mem_singleton] at hy
        exact hnew (hy ▸ hsubset hx)
      · rcases List.mem_append.mp hx with hx | hx
        · exact List.mem_cons_of_mem _ (hsubset hx)
        · rw [List.mem_singleton] at hx
          rw [hx]
          exact List.mem_cons_self

/-- Where no row fails after its mark, the marks are the accepted identifiers. -/
theorem seenAfter_subset {rows : List (Row ν)} (h : ∀ before row after, rows = before ++ row :: after →
    ¬ FailsAfterMark V L manifest (seenAfter V L manifest before) row) :
    seenAfter V L manifest rows ⊆ acceptedIds (outcomes V L manifest rows) := by
  induction rows using List.reverseRecOn with
  | nil => exact List.nil_subset _
  | append_singleton rows row ih =>
    have hrest : seenAfter V L manifest rows ⊆ acceptedIds (outcomes V L manifest rows) := by
      refine ih fun before row' after heq => h before row' (after ++ [row]) ?_
      rw [heq, List.append_assoc, List.cons_append]
    have hlast := h rows row [] rfl
    rw [outcomes_snoc, seenAfter_snoc, acceptedIds_append]
    rcases adapt_cases V L manifest (seenAfter V L manifest rows) row with
      ⟨e, heq, -⟩ | ⟨e, i, -, heq, hlate⟩ | ⟨r, record, -, -, -, heq, -⟩
    · rw [heq]
      exact fun x hx => List.mem_append_left _ (hrest hx)
    · exact absurd hlate hlast
    · rw [heq]
      intro x hx
      rcases List.mem_cons.mp hx with rfl | hx
      · exact List.mem_append_right _ (List.mem_singleton_self _)
      · exact List.mem_append_left _ (hrest hx)

/-- **A refused row leaves no trace exactly when no row fails after its identifier was marked.** -/
theorem traceless_iff (V : Values ν) (L : Library) (manifest : RegisteredSensorManifest) (rows : List (Row ν)) :
    Traceless V L manifest rows ↔ ∀ before row after, rows = before ++ row :: after →
      ¬ FailsAfterMark V L manifest (seenAfter V L manifest before) row := by
  constructor
  · intro htraceless before row after hrows hlate
    rcases adapt_cases V L manifest (seenAfter V L manifest before) row with
      ⟨_, -, hnot⟩ | ⟨e, i, -, heq, -⟩ | ⟨_, _, -, -, -, -, hnot⟩
    · exact hnot hlate
    · have hsame := htraceless.unchanged before row after e hrows (by rw [heq])
      rw [heq] at hsame
      exact absurd hsame (List.cons_ne_self _ _)
    · exact hnot hlate
  · intro h
    have hunchanged : ∀ before row after e, rows = before ++ row :: after →
        (adapt V L manifest (seenAfter V L manifest before) row).1 = .error e →
        (adapt V L manifest (seenAfter V L manifest before) row).2 = seenAfter V L manifest before := by
      intro before row after e hrows herror
      rcases adapt_cases V L manifest (seenAfter V L manifest before) row with
        ⟨_, heq, -⟩ | ⟨_, _, -, -, hlate⟩ | ⟨_, _, -, -, -, heq, -⟩
      · rw [heq]
      · exact absurd hlate (h before row after hrows)
      · rw [heq] at herror
        cases herror
    refine ⟨(accepted_once rows).1, hunchanged, fun kept hsub hkept => ?_, ?_⟩
    · refine Machine.replies_sublist (fun before row after hrows hrefused => ?_) hsub hkept
      cases hreply : (adapt V L manifest (seenAfter V L manifest before) row).1 with
      | error e => exact hunchanged before row after e hrows hreply
      | ok record =>
        have hok : (adapt V L manifest (seenAfter V L manifest before) row).1.isOk = false := hrefused
        rw [hreply] at hok
        cases hok
    · intro before row after record hrows hvalid hnew
      have hseen := seenAfter_subset (V := V) (L := L) fun b r a (heq : before = _) =>
        h b r (a ++ row :: after) (by rw [hrows, heq, List.append_assoc, List.cons_append])
      rcases adapt_cases V L manifest [] row with
        ⟨_, heq, -⟩ | ⟨_, _, -, heq, -⟩ | ⟨registration, record', hid, -, hdescribe, heq, -⟩
      · rw [heq] at hvalid
        cases hvalid
      · rw [heq] at hvalid
        cases hvalid
      · rw [heq] at hvalid
        obtain rfl := Except.ok.inj hvalid
        have hmark : record'.sourceEventId ∉ seenAfter V L manifest before := fun hmem => hnew (hseen hmem)
        rw [adapt, hid]
        dsimp only
        rw [if_neg hmark]
        exact hdescribe

end

/-! ## A run in which it fails -/

/-- Of the standard library no more than `datetime.fromisoformat` on one text. -/
def sampleLibrary : Library where
  isdigit text := !text.toList.isEmpty && text.toList.all Char.isDigit
  parseFloat _ := none
  fromtimestamp _ := .error .valueError
  fromisoformat text := if text = "2026-10-15T10:00:00" then some ⟨⟨63927655200000000, by decide⟩, none⟩ else none
  toDatetime _ := none
  isoformat _ := "2026-10-15T10:00:00+00:00"
  isIpAddress _ := true

def sampleManifest : RegisteredSensorManifest := [⟨"sensor-alpha", "campus-edge-dmz", true, .finite 0 "0.0", false,
  none, none, "lab_sensor", by decide⟩]

def eventRow (observedAt : String) : Row String := fun key =>
  [("sensor_id", "sensor-alpha"), ("source_event_id", "lab_ev_001"), ("observed_at_utc", observedAt),
    ("src_entity_id", "10.0.1.10"), ("dst_entity_id", "10.0.2.20")].lookup key

/-- **An event is refused as a replay of a row that was refused**: alone it is accepted, after a row with its
identifier and no readable time it is not. -/
theorem refused_row_uses_up :
    (adapt texts sampleLibrary sampleManifest [] (eventRow "2026-10-15T10:00:00")).1.isOk = true ∧
    (outcomes texts sampleLibrary sampleManifest [eventRow "not-a-time", eventRow "2026-10-15T10:00:00"]).map
      (fun outcome => outcome.2.isOk) = [false, false] ∧
    ¬ Traceless texts sampleLibrary sampleManifest [eventRow "not-a-time", eventRow "2026-10-15T10:00:00"] := by
  refine ⟨by decide +kernel, by decide +kernel, fun h => ?_⟩
  have hrefused : (adapt texts sampleLibrary sampleManifest [] (eventRow "not-a-time")).1.isOk = false := by decide +kernel
  have hmarked : (adapt texts sampleLibrary sampleManifest [] (eventRow "not-a-time")).2 = ["lab_ev_001"] := by
    decide +kernel
  cases hreply : (adapt texts sampleLibrary sampleManifest [] (eventRow "not-a-time")).1 with
  | ok record =>
    rw [hreply] at hrefused
    cases hrefused
  | error e =>
    have hsame := h.unchanged [] _ _ e rfl hreply
    rw [seenAfter, Machine.exec_nil, hmarked] at hsame
    cases hsame

end ThreatFusion.Adapters
