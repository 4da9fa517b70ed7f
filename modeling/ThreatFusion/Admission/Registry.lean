import ThreatFusion.Admission.Envelope
/-
# The certificates that a producer may present (`api/producer_admission.py`:165-308)

| here | there |
| --- | --- |
| `CertificateRegistryRecord` | `CertificateRegistryRecord`, with its `__post_init__` |
| `PeerCertificateEvidence`   | `PeerCertificateEvidence`; `none` is a value of another type |
| `CertificateRegistry`       | `CertificateRegistry`; `registryAccepted` is the constructor's check |
| `matchedRecord`             | the loop of `authenticate` (:276-279) |
| `authenticate`              | `CertificateRegistry.authenticate` |

The constructor lets at most two records be active, and two only when they overlap for at most a day
(`authenticate_rotation`).
-/
namespace ThreatFusion.Admission
open Py

def REGISTERED_UNSW_PRODUCER_TYPE : String := "registered_unsw_replay_v1"
def REGISTERED_UNSW_URI_SAN : String := "urn:threatfusion:producer:tf-demo-unsw-replay-01"
def TLS_VERSION : String := "TLSv1.3"

/-- Microseconds. -/
def MAX_CERTIFICATE_VALIDITY : Nat := 90 * 86400 * 1000000
def MAX_CERTIFICATE_ROTATION_OVERLAP : Nat := 24 * 3600 * 1000000

structure RegistryRecordFields where
  producerId : String
  producerType : String
  uriSan : String
  certificateSha256 : String
  enabled : Bool
  revoked : Bool
  notBefore : DateTime
  notAfter : DateTime
  allowedSourceContracts : List String

/-- `__post_init__` does not raise (:180-193). -/
def RegistryRecordFields.accepted (r : RegistryRecordFields) : Bool :=
  r.producerId == REGISTERED_UNSW_PRODUCER_ID && r.producerType == REGISTERED_UNSW_PRODUCER_TYPE &&
  r.uriSan == REGISTERED_UNSW_URI_SAN && isSha256 r.certificateSha256 &&
  decide (r.notBefore.micros < r.notAfter.micros ∧ r.notAfter.micros - r.notBefore.micros ≤ MAX_CERTIFICATE_VALIDITY) &&
  r.allowedSourceContracts == [REGISTERED_UNSW_SOURCE_CONTRACT]

structure CertificateRegistryRecord extends RegistryRecordFields where
  valid : toRegistryRecordFields.accepted = true

structure PeerCertificateEvidence where
  tlsVersion : String
  chainAuthenticated : Bool
  clientAuthEku : Bool
  certificateSha256 : Option String
  uriSans : Option (List (Option String))

structure AdmittedProducer where
  producerId : String
  credentialId : String
  allowedSourceContracts : List String

/-! ## The registry -/

def activeRecords (records : List CertificateRegistryRecord) : List CertificateRegistryRecord :=
  records.filter fun r => r.enabled && !r.revoked

/-- `min(not_after) - max(not_before)` of two records. -/
def overlap (a b : CertificateRegistryRecord) : Int :=
  (min a.notAfter.micros b.notAfter.micros : Int) - (max a.notBefore.micros b.notBefore.micros : Int)

/-- `certificate_rotation_invalid` is not raised. -/
def rotationAccepted : List CertificateRegistryRecord → Bool
  | [] => true
  | [_] => true
  | [a, b] => decide (overlap a b ≤ MAX_CERTIFICATE_ROTATION_OVERLAP)
  | _ => false

def registryAccepted (records : List CertificateRegistryRecord) : Bool :=
  !records.isEmpty && decide (records.map (·.certificateSha256)).Nodup && rotationAccepted (activeRecords records)

structure CertificateRegistry where
  records : List CertificateRegistryRecord
  valid : registryAccepted records = true

/-! ## Authentication -/

def unauthorized (event : String) : AdmissionError := ⟨"request_unauthorized", 401, event, none⟩

def matchedRecord (records : List CertificateRegistryRecord) (fingerprint : String) : Option CertificateRegistryRecord :=
  records.foldl (fun matched r => if r.certificateSha256 = fingerprint then some r else matched) none

/-- The checks of the evidence (:263-275): the fingerprint and the one URI. -/
def evidence (peer : Option PeerCertificateEvidence) : Option (String × String) :=
  match peer with
  | none => none
  | some p =>
    if p.tlsVersion = TLS_VERSION ∧ p.chainAuthenticated = true ∧ p.clientAuthEku = true then
      match p.certificateSha256, p.uriSans with
      | some fingerprint, some [some uri] => if isSha256 fingerprint then some (fingerprint, uri) else none
      | _, _ => none
    else none

/-- From the matched record on (:284-308). -/
def admitRecord (r : CertificateRegistryRecord) (uri : String) (now : DateTime) : Except AdmissionError AdmittedProducer :=
  if r.enabled = false then .error (unauthorized "credential_disabled")
  else if r.revoked = true then .error (unauthorized "credential_revoked")
  else if now.micros < r.notBefore.micros then .error (unauthorized "credential_not_yet_valid")
  else if r.notAfter.micros ≤ now.micros then .error (unauthorized "credential_expired")
  else if uri ≠ r.uriSan then .error (unauthorized "authentication_failed")
  else .ok ⟨r.producerId, r.certificateSha256, r.allowedSourceContracts⟩

def authenticate (registry : CertificateRegistry) (peer : Option PeerCertificateEvidence) (trustedNow : Option DateTime) :
    Except AdmissionError AdmittedProducer :=
  match trustedNow with
  | none => .error (unauthorized "authentication_failed")
  | some now => match evidence peer with
    | none => .error (unauthorized "authentication_failed")
    | some (fingerprint, uri) => match matchedRecord registry.records fingerprint with
      | none => .error (unauthorized "authentication_failed")
      | some r => admitRecord r uri now

/-! ## Who is authenticated -/

/-- The peer presents the certificate of the record, and the record is in force. -/
structure Authenticates (r : CertificateRegistryRecord) (peer : PeerCertificateEvidence) (now : DateTime) : Prop where
  tls : peer.tlsVersion = TLS_VERSION ∧ peer.chainAuthenticated = true ∧ peer.clientAuthEku = true
  fingerprint : peer.certificateSha256 = some r.certificateSha256
  uri : peer.uriSans = some [some r.uriSan]
  active : r.enabled = true ∧ r.revoked = false
  inForce : r.notBefore.micros ≤ now.micros ∧ now.micros < r.notAfter.micros

theorem CertificateRegistryRecord.isSha256_fingerprint (r : CertificateRegistryRecord) :
    isSha256 r.certificateSha256 = true := by
  have h := r.valid
  simp only [RegistryRecordFields.accepted, Bool.and_eq_true] at h
  exact h.1.1.2

theorem evidence_eq_some {peer : Option PeerCertificateEvidence} {fingerprint uri : String} :
    evidence peer = some (fingerprint, uri) ↔ ∃ p, peer = some p ∧
      (p.tlsVersion = TLS_VERSION ∧ p.chainAuthenticated = true ∧ p.clientAuthEku = true) ∧
      p.certificateSha256 = some fingerprint ∧ p.uriSans = some [some uri] ∧ isSha256 fingerprint = true := by
  unfold evidence
  cases peer with
  | none => simp
  | some p =>
    simp only
    constructor
    · intro h
      split_ifs at h with htls
      split at h
      · rename_i f u hf hu
        split_ifs at h with hsha
        obtain ⟨rfl, rfl⟩ := Prod.mk.inj (Option.some.inj h)
        exact ⟨p, rfl, htls, hf, hu, hsha⟩
      · cases h
    · rintro ⟨q, hq, htls, hf, hu, hsha⟩
      obtain rfl := Option.some.inj hq
      rw [if_pos htls, hf, hu]
      exact if_pos hsha

/-- The loop finds the record of a fingerprint: there is only one. -/
theorem matchedRecord_eq_some {records : List CertificateRegistryRecord}
    (hnodup : (records.map (·.certificateSha256)).Nodup) {fingerprint : String} {r : CertificateRegistryRecord} :
    matchedRecord records fingerprint = some r ↔ r ∈ records ∧ r.certificateSha256 = fingerprint := by
  unfold matchedRecord
  induction records using List.reverseRecOn with
  | nil => simp
  | append_singleton records last ih =>
    rw [List.map_append, List.map_singleton, List.nodup_append] at hnodup
    rw [List.foldl_append, List.foldl_cons, List.foldl_nil, List.mem_append, List.mem_singleton]
    by_cases hlast : last.certificateSha256 = fingerprint
    · rw [if_pos hlast]
      constructor
      · intro h
        obtain rfl := Option.some.inj h
        exact ⟨.inr rfl, hlast⟩
      · rintro ⟨hmem | rfl, hr⟩
        · exact absurd (hr.trans hlast.symm)
            (hnodup.2.2 _ (List.mem_map_of_mem hmem) _ (List.mem_singleton_self _))
        · rfl
    · rw [if_neg hlast, ih hnodup.1]
      constructor
      · rintro ⟨hmem, hr⟩
        exact ⟨.inl hmem, hr⟩
      · rintro ⟨hmem | rfl, hr⟩
        · exact ⟨hmem, hr⟩
        · exact absurd hr hlast

theorem admitRecord_ok {r : CertificateRegistryRecord} {uri : String} {now : DateTime} {producer : AdmittedProducer} :
    admitRecord r uri now = .ok producer ↔ (r.enabled = true ∧ r.revoked = false) ∧
      (r.notBefore.micros ≤ now.micros ∧ now.micros < r.notAfter.micros) ∧ uri = r.uriSan ∧
      producer = ⟨r.producerId, r.certificateSha256, r.allowedSourceContracts⟩ := by
  unfold admitRecord
  split_ifs with henabled hrevoked hbefore hafter huri
  · simp [henabled]
  · simp [hrevoked]
  · simp [Nat.not_le_of_lt hbefore]
  · simp [Nat.not_lt_of_le hafter]
  · simp [huri]
  · rw [Bool.not_eq_false] at henabled
    rw [Bool.not_eq_true] at hrevoked
    rw [not_not] at huri
    constructor
    · intro h
      exact ⟨⟨henabled, hrevoked⟩, ⟨Nat.le_of_not_lt hbefore, Nat.lt_of_not_le hafter⟩, huri, (Except.ok.inj h).symm⟩
    · rintro ⟨-, -, -, rfl⟩
      rfl

theorem CertificateRegistry.nodup (registry : CertificateRegistry) :
    (registry.records.map (·.certificateSha256)).Nodup := by
  have h := registry.valid
  simp only [registryAccepted, Bool.and_eq_true, decide_eq_true_eq] at h
  exact h.1.2

/-- **A peer is admitted as the producer of the one record whose certificate it presents, while that is in force.** -/
theorem authenticate_ok {registry : CertificateRegistry} {peer : Option PeerCertificateEvidence}
    {trustedNow : Option DateTime} {producer : AdmittedProducer} :
    authenticate registry peer trustedNow = .ok producer ↔ ∃ now p, trustedNow = some now ∧ peer = some p ∧
      ∃ r ∈ registry.records, Authenticates r p now ∧
        producer = ⟨r.producerId, r.certificateSha256, r.allowedSourceContracts⟩ := by
  unfold authenticate
  constructor
  · intro h
    split at h
    · cases h
    · rename_i now
      split at h
      · cases h
      · rename_i fingerprint uri hevidence
        split at h
        · cases h
        · rename_i r hmatched
          obtain ⟨p, rfl, htls, hf, hu, -⟩ := evidence_eq_some.mp hevidence
          obtain ⟨hmem, rfl⟩ := (matchedRecord_eq_some registry.nodup).mp hmatched
          obtain ⟨hactive, hforce, rfl, rfl⟩ := admitRecord_ok.mp h
          exact ⟨now, p, rfl, rfl, r, hmem, ⟨htls, hf, hu, hactive, hforce⟩, rfl⟩
  · rintro ⟨now, p, rfl, rfl, r, hmem, hr, rfl⟩
    have hevidence := evidence_eq_some.mpr ⟨p, rfl, hr.tls, hr.fingerprint, hr.uri, r.isSha256_fingerprint⟩
    have hmatched := (matchedRecord_eq_some registry.nodup).mpr ⟨hmem, rfl⟩
    simp only [hevidence, hmatched]
    exact admitRecord_ok.mpr ⟨hr.active, hr.inForce, rfl, rfl⟩

/-! ## Rotation -/

theorem overlap_comm (a b : CertificateRegistryRecord) : overlap a b = overlap b a := by
  rw [overlap, overlap, min_comm, max_comm]

/-- At most two records are active, and two for no longer than the overlap. -/
theorem rotation_cases {records : List CertificateRegistryRecord} (h : rotationAccepted records = true) :
    (∃ f g, ∀ r ∈ records, r.certificateSha256 = f ∨ r.certificateSha256 = g) ∧
      ∀ r ∈ records, ∀ q ∈ records, r = q ∨ overlap r q ≤ MAX_CERTIFICATE_ROTATION_OVERLAP := by
  unfold rotationAccepted at h
  split at h
  · exact ⟨⟨"", "", nofun⟩, nofun⟩
  · rename_i a
    refine ⟨⟨a.certificateSha256, "", fun r hr => .inl (List.mem_singleton.mp hr ▸ rfl)⟩, fun r hr q hq => .inl ?_⟩
    rw [List.mem_singleton.mp hr, List.mem_singleton.mp hq]
  · rename_i a b
    have hoverlap := of_decide_eq_true h
    refine ⟨⟨a.certificateSha256, b.certificateSha256, fun r hr => ?_⟩, fun r hr q hq => ?_⟩
    · rcases List.mem_pair.mp hr with rfl | rfl
      · exact .inl rfl
      · exact .inr rfl
    · rcases List.mem_pair.mp hr with rfl | rfl <;> rcases List.mem_pair.mp hq with rfl | rfl
      · exact .inl rfl
      · exact .inr hoverlap
      · exact .inr (overlap_comm _ _ ▸ hoverlap)
      · exact .inl rfl
  · cases h

theorem Authenticates.mem_active {registry : CertificateRegistry} {r : CertificateRegistryRecord}
    {peer : PeerCertificateEvidence} {now : DateTime} (h : Authenticates r peer now) (hr : r ∈ registry.records) :
    r ∈ activeRecords registry.records := by
  rw [activeRecords, List.mem_filter, h.active.1, h.active.2]
  exact ⟨hr, rfl⟩

theorem CertificateRegistry.rotation (registry : CertificateRegistry) :
    rotationAccepted (activeRecords registry.records) = true := by
  have h := registry.valid
  simp only [registryAccepted, Bool.and_eq_true] at h
  exact h.2

/-- Two certificates that are in force at `s` and at `t` have these within their overlap. -/
theorem within_overlap {a b : CertificateRegistryRecord} {p q p' q' : PeerCertificateEvidence} {s t : DateTime}
    (hs : Authenticates a p s) (hs' : Authenticates b q s) (ht : Authenticates a p' t) (ht' : Authenticates b q' t)
    (h : overlap a b ≤ MAX_CERTIFICATE_ROTATION_OVERLAP) : t.micros < s.micros + MAX_CERTIFICATE_ROTATION_OVERLAP := by
  obtain ⟨h1, h2⟩ := hs.inForce
  obtain ⟨h3, h4⟩ := hs'.inForce
  obtain ⟨h5, h6⟩ := ht.inForce
  obtain ⟨h7, h8⟩ := ht'.inForce
  unfold overlap at h
  omega

/-- **At most two certificates of a registry ever authenticate, and the times at which both do lie within a day.** -/
theorem authenticate_rotation (registry : CertificateRegistry) :
    (∃ f g, ∀ peer now producer, authenticate registry peer now = .ok producer →
      producer.credentialId = f ∨ producer.credentialId = g) ∧
    ∀ s t : DateTime, ∀ p q p' q' : Option PeerCertificateEvidence, ∀ a b a' b' : AdmittedProducer,
      authenticate registry p (some s) = .ok a → authenticate registry q (some s) = .ok b →
      authenticate registry p' (some t) = .ok a' → authenticate registry q' (some t) = .ok b' →
      a'.credentialId = a.credentialId → b'.credentialId = b.credentialId → a.credentialId ≠ b.credentialId →
      t.micros < s.micros + MAX_CERTIFICATE_ROTATION_OVERLAP := by
  obtain ⟨⟨f, g, hfg⟩, hoverlap⟩ := rotation_cases registry.rotation
  refine ⟨⟨f, g, fun peer now producer h => ?_⟩, fun s t p q p' q' a b a' b' ha hb ha' hb' haa hbb hab => ?_⟩
  · obtain ⟨now, p, rfl, rfl, r, hr, hauth, rfl⟩ := authenticate_ok.mp h
    exact hfg r (hauth.mem_active hr)
  · obtain ⟨_, _, hs, rfl, ra, hra, haauth, rfl⟩ := authenticate_ok.mp ha
    obtain ⟨_, _, hs', rfl, rb, hrb, hbauth, rfl⟩ := authenticate_ok.mp hb
    obtain ⟨_, _, ht, rfl, ra', hra', haauth', rfl⟩ := authenticate_ok.mp ha'
    obtain ⟨_, _, ht', rfl, rb', hrb', hbauth', rfl⟩ := authenticate_ok.mp hb'
    obtain rfl := Option.some.inj hs
    obtain rfl := Option.some.inj hs'
    obtain rfl := Option.some.inj ht
    obtain rfl := Option.some.inj ht'
    have hinj := List.inj_on_of_nodup_map registry.nodup
    obtain rfl : ra' = ra := hinj hra' hra haa
    obtain rfl : rb' = rb := hinj hrb' hrb hbb
    rcases hoverlap _ (haauth.mem_active hra) _ (hbauth.mem_active hrb) with rfl | h
    · exact absurd rfl hab
    · exact within_overlap haauth hbauth haauth' hbauth' h

end ThreatFusion.Admission
