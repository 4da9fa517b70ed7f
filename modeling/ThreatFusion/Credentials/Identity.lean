import ThreatFusion.Credentials.Policy
import ThreatFusion.Lib.Result
/-
# Binding an approval to a certificate (`operations/human_credentials.py:714-772`)

| here | there |
| --- | --- |
| `activeFingerprint`      | `active_fingerprint`, on the file of the policy directory |
| `verifyOperatorIdentity` | `verify_operator_identity` |

The clock is read twice, once to load the policy (`loaded`) and once to look for the record (`now`). `str.lower`
is given by what it does to ASCII text; its tables for other characters come from the environment.

* `verified_iff`: what is verified is the first active record of the actor, in a policy with no record out of date.
* `identity_binding`: when that is what the presented certificate asks for.
-/
namespace ThreatFusion.Credentials
open Py Browser JsonText
open Analyst hiding Value Readable

/-- `str.lower()` -/
structure Lowering where
  lower : String → String
  ascii : ∀ s, (∀ c ∈ s.toList, c.toNat < 128) → lower s = s.map Char.toLower

structure OperatorIdentity where
  operatorId : String
  certSha256Prefix : String
  identityVerified : Bool
  identityLabel : String
deriving DecidableEq

def unverified : OperatorIdentity := ⟨"", "", false, "unverified_local_label"⟩

/-- `compare_digest` raises `TypeError` on a text that is not ASCII. -/
inductive IdentityRaised where
  | type
deriving DecidableEq

/-- The test of one record in the loop. -/
def serves (actorId : String) (now : DateTime) (c : HumanCredential) : Bool :=
  c.actorId == actorId && c.enabled && !c.revoked && inDate c now

def activeFingerprint (policy : Bytes) (loaded now : DateTime) (actorId : String) : Option String :=
  if validActorId actorId then
    match readPolicy policy (some loaded) with
    | none => none
    | some records => (records.find? (serves actorId now)).map (·.certificateSha256)
  else none

def compareDigest (enrolled presented : String) : Except IdentityRaised Bool :=
  if presented.toList.all fun c => decide (c.toNat < 128) then .ok (enrolled == presented) else .error .type

/-- `policy` is the file of the directory, `none` when there is no directory. -/
def verifyOperatorIdentity (L : Lowering) (policy : Option Bytes) (loaded now : DateTime)
    (actorId presentedFingerprint : String) : Except IdentityRaised OperatorIdentity :=
  let author := strip actorId
  let presented := L.lower (strip presentedFingerprint)
  match policy with
  | none => .ok unverified
  | some policy =>
    if author = "" ∨ author = "analyst_a" ∨ presented = "" ∨ validActorId author = false then .ok unverified
    else match activeFingerprint policy loaded now author with
      | none => .ok unverified
      | some enrolled =>
        if enrolled.length ≠ presented.length then .ok unverified
        else do
          let same ← compareDigest (L.lower enrolled) presented
          if !same then .ok unverified
          else .ok ⟨author, String.ofList (enrolled.toList.take 16), true, "verified_operator"⟩

/-! ## What is verified -/

/-- Some policy file that `_write` makes. -/
structure PolicyFile where
  records : List HumanCredential
  raw : Bytes
  written : writePolicy records = some raw

/-- The call returns, and `identity_verified` is true. -/
def Verified (L : Lowering) (file : PolicyFile) (loaded now : DateTime) (actorId presentedFingerprint : String) : Prop :=
  ∃ stamp, verifyOperatorIdentity L (some file.raw) loaded now actorId presentedFingerprint = .ok stamp ∧
    stamp.identityVerified = true

/-- The actor may sign, and one of its records in force has the presented fingerprint. -/
def Enrolled (L : Lowering) (file : PolicyFile) (now : DateTime) (actorId presentedFingerprint : String) : Prop :=
  validActorId (strip actorId) = true ∧ strip actorId ≠ "analyst_a" ∧
    ∃ c ∈ file.records, serves (strip actorId) now c = true ∧
      c.certificateSha256 = L.lower (strip presentedFingerprint)

/-- No active record of the file is out of date, and the fingerprint is that of the first record in force of the
actor. -/
def Unhindered (L : Lowering) (file : PolicyFile) (loaded now : DateTime) (actorId presentedFingerprint : String) : Prop :=
  (∀ c ∈ file.records, active c = true → inDate c loaded = true) ∧
    (file.records.find? (serves (strip actorId) now)).map (·.certificateSha256) =
      some (L.lower (strip presentedFingerprint))

variable {L : Lowering} {file : PolicyFile} {loaded now : DateTime} {actorId presentedFingerprint : String}

theorem toLower_of_isHexLower {c : Char} (h : isHexLower c = true) : c.toLower = c := by
  have hbounds := isHexLower_bounds h
  have hupper : ¬ (65 ≤ c.val.toNat ∧ c.val.toNat ≤ 90) := by
    change ¬ (65 ≤ c.toNat ∧ c.toNat ≤ 90)
    omega
  unfold Char.toLower
  rw [dif_neg]
  rintro ⟨hA, hZ⟩
  exact hupper ⟨UInt32.le_iff_toNat_le.1 hA, UInt32.le_iff_toNat_le.1 hZ⟩

theorem Lowering.sha256 (L : Lowering) {s : String} (h : isSha256 s = true) : L.lower s = s := by
  rw [isSha256, Bool.and_eq_true, isHexDigest, List.all_eq_true] at h
  have hascii : ∀ c ∈ s.toList, c.toNat < 128 := by
    intro c hc
    have := isHexLower_bounds (h.2 c hc)
    omega
  rw [L.ascii s hascii]
  apply String.toList_inj.1
  rw [String.toList_map]
  calc s.toList.map Char.toLower = s.toList.map id := List.map_congr_left fun c hc => toLower_of_isHexLower (h.2 c hc)
    _ = s.toList := List.map_id _

theorem PolicyFile.registry (file : PolicyFile) : ∃ registry, newRegistry file.records = some registry := by
  have h := file.written
  unfold writePolicy at h
  obtain ⟨registry, hvalid, -⟩ := Option.bind_eq_some_iff.1 h
  unfold validate at hvalid
  obtain ⟨registry, hregistry, -⟩ := Option.bind_eq_some_iff.1 hvalid
  exact ⟨registry, hregistry⟩

theorem readPolicy_file (file : PolicyFile) (loaded : DateTime) : readPolicy file.raw (some loaded) =
    if ∀ c ∈ file.records, active c = true → inDate c loaded = true then some file.records else none := by
  obtain ⟨registry, hregistry⟩ := file.registry
  rw [readPolicy_written file.written, validate, hregistry]
  by_cases hcurrent : ∀ c ∈ file.records, active c = true → inDate c loaded = true
  · have hguard : file.records.any (fun c => active c && !inDate c loaded) = false := by
      rw [List.any_eq_false]
      intro c hc hstale
      rw [Bool.and_eq_true] at hstale
      rw [hcurrent c hc hstale.1] at hstale
      cases hstale.2
    rw [if_pos hcurrent, Option.any_some, hguard]
    rfl
  · have hguard : file.records.any (fun c => active c && !inDate c loaded) = true := by
      rw [List.any_eq_true]
      simp only [not_forall] at hcurrent
      obtain ⟨c, hc, hactive, hstale⟩ := hcurrent
      refine ⟨c, hc, ?_⟩
      rw [hactive, Bool.eq_false_iff.2 hstale]
      rfl
    rw [if_neg hcurrent, Option.any_some, hguard]
    rfl

/-- The first record in force of the actor answers, when the policy can be loaded. -/
theorem activeFingerprint_written (h : validActorId actorId = true) :
    activeFingerprint file.raw loaded now actorId =
      if ∀ c ∈ file.records, active c = true → inDate c loaded = true then
        (file.records.find? (serves actorId now)).map (·.certificateSha256)
      else none := by
  rw [activeFingerprint, if_pos h, readPolicy_file]
  by_cases hcurrent : ∀ c ∈ file.records, active c = true → inDate c loaded = true
  · rw [if_pos hcurrent, if_pos hcurrent]
  · rw [if_neg hcurrent, if_neg hcurrent]

theorem isSha256_of_find? {sha : String}
    (h : (file.records.find? (serves actorId now)).map (·.certificateSha256) = some sha) : isSha256 sha = true := by
  obtain ⟨c, -, rfl⟩ := Option.map_eq_some_iff.1 h
  exact c.sha_valid

theorem compareDigest_sha256 {enrolled presented : String} (h : isSha256 enrolled = true) :
    compareDigest enrolled presented = .ok true ↔ enrolled = presented := by
  unfold compareDigest
  constructor
  · intro hsame
    split at hsame
    · exact beq_iff_eq.1 (Except.ok.inj hsame)
    · cases hsame
  · rintro rfl
    have hascii : (enrolled.toList.all fun c => decide (c.toNat < 128)) = true := by
      rw [isSha256, Bool.and_eq_true, isHexDigest, List.all_eq_true] at h
      rw [List.all_eq_true]
      intro c hc
      have := isHexLower_bounds (h.2 c hc)
      exact decide_eq_true (by omega)
    rw [if_pos hascii, beq_self_eq_true]

/-- The end of the call, where the first record in force is compared with what was presented. -/
theorem comparedStamp {author enrolled presented : String} {stamp : OperatorIdentity}
    (h : (if enrolled.length ≠ presented.length then .ok unverified
      else do
        let same ← compareDigest (L.lower enrolled) presented
        if !same then .ok unverified
        else .ok ⟨author, String.ofList (enrolled.toList.take 16), true, "verified_operator"⟩ :
      Except IdentityRaised OperatorIdentity) = .ok stamp)
    (hverified : stamp.identityVerified = true) (hsha : isSha256 enrolled = true) : enrolled = presented := by
  split at h
  · cases h
    cases hverified
  · obtain ⟨same, hsame, h⟩ := Except.bind_eq_ok.1 h
    rw [L.sha256 hsha] at hsame
    cases same with
    | true => exact (compareDigest_sha256 hsha).1 hsame
    | false =>
      cases h
      cases hverified

/-- What is verified is the first record in force, in a policy that can be loaded. -/
theorem verified_iff : Verified L file loaded now actorId presentedFingerprint ↔
    validActorId (strip actorId) = true ∧ strip actorId ≠ "analyst_a" ∧
      Unhindered L file loaded now actorId presentedFingerprint := by
  constructor
  · rintro ⟨stamp, hstamp, hverified⟩
    unfold verifyOperatorIdentity at hstamp
    dsimp only at hstamp
    split at hstamp
    · cases hstamp
      cases hverified
    · rename_i hauthor
      simp only [not_or] at hauthor
      have hvalid : validActorId (strip actorId) = true := Bool.not_eq_false _ ▸ hauthor.2.2.2
      rw [activeFingerprint_written hvalid] at hstamp
      refine ⟨hvalid, hauthor.2.1, ?_⟩
      by_cases hcurrent : ∀ c ∈ file.records, active c = true → inDate c loaded = true
      · refine ⟨hcurrent, ?_⟩
        rw [if_pos hcurrent] at hstamp
        cases hfirst : (file.records.find? (serves (strip actorId) now)).map (·.certificateSha256) with
        | none =>
          rw [hfirst] at hstamp
          cases hstamp
          cases hverified
        | some enrolled =>
          rw [hfirst] at hstamp
          rw [comparedStamp hstamp hverified (isSha256_of_find? hfirst)]
      · rw [if_neg hcurrent] at hstamp
        cases hstamp
        cases hverified
  · rintro ⟨hvalid, hreserved, hcurrent, hfirst⟩
    have hsha := isSha256_of_find? hfirst
    have hactive : activeFingerprint file.raw loaded now (strip actorId) = some (L.lower (strip presentedFingerprint)) := by
      rw [activeFingerprint_written hvalid, if_pos hcurrent, hfirst]
    have hauthor : ¬ (strip actorId = "" ∨ strip actorId = "analyst_a" ∨ L.lower (strip presentedFingerprint) = "" ∨
        validActorId (strip actorId) = false) := by
      rintro (h | h | h | h)
      · rw [h] at hvalid
        cases hvalid
      · exact hreserved h
      · rw [h] at hsha
        cases hsha
      · rw [h] at hvalid
        cases hvalid
    refine ⟨⟨strip actorId, String.ofList ((L.lower (strip presentedFingerprint)).toList.take 16), true,
      "verified_operator"⟩, ?_, rfl⟩
    unfold verifyOperatorIdentity
    dsimp only
    rw [if_neg hauthor, hactive]
    dsimp only
    rw [if_neg (not_not.2 rfl), L.sha256 hsha, (compareDigest_sha256 hsha).2 rfl]
    rfl

theorem enrolled_of_unhindered (hvalid : validActorId (strip actorId) = true) (hreserved : strip actorId ≠ "analyst_a")
    (h : Unhindered L file loaded now actorId presentedFingerprint) :
    Enrolled L file now actorId presentedFingerprint := by
  obtain ⟨c, hfind, hsha⟩ := Option.map_eq_some_iff.1 h.2
  exact ⟨hvalid, hreserved, c, List.mem_of_find?_eq_some hfind, List.find?_some hfind, hsha⟩

/-- **An identity is bound** as it should be, except where a record of the file is out of date or an earlier record
of the actor is in force. -/
theorem identity_binding (L : Lowering) (file : PolicyFile) (loaded now : DateTime)
    (actorId presentedFingerprint : String) :
    (Verified L file loaded now actorId presentedFingerprint ↔ Enrolled L file now actorId presentedFingerprint) ↔
      (Enrolled L file now actorId presentedFingerprint → Unhindered L file loaded now actorId presentedFingerprint) := by
  constructor
  · intro hiff henrolled
    exact (verified_iff.1 (hiff.2 henrolled)).2.2
  · intro h
    constructor
    · intro hverified
      obtain ⟨hvalid, hreserved, hclear⟩ := verified_iff.1 hverified
      exact enrolled_of_unhindered hvalid hreserved hclear
    · intro henrolled
      exact verified_iff.2 ⟨henrolled.1, henrolled.2.1, h henrolled⟩

/-! ## Two certificates of one operator, the second presented -/

def asciiLowering : Lowering := ⟨fun s => s.map Char.toLower, fun _ _ => rfl⟩

def rotatedSince : DateTime := ⟨2026, 7, 9, 8, 0, 0, 0, by decide, by decide⟩
def rotatedUntil : DateTime := ⟨2027, 7, 9, 8, 0, 0, 0, by decide, by decide⟩
def approvedAt : DateTime := ⟨2026, 8, 3, 10, 30, 0, 0, by decide, by decide⟩

def rotatedCredential (sha : String) (h : isSha256 sha = true) : HumanCredential :=
  ⟨"lab_operator", sha, true, false, rotatedSince, rotatedUntil, by decide, h, by decide⟩

def oldSha256 : String := "3b64db95cb55c763391c707108489ae18b4112d783300de38e033b4c98c3deaf"
def newSha256 : String := "9f14025af0065b30e47e23ebb3b491d39ae8ed17d33739e5ff3827ffb3634953"

def rotatedRecords : List HumanCredential :=
  [rotatedCredential oldSha256 (by decide), rotatedCredential newSha256 (by decide)]

theorem written_rotatedRecords : writePolicy rotatedRecords = some (utf8 (policyText rotatedRecords)) := by
  have hregistry : newRegistry rotatedRecords = some ⟨rotatedRecords, by decide, by decide⟩ := dif_pos (by decide)
  have hlength : (utf8 (policyText rotatedRecords)).length ≤ MAX_BYTES := by
    have htext : (policyText rotatedRecords).length ≤ 307 * 2 + 75 := length_policyText_le rotatedRecords
    have hbytes := length_utf8_le (policyText rotatedRecords)
    have hmax : MAX_BYTES = 65536 := rfl
    omega
  rw [writePolicy, validate, hregistry]
  simp only [Option.any_none, Option.bind_eq_bind, Option.bind_some]
  rw [(Option.guard_eq_some' ()).2 hlength]
  rfl

def rotatedPolicy : PolicyFile := ⟨rotatedRecords, utf8 (policyText rotatedRecords), written_rotatedRecords⟩

theorem second_certificate_unverified :
    Enrolled asciiLowering rotatedPolicy approvedAt "lab_operator" newSha256 ∧
      ¬ Verified asciiLowering rotatedPolicy approvedAt approvedAt "lab_operator" newSha256 := by
  constructor
  · refine ⟨by decide, by decide, rotatedCredential newSha256 (by decide), ?_, by decide +kernel, by decide +kernel⟩
    exact List.mem_cons_of_mem _ List.mem_cons_self
  · intro h
    have hfirst := (verified_iff.1 h).2.2.2
    revert hfirst
    decide +kernel

end ThreatFusion.Credentials
