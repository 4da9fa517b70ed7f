import ThreatFusion.Browser.Listener
import ThreatFusion.Lib.JsonLayout
import ThreatFusion.Py.IsoFormat
import ThreatFusion.Py.Plain
/-
# The operator's credential policy (`operations/human_credentials.py`)

| here | there |
| --- | --- |
| `validate`       | `_validate` (:131-138) |
| `readCredential`, `readPolicy` | `_read` (:141-176); `none` is what `_boundary` turns into `CredentialPolicyError` |
| `policyText`, `writePolicy` | `_write` (:179-212), up to its text |

`json.loads` gets bytes and guesses their encoding; the text that `_write` makes is ASCII, and `readPolicy` reads
UTF-8. A text that nests too deep for `json` is refused here by the shape of its entries.

* `readPolicy_written`: a policy is read back as it was written.
-/
namespace ThreatFusion.Credentials
open Py Browser JsonText
open Analyst hiding Value Readable

def SCHEMA : String := "operator_human_credentials_v1"
def MAX_BYTES : Nat := 65536
def FIELDS : List String := ["actor_id", "certificate_sha256", "enabled", "revoked", "not_before", "not_after"]

/-- `enabled and not revoked` -/
def active (c : HumanCredential) : Bool := c.enabled && !c.revoked

/-- `not_before <= now < not_after` -/
def inDate (c : HumanCredential) (now : DateTime) : Bool :=
  decide (c.notBefore.micros ≤ now.micros) && decide (now.micros < c.notAfter.micros)

def newRegistry (records : List HumanCredential) : Option HumanCredentialRegistry :=
  if h : (records ≠ [] ∧ records.length ≤ 64) ∧ (records.map (·.certificateSha256)).Nodup then
    some ⟨records, h.1, h.2⟩
  else none

/-- `now` is the reading of the clock when the policy must be current. -/
def validate (records : List HumanCredential) (current : Option DateTime) : Option HumanCredentialRegistry := do
  let registry ← newRegistry records
  guard (!current.any fun now => records.any fun c => active c && !inDate c now)
  return registry

/-! ## Reading -/

/-- A text that is `isoformat` of a UTC time. -/
def readTime (entry : List (List Nat × Value)) (key : String) : Option DateTime := do
  let text ← (field entry key).bind Value.text?
  let parsed ← DateTime.fromisoformat text
  guard (parsed.isoformat = text)
  return parsed

def readBool (entry : List (List Nat × Value)) (key : String) : Option Bool :=
  match field entry key with
  | some (.bool b) => some b
  | _ => none

def newCredential (actorId certificateSha256 : String) (enabled revoked : Bool) (notBefore notAfter : DateTime) :
    Option HumanCredential :=
  if h : (validActorId actorId = true ∧ isSha256 certificateSha256 = true) ∧ notBefore.micros < notAfter.micros then
    some ⟨actorId, certificateSha256, enabled, revoked, notBefore, notAfter, h.1.1, h.1.2, h.2⟩
  else none

def readCredential : Value → Option HumanCredential
  | .obj entry => do
    guard (keysAre entry FIELDS)
    let notBefore ← readTime entry "not_before"
    let notAfter ← readTime entry "not_after"
    let actorId ← (field entry "actor_id").bind Value.text?
    let certificateSha256 ← (field entry "certificate_sha256").bind Value.text?
    let enabled ← readBool entry "enabled"
    let revoked ← readBool entry "revoked"
    newCredential actorId certificateSha256 enabled revoked notBefore notAfter
  | _ => none

def readCredentials : List Value → Option (List HumanCredential)
  | [] => some []
  | v :: rest => do
    let record ← readCredential v
    let records ← readCredentials rest
    return record :: records

def readPayload : Value → Option (List HumanCredential)
  | .obj payload => do
    guard (keysAre payload ["schema_version", "credentials"])
    guard ((field payload "schema_version").bind Value.text? = some SCHEMA)
    match field payload "credentials" with
    | some (.arr entries) => readCredentials entries
    | _ => none
  | _ => none

/-- `raw` is what a regular file of the operator's with mode 0600 and one name holds. -/
def readPolicy (raw : Bytes) (current : Option DateTime) : Option (List HumanCredential) := do
  guard (raw.length ≤ MAX_BYTES)
  let text ← decodeUtf8 raw
  let payload ← loads text
  guard (payload.strict fun _ => true)
  let records ← readPayload payload
  let _ ← validate records current
  return records

/-! ## Writing -/

def credentialJson (c : HumanCredential) : Json :=
  .obj [("actor_id", .str c.actorId), ("certificate_sha256", .str c.certificateSha256), ("enabled", .bool c.enabled),
    ("revoked", .bool c.revoked), ("not_before", .str c.notBefore.isoformat), ("not_after", .str c.notAfter.isoformat)]

def policyJson (records : List HumanCredential) : Json :=
  .obj [("schema_version", .str SCHEMA), ("credentials", .arr (records.map credentialJson))]

def policyText (records : List HumanCredential) : String :=
  String.ofList (dumpsIn .spaced (policyJson records) ++ ['\n'])

/-- The bytes that replace the file. -/
def writePolicy (records : List HumanCredential) : Option Bytes := do
  let _ ← validate records none
  guard ((utf8 (policyText records)).length ≤ MAX_BYTES)
  return utf8 (policyText records)

/-! ## What was written is read -/

theorem newCredential_self (c : HumanCredential) :
    newCredential c.actorId c.certificateSha256 c.enabled c.revoked c.notBefore c.notAfter = some c :=
  dif_pos ⟨⟨c.actor_valid, c.sha_valid⟩, c.ordered⟩

/-- The keys are written in their order. -/
theorem value_credentialJson (c : HumanCredential) : (sortKeys (credentialJson c)).value =
    .obj [(points "actor_id", .str (points c.actorId)),
      (points "certificate_sha256", .str (points c.certificateSha256)), (points "enabled", .bool c.enabled),
      (points "not_after", .str (points c.notAfter.isoformat)),
      (points "not_before", .str (points c.notBefore.isoformat)), (points "revoked", .bool c.revoked)] := by
  simp [credentialJson, sortKeys, sortFields, List.insertionSort, List.orderedInsert, Json.value, fieldValues]

theorem readCredential_value (c : HumanCredential) : readCredential (sortKeys (credentialJson c)).value = some c := by
  rw [value_credentialJson, readCredential]
  simp [keysAre, FIELDS, field, readTime, readBool, newCredential_self, DateTime.fromisoformat_isoformat]

theorem readCredentials_values (records : List HumanCredential) :
    readCredentials (records.map fun c => (sortKeys (credentialJson c)).value) = some records := by
  induction records with
  | nil => rfl
  | cons c records ih => rw [List.map_cons, readCredentials, readCredential_value, ih]; rfl

theorem itemValues_sortItems (xs : List Json) : itemValues (sortItems xs) = xs.map fun x => (sortKeys x).value := by
  induction xs with
  | nil => rfl
  | cons x xs ih => rw [sortItems, itemValues, ih, List.map_cons]

theorem value_policyJson (records : List HumanCredential) : (sortKeys (policyJson records)).value =
    .obj [(points "credentials", .arr (records.map fun c => (sortKeys (credentialJson c)).value)),
      (points "schema_version", .str (points SCHEMA))] := by
  have hitems := itemValues_sortItems (records.map credentialJson)
  rw [List.map_map] at hitems
  simp only [policyJson, sortKeys, sortFields, List.insertionSort, List.foldr, List.orderedInsert]
  rw [if_neg (by decide)]
  simp only [Json.value, fieldValues, hitems, Function.comp_def]

theorem readPayload_value (records : List HumanCredential) :
    readPayload (sortKeys (policyJson records)).value = some records := by
  rw [value_policyJson, readPayload]
  simp [keysAre, field, readCredentials_values]

theorem strict_credentialJson (isFloat : String → Bool) (c : HumanCredential) :
    (sortKeys (credentialJson c)).value.strict isFloat = true := by
  rw [value_credentialJson, Value.strict, Bool.and_eq_true]
  constructor
  · exact (by decide : decide ([points "actor_id", points "certificate_sha256", points "enabled", points "not_after",
      points "not_before", points "revoked"].Nodup) = true)
  · simp [strictPairs, Value.strict]

theorem strict_policyJson (isFloat : String → Bool) (records : List HumanCredential) :
    (sortKeys (policyJson records)).value.strict isFloat = true := by
  have hitems : strictItems isFloat (records.map fun c => (sortKeys (credentialJson c)).value) = true := by
    induction records with
    | nil => rfl
    | cons c records ih => rw [List.map_cons, strictItems, strict_credentialJson, ih]; rfl
  rw [value_policyJson, Value.strict, Bool.and_eq_true]
  constructor
  · exact (by decide : decide ([points "credentials", points "schema_version"].Nodup) = true)
  · simp [strictPairs, Value.strict, hitems]

theorem readable_policyJson (records : List HumanCredential) : Readable (sortKeys (policyJson records)) := by
  have hitems : ∀ cs : List HumanCredential, ReadableItems (sortItems (cs.map credentialJson)) := by
    intro cs
    induction cs with
    | nil => trivial
    | cons c cs ih =>
      refine ⟨?_, ih⟩
      apply readable_sorted
      simp [sortKeys, Readable]
  apply readable_sorted
  simp [sortKeys, Readable, hitems]

/-- **A policy is read back as it was written.** -/
theorem readPolicy_written {records : List HumanCredential} {raw : Bytes} (h : writePolicy records = some raw)
    (current : Option DateTime) : readPolicy raw current = (validate records current).map fun _ => records := by
  have hblank : ∀ c ∈ ['\n'], isBlank c = true := by
    intro c hc
    rw [List.mem_singleton.1 hc]
    rfl
  have hloads : loads (policyText records).toList = some (sortKeys (policyJson records)).value := by
    rw [policyText, String.toList_ofList]
    exact loads_renderIn .spaced (readable_policyJson records) 0 ['\n'] hblank
  unfold writePolicy at h
  obtain ⟨_, -, h⟩ := Option.bind_eq_some_iff.1 h
  obtain ⟨_, hguard, h⟩ := Option.bind_eq_some_iff.1 h
  have hlength := (Option.guard_eq_some' _).1 hguard
  obtain rfl : utf8 (policyText records) = raw := Option.some.inj h
  unfold readPolicy
  rw [(Option.guard_eq_some' ()).2 hlength, decodeUtf8_utf8]
  simp only [Option.bind_eq_bind, Option.bind_some, hloads]
  rw [(Option.guard_eq_some' ()).2 (strict_policyJson _ records), Option.bind_some, readPayload_value, Option.bind_some]
  cases validate records current
  · rfl
  · rfl

/-! ## How long a policy is -/

theorem lengthIn_credentialJson (c : HumanCredential) (d : Nat) : lengthIn .spaced d (credentialJson c) ≤ 305 := by
  obtain ⟨hactor, hactorLength⟩ := isPlain_of_validActorId c.actor_valid
  obtain ⟨hsha, hshaLength⟩ := isPlain_of_isSha256 c.sha_valid
  have hiso : ∀ t : DateTime, t.isoformat.toList.all isPlain = true := DateTime.isoformat_all (by decide) (by decide)
  have hbefore := c.notBefore.length_isoformat_le
  have hafter := c.notAfter.length_isoformat_le
  have hbool : ∀ b : Bool, lengthIn .spaced (d + 1) (.bool b) ≤ 5 := by
    intro b
    cases b
    · exact Nat.le_of_eq rfl
    · exact Nat.le_succ 4
  have henabled := hbool c.enabled
  have hrevoked := hbool c.revoked
  have hkeys : (quote "actor_id").length = 10 ∧ (quote "certificate_sha256").length = 20 ∧
      (quote "enabled").length = 9 ∧ (quote "revoked").length = 9 ∧ (quote "not_before").length = 12 ∧
      (quote "not_after").length = 11 := by decide
  unfold credentialJson
  refine (lengthIn_obj_le .spaced d _).trans ?_
  have hopening : (Layout.spaced.opening (d + 1)).length = 0 := rfl
  have hclosing : (Layout.spaced.closing d).length = 0 := rfl
  have hcomma : (Layout.spaced.comma (d + 1)).length = 1 := rfl
  have hcolon : Layout.spaced.colon.length = 1 := rfl
  simp only [List.map_cons, List.map_nil, List.sum_cons, List.sum_nil, List.length_cons, List.length_nil, hopening,
    hclosing, hcomma, hcolon, hkeys, lengthIn_str _ hactor, lengthIn_str _ hsha, lengthIn_str _ (hiso _)]
  omega

/-- A policy takes some three hundred characters a record. -/
theorem length_policyText_le (records : List HumanCredential) :
    (policyText records).length ≤ 307 * records.length + 75 := by
  have hitems : lengthIn .spaced 1 (.arr (records.map credentialJson)) ≤ 2 + records.length * 307 := by
    refine (lengthIn_arr_le_of_items .spaced (k := 305) fun x hx => ?_).trans ?_
    · obtain ⟨c, -, rfl⟩ := List.mem_map.1 hx
      exact lengthIn_credentialJson c 2
    · rw [List.length_map]
      exact Nat.le_of_eq rfl
  have hschema : lengthIn .spaced 1 (.str SCHEMA) = 31 := lengthIn_str _ (by decide) 1
  have hkeys : (quote "schema_version").length = 16 ∧ (quote "credentials").length = 13 := by decide
  have hjson : lengthIn .spaced 0 (policyJson records) ≤ 307 * records.length + 74 := by
    unfold policyJson
    refine (lengthIn_obj_le .spaced 0 _).trans ?_
    have hopening : (Layout.spaced.opening (0 + 1)).length = 0 := rfl
    have hclosing : (Layout.spaced.closing 0).length = 0 := rfl
    have hcomma : (Layout.spaced.comma (0 + 1)).length = 1 := rfl
    have hcolon : Layout.spaced.colon.length = 1 := rfl
    simp only [List.map_cons, List.map_nil, List.sum_cons, List.sum_nil, List.length_cons, List.length_nil, hopening,
      hclosing, hcomma, hcolon, hkeys, hschema, Nat.zero_add]
    omega
  have htext : (policyText records).length = lengthIn .spaced 0 (policyJson records) + 1 := by
    rw [policyText, String.length_ofList, List.length_append, List.length_singleton]
    rfl
  omega

end ThreatFusion.Credentials
