import ThreatFusion.Correlation.Provenance
import ThreatFusion.Py.Double
import ThreatFusion.Py.IpAddress
/-
# Threat intelligence behind the address guard

| here | there |
| --- | --- |
| `looksLikeIpAttempt`, `evadesStandardFormatting`, `externalLookupAllowed` | `correlation/misp_client.py` (:19-64) |
| `roleless`             | `src_ip`, `dst_ip` of `EntityProvenanceContract` (`alerts/correlation_engine.py:90-126`) |
| `ThreatIntelEnrichmentResult`, `Enricher` | `enrichment/threat_intel.py` (:24-107) |
| `enrichEntityContract` | `enrich_entity_contract` (:109-263), with the calls of `query_indicators` that it makes |

No character outside ASCII has a lower case in `localhost`, so `Char.toLower` is enough to compare with it. `formatOne`
writes `{x:.1f}`. Only `now - gen_time` can raise: a `now` without an offset is not comparable.
-/
namespace ThreatFusion.Enrichment
open Py Correlation

/-! ## The guard -/

/-- `^[..]+$`; the dollar also stands before a last line feed. -/
def matchesLine (p : Char → Bool) (text : List Char) : Bool :=
  let body := if text.getLast? = some '\n' then text.dropLast else text
  !body.isEmpty && body.all p

def isOctal (c : Char) : Bool := '0' ≤ c && c ≤ '7'

/-- `_INTEGER_ONLY`. -/
def isIntegerOnly (text : List Char) : Bool := matchesLine Char.isDigit text

/-- `_HEX_ENCODED`. -/
def isHexEncoded : List Char → Bool
  | '0' :: 'x' :: rest => matchesLine isHexDigit rest
  | _ => false

/-- `_OCTAL_TOKEN`. -/
def isOctalToken : List Char → Bool
  | '0' :: rest => matchesLine isOctal rest
  | _ => false

def startsWithOctal : List Char → Bool
  | '0' :: c :: _ => isOctal c
  | _ => false

/-- `_DOTTED_LEADING_ZERO`, anywhere. -/
def hasDottedLeadingZero (text : List Char) : Bool :=
  startsWithOctal text || text.tails.any fun rest => rest.head? == some '.' && startsWithOctal rest.tail

def isNumeric (text : List Char) : Bool := isHexEncoded text || isIntegerOnly text || isOctalToken text

def isBracketed (text : List Char) : Bool := text.head? == some '[' || text.getLast? == some ']'

def isLocalhost (text : List Char) : Bool := text.map Char.toLower == "localhost".toList

def looksLikeIpAttempt (text : List Char) : Bool :=
  if isLocalhost text then true
  else if isBracketed text then true
  else if isNumeric text then true
  else if hasDottedLeadingZero text then true
  else text.contains '.' || text.contains ':'

def evadesStandardFormatting (text : List Char) : Bool :=
  if isBracketed text then true
  else if isNumeric text then true
  else hasDottedLeadingZero text

/-- One turn of the loop over the parsed address and the one mapped into it. -/
def v4Refused (ip : Fin (2 ^ 32)) : Bool :=
  !IPv4Address.isGlobal ip || IPv4Address.isPrivate ip || IPv4Address.isLoopback ip || IPv4Address.isLinkLocal ip ||
    IPv4Address.isMulticast ip || IPv4Address.isReserved ip || IPv4Address.isUnspecified ip

def v6Refused (ip : Fin (2 ^ 128)) : Bool :=
  !IPv6Address.isGlobal ip || IPv6Address.isPrivate ip || IPv6Address.isLoopback ip || IPv6Address.isLinkLocal ip ||
    IPv6Address.isMulticast ip || IPv6Address.isReserved ip || IPv6Address.isUnspecified ip

def addressAllowed : IpAddress → Bool
  | .v4 ip => !v4Refused ip
  | .v6 ip _ => !v6Refused ip && (IPv6Address.ipv4Mapped ip).all fun mapped => !v4Refused mapped

def externalLookupAllowed (rawIp : String) : Bool :=
  let text := strip rawIp
  if text = "" || !looksLikeIpAttempt text.toList then false
  else if isLocalhost text.toList || evadesStandardFormatting text.toList then false
  else match ipAddress text with
    | none => false
    | some parsed => addressAllowed parsed

/-! ## The endpoints of a contract -/

def ROLE_PREFIXES : List String :=
  ["attacker:", "victim:", "client:", "server:", "sensor:", "node:", "host:", "vm:"]

/-- An entity identifier without its first role prefix. -/
def roleless (entityId : Option String) : Option String :=
  (given entityId).map fun value => match ROLE_PREFIXES.find? fun role => role.toList.isPrefixOf value.toList with
    | some role => String.ofList (value.toList.drop role.length)
    | none => value

def srcIp (contract : EntityProvenanceContract) : Option String := roleless contract.srcEntityId

def dstIp (contract : EntityProvenanceContract) : Option String := roleless contract.dstEntityId

/-! ## Enrichment -/

structure ThreatIntelIndicatorMatch where
  indicator : String
  indicatorType : String
  feedSource : String
  threatCategory : String
  confidence : Double
  firstSeenUtc : String
  lastSeenUtc : String
  referenceId : String

inductive EnrichmentStatus where
  | matchedVerifiedIoc | cleanNoIocMatch | internalLabEntityAnnotated | skippedUnverifiedProvenance
  | degradedEnrichmentUnavailable | degradedEnrichmentStale
deriving DecidableEq

def EnrichmentStatus.text : EnrichmentStatus → String
  | .matchedVerifiedIoc => "matched_verified_ioc"
  | .cleanNoIocMatch => "clean_no_ioc_match"
  | .internalLabEntityAnnotated => "internal_lab_entity_annotated"
  | .skippedUnverifiedProvenance => "skipped_unverified_provenance"
  | .degradedEnrichmentUnavailable => "degraded_enrichment_unavailable"
  | .degradedEnrichmentStale => "degraded_enrichment_stale"

structure ThreatIntelEnrichmentResult where
  status : EnrichmentStatus
  provenanceVerified : Bool
  externalLookupPerformed : Bool
  privateIpGuardTriggered : Bool
  inspectedEntities : List String
  internalLabAnnotations : List (String × String)
  found : List ThreatIntelIndicatorMatch
  feedSnapshotId : Option String
  reason : String

structure ThreatIntelFeedSnapshot where
  snapshotId : String
  generatedAtUtc : ParsedDateTime
  maxStalenessSeconds : Double
  indicators : List (String × ThreatIntelIndicatorMatch)

/-- `query_indicators` gives items, some of them matches, or raises an exception with this text. -/
structure FeedProvider where
  queryIndicators : List String → Except String (List (Option ThreatIntelIndicatorMatch))
  snapshotId : Option String

structure Enricher where
  runtime : Runtime
  formatOne : Double → String
  feedSnapshot : Option ThreatIntelFeedSnapshot
  feedProvider : Option FeedProvider
  internalLabRegistry : List (String × String)

def DEFAULT_INTERNAL_LAB_REGISTRY : List (String × String) :=
  [("10.0.0.4", "azure_lab_attacker_vm_slide14"), ("10.0.0.5", "azure_lab_victim_suricata_vm_slide14")]

inductive EnrichmentError where
  | typeError
deriving DecidableEq

/-- What a call returns or raises, and its calls of `query_indicators`. -/
structure EnrichmentCall where
  result : Except EnrichmentError ThreatIntelEnrichmentResult
  queries : List (List String) := []

def SKIPPED : ThreatIntelEnrichmentResult where
  status := .skippedUnverifiedProvenance
  provenanceVerified := false
  externalLookupPerformed := false
  privateIpGuardTriggered := false
  inspectedEntities := []
  internalLabAnnotations := []
  found := []
  feedSnapshotId := none
  reason := "Provenance contract is missing or not verified; intelligence lookup skipped."

/-- The entities to inspect: the endpoints that are there, once. -/
def rawIps (contract : EntityProvenanceContract) : List String :=
  (given (srcIp contract)).toList ++
    (given (dstIp contract)).toList.filter fun ip => srcIp contract ≠ some ip

def publicIpsToQuery (contract : EntityProvenanceContract) : List String :=
  (rawIps contract).filter externalLookupAllowed

namespace Enricher

variable (enricher : Enricher)

def annotations (contract : EntityProvenanceContract) : List (String × String) :=
  ((rawIps contract).filter fun ip => !externalLookupAllowed ip).map fun ip =>
    (ip, (enricher.internalLabRegistry.lookup ip).getD "internal_private_entity")

/-- What every result for a verified contract has in common. -/
def verifiedResult (contract : EntityProvenanceContract) (status : EnrichmentStatus) (performed : Bool)
    (found : List ThreatIntelIndicatorMatch) (snapshotId : Option String) (reason : String) :
    ThreatIntelEnrichmentResult where
  status := status
  provenanceVerified := true
  externalLookupPerformed := performed
  privateIpGuardTriggered := !(enricher.annotations contract).isEmpty
  inspectedEntities := rawIps contract
  internalLabAnnotations := enricher.annotations contract
  found := found
  feedSnapshotId := snapshotId
  reason := reason

def statusOf (found : List ThreatIntelIndicatorMatch) : EnrichmentStatus :=
  if found.isEmpty then .cleanNoIocMatch else .matchedVerifiedIoc

def askProvider (provider : FeedProvider) (contract : EntityProvenanceContract) : EnrichmentCall where
  result := .ok (match provider.queryIndicators (publicIpsToQuery contract) with
    | .ok items =>
      let found := items.reduceOption
      enricher.verifiedResult contract (statusOf found) true found provider.snapshotId
        "Provider lookup completed successfully."
    | .error text => enricher.verifiedResult contract .degradedEnrichmentUnavailable true [] none
        ("Feed provider exception: " ++ text))
  queries := [publicIpsToQuery contract]

/-- `(now - gen_time).total_seconds()`. -/
def ageSeconds (now : ParsedDateTime) (snapshot : ThreatIntelFeedSnapshot) : Except EnrichmentError Double :=
  match now.utcoffset with
  | none => .error .typeError
  | some _ => .ok (.ofRat ((now.instant - snapshot.generatedAtUtc.instant : ℤ) / 1000000))

def askSnapshot (snapshot : ThreatIntelFeedSnapshot) (now : ParsedDateTime) (contract : EntityProvenanceContract) :
    Except EnrichmentError ThreatIntelEnrichmentResult :=
  (ageSeconds now snapshot).map fun age =>
    if snapshot.maxStalenessSeconds.lt age then
      enricher.verifiedResult contract .degradedEnrichmentStale true [] (some snapshot.snapshotId)
        ("Feed snapshot age " ++ enricher.formatOne age ++ "s exceeds maximum staleness " ++
          enricher.formatOne snapshot.maxStalenessSeconds ++ "s.")
    else
      let found := (publicIpsToQuery contract).filterMap fun ip => snapshot.indicators.lookup ip
      enricher.verifiedResult contract (statusOf found) true found (some snapshot.snapshotId)
        (if found.isEmpty then "No known indicators matched in verified feed snapshot."
         else "Matched " ++ toString found.length ++ " indicators in verified feed snapshot.")

def enrichEntityContract (now : ParsedDateTime) : Option EntityProvenanceContract → EnrichmentCall
  | none => { result := .ok SKIPPED }
  | some contract =>
    if isVerified enricher.runtime contract = false then { result := .ok SKIPPED }
    else if !(rawIps contract).isEmpty && (publicIpsToQuery contract).isEmpty then
      { result := .ok (enricher.verifiedResult contract .internalLabEntityAnnotated false []
          (enricher.feedSnapshot.map (·.snapshotId))
          "Internal lab / private IP entities annotated; external lookups suppressed per RFC 1918 guard.") }
    else match enricher.feedProvider with
      | some provider => enricher.askProvider provider contract
      | none => match enricher.feedSnapshot with
        | none => { result := .ok (enricher.verifiedResult contract .degradedEnrichmentUnavailable false [] none
            "No threat intelligence feed snapshot configured.") }
        | some snapshot => { result := enricher.askSnapshot snapshot now contract }

end Enricher

end ThreatFusion.Enrichment
