import ThreatFusion.Enrichment.ThreatIntel
import ThreatFusion.Py.IpSpace
/-
# What the address guard lets out

`Public` is what may be asked for outside: an address that is globally reachable and unicast, and so is every IPv4
address in it. The guard lets out such endpoints and one more kind (`allowed_cases`): the site-local addresses of
`fec0::/10`, which no class test of the code and none of the networks behind them refuse.

`discreet_iff`: two calls keep the promise exactly when no verified contract has a site-local endpoint, and when of two
verified contracts without a public endpoint not just one is made of bare role prefixes. The provider is asked about
such a contract with no indicator at all.
-/
namespace ThreatFusion.Enrichment
open Py Correlation

/-! ## Public and site-local endpoints -/

def GlobalUnicast : IpAddress → Prop
  | .v4 ip => IPv4Address.isGlobal ip = true ∧ IPv4Address.isMulticast ip = false
  | .v6 ip _ => IPv6Address.isGlobal ip = true ∧ IPv6Address.GLOBAL_UNICAST.contains ip = true

def embeddedIn : IpAddress → List (Fin (2 ^ 32))
  | .v4 _ => []
  | .v6 ip _ => IPv6Address.embedded ip

def Public (text : String) : Prop :=
  ∃ address, ipAddress (strip text) = some address ∧ GlobalUnicast address ∧
    ∀ ip ∈ embeddedIn address, GlobalUnicast (.v4 ip)

/-- Site-local, in a spelling that the guard does not refuse. -/
def SiteLocal (text : String) : Prop :=
  ∃ ip scopeId, ipAddress (strip text) = some (.v6 ip scopeId) ∧ IPv6Address.isSiteLocal ip = true ∧
    evadesStandardFormatting (strip text).toList = false

theorem SiteLocal.not_public {text : String} (h : SiteLocal text) : ¬ Public text := by
  rintro ⟨address, haddress, hglobal, -⟩
  obtain ⟨ip, scopeId, hip, hsite, -⟩ := h
  rw [hip] at haddress
  obtain rfl := Option.some.inj haddress
  have hout := (IPv6Address.siteLocal_open hsite).2.2.2.2.2.2.2.2
  rw [hglobal.2] at hout
  cases hout

theorem colon_of_ipAddress {text : String} {ip : Fin (2 ^ 128)} {scopeId : Option (List Char)}
    (h : ipAddress text = some (.v6 ip scopeId)) : ':' ∈ text.toList := by
  have hcolon {address : List Char} {ip : Fin (2 ^ 128)} (h : ipv6Number address = some ip) : ':' ∈ address :=
    List.count_pos_iff.mp (Nat.lt_of_lt_of_le Nat.zero_lt_two (colons_of_ipv6Number h))
  unfold ipAddress at h
  cases hv4 : ipv4Address text.toList with
  | some v4 =>
    rw [hv4] at h
    cases h
  | none =>
    rw [hv4] at h
    obtain ⟨p, hp, -⟩ := Option.map_eq_some_iff.mp h
    unfold ipv6Address at hp
    split_ifs at hp
    have htext : List.intercalate ['%'] (text.toList.splitOn '%') = text.toList := List.intercalate_splitOn '%'
    rw [← htext]
    split at hp
    · rename_i address hparts
      obtain ⟨_, hnumber, -⟩ := Option.map_eq_some_iff.mp hp
      rw [hparts]
      simpa using hcolon hnumber
    · rename_i address scope hparts
      split_ifs at hp
      obtain ⟨_, hnumber, -⟩ := Option.map_eq_some_iff.mp hp
      rw [hparts]
      simp [List.intercalate, List.intersperse, hcolon hnumber]
    · cases hp

theorem not_localhost {text : List Char} (h : ':' ∈ text) : isLocalhost text = false := by
  refine beq_eq_false_iff_ne.mpr fun hlower => ?_
  have hmem : ':' ∈ text.map Char.toLower := List.mem_map.mpr ⟨':', h, by decide⟩
  rw [hlower] at hmem
  exact absurd hmem (by decide)

theorem SiteLocal.allowed {text : String} (h : SiteLocal text) : externalLookupAllowed text = true := by
  obtain ⟨ip, scopeId, hip, hsite, hevades⟩ := h
  have hcolon := colon_of_ipAddress hip
  have hlocalhost := not_localhost hcolon
  have hne : strip text ≠ "" := by
    intro hempty
    rw [hempty] at hcolon
    cases hcolon
  have hlooks : looksLikeIpAttempt (strip text).toList = true := by
    unfold looksLikeIpAttempt
    have hcontains : (strip text).toList.contains ':' = true := List.contains_iff_mem.mpr hcolon
    rw [hcontains, Bool.or_true]
    split_ifs <;> rfl
  obtain ⟨hmapped, hprivate, hglobal, hreserved, hmulticast, hlink, hloop, hunspecified, -⟩ :=
    IPv6Address.siteLocal_open hsite
  have haddress : addressAllowed (.v6 ip scopeId) = true := by
    simp [addressAllowed, v6Refused, hmapped, hprivate, hglobal, hreserved, hmulticast, hlink, hloop, hunspecified]
  simp [externalLookupAllowed, hne, hlooks, hlocalhost, hevades, hip, haddress]

/-- **What the guard lets out.** -/
theorem allowed_cases {text : String} (h : externalLookupAllowed text = true) : Public text ∨ SiteLocal text := by
  unfold externalLookupAllowed at h
  dsimp only at h
  split_ifs at h with hlooks hevades
  rw [Bool.or_eq_true, not_or, Bool.not_eq_true, Bool.not_eq_true] at hevades
  cases haddress : ipAddress (strip text) with
  | none =>
    rw [haddress] at h
    cases h
  | some address =>
    rw [haddress] at h
    dsimp only at h
    cases address with
    | v4 ip =>
      left
      simp only [addressAllowed, v4Refused, Bool.not_eq_true', Bool.or_eq_false_iff, Bool.not_eq_false'] at h
      obtain ⟨⟨⟨⟨⟨⟨hglobal, -⟩, -⟩, -⟩, hmulticast⟩, -⟩, -⟩ := h
      exact ⟨_, haddress, ⟨hglobal, hmulticast⟩, fun _ hip => absurd hip List.not_mem_nil⟩
    | v6 ip scopeId =>
      simp only [addressAllowed, v6Refused, Bool.not_eq_true', Bool.or_eq_false_iff, Bool.not_eq_false',
        Bool.and_eq_true] at h
      obtain ⟨⟨⟨⟨⟨⟨⟨hglobal, hprivate⟩, -⟩, -⟩, hmulticast⟩, hreserved⟩, -⟩, -⟩ := h
      rcases IPv6Address.space_of_open hreserved hmulticast hprivate with hspace | hsite
      · left
        refine ⟨_, haddress, ⟨hglobal, hspace⟩, fun e he => ?_⟩
        rw [embeddedIn, IPv6Address.embedded_eq_nil hspace (IPv6Address.not_mapped hreserved) hprivate] at he
        cases he
      · exact .inr ⟨ip, scopeId, haddress, hsite, hevades.2⟩

/-! ## The queries -/

def Enricher.queries (enricher : Enricher) (now : ParsedDateTime) (contract : Option EntityProvenanceContract) :
    List (List String) :=
  (enricher.enrichEntityContract now contract).queries

/-- No more than role prefixes, so there is nothing to inspect. -/
def Bare (contract : EntityProvenanceContract) : Prop := rawIps contract = []

instance (contract : EntityProvenanceContract) : Decidable (Bare contract) := inferInstanceAs (Decidable (_ = _))

section
variable {enricher : Enricher} {now : ParsedDateTime} {c d : EntityProvenanceContract}

theorem queries_unverified (h : isVerified enricher.runtime c = false) : enricher.queries now (some c) = [] := by
  rw [Enricher.queries, Enricher.enrichEntityContract, if_pos h]

theorem queries_without (h : enricher.feedProvider = none) (contract : Option EntityProvenanceContract) :
    enricher.queries now contract = [] := by
  unfold Enricher.queries Enricher.enrichEntityContract
  rw [h]
  cases contract with
  | none => rfl
  | some c =>
    dsimp only
    split_ifs
    · rfl
    · rfl
    · cases enricher.feedSnapshot <;> rfl

/-- The provider is asked once, unless all that is inspected is kept back. -/
theorem queries_verified {provider : FeedProvider} (hprovider : enricher.feedProvider = some provider)
    (h : isVerified enricher.runtime c = true) : enricher.queries now (some c) =
      if ¬ Bare c ∧ publicIpsToQuery c = [] then [] else [publicIpsToQuery c] := by
  have hverified : ¬ isVerified enricher.runtime c = false := by
    rw [h]
    decide
  rw [Enricher.queries, Enricher.enrichEntityContract, if_neg hverified, hprovider]
  by_cases hkept : ¬ Bare c ∧ publicIpsToQuery c = []
  · have hbool : (!(rawIps c).isEmpty && (publicIpsToQuery c).isEmpty) = true := by
      simp only [Bool.and_eq_true, Bool.not_eq_true', List.isEmpty_eq_false_iff, List.isEmpty_iff]
      exact hkept
    rw [if_pos hkept, if_pos hbool]
  · have hbool : ¬ (!(rawIps c).isEmpty && (publicIpsToQuery c).isEmpty) = true := by
      simp only [Bool.and_eq_true, Bool.not_eq_true', List.isEmpty_eq_false_iff, List.isEmpty_iff]
      exact hkept
    rw [if_neg hkept, if_neg hbool]
    rfl

/-- The endpoint is a public address. -/
def AtPublic (endpoint : Option String) : Prop := ∃ text, endpoint = some text ∧ Public text

theorem mem_rawIps {text : String} : text ∈ rawIps c ↔ text ≠ "" ∧ (srcIp c = some text ∨ dstIp c = some text) := by
  simp only [rawIps, given, List.mem_append, Option.mem_toList, Option.filter_eq_some_iff, List.mem_filter,
    decide_eq_true_eq]
  constructor
  · rintro (⟨hsrc, hne⟩ | ⟨⟨hdst, hne⟩, -⟩)
    · exact ⟨hne, .inl hsrc⟩
    · exact ⟨hne, .inr hdst⟩
  · rintro ⟨hne, hsrc | hdst⟩
    · exact .inl ⟨hsrc, hne⟩
    · by_cases hsrc : srcIp c = some text
      · exact .inl ⟨hsrc, hne⟩
      · exact .inr ⟨⟨hdst, hne⟩, hsrc⟩

/-- Endpoints agree, or neither is public. -/
def Alike (e f : Option String) : Prop := e = f ∨ ¬ AtPublic e ∧ ¬ AtPublic f

/-- Two contracts that differ in nothing public. -/
structure DiffersInside (c d : EntityProvenanceContract) : Prop where
  src : Alike (srcIp c) (srcIp d)
  dst : Alike (dstIp c) (dstIp d)

/-- What of an endpoint is asked for. -/
def asked (endpoint : Option String) : Option String := (given endpoint).filter externalLookupAllowed

theorem asked_eq_some {e : Option String} {text : String} :
    asked e = some text ↔ e = some text ∧ text ≠ "" ∧ externalLookupAllowed text = true := by
  rw [asked, Option.filter_eq_some_iff, given, Option.filter_eq_some_iff, and_assoc, decide_eq_true_eq]

theorem filter_toList {α : Type} (p : α → Bool) (o : Option α) : o.toList.filter p = (o.filter p).toList := by
  cases o with
  | none => rfl
  | some a => by_cases h : p a = true <;> simp [Option.filter, h]

theorem publicIpsToQuery_eq (c : EntityProvenanceContract) : publicIpsToQuery c =
    (asked (srcIp c)).toList ++ if asked (srcIp c) = asked (dstIp c) then [] else (asked (dstIp c)).toList := by
  rw [publicIpsToQuery, rawIps, List.filter_append, filter_toList, List.filter_comm, filter_toList]
  refine congrArg ((asked (srcIp c)).toList ++ ·) ?_
  show (asked (dstIp c)).toList.filter (fun ip => srcIp c ≠ some ip) = _
  cases hdst : asked (dstIp c) with
  | none => split_ifs <;> rfl
  | some text =>
    have hsame : asked (srcIp c) = some text ↔ srcIp c = some text := by
      rw [asked_eq_some]
      exact and_iff_left (asked_eq_some.mp hdst).2
    by_cases hsrc : srcIp c = some text
    · rw [if_pos (hsame.mpr hsrc)]
      simp [hsrc]
    · rw [if_neg (fun h => hsrc (hsame.mp h))]
      simp [hsrc]

/-! ## The promise -/

/-- The guard lets nothing but public addresses of these contracts out. -/
def NoSiteLocal (c : EntityProvenanceContract) : Prop := ∀ text ∈ rawIps c, ¬ SiteLocal text

theorem asked_public (h : NoSiteLocal c) {text : String} (hraw : text ∈ rawIps c)
    (hallowed : externalLookupAllowed text = true) : Public text :=
  (allowed_cases hallowed).resolve_right (h text hraw)

/-- Endpoints with no difference in public are asked for alike. -/
theorem Alike.asked {e f : Option String} (h : Alike e f) (hc : ∀ text, asked e = some text → Public text)
    (hd : ∀ text, asked f = some text → Public text) : asked e = asked f := by
  rcases h with rfl | ⟨he, hf⟩
  · rfl
  · have nothing {g : Option String} (hg : ¬ AtPublic g) (h : ∀ text, Enrichment.asked g = some text → Public text) :
        Enrichment.asked g = none := by
      cases hasked : Enrichment.asked g with
      | none => rfl
      | some text => exact absurd ⟨text, (asked_eq_some.mp hasked).1, h text hasked⟩ hg
    rw [nothing he hc, nothing hf hd]

theorem NoSiteLocal.endpoint (h : NoSiteLocal c) : (∀ text, asked (srcIp c) = some text → Public text) ∧
    ∀ text, asked (dstIp c) = some text → Public text := by
  refine ⟨fun text hasked => ?_, fun text hasked => ?_⟩
  · obtain ⟨hsrc, hne, hallowed⟩ := asked_eq_some.mp hasked
    exact asked_public h (mem_rawIps.mpr ⟨hne, .inl hsrc⟩) hallowed
  · obtain ⟨hdst, hne, hallowed⟩ := asked_eq_some.mp hasked
    exact asked_public h (mem_rawIps.mpr ⟨hne, .inr hdst⟩) hallowed

/-- Public indicators do not depend on what is not public. -/
theorem publicIpsToQuery_inside (hc : NoSiteLocal c) (hd : NoSiteLocal d) (h : DiffersInside c d) :
    publicIpsToQuery c = publicIpsToQuery d := by
  rw [publicIpsToQuery_eq, publicIpsToQuery_eq, h.src.asked hc.endpoint.1 hd.endpoint.1,
    h.dst.asked hc.endpoint.2 hd.endpoint.2]

variable (enricher now c d) in
/-- What two calls promise: only public indicators, none for an unverified contract, and the same for contracts that
differ in nothing public. -/
structure Discreet : Prop where
  shown : ∀ contract ∈ [c, d], ∀ query ∈ enricher.queries now (some contract), ∀ text ∈ query, Public text
  missing : enricher.queries now none = []
  unverified : ∀ contract ∈ [c, d], isVerified enricher.runtime contract = false → enricher.queries now (some contract) = []
  same : isVerified enricher.runtime c = true → isVerified enricher.runtime d = true → DiffersInside c d →
    enricher.queries now (some c) = enricher.queries now (some d)

/-- Neither endpoint is a public address. -/
def Inside (c : EntityProvenanceContract) : Prop := ¬ AtPublic (srcIp c) ∧ ¬ AtPublic (dstIp c)

variable (enricher c d) in
/-- No site-local endpoint, and bare contracts only together. -/
structure Contained : Prop where
  siteLocal : ∀ contract ∈ [c, d], isVerified enricher.runtime contract = true → NoSiteLocal contract
  bare : isVerified enricher.runtime c = true → isVerified enricher.runtime d = true → Inside c → Inside d →
    (Bare c ↔ Bare d)

theorem publicIpsToQuery_nil (h : NoSiteLocal c) (hinside : Inside c) : publicIpsToQuery c = [] := by
  refine List.filter_eq_nil_iff.mpr fun text hraw hallowed => ?_
  have hpublic := asked_public h hraw hallowed
  rcases (mem_rawIps.mp hraw).2 with hsrc | hdst
  · exact hinside.1 ⟨text, hsrc, hpublic⟩
  · exact hinside.2 ⟨text, hdst, hpublic⟩

theorem Discreet.contained {provider : FeedProvider} (hprovider : enricher.feedProvider = some provider)
    (h : Discreet enricher now c d) : Contained enricher c d := by
  have hsite : ∀ contract ∈ [c, d], isVerified enricher.runtime contract = true → NoSiteLocal contract := by
    intro contract hmem hverified text hraw hlocal
    have hasked : text ∈ publicIpsToQuery contract := List.mem_filter.mpr ⟨hraw, hlocal.allowed⟩
    refine hlocal.not_public (h.shown contract hmem (publicIpsToQuery contract) ?_ text hasked)
    rw [queries_verified hprovider hverified, if_neg fun hnil => List.ne_nil_of_mem hasked hnil.2]
    exact List.mem_singleton_self _
  refine ⟨hsite, fun hc hd hinc hind => ?_⟩
  have hnilc := publicIpsToQuery_nil (hsite c (by simp) hc) hinc
  have hnild := publicIpsToQuery_nil (hsite d (by simp) hd) hind
  have hsame := h.same hc hd ⟨.inr ⟨hinc.1, hind.1⟩, .inr ⟨hinc.2, hind.2⟩⟩
  rw [queries_verified hprovider hc, queries_verified hprovider hd, hnilc, hnild] at hsame
  by_cases hbarec : Bare c <;> by_cases hbared : Bare d
  · exact iff_of_true hbarec hbared
  · rw [if_neg fun hn => hn.1 hbarec, if_pos ⟨hbared, rfl⟩] at hsame
    cases hsame
  · rw [if_pos ⟨hbarec, rfl⟩, if_neg fun hn => hn.1 hbared] at hsame
    cases hsame
  · exact iff_of_false hbarec hbared

theorem Bare.endpoints (h : Bare c) : ¬ AtPublic (srcIp c) ∧ ¬ AtPublic (dstIp c) := by
  have nowhere {text : String} (hne : text ≠ "") : srcIp c ≠ some text ∧ dstIp c ≠ some text := by
    have hraw : text ∉ rawIps c := by
      rw [h]
      exact List.not_mem_nil
    rw [mem_rawIps, not_and, not_or] at hraw
    exact hraw hne
  have hempty : ¬ Public "" := by
    rintro ⟨address, haddress, -⟩
    have hnone : ipAddress (strip "") = none := by decide
    rw [hnone] at haddress
    cases haddress
  have away {e : Option String} (he : ∀ text, text ≠ "" → e ≠ some text) : ¬ AtPublic e := by
    rintro ⟨text, htext, hpublic⟩
    by_cases hne : text = ""
    · exact hempty (hne ▸ hpublic)
    · exact he text hne htext
  exact ⟨away fun text hne => (nowhere hne).1, away fun text hne => (nowhere hne).2⟩

theorem DiffersInside.inside (h : DiffersInside c d) (hinside : Inside c) : Inside d := by
  have follows {e f : Option String} (hef : Alike e f) (he : ¬ AtPublic e) : ¬ AtPublic f := by
    rcases hef with rfl | hef
    · exact he
    · exact hef.2
  exact ⟨follows h.src hinside.1, follows h.dst hinside.2⟩

theorem DiffersInside.symm (h : DiffersInside c d) : DiffersInside d c := by
  have turned {e f : Option String} (hef : Alike e f) : Alike f e := hef.imp Eq.symm And.symm
  exact ⟨turned h.src, turned h.dst⟩

theorem discreet_without (hprovider : enricher.feedProvider = none) : Discreet enricher now c d := by
  constructor
  · intro contract _ query hquery
    rw [queries_without hprovider] at hquery
    cases hquery
  · exact queries_without hprovider none
  · intro contract _ _
    exact queries_without hprovider _
  · intro _ _ _
    rw [queries_without hprovider, queries_without hprovider]

theorem Contained.discreet {provider : FeedProvider} (hprovider : enricher.feedProvider = some provider)
    (h : Contained enricher c d) : Discreet enricher now c d := by
  constructor
  · intro contract hmem query hquery text htext
    by_cases hverified : isVerified enricher.runtime contract = true
    · rw [queries_verified hprovider hverified] at hquery
      split_ifs at hquery
      · cases hquery
      · rw [List.mem_singleton.mp hquery] at htext
        obtain ⟨hraw, hallowed⟩ := List.mem_filter.mp htext
        exact asked_public (h.siteLocal contract hmem hverified) hraw hallowed
    · rw [queries_unverified (Bool.eq_false_of_not_eq_true hverified)] at hquery
      cases hquery
  · rfl
  · intro contract _ hunverified
    exact queries_unverified hunverified
  · intro hc hd hdiffers
    have hsame := publicIpsToQuery_inside (h.siteLocal c (by simp) hc) (h.siteLocal d (by simp) hd) hdiffers
    have hbare : Bare c ↔ Bare d := by
      constructor
      · intro hbare
        exact (h.bare hc hd hbare.endpoints (hdiffers.inside hbare.endpoints)).mp hbare
      · intro hbare
        exact (h.bare hc hd (hdiffers.symm.inside hbare.endpoints) hbare.endpoints).mpr hbare
    rw [queries_verified hprovider hc, queries_verified hprovider hd, hsame]
    by_cases hbarec : Bare c
    · rw [if_neg fun hn => hn.1 hbarec, if_neg fun hn => hn.1 (hbare.mp hbarec)]
    · have hbared : ¬ Bare d := fun hbared => hbarec (hbare.mpr hbared)
      simp only [hbarec, hbared, not_false_eq_true, true_and]

end

/-- **Private addresses stay inside** exactly when no verified contract has a site-local endpoint and bare contracts
come only together, or there is no provider. -/
theorem discreet_iff (enricher : Enricher) (now : ParsedDateTime) (c d : EntityProvenanceContract) :
    Discreet enricher now c d ↔ enricher.feedProvider = none ∨ Contained enricher c d := by
  cases hprovider : enricher.feedProvider with
  | none => exact ⟨fun _ => .inl rfl, fun _ => discreet_without hprovider⟩
  | some provider =>
    refine ⟨fun h => .inr (h.contained hprovider), fun h => ?_⟩
    rcases h with hnone | hcontained
    · cases hnone
    · exact hcontained.discreet hprovider

/-- A provider that knows nothing, and nothing else. -/
def watchedFeed : Enricher where
  runtime := { sha256 := fun _ => "", fromisoformat := fun _ => none, lower := id, round := id }
  formatOne _ := ""
  feedSnapshot := none
  feedProvider := some ⟨fun _ => .ok [], none⟩
  internalLabRegistry := DEFAULT_INTERNAL_LAB_REGISTRY

def siteLocalAttacker : EntityProvenanceContract :=
  { entityNamespaceId := some "lab", clockSynchronized := true, srcEntityId := some "attacker:fec0::4"
    dstEntityId := some "victim:10.0.0.5" }

/-- The site-local attacker is asked for outside. -/
theorem siteLocal_asked : ¬ Discreet watchedFeed ⟨0, some 0⟩ siteLocalAttacker siteLocalAttacker := by
  intro h
  have hasked : watchedFeed.queries ⟨0, some 0⟩ (some siteLocalAttacker) = [["fec0::4"]] := by decide +kernel
  have hlocal : SiteLocal "fec0::4" := ⟨0xfec0 * 2 ^ 112 + 4, none, by decide +kernel, by decide +kernel, by decide⟩
  refine hlocal.not_public (h.shown siteLocalAttacker (by simp) ["fec0::4"] ?_ "fec0::4" (by simp))
  rw [hasked]
  exact List.mem_singleton_self _

end ThreatFusion.Enrichment
