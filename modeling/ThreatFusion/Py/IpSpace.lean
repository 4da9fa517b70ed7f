import ThreatFusion.Py.IpAddress
/-
# Networks by the first bits of an address

A wider network around a base has the addresses of a narrower one (`lead_of_contains`), and two networks whose bases
differ in the bits of the wider have none in common (`Disjoint`). The short prefixes partition the first ten bits: what
no reserved, private or multicast network holds is in the space of global unicast addresses or site-local
(`space_of_open`). An open address of that space carries no IPv4 address (`embedded_eq_nil`).
-/
namespace ThreatFusion.Py

variable {ip : Fin (2 ^ 128)}

namespace Network

theorem contains_iff {bits : Nat} {n : Network bits} {a : Fin (2 ^ bits)} :
    n.contains a = true ↔ a.val / 2 ^ (bits - n.prefixLength) = n.base / 2 ^ (bits - n.prefixLength) := beq_iff_eq

/-- The addresses of a network lie in every wider one around its base. -/
theorem lead_of_contains {n : Network 128} {k : Nat} (h : n.contains ip = true) (hk : 128 - n.prefixLength ≤ k) :
    ip.val / 2 ^ k = n.base / 2 ^ k := by
  obtain ⟨d, rfl⟩ := Nat.exists_eq_add_of_le hk
  rw [pow_add, ← Nat.div_div_eq_div_mul, ← Nat.div_div_eq_div_mul, contains_iff.mp h]

/-- Apart in the bits that both fix. -/
def Disjoint (n m : Network 128) : Prop :=
  n.base / 2 ^ max (128 - n.prefixLength) (128 - m.prefixLength) ≠
    m.base / 2 ^ max (128 - n.prefixLength) (128 - m.prefixLength)

instance (n m : Network 128) : Decidable (Disjoint n m) := inferInstanceAs (Decidable (_ ≠ _))

theorem Disjoint.outside {n m : Network 128} (h : Disjoint n m) (hm : m.contains ip = true) : n.contains ip = false := by
  refine Bool.eq_false_of_not_eq_true fun hn => h ?_
  rw [← lead_of_contains hn (le_max_left _ _), ← lead_of_contains hm (le_max_right _ _)]

/-- How many of the first ten bits a network leaves open, and the value of the others. -/
def lead (n : Network 128) : Nat × Nat := (10 - n.prefixLength, n.base / 2 ^ 118 / 2 ^ (10 - n.prefixLength))

theorem contains_lead {n : Network 128} (h : n.prefixLength ≤ 10) (ip : Fin (2 ^ 128)) :
    n.contains ip = (ip.val / 2 ^ 118 / 2 ^ n.lead.1 == n.lead.2) := by
  have hbits : 128 - n.prefixLength = 118 + (10 - n.prefixLength) := by omega
  rw [contains, lead, hbits, pow_add, ← Nat.div_div_eq_div_mul, ← Nat.div_div_eq_div_mul]

end Network

namespace IPv6Address
open Network

/-! ## What no network refuses -/

theorem not_mapped (h : isReserved ip = false) : ipv4Mapped ip = none := by
  refine if_neg fun hmapped => ?_
  have hlead : ip.val / 2 ^ 120 = 0 := lead_of_contains hmapped (by decide)
  have hin : (v6Network [] 8).contains ip = true := contains_iff.mpr hlead
  have hreserved : isReserved ip = true := List.any_eq_true.mpr ⟨_, List.mem_cons_self, hin⟩
  rw [h] at hreserved
  cases hreserved

/-- What is not private is in no private network, or in an exception. -/
theorem open_of_not_private (hmapped : ipv4Mapped ip = none) (h : isPrivate ip = false) :
    (∀ n ∈ PRIVATE_NETWORKS, n.contains ip = false) ∨ ∃ n ∈ PRIVATE_NETWORKS_EXCEPTIONS, n.contains ip = true := by
  rw [isPrivate, hmapped, Bool.and_eq_false_iff] at h
  refine h.imp (fun h n hn => ?_) fun h => ?_
  · exact Bool.eq_false_of_not_eq_true (List.any_eq_false.mp h n hn)
  · obtain ⟨n, hn, hin⟩ := List.all_eq_false.mp h
    exact ⟨n, hn, by simpa using hin⟩

/-- The networks with short prefixes that are refused. -/
def REFUSED_NETWORKS : List (Network 128) :=
  RESERVED_NETWORKS ++ [v6Network [0xff00] 8, v6Network [0xfc00] 7, v6Network [0xfe80] 10]

/-- Beside the global unicast space they leave one block open. -/
theorem space_of_refused (h : ∀ n ∈ REFUSED_NETWORKS, n.contains ip = false) :
    GLOBAL_UNICAST.contains ip = true ∨ isSiteLocal ip = true := by
  have hshort : ∀ n ∈ REFUSED_NETWORKS, n.prefixLength ≤ 10 := by decide
  have hopen : ∀ p ∈ REFUSED_NETWORKS.map lead, ip.val / 2 ^ 118 / 2 ^ p.1 ≠ p.2 := by
    intro p hp
    obtain ⟨n, hn, rfl⟩ := List.mem_map.mp hp
    have hout := h n hn
    rw [contains_lead (hshort n hn)] at hout
    exact beq_eq_false_iff_ne.mp hout
  have hleads : REFUSED_NETWORKS.map lead =
      [(2, 0), (2, 1), (3, 1), (4, 1), (5, 1), (6, 1), (7, 2), (7, 3), (7, 4), (7, 5), (7, 6), (6, 14), (5, 30), (4, 62),
        (1, 508), (2, 255), (3, 126), (0, 1018)] := by rfl
  have hglobal : GLOBAL_UNICAST.contains ip = (ip.val / 2 ^ 118 / 2 ^ 7 == 1) := contains_lead (by decide) ip
  have hsite : isSiteLocal ip = (ip.val / 2 ^ 118 / 2 ^ 0 == 1019) := contains_lead (by decide) ip
  have hbound : ip.val / 2 ^ 118 < 1024 := Nat.div_lt_of_lt_mul ip.isLt
  rw [hleads] at hopen
  rw [hglobal, hsite, beq_iff_eq, beq_iff_eq]
  generalize ip.val / 2 ^ 118 = t at *
  simp only [List.mem_cons, List.not_mem_nil, or_false, forall_eq_or_imp, forall_eq] at hopen
  omega

theorem space_of_open (hreserved : isReserved ip = false) (hmulticast : isMulticast ip = false)
    (hprivate : isPrivate ip = false) : GLOBAL_UNICAST.contains ip = true ∨ isSiteLocal ip = true := by
  rcases open_of_not_private (not_mapped hreserved) hprivate with hout | ⟨n, hn, hexception⟩
  · refine space_of_refused fun n hn => ?_
    rcases List.mem_append.mp hn with hn | hn
    · exact Bool.eq_false_of_not_eq_true (List.any_eq_false.mp hreserved n hn)
    · simp only [List.mem_cons, List.not_mem_nil, or_false] at hn
      rcases hn with rfl | rfl | rfl
      · exact hmulticast
      · exact hout _ (by simp [PRIVATE_NETWORKS])
      · exact hout _ (by simp [PRIVATE_NETWORKS])
  · -- the exceptions are assigned from the global space
    have hwide : ∀ n ∈ PRIVATE_NETWORKS_EXCEPTIONS, 128 - n.prefixLength ≤ 125 ∧ n.base / 2 ^ 125 = 1 := by decide
    obtain ⟨hshort, hbase⟩ := hwide n hn
    exact .inl (contains_iff.mpr ((lead_of_contains hexception hshort).trans hbase))

/-! ## What is inside -/

/-- The private networks keep both tunnels in. -/
theorem embedded_eq_nil (hglobal : GLOBAL_UNICAST.contains ip = true) (hmapped : ipv4Mapped ip = none)
    (hprivate : isPrivate ip = false) : embedded ip = [] := by
  have outside {n : Network 128} (h : Disjoint n GLOBAL_UNICAST) : ¬ n.contains ip = true :=
    Bool.not_eq_true _ ▸ h.outside hglobal
  have hsixtofour : ¬ (v6Network [0x2002] 16).contains ip = true := by
    intro hin
    rcases open_of_not_private hmapped hprivate with hout | ⟨n, hn, hexception⟩
    · rw [hout _ (by simp [PRIVATE_NETWORKS])] at hin
      cases hin
    · have hapart : ∀ n ∈ PRIVATE_NETWORKS_EXCEPTIONS, Disjoint n (v6Network [0x2002] 16) := by decide
      rw [(hapart n hn).outside hin] at hexception
      cases hexception
  have hteredo : ¬ (v6Network [0x2001] 32).contains ip = true := by
    intro hin
    rcases open_of_not_private hmapped hprivate with hout | ⟨n, hn, hexception⟩
    · have hlead : ip.val / 2 ^ 105 = _ := lead_of_contains hin (by decide)
      have hwide : (v6Network [0x2001] 23).contains ip = true := contains_iff.mpr hlead
      rw [hout _ (by simp [PRIVATE_NETWORKS])] at hwide
      cases hwide
    · have hapart : ∀ n ∈ PRIVATE_NETWORKS_EXCEPTIONS, Disjoint n (v6Network [0x2001] 32) := by decide
      rw [(hapart n hn).outside hin] at hexception
      cases hexception
  rw [embedded, hmapped, if_neg (outside (by decide)), if_neg hsixtofour, if_neg hteredo, if_neg (outside (by decide))]
  rfl

/-! ## Site-local addresses -/

/-- No network that the classes are made of has a site-local address. -/
theorem siteLocal_outside (h : isSiteLocal ip = true) :
    ∀ n ∈ v6Network [0, 0, 0, 0, 0, 0xffff] 96 :: v6Network [0xff00] 8 :: v6Network [0xfe80] 10 :: GLOBAL_UNICAST ::
      (PRIVATE_NETWORKS ++ RESERVED_NETWORKS), n.contains ip = false := by
  have hapart : ∀ n ∈ v6Network [0, 0, 0, 0, 0, 0xffff] 96 :: v6Network [0xff00] 8 :: v6Network [0xfe80] 10 ::
      GLOBAL_UNICAST :: (PRIVATE_NETWORKS ++ RESERVED_NETWORKS), Disjoint n (v6Network [0xfec0] 10) := by decide
  exact fun n hn => (hapart n hn).outside h

theorem siteLocal_open (h : isSiteLocal ip = true) : ipv4Mapped ip = none ∧ isPrivate ip = false ∧ isGlobal ip = true ∧
    isReserved ip = false ∧ isMulticast ip = false ∧ isLinkLocal ip = false ∧ isLoopback ip = false ∧
    isUnspecified ip = false ∧ GLOBAL_UNICAST.contains ip = false := by
  have hout := siteLocal_outside h
  have hlead : ip.val / 2 ^ 118 = 1019 := contains_iff.mp h
  have hmapped : ipv4Mapped ip = none := if_neg (by rw [hout _ (by simp)]; decide)
  have hprivate : isPrivate ip = false := by
    rw [isPrivate, hmapped, Bool.and_eq_false_iff]
    refine .inl (List.any_eq_false.mpr fun n hn => ?_)
    rw [hout n (by simp [hn])]
    decide
  refine ⟨hmapped, hprivate, by rw [isGlobal, hmapped, hprivate]; rfl, List.any_eq_false.mpr fun n hn => ?_,
    hout _ (by simp), hout _ (by simp), ?_, ?_, hout _ (by simp)⟩
  · rw [hout n (by simp [hn])]
    decide
  · refine beq_eq_false_iff_ne.mpr fun hone => ?_
    rw [hone] at hlead
    exact absurd hlead (by decide)
  · refine beq_eq_false_iff_ne.mpr fun hzero => ?_
    rw [hzero] at hlead
    exact absurd hlead (by decide)

end IPv6Address
end ThreatFusion.Py
