import ThreatFusion.Soar.Chain
import ThreatFusion.Lib.JsonInjective
/-
# Which row tables pass for the sealed ledger

The three texts under one key are told apart by their shape, and each text by its fields, so an HMAC that
collides with nothing ties an entry hash to the eleven columns it covers. The head seal ties the last entry
hash; `HashChain.Chained.commit` walks down from there. What verification skips is what may differ: a
sequence number set to `NULL`, and the canonical hash when it is blanked, which frees the candidate.

* `entryRepr_inj`, `canonicalRepr_inj`: a text determines its fields.
* `Indistinguishable`: the rows that an accepted table may have in place of a row.
* `accepts_iff_indistinguishable`: these and no others.
-/
namespace ThreatFusion.Soar
open Py Alerts JsonText HashChain Machine

/-! ## Texts determine their fields -/

theorem utf8_ofList_inj {xs ys : List Char} (h : utf8 (String.ofList xs) = utf8 (String.ofList ys)) : xs = ys :=
  String.ofList_injective (utf8_inj.1 h)

theorem scalar_jsonText (s : Option String) : Scalar (jsonText s) := by
  cases s with
  | none => exact .null
  | some s => exact .str s

theorem jsonText_inj {s t : Option String} (h : jsonText s = jsonText t) : s = t := by
  cases s <;> cases t <;> simp [jsonText] at h ⊢
  exact h

theorem scalar_entryFields (e : SoarAuditEntry) : ∀ f ∈ entryFields e, Scalar f.2 := by
  simp [entryFields, scalar_jsonText, Scalar.str]

theorem scalar_canonicalFields (e : SoarAuditEntry) (n : ℤ) (c : String) :
    ∀ f ∈ canonicalFields e n c, Scalar f.2 := by
  simp [canonicalFields, Scalar.str, Scalar.int]

/-- Equal texts of two entries: every hashed column is equal. -/
theorem entryRepr_inj {e e' : SoarAuditEntry} (h : entryRepr e = entryRepr e') :
    e' = { e with entrySha256 := e'.entrySha256 } := by
  have hfields := dumps_obj_inj (by simp [entryFields]) (by simp [entryFields]) (scalar_entryFields e)
    (scalar_entryFields e') (String.ofList_injective h)
  obtain ⟨⟩ := e
  obtain ⟨⟩ := e'
  simp only [entryFields, List.cons.injEq, Prod.mk.injEq, true_and, Json.str.injEq, and_true] at hfields
  obtain ⟨rfl, rfl, rfl, rfl, rfl, rfl, hreason, hsnapshot, rfl, rfl⟩ := hfields
  rw [jsonText_inj hreason, jsonText_inj hsnapshot]

/-- Equal canonical texts: among others the same sequence number and candidate. -/
theorem canonicalRepr_inj {e e' : SoarAuditEntry} {n n' : ℤ} {c c' : String}
    (h : canonicalRepr e n c = canonicalRepr e' n' c') : n = n' ∧ c = c' := by
  have hfields := dumps_obj_inj (by simp [canonicalFields]) (by simp [canonicalFields])
    (scalar_canonicalFields e n c) (scalar_canonicalFields e' n' c') (String.ofList_injective h)
  simp only [canonicalFields, List.cons.injEq, Prod.mk.injEq, true_and, Json.str.injEq, Json.int.injEq,
    and_true] at hfields
  exact ⟨hfields.2.2.2.2.2.1, hfields.2.1⟩

/-- Only an entry has an `event_id`. -/
theorem canonicalRepr_ne_entryRepr (e e' : SoarAuditEntry) (n : ℤ) (c : String) :
    canonicalRepr e n c ≠ entryRepr e' := by
  intro h
  have hperm := dumps_obj_perm (scalar_canonicalFields e n c) (scalar_entryFields e')
    (String.ofList_injective h)
  simpa [canonicalFields, entryFields] using hperm.length_eq

/-- A seal starts with a digit or a sign, an object with a brace. -/
theorem canonicalRepr_ne_sealMaterial (e : SoarAuditEntry) (n m : ℤ) (c head : String) :
    canonicalRepr e n c ≠ sealMaterial m head := by
  intro h
  have hchars := congrArg String.toList h
  obtain ⟨rest, hobj⟩ := dumps_obj_head (canonicalFields e n c)
  obtain ⟨d, ds, hint, hnumeric⟩ := int_head m
  rw [canonicalRepr, String.toList_ofList, hobj, sealMaterial, String.toList_append, String.toList_append, hint,
    List.cons_append, List.cons_append, List.cons.injEq] at hchars
  rw [← hchars.1] at hnumeric
  exact absurd hnumeric (by decide)

/-! ## The attacker -/

/-- The HMAC values of a row. -/
def storedTags (row : SoarAuditRow) : List String := row.entrySha256 :: row.canonicalEntrySha256.toList

def ledgerTags (db : SoarDb) : List String :=
  db.events.flatMap storedTags ++ (db.headSeal.map (·.headSealHmac)).toList

/-- Whatever passes for an HMAC under the key was copied from the ledger. -/
def CopiesOnly (rt : Runtime) (key : LedgerSecret) (db : SoarDb) (rows : List SoarAuditRow) : Prop :=
  ∀ row ∈ rows, ∀ t ∈ storedTags row, (∃ text, t = ledgerHmac rt key text) → t ∈ ledgerTags db

/-- A row that verification takes for `row`. -/
structure Indistinguishable (row' row : SoarAuditRow) : Prop where
  entry : row'.toSoarAuditEntry = row.toSoarAuditEntry
  sequence : row'.sequenceId = none ∨ row'.sequenceId = row.sequenceId
  canonical : row'.canonicalEntrySha256.getD "" = "" ∨
    row'.canonicalEntrySha256 = row.canonicalEntrySha256 ∧ row'.candidateId.getD "" = row.candidateId.getD ""

section
variable {rt : Runtime} {key : LedgerSecret} {db : SoarDb}

theorem ledgerHmac_inj (hinj : Function.Injective (rt.hmacSha256 (utf8 key.1))) {m m' : String}
    (h : ledgerHmac rt key m = ledgerHmac rt key m') : m = m' := utf8_inj.1 (hinj h)

/-- An entry hash pins down the row and the hash before it. -/
theorem entry_pinned (hinj : Function.Injective (rt.hmacSha256 (utf8 key.1))) (n : Nat) (h k : String)
    (r s : SoarAuditRow) (hr : Accepted rt key n h r) (hs : Written rt key n k s)
    (htag : r.entrySha256 = s.entrySha256) : h = k ∧ r.toSoarAuditEntry = s.toSoarAuditEntry := by
  have htext := ledgerHmac_inj hinj ((hs.entry.trans htag.symm).trans hr.entry.symm)
  have hentry : r.toSoarAuditEntry = s.toSoarAuditEntry := by
    rw [entryRepr_inj htext, htag]
  refine ⟨?_, hentry⟩
  rw [← hr.link, ← hs.link, hentry]

/-- A canonical hash of the ledger stands at the position it was computed for. -/
theorem canonical_pinned (hinj : Function.Injective (rt.hmacSha256 (utf8 key.1))) (hsealed : Sealed rt key db)
    {e : SoarAuditEntry} {i : Nat} {c : String}
    (hmem : computeCanonicalAuditEntryHash rt key e (i + 1) c ∈ ledgerTags db) :
    ∃ row, db.events[i]? = some row ∧ c = row.candidateId.getD "" ∧
      row.canonicalEntrySha256 = some (computeCanonicalAuditEntryHash rt key e (i + 1) c) := by
  rw [ledgerTags, List.mem_append, List.mem_flatMap] at hmem
  rcases hmem with ⟨row, hrow, htag⟩ | hseal
  · obtain ⟨j, hj⟩ := List.mem_iff_getElem?.1 hrow
    have hwritten := hsealed.chain.get hj
    rw [Nat.zero_add] at hwritten
    rw [storedTags, hwritten.canonical, Option.toList_some, List.mem_cons, List.mem_singleton] at htag
    rcases htag with htag | htag
    · rw [← hwritten.entry] at htag
      exact absurd (ledgerHmac_inj hinj htag) (canonicalRepr_ne_entryRepr _ _ _ _)
    · obtain ⟨hpos, hcand⟩ := canonicalRepr_inj (ledgerHmac_inj hinj htag)
      obtain rfl : i = j := by omega
      exact ⟨row, hj, hcand, by rw [hwritten.canonical, htag]⟩
  · have hne : db.events ≠ [] := fun hnil => by simp [hsealed.unsealed hnil] at hseal
    rw [hsealed.head hne, Option.map_some, Option.toList_some, List.mem_singleton] at hseal
    exact absurd (ledgerHmac_inj hinj hseal) (canonicalRepr_ne_sealMaterial _ _ _ _ _)

theorem indistinguishable_of_accepted (hinj : Function.Injective (rt.hmacSha256 (utf8 key.1)))
    (hsealed : Sealed rt key db) {rows : List SoarAuditRow} (hcopies : CopiesOnly rt key db rows)
    {i : Nat} {prev : String} {row' row : SoarAuditRow} (hmem : row' ∈ rows) (hrow : db.events[i]? = some row)
    (hentry : row'.toSoarAuditEntry = row.toSoarAuditEntry) (haccepted : Accepted rt key i prev row') :
    Indistinguishable row' row where
  entry := hentry
  sequence := by
    have hseq := (hsealed.chain.get hrow).sequence
    rw [Nat.zero_add] at hseq
    cases hs : row'.sequenceId with
    | none => exact .inl rfl
    | some n =>
      have := haccepted.sequence
      rw [hs, Option.getD_some] at this
      exact .inr (by rw [hseq, this])
  canonical := by
    by_cases hblank : row'.canonicalEntrySha256.getD "" = ""
    · exact .inl hblank
    · have htag := haccepted.canonical hblank
      obtain ⟨t, ht⟩ : ∃ t, row'.canonicalEntrySha256 = some t := by
        cases hc : row'.canonicalEntrySha256 with
        | none => exact absurd (by rw [hc]; rfl) hblank
        | some t => exact ⟨t, rfl⟩
      rw [ht, Option.getD_some] at htag
      have hledger := hcopies row' hmem t (by simp [storedTags, ht]) ⟨_, htag.symm⟩
      rw [← htag] at hledger
      obtain ⟨row₂, hrow₂, hcand, hcanon⟩ := canonical_pinned hinj hsealed hledger
      obtain rfl : row₂ = row := Option.some.inj (hrow₂.symm.trans hrow)
      exact .inr ⟨by rw [ht, hcanon, htag], hcand⟩

theorem Indistinguishable.accepted {n : Nat} {prev : String} {row' row : SoarAuditRow}
    (h : Indistinguishable row' row) (hw : Written rt key n prev row) : Accepted rt key n prev row' where
  link := by rw [h.entry, hw.link]
  entry := by rw [h.entry, hw.entry]
  sequence := by
    rcases h.sequence with hs | hs
    · rw [hs, Option.getD_none]
    · rw [hs, hw.sequence, Option.getD_some]
  canonical hne := by
    rcases h.canonical with hc | ⟨hc, hcand⟩
    · exact absurd hc hne
    · rw [hcand, h.entry, hc, hw.canonical, Option.getD_some]

theorem entries_eq {rows : List SoarAuditRow} (h : List.Forall₂ Indistinguishable rows db.events) :
    rows.map (·.toSoarAuditEntry) = db.events.map (·.toSoarAuditEntry) := by
  rw [← List.forall₂_eq_eq_eq, List.forall₂_map_left_iff, List.forall₂_map_right_iff]
  exact h.imp fun _ _ hrow => hrow.entry

theorem playbook_iff {rows : List SoarAuditRow} (h : List.Forall₂ Indistinguishable rows db.events) (p : String) :
    (∃ row ∈ rows, row.playbookId = p) ↔ ∃ row ∈ db.events, row.playbookId = p := by
  have key : ∀ xs : List SoarAuditRow, (∃ row ∈ xs, row.playbookId = p) ↔
      ∃ e ∈ xs.map (·.toSoarAuditEntry), e.playbookId = p := fun xs => by
    simp only [List.mem_map, exists_exists_and_eq_and]
  rw [key, key, entries_eq h]

/-- **Nothing else is accepted.** -/
theorem Sealed.indistinguishable (hsealed : Sealed rt key db)
    (hinj : Function.Injective (rt.hmacSha256 (utf8 key.1))) {rows : List SoarAuditRow}
    (hcopies : CopiesOnly rt key db rows) {playbookId : Option String} {requireNonEmpty : Bool}
    (h : (verifyAuditChainIntegrity rt key.1 playbookId requireNonEmpty { db with events := rows }).1 = true) :
    db.events ≠ [] ∧ List.Forall₂ Indistinguishable rows db.events := by
  obtain ⟨-, hchain, ⟨headSeal, hseal, hholds⟩, -⟩ := verify_accepts.1 h
  change db.headSeal = some headSeal at hseal
  have hne : db.events ≠ [] := fun hnil => by
    rw [hsealed.unsealed hnil] at hseal
    cases hseal
  refine ⟨hne, ?_⟩
  obtain rfl := Option.some.inj (hseal.symm.trans (hsealed.head hne))
  obtain ⟨hcount, hlast, -⟩ := sealHolds_iff.1 hholds
  have hlen : rows.length = db.events.length := by simpa using hcount.symm
  have hhead : headTag (·.entrySha256) SOAR_AUDIT_GENESIS_HASH rows =
      headTag (·.entrySha256) SOAR_AUDIT_GENESIS_HASH db.events := by
    change rows.getLast?.map (·.entrySha256) = _ at hlast
    rw [headTag, hlast, Option.getD_some]
  -- the head commits to the entries, then each row is compared at its position
  have hentries := (hchain.commit (entry_pinned hinj) hsealed.chain hlen hhead).2
  refine List.forall₂_iff_get.2 ⟨hlen, fun i hi hj => ?_⟩
  have haccepted := hchain.get (List.getElem?_eq_getElem hi)
  rw [Nat.zero_add] at haccepted
  exact indistinguishable_of_accepted hinj hsealed hcopies (List.getElem_mem hi) (List.getElem?_eq_getElem hj)
    (hentries.get hi hj) haccepted

/-- **All of these are.** -/
theorem Sealed.accepts (hsealed : Sealed rt key db) (hne : db.events ≠ []) {rows : List SoarAuditRow}
    (hrows : List.Forall₂ Indistinguishable rows db.events) {playbookId : Option String}
    (hp : ∀ p, playbookId = some p → ∃ row ∈ db.events, row.playbookId = p) (requireNonEmpty : Bool) :
    (verifyAuditChainIntegrity rt key.1 playbookId requireNonEmpty { db with events := rows }).1 = true := by
  have hlen : rows.length = db.events.length := hrows.length_eq
  obtain ⟨last, hlast⟩ := Option.ne_none_iff_exists'.1 (mt List.getLast?_eq_none_iff.1 hne)
  have hhead : rows.getLast?.map (·.entrySha256) = some last.entrySha256 := by
    have hmap := congrArg (fun es : List SoarAuditEntry => (es.map (·.entrySha256)).getLast?) (entries_eq hrows)
    simpa [List.map_map, List.getLast?_map, hlast, Function.comp_def] using hmap
  have hchain : Chained (·.entrySha256) (Accepted rt key) 0 SOAR_AUDIT_GENESIS_HASH rows :=
    hsealed.chain.of_forall₂ (fun _ _ h => by rw [h.entry]) (fun _ _ _ _ h hw => h.accepted hw) hrows
  refine verify_accepts.2 ⟨fun hnil => hne ?_, hchain, ⟨_, hsealed.head hne, sealHolds_iff.2 ⟨?_, ?_, rfl⟩⟩,
    fun p hsome => (playbook_iff hrows p).2 (hp p hsome)⟩
  · change rows = [] at hnil
    rw [hnil, List.length_nil] at hlen
    exact List.length_eq_zero_iff.1 hlen.symm
  · rw [hlen]
  · rw [hhead, headTag, hlast]
    rfl

end

/-- **Tamper evidence.** Under the seal of a ledger that appends wrote, verification accepts exactly the
tables that agree with it in the eleven entry columns of every row, carry the written sequence number or
none, and carry the written canonical hash with its candidate or a blank hash. -/
theorem accepts_iff_indistinguishable {rt : Runtime} {key : LedgerSecret} (hmac : HmacNonempty rt)
    (hinj : Function.Injective (rt.hmacSha256 (utf8 key.1))) (records : List SoarPlaybookRecord)
    (inputs : List LedgerInput) {db : SoarDb} (hdb : db = exec (ledgerStep rt key.1) { records } inputs)
    {rows : List SoarAuditRow} (hcopies : CopiesOnly rt key db rows) (playbookId : Option String)
    (requireNonEmpty : Bool) :
    (verifyAuditChainIntegrity rt key.1 playbookId requireNonEmpty { db with events := rows }).1 = true ↔
      db.events ≠ [] ∧ List.Forall₂ Indistinguishable rows db.events ∧
      ∀ p, playbookId = some p → ∃ row ∈ db.events, row.playbookId = p := by
  have hsealed : Sealed rt key db :=
    hdb ▸ exec_inv (fun _ input => sealed_step hmac input) inputs (sealed_empty records)
  constructor
  · intro h
    obtain ⟨hne, hrows⟩ := hsealed.indistinguishable hinj hcopies h
    exact ⟨hne, hrows, fun p hp => (playbook_iff hrows p).1 ((verify_accepts.1 h).2.2.2 p hp)⟩
  · rintro ⟨hne, hrows, hp⟩
    exact hsealed.accepts hne hrows hp requireNonEmpty

/-! ## A blanked sequence number -/

theorem sampleHmacs_injective : Function.Injective (sampleRuntime.hmacSha256 (utf8 sampleKey.1)) :=
  tableDigest_injective (by decide) (by decide)

def sampleLedger : SoarDb := exec (ledgerStep sampleRuntime sampleKey.1) {} [.append sampleCall sampleEvent]

def blankSequence (row : SoarAuditRow) : SoarAuditRow := { row with sequenceId := none }

theorem blankSequence_copies (db : SoarDb) (rt : Runtime) (key : LedgerSecret) :
    CopiesOnly rt key db (db.events.map blankSequence) := by
  intro row hrow t ht _
  obtain ⟨row₀, hrow₀, rfl⟩ := List.mem_map.1 hrow
  exact List.mem_append_left _ (List.mem_flatMap.2 ⟨row₀, hrow₀, ht⟩)

theorem blankSequence_indistinguishable (rows : List SoarAuditRow) :
    List.Forall₂ Indistinguishable (rows.map blankSequence) rows := by
  rw [List.forall₂_map_left_iff]
  exact List.forall₂_same.2 fun row _ => ⟨rfl, .inl rfl, .inr ⟨rfl, rfl⟩⟩

theorem accepts_iff_indistinguishable_sample :
    (verifyAuditChainIntegrity sampleRuntime sampleKey.1 none true
      { sampleLedger with events := sampleLedger.events.map blankSequence }).1 = true ↔
      sampleLedger.events ≠ [] ∧
      List.Forall₂ Indistinguishable (sampleLedger.events.map blankSequence) sampleLedger.events ∧
      ∀ p, (none : Option String) = some p → ∃ row ∈ sampleLedger.events, row.playbookId = p :=
  accepts_iff_indistinguishable sampleRuntime_nonempty sampleHmacs_injective [] _ rfl
    (blankSequence_copies _ _ _) none true

/-- The seal over one event does not notice that its sequence number is gone. -/
theorem accepts_blanked_sequence :
    HmacNonempty sampleRuntime ∧ Function.Injective (sampleRuntime.hmacSha256 (utf8 sampleKey.1)) ∧
      CopiesOnly sampleRuntime sampleKey sampleLedger (sampleLedger.events.map blankSequence) ∧
      (verifyAuditChainIntegrity sampleRuntime sampleKey.1 none true
        { sampleLedger with events := sampleLedger.events.map blankSequence }).1 = true ∧
      sampleLedger.events.map blankSequence ≠ sampleLedger.events := by
  have hsealed : Sealed sampleRuntime sampleKey sampleLedger :=
    exec_inv (fun _ input => sealed_step sampleRuntime_nonempty input) _ (sealed_empty [])
  have hne : sampleLedger.events ≠ [] := by decide +kernel
  refine ⟨sampleRuntime_nonempty, sampleHmacs_injective, blankSequence_copies _ _ _,
    hsealed.accepts hne (blankSequence_indistinguishable _) (by simp) true, fun h => ?_⟩
  have hsequence := congrArg (List.map (·.sequenceId)) h
  revert hsequence
  decide +kernel

end ThreatFusion.Soar
