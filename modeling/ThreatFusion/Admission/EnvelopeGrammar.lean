import ThreatFusion.Admission.Envelope
import ThreatFusion.Lib.Result
/-
# The grammar of a producer's request

The grammar is a relation between bytes and envelopes, over the way in which `produced_at` is read: with the code's
own reader the decoder accepts exactly the grammar (`decodeProducerEnvelope_ok`), and that reader takes more texts
than the ASCII text of a UTC second (`envelope_decoding`).
-/
namespace ThreatFusion.Admission
open Py JsonText

/-! ## The grammar -/

/-- Letters and digits, with marks between them. -/
structure IsName (marks : List Char) (max : Nat) (cs : List Char) : Prop where
  bounds : 1 ≤ cs.length ∧ cs.length ≤ max
  chars : ∀ c ∈ cs, isNameEnd c = true ∨ c ∈ marks
  starts : cs.head?.any isNameEnd = true
  ends : cs.getLast?.any isNameEnd = true

def IsReference (value : Value) (r : ProducerEventReference) : Prop :=
  ∃ pairs, value = .obj pairs ∧ keysAre pairs RECORD_KEYS = true ∧
    textField pairs "source_member_sha256" = some r.sourceMemberSha256 ∧ field pairs "row_number" = some (.int r.rowNumber)

/-- The pairs of an object, and the envelope with these values. -/
structure IsEnvelopeValue (stamp : String → DateTime → Prop) (pairs : List (List Nat × Value)) (e : EnvelopeFields) :
    Prop where
  keys : keysAre pairs ENVELOPE_KEYS = true
  schemaVersion : textField pairs "schema_version" = some e.schemaVersion ∧
    e.schemaVersion = PRODUCER_INGEST_REQUEST_SCHEMA_VERSION
  producerId : textField pairs "producer_id" = some e.producerId ∧ IsName ['-'] 128 e.producerId.toList
  requestId : textField pairs "request_id" = some e.requestId ∧ isUuid4 e.requestId = true
  nonce : textField pairs "nonce" = some e.nonce ∧
    ∃ data : Bytes, data.length = 32 ∧ e.nonce = String.ofList (urlsafeB64encode data)
  sourceContract : textField pairs "source_contract" = some e.sourceContract ∧
    IsName ['_', '-'] 64 e.sourceContract.toList
  producedAt : ∃ text, textField pairs "produced_at" = some text ∧ stamp text e.producedAt
  records : ∃ values, field pairs "records" = some (.arr values) ∧ (1 ≤ values.length ∧ values.length ≤ MAX_RECORDS) ∧
    List.Forall₂ IsReference values e.records
  different : (e.records.map ProducerEventReference.identity).Nodup

/-- A body and its envelope. `strict`: no repeated key, no float that is not finite, no `int` that `json` refuses. -/
def IsEnvelopeText (parseFloat : String → PyFloat) (stamp : String → DateTime → Prop) (body : Bytes)
    (e : ProducerEnvelope) : Prop :=
  (1 ≤ body.length ∧ body.length ≤ MAX_REQUEST_BODY_BYTES) ∧ ∃ text pairs, decodeUtf8 body = some text ∧
    loads text = some (.obj pairs) ∧ (Value.obj pairs).strict (acceptsFloat parseFloat) = true ∧
    valueDepth (.obj pairs) ≤ MAX_JSON_DEPTH ∧ IsEnvelopeValue stamp pairs e.toEnvelopeFields

/-- `YYYY-MM-DDTHH:MM:SSZ` in ASCII digits, of a real UTC second. -/
def IsUtcText (text : String) (t : DateTime) : Prop := text.toList = t.utcText ∧ t.microsecond = 0

/-! ## Names -/

theorem matchesName_iff {marks : List Char} {middle : Nat} {cs : List Char} :
    (matchesName marks middle cs && decide (cs.length ≤ middle + 2)) = true ↔ IsName marks (middle + 2) cs := by
  rw [Bool.and_eq_true, decide_eq_true_eq]
  cases cs with
  | nil => exact ⟨fun h => absurd h.1 (by simp [matchesName]), fun h => absurd h.bounds.1 (by simp)⟩
  | cons first rest =>
    rcases List.eq_nil_or_concat rest with rfl | ⟨init, last, rfl⟩
    · simp only [matchesName, List.isEmpty_nil, Bool.true_or, Bool.and_true, List.length_singleton]
      constructor
      · rintro ⟨hfirst, hlen⟩
        exact ⟨⟨Nat.le_refl 1, hlen⟩, fun c hc => .inl (List.mem_singleton.mp hc ▸ hfirst), hfirst, hfirst⟩
      · rintro ⟨⟨-, hlen⟩, -, hfirst, -⟩
        exact ⟨hfirst, hlen⟩
    · have hlast : (first :: (init ++ [last])).getLast? = some last := by
        rw [← List.cons_append, List.getLast?_concat]
      simp only [matchesName, List.concat_eq_append, List.dropLast_concat, List.getLast?_concat, Option.any_some,
        Bool.and_eq_true, Bool.or_eq_true, List.isEmpty_iff, List.append_eq_nil_iff, List.cons_ne_nil, and_false,
        false_or, decide_eq_true_eq, List.all_eq_true, List.contains_iff_mem, List.length_cons, List.length_append,
        List.length_nil]
      constructor
      · rintro ⟨⟨hfirst, ⟨hmiddle, hinit⟩, hend⟩, hlen⟩
        refine ⟨⟨by simp, by simpa using hlen⟩, fun c hc => ?_, hfirst, by rw [hlast]; exact hend⟩
        rcases List.mem_cons.mp hc with rfl | hc
        · exact .inl hfirst
        · rcases List.mem_append.mp hc with hc | hc
          · exact hinit c hc
          · exact .inl (List.mem_singleton.mp hc ▸ hend)
      · rintro ⟨⟨-, hlen⟩, hchars, hfirst, hend⟩
        rw [hlast] at hend
        simp only [List.length_cons, List.length_append, List.length_nil] at hlen
        refine ⟨⟨hfirst, ⟨by omega, fun c hc => hchars c ?_⟩, hend⟩, by omega⟩
        exact List.mem_cons_of_mem _ (List.mem_append_left _ hc)

theorem isProducerId_iff {s : String} : isProducerId s = true ↔ IsName ['-'] 128 s.toList := matchesName_iff

theorem isIdentifier_iff {s : String} : isIdentifier s = true ↔ IsName ['_', '-'] 64 s.toList := matchesName_iff

/-! ## The parts of the decoder -/

section
variable {U : DecimalDigits} {parseFloat : String → PyFloat}

theorem checked_ok {check : String → Bool} {code s : String} {value : Option String} :
    checked check code value = .ok s ↔ value = some s ∧ check s = true := by
  cases value with
  | none => simp [checked]
  | some s' =>
    simp only [checked]
    by_cases h : check s' = true
    · rw [if_pos h]
      constructor
      · intro hs
        obtain rfl := Except.ok.inj hs
        exact ⟨rfl, h⟩
      · rintro ⟨hs, -⟩
        rw [Option.some.inj hs]
    · rw [if_neg h]
      refine ⟨nofun, ?_⟩
      rintro ⟨hs, hc⟩
      exact absurd (Option.some.inj hs ▸ hc) h

theorem timestamp_ok {value : Option String} {t : DateTime} :
    timestamp U value = .ok t ↔ ∃ text, value = some text ∧ DateTime.parseTimestamp U text = some t := by
  unfold timestamp
  cases value with
  | none => simp
  | some text =>
    rw [Option.bind_some]
    cases hp : DateTime.parseTimestamp U text with
    | none => simp [hp]
    | some t' => simp [hp]

theorem batch_ok {value : Option Value} {values : List Value} :
    batch value = .ok values ↔ value = some (.arr values) ∧ 1 ≤ values.length ∧ values.length ≤ MAX_RECORDS := by
  unfold batch
  split
  · rename_i xs
    split_ifs with h
    · constructor
      · intro hs
        obtain rfl := Except.ok.inj hs
        exact ⟨rfl, h⟩
      · rintro ⟨hs, -⟩
        rw [Value.arr.inj (Option.some.inj hs)]
    · refine ⟨nofun, ?_⟩
      rintro ⟨hs, hlen⟩
      exact absurd (Value.arr.inj (Option.some.inj hs) ▸ hlen) h
  · rename_i hne
    exact ⟨nofun, fun h => absurd h.1 (hne values)⟩

theorem new_ok {f : EnvelopeFields} {e : ProducerEnvelope} :
    ProducerEnvelope.new f = .ok e ↔ e.toEnvelopeFields = f := by
  unfold ProducerEnvelope.new
  constructor
  · intro h
    split_ifs at h
    obtain rfl := Except.ok.inj h
    rfl
  · rintro rfl
    rw [dif_pos e.valid]

theorem make_ok {member : Option String} {row : Option Value} {r : ProducerEventReference} :
    ProducerEventReference.make member row = .ok r ↔
      member = some r.sourceMemberSha256 ∧ row = some (.int r.rowNumber) := by
  unfold ProducerEventReference.make
  split
  · rename_i s n
    split_ifs with h
    · constructor
      · intro hr
        obtain rfl := Except.ok.inj hr
        refine ⟨rfl, ?_⟩
        rw [Int.toNat_of_nonneg (by omega)]
      · rintro ⟨hs, hn⟩
        obtain rfl := Option.some.inj hs
        obtain rfl := Value.int.inj (Option.some.inj hn)
        rfl
    · refine ⟨nofun, ?_⟩
      rintro ⟨hs, hn⟩
      obtain rfl := Option.some.inj hs
      obtain rfl := Value.int.inj (Option.some.inj hn)
      exact absurd r.valid h
  · rename_i hne
    refine ⟨nofun, ?_⟩
    rintro ⟨rfl, rfl⟩
    exact absurd rfl (hne _ _ rfl)

theorem decodeReference_ok {value : Value} {r : ProducerEventReference} :
    decodeReference value = .ok r ↔ IsReference value r := by
  unfold decodeReference
  split
  · rename_i pairs
    split_ifs with hkeys
    · rw [make_ok]
      constructor
      · rintro ⟨hs, hn⟩
        exact ⟨pairs, rfl, hkeys, hs, hn⟩
      · rintro ⟨pairs', hv, -, hs, hn⟩
        rw [Value.obj.inj hv]
        exact ⟨hs, hn⟩
    · refine ⟨nofun, ?_⟩
      rintro ⟨pairs', hv, hkeys', -⟩
      exact absurd (Value.obj.inj hv ▸ hkeys') hkeys
  · rename_i hne
    refine ⟨nofun, ?_⟩
    rintro ⟨pairs, hv, -⟩
    exact absurd hv (hne pairs)

/-- The loop keeps the identities different. -/
theorem decodeReferences_ok {values : List Value} {records out : List ProducerEventReference}
    (h : (records.map ProducerEventReference.identity).Nodup) :
    decodeReferences records values = .ok out ↔ ∃ rs, out = records ++ rs ∧ List.Forall₂ IsReference values rs ∧
      (out.map ProducerEventReference.identity).Nodup := by
  induction values generalizing records with
  | nil =>
    rw [decodeReferences]
    constructor
    · intro hout
      obtain rfl := Except.ok.inj hout
      exact ⟨[], (List.append_nil _).symm, .nil, h⟩
    · rintro ⟨rs, rfl, hrs, -⟩
      rw [List.forall₂_nil_left_iff.mp hrs, List.append_nil]
  | cons value values ih =>
    rw [decodeReferences, Except.bind_eq_ok]
    constructor
    · rintro ⟨r, hr, hout⟩
      rw [decodeReference_ok] at hr
      split_ifs at hout with hseen
      rw [List.contains_iff_mem] at hseen
      have hnodup : ((records ++ [r]).map ProducerEventReference.identity).Nodup := by
        rw [List.map_append, List.map_singleton, List.nodup_append]
        exact ⟨h, List.nodup_singleton _, fun a ha b hb heq => hseen (List.mem_singleton.mp hb ▸ heq ▸ ha)⟩
      obtain ⟨rs, rfl, hrs, hdifferent⟩ := (ih hnodup).mp hout
      exact ⟨r :: rs, by rw [List.append_assoc]; rfl, .cons hr hrs, hdifferent⟩
    · rintro ⟨rs, rfl, hrs, hdifferent⟩
      cases hrs with
      | @cons _ r _ rs hr hrs =>
        refine ⟨r, decodeReference_ok.mpr hr, ?_⟩
        have hassoc : records ++ r :: rs = (records ++ [r]) ++ rs := by rw [List.append_assoc]; rfl
        have hnodup : ((records ++ [r]).map ProducerEventReference.identity).Nodup := by
          rw [hassoc, List.map_append] at hdifferent
          exact (List.nodup_append.mp hdifferent).1
        have hseen : ¬ (records.map ProducerEventReference.identity).contains r.identity = true := by
          rw [List.contains_iff_mem]
          intro hmem
          rw [List.map_append, List.map_singleton, List.nodup_append] at hnodup
          exact hnodup.2.2 _ hmem _ (List.mem_singleton_self _) rfl
        rw [if_neg hseen]
        exact (ih hnodup).mpr ⟨rs, hassoc, hrs, hdifferent⟩

/-- `_parse_timestamp` as a relation. -/
def Stamped (U : DecimalDigits) (text : String) (t : DateTime) : Prop := DateTime.parseTimestamp U text = some t

theorem decodeEnvelope_ok {payload : Value} {e : ProducerEnvelope} :
    decodeEnvelope U payload = .ok e ↔
      ∃ pairs, payload = .obj pairs ∧ IsEnvelopeValue (Stamped U) pairs e.toEnvelopeFields := by
  unfold decodeEnvelope
  split
  · rename_i pairs
    have hnil : (([] : List ProducerEventReference).map ProducerEventReference.identity).Nodup := List.nodup_nil
    by_cases hkeys : keysAre pairs ENVELOPE_KEYS = false
    · rw [if_pos hkeys]
      refine ⟨nofun, ?_⟩
      rintro ⟨pairs', hv, h⟩
      rw [← Value.obj.inj hv] at h
      rw [h.keys] at hkeys
      cases hkeys
    · rw [if_neg hkeys]
      rw [Bool.not_eq_false] at hkeys
      simp only [Except.bind_eq_ok, checked_ok, timestamp_ok, batch_ok, decodeReferences_ok hnil, new_ok, beq_iff_eq,
        List.nil_append]
      constructor
      · rintro ⟨v, ⟨hv, hv'⟩, p, ⟨hp, hp'⟩, i, ⟨hi, hi'⟩, n, ⟨hn, hn'⟩, c, ⟨hc, hc'⟩, t, ⟨text, htext, ht⟩,
          values, ⟨hvalues, hlen⟩, rs, ⟨rs', rfl, hrs, hdifferent⟩, he⟩
        refine ⟨pairs, rfl, ?_⟩
        rw [he]
        exact ⟨hkeys, ⟨hv, hv'⟩, ⟨hp, isProducerId_iff.mp hp'⟩, ⟨hi, hi'⟩, ⟨hn, isNonce_iff.mp hn'⟩,
          ⟨hc, isIdentifier_iff.mp hc'⟩, ⟨text, htext, ht⟩, ⟨values, hvalues, hlen, hrs⟩, hdifferent⟩
      · rintro ⟨pairs', hv, h⟩
        obtain rfl := Value.obj.inj hv
        obtain ⟨text, htext, ht⟩ := h.producedAt
        obtain ⟨values, hvalues, hlen, hrs⟩ := h.records
        exact ⟨_, h.schemaVersion, _, ⟨h.producerId.1, isProducerId_iff.mpr h.producerId.2⟩, _, h.requestId, _,
          ⟨h.nonce.1, isNonce_iff.mpr h.nonce.2⟩, _, ⟨h.sourceContract.1, isIdentifier_iff.mpr h.sourceContract.2⟩, _,
          ⟨text, htext, ht⟩, values, ⟨hvalues, hlen⟩, _, ⟨_, rfl, hrs, h.different⟩, rfl⟩
  · rename_i hne
    refine ⟨nofun, ?_⟩
    rintro ⟨pairs, hv, -⟩
    exact absurd hv (hne pairs)

theorem strictLoads_eq {text : List Char} {v : Value} :
    strictLoads parseFloat text = some v ↔ loads text = some v ∧ v.strict (acceptsFloat parseFloat) = true := by
  unfold strictLoads
  cases hl : loads text with
  | none => simp
  | some w =>
    simp only [Option.some.injEq]
    split_ifs with hw
    · constructor
      · rintro hv
        obtain rfl := Option.some.inj hv
        exact ⟨rfl, hw⟩
      · rintro ⟨rfl, -⟩
        rfl
    · refine ⟨nofun, ?_⟩
      rintro ⟨rfl, hv⟩
      exact absurd hv hw

/-- **The decoder accepts the grammar, with `_parse_timestamp` for the times.** -/
theorem decodeProducerEnvelope_ok {body : Bytes} {e : ProducerEnvelope} :
    decodeProducerEnvelope U parseFloat body = .ok e ↔ IsEnvelopeText parseFloat (Stamped U) body e := by
  unfold decodeProducerEnvelope IsEnvelopeText
  by_cases hsize : body = [] ∨ MAX_REQUEST_BODY_BYTES < body.length
  · rw [if_pos hsize]
    refine ⟨nofun, fun h => ?_⟩
    rcases hsize with rfl | hsize
    · exact absurd h.1.1 (by simp)
    · exact absurd h.1.2 (Nat.not_le_of_lt hsize)
  · rw [if_neg hsize]
    have hbounds : 1 ≤ body.length ∧ body.length ≤ MAX_REQUEST_BODY_BYTES :=
      ⟨List.length_pos_iff.mpr fun h => hsize (.inl h), Nat.le_of_not_lt fun h => hsize (.inr h)⟩
    cases hutf : decodeUtf8 body with
    | none => simp
    | some text =>
      constructor
      · intro h
        cases hdepth : enforceJsonDepth 0 false false text with
        | error err => simp [hdepth] at h
        | ok u =>
          simp only [hdepth] at h
          cases hstrict : strictLoads parseFloat text with
          | none => simp [hstrict] at h
          | some payload =>
            simp only [hstrict] at h
            obtain ⟨hloads, hs⟩ := strictLoads_eq.mp hstrict
            obtain ⟨pairs, rfl, hvalue⟩ := decodeEnvelope_ok.mp h
            refine ⟨hbounds, text, pairs, rfl, hloads, hs, ?_, hvalue⟩
            rw [enforceJsonDepth_loads hloads] at hdepth
            by_contra hdeep
            rw [if_neg hdeep] at hdepth
            cases hdepth
      · rintro ⟨-, text', pairs, htext, hloads, hs, hdepth, hvalue⟩
        obtain rfl := Option.some.inj htext
        have hscan := enforceJsonDepth_loads hloads
        rw [if_pos hdepth] at hscan
        simp only [hscan, strictLoads_eq.mpr ⟨hloads, hs⟩]
        exact decodeEnvelope_ok.mpr ⟨pairs, rfl, hvalue⟩

/-! ## The times -/

theorem IsEnvelopeValue.mono {stamp stamp' : String → DateTime → Prop} {pairs : List (List Nat × Value)}
    {e : EnvelopeFields} (h : IsEnvelopeValue stamp pairs e)
    (hstamp : ∀ text, textField pairs "produced_at" = some text → stamp text e.producedAt → stamp' text e.producedAt) :
    IsEnvelopeValue stamp' pairs e := by
  obtain ⟨text, htext, ht⟩ := h.producedAt
  exact { h with producedAt := ⟨text, htext, hstamp text htext ht⟩ }

theorem IsEnvelopeText.mono {stamp stamp' : String → DateTime → Prop} {body : Bytes} {e : ProducerEnvelope}
    (h : IsEnvelopeText parseFloat stamp body e) (hstamp : ∀ text t, stamp text t → stamp' text t) :
    IsEnvelopeText parseFloat stamp' body e := by
  obtain ⟨hbounds, text, pairs, htext, hloads, hs, hdepth, hvalue⟩ := h
  exact ⟨hbounds, text, pairs, htext, hloads, hs, hdepth, hvalue.mono fun text _ => hstamp text _⟩

theorem isUtcText_iff {text : String} {t : DateTime} : IsUtcText text t ↔ Stamped U text t ∧ IsAscii text.toList := by
  constructor
  · intro h
    have hascii : IsAscii text.toList := h.1 ▸ DateTime.isAscii_utcText t
    exact ⟨(DateTime.parseTimestamp_ascii hascii).mpr h, hascii⟩
  · rintro ⟨ht, hascii⟩
    exact (DateTime.parseTimestamp_ascii hascii).mp ht

/-- The text of a body has one `produced_at`. -/
theorem not_utcText_of_wide {body : Bytes} {e : ProducerEnvelope}
    (h : IsEnvelopeText parseFloat (fun text t => DateTime.parseTimestamp U text = some t ∧ ¬ IsAscii text.toList) body e)
    (e' : ProducerEnvelope) : ¬ IsEnvelopeText parseFloat IsUtcText body e' := by
  rintro ⟨-, text', pairs', htext', hloads', -, -, hvalue'⟩
  obtain ⟨-, text, pairs, htext, hloads, -, -, hvalue⟩ := h
  obtain rfl := Option.some.inj (htext.symm.trans htext')
  obtain rfl := Value.obj.inj (Option.some.inj (hloads.symm.trans hloads'))
  obtain ⟨time, htime, -, hascii⟩ := hvalue.producedAt
  obtain ⟨time', htime', hutc⟩ := hvalue'.producedAt
  obtain rfl := Option.some.inj (htime.symm.trans htime')
  exact hascii ((isUtcText_iff (U := U)).mp hutc).2

/-- **The decoder accepts exactly its grammar** on every body but those whose `produced_at` has a decimal digit that
is not ASCII, where `_parse_timestamp` takes it and the rest is in order. -/
theorem envelope_decoding (U : DecimalDigits) (parseFloat : String → PyFloat) (body : Bytes) :
    (∀ e, decodeProducerEnvelope U parseFloat body = .ok e ↔ IsEnvelopeText parseFloat IsUtcText body e) ↔
      ¬ ∃ e, IsEnvelopeText parseFloat
        (fun text t => DateTime.parseTimestamp U text = some t ∧ ¬ IsAscii text.toList) body e := by
  constructor
  · rintro h ⟨e, he⟩
    have hwide : IsEnvelopeText parseFloat (Stamped U) body e := he.mono fun _ _ ht => ht.1
    exact not_utcText_of_wide he e ((h e).mp (decodeProducerEnvelope_ok.mpr hwide))
  · intro h e
    rw [decodeProducerEnvelope_ok]
    constructor
    · intro he
      have hascii : ¬ IsEnvelopeText parseFloat
          (fun text t => DateTime.parseTimestamp U text = some t ∧ ¬ IsAscii text.toList) body e := fun hw => h ⟨e, hw⟩
      obtain ⟨hbounds, text, pairs, htext, hloads, hs, hdepth, hvalue⟩ := he
      refine ⟨hbounds, text, pairs, htext, hloads, hs, hdepth, hvalue.mono fun time htime ht => ?_⟩
      by_contra hutc
      refine hascii ⟨hbounds, text, pairs, htext, hloads, hs, hdepth, hvalue.mono fun time' htime' ht' => ?_⟩
      obtain rfl := Option.some.inj (htime.symm.trans htime')
      exact ⟨ht', fun ha => hutc ((isUtcText_iff (U := U)).mpr ⟨ht', ha⟩)⟩
    · intro he
      exact he.mono fun _ _ ht => (isUtcText_iff.mp ht).1

/-! ## A body for each envelope -/

def referenceJson (r : ProducerEventReference) : Json :=
  .obj [("source_member_sha256", .str r.sourceMemberSha256), ("row_number", .int r.rowNumber)]

/-- The body of an envelope, with the text of its time. -/
def envelopeJson (time : String) (e : EnvelopeFields) : Json :=
  .obj [("schema_version", .str e.schemaVersion), ("producer_id", .str e.producerId), ("request_id", .str e.requestId),
    ("produced_at", .str time), ("nonce", .str e.nonce), ("source_contract", .str e.sourceContract),
    ("records", .arr (e.records.map referenceJson))]

theorem isReference_json (r : ProducerEventReference) : IsReference (referenceJson r).value r := by
  refine ⟨_, rfl, ?_, ?_, ?_⟩
  · simp [fieldValues, keysAre, field, RECORD_KEYS]
  · simp [fieldValues, textField, field, Json.value]
  · simp [fieldValues, field, Json.value]

theorem references_json : ∀ rs : List ProducerEventReference,
    List.Forall₂ IsReference (itemValues (rs.map referenceJson)) rs
  | [] => .nil
  | r :: rs => by
    rw [List.map_cons, itemValues]
    exact .cons (isReference_json r) (references_json rs)

theorem strict_references (parseFloat : String → PyFloat) : ∀ rs : List ProducerEventReference,
    strictItems (acceptsFloat parseFloat) (itemValues (rs.map referenceJson)) = true
  | [] => rfl
  | r :: rs => by
    have hrow : (Nat.toDigits 10 r.rowNumber).length ≤ MAX_INT_DIGITS := by
      have hsmall : r.rowNumber < 10 ^ 19 := Nat.lt_of_le_of_lt r.valid.2.2 (by decide)
      exact Nat.le_trans ((Nat.length_toDigits_le_iff (by decide) (by decide)).2 hsmall) (by decide)
    rw [List.map_cons, itemValues, strictItems, strict_references parseFloat rs, Bool.and_true]
    simp [referenceJson, Json.value, fieldValues, Value.strict, strictPairs, points_inj, hrow]

theorem readable_references : ∀ rs : List ProducerEventReference, ReadableItems (rs.map referenceJson)
  | [] => trivial
  | r :: rs => by
    rw [List.map_cons, ReadableItems]
    exact ⟨by simp [referenceJson, Readable, ReadableFields], readable_references rs⟩

theorem depth_references : ∀ rs : List ProducerEventReference, valuesDepth (itemValues (rs.map referenceJson)) ≤ 1
  | [] => Nat.zero_le 1
  | r :: rs => by
    rw [List.map_cons, itemValues, valuesDepth]
    exact Nat.max_le.mpr ⟨by simp [referenceJson, Json.value, fieldValues, valueDepth, pairsDepth], depth_references rs⟩

/-- **An envelope written with a text of its time is read back.** -/
theorem isEnvelopeText_json {stamp : String → DateTime → Prop} {time : String} {e : ProducerEnvelope}
    (htime : stamp time e.producedAt)
    (hsize : (render (envelopeJson time e.toEnvelopeFields)).length + 1 ≤ MAX_REQUEST_BODY_BYTES) :
    IsEnvelopeText parseFloat stamp (asciiLine (render (envelopeJson time e.toEnvelopeFields))) e := by
  have hreadable : Readable (envelopeJson time e.toEnvelopeFields) := by
    simp [envelopeJson, Readable, ReadableFields, readable_references]
  have hrefs := depth_references e.records
  have hvalid := e.valid
  simp only [EnvelopeFields.accepted, Bool.and_eq_true, beq_iff_eq, decide_eq_true_eq] at hvalid
  obtain ⟨⟨⟨⟨⟨⟨hversion, hproducer⟩, hrequest⟩, hnonce⟩, hsource⟩, hlen⟩, hdifferent⟩ := hvalid
  refine ⟨by rw [length_asciiLine]; exact ⟨Nat.succ_pos _, hsize⟩, _, _, decodeUtf8_asciiLine (render_ascii hreadable),
    loads_render hreadable ['\n'] (fun c hc => List.mem_singleton.mp hc ▸ rfl), ?_, ?_, ?_⟩
  · have hstrict := strict_references parseFloat e.records
    simp [fieldValues, Json.value, Value.strict, strictPairs, points_inj, hstrict]
  · simp only [fieldValues, Json.value, valueDepth, pairsDepth, MAX_JSON_DEPTH]
    omega
  · constructor
    · simp [fieldValues, keysAre, field, ENVELOPE_KEYS]
    · exact ⟨by simp [fieldValues, textField, field, Json.value], hversion⟩
    · exact ⟨by simp [fieldValues, textField, field, Json.value], isProducerId_iff.mp hproducer⟩
    · exact ⟨by simp [fieldValues, textField, field, Json.value], hrequest⟩
    · exact ⟨by simp [fieldValues, textField, field, Json.value], isNonce_iff.mp hnonce⟩
    · exact ⟨by simp [fieldValues, textField, field, Json.value], isIdentifier_iff.mp hsource⟩
    · exact ⟨time, by simp [fieldValues, textField, field, Json.value], htime⟩
    · have hall := references_json e.records
      exact ⟨_, by simp [fieldValues, field, Json.value], by rw [hall.length_eq]; exact hlen, hall⟩
    · exact hdifferent

end

/-! ## A year in Arabic-Indic digits -/

/-- ASCII digits and Arabic-Indic ones. -/
def arabicDigits : DecimalDigits where
  value c :=
    if c.toNat < 128 then Numeral.readDigit c
    else if 0x660 ≤ c.toNat ∧ c.toNat ≤ 0x669 then some (c.toNat - 0x660) else none
  ascii c hc := if_pos hc
  lt := by
    intro c d h
    split_ifs at h with hascii harabic
    · exact (DateTime.readDigit_eq h).2
    · obtain rfl := Option.some.inj h
      omega

def arabicYear : String := "\u0662\u0660\u0662\u0666-09-12T12:00:00Z"

theorem noon_valid : 12 < 24 ∧ 0 < 60 ∧ 0 < 60 ∧ 0 < 1000000 := by decide

def noon : DateTime := ⟨2026, 9, 12, 12, 0, 0, 0, of_decide_eq_true rfl, noon_valid⟩

def sampleMember : String := "4f2a9c0e7b61d3858f0e2b7a6c94d1135e8f70b2a9c3d64718e5f02b9d7c6a31"

def sampleEnvelope : ProducerEnvelope where
  schemaVersion := PRODUCER_INGEST_REQUEST_SCHEMA_VERSION
  producerId := REGISTERED_UNSW_PRODUCER_ID
  requestId := "8a1f6c3e-2b7d-4e90-9c45-d0b3a7e61f28"
  producedAt := noon
  nonce := "AAAAAAAAAAAAAAAAAAAAAAAAAAAAAAAAAAAAAAAAAAA"
  sourceContract := REGISTERED_UNSW_SOURCE_CONTRACT
  records := [⟨sampleMember, 1, by decide +kernel⟩]
  valid := by decide +kernel

def arabicBody : Bytes := asciiLine (render (envelopeJson arabicYear sampleEnvelope.toEnvelopeFields))

theorem parse_arabicYear :
    DateTime.parseTimestamp arabicDigits arabicYear = some noon ∧ ¬ IsAscii arabicYear.toList := by
  constructor
  · decide +kernel
  · decide +kernel

/-- **The decoder accepts a year in digits that are not ASCII.** -/
theorem arabic_year_accepted :
    decodeProducerEnvelope arabicDigits (fun t => .nonFinite t) arabicBody = .ok sampleEnvelope ∧
      ∀ e, ¬ IsEnvelopeText (fun t => .nonFinite t) IsUtcText arabicBody e := by
  have hsize : (render (envelopeJson arabicYear sampleEnvelope.toEnvelopeFields)).length + 1 ≤
      MAX_REQUEST_BODY_BYTES := by decide +kernel
  have hwide : IsEnvelopeText (fun t => .nonFinite t)
      (fun text t => DateTime.parseTimestamp arabicDigits text = some t ∧ ¬ IsAscii text.toList) arabicBody
      sampleEnvelope := isEnvelopeText_json parse_arabicYear hsize
  exact ⟨decodeProducerEnvelope_ok.mpr (hwide.mono fun _ _ ht => ht.1), not_utcText_of_wide hwide⟩

end ThreatFusion.Admission
