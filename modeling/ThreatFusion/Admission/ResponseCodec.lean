import ThreatFusion.Admission.Response
import ThreatFusion.Lib.JsonParse
/-
# `decode_producer_response`: the reader of a cached response

`api/producer_admission.py`. The writer and the reader have their own tables of keys, per schema version and per
record; the dataclasses check once more what the reader has built.

| here | there |
| --- | --- |
| `enforceJsonDepth`       | `_enforce_json_depth` (:479-503) |
| `strictLoads`            | `json.loads` with `_object_without_duplicates`, `_finite_float`, `_reject_constant` |
| `decodeRecord`           | the loop of `decode_producer_response` (:847-897) |
| `decodeProducerResponse` | `decode_producer_response` (:814-903) |

`float(text)` is a parameter: only that it reads back what `repr` wrote is used of it.

* `decode_serialize`: what the writer wrote, the reader reads.
* `response_round_trip`: and no two responses have one text.
-/
namespace ThreatFusion.Admission
open Py JsonText

def MAX_JSON_DEPTH : Nat := 4

/-- The codes of `ProducerAdmissionError` that the reader raises. -/
inductive ResponseDecodeError where
  | responseInvalid | jsonDepthExceeded | invalidJson
deriving DecidableEq, Repr

def ResponseDecodeError.code : ResponseDecodeError → String
  | .responseInvalid => "response_invalid"
  | .jsonDepthExceeded => "json_depth_exceeded"
  | .invalidJson => "invalid_json"

/-- The loop over the characters, with its three variables. -/
def enforceJsonDepth : Nat → Bool → Bool → List Char → Except ResponseDecodeError Unit
  | _, _, _, [] => .ok ()
  | depth, true, true, _ :: text => enforceJsonDepth depth true false text
  | depth, true, false, c :: text =>
    if c = '\\' then enforceJsonDepth depth true true text
    else if c = '"' then enforceJsonDepth depth false false text
    else enforceJsonDepth depth true false text
  | depth, false, escaped, c :: text =>
    if c = '"' then enforceJsonDepth depth true escaped text
    else if c = '[' ∨ c = '\x7b' then
      if MAX_JSON_DEPTH < depth + 1 then .error .jsonDepthExceeded
      else enforceJsonDepth (depth + 1) false escaped text
    else if c = ']' ∨ c = '\x7d' then
      if depth = 0 then .error .invalidJson
      else enforceJsonDepth (depth - 1) false escaped text
    else enforceJsonDepth depth false escaped text

def ResponseDisposition.ofText? (s : String) : Option ResponseDisposition :=
  [.created, .existing, .notActionable, .rejected, .duplicate, .outcomeUnknown].find?
    fun d => ResponseDisposition.text d == s

def ResponseReason.ofText? (s : String) : Option ResponseReason :=
  [.requestCompleted, .requestRejected, .requestInProgress, .requestReplayRejected, .outcomeUnknown,
    .alertCandidateCreated, .alertCandidateAlreadyExists, .alertCandidateIdentityConflict, .inferenceNotActionable,
    .registeredEventInvalid, .registeredEventUnavailable, .registeredEventRejected, .rateLimited, .serverBusy,
    .auditUnavailable, .internalError, .processingTimeout, .inferenceRejected].find?
    fun r => ResponseReason.text r == s

def PredictedClass.ofText? (s : String) : Option PredictedClass :=
  [.normal, .attack].find? fun c => PredictedClass.text c == s

def ResponseSchema.ofText? (s : String) : Option ResponseSchema :=
  [.v1, .v2].find? fun v => ResponseSchema.text v == s

section
variable (parseFloat : String → PyFloat)

def isFiniteFloat : PyFloat → Bool
  | .finite _ _ => true
  | .nonFinite _ => false

/-- `_finite_float`, and `_reject_constant` for the three words that are floats. -/
def acceptsFloat (t : String) : Bool := !(["NaN", "Infinity", "-Infinity"].contains t) && isFiniteFloat (parseFloat t)

def strictLoads (text : List Char) : Option Value :=
  match loads text with
  | none => none
  | some v => if v.strict (acceptsFloat parseFloat) then some v else none

/-- The keys a record may have (:848-860). -/
def allowedKeys : ResponseSchema → List String
  | .v1 => ["record_index", "disposition", "reason"]
  | .v2 => ["record_index", "disposition", "reason", "predicted_class", "attack_probability", "alert_candidate_id"]

/-- The keys a record must have (:887-891). -/
def expectedKeys (r : RecordDispositionFields) : List String :=
  ["record_index", "disposition", "reason"] ++
    (if r.predictedClass.isSome then ["predicted_class", "attack_probability"] else []) ++
    (if r.alertCandidateId.isSome then ["alert_candidate_id"] else [])

/-- `value.get(key)` where the dataclass takes `None` or what `read` accepts. -/
def optional {α : Type} (read : Value → Option α) : Option Value → Option (Option α)
  | none => some none
  | some .null => some none
  | some v => (read v).map some

/-- The arguments of `ProducerRecordDisposition`; `none` where a type or a table refuses one. -/
def recordFields (pairs : List (List Nat × Value)) : Option RecordDispositionFields := do
  let recordIndex ← match field pairs "record_index" with
    | some (.int n) => if n < 0 then none else some n.toNat
    | _ => none
  let disposition ← (field pairs "disposition").bind fun v => v.text?.bind ResponseDisposition.ofText?
  let reason ← (field pairs "reason").bind fun v => v.text?.bind ResponseReason.ofText?
  let predictedClass ← optional (fun v => v.text?.bind PredictedClass.ofText?) (field pairs "predicted_class")
  let attackProbability ← optional (fun v => match v with
    | .float t => some (parseFloat t)
    | _ => none) (field pairs "attack_probability")
  let alertCandidateId ← optional Value.text? (field pairs "alert_candidate_id")
  some { recordIndex, disposition, reason, predictedClass, attackProbability, alertCandidateId }

def decodeRecord (schema : ResponseSchema) (value : Value) : Option ProducerRecordDisposition :=
  match value with
  | .obj pairs =>
    if !((["record_index", "disposition", "reason"].all fun k => (field pairs k).isSome) &&
        pairs.all fun p => (allowedKeys schema).any fun k => p.1 == points k) then none
    else if (field pairs "predicted_class").isSome != (field pairs "attack_probability").isSome then none
    else match recordFields parseFloat pairs with
      | none => none
      | some fields => match ProducerRecordDisposition.new fields with
        | none => none
        | some record => if keysAre pairs (expectedKeys fields) then some record else none
  | _ => none

def decodeRecords (schema : ResponseSchema) : List Value → Option (List ProducerRecordDisposition)
  | [] => some []
  | v :: vs => match decodeRecord parseFloat schema v with
    | none => none
    | some record => (decodeRecords schema vs).map (record :: ·)

/-- From the parsed payload on (:834-903). -/
def decodePayload (payload : Value) : Option ProducerResponse :=
  match payload with
  | .obj pairs =>
    if !keysAre pairs ["schema_version", "correlation_id", "reason", "records"] then none
    else do
      let values ← match field pairs "records" with
        | some (.arr values) => some values
        | _ => none
      let schema ← (field pairs "schema_version").bind fun v => v.text?.bind ResponseSchema.ofText?
      let records ← decodeRecords parseFloat schema values
      let correlationId ← (field pairs "correlation_id").bind Value.text?
      let reason ← (field pairs "reason").bind fun v => v.text?.bind ResponseReason.ofText?
      ProducerResponse.new ⟨schema, correlationId, reason, records⟩
  | _ => none

def decodeProducerResponse (encoded : Bytes) : Except ResponseDecodeError ProducerResponse :=
  if ¬ (1 ≤ encoded.length ∧ encoded.length ≤ MAX_RESPONSE_BYTES) then .error .responseInvalid
  else match decodeUtf8 encoded with
    | none => .error .responseInvalid
    | some text => match enforceJsonDepth 0 false false text with
      | .error e => .error e
      | .ok () => match (strictLoads parseFloat text).bind (decodePayload parseFloat) with
        | none => .error .responseInvalid
        | some response => .ok response

end

/-! ## The depth of a text -/

mutual
/-- How deep brackets are nested. -/
def depth : Json → Nat
  | .arr xs => itemsDepth xs + 1
  | .obj fields => fieldsDepth fields + 1
  | _ => 0

def itemsDepth : List Json → Nat
  | [] => 0
  | x :: xs => max (depth x) (itemsDepth xs)

def fieldsDepth : List (String × Json) → Nat
  | [] => 0
  | (_, v) :: rest => max (depth v) (fieldsDepth rest)
end

/-- Neither a quote nor a bracket. -/
def PlainText (t : List Char) : Prop :=
  ∀ c ∈ t, c ≠ '"' ∧ ¬ (c = '[' ∨ c = '\x7b') ∧ ¬ (c = ']' ∨ c = '\x7d')

theorem enforceJsonDepth_plain {d : Nat} {rest : List Char} : ∀ {t : List Char}, PlainText t →
    enforceJsonDepth d false false (t ++ rest) = enforceJsonDepth d false false rest
  | [], _ => rfl
  | c :: t, h => by
    have hc := h c List.mem_cons_self
    rw [List.cons_append, enforceJsonDepth, if_neg hc.1, if_neg hc.2.1, if_neg hc.2.2]
    exact enforceJsonDepth_plain fun c' hc' => h c' (List.mem_cons_of_mem c hc')

theorem plainText_number {t : List Char} (h : ∀ c ∈ t, numberChar c = true) : PlainText t := by
  intro c hc
  have hn := h c hc
  refine ⟨?_, ?_, ?_⟩
  · rintro rfl
    exact absurd hn (by decide)
  · rintro (rfl | rfl) <;> exact absurd hn (by decide)
  · rintro (rfl | rfl) <;> exact absurd hn (by decide)

theorem enforceJsonDepth_inString {d : Nat} {c : Char} (hb : c ≠ '\\') (hq : c ≠ '"') (rest : List Char) :
    enforceJsonDepth d true false (c :: rest) = enforceJsonDepth d true false rest := by
  rw [enforceJsonDepth, if_neg hb, if_neg hq]

theorem enforceJsonDepth_escaped (d : Nat) (c : Char) (rest : List Char) :
    enforceJsonDepth d true false ('\\' :: c :: rest) = enforceJsonDepth d true false rest := by
  rw [enforceJsonDepth, if_pos rfl, enforceJsonDepth]

theorem enforceJsonDepth_unicode (d n : Nat) (rest : List Char) :
    enforceJsonDepth d true false (unicodeEscape n ++ rest) = enforceJsonDepth d true false rest := by
  have hdigit (k : Nat) (rest : List Char) :
      enforceJsonDepth d true false (hexDigit (k % 16) :: rest) = enforceJsonDepth d true false rest :=
    enforceJsonDepth_inString (hexDigit_mod k).2.2 (hexDigit_mod k).2.1 rest
  simp only [unicodeEscape, List.cons_append, List.nil_append]
  rw [enforceJsonDepth_escaped, hdigit, hdigit, hdigit, hdigit]

theorem enforceJsonDepth_escape (d : Nat) (c : Char) (rest : List Char) :
    enforceJsonDepth d true false (escape c ++ rest) = enforceJsonDepth d true false rest := by
  rcases escape_cases c with ⟨hplain, he⟩ | ⟨-, e, he, -, -⟩ | ⟨-, he⟩ | ⟨-, he⟩ <;> rw [he]
  · simp only [isPlain, Bool.and_eq_true, bne_iff_ne] at hplain
    exact enforceJsonDepth_inString hplain.2 hplain.1.2 rest
  · exact enforceJsonDepth_escaped d e rest
  · exact enforceJsonDepth_unicode d _ rest
  · rw [List.append_assoc, enforceJsonDepth_unicode, enforceJsonDepth_unicode]

theorem enforceJsonDepth_quote (d : Nat) (s : String) (rest : List Char) :
    enforceJsonDepth d false false (quote s ++ rest) = enforceJsonDepth d false false rest := by
  have body : ∀ cs : List Char, enforceJsonDepth d true false (cs.flatMap escape ++ '"' :: rest) =
      enforceJsonDepth d false false rest := by
    intro cs
    induction cs with
    | nil => rw [List.flatMap_nil, List.nil_append, enforceJsonDepth, if_neg (by decide), if_pos rfl]
    | cons c cs ih => rw [List.flatMap_cons, List.append_assoc, enforceJsonDepth_escape, ih]
  rw [quote, List.cons_append, enforceJsonDepth, if_pos rfl, List.append_assoc]
  exact body s.toList

theorem enforceJsonDepth_brackets {o c : Char} {t rest : List Char} {d : Nat} (ho : o = '[' ∨ o = '\x7b')
    (hc : c = ']' ∨ c = '\x7d') (hd : d + 1 ≤ MAX_JSON_DEPTH)
    (ht : enforceJsonDepth (d + 1) false false (t ++ c :: rest) = enforceJsonDepth (d + 1) false false (c :: rest)) :
    enforceJsonDepth d false false (o :: (t ++ [c]) ++ rest) = enforceJsonDepth d false false rest := by
  have hq : o ≠ '"' := by rcases ho with rfl | rfl <;> decide
  have hcq : c ≠ '"' ∧ ¬ (c = '[' ∨ c = '\x7b') := by rcases hc with rfl | rfl <;> decide
  rw [List.cons_append, List.append_assoc, List.singleton_append, enforceJsonDepth, if_neg hq, if_pos ho,
    if_neg (Nat.not_lt.2 hd), ht, enforceJsonDepth, if_neg hcq.1, if_neg hcq.2, if_pos hc, if_neg (Nat.succ_ne_zero d)]
  rfl

theorem enforceJsonDepth_comma (d : Nat) (rest : List Char) :
    enforceJsonDepth d false false (',' :: rest) = enforceJsonDepth d false false rest := by
  rw [enforceJsonDepth, if_neg (by decide), if_neg (by decide), if_neg (by decide)]

mutual
theorem enforceJsonDepth_render : ∀ {j : Json} {d : Nat} {rest : List Char}, Readable j → d + depth j ≤ MAX_JSON_DEPTH →
    enforceJsonDepth d false false (render j ++ rest) = enforceJsonDepth d false false rest
  | .null, _, _, _, _ => by
    rw [render]
    exact enforceJsonDepth_plain (forall_of_all (by decide))
  | .bool b, _, _, _, _ => by
    rw [render]
    exact enforceJsonDepth_plain (forall_of_all (by cases b <;> decide))
  | .int n, _, _, _, _ => by
    rw [render]
    exact enforceJsonDepth_plain (plainText_number (numberChar_int n))
  | .float digits, _, _, hj, _ => by
    rw [Readable] at hj
    rw [render]
    exact enforceJsonDepth_plain (plainText_number (numberChar_float hj))
  | .str s, d, rest, _, _ => by
    rw [render]
    exact enforceJsonDepth_quote d s rest
  | .arr xs, d, rest, hj, hd => by
    rw [Readable] at hj
    rw [depth] at hd
    rw [render]
    exact enforceJsonDepth_brackets (.inl rfl) (.inl rfl) (by omega) (enforceJsonDepth_items hj (by omega))
  | .obj fields, d, rest, hj, hd => by
    rw [Readable] at hj
    rw [depth] at hd
    rw [render]
    exact enforceJsonDepth_brackets (.inr rfl) (.inr rfl) (by omega) (enforceJsonDepth_fields hj (by omega))

theorem enforceJsonDepth_items : ∀ {xs : List Json} {d : Nat} {rest : List Char}, ReadableItems xs →
    d + itemsDepth xs ≤ MAX_JSON_DEPTH → enforceJsonDepth d false false (joinComma (renderItems xs) ++ rest) =
      enforceJsonDepth d false false rest
  | [], _, _, _, _ => rfl
  | [x], d, rest, hxs, hd => by
    rw [ReadableItems] at hxs
    rw [itemsDepth] at hd
    exact enforceJsonDepth_render hxs.1 (by omega)
  | x :: y :: ys, d, rest, hxs, hd => by
    rw [ReadableItems] at hxs
    rw [itemsDepth] at hd
    have htext : joinComma (renderItems (x :: y :: ys)) = render x ++ ',' :: joinComma (renderItems (y :: ys)) := rfl
    rw [htext, List.append_assoc, List.cons_append, enforceJsonDepth_render hxs.1 (by omega), enforceJsonDepth_comma,
      enforceJsonDepth_items hxs.2 (by omega)]

theorem enforceJsonDepth_fields : ∀ {fs : List (String × Json)} {d : Nat} {rest : List Char}, ReadableFields fs →
    d + fieldsDepth fs ≤ MAX_JSON_DEPTH → enforceJsonDepth d false false (joinComma (renderFields fs) ++ rest) =
      enforceJsonDepth d false false rest
  | [], _, _, _, _ => rfl
  | [(k, v)], d, rest, hfs, hd => by
    rw [ReadableFields] at hfs
    rw [fieldsDepth] at hd
    have htext : joinComma (renderFields [(k, v)]) = quote k ++ ':' :: render v := rfl
    rw [htext, List.append_assoc, List.cons_append, enforceJsonDepth_quote]
    exact enforceJsonDepth_field hfs.1 (by omega)
  | (k, v) :: (l, w) :: fs, d, rest, hfs, hd => by
    rw [ReadableFields] at hfs
    rw [fieldsDepth] at hd
    have htext : joinComma (renderFields ((k, v) :: (l, w) :: fs)) =
        quote k ++ ':' :: render v ++ ',' :: joinComma (renderFields ((l, w) :: fs)) := rfl
    rw [htext, List.append_assoc, List.append_assoc, List.cons_append, enforceJsonDepth_quote,
      enforceJsonDepth_field hfs.1 (by omega), List.cons_append, enforceJsonDepth_comma,
      enforceJsonDepth_fields hfs.2 (by omega)]

theorem enforceJsonDepth_field : ∀ {v : Json} {d : Nat} {rest : List Char}, Readable v → d + depth v ≤ MAX_JSON_DEPTH →
    enforceJsonDepth d false false (':' :: (render v ++ rest)) = enforceJsonDepth d false false rest
  | v, d, rest, hv, hd => by
    rw [enforceJsonDepth, if_neg (by decide), if_neg (by decide), if_neg (by decide)]
    exact enforceJsonDepth_render hv hd
end

/-! ## The bytes of a text -/

theorem utf8EncodeChar_ascii {c : Char} (h : c.toNat < 128) : String.utf8EncodeChar c = [UInt8.ofNat c.toNat] := by
  have hc : c.val.toNat ≤ 0x7f := Nat.le_of_lt_succ h
  rw [String.utf8EncodeChar, if_pos hc]
  rfl

/-- A line of ASCII text is decoded as it was. -/
theorem decodeUtf8_asciiLine {text : List Char} (h : ∀ c ∈ text, c.toNat < 128) :
    decodeUtf8 (asciiLine text) = some (text ++ ['\n']) := by
  have hascii : ∀ c ∈ text ++ ['\n'], String.utf8EncodeChar c = [UInt8.ofNat c.toNat] := by
    intro c hc
    rcases List.mem_append.1 hc with hc | hc
    · exact utf8EncodeChar_ascii (h c hc)
    · obtain rfl := List.mem_singleton.1 hc
      rfl
  have hbytes : asciiLine text = (text ++ ['\n']).flatMap String.utf8EncodeChar := by
    rw [List.flatMap_congr hascii, ← List.map_eq_flatMap, asciiLine, List.map_append]
    rfl
  have hencode : ByteArray.mk (asciiLine text).toArray = (text ++ ['\n']).utf8Encode := by
    rw [hbytes, List.utf8Encode]
    apply ByteArray.ext
    rw [List.data_toByteArray]
  rw [decodeUtf8, hencode, List.utf8Decode?_utf8Encode]
  rfl

/-! ## The text of a response -/

/-- The fields of a record, in the order of the text. -/
def sortedRecord (d : ProducerRecordDisposition) : List (String × Json) :=
  (match d.alertCandidateId with
    | some id => [("alert_candidate_id", .str id)]
    | none => []) ++
  (match d.predictedClass with
    | some _ => [("attack_probability", match d.attackProbability with
        | some p => .float p.repr
        | none => .null)]
    | none => []) ++
  [("disposition", .str d.disposition.text)] ++
  (match d.predictedClass with
    | some c => [("predicted_class", .str c.text)]
    | none => []) ++
  [("reason", .str d.reason.text), ("record_index", .int d.recordIndex)]

theorem sortKeys_record (d : ProducerRecordDisposition) :
    sortKeys (.obj (recordPayload d)) = .obj (sortedRecord d) := by
  unfold recordPayload sortedRecord
  cases d.predictedClass <;> cases d.alertCandidateId <;> cases d.attackProbability <;>
    simp +decide [sortKeys, sortFields, List.insertionSort, List.orderedInsert]

def sortedPayload (r : ProducerResponse) : Json :=
  .obj [("correlation_id", .str r.correlationId), ("reason", .str r.reason.text),
    ("records", .arr (r.records.map fun d => .obj (sortedRecord d))), ("schema_version", .str r.schemaVersion.text)]

theorem sortKeys_payload (r : ProducerResponse) : sortKeys (responsePayload r) = sortedPayload r := by
  have hitems : sortItems (r.records.map fun d => .obj (recordPayload d)) =
      r.records.map fun d => .obj (sortedRecord d) := by
    rw [sortItems_eq_map, List.map_map]
    exact List.map_congr_left fun d _ => sortKeys_record d
  simp +decide [responsePayload, sortedPayload, sortKeys, sortFields, List.insertionSort, List.orderedInsert, hitems]

/-! ## Reading it back -/

@[simp] theorem ResponseDisposition.ofText?_text (d : ResponseDisposition) :
    ResponseDisposition.ofText? d.text = some d := by cases d <;> rfl

@[simp] theorem ResponseReason.ofText?_text (r : ResponseReason) : ResponseReason.ofText? r.text = some r := by
  cases r <;> rfl

@[simp] theorem PredictedClass.ofText?_text (c : PredictedClass) : PredictedClass.ofText? c.text = some c := by
  cases c <;> rfl

@[simp] theorem ResponseSchema.ofText?_text (v : ResponseSchema) : ResponseSchema.ofText? v.text = some v := by
  cases v <;> rfl

/-- Printing and parsing are inverse at this float: its text is a float's, and is read as it was. -/
structure PrintsBack (parseFloat : String → PyFloat) (p : PyFloat) : Prop where
  text : FloatText p.repr.toList
  back : parseFloat p.repr = p

/-- The floats of the response print and parse back. -/
def FloatsPrintBack (parseFloat : String → PyFloat) (r : ProducerResponse) : Prop :=
  ∀ d ∈ r.records, ∀ p, d.attackProbability = some p → PrintsBack parseFloat p

section
variable {parseFloat : String → PyFloat}

/-- The four shapes of a record: with or without a class and its probability, with or without an identifier. -/
theorem ProducerRecordDisposition.shape (d : ProducerRecordDisposition) :
    (d.predictedClass = none ∧ d.attackProbability = none) ∨
      ∃ c p, d.predictedClass = some c ∧ d.attackProbability = some p := by
  have hpair := d.facts.2.1
  cases hc : d.predictedClass with
  | none =>
    cases hp : d.attackProbability with
    | none => exact .inl ⟨rfl, rfl⟩
    | some p =>
      rw [hc, hp] at hpair
      cases hpair
  | some c =>
    cases hp : d.attackProbability with
    | none =>
      rw [hc, hp] at hpair
      cases hpair
    | some p => exact .inr ⟨c, p, rfl, rfl⟩

theorem readable_record {d : ProducerRecordDisposition} (h : ∀ p, d.attackProbability = some p → PrintsBack parseFloat p) :
    ReadableFields (sortedRecord d) := by
  unfold sortedRecord
  rcases d.shape with ⟨hc, hp⟩ | ⟨c, p, hc, hp⟩
  · cases hi : d.alertCandidateId <;> simp [hc, ReadableFields, Readable]
  · have htext := (h p hp).text
    cases hi : d.alertCandidateId <;> simp [hc, hp, ReadableFields, Readable, htext]

theorem ProducerRecordDisposition.new_self (d : ProducerRecordDisposition) :
    ProducerRecordDisposition.new d.toRecordDispositionFields = some d := by
  simp [ProducerRecordDisposition.new, d.valid]

theorem ProducerResponse.new_self (r : ProducerResponse) : ProducerResponse.new r.toResponseFields = some r := by
  simp [ProducerResponse.new, r.valid]

theorem recordFields_sorted {d : ProducerRecordDisposition}
    (h : ∀ p, d.attackProbability = some p → PrintsBack parseFloat p) :
    recordFields parseFloat (fieldValues (sortedRecord d)) = some d.toRecordDispositionFields := by
  have hfields : d.toRecordDispositionFields = ⟨d.recordIndex, d.disposition, d.reason, d.predictedClass,
      d.attackProbability, d.alertCandidateId⟩ := rfl
  rw [hfields]
  unfold sortedRecord
  rcases d.shape with ⟨hc, hp⟩ | ⟨c, p, hc, hp⟩
  · cases hi : d.alertCandidateId <;>
      simp [hc, hp, recordFields, fieldValues, field, Json.value, optional]
  · have hback := (h p hp).back
    cases hi : d.alertCandidateId <;>
      simp [hc, hp, hback, recordFields, fieldValues, field, Json.value, optional]

/-- The keys of the text are those that the reader expects. -/
theorem keysAre_sorted (d : ProducerRecordDisposition) :
    keysAre (fieldValues (sortedRecord d)) (expectedKeys d.toRecordDispositionFields) = true := by
  unfold sortedRecord expectedKeys
  rcases d.shape with ⟨hc, hp⟩ | ⟨c, p, hc, hp⟩
  · cases hi : d.alertCandidateId <;> simp [hc, fieldValues, keysAre, field]
  · cases hi : d.alertCandidateId <;> simp [hc, fieldValues, keysAre, field]

theorem allowed_sorted {schema : ResponseSchema} {d : ProducerRecordDisposition}
    (hschema : schema = .v1 → d.predictedClass = none ∧ d.alertCandidateId = none) :
    ((["record_index", "disposition", "reason"].all fun k => (field (fieldValues (sortedRecord d)) k).isSome) &&
      (fieldValues (sortedRecord d)).all fun p => (allowedKeys schema).any fun k => p.1 == points k) = true ∧
    ((field (fieldValues (sortedRecord d)) "predicted_class").isSome !=
      (field (fieldValues (sortedRecord d)) "attack_probability").isSome) = false := by
  unfold sortedRecord
  cases schema with
  | v1 =>
    obtain ⟨hc, hi⟩ := hschema rfl
    simp [hc, hi, fieldValues, field, allowedKeys]
  | v2 =>
    rcases d.shape with ⟨hc, hp⟩ | ⟨c, p, hc, hp⟩
    · cases hi : d.alertCandidateId <;> simp [hc, fieldValues, field, allowedKeys]
    · cases hi : d.alertCandidateId <;> simp [hc, fieldValues, field, allowedKeys]

/-- **A record is read back.** -/
theorem decodeRecord_sorted {schema : ResponseSchema} {d : ProducerRecordDisposition}
    (hschema : schema = .v1 → d.predictedClass = none ∧ d.alertCandidateId = none)
    (h : ∀ p, d.attackProbability = some p → PrintsBack parseFloat p) :
    decodeRecord parseFloat schema (.obj (fieldValues (sortedRecord d))) = some d := by
  obtain ⟨hallowed, hpaired⟩ := allowed_sorted hschema
  simp only [decodeRecord, hallowed, hpaired, recordFields_sorted h, d.new_self, keysAre_sorted d, Bool.not_true,
    Bool.false_eq_true, if_false, if_true]

theorem decodeRecords_sorted {schema : ResponseSchema} : ∀ {ds : List ProducerRecordDisposition},
    (∀ d ∈ ds, schema = .v1 → d.predictedClass = none ∧ d.alertCandidateId = none) →
    (∀ d ∈ ds, ∀ p, d.attackProbability = some p → PrintsBack parseFloat p) →
    decodeRecords parseFloat schema (itemValues (ds.map fun d => .obj (sortedRecord d))) = some ds
  | [], _, _ => rfl
  | d :: ds, hschema, h => by
    have hrest : decodeRecords parseFloat schema (itemValues (ds.map fun d => .obj (sortedRecord d))) = some ds :=
      decodeRecords_sorted (fun d' hd' => hschema d' (List.mem_cons_of_mem d hd'))
      fun d' hd' => h d' (List.mem_cons_of_mem d hd')
    rw [List.map_cons, itemValues, Json.value, decodeRecords,
      decodeRecord_sorted (hschema d List.mem_cons_self) (h d List.mem_cons_self)]
    dsimp only
    rw [hrest]
    rfl

/-- A version-1 response has no class and no identifier in its records. -/
theorem ProducerResponse.legacy_records (r : ProducerResponse) :
    ∀ d ∈ r.records, r.schemaVersion = .v1 → d.predictedClass = none ∧ d.alertCandidateId = none := by
  intro d hd hv
  have h := r.valid
  simp only [ResponseFields.accepted, hv, Bool.and_eq_true, List.all_eq_true, Option.isNone_iff_eq_none] at h
  have hrecord := h.2.2 d hd
  exact ⟨hrecord.1.1.2, hrecord.2⟩

theorem decodePayload_sorted {r : ProducerResponse} (h : FloatsPrintBack parseFloat r) :
    decodePayload parseFloat (sortedPayload r).value = some r := by
  have hrecords := decodeRecords_sorted r.legacy_records h
  have hkeys : keysAre (fieldValues [("correlation_id", .str r.correlationId), ("reason", .str r.reason.text),
      ("records", .arr (r.records.map fun d => .obj (sortedRecord d))),
      ("schema_version", .str r.schemaVersion.text)]) ["schema_version", "correlation_id", "reason", "records"] = true := by
    simp [fieldValues, keysAre, field]
  rw [sortedPayload, Json.value, decodePayload, hkeys]
  simp [fieldValues, field, Json.value, hrecords, r.new_self]

end

/-! ## The strict parse -/

section
variable {parseFloat : String → PyFloat}

theorem acceptsFloat_back {p : PyFloat} (h : PrintsBack parseFloat p) (hp : p.within 0 1 = true) :
    acceptsFloat parseFloat p.repr = true := by
  have hword : ["NaN", "Infinity", "-Infinity"].contains p.repr = false := by
    rw [Bool.eq_false_iff, Ne, List.contains_iff_mem]
    intro hmem
    have hchar := numberChar_float h.text
    simp only [List.mem_cons, List.not_mem_nil, or_false] at hmem
    rcases hmem with heq | heq | heq <;> rw [heq] at hchar
    · exact absurd (hchar 'N' (by decide)) (by decide)
    · exact absurd (hchar 'I' (by decide)) (by decide)
    · exact absurd (hchar 'I' (by decide)) (by decide)
  rw [acceptsFloat, hword, h.back]
  cases p with
  | finite v r => rfl
  | nonFinite r => cases hp

theorem ProducerRecordDisposition.within (d : ProducerRecordDisposition) :
    ∀ p, d.attackProbability = some p → p.within 0 1 = true := by
  intro p hp
  have h := d.valid
  simp only [RecordDispositionFields.accepted, Bool.and_eq_true, hp, Option.all_some] at h
  exact h.1.2

theorem strict_record {d : ProducerRecordDisposition} (h : ∀ p, d.attackProbability = some p → PrintsBack parseFloat p) :
    (Value.obj (fieldValues (sortedRecord d))).strict (acceptsFloat parseFloat) = true := by
  have hindex : (Nat.toDigits 10 d.recordIndex).length ≤ MAX_INT_DIGITS := by
    have hsmall : d.recordIndex < 10 ^ 3 := Nat.lt_of_le_of_lt d.facts.1.2 (by decide)
    exact Nat.le_trans ((Nat.length_toDigits_le_iff (by decide) (by decide)).2 hsmall) (by decide)
  unfold sortedRecord
  rcases d.shape with ⟨hc, hp⟩ | ⟨c, p, hc, hp⟩
  · cases hi : d.alertCandidateId <;>
      simp [hc, fieldValues, Json.value, Value.strict, strictPairs, points_inj, hindex]
  · have hfloat := acceptsFloat_back (h p hp) (d.within p hp)
    cases hi : d.alertCandidateId <;>
      simp [hc, hp, fieldValues, Json.value, Value.strict, strictPairs, points_inj, hindex, hfloat]

theorem strict_records : ∀ {ds : List ProducerRecordDisposition},
    (∀ d ∈ ds, ∀ p, d.attackProbability = some p → PrintsBack parseFloat p) →
    strictItems (acceptsFloat parseFloat) (itemValues (ds.map fun d => .obj (sortedRecord d))) = true
  | [], _ => rfl
  | d :: ds, h => by
    rw [List.map_cons, itemValues, Json.value, strictItems, strict_record (h d List.mem_cons_self), Bool.true_and]
    exact strict_records fun d' hd' => h d' (List.mem_cons_of_mem d hd')

theorem strict_payload {r : ProducerResponse} (h : FloatsPrintBack parseFloat r) :
    (sortedPayload r).value.strict (acceptsFloat parseFloat) = true := by
  have hrecords := strict_records h
  simp [sortedPayload, Json.value, fieldValues, Value.strict, strictPairs, points_inj, hrecords]

theorem readable_records : ∀ {ds : List ProducerRecordDisposition},
    (∀ d ∈ ds, ∀ p, d.attackProbability = some p → PrintsBack parseFloat p) →
    ReadableItems (ds.map fun d => .obj (sortedRecord d))
  | [], _ => trivial
  | d :: ds, h => by
    rw [List.map_cons, ReadableItems, Readable]
    exact ⟨readable_record (h d List.mem_cons_self), readable_records fun d' hd' => h d' (List.mem_cons_of_mem d hd')⟩

theorem readable_payload {r : ProducerResponse} (h : FloatsPrintBack parseFloat r) : Readable (sortedPayload r) := by
  have hrecords := readable_records h
  simp [sortedPayload, Readable, ReadableFields, hrecords]

theorem depth_record (d : ProducerRecordDisposition) : fieldsDepth (sortedRecord d) = 0 := by
  unfold sortedRecord
  rcases d.shape with ⟨hc, hp⟩ | ⟨c, p, hc, hp⟩
  · cases hi : d.alertCandidateId <;> simp [hc, fieldsDepth, depth]
  · cases hi : d.alertCandidateId <;> simp [hc, hp, fieldsDepth, depth]

theorem depth_payload (r : ProducerResponse) : depth (sortedPayload r) ≤ 3 := by
  have hrecords : ∀ ds : List ProducerRecordDisposition, itemsDepth (ds.map fun d => .obj (sortedRecord d)) ≤ 1 := by
    intro ds
    induction ds with
    | nil => exact Nat.zero_le 1
    | cons d ds ih =>
      rw [List.map_cons, itemsDepth, depth, depth_record]
      omega
  have := hrecords r.records
  simp only [sortedPayload, depth, fieldsDepth]
  omega

/-! ## The round trip -/

/-- **What the writer wrote, the reader reads.** -/
theorem decode_serialize {r : ProducerResponse} {b : Bytes} (h : FloatsPrintBack parseFloat r)
    (hb : serializeProducerResponse r = some b) : decodeProducerResponse parseFloat b = .ok r := by
  have hreadable := readable_payload h
  obtain ⟨hlen, rfl⟩ : (encodedResponse r).length ≤ MAX_RESPONSE_BYTES ∧ encodedResponse r = b := by
    unfold serializeProducerResponse at hb
    split at hb
    · cases hb
    · rename_i hle
      exact ⟨Nat.le_of_not_lt hle, Option.some.inj hb⟩
  have htext : encodedResponse r = asciiLine (render (sortedPayload r)) := by
    rw [encodedResponse, dumps, sortKeys_payload]
  have hpos : 1 ≤ (encodedResponse r).length := by
    rw [htext, length_asciiLine]
    omega
  have hdecoded : decodeUtf8 (encodedResponse r) = some (render (sortedPayload r) ++ ['\n']) := by
    rw [htext]
    exact decodeUtf8_asciiLine (render_ascii hreadable)
  have hdepth : enforceJsonDepth 0 false false (render (sortedPayload r) ++ ['\n']) = .ok () := by
    have hd := depth_payload r
    rw [enforceJsonDepth_render hreadable (Nat.le_trans (by omega) (by decide : 3 ≤ MAX_JSON_DEPTH))]
    rfl
  have hloads : strictLoads parseFloat (render (sortedPayload r) ++ ['\n']) = some (sortedPayload r).value := by
    have hread := loads_render hreadable ['\n'] (forall_of_all (by decide))
    rw [strictLoads, hread]
    dsimp only
    rw [if_pos (strict_payload h)]
  rw [decodeProducerResponse, if_neg (not_not.2 ⟨hpos, hlen⟩), hdecoded]
  dsimp only
  rw [hdepth]
  dsimp only
  rw [hloads, Option.bind_some, decodePayload_sorted h]

/-- **The response codec round trip.** Every response that is serialized is decoded to itself, and no other response
has its bytes. -/
theorem response_round_trip (parseFloat : String → PyFloat) (r : ProducerResponse) (b : Bytes)
    (h : FloatsPrintBack parseFloat r) (hb : serializeProducerResponse r = some b) :
    decodeProducerResponse parseFloat b = .ok r ∧
    ∀ r', FloatsPrintBack parseFloat r' → serializeProducerResponse r' = some b → r' = r := by
  refine ⟨decode_serialize h hb, fun r' h' hb' => ?_⟩
  exact Except.ok.inj ((decode_serialize h' hb').symm.trans (decode_serialize h hb))

end

/-! ### One attack, created -/

def createdResponse : ProducerResponse :=
  ⟨⟨.v2, "7d3f1c52-9a44-4f0e-b1d6-03c8a5e7f914", .requestCompleted,
    [⟨{ recordIndex := 1, disposition := .created, reason := .alertCandidateCreated, predictedClass := some .attack
        attackProbability := some (.finite (3 / 4) "0.75")
        alertCandidateId := some "alert_candidate_v1:4be1d07b6fd9c4f7a2b3c5d8e9f00112233445566778899aabbccddeeff00112" },
      by decide +kernel⟩]⟩, by decide +kernel⟩

/-- `float` at the one text of the response. -/
def parseThreeQuarters (text : String) : PyFloat :=
  if text = "0.75" then .finite (3 / 4) "0.75" else .nonFinite "nan"

theorem printsBack_threeQuarters : PrintsBack parseThreeQuarters (.finite (3 / 4) "0.75") where
  text := ⟨[], ['0'], ['.', '7', '5'], [], by decide, .inl rfl, .inl rfl,
    .inr ⟨['7', '5'], rfl, by decide, forall_of_all (by decide)⟩, .inl rfl, by simp⟩
  back := if_pos rfl

theorem floatsPrintBack_created : FloatsPrintBack parseThreeQuarters createdResponse := by
  intro d hd p hp
  obtain rfl := List.mem_singleton.1 hd
  obtain rfl := Option.some.inj hp
  exact printsBack_threeQuarters

theorem serialize_created : serializeProducerResponse createdResponse = some (encodedResponse createdResponse) := by
  have hlen : (encodedResponse createdResponse).length ≤ MAX_RESPONSE_BYTES := by
    rw [length_encodedResponse]
    decide
  rw [serializeProducerResponse, if_neg (Nat.not_lt.2 hlen)]

theorem response_round_trip_created :
    decodeProducerResponse parseThreeQuarters (encodedResponse createdResponse) = .ok createdResponse ∧
    ∀ r', FloatsPrintBack parseThreeQuarters r' →
      serializeProducerResponse r' = some (encodedResponse createdResponse) → r' = createdResponse :=
  response_round_trip parseThreeQuarters createdResponse (encodedResponse createdResponse) floatsPrintBack_created
    serialize_created

end ThreatFusion.Admission
