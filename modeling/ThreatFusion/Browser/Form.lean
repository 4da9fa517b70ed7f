import ThreatFusion.Browser.Request
import ThreatFusion.Analyst.Schema
/-
# Targets and forms of the browser service

| here | there |
| --- | --- |
| `alertPath?`, `transitionPath?` | the group of `_ALERT_PATH` and of `_TRANSITION_PATH` (:50-53) on the whole text |
| `routeOf`       | the route of the audit events (:607-618) |
| `decodeReplace` | `bytes.decode("utf-8", "replace")`: one U+FFFD for each maximal ill-formed part |
| `unquote`       | `urllib.parse.unquote` |
| `parseQs`       | `parse_qs(.., keep_blank_values=True, strict_parsing=True)`: its pairs in order, or its `ValueError` |
| `readForm`      | the form of a POST up to the checks of its fields (:713-781) |
-/
namespace ThreatFusion.Browser
open Py Analyst

/-! ## Targets -/

def ALERT_PREFIX : String := "/v1/analyst/alerts/"

/-- `alert_candidate_v1:` and 64 digits. -/
def ALERT_ID_LENGTH : Nat := 83

/-- The alert identifier after the prefix, and what follows it. -/
def alertTail (target : String) : Option (String × List Char) :=
  if ALERT_PREFIX.toList.isPrefixOf target.toList then
    let rest := target.toList.drop ALERT_PREFIX.length
    let id := String.ofList (rest.take ALERT_ID_LENGTH)
    if isAlertCandidateId id then some (id, rest.drop ALERT_ID_LENGTH) else none
  else none

def alertPath? (target : String) : Option String := do
  let (id, rest) ← alertTail target
  guard (rest = [] ∨ rest.head? = some '?' ∧ '\n' ∉ rest)
  some id

def transitionPath? (path : String) : Option String := do
  let (id, rest) ← alertTail path
  guard (rest = "/transitions".toList)
  some id

/-- `target.split("?", 1)[0]`. -/
def pathOnly (target : String) : String :=
  match cutChar '?' target.toList with
  | some (path, _) => String.ofList path
  | none => target

inductive Route where
  | root | alerts | versionedAlerts | alert | transitions
deriving DecidableEq

def Route.text : Route → String
  | .root => "/"
  | .alerts => "/analyst/alerts"
  | .versionedAlerts => "/v1/analyst/alerts"
  | .alert => "/v1/analyst/alerts/<alert_candidate_id>"
  | .transitions => "/v1/analyst/alerts/<alert_candidate_id>/transitions"

def routeOf (target : String) : Option Route :=
  let path := pathOnly target
  if path = Route.root.text then some .root
  else if path = Route.alerts.text then some .alerts
  else if path = Route.versionedAlerts.text then some .versionedAlerts
  else if (alertPath? target).isSome then some .alert
  else if (transitionPath? path).isSome then some .transitions
  else none

/-! ## Percent-encoding -/

def REPLACEMENT : Char := Char.ofNat 0xFFFD

/-- What a leading byte carries, and the ranges of the bytes that must follow it. -/
def leadOf (b : Nat) : Option (Nat × List (Nat × Nat)) :=
  let more := (0x80, 0xBF)
  if b < 0x80 then some (b, [])
  else if 0xC2 ≤ b ∧ b ≤ 0xDF then some (b % 32, [more])
  else if b = 0xE0 then some (b % 16, [(0xA0, 0xBF), more])
  else if b = 0xED then some (b % 16, [(0x80, 0x9F), more])
  else if 0xE1 ≤ b ∧ b ≤ 0xEF then some (b % 16, [more, more])
  else if b = 0xF0 then some (b % 8, [(0x90, 0xBF), more, more])
  else if b = 0xF4 then some (b % 8, [(0x80, 0x8F), more, more])
  else if 0xF1 ≤ b ∧ b ≤ 0xF3 then some (b % 8, [more, more, more])
  else none

/-- The code point, if all the ranges were met, and the bytes that are left. -/
def takeTail : Nat → List (Nat × Nat) → Bytes → Option Nat × Bytes
  | v, [], bs => (some v, bs)
  | _, _ :: _, [] => (none, [])
  | v, (lo, hi) :: ranges, b :: bs =>
    if lo ≤ b.toNat ∧ b.toNat ≤ hi then takeTail (64 * v + b.toNat % 64) ranges bs else (none, b :: bs)

def decodeReplaceGo : Nat → Bytes → List Char
  | 0, _ | _, [] => []
  | n + 1, b :: bs => match leadOf b.toNat with
    | none => REPLACEMENT :: decodeReplaceGo n bs
    | some (v, ranges) =>
      let (point, rest) := takeTail v ranges bs
      (point.map Char.ofNat).getD REPLACEMENT :: decodeReplaceGo n rest

def decodeReplace (b : Bytes) : List Char := decodeReplaceGo b.length b

def hexDigitValue (c : Char) : Option Nat :=
  if c.isDigit then some (c.toNat - 48)
  else if 'a' ≤ c ∧ c ≤ 'f' then some (c.toNat - 87)
  else if 'A' ≤ c ∧ c ≤ 'F' then some (c.toNat - 55)
  else none

/-- `unquote_to_bytes` of ASCII text. -/
def unquoteToBytes : List Char → Bytes
  | [] => []
  | '%' :: a :: b :: rest => match hexDigitValue a, hexDigitValue b with
    | some x, some y => UInt8.ofNat (16 * x + y) :: unquoteToBytes rest
    | _, _ => 37 :: unquoteToBytes (a :: b :: rest)
  | c :: rest => UInt8.ofNat c.toNat :: unquoteToBytes rest

/-- `run` is the ASCII run before, reversed. -/
def unquoteGo : List Char → List Char → List Char
  | run, [] => decodeReplace (unquoteToBytes run.reverse)
  | run, c :: cs =>
    if c.toNat < 128 then unquoteGo (c :: run) cs
    else decodeReplace (unquoteToBytes run.reverse) ++ c :: unquoteGo [] cs

def unquote (text : List Char) : String := String.ofList (unquoteGo [] text)

def plusToSpace (text : List Char) : List Char := text.map fun c => if c = '+' then ' ' else c

/-! ## Forms -/

def parsePairs : List (List Char) → Option (List (String × String))
  | [] => some []
  | arg :: args => do
    let (name, value) ← cutChar '=' arg
    let pairs ← parsePairs args
    some ((unquote (plusToSpace name), unquote (plusToSpace value)) :: pairs)

def parseQs (text : List Char) : Option (List (String × String)) :=
  parsePairs (if text.isEmpty then [] else splitChar '&' text)

/-- `form.get(key)` of the fields that occur once. -/
def formField (pairs : List (String × String)) (key : String) : Option String :=
  match pairs.filter (·.1 = key) with
  | [(_, value)] => some value
  | _ => none

/-- `a or b`: the empty text counts as nothing. -/
def orElse (a b : Option String) : Option String := if (a.getD "").isEmpty then b else a

/-- `(?:0|[1-9][0-9]*)` on the whole text. -/
def isCanonicalNumber (s : String) : Bool := s == "0" || isDigits s && s.toList.head? != some '0'

/-- A form that passed; its version is not read yet. -/
structure TransitionForm where
  expectedVersion : { s : String // isCanonicalNumber s = true }
  transitionRequestId : { s : String // isUuid4 s = true }
  csrfToken : String
  targetState : AnalystState
  rationale : String
deriving DecidableEq

/-- `target_state in ANALYST_STATES`. -/
def stateOf? (text : String) : Option AnalystState :=
  [AnalystState.new, .inReview, .closed, .escalated].find? (·.text = text)

/-- `none` is any of the answers 400: `body` is no UTF-8, is no form, or has a field that does not pass. -/
def readForm (body : Bytes) : Option TransitionForm := do
  let text ← decodeUtf8 body
  let pairs ← parseQs text
  let expectedVersion ← formField pairs "expected_version"
  let transitionRequestId ← formField pairs "transition_request_id"
  let csrfToken ← formField pairs "csrf_token"
  let targetState ← (orElse (formField pairs "target_state") (formField pairs "to_state")).bind stateOf?
  let rationale := (orElse (orElse (formField pairs "reason") (formField pairs "rationale")) (some "")).getD ""
  guard (csrfToken ≠ "" ∧ (utf8 rationale).length ≤ MAX_ANALYST_RATIONALE_BYTES)
  if hversion : isCanonicalNumber expectedVersion = true then
    if hid : isUuid4 transitionRequestId = true then
      some ⟨⟨expectedVersion, hversion⟩, ⟨transitionRequestId, hid⟩, csrfToken, targetState, rationale⟩
    else none
  else none

example : unquote "a%41%e2%82%ac%ff+".toList = "aA€\uFFFD+" := by decide +kernel
example : (parseQs "a=1&b=%3D&a=2".toList).map (formField · "b") = some (some "=") := by decide +kernel

/-! ## No field is longer than the body -/

theorem length_decodeUtf8 {b : Bytes} {text : List Char} (h : decodeUtf8 b = some text) : text.length ≤ b.length := by
  obtain ⟨chars, hchars, rfl⟩ := Option.map_eq_some_iff.1 h
  have hencode : chars.toList.utf8Encode = ByteArray.mk b.toArray := by
    have hget := @ByteArray.utf8Encode_get_utf8Decode? (ByteArray.mk b.toArray) (by rw [hchars]; rfl)
    simpa [hchars] using hget
  have hsize : chars.toList.utf8Encode.size = b.length := by rw [hencode]; simp [ByteArray.size]
  have hlong : ∀ cs : List Char, cs.length ≤ cs.utf8Encode.size := by
    intro cs
    induction cs with
    | nil => simp
    | cons c cs ih =>
      have hpos := c.utf8Size_pos
      rw [List.utf8Encode_cons, ByteArray.size_append, List.utf8Encode_singleton]
      simp
      omega
  rw [← hsize]
  exact hlong _

theorem length_takeTail : ∀ (v : Nat) (ranges : List (Nat × Nat)) (b : Bytes), (takeTail v ranges b).2.length ≤ b.length
  | _, [], _ => Nat.le_refl _
  | _, _ :: _, [] => Nat.le_refl _
  | v, (lo, hi) :: ranges, b :: bs => by
    rw [takeTail]
    split
    · exact (length_takeTail _ _ _).trans (Nat.le_succ _)
    · exact Nat.le_refl _

theorem length_decodeReplaceGo : ∀ (n : Nat) (b : Bytes), (decodeReplaceGo n b).length ≤ b.length
  | 0, _ => by simp [decodeReplaceGo]
  | _ + 1, [] => by simp [decodeReplaceGo]
  | n + 1, b :: bs => by
    rw [decodeReplaceGo]
    split
    · exact Nat.succ_le_succ (length_decodeReplaceGo n bs)
    · rename_i v ranges _
      exact Nat.succ_le_succ ((length_decodeReplaceGo n _).trans (length_takeTail v ranges bs))

theorem length_unquoteToBytes (text : List Char) : (unquoteToBytes text).length ≤ text.length := by
  induction text using unquoteToBytes.induct with
  | case1 => exact Nat.le_refl _
  | case2 a b rest x y hx hy ih =>
    simp only [unquoteToBytes, hx, hy, List.length_cons]
    omega
  | case3 a b rest hnone ih =>
    rw [unquoteToBytes]
    split
    · exact absurd (hnone _ _ ‹_› ‹_›) id
    · exact Nat.succ_le_succ ih
  | case4 c rest hc ih =>
    rw [unquoteToBytes]
    · exact Nat.succ_le_succ ih
    · exact hc

theorem length_unquoteRun (run : List Char) : (decodeReplace (unquoteToBytes run.reverse)).length ≤ run.length := by
  have h := length_unquoteToBytes run.reverse
  rw [List.length_reverse] at h
  exact (length_decodeReplaceGo _ _).trans h

theorem length_unquoteGo : ∀ text run : List Char, (unquoteGo run text).length ≤ run.length + text.length
  | [], run => length_unquoteRun run
  | c :: cs, run => by
    rw [unquoteGo]
    split
    · have h := length_unquoteGo cs (c :: run)
      simp only [List.length_cons] at h ⊢
      omega
    · have hrun := length_unquoteRun run
      have hrest := length_unquoteGo cs []
      simp only [List.length_append, List.length_cons, List.length_nil] at hrest ⊢
      omega

theorem length_unquote (text : List Char) : (unquote text).length ≤ text.length := by
  have h := length_unquoteGo text []
  rw [List.length_nil, Nat.zero_add] at h
  rwa [unquote, String.length_ofList]

theorem length_splitChar (sep : Char) : ∀ text, ∀ part ∈ splitChar sep text, part.length ≤ text.length
  | [], part, h => by
    rw [splitChar, List.mem_singleton] at h
    simp [h]
  | c :: cs, part, h => by
    have ih := length_splitChar sep cs
    rw [splitChar] at h
    split at h
    · rcases List.mem_cons.1 h with rfl | h
      · exact Nat.zero_le _
      · exact (ih part h).trans (Nat.le_succ _)
    · split at h
      · rw [List.mem_singleton.1 h]
        exact Nat.succ_le_succ (Nat.zero_le _)
      · rename_i first parts hparts
        rw [hparts] at ih
        rcases List.mem_cons.1 h with rfl | h
        · exact Nat.succ_le_succ (ih first List.mem_cons_self)
        · exact (ih part (List.mem_cons_of_mem _ h)).trans (Nat.le_succ _)

theorem length_cutChar {sep : Char} : ∀ {text a b : List Char}, cutChar sep text = some (a, b) → b.length ≤ text.length
  | [], _, _, h => by cases h
  | c :: cs, a, b, h => by
    rw [cutChar] at h
    split at h
    · cases h
      exact Nat.le_succ _
    · obtain ⟨⟨a', b'⟩, hcut, heq⟩ := Option.map_eq_some_iff.1 h
      cases heq
      exact (length_cutChar hcut).trans (Nat.le_succ _)

theorem length_parsePairs {n : Nat} : ∀ {args : List (List Char)} {pairs : List (String × String)},
    (∀ arg ∈ args, arg.length ≤ n) → parsePairs args = some pairs → ∀ pair ∈ pairs, pair.2.length ≤ n
  | [], _, _, h, _, hpair => by
    cases h
    cases hpair
  | arg :: args, pairs, hargs, h, pair, hpair => by
    simp only [parsePairs, Option.bind_eq_bind, Option.bind_eq_some_iff] at h
    obtain ⟨⟨name, value⟩, hcut, rest, hrest, heq⟩ := h
    cases heq
    rcases List.mem_cons.1 hpair with rfl | hpair
    · have hvalue := length_unquote (plusToSpace value)
      rw [plusToSpace, List.length_map] at hvalue
      exact hvalue.trans ((length_cutChar hcut).trans (hargs arg List.mem_cons_self))
    · exact length_parsePairs (fun a ha => hargs a (List.mem_cons_of_mem _ ha)) hrest pair hpair

theorem length_parseQs {text : List Char} {pairs : List (String × String)} (h : parseQs text = some pairs) :
    ∀ pair ∈ pairs, pair.2.length ≤ text.length := by
  refine length_parsePairs (fun arg harg => ?_) h
  split at harg
  · cases harg
  · exact length_splitChar '&' text arg harg

theorem mem_of_formField {pairs : List (String × String)} {key value : String}
    (h : formField pairs key = some value) : (key, value) ∈ pairs := by
  unfold formField at h
  split at h
  · rename_i name value' hfilter
    cases h
    have hmem : (name, value) ∈ pairs.filter (·.1 = key) := by
      rw [hfilter]
      exact List.mem_cons_self
    obtain ⟨hmem, hkey⟩ := List.mem_filter.1 hmem
    rwa [← of_decide_eq_true hkey]
  · cases h

theorem readForm_version {body : Bytes} {form : TransitionForm} (h : readForm body = some form) :
    form.expectedVersion.1.length ≤ body.length := by
  simp only [readForm, Option.bind_eq_bind, Option.bind_eq_some_iff] at h
  obtain ⟨text, htext, pairs, hpairs, version, hversion, id, hid, token, htoken, state, hstate, -, -, hform⟩ := h
  split at hform
  · split at hform
    · cases hform
      exact (length_parseQs hpairs _ (mem_of_formField hversion)).trans (length_decodeUtf8 htext)
    · cases hform
  · cases hform

end ThreatFusion.Browser
