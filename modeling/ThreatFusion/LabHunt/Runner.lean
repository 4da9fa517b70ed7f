import ThreatFusion.Lib.PyJsonText
import ThreatFusion.Lib.Result
import ThreatFusion.Py.Utf8
/-
# The lab hunt runner (`evaluation/lab_hunt_runner.py`)

`run_lab_hunt_pack` filters the records of a fixture step by step, and writes each step, hashed with the step before it,
to a chain file. `verify_lab_hash_chain` recomputes the hashes from the file.

| here | there |
| --- | --- |
| `Runtime` | the interpreter: floats, `sha256`, and how deep `json` recurses |
| `Scalar`, `Record`, `Filter` | what the validators return |
| `canonicalJson` | `canonical_json`; `none` when it raises, or when its text cannot be encoded |
| `ChainPath` | a path and what is there; `contents` of a regular file that can be read |
| `verifyLabHashChain` | `verify_lab_hash_chain`; `none` when it raises |

`os.write` takes the whole document, and the directories above the path can be made. The block around the run refuses
sockets; nothing in the run opens one.
-/
namespace ThreatFusion.LabHunt
open Py PyJson
open JsonText (points)

/-- The interpreter; `sha256` is `hashlib.sha256(data).hexdigest()`. -/
structure Runtime (F : Type) extends Python F where
  sha256 : Bytes → String
  sha256_inj : ∀ a b, sha256 a = sha256 b → a = b
  readsDocument : 4 ≤ readDepth
  writesDocument : 4 ≤ writeDepth

def LAB_HUNT_SCHEMA_VERSION : String := "lab_hunt_result_v1"
def LAB_FIXTURE_SCHEMA_VERSION : String := "lab_hunt_fixture_v1"
def LAB_PACK_SCHEMA_VERSION : String := "lab_hunt_pack_v1"
def LAB_CHAIN_SCHEMA_VERSION : String := "lab_hunt_hash_chain_v1"
def LAB_CLASSIFICATION : String := "LAB HYPOTHESIS — NOT AN ALERT"
def LAB_CHAIN_GENESIS : String := String.ofList (List.replicate 64 '0')
def FORBIDDEN_PRODUCTION_DB_NAMES : List String := ["soar.sqlite3", "alerts.sqlite3", "incidents.sqlite3"]
def RECORD_KEYS : List String := ["record_id", "actor", "technique_id", "observed_at", "fields"]
def FIXTURE_KEYS : List String := ["schema_version", "fixture_id", "source", "records"]
def PACK_KEYS : List String := ["schema_version", "pack_id", "filters"]
def FILTER_KEYS : List String := ["step_id", "field", "equals"]
def HASHED_ENTRY_KEYS : List String :=
  ["filter", "hypotheses_sha256", "prev_entry_sha256", "sequence_id", "surviving_record_ids"]

inductive HuntError where
  | schema (message : String)
  | sandbox (message : Str)
  | canonical
deriving DecidableEq

variable {F : Type}

/-! ## Canonical JSON -/

section Canonical

variable (rt : Runtime F)

def canonicalJson (value : Value F) : Option (List Char) :=
  if value.writes rt.toPython rt.writeDepth then some (dumps rt.toPython value) else none

def canonicalSha256 (value : Value F) : Option String := (canonicalJson rt value).map fun text => rt.sha256 (encode text)

end Canonical

def orRaise {α : Type} : Option α → Except HuntError α
  | some a => .ok a
  | none => .error .canonical

def str (s : String) : Value F := .str (points s)

/-- `value == s`. -/
def isStr (value : Option (Value F)) (s : String) : Bool :=
  match value with
  | some (.str t) => t == points s
  | _ => false

/-! ## Validation -/

def isAlphanumeric (u : Nat) : Bool := (48 ≤ u && u ≤ 57) || (65 ≤ u && u ≤ 90) || (97 ≤ u && u ≤ 122)

/-- `[A-Za-z0-9][A-Za-z0-9._:-]{0,63}` -/
def isIdentifier : Str → Bool
  | [] => false
  | u :: rest => isAlphanumeric u && rest.length ≤ 63 &&
    rest.all fun v => isAlphanumeric v || v == 46 || v == 95 || v == 58 || v == 45

abbrev Identifier := { s : Str // isIdentifier s = true }

inductive Scalar (py : Python F) where
  | null
  | bool (b : Bool)
  | int (n : Int)
  | float (x : F) (finite : (py.value x).isSome)
  | str (s : Str)

structure Record (py : Python F) where
  recordId : Identifier
  actor : Option Str
  techniqueId : Option Str
  observedAt : Option Str
  fields : Option { d : List (Str × Scalar py) // (d.map Prod.fst).Nodup }

structure Fixture (py : Python F) where
  fixtureId : Identifier
  records : List (Record py)

structure Filter (py : Python F) where
  stepId : Identifier
  field : Str
  equals : Scalar py

structure Pack (py : Python F) where
  packId : Identifier
  filters : List (Filter py)

def Scalar.value {py : Python F} : Scalar py → Value F
  | .null => .null
  | .bool b => .bool b
  | .int n => .int n
  | .float x _ => .float x
  | .str s => .str s

/-- `a == b`; a number is compared by what it is worth. -/
def Scalar.eq {py : Python F} : Scalar py → Scalar py → Bool
  | .null, .null => true
  | .str s, .str t => s == t
  | a, b => match a.value.number py, b.value.number py with
    | some x, some y => x == y
    | _, _ => false

def requireIdentifier (value : Option (Value F)) (fieldName : String) : Except HuntError Identifier :=
  match value with
  | some (.str s) => if h : isIdentifier s = true then .ok ⟨s, h⟩ else .error (.schema ("invalid_" ++ fieldName))
  | _ => .error (.schema ("invalid_" ++ fieldName))

section Validation

variable (py : Python F)

def jsonScalar (value : Value F) (fieldName : String) : Except HuntError (Scalar py) :=
  match value with
  | .null => .ok .null
  | .bool b => .ok (.bool b)
  | .int n => .ok (.int n)
  | .str s => .ok (.str s)
  | .float x =>
    if h : (py.value x).isSome then .ok (.float x h) else .error (.schema ("non_finite_" ++ fieldName))
  | _ => .error (.schema ("invalid_" ++ fieldName))

def hasKeys (pairs : List (Str × Value F)) (keys : List String) : Bool :=
  keys.all (fun k => (get pairs k).isSome) && pairs.all fun p => keys.any fun k => p.1 == points k

def recordText (pairs : List (Str × Value F)) (key : String) : Except HuntError (Option Str) :=
  match get pairs key with
  | none => .ok none
  | some (.str text) => if 256 < text.length then .error (.schema ("invalid_" ++ key)) else .ok (some text)
  | some _ => .error (.schema ("invalid_" ++ key))

def copiedField (p : Str × Value F) : Except HuntError (Str × Scalar py) :=
  if p.1 = [] ∨ 64 < p.1.length then .error (.schema "invalid_field_name")
  else (jsonScalar py p.2 "field_value").map fun v => (p.1, v)

def recordFields (pairs : List (Str × Value F)) :
    Except HuntError (Option { d : List (Str × Scalar py) // (d.map Prod.fst).Nodup }) :=
  match get pairs "fields" with
  | none => .ok none
  | some (.obj fields) => do
    let copied ← fields.mapM (copiedField py)
    .ok (some ⟨Grouping.dictOf copied, Grouping.nodup_dictOf copied⟩)
  | some _ => .error (.schema "invalid_fields")

def validateRecord : Value F → Except HuntError (Record py)
  | .obj pairs =>
    if pairs.any fun p => !(RECORD_KEYS.any fun k => p.1 == points k) then .error (.schema "record_unknown_field")
    else do
      let recordId ← requireIdentifier (get pairs "record_id") "record_id"
      let actor ← recordText pairs "actor"
      let techniqueId ← recordText pairs "technique_id"
      let observedAt ← recordText pairs "observed_at"
      let fields ← recordFields py pairs
      .ok ⟨recordId, actor, techniqueId, observedAt, fields⟩
  | _ => .error (.schema "record_must_be_object")

def validateFixture : Value F → Except HuntError (Fixture py)
  | .obj pairs =>
    if !hasKeys pairs FIXTURE_KEYS then .error (.schema "fixture_schema_mismatch")
    else if !isStr (get pairs "schema_version") LAB_FIXTURE_SCHEMA_VERSION then .error (.schema "fixture_schema_version")
    else if !isStr (get pairs "source") "local_replay" then .error (.schema "local_replay_required")
    else do
      let fixtureId ← requireIdentifier (get pairs "fixture_id") "fixture_id"
      match get pairs "records" with
      | some (.arr (first :: rest)) => do
        let records ← (first :: rest).mapM (validateRecord py)
        if (records.map Record.recordId).Nodup then .ok ⟨fixtureId, records⟩ else .error (.schema "duplicate_record_id")
      | _ => .error (.schema "records_required")
  | _ => .error (.schema "fixture_must_be_object")

def filterField (value : Option (Value F)) : Except HuntError Str :=
  match value with
  | some (.str field) =>
    if field = [] ∨ 64 < field.length then .error (.schema "invalid_filter_field") else .ok field
  | _ => .error (.schema "invalid_filter_field")

/-- The loop over the filters; `seen` are the step ids before. -/
def validateFilters : List Identifier → List (Value F) → Except HuntError (List (Filter py))
  | _, [] => .ok []
  | seen, .obj pairs :: rest =>
    if !hasKeys pairs FILTER_KEYS then .error (.schema "filter_schema_mismatch")
    else do
      let stepId ← requireIdentifier (get pairs "step_id") "step_id"
      if stepId ∈ seen then .error (.schema "duplicate_step_id")
      else do
        let field ← filterField (get pairs "field")
        let equals ← jsonScalar py ((get pairs "equals").getD .null) "equals"
        let later ← validateFilters (stepId :: seen) rest
        .ok (⟨stepId, field, equals⟩ :: later)
  | _, _ :: _ => .error (.schema "filter_schema_mismatch")

def validatePack : Value F → Except HuntError (Pack py)
  | .obj pairs =>
    if !hasKeys pairs PACK_KEYS then .error (.schema "pack_schema_mismatch")
    else if !isStr (get pairs "schema_version") LAB_PACK_SCHEMA_VERSION then .error (.schema "pack_schema_version")
    else do
      let packId ← requireIdentifier (get pairs "pack_id") "pack_id"
      match get pairs "filters" with
      | some (.arr (first :: rest)) => do
        let filters ← validateFilters py [] (first :: rest)
        .ok ⟨packId, filters⟩
      | _ => .error (.schema "filters_required")
  | _ => .error (.schema "pack_must_be_object")

end Validation

/-! ## The hunt -/

section Hunt

variable {py : Python F}

def optional (text : Option Str) : Scalar py := (text.map Scalar.str).getD .null

def fieldValue (record : Record py) (field : Str) : Scalar py :=
  if field = points "record_id" then .str record.recordId
  else if field = points "actor" then optional record.actor
  else if field = points "technique_id" then optional record.techniqueId
  else if field = points "observed_at" then optional record.observedAt
  else match record.fields with
    | some fields => ((fields.1.find? fun p => decide (p.1 = field)).map Prod.snd).getD .null
    | none => .null

def applyFilter (records : List (Record py)) (filt : Filter py) : List (Record py) :=
  records.filter fun record => (fieldValue record filt.field).eq filt.equals

/-- The loop over the filters: what survives each of them, and all of them. -/
def snapshots : List (Record py) → List (Filter py) → List (Filter py × List Identifier) × List (Record py)
  | surviving, [] => ([], surviving)
  | surviving, filt :: rest =>
    let surviving := applyFilter surviving filt
    let (later, final) := snapshots surviving rest
    ((filt, surviving.map Record.recordId) :: later, final)

def fieldsOf (record : Record py) : List (Str × Scalar py) := (record.fields.map Subtype.val).getD []

/-- One row of `_hypotheses`. -/
def hypothesis (record : Record py) : Value F := .obj [
  (points "actor", .str (record.actor.getD [])),
  (points "alert_created", .bool false),
  (points "classification", str LAB_CLASSIFICATION),
  (points "fields", .obj ((fieldsOf record).map fun p => (p.1, p.2.value))),
  (points "observed_at", .str (record.observedAt.getD [])),
  (points "record_id", .str record.recordId),
  (points "technique_id", .str (record.techniqueId.getD []))]

def filterValue (filt : Filter py) : Value F := .obj [
  (points "equals", filt.equals.value),
  (points "field", .str filt.field),
  (points "step_id", .str filt.stepId)]

/-- An entry without its own hash. -/
def entryPayload (filt : Filter py) (prev : String) (sequenceId : Nat) (survivingIds : List Identifier)
    (hypothesesSha256 : Option String) : List (Str × Value F) :=
  [(points "filter", filterValue filt),
    (points "prev_entry_sha256", str prev),
    (points "sequence_id", .int sequenceId),
    (points "surviving_record_ids", .arr (survivingIds.map fun i => .str i.1))] ++
  (hypothesesSha256.map fun digest => (points "hypotheses_sha256", str digest)).toList

structure ChainPath where
  text : Str
  name : Str
  isSymlink : Bool
  contents : Option Bytes

def isProductionDatabase (path : ChainPath) : Bool := FORBIDDEN_PRODUCTION_DB_NAMES.any fun name => path.name == points name

def refuseProductionDatabase (path : ChainPath) : Except HuntError Unit :=
  if isProductionDatabase path then .error (.sandbox (points "production_database_refused:" ++ path.name))
  else if path.isSymlink then .error (.sandbox (points "symlink_chain_refused"))
  else .ok ()

end Hunt

section Run

variable (rt : Runtime F)

/-- `_chain_entry`: the hash of the entry, and the entry. -/
def chainEntry (filt : Filter rt.toPython) (prev : String) (sequenceId : Nat) (survivingIds : List Identifier)
    (hypothesesSha256 : Option String) : Option (String × Value F) :=
  let payload := entryPayload filt prev sequenceId survivingIds hypothesesSha256
  (canonicalSha256 rt (.obj (select HASHED_ENTRY_KEYS payload))).map fun digest =>
    (digest, .obj (payload ++ [(points "entry_sha256", str digest)]))

/-- The loop over the snapshots from `index` on, up to `lastIndex`: the entries, and the head. -/
def chainEntries (hypothesesSha : String) (lastIndex : Nat) : Nat → String → List (Filter rt.toPython × List Identifier) →
    Option (List (Value F) × String)
  | _, prev, [] => some ([], prev)
  | index, prev, (filt, survivingIds) :: rest =>
    (chainEntry rt filt prev index survivingIds (if index = lastIndex then some hypothesesSha else none)).bind fun entry =>
      (chainEntries hypothesesSha lastIndex (index + 1) entry.1 rest).map fun later => (entry.2 :: later.1, later.2)

def document {py : Python F} (fixture : Fixture py) (pack : Pack py) (name : Str) (entries : List (Value F))
    (head : String) (hypotheses : List (Value F)) : Value F := .obj [
  (points "chain_path_name", .str name),
  (points "classification", str LAB_CLASSIFICATION),
  (points "entries", .arr entries),
  (points "fixture_id", .str fixture.fixtureId),
  (points "genesis_sha256", str LAB_CHAIN_GENESIS),
  (points "head_sha256", str head),
  (points "hypotheses", .arr hypotheses),
  (points "pack_id", .str pack.packId),
  (points "schema_version", str LAB_CHAIN_SCHEMA_VERSION)]

def writeChain (path : ChainPath) (document : Value F) : Except HuntError ChainPath := do
  refuseProductionDatabase path
  let text ← orRaise (canonicalJson rt document)
  .ok { path with contents := some (encode text) }

def huntResult {py : Python F} (fixture : Fixture py) (pack : Pack py) (path : ChainPath) (head : String)
    (hypotheses : List (Value F)) : Value F := .obj [
  (points "schema_version", str LAB_HUNT_SCHEMA_VERSION),
  (points "classification", str LAB_CLASSIFICATION),
  (points "production_fusion_enabled", .bool false),
  (points "alert_created", .bool false),
  (points "network_blocked", .bool true),
  (points "fixture_id", .str fixture.fixtureId),
  (points "pack_id", .str pack.packId),
  (points "chain_path", .str path.text),
  (points "head_sha256", str head),
  (points "records", .arr hypotheses)]

/-- What `run_lab_hunt_pack` does with what it has validated. -/
def hunt (fixture : Fixture rt.toPython) (pack : Pack rt.toPython) (destination : ChainPath) :
    Except HuntError (ChainPath × Value F) := do
  refuseProductionDatabase destination
  let (steps, surviving) := snapshots fixture.records pack.filters
  let hypotheses := surviving.map hypothesis
  let hypothesesSha ← orRaise (canonicalSha256 rt (.arr hypotheses))
  let (entries, head) ← orRaise (chainEntries rt hypothesesSha steps.length 1 LAB_CHAIN_GENESIS steps)
  let file ← writeChain rt destination (document fixture pack destination.name entries head hypotheses)
  .ok (file, huntResult fixture pack destination head hypotheses)

def runLabHuntPack (fixture pack : Value F) (chainPath : ChainPath) (allowNetwork : Bool) :
    Except HuntError (ChainPath × Value F) :=
  if allowNetwork then .error (.sandbox (points "outbound socket connection is allowed"))
  else do
    let validatedFixture ← validateFixture rt.toPython fixture
    let validatedPack ← validatePack rt.toPython pack
    hunt rt validatedFixture validatedPack chainPath

/-! ## Verification -/

inductive Stop where
  | refused
  | raised
deriving DecidableEq

/-- `if not b: return False`. -/
def check (b : Bool) : Except Stop Unit := if b then .ok () else .error .refused

def orStop {α : Type} : Option α → Except Stop α
  | some a => .ok a
  | none => .error .raised

/-- `value == n`. -/
def isNumber (py : Python F) (value : Option (Value F)) (n : Nat) : Bool :=
  match value with
  | some v => v.number py == some (n : ℚ)
  | none => false

/-- The loop over the entries: the hash of the last one. -/
def walk : Nat → String → List (Value F) → Except Stop String
  | _, prev, [] => .ok prev
  | index, prev, .obj entry :: rest => do
    check (isStr (get entry "prev_entry_sha256") prev)
    check (isNumber rt.toPython (get entry "sequence_id") (index + 1))
    let expected ← orStop (canonicalSha256 rt (.obj (select HASHED_ENTRY_KEYS entry)))
    check (isStr (get entry "entry_sha256") expected)
    walk (index + 1) expected rest
  | _, _, _ :: _ => .error .refused

/-- A hypothesis is labelled as one and made no alert. -/
def isHypothesis : Value F → Bool
  | .obj item => isStr (get item "classification") LAB_CLASSIFICATION &&
    match get item "alert_created" with
    | some (.bool false) => true
    | _ => false
  | _ => false

def lastHypotheses (entries : List (Value F)) : Option (Value F) :=
  match entries.getLast? with
  | some (.obj last) => get last "hypotheses_sha256"
  | _ => none

def verifyEntries (pairs : List (Str × Value F)) (entries hypotheses : List (Value F)) : Except Stop Unit := do
  check (!entries.isEmpty)
  let head ← walk rt 0 LAB_CHAIN_GENESIS entries
  check (isStr (get pairs "head_sha256") head)
  let digest ← orStop (canonicalSha256 rt (.arr hypotheses))
  check (isStr (lastHypotheses entries) digest)
  check (hypotheses.all isHypothesis)

def verifyDocument : Value F → Except Stop Unit
  | .obj pairs => do
    check (isStr (get pairs "schema_version") LAB_CHAIN_SCHEMA_VERSION)
    check (isStr (get pairs "genesis_sha256") LAB_CHAIN_GENESIS)
    check (isStr (get pairs "classification") LAB_CLASSIFICATION)
    match get pairs "entries", get pairs "hypotheses" with
    | some (.arr entries), some (.arr hypotheses) => verifyEntries rt pairs entries hypotheses
    | _, _ => .error .refused
  | _ => .error .refused

/-- `path.read_text(encoding="utf-8")`. -/
def readText (path : ChainPath) : Option (List Char) := (path.contents.bind decodeUtf8).map universalNewlines

def loadDocument (path : ChainPath) : Except Stop (Value F) :=
  match readText path with
  | none => .error .refused
  | some text => match loads rt.toPython text with
    | .ok document => .ok document
    | .error .malformed => .error .refused
    | .error _ => .error .raised

def verifyLabHashChain (path : ChainPath) : Option Bool :=
  if isProductionDatabase path || path.isSymlink || path.contents.isNone then some false
  else match loadDocument rt path >>= verifyDocument rt with
    | .ok () => some true
    | .error .refused => some false
    | .error .raised => none

end Run

end ThreatFusion.LabHunt
