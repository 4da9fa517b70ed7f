import ThreatFusion.Adapters.Base
import ThreatFusion.Lib.Result
import ThreatFusion.Py.Int
/-
# The two flow adapters on rows of texts

| here | there |
| --- | --- |
| `adaptUnswRow`, `unswColumns`, `requiredUnswPort` | `adapt_unsw_row`, `_required_unsw_port` (`datasets/adapters/unsw_nb15.py`) |
| `adaptCicRow`, `cicColumns`                       | `adapt_cic_row` (`datasets/adapters/cic_ids2018.py`) |
| `NetworkFlow`, `validateFlow`                     | `NetworkFlow` and its model validators (`schemas/flow.py`) |

The two read the same things in the same order and differ in their columns (`Columns`). The constraints of single
fields in `NetworkFlow` hold of what the readers return.

`raises_iff`: with `Aborts`, exactly the rows on which an adapter raises what is not a refusal.
-/
namespace ThreatFusion.Adapters
open Py

/-! ## The flow -/

structure Counts where
  fwdPackets : Nat
  bwdPackets : Nat
  fwdBytes : Nat
  bwdBytes : Nat
deriving DecidableEq

structure NetworkFlow where
  sourceDataset : String
  flowId : String
  timestampStart : Stamp
  timestampEnd : Stamp
  srcIp : String
  dstIp : String
  srcPort : Nat
  dstPort : Nat
  protocol : String
  durationMs : Double
  counts : Counts
  packetsPerSecond : Double
  bytesPerSecond : Double
  fwdPacketLengthMean : Double
  bwdPacketLengthMean : Double
  label : String
  attackCategory : Option String
deriving DecidableEq

/-- `validate_time_order` and `validate_bidirectional_consistency`: their errors have no location. -/
def validateFlow (flow : NetworkFlow) : Except AdaptError NetworkFlow :=
  if flow.timestampEnd.wall.1 < flow.timestampStart.wall.1 then .error (.validationError [([], "value_error")])
  else if flow.counts.bwdPackets = 0 ∧ 0 < flow.counts.bwdBytes then .error (.validationError [([], "value_error")])
  else if flow.counts.fwdPackets = 0 ∧ 0 < flow.counts.fwdBytes then .error (.validationError [([], "value_error")])
  else .ok flow

/-! ## The columns -/

/-- What a source calls its fields, and how it reads those that the other source reads differently. -/
structure Columns where
  source : String
  sourceDataset : String
  duration : String
  /-- The duration in milliseconds. -/
  toMillis : ℚ → ℚ
  fwdPackets : String
  bwdPackets : String
  fwdBytes : String
  bwdBytes : String
  /-- The field and the value of the time. -/
  timestamp : Row String → Except AdaptError (String × Option String)
  /-- The label and the attack category. -/
  label : Row String → Except AdaptError (String × Option String)
  flowId : List String
  srcIp : String
  dstIp : String
  port : Row String → String → Except AdaptError Nat
  srcPort : String
  dstPort : String
  protocol : String

/-- What is read after the times. -/
structure Endpoints where
  label : String
  attackCategory : Option String
  flowId : String
  srcIp : String
  dstIp : String
  srcPort : Nat
  dstPort : Nat
  protocol : String

section
variable (L : Library) (c : Columns) (row : Row String)

def readCounts : Except AdaptError (Double × Counts) := do
  let duration ← requiredFloat texts L row c.source c.duration
  let fwdPackets ← requiredInt texts L row c.source c.fwdPackets none
  let bwdPackets ← requiredInt texts L row c.source c.bwdPackets none
  let fwdBytes ← requiredInt texts L row c.source c.fwdBytes none
  let bwdBytes ← requiredInt texts L row c.source c.bwdBytes none
  .ok (.ofRat (c.toMillis duration.1), ⟨fwdPackets, bwdPackets, fwdBytes, bwdBytes⟩)

def readStart : Except AdaptError Stamp := do
  let (field, value) ← c.timestamp row
  parseRequiredTimestamp texts L value c.source field

def readEndpoints : Except AdaptError Endpoints := do
  let (label, attackCategory) ← c.label row
  let (_, flowId) ← requiredAlias texts row c.source c.flowId
  let srcIp ← requiredIp texts L row c.source c.srcIp
  let dstIp ← requiredIp texts L row c.source c.dstIp
  let srcPort ← c.port row c.srcPort
  let dstPort ← c.port row c.dstPort
  let protocol ← requiredString texts row c.source c.protocol
  .ok ⟨label, attackCategory, strip flowId, srcIp, dstIp, srcPort, dstPort, normalizeProtocol protocol⟩

def buildFlow (durationMs : Double) (counts : Counts) (start stop : Stamp) (e : Endpoints) :
    Except AdaptError NetworkFlow := do
  let packetsPerSecond ← calling (ratePerSecond (counts.fwdPackets + counts.bwdPackets) durationMs)
  let bytesPerSecond ← calling (ratePerSecond (counts.fwdBytes + counts.bwdBytes) durationMs)
  let fwdMean ← calling (meanSize counts.fwdBytes counts.fwdPackets)
  let bwdMean ← calling (meanSize counts.bwdBytes counts.bwdPackets)
  validateFlow
    { sourceDataset := c.sourceDataset, flowId := e.flowId, timestampStart := start, timestampEnd := stop
      srcIp := e.srcIp, dstIp := e.dstIp, srcPort := e.srcPort, dstPort := e.dstPort, protocol := e.protocol
      durationMs := durationMs, counts := counts, packetsPerSecond := packetsPerSecond
      bytesPerSecond := bytesPerSecond, fwdPacketLengthMean := fwdMean, bwdPacketLengthMean := bwdMean
      label := e.label, attackCategory := e.attackCategory }

def adaptRow : Except AdaptError NetworkFlow := do
  let (durationMs, counts) ← readCounts L c row
  let start ← readStart L c row
  let stop ← calling (endTimestamp start durationMs)
  let e ← readEndpoints L c row
  buildFlow c durationMs counts start stop e

end

/-! ## UNSW-NB15 -/

def UNSW_SOURCE : String := "UNSW-NB15"

/-- `re.compile(r"0x[0-9a-f]+", re.IGNORECASE)`. -/
def isHexadecimalPort : List Char → Bool
  | '0' :: x :: digits => (x == 'x' || x == 'X') && !digits.isEmpty && digits.all isHexDigit
  | _ => false

/-- `re.compile(r"[0-9]+")`. -/
def isDecimalPort (text : List Char) : Bool := !text.isEmpty && text.all Char.isDigit

section
variable (L : Library)

/-- `float(str(n))` of the hexadecimal number is its nearest double. Where `str` refuses `n` for its length, that
double is an infinity. -/
def requiredUnswPort (row : Row String) (field : String) : Except AdaptError Nat := do
  let value ← requiredValue texts row UNSW_SOURCE field
  let text := (strip value).toList
  if isHexadecimalPort text then match Double.ofInt (hexNumber (text.drop 2)) with
    | some number => toInt number UNSW_SOURCE field (some 65535)
    | none => .error (.sourceRowValidationError UNSW_SOURCE [field] "must be an integer")
  else if isDecimalPort text then requiredInt texts L row UNSW_SOURCE field (some 65535)
  else .error (.sourceRowValidationError UNSW_SOURCE [field] "must be an integer")

def unswAttackCategory (row : Row String) : Option String :=
  ((row "attack_cat").map strip).filter fun category => category ∉ ["", "-", "nan", "None"]

def unswColumns : Columns where
  source := UNSW_SOURCE
  sourceDataset := "unsw_nb15"
  duration := "dur"
  toMillis q := q * 1000
  fwdPackets := "spkts"
  bwdPackets := "dpkts"
  fwdBytes := "sbytes"
  bwdBytes := "dbytes"
  timestamp row := do
    let (field, value) ← requiredAlias texts row UNSW_SOURCE ["stime", "timestamp"]
    .ok (field, some value)
  label row := do
    let value ← requiredInt texts L row UNSW_SOURCE "label" (some 1)
    .ok (if value = 1 then "Attack" else "Normal", unswAttackCategory row)
  flowId := ["id", "flow_id"]
  srcIp := "srcip"
  dstIp := "dstip"
  port := requiredUnswPort L
  srcPort := "sport"
  dstPort := "dsport"
  protocol := "proto"

def adaptUnswRow (row : Row String) : Except AdaptError NetworkFlow := adaptRow L (unswColumns L) row

/-! ## CSE-CIC-IDS2018 -/

def CIC_SOURCE : String := "CSE-CIC-IDS2018"

def cicColumns : Columns where
  source := CIC_SOURCE
  sourceDataset := "cse_cic_ids2018"
  duration := "Flow Duration"
  toMillis q := q / 1000
  fwdPackets := "Tot Fwd Pkts"
  bwdPackets := "Tot Bwd Pkts"
  fwdBytes := "TotLen Fwd Pkts"
  bwdBytes := "TotLen Bwd Pkts"
  timestamp row := .ok ("Timestamp", row "Timestamp")
  label row := do
    let text ← requiredString texts row CIC_SOURCE "Label"
    .ok (if lower text = "benign" then ("Normal", none) else ("Attack", some text))
  flowId := ["Flow ID", "flow_id"]
  srcIp := "Src IP"
  dstIp := "Dst IP"
  port row field := requiredInt texts L row CIC_SOURCE field (some 65535)
  srcPort := "Src Port"
  dstPort := "Dst Port"
  protocol := "Protocol"

def adaptCicRow (row : Row String) : Except AdaptError NetworkFlow := adaptRow L (cicColumns L) row

end

end ThreatFusion.Adapters
