import ThreatFusion.Py.Double
import ThreatFusion.Lib.Grouping
import ThreatFusion.Lib.Result
/-
# The triage queue (`rank_rf_alerts_for_triage_queue`, `models/multi_signal_risk.py`:585-683)

An alert is what `get` gives for each key. `Builtins` are the conversions of texts and the texts of values;
`ListSort` is what `list.sort` promises of a comparison, and it promises nothing of one that is not consistent.

The exceptions of `float` and `int` that the code catches are `TypeError` and `ValueError`. The `OverflowError` of an
`int` beyond the doubles, and of the `int` of an infinity, goes through.
-/
namespace ThreatFusion.Risk
open Py Grouping

/-- What `json.loads` gives; texts are code points. -/
inductive PyValue where
  | none
  | bool (b : Bool)
  | int (n : ℤ)
  | float (x : Double)
  | text (points : List ℕ)
  | list (items : List PyValue)
  | dict (items : List (List ℕ × PyValue))

inductive Failure where
  | refused (message : String)
  | typeError | valueError | overflowError
deriving DecidableEq

structure Builtins where
  /-- `float(text)`; `none` is `ValueError`. -/
  parseFloat : List ℕ → Option Double
  /-- `int(text)`; `none` is `ValueError`. -/
  parseInt : List ℕ → Option ℤ
  str : PyValue → List ℕ
  /-- `f"{x:.nf}"`. -/
  fixed : ℕ → Double → String

abbrev Alert := String → Option PyValue

def Alert.set (a : Alert) (key : String) (value : PyValue) : Alert := Function.update a key (some value)

/-- `alert.get(key)` where it is not `None`. -/
def Alert.given (a : Alert) (key : String) : Option PyValue :=
  match a key with
  | some .none => none
  | value => value

section
variable (B : Builtins)

def toFloat : PyValue → Except Failure Double
  | .bool b => .ok (if b then .one else .zero)
  | .int n => (Double.ofInt n).elim (.error .overflowError) .ok
  | .float x => .ok x
  | .text s => (B.parseFloat s).elim (.error .valueError) .ok
  | .none | .list _ | .dict _ => .error .typeError

def toInt : PyValue → Except Failure ℤ
  | .bool b => .ok (if b then 1 else 0)
  | .int n => .ok n
  | .float (.finite q) => .ok (q.1.num.tdiv q.1.den)
  | .float (.inf _) => .error .overflowError
  | .float .nan => .error .valueError
  | .text s => (B.parseInt s).elim (.error .valueError) .ok
  | .none | .list _ | .dict _ => .error .typeError

/-- `except (TypeError, ValueError)`. -/
def caught {α : Type} (default : α) : Except Failure α → Except Failure α
  | .error .typeError | .error .valueError => .ok default
  | result => result

/-! ## One alert -/

def isTrue : Option PyValue → Bool
  | some (.bool b) => b
  | _ => false

def probabilityOf (a : Alert) : Option PyValue :=
  (a.given "rf_attack_probability").or ((a.given "attack_probability").or
    (if isTrue (a "is_attack") then some (.float .one) else none))

def burstOf (a : Alert) : PyValue :=
  ((a.given "burst_size").or (a.given "burst_packet_count")).getD
    ((a "flow_count").getD ((a "incident_size").getD (.int 1)))

def errorOf (a : Alert) : PyValue :=
  (a.given "ae_reconstruction_error").getD
    ((a "ae_error").getD ((a "reconstruction_error").getD (.float .zero)))

structure Item where
  alert : Alert
  probability : Double
  burst : ℤ
  aeError : Double
  ratio : Double

def CANONICAL_V2_AE_THRESHOLD : Double := .ofRat (1181361214680695 / 10000000000000000)

def anomalyRatio (threshold aeError : Double) : Double :=
  if Double.zero.lt threshold then (aeError.divide threshold).roundFour else .zero

/-- `prob_float`; `none` is `continue`. -/
def readProbability (a : Alert) : Except Failure (Option Double) :=
  match probabilityOf a with
  | none => .ok none
  | some value => caught none ((toFloat B value).map some)

/-- The rest of the round. -/
def readItem (threshold : Double) (a : Alert) (probability : Double) : Except Failure (Option Item) :=
  if probability.lt .half then .ok none
  else do
    let burst ← caught 1 (toInt B (burstOf a))
    let aeError ← caught .zero (toFloat B (errorOf a))
    .ok (some ⟨a, probability, burst, aeError, anomalyRatio threshold aeError⟩)

/-- One round of the loop. -/
def readAlert (threshold : Double) (a : Alert) : Except Failure (Option Item) := do
  match ← readProbability B a with
  | none => .ok none
  | some probability => readItem B threshold a probability

def admittedAlerts (threshold : Double) : List Alert → Except Failure (List Item)
  | [] => .ok []
  | a :: rest => do
    let item ← readAlert B threshold a
    let items ← admittedAlerts threshold rest
    .ok (item.toList ++ items)

/-! ## The queue -/

def identifier (a : Alert) : List ℕ := B.str ((a "candidate_id").getD ((a "alert_id").getD (.text [])))

/-- `<` of the two sort keys: the first places that are not equal decide. -/
def keyLt (x y : Item) : Bool :=
  if x.burst ≠ y.burst then decide (y.burst < x.burst)
  else if x.ratio.eq y.ratio = false then y.ratio.lt x.ratio
  else if x.probability.eq y.probability = false then y.probability.lt x.probability
  else decide (identifier B x.alert < identifier B y.alert)

/-- Of a comparison that is asymmetric, and whose negation is transitive, on the elements. -/
structure Consistent {α : Type} (lt : α → α → Bool) (xs : List α) : Prop where
  asymm : ∀ x ∈ xs, ∀ y ∈ xs, lt x y = true → lt y x = false
  trans : ∀ x ∈ xs, ∀ y ∈ xs, ∀ z ∈ xs, lt y x = false → lt z y = false → lt z x = false

/-- `list.sort`. That it is stable is not needed. -/
structure ListSort where
  sort : (Item → Item → Bool) → List Item → List Item
  perm : ∀ lt xs, (sort lt xs).Perm xs
  sorted : ∀ lt xs, Consistent lt xs → (sort lt xs).Pairwise fun x y => lt y x = false

def rationale (threshold : Double) (rank : ℕ) (item : Item) : String :=
  "Rank #" ++ toString rank ++ ": Burst Size=" ++ toString item.burst ++ ", Unfused AE Error Ratio=" ++
    B.fixed 2 item.ratio ++ "x (" ++ B.fixed 6 item.aeError ++ "/" ++ B.fixed 6 threshold ++ "), RF Prob=" ++
    B.fixed 4 item.probability

/-- The dictionary of an admitted alert with its rank. -/
def Item.entry (threshold : Double) (rank : ℕ) (item : Item) : Alert :=
  item.alert.set "rf_attack_probability" (.float item.probability)
    |>.set "burst_size" (.int item.burst)
    |>.set "ae_reconstruction_error" (.float item.aeError)
    |>.set "ae_anomaly_ratio" (.float item.ratio)
    |>.set "queue_priority_rank" (.int rank)
    |>.set "priority_rationale" (.text ((rationale B threshold rank item).toList.map Char.toNat))

def queueOf (threshold : Double) (queue : List Item) : List Alert :=
  queue.mapIdx fun i item => item.entry B threshold (i + 1)

/-- `admitted_alerts` as it is sorted. -/
def sortedAlerts (S : ListSort) (threshold : Double) (alerts : List Alert) : Except Failure (List Item) := do
  let items ← admittedAlerts B threshold alerts
  .ok (S.sort (keyLt B) items)

def rankRfAlertsForTriageQueue (S : ListSort) (alerts : List Alert) (productionFusionEnabled : Bool)
    (aeThreshold : Double) : Except Failure (List Alert) :=
  if productionFusionEnabled then
    .error (.refused "production_fusion_enabled must remain False per Section 8 of product charter.")
  else do
    let queue ← sortedAlerts B S aeThreshold alerts
    .ok (queueOf B aeThreshold queue)

end

end ThreatFusion.Risk
