import ThreatFusion.Risk.TriageQueue
/-
# What the triage queue promises, and when

`Triage` is the promise for one list of alerts: the queue holds the random-forest alerts, ranked and sorted, the
fields of the autoencoder decide nothing about who is in it, and identifiers that differ make it independent of the
order of the alerts. `Rankable` is the exact condition (`triage_iff`): no number of an alert that is read overflows, no
probability is NaN, and of two admitted alerts of one burst size neither has NaN for its ratio.
-/
namespace ThreatFusion.Risk
open Py Grouping

variable (B : Builtins) (threshold : Double)

/-! ## What is read of an alert -/

/-- The probability, where `float` gives one. -/
def probability? (a : Alert) : Option Double := (probabilityOf a).bind fun value => (toFloat B value).toOption

/-- As the loop asks. -/
def admits (a : Alert) : Bool := (probability? B a).any fun x => !x.lt .half

/-- A number that is not below one half. -/
def isRfAlert (a : Alert) : Bool := (probability? B a).any fun x => Double.half.lt x || Double.half.eq x

def burstSize (a : Alert) : ℤ := ((toInt B (burstOf a)).toOption).getD 1

def aeError (a : Alert) : Double := ((toFloat B (errorOf a)).toOption).getD .zero

def itemOf (a : Alert) : Item :=
  ⟨a, (probability? B a).getD .zero, burstSize B a, aeError B a, anomalyRatio threshold (aeError B a)⟩

/-- No conversion that the loop makes of the alert overflows. -/
structure Converts (a : Alert) : Prop where
  probability : ∀ value ∈ probabilityOf a, toFloat B value ≠ .error .overflowError
  burst : admits B a = true → toInt B (burstOf a) ≠ .error .overflowError
  error : admits B a = true → toFloat B (errorOf a) ≠ .error .overflowError

variable {B threshold}

/-- The conversions fail in no other way. -/
theorem toFloat_error {value : PyValue} {e : Failure} (h : toFloat B value = .error e) :
    e = .typeError ∨ e = .valueError ∨ e = .overflowError := by
  cases value with
  | none => cases h; exact .inl rfl
  | bool b => cases h
  | int n =>
    rw [toFloat] at h
    cases hn : Double.ofInt n with
    | none => rw [hn] at h; cases h; exact .inr (.inr rfl)
    | some x => rw [hn] at h; cases h
  | float x => cases h
  | text s =>
    rw [toFloat] at h
    cases hs : B.parseFloat s with
    | none => rw [hs] at h; cases h; exact .inr (.inl rfl)
    | some x => rw [hs] at h; cases h
  | list items => cases h; exact .inl rfl
  | dict items => cases h; exact .inl rfl

theorem toInt_error {value : PyValue} {e : Failure} (h : toInt B value = .error e) :
    e = .typeError ∨ e = .valueError ∨ e = .overflowError := by
  cases value with
  | none => cases h; exact .inl rfl
  | bool b => cases h
  | int n => cases h
  | float x =>
    cases x with
    | finite q => cases h
    | inf negative => cases h; exact .inr (.inr rfl)
    | nan => cases h; exact .inr (.inl rfl)
  | text s =>
    rw [toInt] at h
    cases hs : B.parseInt s with
    | none => rw [hs] at h; cases h; exact .inr (.inl rfl)
    | some x => rw [hs] at h; cases h
  | list items => cases h; exact .inl rfl
  | dict items => cases h; exact .inl rfl

/-- What is caught, and what goes through. -/
theorem caught_eq_ok {α : Type} {default a : α} {result : Except Failure α}
    (h : ∀ e, result = .error e → e = .typeError ∨ e = .valueError ∨ e = .overflowError) :
    caught default result = .ok a ↔ result ≠ .error .overflowError ∧ a = result.toOption.getD default := by
  cases result with
  | ok b => simp [caught, Except.toOption, eq_comm]
  | error e => rcases h e rfl with rfl | rfl | rfl <;> simp [caught, Except.toOption, eq_comm]

theorem readProbability_eq_ok {a : Alert} {x : Option Double} :
    readProbability B a = .ok x ↔
      (∀ value ∈ probabilityOf a, toFloat B value ≠ .error .overflowError) ∧ x = probability? B a := by
  unfold readProbability probability?
  cases hp : probabilityOf a with
  | none => simp [eq_comm]
  | some value =>
    have herror : ∀ e, (toFloat B value).map some = .error e →
        e = .typeError ∨ e = .valueError ∨ e = .overflowError := by
      intro e h
      cases hv : toFloat B value with
      | ok x => rw [hv] at h; cases h
      | error e' =>
        rw [hv] at h
        cases h
        exact toFloat_error hv
    have hmap : ((toFloat B value).map some).toOption.getD none = (toFloat B value).toOption := by
      cases toFloat B value <;> rfl
    have hoverflow : (toFloat B value).map some = .error .overflowError ↔ toFloat B value = .error .overflowError := by
      cases toFloat B value <;> simp [Except.map]
    simp only [caught_eq_ok herror, hmap, ne_eq, hoverflow, Option.mem_def, Option.some.injEq, forall_eq',
      Option.bind_some]

theorem readAlert_eq_ok {a : Alert} {r : Option Item} :
    readAlert B threshold a = .ok r ↔
      Converts B a ∧ r = if admits B a then some (itemOf B threshold a) else none := by
  unfold readAlert
  rw [Except.bind_eq_ok]
  constructor
  · rintro ⟨x, hx, hr⟩
    obtain ⟨hread, rfl⟩ := readProbability_eq_ok.mp hx
    cases hp : probability? B a with
    | none =>
      have hadmits : admits B a = false := by rw [admits, hp]; rfl
      rw [hp] at hr
      cases hr
      rw [hadmits]
      exact ⟨⟨hread, fun h => (by rw [hadmits] at h; cases h), fun h => (by rw [hadmits] at h; cases h)⟩, rfl⟩
    | some x =>
      rw [hp] at hr
      dsimp only [readItem] at hr
      by_cases hbelow : x.lt .half = true
      · have hadmits : admits B a = false := by rw [admits, hp]; simp [hbelow]
        rw [if_pos hbelow] at hr
        cases hr
        rw [hadmits]
        exact ⟨⟨hread, fun h => (by rw [hadmits] at h; cases h), fun h => (by rw [hadmits] at h; cases h)⟩, rfl⟩
      · have hadmits : admits B a = true := by rw [admits, hp]; simp [hbelow]
        rw [if_neg hbelow] at hr
        obtain ⟨burst, hburst, hr⟩ := Except.bind_eq_ok.mp hr
        obtain ⟨aeError, herror, hr⟩ := Except.bind_eq_ok.mp hr
        obtain ⟨hb, rfl⟩ := (caught_eq_ok fun _ => toInt_error).mp hburst
        obtain ⟨he, rfl⟩ := (caught_eq_ok fun _ => toFloat_error).mp herror
        cases hr
        refine ⟨⟨hread, fun _ => hb, fun _ => he⟩, ?_⟩
        rw [if_pos hadmits, itemOf, hp]
        rfl
  · rintro ⟨h, rfl⟩
    refine ⟨_, readProbability_eq_ok.mpr ⟨h.probability, rfl⟩, ?_⟩
    cases hp : probability? B a with
    | none =>
      have hadmits : admits B a = false := by rw [admits, hp]; rfl
      rw [hadmits]
      rfl
    | some x =>
      dsimp only [readItem]
      by_cases hbelow : x.lt .half = true
      · have hadmits : admits B a = false := by rw [admits, hp]; simp [hbelow]
        rw [if_pos hbelow, hadmits]
        rfl
      · have hadmits : admits B a = true := by rw [admits, hp]; simp [hbelow]
        rw [if_neg hbelow, (caught_eq_ok fun _ => toInt_error).mpr ⟨h.burst hadmits, rfl⟩, Except.ok_bind,
          (caught_eq_ok fun _ => toFloat_error).mpr ⟨h.error hadmits, rfl⟩, Except.ok_bind, if_pos hadmits, itemOf, hp]
        rfl

/-- **The loop** ends unless a conversion overflows, and keeps the admitted alerts. -/
theorem admittedAlerts_eq_ok {alerts : List Alert} {items : List Item} :
    admittedAlerts B threshold alerts = .ok items ↔
      (∀ a ∈ alerts, Converts B a) ∧ items = (alerts.filter (admits B)).map (itemOf B threshold) := by
  induction alerts generalizing items with
  | nil => simp [admittedAlerts, eq_comm]
  | cons a rest ih =>
    have hkept : (((a :: rest).filter (admits B)).map (itemOf B threshold)) =
        (if admits B a then some (itemOf B threshold a) else none).toList ++
          (rest.filter (admits B)).map (itemOf B threshold) := by
      by_cases h : admits B a = true
      · rw [List.filter_cons_of_pos h, if_pos h]
        rfl
      · rw [List.filter_cons_of_neg h, if_neg h]
        rfl
    rw [hkept, List.forall_mem_cons, admittedAlerts, Except.bind_eq_ok]
    constructor
    · rintro ⟨item, hitem, h⟩
      obtain ⟨later, hlater, h⟩ := Except.bind_eq_ok.mp h
      obtain ⟨ha, rfl⟩ := readAlert_eq_ok.mp hitem
      obtain ⟨hrest, rfl⟩ := ih.mp hlater
      cases h
      exact ⟨⟨ha, hrest⟩, rfl⟩
    · rintro ⟨⟨ha, hrest⟩, rfl⟩
      refine ⟨_, readAlert_eq_ok.mpr ⟨ha, rfl⟩, ?_⟩
      rw [ih.mpr ⟨hrest, rfl⟩]
      rfl

/-! ## The order -/

section Order

variable (B)

/-- By burst size, ratio, probability and identifier. NaN is neither above nor beside anything. -/
def Before (x y : Item) : Prop :=
  y.burst < x.burst ∨ x.burst = y.burst ∧
    (y.ratio.lt x.ratio = true ∨ x.ratio.eq y.ratio = true ∧
      (y.probability.lt x.probability = true ∨ x.probability.eq y.probability = true ∧
        identifier B x.alert ≤ identifier B y.alert))

/-- The ratios are numbers where the sort reaches them. -/
def Comparable (x y : Item) : Prop := x.burst = y.burst → x.ratio ≠ .nan ∧ y.ratio ≠ .nan

theorem Comparable.symm {x y : Item} (h : Comparable x y) : Comparable y x := fun hburst => (h hburst.symm).symm

instance : Std.Symm Comparable := ⟨fun _ _ => Comparable.symm⟩

/-- The numbers of the sort key, the greater first. -/
def front (x : Item) : ℤᵒᵈ ×ₗ (ℤ ×ₗ ℚ)ᵒᵈ ×ₗ (ℤ ×ₗ ℚ)ᵒᵈ :=
  toLex (OrderDual.toDual x.burst, toLex (OrderDual.toDual x.ratio.place, OrderDual.toDual x.probability.place))

abbrev QueueLe : Item → Item → Prop := lexLe front fun x => identifier B x.alert

theorem queueLe_iff {x y : Item} :
    QueueLe B x y ↔ y.burst < x.burst ∨ x.burst = y.burst ∧
      (y.ratio.place < x.ratio.place ∨ x.ratio.place = y.ratio.place ∧
        (y.probability.place < x.probability.place ∨ x.probability.place = y.probability.place ∧
          identifier B x.alert ≤ identifier B y.alert)) := by
  simp only [QueueLe, lexLe, front, Prod.Lex.toLex_lt_toLex, OrderDual.toDual_lt_toDual, EmbeddingLike.apply_eq_iff_eq,
    Prod.mk.injEq]
  tauto

variable {B} {x y : Item}

/-- `Before` is the order where the numbers are numbers. -/
theorem before_iff (h : Comparable x y) (hx : x.probability ≠ .nan) (hy : y.probability ≠ .nan) :
    Before B x y ↔ QueueLe B x y := by
  rw [queueLe_iff, Before]
  refine or_congr_right (and_congr_right fun hburst => ?_)
  obtain ⟨hrx, hry⟩ := h hburst
  rw [Double.lt_iff hry hrx, Double.eq_iff hrx hry, Double.lt_iff hy hx, Double.eq_iff hx hy]

theorem Before.comparable (h : Before B x y) : Comparable x y := by
  intro hburst
  rcases h with h | ⟨-, h⟩
  · exact absurd hburst h.ne'
  · refine ⟨fun hx => ?_, fun hy => ?_⟩
    · rw [hx] at h
      simp at h
    · rw [hy] at h
      simp at h

theorem keyLt_self (x : Item) : keyLt B x x = false := by
  simp [keyLt, Double.lt_irrefl]

/-- The comparison of the sort is that of the order. -/
theorem keyLt_eq_false (h : Comparable x y) (hx : x.probability ≠ .nan) (hy : y.probability ≠ .nan) :
    keyLt B y x = false ↔ QueueLe B x y := by
  rw [queueLe_iff, keyLt]
  by_cases hburst : y.burst = x.burst
  · obtain ⟨hrx, hry⟩ := h hburst.symm
    rw [if_neg (not_not.mpr hburst)]
    by_cases hratio : y.ratio.place = x.ratio.place
    · rw [if_neg (by rw [(Double.eq_iff hry hrx).mpr hratio]; decide)]
      by_cases hprobability : y.probability.place = x.probability.place
      · rw [if_neg (by rw [(Double.eq_iff hy hx).mpr hprobability]; decide), decide_eq_false_iff_not, not_lt]
        simp [hburst, hratio, hprobability]
      · rw [if_pos (Bool.eq_false_iff.mpr fun h => hprobability ((Double.eq_iff hy hx).mp h)), Bool.eq_false_iff, ne_eq,
          Double.lt_iff hx hy, not_lt]
        simp [hburst, hratio, Ne.symm hprobability, lt_iff_le_and_ne, hprobability]
    · rw [if_pos (Bool.eq_false_iff.mpr fun h => hratio ((Double.eq_iff hry hrx).mp h)), Bool.eq_false_iff, ne_eq,
        Double.lt_iff hrx hry, not_lt]
      simp [hburst, Ne.symm hratio, lt_iff_le_and_ne, hratio]
  · rw [if_pos hburst, decide_eq_false_iff_not, not_lt]
    simp [Ne.symm hburst, lt_iff_le_and_ne, hburst]

end Order

/-! ## The sorted queue -/

section Sorted

variable {items : List Item}

theorem keyLt_of_mem (hitems : items.Pairwise Comparable) (hnumbers : ∀ x ∈ items, x.probability ≠ .nan) {x y : Item}
    (hx : x ∈ items) (hy : y ∈ items) : keyLt B y x = false ↔ QueueLe B x y := by
  by_cases hne : x = y
  · subst hne
    exact iff_of_true (keyLt_self x) (refl_of (QueueLe B) x)
  · exact keyLt_eq_false (hitems.forall hx hy hne) (hnumbers x hx) (hnumbers y hy)

theorem consistent_keyLt (hitems : items.Pairwise Comparable) (hnumbers : ∀ x ∈ items, x.probability ≠ .nan) :
    Consistent (keyLt B) items := by
  constructor
  · intro x hx y hy hlt
    rw [keyLt_of_mem hitems hnumbers hx hy]
    refine (total_of (QueueLe B) x y).resolve_right fun hyx => ?_
    rw [(keyLt_of_mem hitems hnumbers hy hx).mpr hyx] at hlt
    cases hlt
  · intro x hx y hy z hz hyx hzy
    rw [keyLt_of_mem hitems hnumbers hx hy] at hyx
    rw [keyLt_of_mem hitems hnumbers hy hz] at hzy
    rw [keyLt_of_mem hitems hnumbers hx hz]
    exact trans_of (QueueLe B) hyx hzy

variable (B) (S : ListSort)

theorem pairwise_sort (hitems : items.Pairwise Comparable) (hnumbers : ∀ x ∈ items, x.probability ≠ .nan) :
    (S.sort (keyLt B) items).Pairwise fun x y => QueueLe B x y ∧ Before B x y := by
  have hperm := S.perm (keyLt B) items
  have hcomparable : (S.sort (keyLt B) items).Pairwise Comparable :=
    (hperm.pairwise_iff fun h => h.symm).mpr hitems
  refine ((S.sorted _ _ (consistent_keyLt hitems hnumbers)).and hcomparable).imp_of_mem fun {x y} hx hy h => ?_
  have hxn := hnumbers x (hperm.mem_iff.mp hx)
  have hyn := hnumbers y (hperm.mem_iff.mp hy)
  have hle := (keyLt_eq_false h.2 hxn hyn).mp h.1
  exact ⟨hle, (before_iff h.2 hxn hyn).mpr hle⟩

end Sorted

/-! ## The promise and its condition -/

def AE_FIELDS : List String := ["ae_reconstruction_error", "ae_error", "reconstruction_error"]

def withoutAe (a : Alert) : Alert := fun key => if key ∈ AE_FIELDS then none else a key

section Promise

variable (B) (S : ListSort) (threshold)

/-- What one run of the alerts must have made, the sorted items and the entries returned. -/
structure Queued (alerts : List Alert) (queue : List Item) (entries : List Alert) : Prop where
  admitted : (queue.map (·.alert)).Perm (alerts.filter (isRfAlert B))
  read : ∀ item ∈ queue, readAlert B threshold item.alert = .ok (some item)
  sorted : queue.Pairwise (Before B)
  rendered : entries = queueOf B threshold queue
  ranks : entries.map (· "queue_priority_rank") = (List.range queue.length).map fun i => some (.int (i + 1))
  blind : ∀ alerts' queue', alerts'.map withoutAe = alerts.map withoutAe →
    sortedAlerts B S threshold alerts' = .ok queue' →
    (queue'.map fun item => withoutAe item.alert).Perm (queue.map fun item => withoutAe item.alert)
  anyOrder : alerts.Pairwise (fun a b => identifier B a ≠ identifier B b) → ∀ alerts', alerts'.Perm alerts →
    rankRfAlertsForTriageQueue B S alerts' false threshold = .ok entries

def Triage (alerts : List Alert) : Prop :=
  ∃ queue entries, sortedAlerts B S threshold alerts = .ok queue ∧
    rankRfAlertsForTriageQueue B S alerts false threshold = .ok entries ∧ Queued B threshold S alerts queue entries

/-- The error has no ratio to the threshold. -/
def Unrated (threshold aeError : Double) : Prop :=
  Double.zero.lt threshold = true ∧ (aeError = .nan ∨ (∃ negative, aeError = .inf negative) ∧ threshold = .inf false)

structure Rankable (alerts : List Alert) : Prop where
  converts : ∀ a ∈ alerts, Converts B a
  numbers : ∀ a ∈ alerts, probability? B a ≠ some .nan
  ratios : alerts.Pairwise fun a b => admits B a = true → admits B b = true → burstSize B a = burstSize B b →
    ¬ Unrated threshold (aeError B a) ∧ ¬ Unrated threshold (aeError B b)

variable {B S threshold}

theorem anomalyRatio_eq_nan {x : Double} : anomalyRatio threshold x = .nan ↔ Unrated threshold x := by
  unfold anomalyRatio Unrated
  by_cases h : Double.zero.lt threshold = true
  · rw [if_pos h, Double.roundFour_eq_nan]
    cases threshold with
    | nan => simp at h
    | inf negative =>
      cases negative with
      | false =>
        have hzero : Double.zero ≠ .nan := by simp [Double.zero]
        cases x <;> simp [Double.divide, h, hzero]
      | true => exact absurd h (by decide)
    | finite q => cases x <;> simp [Double.divide, Double.ofRat_ne_nan, h]
  · rw [if_neg h]
    exact iff_of_false (fun hzero => by cases hzero) fun hunrated => h hunrated.1

theorem ne_nan_iff_isRf {a : Alert} (h : probability? B a ≠ some .nan) : admits B a = isRfAlert B a := by
  unfold admits isRfAlert
  cases hp : probability? B a with
  | none => rfl
  | some x =>
    have hx : x ≠ .nan := fun hx => h (by rw [hp, hx])
    have hhalf : Double.half ≠ .nan := by simp [Double.half]
    rw [Option.any_some, Option.any_some, Bool.eq_iff_iff, Bool.or_eq_true, Double.lt_iff hhalf hx,
      Double.eq_iff hhalf hx, Bool.not_eq_true', Bool.eq_false_iff, ne_eq, Double.lt_iff hx hhalf, not_lt, le_iff_lt_or_eq]

theorem admits_of_isRf {a : Alert} (h : isRfAlert B a = true) : admits B a = true := by
  by_cases hnan : probability? B a = some .nan
  · rw [isRfAlert, hnan] at h
    simp at h
  · rwa [ne_nan_iff_isRf hnan]

theorem probabilityOf_withoutAe (a : Alert) : probabilityOf (withoutAe a) = probabilityOf a := by
  simp [probabilityOf, Alert.given, withoutAe, AE_FIELDS]

theorem admits_withoutAe (a : Alert) : admits B (withoutAe a) = admits B a := by
  rw [admits, admits, probability?, probability?, probabilityOf_withoutAe]

/-- The admitted items, and what `Rankable` says of them. -/
theorem Rankable.items {alerts : List Alert} (h : Rankable B threshold alerts) :
    ((alerts.filter (admits B)).map (itemOf B threshold)).Pairwise Comparable ∧
      ∀ x ∈ (alerts.filter (admits B)).map (itemOf B threshold), x.probability ≠ .nan := by
  constructor
  · rw [List.pairwise_map, List.pairwise_filter]
    refine h.ratios.imp fun {a b} hab ha hb hburst => ?_
    obtain ⟨hra, hrb⟩ := hab ha hb hburst
    exact ⟨mt anomalyRatio_eq_nan.mp hra, mt anomalyRatio_eq_nan.mp hrb⟩
  · intro x hx
    obtain ⟨a, ha, rfl⟩ := List.mem_map.mp hx
    obtain ⟨ha, hadmits⟩ := List.mem_filter.mp ha
    have hnumber := h.numbers a ha
    cases hp : probability? B a with
    | none =>
      rw [admits, hp] at hadmits
      cases hadmits
    | some p =>
      rw [hp] at hnumber
      rw [itemOf, hp]
      exact fun hnan => hnumber (congrArg some hnan)

theorem sortedAlerts_eq_ok {alerts : List Alert} {queue : List Item} :
    sortedAlerts B S threshold alerts = .ok queue ↔ (∀ a ∈ alerts, Converts B a) ∧
      queue = S.sort (keyLt B) ((alerts.filter (admits B)).map (itemOf B threshold)) := by
  rw [sortedAlerts, Except.bind_eq_ok]
  constructor
  · rintro ⟨items, hitems, h⟩
    obtain ⟨hconverts, rfl⟩ := admittedAlerts_eq_ok.mp hitems
    cases h
    exact ⟨hconverts, rfl⟩
  · rintro ⟨hconverts, rfl⟩
    exact ⟨_, admittedAlerts_eq_ok.mpr ⟨hconverts, rfl⟩, rfl⟩

/-- Any queue that the loop gives has the admitted alerts. -/
theorem alerts_perm {alerts : List Alert} {queue : List Item} (h : sortedAlerts B S threshold alerts = .ok queue) :
    (queue.map (·.alert)).Perm (alerts.filter (admits B)) := by
  obtain ⟨-, rfl⟩ := sortedAlerts_eq_ok.mp h
  have hperm := (S.perm (keyLt B) ((alerts.filter (admits B)).map (itemOf B threshold))).map (·.alert)
  rw [List.map_map] at hperm
  exact hperm.trans (.of_eq (List.map_id _))

/-- **The autoencoder does not decide who is admitted**, in any two runs that return. -/
theorem admitted_blind {alerts alerts' : List Alert} {queue queue' : List Item}
    (hsame : alerts'.map withoutAe = alerts.map withoutAe) (h : sortedAlerts B S threshold alerts = .ok queue)
    (h' : sortedAlerts B S threshold alerts' = .ok queue') :
    (queue'.map fun item => withoutAe item.alert).Perm (queue.map fun item => withoutAe item.alert) := by
  have stripped {alerts : List Alert} {queue : List Item} (h : sortedAlerts B S threshold alerts = .ok queue) :
      (queue.map fun item => withoutAe item.alert).Perm ((alerts.map withoutAe).filter (admits B)) := by
    have hperm := (alerts_perm h).map withoutAe
    rw [List.map_map] at hperm
    refine hperm.trans (.of_eq ?_)
    rw [List.filter_map]
    exact congrArg _ (List.filter_congr fun a _ => (admits_withoutAe a).symm)
  exact (stripped h').trans (hsame ▸ (stripped h).symm)

/-- The queue of alerts with different identifiers, from the alerts in any order. -/
theorem sorted_eq_of_perm {alerts alerts' : List Alert} (h : Rankable B threshold alerts) (hperm : alerts'.Perm alerts)
    (hdiffer : alerts.Pairwise fun a b => identifier B a ≠ identifier B b) :
    S.sort (keyLt B) ((alerts'.filter (admits B)).map (itemOf B threshold)) =
      S.sort (keyLt B) ((alerts.filter (admits B)).map (itemOf B threshold)) := by
  obtain ⟨hcomparable, hnumbers⟩ := h.items
  have hitems := (hperm.filter (admits B)).map (itemOf B threshold)
  have hleft := pairwise_sort B S ((hitems.pairwise_iff Comparable.symm).mpr hcomparable) fun x hx =>
    hnumbers x (hitems.mem_iff.mp hx)
  have hright := pairwise_sort B S hcomparable hnumbers
  have hall := ((S.perm (keyLt B) _).trans hitems).trans (S.perm (keyLt B) _).symm
  refine hall.eq_of_pairwise (fun x y hx hy hxy hyx => ?_) (hleft.imp And.left) (hright.imp And.left)
  -- two items of one identifier are of one alert
  have halert {z : Item} (hz : z ∈ (alerts.filter (admits B)).map (itemOf B threshold)) :
      z.alert ∈ alerts ∧ z = itemOf B threshold z.alert := by
    obtain ⟨a, ha, rfl⟩ := List.mem_map.mp hz
    exact ⟨(List.mem_filter.mp ha).1, rfl⟩
  obtain ⟨hxa, hxi⟩ := halert (hitems.mem_iff.mp ((S.perm _ _).mem_iff.mp hx))
  obtain ⟨hya, hyi⟩ := halert ((S.perm _ _).mem_iff.mp hy)
  have hid : identifier B x.alert = identifier B y.alert :=
    lexLe_antisymm (f := front) (g := fun z => identifier B z.alert) hxy hyx
  have : Std.Symm fun a b : Alert => identifier B a ≠ identifier B b := ⟨fun _ _ h => h.symm⟩
  by_contra hne
  refine hdiffer.forall hxa hya (fun heq => hne ?_) hid
  rw [hxi, hyi, heq]

theorem ranks_queueOf (queue : List Item) :
    (queueOf B threshold queue).map (· "queue_priority_rank") =
      (List.range queue.length).map fun i => some (.int (i + 1)) := by
  refine List.ext_getElem (by simp [queueOf]) fun i h h' => ?_
  simp [queueOf, Item.entry, Alert.set, Function.update]

theorem Rankable.triage {alerts : List Alert} (h : Rankable B threshold alerts) : Triage B threshold S alerts := by
  obtain ⟨hcomparable, hnumbers⟩ := h.items
  have hsorted : sortedAlerts B S threshold alerts = .ok _ := sortedAlerts_eq_ok.mpr ⟨h.converts, rfl⟩
  refine ⟨_, _, hsorted, by rw [rankRfAlertsForTriageQueue, if_neg Bool.false_ne_true, hsorted]; rfl, ?_⟩
  constructor
  · refine (alerts_perm hsorted).trans (.of_eq (List.filter_congr fun a ha => ?_))
    exact ne_nan_iff_isRf (h.numbers a ha)
  · intro item hitem
    obtain ⟨a, ha, rfl⟩ := List.mem_map.mp ((S.perm _ _).mem_iff.mp hitem)
    obtain ⟨ha, hadmits⟩ := List.mem_filter.mp ha
    exact readAlert_eq_ok.mpr ⟨h.converts a ha, by rw [itemOf, if_pos hadmits]; rfl⟩
  · exact (pairwise_sort B S hcomparable hnumbers).imp And.right
  · rfl
  · exact ranks_queueOf _
  · intro alerts' queue' hsame h'
    exact admitted_blind hsame hsorted h'
  · intro hdiffer alerts' hperm
    have hsorted' : sortedAlerts B S threshold alerts' = .ok _ :=
      sortedAlerts_eq_ok.mpr ⟨fun a ha => h.converts a (hperm.mem_iff.mp ha), rfl⟩
    rw [rankRfAlertsForTriageQueue, if_neg Bool.false_ne_true, hsorted', sorted_eq_of_perm h hperm hdiffer]
    rfl

theorem Triage.rankable {alerts : List Alert} (h : Triage B threshold S alerts) : Rankable B threshold alerts := by
  obtain ⟨queue, entries, hsorted, -, h⟩ := h
  have hperm := alerts_perm hsorted
  obtain ⟨hconverts, hqueue⟩ := sortedAlerts_eq_ok.mp hsorted
  refine ⟨hconverts, fun a ha hnan => ?_, ?_⟩
  · -- an alert whose probability is NaN is kept, and is no random-forest alert
    have hsub : (alerts.filter (isRfAlert B)).Sublist (alerts.filter (admits B)) :=
      List.monotone_filter_right alerts fun a => admits_of_isRf
    have heq := hsub.eq_of_length (h.admitted.symm.trans hperm).length_eq
    have hmem : a ∈ alerts.filter (isRfAlert B) := by
      rw [heq, List.mem_filter, admits, hnan]
      exact ⟨ha, by simp⟩
    have hrf := (List.mem_filter.mp hmem).2
    rw [isRfAlert, hnan] at hrf
    simp at hrf
  · have hcomparable : ((alerts.filter (admits B)).map (itemOf B threshold)).Pairwise Comparable := by
      refine ((S.perm (keyLt B) _).pairwise_iff Comparable.symm).mp ?_
      rw [← hqueue]
      exact h.sorted.imp Before.comparable
    rw [List.pairwise_map, List.pairwise_filter] at hcomparable
    refine hcomparable.imp fun {a b} hab ha hb hburst => ?_
    obtain ⟨hra, hrb⟩ := hab ha hb hburst
    exact ⟨mt anomalyRatio_eq_nan.mpr hra, mt anomalyRatio_eq_nan.mpr hrb⟩

end Promise

/-- **The triage queue keeps its promise exactly for rankable alerts.** -/
theorem triage_iff (B : Builtins) (S : ListSort) (threshold : Double) (alerts : List Alert) :
    Triage B threshold S alerts ↔ Rankable B threshold alerts :=
  ⟨Triage.rankable, Rankable.triage⟩

/-! ## An alert without a probability -/

/-- A sort that keeps the promise of `list.sort`. -/
def insertionSort : ListSort where
  sort lt xs := xs.insertionSort fun x y => lt y x = false
  perm lt xs := List.perm_insertionSort _ xs
  sorted lt xs h := by
    -- the comparison is total and transitive on the elements, which is all that the sort sees
    let r : { x // x ∈ xs } → { x // x ∈ xs } → Prop := fun x y => lt y.1 x.1 = false
    have : Std.Total r := ⟨fun x y => by
      by_cases hlt : lt y.1 x.1 = true
      · exact .inr (h.asymm _ y.2 _ x.2 hlt)
      · exact .inl (Bool.eq_false_iff.mpr hlt)⟩
    have : IsTrans _ r := ⟨fun x y z hxy hyz => h.trans _ x.2 _ y.2 _ z.2 hxy hyz⟩
    have hsorted := List.pairwise_insertionSort r xs.attach
    have hmap : (xs.attach.insertionSort r).map Subtype.val = xs.insertionSort fun x y => lt y x = false := by
      rw [List.map_insertionSort r (fun x y => lt y x = false) _ _ fun _ _ _ _ => .rfl, List.attach_map_subtype_val]
    rw [← hmap, List.pairwise_map]
    exact hsorted

def plainBuiltins : Builtins := ⟨fun _ => none, fun _ => none, fun _ => [], fun _ _ => ""⟩

/-- What `json.loads` reads from `{"rf_attack_probability": NaN}`. -/
def nanAlert : Alert := Alert.set (fun _ => none) "rf_attack_probability" (.float .nan)

theorem nanAlert_queued :
    ¬ Triage plainBuiltins CANONICAL_V2_AE_THRESHOLD insertionSort [nanAlert] := by
  intro h
  exact h.rankable.numbers nanAlert List.mem_cons_self (by
    rw [probability?, probabilityOf]
    simp [Alert.given, nanAlert, Alert.set, toFloat, Except.toOption])

end ThreatFusion.Risk
