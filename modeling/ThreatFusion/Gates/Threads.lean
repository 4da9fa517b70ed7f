import ThreatFusion.Gates.Runs
import Mathlib.Logic.Function.Basic
/-
# Threads at one gate

`acquire` reads the clock before it takes the lock (:241), so between the two steps of one thread any other thread
may take the lock, and leave a later reading behind. Every other method is one step.

* `threadStep_gate`: whatever the schedule, the gate sees a run of whole calls.
* `no_false_clock_failure`: under a clock that never goes backwards, an acquire fails exactly when it comes to the
  lock after one that holds a later reading.
* `overtaken_acquire_fails`: two threads are enough for that.
-/
namespace ThreatFusion.Gates
open Py Admission Alerts Machine ProducerExecutionGates

section
variable {ι : Type} [DecidableEq ι]

/-- The gate, and for each thread inside `acquire` the reading it brings to the lock. -/
structure Shared (ι : Type) where
  gate : ProducerExecutionGates
  pending : ι → Option ℤ

/-- A step of one thread; a thread inside `acquire` can only go on to the lock. -/
inductive ThreadStep (ι : Type) where
  | readClock (thread : ι) (producer : Option AdmittedProducer) (reading : ClockReading)
  | lock (thread : ι) (token : OwnershipToken)
  | call (thread : ι) (call : GateCall)

/-- The calls that are one step: all but `acquire`. -/
def GateCall.atomic : GateCall → Bool
  | .acquire _ _ _ => false
  | _ => true

/-- The reply of the call that ends with this step, if one does. -/
def threadStep (sha256 : Bytes → String) (s : Shared ι) (step : ThreadStep ι) : Option GateReply × Shared ι :=
  match step with
  | .readClock thread producer reading => match s.pending thread with
    | some _ => (none, s)
    | none => match validateProducer producer with
      | .error e => (some (.raised e), s)
      | .ok () => match s.gate.readClock reading with
        | (.error e, gate) => (some (.raised e), { s with gate })
        | (.ok nowNs, gate) => (none, ⟨gate, Function.update s.pending thread (some nowNs)⟩)
  | .lock thread token => match s.pending thread with
    | none => (none, s)
    | some nowNs =>
      let (r, gate) := s.gate.acquireLocked sha256 nowNs token
      (some (.ofDecision r), ⟨gate, Function.update s.pending thread none⟩)
  | .call thread call => match s.pending thread with
    | some _ => (none, s)
    | none =>
      if call.atomic then
        let (r, gate) := gateStep sha256 s.gate call
        (some r, { s with gate })
      else (none, s)

def Shared.new (gateInstanceId : String) : Shared ι := ⟨.new gateInstanceId, fun _ => none⟩

variable (sha256 : Bytes → String) (gateInstanceId : String) (steps : List (ThreadStep ι))

/-- The state before step `k`. -/
def sharedAt (k : Nat) : Shared ι := stateAt (threadStep sha256) (.new gateInstanceId) steps k

def threadReply (k : Nat) : Option (Option GateReply) := replyAt (threadStep sha256) (.new gateInstanceId) steps k

/-- Every reading is valid and none is smaller than an earlier one. -/
structure MonotoneClock : Prop where
  valid : ∀ (k : ℕ) thread producer reading, steps[k]? = some (.readClock thread producer reading) →
    ∃ t, reading = .int t ∧ 0 ≤ t ∧ t ≤ MAX_MONOTONIC_NS
  monotone : ∀ (k l : ℕ) thread thread' producer producer' s t, k ≤ l →
    steps[k]? = some (.readClock thread producer (.int s)) →
    steps[l]? = some (.readClock thread' producer' (.int t)) → s ≤ t

/-- At step `k` a thread comes to the lock with reading `t`. -/
def Enters (k : Nat) (t : ℤ) : Prop :=
  ∃ thread token, steps[k]? = some (.lock thread token) ∧ (sharedAt sha256 gateInstanceId steps k).pending thread = some t

/-- No thread comes to the lock after one with a later reading. -/
def InReadOrder : Prop :=
  ∀ j k s t, j < k → Enters sha256 gateInstanceId steps j s → Enters sha256 gateInstanceId steps k t → s ≤ t

/-- No call of the run has raised `monotonic_clock_invalid`, and none was counted. -/
def NoClockFailure : Prop :=
  (∀ k, threadReply sha256 gateInstanceId steps k ≠ some (some (.raised .monotonicClockInvalid))) ∧
    ∀ k, (sharedAt sha256 gateInstanceId steps k).gate.clockRejectedCount = 0

variable {sha256} {gateInstanceId} {steps}

/-! ## One step -/

theorem charge_clock (sha256 : Bytes → String) (token : OwnershipToken) (g : ProducerExecutionGates) :
    (charge sha256 token g).2.lastMonotonicNs = g.lastMonotonicNs ∧
      (charge sha256 token g).2.clockRejectedCount = g.clockRejectedCount := by
  unfold charge
  split
  · exact ⟨rfl, rfl⟩
  · dsimp only
    split <;> exact ⟨rfl, rfl⟩

/-- At the lock: the reading fails against a later one, or becomes the last one. -/
theorem lock_step (sha256 : Bytes → String) {s : Shared ι} {thread : ι} {t : ℤ} (token : OwnershipToken)
    (h : s.pending thread = some t) :
    (∃ last, s.gate.lastMonotonicNs = some last ∧ t < last ∧
      (threadStep sha256 s (.lock thread token)).1 = some (.raised .monotonicClockInvalid) ∧
      (threadStep sha256 s (.lock thread token)).2.gate = s.gate.clockRejected) ∨
    ((∀ last, s.gate.lastMonotonicNs = some last → last ≤ t) ∧
      (threadStep sha256 s (.lock thread token)).1 ≠ some (.raised .monotonicClockInvalid) ∧
      (threadStep sha256 s (.lock thread token)).2.gate.lastMonotonicNs = some t ∧
      (threadStep sha256 s (.lock thread token)).2.gate.clockRejectedCount = s.gate.clockRejectedCount) := by
  simp only [threadStep, h, acquireLocked, refill]
  cases hlast : s.gate.lastMonotonicNs with
  | none =>
    have hcharge := charge_clock sha256 token { s.gate with lastMonotonicNs := some t }
    exact .inr ⟨nofun, nofun, hcharge.1, hcharge.2⟩
  | some last =>
    by_cases hlt : t < last
    · simp only [if_pos hlt]
      exact .inl ⟨last, rfl, hlt, rfl, trivial⟩
    · simp only [if_neg hlt]
      refine .inr ⟨fun last' h' => ?_, nofun, (charge_clock sha256 token _).1, (charge_clock sha256 token _).2⟩
      cases h'
      exact not_lt.1 hlt

/-- Any other step, under a valid reading, leaves the gate's clock alone. -/
theorem quiet_step (sha256 : Bytes → String) (s : Shared ι) (step : ThreadStep ι)
    (hvalid : ∀ thread producer reading, step = .readClock thread producer reading →
      ∃ t, reading = .int t ∧ 0 ≤ t ∧ t ≤ MAX_MONOTONIC_NS)
    (hlock : ∀ thread token, step = .lock thread token → s.pending thread = none) :
    (threadStep sha256 s step).1 ≠ some (.raised .monotonicClockInvalid) ∧
      (threadStep sha256 s step).2.gate.lastMonotonicNs = s.gate.lastMonotonicNs ∧
      (threadStep sha256 s step).2.gate.clockRejectedCount = s.gate.clockRejectedCount := by
  have hunfinished : (none : Option GateReply) ≠ some (.raised .monotonicClockInvalid) := (Option.some_ne_none _).symm
  cases step with
  | readClock thread producer reading =>
    obtain ⟨t, rfl, hlo, hhi⟩ := hvalid thread producer reading rfl
    simp only [threadStep]
    cases s.pending thread with
    | some _ => exact ⟨hunfinished, rfl, rfl⟩
    | none =>
      cases hproducer : validateProducer producer with
      | error e =>
        rw [error_validateProducer hproducer]
        exact ⟨by simp, rfl, rfl⟩
      | ok =>
        simp only [readClock, if_pos (And.intro hlo hhi)]
        exact ⟨hunfinished, trivial, trivial⟩
  | lock thread token =>
    simp only [threadStep, hlock thread token rfl]
    exact ⟨hunfinished, trivial, trivial⟩
  | call thread call =>
    simp only [threadStep]
    cases s.pending thread with
    | some _ => exact ⟨hunfinished, rfl, rfl⟩
    | none =>
      by_cases hatomic : call.atomic = true
      · rw [if_pos hatomic]
        have hout := gateStep_outcome sha256 s.gate call
        generalize gateStep sha256 s.gate call = r at hout
        obtain ⟨reply, gate⟩ := r
        dsimp only at hout ⊢
        cases hout with
        | refused _ he => exact ⟨fun heq => he (GateReply.raised.inj (Option.some.inj heq)), rfl, rfl⟩
        | entered | released => exact ⟨by simp, rfl, rfl⟩
        | clockRefused | limited | busy | accepted => cases hatomic
      · rw [if_neg hatomic]
        exact ⟨hunfinished, rfl, rfl⟩

/-! ## The gate under threads -/

theorem readClock_ok {g g' : ProducerExecutionGates} {reading : ClockReading} {now : ℤ}
    (h : g.readClock reading = (.ok now, g')) : g' = g ∧ 0 ≤ now ∧ now ≤ MAX_MONOTONIC_NS := by
  cases reading with
  | raises | other => cases h
  | int value =>
    unfold readClock at h
    dsimp only at h
    split at h
    · rename_i hvalue
      cases h
      exact ⟨rfl, hvalue⟩
    · cases h

/-- Readings that wait for the lock passed the check of the clock. -/
def PendingValid (s : Shared ι) : Prop := ∀ thread t, s.pending thread = some t → 0 ≤ t ∧ t ≤ MAX_MONOTONIC_NS

omit [DecidableEq ι] in
theorem pendingValid_new (gateInstanceId : String) : PendingValid (Shared.new gateInstanceId : Shared ι) := by
  intro thread t h
  cases h

theorem PendingValid.update {s : Shared ι} (hs : PendingValid s) (gate : ProducerExecutionGates) (thread : ι)
    {reading : Option ℤ} (h : ∀ t, reading = some t → 0 ≤ t ∧ t ≤ MAX_MONOTONIC_NS) :
    PendingValid ⟨gate, Function.update s.pending thread reading⟩ := by
  intro other t ht
  by_cases hother : other = thread
  · subst hother
    dsimp only at ht
    rw [Function.update_self] at ht
    exact h t ht
  · dsimp only at ht
    rw [Function.update_of_ne hother] at ht
    exact hs other t ht

theorem acquire_valid (sha256 : Bytes → String) (g : ProducerExecutionGates) (token : OwnershipToken) {t : ℤ}
    (ht : 0 ≤ t ∧ t ≤ MAX_MONOTONIC_NS) :
    g.acquire sha256 (some registeredProducer) (.int t) token = g.acquireLocked sha256 t token := by
  have hproducer : validateProducer (some registeredProducer) = .ok () := by decide
  simp only [acquire, hproducer, readClock, if_pos ht]

/-- **Whatever the schedule, the gate sees whole calls.** -/
theorem threadStep_gate (sha256 : Bytes → String) (token : OwnershipToken) {s : Shared ι} (hs : PendingValid s)
    (step : ThreadStep ι) : PendingValid (threadStep sha256 s step).2 ∧
      ((threadStep sha256 s step).2.gate = s.gate ∨
        ∃ call, (threadStep sha256 s step).2.gate = (gateStep sha256 s.gate call).2) := by
  cases step with
  | readClock thread producer reading =>
    simp only [threadStep]
    cases s.pending thread with
    | some _ => exact ⟨hs, .inl rfl⟩
    | none =>
      cases validateProducer producer with
      | error e => exact ⟨hs, .inl rfl⟩
      | ok =>
        have hproducer : validateProducer (some registeredProducer) = .ok () := by decide
        cases hread : s.gate.readClock reading with
        | mk r gate =>
          cases r with
          | error e =>
            refine ⟨hs, .inr ⟨.acquire (some registeredProducer) reading token, ?_⟩⟩
            simp only [gateStep, acquire, hproducer, hread]
          | ok now =>
            obtain ⟨rfl, hnow⟩ := readClock_ok hread
            refine ⟨hs.update s.gate thread fun t ht => ?_, .inl rfl⟩
            cases ht
            exact hnow
  | lock thread token' =>
    simp only [threadStep]
    cases hpending : s.pending thread with
    | none => exact ⟨hs, .inl rfl⟩
    | some t =>
      refine ⟨hs.update _ thread nofun, .inr ⟨.acquire (some registeredProducer) (.int t) token', ?_⟩⟩
      simp only [gateStep, acquire_valid sha256 s.gate token' (hs thread t hpending)]
  | call thread call =>
    simp only [threadStep]
    cases s.pending thread with
    | some _ => exact ⟨hs, .inl rfl⟩
    | none =>
      by_cases hatomic : call.atomic = true
      · rw [if_pos hatomic]
        exact ⟨hs, .inr ⟨call, rfl⟩⟩
      · rw [if_neg hatomic]
        exact ⟨hs, .inl rfl⟩

/-- So every interleaving keeps the gate sound. -/
theorem sound_shared (token : OwnershipToken) (k : Nat) : Sound (sharedAt sha256 gateInstanceId steps k).gate := by
  refine (stateAt_inv (I := fun s : Shared ι => PendingValid s ∧ Sound s.gate) (fun s step h => ?_)
    ⟨pendingValid_new gateInstanceId, sound_new gateInstanceId⟩ k).2
  obtain ⟨hpending, hgate⟩ := threadStep_gate sha256 token h.1 step
  refine ⟨hpending, ?_⟩
  rcases hgate with hsame | ⟨call, hcall⟩
  · rw [hsame]
    exact h.2
  · rw [hcall]
    exact gateStep_sound s.gate call h.2

/-! ## The clock over a run -/

theorem Enters.unique {k : Nat} {s t : ℤ} (hs : Enters sha256 gateInstanceId steps k s)
    (ht : Enters sha256 gateInstanceId steps k t) : s = t := by
  obtain ⟨thread, token, hstep, hpending⟩ := hs
  obtain ⟨thread', token', hstep', hpending'⟩ := ht
  rw [hstep] at hstep'
  cases hstep'
  exact Option.some.inj (hpending.symm.trans hpending')

variable (sha256) (gateInstanceId) in
/-- What step `k` does to the clock of the gate: it fails, it moves the clock, or it does not come to the lock. -/
theorem clock_step (hclock : MonotoneClock steps) (k : Nat) :
    (∃ t last, Enters sha256 gateInstanceId steps k t ∧
      (sharedAt sha256 gateInstanceId steps k).gate.lastMonotonicNs = some last ∧ t < last ∧
      threadReply sha256 gateInstanceId steps k = some (some (.raised .monotonicClockInvalid)) ∧
      (sharedAt sha256 gateInstanceId steps (k + 1)).gate = (sharedAt sha256 gateInstanceId steps k).gate.clockRejected) ∨
    (∃ t, Enters sha256 gateInstanceId steps k t ∧
      (∀ last, (sharedAt sha256 gateInstanceId steps k).gate.lastMonotonicNs = some last → last ≤ t) ∧
      threadReply sha256 gateInstanceId steps k ≠ some (some (.raised .monotonicClockInvalid)) ∧
      (sharedAt sha256 gateInstanceId steps (k + 1)).gate.lastMonotonicNs = some t ∧
      (sharedAt sha256 gateInstanceId steps (k + 1)).gate.clockRejectedCount =
        (sharedAt sha256 gateInstanceId steps k).gate.clockRejectedCount) ∨
    ((∀ t, ¬ Enters sha256 gateInstanceId steps k t) ∧
      threadReply sha256 gateInstanceId steps k ≠ some (some (.raised .monotonicClockInvalid)) ∧
      (sharedAt sha256 gateInstanceId steps (k + 1)).gate.lastMonotonicNs =
        (sharedAt sha256 gateInstanceId steps k).gate.lastMonotonicNs ∧
      (sharedAt sha256 gateInstanceId steps (k + 1)).gate.clockRejectedCount =
        (sharedAt sha256 gateInstanceId steps k).gate.clockRejectedCount) := by
  cases hstep : steps[k]? with
  | none =>
    refine .inr (.inr ⟨fun t henters => ?_, ?_, ?_⟩)
    · obtain ⟨thread, token, henter, -⟩ := henters
      rw [hstep] at henter
      cases henter
    · rw [threadReply, replyAt, hstep]
      exact (Option.some_ne_none _).symm
    · rw [sharedAt, sharedAt, stateAt_succ_none _ hstep]
      exact ⟨rfl, rfl⟩
  | some step =>
    have hreply : threadReply sha256 gateInstanceId steps k =
        some (threadStep sha256 (sharedAt sha256 gateInstanceId steps k) step).1 := by
      rw [threadReply, replyAt, hstep]
      rfl
    have hnext : sharedAt sha256 gateInstanceId steps (k + 1) =
        (threadStep sha256 (sharedAt sha256 gateInstanceId steps k) step).2 := stateAt_succ _ hstep
    rw [hreply, hnext]
    by_cases henters : ∃ t, Enters sha256 gateInstanceId steps k t
    · obtain ⟨t, henter⟩ := henters
      obtain ⟨thread, token, hlock, hpending⟩ := id henter
      rw [hstep] at hlock
      cases hlock
      rcases lock_step sha256 token hpending with ⟨last, hlast, hlt, hraised, hgate⟩ | ⟨hle, hraised, hlast, hcount⟩
      · exact .inl ⟨t, last, henter, hlast, hlt, congrArg some hraised, hgate⟩
      · exact .inr (.inl ⟨t, henter, hle, fun heq => hraised (Option.some.inj heq), hlast, hcount⟩)
    · have hquiet := quiet_step sha256 (sharedAt sha256 gateInstanceId steps k) step
        (fun thread producer reading heq => hclock.valid k thread producer reading (heq ▸ hstep))
        (fun thread token heq => by
          by_contra hsome
          obtain ⟨t, ht⟩ := Option.ne_none_iff_exists'.1 hsome
          exact henters ⟨t, thread, token, heq ▸ hstep, ht⟩)
      exact .inr (.inr ⟨not_exists.1 henters, fun heq => hquiet.1 (Option.some.inj heq), hquiet.2⟩)

/-- The gate's clock is the latest of the readings that came to the lock. -/
theorem latest (hclock : MonotoneClock steps) (k : Nat) :
    (∀ j s, j < k → Enters sha256 gateInstanceId steps j s →
      ∃ last, (sharedAt sha256 gateInstanceId steps k).gate.lastMonotonicNs = some last ∧ s ≤ last) ∧
    ∀ last, (sharedAt sha256 gateInstanceId steps k).gate.lastMonotonicNs = some last →
      ∃ j < k, Enters sha256 gateInstanceId steps j last := by
  induction k with
  | zero => exact ⟨fun j s hj => absurd hj (Nat.not_lt_zero j), nofun⟩
  | succ k ih =>
    obtain ⟨hbelow, hlatest⟩ := ih
    rcases clock_step sha256 gateInstanceId hclock k with
      ⟨t, last, henter, hlast, hlt, -, hgate⟩ | ⟨t, henter, hle, -, hlast, -⟩ | ⟨hnone, -, hlast, -⟩
    · rw [hgate]
      refine ⟨fun j s hj hs => ?_, fun last' h' => ?_⟩
      · rcases Nat.lt_succ_iff_lt_or_eq.1 hj with hj | rfl
        · exact hbelow j s hj hs
        · exact ⟨last, hlast, (hs.unique henter).symm ▸ hlt.le⟩
      · obtain ⟨j, hj, hs⟩ := hlatest last' h'
        exact ⟨j, Nat.lt_succ_of_lt hj, hs⟩
    · refine ⟨fun j s hj hs => ⟨t, hlast, ?_⟩, fun last' h' => ?_⟩
      · rcases Nat.lt_succ_iff_lt_or_eq.1 hj with hj | rfl
        · obtain ⟨last, hlast', hs'⟩ := hbelow j s hj hs
          exact hs'.trans (hle last hlast')
        · exact (hs.unique henter).le
      · rw [hlast] at h'
        cases h'
        exact ⟨k, Nat.lt_succ_self k, henter⟩
    · rw [hlast]
      refine ⟨fun j s hj hs => ?_, fun last' h' => ?_⟩
      · rcases Nat.lt_succ_iff_lt_or_eq.1 hj with hj | rfl
        · exact hbelow j s hj hs
        · exact absurd hs (hnone s)
      · obtain ⟨j, hj, hs⟩ := hlatest last' h'
        exact ⟨j, Nat.lt_succ_of_lt hj, hs⟩

/-- **False clock failures, exactly.** Under a clock that never goes backwards, no acquire fails on it if and only if
the threads come to the lock in the order of their readings. -/
theorem no_false_clock_failure (sha256 : Bytes → String) (gateInstanceId : String) (steps : List (ThreadStep ι))
    (hclock : MonotoneClock steps) :
    NoClockFailure sha256 gateInstanceId steps ↔ InReadOrder sha256 gateInstanceId steps := by
  constructor
  · rintro ⟨hreply, -⟩ j k s t hjk hs ht
    obtain ⟨last, hlast, hle⟩ := (latest hclock k).1 j s hjk hs
    rcases clock_step sha256 gateInstanceId hclock k with
      ⟨-, -, -, -, -, hraised, -⟩ | ⟨t', henter, hle', -, -, -⟩ | ⟨hnone, -, -, -⟩
    · exact absurd hraised (hreply k)
    · rw [ht.unique henter]
      exact hle.trans (hle' last hlast)
    · exact absurd ht (hnone t)
  · intro horder
    have hstep : ∀ k, threadReply sha256 gateInstanceId steps k ≠ some (some (.raised .monotonicClockInvalid)) ∧
        (sharedAt sha256 gateInstanceId steps (k + 1)).gate.clockRejectedCount =
          (sharedAt sha256 gateInstanceId steps k).gate.clockRejectedCount := by
      intro k
      rcases clock_step sha256 gateInstanceId hclock k with
        ⟨t, last, henter, hlast, hlt, -, -⟩ | ⟨t, -, -, hraised, -, hcount⟩ | ⟨-, hraised, -, hcount⟩
      · obtain ⟨j, hj, hs⟩ := (latest hclock k).2 last hlast
        exact absurd (horder j k last t hj hs henter) (not_le.2 hlt)
      · exact ⟨hraised, hcount⟩
      · exact ⟨hraised, hcount⟩
    refine ⟨fun k => (hstep k).1, fun k => ?_⟩
    induction k with
    | zero => rfl
    | succ k ih => rw [(hstep k).2, ih]

end

/-! ### Two threads -/

/-- Thread 0 reads the clock, then thread 1; they come to the lock in the given order. -/
def twoThreads (first second : ℕ) : List (ThreadStep ℕ) :=
  [.readClock 0 (some registeredProducer) (.int 500), .readClock 1 (some registeredProducer) (.int 700),
    .lock first sampleToken, .lock second sampleToken]

theorem monotoneClock_twoThreads (first second : ℕ) : MonotoneClock (twoThreads first second) where
  valid k thread producer reading h := by
    match k, h with
    | 0, h => cases h; exact ⟨500, rfl, by decide, by decide⟩
    | 1, h => cases h; exact ⟨700, rfl, by decide, by decide⟩
    | 2, h => cases h
    | 3, h => cases h
    | k + 4, h => cases h
  monotone k l thread thread' producer producer' s t hkl hk hl := by
    match k, l, hk, hl with
    | 0, 0, hk, hl => cases hk; cases hl; exact le_rfl
    | 0, 1, hk, hl => cases hk; cases hl; decide
    | 1, 1, hk, hl => cases hk; cases hl; exact le_rfl
    | 1, 0, _, _ => omega
    | _, 2, _, hl => cases hl
    | _, 3, _, hl => cases hl
    | _, l + 4, _, hl => cases hl
    | 2, _, hk, _ => cases hk
    | 3, _, hk, _ => cases hk
    | k + 4, _, hk, _ => cases hk

theorem no_false_clock_failure_in_turn :
    NoClockFailure sampleSha256 sampleGateId (twoThreads 0 1) ↔ InReadOrder sampleSha256 sampleGateId (twoThreads 0 1) :=
  no_false_clock_failure sampleSha256 sampleGateId (twoThreads 0 1) (monotoneClock_twoThreads 0 1)

/-- Thread 1 overtakes thread 0 between its reading and the lock. -/
theorem overtaken_acquire_fails :
    ¬ ∀ (sha256 : Bytes → String) (gateInstanceId : String) (steps : List (ThreadStep ℕ)),
      MonotoneClock steps → NoClockFailure sha256 gateInstanceId steps := by
  intro h
  have hraised : threadReply sampleSha256 sampleGateId (twoThreads 1 0) 3 =
      some (some (.raised .monotonicClockInvalid)) := by decide +kernel
  exact (h sampleSha256 sampleGateId (twoThreads 1 0) (monotoneClock_twoThreads 1 0)).1 3 hraised

end ThreatFusion.Gates
