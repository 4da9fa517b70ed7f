import ThreatFusion.Lifecycle.Model
/-
# The lifecycle over every interleaving

`Inv` is the invariant: `Core` is about the fields, whatever the control thread is doing, and `AtPhase` is
what the control thread has established so far. A worker step keeps it because workers only ever stop
admission, close and fail (`Effect`); a control step keeps it one statement at a time.

A thread that `start` created before it raised, and that does not show within 50 ms, is lost to the code: it
is never joined. `Timely` runs are those without one.
-/
namespace ThreatFusion.Lifecycle
open Machine

/-! ## What is said of a run -/

/-- Both listeners of the current generation are open, both workers have been started. -/
structure Up (s : System) : Prop where
  listeners : s.listeners = [⟨s.attempt, .api⟩, ⟨s.attempt, .browser⟩]
  workers : s.workers = [⟨⟨s.attempt, .api⟩, false⟩, ⟨⟨s.attempt, .browser⟩, false⟩]
  opened : ∀ n ∈ s.listeners, (s.listener n).isOpen = true
  started : ∀ r ∈ s.workers, (s.worker r.worker).started = true

/-- No worker is alive and no listener is open. -/
structure Quiescent (s : System) : Prop where
  joined : ∀ n, (s.worker n).isAlive = false
  closed : ∀ n, (s.listener n).isOpen = false

/-- What holds at every moment. -/
structure Sound (s : System) : Prop where
  oneGeneration : ∀ v w, (s.worker v).isAlive = true → (s.worker w).isAlive = true → v.attempt = w.attempt
  quiescent : s.state = .stopped ∨ s.phase = .storage → Quiescent s
  accepting : s.state = .accepting → s.stop = false → Up s
  failed : ∀ r ∈ s.workers, (s.worker r.worker).raised = true → (s.worker r.worker).phase = .ended →
    (s.state = .failed ∨ s.state = .stopping) ∧ s.stop = true ∧
      ∀ n ∈ s.listeners, (s.listener n).admissionStopped = true
  joined : ∀ c e, s.phase = .idle (some (.raised c e)) → e ≠ .verification → e ≠ .closing →
    ∀ n, (s.worker n).isAlive = false

/-- The 50 ms run out only on a thread that does not exist. -/
def System.timely (s : System) (a : Action) : Prop :=
  ∀ w e e' done, s.phase = .startFailed w e → a = .control (.raises e' done) → (s.worker w).phase ≠ .unborn

def Timely (actions : List Action) : Prop :=
  ∀ k a, actions[k]? = some a → (systemAt actions k).timely a

/-! ## The invariant -/

/-- A native thread exists and has not ended. -/
def Worker.active (w : Worker) : Prop := w.phase ≠ .notCreated ∧ w.phase ≠ .ended

/-- `_state` has left `accepting` for good. -/
def System.failing (s : System) : Prop := s.state = .failed ∨ s.state = .stopping

def System.admissionClosed (s : System) (rest : List Name) : Prop :=
  s.failing ∧ s.stop = true ∧ ∀ n ∈ s.listeners, n ∈ rest ∨ (s.listener n).admissionStopped = true

/-- How far the handler of a worker has come. -/
def System.Handled (s : System) (w : Worker) : Prop :=
  match w.phase with
  | .setStop => s.failing
  | .stopAdmission rest => s.admissionClosed rest
  | .closeAll _ => s.admissionClosed []
  | .finishing | .ended => w.raised = true → s.admissionClosed []
  | .notCreated | .unborn | .waiting | .checking | .serving => w.raised = false
  | .setFailed => True

/-- What holds of the fields, wherever the control thread is. -/
structure Core (s : System) : Prop where
  listenerNames : ∀ n ∈ s.listeners, n.attempt = s.attempt
  workerNames : ∀ r ∈ s.workers, r.worker.attempt = s.attempt
  opened : ∀ n, (s.listener n).isOpen = true → n ∈ s.listeners
  threads : ∀ n, (s.worker n).active → ⟨n, false⟩ ∈ s.workers
  accepting : s.state = .accepting → Up s
  stopped : s.state = .stopped → s.workers = [] ∧ ∀ n, (s.listener n).isOpen = false
  handled : ∀ r ∈ s.workers, s.Handled (s.worker r.worker)

def both (attempt : Nat) : List Name := [⟨attempt, .api⟩, ⟨attempt, .browser⟩]

def record (n : Name) : Record := ⟨n, false⟩

/-- No worker has passed `_ready.wait()`. -/
structure Parked (s : System) : Prop where
  ready : s.ready = false
  workers : ∀ r ∈ s.workers, (s.worker r.worker).phase ∈ [.notCreated, .unborn, .waiting]

/-- What a `_shutdown` has established. -/
def AtShutdown (s : System) : ShutdownStep → Prop
  | .setStopping => True
  | .setStop | .stopAdmission _ | .setReady => s.failing
  | .close rest _ => s.failing ∧ ∀ n, (s.listener n).isOpen = true → n ∈ rest
  | .join rest _ => s.failing ∧ (∀ n, (s.listener n).isOpen = false) ∧ ∀ n, (s.worker n).active → ⟨n, false⟩ ∈ rest
  | .dropListeners _ => s.failing ∧ (∀ n, (s.listener n).isOpen = false) ∧ ∀ n, ¬ (s.worker n).active
  | .dropWorkers _ => s.failing ∧ s.listeners = [] ∧ ∀ n, ¬ (s.worker n).active
  | .setStopped _ => s.listeners = [] ∧ s.workers = []

/-- What the control thread has established. -/
def AtPhase (s : System) : Phase → Prop
  | .idle last => ∀ c e, last = some (.raised c e) → e ≠ .verification → e ≠ .closing → s.workers = []
  | .verify => True
  | .shutdown _ step => AtShutdown s step
  | .storage | .clearStop | .clearReady => s.listeners = [] ∧ s.workers = []
  | .construct rest => s.workers = [] ∧ s.listeners ++ rest.map (⟨s.attempt, ·⟩) = both s.attempt ∧ s.ready = false
  | .probe | .loadPolicy => s.workers = [] ∧ s.listeners = both s.attempt ∧ s.ready = false
  | .openAll rest => s.workers = [] ∧ s.listeners = both s.attempt ∧ s.ready = false ∧ s.state = .policyLoaded ∧
      (∀ n ∈ rest, n ∈ s.listeners) ∧ ∀ n ∈ s.listeners, n ∈ rest ∨ (s.listener n).isOpen = true
  | .spawn rest => s.listeners = both s.attempt ∧ s.ready = false ∧ s.state = .policyLoaded ∧
      (∀ n ∈ s.listeners, (s.listener n).isOpen = true) ∧
      ∃ done, done ++ rest = both s.attempt ∧ s.workers = done.map record ∧
        ∀ n ∈ done, (s.worker n).phase = .waiting
  | .start w rest => s.listeners = both s.attempt ∧ s.ready = false ∧ s.state = .policyLoaded ∧
      (∀ n ∈ s.listeners, (s.listener n).isOpen = true) ∧
      ∃ done, done ++ w :: rest = both s.attempt ∧ s.workers = (done ++ [w]).map record ∧
        (∀ n ∈ done, (s.worker n).phase = .waiting) ∧ (s.worker w).phase = .notCreated
  | .startFailed _ _ => Parked s ∧ s.state = .policyLoaded
  | .bump | .accept | .release => Up s ∧ Parked s
  | .markFailed _ => s.workers = []

structure Inv (s : System) : Prop where
  core : Core s
  unborn : ∀ n, (s.worker n).phase = .unborn → ∃ e, s.phase = .startFailed n e
  phase : AtPhase s s.phase

/-! ## Fields -/

@[simp] theorem setListener_listener (s : System) (n m : Name) (l : Listener) :
    (s.setListener n l).listener m = if m = n then l else s.listener m := rfl

@[simp] theorem setWorker_worker (s : System) (n m : Name) (w : Worker) :
    (s.setWorker n w).worker m = if m = n then w else s.worker m := rfl

theorem active_of_isAlive {w : Worker} (h : w.isAlive = true) : w.active := by
  simp only [Worker.isAlive, Worker.started, Bool.and_eq_true, bne_iff_ne] at h
  exact ⟨h.1.1, h.2⟩

theorem isAlive_of_not_active {w : Worker} (h : ¬ w.active) : w.isAlive = false :=
  Bool.not_eq_true _ ▸ fun halive => h (active_of_isAlive halive)

theorem not_active_of_workers {s : System} (h : Core s) (hnone : s.workers = []) (n : Name) :
    ¬ (s.worker n).active := fun hactive => by
  have hmem := h.threads n hactive
  rw [hnone] at hmem
  cases hmem

theorem closed_of_listeners {s : System} (h : Core s) (hnone : s.listeners = []) (n : Name) :
    (s.listener n).isOpen = false :=
  Bool.not_eq_true _ ▸ fun hopen => by
    have hmem := h.opened n hopen
    rw [hnone] at hmem
    cases hmem

theorem failing_ne {s : System} (h : s.failing) : s.state ≠ .accepting ∧ s.state ≠ .stopped := by
  rcases h with h | h <;> rw [h] <;> exact ⟨nofun, nofun⟩

theorem System.admissionClosed.mono {s s' : System} {rest : List Name} (h : s.admissionClosed rest)
    (hfailing : s.failing → s'.failing) (hstop : s.stop = true → s'.stop = true)
    (hlisteners : ∀ n ∈ s'.listeners, n ∈ s.listeners)
    (hstopped : ∀ n, (s.listener n).admissionStopped = true → (s'.listener n).admissionStopped = true) :
    s'.admissionClosed rest :=
  ⟨hfailing h.1, hstop h.2.1, fun n hn => (h.2.2 n (hlisteners n hn)).imp_right (hstopped n)⟩

/-- Nothing that a handler has done is undone while its worker is there. -/
theorem System.Handled.mono {s s' : System} {w : Worker} (h : s.Handled w) (hfailing : s.failing → s'.failing)
    (hstop : s.stop = true → s'.stop = true) (hlisteners : ∀ n ∈ s'.listeners, n ∈ s.listeners)
    (hstopped : ∀ n, (s.listener n).admissionStopped = true → (s'.listener n).admissionStopped = true) :
    s'.Handled w := by
  have hmono : ∀ rest, s.admissionClosed rest → s'.admissionClosed rest := fun rest h =>
    h.mono hfailing hstop hlisteners hstopped
  unfold Handled at h ⊢
  cases hphase : w.phase <;> simp only [hphase] at h ⊢ <;> first | exact h | exact hfailing h | skip
  case stopAdmission rest => exact hmono rest h
  case closeAll => exact hmono [] h
  case finishing => exact fun hraised => hmono [] (h hraised)
  case ended => exact fun hraised => hmono [] (h hraised)

/-! ## A worker step -/

/-- What a step of a worker may change. -/
structure Effect (s s' : System) (n : Name) : Prop where
  ready : s'.ready = s.ready
  listeners : s'.listeners = s.listeners
  workers : s'.workers = s.workers
  attempt : s'.attempt = s.attempt
  call : s'.call = s.call
  generation : s'.generation = s.generation
  phase : s'.phase = s.phase
  state : s'.state = s.state ∨ s'.state = .failed
  stop : s.stop = true → s'.stop = true
  closed : ∀ m, (s'.listener m).isOpen = true → (s.listener m).isOpen = true
  opened : (∀ m, (s'.listener m).isOpen = (s.listener m).isOpen) ∨ ∃ rest, (s.worker n).phase = .closeAll rest
  stopped : ∀ m, (s.listener m).admissionStopped = true → (s'.listener m).admissionStopped = true
  others : ∀ m, m ≠ n → s'.worker m = s.worker m
  active : (s'.worker n).active → (s.worker n).active
  started : (s.worker n).started = true → (s'.worker n).started = true
  unborn : (s'.worker n).phase = .unborn → (s.worker n).phase = .unborn

theorem Effect.refl (s : System) (n : Name) : Effect s s n :=
  ⟨rfl, rfl, rfl, rfl, rfl, rfl, rfl, .inl rfl, id, fun _ => id, .inl fun _ => rfl, fun _ => id, fun _ _ => rfl, id, id, id⟩

/-- A worker whose thread is there moves on. -/
theorem Effect.move {s t : System} {n : Name} (h : Effect s t n) {w : Worker} (hactive : (s.worker n).active)
    (hstarted : w.started = true) : Effect s (t.setWorker n w) n :=
  { h with
    others := fun m hm => by rw [setWorker_worker, if_neg hm, h.others m hm]
    active := fun _ => hactive
    started := fun _ => by rw [setWorker_worker, if_pos rfl, hstarted]
    unborn := fun hphase => by
      rw [setWorker_worker, if_pos rfl] at hphase
      simp [Worker.started, hphase] at hstarted }

/-- A listener only closes and stops admission, and closes only in the handler's last loop. -/
theorem Effect.setListener (s : System) (n l : Name) {v : Listener} (hopen : v.isOpen = true → (s.listener l).isOpen = true)
    (hstopped : v.admissionStopped = true)
    (hclosing : v.isOpen = (s.listener l).isOpen ∨ ∃ rest, (s.worker n).phase = .closeAll rest) :
    Effect s (s.setListener l v) n :=
  { Effect.refl s n with
    closed := fun m hm => by
      rw [setListener_listener] at hm
      split at hm
      · next heq => exact heq ▸ hopen hm
      · exact hm
    opened := hclosing.imp_left fun h m => by
      rw [setListener_listener]
      split
      · next heq => rw [h, heq]
      · rfl
    stopped := fun m hm => by
      rw [setListener_listener]
      split
      · exact hstopped
      · exact hm }

theorem serveStep_effect (s : System) (n : Name) (a : Answer) : Effect s (s.serveStep n a) n := by
  have hactive : (s.worker n).phase ≠ .notCreated → (s.worker n).phase ≠ .ended → (s.worker n).active := And.intro
  unfold System.serveStep
  cases hphase : (s.worker n).phase <;> simp only [hphase, ne_eq, reduceCtorEq, not_false_eq_true, forall_const] at hactive ⊢
  case notCreated => exact Effect.refl s n
  case unborn => exact (Effect.refl s n).move hactive rfl
  case waiting =>
    by_cases hready : s.ready = true
    · rw [if_pos hready]
      exact (Effect.refl s n).move hactive rfl
    · rw [if_neg hready]
      exact Effect.refl s n
  case checking =>
    refine (Effect.refl s n).move hactive ?_
    cases s.stop <;> rfl
  case serving =>
    cases a with
    | ok => exact (Effect.refl s n).move hactive rfl
    | raises e done => exact (Effect.refl s n).move hactive rfl
  case setFailed =>
    have hfields : Effect s { s with state := .failed } n := { Effect.refl s n with state := .inr rfl }
    exact hfields.move hactive rfl
  case setStop =>
    have hfields : Effect s { s with stop := true } n := { Effect.refl s n with stop := fun _ => rfl }
    exact hfields.move hactive rfl
  case stopAdmission rest =>
    cases rest with
    | nil => exact (Effect.refl s n).move hactive rfl
    | cons l rest =>
      have hfields : Effect s (s.stopAdmission l) n := Effect.setListener s n l id rfl (.inl rfl)
      exact hfields.move hactive rfl
  case closeAll rest =>
    have hclosing : ∃ rest, (s.worker n).phase = .closeAll rest := ⟨rest, hphase⟩
    cases rest with
    | nil => exact (Effect.refl s n).move hactive rfl
    | cons l rest =>
      cases a with
      | ok =>
        have hfields : Effect s (s.close l) n := Effect.setListener s n l nofun rfl (.inr hclosing)
        exact hfields.move hactive rfl
      | raises e done =>
        have hfields : Effect s (s.closeRaising l done) n :=
          Effect.setListener s n l (fun h => (Bool.and_eq_true_iff.1 h).1) rfl (.inr hclosing)
        exact hfields.move hactive rfl
  case finishing => exact (Effect.refl s n).move hactive rfl
  case ended => exact Effect.refl s n

theorem Effect.failing {s s' : System} {n : Name} (e : Effect s s' n) (h : s.failing) : s'.failing := by
  rcases e.state with hstate | hstate
  · unfold System.failing
    rwa [hstate]
  · exact .inl hstate

theorem Effect.handled {s s' : System} {n : Name} (e : Effect s s' n) {w : Worker} (h : s.Handled w) : s'.Handled w :=
  h.mono e.failing e.stop (fun _ hm => e.listeners ▸ hm) e.stopped

/-- After its step a worker has done what its place in the handler says. -/
theorem serveStep_handled {s : System} {n : Name} (hn : s.Handled (s.worker n)) (a : Answer) :
    (s.serveStep n a).Handled ((s.serveStep n a).worker n) := by
  have hmono := fun w => (serveStep_effect s n a).handled (w := w)
  unfold System.serveStep at hmono ⊢
  unfold System.Handled at hn
  cases hphase : (s.worker n).phase <;> simp only [hphase] at hn hmono ⊢
  case notCreated => rw [System.Handled, hphase]; exact hn
  case ended => rw [System.Handled, hphase]; exact hn
  case unborn => rw [setWorker_worker, if_pos rfl]; exact hn
  case waiting =>
    by_cases hready : s.ready = true
    · rw [if_pos hready, setWorker_worker, if_pos rfl]
      exact hn
    · rw [if_neg hready, System.Handled, hphase]
      exact hn
  case checking =>
    rw [setWorker_worker, if_pos rfl]
    cases s.stop with
    | false => exact hn
    | true => exact fun hraised => absurd (hraised.symm.trans hn) nofun
  case serving =>
    cases a with
    | ok => simp only [setWorker_worker, if_true]; exact hn
    | raises e done => simp only [setWorker_worker, if_true]; trivial
  case setFailed =>
    rw [setWorker_worker, if_pos rfl]
    exact .inl rfl
  case setStop =>
    rw [setWorker_worker, if_pos rfl]
    exact ⟨hn, rfl, fun _ hm => .inl hm⟩
  case stopAdmission rest =>
    cases rest with
    | nil => simp only [setWorker_worker, if_true]; exact hn
    | cons l rest =>
      simp only [setWorker_worker, if_true]
      refine ⟨hn.1, hn.2.1, fun m hm => ?_⟩
      by_cases heq : m = l
      · exact .inr (by simp [System.stopAdmission, System.setWorker, heq])
      · refine (hn.2.2 m hm).imp (fun h => (List.mem_cons.1 h).resolve_left heq) fun h => ?_
        simpa [System.stopAdmission, System.setWorker, heq] using h
  case closeAll rest =>
    cases rest with
    | nil => simp only [setWorker_worker, if_true]; exact fun _ => hn
    | cons l rest =>
      have hclosed := hmono { phase := .closeAll rest } hn
      cases a with
      | ok => simp only [setWorker_worker, if_true]; exact hclosed
      | raises e done => simp only [setWorker_worker, if_true]; exact fun _ => hclosed
  case finishing => rw [setWorker_worker, if_pos rfl]; exact hn

theorem Core.effect {s s' : System} {n : Name} (h : Core s) (hactive : (s.worker n).active) (e : Effect s s' n)
    (hn : s'.Handled (s'.worker n)) : Core s' := by
  have hmem := h.threads n hactive
  have hstate : s'.state ≠ .failed → s'.state = s.state := fun hne => e.state.resolve_right hne
  constructor
  · rw [e.listeners, e.attempt]
    exact h.listenerNames
  · rw [e.workers, e.attempt]
    exact h.workerNames
  · intro m hm
    rw [e.listeners]
    exact h.opened m (e.closed m hm)
  · intro m hm
    rw [e.workers]
    by_cases heq : m = n
    · exact heq ▸ hmem
    · rw [e.others m heq] at hm
      exact h.threads m hm
  · intro haccepting
    rw [hstate (by rw [haccepting]; nofun)] at haccepting
    have hup := h.accepting haccepting
    have hopen : ∀ m, (s'.listener m).isOpen = (s.listener m).isOpen := by
      rcases e.opened with hsame | ⟨rest, hclosing⟩
      · exact hsame
      -- a handler that closes has left `accepting` before
      · have hhandled := h.handled _ hmem
        simp only [System.Handled, hclosing] at hhandled
        exact absurd haccepting (failing_ne hhandled.1).1
    refine ⟨by rw [e.listeners, e.attempt, hup.listeners], by rw [e.workers, e.attempt, hup.workers], ?_, ?_⟩
    · intro m hm
      rw [hopen]
      exact hup.opened m (e.listeners ▸ hm)
    · intro r hr
      rw [e.workers] at hr
      by_cases heq : r.worker = n
      · rw [heq]
        exact e.started (heq ▸ hup.started r hr)
      · rw [e.others _ heq]
        exact hup.started r hr
  · intro hstopped
    rw [hstate (by rw [hstopped]; nofun)] at hstopped
    rw [(h.stopped hstopped).1] at hmem
    cases hmem
  · intro r hr
    rw [e.workers] at hr
    by_cases heq : r.worker = n
    · rw [heq]
      exact hn
    · rw [e.others _ heq]
      exact e.handled (h.handled r hr)

theorem serveStep_inactive {s : System} {n : Name} (h : ¬ (s.worker n).active) (a : Answer) :
    s.serveStep n a = s := by
  rw [Worker.active, not_and_or, ne_eq, not_not, ne_eq, not_not] at h
  rcases h with h | h <;> simp only [System.serveStep, h]

theorem serveStep_waiting {s : System} {n : Name} (hready : s.ready = false) (h : (s.worker n).phase = .waiting)
    (a : Answer) : s.serveStep n a = s := by
  simp only [System.serveStep, h, hready, Bool.false_eq_true, if_false]

/-- What a `_shutdown` has established, no worker undoes. -/
theorem Effect.atShutdown {s s' : System} {n : Name} (e : Effect s s' n) {step : ShutdownStep}
    (h : AtShutdown s step) : AtShutdown s' step := by
  have hclosed : (∀ m, (s.listener m).isOpen = false) → ∀ m, (s'.listener m).isOpen = false := fun hall m =>
    Bool.not_eq_true _ ▸ fun hm => Bool.false_ne_true ((hall m).symm.trans (e.closed m hm))
  have hactive : ∀ m, (s'.worker m).active → (s.worker m).active := fun m hm => by
    by_cases heq : m = n
    · exact heq ▸ e.active (heq ▸ hm)
    · rwa [← e.others m heq]
  cases step with
  | setStopping => trivial
  | setStop => exact e.failing h
  | stopAdmission rest => exact e.failing h
  | setReady => exact e.failing h
  | close rest interrupted => exact ⟨e.failing h.1, fun m hm => h.2 m (e.closed m hm)⟩
  | join rest interrupted => exact ⟨e.failing h.1, hclosed h.2.1, fun m hm => h.2.2 m (hactive m hm)⟩
  | dropListeners interrupted => exact ⟨e.failing h.1, hclosed h.2.1, fun m hm => h.2.2 m (hactive m hm)⟩
  | dropWorkers interrupted =>
    exact ⟨e.failing h.1, e.listeners.trans h.2.1, fun m hm => h.2.2 m (hactive m hm)⟩
  | setStopped interrupted => exact ⟨e.listeners.trans h.1, e.workers.trans h.2⟩

/-- A parked worker moves only to `_ready.wait()`. -/
theorem serveStep_parked {s : System} (h : Parked s) (n : Name) (a : Answer) (hmem : ⟨n, false⟩ ∈ s.workers) :
    s.serveStep n a = s ∨ s.serveStep n a = s.setWorker n { s.worker n with phase := .waiting } := by
  have hphase := h.workers _ hmem
  simp only [List.mem_cons, List.not_mem_nil, or_false] at hphase
  rcases hphase with hphase | hphase | hphase
  · exact .inl (serveStep_inactive (fun hactive => hactive.1 hphase) a)
  · right
    simp only [System.serveStep, hphase]
  · exact .inl (serveStep_waiting h.ready hphase a)

theorem Parked.setWorker {s : System} (h : Parked s) (n : Name) {w : Worker}
    (hw : w.phase ∈ [.notCreated, .unborn, .waiting]) : Parked (s.setWorker n w) := by
  refine ⟨h.ready, fun r hr => ?_⟩
  rw [setWorker_worker]
  split
  · exact hw
  · exact h.workers r hr

theorem worker_inv {s : System} (h : Inv s) (n : Name) (a : Answer) : Inv (s.serveStep n a) := by
  by_cases hinactive : ¬ (s.worker n).active
  · rwa [serveStep_inactive hinactive]
  have hactive := not_not.1 hinactive
  have e := serveStep_effect s n a
  have hmem := h.core.threads n hactive
  have hempty : s.workers ≠ [] := List.ne_nil_of_mem hmem
  by_cases hsame : s.serveStep n a = s
  · rwa [hsame]
  refine ⟨h.core.effect hactive e (serveStep_handled (h.core.handled _ hmem) a), fun m hm => ?_, ?_⟩
  · rw [e.phase]
    by_cases heq : m = n
    · exact heq ▸ h.unborn n (e.unborn (heq ▸ hm))
    · exact h.unborn m (e.others m heq ▸ hm)
  · have hphase := h.phase
    rw [e.phase]
    -- where no worker has passed the wait, only the one of a failed `start` can move
    have hstuck : Parked s → (∀ x, s.phase ≠ .startFailed n x) → False := fun hp hne => by
      have hn := hp.workers _ hmem
      simp only [List.mem_cons, List.not_mem_nil, or_false] at hn
      rcases hn with hn | hn | hn
      · exact hactive.1 hn
      · obtain ⟨x, hx⟩ := h.unborn n hn
        exact hne x hx
      · exact hsame (serveStep_waiting hp.ready hn a)
    have hwaits : ∀ done : List Name, s.workers = done.map record → s.ready = false →
        (∀ m ∈ done, (s.worker m).phase ∈ [.notCreated, .unborn, .waiting]) → Parked s :=
      fun done hworkers hready hdone => ⟨hready, fun r hr => by
        rw [hworkers] at hr
        obtain ⟨m, hm, rfl⟩ := List.mem_map.1 hr
        exact hdone m hm⟩
    cases hs : s.phase <;> simp only [hs, AtPhase] at hphase ⊢
    case idle last => exact fun c x hlast hv hc => absurd (hphase c x hlast hv hc) hempty
    case shutdown k step => exact e.atShutdown hphase
    case storage => exact absurd hphase.2 hempty
    case clearStop => exact absurd hphase.2 hempty
    case clearReady => exact absurd hphase.2 hempty
    case construct => exact absurd hphase.1 hempty
    case probe => exact absurd hphase.1 hempty
    case loadPolicy => exact absurd hphase.1 hempty
    case openAll => exact absurd hphase.1 hempty
    case markFailed => exact absurd hphase hempty
    case startFailed w x =>
      rcases serveStep_parked hphase.1 n a hmem with hmoved | hmoved
      · exact absurd hmoved hsame
      · rw [hmoved]
        exact ⟨hphase.1.setWorker n (by simp), hphase.2⟩
    case spawn rest =>
      obtain ⟨-, hready, -, -, done, -, hworkers, hdone⟩ := hphase
      exact (hstuck (hwaits done hworkers hready fun m hm => by simp [hdone m hm]) (by simp [hs])).elim
    case start w rest =>
      obtain ⟨-, hready, -, -, done, -, hworkers, hdone, hw⟩ := hphase
      refine (hstuck (hwaits _ hworkers hready fun m hm => ?_) (by simp [hs])).elim
      rcases List.mem_append.1 hm with hm | hm
      · simp [hdone m hm]
      · simp [List.mem_singleton.1 hm, hw]
    case bump => exact (hstuck hphase.2 (by simp [hs])).elim
    case accept => exact (hstuck hphase.2 (by simp [hs])).elim
    case release => exact (hstuck hphase.2 (by simp [hs])).elim

/-! ## What the control thread writes -/

/-- Has the worker not passed `_ready.wait()`? -/
def Worker.early (w : Worker) : Prop := w.phase ∈ [.notCreated, .unborn, .waiting]

theorem Up.fields {s t : System} (h : Up s) (hattempt : t.attempt = s.attempt) (hlisteners : t.listeners = s.listeners)
    (hworkers : t.workers = s.workers) (hlistener : t.listener = s.listener) (hworker : t.worker = s.worker) : Up t := by
  refine ⟨?_, ?_, ?_, ?_⟩
  · rw [hlisteners, hattempt, h.listeners]
  · rw [hworkers, hattempt, h.workers]
  · rw [hlisteners, hlistener]
    exact h.opened
  · rw [hworkers, hworker]
    exact h.started

section
variable {s : System}

/-- `Core` does not see where the control thread is. -/
theorem Core.at (h : Core s) (phase : Phase) (call : Call) (generation : Nat) (ready : Bool) :
    Core { s with phase, call, generation, ready } :=
  { h with accepting := fun hstate => (h.accepting hstate).fields rfl rfl rfl rfl rfl }

theorem Core.goto (h : Core s) (phase : Phase) : Core (s.goto phase) := h.at phase s.call s.generation s.ready

theorem Core.setState (h : Core s) (state : LifecycleState) (haccepting : state = .accepting → Up s)
    (hstopped : state = .stopped → s.workers = [] ∧ ∀ n, (s.listener n).isOpen = false)
    (hfailing : (state = .failed ∨ state = .stopping) ∨ ∀ r ∈ s.workers, (s.worker r.worker).early) :
    Core { s with state } :=
  { h with
    accepting := fun hstate => (haccepting hstate).fields rfl rfl rfl rfl rfl
    stopped := hstopped
    handled := fun r hr => by
      rcases hfailing with hfailing | hearly
      · exact (h.handled r hr).mono (fun _ => hfailing) id (fun _ => id) fun _ => id
      · have hhandled := h.handled r hr
        have hphase := hearly r hr
        simp only [Worker.early, List.mem_cons, List.not_mem_nil, or_false] at hphase
        unfold System.Handled at hhandled ⊢
        rcases hphase with hphase | hphase | hphase <;> simpa only [hphase] using hhandled }

theorem Core.setStop (h : Core s) : Core { s with stop := true } :=
  { h with
    accepting := fun hstate => (h.accepting hstate).fields rfl rfl rfl rfl rfl
    handled := fun r hr => (h.handled r hr).mono id (fun _ => rfl) (fun _ => id) fun _ => id }

theorem Core.clearStop (h : Core s) (hworkers : s.workers = []) : Core { s with stop := false } :=
  { h with
    accepting := fun hstate => (h.accepting hstate).fields rfl rfl rfl rfl rfl
    handled := fun r hr => by
      rw [hworkers] at hr
      cases hr }

/-- Outside `accepting` a listener may close and stop admission. -/
theorem Core.closeListener (h : Core s) (hfailing : s.failing) (l : Name) {v : Listener}
    (hopen : v.isOpen = true → (s.listener l).isOpen = true) (hstopped : v.admissionStopped = true) :
    Core (s.setListener l v) := by
  have hclosed : ∀ m, ((s.setListener l v).listener m).isOpen = true → (s.listener m).isOpen = true := by
    intro m hm
    rw [setListener_listener] at hm
    split at hm
    · next heq => exact heq ▸ hopen hm
    · exact hm
  refine { h with
    opened := fun m hm => h.opened m (hclosed m hm)
    accepting := fun hstate => absurd hstate (failing_ne hfailing).1
    stopped := fun hstate => absurd hstate (failing_ne hfailing).2
    handled := fun r hr => (h.handled r hr).mono id id (fun _ => id) fun m hm => ?_ }
  rw [setListener_listener]
  split
  · exact hstopped
  · exact hm

/-- Before the workers are there a listener may be opened. -/
theorem Core.openListener (h : Core s) (hworkers : s.workers = []) (hstate : s.state = .policyLoaded) {l : Name}
    (hl : l ∈ s.listeners) : Core (s.setListener l { isOpen := true }) :=
  { h with
    opened := fun m hm => by
      rw [setListener_listener] at hm
      split at hm
      · next heq => exact heq ▸ hl
      · exact h.opened m hm
    accepting := fun haccepting => absurd (hstate.symm.trans haccepting) nofun
    stopped := fun hstopped => absurd (hstate.symm.trans hstopped) nofun
    handled := fun r hr => by
      have hr' : r ∈ s.workers := hr
      rw [hworkers] at hr'
      cases hr' }

/-- A new listener is closed. -/
theorem Core.construct (h : Core s) (hworkers : s.workers = []) (slot : Slot) :
    Core { s.setListener ⟨s.attempt, slot⟩ {} with listeners := s.listeners ++ [⟨s.attempt, slot⟩] } := by
  have hclosed : ∀ m, ((s.setListener ⟨s.attempt, slot⟩ {}).listener m).isOpen = true →
      (s.listener m).isOpen = true := by
    intro m hm
    rw [setListener_listener] at hm
    split at hm
    · cases hm
    · exact hm
  constructor
  · intro m hm
    rcases List.mem_append.1 hm with hm | hm
    · exact h.listenerNames m hm
    · rw [List.mem_singleton.1 hm]
      rfl
  · exact h.workerNames
  · exact fun m hm => List.mem_append_left _ (h.opened m (hclosed m hm))
  · exact h.threads
  · intro haccepting
    have hup := (h.accepting haccepting).workers
    rw [hworkers] at hup
    cases hup
  · intro hstopped
    refine ⟨hworkers, fun m => Bool.not_eq_true _ ▸ fun hm => ?_⟩
    exact Bool.false_ne_true (((h.stopped hstopped).2 m).symm.trans (hclosed m hm))
  · intro r hr
    have hr' : r ∈ s.workers := hr
    rw [hworkers] at hr'
    cases hr'

/-- A new `replace` begins with nothing. -/
theorem Core.newAttempt (h : Core s) (hlisteners : s.listeners = []) (hworkers : s.workers = []) (attempt : Nat)
    (ready : Bool) : Core { s with ready, attempt } := by
  refine { h with
    listenerNames := fun n hn => ?_
    workerNames := fun r hr => ?_
    accepting := fun hstate => ?_ }
  · have hn' : n ∈ s.listeners := hn
    rw [hlisteners] at hn'
    cases hn'
  · have hr' : r ∈ s.workers := hr
    rw [hworkers] at hr'
    cases hr'
  · have hup := (h.accepting hstate).workers
    rw [hworkers] at hup
    cases hup

theorem Core.dropListeners (h : Core s) (hfailing : s.failing) (hclosed : ∀ n, (s.listener n).isOpen = false) :
    Core { s with listeners := [] } :=
  { h with
    listenerNames := fun _ hn => absurd hn List.not_mem_nil
    opened := fun n hn => absurd (hn.symm.trans (hclosed n)) nofun
    accepting := fun hstate => absurd hstate (failing_ne hfailing).1
    handled := fun r hr => (h.handled r hr).mono id id (fun _ hn => absurd hn List.not_mem_nil) fun _ => id }

theorem Core.dropWorkers (h : Core s) (hfailing : s.failing) (hjoined : ∀ n, ¬ (s.worker n).active) :
    Core { s with workers := [] } :=
  { h with
    workerNames := fun _ hr => absurd hr List.not_mem_nil
    threads := fun n hn => absurd hn (hjoined n)
    accepting := fun hstate => absurd hstate (failing_ne hfailing).1
    stopped := fun hstate => absurd hstate (failing_ne hfailing).2
    handled := fun _ hr => absurd hr List.not_mem_nil }

/-- A worker of the list that has not passed `_ready.wait()`. -/
theorem Core.setWorker (h : Core s) (hstate : s.state = .policyLoaded) {n : Name} (hn : ⟨n, false⟩ ∈ s.workers)
    {w : Worker} (hearly : w.early) (hraised : w.raised = false) : Core (s.setWorker n w) :=
  { h with
    threads := fun m hm => by
      by_cases heq : m = n
      · exact heq ▸ hn
      · rw [setWorker_worker, if_neg heq] at hm
        exact h.threads m hm
    accepting := fun haccepting => absurd (hstate.symm.trans haccepting) nofun
    stopped := fun hstopped => absurd (hstate.symm.trans hstopped) nofun
    handled := fun r hr => by
      rw [setWorker_worker]
      split
      · simp only [Worker.early, List.mem_cons, List.not_mem_nil, or_false] at hearly
        unfold System.Handled
        rcases hearly with hphase | hphase | hphase <;> simpa only [hphase] using hraised
      · exact (h.handled r hr).mono id id (fun _ => id) fun _ => id }

/-- A new record, before its thread is started. -/
theorem Core.spawn (h : Core s) (hstate : s.state = .policyLoaded) {n : Name} (hn : n.attempt = s.attempt) :
    Core { s.setWorker n {} with workers := s.workers ++ [⟨n, false⟩] } := by
  constructor
  · exact h.listenerNames
  · intro r hr
    rcases List.mem_append.1 hr with hr | hr
    · exact h.workerNames r hr
    · rw [List.mem_singleton.1 hr]
      exact hn
  · exact h.opened
  · intro m hm
    by_cases heq : m = n
    · exact List.mem_append_right _ (List.mem_singleton.2 (heq ▸ rfl))
    · exact List.mem_append_left _ (h.threads m (by simpa [System.setWorker, heq] using hm))
  · exact fun haccepting => absurd (hstate.symm.trans haccepting) nofun
  · exact fun hstopped => absurd (hstate.symm.trans hstopped) nofun
  · intro r hr
    have hkept : ∀ r ∈ s.workers, ({ s.setWorker n {} with workers := s.workers ++ [⟨n, false⟩] } : System).Handled
        (s.worker r.worker) := fun r hr => (h.handled r hr).mono id id (fun _ => id) fun _ => id
    by_cases heq : r.worker = n
    · simp [System.setWorker, heq, System.Handled]
    · simp only [System.setWorker, if_neg heq]
      rcases List.mem_append.1 hr with hr | hr
      · exact hkept r hr
      · exact absurd (congrArg Record.worker (List.mem_singleton.1 hr)) heq

/-- The record of a thread that was never created is marked. -/
theorem Core.markFailed (h : Core s) (hstate : s.state = .policyLoaded) {n : Name} (hn : ¬ (s.worker n).active) :
    Core { s with workers := s.workers.map fun r => if r.worker = n then ⟨n, true⟩ else r } := by
  have hnames : ∀ r ∈ s.workers.map fun r => if r.worker = n then ⟨n, true⟩ else r,
      ∃ r' ∈ s.workers, r'.worker = r.worker := by
    intro r hr
    obtain ⟨r', hr', rfl⟩ := List.mem_map.1 hr
    refine ⟨r', hr', ?_⟩
    split
    · assumption
    · rfl
  constructor
  · exact h.listenerNames
  · intro r hr
    obtain ⟨r', hr', heq⟩ := hnames r hr
    exact heq ▸ h.workerNames r' hr'
  · exact h.opened
  · intro m hm
    have hne : m ≠ n := fun heq => hn (heq ▸ hm)
    exact List.mem_map.2 ⟨⟨m, false⟩, h.threads m hm, if_neg hne⟩
  · exact fun haccepting => absurd (hstate.symm.trans haccepting) nofun
  · exact fun hstopped => absurd (hstate.symm.trans hstopped) nofun
  · intro r hr
    obtain ⟨r', hr', heq⟩ := hnames r hr
    rw [← heq]
    exact (h.handled r' hr').mono id id (fun _ => id) fun _ => id

end

/-! ## A control step -/

theorem Inv.goto {s : System} (hcore : Core s) (hunborn : ∀ n, (s.worker n).phase ≠ .unborn) {phase : Phase}
    (hphase : AtPhase (s.goto phase) phase) : Inv (s.goto phase) :=
  ⟨hcore.goto phase, fun n hn => absurd hn (hunborn n), hphase⟩

/-- An exception leaves `replace`. -/
theorem replaceRaises_inv {s : System} (hcore : Core s) (hunborn : ∀ n, (s.worker n).phase ≠ .unborn) (e : Exn)
    (hworkers : e ≠ .closing → s.workers = []) : Inv (s.replaceRaises e).2 := by
  unfold System.replaceRaises
  by_cases hnested : s.nested = true
  · rw [if_pos hnested]
    exact Inv.goto hcore hunborn trivial
  · rw [if_neg hnested]
    refine Inv.goto hcore hunborn fun c x hlast _ hclosing => hworkers fun he => hclosing ?_
    cases hlast
    exact he

theorem shutdownReturns_inv {s : System} (hcore : Core s) (hunborn : ∀ n, (s.worker n).phase ≠ .unborn)
    (hlisteners : s.listeners = []) (hworkers : s.workers = []) (interrupted : Bool) (k : Kont) :
    Inv (s.shutdownReturns interrupted k).2 := by
  have hraise : ∀ e, Inv (s.raise e).2 := fun e => Inv.goto hcore hunborn fun _ _ _ _ _ => hworkers
  have hquiet : ∀ phase, phase = .storage ∨ phase = .clearStop → Inv (s.goto phase) := by
    rintro phase (rfl | rfl) <;> exact Inv.goto hcore hunborn ⟨hlisteners, hworkers⟩
  unfold System.shutdownReturns
  cases k with
  | only =>
    cases interrupted with
    | false => exact Inv.goto hcore hunborn fun c x hlast => by cases hlast
    | true => exact hraise _
  | beforeStorage =>
    cases interrupted with
    | false => exact hquiet _ (.inl rfl)
    | true => exact hraise _
  | beforeOpen =>
    cases interrupted with
    | false => exact hquiet _ (.inr rfl)
    | true => exact replaceRaises_inv hcore hunborn _ fun _ => hworkers
  | afterError e => exact Inv.goto hcore hunborn hworkers
  | beforeRaise e => exact hraise e

theorem shutdownRaises_inv {s : System} (hcore : Core s) (hunborn : ∀ n, (s.worker n).phase ≠ .unborn) (k : Kont) :
    Inv (s.shutdownRaises k).2 := by
  have hraise : Inv (s.raise .closing).2 := Inv.goto hcore hunborn fun c x hlast _ hclosing => by
    cases hlast
    exact absurd rfl hclosing
  have hreplace := replaceRaises_inv hcore hunborn .closing fun h => absurd rfl h
  cases k with
  | only => exact hraise
  | beforeStorage => exact hraise
  | beforeOpen => exact hreplace
  | afterError e => exact hreplace
  | beforeRaise e => exact hraise

theorem started_or {w : Worker} (h : w.started = false) : w.phase = .notCreated ∨ w.phase = .unborn := by
  simp only [Worker.started, Bool.and_eq_false_iff, bne_eq_false_iff_eq] at h
  exact h

/-- One statement of `_shutdown`. -/
theorem shutdownStep_inv {s : System} (h : Inv s) {k : Kont} {step : ShutdownStep} (hs : s.phase = .shutdown k step)
    (a : Answer) : Inv (s.shutdownStep k step a).2 := by
  have hcore := h.core
  have hunborn : ∀ n, (s.worker n).phase ≠ .unborn := fun n hn => by
    obtain ⟨e, he⟩ := h.unborn n hn
    rw [hs] at he
    cases he
  have hphase : AtShutdown s step := by
    have hphase := h.phase
    rwa [hs] at hphase
  unfold System.shutdownStep
  cases step with
  | setStopping =>
    have hnext := hcore.setState .stopping nofun nofun (.inl (.inr rfl))
    exact Inv.goto hnext hunborn (.inr rfl)
  | setStop => exact Inv.goto hcore.setStop hunborn hphase
  | stopAdmission rest =>
    cases rest with
    | nil => exact Inv.goto hcore hunborn hphase
    | cons l rest =>
      have hnext : Core (s.stopAdmission l) := hcore.closeListener hphase l id rfl
      exact Inv.goto hnext hunborn hphase
  | setReady =>
    have hnext := hcore.at s.phase s.call s.generation true
    exact Inv.goto hnext hunborn ⟨hphase, hcore.opened⟩
  | close rest interrupted =>
    obtain ⟨hfailing, hopen⟩ := hphase
    cases rest with
    | nil =>
      have hclosed : ∀ n, (s.listener n).isOpen = false := fun n =>
        Bool.not_eq_true _ ▸ fun hn => absurd (hopen n hn) List.not_mem_nil
      exact Inv.goto hcore hunborn ⟨hfailing, hclosed, hcore.threads⟩
    | cons l rest =>
      have hraising : ∀ done, Core (s.closeRaising l done) := fun done =>
        hcore.closeListener hfailing l (fun hl => (Bool.and_eq_true_iff.1 hl).1) rfl
      cases a with
      | ok =>
        have hnext : Core (s.close l) := hcore.closeListener hfailing l nofun rfl
        refine Inv.goto hnext hunborn ⟨hfailing, fun n hn => ?_⟩
        by_cases heq : n = l
        · simp [System.close, System.goto, heq] at hn
        · have hmem := hopen n (by simpa [System.close, System.goto, heq] using hn)
          exact (List.mem_cons.1 hmem).resolve_left heq
      | raises e done =>
        cases e with
        | keyboardInterrupt =>
          refine Inv.goto (hraising done) hunborn ⟨hfailing, fun n hn => ?_⟩
          by_cases heq : n = l
          · exact heq ▸ List.mem_cons_self
          · exact hopen n (by simpa [System.closeRaising, System.goto, heq] using hn)
        | other => exact shutdownRaises_inv (hraising done) hunborn k
  | join rest interrupted =>
    obtain ⟨hfailing, hclosed, hactive⟩ := hphase
    cases rest with
    | nil =>
      exact Inv.goto hcore hunborn ⟨hfailing, hclosed, fun n hn => absurd (hactive n hn) List.not_mem_nil⟩
    | cons r rest =>
      -- the record that the loop leaves behind is of a thread that is not there
      have hskip : (∀ n, ⟨n, false⟩ = r → ¬ (s.worker n).active) →
          Inv (s.goto (.shutdown k (.join rest interrupted))) := fun hr =>
        Inv.goto hcore hunborn ⟨hfailing, hclosed, fun n hn =>
          (List.mem_cons.1 (hactive n hn)).resolve_left fun heq => hr n heq hn⟩
      dsimp only
      by_cases hcond : (r.failedToStart || !(s.worker r.worker).started) = true
      · rw [if_pos hcond]
        refine hskip fun n heq hn => ?_
        subst heq
        rw [Bool.false_or, Bool.not_eq_true'] at hcond
        rcases started_or hcond with hphase | hphase
        · exact hn.1 hphase
        · exact hunborn n hphase
      · rw [if_neg hcond]
        have hwait : Inv (if (s.worker r.worker).phase = .ended then s.next (.shutdown k (.join rest interrupted))
            else ((none : Option Reply), s)).2 := by
          by_cases hended : (s.worker r.worker).phase = .ended
          · rw [if_pos hended]
            refine hskip fun n heq hn => hn.2 ?_
            subst heq
            exact hended
          · rw [if_neg hended]
            exact h
        cases a with
        | ok => exact hwait
        | raises e done =>
          cases e with
          | keyboardInterrupt => exact Inv.goto hcore hunborn ⟨hfailing, hclosed, hactive⟩
          | other => exact hwait
  | dropListeners interrupted =>
    obtain ⟨hfailing, hclosed, hjoined⟩ := hphase
    exact Inv.goto (hcore.dropListeners hfailing hclosed) hunborn ⟨hfailing, rfl, hjoined⟩
  | dropWorkers interrupted =>
    obtain ⟨hfailing, hlisteners, hjoined⟩ := hphase
    exact Inv.goto (hcore.dropWorkers hfailing hjoined) hunborn ⟨hlisteners, rfl⟩
  | setStopped interrupted =>
    obtain ⟨hlisteners, hworkers⟩ := hphase
    have hearly : ∀ r ∈ s.workers, (s.worker r.worker).early := by simp [hworkers]
    have hnext := hcore.setState .stopped nofun
      (fun _ => ⟨hworkers, closed_of_listeners hcore hlisteners⟩) (.inr hearly)
    exact shutdownReturns_inv hnext hunborn hlisteners hworkers interrupted k

/-- The next of the two names is of this attempt, and new. -/
theorem names_spec {done rest : List Name} {l : Name} {attempt : Nat} (h : done ++ l :: rest = both attempt) :
    l.attempt = attempt ∧ l ∉ done := by
  have hmem : l ∈ both attempt := h ▸ List.mem_append_right _ List.mem_cons_self
  have hnodup : (done ++ l :: rest).Nodup := by
    rw [h]
    simp [both]
  constructor
  · simp only [both, List.mem_cons, List.not_mem_nil, or_false] at hmem
    rcases hmem with rfl | rfl <;> rfl
  · intro hl
    exact (List.nodup_append.1 hnodup).2.2 l hl l List.mem_cons_self rfl

theorem not_unborn {s : System} (h : Inv s) (hs : ∀ n e, s.phase ≠ .startFailed n e) (n : Name) :
    (s.worker n).phase ≠ .unborn := fun hn => by
  obtain ⟨e, he⟩ := h.unborn n hn
  exact hs n e he

theorem fails_inv {s : System} (hcore : Core s) (hunborn : ∀ n, (s.worker n).phase ≠ .unborn) (e : Raised) :
    Inv (s.fails e).2 := Inv.goto hcore hunborn trivial

theorem construct_inv {s : System} (h : Inv s) {rest : List Slot} (hs : s.phase = .construct rest) (a : Answer) :
    Inv (s.controlStep a).2 := by
  have hunborn := not_unborn h (by simp [hs])
  have hphase := h.phase
  rw [hs] at hphase
  obtain ⟨hworkers, hlisteners, hready⟩ := hphase
  simp only [System.controlStep, hs]
  cases rest with
  | nil => exact Inv.goto h.core hunborn ⟨hworkers, (List.append_nil _).symm.trans hlisteners, hready⟩
  | cons slot rest =>
    cases a with
    | ok =>
      refine Inv.goto (h.core.construct hworkers slot) hunborn ⟨hworkers, ?_, hready⟩
      show (s.listeners ++ [⟨s.attempt, slot⟩]) ++ rest.map _ = both s.attempt
      rw [List.append_assoc]
      exact hlisteners
    | raises e done => exact fails_inv h.core hunborn e

theorem openAll_inv {s : System} (h : Inv s) {rest : List Name} (hs : s.phase = .openAll rest) (a : Answer) :
    Inv (s.controlStep a).2 := by
  have hunborn := not_unborn h (by simp [hs])
  have hphase := h.phase
  rw [hs] at hphase
  obtain ⟨hworkers, hlisteners, hready, hstate, hrest, hopened⟩ := hphase
  simp only [System.controlStep, hs]
  cases rest with
  | nil =>
    refine Inv.goto h.core hunborn ⟨hlisteners, hready, hstate, fun n hn => ?_, [], hlisteners, hworkers, by simp⟩
    exact (hopened n hn).resolve_left List.not_mem_nil
  | cons l rest =>
    have hopen := h.core.openListener hworkers hstate (hrest l List.mem_cons_self)
    cases a with
    | ok =>
      refine Inv.goto hopen hunborn ⟨hworkers, hlisteners, hready, hstate,
        fun n hn => hrest n (List.mem_cons_of_mem _ hn), fun n hn => ?_⟩
      by_cases heq : n = l
      · exact .inr (by simp [System.setListener, System.goto, heq])
      · refine (hopened n hn).imp (fun hmem => (List.mem_cons.1 hmem).resolve_left heq) fun hn => ?_
        simpa [System.setListener, System.goto, heq] using hn
    | raises e done =>
      cases done with
      | false => exact fails_inv h.core hunborn e
      | true => exact fails_inv hopen hunborn e

theorem spawn_inv {s : System} (h : Inv s) {rest : List Name} (hs : s.phase = .spawn rest) (a : Answer) :
    Inv (s.controlStep a).2 := by
  have hunborn := not_unborn h (by simp [hs])
  have hphase := h.phase
  rw [hs] at hphase
  obtain ⟨hlisteners, hready, hstate, hopened, done, hboth, hworkers, hdone⟩ := hphase
  simp only [System.controlStep, hs]
  cases rest with
  | nil =>
    rw [List.append_nil] at hboth
    subst hboth
    have hphases : ∀ r ∈ s.workers, (s.worker r.worker).phase = .waiting := fun r hr => by
      rw [hworkers] at hr
      obtain ⟨n, hn, rfl⟩ := List.mem_map.1 hr
      exact hdone n hn
    have hup : Up s := ⟨hlisteners, hworkers, hopened, fun r hr => by simp [Worker.started, hphases r hr]⟩
    refine Inv.goto h.core hunborn ⟨hup.fields rfl rfl rfl rfl rfl, hready, fun r hr => ?_⟩
    have hr := hphases r hr
    simp [System.goto, hr]
  | cons l rest =>
    obtain ⟨hattempt, hnew⟩ := names_spec hboth
    refine Inv.goto (h.core.spawn hstate hattempt) (fun n hn => ?_)
      ⟨hlisteners, hready, hstate, hopened, done, hboth, ?_, fun n hn => ?_, ?_⟩
    · by_cases heq : n = l
      · simp [System.setWorker, heq] at hn
      · exact hunborn n (by simpa [System.setWorker, heq] using hn)
    · show s.workers ++ _ = _
      rw [hworkers, List.map_append]
      rfl
    · have hne : n ≠ l := fun heq => hnew (heq ▸ hn)
      simpa [System.setWorker, System.goto, hne] using hdone n hn
    · simp [System.setWorker, System.goto]

theorem start_inv {s : System} (h : Inv s) {w : Name} {rest : List Name} (hs : s.phase = .start w rest) (a : Answer) :
    Inv (s.controlStep a).2 := by
  have hunborn := not_unborn h (by simp [hs])
  have hphase := h.phase
  rw [hs] at hphase
  obtain ⟨hlisteners, hready, hstate, hopened, done, hboth, hworkers, hdone, hw⟩ := hphase
  have hmem : ⟨w, false⟩ ∈ s.workers := by
    rw [hworkers]
    exact List.mem_map_of_mem (List.mem_append_right _ (List.mem_singleton.2 rfl))
  have hparked : Parked s := ⟨hready, fun r hr => by
    rw [hworkers] at hr
    obtain ⟨n, hn, rfl⟩ := List.mem_map.1 hr
    rcases List.mem_append.1 hn with hn | hn
    · simp [record, hdone n hn]
    · simp [record, List.mem_singleton.1 hn, hw]⟩
  simp only [System.controlStep, hs]
  cases a with
  | ok =>
    have hnext : Core (s.setWorker w { phase := .waiting }) :=
      h.core.setWorker hstate hmem (by simp [Worker.early]) rfl
    refine Inv.goto hnext (fun n hn => ?_)
      ⟨hlisteners, hready, hstate, hopened, done ++ [w], ?_, hworkers, fun n hn => ?_⟩
    · by_cases heq : n = w
      · simp [System.setWorker, heq] at hn
      · exact hunborn n (by simpa [System.setWorker, heq] using hn)
    · rw [List.append_assoc]
      exact hboth
    · by_cases heq : n = w
      · simp [System.setWorker, System.goto, heq]
      · have hn' : n ∈ done := (List.mem_append.1 hn).resolve_right fun h => heq (List.mem_singleton.1 h)
        simpa [System.setWorker, System.goto, heq] using hdone n hn'
  | raises e created =>
    cases created with
    | false => exact Inv.goto h.core hunborn ⟨⟨hready, hparked.workers⟩, hstate⟩
    | true =>
      have hearly : (({ phase := .unborn } : Worker)).early := by simp [Worker.early]
      have hnext := h.core.setWorker hstate hmem hearly rfl
      have hunborn' : Parked (s.setWorker w { phase := .unborn }) := hparked.setWorker w hearly
      refine ⟨hnext.goto _, fun n hn => ?_, ⟨⟨hready, hunborn'.workers⟩, hstate⟩⟩
      by_cases heq : n = w
      · exact ⟨e, by rw [heq]; rfl⟩
      · exact absurd (by simpa [System.setWorker, System.next, System.goto, heq] using hn) (hunborn n)

/-- The wait for a thread whose `start` raised. -/
theorem startFailed_inv {s : System} (h : Inv s) {w : Name} {e : Raised} (hs : s.phase = .startFailed w e) (a : Answer)
    (htimely : s.timely (.control a)) : Inv (s.controlStep a).2 := by
  have hphase := h.phase
  rw [hs] at hphase
  have hunborn : (s.worker w).phase ≠ .unborn → ∀ n, (s.worker n).phase ≠ .unborn := fun hne n hn => by
    obtain ⟨x, hx⟩ := h.unborn n hn
    rw [hs] at hx
    cases hx
    exact hne hn
  simp only [System.controlStep, hs]
  by_cases hstarted : (s.worker w).started = true
  · rw [if_pos hstarted]
    refine fails_inv h.core (hunborn fun hn => ?_) e
    simp [Worker.started, hn] at hstarted
  · rw [if_neg hstarted]
    cases a with
    | ok => exact h
    | raises e' done =>
      have hne := htimely w e e' done hs rfl
      have hnone := (started_or (Bool.not_eq_true _ ▸ hstarted)).resolve_right hne
      have hnext := h.core.markFailed hphase.2 fun hactive => hactive.1 hnone
      exact fails_inv hnext (hunborn hne) e

/-- One statement of the control thread. -/
theorem controlStep_inv {s : System} (h : Inv s) (a : Answer) (htimely : s.timely (.control a)) :
    Inv (s.controlStep a).2 := by
  have hcore := h.core
  have hphase := h.phase
  cases hs : s.phase with
  | idle last =>
    simp only [System.controlStep, hs]
    exact h
  | shutdown k step =>
    simp only [System.controlStep, hs]
    exact shutdownStep_inv h hs a
  | construct rest => exact construct_inv h hs a
  | openAll rest => exact openAll_inv h hs a
  | spawn rest => exact spawn_inv h hs a
  | start w rest => exact start_inv h hs a
  | startFailed w e => exact startFailed_inv h hs a htimely
  | verify =>
    have hunborn := not_unborn h (by simp [hs])
    simp only [System.controlStep, hs]
    cases a with
    | ok => exact Inv.goto hcore hunborn trivial
    | raises e done =>
      refine Inv.goto hcore hunborn fun c x hlast hverify => ?_
      cases hlast
      exact absurd rfl hverify
  | storage =>
    have hunborn := not_unborn h (by simp [hs])
    rw [hs] at hphase
    simp only [System.controlStep, hs]
    cases a with
    | ok => exact Inv.goto hcore hunborn trivial
    | raises e done => exact Inv.goto hcore hunborn fun _ _ _ _ _ => hphase.2
  | clearStop =>
    have hunborn := not_unborn h (by simp [hs])
    rw [hs] at hphase
    simp only [System.controlStep, hs]
    exact Inv.goto (hcore.clearStop hphase.2) hunborn hphase
  | clearReady =>
    have hunborn := not_unborn h (by simp [hs])
    rw [hs] at hphase
    simp only [System.controlStep, hs]
    refine Inv.goto (hcore.newAttempt hphase.1 hphase.2 (s.attempt + 1) false) hunborn ⟨hphase.2, ?_, rfl⟩
    show s.listeners ++ _ = _
    rw [hphase.1]
    rfl
  | probe =>
    have hunborn := not_unborn h (by simp [hs])
    rw [hs] at hphase
    simp only [System.controlStep, hs]
    cases a with
    | ok => exact Inv.goto hcore hunborn hphase
    | raises e done => exact fails_inv hcore hunborn e
  | loadPolicy =>
    have hunborn := not_unborn h (by simp [hs])
    rw [hs] at hphase
    obtain ⟨hworkers, hlisteners, hready⟩ := hphase
    have hearly : ∀ r ∈ s.workers, (s.worker r.worker).early := by simp [hworkers]
    have hnext := hcore.setState .policyLoaded nofun nofun (.inr hearly)
    simp only [System.controlStep, hs]
    exact Inv.goto hnext hunborn ⟨hworkers, hlisteners, hready, rfl, fun _ hn => hn, fun _ hn => .inl hn⟩
  | bump =>
    have hunborn := not_unborn h (by simp [hs])
    rw [hs] at hphase
    obtain ⟨hup, hready, hearly⟩ := hphase
    simp only [System.controlStep, hs]
    have hnext := hcore.at s.phase s.call (s.generation + 1) s.ready
    exact Inv.goto hnext hunborn ⟨hup.fields rfl rfl rfl rfl rfl, hready, hearly⟩
  | accept =>
    have hunborn := not_unborn h (by simp [hs])
    rw [hs] at hphase
    obtain ⟨hup, hready, hearly⟩ := hphase
    have hnext := hcore.setState .accepting (fun _ => hup) nofun (.inr hearly)
    simp only [System.controlStep, hs]
    exact Inv.goto hnext hunborn ⟨hup.fields rfl rfl rfl rfl rfl, hready, hearly⟩
  | release =>
    have hunborn := not_unborn h (by simp [hs])
    simp only [System.controlStep, hs]
    have hnext := hcore.at s.phase s.call s.generation true
    exact Inv.goto hnext hunborn fun c x hlast => by cases hlast
  | markFailed e =>
    have hunborn := not_unborn h (by simp [hs])
    rw [hs] at hphase
    have hnext := hcore.setState .failed nofun nofun (.inl (.inl rfl))
    simp only [System.controlStep, hs]
    exact replaceRaises_inv hnext hunborn e fun _ => hphase

theorem begin_inv {s : System} (h : Inv s) (hs : ∀ n e, s.phase ≠ .startFailed n e) (call : Call) :
    Inv (s.begin call) := by
  have hcore : Core { s with call } := h.core.at s.phase call s.generation s.ready
  have hunborn := not_unborn h hs
  cases call <;> exact Inv.goto hcore hunborn trivial

/-- **One step keeps the invariant.** -/
theorem lifecycleStep_inv {s : System} (h : Inv s) (a : Action) (htimely : s.timely a) :
    Inv (lifecycleStep s a).2 := by
  cases a with
  | call c =>
    cases hs : s.phase <;> simp only [lifecycleStep, hs] <;> first | exact h | skip
    exact begin_inv h (by simp [hs]) c
  | control a => exact controlStep_inv h a htimely
  | worker n a => exact worker_inv h n a

theorem start_state_inv : Inv {} := by
  refine ⟨?_, nofun, fun _ _ h => by cases h⟩
  constructor <;> simp [Worker.active]

/-- The invariant at every moment of a run. -/
theorem systemAt_inv {actions : List Action} (h : Timely actions) (k : Nat) : Inv (systemAt actions k) :=
  stateAt_inv_of (A := System.timely) (fun _ a hs ha => lifecycleStep_inv hs a ha) start_state_inv h k

theorem quiescent_of_workers {s : System} (h : Core s) (hworkers : s.workers = [])
    (hclosed : ∀ n, (s.listener n).isOpen = false) : Quiescent s :=
  ⟨fun n => isAlive_of_not_active (not_active_of_workers h hworkers n), hclosed⟩

theorem Inv.sound {s : System} (h : Inv s) : Sound s := by
  have hcore := h.core
  have hphase := h.phase
  constructor
  · intro v w hv hw
    rw [hcore.workerNames _ (hcore.threads v (active_of_isAlive hv)),
      hcore.workerNames _ (hcore.threads w (active_of_isAlive hw))]
  · rintro (hstopped | hstorage)
    · obtain ⟨hworkers, hclosed⟩ := hcore.stopped hstopped
      exact quiescent_of_workers hcore hworkers hclosed
    · rw [hstorage] at hphase
      exact quiescent_of_workers hcore hphase.2 (closed_of_listeners hcore hphase.1)
  · exact fun haccepting _ => hcore.accepting haccepting
  · intro r hr hraised hended
    have hhandled := hcore.handled r hr
    simp only [System.Handled, hended] at hhandled
    obtain ⟨hfailing, hstop, hstopped⟩ := hhandled hraised
    exact ⟨hfailing, hstop, fun n hn => (hstopped n hn).resolve_left List.not_mem_nil⟩
  · intro c e hidle hverify hclosing n
    rw [hidle] at hphase
    have hworkers := hphase c e rfl hverify hclosing
    exact isAlive_of_not_active (not_active_of_workers hcore hworkers n)

/-! ## Generations -/

/-- The reply of a call whose `replace` succeeded. -/
def replaced : Option Reply → Bool
  | some (.returned call) => call != .shutdown
  | _ => false

/-- The generations of the `replace` calls that have returned. -/
def System.completed (s : System) : Nat :=
  match s.phase with
  | .accept | .release => s.generation - 1
  | _ => s.generation

/-- Where the control thread can be in its call. -/
def Placed (s : System) : Prop :=
  match s.phase with
  | .idle _ => True
  | .shutdown k _ => k = .only ↔ s.call = .shutdown
  | .accept | .release => s.call ≠ .shutdown ∧ 1 ≤ s.generation
  | _ => s.call ≠ .shutdown

/-- A step that completes no `replace`. -/
def Counts (s : System) (r : Option Reply × System) : Prop :=
  r.2.completed = s.generation ∧ replaced r.1 = false ∧ Placed r.2

section
variable {s : System}

theorem raise_counts (e : Exn) : Counts s (s.raise e) := ⟨rfl, rfl, trivial⟩

theorem replaceRaises_counts (hcall : s.call ≠ .shutdown) (e : Exn) : Counts s (s.replaceRaises e) := by
  unfold System.replaceRaises
  by_cases hnested : s.nested = true
  · rw [if_pos hnested]
    exact ⟨rfl, rfl, ⟨nofun, fun h => absurd h hcall⟩⟩
  · rw [if_neg hnested]
    exact raise_counts e

theorem fails_counts (hcall : s.call ≠ .shutdown) (e : Raised) : Counts s (s.fails e) :=
  ⟨rfl, rfl, ⟨nofun, fun h => absurd h hcall⟩⟩

theorem shutdownReturns_counts {k : Kont} (hk : k = .only ↔ s.call = .shutdown) (interrupted : Bool) :
    Counts s (s.shutdownReturns interrupted k) := by
  unfold System.shutdownReturns
  cases k with
  | only =>
    have hcall := hk.1 rfl
    cases interrupted with
    | true => exact raise_counts _
    | false => exact ⟨rfl, by simp [System.ret, replaced, hcall], trivial⟩
  | beforeStorage =>
    have hcall : s.call ≠ .shutdown := fun h => nomatch hk.2 h
    cases interrupted with
    | true => exact raise_counts _
    | false => exact ⟨rfl, rfl, hcall⟩
  | beforeOpen =>
    have hcall : s.call ≠ .shutdown := fun h => nomatch hk.2 h
    cases interrupted with
    | true => exact replaceRaises_counts hcall _
    | false => exact ⟨rfl, rfl, hcall⟩
  | afterError e => exact ⟨rfl, rfl, fun h => nomatch hk.2 h⟩
  | beforeRaise e => exact raise_counts _

theorem shutdownRaises_counts {k : Kont} (hk : k = .only ↔ s.call = .shutdown) : Counts s (s.shutdownRaises k) := by
  unfold System.shutdownRaises
  cases k with
  | only => exact raise_counts _
  | beforeStorage => exact raise_counts _
  | beforeOpen => exact replaceRaises_counts (fun h => nomatch hk.2 h) _
  | afterError e => exact replaceRaises_counts (fun h => nomatch hk.2 h) _
  | beforeRaise e => exact raise_counts _

theorem shutdownStep_counts {k : Kont} {step : ShutdownStep} (hs : s.phase = .shutdown k step)
    (hk : k = .only ↔ s.call = .shutdown) (a : Answer) : Counts s (s.shutdownStep k step a) := by
  unfold System.shutdownStep
  have hstays : ∀ (t : System) step, t.generation = s.generation → t.call = s.call →
      Counts s (t.next (.shutdown k step)) := fun t step hgeneration hcall =>
    ⟨hgeneration, rfl, by show (k = .only ↔ t.call = .shutdown); rw [hcall]; exact hk⟩
  cases step with
  | setStopping => exact hstays _ _ rfl rfl
  | setStop => exact hstays _ _ rfl rfl
  | stopAdmission rest => cases rest <;> exact hstays _ _ rfl rfl
  | setReady => exact hstays _ _ rfl rfl
  | close rest interrupted =>
    cases rest with
    | nil => exact hstays _ _ rfl rfl
    | cons l rest =>
      cases a with
      | ok => exact hstays _ _ rfl rfl
      | raises e done =>
        cases e with
        | keyboardInterrupt => exact hstays _ _ rfl rfl
        | other =>
          have hraises : Counts (s.closeRaising l done) _ := shutdownRaises_counts (s := s.closeRaising l done) hk
          exact hraises
  | join rest interrupted =>
    have hwaits : Counts s (none, s) := by
      refine ⟨?_, rfl, ?_⟩
      · simp only [System.completed, hs]
      · rw [Placed, hs]
        exact hk
    cases rest with
    | nil => exact hstays _ _ rfl rfl
    | cons r rest =>
      dsimp only
      split
      · exact hstays _ _ rfl rfl
      · split
        · exact hstays _ _ rfl rfl
        · split
          · exact hstays _ _ rfl rfl
          · exact hwaits
  | dropListeners interrupted => exact hstays _ _ rfl rfl
  | dropWorkers interrupted => exact hstays _ _ rfl rfl
  | setStopped interrupted =>
    have hreturns := shutdownReturns_counts (s := { s with state := .stopped }) hk interrupted
    exact hreturns

/-- The statements of the control thread but the three at the end of a `replace`. -/
theorem otherStep_counts (h : Placed s) (hbump : s.phase ≠ .bump) (haccept : s.phase ≠ .accept)
    (hrelease : s.phase ≠ .release) (a : Answer) : Counts s (s.controlStep a) := by
  rw [Placed] at h
  cases hs : s.phase <;> simp only [hs] at h <;> simp only [System.controlStep, hs]
  case idle last => exact ⟨by simp only [System.completed, hs], rfl, by rw [Placed, hs]; trivial⟩
  case verify =>
    cases a with
    | ok => exact ⟨rfl, rfl, nofun, fun hcall => absurd hcall h⟩
    | raises e done => exact raise_counts _
  case shutdown k step => exact shutdownStep_counts hs h a
  case storage =>
    cases a with
    | ok => exact ⟨rfl, rfl, nofun, fun hcall => absurd hcall h⟩
    | raises e done => exact raise_counts _
  case clearStop => exact ⟨rfl, rfl, h⟩
  case clearReady => exact ⟨rfl, rfl, h⟩
  case construct rest =>
    cases rest with
    | nil => exact ⟨rfl, rfl, h⟩
    | cons slot rest =>
      cases a with
      | ok => exact ⟨rfl, rfl, h⟩
      | raises e done => exact fails_counts h e
  case probe =>
    cases a with
    | ok => exact ⟨rfl, rfl, h⟩
    | raises e done => exact fails_counts h e
  case loadPolicy => exact ⟨rfl, rfl, h⟩
  case openAll rest =>
    cases rest with
    | nil => exact ⟨rfl, rfl, h⟩
    | cons l rest =>
      cases a with
      | ok => exact ⟨rfl, rfl, h⟩
      | raises e done => cases done <;> exact fails_counts h e
  case spawn rest => cases rest <;> exact ⟨rfl, rfl, h⟩
  case start w rest =>
    cases a with
    | ok => exact ⟨rfl, rfl, h⟩
    | raises e created => cases created <;> exact ⟨rfl, rfl, h⟩
  case startFailed w e =>
    split
    · exact fails_counts h e
    · cases a with
      | ok => exact ⟨by simp only [System.completed, hs], rfl, by rw [Placed, hs]; exact h⟩
      | raises e' done => exact fails_counts h e
  case bump => exact absurd hs hbump
  case accept => exact absurd hs haccept
  case release => exact absurd hs hrelease
  case markFailed e =>
    have hraises := replaceRaises_counts (s := { s with state := .failed }) h e
    exact hraises

/-- A control step counts the `replace` that it completes. -/
theorem controlStep_counts (h : Placed s) (a : Answer) :
    (s.controlStep a).2.completed = s.completed + (if replaced (s.controlStep a).1 then 1 else 0) ∧
      Placed (s.controlStep a).2 := by
  by_cases hbump : s.phase = .bump
  · rw [Placed, hbump] at h
    simp only [System.controlStep, hbump]
    refine ⟨?_, h, Nat.succ_pos _⟩
    simp [System.completed, hbump, System.next, System.goto, replaced]
  by_cases haccept : s.phase = .accept
  · rw [Placed, haccept] at h
    simp only [System.controlStep, haccept]
    refine ⟨?_, h⟩
    simp [System.completed, haccept, System.next, System.goto, replaced]
  by_cases hrelease : s.phase = .release
  · rw [Placed, hrelease] at h
    have hreplaced : replaced (some (.returned s.call)) = true := by simp [replaced, h.1]
    have hgeneration := h.2
    simp only [System.controlStep, hrelease]
    refine ⟨?_, trivial⟩
    simp only [System.ret, System.completed, hrelease, System.goto, hreplaced, if_true]
    omega
  · obtain ⟨hcompleted, hreplaced, hplaced⟩ := otherStep_counts h hbump haccept hrelease a
    have hsame : s.completed = s.generation := by
      unfold System.completed
      split
      · exact absurd ‹_› haccept
      · exact absurd ‹_› hrelease
      · rfl
    rw [hcompleted, hreplaced, hsame]
    exact ⟨rfl, hplaced⟩

theorem begin_placed (call : Call) : Placed (s.begin call) ∧ (s.begin call).completed = s.generation := by
  cases call <;> refine ⟨?_, rfl⟩ <;> simp [Placed, System.begin, System.goto]

/-- One step counts the `replace` that it completes. -/
theorem lifecycleStep_counts (h : Placed s) (a : Action) :
    (lifecycleStep s a).2.completed = s.completed + (if replaced (lifecycleStep s a).1 then 1 else 0) ∧
      Placed (lifecycleStep s a).2 := by
  cases a with
  | call c =>
    cases hs : s.phase <;> simp only [lifecycleStep, hs] <;> first | exact ⟨rfl, h⟩ | skip
    obtain ⟨hplaced, hcompleted⟩ := begin_placed (s := s) c
    refine ⟨?_, hplaced⟩
    rw [hcompleted, System.completed, hs]
    rfl
  | control a => exact controlStep_counts h a
  | worker n a =>
    have e := serveStep_effect s n a
    refine ⟨?_, ?_⟩
    · show (s.serveStep n a).completed = s.completed
      rw [System.completed, System.completed, e.phase, e.generation]
    · show Placed (s.serveStep n a)
      rw [Placed, e.phase, e.call, e.generation]
      exact h

end

/-- The reply of the control call that step `k` ends, if it ends one. -/
def lifecycleReply (actions : List Action) (k : Nat) : Option (Option Reply) := replyAt lifecycleStep {} actions k

theorem completed_eq (actions : List Action) (k : Nat) :
    (systemAt actions k).completed = (List.range' 0 k).countP fun m => (lifecycleReply actions m).any replaced := by
  have hplaced : ∀ s a, Placed s → Placed (lifecycleStep s a).2 := fun s a hs => (lifecycleStep_counts hs a).2
  have hstart : Placed {} := trivial
  have hcount : (stateAt lifecycleStep {} actions (0 + k)).completed = _ :=
    stateAt_count hplaced hstart (fun s a hs => (lifecycleStep_counts hs a).1) 0 k
  rw [Nat.zero_add] at hcount
  rw [systemAt, hcount]
  exact Nat.zero_add _

/-! ## Every interleaving -/

/-- **The lifecycle is sound in every interleaving**, and between calls the generation is the number of
`replace` calls that have succeeded. -/
theorem lifecycle_sound {actions : List Action} (h : Timely actions) (k : Nat) :
    Sound (systemAt actions k) ∧
      (∀ last, (systemAt actions k).phase = .idle last → (systemAt actions k).generation =
        (List.range' 0 k).countP fun m => (lifecycleReply actions m).any replaced) := by
  refine ⟨(systemAt_inv h k).sound, fun last hlast => ?_⟩
  rw [← completed_eq, System.completed, hlast]

/-- A `replace` that meets no failure. -/
def opening : List Action := .call .replace :: List.replicate 27 (.control .ok)

theorem opening_timely : Timely opening := by
  intro k a ha w e e' done _ hcontrol
  rw [hcontrol] at ha
  have hmem := List.mem_of_getElem? ha
  simp [opening] at hmem

theorem lifecycle_sound_opening : Timely opening ∧ Sound (systemAt opening 28) ∧
    (∀ last, (systemAt opening 28).phase = .idle last → (systemAt opening 28).generation =
      (List.range' 0 28).countP fun m => (lifecycleReply opening m).any replaced) :=
  ⟨opening_timely, lifecycle_sound opening_timely 28⟩

/-- A snapshot that `verify_storage_snapshot` refuses: `restore_quiescent` raises before it shuts down. -/
def refusedRestore : List Action :=
  opening ++ [.call .restoreQuiescent, .control (.raises .other false)]

def apiWorker (answers : List Answer) : List Action := answers.map (.worker ⟨1, .api⟩)

/-- A worker fails, and a `shutdown` begins before its thread has ended. -/
def overtakenFailure : List Action :=
  opening ++ apiWorker [.ok, .ok, .raises .other false, .ok] ++ [.call .shutdown, .control .ok] ++
    apiWorker (List.replicate 8 .ok)

/-- The first `close` of a `shutdown` raises. -/
def failedClose : List Action :=
  opening ++ .call .shutdown :: List.replicate 6 (.control .ok) ++ [.control (.raises .other true)]

/-- The second `start` is interrupted after it created its thread, which does not show in time: the thread
begins to run after the handler's `_shutdown` and a `shutdown` of the operator. -/
def lateThread : List Action :=
  .call .replace :: List.replicate 22 (.control .ok) ++
    [.control (.raises .keyboardInterrupt true), .control (.raises .other false)] ++
    List.replicate 9 (.control .ok) ++ apiWorker (List.replicate 3 .ok) ++ List.replicate 7 (.control .ok) ++
    .call .shutdown :: List.replicate 9 (.control .ok) ++ [.worker ⟨1, .browser⟩ .ok]

/-- The four ways around the simple statement: a refused restore and a failed `close` raise with workers alive,
a failure can be overtaken by `shutdown`, and a late thread outlives `stopped`. -/
theorem lifecycle_exceptions :
    ((systemAt refusedRestore 30).phase = .idle (some (.raised .restoreQuiescent .verification)) ∧
      ((systemAt refusedRestore 30).worker ⟨1, .api⟩).isAlive = true) ∧
    (((systemAt overtakenFailure 42).worker ⟨1, .api⟩) = { phase := .ended, raised := true } ∧
      (systemAt overtakenFailure 42).state = .stopping) ∧
    ((systemAt failedClose 36).phase = .idle (some (.raised .shutdown .closing)) ∧
      ((systemAt failedClose 36).worker ⟨1, .api⟩).isAlive = true) ∧
    ((systemAt lateThread 55).state = .stopped ∧
      ((systemAt lateThread 55).worker ⟨1, .browser⟩).isAlive = true) := by
  decide

end ThreatFusion.Lifecycle
